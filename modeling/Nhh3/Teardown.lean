import Mathlib.Data.Finset.Basic
import Nhh3.Host
import Nhh3.Manager
import Nhh3.Lib.Steps
/-!
# Taking hosts down: Nhh3Impl.cs

The worker of a host looks at its token at the head of its loop. `Destroy` cancels
the token, waits for the task, and only then destroys the native connection;
`Uninitialize` does this host by host. All workers and the caller's thread take
turns, and a native call may be under way while others move.
-/

namespace Nhh3

open Lib

/-! ## The objects -/

/-- Where a worker is: at the head of its loop, before an action in it, in a native call on the connection at
an address, or gone. -/
inductive Task where
  | head
  | loop (w : Worker)
  | calling (w : Worker) (self : Option Nat)
  | ended
  deriving DecidableEq, Repr

/-- Who holds a `_lockObject`. -/
inductive Holder where
  | worker | caller
  deriving DecidableEq, Repr

/-- What the teardown sees of an `Nhh3Impl` object: `_cToken` is cancelled, and disposed. -/
structure ImplObject where
  hostId : Nat
  requestRetry : Bool
  requestAbort : Bool
  requestRecconect : Bool
  lockObject : Option Holder
  cancelled : Bool
  disposed : Bool
  task : Task
  deriving DecidableEq, Repr

/-- A new object, with its task started. -/
def ImplObject.new (hostId : Nat) : ImplObject where
  hostId
  requestRetry := false
  requestAbort := false
  requestRecconect := false
  lockObject := none
  cancelled := false
  disposed := false
  task := .head

/-- Where the caller's thread is: outside, in a call that holds the lock, in `Destroy` at `_task.Wait()` and at
`qwfsDestroy`, or in the loop of `Uninitialize`. `Destroy` was called by `Uninitialize` if there is a rest. -/
inductive Main where
  | idle
  | calling (a : Nat) (calls : List QwfsCall)
  | waiting (a : Nat) (rest : Option (List Nat))
  | destroying (a : Nat) (rest : Option (List Nat))
  | enumerating (rest : List Nat)

/-- The process: native code, the objects by their addresses, and the static variables. Of
`_responseForEachHost` only the keys. -/
structure Nhh3Process where
  qwfs : Qwfs
  objects : Nat → Option ImplObject
  nextObject : Nat
  nhh3ImplList : AList fun _ : Nat => Nat
  responseForEachHost : Finset Nat
  main : Main

/-- The calls that only set a flag. -/
inductive Flag where
  | retry | abort | reconnect

/-- The calls that take the lock. A `PublishRequest` that throws at a request leaves the lock with the requests
before it published, as one of these does. -/
inductive Locking where
  | publishRequest (requests : List RequestParamaters)
  | update (starts : Nat → StartIo)
  | getErrorDetail

/-- The call is `Update`. -/
def Locking.updates : Locking → Bool
  | .update _ => true
  | _ => false

/-- The native calls under the lock. -/
def Locking.calls (id : Nat) : Locking → List QwfsCall
  | .publishRequest requests => requests.map fun r => .getRequest id r.request
  | .update starts => [.getProgress id true true, .issueCallbacks id starts, .getStatus id true]
  | .getErrorDetail => [.getErrorDetail id]

/-- A turn of a thread. -/
inductive ProcessTurn where
  | initializeLibrary
  /-- `directories`: those that the options name are there, or can be created. -/
  | construct (hostName port : String) (options : QwfsOptions) (directories : Bool)
  | flag (a : Nat) (f : Flag)
  | enter (a : Nat) (f : Locking)
  | destroy (a : Nat)
  | uninitializeLibrary
  /-- The caller's thread goes on. -/
  | main
  /-- The worker of an object goes on. -/
  | worker (a : Nat) (io : UpdateIo)

/-! ## The turns -/

/-- The native call of the worker. -/
def Worker.call (id : Nat) (io : UpdateIo) : Worker → QwfsCall
  | .retry => .retry id
  | .abort => .abort id
  | .reconnect => .reconnect id io.availableDcids io.now
  | _ => .update id io

/-- Where the worker goes on after its native call. -/
def Worker.next : Worker → Task
  | .retry => .loop .takeAbort
  | .abort => .loop .takeReconnect
  | .reconnect => .loop .update
  | _ => .head

def ImplObject.set (x : ImplObject) : Flag → ImplObject
  | .retry => { x with requestRetry := true }
  | .abort => { x with requestAbort := true }
  | .reconnect => { x with requestRecconect := true }

namespace Nhh3Process

/-- Before `Initialize`. -/
def start : Nhh3Process where
  qwfs := .loaded
  objects := fun _ => none
  nextObject := 0
  nhh3ImplList := ∅
  responseForEachHost := ∅
  main := .idle

def put (s : Nhh3Process) (a : Nat) (x : ImplObject) : Nhh3Process :=
  { s with objects := Function.update s.objects a (some x) }

/-- A native call whose result is dropped. -/
def call (s : Nhh3Process) (call : QwfsCall) : Option Nhh3Process :=
  match s.qwfs.step call with
  | .ok (_, q) => some { s with qwfs := q }
  | .error _ => none

/-- The constructor. `CreateDirectory` throws after the native connection was made. For an id that is in the list
`Add` throws, and no task is started. -/
def construct (s : Nhh3Process) (hostName port : String) (options : QwfsOptions) (directories : Bool) :
    Option Nhh3Process :=
  let (id, q) := s.qwfs.create hostName port
  let s := { s with qwfs := q, responseForEachHost := insert id s.responseForEachHost }
  if directories then
    (s.call (.setOptions id options)).map fun s =>
      if id ∈ s.nhh3ImplList then s
      else { s.put s.nextObject (.new id) with
        nextObject := s.nextObject + 1, nhh3ImplList := s.nhh3ImplList.insert id s.nextObject }
  else some s

/-- Where the caller goes on after a `Destroy`. -/
def afterDestroy : Option (List Nat) → Main
  | none => .idle
  | some rest => .enumerating rest

/-- The function `Destroy`, up to `_task.Wait()`. To cancel a source that is disposed throws. -/
def destroy (s : Nhh3Process) (a : Nat) (rest : Option (List Nat)) : Option Nhh3Process := do
  let x ← s.objects a
  if x.hostId ∈ s.nhh3ImplList then
    if x.disposed then none else some { s.put a { x with cancelled := true } with main := .waiting a rest }
  else some { s with main := afterDestroy rest }

/-- The caller's thread goes on with what it is in. -/
def goOn (s : Nhh3Process) : Option Nhh3Process :=
  match s.main with
  | .idle => none
  | .calling a [] => (s.objects a).map fun x => { s.put a { x with lockObject := none } with main := .idle }
  | .calling a (c :: calls) => (s.call c).map fun s => { s with main := .calling a calls }
  | .waiting a rest => (s.objects a).bind fun x =>
    if x.task = .ended then some { s with main := .destroying a rest } else none
  | .destroying a rest => (s.objects a).map fun x =>
    { s with
      qwfs := (s.qwfs.destroy x.hostId).2, responseForEachHost := s.responseForEachHost.erase x.hostId,
      nhh3ImplList := if rest.isNone then s.nhh3ImplList.erase x.hostId else s.nhh3ImplList,
      main := afterDestroy rest }
  | .enumerating (a :: rest) => s.destroy a (some rest)
  | .enumerating [] => some { s with
      qwfs := s.qwfs.uninitializeLibrary, nhh3ImplList := ∅, responseForEachHost := ∅, main := .idle }

/-- The worker goes on in the loop of `UpdateQwfs`. -/
def work (s : Nhh3Process) (a : Nat) (io : UpdateIo) : Option Nhh3Process := do
  let x ← s.objects a
  match x.task with
  | .head =>
    if x.cancelled then return s.put a { x with task := .ended, disposed := true }
    else return s.put a { x with task := .loop .takeRetry }
  | .loop .takeRetry =>
    return s.put a { x with requestRetry := false, task := .loop (if x.requestRetry then .retry else .takeAbort) }
  | .loop .takeAbort =>
    return s.put a { x with requestAbort := false, task := .loop (if x.requestAbort then .abort else .takeReconnect) }
  | .loop .takeReconnect =>
    return s.put a { x with
      requestRecconect := false, task := .loop (if x.requestRecconect then .reconnect else .update) }
  | .loop w =>
    if x.lockObject.isNone then
      return s.put a { x with lockObject := some .worker, task := .calling w (s.qwfs.resolve x.hostId) }
    else none
  | .calling w _ => (s.call (w.call x.hostId io)).map fun s => s.put a { x with lockObject := none, task := w.next }
  | .ended => none

/-- One turn, if the thread can take it. -/
def turn (s : Nhh3Process) : ProcessTurn → Option Nhh3Process
  | .initializeLibrary =>
    match s.main with
    | .idle => some { s with qwfs := s.qwfs.initializeLibrary }
    | _ => none
  | .construct hostName port options directories =>
    match s.main with
    | .idle => s.construct hostName port options directories
    | _ => none
  | .flag a f =>
    match s.main with
    | .idle => (s.objects a).map fun x => s.put a (x.set f)
    | _ => none
  | .enter a f =>
    match s.main with
    | .idle => (s.objects a).bind fun x =>
      -- without its list `Update` throws before it takes the lock
      if x.lockObject.isNone ∧ (x.hostId ∈ s.responseForEachHost ∨ f.updates = false) then
        some { s.put a { x with lockObject := some .caller } with main := .calling a (f.calls x.hostId) }
      else none
    | _ => none
  | .destroy a =>
    match s.main with
    | .idle => s.destroy a none
    | _ => none
  | .uninitializeLibrary =>
    match s.main with
    -- newest first, where a Dictionary goes by insertion; each host is taken down the same in either order
    | .idle => some { s with main := .enumerating (s.nhh3ImplList.entries.map Sigma.snd) }
    | _ => none
  | .main => s.goOn
  | .worker a io => s.work a io

end Nhh3Process

/-- The host that the caller's thread is destroying. -/
def Main.current : Main → Option Nat
  | .waiting a _ | .destroying a _ => some a
  | _ => none

/-- The hosts that `Uninitialize` has not come to yet. -/
def Main.rest : Main → Option (List Nat)
  | .waiting _ rest | .destroying _ rest => rest
  | .enumerating rest => some rest
  | _ => none

/-- The caller's thread has not begun to destroy this host, nor has it done so. -/
def Main.Spares (a : Nat) (main : Main) : Prop := main.current ≠ some a ∧ ∀ rest, main.rest = some rest → a ∈ rest

theorem Nhh3Process.put_objects {s : Nhh3Process} {a b : Nat} {x y : ImplObject} :
    (s.put a x).objects b = some y ↔ b = a ∧ y = x ∨ b ≠ a ∧ s.objects b = some y := by
  show Function.update s.objects a (some x) b = some y ↔ _
  by_cases hb : b = a
  · subst hb
    rw [Function.update_self]
    simp [eq_comm]
  · rw [Function.update_of_ne hb]
    simp [hb]

/-- The two states of an object are the same to the other threads, but for calls under way. -/
structure ImplObject.Alike (x x' : ImplObject) : Prop where
  hostId : x'.hostId = x.hostId
  task : x'.task = .ended ↔ x.task = .ended
  disposed : x'.disposed = x.disposed
  cancelled : x'.cancelled = x.cancelled

/-! ## The ids in native code -/

/-- Every object of native code is under its own id. -/
def Qwfs.IsKeyed (q : Qwfs) : Prop := ∀ m, q.connectionManager = some m → Keyed m

section Ids
variable {q q' : Qwfs} {call : QwfsCall} {answer : Answer} {id k : Nat}

/-- No call on a connection changes what an id leads to. -/
theorem resolve_named (hk : q.IsKeyed) (hnames : call.names = some id) (hd : call.destroys = false)
    (h : q.step call = .ok (answer, q')) : (∀ k, q'.resolve k = q.resolve k) ∧ q'.IsKeyed := by
  cases change_of_step h with
  | initialized => cases hnames
  | uninitialized => cases hnames
  | created => cases hnames
  | notCreated => cases hnames
  | destroyed => cases hd
  | refused => exact ⟨fun _ => rfl, hk⟩
  | posted => exact ⟨fun _ => rfl, hk⟩
  | used hnames' hd' hm ho =>
    refine ⟨fun k => ?_, ?_⟩
    · rw [resolve_some rfl, resolve_some hm, getConnection_put]
      split
      · rename_i heq
        rw [heq, ho]
        rfl
      · rfl
    · rintro _ ⟨⟩
      have hid := (hk _ hm).ids _ _ ho
      exact (hk _ hm).put hid

/-- After a `Create` the next id leads to the new connection, unless it led to one before. -/
theorem resolve_emplaced {m : ConnectionManager} (hm : q.connectionManager = some m) (hk : Keyed m)
    (hostName port : String) (k : Nat) : (q.create hostName port).2.resolve k =
      if k = m.nextId ∧ q.resolve k = none then some q.nextConnection else q.resolve k := by
  obtain ⟨-, -, -, -, -, hget⟩ := create_spec hk q.nextConnection hostName port
  rw [create_state hm, resolve_some rfl, resolve_some hm, hget]
  cases hnext : m.getConnection m.nextId with
  | some o =>
    have hin : m.nextId ∈ m.connections := AList.lookup_isSome.1 (by
      rw [ConnectionManager.getConnection] at hnext
      rw [hnext]
      rfl)
    rw [ConnectionManager.emplace, if_pos hin, if_neg]
    rintro ⟨rfl, hnone⟩
    rw [hnext] at hnone
    cases hnone
  | none =>
    rw [getConnection_emplace hnext]
    by_cases hki : k = m.nextId
    · rw [if_pos hki, if_pos ⟨hki, by rw [hki, hnext]; rfl⟩]
      rfl
    · rw [if_neg hki, if_neg fun h => hki h.1]

/-- A `Create` leaves the ids alone that lead to a connection, and the invalid one; a valid id that it returns
leads to a connection. -/
theorem resolve_create (hk : q.IsKeyed) (hostName port : String) :
    (∀ k, q.resolve k ≠ none ∨ k = invalidQwfsId ∨ k ≠ (q.create hostName port).1 →
      (q.create hostName port).2.resolve k = q.resolve k) ∧
    ((q.create hostName port).1 ≠ invalidQwfsId →
      (q.create hostName port).2.resolve (q.create hostName port).1 ≠ none) ∧
    (q.create hostName port).2.IsKeyed := by
  cases hm : q.connectionManager with
  | none =>
    have hsame : q.create hostName port = (invalidQwfsId, q) := by simp only [Qwfs.create, hm]
    rw [hsame]
    exact ⟨fun _ _ => rfl, fun h => absurd rfl h, hk⟩
  | some m =>
    obtain ⟨hid, hvalid⟩ := create_id hm (hk m hm) hostName port
    obtain ⟨-, -, -, hkeyed, -, -⟩ := create_spec (hk m hm) q.nextConnection hostName port
    have hresolve := resolve_emplaced hm (hk m hm) hostName port
    rw [hid]
    refine ⟨fun k hcase => ?_, fun _ => ?_, ?_⟩
    · rw [hresolve, if_neg]
      rintro ⟨rfl, hnone⟩
      rcases hcase with h | h | h
      · exact h hnone
      · exact hvalid h
      · exact h rfl
    · rw [hresolve]
      split
      · exact Option.some_ne_none _
      · rename_i hled
        exact fun hnone => hled ⟨rfl, hnone⟩
    · rw [create_state hm]
      rintro _ ⟨⟩
      exact hkeyed

/-- After a `Create` an id leads where it led before, or to the connection that it made. -/
theorem resolve_created (hk : q.IsKeyed) {hostName port : String} {p : Nat}
    (h : (q.create hostName port).2.resolve k = some p) :
    q.resolve k = some p ∨ k = (q.create hostName port).1 ∧ p = q.nextConnection ∧ q.connectionManager ≠ none := by
  cases hm : q.connectionManager with
  | none =>
    simp only [Qwfs.create, hm] at h
    exact .inl h
  | some m =>
    rw [resolve_emplaced hm (hk m hm)] at h
    split at h
    · rename_i hnext
      rw [(create_id hm (hk m hm) hostName port).1]
      exact .inr ⟨hnext.1, (Option.some.inj h).symm, Option.some_ne_none m⟩
    · exact .inl h

theorem resolve_destroy (hk : q.IsKeyed) (id : Nat) :
    (∀ k, (q.destroy id).2.resolve k = if k = id then none else q.resolve k) ∧ (q.destroy id).2.IsKeyed := by
  cases hm : q.connectionManager with
  | none =>
    have hnone : ∀ k, q.resolve k = none := by
      intro k
      rw [Qwfs.resolve, Qwfs.find, hm]
      rfl
    simp only [Qwfs.destroy, hm, hnone, ite_self]
    exact ⟨fun _ => trivial, hk⟩
  | some m =>
    cases ho : m.getConnection id with
    | none =>
      simp only [Qwfs.destroy, hm, ho]
      refine ⟨fun k => ?_, hk⟩
      split
      · rename_i heq
        rw [heq, resolve_some hm, ho]
        rfl
      · rfl
    | some o =>
      simp only [Qwfs.destroy, hm, ho]
      refine ⟨fun k => ?_, ?_⟩
      · rw [resolve_some rfl, resolve_some hm, getConnection_erase]
        split <;> rfl
      · rintro _ ⟨⟩
        exact (hk m hm).erase id

theorem keyed_initialized (q : Qwfs) : q.initializeLibrary.IsKeyed := by
  rintro _ ⟨⟩
  exact ⟨by decide, fun _ _ ho => by cases ho⟩

end Ids

/-! ## What holds in every state -/

/-- What the threads rely on. The connections at some addresses may be left without a host. -/
structure Sound (left : Nat → Prop) (s : Nhh3Process) : Prop where
  fresh : ∀ a x, s.objects a = some x → a < s.nextObject
  listed : ∀ id a, s.nhh3ImplList.lookup id = some a → ∃ x, s.objects a = some x ∧ x.hostId = id
  running : ∀ a x, s.objects a = some x → x.task ≠ .ended → s.nhh3ImplList.lookup x.hostId = some a
  disposed : ∀ a x, s.objects a = some x → (x.disposed = true ↔ x.task = .ended)
  spared : ∀ id a x, s.nhh3ImplList.lookup id = some a → s.objects a = some x → s.main.Spares a →
    x.cancelled = false ∧ x.task ≠ .ended
  keyed : s.qwfs.IsKeyed
  alive : ∀ a x, s.objects a = some x → x.task ≠ .ended → x.hostId ≠ invalidQwfsId → s.qwfs.resolve x.hostId ≠ none
  known : ∀ id p, s.qwfs.resolve id = some p → id ∈ s.nhh3ImplList ∨ left p
  used : ∀ a x w self, s.objects a = some x → x.task = .calling w self → self = s.qwfs.resolve x.hostId
  byWorker : ∀ a x, s.objects a = some x → x.lockObject = some .worker → ∃ w self, x.task = .calling w self
  byCaller : ∀ a x, s.objects a = some x → x.lockObject = some .caller → ∃ calls, s.main = .calling a calls
  current : ∀ a, s.main.current = some a → ∃ x, s.objects a = some x ∧ s.nhh3ImplList.lookup x.hostId = some a ∧
    x.cancelled = true
  joined : ∀ a rest, s.main = .destroying a rest → ∃ x, s.objects a = some x ∧ x.task = .ended
  rest : ∀ l, s.main.rest = some l →
    l.Nodup ∧ ∀ a ∈ l, s.main.current ≠ some a ∧ ∃ id, s.nhh3ImplList.lookup id = some a
  swept : ∀ l, s.main.rest = some l → ∀ a x, s.objects a = some x → x.task ≠ .ended → a ∈ l ∨ s.main.current = some a
  calls : ∀ a calls, s.main = .calling a calls → ∀ c ∈ calls, ∃ id, c.names = some id ∧ c.destroys = false
  kept : ∀ id a, s.nhh3ImplList.lookup id = some a → s.main.Spares a → id ∈ s.responseForEachHost

namespace Sound
variable {left : Nat → Prop} {s s' : Nhh3Process} {a : Nat} {x x' : ImplObject} {q : Qwfs}

theorem start : Sound left .start where
  fresh _ _ h := nomatch h
  listed _ _ h := nomatch h
  running _ _ h := nomatch h
  disposed _ _ h := nomatch h
  spared _ _ _ h := nomatch h
  keyed _ h := nomatch h
  alive _ _ h := nomatch h
  known _ _ h := nomatch h
  used _ _ _ _ h := nomatch h
  byWorker _ _ h := nomatch h
  byCaller _ _ h := nomatch h
  current _ h := nomatch h
  joined _ _ h := nomatch h
  rest _ h := nomatch h
  swept _ h := nomatch h
  calls _ _ h := nomatch h
  kept _ _ h := nomatch h

/-- A native call that destroys nothing and makes nothing. -/
theorem call (h : Sound left s) (hq : ∀ id, q.resolve id = s.qwfs.resolve id)
    (hk : q.IsKeyed) : Sound left { s with qwfs := q } :=
  { h with
    keyed := hk
    alive := fun a x hx hrun hid => by
      show q.resolve _ ≠ none
      rw [hq]
      exact h.alive a x hx hrun hid
    known := fun id p hid => h.known id p ((hq id).symm.trans hid)
    used := fun a x w self hx ht => by
      show self = q.resolve _
      rw [hq]
      exact h.used a x w self hx ht }

/-- An object moves on. -/
theorem put (h : Sound left s) (hx : s.objects a = some x) (hlike : x.Alike x')
    (hused : ∀ w self, x'.task = .calling w self → self = s.qwfs.resolve x.hostId)
    (hworker : x'.lockObject = some .worker → ∃ w self, x'.task = .calling w self)
    (hcaller : x'.lockObject = some .caller → ∃ calls, s.main = .calling a calls) : Sound left (s.put a x') := by
  have hto : ∀ b y, s.objects b = some y → ∃ y', (s.put a x').objects b = some y' ∧ y.Alike y' := by
    intro b y hy
    by_cases hb : b = a
    · subst hb
      rw [hx, Option.some.injEq] at hy
      subst hy
      exact ⟨x', Nhh3Process.put_objects.2 (.inl ⟨rfl, rfl⟩), hlike⟩
    · exact ⟨y, Nhh3Process.put_objects.2 (.inr ⟨hb, hy⟩), rfl, Iff.rfl, rfl, rfl⟩
  have hfrom : ∀ b y', (s.put a x').objects b = some y' → ∃ y, s.objects b = some y ∧ y.Alike y' := by
    intro b y' hy'
    rcases Nhh3Process.put_objects.1 hy' with ⟨rfl, rfl⟩ | ⟨-, hy⟩
    · exact ⟨x, hx, hlike⟩
    · exact ⟨y', hy, rfl, Iff.rfl, rfl, rfl⟩
  constructor
  · intro b y' hy'
    obtain ⟨y, hy, -⟩ := hfrom b y' hy'
    exact h.fresh b y hy
  · intro id b hb
    obtain ⟨y, hy, hid⟩ := h.listed id b hb
    obtain ⟨y', hy', hl⟩ := hto b y hy
    exact ⟨y', hy', hl.hostId.trans hid⟩
  · intro b y' hy' hrun
    obtain ⟨y, hy, hl⟩ := hfrom b y' hy'
    rw [hl.hostId]
    exact h.running b y hy fun he => hrun (hl.task.2 he)
  · intro b y' hy'
    obtain ⟨y, hy, hl⟩ := hfrom b y' hy'
    rw [hl.disposed, hl.task]
    exact h.disposed b y hy
  · intro id b y' hb hy' hspare
    obtain ⟨y, hy, hl⟩ := hfrom b y' hy'
    rw [hl.cancelled, Ne, hl.task]
    exact h.spared id b y hb hy hspare
  · exact h.keyed
  · intro b y' hy' hrun hid
    obtain ⟨y, hy, hl⟩ := hfrom b y' hy'
    rw [hl.hostId] at hid ⊢
    exact h.alive b y hy (fun he => hrun (hl.task.2 he)) hid
  · exact h.known
  · intro b y' w self hy' ht
    rcases Nhh3Process.put_objects.1 hy' with ⟨rfl, rfl⟩ | ⟨-, hy⟩
    · rw [hlike.hostId]
      exact hused w self ht
    · exact h.used b y' w self hy ht
  · intro b y' hy' hlock
    rcases Nhh3Process.put_objects.1 hy' with ⟨rfl, rfl⟩ | ⟨-, hy⟩
    · exact hworker hlock
    · exact h.byWorker b y' hy hlock
  · intro b y' hy' hlock
    rcases Nhh3Process.put_objects.1 hy' with ⟨rfl, rfl⟩ | ⟨-, hy⟩
    · exact hcaller hlock
    · exact h.byCaller b y' hy hlock
  · intro b hb
    obtain ⟨y, hy, hlist, hcancel⟩ := h.current b hb
    obtain ⟨y', hy', hl⟩ := hto b y hy
    exact ⟨y', hy', by rw [hl.hostId]; exact hlist, hl.cancelled.trans hcancel⟩
  · intro b rest hb
    obtain ⟨y, hy, hend⟩ := h.joined b rest hb
    obtain ⟨y', hy', hl⟩ := hto b y hy
    exact ⟨y', hy', hl.task.2 hend⟩
  · exact h.rest
  · intro l hl b y' hy' hrun
    obtain ⟨y, hy, hlk⟩ := hfrom b y' hy'
    exact h.swept l hl b y hy fun he => hrun (hlk.task.2 he)
  · exact h.calls
  · exact h.kept

/-- A worker whose token is cancelled leaves its loop. -/
theorem breaks (h : Sound left s) (hx : s.objects a = some x) (hhead : x.task = .head) (hcancel : x.cancelled = true) :
    Sound left (s.put a { x with task := .ended, disposed := true }) := by
  have hrun : x.task ≠ .ended := by
    rw [hhead]
    exact nofun
  have hfrom : ∀ b y, (s.put a { x with task := .ended, disposed := true }).objects b = some y → y.task ≠ .ended →
      s.objects b = some y := by
    intro b y hy hrun
    rcases Nhh3Process.put_objects.1 hy with ⟨rfl, rfl⟩ | ⟨-, hy⟩
    · exact absurd rfl hrun
    · exact hy
  have hto : ∀ b y, s.objects b = some y → ∃ y',
      (s.put a { x with task := .ended, disposed := true }).objects b = some y' ∧ y'.hostId = y.hostId ∧
      y'.cancelled = y.cancelled ∧ (y.task = .ended → y'.task = .ended) := by
    intro b y hy
    by_cases hb : b = a
    · subst hb
      rw [hx, Option.some.injEq] at hy
      subst hy
      exact ⟨_, Nhh3Process.put_objects.2 (.inl ⟨rfl, rfl⟩), rfl, rfl, fun _ => rfl⟩
    · exact ⟨y, Nhh3Process.put_objects.2 (.inr ⟨hb, hy⟩), rfl, rfl, id⟩
  constructor
  · intro b y hy
    rcases Nhh3Process.put_objects.1 hy with ⟨rfl, -⟩ | ⟨-, hy⟩
    · exact h.fresh b x hx
    · exact h.fresh b y hy
  · intro id b hb
    obtain ⟨y, hy, hid⟩ := h.listed id b hb
    obtain ⟨y', hy', hsame, -⟩ := hto b y hy
    exact ⟨y', hy', hsame.trans hid⟩
  · intro b y hy hrun
    exact h.running b y (hfrom b y hy hrun) hrun
  · intro b y hy
    rcases Nhh3Process.put_objects.1 hy with ⟨rfl, rfl⟩ | ⟨-, hy⟩
    · simp
    · exact h.disposed b y hy
  · intro id b y hb hy hspare
    rcases Nhh3Process.put_objects.1 hy with ⟨rfl, rfl⟩ | ⟨-, hy⟩
    · -- the token of a host that is spared is not cancelled
      have hlive := (h.spared id b x hb hx hspare).1
      rw [hcancel] at hlive
      cases hlive
    · exact h.spared id b y hb hy hspare
  · exact h.keyed
  · intro b y hy hrun
    exact h.alive b y (hfrom b y hy hrun) hrun
  · exact h.known
  · intro b y w self hy ht
    exact h.used b y w self (hfrom b y hy (by rw [ht]; exact nofun)) ht
  · intro b y hy hlock
    rcases Nhh3Process.put_objects.1 hy with ⟨rfl, rfl⟩ | ⟨-, hy⟩
    · obtain ⟨w, self, ht⟩ := h.byWorker b x hx hlock
      cases hhead.symm.trans ht
    · exact h.byWorker b y hy hlock
  · intro b y hy hlock
    rcases Nhh3Process.put_objects.1 hy with ⟨rfl, rfl⟩ | ⟨-, hy⟩
    · exact h.byCaller b x hx hlock
    · exact h.byCaller b y hy hlock
  · intro b hb
    obtain ⟨y, hy, hlist, hc⟩ := h.current b hb
    obtain ⟨y', hy', hid, hcancelled, -⟩ := hto b y hy
    exact ⟨y', hy', by rw [hid]; exact hlist, hcancelled.trans hc⟩
  · intro b rest hb
    obtain ⟨y, hy, hend⟩ := h.joined b rest hb
    obtain ⟨y', hy', -, -, hkeep⟩ := hto b y hy
    exact ⟨y', hy', hkeep hend⟩
  · exact h.rest
  · intro l hl b y hy hrun
    exact h.swept l hl b y (hfrom b y hy hrun) hrun
  · exact h.calls
  · exact h.kept

/-- The caller's thread moves on, and nothing is being destroyed. -/
theorem moves (h : Sound left s) {main : Main} (hcurrent : s.main.current = none) (hrest : s.main.rest = none)
    (hcurrent' : main.current = none) (hrest' : main.rest = none)
    (hcaller : ∀ b y, s.objects b = some y → y.lockObject = some .caller → ∃ calls, main = .calling b calls)
    (hcalls : ∀ b calls, main = .calling b calls → ∀ c ∈ calls, ∃ id, c.names = some id ∧ c.destroys = false) :
    Sound left { s with main := main } :=
  { h with
    spared := fun id b y hb hy _ => h.spared id b y hb hy ⟨by rw [hcurrent]; exact nofun, by rw [hrest]; exact nofun⟩
    byCaller := hcaller
    current := fun b hb => by
      rw [show Main.current _ = none from hcurrent'] at hb
      cases hb
    joined := fun b rest hb => by
      rw [show main = _ from hb] at hcurrent'
      cases hcurrent'
    rest := fun l hl => by
      rw [show Main.rest _ = none from hrest'] at hl
      cases hl
    swept := fun l hl => by
      rw [show Main.rest _ = none from hrest'] at hl
      cases hl
    calls := hcalls
    kept := fun id b hb _ => h.kept id b hb ⟨by rw [hcurrent]; exact nofun, by rw [hrest]; exact nofun⟩ }

/-- The caller's thread takes the lock. -/
theorem locks (h : Sound left s) (hmain : s.main = .idle) (hx : s.objects a = some x) {calls : List QwfsCall}
    (hcalls : ∀ c ∈ calls, ∃ id, c.names = some id ∧ c.destroys = false) :
    Sound left { s.put a { x with lockObject := some .caller } with main := .calling a calls } := by
  -- the call is under way before the lock is taken: of no other object is the lock the caller's
  have hmoved : Sound left { s with main := .calling a calls } := by
    refine h.moves (by rw [hmain]; rfl) (by rw [hmain]; rfl) rfl rfl ?_ ?_
    · intro b y hy hlock
      obtain ⟨calls', hcalls'⟩ := h.byCaller b y hy hlock
      rw [hmain] at hcalls'
      cases hcalls'
    · rintro b calls' ⟨⟩
      exact hcalls
  exact hmoved.put hx ⟨rfl, Iff.rfl, rfl, rfl⟩ (fun w self ht => h.used a x w self hx ht) nofun fun _ => ⟨calls, rfl⟩

/-- `Destroy` cancels the token and waits. -/
theorem cancels (h : Sound left s) (hx : s.objects a = some x) (hrun : x.task ≠ .ended) {rest : Option (List Nat)}
    (hcaller : ∀ b y, s.objects b = some y → y.lockObject ≠ some .caller)
    (hcurrent : s.main.current = none) (hrest : s.main.rest = rest.map (a :: ·)) :
    Sound left { s.put a { x with cancelled := true } with main := .waiting a rest } := by
  have hlist := h.running a x hx hrun
  have hto : ∀ b y, s.objects b = some y → ∃ y', (s.put a { x with cancelled := true }).objects b = some y' ∧
      y'.hostId = y.hostId := by
    intro b y hy
    by_cases hb : b = a
    · subst hb
      rw [hx, Option.some.injEq] at hy
      subst hy
      exact ⟨_, Nhh3Process.put_objects.2 (.inl ⟨rfl, rfl⟩), rfl⟩
    · exact ⟨y, Nhh3Process.put_objects.2 (.inr ⟨hb, hy⟩), rfl⟩
  have hfrom : ∀ b y', (s.put a { x with cancelled := true }).objects b = some y' → ∃ y, s.objects b = some y ∧
      y'.hostId = y.hostId ∧ y'.task = y.task ∧ y'.disposed = y.disposed ∧ y'.lockObject = y.lockObject := by
    intro b y' hy'
    rcases Nhh3Process.put_objects.1 hy' with ⟨rfl, rfl⟩ | ⟨-, hy⟩
    · exact ⟨x, hx, rfl, rfl, rfl, rfl⟩
    · exact ⟨y', hy, rfl, rfl, rfl, rfl⟩
  have hspared : ∀ b, (Main.waiting a rest).Spares b → s.main.Spares b := by
    intro b hspare
    refine ⟨by rw [hcurrent]; exact nofun, fun l hl => ?_⟩
    rw [hrest] at hl
    obtain ⟨l', hl', rfl⟩ := Option.map_eq_some_iff.1 hl
    exact List.mem_cons_of_mem _ (hspare.2 l' hl')
  have hleft : ∀ l, rest = some l → (a :: l).Nodup ∧ ∀ b ∈ a :: l, ∃ id, s.nhh3ImplList.lookup id = some b := by
    rintro l rfl
    obtain ⟨hnodup, hmem⟩ := h.rest (a :: l) hrest
    exact ⟨hnodup, fun b hb => (hmem b hb).2⟩
  constructor
  · intro b y' hy'
    obtain ⟨y, hy, -⟩ := hfrom b y' hy'
    exact h.fresh b y hy
  · intro id b hb
    obtain ⟨y, hy, hid⟩ := h.listed id b hb
    obtain ⟨y', hy', hsame⟩ := hto b y hy
    exact ⟨y', hy', hsame.trans hid⟩
  · intro b y' hy' hr
    obtain ⟨y, hy, hid, ht, -⟩ := hfrom b y' hy'
    rw [hid]
    exact h.running b y hy (ht ▸ hr)
  · intro b y' hy'
    obtain ⟨y, hy, -, ht, hd, -⟩ := hfrom b y' hy'
    rw [hd, ht]
    exact h.disposed b y hy
  · intro id b y' hb hy' hspare
    rcases Nhh3Process.put_objects.1 hy' with ⟨rfl, rfl⟩ | ⟨-, hy⟩
    · exact absurd rfl hspare.1
    · exact h.spared id b y' hb hy (hspared b hspare)
  · exact h.keyed
  · intro b y' hy' hr hid'
    obtain ⟨y, hy, hid, ht, -⟩ := hfrom b y' hy'
    rw [hid] at hid' ⊢
    exact h.alive b y hy (ht ▸ hr) hid'
  · exact h.known
  · intro b y' w self hy' ht'
    obtain ⟨y, hy, hid, ht, -⟩ := hfrom b y' hy'
    rw [hid]
    exact h.used b y w self hy (ht ▸ ht')
  · intro b y' hy' hlock
    obtain ⟨y, hy, -, ht, -, hl⟩ := hfrom b y' hy'
    rw [ht]
    exact h.byWorker b y hy (hl ▸ hlock)
  · intro b y' hy' hlock
    obtain ⟨y, hy, -, -, -, hl⟩ := hfrom b y' hy'
    exact absurd (hl ▸ hlock) (hcaller b y hy)
  · rintro b ⟨⟩
    exact ⟨_, Nhh3Process.put_objects.2 (.inl ⟨rfl, rfl⟩), hlist, rfl⟩
  · intro b rest' hb
    cases hb
  · intro l hl
    obtain ⟨hnodup, hmem⟩ := hleft l hl
    obtain ⟨hnot, hnodup⟩ := List.nodup_cons.1 hnodup
    refine ⟨hnodup, fun b hb => ⟨?_, hmem b (List.mem_cons_of_mem _ hb)⟩⟩
    rintro ⟨⟩
    exact hnot hb
  · intro l hl b y' hy' hr
    obtain ⟨y, hy, -, ht, -⟩ := hfrom b y' hy'
    obtain rfl : rest = some l := hl
    rcases h.swept (a :: l) hrest b y hy (ht ▸ hr) with hmem | hcur
    · rcases List.mem_cons.1 hmem with rfl | hmem
      · exact .inr rfl
      · exact .inl hmem
    · rw [hcurrent] at hcur
      cases hcur
  · intro b calls hb
    cases hb
  · exact fun id b hb hspare => h.kept id b hb (hspared b hspare)

/-- The task that `Destroy` waits for has ended. -/
theorem joins (h : Sound left s) {rest : Option (List Nat)} (hmain : s.main = .waiting a rest)
    (hx : s.objects a = some x) (hend : x.task = .ended) : Sound left { s with main := .destroying a rest } := by
  have hc : s.main.current = (Main.destroying a rest).current := by rw [hmain]; rfl
  have hr : s.main.rest = (Main.destroying a rest).rest := by rw [hmain]; rfl
  exact
    { h with
      spared := fun id b y hb hy hspare =>
        h.spared id b y hb hy ⟨by rw [hc]; exact hspare.1, by rw [hr]; exact hspare.2⟩
      byCaller := fun b y hy hlock => by
        obtain ⟨calls, hcalls⟩ := h.byCaller b y hy hlock
        rw [hmain] at hcalls
        cases hcalls
      current := fun b hb => h.current b (hc.trans hb)
      joined := by
        rintro b rest' ⟨⟩
        exact ⟨x, hx, hend⟩
      rest := fun l hl => by
        have hl' := h.rest l (hr.trans hl)
        rwa [hc] at hl'
      swept := fun l hl b y hy hrun => by
        have hl' := h.swept l (hr.trans hl) b y hy hrun
        rwa [hc] at hl'
      calls := fun _ _ hb => (nomatch hb)
      kept := fun id b hb hspare => h.kept id b hb ⟨by rw [hc]; exact hspare.1, by rw [hr]; exact hspare.2⟩ }

/-- The connection is destroyed, and the caller goes on. -/
theorem destroys (h : Sound left s) {rest : Option (List Nat)} (hmain : s.main = .destroying a rest)
    (hx : s.objects a = some x) : Sound left { s with
      qwfs := (s.qwfs.destroy x.hostId).2, responseForEachHost := s.responseForEachHost.erase x.hostId,
      nhh3ImplList := if rest.isNone then s.nhh3ImplList.erase x.hostId else s.nhh3ImplList,
      main := Nhh3Process.afterDestroy rest } := by
  have hcurrent : s.main.current = some a := by
    rw [hmain]
    rfl
  have hend : x.task = .ended := by
    obtain ⟨y, hy, hend⟩ := h.joined a rest hmain
    obtain rfl : y = x := Option.some.inj (hy.symm.trans hx)
    exact hend
  have hlist : s.nhh3ImplList.lookup x.hostId = some a := by
    obtain ⟨y, hy, hlist, -⟩ := h.current a hcurrent
    obtain rfl : y = x := Option.some.inj (hy.symm.trans hx)
    exact hlist
  -- the workers that still run are of other ids
  have hother : ∀ b y, s.objects b = some y → y.task ≠ .ended → y.hostId ≠ x.hostId := by
    intro b y hy hrun heq
    have hb := h.running b y hy hrun
    rw [heq, hlist, Option.some.injEq] at hb
    subst hb
    rw [hx, Option.some.injEq] at hy
    subst hy
    exact hrun hend
  obtain ⟨hresolve, hkeyed⟩ := resolve_destroy h.keyed x.hostId
  generalize (s.qwfs.destroy x.hostId).2 = q at hresolve hkeyed ⊢
  have hlookup : ∀ id, id ≠ x.hostId → (if rest.isNone then s.nhh3ImplList.erase x.hostId
      else s.nhh3ImplList).lookup id = s.nhh3ImplList.lookup id := by
    intro id hid
    split
    · exact AList.lookup_erase_ne hid
    · rfl
  have hsub : ∀ id b, (if rest.isNone then s.nhh3ImplList.erase x.hostId else s.nhh3ImplList).lookup id = some b →
      s.nhh3ImplList.lookup id = some b ∧ (rest = none → b ≠ a) := by
    intro id b hb
    by_cases hid : id = x.hostId
    · subst hid
      cases rest with
      | none =>
        rw [Option.isNone_none, if_pos rfl, AList.lookup_erase] at hb
        cases hb
      | some l =>
        rw [Option.isNone_some, if_neg Bool.false_ne_true] at hb
        exact ⟨hb, nofun⟩
    · rw [hlookup id hid] at hb
      refine ⟨hb, fun _ heq => ?_⟩
      obtain ⟨y, hy, hyid⟩ := h.listed id b hb
      rw [heq, hx, Option.some.injEq] at hy
      subst hy
      exact hid hyid.symm
  have hrest : s.main.rest = rest := by rw [hmain]; rfl
  have hspared : ∀ b, (rest = none → b ≠ a) → (Nhh3Process.afterDestroy rest).Spares b → s.main.Spares b ∧ b ≠ a := by
    intro b hne hspare
    have hba : b ≠ a := by
      rintro rfl
      cases rest with
      | none => exact hne rfl rfl
      | some l => exact ((h.rest l hrest).2 b (hspare.2 l rfl)).1 hcurrent
    refine ⟨⟨fun hb => hba ?_, fun l hl => ?_⟩, hba⟩
    · rw [hcurrent, Option.some.injEq] at hb
      exact hb.symm
    · rw [hrest] at hl
      subst hl
      exact hspare.2 l rfl
  constructor
  · exact h.fresh
  · exact fun id b hb => h.listed id b (hsub id b hb).1
  · intro b y hy hrun
    refine (hlookup _ (hother b y hy hrun)).trans (h.running b y hy hrun)
  · exact h.disposed
  · intro id b y hb hy hspare
    obtain ⟨hb, hne⟩ := hsub id b hb
    exact h.spared id b y hb hy (hspared b hne hspare).1
  · exact hkeyed
  · intro b y hy hrun hid
    show q.resolve _ ≠ none
    rw [hresolve, if_neg (hother b y hy hrun)]
    exact h.alive b y hy hrun hid
  · intro id p hid
    have hid : q.resolve id = some p := hid
    rw [hresolve] at hid
    split at hid
    · cases hid
    · rename_i hne
      refine (h.known id p hid).imp_left fun hin => ?_
      rw [← AList.lookup_isSome] at hin ⊢
      exact (congrArg Option.isSome (hlookup id hne)).trans hin
  · intro b y w self hy ht
    show self = q.resolve _
    rw [hresolve, if_neg (hother b y hy (by rw [ht]; exact nofun))]
    exact h.used b y w self hy ht
  · exact h.byWorker
  · intro b y hy hlock
    obtain ⟨calls, hcalls⟩ := h.byCaller b y hy hlock
    rw [hmain] at hcalls
    cases hcalls
  · intro b hb
    cases rest <;> cases hb
  · intro b rest' hb
    cases rest <;> cases hb
  · intro l hl
    cases rest with
    | none => cases hl
    | some l' =>
      obtain rfl : l' = l := Option.some.inj hl
      obtain ⟨hnodup, hmem⟩ := h.rest l' hrest
      refine ⟨hnodup, fun b hb => ⟨nofun, (hmem b hb).2⟩⟩
  · intro l hl b y hy hrun
    cases rest with
    | none => cases hl
    | some l' =>
      obtain rfl : l' = l := Option.some.inj hl
      refine .inl ((h.swept l' hrest b y hy hrun).resolve_right fun hb => ?_)
      rw [hcurrent, Option.some.injEq] at hb
      subst hb
      rw [hx, Option.some.injEq] at hy
      subst hy
      exact hrun hend
  · intro b calls hb
    cases rest <;> cases hb
  · intro id b hb hspare
    obtain ⟨hb, hne⟩ := hsub id b hb
    obtain ⟨hspare, hba⟩ := hspared b hne hspare
    refine Finset.mem_erase.2 ⟨?_, h.kept id b hb hspare⟩
    rintro rfl
    exact hba (Option.some.inj (hb.symm.trans hlist))

/-- `Uninitialize` goes through the list. -/
theorem enumerates (h : Sound left s) (hmain : s.main = .idle) :
    Sound left { s with main := .enumerating (s.nhh3ImplList.entries.map Sigma.snd) } := by
  have hmem : ∀ b, b ∈ s.nhh3ImplList.entries.map Sigma.snd ↔ ∃ id, s.nhh3ImplList.lookup id = some b := by
    intro b
    simp only [List.mem_map, ← AList.mem_lookup_iff, Sigma.exists, exists_eq_right, Option.mem_def]
  have hnodup : (s.nhh3ImplList.entries.map Sigma.snd).Nodup := by
    refine List.Nodup.map_on ?_ (List.NodupKeys.nodup s.nhh3ImplList.nodupKeys)
    rintro ⟨id, b⟩ hb ⟨id', b'⟩ hb' (rfl : b = b')
    obtain ⟨y, hy, hid⟩ := h.listed id b (AList.mem_lookup_iff.2 hb)
    obtain ⟨y', hy', hid'⟩ := h.listed id' b (AList.mem_lookup_iff.2 hb')
    rw [hy, Option.some.injEq] at hy'
    subst hy'
    rw [← hid, ← hid']
  exact
    { h with
      spared := fun id b y hb hy _ => h.spared id b y hb hy ⟨by rw [hmain]; exact nofun, by rw [hmain]; exact nofun⟩
      byCaller := fun b y hy hlock => by
        obtain ⟨calls, hcalls⟩ := h.byCaller b y hy hlock
        rw [hmain] at hcalls
        cases hcalls
      current := fun _ hb => (nomatch hb)
      joined := fun _ _ hb => (nomatch hb)
      rest := by
        rintro l ⟨⟩
        exact ⟨hnodup, fun b hb => ⟨nofun, (hmem b).1 hb⟩⟩
      swept := by
        rintro l ⟨⟩ b y hy hrun
        exact .inl ((hmem b).2 ⟨y.hostId, h.running b y hy hrun⟩)
      calls := fun _ _ hb => (nomatch hb)
      kept := fun id b hb _ => h.kept id b hb ⟨by rw [hmain]; exact nofun, by rw [hmain]; exact nofun⟩ }

/-- No task runs, and no id leads to a connection: what native code does not hold cannot be missed. -/
theorem forgets (h : Sound left s) (hend : ∀ b y, s.objects b = some y → y.task = .ended)
    (hnone : ∀ id, q.resolve id = none) (hk : q.IsKeyed) (hcaller : ∀ b y, s.objects b = some y → y.lockObject ≠ some .caller) (ids : Finset Nat) :
    Sound left { s with qwfs := q, nhh3ImplList := ∅, responseForEachHost := ids, main := .idle } where
  fresh := h.fresh
  listed _ _ hb := nomatch hb
  running b y hy hrun := absurd (hend b y hy) hrun
  disposed := h.disposed
  spared _ _ _ hb := nomatch hb
  keyed := hk
  alive b y hy hrun := absurd (hend b y hy) hrun
  known id p hid := by
    cases (hnone id).symm.trans hid
  used b y w self hy ht := by
    have hb := hend b y hy
    rw [ht] at hb
    cases hb
  byWorker := h.byWorker
  byCaller b y hy hlock := absurd hlock (hcaller b y hy)
  current _ hb := nomatch hb
  joined _ _ hb := nomatch hb
  rest _ hl := nomatch hl
  swept _ hl := nomatch hl
  calls _ _ hb := nomatch hb
  kept _ _ hb := nomatch hb

/-- What a worker's call is on: a connection, or the invalid id. -/
theorem used_resolves (h : Sound left s) {b : Nat} {y : ImplObject} (hy : s.objects b = some y)
    (hrun : y.task ≠ .ended) : s.qwfs.resolve y.hostId ≠ none ∨ y.hostId = invalidQwfsId := by
  by_cases hid : y.hostId = invalidQwfsId
  · exact .inr hid
  · exact .inl (h.alive b y hy hrun hid)

/-- The constructor throws. -/
theorem refuses (h : Sound left s)
    (hsame : ∀ k, s.qwfs.resolve k ≠ none ∨ k = invalidQwfsId → q.resolve k = s.qwfs.resolve k) (hk : q.IsKeyed)
    (hknown : ∀ k p, q.resolve k = some p → k ∈ s.nhh3ImplList ∨ left p) (id : Nat) :
    Sound left { s with qwfs := q, responseForEachHost := insert id s.responseForEachHost } :=
  { h with
    keyed := hk
    alive := fun b y hy hrun hid => by
      show q.resolve _ ≠ none
      rw [hsame _ (h.used_resolves hy hrun)]
      exact h.alive b y hy hrun hid
    known := hknown
    used := fun b y w self hy ht => by
      show self = q.resolve _
      rw [hsame _ (h.used_resolves hy (by rw [ht]; exact nofun))]
      exact h.used b y w self hy ht
    kept := fun k b hb hspare => Finset.mem_insert_of_mem (h.kept k b hb hspare) }

/-- The constructor with a new id. -/
theorem constructs (h : Sound left s) (hmain : s.main = .idle) {id : Nat} (hnew : id ∉ s.nhh3ImplList)
    (hsame : ∀ k, s.qwfs.resolve k ≠ none ∨ k = invalidQwfsId → q.resolve k = s.qwfs.resolve k) (hk : q.IsKeyed)
    (halive : id ≠ invalidQwfsId → q.resolve id ≠ none)
    (hknown : ∀ k p, q.resolve k = some p → k = id ∨ k ∈ s.nhh3ImplList ∨ left p) :
    Sound left { s.put s.nextObject (.new id) with
      qwfs := q, responseForEachHost := insert id s.responseForEachHost, nextObject := s.nextObject + 1,
      nhh3ImplList := s.nhh3ImplList.insert id s.nextObject } := by
  have hfrom : ∀ b y, (s.put s.nextObject (.new id)).objects b = some y →
      b = s.nextObject ∧ y = .new id ∨ b ≠ s.nextObject ∧ s.objects b = some y :=
    fun b y hy => Nhh3Process.put_objects.1 hy
  have hold : ∀ b y, s.objects b = some y → (s.put s.nextObject (.new id)).objects b = some y := fun b y hy =>
    Nhh3Process.put_objects.2 (.inr ⟨(h.fresh b y hy).ne, hy⟩)
  have hlookup : ∀ k b, s.nhh3ImplList.lookup k = some b →
      (s.nhh3ImplList.insert id s.nextObject).lookup k = some b := by
    intro k b hb
    rw [AList.lookup_insert_ne, hb]
    rintro rfl
    exact hnew (AList.lookup_isSome.1 (by rw [hb]; rfl))
  constructor
  · intro b y hy
    rcases hfrom b y hy with ⟨rfl, -⟩ | ⟨-, hy⟩
    · exact Nat.lt_succ_self _
    · exact Nat.lt_succ_of_lt (h.fresh b y hy)
  · intro k b hb
    by_cases hki : k = id
    · subst hki
      rw [AList.lookup_insert, Option.some.injEq] at hb
      subst hb
      exact ⟨_, Nhh3Process.put_objects.2 (.inl ⟨rfl, rfl⟩), rfl⟩
    · rw [AList.lookup_insert_ne hki] at hb
      obtain ⟨y, hy, hid⟩ := h.listed k b hb
      exact ⟨y, hold b y hy, hid⟩
  · intro b y hy hrun
    rcases hfrom b y hy with ⟨rfl, rfl⟩ | ⟨-, hy⟩
    · exact AList.lookup_insert _
    · exact hlookup _ _ (h.running b y hy hrun)
  · intro b y hy
    rcases hfrom b y hy with ⟨-, rfl⟩ | ⟨-, hy⟩
    · simp [ImplObject.new]
    · exact h.disposed b y hy
  · intro k b y hb hy _
    rcases hfrom b y hy with ⟨-, rfl⟩ | ⟨hne, hy⟩
    · simp [ImplObject.new]
    · refine h.spared k b y ?_ hy ⟨by rw [hmain]; exact nofun, by rw [hmain]; exact nofun⟩
      by_cases hki : k = id
      · subst hki
        rw [AList.lookup_insert, Option.some.injEq] at hb
        exact absurd hb.symm hne
      · rwa [AList.lookup_insert_ne hki] at hb
  · exact hk
  · intro b y hy hrun hid
    rcases hfrom b y hy with ⟨-, rfl⟩ | ⟨-, hy⟩
    · exact halive hid
    · show q.resolve _ ≠ none
      rw [hsame _ (h.used_resolves hy hrun)]
      exact h.alive b y hy hrun hid
  · intro k p hres
    rw [AList.mem_insert, or_assoc]
    exact hknown k p hres
  · intro b y w self hy ht
    rcases hfrom b y hy with ⟨-, rfl⟩ | ⟨-, hy⟩
    · cases ht
    · show self = q.resolve _
      rw [hsame _ (h.used_resolves hy (by rw [ht]; exact nofun))]
      exact h.used b y w self hy ht
  · intro b y hy hlock
    rcases hfrom b y hy with ⟨-, rfl⟩ | ⟨-, hy⟩
    · cases hlock
    · exact h.byWorker b y hy hlock
  · intro b y hy hlock
    rcases hfrom b y hy with ⟨-, rfl⟩ | ⟨-, hy⟩
    · cases hlock
    · exact h.byCaller b y hy hlock
  · intro b hb
    have hb : s.main.current = some b := hb
    rw [hmain] at hb
    cases hb
  · intro b rest hb
    have hb : s.main = .destroying b rest := hb
    rw [hmain] at hb
    cases hb
  · intro l hl
    have hl : s.main.rest = some l := hl
    rw [hmain] at hl
    cases hl
  · intro l hl
    have hl : s.main.rest = some l := hl
    rw [hmain] at hl
    cases hl
  · exact h.calls
  · intro k b hb hspare
    by_cases hki : k = id
    · exact hki ▸ Finset.mem_insert_self _ _
    · rw [AList.lookup_insert_ne hki] at hb
      exact Finset.mem_insert_of_mem (h.kept k b hb hspare)

end Sound

section Turns
variable {left : Nat → Prop} {s s' : Nhh3Process} {a : Nat} {t : ProcessTurn}

/-- The condition: the library is not initialized again while there are hosts. -/
def InitializesOnce (s : Nhh3Process) : ProcessTurn → Prop
  | .initializeLibrary => s.nhh3ImplList = ∅
  | _ => True

/-- The turn is a constructor that throws and leaves behind the connection that it made. -/
def Leaves (p : Nat) (s : Nhh3Process) : ProcessTurn → Prop
  | .construct _ _ _ directories =>
    directories = false ∧ s.qwfs.connectionManager ≠ none ∧ s.qwfs.nextConnection = p
  | _ => False

/-- A constructor of the run left the connection at an address behind. -/
def LeftBehind (hist : List (Nhh3Process × ProcessTurn)) (p : Nat) : Prop := ∃ e ∈ hist, Leaves p e.1 e.2

/-- A call on a connection moves native code, and no id. -/
theorem call_spec {c : QwfsCall} {id : Nat} (hk : s.qwfs.IsKeyed) (hnames : c.names = some id) (hd : c.destroys = false)
    (hcall : s.call c = some s') :
    ∃ q, s' = { s with qwfs := q } ∧ (∀ k, q.resolve k = s.qwfs.resolve k) ∧ q.IsKeyed := by
  unfold Nhh3Process.call at hcall
  split at hcall
  · rename_i q hstep
    cases hcall
    exact ⟨q, rfl, resolve_named hk hnames hd hstep⟩
  · cases hcall

theorem Locking.calls_names {f : Locking} {id : Nat} {c : QwfsCall} (h : c ∈ f.calls id) :
    c.names = some id ∧ c.destroys = false := by
  cases f with
  | publishRequest requests =>
    obtain ⟨r, -, rfl⟩ := List.mem_map.1 h
    exact ⟨rfl, rfl⟩
  | update starts =>
    simp only [Locking.calls, List.mem_cons, List.not_mem_nil, or_false] at h
    rcases h with rfl | rfl | rfl <;> exact ⟨rfl, rfl⟩
  | getErrorDetail =>
    obtain rfl := List.mem_singleton.1 h
    exact ⟨rfl, rfl⟩

theorem Worker.call_names (w : Worker) (id : Nat) (io : UpdateIo) :
    (w.call id io).names = some id ∧ (w.call id io).destroys = false := by
  cases w <;> exact ⟨rfl, rfl⟩

/-- A worker that is not in a call goes on to another place in its loop. -/
theorem Sound.loops (h : Sound left s) {x x' : ImplObject} (hx : s.objects a = some x)
    (hbefore : x.task = .head ∨ ∃ w, x.task = .loop w) {w : Worker} (ht : x'.task = .loop w)
    (hid : x'.hostId = x.hostId) (hlock : x'.lockObject = x.lockObject) (hd : x'.disposed = x.disposed)
    (hc : x'.cancelled = x.cancelled) : Sound left (s.put a x') := by
  have hrun : x.task ≠ .ended ∧ ∀ w self, x.task ≠ .calling w self := by
    rcases hbefore with hb | ⟨v, hb⟩ <;> rw [hb] <;> exact ⟨nofun, nofun⟩
  refine h.put hx ⟨hid, ?_, hd, hc⟩ ?_ ?_ ?_
  · rw [ht]
    exact ⟨nofun, fun he => absurd he hrun.1⟩
  · intro v self hv
    rw [ht] at hv
    cases hv
  · intro hl
    obtain ⟨v, self, hv⟩ := h.byWorker a x hx (hlock ▸ hl)
    exact absurd hv (hrun.2 v self)
  · intro hl
    exact h.byCaller a x hx (hlock ▸ hl)

theorem sound_work {io : UpdateIo} (h : Sound left s) (hturn : s.work a io = some s') : Sound left s' := by
  obtain ⟨x, hx, hturn⟩ := Option.bind_eq_some_iff.1 hturn
  cases ht : x.task with
  | head =>
    rw [ht] at hturn
    dsimp only at hturn
    split at hturn
    · cases hturn
      exact h.breaks hx ht ‹_›
    · cases hturn
      exact h.loops hx (.inl ht) rfl rfl rfl rfl rfl
  | loop w =>
    rw [ht] at hturn
    have hcall : ∀ v, (if x.lockObject.isNone then
        some (s.put a { x with lockObject := some .worker, task := .calling v (s.qwfs.resolve x.hostId) })
        else none) = some s' → Sound left s' := by
      intro v hv
      split at hv
      · cases hv
        refine h.put hx ⟨rfl, ?_, rfl, rfl⟩ ?_ (fun _ => ⟨_, _, rfl⟩) nofun
        · rw [ht]
          exact ⟨nofun, nofun⟩
        · rintro _ _ ⟨⟩
          rfl
      · cases hv
    cases w with
    | takeRetry =>
      cases hturn
      exact h.loops hx (.inr ⟨_, ht⟩) rfl rfl rfl rfl rfl
    | takeAbort =>
      cases hturn
      exact h.loops hx (.inr ⟨_, ht⟩) rfl rfl rfl rfl rfl
    | takeReconnect =>
      cases hturn
      exact h.loops hx (.inr ⟨_, ht⟩) rfl rfl rfl rfl rfl
    | retry => exact hcall _ hturn
    | abort => exact hcall _ hturn
    | reconnect => exact hcall _ hturn
    | update => exact hcall _ hturn
  | calling w self =>
    rw [ht] at hturn
    obtain ⟨s₁, hs₁, rfl⟩ := Option.map_eq_some_iff.1 hturn
    obtain ⟨hnames, hd⟩ := w.call_names x.hostId io
    obtain ⟨q, rfl, hsame, hk⟩ := call_spec h.keyed hnames hd hs₁
    refine (h.call hsame hk).put hx ⟨rfl, ?_, rfl, rfl⟩ ?_ nofun nofun
    · have hnext : w.next ≠ .ended := by cases w <;> exact nofun
      rw [ht]
      exact ⟨fun he => absurd he hnext, nofun⟩
    · intro v self' hv
      cases w <;> cases hv
  | ended =>
    rw [ht] at hturn
    cases hturn

/-- No lock is the caller's unless it is in a call that holds it. -/
theorem Sound.unlocked (h : Sound left s) (hmain : ∀ b calls, s.main ≠ .calling b calls) {b : Nat} {y : ImplObject}
    (hy : s.objects b = some y) : y.lockObject ≠ some .caller := by
  intro hlock
  obtain ⟨calls, hcalls⟩ := h.byCaller b y hy hlock
  exact hmain b calls hcalls

/-- A host that `Uninitialize` has not come to is in the list. -/
theorem Sound.to_come (h : Sound left s) {l : List Nat} (hrest : s.main.rest = some l) (ha : a ∈ l) :
    ∃ x, s.objects a = some x ∧ s.nhh3ImplList.lookup x.hostId = some a := by
  obtain ⟨-, hmem⟩ := h.rest l hrest
  obtain ⟨-, id, hid⟩ := hmem a ha
  obtain ⟨x, hx, rfl⟩ := h.listed id a hid
  exact ⟨x, hx, hid⟩

/-- The beginning of a `Destroy`. -/
theorem sound_destroy {rest : Option (List Nat)} (h : Sound left s) (hcurrent : s.main.current = none)
    (hrest : s.main.rest = rest.map (a :: ·)) (hmain : ∀ b calls, s.main ≠ .calling b calls)
    (hturn : s.destroy a rest = some s') : Sound left s' := by
  obtain ⟨x, hx, hturn⟩ := Option.bind_eq_some_iff.1 hturn
  split at hturn
  · split at hturn
    · cases hturn
    · rename_i hdisposed
      cases hturn
      refine h.cancels hx (fun hend => hdisposed ((h.disposed a x hx).2 hend)) (fun b y hy => h.unlocked hmain hy)
        hcurrent hrest
  · rename_i hout
    cases hturn
    cases rest with
    | none =>
      exact h.moves hcurrent hrest rfl rfl (fun b y hy hlock => absurd hlock (h.unlocked hmain hy))
        fun _ _ hb => nomatch hb
    | some l =>
      obtain ⟨y, hy, hid⟩ := h.to_come hrest List.mem_cons_self
      obtain rfl : y = x := Option.some.inj (hy.symm.trans hx)
      exact absurd (AList.lookup_isSome.1 (by rw [hid]; rfl)) hout

theorem sound_goOn (h : Sound left s) (hturn : s.goOn = some s') : Sound left s' := by
  unfold Nhh3Process.goOn at hturn
  split at hturn
  · cases hturn
  · rename_i a hmain
    obtain ⟨x, hx, rfl⟩ := Option.map_eq_some_iff.1 hturn
    have h₁ : Sound left (s.put a { x with lockObject := none }) :=
      h.put hx ⟨rfl, Iff.rfl, rfl, rfl⟩ (fun w self ht => h.used a x w self hx ht) nofun nofun
    have hcurrent : s.main.current = none := by rw [hmain]; rfl
    have hrest : s.main.rest = none := by rw [hmain]; rfl
    refine h₁.moves hcurrent hrest rfl rfl ?_ nofun
    intro b y hy hlock
    obtain ⟨calls, hcalls⟩ := h₁.byCaller b y hy hlock
    obtain rfl : a = b := by
      have hsame : Main.calling a [] = .calling b calls := hmain.symm.trans hcalls
      injection hsame
    rcases Nhh3Process.put_objects.1 hy with ⟨-, rfl⟩ | ⟨hne, -⟩
    · cases hlock
    · exact absurd rfl hne
  · rename_i a c calls hmain
    obtain ⟨s₁, hs₁, rfl⟩ := Option.map_eq_some_iff.1 hturn
    obtain ⟨id, hnames, hd⟩ := h.calls a (c :: calls) hmain c List.mem_cons_self
    obtain ⟨q, rfl, hsame, hk⟩ := call_spec h.keyed hnames hd hs₁
    have hcurrent : s.main.current = none := by rw [hmain]; rfl
    have hrest : s.main.rest = none := by rw [hmain]; rfl
    refine (h.call hsame hk).moves hcurrent hrest rfl rfl ?_ ?_
    · intro b y hy hlock
      obtain ⟨calls', hcalls⟩ := h.byCaller b y hy hlock
      rw [hmain] at hcalls
      cases hcalls
      exact ⟨calls, rfl⟩
    · rintro b calls' ⟨⟩ c' hc'
      exact h.calls a (c :: calls) hmain c' (List.mem_cons_of_mem _ hc')
  · rename_i a rest hmain
    obtain ⟨x, hx, hturn⟩ := Option.bind_eq_some_iff.1 hturn
    split at hturn
    · cases hturn
      exact h.joins hmain hx ‹_›
    · cases hturn
  · rename_i a rest hmain
    obtain ⟨x, hx, rfl⟩ := Option.map_eq_some_iff.1 hturn
    exact h.destroys hmain hx
  · rename_i a rest hmain
    refine sound_destroy h ?_ ?_ ?_ hturn <;> rw [hmain]
    · rfl
    · rfl
    · exact nofun
  · rename_i hmain
    cases hturn
    have hnone : ∀ b y, s.objects b = some y → y.task = .ended := by
      intro b y hy
      by_contra hrun
      rcases h.swept [] (by rw [hmain]; rfl) b y hy hrun with hb | hb
      · cases hb
      · rw [hmain] at hb
        cases hb
    exact h.forgets hnone (fun _ => rfl) (fun _ hm => by cases hm)
      (fun b y hy => h.unlocked (by rw [hmain]; exact nofun) hy) ∅

theorem sound_construct {hostName port : String} {options : QwfsOptions} {directories : Bool} (h : Sound left s)
    (hmain : s.main = .idle)
    (hleft : directories = false → s.qwfs.connectionManager ≠ none → left s.qwfs.nextConnection)
    (hturn : s.construct hostName port options directories = some s') : Sound left s' := by
  obtain ⟨hsame, halive, hk⟩ := resolve_create h.keyed hostName port
  have hmade : ∀ k p, (s.qwfs.create hostName port).2.resolve k = some p →
      (k = (s.qwfs.create hostName port).1 ∧ p = s.qwfs.nextConnection ∧ s.qwfs.connectionManager ≠ none) ∨
        k ∈ s.nhh3ImplList ∨ left p := fun k p hres =>
    (resolve_created h.keyed hres).symm.imp_right (h.known k p)
  unfold Nhh3Process.construct at hturn
  dsimp only at hturn
  generalize (s.qwfs.create hostName port).1 = id at hsame halive hturn hmade
  generalize (s.qwfs.create hostName port).2 = q at hsame halive hk hturn hmade
  cases directories with
  | false =>
    cases hturn
    refine h.refuses (fun k hor => hsame k (hor.imp_right .inl)) hk (fun k p hres => ?_) id
    rcases hmade k p hres with ⟨-, rfl, hmanager⟩ | hknown
    · exact .inr (hleft rfl hmanager)
    · exact hknown
  | true =>
    obtain ⟨s₁, hs₁, hturn⟩ := Option.map_eq_some_iff.1 hturn
    obtain ⟨q₁, rfl, hsame₁, hk₁⟩ := call_spec hk rfl rfl hs₁
    dsimp only at hsame₁
    have hkept : ∀ k, s.qwfs.resolve k ≠ none ∨ k = invalidQwfsId → q₁.resolve k = s.qwfs.resolve k := by
      intro k hor
      rw [hsame₁, hsame k (hor.imp_right .inl)]
    have hknown : ∀ k p, q₁.resolve k = some p → k = id ∨ k ∈ s.nhh3ImplList ∨ left p := fun k p hres =>
      (hmade k p ((hsame₁ k).symm.trans hres)).imp_left And.left
    dsimp only at hturn
    split at hturn
    · rename_i hin
      subst hturn
      exact h.refuses hkept hk₁ (fun k p hres => (hknown k p hres).elim (fun heq => .inl (heq ▸ hin)) (·)) id
    · rename_i hnew
      subst hturn
      refine h.constructs hmain hnew hkept hk₁ (fun hid => ?_) hknown
      show q₁.resolve id ≠ none
      rw [hsame₁]
      exact halive hid

/-- What the threads rely on is kept by every turn. -/
theorem sound_turn (hturn : s.turn t = some s') (honce : InitializesOnce s t) (hleft : ∀ p, Leaves p s t → left p)
    (h : Sound left s) : Sound left s' := by
  cases t with
  | main => exact sound_goOn h hturn
  | worker a io => exact sound_work h hturn
  | initializeLibrary =>
    unfold Nhh3Process.turn at hturn
    dsimp only at hturn
    split at hturn
    · rename_i hmain
      cases hturn
      have hempty : s.nhh3ImplList = ∅ := honce
      have hend : ∀ b y, s.objects b = some y → y.task = .ended := by
        intro b y hy
        by_contra hrun
        have hin := h.running b y hy hrun
        rw [hempty] at hin
        cases hin
      have hforgot := h.forgets hend (fun _ => rfl) (keyed_initialized s.qwfs)
        (fun b y hy => h.unlocked (by rw [hmain]; exact nofun) hy) s.responseForEachHost
      rwa [← hempty, ← hmain] at hforgot
    · cases hturn
  | construct hostName port options directories =>
    unfold Nhh3Process.turn at hturn
    dsimp only at hturn
    split at hturn
    · exact sound_construct h ‹_› (fun hthrows hmanager => hleft _ ⟨hthrows, hmanager, rfl⟩) hturn
    · cases hturn
  | flag a f =>
    unfold Nhh3Process.turn at hturn
    dsimp only at hturn
    split at hturn
    · obtain ⟨x, hx, rfl⟩ := Option.map_eq_some_iff.1 hturn
      have hset : x.Alike (x.set f) ∧ (x.set f).task = x.task ∧ (x.set f).lockObject = x.lockObject := by
        cases f <;> exact ⟨⟨rfl, Iff.rfl, rfl, rfl⟩, rfl, rfl⟩
      obtain ⟨hlike, ht, hl⟩ := hset
      refine h.put hx hlike (fun w self => ?_) ?_ ?_
      · rw [ht]
        exact h.used a x w self hx
      · rw [ht, hl]
        exact h.byWorker a x hx
      · rw [hl]
        exact h.byCaller a x hx
    · cases hturn
  | enter a f =>
    unfold Nhh3Process.turn at hturn
    dsimp only at hturn
    split at hturn
    · rename_i hmain
      obtain ⟨x, hx, hturn⟩ := Option.bind_eq_some_iff.1 hturn
      split at hturn
      · cases hturn
        have hcalls : ∀ c ∈ f.calls x.hostId, ∃ id, c.names = some id ∧ c.destroys = false :=
          fun c hc => ⟨_, Locking.calls_names hc⟩
        exact h.locks hmain hx hcalls
      · cases hturn
    · cases hturn
  | destroy a =>
    unfold Nhh3Process.turn at hturn
    dsimp only at hturn
    split at hturn
    · rename_i hmain
      refine sound_destroy h ?_ ?_ ?_ hturn <;> rw [hmain]
      · rfl
      · rfl
      · exact nofun
    · cases hturn
  | uninitializeLibrary =>
    unfold Nhh3Process.turn at hturn
    dsimp only at hturn
    split at hturn
    · cases hturn
      exact h.enumerates ‹_›
    · cases hturn

theorem reachable_sound {hist : List (Nhh3Process × ProcessTurn)} (h : Steps Nhh3Process.turn .start hist s)
    (honce : ∀ e ∈ hist, InitializesOnce e.1 e.2) : Sound (LeftBehind hist) s :=
  h.inv Sound.start (K := fun s t => InitializesOnce s t ∧ ∀ p, Leaves p s t → LeftBehind hist p)
    (fun _ _ _ hturn hK => sound_turn hturn hK.1 hK.2) fun e he => ⟨honce e he, fun _ hleaves => ⟨e, he, hleaves⟩⟩

/-- What the workers and the caller can rely on, whatever turns were taken: a native call is on a connection that
its id still leads to, every connection has its host unless its constructor threw, and a host that is not being
destroyed has a running worker, an open token and its list of responses. -/
theorem teardown_safe {hist : List (Nhh3Process × ProcessTurn)} (h : Steps Nhh3Process.turn .start hist s)
    (honce : ∀ e ∈ hist, InitializesOnce e.1 e.2) :
    (∀ a x w self, s.objects a = some x → x.task = .calling w self → x.hostId ≠ invalidQwfsId →
      ∃ p, self = some p ∧ s.qwfs.resolve x.hostId = some p) ∧
    (∀ id p, s.qwfs.resolve id = some p →
      (∃ a x, s.nhh3ImplList.lookup id = some a ∧ s.objects a = some x ∧ x.hostId = id) ∨ LeftBehind hist p) ∧
    (∀ a x, s.objects a = some x → x.task ≠ .ended → s.nhh3ImplList.lookup x.hostId = some a) ∧
    ∀ id a, s.nhh3ImplList.lookup id = some a → s.main.Spares a → ∃ x, s.objects a = some x ∧ x.hostId = id ∧
      x.task ≠ .ended ∧ x.cancelled = false ∧ x.disposed = false ∧ id ∈ s.responseForEachHost ∧
      (id ≠ invalidQwfsId → s.qwfs.resolve id ≠ none) := by
  have hs := reachable_sound h honce
  refine ⟨?_, ?_, hs.running, ?_⟩
  · intro a x w self hx ht hid
    have hused := hs.used a x w self hx ht
    have halive := hs.alive a x hx (by rw [ht]; exact nofun) hid
    obtain ⟨p, hp⟩ := Option.ne_none_iff_exists'.1 halive
    exact ⟨p, hused.trans hp, hp⟩
  · intro id p hid
    refine (hs.known id p hid).imp_left fun hin => ?_
    obtain ⟨a, ha⟩ := Option.isSome_iff_exists.1 (AList.lookup_isSome.2 hin)
    obtain ⟨x, hx, hxid⟩ := hs.listed id a ha
    exact ⟨a, x, ha, hx, hxid⟩
  · intro id a ha hspare
    obtain ⟨x, hx, rfl⟩ := hs.listed id a ha
    obtain ⟨hopen, hrun⟩ := hs.spared _ a x ha hx hspare
    have hdisposed : x.disposed = false := by
      rw [Bool.eq_false_iff, Ne, hs.disposed a x hx]
      exact hrun
    exact ⟨x, hx, rfl, hrun, hopen, hdisposed, hs.kept _ a ha hspare, hs.alive a x hx hrun⟩

/-- The state after a turn that can be taken. -/
def Nhh3Process.after (s : Nhh3Process) (t : ProcessTurn) : Nhh3Process := (s.turn t).getD s

/-- One host. -/
def hosted : Nhh3Process := (Nhh3Process.start.after .initializeLibrary).after (.construct "h" "443" {} true)

/-- The turns that lead there. -/
def hosting : List (Nhh3Process × ProcessTurn) :=
  [(.start, .initializeLibrary), (Nhh3Process.start.after .initializeLibrary, .construct "h" "443" {} true)]

theorem run_hosted : Steps Nhh3Process.turn .start hosting hosted := .turn _ (.turn _ .start rfl) rfl

theorem once_hosted : ∀ e ∈ hosting, InitializesOnce e.1 e.2 := by
  simp [hosting, InitializesOnce, Nhh3Process.start]

theorem teardown_safe_update : ∃ hist s x self, Steps Nhh3Process.turn .start hist s ∧ s.objects 0 = some x ∧
    x.task = .calling .update self ∧ ∃ p, self = some p ∧ s.qwfs.resolve x.hostId = some p := by
  have hrun := Steps.turn (.worker 0 {}) (.turn (.worker 0 {}) (.turn (.worker 0 {}) (.turn (.worker 0 {})
    (.turn (.worker 0 {}) run_hosted rfl) rfl) rfl) rfl) rfl
  refine ⟨_, _, _, _, hrun, rfl, rfl, (teardown_safe hrun ?_).1 0 _ .update _ rfl rfl (by decide)⟩
  simp [hosting, InitializesOnce, Nhh3Process.start]

/-- A constructor that throws leaves a connection without a host. -/
def unfinished : Nhh3Process := (Nhh3Process.start.after .initializeLibrary).after (.construct "h" "443" {} false)

example : unfinished.qwfs.resolve 0 = some 0 ∧ unfinished.nhh3ImplList = ∅ := ⟨rfl, rfl⟩

end Turns

/-! ## Destroy comes to an end -/

/-- `Destroy` or `Uninitialize` is under way. -/
def Main.takesDown : Main → Bool
  | .idle | .calling _ _ => false
  | .waiting _ _ | .destroying _ _ | .enumerating _ => true

/-- The turns left to the caller's thread. -/
def Main.turnsLeft : Main → Nat
  | .idle | .calling _ _ => 0
  | .waiting _ rest => rest.elim 0 (3 * ·.length + 1) + 2
  | .destroying _ rest => rest.elim 0 (3 * ·.length + 1) + 1
  | .enumerating rest => 3 * rest.length + 1

/-- The turns left to a worker whose token is cancelled. -/
def Task.turnsLeft : Task → Nat
  | .loop .takeRetry => 12
  | .loop .retry => 11
  | .calling .retry _ => 10
  | .loop .takeAbort => 9
  | .loop .abort => 8
  | .calling .abort _ => 7
  | .loop .takeReconnect => 6
  | .loop .reconnect => 5
  | .calling .reconnect _ => 4
  | .loop .update => 3
  | .calling _ _ => 2
  | .head => 1
  | .ended => 0

/-- The turns left to the worker of an object. -/
def Nhh3Process.workerTurns (a : Nat) (s : Nhh3Process) : Nat := (s.objects a).elim 0 (·.task.turnsLeft)

/-- It is a turn of the caller's thread. -/
def ProcessTurn.isMain : ProcessTurn → Bool
  | .worker _ _ => false
  | _ => true

/-- It is a turn of this worker. -/
def ProcessTurn.isWorker (a : Nat) : ProcessTurn → Bool
  | .worker b _ => b == a
  | _ => false

section Ends
variable {s s' : Nhh3Process} {a b : Nat} {t : ProcessTurn} {x : ImplObject} {rest : Option (List Nat)}

theorem Task.turnsLeft_le (t : Task) : t.turnsLeft ≤ 12 := by
  cases t with
  | head => decide
  | ended => decide
  | loop w => cases w <;> decide
  | calling w self => cases w <;> simp [Task.turnsLeft]

/-- What a worker does: it moves its own object, and with a cancelled token it comes nearer to its end. -/
theorem work_spec {io : UpdateIo} (hk : s.qwfs.IsKeyed) (h : s.work a io = some s') :
    ∃ x x' q, s.objects a = some x ∧ s' = { s.put a x' with qwfs := q } ∧ x'.hostId = x.hostId ∧
      (∀ k, q.resolve k = s.qwfs.resolve k) ∧ x'.cancelled = x.cancelled ∧
      (x.cancelled = true → x'.task.turnsLeft < x.task.turnsLeft) := by
  obtain ⟨x, hx, h⟩ := Option.bind_eq_some_iff.1 h
  cases ht : x.task with
  | head =>
    rw [ht] at h
    dsimp only at h
    split at h
    · cases h
      exact ⟨x, _, s.qwfs, hx, rfl, rfl, fun _ => rfl, rfl, fun _ => by rw [ht]; exact Nat.zero_lt_one⟩
    · rename_i hopen
      cases h
      exact ⟨x, _, s.qwfs, hx, rfl, rfl, fun _ => rfl, rfl, fun hc => absurd hc hopen⟩
  | loop w =>
    rw [ht] at h
    have hcall : ∀ v, (Task.calling v (s.qwfs.resolve x.hostId)).turnsLeft < (Task.loop w).turnsLeft →
        (if x.lockObject.isNone then
          some (s.put a { x with lockObject := some .worker, task := .calling v (s.qwfs.resolve x.hostId) })
        else none) = some s' →
        ∃ x x' q, s.objects a = some x ∧ s' = { s.put a x' with qwfs := q } ∧ x'.hostId = x.hostId ∧
          (∀ k, q.resolve k = s.qwfs.resolve k) ∧ x'.cancelled = x.cancelled ∧
          (x.cancelled = true → x'.task.turnsLeft < x.task.turnsLeft) := by
      intro v hlt hv
      split at hv
      · cases hv
        exact ⟨x, _, s.qwfs, hx, rfl, rfl, fun _ => rfl, rfl, fun _ => by rw [ht]; exact hlt⟩
      · cases hv
    cases w with
    | takeRetry =>
      cases h
      refine ⟨x, _, s.qwfs, hx, rfl, rfl, fun _ => rfl, rfl, fun _ => ?_⟩
      rw [ht]
      dsimp only
      split <;> decide
    | takeAbort =>
      cases h
      refine ⟨x, _, s.qwfs, hx, rfl, rfl, fun _ => rfl, rfl, fun _ => ?_⟩
      rw [ht]
      dsimp only
      split <;> decide
    | takeReconnect =>
      cases h
      refine ⟨x, _, s.qwfs, hx, rfl, rfl, fun _ => rfl, rfl, fun _ => ?_⟩
      rw [ht]
      dsimp only
      split <;> decide
    | retry => exact hcall _ (by simp [Task.turnsLeft]) h
    | abort => exact hcall _ (by simp [Task.turnsLeft]) h
    | reconnect => exact hcall _ (by simp [Task.turnsLeft]) h
    | update => exact hcall _ (by simp [Task.turnsLeft]) h
  | calling w self =>
    rw [ht] at h
    obtain ⟨s₁, hs₁, rfl⟩ := Option.map_eq_some_iff.1 h
    obtain ⟨hnames, hd⟩ := w.call_names x.hostId io
    obtain ⟨q, rfl, hsame, -⟩ := call_spec hk hnames hd hs₁
    refine ⟨x, _, q, hx, rfl, rfl, hsame, rfl, fun _ => ?_⟩
    rw [ht]
    cases w <;> simp [Task.turnsLeft, Worker.next]
  | ended =>
    rw [ht] at h
    cases h

/-- While a host is taken down, the caller's thread goes on with that, or a worker takes its turn. -/
theorem turn_down (hdown : s.main.takesDown = true) (h : s.turn t = some s') :
    t = .main ∧ s.goOn = some s' ∨ ∃ b io, t = .worker b io ∧ s.work b io = some s' := by
  cases t with
  | main => exact .inl ⟨rfl, h⟩
  | worker b io => exact .inr ⟨b, io, rfl, h⟩
  | _ =>
    cases hm : s.main with
    | idle =>
      rw [hm] at hdown
      cases hdown
    | _ => simp only [Nhh3Process.turn, hm, reduceCtorEq] at h

/-- Each turn of the caller's thread in `Destroy` or `Uninitialize` is one less. -/
theorem goOn_turnsLeft (hdown : s.main.takesDown = true) (h : s.goOn = some s') :
    s'.main.turnsLeft < s.main.turnsLeft := by
  unfold Nhh3Process.goOn at h
  split at h
  · cases h
  · rename_i hm
    rw [hm] at hdown
    cases hdown
  · rename_i hm
    rw [hm] at hdown
    cases hdown
  · rename_i a rest hm
    obtain ⟨x, -, h⟩ := Option.bind_eq_some_iff.1 h
    split at h
    · cases h
      rw [hm]
      exact Nat.lt_succ_self _
    · cases h
  · rename_i a rest hm
    obtain ⟨x, -, rfl⟩ := Option.map_eq_some_iff.1 h
    rw [hm]
    cases rest <;> exact Nat.lt_succ_self _
  · rename_i a rest hm
    rw [hm]
    obtain ⟨x, -, h⟩ := Option.bind_eq_some_iff.1 h
    split at h
    · split at h
      · cases h
      · cases h
        simp only [Main.turnsLeft, Option.elim_some, List.length_cons]
        omega
    · cases h
      simp only [Main.turnsLeft, Nhh3Process.afterDestroy, List.length_cons]
      omega
  · rename_i hm
    cases h
    rw [hm]
    exact Nat.zero_lt_one

/-- While `Destroy` waits for a worker, a turn of it is one less, and no other turn gives it one. -/
theorem Sound.waits_turnsLeft (hs : Sound left s) (hm : s.main = .waiting a rest) (h : s.turn t = some s') :
    s'.workerTurns a ≤ s.workerTurns a ∧ (t.isWorker a = true → s'.workerTurns a < s.workerTurns a) := by
  obtain ⟨x, hx, -, hc⟩ := hs.current a (by rw [hm]; rfl)
  rcases turn_down (by rw [hm]; rfl) h with ⟨rfl, hgo⟩ | ⟨b, io, rfl, hwork⟩
  · simp only [Nhh3Process.goOn, hm, hx, Option.bind_some] at hgo
    split at hgo
    · cases hgo
      exact ⟨Nat.le_refl _, nofun⟩
    · cases hgo
  · obtain ⟨y, y', q, hy, rfl, -, -, -, hlt⟩ := work_spec hs.keyed hwork
    by_cases hba : b = a
    · subst hba
      obtain rfl : x = y := Option.some.inj (hx.symm.trans hy)
      have hafter : ({ s.put b y' with qwfs := q } : Nhh3Process).workerTurns b = y'.task.turnsLeft := by
        simp [Nhh3Process.workerTurns, Nhh3Process.put]
      have hbefore : s.workerTurns b = x.task.turnsLeft := by
        rw [Nhh3Process.workerTurns, hx]
        rfl
      rw [hafter, hbefore]
      exact ⟨Nat.le_of_lt (hlt hc), fun _ => hlt hc⟩
    · have hsame : ({ s.put b y' with qwfs := q } : Nhh3Process).workerTurns a = s.workerTurns a := by
        simp only [Nhh3Process.workerTurns, Nhh3Process.put, Function.update_of_ne (Ne.symm hba)]
      refine ⟨Nat.le_of_eq hsame, fun ht => absurd ?_ hba⟩
      simpa [ProcessTurn.isWorker] using ht

/-- A worker that has not ended is held up by nobody but the native code: the lock is free when it wants it. -/
theorem Sound.worker_goes (hs : Sound left s) (hx : s.objects a = some x) (hrun : x.task ≠ .ended)
    (hmain : ∀ b calls, s.main ≠ .calling b calls) {io : UpdateIo}
    (hreturns : ∀ w self, x.task = .calling w self → ∃ r, s.qwfs.step (w.call x.hostId io) = .ok r) :
    ∃ s', s.turn (.worker a io) = some s' := by
  show ∃ s', s.work a io = some s'
  simp only [Nhh3Process.work, hx, Option.bind_eq_bind, Option.bind_some]
  cases ht : x.task with
  | head =>
    dsimp only
    split <;> exact ⟨_, rfl⟩
  | loop w =>
    have hfree : x.lockObject.isNone = true := by
      cases hl : x.lockObject with
      | none => rfl
      | some holder =>
        cases holder with
        | caller => exact absurd hl (hs.unlocked hmain hx)
        | worker =>
          obtain ⟨v, self, hv⟩ := hs.byWorker a x hx hl
          cases ht.symm.trans hv
    cases w <;> simp only [hfree, if_true] <;> exact ⟨_, rfl⟩
  | calling w self =>
    obtain ⟨r, hr⟩ := hreturns w self ht
    simp only [Nhh3Process.call, hr, Option.map_some]
    exact ⟨_, rfl⟩
  | ended => exact absurd ht hrun

/-- Somebody can take a turn: the caller's thread, or the worker it waits for. -/
theorem Sound.goes_on (hs : Sound left s) (hdown : s.main.takesDown = true) :
    (∃ s', s.turn .main = some s') ∨ ∃ a rest x, s.main = .waiting a rest ∧ s.objects a = some x ∧
      ∀ io, (∀ w self, x.task = .calling w self → ∃ r, s.qwfs.step (w.call x.hostId io) = .ok r) →
        ∃ s', s.turn (.worker a io) = some s' := by
  cases hm : s.main with
  | idle =>
    rw [hm] at hdown
    cases hdown
  | calling a calls =>
    rw [hm] at hdown
    cases hdown
  | waiting a rest =>
    obtain ⟨x, hx, -, -⟩ := hs.current a (by rw [hm]; rfl)
    by_cases hend : x.task = .ended
    · left
      show ∃ s', s.goOn = some s'
      simp only [Nhh3Process.goOn, hm, hx, Option.bind_some, hend, if_pos]
      exact ⟨_, rfl⟩
    · exact .inr ⟨a, rest, x, rfl, hx, fun io hreturns => hs.worker_goes hx hend (by rw [hm]; exact nofun) hreturns⟩
  | destroying a rest =>
    obtain ⟨x, hx, -⟩ := hs.joined a rest hm
    left
    show ∃ s', s.goOn = some s'
    simp only [Nhh3Process.goOn, hm, hx, Option.map_some]
    exact ⟨_, rfl⟩
  | enumerating rest =>
    left
    show ∃ s', s.goOn = some s'
    cases rest with
    | nil =>
      simp only [Nhh3Process.goOn, hm]
      exact ⟨_, rfl⟩
    | cons a rest =>
      -- a host that is still to come is in the list, and its token is not disposed
      obtain ⟨x, hx, hid⟩ := hs.to_come (by rw [hm]; rfl) List.mem_cons_self
      have hin : x.hostId ∈ s.nhh3ImplList := AList.lookup_isSome.1 (by rw [hid]; rfl)
      have hspare : s.main.Spares a := by
        rw [hm]
        refine ⟨nofun, ?_⟩
        rintro _ ⟨⟩
        exact List.mem_cons_self
      have hopen : x.disposed ≠ true := by
        rw [Ne, hs.disposed a x hx]
        exact (hs.spared _ a x hid hx hspare).2
      simp only [Nhh3Process.goOn, hm, Nhh3Process.destroy, hx, Option.bind_eq_bind, Option.bind_some, hin, if_true,
        hopen, if_false, Bool.false_eq_true]
      exact ⟨_, rfl⟩

/-- While a host is taken down nothing is initialized, so what the threads rely on holds all along. -/
theorem sound_down (hturn : s.turn t = some s') (hdown : s.main.takesDown = true) (hs : Sound left s) :
    Sound left s' := by
  refine sound_turn hturn ?_ (fun id hleaves => ?_) hs <;>
    rcases turn_down hdown hturn with ⟨rfl, -⟩ | ⟨b, io, rfl, -⟩ <;> trivial

/-- `Destroy` and `Uninitialize` are never stuck, if the native calls return: the caller's thread can go on, or the
worker it waits for can. And neither takes long: `Uninitialize` takes the caller at most three turns a host, and a
worker that is waited for leaves its loop in at most twelve. -/
theorem teardown_ends {hist : List (Nhh3Process × ProcessTurn)} (h : Steps Nhh3Process.turn .start hist s)
    (honce : ∀ e ∈ hist, InitializesOnce e.1 e.2) (hdown : s.main.takesDown = true) :
    ((∃ s', s.turn .main = some s') ∨ ∃ a rest x, s.main = .waiting a rest ∧ s.objects a = some x ∧
      ∀ io, (∀ w self, x.task = .calling w self → ∃ r, s.qwfs.step (w.call x.hostId io) = .ok r) →
        ∃ s', s.turn (.worker a io) = some s') ∧
    ∀ hist' s', Steps Nhh3Process.turn s hist' s' → (∀ e ∈ hist', e.1.main.takesDown = true) →
      hist'.countP (fun e => e.2.isMain) + s'.main.turnsLeft ≤ s.main.turnsLeft ∧
      ∀ a rest, (∀ e ∈ hist', e.1.main = .waiting a rest) →
        hist'.countP (fun e => e.2.isWorker a) + s'.workerTurns a ≤ 12 := by
  have hs := reachable_sound h honce
  refine ⟨hs.goes_on hdown, fun hist' s' h' hdown' => ?_⟩
  have hall := h'.always hs (fun _ _ _ => sound_down) hdown'
  refine ⟨?_, fun a rest hwait => ?_⟩
  · refine h'.count_le ProcessTurn.isMain (fun s => s.main.turnsLeft)
      (J := fun s => s.main.takesDown = true ∧ Sound _ s) (fun e he => ⟨hdown' e he, hall e he⟩) ?_ ?_
    · rintro s₁ t s₂ hturn ⟨hd, hs₁⟩
      rcases turn_down hd hturn with ⟨-, hgo⟩ | ⟨b, io, -, hwork⟩
      · exact Nat.le_of_lt (goOn_turnsLeft hd hgo)
      · obtain ⟨x, x', q, -, rfl, -⟩ := work_spec hs₁.keyed hwork
        exact Nat.le_refl _
    · rintro s₁ t s₂ hturn ⟨hd, -⟩ ht
      rcases turn_down hd hturn with ⟨-, hgo⟩ | ⟨b, io, rfl, -⟩
      · exact goOn_turnsLeft hd hgo
      · cases ht
  · have hle : s.workerTurns a ≤ 12 := by
      unfold Nhh3Process.workerTurns
      cases s.objects a with
      | none => exact Nat.zero_le _
      | some x => exact x.task.turnsLeft_le
    refine Nat.le_trans (h'.count_le (ProcessTurn.isWorker a) (Nhh3Process.workerTurns a)
      (J := fun s => s.main = .waiting a rest ∧ Sound _ s) (fun e he => ⟨hwait e he, hall e he⟩) ?_ ?_) hle
    · rintro s₁ t s₂ hturn ⟨hm, hs₁⟩
      exact (hs₁.waits_turnsLeft hm hturn).1
    · rintro s₁ t s₂ hturn ⟨hm, hs₁⟩ ht
      exact (hs₁.waits_turnsLeft hm hturn).2 ht

/-- The host is destroyed while its worker is in the loop. -/
def awaited : Nhh3Process := (hosted.after (.worker 0 {})).after (.destroy 0)

/-- The worker has left the loop. -/
def endedWorker : Nhh3Process :=
  (((((awaited.after (.worker 0 {})).after (.worker 0 {})).after (.worker 0 {})).after (.worker 0 {})).after
    (.worker 0 {})).after (.worker 0 {})

theorem teardown_ends_destroy : ∃ hist, Steps Nhh3Process.turn awaited hist endedWorker ∧
    hist.countP (fun e => e.2.isWorker 0) + endedWorker.workerTurns 0 ≤ 12 := by
  have hrun : Steps Nhh3Process.turn .start _ awaited := .turn (.destroy 0) (.turn (.worker 0 {}) run_hosted rfl) rfl
  have hwait : Steps Nhh3Process.turn awaited _ endedWorker :=
    .turn (.worker 0 {}) (.turn (.worker 0 {}) (.turn (.worker 0 {}) (.turn (.worker 0 {})
      (.turn (.worker 0 {}) (.turn (.worker 0 {}) .start rfl) rfl) rfl) rfl) rfl) rfl
  have hends := teardown_ends hrun (by simp [hosting, InitializesOnce, Nhh3Process.start]) rfl
  refine ⟨_, hwait, (hends.2 _ _ hwait (by decide)).2 0 none ?_⟩
  simp only [List.nil_append, List.cons_append, List.forall_mem_cons, List.not_mem_nil, false_imp_iff, implies_true,
    and_true]
  exact ⟨rfl, rfl, rfl, rfl, rfl, rfl⟩

end Ends

/-! ## What is gone afterwards -/

section Gone
variable {left : Nat → Prop} {s s' s₁ : Nhh3Process} {a b : Nat} {t : ProcessTurn} {x : ImplObject}
  {rest : Option (List Nat)}

/-- The hosts are the same in both states. -/
structure SameHosts (s s' : Nhh3Process) : Prop where
  list : s'.nhh3ImplList = s.nhh3ImplList
  responses : s'.responseForEachHost = s.responseForEachHost
  resolve : ∀ k, s'.qwfs.resolve k = s.qwfs.resolve k
  ids : ∀ b y, s.objects b = some y → ∃ y', s'.objects b = some y' ∧ y'.hostId = y.hostId

theorem SameHosts.refl (s : Nhh3Process) : SameHosts s s := ⟨rfl, rfl, fun _ => rfl, fun _ y hy => ⟨y, hy, rfl⟩⟩

theorem SameHosts.trans (h : SameHosts s s') (h' : SameHosts s' s₁) : SameHosts s s₁ where
  list := h'.list.trans h.list
  responses := h'.responses.trans h.responses
  resolve k := (h'.resolve k).trans (h.resolve k)
  ids b y hy := by
    obtain ⟨y', hy', hid⟩ := h.ids b y hy
    obtain ⟨y₁, hy₁, hid₁⟩ := h'.ids b y' hy'
    exact ⟨y₁, hy₁, hid₁.trans hid⟩

theorem sameHosts_put (hx : s.objects a = some x) {x' : ImplObject} (hid : x'.hostId = x.hostId) :
    SameHosts s (s.put a x') := by
  refine ⟨rfl, rfl, fun _ => rfl, fun b y hy => ?_⟩
  by_cases hb : b = a
  · subst hb
    obtain rfl : x = y := Option.some.inj (hx.symm.trans hy)
    exact ⟨x', Nhh3Process.put_objects.2 (.inl ⟨rfl, rfl⟩), hid⟩
  · exact ⟨y, Nhh3Process.put_objects.2 (.inr ⟨hb, hy⟩), rfl⟩

theorem sameHosts_work {io : UpdateIo} (hs : Sound left s) (h : s.work b io = some s') :
    SameHosts s s' ∧ s'.main = s.main := by
  obtain ⟨x, x', q, hx, rfl, hid, hresolve, -⟩ := work_spec hs.keyed h
  have hput := sameHosts_put hx hid
  exact ⟨⟨hput.list, hput.responses, hresolve, hput.ids⟩, rfl⟩

/-- How far a `Destroy` of a host has got that was called in the state `s`. -/
def Destroying (s : Nhh3Process) (a id : Nat) (s' : Nhh3Process) : Prop :=
  (s'.main = .waiting a none ∨ s'.main = .destroying a none) ∧ SameHosts s s' ∨
  s'.main = .idle ∧ s'.nhh3ImplList = s.nhh3ImplList.erase id ∧
    s'.responseForEachHost = s.responseForEachHost.erase id ∧
    (∀ k, s'.qwfs.resolve k = if k = id then none else s.qwfs.resolve k) ∧
    ∀ b y, s.objects b = some y → ∃ y', s'.objects b = some y' ∧ y'.hostId = y.hostId

theorem destroying_turn (hs : Sound left s₁) (hx : s.objects a = some x) (h : Destroying s a x.hostId s₁)
    (hdown : s₁.main.takesDown = true) (hturn : s₁.turn t = some s') : Destroying s a x.hostId s' := by
  rcases h with ⟨hmain, hsame⟩ | ⟨hmain, -⟩
  · obtain ⟨x₁, hx₁, hid₁⟩ := hsame.ids a x hx
    rcases turn_down hdown hturn with ⟨-, hgo⟩ | ⟨b, io, -, hwork⟩
    · rcases hmain with hmain | hmain
      · simp only [Nhh3Process.goOn, hmain, hx₁, Option.bind_some] at hgo
        split at hgo
        · cases hgo
          exact .inl ⟨.inr rfl, hsame.list, hsame.responses, hsame.resolve, hsame.ids⟩
        · cases hgo
      · simp only [Nhh3Process.goOn, hmain, hx₁, Option.map_some, Option.some.injEq] at hgo
        subst hgo
        refine .inr ⟨rfl, ?_, ?_, fun k => ?_, hsame.ids⟩
        · rw [hid₁, ← hsame.list]
          rfl
        · rw [hid₁, ← hsame.responses]
        · rw [← hid₁, ← hsame.resolve]
          exact (resolve_destroy hs.keyed x₁.hostId).1 k
    · obtain ⟨hwork, hkept⟩ := sameHosts_work hs hwork
      rw [← hkept] at hmain
      exact .inl ⟨hmain, hsame.trans hwork⟩
  · rw [hmain] at hdown
    cases hdown

/-- A `Destroy` that has come to its end has taken down its host and no other, whatever the workers did meanwhile:
the connection, the entries and the worker of the host are gone, and the other hosts still run. -/
theorem destroy_exact {hist hist' : List (Nhh3Process × ProcessTurn)} (h : Steps Nhh3Process.turn .start hist s)
    (honce : ∀ e ∈ hist, InitializesOnce e.1 e.2) (hx : s.objects a = some x)
    (hlist : s.nhh3ImplList.lookup x.hostId = some a) (hmain : s.main = .idle)
    (hdestroy : s.turn (.destroy a) = some s₁) (h' : Steps Nhh3Process.turn s₁ hist' s')
    (hdown : ∀ e ∈ hist', e.1.main.takesDown = true) (hover : s'.main = .idle) :
    s'.nhh3ImplList = s.nhh3ImplList.erase x.hostId ∧
    s'.responseForEachHost = s.responseForEachHost.erase x.hostId ∧
    (∀ k, s'.qwfs.resolve k = if k = x.hostId then none else s.qwfs.resolve k) ∧
    (∃ x', s'.objects a = some x' ∧ x'.task = .ended) ∧
    ∀ b y, b ≠ a → s.objects b = some y → y.task ≠ .ended →
      ∃ y', s'.objects b = some y' ∧ y'.hostId = y.hostId ∧ y'.task ≠ .ended ∧ y'.cancelled = false := by
  have hs := reachable_sound h honce
  have hs₁ := sound_turn hdestroy trivial (fun _ => False.elim) hs
  have hbegun : Destroying s a x.hostId s₁ := by
    have hin : x.hostId ∈ s.nhh3ImplList := AList.lookup_isSome.1 (by rw [hlist]; rfl)
    simp only [Nhh3Process.turn, hmain, Nhh3Process.destroy, hx, Option.bind_eq_bind, Option.bind_some, hin,
      if_true] at hdestroy
    split at hdestroy
    · cases hdestroy
    · cases hdestroy
      have hput : SameHosts s (s.put a { x with cancelled := true }) := sameHosts_put hx rfl
      exact .inl ⟨.inl rfl, rfl, rfl, fun _ => rfl, hput.ids⟩
  obtain ⟨hs', hdone⟩ := h'.inv (J := fun s₂ => Sound _ s₂ ∧ Destroying s a x.hostId s₂) ⟨hs₁, hbegun⟩
    (fun s₁ t s' hturn hd hJ => ⟨sound_down hturn hd hJ.1, destroying_turn hJ.1 hx hJ.2 hd hturn⟩) hdown
  rcases hdone with ⟨hmain', -⟩ | ⟨-, hlist', hresponses, hresolve, hids⟩
  · rw [hover] at hmain'
    rcases hmain' with hm | hm <;> cases hm
  refine ⟨hlist', hresponses, hresolve, ?_, ?_⟩
  · obtain ⟨x', hx', hid⟩ := hids a x hx
    refine ⟨x', hx', ?_⟩
    by_contra hrun
    have hin := hs'.running a x' hx' hrun
    rw [hlist', hid, AList.lookup_erase] at hin
    cases hin
  · intro b y hb hy hrun
    have hin := hs.running b y hy hrun
    have hne : y.hostId ≠ x.hostId := by
      intro heq
      rw [heq, hlist] at hin
      exact hb (Option.some.inj hin).symm
    have hin' : s'.nhh3ImplList.lookup y.hostId = some b := by
      rw [hlist', AList.lookup_erase_ne hne, hin]
    obtain ⟨y', hy', hid⟩ := hs'.listed y.hostId b hin'
    obtain ⟨hopen, hrun'⟩ := hs'.spared _ b y' hin' hy' (by rw [hover]; exact ⟨nofun, nofun⟩)
    exact ⟨y', hy', hid, hrun', hopen⟩

/-- Two hosts, and the first is destroyed. -/
def twoHosted : Nhh3Process := hosted.after (.construct "i" "443" {} true)

def twoDestroyed : Nhh3Process :=
  (((twoHosted.after (.destroy 0)).after (.worker 0 {})).after .main).after .main

theorem destroy_exact_two : twoDestroyed.nhh3ImplList = twoHosted.nhh3ImplList.erase 0 ∧
    twoDestroyed.qwfs.resolve 0 = none ∧ ∃ y, twoDestroyed.objects 1 = some y ∧ y.hostId = 1 ∧ y.task ≠ .ended := by
  have hrun : Steps Nhh3Process.turn .start _ twoHosted := .turn (.construct "i" "443" {} true) run_hosted rfl
  have hend : Steps Nhh3Process.turn (twoHosted.after (.destroy 0)) _ twoDestroyed :=
    .turn .main (.turn .main (.turn (.worker 0 {}) .start rfl) rfl) rfl
  have honce : ∀ e ∈ hosting ++ [(hosted, .construct "i" "443" {} true)], InitializesOnce e.1 e.2 := by
    simp [hosting, InitializesOnce, Nhh3Process.start]
  have hdestroy : twoHosted.turn (.destroy 0) = some (twoHosted.after (.destroy 0)) := rfl
  obtain ⟨hlist, -, hresolve, -, hothers⟩ := destroy_exact hrun honce rfl rfl rfl hdestroy hend (by decide) rfl
  obtain ⟨y, hy, hid, hrunning, -⟩ := hothers 1 (.new 1) (by decide) rfl (by decide)
  exact ⟨hlist, hresolve 0, y, hy, hid, hrunning⟩

/-- How far an `Uninitialize` has got: native code has the hosts that are still to come, the one in hand, and what
was left there without a host. -/
def Uninitializing (left : Nat → Prop) (s : Nhh3Process) : Prop :=
  (∃ l, s.main.rest = some l ∧ ∀ id p, s.qwfs.resolve id = some p →
    (∃ b, s.nhh3ImplList.lookup id = some b ∧ (b ∈ l ∨ s.main.current = some b)) ∨ left p) ∨
  s.main = .idle ∧ s.nhh3ImplList = ∅ ∧ s.responseForEachHost = ∅ ∧ ∀ id, s.qwfs.resolve id = none

theorem uninitializing_turn (hs : Sound left s) (h : Uninitializing left s) (hdown : s.main.takesDown = true)
    (hturn : s.turn t = some s') : Uninitializing left s' := by
  rcases h with ⟨l, hrest, hleft⟩ | ⟨hmain, -⟩
  · rcases turn_down hdown hturn with ⟨-, hgo⟩ | ⟨b, io, -, hwork⟩
    · cases hm : s.main with
      | idle =>
        rw [hm] at hrest
        cases hrest
      | calling a calls =>
        rw [hm] at hrest
        cases hrest
      | waiting a rest =>
        rw [hm] at hrest hleft
        obtain rfl : rest = some l := hrest
        simp only [Nhh3Process.goOn, hm] at hgo
        obtain ⟨x, -, hgo⟩ := Option.bind_eq_some_iff.1 hgo
        split at hgo
        · cases hgo
          exact .inl ⟨l, rfl, hleft⟩
        · cases hgo
      | destroying a rest =>
        rw [hm] at hrest hleft
        obtain rfl : rest = some l := hrest
        simp only [Nhh3Process.goOn, hm] at hgo
        obtain ⟨x, hx, rfl⟩ := Option.map_eq_some_iff.1 hgo
        refine .inl ⟨l, rfl, fun id p hid => ?_⟩
        have hid : (s.qwfs.destroy x.hostId).2.resolve id = some p := hid
        rw [(resolve_destroy hs.keyed x.hostId).1] at hid
        split at hid
        · cases hid
        · rename_i hne
          refine (hleft id p hid).imp_left ?_
          rintro ⟨b, hb, hor⟩
          refine ⟨b, hb, .inl (hor.resolve_right ?_)⟩
          -- the host in hand is the one that is destroyed
          rintro ⟨⟩
          obtain ⟨y, hy, hyid⟩ := hs.listed id a hb
          obtain rfl : x = y := Option.some.inj (hx.symm.trans hy)
          exact hne hyid.symm
      | enumerating rest =>
        rw [hm] at hrest hleft
        obtain rfl : rest = l := Option.some.inj hrest
        cases rest with
        | nil =>
          simp only [Nhh3Process.goOn, hm] at hgo
          cases hgo
          exact .inr ⟨rfl, rfl, rfl, fun _ => rfl⟩
        | cons a rest =>
          obtain ⟨x, hx, hid⟩ := hs.to_come (by rw [hm]; rfl) List.mem_cons_self
          have hin : x.hostId ∈ s.nhh3ImplList := AList.lookup_isSome.1 (by rw [hid]; rfl)
          simp only [Nhh3Process.goOn, hm, Nhh3Process.destroy, hx, Option.bind_eq_bind, Option.bind_some, hin,
            if_true] at hgo
          split at hgo
          · cases hgo
          · cases hgo
            refine .inl ⟨rest, rfl, fun id p hid => (hleft id p hid).imp_left ?_⟩
            rintro ⟨b, hb, hor⟩
            refine ⟨b, hb, ?_⟩
            rcases hor with hor | hor
            · rcases List.mem_cons.1 hor with rfl | hor
              · exact .inr rfl
              · exact .inl hor
            · cases hor
    · obtain ⟨hsame, hkept⟩ := sameHosts_work hs hwork
      refine .inl ⟨l, by rw [hkept]; exact hrest, fun id p hid => ?_⟩
      rw [hsame.list, hkept]
      exact hleft id p ((hsame.resolve id).symm.trans hid)
  · rw [hmain] at hdown
    cases hdown

/-- An `Uninitialize` that has come to its end has left nothing, whatever the workers did meanwhile; and when it frees
the native library the only connections left there are those of constructors that threw, which no worker uses. -/
theorem uninitialize_exact {hist hist' : List (Nhh3Process × ProcessTurn)} (h : Steps Nhh3Process.turn .start hist s)
    (honce : ∀ e ∈ hist, InitializesOnce e.1 e.2) (hunload : s.turn .uninitializeLibrary = some s₁)
    (h' : Steps Nhh3Process.turn s₁ hist' s') (hdown : ∀ e ∈ hist', e.1.main.takesDown = true)
    (hover : s'.main = .idle) :
    (∀ e ∈ hist', e.1.main = .enumerating [] → (∀ b y, e.1.objects b = some y → y.task = .ended) ∧
      ∀ id p, e.1.qwfs.resolve id = some p → LeftBehind hist p) ∧
    s'.nhh3ImplList = ∅ ∧ s'.responseForEachHost = ∅ ∧ (∀ id, s'.qwfs.resolve id = none) ∧
    ∀ b y, s'.objects b = some y → y.task = .ended := by
  have hs := reachable_sound h honce
  have hs₁ := sound_turn hunload trivial (fun _ => False.elim) hs
  have hbegun : Uninitializing (LeftBehind hist) s₁ := by
    unfold Nhh3Process.turn at hunload
    dsimp only at hunload
    split at hunload
    · cases hunload
      refine .inl ⟨_, rfl, fun id p hid => (hs.known id p hid).imp_left fun hin => ?_⟩
      obtain ⟨b, hb⟩ := Option.isSome_iff_exists.1 (AList.lookup_isSome.2 hin)
      exact ⟨b, hb, .inl (List.mem_map.2 ⟨⟨id, b⟩, AList.mem_lookup_iff.1 hb, rfl⟩)⟩
    · cases hunload
  have hstep : ∀ s₁ t s', Nhh3Process.turn s₁ t = some s' → s₁.main.takesDown = true →
      Sound (LeftBehind hist) s₁ ∧ Uninitializing (LeftBehind hist) s₁ →
      Sound (LeftBehind hist) s' ∧ Uninitializing (LeftBehind hist) s' := fun s₁ t s' hturn hd hJ =>
    ⟨sound_down hturn hd hJ.1, uninitializing_turn hJ.1 hJ.2 hd hturn⟩
  refine ⟨fun e he hm => ?_, ?_⟩
  · obtain ⟨hs₂, ⟨l, hrest, hleft⟩ | ⟨hidle, -⟩⟩ := h'.always ⟨hs₁, hbegun⟩ hstep hdown e he
    · refine ⟨fun b y hy => ?_, fun id p hid => ?_⟩
      · by_contra hrun
        rcases hs₂.swept [] (by rw [hm]; rfl) b y hy hrun with hb | hb
        · cases hb
        · rw [hm] at hb
          cases hb
      · rw [hm] at hrest hleft
        obtain rfl : [] = l := Option.some.inj hrest
        refine (hleft id p hid).resolve_left ?_
        rintro ⟨b, -, hb | hb⟩ <;> cases hb
    · rw [hm] at hidle
      cases hidle
  · obtain ⟨hs', ⟨l, hrest, -⟩ | ⟨-, hlist, hresponses, hnone⟩⟩ := h'.inv ⟨hs₁, hbegun⟩ hstep hdown
    · rw [hover] at hrest
      cases hrest
    · refine ⟨hlist, hresponses, hnone, fun b y hy => ?_⟩
      by_contra hrun
      have hin := hs'.running b y hy hrun
      rw [hlist] at hin
      cases hin

/-- The host is destroyed with the library. -/
def unhosted : Nhh3Process :=
  (((((hosted.after .uninitializeLibrary).after .main).after (.worker 0 {})).after .main).after .main).after .main

theorem uninitialize_exact_host : unhosted.nhh3ImplList = ∅ ∧ unhosted.qwfs.resolve 0 = none ∧
    ∀ b y, unhosted.objects b = some y → y.task = .ended := by
  have hend : Steps Nhh3Process.turn (hosted.after .uninitializeLibrary) _ unhosted :=
    .turn .main (.turn .main (.turn .main (.turn (.worker 0 {}) (.turn .main .start rfl) rfl) rfl) rfl) rfl
  obtain ⟨-, hlist, -, hnone, hended⟩ := uninitialize_exact run_hosted once_hosted rfl hend (by decide) rfl
  exact ⟨hlist, hnone 0, hended⟩

/-- Without the condition: with host 0 still there, an `Initialize` takes every connection away and no host. The next
constructor is given the id 0 again; it throws, and the worker of the old host goes on with the new connection. -/
theorem reinitialize_adopts {hist : List (Nhh3Process × ProcessTurn)} (h : Steps Nhh3Process.turn .start hist s)
    (honce : ∀ e ∈ hist, InitializesOnce e.1 e.2) (hlist : s.nhh3ImplList.lookup 0 = some a)
    (hinit : s.turn .initializeLibrary = some s₁) {hostName port : String} {options : QwfsOptions} {directories : Bool}
    (hconstruct : s₁.turn (.construct hostName port options directories) = some s') :
    s'.nhh3ImplList = s.nhh3ImplList ∧ s'.responseForEachHost = s.responseForEachHost ∧ s'.objects = s.objects ∧
    (∃ x, s'.objects a = some x ∧ x.hostId = 0 ∧ x.task ≠ .ended ∧ x.cancelled = false) ∧
    ∀ k, s'.qwfs.resolve k = if k = 0 then some s.qwfs.nextConnection else none := by
  have hs := reachable_sound h honce
  unfold Nhh3Process.turn at hinit
  dsimp only at hinit
  split at hinit
  · rename_i hmain
    cases hinit
    obtain ⟨x, hx, hid⟩ := hs.listed 0 a hlist
    obtain ⟨hopen, hrun⟩ := hs.spared 0 a x hlist hx (by rw [hmain]; exact ⟨nofun, nofun⟩)
    have hk := keyed_initialized s.qwfs
    obtain ⟨hnew, -⟩ := create_id (q := s.qwfs.initializeLibrary) rfl (hk _ rfl) hostName port
    obtain ⟨-, -, hkeyed⟩ := resolve_create hk hostName port
    have hfresh : ∀ k, (s.qwfs.initializeLibrary.create hostName port).2.resolve k =
        if k = 0 then some s.qwfs.nextConnection else none := by
      intro k
      rw [resolve_emplaced rfl (hk _ rfl)]
      exact if_congr (and_iff_left rfl) rfl rfl
    have hkept : insert 0 s.responseForEachHost = s.responseForEachHost :=
      Finset.insert_eq_of_mem (hs.kept 0 a hlist (by rw [hmain]; exact ⟨nofun, nofun⟩))
    simp only [Nhh3Process.turn, hmain, Nhh3Process.construct, hnew] at hconstruct
    split at hconstruct
    · obtain ⟨s₂, hs₂, hconstruct⟩ := Option.map_eq_some_iff.1 hconstruct
      obtain ⟨q, rfl, hsame, -⟩ := call_spec hkeyed rfl rfl hs₂
      have hin : 0 ∈ s.nhh3ImplList := AList.lookup_isSome.1 (by rw [hlist]; rfl)
      split at hconstruct
      · subst hconstruct
        exact ⟨rfl, hkept, rfl, ⟨x, hx, hid, hrun, hopen⟩, fun k => (hsame k).trans (hfresh k)⟩
      · rename_i hout
        exact absurd hin hout
    · cases hconstruct
      exact ⟨rfl, hkept, rfl, ⟨x, hx, hid, hrun, hopen⟩, hfresh⟩
  · cases hinit

/-- The library is initialized once more, and a host constructed. -/
def reopened : Nhh3Process := hosted.after .initializeLibrary

def rehosted : Nhh3Process := reopened.after (.construct "i" "443" {} true)

theorem reinitialize_adopts_host : rehosted.nhh3ImplList = hosted.nhh3ImplList ∧ rehosted.qwfs.resolve 0 = some 1 := by
  have hconstruct : reopened.turn (.construct "i" "443" {} true) = some rehosted := rfl
  obtain ⟨hlist, -, -, -, hresolve⟩ := reinitialize_adopts run_hosted once_hosted rfl rfl hconstruct
  exact ⟨hlist, hresolve 0⟩

end Gone

end Nhh3
