import Mathlib.Logic.Function.Basic
import Nhh3.Host
import Nhh3.Lib.Thread
import Nhh3.Managed
/-!
# The threads of all hosts: Nhh3Impl.cs

All `Nhh3Impl`s share the static callbacks and one dictionary of lists, one for
each host, which `Update` clears, has filled by the callbacks, and returns. The
threads of all hosts take turns, action by action; only `_lockObject` keeps the
two threads of one host apart.
-/

namespace Nhh3

open Lib Lib.Prog Connection

/-! ## The threads -/

/-- The callback that an action of `IssueCallbacks` calls. -/
def Act.callsBack : Act → Option Callback
  | .success st => some st.callSuccessCallback
  | .error st => some st.callErrorCallback
  | _ => none

/-- Where the caller's thread is: outside, in `PublishRequest`, in `Update` before and behind the
lock, or gone, with an exception or a fault in `Update`. -/
inductive Caller where
  | idle
  | publishing (id : Nat)
  | cleared (id : Nat)
  | updating (id : Nat)
  | lost (id : Nat)
  deriving DecidableEq, Repr

/-- The process has ended. -/
def Caller.gone : Caller → Bool
  | .lost _ => true
  | _ => false

/-- A host, and what the thread that holds its `_lockObject` is doing: the step, and what native
code has still to do in it. -/
structure Nhh3Impl where
  host : Host
  lockObject : Option (HostOp × P Unit)

/-- The static variables, by the ids of the hosts, and the one thread that calls. -/
structure Nhh3Statics where
  nhh3ImplList : Nat → Option Nhh3Impl
  responseForEachHost : Nat → Option (List ResponseParamaters)
  caller : Caller

/-- A turn of a thread. -/
inductive Turn where
  | construct (id : Nat) (hostName port : String) (options : QwfsOptions)
  | destroy (id : Nat)
  /-- The caller enters `Update`. -/
  | update (id : Nat)
  /-- A step in which no native call is made. -/
  | flag (id : Nat) (op : HostOp)
  /-- A step takes the lock and begins its native calls. -/
  | lock (id : Nat) (op : HostOp)
  /-- Native code goes on to its next action, or returns. -/
  | native (id : Nat)

/-- What is seen of a run: the active streams when `Update` calls native code, the callbacks that
native code calls, and the lists that `Update` returns. -/
inductive Seen where
  | streams (id : Nat) (streams : List Stream)
  | issued (id : Nat) (callback : Callback)
  | returned (id : Nat) (responses : List ResponseParamaters)

/-- The constructor `Nhh3Impl`, with the options set. -/
def Host.constructed (hostName port : String) (options : QwfsOptions) : Host :=
  { Host.new hostName port with
    connection := apply (Act.setOptions options) (apply (Act.call (.setOptions options)) (.new hostName port)) }

/-- The step is one of the worker. -/
def HostOp.ofWorker : HostOp → Bool
  | .updateQwfs _ => true
  | _ => false

/-- The step is `Update`. -/
def HostOp.updates : HostOp → Bool
  | .update _ => true
  | _ => false

/-- Where the caller is once the step has begun on this host, if it may. -/
def Caller.enter (id : Nat) : HostOp → Caller → Option Caller
  | .updateQwfs _, caller => some caller
  | .publishRequest _, .idle => some (.publishing id)
  | .update _, .cleared id' => if id' = id then some (.updating id) else none
  | _, _ => none

namespace Nhh3Statics

/-- The static variables of the class. -/
def start : Nhh3Statics where
  nhh3ImplList := fun _ => none
  responseForEachHost := fun _ => none
  caller := .idle

def setImpl (s : Nhh3Statics) (id : Nat) (x : Nhh3Impl) : Nhh3Statics :=
  { s with nhh3ImplList := Function.update s.nhh3ImplList id (some x) }

def setResponses (s : Nhh3Statics) (id : Nat) (responses : List ResponseParamaters) : Nhh3Statics :=
  { s with responseForEachHost := Function.update s.responseForEachHost id (some responses) }

@[simp] theorem setImpl_self (s : Nhh3Statics) (id : Nat) (x : Nhh3Impl) :
    (s.setImpl id x).nhh3ImplList id = some x := Function.update_self ..

theorem setImpl_other (s : Nhh3Statics) {id id' : Nat} (x : Nhh3Impl) (h : id' ≠ id) :
    (s.setImpl id x).nhh3ImplList id' = s.nhh3ImplList id' := Function.update_of_ne h ..

@[simp] theorem setResponses_self (s : Nhh3Statics) (id : Nat) (responses : List ResponseParamaters) :
    (s.setResponses id responses).responseForEachHost id = some responses := Function.update_self ..

theorem setResponses_other (s : Nhh3Statics) {id id' : Nat} (responses : List ResponseParamaters) (h : id' ≠ id) :
    (s.setResponses id responses).responseForEachHost id' = s.responseForEachHost id' := Function.update_of_ne h ..

/-- The callback function of C#, called for this host. -/
def callback (text : Bytes → String) (s : Nhh3Statics) (id : Nat) (callback : Callback) : Nhh3Statics :=
  match callback.added text, s.responseForEachHost id with
  | some res, some responses => s.setResponses id (responses ++ [res])
  | _, _ => { s with caller := .lost id }

/-- Native code called by the step `op` on the host `x` goes on with `rest`. -/
def native (text : Bytes → String) (s : Nhh3Statics) (id : Nat) (x : Nhh3Impl) (op : HostOp) (rest : P Unit) :
    Option (List Seen × Nhh3Statics) :=
  match rest.next x.host.connection with
  | .act a rest =>
    let s := s.setImpl id ⟨apply (HostAct.native a) x.host, some (op, rest)⟩
    match a.callsBack with
    | none => some ([], s)
    | some cb => some ([.issued id cb], s.callback text id cb)
  | .ret _ =>
    let s := s.setImpl id ⟨apply (HostAct.step op) x.host, none⟩
    match op with
    | .updateQwfs _ => some ([], s)
    | .update _ => (s.responseForEachHost id).map fun list => ([.returned id list], { s with caller := .idle })
    | _ => some ([], { s with caller := .idle })
  -- the process ends
  | .fail _ => if op.updates then some ([], { s with caller := .lost id }) else none

/-- One turn, if the thread can take it. -/
def takeTurn (text : Bytes → String) (s : Nhh3Statics) : Turn → Option (List Seen × Nhh3Statics)
  | .construct id hostName port options =>
    if s.caller = .idle ∧ (s.nhh3ImplList id).isNone then
      some ([], (s.setImpl id ⟨.constructed hostName port options, none⟩).setResponses id
        ((s.responseForEachHost id).getD []))
    else none
  | .destroy id => do
    let x ← s.nhh3ImplList id
    -- the task has ended
    if s.caller = .idle ∧ x.lockObject.isNone ∧ x.host.worker = .takeRetry then
      return ([], { s with
        nhh3ImplList := Function.update s.nhh3ImplList id none,
        responseForEachHost := Function.update s.responseForEachHost id none })
    else none
  | .update id => do
    let _ ← s.nhh3ImplList id
    let _ ← s.responseForEachHost id
    if s.caller = .idle then return ([], { s.setResponses id [] with caller := .cleared id }) else none
  | .flag id op => do
    let x ← s.nhh3ImplList id
    if (x.host.calls op).isEmpty ∧ (op.ofWorker ∨ s.caller = .idle) then
      return ([], s.setImpl id { x with host := apply (HostAct.step op) x.host })
    else none
  | .lock id op => do
    let x ← s.nhh3ImplList id
    let caller ← s.caller.enter id op
    if ¬ (x.host.calls op).isEmpty ∧ x.lockObject.isNone then
      return (if op.updates then [.streams id x.host.connection.h3Streams] else [],
        { s.setImpl id ⟨x.host, some (op, exec (x.host.calls op))⟩ with caller })
    else none
  | .native id => do
    let x ← s.nhh3ImplList id
    let (op, rest) ← x.lockObject
    s.native text id x op rest

/-- No thread takes a turn once the process has ended. -/
def turn (text : Bytes → String) (s : Nhh3Statics) (t : Turn) : Option (List Seen × Nhh3Statics) :=
  if s.caller.gone then none else s.takeTurn text t

end Nhh3Statics

/-- The runs of all threads, with what is seen of them. -/
inductive Runs (text : Bytes → String) : List Seen → Nhh3Statics → Prop where
  | start : Runs text [] .start
  | turn {log seen : List Seen} {s s' : Nhh3Statics} (t : Turn) : Runs text log s →
      s.turn text t = some (seen, s') → Runs text (log ++ seen) s'

/-! ## What a turn does -/

variable {text : Bytes → String} {s s' : Nhh3Statics} {log seen : List Seen} {id : Nat}

/-- What a turn can do. -/
inductive Moved (text : Bytes → String) (s : Nhh3Statics) : List Seen → Nhh3Statics → Prop where
  | constructed {id : Nat} (hostName port : String) (options : QwfsOptions) : s.caller = .idle →
      s.nhh3ImplList id = none → Moved text s [] ((s.setImpl id ⟨.constructed hostName port options, none⟩).setResponses
        id ((s.responseForEachHost id).getD []))
  | destroyed {id : Nat} {x : Nhh3Impl} : s.caller = .idle → s.nhh3ImplList id = some x → x.lockObject = none →
      Moved text s [] { s with
        nhh3ImplList := Function.update s.nhh3ImplList id none,
        responseForEachHost := Function.update s.responseForEachHost id none }
  | cleared {id : Nat} {x : Nhh3Impl} : s.caller = .idle → s.nhh3ImplList id = some x →
      Moved text s [] { s.setResponses id [] with caller := .cleared id }
  | flagged {id : Nat} {x : Nhh3Impl} {op : HostOp} : s.nhh3ImplList id = some x → x.host.calls op = [] →
      Moved text s [] (s.setImpl id { x with host := apply (HostAct.step op) x.host })
  | locked {id : Nat} {x : Nhh3Impl} {op : HostOp} {caller : Caller} : s.nhh3ImplList id = some x →
      x.lockObject = none → s.caller.enter id op = some caller →
      Moved text s (if op.updates then [.streams id x.host.connection.h3Streams] else [])
        { s.setImpl id ⟨x.host, some (op, exec (x.host.calls op))⟩ with caller }
  | acted {id : Nat} {x : Nhh3Impl} {op : HostOp} {rest k : P Unit} {a : Act} : s.nhh3ImplList id = some x →
      x.lockObject = some (op, rest) → rest.next x.host.connection = .act a k → a.callsBack = none →
      Moved text s [] (s.setImpl id ⟨apply (HostAct.native a) x.host, some (op, k)⟩)
  | issued {id : Nat} {x : Nhh3Impl} {op : HostOp} {rest k : P Unit} {a : Act} {cb : Callback} :
      s.nhh3ImplList id = some x → x.lockObject = some (op, rest) → rest.next x.host.connection = .act a k →
      a.callsBack = some cb → Moved text s [.issued id cb]
        ((s.setImpl id ⟨apply (HostAct.native a) x.host, some (op, k)⟩).callback text id cb)
  | returned {id : Nat} {x : Nhh3Impl} {op : HostOp} {rest : P Unit} {responses : List ResponseParamaters} :
      s.nhh3ImplList id = some x → x.lockObject = some (op, rest) → rest.next x.host.connection = .ret () →
      op.updates = true → s.responseForEachHost id = some responses → Moved text s [.returned id responses]
        { s.setImpl id ⟨apply (HostAct.step op) x.host, none⟩ with caller := .idle }
  | finished {id : Nat} {x : Nhh3Impl} {op : HostOp} {rest : P Unit} :
      s.nhh3ImplList id = some x → x.lockObject = some (op, rest) → rest.next x.host.connection = .ret () →
      op.updates = false → Moved text s []
        { s.setImpl id ⟨apply (HostAct.step op) x.host, none⟩ with
          caller := if op.ofWorker then s.caller else .idle }
  | failed {id : Nat} {x : Nhh3Impl} {op : HostOp} {rest : P Unit} {e : Fault} :
      s.nhh3ImplList id = some x → x.lockObject = some (op, rest) → rest.next x.host.connection = .fail e →
      op.updates = true → Moved text s [] { s with caller := .lost id }

theorem moved_native {x : Nhh3Impl} {op : HostOp} {rest : P Unit} (hx : s.nhh3ImplList id = some x)
    (hlock : x.lockObject = some (op, rest)) (h : s.native text id x op rest = some (seen, s')) :
    Moved text s seen s' := by
  unfold Nhh3Statics.native at h
  split at h
  · rename_i a k hnext
    cases hcb : a.callsBack with
    | none =>
      simp only [hcb, Option.some.injEq, Prod.mk.injEq] at h
      obtain ⟨rfl, rfl⟩ := h
      exact .acted hx hlock hnext hcb
    | some cb =>
      simp only [hcb, Option.some.injEq, Prod.mk.injEq] at h
      obtain ⟨rfl, rfl⟩ := h
      exact .issued hx hlock hnext hcb
  · rename_i hnext
    cases op with
    | update starts =>
      obtain ⟨responses, hresponses, h⟩ := Option.map_eq_some_iff.1 h
      rw [Prod.mk.injEq] at h
      obtain ⟨rfl, rfl⟩ := h
      exact .returned hx hlock hnext rfl hresponses
    | _ =>
      simp only [Option.some.injEq, Prod.mk.injEq] at h
      obtain ⟨rfl, rfl⟩ := h
      exact .finished hx hlock hnext rfl
  · rename_i hnext
    split at h
    · simp only [Option.some.injEq, Prod.mk.injEq] at h
      obtain ⟨rfl, rfl⟩ := h
      exact .failed hx hlock hnext ‹_›
    · cases h

theorem moved_of_turn {t : Turn} (h : s.turn text t = some (seen, s')) : Moved text s seen s' := by
  rw [Nhh3Statics.turn] at h
  split at h
  · cases h
  cases t with
  | construct id hostName port options =>
    simp only [Nhh3Statics.takeTurn] at h
    split at h
    · rename_i hif
      cases h
      exact .constructed hostName port options hif.1 (Option.isNone_iff_eq_none.1 hif.2)
    · cases h
  | destroy id =>
    obtain ⟨x, hx, h⟩ := Option.bind_eq_some_iff.1 h
    split at h
    · rename_i hif
      cases h
      exact .destroyed hif.1 hx (Option.isNone_iff_eq_none.1 hif.2.1)
    · cases h
  | update id =>
    obtain ⟨x, hx, h⟩ := Option.bind_eq_some_iff.1 h
    obtain ⟨_, _, h⟩ := Option.bind_eq_some_iff.1 h
    split at h
    · cases h
      exact .cleared ‹_› hx
    · cases h
  | flag id op =>
    obtain ⟨x, hx, h⟩ := Option.bind_eq_some_iff.1 h
    split at h
    · rename_i hif
      cases h
      exact .flagged hx (List.isEmpty_iff.1 hif.1)
    · cases h
  | lock id op =>
    obtain ⟨x, hx, h⟩ := Option.bind_eq_some_iff.1 h
    obtain ⟨caller, hcaller, h⟩ := Option.bind_eq_some_iff.1 h
    split at h
    · rename_i hif
      cases h
      exact .locked hx (Option.isNone_iff_eq_none.1 hif.2) hcaller
    · cases h
  | native id =>
    obtain ⟨x, hx, h⟩ := Option.bind_eq_some_iff.1 h
    obtain ⟨⟨op, rest⟩, hlock, h⟩ := Option.bind_eq_some_iff.1 h
    exact moved_native hx hlock h

end Nhh3
