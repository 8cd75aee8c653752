import Mathlib.Logic.Function.Basic
import Nhh3.Api
/-!
# Handles: qwfs_connection_manager.cpp and qwfs_quich_wrapper.cpp

The wrapper holds one manager in a static pointer, and the manager its connections
under ids that it counts up. Every entry point looks at the pointer and looks up the
id by hand. `Issued` is what the calls and their answers say about the ids.
-/

namespace Nhh3

open Lib Lib.Prog

/-! ## The connection manager -/

def invalidQwfsId : Nat := 2 ^ 64 - 1

/-- A `Connection` object: its address, its `_qwfsId` and its state. -/
structure ConnectionObject where
  self : Nat
  qwfsId : Nat
  connection : Connection

structure ConnectionManager where
  connections : AList fun _ : Nat => ConnectionObject
  nextId : Nat

namespace ConnectionManager

def new : ConnectionManager where
  connections := ∅
  nextId := 0

def getConnection (m : ConnectionManager) (id : Nat) : Option ConnectionObject := m.connections.lookup id

/-- The object of the present id, unless `emplace` finds one there. -/
def emplace (m : ConnectionManager) (self : Nat) (hostName port : String) : ConnectionManager :=
  if m.nextId ∈ m.connections then m
  else { m with connections := m.connections.insert m.nextId ⟨self, m.nextId, .new hostName port⟩ }

/-- The counter after a `Create`. -/
def countUp (m : ConnectionManager) : ConnectionManager :=
  let nextId := (m.nextId + 1) % 2 ^ 64
  { m with nextId := if invalidQwfsId = nextId then 0 else nextId }

/-- The function `Create` for an object at the address `self`. -/
def create (m : ConnectionManager) (self : Nat) (hostName port : String) :
    Option ConnectionObject × ConnectionManager :=
  let createId := m.nextId
  let m := (m.emplace self hostName port).countUp
  (m.connections.lookup createId, m)

def erase (m : ConnectionManager) (id : Nat) : ConnectionManager :=
  { m with connections := m.connections.erase id }

/-- Write the state of an object back. -/
def put (m : ConnectionManager) (id : Nat) (o : ConnectionObject) : ConnectionManager :=
  { m with connections := m.connections.insert id o }

end ConnectionManager

/-! ## The wrapper -/

/-- The calls of the library. A null pointer is `none`, or `false` for a result. -/
inductive QwfsCall where
  | initializeLibrary
  | uninitializeLibrary
  | create (hostName port : Option String)
  | destroy (id : Nat)
  | setOptions (id : Nat) (options : QwfsOptions)
  | getRequest (id : Nat) (req : Request)
  | postRequest (id : Nat)
  | update (id : Nat) (io : UpdateIo)
  | issueCallbacks (id : Nat) (starts : Nat → StartIo)
  | getStatus (id : Nat) (status : Bool)
  | getProgress (id : Nat) (progress totalWriteSize : Bool)
  | retry (id : Nat)
  | abort (id : Nat)
  | reconnect (id : Nat) (availableDcids : Nat) (now : Int)
  | getErrorDetail (id : Nat)

/-- What a call returns; a value through a pointer comes with the result `Ok`. -/
inductive Answer where
  | void
  | id (id : Nat)
  | result (r : QwfsResult)
  | status (status : QwfsStatus)
  | progress (progress totalWriteSize : Nat)
  | detail (text : Option String)
  deriving DecidableEq

inductive QwfsFault where
  /-- The null `_connectionManager` is dereferenced. -/
  | nullManager
  /-- The call on the connection faults. -/
  | connection (e : Fault)

structure Qwfs where
  connectionManager : Option ConnectionManager
  /-- The address of the next `Connection`. -/
  nextConnection : Nat

namespace Qwfs

/-- The static variables of the library. -/
def loaded : Qwfs where
  connectionManager := none
  nextConnection := 0

def uninitializeLibrary (q : Qwfs) : Qwfs := { q with connectionManager := none }

def initializeLibrary (q : Qwfs) : Qwfs := { q.uninitializeLibrary with connectionManager := some .new }

def create (q : Qwfs) (hostName port : Option String) : Nat × Qwfs :=
  match q.connectionManager, hostName, port with
  | some m, some hostName, some port =>
    let (connection, m) := m.create q.nextConnection hostName port
    ((connection.map ConnectionObject.qwfsId).getD invalidQwfsId,
      { q with connectionManager := some m, nextConnection := q.nextConnection + 1 })
  | _, _, _ => (invalidQwfsId, q)

def destroy (q : Qwfs) (id : Nat) : QwfsResult × Qwfs :=
  match q.connectionManager with
  | none => (.errorInvalidCall, q)
  | some m =>
    match m.getConnection id with
    | none => (.errorInvalidArg, q)
    | some _ => (.ok, { q with connectionManager := some (m.erase id) })

/-- What every call on a connection does: without a manager it answers `noManager`, or dereferences the
null pointer; without a connection it answers `missing`. -/
def onConnection (noManager : Option Answer) (missing : Answer) (id : Nat) (call : P Answer) (q : Qwfs) :
    Except QwfsFault (Answer × Qwfs) :=
  match q.connectionManager with
  | none =>
    match noManager with
    | some a => .ok (a, q)
    | none => .error .nullManager
  | some m =>
    match m.getConnection id with
    | none => .ok (missing, q)
    | some o =>
      match call.run o.connection with
      | .ok (a, c) => .ok (a, { q with connectionManager := some (m.put id { o with connection := c }) })
      | .error e => .error (.connection e)

/-- The two results that most calls have. -/
def call (id : Nat) (op : Op) (call : P Answer) (q : Qwfs) : Except QwfsFault (Answer × Qwfs) :=
  q.onConnection (some (.result .errorInvalidCall)) (.result .errorInvalidArg) id do
    perform (.call op)
    call

def setOptions (id : Nat) (options : QwfsOptions) (q : Qwfs) : Except QwfsFault (Answer × Qwfs) :=
  q.call id (.setOptions options) do return .result (← Connection.qwfsSetOptions options)

def getRequest (id : Nat) (req : Request) (q : Qwfs) : Except QwfsFault (Answer × Qwfs) :=
  q.call id (.publishRequest req) do
    perform (.publishRequest req)
    return .result .ok

/-- The function `PostRequest` does nothing yet. -/
def postRequest (_ : Nat) (q : Qwfs) : Except QwfsFault (Answer × Qwfs) := .ok (.result .ok, q)

def update (id : Nat) (io : UpdateIo) (q : Qwfs) : Except QwfsFault (Answer × Qwfs) :=
  q.call id (.update io) do return .result (← Connection.update io)

def issueCallbacks (id : Nat) (starts : Nat → StartIo) (q : Qwfs) : Except QwfsFault (Answer × Qwfs) :=
  q.call id (.issueCallbacks starts) do
    Connection.issueCallbacks starts
    return .result .ok

/-- The answer to a null pointer for a result, which is looked at behind the manager. -/
def nullResult (q : Qwfs) : Except QwfsFault (Answer × Qwfs) :=
  .ok (.result (if q.connectionManager.isNone then .errorInvalidCall else .errorInvalidArg), q)

def getStatus (id : Nat) (status : Bool) (q : Qwfs) : Except QwfsFault (Answer × Qwfs) :=
  if status = false then q.nullResult
  else
    q.onConnection (some (.result .errorInvalidCall)) (.result .errorInvalidArg) id do
      return .status (← get).status

def getProgress (id : Nat) (progress totalWriteSize : Bool) (q : Qwfs) : Except QwfsFault (Answer × Qwfs) :=
  if progress = false ∨ totalWriteSize = false then q.nullResult
  else
    q.call id .getProgress do
      let (progress, totalWriteSize) ← Connection.getProgress
      return .progress progress totalWriteSize

/-- Without the check for a manager that the other calls make. -/
def retry (id : Nat) (q : Qwfs) : Except QwfsFault (Answer × Qwfs) :=
  q.onConnection none (.result .errorInvalidArg) id do
    perform (.call .retry)
    Connection.qwfsRetry
    return .result .ok

/-- Without it too. -/
def abort (id : Nat) (q : Qwfs) : Except QwfsFault (Answer × Qwfs) :=
  q.onConnection none (.result .errorInvalidArg) id do
    perform (.call .abort)
    return .result (← Connection.qwfsAbort)

def reconnect (id : Nat) (availableDcids : Nat) (now : Int) (q : Qwfs) : Except QwfsFault (Answer × Qwfs) :=
  q.onConnection (some (.result .errorInvalidArg)) (.result .errorInvalidArg) id do
    perform (.call (.reconnect availableDcids now))
    return .result (← Connection.reconnect availableDcids)

def getErrorDetail (id : Nat) (q : Qwfs) : Except QwfsFault (Answer × Qwfs) :=
  q.onConnection (some (.detail none)) (.detail none) id do return .detail (some (← get).errorDetail)

def step (q : Qwfs) : QwfsCall → Except QwfsFault (Answer × Qwfs)
  | .initializeLibrary => .ok (.void, q.initializeLibrary)
  | .uninitializeLibrary => .ok (.void, q.uninitializeLibrary)
  | .create hostName port => .ok (.id (q.create hostName port).1, (q.create hostName port).2)
  | .destroy id => .ok (.result (q.destroy id).1, (q.destroy id).2)
  | .setOptions id options => q.setOptions id options
  | .getRequest id req => q.getRequest id req
  | .postRequest id => q.postRequest id
  | .update id io => q.update id io
  | .issueCallbacks id starts => q.issueCallbacks id starts
  | .getStatus id status => q.getStatus id status
  | .getProgress id progress totalWriteSize => q.getProgress id progress totalWriteSize
  | .retry id => q.retry id
  | .abort id => q.abort id
  | .reconnect id availableDcids now => q.reconnect id availableDcids now
  | .getErrorDetail id => q.getErrorDetail id

/-- The connection an id leads to. -/
def find (q : Qwfs) (id : Nat) : Option ConnectionObject := q.connectionManager.bind fun m => m.getConnection id

/-- Its address. -/
def resolve (q : Qwfs) (id : Nat) : Option Nat := (q.find id).map ConnectionObject.self

end Qwfs

/-! ## What the calls say -/

/-- The id that a call is about. -/
def QwfsCall.names : QwfsCall → Option Nat
  | .destroy id | .setOptions id _ | .getRequest id _ | .postRequest id | .update id _ | .issueCallbacks id _
  | .getStatus id _ | .getProgress id _ _ | .retry id | .abort id | .reconnect id _ _ | .getErrorDetail id => some id
  | .initializeLibrary | .uninitializeLibrary | .create _ _ => none

def QwfsCall.destroys : QwfsCall → Bool
  | .destroy _ => true
  | _ => false

/-- The calls that use the manager without looking whether there is one. -/
def QwfsCall.unchecked : QwfsCall → Bool
  | .retry _ | .abort _ => true
  | _ => false

/-- An error code; for `GetErrorDetail` a null pointer. -/
def Answer.isError : Answer → Bool
  | .result r => r ≠ .ok
  | .detail text => text = none
  | _ => false

/-- The ids by the calls and their answers. -/
structure Issued where
  /-- The successful `Create` calls, and those since the last `Initialize`. -/
  created : Nat
  made : Nat
  /-- The live ids, each with the number of its `Create` call. -/
  live : Nat → Option Nat
  /-- The ids destroyed since the last `Initialize`. -/
  retired : List Nat

def Issued.record (i : Issued) : QwfsCall × Answer → Issued
  | (.initializeLibrary, _) | (.uninitializeLibrary, _) => { i with made := 0, live := fun _ => none, retired := [] }
  | (.create _ _, .id id) =>
    if id = invalidQwfsId then i
    else { i with created := i.created + 1, made := i.made + 1, live := Function.update i.live id (some i.created) }
  | (.destroy id, _) =>
    { i with live := Function.update i.live id none, retired := (i.live id).toList.map (fun _ => id) ++ i.retired }
  | _ => i

def issuedIds (hist : List (QwfsCall × Answer)) : Issued :=
  hist.foldl Issued.record { created := 0, made := 0, live := fun _ => none, retired := [] }

/-- The calls so far, with their answers, and the state they lead to. -/
inductive Reached : List (QwfsCall × Answer) → Qwfs → Prop where
  | loaded : Reached [] .loaded
  | step {hist : List (QwfsCall × Answer)} {q q' : Qwfs} {call : QwfsCall} {a : Answer} :
      Reached hist q → q.step call = .ok (a, q') → Reached (hist ++ [(call, a)]) q'

/-! ## What a call does -/

/-- What a call that does not fault does, with its answer. -/
inductive Change (q : Qwfs) : QwfsCall → Answer → Qwfs → Prop where
  | initialized : Change q .initializeLibrary .void q.initializeLibrary
  | uninitialized : Change q .uninitializeLibrary .void q.uninitializeLibrary
  | created {m : ConnectionManager} (hostName port : String) : q.connectionManager = some m →
      Change q (.create (some hostName) (some port)) (.id (q.create hostName port).1)
        (q.create hostName port).2
  | notCreated (hostName port : Option String) : Change q (.create hostName port) (.id invalidQwfsId) q
  | destroyed {m : ConnectionManager} {id : Nat} {o : ConnectionObject} : q.connectionManager = some m →
      m.getConnection id = some o →
      Change q (.destroy id) (.result .ok) { q with connectionManager := some (m.erase id) }
  | refused {call : QwfsCall} {id : Nat} {a : Answer} : call.names = some id →
      (call.destroys = true → q.find id = none) → a.isError = true → Change q call a q
  | used {call : QwfsCall} {m : ConnectionManager} {id : Nat} {o : ConnectionObject} {a : Answer} {c : Connection} :
      call.names = some id → call.destroys = false → q.connectionManager = some m → m.getConnection id = some o →
      Change q call a { q with connectionManager := some (m.put id { o with connection := c }) }
  | posted (id : Nat) : Change q (.postRequest id) (.result .ok) q

section Step
variable {q q' : Qwfs} {call : QwfsCall} {a : Answer} {id : Nat}

theorem change_onConnection {noManager : Option Answer} {missing : Answer} {p : P Answer}
    (hnames : call.names = some id) (hdestroy : call.destroys = false) (hnone : noManager.all Answer.isError = true)
    (hmissing : missing.isError = true) (h : q.onConnection noManager missing id p = .ok (a, q')) :
    Change q call a q' := by
  unfold Qwfs.onConnection at h
  cases hm : q.connectionManager with
  | none =>
    cases hn : noManager with
    | none =>
      simp only [hm, hn] at h
      cases h
    | some answer =>
      simp only [hm, hn] at h
      cases h
      exact .refused hnames (fun h => by rw [hdestroy] at h; cases h) (by rw [hn] at hnone; exact hnone)
  | some m =>
    cases ho : m.getConnection id with
    | none =>
      simp only [hm, ho] at h
      cases h
      exact .refused hnames (fun h => by rw [hdestroy] at h; cases h) hmissing
    | some o =>
      simp only [hm, ho] at h
      split at h
      · cases h
        exact .used hnames hdestroy hm ho
      · cases h

theorem change_call {op : Op} {p : P Answer} (hnames : call.names = some id) (hdestroy : call.destroys = false)
    (h : q.call id op p = .ok (a, q')) : Change q call a q' :=
  change_onConnection hnames hdestroy rfl rfl h

theorem change_nullResult (hnames : call.names = some id) (hdestroy : call.destroys = false)
    (h : q.nullResult = .ok (a, q')) : Change q call a q' := by
  cases h
  refine .refused hnames (fun h => by rw [hdestroy] at h; cases h) ?_
  cases q.connectionManager <;> rfl

theorem change_destroy (q : Qwfs) (id : Nat) :
    Change q (.destroy id) (.result (q.destroy id).1) (q.destroy id).2 := by
  cases hm : q.connectionManager with
  | none =>
    simp only [Qwfs.destroy, hm]
    exact .refused rfl (fun _ => by rw [Qwfs.find, hm]; rfl) rfl
  | some m =>
    cases ho : m.getConnection id with
    | none =>
      simp only [Qwfs.destroy, hm, ho]
      exact .refused rfl (fun _ => by rw [Qwfs.find, hm]; exact ho) rfl
    | some o =>
      simp only [Qwfs.destroy, hm, ho]
      exact .destroyed hm ho

theorem change_create (q : Qwfs) (hostName port : Option String) :
    Change q (.create hostName port) (.id (q.create hostName port).1) (q.create hostName port).2 := by
  cases hm : q.connectionManager with
  | none =>
    simp only [Qwfs.create, hm]
    exact .notCreated hostName port
  | some m =>
    cases hostName with
    | none =>
      simp only [Qwfs.create, hm]
      exact .notCreated none port
    | some hostName =>
      cases port with
      | none =>
        simp only [Qwfs.create, hm]
        exact .notCreated (some hostName) none
      | some port => exact .created hostName port hm

theorem change_of_step (h : q.step call = .ok (a, q')) : Change q call a q' := by
  cases call with
  | initializeLibrary => cases h; exact .initialized
  | uninitializeLibrary => cases h; exact .uninitialized
  | create hostName port => cases h; exact change_create q hostName port
  | destroy id => cases h; exact change_destroy q id
  | postRequest id => cases h; exact .posted id
  | setOptions id options =>
    simp only [Qwfs.step, Qwfs.setOptions] at h
    exact change_call rfl rfl h
  | getRequest id req =>
    simp only [Qwfs.step, Qwfs.getRequest] at h
    exact change_call rfl rfl h
  | update id io =>
    simp only [Qwfs.step, Qwfs.update] at h
    exact change_call rfl rfl h
  | issueCallbacks id starts =>
    simp only [Qwfs.step, Qwfs.issueCallbacks] at h
    exact change_call rfl rfl h
  | getStatus id status =>
    simp only [Qwfs.step, Qwfs.getStatus] at h
    split at h
    · exact change_nullResult rfl rfl h
    · exact change_onConnection rfl rfl rfl rfl h
  | getProgress id progress totalWriteSize =>
    simp only [Qwfs.step, Qwfs.getProgress] at h
    split at h
    · exact change_nullResult rfl rfl h
    · exact change_call rfl rfl h
  | retry id =>
    simp only [Qwfs.step, Qwfs.retry] at h
    exact change_onConnection rfl rfl rfl rfl h
  | abort id =>
    simp only [Qwfs.step, Qwfs.abort] at h
    exact change_onConnection rfl rfl rfl rfl h
  | reconnect id n now =>
    simp only [Qwfs.step, Qwfs.reconnect] at h
    exact change_onConnection rfl rfl rfl rfl h
  | getErrorDetail id =>
    simp only [Qwfs.step, Qwfs.getErrorDetail] at h
    exact change_onConnection rfl rfl rfl rfl h

end Step

/-! ## The ids are exact -/

/-- The counter is a valid id, and each object is under its own. -/
structure Keyed (m : ConnectionManager) : Prop where
  next : m.nextId < invalidQwfsId
  ids : ∀ id o, m.getConnection id = some o → o.qwfsId = id

/-- What the calls say about the ids is so. -/
structure Exact (i : Issued) (q : Qwfs) : Prop where
  resolve : ∀ id, q.resolve id = i.live id
  next : ∀ m, q.connectionManager = some m → m.nextId = i.made % invalidQwfsId
  live : ∀ id, i.live id ≠ none → id < i.made
  retired : ∀ id ∈ i.retired, id < i.made ∧ i.live id = none

/-- The ids are exact as long as the counter has not come round. -/
structure Accounted (i : Issued) (q : Qwfs) : Prop where
  created : i.created = q.nextConnection
  keyed : ∀ m, q.connectionManager = some m → Keyed m
  exact : i.made ≤ invalidQwfsId → Exact i q

section Ids
variable {i : Issued} {q q' : Qwfs} {m : ConnectionManager} {call : QwfsCall} {a : Answer} {id : Nat}
  {o : ConnectionObject}

theorem resolve_some (hm : q.connectionManager = some m) : q.resolve id = (m.getConnection id).map ConnectionObject.self := by
  rw [Qwfs.resolve, Qwfs.find, hm]
  rfl

theorem getConnection_put (m : ConnectionManager) (id k : Nat) (o : ConnectionObject) :
    (m.put id o).getConnection k = if k = id then some o else m.getConnection k := by
  unfold ConnectionManager.put ConnectionManager.getConnection
  split
  · rename_i h
    rw [h, AList.lookup_insert]
  · exact AList.lookup_insert_ne ‹_›

theorem getConnection_erase (m : ConnectionManager) (id k : Nat) :
    (m.erase id).getConnection k = if k = id then none else m.getConnection k := by
  unfold ConnectionManager.erase ConnectionManager.getConnection
  split
  · rename_i h
    rw [h, AList.lookup_erase]
  · exact AList.lookup_erase_ne ‹_›

/-- A new entry where there is none. -/
theorem getConnection_emplace (h : m.getConnection m.nextId = none) (self : Nat) (hostName port : String) (k : Nat) :
    (m.emplace self hostName port).getConnection k =
      if k = m.nextId then some ⟨self, m.nextId, .new hostName port⟩ else m.getConnection k := by
  have hnot : m.nextId ∉ m.connections := AList.lookup_eq_none.1 h
  rw [ConnectionManager.emplace, if_neg hnot]
  exact getConnection_put m m.nextId k _

theorem Keyed.put {o : ConnectionObject} (hk : Keyed m) (h : o.qwfsId = id) : Keyed (m.put id o) := by
  refine ⟨hk.next, fun k o' ho' => ?_⟩
  rw [getConnection_put] at ho'
  split at ho'
  · rename_i heq
    cases ho'
    rw [heq, h]
  · exact hk.ids k o' ho'

theorem Keyed.erase (hk : Keyed m) (id : Nat) : Keyed (m.erase id) := by
  refine ⟨hk.next, fun k o ho => ?_⟩
  rw [getConnection_erase] at ho
  split at ho
  · cases ho
  · exact hk.ids k o ho

theorem emplace_some (hk : Keyed m) (self : Nat) (hostName port : String) :
    Keyed (m.emplace self hostName port) ∧
      ∃ o, (m.emplace self hostName port).getConnection m.nextId = some o ∧ o.qwfsId = m.nextId := by
  cases h : m.getConnection m.nextId with
  | none =>
    have hnot : m.nextId ∉ m.connections := AList.lookup_eq_none.1 h
    refine ⟨?_, ⟨self, m.nextId, .new hostName port⟩, ?_, rfl⟩
    · rw [ConnectionManager.emplace, if_neg hnot]
      exact hk.put rfl
    · rw [getConnection_emplace h, if_pos rfl]
  | some o =>
    have hin : m.nextId ∈ m.connections := AList.lookup_isSome.1 (by
      rw [ConnectionManager.getConnection] at h
      rw [h]
      rfl)
    rw [ConnectionManager.emplace, if_pos hin]
    exact ⟨hk, o, h, hk.ids _ o h⟩

theorem countUp_next (h : m.nextId < invalidQwfsId) : m.countUp.nextId = (m.nextId + 1) % invalidQwfsId := by
  have hlt : m.nextId + 1 < 2 ^ 64 := by
    unfold invalidQwfsId at h
    omega
  unfold ConnectionManager.countUp
  dsimp only
  rw [Nat.mod_eq_of_lt hlt]
  split
  · rename_i heq
    rw [← heq, Nat.mod_self]
  · rename_i hne
    exact (Nat.mod_eq_of_lt (by omega)).symm

/-- A `Create`: the object it returns is under the present id, and the counter is one further. -/
theorem create_spec (hk : Keyed m) (self : Nat) (hostName port : String) :
    ∃ o, (m.create self hostName port).1 = some o ∧ o.qwfsId = m.nextId ∧ Keyed (m.create self hostName port).2 ∧
      (m.create self hostName port).2.nextId = (m.nextId + 1) % invalidQwfsId ∧
      ∀ k, (m.create self hostName port).2.getConnection k = (m.emplace self hostName port).getConnection k := by
  obtain ⟨hk', o, ho, hid⟩ := emplace_some hk self hostName port
  have hsame : (m.emplace self hostName port).nextId = m.nextId := by
    unfold ConnectionManager.emplace
    split <;> rfl
  have hnext : (m.emplace self hostName port).countUp.nextId = (m.nextId + 1) % invalidQwfsId := by
    rw [countUp_next hk'.next, hsame]
  exact ⟨o, ho, hid, ⟨by rw [ConnectionManager.create, hnext]; exact Nat.mod_lt _ (by decide), hk'.ids⟩, hnext, fun _ => rfl⟩

/-- The answer to a `Create` with a manager is a valid id. -/
theorem create_id (hm : q.connectionManager = some m) (hk : Keyed m) (hostName port : String) :
    (q.create hostName port).1 = m.nextId ∧ m.nextId ≠ invalidQwfsId := by
  obtain ⟨o, ho, hid, -⟩ := create_spec hk q.nextConnection hostName port
  refine ⟨?_, Nat.ne_of_lt hk.next⟩
  simp only [Qwfs.create, hm, ho, Option.map_some, Option.getD_some, hid]

theorem create_state (hm : q.connectionManager = some m) (hostName port : String) :
    (q.create hostName port).2 = { q with
      connectionManager := some (m.create q.nextConnection hostName port).2, nextConnection := q.nextConnection + 1 } := by
  simp only [Qwfs.create, hm]

/-- A call that is about an id and does not destroy it says nothing new. -/
theorem record_names (hnames : call.names = some id) (h : call.destroys = false) : i.record (call, a) = i := by
  cases call <;> first | cases h; done | cases hnames; done | rfl

/-- No id is live without a manager, or in a new one. -/
theorem exact_reset (h : ∀ id, q.resolve id = none) (hnext : ∀ m, q.connectionManager = some m → m.nextId = 0) :
    Exact { i with made := 0, live := fun _ => none, retired := [] } q where
  resolve := h
  next m hm := by rw [hnext m hm]; rfl
  live _ h := absurd rfl h
  retired _ h := nomatch h

theorem accounted_created (h : Accounted i q) (hm : q.connectionManager = some m) (hostName port : String) :
    Accounted (i.record (.create (some hostName) (some port), .id (q.create hostName port).1))
      (q.create hostName port).2 := by
  have hk := h.keyed m hm
  obtain ⟨hid, hvalid⟩ := create_id hm hk hostName port
  obtain ⟨-, -, -, hk', hnext, hget⟩ := create_spec hk q.nextConnection hostName port
  rw [hid, create_state hm, show i.record (.create (some hostName) (some port), .id m.nextId) = _ from
    if_neg hvalid]
  refine ⟨by rw [h.created], ?_, fun hmade => ?_⟩
  · rintro _ ⟨⟩
    exact hk'
  have hlt : i.made < invalidQwfsId := hmade
  have hE := h.exact (Nat.le_of_lt hlt)
  -- the counter has not come round, so the id is one the manager never had
  have hmade : m.nextId = i.made := by rw [hE.next m hm, Nat.mod_eq_of_lt hlt]
  have hfresh : i.live m.nextId = none := by
    by_contra hne
    exact absurd (hE.live _ hne) (by omega)
  have hnone : m.getConnection m.nextId = none := by
    have hres := hE.resolve m.nextId
    rw [hfresh, resolve_some hm, Option.map_eq_none_iff] at hres
    exact hres
  constructor
  · intro k
    rw [resolve_some rfl, hget, getConnection_emplace hnone]
    dsimp only
    by_cases hk : k = m.nextId
    · subst hk
      simp [h.created]
    · rw [if_neg hk, Function.update_of_ne hk, ← resolve_some hm, hE.resolve]
  · rintro _ ⟨⟩
    rw [hnext, hmade]
  · intro k hk
    dsimp only at hk ⊢
    by_cases hkn : k = m.nextId
    · omega
    · rw [Function.update_of_ne hkn] at hk
      exact Nat.lt_succ_of_lt (hE.live k hk)
  · intro k hk
    obtain ⟨hlt, hnone⟩ := hE.retired k hk
    dsimp only
    refine ⟨Nat.lt_succ_of_lt hlt, ?_⟩
    rw [Function.update_of_ne (by omega), hnone]

theorem accounted_destroyed (h : Accounted i q) (hm : q.connectionManager = some m) :
    Accounted (i.record (.destroy id, .result .ok)) { q with connectionManager := some (m.erase id) } := by
  refine ⟨h.created, ?_, fun hmade => ?_⟩
  · rintro _ ⟨⟩
    exact (h.keyed m hm).erase id
  have hE := h.exact hmade
  constructor
  · intro k
    rw [resolve_some rfl, getConnection_erase, Issued.record]
    dsimp only
    by_cases hk : k = id
    · simp [hk]
    · rw [if_neg hk, Function.update_of_ne hk, ← resolve_some hm, hE.resolve]
  · rintro _ ⟨⟩
    exact hE.next m hm
  · intro k hk
    rw [Issued.record] at hk ⊢
    dsimp only at hk ⊢
    by_cases hkid : k = id
    · simp [hkid] at hk
    · rw [Function.update_of_ne hkid] at hk
      exact hE.live k hk
  · intro k hk
    rw [Issued.record] at hk ⊢
    dsimp only at hk ⊢
    rcases List.mem_append.1 hk with hk | hk
    · obtain ⟨_, hlive, rfl⟩ := List.mem_map.1 hk
      exact ⟨hE.live id fun hn => (by rw [hn] at hlive; cases hlive), Function.update_self ..⟩
    · refine ⟨(hE.retired k hk).1, ?_⟩
      by_cases hkid : k = id
      · rw [hkid, Function.update_self]
      · rw [Function.update_of_ne hkid, (hE.retired k hk).2]

/-- A `Destroy` of an id that names nothing. -/
theorem accounted_missed (h : Accounted i q) (hfind : q.find id = none) :
    Accounted (i.record (.destroy id, a)) q := by
  refine ⟨h.created, h.keyed, fun hmade => ?_⟩
  have hE := h.exact hmade
  have hdead : i.live id = none := by rw [← hE.resolve, Qwfs.resolve, hfind]; rfl
  have hlive : Function.update i.live id none = i.live := by rw [← hdead, Function.update_eq_self]
  have hsame : i.record (.destroy id, a) = i := by
    rw [Issued.record, hlive, hdead]
    rfl
  rw [hsame]
  exact hE

theorem accounted_used {c : Connection} (h : Accounted i q) (hm : q.connectionManager = some m)
    (ho : m.getConnection id = some o) :
    Accounted i { q with connectionManager := some (m.put id { o with connection := c }) } := by
  refine ⟨h.created, ?_, fun hmade => ?_⟩
  · rintro _ ⟨⟩
    exact (h.keyed m hm).put ((h.keyed m hm).ids id o ho)
  have hE := h.exact hmade
  refine { resolve := fun k => ?_, next := ?_, live := hE.live, retired := hE.retired }
  · rw [resolve_some rfl, getConnection_put, ← hE.resolve, resolve_some hm]
    by_cases hk : k = id
    · rw [if_pos hk, hk, ho]
      rfl
    · rw [if_neg hk]
  · rintro _ ⟨⟩
    exact hE.next m hm

theorem accounted_change (h : Accounted i q) (hc : Change q call a q') : Accounted (i.record (call, a)) q' := by
  cases hc with
  | initialized =>
    refine ⟨h.created, ?_, fun _ => exact_reset (fun _ => rfl) ?_⟩
    · rintro _ ⟨⟩
      exact ⟨by decide, fun id o ho => nomatch ho⟩
    · rintro _ ⟨⟩
      rfl
  | uninitialized => exact ⟨h.created, fun _ hm => (nomatch hm), fun _ => exact_reset (fun _ => rfl) fun _ hm => nomatch hm⟩
  | created hostName port hm => exact accounted_created h hm hostName port
  | notCreated hostName port =>
    rw [Issued.record, if_pos rfl]
    exact h
  | destroyed hm ho => exact accounted_destroyed h hm
  | @refused _ id _ hnames hdestroy herr =>
    cases hd : call.destroys with
    | false => rw [record_names hnames hd]; exact h
    | true =>
      have hfind := hdestroy hd
      cases call with
      | destroy n =>
        obtain rfl : n = id := Option.some.inj hnames
        exact accounted_missed h hfind
      | _ => cases hd
  | used hnames hd hm ho =>
    rw [record_names hnames hd]
    exact accounted_used h hm ho
  | posted id => exact h

end Ids

theorem reached_accounted {hist : List (QwfsCall × Answer)} {q : Qwfs} (h : Reached hist q) :
    Accounted (issuedIds hist) q := by
  induction h with
  | loaded =>
    exact ⟨rfl, fun _ hm => (nomatch hm), fun _ => exact_reset (i := issuedIds []) (fun _ => rfl) fun _ hm => nomatch hm⟩
  | step _ hstep ih =>
    rw [issuedIds, List.foldl_append]
    exact accounted_change ih (change_of_step hstep)

/-- What an entry point does with an id that is not live. -/
theorem change_dead {q q' : Qwfs} {call : QwfsCall} {a : Answer} {id : Nat} (hnames : call.names = some id)
    (hdead : q.find id = none) (hc : Change q call a q') :
    q' = q ∧ (a.isError = true ∨ call = .postRequest id) := by
  cases hc with
  | initialized => cases hnames
  | uninitialized => cases hnames
  | created => cases hnames
  | notCreated => cases hnames
  | destroyed hm ho =>
    cases hnames
    rw [Qwfs.find, hm] at hdead
    cases ho.symm.trans hdead
  | refused _ _ herr => exact ⟨rfl, .inl herr⟩
  | used hnames' _ hm ho =>
    cases hnames.symm.trans hnames'
    rw [Qwfs.find, hm] at hdead
    cases ho.symm.trans hdead
  | posted n =>
    cases hnames
    exact ⟨rfl, .inr rfl⟩

theorem onConnection_dead {q : Qwfs} {id : Nat} {noManager : Option Answer} (missing : Answer) (p : P Answer)
    (hdead : q.find id = none) (hmanager : q.connectionManager ≠ none ∨ noManager ≠ none) :
    ∃ a q', q.onConnection noManager missing id p = .ok (a, q') := by
  unfold Qwfs.onConnection
  cases hm : q.connectionManager with
  | none =>
    obtain ⟨a, ha⟩ := Option.ne_none_iff_exists'.1 (hmanager.resolve_left (not_not.2 hm))
    rw [ha]
    exact ⟨a, q, rfl⟩
  | some m =>
    rw [Qwfs.find, hm] at hdead
    have hget : m.getConnection id = none := hdead
    dsimp only
    rw [hget]
    exact ⟨missing, q, rfl⟩

/-- A call that names an id that is not live returns, unless there is no manager and it does not look. -/
theorem dead_returns {q : Qwfs} {call : QwfsCall} {id : Nat} (hnames : call.names = some id) (hdead : q.find id = none)
    (hmanager : q.connectionManager ≠ none ∨ call.unchecked = false) : ∃ a q', q.step call = .ok (a, q') := by
  have hlooks : ∀ {answer : Answer}, q.connectionManager ≠ none ∨ some answer ≠ none := .inr (Option.some_ne_none _)
  cases call with
  | initializeLibrary => exact ⟨_, _, rfl⟩
  | uninitializeLibrary => exact ⟨_, _, rfl⟩
  | create hostName port => exact ⟨_, _, rfl⟩
  | destroy k => exact ⟨_, _, rfl⟩
  | postRequest k => exact ⟨_, _, rfl⟩
  | setOptions k options =>
    cases hnames
    simp only [Qwfs.step, Qwfs.setOptions, Qwfs.call]
    exact onConnection_dead _ _ hdead hlooks
  | getRequest k req =>
    cases hnames
    simp only [Qwfs.step, Qwfs.getRequest, Qwfs.call]
    exact onConnection_dead _ _ hdead hlooks
  | update k io =>
    cases hnames
    simp only [Qwfs.step, Qwfs.update, Qwfs.call]
    exact onConnection_dead _ _ hdead hlooks
  | issueCallbacks k starts =>
    cases hnames
    simp only [Qwfs.step, Qwfs.issueCallbacks, Qwfs.call]
    exact onConnection_dead _ _ hdead hlooks
  | getStatus k status =>
    cases hnames
    simp only [Qwfs.step, Qwfs.getStatus]
    split
    · exact ⟨_, _, rfl⟩
    · exact onConnection_dead _ _ hdead hlooks
  | getProgress k progress totalWriteSize =>
    cases hnames
    simp only [Qwfs.step, Qwfs.getProgress]
    split
    · exact ⟨_, _, rfl⟩
    · exact onConnection_dead _ _ hdead hlooks
  | retry k =>
    cases hnames
    simp only [Qwfs.step, Qwfs.retry]
    exact onConnection_dead _ _ hdead (.inl (hmanager.resolve_right Bool.noConfusion))
  | abort k =>
    cases hnames
    simp only [Qwfs.step, Qwfs.abort]
    exact onConnection_dead _ _ hdead (.inl (hmanager.resolve_right Bool.noConfusion))
  | reconnect k n now =>
    cases hnames
    simp only [Qwfs.step, Qwfs.reconnect]
    exact onConnection_dead _ _ hdead hlooks
  | getErrorDetail k =>
    cases hnames
    simp only [Qwfs.step, Qwfs.getErrorDetail]
    exact onConnection_dead _ _ hdead hlooks

/-- After any calls: a `Create` with a manager returns a valid id, which was not handed out since the last
`Initialize` unless the counter has come round. Until then every id resolves to the connection of its last
`Create` if it is live, and to none if it is not; and a call that names an id that is not live returns an
error and changes nothing, except for `PostRequest`, and for `Retry` and `Abort` without a manager. -/
theorem handles_name_one {hist : List (QwfsCall × Answer)} {q : Qwfs} (h : Reached hist q) :
    (∀ hostName port, q.connectionManager ≠ none →
      ∃ id q', q.step (.create (some hostName) (some port)) = .ok (.id id, q') ∧ id ≠ invalidQwfsId ∧
        ((issuedIds hist).made < invalidQwfsId → (issuedIds hist).live id = none ∧ id ∉ (issuedIds hist).retired)) ∧
    ((issuedIds hist).made ≤ invalidQwfsId →
      (∀ id, q.resolve id = (issuedIds hist).live id) ∧ (∀ id ∈ (issuedIds hist).retired, q.resolve id = none) ∧
      ∀ call id, call.names = some id → (issuedIds hist).live id = none →
        q.connectionManager ≠ none ∨ call.unchecked = false →
        ∃ a, q.step call = .ok (a, q) ∧ (a.isError = true ∨ call = .postRequest id)) := by
  have hA := reached_accounted h
  constructor
  · intro hostName port hne
    obtain ⟨m, hm⟩ := Option.ne_none_iff_exists'.1 hne
    obtain ⟨hid, hvalid⟩ := create_id hm (hA.keyed m hm) hostName port
    refine ⟨m.nextId, (q.create (some hostName) (some port)).2, ?_, hvalid, fun hmade => ?_⟩
    · rw [← hid]
      rfl
    have hE := hA.exact (Nat.le_of_lt hmade)
    have hnext : m.nextId = (issuedIds hist).made := by rw [hE.next m hm, Nat.mod_eq_of_lt hmade]
    refine ⟨?_, fun hmem => ?_⟩
    · by_contra hlive
      exact absurd (hE.live _ hlive) (by omega)
    · exact absurd (hE.retired _ hmem).1 (by omega)
  · intro hmade
    have hE := hA.exact hmade
    refine ⟨hE.resolve, fun id hid => (hE.resolve id).trans (hE.retired id hid).2, ?_⟩
    intro call id hnames hdead hmanager
    have hfind : q.find id = none := by
      have hres := (hE.resolve id).trans hdead
      rwa [Qwfs.resolve, Option.map_eq_none_iff] at hres
    obtain ⟨a, q', hstep⟩ := dead_returns hnames hfind hmanager
    obtain ⟨rfl, hanswer⟩ := change_dead hnames hfind (change_of_step hstep)
    exact ⟨a, hstep, hanswer⟩

/-- The library with one connection. -/
def oneConnection : Qwfs := (Qwfs.loaded.initializeLibrary.create (some "h") (some "443")).2

theorem reached_oneConnection :
    Reached [(.initializeLibrary, .void), (.create (some "h") (some "443"), .id 0)] oneConnection :=
  .step (.step .loaded rfl) rfl

theorem handles_name_one_first : oneConnection.resolve 0 = some 0 ∧ oneConnection.resolve 1 = none := by
  obtain ⟨hresolve, -⟩ := (handles_name_one reached_oneConnection).2 (by decide)
  exact ⟨hresolve 0, hresolve 1⟩

/-- After another `Initialize` the id of the first connection leads to a connection created later. -/
theorem handles_name_one_again : ∃ q, Reached
    ([(.initializeLibrary, .void), (.create (some "h") (some "443"), .id 0)] ++ [(.initializeLibrary, .void)] ++
      [(.create (some "h") (some "443"), .id 0)]) q ∧
    oneConnection.resolve 0 = some 0 ∧ oneConnection.initializeLibrary.resolve 0 = none ∧ q.resolve 0 = some 1 :=
  ⟨_, .step (.step reached_oneConnection rfl) rfl, by decide, by decide, by decide⟩

end Nhh3
