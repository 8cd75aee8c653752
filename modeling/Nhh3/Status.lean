import Nhh3.Requests
/-!
# Where the status and the phase are written

Two tables say once what each action makes of `_status` and of `_phase`. The
invariants about errors, shutdowns and flags are read off them; the first is the
error latch: which actions end an error.
-/

namespace Nhh3

open Lib Lib.Prog Connection

/-- The error that `CreateUdpSocket` reports. -/
def SocketIo.error : SocketIo → Option QwfsStatus
  | .unresolved => some .errorResolveHost
  | .noSocket | .notConnected | .noName => some .errorSocket
  | .ok => none

/-- The qlog file of the new connection is there, if one is wanted. -/
def Connection.QlogOpens (c : Connection) (io : InitIo) : Prop := c.qlogPath = "" ∨ io.qlog = true

instance (c : Connection) (io : InitIo) : Decidable (c.QlogOpens io) :=
  inferInstanceAs (Decidable (c.qlogPath = "" ∨ io.qlog = true))

/-- The last error of `UpdatePhaseInitialize`: without an HTTP/3 config it goes on. -/
def Connection.initError (c : Connection) (io : InitIo) : Option QwfsStatus :=
  if io.connect = false then some .criticalErrorQuiche
  else if ¬ c.QlogOpens io then some .errorFileIo
  else if io.h3Config = false then some .criticalErrorQuiche
  else none

/-- The status an action sets; `none` leaves it as it is. -/
def Act.sets (c : Connection) : Act → Option QwfsStatus
  | .publishRequest _ => if .wait ≤ c.status then some .connecting else none
  | .abort => some .aborting
  | .transitionConnectionMigration | .retryStream | .idle | .finishAbort => some .wait
  | .sendFailed e | .recvFailed e => some (convertQuicheErrorToStatus e c.status)
  | .socketFailed _ => some .errorSocket
  | .createSocket io => some (io.error.getD .wait)
  | .createUdpSocket io => io.error
  | .initializeQuiche io => c.initError io
  | .handshakeFailed | .startStreamFailed | .newSourceCidFailed => some .criticalErrorQuiche
  | .beginConnecting => some .connecting
  | .probePath ok => if ok then none else some .errorConnectionMigration
  | .connectionClosed => some .errorConnectionClose
  | .timeout closed => if c.status ≠ .aborting ∧ closed = true then some .errorTimeout else none
  | .streamCritical st => some st.status
  | _ => none

/-- The phase an action goes to; `none` stays. -/
def Act.turns (c : Connection) : Act → Option Phase
  | .socketFailed _ | .handshakeFailed | .eventReset _ | .abort | .connectionClosed | .streamCritical _ =>
    some .startShutdown
  | .recvFailed e =>
    some (if convertQuicheErrorToStatus e c.status = .errorTls then .startShutdown else .wait)
  | .transitionConnectionMigration => some .connectionMigration
  | .requeueStreams | .finishAbort => some .createSocket
  | .createSocket io => if io = .ok then some .initializing else none
  | .initializeQuiche io =>
    if io.connect = false then some .wait else if c.QlogOpens io then some .handshake else none
  | .handshakeDone | .startStreamFailed | .finishShutdown | .newSourceCidFailed | .probePath _ => some .wait
  | .retryStream => some .initializing
  | .startShutdown => some .waitShutdown
  | .timeout closed => if c.status ≠ .aborting ∧ closed = true then some .startShutdown else none
  | _ => none

namespace Connection
variable {c : Connection} {a : Act}

theorem initializeQuiche_eq (io : InitIo) (hconfig : io.config = true) :
    (c.initializeQuiche io).1.status = (c.initError io).getD c.status ∧
      (c.initializeQuiche io).1.phase = ((Act.initializeQuiche io).turns c).getD c.phase := by
  have herr : convertStatusToResult .errorFileIo ≠ .ok := by decide
  unfold initializeQuiche setQlogSettings setOptionsInternal initError Act.turns QlogOpens
  dsimp only
  split_ifs <;> simp_all [createQuicheConnection, setPhase, setStatus]

/-- What an action makes of the status. -/
theorem status_apply (hE : Enabled c a) : (apply a c).status = (a.sets c).getD c.status := by
  cases a with
  | publishRequest req =>
    simp only [apply, publishRequest_eq, Act.sets]
    split_ifs <;> rfl
  | createSocket io => cases io <;> rfl
  | createUdpSocket io => cases io <;> rfl
  | initializeQuiche io => exact (initializeQuiche_eq io hE.2.2).1
  | recvFailed e => simp only [apply]; split_ifs <;> rfl
  | probePath ok => cases ok <;> rfl
  | timeout closed => simp only [apply, Act.sets]; split_ifs <;> rfl
  | streamRetry st => exact hE.elim
  | _ => rfl

/-- What an action makes of the phase. -/
theorem phase_apply (hE : Enabled c a) : (apply a c).phase = (a.turns c).getD c.phase := by
  cases a with
  | publishRequest req => exact (publishRequest_status req).1
  | createSocket io => cases io <;> rfl
  | createUdpSocket io => cases io <;> rfl
  | initializeQuiche io => exact (initializeQuiche_eq io hE.2.2).2
  | recvFailed e =>
    simp only [apply, Act.turns]
    by_cases h : convertQuicheErrorToStatus e c.status = .errorTls
    · rw [if_pos h]
      exact congrArg _ (if_pos h)
    · rw [if_neg h]
      exact congrArg _ (if_neg h)
  | probePath ok => cases ok <;> rfl
  | timeout closed => simp only [apply, Act.turns]; split_ifs <;> rfl
  | streamRetry st => exact hE.elim
  | _ => rfl

end Connection

/-! ## The error latch -/

/-- The action calls `Stream::Start`, which sends a request. -/
def Act.starts : Act → Bool
  | .startStream _ _ | .startFailed _ => true
  | _ => false

/-- The condition: no new socket, no migration, no consumed Retry and no finished Abort
clears the status. -/
def LatchMeets : Act → Prop
  | .createSocket io => io ≠ .ok
  | .transitionConnectionMigration | .retryStream | .finishAbort => False
  | _ => True

instance (a : Act) : Decidable (LatchMeets a) := by
  apply Act.casesOn (motive := fun a => Decidable (LatchMeets a)) a <;> intros <;>
    (dsimp only [LatchMeets]; infer_instance)

section Latch
variable {c : Connection} {a : Act}

theorem socketError_lt {io : SocketIo} {s : QwfsStatus} (h : io.error = some s) : s < .wait := by
  cases io <;> cases h <;> decide

theorem initError_lt {io : InitIo} {s : QwfsStatus} (h : c.initError io = some s) : s < .wait := by
  unfold initError at h
  split_ifs at h <;> cases h <;> decide

theorem convert_lt (error : Int) {s : QwfsStatus} (h : s < .wait) :
    convertQuicheErrorToStatus error s < .wait := by
  rcases convertQuicheErrorToStatus_cases error s with he | he
  · rwa [he]
  · exact he

/-- What an action sets: an error, one of three other statuses, or what was there. -/
theorem sets_cases (hE : Enabled c a) {s : QwfsStatus} (h : a.sets c = some s) :
    s < .wait ∨ s ∈ [.wait, .connecting, .aborting] ∨ s = c.status := by
  have hconv : ∀ e, convertQuicheErrorToStatus e c.status = s → s < .wait ∨ s = c.status := by
    rintro e rfl
    exact (convertQuicheErrorToStatus_cases e c.status).symm
  cases a with
  | publishRequest req =>
    simp only [Act.sets] at h
    split_ifs at h
    cases h
    simp
  | sendFailed e => exact (hconv e (Option.some.inj h)).imp id .inr
  | recvFailed e => exact (hconv e (Option.some.inj h)).imp id .inr
  | createSocket io =>
    cases he : io.error with
    | none => simp_all [Act.sets]
    | some s' =>
      have hs : s' = s := by simpa [Act.sets, he] using h
      exact .inl (socketError_lt (hs ▸ he))
  | createUdpSocket io => exact .inl (socketError_lt h)
  | initializeQuiche io => exact .inl (initError_lt h)
  | probePath ok =>
    cases ok <;> cases h
    exact .inl (by decide)
  | timeout closed =>
    simp only [Act.sets] at h
    split_ifs at h
    cases h
    exact .inl (by decide)
  | streamCritical st =>
    cases h
    exact .inl (lt_wait_of_le_criticalError _ hE.2)
  | _ => cases h <;> first | exact .inl (by decide) | simp

/-- No connection is ever in status Completed. -/
theorem status_ne_completed (hE : Enabled c a) (h : c.status ≠ .completed) :
    (apply a c).status ≠ .completed := by
  rw [status_apply hE]
  cases ha : a.sets c with
  | none => exact h
  | some s =>
    intro heq
    have hs : s = .completed := heq
    rcases sets_cases hE ha with hlt | hmem | hold
    · rw [hs] at hlt
      exact absurd hlt (by decide)
    · simp [hs] at hmem
    · exact h (hold.symm.trans hs)

/-- Which actions leave an error an error. -/
theorem latch_apply (hE : Enabled c a) (h : c.status < .wait) :
    (apply a c).status < .wait ↔ LatchMeets a := by
  have hn : ¬ .wait ≤ c.status := (lt_wait_iff _).1 h
  rw [status_apply hE]
  cases a with
  | publishRequest req => simp [Act.sets, hn, h, LatchMeets]
  | abort => rcases hE.1 with hs | hs | hs <;> rw [hs] at h <;> exact absurd h (by decide)
  | sendFailed e => exact iff_of_true (convert_lt e h) trivial
  | recvFailed e => exact iff_of_true (convert_lt e h) trivial
  | createSocket io => cases io <;> simp [Act.sets, SocketIo.error, LatchMeets] <;> decide
  | createUdpSocket io =>
    refine iff_of_true ?_ trivial
    cases he : io.error with
    | none => simpa [Act.sets, he] using h
    | some s => simpa [Act.sets, he] using socketError_lt he
  | initializeQuiche io =>
    refine iff_of_true ?_ trivial
    cases he : c.initError io with
    | none => simpa [Act.sets, he] using h
    | some s => simpa [Act.sets, he] using initError_lt he
  | beginConnecting => exact absurd h (by rw [show c.status = .wait from hE]; decide)
  | idle => exact absurd hE.2 hn
  | probePath ok =>
    refine iff_of_true ?_ trivial
    cases ok with
    | true => exact h
    | false => exact (by decide : QwfsStatus.errorConnectionMigration < .wait)
  | timeout closed =>
    refine iff_of_true ?_ trivial
    simp only [Act.sets]
    split_ifs
    · exact (by decide : QwfsStatus.errorTimeout < .wait)
    · exact h
  | streamCritical st => exact iff_of_true (lt_wait_of_le_criticalError _ hE.2) trivial
  | transitionConnectionMigration => exact iff_of_false (show ¬ QwfsStatus.wait < .wait by decide) id
  | retryStream => exact iff_of_false (show ¬ QwfsStatus.wait < .wait by decide) id
  | finishAbort => exact iff_of_false (show ¬ QwfsStatus.wait < .wait by decide) id
  | _ =>
    first
    | exact iff_of_true h trivial
    | exact iff_of_true (by simp only [Act.sets, Option.getD_some]; decide) trivial

/-- In an error no request is sent. -/
theorem no_start (hE : Enabled c a) (h : c.status < .wait) : a.starts = false := by
  have hno : ∀ {st st' id}, ¬ Starting c st st' id := fun hs => by
    rcases hs.status with he | he <;> rw [he] at h <;> exact absurd h (by decide)
  cases a with
  | startStream st' id =>
    obtain ⟨st, hst, -⟩ := hE
    exact absurd hst hno
  | startFailed st' =>
    obtain ⟨st, id, hst, -⟩ := hE
    exact absurd hst hno
  | _ => rfl

end Latch

/-- What a client does from a state that a run has come to is part of a run. -/
theorem continued_enabled {hostName port : String} {ops ops' : List Op} {c c' : Connection} {a : Act}
    {hist : List (Connection × Act)} (hrun : (exec ops).run (new hostName port) = .ok ((), c))
    (h : (exec ops').Performs c hist c' a) : Enabled c' a :=
  (exec_enabled (session_continues Op.run hrun h)).2

/-- From an error between two calls on: whatever the client then calls, the status stays an
error and no request is sent exactly as long as every action meets the condition. -/
theorem error_latch {hostName port : String} {ops ops' : List Op} {c : Connection}
    (hrun : (exec ops).run (new hostName port) = .ok ((), c)) (hs : c.status < .wait) :
    ((∀ hist c', (exec ops').Visits c hist c' → c'.status < .wait) ∧
      ∀ e ∈ (exec ops').trace c, e.2.starts = false) ↔
    ∀ e ∈ (exec ops').trace c, LatchMeets e.2 := by
  have hiff : (∀ hist c', (exec ops').Visits c hist c' → c'.status < .wait) ↔
      ∀ e ∈ (exec ops').trace c, LatchMeets e.2 :=
    visits_iff (J := fun _ c => c.status < .wait) (K := fun _ a => LatchMeets a) hs
      fun _ _ _ hp h => latch_apply (continued_enabled hrun hp) h
  refine ⟨fun h => hiff.1 h.1, fun hM => ⟨hiff.2 hM, fun e he => ?_⟩⟩
  obtain ⟨hist, hp⟩ := performs_of_mem he
  exact no_start (continued_enabled hrun hp) (hiff.2 hM _ _ hp.visits)

/-- The qlog file of a new connection cannot be created. -/
def qlogErrorOps : List Op :=
  [.setOptions { qlogPath := "q" }, .update {}, .update { init := { qlog := false } }]

/-- Nor can it be at the next Update. -/
theorem error_latch_qlog : ∃ c, (exec qlogErrorOps).run (new "h" "443") = .ok ((), c) ∧ c.status < .wait ∧
    ∀ hist c', (exec [.publishRequest {}, .update { init := { qlog := false } }]).Visits c hist c' →
      c'.status < .wait := by
  have hrun : (exec qlogErrorOps).run (new "h" "443") = .ok ((), _) := rfl
  exact ⟨_, hrun, by decide, ((error_latch hrun (by decide)).2 (by decide)).1⟩

/-- The host was not resolved: without a Retry the next Update tries again, and the request is
sent. After a critical error one Retry is enough. -/
theorem error_latch_resolveHost :
    (∃ c, (exec [.update { socket := .unresolved }]).run (new "h" "443") = .ok ((), c) ∧
      c.status = .errorResolveHost ∧
      ∃ c', (exec (.publishRequest {} :: connectOps ++ [.update {}])).run c = .ok ((), c') ∧
        c'.status = .connecting ∧
        ∃ e ∈ (exec (.publishRequest {} :: connectOps ++ [.update {}])).trace c, e.2.starts = true) ∧
    ∃ c, (exec (connectOps ++ [.update { send := [{ writeSize := QuicheErr.bufferTooShort }] }])).run
        (new "h" "443") = .ok ((), c) ∧ c.status = .criticalError ∧
      ∃ c', (exec [.retry, .update {}]).run c = .ok ((), c') ∧ c'.status = .wait :=
  ⟨⟨_, rfl, rfl, _, rfl, rfl, by decide⟩, _, rfl, rfl, _, rfl, rfl⟩

end Nhh3
