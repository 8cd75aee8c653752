import Nhh3.Requests
/-!
# Callbacks come from IssueCallbacks

The worker runs `Update`, the frame of the client runs `IssueCallbacks`: only
the second calls a callback and takes a stream off the list. So in a history an
action belongs to one call, and a callback to a call of `IssueCallbacks`.
-/

namespace Nhh3

open Lib Lib.Prog

/-- Whether an action belongs to `IssueCallbacks`; the beginning of a call belongs to none. -/
def Act.callback : Act → Option Bool
  | .call _ => none
  | .success _ | .error _ | .streamCritical _ | .streamRetry _ => some true
  | _ => some false

/-- The call issues callbacks. -/
def Op.issues : Op → Bool
  | .issueCallbacks _ => true
  | _ => false

/-- The actions of `Update` and `Reconnect`. -/
def Act.ofUpdate : Act → Bool
  | .call _ | .setOptions _ | .publishRequest _ | .takeProgress | .retry | .abort | .success _ | .error _
  | .streamCritical _ | .streamRetry _ => false
  | _ => true

/-- The actions that a call may perform once it has begun. -/
def Op.May : Op → Act → Prop
  | .setOptions options, a => a = .setOptions options
  | .publishRequest req, a => a = .publishRequest req
  | .update _, a | .reconnect _ _, a => a.ofUpdate = true
  | .issueCallbacks _, a => a.callback = some true
  | .getProgress, a => a = .takeProgress
  | .retry, a => a = .retry
  | .abort, a => a = .abort

theorem may_callback {op : Op} {a : Act} (h : op.May a) : a.callback = some op.issues := by
  cases op with
  | update io => cases a <;> first | rfl | cases h
  | reconnect n now => cases a <;> first | rfl | cases h
  | issueCallbacks starts => exact h
  | _ =>
    cases h
    rfl

/-- The actions of `StartStream`. -/
def Act.ofStart : Act → Bool
  | .startStream _ _ | .startFailed _ | .startStreamFailed | .beginConnecting => true
  | _ => false

/-- The actions of the event loop. -/
def Act.ofPoll : Act → Bool
  | .settingsReceived | .placeholder _ | .eventHeaders _ _ _ | .eventData _ _ _ | .eventFinished _ _
  | .eventReset _ => true
  | _ => false

/-! ## The part of the code that performs an action -/

/-- The parts of the code that act on a connection. -/
inductive Part where
  /-- The calls of a client other than `Update`, `IssueCallbacks` and `Reconnect`. -/
  | client
  | callbacks
  /-- `Send` and `Receive`. -/
  | transfer
  | recovery
  | reconnecting
  /-- From `UpdatePhaseCreateSocket` to `UpdatePhaseHandshake`. -/
  | connecting
  | waiting
  /-- The event loop of `UpdatePhaseWait`. -/
  | polling
  /-- `StartStream`. -/
  | starting
  | closing
  | migrating
  /-- The checks behind the function of the phase. -/
  | checks
  deriving DecidableEq, Repr

def Act.part : Act → Part
  | .call _ | .setOptions _ | .publishRequest _ | .takeProgress | .retry | .abort => .client
  | .success _ | .error _ | .streamCritical _ | .streamRetry _ => .callbacks
  | .sendFailed _ | .socketFailed _ | .recvFailed _ => .transfer
  | .transitionConnectionMigration => .recovery
  | .requeueStreams => .reconnecting
  | .createSocket _ | .initializeQuiche _ | .newH3Connection _ | .handshakeFailed | .handshakeDone => .connecting
  | .retryStream | .idle => .waiting
  | .settingsReceived | .placeholder _ | .eventHeaders _ _ _ | .eventData _ _ _ | .eventFinished _ _
  | .eventReset _ => .polling
  | .startStream _ _ | .startFailed _ | .startStreamFailed | .beginConnecting => .starting
  | .startShutdown | .finishAbort | .finishShutdown => .closing
  | .createUdpSocket _ | .newSourceCidFailed | .probePath _ => .migrating
  | .connectionClosed | .timeout _ => .checks

/-- Only these parts of the code act. -/
abbrev Within {β : Type} (parts : List Part) (p : P β) : Prop := p.Acts fun a => a.part ∈ parts

/-- The parts of `Update` other than `StartStream`. -/
def Part.steady : List Part :=
  [.transfer, .recovery, .connecting, .waiting, .polling, .closing, .migrating, .checks]

/-- The parts that act in the function of a phase. -/
def Phase.parts : Phase → List Part
  | .uninitialized => []
  | .createSocket | .initializing => [.connecting]
  | .handshake => [.starting, .connecting]
  | .wait => [.starting, .waiting, .polling]
  | .startShutdown | .waitShutdown => [.closing]
  | .connectionMigration => [.migrating, .checks]

namespace Connection

theorem Within.sub {β : Type} {p : P β} {parts parts' : List Part} (h : Within parts p) (hsub : parts ⊆ parts') :
    Within parts' p :=
  Acts.mono h fun _ ha => hsub ha

theorem Within.of_mem {β : Type} {p : P β} {part : Part} {parts : List Part} (h : Within [part] p)
    (hpart : part ∈ parts) : Within parts p :=
  Within.sub h fun _ hmem => List.mem_singleton.1 hmem ▸ hpart

theorem acts_statusResult {G : Act → Prop} : statusResult.Acts G := fun _ => trivial

theorem acts_useConnection {G : Act → Prop} : useConnection.Acts G := by
  refine Acts.get fun c => ?_
  split <;> trivial

theorem acts_useH3Connection {G : Act → Prop} : useH3Connection.Acts G := by
  refine Acts.get fun c => ?_
  split <;> trivial

theorem acts_useH3Config {G : Act → Prop} : useH3Config.Acts G := by
  refine Acts.get fun c => ?_
  split <;> trivial

theorem acts_isEnabledConnectionMigration {G : Act → Prop} (n : Nat) : (isEnabledConnectionMigration n).Acts G :=
  acts_useConnection.bind fun _ _ => trivial

/-! ### Send, Receive and Reconnect -/

theorem within_sendLoop (ios : List SendIo) : Within [.transfer] (sendLoop ios) := by
  induction ios with
  | nil => trivial
  | cons io ios ih =>
    unfold sendLoop
    split
    · trivial
    split
    · exact Acts.perform (List.mem_singleton.2 rfl) acts_statusResult
    split
    · exact ih
    · exact Acts.perform (List.mem_singleton.2 rfl) acts_statusResult

theorem within_send (ios : List SendIo) : Within [.transfer] (send ios) := by
  refine Acts.get fun c => ?_
  split
  · trivial
  · exact within_sendLoop ios

theorem within_receiveLoop (ios : List RecvIo) : Within [.transfer] (receiveLoop ios) := by
  induction ios with
  | nil => trivial
  | cons io ios ih =>
    unfold receiveLoop
    split
    · trivial
    · exact Acts.perform (List.mem_singleton.2 rfl) acts_statusResult
    · refine acts_useConnection.bind fun _ => ?_
      split
      · exact Acts.perform (List.mem_singleton.2 rfl) acts_statusResult
      · exact ih

theorem within_receive (ios : List RecvIo) : Within [.transfer] (receive ios) := by
  refine Acts.get fun c => ?_
  split
  · trivial
  · exact within_receiveLoop ios

theorem within_recover (n : Nat) : Within [.recovery] (recover n) := by
  refine (acts_isEnabledConnectionMigration n).bind fun b => ?_
  split
  · exact Acts.perform (List.mem_singleton.2 rfl) trivial
  · exact acts_statusResult

theorem within_reconnect (n : Nat) : Within [.recovery, .reconnecting] (reconnect n) := by
  refine (acts_isEnabledConnectionMigration n).bind fun b => ?_
  split
  · exact Acts.perform (List.mem_pair.2 (.inl rfl)) trivial
  · exact Acts.perform (List.mem_pair.2 (.inr rfl)) acts_statusResult

/-! ### StartStream -/

theorem within_startLoop (starts : Nat → StartIo) (n num : Nat) : Within [.starting] (startLoop starts n num) := by
  induction n generalizing num with
  | zero => trivial
  | succ n ih =>
    refine Acts.get fun c => ?_
    split
    · trivial
    split
    · trivial
    split
    · refine Acts.perform (List.mem_singleton.2 rfl) ?_
      split
      · trivial
      · exact Acts.perform (List.mem_singleton.2 rfl) (acts_statusResult.bind fun _ => trivial)
    · exact Acts.perform (List.mem_singleton.2 rfl) (ih _)

theorem within_startStream (starts : Nat → StartIo) : Within [.starting] (startStream starts) := by
  refine Acts.get fun c => ?_
  split
  · trivial
  split
  · trivial
  refine (within_startLoop starts _ 0).bind fun r => ?_
  dsimp only
  split
  · trivial
  · refine Acts.get fun c => ?_
    split
    · exact Acts.perform (List.mem_singleton.2 rfl) trivial
    · trivial

/-! ### The functions of the phases -/

theorem within_updatePhaseInitialize (io : UpdateIo) : Within [.connecting] (updatePhaseInitialize io) := by
  refine Acts.get fun c => ?_
  split
  · trivial
  split
  · trivial
  · exact Acts.perform (List.mem_singleton.2 rfl) trivial

theorem within_createH3Connection (io : UpdateIo) : Within [.connecting] (createH3Connection io) := by
  refine Acts.get fun c => ?_
  split
  · exact acts_useH3Config.bind fun _ => ⟨List.mem_singleton.2 rfl, trivial⟩
  · trivial

theorem acts_dispatch (id : Int) (event : H3Event) (st : Stream) :
    (dispatch id event st).Acts fun a => a.ofPoll = true := by
  unfold dispatch
  split
  · split
    · exact ⟨rfl, trivial⟩
    · trivial
  · split
    · exact ⟨rfl, trivial⟩
    · trivial
  · exact ⟨rfl, trivial⟩
  · exact ⟨rfl, trivial⟩
  all_goals trivial

theorem acts_checkSettings (rc : Int) : (checkSettings rc).Acts fun a => a.ofPoll = true := by
  refine Acts.get fun c => ?_
  split
  · exact ⟨rfl, trivial⟩
  · trivial

theorem acts_pollLoop (ios : List PollIo) : (pollLoop ios).Acts fun a => a.ofPoll = true := by
  induction ios with
  | nil => exact acts_useH3Connection
  | cons io ios ih =>
    refine acts_useH3Connection.bind fun _ => ?_
    split
    · trivial
    refine (acts_checkSettings io.settings).bind fun _ => Acts.get fun c => ?_
    split
    · exact ⟨rfl, trivial⟩
    · trivial
    split
    · trivial
    · exact (acts_dispatch _ _ _).bind fun _ => ih

theorem within_pollLoop (ios : List PollIo) : Within [.polling] (pollLoop ios) :=
  (acts_pollLoop ios).mono fun a ha => by cases a <;> first | exact List.mem_singleton.2 rfl | cases ha

theorem within_checkIdle : Within [.waiting] checkIdle := by
  refine Acts.get fun c => ?_
  split
  · exact ⟨List.mem_singleton.2 rfl, trivial⟩
  · trivial

theorem within_updatePhaseWaitShutdown (io : UpdateIo) : Within [.closing] (updatePhaseWaitShutdown io) := by
  refine acts_useConnection.bind fun _ => ?_
  split
  · refine Acts.get fun c => Acts.perform ?_ trivial
    split <;> exact List.mem_singleton.2 rfl
  · trivial

theorem within_updatePhaseConnectionMigration (io : UpdateIo) :
    Within [.migrating, .checks] (updatePhaseConnectionMigration io) := by
  refine Acts.perform (List.mem_pair.2 (.inl rfl)) (Acts.get fun c => ?_)
  split
  · split
    · exact acts_useConnection.bind fun _ => Acts.perform (List.mem_pair.2 (.inr rfl)) trivial
    · trivial
  · refine acts_useConnection.bind fun _ => ?_
    split
    · exact Acts.perform (List.mem_pair.2 (.inl rfl)) acts_statusResult
    split
    · trivial
    · exact Acts.perform (List.mem_pair.2 (.inl rfl)) trivial

theorem within_checkConnectionClosed (closed : Bool) : Within [.checks] (checkConnectionClosed closed) := by
  refine Acts.get fun c => ?_
  split
  · trivial
  split
  · exact ⟨List.mem_singleton.2 rfl, trivial⟩
  · trivial

theorem within_checkConnectionTimeout (millis : Nat) (closed : Bool) :
    Within [.checks] (checkConnectionTimeout millis closed) := by
  refine Acts.get fun c => ?_
  split
  · trivial
  split
  · exact ⟨List.mem_singleton.2 rfl, trivial⟩
  · trivial

/-! ## Update, from what it is made of -/

/-- A property of programs that holds where only these parts act, of `StartStream`, and of what is
composed of such. -/
structure Rule (parts : List Part) (W : (β : Type) → P β → Prop) : Prop where
  within : ∀ {β : Type} {p : P β}, Within parts p → W β p
  start : ∀ starts, W _ (startStream starts)
  bind : ∀ {β γ : Type} {p : P β} {f : β → P γ}, W β p → (∀ b, W γ (f b)) → W γ (p >>= f)

namespace Rule
variable {W : (β : Type) → P β → Prop} {parts : List Part}

theorem get (h : Rule parts W) {β : Type} {f : Connection → P β} (hf : ∀ c, W β (f c)) : W β (get >>= f) :=
  h.bind (h.within fun _ => trivial) hf

theorem startEarlyData (h : Rule parts W) (hparts : .connecting ∈ parts) (io : UpdateIo) :
    W _ (startEarlyData io) := by
  refine h.bind (h.within acts_useConnection) fun _ => h.get fun c => ?_
  split
  · refine h.bind (h.within acts_useH3Config) fun _ => h.bind (h.within ⟨hparts, trivial⟩) fun _ =>
      h.get fun c => ?_
    split
    · exact h.within trivial
    · exact h.start io.starts
  · exact h.within trivial

theorem updatePhaseHandshake (h : Rule parts W) (hparts : .connecting ∈ parts) (io : UpdateIo) :
    W _ (updatePhaseHandshake io) := by
  refine h.bind (h.startEarlyData hparts io) fun result => ?_
  split
  · exact h.within trivial
  refine h.bind (h.within acts_useConnection) fun _ => ?_
  split
  · exact h.within trivial
  refine h.within ((Within.of_mem (within_createH3Connection io) hparts).bind fun _ => Acts.get fun c => ?_)
  split
  · exact Acts.perform hparts acts_statusResult
  · exact Acts.perform hparts trivial

theorem updatePhaseWait (h : Rule parts W) (hwait : .waiting ∈ parts) (hpoll : .polling ∈ parts) (io : UpdateIo) :
    W _ (updatePhaseWait io) := by
  refine h.get fun c => ?_
  split
  · exact h.within (Acts.perform hwait trivial)
  split
  · exact h.within trivial
  refine h.bind (h.within (Within.of_mem (within_pollLoop io.polls) hpoll)) fun _ =>
    h.bind (h.start io.starts) fun result => ?_
  split
  · exact h.within trivial
  · exact h.within ((Within.of_mem within_checkIdle hwait).bind fun _ => trivial)

end Rule

theorem rule_within (parts : List Part) : Rule parts fun _ p => Within (.starting :: parts) p where
  within h := Within.sub h (List.subset_cons_self _ _)
  start starts := Within.of_mem (within_startStream starts) List.mem_cons_self
  bind := Acts.bind

theorem within_updateFunc (io : UpdateIo) (phase : Phase) : Within phase.parts (updateFunc io phase) := by
  cases phase with
  | uninitialized => exact acts_statusResult
  | createSocket => exact Acts.get fun c => Acts.perform (List.mem_singleton.2 rfl) trivial
  | initializing => exact within_updatePhaseInitialize io
  | handshake => exact (rule_within _).updatePhaseHandshake (List.mem_singleton.2 rfl) io
  | wait => exact (rule_within _).updatePhaseWait (List.mem_pair.2 (.inl rfl)) (List.mem_pair.2 (.inr rfl)) io
  | startShutdown => exact Acts.perform (List.mem_singleton.2 rfl) trivial
  | waitShutdown => exact within_updatePhaseWaitShutdown io
  | connectionMigration => exact within_updatePhaseConnectionMigration io

namespace Rule
variable {W : (β : Type) → P β → Prop}

theorem updateFunc (h : Rule Part.steady W) (io : UpdateIo) (phase : Phase) : W _ (updateFunc io phase) := by
  have hwithin : phase.parts ⊆ Part.steady → W _ (Connection.updateFunc io phase) := fun hsub =>
    h.within (Within.sub (within_updateFunc io phase) hsub)
  cases phase with
  | handshake => exact h.updatePhaseHandshake (by decide) io
  | wait => exact h.updatePhaseWait (by decide) (by decide) io
  | _ => exact hwithin (by decide)

theorem updatePhase (h : Rule Part.steady W) (io : UpdateIo) : W _ (updatePhase io) := by
  refine h.get fun c => h.bind (h.updateFunc io c.phase) fun result => ?_
  split
  · exact h.within trivial
  · have hclosed : Within Part.steady _ := Within.of_mem (within_checkConnectionClosed io.closedCheck) (by decide)
    have htimeout : Within Part.steady _ := Within.of_mem
      (within_checkConnectionTimeout io.timeoutMillis io.closedTimeout) (by decide)
    exact h.within (hclosed.bind fun _ => htimeout.bind fun _ => trivial)

theorem update (h : Rule Part.steady W) (io : UpdateIo) : W _ (update io) := by
  have hrecover : W _ (recover io.availableDcids) := h.within (Within.of_mem (within_recover _) (by decide))
  refine h.bind (h.within (Within.of_mem (within_send io.send) (by decide))) fun result => ?_
  split
  · exact hrecover
  refine h.bind (h.within (Within.of_mem (within_receive io.recv) (by decide))) fun result => ?_
  split
  · exact hrecover
  · exact h.updatePhase io

end Rule

theorem ofUpdate_of_part {a : Act} {parts : List Part} (ha : a.part ∈ parts) (hclient : .client ∉ parts)
    (hcallbacks : .callbacks ∉ parts) : a.ofUpdate = true := by
  cases a <;> first | rfl | exact absurd ha hclient | exact absurd ha hcallbacks

theorem ofStart_of_part {a : Act} {parts : List Part} (ha : a.part ∈ parts) (hstart : .starting ∉ parts) :
    a.ofStart = false := by
  cases a <;> first | rfl | exact absurd ha hstart

theorem acts_issueLoop (starts : Nat → StartIo) (sts : List Stream) :
    (issueLoop starts sts).Acts fun a => a.callback = some true := by
  induction sts with
  | nil => trivial
  | cons st sts ih =>
    refine Acts.bind ?_ fun _ => ih
    unfold issueCallback
    split
    · exact ⟨rfl, trivial⟩
    split
    · refine Acts.perform rfl ?_
      split
      · exact ⟨rfl, trivial⟩
      · exact trivial
    · trivial

end Connection

open Connection

theorem acts_body (op : Op) : op.body.Acts op.May := by
  cases op with
  | setOptions options =>
    refine Acts.bind (Acts.get fun c => ?_) fun _ => trivial
    split
    · trivial
    · exact Acts.perform rfl trivial
  | publishRequest req => exact ⟨rfl, trivial⟩
  | update io =>
    refine Acts.bind ?_ fun _ => trivial
    exact ((rule_within _).update io).mono fun a ha => ofUpdate_of_part ha (by decide) (by decide)
  | issueCallbacks starts => exact Acts.get fun c => acts_issueLoop starts _
  | getProgress => exact Acts.get fun c => Acts.perform rfl trivial
  | retry =>
    refine Acts.get fun c => ?_
    split
    · exact ⟨rfl, trivial⟩
    · trivial
  | abort =>
    refine Acts.bind (Acts.get fun c => ?_) fun _ => trivial
    split
    · exact acts_useConnection.bind fun _ => Acts.perform rfl trivial
    · trivial
  | reconnect n now =>
    refine Acts.bind ?_ fun _ => trivial
    exact (within_reconnect n).mono fun a ha => ofUpdate_of_part ha (by decide) (by decide)

/-! ## The call an action belongs to -/

/-- The calls that have returned, and what the call under way did so far. -/
theorem exec_calls {ops : List Op} {s c : Connection} {a : Act} {hist : List (Connection × Act)}
    (h : (exec ops).Performs s hist c a) : ∃ ops₁ op ops₂ c₁, ops = ops₁ ++ op :: ops₂ ∧
      (exec ops₁).run s = .ok ((), c₁) ∧
      ((hist = (exec ops₁).trace s ∧ c = c₁ ∧ a = .call op) ∨
        ∃ mid, hist = (exec ops₁).trace s ++ (c₁, .call op) :: mid ∧
          op.body.Performs (apply (Act.call op) c₁) mid c a) := by
  obtain ⟨ops₁, op, ops₂, c₁, mid, hops, hrun, rfl, post, hpost⟩ := session_performs Op.run h
  refine ⟨ops₁, op, ops₂, c₁, hops, hrun, ?_⟩
  have htrace : op.run.trace c₁ = (c₁, .call op) :: op.body.trace (apply (Act.call op) c₁) := rfl
  rw [htrace] at hpost
  cases mid with
  | nil =>
    obtain ⟨heq, -⟩ := List.cons.inj hpost
    rw [Prod.mk.injEq] at heq
    exact .inl ⟨List.append_nil _, heq⟩
  | cons e mid =>
    rw [List.cons_append, List.cons_append] at hpost
    obtain ⟨rfl, hbody⟩ := List.cons.inj hpost
    exact .inr ⟨mid, rfl, post, hbody⟩

/-- The call under way, and what its actions can be. -/
theorem exec_performs {ops : List Op} {s c : Connection} {a : Act} {hist : List (Connection × Act)}
    (h : (exec ops).Performs s hist c a) : ∃ ops₁ op ops₂ c₁, ops = ops₁ ++ op :: ops₂ ∧
      (exec ops₁).run s = .ok ((), c₁) ∧
      ((hist = (exec ops₁).trace s ∧ c = c₁ ∧ a = .call op) ∨
        ∃ mid, hist = (exec ops₁).trace s ++ (c₁, .call op) :: mid ∧
          ∀ e ∈ mid ++ [(c, a)], op.May e.2) := by
  obtain ⟨ops₁, op, ops₂, c₁, hops, hrun, hfirst | ⟨mid, hhist, hbody⟩⟩ := exec_calls h
  · exact ⟨ops₁, op, ops₂, c₁, hops, hrun, .inl hfirst⟩
  · exact ⟨ops₁, op, ops₂, c₁, hops, hrun, .inr ⟨mid, hhist, fun e he =>
      (acts_body op).mem (hbody.subset he)⟩⟩

/-- Every action of a run is the beginning of a call, or one that the call may perform. -/
theorem exec_may {ops : List Op} {s : Connection} {e : Connection × Act} (he : e ∈ (exec ops).trace s) :
    ∃ op ∈ ops, e.2 = .call op ∨ op.May e.2 := by
  obtain ⟨hist, post, htrace⟩ := List.append_of_mem he
  have hp : (exec ops).Performs s hist e.1 e.2 := ⟨post, by rw [htrace]; simp⟩
  obtain ⟨ops₁, op, ops₂, c₁, rfl, -, h⟩ := exec_performs hp
  refine ⟨op, by simp, ?_⟩
  rcases h with ⟨-, -, ha⟩ | ⟨mid, -, hmay⟩
  · exact .inl ha
  · exact .inr (hmay (e.1, e.2) (by simp))

theorem issues_iff {op : Op} : op.issues = true ↔ ∃ starts, op = .issueCallbacks starts := by
  cases op <;> simp [Op.issues]

/-- Between an action of another call and a callback, IssueCallbacks was called. -/
theorem callback_call {ops : List Op} {s c c₀ : Connection} {a a₀ : Act} {pre post : List (Connection × Act)}
    (h : (exec ops).Performs s (pre ++ (c₀, a₀) :: post) c a) (ha₀ : a₀.callback = some false)
    (ha : a.callback = some true) : ∃ c₁ starts, (c₁, .call (.issueCallbacks starts)) ∈ post := by
  obtain ⟨ops₁, op, ops₂, c₁, -, -, ⟨-, -, rfl⟩ | ⟨mid, hhist, hmid⟩⟩ := exec_performs h
  · cases ha
  have hop : op.issues = true := by
    have := may_callback (hmid (c, a) (by simp))
    rw [ha] at this
    exact (Option.some.inj this).symm
  obtain ⟨starts, rfl⟩ := issues_iff.1 hop
  refine ⟨c₁, starts, ?_⟩
  rcases List.append_eq_append_iff.1 hhist with ⟨l, -, hl⟩ | ⟨l, -, hl⟩
  · cases l with
    | nil =>
      obtain ⟨he, rfl⟩ := List.cons.inj hl
      rw [Prod.mk.injEq] at he
      rw [he.2] at ha₀
      cases ha₀
    | cons e l =>
      obtain ⟨-, rfl⟩ := List.cons.inj hl
      exact List.mem_append_right _ List.mem_cons_self
  · -- the call comes first, so the other action would be one of its own
    cases l with
    | nil =>
      obtain ⟨he, rfl⟩ := List.cons.inj hl
      rw [Prod.mk.injEq] at he
      rw [← he.2] at ha₀
      cases ha₀
    | cons e l =>
      obtain ⟨-, rfl⟩ := List.cons.inj hl
      have := may_callback (hmid (c₀, a₀) (by simp))
      rw [ha₀, hop] at this
      cases this

/-! ## What IssueCallbacks does -/

namespace Connection

theorem issueCallback_run (io : StartIo) {st : Stream} (h : Settled st) (c : Connection) :
    ∃ c', (issueCallback io st).run c = .ok ((), c') := by
  unfold issueCallback
  split
  · exact ⟨_, rfl⟩
  split
  · rw [if_pos (h ‹_›)]
    exact ⟨_, rfl⟩
  · exact ⟨_, rfl⟩

/-- Every Completed stream of the list gets its success callback. -/
theorem issueLoop_success (starts : Nat → StartIo) {sts : List Stream} (h : ∀ st ∈ sts, Settled st)
    (c : Connection) {x : Stream} (hx : x ∈ sts) (hs : x.status = .completed) :
    ∃ c', (c', .success x) ∈ (issueLoop starts sts).trace c := by
  induction sts generalizing c with
  | nil => cases hx
  | cons st sts ih =>
    have he : issueLoop starts (st :: sts) =
      issueCallback (starts sts.length) st >>= fun _ => issueLoop starts sts := rfl
    rw [he, trace_bind]
    rcases List.mem_cons.1 hx with rfl | hx
    · refine ⟨c, List.mem_append_left _ ?_⟩
      rw [issueCallback, if_pos hs]
      exact List.mem_singleton.2 rfl
    · obtain ⟨c₁, hrun⟩ := issueCallback_run (starts sts.length) (h st List.mem_cons_self) c
      obtain ⟨c', hc'⟩ := ih (fun y hy => h y (List.mem_cons_of_mem _ hy)) c₁ hx
      refine ⟨c', List.mem_append_right _ ?_⟩
      rw [hrun]
      exact hc'

end Connection

/-- In a run, a call of `IssueCallbacks` issues the success callback of every Completed stream. -/
theorem exec_success {ops : List Op} {s c : Connection} {hist : List (Connection × Act)}
    {starts : Nat → StartIo} (h : (exec ops).Performs s hist c (.call (.issueCallbacks starts)))
    (hsettled : ∀ st ∈ c.h3Streams, Settled st) {x : Stream} (hx : x ∈ c.h3Streams)
    (hs : x.status = .completed) :
    ∃ mid c', (exec ops).Performs s (hist ++ (c, .call (.issueCallbacks starts)) :: mid) c' (.success x) ∧
      ∀ e ∈ mid, e.2.callback = some true := by
  obtain ⟨ops₁, op, ops₂, c₁, rfl, hrun, ⟨rfl, rfl, hop⟩ | ⟨mid, -, hmid⟩⟩ := exec_performs h
  case inr => cases may_callback (hmid _ (List.mem_append_right _ (List.mem_singleton.2 rfl)))
  obtain rfl : op = .issueCallbacks starts := (Act.call.inj hop).symm
  obtain ⟨c', hc'⟩ := issueLoop_success starts hsettled (apply (Act.call (.issueCallbacks starts)) c) hx hs
  obtain ⟨mid, post, hmid⟩ := List.append_of_mem hc'
  have hbody : (Op.body (.issueCallbacks starts)).trace (apply (Act.call (.issueCallbacks starts)) c) =
      mid ++ (c', .success x) :: post := hmid
  refine ⟨mid, c', ?_, fun e he => ?_⟩
  · rw [Performs, (session_append Op.run ops₁ _ s).2, hrun]
    rw [List.append_assoc, List.prefix_append_right_inj]
    dsimp only
    rw [trace_session_cons]
    refine List.IsPrefix.trans ⟨post, ?_⟩ (List.prefix_append _ _)
    show _ = (c, _) :: (Op.body (.issueCallbacks starts)).trace (apply (Act.call (.issueCallbacks starts)) c)
    rw [hbody]
    simp
  · have he' : e ∈ (Op.body (.issueCallbacks starts)).trace
        (apply (Act.call (.issueCallbacks starts)) c) := hbody ▸ List.mem_append_left _ he
    exact (acts_body (.issueCallbacks starts)).mem he'

end Nhh3
