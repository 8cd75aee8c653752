import Nhh3.Api
/-!
# Where each action happens

`Enabled` collects what the code has made sure of wherever it performs an
action, `Failing` where a call can fault. Later modules look only at one action
at a time: they derive from `Enabled` what the action keeps, and never walk
through the functions again.
-/

namespace Nhh3

open Lib Lib.Prog

/-! ## Addresses -/

/-- The streams of a connection, in whichever container. -/
def Connection.streams (c : Connection) : List Stream :=
  c.h3Streams ++ c.h3StreamsStock ++ c.h3StreamsErrorStock

/-- No two streams share an address, and none has the next one. -/
structure Addressed (c : Connection) : Prop where
  nodup : (c.streams.map Stream.self).Nodup
  lt : ∀ st ∈ c.streams, st.self < c.nextStream

/-! ## Guards -/

/-- The event loop runs: a RESET before may have started the shutdown. -/
structure Polling (c : Connection) : Prop where
  quic : c.quicheConnection ≠ none
  h3 : c.quicheH3Connection ≠ none
  status : .wait ≤ c.status
  phase : c.phase = .wait ∨ c.phase = .startShutdown
  retry : c.callRetry = false

/-- The event loop never runs once the streams were shut down. -/
theorem Polling.not_waitShutdown {c : Connection} (h : Polling c) : c.phase ≠ .waitShutdown := by
  rcases h.phase with hp | hp <;> rw [hp] <;> decide

/-- An event of stream id `id` is handled: the map leads to `st`. -/
structure Dispatched (c : Connection) (id : Int) (st : Stream) : Prop extends Polling c where
  entry : c.h3StreamsMap.lookup id = some (some st.self)
  found : c.streamAt st.self = some st

/-- Another stream may be started: `st` is the first waiting one, `Start` makes
it `st'` and returns `id`. -/
structure Starting (c : Connection) (st st' : Stream) (id : Int) : Prop where
  room : c.h3Streams.length < c.options.maxConcurrentStreams
  status : c.status = .wait ∨ c.status = .connecting
  phase : c.phase = .handshake ∨ c.phase = .wait ∨ c.phase = .startShutdown
  first : ∃ rest, c.h3StreamsStock = st :: rest
  start : ∃ io, st.start c.quicheConnection c.quicheH3Connection io = .ok (st', id)

/-- What the code has made sure of where it performs an action. -/
def Enabled (c : Connection) : Act → Prop
  | .call _ | .publishRequest _ | .takeProgress => True
  | .setOptions _ => c.phase = .createSocket
  | .retry => c.status < .wait
  | .abort => (c.status = .wait ∨ c.status = .connecting ∨ c.status = .completed) ∧ c.quicheConnection ≠ none
  | .transitionConnectionMigration => c.quicheConnection ≠ none ∧ c.quicheH3Connection ≠ none
  | .requeueStreams => c.quicheConnection ≠ none
  | .sendFailed _ | .recvFailed _ => c.sock = true ∧ c.quicheConnection ≠ none
  | .socketFailed _ => c.sock = true
  | .createSocket _ => c.phase = .createSocket
  | .initializeQuiche io => c.phase = .initializing ∧ c.peerAddInfo = true ∧ io.config = true
  | .newH3Connection _ | .handshakeFailed => c.quicheConnection ≠ none ∧ c.quicheH3Connection = none
  | .handshakeDone => c.phase = .handshake ∧ c.quicheConnection ≠ none ∧ c.quicheH3Connection ≠ none
  | .retryStream => c.phase = .wait ∧ c.callRetry = true
  | .settingsReceived => Polling c
  | .placeholder id => Polling c ∧ c.h3StreamsMap.lookup id = none
  | .eventHeaders id list st' => ∃ st, Dispatched c id st ∧ st.eventHeaders list = .ok st'
  | .eventData id body st' => ∃ st, Dispatched c id st ∧ st.eventData body = .ok st'
  | .eventFinished id st' => ∃ st, Dispatched c id st ∧ st' = st.eventFinished
  | .eventReset id => ∃ st, Dispatched c id st
  | .startStream st' id => ∃ st, Starting c st st' id ∧ 0 ≤ id
  | .startFailed st' => ∃ st id, Starting c st st' id ∧ id < 0
  | .startStreamFailed => c.quicheConnection ≠ none ∧ c.quicheH3Connection ≠ none
  | .beginConnecting => c.status = .wait
  | .idle => c.h3Streams = [] ∧ .wait ≤ c.status
  | .startShutdown => c.phase = .startShutdown
  | .finishAbort => c.phase = .waitShutdown ∧ c.quicheConnection ≠ none ∧ c.callAbort = true
  | .finishShutdown => c.phase = .waitShutdown ∧ c.quicheConnection ≠ none ∧ c.callAbort = false
  | .createUdpSocket _ => c.phase = .connectionMigration
  | .newSourceCidFailed => c.phase = .connectionMigration ∧ c.quicheConnection ≠ none ∧
      c.status ≠ .errorResolveHost
  | .probePath _ => c.phase = .connectionMigration ∧ c.quicheConnection ≠ none ∧
      c.status ≠ .errorResolveHost ∧ c.peerAddInfo = true
  | .connectionClosed => c.quicheConnection ≠ none ∧ ¬ c.phase < .wait ∧ .wait ≤ c.status ∧
      c.status ≠ .aborting
  | .timeout _ => c.quicheConnection ≠ none ∧
      (¬ c.phase < .handshake ∧ .wait ≤ c.status ∨
        c.phase = .connectionMigration ∧ c.status = .errorResolveHost)
  | .success st => st ∈ c.h3Streams ∧ st.status = .completed
  | .error st => st ∈ c.h3Streams ∧ st.status < .wait
  | .streamCritical st => st ∈ c.h3Streams ∧ st.status ≤ .criticalError
  | .streamRetry _ => False

/-! ## Faults -/

/-- `IssueCallbacks` does not retry this stream: it is not in a retryable error status. -/
def Settled (st : Stream) : Prop := st.status < .wait → st.status ≤ .criticalError

instance (st : Stream) : Decidable (Settled st) :=
  inferInstanceAs (Decidable (st.status < .wait → st.status ≤ .criticalError))

/-- Why the call `op`, made in state `c₀`, can fault in state `c`. -/
inductive Failing (op : Op) (c₀ : Connection) : Connection → Fault → Prop where
  /-- A packet arrives before there is a connection. -/
  | received {io : UpdateIo} : op = .update io → c₀.sock = true → c₀.quicheConnection = none →
      io.recv.head?.map RecvIo.recvfrom = some .ok → Failing op c₀ c₀ .nullHandle
  | reconnect {n : Nat} {now : Int} : op = .reconnect n now → c₀.quicheConnection = none →
      Failing op c₀ c₀ .nullHandle
  | abort : op = .abort → (c₀.status = .wait ∨ c₀.status = .connecting ∨ c₀.status = .completed) →
      c₀.quicheConnection = none → Failing op c₀ c₀ .nullHandle
  | phase {c : Connection} : c.phase.usesConnection = true → c.quicheConnection = none →
      Failing op c₀ c .nullHandle
  | poll {c : Connection} : c.phase = .wait → .wait ≤ c.status →
      (c.quicheH3Connection = none ∨ c.quicheConnection = none) → Failing op c₀ c .nullHandle
  /-- The handler of an event fails. -/
  | handler {c : Connection} {id : Int} {st : Stream} {e : Fault} : Dispatched c id st →
      ((∃ list, st.eventHeaders list = .error e) ∨ ∃ body, st.eventData body = .error e) →
      Failing op c₀ c e
  | dangling {c : Connection} {id : Int} {p : Nat} : Polling c → c.h3StreamsMap.lookup id = some (some p) →
      c.streamAt p = none → Failing op c₀ c .danglingStream
  | noAddress {c : Connection} : c.phase = .initializing → c.peerAddInfo = false → Failing op c₀ c .nullPeer
  /-- The socket of a migration could not be made, and the path is probed all the same. -/
  | migrate {c : Connection} {io : UpdateIo} : op = .update io → c₀.phase = .connectionMigration →
      io.newSourceCid = true → (io.socket = .noSocket ∨ io.socket = .notConnected) →
      Failing op c₀ c .nullPeer
  | noConfig {c : Connection} : Failing op c₀ c .nullConfig
  /-- A stream is retried, with the handles it has just cleared. -/
  | retry {c : Connection} {starts : Nat → StartIo} {st : Stream} : op = .issueCallbacks starts →
      st ∈ c₀.h3Streams → ¬ Settled st → Failing op c₀ c .startAssertion

/-- In the call `op` made in `c₀`: every action of the program is `Enabled`, every fault
is `Failing`, and `Q` holds at the end. -/
abbrev Guarded {β : Type} (op : Op) (c₀ : Connection) (p : P β) (Q : β → Connection → Prop)
    (c : Connection) : Prop :=
  p.Sat Addressed (fun _ _ => True) Enabled (Failing op c₀) Q c

namespace Connection
variable {op : Op} {c₀ c : Connection}

theorem guarded_statusResult :
    Guarded op c₀ statusResult (fun r c' => r = convertStatusToResult c.status ∧ c' = c) c :=
  fun _ => ⟨rfl, rfl⟩

theorem guarded_useConnection (hf : c.quicheConnection = none → Failing op c₀ c .nullHandle) :
    Guarded op c₀ useConnection (fun _ c' => c' = c ∧ c.quicheConnection ≠ none) c := by
  refine Sat.get fun _ => ?_
  split
  · exact hf ‹_›
  · exact ⟨rfl, ‹_›⟩

theorem guarded_useH3Connection
    (hf : c.quicheH3Connection = none ∨ c.quicheConnection = none → Failing op c₀ c .nullHandle) :
    Guarded op c₀ useH3Connection
      (fun _ c' => c' = c ∧ c.quicheH3Connection ≠ none ∧ c.quicheConnection ≠ none) c := by
  refine Sat.get fun _ => ?_
  split
  · exact hf ‹_›
  · exact ⟨rfl, not_or.1 ‹_›⟩

/-! ### Send and Receive -/

/-- What `Send` and `Receive` do: without a connection either nothing, or the socket fails. -/
structure Transferred (c : Connection) (r : QwfsResult) (c' : Connection) : Prop where
  unconnected : c'.quicheConnection = none → r = .ok ∧ c' = c ∨ r ≠ .ok ∧ c'.phase = .startShutdown
  migrating : c'.phase = .connectionMigration → c.phase = .connectionMigration

theorem transferred_nothing : Transferred c .ok c := ⟨fun _ => .inl ⟨rfl, rfl⟩, id⟩

theorem transferred_socketFailed (message : String) :
    Transferred c (convertStatusToResult (apply (Act.socketFailed message) c).status)
      (apply (Act.socketFailed message) c) :=
  ⟨fun _ => .inr ⟨nofun, rfl⟩, nofun⟩

theorem transferred_recvFailed (hq : c.quicheConnection ≠ none) (e : Int) (r : QwfsResult) :
    Transferred c r (apply (Act.recvFailed e) c) := by
  refine ⟨fun hn => ?_, fun hp => ?_⟩
  · simp only [apply] at hn
    split_ifs at hn <;> exact absurd hn hq
  · simp only [apply] at hp
    split_ifs at hp <;> cases hp

theorem guarded_sendLoop (ios : List SendIo) (hs : c.sock = true) (hq : c.quicheConnection ≠ none) :
    Guarded op c₀ (sendLoop ios) (Transferred c) c := by
  induction ios with
  | nil => exact transferred_nothing
  | cons io ios ih =>
    unfold sendLoop
    split
    · exact transferred_nothing
    split
    · exact Sat.perform (fun _ => ⟨hs, hq⟩) fun _ _ => ⟨fun hn => absurd hn hq, id⟩
    split
    · exact ih
    · exact Sat.perform (fun _ => hs) fun _ _ => transferred_socketFailed _

theorem guarded_send (ios : List SendIo) : Guarded op c₀ (send ios) (Transferred c) c := by
  refine Sat.get fun _ => ?_
  split
  · exact transferred_nothing
  · rename_i h
    obtain ⟨hs, hq⟩ := not_or.1 h
    exact guarded_sendLoop ios (by simpa using hs) hq

theorem guarded_receiveLoop (ios : List RecvIo) (hs : c.sock = true)
    (hf : c.quicheConnection = none → ios.head?.map RecvIo.recvfrom = some .ok →
      Failing op c₀ c .nullHandle) :
    Guarded op c₀ (receiveLoop ios) (Transferred c) c := by
  induction ios with
  | nil => exact transferred_nothing
  | cons io ios ih =>
    unfold receiveLoop
    split
    · exact transferred_nothing
    · exact Sat.perform (fun _ => hs) fun _ _ => transferred_socketFailed _
    · rename_i hrecv
      refine Sat.bind (guarded_useConnection fun hn => hf hn (by simp [hrecv])) ?_
      rintro _ _ ⟨rfl, hq⟩
      split
      · exact Sat.perform (fun _ => ⟨hs, hq⟩) fun _ _ => transferred_recvFailed hq _ _
      · exact ih fun hn => absurd hn hq

theorem guarded_receive (ios : List RecvIo)
    (hf : c.sock = true → c.quicheConnection = none → ios.head?.map RecvIo.recvfrom = some .ok →
      Failing op c₀ c .nullHandle) :
    Guarded op c₀ (receive ios) (Transferred c) c := by
  refine Sat.get fun _ => ?_
  split
  · exact transferred_nothing
  · rename_i h
    have hs : c.sock = true := by simpa using h
    exact guarded_receiveLoop ios hs (hf hs)

/-! ### Migration -/

theorem guarded_isEnabledConnectionMigration (n : Nat)
    (hf : c.quicheConnection = none → Failing op c₀ c .nullHandle) :
    Guarded op c₀ (isEnabledConnectionMigration n) (fun b c' => c' = c ∧ c.quicheConnection ≠ none ∧
      b = (!c.options.disableActiveMigration && c.quicheH3Connection.isSome && decide (0 < n))) c := by
  refine Sat.bind (guarded_useConnection hf) ?_
  rintro _ _ ⟨rfl, hq⟩
  exact Sat.get fun _ => ⟨rfl, hq, rfl⟩

theorem guarded_recover (n : Nat) (hf : c.quicheConnection = none → Failing op c₀ c .nullHandle) :
    Guarded op c₀ (recover n) (fun _ _ => True) c := by
  refine Sat.bind (guarded_isEnabledConnectionMigration n hf) ?_
  rintro b _ ⟨rfl, hq, rfl⟩
  split
  · rename_i h
    simp only [Bool.and_eq_true, Option.isSome_iff_ne_none] at h
    exact Sat.perform (fun _ => ⟨hq, h.1.2⟩) fun _ => trivial
  · exact fun _ => trivial

theorem guarded_reconnect (n : Nat) (hf : c.quicheConnection = none → Failing op c₀ c .nullHandle) :
    Guarded op c₀ (reconnect n) (fun _ _ => True) c := by
  refine Sat.bind (guarded_isEnabledConnectionMigration n hf) ?_
  rintro b _ ⟨rfl, hq, rfl⟩
  split
  · rename_i h
    simp only [Bool.and_eq_true, Option.isSome_iff_ne_none] at h
    exact Sat.perform (fun _ => ⟨hq, h.1.2⟩) fun _ => trivial
  · exact Sat.perform (fun _ => hq) fun _ _ => trivial

/-! ### Starting streams -/

theorem guarded_startLoop (starts : Nat → StartIo) (n num : Nat)
    (hroom : c.h3Streams.length + n ≤ c.options.maxConcurrentStreams)
    (hs : c.status = .wait ∨ c.status = .connecting)
    (hp : c.phase = .handshake ∨ c.phase = .wait ∨ c.phase = .startShutdown)
    (hq : c.quicheConnection ≠ none) (hh : c.quicheH3Connection ≠ none) :
    Guarded op c₀ (startLoop starts n num)
      (fun r c' => r.1 = .ok → c'.status = c.status ∧ c'.phase = c.phase) c := by
  induction n generalizing num c with
  | zero => exact fun _ => ⟨rfl, rfl⟩
  | succ n ih =>
    refine Sat.get fun _ => ?_
    split
    · exact fun _ => ⟨rfl, rfl⟩
    rename_i st rest hstock
    split
    · rename_i hstart
      rcases Stream.start_error hstart with hn | hn
      · exact absurd hn hq
      · exact absurd hn hh
    rename_i st' id hstart
    have hst : Starting c st st' id :=
      { room := by omega, status := hs, phase := hp, first := ⟨rest, hstock⟩, start := ⟨_, hstart⟩ }
    split
    · refine Sat.perform (fun _ => ⟨st, id, hst, ‹_›⟩) fun _ => ?_
      split
      · exact fun _ => ⟨rfl, rfl⟩
      · refine Sat.perform (fun _ => ⟨hq, hh⟩) fun _ => Sat.bind guarded_statusResult ?_
        rintro _ _ ⟨rfl, rfl⟩ h
        cases h
    · refine Sat.perform (fun _ => ⟨st, hst, by omega⟩) fun _ => ?_
      refine ih (c := c.activate st' id) _ ?_ hs hp hq hh
      simp only [activate, List.length_append, List.length_singleton]
      omega

theorem guarded_startStream (starts : Nat → StartIo)
    (hp : c.phase = .handshake ∨ c.phase = .wait ∨ c.phase = .startShutdown)
    (hq : c.quicheConnection ≠ none) (hh : c.quicheH3Connection ≠ none) :
    Guarded op c₀ (startStream starts)
      (fun r c' => r = .ok → (.wait ≤ c.status → .wait ≤ c'.status) ∧ c'.phase = c.phase) c := by
  refine Sat.get fun _ => ?_
  split
  · exact fun _ => ⟨fun h => h, rfl⟩
  rename_i hroom
  split
  · exact fun _ => ⟨fun h => h, rfl⟩
  rename_i hs
  refine Sat.bind (guarded_startLoop starts _ 0 (by omega) (by tauto) hp hq hh) ?_
  rintro ⟨result, num⟩ c' hpost
  dsimp only at hpost ⊢
  split
  · exact fun h => absurd h ‹_›
  · rename_i hr
    obtain ⟨hs', hp'⟩ := hpost (not_not.1 hr)
    refine Sat.get fun _ => ?_
    split
    · exact Sat.perform (fun _ => (by tauto)) fun _ _ =>
        ⟨fun _ => show QwfsStatus.wait ≤ .connecting by decide, hp'⟩
    · exact fun _ => ⟨fun h => hs' ▸ h, hp'⟩

/-! ### The phase functions -/

theorem guarded_updatePhaseInitialize (io : UpdateIo) (hp : c.phase = .initializing) :
    Guarded op c₀ (updatePhaseInitialize io) (fun _ _ => True) c := by
  refine Sat.get fun _ => ?_
  split
  · exact .noAddress hp ‹_›
  split
  · exact .noConfig
  · rename_i hpeer hconfig
    exact Sat.perform (fun _ => ⟨hp, by simpa using hpeer, by simpa using hconfig⟩) fun _ => trivial

theorem guarded_updatePhaseCreateSocket (io : UpdateIo) (hp : c.phase = .createSocket) :
    Guarded op c₀ (updatePhaseCreateSocket io) (fun _ _ => True) c :=
  Sat.get fun _ => Sat.perform (fun _ => hp) fun _ => trivial

theorem guarded_useH3Config : Guarded op c₀ useH3Config (fun _ c' => c' = c) c := by
  refine Sat.get fun _ => ?_
  split
  · exact Failing.noConfig
  · exact rfl

theorem guarded_startEarlyData (io : UpdateIo) (hp : c.phase = .handshake) :
    Guarded op c₀ (startEarlyData io) (fun r c' => r = .ok → c'.phase = .handshake) c := by
  refine Sat.bind (guarded_useConnection fun hn => .phase (by rw [hp]; rfl) hn) ?_
  rintro _ _ ⟨rfl, hq⟩
  refine Sat.get fun _ => ?_
  split
  · rename_i h
    refine Sat.bind guarded_useH3Config ?_
    rintro _ c rfl
    have hp' : (c.newH3Connection io.earlyH3).phase = .handshake := hp
    refine Sat.perform (fun _ => ⟨hq, h.2.2⟩) fun _ => Sat.get fun _ => ?_
    split
    · exact nofun
    · refine (guarded_startStream io.starts (.inl hp') hq ‹_›).mono fun _ _ h hr => ?_
      exact (h hr).2.trans hp'
  · exact fun _ => hp

theorem guarded_createH3Connection (io : UpdateIo) (hq : c.quicheConnection ≠ none) :
    Guarded op c₀ (createH3Connection io)
      (fun _ c' => c'.phase = c.phase ∧ c'.quicheConnection ≠ none) c := by
  refine Sat.get fun _ => ?_
  split
  · rename_i h
    refine Sat.bind guarded_useH3Config ?_
    rintro _ _ rfl
    exact fun _ => ⟨⟨hq, h⟩, rfl, hq⟩
  · exact ⟨rfl, hq⟩

theorem guarded_updatePhaseHandshake (io : UpdateIo) (hp : c.phase = .handshake) :
    Guarded op c₀ (updatePhaseHandshake io) (fun _ _ => True) c := by
  refine Sat.bind (guarded_startEarlyData io hp) fun result c hp => ?_
  split
  · trivial
  rename_i hr
  have hp := hp (not_not.1 hr)
  refine Sat.bind (guarded_useConnection fun hn => .phase (by rw [hp]; rfl) hn) ?_
  rintro _ _ ⟨rfl, hq⟩
  split
  · trivial
  refine Sat.bind (guarded_createH3Connection io hq) fun _ c' ⟨hp', hq⟩ => Sat.get fun _ => ?_
  split
  · exact Sat.perform (fun _ => ⟨hq, ‹_›⟩) fun _ _ => trivial
  · exact Sat.perform (fun _ => ⟨hp'.trans hp, hq, ‹_›⟩) fun _ => trivial

theorem guarded_dispatch {id : Int} (event : H3Event) {st : Stream} (h : Dispatched c id st) :
    Guarded op c₀ (dispatch id event st) (fun _ c' => Polling c') c := by
  have hpoll : Polling c := h.toPolling
  unfold dispatch
  split
  · rename_i list
    split
    · exact fun _ => ⟨⟨st, h, ‹_›⟩, ⟨hpoll.quic, hpoll.h3, hpoll.status, hpoll.phase, hpoll.retry⟩⟩
    · exact Failing.handler h (.inl ⟨list, ‹_›⟩)
  · rename_i body
    split
    · exact fun _ => ⟨⟨st, h, ‹_›⟩, ⟨hpoll.quic, hpoll.h3, hpoll.status, hpoll.phase, hpoll.retry⟩⟩
    · exact Failing.handler h (.inr ⟨body, ‹_›⟩)
  · exact fun _ => ⟨⟨st, h, rfl⟩, ⟨hpoll.quic, hpoll.h3, hpoll.status, hpoll.phase, hpoll.retry⟩⟩
  · exact fun _ => ⟨⟨st, h⟩, ⟨hpoll.quic, hpoll.h3, hpoll.status, .inr rfl, hpoll.retry⟩⟩
  all_goals exact hpoll

theorem guarded_checkSettings (rc : Int) (h : Polling c) :
    Guarded op c₀ (checkSettings rc) (fun _ c' => Polling c') c := by
  refine Sat.get fun _ => ?_
  split
  · exact fun _ => ⟨h, ⟨h.quic, h.h3, h.status, h.phase, h.retry⟩⟩
  · exact h

theorem streamAt_self {p : Nat} {st : Stream} (h : c.streamAt p = some st) : st.self = p := by
  simpa using List.find?_some h

theorem guarded_pollLoop (ios : List PollIo)
    (hf : c.quicheH3Connection = none ∨ c.quicheConnection = none → Failing op c₀ c .nullHandle)
    (hpoll : c.quicheH3Connection ≠ none → c.quicheConnection ≠ none → Polling c) :
    Guarded op c₀ (pollLoop ios) (fun _ c' => Polling c') c := by
  induction ios generalizing c with
  | nil =>
    refine (guarded_useH3Connection hf).mono ?_
    rintro _ _ ⟨rfl, hh, hq⟩
    exact hpoll hh hq
  | cons io ios ih =>
    refine Sat.bind (guarded_useH3Connection hf) ?_
    rintro _ c ⟨rfl, hh, hq⟩
    split
    · exact hpoll hh hq
    refine Sat.bind (guarded_checkSettings io.settings (hpoll hh hq)) fun _ c h => ?_
    refine Sat.get fun _ => ?_
    split
    · exact fun _ => ⟨⟨h, ‹_›⟩, ⟨h.quic, h.h3, h.status, h.phase, h.retry⟩⟩
    · exact h
    rename_i p hentry
    split
    · exact .dangling h hentry ‹_›
    rename_i st hst
    have hself : st.self = p := streamAt_self hst
    subst hself
    refine Sat.bind (guarded_dispatch io.event ⟨h, hentry, hst⟩) fun _ c' h' => ?_
    exact ih (fun hn => (hn.elim h'.h3 h'.quic).elim) fun _ _ => h'

theorem guarded_checkIdle (hs : .wait ≤ c.status) : Guarded op c₀ checkIdle (fun _ _ => True) c := by
  refine Sat.get fun _ => ?_
  split
  · exact fun _ => ⟨⟨‹_›, hs⟩, trivial⟩
  · trivial

theorem guarded_updatePhaseWait (io : UpdateIo) (hp : c.phase = .wait) :
    Guarded op c₀ (updatePhaseWait io) (fun _ _ => True) c := by
  refine Sat.get fun _ => ?_
  split
  · exact Sat.perform (fun _ => ⟨hp, ‹_›⟩) fun _ => trivial
  rename_i hr
  split
  · trivial
  rename_i hs
  rw [lt_wait_iff, not_not] at hs
  refine Sat.bind (guarded_pollLoop io.polls (fun hn => .poll hp hs hn) fun hh hq =>
    ⟨hq, hh, hs, .inl hp, by simpa using hr⟩) fun _ c h => ?_
  refine Sat.bind (guarded_startStream io.starts (.inr h.phase) h.quic h.h3) fun result c' hs' => ?_
  split
  · trivial
  · rename_i hr
    exact Sat.bind (guarded_checkIdle ((hs' (not_not.1 hr)).1 h.status)) fun _ _ _ => trivial

theorem guarded_updatePhaseWaitShutdown (io : UpdateIo) (hp : c.phase = .waitShutdown) :
    Guarded op c₀ (updatePhaseWaitShutdown io) (fun _ _ => True) c := by
  refine Sat.bind (guarded_useConnection fun hn => .phase (by rw [hp]; rfl) hn) ?_
  rintro _ c ⟨rfl, hq⟩
  split
  · refine Sat.get fun _ => Sat.perform (fun _ => ?_) fun _ => trivial
    cases h : c.callAbort with
    | true => exact ⟨hp, hq, h⟩
    | false => exact ⟨hp, hq, h⟩
  · trivial

theorem createUdpSocket_frame (io : SocketIo) : (c.createUdpSocket io).phase = c.phase ∧
    (c.createUdpSocket io).quicheConnection = c.quicheConnection := by
  cases io <;> exact ⟨rfl, rfl⟩

/-- Without an address the name was not resolved, or the socket failed. -/
theorem createUdpSocket_peer {io : SocketIo} (h : (c.createUdpSocket io).peerAddInfo = false)
    (hs : (c.createUdpSocket io).status ≠ .errorResolveHost) : io = .noSocket ∨ io = .notConnected := by
  cases io with
  | unresolved => exact absurd rfl hs
  | noSocket => exact .inl rfl
  | notConnected => exact .inr rfl
  | noName => cases h
  | ok => cases h

theorem guarded_updatePhaseConnectionMigration (io : UpdateIo) (hop : op = .update io)
    (hp₀ : c₀.phase = .connectionMigration) (hp : c.phase = .connectionMigration) :
    Guarded op c₀ (updatePhaseConnectionMigration io) (fun _ _ => True) c := by
  have hp' : (c.createUdpSocket io.socket).phase = .connectionMigration :=
    (createUdpSocket_frame io.socket).1.trans hp
  have hpeer : (c.createUdpSocket io.socket).peerAddInfo = false →
      (c.createUdpSocket io.socket).status ≠ .errorResolveHost →
      io.socket = .noSocket ∨ io.socket = .notConnected := createUdpSocket_peer
  refine Sat.perform (fun _ => hp) fun _ => ?_
  show Guarded op c₀ _ _ (c.createUdpSocket io.socket)
  generalize c.createUdpSocket io.socket = c at hp' hpeer ⊢
  refine Sat.get fun _ => ?_
  split
  · split
    · refine Sat.bind (guarded_useConnection fun hn => .phase (by rw [hp']; rfl) hn) ?_
      rintro _ _ ⟨rfl, hq⟩
      exact Sat.perform (fun _ => ⟨hq, .inr ⟨hp', ‹_›⟩⟩) fun _ => trivial
    · trivial
  · rename_i hs
    refine Sat.bind (guarded_useConnection fun hn => .phase (by rw [hp']; rfl) hn) ?_
    rintro _ _ ⟨rfl, hq⟩
    split
    · exact Sat.perform (fun _ => ⟨hp', hq, hs⟩) fun _ _ => trivial
    rename_i hcid
    split
    · rename_i hnone
      exact .migrate hop hp₀ (by simpa using hcid) (hpeer hnone hs)
    · rename_i hsome
      exact Sat.perform (fun _ => ⟨hp', hq, hs, by simpa using hsome⟩) fun _ => trivial

/-! ### Update -/

theorem guarded_checkConnectionClosed (closed : Bool) :
    Guarded op c₀ (checkConnectionClosed closed) (fun _ _ => True) c := by
  refine Sat.get fun _ => ?_
  split
  · trivial
  rename_i h
  split
  · simp only [not_or, lt_wait_iff, not_not] at h
    exact fun _ => ⟨h, trivial⟩
  · trivial

theorem guarded_checkConnectionTimeout (millis : Nat) (closed : Bool) :
    Guarded op c₀ (checkConnectionTimeout millis closed) (fun _ _ => True) c := by
  refine Sat.get fun _ => ?_
  split
  · trivial
  rename_i h
  split
  · simp only [not_or, lt_wait_iff, not_not] at h
    exact fun _ => ⟨⟨h.1, .inl h.2⟩, trivial⟩
  · trivial

theorem guarded_updateFunc (io : UpdateIo) (hop : op = .update io)
    (hp₀ : c.phase = .connectionMigration → c₀.phase = .connectionMigration) :
    Guarded op c₀ (updateFunc io c.phase) (fun _ _ => True) c := by
  cases h : c.phase with
  | uninitialized => exact guarded_statusResult.mono fun _ _ _ => trivial
  | createSocket => exact guarded_updatePhaseCreateSocket io h
  | initializing => exact guarded_updatePhaseInitialize io h
  | handshake => exact guarded_updatePhaseHandshake io h
  | wait => exact guarded_updatePhaseWait io h
  | startShutdown => exact Sat.perform (fun _ => h) fun _ => trivial
  | waitShutdown => exact guarded_updatePhaseWaitShutdown io h
  | connectionMigration => exact guarded_updatePhaseConnectionMigration io hop (hp₀ h) h

theorem guarded_updatePhase (io : UpdateIo) (hop : op = .update io)
    (hp₀ : c.phase = .connectionMigration → c₀.phase = .connectionMigration) :
    Guarded op c₀ (updatePhase io) (fun _ _ => True) c := by
  refine Sat.get fun _ => Sat.bind (guarded_updateFunc io hop hp₀) fun result c _ => ?_
  split
  · trivial
  · exact Sat.bind (guarded_checkConnectionClosed _) fun _ c _ =>
      Sat.bind (guarded_checkConnectionTimeout _ _) fun _ _ _ => trivial

theorem guarded_update (io : UpdateIo) (hop : op = .update io) :
    Guarded op c (update io) (fun _ _ => True) c := by
  -- a result that is no error, without a connection: nothing was done
  have hrecover : ∀ {c₁ c₂ r}, Transferred c₁ r c₂ → r ≠ .ok →
      c₂.quicheConnection = none → Failing op c c₂ .nullHandle := fun h hr hn => by
    rcases h.unconnected hn with ⟨hr', -⟩ | ⟨-, hp⟩
    · exact absurd hr' hr
    · exact .phase (by rw [hp]; rfl) hn
  refine Sat.bind (guarded_send io.send) fun result c₁ h₁ => ?_
  split
  · exact guarded_recover _ (hrecover h₁ ‹_›)
  rename_i hr
  have hsame : c₁.quicheConnection = none → c₁ = c := fun hn =>
    (h₁.unconnected hn).elim And.right fun h => absurd h.1 hr
  have hreceive : c₁.sock = true → c₁.quicheConnection = none →
      io.recv.head?.map RecvIo.recvfrom = some .ok → Failing op c c₁ .nullHandle := fun hs hn hhead => by
    obtain rfl := hsame hn
    exact .received hop hs hn hhead
  refine Sat.bind (guarded_receive io.recv hreceive) fun result c₂ h₂ => ?_
  split
  · exact guarded_recover _ (hrecover h₂ ‹_›)
  · exact guarded_updatePhase io hop fun hp => h₁.migrating (h₂.migrating hp)

/-! ### The other calls -/

theorem guarded_issueCallback (io : StartIo) {st : Stream} {starts : Nat → StartIo}
    (hop : op = .issueCallbacks starts) (h₀ : st ∈ c₀.h3Streams) (h : st ∈ c.h3Streams) :
    Guarded op c₀ (issueCallback io st)
      (fun _ c' => ∀ x ∈ c.h3Streams, x.self ≠ st.self → x ∈ c'.h3Streams) c := by
  unfold issueCallback
  split
  · refine fun _ => ⟨⟨h, ‹_›⟩, fun x hx hne => ?_⟩
    exact (List.mem_eraseP_of_neg (by simpa using hne)).2 hx
  split
  · refine Sat.perform (fun _ => ⟨h, ‹_›⟩) fun _ => ?_
    split
    · exact fun _ => ⟨⟨h, ‹_›⟩, fun x hx _ => hx⟩
    · rename_i hs _ hcritical
      rw [Stream.retry_eq]
      exact Failing.retry hop h₀ fun hsettled => hcritical (hsettled hs)
  · exact fun x hx _ => hx

theorem guarded_issueLoop {starts : Nat → StartIo} (hop : op = .issueCallbacks starts) (sts : List Stream)
    (h₀ : ∀ st ∈ sts, st ∈ c₀.h3Streams) (hsub : ∀ st ∈ sts, st ∈ c.h3Streams)
    (hnd : (sts.map Stream.self).Nodup) : Guarded op c₀ (issueLoop starts sts) (fun _ _ => True) c := by
  induction sts generalizing c with
  | nil => trivial
  | cons st sts ih =>
    simp only [List.mem_cons, forall_eq_or_imp] at h₀ hsub
    simp only [List.map_cons, List.nodup_cons] at hnd
    refine Sat.bind (guarded_issueCallback _ hop h₀.1 hsub.1) fun _ c' hkeep =>
      ih h₀.2 (fun x hx => ?_) hnd.2
    refine hkeep x (hsub.2 x hx) fun heq => hnd.1 ?_
    exact heq ▸ List.mem_map_of_mem hx

theorem guarded_issueCallbacks {starts : Nat → StartIo} (hop : op = .issueCallbacks starts) :
    Guarded op c (issueCallbacks starts) (fun _ _ => True) c := by
  refine Sat.get fun h => guarded_issueLoop hop _ (fun _ hx => hx) (fun _ hx => hx) ?_
  have := h.nodup
  simp only [streams, List.map_append, List.append_assoc] at this
  exact this.of_append_left

end Connection

open Connection

theorem guarded_body (op : Op) (c : Connection) : Guarded op c op.body (fun _ _ => True) c := by
  cases op with
  | setOptions options =>
    refine Sat.bind (R := fun _ _ => True) (Sat.get fun _ => ?_) fun _ _ _ => trivial
    split
    · trivial
    · exact Sat.perform (fun _ => not_not.1 ‹_›) fun _ => trivial
  | publishRequest req => exact fun _ => ⟨trivial, trivial⟩
  | update io => exact Sat.bind (guarded_update io rfl) fun _ _ _ => trivial
  | issueCallbacks starts => exact guarded_issueCallbacks rfl
  | getProgress => exact Sat.get fun _ => Sat.perform (fun _ => trivial) fun _ => trivial
  | retry =>
    refine Sat.get fun _ => ?_
    split
    · exact fun _ => ⟨‹_›, trivial⟩
    · trivial
  | abort =>
    refine Sat.bind (R := fun _ _ => True) (Sat.get fun _ => ?_) fun _ _ _ => trivial
    split
    · rename_i hs
      refine Sat.bind (guarded_useConnection fun hn => .abort rfl hs hn) ?_
      rintro _ _ ⟨rfl, hq⟩
      exact Sat.perform (fun _ => ⟨hs, hq⟩) fun _ => trivial
    · trivial
  | reconnect n now =>
    exact Sat.bind (guarded_reconnect n fun hn => .reconnect rfl hn) fun _ _ _ => trivial

/-- Every action of a run is `Enabled`. -/
theorem guarded_exec (ops : List Op) (c : Connection) :
    (exec ops).Sat Addressed (fun _ _ => True) Enabled (fun _ _ => True) (fun _ _ => True) c := by
  refine sat_session _ (fun op c _ => Sat.perform (fun _ => trivial) fun _ => ?_) ops c trivial
  exact (guarded_body op _).faults fun _ _ _ => trivial

end Nhh3
