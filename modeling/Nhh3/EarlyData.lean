import Nhh3.Delivery
/-!
# Requests in early data

With a saved session the first requests are sent before the handshake is done. A
client cannot tell: its requests are answered and reported as by a connection that
waits for the end of the handshake.
-/

namespace Nhh3

open Lib Lib.Prog Lib.Cells Connection

/-! ## The states of an opening -/

/-- Nothing is under way, and these requests wait. -/
structure Waits (stock : List Stream) (max : Nat) (c : Connection) : Prop where
  addressed : Addressed c
  registered : Registered c
  active : c.h3Streams = []
  stock : c.h3StreamsStock = stock
  limit : c.options.maxConcurrentStreams = max
  retry : c.callRetry = false

/-- The handshake is under way. -/
structure Shaking (c : Connection) : Prop where
  addressed : Addressed c
  quic : c.quicheConnection ≠ none
  phase : c.phase = .handshake
  status : c.status = .wait ∨ c.status = .connecting
  retry : c.callRetry = false

theorem Shaking.not_error {c : Connection} (h : Shaking c) : ¬ c.status < .wait := by
  rcases h.status with hs | hs <;> rw [hs] <;> decide

/-- A saved session is read in phase Initialize. -/
def Loads (c : Connection) (io : UpdateIo) : Prop :=
  c.options.enableEarlyData = true ∧ c.zeroRttSessionPath ≠ "" ∧ io.init.session = true

namespace Connection
variable {c c₁ c₂ : Connection} {io first second last : UpdateIo} {ios : List UpdateIo} {stock batch rest : List Stream}
  {max : Nat} {starts : Nat → StartIo}

/-- An Update whose sends and receives do nothing is its phase function. -/
theorem run_silent (hsend : (send io.send).Does (c.begun io) [] .ok (c.begun io))
    (hreceive : (receive io.recv).Does (c.begun io) [] .ok (c.begun io))
    (hphase : (updatePhase io).run (c.begun io) = .ok (.ok, c₁)) : (Op.run (.update io)).run c = .ok ((), c₁) := by
  have hupdate : (update io).Does (c.begun io) _ .ok c₁ := hsend.then (hreceive.then ⟨hphase, rfl⟩)
  have hbody := hupdate.bind (f := fun _ => (pure () : P Unit)) (Does.pure ..)
  exact (Does.perform hbody).run

/-! ## The socket and the connection -/

/-- The first Update: it opens the socket. -/
theorem run_createSocket (hphase : c.phase = .createSocket) (hsock : c.sock = false)
    (hsocket : io.socket = .ok) :
    (Op.run (.update io)).run c = .ok ((), ((c.begun io).createSocket .ok).1) := by
  have hfunc : (updateFunc io (c.begun io).phase).run (c.begun io) = .ok (.ok, ((c.begun io).createSocket .ok).1) := by
    rw [show (c.begun io).phase = .createSocket from hphase, updateFunc, updatePhaseCreateSocket, hsocket]
    rfl
  have hdone := does_updatePhase ⟨hfunc, rfl⟩ (.inl (by decide : Phase.initializing < .wait))
    (does_noTimer (.inl (by decide : Phase.initializing < .handshake)) _)
  refine run_silent (Does.get ?_) (Does.get ?_) hdone.run
  · rw [if_pos (.inl hsock)]
    exact Does.pure ..
  · rw [if_pos (show (c.begun io).sock = false from hsock)]
    exact Does.pure ..

theorem waits_createSocket (h : Waits stock max c) (io : SocketIo) (hA : Addressed (c.createSocket io).1) :
    Waits stock max (c.createSocket io).1 := by
  obtain ⟨d, hd⟩ := createSocket_shape (c := c) io
  rw [hd] at hA ⊢
  exact ⟨hA, ⟨h.registered.ids, h.registered.active, h.registered.others⟩, h.active, h.stock, h.limit, h.retry⟩

/-- What the second Update needs: quiche can be called, and the server does not speak first. -/
structure Initializes (c : Connection) (io : UpdateIo) : Prop where
  config : io.init.config = true
  h3Config : io.init.h3Config = true
  connect : io.init.connect = true
  qlog : c.qlogPath = "" ∨ io.init.qlog = true
  silent : ∀ r ∈ io.recv, ∃ error, r.recvfrom = .failed error true
  timer : io.timeoutMillis ≠ 0 ∨ io.closedTimeout = false

theorem does_receiveNothing (h : ∀ r ∈ io.recv, ∃ error, r.recvfrom = .failed error true) :
    (receive io.recv).Does c [] .ok c := by
  refine Does.get ?_
  split
  · exact Does.pure ..
  · cases hrecv : io.recv with
    | nil => exact Does.pure ..
    | cons r rs =>
      obtain ⟨error, hfailed⟩ := h r (hrecv ▸ List.mem_cons_self)
      unfold receiveLoop
      rw [hfailed]
      exact Does.pure ..

/-- The state in which the handshake begins. -/
def shaken (c : Connection) (io : UpdateIo) : Connection :=
  { c.begun io with
    quicheConfig := true, quicheH3Config := true, quicheConnection := some c.nextHandle,
    nextHandle := c.nextHandle + 1, phase := .handshake,
    isLoadedSessionForZeroRtt :=
      if c.options.enableEarlyData then c.loadSessionForZeroRtt io.init else c.isLoadedSessionForZeroRtt }

theorem initializeQuiche_shaken (h : Initializes c io) :
    (c.begun io).initializeQuiche io.init = (c.shaken io, .ok) := by
  have hqlog : (c.begun io).qlogPath = "" ∨ io.init.qlog = true := h.qlog
  unfold initializeQuiche setQlogSettings setOptionsInternal createQuicheConnection
  simp only [h.config, h.h3Config, h.connect, hqlog, ↓reduceIte, reduceCtorEq, ne_eq, not_true_eq_false]
  unfold shaken
  by_cases hearly : c.options.enableEarlyData = true
  · rw [if_pos (show (c.begun io).options.enableEarlyData = true from hearly), if_pos hearly]
    rfl
  · rw [if_neg (show ¬ (c.begun io).options.enableEarlyData = true from hearly), if_neg hearly]
    rfl

/-- The second Update: it makes the connection, and the handshake begins. -/
theorem run_initialize (hphase : c.phase = .initializing) (hstatus : c.status = .wait) (hpeer : c.peerAddInfo = true)
    (hq : c.quicheConnection = none) (h : Initializes c io) :
    (Op.run (.update io)).run c = .ok ((), c.shaken io) := by
  have hfunc : (updateFunc io (c.begun io).phase).run (c.begun io) = .ok (.ok, c.shaken io) := by
    rw [show (c.begun io).phase = .initializing from hphase, updateFunc]
    show (if c.peerAddInfo = false then _ else if io.init.config = false then _ else _ : P QwfsResult).run _ = _
    rw [hpeer, if_neg (by decide), h.config, if_neg (by decide), run_bind]
    show Except.ok (((c.begun io).initializeQuiche io.init).2, ((c.begun io).initializeQuiche io.init).1) = _
    rw [initializeQuiche_shaken h]
  obtain ⟨hist, htimer⟩ : ∃ hist,
      (checkConnectionTimeout io.timeoutMillis io.closedTimeout).Does (c.shaken io) hist () (c.shaken io) := by
    refine does_calmTimer h.timer (nofun : (c.shaken io).quicheConnection ≠ none)
      (by decide : ¬ Phase.handshake < .handshake) ?_
    rw [show (c.shaken io).status = .wait from hstatus]
    decide
  have hdone := does_updatePhase (c := c.begun io) ⟨hfunc, rfl⟩ (.inl (by decide : Phase.handshake < .wait)) htimer
  refine run_silent (Does.get ?_) (does_receiveNothing h.silent) hdone.run
  rw [if_pos (.inr hq)]
  exact Does.pure ..

/-! ## The handshake -/

/-- No requests are sent in early data: quiche is not in early data, or no session was loaded, or the HTTP/3 session
is there already. -/
def NoEarlyData (c : Connection) (io : UpdateIo) : Prop :=
  io.inEarlyData = false ∨ c.isLoadedSessionForZeroRtt = false ∨ c.quicheH3Connection ≠ none

theorem startEarlyData_none (hq : c.quicheConnection ≠ none) (h : NoEarlyData c io) :
    (startEarlyData io).run c = .ok (.ok, c) := by
  have hno : ¬ (io.inEarlyData = true ∧ c.isLoadedSessionForZeroRtt = true ∧ c.quicheH3Connection = none) := by
    rintro ⟨hearly, hloaded, hh3⟩
    rcases h with h | h | h
    · exact Bool.noConfusion (hearly.symm.trans h)
    · exact Bool.noConfusion (hloaded.symm.trans h)
    · exact h hh3
  rw [startEarlyData, run_bind, (does_useConnection hq).run]
  show (if _ then _ else _ : P QwfsResult).run c = _
  rw [if_neg hno]
  rfl

/-- The phase function of the handshake, once the early data is dealt with. -/
theorem run_updatePhaseHandshake (hearly : (startEarlyData io).run c = .ok (.ok, c₁)) (hq : c₁.quicheConnection ≠ none)
    (hopen : io.established = false) : (updatePhaseHandshake io).run c = .ok (.ok, c₁) := by
  rw [updatePhaseHandshake, run_bind, hearly]
  dsimp only
  rw [if_neg (not_not.2 rfl), run_bind, (does_useConnection hq).run]
  dsimp only
  rw [if_pos hopen]
  rfl

/-- An Update in which the handshake goes on. -/
theorem run_shaking (hcalm : io.Calm) (hS : Shaking c) (hopen : io.established = false) (hno : NoEarlyData c io) :
    (Op.run (.update io)).run c = .ok ((), c.begun io) := by
  refine run_calm hcalm hS.quic ?_ hS.quic ?_ hS.not_error
  · rw [hS.phase]
    exact run_updatePhaseHandshake (startEarlyData_none hS.quic hno) hS.quic hopen
  · rw [show (c.begun io).phase = .handshake from hS.phase]
    decide

/-- The requests are sent in early data. -/
structure SendsEarly (batch : List Stream) (c : Connection) (io : UpdateIo) : Prop where
  early : io.inEarlyData = true
  loaded : c.isLoadedSessionForZeroRtt = true
  h3 : c.quicheH3Connection = none
  config : c.quicheH3Config = true
  session : io.earlyH3 = true
  launches : Launches io.starts batch

/-- The HTTP/3 session for early data is made, and the batch starts. -/
theorem startEarlyData_starts (hS : Shaking c) (hW : Waits (batch ++ rest) max c) (h : SendsEarly batch c io)
    (hne : batch ≠ []) (hroom : batch.length ≤ max) (hrest : rest = [] ∨ batch.length = max) :
    ∃ c₁, (startEarlyData io).run c = .ok (.ok, c₁) ∧ Launched io.starts batch rest (c.newH3Connection true) c₁ := by
  obtain ⟨q, hq⟩ := Option.ne_none_iff_exists'.1 hS.quic
  have hsession : (c.newH3Connection true).quicheH3Connection = some ⟨c.nextHandle, q⟩ := by
    simp [newH3Connection, hq]
  obtain rfl := hW.limit
  have hquic : (c.newH3Connection true).quicheConnection ≠ none := hS.quic
  obtain ⟨c₁, hstart, hlaunched⟩ := run_startBatch hquic (by rw [hsession]; exact nofun) hS.status
    ⟨hW.registered.ids, hW.registered.active, hW.registered.others⟩ hW.active hW.stock hne hroom hrest h.launches
  refine ⟨c₁, ?_, hlaunched⟩
  rw [startEarlyData, run_bind, (does_useConnection hS.quic).run]
  show (if _ then _ else _ : P QwfsResult).run c = _
  rw [if_pos ⟨h.early, h.loaded, h.h3⟩, run_bind]
  have hconfig : useH3Config.run c = .ok ((), c) := by
    show (if c.quicheH3Config = false then _ else _ : P Unit).run c = _
    rw [h.config, if_neg (by decide)]
    rfl
  rw [hconfig, h.session]
  show (if (c.newH3Connection true).quicheH3Connection = none then _ else _ : P QwfsResult).run _ = _
  rw [hsession, if_neg nofun]
  exact hstart

/-- An Update that sends the batch in early data. -/
theorem run_earlyData (hcalm : io.Calm) (hS : Shaking c) (hW : Waits (batch ++ rest) max c)
    (hopen : io.established = false) (h : SendsEarly batch c io) (hne : batch ≠ []) (hroom : batch.length ≤ max)
    (hrest : rest = [] ∨ batch.length = max) : ∃ c₁, (Op.run (.update io)).run c = .ok ((), c₁) ∧
      Launched io.starts batch rest ((c.begun io).newH3Connection true) c₁ ∧ Shaking c₁ := by
  have hA : Addressed (c.begun io) := addressed_apply (a := .call (.update io)) hS.addressed trivial
  have hS' : Shaking (c.begun io) := ⟨hA, hS.quic, hS.phase, hS.status, hS.retry⟩
  have hW' : Waits (batch ++ rest) max (c.begun io) :=
    ⟨hA, ⟨hW.registered.ids, hW.registered.active, hW.registered.others⟩, hW.active, hW.stock, hW.limit, hW.retry⟩
  obtain ⟨c₁, hstart, hlaunched⟩ := startEarlyData_starts hS' hW' { h with } hne hroom hrest
  have hphase : c₁.phase = .handshake := hlaunched.phase.trans hS.phase
  have hq₁ : c₁.quicheConnection ≠ none := by
    rw [hlaunched.quic]
    exact hS.quic
  have hrun : (Op.run (.update io)).run c = .ok ((), c₁) := by
    refine run_calm hcalm hS.quic ?_ hq₁ ?_ ?_
    · rw [hS.phase]
      exact run_updatePhaseHandshake hstart hq₁ hopen
    · rw [hphase]
      decide
    · rw [hlaunched.status]
      decide
  exact ⟨c₁, hrun, hlaunched, addressed_run hS.addressed hrun, hq₁, hphase, .inr hlaunched.status,
    hlaunched.retry.trans hS.retry⟩

/-! ## The end of the handshake -/

/-- The HTTP/3 session, of the early data or new. -/
def withSession (c : Connection) : Connection :=
  if c.quicheH3Connection = none then c.newH3Connection true else c

theorem withSession_some (hq : c.quicheConnection ≠ none) :
    ∃ h3 n, c.withSession = { c with quicheH3Connection := some h3, nextHandle := n } := by
  unfold withSession
  cases hh3 : c.quicheH3Connection with
  | none =>
    obtain ⟨q, hq⟩ := Option.ne_none_iff_exists'.1 hq
    refine ⟨⟨c.nextHandle, q⟩, c.nextHandle + 1, ?_⟩
    rw [if_pos rfl, newH3Connection, if_pos rfl, hq]
    rfl
  | some h3 =>
    refine ⟨h3, c.nextHandle, ?_⟩
    rw [if_neg nofun, ← hh3]

/-- The Update in which the handshake ends. -/
theorem run_established (hcalm : io.Calm) (hS : Shaking c) (hopen : io.established = true) (hno : NoEarlyData c io)
    (hconfig : c.quicheH3Config = true) (hh3 : io.h3 = true) : ∃ h3 n, (Op.run (.update io)).run c =
      .ok ((), { c.begun io with quicheH3Connection := some h3, nextHandle := n, phase := .wait }) := by
  have hcreate : (createH3Connection io).run (c.begun io) = .ok ((), (c.begun io).withSession) := by
    show (if (c.begun io).quicheH3Connection = none then _ else _ : P Unit).run (c.begun io) = _
    unfold withSession
    split
    · rw [run_bind]
      have huse : useH3Config.run (c.begun io) = .ok ((), c.begun io) := by
        show (if c.quicheH3Config = false then _ else _ : P Unit).run _ = _
        rw [hconfig, if_neg (by decide)]
        rfl
      rw [huse, hh3]
      rfl
    · rfl
  obtain ⟨h3, n, hsession⟩ := withSession_some (c := c.begun io) hS.quic
  rw [hsession] at hcreate
  have hdone : (updatePhaseHandshake io).run (c.begun io) =
      .ok (.ok, { c.begun io with quicheH3Connection := some h3, nextHandle := n, phase := .wait }) := by
    rw [updatePhaseHandshake, run_bind, startEarlyData_none (c := c.begun io) hS.quic hno]
    dsimp only
    rw [if_neg (not_not.2 rfl), run_bind, (does_useConnection (c := c.begun io) hS.quic).run]
    dsimp only
    rw [if_neg (by rw [hopen]; decide), run_bind, hcreate]
    rfl
  refine ⟨h3, n, run_calm hcalm hS.quic ?_ hS.quic (by decide : ¬ Phase.wait < .handshake) hS.not_error⟩
  rw [hS.phase]
  exact hdone

/-- Updates in which the handshake goes on only read the clock. -/
theorem run_shakings (hS : Shaking c) (hios : ∀ io ∈ ios, io.Calm ∧ io.established = false)
    (hno : ∀ io ∈ ios, NoEarlyData c io) :
    ∃ t, (exec (ios.map .update)).run c = .ok ((), { c with clock := t }) := by
  induction ios generalizing c with
  | nil => exact ⟨c.clock, rfl⟩
  | cons io ios ih =>
    obtain ⟨⟨hcalm, hopen⟩, hrest⟩ := List.forall_mem_cons.1 hios
    obtain ⟨hnow, hlater⟩ := List.forall_mem_cons.1 hno
    have hrun := run_shaking hcalm hS hopen hnow
    have hS₁ : Shaking (c.begun io) := ⟨addressed_run hS.addressed hrun, hS.quic, hS.phase, hS.status, hS.retry⟩
    obtain ⟨t, ht⟩ := ih hS₁ hrest hlater
    refine ⟨t, ?_⟩
    rw [List.map_cons, run_session_cons, hrun]
    exact ht

end Connection

/-! ## Openings -/

/-- The Updates from the socket to the end of the handshake. -/
structure Opening where
  first : UpdateIo
  second : UpdateIo
  handshake : List UpdateIo
  last : UpdateIo

def Opening.ios (o : Opening) : List UpdateIo := o.first :: o.second :: (o.handshake ++ [o.last])

def Opening.ops (o : Opening) : List Op := o.ios.map .update

theorem Opening.ops_eq (o : Opening) :
    [o.first, o.second].map Op.update ++ (o.handshake.map .update ++ [.update o.last]) = o.ops := by
  simp [Opening.ops, Opening.ios]

/-- The connection is not open yet. -/
structure Unopened (stock : List Stream) (max : Nat) (c : Connection) : Prop extends Waits stock max c where
  phase : c.phase = .createSocket
  sock : c.sock = false

/-- Nothing fails on the way. -/
structure Opening.Connects (c : Connection) (o : Opening) : Prop where
  resolved : o.first.socket = .ok
  initializes : Initializes c o.second
  handshake : ∀ io ∈ o.handshake, io.Calm ∧ io.established = false
  calm : o.last.Calm
  established : o.last.established = true
  h3 : o.last.h3 = true

/-- No requests are sent before the handshake is done. -/
def Opening.Late (o : Opening) : Prop := ∀ io ∈ o.handshake ++ [o.last], io.inEarlyData = false

/-- A session is loaded, and in this Update of the handshake the batch is sent. -/
structure Opening.Early (c : Connection) (batch : List Stream) (o : Opening) (early : UpdateIo) : Prop where
  loads : Loads c o.second
  split : ∃ before after, o.handshake = before ++ early :: after ∧ ∀ io ∈ before, io.inEarlyData = false
  inEarlyData : early.inEarlyData = true
  session : early.earlyH3 = true
  launches : Launches early.starts batch

section Openings
variable {server : Stream.Ticket → List Arrival} {c c' : Connection} {o o' : Opening} {stock batch rest : List Stream}
  {max : Nat}

/-- What the first two Updates come to. -/
structure Begun (stock : List Stream) (max : Nat) (c₀ : Connection) (io : UpdateIo) (c : Connection) : Prop where
  shaking : Shaking c
  waits : Waits stock max c
  h3 : c.quicheH3Connection = none
  config : c.quicheH3Config = true
  loaded : c.isLoadedSessionForZeroRtt = true ↔ Loads c₀ io

theorem run_begin (h : Unopened stock max c) (ho : o.Connects c) :
    ∃ c₁, (exec ([o.first, o.second].map .update)).run c = .ok ((), c₁) ∧ Begun stock max c o.second c₁ := by
  have hfirst := run_createSocket h.phase h.sock ho.resolved
  have hA₁ := addressed_run h.addressed hfirst
  have hW : Waits stock max (c.begun o.first) :=
    ⟨addressed_apply (a := .call (.update o.first)) h.addressed trivial,
      ⟨h.registered.ids, h.registered.active, h.registered.others⟩, h.active, h.stock, h.limit, h.retry⟩
  have hW₁ := waits_createSocket hW .ok hA₁
  have hi := ho.initializes
  have hsecond := run_initialize (c := ((c.begun o.first).createSocket .ok).1) rfl rfl rfl rfl
    ⟨hi.config, hi.h3Config, hi.connect, hi.qlog, hi.silent, hi.timer⟩
  have hloads : (((c.begun o.first).createSocket .ok).1.shaken o.second).isLoadedSessionForZeroRtt = true ↔
      Loads c o.second := by
    show (if c.options.enableEarlyData = true then c.loadSessionForZeroRtt o.second.init else false) = true ↔ _
    simp [Loads, Connection.loadSessionForZeroRtt]
  have hstatus : ((c.begun o.first).createSocket .ok).1.status = .wait := rfl
  have hh3 : ((c.begun o.first).createSocket .ok).1.quicheH3Connection = none := rfl
  generalize ((c.begun o.first).createSocket .ok).1 = c₁ at *
  have hA := addressed_run hA₁ hsecond
  refine ⟨_, ?_, { shaking := ?_, waits := ?_, h3 := ?_, config := rfl, loaded := hloads }⟩
  · exact run_append Op.run (run_singleton Op.run hfirst) (run_singleton Op.run hsecond)
  · exact ⟨hA, nofun, rfl, .inl hstatus, hW₁.retry⟩
  · exact ⟨hA, ⟨hW₁.registered.ids, hW₁.registered.active, hW₁.registered.others⟩, hW₁.active, hW₁.stock, hW₁.limit,
      hW₁.retry⟩
  · exact hh3

theorem shaking_clock (h : Shaking c) (t : Int) : Shaking { c with clock := t } :=
  ⟨⟨h.addressed.nodup, h.addressed.lt⟩, h.quic, h.phase, h.status, h.retry⟩

theorem waits_clock (h : Waits stock max c) (t : Int) : Waits stock max { c with clock := t } :=
  ⟨⟨h.addressed.nodup, h.addressed.lt⟩, ⟨h.registered.ids, h.registered.active, h.registered.others⟩, h.active,
    h.stock, h.limit, h.retry⟩

/-- The requests that wait for the end of the handshake wait when it has come. -/
theorem run_late (h : Unopened stock max c) (ho : o.Connects c) (hlate : o.Late) :
    ∃ c', (exec o.ops).run c = .ok ((), c') ∧ Between stock max c' := by
  obtain ⟨c₁, hrun₁, hbegun⟩ := run_begin h ho
  have hno : ∀ io ∈ o.handshake, NoEarlyData c₁ io := fun io hio => .inl (hlate io (List.mem_append_left _ hio))
  obtain ⟨t, hrun₂⟩ := run_shakings hbegun.shaking ho.handshake hno
  have hS := shaking_clock hbegun.shaking t
  have hW := waits_clock hbegun.waits t
  have hconfig : { c₁ with clock := t : Connection }.quicheH3Config = true := hbegun.config
  generalize { c₁ with clock := t : Connection } = c₂ at *
  obtain ⟨h3, n, hrun₃⟩ := run_established ho.calm hS ho.established (.inl (hlate o.last (by simp))) hconfig ho.h3
  refine ⟨_, ?_, ⟨addressed_run hS.addressed hrun₃, hS.quic, nofun, rfl, hS.status, hS.retry⟩,
    ⟨hW.registered.ids, hW.registered.active, hW.registered.others⟩, hW.active, hW.stock, hW.limit⟩
  exact o.ops_eq ▸ run_append Op.run hrun₁ (run_append Op.run hrun₂ (run_singleton Op.run hrun₃))

/-- The batch that is sent in early data is under way when the handshake is done. -/
theorem run_early (h : Unopened (batch ++ rest) max c) (ho : o.Connects c) {early : UpdateIo}
    (hearly : o.Early c batch early) (hne : batch ≠ []) (hroom : batch.length ≤ max)
    (hrest : rest = [] ∨ batch.length = max) :
    ∃ c', (exec o.ops).run c = .ok ((), c') ∧ Underway early.starts batch rest c' ∧ Serving c' ∧
      c'.options.maxConcurrentStreams = max := by
  obtain ⟨before, after, hsplit, hbefore⟩ := hearly.split
  have hhandshake := ho.handshake
  rw [hsplit, List.forall_mem_append, List.forall_mem_cons] at hhandshake
  obtain ⟨hshake₁, hshake₂, hshake₃⟩ := hhandshake
  obtain ⟨c₁, hrun₁, hbegun⟩ := run_begin h ho
  obtain ⟨t, hrun₂⟩ := run_shakings hbegun.shaking hshake₁ fun io hio => .inl (hbefore io hio)
  have hsends : SendsEarly batch { c₁ with clock := t } early :=
    ⟨hearly.inEarlyData, hbegun.loaded.2 hearly.loads, hbegun.h3, hbegun.config, hearly.session, hearly.launches⟩
  obtain ⟨c₂, hrun₃, hlaunched, hS₂⟩ := run_earlyData hshake₂.1 (shaking_clock hbegun.shaking t)
    (waits_clock hbegun.waits t) hshake₂.2 hsends hne hroom hrest
  -- from here on there is a session, and nothing more is sent
  have hsession : c₂.quicheH3Connection ≠ none := by
    obtain ⟨q, hq⟩ := Option.ne_none_iff_exists'.1 hbegun.shaking.quic
    rw [hlaunched.h3, newH3Connection, if_pos rfl,
      show (begun early { c₁ with clock := t }).quicheConnection = _ from hq]
    exact nofun
  obtain ⟨t', hrun₄⟩ := run_shakings hS₂ hshake₃ fun io _ => .inr (.inr hsession)
  have hS₃ := shaking_clock hS₂ t'
  obtain ⟨h3, n, hrun₅⟩ := run_established (c := { c₂ with clock := t' }) ho.calm hS₃ ho.established
    (.inr (.inr hsession)) (hlaunched.config.trans hbegun.config) ho.h3
  have hU := hlaunched.underway
  have hrun := run_append Op.run hrun₁ (run_append Op.run hrun₂ (run_append Op.run (run_singleton Op.run hrun₃)
    (run_append Op.run hrun₄ (run_singleton Op.run hrun₅))))
  have hops : [o.first, o.second].map Op.update ++ (before.map .update ++ ([.update early] ++
      (after.map .update ++ [.update o.last]))) = o.ops := by
    rw [← o.ops_eq, hsplit]
    simp
  rw [hops] at hrun
  refine ⟨_, hrun, ⟨hU.active, hU.stock, hU.registered.ids, hU.registered.active, hU.registered.others⟩, ?_, ?_⟩
  · exact ⟨addressed_run hS₃.addressed hrun₅, hS₃.quic, nofun, rfl, hS₃.status, hS₃.retry⟩
  · show c₂.options.maxConcurrentStreams = max
    rw [hlaunched.options]
    exact hbegun.waits.limit

/-- Whether the first requests are sent in early data or wait for the end of the handshake makes no difference to the
client: all requests are delivered, in their order and each with its answer, and no other callback is issued. -/
theorem early_data_delivers (server : Stream.Ticket → List Arrival) (h : Unopened stock max c) (hmax : 0 < max)
    (hwaits : stock ≠ []) (hfresh : ∀ st ∈ stock, st.Pristine ∧ Arrivable st (server st.ticket))
    (ho : o.Connects c) (hlate : o.Late) {rounds : List Round} (hserves : Serves server max stock rounds)
    (ho' : o'.Connects c) {early : UpdateIo} (hearly : o'.Early c (stock.take max) early) {ios : List UpdateIo}
    (htold : Told server early.starts (stock.take max) ios) (retries : Nat → StartIo) {rounds' : List Round}
    (hserves' : Serves server max (stock.drop max) rounds') :
    (∃ c₁, Delivers server (o.ops ++ rounds.flatMap Round.ops) stock c c₁ ∧ Between [] max c₁) ∧
      ∃ c₂, Delivers server (o'.ops ++ ((ios.map .update ++ [.issueCallbacks retries]) ++ rounds'.flatMap Round.ops))
        stock c c₂ ∧ Between [] max c₂ := by
  constructor
  · obtain ⟨c₀, hrun, hbetween⟩ := run_late h ho hlate
    obtain ⟨c₁, hdelivers, hend⟩ := all_delivered server hbetween hmax hfresh hserves
    exact ⟨c₁, (delivers_updates _ hrun).append hdelivers, hend⟩
  · have hne : stock.take max ≠ [] := by simpa [List.take_eq_nil_iff, Nat.ne_of_gt hmax] using hwaits
    have hrest : stock.drop max = [] ∨ (stock.take max).length = max := by
      simp only [List.drop_eq_nil_iff, List.length_take]
      omega
    rw [← List.take_append_drop max stock] at h
    obtain ⟨c₀, hrun, hunderway, hS, hlimit⟩ := run_early h ho' hearly hne (List.length_take_le _ _) hrest
    subst hlimit
    obtain ⟨c₁, hdelivers₁, hbetween⟩ := delivers_underway hunderway hearly.launches htold hS hne hrest
      (fun st hst => hfresh st (List.mem_of_mem_take hst)) retries
    obtain ⟨c₂, hdelivers₂, hend⟩ := all_delivered server hbetween hmax
      (fun st hst => hfresh st (List.mem_of_mem_drop hst)) hserves'
    refine ⟨c₂, ?_, hend⟩
    have hfirst : Delivers server _ [] c c₀ := delivers_updates _ hrun
    have hall := hfirst.append (hdelivers₁.append hdelivers₂)
    rwa [List.nil_append, List.take_append_drop] at hall

end Openings

/-- Two requests wait for a connection that has a saved session, and one may be active at a time. -/
def savedSession : List Op :=
  [.setOptions { maxConcurrentStreams := 1, enableEarlyData := true, workPath := "w" }, .publishRequest {},
    .publishRequest {}]

def lateOpening : Opening := { first := {}, second := {}, handshake := [{}], last := { established := true } }

def earlyIo : UpdateIo := { inEarlyData := true, starts := fun _ => { sendRequest := 0 } }

def earlyOpening : Opening :=
  { first := {}, second := { init := { session := true } }, handshake := [earlyIo], last := { established := true } }

theorem connects_lateOpening {c : Connection} (hqlog : c.qlogPath = "") : lateOpening.Connects c :=
  ⟨rfl, ⟨rfl, rfl, rfl, .inl hqlog, nofun, .inl Nat.one_ne_zero⟩,
    List.forall_mem_singleton.2 ⟨calm_defaults (fun n => { sendRequest := 4 * n }) [], rfl⟩,
    ⟨⟨nofun, nofun⟩, rfl, .inl Nat.one_ne_zero⟩, rfl, rfl⟩

theorem connects_earlyOpening {c : Connection} (hqlog : c.qlogPath = "") : earlyOpening.Connects c :=
  ⟨rfl, ⟨rfl, rfl, rfl, .inl hqlog, nofun, .inl Nat.one_ne_zero⟩,
    List.forall_mem_singleton.2 ⟨⟨⟨nofun, nofun⟩, rfl, .inl Nat.one_ne_zero⟩, rfl⟩,
    ⟨⟨nofun, nofun⟩, rfl, .inl Nat.one_ne_zero⟩, rfl, rfl⟩

theorem early_earlyOpening {c : Connection} (hloads : Loads c earlyOpening.second) {st : Stream}
    (hpath : st.saveFilePath = "") : earlyOpening.Early c [st] earlyIo where
  loads := hloads
  split := ⟨[], [], rfl, fun _ h => absurd h List.not_mem_nil⟩
  inEarlyData := rfl
  session := rfl
  launches := launches_one hpath (le_refl 0)

theorem run_savedSession : ∃ c, (exec savedSession).run (new "h" "443") = .ok ((), c) ∧ c.qlogPath = "" ∧
    (∀ io : UpdateIo, io.init.session = true → Loads c io) ∧ ∃ a b : Stream, Unopened [a, b] 1 c ∧
      (a.Pristine ∧ a.saveFilePath = "") ∧ b.Pristine ∧ b.saveFilePath = "" :=
  ⟨_, rfl, rfl, fun _ h => ⟨rfl, by decide, h⟩, _, _,
    ⟨⟨⟨by decide, by decide⟩, ⟨List.nodup_nil, nofun, fun _ _ => rfl⟩, rfl, rfl, rfl, rfl⟩, rfl, rfl⟩,
    ⟨rfl, rfl⟩, rfl, rfl⟩

theorem early_data_delivers_two : ∃ c, (exec savedSession).run (new "h" "443") = .ok ((), c) ∧ ∃ c₁ c₂ a b,
    Delivers answerTwo (lateOpening.ops ++ [answerRound 0, answerRound 4].flatMap Round.ops) [a, b] c c₁ ∧
    Delivers answerTwo (earlyOpening.ops ++ (((answerRound 0).updates.map .update ++
      [.issueCallbacks (answerRound 0).retries]) ++ [answerRound 4].flatMap Round.ops)) [a, b] c c₂ := by
  obtain ⟨c, hrun, hqlog, hloads, a, b, hunopened, ⟨hpa, hfa⟩, hpb, hfb⟩ := run_savedSession
  have hfresh : ∀ st ∈ [a, b], st.Pristine ∧ Arrivable st (answerTwo st.ticket) := by
    intro st hst
    rcases List.mem_pair.1 hst with rfl | rfl
    · exact ⟨hpa, arrivable_answerTwo _⟩
    · exact ⟨hpb, arrivable_answerTwo _⟩
  have hlate : lateOpening.Late := by simp [Opening.Late, lateOpening]
  have hearly := early_earlyOpening (hloads earlyOpening.second rfl) hfa
  have htold : Told answerTwo earlyIo.starts [a] (answerRound 0).updates := told_answerRound a (le_refl 0)
  have hlast : Serves answerTwo 1 [b] [answerRound 4] :=
    .round nofun (serves_answerRound hfb (by decide : (0 : Int) ≤ 4)) .done
  have hserves : Serves answerTwo 1 [a, b] [answerRound 0, answerRound 4] :=
    .round nofun (serves_answerRound hfa (le_refl 0)) hlast
  obtain ⟨⟨c₁, hdelivers₁, -⟩, c₂, hdelivers₂, -⟩ := early_data_delivers answerTwo hunopened Nat.one_pos nofun hfresh
    (connects_lateOpening hqlog) hlate hserves (connects_earlyOpening hqlog) hearly htold (answerRound 0).retries hlast
  exact ⟨c, hrun, c₁, c₂, a, b, hdelivers₁, hdelivers₂⟩

end Nhh3
