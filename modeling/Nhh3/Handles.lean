import Nhh3.Status
/-!
# No call without its handles

Each phase relies on handles that other phases make and free. `Equipped` says
which are there; the condition names the steps that bring the connection into a
phase without them.
-/

namespace Nhh3

open Lib Lib.Prog Connection

/-- The stream holds both handles. -/
def Stream.Live (st : Stream) : Prop := st.quicheQuicConnection ≠ none ∧ st.quicheH3Connection ≠ none

instance (st : Stream) : Decidable st.Live :=
  inferInstanceAs (Decidable (st.quicheQuicConnection ≠ none ∧ st.quicheH3Connection ≠ none))

/-- Events may still be read: not after the streams were shut down, nor after an error. -/
structure Exposed (c : Connection) : Prop where
  phase : c.phase ≠ .waitShutdown
  status : c.phase = .wait ∨ c.phase = .startShutdown → .wait ≤ c.status

/-- What every phase needs is there. -/
structure Equipped (c : Connection) : Prop where
  address : c.phase = .initializing → c.peerAddInfo = true
  quic : c.phase.usesConnection = true → c.quicheConnection ≠ none
  migration : c.phase = .connectionMigration → c.quicheH3Connection ≠ none
  wait : c.phase = .wait → .wait ≤ c.status → c.quicheConnection ≠ none ∧ c.quicheH3Connection ≠ none
  shutdown : c.phase.shutsDown = true → .wait ≤ c.status → c.quicheH3Connection ≠ none ∨ c.callAbort = true
  live : Exposed c → ∀ st ∈ c.h3Streams, st.Live
  finished : ∀ st ∈ c.h3Streams, st.status = .completed → st.Live
  status : c.status ≠ .completed
  entries : ∀ id p, c.h3StreamsMap.lookup id = some (some p) →
    ∃ st ∈ c.h3Streams, st.self = p ∧ (st.Live → st.streamId = id)

/-- The condition for the beginning of a call. -/
def CallMeets (c : Connection) : Op → Prop
  | .update io =>
    (c.quicheConnection = none → c.sock = true → io.recv.head?.map RecvIo.recvfrom ≠ some .ok) ∧
      (c.phase = .connectionMigration → io.newSourceCid = true →
        io.socket ≠ .noSocket ∧ io.socket ≠ .notConnected)
  | .reconnect _ _ => c.quicheConnection ≠ none
  | .abort => c.status = .wait ∨ c.status = .connecting ∨ c.status = .completed → c.quicheConnection ≠ none
  | .issueCallbacks _ => ∀ st ∈ c.h3Streams, Settled st
  | _ => True

/-- The condition: no call or error that needs a connection comes before there is one, a
Retry is consumed with the address still there, and streams that a shutdown has cleared
are not taken along into another phase. -/
def HandlesMeet (c : Connection) : Act → Prop
  | .call op => CallMeets c op
  | .socketFailed _ | .streamCritical _ => c.quicheConnection ≠ none
  | .recvFailed e => convertQuicheErrorToStatus e c.status < .wait ∨
      (c.quicheH3Connection ≠ none ∧ ∀ st ∈ c.h3Streams, st.Live)
  | .retryStream => c.peerAddInfo = true ∧ ∀ st ∈ c.h3Streams, st.Live
  | .transitionConnectionMigration | .requeueStreams | .finishAbort => ∀ st ∈ c.h3Streams, st.Live
  | _ => True

instance (c : Connection) (op : Op) : Decidable (CallMeets c op) := by
  apply Op.casesOn (motive := fun op => Decidable (CallMeets c op)) op <;> intros <;>
    (dsimp only [CallMeets]; infer_instance)

instance (c : Connection) (a : Act) : Decidable (HandlesMeet c a) := by
  apply Act.casesOn (motive := fun a => Decidable (HandlesMeet c a)) a <;> intros <;>
    (dsimp only [HandlesMeet]; infer_instance)

section Step
variable {c : Connection} {a : Act}

/-! ## The phases -/

theorem address_apply (hE : Enabled c a) (hM : HandlesMeet c a) (h : Equipped c)
    (hp : (apply a c).phase = .initializing) : (apply a c).peerAddInfo = true := by
  cases a with
  | publishRequest req =>
    simp only [apply, publishRequest_eq] at hp ⊢
    exact h.address hp
  | createSocket io =>
    rcases createSocket_cases (c := c) io with he | ⟨-, hpeer⟩
    · rw [show (apply (Act.createSocket io) c).phase = _ from he, hE] at hp
      cases hp
    · exact hpeer
  | createUdpSocket io =>
    have hne : c.phase ≠ .initializing := by rw [hE]; decide
    cases io <;> exact absurd hp hne
  | initializeQuiche io =>
    rcases initializeQuiche_cases (c := c) io with ⟨-, hwait, -⟩ | ⟨-, hpeer, -⟩
    · rw [show (apply (Act.initializeQuiche io) c).phase = _ from hwait] at hp
      cases hp
    · exact hpeer.trans hE.2.1
  | recvFailed e =>
    simp only [apply] at hp
    split_ifs at hp <;> cases hp
  | probePath ok => cases ok <;> cases hp
  | timeout closed =>
    simp only [apply] at hp ⊢
    split_ifs at hp ⊢
    · cases hp
    · exact h.address hp
  | retryStream => exact hM.1
  | _ => first | exact h.address hp | cases hp

theorem quic_apply (hE : Enabled c a) (hM : HandlesMeet c a) (h : Equipped c)
    (hp : (apply a c).phase.usesConnection = true) : (apply a c).quicheConnection ≠ none := by
  cases a with
  | publishRequest req =>
    simp only [apply, publishRequest_eq] at hp ⊢
    exact h.quic hp
  | transitionConnectionMigration => exact hE.1
  | socketFailed message => exact hM
  | createSocket io =>
    have hne : c.phase.usesConnection ≠ true := by rw [hE]; decide
    cases io <;> first | exact absurd hp hne | cases hp
  | createUdpSocket io => cases io <;> exact h.quic hp
  | initializeQuiche io =>
    rcases initializeQuiche_cases (c := c) io with ⟨-, hwait, -⟩ | ⟨hc, -⟩
    · rw [show (apply (Act.initializeQuiche io) c).phase = _ from hwait] at hp
      cases hp
    · have hq : (apply (Act.initializeQuiche io) c).quicheConnection = some c.nextHandle :=
        (handles_initializeQuiche (c := c) io).1.trans (if_pos hc)
      rw [hq]
      exact Option.some_ne_none _
  | recvFailed e =>
    simp only [apply]
    split_ifs <;> exact hE.2
  | handshakeFailed => exact hE.1
  | eventReset id =>
    obtain ⟨st, hd⟩ := hE
    exact hd.quic
  | abort => exact hE.2
  | probePath ok => cases ok <;> cases hp
  | connectionClosed => exact hE.1
  | timeout closed =>
    simp only [apply]
    split_ifs <;> exact hE.1
  | startShutdown => exact h.quic (by rw [hE]; rfl)
  | streamCritical st => exact hM
  | _ => first | exact h.quic hp | cases hp

theorem migration_apply (hE : Enabled c a) (h : Equipped c)
    (hp : (apply a c).phase = .connectionMigration) : (apply a c).quicheH3Connection ≠ none := by
  cases hc : a.connects with
  | true =>
    cases a with
    | createSocket io =>
      have hne : c.phase ≠ .connectionMigration := by rw [hE]; decide
      cases io <;> first | exact absurd hp hne | cases hp
    | initializeQuiche io =>
      rcases initializeQuiche_cases (c := c) io with ⟨-, he, -⟩ | ⟨-, -, he | he⟩ <;>
        rw [show (apply (Act.initializeQuiche io) c).phase = _ from he] at hp
      · cases hp
      · exact absurd (hE.1.symm.trans hp) (by decide)
      · cases hp
    | newH3Connection ok => exact absurd hE.2 (h.migration hp)
    | _ => exact Bool.noConfusion hc
  | false =>
    rw [(sameHandles (c := c) hc).h3]
    cases a with
    | publishRequest req =>
      simp only [apply, publishRequest_eq] at hp
      exact h.migration hp
    | transitionConnectionMigration => exact hE.2
    | createUdpSocket io => exact h.migration hE
    | recvFailed e =>
      simp only [apply] at hp
      split_ifs at hp <;> cases hp
    | probePath ok => exact h.migration hE.1
    | timeout closed =>
      simp only [apply] at hp
      split_ifs at hp
      · cases hp
      · exact h.migration hp
    | _ => first | exact h.migration hp | cases hp | exact Bool.noConfusion hc

/-- Sending and receiving errors keep the status, or make it an error. -/
theorem kept_status {e : Int} {now : QwfsStatus} (h : .wait ≤ convertQuicheErrorToStatus e now) :
    convertQuicheErrorToStatus e now = now := by
  rcases convertQuicheErrorToStatus_cases e now with he | he
  · exact he
  · exact absurd h ((lt_wait_iff _).1 he)

theorem wait_apply (hE : Enabled c a) (hM : HandlesMeet c a) (h : Equipped c)
    (hp : (apply a c).phase = .wait) (hs : .wait ≤ (apply a c).status) :
    (apply a c).quicheConnection ≠ none ∧ (apply a c).quicheH3Connection ≠ none := by
  cases hc : a.connects with
  | true =>
    cases a with
    | createSocket io =>
      have hne : c.phase ≠ .wait := by rw [hE]; decide
      cases io <;> first | exact absurd hp hne | cases hp
    | initializeQuiche io =>
      rcases initializeQuiche_cases (c := c) io with ⟨-, -, he⟩ | ⟨-, -, he | he⟩
      · rw [show (apply (Act.initializeQuiche io) c).status = _ from he] at hs
        exact absurd hs (not_wait_le rfl)
      · rw [show (apply (Act.initializeQuiche io) c).phase = _ from he, hE.1] at hp
        cases hp
      · rw [show (apply (Act.initializeQuiche io) c).phase = _ from he] at hp
        cases hp
    | newH3Connection ok => exact absurd hE.2 (h.wait hp hs).2
    | _ => exact Bool.noConfusion hc
  | false =>
    rw [(sameHandles (c := c) hc).quic, (sameHandles (c := c) hc).h3]
    cases a with
    | publishRequest req =>
      obtain ⟨hphase, hstatus⟩ := publishRequest_status (c := c) req
      exact h.wait (hphase.symm.trans hp) (hstatus hs)
    | sendFailed e => exact h.wait hp (kept_status hs ▸ hs)
    | createUdpSocket io =>
      have hne : c.phase ≠ .wait := by rw [hE]; decide
      cases io <;> exact absurd hp hne
    | recvFailed e =>
      rcases hM with hlt | hM
      · simp only [apply] at hs
        split_ifs at hs <;> exact absurd hs ((lt_wait_iff _).1 hlt)
      · exact ⟨hE.2, hM.1⟩
    | handshakeDone => exact hE.2
    | startStreamFailed => exact hE
    | beginConnecting => exact h.wait hp (by rw [show c.status = .wait from hE]; decide)
    | idle => exact h.wait hp hE.2
    | finishShutdown =>
      obtain ⟨hphase, hq, habort⟩ := hE
      refine ⟨hq, (h.shutdown (by rw [hphase]; rfl) hs).resolve_right ?_⟩
      rw [habort]
      decide
    | newSourceCidFailed => exact absurd hs (not_wait_le rfl)
    | probePath ok => exact ⟨hE.2.1, h.migration hE.1⟩
    | timeout closed =>
      simp only [apply] at hp hs
      split_ifs at hp hs
      · cases hp
      · exact h.wait hp hs
    | _ => first | exact h.wait hp hs | cases hp | exact Bool.noConfusion hc

theorem shutdown_apply (hE : Enabled c a) (h : Equipped c) (hp : (apply a c).phase.shutsDown = true)
    (hs : .wait ≤ (apply a c).status) :
    (apply a c).quicheH3Connection ≠ none ∨ (apply a c).callAbort = true := by
  cases a with
  | publishRequest req =>
    obtain ⟨hphase, hstatus⟩ := publishRequest_status (c := c) req
    have hold := h.shutdown (hphase ▸ hp) (hstatus hs)
    simp only [apply, publishRequest_eq]
    exact hold
  | sendFailed e => exact h.shutdown hp (kept_status hs ▸ hs)
  | recvFailed e =>
    simp only [apply] at hp hs ⊢
    split_ifs at hp hs with htls
    · exact absurd (htls ▸ hs) (by decide)
    · cases hp
  | createSocket io =>
    have hne : c.phase.shutsDown ≠ true := by rw [hE]; decide
    cases io <;> first | exact absurd hp hne | cases hp
  | createUdpSocket io =>
    have hne : c.phase.shutsDown ≠ true := by rw [hE]; decide
    cases io <;> exact absurd hp hne
  | initializeQuiche io =>
    rcases initializeQuiche_cases (c := c) io with ⟨-, he, -⟩ | ⟨-, -, he | he⟩ <;>
      rw [show (apply (Act.initializeQuiche io) c).phase = _ from he] at hp
    · cases hp
    · rw [hE.1] at hp
      cases hp
    · cases hp
  | newH3Connection ok =>
    exact .inr ((h.shutdown hp hs).resolve_left (not_not.2 hE.2))
  | eventReset id =>
    obtain ⟨st, hd⟩ := hE
    exact .inl hd.h3
  | beginConnecting => exact h.shutdown hp (by rw [show c.status = .wait from hE]; decide)
  | idle => exact h.shutdown hp hE.2
  | startShutdown => exact h.shutdown (by rw [hE]; rfl) hs
  | abort => exact .inr rfl
  | probePath ok => cases ok <;> cases hp
  | timeout closed =>
    simp only [apply] at hp hs ⊢
    split_ifs at hp hs ⊢
    · exact absurd hs (not_wait_le rfl)
    · exact h.shutdown hp hs
  | streamCritical st =>
    exact absurd hs ((lt_wait_iff _).1 (lt_wait_of_le_criticalError _ hE.2))
  | _ => first | exact h.shutdown hp hs | exact absurd hs (not_wait_le rfl) | cases hp

/-! ## The streams -/

/-- Where events can be read after an action, the streams that were active are live, or
gone: they were exposed before, or the condition covers them. -/
theorem live_before (hE : Enabled c a) (hM : HandlesMeet c a) (h : Equipped c)
    (hx : Exposed (apply a c)) : (∀ st ∈ c.h3Streams, st.Live) ∨ (apply a c).h3Streams = [] := by
  have hphase : ∀ p, c.phase = p → p ≠ .waitShutdown → p ≠ .wait → p ≠ .startShutdown →
      ∀ st ∈ c.h3Streams, st.Live := by
    rintro p rfl hws hw hss
    exact h.live ⟨hws, fun hor => (hor.elim hw hss).elim⟩
  have herror : ¬ .wait ≤ (apply a c).status → (apply a c).phase = .wait ∨ (apply a c).phase = .startShutdown →
      ∀ st ∈ c.h3Streams, st.Live := fun hs hp => absurd (hx.status hp) hs
  cases a with
  | publishRequest req =>
    obtain ⟨hp, hs⟩ := publishRequest_status (c := c) req
    exact .inl (h.live ⟨hp ▸ hx.phase, fun hor => hs (hx.status (hp ▸ hor))⟩)
  | abort => exact .inr rfl
  | transitionConnectionMigration => exact .inl hM
  | requeueStreams => exact .inr rfl
  | sendFailed e => exact .inl (h.live ⟨hx.phase, fun hor => kept_status (hx.status hor) ▸ hx.status hor⟩)
  | socketFailed message => exact .inl (herror (not_wait_le rfl) (.inr rfl))
  | recvFailed e =>
    rcases hM with hlt | hM
    · refine .inl (herror ?_ ?_) <;> simp only [apply] <;> split_ifs
      · exact (lt_wait_iff _).1 hlt
      · exact (lt_wait_iff _).1 hlt
      · exact .inr rfl
      · exact .inl rfl
    · exact .inl hM.2
  | createSocket io => exact .inl (hphase _ hE (by decide) (by decide) (by decide))
  | initializeQuiche io => exact .inl (hphase _ hE.1 (by decide) (by decide) (by decide))
  | handshakeFailed => exact .inl (herror (not_wait_le rfl) (.inr rfl))
  | handshakeDone => exact .inl (hphase _ hE.1 (by decide) (by decide) (by decide))
  | retryStream => exact .inl hM.2
  | eventReset id =>
    obtain ⟨st, hd⟩ := hE
    exact .inl (h.live ⟨hd.not_waitShutdown, fun _ => hd.status⟩)
  | startStreamFailed => exact .inl (herror (not_wait_le rfl) (.inl rfl))
  | beginConnecting =>
    exact .inl (h.live ⟨hx.phase, fun _ => by rw [show c.status = .wait from hE]; decide⟩)
  | idle => exact .inl (h.live ⟨hx.phase, fun _ => hE.2⟩)
  | startShutdown => exact absurd rfl hx.phase
  | finishAbort => exact .inl hM
  | finishShutdown => exact .inr rfl
  | createUdpSocket io => exact .inl (hphase _ hE (by decide) (by decide) (by decide))
  | newSourceCidFailed => exact .inl (hphase _ hE.1 (by decide) (by decide) (by decide))
  | probePath ok => exact .inl (hphase _ hE.1 (by decide) (by decide) (by decide))
  | connectionClosed => exact .inl (herror (not_wait_le rfl) (.inr rfl))
  | timeout closed =>
    refine .inl ?_
    by_cases ht : c.status ≠ .aborting ∧ closed = true
    · have heq : apply (Act.timeout closed) c =
        (c.setPhase .startShutdown).setStatus .errorTimeout (some "Connection close") := if_pos ht
      rw [heq] at herror
      exact herror (not_wait_le rfl) (.inr rfl)
    · have heq : apply (Act.timeout closed) c = c := if_neg ht
      exact h.live (heq ▸ hx)
  | streamCritical st =>
    exact .inl (herror ((lt_wait_iff _).1 (lt_wait_of_le_criticalError _ hE.2)) (.inr rfl))
  | _ => exact .inl (h.live ⟨hx.phase, hx.status⟩)

/-- A stream that an event is handled for is active and live. -/
theorem dispatched_live (hA : Addressed c) (h : Equipped c) {id : Int} {st : Stream}
    (hd : Dispatched c id st) : st.Live := by
  obtain ⟨x, hx, hself, -⟩ := h.entries id _ hd.entry
  obtain rfl := dispatched_eq hA hd hx hself
  exact h.live ⟨hd.not_waitShutdown, fun _ => hd.status⟩ x hx

theorem Handled.live_iff {st st' : Stream} (h : Handled c a st st') : st'.Live ↔ st.Live := by
  rw [Stream.Live, Stream.Live, h.handles.1, h.handles.2.1]

theorem starting_live {st st' : Stream} {id : Int} (h : Starting c st st' id) (hid : 0 ≤ id) :
    st'.Live ∧ st'.streamId = id := by
  obtain ⟨q, h3, -, -, rfl⟩ := starting_started h hid
  exact ⟨⟨Option.some_ne_none _, Option.some_ne_none _⟩, rfl⟩

theorem live_apply (hA : Addressed c) (hE : Enabled c a) (hM : HandlesMeet c a) (h : Equipped c)
    (hx : Exposed (apply a c)) : ∀ st ∈ (apply a c).h3Streams, st.Live := by
  rcases live_before hE hM h hx with hlive | hnil
  · intro x' hx'
    cases active_from hA hE hx' with
    | @kept _ x _ hxs hb =>
      cases hb with
      | same => exact hlive _ hxs
      | progress => exact hlive x hxs
      | handled hh => exact hh.live_iff.2 (hlive x hxs)
      | shutdown => exact absurd rfl hx.phase
    | started hst hid => exact (starting_live hst hid).1
  · rw [hnil]
    exact fun _ hst => nomatch hst

theorem finished_apply (hA : Addressed c) (hE : Enabled c a) (h : Equipped c) :
    ∀ st ∈ (apply a c).h3Streams, st.status = .completed → st.Live := by
  intro x' hx' hs
  cases active_from hA hE hx' with
  | @kept _ x _ hxs hb =>
    cases hb with
    | same => exact h.finished _ hxs hs
    | progress => exact h.finished x hxs hs
    | handled hh =>
      obtain ⟨id, hd⟩ := hh.dispatched
      exact hh.live_iff.2 (dispatched_live hA h hd)
    | shutdown =>
      unfold Stream.shutdown at hs ⊢
      split at hs
      · exact absurd hs h.status
      · rw [if_neg ‹_›]
        exact h.finished x hxs hs
  | started hst hid => exact (starting_live hst hid).1

theorem entries_apply (hA : Addressed c) (hE : Enabled c a) (hM : HandlesMeet c a) (h : Equipped c)
    {id : Int} {p : Nat} (hentry : (apply a c).h3StreamsMap.lookup id = some (some p)) :
    ∃ st ∈ (apply a c).h3Streams, st.self = p ∧ (st.Live → st.streamId = id) := by
  rcases (entry_iff hE).1 hentry with ⟨hold, he⟩ | ⟨st', rfl, rfl, -⟩
  · obtain ⟨x, hx, rfl, hid⟩ := h.entries id p hold
    -- a live stream that leaves the list takes its entry along
    have ht : ¬ a.takes x := by
      intro ht
      cases a with
      | success st =>
        obtain rfl := unique_active hA hE.1 hx ht
        exact he (hid (h.finished st hx hE.2))
      | requeueStreams => exact he ⟨x, hx, hid (hM x hx)⟩
      | abort => exact he trivial
      | finishShutdown => exact he trivial
      | _ => exact ht
    obtain ⟨x', hx', hb⟩ := active_to hA hE hx ht
    refine ⟨x', hx', hb.self, ?_⟩
    intro hlive
    cases hb with
    | same => exact hid hlive
    | progress => exact hid hlive
    | handled hh => rw [hh.handles.2.2, hid (hh.live_iff.1 hlive)]
    | shutdown =>
      unfold Stream.shutdown at hlive ⊢
      split at hlive
      · -- a cleared stream holds no handles
        exact absurd rfl hlive.1
      · rw [if_neg ‹_›]
        exact hid hlive
  · obtain ⟨st, hst, hid⟩ := hE
    exact ⟨st', List.mem_append_right _ (List.mem_singleton.2 rfl), rfl, fun _ => (starting_live hst hid).2⟩

theorem equipped_apply (hA : Addressed c) (hE : Enabled c a) (hM : HandlesMeet c a) (h : Equipped c) :
    Equipped (apply a c) where
  address := address_apply hE hM h
  quic := quic_apply hE hM h
  migration := migration_apply hE h
  wait := wait_apply hE hM h
  shutdown := shutdown_apply hE h
  live := live_apply hA hE hM h
  finished := finished_apply hA hE h
  status := status_ne_completed hE h.status
  entries _ _ := entries_apply hA hE hM h

end Step

theorem equipped_new (hostName port : String) : Equipped (new hostName port) where
  address h := nomatch h
  quic h := nomatch h
  migration h := nomatch h
  wait h := nomatch h
  shutdown h := nomatch h
  live _ _ h := nomatch h
  finished _ h := nomatch h
  status := nofun
  entries _ _ h := nomatch h

/-- In a run that meets the condition, quiche is never given a null handle, the address is
there wherever it is used, and the assertions of `Stream::Start` hold. -/
theorem handles_present {hostName port : String} {ops : List Op}
    (hM : ∀ e ∈ (exec ops).trace (new hostName port), HandlesMeet e.1 e.2) :
    (exec ops).run (new hostName port) ≠ .error .nullHandle ∧
      (exec ops).run (new hostName port) ≠ .error .nullPeer ∧
      (exec ops).run (new hostName port) ≠ .error .startAssertion := by
  suffices h : ∀ e, (exec ops).run (new hostName port) = .error e →
      e ≠ .nullHandle ∧ e ≠ .nullPeer ∧ e ≠ .startAssertion by
    refine ⟨?_, ?_, ?_⟩
    · intro he
      exact (h _ he).1 rfl
    · intro he
      exact (h _ he).2.1 rfl
    · intro he
      exact (h _ he).2.2 rfl
  intro e he
  obtain ⟨hist, hist', op, c₀, c, hp, hv, hfail⟩ := exec_fails he
  have hcall : CallMeets c₀ op := hM _ hp.mem
  have hA : Addressed c := exec_addressed hv
  have heq : Equipped c := exec_inv (J := fun _ => Equipped) (equipped_new ..)
    (fun _ _ _ hA hE hM h => equipped_apply hA hE hM h) hM hv
  -- every reason to fault is excluded, or is about another fault
  cases hfail with
  | received hop hs hq hhead =>
    subst hop
    exact absurd hhead (hcall.1 hq hs)
  | reconnect hop hq =>
    subst hop
    exact absurd hq hcall
  | abort hop hs hq =>
    subst hop
    exact absurd hq (hcall hs)
  | phase hphase hq => exact absurd hq (heq.quic hphase)
  | poll hphase hs hn =>
    obtain ⟨hq, hh⟩ := heq.wait hphase hs
    exact (hn.elim hh hq).elim
  | handler hd herr =>
    -- the stream holds its handles, so only its data can be at fault
    obtain ⟨hq, hh⟩ := dispatched_live hA heq hd
    rcases herr with ⟨list, hlist⟩ | ⟨body, hbody⟩
    · rw [Stream.eventHeaders_error hlist]
      decide
    · rcases Stream.eventData_error hbody with hn | rfl
      · exact (hn.elim hh hq).elim
      · decide
  | dangling => decide
  | noAddress hphase hpeer => exact absurd ((heq.address hphase).symm.trans hpeer) (by decide)
  | migrate hop hphase hcid hsocket =>
    subst hop
    obtain ⟨hno, hnot⟩ := hcall.2 hphase hcid
    exact (hsocket.elim hno hnot).elim
  | noConfig => decide
  | retry hop hst hsettled =>
    subst hop
    exact absurd (hcall _ hst) hsettled

theorem handles_present_download :
    (exec (connectOps ++ downloadOps)).run (new "h" "443") ≠ .error .nullHandle :=
  (handles_present (by decide)).1

/-- Reconnect before the first Update asks quiche about a null connection; a Retry after a
shutdown, which has closed the socket, dereferences a null address. -/
theorem handles_present_reconnect :
    (exec [.reconnect 0 0]).run (new "h" "443") = .error .nullHandle ∧
      (exec (connectOps ++ [.update { send := [{ writeSize := 1, sendto := .failed 10054 false }] }, .retry,
        .update {}, .update {}, .update {}, .update {}])).run (new "h" "443") = .error .nullPeer :=
  ⟨rfl, rfl⟩

end Nhh3
