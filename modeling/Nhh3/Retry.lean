import Nhh3.Status
import Nhh3.Updates
/-!
# A Retry starts over with every request

Only WaitShutdown puts the active streams aside for a Retry. Errors that leave
the connection in phase Wait skip it, and Stream::Shutdown gives the streams it
clears the status of the error, which nothing takes back.
-/

namespace Nhh3

open Lib Lib.Prog Connection

/-- The stream is as its constructor made it. -/
def Stream.Pristine (st : Stream) : Prop := st.clear = st

instance (st : Stream) : Decidable st.Pristine := inferInstanceAs (Decidable (st.clear = st))

theorem Stream.pristine_new (self : Nat) (hostName : String) (req : Request) :
    (Stream.new self hostName req).Pristine := rfl

/-- Pristine streams are told apart by their tickets. -/
theorem Stream.Pristine.eq {st st' : Stream} (h : st.Pristine) (h' : st'.Pristine)
    (ht : st.ticket = st'.ticket) : st = st' := by
  simp only [Stream.ticket, Ticket.mk.injEq] at ht
  obtain ⟨hself, hhost, hpath, hheaders⟩ := ht
  rw [← h, ← h', Stream.clear, Stream.clear, hself, hhost, hpath, hheaders]

/-- No stream is active, and the map has no entry. -/
structure Idle (c : Connection) : Prop where
  active : c.h3Streams = []
  map : c.h3StreamsMap = ∅

instance (c : Connection) : Decidable (Idle c) :=
  decidable_of_iff (c.h3Streams = [] ∧ c.h3StreamsMap = ∅) ⟨fun h => ⟨h.1, h.2⟩, fun h => ⟨h.1, h.2⟩⟩

/-- The condition: Retry is called during the shutdown or on an idle connection, and
until it is consumed nothing cuts the shutdown short or starts a request; no `Start`
fails, events only reach active streams, and streams that are queued again are pristine. -/
def RetryMeets (c : Connection) : Act → Prop
  | .retry => c.phase.shutsDown = true ∨ Idle c
  | .recvFailed _ | .transitionConnectionMigration | .finishAbort => c.callRetry = true → Idle c
  | .requeueStreams => (c.callRetry = true → Idle c) ∧ ∀ st ∈ c.h3Streams, st.Pristine
  | .finishShutdown => ∀ st ∈ c.h3Streams, st.Pristine
  | .startStream _ _ => c.callRetry = false
  | .startFailed _ | .startStreamFailed => False
  | .eventHeaders _ _ st | .eventData _ _ st | .eventFinished _ st => ∃ x ∈ c.h3Streams, x.self = st.self
  | _ => True

instance (c : Connection) (a : Act) : Decidable (RetryMeets c a) := by
  apply Act.casesOn (motive := fun a => Decidable (RetryMeets c a)) a <;> intros <;>
    (dsimp only [RetryMeets]; infer_instance)

section Step
variable {c : Connection} {a : Act}

theorem idle_apply (hA : Addressed c) (hE : Enabled c a) (h : Idle c) (ha : a.enters = false) :
    Idle (apply a c) := by
  refine ⟨active_nil hA hE h.active ?_, map_empty hE h.map ha⟩
  rintro st id rfl
  cases ha

/-- The ways out of a shutdown. -/
theorem shutsDown_left (hE : Enabled c a) (h : c.phase.shutsDown = true) :
    (apply a c).phase.shutsDown = true ∨ a = .transitionConnectionMigration ∨ a = .requeueStreams ∨
      (∃ e, a = .recvFailed e) ∨ a = .startStreamFailed ∨ a = .finishAbort ∨ a = .finishShutdown := by
  have hphase : ∀ p, c.phase = p → p.shutsDown = true := fun p hp => hp ▸ h
  rw [phase_apply hE]
  cases a with
  | createSocket io => exact Bool.noConfusion (hphase _ hE)
  | initializeQuiche io => exact Bool.noConfusion (hphase _ hE.1)
  | handshakeDone => exact Bool.noConfusion (hphase _ hE.1)
  | retryStream => exact Bool.noConfusion (hphase _ hE.1)
  | newSourceCidFailed => exact Bool.noConfusion (hphase _ hE.1)
  | probePath ok => exact Bool.noConfusion (hphase _ hE.1)
  | timeout closed =>
    refine .inl ?_
    simp only [Act.turns]
    split_ifs
    · rfl
    · exact h
  | recvFailed e => simp
  | _ => first | exact .inl h | exact .inl rfl | simp

/-- A pending Retry finds the connection in its shutdown, or idle. -/
theorem pending_apply (hA : Addressed c) (hE : Enabled c a) (hM : RetryMeets c a)
    (h : c.callRetry = true → c.phase.shutsDown = true ∨ Idle c) (hr : (apply a c).callRetry = true) :
    (apply a c).phase.shutsDown = true ∨ Idle (apply a c) := by
  rcases callRetry_from hr with rfl | hr'
  · exact hM.imp id fun hi => ⟨hi.active, hi.map⟩
  -- while the Retry is pending nothing is started, and no event is read
  have henters : a.enters = false := by
    cases a with
    | startStream st id => exact absurd (hM.symm.trans hr') (by decide)
    | placeholder id => exact absurd (hE.1.retry.symm.trans hr') (by decide)
    | _ => rfl
  by_cases hi : Idle c
  · exact .inr (idle_apply hA hE hi henters)
  rcases shutsDown_left hE ((h hr').resolve_right hi) with hs | rfl | rfl | ⟨e, rfl⟩ | rfl | rfl | rfl
  · exact .inl hs
  · exact absurd (hM hr') hi
  · exact absurd (hM.1 hr') hi
  · exact absurd (hM hr') hi
  · exact hM.elim
  · exact absurd (hM hr') hi
  · exact .inr ⟨rfl, rfl⟩

theorem pristine_apply (hA : Addressed c) (hE : Enabled c a) (hM : RetryMeets c a)
    (h : ∀ st ∈ c.waiting, st.Pristine) : ∀ st ∈ (apply a c).waiting, st.Pristine := by
  intro x hx
  cases waiting_from hA hE hx with
  | same hy => exact h x hy
  | published => exact Stream.pristine_new ..
  | @handled _ st _ hst hh =>
    have hself : x.self = st.self := Stream.self_of_ticket hh.ticket
    obtain ⟨y, hy, hys⟩ : ∃ y ∈ c.h3Streams, y.self = x.self := by cases hh <;> exact hM
    exact absurd (hys.trans hself) (waiting_ne_active hA hy hst)
  | failed => exact hM.elim
  | requeued hy => exact hM.2 x hy
  | shelved hy => exact hM x hy

/-- An Update that consumes a Retry does nothing else. -/
theorem updatePhase_retry (hE : Enabled c .retryStream) (io : UpdateIo) :
    (updatePhase io).Does c [(c, .retryStream)] .ok (apply Act.retryStream c) := by
  have hwait : (updateFunc io c.phase).Does c [(c, .retryStream)] .ok (apply Act.retryStream c) := by
    rw [hE.1]
    refine Does.get ?_
    rw [if_pos hE.2]
    exact ⟨rfl, rfl⟩
  -- phase Initializing comes before the phases that look at a close or a timeout
  refine does_updatePhase hwait (.inl ?_) (does_noTimer (.inl ?_) _)
  · show Phase.initializing < .wait
    decide
  · show Phase.initializing < .handshake
    decide

end Step

/-- After a Retry: everything that is pending waits to be started again, as it was published. -/
structure RetryComplete (hist : List (Connection × Act)) (c : Connection) : Prop where
  active : c.h3Streams = []
  map : c.h3StreamsMap = ∅
  error : c.h3StreamsErrorStock = []
  once : ∀ t ∈ issued hist, t ∉ delivered hist → t ∉ discarded hist →
    (c.h3StreamsStock.map Stream.ticket).count t = 1
  asPublished : ∀ st ∈ c.h3StreamsStock, ∃ c₀ req, (c₀, .publishRequest req) ∈ hist ∧
    st = Stream.new c₀.nextStream c₀.hostName req

/-- In a run that meets the condition, the Update that consumes a Retry ends with
every pending request waiting to be sent again. -/
theorem retry_complete {hostName port : String} {ops : List Op}
    (hM : ∀ e ∈ (exec ops).trace (new hostName port), RetryMeets e.1 e.2)
    {hist : List (Connection × Act)} {c : Connection}
    (hp : (exec ops).Performs (new hostName port) hist c .retryStream) :
    (∀ io, (updatePhase io).run c = .ok (.ok, apply Act.retryStream c)) ∧
      RetryComplete hist (apply Act.retryStream c) := by
  obtain ⟨hA, hE⟩ := exec_enabled hp
  have hpending := exec_inv (J := fun _ c => c.callRetry = true → c.phase.shutsDown = true ∨ Idle c)
    (fun h => nomatch h) (fun _ _ _ hA hE hM h => pending_apply hA hE hM h) hM hp.visits hE.2
  have hpristine := exec_inv (J := fun _ c => ∀ st ∈ c.waiting, st.Pristine)
    (fun _ h => nomatch h) (fun _ _ _ hA hE hM h => pristine_apply hA hE hM h) hM hp.visits
  have hidle : Idle c := by
    refine hpending.resolve_left ?_
    intro hs
    rw [hE.1] at hs
    cases hs
  have hstock : (apply Act.retryStream c).h3StreamsStock = c.waiting := rfl
  refine ⟨fun io => (updatePhase_retry hE io).run, hidle.active, hidle.map, rfl, ?_, ?_⟩
  · intro t ht hdel hdis
    rw [hstock, ← pending_count hp.visits ht hdel hdis, streams, hidle.active, waiting, List.nil_append]
  · intro st hst
    rw [hstock] at hst
    obtain ⟨⟨c₀, a⟩, hmem, hissued⟩ := List.mem_filterMap.1 (ticket_issued hp.visits (waiting_subset hst))
    cases a with
    | publishRequest req =>
      refine ⟨c₀, req, hmem, (hpristine st hst).eq (Stream.pristine_new ..) ?_⟩
      exact (Option.some.inj hissued).symm
    | _ => cases hissued

/-- A socket error before any request is sent, and the Retry by the book. -/
def socketErrorOps : List Op :=
  [.update { send := [{ writeSize := 1, sendto := .failed 10054 false }] }, .retry, .update {}, .update {},
    .update {}]

theorem retry_complete_idle : ∃ hist c,
    (exec (connectOps ++ .publishRequest {} :: socketErrorOps)).Performs (new "h" "443") hist c .retryStream ∧
      RetryComplete hist (apply Act.retryStream c) :=
  ⟨_, _, performs_last rfl, (retry_complete (by decide) (performs_last rfl)).2⟩

/-- A packet that quiche rejects while a request is under way: phase Wait at once. -/
def recvErrorOps : List Op :=
  connectOps ++ [.publishRequest {}, .update {}, .update { recv := [{ readSize := QuicheErr.invalidPacket }] },
    .retry, .update {}]

theorem RetryComplete.connecting {hist : List (Connection × Act)} {c : Connection} (h : RetryComplete hist c) :
    ∀ st ∈ c.h3StreamsStock, st.status = .connecting := by
  intro st hst
  obtain ⟨_, _, -, rfl⟩ := h.asPublished st hst
  rfl

/-- The request stays active on the old connection; and after a socket error it waits
with the status of the error. -/
theorem retry_complete_recvError :
    (∃ hist c, (exec recvErrorOps).Performs (new "h" "443") hist c .retryStream ∧
      ¬ RetryComplete hist (apply Act.retryStream c)) ∧
    ∃ hist c, (exec (connectOps ++ [.publishRequest {}, .update {}] ++ socketErrorOps)).Performs (new "h" "443")
      hist c .retryStream ∧ ¬ RetryComplete hist (apply Act.retryStream c) :=
  ⟨⟨_, _, performs_last rfl, fun h => absurd h.active (by decide)⟩,
    _, _, performs_last rfl, fun h => absurd h.connecting (by decide)⟩

end Nhh3
