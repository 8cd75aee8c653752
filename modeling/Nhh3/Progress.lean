import Nhh3.Host
import Nhh3.Routing
/-!
# No progress is lost

`EventData` counts bytes on a stream, and the caller's `Update` takes the counts
and then issues the callbacks in one step. So a stream that is delivered has
nothing left to report, and the progress values add up to the bytes received.
-/

namespace Nhh3

open Lib Lib.Prog Connection

/-! ## Reported and accepted bytes -/

/-- The progress that `GetProgress` returns in a state. -/
def progressAt (c : Connection) : Nat :=
  match getProgress.run c with
  | .ok ((progress, _), _) => progress
  | .error _ => 0

def reportedBy : Connection × Act → Nat
  | (c, .takeProgress) => progressAt c
  | _ => 0

def acceptedBy : Connection × Act → Nat
  | (_, .eventData _ (.buffered data _) _) => (Stream.chunk data).length
  | _ => 0

/-- The sum of the progress values returned. -/
def reported (hist : List (Connection × Act)) : Nat := (hist.map reportedBy).sum

/-- The body bytes that `EventData` accepted. -/
def accepted (hist : List (Connection × Act)) : Nat := (hist.map acceptedBy).sum

/-- The bytes that the next `GetProgress` reports. -/
def Connection.pending (c : Connection) : Nat := (c.h3Streams.map Stream.progress).sum

/-- The actions of Abort, Reconnect, an error shutdown and the retry of a stream. -/
def Act.interrupts : Act → Bool
  | .abort | .requeueStreams | .startShutdown | .finishShutdown | .streamRetry _ => true
  | _ => false

/-! ## One action -/

/-- Streams that wait have no progress, and events only reach active ones. -/
structure Drained (c : Connection) : Prop where
  waiting : ∀ st ∈ c.waiting, st.progress = 0
  entries : ∀ id p, c.h3StreamsMap.lookup id = some (some p) →
    ∃ st ∈ c.h3Streams, st.self = p ∧ st.streamId = id

namespace Connection
variable {c : Connection} {a : Act}

theorem put_other {st : Stream} {l : List Stream} (h : ∀ x ∈ l, x.self ≠ st.self) : put st l = l :=
  (List.map_congr_left fun x hx => if_neg (h x hx)).trans (List.map_id l)

/-- The sum with one stream replaced. -/
theorem sum_put (f : Stream → Nat) {st st' : Stream} (hself : st'.self = st.self) {l : List Stream}
    (hn : (l.map Stream.self).Nodup) (hst : st ∈ l) :
    ((put st' l).map f).sum + f st = (l.map f).sum + f st' := by
  induction l with
  | nil => cases hst
  | cons y ys ih =>
    rw [List.map_cons, List.nodup_cons] at hn
    have hcons : put st' (y :: ys) = (if y.self = st'.self then st' else y) :: put st' ys := rfl
    rw [hcons, List.map_cons, List.map_cons, List.sum_cons, List.sum_cons]
    rcases List.mem_cons.1 hst with rfl | hst
    · have hrest : put st' ys = ys := by
        refine put_other fun x hx hs => hn.1 ?_
        rw [← hself, ← hs]
        exact List.mem_map_of_mem hx
      rw [if_pos hself.symm, hrest]
      omega
    · have hy : y.self ≠ st'.self := by
        intro hs
        refine hn.1 ?_
        rw [hs, hself]
        exact List.mem_map_of_mem hst
      rw [if_neg hy]
      have := ih hn.2 hst
      omega

theorem progress_handled {st st' : Stream} (hh : Handled c a st st') :
    st'.progress = st.progress + acceptedBy (c, a) := by
  cases hh with
  | headers hd hst =>
    rw [Stream.eventHeaders_ok hst]
    rfl
  | data hd hst =>
    rcases Stream.eventData_cases hst with ⟨_, _, rfl, rfl⟩ | ⟨data, _, file, block, rfl, rfl, -, -⟩ <;> rfl
  | finished hd => rfl

/-- The stream that an event reaches is active. -/
theorem drained_active (hA : Addressed c) (h : Drained c) {st st' : Stream} (hh : Handled c a st st') :
    st ∈ c.h3Streams := by
  obtain ⟨id, hd⟩ := hh.dispatched
  obtain ⟨x, hx, hself, -⟩ := h.entries id _ hd.entry
  exact dispatched_eq hA hd hx hself ▸ hx

/-- What an action adds to the pending bytes, and what it takes. -/
theorem pending_apply (hA : Addressed c) (hE : Enabled c a) (ha : a.interrupts = false)
    (hsuccess : ∀ st, a = .success st → st.progress = 0) (h : Drained c) :
    (apply a c).pending + reportedBy (c, a) = c.pending + acceptedBy (c, a) := by
  have hev : ∀ st st', Handled c a st st' → (apply a c).pending = c.pending + acceptedBy (c, a) := by
    intro st st' hh
    have hsum := sum_put Stream.progress (Stream.self_of_ticket hh.ticket) (nodup_active hA)
      (drained_active hA h hh)
    have hst := progress_handled hh
    rw [pending, hh.apply.1]
    simp only [pending] at hsum ⊢
    omega
  cases hm : a.moves with
  | false =>
    rw [pending, (sameStreams hm).active]
    cases a <;> first | rfl | exact Bool.noConfusion hm
  | true =>
    cases a with
    | publishRequest req =>
      simp only [apply, publishRequest_eq]
      rfl
    | takeProgress =>
      have hzero : (apply Act.takeProgress c).pending = 0 := by
        simp [pending, apply, Stream.addProgress, Function.comp_def]
      rw [hzero, Nat.zero_add]
      rfl
    | eventHeaders id list st' =>
      obtain ⟨st, hd, hst⟩ := hE
      exact hev _ _ (.headers hd hst)
    | eventData id body st' =>
      obtain ⟨st, hd, hst⟩ := hE
      exact hev _ _ (.data hd hst)
    | eventFinished id st' =>
      obtain ⟨st, hd, rfl⟩ := hE
      exact hev _ _ (.finished hd)
    | startStream st' id =>
      obtain ⟨st, hst, hid⟩ := hE
      have hzero : st'.progress = 0 := by
        obtain ⟨q, h3, -, -, rfl⟩ := starting_started hst hid
        exact h.waiting st (starting_mem hst)
      simp [pending, apply, activate, hzero, reportedBy, acceptedBy]
    | success st =>
      have hsum := ((perm_dropDelivered hA hE.1).map Stream.progress).sum_nat
      simp only [List.map_cons, List.sum_cons, hsuccess st rfl, Nat.zero_add] at hsum
      exact hsum.symm
    | _ => first | rfl | exact Bool.noConfusion ha | exact Bool.noConfusion hm

theorem drained_apply (hA : Addressed c) (hE : Enabled c a) (ha : a.interrupts = false) (h : Drained c) :
    Drained (apply a c) := by
  have hshut : a ≠ .startShutdown := by
    rintro rfl
    cases ha
  refine { waiting := ?_, entries := entry_active hA hE (fun _ _ _ hb => hb.keeps hshut) h.entries }
  intro x hx
  cases waiting_from hA hE hx with
  | same hy => exact h.waiting _ hy
  | published => rfl
  | handled hst hh => exact absurd rfl (waiting_ne_active hA (drained_active hA h hh) hst)
  | @failed st _ _ hst hid =>
    obtain ⟨_, _, _, _, _, _, heq⟩ := (starting_failed hst hid).rest
    have hprogress : x.progress = st.progress := by rw [heq]
    exact hprogress.trans (h.waiting _ (starting_mem hst))
  | requeued hy => cases ha
  | shelved hy => cases ha

/-! ## IssueCallbacks after GetProgress -/

/-- The success callbacks are for streams of the list. -/
theorem acts_success (starts : Nat → StartIo) (sts : List Stream) :
    (issueLoop starts sts).Acts fun a => ∀ st, a = .success st → st ∈ sts := by
  induction sts with
  | nil => trivial
  | cons x sts ih =>
    refine Acts.bind ?_ fun _ => ih.mono fun a h st hst => List.mem_cons_of_mem _ (h st hst)
    unfold issueCallback
    split
    · refine ⟨fun st hst => ?_, trivial⟩
      cases hst
      exact List.mem_cons_self
    split
    · refine Acts.perform (by simp) ?_
      split
      · exact ⟨by simp, trivial⟩
      · exact trivial
    · trivial

/-- What is delivered in a call of `Update` was asked for its progress in the same call. -/
theorem success_taken {starts : Nat → StartIo} {c' : Connection} {st : Stream}
    (h : (c', .success st) ∈ (exec [.getProgress, .issueCallbacks starts]).trace c) : st.progress = 0 := by
  have htrace : (exec [.getProgress, .issueCallbacks starts]).trace c =
      (_, .call .getProgress) :: (_, .takeProgress) :: (_, .call (.issueCallbacks starts)) ::
        (issueLoop starts (c.h3Streams.map Stream.addProgress) >>= fun _ => exec []).trace _ := rfl
  rw [htrace] at h
  simp only [List.mem_cons, Prod.mk.injEq, reduceCtorEq, and_false, false_or] at h
  have hacts : (issueLoop starts (c.h3Streams.map Stream.addProgress) >>= fun _ => exec []).Acts
      fun a => ∀ st, a = .success st → st ∈ c.h3Streams.map Stream.addProgress :=
    (acts_success starts _).bind fun _ => trivial
  obtain ⟨x, -, rfl⟩ := List.mem_map.1 (hacts.mem h st rfl)
  rfl

end Connection

/-! ## Every interleaving -/

variable {hostName port : String} {options : QwfsOptions} {ops : List HostOp}
  {hist : List (Host × HostAct)} {h : Host}

/-- A stream that is delivered has nothing left to report. -/
theorem success_progress {st : Stream}
    (he : (h, .native (.success st)) ∈ (hostExec options ops).trace (.new hostName port)) :
    st.progress = 0 := by
  have hissues : ∀ {ops' : List Op} {c s : Connection}, (c, .success st) ∈ (exec ops').trace s →
      ∃ starts, .issueCallbacks starts ∈ ops' := by
    intro ops' c s hmem
    obtain ⟨op, hop, ha | hmay⟩ := exec_may hmem
    · cases ha
    · obtain ⟨starts, rfl⟩ := issues_iff.1 (Option.some.inj (may_callback hmay)).symm
      exact ⟨starts, hop⟩
  rcases native_call he with ⟨c, hmem⟩ | ⟨op, h₁, -, hmem⟩
  · obtain ⟨starts, hop⟩ := hissues hmem
    simp at hop
  obtain ⟨starts, hop⟩ := hissues hmem
  cases op with
  | updateQwfs io => cases hw : h₁.worker <;> simp [Host.calls, hw] at hop
  | update starts => exact success_taken hmem
  | _ => simp [Host.calls] at hop

/-- The run, seen from the native connection: the bytes accepted are reported or pending. -/
structure Conserved (hist : List (Connection × Act)) (c : Connection) : Prop extends Drained c where
  balanced : reported hist + c.pending = accepted hist

theorem conserved_apply {hist : List (Connection × Act)} {c : Connection} {a : Act} (hA : Addressed c)
    (hE : Enabled c a) (hM : a.interrupts = false ∧ ∀ st, a = .success st → st.progress = 0)
    (h : Conserved hist c) : Conserved (hist ++ [(c, a)]) (apply a c) := by
  refine { toDrained := drained_apply hA hE hM.1 h.toDrained, balanced := ?_ }
  have hstep := pending_apply hA hE hM.1 hM.2 h.toDrained
  have hold := h.balanced
  simp only [reported, accepted, List.map_append, List.map_cons, List.map_nil, List.sum_append_nat,
    List.sum_cons, List.sum_nil] at hold ⊢
  omega

/-- Whatever the two threads do, the progress returned so far and the bytes still pending are the body
bytes received, unless requests are interrupted. A delivered stream takes none of them along. -/
theorem progress_conserved (hv : (hostExec options ops).Visits (.new hostName port) hist h)
    (hM : ∀ e ∈ nativeConnection.project ((hostExec options ops).trace (.new hostName port)),
      e.2.interrupts = false) :
    reported (nativeConnection.project hist) + h.connection.pending =
        accepted (nativeConnection.project hist) ∧
      ∀ h₁ st, (h₁, .native (.success st)) ∈ hist → st ∈ h₁.connection.h3Streams ∧ st.progress = 0 := by
  constructor
  · have h0 : Conserved [] (.new hostName port) :=
      { waiting := fun _ h => (nomatch h), entries := fun _ _ h => (nomatch h), balanced := rfl }
    refine (host_inv h0 (fun _ _ _ hA hE hM hJ => conserved_apply hA hE hM hJ) ?_ hv).balanced
    intro h₁ a he
    exact ⟨hM _ (mem_native.2 ⟨h₁, he, rfl⟩), fun st hst => success_progress (hst ▸ he)⟩
  · intro h₁ st he
    have he := hv.1.subset he
    exact ⟨(host_enabled he).2.1, success_progress he⟩

/-- An iteration of the worker in which events arrive. -/
def eventsIteration (events : List (Int × H3Event)) : List HostOp :=
  iterationOps { polls := events.map fun e => { streamId := e.1, event := e.2 } }

/-- 3 bytes arrive, the caller's `Update` reports them, 2 more arrive, and the next call reports
these and delivers the request. -/
def progressOps : List HostOp :=
  hostConnectOps ++ .publishRequest [{}] :: iterationOps {} ++
    eventsIteration [(0, .data (.buffered [1, 2, 3]))] ++ .update (fun _ => {}) ::
    eventsIteration [(0, .data (.buffered [4, 5])), (0, .finished)] ++ [.update fun _ => {}]

theorem progress_conserved_download : ∃ hist h h₁ st,
    (hostExec {} progressOps).Visits (.new "h" "443") hist h ∧
    reported (nativeConnection.project hist) + h.connection.pending =
      accepted (nativeConnection.project hist) ∧
    reported (nativeConnection.project hist) = 5 ∧
    (h₁, .native (.success st)) ∈ hist ∧ st ∈ h₁.connection.h3Streams ∧ st.progress = 0 := by
  have hv := visits_end (p := hostExec {} progressOps) (s := Host.new "h" "443") rfl
  have hmem := List.mem_of_getElem? (l := (hostExec {} progressOps).trace (Host.new "h" "443")) (i := 50) rfl
  obtain ⟨hsum, hsuccess⟩ := progress_conserved hv (by decide)
  exact ⟨_, _, _, _, hv, hsum, by decide, hmem, hsuccess _ _ hmem⟩

end Nhh3
