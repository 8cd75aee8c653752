import Nhh3.Requests
/-!
# What GetProgress adds up

`GetProgress` adds the bytes of every active stream to `_totalWriteSize`, which
already has the finished ones. A stream stays active from its FINISHED until
`IssueCallbacks` runs, so in between it is counted on both sides.
-/

namespace Nhh3

open Lib Lib.Prog Connection

/-! ## The account of a run -/

/-- What was written for each request, by address, and what is finished. -/
structure Account where
  /-- The bytes of the current attempt. -/
  written : Nat → Nat := fun _ => 0
  /-- FINISHED was processed in the current attempt. -/
  done : Nat → Bool := fun _ => false
  /-- The sizes of the requests finished since `_totalWriteSize` was last set to 0. -/
  finished : List Nat := []

/-- An attempt begins with `Start` and ends when a shutdown clears the stream; a FINISHED
counts once in it. -/
def Account.step (t : Account) : Connection × Act → Account
  | (_, .startStream st _) =>
    { t with written := Function.update t.written st.self 0, done := Function.update t.done st.self false }
  | (_, .eventData _ (.buffered data _) st) =>
    { t with written := Function.update t.written st.self (t.written st.self + (Stream.chunk data).length) }
  | (_, .eventFinished _ st) =>
    if t.done st.self then t
    else { t with done := Function.update t.done st.self true, finished := t.finished ++ [t.written st.self] }
  | (c, .startShutdown) =>
    { t with written := fun p =>
        if c.h3Streams.any fun x => x.self = p ∧ x.status = .connecting then 0 else t.written p }
  | (c, .publishRequest _) => if c.status = .wait then { t with finished := [] } else t
  | (_, .beginConnecting) | (_, .createSocket _) => { t with finished := [] }
  | _ => t

def account (hist : List (Connection × Act)) : Account := hist.foldl Account.step {}

theorem account_concat (hist : List (Connection × Act)) (e : Connection × Act) :
    account (hist ++ [e]) = (account hist).step e := by
  simp [account]

/-- The requests in flight with the bytes of their attempts, and the finished ones: each once. -/
def expectedTotal (hist : List (Connection × Act)) (c : Connection) : Nat :=
  ((c.h3Streams.filter fun st => !(account hist).done st.self).map fun st =>
    (account hist).written st.self).sum + (account hist).finished.sum

/-! ## What an action does to the sizes -/

/-- Only FINISHED adds to the accumulator; three calls set it to 0. -/
def Act.totals (c : Connection) : Act → Nat
  | .eventFinished _ st => c.totalWriteSize + st.writeSize
  | .publishRequest _ => if c.status = .wait then 0 else c.totalWriteSize
  | .beginConnecting | .createSocket _ => 0
  | _ => c.totalWriteSize

namespace Connection
variable {c : Connection} {a : Act}

theorem totalWriteSize_apply : (apply a c).totalWriteSize = a.totals c := by
  cases hr : a.reports with
  | true =>
    obtain ⟨d, hd⟩ := reports_apply (c := c) hr
    rw [hd]
    cases a <;> first | rfl | exact Bool.noConfusion hr
  | false =>
    cases a with
    | publishRequest req => simp only [apply, publishRequest_eq, Act.totals]
    | createSocket io =>
      obtain ⟨d, hd⟩ := createSocket_shape (c := c) io
      simp only [apply, hd]
      rfl
    | initializeQuiche io =>
      obtain ⟨d, hd⟩ := initializeQuiche_shape (c := c) io
      simp only [apply, hd]
      rfl
    | _ => first | rfl | exact Bool.noConfusion hr

end Connection

/-- An action leaves alone what was written for the other requests. -/
theorem written_other {hist : List (Connection × Act)} {c : Connection} {a : Act} {p : Nat}
    (h : a.subject ≠ some p) (hs : a ≠ .startShutdown) :
    (account (hist ++ [(c, a)])).written p = (account hist).written p := by
  rw [account_concat]
  cases a with
  | startStream st id => exact Function.update_of_ne (fun he => h (congrArg some he.symm)) ..
  | eventData id body st =>
    cases body with
    | buffered data => exact Function.update_of_ne (fun he => h (congrArg some he.symm)) ..
    | failed error => rfl
  | eventFinished id st =>
    simp only [Account.step]
    split_ifs <;> rfl
  | publishRequest req =>
    simp only [Account.step]
    split_ifs <;> rfl
  | startShutdown => exact absurd rfl hs
  | _ => rfl

/-- A sum over streams, split by a property of them. -/
theorem sum_filter_not (p : Stream → Bool) (f : Stream → Nat) (l : List Stream) :
    (l.map f).sum = ((l.filter p).map f).sum + ((l.filter fun st => !p st).map f).sum := by
  rw [← List.sum_append_nat, ← List.map_append]
  exact ((List.filter_append_perm p l).map f).sum_nat.symm

/-! ## Every run -/

/-- The condition on the steps before: no request is queued again with bytes of an attempt,
events reach active streams only, and FINISHED comes once in an attempt. -/
def TotalMeets (hist : List (Connection × Act)) (c : Connection) : Act → Prop
  | .requeueStreams | .finishShutdown => ∀ st ∈ c.h3Streams, st.writeSize = 0
  | .eventData _ _ st => ∃ x ∈ c.h3Streams, x.self = st.self
  | .eventFinished _ st => (∃ x ∈ c.h3Streams, x.self = st.self) ∧ (account hist).done st.self = false
  | _ => True

instance (hist : List (Connection × Act)) (c : Connection) (a : Act) : Decidable (TotalMeets hist c a) := by
  apply Act.casesOn (motive := fun a => Decidable (TotalMeets hist c a)) a <;> intros <;>
    (dsimp only [TotalMeets]; infer_instance)

/-- The streams and the accumulator hold what the account says. -/
structure Totalled (hist : List (Connection × Act)) (c : Connection) : Prop where
  waiting : ∀ st ∈ c.waiting, st.writeSize = 0
  active : ∀ st ∈ c.h3Streams, st.writeSize = (account hist).written st.self
  total : c.totalWriteSize = (account hist).finished.sum

section Step
variable {hist : List (Connection × Act)} {c : Connection} {a : Act}

/-- Only active streams get data. -/
theorem handled_writeSize {st st' : Stream} (hA : Addressed c) (hM : TotalMeets hist c a)
    (hh : Handled c a st st') : st'.writeSize = st.writeSize ∨ st ∈ c.h3Streams := by
  cases hh with
  | headers hd hst =>
    rw [Stream.eventHeaders_ok hst]
    exact .inl rfl
  | data hd hst =>
    obtain ⟨x, hx, hself⟩ := hM
    rw [Stream.self_of_ticket (Stream.eventData_ticket hst)] at hself
    exact .inr (dispatched_eq hA hd hx hself ▸ hx)
  | finished hd => exact .inl rfl

/-- A handler counts in the stream what the account counts. -/
theorem written_handled {st st' : Stream} (hh : Handled c a st st')
    (h : st.writeSize = (account hist).written st.self) :
    st'.writeSize = (account (hist ++ [(c, a)])).written st'.self := by
  have hself : st'.self = st.self := Stream.self_of_ticket hh.ticket
  rw [account_concat, hself]
  cases hh with
  | headers hd hst =>
    rw [Stream.eventHeaders_ok hst]
    exact h
  | data hd hst =>
    rcases Stream.eventData_cases hst with ⟨_, _, rfl, rfl⟩ | ⟨data, _, file, block, rfl, rfl, -, -⟩
    · exact h
    · simp [Account.step, h]
  | finished hd =>
    simp only [Account.step]
    split_ifs <;> exact h

/-- A shutdown clears the requests under way, and ends their attempts. -/
theorem written_shutdown {x : Stream} (hA : Addressed c) (hx : x ∈ c.h3Streams)
    (h : x.writeSize = (account hist).written x.self) :
    (x.shutdown c.status c.errorDetail).writeSize =
      (account (hist ++ [(c, .startShutdown)])).written x.self := by
  rw [account_concat]
  unfold Stream.shutdown
  by_cases hs : .connecting = x.status
  · have hany : (c.h3Streams.any fun y => y.self = x.self ∧ y.status = .connecting) = true := by
      simpa using ⟨x, hx, rfl, hs.symm⟩
    simp only [Account.step, if_pos hs, hany, if_true]
    rfl
  · have hany : (c.h3Streams.any fun y => y.self = x.self ∧ y.status = .connecting) = false := by
      simp only [List.any_eq_false, decide_eq_true_eq, not_and]
      intro y hy hself hc
      rw [unique_active hA hy hx hself] at hc
      exact hs hc.symm
    simp only [Account.step, if_neg hs, hany]
    exact h

theorem total_step (hA : Addressed c) (hE : Enabled c a) (hM : TotalMeets hist c a) (h : Totalled hist c) :
    (apply a c).totalWriteSize = (account (hist ++ [(c, a)])).finished.sum := by
  rw [totalWriteSize_apply, account_concat]
  have hsum := h.total
  cases a with
  | eventFinished id st' =>
    obtain ⟨st, hd, rfl⟩ := hE
    obtain ⟨⟨x, hx, hself⟩, hdone⟩ := hM
    obtain rfl := dispatched_eq hA hd hx hself
    have hsize : x.eventFinished.writeSize = (account hist).written x.eventFinished.self := h.active x hx
    simp [Act.totals, Account.step, hdone, hsum, hsize]
  | publishRequest req =>
    simp only [Act.totals, Account.step]
    split_ifs
    · rfl
    · exact hsum
  | eventData id body st =>
    cases body <;> exact hsum
  | beginConnecting => rfl
  | createSocket io => rfl
  | _ => exact hsum

theorem totalled_apply (hA : Addressed c) (hE : Enabled c a) (hM : TotalMeets hist c a)
    (h : Totalled hist c) : Totalled (hist ++ [(c, a)]) (apply a c) := by
  refine { waiting := ?_, active := ?_, total := total_step hA hE hM h }
  · intro x hx
    cases waiting_from hA hE hx with
    | same hy => exact h.waiting _ hy
    | published => rfl
    | handled hst hh =>
      rcases handled_writeSize hA hM hh with hsize | hactive
      · exact hsize.trans (h.waiting _ hst)
      · exact absurd rfl (waiting_ne_active hA hactive hst)
    | @failed st _ _ hst hid =>
      obtain ⟨_, _, _, _, _, _, heq⟩ := (starting_failed hst hid).rest
      have hsize : x.writeSize = st.writeSize := by rw [heq]
      exact hsize.trans (h.waiting _ (starting_mem hst))
    | requeued hy => exact hM _ hy
    | shelved hy => exact hM _ hy
  · intro x' hx'
    by_cases hshut : a = .startShutdown
    · subst hshut
      obtain ⟨x, hx, rfl⟩ := List.mem_map.1 hx'
      rw [Stream.self_of_ticket (Stream.ticket_shutdown c.status c.errorDetail)]
      exact written_shutdown hA hx (h.active x hx)
    cases active_from hA hE hx' with
    | @kept _ x _ hx hb =>
      have hold := h.active x hx
      cases hb with
      | same hs => rwa [written_other hs hshut]
      | progress => rwa [written_other (by simp [Act.subject]) hshut]
      | handled hh => exact written_handled hh hold
      | shutdown => exact absurd rfl hshut
    | @started st _ id hst hid =>
      -- a waiting stream has no bytes, and its attempt begins with none
      have hsize : x'.writeSize = st.writeSize := by
        obtain ⟨q, h3, -, -, rfl⟩ := starting_started hst hid
        rfl
      rw [hsize, h.waiting st (starting_mem hst), account_concat]
      exact (Function.update_self x'.self 0 (account hist).written).symm

end Step

/-- In a run that meets the condition, `GetProgress` adds the expected total exactly if no finished
request with bytes still waits for its callback. -/
theorem total_once {hostName port : String} {ops : List Op}
    (hM : ∀ hist c a, (exec ops).Performs (new hostName port) hist c a → TotalMeets hist c a)
    {hist : List (Connection × Act)} {c : Connection} (hv : (exec ops).Visits (new hostName port) hist c) :
    ∃ progress total, getProgress.run c = .ok ((progress, total), apply Act.takeProgress c) ∧
      (total = expectedTotal hist c ↔
        ∀ st ∈ c.h3Streams, (account hist).done st.self = true → st.writeSize = 0) := by
  have h0 : Totalled [] (new hostName port) :=
    { waiting := fun _ h => (nomatch h), active := fun _ h => (nomatch h), total := rfl }
  have hT : Totalled hist c := by
    refine visits_inv h0 (fun hist c a hp h => ?_) hv
    obtain ⟨hA, hE⟩ := exec_enabled hp
    exact totalled_apply hA hE (hM hist c a hp) h
  refine ⟨_, _, rfl, ?_⟩
  have hflight : (c.h3Streams.filter fun st => !(account hist).done st.self).map Stream.writeSize =
      (c.h3Streams.filter fun st => !(account hist).done st.self).map
        fun st : Stream => (account hist).written st.self :=
    List.map_congr_left fun st hst => hT.active st (List.mem_of_mem_filter hst)
  have hzero : ((c.h3Streams.filter fun st => (account hist).done st.self).map Stream.writeSize).sum = 0 ↔
      ∀ st ∈ c.h3Streams, (account hist).done st.self = true → st.writeSize = 0 := by
    simp only [List.sum_eq_zero_iff_forall_eq_nat, List.forall_mem_map, List.mem_filter, and_imp]
  rw [← hzero, expectedTotal, ← hflight, hT.total,
    sum_filter_not fun st : Stream => (account hist).done st.self]
  omega

/-- The first request is delivered, and the second in flight: 3 and 2 bytes. -/
theorem total_once_second : ∃ hist c progress total,
    (exec (connectOps ++ downloadOps ++ .publishRequest {} :: answerOps [4, 5])).Visits
      (new "h" "443") hist c ∧
    getProgress.run c = .ok ((progress, total), apply Act.takeProgress c) ∧
    total = expectedTotal hist c ∧ total = 5 := by
  have hv := visits_end (p := exec (connectOps ++ downloadOps ++ .publishRequest {} :: answerOps [4, 5]))
    (s := new "h" "443") rfl
  obtain ⟨progress, total, hrun, hiff⟩ :=
    total_once (fun _ _ _ hp => forall_performs (K := TotalMeets) (by decide) hp) hv
  have htotal : total = expectedTotal _ _ := hiff.2 (by decide)
  exact ⟨_, _, progress, total, hv, hrun, htotal, htotal.trans rfl⟩

/-- Between its FINISHED and its callback a request of 3 bytes makes a total of 6. -/
theorem total_once_finished : ∃ hist c progress,
    (exec (connectOps ++ .publishRequest {} :: answerOps [1, 2, 3] ++ [eventsOp [(0, .finished)]])).Visits
      (new "h" "443") hist c ∧
    getProgress.run c = .ok ((progress, 6), apply Act.takeProgress c) ∧ expectedTotal hist c = 3 :=
  ⟨_, _, _, ⟨List.prefix_rfl, rfl⟩, rfl, rfl⟩

end Nhh3
