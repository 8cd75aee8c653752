import Nhh3.Callbacks
/-!
# Finished downloads

Once FINISHED was handled, a request waits in the list of active streams for
its success callback. Stream::Shutdown leaves a Completed stream alone, but
whatever queues the active streams again takes the Completed ones along.
-/

namespace Nhh3

open Lib Lib.Prog Connection

/-- `x` is the finished download of `st`: Completed, and a callback reports the same body. -/
structure Finished (st x : Stream) : Prop where
  ticket : x.ticket = st.ticket
  status : x.status = .completed
  file : x.response.filePath = st.response.filePath
  body : x.response.body = st.response.body
  size : x.response.bodySize = st.response.bodySize

/-- The condition: there is no Abort, active streams are not queued again while one is
Completed, FINISHED comes for active streams and no DATA after it, and IssueCallbacks
finds no stream to retry. -/
def CompletionMeets (c : Connection) : Act → Prop
  | .abort => False
  | .requeueStreams | .finishShutdown => ∀ x ∈ c.h3Streams, x.status ≠ .completed
  | .eventData _ _ st => ∀ x ∈ c.h3Streams, x.self = st.self → x.status ≠ .completed
  | .eventFinished _ st => ∃ x ∈ c.h3Streams, x.self = st.self
  | .call op => op.issues = true → ∀ x ∈ c.h3Streams, Settled x
  | _ => True

instance (c : Connection) (a : Act) : Decidable (CompletionMeets c a) := by
  apply Act.casesOn (motive := fun a => Decidable (CompletionMeets c a)) a <;> intros <;>
    (dsimp only [CompletionMeets]; infer_instance)

/-- Every request whose FINISHED was handled is active and Completed, or delivered. -/
def Kept (hist : List (Connection × Act)) (c : Connection) : Prop :=
  ∀ pre c₀ id st post, hist = pre ++ (c₀, .eventFinished id st) :: post →
    (∃ x ∈ c.h3Streams, Finished st x) ∨ ∃ c' y, (c', .success y) ∈ post ∧ Finished st y

section Step
variable {c : Connection} {a : Act} {st x x' : Stream}

/-- A Completed stream that stays active stays as it is. -/
theorem Finished.becomes (hM : CompletionMeets c a) (hx : x ∈ c.h3Streams) (h : Finished st x)
    (hb : Becomes c a x x') : Finished st x' := by
  cases hb with
  | same => exact h
  | progress => exact ⟨h.ticket, h.status, h.file, h.body, h.size⟩
  | handled hh =>
    have hself : x'.self = x.self := Stream.self_of_ticket hh.ticket
    cases hh with
    | headers _ hst =>
      rw [Stream.eventHeaders_ok hst]
      exact ⟨h.ticket, h.status, h.file, h.body, h.size⟩
    | data => exact absurd h.status (hM x hx hself.symm)
    | finished => exact ⟨h.ticket, rfl, h.file, h.body, h.size⟩
  | shutdown =>
    have hne : QwfsStatus.connecting ≠ x.status := by rw [h.status]; exact nofun
    rwa [Stream.shutdown, if_neg hne]

/-- The stream that FINISHED was handled for is in the list, Completed. -/
theorem finished_active (hA : Addressed c) {id : Int} (hE : Enabled c (.eventFinished id st))
    (hM : CompletionMeets c (.eventFinished id st)) :
    ∃ x ∈ (apply (Act.eventFinished id st) c).h3Streams, Finished st x := by
  obtain ⟨x, hx, hself⟩ := hM
  obtain ⟨x', hx', hb⟩ := active_to hA hE hx not_false
  refine ⟨x', hx', ?_⟩
  cases hb with
  | same hs => exact absurd (congrArg some hself.symm) hs
  | handled hh =>
    cases hh with
    | finished => exact ⟨rfl, rfl, rfl, rfl, rfl⟩

theorem kept_apply {hist : List (Connection × Act)} (hA : Addressed c) (hE : Enabled c a)
    (hM : CompletionMeets c a) (h : Kept hist c) : Kept (hist ++ [(c, a)]) (apply a c) := by
  intro pre c₀ id st post heq
  rcases List.eq_nil_or_concat' post with rfl | ⟨post', e, rfl⟩
  · -- the FINISHED event is the last action
    obtain ⟨-, he⟩ := List.append_inj' heq rfl
    simp only [List.cons.injEq, Prod.mk.injEq, and_true] at he
    obtain ⟨rfl, rfl⟩ := he
    exact .inl (finished_active hA hE hM)
  · -- it was handled before: the stream stays, or this action delivers it
    rw [← List.cons_append, ← List.append_assoc] at heq
    obtain ⟨rfl, he⟩ := List.append_inj' heq rfl
    obtain rfl := (List.cons.inj he).1
    rcases h _ _ _ _ _ rfl with ⟨x, hx, hfin⟩ | ⟨c', y, hy, hfin⟩
    · by_cases ht : a.takes x
      · cases a with
        | success y =>
          obtain rfl := unique_active hA hE.1 hx ht
          exact .inr ⟨c, y, List.mem_append_right _ (List.mem_singleton.2 rfl), hfin⟩
        | abort => exact hM.elim
        | requeueStreams => exact absurd hfin.status (hM x hx)
        | finishShutdown => exact absurd hfin.status (hM x hx)
        | _ => exact ht.elim
      · obtain ⟨x', hx', hb⟩ := active_to hA hE hx ht
        exact .inl ⟨x', hx', hfin.becomes hM hx hb⟩
    · exact .inr ⟨c', y, List.mem_append_left _ hy, hfin⟩

end Step

section Runs
variable {hostName port : String} {ops : List Op} {pre post : List (Connection × Act)}
  {c c₀ : Connection} {id : Int} {st : Stream}

theorem exec_kept (hM : ∀ e ∈ (exec ops).trace (new hostName port), CompletionMeets e.1 e.2)
    {hist : List (Connection × Act)} (hv : (exec ops).Visits (new hostName port) hist c) : Kept hist c :=
  exec_inv (fun pre c₀ id st post h => absurd h (by simp))
    (fun _ _ _ hA hE hM h => kept_apply hA hE hM h) hM hv

/-- A finished request never waits again. -/
theorem finished_not_waiting (hM : ∀ e ∈ (exec ops).trace (new hostName port), CompletionMeets e.1 e.2)
    (hv : (exec ops).Visits (new hostName port) (pre ++ (c₀, .eventFinished id st) :: post) c)
    {x : Stream} (hx : x ∈ c.waiting) : x.ticket ≠ st.ticket := by
  rcases exec_kept hM hv _ _ _ _ _ rfl with ⟨y, hy, hfin⟩ | ⟨c', y, hy, hfin⟩
  · have hA := exec_addressed hv
    intro heq
    exact waiting_ne_active hA hy hx (Stream.self_of_ticket (hfin.ticket.trans heq.symm))
  · rw [← hfin.ticket]
    have hmem : (c', .success y) ∈ pre ++ (c₀, Act.eventFinished id st) :: post :=
      List.mem_append_right _ (List.mem_cons_of_mem _ hy)
    exact delivered_gone hv hmem (waiting_subset hx)

/-- In a run that meets the condition, a finished request is not queued or sent again;
until the next IssueCallbacks it stays active and Completed with its body, and that
call issues its success callback. -/
theorem finished_kept (hM : ∀ e ∈ (exec ops).trace (new hostName port), CompletionMeets e.1 e.2)
    (hv : (exec ops).Visits (new hostName port) (pre ++ (c₀, .eventFinished id st) :: post) c) :
    (∀ x ∈ c.waiting, x.ticket ≠ st.ticket) ∧
    (∀ c' x k, (c', .startStream x k) ∈ post → x.ticket ≠ st.ticket) ∧
    ((∀ c' starts, (c', .call (.issueCallbacks starts)) ∉ post) →
      (∃ x ∈ c.h3Streams, Finished st x) ∧
      ∀ starts, (exec ops).Performs (new hostName port) (pre ++ (c₀, .eventFinished id st) :: post) c
          (.call (.issueCallbacks starts)) →
        ∃ mid c' x, (exec ops).Performs (new hostName port)
            (pre ++ (c₀, .eventFinished id st) :: post ++ (c, .call (.issueCallbacks starts)) :: mid) c'
            (.success x) ∧
          Finished st x ∧ ∀ e ∈ mid, e.2.callback = some true) := by
  refine ⟨?_, ?_, ?_⟩
  · intro x hx
    exact finished_not_waiting hM hv hx
  · intro c' x k hmem heq
    obtain ⟨p, q, rfl⟩ := List.append_of_mem hmem
    have hp : (exec ops).Performs (new hostName port) (pre ++ (c₀, .eventFinished id st) :: p) c'
        (.startStream x k) := by
      refine List.IsPrefix.trans ⟨q, ?_⟩ hv.1
      simp
    obtain ⟨-, st₀, hst, -⟩ := exec_enabled hp
    obtain ⟨io, hstart⟩ := hst.start
    refine finished_not_waiting hM hp.visits (starting_mem hst) ?_
    rw [← Stream.start_ticket hstart, heq]
  · intro hnone
    have hactive : ∃ x ∈ c.h3Streams, Finished st x := by
      rcases exec_kept hM hv _ _ _ _ _ rfl with hactive | ⟨c', y, hy, -⟩
      · exact hactive
      · -- delivered already, so IssueCallbacks was called
        obtain ⟨p, q, rfl⟩ := List.append_of_mem hy
        have hp : (exec ops).Performs (new hostName port) (pre ++ (c₀, .eventFinished id st) :: p) c'
            (.success y) := by
          refine List.IsPrefix.trans ⟨q, ?_⟩ hv.1
          simp
        obtain ⟨c₁, starts, hcall⟩ := callback_call hp rfl rfl
        exact absurd (List.mem_append_left _ hcall) (hnone c₁ starts)
    refine ⟨hactive, ?_⟩
    intro starts hp
    obtain ⟨x, hx, hfin⟩ := hactive
    obtain ⟨mid, c', hp', hmid⟩ := exec_success hp (hM _ hp.mem rfl) hx hfin.status
    exact ⟨mid, c', x, hp', hfin, hmid⟩

end Runs

/-- A request up to its FINISHED event, not delivered yet. -/
def finishOps : List Op := connectOps ++ .publishRequest {} :: answerOps [1] ++ [eventsOp [(0, .finished)]]

theorem finishOps_performs : ∃ pre c₀ st,
    (exec finishOps).Performs (new "h" "443") pre c₀ (.eventFinished 0 st) ∧
      st.ticket = (Stream.new 0 "h" {}).ticket :=
  ⟨_, _, _, performs_last rfl, by decide⟩

theorem finished_kept_download : ∃ pre c₀ st c,
    (exec finishOps).Visits (new "h" "443") (pre ++ (c₀, .eventFinished 0 st) :: []) c ∧
      ∃ x ∈ c.h3Streams, Finished st x := by
  obtain ⟨pre, c₀, st, hp, -⟩ := finishOps_performs
  exact ⟨pre, c₀, st, _, ⟨hp, rfl⟩, ((finished_kept (by decide) ⟨hp, rfl⟩).2.2 (by simp)).1⟩

/-- A Reconnect before the callback queues the finished request again. -/
theorem finished_kept_reconnect : ∃ pre c₀ st c,
    (exec finishOps).Performs (new "h" "443") pre c₀ (.eventFinished 0 st) ∧
      (exec (finishOps ++ [.reconnect 0 0])).run (new "h" "443") = .ok ((), c) ∧
      (¬ ∃ x ∈ c.h3Streams, Finished st x) ∧ ∃ x ∈ c.waiting, x.ticket = st.ticket := by
  obtain ⟨pre, c₀, st, hp, ht⟩ := finishOps_performs
  obtain ⟨c, hrun, hactive, hwait⟩ : ∃ c,
      (exec (finishOps ++ [.reconnect 0 0])).run (new "h" "443") = .ok ((), c) ∧ c.h3Streams = [] ∧
        ∃ x ∈ c.waiting, x.ticket = (Stream.new 0 "h" {}).ticket := ⟨_, rfl, rfl, by decide⟩
  refine ⟨pre, c₀, st, c, hp, hrun, ?_, ht ▸ hwait⟩
  simp [hactive]

end Nhh3
