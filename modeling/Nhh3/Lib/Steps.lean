import Mathlib.Data.List.Count
/-!
# Runs of a system that takes one turn after the other

A turn is taken if the step function allows it. A run keeps what each of its turns
keeps; and turns that use up a rank, which no other turn gives back, are few.
-/

namespace Lib

variable {σ τ : Type} {step : σ → τ → Option σ} {s s' s₁ : σ} {hist : List (σ × τ)}

/-- The runs from a state, with the turns taken and the states they are taken in. -/
inductive Steps (step : σ → τ → Option σ) (s : σ) : List (σ × τ) → σ → Prop where
  | start : Steps step s [] s
  | turn {hist : List (σ × τ)} {s₁ s' : σ} (t : τ) : Steps step s hist s₁ → step s₁ t = some s' →
      Steps step s (hist ++ [(s₁, t)]) s'

namespace Steps

/-- What holds at the start and is kept by every turn the run takes holds at the end. -/
theorem inv {J : σ → Prop} {K : σ → τ → Prop} (h : Steps step s hist s') (h0 : J s)
    (hstep : ∀ s₁ t s', step s₁ t = some s' → K s₁ t → J s₁ → J s') (hK : ∀ e ∈ hist, K e.1 e.2) : J s' := by
  induction h with
  | start => exact h0
  | turn t _ hturn ih =>
    rw [List.forall_mem_append, List.forall_mem_singleton] at hK
    exact hstep _ t _ hturn hK.2 (ih hK.1)

/-- The states a run goes through are ends of runs. -/
theorem before {e : σ × τ} (h : Steps step s hist s') (he : e ∈ hist) :
    ∃ pre, pre <+: hist ∧ Steps step s pre e.1 := by
  induction h with
  | start => cases he
  | @turn hist s₁ s' t hrun _ ih =>
    rcases List.mem_append.1 he with he | he
    · obtain ⟨pre, hpre, h⟩ := ih he
      exact ⟨pre, hpre.trans (List.prefix_append _ _), h⟩
    · obtain rfl := List.mem_singleton.1 he
      exact ⟨hist, List.prefix_append _ _, hrun⟩

/-- And it holds wherever the run takes a turn. -/
theorem always {J : σ → Prop} {K : σ → τ → Prop} (h : Steps step s hist s') (h0 : J s)
    (hstep : ∀ s₁ t s', step s₁ t = some s' → K s₁ t → J s₁ → J s') (hK : ∀ e ∈ hist, K e.1 e.2) :
    ∀ e ∈ hist, J e.1 := by
  intro e he
  obtain ⟨pre, hpre, hrun⟩ := h.before he
  exact hrun.inv h0 hstep fun e' he' => hK e' (hpre.subset he')

/-- Turns that lower a rank which no turn raises: there are no more of them than the rank at the start. -/
theorem count_le {J : σ → Prop} (uses : τ → Bool) (rank : σ → Nat) (h : Steps step s hist s')
    (hJ : ∀ e ∈ hist, J e.1) (hkeep : ∀ s₁ t s', step s₁ t = some s' → J s₁ → rank s' ≤ rank s₁)
    (huse : ∀ s₁ t s', step s₁ t = some s' → J s₁ → uses t = true → rank s' < rank s₁) :
    hist.countP (fun e => uses e.2) + rank s' ≤ rank s := by
  induction h with
  | start => simp
  | @turn hist s₁ s' t _ hturn ih =>
    rw [List.forall_mem_append, List.forall_mem_singleton] at hJ
    have hbefore := ih hJ.1
    rw [List.countP_append, List.countP_singleton]
    by_cases hu : uses t = true
    · have hlt := huse s₁ t s' hturn hJ.2 hu
      rw [if_pos hu]
      omega
    · have hle := hkeep s₁ t s' hturn hJ.2
      rw [if_neg hu]
      omega

end Steps

end Lib
