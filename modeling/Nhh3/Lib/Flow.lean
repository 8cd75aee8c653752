import Mathlib.Algebra.BigOperators.Group.List.Basic
import Mathlib.Algebra.Order.Group.Multiset
import Mathlib.Tactic.Abel
import Nhh3.Lib.Program
/-!
# Resources that come and go

What the actions of a program acquire, give back and lose, and what the state
still holds. If every action balances, so does every run: nothing is given back
that was not acquired, and what was acquired is held, given back or lost.
-/

namespace Lib

/-- The resources of one kind: what the state holds, and what each action acquires, releases,
and loses for good, because nothing refers to it any more. -/
structure Flow (σ α M : Type) where
  held : σ → M
  acquired : σ × α → M
  released : σ × α → M
  lost : σ × α → M

/-- What the actions of a history come to. -/
def total {σ α M : Type} [AddMonoid M] (f : σ × α → M) (hist : List (σ × α)) : M := (hist.map f).sum

section Total
variable {σ α M : Type} [AddMonoid M] (f : σ × α → M)

@[simp] theorem total_nil : total f [] = 0 := rfl

theorem total_concat (hist : List (σ × α)) (e : σ × α) : total f (hist ++ [e]) = total f hist + f e := by
  simp [total]

theorem total_eq_zero {hist : List (σ × α)} (h : ∀ e ∈ hist, f e = 0) : total f hist = 0 := by
  refine List.sum_eq_zero fun x hx => ?_
  obtain ⟨e, he, rfl⟩ := List.mem_map.1 hx
  exact h e he

end Total

namespace Flow
open Prog

section Balance
variable {σ α ε β M : Type} [Machine σ α] [AddCommMonoid M] (flow : Flow σ α M)

/-- The action accounts for everything. -/
def Balances (s : σ) (a : α) : Prop :=
  flow.held (apply a s) + flow.released (s, a) + flow.lost (s, a) = flow.held s + flow.acquired (s, a)

/-- A state in which everything is accounted for. -/
def Accounted (hist : List (σ × α)) (s : σ) : Prop :=
  total flow.acquired hist = flow.held s + total flow.released hist + total flow.lost hist

variable {flow}

theorem Accounted.step {hist : List (σ × α)} {s : σ} {a : α} (h : flow.Accounted hist s)
    (hstep : flow.Balances s a) : flow.Accounted (hist ++ [(s, a)]) (apply a s) := by
  unfold Accounted Balances at *
  rw [total_concat, total_concat, total_concat, h]
  calc flow.held s + total flow.released hist + total flow.lost hist + flow.acquired (s, a)
    _ = (flow.held s + flow.acquired (s, a)) + (total flow.released hist + total flow.lost hist) := by abel
    _ = (flow.held (apply a s) + flow.released (s, a) + flow.lost (s, a)) +
        (total flow.released hist + total flow.lost hist) := by rw [hstep]
    _ = _ := by abel

/-- If every action of a run balances, everything is accounted for wherever it comes. -/
theorem accounted_visits (flow : Flow σ α M) {p : Prog σ α ε β} {s : σ} (h0 : flow.held s = 0)
    (hstep : ∀ hist s' a, p.Performs s hist s' a → flow.Balances s' a) {hist : List (σ × α)} {s' : σ}
    (hv : p.Visits s hist s') : flow.Accounted hist s' := by
  refine visits_inv (J := flow.Accounted) ?_ (fun hist s' a hp h => h.step (hstep hist s' a hp)) hv
  simp [Accounted, h0]

end Balance

section Names
variable {σ α ε β τ : Type} [Machine σ α] {f : σ × α → Multiset τ} {number : τ → Nat} {next : σ → Nat}

/-- Numbers are handed out in order: what the action acquires has numbers that no state before had. -/
structure Fresh (f : σ × α → Multiset τ) (number : τ → Nat) (next : σ → Nat) (s : σ) (a : α) : Prop where
  nodup : (f (s, a)).Nodup
  range : ∀ x ∈ f (s, a), next s ≤ number x ∧ number x < next (apply a s)
  mono : next s ≤ next (apply a s)

/-- Then nothing is acquired twice. -/
theorem nodup_total {p : Prog σ α ε β} {s : σ}
    (hstep : ∀ hist s' a, p.Performs s hist s' a → Fresh f number next s' a) {hist : List (σ × α)} {s' : σ}
    (hv : p.Visits s hist s') : (total f hist).Nodup ∧ ∀ x ∈ total f hist, number x < next s' := by
  refine visits_inv (J := fun hist s' => (total f hist).Nodup ∧ ∀ x ∈ total f hist, number x < next s')
    ⟨Multiset.nodup_zero, fun x hx => absurd hx (Multiset.notMem_zero x)⟩ (fun hist s' a hp h => ?_) hv
  obtain ⟨hnodup, hrange, hmono⟩ := hstep hist s' a hp
  rw [total_concat]
  constructor
  · refine Multiset.nodup_add.2 ⟨h.1, hnodup, Multiset.disjoint_left.2 fun hx hx' => ?_⟩
    exact absurd (h.2 _ hx) (Nat.not_lt.2 (hrange _ hx').1)
  · intro x hx
    rcases Multiset.mem_add.1 hx with hx | hx
    · exact (h.2 x hx).trans_le hmono
    · exact (hrange x hx).2

end Names

end Flow

end Lib
