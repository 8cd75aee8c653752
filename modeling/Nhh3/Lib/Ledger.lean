import Mathlib.Algebra.Order.Group.Multiset
/-!
# A ledger of tickets

Every ticket handed out is pending until it is delivered or discarded. The
ledger balances in every state, so each ticket is counted exactly once and none
is delivered twice.
-/

namespace Lib

structure Ledger (τ : Type) where
  issued : Multiset τ
  pending : Multiset τ
  delivered : Multiset τ
  discarded : Multiset τ

namespace Ledger
variable {τ : Type}

/-- One entry: the pending tickets may also be shuffled, which a multiset does not see. -/
inductive Step : Ledger τ → Ledger τ → Prop where
  | keep (l : Ledger τ) : Step l l
  | issue (l : Ledger τ) (t : τ) : t ∉ l.issued →
      Step l { l with issued := t ::ₘ l.issued, pending := t ::ₘ l.pending }
  | deliver (l : Ledger τ) (t : τ) (rest : Multiset τ) : l.pending = t ::ₘ rest →
      Step l { l with pending := rest, delivered := t ::ₘ l.delivered }
  | discard (l : Ledger τ) :
      Step l { l with pending := 0, discarded := l.pending + l.discarded }

/-- No ticket was handed out twice, and the bins hold what was handed out. -/
structure Balanced (l : Ledger τ) : Prop where
  nodup : l.issued.Nodup
  total : l.pending + l.delivered + l.discarded = l.issued

variable {l l' : Ledger τ}

theorem Step.balanced (h : Step l l') (hl : l.Balanced) : l'.Balanced := by
  obtain ⟨hnd, htotal⟩ := hl
  cases h with
  | keep => exact ⟨hnd, htotal⟩
  | issue t ht => exact ⟨Multiset.nodup_cons.2 ⟨ht, hnd⟩, by simp [htotal]⟩
  | deliver t rest hp =>
    refine ⟨hnd, ?_⟩
    rw [← htotal, hp]
    simp only [Multiset.add_cons, Multiset.cons_add]
  | discard =>
    refine ⟨hnd, ?_⟩
    rw [← htotal]
    simp only [zero_add]
    rw [add_comm l.delivered, add_right_comm]

variable [DecidableEq τ]

/-- Each ticket is in exactly one bin, once. -/
theorem Balanced.count (hl : l.Balanced) {t : τ} (ht : t ∈ l.issued) :
    l.pending.count t + l.delivered.count t + l.discarded.count t = 1 := by
  rw [← Multiset.count_add, ← Multiset.count_add, hl.total]
  exact Multiset.count_eq_one_of_mem hl.nodup ht

omit [DecidableEq τ] in
/-- No ticket is delivered twice. -/
theorem Balanced.nodup_delivered (hl : l.Balanced) : l.delivered.Nodup := by
  refine Multiset.nodup_of_le ?_ hl.nodup
  rw [← hl.total]
  exact le_trans (Multiset.le_add_left _ _) (Multiset.le_add_right _ _)

end Ledger

end Lib
