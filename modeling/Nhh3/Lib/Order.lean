import Mathlib.Data.List.Nodup
/-!
# Lists in the order of another

The sublists of a list without repetitions have its elements in their order. A part
that is turned round is in order only if it has at most one element, and two parts
that change places only if one of them is empty.
-/

open scoped List

namespace Lib

variable {τ : Type} {all a b : List τ} {x y : τ}

/-- No two elements are in both orders. -/
theorem not_swapped (hall : all.Nodup) (h : [x, y] <+ all) : ¬ [y, x] <+ all := by
  induction all with
  | nil => cases h
  | cons z all ih =>
    obtain ⟨hz, hall⟩ := List.nodup_cons.1 hall
    intro h'
    rcases List.cons_sublist_cons'.1 h with hin | ⟨rfl, hy⟩
    · rcases List.cons_sublist_cons'.1 h' with hin' | ⟨rfl, -⟩
      · exact ih hall hin hin'
      · exact hz (hin.subset (by simp))
    · rcases List.cons_sublist_cons'.1 h' with hin' | ⟨rfl, -⟩
      · exact hz (hin'.subset (by simp))
      · exact hz (hy.subset (by simp))

theorem pair_sublist (hx : x ∈ a) (hy : y ∈ b) : [x, y] <+ a ++ b :=
  (List.singleton_sublist.2 hx).append (List.singleton_sublist.2 hy)

theorem reverse_eq_of_length (h : a.length ≤ 1) : a.reverse = a := by
  rcases a with _ | ⟨x, _ | ⟨y, rest⟩⟩
  · rfl
  · rfl
  · simp at h

theorem reverse_sublist_iff (hall : all.Nodup) (h : a <+ all) : a.reverse <+ all ↔ a.length ≤ 1 := by
  constructor
  · intro hreverse
    by_contra hlong
    rcases a with _ | ⟨x, _ | ⟨y, rest⟩⟩
    · simp at hlong
    · simp at hlong
    · have hpair : [x, y] <+ x :: y :: rest := by simp
      exact not_swapped hall (hpair.trans h) (hpair.reverse.trans hreverse)
  · intro hshort
    rwa [reverse_eq_of_length hshort]

theorem reverse_eq_self_iff (h : a.Nodup) : a.reverse = a ↔ a.length ≤ 1 := by
  rw [← reverse_sublist_iff h (List.Sublist.refl a)]
  constructor
  · intro heq
    rw [heq]
  · intro hreverse
    exact hreverse.eq_of_length a.length_reverse

theorem append_swap_iff (hall : all.Nodup) (h : a ++ b <+ all) : b ++ a <+ all ↔ a = [] ∨ b = [] := by
  constructor
  · intro hswap
    by_contra hne
    obtain ⟨ha, hb⟩ := not_or.1 hne
    obtain ⟨x, hx⟩ := List.exists_mem_of_ne_nil a ha
    obtain ⟨y, hy⟩ := List.exists_mem_of_ne_nil b hb
    exact not_swapped hall ((pair_sublist hx hy).trans h) ((pair_sublist hy hx).trans hswap)
  · rintro (rfl | rfl)
    · simpa using h
    · simpa using h

/-- A new last element is in order only at the end. -/
theorem concat_sublist_iff (hall : (all ++ [x]).Nodup) (h : a ++ b <+ all) :
    a ++ [x] ++ b <+ all ++ [x] ↔ b = [] := by
  constructor
  · intro hinsert
    by_contra hb
    obtain ⟨y, hy⟩ := List.exists_mem_of_ne_nil b hb
    have hlast : [y, x] <+ all ++ [x] := pair_sublist (h.subset (by simp [hy])) (by simp)
    have hbefore : [x, y] <+ a ++ [x] ++ b := pair_sublist (by simp) hy
    exact not_swapped hall hlast (hbefore.trans hinsert)
  · rintro rfl
    rw [List.append_nil] at h ⊢
    exact h.append_right [x]

end Lib
