import Mathlib.Data.List.Basic
import Mathlib.Logic.Function.Basic
/-!
# Edge-triggered sources

A source gives notice that it has data, and does so again only once everything was
read. A consumer that reads once on each notice is stalled by every read that leaves
something: the next notice never comes.
-/

namespace Lib

/-- What a source holds for its consumer. -/
structure Edge (α : Type) where
  unread : List α
  /-- Notice was given since the consumer last had everything. -/
  notified : Bool

/-- What passes between consumer and sources. A read finds data, or fails. -/
inductive Call (ι α : Type) where
  | notify (i : ι)
  | read (i : ι) (found : Option (List α))
  /-- The source says that it has ended. -/
  | finish (i : ι)

namespace Edge
variable {ι α : Type} {e : Edge α} {n : Nat}

/-- Notice was given of data that is still there. -/
def Stalled (e : Edge α) : Prop := e.notified = true ∧ e.unread ≠ []

/-- One read takes at most `n` items. -/
def read (n : Nat) (e : Edge α) : Edge α :=
  { unread := e.unread.drop n, notified := e.notified && !(e.unread.drop n).isEmpty }

theorem stalled_read (hn : e.notified = true) : (e.read n).Stalled ↔ n < e.unread.length := by
  simp [Stalled, read, hn]

section Family
variable [DecidableEq ι] {q : ι → Edge α} {i j : ι} {calls : List (Call ι α)}

/-- The sources after a call; a read has a buffer of `n` items. -/
def serve (n : Nat) (q : ι → Edge α) : Call ι α → ι → Edge α
  | .notify i => Function.update q i { q i with notified := true }
  | .read i (some _) => Function.update q i ((q i).read n)
  | .read _ none => q
  | .finish _ => q

def served (n : Nat) (q : ι → Edge α) (calls : List (Call ι α)) : ι → Edge α := calls.foldl (serve n) q

/-- What the sources promise about a call. -/
def Allows (q : ι → Edge α) : Call ι α → Prop
  | .notify i => (q i).notified = false ∧ (q i).unread ≠ []
  | .read i found => ∀ data, found = some data → data = (q i).unread
  | .finish i => (q i).unread = []

def Contract (n : Nat) (q : ι → Edge α) : List (Call ι α) → Prop
  | [] => True
  | call :: calls => Allows q call ∧ Contract n (serve n q call) calls

/-- The consumer reads once on each notice, and never else. -/
inductive ReadsOnce : List (Call ι α) → Prop where
  | nil : ReadsOnce []
  | ready (i : ι) (found : Option (List α)) {calls : List (Call ι α)} :
      ReadsOnce calls → ReadsOnce (.notify i :: .read i found :: calls)
  | finish (i : ι) {calls : List (Call ι α)} : ReadsOnce calls → ReadsOnce (.finish i :: calls)

/-- A read of everything there was. -/
def Whole (n : Nat) (found : Option (List α)) : Prop := ∃ data, found = some data ∧ data.length ≤ n

/-- A notice and the read that follows stall the source unless the read is whole. -/
theorem stalled_ready {found : Option (List α)} (h : Contract n q (.notify i :: .read i found :: calls)) :
    (served n q [.notify i, .read i found] j).Stalled ↔
      (q j).Stalled ∨ (j = i ∧ ¬ Whole n found) := by
  obtain ⟨⟨hnew, hdata⟩, hread, -⟩ := h
  by_cases hj : j = i
  · subst hj
    have hq : ¬ (q j).Stalled := fun hs => by simp [hs.1] at hnew
    simp only [hq, false_or, true_and, served, List.foldl_cons, List.foldl_nil]
    cases found with
    | none =>
      simp only [serve, Function.update_self, Whole]
      exact ⟨nofun, fun _ => ⟨rfl, hdata⟩⟩
    | some data =>
      obtain rfl : data = (q j).unread := by simpa [serve] using hread data rfl
      simp only [serve, Function.update_self, Whole, Option.some.injEq, exists_eq_left', Nat.not_le]
      exact stalled_read rfl
  · have hother : served n q [.notify i, .read i found] j = q j := by
      cases found <;> simp [served, serve, Function.update_of_ne hj]
    simp [hother, hj]

/-- After a run of such a consumer the stalled sources are those stalled before, and those with a read
that was not whole. -/
theorem stalled_iff (hone : ReadsOnce calls) (h : Contract n q calls) :
    (served n q calls j).Stalled ↔
      (q j).Stalled ∨ ∃ found, .read j found ∈ calls ∧ ¬ Whole n found := by
  induction hone generalizing q with
  | nil => simp [served]
  | @ready i found calls _ ih =>
    have hrest : Contract n (served n q [.notify i, .read i found]) calls := h.2.2
    show (served n (served n q [.notify i, .read i found]) calls j).Stalled ↔ _
    rw [ih hrest, stalled_ready h, or_assoc]
    refine or_congr_right ⟨?_, ?_⟩
    · rintro (⟨rfl, hw⟩ | ⟨found', hmem, hw⟩)
      · exact ⟨found, by simp, hw⟩
      · exact ⟨found', by simp [hmem], hw⟩
    · rintro ⟨found', hmem, hw⟩
      simp only [List.mem_cons, reduceCtorEq, Call.read.injEq, false_or] at hmem
      rcases hmem with ⟨rfl, rfl⟩ | hmem
      · exact .inl ⟨rfl, hw⟩
      · exact .inr ⟨found', hmem, hw⟩
  | @finish i calls _ ih =>
    have hrest : Contract n q calls := h.2
    show (served n q calls j).Stalled ↔ _
    rw [ih hrest]
    simp

end Family

end Edge

end Lib
