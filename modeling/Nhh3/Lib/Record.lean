import Nhh3.Lib.Memory
import Mathlib.Algebra.Ring.Nat
/-!
# Records in memory

The members of a record lie one behind the other, each at a multiple of its size,
and a record within a record at a multiple of its largest member. What is stored at
the places of a layout is read from them, whole or in part.
-/

namespace Lib

/-- The first multiple of `n` from `off` on. -/
def alignUp (off n : Nat) : Nat := (off + (n - 1)) / n * n

/-- The places of members that follow each other. -/
def place : Nat → List (List UInt8) → List (Nat × List UInt8)
  | _, [] => []
  | off, bs :: l => (alignUp off bs.length, bs) :: place (alignUp off bs.length + bs.length) l

def placeEnd : Nat → List (List UInt8) → Nat
  | off, [] => off
  | off, bs :: l => placeEnd (alignUp off bs.length + bs.length) l

/-- The size of the largest member. -/
def alignment (l : List (List UInt8)) : Nat := (l.map List.length).foldr max 1

/-- The places of the members of a record within a record. -/
def placeRecord (off : Nat) (l : List (List UInt8)) : List (Nat × List UInt8) := place (alignUp off (alignment l)) l

/-- Its end: a record is padded to a multiple of its largest member. -/
def recordEnd (off : Nat) (l : List (List UInt8)) : Nat :=
  alignUp (placeEnd (alignUp off (alignment l)) l) (alignment l)

/-- All bytes are written to their places. -/
def Mem.store (m : Mem) (l : List (Nat × List UInt8)) : Mem := l.foldl (fun m e => m.write e.1 e.2) m

/-- The places lie one behind the other, from `lo` to `hi`. -/
def Ascends : Nat → List (Nat × List UInt8) → Nat → Prop
  | lo, [], hi => lo ≤ hi
  | lo, e :: l, hi => lo ≤ e.1 ∧ Ascends (e.1 + e.2.length) l hi

variable {m : Mem} {off lo mid hi i k n v : Nat} {bs : List UInt8} {l l' : List (Nat × List UInt8)}

theorem le_alignUp (off : Nat) (h : 0 < n) : off ≤ alignUp off n := by
  have hdiv := Nat.div_add_mod (off + (n - 1)) n
  have hmod := Nat.mod_lt (off + (n - 1)) h
  rw [Nat.mul_comm] at hdiv
  unfold alignUp
  omega

theorem Ascends.le (h : Ascends lo l hi) : lo ≤ hi := by
  induction l generalizing lo with
  | nil => exact h
  | cons e l ih =>
    obtain ⟨hlo, h⟩ := h
    have := ih h
    omega

theorem Ascends.mono {lo' : Nat} (h : Ascends lo l hi) (hlo : lo' ≤ lo) : Ascends lo' l hi := by
  cases l with
  | nil => exact Nat.le_trans hlo h
  | cons e l => exact ⟨Nat.le_trans hlo h.1, h.2⟩

theorem Ascends.append (h : Ascends lo l mid) (h' : Ascends mid l' hi) : Ascends lo (l ++ l') hi := by
  induction l generalizing lo with
  | nil => exact h'.mono h
  | cons e l ih => exact ⟨h.1, ih h.2⟩

theorem ascends_place {l : List (List UInt8)} (h : ∀ bs ∈ l, 0 < bs.length) (off : Nat) :
    Ascends off (place off l) (placeEnd off l) := by
  induction l generalizing off with
  | nil => exact Nat.le_refl off
  | cons bs l ih =>
    rw [List.forall_mem_cons] at h
    exact ⟨le_alignUp off h.1, ih h.2 _⟩

theorem alignment_pos (l : List (List UInt8)) : 0 < alignment l := by
  induction l with
  | nil => exact Nat.one_pos
  | cons bs l ih => exact Nat.lt_of_lt_of_le ih (Nat.le_max_right _ _)

theorem ascends_placeRecord {l : List (List UInt8)} (h : ∀ bs ∈ l, 0 < bs.length) (off : Nat) :
    Ascends off (placeRecord off l) (recordEnd off l) := by
  have hplace := ascends_place h (alignUp off (alignment l))
  have hend : Ascends (placeEnd (alignUp off (alignment l)) l) [] (recordEnd off l) :=
    le_alignUp _ (alignment_pos l)
  have hall := (hplace.append hend).mono (le_alignUp off (alignment_pos l))
  rwa [List.append_nil] at hall

namespace Mem

/-- What is read inside of a write. -/
theorem read_write_inside (h : i + k ≤ bs.length) (hm : off + bs.length ≤ m.length) :
    (m.write off bs).read ⟨off + i, k⟩ = read bs ⟨i, k⟩ := by
  refine List.ext_getElem? fun j => ?_
  simp only [read, List.getElem?_take, List.getElem?_drop, getElem?_write]
  split
  · rw [if_pos (by omega)]
    congr 1
    omega
  · rfl

@[simp] theorem length_store (m : Mem) (l : List (Nat × List UInt8)) : (m.store l).length = m.length := by
  induction l generalizing m with
  | nil => rfl
  | cons e l ih => exact (ih (m.write e.1 e.2)).trans (length_write m e.1 e.2)

/-- What lies before the places is not stored to. -/
theorem read_store_before {f : Field} (h : Ascends lo l hi) (hf : f.off + f.size ≤ lo) :
    (m.store l).read f = m.read f := by
  induction l generalizing m lo with
  | nil => rfl
  | cons e l ih =>
    have hbefore := Nat.le_trans hf h.1
    refine (ih (m := m.write e.1 e.2) h.2 (Nat.le_trans hbefore (Nat.le_add_right _ _))).trans ?_
    exact read_write_of_disjoint (.inl hbefore)

/-- What is stored at a place is read from it. -/
theorem read_store (h : Ascends lo l hi) (hm : hi ≤ m.length) {e : Nat × List UInt8} (he : e ∈ l)
    (hk : k ≤ e.2.length) : (m.store l).read ⟨e.1, k⟩ = e.2.take k := by
  induction l generalizing m lo with
  | nil => cases he
  | cons e' l ih =>
    have hbehind := h.2.le
    rcases List.mem_cons.1 he with rfl | he
    · refine (read_store_before (m := m.write e.1 e.2) h.2 (by simpa using hk)).trans ?_
      exact read_write_inside (i := 0) (by omega) (by omega)
    · exact ih (m := m.write e'.1 e'.2) h.2 (by rwa [length_write]) he

end Mem

theorem take_leBytes (h : k ≤ n) (v : Nat) : (leBytes n v).take k = leBytes k v := by
  induction k generalizing n v with
  | zero => rfl
  | succ k ih =>
    cases n with
    | zero => omega
    | succ n => simp only [leBytes, List.take_succ_cons, ih (Nat.le_of_succ_le_succ h)]

/-- The number that the lowest bytes hold. -/
theorem foldr_leBytes (n v : Nat) : (leBytes n v).foldr (fun b n => b.toNat + 256 * n) 0 = v % 256 ^ n := by
  induction n generalizing v with
  | zero => simp [leBytes, Nat.mod_one]
  | succ n ih =>
    rw [leBytes, List.foldr_cons, ih, Nat.pow_succ', Nat.mod_mul]
    congr 1
    simp

/-- A number is stored at a place, and its lowest bytes are read. -/
theorem Mem.nat_store (h : Ascends lo l hi) (hm : hi ≤ m.length) (he : (off, leBytes n v) ∈ l) (hk : k ≤ n) :
    (m.store l).nat ⟨off, k⟩ = v % 256 ^ k := by
  rw [Mem.nat, read_store h hm he (by simpa using hk), take_leBytes hk, foldr_leBytes]

end Lib
