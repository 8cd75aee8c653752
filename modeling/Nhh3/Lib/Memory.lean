import Mathlib.Data.List.Basic
/-!
# Blocks of bytes

A block of memory is a list of bytes, and a field of an object is a range of it.
A write changes the bytes that it covers, whatever fields they belong to, and
no others.
-/

namespace Lib

abbrev Mem := List UInt8

/-- A field of an object, by its offset and its size. -/
structure Field where
  off : Nat
  size : Nat
  deriving DecidableEq, Repr

/-- The `n` lowest bytes of a number, the lowest first. -/
def leBytes : Nat → Nat → List UInt8
  | 0, _ => []
  | n + 1, v => (v % 256).toUInt8 :: leBytes n (v / 256)

@[simp] theorem length_leBytes (n v : Nat) : (leBytes n v).length = n := by
  induction n generalizing v with
  | zero => rfl
  | succ n ih => simp [leBytes, ih]

namespace Mem

/-- Overwrite the bytes from `off` on with `bs`; what lies outside of the block is lost. -/
def write : Mem → Nat → List UInt8 → Mem
  | [], _, _ => []
  | m, _, [] => m
  | _ :: m, 0, x :: bs => x :: write m 0 bs
  | b :: m, off + 1, bs => b :: write m off bs

/-- The bytes of a field. -/
def read (m : Mem) (f : Field) : List UInt8 := (m.drop f.off).take f.size

/-- A field that holds an unsigned number, the lowest byte first. -/
def nat (m : Mem) (f : Field) : Nat := (m.read f).foldr (fun b n => b.toNat + 256 * n) 0

/-- A field that holds a flag: any byte but 0 is true. -/
def flag (m : Mem) (f : Field) : Bool := m.nat f ≠ 0

variable {m : Mem} {off i : Nat} {bs : List UInt8} {f : Field}

@[simp] theorem length_write (m : Mem) (off : Nat) (bs : List UInt8) :
    (m.write off bs).length = m.length := by
  fun_induction write m off bs with
  | case1 => rfl
  | case2 => rfl
  | case3 _ m x bs ih => simp [ih]
  | case4 b m off bs _ ih => simp [ih]

theorem getElem?_write : (m.write off bs)[i]? =
    if off ≤ i ∧ i < off + bs.length ∧ i < m.length then bs[i - off]? else m[i]? := by
  fun_induction write m off bs generalizing i with
  | case1 => simp
  | case2 => simp; omega
  | case3 _ m x bs ih =>
    cases i with
    | zero => simp
    | succ i => simp [ih]
  | case4 b m off bs _ ih =>
    cases i with
    | zero => simp
    | succ i => simp [ih, Nat.add_right_comm]

/-- A write keeps the fields that it does not cover. -/
theorem read_write_of_disjoint (h : f.off + f.size ≤ off ∨ off + bs.length ≤ f.off) :
    (m.write off bs).read f = m.read f := by
  refine List.ext_getElem? fun i => ?_
  simp only [read, List.getElem?_take, List.getElem?_drop, getElem?_write]
  split
  · rw [if_neg (by omega)]
  · rfl

/-- A byte that a write covers. -/
theorem read_write_byte {b : UInt8} (h : off ≤ f.off) (hf : f.size = 1) (hm : f.off < m.length)
    (hb : bs[f.off - off]? = some b) : (m.write off bs).read f = [b] := by
  have hlen : f.off - off < bs.length := (List.getElem?_eq_some_iff.1 hb).1
  refine List.ext_getElem? fun i => ?_
  simp only [read, List.getElem?_take, List.getElem?_drop, getElem?_write, hf]
  split
  · obtain rfl : i = 0 := by omega
    rw [if_pos (by omega), Nat.add_zero, hb]
    rfl
  · rw [List.getElem?_eq_none (by simp; omega)]

end Mem

end Lib
