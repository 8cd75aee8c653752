import Mathlib.Data.List.Basic
/-!
# Chunks written over each other

A reader that puts every chunk at the start of one buffer, and takes as many bytes
from it as all chunks had, gets the whole only if the first chunk with anything in it
is the whole, up to filler that was there already.
-/

namespace Lib

namespace Overlay
variable {α : Type}

/-- The buffer after a chunk was written to its start. -/
def fill (buffer chunk : List α) : List α := chunk ++ buffer.drop chunk.length

def overlay (buffer : List α) (chunks : List (List α)) : List α := chunks.foldl fill buffer

/-- Behind the first chunk that is not empty there is filler only, where the buffer has filler. -/
def Whole (z : α) : List (List α) → Prop
  | [] => True
  | chunk :: chunks =>
    if chunk = [] then Whole z chunks
    else ∀ e ∈ chunks, ∀ i < e.length, e[i]? = some z ∧ chunk.getD i z = z

section Lemmas
variable {buffer chunk first : List α} {chunks : List (List α)} {z : α} {i n : Nat}

theorem getElem?_fill : (fill buffer chunk)[i]? = if i < chunk.length then chunk[i]? else buffer[i]? := by
  unfold fill
  split
  · exact List.getElem?_append_left ‹_›
  · rename_i h
    rw [List.getElem?_append_right (Nat.not_lt.1 h), List.getElem?_drop]
    congr 1
    omega

/-- A place of the buffer shows the last chunk that reaches it, if one does. -/
theorem overlay_cases (buffer : List α) (chunks : List (List α)) (i : Nat) :
    ((overlay buffer chunks)[i]? = buffer[i]? ∧ ∀ e ∈ chunks, e.length ≤ i) ∨
      ∃ pre e post, chunks = pre ++ e :: post ∧ i < e.length ∧ (overlay buffer chunks)[i]? = e[i]? := by
  induction chunks generalizing buffer with
  | nil => exact .inl ⟨rfl, fun _ h => nomatch h⟩
  | cons chunk chunks ih =>
    show ((overlay (fill buffer chunk) chunks)[i]? = _ ∧ _) ∨ ∃ pre e post, _ ∧ _ ∧
      (overlay (fill buffer chunk) chunks)[i]? = _
    rcases ih (fill buffer chunk) with ⟨hsame, hshort⟩ | ⟨pre, e, post, rfl, hi, he⟩
    · rw [getElem?_fill] at hsame
      by_cases hi : i < chunk.length
      · rw [if_pos hi] at hsame
        exact .inr ⟨[], chunk, chunks, rfl, hi, hsame⟩
      · rw [if_neg hi] at hsame
        exact .inl ⟨hsame, List.forall_mem_cons.2 ⟨Nat.not_lt.1 hi, hshort⟩⟩
    · exact .inr ⟨chunk :: pre, e, post, rfl, hi, he⟩

/-- What a chunk holds, found in the whole behind the chunks before it. -/
theorem getElem?_flatten (pre post : List (List α)) {e : List α} (hi : i < e.length) :
    (pre ++ e :: post).flatten[pre.flatten.length + i]? = e[i]? := by
  rw [List.flatten_append, List.flatten_cons, List.getElem?_append_right (Nat.le_add_right ..),
    Nat.add_sub_cancel_left, List.getElem?_append_left hi]

/-- If the buffer shows the whole, everything behind the first chunk is filler. -/
theorem tail_blank (hfirst : first ≠ []) (hn : (first :: chunks).flatten.length ≤ n)
    (h : ∀ i < (first :: chunks).flatten.length,
      (overlay (List.replicate n z) (first :: chunks))[i]? = (first :: chunks).flatten[i]?)
    (hi : first.length ≤ i) (hlt : i < (first :: chunks).flatten.length) :
    (first :: chunks).flatten[i]? = some z := by
  have hpos : 0 < first.length := List.length_pos_iff.2 hfirst
  -- downwards from the end: a chunk shows its bytes further in front than the whole has them
  induction hk : (first :: chunks).flatten.length - i using Nat.strongRecOn generalizing i with
  | ind k ih =>
    rw [← h i hlt]
    show (overlay (fill (List.replicate n z) first) chunks)[i]? = some z
    rcases overlay_cases (fill (List.replicate n z) first) chunks i with ⟨hsame, -⟩ | ⟨pre, e, post, rfl, hie, he⟩
    · rw [hsame, getElem?_fill, if_neg (Nat.not_lt.2 hi)]
      exact List.getElem?_replicate_of_lt (Nat.lt_of_lt_of_le hlt hn)
    · have hplace := getElem?_flatten (first :: pre) post hie
      rw [List.cons_append] at hplace
      rw [he, ← hplace]
      have hmore : i < (first :: pre).flatten.length + i := by
        rw [List.flatten_cons, List.length_append]
        omega
      have hlen : (first :: (pre ++ e :: post)).flatten.length =
          (first :: pre).flatten.length + (e :: post).flatten.length := by
        rw [← List.cons_append, List.flatten_append, List.length_append]
      have hin : i < (e :: post).flatten.length := by
        rw [List.flatten_cons, List.length_append]
        omega
      exact ih _ (by omega) (by omega) (by omega) rfl

/-- In particular every chunk behind the first is. -/
theorem later_blank (hfirst : first ≠ []) (hn : (first :: chunks).flatten.length ≤ n)
    (h : ∀ i < (first :: chunks).flatten.length,
      (overlay (List.replicate n z) (first :: chunks))[i]? = (first :: chunks).flatten[i]?)
    {e : List α} (he : e ∈ chunks) (hi : i < e.length) : e[i]? = some z := by
  obtain ⟨pre, post, rfl⟩ := List.append_of_mem he
  have hplace := getElem?_flatten (first :: pre) post hi
  rw [List.cons_append] at hplace
  have hlen : (first :: (pre ++ e :: post)).flatten.length =
      first.length + pre.flatten.length + (e.length + post.flatten.length) := by
    simp [Nat.add_assoc]
  have hoff : (first :: pre).flatten.length = first.length + pre.flatten.length := by simp
  rw [← hplace]
  exact tail_blank hfirst hn h (by omega) (by omega)

/-- Filler over filler changes nothing. -/
theorem overlay_blank (hblank : ∀ e ∈ chunks, ∀ i < e.length, e[i]? = some z ∧ buffer[i]? = some z) :
    overlay buffer chunks = buffer := by
  refine List.ext_getElem? fun i => ?_
  rcases overlay_cases buffer chunks i with ⟨hsame, -⟩ | ⟨pre, e, post, rfl, hi, he⟩
  · exact hsame
  · obtain ⟨hz, hb⟩ := hblank e (by simp) i hi
    rw [he, hz, hb]

theorem fill_getD (hi : i < n) : (fill (List.replicate n z) chunk)[i]? = some (chunk.getD i z) := by
  rw [getElem?_fill]
  split
  · rename_i h
    simp [h]
  · rename_i h
    simp [List.getElem?_replicate_of_lt hi, Nat.not_lt.1 h]

/-- The whole is read exactly if all of it is in the first chunk that is not empty, up to filler. -/
theorem take_overlay_iff (hn : chunks.flatten.length ≤ n) :
    (overlay (List.replicate n z) chunks).take chunks.flatten.length = chunks.flatten ↔ Whole z chunks := by
  induction chunks with
  | nil => simp [Whole]
  | cons first chunks ih =>
    by_cases hfirst : first = []
    · subst hfirst
      rw [Whole, if_pos rfl]
      exact ih hn
    rw [Whole, if_neg hfirst]
    have hlen : (first :: chunks).flatten.length = first.length + chunks.flatten.length := by simp
    have hchunk : ∀ e ∈ chunks, e.length ≤ chunks.flatten.length := fun e he =>
      (List.sublist_flatten_of_mem he).length_le
    constructor
    · intro h e he i hi
      have hread : ∀ i < (first :: chunks).flatten.length,
          (overlay (List.replicate n z) (first :: chunks))[i]? = (first :: chunks).flatten[i]? := by
        intro i hi
        rw [← List.getElem?_take_of_lt hi, h]
      refine ⟨later_blank hfirst hn hread he hi, ?_⟩
      by_cases hin : i < first.length
      · have hi' : i < (first :: chunks).flatten.length := by omega
        have hshown : (overlay (fill (List.replicate n z) first) chunks)[i]? = first[i]? := by
          rw [show overlay (fill _ first) chunks = overlay (List.replicate n z) (first :: chunks) from rfl,
            hread i hi', List.flatten_cons, List.getElem?_append_left hin]
        rcases overlay_cases (fill (List.replicate n z) first) chunks i with ⟨-, hshort⟩ | ⟨pre, e', post, hpre, hi, he'⟩
        · exact absurd hi (Nat.not_lt.2 (hshort e he))
        · have hz : first[i]? = some z := by
            rw [← hshown, he']
            exact later_blank hfirst hn hread (by simp [hpre]) hi
          rw [List.getD_eq_getElem?_getD, hz]
          rfl
      · simp [Nat.not_lt.1 hin]
    · intro h
      have hover : overlay (fill (List.replicate n z) first) chunks = fill (List.replicate n z) first := by
        refine overlay_blank (z := z) fun e he i hi => ⟨(h e he i hi).1, ?_⟩
        have := hchunk e he
        rw [fill_getD (by omega), (h e he i hi).2]
      have hrest : chunks.flatten = List.replicate chunks.flatten.length z := by
        refine List.eq_replicate_iff.2 ⟨rfl, fun b hb => ?_⟩
        obtain ⟨e, he, hb⟩ := List.mem_flatten.1 hb
        obtain ⟨i, hi, rfl⟩ := List.getElem_of_mem hb
        have hz := (h e he i hi).1
        rwa [List.getElem?_eq_getElem hi, Option.some.injEq] at hz
      rw [show overlay (List.replicate n z) (first :: chunks) = _ from hover, fill, List.drop_replicate, hlen,
        List.take_length_add_append, List.take_replicate, List.flatten_cons, Nat.min_eq_left (by omega), ← hrest]

end Lemmas

end Overlay

end Lib
