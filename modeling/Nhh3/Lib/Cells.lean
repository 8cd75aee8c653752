import Mathlib.Data.List.Forall2
/-!
# Messages for independent cells

A sequence of messages, each for the cell with its key. A cell sees its own messages
only, so what the sequence makes of the cells depends on what comes for each of them in
which order, and not on how the messages of different cells are interleaved.
-/

namespace Lib

/-- Cells with a key each, and what a message makes of a cell. -/
structure Cells (κ μ σ ε : Type) where
  key : σ → κ
  handle : σ → μ → Except ε σ
  key_handle : ∀ {s m s'}, handle s m = .ok s' → key s' = key s

namespace Cells
variable {κ μ σ ε : Type} (C : Cells κ μ σ ε) {s s' : σ} {m : κ × μ} {ms ms' : List (κ × μ)} {l l' : List σ}

/-- What a cell makes of its messages, one after the other. -/
def handleAll (s : σ) : List μ → Except ε σ
  | [] => .ok s
  | m :: ms => do handleAll (← C.handle s m) ms

theorem handleAll_cons {m : μ} {ms : List μ} : C.handleAll s (m :: ms) = .ok s' ↔
    ∃ s₁, C.handle s m = .ok s₁ ∧ C.handleAll s₁ ms = .ok s' := by
  rw [handleAll]
  cases C.handle s m with
  | error e => exact ⟨nofun, fun ⟨_, h, _⟩ => nomatch h⟩
  | ok s₁ => exact ⟨fun h => ⟨s₁, rfl, h⟩, fun ⟨_, h, hrest⟩ => by cases h; exact hrest⟩

theorem handleAll_append {ms ms' : List μ} : C.handleAll s (ms ++ ms') = .ok s' ↔
    ∃ s₁, C.handleAll s ms = .ok s₁ ∧ C.handleAll s₁ ms' = .ok s' := by
  induction ms generalizing s with
  | nil => exact ⟨fun h => ⟨s, rfl, h⟩, fun ⟨_, h, hrest⟩ => by cases h; exact hrest⟩
  | cons m ms ih =>
    simp only [List.cons_append, handleAll_cons, ih]
    exact ⟨fun ⟨s₁, h, s₂, h₁, h₂⟩ => ⟨s₂, ⟨s₁, h, h₁⟩, h₂⟩, fun ⟨s₂, ⟨s₁, h, h₁⟩, h₂⟩ => ⟨s₁, h, s₂, h₁, h₂⟩⟩

theorem key_handleAll {ms : List μ} (h : C.handleAll s ms = .ok s') : C.key s' = C.key s := by
  induction ms generalizing s with
  | nil =>
    cases h
    rfl
  | cons m ms ih =>
    obtain ⟨s₁, hm, hms⟩ := (C.handleAll_cons).1 h
    exact (ih hms).trans (C.key_handle hm)

/-- Two lists related entry by entry have in common what related entries have. -/
theorem map_forall₂ {α β γ : Type} {R : α → β → Prop} {f : α → γ} {g : β → γ} (hf : ∀ a b, R a b → g b = f a)
    {l : List α} {l' : List β} (h : List.Forall₂ R l l') : l'.map g = l.map f := by
  induction h with
  | nil => rfl
  | cons hab _ ih => rw [List.map_cons, List.map_cons, hf _ _ hab, ih]

theorem forall₂_right {α β : Type} {R : α → β → Prop} {l : List α} {l' : List β} (h : List.Forall₂ R l l') {b : β}
    (hb : b ∈ l') : ∃ a ∈ l, R a b := by
  induction h with
  | nil => cases hb
  | cons hab _ ih =>
    rcases List.mem_cons.1 hb with rfl | hb
    · exact ⟨_, List.mem_cons_self, hab⟩
    · obtain ⟨a, ha, hab⟩ := ih hb
      exact ⟨a, List.mem_cons_of_mem _ ha, hab⟩

theorem forall₂_left {α β : Type} {R : α → β → Prop} {l : List α} {l' : List β} (h : List.Forall₂ R l l') {a : α}
    (ha : a ∈ l) : ∃ b ∈ l', R a b :=
  forall₂_right (List.Forall₂.flip h) ha

theorem forall₂_comp {α β γ : Type} {R : α → β → Prop} {S : β → γ → Prop} {l : List α} {l₁ : List β} {l' : List γ}
    (h : List.Forall₂ R l l₁) (h' : List.Forall₂ S l₁ l') : List.Forall₂ (fun a c => ∃ b, R a b ∧ S b c) l l' := by
  induction h generalizing l' with
  | nil =>
    cases h'
    exact .nil
  | cons hab _ ih =>
    cases h' with
    | cons hbc h' => exact .cons ⟨_, hab, hbc⟩ (ih h')

theorem exists_forall₂ {α β : Type} {R : α → β → Prop} {l : List α} (h : ∀ a ∈ l, ∃ b, R a b) :
    ∃ l', List.Forall₂ R l l' := by
  induction l with
  | nil => exact ⟨[], .nil⟩
  | cons a l ih =>
    obtain ⟨⟨b, hb⟩, hl⟩ := List.forall_mem_cons.1 h
    obtain ⟨l', hl'⟩ := ih hl
    exact ⟨b :: l', .cons hb hl'⟩

section Takes
variable [DecidableEq κ]

/-- The messages for one key. -/
def inbox (k : κ) (ms : List (κ × μ)) : List μ := ms.filterMap fun m => if m.1 = k then some m.2 else none

theorem inbox_append (k : κ) (ms ms' : List (κ × μ)) : inbox k (ms ++ ms') = inbox k ms ++ inbox k ms' :=
  List.filterMap_append

/-- The cells become `l'`: each handles the messages for its own key. -/
def Takes (ms : List (κ × μ)) (l l' : List σ) : Prop :=
  List.Forall₂ (fun s s' => C.handleAll s (inbox (C.key s) ms) = .ok s') l l'

variable {C}

theorem Takes.keys (h : C.Takes ms l l') : l'.map C.key = l.map C.key :=
  map_forall₂ (fun _ _ hs => C.key_handleAll hs) h

@[simp] theorem takes_nil : C.Takes [] l l' ↔ l' = l := by
  constructor
  · intro h
    induction h with
    | nil => rfl
    | cons hs _ ih =>
      cases hs
      rw [ih]
  · rintro rfl
    exact List.forall₂_same.2 fun s _ => rfl

/-- Messages can be taken in parts. -/
theorem takes_append : C.Takes (ms ++ ms') l l' ↔ ∃ l₁, C.Takes ms l l₁ ∧ C.Takes ms' l₁ l' := by
  constructor
  · intro h
    induction h with
    | nil => exact ⟨[], .nil, .nil⟩
    | cons hs _ ih =>
      obtain ⟨l₁, h₁, h₂⟩ := ih
      rw [inbox_append, handleAll_append] at hs
      obtain ⟨s₁, hs₁, hs₂⟩ := hs
      rw [← C.key_handleAll hs₁] at hs₂
      exact ⟨s₁ :: l₁, .cons hs₁ h₁, .cons hs₂ h₂⟩
  · rintro ⟨l₁, h₁, h₂⟩
    refine (forall₂_comp h₁ h₂).imp fun s s' ⟨s₁, hs₁, hs₂⟩ => ?_
    rw [C.key_handleAll hs₁] at hs₂
    rw [inbox_append, handleAll_append]
    exact ⟨s₁, hs₁, hs₂⟩

/-- Only what comes for each cell matters, in its order. -/
theorem takes_congr (h : ∀ s ∈ l, inbox (C.key s) ms = inbox (C.key s) ms') :
    C.Takes ms l l' ↔ C.Takes ms' l l' := by
  induction l generalizing l' with
  | nil => cases l' <;> simp [Takes]
  | cons s l ih =>
    obtain ⟨hs, hl⟩ := List.forall_mem_cons.1 h
    cases l' with
    | nil => simp [Takes]
    | cons s' l' =>
      have hrest : C.Takes ms l l' ↔ C.Takes ms' l l' := ih hl
      rw [Takes, Takes, List.forall₂_cons, List.forall₂_cons, hs]
      exact and_congr_right fun _ => hrest

theorem takes_cons : C.Takes ms (s :: l) l' ↔
    ∃ s' l₁, C.handleAll s (inbox (C.key s) ms) = .ok s' ∧ C.Takes ms l l₁ ∧ l' = s' :: l₁ := by
  rw [Takes, List.forall₂_cons_left_iff]
  exact ⟨fun ⟨s', l₁, hs, hl, h⟩ => ⟨s', l₁, hs, hl, h⟩, fun ⟨s', l₁, hs, hl, h⟩ => ⟨s', l₁, hs, hl, h⟩⟩

/-- Cells with other keys do not see a message. -/
theorem takes_other {k : κ} (h : ∀ s ∈ l, C.key s ≠ k) (m : μ) : C.Takes [(k, m)] l l' ↔ l' = l := by
  refine (takes_congr fun s hs => ?_).trans takes_nil
  simp [inbox, Ne.symm (h s hs)]

/-- The cell written back. -/
def put (C : Cells κ μ σ ε) (s : σ) (l : List σ) : List σ := l.map fun x => if C.key x = C.key s then s else x

theorem put_other (h : ∀ x ∈ l, C.key x ≠ C.key s) : C.put s l = l :=
  (List.map_congr_left fun x hx => if_neg (h x hx)).trans (List.map_id l)

theorem keys_put (s : σ) (l : List σ) : (C.put s l).map C.key = l.map C.key := by
  rw [put, List.map_map]
  refine List.map_congr_left fun x _ => ?_
  show C.key (if C.key x = C.key s then s else x) = C.key x
  split
  · exact Eq.symm ‹_›
  · rfl

/-- What writing a cell back does to the list, cell by cell. -/
theorem put_cons (x s : σ) (l : List σ) : C.put s (x :: l) = (if C.key x = C.key s then s else x) :: C.put s l :=
  rfl

/-- Where each key is used once, a cell is replaced in one place. -/
theorem put_split (hnd : (l.map C.key).Nodup) (hs : s ∈ l) :
    ∃ pre post, l = pre ++ s :: post ∧ ∀ s', C.key s' = C.key s → C.put s' l = pre ++ s' :: post := by
  obtain ⟨pre, post, rfl⟩ := List.append_of_mem hs
  refine ⟨pre, post, rfl, fun s' hkey => ?_⟩
  rw [List.map_append, List.map_cons, List.nodup_append, List.nodup_cons] at hnd
  obtain ⟨-, ⟨hpost, -⟩, hpre⟩ := hnd
  have hother : ∀ x ∈ pre ++ post, C.key x ≠ C.key s' := by
    intro x hx h
    rw [hkey] at h
    rcases List.mem_append.1 hx with hx | hx
    · exact hpre _ (List.mem_map_of_mem hx) _ List.mem_cons_self h
    · exact hpost (h ▸ List.mem_map_of_mem hx)
  have hleft := put_other (C := C) fun x hx => hother x (List.mem_append_left _ hx)
  have hright := put_other (C := C) fun x hx => hother x (List.mem_append_right _ hx)
  rw [put, List.map_append, List.map_cons, if_pos hkey.symm]
  exact congrArg₂ _ hleft (congrArg _ hright)

/-- Where each key is used once, a message changes its cell and no other. -/
theorem takes_single (hnd : (l.map C.key).Nodup) (hs : s ∈ l) (m : μ) :
    C.Takes [(C.key s, m)] l l' ↔ ∃ s', C.handle s m = .ok s' ∧ l' = C.put s' l := by
  induction l generalizing l' with
  | nil => cases hs
  | cons x l ih =>
    rw [List.map_cons, List.nodup_cons] at hnd
    rw [takes_cons]
    by_cases hx : C.key x = C.key s
    · have hother : ∀ y ∈ l, C.key y ≠ C.key s := by
        intro y hy h
        exact hnd.1 (List.mem_map.2 ⟨y, hy, h.trans hx.symm⟩)
      obtain rfl : s = x := by
        rcases List.mem_cons.1 hs with rfl | hs
        · rfl
        · exact absurd rfl (hother s hs)
      have hinbox : inbox (C.key s) [(C.key s, m)] = [m] := by simp [inbox]
      have hput : ∀ s', C.handle s m = .ok s' → C.put s' (s :: l) = s' :: l := by
        intro s' hs'
        have hkey := C.key_handle hs'
        rw [put_cons, if_pos hkey.symm, put_other fun y hy h => hother y hy (h.trans hkey)]
      simp only [hinbox, handleAll_cons, takes_other hother]
      constructor
      · rintro ⟨s', l₁, ⟨_, hs', hend⟩, rfl, rfl⟩
        cases hend
        exact ⟨s', hs', (hput s' hs').symm⟩
      · rintro ⟨s', hs', rfl⟩
        exact ⟨s', l, ⟨s', hs', rfl⟩, rfl, hput s' hs'⟩
    · have hs : s ∈ l := by
        rcases List.mem_cons.1 hs with rfl | hs
        · exact absurd rfl hx
        · exact hs
      have hinbox : inbox (C.key x) [(C.key s, m)] = [] := by simp [inbox, Ne.symm hx]
      have hput : ∀ s', C.handle s m = .ok s' → C.put s' (x :: l) = x :: C.put s' l := by
        intro s' hs'
        rw [put_cons, if_neg fun h => hx (h.trans (C.key_handle hs'))]
      simp only [hinbox, ih hnd.2 hs]
      constructor
      · rintro ⟨x', l₁, hx', ⟨s', hs', rfl⟩, rfl⟩
        cases hx'
        exact ⟨s', hs', (hput s' hs').symm⟩
      · rintro ⟨s', hs', rfl⟩
        exact ⟨x, _, rfl, ⟨s', hs', rfl⟩, hput s' hs'⟩

/-- Messages are taken one after the other. -/
theorem takes_head (hnd : (l.map C.key).Nodup) (hs : s ∈ l) (m : μ) :
    C.Takes ((C.key s, m) :: ms) l l' ↔ ∃ s', C.handle s m = .ok s' ∧ C.Takes ms (C.put s' l) l' := by
  rw [← List.singleton_append, takes_append]
  simp only [takes_single hnd hs]
  exact ⟨fun ⟨_, ⟨s', hs', h⟩, hms⟩ => ⟨s', hs', h ▸ hms⟩, fun ⟨s', hs', hms⟩ => ⟨_, ⟨s', hs', rfl⟩, hms⟩⟩

end Takes

end Cells

end Lib
