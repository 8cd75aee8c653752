import Mathlib.Data.List.Basic
import Mathlib.Data.List.Induction
/-!
# Programs that record their actions

A program reads the state, performs actions of a fixed alphabet, returns, or
faults. An action is the only way to change the state, so a property of the
states is kept by every program as soon as every action keeps it. `Sat` is the
weakest precondition: which actions may be performed in which states, which
faults may happen, and what holds at the end. `session` runs one program for
each call of a client, which is how properties of whole runs are stated.
-/

namespace Lib

/-- What an action does to the state. -/
class Machine (σ α : Type) where
  apply : α → σ → σ

export Machine (apply)

/-- A program over states `σ`, actions `α` and faults `ε`, returning a `β`. -/
inductive Prog (σ α ε β : Type) where
  | ret (b : β)
  | read (k : σ → Prog σ α ε β)
  | act (a : α) (k : Prog σ α ε β)
  | fail (e : ε)

namespace Prog
variable {σ α ε β γ : Type}

def bind : Prog σ α ε β → (β → Prog σ α ε γ) → Prog σ α ε γ
  | .ret b, f => f b
  | .read k, f => .read fun s => (k s).bind f
  | .act a k, f => .act a (k.bind f)
  | .fail e, _ => .fail e

instance : Monad (Prog σ α ε) where
  pure := .ret
  bind := bind

/-- The current state. -/
def get : Prog σ α ε σ := .read .ret

/-- Perform one action. -/
def perform (a : α) : Prog σ α ε Unit := .act a (.ret ())

/-! ## Running a program -/

section Run
variable [Machine σ α]

def run : Prog σ α ε β → σ → Except ε (β × σ)
  | .ret b, s => .ok (b, s)
  | .read k, s => (k s).run s
  | .act a k, s => k.run (apply a s)
  | .fail e, _ => .error e

/-- The actions of a run, each with the state it was performed in. -/
def trace : Prog σ α ε β → σ → List (σ × α)
  | .ret _, _ => []
  | .read k, s => (k s).trace s
  | .act a k, s => (s, a) :: k.trace (apply a s)
  | .fail _, _ => []

theorem run_bind (p : Prog σ α ε β) (f : β → Prog σ α ε γ) (s : σ) :
    (p >>= f).run s = (match p.run s with
      | .ok (b, s') => (f b).run s'
      | .error e => .error e) := by
  show (p.bind f).run s = _
  induction p generalizing s with
  | ret b => rfl
  | read k ih => exact ih s s
  | act a k ih => exact ih (apply a s)
  | fail e => rfl

theorem trace_bind (p : Prog σ α ε β) (f : β → Prog σ α ε γ) (s : σ) :
    (p >>= f).trace s = p.trace s ++ (match p.run s with
      | .ok (b, s') => (f b).trace s'
      | .error _ => []) := by
  show (p.bind f).trace s = _
  induction p generalizing s with
  | ret b => rfl
  | read k ih => exact ih s s
  | act a k ih => exact congrArg _ (ih (apply a s))
  | fail e => rfl

/-- A run of two programs, taken apart. -/
theorem bind_ok {p : Prog σ α ε β} {f : β → Prog σ α ε γ} {s s' : σ} {d : γ}
    (h : (p >>= f).run s = .ok (d, s')) : ∃ b s₁, p.run s = .ok (b, s₁) ∧ (f b).run s₁ = .ok (d, s') ∧
      (p >>= f).trace s = p.trace s ++ (f b).trace s₁ := by
  rw [run_bind] at h
  rw [trace_bind]
  cases hp : p.run s with
  | error e => rw [hp] at h; cases h
  | ok r =>
    rw [hp] at h
    exact ⟨r.1, r.2, rfl, h, rfl⟩

/-- The state that a list of recorded actions leads to. -/
def after (s : σ) (hist : List (σ × α)) : σ := hist.foldl (fun s e => apply e.2 s) s

@[simp] theorem after_cons (s : σ) (e : σ × α) (hist : List (σ × α)) :
    after s (e :: hist) = after (apply e.2 s) hist := rfl

theorem after_append (s : σ) (hist hist' : List (σ × α)) :
    after s (hist ++ hist') = after (after s hist) hist' := by
  simp [after]

@[simp] theorem after_concat (s : σ) (hist : List (σ × α)) (e : σ × α) :
    after s (hist ++ [e]) = apply e.2 (after s hist) := by
  simp [after]

/-- The final state is what the recorded actions make of the first. -/
theorem run_eq_after {p : Prog σ α ε β} {s s' : σ} {b : β} (h : p.run s = .ok (b, s')) :
    s' = after s (p.trace s) := by
  induction p generalizing s with
  | ret b => simp only [run, Except.ok.injEq, Prod.mk.injEq] at h; exact h.2.symm
  | read k ih => exact ih s h
  | act a k ih => exact ih h
  | fail e => cases h

end Run

/-! ## Preconditions -/

/-- Assuming the visited states satisfy `I` and the performed actions `A`, every
action satisfies `G` where it is performed, every fault `F` where it happens, and
`Q` holds at the end. -/
def Sat [Machine σ α] (I : σ → Prop) (A G : σ → α → Prop) (F : σ → ε → Prop) :
    Prog σ α ε β → (β → σ → Prop) → σ → Prop
  | .ret b, Q, s => Q b s
  | .read k, Q, s => I s → (k s).Sat I A G F Q s
  | .act a k, Q, s => A s a → G s a ∧ k.Sat I A G F Q (apply a s)
  | .fail e, _, s => F s e

section Sat
variable [Machine σ α] {I : σ → Prop} {A G : σ → α → Prop} {F : σ → ε → Prop}

@[simp] theorem sat_bind (p : Prog σ α ε β) (f : β → Prog σ α ε γ) (Q : γ → σ → Prop) (s : σ) :
    (p >>= f).Sat I A G F Q s ↔ p.Sat I A G F (fun b s' => (f b).Sat I A G F Q s') s := by
  show (p.bind f).Sat I A G F Q s ↔ _
  induction p generalizing s with
  | ret b => rfl
  | read k ih => exact imp_congr_right fun _ => ih s s
  | act a k ih => exact imp_congr_right fun _ => and_congr_right fun _ => ih (apply a s)
  | fail e => rfl

theorem Sat.mono {p : Prog σ α ε β} {Q Q' : β → σ → Prop} {s : σ} (h : p.Sat I A G F Q s)
    (hQ : ∀ b s', Q b s' → Q' b s') : p.Sat I A G F Q' s := by
  induction p generalizing s with
  | ret b => exact hQ b s h
  | read k ih => exact fun hi => ih s (h hi)
  | act a k ih => exact fun ha => ⟨(h ha).1, ih (h ha).2⟩
  | fail e => exact h

theorem Sat.faults {F' : σ → ε → Prop} {p : Prog σ α ε β} {Q : β → σ → Prop} {s : σ}
    (h : p.Sat I A G F Q s) (hF : ∀ s e, F s e → F' s e) : p.Sat I A G F' Q s := by
  induction p generalizing s with
  | ret b => exact h
  | read k ih => exact fun hi => ih s (h hi)
  | act a k ih => exact fun ha => ⟨(h ha).1, ih (h ha).2⟩
  | fail e => exact hF s e h

theorem Sat.bind {p : Prog σ α ε β} {f : β → Prog σ α ε γ} {R : β → σ → Prop} {Q : γ → σ → Prop}
    {s : σ} (h : p.Sat I A G F R s) (hf : ∀ b s', R b s' → (f b).Sat I A G F Q s') :
    (p >>= f).Sat I A G F Q s :=
  (sat_bind p f Q s).2 (h.mono hf)

theorem Sat.get {f : σ → Prog σ α ε β} {Q : β → σ → Prop} {s : σ}
    (h : I s → (f s).Sat I A G F Q s) : (get >>= f).Sat I A G F Q s := h

theorem Sat.perform {a : α} {f : Unit → Prog σ α ε β} {Q : β → σ → Prop} {s : σ}
    (hg : A s a → G s a) (h : A s a → (f ()).Sat I A G F Q (apply a s)) :
    (perform a >>= f).Sat I A G F Q s :=
  fun ha => ⟨hg ha, h ha⟩

/-- How a run may end: a result and a state in `Q`, or a fault where `F` allows it. -/
def Ends (F : ε → Prop) (Q : β → σ → Prop) : Except ε (β × σ) → Prop
  | .ok (b, s) => Q b s
  | .error e => F e

/-- A run whose actions keep to `A` performs only actions in `G`, from states in
`I`, and ends as `Sat` says. -/
theorem Sat.sound {p : Prog σ α ε β} {Q : β → σ → Prop} {s : σ} (h : p.Sat I A G F Q s)
    (hstep : ∀ s a, I s → A s a → G s a → I (apply a s)) (hs : I s)
    (hA : ∀ e ∈ p.trace s, A e.1 e.2) :
    (∀ e ∈ p.trace s, I e.1 ∧ G e.1 e.2) ∧
      Ends (F (after s (p.trace s))) (fun b s' => Q b s' ∧ I s') (p.run s) := by
  induction p generalizing s with
  | ret b => exact ⟨by simp [trace], h, hs⟩
  | read k ih => exact ih s (h hs) hs hA
  | act a k ih =>
    simp only [trace, List.mem_cons, forall_eq_or_imp] at hA ⊢
    obtain ⟨hg, hk⟩ := h hA.1
    obtain ⟨h1, h2⟩ := ih hk (hstep s a hs hA.1 hg) hA.2
    exact ⟨⟨⟨hs, hg⟩, h1⟩, h2⟩
  | fail e => exact ⟨by simp [trace], h⟩

end Sat

/-! ## Which actions -/

/-- Every action of the program is in `G`, whatever it reads. -/
def Acts (G : α → Prop) : Prog σ α ε β → Prop
  | .ret _ => True
  | .read k => ∀ s, (k s).Acts G
  | .act a k => G a ∧ k.Acts G
  | .fail _ => True

section Acts
variable {G : α → Prop}

theorem Acts.bind {p : Prog σ α ε β} {f : β → Prog σ α ε γ} (h : p.Acts G) (hf : ∀ b, (f b).Acts G) :
    (p >>= f).Acts G := by
  show (p.bind f).Acts G
  induction p with
  | ret b => exact hf b
  | read k ih => exact fun s => ih s (h s)
  | act a k ih => exact ⟨h.1, ih h.2⟩
  | fail e => trivial

theorem Acts.mono {G' : α → Prop} {p : Prog σ α ε β} (h : p.Acts G) (hG : ∀ a, G a → G' a) : p.Acts G' := by
  induction p with
  | ret b => trivial
  | read k ih => exact fun s => ih s (h s)
  | act a k ih => exact ⟨hG a h.1, ih h.2⟩
  | fail e => trivial

theorem Acts.get {f : σ → Prog σ α ε β} (h : ∀ s, (f s).Acts G) : (get >>= f).Acts G := h

theorem Acts.perform {a : α} {f : Unit → Prog σ α ε β} (ha : G a) (h : (f ()).Acts G) :
    (perform a >>= f).Acts G :=
  ⟨ha, h⟩

theorem Acts.mem [Machine σ α] {p : Prog σ α ε β} {s : σ} {e : σ × α} (h : p.Acts G)
    (he : e ∈ p.trace s) : G e.2 := by
  induction p generalizing s with
  | ret b => simp [trace] at he
  | read k ih => exact ih s (h s) he
  | act a k ih =>
    simp only [trace, List.mem_cons] at he
    rcases he with rfl | he
    · exact h.1
    · exact ih h.2 he
  | fail e => simp [trace] at he

/-- What every action in `G` keeps, a program of such actions keeps. -/
theorem Acts.sat [Machine σ α] {I J : σ → Prop} {A : σ → α → Prop} {p : Prog σ α ε β} {s : σ}
    (h : p.Acts G) (hstep : ∀ s a, G a → A s a → J s → J (apply a s)) (hs : J s) :
    p.Sat I A (fun _ _ => True) (fun _ _ => True) (fun _ s' => J s') s := by
  induction p generalizing s with
  | ret b => exact hs
  | read k ih => exact fun _ => ih s (h s) hs
  | act a k ih => exact fun ha => ⟨trivial, ih h.2 (hstep s a h.1 ha hs)⟩
  | fail e => trivial

end Acts

/-! ## Invariants over the history of a run -/

/-- What is collected over a history, one action later. -/
theorem filterMap_concat {τ : Type} (f : σ × α → Option τ) (hist : List (σ × α)) (e : σ × α) :
    (hist ++ [e]).filterMap f = hist.filterMap f ++ (f e).toList := by
  rw [List.filterMap_append]
  cases h : f e with
  | none => simp [h]
  | some t => simp [h]

section History
variable [Machine σ α]

/-- In the run of `p` from `s` the state is `s'` once `hist` was performed. -/
def Visits (p : Prog σ α ε β) (s : σ) (hist : List (σ × α)) (s' : σ) : Prop :=
  hist <+: p.trace s ∧ s' = after s hist

/-- In the run of `p` from `s` the action `a` is performed in `s'`, after `hist`. -/
def Performs (p : Prog σ α ε β) (s : σ) (hist : List (σ × α)) (s' : σ) (a : α) : Prop :=
  hist ++ [(s', a)] <+: p.trace s

theorem visits_end {p : Prog σ α ε β} {s s' : σ} {b : β} (h : p.run s = .ok (b, s')) :
    p.Visits s (p.trace s) s' :=
  ⟨List.prefix_rfl, run_eq_after h⟩

/-- Each action is recorded with the state that the actions before it lead to. -/
theorem performs_state {p : Prog σ α ε β} {s s' : σ} {a : α} {hist : List (σ × α)}
    (h : p.Performs s hist s' a) : s' = after s hist := by
  obtain ⟨post, h⟩ := h
  induction p generalizing s hist with
  | ret b => simp [trace] at h
  | read k ih => exact ih s h
  | act x k ih =>
    cases hist with
    | nil =>
      simp only [trace, List.nil_append, List.cons_append, List.cons.injEq, Prod.mk.injEq] at h
      exact h.1.1
    | cons e hist =>
      simp only [trace, List.cons_append, List.cons.injEq] at h
      obtain ⟨rfl, h⟩ := h
      have h' := ih h
      exact h'
  | fail e => simp [trace] at h

theorem Performs.visits {p : Prog σ α ε β} {s s' : σ} {a : α} {hist : List (σ × α)}
    (h : p.Performs s hist s' a) : p.Visits s hist s' :=
  ⟨(List.prefix_append _ _).trans h, performs_state h⟩

theorem Performs.mem {p : Prog σ α ε β} {s s' : σ} {a : α} {hist : List (σ × α)}
    (h : p.Performs s hist s' a) : (s', a) ∈ p.trace s :=
  h.subset (by simp)

/-- The last action of a run, which an evaluation can find. -/
theorem performs_last {p : Prog σ α ε β} {s s' : σ} {a : α} (h : (p.trace s).getLast? = some (s', a)) :
    p.Performs s (p.trace s).dropLast s' a :=
  ⟨[], (List.append_nil _).trans (List.dropLast_append_getLast? _ h)⟩

/-- A run, split at one of its actions. -/
theorem trace_split {p : Prog σ α ε β} {s : σ} {e : σ × α} {n : Nat} (h : (p.trace s)[n]? = some e) :
    (p.trace s).take n ++ e :: (p.trace s).drop (n + 1) = p.trace s := by
  obtain ⟨hn, rfl⟩ := List.getElem?_eq_some_iff.1 h
  rw [← List.drop_eq_getElem_cons hn, List.take_append_drop]

theorem performs_split {p : Prog σ α ε β} {s s' : σ} {a : α} {n : Nat}
    (h : (p.trace s)[n]? = some (s', a)) : p.Performs s ((p.trace s).take n) s' a :=
  ⟨(p.trace s).drop (n + 1), by rw [List.append_assoc]; exact trace_split h⟩

/-- The last action of a run, with another one before it. -/
theorem performs_split_last {p : Prog σ α ε β} {s s' : σ} {a : α} {e : σ × α} {n : Nat}
    (h : (p.trace s)[n]? = some e) (hlast : ((p.trace s).drop (n + 1)).getLast? = some (s', a)) :
    p.Performs s ((p.trace s).take n ++ e :: ((p.trace s).drop (n + 1)).dropLast) s' a := by
  refine ⟨[], ?_⟩
  rw [List.append_nil, List.append_assoc, List.cons_append, List.dropLast_append_getLast? _ hlast]
  exact trace_split h

/-- What holds of every action and what comes before it, which an evaluation can decide. -/
theorem forall_performs {p : Prog σ α ε β} {s : σ} {K : List (σ × α) → σ → α → Prop}
    (h : ∀ n : Fin (p.trace s).length, K ((p.trace s).take n) (p.trace s)[n].1 (p.trace s)[n].2)
    {hist : List (σ × α)} {s' : σ} {a : α} (hp : p.Performs s hist s' a) : K hist s' a := by
  obtain ⟨post, hpost⟩ := hp
  have hlen : hist.length < (p.trace s).length := by simp [← hpost]
  have htake : (p.trace s).take hist.length = hist := by simp [← hpost]
  have hget : (p.trace s)[hist.length] = (s', a) := by simp [← hpost]
  have hK := h ⟨hist.length, hlen⟩
  simp only [Fin.getElem_fin, htake, hget] at hK
  exact hK

/-- Every recorded action is performed at some point of the run. -/
theorem performs_of_mem {p : Prog σ α ε β} {s : σ} {e : σ × α} (h : e ∈ p.trace s) :
    ∃ hist, p.Performs s hist e.1 e.2 := by
  obtain ⟨n, hn⟩ := List.mem_iff_getElem?.1 h
  exact ⟨_, performs_split hn⟩

theorem visits_split {p : Prog σ α ε β} {s : σ} {e : σ × α} {n : Nat} (h : (p.trace s)[n]? = some e) :
    p.Visits s ((p.trace s).take n ++ e :: (p.trace s).drop (n + 1)) (after s (p.trace s)) := by
  rw [trace_split h]
  exact ⟨List.prefix_rfl, rfl⟩

/-- A relation between the history and the state that every performed action
keeps holds wherever the run comes. -/
theorem visits_inv {p : Prog σ α ε β} {s : σ} {J : List (σ × α) → σ → Prop} (h0 : J [] s)
    (hstep : ∀ hist s' a, p.Performs s hist s' a → J hist s' → J (hist ++ [(s', a)]) (apply a s'))
    {hist : List (σ × α)} {s' : σ} (hv : p.Visits s hist s') : J hist s' := by
  obtain ⟨hp, rfl⟩ := hv
  induction hist using List.reverseRecOn with
  | nil => exact h0
  | append_singleton hist e ih =>
    have he : p.Performs s hist e.1 e.2 := hp
    rw [after_concat, ← performs_state he]
    refine hstep hist e.1 e.2 he ?_
    rw [performs_state he]
    exact ih he.visits.1

/-- What the action `a₀` establishes holds as long as only actions in `G` follow, if each of them keeps it. -/
theorem visits_since {p : Prog σ α ε β} {s s₀ : σ} {a₀ : α} {G : α → Prop} {J : σ → Prop}
    {hist : List (σ × α)} (h0 : J (apply a₀ s₀))
    (hstep : ∀ mid s' a, p.Performs s (hist ++ (s₀, a₀) :: mid) s' a → G a → J s' → J (apply a s'))
    {mid : List (σ × α)} (hmid : ∀ e ∈ mid, G e.2) {s' : σ}
    (hv : p.Visits s (hist ++ (s₀, a₀) :: mid) s') : J s' := by
  obtain ⟨hp, rfl⟩ := hv
  induction mid using List.reverseRecOn with
  | nil =>
    rw [after_concat]
    have hfirst : p.Performs s hist s₀ a₀ := hp
    rw [← performs_state hfirst]
    exact h0
  | append_singleton mid e ih =>
    have hshift : hist ++ (s₀, a₀) :: (mid ++ [e]) = hist ++ (s₀, a₀) :: mid ++ [e] := by simp
    rw [hshift] at hp ⊢
    have he : p.Performs s (hist ++ (s₀, a₀) :: mid) e.1 e.2 := hp
    rw [after_concat, ← performs_state he]
    refine hstep mid e.1 e.2 he (hmid e (by simp)) ?_
    rw [performs_state he]
    exact ih (fun e' he' => hmid e' (List.mem_append_left _ he')) he.visits.1

/-- An action of two programs belongs to the first, or to the second once the first has returned. -/
theorem performs_bind {γ : Type} {p : Prog σ α ε β} {f : β → Prog σ α ε γ} {s s' : σ} {a : α}
    {hist : List (σ × α)} (h : (p >>= f).Performs s hist s' a) : p.Performs s hist s' a ∨
      ∃ b s₁ mid, p.run s = .ok (b, s₁) ∧ hist = p.trace s ++ mid ∧ (f b).Performs s₁ mid s' a := by
  unfold Performs at h
  rw [trace_bind] at h
  rcases List.prefix_or_prefix_of_prefix h (List.prefix_append _ _) with hin | hout
  · exact .inl hin
  rcases List.prefix_concat_iff.1 hout with heq | ⟨mid, rfl⟩
  · exact .inl ⟨[], by rw [List.append_nil, heq]⟩
  · rw [List.append_assoc, List.prefix_append_right_inj] at h
    cases hr : p.run s with
    | error e => simp [hr] at h
    | ok r =>
      rw [hr] at h
      exact .inr ⟨r.1, r.2, mid, rfl, rfl, h⟩

/-- If an action keeps `J` exactly where it satisfies `K`, a run stays in `J` exactly if all
its actions satisfy `K`. -/
theorem visits_iff {p : Prog σ α ε β} {s : σ} {J : List (σ × α) → σ → Prop} {K : σ → α → Prop}
    (h0 : J [] s) (hstep : ∀ hist s' a, p.Performs s hist s' a → J hist s' →
      (J (hist ++ [(s', a)]) (apply a s') ↔ K s' a)) :
    (∀ hist s', p.Visits s hist s' → J hist s') ↔ ∀ e ∈ p.trace s, K e.1 e.2 := by
  constructor
  · intro hJ e he
    obtain ⟨hist, hp⟩ := performs_of_mem he
    have hafter := hJ _ _ ⟨hp, rfl⟩
    rw [after_concat, ← performs_state hp] at hafter
    exact (hstep _ _ _ hp (hJ _ _ hp.visits)).1 hafter
  · intro hK hist s' hv
    exact visits_inv h0 (fun _ _ _ hp h => (hstep _ _ _ hp h).2 (hK _ hp.mem)) hv

end History

/-! ## What a run does -/

section Does
variable [Machine σ α] {s s' s₁ : σ} {hist hist' : List (σ × α)} {b : β} {d : γ}

/-- From `s` the program performs `hist`, returns `b` and ends in `s'`. -/
structure Does (p : Prog σ α ε β) (s : σ) (hist : List (σ × α)) (b : β) (s' : σ) : Prop where
  run : p.run s = .ok (b, s')
  trace : p.trace s = hist

theorem Does.pure (b : β) (s : σ) : (pure b : Prog σ α ε β).Does s [] b s := ⟨rfl, rfl⟩

theorem Does.get {f : σ → Prog σ α ε β} (h : (f s).Does s hist b s') : (get >>= f).Does s hist b s' :=
  ⟨h.run, h.trace⟩

theorem Does.perform {a : α} {f : Unit → Prog σ α ε β} (h : (f ()).Does (apply a s) hist b s') :
    (perform a >>= f).Does s ((s, a) :: hist) b s' :=
  ⟨h.run, congrArg _ h.trace⟩

theorem Does.bind {p : Prog σ α ε β} {f : β → Prog σ α ε γ} (h : p.Does s hist b s₁)
    (hf : (f b).Does s₁ hist' d s') : (p >>= f).Does s (hist ++ hist') d s' := by
  constructor
  · rw [run_bind, h.run]
    exact hf.run
  · rw [trace_bind, h.run, h.trace]
    exact congrArg _ hf.trace

/-- A program that does nothing but return comes first. -/
theorem Does.then {p : Prog σ α ε β} {f : β → Prog σ α ε γ} (h : p.Does s [] b s)
    (hf : (f b).Does s hist d s') : (p >>= f).Does s hist d s' :=
  h.bind hf

end Does

/-! ## Programs that agree -/

section Agree
variable [Machine σ α] {s : σ} {G : α → Prop}

/-- From `s` the two programs return the same in the same state, or both fault. -/
def Agree (p p' : Prog σ α ε β) (s : σ) : Prop := ∀ b s', p.run s = .ok (b, s') ↔ p'.run s = .ok (b, s')

theorem Agree.refl (p : Prog σ α ε β) (s : σ) : p.Agree p s := fun _ _ => Iff.rfl

theorem Agree.bind {p p' : Prog σ α ε β} {f f' : β → Prog σ α ε γ} (h : p.Agree p' s)
    (hf : ∀ b s', p.run s = .ok (b, s') → (f b).Agree (f' b) s') : (p >>= f).Agree (p' >>= f') s := by
  intro d s'
  constructor
  · intro hrun
    obtain ⟨b, s₁, hp, hb, -⟩ := bind_ok hrun
    rw [run_bind, (h b s₁).1 hp]
    exact (hf b s₁ hp d s').1 hb
  · intro hrun
    obtain ⟨b, s₁, hp, hb, -⟩ := bind_ok hrun
    have hp := (h b s₁).2 hp
    rw [run_bind, hp]
    exact (hf b s₁ hp d s').2 hb

/-- What every action of a program keeps holds at its end. -/
theorem Acts.kept {J : σ → Prop} {p : Prog σ α ε β} {s' : σ} {b : β} (h : p.Acts G)
    (hstep : ∀ s a, G a → J s → J (apply a s)) (hs : J s) (hrun : p.run s = .ok (b, s')) : J s' := by
  induction p generalizing s with
  | ret b =>
    cases hrun
    exact hs
  | read k ih => exact ih s (h s) hs hrun
  | act a k ih => exact ih h.2 (hstep s a h.1 hs) hrun
  | fail e => cases hrun

end Agree

/-! ## Sessions -/

section Session
variable [Machine σ α] {ο : Type} (f : ο → Prog σ α ε Unit)

/-- The calls of a client, one after the other. -/
def session : List ο → Prog σ α ε Unit
  | [] => .ret ()
  | o :: os => f o >>= fun _ => session os

theorem run_session_cons (o : ο) (os : List ο) (s : σ) :
    (session f (o :: os)).run s = (match (f o).run s with
      | .ok (_, s') => (session f os).run s'
      | .error e => .error e) := by
  show (f o >>= fun _ => session f os).run s = _
  rw [run_bind]
  cases (f o).run s <;> rfl

theorem trace_session_cons (o : ο) (os : List ο) (s : σ) :
    (session f (o :: os)).trace s = (f o).trace s ++ (match (f o).run s with
      | .ok (_, s') => (session f os).trace s'
      | .error _ => []) := by
  show (f o >>= fun _ => session f os).trace s = _
  rw [trace_bind]
  cases (f o).run s <;> rfl

theorem session_append (os os' : List ο) (s : σ) :
    (session f (os ++ os')).run s = (match (session f os).run s with
      | .ok (_, s') => (session f os').run s'
      | .error e => .error e) ∧
    (session f (os ++ os')).trace s = (session f os).trace s ++ (match (session f os).run s with
      | .ok (_, s') => (session f os').trace s'
      | .error _ => []) := by
  induction os generalizing s with
  | nil => exact ⟨rfl, rfl⟩
  | cons o os ih =>
    rw [List.cons_append, run_session_cons, run_session_cons, trace_session_cons, trace_session_cons]
    cases (f o).run s with
    | error err => simp
    | ok r =>
      refine ⟨(ih r.2).1, ?_⟩
      dsimp only
      rw [(ih r.2).2, List.append_assoc]

theorem run_append {os os' : List ο} {s s₁ s' : σ} (h : (session f os).run s = .ok ((), s₁))
    (h' : (session f os').run s₁ = .ok ((), s')) : (session f (os ++ os')).run s = .ok ((), s') := by
  rw [(session_append f os os' s).1, h]
  exact h'

theorem run_singleton {o : ο} {s s' : σ} (h : (f o).run s = .ok ((), s')) :
    (session f [o]).run s = .ok ((), s') := by
  rw [run_session_cons, h]
  rfl

/-- One more call. -/
theorem session_concat {os : List ο} {o : ο} {s s' s₁ : σ} {hist : List (σ × α)}
    (hrun : (session f os).run s = .ok ((), s')) (h : (f o).Does s' hist () s₁) :
    (session f (os ++ [o])).Does s ((session f os).trace s ++ hist) () s₁ := by
  have hlast : (session f [o]).Does s' hist () s₁ := by
    have hdone := h.bind (f := fun _ => session f []) (Does.pure () s₁)
    rwa [List.append_nil] at hdone
  constructor
  · rw [(session_append f os [o] s).1, hrun]
    exact hlast.run
  · rw [(session_append f os [o] s).2, hrun]
    exact congrArg _ hlast.trace

/-- What a session does after the first calls, the whole session does. -/
theorem session_continues {os os' : List ο} {s s' t : σ} {a : α} {hist : List (σ × α)}
    (hrun : (session f os).run s = .ok ((), s')) (h : (session f os').Performs s' hist t a) :
    (session f (os ++ os')).Performs s ((session f os).trace s ++ hist) t a := by
  rw [Performs, (session_append f os os' s).2, hrun, List.append_assoc, List.prefix_append_right_inj]
  exact h

/-- An action of a session belongs to one call, after the calls before it have returned. -/
theorem session_performs {os : List ο} {s s' : σ} {a : α} {hist : List (σ × α)}
    (h : (session f os).Performs s hist s' a) :
    ∃ os₁ o os₂ s₁ mid, os = os₁ ++ o :: os₂ ∧ (session f os₁).run s = .ok ((), s₁) ∧
      hist = (session f os₁).trace s ++ mid ∧ (f o).Performs s₁ mid s' a := by
  induction os generalizing s hist with
  | nil => simp [Performs, session, trace] at h
  | cons o os ih =>
    rcases performs_bind (f := fun _ => session f os) h with hin | ⟨_, s₂, hist', hr, rfl, hout⟩
    · exact ⟨[], o, os, s, hist, rfl, rfl, rfl, hin⟩
    · obtain ⟨os₁, o', os₂, s₁, mid, rfl, hrun, rfl, hp⟩ := ih hout
      refine ⟨o :: os₁, o', os₂, s₁, mid, rfl, ?_, ?_, hp⟩
      · rw [run_session_cons, hr]
        exact hrun
      · rw [trace_session_cons, hr, List.append_assoc]

/-- A session that faults does so in one call, after the calls before it have returned. -/
theorem session_error {os : List ο} {s : σ} {e : ε} (h : (session f os).run s = .error e) :
    ∃ os₁ o os₂ s₁, os = os₁ ++ o :: os₂ ∧ (session f os₁).run s = .ok ((), s₁) ∧
      (f o).run s₁ = .error e ∧ (session f os).trace s = (session f os₁).trace s ++ (f o).trace s₁ := by
  induction os generalizing s with
  | nil => cases h
  | cons o os ih =>
    rw [run_session_cons] at h
    cases hr : (f o).run s with
    | error e' =>
      rw [hr] at h
      cases h
      exact ⟨[], o, os, s, rfl, rfl, hr, by rw [trace_session_cons, hr, List.append_nil]; rfl⟩
    | ok r =>
      rw [hr] at h
      obtain ⟨os₁, o', os₂, s₁, rfl, hrun, herr, htrace⟩ := ih (s := r.2) h
      refine ⟨o :: os₁, o', os₂, s₁, rfl, ?_, herr, ?_⟩
      · rw [run_session_cons, hr]
        exact hrun
      · rw [trace_session_cons, trace_session_cons, hr, List.append_assoc]
        exact congrArg _ htrace

/-- What every call keeps, a session keeps. -/
theorem sat_session {I J : σ → Prop} {A G : σ → α → Prop} {F : σ → ε → Prop}
    (h : ∀ o s, J s → (f o).Sat I A G F (fun _ s' => J s') s) (os : List ο) (s : σ) (hs : J s) :
    (session f os).Sat I A G F (fun _ s' => J s') s := by
  induction os generalizing s with
  | nil => exact hs
  | cons o os ih => exact (sat_bind _ _ _ _).2 ((h o s hs).mono fun _ s' hs' => ih s' hs')

end Session

end Prog

end Lib
