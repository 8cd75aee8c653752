import Nhh3.Lib.Program
/-!
# A program, one action at a time

Between two actions of one thread other threads run. A thread is kept as the
program it has still to run; `next` takes it to its next action. What it does to
the state it shares with nobody is what the whole program does.
-/

namespace Lib

/-- What a program does next: it returns, performs an action and goes on, or faults. -/
inductive Next (σ α ε β : Type) where
  | ret (b : β)
  | act (a : α) (k : Prog σ α ε β)
  | fail (e : ε)

namespace Prog
variable {σ α ε β : Type}

def next : Prog σ α ε β → σ → Next σ α ε β
  | .ret b, _ => .ret b
  | .read k, s => (k s).next s
  | .act a k, _ => .act a k
  | .fail e, _ => .fail e

theorem acts_session {ο : Type} {f : ο → Prog σ α ε Unit} {G : α → Prop} {os : List ο}
    (h : ∀ o ∈ os, (f o).Acts G) : (session f os).Acts G := by
  induction os with
  | nil => trivial
  | cons o os ih =>
    exact (h o List.mem_cons_self).bind fun _ => ih fun o' ho' => h o' (List.mem_cons_of_mem _ ho')

variable [Machine σ α] {p k : Prog σ α ε β} {s : σ} {a : α} {b : β} {e : ε}

theorem next_ret (h : p.next s = .ret b) : p.run s = .ok (b, s) := by
  induction p with
  | ret b' => cases h; rfl
  | read k ih => exact ih s h
  | act a k ih => cases h
  | fail e => cases h

theorem trace_of_ret (h : p.next s = .ret b) : p.trace s = [] := by
  induction p with
  | ret b' => rfl
  | read k ih => exact ih s h
  | act a k ih => cases h
  | fail e => cases h

theorem next_act (h : p.next s = .act a k) :
    p.run s = k.run (apply a s) ∧ p.trace s = (s, a) :: k.trace (apply a s) := by
  induction p with
  | ret b => cases h
  | read k ih => exact ih s h
  | act a k ih => cases h; exact ⟨rfl, rfl⟩
  | fail e => cases h

section Sat
variable {G : σ → α → Prop} {F : σ → ε → Prop} {Q : β → σ → Prop}

theorem sat_next_act (hp : p.Sat (fun _ => True) (fun _ _ => True) G F Q s) (h : p.next s = .act a k) :
    G s a ∧ k.Sat (fun _ => True) (fun _ _ => True) G F Q (apply a s) := by
  induction p with
  | ret b => cases h
  | read k ih => exact ih s (hp trivial) h
  | act a k ih => cases h; exact hp trivial
  | fail e => cases h

theorem sat_next_fail (hp : p.Sat (fun _ => True) (fun _ _ => True) G F Q s) (h : p.next s = .fail e) :
    F s e := by
  induction p with
  | ret b => cases h
  | read k ih => exact ih s (hp trivial) h
  | act a k ih => cases h
  | fail e' => cases h; exact hp

end Sat

/-- A program all of whose actions are in `G`, from any state. -/
theorem Acts.always {G : α → Prop} (h : p.Acts G) (s : σ) :
    p.Sat (fun _ => True) (fun _ _ => True) (fun _ a => G a) (fun _ _ => True) (fun _ _ => True) s := by
  induction p generalizing s with
  | ret b => trivial
  | read k ih => exact fun _ => ih s (h s) s
  | act a k ih => exact fun _ => ⟨h.1, ih h.2 _⟩
  | fail e => trivial

/-! ## A session under way -/

section Session
variable {ο : Type} {f : ο → Prog σ α ε Unit} {s₀ : σ} {os : List ο} {hist : List (σ × α)}
  {rest rest' : Prog σ α ε Unit}

/-- A session has come to `s` by the actions of `hist`, and `rest` is what it has still to run. -/
structure Underway (f : ο → Prog σ α ε Unit) (s₀ : σ) (os : List ο) (hist : List (σ × α)) (rest : Prog σ α ε Unit)
    (s : σ) : Prop where
  run : (session f os).run s₀ = rest.run s
  trace : (session f os).trace s₀ = hist ++ rest.trace s
  state : s = after s₀ hist

theorem Underway.visits (h : Underway f s₀ os hist rest s) : (session f os).Visits s₀ hist s :=
  ⟨⟨_, h.trace.symm⟩, h.state⟩

theorem Underway.ended (h : Underway f s₀ os hist (.ret ()) s) :
    (session f os).run s₀ = .ok ((), s) ∧ (session f os).trace s₀ = hist :=
  ⟨h.run, h.trace.trans (List.append_nil _)⟩

theorem Underway.of_run (h : (session f os).run s₀ = .ok ((), s)) :
    Underway f s₀ os ((session f os).trace s₀) (.ret ()) s :=
  ⟨h, (List.append_nil _).symm, run_eq_after h⟩

/-- More operations, once the last one has returned. -/
theorem Underway.begin (h : Underway f s₀ os hist (.ret ()) s) (os' : List ο) :
    Underway f s₀ (os ++ os') hist (session f os') s := by
  obtain ⟨hrun, htrace⟩ := h.ended
  obtain ⟨hrun', htrace'⟩ := session_append f os os' s₀
  rw [hrun] at hrun' htrace'
  exact ⟨hrun', htrace'.trans (by rw [htrace]), h.state⟩

/-- Its next action. -/
theorem Underway.act (h : Underway f s₀ os hist rest s) (hnext : rest.next s = .act a rest') :
    Underway f s₀ os (hist ++ [(s, a)]) rest' (apply a s) := by
  obtain ⟨hrun, htrace⟩ := next_act hnext
  refine ⟨h.run.trans hrun, ?_, ?_⟩
  · rw [h.trace, htrace, List.append_assoc]
    rfl
  · rw [after_concat, ← h.state]

/-- The last operation returns. -/
theorem Underway.ret (h : Underway f s₀ os hist rest s) (hnext : rest.next s = .ret ()) :
    Underway f s₀ os hist (.ret ()) s :=
  ⟨h.run.trans (next_ret hnext), h.trace.trans (by rw [trace_of_ret hnext]; rfl), h.state⟩

end Session

end Prog

end Lib
