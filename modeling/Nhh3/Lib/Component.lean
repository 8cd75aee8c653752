import Nhh3.Lib.Program
/-!
# A component of a system

A system contains a component: some of its actions are the component's, all
others leave the component's state alone. A program of the component runs in the
system unchanged (`lift`), and what a run of the system does to the component is
a run of the component (`project`).
-/

namespace Lib

open Prog

/-- How the component with states `σ` and actions `α` sits in a system. -/
structure Component (σ α τ α' : Type) [Machine σ α] [Machine τ α'] where
  view : τ → σ
  act : α → α'
  /-- The component's action, if it is one. -/
  own : α' → Option α
  own_act : ∀ a, own (act a) = some a
  view_apply : ∀ b t, view (apply b t) = (own b).elim (view t) fun a => apply a (view t)

namespace Component
variable {σ α τ α' ε β : Type} [Machine σ α] [Machine τ α'] (m : Component σ α τ α')

theorem view_act (a : α) (t : τ) : m.view (apply (m.act a) t) = apply a (m.view t) := by
  rw [m.view_apply, m.own_act]
  rfl

/-- The component's program as one of the system. -/
def lift : Prog σ α ε β → Prog τ α' ε β
  | .ret b => .ret b
  | .read k => .read fun t => lift (k (m.view t))
  | .act a k => .act (m.act a) (lift k)
  | .fail e => .fail e

/-- The component's part of a history. -/
def project (hist : List (τ × α')) : List (σ × α) :=
  hist.filterMap fun e => (m.own e.2).map fun a => (m.view e.1, a)

theorem project_append (hist hist' : List (τ × α')) :
    m.project (hist ++ hist') = m.project hist ++ m.project hist' :=
  List.filterMap_append

theorem project_act (t : τ) (a : α) : m.project [(t, m.act a)] = [(m.view t, a)] := by
  simp [project, m.own_act]

theorem mem_project {s : σ} {a : α} {hist : List (τ × α')} (h : (s, a) ∈ m.project hist) :
    ∃ t b, (t, b) ∈ hist ∧ m.own b = some a ∧ m.view t = s := by
  obtain ⟨⟨t, b⟩, hmem, he⟩ := List.mem_filterMap.1 h
  obtain ⟨a', hown, heq⟩ := Option.map_eq_some_iff.1 he
  rw [Prod.mk.injEq] at heq
  obtain ⟨hview, rfl⟩ := heq
  exact ⟨t, b, hmem, hown, hview⟩

theorem view_after (t : τ) (hist : List (τ × α')) :
    m.view (after t hist) = after (m.view t) (m.project hist) := by
  induction hist generalizing t with
  | nil => rfl
  | cons e hist ih =>
    rw [after_cons, ih, m.view_apply]
    cases h : m.own e.2 <;> simp [project, h]

/-- A lifted program does to the component what the program does. -/
theorem lift_run (p : Prog σ α ε β) (t : τ) : p.run (m.view t) = (match (m.lift p).run t with
    | .ok (b, t') => .ok (b, m.view t')
    | .error e => .error e) := by
  induction p generalizing t with
  | ret b => rfl
  | read k ih => exact ih (m.view t) t
  | act a k ih =>
    show k.run (apply a (m.view t)) = _
    rw [← m.view_act]
    exact ih _
  | fail e => rfl

theorem lift_trace (p : Prog σ α ε β) (t : τ) :
    m.project ((m.lift p).trace t) = p.trace (m.view t) := by
  induction p generalizing t with
  | ret b => rfl
  | read k ih => exact ih (m.view t) t
  | act a k ih =>
    show m.project ([(t, m.act a)] ++ (m.lift k).trace (apply (m.act a) t)) =
      (m.view t, a) :: k.trace (apply a (m.view t))
    rw [project_append, project_act, ih, view_act]
    rfl
  | fail e => rfl

/-- A lifted program leaves alone what no action of the component changes. -/
theorem lift_frame {ρ : Type} {rest : τ → ρ} (hrest : ∀ a t, rest (apply (m.act a) t) = rest t)
    {p : Prog σ α ε β} {t : τ} {e : τ × α'} (he : e ∈ (m.lift p).trace t) :
    rest e.1 = rest t ∧ ∃ a, e.2 = m.act a ∧ (m.view e.1, a) ∈ p.trace (m.view t) := by
  induction p generalizing t with
  | ret b => cases he
  | read k ih => exact ih (m.view t) he
  | act a k ih =>
    rcases List.mem_cons.1 he with rfl | he
    · exact ⟨rfl, a, rfl, List.mem_cons_self⟩
    · obtain ⟨hr, a', ha', hmem⟩ := ih he
      rw [m.view_act] at hmem
      exact ⟨hr.trans (hrest a t), a', ha', List.mem_cons_of_mem _ hmem⟩
  | fail e => cases he

/-! ## Sessions -/

section Session
variable {ο κ : Type} {f : ο → Prog τ α' ε Unit} {g : κ → Prog σ α ε Unit}

/-- A call of the system makes these calls of the component, and then acts on its own. -/
def Calls (calls : τ → ο → List κ) (step : ο → α') (g : κ → Prog σ α ε Unit) (o : ο) : Prog τ α' ε Unit := do
  let t ← Prog.get
  m.lift (session g (calls t o))
  perform (step o)

theorem calls_trace (calls : τ → ο → List κ) (step : ο → α') (o : ο) (t : τ) :
    (m.Calls calls step g o).trace t = (m.lift (session g (calls t o))).trace t ++
      (match (m.lift (session g (calls t o))).run t with
        | .ok (_, t') => [(t', step o)]
        | .error _ => []) := by
  refine (trace_bind (m.lift (session g (calls t o))) (fun _ => perform (step o)) t).trans ?_
  cases (m.lift (session g (calls t o))).run t <;> rfl

theorem calls_run (calls : τ → ο → List κ) (step : ο → α') (o : ο) (t : τ) :
    (m.Calls calls step g o).run t = (match (m.lift (session g (calls t o))).run t with
        | .ok (_, t') => .ok ((), apply (step o) t')
        | .error e => .error e) := by
  refine (run_bind (m.lift (session g (calls t o))) (fun _ => perform (step o)) t).trans ?_
  cases (m.lift (session g (calls t o))).run t <;> rfl

/-- An action of the component in a call of the system is one of the calls it makes, and the rest of
the system is as it was. -/
theorem calls_act {ρ : Type} {rest : τ → ρ} (hrest : ∀ a t, rest (apply (m.act a) t) = rest t)
    {calls : τ → ο → List κ} {step : ο → α'} {o : ο} (hstep : m.own (step o) = none) {t t' : τ} {a : α}
    (he : (t', m.act a) ∈ (m.Calls calls step g o).trace t) :
    rest t' = rest t ∧ (m.view t', a) ∈ (session g (calls t o)).trace (m.view t) := by
  rw [calls_trace, List.mem_append] at he
  rcases he with he | he
  · obtain ⟨hr, a', ha', hmem⟩ := m.lift_frame hrest he
    have heq : m.own (m.act a) = m.own (m.act a') := congrArg m.own ha'
    rw [m.own_act, m.own_act] at heq
    cases heq
    exact ⟨hr, hmem⟩
  · -- the system's own action is not the component's
    split at he
    · rw [List.mem_singleton, Prod.mk.injEq] at he
      have hown := m.own_act a
      rw [he.2, hstep] at hown
      cases hown
    · cases he

/-- What a session of the system does to the component is a session of the component. -/
theorem session_project {calls : τ → ο → List κ} {step : ο → α'} (hstep : ∀ o, m.own (step o) = none)
    (os : List ο) (t : τ) : ∃ ks,
      m.project ((session (m.Calls calls step g) os).trace t) = (session g ks).trace (m.view t) := by
  induction os generalizing t with
  | nil => exact ⟨[], rfl⟩
  | cons o os ih =>
    have hlift := m.lift_run (session g (calls t o)) t
    rw [trace_session_cons, calls_trace, calls_run, project_append, project_append, lift_trace]
    cases hrun : (m.lift (session g (calls t o))).run t with
    | error e => exact ⟨calls t o, by simp [project]⟩
    | ok r =>
      obtain ⟨b, t'⟩ := r
      obtain ⟨ks, hks⟩ := ih (apply (step o) t')
      rw [hrun] at hlift
      refine ⟨calls t o ++ ks, ?_⟩
      have hown : m.view (apply (step o) t') = m.view t' := by
        rw [m.view_apply, hstep]
        rfl
      rw [(session_append g _ _ _).2, hlift]
      dsimp only
      rw [hks, hown]
      simp [project, hstep]

/-- The same, if the system begins with calls of the component. -/
theorem start_project {calls : τ → ο → List κ} {step : ο → α'} (hstep : ∀ o, m.own (step o) = none)
    (start : List κ) (os : List ο) (t : τ) : ∃ ks,
      m.project ((m.lift (session g start) >>= fun _ => session (m.Calls calls step g) os).trace t) =
        (session g ks).trace (m.view t) := by
  have hlift := m.lift_run (session g start) t
  rw [trace_bind, project_append, lift_trace]
  cases hrun : (m.lift (session g start)).run t with
  | error e => exact ⟨start, List.append_nil _⟩
  | ok r =>
    obtain ⟨b, t'⟩ := r
    obtain ⟨ks, hks⟩ : ∃ ks, m.project ((session (m.Calls calls step g) os).trace t') =
        (session g ks).trace (m.view t') := m.session_project hstep os t'
    rw [hrun] at hlift
    refine ⟨start ++ ks, ?_⟩
    rw [(session_append g _ _ _).2, hlift]
    exact congrArg _ hks

end Session

/-- A prefix of a system's history projects to a prefix of the component's. -/
theorem project_prefix {hist hist' : List (τ × α')} (h : hist <+: hist') :
    m.project hist <+: m.project hist' :=
  h.filterMap _

end Component

end Lib
