import Nhh3.Callbacks
/-!
# Error callbacks

`IssueCallbacks` reports a stream by its status alone. The status is also where
Stream::Shutdown puts the error of the connection, it is not reset when the
stream is started again, and a critically failed stream stays in the list. What
a request's own stream did is told from the history: `attempt`.
-/

namespace Nhh3

open Lib Lib.Prog Connection

/-! ## The current attempt of a request -/

/-- The current attempt of a request: nothing failed, its stream failed, or the failure was
reported. -/
inductive Attempt where
  | fresh | failed | reported
  deriving DecidableEq, Repr

/-- What an action makes of the attempt of the stream at address `p`. -/
def Act.attempts (p : Nat) : Act → Option Attempt
  | .startStream st _ => if st.self = p then some .fresh else none
  | .startFailed st => if st.self = p then some .failed else none
  | .eventData _ (.failed _) st => if st.self = p ∧ st.status < .wait then some .failed else none
  | .error st => if st.self = p then some .reported else none
  | _ => none

def attempt (hist : List (Connection × Act)) (p : Nat) : Attempt :=
  hist.foldl (fun t e => (e.2.attempts p).getD t) .fresh

/-- The condition: no stream that carries an error is started again; and when IssueCallbacks is
called, no active stream has an error that a shutdown gave it, or one that was reported. -/
def ErrorMeets (hist : List (Connection × Act)) (c : Connection) : Act → Prop
  | .startStream st _ => ¬ st.status < .wait
  | .call op => op.issues = true → ∀ st ∈ c.h3Streams, st.status < .wait →
      st.quicheQuicConnection ≠ none ∧ attempt hist st.self ≠ .reported
  | _ => True

instance (hist : List (Connection × Act)) (c : Connection) (a : Act) : Decidable (ErrorMeets hist c a) := by
  apply Act.casesOn (motive := fun a => Decidable (ErrorMeets hist c a)) a <;> intros <;>
    (dsimp only [ErrorMeets]; infer_instance)

/-- An error status that no shutdown has given comes from the current attempt. -/
def OwnErrors (hist : List (Connection × Act)) (c : Connection) : Prop :=
  ∀ st ∈ c.h3Streams, st.status < .wait → st.quicheQuicConnection ≠ none → attempt hist st.self ≠ .fresh

section Step
variable {hist : List (Connection × Act)} {c : Connection} {a : Act} {st x x' : Stream}

theorem attempt_concat (p : Nat) :
    attempt (hist ++ [(c, a)]) p = (a.attempts p).getD (attempt hist p) := by
  simp [attempt]

/-- What happens to other streams does not matter. -/
theorem attempts_other {p : Nat} (h : a.subject ≠ some p) :
    a.attempts p = none ∨ a.attempts p = some .reported := by
  cases a with
  | startStream st id => exact .inl (if_neg fun hs => h (congrArg some hs))
  | startFailed st => exact .inl (if_neg fun hs => h (congrArg some hs))
  | eventData id body st =>
    cases body with
    | failed e => exact .inl (if_neg fun hs => h (congrArg some hs.1))
    | buffered data => exact .inl rfl
  | error st =>
    by_cases hs : st.self = p
    · exact .inr (if_pos hs)
    · exact .inl (if_neg hs)
  | _ => exact .inl rfl

theorem attempt_other {p : Nat} (h : a.subject ≠ some p) (hf : attempt hist p ≠ .fresh) :
    attempt (hist ++ [(c, a)]) p ≠ .fresh := by
  rw [attempt_concat]
  rcases attempts_other h with hn | hr
  · rwa [hn]
  · rw [hr]
    exact nofun

theorem ownErrors_apply (hA : Addressed c) (hE : Enabled c a) (hM : ErrorMeets hist c a)
    (h : OwnErrors hist c) : OwnErrors (hist ++ [(c, a)]) (apply a c) := by
  intro x' hx' hs hq
  cases active_from hA hE hx' with
  | started => exact absurd hs hM
  | @kept _ x _ hx hb =>
    cases hb with
    | same hne => exact attempt_other hne (h _ hx hs hq)
    | progress => exact attempt_other nofun (h x hx hs hq)
    | shutdown =>
      unfold Stream.shutdown at hs hq ⊢
      split_ifs at hs hq ⊢ with hc
      · exact absurd rfl hq
      · exact attempt_other nofun (h _ hx hs hq)
    | handled hh =>
      have hown : x.status < .wait → attempt hist x'.self ≠ .fresh := fun hs => by
        rw [Stream.self_of_ticket hh.ticket]
        exact h x hx hs (hh.handles.1 ▸ hq)
      rw [attempt_concat]
      cases hh with
      | headers _ hst =>
        rw [Stream.eventHeaders_ok hst] at hs
        exact hown hs
      | finished => exact absurd hs (by decide : ¬ QwfsStatus.completed < .wait)
      | @data _ body _ _ _ hst =>
        cases body with
        | failed e =>
          rw [Act.attempts, if_pos ⟨rfl, hs⟩]
          exact nofun
        | buffered data =>
          rcases Stream.eventData_cases hst with ⟨_, _, hb, -⟩ | ⟨_, _, _, _, -, rfl, -⟩
          · cases hb
          · exact hown hs

end Step

/-! ## One call of IssueCallbacks -/

namespace Connection
variable {c c' : Connection} {mid : List (Connection × Act)} {st x : Stream}

/-- An error callback of a call is about the stream at hand, and comes first. -/
theorem issueCallback_trace (io : StartIo) :
    (∀ e ∈ (issueCallback io x).trace c, ∀ y, e.2 ≠ .error y) ∨
      ∃ rest, (issueCallback io x).trace c = (c, .error x) :: rest ∧ ∀ e ∈ rest, ∀ y, e.2 ≠ .error y := by
  unfold issueCallback
  split_ifs with hs he hcritical
  · refine .inl fun e he y hy => ?_
    obtain rfl := List.mem_singleton.1 he
    cases hy
  · refine .inr ⟨_, rfl, fun e he y hy => ?_⟩
    obtain rfl := List.mem_singleton.1 he
    cases hy
  · exact .inr ⟨[], rfl, fun e he => by cases he⟩
  · exact .inl fun e he => by cases he

theorem issueCallback_error (io : StartIo) (h : (issueCallback io x).Performs c mid c' (.error st)) :
    st = x ∧ mid = [] := by
  rcases issueCallback_trace (c := c) (x := x) io with hno | ⟨rest, htrace, hrest⟩
  · exact absurd rfl (hno _ h.mem st)
  rw [Performs, htrace] at h
  cases mid with
  | nil =>
    obtain ⟨post, h⟩ := h
    cases h
    exact ⟨rfl, rfl⟩
  | cons e mid =>
    rw [List.cons_append, List.cons_prefix_cons] at h
    exact absurd rfl (hrest (c', .error st) (h.2.subset (by simp)) st)

/-- A call reports a stream of its list, once. -/
theorem issueLoop_error (starts : Nat → StartIo) {sts : List Stream} (hnd : (sts.map Stream.self).Nodup)
    (h : (issueLoop starts sts).Performs c mid c' (.error st)) :
    st ∈ sts ∧ ∀ e ∈ mid, ∀ y, e.2 = .error y → y.self ≠ st.self := by
  induction sts generalizing c mid with
  | nil =>
    obtain ⟨post, h⟩ := h
    cases mid <;> cases h
  | cons x sts ih =>
    rw [List.map_cons, List.nodup_cons] at hnd
    rcases performs_bind h with hin | ⟨_, c₁, mid', hr, rfl, hout⟩
    · obtain ⟨rfl, rfl⟩ := issueCallback_error _ hin
      exact ⟨List.mem_cons_self, fun _ he => by cases he⟩
    · obtain ⟨hst, hmid⟩ := ih hnd.2 hout
      refine ⟨List.mem_cons_of_mem _ hst, fun e he y hy hself => ?_⟩
      rcases List.mem_append.1 he with he | he
      · obtain ⟨hist, hp⟩ := performs_of_mem he
        rw [hy] at hp
        obtain ⟨rfl, -⟩ := issueCallback_error _ hp
        exact hnd.1 (hself ▸ List.mem_map_of_mem hst)
      · exact hmid e he y hy hself

end Connection

section Run
variable {hostName port : String} {ops : List Op} {hist : List (Connection × Act)} {c : Connection}
  {st : Stream}

/-- An error callback belongs to a call of IssueCallbacks that found the stream in the list, and
did not report it before. -/
theorem exec_error (h : (exec ops).Performs (new hostName port) hist c (.error st)) :
    ∃ pre c₀ starts mid, hist = pre ++ (c₀, .call (.issueCallbacks starts)) :: mid ∧
      (exec ops).Performs (new hostName port) pre c₀ (.call (.issueCallbacks starts)) ∧ st ∈ c₀.h3Streams ∧
      (∀ e ∈ mid, e.2.callback = some true) ∧ ∀ e ∈ mid, ∀ y, e.2 = .error y → y.self ≠ st.self := by
  obtain ⟨ops₁, op, ops₂, c₀, -, -, ⟨-, -, he⟩ | ⟨mid, rfl, hbody⟩⟩ := exec_calls h
  · cases he
  have hcall : (exec ops).Performs (new hostName port) ((exec ops₁).trace (new hostName port)) c₀ (.call op) :=
    List.IsPrefix.trans ⟨mid ++ [(c, .error st)], by simp⟩ h
  have hissues : op.issues = true := (Option.some.inj (may_callback ((acts_body op).mem hbody.mem))).symm
  obtain ⟨starts, rfl⟩ := issues_iff.1 hissues
  have hnd : (c₀.h3Streams.map Stream.self).Nodup := nodup_active (exec_enabled hcall).1
  have hloop : (issueLoop starts c₀.h3Streams).Performs
    (apply (Act.call (.issueCallbacks starts)) c₀) mid c (.error st) := hbody
  obtain ⟨hst, hmid⟩ := issueLoop_error starts hnd hloop
  refine ⟨_, c₀, starts, mid, rfl, hcall, hst, fun e he => ?_, hmid⟩
  exact (acts_body (.issueCallbacks starts)).mem (hbody.visits.1.subset he)

/-- Callbacks for other streams do not matter. -/
theorem attempt_callbacks {mid : List (Connection × Act)} {p : Nat} (h : ∀ e ∈ mid, e.2.callback = some true)
    (hno : ∀ e ∈ mid, ∀ y, e.2 = .error y → y.self ≠ p) : attempt (hist ++ mid) p = attempt hist p := by
  induction mid using List.reverseRecOn with
  | nil => rw [List.append_nil]
  | append_singleton mid e ih =>
    have hnone : e.2.attempts p = none := by
      have hcb := h e (by simp)
      cases ha : e.2 with
      | error y => exact if_neg (hno e (by simp) y ha)
      | success y => rfl
      | streamCritical y => rfl
      | streamRetry y => rfl
      | _ =>
        rw [ha] at hcb
        cases hcb
    rw [← List.append_assoc, attempt_concat, hnone]
    exact ih (fun e he => h e (by simp [he])) fun e he => hno e (by simp [he])

/-- In a run that meets the condition, every error callback follows a failure of the stream in
its current attempt, and is the first since. -/
theorem error_callbacks (hM : ∀ hist c a, (exec ops).Performs (new hostName port) hist c a → ErrorMeets hist c a)
    (h : (exec ops).Performs (new hostName port) hist c (.error st)) : attempt hist st.self = .failed := by
  obtain ⟨pre, c₀, starts, mid, rfl, hcall, hst, hcb, hno⟩ := exec_error h
  have hs : st.status < .wait := (exec_enabled h).2.2
  obtain ⟨hq, hreported⟩ := hM _ _ _ hcall rfl st hst hs
  have hfresh : attempt pre st.self ≠ .fresh :=
    visits_inv (J := OwnErrors) (fun _ h => by cases h)
      (fun _ _ _ hp h => ownErrors_apply (exec_enabled hp).1 (exec_enabled hp).2 (hM _ _ _ hp) h)
      hcall.visits st hst hs hq
  have hmid : attempt (pre ++ (c₀, .call (.issueCallbacks starts)) :: mid) st.self = attempt pre st.self := by
    rw [List.append_cons, attempt_callbacks hcb hno, attempt_concat]
    rfl
  rw [hmid]
  cases ht : attempt pre st.self with
  | fresh => exact absurd ht hfresh
  | failed => rfl
  | reported => exact absurd ht hreported

end Run

/-- A request is under way when its body cannot be read, for a critical error. -/
def bodyErrorOps : List Op :=
  connectOps ++ [.publishRequest {}, .update {}, eventsOp [(0, .data (.failed QuicheH3Err.bufferTooShort))],
    .issueCallbacks fun _ => {}]

theorem error_callbacks_body : ∃ hist c st, (exec bodyErrorOps).Performs (new "h" "443") hist c (.error st) ∧
    attempt hist st.self = .failed := by
  have hp : (exec bodyErrorOps).Performs (new "h" "443") _ _ (.error _) := performs_split (n := 14) rfl
  exact ⟨_, _, _, hp, error_callbacks (fun _ _ _ => forall_performs (by decide)) hp⟩

/-- A socket error while a request is under way, and IssueCallbacks while the connection shuts
down: the request is reported, which failed in nothing. After a critical error of its own it is
reported again by each IssueCallbacks. -/
theorem error_callbacks_shutdown :
    (∃ hist c st, (exec (connectOps ++ [.publishRequest {}, .update {}] ++
        [.update { send := [{ writeSize := 1, sendto := .failed 10054 false }] },
          .update { established := true }, .issueCallbacks fun _ => {}])).Performs (new "h" "443") hist c
        (.error st) ∧ attempt hist st.self = .fresh) ∧
    ∃ hist c st, (exec (bodyErrorOps ++ [.issueCallbacks fun _ => {}])).Performs (new "h" "443") hist c
        (.error st) ∧ attempt hist st.self = .reported :=
  ⟨⟨_, _, _, performs_last rfl, rfl⟩, _, _, _, performs_split (n := 17) rfl, rfl⟩

end Nhh3
