import Nhh3.Callbacks
import Nhh3.Status
/-!
# What the status says about the queues

Clients take Wait for the end of their requests, and an error for one they can
Retry. The status is set to Wait at five places: only `UpdatePhaseWait` looks at
the active list first, and none looks at the error stock. While `StartStream`
runs the status lags behind the list, so the first of the two laws holds between
calls only.
-/

namespace Nhh3

open Lib Lib.Prog Connection

/-! ## Between two calls -/

/-- If `J` holds before the program, and its actions keep to `A`, then `J` holds after it. -/
abbrev Restores (A : Connection → Act → Prop) (J : Connection → Prop) (β : Type) (p : P β) : Prop :=
  ∀ c, J c → p.Sat (fun _ => True) A (fun _ _ => True) (fun _ _ => True) (fun _ c' => J c') c

section Boundary
variable {A : Connection → Act → Prop} {J : Connection → Prop}

/-- It is enough that every other action keeps `J`, and that `StartStream` restores it. -/
theorem rule_restores (hkeep : ∀ c a, a.ofStart = false → A c a → J c → J (apply a c))
    (hstart : ∀ starts, Restores A J _ (startStream starts)) {parts : List Part} (hparts : .starting ∉ parts) :
    Rule parts (Restores A J) where
  within h _ hJ := h.sat (fun c a ha => hkeep c a (ofStart_of_part ha hparts)) hJ
  start := hstart
  bind h hf c hJ := Sat.bind (h c hJ) hf

theorem restores_body (hkeep : ∀ c a, a.ofStart = false → A c a → J c → J (apply a c))
    (hstart : ∀ starts, Restores A J _ (startStream starts)) (op : Op) : Restores A J _ op.body := by
  intro c hJ
  have hmay : (∀ a, op.May a → a.ofStart = false) → op.body.Sat (fun _ => True) A (fun _ _ => True)
      (fun _ _ => True) (fun _ c' => J c') c := fun h =>
    (acts_body op).sat (fun c a ha => hkeep c a (h a ha)) hJ
  cases op with
  | update io => exact Sat.bind ((rule_restores hkeep hstart (by decide)).update io c hJ) fun _ _ h => h
  | reconnect n now =>
    have hrule : Rule [.recovery, .reconnecting] (Restores A J) := rule_restores hkeep hstart (by decide)
    exact Sat.bind (hrule.within (within_reconnect n) c hJ) fun _ _ h => h
  | issueCallbacks starts =>
    refine hmay fun a ha => ?_
    cases a <;> first | rfl | cases ha
  | _ =>
    refine hmay ?_
    rintro a rfl
    rfl

/-- What holds between two calls of a run. -/
theorem exec_boundary {hostName port : String} {ops : List Op} {c : Connection}
    {K : Connection → Act → Prop} (h0 : J (new hostName port))
    (hkeep : ∀ c a, a.ofStart = false → Addressed c → Enabled c a → K c a → J c → J (apply a c))
    (hstart : ∀ A starts, Restores A J _ (startStream starts))
    (hK : ∀ e ∈ (exec ops).trace (new hostName port), K e.1 e.2)
    (hrun : (exec ops).run (new hostName port) = .ok ((), c)) : J c := by
  have hsat := sat_session Op.run (I := fun _ => True) (J := J) (F := fun _ _ => True)
    (A := fun c a => Addressed c ∧ Enabled c a ∧ K c a) (G := fun _ _ => True)
    (fun op c hJ => Sat.perform (fun _ => trivial) fun hA => restores_body
      (fun c a ha hA => hkeep c a ha hA.1 hA.2.1 hA.2.2) (hstart _) op _
      (hkeep c _ rfl hA.1 hA.2.1 hA.2.2 hJ)) ops _ h0
  have hends := (hsat.sound (fun _ _ _ _ _ => trivial) trivial fun e he => ?_).2
  · rw [hrun] at hends
    exact hends.1
  · obtain ⟨hist, hp⟩ := performs_of_mem he
    exact ⟨(exec_enabled hp).1, (exec_enabled hp).2, hK e he⟩

end Boundary

/-! ## Wait means idle -/

/-- The condition: what sets the status to Wait without looking at the active list happens
while no request is under way. -/
def WaitMeets (c : Connection) : Act → Prop
  | .createSocket io => io = .ok → c.h3Streams = []
  | .transitionConnectionMigration | .retryStream | .finishAbort => c.h3Streams = []
  | _ => True

instance (c : Connection) (a : Act) : Decidable (WaitMeets c a) := by
  apply Act.casesOn (motive := fun a => Decidable (WaitMeets c a)) a <;> intros <;>
    (dsimp only [WaitMeets]; infer_instance)

/-- In status Wait no request is under way. -/
def WaitIdle (c : Connection) : Prop := c.status = .wait → c.h3Streams = []

section Idle
variable {c : Connection} {a : Act}

/-- An action that leads to Wait finds Wait, or no request. -/
theorem wait_from (hE : Enabled c a) (hM : WaitMeets c a) (h : (apply a c).status = .wait) :
    c.status = .wait ∨ c.h3Streams = [] := by
  have hconv : ∀ e, convertQuicheErrorToStatus e c.status = .wait → c.status = .wait := fun e he => by
    rcases convertQuicheErrorToStatus_cases e c.status with hs | hs
    · rw [← hs, he]
    · exact absurd hs (by rw [he]; decide)
  rw [status_apply hE] at h
  cases a with
  | publishRequest req =>
    simp only [Act.sets] at h
    split_ifs at h
    · cases h
    · exact .inl h
  | sendFailed e => exact .inl (hconv e h)
  | recvFailed e => exact .inl (hconv e h)
  | createSocket io =>
    cases io with
    | ok => exact .inr (hM rfl)
    | _ => cases h
  | createUdpSocket io =>
    cases io with
    | ok => exact .inl h
    | _ => cases h
  | initializeQuiche io =>
    cases he : c.initError io with
    | none => exact .inl (by simpa [Act.sets, he] using h)
    | some s =>
      have hs : s = .wait := by simpa [Act.sets, he] using h
      exact absurd (initError_lt he) (by rw [hs]; decide)
  | probePath ok =>
    cases ok with
    | true => exact .inl h
    | false => cases h
  | timeout closed =>
    simp only [Act.sets] at h
    split_ifs at h
    · cases h
    · exact .inl h
  | streamCritical st =>
    have hs : st.status = .wait := h
    exact absurd (lt_wait_of_le_criticalError _ hE.2) (by rw [hs]; decide)
  | idle => exact .inr hE.1
  | transitionConnectionMigration => exact .inr hM
  | retryStream => exact .inr hM
  | finishAbort => exact .inr hM
  | _ => first | exact .inl h | cases h

theorem waitIdle_apply (hA : Addressed c) (hE : Enabled c a) (hM : WaitMeets c a) (ha : a.ofStart = false)
    (h : WaitIdle c) : WaitIdle (apply a c) := by
  intro hs
  have hidle : c.h3Streams = [] := (wait_from hE hM hs).elim h id
  refine active_nil hA hE hidle ?_
  rintro st id rfl
  cases ha

/-- The loop of StartStream leaves the status alone, unless it fails. -/
theorem sat_startLoop {A : Connection → Act → Prop} (starts : Nat → StartIo) (n num : Nat) :
    (startLoop starts n num).Sat (fun _ => True) A (fun _ _ => True) (fun _ _ => True)
      (fun r c' => r.1 = .ok ∧ c'.status = c.status ∧ num ≤ r.2 ∧ (r.2 = num → c'.h3Streams = c.h3Streams) ∨
        r.1 ≠ .ok ∧ c'.status = .criticalErrorQuiche) c := by
  induction n generalizing num c with
  | zero => exact .inl ⟨rfl, rfl, le_refl _, fun _ => rfl⟩
  | succ n ih =>
    refine Sat.get fun _ => ?_
    split
    · exact .inl ⟨rfl, rfl, le_refl _, fun _ => rfl⟩
    split
    · trivial
    split
    · refine Sat.perform (fun _ => trivial) fun _ => ?_
      split
      · exact .inl ⟨rfl, rfl, le_refl _, fun _ => rfl⟩
      · exact Sat.perform (fun _ => trivial) fun _ _ => .inr ⟨nofun, rfl⟩
    · refine Sat.perform (fun _ => trivial) fun _ => (ih (num + 1)).mono fun r c' h => ?_
      rcases h with ⟨hr, hs, hnum, -⟩ | h
      · exact .inl ⟨hr, hs, by omega, fun heq => by omega⟩
      · exact .inr h

/-- A batch of streams that is started in Wait ends in Connecting. -/
theorem restores_startStream (A : Connection → Act → Prop) (starts : Nat → StartIo) :
    Restores A WaitIdle _ (startStream starts) := by
  intro c h
  refine Sat.get fun _ => ?_
  split
  · exact h
  split
  · exact h
  refine Sat.bind (sat_startLoop starts _ 0) fun r c' hr => ?_
  dsimp only
  split
  · rename_i hne
    rcases hr with ⟨hok, -⟩ | ⟨-, hs⟩
    · exact absurd hok hne
    · exact fun hw => absurd (hs.symm.trans hw) (by decide)
  · rename_i hok
    obtain ⟨-, hs, -, hactive⟩ := hr.resolve_right fun h => hok h.1
    refine Sat.get fun _ => ?_
    split
    · exact fun _ => ⟨trivial, nofun⟩
    · rename_i hnum
      intro hw
      have hzero : r.2 = 0 := by
        by_contra hne
        exact hnum ⟨by omega, hw⟩
      rw [hactive hzero]
      exact h (hs.symm.trans hw)

end Idle

/-- In a run that meets the condition, no request is under way when a call returns and the
status is Wait. -/
theorem wait_idle {hostName port : String} {ops : List Op} {c : Connection}
    (hrun : (exec ops).run (new hostName port) = .ok ((), c))
    (hM : ∀ e ∈ (exec ops).trace (new hostName port), WaitMeets e.1 e.2) (hs : c.status = .wait) :
    c.h3Streams = [] :=
  exec_boundary (J := WaitIdle) (fun _ => rfl)
    (fun _ _ ha hA hE hM h => waitIdle_apply hA hE hM ha h) restores_startStream hM hrun hs

/-- After a download, and another Update. -/
theorem wait_idle_download : ∃ c,
    (exec (connectOps ++ downloadOps ++ [.update {}])).run (new "h" "443") = .ok ((), c) ∧
    c.status = .wait ∧ c.h3Streams = [] := by
  have hrun : (exec (connectOps ++ downloadOps ++ [.update {}])).run (new "h" "443") = .ok ((), _) := rfl
  exact ⟨_, hrun, rfl, wait_idle hrun (by decide) rfl⟩

/-- Connection migration is allowed, and the connection gets as far as phase Wait. -/
def migratingOps : List Op := .setOptions { disableActiveMigration := false } :: connectOps

/-- The network changes while a request is under way: the status is Wait. -/
theorem wait_idle_migration : ∃ c,
    (exec (migratingOps ++ [.publishRequest {}, .update {}, .reconnect 1 0])).run (new "h" "443") =
      .ok ((), c) ∧ c.status = .wait ∧ c.h3Streams.length = 1 :=
  ⟨_, rfl, rfl, rfl⟩

/-! ## No stranded requests -/

/-- A request in the error stock can still be retried: Retry is accepted, or was already. -/
def Retryable (c : Connection) : Prop :=
  c.h3StreamsErrorStock ≠ [] → c.status < .wait ∨ c.callRetry = true

/-- The condition: a new socket and a migration, which clear the status, come when nothing is
in the error stock or a Retry is pending, and a shutdown that ends without an error puts
nothing there. -/
def StrandMeets (c : Connection) : Act → Prop
  | .createSocket io => io = .ok → c.h3StreamsErrorStock = [] ∨ c.callRetry = true
  | .transitionConnectionMigration => c.h3StreamsErrorStock = [] ∨ c.callRetry = true
  | .finishShutdown => c.status < .wait ∨ c.callRetry = true ∨ c.h3Streams = [] ∧ c.h3StreamsStock = []
  | _ => True

instance (c : Connection) (a : Act) : Decidable (StrandMeets c a) := by
  apply Act.casesOn (motive := fun a => Decidable (StrandMeets c a)) a <;> intros <;>
    (dsimp only [StrandMeets]; infer_instance)

section Strand
variable {c : Connection} {a : Act}

/-- Only the end of a shutdown fills the error stock. -/
theorem errorStock_empty (hE : Enabled c a) (ha : a ≠ .finishShutdown) (h : c.h3StreamsErrorStock = []) :
    (apply a c).h3StreamsErrorStock = [] := by
  cases hm : a.moves with
  | false => exact (sameStreams hm).error.trans h
  | true =>
    cases a with
    | publishRequest req =>
      simp only [apply, publishRequest_eq]
      exact h
    | eventHeaders _ _ st => simp [apply, putStream, h]
    | eventData _ _ st => simp [apply, putStream, h]
    | eventFinished _ st => simp [apply, putStream, h]
    | abort => rfl
    | retryStream => rfl
    | streamRetry st => exact hE.elim
    | finishShutdown => exact absurd rfl ha
    | _ => first | exact h | exact Bool.noConfusion hm

/-- Until an Abort is finished, nothing is put in the error stock that it emptied. -/
theorem abort_errorStock (hE : Enabled c a) (h : c.callAbort = true → c.h3StreamsErrorStock = []) :
    (apply a c).callAbort = true → (apply a c).h3StreamsErrorStock = [] := by
  intro hcall
  rcases callAbort_from hcall with rfl | hcall'
  · rfl
  refine errorStock_empty hE ?_ (h hcall')
  rintro rfl
  have hno : c.callAbort = false := hE.2.2
  exact absurd (hno.symm.trans hcall') (by decide)

/-- Which actions strand a request. -/
theorem retryable_apply (hE : Enabled c a) (hcall : c.callAbort = true → c.h3StreamsErrorStock = [])
    (h : Retryable c) : Retryable (apply a c) ↔ StrandMeets c a := by
  -- an error and a pending Retry outlast most actions
  have hkeep : a ≠ .finishShutdown → LatchMeets a → Retryable (apply a c) := by
    intro hfinish hlatch hne
    have hretry : a ≠ .retryStream := by
      rintro rfl
      exact hlatch
    rcases h fun he => hne (errorStock_empty hE hfinish he) with hs | hr
    · exact .inl ((latch_apply hE hs).2 hlatch)
    · exact .inr ((callRetry_kept hr).resolve_left hretry)
  have hempty : (apply a c).h3StreamsErrorStock = [] → Retryable (apply a c) := fun he hne => absurd he hne
  have hwait : (apply a c).status = .wait → (apply a c).h3StreamsErrorStock = c.h3StreamsErrorStock →
      (apply a c).callRetry = c.callRetry →
      (Retryable (apply a c) ↔ c.h3StreamsErrorStock = [] ∨ c.callRetry = true) := by
    intro hs he hr
    have hno : ¬ (QwfsStatus.wait : QwfsStatus) < .wait := by decide
    simp only [Retryable, hs, he, hr, hno, false_or]
    exact or_iff_not_imp_left.symm
  cases a with
  | createSocket io =>
    cases io with
    | ok => exact (hwait rfl rfl rfl).trans ⟨fun h _ => h, fun h => h rfl⟩
    | _ => exact iff_of_true (hkeep (by simp) (by simp [LatchMeets])) (by simp [StrandMeets])
  | transitionConnectionMigration => exact hwait rfl rfl rfl
  | retryStream => exact iff_of_true (hempty rfl) trivial
  | finishAbort => exact iff_of_true (hempty (hcall hE.2.2)) trivial
  | finishShutdown =>
    have he : (apply Act.finishShutdown c).h3StreamsErrorStock = c.h3Streams.reverse ++ c.h3StreamsStock := rfl
    have hs : (apply Act.finishShutdown c).status = c.status := rfl
    have hr : (apply Act.finishShutdown c).callRetry = c.callRetry := rfl
    simp only [Retryable, StrandMeets, he, hs, hr, ne_eq, List.append_eq_nil_iff, List.reverse_eq_nil_iff]
    rw [← or_iff_not_imp_left, or_comm, or_assoc]
  | _ => exact iff_of_true (hkeep (by simp) trivial) trivial

end Strand

/-- No state of a run leaves a request in the error stock that Retry would refuse exactly if
every action meets the condition. -/
theorem no_stranded_request {hostName port : String} {ops : List Op} :
    (∀ hist c, (exec ops).Visits (new hostName port) hist c → Retryable c) ↔
      ∀ e ∈ (exec ops).trace (new hostName port), StrandMeets e.1 e.2 := by
  refine visits_iff (J := fun _ => Retryable) (fun h => absurd rfl h) fun hist c a hp h => ?_
  have hcall : c.callAbort = true → c.h3StreamsErrorStock = [] :=
    exec_inv (J := fun _ c => c.callAbort = true → c.h3StreamsErrorStock = []) (K := fun _ _ => True)
      nofun (fun _ _ _ _ hE _ h => abort_errorStock hE h) (fun _ _ => trivial) hp.visits
  exact retryable_apply (exec_enabled hp).2 hcall h

/-- A socket error while a request is under way, and the shutdown: the request waits for a Retry.
The next connection does not take it, and Retry is refused. -/
theorem no_stranded_request_reconnect : ∃ c,
    (exec (connectOps ++ [.publishRequest {}, .update {}] ++
      [.update { send := [{ writeSize := 1, sendto := .failed 10054 false }] }, .update {}, .update {},
        .reconnect 0 0, .update {}, .retry])).run (new "h" "443") = .ok ((), c) ∧
    c.status = .wait ∧ c.callRetry = false ∧ c.h3StreamsErrorStock.length = 1 :=
  ⟨_, rfl, rfl, rfl, rfl⟩

end Nhh3
