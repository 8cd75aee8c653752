import Nhh3.Status
/-!
# What a shutdown and a pending call are about

Eight places start a shutdown and set a status with it; a RESET sets none. Retry
and Abort leave a flag that one branch of one later phase clears. Both laws
compare the state with the history: who started the shutdown, and which error a
Retry was called for.
-/

namespace Nhh3

open Lib Lib.Prog Connection

/-! ## Who started the shutdown -/

def Act.isAbort : Act → Bool
  | .abort => true
  | _ => false

/-- Whether it was an Abort that last set phase StartShutdown. -/
def startedByAbort (hist : List (Connection × Act)) : Bool :=
  hist.foldl (fun b e => if e.2.turns e.1 = some .startShutdown then e.2.isAbort else b) false

/-- What a status shows of a shutdown: an Abort, or an error. -/
def Shows (byAbort : Bool) (s : QwfsStatus) : Prop := if byAbort then s = .aborting else s < .wait

/-- A shutdown shows as an Abort if an Abort started it, as an error otherwise. -/
def VisibleCause (hist : List (Connection × Act)) (c : Connection) : Prop :=
  c.phase.shutsDown = true → Shows (startedByAbort hist) c.status

/-- The condition: the server resets no stream, and during the shutdown of an Abort nothing is
published and `quiche_conn_send` reports no error that changes the status. -/
def CauseMeets (c : Connection) : Act → Prop
  | .eventReset _ => False
  | .publishRequest _ => c.phase.shutsDown = true → c.status ≠ .aborting
  | .sendFailed e => c.phase.shutsDown = true → c.status = .aborting →
      convertQuicheErrorToStatus e .aborting = .aborting
  -- only in an Update in which a stream was reset
  | .idle => c.phase.shutsDown = false
  | _ => True

instance (c : Connection) (a : Act) : Decidable (CauseMeets c a) := by
  apply Act.casesOn (motive := fun a => Decidable (CauseMeets c a)) a <;> intros <;>
    (dsimp only [CauseMeets]; infer_instance)

section Cause
variable {hist : List (Connection × Act)} {c : Connection} {a : Act}

theorem startedByAbort_concat : startedByAbort (hist ++ [(c, a)]) =
    if a.turns c = some .startShutdown then a.isAbort else startedByAbort hist := by
  simp [startedByAbort]

theorem Shows.status {b : Bool} {s : QwfsStatus} (h : Shows b s) : s = .aborting ∨ s < .wait := by
  cases b with
  | true => exact .inl h
  | false => exact .inr h

theorem not_shows {b : Bool} {s : QwfsStatus} (h : s = .wait ∨ s = .connecting) : ¬ Shows b s := fun hs => by
  rcases h with rfl | rfl
  · exact hs.status.elim (by decide) (by decide)
  · exact hs.status.elim (by decide) (by decide)

/-- An action that starts a shutdown. -/
theorem visibleCause_starts (hE : Enabled c a) (ht : a.turns c = some .startShutdown) :
    VisibleCause (hist ++ [(c, a)]) (apply a c) ↔ Shows a.isAbort ((a.sets c).getD c.status) := by
  rw [VisibleCause, startedByAbort_concat, phase_apply hE, status_apply hE, ht, if_pos rfl]
  exact ⟨fun h => h rfl, fun h _ => h⟩

/-- An action that goes to a phase outside of shutdowns. -/
theorem visibleCause_leaves (hE : Enabled c a) {p : Phase} (ht : a.turns c = some p)
    (hp : p.shutsDown = false) : VisibleCause (hist ++ [(c, a)]) (apply a c) := by
  intro hp'
  rw [phase_apply hE, ht] at hp'
  exact absurd (hp.symm.trans hp') (by decide)

/-- An action that stays in its phase. -/
theorem visibleCause_stays (hE : Enabled c a) (ht : a.turns c = none) :
    VisibleCause (hist ++ [(c, a)]) (apply a c) ↔
      (c.phase.shutsDown = true → Shows (startedByAbort hist) ((a.sets c).getD c.status)) := by
  rw [VisibleCause, startedByAbort_concat, phase_apply hE, status_apply hE, ht, if_neg (by simp)]
  rfl

theorem outside {P : Prop} (hp : c.phase.shutsDown = false) : c.phase.shutsDown = true → P := fun h => by
  rw [hp] at h
  cases h

/-- Which actions hide the cause of a shutdown. -/
theorem visibleCause_apply (hE : Enabled c a) (h : VisibleCause hist c) :
    VisibleCause (hist ++ [(c, a)]) (apply a c) ↔ CauseMeets c a := by
  cases a with
  | eventReset id =>
    rw [visibleCause_starts hE rfl]
    obtain ⟨st, hd⟩ := hE
    exact iff_of_false (fun hs => (lt_wait_iff c.status).1 hs hd.status) fun hM => hM
  | publishRequest req =>
    rw [visibleCause_stays hE rfl]
    refine forall_congr' fun hp => ?_
    have hs := h hp
    simp only [Act.sets]
    split_ifs with hw
    · have hab : c.status = .aborting := hs.status.resolve_right fun hlt => (lt_wait_iff _).1 hlt hw
      exact iff_of_false (not_shows (.inr rfl)) fun hn => hn hab
    · refine iff_of_true hs fun hab => hw ?_
      rw [hab]
      decide
  | sendFailed e =>
    rw [visibleCause_stays hE rfl]
    refine forall_congr' fun hp => ?_
    have hs := h hp
    cases hb : startedByAbort hist with
    | true =>
      rw [hb] at hs
      have hab : c.status = .aborting := hs
      simp [Act.sets, Shows, hab]
    | false =>
      rw [hb] at hs
      refine iff_of_true (convert_lt e hs) fun hab => ?_
      have hlt : c.status < .wait := hs
      exact absurd hlt (by rw [hab]; decide)
  | idle =>
    rw [visibleCause_stays hE rfl]
    cases hp : c.phase.shutsDown with
    | true => exact iff_of_false (fun hs => not_shows (.inl rfl) (hs rfl)) (by simp [CauseMeets, hp])
    | false => exact iff_of_true (fun hp => by cases hp) hp
  | startShutdown =>
    refine iff_of_true ?_ trivial
    rw [VisibleCause, startedByAbort_concat]
    exact fun _ => h (by rw [show c.phase = .startShutdown from hE]; rfl)
  | recvFailed e =>
    refine iff_of_true ?_ trivial
    by_cases hs : convertQuicheErrorToStatus e c.status = .errorTls
    · rw [visibleCause_starts hE (congrArg some (if_pos hs))]
      exact (by rw [hs]; decide : convertQuicheErrorToStatus e c.status < .wait)
    · exact visibleCause_leaves hE (congrArg some (if_neg hs)) rfl
  | createSocket io =>
    refine iff_of_true ?_ trivial
    by_cases hio : io = .ok
    · exact visibleCause_leaves hE (if_pos hio) rfl
    · rw [visibleCause_stays hE (if_neg hio)]
      exact outside (by rw [show c.phase = .createSocket from hE]; rfl)
  | initializeQuiche io =>
    refine iff_of_true ?_ trivial
    by_cases hconnect : io.connect = false
    · exact visibleCause_leaves hE (if_pos hconnect) rfl
    by_cases hqlog : c.QlogOpens io
    · exact visibleCause_leaves hE ((if_neg hconnect).trans (if_pos hqlog)) rfl
    · rw [visibleCause_stays hE ((if_neg hconnect).trans (if_neg hqlog))]
      exact outside (by rw [hE.1]; rfl)
  | createUdpSocket io =>
    rw [visibleCause_stays hE rfl]
    exact iff_of_true (outside (by rw [show c.phase = .connectionMigration from hE]; rfl)) trivial
  | timeout closed =>
    refine iff_of_true ?_ trivial
    by_cases hc : c.status ≠ .aborting ∧ closed = true
    · rw [visibleCause_starts hE (if_pos hc), Act.sets, if_pos hc]
      exact (by decide : QwfsStatus.errorTimeout < .wait)
    · rw [visibleCause_stays hE (if_neg hc), Act.sets, if_neg hc]
      exact h
  | beginConnecting =>
    rw [visibleCause_stays hE rfl]
    have hw : c.status = .wait := hE
    exact iff_of_true (fun hp => absurd (h hp) (not_shows (.inl hw))) trivial
  | streamCritical st =>
    rw [visibleCause_starts hE rfl]
    exact iff_of_true (lt_wait_of_le_criticalError _ hE.2) trivial
  | abort =>
    rw [visibleCause_starts hE rfl]
    exact iff_of_true rfl trivial
  | socketFailed message =>
    rw [visibleCause_starts hE rfl]
    exact iff_of_true (by decide : QwfsStatus.errorSocket < .wait) trivial
  | handshakeFailed =>
    rw [visibleCause_starts hE rfl]
    exact iff_of_true (by decide : QwfsStatus.criticalErrorQuiche < .wait) trivial
  | connectionClosed =>
    rw [visibleCause_starts hE rfl]
    exact iff_of_true (by decide : QwfsStatus.errorConnectionClose < .wait) trivial
  | streamRetry st => exact hE.elim
  | _ =>
    first
    | exact iff_of_true (visibleCause_leaves hE rfl rfl) trivial
    | exact iff_of_true ((visibleCause_stays hE rfl).2 h) trivial

end Cause

/-- Every shutdown of a run has a visible cause, in each state it comes to, exactly if every
action meets the condition. -/
theorem visible_cause {hostName port : String} {ops : List Op} :
    (∀ hist c, (exec ops).Visits (new hostName port) hist c → VisibleCause hist c) ↔
      ∀ e ∈ (exec ops).trace (new hostName port), CauseMeets e.1 e.2 :=
  visits_iff (fun h => by cases h) fun _ _ _ hp h => visibleCause_apply (exec_enabled hp).2 h

/-- A request is under way when the server resets its stream. The shutdown begins in status
Connecting; and a request that is published during an Abort hides the Abort. -/
theorem visible_cause_reset :
    (∃ c, (exec (connectOps ++ [.publishRequest {}, .update {}, eventsOp [(0, .reset)]])).run (new "h" "443") =
      .ok ((), c) ∧ c.phase = .startShutdown ∧ c.status = .connecting) ∧
    ∃ c, (exec (connectOps ++ [.abort, .publishRequest {}])).run (new "h" "443") = .ok ((), c) ∧
      c.phase = .startShutdown ∧ c.status = .connecting :=
  ⟨⟨_, rfl, rfl, rfl⟩, _, rfl, rfl, rfl⟩

/-! ## What a pending flag is for -/

def Act.isRetry : Act → Bool
  | .retry => true
  | _ => false

/-- The status that Retry was last called in. -/
def retried (hist : List (Connection × Act)) : Option QwfsStatus :=
  hist.foldl (fun s e => if e.2.isRetry then some e.1.status else s) none

/-- The shutdown that runs is one that an Abort started. -/
def AbortRuns (hist : List (Connection × Act)) (c : Connection) : Prop :=
  c.phase.shutsDown = true ∧ startedByAbort hist = true

/-- An Abort is pending only during the shutdown it started, a Retry only in the error it was
called for. -/
structure OneShot (hist : List (Connection × Act)) (c : Connection) : Prop where
  abort : c.callAbort = true → AbortRuns hist c
  retry : c.callRetry = true → c.status < .wait ∧ retried hist = some c.status

/-- The condition while an Abort is pending: its shutdown is not cut short, and nothing else starts
one. -/
def AbortPends (c : Connection) : Act → Prop
  | .transitionConnectionMigration | .requeueStreams | .startStreamFailed | .recvFailed _ => False
  | .socketFailed _ | .streamCritical _ | .eventReset _ | .connectionClosed | .handshakeFailed => False
  -- while the status still shows the Abort, a timeout is not looked at
  | .timeout closed => c.status = .aborting ∨ closed = false
  | _ => True

/-- The condition while a Retry is pending: the error is not cleared, and no other one is set. -/
def RetryPends (c : Connection) : Act → Prop
  | .transitionConnectionMigration | .finishAbort => False
  | .sendFailed e | .recvFailed e => convertQuicheErrorToStatus e c.status = c.status
  | .socketFailed _ => c.status = .errorSocket
  | .createSocket io => io.error = some c.status
  | .createUdpSocket io => io.error = none ∨ io.error = some c.status
  | .initializeQuiche io => c.initError io = none ∨ c.initError io = some c.status
  | .handshakeFailed | .startStreamFailed | .newSourceCidFailed => c.status = .criticalErrorQuiche
  | .probePath ok => ok = true ∨ c.status = .errorConnectionMigration
  | .timeout closed => closed = false ∨ c.status = .errorTimeout
  | .streamCritical st => st.status = c.status
  | _ => True

def OneShotMeets (c : Connection) (a : Act) : Prop :=
  (c.callAbort = true → AbortPends c a) ∧ (c.callRetry = true → RetryPends c a)

instance (c : Connection) (a : Act) : Decidable (AbortPends c a) := by
  apply Act.casesOn (motive := fun a => Decidable (AbortPends c a)) a <;> intros <;>
    (dsimp only [AbortPends]; infer_instance)

instance (c : Connection) (a : Act) : Decidable (RetryPends c a) := by
  apply Act.casesOn (motive := fun a => Decidable (RetryPends c a)) a <;> intros <;>
    (dsimp only [RetryPends]; infer_instance)

instance (c : Connection) (a : Act) : Decidable (OneShotMeets c a) :=
  inferInstanceAs (Decidable ((c.callAbort = true → AbortPends c a) ∧ (c.callRetry = true → RetryPends c a)))

section OneShot
variable {hist : List (Connection × Act)} {c : Connection} {a : Act}

theorem retried_concat : retried (hist ++ [(c, a)]) = if a.isRetry then some c.status else retried hist := by
  simp [retried]

/-- An action that stays in its phase, or goes on to `WaitShutdown`. -/
theorem abortRuns_stays (hE : Enabled c a) (h : AbortRuns hist c) (hstart : a.turns c ≠ some .startShutdown)
    (hp : ((a.turns c).getD c.phase).shutsDown = true) : AbortRuns (hist ++ [(c, a)]) (apply a c) := by
  refine ⟨phase_apply hE ▸ hp, ?_⟩
  rw [startedByAbort_concat, if_neg hstart]
  exact h.2

/-- Another action starts a shutdown. -/
theorem not_abortRuns_starts (ht : a.turns c = some .startShutdown) (ha : a.isAbort = false) :
    ¬ AbortRuns (hist ++ [(c, a)]) (apply a c) := fun h => by
  have hb := h.2
  rw [startedByAbort_concat, if_pos ht, ha] at hb
  cases hb

/-- An action leaves the shutdown. -/
theorem not_abortRuns_leaves (hE : Enabled c a) {p : Phase} (ht : a.turns c = some p)
    (hp : p.shutsDown = false) : ¬ AbortRuns (hist ++ [(c, a)]) (apply a c) := fun h => by
  have hp' := h.1
  rw [phase_apply hE, ht] at hp'
  exact absurd (hp.symm.trans hp') (by decide)

/-- Which actions leave the shutdown of a pending Abort, or start another one over it. -/
theorem abortPends_apply (hE : Enabled c a) (hc : c.callAbort = true) (h : AbortRuns hist c)
    (ha : a ≠ .finishAbort) : AbortRuns (hist ++ [(c, a)]) (apply a c) ↔ AbortPends c a := by
  -- the phase functions of other phases do not run
  have hphase : ∀ p, c.phase = p → p.shutsDown = true := fun p he => he ▸ h.1
  cases a with
  | recvFailed e =>
    refine iff_of_false ?_ id
    by_cases hs : convertQuicheErrorToStatus e c.status = .errorTls
    · exact not_abortRuns_starts (congrArg some (if_pos hs)) rfl
    · exact not_abortRuns_leaves hE (congrArg some (if_neg hs)) rfl
  | transitionConnectionMigration => exact iff_of_false (not_abortRuns_leaves hE rfl rfl) id
  | requeueStreams => exact iff_of_false (not_abortRuns_leaves hE rfl rfl) id
  | startStreamFailed => exact iff_of_false (not_abortRuns_leaves hE rfl rfl) id
  | socketFailed message => exact iff_of_false (not_abortRuns_starts rfl rfl) id
  | streamCritical st => exact iff_of_false (not_abortRuns_starts rfl rfl) id
  | eventReset id => exact iff_of_false (not_abortRuns_starts rfl rfl) fun hM => hM
  | connectionClosed => exact iff_of_false (not_abortRuns_starts rfl rfl) id
  | handshakeFailed => exact iff_of_false (not_abortRuns_starts rfl rfl) id
  | timeout closed =>
    by_cases ht : c.status ≠ .aborting ∧ closed = true
    · refine iff_of_false (not_abortRuns_starts (if_pos ht) rfl) fun hM => ?_
      rcases hM with hs | hclosed
      · exact ht.1 hs
      · exact absurd (hclosed.symm.trans ht.2) (by decide)
    · have hn : (Act.timeout closed).turns c = none := if_neg ht
      refine iff_of_true (abortRuns_stays hE h (by simp [hn]) (by rw [hn]; exact h.1)) ?_
      by_cases hs : c.status = .aborting
      · exact .inl hs
      · exact .inr (by simpa using fun hclosed => ht ⟨hs, hclosed⟩)
  | abort => exact iff_of_true ⟨rfl, startedByAbort_concat.trans (if_pos rfl)⟩ trivial
  | createSocket io => exact absurd (hphase _ hE) (by decide)
  | initializeQuiche io => exact absurd (hphase _ hE.1) (by decide)
  | handshakeDone => exact absurd (hphase _ hE.1) (by decide)
  | retryStream => exact absurd (hphase _ hE.1) (by decide)
  | newSourceCidFailed => exact absurd (hphase _ hE.1) (by decide)
  | probePath ok => exact absurd (hphase _ hE.1) (by decide)
  | finishShutdown => exact absurd (hE.2.2.symm.trans hc) (by decide)
  | finishAbort => exact absurd rfl ha
  | startShutdown => exact iff_of_true (abortRuns_stays hE h (by simp [Act.turns]) rfl) trivial
  | streamRetry st => exact hE.elim
  | _ => exact iff_of_true (abortRuns_stays hE h (Option.some_ne_none _).symm h.1) trivial

/-- Which actions leave the error alone. -/
theorem retryPends_apply (hE : Enabled c a) (h : c.status < .wait) (ha : a ≠ .retryStream) :
    (apply a c).status = c.status ↔ RetryPends c a := by
  have hw : ¬ .wait ≤ c.status := (lt_wait_iff _).1 h
  have hne : ∀ s, ¬ s < .wait → ¬ s = c.status := fun s hs he => hs (he ▸ h)
  rw [status_apply hE]
  cases a with
  | publishRequest req => simp [Act.sets, hw, RetryPends]
  | abort => rcases hE.1 with hs | hs | hs <;> exact absurd hs.symm (hne _ (by decide))
  | transitionConnectionMigration => exact iff_of_false (hne .wait (by decide)) id
  | finishAbort => exact iff_of_false (hne .wait (by decide)) id
  | retryStream => exact absurd rfl ha
  | socketFailed message => exact eq_comm
  | handshakeFailed => exact eq_comm
  | startStreamFailed => exact eq_comm
  | newSourceCidFailed => exact eq_comm
  | createSocket io =>
    cases hio : io.error with
    | none => simpa [Act.sets, RetryPends, hio] using hne .wait (by decide)
    | some s => simp [Act.sets, RetryPends, hio]
  | createUdpSocket io => cases hio : io.error <;> simp [Act.sets, RetryPends, hio]
  | initializeQuiche io => cases hio : c.initError io <;> simp [Act.sets, RetryPends, hio]
  | probePath ok => cases ok <;> simp [Act.sets, RetryPends, eq_comm]
  | timeout closed =>
    have hab : c.status ≠ .aborting := fun he => hne .aborting (by decide) he.symm
    cases closed <;> simp [Act.sets, RetryPends, hab, eq_comm]
  | beginConnecting => exact absurd hE.symm (hne .wait (by decide))
  | idle => exact absurd hE.2 hw
  | connectionClosed => exact absurd hE.2.2.1 hw
  | streamRetry st => exact hE.elim
  | _ => first | exact Iff.rfl | exact iff_of_true rfl trivial

theorem callAbort_apply (hE : Enabled c a) (h : OneShot hist c) :
    ((apply a c).callAbort = true → AbortRuns (hist ++ [(c, a)]) (apply a c)) ↔
      (c.callAbort = true → AbortPends c a) := by
  by_cases hc : c.callAbort = true
  · rcases callAbort_kept (a := a) hc with rfl | hc'
    · exact iff_of_true (fun h => by cases h) fun _ => trivial
    have hne : a ≠ .finishAbort := by
      rintro rfl
      cases hc'
    have hkeep := abortPends_apply hE hc (h.abort hc) hne
    exact ⟨fun h _ => hkeep.1 (h hc'), fun h _ => hkeep.2 (h hc)⟩
  · refine iff_of_true (fun hc' => ?_) fun h => absurd h hc
    rcases callAbort_from hc' with rfl | h
    · exact ⟨rfl, startedByAbort_concat.trans (if_pos rfl)⟩
    · exact absurd h hc

theorem callRetry_apply (hE : Enabled c a) (h : OneShot hist c) :
    ((apply a c).callRetry = true → (apply a c).status < .wait ∧
      retried (hist ++ [(c, a)]) = some (apply a c).status) ↔ (c.callRetry = true → RetryPends c a) := by
  by_cases hc : c.callRetry = true
  · obtain ⟨hs, hr⟩ := h.retry hc
    rcases callRetry_kept (a := a) hc with rfl | hc'
    · exact iff_of_true (fun h => by cases h) fun _ => trivial
    have hne : a ≠ .retryStream := by
      rintro rfl
      cases hc'
    have hkeep := retryPends_apply hE hs hne
    -- another Retry is called for the same error
    have hr' : retried (hist ++ [(c, a)]) = some c.status := by
      rw [retried_concat]
      split
      · rfl
      · exact hr
    constructor
    · intro h _
      exact hkeep.1 (Option.some.inj ((h hc').2.symm.trans hr'))
    · intro h _
      rw [hkeep.2 (h hc)]
      exact ⟨hs, hr'⟩
  · refine iff_of_true (fun hc' => ?_) fun h => absurd h hc
    rcases callRetry_from hc' with rfl | h
    · exact ⟨hE, retried_concat⟩
    · exact absurd h hc

/-- Which actions leave a flag behind. -/
theorem oneShot_apply (hE : Enabled c a) (h : OneShot hist c) :
    OneShot (hist ++ [(c, a)]) (apply a c) ↔ OneShotMeets c a := by
  constructor
  · intro h'
    exact ⟨(callAbort_apply hE h).1 h'.abort, (callRetry_apply hE h).1 h'.retry⟩
  · intro hM
    exact ⟨(callAbort_apply hE h).2 hM.1, (callRetry_apply hE h).2 hM.2⟩

end OneShot

/-- No flag outlives what it was set for, in any state of a run, exactly if every action meets
the condition. -/
theorem one_shot {hostName port : String} {ops : List Op} :
    (∀ hist c, (exec ops).Visits (new hostName port) hist c → OneShot hist c) ↔
      ∀ e ∈ (exec ops).trace (new hostName port), OneShotMeets e.1 e.2 :=
  visits_iff ⟨nofun, nofun⟩ fun _ _ _ hp h => oneShot_apply (exec_enabled hp).2 h

/-- The Retry that is called after the host was not resolved is pending while the next connection
is made, and tears it down. An Abort that Reconnect cuts short stays pending. And a socket that fails
while an Abort is pending is the end of that Abort: the error is gone without a Retry. -/
theorem one_shot_resolveHost :
    (∃ c, (exec [.update { socket := .unresolved }, .retry, .update {}]).run (new "h" "443") = .ok ((), c) ∧
      c.callRetry = true ∧ c.status = .wait ∧
      ∃ c', (exec [.update {}, .update { established := true }]).run c = .ok ((), c') ∧ c'.phase = .wait ∧
        ∃ c'', (exec [.update {}]).run c' = .ok ((), c'') ∧ c''.phase = .initializing) ∧
    (∃ c, (exec (connectOps ++ [.abort, .reconnect 0 0])).run (new "h" "443") = .ok ((), c) ∧
      c.callAbort = true ∧ c.phase = .createSocket) ∧
    ∃ c, (exec (connectOps ++ [.abort, .publishRequest {},
        .update { send := [{ writeSize := 1, sendto := .failed 10054 false }] }])).run (new "h" "443") = .ok ((), c) ∧
      c.callAbort = true ∧ c.status = .errorSocket ∧
      ∃ c', (exec [.update {}, .update { closed := true }]).run c = .ok ((), c') ∧ c'.status = .wait ∧
        c'.phase = .createSocket :=
  ⟨⟨_, rfl, rfl, rfl, _, rfl, rfl, _, rfl, rfl⟩, ⟨_, rfl, rfl, rfl⟩, _, rfl, rfl, rfl, _, rfl, rfl, rfl⟩

end Nhh3
