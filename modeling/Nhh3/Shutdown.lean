import Nhh3.Updates
/-!
# The end of a shutdown

WaitShutdown waits until quiche reports the connection closed, which happens in
`quiche_conn_on_timeout`. But `CheckConnectionTimeout` calls it only while the
status is no error, and most shutdowns are started by an error.
-/

namespace Nhh3

open Lib Lib.Prog Connection

/-- The action calls `quiche_conn_on_timeout`. -/
def Act.onTimeout : Act → Bool
  | .timeout _ => true
  | _ => false

/-- An Update calls `quiche_conn_on_timeout`. -/
def OnTimeout (io : UpdateIo) (c : Connection) : Prop :=
  ∃ e ∈ (Op.run (.update io)).trace c, e.2.onTimeout = true

instance (io : UpdateIo) (c : Connection) : Decidable (OnTimeout io c) :=
  inferInstanceAs (Decidable (∃ e ∈ (Op.run (.update io)).trace c, e.2.onTimeout = true))

/-- Updates in which nothing fails, on an established connection that turns closed only in
`quiche_conn_on_timeout`; the flag says whether it is closed already. -/
inductive QuietRun : Connection → Bool → Connection → Prop where
  | nil {c : Connection} {closed : Bool} : QuietRun c closed c
  | update {c c₁ c' : Connection} {closed closed' : Bool} {io : UpdateIo} : io.ErrorFree →
      io.established = true → io.closed = closed → io.closedCheck = closed →
      (Op.run (.update io)).run c = .ok ((), c₁) →
      (closed' = true ↔ closed = true ∨ (OnTimeout io c ∧ io.closedTimeout = true)) →
      QuietRun c₁ closed' c' → QuietRun c closed c'

namespace Connection
variable {c c' : Connection} {io : UpdateIo}

/-! ## The two phases of a shutdown -/

theorem does_startShutdown (io : UpdateIo) : (updateFunc io .startShutdown).Does c
    [(c, .startShutdown)] .ok (apply Act.startShutdown c) :=
  ⟨rfl, rfl⟩

/-- While quiche does not report the close, WaitShutdown waits. -/
theorem does_waits (hq : c.quicheConnection ≠ none) (hest : io.established = true)
    (hclosed : io.closed = false) : (updateFunc io .waitShutdown).Does c [] .ok c := by
  refine Does.then (does_useConnection hq) ?_
  rw [if_neg (by simp [hest, hclosed])]
  exact Does.pure ..

/-- How WaitShutdown ends. -/
def closing (c : Connection) : Act := if c.callAbort then .finishAbort else .finishShutdown

/-- Once quiche reports the close, the shutdown ends. -/
theorem does_ends (hq : c.quicheConnection ≠ none) (hclosed : io.established = false ∨ io.closed = true) :
    (updateFunc io .waitShutdown).Does c [(c, c.closing)] .ok (apply c.closing c) := by
  refine Does.then (does_useConnection hq) ?_
  rw [if_pos hclosed]
  exact Does.get ⟨rfl, rfl⟩

/-- An Update that finds the shutdown neither closed nor its timer expired changes nothing. -/
theorem waitShutdown_stuck (herr : io.ErrorFree) (hest : io.established = true) (hclosed : io.closed = false)
    (hcheck : io.closedCheck = false) (hp : c.phase = .waitShutdown) (hq : c.quicheConnection ≠ none)
    (hs : c.status < .wait) :
    (Op.run (.update io)).Does c [(c, .call (.update io))] () (c.begun io) := by
  refine does_run herr hq ?_
  have hwaits : (updateFunc io c.phase).Does (c.begun io) [] .ok (c.begun io) := by
    rw [hp]
    exact does_waits hq hest hclosed
  exact does_updatePhase (c := c.begun io) hwaits (.inr (.inr (.inr hcheck)))
    (does_noTimer (c := c.begun io) (.inr (.inl hs)) _)

/-- An Update that finds the timer expired tells quiche, if the status is no error. -/
theorem waitShutdown_expires (herr : io.ErrorFree) (hest : io.established = true)
    (hclosed : io.closed = false) (hcheck : io.closedCheck = false) (htimer : io.timeoutMillis = 0)
    (hp : c.phase = .waitShutdown) (hq : c.quicheConnection ≠ none) (hs : ¬ c.status < .wait) :
    (Op.run (.update io)).Does c [(c, .call (.update io)), (c.begun io, .timeout io.closedTimeout)] ()
      (apply (Act.timeout io.closedTimeout) (c.begun io)) := by
  refine does_run herr hq ?_
  have hwaits : (updateFunc io c.phase).Does (c.begun io) [] .ok (c.begun io) := by
    rw [hp]
    exact does_waits hq hest hclosed
  have hphase : ¬ c.phase < .handshake := by rw [hp]; decide
  refine does_updatePhase (c := c.begun io) hwaits (.inr (.inr (.inr hcheck))) ?_
  rw [htimer]
  exact does_timer (c := c.begun io) hq hphase hs _

/-- An Update without errors calls `quiche_conn_on_timeout` if the status is no error. -/
theorem onTimeout_iff (herr : io.ErrorFree) (hest : io.established = true) (hclosed : io.closed = false)
    (hcheck : io.closedCheck = false) (htimer : io.timeoutMillis = 0) (hp : c.phase = .waitShutdown)
    (hq : c.quicheConnection ≠ none) : OnTimeout io c ↔ .wait ≤ c.status := by
  by_cases hs : c.status < .wait
  · have hno := waitShutdown_stuck herr hest hclosed hcheck hp hq hs
    rw [OnTimeout, hno.trace, (lt_wait_iff c.status).1 hs |> iff_false_intro]
    simp [Act.onTimeout]
  · have hyes := waitShutdown_expires herr hest hclosed hcheck htimer hp hq hs
    rw [lt_wait_iff, not_not] at hs
    rw [OnTimeout, hyes.trace]
    simp [Act.onTimeout, hs]

/-! ## A shutdown after an error -/

/-- After an error no run of Updates leaves phase WaitShutdown. -/
theorem waitShutdown_forever {closed : Bool} (h : QuietRun c closed c') (hopen : closed = false)
    (hp : c.phase = .waitShutdown) (hq : c.quicheConnection ≠ none) (hs : c.status < .wait) :
    c'.phase = .waitShutdown := by
  induction h with
  | nil => exact hp
  | @update c c₁ c' closed closed' io herr hest hclosed hcheck hrun hturn hrest ih =>
    subst hopen
    have hstuck := waitShutdown_stuck herr hest hclosed hcheck hp hq hs
    have hc₁ : c₁ = c.begun io := by
      rw [hstuck.run] at hrun
      cases hrun
      rfl
    have hno : ¬ OnTimeout io c := by
      rw [OnTimeout, hstuck.trace]
      simp [Act.onTimeout]
    have hopen : closed' = false := by
      rw [Bool.eq_false_iff]
      intro h
      rcases hturn.1 h with h | h
      · cases h
      · exact hno h.1
    subst hc₁
    exact ih hopen hp hq hs

/-! ## A shutdown without an error -/

/-- Quiche's timer has expired, and the connection turns closed. -/
def expireIo : UpdateIo := { established := true, timeoutMillis := 0, closedTimeout := true }

/-- Quiche reports the connection closed. -/
def closedIo : UpdateIo := { established := true, closed := true, closedCheck := true }

theorem expireIo_errorFree : expireIo.ErrorFree := ⟨by simp [expireIo], by simp [expireIo]⟩

theorem closedIo_errorFree : closedIo.ErrorFree := ⟨by simp [closedIo], by simp [closedIo]⟩

/-- Once quiche reports the connection closed, an Update ends the shutdown. -/
theorem waitShutdown_closes (herr : io.ErrorFree) (hclosed : io.established = false ∨ io.closed = true)
    (hp : c.phase = .waitShutdown) (hq : c.quicheConnection ≠ none)
    (hend : c.callAbort = true ∨ (c.status < .wait ∨ c.status = .aborting) ∧ io.timeoutMillis ≠ 0) :
    (Op.run (.update io)).Does c [(c, .call (.update io)), (c.begun io, c.closing)] ()
      (apply c.closing (c.begun io)) := by
  have hends := does_ends (c := c.begun io) hq hclosed
  rw [← hp] at hends
  have hclosing : (c.begun io).closing = c.closing := rfl
  rw [hclosing] at hends
  refine does_run herr hq (does_updatePhase (c := c.begun io) hends ?_ (does_noTimer ?_ _))
  · cases ha : c.callAbort with
    | true =>
      rw [closing, if_pos ha]
      exact .inl (by decide : Phase.createSocket < .wait)
    | false =>
      rw [closing, if_neg (by simp [ha])]
      rcases hend with h | ⟨hs | hs, -⟩
      · simp [ha] at h
      · exact .inr (.inl hs)
      · exact .inr (.inr (.inl hs))
  · cases ha : c.callAbort with
    | true =>
      rw [closing, if_pos ha]
      exact .inl (by decide : Phase.createSocket < .handshake)
    | false => exact .inr (.inr (hend.resolve_left (by simp [ha])).2)

theorem waitShutdown_ends (hp : c.phase = .waitShutdown) (hq : c.quicheConnection ≠ none)
    (hs : c.status < .wait ∨ c.status = .aborting) :
    ∃ c', QuietRun c true c' ∧ (c'.phase = .wait ∨ c'.phase = .createSocket) := by
  have hrun := waitShutdown_closes closedIo_errorFree (.inr rfl) hp hq (.inr ⟨hs, by decide⟩)
  refine ⟨_, .update closedIo_errorFree rfl rfl rfl hrun.run (iff_of_true rfl (.inl rfl)) .nil, ?_⟩
  unfold closing
  split
  · exact .inr rfl
  · exact .inl rfl

/-- The first Update of a shutdown stops the streams. -/
theorem startShutdown_ends (hp : c.phase = .startShutdown) (hq : c.quicheConnection ≠ none)
    (hs : c.status < .wait) : ∃ c', QuietRun c true c' ∧ (c'.phase = .wait ∨ c'.phase = .createSocket) := by
  have hstart := does_startShutdown (c := c.begun closedIo) closedIo
  rw [← hp] at hstart
  have hrun := does_run closedIo_errorFree hq
    (does_updatePhase (c := c.begun closedIo) hstart (.inr (.inl hs))
      (does_noTimer (c := apply Act.startShutdown (c.begun closedIo)) (.inr (.inl hs)) _))
  obtain ⟨c', hquiet, hc'⟩ := waitShutdown_ends
    (c := apply Act.startShutdown (c.begun closedIo)) rfl hq (.inl hs)
  exact ⟨c', .update closedIo_errorFree rfl rfl rfl hrun.run (iff_of_true rfl (.inl rfl)) hquiet, hc'⟩

/-- A shutdown whose status is no error ends: the timer closes the connection. -/
theorem waitShutdown_finishes (hp : c.phase = .waitShutdown) (hq : c.quicheConnection ≠ none)
    (hs : .wait ≤ c.status) :
    ∃ c', QuietRun c false c' ∧ (c'.phase = .wait ∨ c'.phase = .createSocket) := by
  have hexp := waitShutdown_expires expireIo_errorFree rfl rfl rfl rfl hp hq
    (fun h => (lt_wait_iff _).1 h hs)
  have htimeout : OnTimeout expireIo c := (onTimeout_iff expireIo_errorFree rfl rfl rfl rfl hp hq).2 hs
  suffices hrest : ∃ c', QuietRun (apply (Act.timeout expireIo.closedTimeout) (c.begun expireIo)) true c' ∧
      (c'.phase = .wait ∨ c'.phase = .createSocket) by
    obtain ⟨c', hquiet, hc'⟩ := hrest
    exact ⟨c', .update expireIo_errorFree rfl rfl rfl hexp.run (iff_of_true rfl (.inr ⟨htimeout, rfl⟩))
      hquiet, hc'⟩
  by_cases ha : c.status = .aborting
  · -- the timeout of an aborted connection is no error, and the phase stays
    have hstay : apply (Act.timeout expireIo.closedTimeout) (c.begun expireIo) = c.begun expireIo := by
      simp only [apply]
      exact if_neg fun h => h.1 ha
    rw [hstay]
    exact waitShutdown_ends (c := c.begun expireIo) hp hq (.inr ha)
  · -- any other starts another shutdown, with status ErrorTimeout
    have hagain : apply (Act.timeout expireIo.closedTimeout) (c.begun expireIo) =
        ((c.begun expireIo).setPhase .startShutdown).setStatus .errorTimeout
          (some "Connection close") := by
      simp only [apply]
      exact if_pos ⟨ha, rfl⟩
    rw [hagain]
    exact startShutdown_ends rfl hq (by decide : QwfsStatus.errorTimeout < .wait)

end Connection

open Connection

/-- A shutdown can finish exactly if its status is no error: then an Update that finds the timer
expired calls `quiche_conn_on_timeout`, and Updates lead to phase Wait or CreateSocket. -/
theorem shutdown_finishes {c : Connection} (hp : c.phase = .waitShutdown) (hq : c.quicheConnection ≠ none) :
    (∀ io : UpdateIo, io.ErrorFree → io.established = true → io.closed = false → io.closedCheck = false →
      io.timeoutMillis = 0 → (OnTimeout io c ↔ .wait ≤ c.status)) ∧
    ((∃ c', QuietRun c false c' ∧ (c'.phase = .wait ∨ c'.phase = .createSocket)) ↔ .wait ≤ c.status) := by
  constructor
  · intro io herr hest hclosed hcheck htimer
    exact onTimeout_iff herr hest hclosed hcheck htimer hp hq
  constructor
  · rintro ⟨c', hquiet, hc'⟩
    by_contra hs
    rw [← lt_wait_iff] at hs
    have hforever := waitShutdown_forever hquiet rfl hp hq hs
    rw [hforever] at hc'
    simp at hc'
  · exact waitShutdown_finishes hp hq

/-- After an Abort. -/
theorem shutdown_finishes_abort : ∃ c,
    (exec (connectOps ++ [.abort, .update { established := true }])).run (Connection.new "h" "443") =
      .ok ((), c) ∧
    (∀ io : UpdateIo, io.ErrorFree → io.established = true → io.closed = false → io.closedCheck = false →
      io.timeoutMillis = 0 → (OnTimeout io c ↔ .wait ≤ c.status)) ∧
    ((∃ c', QuietRun c false c' ∧ (c'.phase = .wait ∨ c'.phase = .createSocket)) ↔ .wait ≤ c.status) :=
  ⟨_, rfl, shutdown_finishes rfl nofun⟩

/-- The call `sendto` fails, and the shutdown that this starts never calls `quiche_conn_on_timeout`. -/
theorem shutdown_finishes_sendto : ∃ c,
    (exec (connectOps ++ [.update { send := [{ writeSize := 100, sendto := .failed 1 false }] },
      .update { established := true }])).run (Connection.new "h" "443") = .ok ((), c) ∧
    c.phase = .waitShutdown ∧ c.quicheConnection ≠ none ∧
    ¬ OnTimeout { established := true, timeoutMillis := 0 } c ∧
    ∀ c', QuietRun c false c' → c'.phase = .waitShutdown :=
  ⟨_, rfl, rfl, nofun, by decide, fun _ h => waitShutdown_forever h rfl rfl nofun (by decide)⟩

end Nhh3
