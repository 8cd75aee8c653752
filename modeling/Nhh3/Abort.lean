import Nhh3.Requests
import Nhh3.Shutdown
/-!
# What Abort leaves behind

`qwfs::Abort` empties the containers and starts a shutdown, which WaitShutdown
ends in phase CreateSocket because `_callAbort` stays set until then. But it
looks at the status first, and does nothing after an error.
-/

namespace Nhh3

open Lib Lib.Prog Connection

/-- `qwfs::Abort` takes effect: the status is Wait, Connecting or Completed, and there is a
connection to close. -/
def Abortable (c : Connection) : Prop :=
  (c.status = .wait ∨ c.status = .connecting ∨ c.status = .completed) ∧ c.quicheConnection ≠ none

instance (c : Connection) : Decidable (Abortable c) :=
  inferInstanceAs (Decidable (_ ∧ c.quicheConnection ≠ none))

/-- The end of an aborted shutdown. -/
def Act.finishesAbort : Act → Bool
  | .finishAbort => true
  | _ => false

namespace Connection
variable {c c' : Connection}

theorem does_qwfsAbort (h : Abortable c) : qwfsAbort.Does c [(c, .abort)] .ok c.abort := by
  refine Does.get ?_
  rw [if_pos h.1]
  exact Does.then (does_useConnection h.2) ⟨rfl, rfl⟩

/-- Without effect, the function changes nothing. -/
theorem qwfsAbort_ignored {result : QwfsResult} (h : ¬ Abortable c)
    (hrun : qwfsAbort.run c = .ok (result, c')) : c' = c := by
  have hread : qwfsAbort.run c = (if c.status = .wait ∨ c.status = .connecting ∨ c.status = .completed then
      useConnection >>= fun _ => perform .abort >>= fun _ => pure .ok else pure .ok : P QwfsResult).run c := rfl
  rw [hread] at hrun
  split_ifs at hrun with hs
  · -- quiche is given the null connection
    have hq : c.quicheConnection = none := by
      by_contra hq
      exact h ⟨hs, hq⟩
    have hfail : useConnection.run c = .error .nullHandle := by
      show (if c.quicheConnection = none then fail .nullHandle else pure () : P Unit).run c = _
      rw [if_pos hq]
      rfl
    rw [run_bind, hfail] at hrun
    cases hrun
  · cases hrun
    rfl

theorem does_abort (h : Abortable c) : (Op.run .abort).Does c
    [(c, .call .abort), (apply (Act.call .abort) c, .abort)] () (apply (Act.call .abort) c).abort := by
  have hbody := does_qwfsAbort (c := apply (Act.call .abort) c) h
  exact Does.perform (hbody.bind (f := fun _ => (pure () : P Unit)) (Does.pure ..))

theorem abort_ignored (h : ¬ Abortable c) (hrun : (Op.run .abort).run c = .ok ((), c')) : c' = c := by
  have hbody : (qwfsAbort >>= fun _ => pure () : P Unit).run (apply (Act.call .abort) c) = .ok ((), c') := hrun
  rw [run_bind] at hbody
  cases hq : qwfsAbort.run (apply (Act.call .abort) c) with
  | error e => simp [hq] at hbody
  | ok r =>
    rw [hq] at hbody
    cases hbody
    exact qwfsAbort_ignored (c := apply (Act.call .abort) c) h hq

/-- The flag stays set until the shutdown ends. -/
theorem callAbort_run {ops : List Op} (hrun : (exec ops).run c = .ok ((), c')) (h : c.callAbort = true)
    (hend : ∀ e ∈ (exec ops).trace c, e.2.finishesAbort = false) : c'.callAbort = true := by
  refine visits_inv (J := fun _ c => c.callAbort = true) h ?_ (visits_end hrun)
  intro hist c a hp ha
  rcases callAbort_kept (a := a) ha with rfl | ha'
  · cases hend _ hp.mem
  · exact ha'

end Connection

/-- In every reachable state in which `qwfs::Abort` takes effect, it discards everything. -/
theorem abort_discards {hostName port : String} {ops : List Op} {c : Connection}
    (hrun : (exec ops).run (new hostName port) = .ok ((), c)) :
    (Abortable c → ∃ c', (Op.run .abort).run c = .ok ((), c') ∧ c'.h3Streams = [] ∧
      c'.h3StreamsMap = ∅ ∧ c'.h3StreamsStock = [] ∧ c'.h3StreamsErrorStock = [] ∧
      ∀ ops',
        (∀ hist c₁ a st, (exec ops').Performs c' hist c₁ a → a = .success st ∨ a = .error st →
          st.ticket ∉ issued ((exec ops).trace (new hostName port))) ∧
        ∀ c₁, (exec ops').run c' = .ok ((), c₁) →
          (∀ e ∈ (exec ops').trace c', e.2.finishesAbort = false) →
          c₁.phase = .waitShutdown → c₁.quicheConnection ≠ none → ∀ io : UpdateIo, io.ErrorFree →
          io.established = false ∨ io.closed = true →
          ∃ c₂, (Op.run (.update io)).run c₁ = .ok ((), c₂) ∧ c₂.phase = .createSocket ∧ c₂.status = .wait) ∧
    (¬ Abortable c → ∀ c', (Op.run .abort).run c = .ok ((), c') → c' = c) := by
  refine ⟨fun h => ?_, fun h c' hrun' => abort_ignored h hrun'⟩
  have habort := does_abort h
  refine ⟨_, habort.run, rfl, rfl, rfl, rfl, fun ops' => ⟨?_, ?_⟩⟩
  · intro hist c₁ a st hp ha hissued
    have hdone := session_concat Op.run hrun habort
    have hp' := session_continues Op.run hdone.run hp
    have hactive : st ∈ c₁.h3Streams := by
      rcases ha with rfl | rfl
      · exact (exec_enabled hp').2.1
      · exact (exec_enabled hp').2.1
    have hearlier : st.ticket ∈ issued ((exec (ops ++ [.abort])).trace (new hostName port)) := by
      rw [hdone.trace, issued, List.filterMap_append]
      exact List.mem_append_left _ hissued
    have hbins := empty_bins (visits_end hdone.run) rfl hearlier
    refine bins_gone hp'.visits ?_ (mem_streams.2 (.inl hactive)) rfl
    rcases hbins with hb | hb
    · exact .inl (by simp only [delivered, List.filterMap_append]; exact List.mem_append_left _ hb)
    · exact .inr (by simp only [discarded, List.flatMap_append]; exact List.mem_append_left _ hb)
  · intro c₁ hrun₁ hend hp hq io herr hclosed
    have hcall := callAbort_run hrun₁ rfl hend
    have hcloses := waitShutdown_closes herr hclosed hp hq (.inl hcall)
    refine ⟨_, hcloses.run, ?_, ?_⟩
    all_goals
      rw [closing, if_pos hcall]
      rfl

/-- An Abort of a request under way: no callback is issued for it any more. -/
theorem abort_discards_connecting : ∃ c c',
    (exec (connectOps ++ [.publishRequest {}, .update {}])).run (new "h" "443") = .ok ((), c) ∧
    (Op.run .abort).run c = .ok ((), c') ∧ c'.h3Streams = [] ∧
    ∀ ops' hist c₁ a st, (exec ops').Performs c' hist c₁ a → a = .success st ∨ a = .error st →
      st.ticket ∉ issued ((exec (connectOps ++ [.publishRequest {}, .update {}])).trace (new "h" "443")) := by
  have hrun : (exec (connectOps ++ [.publishRequest {}, .update {}])).run (new "h" "443") =
      .ok ((), _) := rfl
  obtain ⟨c', habort, hactive, -, -, -, hlater⟩ := (abort_discards hrun).1 ⟨by decide, nofun⟩
  exact ⟨_, c', hrun, habort, hactive, fun ops' => (hlater ops').1⟩

/-- After an error the requests are kept for a Retry, and Abort leaves them there. -/
theorem abort_discards_error : ∃ c c',
    (exec (connectOps ++ [.publishRequest {}, .update {},
      .update { send := [{ writeSize := 100, sendto := .failed 1 false }] },
      .update { established := true }, .update {}])).run (new "h" "443") = .ok ((), c) ∧
    c.phase = .wait ∧ c.callAbort = false ∧
    (Op.run .abort).run c = .ok ((), c') ∧ c'.h3StreamsErrorStock ≠ [] :=
  ⟨_, _, rfl, rfl, rfl, rfl, nofun⟩

end Nhh3
