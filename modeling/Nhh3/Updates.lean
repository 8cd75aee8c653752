import Nhh3.Api
/-!
# What an Update without errors does

When sending and receiving succeed, an Update is the function of its phase, then
the checks for a close and for quiche's timer.
-/

namespace Nhh3

open Lib Lib.Prog Connection

/-- Nothing fails in this Update: not quiche, and not the sockets. -/
structure UpdateIo.ErrorFree (io : UpdateIo) : Prop where
  send : ∀ r ∈ io.send, QuicheErr.done ≤ r.writeSize ∧ r.sendto = .ok
  recv : ∀ r ∈ io.recv, (r.recvfrom = .ok ∧ 0 ≤ r.readSize) ∨ ∃ error, r.recvfrom = .failed error true

namespace Connection
variable {c c' : Connection} {io : UpdateIo} {hist : List (Connection × Act)}

/-! ## An Update without errors -/

theorem does_sendLoop {ios : List SendIo} (h : ∀ r ∈ ios, QuicheErr.done ≤ r.writeSize ∧ r.sendto = .ok) :
    (sendLoop ios).Does c [] .ok c := by
  induction ios with
  | nil => exact Does.pure ..
  | cons r ios ih =>
    obtain ⟨⟨hsize, hsend⟩, hrest⟩ := List.forall_mem_cons.1 h
    unfold sendLoop
    split
    · exact Does.pure ..
    rw [if_neg (not_lt.2 hsize), hsend]
    exact ih hrest

theorem does_receiveLoop {ios : List RecvIo} (hq : c.quicheConnection ≠ none)
    (h : ∀ r ∈ ios, (r.recvfrom = .ok ∧ 0 ≤ r.readSize) ∨ ∃ error, r.recvfrom = .failed error true) :
    (receiveLoop ios).Does c [] .ok c := by
  induction ios with
  | nil => exact Does.pure ..
  | cons r ios ih =>
    obtain ⟨hr, hrest⟩ := List.forall_mem_cons.1 h
    unfold receiveLoop
    rcases hr with ⟨hrecv, hsize⟩ | ⟨error, hrecv⟩
    · rw [hrecv]
      refine Does.then (b := ()) (Does.get ?_) ?_
      · rw [if_neg hq]
        exact Does.pure ..
      · rw [if_neg (not_lt.2 hsize)]
        exact ih hrest
    · rw [hrecv]
      exact Does.pure ..

/-- Without errors an Update comes to its phase. -/
theorem does_update (herr : io.ErrorFree) (hq : c.quicheConnection ≠ none)
    (h : (updatePhase io).Does c hist .ok c') : (update io).Does c hist .ok c' := by
  have hsend : (send io.send).Does c [] .ok c := by
    refine Does.get ?_
    split
    · exact Does.pure ..
    · exact does_sendLoop herr.send
  have hreceive : (receive io.recv).Does c [] .ok c := by
    refine Does.get ?_
    split
    · exact Does.pure ..
    · exact does_receiveLoop hq herr.recv
  exact hsend.then (hreceive.then h)

theorem does_useConnection (hq : c.quicheConnection ≠ none) : useConnection.Does c [] () c := by
  refine Does.get ?_
  rw [if_neg hq]
  exact Does.pure ..

/-- What is left of an Update when the function of its phase has returned. -/
def checksAfter (io : UpdateIo) (result : QwfsResult) : P QwfsResult :=
  if result < .ok then pure result else
    checkConnectionClosed io.closedCheck >>= fun _ =>
      checkConnectionTimeout io.timeoutMillis io.closedTimeout >>= fun _ => pure .ok

theorem updatePhase_eq (io : UpdateIo) :
    updatePhase io = Prog.get >>= fun c => updateFunc io c.phase >>= checksAfter io := rfl

/-- An Update whose phase function fails makes no checks. -/
theorem does_updatePhase_failed {result : QwfsResult} (h : (updateFunc io c.phase).Does c hist result c')
    (hresult : result < .ok) : (updatePhase io).Does c hist result c' := by
  have hchecks : (checksAfter io result).Does c' [] result c' := by
    unfold checksAfter
    rw [if_pos hresult]
    exact Does.pure ..
  rw [updatePhase_eq]
  have hall := h.bind hchecks
  rw [List.append_nil] at hall
  exact Does.get hall

/-- The checks at the end of an Update that does not look at a close. -/
theorem does_updatePhase {c₁ : Connection} (h : (updateFunc io c.phase).Does c hist .ok c₁)
    (hclosed : c₁.phase < .wait ∨ c₁.status < .wait ∨ c₁.status = .aborting ∨ io.closedCheck = false)
    {hist' : List (Connection × Act)}
    (htimeout : (checkConnectionTimeout io.timeoutMillis io.closedTimeout).Does c₁ hist' () c') :
    (updatePhase io).Does c (hist ++ hist') .ok c' := by
  refine Does.get (h.bind ?_)
  rw [if_neg (by decide)]
  refine Does.then (b := ()) (Does.get ?_) ?_
  · split
    · exact Does.pure ..
    · rename_i hn
      simp only [not_or] at hn
      have hclosed : io.closedCheck = false := by
        rcases hclosed with h | h | h | h
        · exact absurd h hn.2.1
        · exact absurd h hn.2.2.1
        · exact absurd h hn.2.2.2
        · exact h
      rw [hclosed]
      exact Does.pure ..
  · have hend := htimeout.bind (f := fun _ => (pure .ok : P QwfsResult)) (Does.pure ..)
    rwa [List.append_nil] at hend

/-- The state in which the Update begins: the clock is read. -/
abbrev begun (io : UpdateIo) (c : Connection) : Connection := apply (Act.call (.update io)) c

theorem does_run (herr : io.ErrorFree) (hq : c.quicheConnection ≠ none)
    (h : (updatePhase io).Does (c.begun io) hist .ok c') :
    (Op.run (.update io)).Does c ((c, .call (.update io)) :: hist) () c' := by
  have hupdate := (does_update (c := c.begun io) herr hq h).bind
    (f := fun _ => (pure () : P Unit)) (Does.pure ..)
  rw [List.append_nil] at hupdate
  exact Does.perform hupdate

/-! ## The timer -/

theorem does_timer (hq : c.quicheConnection ≠ none) (hp : ¬ c.phase < .handshake)
    (hs : ¬ c.status < .wait) (closed : Bool) :
    (checkConnectionTimeout 0 closed).Does c [(c, .timeout closed)] () (apply (Act.timeout closed) c) := by
  refine Does.get ?_
  rw [if_neg (by simp only [not_or]; exact ⟨hq, hp, hs⟩)]
  exact ⟨rfl, rfl⟩

theorem does_noTimer {millis : Nat} (h : c.phase < .handshake ∨ c.status < .wait ∨ millis ≠ 0)
    (closed : Bool) : (checkConnectionTimeout millis closed).Does c [] () c := by
  refine Does.get ?_
  split
  · exact Does.pure ..
  · rename_i hn
    simp only [not_or] at hn
    have hmillis : millis ≠ 0 := by
      rcases h with h | h | h
      · exact absurd h hn.2.1
      · exact absurd h hn.2.2
      · exact h
    rw [if_neg hmillis]
    exact Does.pure ..

end Connection

end Nhh3
