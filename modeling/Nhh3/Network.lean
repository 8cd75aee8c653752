import Nhh3.Updates
/-!
# A busy or noisy network

A socket that would block is the end of the packets for `Receive`, but a failure for
`Send`. And a code of quiche that leaves the status as it is still takes `Receive` to
phase Wait, out of a handshake or a shutdown.
-/

namespace Nhh3

open Lib Lib.Prog Connection

/-! ## What the network does -/

/-- The socket takes or gives all of a packet, or would block. -/
def SockIo.Busy (io : SockIo) : Prop := io = .ok ∨ ∃ error, io = .failed error true

/-- A call of quiche succeeds, or returns a code that is converted to the current status. -/
def Tolerated (status : QwfsStatus) (code : Int) : Prop :=
  0 ≤ code ∨ convertQuicheErrorToStatus code status = status

theorem tolerated_code {code : Int} (status : QwfsStatus)
    (h : code ∈ [QuicheErr.done, QuicheErr.flowControl, QuicheErr.finalSize, QuicheErr.congestionControl]) :
    Tolerated status code := .inr (if_pos h)

/-- The network in one Update, in this status. -/
structure UpdateIo.Busy (io : UpdateIo) (status : QwfsStatus) : Prop where
  send : ∀ r ∈ io.send, Tolerated status r.writeSize ∧ r.sendto.Busy
  recv : ∀ r ∈ io.recv, Tolerated status r.readSize ∧ r.recvfrom.Busy

/-- How the loop of `Send` ends: quiche has nothing more to send or gives a code, or the socket
does not take a packet. -/
inductive SendEnd where
  | done | refused | blocked
  deriving DecidableEq, Repr

def sendEnd : List SendIo → SendEnd
  | [] => .done
  | io :: ios =>
    if io.writeSize = QuicheErr.done then .done
    else if io.writeSize < QuicheErr.done then .refused
    else
      match io.sendto with
      | .ok => sendEnd ios
      | .failed _ _ => .blocked

/-- The loop of `Receive` comes to a packet that quiche does not take. -/
def rejected : List RecvIo → Bool
  | [] => false
  | io :: ios =>
    match io.recvfrom with
    | .failed _ _ => false
    | .ok => if 0 > io.readSize then true else rejected ios

/-- The phase in which `Receive` leaves the connection then. -/
def rejectedPhase (status : QwfsStatus) : Phase := if status = .errorTls then .startShutdown else .wait

namespace Connection
variable {c c' : Connection}

/-! ## The two loops -/

theorem sendFailed_keeps {error : Int} (h : convertQuicheErrorToStatus error c.status = c.status) :
    (apply (Act.sendFailed error) c).phase = c.phase ∧ (apply (Act.sendFailed error) c).status = c.status :=
  ⟨rfl, h⟩

theorem recvFailed_rejected {error : Int} (h : convertQuicheErrorToStatus error c.status = c.status) :
    (apply (Act.recvFailed error) c).phase = rejectedPhase c.status ∧
      (apply (Act.recvFailed error) c).status = c.status := by
  simp only [apply, setStatus, h, rejectedPhase]
  split
  · exact ⟨rfl, rfl⟩
  · exact ⟨rfl, rfl⟩

theorem sendLoop_busy {ios : List SendIo} (h : ∀ r ∈ ios, Tolerated c.status r.writeSize ∧ r.sendto.Busy) :
    (sendEnd ios = .done ∧ (sendLoop ios).run c = .ok (.ok, c)) ∨
    (sendEnd ios = .refused ∧ ∃ error, convertQuicheErrorToStatus error c.status = c.status ∧
      (sendLoop ios).run c = .ok (convertStatusToResult c.status, apply (Act.sendFailed error) c)) ∨
    (sendEnd ios = .blocked ∧ ∃ message,
      (sendLoop ios).run c = .ok (.error, apply (Act.socketFailed message) c)) := by
  induction ios with
  | nil => exact .inl ⟨rfl, rfl⟩
  | cons r ios ih =>
    obtain ⟨⟨hcode, hsendto⟩, hrest⟩ := List.forall_mem_cons.1 h
    unfold sendEnd sendLoop
    by_cases hdone : r.writeSize = QuicheErr.done
    · rw [if_pos hdone, if_pos hdone]
      exact .inl ⟨rfl, rfl⟩
    rw [if_neg hdone, if_neg hdone]
    by_cases hless : r.writeSize < QuicheErr.done
    · rw [if_pos hless, if_pos hless]
      have hstatus : convertQuicheErrorToStatus r.writeSize c.status = c.status := by
        refine hcode.resolve_left fun hpos => ?_
        unfold QuicheErr.done at hless
        omega
      refine .inr (.inl ⟨rfl, r.writeSize, hstatus, ?_⟩)
      show Except.ok (convertStatusToResult (apply (Act.sendFailed r.writeSize) c).status, _) = _
      rw [(sendFailed_keeps hstatus).2]
    rw [if_neg hless, if_neg hless]
    rcases hsendto with hok | ⟨error, hblocked⟩
    · rw [hok]
      exact ih hrest
    · rw [hblocked]
      exact .inr (.inr ⟨rfl, _, rfl⟩)

theorem receiveLoop_busy {ios : List RecvIo} (hq : c.quicheConnection ≠ none)
    (h : ∀ r ∈ ios, Tolerated c.status r.readSize ∧ r.recvfrom.Busy) :
    (rejected ios = false ∧ (receiveLoop ios).run c = .ok (.ok, c)) ∨
    (rejected ios = true ∧ ∃ error result, convertQuicheErrorToStatus error c.status = c.status ∧
      (receiveLoop ios).run c = .ok (result, apply (Act.recvFailed error) c)) := by
  induction ios with
  | nil => exact .inl ⟨rfl, rfl⟩
  | cons r ios ih =>
    obtain ⟨⟨hcode, hrecvfrom⟩, hrest⟩ := List.forall_mem_cons.1 h
    unfold rejected receiveLoop
    rcases hrecvfrom with hok | ⟨error, hblocked⟩
    · rw [hok]
      dsimp only
      rw [run_bind, (does_useConnection hq).run]
      dsimp only
      by_cases hneg : 0 > r.readSize
      · rw [if_pos hneg, if_pos hneg]
        have hstatus := hcode.resolve_left (Int.not_le.2 hneg)
        exact .inr ⟨rfl, r.readSize, _, hstatus, rfl⟩
      · rw [if_neg hneg, if_neg hneg]
        exact ih hrest
    · rw [hblocked]
      exact .inl ⟨rfl, rfl⟩

/-! ## One Update -/

/-- `Send` and `Receive`, as an Update calls them. -/
def transfer (io : UpdateIo) : P QwfsResult := do
  let result ← send io.send
  if result ≠ .ok then return result
  else receive io.recv

theorem run_update_transfer (io : UpdateIo) (c : Connection) : (update io).run c =
    (transfer io >>= fun result => if result ≠ .ok then recover io.availableDcids else updatePhase io).run c := by
  unfold update transfer
  rw [run_bind, run_bind, run_bind]
  cases (send io.send).run c with
  | error e => rfl
  | ok r =>
    dsimp only
    by_cases hr : r.1 ≠ .ok
    · rw [if_pos hr, if_pos hr]
      show _ = (if r.1 ≠ .ok then recover io.availableDcids else updatePhase io).run r.2
      rw [if_pos hr]
    · rw [if_neg hr, if_neg hr, run_bind]

/-- What the network does in this Update changes neither the phase nor the status. -/
def Undisturbed (io : UpdateIo) (c : Connection) : Prop :=
  ∃ result c', (transfer io).run c = .ok (result, c') ∧ c'.phase = c.phase ∧ c'.status = c.status

/-- `Send` ends without an error, so that the Update goes on to `Receive`. -/
def Receives (io : UpdateIo) (status : QwfsStatus) : Prop :=
  sendEnd io.send = .done ∨ sendEnd io.send = .refused ∧ convertStatusToResult status = .ok

/-- The condition: the connection is in the state that a socket error of `Send` leads to, if it comes to
one, and in the phase that `Receive` goes to, if quiche does not take a packet. -/
def Spared (io : UpdateIo) (c : Connection) : Prop :=
  (sendEnd io.send = .blocked → c.phase = .startShutdown ∧ c.status = .errorSocket) ∧
    (Receives io c.status → rejected io.recv = true → c.phase = rejectedPhase c.status)

/-- A state that `Send` leaves as it was for `Receive`. -/
structure SendKept (c c₁ : Connection) : Prop where
  sock : c₁.sock = c.sock
  quic : c₁.quicheConnection = c.quicheConnection
  phase : c₁.phase = c.phase
  status : c₁.status = c.status

theorem receive_undisturbed {c₁ : Connection} {ios : List RecvIo} (hsock : c.sock = true)
    (hq : c.quicheConnection ≠ none) (h : ∀ r ∈ ios, Tolerated c.status r.readSize ∧ r.recvfrom.Busy)
    (hd : SendKept c c₁) : ∃ result c', (receive ios).run c₁ = .ok (result, c') ∧
      (c'.phase = c.phase ∧ c'.status = c.status ↔ (rejected ios = true → c.phase = rejectedPhase c.status)) := by
  have hrun : (receive ios).run c₁ = (receiveLoop ios).run c₁ := by
    show (if c₁.sock = false then _ else _ : P QwfsResult).run c₁ = _
    rw [if_neg (by simp [hd.sock, hsock])]
  rw [hrun]
  rw [← hd.status] at h ⊢
  rw [← hd.phase]
  rw [← hd.quic] at hq
  rcases receiveLoop_busy hq h with ⟨hno, hrun⟩ | ⟨hyes, error, result, hcode, hrun⟩
  · exact ⟨_, _, hrun, iff_of_true ⟨rfl, rfl⟩ (by simp [hno])⟩
  · obtain ⟨hphase, hstatus⟩ := recvFailed_rejected hcode
    refine ⟨_, _, hrun, ?_⟩
    rw [hphase, hstatus]
    simp only [hyes, and_true, forall_const, eq_comm]

theorem undisturbed_iff {io : UpdateIo} {result : QwfsResult} (hrun : (transfer io).run c = .ok (result, c')) :
    Undisturbed io c ↔ c'.phase = c.phase ∧ c'.status = c.status := by
  constructor
  · rintro ⟨_, _, hrun', hkeeps⟩
    cases hrun.symm.trans hrun'
    exact hkeeps
  · intro hkeeps
    exact ⟨result, c', hrun, hkeeps⟩

theorem run_send {ios : List SendIo} (hsock : c.sock = true) (hq : c.quicheConnection ≠ none) :
    (send ios).run c = (sendLoop ios).run c := by
  show (if c.sock = false ∨ c.quicheConnection = none then _ else _ : P QwfsResult).run c = _
  rw [if_neg (by simp [hsock, hq])]

/-- The Update goes on to `Receive`. -/
theorem transfer_receives {io : UpdateIo} {c₁ : Connection} (hsock : c.sock = true)
    (hq : c.quicheConnection ≠ none) (hrecv : ∀ r ∈ io.recv, Tolerated c.status r.readSize ∧ r.recvfrom.Busy)
    (hd : SendKept c c₁) (hsend : (send io.send).run c = .ok (.ok, c₁)) :
    Undisturbed io c ↔ (rejected io.recv = true → c.phase = rejectedPhase c.status) := by
  obtain ⟨result, c', hrun, hiff⟩ := receive_undisturbed hsock hq hrecv hd
  have htransfer : (transfer io).run c = .ok (result, c') := by
    rw [transfer, run_bind, hsend]
    exact hrun
  exact (undisturbed_iff htransfer).trans hiff

/-- The Update ends with the error of `Send`. -/
theorem transfer_stops {io : UpdateIo} {result : QwfsResult} (hr : result ≠ .ok)
    (hsend : (send io.send).run c = .ok (result, c')) :
    Undisturbed io c ↔ c'.phase = c.phase ∧ c'.status = c.status := by
  have htransfer : (transfer io).run c = .ok (result, c') := by
    rw [transfer, run_bind, hsend]
    dsimp only
    rw [if_pos hr]
    rfl
  exact undisturbed_iff htransfer

end Connection

/-- A busy or noisy network leaves phase and status alone exactly if `Send` meets no socket that would
block, and no packet that quiche does not take finds the connection in another phase than `Receive`
goes to; or it already is where that would take it. -/
theorem network_undisturbed {c : Connection} {io : UpdateIo} (hsock : c.sock = true)
    (hq : c.quicheConnection ≠ none) (hbusy : io.Busy c.status) : Undisturbed io c ↔ Spared io c := by
  have hsends := sendLoop_busy hbusy.send
  rw [← run_send hsock hq] at hsends
  rcases hsends with ⟨hend, hrun⟩ | ⟨hend, error, hcode, hrun⟩ | ⟨hend, message, hrun⟩
  · have hreceives : Receives io c.status := .inl hend
    rw [transfer_receives hsock hq hbusy.recv ⟨rfl, rfl, rfl, rfl⟩ hrun, Spared, hend]
    simp [hreceives]
  · obtain ⟨hphase, hstatus⟩ := sendFailed_keeps hcode
    by_cases hok : convertStatusToResult c.status = .ok
    · have hd : SendKept c (apply (Act.sendFailed error) c) := ⟨rfl, rfl, hphase, hstatus⟩
      have hreceives : Receives io c.status := .inr ⟨hend, hok⟩
      rw [hok] at hrun
      rw [transfer_receives hsock hq hbusy.recv hd hrun, Spared, hend]
      simp [hreceives]
    · have hreceives : ¬ Receives io c.status := by
        rintro (hdone | ⟨-, hok'⟩)
        · cases hend.symm.trans hdone
        · exact hok hok'
      rw [transfer_stops hok hrun, Spared, hend]
      simp [hreceives, hphase, hstatus]
  · have hreceives : ¬ Receives io c.status := by
      rintro (hdone | ⟨hrefused, -⟩)
      · cases hend.symm.trans hdone
      · cases hend.symm.trans hrefused
    rw [transfer_stops (by decide) hrun]
    constructor
    · rintro ⟨hphase, hstatus⟩
      exact ⟨fun _ => ⟨hphase.symm, hstatus.symm⟩, fun h => absurd h hreceives⟩
    · rintro ⟨hblocked, -⟩
      obtain ⟨hphase, hstatus⟩ := hblocked hend
      exact ⟨hphase.symm, hstatus.symm⟩

/-- Quiche is held back by the flow control, and the socket has one packet. -/
def noisyIo : UpdateIo where
  send := [{ writeSize := 1200 }, { writeSize := QuicheErr.flowControl }]
  recv := [{ readSize := 40 }, { recvfrom := .failed 11 true }]

theorem busy_noisyIo (status : QwfsStatus) : noisyIo.Busy status := by
  have hsend : Tolerated status 1200 := .inl (by decide)
  have hcode : Tolerated status QuicheErr.flowControl := tolerated_code status (by decide)
  have hrecv : Tolerated status 40 := .inl (by decide)
  constructor
  · simp only [noisyIo, List.forall_mem_cons]
    exact ⟨⟨hsend, .inl rfl⟩, ⟨hcode, .inl rfl⟩, fun _ h => absurd h List.not_mem_nil⟩
  · simp only [noisyIo, List.forall_mem_cons]
    exact ⟨⟨hrecv, .inl rfl⟩, ⟨.inl (by decide), .inr ⟨11, rfl⟩⟩, fun _ h => absurd h List.not_mem_nil⟩

/-- A connection in phase Wait. -/
def connected : Connection := after (new "h" "443") ((exec connectOps).trace (new "h" "443"))

theorem network_undisturbed_noisy : (exec connectOps).run (new "h" "443") = .ok ((), connected) ∧
    Undisturbed noisyIo connected := by
  have hq : connected.quicheConnection ≠ none := nofun
  refine ⟨rfl, (network_undisturbed rfl hq (busy_noisyIo _)).2 ⟨fun hblocked => ?_, fun _ hrejected => ?_⟩⟩
  · exact absurd hblocked (by decide)
  · exact absurd hrejected (by decide)

/-- The socket would block. -/
def blockedIo : UpdateIo := { send := [{ writeSize := 1200, sendto := .failed 11 true }] }

/-- Quiche is done with a packet. -/
def doneIo : UpdateIo := { recv := [{ readSize := QuicheErr.done }] }

/-- In phase Wait a socket that would block starts a shutdown; and in the handshake `QUICHE_ERR_DONE`
leads to phase Wait. -/
theorem network_undisturbed_not :
    ((exec connectOps).run (new "h" "443") = .ok ((), connected) ∧ connected.sock = true ∧
      connected.quicheConnection ≠ none ∧ blockedIo.Busy connected.status ∧ ¬ Undisturbed blockedIo connected) ∧
    ∃ c, (exec [.update {}, .update {}]).run (new "h" "443") = .ok ((), c) ∧ c.sock = true ∧
      c.quicheConnection ≠ none ∧ c.phase = .handshake ∧ doneIo.Busy c.status ∧ ¬ Undisturbed doneIo c := by
  constructor
  · refine ⟨rfl, rfl, nofun, ⟨?_, fun _ h => absurd h List.not_mem_nil⟩, ?_⟩
    · simp only [blockedIo, List.forall_mem_cons]
      exact ⟨⟨.inl (by decide), .inr ⟨11, rfl⟩⟩, fun _ h => absurd h List.not_mem_nil⟩
    · rintro ⟨_, c', hrun, hphase, -⟩
      cases hrun
      cases hphase
  · refine ⟨_, rfl, rfl, nofun, rfl, ⟨fun _ h => absurd h List.not_mem_nil, ?_⟩, ?_⟩
    · simp only [doneIo, List.forall_mem_cons]
      exact ⟨⟨tolerated_code _ (by decide), .inl rfl⟩, fun _ h => absurd h List.not_mem_nil⟩
    · rintro ⟨_, c', hrun, hphase, -⟩
      cases hrun
      cases hphase

end Nhh3
