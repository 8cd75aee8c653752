import Nhh3.Migration
/-!
# How a migration attempt ends

`UpdatePhaseConnectionMigration` looks at the status after `CreateUdpSocket`, which
sets it when it fails but does not clear it when it succeeds. One name resolution that
failed is then seen in every later attempt. When the time is up the connection is only
left if quiche reports it closed.
-/

namespace Nhh3

open Lib Lib.Prog Connection

namespace Connection
variable {c c₁ c' : Connection} {io : UpdateIo} {hist : List (Connection × Act)}

/-! ## One attempt -/

/-- The state once the socket of this Update was asked for. -/
abbrev attempted (io : UpdateIo) (c : Connection) : Connection :=
  apply (Act.createUdpSocket io.socket) (c.begun io)

theorem attempted_status (io : UpdateIo) (c : Connection) :
    (c.attempted io).status = io.socket.error.getD c.status := by
  unfold attempted
  cases io.socket <;> rfl

theorem attempted_frame (io : UpdateIo) (c : Connection) : (c.attempted io).phase = c.phase ∧
    (c.attempted io).startTime = c.startTime ∧ (c.attempted io).clock = io.now ∧
    (c.attempted io).quicheConnection = c.quicheConnection := by
  unfold attempted
  cases io.socket <;> exact ⟨rfl, rfl, rfl, rfl⟩

theorem attempted_connection (hq : c.quicheConnection ≠ none) : (c.attempted io).quicheConnection ≠ none := by
  rw [(attempted_frame io c).2.2.2]
  exact hq

theorem sockets_errorFree (herr : io.ErrorFree) (hq : c.quicheConnection ≠ none) :
    (send io.send).Does (c.begun io) [] .ok (c.begun io) ∧
      (receive io.recv).Does (c.begun io) [] .ok (c.begun io) := by
  constructor
  · refine Does.get ?_
    split
    · exact Does.pure ..
    · exact does_sendLoop herr.send
  · refine Does.get ?_
    split
    · exact Does.pure ..
    · exact does_receiveLoop hq herr.recv

theorem run_update_errorFree (herr : io.ErrorFree) (hq : c.quicheConnection ≠ none) :
    (update io).run (c.begun io) = (updatePhase io).run (c.begun io) := by
  obtain ⟨hsend, hreceive⟩ := sockets_errorFree herr hq
  unfold update
  rw [run_bind, hsend.run]
  dsimp only
  rw [if_neg (by decide), run_bind, hreceive.run]
  rfl

/-- An Update without errors is its phase function and the checks. -/
theorem run_errorFree (herr : io.ErrorFree) (hq : c.quicheConnection ≠ none) :
    (Op.run (.update io)).run c = (updatePhase io >>= fun _ => (pure () : P Unit)).run (c.begun io) := by
  show (update io >>= fun _ => (pure () : P Unit)).run (c.begun io) = _
  rw [run_bind, run_bind, run_update_errorFree herr hq]

theorem timeout_open : apply (Act.timeout false) c = c := by
  simp [apply]

theorem timeout_closed (h : c.status ≠ .aborting) : apply (Act.timeout true) c =
    (c.setPhase .startShutdown).setStatus .errorTimeout (some "Connection close") :=
  if_pos ⟨h, rfl⟩

theorem trace_errorFree (herr : io.ErrorFree) (hq : c.quicheConnection ≠ none) :
    (Op.run (.update io)).trace c =
      (c, .call (.update io)) :: (updatePhase io >>= fun _ => (pure () : P Unit)).trace (c.begun io) := by
  obtain ⟨hsend, hreceive⟩ := sockets_errorFree herr hq
  show (c, _) :: (update io >>= fun _ => (pure () : P Unit)).trace (c.begun io) = _
  have hupdate : (update io).trace (c.begun io) = (updatePhase io).trace (c.begun io) := by
    unfold update
    rw [trace_bind, hsend.trace, hsend.run]
    dsimp only
    rw [if_neg (by decide), trace_bind, hreceive.trace, hreceive.run]
    rfl
  rw [trace_bind, trace_bind, hupdate, run_update_errorFree herr hq]

/-- The phase function, if the host was not resolved. -/
theorem does_unresolved (hp : c.phase = .connectionMigration) (hq : c.quicheConnection ≠ none)
    (hstatus : (c.attempted io).status = .errorResolveHost) :
    (updatePhase io).Does (c.begun io) (if (c.attempted io).connectionMigrationHasTimedOut
        then [(c.begun io, .createUdpSocket io.socket), (c.attempted io, .timeout io.closedTimeout)]
        else [(c.begun io, .createUdpSocket io.socket)])
      (if (c.attempted io).connectionMigrationHasTimedOut then .error else .ok)
      (if (c.attempted io).connectionMigrationHasTimedOut
        then apply (Act.timeout io.closedTimeout) (c.attempted io) else c.attempted io) := by
  cases htime : (c.attempted io).connectionMigrationHasTimedOut with
  | true =>
    have hfunc : (updateFunc io .connectionMigration).Does (c.begun io)
        [(c.begun io, .createUdpSocket io.socket), (c.attempted io, .timeout io.closedTimeout)] .error
        (apply (Act.timeout io.closedTimeout) (c.attempted io)) := by
      refine Does.perform (Does.get ?_)
      rw [if_pos hstatus, if_pos htime]
      exact Does.then (does_useConnection (attempted_connection hq)) ⟨rfl, rfl⟩
    rw [← hp] at hfunc
    exact does_updatePhase_failed (c := c.begun io) hfunc (by decide)
  | false =>
    have hfunc : (updateFunc io .connectionMigration).Does (c.begun io)
        [(c.begun io, .createUdpSocket io.socket)] .ok (c.attempted io) := by
      refine Does.perform (Does.get ?_)
      rw [if_pos hstatus, if_neg (by simpa using htime)]
      exact Does.pure ..
    have hlt : (c.attempted io).status < .wait := by rw [hstatus]; decide
    rw [← hp] at hfunc
    have hall := does_updatePhase (c := c.begun io) hfunc (.inr (.inl hlt))
      (does_noTimer (.inr (.inl hlt)) io.closedTimeout)
    rwa [List.append_nil] at hall

/-- The phase function, if the socket was made and the path is probed. -/
theorem does_probed (hq : c.quicheConnection ≠ none) (hstatus : (c.attempted io).status ≠ .errorResolveHost)
    (hcid : io.newSourceCid = true) (hpeer : (c.attempted io).peerAddInfo = true) :
    (updatePhaseConnectionMigration io).Does (c.begun io)
      [(c.begun io, .createUdpSocket io.socket), (c.attempted io, .probePath io.probePath)] .ok
      (apply (Act.probePath io.probePath) (c.attempted io)) := by
  refine Does.perform (Does.get ?_)
  rw [if_neg hstatus]
  refine Does.then (does_useConnection (attempted_connection hq)) ?_
  rw [if_neg (by simp [hcid])]
  rw [if_neg (show ¬ (c.attempted io).peerAddInfo = false by simp [hpeer])]
  exact ⟨rfl, rfl⟩

/-- The phase function, if quiche gives no new connection id. -/
theorem does_newSourceCidFailed (hq : c.quicheConnection ≠ none)
    (hstatus : (c.attempted io).status ≠ .errorResolveHost) (hcid : io.newSourceCid ≠ true) :
    (updatePhaseConnectionMigration io).Does (c.begun io)
      [(c.begun io, .createUdpSocket io.socket), (c.attempted io, .newSourceCidFailed)] .criticalError
      (apply Act.newSourceCidFailed (c.attempted io)) := by
  refine Does.perform (Does.get ?_)
  rw [if_neg hstatus]
  refine Does.then (does_useConnection (attempted_connection hq)) ?_
  rw [if_pos (by simpa using hcid)]
  exact ⟨rfl, rfl⟩

/-- A null `_peerAddInfo` is dereferenced. -/
theorem probed_nullPeer (hq : c.quicheConnection ≠ none) (hstatus : (c.attempted io).status ≠ .errorResolveHost)
    (hcid : io.newSourceCid = true) (hpeer : (c.attempted io).peerAddInfo ≠ true) :
    (updatePhaseConnectionMigration io).run (c.begun io) = .error .nullPeer := by
  show ((if (c.attempted io).status = .errorResolveHost then _ else _ : P QwfsResult)).run _ = _
  rw [if_neg hstatus, run_bind, (does_useConnection (attempted_connection hq)).run]
  dsimp only
  rw [if_neg (by simp [hcid]), if_pos (by simpa using hpeer)]
  rfl

/-- An attempt whose socket was not left unresolved ends the migration, or faults. -/
theorem leaves_migration (hp : c.phase = .connectionMigration) (hq : c.quicheConnection ≠ none)
    (hstatus : (c.attempted io).status ≠ .errorResolveHost) {result : QwfsResult}
    (hrun : (updatePhase io).run (c.begun io) = .ok (result, c')) : c'.phase ≠ .connectionMigration := by
  have hfunc : updateFunc io (c.begun io).phase = updatePhaseConnectionMigration io := by
    rw [show (c.begun io).phase = .connectionMigration from hp]
    rfl
  have hrun' : (updateFunc io (c.begun io).phase >>= checksAfter io).run (c.begun io) = .ok (result, c') := hrun
  obtain ⟨r, c₁, hrunFunc, hchecks, -⟩ := bind_ok hrun'
  rw [hfunc] at hrunFunc
  have hleft : c₁.phase ≠ .connectionMigration := by
    by_cases hcid : io.newSourceCid = true
    · by_cases hpeer : (c.attempted io).peerAddInfo = true
      · cases (does_probed hq hstatus hcid hpeer).run.symm.trans hrunFunc
        cases io.probePath <;> simp [apply, setPhase]
      · cases (probed_nullPeer hq hstatus hcid hpeer).symm.trans hrunFunc
    · cases (does_newSourceCidFailed hq hstatus hcid).run.symm.trans hrunFunc
      exact (by decide : Phase.wait ≠ .connectionMigration)
  rw [run_eq_after hchecks]
  exact away_after (fun e he => (Within.away (within_checksAfter io r) (by decide) (by decide)).mem he) hleft

/-- A migration that goes on was left unresolved, and keeps that as its status. -/
theorem stays_attempt (herr : io.ErrorFree) (hp : c.phase = .connectionMigration) (hq : c.quicheConnection ≠ none)
    (hrun : (Op.run (.update io)).run c = .ok ((), c')) (hp' : c'.phase = .connectionMigration) :
    (c.attempted io).status = .errorResolveHost ∧ c'.status = .errorResolveHost ∧
      c'.startTime = c.startTime ∧ c'.quicheConnection = c.quicheConnection := by
  rw [run_errorFree herr hq, run_bind] at hrun
  cases hphase : (updatePhase io).run (c.begun io) with
  | error e => rw [hphase] at hrun; cases hrun
  | ok r =>
    rw [hphase] at hrun
    obtain rfl : r.2 = c' := congrArg Prod.snd (Except.ok.inj hrun)
    by_cases hstatus : (c.attempted io).status = .errorResolveHost
    · have hr := (does_unresolved hp hq hstatus).run.symm.trans hphase
      have hc' := congrArg Prod.snd (Except.ok.inj hr)
      dsimp only at hc'
      obtain ⟨-, hstart, -, hquic⟩ := attempted_frame io c
      have hsame : r.2 = c.attempted io := by
        rw [← hc']
        split
        · cases hclosed : io.closedTimeout with
          | true =>
            rw [← hc', if_pos ‹_›, hclosed, timeout_closed (by rw [hstatus]; decide)] at hp'
            cases hp'
          | false => exact timeout_open
        · rfl
      rw [hsame]
      exact ⟨hstatus, hstatus, hstart, hquic⟩
    · exact absurd hp' (leaves_migration hp hq hstatus hphase)

end Connection

/-! ## All attempts of a migration -/

variable {c c₁ : Connection} {ios : List UpdateIo} {io : UpdateIo}

/-- In phase ConnectionMigration there is a connection. -/
theorem migrating_connection {hostName port : String} {ops : List Op}
    (hrun : (exec ops).run (new hostName port) = .ok ((), c)) (hp : c.phase = .connectionMigration) :
    c.quicheConnection ≠ none := by
  refine exec_inv (J := fun _ c => c.phase = .connectionMigration → c.quicheConnection ≠ none)
    (K := fun _ _ => True) nofun ?_ (fun _ _ => trivial) (visits_end hrun) hp
  intro hist c a _ hE _ hJ hafter
  cases ha : a.connects with
  | false =>
    rw [(sameHandles (c := c) ha).quic]
    cases hm : a.migrates with
    | false => exact hJ (migrating_from hm hafter)
    | true =>
      cases a with
      | transitionConnectionMigration => exact hE.1
      | newSourceCidFailed => exact hE.2.1
      | probePath ok => exact hE.2.1
      | _ => cases hm
  | true =>
    have hbefore : c.phase = .connectionMigration := migrating_from (by cases a <;> first | rfl | cases ha) hafter
    cases a with
    | newH3Connection ok => exact hE.1
    | createSocket io => cases hbefore.symm.trans hE
    | initializeQuiche io => cases hbefore.symm.trans hE.1
    | _ => cases ha

/-- While a migration goes on, the first attempt was left unresolved, and so the status says. -/
theorem stays_unresolved (herr : ∀ io' ∈ ios, io'.ErrorFree) (hq : c.quicheConnection ≠ none)
    (hstays : Stays (ios.map Op.update) c c₁) : c₁.phase = .connectionMigration ∧
      c₁.startTime = c.startTime ∧ c₁.quicheConnection = c.quicheConnection ∧
      (ios = [] → c₁ = c) ∧ (ios ≠ [] → c₁.status = .errorResolveHost) ∧
      (c.status = .wait → (∀ io' ∈ ios, io'.socket ≠ .unresolved) → ios = []) := by
  induction ios generalizing c with
  | nil =>
    cases hstays with
    | nil hp => exact ⟨hp, rfl, rfl, fun _ => rfl, fun h => absurd rfl h, fun _ _ => rfl⟩
  | cons io ios ih =>
    obtain ⟨hio, hios⟩ := List.forall_mem_cons.1 herr
    cases hstays with
    | cons hp hrun hrest =>
      obtain ⟨hattempt, hstatus, hstart, hquic⟩ := stays_attempt hio hp hq hrun (stays_phase hrest)
      obtain ⟨hp₁, hstart₁, hquic₁, hnil, hne, -⟩ := ih hios (by rwa [hquic]) hrest
      refine ⟨hp₁, hstart₁.trans hstart, hquic₁.trans hquic, nofun, fun _ => ?_, fun hwait hresolved => ?_⟩
      · by_cases h : ios = []
        · rw [hnil h]
          exact hstatus
        · exact hne h
      · rw [attempted_status, hwait] at hattempt
        refine absurd ?_ (hresolved io (by simp))
        cases hsocket : io.socket <;> rw [hsocket] at hattempt <;> first | rfl | cases hattempt

/-- What should come of an attempt: with a socket and a path the connection goes to phase Wait,
and stays there if quiche finds it open; without, when the time is up, to the shutdown. -/
structure Resolves (io : UpdateIo) (c : Connection) : Prop where
  wait : io.socket = .ok → io.now - c.startTime ≤ 5 * 1000 → io.newSourceCid = true → io.probePath = true →
    (∃ hist c', (Op.run (.update io)).Visits c hist c' ∧ c'.phase = .wait ∧ .wait ≤ c'.status) ∧
      (io.closedCheck = false → io.closedTimeout = false →
        ∃ c', (Op.run (.update io)).run c = .ok ((), c') ∧ c'.phase = .wait ∧ .wait ≤ c'.status)
  shutdown : io.socket = .unresolved → 5 * 1000 < io.now - c.startTime →
    ∃ c', (Op.run (.update io)).run c = .ok ((), c') ∧ c'.phase = .startShutdown ∧ c'.status < .wait

/-- With a socket, the phase function of a first attempt probes the path. -/
theorem does_attempt (hp : c.phase = .connectionMigration) (hq : c.quicheConnection ≠ none)
    (hs : c.status = .wait) (hsocket : io.socket = .ok) (hcid : io.newSourceCid = true) :
    (updateFunc io (c.begun io).phase).Does (c.begun io)
    [(c.begun io, .createUdpSocket io.socket), (c.attempted io, .probePath io.probePath)] .ok
    (apply (Act.probePath io.probePath) (c.attempted io)) := by
  have hstatus : (c.attempted io).status ≠ .errorResolveHost := by
    rw [attempted_status, hsocket, hs]
    decide
  have hpeer : (c.attempted io).peerAddInfo = true := by
    unfold attempted
    rw [hsocket]
    rfl
  rw [show (c.begun io).phase = .connectionMigration from hp]
  exact does_probed hq hstatus hcid hpeer

theorem attempt_wait (hs : c.status = .wait) (hsocket : io.socket = .ok) (hprobe : io.probePath = true) :
    (apply (Act.probePath io.probePath) (c.attempted io)).phase = .wait ∧
    .wait ≤ (apply (Act.probePath io.probePath) (c.attempted io)).status := by
  rw [hprobe]
  refine ⟨rfl, ?_⟩
  show .wait ≤ (c.attempted io).status
  rw [attempted_status, hsocket, hs]
  decide

/-- With a socket and a path the connection comes to phase Wait in the Update. -/
theorem attempt_visits (herr : io.ErrorFree) (hp : c.phase = .connectionMigration) (hq : c.quicheConnection ≠ none)
    (hs : c.status = .wait) (hsocket : io.socket = .ok) (hcid : io.newSourceCid = true)
    (hprobe : io.probePath = true) :
    ∃ hist c', (Op.run (.update io)).Visits c hist c' ∧ c'.phase = .wait ∧ .wait ≤ c'.status := by
  refine ⟨[(c, .call (.update io)), (c.begun io, .createUdpSocket io.socket),
    (c.attempted io, .probePath io.probePath)], _, ⟨?_, rfl⟩, attempt_wait hs hsocket hprobe⟩
  rw [trace_errorFree herr hq, List.prefix_cons_inj, trace_bind]
  refine List.IsPrefix.trans ?_ (List.prefix_append _ _)
  show _ <+: (updateFunc io (c.begun io).phase >>= checksAfter io).trace _
  rw [trace_bind, (does_attempt hp hq hs hsocket hcid).trace]
  exact List.prefix_append _ _

/-- It is still there after the checks, if quiche finds the connection open. -/
theorem attempt_returns (herr : io.ErrorFree) (hp : c.phase = .connectionMigration) (hq : c.quicheConnection ≠ none)
    (hs : c.status = .wait) (hsocket : io.socket = .ok) (hcid : io.newSourceCid = true)
    (hprobe : io.probePath = true) (hclosed : io.closedCheck = false) (htimeout : io.closedTimeout = false) :
    ∃ c', (Op.run (.update io)).run c = .ok ((), c') ∧ c'.phase = .wait ∧ .wait ≤ c'.status := by
  obtain ⟨hphase, hstatus⟩ := attempt_wait hs hsocket hprobe
  have hchecks : ∃ hist, (checkConnectionTimeout io.timeoutMillis io.closedTimeout).Does
      (apply (Act.probePath io.probePath) (c.attempted io)) hist ()
      (apply (Act.probePath io.probePath) (c.attempted io)) := by
    rw [htimeout]
    by_cases hmillis : io.timeoutMillis = 0
    · rw [hmillis]
      have htimer := does_timer (c := apply (Act.probePath io.probePath) (c.attempted io))
        (by rw [(sameHandles (a := .probePath io.probePath) rfl).quic]; exact attempted_connection hq)
        (by rw [hphase]; decide) (fun h => (lt_wait_iff _).1 h hstatus) false
      rw [timeout_open] at htimer
      exact ⟨_, htimer⟩
    · exact ⟨[], does_noTimer (.inr (.inr hmillis)) _⟩
  obtain ⟨hist, hchecks⟩ := hchecks
  have hdoes := does_updatePhase (does_attempt hp hq hs hsocket hcid) (.inr (.inr (.inr hclosed))) hchecks
  refine ⟨_, ?_, hphase, hstatus⟩
  rw [run_errorFree herr hq, run_bind, hdoes.run]
  rfl

/-- While the status says that the host was not resolved, a new socket makes no difference. -/
theorem attempt_stuck (herr : io.ErrorFree) (hp : c.phase = .connectionMigration) (hq : c.quicheConnection ≠ none)
    (hstatus : (c.attempted io).status = .errorResolveHost) {hist : List (Connection × Act)} {c' : Connection}
    (hv : (Op.run (.update io)).Visits c hist c') : c'.phase ≠ .wait := by
  have hdoes := does_unresolved hp hq hstatus
  have hacts : ∀ e ∈ (Op.run (.update io)).trace c, e.2 = .call (.update io) ∨
      e.2 = .createUdpSocket io.socket ∨ e.2 = .timeout io.closedTimeout := by
    intro e he
    rw [trace_errorFree herr hq, trace_bind, hdoes.trace, hdoes.run, List.mem_cons] at he
    rcases he with rfl | he
    · exact .inl rfl
    rcases List.mem_append.1 he with he | he
    · split at he
      · simp only [List.mem_cons, List.not_mem_nil, or_false] at he
        rcases he with rfl | rfl
        · exact .inr (.inl rfl)
        · exact .inr (.inr rfl)
      · simp only [List.mem_cons, List.not_mem_nil, or_false] at he
        rw [he]
        exact .inr (.inl rfl)
    · cases he
  refine visits_inv (J := fun _ c => c.phase ≠ .wait) (by rw [hp]; decide) ?_ hv
  intro hist s a hperf hs
  rcases hacts _ hperf.mem with ha | ha | ha <;> dsimp only at ha <;> rw [ha]
  · exact hs
  · show (s.createUdpSocket io.socket).phase ≠ .wait
    rwa [(createUdpSocket_frame io.socket).1]
  · simp only [apply]
    split_ifs
    · exact (by decide : Phase.startShutdown ≠ .wait)
    · exact hs

/-- When the time is up, an unresolved host leads to the shutdown exactly if quiche reports the
connection closed. -/
theorem attempt_late (herr : io.ErrorFree) (hp : c.phase = .connectionMigration) (hq : c.quicheConnection ≠ none)
    (hsocket : io.socket = .unresolved) (hlate : 5 * 1000 < io.now - c.startTime) :
    (∃ c', (Op.run (.update io)).run c = .ok ((), c') ∧ c'.phase = .startShutdown ∧ c'.status < .wait) ↔
      io.closedTimeout = true := by
  have hstatus : (c.attempted io).status = .errorResolveHost := by rw [attempted_status, hsocket]; rfl
  have htime : (c.attempted io).connectionMigrationHasTimedOut = true := by
    obtain ⟨-, hstart, hclock, -⟩ := attempted_frame io c
    unfold connectionMigrationHasTimedOut
    rw [hstart, hclock]
    simpa using hlate
  have hdoes := does_unresolved hp hq hstatus
  simp only [htime, ↓reduceIte] at hdoes
  have hrun : (Op.run (.update io)).run c = .ok ((), apply (Act.timeout io.closedTimeout) (c.attempted io)) := by
    rw [run_errorFree herr hq, run_bind, hdoes.run]
    rfl
  cases hclosed : io.closedTimeout with
  | true =>
    rw [hclosed, timeout_closed (by rw [hstatus]; decide)] at hrun
    exact iff_of_true ⟨_, hrun, rfl, show QwfsStatus.errorTimeout < .wait by decide⟩ rfl
  | false =>
    rw [hclosed, timeout_open] at hrun
    refine iff_of_false ?_ (by decide)
    rintro ⟨c', hrun', hphase, -⟩
    cases hrun.symm.trans hrun'
    rw [(attempted_frame io c).1, hp] at hphase
    cases hphase

/-- An attempt resolves exactly if, with a socket and a path, no name resolution failed before in
this migration and, when the time is up, quiche reports the connection closed. -/
theorem migration_resolves {hostName port : String} {ops : List Op}
    (hrun : (exec ops).run (new hostName port) = .ok ((), c)) (hs : c.status = .wait)
    (ios : List UpdateIo) (io : UpdateIo) (herr : ∀ io' ∈ ios, io'.ErrorFree) (hio : io.ErrorFree) (hstays : Stays (ios.map Op.update) c c₁) :
    Resolves io c₁ ↔
      (io.socket = .ok → io.now - c.startTime ≤ 5 * 1000 → io.newSourceCid = true → io.probePath = true →
        ∀ io' ∈ ios, io'.socket ≠ .unresolved) ∧
      (io.socket = .unresolved → 5 * 1000 < io.now - c.startTime → io.closedTimeout = true) := by
  have hq := migrating_connection hrun (stays_phase hstays)
  obtain ⟨hp₁, hstart, hquic, hnil, hne, hnone⟩ := stays_unresolved herr hq hstays
  have hq₁ : c₁.quicheConnection ≠ none := by rwa [hquic]
  rw [← hstart]
  constructor
  · rintro ⟨hwait, hshutdown⟩
    refine ⟨fun hsocket htime hcid hprobe => ?_, fun hsocket hlate => ?_⟩
    · obtain ⟨⟨hist, c', hv, hphase, -⟩, -⟩ := hwait hsocket htime hcid hprobe
      by_cases hios : ios = []
      · simp [hios]
      · have hstuck : (c₁.attempted io).status = .errorResolveHost := by
          rw [attempted_status, hsocket]
          exact hne hios
        exact absurd hphase (attempt_stuck hio hp₁ hq₁ hstuck hv)
    · exact (attempt_late hio hp₁ hq₁ hsocket hlate).1 (hshutdown hsocket hlate)
  · rintro ⟨hfirst, hclosed⟩
    refine ⟨fun hsocket htime hcid hprobe => ?_, fun hsocket hlate => ?_⟩
    · have hios := hnone hs (hfirst hsocket htime hcid hprobe)
      have hs₁ : c₁.status = .wait := by rw [hnil hios, hs]
      exact ⟨attempt_visits hio hp₁ hq₁ hs₁ hsocket hcid hprobe,
        attempt_returns hio hp₁ hq₁ hs₁ hsocket hcid hprobe⟩
    · exact (attempt_late hio hp₁ hq₁ hsocket hlate).2 (hclosed hsocket hlate)

theorem errorFree_quiet {io : UpdateIo} (hsend : io.send = []) (hrecv : io.recv = []) : io.ErrorFree :=
  ⟨by simp [hsend], by simp [hrecv]⟩

theorem run_migrationOps : (exec migrationOps).run (new "h" "443") = .ok ((), migrationBegun) := rfl

/-- The first attempt gets its socket. -/
theorem migration_resolves_first : Resolves { now := 1 } migrationBegun := by
  have hstays : Stays (List.map Op.update []) migrationBegun migrationBegun := .nil rfl
  have hiff := migration_resolves run_migrationOps rfl [] { now := 1 } (fun _ h => absurd h List.not_mem_nil)
    (errorFree_quiet rfl rfl) hstays
  refine hiff.2 ⟨fun _ _ _ _ _ h => absurd h List.not_mem_nil, fun hsocket => ?_⟩
  cases hsocket

/-- The first attempt is left unresolved. Then a socket in time is no use, and neither is it the end
when the time is up. -/
theorem migration_resolves_second : ∃ c, Stays [.update { now := 1, socket := .unresolved }] migrationBegun c ∧
    ¬ Resolves { now := 2 } c ∧ ¬ Resolves { now := 6000, socket := .unresolved } c := by
  have hq : migrationBegun.quicheConnection ≠ none := migrating_connection run_migrationOps rfl
  have hbegun : migrationBegun.startTime = 0 := rfl
  obtain ⟨c, hstays⟩ : ∃ c, Stays [.update { now := 1, socket := .unresolved }] migrationBegun c :=
    ⟨_, .cons rfl rfl (.nil rfl)⟩
  have herr : ∀ io' ∈ [({ now := 1, socket := .unresolved } : UpdateIo)], io'.ErrorFree := by
    intro io hio
    rw [List.mem_singleton.1 hio]
    exact errorFree_quiet rfl rfl
  obtain ⟨hp, hstart, hquic, -, hne, -⟩ := stays_unresolved herr hq hstays
  rw [hbegun] at hstart
  rw [← hquic] at hq
  refine ⟨c, hstays, fun h => ?_, fun h => ?_⟩
  · obtain ⟨⟨hist, c', hv, hphase, -⟩, -⟩ := h.wait rfl (by rw [hstart]; decide) rfl rfl
    refine attempt_stuck (errorFree_quiet rfl rfl) hp hq ?_ hv hphase
    rw [attempted_status]
    exact hne (by simp)
  · have hclosed := (attempt_late (errorFree_quiet rfl rfl) hp hq rfl (by rw [hstart]; decide)).1
      (h.shutdown rfl (by rw [hstart]; decide))
    cases hclosed

end Nhh3
