import Nhh3.Callbacks
import Nhh3.Status
import Nhh3.Updates
/-!
# Connection migration

In phase ConnectionMigration every Update makes a new socket and then probes the path.
Nothing of that touches a stream, so the transfers go on where they stopped. But the
outcome of an attempt is read back from the status, where an earlier one is left.
-/

namespace Nhh3

open Lib Lib.Prog Connection

/-- Calls after each of which the connection is still in phase ConnectionMigration. -/
inductive Stays : List Op → Connection → Connection → Prop where
  | nil {c : Connection} : c.phase = .connectionMigration → Stays [] c c
  | cons {op : Op} {ops : List Op} {c c₁ c' : Connection} : c.phase = .connectionMigration →
      (Op.run op).run c = .ok ((), c₁) → Stays ops c₁ c' → Stays (op :: ops) c c'

/-- The actions with which `UpdatePhaseConnectionMigration` goes to phase Wait. -/
def Act.settles : Act → Bool
  | .newSourceCidFailed | .probePath _ => true
  | _ => false

/-- The actions that begin or end a migration. -/
def Act.migrates : Act → Bool
  | .transitionConnectionMigration => true
  | a => a.settles

/-- No action begins or ends a migration. -/
abbrev Away {β : Type} (p : P β) : Prop := p.Acts fun a => a.migrates = false

/-- No action touches a stream, a container or a handle. -/
abbrev Untouching {β : Type} (p : P β) : Prop := p.Acts fun a => a.moves = false ∧ a.connects = false

namespace Connection
variable {c c' : Connection} {a : Act} {io : UpdateIo}

/-! ## Outside of phase ConnectionMigration -/

theorem migrates_of_part {parts : List Part} (ha : a.part ∈ parts) (hrecovery : .recovery ∉ parts)
    (hmigrating : .migrating ∉ parts) : a.migrates = false := by
  cases a <;> first | rfl | exact absurd ha hrecovery | exact absurd ha hmigrating

theorem Within.away {β : Type} {p : P β} {parts : List Part} (h : Within parts p) (hrecovery : .recovery ∉ parts)
    (hmigrating : .migrating ∉ parts) : Away p :=
  Acts.mono h fun _ ha => migrates_of_part ha hrecovery hmigrating

theorem away_updateFunc (io : UpdateIo) {phase : Phase} (hp : phase ≠ .connectionMigration) :
    Away (updateFunc io phase) := by
  refine Within.away (within_updateFunc io phase) ?_ ?_ <;> cases phase <;> first | decide | exact absurd rfl hp

/-- Only its beginning leads to phase ConnectionMigration. -/
theorem migrating_from (ha : a.migrates = false) (h : (apply a c).phase = .connectionMigration) :
    c.phase = .connectionMigration := by
  cases a with
  | publishRequest req =>
    rw [← (publishRequest_status req).1]
    exact h
  | createSocket io => cases io <;> first | exact h | cases h
  | createUdpSocket io => cases io <;> exact h
  | initializeQuiche io =>
    rcases initializeQuiche_cases (c := c) io with ⟨-, hp, -⟩ | ⟨-, -, hp | hp⟩
    · cases hp.symm.trans h
    · exact hp.symm.trans h
    · cases hp.symm.trans h
  | recvFailed e =>
    simp only [apply] at h
    split_ifs at h <;> cases h
  | timeout closed =>
    simp only [apply] at h
    split_ifs at h
    · cases h
    · exact h
  | transitionConnectionMigration => cases ha
  | newSourceCidFailed => cases ha
  | probePath ok => cases ha
  | _ => first | exact h | cases h

theorem settles_of_migrates (ha : a.migrates = false) : a.settles = false := by
  cases a <;> first | rfl | cases ha

theorem away_after {hist : List (Connection × Act)} (ha : ∀ e ∈ hist, e.2.migrates = false)
    (hp : c.phase ≠ .connectionMigration) : (after c hist).phase ≠ .connectionMigration := by
  induction hist generalizing c with
  | nil => exact hp
  | cons e hist ih =>
    obtain ⟨he, hrest⟩ := List.forall_mem_cons.1 ha
    exact ih hrest fun h => hp (migrating_from he h)

/-! ## What touches nothing -/

theorem untouching_of_part (ha : a.part ∈ [.transfer, .recovery, .migrating, .checks]) :
    a.moves = false ∧ a.connects = false := by
  cases a <;> first | exact ⟨rfl, rfl⟩ | simp [Act.part] at ha

theorem Within.untouching {β : Type} {p : P β} {parts : List Part} (h : Within parts p)
    (hsub : parts ⊆ [.transfer, .recovery, .migrating, .checks]) : Untouching p :=
  Acts.mono h fun _ ha => untouching_of_part (hsub ha)

/-! ## One Update -/

theorem within_checksAfter (io : UpdateIo) (result : QwfsResult) : Within [.checks] (checksAfter io result) := by
  unfold checksAfter
  split
  · trivial
  · exact (within_checkConnectionClosed _).bind fun _ => (within_checkConnectionTimeout _ _).bind fun _ => trivial

theorem updatePhase_untouching (hp : c.phase = .connectionMigration) :
    ∀ e ∈ (updatePhase io).trace c, e.2.moves = false ∧ e.2.connects = false := by
  have hphase : Untouching (updateFunc io c.phase >>= checksAfter io) := by
    rw [hp]
    exact Acts.bind (Within.untouching (within_updateFunc io _) (by decide)) fun result =>
      Within.untouching (within_checksAfter io result) (by decide)
  exact fun e he => hphase.mem he

theorem updatePhase_away (hp : c.phase ≠ .connectionMigration) :
    ∀ e ∈ (updatePhase io).trace c, e.2.migrates = false := by
  have hphase : Away (updateFunc io c.phase >>= checksAfter io) :=
    (away_updateFunc io hp).bind fun result => Within.away (within_checksAfter io result) (by decide) (by decide)
  exact fun e he => hphase.mem he

/-- An Update that returns has sent and received; then it recovered from an error, or came to the
function of its phase. -/
theorem update_cases {result : QwfsResult} (hrun : (update io).run c = .ok (result, c')) : ∃ hist c₁,
    (∀ e ∈ hist, e ∈ (send io.send).trace c ∨ ∃ c₀, e ∈ (receive io.recv).trace c₀) ∧
      ((update io).trace c = hist ++ (recover io.availableDcids).trace c₁ ∨
        (update io).trace c = hist ++ (updatePhase io).trace c₁ ∧
          (updatePhase io).run c₁ = .ok (result, c')) := by
  obtain ⟨r, c₁, -, hrest, htrace⟩ := bind_ok hrun
  by_cases hr : r ≠ .ok
  · rw [if_pos hr] at htrace
    exact ⟨_, c₁, fun e he => .inl he, .inl htrace⟩
  rw [if_neg hr] at hrest htrace
  obtain ⟨r', c₂, -, hrest, htrace'⟩ := bind_ok hrest
  rw [htrace', ← List.append_assoc] at htrace
  have hhist : ∀ e ∈ (send io.send).trace c ++ (receive io.recv).trace c₁,
      e ∈ (send io.send).trace c ∨ ∃ c₀, e ∈ (receive io.recv).trace c₀ := by
    intro e he
    rcases List.mem_append.1 he with he | he
    · exact .inl he
    · exact .inr ⟨c₁, he⟩
  by_cases hr' : r' ≠ .ok
  · rw [if_pos hr'] at htrace
    exact ⟨_, c₂, hhist, .inl htrace⟩
  · rw [if_neg hr'] at hrest htrace
    exact ⟨_, c₂, hhist, .inr ⟨htrace, hrest⟩⟩

/-- An Update either touches nothing, or it is not one of the migration: then it ends no migration
and leaves the connection in another phase. -/
theorem update_untouching {result : QwfsResult} (hrun : (update io).run c = .ok (result, c')) :
    (∀ e ∈ (update io).trace c, e.2.moves = false ∧ e.2.connects = false) ∨
      (∀ e ∈ (update io).trace c, e.2.settles = false) ∧ c'.phase ≠ .connectionMigration := by
  obtain ⟨hist, c₁, hhist, htrace⟩ := update_cases hrun
  have hkeeps : ∀ e ∈ hist, e.2.moves = false ∧ e.2.connects = false := by
    intro e he
    rcases hhist e he with he | ⟨c₀, he⟩
    · exact (Within.untouching (within_send io.send) (by decide)).mem he
    · exact (Within.untouching (within_receive io.recv) (by decide)).mem he
  have hstays : ∀ e ∈ hist, e.2.migrates = false := by
    intro e he
    rcases hhist e he with he | ⟨c₀, he⟩
    · exact (Within.away (within_send io.send) (by decide) (by decide)).mem he
    · exact (Within.away (within_receive io.recv) (by decide) (by decide)).mem he
  rcases htrace with htrace | ⟨htrace, hphase⟩ <;> rw [htrace]
  · exact .inl (List.forall_mem_append.2
      ⟨hkeeps, fun e he => (Within.untouching (within_recover _) (by decide)).mem he⟩)
  by_cases hp : c₁.phase = .connectionMigration
  · exact .inl (List.forall_mem_append.2 ⟨hkeeps, updatePhase_untouching hp⟩)
  · have hsettles : ∀ e ∈ hist ++ (updatePhase io).trace c₁, e.2.settles = false :=
      fun e he => settles_of_migrates (List.forall_mem_append.2 ⟨hstays, updatePhase_away hp⟩ e he)
    refine .inr ⟨hsettles, ?_⟩
    rw [run_eq_after hphase]
    exact away_after (updatePhase_away hp) hp

end Connection

/-! ## The transfers in flight -/

/-- The calls that may come while a migration is under way. -/
def Op.duringMigration : Op → Bool
  | .update _ | .publishRequest _ | .getProgress => true
  | _ => false

def Op.published : Op → List Request
  | .publishRequest req => [req]
  | _ => []

/-- The streams of published requests, the first at address `n`. -/
def publishedFrom (n : Nat) (hostName : String) : List Request → List Stream
  | [] => []
  | req :: reqs => Stream.new n hostName req :: publishedFrom (n + 1) hostName reqs

theorem publishedFrom_append (n : Nat) (hostName : String) (reqs reqs' : List Request) :
    publishedFrom n hostName (reqs ++ reqs') =
      publishedFrom n hostName reqs ++ publishedFrom (n + reqs.length) hostName reqs' := by
  induction reqs generalizing n with
  | nil => rfl
  | cons req reqs ih => simp [publishedFrom, ih, Nat.add_assoc, Nat.add_comm 1]

/-- The transfers of `c` are in `c'` as they were: the active streams are the same but for the
progress that `GetProgress` takes, and only published requests were added. -/
structure Carried (c c' : Connection) (reqs : List Request) : Prop where
  active : c'.h3Streams.map Stream.addProgress = c.h3Streams.map Stream.addProgress
  map : c'.h3StreamsMap = c.h3StreamsMap
  errorStock : c'.h3StreamsErrorStock = c.h3StreamsErrorStock
  stock : c'.h3StreamsStock = c.h3StreamsStock ++ publishedFrom c.nextStream c.hostName reqs
  quicheConnection : c'.quicheConnection = c.quicheConnection
  quicheH3Connection : c'.quicheH3Connection = c.quicheH3Connection
  next : c'.nextStream = c.nextStream + reqs.length
  hostName : c'.hostName = c.hostName

namespace Carried
variable {c c₁ c' : Connection} {reqs reqs' : List Request}

theorem refl (c : Connection) : Carried c c [] :=
  ⟨rfl, rfl, rfl, (List.append_nil _).symm, rfl, rfl, rfl, rfl⟩

theorem trans (h : Carried c c₁ reqs) (h' : Carried c₁ c' reqs') : Carried c c' (reqs ++ reqs') where
  active := h'.active.trans h.active
  map := h'.map.trans h.map
  errorStock := h'.errorStock.trans h.errorStock
  stock := by rw [h'.stock, h.stock, h.next, h.hostName, publishedFrom_append, List.append_assoc]
  quicheConnection := h'.quicheConnection.trans h.quicheConnection
  quicheH3Connection := h'.quicheH3Connection.trans h.quicheH3Connection
  next := by rw [h'.next, h.next, List.length_append, Nat.add_assoc]
  hostName := h'.hostName.trans h.hostName

end Carried

variable {c c₁ c₂ c' : Connection} {ops : List Op} {io : UpdateIo}

theorem hostName_apply (a : Act) (c : Connection) : (apply a c).hostName = c.hostName := by
  cases a with
  | createSocket io => cases io <;> rfl
  | createUdpSocket io => cases io <;> rfl
  | publishRequest req => simp only [apply, publishRequest_eq]
  | initializeQuiche io =>
    obtain ⟨d, hd⟩ := initializeQuiche_shape (c := c) io
    simp only [apply, hd]
    rfl
  | recvFailed e => simp only [apply]; split_ifs <;> rfl
  | probePath ok => cases ok <;> rfl
  | timeout closed => simp only [apply]; split_ifs <;> rfl
  | _ => rfl

theorem carried_apply {a : Act} (hm : a.moves = false) (hc : a.connects = false) : Carried c (apply a c) [] := by
  have hs := sameStreams (c := c) hm
  have hh := sameHandles (c := c) hc
  exact ⟨by rw [hs.active], hs.map, hs.error, by rw [hs.stock]; exact (List.append_nil _).symm, hh.quic, hh.h3,
    hs.next, hostName_apply a c⟩

theorem carried_after {hist : List (Connection × Act)}
    (h : ∀ e ∈ hist, e.2.moves = false ∧ e.2.connects = false) : Carried c (after c hist) [] := by
  induction hist generalizing c with
  | nil => exact .refl c
  | cons e hist ih =>
    obtain ⟨he, hrest⟩ := List.forall_mem_cons.1 h
    exact (carried_apply he.1 he.2).trans (ih hrest)

/-- An Update that leaves the connection in the migration, or ends it, carries the transfers on. -/
theorem carried_update (hrun : (Op.run (.update io)).run c = .ok ((), c'))
    (hin : c'.phase = .connectionMigration ∨ ∃ e ∈ (Op.run (.update io)).trace c, e.2.settles = true) :
    Carried c c' [] := by
  have hbody : (update io >>= fun _ => (pure () : P Unit)).run (c.begun io) = .ok ((), c') := hrun
  rw [run_bind] at hbody
  cases hu : (update io).run (c.begun io) with
  | error e => rw [hu] at hbody; cases hbody
  | ok r =>
    rw [hu] at hbody
    obtain rfl : r.2 = c' := congrArg Prod.snd (Except.ok.inj hbody)
    have htrace : (Op.run (.update io)).trace c = (c, .call (.update io)) :: (update io).trace (c.begun io) := by
      show (c, _) :: (update io >>= fun _ => (pure () : P Unit)).trace (c.begun io) = _
      rw [trace_bind, hu]
      exact congrArg _ (List.append_nil _)
    rcases update_untouching hu with hsafe | ⟨hsettles, hphase⟩
    · rw [run_eq_after hrun, htrace]
      exact carried_after (List.forall_mem_cons.2 ⟨⟨rfl, rfl⟩, hsafe⟩)
    · rcases hin with hp | ⟨e, he, hse⟩
      · exact absurd hp hphase
      · rw [htrace, List.mem_cons] at he
        rcases he with rfl | he
        · cases hse
        · cases (hsettles e he).symm.trans hse

theorem carried_op {op : Op} (hop : op.duringMigration = true) (hrun : (Op.run op).run c = .ok ((), c'))
    (hp : c'.phase = .connectionMigration) : Carried c c' op.published := by
  cases op with
  | update io => exact carried_update hrun (.inl hp)
  | publishRequest req =>
    cases hrun
    simp only [publishRequest_eq, apply]
    exact ⟨rfl, rfl, rfl, rfl, rfl, rfl, rfl, rfl⟩
  | getProgress =>
    cases hrun
    exact ⟨by simp [apply, Stream.addProgress], rfl, rfl, (List.append_nil _).symm, rfl, rfl, rfl, rfl⟩
  | _ => cases hop

theorem stays_phase (h : Stays ops c c') : c.phase = .connectionMigration := by
  cases h with
  | nil hp => exact hp
  | cons hp => exact hp

theorem carried_stays (hops : ∀ op ∈ ops, op.duringMigration = true) (h : Stays ops c c') :
    Carried c c' (ops.flatMap Op.published) := by
  induction h with
  | nil => exact .refl _
  | cons hp hrun hrest ih =>
    obtain ⟨hop, hops⟩ := List.forall_mem_cons.1 hops
    exact (carried_op hop hrun (stays_phase hrest)).trans (ih hops)

/-- From the beginning of a migration to the Update that ends it, however many attempts that takes. -/
theorem carried_migration (c : Connection) (ops : List Op) (io : UpdateIo)
    (hops : ∀ op ∈ ops, op.duringMigration = true) (hstays : Stays ops (apply Act.transitionConnectionMigration c) c₁)
    (hrun : (Op.run (.update io)).run c₁ = .ok ((), c₂))
    (hsettles : ∃ e ∈ (Op.run (.update io)).trace c₁, e.2.settles = true) :
    Carried c c₂ (ops.flatMap Op.published) := by
  have hbegin : Carried c (apply Act.transitionConnectionMigration c) [] := carried_apply rfl rfl
  have hend := carried_update hrun (.inr hsettles)
  have hall := (hbegin.trans (carried_stays hops hstays)).trans hend
  rwa [List.nil_append, List.append_nil] at hall

/-- A download is under way when the client asks for a migration. -/
def migrationOps : List Op :=
  [.setOptions { disableActiveMigration := false }, .publishRequest {}] ++ connectOps ++ answerOps [1, 2] ++
    [.reconnect 1 0]

def migrationBegun : Connection := after (new "h" "443") ((exec migrationOps).trace (new "h" "443"))

end Nhh3
