import Nhh3.Lib.Flow
import Nhh3.Status
/-!
# Who frees what

Connections and sessions of quiche, files, sockets, address lists and config objects:
what a connection acquires it holds, has given back, or has written over. The
destructor gives back what is still held.
-/

namespace Nhh3

open Lib Lib.Prog Connection

/-! ## The destructor -/

namespace Connection

def clearConfig (c : Connection) : Connection := { c with quicheConfig := false, quicheH3Config := false }

/-- The destructor `Connection::~Connection`. With a session quiche is asked for the 0-RTT session, the streams
are shut down, and `quiche_conn_close` is called. -/
def destroy (c : Connection) : Except Fault Connection :=
  if c.quicheH3Connection ≠ none ∧ c.quicheConnection = none then .error .nullHandle
  else
    let c := if c.quicheH3Connection ≠ none then c.shutdownStream else c
    .ok { c with
      h3StreamsErrorStock := [], h3StreamsStock := [], h3Streams := [],
      h3StreamsMap := ∅ }.closeUdpSocket.clearQuicheConnection.clearConfig

end Connection

/-! ## Connections and sessions of quiche -/

/-- What `quiche_connect` returns, kept until `ClearForRetry`, or until `UpdatePhaseInitialize` writes
the next one over it. -/
def connections : Flow Connection Act (Multiset Nat) where
  held c := c.quicheConnection.toList
  acquired
    | (c, .initializeQuiche io) => if io.connect then {c.nextHandle} else 0
    | _ => 0
  released
    | (c, .createSocket _) => c.quicheConnection.toList
    | _ => 0
  lost
    | (c, .initializeQuiche _) => c.quicheConnection.toList
    | _ => 0

/-- What `quiche_h3_conn_new_with_transport` returns. -/
def sessions : Flow Connection Act (Multiset H3Conn) where
  held c := c.quicheH3Connection.toList
  acquired
    | (c, .newH3Connection ok) => (c.newH3Connection ok).quicheH3Connection.toList
    | _ => 0
  released
    | (c, .createSocket _) => c.quicheH3Connection.toList
    | _ => 0
  lost
    | (c, .newH3Connection _) => c.quicheH3Connection.toList
    | _ => 0

section Handles
variable {c c' : Connection} {a : Act} {hist : List (Connection × Act)}

theorem connections_balance : connections.Balances c a := by
  unfold Flow.Balances
  cases hc : a.connects with
  | false =>
    have hs := sameHandles (c := c) hc
    cases a <;> first | exact Bool.noConfusion hc | simp [connections, hs.quic]
  | true =>
    cases a with
    | createSocket io =>
      obtain ⟨hq, -⟩ := handles_createSocket (c := c) io
      simp [connections, apply, hq]
    | initializeQuiche io =>
      obtain ⟨hq, -⟩ := handles_initializeQuiche (c := c) io
      cases hio : io.connect <;> simp [connections, apply, hq, hio, add_comm]
    | newH3Connection ok => simp [connections, apply, newH3Connection]
    | _ => exact Bool.noConfusion hc

theorem sessions_balance : sessions.Balances c a := by
  unfold Flow.Balances
  cases hc : a.connects with
  | false =>
    have hs := sameHandles (c := c) hc
    cases a <;> first | exact Bool.noConfusion hc | simp [sessions, hs.h3]
  | true =>
    cases a with
    | createSocket io =>
      obtain ⟨-, hh, -⟩ := handles_createSocket (c := c) io
      simp [sessions, apply, hh]
    | initializeQuiche io =>
      obtain ⟨-, hh, -⟩ := handles_initializeQuiche (c := c) io
      simp [sessions, apply, hh]
    | newH3Connection ok => simp [sessions, apply, add_comm]
    | _ => exact Bool.noConfusion hc

/-- The two lists of freed handles are what was released. -/
theorem freed_apply : (↑(apply a c).freed : Multiset Nat) = connections.released (c, a) + ↑c.freed ∧
    (↑(apply a c).freedH3 : Multiset H3Conn) = sessions.released (c, a) + ↑c.freedH3 := by
  cases hc : a.connects with
  | false =>
    have hs := sameHandles (c := c) hc
    rw [hs.freed, hs.freedH3]
    cases a <;> first | exact Bool.noConfusion hc | exact ⟨(zero_add _).symm, (zero_add _).symm⟩
  | true =>
    cases a with
    | createSocket io =>
      obtain ⟨-, -, hf, hf3, -⟩ := handles_createSocket (c := c) io
      simp only [apply, hf, hf3]
      exact ⟨rfl, rfl⟩
    | initializeQuiche io =>
      obtain ⟨-, -, hf, hf3, -⟩ := handles_initializeQuiche (c := c) io
      simp only [apply, hf, hf3]
      exact ⟨(zero_add _).symm, (zero_add _).symm⟩
    | newH3Connection ok => exact ⟨(zero_add _).symm, (zero_add _).symm⟩
    | _ => exact Bool.noConfusion hc

theorem connections_fresh : Flow.Fresh connections.acquired id nextHandle c a := by
  refine ⟨?_, ?_, nextHandle_mono⟩
  · cases a with
    | initializeQuiche io => cases hio : io.connect <;> simp [connections, hio]
    | _ => exact Multiset.nodup_zero
  · intro q hq
    cases a with
    | initializeQuiche io =>
      simp only [connections] at hq
      split at hq
      · rw [Multiset.mem_singleton.1 hq]
        exact ⟨le_rfl, (Nat.lt_succ_self _).trans_eq (handles_initializeQuiche (c := c) io).2.2.2.2.symm⟩
      · exact absurd hq (Multiset.notMem_zero q)
    | _ => exact absurd hq (Multiset.notMem_zero q)

theorem newH3Connection_some {h : H3Conn} {ok : Bool} (hh : (c.newH3Connection ok).quicheH3Connection = some h) :
    h.id = c.nextHandle ∧ c.quicheConnection = some h.transport := by
  simp only [newH3Connection] at hh
  split at hh
  · obtain ⟨q, hq, rfl⟩ := Option.map_eq_some_iff.1 hh
    exact ⟨rfl, hq⟩
  · cases hh

theorem sessions_fresh : Flow.Fresh sessions.acquired H3Conn.id nextHandle c a := by
  refine ⟨?_, ?_, nextHandle_mono⟩
  · cases a with
    | newH3Connection ok => cases h : (c.newH3Connection ok).quicheH3Connection <;> simp [sessions, h]
    | _ => exact Multiset.nodup_zero
  · intro h hh
    cases a with
    | newH3Connection ok =>
      have hid := (newH3Connection_some (Option.mem_toList.1 (Multiset.mem_coe.1 hh))).1
      exact ⟨hid.ge, hid.trans_lt (Nat.lt_succ_self _)⟩
    | _ => exact absurd hh (Multiset.notMem_zero h)

/-- A session is made only where there is none. -/
theorem sessions_not_lost (hE : Enabled c a) : sessions.lost (c, a) = 0 := by
  cases a with
  | newH3Connection ok =>
    have hnone : c.quicheH3Connection = none := hE.2
    simp [sessions, hnone]
  | _ => rfl

end Handles

/-- Every handle that quiche returned is held, was freed, or was written over; none was freed twice, and no
session outlives its connection. -/
structure HandlesAccounted (hist : List (Connection × Act)) (c : Connection) : Prop where
  quic : total connections.acquired hist =
    ↑c.quicheConnection.toList + ↑c.freed + total connections.lost hist
  quicOnce : (total connections.acquired hist).Nodup
  h3 : total sessions.acquired hist = ↑c.quicheH3Connection.toList + ↑c.freedH3
  h3Once : (total sessions.acquired hist).Nodup
  outlived : ∀ h ∈ total sessions.acquired hist, h.transport ∈ c.freed → h ∈ c.freedH3

/-- In phase Initialize there is no connection. -/
def Unconnected (c : Connection) : Prop := c.phase = .initializing → c.quicheConnection = none

/-- The condition: no Retry is consumed while there is a connection, and the qlog file of a new connection can
be created. -/
def KeepsConnection (c : Connection) : Act → Prop
  | .retryStream => c.quicheConnection = none
  | .initializeQuiche io => io.connect = true → c.QlogOpens io
  | _ => True

instance (c : Connection) (a : Act) : Decidable (KeepsConnection c a) := by
  apply Act.casesOn (motive := fun a => Decidable (KeepsConnection c a)) a <;> intros <;>
    (dsimp only [KeepsConnection]; infer_instance)

/-- Phase Initialize is entered with a new socket, or by a Retry. -/
theorem initializing_entered {c : Connection} {a : Act} (hE : Enabled c a) (hp : (apply a c).phase = .initializing) :
    c.phase = .initializing ∨ (∃ io, a = .createSocket io) ∨ a = .retryStream := by
  rw [phase_apply hE] at hp
  cases a with
  | createSocket io => exact .inr (.inl ⟨io, rfl⟩)
  | retryStream => exact .inr (.inr rfl)
  | initializeQuiche io => exact .inl hE.1
  | recvFailed e =>
    simp only [Act.turns] at hp
    split_ifs at hp <;> cases hp
  | timeout closed =>
    simp only [Act.turns] at hp
    split_ifs at hp <;> first | exact .inl hp | cases hp
  | _ => first | exact .inl hp | cases hp

theorem unconnected_apply {c : Connection} {a : Act} (hE : Enabled c a) (h : Unconnected c) :
    Unconnected (apply a c) ↔ KeepsConnection c a := by
  have hkeep : a.connects = false → a ≠ .retryStream → Unconnected (apply a c) := by
    intro hc hretry hp
    rw [(sameHandles hc).quic]
    rcases initializing_entered hE hp with hp | ⟨io, rfl⟩ | rfl
    · exact h hp
    · cases hc
    · exact absurd rfl hretry
  cases a with
  | retryStream => exact ⟨fun h => h rfl, fun h _ => h⟩
  | createSocket io => exact iff_of_true (fun _ => (handles_createSocket io).1) trivial
  | initializeQuiche io =>
    have hphase := phase_apply hE
    have hquic : (apply (Act.initializeQuiche io) c).quicheConnection = _ := (handles_initializeQuiche io).1
    simp only [Unconnected, hphase, hquic, Act.turns, KeepsConnection]
    cases hconnect : io.connect with
    | false => simp
    | true => by_cases hqlog : c.QlogOpens io <;> simp [hqlog, hE.1]
  | newH3Connection ok => exact iff_of_true h trivial
  | _ => exact iff_of_true (hkeep rfl (by simp)) trivial

section Run
variable {hostName port : String} {ops : List Op} {hist : List (Connection × Act)} {c c' : Connection} {a : Act}

theorem freed_visits (hv : (exec ops).Visits (new hostName port) hist c) :
    total connections.released hist = ↑c.freed ∧ total sessions.released hist = ↑c.freedH3 := by
  refine visits_inv (J := fun hist c => total connections.released hist = (↑c.freed : Multiset Nat) ∧
    total sessions.released hist = (↑c.freedH3 : Multiset H3Conn)) ⟨rfl, rfl⟩ (fun hist c a _ h => ?_) hv
  rw [total_concat, total_concat, h.1, h.2, freed_apply.1, freed_apply.2]
  exact ⟨add_comm .., add_comm ..⟩

theorem outlived_apply (h : HandlesAccounted hist c) (hE : Enabled c a) :
    ∀ h ∈ total sessions.acquired (hist ++ [(c, a)]), h.transport ∈ (apply a c).freed → h ∈ (apply a c).freedH3 := by
  intro x hx hfreed
  rw [total_concat, Multiset.mem_add] at hx
  cases hc : a.connects with
  | false =>
    have hs := sameHandles (c := c) hc
    rw [hs.freed] at hfreed
    rw [hs.freedH3]
    refine h.outlived x (hx.resolve_right ?_) hfreed
    cases a <;> first | exact Bool.noConfusion hc | exact Multiset.notMem_zero x
  | true =>
    cases a with
    | createSocket io =>
      -- all sessions are freed together
      have hold := hx.resolve_right (Multiset.notMem_zero x)
      rw [h.h3] at hold
      rw [show (apply (Act.createSocket io) c).freedH3 = _ from (handles_createSocket (c := c) io).2.2.2.1]
      exact Multiset.mem_coe.1 hold
    | initializeQuiche io =>
      obtain ⟨-, -, hf, hf3, -⟩ := handles_initializeQuiche (c := c) io
      rw [show (apply (Act.initializeQuiche io) c).freedH3 = _ from hf3]
      exact h.outlived x (hx.resolve_right (Multiset.notMem_zero x)) (hf ▸ hfreed)
    | newH3Connection ok =>
      rcases hx with hx | hx
      · exact h.outlived x hx hfreed
      · -- the new session belongs to the connection that is held
        have hq := (newH3Connection_some (Option.mem_toList.1 (Multiset.mem_coe.1 hx))).2
        have hnodup := h.quicOnce
        rw [h.quic, hq, Multiset.nodup_add, Multiset.nodup_add] at hnodup
        exact absurd (Multiset.mem_coe.2 hfreed) (Multiset.disjoint_left.1 hnodup.1.2.2 (by simp))
    | _ => exact Bool.noConfusion hc

theorem accounted_exec (hv : (exec ops).Visits (new hostName port) hist c) : HandlesAccounted hist c := by
  refine visits_inv (J := HandlesAccounted)
    { quic := rfl, quicOnce := Multiset.nodup_zero, h3 := rfl, h3Once := Multiset.nodup_zero,
      outlived := fun h hh => absurd hh (Multiset.notMem_zero h) }
    (fun hist c a hp h => ?_) hv
  have hv' : (exec ops).Visits (new hostName port) (hist ++ [(c, a)]) (apply a c) := by
    refine ⟨hp, ?_⟩
    rw [after_concat, ← performs_state hp]
  have hq := Flow.accounted_visits connections rfl (fun _ _ _ _ => connections_balance) hv'
  have hh := Flow.accounted_visits sessions rfl (fun _ _ _ _ => sessions_balance) hv'
  have hlost : total sessions.lost (hist ++ [(c, a)]) = 0 := by
    refine total_eq_zero _ fun e he => ?_
    obtain ⟨_, hpe⟩ := performs_of_mem (hp.subset he)
    exact sessions_not_lost (exec_enabled hpe).2
  obtain ⟨hf, hf3⟩ := freed_visits hv'
  rw [Flow.Accounted, hf] at hq
  rw [Flow.Accounted, hf3, hlost, add_zero] at hh
  exact { quic := hq, h3 := hh,
          quicOnce := (Flow.nodup_total (fun _ _ _ _ => connections_fresh) hv').1,
          h3Once := (Flow.nodup_total (fun _ _ _ _ => sessions_fresh) hv').1,
          outlived := outlived_apply h (exec_enabled hp).2 }

theorem destroy_accounted (h : HandlesAccounted hist c) (hd : c.destroy = .ok c') :
    HandlesAccounted hist c' ∧ c'.quicheConnection = none ∧ c'.quicheH3Connection = none := by
  have hend : c'.freed = c.quicheConnection.toList ++ c.freed ∧
      c'.freedH3 = c.quicheH3Connection.toList ++ c.freedH3 ∧
      c'.quicheConnection = none ∧ c'.quicheH3Connection = none := by
    unfold destroy at hd
    split at hd
    · cases hd
    · cases hd
      split_ifs <;> exact ⟨rfl, rfl, rfl, rfl⟩
  obtain ⟨hf, hf3, hq, hh⟩ := hend
  have hall : ∀ x ∈ total sessions.acquired hist, x ∈ c'.freedH3 := by
    intro x hx
    rw [h.h3] at hx
    rw [hf3]
    exact Multiset.mem_coe.1 hx
  refine ⟨{ quic := ?_, quicOnce := h.quicOnce, h3 := ?_, h3Once := h.h3Once, outlived := fun x hx _ => hall x hx },
    hq, hh⟩
  · rw [h.quic, hq, hf]
    simp
  · rw [h.h3, hh, hf3]
    simp

theorem nothing_overwritten (hM : ∀ e ∈ (exec ops).trace (new hostName port), KeepsConnection e.1 e.2) :
    total connections.lost ((exec ops).trace (new hostName port)) = 0 := by
  have hJ : ∀ hist c, (exec ops).Visits (new hostName port) hist c → Unconnected c :=
    (visits_iff (J := fun _ => Unconnected) (fun h => by cases h)
      fun _ _ _ hp h => unconnected_apply (exec_enabled hp).2 h).2 hM
  refine total_eq_zero _ fun e he => ?_
  obtain ⟨hist, hp⟩ := performs_of_mem he
  obtain ⟨c, a⟩ := e
  cases a with
  | initializeQuiche io =>
    have hnone : c.quicheConnection = none := hJ _ _ hp.visits (exec_enabled hp).2.1
    simp [connections, hnone]
  | _ => rfl

end Run

/-- Wherever a run comes, each connection and each session that quiche returned is held, or was freed, once, or
was written over; the destructor frees what is held. Nothing is written over in a run that consumes no Retry
while there is a connection, and whose qlog files can be created. -/
theorem handles_accounted {hostName port : String} {ops : List Op} :
    (∀ hist c, (exec ops).Visits (new hostName port) hist c → HandlesAccounted hist c ∧
      ∀ c', c.destroy = .ok c' →
        HandlesAccounted hist c' ∧ c'.quicheConnection = none ∧ c'.quicheH3Connection = none) ∧
    ((∀ e ∈ (exec ops).trace (new hostName port), KeepsConnection e.1 e.2) →
      total connections.lost ((exec ops).trace (new hostName port)) = 0) :=
  ⟨fun _ _ hv => ⟨accounted_exec hv, fun _ hd => destroy_accounted (accounted_exec hv) hd⟩, nothing_overwritten⟩

/-- A packet that quiche rejects, and a Retry: the new connection is written over the old one. -/
def rejectedOps : List Op :=
  [.update { recv := [{ readSize := QuicheErr.invalidPacket }] }, .retry, .update {}, .update {}]

theorem handles_accounted_retry :
    (∃ c c', (exec (connectOps ++ downloadOps)).Visits (new "h" "443")
        ((exec (connectOps ++ downloadOps)).trace (new "h" "443")) c ∧ c.destroy = .ok c' ∧
      HandlesAccounted ((exec (connectOps ++ downloadOps)).trace (new "h" "443")) c' ∧ c'.freed = [0] ∧
      total connections.lost ((exec (connectOps ++ downloadOps)).trace (new "h" "443")) = 0) ∧
    ∃ c c', (exec (connectOps ++ rejectedOps)).Visits (new "h" "443")
        ((exec (connectOps ++ rejectedOps)).trace (new "h" "443")) c ∧ c.destroy = .ok c' ∧
      HandlesAccounted ((exec (connectOps ++ rejectedOps)).trace (new "h" "443")) c' ∧ c'.freed = [2] ∧
      total connections.lost ((exec (connectOps ++ rejectedOps)).trace (new "h" "443")) = {0} := by
  have hv := visits_end (p := exec (connectOps ++ downloadOps)) (s := new "h" "443") rfl
  have hv' := visits_end (p := exec (connectOps ++ rejectedOps)) (s := new "h" "443") rfl
  exact ⟨⟨_, _, hv, rfl, ((handles_accounted.1 _ _ hv).2 _ rfl).1, rfl, handles_accounted.2 (by decide)⟩,
    ⟨_, _, hv', rfl, ((handles_accounted.1 _ _ hv').2 _ rfl).1, rfl, rfl⟩⟩

/-! ## Files -/

/-- The stream whose file is open, by its ticket. -/
def Stream.openFile (st : Stream) : Multiset Stream.Ticket := if st.file.isSome then {st.ticket} else 0

/-- What `fopen` in `Start` writes over, or leaves, in `_file`; in memory it is not called. -/
def Stream.saved (st : Stream) : Multiset Stream.Ticket := if st.saveFilePath = "" then 0 else st.openFile

def openFiles (l : List Stream) : Multiset Stream.Ticket := (l.map Stream.openFile).sum

/-- A file is open from `Start` until `Clear`, which the destructor of a stream calls too, or until the next
`Start` writes over it. -/
def files : Flow Connection Act (Multiset Stream.Ticket) where
  held c := openFiles c.streams
  acquired
    | (_, .startStream st _) | (_, .startFailed st) => st.saved
    | _ => 0
  released
    | (c, .startShutdown) => openFiles (c.h3Streams.filter fun st => st.status = .connecting)
    | (c, .abort) => openFiles c.streams
    | (_, .success st) => st.openFile
    | _ => 0
  lost
    | (c, .startStream _ _) | (c, .startFailed _) => (c.h3StreamsStock.head?.map Stream.saved).getD 0
    | _ => 0

section Files
variable {c : Connection} {a : Act} {l l' : List Stream} {st st' : Stream}

@[simp] theorem openFiles_nil : openFiles [] = 0 := rfl

@[simp] theorem openFiles_cons : openFiles (st :: l) = st.openFile + openFiles l := rfl

@[simp] theorem openFiles_append : openFiles (l ++ l') = openFiles l + openFiles l' := by
  simp [openFiles]

theorem openFiles_perm (h : l.Perm l') : openFiles l = openFiles l' := (h.map _).sum_eq

theorem openFiles_congr {f : Stream → Stream} (h : ∀ st ∈ l, (f st).openFile = st.openFile) :
    openFiles (l.map f) = openFiles l := by
  rw [openFiles, List.map_map]
  exact congrArg List.sum (List.map_congr_left h)

theorem openFile_congr (ht : st'.ticket = st.ticket) (hf : st'.file.isSome = st.file.isSome) :
    st'.openFile = st.openFile := by
  rw [Stream.openFile, Stream.openFile, ht, hf]

theorem openFiles_streams : openFiles c.streams = openFiles c.h3Streams + openFiles c.waiting := by
  rw [streams, List.append_assoc, openFiles_append, waiting]

/-- A handler leaves its stream's file open, or not, as it was. -/
theorem handled_openFile (h : Handled c a st st') : st'.openFile = st.openFile := by
  refine openFile_congr h.ticket ?_
  cases h with
  | headers _ hst => rw [Stream.eventHeaders_ok hst]
  | data _ hst =>
    rcases Stream.eventData_cases hst with ⟨_, _, -, rfl⟩ | ⟨_, _, file, _, -, rfl, hfile, -⟩
    · rfl
    · dsimp only
      cases file <;> cases hf : st.file <;> simp_all
  | finished => rfl

theorem put_openFiles (hA : Addressed c) (h : Handled c a st st') (hl : ∀ x ∈ l, x ∈ c.streams) :
    openFiles (put st' l) = openFiles l := by
  refine openFiles_congr fun x hx => ?_
  split
  · rename_i hs
    obtain ⟨id, hd⟩ := h.dispatched
    rw [unique hA (hl x hx) (streamAt_mem hd.found) (hs.trans (Stream.self_of_ticket h.ticket))]
    exact handled_openFile h
  · rfl

/-- `Start` takes the file that was open for one that it opens. -/
theorem start_openFile {q : Option Nat} {h3 : Option H3Conn} {io : StartIo} {id : Int}
    (h : st.start q h3 io = .ok (st', id)) : st'.openFile + st.saved = st.openFile + st'.saved := by
  have hticket := Stream.start_ticket h
  have hpath : st'.saveFilePath = st.saveFilePath := congrArg Stream.Ticket.saveFilePath hticket
  unfold Stream.saved
  rw [hpath]
  by_cases hmemory : st.saveFilePath = ""
  · -- in memory the file is not touched
    rw [if_pos hmemory, if_pos hmemory, add_zero, add_zero]
    obtain ⟨q', h3', -, -, hok, hfail⟩ := Stream.start_cases h
    refine openFile_congr hticket ?_
    by_cases hid : 0 ≤ id
    · rw [hok hid]
      simp [Stream.started, hmemory]
    · rw [(hfail (by omega)).memory hmemory]
  · rw [if_neg hmemory, if_neg hmemory, add_comm]

theorem shutdown_openFile (st : Stream) (status : QwfsStatus) (cause : String) :
    (st.shutdown status cause).openFile + (if st.status = .connecting then st.openFile else 0) = st.openFile := by
  unfold Stream.shutdown
  by_cases h : st.status = .connecting
  · rw [if_pos h.symm, if_pos h]
    exact zero_add _
  · rw [if_neg (Ne.symm h), if_neg h, add_zero]

theorem openFiles_shutdown (status : QwfsStatus) (cause : String) (l : List Stream) :
    openFiles (l.map fun st => st.shutdown status cause) + openFiles (l.filter fun st => st.status = .connecting) =
      openFiles l := by
  induction l with
  | nil => rfl
  | cons st l ih =>
    have hst := shutdown_openFile st status cause
    have hfilter : openFiles ((st :: l).filter fun st => st.status = .connecting) =
        (if st.status = .connecting then st.openFile else 0) +
          openFiles (l.filter fun st => st.status = .connecting) := by
      by_cases h : st.status = .connecting <;> simp [h]
    rw [List.map_cons, openFiles_cons, openFiles_cons, hfilter, add_add_add_comm, hst, ih]

theorem openFiles_dropDelivered (hA : Addressed c) (hst : st ∈ c.h3Streams) :
    openFiles (c.dropDelivered st).h3Streams + st.openFile = openFiles c.h3Streams := by
  rw [openFiles_perm (perm_dropDelivered hA hst), openFiles_cons, add_comm]

theorem files_balance (hA : Addressed c) (hE : Enabled c a) : files.Balances c a := by
  unfold Flow.Balances
  have hkeep : openFiles (apply a c).streams = openFiles c.streams → files.released (c, a) = 0 →
      files.lost (c, a) = 0 → files.acquired (c, a) = 0 →
      openFiles (apply a c).streams + files.released (c, a) + files.lost (c, a) =
        openFiles c.streams + files.acquired (c, a) := by
    intro hs hr hl ha
    rw [hs, hr, hl, ha, add_zero, add_zero]
  have hhandled : ∀ st st', Handled c a st st' → openFiles (apply a c).streams = openFiles c.streams := by
    intro st st' h
    rw [openFiles_streams, openFiles_streams, h.apply.1, h.apply.2.1,
      put_openFiles hA h fun x hx => mem_streams.2 (.inl hx), put_openFiles hA h fun x => waiting_subset]
  have hstart : ∀ st st' id, Starting c st st' id → openFiles c.waiting =
      st.openFile + openFiles (c.h3StreamsStock.tail ++ c.h3StreamsErrorStock) ∧
      (c.h3StreamsStock.head?.map Stream.saved).getD 0 = st.saved ∧
      st'.openFile + st.saved = st.openFile + st'.saved := by
    rintro st st' id ⟨-, -, -, ⟨rest, hfirst⟩, io, hstart⟩
    refine ⟨?_, ?_, start_openFile hstart⟩
    · rw [waiting, hfirst, List.cons_append, openFiles_cons]
      rfl
    · rw [hfirst]
      rfl
  have hexchange : ∀ {f f' s s' : Multiset Stream.Ticket}, f' + s = f + s' → ∀ x y,
      x + (f' + y) + 0 + s = x + (f + y) + s' := by
    intro f f' s s' h x y
    calc x + (f' + y) + 0 + s
      _ = x + y + (f' + s) := by abel
      _ = x + y + (f + s') := by rw [h]
      _ = x + (f + y) + s' := by abel
  show openFiles (apply a c).streams + files.released (c, a) + files.lost (c, a) =
    openFiles c.streams + files.acquired (c, a)
  cases hm : a.moves with
  | false =>
    have hs := sameStreams (c := c) hm
    refine hkeep ?_ ?_ ?_ ?_
    · rw [streams, streams, hs.active, hs.stock, hs.error]
    all_goals cases a <;> first | rfl | exact Bool.noConfusion hm
  | true =>
    cases a with
    | publishRequest req =>
      refine hkeep ?_ rfl rfl rfl
      simp only [apply, publishRequest_eq, streams, openFiles_append, openFiles_cons, openFiles_nil]
      show openFiles c.h3Streams + (openFiles c.h3StreamsStock + (0 + 0)) + openFiles c.h3StreamsErrorStock = _
      rw [add_zero, add_zero]
    | takeProgress =>
      refine hkeep ?_ rfl rfl rfl
      rw [openFiles_streams, openFiles_streams]
      exact congrArg (· + _) (openFiles_congr fun _ _ => rfl)
    | abort =>
      show 0 + openFiles c.streams + 0 = openFiles c.streams + 0
      rw [zero_add]
    | requeueStreams =>
      refine hkeep ?_ rfl rfl rfl
      simp only [apply, requeueStreams, setPhase, closeUdpSocket, streams, openFiles_append, openFiles_nil]
      abel
    | retryStream =>
      refine hkeep ?_ rfl rfl rfl
      simp only [apply, retryStream, setPhase, setStatus, streams, openFiles_append, openFiles_nil]
      abel
    | placeholder id => exact hkeep rfl rfl rfl rfl
    | eventHeaders id list st' =>
      obtain ⟨st, hd, hst⟩ := hE
      exact hkeep (hhandled _ _ (.headers hd hst)) rfl rfl rfl
    | eventData id body st' =>
      obtain ⟨st, hd, hst⟩ := hE
      exact hkeep (hhandled _ _ (.data hd hst)) rfl rfl rfl
    | eventFinished id st' =>
      obtain ⟨st, hd, rfl⟩ := hE
      exact hkeep (hhandled _ _ (.finished hd)) rfl rfl rfl
    | startStream st' id =>
      obtain ⟨st, hst, -⟩ := hE
      obtain ⟨hwaiting, hlost, hfile⟩ := hstart _ _ _ hst
      rw [openFiles_streams, openFiles_streams, hwaiting]
      show openFiles (c.h3Streams ++ [st']) + openFiles (c.h3StreamsStock.tail ++ c.h3StreamsErrorStock) + 0 +
        (c.h3StreamsStock.head?.map Stream.saved).getD 0 = _
      rw [hlost, openFiles_append, openFiles_cons, openFiles_nil, add_zero st'.openFile,
        add_assoc (openFiles c.h3Streams)]
      exact hexchange hfile _ _
    | startFailed st' =>
      obtain ⟨st, id, hst, -⟩ := hE
      obtain ⟨hwaiting, hlost, hfile⟩ := hstart _ _ _ hst
      rw [openFiles_streams, openFiles_streams, hwaiting]
      show openFiles c.h3Streams + openFiles ((st' :: c.h3StreamsStock.tail) ++ c.h3StreamsErrorStock) + 0 +
        (c.h3StreamsStock.head?.map Stream.saved).getD 0 = _
      rw [hlost, List.cons_append, openFiles_cons]
      exact hexchange hfile _ _
    | startShutdown =>
      rw [openFiles_streams, openFiles_streams]
      show openFiles (c.h3Streams.map fun st => st.shutdown c.status c.errorDetail) + openFiles c.waiting +
        openFiles (c.h3Streams.filter fun st => st.status = .connecting) + 0 = openFiles c.h3Streams +
          openFiles c.waiting + 0
      rw [← openFiles_shutdown c.status c.errorDetail c.h3Streams]
      abel
    | finishShutdown =>
      refine hkeep ?_ rfl rfl rfl
      simp only [apply, stockForRetry, setPhase, closeUdpSocket, streams, openFiles_append, openFiles_nil]
      rw [openFiles_perm (List.reverse_perm c.h3Streams)]
      abel
    | success st =>
      rw [openFiles_streams, openFiles_streams]
      show openFiles (c.dropDelivered st).h3Streams + openFiles c.waiting + st.openFile + 0 = openFiles c.h3Streams +
        openFiles c.waiting + 0
      rw [← openFiles_dropDelivered hA hE.1]
      abel
    | streamRetry st => exact hE.elim
    | _ => exact Bool.noConfusion hm

/-- The condition: no request leaves the active ones, or stays behind a failed `Start`, with its file open. -/
def ShutsFiles (c : Connection) : Act → Prop
  | .requeueStreams | .finishShutdown => ∀ st ∈ c.h3Streams, st.file = none
  | .startFailed st => st.file = none
  | _ => True

instance (c : Connection) (a : Act) : Decidable (ShutsFiles c a) := by
  apply Act.casesOn (motive := fun a => Decidable (ShutsFiles c a)) a <;> intros <;>
    (dsimp only [ShutsFiles]; infer_instance)

/-- The streams that wait have no file open. -/
def WaitsShut (c : Connection) : Prop := ∀ st ∈ c.waiting, st.file = none

theorem handled_file (h : Handled c a st st') (hf : st.file = none) : st'.file = none := by
  cases h with
  | headers _ hst =>
    rw [Stream.eventHeaders_ok hst]
    exact hf
  | data _ hst =>
    rcases Stream.eventData_cases hst with ⟨_, _, -, rfl⟩ | ⟨_, _, _, _, -, rfl, hfile, -⟩
    · exact hf
    · exact hfile.2 hf
  | finished => exact hf

theorem waitsShut_apply (hA : Addressed c) (hE : Enabled c a) (h : WaitsShut c) :
    WaitsShut (apply a c) ↔ ShutsFiles c a := by
  constructor
  · intro h'
    cases a with
    | requeueStreams =>
      exact fun st hst => h' st (List.mem_append_left _ (List.mem_append_right _ hst))
    | finishShutdown =>
      exact fun st hst => h' st (List.mem_append_right _ (List.mem_append_left _ (List.mem_reverse.2 hst)))
    | startFailed st => exact h' st (List.mem_append_left _ List.mem_cons_self)
    | _ => trivial
  · intro hM x hx
    cases waiting_from hA hE hx with
    | same hy => exact h x hy
    | published => rfl
    | handled hy hh => exact handled_file hh (h _ hy)
    | failed => exact hM
    | requeued hy => exact hM x hy
    | shelved hy => exact hM x hy

/-- Then `Start` finds no open file. -/
theorem files_not_lost (hE : Enabled c a) (h : WaitsShut c) : files.lost (c, a) = 0 := by
  have hfirst : (c.h3StreamsStock.head?.map Stream.saved).getD 0 = 0 := by
    cases hstock : c.h3StreamsStock with
    | nil => rfl
    | cons st rest =>
      have hfile : st.file = none := h st (by simp [waiting, hstock])
      simp [Stream.saved, Stream.openFile, hfile]
  cases a <;> first | exact hfirst | rfl

end Files

/-- Wherever a run comes, each file that was opened is open, was closed, or its pointer was written over; and the
destructor closes what is open. The requests that wait have their files closed exactly if none is put back, or
fails to start, with its file open; then no file is lost. -/
theorem files_accounted {hostName port : String} {ops : List Op} :
    (∀ hist c, (exec ops).Visits (new hostName port) hist c → files.Accounted hist c ∧
      ∀ c', c.destroy = .ok c' → files.held c' = 0) ∧
    ((∀ hist c, (exec ops).Visits (new hostName port) hist c → WaitsShut c) ↔
      ∀ e ∈ (exec ops).trace (new hostName port), ShutsFiles e.1 e.2) ∧
    ((∀ e ∈ (exec ops).trace (new hostName port), ShutsFiles e.1 e.2) →
      total files.lost ((exec ops).trace (new hostName port)) = 0) := by
  have hshut : (∀ hist c, (exec ops).Visits (new hostName port) hist c → WaitsShut c) ↔
      ∀ e ∈ (exec ops).trace (new hostName port), ShutsFiles e.1 e.2 := by
    refine visits_iff (J := fun _ => WaitsShut) (fun st hst => absurd hst List.not_mem_nil) fun _ _ _ hp h => ?_
    obtain ⟨hA, hE⟩ := exec_enabled hp
    exact waitsShut_apply hA hE h
  refine ⟨fun hist c hv => ⟨?_, fun c' hd => ?_⟩, hshut, fun hM => ?_⟩
  · refine Flow.accounted_visits files rfl (fun _ _ _ hp => ?_) hv
    obtain ⟨hA, hE⟩ := exec_enabled hp
    exact files_balance hA hE
  · unfold destroy at hd
    split at hd <;> cases hd
    rfl
  · refine total_eq_zero _ fun e he => ?_
    obtain ⟨hist, hp⟩ := performs_of_mem he
    exact files_not_lost (exec_enabled hp).2 (hshut.2 hM _ _ hp.visits)

/-- A request into a file, and a Reconnect while it is under way: it is started with the old file still open. -/
def savedOps (reconnects : Bool) : List Op :=
  connectOps ++ .publishRequest { saveFilePath := some "/tmp/a" } :: .update {} ::
    if reconnects then .reconnect 0 0 :: connectOps ++ [.update {}] else deliverOps

theorem files_accounted_saved :
    (∃ c, (exec (savedOps false)).Visits (new "h" "443") ((exec (savedOps false)).trace (new "h" "443")) c ∧
      files.Accounted ((exec (savedOps false)).trace (new "h" "443")) c ∧ files.held c = 0 ∧
      (total files.acquired ((exec (savedOps false)).trace (new "h" "443"))).card = 1 ∧
      total files.lost ((exec (savedOps false)).trace (new "h" "443")) = 0) ∧
    (total files.lost ((exec (savedOps true)).trace (new "h" "443"))).card = 1 := by
  have hv := visits_end (p := exec (savedOps false)) (s := new "h" "443") rfl
  exact ⟨⟨_, hv, (files_accounted.1 _ _ hv).1, rfl, rfl, files_accounted.2.2 (by decide)⟩, rfl⟩

/-! ## Sockets, address lists and config objects -/

/-- What a connection has at most one of: a socket, the list that `getaddrinfo` made, and quiche's two
config objects. -/
inductive Kind where
  | socket | addrInfo | config | h3Config
  deriving DecidableEq, Repr

def Kind.held (c : Connection) : Kind → Nat
  | .socket => c.sock.toNat
  | .addrInfo => c.peerAddInfo.toNat
  | .config => c.quicheConfig.toNat
  | .h3Config => c.quicheH3Config.toNat

/-- What `CreateUdpSocket` acquires. -/
def SocketIo.acquires : SocketIo → Kind → Nat
  | .unresolved, _ => 0
  | _, .addrInfo => 1
  | .noSocket, .socket => 0
  | _, .socket => 1
  | _, _ => 0

/-- What `CreateUdpSocket` gives back of that, if `socket` or `connect` fails. After `connect` the second
`freeaddrinfo` is given a null pointer. -/
def SocketIo.releases : SocketIo → Kind → Nat
  | .noSocket, .addrInfo | .notConnected, .addrInfo | .notConnected, .socket => 1
  | _, _ => 0

/-- What `SetOptionsInternal` acquires. -/
def InitIo.acquires (io : InitIo) : Kind → Nat
  | .config => io.config.toNat
  | .h3Config => (io.config && io.h3Config).toNat
  | _ => 0

/-- What `CloseUdpSocket` gives back. -/
def Kind.closed (c : Connection) : Kind → Nat
  | .socket => c.sock.toNat
  | .addrInfo => c.peerAddInfo.toNat
  | _ => 0

/-- What `ClearConfig` gives back. -/
def Kind.cleared (c : Connection) : Kind → Nat
  | .config => c.quicheConfig.toNat
  | .h3Config => c.quicheH3Config.toNat
  | _ => 0

/-- What is acquired next is never written over the last: `CreateUdpSocket` closes the socket first, and
`SetOptionsInternal` frees the config objects. -/
def Kind.flow (kind : Kind) : Flow Connection Act Nat where
  held c := kind.held c
  acquired
    | (_, .createSocket io) | (_, .createUdpSocket io) => io.acquires kind
    | (_, .initializeQuiche io) => io.acquires kind
    | _ => 0
  released
    | (c, .createSocket io) | (c, .createUdpSocket io) => kind.closed c + io.releases kind
    | (c, .initializeQuiche _) => kind.cleared c
    | (c, .transitionConnectionMigration) | (c, .requeueStreams) | (c, .finishAbort) | (c, .finishShutdown) =>
      kind.closed c
    | _ => 0
  lost _ := 0

section Kinds
variable {c : Connection} {a : Act} {kind : Kind}

theorem createUdpSocket_owned (kind : Kind) (c : Connection) (io : SocketIo) :
    kind.held (c.createUdpSocket io) + (kind.closed c + io.releases kind) = kind.held c + io.acquires kind := by
  cases io <;> cases kind <;>
    simp [createUdpSocket, closeUdpSocket, setStatus, Kind.held, Kind.closed, SocketIo.acquires, SocketIo.releases] <;>
    omega

theorem closeUdpSocket_owned (c : Connection) : kind.held c.closeUdpSocket + kind.closed c = kind.held c := by
  cases kind <;> simp [closeUdpSocket, Kind.held, Kind.closed]

theorem setOptionsInternal_owned (c : Connection) (io : InitIo) :
    kind.held (c.setOptionsInternal io) + kind.cleared c = kind.held c + io.acquires kind := by
  cases kind <;> cases hc : io.config <;> cases hh : io.h3Config <;>
    simp [setOptionsInternal, setStatus, Kind.held, Kind.cleared, InitIo.acquires, hc, hh] <;> omega

theorem initializeQuiche_owned (c : Connection) (io : InitIo) :
    kind.held (c.initializeQuiche io).1 = kind.held (c.setOptionsInternal io) := by
  unfold initializeQuiche setQlogSettings
  dsimp only
  split_ifs <;> cases kind <;> rfl

theorem createSocket_owned (c : Connection) (io : SocketIo) :
    kind.held (c.createSocket io).1 + (kind.closed c + io.releases kind) = kind.held c + io.acquires kind := by
  -- `ClearForRetry` has closed the socket, which `CreateUdpSocket` then finds closed
  have hclear : kind.held c.clearForRetry + kind.closed c = kind.held c := closeUdpSocket_owned c
  have hnone : kind.closed c.clearForRetry = 0 := by cases kind <;> rfl
  have hmake := createUdpSocket_owned kind c.clearForRetry io
  have hend : kind.held (c.createSocket io).1 = kind.held (c.clearForRetry.createUdpSocket io) := by
    cases io <;> cases kind <;> rfl
  omega

theorem kind_balance : kind.flow.Balances c a := by
  have hkeep : kind.held (apply a c) = kind.held c → kind.flow.released (c, a) = 0 →
      kind.flow.acquired (c, a) = 0 → kind.flow.Balances c a := by
    intro hh hr ha
    show kind.held (apply a c) + kind.flow.released (c, a) + 0 = kind.held c + kind.flow.acquired (c, a)
    rw [hh, hr, ha]
  cases a with
  | createSocket io => exact createSocket_owned c io
  | createUdpSocket io => exact createUdpSocket_owned kind c io
  | initializeQuiche io =>
    show kind.held (c.initializeQuiche io).1 + kind.cleared c + 0 = kind.held c + io.acquires kind
    rw [initializeQuiche_owned]
    exact setOptionsInternal_owned c io
  | transitionConnectionMigration => exact closeUdpSocket_owned c
  | requeueStreams => exact closeUdpSocket_owned c
  | finishAbort => exact closeUdpSocket_owned c
  | finishShutdown => exact closeUdpSocket_owned c
  | publishRequest req =>
    refine hkeep ?_ rfl rfl
    simp only [apply, publishRequest_eq]
    cases kind <;> rfl
  | recvFailed e =>
    refine hkeep ?_ rfl rfl
    simp only [apply]
    split_ifs <;> cases kind <;> rfl
  | probePath ok => exact hkeep (by cases ok <;> cases kind <;> rfl) rfl rfl
  | timeout closed =>
    refine hkeep ?_ rfl rfl
    simp only [apply]
    split_ifs <;> cases kind <;> rfl
  | _ => exact hkeep (by cases kind <;> rfl) rfl rfl

end Kinds

/-- Wherever a run comes, whatever it meets, each socket, address list and config object that was made is held or
was given back, none twice; and the destructor gives back what is held. -/
theorem owned_accounted {hostName port : String} {ops : List Op} (kind : Kind) {hist : List (Connection × Act)}
    {c : Connection} (hv : (exec ops).Visits (new hostName port) hist c) :
    total kind.flow.acquired hist = kind.held c + total kind.flow.released hist ∧
      ∀ c', c.destroy = .ok c' → kind.held c' = 0 := by
  constructor
  · have h0 : kind.held (new hostName port) = 0 := by cases kind <;> rfl
    have h := Flow.accounted_visits kind.flow h0 (fun _ _ _ _ => kind_balance) hv
    have hlost : total kind.flow.lost hist = 0 := total_eq_zero _ fun _ _ => rfl
    rwa [Flow.Accounted, hlost, add_zero] at h
  · intro c' hd
    unfold destroy at hd
    split at hd <;> cases hd
    cases kind <;> rfl

/-- The socket cannot be connected, then a connection is made, and it fails. -/
def socketsOps : List Op := .update { socket := .notConnected } :: connectOps ++ rejectedOps

theorem owned_accounted_sockets : ∃ c, (exec socketsOps).Visits (new "h" "443")
      ((exec socketsOps).trace (new "h" "443")) c ∧
    total Kind.addrInfo.flow.acquired ((exec socketsOps).trace (new "h" "443")) =
      Kind.addrInfo.held c + total Kind.addrInfo.flow.released ((exec socketsOps).trace (new "h" "443")) ∧
    total Kind.addrInfo.flow.acquired ((exec socketsOps).trace (new "h" "443")) = 2 ∧ Kind.addrInfo.held c = 1 := by
  have hv := visits_end (p := exec socketsOps) (s := new "h" "443") rfl
  exact ⟨_, hv, (owned_accounted .addrInfo hv).1, rfl, rfl⟩

end Nhh3
