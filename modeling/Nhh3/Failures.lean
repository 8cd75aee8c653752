import Nhh3.Client
import Nhh3.Lib.Cells
/-!
# Failures say which host

An error status comes with a text, of the connection or of a stream, and each of
these texts starts with the host's name. A client that is told of a failure is told
where it was, whichever of its connections it comes from.
-/

namespace Nhh3

open Lib Lib.Prog Connection

/-- The text of an error of this host. -/
def Names (hostName s : String) : Prop := ∃ m, s = "[qwfs error][" ++ hostName ++ "]" ++ m

/-- An error status of the connection comes with a text. -/
def Connection.Explained (c : Connection) : Prop := c.status < .wait → Names c.hostName c.errorDetail

/-- An error status of a stream comes with a text. -/
def Stream.Explained (st : Stream) : Prop := st.status < .wait → Names st.hostName st.errorDetail

variable {hostName port : String} {c : Connection} {a : Act} {st st' : Stream}

theorem Names.append {s : String} (h : Names hostName s) (m : String) : Names hostName (s ++ m) := by
  obtain ⟨m', rfl⟩ := h
  exact ⟨m' ++ m, String.append_assoc ..⟩

/-! ## The connection -/

theorem explained_setStatus (c : Connection) (status : QwfsStatus) (m : String) :
    (c.setStatus status (some m)).Explained :=
  fun _ => ⟨m ++ "\n", String.append_assoc ..⟩

theorem explained_fine (h : .wait ≤ c.status) : c.Explained := fun hs => absurd h ((lt_wait_iff _).1 hs)

theorem explained_createUdpSocket (io : SocketIo) (h : c.Explained) : (c.createUdpSocket io).Explained := by
  cases io with
  | ok => exact h
  | _ => exact explained_setStatus _ _ _

theorem explained_setOptionsInternal (io : InitIo) (h : c.Explained) : (c.setOptionsInternal io).Explained := by
  unfold setOptionsInternal
  split_ifs
  · exact h
  · exact explained_setStatus _ _ _
  · exact explained_setStatus _ _ _

theorem explained_initializeQuiche (io : InitIo) (h : c.Explained) : (c.initializeQuiche io).1.Explained := by
  have hinternal := explained_setOptionsInternal io h
  unfold initializeQuiche setQlogSettings
  dsimp only
  generalize c.setOptionsInternal io = d at hinternal
  split_ifs <;> first | exact hinternal | exact explained_setStatus _ _ _

/-- Every function that sets an error status says why. -/
theorem explained_apply (h : c.Explained) : (apply a c).Explained := by
  cases a with
  | publishRequest req =>
    simp only [apply, publishRequest_eq]
    by_cases hs : .wait ≤ c.status
    · simp only [if_pos hs]
      exact explained_fine (show QwfsStatus.wait ≤ .connecting by decide)
    · simp only [if_neg hs]
      exact h
  | abort => exact explained_fine (show QwfsStatus.wait ≤ .aborting by decide)
  | beginConnecting => exact explained_fine (show QwfsStatus.wait ≤ .connecting by decide)
  | transitionConnectionMigration | retryStream | idle | finishAbort =>
    exact explained_fine (show QwfsStatus.wait ≤ .wait by decide)
  | recvFailed error =>
    have hset := explained_setStatus c (convertQuicheErrorToStatus error c.status)
      ("Failed to process packet(quiche_error is " ++ toString error ++ ").\n")
    simp only [apply]
    split_ifs <;> exact hset
  | createSocket io =>
    have hcleared : c.clearForRetry.Explained := explained_fine (show QwfsStatus.wait ≤ .wait by decide)
    cases io <;> exact explained_createUdpSocket _ hcleared
  | initializeQuiche io => exact explained_initializeQuiche io h
  | sendFailed _ | socketFailed _ | handshakeFailed | startStreamFailed | newSourceCidFailed | connectionClosed
  | streamCritical _ => exact explained_setStatus _ _ _
  | createUdpSocket io => exact explained_createUdpSocket io h
  | probePath ok =>
    cases ok with
    | true => exact h
    | false => exact explained_setStatus _ _ _
  | timeout closed =>
    simp only [apply]
    split_ifs
    · exact explained_setStatus _ _ _
    · exact h
  | _ => exact h

/-! ## The streams -/

theorem names_errorPrefix (st : Stream) : Names st.hostName (Stream.errorPrefix st) :=
  ⟨"[STREAM:" ++ toString st.streamId ++ "]", by simp only [Stream.errorPrefix, String.append_assoc]; rfl⟩

/-- A text of the stream: what it starts with, what went wrong, and a detail. -/
theorem explained_text (st : Stream) (status : QwfsStatus) (m m' m'' : String) :
    (st.setStatus status (some (Stream.errorPrefix st ++ m ++ m' ++ m''))).Explained :=
  fun _ => (((names_errorPrefix st).append m).append m').append m''

theorem explained_sendRequest (st : Stream) (q : Nat) (h3 : H3Conn) (id : Int) (h : st.Explained) :
    (st.sendRequest q h3 id).Explained := by
  unfold Stream.sendRequest
  dsimp only
  split_ifs
  · exact explained_text _ _ _ _ _
  · exact h

theorem explained_start {q : Option Nat} {h3 : Option H3Conn} {io : StartIo} {id : Int}
    (hst : st.start q h3 io = .ok (st', id)) (h : st.Explained) : st'.Explained := by
  unfold Stream.start at hst
  split at hst
  · split_ifs at hst
    · cases hst
      exact explained_sendRequest st _ _ _ h
    · cases hst
      exact explained_sendRequest { st with file := some [] } _ _ _ h
    · cases hst
      exact explained_text _ _ _ _ _
  · cases hst

theorem explained_handled (hh : Handled c a st st') (h : st.Explained) : st'.Explained := by
  cases hh with
  | headers _ hst =>
    rw [Stream.eventHeaders_ok hst]
    exact h
  | @data _ body _ _ _ hst =>
    rcases Stream.eventData_cases hst with ⟨error, _, rfl, -⟩ | ⟨_, _, _, _, -, rfl, -⟩
    · unfold Stream.eventData at hst
      split at hst
      · cases hst
        exact explained_text _ _ _ _ _
      · cases hst
    · exact h
  | finished => exact fun hs => absurd hs (show ¬ QwfsStatus.completed < .wait by decide)

/-! ## Every run -/

/-- The texts of all error statuses name the host. -/
structure Explains (hostName : String) (c : Connection) : Prop where
  name : c.hostName = hostName
  explained : c.Explained
  streams : ∀ st ∈ c.streams, st.hostName = hostName ∧ st.Explained

theorem host_of_ticket (h : st'.ticket = st.ticket) : st'.hostName = st.hostName :=
  congrArg Stream.Ticket.hostName h

/-- A shutdown passes the connection's status and its text on. -/
theorem explained_shutdown (hname : st.hostName = c.hostName) (hc : c.Explained) (h : st.Explained) :
    (st.shutdown c.status c.errorDetail).Explained := by
  unfold Stream.shutdown
  split_ifs
  · intro hs
    show Names st.hostName c.errorDetail
    rw [hname]
    exact hc hs
  · exact h

theorem explains_apply (hA : Addressed c) (hE : Enabled c a) (h : Explains hostName c) :
    Explains hostName (apply a c) := by
  have hactive : ∀ st ∈ c.h3Streams, st.hostName = hostName ∧ st.Explained := fun st hst =>
    h.streams st (mem_streams.2 (.inl hst))
  have hwaiting : ∀ st ∈ c.waiting, st.hostName = hostName ∧ st.Explained := fun st hst =>
    h.streams st (waiting_subset hst)
  have hhandled : ∀ {st st' : Stream}, Handled c a st st' → st.hostName = hostName ∧ st.Explained →
      st'.hostName = hostName ∧ st'.Explained := fun hh hst =>
    ⟨(host_of_ticket hh.ticket).trans hst.1, explained_handled hh hst.2⟩
  have hstarted : ∀ {st st' : Stream} {id : Int}, Starting c st st' id →
      st'.hostName = hostName ∧ st'.Explained := by
    intro st st' id hst
    obtain ⟨io, hstart⟩ := hst.start
    obtain ⟨hname, hold⟩ := hwaiting st (starting_mem hst)
    exact ⟨(host_of_ticket (Stream.start_ticket hstart)).trans hname, explained_start hstart hold⟩
  refine ⟨(hostName_apply a c).trans h.name, explained_apply h.explained, fun x hx => ?_⟩
  rcases mem_streams.1 hx with hx | hx
  · cases active_from hA hE hx with
    | kept hy hb =>
      cases hb with
      | same => exact hactive _ hy
      | progress => exact ⟨(hactive _ hy).1, (hactive _ hy).2⟩
      | handled hh => exact hhandled hh (hactive _ hy)
      | shutdown =>
        obtain ⟨hname, hold⟩ := hactive _ hy
        exact ⟨(host_of_ticket (Stream.ticket_shutdown c.status c.errorDetail)).trans hname,
          explained_shutdown (hname.trans h.name.symm) h.explained hold⟩
    | started hst hid => exact hstarted hst
  · cases waiting_from hA hE (List.mem_append.2 hx) with
    | same hy => exact hwaiting _ hy
    | published => exact ⟨h.name, fun hs => absurd hs (show ¬ QwfsStatus.connecting < .wait by decide)⟩
    | handled hy hh => exact hhandled hh (hwaiting _ hy)
    | failed hst hid => exact hstarted hst
    | requeued hy => exact hactive _ hy
    | shelved hy => exact hactive _ hy

theorem explains_visits {ops : List Op} {hist : List (Connection × Act)}
    (hv : (exec ops).Visits (.new hostName port) hist c) : Explains hostName c :=
  exec_inv (J := fun _ => Explains hostName) (K := fun _ _ => True)
    ⟨rfl, explained_fine (show QwfsStatus.wait ≤ .wait by decide), fun _ h => (nomatch h)⟩
    (fun _ _ _ hA hE _ h => explains_apply hA hE h) (fun _ _ => trivial) hv

/-! ## Every interleaving -/

/-- In any interleaving of the threads of all hosts: where a host's connection is in an error status, its text
names this host, and so does the message of each failure among the responses of its `Update`s. -/
theorem failures_explained (text : Bytes → String) {s s₁ s' : Nhh3Statics} {log₀ seen log : List Seen} {id : Nat}
    {hostName port : String} {options : QwfsOptions} {turns : List Turn} (hrun : Runs text log₀ s)
    (hnew : s.turn text (.construct id hostName port options) = some (seen, s₁))
    (hturns : s₁.take text turns = some (log, s')) (hkept : .destroy id ∉ turns) (hfine : Fine (log₀ ++ log)) :
    (∃ x, s'.nhh3ImplList id = some x ∧
      (x.host.connection.status < .wait → Names hostName x.host.connection.errorDetail)) ∧
    ∀ res ∈ s'.received id log, res.status < 0 → Names hostName res.errorMessage := by
  obtain ⟨x, hx, ⟨ops, -, hway⟩, hcarried⟩ := host_carried hrun hnew hturns hkept hfine
  have hexplains := explains_visits hway.visits
  refine ⟨⟨x, hx, fun hs => hexplains.name ▸ hexplains.explained hs⟩, fun res hres hs => ?_⟩
  obtain ⟨cb, hcb, hcarries⟩ := Cells.forall₂_right hcarried hres
  obtain ⟨⟨c, a⟩, he, hcalls⟩ := List.mem_filterMap.1 hcb
  cases hcarries with
  | successFile => cases hs
  | successBinary => cases hs
  | error status detail =>
    cases a with
    | error st =>
      cases hcalls
      obtain ⟨hist, hp⟩ := performs_of_mem (hway.visits.1.subset (List.mem_append_right _ he))
      obtain ⟨hst, hstatus⟩ := (exec_enabled hp).2
      obtain ⟨hname, hexplained⟩ := (explains_visits hp.visits).streams st (mem_streams.2 (.inl hst))
      exact hname ▸ hexplained hstatus
    | success st =>
      simp only [Act.callsBack, Stream.callSuccessCallback] at hcalls
      split at hcalls <;> cases hcalls
    | _ => cases hcalls

/-- quiche has no room for the body of the one request. -/
def rejectedTurns : List Turn :=
  (requestTurns 0).tail ++ eventTurns 0 (.data (.failed QuicheH3Err.bufferTooShort)) 3 ++
    .update 0 :: stepTurns 0 (.update fun _ => {}) 6

theorem failures_explained_rejected : ∃ log s' res,
    firstHost.take latin1 rejectedTurns = some (log, s') ∧ s'.received 0 log = [res] ∧
    res.status = QwfsStatus.criticalError.toInt ∧ Names "h" res.errorMessage := by
  have hany : ((firstHost.take latin1 rejectedTurns).any fun r => decide (Fine r.1 ∧
      (r.2.received 0 r.1).map ResponseParamaters.status = [QwfsStatus.criticalError.toInt])) = true := by
    decide +kernel
  obtain ⟨⟨log, s'⟩, hturns, hlog⟩ := (Option.any_eq_true ..).1 hany
  obtain ⟨hfine, hstatuses⟩ := of_decide_eq_true hlog
  obtain ⟨res, hreceived, hstatus⟩ := List.map_eq_singleton_iff.1 hstatuses
  have hnames := (failures_explained latin1 .start turn_firstHost hturns (kept_of_spares rfl) hfine).2 res
    (hreceived ▸ List.mem_singleton.2 rfl) (by rw [hstatus]; decide)
  exact ⟨log, s', res, hturns, hreceived, hstatus, hnames⟩

end Nhh3
