import Nhh3.Events
import Nhh3.Retry
import Nhh3.Starting
/-!
# A network that answers

When requests start, answers arrive whole and nothing fails, every waiting request is
delivered: batch by batch, in the order they wait, with what the server answered,
however the events of a batch are interleaved and spread over the Updates.
-/

namespace Nhh3

open Lib Lib.Prog Lib.Cells Connection

/-! ## One answer -/

def Arrival.event : Arrival → H3Event
  | .headers list => .headers list
  | .data chunk malloc => .data (.buffered chunk malloc)

/-- The events of a whole answer. -/
def answerEvents (as : List Arrival) : List H3Event := as.map Arrival.event ++ [.finished]

/-- The stream can take the answer in: the numbers in its headers are numbers, its data comes in chunks that
fit the buffer and keeps to a content-length declared before; in memory none is declared later, and each
block asked for is there. -/
structure Arrivable (st : Stream) (as : List Arrival) : Prop where
  headers : ∀ name ∈ ["content-length", ":status"], AllAccepted name (headersIn as)
  chunks : ∀ c ∈ chunksFrom 0 as, 1 ≤ c.2.length ∧ c.2.length ≤ recvTmpBufSize
  length : declaredLength (chunksFrom 0 as) = 0 ∨
    (joined (chunksFrom 0 as)).length ≤ declaredLength (chunksFrom 0 as)
  memory : st.saveFilePath = "" → Undeclared (chunksFrom 0 as) ∧ false ∉ mallocsFrom 0 0 as

namespace Stream
variable {st st' st₁ : Stream} {events events' : List H3Event} {as : List Arrival}

/-- What the answer to a request should be reported as. -/
def Ticket.answered (t : Ticket) (as : List Arrival) : Response where
  responseCode := numberIn ":status" (headersIn as) 0
  headers := (headersIn as).flatMap fun h => [h.1, h.2]
  filePath := if t.saveFilePath = "" then none else some t.saveFilePath
  body := joined (chunksFrom 0 as)
  bodySize := (joined (chunksFrom 0 as)).length

/-- What its events make of a stream. -/
def hear (st : Stream) : List H3Event → Except Fault Stream
  | [] => .ok st
  | event :: events => do (← st.handle event).hear events

theorem hear_cons {event : H3Event} : st.hear (event :: events) = .ok st' ↔
    ∃ st₁, st.handle event = .ok st₁ ∧ st₁.hear events = .ok st' := by
  rw [hear]
  cases st.handle event with
  | error e => exact ⟨nofun, fun ⟨_, h, _⟩ => nomatch h⟩
  | ok st₁ => exact ⟨fun h => ⟨st₁, rfl, h⟩, fun ⟨_, h, hrest⟩ => by cases h; exact hrest⟩

/-- A cell's stream is what its events make of it. -/
theorem hear_iff (n : Nat) : st.hear events = .ok st' ↔ ∃ m, loopCells.handleAll (st, n) events = .ok (st', m) := by
  induction events generalizing st n with
  | nil => simp [hear, handleAll]
  | cons event events ih =>
    simp only [hear_cons, handleAll_cons, ih (n + if event = .finished then st.writeSize else 0)]
    constructor
    · rintro ⟨st₁, hst₁, m, hm⟩
      exact ⟨m, (st₁, _), loopHandle_ok.2 ⟨hst₁, rfl⟩, hm⟩
    · rintro ⟨m, ⟨st₁, k⟩, hs, hm⟩
      obtain ⟨hst₁, rfl⟩ := loopHandle_ok.1 hs
      exact ⟨st₁, hst₁, m, hm⟩

theorem hear_append : st.hear (events ++ events') = .ok st' ↔
    ∃ st₁, st.hear events = .ok st₁ ∧ st₁.hear events' = .ok st' := by
  induction events generalizing st with
  | nil => simp [hear]
  | cons event events ih =>
    simp only [List.cons_append, hear_cons, ih]
    exact ⟨fun ⟨st₁, h, st₂, h₁, h₂⟩ => ⟨st₂, ⟨st₁, h, h₁⟩, h₂⟩, fun ⟨st₂, ⟨st₁, h, h₁⟩, h₂⟩ => ⟨st₁, h, st₂, h₁, h₂⟩⟩

theorem hear_arrivals (as : List Arrival) : st.hear (as.map Arrival.event) = st.arrivals as := by
  induction as generalizing st with
  | nil => rfl
  | cons a as ih =>
    rw [List.map_cons, hear, arrivals]
    cases a with
    | headers list => exact bind_congr fun st₁ => ih
    | data chunk malloc => exact bind_congr fun st₁ => ih

theorem hear_ticket (h : st.hear events = .ok st') : st'.ticket = st.ticket := by
  induction events generalizing st with
  | nil =>
    cases h
    rfl
  | cons event events ih =>
    obtain ⟨st₁, hst₁, hrest⟩ := hear_cons.1 h
    exact (ih hrest).trans (handle_ticket hst₁)

theorem handle_streamId {event : H3Event} (h : st.handle event = .ok st') : st'.streamId = st.streamId := by
  cases event with
  | headers list =>
    rw [eventHeaders_ok h]
  | data body =>
    have h : st.eventData body = .ok st' := h
    rcases eventData_cases h with ⟨_, _, -, rfl⟩ | ⟨_, _, _, _, -, rfl, -⟩ <;> rfl
  | _ =>
    cases h
    rfl

theorem hear_streamId (h : st.hear events = .ok st') : st'.streamId = st.streamId := by
  induction events generalizing st with
  | nil =>
    cases h
    rfl
  | cons event events ih =>
    obtain ⟨st₁, hst₁, hrest⟩ := hear_cons.1 h
    exact (ih hrest).trans (handle_streamId hst₁)

/-- What arrives does not touch the id, and adds to the headers. -/
theorem arrivals_frame (h : st.arrivals as = .ok st') : st'.streamId = st.streamId ∧
    (st'.file = none ↔ st.file = none) ∧ st'.responseCode = numberIn ":status" (headersIn as) st.responseCode ∧
    st'.resHeaders = st.resHeaders ++ (headersIn as).flatMap fun h => [h.1, h.2] := by
  induction as generalizing st with
  | nil =>
    cases h
    simp [headersIn, numberIn]
  | cons a as ih =>
    rw [arrivals] at h
    cases hst : st.arrive a with
    | error e =>
      rw [hst] at h
      cases h
    | ok st₁ =>
      rw [hst] at h
      obtain ⟨hid, hfile, hcode, hheaders⟩ := ih h
      rw [hid, hfile, hcode, hheaders]
      cases a with
      | headers list =>
        rw [eventHeaders_ok hst]
        simp [headersIn, numberIn]
      | data chunk malloc =>
        have hst : st.eventData (.buffered chunk malloc) = .ok st₁ := hst
        rcases eventData_cases hst with ⟨_, _, hfailed, -⟩ | ⟨_, _, _, _, -, rfl, hnone, -⟩
        · cases hfailed
        · simp [headersIn, hnone]

/-- What a stream that holds a whole body reports. -/
theorem Holds.response {body : Bytes} {s : Sink} (h : st.Holds body s) : st.response =
    { responseCode := st.responseCode, headers := st.resHeaders, filePath := st.file.map fun _ => st.saveFilePath,
      body, bodySize := body.length } := by
  unfold Stream.response
  rw [h.content_eq]
  cases s with
  | file =>
    have hfile : st.file = some body := h.sink
    rw [hfile]
  | memory size => rw [h.sink.1, h.written]

/-- A request that starts fresh and is answered whole: it is Completed, with the answer. -/
theorem hear_answer (q : Nat) (h3 : H3Conn) {id : Int} (hid : 0 ≤ id) (hfresh : st.Pristine) (has : Arrivable st as) :
    ∃ st', (st.started q h3 id).hear (answerEvents as) = .ok st' ∧ st'.ticket = st.ticket ∧ st'.streamId = id ∧
      st'.status = .completed ∧ st'.response = st.ticket.answered as := by
  have hblank : st.Blank := by
    rw [← hfresh]
    exact blank_clear st
  obtain ⟨hholds, hlength⟩ := holds_start hblank (start_starts { sendRequest := id } ⟨.inr rfl, hid⟩) hid
  have hputs : ((st.started q h3 id).sink.puts 0 (chunksFrom 0 as)).isSome := by
    unfold sink
    split
    · rename_i hpath
      exact (puts_iff (fun c hc => (has.chunks c hc).1) has.length).2 (has.memory hpath).1
    · simp [puts_file]
  obtain ⟨hok, hsome⟩ := hholds.arrivals as (by rw [hlength]; exact fun c hc => (has.chunks c hc).2)
  rw [hlength, sink_ne_file] at hok hsome
  obtain ⟨st₁, hst₁⟩ := hsome has.headers (fun hpath => (has.memory hpath).2) hputs
  obtain ⟨-, -, s', -, hheld⟩ := hok st₁ hst₁
  obtain ⟨hid', hfile, hcode, hheaders⟩ := arrivals_frame hst₁
  have hhear : (st.started q h3 id).hear (answerEvents as) = .ok st₁.eventFinished :=
    hear_append.2 ⟨st₁, by rw [hear_arrivals]; exact hst₁, rfl⟩
  have hticket : st₁.eventFinished.ticket = (st.started q h3 id).ticket := hear_ticket hhear
  refine ⟨st₁.eventFinished, hhear, hticket, hid', rfl, ?_⟩
  have hheld' : st₁.eventFinished.Holds (joined (chunksFrom 0 as)) s' := ⟨hheld.handles, hheld.written, hheld.sink⟩
  have hpath : st₁.saveFilePath = st.saveFilePath := congrArg Ticket.saveFilePath hticket
  have hnone : st₁.file = none ↔ st.saveFilePath = "" := by
    rw [hfile]
    by_cases hp : st.saveFilePath = "" <;> simp [started, hp, hblank.1]
  have hcode0 : (st.started q h3 id).responseCode = 0 := by
    rw [← hfresh]
    rfl
  have hheaders0 : (st.started q h3 id).resHeaders = [] := by
    rw [← hfresh]
    rfl
  rw [hheld'.response, Ticket.answered]
  have hcode : st₁.eventFinished.responseCode = numberIn ":status" (headersIn as) 0 := by
    rw [← hcode0]
    exact hcode
  have hheaders : st₁.eventFinished.resHeaders = (headersIn as).flatMap fun h => [h.1, h.2] := by
    rw [hheaders0, List.nil_append] at hheaders
    exact hheaders
  have hfilePath : st₁.eventFinished.file.map (fun _ => st₁.eventFinished.saveFilePath) =
      if st.saveFilePath = "" then none else some st.saveFilePath := by
    show st₁.file.map (fun _ => st₁.saveFilePath) = _
    rw [hpath]
    by_cases hp : st.saveFilePath = ""
    · rw [if_pos hp, hnone.2 hp]
      rfl
    · rw [if_neg hp]
      obtain ⟨content, hcontent⟩ := Option.ne_none_iff_exists'.1 fun h => hp (hnone.1 h)
      rw [hcontent]
      rfl
  rw [hcode, hheaders, hfilePath]
  rfl

end Stream

/-! ## One Update -/

/-- An Update in which nothing fails and nothing ends. -/
structure UpdateIo.Calm (io : UpdateIo) : Prop extends io.ErrorFree where
  closed : io.closedCheck = false
  timer : io.timeoutMillis ≠ 0 ∨ io.closedTimeout = false

/-- The connection serves requests. -/
structure Serving (c : Connection) : Prop where
  addressed : Addressed c
  quic : c.quicheConnection ≠ none
  h3 : c.quicheH3Connection ≠ none
  phase : c.phase = .wait
  status : c.status = .wait ∨ c.status = .connecting
  retry : c.callRetry = false

theorem Serving.wait_le {c : Connection} (h : Serving c) : .wait ≤ c.status := by
  rcases h.status with hs | hs <;> rw [hs] <;> decide

theorem Serving.not_error {c : Connection} (h : Serving c) : ¬ c.status < .wait :=
  fun hs => (lt_wait_iff _).1 hs h.wait_le

theorem Serving.begun {c : Connection} (h : Serving c) (io : UpdateIo) : Serving (c.begun io) where
  addressed := addressed_apply (a := .call (.update io)) h.addressed trivial
  quic := h.quic
  h3 := h.h3
  phase := h.phase
  status := h.status
  retry := h.retry

namespace Connection
variable {c c₁ c₂ : Connection} {io : UpdateIo} {batch rest : List Stream} {starts : Nat → StartIo}

/-- The phase function of an Update that reports events and starts requests, with streams under way. -/
theorem run_updatePhaseWait (hS : Serving c) (hpoll : (pollLoop io.polls).run c = .ok ((), c₁))
    (hstart : (startStream io.starts).run c₁ = .ok (.ok, c₂)) (hactive : c₂.h3Streams ≠ []) :
    (updatePhaseWait io).run c = .ok (.ok, c₂) := by
  have hidle : checkIdle.run c₂ = .ok ((), c₂) := by
    show (if c₂.h3Streams = [] then _ else _ : P Unit).run c₂ = _
    rw [if_neg hactive]
    rfl
  show (if c.callRetry = true then _ else if c.status < .wait then _ else _ : P QwfsResult).run c = _
  rw [hS.retry, if_neg Bool.false_ne_true, if_neg hS.not_error, run_bind, hpoll]
  dsimp only
  rw [run_bind, hstart]
  dsimp only
  rw [if_neg (not_not.2 rfl), run_bind, hidle]
  rfl

/-- A timer that has not run out, or that closes nothing. -/
theorem does_calmTimer {millis : Nat} {closed : Bool} (h : millis ≠ 0 ∨ closed = false)
    (hq : c.quicheConnection ≠ none) (hlate : ¬ c.phase < .handshake) (hstatus : ¬ c.status < .wait) :
    ∃ hist, (checkConnectionTimeout millis closed).Does c hist () c := by
  by_cases hmillis : millis = 0
  · have hopen := h.resolve_left (not_not.2 hmillis)
    have hsame : apply (Act.timeout false) c = c := by simp [apply]
    have htimer := does_timer hq hlate hstatus false
    rw [hsame] at htimer
    rw [hmillis, hopen]
    exact ⟨_, htimer⟩
  · exact ⟨[], does_noTimer (.inr (.inr hmillis)) _⟩

/-- A calm Update does what its phase function does. -/
theorem run_calm (hcalm : io.Calm) (hq : c.quicheConnection ≠ none)
    (hfunc : (updateFunc io c.phase).run (c.begun io) = .ok (.ok, c₁)) (hq₁ : c₁.quicheConnection ≠ none)
    (hlate : ¬ c₁.phase < .handshake) (hstatus₁ : ¬ c₁.status < .wait) :
    (Op.run (.update io)).run c = .ok ((), c₁) := by
  obtain ⟨hist, htimer⟩ := does_calmTimer hcalm.timer hq₁ hlate hstatus₁
  have hupdate := does_updatePhase (c := c.begun io) ⟨hfunc, rfl⟩ (.inr (.inr (.inr hcalm.closed))) htimer
  exact (does_run hcalm.toErrorFree hq hupdate).run

/-- An Update in phase Wait. -/
theorem run_calmWait (hcalm : io.Calm) (hS : Serving c) (hwait : (updatePhaseWait io).run (c.begun io) = .ok (.ok, c₁))
    (hq₁ : c₁.quicheConnection ≠ none) (hphase₁ : c₁.phase = .wait) (hstatus₁ : ¬ c₁.status < .wait) :
    (Op.run (.update io)).run c = .ok ((), c₁) := by
  refine run_calm hcalm hS.quic ?_ hq₁ ?_ hstatus₁
  · rw [hS.phase]
    exact hwait
  · rw [hphase₁]
    decide

/-! ## Starting a batch -/

/-- The streams of a batch start, with different ids. -/
structure Launches (starts : Nat → StartIo) (batch : List Stream) : Prop where
  started : ∀ i (st : Stream), batch[i]? = some st → st.Starts (starts i)
  ids : ((List.range batch.length).map fun i => (starts i).sendRequest).Nodup

/-- The map has the active streams under their ids, and no other id. -/
structure Registered (c : Connection) : Prop where
  ids : (c.h3Streams.map Stream.streamId).Nodup
  active : ∀ st ∈ c.h3Streams, c.h3StreamsMap.lookup st.streamId = some (some st.self)
  others : ∀ id, (∀ st ∈ c.h3Streams, st.streamId ≠ id) → c.h3StreamsMap.lookup id = none

theorem lookup_emplaceAll {l : List Stream} {m : StreamsMap} (hnd : (l.map Stream.streamId).Nodup)
    (hm : ∀ st ∈ l, m.lookup st.streamId = none) :
    (∀ st ∈ l, (l.foldl (fun m st => m.emplace st.streamId st.self) m).lookup st.streamId = some (some st.self)) ∧
      ∀ id, (∀ st ∈ l, st.streamId ≠ id) →
        (l.foldl (fun m st => m.emplace st.streamId st.self) m).lookup id = m.lookup id := by
  induction l generalizing m with
  | nil => simp
  | cons x l ih =>
    rw [List.map_cons, List.nodup_cons] at hnd
    have hfree : x.streamId ∉ m := AList.lookup_eq_none.1 (hm x List.mem_cons_self)
    have hinsert : m.emplace x.streamId x.self = m.insert x.streamId (some x.self) := if_neg hfree
    have hne : ∀ st ∈ l, st.streamId ≠ x.streamId := fun st hst h => hnd.1 (h ▸ List.mem_map_of_mem hst)
    obtain ⟨hin, hout⟩ := ih (m := m.emplace x.streamId x.self) hnd.2 fun st hst => by
      rw [hinsert, AList.lookup_insert_ne (hne st hst)]
      exact hm st (List.mem_cons_of_mem _ hst)
    rw [List.foldl_cons]
    constructor
    · rw [List.forall_mem_cons]
      refine ⟨?_, hin⟩
      rw [hout _ hne, hinsert, AList.lookup_insert]
    · intro id hid
      obtain ⟨hx, hl⟩ := List.forall_mem_cons.1 hid
      rw [hout id hl, hinsert, AList.lookup_insert_ne hx.symm]

theorem lookup_eraseAll_none {l : List Stream} {m : StreamsMap} {id : Int}
    (h : (∃ st ∈ l, st.streamId = id) ∨ m.lookup id = none) :
    (l.foldl (fun m st => m.erase st.streamId) m).lookup id = none := by
  induction l generalizing m with
  | nil => simpa using h
  | cons x l ih =>
    rw [List.foldl_cons]
    refine ih ?_
    by_cases hx : x.streamId = id
    · rw [hx]
      exact .inr (AList.lookup_erase id m)
    · rcases h with ⟨st, hst, hid⟩ | h
      · rcases List.mem_cons.1 hst with rfl | hst
        · exact absurd hid hx
        · exact .inl ⟨st, hst, hid⟩
      · rw [AList.lookup_erase_ne (Ne.symm hx)]
        exact .inr h

theorem ids_startedBatch (starts : Nat → StartIo) (q : Nat) (h3 : H3Conn) (num : Nat) (batch : List Stream) :
    (startedBatch starts q h3 num batch).map Stream.streamId =
      (List.range' num batch.length).map fun i => (starts i).sendRequest := by
  induction batch generalizing num with
  | nil => rfl
  | cons st batch ih => exact congrArg ((starts num).sendRequest :: ·) (ih (num + 1))

/-- Nothing is reported before a stream is under way. -/
theorem pollLoop_quiet (hS : Serving c) (hquiet : reportedEvents io.polls = []) :
    (pollLoop io.polls).run c = .ok ((), c) := by
  rw [pollLoop_iff hS.addressed hS.quic hS.h3 (by simp [Reports, hquiet])]
  refine ⟨c.cells, ?_, ?_⟩
  · rw [hquiet]
    exact takes_nil.2 rfl
  · rw [hquiet]
    simp [heard_cells]

/-- The loop of `StartStream` ends when there is no room or no request left. -/
theorem startLoop_ends {n : Nat} (num : Nat) (h : n = 0 ∨ c.h3StreamsStock = []) :
    (startLoop starts n num).run c = .ok ((.ok, num), c) := by
  cases n with
  | zero => rfl
  | succ n =>
    have hnil := h.resolve_left n.succ_ne_zero
    simp only [startLoop, run_bind, Prog.get, Prog.run, hnil]
    rfl

/-- The batch is under way, and the rest waits. -/
structure Underway (starts : Nat → StartIo) (batch rest : List Stream) (c : Connection) : Prop where
  active : ∃ q h3, c.h3Streams = startedBatch starts q h3 0 batch
  stock : c.h3StreamsStock = rest
  registered : Registered c

theorem Underway.length (h : Underway starts batch rest c) : c.h3Streams.length = batch.length := by
  obtain ⟨q, h3, hactive⟩ := h.active
  have hids := congrArg List.length (ids_startedBatch starts q h3 0 batch)
  rwa [List.length_map, List.length_map, List.length_range', ← hactive] at hids

theorem Underway.ne_nil (h : Underway starts batch rest c) (hne : batch ≠ []) : c.h3Streams ≠ [] := by
  intro hnil
  have hlength := h.length
  rw [hnil] at hlength
  exact hne (List.length_eq_zero_iff.1 hlength.symm)

/-- From the first state to the second the batch has started. -/
structure Launched (starts : Nat → StartIo) (batch rest : List Stream) (c c₁ : Connection) : Prop where
  underway : Underway starts batch rest c₁
  status : c₁.status = .connecting
  options : c₁.options = c.options
  quic : c₁.quicheConnection = c.quicheConnection
  h3 : c₁.quicheH3Connection = c.quicheH3Connection
  config : c₁.quicheH3Config = c.quicheH3Config
  phase : c₁.phase = c.phase
  retry : c₁.callRetry = c.callRetry

/-- With nothing under way, `StartStream` starts the batch. -/
theorem run_startBatch (hq : c.quicheConnection ≠ none) (hh : c.quicheH3Connection ≠ none)
    (hstatus : c.status = .wait ∨ c.status = .connecting) (hR : Registered c) (hidle : c.h3Streams = [])
    (hstock : c.h3StreamsStock = batch ++ rest) (hne : batch ≠ [])
    (hroom : batch.length ≤ c.options.maxConcurrentStreams)
    (hrest : rest = [] ∨ batch.length = c.options.maxConcurrentStreams) (hl : Launches starts batch) :
    ∃ c₁, (startStream starts).run c = .ok (.ok, c₁) ∧ Launched starts batch rest c c₁ := by
  obtain ⟨q, hq⟩ := Option.ne_none_iff_exists'.1 hq
  obtain ⟨h3, hh⟩ := Option.ne_none_iff_exists'.1 hh
  have hnd : ((startedBatch starts q h3 0 batch).map Stream.streamId).Nodup := by
    rw [ids_startedBatch, ← List.range_eq_range']
    exact hl.ids
  obtain ⟨hin, hout⟩ := lookup_emplaceAll (m := c.h3StreamsMap) hnd fun st _ => hR.others _ (by simp [hidle])
  have hloop := startLoop_batch (c := c) 0 hq hh hstock (by simpa using hl.started)
    (c.options.maxConcurrentStreams - batch.length)
  have hends : c.options.maxConcurrentStreams - batch.length = 0 ∨ rest = [] := by
    rcases hrest with h | h
    · exact .inr h
    · exact .inl (by omega)
  rw [Nat.add_sub_cancel' hroom] at hloop
  have hloop := hloop.trans (startLoop_ends _ hends)
  have hbatch : 0 < batch.length := List.length_pos_iff.2 hne
  have hwaits : c.h3StreamsStock ≠ [] := by
    intro h
    exact hne (List.append_eq_nil_iff.1 (hstock.symm.trans h)).1
  have hlength : c.h3Streams.length = 0 := congrArg List.length hidle
  have hrun := run_startStream hstatus hwaits (by rw [hlength]; exact hbatch.trans_le hroom)
    (by rw [hlength, Nat.sub_zero]; exact hloop)
  have hactive : c.h3Streams ++ startedBatch starts q h3 0 batch = startedBatch starts q h3 0 batch := by
    rw [hidle, List.nil_append]
  have hregistered : ∀ c₁ : Connection, c₁.h3Streams = startedBatch starts q h3 0 batch →
      c₁.h3StreamsMap = (startedBatch starts q h3 0 batch).foldl (fun m st => m.emplace st.streamId st.self)
        c.h3StreamsMap → Registered c₁ := by
    intro c₁ hactive₁ hmap₁
    constructor
    · rw [hactive₁]
      exact hnd
    · rw [hactive₁, hmap₁]
      exact hin
    · intro id hid
      rw [hactive₁] at hid
      rw [hmap₁, hout id hid]
      exact hR.others id (by simp [hidle])
  refine ⟨_, hrun, ?_⟩
  split
  · exact { underway := ⟨⟨q, h3, hactive⟩, rfl, hregistered _ hactive rfl⟩, status := rfl, options := rfl, quic := rfl,
            h3 := rfl, config := rfl, phase := rfl, retry := rfl }
  · rename_i hconnecting
    have hstatus₁ : c.status = .connecting := by
      refine hstatus.resolve_left fun hw => hconnecting ⟨rfl, by omega, hw⟩
    exact { underway := ⟨⟨q, h3, hactive⟩, rfl, hregistered _ hactive rfl⟩, status := hstatus₁, options := rfl,
            quic := rfl, h3 := rfl, config := rfl, phase := rfl, retry := rfl }

/-- An Update with nothing under way starts the batch. -/
theorem run_launch (hcalm : io.Calm) (hS : Serving c) (hR : Registered c) (hidle : c.h3Streams = [])
    (hquiet : reportedEvents io.polls = []) (hstock : c.h3StreamsStock = batch ++ rest) (hne : batch ≠ [])
    (hroom : batch.length ≤ c.options.maxConcurrentStreams)
    (hrest : rest = [] ∨ batch.length = c.options.maxConcurrentStreams) (hl : Launches io.starts batch) :
    ∃ c₁, (Op.run (.update io)).run c = .ok ((), c₁) ∧ Launched io.starts batch rest c c₁ ∧ Serving c₁ := by
  have hbegun := hS.begun io
  obtain ⟨c₁, hstart, h⟩ := run_startBatch hbegun.quic hbegun.h3 hbegun.status
    ⟨hR.ids, hR.active, hR.others⟩ hidle hstock hne hroom hrest hl
  have hphase₁ : c₁.phase = .wait := h.phase.trans hS.phase
  have hq₁ : c₁.quicheConnection ≠ none := h.quic ▸ hS.quic
  have hrun : (Op.run (.update io)).run c = .ok ((), c₁) := by
    refine run_calmWait hcalm hS
      (run_updatePhaseWait hbegun (pollLoop_quiet hbegun hquiet) hstart (h.underway.ne_nil hne)) hq₁ hphase₁ ?_
    rw [h.status]
    decide
  refine ⟨c₁, hrun, ⟨h.underway, h.status, h.options, h.quic, h.h3, h.config, h.phase, h.retry⟩, ?_⟩
  exact { addressed := addressed_run hS.addressed hrun, quic := hq₁, h3 := h.h3 ▸ hS.h3, phase := hphase₁,
          status := .inr h.status, retry := h.retry.trans hS.retry }

/-! ## Events of a batch -/

/-- A stream's events came, all of them for what is under way. -/
structure Hears (c : Connection) (io : UpdateIo) : Prop where
  known : ∀ e ∈ reportedEvents io.polls, ∃ st ∈ c.h3Streams, st.streamId = e.streamId
  reset : ∀ e ∈ reportedEvents io.polls, e.event ≠ .reset
  hear : ∀ st ∈ c.h3Streams, ∃ st', st.hear (eventsOf st.streamId io.polls) = .ok st'

theorem Registered.same (h : Registered c) (hmap : c₁.h3StreamsMap = c.h3StreamsMap)
    (hsame : c₁.h3Streams.map (fun st => (st.streamId, st.self)) = c.h3Streams.map fun st => (st.streamId, st.self)) :
    Registered c₁ := by
  have hids : c₁.h3Streams.map Stream.streamId = c.h3Streams.map Stream.streamId := by
    simpa [Function.comp_def] using congrArg (List.map Prod.fst) hsame
  constructor
  · rw [hids]
    exact h.ids
  · intro st hst
    have hmem : (st.streamId, st.self) ∈ c.h3Streams.map fun st => (st.streamId, st.self) :=
      hsame ▸ List.mem_map_of_mem hst
    obtain ⟨x, hx, heq⟩ := List.mem_map.1 hmem
    obtain ⟨hid, hself⟩ := Prod.mk.inj heq
    rw [hmap, ← hid, ← hself]
    exact h.active x hx
  · intro id hid
    rw [hmap]
    refine h.others id fun st hst h => ?_
    have hmem : id ∈ c₁.h3Streams.map Stream.streamId := by
      rw [hids, ← h]
      exact List.mem_map_of_mem hst
    obtain ⟨x, hx, hxid⟩ := List.mem_map.1 hmem
    exact hid x hx hxid

/-- Without room, or without requests, nothing is started. -/
theorem startStream_full (h : c.h3StreamsStock = [] ∨ c.options.maxConcurrentStreams ≤ c.h3Streams.length) :
    (startStream starts).run c = .ok (.ok, c) := by
  show (if _ then _ else _ : P QwfsResult).run c = _
  rw [if_pos h.symm]
  rfl

/-- An Update with a batch under way hears its events, and starts nothing. -/
theorem run_hearing (hcalm : io.Calm) (hS : Serving c) (hR : Registered c) (hactive : c.h3Streams ≠ [])
    (hfull : c.h3StreamsStock = [] ∨ c.options.maxConcurrentStreams ≤ c.h3Streams.length) (h : Hears c io) :
    ∃ c₁, (Op.run (.update io)).run c = .ok ((), c₁) ∧
      List.Forall₂ (fun st st' => st.hear (eventsOf st.streamId io.polls) = .ok st') c.h3Streams c₁.h3Streams ∧
      c₁.h3StreamsStock = c.h3StreamsStock ∧ c₁.options = c.options ∧ Serving c₁ ∧ Registered c₁ := by
  have hbegun := hS.begun io
  have hreports : (c.begun io).Reports io.polls := by
    intro e he
    obtain ⟨st, hst, hid⟩ := h.known e he
    exact ⟨st, hst, hid, hid ▸ hR.active st hst⟩
  have hinbox : ∀ st ∈ c.h3Streams,
      inbox st.self ((c.begun io).mail (reportedEvents io.polls)) = eventsOf st.streamId io.polls := by
    intro st hst
    rw [inbox_mail hbegun.addressed hreports hst]
    exact if_pos (hR.active st hst)
  -- every stream hears its own events
  obtain ⟨l, hl⟩ : ∃ l, loopCells.Takes ((c.begun io).mail (reportedEvents io.polls)) (c.begun io).cells l := by
    refine exists_forall₂ fun s hs => ?_
    obtain ⟨st, hst, rfl⟩ := List.mem_map.1 hs
    obtain ⟨st', hst'⟩ := h.hear st hst
    obtain ⟨m, hm⟩ := (Stream.hear_iff 0).1 hst'
    refine ⟨(st', m), ?_⟩
    show loopCells.handleAll (st, 0) (inbox st.self _) = _
    rw [hinbox st hst]
    exact hm
  have hheard : List.Forall₂ (fun st st' => st.hear (eventsOf st.streamId io.polls) = .ok st') c.h3Streams
      (l.map Prod.fst) := by
    have hcells := (List.forall₂_and_left _ _).2 ⟨fun st hst => hst, List.forall₂_map_left_iff.1 hl⟩
    rw [List.forall₂_map_right_iff]
    refine hcells.imp fun st s ⟨hst, hs⟩ => ?_
    rw [show loopCells.key (st, 0) = st.self from rfl, hinbox st hst] at hs
    exact (Stream.hear_iff 0).2 ⟨s.2, hs⟩
  have hreset : ((reportedEvents io.polls).any fun e => e.event = .reset) = false := by
    simpa using h.reset
  have hpoll := (pollLoop_iff hbegun.addressed hbegun.quic hbegun.h3 hreports).2 ⟨l, hl, rfl⟩
  rw [hreset] at hpoll
  obtain ⟨settings, hpoll⟩ : ∃ settings,
      (pollLoop io.polls).run (c.begun io) = .ok ((), (c.begun io).heard settings false l) := ⟨_, hpoll⟩
  have hlength : (l.map Prod.fst).length = c.h3Streams.length := hheard.length_eq.symm
  have hstart : (startStream io.starts).run ((c.begun io).heard settings false l) =
      .ok (.ok, (c.begun io).heard settings false l) := by
    refine startStream_full (hfull.imp (fun h => h) fun h => ?_)
    show c.options.maxConcurrentStreams ≤ (l.map Prod.fst).length
    rw [hlength]
    exact h
  have hne : ((c.begun io).heard settings false l).h3Streams ≠ [] := by
    intro hnil
    have hzero : (l.map Prod.fst).length = 0 := congrArg List.length hnil
    rw [hlength] at hzero
    exact hactive (List.length_eq_zero_iff.1 hzero)
  have hrun := run_calmWait hcalm hS (run_updatePhaseWait hbegun hpoll hstart hne) hS.quic hS.phase hS.not_error
  refine ⟨_, hrun, hheard, rfl, rfl, ?_, ?_⟩
  · exact { addressed := addressed_run hS.addressed hrun, quic := hS.quic, h3 := hS.h3, phase := hS.phase,
            status := hS.status, retry := hS.retry }
  · refine hR.same rfl (map_forall₂ (fun st st' hst => ?_) hheard)
    rw [Stream.hear_streamId hst, Stream.self_of_ticket (Stream.hear_ticket hst)]

/-- What a stream id is told in some Updates. -/
def toldIn (id : Int) (ios : List UpdateIo) : List H3Event := ios.flatMap fun io => eventsOf id io.polls

/-- The Updates of a batch: calm, and their events are for the streams of the batch, which take them in. -/
structure Tells (batch : List Stream) (ios : List UpdateIo) : Prop where
  calm : ∀ io ∈ ios, io.Calm
  known : ∀ io ∈ ios, ∀ e ∈ reportedEvents io.polls, e.streamId ∈ batch.map Stream.streamId
  reset : ∀ io ∈ ios, ∀ e ∈ reportedEvents io.polls, e.event ≠ .reset
  hear : ∀ st ∈ batch, ∃ st', st.hear (toldIn st.streamId ios) = .ok st'

theorem run_hearings {ios : List UpdateIo} (hS : Serving c) (hR : Registered c) (hactive : c.h3Streams ≠ [])
    (hfull : c.h3StreamsStock = [] ∨ c.options.maxConcurrentStreams ≤ c.h3Streams.length)
    (h : Tells c.h3Streams ios) : ∃ c₁, (exec (ios.map .update)).run c = .ok ((), c₁) ∧
      List.Forall₂ (fun st st' => st.hear (toldIn st.streamId ios) = .ok st') c.h3Streams c₁.h3Streams ∧
      c₁.h3StreamsStock = c.h3StreamsStock ∧ c₁.options = c.options ∧ Serving c₁ ∧ Registered c₁ := by
  induction ios generalizing c with
  | nil => exact ⟨c, rfl, List.forall₂_same.2 fun st _ => rfl, rfl, rfl, hS, hR⟩
  | cons io ios ih =>
    have hsplit : ∀ st ∈ c.h3Streams, ∃ st₁ st', st.hear (eventsOf st.streamId io.polls) = .ok st₁ ∧
        st₁.hear (toldIn st.streamId ios) = .ok st' := by
      intro st hst
      obtain ⟨st', hst'⟩ := h.hear st hst
      obtain ⟨st₁, h₁, h₂⟩ := Stream.hear_append.1 hst'
      exact ⟨st₁, st', h₁, h₂⟩
    have hhears : Hears c io :=
      { known := fun e he => List.mem_map.1 (h.known io List.mem_cons_self e he),
        reset := h.reset io List.mem_cons_self,
        hear := fun st hst => (hsplit st hst).imp fun _ ⟨_, h, _⟩ => h }
    obtain ⟨c₁, hrun, hheard, hstock, hoptions, hS₁, hR₁⟩ :=
      run_hearing (h.calm io List.mem_cons_self) hS hR hactive hfull hhears
    have hids : c₁.h3Streams.map Stream.streamId = c.h3Streams.map Stream.streamId :=
      map_forall₂ (fun _ _ h => Stream.hear_streamId h) hheard
    have htells : Tells c₁.h3Streams ios := by
      constructor
      · exact fun io hio => h.calm io (List.mem_cons_of_mem _ hio)
      · intro io hio
        rw [hids]
        exact h.known io (List.mem_cons_of_mem _ hio)
      · exact fun io hio => h.reset io (List.mem_cons_of_mem _ hio)
      · intro st₁ hst₁
        obtain ⟨st, hst, h₁⟩ := forall₂_right hheard hst₁
        obtain ⟨x, st', hx, h₂⟩ := hsplit st hst
        obtain rfl : x = st₁ := Except.ok.inj (hx.symm.trans h₁)
        rw [Stream.hear_streamId h₁]
        exact ⟨st', h₂⟩
    have hlength : c₁.h3Streams.length = c.h3Streams.length := hheard.length_eq.symm
    have hactive₁ : c₁.h3Streams ≠ [] := by
      intro h
      rw [h] at hlength
      exact hactive (List.length_eq_zero_iff.1 hlength.symm)
    obtain ⟨c₂, hrest, hheard₂, hstock₂, hoptions₂, hS₂, hR₂⟩ :=
      ih hS₁ hR₁ hactive₁ (by rw [hstock, hoptions, hlength]; exact hfull) htells
    refine ⟨c₂, ?_, ?_, hstock₂.trans hstock, hoptions₂.trans hoptions, hS₂, hR₂⟩
    · rw [List.map_cons, run_session_cons, hrun]
      exact hrest
    · refine (forall₂_comp hheard hheard₂).imp fun st st' ⟨st₁, h₁, h₂⟩ => ?_
      rw [Stream.hear_streamId h₁] at h₂
      exact Stream.hear_append.2 ⟨st₁, h₁, h₂⟩

/-! ## The callbacks of a batch -/

/-- IssueCallbacks delivers a batch that is Completed, first come first served. -/
theorem run_issueLoop (starts : Nat → StartIo) (hbatch : c.h3Streams = batch)
    (hdone : ∀ st ∈ batch, st.status = .completed) :
    (issueLoop starts batch).run c = .ok ((), { c with
      h3Streams := [], h3StreamsMap := batch.foldl (fun m st => m.erase st.streamId) c.h3StreamsMap }) ∧
    ((issueLoop starts batch).trace c).map Prod.snd = batch.map Act.success := by
  induction batch generalizing c with
  | nil =>
    have hsame : { c with h3Streams := [] } = c := by rw [← hbatch]
    exact ⟨congrArg (fun c => Except.ok ((), c)) hsame.symm, rfl⟩
  | cons st batch ih =>
    obtain ⟨hst, hrest⟩ := List.forall_mem_cons.1 hdone
    have hcallback : issueCallback (starts batch.length) st = perform (.success st) := if_pos hst
    have hdrop : (c.dropDelivered st).h3Streams = batch := by
      simp [dropDelivered, hbatch]
    obtain ⟨hrun, htrace⟩ := ih hdrop hrest
    rw [issueLoop, run_bind, trace_bind, hcallback]
    exact ⟨hrun, congrArg (Act.success st :: ·) htrace⟩

end Connection

/-! ## Rounds -/

/-- One batch from its start to its callbacks: an Update that starts it, those that its events come in, and
IssueCallbacks. -/
structure Round where
  first : UpdateIo
  updates : List UpdateIo
  retries : Nat → StartIo

def Round.ops (r : Round) : List Op :=
  .update r.first :: (r.updates.map .update ++ [.issueCallbacks r.retries])

/-- The streams of a batch that starts are told the answers to their requests, and nothing else is reported. -/
structure Told (server : Stream.Ticket → List Arrival) (starts : Nat → StartIo) (batch : List Stream)
    (ios : List UpdateIo) : Prop where
  calm : ∀ io ∈ ios, io.Calm
  known : ∀ io ∈ ios, ∀ e ∈ reportedEvents io.polls, ∃ i < batch.length, (starts i).sendRequest = e.streamId
  answers : ∀ i (st : Stream), batch[i]? = some st →
    toldIn (starts i).sendRequest ios = answerEvents (server st.ticket)

/-- The network and the server serve the batch: it starts, and then it is told its answers. -/
structure Round.Serves (server : Stream.Ticket → List Arrival) (batch : List Stream) (r : Round) : Prop where
  first : r.first.Calm
  quiet : reportedEvents r.first.polls = []
  launches : Launches r.first.starts batch
  told : Told server r.first.starts batch r.updates

/-- Round by round all that waits is served, `max` requests at a time. -/
inductive Serves (server : Stream.Ticket → List Arrival) (max : Nat) : List Stream → List Round → Prop
  | done : Serves server max [] []
  | round {stock : List Stream} {r : Round} {rounds : List Round} : stock ≠ [] → r.Serves server (stock.take max) →
      Serves server max (stock.drop max) rounds → Serves server max stock (r :: rounds)

section Rounds
variable {server : Stream.Ticket → List Arrival} {c c' : Connection} {r : Round} {rounds : List Round}
  {batch : List Stream} {starts : Nat → StartIo}

theorem mem_startedBatch {q : Nat} {h3 : H3Conn} {num : Nat} {st' : Stream} :
    st' ∈ startedBatch starts q h3 num batch ↔
      ∃ (i : Nat) (st : Stream), batch[i]? = some st ∧ st' = st.started q h3 (starts (num + i)).sendRequest := by
  induction batch generalizing num with
  | nil => simp [startedBatch]
  | cons st batch ih =>
    rw [startedBatch, List.mem_cons, ih]
    constructor
    · rintro (rfl | ⟨i, st, hst, rfl⟩)
      · exact ⟨0, st, rfl, rfl⟩
      · exact ⟨i + 1, st, hst, by rw [Nat.add_right_comm, Nat.add_assoc]⟩
    · rintro ⟨i, st', hst, rfl⟩
      cases i with
      | zero =>
        cases hst
        exact .inl rfl
      | succ i => exact .inr ⟨i, st', hst, by rw [Nat.add_right_comm, Nat.add_assoc]⟩

theorem reset_not_answer (as : List Arrival) : .reset ∉ answerEvents as := by
  rw [answerEvents, List.mem_append, List.mem_map]
  rintro (⟨a, -, h⟩ | h)
  · cases a <;> cases h
  · simp at h

theorem callbacks_updates (ios : List UpdateIo) (c : Connection) :
    callbacks ((exec (ios.map .update)).trace c) = [] := by
  induction ios generalizing c with
  | nil => rfl
  | cons io ios ih =>
    rw [List.map_cons, trace_session_cons, callbacks_append, callbacks_update, List.nil_append]
    cases (Op.run (.update io)).run c with
    | ok r => exact ih r.2
    | error e => rfl

/-- The stream that is told the answer to its request ends with it. -/
theorem hear_served (hl : Launches starts batch) {ios : List UpdateIo} (ht : Told server starts batch ios) (q : Nat)
    (h3 : H3Conn) (hfresh : ∀ st ∈ batch, st.Pristine ∧ Arrivable st (server st.ticket)) {st : Stream}
    (hst : st ∈ startedBatch starts q h3 0 batch) : ∃ st', st.hear (toldIn st.streamId ios) = .ok st' ∧
      st'.ticket = st.ticket ∧ st'.status = .completed ∧ st'.response = st.ticket.answered (server st.ticket) := by
  obtain ⟨i, x, hx, rfl⟩ := mem_startedBatch.1 hst
  rw [Nat.zero_add]
  obtain ⟨hpristine, harrivable⟩ := hfresh x (List.mem_of_getElem? hx)
  obtain ⟨st', hhear, hticket, -, hstatus, hresponse⟩ :=
    Stream.hear_answer q h3 (hl.started i x hx).2 hpristine harrivable
  rw [← ht.answers i x hx] at hhear
  exact ⟨st', hhear, hticket, hstatus, hresponse⟩

/-- Each stream of the batch is Completed, and has the answer to its request. -/
structure Answered (server : Stream.Ticket → List Arrival) (batch : List Stream) (c : Connection) : Prop where
  answers : c.h3Streams.map (fun st => (st.ticket, st.response)) =
    batch.map fun st => (st.ticket, st.ticket.answered (server st.ticket))
  done : ∀ st ∈ c.h3Streams, st.status = .completed

/-- A batch under way is answered. -/
theorem run_told {rest : List Stream} (h : Underway starts batch rest c)
    (hl : Launches starts batch) {ios : List UpdateIo} (ht : Told server starts batch ios) (hS : Serving c)
    (hne : batch ≠ []) (hrest : rest = [] ∨ batch.length = c.options.maxConcurrentStreams)
    (hfresh : ∀ st ∈ batch, st.Pristine ∧ Arrivable st (server st.ticket)) :
    ∃ c₁, (exec (ios.map .update)).run c = .ok ((), c₁) ∧ Answered server batch c₁ ∧ c₁.h3StreamsStock = rest ∧
      c₁.options = c.options ∧ Serving c₁ ∧ Registered c₁ := by
  obtain ⟨q, h3, hactive⟩ := h.active
  have hids : c.h3Streams.map Stream.streamId = (List.range' 0 batch.length).map fun i => (starts i).sendRequest := by
    rw [hactive]
    exact ids_startedBatch starts q h3 0 batch
  have hserved := fun st hst => hear_served hl ht q h3 hfresh (hactive ▸ hst : st ∈ startedBatch starts q h3 0 batch)
  have htells : Tells c.h3Streams ios := by
    refine { calm := ht.calm, known := fun io hio e he => ?_, reset := fun io hio e he h => ?_,
             hear := fun st hst => (hserved st hst).imp fun _ h => h.1 }
    · obtain ⟨i, hi, hid⟩ := ht.known io hio e he
      rw [hids, ← hid]
      exact List.mem_map.2 ⟨i, by simpa using hi, rfl⟩
    · obtain ⟨i, hi, hid⟩ := ht.known io hio e he
      have hmem : e.event ∈ toldIn (starts i).sendRequest ios :=
        List.mem_flatMap.2 ⟨io, hio, mem_eventsOf.2 ⟨e, he, hid.symm, rfl⟩⟩
      rw [ht.answers i batch[i] (List.getElem?_eq_getElem hi), h] at hmem
      exact reset_not_answer _ hmem
  obtain ⟨c₁, hrun, hheard, hstock, hoptions, hS₁, hR₁⟩ := run_hearings hS h.registered (h.ne_nil hne)
    (by rw [h.stock, h.length]; exact hrest.imp (fun h => h) fun h => h.ge) htells
  have hends : List.Forall₂ (fun st st' => st'.ticket = st.ticket ∧ st'.status = .completed ∧
      st'.response = st.ticket.answered (server st.ticket)) c.h3Streams c₁.h3Streams := by
    refine ((List.forall₂_and_left _ _).2 ⟨fun st hst => hst, hheard⟩).imp fun st st' ⟨hst, h⟩ => ?_
    obtain ⟨x, hx, hend⟩ := hserved st hst
    obtain rfl : x = st' := Except.ok.inj (hx.symm.trans h)
    exact hend
  refine ⟨c₁, hrun, ⟨?_, ?_⟩, hstock.trans h.stock, hoptions, hS₁, hR₁⟩
  · have htickets : c.h3Streams.map Stream.ticket = batch.map Stream.ticket := by
      rw [hactive, tickets_startedBatch]
    have hboth := congrArg (List.map fun t => (t, t.answered (server t))) htickets
    rw [List.map_map, List.map_map] at hboth
    rw [← show _ = batch.map fun st => (st.ticket, st.ticket.answered (server st.ticket)) from hboth]
    exact map_forall₂ (fun st st' h => by rw [h.1, h.2.2]; rfl) hends
  · intro st' hst'
    obtain ⟨st, -, -, hdone, -⟩ := forall₂_right hends hst'
    exact hdone

theorem callbacks_success (c : Connection) (op : Op) {hist : List (Connection × Act)} {batch : List Stream}
    (h : hist.map Prod.snd = batch.map Act.success) : callbacks ((c, .call op) :: hist) = hist := by
  rw [callbacks, List.filter_cons_of_neg (by simp [Act.callback]), List.filter_eq_self]
  intro e he
  have hmem : e.2 ∈ batch.map Act.success := h ▸ List.mem_map_of_mem he
  obtain ⟨st, -, hst⟩ := List.mem_map.1 hmem
  rw [← hst]
  rfl

/-- IssueCallbacks reports a batch that is answered, and nothing is left of it. -/
theorem run_answered (hS : Serving c) (hR : Registered c) (h : Answered server batch c) (retries : Nat → StartIo) :
    ∃ c₁, (Op.run (.issueCallbacks retries)).run c = .ok ((), c₁) ∧
      (callbacks ((Op.run (.issueCallbacks retries)).trace c)).map Prod.snd = c.h3Streams.map Act.success ∧
      c₁.h3Streams = [] ∧ c₁.h3StreamsStock = c.h3StreamsStock ∧ c₁.options = c.options ∧ Serving c₁ ∧
      Registered c₁ := by
  obtain ⟨hrun, htrace⟩ := run_issueLoop retries (Eq.refl c.h3Streams) h.done
  have hissue : (Op.run (.issueCallbacks retries)).Does c
      ((c, .call (.issueCallbacks retries)) :: (issueLoop retries c.h3Streams).trace c) () { c with
        h3Streams := [],
        h3StreamsMap := c.h3Streams.foldl (fun m st => m.erase st.streamId) c.h3StreamsMap } := ⟨hrun, rfl⟩
  refine ⟨_, hissue.run, ?_, rfl, rfl, rfl, ?_, ?_⟩
  · rw [hissue.trace, callbacks_success _ _ htrace]
    exact htrace
  · exact { addressed := addressed_run hS.addressed hissue.run, quic := hS.quic, h3 := hS.h3, phase := hS.phase,
            status := hS.status, retry := hS.retry }
  · refine { ids := List.nodup_nil, active := fun _ h => (nomatch h), others := fun id _ => ?_ }
    refine lookup_eraseAll_none ?_
    by_cases hid : ∃ st ∈ c.h3Streams, st.streamId = id
    · exact .inl hid
    · exact .inr (hR.others id fun st hst h => hid ⟨st, hst, h⟩)

/-- Between two batches: nothing is under way, and nothing of the requests that wait is lost. -/
structure Between (rest : List Stream) (max : Nat) (c : Connection) : Prop extends Serving c where
  registered : Registered c
  active : c.h3Streams = []
  stock : c.h3StreamsStock = rest
  limit : c.options.maxConcurrentStreams = max

/-- The calls report exactly these requests, with their answers and in this order. -/
structure Delivers (server : Stream.Ticket → List Arrival) (ops : List Op) (batch : List Stream)
    (c c' : Connection) : Prop where
  run : (exec ops).run c = .ok ((), c')
  callbacks : ∃ sts : List Stream, (callbacks ((exec ops).trace c)).map Prod.snd = sts.map Act.success ∧
    sts.map (fun st => (st.ticket, st.response)) =
      batch.map fun st => (st.ticket, st.ticket.answered (server st.ticket))

theorem Delivers.append {ops ops' : List Op} {batch' : List Stream} {c₁ c₂ : Connection}
    (h : Delivers server ops batch c c₁) (h' : Delivers server ops' batch' c₁ c₂) :
    Delivers server (ops ++ ops') (batch ++ batch') c c₂ := by
  obtain ⟨sts, hcallbacks, hanswers⟩ := h.callbacks
  obtain ⟨sts', hcallbacks', hanswers'⟩ := h'.callbacks
  obtain ⟨hrun, htrace⟩ := session_append Op.run ops ops' c
  rw [h.run] at hrun htrace
  refine ⟨hrun.trans h'.run, sts ++ sts', ?_, ?_⟩
  · rw [htrace, callbacks_append, List.map_append, List.map_append, hcallbacks]
    exact congrArg _ hcallbacks'
  · rw [List.map_append, hanswers, hanswers', ← List.map_append]

/-- Updates report nothing. -/
theorem delivers_updates (ios : List UpdateIo) {c₁ : Connection} (h : (exec (ios.map .update)).run c = .ok ((), c₁)) :
    Delivers server (ios.map .update) [] c c₁ :=
  ⟨h, [], congrArg (List.map Prod.snd) (callbacks_updates ios c), rfl⟩

/-- A batch under way is answered and reported. -/
theorem delivers_underway {rest : List Stream} (h : Underway starts batch rest c)
    (hl : Launches starts batch) {ios : List UpdateIo} (ht : Told server starts batch ios) (hS : Serving c)
    (hne : batch ≠ []) (hrest : rest = [] ∨ batch.length = c.options.maxConcurrentStreams)
    (hfresh : ∀ st ∈ batch, st.Pristine ∧ Arrivable st (server st.ticket)) (retries : Nat → StartIo) :
    ∃ c', Delivers server (ios.map .update ++ [.issueCallbacks retries]) batch c c' ∧
      Between rest c.options.maxConcurrentStreams c' := by
  obtain ⟨c₁, hrun₁, hanswered, hstock₁, hoptions₁, hS₁, hR₁⟩ := run_told h hl ht hS hne hrest hfresh
  obtain ⟨c₂, hrun₂, hcallbacks₂, hactive₂, hstock₂, hoptions₂, hS₂, hR₂⟩ := run_answered hS₁ hR₁ hanswered retries
  have hissue : Delivers server [.issueCallbacks retries] batch c₁ c₂ := by
    have hdoes : (session Op.run [.issueCallbacks retries]).Does c₁
        ((Op.run (.issueCallbacks retries)).trace c₁) () c₂ :=
      session_concat Op.run (rfl : (session Op.run []).run c₁ = _) ⟨hrun₂, rfl⟩
    refine ⟨hdoes.run, c₁.h3Streams, ?_, hanswered.answers⟩
    rw [show (exec _).trace c₁ = _ from hdoes.trace]
    exact hcallbacks₂
  refine ⟨c₂, (delivers_updates ios hrun₁).append hissue, hS₂, hR₂, hactive₂, hstock₂.trans hstock₁, ?_⟩
  rw [hoptions₂, hoptions₁]

/-- A round delivers its batch, and leaves the rest waiting. -/
theorem delivers_round {rest : List Stream} {max : Nat} (hr : r.Serves server batch) (h : Between (batch ++ rest) max c)
    (hne : batch ≠ []) (hroom : batch.length ≤ max) (hrest : rest = [] ∨ batch.length = max)
    (hfresh : ∀ st ∈ batch, st.Pristine ∧ Arrivable st (server st.ticket)) :
    ∃ c', Delivers server r.ops batch c c' ∧ Between rest max c' := by
  obtain rfl := h.limit
  obtain ⟨c₁, hrun₁, hlaunched, hS₁⟩ :=
    run_launch hr.first h.toServing h.registered h.active hr.quiet h.stock hne hroom hrest hr.launches
  have hfirst : Delivers server [.update r.first] [] c c₁ := by
    refine delivers_updates [r.first] ?_
    rw [List.map_singleton, run_session_cons, hrun₁]
    rfl
  rw [← hlaunched.options] at hrest ⊢
  obtain ⟨c', hdelivers, hbetween⟩ :=
    delivers_underway hlaunched.underway hr.launches hr.told hS₁ hne hrest hfresh r.retries
  exact ⟨c', hfirst.append hdelivers, hbetween⟩

/-- However many requests wait: if they are fresh and each is served with an answer it can take in, then after the
rounds all of them are delivered, in their order and each with its answer, and no other callback is issued. -/
theorem all_delivered (server : Stream.Ticket → List Arrival) {stock : List Stream} {max : Nat}
    (h : Between stock max c) (hmax : 0 < max)
    (hfresh : ∀ st ∈ stock, st.Pristine ∧ Arrivable st (server st.ticket)) (hserves : Serves server max stock rounds) :
    ∃ c', Delivers server (rounds.flatMap Round.ops) stock c c' ∧ Between [] max c' := by
  induction hserves generalizing c with
  | done => exact ⟨c, delivers_updates [] rfl, h⟩
  | @round stock r rounds hne hr _ ih =>
    have hbatch : stock.take max ≠ [] := by simpa [List.take_eq_nil_iff, Nat.ne_of_gt hmax] using hne
    have hrest : stock.drop max = [] ∨ (stock.take max).length = max := by
      simp only [List.drop_eq_nil_iff, List.length_take]
      omega
    rw [← List.take_append_drop max stock] at h
    obtain ⟨c₁, hdelivers₁, hbetween₁⟩ := delivers_round hr h hbatch (List.length_take_le _ _) hrest
      fun st hst => hfresh st (List.mem_of_mem_take hst)
    obtain ⟨c₂, hdelivers₂, hbetween₂⟩ := ih hbetween₁ fun st hst => hfresh st (List.mem_of_mem_drop hst)
    refine ⟨c₂, ?_, hbetween₂⟩
    rw [← List.take_append_drop max stock]
    exact hdelivers₁.append hdelivers₂

end Rounds

/-- Two requests wait, and one may be active at a time. -/
def oneByOne : List Op :=
  .setOptions { maxConcurrentStreams := 1 } :: connectOps ++ [.publishRequest {}, .publishRequest {}]

/-- The status and two pieces of data. -/
def answerTwo (_ : Stream.Ticket) : List Arrival :=
  [.headers [(ascii ":status", ascii "200")], .data [1], .data [2]]

/-- A request is started with the id and answered, the events spread over two Updates. -/
def answerRound (id : Int) : Round where
  first := { starts := fun _ => { sendRequest := id } }
  updates := [{ polls := [{ streamId := id, event := .headers [(ascii ":status", ascii "200")] },
      { streamId := id, event := .data (.buffered [1]) }] },
    { polls := [{ streamId := id, event := .data (.buffered [2]) }, { streamId := id, event := .finished }] }]
  retries := fun _ => {}

theorem calm_defaults (starts : Nat → StartIo) (polls : List PollIo) :
    ({ starts, polls } : UpdateIo).Calm where
  send := fun _ h => (nomatch h)
  recv := fun _ h => (nomatch h)
  closed := rfl
  timer := .inl Nat.one_ne_zero

theorem told_answerRound (st : Stream) {id : Int} (hid : 0 ≤ id) :
    Told answerTwo (fun _ => { sendRequest := id }) [st] (answerRound id).updates where
  calm := by simp [answerRound, calm_defaults]
  known := by
    intro io hio e he
    have hpoll := List.takeWhile_subset _ he
    refine ⟨0, Nat.one_pos, ?_⟩
    simp only [answerRound, List.mem_cons, List.not_mem_nil, or_false] at hio
    rcases hio with rfl | rfl <;> rcases List.mem_pair.1 hpoll with rfl | rfl <;> rfl
  answers := by
    intro i x hx
    simp [answerRound, toldIn, eventsOf, inbox, reportedEvents, List.takeWhile, hid, answerEvents, answerTwo,
      Arrival.event]

theorem launches_one {st : Stream} (hpath : st.saveFilePath = "") {id : Int} (hid : 0 ≤ id) :
    Launches (fun _ => { sendRequest := id }) [st] := by
  refine ⟨fun i x hx => ?_, List.nodup_singleton _⟩
  obtain rfl : x = st := by simpa using List.mem_of_getElem? hx
  exact ⟨.inl hpath, hid⟩

theorem serves_answerRound {st : Stream} (hpath : st.saveFilePath = "") {id : Int} (hid : 0 ≤ id) :
    (answerRound id).Serves answerTwo [st] :=
  ⟨calm_defaults _ _, rfl, launches_one hpath hid, told_answerRound st hid⟩

theorem arrivable_answerTwo (st : Stream) : Arrivable st (answerTwo st.ticket) := by
  generalize st.ticket = t
  unfold answerTwo
  exact ⟨by simp only [allAccepted_iff]; decide, by decide, by decide, fun _ => by unfold Undeclared; decide⟩

/-- The two streams wait on a connection that is set up. -/
theorem run_oneByOne : ∃ c, (exec oneByOne).run (new "h" "443") = .ok ((), c) ∧ ∃ a b : Stream, Between [a, b] 1 c ∧
    (a.Pristine ∧ a.saveFilePath = "" ∧ a.self = 0) ∧ b.Pristine ∧ b.saveFilePath = "" ∧ b.self = 1 :=
  ⟨_, rfl, _, _, ⟨⟨⟨by decide, by decide⟩, nofun, nofun, rfl, .inr rfl, rfl⟩,
    ⟨List.nodup_nil, nofun, fun _ _ => rfl⟩, rfl, rfl, rfl⟩, ⟨rfl, rfl, rfl⟩, rfl, rfl, rfl⟩

/-- The two requests are delivered one after the other, the second started once the first is done. -/
theorem all_delivered_two : ∃ c, (exec oneByOne).run (new "h" "443") = .ok ((), c) ∧ ∃ c' a b,
    Delivers answerTwo ([answerRound 0, answerRound 4].flatMap Round.ops) [a, b] c c' ∧ a.self = 0 ∧ b.self = 1 := by
  obtain ⟨c, hrun, a, b, hbetween, ⟨hpa, hfa, hsa⟩, hpb, hfb, hsb⟩ := run_oneByOne
  have hfresh : ∀ st ∈ [a, b], st.Pristine ∧ Arrivable st (answerTwo st.ticket) := by
    intro st hst
    rcases List.mem_pair.1 hst with rfl | rfl
    · exact ⟨hpa, arrivable_answerTwo _⟩
    · exact ⟨hpb, arrivable_answerTwo _⟩
  obtain ⟨c', hdelivers, -⟩ := all_delivered answerTwo hbetween Nat.one_pos hfresh
    (.round nofun (serves_answerRound hfa (le_refl 0))
      (.round nofun (serves_answerRound hfb (by decide : (0 : Int) ≤ 4)) .done))
  exact ⟨c, hrun, c', a, b, hdelivers, hsa, hsb⟩

end Nhh3
