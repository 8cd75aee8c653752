import Nhh3.Delivery
/-!
# Responses go on after a migration

A migration keeps each active stream with what it has received. If it ends without an
error, the event loop hands every later event on to that stream, so the body goes on with
the byte at which it stopped. After an error no event is looked at.
-/

namespace Nhh3

open Lib Lib.Prog Lib.Cells Connection

/-! ## What a stream has, and what it is told -/

/-- The body bytes that `EventData` takes from an event. -/
def H3Event.bytes : H3Event → Bytes
  | .data (.buffered body _) => Stream.chunk body
  | _ => []

/-- What a call tells the stream with this id. -/
def Op.told (id : Int) : Op → List H3Event
  | .update io => eventsOf id io.polls
  | _ => []

namespace Stream
variable {st st' x : Stream} {event : H3Event} {events : List H3Event}

/-- Each DATA event appends its bytes, the other events leave the body. -/
theorem Filled.handle (h : st.Filled) (hst : st.handle event = .ok st') :
    st'.Filled ∧ st'.content = st.content ++ event.bytes := by
  cases event with
  | headers list =>
    rw [eventHeaders_ok hst]
    exact ⟨h, (List.append_nil _).symm⟩
  | data body =>
    have hst : st.eventData body = .ok st' := hst
    rcases eventData_cases hst with ⟨_, _, rfl, rfl⟩ | ⟨_, _, _, _, rfl, -, -, happend⟩
    · exact ⟨h, (List.append_nil _).symm⟩
    · exact happend h
  | _ =>
    cases hst
    exact ⟨h, (List.append_nil _).symm⟩

theorem Filled.hear (h : st.Filled) (hst : st.hear events = .ok st') :
    st'.Filled ∧ st'.content = st.content ++ events.flatMap H3Event.bytes := by
  induction events generalizing st with
  | nil =>
    cases hst
    exact ⟨h, (List.append_nil _).symm⟩
  | cons event events ih =>
    obtain ⟨st₁, hst₁, hrest⟩ := hear_cons.1 hst
    obtain ⟨hfilled, hcontent⟩ := h.handle hst₁
    obtain ⟨hfilled', hcontent'⟩ := ih hfilled hrest
    exact ⟨hfilled', by rw [hcontent', hcontent, List.flatMap_cons, List.append_assoc]⟩

theorem content_addProgress (h : x.addProgress = st.addProgress) : x.content = st.content := by
  show x.addProgress.content = st.addProgress.content
  rw [h]

/-! ### The progress makes no difference -/

theorem store_addProgress (st : Stream) (data : Bytes) (malloc : Bool) :
    st.addProgress.store data malloc = (st.store data malloc).map addProgress := by
  have hblock : st.addProgress.allocate data.length malloc = st.allocate data.length malloc := rfl
  rw [store, store, show st.addProgress.file = st.file from rfl, hblock]
  cases st.file with
  | some content => rfl
  | none =>
    cases st.allocate data.length malloc with
    | none => rfl
    | some block =>
      show (if st.writeSize + data.length ≤ block.size then _ else _) = _
      dsimp only
      split <;> rfl

theorem eventHeaders_addProgress (st : Stream) (list : List (Bytes × Bytes)) :
    st.addProgress.eventHeaders list = (st.eventHeaders list).map addProgress := by
  induction list generalizing st with
  | nil => rfl
  | cons header list ih =>
    have hheader : st.addProgress.getHeader header = (st.getHeader header).map addProgress := by
      unfold getHeader addProgress
      cases readNumber "content-length" header st.bodySize with
      | error e => rfl
      | ok bodySize => cases readNumber ":status" header st.responseCode <;> rfl
    rw [eventHeaders, eventHeaders, hheader]
    cases st.getHeader header with
    | error e => rfl
    | ok st₁ => exact ih st₁

theorem handle_addProgress (st : Stream) (event : H3Event) :
    (st.addProgress.handle event).map addProgress = (st.handle event).map addProgress := by
  cases event with
  | headers list =>
    show (st.addProgress.eventHeaders list).map addProgress = (st.eventHeaders list).map addProgress
    rw [eventHeaders_addProgress]
    cases st.eventHeaders list <;> rfl
  | data body =>
    show (st.addProgress.eventData body).map addProgress = (st.eventData body).map addProgress
    unfold eventData
    rw [show st.addProgress.quicheH3Connection = st.quicheH3Connection from rfl,
      show st.addProgress.quicheQuicConnection = st.quicheQuicConnection from rfl]
    cases st.quicheH3Connection <;> cases st.quicheQuicConnection <;> try rfl
    cases body with
    | failed error => rfl
    | buffered data malloc =>
      dsimp only
      rw [store_addProgress, show st.addProgress.clampSize = st.clampSize from rfl]
      cases st.store ((data.take recvTmpBufSize).take (st.clampSize (data.take recvTmpBufSize).length)) malloc <;> rfl
  | _ => rfl

/-- Streams that differ in the progress only still do after the same events. -/
theorem hear_addProgress (h : x.addProgress = st.addProgress) (hst : st.hear events = .ok st') :
    ∃ x', x.hear events = .ok x' ∧ x'.addProgress = st'.addProgress := by
  induction events generalizing st x with
  | nil =>
    cases hst
    exact ⟨x, rfl, h⟩
  | cons event events ih =>
    obtain ⟨st₁, hst₁, hrest⟩ := hear_cons.1 hst
    have hsame : (x.handle event).map addProgress = (st.handle event).map addProgress := by
      rw [← handle_addProgress x, ← handle_addProgress st, h]
    rw [hst₁] at hsame
    cases hx : x.handle event with
    | error e =>
      rw [hx] at hsame
      cases hsame
    | ok x₁ =>
      rw [hx] at hsame
      obtain ⟨x', hx', hsame'⟩ := ih (Except.ok.inj hsame) hrest
      exact ⟨x', hear_cons.2 ⟨x₁, hx, hx'⟩, hsame'⟩

end Stream

/-! ## An Update with streams under way -/

/-- Requests that are to start do so, or wait for the stream limit of the peer. -/
def Willing (starts : Nat → StartIo) : Prop := ∀ n, (starts n).fopen = true ∧
  (0 ≤ (starts n).sendRequest ∨ (starts n).sendRequest = QuicheErr.streamLimit)

/-- The event loop of the next Update runs. -/
structure Flowing (c : Connection) : Prop where
  addressed : Addressed c
  quic : c.quicheConnection ≠ none
  h3 : c.quicheH3Connection ≠ none
  phase : c.phase = .wait
  status : .wait ≤ c.status
  retry : c.callRetry = false

/-- The Update meets no error, and what it reports is for the streams under way, which take it in. -/
structure Fits (c : Connection) (io : UpdateIo) : Prop where
  calm : io.Calm
  starts : Willing io.starts
  reports : c.Reports io.polls
  reset : ∀ e ∈ reportedEvents io.polls, e.event ≠ .reset
  hear : ∀ st ∈ c.h3Streams, c.h3StreamsMap.lookup st.streamId = some (some st.self) →
    ∃ st', st.hear (eventsOf st.streamId io.polls) = .ok st'

namespace Connection
variable {c c₁ c' : Connection} {io : UpdateIo} {starts : Nat → StartIo}

/-- Streams may have joined those under way; nothing else about them is touched. -/
structure Joined (c c' : Connection) : Prop where
  active : ∃ added, c'.h3Streams = c.h3Streams ++ added
  map : ∀ id p, c.h3StreamsMap.lookup id = some (some p) → c'.h3StreamsMap.lookup id = some (some p)
  quic : c'.quicheConnection = c.quicheConnection
  h3 : c'.quicheH3Connection = c.quicheH3Connection
  phase : c'.phase = c.phase
  retry : c'.callRetry = c.callRetry
  status : .wait ≤ c.status → .wait ≤ c'.status

theorem Joined.refl (c : Connection) : Joined c c :=
  ⟨⟨[], (List.append_nil _).symm⟩, fun _ _ h => h, rfl, rfl, rfl, rfl, id⟩

theorem Joined.trans (h : Joined c c₁) (h' : Joined c₁ c') : Joined c c' := by
  obtain ⟨added, hadded⟩ := h.active
  obtain ⟨added', hadded'⟩ := h'.active
  exact ⟨⟨added ++ added', by rw [hadded', hadded, List.append_assoc]⟩, fun id p hp => h'.map id p (h.map id p hp),
    h'.quic.trans h.quic, h'.h3.trans h.h3, h'.phase.trans h.phase, h'.retry.trans h.retry,
    fun hs => h'.status (h.status hs)⟩

theorem joined_activate (c : Connection) (st : Stream) (id : Int) : Joined c (c.activate st id) :=
  ⟨⟨[st], rfl⟩, fun _ _ hp => (lookup_emplace _ _ _).2 (.inl hp), rfl, rfl, rfl, rfl, fun hs => hs⟩

/-- A willing `Start` returns what quiche returned. -/
theorem start_willing (st : Stream) (q : Nat) (h3 : H3Conn) {io : StartIo} (hopen : io.fopen = true) :
    ∃ st', st.start (some q) (some h3) io = .ok (st', io.sendRequest) := by
  unfold Stream.start
  by_cases hpath : st.saveFilePath = ""
  · exact ⟨_, if_pos hpath⟩
  · exact ⟨_, (if_neg hpath).trans (if_pos hopen)⟩

theorem startLoop_joins (hwilling : Willing starts) (hq : c.quicheConnection ≠ none)
    (hh3 : c.quicheH3Connection ≠ none) (n num : Nat) :
    ∃ num' c', (startLoop starts n num).run c = .ok ((.ok, num'), c') ∧ Joined c c' := by
  induction n generalizing c num with
  | zero => exact ⟨num, c, rfl, .refl c⟩
  | succ n ih =>
    obtain ⟨q, hq'⟩ := Option.ne_none_iff_exists'.1 hq
    obtain ⟨h3, hh3'⟩ := Option.ne_none_iff_exists'.1 hh3
    cases hstock : c.h3StreamsStock with
    | nil =>
      refine ⟨num, c, ?_, .refl c⟩
      simp only [startLoop, run_bind, Prog.get, Prog.run, hstock]
      rfl
    | cons st rest =>
      obtain ⟨hopen, hid⟩ := hwilling num
      obtain ⟨st', hstart⟩ := start_willing st q h3 hopen
      rcases hid with hid | hlimit
      · obtain ⟨num', c', hrun, hjoined⟩ := ih (c := c.activate st' (starts num).sendRequest) hq hh3 (num + 1)
        refine ⟨num', c', ?_, (joined_activate c st' _).trans hjoined⟩
        rw [← hrun]
        simp only [startLoop, run_bind, Prog.get, Prog.run, hstock, hq', hh3', hstart, gt_iff_lt, Int.not_lt.2 hid,
          ↓reduceIte, perform]
        rfl
      · refine ⟨num, apply (Act.startFailed st') c, ?_, ⟨⟨[], (List.append_nil _).symm⟩, fun _ _ h => h, rfl, rfl, rfl,
          rfl, fun hs => hs⟩⟩
        simp only [startLoop, run_bind, Prog.get, Prog.run, hstock, hq', hh3', hstart, gt_iff_lt, ↓reduceIte, perform,
          hlimit]
        rfl

theorem startStream_joins (hwilling : Willing starts) (hq : c.quicheConnection ≠ none)
    (hh3 : c.quicheH3Connection ≠ none) :
    ∃ c', (startStream starts).run c = .ok (.ok, c') ∧ Joined c c' := by
  by_cases hfull : c.h3StreamsStock = [] ∨ c.options.maxConcurrentStreams ≤ c.h3Streams.length
  · exact ⟨c, startStream_full hfull, .refl c⟩
  obtain ⟨hstock, hroom⟩ := not_or.1 hfull
  by_cases hstatus : c.status = .wait ∨ c.status = .connecting
  · obtain ⟨num, c₁, hloop, hjoined⟩ :=
      startLoop_joins hwilling hq hh3 (c.options.maxConcurrentStreams - c.h3Streams.length) 0
    refine ⟨_, run_startStream hstatus hstock (Nat.not_le.1 hroom) hloop, ?_⟩
    split
    · refine hjoined.trans ⟨⟨[], (List.append_nil _).symm⟩, fun _ _ h => h, rfl, rfl, rfl, rfl, fun _ => ?_⟩
      exact (by decide : QwfsStatus.wait ≤ .connecting)
    · exact hjoined
  · refine ⟨c, ?_, .refl c⟩
    show (if _ then _ else if _ then _ else _ : P QwfsResult).run c = _
    rw [if_neg fun h => hfull h.symm, if_pos (not_or.1 hstatus)]
    rfl

/-- Without streams the connection goes idle. -/
theorem checkIdle_joins (c : Connection) : ∃ c', checkIdle.run c = .ok ((), c') ∧ Joined c c' := by
  by_cases hidle : c.h3Streams = []
  · refine ⟨apply Act.idle c, ?_, ⟨⟨[], (List.append_nil _).symm⟩, fun _ _ h => h, rfl, rfl, rfl, rfl, fun _ => ?_⟩⟩
    · show (if _ then _ else _ : P Unit).run c = _
      rw [if_pos hidle]
      rfl
    · exact (by decide : QwfsStatus.wait ≤ .wait)
  · refine ⟨c, ?_, .refl c⟩
    show (if _ then _ else _ : P Unit).run c = _
    rw [if_neg hidle]
    rfl

/-- The event loop tells each registered stream its events. -/
theorem pollLoop_tells (h : Flowing c) (hfits : Fits c io) : ∃ c', (pollLoop io.polls).run c = .ok ((), c') ∧
    (∀ st ∈ c.h3Streams, c.h3StreamsMap.lookup st.streamId = some (some st.self) →
      ∃ st' ∈ c'.h3Streams, st.hear (eventsOf st.streamId io.polls) = .ok st') ∧
    c'.h3StreamsMap = c.h3StreamsMap ∧ c'.quicheConnection = c.quicheConnection ∧
    c'.quicheH3Connection = c.quicheH3Connection ∧ c'.phase = c.phase ∧ c'.status = c.status ∧
    c'.callRetry = c.callRetry := by
  have hinbox : ∀ st ∈ c.h3Streams, inbox st.self (c.mail (reportedEvents io.polls)) =
      if c.h3StreamsMap.lookup st.streamId = some (some st.self) then eventsOf st.streamId io.polls else [] :=
    fun st hst => inbox_mail h.addressed hfits.reports hst
  obtain ⟨l, hl⟩ : ∃ l, loopCells.Takes (c.mail (reportedEvents io.polls)) c.cells l := by
    refine exists_forall₂ fun s hs => ?_
    obtain ⟨st, hst, rfl⟩ := List.mem_map.1 hs
    show ∃ s', loopCells.handleAll (st, 0) (inbox st.self _) = .ok s'
    rw [hinbox st hst]
    split
    · rename_i hregistered
      obtain ⟨st', hst'⟩ := hfits.hear st hst hregistered
      obtain ⟨m, hm⟩ := (Stream.hear_iff 0).1 hst'
      exact ⟨(st', m), hm⟩
    · exact ⟨(st, 0), rfl⟩
  have hpoll := (pollLoop_iff h.addressed h.quic h.h3 hfits.reports).2 ⟨l, hl, rfl⟩
  have hreset : ((reportedEvents io.polls).any fun e => e.event = .reset) = false := by
    simpa using hfits.reset
  rw [hreset] at hpoll
  refine ⟨_, hpoll, fun st hst hregistered => ?_, rfl, rfl, rfl, rfl, rfl, rfl⟩
  obtain ⟨s, hs, hhandled⟩ := forall₂_left hl (List.mem_map_of_mem (f := fun st => (st, 0)) hst)
  have hhandled : loopCells.handleAll (st, 0) (inbox st.self (c.mail (reportedEvents io.polls))) = .ok s := hhandled
  rw [hinbox st hst, if_pos hregistered] at hhandled
  exact ⟨s.1, List.mem_map_of_mem hs, (Stream.hear_iff 0).2 ⟨s.2, hhandled⟩⟩

theorem run_updateFlowing (h : Flowing c) (hfits : Fits c io) : ∃ c', (Op.run (.update io)).run c = .ok ((), c') ∧
    Flowing c' ∧ ∀ st ∈ c.h3Streams, c.h3StreamsMap.lookup st.streamId = some (some st.self) →
      ∃ st' ∈ c'.h3Streams, st.hear (eventsOf st.streamId io.polls) = .ok st' ∧
        c'.h3StreamsMap.lookup st.streamId = some (some st.self) := by
  have hbegun : Flowing (c.begun io) :=
    ⟨addressed_apply (a := .call (.update io)) h.addressed trivial, h.quic, h.h3, h.phase, h.status, h.retry⟩
  have hfits' : Fits (c.begun io) io := ⟨hfits.calm, hfits.starts, hfits.reports, hfits.reset, hfits.hear⟩
  obtain ⟨c₁, hpoll, htold, hmap, hq, hh3, hphase, hstatus, hretry⟩ := pollLoop_tells hbegun hfits'
  obtain ⟨c₂, hstart, hstarted⟩ := startStream_joins (c := c₁) hfits.starts (hq ▸ h.quic) (hh3 ▸ h.h3)
  obtain ⟨c', hidle, hidled⟩ := checkIdle_joins c₂
  have hjoined := hstarted.trans hidled
  have hwait : (updatePhaseWait io).run (c.begun io) = .ok (.ok, c') := by
    show (if c.callRetry = true then _ else if c.status < .wait then _ else _ : P QwfsResult).run (c.begun io) = _
    have hno : ¬ c.status < .wait := fun hs => (lt_wait_iff _).1 hs h.status
    rw [h.retry, if_neg Bool.false_ne_true, if_neg hno, run_bind, hpoll]
    dsimp only
    rw [run_bind, hstart]
    dsimp only
    rw [if_neg (not_not.2 rfl), run_bind, hidle]
    rfl
  have hq' : c'.quicheConnection ≠ none := by
    rw [hjoined.quic, hq]
    exact h.quic
  have hphase' : c'.phase = .wait := hjoined.phase.trans (hphase.trans h.phase)
  have hstatus' : .wait ≤ c'.status := hjoined.status (hstatus ▸ h.status)
  have hrun : (Op.run (.update io)).run c = .ok ((), c') := by
    refine run_calm hfits.calm h.quic ?_ hq' ?_ fun hs => (lt_wait_iff _).1 hs hstatus'
    · rw [h.phase]
      exact hwait
    · rw [hphase']
      decide
  refine ⟨c', hrun, ⟨addressed_run h.addressed hrun, hq', ?_, hphase', hstatus', ?_⟩, fun st hst hregistered => ?_⟩
  · rw [hjoined.h3, hh3]
    exact h.h3
  · rw [hjoined.retry, hretry]
    exact h.retry
  · obtain ⟨st', hst', hhear⟩ := htold st hst hregistered
    obtain ⟨added, hadded⟩ := hjoined.active
    refine ⟨st', hadded ▸ List.mem_append_left _ hst', hhear, hjoined.map _ _ ?_⟩
    rw [hmap]
    exact hregistered

/-- A call tells each registered stream its events, and takes progress at most. -/
theorem run_flowing {op : Op} (h : Flowing c) (hop : op.duringMigration = true)
    (hfits : ∀ io, op = .update io → Fits c io) : ∃ c', (Op.run op).run c = .ok ((), c') ∧ Flowing c' ∧
    ∀ st ∈ c.h3Streams, c.h3StreamsMap.lookup st.streamId = some (some st.self) →
      ∃ st' ∈ c'.h3Streams, c'.h3StreamsMap.lookup st'.streamId = some (some st'.self) ∧
        ∃ st₁, st.hear (op.told st.streamId) = .ok st₁ ∧ st'.addProgress = st₁.addProgress := by
  cases op with
  | update io =>
    obtain ⟨c', hrun, hflowing, hstreams⟩ := run_updateFlowing h (hfits io rfl)
    refine ⟨c', hrun, hflowing, fun st hst hregistered => ?_⟩
    obtain ⟨st', hst', hhear, hregistered'⟩ := hstreams st hst hregistered
    refine ⟨st', hst', ?_, st', hhear, rfl⟩
    rw [Stream.hear_streamId hhear, Stream.self_of_ticket (Stream.hear_ticket hhear)]
    exact hregistered'
  | publishRequest req =>
    have hrun : (Op.run (.publishRequest req)).run c = .ok ((), c.publishRequest req) := rfl
    have hactive : (c.publishRequest req).h3Streams = c.h3Streams ∧
        (c.publishRequest req).h3StreamsMap = c.h3StreamsMap := by
      rw [publishRequest_eq]
      exact ⟨rfl, rfl⟩
    refine ⟨_, hrun, ?_, fun st hst hregistered => ?_⟩
    · have hstatus : .wait ≤ (c.publishRequest req).status := by
        have hconnecting : (c.publishRequest req).status = .connecting := by
          rw [publishRequest_eq]
          exact if_pos h.status
        rw [hconnecting]
        decide
      have haddressed := addressed_run h.addressed hrun
      rw [publishRequest_eq] at hstatus haddressed ⊢
      exact ⟨haddressed, h.quic, h.h3, h.phase, hstatus, h.retry⟩
    · rw [hactive.1, hactive.2]
      exact ⟨st, hst, hregistered, st, rfl, rfl⟩
  | getProgress =>
    have hrun : (Op.run .getProgress).run c =
        .ok ((), { c with h3Streams := c.h3Streams.map Stream.addProgress }) := rfl
    refine ⟨_, hrun, ⟨addressed_run h.addressed hrun, h.quic, h.h3, h.phase, h.status, h.retry⟩,
      fun st hst hregistered => ?_⟩
    exact ⟨st.addProgress, List.mem_map_of_mem hst, hregistered, st, rfl, rfl⟩
  | _ => cases hop

end Connection

/-! ## Calls that carry the responses on -/

/-- Calls during which the event loop runs: Updates that fit, PublishRequest and GetProgress. -/
def Flows : List Op → Connection → Prop
  | [], _ => True
  | op :: ops, c => op.duringMigration = true ∧ (∀ io, op = .update io → Fits c io) ∧
      ∀ c', (Op.run op).run c = .ok ((), c') → Flows ops c'

variable {c c₁ c₂ c' : Connection} {ops : List Op} {io : UpdateIo}

theorem flows_run (h : Flowing c) (hflows : Flows ops c) : ∃ c', (exec ops).run c = .ok ((), c') ∧
    ∀ st ∈ c.h3Streams, c.h3StreamsMap.lookup st.streamId = some (some st.self) →
      ∃ st' ∈ c'.h3Streams, ∃ st₁, st.hear (ops.flatMap (Op.told st.streamId)) = .ok st₁ ∧
        st'.addProgress = st₁.addProgress := by
  induction ops generalizing c with
  | nil => exact ⟨c, rfl, fun st hst _ => ⟨st, hst, st, rfl, rfl⟩⟩
  | cons op ops ih =>
    obtain ⟨hop, hfits, hrest⟩ := hflows
    obtain ⟨c₁, hrun, hflowing, hstreams⟩ := run_flowing h hop hfits
    obtain ⟨c', hrun', hstreams'⟩ := ih hflowing (hrest c₁ hrun)
    refine ⟨c', ?_, fun st hst hregistered => ?_⟩
    · rw [run_session_cons, hrun]
      exact hrun'
    · obtain ⟨x, hx, hregistered', st₁, hhear, hsame⟩ := hstreams st hst hregistered
      obtain ⟨st', hst', x', hhear', hsame'⟩ := hstreams' x hx hregistered'
      have hid : x.streamId = st.streamId := by
        rw [← Stream.hear_streamId hhear]
        show x.addProgress.streamId = st₁.addProgress.streamId
        rw [hsame]
      rw [hid] at hhear'
      obtain ⟨st₂, hhear₂, hsame₂⟩ := Stream.hear_addProgress hsame.symm hhear'
      exact ⟨st', hst', st₂, Stream.hear_append.2 ⟨st₁, hhear, hhear₂⟩, hsame'.trans hsame₂.symm⟩

/-! ## The block holds what was written -/

/-- What is counted as written is there; without a path to save to there is no file. -/
structure Backed (st : Stream) : Prop where
  filled : st.Filled
  memory : st.saveFilePath = "" → st.file = none

section Backed
variable {hist : List (Connection × Act)} {a : Act} {st st' : Stream}

theorem backed_blank (hfile : st.file = none) (hwrite : st.writeSize = 0) : Backed st :=
  ⟨fun _ => by rw [hwrite]; exact Nat.zero_le _, fun _ => hfile⟩

theorem Backed.handled (h : Backed st) (hh : Handled c a st st') : Backed st' := by
  cases hh with
  | headers _ hst =>
    rw [Stream.eventHeaders_ok hst]
    exact ⟨h.filled, h.memory⟩
  | data _ hst =>
    rcases Stream.eventData_cases hst with ⟨_, _, -, rfl⟩ | ⟨_, _, _, _, -, rfl, hnone, happend⟩
    · exact ⟨h.filled, h.memory⟩
    · exact ⟨(happend h.filled).1, fun hp => hnone.2 (h.memory hp)⟩
  | finished => exact ⟨h.filled, h.memory⟩

theorem Backed.failed (h : Backed st) (hmemory : st.saveFilePath = "") (hf : Stream.StartFailed st st') :
    Backed st' := by
  have hfile := (hf.memory hmemory).trans (h.memory hmemory)
  have hfilled := h.filled (h.memory hmemory)
  obtain ⟨_, _, _, _, _, _, rfl⟩ := hf.rest
  exact ⟨fun _ => hfilled, fun _ => hfile⟩

theorem backed_started (h : st.saveFilePath = "" → Backed st) (q : Nat) (h3 : H3Conn) (id : Int) :
    Backed (st.started q h3 id) := by
  by_cases hpath : st.saveFilePath = ""
  · have hfile : (st.started q h3 id).file = st.file := if_pos hpath
    exact ⟨fun hn => (h hpath).filled (hfile ▸ hn), fun _ => hfile.trans ((h hpath).memory hpath)⟩
  · have hfile : (st.started q h3 id).file = some [] := if_neg hpath
    exact ⟨fun hn => (by rw [hfile] at hn; cases hn), fun hp => absurd hp hpath⟩

/-- Every active stream has what it counts; a waiting one does in memory. -/
structure AllBacked (c : Connection) : Prop where
  active : ∀ st ∈ c.h3Streams, Backed st
  waiting : ∀ st ∈ c.waiting, st.saveFilePath = "" → Backed st

theorem allBacked_apply (hA : Addressed c) (hE : Enabled c a) (h : AllBacked c) : AllBacked (apply a c) := by
  constructor
  · intro x' hx'
    cases active_from hA hE hx' with
    | @kept _ x _ hx hb =>
      have hold := h.active x hx
      cases hb with
      | same _ => exact hold
      | progress => exact ⟨hold.filled, hold.memory⟩
      | handled hh => exact hold.handled hh
      | shutdown =>
        unfold Stream.shutdown
        split
        · exact backed_blank rfl rfl
        · exact hold
    | started hst hid =>
      obtain ⟨q, h3, -, -, rfl⟩ := starting_started hst hid
      exact backed_started (h.waiting _ (starting_mem hst)) q h3 _
  · intro x hx hpath
    cases waiting_from hA hE hx with
    | same hy => exact h.waiting _ hy hpath
    | published => exact backed_blank rfl rfl
    | handled hst hh =>
      have hpath' : _ = "" := (congrArg Stream.Ticket.saveFilePath hh.ticket).symm.trans hpath
      exact (h.waiting _ hst hpath').handled hh
    | failed hst hid =>
      have hfailed := starting_failed hst hid
      have hpath' : _ = "" := (congrArg Stream.Ticket.saveFilePath hfailed.ticket).symm.trans hpath
      exact (h.waiting _ (starting_mem hst) hpath').failed hpath' hfailed
    | requeued hy => exact h.active _ hy
    | shelved hy => exact h.active _ hy

theorem exec_backed {hostName port : String} {before : List Op}
    (hv : (exec before).Visits (new hostName port) hist c) : AllBacked c :=
  visits_inv (J := fun _ => AllBacked)
    ⟨fun _ h => absurd h List.not_mem_nil, fun _ h => absurd h List.not_mem_nil⟩
    (fun _ _ _ hp h => allBacked_apply (exec_enabled hp).1 (exec_enabled hp).2 h) hv

end Backed

/-! ## After a migration -/

/-- The responses under way in `c` go on in `c'` where they stopped: calls with which the event loop runs
return, and a stream that the map leads to is what its events make of it; the bytes of the events
come behind the body that was there. -/
def Continues (c c' : Connection) : Prop :=
  ∀ ops, Flows ops c' → ∃ c'', (exec ops).run c' = .ok ((), c'') ∧
    ∀ st ∈ c.h3Streams, c.h3StreamsMap.lookup st.streamId = some (some st.self) → ∃ st' ∈ c''.h3Streams,
      (∃ st₁, st.hear (ops.flatMap (Op.told st.streamId)) = .ok st₁ ∧ st'.addProgress = st₁.addProgress) ∧
        st'.content = st.content ++ (ops.flatMap (Op.told st.streamId)).flatMap H3Event.bytes

theorem addressed_stays (hA : Addressed c) (h : Stays ops c c') : Addressed c' := by
  induction h with
  | nil => exact hA
  | cons _ hrun _ ih => exact ih (addressed_run hA hrun)

/-- What carries the transfers, and comes to phase Wait without an error, lets the responses go on. -/
theorem continues_carried {reqs : List Request} (hbacked : AllBacked c) (h : Carried c c' reqs)
    (hflowing : Flowing c') : Continues c c' := by
  intro ops hflows
  obtain ⟨c'', hrun, hstreams⟩ := flows_run hflowing hflows
  refine ⟨c'', hrun, fun st hst hregistered => ?_⟩
  obtain ⟨x, hx, hsame⟩ : ∃ x ∈ c'.h3Streams, x.addProgress = st.addProgress :=
    List.mem_map.1 (h.active ▸ List.mem_map_of_mem hst)
  have hid : x.streamId = st.streamId := by
    show x.addProgress.streamId = _
    rw [hsame]
    rfl
  have hself : x.self = st.self := by
    show x.addProgress.self = _
    rw [hsame]
    rfl
  obtain ⟨st', hst', x', hhear, hsame'⟩ := hstreams x hx (by rw [h.map, hid, hself]; exact hregistered)
  rw [hid] at hhear
  obtain ⟨st₁, hhear₁, hsame₁⟩ := Stream.hear_addProgress hsame.symm hhear
  refine ⟨st', hst', ⟨st₁, hhear₁, hsame'.trans hsame₁.symm⟩, ?_⟩
  rw [Stream.content_addProgress (hsame'.trans hsame₁.symm)]
  exact ((hbacked.active st hst).filled.hear hhear₁).2

/-- In an error the phase function looks at no event. -/
theorem updatePhaseWait_error (hretry : c.callRetry = false) (hstatus : c.status < .wait) (io : UpdateIo) :
    (updatePhaseWait io).run c = .ok (.ok, c) := by
  show (if c.callRetry = true then _ else if c.status < .wait then _ else _ : P QwfsResult).run c = _
  rw [hretry, if_neg Bool.false_ne_true, if_pos hstatus]
  rfl

/-- From the beginning of a migration to the Update that ends it, however many attempts that takes: the
transfers are kept. Without an error the responses then go on, with one they stop. -/
theorem migration_transparent {hostName port : String} {before : List Op} {hist : List (Connection × Act)}
    (hbegins : (exec before).Performs (new hostName port) hist c .transitionConnectionMigration)
    (hops : ∀ op ∈ ops, op.duringMigration = true)
    (hstays : Stays ops (apply Act.transitionConnectionMigration c) c₁)
    (hrun : (Op.run (.update io)).run c₁ = .ok ((), c₂))
    (hsettles : ∃ e ∈ (Op.run (.update io)).trace c₁, e.2.settles = true) :
    Carried c c₂ (ops.flatMap Op.published) ∧
      (c₂.phase = .wait → c₂.callRetry = false → (.wait ≤ c₂.status → Continues c c₂) ∧
        (c₂.status < .wait → ∀ io, (updatePhaseWait io).run c₂ = .ok (.ok, c₂))) := by
  have hcarried := carried_migration c ops io hops hstays hrun hsettles
  obtain ⟨hA, hE⟩ := exec_enabled hbegins
  refine ⟨hcarried, fun hphase hretry => ⟨fun hstatus => ?_, fun hstatus => updatePhaseWait_error hretry hstatus⟩⟩
  refine continues_carried (exec_backed hbegins.visits) hcarried ?_
  exact { addressed := addressed_run (addressed_stays (addressed_apply hA hE) hstays) hrun,
          quic := hcarried.quicheConnection ▸ hE.1, h3 := hcarried.quicheH3Connection ▸ hE.2, phase := hphase,
          status := hstatus, retry := hretry }

/-- The connection as the migration finds it. -/
def migrationBegins : Connection := after (new "h" "443") ((exec migrationOps).trace (new "h" "443")).dropLast

/-- The connection after a migration: a request is published before the path is probed. -/
def migrated : Connection := after (apply Act.transitionConnectionMigration migrationBegins)
  ((exec [.publishRequest { path := some "/next" }, .update {}]).trace
    (apply Act.transitionConnectionMigration migrationBegins))

/-- The connection after a migration for which quiche gave no new connection id. -/
def migrationFailed : Connection := after (apply Act.transitionConnectionMigration migrationBegins)
  ((Op.run (.update { newSourceCid := false })).trace (apply Act.transitionConnectionMigration migrationBegins))

/-- An Update with the third byte of the response, and its end. -/
def lastByteOps : List Op :=
  [.update { starts := fun n => { sendRequest := 4 * n + 4 },
             polls := [{ streamId := 0, event := .data (.buffered [3]) }, { streamId := 0, event := .finished }] }]

theorem flows_lastByte (hactive : c.h3Streams = migrationBegins.h3Streams)
    (hmap : c.h3StreamsMap = migrationBegins.h3StreamsMap) : Flows lastByteOps c := by
  refine ⟨rfl, ?_, fun _ _ => trivial⟩
  rintro _ ⟨⟩
  exact { calm := calm_defaults _ _, starts := fun n => ⟨rfl, .inl (show (0 : Int) ≤ 4 * n + 4 by omega)⟩,
          reports := by
            rw [Reports, hactive, hmap]
            decide
          reset := by decide, hear := fun st hst _ => by
            rw [hactive] at hst
            obtain rfl := List.mem_singleton.1 hst
            exact ⟨_, rfl⟩ }

/-- A response of which two bytes have come goes on with the third. -/
theorem migration_transparent_download : migrationBegins.h3Streams.map Stream.content = [[1, 2]] ∧
    Carried migrationBegins migrated [{ path := some "/next" }] ∧
    ∃ c₃, (exec lastByteOps).run migrated = .ok ((), c₃) ∧ ∃ st' ∈ c₃.h3Streams, st'.content = [1, 2, 3] := by
  have hbegins : (exec migrationOps).Performs (new "h" "443") _ migrationBegins .transitionConnectionMigration :=
    performs_last rfl
  have hstays : Stays [.publishRequest { path := some "/next" }]
      (apply Act.transitionConnectionMigration migrationBegins) _ := .cons rfl rfl (.nil rfl)
  obtain ⟨hcarried, hends⟩ := migration_transparent hbegins (by decide) hstays
    (show (Op.run (.update {})).run _ = .ok ((), migrated) from rfl) ⟨_, List.mem_of_getElem? (i := 2) rfl, rfl⟩
  have hcontinues : Continues migrationBegins migrated := (hends rfl rfl).1 (by decide)
  obtain ⟨c₃, hrun₃, hstreams⟩ := hcontinues lastByteOps (flows_lastByte rfl rfl)
  obtain ⟨st', hst', -, hcontent⟩ := hstreams _ (List.mem_singleton.2 rfl) (by decide)
  exact ⟨rfl, hcarried, c₃, hrun₃, st', hst', hcontent⟩

/-- Without a new connection id the migration ends in phase Wait with an error, and the response stops. -/
theorem migration_transparent_newSourceCid :
    (Op.run (.update { newSourceCid := false })).run (apply Act.transitionConnectionMigration migrationBegins) =
      .ok ((), migrationFailed) ∧ migrationFailed.phase = .wait ∧ Flows lastByteOps migrationFailed ∧
      ¬ Continues migrationBegins migrationFailed := by
  refine ⟨rfl, rfl, flows_lastByte rfl rfl, fun hcontinues => ?_⟩
  obtain ⟨c'', hrun, hstreams⟩ := hcontinues lastByteOps (flows_lastByte rfl rfl)
  cases hrun
  obtain ⟨st', hst', -, hcontent⟩ := hstreams _ (List.mem_singleton.2 rfl) (by decide)
  obtain rfl := List.mem_singleton.1 hst'
  exact absurd hcontent (by decide)

end Nhh3
