import Nhh3.Bodies
import Nhh3.Callbacks
import Nhh3.Lib.EdgeTrigger
import Nhh3.Routing
/-!
# Body data that is never read: the event loop and EventData

quiche reports a DATA event once for what it has buffered, and `EventData` reads once,
into a buffer of fixed size. The streams of a connection are edge-triggered sources,
and the calls of the event loop on them are read off its actions.
-/

namespace Nhh3

open Lib Lib.Prog Lib.Edge Connection

/-! ## The calls on quiche -/

/-- What `quiche_h3_recv_body` finds; `none` if it fails. -/
def BodyIo.found : BodyIo → Option Bytes
  | .buffered data _ => some data
  | .failed _ => none

/-- The events about body data, and the read of `EventData`, which is for the stream's own id. -/
def Act.quicheCalls : Act → List (Call Int UInt8)
  | .eventData id body st => [.notify id, .read st.streamId body.found]
  | .eventFinished id _ => [.finish id]
  | _ => []

def quicheCalls (hist : List (Connection × Act)) : List (Call Int UInt8) := hist.flatMap fun e => e.2.quicheCalls

/-- The calls that an event should lead to. -/
def PollIo.quicheCalls (io : PollIo) : List (Call Int UInt8) :=
  match io.event with
  | .data body => [.notify io.streamId, .read io.streamId body.found]
  | .finished => [.finish io.streamId]
  | _ => []

/-- The events of a loop: up to the answer that there are no more. -/
def reportedEvents (ios : List PollIo) : List PollIo := ios.takeWhile fun io => 0 ≤ io.streamId

/-- No event is for a stream that the map does not know, so the loop goes on until there are no more. -/
def AllKnown (c : Connection) (ios : List PollIo) : Prop :=
  ∀ io ∈ reportedEvents ios, ∃ p, c.h3StreamsMap.lookup io.streamId = some (some p)

/-- Every body is read from the stream that its event was reported for. -/
def ReadsOwn (hist : List (Connection × Act)) : Prop :=
  ∀ e ∈ hist, ∀ id body st, e.2 = .eventData id body st → st.streamId = id

theorem readsOnce_reported (ios : List PollIo) : ReadsOnce ((reportedEvents ios).flatMap PollIo.quicheCalls) := by
  induction reportedEvents ios with
  | nil => exact .nil
  | cons io ios ih =>
    rw [List.flatMap_cons, PollIo.quicheCalls]
    cases io.event with
    | data body => exact .ready _ _ ih
    | finished => exact .finish _ ih
    | _ => exact ih

theorem read_mem {i : Int} {found : Option Bytes} {ios : List PollIo} :
    .read i found ∈ ios.flatMap PollIo.quicheCalls ↔
      ∃ io ∈ ios, ∃ body, io.streamId = i ∧ io.event = .data body ∧ body.found = found := by
  rw [List.mem_flatMap]
  refine exists_congr fun io => and_congr_right fun _ => ?_
  rw [PollIo.quicheCalls]
  cases io.event <;> simp [eq_comm]

section Loop
variable {c c' : Connection} {id : Int} {event : H3Event} {io : PollIo} {ios : List PollIo} {st : Stream}

theorem calls_append (hist hist' : List (Connection × Act)) :
    quicheCalls (hist ++ hist') = quicheCalls hist ++ quicheCalls hist' :=
  List.flatMap_append ..

theorem useH3Connection_ok (hrun : useH3Connection.run c = .ok ((), c')) :
    c' = c ∧ useH3Connection.trace c = [] := by
  by_cases h : c.quicheH3Connection = none ∨ c.quicheConnection = none
  · simp only [useH3Connection, run_bind, Prog.get, Prog.run, h, ↓reduceIte] at hrun
    cases hrun
  · simp only [useH3Connection, run_bind, trace_bind, Prog.get, Prog.run, Prog.trace, h, ↓reduceIte] at hrun ⊢
    cases hrun
    exact ⟨rfl, rfl⟩

theorem checkSettings_ok {rc : Int} (hrun : (checkSettings rc).run c = .ok ((), c')) :
    c'.h3StreamsMap = c.h3StreamsMap ∧ quicheCalls ((checkSettings rc).trace c) = [] := by
  by_cases h : c.settingsReceived = false ∧ rc = 0
  all_goals
    simp only [checkSettings, run_bind, trace_bind, Prog.get, Prog.run, Prog.trace, h, and_self, ↓reduceIte] at hrun ⊢
    cases hrun
    exact ⟨rfl, rfl⟩

/-- The handler of an event makes its calls, on the id the stream has. -/
theorem dispatch_ok (hrun : (dispatch io.streamId io.event st).run c = .ok ((), c')) :
    c'.h3StreamsMap = c.h3StreamsMap ∧
      (ReadsOwn ((dispatch io.streamId io.event st).trace c) →
        quicheCalls ((dispatch io.streamId io.event st).trace c) = io.quicheCalls) := by
  unfold PollIo.quicheCalls
  cases hevent : io.event with
  | headers list =>
    simp only [dispatch, hevent] at hrun ⊢
    cases hst : st.eventHeaders list with
    | error e => simp only [hst] at hrun; cases hrun
    | ok st' =>
      simp only [hst] at hrun
      cases hrun
      exact ⟨rfl, fun _ => rfl⟩
  | data body =>
    simp only [dispatch, hevent] at hrun ⊢
    cases hst : st.eventData body with
    | error e => simp only [hst] at hrun; cases hrun
    | ok st' =>
      simp only [hst] at hrun
      cases hrun
      refine ⟨rfl, fun hown => ?_⟩
      have hid : st'.streamId = io.streamId := hown _ (List.mem_singleton_self _) _ _ _ rfl
      simp [quicheCalls, Act.quicheCalls, perform, trace, hid]
  | _ =>
    rw [hevent] at hrun
    cases hrun
    exact ⟨rfl, fun _ => rfl⟩

/-- One round of the loop: the settings, the handler, and the rounds behind it. -/
theorem pollLoop_event {p : Nat} (hid : 0 ≤ io.streamId)
    (hentry : c.h3StreamsMap.lookup io.streamId = some (some p))
    (hrun : (pollLoop (io :: ios)).run c = .ok ((), c')) : ∃ c₁ st c₂,
      (checkSettings io.settings).run c = .ok ((), c₁) ∧
      (dispatch io.streamId io.event st).run c₁ = .ok ((), c₂) ∧ (pollLoop ios).run c₂ = .ok ((), c') ∧
      (pollLoop (io :: ios)).trace c = (checkSettings io.settings).trace c ++
        ((dispatch io.streamId io.event st).trace c₁ ++ (pollLoop ios).trace c₂) := by
  obtain ⟨_, c₀, huse, hrest, htrace⟩ := bind_ok hrun
  obtain ⟨rfl, hnil⟩ := useH3Connection_ok huse
  rw [pollLoop, htrace, hnil, List.nil_append]
  rw [if_neg (Int.not_lt.2 hid)] at hrest ⊢
  obtain ⟨_, c₁, hsettings, hrest, htrace⟩ := bind_ok hrest
  rw [htrace]
  obtain ⟨_, _, hget, hrest, htrace⟩ := bind_ok hrest
  cases hget
  rw [htrace]
  simp only [(checkSettings_ok hsettings).1, hentry] at hrest ⊢
  cases hst : c₁.streamAt p with
  | none =>
    simp only [hst] at hrest
    cases hrest
  | some st =>
    simp only [hst] at hrest ⊢
    obtain ⟨_, c₂, hdispatch, hloop, htrace⟩ := bind_ok hrest
    exact ⟨c₁, st, c₂, hsettings, hdispatch, hloop, congrArg _ htrace⟩

/-- The loop makes the calls of the events it is reported. -/
theorem pollLoop_calls (hrun : (pollLoop ios).run c = .ok ((), c')) (hknown : AllKnown c ios)
    (hown : ReadsOwn ((pollLoop ios).trace c)) :
    quicheCalls ((pollLoop ios).trace c) = (reportedEvents ios).flatMap PollIo.quicheCalls := by
  induction ios generalizing c with
  | nil =>
    rw [pollLoop, (useH3Connection_ok hrun).2]
    rfl
  | cons io ios ih =>
    by_cases hid : 0 ≤ io.streamId
    · have hreported : reportedEvents (io :: ios) = io :: reportedEvents ios := by simp [reportedEvents, hid]
      rw [AllKnown, hreported, List.forall_mem_cons] at hknown
      obtain ⟨p, hentry⟩ := hknown.1
      obtain ⟨c₁, st, c₂, hsettings, hdispatch, hloop, htrace⟩ := pollLoop_event hid hentry hrun
      obtain ⟨hmap₁, hquiet⟩ := checkSettings_ok hsettings
      obtain ⟨hmap₂, hcalls⟩ := dispatch_ok hdispatch
      rw [htrace] at hown ⊢
      have hown₁ := fun e he => hown e (List.mem_append_right _ (List.mem_append_left _ he))
      have hown₂ := fun e he => hown e (List.mem_append_right _ (List.mem_append_right _ he))
      rw [calls_append, calls_append, hquiet, hcalls hown₁, List.nil_append, hreported, List.flatMap_cons,
        ih hloop (by rw [AllKnown, hmap₂, hmap₁]; exact hknown.2) hown₂]
    · obtain ⟨_, c₀, huse, hrest, htrace⟩ := bind_ok hrun
      obtain ⟨rfl, hnil⟩ := useH3Connection_ok huse
      rw [pollLoop, htrace, hnil, List.nil_append, if_pos (Int.not_le.1 hid)]
      simp only [reportedEvents, List.takeWhile_cons, hid, decide_false]
      rfl

/-! ## The streams of the loop -/

/-- The stream ids of the active streams. -/
def Connection.streamIds (c : Connection) : List Int := c.h3Streams.map Stream.streamId

/-- No action of the loop changes which ids are active. -/
theorem streamIds_apply {a : Act} (hA : Addressed c) (hE : Enabled c a) (ha : a.ofPoll = true) :
    (apply a c).streamIds = c.streamIds := by
  have hput : ∀ st st', Handled c a st st' → (apply a c).streamIds = c.streamIds := by
    intro st st' h
    rw [Connection.streamIds, h.apply.1, put, List.map_map]
    refine List.map_congr_left fun x hx => ?_
    show (if x.self = st'.self then st' else x).streamId = x.streamId
    split
    · rename_i hself
      obtain ⟨_, hd⟩ := h.dispatched
      obtain rfl := dispatched_eq hA hd hx (hself.trans (Stream.self_of_ticket h.ticket))
      exact h.handles.2.2
    · rfl
  cases a with
  | eventHeaders id list st' =>
    obtain ⟨st, hd, hst⟩ := hE
    exact hput _ _ (.headers hd hst)
  | eventData id body st' =>
    obtain ⟨st, hd, hst⟩ := hE
    exact hput _ _ (.data hd hst)
  | eventFinished id st' =>
    obtain ⟨st, hd, rfl⟩ := hE
    exact hput _ _ (.finished hd)
  | settingsReceived => rfl
  | placeholder id => rfl
  | eventReset id => rfl
  | _ => cases ha

/-- Through the loop the map stays exact, so a body is read from the stream its event was for. -/
theorem pollLoop_own (hA : Addressed c) (hR : Routed c) (hP : Polling c) (ios : List PollIo) :
    ReadsOwn ((pollLoop ios).trace c) ∧
      ∀ c', (pollLoop ios).run c = .ok ((), c') → c'.streamIds = c.streamIds := by
  have hsat : Guarded .getProgress c (pollLoop ios) (fun _ c' => Polling c') c :=
    guarded_pollLoop ios (fun hn => (hn.elim hP.h3 hP.quic).elim) fun _ _ => hP
  have hacts := (hsat.sound (fun _ _ hA _ hE => addressed_apply hA hE) hA fun _ _ => trivial).1
  have hJ : ∀ hist c', (pollLoop ios).Visits c hist c' → Routed c' ∧ c'.streamIds = c.streamIds := by
    intro hist c' hv
    refine visits_inv (J := fun _ c' => Routed c' ∧ c'.streamIds = c.streamIds) ⟨hR, rfl⟩ ?_ hv
    intro hist c' a hp ⟨hR', hids⟩
    obtain ⟨hA', hE'⟩ := hacts _ hp.mem
    have ha : a.ofPoll = true := (acts_pollLoop ios).mem hp.mem
    refine ⟨routed_apply hA' hE' ?_ hR', (streamIds_apply hA' hE' ha).trans hids⟩
    cases a <;> trivial
  refine ⟨?_, fun c' hrun => (hJ _ _ (visits_end hrun)).2⟩
  rintro ⟨c', a⟩ he id body st' rfl
  obtain ⟨hist, hp⟩ := performs_of_mem he
  obtain ⟨hA', st, hd, hst⟩ := hacts _ he
  obtain ⟨x, hx, hself, hid⟩ := (hJ _ _ hp.visits).1.entries id _ hd.entry
  obtain rfl := dispatched_eq hA' hd hx hself
  rw [← hid]
  exact (Handled.data hd hst).handles.2.2

theorem forall_streamIds {P : Int → Prop} : (∀ i ∈ c.streamIds, P i) ↔ ∀ st ∈ c.h3Streams, P st.streamId :=
  List.forall_mem_map

theorem whole_found {n : Nat} {body : BodyIo} :
    Whole n body.found ↔ ∃ data malloc, body = .buffered data malloc ∧ data.length ≤ n := by
  cases body <;> simp [Whole, BodyIo.found]

end Loop

/-- When the event loop has come to the last event, no data that was reported is left unread exactly if
none was before, and each DATA event found no more than the buffer holds, which was read. -/
theorem body_data_read (c : Connection) (q : Int → Edge UInt8) (ios : List PollIo) {c' : Connection}
    (hA : Addressed c) (hR : Routed c) (hP : Polling c) (hrun : (pollLoop ios).run c = .ok ((), c'))
    (hknown : AllKnown c ios)
    (hcontract : Contract recvTmpBufSize q (quicheCalls ((pollLoop ios).trace c))) :
    (∀ st ∈ c'.h3Streams,
        ¬ (served recvTmpBufSize q (quicheCalls ((pollLoop ios).trace c)) st.streamId).Stalled) ↔
      (∀ st ∈ c.h3Streams, ¬ (q st.streamId).Stalled) ∧
        ∀ io ∈ reportedEvents ios, ∀ body, io.event = .data body →
          ∃ data malloc, body = .buffered data malloc ∧ data.length ≤ recvTmpBufSize := by
  obtain ⟨hown, hids⟩ := pollLoop_own hA hR hP ios
  rw [pollLoop_calls hrun hknown hown] at hcontract ⊢
  rw [← forall_streamIds (P := fun i => ¬ (served _ _ _ i).Stalled), hids c' hrun, forall_streamIds]
  simp only [stalled_iff (readsOnce_reported ios) hcontract, read_mem, not_or, not_exists, not_and, not_not,
    forall_and, ← whole_found]
  refine and_congr_right fun _ => ⟨?_, ?_⟩
  · intro h io hio body hbody
    obtain ⟨p, hentry⟩ := hknown io hio
    obtain ⟨st, hst, -, hid⟩ := hR.entries _ _ hentry
    exact h st hst _ ⟨io, hio, body, hid.symm, hbody, rfl⟩
  · rintro h st - _ ⟨io, hio, body, -, hbody, rfl⟩
    exact h io hio body hbody

/-- A connection with one request under way, on stream 0. -/
def requested : Connection :=
  after (new "h" "443") ((exec (connectOps ++ [.publishRequest {}, .update {}])).trace (new "h" "443"))

/-- Only stream 0 has data. -/
def bufferedFirst (data : Bytes) : Int → Edge UInt8 := fun i => ⟨if i = 0 then data else [], false⟩

/-- A loop that is reported the data. -/
def dataPolls (data : Bytes) : List PollIo := [{ streamId := 0, event := .data (.buffered data) }]

theorem requested_loop : Addressed requested ∧ Routed requested ∧ Polling requested := by
  have hv : (exec (connectOps ++ [.publishRequest {}, .update {}])).Visits (new "h" "443") _ requested :=
    ⟨List.prefix_rfl, rfl⟩
  refine ⟨exec_addressed hv, exec_routed (by decide) hv, ?_⟩
  exact { quic := by decide, h3 := by decide, status := by decide, phase := by decide, retry := by decide }

/-- Only what fits into the buffer is taken. -/
theorem Stream.eventData_chunk (st : Stream) (data : Bytes) :
    st.eventData (.buffered data) = st.eventData (.buffered (chunk data)) := by
  simp [eventData, chunk, List.take_take]

theorem requested_run (data : Bytes) : ∃ c', (pollLoop (dataPolls data)).run requested = .ok ((), c') := by
  obtain ⟨st, hst, hholds, hlength⟩ : ∃ st, requested.streamAt 0 = some st ∧ st.Holds [] (.memory 0) ∧
      st.bodySize = 0 :=
    ⟨_, rfl, ⟨⟨rfl, rfl⟩, rfl, rfl, fun h => absurd rfl h⟩, rfl⟩
  have hfits : (Stream.chunk data).length ≤ recvTmpBufSize := by simp [Stream.chunk]
  obtain ⟨st', hdata⟩ := (hholds.eventData hfits true).2 (fun _ _ => rfl) (by simp [Sink.put, blockSize, hlength])
  rw [← Stream.eventData_chunk] at hdata
  obtain ⟨-, -, hP⟩ := requested_loop
  have hentry : requested.h3StreamsMap.lookup 0 = some (some 0) := by decide
  have hround : (dispatch 0 (.data (.buffered data)) st).run requested = .ok ((), requested.putStream st') := by
    simp only [dispatch, hdata]
    rfl
  refine ⟨requested.putStream st', ?_⟩
  show (useH3Connection >>= fun _ => _).run requested = _
  rw [run_bind, show useH3Connection.run requested = .ok ((), requested) from rfl]
  show (checkSettings (-1) >>= fun _ => _).run requested = _
  rw [run_bind, show (checkSettings (-1)).run requested = .ok ((), requested) from rfl]
  simp only [run_bind, Prog.get, Prog.run, hentry, hst, hround]
  rfl

theorem requested_known (data : Bytes) : AllKnown requested (dataPolls data) := by
  intro io hio
  obtain rfl : io = { streamId := 0, event := .data (.buffered data) } := by
    simpa [reportedEvents, dataPolls] using hio
  exact ⟨0, rfl⟩

theorem requested_contract {data : Bytes} (h : data ≠ []) : Contract recvTmpBufSize (bufferedFirst data)
    (quicheCalls ((pollLoop (dataPolls data)).trace requested)) := by
  obtain ⟨c', hrun⟩ := requested_run data
  obtain ⟨hA, hR, hP⟩ := requested_loop
  rw [pollLoop_calls hrun (requested_known data) (pollLoop_own hA hR hP _).1]
  refine ⟨⟨rfl, h⟩, ?_, trivial⟩
  rintro _ hfound
  cases hfound
  rfl

theorem body_data_read_small : ∃ c', (pollLoop (dataPolls [1, 2])).run requested = .ok ((), c') ∧
    ∀ st ∈ c'.h3Streams, ¬ (served recvTmpBufSize (bufferedFirst [1, 2])
      (quicheCalls ((pollLoop (dataPolls [1, 2])).trace requested)) st.streamId).Stalled := by
  obtain ⟨hA, hR, hP⟩ := requested_loop
  obtain ⟨c', hrun⟩ := requested_run [1, 2]
  refine ⟨c', hrun, (body_data_read requested (bufferedFirst [1, 2]) (dataPolls [1, 2]) hA hR hP hrun
    (requested_known _) (requested_contract (by decide))).2 ⟨fun st _ h => Bool.noConfusion h.1, ?_⟩⟩
  intro io hio body hbody
  obtain rfl : io = { streamId := 0, event := .data (.buffered [1, 2]) } := by
    simpa [reportedEvents, dataPolls] using hio
  cases hbody
  exact ⟨[1, 2], true, rfl, by decide⟩

theorem requested_stalled {data : Bytes} (h : recvTmpBufSize < data.length) {c' : Connection}
    (hrun : (pollLoop (dataPolls data)).run requested = .ok ((), c')) :
    ∃ st ∈ c'.h3Streams, (served recvTmpBufSize (bufferedFirst data)
      (quicheCalls ((pollLoop (dataPolls data)).trace requested)) st.streamId).Stalled := by
  obtain ⟨hA, hR, hP⟩ := requested_loop
  obtain ⟨hown, hids⟩ := pollLoop_own hA hR hP (dataPolls data)
  have hmem : (0 : Int) ∈ c'.streamIds := by rw [hids c' hrun]; decide
  obtain ⟨st, hst, hid⟩ := List.mem_map.1 hmem
  have hdata : data ≠ [] := List.ne_nil_of_length_pos (Nat.zero_lt_of_lt h)
  refine ⟨st, hst, ?_⟩
  rw [hid, pollLoop_calls hrun (requested_known data) hown]
  have hcontract := requested_contract hdata
  rw [pollLoop_calls hrun (requested_known data) hown] at hcontract
  rw [stalled_iff (readsOnce_reported _) hcontract]
  refine .inr ⟨some data, by simp [reportedEvents, dataPolls, PollIo.quicheCalls, BodyIo.found], ?_⟩
  simpa [Whole] using h

theorem requested_left (data : Bytes) (h : recvTmpBufSize < data.length) :
    AllKnown requested (dataPolls data) ∧
    Contract recvTmpBufSize (bufferedFirst data) (quicheCalls ((pollLoop (dataPolls data)).trace requested)) ∧
    ∃ c', (pollLoop (dataPolls data)).run requested = .ok ((), c') ∧
      ∃ st ∈ c'.h3Streams, (served recvTmpBufSize (bufferedFirst data)
        (quicheCalls ((pollLoop (dataPolls data)).trace requested)) st.streamId).Stalled := by
  have hdata : data ≠ [] := List.ne_nil_of_length_pos (Nat.zero_lt_of_lt h)
  obtain ⟨c', hrun⟩ := requested_run data
  exact ⟨requested_known data, requested_contract hdata, c', hrun, requested_stalled h hrun⟩

/-- One byte more than the buffer holds. -/
def longBody : Bytes := List.replicate (recvTmpBufSize + 1) 0

/-- It is left behind, and the stream is stalled. -/
theorem body_data_read_longer : (Addressed requested ∧ Routed requested ∧ Polling requested) ∧
    AllKnown requested (dataPolls longBody) ∧
    Contract recvTmpBufSize (bufferedFirst longBody) (quicheCalls ((pollLoop (dataPolls longBody)).trace requested)) ∧
    ∃ c', (pollLoop (dataPolls longBody)).run requested = .ok ((), c') ∧
      ∃ st ∈ c'.h3Streams, (served recvTmpBufSize (bufferedFirst longBody)
        (quicheCalls ((pollLoop (dataPolls longBody)).trace requested)) st.streamId).Stalled :=
  ⟨requested_loop, requested_left longBody (by simp [longBody])⟩

end Nhh3
