import Nhh3.Api
/-!
# Starting a batch, and starting again: StartStream, Stream::Retry

`StartStream` starts the waiting requests one after the other and stops at the first
that fails. `IssueCallbacks` calls `Stream::Retry` for a failed request. Neither leaves
a failed request as it could be started again.
-/

namespace Nhh3

open Lib Lib.Prog Connection

variable {starts : Nat → StartIo} {q : Nat} {h3 : H3Conn} {st : Stream} {batch rest : List Stream}
  {c c' : Connection} {num : Nat}

/-! ## The batch -/

/-- With a connection, `Start` succeeds: the file opens and quiche takes the request. -/
def Stream.Starts (st : Stream) (io : StartIo) : Prop :=
  (st.saveFilePath = "" ∨ io.fopen = true) ∧ 0 ≤ io.sendRequest

theorem start_starts (io : StartIo) (h : st.Starts io) :
    st.start (some q) (some h3) io = .ok (st.started q h3 io.sendRequest, io.sendRequest) := by
  obtain ⟨hfile, hid⟩ := h
  unfold Stream.start
  by_cases hpath : st.saveFilePath = ""
  · simp only [hpath, ↓reduceIte, Stream.sendRequest_nonneg hid]
    simp [Stream.started, hpath]
  · have hopen := hfile.resolve_left hpath
    simp only [hpath, hopen, ↓reduceIte, Stream.sendRequest_nonneg hid]
    simp [Stream.started, hpath]

/-- A `Start` that fails returns a negative number and leaves an error on the stream. -/
theorem start_fails (q : Nat) (h3 : H3Conn) (io : StartIo) (h : ¬ st.Starts io) : ∃ st' id,
    st.start (some q) (some h3) io = .ok (st', id) ∧ id < 0 ∧ st'.ticket = st.ticket ∧ st'.status < .wait ∧
      (id = QuicheErr.streamLimit → io.sendRequest = QuicheErr.streamLimit) := by
  cases hrun : st.start (some q) (some h3) io with
  | error e =>
    rcases Stream.start_error hrun with h | h <;> cases h
  | ok r =>
    obtain ⟨st', id⟩ := r
    obtain ⟨-, -, -, -, -, hfail⟩ := Stream.start_cases hrun
    have hid : id < 0 ∧ (id = QuicheErr.streamLimit → io.sendRequest = QuicheErr.streamLimit) := by
      unfold Stream.start at hrun
      unfold Stream.Starts at h
      dsimp only at hrun
      split at hrun
      · rename_i hpath
        cases hrun
        exact ⟨by simpa [hpath] using h, fun h => h⟩
      · rename_i hpath
        split at hrun
        · rename_i hopen
          cases hrun
          exact ⟨by simpa [hopen] using h, fun h => h⟩
        · cases hrun
          exact ⟨by decide, fun h => absurd h (by decide)⟩
    exact ⟨st', id, rfl, hid.1, (hfail hid.1).ticket, (hfail hid.1).status, hid.2⟩

/-- The streams of a batch that starts, the first as number `num`. -/
def startedBatch (starts : Nat → StartIo) (q : Nat) (h3 : H3Conn) : Nat → List Stream → List Stream
  | _, [] => []
  | num, st :: batch =>
    st.started q h3 (starts num).sendRequest :: startedBatch starts q h3 (num + 1) batch

theorem tickets_startedBatch (num : Nat) (batch : List Stream) :
    (startedBatch starts q h3 num batch).map Stream.ticket = batch.map Stream.ticket := by
  induction batch generalizing num with
  | nil => rfl
  | cons st batch ih => exact congrArg (st.ticket :: ·) (ih (num + 1))

/-- The loop of `StartStream` over requests that start: each moves to the active list and the map. -/
theorem startLoop_batch (num : Nat) (hq : c.quicheConnection = some q) (hh3 : c.quicheH3Connection = some h3)
    (hstock : c.h3StreamsStock = batch ++ rest)
    (hstarts : ∀ i (st : Stream), batch[i]? = some st → st.Starts (starts (num + i))) (n : Nat) :
    (startLoop starts (batch.length + n) num).run c =
      (startLoop starts n (num + batch.length)).run { c with
        h3Streams := c.h3Streams ++ startedBatch starts q h3 num batch, h3StreamsStock := rest,
        h3StreamsMap := (startedBatch starts q h3 num batch).foldl (fun m st => m.emplace st.streamId st.self)
          c.h3StreamsMap } := by
  induction batch generalizing c num with
  | nil =>
    obtain rfl : rest = c.h3StreamsStock := hstock.symm
    simp [startedBatch]
  | cons st batch ih =>
    have hst : st.Starts (starts num) := hstarts 0 st rfl
    rw [List.length_cons, Nat.add_right_comm]
    have hstep : (startLoop starts (batch.length + n + 1) num).run c =
        (startLoop starts (batch.length + n) (num + 1)).run
          (c.activate (st.started q h3 (starts num).sendRequest) (starts num).sendRequest) := by
      simp only [startLoop, run_bind, Prog.get, Prog.run, hstock, List.cons_append, hq, hh3,
        start_starts _ hst, gt_iff_lt, Int.not_lt.2 hst.2, ↓reduceIte, perform]
      rfl
    rw [hstep, ih (num + 1) (by exact hq) (by exact hh3) (by simp [activate, hstock]) fun i st h => by
      have h' := hstarts (i + 1) st h
      rwa [← Nat.add_assoc, Nat.add_right_comm] at h']
    simp only [activate, startedBatch, List.foldl_cons, List.append_assoc, List.singleton_append]
    rw [Nat.add_right_comm num]
    rfl

/-- The loop at a request that does not start: its error stays on it, at the head of the queue. -/
theorem startLoop_fails (starts : Nat → StartIo) (num : Nat) (hq : c.quicheConnection = some q) (hh3 : c.quicheH3Connection = some h3)
    (hstock : c.h3StreamsStock = st :: rest) (hfails : ¬ st.Starts (starts num)) (n : Nat) :
    ∃ result c' st', (startLoop starts (n + 1) num).run c = .ok ((result, num), c') ∧
      c'.h3Streams = c.h3Streams ∧ c'.h3StreamsMap = c.h3StreamsMap ∧ c'.h3StreamsStock = st' :: rest ∧
      st'.ticket = st.ticket ∧ st'.status < .wait ∧
      (result = .ok ∧ (starts num).sendRequest = QuicheErr.streamLimit ∨
        result ≠ .ok ∧ c'.phase = .wait ∧ c'.status = .criticalErrorQuiche) := by
  obtain ⟨st', id, hrun, hid, hticket, hstatus, hlimit⟩ := start_fails q h3 (starts num) hfails
  have hrest : c.h3StreamsStock.tail = rest := by rw [hstock]; rfl
  by_cases hl : id = QuicheErr.streamLimit
  · refine ⟨.ok, apply (Act.startFailed st') c, st', ?_, rfl, rfl, by simp [apply, hrest], hticket, hstatus,
      .inl ⟨rfl, hlimit hl⟩⟩
    simp only [startLoop, run_bind, Prog.get, Prog.run, hstock, hq, hh3, hrun, gt_iff_lt, ↓reduceIte, perform,
      hl]
    rfl
  · refine ⟨.criticalError, apply Act.startStreamFailed (apply (Act.startFailed st') c), st', ?_, rfl, rfl,
      by simp [apply, setStatus, setPhase, hrest], hticket, hstatus, .inr ⟨by decide, rfl, rfl⟩⟩
    simp only [startLoop, run_bind, Prog.get, Prog.run, hstock, hq, hh3, hrun, gt_iff_lt, hid, ↓reduceIte,
      perform, hl]
    rfl

/-- What `StartStream` does with the outcome of its loop. -/
theorem run_startStream {result : QwfsResult} {num : Nat} {c₁ : Connection}
    (hstatus : c.status = .wait ∨ c.status = .connecting) (hstock : c.h3StreamsStock ≠ [])
    (hroom : c.h3Streams.length < c.options.maxConcurrentStreams)
    (hloop : (startLoop starts (c.options.maxConcurrentStreams - c.h3Streams.length) 0).run c =
      .ok ((result, num), c₁)) :
    (startStream starts).run c = .ok (result, if result = .ok ∧ 0 < num ∧ c₁.status = .wait
      then apply Act.beginConnecting c₁ else c₁) := by
  have hgo : ¬ (c.options.maxConcurrentStreams ≤ c.h3Streams.length ∨ c.h3StreamsStock = []) := by
    rintro (h | h)
    · exact absurd h (Nat.not_le.2 hroom)
    · exact hstock h
  have hmay : ¬ (c.status ≠ .wait ∧ c.status ≠ .connecting) := by
    rintro ⟨hw, hc⟩
    exact hstatus.elim hw hc
  show (if _ then _ else if _ then _ else _ : P QwfsResult).run c = _
  rw [if_neg hgo, if_neg hmay, run_bind, hloop]
  dsimp only
  by_cases hresult : result = .ok
  · subst hresult
    rw [if_neg (not_not.2 rfl)]
    show (if _ then _ else _ : P QwfsResult).run c₁ = _
    by_cases hconnect : 0 < num ∧ c₁.status = .wait
    · rw [if_pos hconnect, if_pos ⟨rfl, hconnect⟩]
      rfl
    · rw [if_neg hconnect, if_neg fun h => hconnect h.2]
      rfl
  · rw [if_pos hresult, if_neg fun h => hresult h.1]
    rfl

/-! ## A batch that stops half-way -/

/-- What a batch should leave in which the requests of `batch` start and `st` behind them does not. -/
structure FailsCleanly (c : Connection) (batch : List Stream) (st : Stream) (rest : List Stream) (io : StartIo)
    (c' : Connection) : Prop where
  active : ∃ started, c'.h3Streams = c.h3Streams ++ started ∧
    started.map Stream.ticket = batch.map Stream.ticket ∧
    ∀ x ∈ started, c'.h3StreamsMap.lookup x.streamId = some (some x.self)
  /-- The failing request as it was, and those behind it. -/
  waiting : ∃ st', c'.h3StreamsStock = st' :: rest ∧ st'.ticket = st.ticket ∧ st'.status = .connecting ∧
    st'.file = none
  /-- The stream limit, as the HTTP/3 API reports it. -/
  limit : (st.saveFilePath = "" ∨ io.fopen = true) →
    io.sendRequest = QuicheH3Err.transport QuicheErr.streamLimit → c'.phase = c.phase ∧ .wait ≤ c'.status
  file : st.saveFilePath ≠ "" → io.fopen = false → c'.status = .errorFileIo

/-- The failing request does not stay as it was, if it has an error status. -/
theorem unclean {st' : Stream} {io : StartIo} {c' : Connection} (hwaiting : c'.h3StreamsStock = st' :: rest)
    (hst' : st'.status < .wait) : ¬ FailsCleanly c batch st rest io c' := by
  intro hclean
  obtain ⟨x, hx, -, hconnecting, -⟩ := hclean.waiting
  obtain ⟨rfl, -⟩ := List.cons.inj (hx.symm.trans hwaiting)
  rw [hconnecting] at hst'
  exact absurd hst' (by decide)

/-- A batch that stops half-way keeps every request in its place, and the failing one with an error
on it; whatever failed, unless the number is the one of the QUIC layer, the connection is critical. -/
theorem start_stream_unclean (starts : Nat → StartIo) (hq : c.quicheConnection = some q) (hh3 : c.quicheH3Connection = some h3)
    (hstatus : c.status = .wait ∨ c.status = .connecting) (hstock : c.h3StreamsStock = batch ++ st :: rest)
    (hroom : c.h3Streams.length + batch.length < c.options.maxConcurrentStreams)
    (hstarts : ∀ i (x : Stream), batch[i]? = some x → x.Starts (starts i))
    (hfails : ¬ st.Starts (starts batch.length)) :
    ∃ result c', (startStream starts).run c = .ok (result, c') ∧
      (∃ started st', c'.h3Streams = c.h3Streams ++ started ∧ c'.h3StreamsStock = st' :: rest ∧
        started.map Stream.ticket = batch.map Stream.ticket ∧ st'.ticket = st.ticket ∧ st'.status < .wait) ∧
      ((starts batch.length).sendRequest ≠ QuicheErr.streamLimit →
        c'.phase = .wait ∧ c'.status = .criticalErrorQuiche) ∧
      ¬ FailsCleanly c batch st rest (starts batch.length) c' := by
  obtain ⟨n, hn⟩ : ∃ n, c.options.maxConcurrentStreams - c.h3Streams.length = batch.length + (n + 1) :=
    ⟨c.options.maxConcurrentStreams - c.h3Streams.length - batch.length - 1, by omega⟩
  have hbatch := startLoop_batch 0 hq hh3 hstock (by simpa using hstarts) (n + 1)
  obtain ⟨result, c₁, st', hrun, hactive, -, hwaiting, hticket, hst', hhow⟩ := startLoop_fails
    starts (0 + batch.length) (c := { c with
        h3Streams := c.h3Streams ++ startedBatch starts q h3 0 batch, h3StreamsStock := st :: rest,
        h3StreamsMap := (startedBatch starts q h3 0 batch).foldl (fun m st => m.emplace st.streamId st.self)
          c.h3StreamsMap })
    hq hh3 rfl (by simpa using hfails) n
  rw [hrun, ← hn] at hbatch
  rw [Nat.zero_add] at hhow
  have hne : c.h3StreamsStock ≠ [] := by simp [hstock]
  refine ⟨result, _, run_startStream hstatus hne (by omega) hbatch, ?_, ?_, ?_⟩
  · -- setting the status to Connecting moves no request
    refine ⟨startedBatch starts q h3 0 batch, st', ?_, ?_, tickets_startedBatch 0 batch, hticket, hst'⟩
    · split
      · exact hactive
      · exact hactive
    · split
      · exact hwaiting
      · exact hwaiting
  · intro hlimit
    rcases hhow with ⟨-, hlimit'⟩ | ⟨hresult, hphase, hcritical⟩
    · exact absurd hlimit' hlimit
    · rw [if_neg fun h => hresult h.1]
      exact ⟨hphase, hcritical⟩
  · refine unclean ?_ hst'
    split
    · exact hwaiting
    · exact hwaiting

/-- A connection with two requests waiting. -/
def twoWaiting : Connection :=
  after (new "h" "443") ((exec (connectOps ++ [.publishRequest {}, .publishRequest {}])).trace (new "h" "443"))

/-- The peer's stream limit stops the second request. -/
def limitReached (n : Nat) : StartIo :=
  { sendRequest := if n = 0 then 0 else QuicheH3Err.transport QuicheErr.streamLimit }

theorem start_stream_unclean_limit : ∃ result c', (startStream limitReached).run twoWaiting = .ok (result, c') ∧
    c'.phase = .wait ∧ c'.status = .criticalErrorQuiche := by
  have hstock : twoWaiting.h3StreamsStock = [Stream.new 0 "h" {}] ++ Stream.new 1 "h" {} :: [] := rfl
  obtain ⟨result, c', hrun, -, hcritical, -⟩ := start_stream_unclean (c := twoWaiting) limitReached
    rfl rfl (.inr rfl) hstock (by decide)
    (fun i x hx => match i with
      | 0 => by cases hx; exact ⟨.inl rfl, by decide⟩
      | i + 1 => by cases hx)
    (fun h => absurd h.2 (by decide))
  exact ⟨result, c', hrun, hcritical (by decide)⟩

theorem start_stream_unclean_run : ¬ ∃ result c', (startStream limitReached).run twoWaiting = .ok (result, c') ∧
    FailsCleanly twoWaiting [Stream.new 0 "h" {}] (Stream.new 1 "h" {}) [] (limitReached 1) c' := by
  rintro ⟨result, c', hrun, hclean⟩
  cases hrun
  exact absurd (hclean.limit (.inl rfl) rfl).2 (by decide)

/-! ## An automatic retry -/

/-- What a retry on the live connection should leave of the stream `st`, now `st'`. -/
structure Retried (c : Connection) (st : Stream) (c' : Connection) (st' : Stream) : Prop where
  connection : c.quicheConnection ≠ none ∧ st'.quicheQuicConnection = c.quicheConnection
  session : c.quicheH3Connection ≠ none ∧ st'.quicheH3Connection = c.quicheH3Connection
  status : st'.status = .connecting
  body : st'.content = [] ∧ st'.writeSize = 0
  headers : st'.resHeaders = [] ∧ st'.responseCode = 0
  registered : c'.h3StreamsMap.lookup st'.streamId = some (some st.self)
  unregistered : st.streamId ≠ st'.streamId → st.streamId ∉ c'.h3StreamsMap
  others : ∀ x ∈ c.h3Streams, x.self ≠ st.self → .wait ≤ x.status → x.status ≠ .completed →
    x ∈ c'.h3Streams ∧ c'.h3StreamsMap.lookup x.streamId = c.h3StreamsMap.lookup x.streamId

/-- `IssueCallbacks` returns, and the stream was started again or says why not. -/
def Retries (c : Connection) (starts : Nat → StartIo) (st : Stream) : Prop :=
  ∃ c' st', (issueCallbacks starts).run c = .ok ((), c') ∧ st' ∈ c'.h3Streams ∧ st'.ticket = st.ticket ∧
    (Retried c st c' st' ∨
      (∃ pre post, c.h3Streams = pre ++ st :: post ∧ ¬ st.Starts (starts post.length)) ∧ st'.status < .wait)

/-- The callback for one stream returns, or stops at the assertion of `Start`. -/
theorem issueCallback_run (io : StartIo) (x : Stream) (c : Connection) :
    (∃ c', (issueCallback io x).run c = .ok ((), c')) ∨
      (issueCallback io x).run c = .error .startAssertion := by
  unfold issueCallback
  split_ifs
  · exact .inl ⟨_, rfl⟩
  · exact .inl ⟨_, rfl⟩
  · exact .inr rfl
  · exact .inl ⟨_, rfl⟩

/-- For a stream that is to be retried it stops there. -/
theorem issueCallback_retry (io : StartIo) (herror : st.status < .wait)
    (hcritical : ¬ st.status ≤ .criticalError) (c : Connection) :
    (issueCallback io st).run c = .error .startAssertion := by
  have hdone : st.status ≠ .completed := by
    intro hdone
    rw [hdone] at herror
    exact absurd herror (by decide)
  rw [issueCallback, if_neg hdone, if_pos herror, if_neg hcritical]
  rfl

/-- The loop of `IssueCallbacks` does not get past a stream it retries. -/
theorem issueLoop_retry {sts : List Stream} (hst : st ∈ sts) (herror : st.status < .wait)
    (hcritical : ¬ st.status ≤ .criticalError) (c : Connection) :
    (issueLoop starts sts).run c = .error .startAssertion := by
  induction sts generalizing c with
  | nil => cases hst
  | cons x sts ih =>
    rw [issueLoop, run_bind]
    rcases List.mem_cons.1 hst with rfl | hst
    · rw [issueCallback_retry _ herror hcritical]
    · rcases issueCallback_run (starts sts.length) x c with ⟨c', hrun⟩ | hrun
      · rw [hrun]
        exact ih hst c'
      · rw [hrun]

/-- `IssueCallbacks` retries no stream: `Clear` takes the handles that `Start` asks for. -/
theorem stream_retry_never (c : Connection) (starts : Nat → StartIo) (st : Stream) (hst : st ∈ c.h3Streams)
    (herror : st.status < .wait) (hcritical : ¬ st.status ≤ .criticalError) :
    (issueCallbacks starts).run c = .error .startAssertion ∧ ¬ Retries c starts st := by
  have hrun : (issueCallbacks starts).run c = .error .startAssertion := issueLoop_retry hst herror hcritical c
  refine ⟨hrun, ?_⟩
  rintro ⟨c', st', hok, -⟩
  cases hrun.symm.trans hok

/-- A request whose body quiche could not read. -/
def failedBodyOps : List Op :=
  connectOps ++ [.publishRequest {}, .update {},
    eventsOp [(0, .data (.failed (QuicheH3Err.transport QuicheErr.streamReset)))]]

def failedBody : Connection := after (new "h" "443") ((exec failedBodyOps).trace (new "h" "443"))

theorem stream_retry_never_reset : (issueCallbacks fun _ => {}).run failedBody = .error .startAssertion :=
  (stream_retry_never failedBody (fun _ => {}) (failedBody.h3Streams.head (by decide)) (List.head_mem _)
    (by decide) (by decide)).1

theorem stream_retry_never_run : (exec failedBodyOps).run (new "h" "443") = .ok ((), failedBody) ∧
    failedBody.phase = .wait ∧ failedBody.status = .connecting ∧
    ∃ st ∈ failedBody.h3Streams, st.status = .error ∧ ¬ Retries failedBody (fun _ => {}) st := by
  refine ⟨rfl, rfl, rfl, failedBody.h3Streams.head (by decide), List.head_mem _, rfl, ?_⟩
  rintro ⟨c', st', hok, -⟩
  cases hok

end Nhh3
