import Nhh3.Types
/-!
# One request: qwfs_h3_stream.cpp

A `Stream` with the functions of its class. `self` stands for its address.
Functions that can hit undefined behaviour return a `Fault`.
-/

namespace Nhh3

/-! ## std::stoull -/

def isSpace (b : UInt8) : Bool := b = 32 || (9 ≤ b && b ≤ 13)
def isDigit (b : UInt8) : Bool := 48 ≤ b && b ≤ 57

def digitsValue (ds : Bytes) : Nat := ds.foldl (fun n b => 10 * n + (b.toNat - 48)) 0

/-- An optional sign: whether it is a minus, and the text behind it. -/
def sign : Bytes → Bool × Bytes
  | 45 :: s => (true, s)
  | 43 :: s => (false, s)
  | s => (false, s)

/-- The function `std::stoull`: blanks and a sign are skipped, text behind the digits is
ignored, a negative number wraps; `none` is an exception. -/
def stoull (s : Bytes) : Option Nat :=
  let (minus, s) := sign (s.dropWhile isSpace)
  let ds := s.takeWhile isDigit
  if ds = [] ∨ 2 ^ 64 ≤ digitsValue ds then none
  else some (if minus then (2 ^ 64 - digitsValue ds) % 2 ^ 64 else digitsValue ds)

/-! ## The stream object -/

/-- A block from `malloc` and the bytes written to it. -/
structure Block where
  size : Nat
  bytes : Bytes
  deriving DecidableEq, Repr

/-- The arguments of `PublishRequest`. The constructor drops the external id. -/
structure Request where
  path : Option String := none
  saveFilePath : Option String := none
  headers : List (String × String) := []
  deriving DecidableEq, Repr

structure Stream where
  self : Nat
  saveFilePath : String
  reqHeaders : List (String × String)
  hostName : String
  quicheQuicConnection : Option Nat
  quicheH3Connection : Option H3Conn
  streamId : Int
  status : QwfsStatus
  errorDetail : String
  /-- The open file, by what was written to it since `fopen`. -/
  file : Option Bytes
  body : Option Block
  bodySize : Nat
  writeSize : Nat
  progress : Nat
  responseCode : Nat
  resHeaders : List Bytes
  deriving DecidableEq, Repr

/-- What a success callback reports. In file mode the body is in the file. -/
structure Response where
  responseCode : Nat
  headers : List Bytes
  filePath : Option String
  body : Bytes
  bodySize : Nat
  deriving DecidableEq, Repr

/-- The size of `_recvTmpBuf`, three times `MAX_DATAGRAM_SIZE`. -/
def recvTmpBufSize : Nat := 65527 * 3

namespace Stream

/-- The constructor `Stream::Stream`: `DEFAULT_HEADERS_NUM` headers, then the user's. -/
def new (self : Nat) (hostName : String) (req : Request) : Stream where
  self
  saveFilePath := req.saveFilePath.getD ""
  reqHeaders := [(":method", "GET"), (":scheme", "https"), (":authority", hostName),
    (":path", match req.path with | none => "/" | some p => if p = "" then "/" else p),
    ("user-agent", "quiche")] ++ req.headers
  hostName
  quicheQuicConnection := none
  quicheH3Connection := none
  streamId := 0
  status := .connecting
  errorDetail := ""
  file := none
  body := none
  bodySize := 0
  writeSize := 0
  progress := 0
  responseCode := 0
  resHeaders := []

def setStatus (st : Stream) (status : QwfsStatus) (errorDetail : Option String := none) : Stream :=
  { st with status, errorDetail := errorDetail.getD "" }

/-- The text every error of a stream starts with. -/
def errorPrefix (st : Stream) : String :=
  "[qwfs error][" ++ st.hostName ++ "][STREAM:" ++ toString st.streamId ++ "]"

def clear (st : Stream) : Stream :=
  { st with
    quicheQuicConnection := none, quicheH3Connection := none, streamId := 0, status := .connecting,
    errorDetail := "", file := none, body := none, bodySize := 0, writeSize := 0, progress := 0,
    responseCode := 0, resHeaders := [] }

/-- The part of `Start` behind the file: send the request and keep the id. -/
def sendRequest (st : Stream) (q : Nat) (h3 : H3Conn) (id : Int) : Stream :=
  let st := { st with quicheQuicConnection := some q, quicheH3Connection := some h3, streamId := id }
  if 0 > id then
    st.setStatus .criticalErrorQuiche
      (some (st.errorPrefix ++ "Failed to quiche_h3_send_request(" ++ st.saveFilePath ++ ")\n"))
  else st

/-- The function `Stream::Start`: the stream after it, and its return value. -/
def start (st : Stream) (q : Option Nat) (h3 : Option H3Conn) (io : StartIo) : Except Fault (Stream × Int) :=
  match q, h3 with
  | some q, some h3 =>
    if st.saveFilePath = "" then .ok (st.sendRequest q h3 io.sendRequest, io.sendRequest)
    else if io.fopen then
      .ok ({ st with file := some [] }.sendRequest q h3 io.sendRequest, io.sendRequest)
    else
      .ok ({ st with file := none }.setStatus .errorFileIo
        (some (st.errorPrefix ++ "Failed to open file(" ++ st.saveFilePath ++ ")\n")), -1)
  | _, _ => .error .startAssertion

/-- The function `Stream::Retry`. `Clear` has reset the handles that `Start` is then given. -/
def retry (st : Stream) (io : StartIo) : Except Fault (Stream × Int) :=
  let st := st.clear.setStatus .connecting
  st.start st.quicheQuicConnection st.quicheH3Connection io

/-- The number `std::stoull` makes of the header's value if it has this name. -/
def readNumber (name : String) (header : Bytes × Bytes) (old : Nat) : Except Fault Nat :=
  if header.1 = ascii name then
    match stoull header.2 with
    | some n => .ok n
    | none => .error .uncaught
  else .ok old

/-- The callback of `EventHeaders`, for one header. -/
def getHeader (st : Stream) (header : Bytes × Bytes) : Except Fault Stream := do
  let bodySize ← readNumber "content-length" header st.bodySize
  let responseCode ← readNumber ":status" header st.responseCode
  .ok { st with bodySize, responseCode, resHeaders := st.resHeaders ++ [header.1, header.2] }

def eventHeaders (st : Stream) : List (Bytes × Bytes) → Except Fault Stream
  | [] => .ok st
  | h :: hs => do (← st.getHeader h).eventHeaders hs

/-- An unsigned 64-bit difference. -/
def sub64 (a b : Nat) : Nat := (((a : Int) - b) % 2 ^ 64).toNat

/-- The clamp of `EventData`. The difference it compares with 0 is unsigned. -/
def clampSize (st : Stream) (recvSize : Nat) : Nat :=
  if 0 > sub64 st.bodySize (recvSize + st.writeSize) then sub64 st.bodySize st.writeSize else recvSize

/-- The block `EventData` copies into: a new one for the first bytes, a longer one
while no content-length is known. What `malloc` or `realloc` returns is not looked at. -/
def allocate (st : Stream) (recvSize : Nat) (malloc : Bool) : Option Block :=
  if st.writeSize = 0 then
    if malloc then some { size := if st.bodySize ≠ 0 then st.bodySize else recvSize, bytes := [] } else none
  else if st.bodySize = 0 then
    if malloc then some { size := st.writeSize + recvSize, bytes := (st.body.map Block.bytes).getD [] } else none
  else st.body

/-- Store one chunk, in the file or in memory. -/
def store (st : Stream) (data : Bytes) (malloc : Bool) : Except Fault Stream :=
  match st.file with
  | some content => .ok { st with file := some (content ++ data) }
  | none =>
    match st.allocate data.length malloc with
    | some block =>
      if st.writeSize + data.length ≤ block.size then
        .ok { st with body := some { block with bytes := block.bytes.take st.writeSize ++ data } }
      else .error .bodyOverrun
    | none => .error .bodyOverrun

def convertQuicheH3ErrorToStatus (error : Int) (nowStatus : QwfsStatus) : QwfsStatus :=
  open QuicheH3Err in
  if error ∈ [transport QuicheErr.done, transport QuicheErr.flowControl, transport QuicheErr.finalSize,
      transport QuicheErr.congestionControl] then nowStatus
  else if error = transport QuicheErr.streamReset then .error
  else if error ∈ [transport QuicheErr.bufferTooShort, transport QuicheErr.streamLimit] then .criticalError
  else if error = transport QuicheErr.tlsFail then .errorTlsInvalidCert
  else if error = transport QuicheErr.cryptoFail then .errorTls
  else if error ∈ [transport QuicheErr.unknownVersion, transport QuicheErr.invalidFrame,
      transport QuicheErr.invalidPacket, transport QuicheErr.invalidState,
      transport QuicheErr.invalidStreamState, transport QuicheErr.invalidTransportParam] then .errorInvalidServer
  else if error ∈ [done, excessiveLoad, streamBlocked, frameUnexpected, frameError, requestIncomplete] then
    nowStatus
  else if error ∈ [closedCriticalStream, requestRejected, requestCancelled, connectError] then .error
  -- `assert(false)` in a debug build
  else if error ∈ [bufferTooShort, idError, settingsError, messageError] then .criticalError
  else if error ∈ [streamCreationError, missingSettings, qpackDecompressionFailed] then .errorInvalidResponse
  else if error = versionFallback then .errorVersionFallback
  else .criticalErrorQuiche

def eventData (st : Stream) (io : BodyIo) : Except Fault Stream :=
  match st.quicheH3Connection, st.quicheQuicConnection with
  | some _, some _ =>
    match io with
    | .failed error =>
      .ok (st.setStatus (convertQuicheH3ErrorToStatus error st.status)
        (some (st.errorPrefix ++ "Failed to quiche_h3_recv_body(quiche_error is " ++ toString error ++ ").\n")))
    | .buffered data malloc => do
      let data := data.take recvTmpBufSize
      let data := data.take (st.clampSize data.length)
      let st ← st.store data malloc
      .ok { st with writeSize := st.writeSize + data.length, progress := st.progress + data.length }
  | _, _ => .error .nullHandle

def eventFinished (st : Stream) : Stream := st.setStatus .completed

def shutdown (st : Stream) (status : QwfsStatus) (cause : String) : Stream :=
  if .connecting = st.status then st.clear.setStatus status (some cause) else st

/-- What `AddProgress` does to the stream; the caller reads the two sizes. -/
def addProgress (st : Stream) : Stream := { st with progress := 0 }

/-- The body: in the file, or the written part of the block. -/
def content (st : Stream) : Bytes :=
  match st.file with
  | some content => content
  | none => ((st.body.map Block.bytes).getD []).take st.writeSize

/-- What `CallSuccessCallback` passes on. -/
def response (st : Stream) : Response where
  responseCode := st.responseCode
  headers := st.resHeaders
  filePath := st.file.map fun _ => st.saveFilePath
  body := st.content
  bodySize := match st.file with
    | some content => content.length
    | none => st.writeSize

/-! ## What each function does -/

/-- What never changes about a stream: which request it carries. -/
structure Ticket where
  self : Nat
  hostName : String
  saveFilePath : String
  reqHeaders : List (String × String)
  deriving DecidableEq, Repr

def ticket (st : Stream) : Ticket := ⟨st.self, st.hostName, st.saveFilePath, st.reqHeaders⟩

variable {st st' : Stream}

theorem self_of_ticket (h : st'.ticket = st.ticket) : st'.self = st.self := congrArg Ticket.self h

@[simp] theorem ticket_setStatus (status : QwfsStatus) (m : Option String) :
    (st.setStatus status m).ticket = st.ticket := rfl

@[simp] theorem ticket_clear : st.clear.ticket = st.ticket := rfl

@[simp] theorem ticket_eventFinished : st.eventFinished.ticket = st.ticket := rfl

@[simp] theorem ticket_addProgress : st.addProgress.ticket = st.ticket := rfl

@[simp] theorem ticket_shutdown (status : QwfsStatus) (cause : String) :
    (st.shutdown status cause).ticket = st.ticket := by
  unfold shutdown
  split <;> rfl

/-- A successful `Start`: the stream belongs to the current connection. -/
def started (st : Stream) (q : Nat) (h3 : H3Conn) (id : Int) : Stream :=
  { st with
    file := if st.saveFilePath = "" then st.file else some [],
    quicheQuicConnection := some q, quicheH3Connection := some h3, streamId := id }

/-- A failed `Start`: an error status, and nothing received is touched. -/
structure StartFailed (st st' : Stream) : Prop where
  status : st'.status < .wait
  memory : st.saveFilePath = "" → st'.file = st.file
  rest : ∃ q h3 id status errorDetail file, st' = { st with
    quicheQuicConnection := q, quicheH3Connection := h3, streamId := id, status, errorDetail, file }

theorem sendRequest_nonneg {q : Nat} {h3 : H3Conn} {id : Int} (h : 0 ≤ id) :
    st.sendRequest q h3 id =
      { st with quicheQuicConnection := some q, quicheH3Connection := some h3, streamId := id } := by
  simp only [sendRequest, gt_iff_lt, Int.not_lt.2 h, ↓reduceIte]

theorem sendRequest_neg (st : Stream) (q : Nat) (h3 : H3Conn) {id : Int} (h : id < 0) :
    StartFailed st (st.sendRequest q h3 id) := by
  simp only [sendRequest, gt_iff_lt, h, ↓reduceIte]
  exact { status := show QwfsStatus.criticalErrorQuiche < .wait by decide,
          memory := fun _ => rfl, rest := ⟨_, _, _, _, _, _, rfl⟩ }

/-- A `Start` that does not fault was given both handles. -/
theorem start_cases {q : Option Nat} {h3 : Option H3Conn} {io : StartIo} {id : Int}
    (h : st.start q h3 io = .ok (st', id)) :
    ∃ q' h3', q = some q' ∧ h3 = some h3' ∧
      (0 ≤ id → st' = st.started q' h3' id) ∧ (id < 0 → StartFailed st st') := by
  unfold start at h
  split at h
  case h_2 => cases h
  rename_i q' h3'
  refine ⟨q', h3', rfl, rfl, ?_⟩
  split at h
  · rename_i hp
    cases h
    exact ⟨fun hid => by rw [sendRequest_nonneg hid]; simp [started, hp], sendRequest_neg st q' h3'⟩
  split at h
  · rename_i hp _
    cases h
    refine ⟨fun hid => by rw [sendRequest_nonneg hid]; simp [started, hp], fun hid => ?_⟩
    obtain ⟨hs, -, q, h3, id, status, detail, file, heq⟩ :=
      sendRequest_neg { st with file := some [] } q' h3' hid
    exact ⟨hs, fun h => absurd h hp, q, h3, id, status, detail, file, heq⟩
  · rename_i hp _
    cases h
    exact ⟨fun hid => by omega, fun _ => ⟨show QwfsStatus.errorFileIo < .wait by decide,
      fun h => absurd h hp, _, _, _, _, _, _, rfl⟩⟩

/-- A `Start` faults only without a handle. -/
theorem start_error {q : Option Nat} {h3 : Option H3Conn} {io : StartIo} {e : Fault}
    (h : st.start q h3 io = .error e) : q = none ∨ h3 = none := by
  cases q with
  | none => exact .inl rfl
  | some q =>
    cases h3 with
    | none => exact .inr rfl
    | some h3 =>
      simp only [start] at h
      split_ifs at h

theorem StartFailed.ticket (h : StartFailed st st') : st'.ticket = st.ticket := by
  obtain ⟨_, _, _, _, _, _, rfl⟩ := h.rest
  rfl

theorem start_ticket {q : Option Nat} {h3 : Option H3Conn} {io : StartIo} {id : Int}
    (h : st.start q h3 io = .ok (st', id)) : st'.ticket = st.ticket := by
  obtain ⟨q', h3', -, -, hok, hfail⟩ := start_cases h
  by_cases hid : 0 ≤ id
  · rw [hok hid]
    rfl
  · exact (hfail (by omega)).ticket

/-- `Retry` cannot succeed: `Clear` has reset the handles `Start` is given. -/
theorem retry_eq (io : StartIo) : st.retry io = .error .startAssertion := rfl

/-- The number in the last header of this name, or the value before. -/
def numberIn (name : String) (list : List (Bytes × Bytes)) (old : Nat) : Nat :=
  list.foldl (fun n h => if h.1 = ascii name then (stoull h.2).getD n else n) old

theorem readNumber_ok {name : String} {header : Bytes × Bytes} {old n : Nat}
    (h : readNumber name header old = .ok n) : n = numberIn name [header] old := by
  unfold readNumber at h
  split at h
  · rename_i hname
    cases hn : stoull header.2 with
    | none => rw [hn] at h; cases h
    | some m =>
      rw [hn] at h
      cases h
      simp [numberIn, hname, hn]
  · rename_i hname
    cases h
    simp [numberIn, hname]

theorem getHeader_ok {header : Bytes × Bytes} (h : st.getHeader header = .ok st') :
    st' = { st with
      bodySize := numberIn "content-length" [header] st.bodySize,
      responseCode := numberIn ":status" [header] st.responseCode,
      resHeaders := st.resHeaders ++ [header.1, header.2] } := by
  unfold getHeader at h
  cases hl : readNumber "content-length" header st.bodySize with
  | error e => rw [hl] at h; cases h
  | ok bodySize =>
    cases hs : readNumber ":status" header st.responseCode with
    | error e => rw [hl, hs] at h; cases h
    | ok responseCode =>
      rw [hl, hs] at h
      cases h
      rw [← readNumber_ok hl, ← readNumber_ok hs]

theorem eventHeaders_ok {list : List (Bytes × Bytes)} (h : st.eventHeaders list = .ok st') :
    st' = { st with
      bodySize := numberIn "content-length" list st.bodySize,
      responseCode := numberIn ":status" list st.responseCode,
      resHeaders := st.resHeaders ++ list.flatMap fun h => [h.1, h.2] } := by
  induction list generalizing st with
  | nil => cases h; simp [numberIn]
  | cons header list ih =>
    unfold eventHeaders at h
    cases hh : st.getHeader header with
    | error e => rw [hh] at h; cases h
    | ok st₁ =>
      rw [hh] at h
      rw [ih h, getHeader_ok hh]
      simp [numberIn]

/-- The clamp never applies: an unsigned difference is not below 0. -/
theorem clampSize_eq (recvSize : Nat) : st.clampSize recvSize = recvSize := by
  simp [clampSize]

/-- The block holds at least what was counted as written. -/
def Filled (st : Stream) : Prop :=
  st.file = none → st.writeSize ≤ ((st.body.map Block.bytes).getD []).length

theorem store_cases {data : Bytes} {malloc : Bool} (h : st.store data malloc = .ok st') :
    (∃ content, st.file = some content ∧ st' = { st with file := some (content ++ data) }) ∨
    (st.file = none ∧ ∃ size bytes,
      st' = { st with body := some ⟨size, bytes.take st.writeSize ++ data⟩ } ∧
      (st.writeSize ≠ 0 → bytes = (st.body.map Block.bytes).getD [])) := by
  unfold store at h
  split at h
  · rename_i content hf
    cases h
    exact .inl ⟨content, hf, rfl⟩
  rename_i hf
  refine .inr ⟨hf, ?_⟩
  split at h
  case h_2 => cases h
  rename_i block hb
  split at h
  case isFalse => cases h
  cases h
  refine ⟨_, block.bytes, rfl, fun hw => ?_⟩
  unfold allocate at hb
  rw [if_neg hw] at hb
  split_ifs at hb
  · cases hb
    rfl
  · rw [hb]
    rfl

/-- What `EventData` takes in one call. -/
def chunk (data : Bytes) : Bytes := data.take recvTmpBufSize

/-- An error of `quiche_h3_recv_body` sets the status; otherwise the chunk is
appended and counted. -/
theorem eventData_cases {body : BodyIo} (h : st.eventData body = .ok st') :
    (∃ error detail, body = .failed error ∧
      st' = st.setStatus (convertQuicheH3ErrorToStatus error st.status) detail) ∨
    (∃ data malloc file block, body = .buffered data malloc ∧
      st' = { st with
        file, body := block, writeSize := st.writeSize + (chunk data).length,
        progress := st.progress + (chunk data).length } ∧
      (file = none ↔ st.file = none) ∧
      (st.Filled → st'.Filled ∧ st'.content = st.content ++ chunk data)) := by
  unfold eventData at h
  split at h
  case h_2 => cases h
  cases body with
  | failed error =>
    cases h
    exact .inl ⟨error, _, rfl, rfl⟩
  | buffered data malloc =>
    simp only [clampSize_eq, List.take_length] at h
    cases hs : st.store (chunk data) malloc with
    | error e => unfold chunk at hs; rw [hs] at h; cases h
    | ok st₁ =>
      unfold chunk at hs
      rw [hs] at h
      cases h
      refine .inr ?_
      rcases store_cases hs with ⟨content, hf, rfl⟩ | ⟨hf, size, bytes, rfl, hb⟩
      · refine ⟨data, malloc, _, _, rfl, rfl, by simp [hf], fun _ => ⟨fun hn => by simp at hn, ?_⟩⟩
        simp [Stream.content, hf, chunk]
      · refine ⟨data, malloc, _, _, rfl, rfl, by simp [hf], fun hfill => ?_⟩
        have hlen : (bytes.take st.writeSize).length = st.writeSize := by
          by_cases hw : st.writeSize = 0
          · simp [hw]
          · rw [List.length_take, hb hw]
            exact Nat.min_eq_left (hfill hf)
        refine ⟨fun _ => by simp [hlen], ?_⟩
        have hold : bytes.take st.writeSize =
            ((st.body.map Block.bytes).getD []).take st.writeSize := by
          by_cases hw : st.writeSize = 0
          · simp [hw]
          · rw [hb hw]
        simp only [Stream.content, hf, Option.map_some, Option.getD_some, ← hold, chunk]
        rw [List.take_of_length_le (by simp [hlen])]

/-- Without its handles a stream cannot read data; otherwise only the copy can fail. -/
theorem eventData_error {body : BodyIo} {e : Fault} (h : st.eventData body = .error e) :
    (st.quicheH3Connection = none ∨ st.quicheQuicConnection = none) ∨ e = .bodyOverrun := by
  unfold eventData at h
  split at h
  · cases body with
    | failed error => cases h
    | buffered data malloc =>
      simp only [clampSize_eq, List.take_length] at h
      cases hs : st.store (data.take recvTmpBufSize) malloc with
      | ok st₁ => rw [hs] at h; cases h
      | error e' =>
        rw [hs] at h
        cases h
        unfold store at hs
        refine .inr ?_
        split at hs
        · cases hs
        split at hs
        · split at hs <;> cases hs
          rfl
        · cases hs
          rfl
  · rename_i hn
    refine .inl ?_
    by_contra hne
    obtain ⟨hh, hq⟩ := not_or.1 hne
    obtain ⟨h3, hh⟩ := Option.ne_none_iff_exists'.1 hh
    obtain ⟨q, hq⟩ := Option.ne_none_iff_exists'.1 hq
    exact hn h3 q hh hq

theorem readNumber_error {name : String} {header : Bytes × Bytes} {old : Nat} {e : Fault}
    (h : readNumber name header old = .error e) : e = .uncaught := by
  unfold readNumber at h
  split_ifs at h
  split at h <;> cases h
  rfl

/-- Parsing headers can only fail with an exception of `std::stoull`. -/
theorem eventHeaders_error {list : List (Bytes × Bytes)} {e : Fault} (h : st.eventHeaders list = .error e) :
    e = .uncaught := by
  induction list generalizing st with
  | nil => cases h
  | cons header list ih =>
    unfold eventHeaders at h
    cases hh : st.getHeader header with
    | ok st₁ =>
      rw [hh] at h
      exact ih h
    | error e' =>
      rw [hh] at h
      cases h
      unfold getHeader at hh
      cases hl : readNumber "content-length" header st.bodySize with
      | error _ => rw [hl] at hh; cases hh; exact readNumber_error hl
      | ok bodySize =>
        cases hs : readNumber ":status" header st.responseCode with
        | error _ => rw [hl, hs] at hh; cases hh; exact readNumber_error hs
        | ok responseCode => rw [hl, hs] at hh; cases hh

theorem eventHeaders_ticket {list : List (Bytes × Bytes)} (h : st.eventHeaders list = .ok st') :
    st'.ticket = st.ticket := by
  rw [eventHeaders_ok h]
  rfl

theorem eventData_ticket {body : BodyIo} (h : st.eventData body = .ok st') :
    st'.ticket = st.ticket := by
  rcases eventData_cases h with ⟨_, _, -, rfl⟩ | ⟨_, _, _, _, -, rfl, -⟩ <;> rfl

end Stream

end Nhh3
