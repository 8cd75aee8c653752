import Nhh3.Connection
/-!
# The functions of a connection: qwfs_connection.cpp

Each function of `Connection` as a program over the state: what it reads, which
changes it makes in which order, and what it returns. A call of the client is
one program (`Op.run`); a run is a list of calls (`exec`).
-/

namespace Nhh3

open Lib Lib.Prog

/-- A function of `Connection`. -/
abbrev P := Prog Connection Act Fault

namespace Connection

/-- The result for the current status. -/
def statusResult : P QwfsResult := do return convertStatusToResult (← get).status

/-- Quiche is called with the current connection. -/
def useConnection : P Unit := do
  if (← get).quicheConnection = none then fail .nullHandle else pure ()

/-- Quiche is called with the current HTTP/3 session and its connection. -/
def useH3Connection : P Unit := do
  let c ← get
  if c.quicheH3Connection = none ∨ c.quicheConnection = none then fail .nullHandle else pure ()

/-! ## Send and Receive -/

def sendLoop : List SendIo → P QwfsResult
  | [] => pure .ok
  | io :: ios =>
    if io.writeSize = QuicheErr.done then pure .ok
    else if io.writeSize < QuicheErr.done then do
      perform (.sendFailed io.writeSize)
      statusResult
    else
      match io.sendto with
      | .ok => sendLoop ios
      | .failed error _ => do
        perform (.socketFailed ("Failed to send packet(Error is " ++ toString error ++ ").\n"))
        statusResult

def send (ios : List SendIo) : P QwfsResult := do
  let c ← get
  if c.sock = false ∨ c.quicheConnection = none then return .ok
  else sendLoop ios

def receiveLoop : List RecvIo → P QwfsResult
  | [] => pure .ok
  | io :: ios =>
    match io.recvfrom with
    | .failed _ true => pure .ok
    | .failed error false => do
      perform (.socketFailed ("Failed to recv packet(Erroris " ++ toString error ++ ").\n"))
      statusResult
    | .ok => do
      useConnection
      if 0 > io.readSize then
        perform (.recvFailed io.readSize)
        statusResult
      else receiveLoop ios

def receive (ios : List RecvIo) : P QwfsResult := do
  if (← get).sock = false then return .ok
  else receiveLoop ios

/-! ## Migration -/

def isEnabledConnectionMigration (availableDcids : Nat) : P Bool := do
  useConnection
  let c ← get
  return !c.options.disableActiveMigration && c.quicheH3Connection.isSome && decide (0 < availableDcids)

/-- What `Update` does when `Send` or `Receive` fails. -/
def recover (availableDcids : Nat) : P QwfsResult := do
  if ← isEnabledConnectionMigration availableDcids then
    perform .transitionConnectionMigration
    return .ok
  else statusResult

/-- Both branches close the socket; the source does it before the test, which does
not look at it. -/
def reconnect (availableDcids : Nat) : P QwfsResult := do
  if ← isEnabledConnectionMigration availableDcids then
    perform .transitionConnectionMigration
    return .ok
  else
    perform .requeueStreams
    statusResult

/-! ## Starting streams -/

/-- The loop of `StartStream`: its result, and how many streams it started. -/
def startLoop (starts : Nat → StartIo) : Nat → Nat → P (QwfsResult × Nat)
  | 0, num => pure (.ok, num)
  | n + 1, num => do
    let c ← get
    match c.h3StreamsStock with
    | [] => return (.ok, num)
    | st :: _ =>
      match st.start c.quicheConnection c.quicheH3Connection (starts num) with
      | .error e => fail e
      | .ok (st, id) =>
        if 0 > id then
          perform (.startFailed st)
          -- the peer's stream limit is reached; try again with a later call
          if id = QuicheErr.streamLimit then return (.ok, num)
          else
            perform .startStreamFailed
            return (← statusResult, num)
        else
          perform (.startStream st id)
          startLoop starts n (num + 1)

def startStream (starts : Nat → StartIo) : P QwfsResult := do
  let c ← get
  if c.options.maxConcurrentStreams ≤ c.h3Streams.length ∨ c.h3StreamsStock = [] then return .ok
  else if c.status ≠ .wait ∧ c.status ≠ .connecting then return .ok
  else
    let (result, num) ← startLoop starts (c.options.maxConcurrentStreams - c.h3Streams.length) 0
    if result ≠ .ok then return result
    else
      let c ← get
      if 0 < num ∧ c.status = .wait then
        perform .beginConnecting
        return .ok
      else return .ok

/-! ## The phase functions -/

def updatePhaseInitialize (io : UpdateIo) : P QwfsResult := do
  let c ← get
  if c.peerAddInfo = false then fail .nullPeer
  else if io.init.config = false then fail .nullConfig
  else
    perform (.initializeQuiche io.init)
    return (c.initializeQuiche io.init).2

def updatePhaseCreateSocket (io : UpdateIo) : P QwfsResult := do
  let c ← get
  perform (.createSocket io.socket)
  return (c.createSocket io.socket).2

def useH3Config : P Unit := do
  if (← get).quicheH3Config = false then fail .nullConfig else pure ()

/-- 0-RTT: requests are sent before the handshake is done. -/
def startEarlyData (io : UpdateIo) : P QwfsResult := do
  useConnection
  let c ← get
  if io.inEarlyData ∧ c.isLoadedSessionForZeroRtt ∧ c.quicheH3Connection = none then
    useH3Config
    perform (.newH3Connection io.earlyH3)
    if (← get).quicheH3Connection = none then return .criticalError
    else startStream io.starts
  else return .ok

/-- The HTTP/3 session, unless 0-RTT has one already. -/
def createH3Connection (io : UpdateIo) : P Unit := do
  if (← get).quicheH3Connection = none then
    useH3Config
    perform (.newH3Connection io.h3)
  else pure ()

def updatePhaseHandshake (io : UpdateIo) : P QwfsResult := do
  let result ← startEarlyData io
  if result ≠ .ok then return result
  else
    useConnection
    if io.established = false then return .ok
    else
      createH3Connection io
      if (← get).quicheH3Connection = none then
        perform .handshakeFailed
        statusResult
      else
        perform .handshakeDone
        return .ok

/-- The handler of one event, for the stream the map leads to. -/
def dispatch (id : Int) (event : H3Event) (st : Stream) : P Unit :=
  match event with
  | .headers list =>
    match st.eventHeaders list with
    | .ok st => perform (.eventHeaders id list st)
    | .error e => fail e
  | .data body =>
    match st.eventData body with
    | .ok st => perform (.eventData id body st)
    | .error e => fail e
  | .finished => perform (.eventFinished id st.eventFinished)
  | .reset => perform (.eventReset id)
  | .priorityUpdate | .datagram | .goaway => pure ()

/-- The settings of the peer, looked for until they are there. -/
def checkSettings (rc : Int) : P Unit := do
  if (← get).settingsReceived = false ∧ rc = 0 then perform .settingsReceived else pure ()

/-- The event loop of `UpdatePhaseWait`. -/
def pollLoop : List PollIo → P Unit
  | [] => useH3Connection
  | io :: ios => do
    useH3Connection
    if 0 > io.streamId then pure ()
    else
      checkSettings io.settings
      let c ← get
      match c.h3StreamsMap.lookup io.streamId with
      | none => perform (.placeholder io.streamId)
      | some none => pure ()
      | some (some p) =>
        match c.streamAt p with
        | none => fail .danglingStream
        | some st =>
          dispatch io.streamId io.event st
          pollLoop ios

def checkIdle : P Unit := do
  if (← get).h3Streams = [] then perform .idle else pure ()

def updatePhaseWait (io : UpdateIo) : P QwfsResult := do
  let c ← get
  if c.callRetry then
    perform .retryStream
    return .ok
  else if c.status < .wait then return .ok
  else
    pollLoop io.polls
    let result ← startStream io.starts
    if result ≠ .ok then return result
    else
      checkIdle
      return .ok

def updatePhaseStartShutdown : P QwfsResult := do
  perform .startShutdown
  return .ok

def updatePhaseWaitShutdown (io : UpdateIo) : P QwfsResult := do
  useConnection
  if io.established = false ∨ io.closed then
    perform (if (← get).callAbort then .finishAbort else .finishShutdown)
    return .ok
  else return .ok

def updatePhaseConnectionMigration (io : UpdateIo) : P QwfsResult := do
  perform (.createUdpSocket io.socket)
  let c ← get
  if c.status = .errorResolveHost then
    if c.connectionMigrationHasTimedOut then
      useConnection
      perform (.timeout io.closedTimeout)
      return .error
    else return .ok
  else
    useConnection
    if io.newSourceCid = false then
      perform .newSourceCidFailed
      statusResult
    else
      if c.peerAddInfo = false then fail .nullPeer
      else
        perform (.probePath io.probePath)
        return .ok

/-! ## Update -/

def checkConnectionClosed (closed : Bool) : P Unit := do
  let c ← get
  if c.quicheConnection = none ∨ c.phase < .wait ∨ c.status < .wait ∨ c.status = .aborting then pure ()
  else if closed then perform .connectionClosed
  else pure ()

def checkConnectionTimeout (millis : Nat) (closed : Bool) : P Unit := do
  let c ← get
  if c.quicheConnection = none ∨ c.phase < .handshake ∨ c.status < .wait then pure ()
  else if millis = 0 then perform (.timeout closed)
  else pure ()

/-- The function `_updateFunc` holds in each phase. -/
def updateFunc (io : UpdateIo) : Phase → P QwfsResult
  | .uninitialized => statusResult
  | .createSocket => updatePhaseCreateSocket io
  | .initializing => updatePhaseInitialize io
  | .handshake => updatePhaseHandshake io
  | .wait => updatePhaseWait io
  | .startShutdown => updatePhaseStartShutdown
  | .waitShutdown => updatePhaseWaitShutdown io
  | .connectionMigration => updatePhaseConnectionMigration io

/-- What `Update` does once `Send` and `Receive` are done. -/
def updatePhase (io : UpdateIo) : P QwfsResult := do
  let result ← updateFunc io (← get).phase
  if result < .ok then return result
  else
    checkConnectionClosed io.closedCheck
    checkConnectionTimeout io.timeoutMillis io.closedTimeout
    return .ok

def update (io : UpdateIo) : P QwfsResult := do
  let result ← send io.send
  if result ≠ .ok then recover io.availableDcids
  else
    let result ← receive io.recv
    if result ≠ .ok then recover io.availableDcids
    else updatePhase io

/-! ## The other calls -/

/-- The callback for one stream, and what happens to the stream then. -/
def issueCallback (io : StartIo) (st : Stream) : P Unit := do
  if st.status = .completed then perform (.success st)
  else if st.status < .wait then
    perform (.error st)
    if st.status ≤ .criticalError then perform (.streamCritical st)
    else
      match st.retry io with
      | .ok (st, _) => perform (.streamRetry st)
      | .error e => fail e
  else pure ()

def issueLoop (starts : Nat → StartIo) : List Stream → P Unit
  | [] => pure ()
  | st :: sts => do
    issueCallback (starts sts.length) st
    issueLoop starts sts

def issueCallbacks (starts : Nat → StartIo) : P Unit := do issueLoop starts (← get).h3Streams

/-- The progress since the last call, and everything written so far. -/
def getProgress : P (Nat × Nat) := do
  let c ← get
  perform .takeProgress
  return ((c.h3Streams.map Stream.progress).sum,
    (c.h3Streams.map Stream.writeSize).sum + c.totalWriteSize)

def qwfsSetOptions (options : QwfsOptions) : P QwfsResult := do
  if (← get).phase ≠ .createSocket then return .errorInvalidCall
  else
    perform (.setOptions options)
    return .ok

def qwfsRetry : P Unit := do
  if (← get).status < .wait then perform .retry else pure ()

/-- The function `qwfs::Abort` of the wrapper, with its guard on the status. -/
def qwfsAbort : P QwfsResult := do
  let c ← get
  if c.status = .wait ∨ c.status = .connecting ∨ c.status = .completed then
    useConnection
    perform .abort
    return .ok
  else return .ok

end Connection

open Connection

/-- The body of a client's call; what it returns is dropped. -/
def Op.body : Op → P Unit
  | .setOptions options => do let _ ← qwfsSetOptions options
  | .publishRequest req => perform (.publishRequest req)
  | .update io => do let _ ← Connection.update io
  | .issueCallbacks starts => Connection.issueCallbacks starts
  | .getProgress => do let _ ← Connection.getProgress
  | .retry => qwfsRetry
  | .abort => do let _ ← qwfsAbort
  | .reconnect availableDcids _ => do let _ ← Connection.reconnect availableDcids

def Op.run (op : Op) : P Unit := do
  perform (.call op)
  op.body

/-- A run: the calls of a client, one after the other. -/
abbrev exec (ops : List Op) : P Unit := session Op.run ops

/-- The calls up to phase Wait, if nothing goes wrong. -/
def connectOps : List Op := [.update {}, .update {}, .update { established := true }]

/-- An `Update` in which events arrive. -/
def eventsOp (events : List (Int × H3Event)) : Op :=
  .update { polls := events.map fun e => { streamId := e.1, event := e.2 } }

/-- A request is sent and answered with these bytes, on stream 0. -/
def answerOps (data : Bytes) : List Op :=
  [.update {}, eventsOp [(0, .headers [(ascii ":status", ascii "200")]), (0, .data (.buffered data))]]

/-- The answer is complete, and delivered. -/
def deliverOps : List Op := [eventsOp [(0, .finished)], .issueCallbacks fun _ => {}]

/-- A request that is published, sent, answered and delivered. -/
def downloadOps : List Op := .publishRequest {} :: answerOps [1, 2, 3] ++ deliverOps

end Nhh3
