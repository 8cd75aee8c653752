import Mathlib.Data.List.AList
import Nhh3.Lib.Program
import Nhh3.Stream
/-!
# The state of a connection: qwfs_connection.cpp

The fields of `Connection` and the state changes its functions make, as pure
functions under the source's names. `Act` lists the changes that a call can make
between two looks at the outside world, and `apply` says what each does.
-/

namespace Nhh3

/-- The map `_h3StreamsMap`: stream ids to addresses of streams, `none` for a null pointer. -/
abbrev StreamsMap := AList fun _ : Int => Option Nat

/-- Unlike `insert`, `emplace` keeps an existing entry. -/
def StreamsMap.emplace (m : StreamsMap) (id : Int) (p : Nat) : StreamsMap :=
  if id ∈ m then m else m.insert id (some p)

structure Connection where
  hostName : String
  port : String
  status : QwfsStatus
  phase : Phase
  errorDetail : String
  /-- Whether `_sock` is open. -/
  sock : Bool
  /-- Whether `_peerAddInfo` is non-null. -/
  peerAddInfo : Bool
  options : QwfsOptions
  caCertsList : String
  qlogPath : String
  zeroRttSessionPath : String
  /-- Whether `_quicheConfig` is non-null. -/
  quicheConfig : Bool
  /-- Whether `_quicheH3Config` is non-null. -/
  quicheH3Config : Bool
  quicheConnection : Option Nat
  quicheH3Connection : Option H3Conn
  h3StreamsErrorStock : List Stream
  h3StreamsStock : List Stream
  h3Streams : List Stream
  h3StreamsMap : StreamsMap
  callRetry : Bool
  callAbort : Bool
  isLoadedSessionForZeroRtt : Bool
  settingsReceived : Bool
  totalWriteSize : Nat
  startTime : Int
  /-- The system clock in milliseconds, as the running call reads it. -/
  clock : Int
  /-- The next handle quiche allocates. -/
  nextHandle : Nat
  /-- The address of the next `Stream`. -/
  nextStream : Nat
  /-- The handles given to `quiche_conn_free`. -/
  freed : List Nat
  /-- The handles given to `quiche_h3_conn_free`. -/
  freedH3 : List H3Conn

/-- What `UpdatePhaseInitialize` is answered. -/
structure InitIo where
  config : Bool := true
  h3Config : Bool := true
  connect : Bool := true
  qlog : Bool := true
  /-- The date and time in the qlog file's name. -/
  timestamp : String := ""
  session : Bool := false
  deriving DecidableEq, Repr

/-- What one `Update` is answered by the sockets, quiche and the clock. -/
structure UpdateIo where
  now : Int := 0
  send : List SendIo := []
  recv : List RecvIo := []
  availableDcids : Nat := 0
  socket : SocketIo := .ok
  init : InitIo := {}
  inEarlyData : Bool := false
  earlyH3 : Bool := true
  /-- What `quiche_conn_is_established` and `quiche_conn_is_closed` answer to a phase. -/
  established : Bool := false
  closed : Bool := false
  h3 : Bool := true
  polls : List PollIo := []
  /-- The answers to the streams started in this call, in order. -/
  starts : Nat → StartIo := fun n => { sendRequest := 4 * n }
  newSourceCid : Bool := true
  probePath : Bool := true
  /-- What `quiche_conn_is_closed` answers to `CheckConnectionClosed`. -/
  closedCheck : Bool := false
  timeoutMillis : Nat := 1
  /-- What `quiche_conn_is_closed` answers after `quiche_conn_on_timeout`. -/
  closedTimeout : Bool := false

/-- The calls a client makes, with what they are answered. -/
inductive Op where
  | setOptions (options : QwfsOptions)
  | publishRequest (req : Request)
  | update (io : UpdateIo)
  | issueCallbacks (starts : Nat → StartIo)
  | getProgress
  | retry
  | abort
  | reconnect (availableDcids : Nat) (now : Int)

namespace Connection

/-- The constructor `Connection::Connection`. -/
def new (hostName port : String) : Connection where
  hostName
  port
  status := .wait
  phase := .createSocket
  errorDetail := ""
  sock := false
  peerAddInfo := false
  options := {}
  caCertsList := ""
  qlogPath := ""
  zeroRttSessionPath := ""
  quicheConfig := false
  quicheH3Config := false
  quicheConnection := none
  quicheH3Connection := none
  h3StreamsErrorStock := []
  h3StreamsStock := []
  h3Streams := []
  h3StreamsMap := ∅
  callRetry := false
  callAbort := false
  isLoadedSessionForZeroRtt := false
  settingsReceived := false
  totalWriteSize := 0
  startTime := 0
  clock := 0
  nextHandle := 0
  nextStream := 0
  freed := []
  freedH3 := []

/-! ## Status and phase -/

def convertStatusToResult : QwfsStatus → QwfsResult
  | .error | .errorSocket | .errorResolveHost | .errorTimeout | .errorConnectionClose
  | .errorInvalidResponse | .errorNetwork => .error
  | .errorFileIo => .errorFileIo
  | .wait | .connecting | .completed => .ok
  | _ => .criticalError

def convertQuicheErrorToStatus (error : Int) (nowStatus : QwfsStatus) : QwfsStatus :=
  open QuicheErr in
  if error ∈ [done, flowControl, finalSize, congestionControl] then nowStatus
  else if error = streamReset then .error
  else if error ∈ [bufferTooShort, streamLimit] then .criticalError
  else if error = tlsFail then .errorTlsInvalidCert
  else if error = cryptoFail then .errorTls
  else if error ∈ [unknownVersion, invalidFrame, invalidPacket, invalidState, invalidStreamState,
      invalidTransportParam] then .errorInvalidServer
  else .criticalErrorQuiche

def setStatus (c : Connection) (status : QwfsStatus) (message : Option String := none) : Connection :=
  { c with
    status,
    errorDetail := match message with
      | some m => "[qwfs error][" ++ c.hostName ++ "]" ++ m ++ "\n"
      | none => "" }

/-- The migration timer starts with its phase. -/
def setPhase (c : Connection) (phase : Phase) : Connection :=
  { c with phase, startTime := if phase = .connectionMigration then c.clock else c.startTime }

/-! ## Sockets and handles -/

def closeUdpSocket (c : Connection) : Connection := { c with sock := false, peerAddInfo := false }

def clearQuicheConnection (c : Connection) : Connection :=
  { c with
    quicheH3Connection := none, freedH3 := c.quicheH3Connection.toList ++ c.freedH3,
    quicheConnection := none, freed := c.quicheConnection.toList ++ c.freed }

def clearForRetry (c : Connection) : Connection :=
  { c.closeUdpSocket.clearQuicheConnection with
    status := .wait, isLoadedSessionForZeroRtt := false, settingsReceived := false, totalWriteSize := 0 }

def createUdpSocket (c : Connection) (io : SocketIo) : Connection :=
  let c := c.closeUdpSocket
  match io with
  | .unresolved => c.setStatus .errorResolveHost (some "Failed to resolve host.")
  | .noSocket => c.setStatus .errorSocket (some "Create socket is failed.")
  | .notConnected => c.setStatus .errorSocket (some "Failed to connect socket.")
  | .noName =>
    { c with sock := true, peerAddInfo := true }.setStatus .errorSocket (some "Failed to getsockname.")
  | .ok => { c with sock := true, peerAddInfo := true }

def setOptionsInternal (c : Connection) (io : InitIo) : Connection :=
  if io.config then
    if io.h3Config then { c with quicheConfig := true, quicheH3Config := true }
    else { c with quicheConfig := true, quicheH3Config := false }.setStatus .criticalErrorQuiche
      (some "Failed to create quiche h3 config.")
  else { c with quicheConfig := false, quicheH3Config := false }.setStatus .criticalErrorQuiche
    (some "Failed to create quiche config.")

/-- The assignment of what `quiche_connect` returns. -/
def createQuicheConnection (c : Connection) (io : InitIo) : Connection :=
  { c with
    quicheConnection := if io.connect then some c.nextHandle else none, nextHandle := c.nextHandle + 1 }

/-- The assignment of what `quiche_h3_conn_new_with_transport` returns. -/
def newH3Connection (c : Connection) (ok : Bool) : Connection :=
  { c with
    quicheH3Connection := if ok then c.quicheConnection.map fun q => ⟨c.nextHandle, q⟩ else none,
    nextHandle := c.nextHandle + 1 }

def qlogFile (c : Connection) (io : InitIo) : String :=
  c.qlogPath ++ "/qwfs_" ++ c.hostName ++ "_" ++ c.port ++ "_" ++ io.timestamp ++ ".qlog"

def setQlogSettings (c : Connection) (io : InitIo) : Connection × QwfsResult :=
  if c.qlogPath = "" ∨ io.qlog then (c, .ok)
  else
    let c := c.setStatus .errorFileIo (some ("Failed to create qlog file -> " ++ c.qlogFile io ++ "\n"))
    (c, convertStatusToResult c.status)

def loadSessionForZeroRtt (c : Connection) (io : InitIo) : Bool :=
  c.zeroRttSessionPath ≠ "" && io.session

/-- The phase function `UpdatePhaseInitialize`, once the address and the config are there. -/
def initializeQuiche (c : Connection) (io : InitIo) : Connection × QwfsResult :=
  let c := (c.setOptionsInternal io).createQuicheConnection io
  if c.quicheConnection = none then
    let c := (c.setPhase .wait).setStatus .criticalErrorQuiche (some "Failed to create quiche connection.")
    (c, convertStatusToResult c.status)
  else
    let (c, result) := c.setQlogSettings io
    if result ≠ .ok then (c, result)
    else
      let c := if c.options.enableEarlyData then
        { c with isLoadedSessionForZeroRtt := c.loadSessionForZeroRtt io } else c
      (c.setPhase .handshake, .ok)

/-- The phase function `UpdatePhaseCreateSocket`. -/
def createSocket (c : Connection) (io : SocketIo) : Connection × QwfsResult :=
  let c := c.clearForRetry.createUdpSocket io
  if io = .ok then (c.setPhase .initializing, .ok) else (c, convertStatusToResult c.status)

def transitionConnectionMigration (c : Connection) : Connection :=
  (c.closeUdpSocket.setStatus .wait).setPhase .connectionMigration

/-- The limit `ConnectionMigrationTimeOut` is 5 seconds. -/
def connectionMigrationHasTimedOut (c : Connection) : Bool := c.clock - c.startTime > 5 * 1000

/-! ## Streams -/

/-- The stream at an address, in whichever container it is. -/
def streamAt (c : Connection) (p : Nat) : Option Stream :=
  (c.h3Streams ++ c.h3StreamsStock ++ c.h3StreamsErrorStock).find? fun st => st.self = p

/-- Write the stream back to its address. -/
def putStream (c : Connection) (st : Stream) : Connection :=
  let put := List.map fun x : Stream => if x.self = st.self then st else x
  { c with
    h3Streams := put c.h3Streams, h3StreamsStock := put c.h3StreamsStock,
    h3StreamsErrorStock := put c.h3StreamsErrorStock }

def publishRequest (c : Connection) (req : Request) : Connection :=
  let c : Connection :=
    if .wait ≤ c.status then
      setStatus { c with totalWriteSize := if c.status = .wait then 0 else c.totalWriteSize } .connecting
    else c
  { c with
    h3StreamsStock := c.h3StreamsStock ++ [Stream.new c.nextStream c.hostName req],
    nextStream := c.nextStream + 1 }

/-- What `StartStream` does after a successful `Start` of the first waiting stream. -/
def activate (c : Connection) (st : Stream) (id : Int) : Connection :=
  { c with
    h3StreamsMap := c.h3StreamsMap.emplace id st.self,
    h3Streams := c.h3Streams ++ [st],
    h3StreamsStock := c.h3StreamsStock.tail }

def retryStream (c : Connection) : Connection :=
  { c with h3StreamsStock := c.h3StreamsStock ++ c.h3StreamsErrorStock, h3StreamsErrorStock := [] }

def shutdownStream (c : Connection) : Connection :=
  { c with h3Streams := c.h3Streams.map fun st => st.shutdown c.status c.errorDetail }

/-- The requeueing loop of `Reconnect`. -/
def requeueStreams (c : Connection) : Connection :=
  { c with
    h3StreamsMap := c.h3Streams.foldl (fun m st => m.erase st.streamId) c.h3StreamsMap,
    h3StreamsStock := c.h3StreamsStock ++ c.h3Streams,
    h3Streams := [] }

/-- The end of a shutdown after an error: `emplace_front` for each active stream,
then `swap`. -/
def stockForRetry (c : Connection) : Connection :=
  { c with
    h3StreamsErrorStock := c.h3Streams.reverse ++ c.h3StreamsStock,
    h3StreamsStock := c.h3StreamsErrorStock,
    h3Streams := [],
    h3StreamsMap := ∅ }

def abort (c : Connection) : Connection :=
  ({ c with
      callAbort := true, h3StreamsMap := ∅, h3Streams := [], h3StreamsErrorStock := [],
      h3StreamsStock := [] }.setPhase .startShutdown).setStatus .aborting

/-- Take a delivered stream off the list and the map. -/
def dropDelivered (c : Connection) (st : Stream) : Connection :=
  { c with
    h3StreamsMap := c.h3StreamsMap.erase st.streamId,
    h3Streams := c.h3Streams.eraseP fun x => x.self = st.self }

def setOptions (c : Connection) (options : QwfsOptions) : Connection :=
  { c with
    options,
    caCertsList := options.caCertsList,
    qlogPath := options.qlogPath,
    zeroRttSessionPath := if options.workPath = "" then "" else
      options.workPath ++ "/0rtt_" ++ c.hostName ++ "_" ++ c.port ++ ".session" }

end Connection

/-! ## Actions -/

inductive Act where
  /-- A client's call begins. -/
  | call (op : Op)
  | setOptions (options : QwfsOptions)
  | publishRequest (req : Request)
  | takeProgress
  | retry
  | abort
  | transitionConnectionMigration
  /-- A `Reconnect` without migration. -/
  | requeueStreams
  /-- The call `quiche_conn_send` failed. -/
  | sendFailed (error : Int)
  /-- The call `sendto` or `recvfrom` failed. -/
  | socketFailed (message : String)
  /-- The call `quiche_conn_recv` failed. -/
  | recvFailed (error : Int)
  | createSocket (io : SocketIo)
  | initializeQuiche (io : InitIo)
  | newH3Connection (ok : Bool)
  | handshakeFailed
  | handshakeDone
  /-- In `UpdatePhaseWait` a Retry is consumed. -/
  | retryStream
  | settingsReceived
  /-- For an unknown stream id `operator[]` inserts a null pointer. -/
  | placeholder (id : Int)
  | eventHeaders (id : Int) (list : List (Bytes × Bytes)) (st : Stream)
  | eventData (id : Int) (body : BodyIo) (st : Stream)
  | eventFinished (id : Int) (st : Stream)
  | eventReset (id : Int)
  /-- The first waiting stream was started. -/
  | startStream (st : Stream) (id : Int)
  /-- The first waiting stream could not be started. -/
  | startFailed (st : Stream)
  | startStreamFailed
  | beginConnecting
  | idle
  | startShutdown
  | finishAbort
  | finishShutdown
  | createUdpSocket (io : SocketIo)
  | newSourceCidFailed
  | probePath (ok : Bool)
  | connectionClosed
  | timeout (closed : Bool)
  /-- A success callback, after which the stream leaves. -/
  | success (st : Stream)
  /-- An error callback. -/
  | error (st : Stream)
  | streamCritical (st : Stream)
  | streamRetry (st : Stream)

open Connection in
instance : Lib.Machine Connection Act where
  apply
    | .call op, c => { c with clock := match op with
        | .update io => io.now
        | .reconnect _ now => now
        | _ => c.clock }
    | .setOptions options, c => c.setOptions options
    | .publishRequest req, c => c.publishRequest req
    | .takeProgress, c => { c with h3Streams := c.h3Streams.map Stream.addProgress }
    | .retry, c => { c with callRetry := true }
    | .abort, c => c.abort
    | .transitionConnectionMigration, c => c.transitionConnectionMigration
    | .requeueStreams, c => c.closeUdpSocket.requeueStreams.setPhase .createSocket
    | .sendFailed error, c => c.setStatus (convertQuicheErrorToStatus error c.status)
        (some ("Failed to create packet(quiche_error is " ++ toString error ++ ").\n"))
    | .socketFailed message, c => (c.setPhase .startShutdown).setStatus .errorSocket (some message)
    | .recvFailed error, c =>
        let c := c.setStatus (convertQuicheErrorToStatus error c.status)
          (some ("Failed to process packet(quiche_error is " ++ toString error ++ ").\n"))
        if c.status = .errorTls then c.setPhase .startShutdown else c.setPhase .wait
    | .createSocket io, c => (c.createSocket io).1
    | .initializeQuiche io, c => (c.initializeQuiche io).1
    | .newH3Connection ok, c => c.newH3Connection ok
    | .handshakeFailed, c => (c.setPhase .startShutdown).setStatus .criticalErrorQuiche
        (some "Failed to quiche_h3_conn_new_with_transport")
    | .handshakeDone, c => c.setPhase .wait
    | .retryStream, c =>
        ({ c.retryStream with callRetry := false }.setPhase .initializing).setStatus .wait
    | .settingsReceived, c => { c with settingsReceived := true }
    | .placeholder id, c => { c with h3StreamsMap := c.h3StreamsMap.insert id none }
    | .eventHeaders _ _ st, c => c.putStream st
    | .eventData _ _ st, c => c.putStream st
    | .eventFinished _ st, c =>
        { c.putStream st with totalWriteSize := c.totalWriteSize + st.writeSize }
    | .eventReset _, c => c.setPhase .startShutdown
    | .startStream st id, c => c.activate st id
    | .startFailed st, c => { c with h3StreamsStock := st :: c.h3StreamsStock.tail }
    | .startStreamFailed, c =>
        (c.setPhase .wait).setStatus .criticalErrorQuiche (some "Failed to create stream")
    | .beginConnecting, c => { c.setStatus .connecting with totalWriteSize := 0 }
    | .idle, c => c.setStatus .wait
    | .startShutdown, c => c.shutdownStream.setPhase .waitShutdown
    | .finishAbort, c =>
        ({ c.closeUdpSocket with callAbort := false }.setPhase .createSocket).setStatus .wait
    | .finishShutdown, c => c.closeUdpSocket.stockForRetry.setPhase .wait
    | .createUdpSocket io, c => c.createUdpSocket io
    | .newSourceCidFailed, c =>
        (c.setPhase .wait).setStatus .criticalErrorQuiche (some "Failed to create new scid.")
    | .probePath ok, c =>
        (if ok then c else c.setStatus .errorConnectionMigration (some "Failed to probe path")).setPhase .wait
    | .connectionClosed, c =>
        (c.setStatus .errorConnectionClose (some "Connection close from server")).setPhase .startShutdown
    | .timeout closed, c =>
        if c.status ≠ .aborting ∧ closed then
          (c.setPhase .startShutdown).setStatus .errorTimeout (some "Connection close")
        else c
    | .success st, c => c.dropDelivered st
    | .error _, c => c
    | .streamCritical st, c => (c.setPhase .startShutdown).setStatus st.status (some st.errorDetail)
    | .streamRetry st, c => c.putStream st

end Nhh3
