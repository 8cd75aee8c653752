import Mathlib.Algebra.Order.Ring.Int
import Mathlib.Tactic.Common
/-!
# Statuses, results and quiche's codes

The enumerations of `qwfs_types.h` with their numeric values, the error codes of
`quiche.h` that qwfs looks at, and what external calls can answer.
-/

namespace Nhh3

/-- A `std::string` received from the peer, or the content of a file. -/
abbrev Bytes := List UInt8

/-- The bytes of an ASCII literal. -/
def ascii (s : String) : Bytes := s.toList.map fun c => c.toNat.toUInt8

/-! ## qwfs_types.h -/

inductive QwfsResult where
  | criticalError | error | errorInvalidArg | errorInvalidCall | errorFileIo | errorNotExist | ok
  deriving DecidableEq, Repr

def QwfsResult.toInt : QwfsResult → Int
  | .criticalError => -101
  | .error => -100
  | .errorInvalidArg => -1
  | .errorInvalidCall => -2
  | .errorFileIo => -3
  | .errorNotExist => -4
  | .ok => 0

inductive QwfsStatus where
  | criticalError | criticalErrorQuiche
  | error | errorSocket | errorResolveHost | errorTimeout | errorConnectionClose | errorInvalidServer
  | errorInvalidResponse | errorTlsInvalidCert | errorTls | errorNetwork | errorVersionFallback
  | errorConnectionMigration | errorFileIo
  | wait | connecting | completed | aborting
  deriving DecidableEq, Repr

def QwfsStatus.toInt : QwfsStatus → Int
  | .criticalError => -100
  | .criticalErrorQuiche => -101
  | .error => -1
  | .errorSocket => -2
  | .errorResolveHost => -3
  | .errorTimeout => -4
  | .errorConnectionClose => -5
  | .errorInvalidServer => -6
  | .errorInvalidResponse => -7
  | .errorTlsInvalidCert => -8
  | .errorTls => -9
  | .errorNetwork => -10
  | .errorVersionFallback => -11
  | .errorConnectionMigration => -12
  | .errorFileIo => -30
  | .wait => 0
  | .connecting => 1
  | .completed => 2
  | .aborting => 3

instance : LT QwfsResult := ⟨fun a b => a.toInt < b.toInt⟩
instance : LT QwfsStatus := ⟨fun a b => a.toInt < b.toInt⟩
instance : LE QwfsStatus := ⟨fun a b => a.toInt ≤ b.toInt⟩

instance (a b : QwfsResult) : Decidable (a < b) := inferInstanceAs (Decidable (a.toInt < b.toInt))
instance (a b : QwfsStatus) : Decidable (a < b) := inferInstanceAs (Decidable (a.toInt < b.toInt))
instance (a b : QwfsStatus) : Decidable (a ≤ b) := inferInstanceAs (Decidable (a.toInt ≤ b.toInt))

theorem lt_wait_iff (s : QwfsStatus) : s < .wait ↔ ¬ .wait ≤ s := by
  cases s <;> decide

/-- An error is not a status from Wait on; a concrete one computes. -/
theorem not_wait_le {s : QwfsStatus} (h : decide (s < .wait) = true) : ¬ .wait ≤ s :=
  (lt_wait_iff s).1 (of_decide_eq_true h)

theorem lt_wait_of_le_criticalError (s : QwfsStatus) : s ≤ .criticalError → s < .wait := by
  cases s <;> decide

/-! ## Connection phases -/

inductive Phase where
  | uninitialized | createSocket | initializing | handshake | wait | startShutdown | waitShutdown
  | connectionMigration
  deriving DecidableEq, Repr

def Phase.toNat : Phase → Nat
  | .uninitialized => 0
  | .createSocket => 1
  | .initializing => 2
  | .handshake => 3
  | .wait => 4
  | .startShutdown => 5
  | .waitShutdown => 6
  | .connectionMigration => 7

/-- The two phases of a shutdown. -/
def Phase.shutsDown : Phase → Bool
  | .startShutdown | .waitShutdown => true
  | _ => false

/-- The phases whose function passes the connection to quiche, whatever the status. -/
def Phase.usesConnection : Phase → Bool
  | .handshake | .startShutdown | .waitShutdown | .connectionMigration => true
  | _ => false

instance : LT Phase := ⟨fun a b => a.toNat < b.toNat⟩
instance (a b : Phase) : Decidable (a < b) := inferInstanceAs (Decidable (a.toNat < b.toNat))

/-! ## Options -/

/-- The options the connection logic reads; the transport parameters only go
into quiche's config object. -/
structure QwfsOptions where
  caCertsList : String := ""
  qlogPath : String := ""
  workPath : String := ""
  maxConcurrentStreams : Nat := 128
  disableActiveMigration : Bool := true
  enableEarlyData : Bool := false
  deriving DecidableEq, Repr

/-! ## quiche.h -/

namespace QuicheErr

def done : Int := -1
def bufferTooShort : Int := -2
def unknownVersion : Int := -3
def invalidFrame : Int := -4
def invalidPacket : Int := -5
def invalidState : Int := -6
def invalidStreamState : Int := -7
def invalidTransportParam : Int := -8
def cryptoFail : Int := -9
def tlsFail : Int := -10
def flowControl : Int := -11
def streamLimit : Int := -12
def finalSize : Int := -13
def congestionControl : Int := -14
def streamReset : Int := -16

end QuicheErr

namespace QuicheH3Err

def done : Int := -1
def bufferTooShort : Int := -2
def excessiveLoad : Int := -4
def idError : Int := -5
def streamCreationError : Int := -6
def closedCriticalStream : Int := -7
def missingSettings : Int := -8
def frameUnexpected : Int := -9
def frameError : Int := -10
def qpackDecompressionFailed : Int := -11
def streamBlocked : Int := -13
def settingsError : Int := -14
def requestRejected : Int := -15
def requestCancelled : Int := -16
def requestIncomplete : Int := -17
def messageError : Int := -18
def connectError : Int := -19
def versionFallback : Int := -20

/-- The codes `QUICHE_H3_TRANSPORT_ERR_*`: a transport error as the HTTP/3 API reports it. -/
def transport (error : Int) : Int := error - 1000

end QuicheH3Err

/-- The HTTP/3 session of a QUIC connection. -/
structure H3Conn where
  id : Nat
  transport : Nat
  deriving DecidableEq, Repr

/-! ## What external calls answer -/

/-- What `sendto` or `recvfrom` does: all of the packet, or `GetError`'s code and whether it
means would-block. -/
inductive SockIo where
  | ok
  | failed (error : Int) (wouldBlock : Bool)
  deriving DecidableEq, Repr

/-- One round of `Send`: what `quiche_conn_send` returns and what `sendto` does
with the packet. A list of rounds that ends stands for `QUICHE_ERR_DONE`. -/
structure SendIo where
  writeSize : Int
  sendto : SockIo := .ok
  deriving DecidableEq, Repr

/-- One round of `Receive`: what `recvfrom` does and what `quiche_conn_recv` makes
of the packet. A list of rounds that ends stands for would-block. -/
structure RecvIo where
  recvfrom : SockIo := .ok
  readSize : Int := 0
  deriving DecidableEq, Repr

/-- What `CreateUdpSocket` meets: the call that fails, if one does. -/
inductive SocketIo where
  | unresolved | noSocket | notConnected | noName | ok
  deriving DecidableEq, Repr

/-- What `Stream::Start` meets: whether `fopen` succeeds and what `quiche_h3_send_request` returns. -/
structure StartIo where
  fopen : Bool := true
  sendRequest : Int := 0
  deriving DecidableEq, Repr

/-- What `EventData` meets: the body data that quiche has buffered for the stream, and whether `malloc` or
`realloc` has a block for it where one is asked for; or an error code of `quiche_h3_recv_body`. -/
inductive BodyIo where
  | buffered (data : Bytes) (malloc : Bool := true)
  | failed (error : Int)
  deriving DecidableEq, Repr

/-- The events `quiche_h3_conn_poll` reports. -/
inductive H3Event where
  | headers (list : List (Bytes × Bytes))
  | data (body : BodyIo)
  | finished | reset | priorityUpdate | datagram | goaway
  deriving DecidableEq, Repr

/-- One event with its stream id; `settings` is what `quiche_h3_for_each_setting`
returns if it is called. -/
structure PollIo where
  streamId : Int
  event : H3Event
  settings : Int := -1
  deriving DecidableEq, Repr

/-- Undefined behaviour or an uncaught exception: the run ends here. -/
inductive Fault where
  /-- A quiche call is given a null connection or HTTP/3 handle. -/
  | nullHandle
  /-- A null `_peerAddInfo` is dereferenced. -/
  | nullPeer
  /-- An assertion at the top of `Stream::Start` fails. -/
  | startAssertion
  /-- quiche is given a null config object. -/
  | nullConfig
  /-- An entry of `_h3StreamsMap` leads to a destroyed stream. -/
  | danglingStream
  /-- A `memcpy` goes past the end of a stream's body block, or there is none. -/
  | bodyOverrun
  /-- An exception leaves a callback that quiche called. -/
  | uncaught
  deriving DecidableEq, Repr

end Nhh3
