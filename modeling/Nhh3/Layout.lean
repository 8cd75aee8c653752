import Nhh3.Connection
import Nhh3.Lib.Memory
/-!
# The local address and the options behind it

`CreateUdpSocket` passes `&_localAddInfo` to `getsockname`, the address of a
pointer where a socket address belongs. The fields of `Connection` from there on
are a block of bytes, laid out as on the 64-bit targets: the address runs over
`_localAddrLen` and, if it is an IPv6 address, into `_options`, which
`CreateQuicheConfig` reads in a later phase.
-/

namespace Nhh3

open Lib

/-! ## The block -/

namespace Layout

def localAddInfo : Field := ⟨0, 8⟩
def localAddrLen : Field := ⟨8, 4⟩
-- `_options`, from 16 on
def verifyPeer : Field := ⟨16, 1⟩
def enableQuicheLog : Field := ⟨17, 1⟩
def caCertsList : Field := ⟨24, 8⟩
def qlogPath : Field := ⟨32, 8⟩
def workPath : Field := ⟨40, 8⟩
def maxConcurrentStreams : Field := ⟨48, 8⟩
-- `_options._h3Oprtions`
def maxHeaderListSize : Field := ⟨56, 8⟩
def qpackMaxTableCapacity : Field := ⟨64, 8⟩
def qpackBlockedStreams : Field := ⟨72, 8⟩
def settingsEnableConnectProtocol : Field := ⟨80, 1⟩
-- `_options._quicOprtions`
def disableActiveMigration : Field := ⟨88, 1⟩
def enableEarlyData : Field := ⟨89, 1⟩
def ccType : Field := ⟨92, 4⟩
def maxUdpPayloadSize : Field := ⟨96, 8⟩
def maxIdleTimeout : Field := ⟨104, 8⟩
def initialMaxData : Field := ⟨112, 8⟩
def initialMaxStreamDataBidiLocal : Field := ⟨120, 8⟩
def initialMaxStreamDataBidiRemote : Field := ⟨128, 8⟩
def initialMaxStreamDataUni : Field := ⟨136, 8⟩
def initialMaxStreamsBidi : Field := ⟨144, 8⟩
def initialMaxStreamsUni : Field := ⟨152, 8⟩
def maxConnectionWindowSize : Field := ⟨160, 8⟩
def maxStreamWindowSize : Field := ⟨168, 8⟩
def activeConnectionIdLimit : Field := ⟨176, 8⟩

/-- The end of `_options`. -/
def size : Nat := 184

end Layout

/-- A local address, as `getsockname` writes it. -/
inductive SockAddr where
  /-- A `sockaddr_in`. -/
  | inet (port : UInt16) (addr : UInt32)
  /-- A `sockaddr_in6`. -/
  | inet6 (port : UInt16) (flowinfo : UInt32) (addr : Fin 16 → UInt8) (scopeId : UInt32)

/-- The family, the port, the address and what follows it: 16 or 28 bytes. -/
def SockAddr.bytes : SockAddr → List UInt8
  | .inet port addr =>
    leBytes 2 2 ++ (leBytes 2 port.toNat).reverse ++ (leBytes 4 addr.toNat).reverse ++ List.replicate 8 0
  | .inet6 port flowinfo addr scopeId =>
    leBytes 2 10 ++ (leBytes 2 port.toNat).reverse ++ leBytes 4 flowinfo.toNat ++ List.ofFn addr ++
      leBytes 4 scopeId.toNat

namespace Layout

/-! ## What is written to it -/

def closeUdpSocket (m : Mem) : Mem := m.write localAddInfo.off (leBytes 8 0)

/-- The call `getsockname(_sock, (struct sockaddr*)&_localAddInfo, &_localAddrLen)`. -/
def getsockname (m : Mem) (a : SockAddr) : Mem :=
  (m.write localAddInfo.off a.bytes).write localAddrLen.off (leBytes 4 a.bytes.length)

/-- The function `CreateUdpSocket`; `sizeof(struct sockaddr_storage)` is 128. -/
def createUdpSocket (m : Mem) (io : SocketIo) (a : SockAddr) : Mem :=
  let m := closeUdpSocket m
  match io with
  | .unresolved | .noSocket => m
  | .notConnected => closeUdpSocket m
  | .noName => m.write localAddrLen.off (leBytes 4 128)
  | .ok => getsockname (m.write localAddrLen.off (leBytes 4 128)) a

/-! ## What is read from it -/

/-- The options that `CreateQuicheConfig` and `CreateQuicheHttp3Config` pass to quiche. -/
structure ConfigOptions where
  verifyPeer : Bool
  enableQuicheLog : Bool
  /-- The file given to `quiche_config_load_verify_locations_from_file`, if that is called. -/
  verifyLocations : Option String
  enableEarlyData : Bool
  disableActiveMigration : Bool
  ccType : Nat
  maxIdleTimeout : Nat
  maxUdpPayloadSize : Nat
  initialMaxData : Nat
  initialMaxStreamDataBidiLocal : Nat
  initialMaxStreamDataBidiRemote : Nat
  initialMaxStreamDataUni : Nat
  initialMaxStreamsBidi : Nat
  initialMaxStreamsUni : Nat
  maxConnectionWindowSize : Nat
  maxStreamWindowSize : Nat
  activeConnectionIdLimit : Nat
  maxHeaderListSize : Nat
  qpackMaxTableCapacity : Nat
  qpackBlockedStreams : Nat
  settingsEnableConnectProtocol : Bool
  deriving DecidableEq, Repr

/-- What is read of the block, and of the connection's own copy of the list of certificates. -/
def configOptions (certs : String) (m : Mem) : ConfigOptions where
  verifyPeer := m.flag verifyPeer
  enableQuicheLog := m.flag enableQuicheLog
  verifyLocations := if certs = "" then none else some certs
  enableEarlyData := m.flag enableEarlyData
  disableActiveMigration := m.flag disableActiveMigration
  ccType := m.nat ccType
  maxIdleTimeout := m.nat maxIdleTimeout
  maxUdpPayloadSize := m.nat maxUdpPayloadSize
  initialMaxData := m.nat initialMaxData
  initialMaxStreamDataBidiLocal := m.nat initialMaxStreamDataBidiLocal
  initialMaxStreamDataBidiRemote := m.nat initialMaxStreamDataBidiRemote
  initialMaxStreamDataUni := m.nat initialMaxStreamDataUni
  initialMaxStreamsBidi := m.nat initialMaxStreamsBidi
  initialMaxStreamsUni := m.nat initialMaxStreamsUni
  maxConnectionWindowSize := m.nat maxConnectionWindowSize
  maxStreamWindowSize := m.nat maxStreamWindowSize
  activeConnectionIdLimit := m.nat activeConnectionIdLimit
  maxHeaderListSize := m.nat maxHeaderListSize
  qpackMaxTableCapacity := m.nat qpackMaxTableCapacity
  qpackBlockedStreams := m.nat qpackBlockedStreams
  settingsEnableConnectProtocol := m.flag settingsEnableConnectProtocol

end Layout

/-! ## The two phases -/

/-- A connection, with the block of bytes from `_localAddInfo` on. -/
structure Placed where
  conn : Connection
  block : Mem

open Layout

/-- The phase function `UpdatePhaseCreateSocket`: `ClearForRetry` closes the socket, too. -/
def Placed.createSocket (p : Placed) (io : SocketIo) (a : SockAddr) : Placed where
  conn := (p.conn.createSocket io).1
  block := Layout.createUdpSocket (Layout.closeUdpSocket p.block) io a

/-- The phase function `UpdatePhaseInitialize`, and the options that it gives to quiche. -/
def Placed.initializeQuiche (p : Placed) (io : InitIo) : Placed × ConfigOptions :=
  ({ p with conn := (p.conn.initializeQuiche io).1 }, configOptions p.conn.caCertsList p.block)

/-- What the flags at the beginning of `_options` are once the address is written. -/
def Placed.flagsWith (p : Placed) : SockAddr → Bool × Bool
  | .inet _ _ => (p.block.flag verifyPeer, p.block.flag enableQuicheLog)
  | .inet6 _ _ addr _ => (addr 8 ≠ 0, addr 9 ≠ 0)

section Write
variable {p : Placed} {m : Mem} {a : SockAddr} {f : Field}

theorem length_bytes (a : SockAddr) : a.bytes.length = match a with
    | .inet _ _ => 16
    | .inet6 _ _ _ _ => 28 := by
  cases a <;> simp [SockAddr.bytes]

/-- The fields behind the address and its length are not written. -/
theorem read_createSocket (io : SocketIo) (hlen : 12 ≤ f.off) (ha : a.bytes.length ≤ f.off) :
    (p.createSocket io a).block.read f = p.block.read f := by
  have hclose : ∀ m : Mem, (Layout.closeUdpSocket m).read f = m.read f := fun m =>
    Mem.read_write_of_disjoint (.inr (by simp [localAddInfo]; omega))
  have hlength : ∀ (m : Mem) v, (m.write localAddrLen.off (leBytes 4 v)).read f = m.read f := fun m v =>
    Mem.read_write_of_disjoint (.inr (by simpa [localAddrLen] using hlen))
  have haddr : ∀ m : Mem, (m.write localAddInfo.off a.bytes).read f = m.read f := fun m =>
    Mem.read_write_of_disjoint (.inr (by simpa [localAddInfo] using ha))
  cases io <;> simp only [Placed.createSocket, Layout.createUdpSocket, getsockname, hclose, hlength, haddr]

/-- Neither address reaches the options from byte 28 on. -/
theorem nat_createSocket (io : SocketIo) (hf : 28 ≤ f.off) :
    (p.createSocket io a).block.nat f = p.block.nat f := by
  have hlen : a.bytes.length ≤ 28 := by
    rw [length_bytes]
    split <;> omega
  rw [Mem.nat, read_createSocket io (by omega) (by omega), ← Mem.nat]

/-- An IPv6 address leaves its ninth and tenth byte in the two flags. -/
theorem flags_createSocket (hsize : p.block.length = Layout.size) (a : SockAddr) :
    ((p.createSocket .ok a).block.flag verifyPeer, (p.createSocket .ok a).block.flag enableQuicheLog) =
      p.flagsWith a := by
  cases a with
  | inet port addr =>
    have hkeep : ∀ f : Field, 16 ≤ f.off →
        (p.createSocket .ok (.inet port addr)).block.flag f = p.block.flag f := fun f hf => by
      rw [Mem.flag, Mem.nat, read_createSocket .ok (by omega) (by rw [length_bytes]; exact hf), ← Mem.nat,
        ← Mem.flag]
    rw [hkeep verifyPeer (by decide), hkeep enableQuicheLog (by decide)]
    rfl
  | inet6 port flowinfo addr scopeId =>
    have hbyte : ∀ (f : Field) (b : UInt8), f.size = 1 → 12 ≤ f.off → f.off < 28 →
        (SockAddr.inet6 port flowinfo addr scopeId).bytes[f.off]? = some b →
        (p.createSocket .ok (.inet6 port flowinfo addr scopeId)).block.flag f = decide (b ≠ 0) := by
      intro f b hf hlow hhigh hb
      have hread : (p.createSocket .ok (.inet6 port flowinfo addr scopeId)).block.read f = [b] := by
        have hsize' : f.off < (p.block.length) := by
          rw [hsize]
          exact hhigh.trans (by decide)
        simp only [Placed.createSocket, Layout.createUdpSocket, getsockname, Layout.closeUdpSocket]
        rw [Mem.read_write_of_disjoint (.inr (by simpa [localAddrLen] using hlow))]
        exact Mem.read_write_byte (Nat.zero_le _) hf (by simpa using hsize') hb
      simp [Mem.flag, Mem.nat, hread, ← UInt8.toNat_inj]
    rw [hbyte verifyPeer (addr 8) rfl (by decide) (by decide) rfl,
      hbyte enableQuicheLog (addr 9) rfl (by decide) (by decide) rfl]
    rfl

theorem caCertsList_createSocket (io : SocketIo) : (p.createSocket io a).conn.caCertsList = p.conn.caCertsList := by
  cases io <;> rfl

/-- What quiche is configured with after the address is written. -/
theorem configOptions_createSocket (hsize : p.block.length = Layout.size) (a : SockAddr) (certs : String) :
    configOptions certs (p.createSocket .ok a).block = { configOptions certs p.block with
      verifyPeer := (p.flagsWith a).1, enableQuicheLog := (p.flagsWith a).2 } := by
  have hnat : ∀ f : Field, 28 ≤ f.off → (p.createSocket .ok a).block.nat f = p.block.nat f := fun f hf =>
    nat_createSocket .ok hf
  have hflag : ∀ f : Field, 28 ≤ f.off → (p.createSocket .ok a).block.flag f = p.block.flag f := fun f hf => by
    rw [Mem.flag, hnat f hf, ← Mem.flag]
  have hverify : (p.createSocket .ok a).block.flag verifyPeer = (p.flagsWith a).1 :=
    congrArg Prod.fst (flags_createSocket hsize a)
  have hlog : (p.createSocket .ok a).block.flag enableQuicheLog = (p.flagsWith a).2 :=
    congrArg Prod.snd (flags_createSocket hsize a)
  simp (disch := decide) only [configOptions, hverify, hlog, hnat, hflag]

/-! ## The options of the connection logic -/

/-- The block holds the options that the other functions of the connection read. -/
structure Stores (m : Mem) (options : QwfsOptions) : Prop where
  maxConcurrentStreams : m.nat maxConcurrentStreams = options.maxConcurrentStreams
  disableActiveMigration : m.flag disableActiveMigration = options.disableActiveMigration
  enableEarlyData : m.flag enableEarlyData = options.enableEarlyData

/-- No address reaches them, so a connection need not look at its block. -/
theorem stores_createSocket (io : SocketIo) (h : Stores p.block p.conn.options) :
    Stores (p.createSocket io a).block (p.createSocket io a).conn.options := by
  have hoptions : (p.createSocket io a).conn.options = p.conn.options := by cases io <;> rfl
  rw [hoptions]
  constructor
  · rw [nat_createSocket io (by decide)]
    exact h.maxConcurrentStreams
  · rw [Mem.flag, nat_createSocket io (by decide)]
    exact h.disableActiveMigration
  · rw [Mem.flag, nat_createSocket io (by decide)]
    exact h.enableEarlyData

end Write

/-- Two runs of the two phases that differ in the local address configure quiche alike exactly
if the addresses leave the two flags alike: IPv4 addresses keep them, and of an IPv6 address
the ninth and the tenth byte take their place. -/
theorem local_address {p : Placed} (hsize : p.block.length = Layout.size) (a₁ a₂ : SockAddr) (io : InitIo) :
    (p.createSocket .ok a₁).conn = (p.createSocket .ok a₂).conn ∧
    (p.createSocket .ok a₁).conn.phase = .initializing ∧
    (((p.createSocket .ok a₁).initializeQuiche io).2 = ((p.createSocket .ok a₂).initializeQuiche io).2 ↔
      p.flagsWith a₁ = p.flagsWith a₂) := by
  refine ⟨rfl, rfl, ?_⟩
  simp only [Placed.initializeQuiche, caCertsList_createSocket, configOptions_createSocket hsize]
  constructor
  · intro h
    rw [ConfigOptions.mk.injEq] at h
    exact Prod.ext h.1 h.2.1
  · intro h
    rw [h]

/-- A new connection whose options ask for certificates to be checked. -/
def checkingPeer : Placed where
  conn := .new "h" "443"
  block := List.replicate 16 0 ++ leBytes 8 1 ++ List.replicate 160 0

theorem checkingPeer_size : checkingPeer.block.length = Layout.size := by
  simp only [checkingPeer, List.length_append, List.length_replicate, length_leBytes, Layout.size]

/-- Two IPv4 addresses. -/
theorem local_address_inet : checkingPeer.block.length = Layout.size ∧
    ((checkingPeer.createSocket .ok (.inet 50000 0x7f000001)).initializeQuiche {}).2 =
      ((checkingPeer.createSocket .ok (.inet 50001 0xc0a80002)).initializeQuiche {}).2 :=
  ⟨checkingPeer_size, (local_address checkingPeer_size _ _ {}).2.2.2 rfl⟩

/-- The local address `::1` turns the check of the certificate off. -/
theorem local_address_loopback :
    ((checkingPeer.createSocket .ok (.inet 50000 0x7f000001)).initializeQuiche {}).2.verifyPeer = true ∧
    ((checkingPeer.createSocket .ok (.inet6 50000 0 (fun i => if i = 15 then 1 else 0) 0)).initializeQuiche
      {}).2.verifyPeer = false := by
  decide

end Nhh3
