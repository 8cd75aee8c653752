import Nhh3.Layout
import Nhh3.Lib.Record
/-!
# The options from Nhh3Sharp.cs to quiche

The runtime marshals a `ConnectionOptions` object member by member into a block of
bytes, whose address is the argument of `qwfsSetOptions`. Native code takes the same
bytes for a `QwfsOptions`, `SetOptions` copies them, and `CreateQuicheConfig` reads
them after the local address has been written beside them.
-/

namespace Nhh3

open Lib

/-! ## Nhh3Sharp.cs -/

inductive CcType where
  | newReno | cubic | bbr
  deriving DecidableEq, Repr

def CcType.toNat : CcType → Nat
  | .newReno => 0
  | .cubic => 1
  | .bbr => 2

structure Http3Options where
  maxHeaderListSize : UInt64 := 100 * 1024
  qpackMaxTableCapacity : UInt64 := 0
  qpackBlockedStreams : UInt64 := 100 * 1024
  settingsEnableConnectProtocol : Bool := false

structure QuicOptions where
  disableActiveMigration : Bool := true
  enableEarlyData : Bool := false
  cc : CcType := .bbr
  maxUdpPayloadSize : UInt64 := 65527
  maxIdelTimeout : UInt64 := 10 * 1000
  initialMaxData : UInt64 := 100 * 1024 * 1024
  initialmaxStreamDataBidiLocal : UInt64 := 100 * 1024 * 1024
  initialMaxStreamDataBidiRemote : UInt64 := 100 * 1024 * 1024
  initialMaxStreamDataUni : UInt64 := 100 * 1024 * 1024
  initialMaxStreamsBidi : UInt64 := 128
  initialMaxStreamsUni : UInt64 := 128
  maxConnectionWindowSize : UInt64 := 24 * 1024 * 1024
  maxStreamWindowSize : UInt64 := 16 * 1024 * 1024
  activeConnectionIdLimit : UInt64 := 16

structure ConnectionOptions where
  verifyPeer : Bool := true
  enableQuicheLog : Bool := false
  caCertsList : String := ""
  qlogPath : String := ""
  workPath : String := ""
  maxConcurrentStreams : UInt64 := 64
  h3 : Http3Options := {}
  quic : QuicOptions := {}

/-! ## The marshalled block -/

/-- The addresses of the strings, which the runtime copies for the call. -/
structure StringPtrs where
  caCertsList : UInt64
  qlogPath : UInt64
  workPath : UInt64

/-- An `UnmanagedType.I1`. -/
def i1 (b : Bool) : List UInt8 := leBytes 1 b.toNat

/-- A `BOOL`, which a `bool` is without an attribute. -/
def bool4 (b : Bool) : List UInt8 := leBytes 4 b.toNat

def u8 (n : UInt64) : List UInt8 := leBytes 8 n.toNat

def Http3Options.members (o : Http3Options) : List (List UInt8) :=
  [u8 o.maxHeaderListSize, u8 o.qpackMaxTableCapacity, u8 o.qpackBlockedStreams, bool4 o.settingsEnableConnectProtocol]

def QuicOptions.members (o : QuicOptions) : List (List UInt8) :=
  [i1 o.disableActiveMigration, i1 o.enableEarlyData, leBytes 4 o.cc.toNat, u8 o.maxUdpPayloadSize,
    u8 o.maxIdelTimeout, u8 o.initialMaxData, u8 o.initialmaxStreamDataBidiLocal, u8 o.initialMaxStreamDataBidiRemote,
    u8 o.initialMaxStreamDataUni, u8 o.initialMaxStreamsBidi, u8 o.initialMaxStreamsUni, u8 o.maxConnectionWindowSize,
    u8 o.maxStreamWindowSize, u8 o.activeConnectionIdLimit]

namespace ConnectionOptions

/-- The members before the records. -/
def members (o : ConnectionOptions) (ptrs : StringPtrs) : List (List UInt8) :=
  [i1 o.verifyPeer, i1 o.enableQuicheLog, u8 ptrs.caCertsList, u8 ptrs.qlogPath, u8 ptrs.workPath,
    u8 o.maxConcurrentStreams]

/-- The members of a class with `LayoutKind.Sequential`; the two classes within it are embedded. -/
def places (o : ConnectionOptions) (ptrs : StringPtrs) : List (Nat × List UInt8) :=
  let h3 := placeEnd 0 (o.members ptrs)
  let quic := recordEnd h3 o.h3.members
  place 0 (o.members ptrs) ++ placeRecord h3 o.h3.members ++ placeRecord quic o.quic.members

/-- The block of bytes. -/
def marshal (o : ConnectionOptions) (ptrs : StringPtrs) : Mem := Mem.store (List.replicate 168 0) (o.places ptrs)

/-- What quiche is to be configured with. -/
def config (o : ConnectionOptions) : Layout.ConfigOptions where
  verifyPeer := o.verifyPeer
  enableQuicheLog := o.enableQuicheLog
  verifyLocations := if o.caCertsList = "" then none else some o.caCertsList
  enableEarlyData := o.quic.enableEarlyData
  disableActiveMigration := o.quic.disableActiveMigration
  ccType := o.quic.cc.toNat
  maxIdleTimeout := o.quic.maxIdelTimeout.toNat
  maxUdpPayloadSize := o.quic.maxUdpPayloadSize.toNat
  initialMaxData := o.quic.initialMaxData.toNat
  initialMaxStreamDataBidiLocal := o.quic.initialmaxStreamDataBidiLocal.toNat
  initialMaxStreamDataBidiRemote := o.quic.initialMaxStreamDataBidiRemote.toNat
  initialMaxStreamDataUni := o.quic.initialMaxStreamDataUni.toNat
  initialMaxStreamsBidi := o.quic.initialMaxStreamsBidi.toNat
  initialMaxStreamsUni := o.quic.initialMaxStreamsUni.toNat
  maxConnectionWindowSize := o.quic.maxConnectionWindowSize.toNat
  maxStreamWindowSize := o.quic.maxStreamWindowSize.toNat
  activeConnectionIdLimit := o.quic.activeConnectionIdLimit.toNat
  maxHeaderListSize := o.h3.maxHeaderListSize.toNat
  qpackMaxTableCapacity := o.h3.qpackMaxTableCapacity.toNat
  qpackBlockedStreams := o.h3.qpackBlockedStreams.toNat
  settingsEnableConnectProtocol := o.h3.settingsEnableConnectProtocol

/-- What the connection logic is to read. -/
def native (o : ConnectionOptions) : QwfsOptions where
  caCertsList := o.caCertsList
  qlogPath := o.qlogPath
  workPath := o.workPath
  maxConcurrentStreams := o.maxConcurrentStreams.toNat
  disableActiveMigration := o.quic.disableActiveMigration
  enableEarlyData := o.quic.enableEarlyData

end ConnectionOptions

/-! ## SetOptions -/

/-- A member of `_options`, in a `QwfsOptions` of its own. -/
def Layout.within (f : Field) : Field := ⟨f.off - 16, f.size⟩

/-- What the connection logic reads of a `QwfsOptions`; `text` is the string at an address. -/
def Layout.readOptions (text : Nat → String) (m : Mem) : QwfsOptions where
  caCertsList := text (m.nat (within caCertsList))
  qlogPath := text (m.nat (within qlogPath))
  workPath := text (m.nat (within workPath))
  maxConcurrentStreams := m.nat (within maxConcurrentStreams)
  disableActiveMigration := m.flag (within disableActiveMigration)
  enableEarlyData := m.flag (within enableEarlyData)

/-- The function `SetOptions`, with the bytes of its argument. -/
def Placed.setOptions (p : Placed) (text : Nat → String) (options : Mem) : Placed :=
  if p.conn.phase ≠ .createSocket then p
  else { conn := p.conn.setOptions (Layout.readOptions text options), block := p.block.write 16 options }

/-- The runtime has put the strings there. -/
structure StringPtrs.Hold (ptrs : StringPtrs) (text : Nat → String) (o : ConnectionOptions) : Prop where
  caCertsList : text ptrs.caCertsList.toNat = o.caCertsList
  qlogPath : text ptrs.qlogPath.toNat = o.qlogPath
  workPath : text ptrs.workPath.toNat = o.workPath

/-! ## What is set is read -/

section RoundTrip
variable {o : ConnectionOptions} {ptrs : StringPtrs} {text : Nat → String} {p : Placed} {f : Field} {n k v : Nat}

@[simp] theorem length_i1 (b : Bool) : (i1 b).length = 1 := length_leBytes 1 _
@[simp] theorem length_bool4 (b : Bool) : (bool4 b).length = 4 := length_leBytes 4 _
@[simp] theorem length_u8 (n : UInt64) : (u8 n).length = 8 := length_leBytes 8 _

/-- The places are those of the C++ structure. -/
theorem places_eq (o : ConnectionOptions) (ptrs : StringPtrs) : o.places ptrs =
    [(0, i1 o.verifyPeer), (1, i1 o.enableQuicheLog), (8, u8 ptrs.caCertsList), (16, u8 ptrs.qlogPath),
      (24, u8 ptrs.workPath), (32, u8 o.maxConcurrentStreams), (40, u8 o.h3.maxHeaderListSize),
      (48, u8 o.h3.qpackMaxTableCapacity), (56, u8 o.h3.qpackBlockedStreams),
      (64, bool4 o.h3.settingsEnableConnectProtocol), (72, i1 o.quic.disableActiveMigration),
      (73, i1 o.quic.enableEarlyData), (76, leBytes 4 o.quic.cc.toNat), (80, u8 o.quic.maxUdpPayloadSize),
      (88, u8 o.quic.maxIdelTimeout), (96, u8 o.quic.initialMaxData), (104, u8 o.quic.initialmaxStreamDataBidiLocal),
      (112, u8 o.quic.initialMaxStreamDataBidiRemote), (120, u8 o.quic.initialMaxStreamDataUni),
      (128, u8 o.quic.initialMaxStreamsBidi), (136, u8 o.quic.initialMaxStreamsUni),
      (144, u8 o.quic.maxConnectionWindowSize), (152, u8 o.quic.maxStreamWindowSize),
      (160, u8 o.quic.activeConnectionIdLimit)] := by
  simp [ConnectionOptions.places, ConnectionOptions.members, Http3Options.members, QuicOptions.members, place,
    placeEnd, placeRecord, recordEnd, alignment, alignUp]

theorem ascends_places (o : ConnectionOptions) (ptrs : StringPtrs) : Ascends 0 (o.places ptrs) 168 := by
  have hmembers : ∀ bs ∈ o.members ptrs, 0 < bs.length := by simp [ConnectionOptions.members]
  have hh3 : ∀ bs ∈ o.h3.members, 0 < bs.length := by simp [Http3Options.members]
  have hquic : ∀ bs ∈ o.quic.members, 0 < bs.length := by simp [QuicOptions.members]
  have hend : recordEnd (recordEnd (placeEnd 0 (o.members ptrs)) o.h3.members) o.quic.members = 168 := by
    simp [ConnectionOptions.members, Http3Options.members, QuicOptions.members, placeEnd, recordEnd, alignment,
      alignUp]
  have hall := ((ascends_place hmembers 0).append (ascends_placeRecord hh3 _)).append (ascends_placeRecord hquic _)
  rwa [hend] at hall

theorem length_marshal (o : ConnectionOptions) (ptrs : StringPtrs) : (o.marshal ptrs).length = 168 := by
  rw [ConnectionOptions.marshal, Mem.length_store, List.length_replicate]

/-- The lowest bytes of a member. -/
theorem nat_marshal (hmem : (f.off - 16, leBytes n v) ∈ o.places ptrs) (hk : f.size ≤ n) :
    (o.marshal ptrs).nat (Layout.within f) = v % 256 ^ f.size :=
  Mem.nat_store (ascends_places o ptrs) (by rw [List.length_replicate]) hmem hk

theorem nat_u8 {x : UInt64} (hmem : (f.off - 16, u8 x) ∈ o.places ptrs) (hf : f.size = 8) :
    (o.marshal ptrs).nat (Layout.within f) = x.toNat := by
  rw [nat_marshal hmem (Nat.le_of_eq hf), hf]
  exact Nat.mod_eq_of_lt x.toNat_lt

/-- A flag is read as it was, whether it was marshalled to one byte or to four. -/
theorem flag_bool {b : Bool} (hmem : (f.off - 16, leBytes n b.toNat) ∈ o.places ptrs) (hf : f.size = 1) (hn : 1 ≤ n) :
    (o.marshal ptrs).flag (Layout.within f) = b := by
  rw [Mem.flag, nat_marshal hmem (hf ▸ hn), hf]
  cases b <;> rfl

/-- A member of the copy is that of the block. -/
theorem nat_setOptions (text : Nat → String) (hphase : p.conn.phase = .createSocket)
    (hsize : p.block.length = Layout.size) (hf : 16 ≤ f.off ∧ f.off + f.size ≤ 184) :
    (p.setOptions text (o.marshal ptrs)).block.nat f = (o.marshal ptrs).nat (Layout.within f) := by
  have hblock : (p.setOptions text (o.marshal ptrs)).block = p.block.write 16 (o.marshal ptrs) := by
    rw [Placed.setOptions, if_neg (not_not.2 hphase)]
  have hread : (p.block.write 16 (o.marshal ptrs)).read ⟨16 + (f.off - 16), f.size⟩ =
      Mem.read (o.marshal ptrs) ⟨f.off - 16, f.size⟩ :=
    Mem.read_write_inside (by rw [length_marshal]; omega) (by rw [length_marshal, hsize]; decide)
  rw [Nat.add_sub_cancel' hf.1] at hread
  rw [hblock, Mem.nat, Mem.nat]
  exact congrArg _ hread

theorem flag_setOptions (text : Nat → String) (hphase : p.conn.phase = .createSocket)
    (hsize : p.block.length = Layout.size) (hf : 16 ≤ f.off ∧ f.off + f.size ≤ 184) :
    (p.setOptions text (o.marshal ptrs)).block.flag f = (o.marshal ptrs).flag (Layout.within f) := by
  rw [Mem.flag, Mem.flag, nat_setOptions text hphase hsize hf]

/-- Every option is read as it was set. -/
theorem configOptions_setOptions (text : Nat → String) (hphase : p.conn.phase = .createSocket)
    (hsize : p.block.length = Layout.size) :
    Layout.configOptions o.caCertsList (p.setOptions text (o.marshal ptrs)).block = o.config := by
  have hu8 : ∀ (i : Nat) (f : Field) (x : UInt64), (o.places ptrs)[i]? = some (f.off - 16, u8 x) → f.size = 8 →
      (o.marshal ptrs).nat (Layout.within f) = x.toNat := fun i f x hmem hf =>
    nat_u8 (List.mem_of_getElem? hmem) hf
  have hflag : ∀ (i n : Nat) (f : Field) (b : Bool), (o.places ptrs)[i]? = some (f.off - 16, leBytes n b.toNat) →
      f.size = 1 → 1 ≤ n → (o.marshal ptrs).flag (Layout.within f) = b := fun i n f b hmem hf hn =>
    flag_bool (List.mem_of_getElem? hmem) hf hn
  have hcc : (o.marshal ptrs).nat (Layout.within Layout.ccType) = o.quic.cc.toNat := by
    have hmem : (o.places ptrs)[12]? = some (76, leBytes 4 o.quic.cc.toNat) := by rw [places_eq]; rfl
    rw [nat_marshal (List.mem_of_getElem? hmem) (Nat.le_refl 4)]
    cases o.quic.cc <;> rfl
  rw [places_eq] at hu8 hflag
  unfold Layout.configOptions
  simp (disch := decide) only [nat_setOptions text hphase hsize, flag_setOptions text hphase hsize]
  simp only [ConnectionOptions.config, Layout.ConfigOptions.mk.injEq]
  exact ⟨hflag 0 1 _ _ rfl rfl (by decide), hflag 1 1 _ _ rfl rfl (by decide), trivial,
    hflag 11 1 _ _ rfl rfl (by decide), hflag 10 1 _ _ rfl rfl (by decide), hcc, hu8 14 _ _ rfl rfl, hu8 13 _ _ rfl rfl, hu8 15 _ _ rfl rfl,
    hu8 16 _ _ rfl rfl, hu8 17 _ _ rfl rfl, hu8 18 _ _ rfl rfl, hu8 19 _ _ rfl rfl, hu8 20 _ _ rfl rfl,
    hu8 21 _ _ rfl rfl, hu8 22 _ _ rfl rfl, hu8 23 _ _ rfl rfl, hu8 6 _ _ rfl rfl, hu8 7 _ _ rfl rfl,
    hu8 8 _ _ rfl rfl, hflag 9 4 _ _ rfl rfl (by decide)⟩

/-- And the connection logic reads what was set. -/
theorem readOptions_marshal (hhold : ptrs.Hold text o) : Layout.readOptions text (o.marshal ptrs) = o.native := by
  have hmem : ∀ (i : Nat) (e : Nat × List UInt8), (o.places ptrs)[i]? = some e → e ∈ o.places ptrs := fun i e h =>
    List.mem_of_getElem? h
  have hcerts := nat_u8 (f := Layout.caCertsList) (hmem 2 (8, u8 ptrs.caCertsList) (by rw [places_eq]; rfl)) rfl
  have hqlog := nat_u8 (f := Layout.qlogPath) (hmem 3 (16, u8 ptrs.qlogPath) (by rw [places_eq]; rfl)) rfl
  have hwork := nat_u8 (f := Layout.workPath) (hmem 4 (24, u8 ptrs.workPath) (by rw [places_eq]; rfl)) rfl
  have hmax := nat_u8 (f := Layout.maxConcurrentStreams)
    (hmem 5 (32, u8 o.maxConcurrentStreams) (by rw [places_eq]; rfl)) rfl
  have hmigration := flag_bool (f := Layout.disableActiveMigration)
    (hmem 10 (72, i1 o.quic.disableActiveMigration) (by rw [places_eq]; rfl)) rfl (Nat.le_refl 1)
  have hearly := flag_bool (f := Layout.enableEarlyData)
    (hmem 11 (73, i1 o.quic.enableEarlyData) (by rw [places_eq]; rfl)) rfl (Nat.le_refl 1)
  rw [Layout.readOptions, hcerts, hqlog, hwork, hhold.caCertsList, hhold.qlogPath, hhold.workPath, hmax, hmigration,
    hearly]
  rfl

/-- The options that a caller sets arrive. What the connection logic works with is what was set, in the connection
and in its block; and so is what quiche is given, but for the two flags that an IPv6 local address runs over. -/
theorem options_arrive (hphase : p.conn.phase = .createSocket) (hsize : p.block.length = Layout.size)
    (hhold : ptrs.Hold text o) :
    (p.setOptions text (o.marshal ptrs)).conn.options = o.native ∧
    Stores (p.setOptions text (o.marshal ptrs)).block o.native ∧
    (∀ port addr io, (((p.setOptions text (o.marshal ptrs)).createSocket .ok (.inet port addr)).initializeQuiche io).2 =
      o.config) ∧
    ∀ port flowinfo addr scopeId io, (((p.setOptions text (o.marshal ptrs)).createSocket .ok
      (.inet6 port flowinfo addr scopeId)).initializeQuiche io).2 =
        { o.config with verifyPeer := addr 8 ≠ 0, enableQuicheLog := addr 9 ≠ 0 } := by
  have hconfig : Layout.configOptions o.caCertsList (p.setOptions text (o.marshal ptrs)).block = o.config :=
    configOptions_setOptions text hphase hsize
  have hsize' : (p.setOptions text (o.marshal ptrs)).block.length = Layout.size := by
    rw [Placed.setOptions, if_neg (not_not.2 hphase), Mem.length_write, hsize]
  have hconn : (p.setOptions text (o.marshal ptrs)).conn = p.conn.setOptions o.native := by
    rw [Placed.setOptions, if_neg (not_not.2 hphase), readOptions_marshal hhold]
  have hmem : (o.places ptrs)[5]? = some (32, u8 o.maxConcurrentStreams) := by rw [places_eq]; rfl
  have hmax := nat_u8 (f := Layout.maxConcurrentStreams) (List.mem_of_getElem? hmem) rfl
  rw [← nat_setOptions text hphase hsize (by decide)] at hmax
  have hcerts : (p.setOptions text (o.marshal ptrs)).conn.caCertsList = o.caCertsList := by rw [hconn]; rfl
  generalize p.setOptions text (o.marshal ptrs) = p' at hconfig hsize' hconn hmax hcerts ⊢
  refine ⟨by rw [hconn]; rfl, ?_, fun port addr io => ?_, fun port flowinfo addr scopeId io => ?_⟩
  · exact ⟨hmax, congrArg Layout.ConfigOptions.disableActiveMigration hconfig,
      congrArg Layout.ConfigOptions.enableEarlyData hconfig⟩
  · rw [Placed.initializeQuiche, caCertsList_createSocket, hcerts, configOptions_createSocket hsize', hconfig]
    have hverify : p'.block.flag Layout.verifyPeer = o.verifyPeer := congrArg Layout.ConfigOptions.verifyPeer hconfig
    have hlog : p'.block.flag Layout.enableQuicheLog = o.enableQuicheLog :=
      congrArg Layout.ConfigOptions.enableQuicheLog hconfig
    rw [Placed.flagsWith, hverify, hlog]
    rfl
  · rw [Placed.initializeQuiche, caCertsList_createSocket, hcerts, configOptions_createSocket hsize', hconfig]
    rfl

end RoundTrip

/-- The default options of Nhh3Sharp.cs with a list of certificates, for a new connection. -/
def defaultOptions : ConnectionOptions := { caCertsList := "w" }

def stringPtrs : StringPtrs := ⟨8192, 4096, 4096⟩

theorem options_arrive_default :
    (((checkingPeer.setOptions (fun p => if p = 8192 then "w" else "") (defaultOptions.marshal stringPtrs)).createSocket
      .ok (.inet 50000 0x7f000001)).initializeQuiche {}).2 = defaultOptions.config :=
  (options_arrive (p := checkingPeer) rfl checkingPeer_size ⟨rfl, rfl, rfl⟩).2.2.1 50000 0x7f000001 {}

end Nhh3
