import BluetoothHci.Buffer
import BluetoothHci.Js

/-!
# Packets

Opcodes and the framers: `HciCmd.buildCommand`, the older `Hci.buildBuffer` (here in
`LegacyHci`, the older of the two `Hci` classes) and the ACL packet of `Hci.sendAclData`.
`HciPacketType.ts` and `HciOgfOcf.ts` are not among the sources; the packet types and groups
are taken from the spec.
-/

set_option autoImplicit false

namespace BluetoothHci

/-- Modelled from the spec: `HciPacketType` of `HciPacketType.ts`, the kind of packet the
transport carries (§3: command, ACL data, event). -/
inductive HciPacketType where
  | hciCommand
  | hciAclData
  | hciEvent
  deriving DecidableEq, Repr

/-- Modelled from the spec: the opcode groups `HciOgf` of `HciOgfOcf.ts` (§6). -/
inductive HciOgf where
  | linkControlCommands
  | controlAndBasebandCommands
  | informationParameters
  | statusParameters
  | leControllerCommands
  deriving DecidableEq, Repr

@[inherit_doc HciOgf]
def HciOgf.toInt : HciOgf → Int
  | .linkControlCommands => 0x01
  | .controlAndBasebandCommands => 0x03
  | .informationParameters => 0x04
  | .statusParameters => 0x05
  | .leControllerCommands => 0x08

/-- The `{ ogf, ocf }` pair of `HciOpcode.build` and `HciOpcode.expand`. -/
structure HciOpcode where
  ogf : Int
  ocf : Int
  deriving DecidableEq, Repr

namespace HciOpcode

/-- `opcode.ogf << 10 | opcode.ocf` -/
def build (opcode : HciOpcode) : Int := Js.or (Js.shl opcode.ogf 10) opcode.ocf

/-- `{ ogf: opcode >> 10, ocf: opcode & 1023 }` -/
def expand (opcode : Int) : HciOpcode := ⟨Js.sar opcode 10, Js.and opcode 1023⟩

end HciOpcode

/-- `Command` of `HciCmd.ts`: an opcode, the connection handle its completion must carry,
and the parameters. -/
structure Command where
  opcode : Int
  connHandle : Option Int
  payload : Option Buffer
  deriving DecidableEq, Repr

/-- `HciCommand` of the older `Hci`. -/
structure HciCommand where
  opcode : Int
  params : Option Buffer
  deriving DecidableEq, Repr

/-- `payload?.length ?? 0` -/
def payloadLength (payload : Option Buffer) : Nat := (payload.map Buffer.length).getD 0

/-- `HciCmd.buildCommand`: opcode, length byte, then the parameters. -/
def HciCmd.buildCommand (cmd : Command) : Except HostError Buffer := do
  let payloadLength := payloadLength cmd.payload
  let buffer := Buffer.allocUnsafe (3 + payloadLength)
  let o := 0
  let (buffer, o) ← buffer.writeUIntLE cmd.opcode o 2
  let (buffer, _) ← buffer.writeUIntLE payloadLength o 1
  match cmd.payload with
  | some payload => pure (if payloadLength > 0 then (payload.copy buffer 3).1 else buffer)
  | none => pure buffer

/-- `Hci.buildBuffer` of the older `Hci`. -/
def LegacyHci.buildBuffer (cmd : HciCommand) : Except HostError Buffer := do
  let payloadLength := payloadLength cmd.params
  let buffer := Buffer.allocUnsafe (3 + payloadLength)
  let (buffer, _) ← buffer.writeUInt16LE cmd.opcode 0
  let (buffer, _) ← buffer.writeUInt8 payloadLength 2
  match cmd.params with
  | some params => pure (if payloadLength > 0 then (params.copy buffer 3).1 else buffer)
  | none => pure buffer

/-- `AclDataBoundary` of the newer `Hci`. -/
inductive AclDataBoundary where
  | firstNoFlushFrag
  | nextFrag
  | firstFrag
  | complete
  deriving DecidableEq, Repr

def AclDataBoundary.toInt : AclDataBoundary → Int
  | .firstNoFlushFrag => 0
  | .nextFrag => 1
  | .firstFrag => 2
  | .complete => 3

/-- `AclDataBroadcast` of the newer `Hci`. -/
inductive AclDataBroadcast where
  | pointToPoint
  | broadcast
  deriving DecidableEq, Repr

def AclDataBroadcast.toInt : AclDataBroadcast → Int
  | .pointToPoint => 0
  | .broadcast => 1

/-- The `params` of `Hci.sendAclData`. -/
structure AclDataParams where
  boundary : AclDataBoundary
  broadcast : AclDataBroadcast
  data : Buffer
  deriving DecidableEq, Repr

/-- The packet `Hci.sendAclData` hands to `send`: a header packing the handle with the
boundary and broadcast flags, the data length, then the data. -/
def Hci.sendAclData (handle : Int) (params : AclDataParams) :
    Except HostError (HciPacketType × Buffer) := do
  let aclHdrSize := 4
  let hdr := Js.or (Js.or (Js.shl handle 0) (Js.shl params.boundary.toInt 12))
    (Js.shl params.broadcast.toInt 14)
  let totalSize := aclHdrSize + params.data.length
  let buffer := Buffer.allocUnsafe totalSize
  let (buffer, _) ← buffer.writeUInt16LE hdr 0
  let (buffer, _) ← buffer.writeUInt16LE params.data.length 2
  pure (.hciAclData, (params.data.copy buffer aclHdrSize).1)

end BluetoothHci

/-! ## Opcodes -/

namespace BluetoothHci

private theorem HciOpcode.build_eq {ogf ocf : Nat} (ogfSmall : ogf < 64) (ocfSmall : ocf < 1024) :
    HciOpcode.build ⟨ogf, ocf⟩ = (ogf * 2 ^ 10 + ocf : Nat) := by
  rw [HciOpcode.build, show (10 : Int) = (10 : Nat) from rfl, Js.shl_natCast (by omega) (by omega),
    Js.or_eq_add (by omega) (by omega)]

private theorem HciOpcode.expand_eq {opcode : Nat} (small : opcode < 2 ^ 16) :
    HciOpcode.expand opcode = ⟨(opcode / 2 ^ 10 : Nat), (opcode % 2 ^ 10 : Nat)⟩ := by
  rw [HciOpcode.expand, show (10 : Int) = (10 : Nat) from rfl, Js.sar_natCast (by omega) (by omega),
    show (1023 : Int) = (2 ^ 10 - 1 : Nat) from rfl, Js.and_low_bits (by omega) (by omega)]

private theorem HciOpcode.expand_build {ogf ocf : Nat} (ogfSmall : ogf < 64) (ocfSmall : ocf < 1024) :
    HciOpcode.expand (HciOpcode.build ⟨ogf, ocf⟩) = ⟨ogf, ocf⟩ := by
  rw [build_eq ogfSmall ocfSmall, expand_eq (by omega)]
  congr 2 <;> omega

/-! ## Framing -/

private theorem header_cells (first second : List UInt8) (offset headerLength n : Nat)
    (firstLength : first.length = offset) (fits : offset + second.length = headerLength) :
    (((Buffer.allocUnsafe (headerLength + n)).store 0 (first.map some)).store offset
      (second.map some)).cells = (first ++ second).map some ++ List.replicate n none := by
  rw [Buffer.cells_store (by simp; omega), Buffer.cells_store (by simp; omega)]
  simp [firstLength, List.take_append_of_le_length, List.drop_append_eq_append_drop,
    List.drop_eq_nil_of_le, show headerLength + n - offset - second.length = n by omega]

private theorem body_cells {packet : Buffer} {header body : List (Option UInt8)}
    (cells : packet.cells = header ++ List.replicate body.length none) :
    (packet.store header.length body).cells = header ++ body := by
  have fits : packet.length = header.length + body.length := by
    rw [← Buffer.length_cells, cells]; simp
  rw [Buffer.cells_store (by omega), cells, List.take_left' rfl,
    List.drop_eq_nil_of_le (by simp), List.append_nil]

/-- The older framer is the newer one: both write the opcode in two bytes, then the length. -/
theorem LegacyHci.buildBuffer_eq_buildCommand (opcode : Int) (connHandle : Option Int)
    (payload : Option Buffer) :
    LegacyHci.buildBuffer ⟨opcode, payload⟩ = HciCmd.buildCommand ⟨opcode, connHandle, payload⟩ := by
  simp only [LegacyHci.buildBuffer, HciCmd.buildCommand, Buffer.writeUInt16LE, Buffer.writeUInt8]
  cases written : (Buffer.allocUnsafe (3 + payloadLength payload)).writeUIntLE opcode 0 2 with
  | error => rfl
  | ok result =>
      obtain ⟨buffer, offset⟩ := result
      obtain ⟨-, rfl, -⟩ := Buffer.writeIntegerLE_eq_ok.mp written
      rfl

/-- A framed command is its opcode in two bytes, its length byte, then its parameters, and
the three writes tile the packet. -/
theorem HciCmd.buildCommand_eq_ok {cmd : Command} {packet : Buffer}
    (built : HciCmd.buildCommand cmd = .ok packet) :
    (0 ≤ cmd.opcode ∧ cmd.opcode < 2 ^ 16 ∧ payloadLength cmd.payload < 2 ^ 8) ∧
      packet.cells = (leBytes 2 cmd.opcode.toNat ++ leBytes 1 (payloadLength cmd.payload)).map some ++
        (cmd.payload.map Buffer.cells).getD [] ∧ packet.Tiled := by
  obtain ⟨opcode, connHandle, payload⟩ := cmd
  simp only [HciCmd.buildCommand, except_bind_eq_ok, Buffer.writeUIntLE, Buffer.writeIntegerLE_eq_ok,
    Prod.exists, and_assoc, exists_and_left, exists_eq_left] at built
  obtain ⟨-, -, nonneg, fits, -, -, -, -, lengthFits, -, built⟩ := built
  have opcodeMod : opcode % 2 ^ (8 * 2) = opcode := Int.emod_eq_of_lt nonneg (by omega)
  have lengthMod : ((payloadLength payload : Nat) : Int) % 2 ^ (8 * 1) = payloadLength payload :=
    Int.emod_eq_of_lt (by omega) (by omega)
  have header := header_cells (leBytes 2 opcode.toNat) (leBytes 1 (payloadLength payload)) 2 3
    (payloadLength payload) (by simp) (by simp)
  rw [opcodeMod, lengthMod, Int.toNat_natCast, Nat.zero_add] at built
  dsimp only
  refine ⟨⟨nonneg, by omega, by omega⟩, ?_⟩
  rcases payload with _ | payload
  · cases built
    refine ⟨by simpa [payloadLength] using header, Buffer.tiled_of_chainEnd ?_⟩
    simp [ByteRange.chainEnd, payloadLength]
  · simp only [payloadLength, Option.map_some', Option.getD_some] at built header ⊢
    split at built
    · cases built
      rw [Buffer.copy_of_fits (by simp)]
      refine ⟨?_, Buffer.tiled_of_chainEnd ?_⟩
      · rw [← Buffer.length_cells] at header
        simpa using body_cells header
      · simp [ByteRange.chainEnd]
    · rename_i notNonempty
      have zero : payload.length = 0 := by omega
      cases built
      have empty : payload.cells = [] := List.eq_nil_of_length_eq_zero zero
      refine ⟨by simpa [empty, zero] using header, Buffer.tiled_of_chainEnd ?_⟩
      simp [ByteRange.chainEnd, zero]

theorem HciCmd.buildCommand_isOk {cmd : Command} (nonneg : 0 ≤ cmd.opcode) (fits : cmd.opcode < 2 ^ 16)
    (lengthFits : payloadLength cmd.payload < 2 ^ 8) : ∃ packet, HciCmd.buildCommand cmd = .ok packet := by
  obtain ⟨opcode, connHandle, payload⟩ := cmd
  simp only [HciCmd.buildCommand, except_bind_eq_ok, Buffer.writeUIntLE, Buffer.writeIntegerLE_eq_ok,
    Prod.exists, and_assoc, exists_and_left, exists_eq_left]
  dsimp only at nonneg fits lengthFits
  have fresh : 0 + 2 + 1 ≤ (Buffer.allocUnsafe (3 + payloadLength payload)).length := by simp
  refine ⟨by decide, by decide, nonneg, by omega, by omega, by decide, by decide, by positivity, by omega,
    by simp only [Buffer.length_store, fresh], ?_⟩
  rcases payload with _ | payload <;> exact ⟨_, rfl⟩

/-! ## ACL data -/

private theorem AclDataBoundary.toInt_natCast (boundary : AclDataBoundary) :
    ∃ value : Nat, value < 4 ∧ boundary.toInt = value := by
  cases boundary <;> exact ⟨_, by decide, rfl⟩

private theorem AclDataBroadcast.toInt_natCast (flag : AclDataBroadcast) :
    ∃ value : Nat, value < 2 ∧ flag.toInt = value := by
  cases flag <;> exact ⟨_, by decide, rfl⟩

/-- An ACL packet is its header, the data length and the data; the header gives back the
handle, the boundary flag and the broadcast flag. -/
theorem Hci.sendAclData_eq_ok {handle : Nat} (handleSmall : handle < 2 ^ 12) (params : AclDataParams)
    (dataFits : params.data.length < 2 ^ 16) :
    ∃ hdr packet, Hci.sendAclData handle params = .ok (.hciAclData, packet) ∧ hdr < 2 ^ 16 ∧
      packet.cells = (leBytes 2 hdr ++ leBytes 2 params.data.length).map some ++ params.data.cells ∧
      Js.and hdr 0xFFF = handle ∧ Js.and (Js.sar hdr 12) 3 = params.boundary.toInt ∧
      Js.sar hdr 14 = params.broadcast.toInt := by
  obtain ⟨boundary, boundarySmall, boundaryEq⟩ := params.boundary.toInt_natCast
  obtain ⟨flag, flagSmall, flagEq⟩ := params.broadcast.toInt_natCast
  have hdrEq : Js.or (Js.or (Js.shl handle 0) (Js.shl params.boundary.toInt 12))
      (Js.shl params.broadcast.toInt 14) = (flag * 2 ^ 14 + (boundary * 2 ^ 12 + handle) : Nat) := by
    rw [boundaryEq, flagEq, show (0 : Int) = (0 : Nat) from rfl, show (12 : Int) = (12 : Nat) from rfl,
      show (14 : Int) = (14 : Nat) from rfl, Js.shl_natCast (by omega) (by omega),
      Js.shl_natCast (by omega) (by omega), Js.shl_natCast (by omega) (by omega), Nat.pow_zero,
      Nat.mul_one, Js.or_comm (handle : Int), Js.or_eq_add handleSmall (by omega), Js.or_comm,
      Js.or_eq_add (by omega) (by omega)]
  refine ⟨flag * 2 ^ 14 + (boundary * 2 ^ 12 + handle), ?_⟩
  simp only [Hci.sendAclData, hdrEq, except_bind_eq_ok, Buffer.writeUInt16LE, Buffer.writeUIntLE,
    Buffer.writeIntegerLE_eq_ok, Prod.exists, and_assoc, exists_and_left, exists_eq_left, pure,
    Except.pure, Except.ok.injEq, Prod.mk.injEq, true_and, exists_eq_left']
  have small : flag * 2 ^ 14 + (boundary * 2 ^ 12 + handle) < 2 ^ 16 := by omega
  have header := header_cells (leBytes 2 (flag * 2 ^ 14 + (boundary * 2 ^ 12 + handle)))
    (leBytes 2 params.data.length) 2 4 params.data.length (by simp) (by simp)
  simp only [Int.emod_eq_of_lt (Int.natCast_nonneg _) (by omega : ((flag * 2 ^ 14 + (boundary * 2 ^ 12 +
    handle) : Nat) : Int) < 2 ^ (8 * 2)), Int.emod_eq_of_lt (Int.natCast_nonneg _)
    (by omega : (params.data.length : Int) < 2 ^ (8 * 2)), Int.toNat_natCast]
  have fresh : 2 + 2 ≤ (Buffer.allocUnsafe (4 + params.data.length)).length := by simp
  refine ⟨by decide, by decide, by positivity, by omega, by simp only [Buffer.length_allocUnsafe]; omega,
    by decide, by decide, by positivity, by omega, by simp only [Buffer.length_store, fresh], small, ?_, ?_, ?_, ?_⟩
  · rw [Buffer.copy_of_fits (by simp), ← Buffer.length_cells] at *
    simpa using body_cells header
  · rw [show (4095 : Int) = (2 ^ 12 - 1 : Nat) from rfl, Js.and_low_bits (by omega) (by omega)]
    omega
  · rw [show (12 : Int) = (12 : Nat) from rfl, Js.sar_natCast (by omega) (by omega),
      show (3 : Int) = (2 ^ 2 - 1 : Nat) from rfl, Js.and_low_bits (by omega) (by omega), boundaryEq]
    omega
  · rw [show (14 : Int) = (14 : Nat) from rfl, Js.sar_natCast (by omega) (by omega), flagEq]
    omega

/-- Both framers emit one packet: the opcode little-endian, the length byte, then the
parameters, and `expand` recovers the opcode's fields from its two bytes; parameters longer
than the length byte allows are refused by both. An ACL packet likewise gives back its handle
and flags from its header. -/
theorem framers_layout :
    (∀ (ogf ocf : Nat) (connHandle : Option Int) (payload : Option Buffer),
      ogf < 64 → ocf < 1024 → payloadLength payload ≤ 255 →
      ∃ packet, HciCmd.buildCommand ⟨HciOpcode.build ⟨ogf, ocf⟩, connHandle, payload⟩ = .ok packet ∧
        LegacyHci.buildBuffer ⟨HciOpcode.build ⟨ogf, ocf⟩, payload⟩ = .ok packet ∧
        packet.cells = (leBytes 2 (HciOpcode.build ⟨ogf, ocf⟩).toNat ++
          leBytes 1 (payloadLength payload)).map some ++ (payload.map Buffer.cells).getD [] ∧
        HciOpcode.expand (readLE (leBytes 2 (HciOpcode.build ⟨ogf, ocf⟩).toNat)) = ⟨ogf, ocf⟩) ∧
    (∀ (opcode : Int) (connHandle : Option Int) (payload : Option Buffer),
      255 < payloadLength payload →
      (∀ packet, HciCmd.buildCommand ⟨opcode, connHandle, payload⟩ ≠ .ok packet) ∧
        ∀ packet, LegacyHci.buildBuffer ⟨opcode, payload⟩ ≠ .ok packet) ∧
    (∀ (handle : Nat) (params : AclDataParams), handle < 2 ^ 12 → params.data.length ≤ 65535 →
      ∃ hdr packet, Hci.sendAclData handle params = .ok (.hciAclData, packet) ∧
        readLE (leBytes 2 hdr) = hdr ∧
        packet.cells = (leBytes 2 hdr ++ leBytes 2 params.data.length).map some ++ params.data.cells ∧
        Js.and hdr 0xFFF = handle ∧ Js.and (Js.sar hdr 12) 3 = params.boundary.toInt ∧
        Js.sar hdr 14 = params.broadcast.toInt) := by
  refine ⟨?_, ?_, ?_⟩
  · intro ogf ocf connHandle payload ogfSmall ocfSmall lengthFits
    have opcode := HciOpcode.build_eq ogfSmall ocfSmall
    obtain ⟨packet, built⟩ := @HciCmd.buildCommand_isOk ⟨HciOpcode.build ⟨ogf, ocf⟩, connHandle, payload⟩
      (by simp only [opcode]; omega) (by simp only [opcode]; omega)
      (by simpa using Nat.lt_succ_of_le lengthFits)
    refine ⟨packet, built, by rw [LegacyHci.buildBuffer_eq_buildCommand _ connHandle]; exact built,
      (HciCmd.buildCommand_eq_ok built).2.1, ?_⟩
    rw [opcode, Int.toNat_natCast, readLE_leBytes, Nat.mod_eq_of_lt (by omega), ← opcode,
      HciOpcode.expand_build ogfSmall ocfSmall]
  · intro opcode connHandle payload tooLong
    have refused : ∀ packet, HciCmd.buildCommand ⟨opcode, connHandle, payload⟩ ≠ .ok packet :=
      fun packet built => by have := (HciCmd.buildCommand_eq_ok built).1.2.2; simp at this; omega
    exact ⟨refused, fun packet => by rw [LegacyHci.buildBuffer_eq_buildCommand _ connHandle]; exact refused packet⟩
  · intro handle params handleSmall dataFits
    obtain ⟨hdr, packet, sent, small, cells, handleBits, boundaryBits, broadcastBits⟩ :=
      Hci.sendAclData_eq_ok handleSmall params (by omega)
    exact ⟨hdr, packet, sent, by rw [readLE_leBytes, Nat.mod_eq_of_lt (by omega)], cells, handleBits,
      boundaryBits, broadcastBits⟩

end BluetoothHci
