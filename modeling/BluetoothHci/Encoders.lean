import BluetoothHci.Packet
import BluetoothHci.Units
import BluetoothHci.Bitfield

/-!
# Command encoders

The command methods of both `Hci` classes build their parameters the same way: a buffer from
`Buffer.allocUnsafe`, then a run of integer writes, each at a fixed offset or at the offset
`o` the previous write returned, and at most one copy of the caller's data. The encoders are
written here in that shape, as an allocation size and a body of writes. When the ranges of a
body's writes lie end to end from `0` to the allocation size, every input the encoder accepts
leaves each byte of the buffer written exactly once. The older `leSetScanEnable` writes both
of its flags at the default offset `0`, so its second byte keeps whatever the heap held.
-/

set_option autoImplicit false

namespace BluetoothHci

/-- Where a write goes: at a fixed offset (a write called without one goes to `0`), or at
`o`, the offset the previous write returned. -/
inductive Place where
  | fixed (offset : Nat)
  | running
  deriving DecidableEq, Repr

/-- One statement of an encoder's body. -/
inductive Write where
  /-- `payload.writeUIntLE(value, offset, width)`, or `writeIntLE` when `signed`; at the
  running offset it is `o = payload.writeUIntLE(value, o, width)`. -/
  | field (place : Place) (signed : Bool) (value : Int) (width : Nat)
  /-- `source.copy(payload, offset)`. -/
  | copy (source : Buffer) (place : Place)
  deriving DecidableEq, Repr

namespace Place

def offset : Place → Nat → Nat
  | .fixed offset, _ => offset
  | .running, o => o

/-- The value of `o` after a write at this place that returned `stop`. -/
def next : Place → Nat → Nat → Nat
  | .fixed _, o, _ => o
  | .running, _, stop => stop

end Place

namespace Write

/-- `o = payload.writeUIntLE(value, o, width)`. -/
def uintLE (value : Int) (width : Nat) : Write := .field .running false value width

/-- `o = payload.writeIntLE(value, o, width)`. -/
def intLE (value : Int) (width : Nat) : Write := .field .running true value width

/-- `payload.writeUIntLE(value, offset, width)` with its result dropped. -/
def uintLEAt (value : Int) (offset width : Nat) : Write := .field (.fixed offset) false value width

def run (buffer : Buffer) (o : Nat) : Write → Except HostError (Buffer × Nat)
  | .field place signed value width => do
    let write := if signed then buffer.writeIntLE else buffer.writeUIntLE
    let (buffer, stop) ← write value (place.offset o) width
    pure (buffer, place.next o stop)
  | .copy source place => pure ((source.copy buffer (place.offset o)).1, o)

/-- The range a write covers in a buffer of `size` cells. -/
def range (size o : Nat) : Write → ByteRange
  | .field place _ _ width => ⟨place.offset o, width⟩
  | .copy source place => ⟨place.offset o, min source.length (size - place.offset o)⟩

/-- The value of `o` after a write. -/
def next (o : Nat) : Write → Nat
  | .field place _ _ width => place.next o (place.offset o + width)
  | .copy _ _ => o

/-- A copy reads caller data with no leftover heap in it. -/
def CopiesInitialized : Write → Prop
  | .field .. => True
  | .copy source _ => source.Initialized

end Write

/-- The body's writes in order, threading the buffer and `o`. -/
def runWrites (buffer : Buffer) (o : Nat) : List Write → Except HostError (Buffer × Nat)
  | [] => pure (buffer, o)
  | write :: rest => do
    let (buffer, o) ← write.run buffer o
    runWrites buffer o rest

/-- `const payload = Buffer.allocUnsafe(size); let o = 0;` then the body. -/
def encode (size : Nat) (body : List Write) : Except HostError Buffer := do
  let (payload, _) ← runWrites (Buffer.allocUnsafe size) 0 body
  pure payload

/-- The ranges a body's writes cover in a buffer of `size` cells, from `o`. -/
def layout (size : Nat) : Nat → List Write → List ByteRange
  | _, [] => []
  | o, write :: rest => write.range size o :: layout size (write.next o) rest

/-! ## What a body's writes do -/

private theorem copy_eq (source buffer : Buffer) (offset : Nat) :
    (source.copy buffer offset).1 =
      buffer.store offset (source.cells.take (min source.length (buffer.length - offset))) := rfl

private theorem Write.run_eq_ok {buffer written : Buffer} {o stop : Nat} {write : Write}
    (ran : write.run buffer o = .ok (written, stop)) :
    written.length = buffer.length ∧ written.writes = buffer.writes ++ [write.range buffer.length o] ∧
      stop = write.next o ∧ (buffer.Tracked → write.CopiesInitialized → written.Tracked) := by
  cases write with
  | field place signed value width =>
      simp only [run, except_bind_eq_ok, Prod.exists] at ran
      obtain ⟨stored, returned, wrote, ran⟩ := ran
      cases ran
      have fieldWrite : written = buffer.store (place.offset o)
          ((leBytes width (value % 2 ^ (8 * width)).toNat).map some) ∧
          returned = place.offset o + width := by
        cases signed <;> simp only [Buffer.writeIntLE, Buffer.writeUIntLE, Buffer.writeIntegerLE_eq_ok,
          if_true, if_false, Bool.false_eq_true] at wrote <;> exact ⟨wrote.1, wrote.2.1⟩
      obtain ⟨rfl, rfl⟩ := fieldWrite
      exact ⟨by simp, by simp [range], rfl, fun tracked _ => Buffer.tracked_store_some tracked _ _⟩
  | copy source place =>
      simp only [run, pure, Except.pure, Except.ok.injEq, Prod.mk.injEq] at ran
      obtain ⟨rfl, rfl⟩ := ran
      refine ⟨by simp [copy_eq], by simp [copy_eq, range], rfl, fun tracked initialized => ?_⟩
      rw [copy_eq]
      exact tracked.store _ fun cell member => initialized cell (List.mem_of_mem_take member)

theorem runWrites_eq_ok {buffer written : Buffer} {o stop : Nat} {body : List Write}
    (ran : runWrites buffer o body = .ok (written, stop)) :
    written.length = buffer.length ∧ written.writes = buffer.writes ++ layout buffer.length o body ∧
      (buffer.Tracked → (∀ write ∈ body, write.CopiesInitialized) → written.Tracked) := by
  induction body generalizing buffer o with
  | nil =>
      cases ran
      exact ⟨rfl, by simp [layout], fun tracked _ => tracked⟩
  | cons write rest ih =>
      simp only [runWrites, except_bind_eq_ok, Prod.exists] at ran
      obtain ⟨middle, next, first, ran⟩ := ran
      obtain ⟨sameLength, recorded, rfl, tracks⟩ := Write.run_eq_ok first
      obtain ⟨restLength, restRecorded, restTracks⟩ := ih ran
      refine ⟨restLength.trans sameLength, ?_, fun tracked copies => ?_⟩
      · rw [restRecorded, recorded, sameLength, layout, List.append_assoc, List.singleton_append]
      · exact restTracks (tracks tracked (copies write (List.mem_cons_self _ _)))
          fun other member => copies other (List.mem_cons_of_mem _ member)

/-- What a write leaves in its range of a buffer of `size` cells: the field's bytes, or as
much of the copied data as fits. -/
def Write.cells (size o : Nat) : Write → List (Option UInt8)
  | .field _ _ value width => (leBytes width (value % 2 ^ (8 * width)).toNat).map some
  | .copy source place => source.cells.take (min source.length (size - place.offset o))

theorem Write.length_cells (size o : Nat) (write : Write) :
    (write.cells size o).length = (write.range size o).length := by
  cases write <;> simp [Write.cells, Write.range]

private theorem Write.run_store {buffer written : Buffer} {o stop : Nat} {write : Write}
    (ran : write.run buffer o = .ok (written, stop)) :
    written = buffer.store (write.range buffer.length o).offset (write.cells buffer.length o) := by
  cases write with
  | field place signed value width =>
      simp only [run, except_bind_eq_ok, Prod.exists] at ran
      obtain ⟨stored, returned, wrote, ran⟩ := ran
      cases ran
      cases signed <;> simp only [Buffer.writeIntLE, Buffer.writeUIntLE, Buffer.writeIntegerLE_eq_ok,
        if_true, if_false, Bool.false_eq_true] at wrote <;> exact wrote.1
  | copy source place =>
      simp only [run, pure, Except.pure, Except.ok.injEq, Prod.mk.injEq] at ran
      obtain ⟨rfl, rfl⟩ := ran
      rfl

/-- What a body's writes leave, range after range. -/
def bodyCells (size : Nat) : Nat → List Write → List (Option UInt8)
  | _, [] => []
  | o, write :: rest => write.cells size o ++ bodyCells size (write.next o) rest

private theorem runWrites_cells {buffer written : Buffer} {o start stop : Nat} {body : List Write}
    (ran : runWrites buffer o body = .ok (written, stop))
    (laid : ByteRange.chainEnd start (layout buffer.length o body) = some buffer.length) :
    written.cells = buffer.cells.take start ++ bodyCells buffer.length o body := by
  induction body generalizing buffer o start with
  | nil =>
      cases ran
      simp only [layout, ByteRange.chainEnd, Option.some.injEq] at laid
      rw [laid, ← Buffer.length_cells, List.take_length, bodyCells, List.append_nil]
  | cons write rest ih =>
      simp only [runWrites, except_bind_eq_ok, Prod.exists] at ran
      obtain ⟨middle, next, first, ran⟩ := ran
      obtain ⟨sameLength, -, rfl, -⟩ := Write.run_eq_ok first
      simp only [layout, ByteRange.chainEnd] at laid
      split at laid
      · rename_i starts
        have fits := (ByteRange.chainEnd_spec laid).2.1
        rw [ih ran (by rwa [sameLength]), sameLength, Write.run_store first, starts,
          Buffer.cells_store (by rw [Write.length_cells]; omega),
          List.take_left' (by simp [Write.length_cells]; omega), bodyCells, List.append_assoc]
      · cases laid

/-- An encoder whose writes lie end to end over its buffer hands on their bytes, in order. -/
theorem encode_cells {size : Nat} {body : List Write} {payload : Buffer}
    (encoded : encode size body = .ok payload)
    (laid : ByteRange.chainEnd 0 (layout size 0 body) = some size) :
    payload.cells = bodyCells size 0 body := by
  simp only [encode, except_bind_eq_ok, Prod.exists, pure, Except.pure, Except.ok.injEq] at encoded
  obtain ⟨written, stop, ran, rfl⟩ := encoded
  have cells := runWrites_cells ran (by rw [Buffer.length_allocUnsafe]; exact laid)
  rwa [List.take_zero, List.nil_append, Buffer.length_allocUnsafe] at cells

/-- An encoder whose writes lie end to end over its buffer writes each byte exactly once, and
leaves no leftover heap in it when the data it copies has none. -/
theorem encode_tiled {size : Nat} {body : List Write} {payload : Buffer}
    (encoded : encode size body = .ok payload)
    (laid : ByteRange.chainEnd 0 (layout size 0 body) = some size) :
    payload.Tiled ∧ ((∀ write ∈ body, write.CopiesInitialized) → payload.Initialized) := by
  simp only [encode, except_bind_eq_ok, Prod.exists, pure, Except.pure, Except.ok.injEq] at encoded
  obtain ⟨written, stop, ran, rfl⟩ := encoded
  obtain ⟨sameLength, recorded, tracks⟩ := runWrites_eq_ok ran
  have tiled : written.Tiled := Buffer.tiled_of_chainEnd (by simpa [recorded, sameLength] using laid)
  exact ⟨tiled, fun copies => tiled.initialized (tracks (Buffer.tracked_allocUnsafe size) copies)⟩

/-- A field is one to six bytes wide, as Node's `byteLength` must be, and its value is within
the range its write accepts. -/
def Write.InRange : Write → Prop
  | .field _ signed value width =>
    1 ≤ width ∧ width ≤ 6 ∧
      if signed then -2 ^ (8 * width - 1) ≤ value ∧ value ≤ 2 ^ (8 * width - 1) - 1
      else 0 ≤ value ∧ value ≤ 2 ^ (8 * width) - 1
  | .copy .. => True

private theorem runWrites_isOk {buffer : Buffer} {o start : Nat} {body : List Write}
    (laid : ByteRange.chainEnd start (layout buffer.length o body) = some buffer.length)
    (inRange : ∀ write ∈ body, write.InRange) :
    ∃ written stop, runWrites buffer o body = .ok (written, stop) := by
  induction body generalizing buffer o start with
  | nil => exact ⟨buffer, o, rfl⟩
  | cons write rest ih =>
      have laidRest := laid
      simp only [layout, ByteRange.chainEnd] at laidRest
      split at laidRest
      · rename_i starts
        have ran : ∃ written stop, write.run buffer o = .ok (written, stop) := by
          cases write with
          | field place signed value width =>
              have fits : place.offset o + width ≤ buffer.length := by
                have := (ByteRange.chainEnd_spec laidRest).2.1
                simp only [Write.range] at starts this; omega
              have bounds := inRange _ (List.mem_cons_self _ _)
              simp only [Write.InRange] at bounds
              cases signed <;> simp only [Bool.false_eq_true, if_false, if_true] at bounds <;>
                obtain ⟨written, wrote⟩ :=
                  Buffer.writeIntegerLE_isOk bounds.1 bounds.2.1 bounds.2.2.1 bounds.2.2.2 fits <;>
                exact ⟨written.1, place.next o written.2, by
                  simp [Write.run, Buffer.writeIntLE, Buffer.writeUIntLE, wrote, bind, Except.bind]; rfl⟩
          | copy source place => exact ⟨_, _, rfl⟩
        obtain ⟨middle, next, first⟩ := ran
        obtain ⟨sameLength, -, rfl, -⟩ := Write.run_eq_ok first
        obtain ⟨written, stop, rest⟩ := ih (by rwa [sameLength])
          fun other member => inRange other (List.mem_cons_of_mem _ member)
        exact ⟨written, stop, by simp [runWrites, first, rest, bind, Except.bind]⟩
      · cases laidRest

theorem encode_isOk {size : Nat} {body : List Write}
    (laid : ByteRange.chainEnd 0 (layout size 0 body) = some size)
    (inRange : ∀ write ∈ body, write.InRange) : ∃ payload, encode size body = .ok payload := by
  obtain ⟨written, stop, ran⟩ := @runWrites_isOk (Buffer.allocUnsafe size) 0 0 body (by simpa using laid)
    inRange
  exact ⟨written, by simp [encode, ran, bind, Except.bind, pure, Except.pure]⟩

/-! ## The encoders of the older `Hci` -/

/-- `Buffer.alloc(size, fill)`. -/
def Buffer.alloc (size : Nat) (fill : UInt8) : Buffer := ⟨List.replicate size (some fill), []⟩

/-- `LeScanningPhy`: the ordinals of the scanning PHYs in the PHY bitmask. -/
def LeScanningPhy.phy1M : Int := 0x00

@[inherit_doc LeScanningPhy.phy1M]
def LeScanningPhy.phyCoded : Int := 0x02

namespace LegacyHci

/-- The payload of `leSetRandomAddress(randomAddress)`. -/
def leSetRandomAddress (randomAddress : Int) : Except HostError Buffer :=
  encode 6 [.uintLEAt randomAddress 0 6]

/-- The `params` of `leSetAdvertisingParameters`; enumerations are the numbers they stand for. -/
structure LeAdvertisingParameters where
  advertisingIntervalMinMs : ℚ
  advertisingIntervalMaxMs : ℚ
  advertisingType : Int
  ownAddressType : Int
  peerAddressType : Int
  peerAddress : Int
  advertisingChannelMap : List Int
  advertisingFilterPolicy : Int
  deriving DecidableEq, Repr

def leSetAdvertisingParameters (params : LeAdvertisingParameters) : Except HostError Buffer :=
  let advertisingIntervalMin := Js.round (params.advertisingIntervalMinMs / 0.625)
  let advertisingIntervalMax := Js.round (params.advertisingIntervalMaxMs / 0.625)
  let advertisingChannelMap := buildBitfield params.advertisingChannelMap
  encode 15 [.uintLE advertisingIntervalMin 2, .uintLE advertisingIntervalMax 2,
    .uintLE params.advertisingType 1, .uintLE params.ownAddressType 1,
    .uintLE params.peerAddressType 1, .uintLE params.peerAddress 6,
    .uintLE advertisingChannelMap 1, .uintLE params.advertisingFilterPolicy 1]

/-- The body `leSetAdvertisingData` and `leSetScanResponseData` share: at most 31 bytes of
data after their length, in a zero-filled buffer of 32. -/
def legacyData (data : Buffer) : Except HostError Buffer := do
  if data.length > 31 then throw (.hciError HciErrorCode.invalidCommandParameter)
  let payload := Buffer.alloc (1 + 31) 0
  let (payload, _) ← payload.writeUInt8 data.length 0
  pure (data.copy payload 1).1

def leSetAdvertisingData : Buffer → Except HostError Buffer := legacyData

def leSetScanResponseData : Buffer → Except HostError Buffer := legacyData

/-- `payload.writeUInt8(enable ? 1 : 0)`, at the default offset. -/
def leSetAdvertisingEnable (enable : Bool) : Except HostError Buffer :=
  encode 1 [.uintLEAt (if enable then 1 else 0) 0 1]

/-- Both `writeUInt8` calls go to the default offset. -/
def leSetScanEnable (enable : Bool) (filterDuplicates : Option Bool) : Except HostError Buffer :=
  encode 2 [.uintLEAt (if enable then 1 else 0) 0 1,
    .uintLEAt (if filterDuplicates = some true then 1 else 0) 0 1]

structure LeSuggestedDefaultDataLength where
  suggestedMaxTxOctets : Int
  suggestedMaxTxTime : Int
  deriving DecidableEq, Repr

def leWriteSuggestedDefaultDataLength (params : LeSuggestedDefaultDataLength) :
    Except HostError Buffer :=
  encode 4 [.uintLEAt params.suggestedMaxTxOctets 0 2, .uintLEAt params.suggestedMaxTxTime 2 2]

def leReadPhy (connectionHandle : Int) : Except HostError Buffer :=
  encode 2 [.uintLEAt connectionHandle 0 2]

/-- The `params` of `leSetDefaultPhy`: a PHY left out sets its "no preference" bit. -/
structure LeDefaultPhy where
  txPhys : Option Int
  rxPhys : Option Int
  deriving DecidableEq, Repr

def leSetDefaultPhy (params : LeDefaultPhy) : Except HostError Buffer :=
  let (allPhys, txPhys) := match params.txPhys with
    | none => (Js.or 0 (Js.shl 1 0), 0)
    | some txPhys => (0, Js.shl 1 txPhys)
  let (allPhys, rxPhys) := match params.rxPhys with
    | none => (Js.or allPhys (Js.shl 1 1), 0)
    | some rxPhys => (allPhys, Js.shl 1 rxPhys)
  encode 3 [.uintLE allPhys 1, .uintLE txPhys 1, .uintLE rxPhys 1]

structure LeAdvertisingSetRandomAddress where
  advertisingHandle : Int
  advertisingRandomAddress : Int
  deriving DecidableEq, Repr

def leSetAdvertisingSetRandomAddress (params : LeAdvertisingSetRandomAddress) :
    Except HostError Buffer :=
  encode 7 [.uintLE params.advertisingHandle 1, .uintLE params.advertisingRandomAddress 6]

structure LeExtendedAdvertisingParameters where
  advertisingHandle : Int
  advertisingEventProperties : List Int
  primaryAdvertisingIntervalMinMs : ℚ
  primaryAdvertisingIntervalMaxMs : ℚ
  primaryAdvertisingChannelMap : List Int
  ownAddressType : Int
  peerAddressType : Int
  peerAddress : Int
  advertisingFilterPolicy : Int
  advertisingTxPower : Option Int
  primaryAdvertisingPhy : Int
  secondaryAdvertisingMaxSkip : Int
  secondaryAdvertisingPhy : Int
  advertisingSid : Int
  scanRequestNotificationEnable : Bool
  deriving DecidableEq, Repr

/-- A missing `advertisingTxPower` is sent as `0x7F`, "no preference". -/
def leSetExtendedAdvertisingParameters (params : LeExtendedAdvertisingParameters) :
    Except HostError Buffer :=
  let advertisingEventProperties := buildBitfield params.advertisingEventProperties
  let primaryAdvertisingIntervalMin := Js.round (params.primaryAdvertisingIntervalMinMs / 0.625)
  let primaryAdvertisingIntervalMax := Js.round (params.primaryAdvertisingIntervalMaxMs / 0.625)
  let primaryAdvertisingChannelMap := buildBitfield params.primaryAdvertisingChannelMap
  let advertisingTxPower := params.advertisingTxPower.getD 0x7F
  let scanRequestNotificationEnable := if params.scanRequestNotificationEnable then 1 else 0
  encode 25 [.uintLE params.advertisingHandle 1, .uintLE advertisingEventProperties 2,
    .uintLE primaryAdvertisingIntervalMin 3, .uintLE primaryAdvertisingIntervalMax 3,
    .uintLE primaryAdvertisingChannelMap 1, .uintLE params.ownAddressType 1,
    .uintLE params.peerAddressType 1, .uintLE params.peerAddress 6,
    .uintLE params.advertisingFilterPolicy 1, .intLE advertisingTxPower 1,
    .uintLE params.primaryAdvertisingPhy 1, .uintLE params.secondaryAdvertisingMaxSkip 1,
    .uintLE params.secondaryAdvertisingPhy 1, .uintLE params.advertisingSid 1,
    .uintLE scanRequestNotificationEnable 1]

/-- The `params` of `leSetExtendedAdvertisingData` and `leSetExtendedScanResponseData`. -/
structure LeExtendedData where
  advertisingHandle : Int
  operation : Int
  fragment : Bool
  data : Buffer
  deriving DecidableEq, Repr

/-- The body `leSetExtendedAdvertisingData` and `leSetExtendedScanResponseData` share: the
data after four one-byte fields, the last its length. -/
def extendedData (params : LeExtendedData) : Except HostError Buffer :=
  encode (4 + params.data.length) [.uintLE params.advertisingHandle 1, .uintLE params.operation 1,
    .uintLE (if params.fragment then 0 else 1) 1, .uintLE params.data.length 1,
    .copy params.data .running]

def leSetExtendedAdvertisingData : LeExtendedData → Except HostError Buffer := extendedData

def leSetExtendedScanResponseData : LeExtendedData → Except HostError Buffer := extendedData

structure LeScanningPhyParameters where
  type : Int
  intervalMs : ℚ
  windowMs : ℚ
  deriving DecidableEq, Repr

structure LeExtendedScanParameters where
  ownAddressType : Int
  scanningFilterPolicy : Int
  phy1M : Option LeScanningPhyParameters
  phyCoded : Option LeScanningPhyParameters
  deriving DecidableEq, Repr

/-- `if (phy) { phys.count++; phys.bitmask |= 1 << ordinal; }` -/
def countScanningPhy (phys : Nat × Int) (phy : Option LeScanningPhyParameters) (ordinal : Int) :
    Nat × Int :=
  match phy with
  | some _ => (phys.1 + 1, Js.or phys.2 (Js.shl 1 ordinal))
  | none => phys

/-- `if (phy) { o = payload.writeUIntLE(field, o, width); }` -/
def phyField (phy : Option LeScanningPhyParameters) (field : LeScanningPhyParameters → Int)
    (width : Nat) : List Write :=
  (phy.map fun phy => Write.uintLE (field phy) width).toList

/-- Each selected PHY adds a type, an interval and a window, grouped by kind: all types, then
all intervals, then all windows. With no PHY selected it throws before allocating. -/
def leSetExtendedScanParameters (params : LeExtendedScanParameters) : Except HostError Buffer :=
  let phys := countScanningPhy (countScanningPhy (0, 0) params.phy1M LeScanningPhy.phy1M)
    params.phyCoded LeScanningPhy.phyCoded
  if phys.1 = 0 then throw (.hciError HciErrorCode.invalidCommandParameter)
  else
    encode (3 + phys.1 * (1 + 2 + 2))
      ([.uintLE params.ownAddressType 1, .uintLE params.scanningFilterPolicy 1, .uintLE phys.2 1] ++
        phyField params.phy1M (fun phy => phy.type) 1 ++
        phyField params.phyCoded (fun phy => phy.type) 1 ++
        phyField params.phy1M (fun phy => msToHciValue phy.intervalMs) 2 ++
        phyField params.phyCoded (fun phy => msToHciValue phy.intervalMs) 2 ++
        phyField params.phy1M (fun phy => msToHciValue phy.windowMs) 2 ++
        phyField params.phyCoded (fun phy => msToHciValue phy.windowMs) 2)

structure LeExtendedScanEnable where
  enable : Bool
  filterDuplicates : Int
  durationMs : Option ℚ
  periodSec : Option ℚ
  deriving DecidableEq, Repr

/-- `Math.round((params.durationMs ?? 0) / 10)` and `Math.round((params.periodSec ?? 0) / 1.28)`,
over exact rationals where the code divides doubles: a double quotient just below a half, such
as `18.56 / 1.28`, rounds down in the code and up here. -/
def leSetExtendedScanEnable (params : LeExtendedScanEnable) : Except HostError Buffer :=
  let duration := Js.round (params.durationMs.getD 0 / 10)
  let period := Js.round (params.periodSec.getD 0 / 1.28)
  encode (1 + 1 + 2 + 2) [.uintLE (if params.enable then 1 else 0) 1,
    .uintLE params.filterDuplicates 1, .uintLE duration 2, .uintLE period 2]

end LegacyHci

/-! ## The encoders of the newer `Hci` -/

namespace Hci

/-- `reason` defaults to `HciDisconnectReason.ConnTerminatedByRemoteUser`. -/
def disconnect (connectionHandle : Int) (reason : Option Int) : Except HostError Buffer :=
  encode 3 [.uintLEAt connectionHandle 0 2,
    .uintLEAt (reason.getD HciErrorCode.connTerminatedByRemoteUser) 2 1]

def readRemoteVersionInformation (connectionHandle : Int) : Except HostError Buffer :=
  encode 2 [.uintLEAt connectionHandle 0 2]

def leReadRemoteFeatures (connectionHandle : Int) : Except HostError Buffer :=
  encode 2 [.uintLEAt connectionHandle 0 2]

def leSetHostChannelClassification (channelMap : Int) : Except HostError Buffer :=
  encode 5 [.uintLEAt channelMap 0 5]

/-- `payload.writeUInt16LE(seconds)`, at the default offset. -/
def leSetResolvablePrivateAddressTimeout (seconds : Int) : Except HostError Buffer :=
  encode 2 [.uintLEAt seconds 0 2]

end Hci

/-! ## Layouts -/

@[simp] theorem Write.copiesInitialized_field (place : Place) (signed : Bool) (value : Int)
    (width : Nat) : (Write.field place signed value width).CopiesInitialized := trivial

@[simp] theorem Write.uintLE_eq (value : Int) (width : Nat) :
    Write.uintLE value width = .field .running false value width := rfl

@[simp] theorem Write.intLE_eq (value : Int) (width : Nat) :
    Write.intLE value width = .field .running true value width := rfl

@[simp] theorem Write.uintLEAt_eq (value : Int) (offset width : Nat) :
    Write.uintLEAt value offset width = .field (.fixed offset) false value width := rfl

private theorem tiled_initialized {buffer : Buffer}
    (laid : ByteRange.chainEnd 0 buffer.writes = some buffer.length) :
    buffer.Tiled ∧ (buffer.Tracked → buffer.Initialized) :=
  have tiled := Buffer.tiled_of_chainEnd laid
  ⟨tiled, tiled.initialized⟩

private theorem Hci.sendAclData_tiled {handle : Int} {params : AclDataParams} {packetType : HciPacketType}
    {packet : Buffer} (sent : Hci.sendAclData handle params = .ok (packetType, packet)) :
    packet.Tiled ∧ (params.data.Initialized → packet.Initialized) := by
  simp only [Hci.sendAclData, except_bind_eq_ok, Buffer.writeUInt16LE, Buffer.writeUIntLE,
    Buffer.writeIntegerLE_eq_ok, Prod.exists, and_assoc, exists_and_left, exists_eq_left, pure,
    Except.pure, Except.ok.injEq, Prod.mk.injEq] at sent
  obtain ⟨-, -, -, -, -, -, -, -, -, -, -, -, rfl⟩ := sent
  rw [Buffer.copy_of_fits (by simp)]
  refine (tiled_initialized (by simp [ByteRange.chainEnd])).imp_right
    fun initializedOf initialized => initializedOf ?_
  exact (Buffer.tracked_store_some (Buffer.tracked_store_some (Buffer.tracked_allocUnsafe _) _ _) _ _).store
    _ initialized

private theorem HciCmd.buildCommand_tiled {cmd : Command} {packet : Buffer}
    (built : HciCmd.buildCommand cmd = .ok packet) :
    packet.Tiled ∧ ((∀ payload ∈ cmd.payload, payload.Initialized) → packet.Initialized) := by
  obtain ⟨-, cells, tiled⟩ := HciCmd.buildCommand_eq_ok built
  refine ⟨tiled, fun initialized cell member => ?_⟩
  rw [cells, List.mem_append] at member
  rcases member with header | body
  · obtain ⟨byte, -, rfl⟩ := List.mem_map.mp header
    rfl
  · rcases found : cmd.payload with _ | payload
    · simp [found] at body
    · simp only [found, Option.map_some', Option.getD_some] at body
      exact initialized payload found cell body

/-- The command encoders that build their parameters in a `Buffer.allocUnsafe` buffer, each
with its input: those of the older `Hci`, its framer `buildBuffer`, those of the newer `Hci`
with `sendAclData`, and the framer `HciCmd.buildCommand`. -/
inductive AllocUnsafeEncoder where
  | leSetRandomAddress (randomAddress : Int)
  | leSetAdvertisingParameters (params : LegacyHci.LeAdvertisingParameters)
  | leSetAdvertisingEnable (enable : Bool)
  | leSetScanEnable (enable : Bool) (filterDuplicates : Option Bool)
  | leWriteSuggestedDefaultDataLength (params : LegacyHci.LeSuggestedDefaultDataLength)
  | leReadPhy (connectionHandle : Int)
  | leSetDefaultPhy (params : LegacyHci.LeDefaultPhy)
  | leSetAdvertisingSetRandomAddress (params : LegacyHci.LeAdvertisingSetRandomAddress)
  | leSetExtendedAdvertisingParameters (params : LegacyHci.LeExtendedAdvertisingParameters)
  | leSetExtendedAdvertisingData (params : LegacyHci.LeExtendedData)
  | leSetExtendedScanResponseData (params : LegacyHci.LeExtendedData)
  | leSetExtendedScanParameters (params : LegacyHci.LeExtendedScanParameters)
  | leSetExtendedScanEnable (params : LegacyHci.LeExtendedScanEnable)
  | buildBuffer (cmd : HciCommand)
  | disconnect (connectionHandle : Int) (reason : Option Int)
  | readRemoteVersionInformation (connectionHandle : Int)
  | leReadRemoteFeatures (connectionHandle : Int)
  | leSetHostChannelClassification (channelMap : Int)
  | leSetResolvablePrivateAddressTimeout (seconds : Int)
  | sendAclData (handle : Int) (params : AclDataParams)
  | buildCommand (cmd : Command)
  deriving DecidableEq, Repr

namespace AllocUnsafeEncoder

/-- The buffer the encoder hands on. -/
def run : AllocUnsafeEncoder → Except HostError Buffer
  | .leSetRandomAddress randomAddress => LegacyHci.leSetRandomAddress randomAddress
  | .leSetAdvertisingParameters params => LegacyHci.leSetAdvertisingParameters params
  | .leSetAdvertisingEnable enable => LegacyHci.leSetAdvertisingEnable enable
  | .leSetScanEnable enable filterDuplicates => LegacyHci.leSetScanEnable enable filterDuplicates
  | .leWriteSuggestedDefaultDataLength params => LegacyHci.leWriteSuggestedDefaultDataLength params
  | .leReadPhy connectionHandle => LegacyHci.leReadPhy connectionHandle
  | .leSetDefaultPhy params => LegacyHci.leSetDefaultPhy params
  | .leSetAdvertisingSetRandomAddress params => LegacyHci.leSetAdvertisingSetRandomAddress params
  | .leSetExtendedAdvertisingParameters params => LegacyHci.leSetExtendedAdvertisingParameters params
  | .leSetExtendedAdvertisingData params => LegacyHci.leSetExtendedAdvertisingData params
  | .leSetExtendedScanResponseData params => LegacyHci.leSetExtendedScanResponseData params
  | .leSetExtendedScanParameters params => LegacyHci.leSetExtendedScanParameters params
  | .leSetExtendedScanEnable params => LegacyHci.leSetExtendedScanEnable params
  | .buildBuffer cmd => LegacyHci.buildBuffer cmd
  | .disconnect connectionHandle reason => Hci.disconnect connectionHandle reason
  | .readRemoteVersionInformation connectionHandle => Hci.readRemoteVersionInformation connectionHandle
  | .leReadRemoteFeatures connectionHandle => Hci.leReadRemoteFeatures connectionHandle
  | .leSetHostChannelClassification channelMap => Hci.leSetHostChannelClassification channelMap
  | .leSetResolvablePrivateAddressTimeout seconds => Hci.leSetResolvablePrivateAddressTimeout seconds
  | .sendAclData handle params => (Hci.sendAclData handle params).map Prod.snd
  | .buildCommand cmd => HciCmd.buildCommand cmd

/-- The caller's buffers the encoder copies into its own. -/
def copied : AllocUnsafeEncoder → List Buffer
  | .leSetExtendedAdvertisingData params | .leSetExtendedScanResponseData params => [params.data]
  | .buildBuffer cmd => cmd.params.toList
  | .sendAclData _ params => [params.data]
  | .buildCommand cmd => cmd.payload.toList
  | _ => []

end AllocUnsafeEncoder

private theorem encode_fields {size : Nat} {body : List Write} {payload : Buffer}
    (encoded : encode size body = .ok payload)
    (laid : ByteRange.chainEnd 0 (layout size 0 body) = some size)
    (fields : ∀ write ∈ body, write.CopiesInitialized) : payload.Tiled ∧ payload.Initialized :=
  have tiled := encode_tiled encoded laid
  ⟨tiled.1, tiled.2 fields⟩

private theorem extendedData_tiled {params : LegacyHci.LeExtendedData} {payload : Buffer}
    (encoded : LegacyHci.extendedData params = .ok payload) :
    payload.Tiled ∧ (params.data.Initialized → payload.Initialized) := by
  have tiled := encode_tiled encoded (by
    simp [layout, Write.range, Write.next, Place.offset, Place.next, ByteRange.chainEnd])
  exact ⟨tiled.1, fun initialized => tiled.2 (by simpa [Write.CopiesInitialized] using initialized)⟩

private theorem leSetExtendedScanParameters_tiled {params : LegacyHci.LeExtendedScanParameters}
    {payload : Buffer} (encoded : LegacyHci.leSetExtendedScanParameters params = .ok payload) :
    payload.Tiled ∧ payload.Initialized := by
  obtain ⟨ownAddressType, scanningFilterPolicy, phy1M, phyCoded⟩ := params
  unfold LegacyHci.leSetExtendedScanParameters at encoded
  cases phy1M <;> cases phyCoded
  · cases encoded
  all_goals exact encode_fields encoded rfl (by simp [LegacyHci.phyField])

/-- Every encoder but the older `leSetScanEnable` lays its writes end to end over its buffer:
an input it accepts has each byte written exactly once, and no leftover heap in the buffer
when the caller's data it copies has none. -/
theorem allocUnsafeEncoder_tiled (encoder : AllocUnsafeEncoder)
    (notScanEnable : ∀ enable filterDuplicates, encoder ≠ .leSetScanEnable enable filterDuplicates)
    {payload : Buffer} (encoded : encoder.run = .ok payload) :
    payload.Tiled ∧ ((∀ data ∈ encoder.copied, data.Initialized) → payload.Initialized) := by
  cases encoder with
  | leSetScanEnable enable filterDuplicates => exact absurd rfl (notScanEnable enable filterDuplicates)
  | leSetExtendedAdvertisingData params | leSetExtendedScanResponseData params =>
      have tiled := extendedData_tiled encoded
      exact ⟨tiled.1, fun initialized => tiled.2 (initialized _ (List.mem_singleton_self _))⟩
  | leSetExtendedScanParameters params =>
      have tiled := leSetExtendedScanParameters_tiled encoded
      exact ⟨tiled.1, fun _ => tiled.2⟩
  | buildBuffer cmd =>
      obtain ⟨opcode, params⟩ := cmd
      rw [AllocUnsafeEncoder.run, LegacyHci.buildBuffer_eq_buildCommand _ none] at encoded
      have tiled := HciCmd.buildCommand_tiled encoded
      exact ⟨tiled.1, fun initialized => tiled.2 fun data found =>
        initialized data (by simpa [AllocUnsafeEncoder.copied] using found)⟩
  | sendAclData handle params =>
      simp only [AllocUnsafeEncoder.run, Except.map] at encoded
      split at encoded
      · cases encoded
      · rename_i sent
        cases encoded
        have tiled := Hci.sendAclData_tiled sent
        exact ⟨tiled.1, fun initialized => tiled.2 (initialized _ (List.mem_singleton_self _))⟩
  | buildCommand cmd =>
      have tiled := HciCmd.buildCommand_tiled encoded
      exact ⟨tiled.1, fun initialized => tiled.2 fun data found =>
        initialized data (by simpa [AllocUnsafeEncoder.copied] using found)⟩
  | _ =>
      have fields := encode_fields encoded rfl (by simp)
      exact ⟨fields.1, fun _ => fields.2⟩

/-- `leReadPhy` on handle `0x0040` writes the handle over its whole buffer. -/
theorem allocUnsafeEncoder_tiled_leReadPhy :
    (AllocUnsafeEncoder.leReadPhy 0x0040).run = .ok ⟨[some 0x40, some 0], [⟨0, 2⟩]⟩ ∧
      Buffer.Tiled ⟨[some 0x40, some 0], [⟨0, 2⟩]⟩ ∧ Buffer.Initialized ⟨[some 0x40, some 0], [⟨0, 2⟩]⟩ :=
  have tiled := allocUnsafeEncoder_tiled (.leReadPhy 0x0040) (fun _ _ same => by cases same) rfl
  ⟨rfl, tiled.1, tiled.2 nofun⟩

/-- For every input, both flags of the older `leSetScanEnable` land in byte `0`: its two
writes overlap, and byte `1` keeps the heap's contents. -/
theorem leSetScanEnable_second_byte_unwritten (enable : Bool) (filterDuplicates : Option Bool) :
    ∃ payload, LegacyHci.leSetScanEnable enable filterDuplicates = .ok payload ∧
      payload.cells = [some (if filterDuplicates = some true then 1 else 0), none] ∧
      ¬ payload.Tiled ∧ ¬ payload.Initialized := by
  have written : LegacyHci.leSetScanEnable enable filterDuplicates =
      .ok ⟨[some (if filterDuplicates = some true then 1 else 0), none], [⟨0, 1⟩, ⟨0, 1⟩]⟩ := by
    cases enable <;> rcases filterDuplicates with _ | _ | _ <;> rfl
  refine ⟨_, written, rfl, fun tiled => ?_, fun initialized => ?_⟩
  · simpa [ByteRange.Disjoint, ByteRange.Contains] using tiled.disjoint
  · simpa using initialized none (by simp)

end BluetoothHci
