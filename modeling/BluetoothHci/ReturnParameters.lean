import BluetoothHci.LegacyHci

/-!
# Return parameters of the older `Hci`

The command methods of the older `Hci` that answer with data decode the return parameters of
the `CommandComplete` they resolve with. Each decoder checks a minimum length and throws
`InvalidPayloadSize` below it, then reads its fields little-endian with Node's `Buffer`
reads, which throw a `RangeError` past the end. Every field of every decoder lies within the
length it checks, so an answer too short is always reported as `InvalidPayloadSize` and one
long enough is read whole (spec §4.1, length validation on decode).

`leReadSupportedStates`, with the same check, is modelled with its bitmask in
`BluetoothHci.SupportedStates`.
-/

set_option autoImplicit false

namespace BluetoothHci

/-- A field a decoder reads: its offset, its width in bytes, and whether it is signed. -/
structure ReadField where
  offset : Nat
  width : Nat
  signed : Bool
  deriving DecidableEq, Repr

namespace ReadField

/-- The field's value in `bytes`: little-endian, in two's complement when it is signed. -/
def value (field : ReadField) (bytes : List UInt8) : Int :=
  let raw := readLE ((bytes.drop field.offset).take field.width)
  if field.signed && decide (2 ^ (8 * field.width - 1) ≤ raw) then (raw : Int) - (2 ^ (8 * field.width) : Nat)
  else raw

/-- `readUInt8`, `readUInt16LE`, `readUIntLE` and `readBigUInt64LE` at the field, or `readInt8`
when it is signed: Node throws a `RangeError` for a field that runs past the end. -/
def read (field : ReadField) (bytes : List UInt8) : Except RangeError Int :=
  if bytes.length < field.offset + field.width then .error (.bufferOutOfBounds field.offset field.width)
  else .ok (field.value bytes)

/-- The values a field of `width` bytes can hold. -/
def InRange (field : ReadField) (value : Int) : Prop :=
  if field.signed then -((2 ^ (8 * field.width - 1) : Nat) : Int) ≤ value ∧ value < (2 ^ (8 * field.width - 1) : Nat)
  else 0 ≤ value ∧ value < (2 ^ (8 * field.width) : Nat)

end ReadField

/-- The decoding of return parameters in the older `Hci`: `if (params.length < minLength)
throw this.makeError(HciParserError.InvalidPayloadSize)`, then each field read in turn. -/
def decodeReturnParameters (minLength : Nat) (fields : List ReadField) (params : List UInt8) :
    Except CallError (List Int) :=
  if params.length < minLength then .error (.parser .invalidPayloadSize)
  else fields.mapM fun field => (field.read params).mapError fun error => .thrown (.rangeError error)

namespace LegacyHci.ReturnParameters

/-- `readLocalSupportedFeatures`: `readBigUInt64LE(0)` after a check for `64/8` bytes. -/
def readLocalSupportedFeatures : List UInt8 → Except CallError (List Int) :=
  decodeReturnParameters (64 / 8) [⟨0, 8, false⟩]

/-- `readBdAddr`: `readUIntLE(0, 6)`. -/
def readBdAddr : List UInt8 → Except CallError (List Int) :=
  decodeReturnParameters 6 [⟨0, 6, false⟩]

/-- `leReadBufferSize`: `leAclDataPacketLength`, `totalNumLeAclDataPackets`. -/
def leReadBufferSize : List UInt8 → Except CallError (List Int) :=
  decodeReturnParameters 3 [⟨0, 2, false⟩, ⟨2, 1, false⟩]

/-- `leReadBufferSizeV2`: `leAclDataPacketLength`, `totalNumLeAclDataPackets`,
`isoDataPacketLength`, `totalNumIsoDataPackets`. -/
def leReadBufferSizeV2 : List UInt8 → Except CallError (List Int) :=
  decodeReturnParameters 6 [⟨0, 2, false⟩, ⟨2, 1, false⟩, ⟨3, 2, false⟩, ⟨5, 1, false⟩]

/-- `leReadSupportedFeatures`: `readBigUInt64LE(0)` after a check for `64/8` bytes. -/
def leReadSupportedFeatures : List UInt8 → Except CallError (List Int) :=
  decodeReturnParameters (64 / 8) [⟨0, 8, false⟩]

/-- `leReadAdvertisingPhysicalChannelTxPower`: `readInt8(0)`. -/
def leReadAdvertisingPhysicalChannelTxPower : List UInt8 → Except CallError (List Int) :=
  decodeReturnParameters 1 [⟨0, 1, true⟩]

/-- `leReadWhiteListSize`: `readUInt8(0)`. -/
def leReadWhiteListSize : List UInt8 → Except CallError (List Int) :=
  decodeReturnParameters 1 [⟨0, 1, false⟩]

/-- `leReadSuggestedDefaultDataLength`: `suggestedMaxTxOctets`, `suggestedMaxTxTime`. -/
def leReadSuggestedDefaultDataLength : List UInt8 → Except CallError (List Int) :=
  decodeReturnParameters 4 [⟨0, 2, false⟩, ⟨2, 2, false⟩]

/-- `leReadResolvingListSize`: `readUInt8(0)`. -/
def leReadResolvingListSize : List UInt8 → Except CallError (List Int) :=
  decodeReturnParameters 1 [⟨0, 1, false⟩]

/-- `leReadMaximumDataLength`: `supportedMaxTxOctets`, `supportedMaxTxTime`,
`supportedMaxRxOctets`, `supportedMaxRxTime`. -/
def leReadMaximumDataLength : List UInt8 → Except CallError (List Int) :=
  decodeReturnParameters 8 [⟨0, 2, false⟩, ⟨2, 2, false⟩, ⟨4, 2, false⟩, ⟨6, 2, false⟩]

/-- `leReadPhy`: `connectionHandle`, `txPhy`, `rxPhy`. -/
def leReadPhy : List UInt8 → Except CallError (List Int) :=
  decodeReturnParameters 4 [⟨0, 2, false⟩, ⟨2, 1, false⟩, ⟨3, 1, false⟩]

/-- `leSetExtendedAdvertisingParameters`: the `selectedTxPower` it returns, `readInt8(0)`. -/
def leSetExtendedAdvertisingParameters : List UInt8 → Except CallError (List Int) :=
  decodeReturnParameters 1 [⟨0, 1, true⟩]

/-- `leReadNumberOfSupportedAdvertisingSets`: `readUInt8(0)`. -/
def leReadNumberOfSupportedAdvertisingSets : List UInt8 → Except CallError (List Int) :=
  decodeReturnParameters 1 [⟨0, 1, false⟩]

end LegacyHci.ReturnParameters

/-- The decoders of return parameters of the older `Hci`, each with its check and fields. -/
inductive ReturnDecoder where
  | readLocalSupportedFeatures
  | readBdAddr
  | leReadBufferSize
  | leReadBufferSizeV2
  | leReadSupportedFeatures
  | leReadAdvertisingPhysicalChannelTxPower
  | leReadWhiteListSize
  | leReadSuggestedDefaultDataLength
  | leReadResolvingListSize
  | leReadMaximumDataLength
  | leReadPhy
  | leSetExtendedAdvertisingParameters
  | leReadNumberOfSupportedAdvertisingSets
  deriving DecidableEq, Repr

namespace ReturnDecoder

open LegacyHci in
def run : ReturnDecoder → List UInt8 → Except CallError (List Int)
  | .readLocalSupportedFeatures => ReturnParameters.readLocalSupportedFeatures
  | .readBdAddr => ReturnParameters.readBdAddr
  | .leReadBufferSize => ReturnParameters.leReadBufferSize
  | .leReadBufferSizeV2 => ReturnParameters.leReadBufferSizeV2
  | .leReadSupportedFeatures => ReturnParameters.leReadSupportedFeatures
  | .leReadAdvertisingPhysicalChannelTxPower => ReturnParameters.leReadAdvertisingPhysicalChannelTxPower
  | .leReadWhiteListSize => ReturnParameters.leReadWhiteListSize
  | .leReadSuggestedDefaultDataLength => ReturnParameters.leReadSuggestedDefaultDataLength
  | .leReadResolvingListSize => ReturnParameters.leReadResolvingListSize
  | .leReadMaximumDataLength => ReturnParameters.leReadMaximumDataLength
  | .leReadPhy => ReturnParameters.leReadPhy
  | .leSetExtendedAdvertisingParameters => ReturnParameters.leSetExtendedAdvertisingParameters
  | .leReadNumberOfSupportedAdvertisingSets => ReturnParameters.leReadNumberOfSupportedAdvertisingSets

/-- The length the decoder checks. -/
def minLength : ReturnDecoder → Nat
  | .readLocalSupportedFeatures | .leReadSupportedFeatures | .leReadMaximumDataLength => 8
  | .readBdAddr | .leReadBufferSizeV2 => 6
  | .leReadSuggestedDefaultDataLength | .leReadPhy => 4
  | .leReadBufferSize => 3
  | .leReadAdvertisingPhysicalChannelTxPower | .leReadWhiteListSize | .leReadResolvingListSize
  | .leSetExtendedAdvertisingParameters | .leReadNumberOfSupportedAdvertisingSets => 1

/-- The fields the decoder reads. -/
def fields : ReturnDecoder → List ReadField
  | .readLocalSupportedFeatures | .leReadSupportedFeatures => [⟨0, 8, false⟩]
  | .readBdAddr => [⟨0, 6, false⟩]
  | .leReadBufferSize => [⟨0, 2, false⟩, ⟨2, 1, false⟩]
  | .leReadBufferSizeV2 => [⟨0, 2, false⟩, ⟨2, 1, false⟩, ⟨3, 2, false⟩, ⟨5, 1, false⟩]
  | .leReadAdvertisingPhysicalChannelTxPower | .leSetExtendedAdvertisingParameters => [⟨0, 1, true⟩]
  | .leReadWhiteListSize | .leReadResolvingListSize | .leReadNumberOfSupportedAdvertisingSets => [⟨0, 1, false⟩]
  | .leReadSuggestedDefaultDataLength => [⟨0, 2, false⟩, ⟨2, 2, false⟩]
  | .leReadMaximumDataLength => [⟨0, 2, false⟩, ⟨2, 2, false⟩, ⟨4, 2, false⟩, ⟨6, 2, false⟩]
  | .leReadPhy => [⟨0, 2, false⟩, ⟨2, 1, false⟩, ⟨3, 1, false⟩]

private theorem mapM_read_of_within {params : List UInt8} {fields : List ReadField}
    (within : ∀ field ∈ fields, field.offset + field.width ≤ params.length) :
    fields.mapM (fun field => (field.read params).mapError fun error => CallError.thrown (.rangeError error)) =
      .ok (fields.map fun field => field.value params) := by
  induction fields with
  | nil => rfl
  | cons field rest ih =>
      have fits := within field (List.mem_cons_self _ _)
      rw [List.mapM_cons, ih fun other member => within other (List.mem_cons_of_mem _ member),
        ReadField.read, if_neg (by omega)]
      rfl

private theorem run_eq (decoder : ReturnDecoder) : decoder.run = decodeReturnParameters decoder.minLength decoder.fields := by
  cases decoder <;> rfl

/-- Every field lies within the length the decoder checks, and is at least a byte wide. -/
theorem fields_within (decoder : ReturnDecoder) :
    ∀ field ∈ decoder.fields, 0 < field.width ∧ field.offset + field.width ≤ decoder.minLength := by
  cases decoder <;> decide

theorem run_of_short {decoder : ReturnDecoder} {params : List UInt8} (short : params.length < decoder.minLength) :
    decoder.run params = .error (.parser .invalidPayloadSize) := by
  rw [decoder.run_eq, decodeReturnParameters, if_pos short]

theorem run_of_long {decoder : ReturnDecoder} {params : List UInt8} (long : decoder.minLength ≤ params.length) :
    decoder.run params = .ok (decoder.fields.map fun field => field.value params) := by
  rw [decoder.run_eq, decodeReturnParameters, if_neg (by omega)]
  exact mapM_read_of_within fun field member => by have := decoder.fields_within field member; omega

/-- A transmit power byte `0xF6` is read as `-10` dBm, and a short answer is refused. -/
example : LegacyHci.ReturnParameters.leReadAdvertisingPhysicalChannelTxPower [0xF6] = .ok [-10] ∧
    LegacyHci.ReturnParameters.leReadPhy [0x40, 0x00, 0x01] = .error (.parser .invalidPayloadSize) :=
  ⟨rfl, rfl⟩

/-- What the promise of the decoder's command method settles with, once the promise of its
`send` has: `const result = await this.send(...)` passes a rejection on as it is, and the
method decodes `result.returnParameters`. -/
def answer (decoder : ReturnDecoder) : Outcome HciEvtCmdComplete → Except CallError (List Int)
  | .resolved result => decoder.run result.returnParameters
  | .rejected error => .error error

end ReturnDecoder

end BluetoothHci
