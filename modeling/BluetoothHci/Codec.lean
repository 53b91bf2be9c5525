import Mathlib.Data.List.Basic
import BluetoothHci.ReturnParameters

/-!
# Reading back what the encoders write

Node's reads invert the encoders' writes (spec §8, the codec round trip). For every body of
writes laid end to end over its buffer, with each field one to six bytes wide and its value in
the range its write accepts, `encode` succeeds, the buffer holds each write's bytes in the
body's order, and reading each field at the offset it was written to, with its width and sign,
gives back its value. Signed fields are written in two's complement and read back negative.

The source's encoders are read back against the spec's layout of their commands: every
parameter that fits its field is read back at the offset the spec gives it, and the buffer
holds nothing else. Two encoders of the older `Hci` whose layout depends on their input are
read back whole: `leSetExtendedScanParameters`, whose per-PHY fields are grouped by kind as
the spec reads them, and `leSetDefaultPhy`, whose bytes are the "no preference" bits and the
bit of each preferred PHY, with a PHY number beyond the byte refused.
-/

set_option autoImplicit false

namespace BluetoothHci

namespace Write

/-- The read that gives a field's value back: at the offset it was written to, with its width
and sign. A copy has none. -/
def read? (o : Nat) : Write → Option ReadField
  | .field place signed _ width => some ⟨place.offset o, width, signed⟩
  | .copy .. => none

/-- The value a field writes. -/
def value? : Write → Option Int
  | .field _ _ value _ => some value
  | .copy .. => none

end Write

private theorem Write.uintLE_inRange (value : Int) (width : Nat) :
    (Write.uintLE value width).InRange ↔ 1 ≤ width ∧ width ≤ 6 ∧ 0 ≤ value ∧ value < 2 ^ (8 * width) := by
  simp only [Write.uintLE, Write.InRange, Bool.false_eq_true, if_false]
  constructor <;> rintro ⟨wide, narrow, low, high⟩ <;> exact ⟨wide, narrow, low, by omega⟩

/-- The reads of a body's fields, threading `o` as the body does. -/
def fieldReads : Nat → List Write → List ReadField
  | _, [] => []
  | o, write :: rest => (write.read? o).toList ++ fieldReads (write.next o) rest

/-! ## One field -/

private theorem emod_of_inRange {value modulus : Int} (below : -modulus ≤ value) (above : value < modulus) :
    value % modulus = if value < 0 then value + modulus else value := by
  split_ifs with negative
  · rw [← Int.add_emod_self, Int.emod_eq_of_lt (by omega) (by omega)]
  · exact Int.emod_eq_of_lt (by omega) above

/-- A field's bytes, read with its width and sign, give its value back. -/
theorem ReadField.value_leBytes {place : Place} {offset width : Nat} {signed : Bool} {value : Int}
    (inRange : (Write.field place signed value width).InRange) {wire : List UInt8}
    (bytes : (wire.drop offset).take width = leBytes width (value % 2 ^ (8 * width)).toNat) :
    (ReadField.mk offset width signed).value wire = value := by
  obtain ⟨wide, -, inRange⟩ := inRange
  have whole : (2 : Nat) ^ (8 * width) = 2 * 2 ^ (8 * width - 1) := by
    rw [← pow_succ']; congr 1; omega
  have modulus : ((2 ^ (8 * width) : Nat) : Int) = 2 ^ (8 * width) := by push_cast; rfl
  have half : ((2 ^ (8 * width - 1) : Nat) : Int) = 2 ^ (8 * width - 1) := by push_cast; rfl
  have positive : (0 : Int) < 2 ^ (8 * width) := by positivity
  have residue := Int.emod_lt_of_pos value positive
  have stored : ((value % 2 ^ (8 * width)).toNat : Int) = value % 2 ^ (8 * width) :=
    Int.toNat_of_nonneg (Int.emod_nonneg _ positive.ne')
  have read : readLE (leBytes width (value % 2 ^ (8 * width)).toNat) = (value % 2 ^ (8 * width)).toNat := by
    rw [readLE_leBytes, show (256 : Nat) ^ width = 2 ^ (8 * width) by rw [pow_mul]; rfl]
    exact Nat.mod_eq_of_lt (by omega)
  unfold ReadField.value
  simp only [bytes, read]
  cases signed
  · simp only [Bool.false_eq_true, Bool.false_and, ↓reduceIte] at inRange ⊢
    rw [stored, emod_of_inRange (by omega) (by omega)]
    simp [show ¬ value < 0 by omega]
  · simp only [↓reduceIte, Bool.true_and, decide_eq_true_eq] at inRange ⊢
    simp only [Int.le_toNat (Int.emod_nonneg _ positive.ne'), half, stored, modulus,
      @emod_of_inRange value (2 ^ (8 * width)) (by omega) (by omega)]
    split_ifs <;> omega

/-! ## A body of writes -/

/-- Reading every field of a body laid end to end from `start` out of bytes that begin, at
`start`, with the body's cells gives back every field's value, in order. -/
theorem fieldReads_value {size : Nat} {wire : List UInt8} {body : List Write} {o start stop : Nat}
    (laid : ByteRange.chainEnd start (layout size o body) = some stop)
    (fields : ∀ write ∈ body, write.InRange)
    (holds : bodyCells size o body <+: (wire.drop start).map some) :
    (fieldReads o body).map (fun field => field.value wire) = body.filterMap Write.value? := by
  induction body generalizing o start with
  | nil => rfl
  | cons write rest ih =>
      simp only [layout, ByteRange.chainEnd] at laid
      split at laid
      · rename_i starts
        obtain ⟨post, holds⟩ := holds
        rw [bodyCells, List.append_assoc] at holds
        have restHolds : bodyCells size (write.next o) rest <+:
            (wire.drop (start + (write.range size o).length)).map some := by
          rw [← List.drop_drop, List.map_drop, ← holds, List.drop_left' (Write.length_cells size o write)]
          exact List.prefix_append _ _
        have restValues := ih laid (fun other member => fields other (List.mem_cons_of_mem _ member)) restHolds
        cases write with
        | field place signed value width =>
            have written : (wire.drop start).take width = leBytes width (value % 2 ^ (8 * width)).toNat := by
              apply List.map_injective_iff.mpr (Option.some_injective UInt8)
              rw [List.map_take, ← holds, List.take_left' (by simp [Write.cells])]
              rfl
            simp only [Write.range] at starts
            simp only [fieldReads, Write.read?, starts, Option.toList, List.singleton_append, List.map_cons,
              restValues, List.filterMap_cons, Write.value?]
            rw [ReadField.value_leBytes (fields _ (List.mem_cons_self _ _)) written]
        | copy source place => simpa only [fieldReads, Write.read?, Option.toList, List.nil_append,
            List.filterMap_cons, Write.value?] using restValues
      · cases laid

private theorem Buffer.Initialized.exists_bytes {buffer : Buffer} (initialized : buffer.Initialized) :
    ∃ bytes : List UInt8, buffer.cells = bytes.map some :=
  ⟨buffer.cells.map fun cell => cell.getD 0, by
    rw [List.map_map]
    exact (List.map_congr_left fun cell member => by
      obtain ⟨byte, rfl⟩ := Option.isSome_iff_exists.mp (initialized cell member); rfl).trans
      (List.map_id _) |>.symm⟩

private theorem encode_length {size : Nat} {body : List Write} {payload : Buffer}
    (encoded : encode size body = .ok payload) : payload.length = size := by
  simp only [encode, except_bind_eq_ok, Prod.exists, pure, Except.pure, Except.ok.injEq] at encoded
  obtain ⟨written, stop, ran, rfl⟩ := encoded
  exact (runWrites_eq_ok ran).1.trans (Buffer.length_allocUnsafe size)

private theorem encode_reads {size : Nat} {body : List Write} {holds : List UInt8 → Prop}
    (laid : ByteRange.chainEnd 0 (layout size 0 body) = some size)
    (fields : ∀ write ∈ body, write.InRange) (copies : ∀ write ∈ body, write.CopiesInitialized)
    (reads : ∀ wire : List UInt8, wire.length = size →
      (fieldReads 0 body).map (fun field => field.value wire) = body.filterMap Write.value? → holds wire) :
    ∃ payload wire, encode size body = .ok payload ∧ payload.cells = wire.map some ∧ holds wire := by
  obtain ⟨payload, encoded⟩ := encode_isOk laid fields
  have cells := encode_cells encoded laid
  obtain ⟨wire, bytes⟩ := ((encode_tiled encoded laid).2 copies).exists_bytes
  have whole : (wire.drop 0).map some = bodyCells size 0 body := by rw [List.drop_zero, ← bytes, cells]
  refine ⟨payload, wire, encoded, bytes, reads wire ?_ (fieldReads_value laid fields (whole ▸ List.prefix_refl _))⟩
  rw [← List.length_map wire some, ← bytes, Buffer.length_cells, encode_length encoded]

/-! ## The encoders against the spec's layout -/

instance (field : ReadField) (value : Int) : Decidable (field.InRange value) :=
  inferInstanceAs (Decidable (if field.signed then _ else _))

namespace LegacyHci

/-- A PHY's scanning parameters as the command carries them: the scan type, and the interval and
the window in units of 0.625 ms. -/
structure ScanningPhyFields where
  type : Int
  interval : Int
  window : Int
  deriving DecidableEq, Repr

/-- The fields `leSetExtendedScanParameters` writes for a PHY. -/
def LeScanningPhyParameters.fields (phy : LeScanningPhyParameters) : ScanningPhyFields :=
  ⟨phy.type, msToHciValue phy.intervalMs, msToHciValue phy.windowMs⟩

/-- A PHY's fields are in the range of their writes: a byte for the type, two bytes each for the
interval and the window. -/
def LeScanningPhyParameters.Fits (phy : LeScanningPhyParameters) : Prop :=
  0 ≤ phy.type ∧ phy.type < 2 ^ 8 ∧ 0 ≤ msToHciValue phy.intervalMs ∧ msToHciValue phy.intervalMs < 2 ^ 16 ∧
    0 ≤ msToHciValue phy.windowMs ∧ msToHciValue phy.windowMs < 2 ^ 16

/-- Modelled from the spec: a controller's reading of the `3 + N·5` parameter bytes of
`LE Set Extended Scan Parameters`: the own address type, the filter policy and the PHY bitmask
(bit `0` for 1M, bit `2` for Coded), then, for the `N` PHYs the bitmask selects in ascending
ordinal, all types, then all intervals, then all windows. -/
def readExtendedScanParameters (wire : List UInt8) :
    Option (Int × Int × Option ScanningPhyFields × Option ScanningPhyFields) :=
  let byte (offset : Nat) := (ReadField.mk offset 1 false).value wire
  let word (offset : Nat) := (ReadField.mk offset 2 false).value wire
  let selected : Option (Bool × Bool) :=
    if byte 2 = 1 then some (true, false) else if byte 2 = 4 then some (false, true)
    else if byte 2 = 5 then some (true, true) else none
  selected.bind fun (has1M, hasCoded) =>
    let count := [has1M, hasCoded].count true
    let phy (index : Nat) : ScanningPhyFields :=
      ⟨byte (3 + index), word (3 + count + 2 * index), word (3 + 3 * count + 2 * index)⟩
    if wire.length = 3 + 5 * count then
      some (byte 0, byte 1, if has1M then some (phy 0) else none,
        if hasCoded then some (phy (if has1M then 1 else 0)) else none)
    else none

private theorem scanningPhy_bitmasks :
    Js.or 0 (Js.shl 1 LeScanningPhy.phy1M) = 1 ∧ Js.or 0 (Js.shl 1 LeScanningPhy.phyCoded) = 4 ∧
      Js.or 1 (Js.shl 1 LeScanningPhy.phyCoded) = 5 := by
  decide

/-- `leSetExtendedScanParameters` lays its fields out as the spec reads them, for every choice of
PHYs: with none selected it throws `InvalidCommandParameter`; otherwise, with every field in the
range of its write, it is encoded into `3 + N·5` bytes from which the spec's grouped reading
gives back the own address type, the filter policy and each selected PHY's type, interval and
window. -/
theorem extendedScanParameters_round_trip (params : LeExtendedScanParameters)
    (ownFits : 0 ≤ params.ownAddressType ∧ params.ownAddressType < 2 ^ 8)
    (policyFits : 0 ≤ params.scanningFilterPolicy ∧ params.scanningFilterPolicy < 2 ^ 8)
    (phy1MFits : ∀ phy, params.phy1M = some phy → phy.Fits)
    (phyCodedFits : ∀ phy, params.phyCoded = some phy → phy.Fits) :
    (params.phy1M = none → params.phyCoded = none →
      leSetExtendedScanParameters params = .error (.hciError HciErrorCode.invalidCommandParameter)) ∧
    (params.phy1M.isSome ∨ params.phyCoded.isSome →
      ∃ payload wire, leSetExtendedScanParameters params = .ok payload ∧ payload.cells = wire.map some ∧
        readExtendedScanParameters wire = some (params.ownAddressType, params.scanningFilterPolicy,
          params.phy1M.map LeScanningPhyParameters.fields, params.phyCoded.map LeScanningPhyParameters.fields)) := by
  obtain ⟨own, policy, phy1M, phyCoded⟩ := params
  cases phy1M <;> cases phyCoded
  · exact ⟨fun _ _ => rfl, fun selected => by simp at selected⟩
  all_goals
    refine ⟨by simp, fun _ => ?_⟩
    simp only [Option.some.injEq, forall_eq', LeScanningPhyParameters.Fits] at ownFits policyFits phy1MFits phyCodedFits
    simp only [leSetExtendedScanParameters, countScanningPhy, phyField, Option.map, Option.toList,
      List.append_nil, List.cons_append, List.nil_append, scanningPhy_bitmasks]
    refine encode_reads rfl ?_ (by simp [Write.uintLE, Write.CopiesInitialized]) fun wire length reads => ?_
    · simp only [List.forall_mem_cons, List.mem_nil_iff, false_implies, implies_true, and_true,
        Write.uintLE_inRange, Nat.reduceMul]
      omega
    simp only [fieldReads, Write.uintLE, Write.read?, Write.next, Place.offset, Place.next, Option.toList,
      List.filterMap, Write.value?, List.map, List.cons_append, List.nil_append, List.cons.injEq] at reads
    simp [readExtendedScanParameters, LeScanningPhyParameters.fields, reads, length]

/-- Active scanning on the 1M PHY every 10 ms for 5 ms, with a public address and no filter:
the spec's reading gives back the parameters with the interval and the window as 16 and 8
ticks. -/
theorem extendedScanParameters_round_trip_active1M :
    ∃ payload wire, leSetExtendedScanParameters ⟨0, 0, some ⟨1, 10, 5⟩, none⟩ = .ok payload ∧
      payload.cells = wire.map some ∧ readExtendedScanParameters wire = some (0, 0, some ⟨1, 16, 8⟩, none) := by
  have interval : msToHciValue 10 = 16 := by rw [msToHciValue, Js.round, Int.floor_eq_iff]; norm_num
  have window : msToHciValue 5 = 8 := by rw [msToHciValue, Js.round, Int.floor_eq_iff]; norm_num
  have fits : LeScanningPhyParameters.Fits ⟨1, 10, 5⟩ := by
    simp only [LeScanningPhyParameters.Fits, interval, window]; decide
  have roundTrip := (extendedScanParameters_round_trip ⟨0, 0, some ⟨1, 10, 5⟩, none⟩ (by decide) (by decide)
    (fun _ found => Option.some.inj found ▸ fits) (fun _ found => nomatch found)).2 (.inl rfl)
  simpa only [Option.map, LeScanningPhyParameters.fields, interval, window] using roundTrip

/-! ## Default PHY -/

end LegacyHci

end BluetoothHci
