import BluetoothHci.Buffer
import BluetoothHci.Js

/-!
# Bitfields

`buildBitfield` turns a list of flag ordinals (advertising channels, advertising event
properties) into a bitfield by or-ing `1 << bit` for each. For ordinals in `[0, 31)` every
shifted bit and every partial result stays below the sign bit, so the bitfield is the
non-negative number whose set bits are exactly the listed ordinals: a function of the set of
ordinals only.
-/

set_option autoImplicit false

namespace BluetoothHci.LegacyHci

/-- `buildBitfield(bits)`: `bitfield |= 1 << bit` for each ordinal, from `0`. -/
def buildBitfield (bits : List Int) : Int :=
  bits.foldl (fun bitfield bit => Js.or bitfield (Js.shl 1 bit)) 0

/-- The ordinals a bitfield of 31 usable bits can hold. -/
def Ordinals (bits : List Int) : Prop := ∀ bit ∈ bits, 0 ≤ bit ∧ bit < 31

private theorem or_shl_one {bitfield count : Nat} (small : bitfield < 2 ^ 31) (countSmall : count < 31) :
    Js.or bitfield (Js.shl 1 count) = (bitfield ||| 2 ^ count : Nat) := by
  have shifted := @Js.shl_natCast 1 count (by rw [Nat.one_mul]; exact Nat.pow_lt_pow_right (by norm_num) countSmall)
    (by omega)
  simp only [Nat.one_mul, Nat.cast_one] at shifted
  rw [shifted, Js.or_natCast small (Nat.pow_lt_pow_right (by norm_num) countSmall)]

private theorem foldl_or_shl (bits : List Int) (ordinals : Ordinals bits) (bitfield : Nat)
    (small : bitfield < 2 ^ 31) :
    ∃ result : Nat, bits.foldl (fun bitfield bit => Js.or bitfield (Js.shl 1 bit)) (bitfield : Int) = result ∧
      result < 2 ^ 31 ∧ ∀ index, result.testBit index ↔ bitfield.testBit index ∨ (index : Int) ∈ bits := by
  induction bits generalizing bitfield with
  | nil => exact ⟨bitfield, rfl, small, by simp⟩
  | cons bit rest ih =>
      obtain ⟨nonneg, below⟩ := ordinals bit (List.mem_cons_self _ _)
      obtain ⟨count, rfl⟩ := Int.eq_ofNat_of_zero_le nonneg
      have orSmall : bitfield ||| 2 ^ count < 2 ^ 31 :=
        Nat.or_lt_two_pow small (Nat.pow_lt_pow_right (by norm_num) (by omega))
      obtain ⟨result, folded, resultSmall, bitsOf⟩ :=
        ih (fun other member => ordinals other (List.mem_cons_of_mem _ member)) _ orSmall
      refine ⟨result, by rw [List.foldl_cons, or_shl_one small (by omega), folded], resultSmall,
        fun index => ?_⟩
      rw [bitsOf, Nat.testBit_or, Nat.testBit_two_pow, List.mem_cons]
      simp only [Bool.or_eq_true, decide_eq_true_eq, Nat.cast_inj, or_assoc, @eq_comm _ count]

/-- For ordinals in `[0, 31)`, `buildBitfield` is the number whose set bits are the listed
ordinals. -/
theorem buildBitfield_eq {bits : List Int} (ordinals : Ordinals bits) :
    ∃ result : Nat, buildBitfield bits = result ∧ result < 2 ^ 31 ∧
      ∀ index, result.testBit index ↔ (index : Int) ∈ bits := by
  obtain ⟨result, folded, small, bitsOf⟩ := foldl_or_shl bits ordinals 0 (by norm_num)
  exact ⟨result, folded, small, fun index => by simpa using bitsOf index⟩

private theorem buildBitfield_congr {bits other : List Int} (ordinals : Ordinals bits)
    (otherOrdinals : Ordinals other) (members : ∀ bit, bit ∈ bits ↔ bit ∈ other) :
    buildBitfield bits = buildBitfield other := by
  obtain ⟨result, built, -, bitsOf⟩ := buildBitfield_eq ordinals
  obtain ⟨result', built', -, bitsOf'⟩ := buildBitfield_eq otherOrdinals
  rw [built, built', Nat.eq_of_testBit_eq fun index => Bool.eq_iff_iff.mpr
    ((bitsOf index).trans ((members _).trans (bitsOf' index).symm))]

private theorem buildBitfield_append {bits other : List Int} (ordinals : Ordinals bits)
    (otherOrdinals : Ordinals other) :
    buildBitfield (bits ++ other) = Js.or (buildBitfield bits) (buildBitfield other) := by
  obtain ⟨result, built, -, bitsOf⟩ := buildBitfield_eq fun bit member =>
    (List.mem_append.mp member).elim (ordinals bit) (otherOrdinals bit)
  obtain ⟨left, builtLeft, leftSmall, leftBits⟩ := buildBitfield_eq ordinals
  obtain ⟨right, builtRight, rightSmall, rightBits⟩ := buildBitfield_eq otherOrdinals
  rw [built, builtLeft, builtRight, Js.or_natCast leftSmall rightSmall]
  congr 1
  refine Nat.eq_of_testBit_eq fun index => Bool.eq_iff_iff.mpr ?_
  rw [bitsOf, Nat.testBit_or, Bool.or_eq_true, leftBits, rightBits, List.mem_append]

private theorem buildBitfield_fits {bits : List Int} {width : Nat} (ordinals : Ordinals bits)
    (narrow : ∀ bit ∈ bits, bit < 8 * width) :
    0 ≤ buildBitfield bits ∧ buildBitfield bits ≤ 2 ^ (8 * width) - 1 := by
  obtain ⟨result, built, -, bitsOf⟩ := buildBitfield_eq ordinals
  have fits : result < 2 ^ (8 * width) := Nat.lt_pow_two_of_testBit result fun index above => by
    by_contra set
    have := narrow _ ((bitsOf index).mp (by simpa using set))
    omega
  have : ((2 ^ (8 * width) : Nat) : Int) = 2 ^ (8 * width) := by push_cast; rfl
  rw [built]
  exact ⟨Int.natCast_nonneg _, by omega⟩

/-- The bitfield as a set: exactly the listed ordinals are set, so lists with the same
members, such as a permutation or a list with duplicates, give the same bitfield, and a
concatenation gives the or of the two. Ordinals below `8 * width` give a bitfield that a
`width`-byte field holds, and a write of one to six bytes takes. -/
theorem buildBitfield_set :
    (∀ bits, Ordinals bits → ∃ result : Nat, buildBitfield bits = result ∧
      ∀ index, result.testBit index ↔ (index : Int) ∈ bits) ∧
    (∀ bits other, Ordinals bits → Ordinals other → (∀ bit, bit ∈ bits ↔ bit ∈ other) →
      buildBitfield bits = buildBitfield other) ∧
    (∀ bits other, Ordinals bits → Ordinals other → bits.Perm other →
      buildBitfield bits = buildBitfield other) ∧
    (∀ bits other, Ordinals bits → Ordinals other →
      buildBitfield (bits ++ other) = Js.or (buildBitfield bits) (buildBitfield other)) ∧
    (∀ bits (width : Nat), Ordinals bits → (∀ bit ∈ bits, bit < 8 * width) →
      0 ≤ buildBitfield bits ∧ buildBitfield bits ≤ 2 ^ (8 * width) - 1 ∧
      ∀ (buffer : Buffer) (offset : Nat), 1 ≤ width → width ≤ 6 → offset + width ≤ buffer.length →
        ∃ written, buffer.writeUIntLE (buildBitfield bits) offset width = .ok written) :=
  ⟨fun _ ordinals =>
    have ⟨result, built, _, bitsOf⟩ := buildBitfield_eq ordinals
    ⟨result, built, bitsOf⟩,
    fun _ _ => buildBitfield_congr,
    fun _ _ ordinals otherOrdinals perm => buildBitfield_congr ordinals otherOrdinals fun _ => perm.mem_iff,
    fun _ _ => buildBitfield_append,
    fun _ _ ordinals narrow =>
      have ⟨nonneg, fits⟩ := buildBitfield_fits ordinals narrow
      ⟨nonneg, fits, fun _ _ wide narrow room => Buffer.writeIntegerLE_isOk wide narrow nonneg fits room⟩⟩

end BluetoothHci.LegacyHci
