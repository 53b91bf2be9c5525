import Mathlib.Data.Rat.Floor

/-!
# JavaScript numbers

The sources compute on JavaScript numbers. The values they hold are integers, except the
times in milliseconds, which are rationals here. The bitwise operators see a number as the
32-bit word `ToInt32` gives and return that word read as a signed integer; `Math.round`
rounds halves up.
-/

set_option autoImplicit false

namespace BluetoothHci.Js

/-- `ToInt32`: the 32-bit word a bitwise operator sees. -/
def toInt32 (value : Int) : BitVec 32 := BitVec.ofInt 32 value

/-- `left << right`: the shift count is taken modulo 32. -/
def shl (left right : Int) : Int := (toInt32 left <<< (right % 32).toNat).toInt

/-- `left >> right`, the sign-propagating shift. -/
def sar (left right : Int) : Int := ((toInt32 left).sshiftRight (right % 32).toNat).toInt

/-- `left | right`. -/
def or (left right : Int) : Int := (toInt32 left ||| toInt32 right).toInt

/-- `left & right`. -/
def and (left right : Int) : Int := (toInt32 left &&& toInt32 right).toInt

/-- `Math.round`: the nearest integer, halves rounded up. -/
def round (value : ℚ) : Int := ⌊value + 1 / 2⌋

/-! ## Non-negative words

Below `2 ^ 31` a word and its signed reading agree, so the operators act there as the
natural-number operations do. -/

private theorem toNat_toInt32 {value : Nat} (small : value < 2 ^ 31) : (toInt32 value).toNat = value := by
  simp only [toInt32, BitVec.toNat_ofInt]
  omega

private theorem toInt_of_toNat_lt {word : BitVec 32} (small : word.toNat < 2 ^ 31) :
    word.toInt = word.toNat := by
  rw [BitVec.toInt_eq_toNat_cond]
  simp only [Nat.reducePow] at small ⊢
  split <;> omega

theorem or_natCast {left right : Nat} (leftSmall : left < 2 ^ 31) (rightSmall : right < 2 ^ 31) :
    or left right = (left ||| right : Nat) := by
  have bound : left ||| right < 2 ^ 31 := Nat.or_lt_two_pow leftSmall rightSmall
  rw [or, toInt_of_toNat_lt] <;>
    simp only [BitVec.toNat_or, toNat_toInt32 leftSmall, toNat_toInt32 rightSmall, bound]

private theorem and_natCast {left right : Nat} (leftSmall : left < 2 ^ 31) (rightSmall : right < 2 ^ 31) :
    and left right = (left &&& right : Nat) := by
  have bound : left &&& right < 2 ^ 31 := Nat.lt_of_le_of_lt Nat.and_le_left leftSmall
  rw [and, toInt_of_toNat_lt] <;>
    simp only [BitVec.toNat_and, toNat_toInt32 leftSmall, toNat_toInt32 rightSmall, bound]

theorem shl_natCast {value count : Nat} (small : value * 2 ^ count < 2 ^ 31) (countSmall : count < 32) :
    shl value count = (value * 2 ^ count : Nat) := by
  have valueSmall : value < 2 ^ 31 :=
    Nat.lt_of_le_of_lt (Nat.le_mul_of_pos_right _ (Nat.two_pow_pos count)) small
  have wrapped : value * 2 ^ count % 2 ^ 32 = value * 2 ^ count := Nat.mod_eq_of_lt (by omega)
  rw [shl, toInt_of_toNat_lt] <;>
    simp only [BitVec.toNat_shiftLeft, toNat_toInt32 valueSmall, Nat.shiftLeft_eq,
      show ((count : Int) % 32).toNat = count by omega, wrapped, small]

theorem sar_natCast {value count : Nat} (small : value < 2 ^ 31) (countSmall : count < 32) :
    sar value count = (value / 2 ^ count : Nat) := by
  have positive : (toInt32 value).msb = false := by
    rw [BitVec.msb_eq_false_iff_two_mul_lt, toNat_toInt32 small]; omega
  have shifted : value / 2 ^ count < 2 ^ 31 := Nat.lt_of_le_of_lt (Nat.div_le_self _ _) small
  rw [sar, BitVec.sshiftRight_eq_of_msb_false positive, toInt_of_toNat_lt] <;>
    simp only [BitVec.toNat_ushiftRight, toNat_toInt32 small,
      show ((count : Int) % 32).toNat = count by omega, Nat.shiftRight_eq_div_pow, shifted]

theorem or_comm (left right : Int) : or left right = or right left := by
  rw [or, or, BitVec.or_comm]

theorem or_eq_add {high low count : Nat} (lowSmall : low < 2 ^ count)
    (small : high * 2 ^ count + low < 2 ^ 31) :
    or (high * 2 ^ count : Nat) low = (high * 2 ^ count + low : Nat) := by
  rw [or_natCast (by omega) (by omega), Nat.mul_comm, ← Nat.mul_add_lt_is_or lowSmall]

theorem and_low_bits {value count : Nat} (small : value < 2 ^ 31) (countSmall : count ≤ 31) :
    and value (2 ^ count - 1 : Nat) = (value % 2 ^ count : Nat) := by
  have maskSmall : 2 ^ count - 1 < 2 ^ 31 :=
    Nat.lt_of_lt_of_le (Nat.sub_lt (Nat.two_pow_pos _) Nat.one_pos)
      (Nat.pow_le_pow_right (by norm_num) countSmall)
  rw [and_natCast small maskSmall, Nat.and_pow_two_sub_one_eq_mod]

/-! ## Shift counts -/

end BluetoothHci.Js
