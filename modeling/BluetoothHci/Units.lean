import BluetoothHci.Buffer
import BluetoothHci.Js

/-!
# Time units

The older `Hci` converts milliseconds to the controller's 0.625 ms ticks with `msToHciValue`
and back with `hciValueToMs`; milliseconds are exact rationals here. Rounding to the nearest
tick is off by at most half a tick, 0.3125 ms, so whole milliseconds survive the round trip
and ticks survive it exactly, and the advertising and scanning range of 20 ms to 10.24 s
lands in 32 to 16384 ticks, which every interval field holds.
-/

set_option autoImplicit false

namespace BluetoothHci.LegacyHci

/-- `msToHciValue(ms)`: `Math.round(ms / 0.625)`. -/
def msToHciValue (ms : ℚ) : Int := Js.round (ms / 0.625)

/-- `hciValueToMs(val)`: `val * 0.625`. -/
def hciValueToMs (val : Int) : ℚ := val * 0.625

private theorem tick_eq : (0.625 : ℚ) = 5 / 8 := by norm_num

private theorem msToHciValue_near (ms : ℚ) :
    ms * 8 / 5 - 1 / 2 < msToHciValue ms ∧ (msToHciValue ms : ℚ) ≤ ms * 8 / 5 + 1 / 2 := by
  have below := Int.lt_floor_add_one (ms / 0.625 + 1 / 2)
  have above := Int.floor_le (ms / 0.625 + 1 / 2)
  simp only [msToHciValue, Js.round, tick_eq] at below above ⊢
  constructor <;> linarith

private theorem hciValueToMs_msToHciValue_near (ms : ℚ) : |hciValueToMs (msToHciValue ms) - ms| ≤ 0.3125 := by
  obtain ⟨below, above⟩ := msToHciValue_near ms
  rw [abs_sub_le_iff, hciValueToMs, tick_eq]
  constructor <;> norm_num <;> linarith

private theorem round_hciValueToMs_msToHciValue (ms : Int) : Js.round (hciValueToMs (msToHciValue ms)) = ms := by
  have close := abs_sub_le_iff.mp (hciValueToMs_msToHciValue_near ms)
  rw [Js.round, Int.floor_eq_iff]
  constructor <;> linarith [close.1, close.2]

private theorem msToHciValue_hciValueToMs (ticks : Nat) : msToHciValue (hciValueToMs ticks) = ticks := by
  rw [msToHciValue, hciValueToMs, Js.round, tick_eq, Int.floor_eq_iff]
  constructor <;> field_simp <;> linarith

private theorem msToHciValue_interval {ms : ℚ} (low : 20 ≤ ms) (high : ms ≤ 10240) :
    32 ≤ msToHciValue ms ∧ msToHciValue ms ≤ 16384 := by
  obtain ⟨below, above⟩ := msToHciValue_near ms
  have least : 31 < msToHciValue ms := by exact_mod_cast (by linarith : (31 : ℚ) < msToHciValue ms)
  have most : msToHciValue ms < 16385 := by exact_mod_cast (by linarith : (msToHciValue ms : ℚ) < 16385)
  omega

/-- Converting milliseconds to ticks and back, or ticks to milliseconds and back: a result
within 0.3125 ms, hence whole milliseconds back exactly, and every tick count back exactly.
Between 20 ms and 10.24 s the tick count is between 32 and 16384, which every interval
field of two to six bytes (the widths Node's writes take) holds. -/
theorem msToHciValue_roundTrip :
    (∀ ms : ℚ, |hciValueToMs (msToHciValue ms) - ms| ≤ 0.3125) ∧
    (∀ ms : Int, Js.round (hciValueToMs (msToHciValue ms)) = ms) ∧
    (∀ ticks : Nat, msToHciValue (hciValueToMs ticks) = ticks) ∧
    (∀ ms : ℚ, 20 ≤ ms → ms ≤ 10240 →
      32 ≤ msToHciValue ms ∧ msToHciValue ms ≤ 16384 ∧
      ∀ (buffer : Buffer) (offset width : Nat), 2 ≤ width → width ≤ 6 → offset + width ≤ buffer.length →
        ∃ written, buffer.writeUIntLE (msToHciValue ms) offset width = .ok written) := by
  refine ⟨hciValueToMs_msToHciValue_near, round_hciValueToMs_msToHciValue, msToHciValue_hciValueToMs,
    fun ms low high => ?_⟩
  obtain ⟨least, most⟩ := msToHciValue_interval low high
  refine ⟨least, most, fun buffer offset width wide narrow fits =>
    Buffer.writeIntegerLE_isOk (by omega) narrow (by omega) ?_ fits⟩
  have : (2 : Int) ^ 16 ≤ 2 ^ (8 * width) := pow_le_pow_right₀ (by norm_num) (by omega)
  omega

end BluetoothHci.LegacyHci
