import BluetoothHci.Buffer

/-!
# LE supported states

`LeReadSupportedStates` returns a 64-bit bitmask whose bits 0 to 41 each stand for one
combination of link-layer states, listed in the table `LeAllowedStates`; bits 42 to 63 are
reserved. `LeSupportedStates.fromBitmask` walks the 42 bits in ascending order and collects
the table row of every set bit, so it keeps exactly the rows of the set bits and never reads
past the table. `toString` names the states of each row from `LeStateNames`; on what
`fromBitmask` returns it never meets an `undefined` row, and no two states share a name.
-/

set_option autoImplicit false

namespace BluetoothHci

/-- `LeState`. -/
inductive LeState where
  | scanUndirectAdv
  | connScanUndirectAdv
  | nonConnNonScanUndirectAdv
  | highDutyConnDirectAdv
  | lowDutyConnDirectAdv
  | activeScanning
  | passiveScanning
  | initiating
  | connectionMasterRole
  | connectionSlaveRole
  deriving DecidableEq, Repr

open LeState in
/-- `LeAllowedStates`: row `b` lists the states bit `b` of the bitmask stands for. -/
def leAllowedStates : List (List LeState) := [
  [nonConnNonScanUndirectAdv], [scanUndirectAdv], [connScanUndirectAdv], [highDutyConnDirectAdv],
  [passiveScanning], [activeScanning], [initiating], [connectionSlaveRole],
  [nonConnNonScanUndirectAdv, passiveScanning], [scanUndirectAdv, passiveScanning],
  [connScanUndirectAdv, passiveScanning], [highDutyConnDirectAdv, passiveScanning],
  [nonConnNonScanUndirectAdv, activeScanning], [scanUndirectAdv, activeScanning],
  [connScanUndirectAdv, activeScanning], [highDutyConnDirectAdv, activeScanning],
  [nonConnNonScanUndirectAdv, initiating], [scanUndirectAdv, initiating],
  [nonConnNonScanUndirectAdv, connectionMasterRole], [scanUndirectAdv, connectionMasterRole],
  [nonConnNonScanUndirectAdv, connectionSlaveRole], [scanUndirectAdv, connectionSlaveRole],
  [passiveScanning, initiating], [activeScanning, initiating],
  [passiveScanning, connectionMasterRole], [activeScanning, connectionMasterRole],
  [passiveScanning, connectionSlaveRole], [activeScanning, connectionSlaveRole],
  [initiating, connectionMasterRole], [lowDutyConnDirectAdv],
  [lowDutyConnDirectAdv, passiveScanning], [lowDutyConnDirectAdv, activeScanning],
  [connScanUndirectAdv, initiating], [highDutyConnDirectAdv, initiating],
  [lowDutyConnDirectAdv, initiating], [connScanUndirectAdv, connectionMasterRole],
  [highDutyConnDirectAdv, connectionMasterRole], [lowDutyConnDirectAdv, connectionMasterRole],
  [connScanUndirectAdv, connectionSlaveRole], [highDutyConnDirectAdv, connectionSlaveRole],
  [lowDutyConnDirectAdv, connectionSlaveRole], [initiating, connectionSlaveRole]]

/-- `LeSupportedStates.fromBitmask(bitmask).states`: for `b` from `0` to `41`, the row
`LeAllowedStates[b]` (`none` standing for `undefined`) when `bitmask & (1n << b)` is not zero. -/
def LeSupportedStates.fromBitmask (bitmask : Nat) : List (Option (List LeState)) :=
  (List.range 42).foldl
    (fun states b => if bitmask &&& 1 <<< b ≠ 0 then states ++ [leAllowedStates[b]?] else states) []

/-- The result of the older `leReadSupportedStates` on the command's return parameters. -/
def LegacyHci.leReadSupportedStates (params : List UInt8) :
    Except HciParserError (List (Option (List LeState))) :=
  if params.length < 64 / 8 then .error .invalidPayloadSize
  else .ok (LeSupportedStates.fromBitmask (readLE ((params.drop 0).take 8)))

/-- `popcount(bitmask mod 2 ^ width)`: the set bits of `bitmask` below bit `width`. -/
def popcountBelow (width bitmask : Nat) : Nat :=
  ((List.range width).filter fun b => bitmask.testBit b).length

private theorem and_shiftLeft_ne_zero (bitmask b : Nat) :
    bitmask &&& 1 <<< b ≠ 0 ↔ bitmask.testBit b := by
  rw [Nat.one_shiftLeft]
  constructor
  · intro nonzero
    by_contra unset
    exact nonzero (Nat.eq_of_testBit_eq fun index => by
      by_cases same : b = index
      · subst same; simp [Nat.testBit_and, unset]
      · simp [Nat.testBit_and, Nat.testBit_two_pow, same])
  · intro set zero
    simpa [Nat.testBit_and, set] using congrArg (Nat.testBit · b) zero

private theorem foldl_push (bitmask : Nat) (bits : List Nat) (states : List (Option (List LeState))) :
    bits.foldl (fun states b => if bitmask &&& 1 <<< b ≠ 0 then states ++ [leAllowedStates[b]?] else states)
      states = states ++ (bits.filter fun b => bitmask.testBit b).map fun b => leAllowedStates[b]? := by
  induction bits generalizing states with
  | nil => simp
  | cons b rest ih =>
      rw [List.foldl_cons, ih, List.filter_cons]
      by_cases set : bitmask.testBit b
      · simp [(and_shiftLeft_ne_zero bitmask b).mpr set, set]
      · simp [show ¬ bitmask &&& 1 <<< b ≠ 0 from fun nonzero => set ((and_shiftLeft_ne_zero _ _).mp nonzero),
          set]

private theorem fromBitmask_eq (bitmask : Nat) :
    LeSupportedStates.fromBitmask bitmask =
      ((List.range 42).filter fun b => bitmask.testBit b).map fun b => leAllowedStates[b]? := by
  rw [LeSupportedStates.fromBitmask, foldl_push, List.nil_append]

private theorem leReadSupportedStates_eq {params : List UInt8} (long : 8 ≤ params.length) :
    ∃ bitmask < 2 ^ 64, LegacyHci.leReadSupportedStates params =
      .ok (LeSupportedStates.fromBitmask bitmask) := by
  have small := readLE_lt ((params.drop 0).take 8)
  rw [List.length_take, List.drop_zero, Nat.min_eq_left long] at small
  exact ⟨_, small, if_neg (by omega)⟩

private theorem fromBitmask_isSome (bitmask : Nat) :
    ∀ entry ∈ LeSupportedStates.fromBitmask bitmask, entry.isSome := fun entry member => by
  rw [fromBitmask_eq] at member
  obtain ⟨b, inRange, rfl⟩ := List.mem_map.mp member
  have : b < leAllowedStates.length := by simpa using (List.mem_filter.mp inRange).1
  simp [List.getElem?_eq_getElem this]

private theorem fromBitmask_length (bitmask : Nat) :
    (LeSupportedStates.fromBitmask bitmask).length = popcountBelow 64 (bitmask % 2 ^ 42) := by
  have low : ∀ b ∈ List.range 42, (bitmask % 2 ^ 42).testBit b = bitmask.testBit b :=
    fun b inRange => by
      simp only [Nat.testBit_mod_two_pow, decide_eq_true (List.mem_range.mp inRange), Bool.true_and]
  have high : ∀ b ∈ (List.range 22).map (42 + ·), (bitmask % 2 ^ 42).testBit b = false :=
    fun b member => by
      obtain ⟨k, -, rfl⟩ := List.mem_map.mp member
      simp only [Nat.testBit_mod_two_pow, decide_eq_false (by omega : ¬ 42 + k < 42), Bool.false_and]
  rw [fromBitmask_eq, List.length_map, popcountBelow, show List.range 64 = _ from List.range_add 42 22,
    List.filter_append, List.filter_congr low, List.filter_congr high]
  simp

private theorem fromBitmask_low_bits (bitmask : Nat) :
    LeSupportedStates.fromBitmask bitmask = LeSupportedStates.fromBitmask (bitmask &&& (2 ^ 42 - 1)) := by
  rw [fromBitmask_eq, fromBitmask_eq]
  congr 1
  refine List.filter_congr fun b inRange => ?_
  simp only [Nat.testBit_and, Nat.testBit_two_pow_sub_one, decide_eq_true (List.mem_range.mp inRange),
    Bool.and_true]

/-- The states of a bitmask are the table rows of its set bits 0 to 41 in ascending order,
each a defined row: as many as the bits of the bitmask below bit 42, and the reserved bits
42 to 63 play no part. -/
theorem fromBitmask_rows :
    (∀ bitmask, LeSupportedStates.fromBitmask bitmask =
      ((List.range 42).filter fun b => bitmask.testBit b).map fun b => leAllowedStates[b]?) ∧
    (∀ bitmask, ∀ entry ∈ LeSupportedStates.fromBitmask bitmask, entry.isSome) ∧
    (∀ bitmask, (LeSupportedStates.fromBitmask bitmask).length = popcountBelow 64 (bitmask % 2 ^ 42)) ∧
    (∀ bitmask, LeSupportedStates.fromBitmask bitmask =
      LeSupportedStates.fromBitmask (bitmask &&& (2 ^ 42 - 1))) :=
  ⟨fromBitmask_eq, fromBitmask_isSome, fromBitmask_length, fromBitmask_low_bits⟩

/-! ## Names of the states -/

/-- `LeStateNames`: the name of each state, indexed by the state's number. -/
def leStateNames : List String := [
  "Scannable Undirected Advertising State",
  "Connectable and Scannable Undirected Advertising State",
  "Non-connectable and Non-Scannable Undirected Advertising State",
  "High Duty Cycle Connectable Directed Advertising State",
  "Low Duty Cycle Connectable Directed Advertising State",
  "Active Scanning State",
  "Passive Scanning State",
  "Initiating State",
  "Connection State (Master Role)",
  "Connection State (Slave Role)"]

/-- `LeSupportedStates.toString()`: each row of states as the list of their names
`LeStateNames[e]` (`none` standing for `undefined`). A row that is `undefined` makes
`state.map` throw a `TypeError`, here `none`. -/
def LeSupportedStates.toString (states : List (Option (List LeState))) : Option (List (List (Option String))) :=
  states.mapM fun state => state.map fun row => row.map fun e => leStateNames[e.toCtorIdx]?

/-- Every state has a name, and no two states share one. -/
theorem leStateNames_named :
    (∀ e : LeState, (leStateNames[e.toCtorIdx]?).isSome) ∧
      Function.Injective fun e : LeState => leStateNames[e.toCtorIdx]? := by
  refine ⟨fun e => by cases e <;> rfl, fun first second same => ?_⟩
  cases first <;> cases second <;> first | rfl | exact absurd same (by decide)

/-- `toString` never throws on the states `fromBitmask` returns: it names every state of every
row. -/
theorem toString_fromBitmask (bitmask : Nat) :
    LeSupportedStates.toString (LeSupportedStates.fromBitmask bitmask) =
      some ((LeSupportedStates.fromBitmask bitmask).map fun state =>
        (state.getD []).map fun e => leStateNames[e.toCtorIdx]?) := by
  have rows := fromBitmask_isSome bitmask
  unfold LeSupportedStates.toString
  generalize LeSupportedStates.fromBitmask bitmask = states at rows ⊢
  induction states with
  | nil => rfl
  | cons state rest ih =>
      obtain ⟨row, rfl⟩ := Option.isSome_iff_exists.mp (rows state (List.mem_cons_self _ _))
      simp only [List.mapM_cons, ih fun other member => rows other (List.mem_cons_of_mem _ member), List.map_cons,
        Option.map_some', Option.getD_some, bind, Option.bind, pure]

end BluetoothHci
