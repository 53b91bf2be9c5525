import Mathlib.Data.Rat.Floor
import BluetoothHci.Error

/-!
# Node buffers

The part of Node's `Buffer` that the codec uses: `Buffer.allocUnsafe`, the little-endian
integer writes and `copy`. A cell of an unsafe allocation holds `none` until a write reaches
it, since `allocUnsafe` hands out earlier heap contents. Every write also records the byte
range it covered, so that the layout an encoder produced can be read off its buffer.
-/

set_option autoImplicit false

namespace BluetoothHci

/-- The cells `[offset, offset + length)` covered by one write. -/
structure ByteRange where
  offset : Nat
  length : Nat
  deriving DecidableEq, Repr

def ByteRange.Contains (range : ByteRange) (index : Nat) : Prop :=
  range.offset ≤ index ∧ index < range.offset + range.length

def ByteRange.Disjoint (range other : ByteRange) : Prop :=
  ∀ index, range.Contains index → ¬ other.Contains index

structure Buffer where
  cells : List (Option UInt8)
  writes : List ByteRange
  deriving DecidableEq, Repr

namespace Buffer

def length (buffer : Buffer) : Nat := buffer.cells.length

@[simp] theorem length_cells (buffer : Buffer) : buffer.cells.length = buffer.length := rfl

/-- `Buffer.allocUnsafe(size)`: `size` cells of whatever the heap held before. -/
def allocUnsafe (size : Nat) : Buffer := ⟨List.replicate size none, []⟩

/-- A buffer holding the given bytes, as the caller's own `Buffer` arguments do. -/
def ofBytes (bytes : List UInt8) : Buffer := ⟨bytes.map some, []⟩

/-- Overwrite the cells from `offset` on with `stored`; cells past the end are not created. -/
def store (buffer : Buffer) (offset : Nat) (stored : List (Option UInt8)) : Buffer where
  cells := buffer.cells.mapIdx fun index cell =>
    if offset ≤ index ∧ index < offset + stored.length then (stored[index - offset]?).getD none
    else cell
  writes := buffer.writes ++ [⟨offset, stored.length⟩]

@[simp] theorem length_allocUnsafe (size : Nat) : (allocUnsafe size).length = size :=
  List.length_replicate size none

@[simp] theorem writes_allocUnsafe (size : Nat) : (allocUnsafe size).writes = [] := rfl

@[simp] theorem cells_allocUnsafe (size : Nat) :
    (allocUnsafe size).cells = List.replicate size none := rfl

@[simp] theorem length_ofBytes (bytes : List UInt8) : (ofBytes bytes).length = bytes.length :=
  List.length_map bytes some

@[simp] theorem length_store (buffer : Buffer) (offset : Nat) (stored : List (Option UInt8)) :
    (buffer.store offset stored).length = buffer.length :=
  List.length_mapIdx

@[simp] theorem writes_store (buffer : Buffer) (offset : Nat) (stored : List (Option UInt8)) :
    (buffer.store offset stored).writes = buffer.writes ++ [⟨offset, stored.length⟩] := rfl

theorem cells_store {buffer : Buffer} {offset : Nat} {stored : List (Option UInt8)}
    (inBounds : offset + stored.length ≤ buffer.length) :
    (buffer.store offset stored).cells =
      buffer.cells.take offset ++ stored ++ buffer.cells.drop (offset + stored.length) := by
  apply List.ext_getElem?
  intro index
  have cellsLength : buffer.cells.length = buffer.length := rfl
  simp only [store, List.getElem?_mapIdx]
  rcases Nat.lt_or_ge index offset with before | after
  · rw [List.append_assoc, List.getElem?_append_left (by simp; omega)]
    simp [Nat.not_le.mpr before, List.getElem?_take, before]
  · rcases Nat.lt_or_ge index (offset + stored.length) with inside | beyond
    · rw [List.getElem?_append_left (by simp; omega), List.getElem?_append_right (by simp; omega)]
      simp only [List.length_take, length_cells, show min offset buffer.length = offset by omega]
      rw [List.getElem?_eq_getElem (by omega : index < buffer.cells.length)]
      simp [after, inside, List.getElem?_eq_getElem (by omega : index - offset < stored.length)]
    · rw [List.getElem?_append_right (by simp; omega)]
      simp only [List.length_append, List.length_take, length_cells,
        show min offset buffer.length = offset by omega, List.getElem?_drop]
      rw [show offset + stored.length + (index - (offset + stored.length)) = index by omega]
      cases buffer.cells[index]? <;> simp; omega

end Buffer

/-! ## Integer writes -/

/-- The `width` little-endian bytes of `value`; bits above `8 * width` are dropped. -/
def leBytes : Nat → Nat → List UInt8
  | 0, _ => []
  | width + 1, value => UInt8.ofNat value :: leBytes width (value / 256)

/-- The number whose little-endian bytes are given, as `readUIntLE` reads it. -/
def readLE : List UInt8 → Nat
  | [] => 0
  | byte :: rest => byte.toNat + 256 * readLE rest

theorem readLE_lt (bytes : List UInt8) : readLE bytes < 256 ^ bytes.length := by
  induction bytes with
  | nil => simp [readLE]
  | cons byte rest ih =>
      have : byte.toNat < 256 := byte.toNat_lt_size
      rw [readLE, List.length_cons, Nat.pow_succ']
      omega

/-- `readUInt16LE(offset)` on received bytes whose length the caller has checked. -/
def readUInt16LE (bytes : List UInt8) (offset : Nat) : Int := readLE ((bytes.drop offset).take 2)

@[simp] theorem length_leBytes (width value : Nat) : (leBytes width value).length = width := by
  induction width generalizing value with
  | zero => rfl
  | succ width ih => simp [leBytes, ih]

@[simp] theorem toNat_uint8_ofNat (value : Nat) : (UInt8.ofNat value).toNat = value % 256 := by
  simp [UInt8.ofNat, UInt8.toNat, Fin.ofNat]

theorem readLE_leBytes (width value : Nat) : readLE (leBytes width value) = value % 256 ^ width := by
  induction width generalizing value with
  | zero => simp [leBytes, readLE, Nat.mod_one]
  | succ width ih => rw [leBytes, readLE, ih, toNat_uint8_ofNat, Nat.pow_succ', Nat.mod_mul]

namespace Buffer

/-- Node's integer writes: `writeUIntLE` and `writeIntLE` dispatch on `byteLength` and throw
for one outside `1..6`; the value is then checked against `[lo, hi]`, the field against the
end of the buffer, and the `width` bytes of the value (two's complement for the signed writes)
are stored little-endian. Returns the offset just past the field. -/
def writeIntegerLE (lo hi : Int) (buffer : Buffer) (value : Int) (offset width : Nat) :
    Except HostError (Buffer × Nat) :=
  if width < 1 ∨ 6 < width then .error (.rangeError (.byteLengthOutOfRange width))
  else if value < lo ∨ hi < value then .error (.rangeError (.outOfRange value lo hi))
  else if buffer.length < offset + width then .error (.rangeError (.bufferOutOfBounds offset width))
  else .ok (buffer.store offset ((leBytes width (value % 2 ^ (8 * width)).toNat).map some),
    offset + width)

/-- `buf.writeUIntLE(value, offset, byteLength)`. -/
def writeUIntLE (buffer : Buffer) (value : Int) (offset width : Nat) :
    Except HostError (Buffer × Nat) :=
  buffer.writeIntegerLE 0 (2 ^ (8 * width) - 1) value offset width

/-- `buf.writeIntLE(value, offset, byteLength)`. -/
def writeIntLE (buffer : Buffer) (value : Int) (offset width : Nat) :
    Except HostError (Buffer × Nat) :=
  buffer.writeIntegerLE (-2 ^ (8 * width - 1)) (2 ^ (8 * width - 1) - 1) value offset width

/-- `buf.writeUInt8(value, offset)`; a call without an offset writes at `0`. -/
def writeUInt8 (buffer : Buffer) (value : Int) (offset : Nat) : Except HostError (Buffer × Nat) :=
  buffer.writeUIntLE value offset 1

/-- `buf.writeUInt16LE(value, offset)`; a call without an offset writes at `0`. -/
def writeUInt16LE (buffer : Buffer) (value : Int) (offset : Nat) :
    Except HostError (Buffer × Nat) :=
  buffer.writeUIntLE value offset 2

/-- `source.copy(target, targetStart)`: as many cells as fit from `targetStart` on. -/
def copy (source : Buffer) (target : Buffer) (targetStart : Nat) : Buffer × Nat :=
  let count := min source.length (target.length - targetStart)
  (target.store targetStart (source.cells.take count), count)

theorem copy_of_fits {source target : Buffer} {targetStart : Nat}
    (fits : target.length = targetStart + source.length) :
    (source.copy target targetStart).1 = target.store targetStart source.cells := by
  simp only [copy, show min source.length (target.length - targetStart) = source.length by omega]
  rw [List.take_of_length_le (by simp)]

end Buffer

end BluetoothHci

/-! ## Layout of the writes -/

namespace BluetoothHci

/-- Where a run of ranges laid end to end from `start` stops, if they are laid so. -/
def ByteRange.chainEnd : Nat → List ByteRange → Option Nat
  | start, [] => some start
  | start, range :: rest => if range.offset = start then chainEnd (start + range.length) rest else none

namespace Buffer

/-- The writes cover pairwise disjoint ranges whose union is the whole buffer. -/
structure Tiled (buffer : Buffer) : Prop where
  disjoint : buffer.writes.Pairwise ByteRange.Disjoint
  covers : ∀ index, index < buffer.length ↔ ∃ range ∈ buffer.writes, range.Contains index

/-- Every cell some write covered holds a byte. -/
def Tracked (buffer : Buffer) : Prop :=
  ∀ index, (∃ range ∈ buffer.writes, range.Contains index) →
    ∀ cell, buffer.cells[index]? = some cell → cell.isSome

/-- No cell holds leftover heap contents. -/
def Initialized (buffer : Buffer) : Prop := ∀ cell ∈ buffer.cells, cell.isSome

end Buffer

theorem ByteRange.chainEnd_spec {start stop : Nat} {ranges : List ByteRange}
    (laid : ByteRange.chainEnd start ranges = some stop) :
    ranges.Pairwise ByteRange.Disjoint ∧ start ≤ stop ∧
      ∀ index, (start ≤ index ∧ index < stop) ↔ ∃ range ∈ ranges, range.Contains index := by
  induction ranges generalizing start with
  | nil =>
      simp only [chainEnd, Option.some.injEq] at laid
      subst laid
      simp only [List.Pairwise.nil, le_refl, List.not_mem_nil, false_and, exists_false, iff_false,
        not_and, not_lt, true_and]
      intro index below; exact below
  | cons range rest ih =>
      simp only [chainEnd] at laid
      split at laid
      · rename_i starts
        obtain ⟨disjoint, after, covers⟩ := ih laid
        refine ⟨List.pairwise_cons.mpr ⟨?_, disjoint⟩, by omega, ?_⟩
        · intro other member index inRange inOther
          have := (covers index).mpr ⟨other, member, inOther⟩
          simp only [ByteRange.Contains] at inRange; omega
        · intro index
          simp only [List.mem_cons, or_and_right, exists_or, exists_eq_left]
          rw [← covers index]
          simp only [ByteRange.Contains]; omega
      · cases laid

theorem Buffer.tiled_of_chainEnd {buffer : Buffer}
    (laid : ByteRange.chainEnd 0 buffer.writes = some buffer.length) : buffer.Tiled := by
  obtain ⟨disjoint, -, covers⟩ := ByteRange.chainEnd_spec laid
  exact ⟨disjoint, fun index => by simpa using covers index⟩

@[simp] theorem Buffer.tracked_allocUnsafe (size : Nat) : (Buffer.allocUnsafe size).Tracked := by
  simp [Buffer.Tracked]

theorem Buffer.Tracked.store {buffer : Buffer} (tracked : buffer.Tracked) (offset : Nat)
    {stored : List (Option UInt8)} (bytes : ∀ cell ∈ stored, cell.isSome) :
    (buffer.store offset stored).Tracked := by
  intro index covered cell found
  simp only [Buffer.store, List.getElem?_mapIdx, Option.map_eq_some'] at found
  obtain ⟨old, atIndex, rfl⟩ := found
  split
  · rename_i inRange
    have inStored : index - offset < stored.length := by omega
    simpa [List.getElem?_eq_getElem inStored] using bytes _ (List.getElem_mem inStored)
  · rename_i outside
    simp only [Buffer.writes_store, List.mem_append, List.mem_singleton] at covered
    obtain ⟨range, member, contains⟩ := covered
    rcases member with previous | rfl
    · exact tracked index ⟨range, previous, contains⟩ old atIndex
    · exact absurd contains outside

@[simp] theorem Buffer.tracked_store_some {buffer : Buffer} (tracked : buffer.Tracked)
    (offset : Nat) (bytes : List UInt8) : (buffer.store offset (bytes.map some)).Tracked :=
  tracked.store offset (by simp)

theorem Buffer.Tiled.initialized {buffer : Buffer} (tiled : buffer.Tiled)
    (tracked : buffer.Tracked) : buffer.Initialized := by
  intro cell member
  obtain ⟨index, inCells, rfl⟩ := List.getElem_of_mem member
  exact tracked index ((tiled.covers index).mp inCells) _ (List.getElem?_eq_getElem inCells)

end BluetoothHci

/-! ## What a successful write did -/

namespace BluetoothHci

theorem except_bind_eq_ok {ε α β : Type} (action : Except ε α) (continuation : α → Except ε β)
    (result : β) :
    action >>= continuation = .ok result ↔ ∃ value, action = .ok value ∧ continuation value = .ok result := by
  cases action <;> simp [bind, Except.bind]

namespace Buffer

theorem writeIntegerLE_eq_ok {lo hi value : Int} {buffer written : Buffer} {offset width stop : Nat} :
    buffer.writeIntegerLE lo hi value offset width = .ok (written, stop) ↔
      written = buffer.store offset ((leBytes width (value % 2 ^ (8 * width)).toNat).map some) ∧
        stop = offset + width ∧ 1 ≤ width ∧ width ≤ 6 ∧ lo ≤ value ∧ value ≤ hi ∧
        offset + width ≤ buffer.length := by
  unfold writeIntegerLE
  split
  · simp only [reduceCtorEq, false_iff, not_and, not_le]; omega
  · split
    · simp only [reduceCtorEq, false_iff, not_and, not_le]; omega
    · split
      · simp only [reduceCtorEq, false_iff, not_and, not_le]; omega
      · simp only [Except.ok.injEq, Prod.mk.injEq]; constructor
        · intro ⟨same, stopped⟩; exact ⟨same.symm, stopped.symm, by omega⟩
        · intro ⟨same, stopped, _⟩; exact ⟨same.symm, stopped.symm⟩

theorem writeIntegerLE_isOk {lo hi value : Int} {buffer : Buffer} {offset width : Nat}
    (wide : 1 ≤ width) (narrow : width ≤ 6) (low : lo ≤ value) (high : value ≤ hi)
    (fits : offset + width ≤ buffer.length) :
    ∃ written, buffer.writeIntegerLE lo hi value offset width = .ok written :=
  ⟨_, writeIntegerLE_eq_ok.mpr ⟨rfl, rfl, wide, narrow, low, high, fits⟩⟩

end Buffer

end BluetoothHci
