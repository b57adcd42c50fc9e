import CommandLog.Bytes

/-!
# Packed bytes

A byte stream that grows at its end and is read in parts.  A `Packed` keeps its bytes side by side,
so that its size is known and a part in the middle is found at once, however long the stream is.

`Packed.toBytes` is the stream itself.  Every operation is stated through it: `toBytes_append`,
`length_toBytes` and `slice_eq` say that appending, measuring and reading a part are those of the
stream, and `toBytes_injective` that nothing else distinguishes two packed streams.
-/

namespace CommandLog

/-- A byte stream with its bytes side by side. -/
structure Packed where
  array : ByteArray

namespace Packed

/-- The stream, first byte first. -/
def toBytes (packed : Packed) : Bytes := packed.array.data.toList

/-- Packs a stream. -/
def ofBytes (stream : Bytes) : Packed := ⟨stream.toByteArray⟩

/-- No byte at all. -/
def empty : Packed := ⟨ByteArray.empty⟩

/-- How many bytes there are. -/
def size (packed : Packed) : Nat := packed.array.size

/-- Is there no byte? -/
def isEmpty (packed : Packed) : Bool := packed.size == 0

/-- Adds a stream at the end. -/
def append (packed : Packed) (stream : Bytes) : Packed :=
  ⟨packed.array ++ stream.toByteArray⟩

/-- At most `room` bytes from a position on.  Both are cut to what is there first. -/
def slice (packed : Packed) (position room : Nat) : Bytes :=
  let start := min position packed.size
  (packed.array.extract start (start + min room (packed.size - start))).data.toList

@[simp] theorem toBytes_ofBytes (stream : Bytes) : (ofBytes stream).toBytes = stream := by
  simp [toBytes, ofBytes]

@[simp] theorem toBytes_empty : empty.toBytes = [] := rfl

@[simp] theorem toBytes_append (packed : Packed) (stream : Bytes) :
    (packed.append stream).toBytes = packed.toBytes ++ stream := by
  simp [toBytes, append]

theorem length_toBytes (packed : Packed) : packed.toBytes.length = packed.size := by
  simp [toBytes, size]

/-- There is no byte exactly if the stream is empty. -/
theorem isEmpty_eq (packed : Packed) : packed.isEmpty = packed.toBytes.isEmpty := by
  rw [isEmpty, ← length_toBytes]
  cases packed.toBytes <;> rfl

/-- A part is what is left of the stream behind the position, as far as there is room. -/
theorem slice_eq (packed : Packed) (position room : Nat) :
    packed.slice position room = (packed.toBytes.drop position).take room := by
  have hlen : packed.array.data.toList.length = packed.size := length_toBytes packed
  simp only [slice, toBytes, ByteArray.data_extract, Array.toList_extract,
    List.extract_eq_take_drop, Nat.add_sub_cancel_left]
  rcases Nat.le_total position packed.size with h | h
  · rw [Nat.min_eq_left h, ← hlen, ← List.length_drop, ← List.take_eq_take_min]
  · rw [Nat.min_eq_right h, List.drop_eq_nil_of_le (by omega),
      List.drop_eq_nil_of_le (by omega), List.take_nil, List.take_nil]

/-- Packed streams of the same bytes are the same. -/
theorem toBytes_injective {packed other : Packed} (h : packed.toBytes = other.toBytes) :
    packed = other := by
  obtain ⟨array⟩ := packed
  obtain ⟨array'⟩ := other
  exact congrArg Packed.mk (ByteArray.ext (Array.toList_inj.1 h))

end Packed

end CommandLog
