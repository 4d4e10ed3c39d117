import GameCapturer.Foundation.StructLoad

/-!
# Stores of bytes into a memory

The counterpart of the loads: a store replaces a block of bytes, a later load
of the same place finds it, and a load elsewhere is not affected.
-/

namespace Foundation.StructLoad

/-- Replace the bytes from an offset on by the given ones. -/
def store
    (bytes : Bytes)
    (offset : Nat)
    (data : List UInt8) : Bytes :=
  fun index =>
    if index < offset then
      bytes index
    else
      data[index - offset]?.getD (bytes index)

/-- Read `count` bytes from an offset on. -/
def slice
    (bytes : Bytes)
    (offset count : Nat) : List UInt8 :=
  (List.range count).map fun index => bytes (offset + index)

@[simp] theorem length_slice (bytes : Bytes) (offset count : Nat) :
    (slice bytes offset count).length = count := by
  simp [slice]

/-- A slice depends only on its own bytes. -/
theorem slice_congr
    {bytes others : Bytes}
    {offset count : Nat}
    (same :
      ∀ index,
        offset ≤ index →
        index < offset + count →
        bytes index = others index) :
    slice bytes offset count = slice others offset count := by
  apply List.map_congr_left
  intro index member
  have inside := List.mem_range.mp member
  exact same _ (Nat.le_add_right _ _) (by omega)

variable {bytes : Bytes} {offset : Nat} {data : List UInt8}

/-- A store changes nothing before or behind the stored bytes. -/
theorem store_outside
    {index : Nat}
    (outside : index < offset ∨ offset + data.length ≤ index) :
    store bytes offset data index = bytes index := by
  unfold store
  split
  · rfl
  · have behind : data.length ≤ index - offset := by omega
    rw [List.getElem?_eq_none behind, Option.getD_none]

/-- The stored bytes are found again. -/
theorem slice_store :
    slice (store bytes offset data) offset data.length = data := by
  apply List.ext_getElem
  · simp
  · intro index inside there
    simp [slice, store, there]

/-- A slice that does not meet the stored bytes is not affected. -/
theorem slice_store_apart
    {start count : Nat}
    (apart : start + count ≤ offset ∨ offset + data.length ≤ start) :
    slice (store bytes offset data) start count =
      slice bytes start count :=
  slice_congr fun index lower upper => store_outside (by omega)

/-- A scalar that does not meet the stored bytes is not affected. -/
theorem decode_store_apart
    {start count : Nat}
    (apart : start + count ≤ offset ∨ offset + data.length ≤ start) :
    decode (store bytes offset data) start count =
      decode bytes start count :=
  decode_congr fun index lower upper => store_outside (by omega)

/-- A scalar can be read relative to a pointer. -/
theorem decode_add
    (bytes : Bytes)
    (offset start count : Nat) :
    decode bytes (offset + start) count =
      decode (fun index => bytes (offset + index)) start count := by
  induction count generalizing start with
  | zero =>
      rfl
  | succ count inductionHypothesis =>
      rw [decode, decode, Nat.add_assoc,
        inductionHypothesis (start + 1)]

/-- Stored bytes are a block behind the pointer they are stored at. -/
theorem store_add (index : Nat) :
    store bytes offset data (offset + index) =
      block data (fun beyond => bytes (offset + beyond)) index := by
  simp [store, block]

/-- A stored scalar is found again. -/
theorem decode_store
    {count value : Nat}
    (small : value < 256 ^ count) :
    decode (store bytes offset (encode count value)) offset count =
      value := by
  have whole :
      encode count value = [] ++ encode count value ++ [] := by
    simp
  have shifted :=
    decode_add (store bytes offset (encode count value)) offset 0
      count
  rw [Nat.add_zero] at shifted
  simp only [shifted, store_add]
  exact decode_block_field whole rfl small _

end Foundation.StructLoad
