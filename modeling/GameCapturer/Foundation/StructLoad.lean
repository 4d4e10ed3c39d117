import Mathlib.Tactic.Ring

/-!
# Loads of scalar fields from a block of bytes

A pointer cast gives a struct view of raw memory: a field is a little-endian
scalar at a fixed offset.  A `Load` carries, besides its value, the offsets it
touches and the proof that the value depends on nothing else, so that a bound
on the touched offsets really bounds what the code reads.  A program that loads
here and there, as its control flow goes, records the offsets it has read.
-/

namespace Foundation

namespace StructLoad

/-- Byte contents at the offsets from a pointer. -/
abbrev Bytes := Nat → UInt8

/-- The bytes behind a pointer to an allocated block and beyond its end. -/
def block
    (contents : List UInt8)
    (beyond : Bytes) : Bytes :=
  fun offset => contents[offset]?.getD (beyond offset)

/-- Write the low `count` bytes of a number, least significant first. -/
def encode : (count : Nat) → Nat → List UInt8
  | 0, _ => []
  | count + 1, value =>
      UInt8.ofNat value :: encode count (value / 256)

/-- Read `count` bytes as a number, least significant first. -/
def decode (bytes : Bytes) (offset : Nat) : (count : Nat) → Nat
  | 0 => 0
  | count + 1 =>
      (bytes offset).toNat + 256 * decode bytes (offset + 1) count

@[simp] theorem length_encode (count value : Nat) :
    (encode count value).length = count := by
  induction count generalizing value with
  | zero =>
      rfl
  | succ count inductionHypothesis =>
      simp [encode, inductionHypothesis]

/-- A decoded scalar depends only on its own bytes. -/
theorem decode_congr
    {bytes others : Bytes}
    {offset count : Nat}
    (same :
      ∀ index,
        offset ≤ index →
        index < offset + count →
        bytes index = others index) :
    decode bytes offset count = decode others offset count := by
  induction count generalizing offset with
  | zero =>
      rfl
  | succ count inductionHypothesis =>
      have first := same offset (by omega) (by omega)
      have later :
          decode bytes (offset + 1) count =
            decode others (offset + 1) count :=
        inductionHypothesis fun index lower upper =>
          same index (by omega) (by omega)
      rw [decode, decode, first, later]

/-- The first byte of a block behind a known leading part. -/
theorem block_at_length
    (leading trailing : List UInt8)
    (byte : UInt8)
    (beyond : Bytes) :
    block (leading ++ byte :: trailing) beyond leading.length =
      byte := by
  simp [block]

/-- Decoding an encoded scalar inside a block recovers its low bytes. -/
theorem decode_block_encode
    (leading trailing : List UInt8)
    (count value : Nat)
    (beyond : Bytes) :
    decode
        (block (leading ++ encode count value ++ trailing) beyond)
        leading.length count =
      value % 256 ^ count := by
  induction count generalizing leading value with
  | zero =>
      simp [decode, Nat.mod_one]
  | succ count inductionHypothesis =>
      have shape :
          leading ++ encode (count + 1) value ++ trailing =
            (leading ++ [UInt8.ofNat value]) ++
              encode count (value / 256) ++ trailing := by
        simp [encode]
      have later :=
        inductionHypothesis (leading ++ [UInt8.ofNat value])
          (value / 256)
      rw [List.length_append, List.length_singleton] at later
      have first :
          block
              ((leading ++ [UInt8.ofNat value]) ++
                encode count (value / 256) ++ trailing)
              beyond leading.length =
            UInt8.ofNat value := by
        rw [List.append_assoc, List.append_assoc]
        exact block_at_length _ _ _ _
      have widened : 256 ^ (count + 1) = 256 * 256 ^ count :=
        Nat.pow_succ'
      rw [decode, shape, later, first, UInt8.toNat_ofNat',
        widened, Nat.mod_mul]

/-- A scalar encoded at a known offset of a block is decoded exactly. -/
theorem decode_block_field
    {contents leading trailing : List UInt8}
    {offset count value : Nat}
    (shape : contents = leading ++ encode count value ++ trailing)
    (position : leading.length = offset)
    (small : value < 256 ^ count)
    (beyond : Bytes) :
    decode (block contents beyond) offset count = value := by
  subst shape position
  rw [decode_block_encode, Nat.mod_eq_of_lt small]

/-- A computed value together with the offsets it was computed from. -/
structure Load (Value : Type) where
  value : Bytes → Value
  footprint : List Nat
  determined :
    ∀ {bytes others : Bytes},
      (∀ offset ∈ footprint, bytes offset = others offset) →
      value bytes = value others

namespace Load

variable {Value First Second : Type}

/-- Load an unsigned scalar of `count` bytes. -/
def scalar (offset count : Nat) : Load Nat where
  value bytes := decode bytes offset count
  footprint := List.range' offset count
  determined same :=
    decode_congr fun index lower upper =>
      same index (List.mem_range'_1.mpr ⟨lower, upper⟩)

/-- Compute from a loaded value without touching memory again. -/
def map (compute : First → Value) (load : Load First) :
    Load Value where
  value bytes := compute (load.value bytes)
  footprint := load.footprint
  determined same := congrArg compute (load.determined same)

/-- Combine two loads, touching the offsets of both. -/
def map₂
    (compute : First → Second → Value)
    (first : Load First)
    (second : Load Second) :
    Load Value where
  value bytes := compute (first.value bytes) (second.value bytes)
  footprint := first.footprint ++ second.footprint
  determined same := by
    have firstSame :=
      first.determined fun offset member =>
        same offset (List.mem_append_left _ member)
    have secondSame :=
      second.determined fun offset member =>
        same offset (List.mem_append_right _ member)
    rw [firstSame, secondSame]

/-- A load whose footprint lies in an allocated block ignores what follows. -/
theorem value_block_of_inside
    (load : Load Value)
    {contents : List UInt8}
    (inside : ∀ offset ∈ load.footprint, offset < contents.length)
    (beyond otherBeyond : Bytes) :
    load.value (block contents beyond) =
      load.value (block contents otherBeyond) := by
  apply load.determined
  intro offset member
  simp [block, List.getElem?_eq_getElem (inside offset member)]

end Load

/-- A result together with the offsets that were read for it, in order. -/
structure Traced (Value : Type) where
  result : Value
  reads : List Nat

namespace Traced

variable {Value Next : Type}

instance : Monad Traced where
  pure value := { result := value, reads := [] }
  bind traced next := {
    result := (next traced.result).result
    reads := traced.reads ++ (next traced.result).reads
  }

@[simp] theorem result_pure (value : Value) :
    (pure value : Traced Value).result = value :=
  rfl

@[simp] theorem reads_pure (value : Value) :
    (pure value : Traced Value).reads = [] :=
  rfl

@[simp] theorem result_bind
    (traced : Traced Value)
    (next : Value → Traced Next) :
    (traced >>= next).result = (next traced.result).result :=
  rfl

@[simp] theorem reads_bind
    (traced : Traced Value)
    (next : Value → Traced Next) :
    (traced >>= next).reads =
      traced.reads ++ (next traced.result).reads :=
  rfl

/-- Everything that was read lies below a bound. -/
def Below (traced : Traced Value) (bound : Nat) : Prop :=
  ∀ offset ∈ traced.reads, offset < bound

/-- A program whose parts read below a bound reads below it. -/
theorem Below.bind
    {traced : Traced Value}
    {next : Value → Traced Next}
    {bound : Nat}
    (first : traced.Below bound)
    (second : (next traced.result).Below bound) :
    (traced >>= next).Below bound :=
  List.forall_mem_append.mpr ⟨first, second⟩

/-- A larger block contains what a smaller one does. -/
theorem Below.trans
    {traced : Traced Value}
    {bound larger : Nat}
    (below : traced.Below bound)
    (le : bound ≤ larger) :
    traced.Below larger :=
  fun offset member => Nat.lt_of_lt_of_le (below offset member) le

end Traced

/-- Perform a load on the memory behind a pointer. -/
def Load.run {Value : Type} (load : Load Value) (bytes : Bytes) :
    Traced Value where
  result := load.value bytes
  reads := load.footprint

end StructLoad

end Foundation
