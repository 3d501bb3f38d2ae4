/-
The pattern matcher.

`match.h`, which declares the masked comparisons and the matcher objects, is not among the
sources; what the parsers rely on is the matcher the spec describes, and that is what is
modelled here.  A candidate passes a mask and a value of width `N` when every one of its
first `N` bytes, masked, equals the value byte; a matcher object also asks for `N` bytes of
candidate, after an optional offset, and a shorter candidate never matches.

Two facts are proved of the comparison: masking commutes, so a byte passes two masked tests
only if the two values agree on the bits both masks keep; and zero bytes appended to a mask and
its value add nothing to test.

`u32_compare_masked_data_to_value` and `u64_compare_masked_data_to_value` take a bare pointer
and read 8 and 16 bytes from it, whatever the memory there holds.  They are modelled on the
memory at the pointer, and a read past its end is a fault (`compareMaskedAt`).
-/
import Mathlib.Data.List.GetD
import Mercury.Datum

namespace Mercury

/-! ### Masked comparison -/

/-- Modelled from the spec: the masked comparison of `match.h` (not among the sources).  It
holds when `(data[i] & mask[i]) == value[i]` for every `i < w`. -/
def compareMaskedDataToValue (w : Nat) (data mask value : List UInt8) : Bool :=
  (List.range w).all fun i => (data.getD i 0 &&& mask.getD i 0) == value.getD i 0

/-- The masked comparison of `w` bytes as the code makes it on the memory `mem` at the
pointer: the first byte it reads past the end of `mem` is a fault. -/
def compareMaskedAt (w : Nat) (mem mask value : List UInt8) : Except Fault Bool :=
  if w ≤ mem.length then .ok (compareMaskedDataToValue w mem mask value)
  else .error (.deref (some mem.length))

/-- `u32_compare_masked_data_to_value`: two 32-bit words, the first 8 bytes. -/
def u32CompareMaskedDataToValue : List UInt8 → List UInt8 → List UInt8 → Except Fault Bool :=
  compareMaskedAt 8

/-- `u64_compare_masked_data_to_value`: two 64-bit words, the first 16 bytes. -/
def u64CompareMaskedDataToValue : List UInt8 → List UInt8 → List UInt8 → Except Fault Bool :=
  compareMaskedAt 16

theorem compareMaskedAt_of_le {w : Nat} {mem : List UInt8} (h : w ≤ mem.length)
    (mask value : List UInt8) :
    compareMaskedAt w mem mask value = .ok (compareMaskedDataToValue w mem mask value) :=
  if_pos h

theorem compareMaskedAt_of_lt {w : Nat} {mem : List UInt8} (h : mem.length < w)
    (mask value : List UInt8) :
    compareMaskedAt w mem mask value = .error (.deref (some mem.length)) :=
  if_neg (Nat.not_le_of_lt h)

theorem land_right_comm (a b c : UInt8) : a &&& b &&& c = a &&& c &&& b := by
  apply UInt8.eq_of_toBitVec_eq
  show a.toBitVec &&& b.toBitVec &&& c.toBitVec = a.toBitVec &&& c.toBitVec &&& b.toBitVec
  rw [BitVec.and_assoc, BitVec.and_comm b.toBitVec, ← BitVec.and_assoc]

theorem land_zero (x : UInt8) : x &&& 0 = 0 :=
  UInt8.eq_of_toBitVec_eq BitVec.and_zero

theorem land_ff (x : UInt8) : x &&& 0xff = x :=
  UInt8.eq_of_toBitVec_eq (BitVec.and_allOnes (x := x.toBitVec))

theorem compareMaskedDataToValue_iff {w : Nat} {data mask value : List UInt8} :
    compareMaskedDataToValue w data mask value = true ↔
      ∀ i < w, (data.getD i 0 &&& mask.getD i 0) = value.getD i 0 := by
  simp [compareMaskedDataToValue]

/-- Zero bytes appended to a mask and its value test nothing more. -/
theorem compareMaskedDataToValue_append_zeros {w : Nat} (k : Nat) (data mask value : List UInt8)
    (hm : mask.length = w) (hv : value.length = w) :
    compareMaskedDataToValue (w + k) data (mask ++ List.replicate k 0)
      (value ++ List.replicate k 0) = compareMaskedDataToValue w data mask value := by
  have hz : ∀ i, (List.replicate k (0 : UInt8)).getD i 0 = 0 := fun i => by
    rw [List.getD_eq_getElem?_getD, List.getElem?_getD_replicate_default_eq]
  rw [Bool.eq_iff_iff, compareMaskedDataToValue_iff, compareMaskedDataToValue_iff]
  constructor
  · intro h i hi
    have := h i (by omega)
    rwa [List.getD_append _ _ _ _ (by omega), List.getD_append _ _ _ _ (by omega)] at this
  · intro h i hi
    by_cases hiw : i < w
    · rw [List.getD_append _ _ _ _ (by omega), List.getD_append _ _ _ _ (by omega)]
      exact h i hiw
    · rw [List.getD_append_right _ _ _ _ (by omega), List.getD_append_right _ _ _ _ (by omega),
        hz, hz, land_zero]

/-! ### Matcher objects -/

/-- Modelled from the spec: `mask_and_value<N>` (declared in `match.h`, not among the sources),
a mask and a value of width `N`, in that order. -/
structure MaskAndValue (n : Nat) where
  mask : List UInt8
  value : List UInt8
  mask_length : mask.length = n
  value_length : value.length = n

/-- Modelled from the spec: `matches(data, length)`, which needs `N` bytes and then
`(data[i] & mask[i]) == value[i]` for every `i < N`. -/
def MaskAndValue.matches {n : Nat} (m : MaskAndValue n) (data : List UInt8) (len : Nat) : Bool :=
  decide (n ≤ len) && compareMaskedDataToValue n data m.mask m.value

/-- Modelled from the spec: `mask_value_and_offset<N>` (declared in `match.h`, not among the
sources), a mask and a value of width `N` compared after `offset` bytes. -/
structure MaskValueAndOffset (n : Nat) where
  mask : List UInt8
  value : List UInt8
  offset : Nat
  mask_length : mask.length = n
  value_length : value.length = n

/-- Modelled from the spec: `matches(data, length)`, which needs `offset + N` bytes and then
`(data[offset + i] & mask[i]) == value[i]` for every `i < N`. -/
def MaskValueAndOffset.matches {n : Nat} (m : MaskValueAndOffset n) (data : List UInt8)
    (len : Nat) : Bool :=
  decide (m.offset + n ≤ len) && compareMaskedDataToValue n (data.drop m.offset) m.mask m.value

end Mercury
