/-
The cursor every parser is built from.

`datum` and `encoded` are declared in `datum.h`, and the C-style helpers `parser_match` and
`parser_skip_upto_delim` in `extractor.h`; neither file is among the sources.  What the
parsers rely on is the behaviour the spec gives the cursor, and that is what is modelled
here.  A cursor is either null or a view of the bytes `[data, data_end)` of a buffer it does
not own.  The view keeps those bytes together with the offset of `data` in the buffer, so
`data_end` is `data` plus the number of bytes and `data ≤ data_end` holds of every value of
the type.  Null is sticky: every operation maps it to itself, and its length is zero.

Two families of facts are proved.  The prefix laws say that an operation asking for `|x|`
bytes of a view of `x ++ r` returns `x` and leaves a view of `r`; they are what lets the
parse of a laid-out message be computed one field at a time.  Bounds safety says that
`Within buf` holds of the view of the whole buffer and is kept by every operation, so that a
pointer into a derived view dereferences a byte of `buf`.
-/
import Mathlib.Algebra.Group.Nat.Basic
import Mathlib.Data.List.Basic

namespace Mercury

/-- The result codes of the C-style parsing helpers. -/
inductive Status where
  | ok
  | err
  deriving DecidableEq, Repr

/-- Why a step would touch memory it does not own: what the model reports where the code
has undefined behaviour. -/
inductive Fault where
  /-- `*p` through the null pointer or past the end of the memory it points into -/
  | deref (ptr : Option Nat)
  /-- a name table indexed outside its bounds -/
  | index (table : String) (i : Int)
  /-- `length() - n` on a view shorter than `n`, which wraps as `size_t` -/
  | sizeWrap (length n : Nat)
  /-- a copy past the capacity of a `data_buffer` -/
  | overflow (capacity length : Nat)
  deriving DecidableEq, Repr

/-- Modelled from the spec: `datum` (declared in `datum.h`, not among the sources), the
null cursor or a view of `bytes` starting at offset `data` of the underlying buffer. -/
inductive Datum where
  | null
  | view (data : Nat) (bytes : List UInt8)
  deriving DecidableEq, Repr

namespace Datum

/-- The bytes in view; none for the null cursor. -/
def bytes : Datum → List UInt8
  | null => []
  | view _ bs => bs

/-- `length()`: `data_end - data`, zero when null. -/
def length (d : Datum) : Nat := d.bytes.length

/-- The pointer `data`, with `none` for the null pointer. -/
def data : Datum → Option Nat
  | null => none
  | view o _ => some o

/-- The pointer `data_end`. -/
def dataEnd : Datum → Option Nat
  | null => none
  | view o bs => some (o + bs.length)

/-- `is_not_null()`. -/
def isNotNull : Datum → Bool
  | null => false
  | view _ _ => true

/-- `skip(n)`: advance `data` by `n`, nulling the cursor when fewer than `n` bytes remain. -/
def skip (d : Datum) (n : Nat) : Datum :=
  match d with
  | null => null
  | view o bs => if n ≤ bs.length then view (o + n) (bs.drop n) else null

/-- `parse(d, n)` and the sub-range constructor `datum{d, n}`: the first `n` bytes as a view
of their own and the cursor advanced past them, or two null cursors when fewer remain. -/
def parse (d : Datum) (n : Nat) : Datum × Datum :=
  match d with
  | null => (null, null)
  | view o bs => if n ≤ bs.length then (view o (bs.take n), view (o + n) (bs.drop n))
      else (null, null)

/-- `find_delim(c)`: the offset of the first `c` among the remaining bytes, or `-1`. -/
def findDelim (d : Datum) (c : UInt8) : Int :=
  match d.bytes.findIdx? (· == c) with
  | some i => i
  | none => -1

/-- Modelled from the spec: `trim(n)` drops the last `n` bytes; like `skip`, it nulls a view
too short for it rather than move `data_end` before `data`. -/
def trim (d : Datum) (n : Nat) : Datum :=
  match d with
  | null => null
  | view o bs => if n ≤ bs.length then view o (bs.take (bs.length - n)) else null

end Datum

/-- The unsigned value of bytes stored least significant first. -/
def leValue : List UInt8 → Nat
  | [] => 0
  | b :: bs => b.toNat + 256 * leValue bs

/-- The unsigned value of bytes in network order. -/
def beValue (bs : List UInt8) : Nat := leValue bs.reverse

namespace Datum

/-- Modelled from the spec: `encoded<T>{d, little_endian}` (declared in `datum.h`, not among
the sources) consumes the `w = sizeof(T)` next bytes and reads them in network order unless
the flag is set.  When fewer than `w` bytes remain the cursor is nulled and the value is 0. -/
def encoded (d : Datum) (w : Nat) (littleEndian : Bool) : Nat × Datum :=
  let (field, d) := d.parse w
  (if littleEndian then leValue field.bytes else beValue field.bytes, d)

@[simp] theorem bytes_null : null.bytes = [] := rfl
@[simp] theorem bytes_view (o : Nat) (bs : List UInt8) : (view o bs).bytes = bs := rfl
@[simp] theorem length_null : null.length = 0 := rfl
@[simp] theorem length_view (o : Nat) (bs : List UInt8) : (view o bs).length = bs.length := rfl
@[simp] theorem data_null : null.data = none := rfl
@[simp] theorem dataEnd_null : null.dataEnd = none := rfl
@[simp] theorem data_view (o : Nat) (bs : List UInt8) : (view o bs).data = some o := rfl
@[simp] theorem dataEnd_view (o : Nat) (bs : List UInt8) :
    (view o bs).dataEnd = some (o + bs.length) := rfl
@[simp] theorem isNotNull_null : null.isNotNull = false := rfl
@[simp] theorem isNotNull_view (o : Nat) (bs : List UInt8) : (view o bs).isNotNull = true := rfl
@[simp] theorem skip_null (n : Nat) : null.skip n = null := rfl
@[simp] theorem parse_null (n : Nat) : null.parse n = (null, null) := rfl
@[simp] theorem encoded_null (w : Nat) (le : Bool) : null.encoded w le = (0, null) := by
  cases le <;> rfl

/-! ### Prefix laws -/

section Prefix

variable (o : Nat) {x : List UInt8} (r : List UInt8) {n : Nat}

theorem skip_view_append (hx : x.length = n) : (view o (x ++ r)).skip n = view (o + n) r := by
  subst hx
  simp [skip]

theorem parse_view_append (hx : x.length = n) :
    (view o (x ++ r)).parse n = (view o x, view (o + n) r) := by
  subst hx
  simp [parse]

theorem encoded_view_append (hx : x.length = n) (le : Bool) :
    (view o (x ++ r)).encoded n le = (if le then leValue x else beValue x, view (o + n) r) := by
  simp [encoded, parse_view_append o r hx]

/-- A one-byte field reads the same in either byte order. -/
theorem encoded_view_cons (b : UInt8) (le : Bool) :
    (view o (b :: r)).encoded 1 le = (b.toNat, view (o + 1) r) := by
  have h := encoded_view_append o r (x := [b]) rfl le
  cases le <;> simpa [leValue, beValue] using h

end Prefix

theorem skip_of_lt {d : Datum} {n : Nat} (h : d.length < n) : d.skip n = null := by
  cases d with
  | null => rfl
  | view o bs => simp only [length_view] at h; simp [skip, Nat.not_le.mpr h]

theorem parse_of_lt {d : Datum} {n : Nat} (h : d.length < n) : d.parse n = (null, null) := by
  cases d with
  | null => rfl
  | view o bs => simp only [length_view] at h; simp [parse, Nat.not_le.mpr h]

theorem encoded_of_lt {d : Datum} {n : Nat} (le : Bool) (h : d.length < n) :
    d.encoded n le = (0, null) := by
  cases le <;> simp [encoded, parse_of_lt h, beValue, leValue]

/-- A view asking for no more bytes than it has splits them at `n`. -/
theorem parse_view_of_le {o n : Nat} {bs : List UInt8} (h : n ≤ bs.length) :
    (view o bs).parse n = (view o (bs.take n), view (o + n) (bs.drop n)) := by
  simp [parse, h]

theorem skip_view_of_le {o n : Nat} {bs : List UInt8} (h : n ≤ bs.length) :
    (view o bs).skip n = view (o + n) (bs.drop n) := by
  simp [skip, h]

/-- `trim(n)` keeps all but the last `n` bytes, and none of a view too short for it. -/
theorem bytes_trim (d : Datum) (n : Nat) : (d.trim n).bytes = d.bytes.take (d.length - n) := by
  cases d with
  | null => simp [trim]
  | view o bs =>
    by_cases hn : n ≤ bs.length
    · simp [trim, hn]
    · simp [trim, hn, Nat.sub_eq_zero_of_le (Nat.le_of_not_le hn)]

/-! ### Reads by position

A parse or a read of a field leaves the cursor skipped past the bytes it asked for, whether
they were there or not, and skips compose.  So where the cursor stands after a run of reads is
a function of their total width alone. -/

theorem parse_snd (d : Datum) (n : Nat) : (d.parse n).2 = d.skip n := by
  cases d with
  | null => rfl
  | view o bs => by_cases h : n ≤ bs.length <;> simp [parse, skip, h]

theorem encoded_snd (d : Datum) (w : Nat) (le : Bool) : (d.encoded w le).2 = d.skip w :=
  parse_snd d w

theorem skip_skip (d : Datum) (m n : Nat) : (d.skip m).skip n = d.skip (m + n) := by
  cases d with
  | null => rfl
  | view o bs =>
    by_cases hm : m ≤ bs.length
    · by_cases hn : m + n ≤ bs.length
      · simp [skip, hm, hn, show n ≤ bs.length - m by omega, Nat.add_assoc]
      · simp [skip, hm, hn, show ¬n ≤ bs.length - m by omega]
    · simp [skip, hm, show ¬m + n ≤ bs.length by omega]

/-- A view skipped by `n` has nothing left exactly when it had at most `n` bytes. -/
theorem length_skip_view_eq_zero (o n : Nat) (bs : List UInt8) :
    ((view o bs).skip n).length = 0 ↔ bs.length ≤ n := by
  by_cases h : n ≤ bs.length
  · simp [skip, h]
    omega
  · simp [skip, h]
    omega

theorem length_skip_view_beq_zero (o n : Nat) (bs : List UInt8) :
    (((view o bs).skip n).length == 0) = decide (bs.length ≤ n) := by
  rw [Bool.eq_iff_iff, beq_iff_eq, decide_eq_true_iff]
  exact length_skip_view_eq_zero o n bs

/-- A view skipped by `n` and cut at `m`: the bytes from `n` to `n + m` when they are there. -/
theorem parse_skip_view (o n m : Nat) (bs : List UInt8) :
    (((view o bs).skip n).parse m).1 =
      if n + m ≤ bs.length then view (o + n) ((bs.drop n).take m) else null := by
  by_cases h : n + m ≤ bs.length
  · simp [skip, parse, h, show n ≤ bs.length by omega, show m ≤ bs.length - n by omega]
  · by_cases hn : n ≤ bs.length
    · simp [skip, parse, h, hn, show ¬m ≤ bs.length - n by omega]
    · simp [skip, parse, h, hn]

/-- A one-byte field read `n` bytes into a view: byte `n`, or 0 past the end. -/
theorem encoded_one_skip_view (o n : Nat) (bs : List UInt8) (le : Bool) :
    (((view o bs).skip n).encoded 1 le).1 = (bs.getD n 0).toNat := by
  by_cases h : n < bs.length
  · rw [skip_view_of_le h.le, List.drop_eq_getElem_cons h, encoded_view_cons]
    simp [List.getElem?_eq_getElem h]
  · have h0 : bs.getD n 0 = 0 := by simp [List.getElem?_eq_none (Nat.le_of_not_lt h)]
    have hl := (length_skip_view_eq_zero o n bs).mpr (by omega)
    rw [h0, encoded_of_lt le (by omega)]
    rfl

/-! ### Null is sticky

A cursor that is not null after an operation was not null before it, and a parse that leaves
a cursor behind took all the bytes it asked for. -/

theorem isNotNull_of_skip {d : Datum} {n : Nat} (h : (d.skip n).isNotNull) : d.isNotNull := by
  cases d with
  | null => exact h
  | view o bs => rfl

theorem parse_of_isNotNull {d : Datum} {n : Nat} (h : (d.parse n).2.isNotNull) :
    (d.parse n).1.length = n ∧ d.isNotNull := by
  cases d with
  | null => exact absurd h Bool.false_ne_true
  | view o bs =>
    by_cases hn : n ≤ bs.length
    · simp [parse_view_of_le hn, hn]
    · simp [parse, hn] at h

theorem isNotNull_of_encoded {d : Datum} (w : Nat) (le : Bool)
    (h : (d.encoded w le).2.isNotNull) : d.isNotNull :=
  (parse_of_isNotNull h).2

/-- A parse that returns `n > 0` bytes was given a cursor that is not null. -/
theorem isNotNull_of_length_parse {d : Datum} {n : Nat} (h : (d.parse n).1.length = n)
    (hn : 0 < n) : d.isNotNull := by
  cases d with
  | null => simp at h; omega
  | view o bs => rfl

/-! ### The values of encoded fields -/

theorem leValue_lt (bs : List UInt8) : leValue bs < 256 ^ bs.length := by
  induction bs with
  | nil => simp [leValue]
  | cons b bs ih =>
    have hb : b.toNat < 256 := b.toNat_lt_size
    simp only [leValue, List.length_cons, Nat.pow_succ]
    omega

/-- Bytes of a fixed width are determined by their value, in either byte order. -/
theorem leValue_inj {xs ys : List UInt8} (hl : xs.length = ys.length)
    (h : leValue xs = leValue ys) : xs = ys := by
  induction xs generalizing ys with
  | nil => exact (List.length_eq_zero.mp hl.symm).symm
  | cons x xs ih =>
    obtain ⟨y, ys, rfl⟩ := List.exists_cons_of_length_eq_add_one hl.symm
    have hx : x.toNat < 256 := x.toNat_lt_size
    have hy : y.toNat < 256 := y.toNat_lt_size
    simp only [leValue] at h
    rw [UInt8.toNat.inj (show x.toNat = y.toNat by omega),
      ih (Nat.succ.inj hl) (by omega)]

theorem beValue_inj {xs ys : List UInt8} (hl : xs.length = ys.length)
    (h : beValue xs = beValue ys) : xs = ys :=
  List.reverse_injective (leValue_inj (by simpa using hl) h)

theorem length_parse_fst_le (d : Datum) (n : Nat) : (d.parse n).1.length ≤ n := by
  cases d with
  | null => simp
  | view o bs =>
    by_cases hn : n ≤ bs.length
    · simp [parse_view_of_le hn, min_le_left]
    · simp [parse, hn]

/-- A field of `w` bytes holds a value below `256 ^ w`, in either byte order. -/
theorem encoded_lt (d : Datum) (w : Nat) (le : Bool) : (d.encoded w le).1 < 256 ^ w := by
  have hlen := length_parse_fst_le d w
  have hpow : ∀ bs : List UInt8, bs.length ≤ w → leValue bs < 256 ^ w := fun bs hbs =>
    (leValue_lt bs).trans_le (Nat.pow_le_pow_right (by decide) hbs)
  cases le
  · exact hpow _ (by simpa using hlen)
  · exact hpow _ hlen

/-! ### Bounds safety -/

/-- The view lies inside `buf`: its bytes are those of `buf` from `data` on. -/
def Within (buf : List UInt8) : Datum → Prop
  | null => True
  | view o bs => bs <+: buf.drop o

section Within

variable {buf : List UInt8}

theorem within_buffer (buf : List UInt8) : Within buf (view 0 buf) := by
  simp [Within]

theorem Within.skip {d : Datum} (h : Within buf d) (n : Nat) : Within buf (d.skip n) := by
  cases d with
  | null => trivial
  | view o bs =>
    by_cases hn : n ≤ bs.length
    · obtain ⟨t, ht⟩ := (h : bs <+: buf.drop o)
      rw [skip_view_of_le hn]
      refine ⟨t, ?_⟩
      rw [← List.drop_drop, ← ht, List.drop_append_of_le_length hn]
    · simp [Datum.skip, hn, Within]

theorem Within.parse {d : Datum} (h : Within buf d) (n : Nat) :
    Within buf (d.parse n).1 ∧ Within buf (d.parse n).2 := by
  cases d with
  | null => exact ⟨trivial, trivial⟩
  | view o bs =>
    by_cases hn : n ≤ bs.length
    · have hs := Within.skip h n
      rw [skip_view_of_le hn] at hs
      rw [parse_view_of_le hn]
      exact ⟨(List.take_prefix n bs).trans h, hs⟩
    · simp [Datum.parse, hn, Within]

theorem Within.encoded {d : Datum} (h : Within buf d) (w : Nat) (le : Bool) :
    Within buf (d.encoded w le).2 := (h.parse w).2

/-- A pointer inside a view of `buf` reads the view's own byte. -/
theorem getElem?_of_within {o : Nat} {bs : List UInt8} (h : Within buf (view o bs))
    {i : Nat} (hi : i < bs.length) : buf[o + i]? = some bs[i] := by
  obtain ⟨t, ht⟩ := (h : bs <+: buf.drop o)
  rw [← List.getElem?_drop, ← ht, List.getElem?_append_left hi, List.getElem?_eq_getElem hi]

end Within

end Datum

end Mercury
