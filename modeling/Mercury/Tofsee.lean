/-
The Tofsee initial message.

`tofsee_initial_message` de-obfuscates a 200-byte ciphertext with a byte-at-a-time feedback
transform and slices the plaintext into five fields.  A message is accepted when the sixteen
bytes of the second field, `unknown_1`, have a total Hamming weight below 16.

The transform is reversible at every length.  The running byte starts at `0xC6` and becomes
`c ^ 0xC6` after ciphertext byte `c`, so plaintext byte `i` is `rotl(cᵢ, 5) ^ cᵢ₋₁ ^ 0xC6`
with `c₋₁` taken as 0.  An 8-bit rotation is undone by the rotation the other way, so each
ciphertext byte is recovered from its plaintext byte and the ciphertext byte recovered just
before it.  Both round trips are proved by induction over the loop with the running byte
generalised (`decryptFrom_encryptFrom`, `encryptFrom_decryptFrom`).

The same unrolling gives the plaintext in closed form (`decrypt_eq_closedForm`).  Acceptance
reads plaintext bytes 128 to 143 only, hence ciphertext bytes 127 to 143 only.  The closed form
writes the rotation as arithmetic on the byte's value (`rotl8`), and `popcount` is checked
against the sum of the binary digits of every byte (`popcount_eq_bitSum`), so neither helper
of the model is taken on trust.

`write_json` prints the five fields of an accepted message and nothing otherwise, so what it
prints is five slices of the closed form (`tofsee_write_json`).

Not modelled: `unit_test`, which runs the constructor on one sample.
-/
import Mercury.Datum
import Mercury.JsonObject

namespace Mercury.Tofsee

/-! ### Bytes -/

theorem byte_xor_assoc (a b c : UInt8) : a ^^^ b ^^^ c = a ^^^ (b ^^^ c) :=
  UInt8.eq_of_toBitVec_eq (BitVec.xor_assoc _ _ _)

theorem byte_xor_comm (a b : UInt8) : a ^^^ b = b ^^^ a :=
  UInt8.eq_of_toBitVec_eq (BitVec.xor_comm _ _)

theorem byte_xor_self (a : UInt8) : a ^^^ a = 0 :=
  UInt8.eq_of_toBitVec_eq BitVec.xor_self

theorem byte_xor_zero (a : UInt8) : a ^^^ 0 = a :=
  UInt8.eq_of_toBitVec_eq BitVec.xor_zero

instance byteXorAssociative : Std.Associative (α := UInt8) (· ^^^ ·) := ⟨byte_xor_assoc⟩
instance byteXorCommutative : Std.Commutative (α := UInt8) (· ^^^ ·) := ⟨byte_xor_comm⟩

/-- `a ^ b ^ a` in any grouping: the two copies of `a` cancel. -/
theorem byte_xor_cancel (a b : UInt8) : a ^^^ (b ^^^ a) = b := by
  rw [show a ^^^ (b ^^^ a) = b ^^^ (a ^^^ a) by ac_rfl, byte_xor_self, byte_xor_zero]

/-- `rotl<bits>(x)` on `uint8_t`.  The shifts are computed in `int` and the result truncated
to eight bits on return, which is what the `UInt8` shifts compute. -/
def rotl (bits x : UInt8) : UInt8 := (x <<< bits) ||| (x >>> (8 - bits))

/-- The eight-bit rotation to the right, the inverse of `rotl`. -/
def rotr (bits x : UInt8) : UInt8 := (x >>> bits) ||| (x <<< (8 - bits))

set_option maxRecDepth 4000 in
theorem rotr_rotl_ofNat : ∀ n : Fin 256, rotr 5 (rotl 5 (UInt8.ofNat n)) = UInt8.ofNat n := by
  decide

set_option maxRecDepth 4000 in
theorem rotl_rotr_ofNat : ∀ n : Fin 256, rotl 5 (rotr 5 (UInt8.ofNat n)) = UInt8.ofNat n := by
  decide

theorem ofNat_toNat (x : UInt8) : UInt8.ofNat x.toNat = x :=
  UInt8.toNat.inj (UInt8.toNat_ofNat_of_lt x.toNat_lt_size)

@[simp] theorem rotr_rotl (x : UInt8) : rotr 5 (rotl 5 x) = x := by
  simpa only [ofNat_toNat] using rotr_rotl_ofNat ⟨x.toNat, x.toNat_lt_size⟩

@[simp] theorem rotl_rotr (x : UInt8) : rotl 5 (rotr 5 x) = x := by
  simpa only [ofNat_toNat] using rotl_rotr_ofNat ⟨x.toNat, x.toNat_lt_size⟩

/-- The eight-bit left rotation `rotl8(x, n)`, for `n ≤ 8`, as arithmetic on the value of `x`:
its low `8 - n` bits move up by `n`, and its high `n` bits wrap around to the bottom. -/
def rotl8 (x : UInt8) (n : Nat) : UInt8 :=
  UInt8.ofNat ((x.toNat <<< n) % 256 + (x.toNat >>> (8 - n)))

set_option maxRecDepth 4000 in
theorem rotl_ofNat_eq_rotl8 :
    ∀ n : Fin 256, rotl 5 (UInt8.ofNat n) = rotl8 (UInt8.ofNat n) 5 := by
  decide

/-- The rotation of the model rotates every byte. -/
theorem rotl_eq_rotl8 (x : UInt8) : rotl 5 x = rotl8 x 5 := by
  simpa only [ofNat_toNat] using rotl_ofNat_eq_rotl8 ⟨x.toNat, x.toNat_lt_size⟩

/-- `__builtin_popcount` of a byte. -/
def popcount (x : UInt8) : Nat := (List.range 8).countP (x.toNat.testBit ·)

/-- The sum of the lowest `k` binary digits of `n`. -/
def bitSum : Nat → Nat → Nat
  | 0, _ => 0
  | k + 1, n => n % 2 + bitSum k (n / 2)

/-- Counting the set bits among the lowest `k` sums the lowest `k` binary digits. -/
theorem countP_testBit_eq_bitSum (k n : Nat) :
    (List.range k).countP (n.testBit ·) = bitSum k n := by
  induction k generalizing n with
  | zero => rfl
  | succ k ih =>
    have hs : (fun i => n.testBit (i + 1)) = ((n / 2).testBit ·) :=
      funext fun i => by rw [Nat.testBit_succ]
    rw [List.range_succ_eq_map, List.countP_cons, List.countP_map, bitSum, ← ih (n / 2)]
    simp only [Function.comp_def, hs, Nat.testBit_zero]
    by_cases h : n % 2 = 1 <;> simp only [h, decide_True, decide_False, if_true, if_false,
      Bool.false_eq_true] <;> omega

/-- `popcount` counts the one bits of every byte. -/
theorem popcount_eq_bitSum (x : UInt8) : popcount x = bitSum 8 x.toNat :=
  countP_testBit_eq_bitSum 8 x.toNat

/-! ### The message -/

/-- The loop of `decrypt` from the running byte `res`: each plaintext byte is
`res ^ rotl<5>(c)`, and `res` becomes `c ^ 0xc6`. -/
def decryptFrom (res : UInt8) : List UInt8 → List UInt8
  | [] => []
  | c :: cs => (res ^^^ rotl 5 c) :: decryptFrom (c ^^^ 0xc6) cs

/-- `decrypt(ciphertext, plaintext, data_len)`, `data_len` being the ciphertext's length. -/
def decrypt (ciphertext : List UInt8) : List UInt8 := decryptFrom 198 ciphertext

/-- The constructor of `plaintext` from `d`: the decrypted bytes as a view of the 200-byte
buffer the object owns, and `d` as left.  A ciphertext of any other length nulls `d`, and the
plaintext keeps the null state of a default `datum`. -/
def plaintext (d : Datum) : Datum × Datum :=
  if d.length ≠ 200 then (.null, .null) else (.view 0 (decrypt d.bytes), d)

/-- The fields of `tofsee_initial_message`. -/
structure TofseeInitialMessage where
  pt : Datum
  key : Datum
  unknown1 : Datum
  ipv4 : Datum
  srvTime : Datum
  unknown2 : Datum

/-- `tofsee_initial_message(ct)`: the message, and `ct` as the constructor leaves it. -/
def tofseeInitialMessage (ct : Datum) : TofseeInitialMessage × Datum :=
  let (pt, ct) := plaintext ct
  let (key, pt) := pt.parse 128
  let (unknown1, pt) := pt.parse 16
  let (ipv4, pt) := pt.parse 4
  let (srvTime, pt) := pt.parse 4
  let (unknown2, pt) := pt.parse 48
  ({ pt, key, unknown1, ipv4, srvTime, unknown2 }, ct)

/-- `weight_threshold`. -/
def weightThreshold : Nat := 16

/-- `is_not_empty()`: `unknown_2` is set and `unknown_1` has Hamming weight below 16. -/
def TofseeInitialMessage.isNotEmpty (m : TofseeInitialMessage) : Bool :=
  if !m.unknown2.isNotNull then false
  else decide (m.unknown1.bytes.foldl (fun weight x => weight + popcount x) 0 < weightThreshold)

/-- `write_json(o)`: nothing for a rejected message, and otherwise the object
`tofsee_initial_message` with the five fields, `bot_ip` being the four bytes
`print_key_ipv4_addr` reads at `ipv4.data`. -/
def TofseeInitialMessage.writeJson (m : TofseeInitialMessage) :
    Option (List (String × JsonValue)) :=
  if !m.isNotEmpty then none
  else some [("key", .hex m.key.bytes), ("unknown_1", .hex m.unknown1.bytes),
    ("bot_ip", .ipv4Addr (m.ipv4.bytes.take 4)), ("srv_time", .hex m.srvTime.bytes),
    ("unknown_2", .hex m.unknown2.bytes)]

@[simp] theorem length_decryptFrom (res : UInt8) (cs : List UInt8) :
    (decryptFrom res cs).length = cs.length := by
  induction cs generalizing res <;> simp [decryptFrom, *]

/-! ### The transform is reversible -/

/-- The obfuscation `decrypt` undoes: ciphertext byte `i` is `rotr(pᵢ ^ prev ^ 0xC6, 5)`,
`prev` being the ciphertext byte before, and 0 for the first. -/
def encryptFrom (prev : UInt8) : List UInt8 → List UInt8
  | [] => []
  | p :: ps => rotr 5 (p ^^^ prev ^^^ 0xc6) :: encryptFrom (rotr 5 (p ^^^ prev ^^^ 0xc6)) ps

/-- `E` from the start of a message. -/
def encrypt (p : List UInt8) : List UInt8 := encryptFrom 0 p

theorem decryptFrom_encryptFrom (prev : UInt8) (ps : List UInt8) :
    decryptFrom (prev ^^^ 0xc6) (encryptFrom prev ps) = ps := by
  induction ps generalizing prev with
  | nil => rfl
  | cons p ps ih =>
    simp only [encryptFrom, decryptFrom, rotl_rotr, ih, byte_xor_assoc p, byte_xor_cancel]

theorem encryptFrom_decryptFrom (prev : UInt8) (cs : List UInt8) :
    encryptFrom prev (decryptFrom (prev ^^^ 0xc6) cs) = cs := by
  induction cs generalizing prev with
  | nil => rfl
  | cons c cs ih =>
    have hc : prev ^^^ 0xc6 ^^^ rotl 5 c ^^^ prev ^^^ 0xc6 = rotl 5 c := by
      rw [show prev ^^^ 0xc6 ^^^ rotl 5 c ^^^ prev ^^^ 0xc6
        = (prev ^^^ 0xc6) ^^^ (rotl 5 c ^^^ (prev ^^^ 0xc6)) by ac_rfl, byte_xor_cancel]
    simp only [decryptFrom, encryptFrom, hc, rotr_rotl, ih]

/-- **`decrypt` is a length-preserving bijection, with `E` as its inverse on both sides.** -/
theorem decrypt_bijective :
    (∀ c : List UInt8, (decrypt c).length = c.length ∧ encrypt (decrypt c) = c) ∧
    (∀ p : List UInt8, decrypt (encrypt p) = p) ∧ Function.Bijective decrypt := by
  have hl : ∀ c, encrypt (decrypt c) = c := encryptFrom_decryptFrom 0
  have hr : ∀ p, decrypt (encrypt p) = p := decryptFrom_encryptFrom 0
  exact ⟨fun c => ⟨length_decryptFrom _ _, hl c⟩, hr,
    Function.bijective_iff_has_inverse.mpr ⟨encrypt, hl, hr⟩⟩

/-! ### Acceptance in closed form -/

/-- The plaintext in closed form: byte `i` is computed from ciphertext bytes `i - 1` and `i`,
with the rotation written as arithmetic (`rotl8`). -/
def closedForm (ct : List UInt8) : List UInt8 :=
  (List.range ct.length).map fun i =>
    if i = 0 then rotl8 (ct.getD 0 0) 5 ^^^ 0xc6
    else rotl8 (ct.getD i 0) 5 ^^^ ct.getD (i - 1) 0 ^^^ 0xc6

/-- The loop of `decrypt` unrolled: byte `i` of its output. -/
theorem decryptFrom_eq_map (res : UInt8) (cs : List UInt8) :
    decryptFrom res cs = (List.range cs.length).map fun i =>
      (if i = 0 then res else cs.getD (i - 1) 0 ^^^ 0xc6) ^^^ rotl 5 (cs.getD i 0) := by
  induction cs generalizing res with
  | nil => rfl
  | cons c cs ih =>
    rw [decryptFrom, ih, List.length_cons, List.range_succ_eq_map, List.map_cons, List.map_map]
    congr 1
    refine List.map_congr_left fun i _ => ?_
    cases i <;> simp

theorem decrypt_eq_closedForm (ct : List UInt8) : decrypt ct = closedForm ct := by
  rw [decrypt, decryptFrom_eq_map, closedForm]
  refine List.map_congr_left fun i _ => ?_
  rw [rotl_eq_rotl8]
  split
  · subst i; exact byte_xor_comm _ _
  · ac_rfl

theorem getD_closedForm {ct : List UInt8} {i : Nat} (h : i < ct.length) :
    (closedForm ct).getD i 0 = if i = 0 then rotl8 (ct.getD 0 0) 5 ^^^ 0xc6
      else rotl8 (ct.getD i 0) 5 ^^^ ct.getD (i - 1) 0 ^^^ 0xc6 := by
  simp [closedForm, h]

/-- `n` bytes from offset `a`, read one index at a time. -/
theorem take_drop_eq_map_getD {l : List UInt8} {a n : Nat} (h : a + n ≤ l.length) :
    (l.drop a).take n = (List.range' a n).map (l.getD · 0) := by
  apply List.ext_getElem
  · simp; omega
  · intro i h₁ _
    have hi : a + i < l.length := by simp at h₁; omega
    simp [List.getElem_range', List.getElem?_eq_getElem hi]

/-- The constructor on a ciphertext of 200 bytes: five consecutive views of the plaintext. -/
theorem tofseeInitialMessage_of_length {o : Nat} {ct : List UInt8} (h : ct.length = 200) :
    (tofseeInitialMessage (.view o ct)).1 =
      { pt := .view 200 ((decrypt ct).drop 200),
        key := .view 0 ((decrypt ct).take 128),
        unknown1 := .view 128 (((decrypt ct).drop 128).take 16),
        ipv4 := .view 144 (((decrypt ct).drop 144).take 4),
        srvTime := .view 148 (((decrypt ct).drop 148).take 4),
        unknown2 := .view 152 (((decrypt ct).drop 152).take 48) } := by
  simp [tofseeInitialMessage, plaintext, h, Datum.parse_view_of_le, decrypt]

theorem isNotEmpty_of_length_ne {o : Nat} {ct : List UInt8} (h : ct.length ≠ 200) :
    (tofseeInitialMessage (.view o ct)).1.isNotEmpty = false := by
  simp [tofseeInitialMessage, plaintext, h, TofseeInitialMessage.isNotEmpty, Datum.isNotNull]

/-- The weight `is_not_empty` compares, over the closed form. -/
def unknown1Weight (ct : List UInt8) : Nat :=
  (List.range' 128 16).foldl (fun weight i => weight + popcount ((closedForm ct).getD i 0)) 0

theorem isNotEmpty_iff {o : Nat} {ct : List UInt8} :
    (tofseeInitialMessage (.view o ct)).1.isNotEmpty = true ↔
      ct.length = 200 ∧ unknown1Weight ct < 16 := by
  by_cases h : ct.length = 200
  · have hl : 128 + 16 ≤ (closedForm ct).length := by simp [closedForm, h]
    simp [tofseeInitialMessage_of_length h, TofseeInitialMessage.isNotEmpty, Datum.isNotNull,
      h, unknown1Weight, weightThreshold, decrypt_eq_closedForm, take_drop_eq_map_getD hl,
      List.foldl_map]
  · simp [isNotEmpty_of_length_ne h, h]

/-- **Acceptance in closed form, the fields as slices of it, and the bytes it reads.** -/
theorem tofsee_accepts_closed_form (o : Nat) (ct : List UInt8) :
    ((tofseeInitialMessage (.view o ct)).1.isNotEmpty = true ↔
      ct.length = 200 ∧
        (List.range' 128 16).foldl
          (fun weight i => weight + popcount ((closedForm ct).getD i 0)) 0 < 16) ∧
    (ct.length = 200 →
      (tofseeInitialMessage (.view o ct)).1.key.bytes = (closedForm ct).take 128 ∧
      (tofseeInitialMessage (.view o ct)).1.unknown1.bytes = ((closedForm ct).drop 128).take 16 ∧
      (tofseeInitialMessage (.view o ct)).1.ipv4.bytes = ((closedForm ct).drop 144).take 4 ∧
      (tofseeInitialMessage (.view o ct)).1.srvTime.bytes = ((closedForm ct).drop 148).take 4 ∧
      (tofseeInitialMessage (.view o ct)).1.unknown2.bytes = ((closedForm ct).drop 152).take 48) ∧
    (∀ ct' : List UInt8, ct'.length = ct.length →
      (∀ i, 127 ≤ i → i ≤ 143 → ct'.getD i 0 = ct.getD i 0) →
      (tofseeInitialMessage (.view o ct')).1.isNotEmpty
        = (tofseeInitialMessage (.view o ct)).1.isNotEmpty) := by
  refine ⟨isNotEmpty_iff, fun h => ?_, fun ct' hlen hagree => ?_⟩
  · simp [tofseeInitialMessage_of_length h, decrypt_eq_closedForm]
  · have hw : unknown1Weight ct' = unknown1Weight ct := by
      unfold unknown1Weight
      refine List.foldl_ext _ _ _ fun w i hi => congrArg (w + popcount ·) ?_
      rw [List.mem_range'_1] at hi
      by_cases h : i < ct.length
      · rw [getD_closedForm h, getD_closedForm (hlen ▸ h), if_neg (by omega), if_neg (by omega),
          hagree i (by omega) (by omega), hagree (i - 1) (by omega) (by omega)]
      · rw [List.getD_eq_getElem?_getD, List.getD_eq_getElem?_getD, List.getElem?_eq_none,
          List.getElem?_eq_none] <;> simp [closedForm] <;> omega
    rw [Bool.eq_iff_iff, isNotEmpty_iff, isNotEmpty_iff, hlen, hw]

/-! ### What `write_json` prints -/

/-- **`write_json` prints five slices of the plaintext in closed form exactly when the message
is accepted, and the four bytes it reads for `bot_ip` lie in the field `ipv4`.** -/
theorem tofsee_write_json (o : Nat) (ct : List UInt8) :
    (tofseeInitialMessage (.view o ct)).1.writeJson =
      (if ct.length = 200 ∧ unknown1Weight ct < 16 then some [
        ("key", .hex ((closedForm ct).take 128)),
        ("unknown_1", .hex (((closedForm ct).drop 128).take 16)),
        ("bot_ip", .ipv4Addr (((closedForm ct).drop 144).take 4)),
        ("srv_time", .hex (((closedForm ct).drop 148).take 4)),
        ("unknown_2", .hex (((closedForm ct).drop 152).take 48))]
      else none) ∧
    ((tofseeInitialMessage (.view o ct)).1.isNotEmpty = true →
      (tofseeInitialMessage (.view o ct)).1.ipv4.length = 4) := by
  have hlen : ct.length = 200 → (closedForm ct).length = 200 := fun h => by simp [closedForm, h]
  refine ⟨?_, fun hacc => ?_⟩
  · unfold TofseeInitialMessage.writeJson
    by_cases hacc : (tofseeInitialMessage (.view o ct)).1.isNotEmpty = true
    · obtain ⟨h, hw⟩ := isNotEmpty_iff.mp hacc
      rw [if_neg (by simp [hacc]), if_pos ⟨h, hw⟩, tofseeInitialMessage_of_length h]
      simp [decrypt_eq_closedForm, hlen h]
    · rw [if_pos (by simpa using hacc), if_neg (mt isNotEmpty_iff.mpr hacc)]
  · have h := (isNotEmpty_iff.mp hacc).1
    rw [tofseeInitialMessage_of_length h]
    simp [decrypt_eq_closedForm, hlen h]

end Mercury.Tofsee
