/-
The MySQL server greeting: the constructor of `mysql_server_greet`.

The member initialisers read the fixed header, the NUL-terminated version string and the
fixed fields after it from the packet cursor, in declaration order; the body then checks the
version string, reads three of its bytes through raw pointers, rejects a plugin length below
version 5, skips the reserved bytes (reading the MariaDB field among them), reads and checks
the second salt from version 4.1 on, reads the plugin name, and rejects trailing bytes.

The model has two levels.  `mysqlServerGreet` follows the source, each `*p` a read of the
packet buffer that faults outside it.  `greet` reads the same bytes out of the views the
pointers point into, and cannot fault.  `mysqlServerGreet_eq_ok` connects them: every view
the constructor derives from the packet stays inside it (`Datum.Within`), and every pointer it
dereferences lies inside such a view and is guarded by a length check, so the constructor never
reads outside the packet and computes `greet`.  Everything else is proved of `greet`.

The three bytes of `len` are read by the three operands of one `+`, whose evaluation order C++
leaves unspecified, so which byte lands where in `len` depends on the build.  The order is a
parameter of the constructor, left to right unless given (`lenValue`).  Nothing reads `len`.
-/
import Mathlib.Logic.Equiv.Defs
import Mercury.Datum

namespace Mercury.Mysql

open Datum

/-- `*p` for a pointer into the packet `buf`. -/
def deref (buf : List UInt8) (p : Option Nat) : Except Fault UInt8 :=
  match p.bind (buf[·]?) with
  | some b => .ok b
  | none => .error (.deref p)

/-- The members of `mysql_server_greet`.  The four flags the body sets are uninitialised in
the source until it sets them; here they start `false`, and `write_json` reads them only on
paths that have set them. -/
structure MysqlServerGreet where
  len : Nat
  pktNum : Nat
  proto : Nat
  version : Datum
  threadId : Nat
  salt1 : Datum
  cap : Nat
  collation : Nat
  srvStatus : Nat
  extCap : Nat
  authPluginLen : Nat
  ifAuthPlugin : Bool
  isVerLess41 : Bool
  isMariadb : Bool
  partialSalt : Bool
  salt2 : Datum
  valid : Bool
  mariadbExtCap : Nat
  authPlugin : Datum
  deriving DecidableEq, Repr

/-- `is_not_empty()`. -/
def MysqlServerGreet.isNotEmpty (g : MysqlServerGreet) : Bool := g.valid

/-! ### The constructor -/

/-- The initialiser of `version`: the bytes up to and including the first NUL, and the
cursor past them; a null view and the cursor unchanged when there is no NUL. -/
def versionField (pkt : Datum) : Datum × Datum :=
  match pkt, pkt.findDelim 0x00 with
  | .view o bs, .ofNat off => (.view o (bs.take (off + 1)), pkt.skip (off + 1))
  | _, _ => (.null, pkt)

/-- The initialisers after `len`, in declaration order. -/
def initFrom (len : Nat) (pkt : Datum) : MysqlServerGreet × Datum :=
  let (pktNum, pkt) := pkt.encoded 1 false
  let (proto, pkt) := pkt.encoded 1 false
  let (version, pkt) := versionField pkt
  let (threadId, pkt) := pkt.encoded 4 true
  let (salt1, pkt) := pkt.parse 9
  let (cap, pkt) := pkt.encoded 2 true
  let (collation, pkt) := pkt.encoded 1 false
  let (srvStatus, pkt) := pkt.encoded 2 true
  let (extCap, pkt) := pkt.encoded 2 true
  let (authPluginLen, pkt) := pkt.encoded 1 false
  ({ len, pktNum, proto, version, threadId, salt1, cap, collation, srvStatus, extCap,
     authPluginLen, ifAuthPlugin := false, isVerLess41 := false, isMariadb := false,
     partialSalt := false, salt2 := .null, valid := true, mariadbExtCap := 0,
     authPlugin := .null }, pkt)

/-- The value of `len`'s initialiser, `reads` being the three bytes in the order they are read.
The reads are operands of `+`, which C++ evaluates in an order it leaves unspecified, so each
build of the source fixes its own: `ord k` is the read whose byte is shifted by `8 * k`. -/
def lenValue (ord : Equiv.Perm (Fin 3)) (reads : List Nat) : Nat :=
  reads.getD (ord 0) 0 + (reads.getD (ord 1) 0 <<< 8) + (reads.getD (ord 2) 0 <<< 16)

@[simp] theorem lenValue_refl (a b c : Nat) :
    lenValue (Equiv.refl _) [a, b, c] = a + (b <<< 8) + (c <<< 16) :=
  rfl

/-- The member initialisers: the three bytes of `len`, combined in the order `ord` of the
build (left to right unless given), then the rest. -/
def initFields (pkt : Datum) (ord : Equiv.Perm (Fin 3) := Equiv.refl _) :
    MysqlServerGreet × Datum :=
  let (b0, pkt) := pkt.encoded 1 false
  let (b1, pkt) := pkt.encoded 1 false
  let (b2, pkt) := pkt.encoded 1 false
  initFrom (lenValue ord [b0, b1, b2]) pkt

/-- `if_auth_plugin` and `is_ver_less_41`, from the major and minor version bytes. -/
def versionFlags (g : MysqlServerGreet) (majVer minVer : UInt8) : MysqlServerGreet :=
  { g with ifAuthPlugin := decide (0 < g.authPluginLen),
           isVerLess41 := decide (majVer < 0x34) || (majVer == 0x34 && decide (minVer < 0x31)) }

/-- `partial_salt`, `is_mariadb`, and the reserved bytes: 6 and the 4-byte MariaDB field
read in the default byte order, or 10. -/
def reserved (g : MysqlServerGreet) (pkt : Datum) : MysqlServerGreet × Datum :=
  let g := { g with partialSalt := !g.isVerLess41,
                    isMariadb := decide (9 < g.version.length) || g.cap &&& 1 == 0 }
  if g.isMariadb then
    let (mariadbExtCap, pkt) := (pkt.skip 6).encoded 4 false
    ({ g with mariadbExtCap }, pkt)
  else (g, pkt.skip 10)

/-- The plugin name, `auth_plugin_len + 1` bytes with its NUL, then the check that nothing
is left of the packet. -/
def greetTail (g : MysqlServerGreet) (pkt : Datum) : MysqlServerGreet × Datum :=
  let (authPlugin, pkt) :=
    if g.ifAuthPlugin then pkt.parse (g.authPluginLen + 1) else (g.authPlugin, pkt)
  let g := { g with authPlugin }
  if pkt.length ≠ 0 then ({ g with valid := false }, pkt) else (g, pkt)

/-- From `salt_2` on, from version 4.1: 13 bytes ending in NUL, then the tail. -/
def salt2Body (buf : List UInt8) (g : MysqlServerGreet) (pkt : Datum) :
    Except Fault (MysqlServerGreet × Datum) :=
  let (salt2, pkt) := pkt.parse 13
  let g := { g with salt2 }
  if salt2.length ≠ 13 then .ok ({ g with valid := false }, pkt) else
  deref buf (salt2.dataEnd.map (· - 1)) >>= fun last =>
  if last ≠ 0 then .ok ({ g with valid := false }, pkt) else .ok (greetTail g pkt)

/-- The body of the constructor, each `*p` a read of the packet `buf`. -/
def greetBody (buf : List UInt8) (g : MysqlServerGreet) (pkt : Datum) :
    Except Fault (MysqlServerGreet × Datum) :=
  if g.version.length < 6 then .ok ({ g with valid := false }, pkt) else
  deref buf (g.version.dataEnd.map (· - 1)) >>= fun last =>
  if last ≠ 0 then .ok ({ g with valid := false }, pkt) else
  deref buf g.version.data >>= fun majVer =>
  deref buf (g.version.data.map (· + 2)) >>= fun minVer =>
  let g := versionFlags g majVer minVer
  if majVer < 0x35 ∧ g.ifAuthPlugin then .ok ({ g with valid := false }, pkt) else
  let (g, pkt) := reserved g pkt
  if g.partialSalt then salt2Body buf g pkt else .ok (greetTail g pkt)

/-- `mysql_server_greet(pkt)` on the packet `buf`, in a build that combines the reads of `len`
in the order `ord`: the record, and the cursor as left. -/
def mysqlServerGreet (buf : List UInt8) (ord : Equiv.Perm (Fin 3) := Equiv.refl _) :
    Except Fault (MysqlServerGreet × Datum) :=
  let (g, pkt) := initFields (.view 0 buf) ord
  greetBody buf g pkt

/-- Whether the greeting in `buf` is accepted: `is_not_empty()` of the constructed record. -/
def accepts (buf : List UInt8) (ord : Equiv.Perm (Fin 3) := Equiv.refl _) : Bool :=
  match mysqlServerGreet buf ord with
  | .ok (g, _) => g.isNotEmpty
  | .error _ => false

/-! ### The byte-level reading -/

/-- `salt2Body` with its `*p` replaced by the byte of the view it points into. -/
def salt2Checks (g : MysqlServerGreet) (pkt : Datum) : MysqlServerGreet × Datum :=
  let (salt2, pkt) := pkt.parse 13
  let g := { g with salt2 }
  if salt2.length ≠ 13 then ({ g with valid := false }, pkt) else
  if salt2.bytes.getD (salt2.length - 1) 0 ≠ 0 then ({ g with valid := false }, pkt) else
  greetTail g pkt

/-- `greetBody` with each `*p` replaced by the byte of the view it points into. -/
def greetChecks (g : MysqlServerGreet) (pkt : Datum) : MysqlServerGreet × Datum :=
  if g.version.length < 6 then ({ g with valid := false }, pkt) else
  if g.version.bytes.getD (g.version.length - 1) 0 ≠ 0 then ({ g with valid := false }, pkt) else
  let majVer := g.version.bytes.getD 0 0
  let g := versionFlags g majVer (g.version.bytes.getD 2 0)
  if majVer < 0x35 ∧ g.ifAuthPlugin then ({ g with valid := false }, pkt) else
  let (g, pkt) := reserved g pkt
  if g.partialSalt then salt2Checks g pkt else greetTail g pkt

/-- The constructor at the byte level. -/
def greet (buf : List UInt8) (ord : Equiv.Perm (Fin 3) := Equiv.refl _) :
    MysqlServerGreet × Datum :=
  let (g, pkt) := initFields (.view 0 buf) ord
  greetChecks g pkt

/-! ### The constructor reads only the packet -/

section Within

variable {buf : List UInt8}

theorem within_versionField {pkt : Datum} (h : Within buf pkt) :
    Within buf (versionField pkt).1 ∧ Within buf (versionField pkt).2 := by
  unfold versionField
  split
  · exact ⟨(List.take_prefix _ _).trans h, h.skip _⟩
  · exact ⟨trivial, h⟩

theorem within_initFrom {pkt : Datum} (h : Within buf pkt) (len : Nat) :
    Within buf (initFrom len pkt).1.version ∧ Within buf (initFrom len pkt).2 := by
  have h₁ := within_versionField ((h.encoded 1 false).encoded 1 false)
  exact ⟨h₁.1, ((((((h₁.2.encoded 4 true).parse 9).2.encoded 2 true).encoded 1 false).encoded
    2 true).encoded 2 true).encoded 1 false⟩

theorem within_initFields {pkt : Datum} (h : Within buf pkt)
    (ord : Equiv.Perm (Fin 3) := Equiv.refl _) :
    Within buf (initFields pkt ord).1.version ∧ Within buf (initFields pkt ord).2 :=
  within_initFrom (((h.encoded 1 false).encoded 1 false).encoded 1 false) _

theorem within_reserved {pkt : Datum} (h : Within buf pkt) (g : MysqlServerGreet) :
    Within buf (reserved g pkt).2 := by
  unfold reserved
  dsimp only
  split
  · exact (h.skip 6).encoded 4 false
  · exact h.skip 10

theorem ok_bind {α β : Type} (a : α) (f : α → Except Fault β) : (Except.ok a >>= f) = f a := rfl

theorem error_bind {α β : Type} (e : Fault) (f : α → Except Fault β) :
    (Except.error e >>= f) = .error e := rfl

/-- A pointer `k` bytes into a view of the packet dereferences the view's byte `k`. -/
theorem deref_of_within {o : Nat} {bs : List UInt8} (h : Within buf (.view o bs)) {k : Nat}
    (hk : k < bs.length) : deref buf (some (o + k)) = .ok (bs.getD k 0) := by
  simp [deref, getElem?_of_within h hk, List.getD_eq_getElem?_getD, List.getElem?_eq_getElem hk]

theorem salt2Body_eq_ok {pkt : Datum} (h : Within buf pkt) (g : MysqlServerGreet) :
    salt2Body buf g pkt = .ok (salt2Checks g pkt) := by
  have hs := (h.parse 13).1
  unfold salt2Body salt2Checks
  rcases hr : pkt.parse 13 with ⟨salt2, pkt₂⟩
  rw [hr] at hs
  dsimp only
  by_cases h13 : salt2.length ≠ 13
  · rw [if_pos h13, if_pos h13]
  · rw [if_neg h13, if_neg h13]
    cases salt2 with
    | null => simp at h13
    | view o bs =>
      simp only [length_view, ne_eq, not_not] at h13
      simp only [dataEnd_view, Option.map_some', bytes_view, length_view]
      rw [show o + bs.length - 1 = o + (bs.length - 1) by omega,
        deref_of_within hs (by omega), ok_bind]
      split <;> rfl

theorem greetBody_eq_ok {g : MysqlServerGreet} {pkt : Datum} (hv : Within buf g.version)
    (hp : Within buf pkt) : greetBody buf g pkt = .ok (greetChecks g pkt) := by
  unfold greetBody greetChecks
  by_cases h6 : g.version.length < 6
  · rw [if_pos h6, if_pos h6]
  · rw [if_neg h6, if_neg h6]
    generalize hver : g.version = ver at hv h6
    cases ver with
    | null => simp at h6
    | view o bs =>
      simp only [length_view, not_lt] at h6
      simp only [hver, dataEnd_view, data_view, Option.map_some', bytes_view, length_view]
      rw [show o + bs.length - 1 = o + (bs.length - 1) by omega,
        deref_of_within hv (by omega), ok_bind]
      split
      · rfl
      · rw [show some o = some (o + 0) from rfl, deref_of_within hv (by omega), ok_bind,
          deref_of_within hv (by omega), ok_bind]
        split
        · rfl
        · split
          · exact salt2Body_eq_ok (within_reserved hp _) _
          · rfl

/-- **The constructor never dereferences outside the packet**, and it computes the
byte-level reading. -/
theorem mysqlServerGreet_eq_ok (buf : List UInt8) (ord : Equiv.Perm (Fin 3) := Equiv.refl _) :
    mysqlServerGreet buf ord = .ok (greet buf ord) :=
  greetBody_eq_ok (within_initFields (within_buffer buf) ord).1
    (within_initFields (within_buffer buf) ord).2

theorem accepts_eq (buf : List UInt8) (ord : Equiv.Perm (Fin 3) := Equiv.refl _) :
    accepts buf ord = (greet buf ord).1.valid := by
  simp [accepts, mysqlServerGreet_eq_ok buf ord, MysqlServerGreet.isNotEmpty]

end Within

/-! ### What the body sets

The initialisers set the members up to `auth_plugin_len`, and the body leaves them as they
are: it sets only the flags, the second salt, the MariaDB field, the plugin name and `valid`.
The second salt passes its checks only when it was cut from a cursor that was not null, so
the first salt, cut before it, has its 9 bytes. -/

/-- The record with the members the body sets back at their initial values. -/
def MysqlServerGreet.initMembers (g : MysqlServerGreet) : MysqlServerGreet :=
  { g with ifAuthPlugin := false, isVerLess41 := false, isMariadb := false, partialSalt := false,
           salt2 := .null, valid := true, mariadbExtCap := 0, authPlugin := .null }

theorem greetTail_keeps (g : MysqlServerGreet) (pkt : Datum) :
    (greetTail g pkt).1.initMembers = g.initMembers ∧
      (greetTail g pkt).1.partialSalt = g.partialSalt ∧ (greetTail g pkt).1.salt2 = g.salt2 := by
  unfold greetTail
  rcases (if g.ifAuthPlugin then pkt.parse (g.authPluginLen + 1) else (g.authPlugin, pkt)) with
    ⟨a, p⟩
  dsimp only
  split <;> exact ⟨rfl, rfl, rfl⟩

theorem initMembers_salt2Checks (g : MysqlServerGreet) (pkt : Datum) :
    (salt2Checks g pkt).1.initMembers = g.initMembers := by
  unfold salt2Checks
  rcases pkt.parse 13 with ⟨s, p⟩
  dsimp only
  split_ifs
  · rfl
  · rfl
  · exact (greetTail_keeps _ _).1

theorem initMembers_reserved (g : MysqlServerGreet) (pkt : Datum) :
    (reserved g pkt).1.initMembers = g.initMembers := by
  unfold reserved
  dsimp only
  split
  · rcases (pkt.skip 6).encoded 4 false with ⟨x, p⟩
    rfl
  · rfl

theorem initMembers_greetChecks (g : MysqlServerGreet) (pkt : Datum) :
    (greetChecks g pkt).1.initMembers = g.initMembers := by
  unfold greetChecks
  dsimp only
  split_ifs
  · rfl
  · rfl
  · rfl
  · rw [initMembers_salt2Checks, initMembers_reserved]
    rfl
  · rw [(greetTail_keeps _ _).1, initMembers_reserved]
    rfl

/-- A second salt passes its checks only with 13 bytes cut from a cursor that was not null. -/
theorem salt2Checks_valid (g : MysqlServerGreet) (pkt : Datum)
    (hv : (salt2Checks g pkt).1.valid) :
    (salt2Checks g pkt).1.partialSalt = g.partialSalt ∧
      (salt2Checks g pkt).1.salt2.length = 13 ∧ pkt.isNotNull := by
  unfold salt2Checks at hv ⊢
  rcases hp : pkt.parse 13 with ⟨s, p⟩
  simp only [hp] at hv ⊢
  split_ifs at hv ⊢ with h13
  have h13 : s.length = 13 := not_not.mp h13
  obtain ⟨-, hps, hs2⟩ := greetTail_keeps { g with salt2 := s } p
  exact ⟨hps, hs2 ▸ h13, isNotNull_of_length_parse (by rw [hp]; exact h13) (by decide)⟩

theorem isNotNull_of_reserved {g : MysqlServerGreet} {pkt : Datum}
    (h : (reserved g pkt).2.isNotNull) : pkt.isNotNull := by
  unfold reserved at h
  dsimp only at h
  split at h
  · exact isNotNull_of_skip (isNotNull_of_encoded 4 false h)
  · exact isNotNull_of_skip h

/-- The body keeps the first salt, and on a valid record with both salts the second has its
13 bytes and the first the 9 it was cut with. -/
theorem greetChecks_salts (g : MysqlServerGreet) (pkt : Datum)
    (h9 : pkt.isNotNull → g.salt1.length = 9) (hv : (greetChecks g pkt).1.valid)
    (hp : (greetChecks g pkt).1.partialSalt) :
    (greetChecks g pkt).1.salt1.length = 9 ∧ (greetChecks g pkt).1.salt2.length = 13 := by
  have hs1 := congrArg MysqlServerGreet.salt1 (initMembers_greetChecks g pkt)
  simp only [MysqlServerGreet.initMembers] at hs1
  rw [hs1]
  unfold greetChecks at hv hp ⊢
  dsimp only at hv hp ⊢
  split_ifs at hv hp ⊢ with h₁ h₂ h₃ h₄
  · obtain ⟨-, h13, hnn⟩ := salt2Checks_valid _ _ hv
    exact ⟨h9 (isNotNull_of_reserved hnn), h13⟩
  · rw [(greetTail_keeps _ _).2.1] at hp
    exact absurd hp h₄

theorem salt1_initFrom (len : Nat) (pkt : Datum) (h : (initFrom len pkt).2.isNotNull) :
    (initFrom len pkt).1.salt1.length = 9 := by
  unfold initFrom at h ⊢
  exact (parse_of_isNotNull (isNotNull_of_encoded 2 true (isNotNull_of_encoded 1 false
    (isNotNull_of_encoded 2 true (isNotNull_of_encoded 2 true
      (isNotNull_of_encoded 1 false h)))))).1

/-- **On a valid record with both salts, the first has 9 bytes and the second 13.** -/
theorem greet_salts (buf : List UInt8) (hv : (greet buf).1.valid) (hp : (greet buf).1.partialSalt) :
    (greet buf).1.salt1.length = 9 ∧ (greet buf).1.salt2.length = 13 :=
  greetChecks_salts _ _ (salt1_initFrom _ _) hv hp

/-- The collation is one byte. -/
theorem greet_collation_lt (buf : List UInt8) : (greet buf).1.collation < 256 := by
  have h := congrArg MysqlServerGreet.collation
    (initMembers_greetChecks (initFields (.view 0 buf)).1 (initFields (.view 0 buf)).2)
  simp only [MysqlServerGreet.initMembers] at h
  unfold greet
  rw [h]
  exact encoded_lt _ 1 false

end Mercury.Mysql
