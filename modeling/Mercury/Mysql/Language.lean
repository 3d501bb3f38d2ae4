/-
The language of well-formed greetings, and what the constructor makes of it.

A greeting of `L` is the header `h`, the packet number `q`, the protocol version `r`, the
version string `v` and its NUL, the thread id `t`, the first salt `s1`, the capabilities `c`,
the collation `k`, the status `st`, the extended capabilities `e`, the plugin length `a`, the
ten reserved bytes `z`, the second salt `S` from version 4.1 on, and the plugin name `P` when
there is a plugin.  `Greeting` carries the widths and side conditions of the grammar as
fields, so that every value of it is a member of `L` and `Greeting.bytes` lays it out.

`greet_decodes` runs the constructor on every member, one stage at a time by the cursor's
prefix laws: it accepts, and each member holds the bytes of its place.  The MariaDB field
`z[6..10)` is read as `encoded<uint32_t>{pkt}` reads it, in network order, where the layout
has it little-endian.  The converse inclusion fails: a greeting cut short turns the cursor
null, and a null cursor passes the check for trailing bytes, so a greeting cut after the
version string of a server below 4.1 is accepted though it is not in `L`.  The header is read
into `len` and by nothing else, so a greeting with any other header builds the same record.
Apart from the reserved bytes the record keeps every field: two greetings of `L` build the
same record exactly when they differ only in the first six reserved bytes, or in the last four
on a greeting that is not MariaDB's (`greet_fst_eq_iff`).  The static matcher that picks
candidate greetings reads the packet number, the protocol version and five bytes of the version
string, and on a greeting of `L` decides on those alone.
-/
import Mathlib.Logic.Equiv.Basic
import Mercury.Matcher
import Mercury.Mysql.Greet

namespace Mercury.Mysql

open Datum

/-! ### The language -/

/-- Whether version bytes are below 4.1, as `is_ver_less_41` reads bytes 0 and 2. -/
def lessThan41 (v : List UInt8) : Bool :=
  decide (v.getD 0 0 < 0x34) || (v.getD 0 0 == 0x34 && decide (v.getD 2 0 < 0x31))

/-- A greeting of `L`: its fields in wire order, with the widths and side conditions of the
grammar. -/
structure Greeting where
  /-- the packet length, 3 bytes -/
  h : List UInt8
  /-- the packet number -/
  q : UInt8
  /-- the protocol version -/
  r : UInt8
  /-- the server version, without its NUL -/
  v : List UInt8
  /-- the thread id -/
  t : List UInt8
  /-- the first salt, 9 bytes -/
  s1 : List UInt8
  /-- the capability flags -/
  c : List UInt8
  /-- the collation id -/
  k : UInt8
  /-- the status flags -/
  st : List UInt8
  /-- the extended capability flags -/
  e : List UInt8
  /-- the plugin length -/
  a : UInt8
  /-- the reserved bytes: 6 and the MariaDB field, or 10 -/
  z : List UInt8
  /-- the second salt -/
  S : List UInt8
  /-- the plugin name with its NUL -/
  P : List UInt8
  h_length : h.length = 3
  t_length : t.length = 4
  s1_length : s1.length = 9
  c_length : c.length = 2
  st_length : st.length = 2
  e_length : e.length = 2
  z_length : z.length = 10
  v_nul : 0 ∉ v
  v_length : 5 ≤ v.length
  a_pre5 : v.getD 0 0 < 0x35 → a = 0
  S_shape : if lessThan41 v then S = [] else S.length = 13 ∧ S.getD 12 0 = 0
  P_shape : if 0 < a.toNat then P.length = a.toNat + 1 else P = []

/-- The bytes of a greeting, field after field. -/
def Greeting.bytes (g : Greeting) : List UInt8 :=
  g.h ++ [g.q, g.r] ++ g.v ++ [0] ++ g.t ++ g.s1 ++ g.c ++ [g.k] ++ g.st ++ g.e ++ [g.a] ++ g.z ++
    g.S ++ g.P

/-- No greeting of `L` is shorter than 42 bytes. -/
theorem length_bytes (g : Greeting) : 42 ≤ g.bytes.length := by
  simp only [Greeting.bytes, List.length_append, List.length_cons, List.length_nil, g.h_length,
    g.t_length, g.s1_length, g.c_length, g.st_length, g.e_length, g.z_length]
  have := g.v_length
  omega

/-! ### The constructor, stage by stage, on a greeting of `L`

Each stage is computed on a view of the bytes still to read, by the cursor's prefix laws; the
offsets of the views follow from the widths of the fields before them. -/

/-- The initialiser of `version` on a string without NUL followed by its NUL. -/
theorem versionField_view_append (o : Nat) {v : List UInt8} (r : List UInt8) (hv : 0 ∉ v) :
    versionField (view o (v ++ 0 :: r)) = (view o (v ++ [0]), view (o + (v.length + 1)) r) := by
  have hd : (view o (v ++ 0 :: r)).findDelim 0 = v.length := by
    have : v.findIdx? (· == 0) = none := by
      simp only [List.findIdx?_eq_none_iff, beq_iff_eq]
      intro x hx
      exact beq_eq_false_iff_ne.mpr fun h => hv (h ▸ hx)
    simp [findDelim, this]
  simp only [versionField, hd]
  simp [skip, List.take_append_eq_append_take]

/-- The expression for `len` is the little-endian value of the three bytes. -/
theorem len_eq_leValue (h0 h1 h2 : UInt8) :
    h0.toNat + (h1.toNat <<< 8) + (h2.toNat <<< 16) = leValue [h0, h1, h2] := by
  simp only [Nat.shiftLeft_eq, leValue]
  omega

/-- The member initialisers read every fixed field of a greeting of `L` from its place. -/
theorem initFields_bytes (g : Greeting) :
    initFields (view 0 g.bytes) =
      ({ len := leValue g.h, pktNum := g.q.toNat, proto := g.r.toNat,
         version := view 5 (g.v ++ [0]), threadId := leValue g.t,
         salt1 := view (g.v.length + 10) g.s1, cap := leValue g.c, collation := g.k.toNat,
         srvStatus := leValue g.st, extCap := leValue g.e, authPluginLen := g.a.toNat,
         ifAuthPlugin := false, isVerLess41 := false, isMariadb := false, partialSalt := false,
         salt2 := .null, valid := true, mariadbExtCap := 0, authPlugin := .null },
       view (g.v.length + 27) (g.z ++ (g.S ++ g.P))) := by
  obtain ⟨h0, h1, h2, hh⟩ : ∃ h0 h1 h2, g.h = [h0, h1, h2] := by
    match g.h, g.h_length with
    | [h0, h1, h2], _ => exact ⟨h0, h1, h2, rfl⟩
  simp only [Greeting.bytes, hh, List.append_assoc, List.cons_append, List.nil_append,
    initFields, initFrom, encoded_view_cons, versionField_view_append _ _ g.v_nul,
    encoded_view_append _ _ g.t_length, parse_view_append _ _ g.s1_length,
    encoded_view_append _ _ g.c_length, encoded_view_append _ _ g.st_length,
    encoded_view_append _ _ g.e_length, lenValue_refl, len_eq_leValue, if_true, Prod.mk.injEq,
    MysqlServerGreet.mk.injEq, view.injEq, and_true, true_and]
  omega

/-- The checks on a version string of `L` pass, and the body goes on to the reserved bytes
with the two version flags set. -/
theorem greetChecks_of_version (g : MysqlServerGreet) (pkt : Datum) {o : Nat} {v : List UInt8}
    (hver : g.version = view o (v ++ [0])) (hv : 5 ≤ v.length)
    (ha : v.getD 0 0 < 0x35 → g.authPluginLen = 0) :
    greetChecks g pkt =
      let (g, pkt) := reserved { g with ifAuthPlugin := decide (0 < g.authPluginLen),
                                        isVerLess41 := lessThan41 v } pkt
      if g.partialSalt then salt2Checks g pkt else greetTail g pkt := by
  have hget : ∀ i < v.length, (v ++ [0]).getD i 0 = v.getD i 0 := fun i hi => by
    simp [List.getD_eq_getElem?_getD, List.getElem?_append_left hi]
  have hlast : (v ++ [0]).getD v.length 0 = 0 := by simp [List.getD_eq_getElem?_getD]
  have hmaj : ¬ (v.getD 0 0 < 0x35 ∧ decide (0 < g.authPluginLen) = true) := fun ⟨h, h'⟩ => by
    simp [ha h] at h'
  unfold greetChecks
  rw [if_neg (by simp [hver]; omega)]
  simp only [hver, length_view, bytes_view, List.length_append, List.length_singleton,
    Nat.add_sub_cancel, hlast, ne_eq, not_true_eq_false, if_false, hget 0 (by omega),
    hget 2 (by omega), versionFlags, if_neg hmaj]
  rfl

/-- The ten reserved bytes: the MariaDB field is `z[6..10)` in network order. -/
theorem reserved_view (g : MysqlServerGreet) (o : Nat) {z : List UInt8} (rest : List UInt8)
    (hz : z.length = 10) :
    reserved g (view o (z ++ rest)) =
      ({ g with partialSalt := !g.isVerLess41,
                isMariadb := decide (9 < g.version.length) || g.cap &&& 1 == 0,
                mariadbExtCap := if decide (9 < g.version.length) || g.cap &&& 1 == 0
                  then beValue (z.drop 6) else g.mariadbExtCap },
       view (o + 10) rest) := by
  have h6 : (z.take 6).length = 6 := by simp [hz]
  have h4 : (z.drop 6).length = 4 := by simp [hz]
  unfold reserved
  dsimp only
  split
  · rw [← List.take_append_drop 6 z, List.append_assoc, skip_view_append _ _ h6,
      encoded_view_append _ _ h4]
    simp_all [Nat.add_assoc]
  · simp_all [skip_view_append _ _ hz]

/-- A plugin name of the announced length, or none, and nothing after it. -/
theorem greetTail_view (g : MysqlServerGreet) (o : Nat) {P : List UInt8}
    (hP : if g.ifAuthPlugin then P.length = g.authPluginLen + 1 else P = []) :
    greetTail g (view o P) =
      ({ g with authPlugin := if g.ifAuthPlugin then view o P else g.authPlugin },
       view (o + P.length) []) := by
  unfold greetTail
  cases hi : g.ifAuthPlugin <;> simp only [hi, if_true, if_false, Bool.false_eq_true] at hP ⊢
  · subst hP
    simp
  · rw [← hP, parse_view_of_le le_rfl]
    simp

/-- A second salt of 13 bytes ending in NUL passes its checks. -/
theorem salt2Checks_view (g : MysqlServerGreet) (o : Nat) {S : List UInt8} (rest : List UInt8)
    (hS : S.length = 13) (h0 : S.getD 12 0 = 0) :
    salt2Checks g (view o (S ++ rest)) =
      greetTail { g with salt2 := view o S } (view (o + 13) rest) := by
  simp only [salt2Checks, parse_view_append o rest hS, length_view, bytes_view, hS, Nat.reduceSub,
    h0, ne_eq, not_true_eq_false, if_false]

/-- From the second salt on, over a second salt of the right shape and a plugin name of the
announced length: the body accepts and records both. -/
theorem saltTail_view (g : MysqlServerGreet) (o : Nat) {S P : List UInt8} {p : Bool}
    (hp : g.partialSalt = p) (hS : if p then S.length = 13 ∧ S.getD 12 0 = 0 else S = [])
    (hP : if g.ifAuthPlugin then P.length = g.authPluginLen + 1 else P = []) :
    (if p then salt2Checks g (view o (S ++ P)) else greetTail g (view o (S ++ P))) =
      ({ g with salt2 := if p then view o S else g.salt2,
                authPlugin := if g.ifAuthPlugin then view (o + S.length) P else g.authPlugin },
       view (o + S.length + P.length) []) := by
  cases p <;> simp only [if_true, if_false, Bool.false_eq_true] at hS ⊢
  · subst hS
    rw [List.nil_append, greetTail_view _ _ hP]
    simp
  · rw [salt2Checks_view _ _ _ hS.1 hS.2, greetTail_view { g with salt2 := view o S } _ hP,
      hS.1]

theorem and_one_beq_zero (n : Nat) : (n &&& 1 == 0) = !n.testBit 0 := by
  rw [Nat.and_one_is_mod, Nat.testBit_zero]
  rcases Nat.mod_two_eq_zero_or_one n with h | h <;> simp [h]

/-! ### Decoding -/

/-- What the constructor makes of the greeting `g`: every member holds the bytes of its place
in the layout, and the MariaDB field is read in network order. -/
structure Decodes (g : Greeting) (r : MysqlServerGreet) : Prop where
  valid : r.valid = true
  pktNum : r.pktNum = g.q.toNat
  version : r.version.bytes = g.v ++ [0]
  threadId : r.threadId = leValue g.t
  salt1 : r.salt1.bytes = g.s1
  cap : r.cap = leValue g.c
  collation : r.collation = g.k.toNat
  srvStatus : r.srvStatus = leValue g.st
  extCap : r.extCap = leValue g.e
  authPluginLen : r.authPluginLen = g.a.toNat
  authPlugin : r.authPlugin.bytes = g.P
  isMariadb : r.isMariadb = (decide (9 < g.v.length + 1) || !(leValue g.c).testBit 0)
  mariadbExtCap : r.isMariadb = true → r.mariadbExtCap = beValue (g.z.drop 6)
  partialSalt : r.partialSalt = !lessThan41 g.v
  salt2 : r.salt2.bytes = if lessThan41 g.v then [] else g.S

/-- **The constructor accepts every greeting of `L` and decodes each of its fields.** -/
theorem greet_decodes (g : Greeting) : Decodes g (greet g.bytes).1 := by
  have ha : g.v.getD 0 0 < 0x35 → g.a.toNat = 0 := fun h => by simp [g.a_pre5 h]
  have hS : if !lessThan41 g.v then g.S.length = 13 ∧ g.S.getD 12 0 = 0 else g.S = [] := by
    cases h : lessThan41 g.v <;> simpa [h] using g.S_shape
  unfold greet
  rw [initFields_bytes]
  dsimp only
  rw [greetChecks_of_version _ _ rfl g.v_length ha]
  dsimp only
  rw [reserved_view _ _ _ g.z_length]
  dsimp only
  rw [saltTail_view]
  · refine ⟨rfl, rfl, rfl, rfl, rfl, rfl, rfl, rfl, rfl, rfl, ?_, ?_, fun h => if_pos h, rfl, ?_⟩
    · have := g.P_shape
      by_cases h : 0 < g.a.toNat <;> simp_all
    · simp only [length_view, List.length_append, List.length_singleton, ← and_one_beq_zero]
    · cases lessThan41 g.v <;> simp
  · rfl
  · exact hS
  · simpa using g.P_shape

/-- The record the constructor builds from a greeting of `L`, member by member. -/
def Greeting.record (g : Greeting) : MysqlServerGreet :=
  let mariadb := decide (9 < g.v.length + 1) || leValue g.c &&& 1 == 0
  { len := leValue g.h, pktNum := g.q.toNat, proto := g.r.toNat,
    version := view 5 (g.v ++ [0]), threadId := leValue g.t,
    salt1 := view (g.v.length + 10) g.s1, cap := leValue g.c, collation := g.k.toNat,
    srvStatus := leValue g.st, extCap := leValue g.e, authPluginLen := g.a.toNat,
    ifAuthPlugin := decide (0 < g.a.toNat), isVerLess41 := lessThan41 g.v, isMariadb := mariadb,
    partialSalt := !lessThan41 g.v,
    salt2 := if lessThan41 g.v then .null else view (g.v.length + 37) g.S, valid := true,
    mariadbExtCap := if mariadb then beValue (g.z.drop 6) else 0,
    authPlugin := if 0 < g.a.toNat then view (g.v.length + 37 + g.S.length) g.P else .null }

theorem greet_bytes_fst (g : Greeting) : (greet g.bytes).1 = g.record := by
  have ha : g.v.getD 0 0 < 0x35 → g.a.toNat = 0 := fun h => by simp [g.a_pre5 h]
  have hS : if !lessThan41 g.v then g.S.length = 13 ∧ g.S.getD 12 0 = 0 else g.S = [] := by
    cases h : lessThan41 g.v <;> simpa [h] using g.S_shape
  unfold greet
  rw [initFields_bytes]
  dsimp only
  rw [greetChecks_of_version _ _ rfl g.v_length ha]
  dsimp only
  rw [reserved_view _ _ _ g.z_length]
  dsimp only
  rw [saltTail_view]
  · simp only [Greeting.record, length_view, List.length_append, List.length_singleton,
      decide_eq_true_iff, Nat.add_assoc, Nat.reduceAdd]
    cases lessThan41 g.v <;> rfl
  · rfl
  · exact hS
  · simpa using g.P_shape

/-- **What the record keeps of a greeting.**  Two greetings of `L` build the same record exactly
when they agree on every field but the reserved bytes: the record keeps none of the first six,
and the last four only on a MariaDB greeting. -/
theorem greet_fst_eq_iff (g g' : Greeting) :
    (greet g.bytes).1 = (greet g'.bytes).1 ↔
      g.h = g'.h ∧ g.q = g'.q ∧ g.r = g'.r ∧ g.v = g'.v ∧ g.t = g'.t ∧ g.s1 = g'.s1 ∧
        g.c = g'.c ∧ g.k = g'.k ∧ g.st = g'.st ∧ g.e = g'.e ∧ g.a = g'.a ∧ g.S = g'.S ∧
        g.P = g'.P ∧ ((decide (9 < g.v.length + 1) || leValue g.c &&& 1 == 0) = true →
          g.z.drop 6 = g'.z.drop 6) := by
  rw [greet_bytes_fst, greet_bytes_fst]
  constructor
  · intro h
    simp only [Greeting.record, MysqlServerGreet.mk.injEq] at h
    obtain ⟨hh, hq, hr, hv, ht, hs1, hc, hk, hst, he, ha, -, -, -, -, hS, -, hz, hP⟩ := h
    have hv' : g.v = g'.v := List.append_cancel_right (view.inj hv).2
    have ha' : g.a = g'.a := UInt8.toNat.inj ha
    have hc' : g.c = g'.c := leValue_inj (g.c_length.trans g'.c_length.symm) hc
    refine ⟨leValue_inj (g.h_length.trans g'.h_length.symm) hh, UInt8.toNat.inj hq,
      UInt8.toNat.inj hr, hv', leValue_inj (g.t_length.trans g'.t_length.symm) ht,
      (view.inj hs1).2, hc', UInt8.toNat.inj hk,
      leValue_inj (g.st_length.trans g'.st_length.symm) hst,
      leValue_inj (g.e_length.trans g'.e_length.symm) he, ha', ?_, ?_, fun hm => ?_⟩
    · -- the second salt: none below 4.1, the view's bytes from 4.1 on
      have h₁ := g.S_shape
      have h₂ := g'.S_shape
      rw [← hv'] at hS h₂
      cases hl : lessThan41 g.v
      · rw [hl, if_neg Bool.false_ne_true, if_neg Bool.false_ne_true] at hS
        exact (view.inj hS).2
      · rw [hl, if_pos rfl] at h₁ h₂
        rw [h₁, h₂]
    · -- the plugin name: none without a plugin, the view's bytes with one
      have h₁ := g.P_shape
      have h₂ := g'.P_shape
      rw [← ha'] at hP h₂
      by_cases hp : 0 < g.a.toNat
      · rw [if_pos hp, if_pos hp] at hP
        exact (view.inj hP).2
      · rw [if_neg hp] at h₁ h₂
        rw [h₁, h₂]
    · rw [← hv', ← hc', if_pos hm, if_pos hm] at hz
      exact beValue_inj (by simp [g.z_length, g'.z_length]) hz
  · rintro ⟨hh, hq, hr, hv, ht, hs1, hc, hk, hst, he, ha, hS, hP, hz⟩
    rw [hv, hc] at hz
    simp only [Greeting.record, hh, hq, hr, hv, ht, hs1, hc, hk, hst, he, ha, hS, hP]
    by_cases hm : (decide (9 < g'.v.length + 1) || leValue g'.c &&& 1 == 0) = true
    · rw [if_pos hm, if_pos hm, hz hm]
    · rw [if_neg hm, if_neg hm]

/-- A MySQL 5.7 greeting without plugin, whose header gives its length. -/
def mysql57 : Greeting where
  h := [0x33, 0, 0]
  q := 0
  r := 10
  v := [0x35, 0x2e, 0x37, 0x2e, 0x30]
  t := [1, 0, 0, 0]
  s1 := [1, 1, 1, 1, 1, 1, 1, 1, 0]
  c := [0xff, 0xf7]
  k := 8
  st := [2, 0]
  e := [0xff, 0x81]
  a := 0
  z := [0, 0, 0, 0, 0, 0, 0, 0, 0, 0]
  S := [1, 1, 1, 1, 1, 1, 1, 1, 1, 1, 1, 1, 0]
  P := []
  h_length := rfl
  t_length := rfl
  s1_length := rfl
  c_length := rfl
  st_length := rfl
  e_length := rfl
  z_length := rfl
  v_nul := by decide
  v_length := by decide
  a_pre5 := fun _ => rfl
  S_shape := by decide
  P_shape := by decide

/-- A MariaDB 10.3 greeting (the version string `5.5.5-10.3`) whose MariaDB field holds the
little-endian 1. -/
def mariadb103 : Greeting :=
  { mysql57 with
    h := [0x38, 0, 0], h_length := rfl
    v := [0x35, 0x2e, 0x35, 0x2e, 0x35, 0x2d, 0x31, 0x30, 0x2e, 0x33]
    v_nul := by decide, v_length := by decide, a_pre5 := fun _ => rfl, S_shape := by decide
    c := [0xfe, 0xf7], c_length := rfl
    z := [0, 0, 0, 0, 0, 0, 1, 0, 0, 0], z_length := rfl }

theorem mariadb_ext_cap_network_order :
    (mysqlServerGreet mariadb103.bytes).map (fun r => (r.1.isMariadb, r.1.mariadbExtCap))
      = .ok (true, 16777216) ∧ leValue (mariadb103.z.drop 6) = 1 :=
  ⟨rfl, rfl⟩

/-! ### The greeting matcher

The static matcher skips the 3 bytes of the length and reads 8: the packet number, the
protocol version and the first six bytes of the version string, of which the mask keeps five.
On a greeting of `L` it therefore decides on those fields alone. -/

/-- `mysql_server_greet::matcher`. -/
def MysqlServerGreet.matcher : MaskValueAndOffset 8 where
  mask := [0xF8, 0xFF, 0xF0, 0xFF, 0xF0, 0xE0, 0xE0, 0x00]
  value := [0x00, 0x0A, 0x30, 0x2E, 0x30, 0x20, 0x20, 0x00]
  offset := 3
  mask_length := rfl
  value_length := rfl

/-- **What the matcher reads of a greeting of `L`**: the packet number, the protocol version
and the first five bytes of the version string, nothing else. -/
theorem matcher_on_greeting (g : Greeting) :
    MysqlServerGreet.matcher.matches g.bytes g.bytes.length =
      (g.q &&& 0xf8 == 0 && g.r == 0x0a && g.v.getD 0 0 &&& 0xf0 == 0x30 &&
        g.v.getD 1 0 == 0x2e && g.v.getD 2 0 &&& 0xf0 == 0x30 &&
        g.v.getD 3 0 &&& 0xe0 == 0x20 && g.v.getD 4 0 &&& 0xe0 == 0x20) := by
  obtain ⟨h0, h1, h2, hh⟩ := List.length_eq_three.mp g.h_length
  have hlen := length_bytes g
  have hv := g.v_length
  have hget : ∀ (rest : List UInt8) (i : Nat), i < 5 → (g.v ++ rest).getD i 0 = g.v.getD i 0 :=
    fun rest i hi => List.getD_append _ _ _ _ (by omega)
  have hdrop : g.bytes.drop 3 = g.q :: g.r :: (g.v ++ 0 :: (g.t ++ g.s1 ++ g.c ++ g.k ::
      (g.st ++ g.e ++ g.a :: (g.z ++ g.S ++ g.P)))) := by
    simp [Greeting.bytes, hh]
  unfold MaskValueAndOffset.matches
  rw [show decide (MysqlServerGreet.matcher.offset + 8 ≤ g.bytes.length) = true from
    decide_eq_true (by show 11 ≤ _; omega), Bool.true_and]
  simp only [compareMaskedDataToValue, show MysqlServerGreet.matcher.offset = 3 from rfl, hdrop,
    show List.range 8 = [0, 1, 2, 3, 4, 5, 6, 7] from rfl, List.all_cons, List.all_nil,
    List.getD_cons_zero, List.getD_cons_succ, hget _ 0 (by decide), hget _ 1 (by decide),
    hget _ 2 (by decide), hget _ 3 (by decide), hget _ 4 (by decide), MysqlServerGreet.matcher,
    land_ff, land_zero, beq_self_eq_true, Bool.and_true, Bool.and_assoc]

/-! ### Greetings cut short -/

/-- A greeting of a 3.2.1 server cut seven bytes short, inside the reserved bytes. -/
def truncatedPre41 : List UInt8 :=
  [0x26, 0, 0, 0, 10, 0x33, 0x2e, 0x32, 0x2e, 0x31, 0, 1, 0, 0, 0, 1, 1, 1, 1, 1, 1, 1, 1, 0,
   0xff, 0xf7, 8, 2, 0, 0, 0, 0, 0, 0, 0]

theorem accepts_truncated_greeting :
    accepts truncatedPre41 = true ∧ ¬ ∃ g : Greeting, g.bytes = truncatedPre41 := by
  refine ⟨by decide, ?_⟩
  rintro ⟨g, hg⟩
  have := length_bytes g
  rw [hg] at this
  exact absurd this (by decide)

/-! ### The length field

The three header bytes are read into `len`, and nothing reads `len`: every stage after the
initialisers commutes with setting it. -/

theorem initFrom_len (n m : Nat) (pkt : Datum) :
    initFrom n pkt = ({ (initFrom m pkt).1 with len := n }, (initFrom m pkt).2) := by
  unfold initFrom
  rfl

theorem greetTail_len (g : MysqlServerGreet) (pkt : Datum) (n : Nat) :
    greetTail { g with len := n } pkt =
      ({ (greetTail g pkt).1 with len := n }, (greetTail g pkt).2) := by
  unfold greetTail
  dsimp only
  rcases (if g.ifAuthPlugin then pkt.parse (g.authPluginLen + 1) else (g.authPlugin, pkt)) with
    ⟨a, p⟩
  dsimp only
  split <;> rfl

theorem salt2Checks_len (g : MysqlServerGreet) (pkt : Datum) (n : Nat) :
    salt2Checks { g with len := n } pkt =
      ({ (salt2Checks g pkt).1 with len := n }, (salt2Checks g pkt).2) := by
  unfold salt2Checks
  rcases pkt.parse 13 with ⟨s, p⟩
  dsimp only
  split_ifs
  · rfl
  · rfl
  · exact greetTail_len { g with salt2 := s } p n

theorem reserved_len (g : MysqlServerGreet) (pkt : Datum) (n : Nat) :
    reserved { g with len := n } pkt =
      ({ (reserved g pkt).1 with len := n }, (reserved g pkt).2) := by
  unfold reserved
  dsimp only
  split
  · rcases (pkt.skip 6).encoded 4 false with ⟨x, p⟩
    rfl
  · rfl

theorem greetChecks_len (g : MysqlServerGreet) (pkt : Datum) (n : Nat) :
    greetChecks { g with len := n } pkt =
      ({ (greetChecks g pkt).1 with len := n }, (greetChecks g pkt).2) := by
  have hv : ∀ a b, versionFlags { g with len := n } a b = { versionFlags g a b with len := n } :=
    fun _ _ => rfl
  unfold greetChecks
  simp only [hv, reserved_len]
  split_ifs
  · rfl
  · rfl
  · rfl
  · exact salt2Checks_len _ _ _
  · exact greetTail_len _ _ _

/-- The initialisers on a buffer of at least three bytes: `len` from the header, then the rest
from the bytes after it. -/
theorem initFields_header_ord (h₀ h₁ h₂ : UInt8) (rest : List UInt8)
    (ord : Equiv.Perm (Fin 3)) :
    initFields (view 0 (h₀ :: h₁ :: h₂ :: rest)) ord =
      initFrom (lenValue ord [h₀.toNat, h₁.toNat, h₂.toNat]) (view 3 rest) := by
  simp only [initFields, encoded_view_cons]

theorem initFields_header (h₀ h₁ h₂ : UInt8) (rest : List UInt8) :
    initFields (view 0 (h₀ :: h₁ :: h₂ :: rest)) =
      initFrom (leValue [h₀, h₁, h₂]) (view 3 rest) := by
  rw [initFields_header_ord, lenValue_refl, len_eq_leValue]

/-- **The header is read into `len` and by nothing else**: whatever three bytes head the
buffer, and in whatever order a build combines them, the record is the same but for `len`,
which holds the header bytes in that order, and so is acceptance. -/
theorem greet_ignores_length_field (ord ord' : Equiv.Perm (Fin 3))
    (h₀ h₁ h₂ h₀' h₁' h₂' : UInt8) (rest : List UInt8) :
    greet (h₀ :: h₁ :: h₂ :: rest) ord =
        ({ (greet (h₀' :: h₁' :: h₂' :: rest) ord').1 with
            len := lenValue ord [h₀.toNat, h₁.toNat, h₂.toNat] },
         (greet (h₀' :: h₁' :: h₂' :: rest) ord').2) ∧
      accepts (h₀ :: h₁ :: h₂ :: rest) ord = accepts (h₀' :: h₁' :: h₂' :: rest) ord' := by
  have hg : greet (h₀ :: h₁ :: h₂ :: rest) ord =
      ({ (greet (h₀' :: h₁' :: h₂' :: rest) ord').1 with
          len := lenValue ord [h₀.toNat, h₁.toNat, h₂.toNat] },
       (greet (h₀' :: h₁' :: h₂' :: rest) ord').2) := by
    unfold greet
    rw [initFields_header_ord, initFields_header_ord,
      initFrom_len _ (lenValue ord' [h₀'.toNat, h₁'.toNat, h₂'.toNat])]
    exact greetChecks_len _ _ _
  refine ⟨hg, ?_⟩
  rw [accepts_eq _ ord, accepts_eq _ ord', hg]

/-- A build that evaluates the two shifted operands first stores the header `01 02 03` as
`0x020103`, where reading left to right gives `0x030201`. -/
example : lenValue ((Equiv.swap 0 2).trans (Equiv.swap 0 1)) [1, 2, 3] = 0x020103 ∧
    lenValue (Equiv.refl _) [1, 2, 3] = 0x030201 := by
  decide

/-- A greeting of `L` whose header is one more than its length. -/
theorem accepts_inconsistent_length :
    let b := { mysql57 with h := [0x34, 0, 0], h_length := rfl }.bytes
    accepts b = true ∧ leValue (b.take 3) ≠ b.length - 4 :=
  ⟨by decide, by decide⟩

end Mercury.Mysql
