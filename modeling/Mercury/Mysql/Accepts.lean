/-
What the greeting constructor accepts.

`is_not_empty()` of a `mysql_server_greet` built over a buffer holds exactly when the buffer
is three header bytes, the packet number, the protocol version, a version string of at least
five bytes other than NUL and its NUL, and then bytes `rest` that `restAccepted` admits
(`accepts_iff_split`, `accepts_eq_restAccepted`).  The verdict reads the first and third bytes
of the version string, bytes 20 and 43 of `rest`, and how many bytes there are, and nothing
else.  Two facts of the cursor make it so.  A run of reads of total width `n` leaves the
cursor `n` bytes on whether the bytes were there or not, so where each check looks is fixed
by the version string alone.  And a read past the end turns the cursor null, whose length is
zero, so the check that nothing is left after the plugin name passes on a greeting cut short.

The accepted buffers are therefore the greetings of `L` and two kinds of cut greeting
(`accepts_iff_language`): a greeting below 4.1 cut anywhere after its version string, and a
greeting with a plugin cut anywhere inside the plugin name.  An accepted buffer is completed
into a greeting of `L` by padding it with zeros (`exists_greeting`).  Of the cuts of one
greeting, those accepted are exactly the whole greeting and the cuts that `cutAccepted`
admits (`accepts_take_iff_cutAccepted`).
-/
import Mercury.Mysql.Language

namespace Mercury.Mysql

open Datum

/-! ### Each stage by position -/

theorem greet_eq (b : List UInt8) :
    greet b = greetChecks (initFields (view 0 b)).1 (initFields (view 0 b)).2 := rfl

/-- The initialisers by position: the version string is looked for two bytes in, the plugin
length is the byte 20 bytes after it, and the cursor stops 21 bytes after it. -/
theorem initFrom_by_position (len : Nat) (pkt : Datum) :
    (initFrom len pkt).1.version = (versionField (pkt.skip 2)).1 ∧
      (initFrom len pkt).1.valid = true ∧
      (initFrom len pkt).1.authPluginLen =
        (((versionField (pkt.skip 2)).2.skip 20).encoded 1 false).1 ∧
      (initFrom len pkt).2 = (versionField (pkt.skip 2)).2.skip 21 := by
  dsimp only [initFrom]
  simp only [encoded_snd, parse_snd, skip_skip, and_true]

theorem version_initFields (d : Datum) :
    (initFields d).1.version = (versionField (d.skip 5)).1 := by
  dsimp only [initFields]
  rw [(initFrom_by_position _ _).1]
  simp only [encoded_snd, skip_skip]

theorem reserved_eq (g : MysqlServerGreet) (pkt : Datum) :
    reserved g pkt =
      ({ g with partialSalt := !g.isVerLess41,
                isMariadb := decide (9 < g.version.length) || g.cap &&& 1 == 0,
                mariadbExtCap := if decide (9 < g.version.length) || g.cap &&& 1 == 0
                  then ((pkt.skip 6).encoded 4 false).1 else g.mariadbExtCap },
       pkt.skip 10) := by
  unfold reserved
  dsimp only
  split <;> simp_all [encoded_snd, skip_skip]

theorem valid_greetTail (g : MysqlServerGreet) (pkt : Datum) :
    (greetTail g pkt).1.valid =
      (g.valid &&
        ((if g.ifAuthPlugin then pkt.skip (g.authPluginLen + 1) else pkt).length == 0)) := by
  unfold greetTail
  cases g.ifAuthPlugin
  · by_cases h : pkt.length = 0 <;> simp [h]
  · by_cases h : (pkt.skip (g.authPluginLen + 1)).length = 0 <;> simp [h, parse_snd]

theorem valid_salt2Checks (g : MysqlServerGreet) (pkt : Datum) :
    (salt2Checks g pkt).1.valid =
      (decide ((pkt.parse 13).1.length = 13) && (pkt.parse 13).1.bytes.getD 12 0 == 0 &&
        g.valid && ((if g.ifAuthPlugin then (pkt.skip 13).skip (g.authPluginLen + 1)
          else pkt.skip 13).length == 0)) := by
  unfold salt2Checks
  rcases hp : pkt.parse 13 with ⟨s, p⟩
  obtain rfl : p = pkt.skip 13 := by rw [← parse_snd, hp]
  dsimp only
  by_cases h13 : s.length = 13
  · rw [if_neg (not_not.mpr h13), h13]
    by_cases h0 : s.bytes.getD 12 0 = 0
    · rw [if_neg (not_not.mpr h0), valid_greetTail]
      simp only [h0, decide_True, beq_self_eq_true, Bool.true_and]
    · rw [if_pos h0]
      simp only [decide_True, Bool.true_and, beq_eq_false_iff_ne.mpr h0, Bool.false_and]
  · rw [if_pos h13]
    simp [h13]

/-! ### The verdict in closed form -/

/-- The bytes the plugin name takes with its NUL, for a plugin length `a`. -/
def pluginWidth (a : Nat) : Nat := if 0 < a then a + 1 else 0

/-- What the constructor asks of the bytes `rest` after the NUL of the version string `v`: no
plugin below version 5; then below 4.1 nothing past the 31 fixed and reserved bytes and the
plugin name, and from 4.1 on a second salt ending in NUL and nothing past the plugin name.
The plugin length is byte 20, or 0 where the bytes stop before it. -/
def restAccepted (v rest : List UInt8) : Bool :=
  let a := (rest.getD 20 0).toNat
  !(decide (v.getD 0 0 < 0x35) && decide (0 < a)) &&
    if lessThan41 v then decide (rest.length ≤ 31 + pluginWidth a)
    else decide (44 ≤ rest.length) && rest.getD 43 0 == 0 &&
      decide (rest.length ≤ 44 + pluginWidth a)

theorem restAccepted_iff (v rest : List UInt8) : restAccepted v rest = true ↔
    (v.getD 0 0 < 0x35 → (rest.getD 20 0).toNat = 0) ∧
      if lessThan41 v then rest.length ≤ 31 + pluginWidth (rest.getD 20 0).toNat
      else 44 ≤ rest.length ∧ rest.getD 43 0 = 0 ∧
        rest.length ≤ 44 + pluginWidth (rest.getD 20 0).toNat := by
  unfold restAccepted
  cases lessThan41 v <;> simp [imp_iff_not_or, and_assoc]

theorem not_plugin_pre5 {x : UInt8} {a : Nat} (h : x < 0x35 → a = 0) :
    (!(decide (x < 0x35) && decide (0 < a))) = true := by
  by_cases hx : x < 0x35
  · simp [hx, h hx]
  · simp [hx]

theorem valid_greetChecks_of_short {g : MysqlServerGreet} (pkt : Datum)
    (h : g.version.length < 6) : (greetChecks g pkt).1.valid = false := by
  unfold greetChecks
  rw [if_pos h]

/-- A plugin below version 5 is refused. -/
theorem valid_greetChecks_of_plugin {g : MysqlServerGreet} (pkt : Datum) {o : Nat}
    {v : List UInt8} (hver : g.version = view o (v ++ [0])) (hv : 5 ≤ v.length)
    (hp : v.getD 0 0 < 0x35 ∧ 0 < g.authPluginLen) : (greetChecks g pkt).1.valid = false := by
  have hget : (v ++ [0]).getD 0 0 = v.getD 0 0 := by
    simp [List.getElem?_append_left (show 0 < v.length by omega)]
  have hlast : (v ++ [0]).getD v.length 0 = 0 := by simp
  unfold greetChecks
  rw [if_neg (by simp [hver]; omega)]
  simp only [hver, length_view, bytes_view, List.length_append, List.length_singleton,
    Nat.add_sub_cancel, hlast, ne_eq, not_true_eq_false, if_false, hget, versionFlags]
  rw [if_pos ⟨hp.1, by simpa using hp.2⟩]

/-- The body's verdict on a record whose version string `v` ends in its NUL, whose plugin
length is byte 20 of the bytes `rest` after it, and with the cursor 21 bytes into `rest`. -/
theorem valid_greetChecks (g : MysqlServerGreet) {o o' : Nat} {v : List UInt8}
    (rest : List UInt8) (hver : g.version = view o (v ++ [0])) (hvalid : g.valid = true)
    (ha : g.authPluginLen = (rest.getD 20 0).toNat) :
    (greetChecks g ((view o' rest).skip 21)).1.valid =
      (decide (5 ≤ v.length) && restAccepted v rest) := by
  by_cases h5 : 5 ≤ v.length
  swap
  · rw [valid_greetChecks_of_short _ (by simp [hver]; omega)]
    simp [h5]
  by_cases hp : v.getD 0 0 < 0x35 ∧ 0 < g.authPluginLen
  · have hA : 0 < (rest.getD 20 0).toNat := ha ▸ hp.2
    rw [valid_greetChecks_of_plugin _ hver h5 hp]
    simp only [restAccepted, decide_eq_true hp.1, decide_eq_true hA, Bool.and_true, Bool.not_true,
      Bool.false_and, Bool.and_false]
  have hp : v.getD 0 0 < 0x35 → g.authPluginLen = 0 := fun h =>
    Nat.eq_zero_of_not_pos fun hA => hp ⟨h, hA⟩
  rw [greetChecks_of_version g _ hver h5 hp, reserved_eq]
  dsimp only
  simp only [restAccepted, pluginWidth, ← ha, not_plugin_pre5 hp, decide_eq_true h5,
    Bool.true_and, skip_skip]
  cases hl : lessThan41 v
  · -- from 4.1 on: the second salt is bytes 31 to 44
    simp only [Bool.not_false, if_true, valid_salt2Checks, hvalid, parse_skip_view, skip_skip,
      Bool.and_true, Bool.false_eq_true, if_false, Nat.reduceAdd]
    by_cases h44 : 44 ≤ rest.length
    · have h13 : (List.take 13 (List.drop 31 rest)).length = 13 := by simp; omega
      have h43 : (List.take 13 (List.drop 31 rest)).getD 12 0 = rest.getD 43 0 := by
        simp only [List.getD_eq_getElem?_getD, List.getElem?_take_of_lt (by decide : 12 < 13),
          List.getElem?_drop]
      rw [if_pos h44]
      by_cases hpos : 0 < g.authPluginLen <;>
        simp only [length_view, bytes_view, h13, h43, hpos, decide_eq_true h44, decide_True,
          decide_False, if_true, if_false, Bool.true_and, skip_skip, length_skip_view_beq_zero,
          Nat.reduceAdd, Bool.false_eq_true, Nat.add_zero]
    · rw [if_neg h44]
      simp [h44]
  · -- below 4.1: the tail follows the reserved bytes
    simp only [Bool.not_true, Bool.false_eq_true, if_false, if_true, valid_greetTail, hvalid,
      Bool.true_and]
    by_cases hpos : 0 < g.authPluginLen <;>
      simp only [hpos, decide_True, decide_False, if_true, if_false, Bool.false_eq_true, skip_skip,
        length_skip_view_beq_zero, Nat.reduceAdd, Nat.add_zero]

theorem valid_greet (h₀ h₁ h₂ q r : UInt8) {v : List UInt8} (rest : List UInt8) (hv : 0 ∉ v) :
    (greet (h₀ :: h₁ :: h₂ :: q :: r :: (v ++ 0 :: rest))).1.valid =
      (decide (5 ≤ v.length) && restAccepted v rest) := by
  have hskip : (view 3 (q :: r :: (v ++ 0 :: rest))).skip 2 = view 5 (v ++ 0 :: rest) :=
    skip_view_append 3 _ (x := [q, r]) rfl
  obtain ⟨hver, hvalid, ha, hpkt⟩ :=
    initFrom_by_position (leValue [h₀, h₁, h₂]) (view 3 (q :: r :: (v ++ 0 :: rest)))
  rw [hskip, versionField_view_append 5 rest hv] at hver ha hpkt
  rw [greet_eq, initFields_header, hpkt]
  exact valid_greetChecks _ rest hver hvalid (ha.trans (encoded_one_skip_view _ _ _ _))

theorem versionField_of_not_mem {o : Nat} {bs : List UInt8} (h : (0 : UInt8) ∉ bs) :
    (versionField (view o bs)).1 = null := by
  have : bs.findIdx? (· == 0) = none := by
    simp only [List.findIdx?_eq_none_iff, beq_iff_eq]
    exact fun x hx => beq_eq_false_iff_ne.mpr fun h0 => h (h0 ▸ hx)
  simp [versionField, findDelim, this]

/-- Without a NUL after the fifth byte there is no version string, and the greeting is
refused. -/
theorem valid_greet_of_version_null {b : List UInt8}
    (h : (versionField ((view 0 b).skip 5)).1 = null) : (greet b).1.valid = false := by
  rw [greet_eq]
  exact valid_greetChecks_of_short _ (by rw [version_initFields, h]; decide)

theorem valid_greet_of_length_lt {b : List UInt8} (h : b.length < 5) :
    (greet b).1.valid = false :=
  valid_greet_of_version_null (by rw [skip_of_lt (by simpa using h)]; rfl)

/-- The accepted buffers, split at the NUL of the version string. -/
theorem accepts_iff_split (b : List UInt8) :
    accepts b = true ↔ ∃ h q r v rest, h.length = 3 ∧ 0 ∉ v ∧ 5 ≤ v.length ∧
      restAccepted v rest = true ∧ b = h ++ q :: r :: (v ++ 0 :: rest) := by
  rw [accepts_eq]
  constructor
  · intro hb
    rcases b with _ | ⟨h₀, _ | ⟨h₁, _ | ⟨h₂, _ | ⟨q, _ | ⟨r, X⟩⟩⟩⟩⟩
    iterate 5 exact absurd hb (by simp [valid_greet_of_length_lt])
    by_cases hX : (0 : UInt8) ∈ X
    · obtain ⟨v, rest, hv, rfl, -⟩ := List.exists_erase_eq hX
      rw [valid_greet h₀ h₁ h₂ q r rest hv, Bool.and_eq_true, decide_eq_true_iff] at hb
      exact ⟨[h₀, h₁, h₂], q, r, v, rest, rfl, hv, hb.1, hb.2, rfl⟩
    · have hs : (view 0 (h₀ :: h₁ :: h₂ :: q :: r :: X)).skip 5 = view 5 X :=
        skip_view_append 0 X (x := [h₀, h₁, h₂, q, r]) rfl
      rw [valid_greet_of_version_null (hs ▸ versionField_of_not_mem hX)] at hb
      contradiction
  · rintro ⟨h, q, r, v, rest, hh, hv, h5, hr, rfl⟩
    obtain ⟨h₀, h₁, h₂, rfl⟩ := List.length_eq_three.mp hh
    rw [List.cons_append, List.cons_append, List.cons_append, List.nil_append,
      valid_greet h₀ h₁ h₂ q r rest hv, decide_eq_true h5, hr]
    rfl

/-- **Acceptance in closed form**: on a buffer split at the NUL of its version string, the
constructor accepts exactly when the version string has five bytes and `restAccepted` admits
what follows. -/
theorem accepts_eq_restAccepted {h : List UInt8} (q r : UInt8) {v : List UInt8}
    (rest : List UInt8) (hh : h.length = 3) (hv : 0 ∉ v) :
    accepts (h ++ q :: r :: (v ++ 0 :: rest)) = (decide (5 ≤ v.length) && restAccepted v rest) := by
  obtain ⟨h₀, h₁, h₂, rfl⟩ := List.length_eq_three.mp hh
  rw [accepts_eq]
  exact valid_greet h₀ h₁ h₂ q r rest hv

/-- A MySQL 4.0 greeting cut four bytes after its version string. -/
theorem accepts_eq_restAccepted_mysql40_cut :
    ([0x12, 0, 0] : List UInt8).length = 3 ∧ (0 : UInt8) ∉ [0x34, 0x2e, 0x30, 0x2e, 0x31] ∧
      accepts ([0x12, 0, 0] ++ 0 :: 10 :: ([0x34, 0x2e, 0x30, 0x2e, 0x31] ++ 0 :: [1, 0, 0, 0])) =
        (decide (5 ≤ [0x34, 0x2e, 0x30, 0x2e, 0x31].length) &&
          restAccepted [0x34, 0x2e, 0x30, 0x2e, 0x31] [1, 0, 0, 0]) :=
  ⟨rfl, by decide, accepts_eq_restAccepted 0 10 [1, 0, 0, 0] rfl (by decide)⟩

/-! ### A greeting of `L` after its version string -/

/-- The bytes of a greeting after the NUL of its version string. -/
def Greeting.rest (g : Greeting) : List UInt8 :=
  g.t ++ g.s1 ++ g.c ++ [g.k] ++ g.st ++ g.e ++ [g.a] ++ g.z ++ g.S ++ g.P

theorem Greeting.bytes_eq (g : Greeting) :
    g.bytes = g.h ++ g.q :: g.r :: (g.v ++ 0 :: g.rest) := by
  simp [Greeting.bytes, Greeting.rest]

theorem Greeting.length_bytes_eq (g : Greeting) :
    g.bytes.length = g.v.length + 6 + g.rest.length := by
  simp [g.bytes_eq, g.h_length]
  omega

theorem Greeting.length_P (g : Greeting) : g.P.length = pluginWidth g.a.toNat := by
  have := g.P_shape
  unfold pluginWidth
  split <;> simp_all

theorem Greeting.length_rest (g : Greeting) :
    g.rest.length = 31 + g.S.length + pluginWidth g.a.toNat := by
  simp [Greeting.rest, g.t_length, g.s1_length, g.c_length, g.st_length, g.e_length, g.z_length,
    g.length_P]
  omega

/-- From 4.1 on the second salt is 13 bytes ending in NUL. -/
theorem Greeting.S_of_not_lessThan41 (g : Greeting) (hl : lessThan41 g.v = false) :
    g.S.length = 13 ∧ g.S.getD 12 0 = 0 := by
  have hS := g.S_shape
  rwa [hl, if_neg Bool.false_ne_true] at hS

theorem Greeting.getD_rest_twenty (g : Greeting) : g.rest.getD 20 0 = g.a := by
  have hpre : (g.t ++ g.s1 ++ g.c ++ [g.k] ++ g.st ++ g.e).length = 20 := by
    simp [g.t_length, g.s1_length, g.c_length, g.st_length, g.e_length]
  rw [show g.rest = (g.t ++ g.s1 ++ g.c ++ [g.k] ++ g.st ++ g.e) ++ g.a :: (g.z ++ g.S ++ g.P) by
    simp [Greeting.rest], List.getD_append_right _ _ _ _ hpre.le, hpre]
  rfl

theorem Greeting.getD_rest_fortyThree (g : Greeting) (h : lessThan41 g.v = false) :
    g.rest.getD 43 0 = 0 := by
  have hS := g.S_of_not_lessThan41 h
  have hpre : (g.t ++ g.s1 ++ g.c ++ [g.k] ++ g.st ++ g.e ++ [g.a] ++ g.z).length = 31 := by
    simp [g.t_length, g.s1_length, g.c_length, g.st_length, g.e_length, g.z_length]
  rw [show g.rest = (g.t ++ g.s1 ++ g.c ++ [g.k] ++ g.st ++ g.e ++ [g.a] ++ g.z) ++ (g.S ++ g.P) by
    simp [Greeting.rest], List.getD_append_right _ _ _ _ (by omega), hpre,
    List.getD_append _ _ _ _ (by omega)]
  exact hS.2

theorem lt35_of_lessThan41 {v : List UInt8} (h : lessThan41 v = true) : v.getD 0 0 < 0x35 := by
  simp only [lessThan41, Bool.or_eq_true, decide_eq_true_eq, Bool.and_eq_true, beq_iff_eq] at h
  rcases h with h | ⟨h, -⟩
  · exact UInt8.lt_trans h (by decide)
  · rw [h]
    decide

theorem getD_take_zero (l : List UInt8) (m i : Nat) :
    (l.take m).getD i 0 = if i < m then l.getD i 0 else 0 := by
  simp only [List.getD_eq_getElem?_getD, List.getElem?_take]
  split <;> rfl

/-- A greeting of `L` cut after its version string still passes `restAccepted`: below 4.1
anywhere, from 4.1 on anywhere past the second salt. -/
theorem restAccepted_take (g : Greeting) (m : Nat) (hm : lessThan41 g.v = true ∨ 44 ≤ m) :
    restAccepted g.v (g.rest.take m) = true := by
  have hlen := g.length_rest
  cases hl : lessThan41 g.v
  · have hm : 44 ≤ m := by simpa [hl] using hm
    have h20 : (g.rest.take m).getD 20 0 = g.a := by
      rw [getD_take_zero, if_pos (by omega), g.getD_rest_twenty]
    have h43 : (g.rest.take m).getD 43 0 = 0 := by
      rw [getD_take_zero, if_pos (by omega), g.getD_rest_fortyThree hl]
    have ha := not_plugin_pre5 (x := g.v.getD 0 0) (a := g.a.toNat) fun h => by simp [g.a_pre5 h]
    simp only [restAccepted, h20, h43, hl, ha, List.length_take, Bool.false_eq_true, if_false]
    simp [(g.S_of_not_lessThan41 hl).1, hlen]
    omega
  · have ha : g.a = 0 := g.a_pre5 (lt35_of_lessThan41 hl)
    have hS := g.S_shape
    rw [hl, if_pos rfl] at hS
    have h20 : (g.rest.take m).getD 20 0 = 0 := by
      rw [getD_take_zero]
      split
      · rw [g.getD_rest_twenty, ha]
      · rfl
    have h31 : g.rest.length = 31 := by rw [hlen, hS, ha]; rfl
    simp only [restAccepted, h20, hl, List.length_take, h31, if_true, Bool.and_eq_true]
    exact ⟨not_plugin_pre5 fun _ => rfl,
      decide_eq_true (Nat.le_add_right_of_le (Nat.min_le_right _ _))⟩

theorem Greeting.take_bytes (g : Greeting) {n : Nat} (hn : g.v.length + 6 ≤ n) :
    g.bytes.take n = g.h ++ g.q :: g.r :: (g.v ++ 0 :: g.rest.take (n - (g.v.length + 6))) := by
  have hpre : (g.h ++ g.q :: g.r :: (g.v ++ [0])).length = g.v.length + 6 := by
    simp [g.h_length]
    omega
  have hsplit : g.bytes = (g.h ++ g.q :: g.r :: (g.v ++ [0])) ++ g.rest := by simp [g.bytes_eq]
  rw [hsplit, List.take_append_eq_append_take, List.take_of_length_le (by omega), hpre]
  simp

/-- A cut after the version string is judged by `restAccepted` on what is left of `rest`. -/
theorem Greeting.accepts_take_eq (g : Greeting) {n : Nat} (hn : g.v.length + 6 ≤ n) :
    accepts (g.bytes.take n) = restAccepted g.v (g.rest.take (n - (g.v.length + 6))) := by
  obtain ⟨h₀, h₁, h₂, hh⟩ := List.length_eq_three.mp g.h_length
  rw [g.take_bytes hn, hh, accepts_eq]
  simp only [List.cons_append, List.nil_append]
  rw [valid_greet h₀ h₁ h₂ g.q g.r _ g.v_nul, decide_eq_true g.v_length, Bool.true_and]

theorem accepts_take (g : Greeting) {n : Nat} (hn : g.v.length + 6 ≤ n)
    (hm : lessThan41 g.v = true ∨ g.bytes.length - g.P.length ≤ n) :
    accepts (g.bytes.take n) = true := by
  have hrest : lessThan41 g.v = true ∨ 44 ≤ n - (g.v.length + 6) := by
    cases hl : lessThan41 g.v
    · have := g.length_bytes_eq
      have := g.length_rest
      have := g.length_P
      have := (g.S_of_not_lessThan41 hl).1
      simp only [hl, Bool.false_eq_true, false_or] at hm ⊢
      omega
    · exact .inl rfl
  rw [g.accepts_take_eq hn]
  exact restAccepted_take g _ hrest

/-! ### Completing an accepted buffer -/

theorem drop_eq_take_append_drop (l : List UInt8) (n m k : Nat) (h : n + m = k) :
    l.drop n = (l.drop n).take m ++ l.drop k := by
  rw [← h, ← List.drop_drop, List.take_append_drop]

theorem drop_eq_getD_cons {l : List UInt8} {n : Nat} (h : n < l.length) :
    l.drop n = l.getD n 0 :: l.drop (n + 1) := by
  rw [List.drop_eq_getElem_cons h, List.getD_eq_getElem _ _ h]

/-- The 31 bytes after the version string, cut into the fields of `L`. -/
theorem fixed_split (Y : List UInt8) (hY : 31 ≤ Y.length) :
    Y = Y.take 4 ++ (Y.drop 4).take 9 ++ (Y.drop 13).take 2 ++ [Y.getD 15 0] ++
      (Y.drop 16).take 2 ++ (Y.drop 18).take 2 ++ [Y.getD 20 0] ++ (Y.drop 21).take 10 ++
      Y.drop 31 := by
  conv_lhs => rw [← List.take_append_drop 4 Y, drop_eq_take_append_drop Y 4 9 13 rfl,
    drop_eq_take_append_drop Y 13 2 15 rfl, drop_eq_getD_cons (n := 15) (by omega),
    drop_eq_take_append_drop Y 16 2 18 rfl, drop_eq_take_append_drop Y 18 2 20 rfl,
    drop_eq_getD_cons (n := 20) (by omega), drop_eq_take_append_drop Y 21 10 31 rfl]
  simp only [List.append_assoc, List.singleton_append, List.cons_append, List.nil_append]

theorem getD_append_replicate_zero (l : List UInt8) (k i : Nat) :
    (l ++ List.replicate k 0).getD i 0 = l.getD i 0 := by
  by_cases h : i < l.length
  · exact List.getD_append _ _ _ _ h
  · rw [List.getD_append_right _ _ _ _ (by omega), List.getD_eq_default l 0 (by omega)]
    simp

theorem getD_drop_zero (l : List UInt8) (n i : Nat) : (l.drop n).getD i 0 = l.getD (n + i) 0 := by
  simp only [List.getD_eq_getElem?_getD, List.getElem?_drop]

/-- Bytes after a version string with the widths and side conditions of the grammar are cut
into the fields of a greeting of `L`. -/
theorem exists_greeting_of_fields {h : List UInt8} (q r : UInt8) {v Y : List UInt8} (s : Nat)
    (hh : h.length = 3) (hv : 0 ∉ v) (h5 : 5 ≤ v.length) (hs : s = if lessThan41 v then 0 else 13)
    (hY : Y.length = 31 + s + pluginWidth (Y.getD 20 0).toNat)
    (ha : v.getD 0 0 < 0x35 → Y.getD 20 0 = 0) (h43 : lessThan41 v = false → Y.getD 43 0 = 0) :
    ∃ g : Greeting, g.h = h ∧ g.q = q ∧ g.r = r ∧ g.v = v ∧ g.a = Y.getD 20 0 ∧ g.rest = Y := by
  have hS : if lessThan41 v then (Y.drop 31).take s = [] else
      ((Y.drop 31).take s).length = 13 ∧ ((Y.drop 31).take s).getD 12 0 = 0 := by
    cases hl : lessThan41 v
    · rw [hl, if_neg Bool.false_ne_true] at hs
      subst hs
      refine ⟨by rw [List.length_take, List.length_drop]; omega, ?_⟩
      rw [getD_take_zero, if_pos (by decide), getD_drop_zero]
      exact h43 hl
    · rw [hl, if_pos rfl] at hs
      subst hs
      rfl
  have hP : if 0 < (Y.getD 20 0).toNat then (Y.drop (31 + s)).length = (Y.getD 20 0).toNat + 1
      else Y.drop (31 + s) = [] := by
    have hw : (Y.drop (31 + s)).length = pluginWidth (Y.getD 20 0).toNat := by
      rw [List.length_drop]
      omega
    unfold pluginWidth at hw
    by_cases hpos : 0 < (Y.getD 20 0).toNat
    · rwa [if_pos hpos] at hw ⊢
    · rw [if_neg hpos] at hw ⊢
      exact List.eq_nil_of_length_eq_zero hw
  let g : Greeting :=
    { h, q, r, v, t := Y.take 4, s1 := (Y.drop 4).take 9, c := (Y.drop 13).take 2,
      k := Y.getD 15 0, st := (Y.drop 16).take 2, e := (Y.drop 18).take 2, a := Y.getD 20 0,
      z := (Y.drop 21).take 10, S := (Y.drop 31).take s, P := Y.drop (31 + s), h_length := hh,
      t_length := by rw [List.length_take]; omega,
      s1_length := by rw [List.length_take, List.length_drop]; omega,
      c_length := by rw [List.length_take, List.length_drop]; omega,
      st_length := by rw [List.length_take, List.length_drop]; omega,
      e_length := by rw [List.length_take, List.length_drop]; omega,
      z_length := by rw [List.length_take, List.length_drop]; omega,
      v_nul := hv, v_length := h5, a_pre5 := ha, S_shape := hS, P_shape := hP }
  refine ⟨g, rfl, rfl, rfl, rfl, rfl, ?_⟩
  have hsplit := fixed_split Y (by omega)
  rw [drop_eq_take_append_drop Y 31 s _ rfl] at hsplit
  simp only [Greeting.rest, g, List.append_assoc] at hsplit ⊢
  exact hsplit.symm

/-- Every buffer's bytes after the version string that `restAccepted` admits are a prefix of
those of a greeting of `L` with the same header, version string and plugin length: pad them
with zeros to the end of the plugin name. -/
theorem exists_greeting {h : List UInt8} (q r : UInt8) {v rest : List UInt8} (hh : h.length = 3)
    (hv : 0 ∉ v) (h5 : 5 ≤ v.length) (hr : restAccepted v rest = true) :
    ∃ g : Greeting, g.h = h ∧ g.q = q ∧ g.r = r ∧ g.v = v ∧ g.a = rest.getD 20 0 ∧
      rest <+: g.rest := by
  obtain ⟨hpre5, hshape⟩ := (restAccepted_iff v rest).mp hr
  have hlen : rest.length ≤
      31 + (if lessThan41 v then 0 else 13) + pluginWidth (rest.getD 20 0).toNat := by
    cases hl : lessThan41 v <;>
      simp only [hl, if_true, if_false, Bool.false_eq_true] at hshape ⊢ <;> omega
  have hget (k i : Nat) := getD_append_replicate_zero rest k i
  obtain ⟨g, h₁, h₂, h₃, h₄, h₅, h₆⟩ := exists_greeting_of_fields q r
    (Y := rest ++ List.replicate (31 + (if lessThan41 v then 0 else 13) +
      pluginWidth (rest.getD 20 0).toNat - rest.length) 0) _ hh hv h5 rfl
    (by rw [List.length_append, List.length_replicate, hget]; omega)
    (fun h0 => (hget _ 20).trans (UInt8.toNat.inj (hpre5 h0)))
    (fun hl => by
      rw [hget]
      rw [hl, if_neg Bool.false_ne_true] at hshape
      exact hshape.2.1)
  exact ⟨g, h₁, h₂, h₃, h₄, h₅.trans (hget _ 20), h₆ ▸ List.prefix_append _ _⟩

/-! ### The accepted language -/

/-- Whether the constructor accepts the first `n` bytes of a greeting of `L` cut short: below
4.1 when the cut is after the version string, and with a plugin when the cut is inside the
plugin name. -/
def Greeting.cutAccepted (g : Greeting) (n : Nat) : Bool :=
  lessThan41 g.v && decide (g.v.length + 6 ≤ n) ||
    decide (0 < g.a.toNat) && decide (g.bytes.length - g.P.length ≤ n)

theorem Greeting.accepts_take_of_cutAccepted (g : Greeting) {n : Nat}
    (hc : g.cutAccepted n = true) : accepts (g.bytes.take n) = true := by
  simp only [Greeting.cutAccepted, Bool.or_eq_true, Bool.and_eq_true, decide_eq_true_eq] at hc
  have := g.length_bytes_eq
  have := g.length_rest
  have := g.length_P
  rcases hc with ⟨hl, hn⟩ | ⟨-, hn⟩
  · exact accepts_take g hn (.inl hl)
  · exact accepts_take g (by omega) (.inr hn)

/-- **The accepted language**: the constructor accepts exactly the greetings of `L` and their
cuts that `cutAccepted` admits. -/
theorem accepts_iff_language (b : List UInt8) :
    accepts b = true ↔ (∃ g : Greeting, b = g.bytes) ∨
      ∃ (g : Greeting) (n : Nat), g.cutAccepted n = true ∧ b = g.bytes.take n := by
  constructor
  · intro hb
    obtain ⟨h, q, r, v, rest, hh, hv, h5, hr, rfl⟩ := (accepts_iff_split b).mp hb
    obtain ⟨g, rfl, rfl, rfl, rfl, ha, tail, htail⟩ := exists_greeting q r hh hv h5 hr
    have htake : g.h ++ g.q :: g.r :: (g.v ++ 0 :: rest) =
        g.bytes.take (g.h ++ g.q :: g.r :: (g.v ++ 0 :: rest)).length :=
      List.prefix_iff_eq_take.mp ⟨tail, by rw [g.bytes_eq, ← htail]; simp⟩
    obtain ⟨-, hshape⟩ := (restAccepted_iff g.v rest).mp hr
    rw [← ha] at hshape
    have := g.length_rest
    have := g.length_P
    cases hl : lessThan41 g.v
    · -- from 4.1 on: the whole greeting, or a cut inside the plugin name
      rw [hl, if_neg Bool.false_ne_true] at hshape
      have := g.length_bytes_eq
      have := (g.S_of_not_lessThan41 hl).1
      by_cases hA : 0 < g.a.toNat
      · refine .inr ⟨g, _, ?_, htake⟩
        simp [Greeting.cutAccepted, hA]
        omega
      · refine .inl ⟨g, ?_⟩
        have hw : pluginWidth g.a.toNat = 0 := by simp [pluginWidth, hA]
        have hgr : rest = g.rest :=
          ((List.prefix_append rest tail).eq_of_length_le (by rw [htail]; omega)).trans htail
        rw [g.bytes_eq, hgr]
    · -- below 4.1: a cut after the version string
      refine .inr ⟨g, _, ?_, htake⟩
      simp [Greeting.cutAccepted, hl]
      omega
  · rintro (⟨g, hb⟩ | ⟨g, n, hc, hb⟩) <;> rw [hb]
    · rw [← List.take_length g.bytes]
      exact accepts_take g (by rw [g.length_bytes_eq]; omega) (.inr (by omega))
    · exact g.accepts_take_of_cutAccepted hc

/-! ### The accepted cuts of one greeting -/

/-- A cut inside the version string or its NUL leaves no version string. -/
theorem Greeting.valid_greet_take_of_lt (g : Greeting) {n : Nat} (hn : n < g.v.length + 6) :
    (greet (g.bytes.take n)).1.valid = false := by
  by_cases h5 : n < 5
  · exact valid_greet_of_length_lt (by simp; omega)
  apply valid_greet_of_version_null
  have hd : (g.bytes.take n).drop 5 = g.v.take (n - 5) := by
    rw [List.drop_take, g.bytes_eq, show g.h ++ g.q :: g.r :: (g.v ++ 0 :: g.rest) =
      (g.h ++ [g.q, g.r]) ++ (g.v ++ 0 :: g.rest) by simp, List.drop_left' (by simp [g.h_length]),
      List.take_append_of_le_length (by omega)]
  rw [skip_view_of_le (by simp [g.length_bytes_eq]; omega), hd]
  exact versionField_of_not_mem fun h0 => g.v_nul (List.mem_of_mem_take h0)

/-- From 4.1 on, `restAccepted` admits a proper cut of a greeting's `rest` only inside the
plugin name. -/
theorem Greeting.restAccepted_take_cut (g : Greeting) {m : Nat} (hm : m < g.rest.length)
    (h : restAccepted g.v (g.rest.take m) = true) :
    lessThan41 g.v = true ∨ 0 < g.a.toNat ∧ g.rest.length - g.P.length ≤ m := by
  cases hl : lessThan41 g.v
  · obtain ⟨-, hshape⟩ := (restAccepted_iff _ _).mp h
    rw [hl, if_neg Bool.false_ne_true, List.length_take] at hshape
    have h44 : 44 ≤ m := by omega
    rw [getD_take_zero g.rest m 20, if_pos (by omega), g.getD_rest_twenty] at hshape
    have hlen := g.length_rest
    have hP := g.length_P
    rw [(g.S_of_not_lessThan41 hl).1] at hlen
    refine .inr ⟨Nat.pos_of_ne_zero fun ha => ?_, by omega⟩
    simp only [pluginWidth, ha, Nat.lt_irrefl, if_false] at hlen
    omega
  · exact .inl rfl

/-- **The accepted cuts of one greeting**: the constructor accepts the first `n` bytes of a
greeting of `L` exactly when they are the whole greeting or a cut that `cutAccepted` admits.
A cut inside the version string leaves no version string, and from 4.1 on a proper cut before
the plugin name leaves the second salt incomplete. -/
theorem accepts_take_iff_cutAccepted (g : Greeting) (n : Nat) :
    accepts (g.bytes.take n) = true ↔ g.bytes.length ≤ n ∨ g.cutAccepted n = true := by
  have := g.length_bytes_eq
  constructor
  · intro hb
    refine or_iff_not_imp_left.mpr fun hlen => ?_
    have hvn : g.v.length + 6 ≤ n := by
      by_contra hlt
      rw [accepts_eq, g.valid_greet_take_of_lt (by omega)] at hb
      exact Bool.false_ne_true hb
    rw [g.accepts_take_eq hvn] at hb
    rcases g.restAccepted_take_cut (by omega) hb with hl | ⟨hA, hm⟩
    · simp [Greeting.cutAccepted, hl, hvn]
    · simp [Greeting.cutAccepted, hA]
      omega
  · rintro (hlen | hc)
    · exact accepts_take g (by omega) (.inr (by omega))
    · exact g.accepts_take_of_cutAccepted hc

end Mercury.Mysql
