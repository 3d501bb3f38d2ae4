/-
The HTTP header block.

`http_headers::parse` records where the header block starts, then repeats two steps while the
cursor has bytes left: if the cursor is at a CRLF the block is complete and the loop stops;
otherwise the cursor moves past the next CRLF, and the loop stops if there is none.  The block
ends wherever the cursor ends.

The helpers it calls are declared in `extractor.h`, which is not among the sources; they are
modelled from the spec below.  A CRLF cannot overlap another, so the positions the loop visits
are the start and the end of every CRLF, in order, and the first of them at which a CRLF
starts is the end of the first blank line: 2 when the block opens with CRLF, otherwise the
first CRLF CRLF plus 4.  `parseLoop_view` states the whole run in those terms, by strong
induction on the bytes left, one loop step per case.

When there is no blank line the loop scans the last CRLF and then asks for one more.  If the
last CRLF ends the bytes (or there are none), the loop stops with the cursor at the end;
otherwise the helper finds nothing and nulls the cursor, and the block's end is the null
pointer.

`parse` sets `complete` but never clears it, so on a reused object the flag is the old one
or'ed with what this parse found (`parse_keeps_complete`).
-/
import Mercury.Datum

namespace Mercury.Http

open Datum

/-! ### Occurrences -/

/-- The offset of the first occurrence of `pat` in `bs`. -/
def firstOcc (pat : List UInt8) : List UInt8 → Option Nat
  | [] => if pat.isPrefixOf [] then some 0 else none
  | b :: bs => if pat.isPrefixOf (b :: bs) then some 0 else (firstOcc pat bs).map (· + 1)

theorem firstOcc_eq_some_iff {pat : List UInt8} :
    ∀ {bs : List UInt8} {i : Nat},
      firstOcc pat bs = some i ↔ pat <+: bs.drop i ∧ ∀ j < i, ¬pat <+: bs.drop j
  | [], i => by
    by_cases hp : pat <+: []
    · have : pat = [] := List.prefix_nil.mp hp
      subst this
      cases i with
      | zero => simp [firstOcc]
      | succ i => simp only [firstOcc]; simp; exact ⟨0, by omega⟩
    · simp only [firstOcc, List.isPrefixOf_iff_prefix, hp, if_false, List.drop_nil, false_and]
      simp
  | b :: bs, i => by
    by_cases hp : pat <+: b :: bs
    · simp only [firstOcc, List.isPrefixOf_iff_prefix, hp, if_true, Option.some.injEq]
      constructor
      · rintro rfl; exact ⟨hp, fun j hj => absurd hj (Nat.not_lt_zero j)⟩
      · rintro ⟨-, hmin⟩
        exact (Nat.eq_zero_of_not_pos fun h => hmin 0 h hp).symm
    · simp only [firstOcc, List.isPrefixOf_iff_prefix, hp, if_false, Option.map_eq_some']
      cases i with
      | zero => simp [hp]
      | succ i =>
        simp only [firstOcc_eq_some_iff, Nat.add_right_cancel_iff, exists_eq_right,
          List.drop_succ_cons]
        refine and_congr_right fun _ => ⟨fun h j hj => ?_, fun h j hj => ?_⟩
        · cases j with
          | zero => exact hp
          | succ j => exact h j (by omega)
        · exact h (j + 1) (by omega)

theorem firstOcc_eq_none_iff {pat bs : List UInt8} :
    firstOcc pat bs = none ↔ ∀ j, ¬pat <+: bs.drop j := by
  constructor
  · intro h j hj
    induction j using Nat.strong_induction_on with
    | _ j ih =>
      have : firstOcc pat bs = some j := firstOcc_eq_some_iff.mpr ⟨hj, fun k hk hpk => ih k hk hpk⟩
      simp [h] at this
  · intro h
    cases hf : firstOcc pat bs with
    | none => rfl
    | some i => exact absurd (firstOcc_eq_some_iff.mp hf).1 (h i)

/-- Past a stretch without occurrences, the first occurrence is found in what follows. -/
theorem firstOcc_of_none_before {pat bs : List UInt8} {m : Nat}
    (h : ∀ j < m, ¬pat <+: bs.drop j) :
    firstOcc pat bs = (firstOcc pat (bs.drop m)).map (m + ·) := by
  cases hf : firstOcc pat (bs.drop m) with
  | none =>
    rw [Option.map_none', firstOcc_eq_none_iff]
    rw [firstOcc_eq_none_iff] at hf
    intro j hj
    by_cases hjm : j < m
    · exact h j hjm hj
    · exact hf (j - m) (by rwa [List.drop_drop, Nat.add_sub_cancel' (by omega)])
  | some i =>
    rw [Option.map_some', firstOcc_eq_some_iff]
    rw [firstOcc_eq_some_iff] at hf
    rw [List.drop_drop] at hf
    refine ⟨hf.1, fun j hj hpj => ?_⟩
    by_cases hjm : j < m
    · exact h j hjm hpj
    · exact hf.2 (j - m) (by omega) (by rwa [List.drop_drop, Nat.add_sub_cancel' (by omega)])

/-! ### The helpers of `extractor.h` -/

/-- Modelled from the spec: `parser_match(p, value, n, NULL)` (declared in `extractor.h`, not
among the sources) compares the front of the cursor with `value`.  On a match the cursor moves
past those bytes, as the spec's account of `http_headers` needs: the cursor ends "positioned
exactly after the terminating blank line".  Otherwise the cursor is unchanged. -/
def parserMatch (p : Datum) (value : List UInt8) : Status × Datum :=
  match p with
  | .null => (.err, .null)
  | .view o bs => if value.isPrefixOf bs then
      (.ok, .view (o + value.length) (bs.drop value.length)) else (.err, p)

/-- Modelled from the spec: `parser_skip_upto_delim(p, delim, n)` (declared in
`extractor.h`, not among the sources) finds the first occurrence of `delim` among the
remaining bytes and moves the cursor past it, or nulls the cursor when there is none. -/
def parserSkipUptoDelim (p : Datum) (delim : List UInt8) : Status × Datum :=
  match p with
  | .null => (.err, .null)
  | .view o bs =>
    match firstOcc delim bs with
    | some i => (.ok, .view (o + (i + delim.length)) (bs.drop (i + delim.length)))
    | none => (.err, .null)

theorem parserMatch_view_match {o : Nat} {bs value : List UInt8} (h : value <+: bs) :
    parserMatch (.view o bs) value = (.ok, .view (o + value.length) (bs.drop value.length)) := by
  simp [parserMatch, h]

theorem parserMatch_view_mismatch {o : Nat} {bs value : List UInt8} (h : ¬value <+: bs) :
    parserMatch (.view o bs) value = (.err, .view o bs) := by
  simp [parserMatch, h]

theorem parserSkipUptoDelim_view_of_some {o i : Nat} {bs delim : List UInt8}
    (h : firstOcc delim bs = some i) :
    parserSkipUptoDelim (.view o bs) delim
      = (.ok, .view (o + (i + delim.length)) (bs.drop (i + delim.length))) := by
  simp [parserSkipUptoDelim, h]

theorem parserSkipUptoDelim_view_of_none {o : Nat} {bs delim : List UInt8}
    (h : firstOcc delim bs = none) : parserSkipUptoDelim (.view o bs) delim = (.err, .null) := by
  simp [parserSkipUptoDelim, h]

theorem parserMatch_err {p p₁ : Datum} {value : List UInt8}
    (h : parserMatch p value = (.err, p₁)) : p₁ = p := by
  cases p with
  | null => simp only [parserMatch, Prod.mk.injEq] at h; exact h.2.symm
  | view o bs =>
    simp only [parserMatch] at h
    split at h <;> simp_all

theorem length_lt_of_parserSkipUptoDelim {p p₂ : Datum} {delim : List UInt8}
    (hd : delim ≠ []) (h : parserSkipUptoDelim p delim = (.ok, p₂)) : p₂.length < p.length := by
  cases p with
  | null => simp [parserSkipUptoDelim] at h
  | view o bs =>
    simp only [parserSkipUptoDelim] at h
    split at h
    · rename_i i hi
      obtain ⟨hp, -⟩ := firstOcc_eq_some_iff.mp hi
      have hlen := hp.length_le
      have hpos := List.length_pos.mpr hd
      simp only [Prod.mk.injEq] at h
      rw [← h.2, length_view, length_view, List.length_drop]
      simp only [List.length_drop] at hlen
      omega
    · simp at h

/-! ### The loop -/

/-- The two bytes `"\r\n"`. -/
def crlf : List UInt8 := [0x0d, 0x0a]

@[simp] theorem length_crlf : crlf.length = 2 := rfl

/-- `http_headers`: the header block `[data, data_end)` as the raw pointers the parser sets,
and whether it ended in a blank line. -/
structure HttpHeaders where
  data : Option Nat
  dataEnd : Option Nat
  complete : Bool
  deriving DecidableEq, Repr

/-- `http_headers()`: a null block, not complete. -/
def HttpHeaders.init : HttpHeaders := ⟨none, none, false⟩

/-- The `while` loop of `parse`, from the flag `complete` and the cursor `p`. -/
def parseLoop (complete : Bool) (p : Datum) : Bool × Datum :=
  if 0 < p.length then
    match _hm : parserMatch p crlf with
    | (.ok, p₁) => (true, p₁)
    | (.err, p₁) =>
      match _hs : parserSkipUptoDelim p₁ crlf with
      | (.err, p₂) => (complete, p₂)
      | (.ok, p₂) => parseLoop complete p₂
  else (complete, p)
termination_by p.length
decreasing_by
  rw [← parserMatch_err _hm]
  exact length_lt_of_parserSkipUptoDelim (by simp [crlf]) _hs

/-- `parse(p)`: the block starts at the cursor and ends where the loop leaves it.  Returns the
headers and the cursor. -/
def HttpHeaders.parse (h : HttpHeaders) (p : Datum) : HttpHeaders × Datum :=
  let (complete, p₁) := parseLoop h.complete p
  ({ data := p.data, dataEnd := p₁.data, complete }, p₁)

/-! ### Blank lines -/

/-- Where the first blank line ends: 2 when the bytes open with CRLF, otherwise four bytes after
the first CRLF CRLF. -/
def blankLineEnd (bs : List UInt8) : Option Nat :=
  if crlf <+: bs then some 2 else (firstOcc (crlf ++ crlf) bs).map (· + 4)

theorem blankLineEnd_nil : blankLineEnd [] = none := by
  simp [blankLineEnd, crlf, firstOcc]

theorem blankLineEnd_of_none {bs : List UInt8} (h : firstOcc crlf bs = none) :
    blankLineEnd bs = none := by
  rw [firstOcc_eq_none_iff] at h
  have h2 : firstOcc (crlf ++ crlf) bs = none :=
    firstOcc_eq_none_iff.mpr fun j hj => h j ((List.prefix_append _ _).trans hj)
  have h0 : ¬crlf <+: bs := by simpa using h 0
  simp [blankLineEnd, h2, h0]

/-- One loop step: past the first CRLF, the first blank line is the one found from there. -/
theorem blankLineEnd_step {bs : List UInt8} {i : Nat} (hp : ¬crlf <+: bs)
    (hi : firstOcc crlf bs = some i) :
    blankLineEnd bs = (blankLineEnd (bs.drop (i + 2))).map ((i + 2) + ·) := by
  obtain ⟨hat, hmin⟩ := firstOcc_eq_some_iff.mp hi
  have hsplit : bs.drop i = crlf ++ bs.drop (i + 2) := by
    rw [← List.take_append_drop 2 (bs.drop i), List.drop_drop, List.prefix_iff_eq_take.mp hat]
    rfl
  by_cases hq : crlf <+: bs.drop (i + 2)
  · have hocc : firstOcc (crlf ++ crlf) bs = some i := firstOcc_eq_some_iff.mpr
      ⟨by rw [hsplit]; exact (List.prefix_append_right_inj crlf).mpr hq,
       fun j hj hpj => hmin j hj ((List.prefix_append _ _).trans hpj)⟩
    simp [blankLineEnd, hp, hq, hocc]
  · have hnone : ∀ j < i + 2, ¬crlf ++ crlf <+: bs.drop j := by
      intro j hj hpj
      have hc : crlf <+: bs.drop j := (List.prefix_append _ _).trans hpj
      rcases (by omega : j < i ∨ j = i ∨ j = i + 1) with h | rfl | rfl
      · exact hmin j h hc
      · rw [hsplit] at hpj; exact hq ((List.prefix_append_right_inj crlf).mp hpj)
      · have h1 : bs.drop (i + 1) = 0x0a :: bs.drop (i + 2) := by
          rw [← List.drop_drop, hsplit]; rfl
        rw [h1] at hc
        simp [crlf, List.cons_prefix_cons] at hc
    rw [blankLineEnd, blankLineEnd, if_neg hp, if_neg hq, firstOcc_of_none_before hnone]
    simp only [Option.map_map]
    congr 1

/-- Past the first CRLF, the bytes left end in CRLF (or are empty) exactly when all do. -/
theorem crlf_suffix_step {bs : List UInt8} {i : Nat} (hat : crlf <+: bs.drop i) :
    (bs.drop (i + 2) = [] ∨ crlf <:+ bs.drop (i + 2)) ↔ crlf <:+ bs := by
  have hsplit : bs.drop i = crlf ++ bs.drop (i + 2) := by
    rw [← List.take_append_drop 2 (bs.drop i), List.drop_drop, List.prefix_iff_eq_take.mp hat]
    rfl
  have hsuf : bs.drop i <:+ bs := List.drop_suffix i bs
  constructor
  · rintro (h | h)
    · rw [h, List.append_nil] at hsplit
      exact hsplit ▸ hsuf
    · exact h.trans (List.drop_suffix _ _)
  · intro h
    match hr : bs.drop (i + 2) with
    | [] => exact Or.inl rfl
    | [x] =>
      rw [hr] at hsplit
      have := List.suffix_of_suffix_length_le h hsuf (by rw [hsplit]; simp [crlf])
      rw [hsplit] at this
      simp [crlf, List.suffix_cons_iff] at this
    | x :: y :: t =>
      exact Or.inr (List.suffix_of_suffix_length_le h (hr ▸ List.drop_suffix _ _)
        (by simp [crlf]))

/-- **The loop of `http_headers::parse`**: it stops at the end of the first blank line; when
there is none, at the end of the bytes if they end in CRLF or are empty, and null otherwise. -/
theorem parseLoop_view (c : Bool) (o : Nat) (bs : List UInt8) :
    parseLoop c (.view o bs) =
      match blankLineEnd bs with
      | some k => (true, .view (o + k) (bs.drop k))
      | none => (c, if bs = [] ∨ crlf <:+ bs then .view (o + bs.length) [] else .null) := by
  induction' hn : bs.length using Nat.strong_induction_on with n ih generalizing o bs
  subst hn
  rw [parseLoop]
  by_cases h0 : bs = []
  · subst h0; simp [blankLineEnd_nil]
  rw [if_pos (show 0 < (view o bs).length from List.length_pos.mpr h0)]
  by_cases hp : crlf <+: bs
  · rw [show blankLineEnd bs = some 2 by simp [blankLineEnd, hp]]
    split
    · rename_i heq
      rw [parserMatch_view_match hp] at heq
      simp only [Prod.mk.injEq] at heq
      rw [← heq.2]; rfl
    · rename_i heq
      rw [parserMatch_view_match hp] at heq
      simp at heq
  · split
    · rename_i heq
      rw [parserMatch_view_mismatch hp] at heq
      simp at heq
    · rename_i p₁ heq
      rw [parserMatch_view_mismatch hp] at heq
      obtain rfl : p₁ = .view o bs := (Prod.mk.injEq _ _ _ _ ▸ heq).2.symm
      cases hi : firstOcc crlf bs with
      | none =>
        rw [blankLineEnd_of_none hi]
        split
        · rename_i heq'
          rw [parserSkipUptoDelim_view_of_none hi] at heq'
          simp only [Prod.mk.injEq] at heq'
          rw [← heq'.2, if_neg]
          rintro (h | ⟨t, ht⟩)
          · exact h0 h
          · refine firstOcc_eq_none_iff.mp hi t.length ?_
            simp only [← ht, List.drop_left, List.prefix_refl]
        · rename_i heq'
          rw [parserSkipUptoDelim_view_of_none hi] at heq'
          simp at heq'
      | some i =>
        have hat := (firstOcc_eq_some_iff.mp hi).1
        have hlen : i + 2 ≤ bs.length := by
          have := hat.length_le
          simp only [length_crlf, List.length_drop] at this
          omega
        split
        · rename_i heq'
          rw [parserSkipUptoDelim_view_of_some hi] at heq'
          simp at heq'
        · rename_i p₂ heq'
          rw [parserSkipUptoDelim_view_of_some hi] at heq'
          obtain rfl : p₂ = _ := (Prod.mk.injEq _ _ _ _ ▸ heq').2.symm
          rw [length_crlf, ih _ (by simp; omega) _ _ rfl, blankLineEnd_step hp hi]
          have hsuf := crlf_suffix_step hat
          cases blankLineEnd (bs.drop (i + 2)) with
          | some k =>
            simp only [Option.map_some', List.drop_drop, Nat.add_assoc]
          | none =>
            simp only [Option.map_none', List.length_drop]
            rw [if_congr (hsuf.trans (or_iff_right h0).symm) rfl rfl]
            split <;> simp only [Prod.mk.injEq, true_and, Datum.view.injEq, and_true]
            omega

theorem blankLineEnd_isSome_iff {bs : List UInt8} :
    (blankLineEnd bs).isSome ↔ crlf <+: bs ∨ ∃ j, crlf ++ crlf <+: bs.drop j := by
  by_cases hp : crlf <+: bs
  · simp [blankLineEnd, hp]
  · simp only [blankLineEnd, hp, if_false, Option.isSome_map, false_or]
    rw [← not_iff_not, Option.not_isSome_iff_eq_none, Option.map_eq_none', firstOcc_eq_none_iff,
      not_exists]

/-- **`http_headers::parse` on a fresh object.**  It is complete exactly when the bytes open
with CRLF or contain CRLF CRLF, and then the block and the cursor end after the first blank
line.  Otherwise the block starts at the cursor and ends at the end of the bytes when they
are empty or end in CRLF; in every other case the cursor is nulled and so is the block's end. -/
theorem http_headers_parse (o : Nat) (bs : List UInt8) :
    ((HttpHeaders.init.parse (.view o bs)).1.complete = true ↔
      crlf <+: bs ∨ ∃ j, crlf ++ crlf <+: bs.drop j) ∧
    (∀ k, blankLineEnd bs = some k →
      HttpHeaders.init.parse (.view o bs) =
        (⟨some o, some (o + k), true⟩, .view (o + k) (bs.drop k))) ∧
    (blankLineEnd bs = none →
      HttpHeaders.init.parse (.view o bs) =
        if bs = [] ∨ crlf <:+ bs then
          (⟨some o, some (o + bs.length), false⟩, .view (o + bs.length) [])
        else (⟨some o, none, false⟩, .null)) := by
  have hrun := parseLoop_view false o bs
  refine ⟨?_, fun k hk => ?_, fun hk => ?_⟩
  · rw [← blankLineEnd_isSome_iff]
    cases hb : blankLineEnd bs <;> simp [HttpHeaders.parse, HttpHeaders.init, hrun, hb]
  · simp [HttpHeaders.parse, HttpHeaders.init, hrun, hk]
  · simp only [HttpHeaders.parse, HttpHeaders.init, hrun, hk]
    split <;> rfl

/-- One byte with no line end: the loop nulls the cursor, and the block's end with it. -/
theorem http_headers_parse_unterminated :
    HttpHeaders.init.parse (.view 0 [0x61]) = (⟨some 0, none, false⟩, .null) ∧
    ¬∃ j ≤ 1, (HttpHeaders.init.parse (.view 0 [0x61])).1.dataEnd = some j := by
  have hrun := parseLoop_view false 0 [0x61]
  have hb : blankLineEnd [0x61] = none := by decide
  have hs : ¬([0x61] = ([] : List UInt8) ∨ crlf <:+ [0x61]) := by decide
  simp only [hb, if_neg hs] at hrun
  simp [HttpHeaders.parse, HttpHeaders.init, hrun]

/-! ### A reused object -/

/-- The loop only ever sets the flag it is given: its cursor does not depend on the flag, and
the flag it returns is the one it was given or'ed with whether it found a blank line. -/
theorem parseLoop_eq_or (c : Bool) (p : Datum) :
    parseLoop c p = (c || (parseLoop false p).1, (parseLoop false p).2) := by
  cases p with
  | null => simp [parseLoop]
  | view o bs =>
    rw [parseLoop_view, parseLoop_view]
    cases blankLineEnd bs <;> simp

/-- **`http_headers::parse` on a reused object.**  The block is set anew from the cursor, as on
a fresh object, but `complete` is never cleared: once a parse has found a blank line, every
later parse into the same object reports a complete block. -/
theorem parse_keeps_complete (h : HttpHeaders) (p : Datum) :
    h.parse p =
      ({ (HttpHeaders.init.parse p).1 with
          complete := h.complete || (HttpHeaders.init.parse p).1.complete },
        (HttpHeaders.init.parse p).2) := by
  simp only [HttpHeaders.parse, HttpHeaders.init]
  rw [parseLoop_eq_or h.complete p]

/-- A completed object fed one byte with no line end still reports a complete block. -/
example : (({ HttpHeaders.init with complete := true }).parse (.view 0 [0x61])).1.complete =
    true := by
  simp only [HttpHeaders.parse, parseLoop_eq_or true, Bool.true_or]

end Mercury.Http
