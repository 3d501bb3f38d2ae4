/-
`write_json` of the MySQL server greeting, and the name tables it reads.

A valid record is written as the object `mysql_server`: the version string, the packet number
with metadata, the salt, the three 16-bit fields (each as a value and, with metadata, the names
of its set bits), the collation's name, the plugin length and name when there is a plugin, and
the MariaDB flag with its extended capabilities.  An invalid record writes nothing.

Each access `write_json` makes to memory it does not own is a `Fault`: a table indexed outside
its bounds, a `size_t` subtraction that wraps, a copy past the 32 bytes of the salt buffer.
The table of collations has 272 names and is indexed by the collation byte less one, so a
collation byte of 0 reads before its start.  The server-status table has 15 names for 16 bits.

`write_json_faults`: parsing any buffer and writing the record faults exactly at those two
lookups.  `greeting_write_json`: on a greeting of `L` that reaches neither, the members printed
are the grammar's fields, the version with its NUL.

Not modelled: the JSON encoding itself (escaping, hex rendering); the writes are recorded as
typed key-value pairs.
-/
import Mercury.JsonObject
import Mercury.Mysql.Language

namespace Mercury.Mysql

open Datum

/-! ### The tables of `mysql_consts` -/

/-- `options`: the capability flags, by bit. -/
def options : List String :=
  ["LONG_PASSWORD", "FOUND_ROWS", "LONG_FLAG", "CONNECT_WITH_DB", "NO_SCHEMA", "COMPRESS",
   "ODBC", "LOCAL_FILES", "IGNORE_SPACE", "PROTOCOL_41", "INTERACTIVE", "SSL", "IGNORE_SIGPIPE",
   "TRANSACTIONS", "RESERVED", "SECURE_CONNECTION"]

/-- `extended_options`: the extended capability flags, by bit. -/
def extendedOptions : List String :=
  ["MULTI_STATEMENTS", "MULTI_RESULTS", "PS_MULTI_RESULTS", "PLUGIN_AUTH", "CONNECT_ATTRS",
   "PLUGIN_AUTH_LENENC_CLIENT_DATA", "CAN_HANDLE_EXPIRED_PASSWORD", "SESSION_TRACK",
   "DEPRECATE_EOF", "OPTIONAL_RESULTSET_METADATA", "ZSTD_COMPRESSION_ALGORITHM",
   "QUERY_ATTRIBUTES", "MULTI_FACTOR_AUTHENTICATION", "CAPABILITY_EXTENSION",
   "SSL_VERIFY_SERVER_CERT", "REMEMBER_OPTIONS"]

/-- `mysql_collations`: the collation names, by id less one. -/
def mysqlCollations : List String :=
  ["big5_chinese_ci", "latin2_czech_cs", "dec8_swedish_ci", "cp850_general_ci",
   "latin1_german1_ci", "hp8_english_ci", "koi8r_general_ci", "latin1_swedish_ci",
   "latin2_general_ci", "swe7_swedish_ci", "ascii_general_ci", "ujis_japanese_ci",
   "sjis_japanese_ci", "cp1251_bulgarian_ci", "latin1_danish_ci", "hebrew_general_ci",
   "tis620_thai_ci", "euckr_korean_ci", "latin7_estonian_cs", "latin2_hungarian_ci",
   "koi8u_general_ci", "cp1251_ukrainian_ci", "gb2312_chinese_ci", "greek_general_ci",
   "cp1250_general_ci", "latin2_croatian_ci", "gbk_chinese_ci", "cp1257_lithuanian_ci",
   "latin5_turkish_ci", "latin1_german2_ci", "armscii8_general_ci", "utf8_general_ci",
   "cp1250_czech_cs", "ucs2_general_ci", "cp866_general_ci", "keybcs2_general_ci",
   "macce_general_ci", "macroman_general_ci", "cp852_general_ci", "latin7_general_ci",
   "latin7_general_cs", "macce_bin", "cp1250_croatian_ci", "utf8mb4_general_ci", "utf8mb4_bin",
   "latin1_bin", "latin1_general_ci", "latin1_general_cs", "cp1251_bin", "cp1251_general_ci",
   "cp1251_general_cs", "macroman_bin", "utf16_general_ci", "utf16_bin", "utf16le_general_ci",
   "cp1256_general_ci", "cp1257_bin", "cp1257_general_ci", "utf32_general_ci", "utf32_bin",
   "utf16le_bin", "binary", "armscii8_bin", "ascii_bin", "cp1250_bin", "cp1256_bin",
   "cp866_bin", "dec8_bin", "greek_bin", "hebrew_bin", "hp8_bin", "keybcs2_bin", "koi8r_bin",
   "koi8u_bin", "utf8_tolower_ci", "latin2_bin", "latin5_bin", "latin7_bin", "cp850_bin",
   "cp852_bin", "swe7_bin", "utf8_bin", "big5_bin", "euckr_bin", "gb2312_bin", "gbk_bin",
   "sjis_bin", "tis620_bin", "ucs2_bin", "ujis_bin", "geostd8_general_ci", "geostd8_bin",
   "latin1_spanish_ci", "cp932_japanese_ci", "cp932_bin", "eucjpms_japanese_ci", "eucjpms_bin",
   "cp1250_polish_ci", "utf16_unicode_ci", "utf16_icelandic_ci", "utf16_latvian_ci",
   "utf16_romanian_ci", "utf16_slovenian_ci", "utf16_polish_ci", "utf16_estonian_ci",
   "utf16_spanish_ci", "utf16_swedish_ci", "utf16_turkish_ci", "utf16_czech_ci",
   "utf16_danish_ci", "utf16_lithuanian_ci", "utf16_slovak_ci", "utf16_spanish2_ci",
   "utf16_roman_ci", "utf16_persian_ci", "utf16_esperanto_ci", "utf16_hungarian_ci",
   "utf16_sinhala_ci", "utf16_german2_ci", "utf16_croatian_ci", "utf16_unicode_520_ci",
   "utf16_vietnamese_ci", "ucs2_unicode_ci", "ucs2_icelandic_ci", "ucs2_latvian_ci",
   "ucs2_romanian_ci", "ucs2_slovenian_ci", "ucs2_polish_ci", "ucs2_estonian_ci",
   "ucs2_spanish_ci", "ucs2_swedish_ci", "ucs2_turkish_ci", "ucs2_czech_ci", "ucs2_danish_ci",
   "ucs2_lithuanian_ci", "ucs2_slovak_ci", "ucs2_spanish2_ci", "ucs2_roman_ci",
   "ucs2_persian_ci", "ucs2_esperanto_ci", "ucs2_hungarian_ci", "ucs2_sinhala_ci",
   "ucs2_german2_ci", "ucs2_croatian_ci", "ucs2_unicode_520_ci", "ucs2_vietnamese_ci",
   "ucs2_general_mysql500_ci", "utf32_unicode_ci", "utf32_icelandic_ci", "utf32_latvian_ci",
   "utf32_romanian_ci", "utf32_slovenian_ci", "utf32_polish_ci", "utf32_estonian_ci",
   "utf32_spanish_ci", "utf32_swedish_ci", "utf32_turkish_ci", "utf32_czech_ci",
   "utf32_danish_ci", "utf32_lithuanian_ci", "utf32_slovak_ci", "utf32_spanish2_ci",
   "utf32_roman_ci", "utf32_persian_ci", "utf32_esperanto_ci", "utf32_hungarian_ci",
   "utf32_sinhala_ci", "utf32_german2_ci", "utf32_croatian_ci", "utf32_unicode_520_ci",
   "utf32_vietnamese_ci", "utf8_unicode_ci", "utf8_icelandic_ci", "utf8_latvian_ci",
   "utf8_romanian_ci", "utf8_slovenian_ci", "utf8_polish_ci", "utf8_estonian_ci",
   "utf8_spanish_ci", "utf8_swedish_ci", "utf8_turkish_ci", "utf8_czech_ci", "utf8_danish_ci",
   "utf8_lithuanian_ci", "utf8_slovak_ci", "utf8_spanish2_ci", "utf8_roman_ci",
   "utf8_persian_ci", "utf8_esperanto_ci", "utf8_hungarian_ci", "utf8_sinhala_ci",
   "utf8_german2_ci", "utf8_croatian_ci", "utf8_unicode_520_ci", "utf8_vietnamese_ci",
   "utf8_general_mysql500_ci", "utf8mb4_unicode_ci", "utf8mb4_icelandic_ci",
   "utf8mb4_latvian_ci", "utf8mb4_romanian_ci", "utf8mb4_slovenian_ci", "utf8mb4_polish_ci",
   "utf8mb4_estonian_ci", "utf8mb4_spanish_ci", "utf8mb4_swedish_ci", "utf8mb4_turkish_ci",
   "utf8mb4_czech_ci", "utf8mb4_danish_ci", "utf8mb4_lithuanian_ci", "utf8mb4_slovak_ci",
   "utf8mb4_spanish2_ci", "utf8mb4_roman_ci", "utf8mb4_persian_ci", "utf8mb4_esperanto_ci",
   "utf8mb4_hungarian_ci", "utf8mb4_sinhala_ci", "utf8mb4_german2_ci", "utf8mb4_croatian_ci",
   "utf8mb4_unicode_520_ci", "utf8mb4_vietnamese_ci", "gb18030_chinese_ci", "gb18030_bin",
   "gb18030_unicode_520_ci", "utf8mb4_0900_ai_ci", "utf8mb4_de_pb_0900_ai_ci",
   "utf8mb4_is_0900_ai_ci", "utf8mb4_lv_0900_ai_ci", "utf8mb4_ro_0900_ai_ci",
   "utf8mb4_sl_0900_ai_ci", "utf8mb4_pl_0900_ai_ci", "utf8mb4_et_0900_ai_ci",
   "utf8mb4_es_0900_ai_ci", "utf8mb4_sv_0900_ai_ci", "utf8mb4_tr_0900_ai_ci",
   "utf8mb4_cs_0900_ai_ci", "utf8mb4_da_0900_ai_ci", "utf8mb4_lt_0900_ai_ci",
   "utf8mb4_sk_0900_ai_ci", "utf8mb4_es_trad_0900_ai_ci", "utf8mb4_la_0900_ai_ci",
   "utf8mb4_eo_0900_ai_ci", "utf8mb4_hu_0900_ai_ci", "utf8mb4_hr_0900_ai_ci",
   "utf8mb4_vi_0900_ai_ci", "utf8mb4_0900_as_cs", "utf8mb4_de_pb_0900_as_cs",
   "utf8mb4_is_0900_as_cs", "utf8mb4_lv_0900_as_cs", "utf8mb4_ro_0900_as_cs",
   "utf8mb4_sl_0900_as_cs", "utf8mb4_pl_0900_as_cs", "utf8mb4_et_0900_as_cs",
   "utf8mb4_es_0900_as_cs", "utf8mb4_sv_0900_as_cs", "utf8mb4_tr_0900_as_cs",
   "utf8mb4_cs_0900_as_cs", "utf8mb4_da_0900_as_cs", "utf8mb4_lt_0900_as_cs",
   "utf8mb4_sk_0900_as_cs", "utf8mb4_es_trad_0900_as_cs", "utf8mb4_la_0900_as_cs",
   "utf8mb4_eo_0900_as_cs", "utf8mb4_hu_0900_as_cs", "utf8mb4_hr_0900_as_cs",
   "utf8mb4_vi_0900_as_cs", "utf8mb4_ja_0900_as_cs", "utf8mb4_ja_0900_as_cs_ks",
   "utf8mb4_0900_as_ci", "utf8mb4_ru_0900_ai_ci", "utf8mb4_ru_0900_as_cs",
   "utf8mb4_zh_0900_as_cs", "utf8mb4_0900_bin"]

/-- `server_status_str`: the status flags, by bit. -/
def serverStatusStr : List String :=
  ["STATUS_IN_TRANS", "STATUS_AUTOCOMMIT", "MORE_RESULTS_EXISTS", "QUERY_NO_GOOD_INDEX_USED",
   "QUERY_NO_INDEX_USED", "STATUS_CURSOR_EXISTS", "STATUS_LAST_ROW_SENT", "STATUS_DB_DROPPED",
   "STATUS_NO_BACKSLASH_ESCAPES", "STATUS_METADATA_CHANGED", "QUERY_WAS_SLOW", "PS_OUT_PARAMS",
   "STATUS_IN_TRANS_READONLY", "SESSION_STATE_CHANGED", "RESERVED"]

theorem length_options : options.length = 16 := rfl
theorem length_extendedOptions : extendedOptions.length = 16 := rfl
set_option maxRecDepth 2000 in
theorem length_mysqlCollations : mysqlCollations.length = 272 := rfl
theorem length_serverStatusStr : serverStatusStr.length = 15 := rfl

/-- `table[i]` for the static table `names`. -/
def tableAt (table : String) (names : List String) (i : Int) : Except Fault String :=
  if h : 0 ≤ i ∧ i.toNat < names.length then .ok names[i.toNat] else .error (.index table i)

/-- The loop `for (i = 0; i < 16; i++) if (val & (1UL << i)) print_string(names[i])`. -/
def setBitNames (table : String) (names : List String) (val : Nat) :
    Except Fault (List String) :=
  ((List.range 16).filter (val.testBit ·)).mapM fun i : Nat => tableAt table names i

/-- What the three bit-field writers share: the entry `value`, then with metadata the array
`key` of the names of the set bits. -/
def bitFieldJson (value : String × JsonValue) (key table : String) (names : List String)
    (val : Nat) (outputMetadata : Bool) : Except Fault (List (String × JsonValue)) :=
  if outputMetadata then (setBitNames table names val).map fun strs => [value, (key, .array strs)]
  else .ok [value]

/-- `capabilities::write_json`: the two bytes of `val` as hex in memory order, which on the
little-endian hosts the code runs on is the low byte first. -/
def Capabilities.writeJson (val : Nat) (outputMetadata : Bool) :
    Except Fault (List (String × JsonValue)) :=
  bitFieldJson ("capabilities_value", .hex [UInt8.ofNat val, UInt8.ofNat (val >>> 8)])
    "capabilities_str" "options" options val outputMetadata

/-- `extended_capabilities::write_json`. -/
def ExtendedCapabilities.writeJson (extVal : Nat) (outputMetadata : Bool) :
    Except Fault (List (String × JsonValue)) :=
  bitFieldJson ("extended_capabilities_value", .uint16Hex extVal) "ext_capabilities_str"
    "extended_options" extendedOptions extVal outputMetadata

/-- `server_status::write_json`. -/
def ServerStatus.writeJson (status : Nat) (outputMetadata : Bool) :
    Except Fault (List (String × JsonValue)) :=
  bitFieldJson ("server_status_value", .uint16Hex status) "server_status_str"
    "server_status_str" serverStatusStr status outputMetadata

/-! ### The salt and the record -/

/-- `length() - n` as `size_t`, a fault where it would wrap. -/
def sizeSub (length n : Nat) : Except Fault Nat :=
  if n ≤ length then .ok (length - n) else .error (.sizeWrap length n)

/-- Modelled from the spec: `data_buffer<N>::copy` (declared outside the sources) appends to
a buffer of fixed capacity; a copy that does not fit is a fault here. -/
def dataBufferCopy (capacity : Nat) (contents src : List UInt8) : Except Fault (List UInt8) :=
  if contents.length + src.length ≤ capacity then .ok (contents ++ src)
  else .error (.overflow capacity (contents.length + src.length))

/-- The salt `write_json` prints: `salt_1` trimmed of its NUL before version 4.1, otherwise
both salts, each less its last byte, copied into a `data_buffer<32>`. -/
def MysqlServerGreet.salt (g : MysqlServerGreet) : Except Fault (List UInt8) :=
  if !g.partialSalt then .ok (g.salt1.trim 1).bytes
  else do
    let n₁ ← sizeSub g.salt1.length 1
    let buf ← dataBufferCopy 32 [] (g.salt1.bytes.take n₁)
    let n₂ ← sizeSub g.salt2.length 1
    dataBufferCopy 32 buf (g.salt2.bytes.take n₂)

/-- `write_json(record, output_metadata)`: the members of the object `mysql_server`, or
nothing for an invalid record. -/
def MysqlServerGreet.writeJson (g : MysqlServerGreet) (outputMetadata : Bool) :
    Except Fault (Option (List (String × JsonValue))) :=
  if !g.valid then .ok none else do
  let salt ← g.salt
  let cap ← Capabilities.writeJson g.cap outputMetadata
  let collation ← tableAt "mysql_collations" mysqlCollations ((g.collation : Int) - 1)
  let status ← ServerStatus.writeJson g.srvStatus outputMetadata
  let ext ← ExtendedCapabilities.writeJson g.extCap outputMetadata
  pure (some (
    [("version", .jsonString g.version.bytes)] ++
    (if outputMetadata then [("pkt_num", .int g.pktNum)] else []) ++
    [("salt", .jsonString salt)] ++ cap ++ [("collation", .string collation)] ++ status ++ ext ++
    (if g.authPluginLen ≠ 0 then
      [("auth_plugin_len", .int g.authPluginLen), ("auth_plugin", .jsonString g.authPlugin.bytes)]
    else []) ++
    (if g.isMariadb then [("mariadb", .bool true), ("mariadb_extended", .int g.mariadbExtCap)]
    else [("mariadb", .bool false)])))

/-! ### Where `write_json` reads outside its tables

A table of 16 names serves every set bit of a 16-bit field; the 15 names of the status table
leave bit 15 without one.  The collation byte is below 256, so its index is below the 272
collations, but a collation byte of 0 indexes the name before the first.  On a valid record
with both salts the constructor has checked the second for 13 bytes, and the first has its 9,
so neither subtraction wraps and the copies fill 20 of the 32 bytes. -/

section Tables

variable {table : String} {names : List String}

theorem tableAt_of_lt {i : Nat} (h : i < names.length) :
    tableAt table names i = .ok (names.getD i "") := by
  unfold tableAt
  rw [dif_pos ⟨by omega, by simpa using h⟩]
  simp [List.getD_eq_getElem?_getD, List.getElem?_eq_getElem h]

theorem mapM_tableAt_of_lt {is : List Nat} (h : ∀ i ∈ is, i < names.length) :
    is.mapM (fun i : Nat => tableAt table names i) = .ok (is.map (names.getD · "")) := by
  induction is with
  | nil => rfl
  | cons i is ih =>
    simp only [List.mapM_cons, tableAt_of_lt (h i (List.mem_cons_self i is)),
      ih fun j hj => h j (List.mem_cons_of_mem i hj)]
    rfl

/-- A table of 16 names or more has a name for every bit. -/
theorem setBitNames_of_le (h : 16 ≤ names.length) (val : Nat) :
    setBitNames table names val
      = .ok (((List.range 16).filter (val.testBit ·)).map (names.getD · "")) :=
  mapM_tableAt_of_lt fun i hi => by
    have := List.mem_range.mp (List.mem_filter.mp hi).1
    omega

/-- A table of 15 names has none for bit 15. -/
theorem setBitNames_of_length_fifteen (h : names.length = 15) (val : Nat) :
    setBitNames table names val =
      if val.testBit 15 then .error (.index table 15)
      else .ok (((List.range 15).filter (val.testBit ·)).map (names.getD · "")) := by
  have hlow : ((List.range 15).filter (val.testBit ·)).mapM (fun i : Nat => tableAt table names i)
      = .ok (((List.range 15).filter (val.testBit ·)).map (names.getD · "")) :=
    mapM_tableAt_of_lt fun i hi => by
      have := List.mem_range.mp (List.mem_filter.mp hi).1
      omega
  have h15 : tableAt table names (15 : Nat) = .error (.index table 15) := by
    simp [tableAt, h]
  unfold setBitNames
  rw [List.range_succ, List.filter_append, List.mapM_append, hlow, ok_bind]
  cases hb : val.testBit 15
  · simp only [List.filter_cons, hb, Bool.false_eq_true, if_false, List.filter_nil, List.mapM_nil,
      pure_bind, List.append_nil]
    rfl
  · simp only [List.filter_cons, hb, if_true, List.filter_nil, List.mapM_cons, h15]
    rfl

end Tables

/-- With a table of 16 names or more, a bit field writes its value and, with metadata, the
names of its set bits. -/
theorem bitFieldJson_eq (value : String × JsonValue) (key table : String)
    {names : List String} (h : 16 ≤ names.length) (val : Nat) (outputMetadata : Bool) :
    bitFieldJson value key table names val outputMetadata =
      .ok (value :: if outputMetadata then
        [(key, .array (((List.range 16).filter (val.testBit ·)).map (names.getD · "")))]
        else []) := by
  cases outputMetadata
  · rfl
  · simp only [bitFieldJson, if_true, setBitNames_of_le h]
    rfl

theorem serverStatus_writeJson (status : Nat) (outputMetadata : Bool) (f : Fault) :
    ServerStatus.writeJson status outputMetadata = .error f ↔
      outputMetadata = true ∧ status.testBit 15 = true ∧ f = .index "server_status_str" 15 := by
  unfold ServerStatus.writeJson bitFieldJson
  cases outputMetadata
  · simp
  · rw [setBitNames_of_length_fifteen length_serverStatusStr]
    cases status.testBit 15 <;> simp [Except.map, eq_comm]

theorem serverStatus_writeJson_of_testBit {status : Nat} {outputMetadata : Bool}
    (h : outputMetadata = true → status.testBit 15 = false) :
    ServerStatus.writeJson status outputMetadata =
      .ok (("server_status_value", .uint16Hex status) :: if outputMetadata then
        [("server_status_str",
          .array (((List.range 15).filter (status.testBit ·)).map (serverStatusStr.getD · "")))]
        else []) := by
  cases outputMetadata
  · rfl
  · simp only [ServerStatus.writeJson, bitFieldJson, if_true,
      setBitNames_of_length_fifteen length_serverStatusStr, h rfl]
    rfl

theorem tableAt_collation_of_pos {c : Nat} (hc : c < 256) (hpos : 0 < c) :
    tableAt "mysql_collations" mysqlCollations ((c : Int) - 1)
      = .ok (mysqlCollations.getD (c - 1) "") := by
  rw [show ((c : Int) - 1) = ((c - 1 : Nat) : Int) by omega]
  exact tableAt_of_lt (by rw [length_mysqlCollations]; omega)

theorem salt_of_not_partialSalt {g : MysqlServerGreet} (h : g.partialSalt = false) :
    g.salt = .ok (g.salt1.bytes.take (g.salt1.length - 1)) := by
  simp [MysqlServerGreet.salt, h, bytes_trim]

theorem salt_of_partialSalt {g : MysqlServerGreet} (h : g.partialSalt = true)
    (h1 : g.salt1.length = 9) (h2 : g.salt2.length = 13) :
    g.salt = .ok (g.salt1.bytes.take 8 ++ g.salt2.bytes.take 12) := by
  have h8 := List.length_take_le 8 g.salt1.bytes
  have h12 := List.length_take_le 12 g.salt2.bytes
  simp only [MysqlServerGreet.salt, h, Bool.not_true, Bool.false_eq_true, if_false, sizeSub, h1,
    h2, Nat.reduceLeDiff, if_true, Nat.reduceSub, ok_bind, dataBufferCopy, List.length_nil,
    Nat.zero_add, List.nil_append]
  rw [if_pos (by omega), ok_bind, if_pos (by omega)]

/-- What `write_json` does on a record whose salt it can assemble and whose collation is one
byte: it faults exactly on a collation byte of 0, and with metadata on status bit 15. -/
theorem writeJson_eq_error (g : MysqlServerGreet) (outputMetadata : Bool) (f : Fault)
    (hs : g.valid = true → ∃ s, g.salt = .ok s) (hc : g.collation < 256) :
    g.writeJson outputMetadata = .error f ↔
      g.valid = true ∧
        (g.collation = 0 ∧ f = .index "mysql_collations" (-1) ∨
          g.collation ≠ 0 ∧ outputMetadata = true ∧ g.srvStatus.testBit 15 = true ∧
            f = .index "server_status_str" 15) := by
  unfold MysqlServerGreet.writeJson
  cases hv : g.valid
  · simp
  obtain ⟨s, hs⟩ := hs hv
  simp only [Bool.not_true, Bool.false_eq_true, if_false, hs, ok_bind, Capabilities.writeJson,
    ExtendedCapabilities.writeJson, bitFieldJson_eq _ _ _ length_options.ge,
    bitFieldJson_eq _ _ _ length_extendedOptions.ge, true_and]
  rcases Nat.eq_zero_or_pos g.collation with h0 | hpos
  · have hcol : tableAt "mysql_collations" mysqlCollations ((g.collation : Int) - 1)
        = .error (.index "mysql_collations" (-1)) := by rw [h0]; rfl
    rw [hcol, error_bind, Except.error.injEq]
    constructor
    · rintro rfl
      exact .inl ⟨h0, rfl⟩
    · rintro (⟨-, rfl⟩ | ⟨h, -⟩)
      · rfl
      · exact absurd h0 h
  · rw [tableAt_collation_of_pos hc hpos, ok_bind]
    cases hst : ServerStatus.writeJson g.srvStatus outputMetadata with
    | error e =>
      obtain ⟨hm, hb, rfl⟩ := (serverStatus_writeJson _ _ e).mp hst
      rw [error_bind, Except.error.injEq]
      constructor
      · rintro rfl
        exact .inr ⟨Nat.pos_iff_ne_zero.mp hpos, hm, hb, rfl⟩
      · rintro (⟨h, -⟩ | ⟨-, -, -, rfl⟩)
        · omega
        · rfl
    | ok l =>
      have hnot : ¬ (outputMetadata = true ∧ g.srvStatus.testBit 15 = true) := fun ⟨hm, hb⟩ => by
        have := (serverStatus_writeJson g.srvStatus outputMetadata _).mpr ⟨hm, hb, rfl⟩
        rw [hst] at this
        cases this
      rw [ok_bind]
      constructor
      · intro h
        cases h
      · rintro (⟨h0, -⟩ | ⟨-, hm, hb, -⟩)
        · omega
        · exact absurd ⟨hm, hb⟩ hnot

/-- Every valid record the constructor builds has a salt `write_json` can assemble. -/
theorem greet_salt_ok (buf : List UInt8) (hv : (greet buf).1.valid = true) :
    ∃ s, (greet buf).1.salt = .ok s := by
  cases hp : (greet buf).1.partialSalt
  · exact ⟨_, salt_of_not_partialSalt hp⟩
  · obtain ⟨h1, h2⟩ := greet_salts buf hv hp
    exact ⟨_, salt_of_partialSalt hp h1 h2⟩

/-- **Parsing a greeting and writing it faults only at two table lookups**: the constructor
reads nothing outside the packet, the salt is assembled without a wrap or an overflow, and
`write_json` of a valid record faults exactly on a collation byte of 0 and, with metadata, on
status bit 15. -/
theorem write_json_faults (buf : List UInt8) (outputMetadata : Bool) (f : Fault) :
    (mysqlServerGreet buf >>= fun r => r.1.writeJson outputMetadata) = .error f ↔
      (greet buf).1.valid = true ∧
        ((greet buf).1.collation = 0 ∧ f = .index "mysql_collations" (-1) ∨
          (greet buf).1.collation ≠ 0 ∧ outputMetadata = true ∧
            (greet buf).1.srvStatus.testBit 15 = true ∧ f = .index "server_status_str" 15) := by
  rw [mysqlServerGreet_eq_ok, ok_bind]
  exact writeJson_eq_error _ _ _ (greet_salt_ok buf) (greet_collation_lt buf)

/-- A pre-4.1 greeting cut inside `salt_1` is accepted with `salt_1` null; `trim(1)` meets a
view of length 0 and the salt printed is empty. -/
example :
    accepts [0x12, 0, 0, 0, 10, 0x33, 0x2e, 0x32, 0x2e, 0x31, 0, 1, 0, 0, 0, 1, 1, 1] = true ∧
      (greet [0x12, 0, 0, 0, 10, 0x33, 0x2e, 0x32, 0x2e, 0x31, 0, 1, 0, 0, 0, 1, 1, 1]).1.salt1
        = .null ∧
      (greet [0x12, 0, 0, 0, 10, 0x33, 0x2e, 0x32, 0x2e, 0x31, 0, 1, 0, 0, 0, 1, 1, 1]).1.salt
        = .ok [] :=
  ⟨by decide, rfl, rfl⟩

set_option maxRecDepth 4000 in
theorem write_json_reads_outside_tables :
    (∀ outputMetadata : Bool,
      (mysqlServerGreet { mysql57 with k := 0 }.bytes >>= fun r => r.1.writeJson outputMetadata)
        = .error (.index "mysql_collations" (-1))) ∧
    (mysqlServerGreet { mysql57 with st := [0, 0x80], st_length := rfl }.bytes >>= fun r =>
        r.1.writeJson true) = .error (.index "server_status_str" 15) :=
  ⟨fun outputMetadata => by cases outputMetadata <;> rfl, rfl⟩

/-- The salt `write_json` assembles for a greeting of `L`. -/
theorem salt_of_greeting (g : Greeting) :
    (greet g.bytes).1.salt = .ok (g.s1.take 8 ++ if lessThan41 g.v then [] else g.S.take 12) := by
  have hd := greet_decodes g
  have h1 : (greet g.bytes).1.salt1.length = 9 := by rw [Datum.length, hd.salt1, g.s1_length]
  cases hl : lessThan41 g.v
  · obtain ⟨hS, -⟩ : g.S.length = 13 ∧ g.S.getD 12 0 = 0 := by simpa [hl] using g.S_shape
    have hp : (greet g.bytes).1.partialSalt = true := by rw [hd.partialSalt, hl]; rfl
    have h2 : (greet g.bytes).1.salt2.length = 13 := by
      rw [Datum.length, hd.salt2, hl, if_neg Bool.false_ne_true, hS]
    rw [salt_of_partialSalt hp h1 h2, hd.salt1, hd.salt2, hl]
    rfl
  · have hp : (greet g.bytes).1.partialSalt = false := by rw [hd.partialSalt, hl]; rfl
    rw [salt_of_not_partialSalt hp, h1, hd.salt1]
    simp

/-- **On a greeting of `L` the constructor decodes every field, and `write_json` prints as the
salt the first salt less its NUL, then from version 4.1 on the second less its NUL.** -/
theorem greeting_decodes_with_salt (g : Greeting) :
    Decodes g (greet g.bytes).1 ∧
      (greet g.bytes).1.salt = .ok (g.s1.take 8 ++ if lessThan41 g.v then [] else g.S.take 12) :=
  ⟨greet_decodes g, salt_of_greeting g⟩

/-! ### What `write_json` prints for a greeting of `L`

Parsing a greeting and writing the record prints each field of the grammar: the version with
the NUL that ends it (the view `version` spans the terminator), the two salts less their NULs,
the capability bytes in the order they came off the wire, and the names of the set bits read
from the tables. -/

/-- Two bytes read little-endian and written back low byte first are the bytes read. -/
theorem ofNat_leValue_two {c : List UInt8} (h : c.length = 2) :
    [UInt8.ofNat (leValue c), UInt8.ofNat (leValue c >>> 8)] = c := by
  match c, h with
  | [c₀, c₁], _ =>
    have h₀ : c₀.toNat < 256 := c₀.toNat_lt_size
    have h₁ : c₁.toNat < 256 := c₁.toNat_lt_size
    simp only [leValue, List.cons.injEq, and_true, Nat.shiftRight_eq_div_pow]
    constructor <;> apply UInt8.toNat.inj <;> simp [UInt8.ofNat, UInt8.toNat, Fin.ofNat] <;> omega

/-- **Parsing a greeting of `L` and writing it prints every field of the grammar**, when its
collation byte names a collation and, with metadata, status bit 15 is clear. -/
theorem greeting_write_json (g : Greeting) (outputMetadata : Bool) (hk : g.k ≠ 0)
    (hst : outputMetadata = true → (leValue g.st).testBit 15 = false) :
    (mysqlServerGreet g.bytes >>= fun r => r.1.writeJson outputMetadata) = .ok (some (
      [("version", .jsonString (g.v ++ [0]))] ++
      (if outputMetadata then [("pkt_num", .int g.q.toNat)] else []) ++
      [("salt", .jsonString (g.s1.take 8 ++ if lessThan41 g.v then [] else g.S.take 12)),
        ("capabilities_value", .hex g.c)] ++
      (if outputMetadata then [("capabilities_str",
        .array (((List.range 16).filter ((leValue g.c).testBit ·)).map (options.getD · "")))]
        else []) ++
      [("collation", .string (mysqlCollations.getD (g.k.toNat - 1) "")),
        ("server_status_value", .uint16Hex (leValue g.st))] ++
      (if outputMetadata then [("server_status_str",
        .array (((List.range 15).filter ((leValue g.st).testBit ·)).map
          (serverStatusStr.getD · "")))] else []) ++
      [("extended_capabilities_value", .uint16Hex (leValue g.e))] ++
      (if outputMetadata then [("ext_capabilities_str",
        .array (((List.range 16).filter ((leValue g.e).testBit ·)).map
          (extendedOptions.getD · "")))] else []) ++
      (if g.a.toNat ≠ 0 then [("auth_plugin_len", .int g.a.toNat), ("auth_plugin", .jsonString g.P)]
        else []) ++
      (if decide (9 < g.v.length + 1) || !(leValue g.c).testBit 0 then
        [("mariadb", .bool true), ("mariadb_extended", .int (beValue (g.z.drop 6)))]
      else [("mariadb", .bool false)]))) := by
  have hd := greet_decodes g
  have hpos : 0 < g.k.toNat := Nat.pos_of_ne_zero fun h => hk (UInt8.toNat.inj h)
  have hmar : (if (greet g.bytes).1.isMariadb then [("mariadb", JsonValue.bool true),
      ("mariadb_extended", .int (greet g.bytes).1.mariadbExtCap)] else [("mariadb", .bool false)])
      = if decide (9 < g.v.length + 1) || !(leValue g.c).testBit 0 then
        [("mariadb", .bool true), ("mariadb_extended", .int (beValue (g.z.drop 6)))]
      else [("mariadb", .bool false)] := by
    rw [← hd.isMariadb]
    split
    · rw [hd.mariadbExtCap ‹_›]
    · rfl
  rw [mysqlServerGreet_eq_ok, ok_bind]
  unfold MysqlServerGreet.writeJson Capabilities.writeJson ExtendedCapabilities.writeJson
  rw [hd.valid, salt_of_greeting, hd.cap, ofNat_leValue_two g.c_length,
    bitFieldJson_eq _ _ _ length_options.ge, hd.collation,
    tableAt_collation_of_pos g.k.toNat_lt_size hpos, hd.srvStatus,
    serverStatus_writeJson_of_testBit hst, hd.extCap,
    bitFieldJson_eq _ _ _ length_extendedOptions.ge, hd.version, hd.pktNum, hd.authPluginLen,
    hd.authPlugin, hmar]
  simp only [Bool.not_true, Bool.false_eq_true, if_false, ok_bind, List.append_assoc,
    List.cons_append, List.singleton_append, List.nil_append]
  rfl

/-- The 5.7 greeting, without metadata, where its version is printed with the NUL, and with
metadata, its status bit 15 clear. -/
theorem mysql57_write_json :
    (mysql57.k ≠ 0 ∧ (false = true → (leValue mysql57.st).testBit 15 = false) ∧
      (mysqlServerGreet mysql57.bytes >>= fun r => r.1.writeJson false) = .ok (some [
        ("version", .jsonString [0x35, 0x2e, 0x37, 0x2e, 0x30, 0]),
        ("salt", .jsonString (List.replicate 20 1)),
        ("capabilities_value", .hex [0xff, 0xf7]),
        ("collation", .string "latin1_swedish_ci"),
        ("server_status_value", .uint16Hex 2),
        ("extended_capabilities_value", .uint16Hex 0x81ff),
        ("mariadb", .bool false)])) ∧
    (mysql57.k ≠ 0 ∧ (true = true → (leValue mysql57.st).testBit 15 = false) ∧
      (mysqlServerGreet mysql57.bytes >>= fun r => r.1.writeJson true) = .ok (some (
        [("version", .jsonString (mysql57.v ++ [0]))] ++
        (if true then [("pkt_num", .int mysql57.q.toNat)] else []) ++
        [("salt", .jsonString
            (mysql57.s1.take 8 ++ if lessThan41 mysql57.v then [] else mysql57.S.take 12)),
          ("capabilities_value", .hex mysql57.c)] ++
        (if true then [("capabilities_str",
          .array (((List.range 16).filter ((leValue mysql57.c).testBit ·)).map
            (options.getD · "")))]
          else []) ++
        [("collation", .string (mysqlCollations.getD (mysql57.k.toNat - 1) "")),
          ("server_status_value", .uint16Hex (leValue mysql57.st))] ++
        (if true then [("server_status_str",
          .array (((List.range 15).filter ((leValue mysql57.st).testBit ·)).map
            (serverStatusStr.getD · "")))] else []) ++
        [("extended_capabilities_value", .uint16Hex (leValue mysql57.e))] ++
        (if true then [("ext_capabilities_str",
          .array (((List.range 16).filter ((leValue mysql57.e).testBit ·)).map
            (extendedOptions.getD · "")))] else []) ++
        (if mysql57.a.toNat ≠ 0 then
            [("auth_plugin_len", .int mysql57.a.toNat), ("auth_plugin", .jsonString mysql57.P)]
          else []) ++
        (if decide (9 < mysql57.v.length + 1) || !(leValue mysql57.c).testBit 0 then
          [("mariadb", .bool true), ("mariadb_extended", .int (beValue (mysql57.z.drop 6)))]
        else [("mariadb", .bool false)])))) :=
  ⟨⟨by decide, nofun, (greeting_write_json mysql57 false (by decide) nofun).trans rfl⟩,
   ⟨by decide, fun _ => by decide,
    greeting_write_json mysql57 true (by decide) fun _ => by decide⟩⟩

end Mercury.Mysql
