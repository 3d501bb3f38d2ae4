/-
The binding layer of `libmerc_api.h`, and `libmerc_util`, the program that drives it.

`libmerc_api::bind` opens the shared object and looks its entry points up in three tiers.
Every entry point the first tier checks must be found, or the binding fails and the
constructor throws.  The second and third tiers only raise `libmerc_version`: to 2 when the v2
entry point is found, and to 3 when the three of v3 are, each test made on its own.  A library
without the v2 entry point but with those of v3 is therefore reported as version 3
(`libmerc_api_binding`).

The first tier looks up twelve entry points and checks eleven: `get_server_name` is bound but
never tested.  `fprint_json_analysis_context` calls it on every non-null analysis context, so
`libmerc_util` binds to a library without `analysis_context_get_server_name` and then calls
through a null pointer on the first packet the library returns a context for
(`libmerc_util_calls_unbound_server_name`).

The text printer `fprint_analysis_context`, which `main` never calls, is less guarded than the
JSON one: it hands a null context to every accessor, and prints the process name with `%s`
without testing it for `NULL` (`analysis_printers_fault`).

A function pointer is modelled as the symbol it is bound to, or `none` for `nullptr`; a call
through `none` is a fault that names the member, and so is `%s` of a null string.  What the
library's entry points return is a parameter of the model, and so are the values of the
enumerators of `libmerc.h`.  A `fprintf` call is kept as its format and arguments.

The library keeps state: `main` hands `get_analysis_context` the packet processor
`packet_processor_construct` returned, with every packet, and a `ts` it never sets.  The model
threads the processor through the loop, each call returning the processor the next packet
gets, and takes the value `ts` holds at each iteration as a parameter, so the context a packet
gets may depend on the packets before it (`processPackets_eq_mapM`).  The PCAP reader,
declared outside the sources, either fails to open the file or returns packets and then the
empty datum or an exception; an exception in the `try` block ends `main` with `EXIT_FAILURE`,
after the lines already printed (`main_prints_analysed_packets`).

Not modelled: the diagnostics `bind` and the `catch` blocks write to `stderr`, and
`mercury_unbind`; the option processor, whose results `main` takes as given.
-/
import Mercury.JsonObject

namespace Mercury.Api

/-! ### Binding -/

/-- `dlsym(dl_handle, name)`: the entry point `name` when the library exports it, and
`nullptr` otherwise. -/
def dlsym (exports : List String) (name : String) : Option String :=
  if name ∈ exports then some name else none

/-- The members of `libmerc_api`, each function pointer as the symbol it is bound to. -/
structure LibmercApi where
  libmercVersion : Nat := 0
  init : Option String := none
  finalize : Option String := none
  packetProcessorConstruct : Option String := none
  packetProcessorDestruct : Option String := none
  getAnalysisContext : Option String := none
  getAnalysisContextLinktype : Option String := none
  getFingerprintType : Option String := none
  getFingerprintStatus : Option String := none
  getFingerprintString : Option String := none
  getServerName : Option String := none
  getAlpns : Option String := none
  getUserAgent : Option String := none
  getProcessInfo : Option String := none
  getMalwareInfo : Option String := none
  writeStatsData : Option String := none
  registerPrintfErr : Option String := none
  /-- whether `dl_handle` holds a library -/
  dlHandle : Bool := false
  deriving DecidableEq, Repr

/-- The lookups of the v1 API, twelve entry points. -/
def LibmercApi.bindV1 (api : LibmercApi) (exports : List String) : LibmercApi :=
  { api with
    init := dlsym exports "mercury_init"
    finalize := dlsym exports "mercury_finalize"
    packetProcessorConstruct := dlsym exports "mercury_packet_processor_construct"
    packetProcessorDestruct := dlsym exports "mercury_packet_processor_destruct"
    getAnalysisContext := dlsym exports "mercury_packet_processor_get_analysis_context"
    getFingerprintType := dlsym exports "analysis_context_get_fingerprint_type"
    getFingerprintStatus := dlsym exports "analysis_context_get_fingerprint_status"
    getFingerprintString := dlsym exports "analysis_context_get_fingerprint_string"
    getServerName := dlsym exports "analysis_context_get_server_name"
    getProcessInfo := dlsym exports "analysis_context_get_process_info"
    getMalwareInfo := dlsym exports "analysis_context_get_malware_info"
    writeStatsData := dlsym exports "mercury_write_stats_data" }

/-- The test after the v1 lookups: one of the eleven pointers it names is `nullptr`. -/
def LibmercApi.v1Missing (api : LibmercApi) : Bool :=
  api.init.isNone || api.finalize.isNone || api.packetProcessorConstruct.isNone ||
    api.packetProcessorDestruct.isNone || api.getAnalysisContext.isNone ||
    api.getFingerprintType.isNone || api.getFingerprintStatus.isNone ||
    api.getFingerprintString.isNone || api.getProcessInfo.isNone ||
    api.getMalwareInfo.isNone || api.writeStatsData.isNone

/-- The lookups of the v3 API. -/
def LibmercApi.bindV3 (api : LibmercApi) (exports : List String) : LibmercApi :=
  { api with
    getAnalysisContextLinktype :=
      dlsym exports "mercury_packet_processor_get_analysis_context_linktype"
    getAlpns := dlsym exports "analysis_context_get_alpns"
    getUserAgent := dlsym exports "analysis_context_get_user_agent" }

/-- What `bind` does once the v1 test has passed: `libmerc_version` is 1, then 2 when the v2
entry point is found, then 3 when the three of v3 are. -/
def LibmercApi.bindTiers (api : LibmercApi) (exports : List String) : LibmercApi :=
  let api := { api with libmercVersion := 1 }
  let api := { api with registerPrintfErr := dlsym exports "register_printf_err_callback" }
  let api := if api.registerPrintfErr.isNone then api else { api with libmercVersion := 2 }
  let api := api.bindV3 exports
  if api.getAnalysisContextLinktype.isNone || api.getUserAgent.isNone || api.getAlpns.isNone
  then api else { api with libmercVersion := 3 }

/-- `bind(lib_path)`, `lib` being what `dlopen` finds at `lib_path`: the names the library
exports, or `none` when it cannot be loaded.  The return value, and the members as left. -/
def LibmercApi.bind (api : LibmercApi) (lib : Option (List String)) : Int × LibmercApi :=
  match lib with
  | none => (-1, { api with dlHandle := false })
  | some exports =>
    let api := { api with dlHandle := true }.bindV1 exports
    if api.v1Missing then (-1, api) else (0, api.bindTiers exports)

/-- `libmerc_api(lib_path)`: the members after `bind`, or the `runtime_error` the constructor
throws when `bind` fails. -/
def libmercApi (lib : Option (List String)) : Except String LibmercApi :=
  let (r, api) := ({} : LibmercApi).bind lib
  if r ≠ 0 then .error "error: could not initialize libmerc_api" else .ok api

/-! ### The printer and `main` -/

/-- The values of the enumerators `libmerc_util` compares with, declared in `libmerc.h`. -/
structure Enumerators where
  fingerprintTypeUnknown : Nat
  fingerprintTypeTls : Nat
  fingerprintStatusLabeled : Nat
  fingerprintStatusUnlabled : Nat
  fingerprintStatusRandomized : Nat
  fingerprintStatusNoInfoAvailable : Nat

/-- What the library's accessors return for one analysis context. -/
structure Analysis where
  fingerprintType : Nat
  fingerprintString : Option String
  fingerprintStatus : Nat
  serverName : Option String
  /-- `get_process_info`: `none` when it returns false, else the process and the score -/
  processInfo : Option (Option String × UInt64)
  /-- `get_malware_info`: `none` when it returns false, else the verdict and the probability -/
  malwareInfo : Option (Bool × UInt64)

/-- A call through the member `member`, bound to `ptr`, that returns `result`: a fault when
the member is `nullptr`. -/
def callThrough {α : Type} (member : String) (ptr : Option String) (result : α) :
    Except String α :=
  if ptr.isSome then .ok result else .error member

/-- The name `fprint_json_analysis_context` prints for a fingerprint status. -/
def fpStatusString (e : Enumerators) (fpStatus : Nat) : String :=
  if fpStatus = e.fingerprintStatusLabeled then "labeled"
  else if fpStatus = e.fingerprintStatusUnlabled then "unlabeled"
  else if fpStatus = e.fingerprintStatusRandomized then "randomized"
  else if fpStatus = e.fingerprintStatusNoInfoAvailable then "no info available"
  else "unknown status code"

/-- `fprint_json_analysis_context(f, ctx)`: the members of the line it writes. -/
def fprintJsonAnalysisContext (merc : LibmercApi) (e : Enumerators) (ctx : Option Analysis) :
    Except String (List (String × JsonValue)) :=
  match ctx with
  | none => .ok []
  | some a => do
    let type ← callThrough "get_fingerprint_type" merc.getFingerprintType a.fingerprintType
    let typeName :=
      if type = e.fingerprintTypeTls then "tls"
      else if type = e.fingerprintTypeUnknown then "unknown" else "not tls"
    let fpString ← callThrough "get_fingerprint_string" merc.getFingerprintString
      a.fingerprintString
    let fpStatus ← callThrough "get_fingerprint_status" merc.getFingerprintStatus
      a.fingerprintStatus
    let serverName ← callThrough "get_server_name" merc.getServerName a.serverName
    let process ← callThrough "get_process_info" merc.getProcessInfo a.processInfo
    let malware ← callThrough "get_malware_info" merc.getMalwareInfo a.malwareInfo
    pure ([("fingerprint_type", .string typeName), ("fingerprint_type_code", .uint type),
      ("fingerprint_string", .string (fpString.getD "not present (null)")),
      ("fingerprint_status", .string (fpStatusString e fpStatus)),
      ("fingerprint_status_code", .uint fpStatus),
      ("server_name", .string (serverName.getD "not present (null)"))] ++
      (match process with
        | some (p, score) =>
          [("probable_process", .string (p.getD "not present (null)")),
            ("probability_score", .float score)]
        | none => []) ++
      (match malware with
        | some (m, prob) =>
          [("probable_process_is_malware", .bool m), ("probability_malware", .float prob)]
        | none => []))

/-- An argument of an `fprintf` conversion: `%u`, `%d`, `%s`, and `%f` as the bits of its
`double`. -/
inductive PrintfArg where
  | uint (n : Nat)
  | int (n : Int)
  | str (s : String)
  | double (bits : UInt64)
  deriving DecidableEq, Repr

/-- `fprint_analysis_context(f, ctx)`: its `fprintf` calls, each as the format and the
arguments.  A null context is reported and then handed to every accessor, which returns what
the library returns for `NULL`, `atNull`.  `%s` of a null `probable_process` is undefined, and
is a fault naming it. -/
def fprintAnalysisContext (merc : LibmercApi) (e : Enumerators) (ctx : Option Analysis)
    (atNull : Analysis) : Except String (List (String × List PrintfArg)) := do
  let a := ctx.getD atNull
  let type ← callThrough "get_fingerprint_type" merc.getFingerprintType a.fingerprintType
  let fpString ← callThrough "get_fingerprint_string" merc.getFingerprintString
    a.fingerprintString
  let fpStatus ← callThrough "get_fingerprint_status" merc.getFingerprintStatus
    a.fingerprintStatus
  let serverName ← callThrough "get_server_name" merc.getServerName a.serverName
  let process ← callThrough "get_process_info" merc.getProcessInfo a.processInfo
  let processLine ← match process with
    | some (some p, score) =>
      pure [("probable_process: %s\tprobability_score: %f\n", [.str p, .double score])]
    | some (none, _) => throw "probable_process"
    | none => pure []
  let malware ← callThrough "get_malware_info" merc.getMalwareInfo a.malwareInfo
  pure ([("---------- start of %s ----------\n", [.str "fprint_analysis_context"])] ++
    (if ctx.isNone then [("null analysis_context (no analysis present)\n", [])] else []) ++
    [if type = e.fingerprintTypeTls then ("fingerprint_type: tls\n", [])
      else if type = e.fingerprintTypeUnknown then ("fingerprint_type: unknown\n", [])
      else ("fingerprint_type: not tls (type code %u)\n", [.uint type]),
     match fpString with
      | some s => ("fingerprint_string: %s\n", [.str s])
      | none => ("fingerprint_string: not present (null)\n", []),
     if fpStatus = e.fingerprintStatusLabeled then ("fingerprint_status: labeled\n", [])
      else if fpStatus = e.fingerprintStatusUnlabled then ("fingerprint_status: unlabeled\n", [])
      else if fpStatus = e.fingerprintStatusRandomized then
        ("fingerprint_status: randomized\n", [])
      else if fpStatus = e.fingerprintStatusNoInfoAvailable then
        ("fingerprint_status: no info available\n", [])
      else ("fingerprint_status: unknown status code (%d)\n", [.int fpStatus]),
     match serverName with
      | some s => ("server_name: %s\n", [.str s])
      | none => ("server_name: not present (null)\n", [])] ++
    processLine ++
    (match malware with
      | some (m, prob) =>
        [("probable_process_is_malware: %s\tprobability_malware: %f\n",
          [.str (if m then "true" else "false"), .double prob])]
      | none => []) ++
    [("----------  end of %s  ----------\n", [.str "fprint_analysis_context"])])

/-- A `struct timespec`: seconds and nanoseconds. -/
structure Timespec where
  sec : Int
  nsec : Int
  deriving DecidableEq, Repr

/-- What the library does on the calls `main` makes besides the accessors, `σ` being the state
of a packet processor.  `get_analysis_context` is handed the processor with each packet, and
the processor it leaves is the one the next packet is handed with, so a library that follows
flows can answer a packet according to those before it. -/
structure Engine (σ : Type) where
  /-- `init` returns a context -/
  initOk : Bool
  /-- `packet_processor_construct`: the processor, or `none` for `NULL` -/
  construct : Option σ
  /-- `get_analysis_context(mpp, data, length, &ts)`: the context, `none` for `NULL`, and the
  processor as the call leaves it -/
  analyse : σ → List UInt8 → Timespec → Option Analysis × σ

/-- What the PCAP reader, declared outside the sources, gives `main`. -/
inductive PcapRead where
  /-- the constructor of `pcap_file` throws -/
  | openFails
  /-- `get_next` returns `packets` in turn, and after them throws when `throws` holds and
  returns the empty datum otherwise -/
  | reads (packets : List (List UInt8)) (throws : Bool)

/-- The loop of `main` from iteration `i` with the processor `mpp`, up to the first empty
packet: each packet is handed to `get_analysis_context` with the processor the packets before
it left and the `ts` of its iteration, which nothing sets (`ts i` is whatever it holds), and
each context returned is printed.  The lines printed, and whether the loop ended on the
exception the reader raises after the last packet when `throws` holds. -/
def processPackets (merc : LibmercApi) (e : Enumerators) {σ : Type}
    (analyse : σ → List UInt8 → Timespec → Option Analysis × σ) (ts : Nat → Timespec)
    (throws : Bool) :
    Nat → σ → List (List UInt8) → Except String (List (List (String × JsonValue)) × Bool)
  | _, _, [] => .ok ([], throws)
  | i, mpp, pkt :: pkts =>
    if pkt.isEmpty then .ok ([], false) else do
    let (ctx, mpp) ← callThrough "get_analysis_context" merc.getAnalysisContext
      (analyse mpp pkt (ts i))
    let line ← match ctx with
      | some a => (fprintJsonAnalysisContext merc e (some a)).map some
      | none => pure none
    let (rest, thrown) ← processPackets merc e analyse ts throws (i + 1) mpp pkts
    pure (line.toList ++ rest, thrown)

/-- What the option processor returns to `main`: whether `process_argv` succeeded, and which of
`--read`, `--libmerc` and `--help` are set. -/
structure Options where
  processArgv : Bool
  read : Bool
  libmerc : Bool
  help : Bool

/-- `main`: the exit status and the lines written to `stdout`, or the member called through
`nullptr`.  `EXIT_SUCCESS` and `EXIT_FAILURE` are 0 and 1.  An exception in the `try` block
(the constructor of `libmerc_api` failing, `init` returning null, the reader throwing) is
caught and ends in `EXIT_FAILURE`, after whatever lines were printed. -/
def main {σ : Type} (opt : Options) (lib : Option (List String)) (eng : Engine σ)
    (e : Enumerators) (ts : Nat → Timespec) (pcap : PcapRead) :
    Except String (Int × List (List (String × JsonValue))) :=
  if !opt.processArgv then .ok (1, [])
  else if opt.help then .ok (0, [])
  else if !opt.read then .ok (1, [])
  else if !opt.libmerc then .ok (1, [])
  else match libmercApi lib with
  | .error _ => .ok (1, [])
  | .ok mercury => do
    let mc ← callThrough "init" mercury.init eng.initOk
    if !mc then pure (1, []) else
    let mpp ← callThrough "packet_processor_construct" mercury.packetProcessorConstruct
      eng.construct
    match mpp, pcap with
    | none, _ => pure (-1, [])
    | some _, .openFails => pure (1, [])
    | some mpp, .reads packets throws => do
      let (lines, thrown) ← processPackets mercury e eng.analyse ts throws 0 mpp packets
      if thrown then pure (1, lines) else do
      let _ ← callThrough "packet_processor_destruct" mercury.packetProcessorDestruct ()
      let _ ← callThrough "finalize" mercury.finalize ()
      pure (0, lines)

/-! ### What `bind` leaves

`bind` succeeds exactly on a library that exports the eleven entry points of `v1Checked`.  Its
later tiers leave the members of the first alone, so a successful binding keeps
`get_server_name` as the first tier found it, which may be `nullptr`. -/

/-- The eleven v1 entry points `bind` checks. -/
def v1Checked : List String :=
  ["mercury_init", "mercury_finalize", "mercury_packet_processor_construct",
   "mercury_packet_processor_destruct", "mercury_packet_processor_get_analysis_context",
   "analysis_context_get_fingerprint_type", "analysis_context_get_fingerprint_status",
   "analysis_context_get_fingerprint_string", "analysis_context_get_process_info",
   "analysis_context_get_malware_info", "mercury_write_stats_data"]

/-- The three v3 entry points. -/
def v3Symbols : List String :=
  ["mercury_packet_processor_get_analysis_context_linktype", "analysis_context_get_user_agent",
   "analysis_context_get_alpns"]

@[simp] theorem isNone_dlsym (exports : List String) (name : String) :
    (dlsym exports name).isNone = !decide (name ∈ exports) := by
  unfold dlsym; split <;> simp [*]

theorem v1Missing_bindV1 (api : LibmercApi) (exports : List String) :
    (api.bindV1 exports).v1Missing = !decide (∀ n ∈ v1Checked, n ∈ exports) := by
  simp [LibmercApi.v1Missing, LibmercApi.bindV1, v1Checked, Bool.or_assoc]

theorem v3Missing_bindV3 (api : LibmercApi) (exports : List String) :
    ((api.bindV3 exports).getAnalysisContextLinktype.isNone ||
      (api.bindV3 exports).getUserAgent.isNone || (api.bindV3 exports).getAlpns.isNone) =
      !decide (∀ n ∈ v3Symbols, n ∈ exports) := by
  simp [LibmercApi.bindV3, v3Symbols, Bool.or_assoc]

/-- The later tiers as one record update. -/
theorem bindTiers_eq (api : LibmercApi) (exports : List String) :
    api.bindTiers exports =
      { api.bindV3 exports with
        registerPrintfErr := dlsym exports "register_printf_err_callback"
        libmercVersion := if ∀ n ∈ v3Symbols, n ∈ exports then 3
          else if "register_printf_err_callback" ∈ exports then 2 else 1 } := by
  unfold LibmercApi.bindTiers
  dsimp only
  rw [v3Missing_bindV3, isNone_dlsym]
  by_cases h3 : ∀ n ∈ v3Symbols, n ∈ exports <;>
    [rw [decide_eq_true h3, if_pos h3]; rw [decide_eq_false h3, if_neg h3]] <;>
    by_cases h2 : "register_printf_err_callback" ∈ exports <;>
    simp only [h2, decide_True, decide_False, Bool.not_true, Bool.not_false, Bool.false_eq_true,
      if_true, if_false] <;> rfl

/-- The later tiers leave the members of the first alone. -/
@[simp] theorem v1Missing_bindTiers (api : LibmercApi) (exports : List String) :
    (api.bindTiers exports).v1Missing = api.v1Missing := by
  rw [bindTiers_eq]
  rfl

@[simp] theorem getServerName_bindTiers (api : LibmercApi) (exports : List String) :
    (api.bindTiers exports).getServerName = api.getServerName := by
  rw [bindTiers_eq]
  rfl

theorem libmercApi_some (exports : List String) :
    libmercApi (some exports) =
      if ∀ n ∈ v1Checked, n ∈ exports then
        .ok ((({ dlHandle := true } : LibmercApi).bindV1 exports).bindTiers exports)
      else .error "error: could not initialize libmerc_api" := by
  unfold libmercApi LibmercApi.bind
  dsimp only
  rw [v1Missing_bindV1]
  by_cases h : ∀ n ∈ v1Checked, n ∈ exports <;>
    [rw [decide_eq_true h, if_pos h]; rw [decide_eq_false h, if_neg h]] <;> rfl

/-- The API bound to a library that exports exactly the eleven entry points the v1 test checks. -/
def v1Only : LibmercApi :=
  (({ dlHandle := true } : LibmercApi).bindV1 v1Checked).bindTiers v1Checked

/-- **`bind` succeeds exactly on a library that exports the eleven entry points it checks.  It
then reports version 3 whenever the three of v3 are found, whether the v2 entry point is or
not, and leaves `get_server_name` as the lookup found it.** -/
theorem libmerc_api_binding (exports : List String) :
    libmercApi none = .error "error: could not initialize libmerc_api" ∧
    (libmercApi (some exports)).map
        (fun api => (api.libmercVersion, api.registerPrintfErr, api.getServerName)) =
      if ∀ n ∈ v1Checked, n ∈ exports then
        .ok (if ∀ n ∈ v3Symbols, n ∈ exports then 3
            else if "register_printf_err_callback" ∈ exports then 2 else 1,
          dlsym exports "register_printf_err_callback",
          dlsym exports "analysis_context_get_server_name")
      else .error "error: could not initialize libmerc_api" := by
  refine ⟨rfl, ?_⟩
  rw [libmercApi_some]
  split
  · rw [bindTiers_eq]
    rfl
  · rfl

/-- A library with the v1 and v3 entry points and without the v2 one is bound as version 3,
its `register_printf_err` left `nullptr`. -/
example : (libmercApi (some (v1Checked ++ v3Symbols))).map
    (fun api => (api.libmercVersion, api.registerPrintfErr)) = .ok (3, none) := by
  rfl

/-! ### Calls through the members

The printer and `main` call eleven members.  The v1 test checks ten of them; the eleventh is
`get_server_name`. -/

/-- The members the v1 test checks, each bound. -/
structure V1Bound (api : LibmercApi) : Prop where
  init : api.init.isSome
  finalize : api.finalize.isSome
  packetProcessorConstruct : api.packetProcessorConstruct.isSome
  packetProcessorDestruct : api.packetProcessorDestruct.isSome
  getAnalysisContext : api.getAnalysisContext.isSome
  getFingerprintType : api.getFingerprintType.isSome
  getFingerprintStatus : api.getFingerprintStatus.isSome
  getFingerprintString : api.getFingerprintString.isSome
  getProcessInfo : api.getProcessInfo.isSome
  getMalwareInfo : api.getMalwareInfo.isSome
  writeStatsData : api.writeStatsData.isSome

theorem v1Bound_of_v1Missing {api : LibmercApi} (h : api.v1Missing = false) : V1Bound api := by
  simp only [LibmercApi.v1Missing, Bool.or_assoc, Bool.or_eq_false_iff,
    Option.isNone_eq_false_iff] at h
  obtain ⟨h₁, h₂, h₃, h₄, h₅, h₆, h₇, h₈, h₉, h₁₀, h₁₁⟩ := h
  exact ⟨h₁, h₂, h₃, h₄, h₅, h₆, h₇, h₈, h₉, h₁₀, h₁₁⟩

/-- A successful binding: the library exports what the v1 test checks, those members are bound,
and `get_server_name` is what its lookup found. -/
theorem libmercApi_eq_ok {lib : Option (List String)} {api : LibmercApi}
    (h : libmercApi lib = .ok api) :
    ∃ exports, lib = some exports ∧ (∀ n ∈ v1Checked, n ∈ exports) ∧ V1Bound api ∧
      api.getServerName = dlsym exports "analysis_context_get_server_name" := by
  cases lib with
  | none => cases h
  | some exports =>
    rw [libmercApi_some] at h
    split at h
    · next hv =>
      cases h
      refine ⟨exports, rfl, hv, v1Bound_of_v1Missing ?_, getServerName_bindTiers _ _⟩
      rw [v1Missing_bindTiers, v1Missing_bindV1, decide_eq_true hv]
      rfl
    · cases h

theorem libmercApi_ok {exports : List String} (h : ∀ n ∈ v1Checked, n ∈ exports) :
    ∃ api, libmercApi (some exports) = .ok api := by
  rw [libmercApi_some, if_pos h]
  exact ⟨_, rfl⟩

theorem callThrough_of_isSome {α : Type} {member : String} {ptr : Option String} (result : α)
    (h : ptr.isSome) : callThrough member ptr result = .ok result :=
  if_pos h

/-- On a bound API the printer faults only at `get_server_name`. -/
theorem fprintJsonAnalysisContext_eq_error {merc : LibmercApi} (hb : V1Bound merc)
    (e : Enumerators) (a : Analysis) (m : String) :
    fprintJsonAnalysisContext merc e (some a) = .error m ↔
      merc.getServerName = none ∧ m = "get_server_name" := by
  simp only [fprintJsonAnalysisContext, callThrough_of_isSome _ hb.getFingerprintType,
    callThrough_of_isSome _ hb.getFingerprintString,
    callThrough_of_isSome _ hb.getFingerprintStatus, callThrough_of_isSome _ hb.getProcessInfo,
    callThrough_of_isSome _ hb.getMalwareInfo, bind, Except.bind]
  cases merc.getServerName <;> simp [callThrough, pure, Except.pure, eq_comm]

theorem fprintJsonAnalysisContext_ok {merc : LibmercApi} (hb : V1Bound merc)
    (hs : merc.getServerName.isSome) (e : Enumerators) (a : Analysis) :
    ∃ l, fprintJsonAnalysisContext merc e (some a) = .ok l := by
  cases h : fprintJsonAnalysisContext merc e (some a) with
  | ok l => exact ⟨l, rfl⟩
  | error m =>
    rw [fprintJsonAnalysisContext_eq_error hb] at h
    simp [h.1] at hs

/-- On a bound API the text printer faults at `get_server_name`, and past it where the library
reports a process without a name. -/
theorem fprintAnalysisContext_eq_error {merc : LibmercApi} (hb : V1Bound merc) (e : Enumerators)
    (ctx : Option Analysis) (atNull : Analysis) (m : String) :
    fprintAnalysisContext merc e ctx atNull = .error m ↔
      merc.getServerName = none ∧ m = "get_server_name" ∨
        merc.getServerName.isSome ∧
          (∃ score, (ctx.getD atNull).processInfo = some (none, score)) ∧
          m = "probable_process" := by
  simp only [fprintAnalysisContext, callThrough_of_isSome _ hb.getFingerprintType,
    callThrough_of_isSome _ hb.getFingerprintString,
    callThrough_of_isSome _ hb.getFingerprintStatus, callThrough_of_isSome _ hb.getProcessInfo,
    callThrough_of_isSome _ hb.getMalwareInfo, bind, Except.bind]
  cases merc.getServerName with
  | none =>
    simp only [callThrough, Option.isSome_none, Bool.false_eq_true, if_false]
    simp [eq_comm]
  | some n =>
    simp only [callThrough_of_isSome _ (show (some n).isSome from rfl)]
    rcases (ctx.getD atNull).processInfo with _ | ⟨_ | p, score⟩
    · exact iff_of_false (by simp only [pure, Except.pure, reduceCtorEq, not_false_eq_true])
        (by simp)
    · simp [throw, throwThe, MonadExceptOf.throw, eq_comm]
    · exact iff_of_false (by simp only [pure, Except.pure, reduceCtorEq, not_false_eq_true])
        (by simp)

/-- **The two printers on an API `bind` accepts.**  The text printer faults at a null
`get_server_name` whatever the context, a null one included, and past it where the library
reports a process without a name, which it prints with `%s` unchecked.  The JSON printer
faults only at `get_server_name`, and only on a non-null context. -/
theorem analysis_printers_fault {lib : Option (List String)} {merc : LibmercApi}
    (hm : libmercApi lib = .ok merc) (e : Enumerators) (ctx : Option Analysis)
    (atNull : Analysis) (m : String) :
    (fprintAnalysisContext merc e ctx atNull = .error m ↔
      merc.getServerName = none ∧ m = "get_server_name" ∨
        merc.getServerName.isSome ∧
          (∃ score, (ctx.getD atNull).processInfo = some (none, score)) ∧
          m = "probable_process") ∧
    (fprintJsonAnalysisContext merc e ctx = .error m ↔
      ctx.isSome ∧ merc.getServerName = none ∧ m = "get_server_name") := by
  obtain ⟨-, -, -, hb, -⟩ := libmercApi_eq_ok hm
  refine ⟨fprintAnalysisContext_eq_error hb e ctx atNull m, ?_⟩
  cases ctx with
  | none => simp [fprintJsonAnalysisContext]
  | some a => simpa using fprintJsonAnalysisContext_eq_error hb e a m

/-- That API on a null context, whose accessors report a process without a name. -/
theorem analysis_printers_fault_v1Only :
    libmercApi (some v1Checked) = .ok v1Only ∧
      ((fprintAnalysisContext v1Only ⟨0, 1, 0, 1, 2, 3⟩ none
          ⟨0, none, 4, none, some (none, 0), none⟩ = .error "get_server_name" ↔
        v1Only.getServerName = none ∧ "get_server_name" = "get_server_name" ∨
          v1Only.getServerName.isSome ∧
            (∃ score, ((none : Option Analysis).getD
              ⟨0, none, 4, none, some (none, 0), none⟩).processInfo = some (none, score)) ∧
            "get_server_name" = "probable_process") ∧
       (fprintJsonAnalysisContext v1Only ⟨0, 1, 0, 1, 2, 3⟩ none = .error "get_server_name" ↔
        (none : Option Analysis).isSome ∧ v1Only.getServerName = none ∧
          "get_server_name" = "get_server_name")) :=
  ⟨rfl, analysis_printers_fault (show libmercApi (some v1Checked) = .ok v1Only from rfl) _ _ _ _⟩

/-- The contexts `get_analysis_context` returns for the packets `pkts` in turn, from iteration
`i` with the processor `mpp`, each packet handed the processor the packets before it left. -/
def analyses {σ : Type} (analyse : σ → List UInt8 → Timespec → Option Analysis × σ)
    (ts : Nat → Timespec) : Nat → σ → List (List UInt8) → List (Option Analysis)
  | _, _, [] => []
  | i, mpp, pkt :: pkts =>
    (analyse mpp pkt (ts i)).1 :: analyses analyse ts (i + 1) (analyse mpp pkt (ts i)).2 pkts

/-- The packet loop in closed form: one line for each context the library returns for the
packets before the first empty one, in order, the first fault ending it; the loop ends on the
reader's exception when it reaches the end of the packets. -/
theorem processPackets_eq_mapM {merc : LibmercApi} (h : merc.getAnalysisContext.isSome)
    (e : Enumerators) {σ : Type} (analyse : σ → List UInt8 → Timespec → Option Analysis × σ)
    (ts : Nat → Timespec) (throws : Bool) (i : Nat) (mpp : σ) (pkts : List (List UInt8)) :
    processPackets merc e analyse ts throws i mpp pkts =
      (((analyses analyse ts i mpp (pkts.takeWhile (fun p => !p.isEmpty))).filterMap id).mapM
        (fun a => fprintJsonAnalysisContext merc e (some a))).map
        (·, throws && pkts.all (fun p => !p.isEmpty)) := by
  induction pkts generalizing i mpp with
  | nil => cases throws <;> rfl
  | cons pkt pkts ih =>
    cases hp : pkt.isEmpty
    · simp only [processPackets, hp, Bool.false_eq_true, if_false, callThrough_of_isSome _ h,
        List.takeWhile_cons, Bool.not_false, if_true, analyses, List.all_cons, Bool.true_and]
      rcases analyse mpp pkt (ts i) with ⟨_ | a, mpp'⟩ <;>
        dsimp only [bind, Except.bind, pure, Except.pure] <;>
        simp only [List.filterMap_cons, id_eq, ih (i + 1) mpp', List.mapM_cons] <;>
        dsimp only [bind, Except.bind, pure, Except.pure, Except.map]
      · cases ((analyses analyse ts (i + 1) mpp' (pkts.takeWhile fun p => !p.isEmpty)).filterMap
          id).mapM (fun a => fprintJsonAnalysisContext merc e (some a)) <;> rfl
      · cases fprintJsonAnalysisContext merc e (some a) <;> dsimp only
        cases ((analyses analyse ts (i + 1) mpp' (pkts.takeWhile fun p => !p.isEmpty)).filterMap
          id).mapM (fun a => fprintJsonAnalysisContext merc e (some a)) <;> rfl
    · simp only [processPackets, hp, if_true, List.takeWhile_cons, Bool.not_true,
        Bool.false_eq_true, if_false, analyses, List.filterMap_nil, List.all_cons, Bool.false_and,
        Bool.and_false]
      rfl

/-- On a bound API the printer, run over contexts in turn, faults exactly when there is one and
`get_server_name` is `nullptr`. -/
theorem mapM_fprintJsonAnalysisContext_eq_error {merc : LibmercApi} (hb : V1Bound merc)
    (e : Enumerators) (m : String) :
    ∀ l : List Analysis, l.mapM (fun a => fprintJsonAnalysisContext merc e (some a)) = .error m ↔
      l ≠ [] ∧ merc.getServerName = none ∧ m = "get_server_name"
  | [] => iff_of_false (fun h => by cases h) (by simp)
  | a :: l => by
    rw [List.mapM_cons]
    dsimp only [bind, Except.bind]
    cases hs : merc.getServerName with
    | none =>
      rw [(fprintJsonAnalysisContext_eq_error hb e a _).mpr ⟨hs, rfl⟩]
      simp [eq_comm]
    | some _ =>
      obtain ⟨line, hl⟩ := fprintJsonAnalysisContext_ok hb (by simp [hs]) e a
      have ih := mapM_fprintJsonAnalysisContext_eq_error hb e m l
      rw [hl]
      simp only [hs, reduceCtorEq, false_and, and_false, iff_false] at ih ⊢
      cases hr : l.mapM (fun a => fprintJsonAnalysisContext merc e (some a)) with
      | error err => rwa [hr] at ih
      | ok v => simp [pure, Except.pure]

theorem dlsym_eq_none (exports : List String) (name : String) :
    dlsym exports name = none ↔ name ∉ exports := by
  unfold dlsym
  split <;> simp [*]

/-- **`libmerc_util` calls through a null pointer exactly when it binds a library without
`analysis_context_get_server_name` and the library returns a context for a packet before the
first empty one, and that call is the only one it can make through `nullptr`.** -/
theorem libmerc_util_calls_unbound_server_name {σ : Type} (opt : Options)
    (lib : Option (List String)) (eng : Engine σ) (e : Enumerators) (ts : Nat → Timespec)
    (pcap : PcapRead) (m : String) :
    main opt lib eng e ts pcap = .error m ↔
      m = "get_server_name" ∧ opt.processArgv = true ∧ opt.help = false ∧ opt.read = true ∧
      opt.libmerc = true ∧
      (∃ exports, lib = some exports ∧ (∀ n ∈ v1Checked, n ∈ exports) ∧
        "analysis_context_get_server_name" ∉ exports) ∧
      eng.initOk = true ∧
      ∃ mpp packets throws, eng.construct = some mpp ∧ pcap = .reads packets throws ∧
        ∃ ctx ∈ analyses eng.analyse ts 0 mpp (packets.takeWhile (fun p => !p.isEmpty)),
          ctx.isSome := by
  obtain ⟨processArgv, read, libmerc, help⟩ := opt
  obtain ⟨initOk, construct, analyse⟩ := eng
  unfold main
  cases processArgv
  · simp
  cases help
  swap
  · simp
  cases read
  · simp
  cases libmerc
  · simp
  simp only [Bool.false_eq_true, if_false, Bool.not_true, true_and]
  cases hlib : libmercApi lib with
  | error err =>
    simp only [reduceCtorEq, false_iff]
    rintro ⟨-, ⟨exports, rfl, hv, -⟩, -⟩
    obtain ⟨api, hapi⟩ := libmercApi_ok hv
    rw [hlib] at hapi
    cases hapi
  | ok mercury =>
    obtain ⟨exports, rfl, hv, hb, hsn⟩ := libmercApi_eq_ok hlib
    have hns : mercury.getServerName = none ↔ "analysis_context_get_server_name" ∉ exports :=
      hsn ▸ dlsym_eq_none _ _
    simp only [callThrough_of_isSome _ hb.init, callThrough_of_isSome _ hb.packetProcessorConstruct,
      bind, Except.bind, Option.some.injEq, exists_eq_left', true_and]
    cases initOk
    · simp [pure, Except.pure]
    simp only [Bool.not_true, Bool.false_eq_true, if_false, true_and]
    rcases construct with _ | mpp
    · simp [pure, Except.pure]
    rcases pcap with _ | ⟨packets, throws⟩
    · simp [pure, Except.pure]
    simp only [processPackets_eq_mapM hb.getAnalysisContext, Option.some.injEq,
      PcapRead.reads.injEq, and_assoc, exists_eq_left', exists_and_left, exists_eq_left]
    have hne : ∀ l : List (Option Analysis), l.filterMap id ≠ [] ↔ ∃ c ∈ l, c.isSome := by
      intro l
      simp [List.filterMap_eq_nil_iff, Option.isSome_iff_ne_none]
    cases hr : (List.filterMap id (analyses analyse ts 0 mpp
        (List.takeWhile (fun p => !p.isEmpty) packets))).mapM
        (fun a => fprintJsonAnalysisContext mercury e (some a)) with
    | error err =>
      obtain ⟨hl, hs, rfl⟩ := (mapM_fprintJsonAnalysisContext_eq_error hb e err _).mp hr
      simp only [Except.map, Except.error.injEq]
      exact ⟨fun h => ⟨h.symm, hv, hns.mp hs, (hne _).mp hl⟩, fun h => h.1.symm⟩
    | ok lines =>
      simp only [Except.map, callThrough_of_isSome _ hb.packetProcessorDestruct,
        callThrough_of_isSome _ hb.finalize]
      refine iff_of_false (by split <;> simp [pure, Except.pure]) ?_
      rintro ⟨rfl, -, hn, hctx⟩
      have h := (mapM_fprintJsonAnalysisContext_eq_error hb e _ _).mpr
        ⟨(hne _).mpr hctx, hns.mpr hn, rfl⟩
      rw [hr] at h
      cases h

/-- A processor that counts the packets it is handed and returns a context for the second
one only. -/
def secondOnly (a : Analysis) : Engine Nat :=
  ⟨true, some 0, fun n _ _ => (if n = 1 then some a else none, n + 1)⟩

/-- Two copies of one packet: only the second gets a context. -/
example (a : Analysis) :
    analyses (secondOnly a).analyse (fun _ => ⟨0, 0⟩) 0 0 [[0x45], [0x45]] = [none, some a] :=
  rfl

/-- The library exporting exactly the eleven checked entry points faults on the second copy. -/
example (e : Enumerators) (a : Analysis) :
    main ⟨true, true, true, false⟩ (some v1Checked) (secondOnly a) e (fun _ => ⟨0, 0⟩)
      (.reads [[0x45], [0x45]] false) = .error "get_server_name" := by
  rfl

/-- **What `libmerc_util` prints.**  With `--read` and `--libmerc` set, a library `bind` accepts,
and `init` and `packet_processor_construct` succeeding, `main` hands each packet before the
first empty one to the library with the processor the packets before it left, prints one line
for each context returned, in order, and exits with 0, or with 1 when the reader throws after
the last packet; the first fault of the printer ends it.  A file the reader cannot open ends it
with 1 and nothing printed. -/
theorem main_prints_analysed_packets {σ : Type} {lib : Option (List String)} {merc : LibmercApi}
    (hm : libmercApi lib = .ok merc) (e : Enumerators) {eng : Engine σ} (hi : eng.initOk = true)
    {mpp : σ} (hc : eng.construct = some mpp) (ts : Nat → Timespec)
    (packets : List (List UInt8)) (throws : Bool) :
    main ⟨true, true, true, false⟩ lib eng e ts (.reads packets throws) =
      (((analyses eng.analyse ts 0 mpp (packets.takeWhile (fun p => !p.isEmpty))).filterMap
        id).mapM (fun a => fprintJsonAnalysisContext merc e (some a))).map
        (fun lines => (if throws && packets.all (fun p => !p.isEmpty) then 1 else 0, lines)) ∧
    main ⟨true, true, true, false⟩ lib eng e ts .openFails = .ok (1, []) := by
  obtain ⟨-, -, -, hb, -⟩ := libmercApi_eq_ok hm
  obtain ⟨initOk, construct, analyse⟩ := eng
  subst hi hc
  simp only [main, Bool.not_true, Bool.false_eq_true, if_false, hm,
    callThrough_of_isSome _ hb.init, callThrough_of_isSome _ hb.packetProcessorConstruct,
    callThrough_of_isSome _ hb.packetProcessorDestruct, callThrough_of_isSome _ hb.finalize,
    processPackets_eq_mapM hb.getAnalysisContext]
  refine ⟨?_, rfl⟩
  dsimp only [bind, Except.bind, pure, Except.pure, Bool.not_true]
  cases ((analyses analyse ts 0 mpp (packets.takeWhile (fun p => !p.isEmpty))).filterMap
    id).mapM (fun a => fprintJsonAnalysisContext merc e (some a)) <;>
    cases throws && packets.all (fun p => !p.isEmpty) <;> rfl

/-- The v1-only library and a processor that answers the second packet only. -/
theorem main_prints_analysed_packets_v1Only :
    libmercApi (some v1Checked) = .ok v1Only ∧
    (secondOnly ⟨0, none, 4, some "a", none, none⟩).initOk = true ∧
    (secondOnly ⟨0, none, 4, some "a", none, none⟩).construct = some 0 ∧
    (main ⟨true, true, true, false⟩ (some v1Checked) (secondOnly ⟨0, none, 4, some "a", none, none⟩)
        ⟨0, 1, 0, 1, 2, 3⟩ (fun _ => ⟨0, 0⟩) (.reads [[1], [1]] true) =
      (((analyses (secondOnly ⟨0, none, 4, some "a", none, none⟩).analyse (fun _ => ⟨0, 0⟩) 0 0
          (([[1], [1]] : List (List UInt8)).takeWhile (fun p => !p.isEmpty))).filterMap id).mapM
        (fun a => fprintJsonAnalysisContext v1Only ⟨0, 1, 0, 1, 2, 3⟩ (some a))).map
        (fun lines => (if true && ([[1], [1]] : List (List UInt8)).all (fun p => !p.isEmpty)
          then 1 else 0, lines)) ∧
      main ⟨true, true, true, false⟩ (some v1Checked)
        (secondOnly ⟨0, none, 4, some "a", none, none⟩)
        ⟨0, 1, 0, 1, 2, 3⟩ (fun _ => ⟨0, 0⟩) .openFails = .ok (1, [])) :=
  ⟨rfl, rfl, rfl,
    main_prints_analysed_packets (show libmercApi (some v1Checked) = .ok v1Only from rfl)
      _ rfl rfl _ _ _⟩

end Mercury.Api
