import RapidRows.Config.Model
import RapidRows.Streams.Listen

/-!
# Validating a configuration

`APIServerConfig.validate` and the `validate` of every part (`server.go`),
with the messages they add. The fixed regular expressions are decided here;
the library functions a configuration is checked with (`semver`, `net`,
`encoding/json`, `regexp` on a configured pattern, the cron parser, the file
system, `strings.ToLower` and `fmt`'s verbs that need Unicode or shortest
float printing) are the fields of `Lib`.
-/

namespace RapidRows.Config

open Streams (rxPgChan)

/-- The library functions validation and parameter handling call. -/
structure Lib where
  /-- `semver.IsValid`. -/
  semverIsValid : String → Bool
  /-- `semver.Canonical`. -/
  semverCanonical : String → String
  /-- `net.SplitHostPort`, when it succeeds. -/
  splitHostPort : String → Option (String × String)
  /-- `net.ParseIP(s) != nil`. -/
  parseIP : String → Bool
  /-- `json.Valid`. -/
  jsonValid : String → Bool
  /-- `regexp.Compile(s)` succeeds. -/
  compiles : String → Bool
  /-- `rx.MatchString(s)`, for `rx` compiled from a pattern. -/
  matchString : String → String → Bool
  /-- The error of `stdCronParser.Parse`, if any. -/
  cronError : String → Option String
  /-- `fileExists`. -/
  fileExists : String → Bool
  /-- `strings.ToLower`. -/
  toLower : String → String
  /-- `fmt`'s `%q` of a string. -/
  quote : String → String
  /-- `fmt`'s `%g`, and `%v`, of a `float64`. -/
  fmtG : F64 → String
  /-- `fmt`'s `%v` of an `any`. -/
  fmtV : Value → String
  /-- `fmt`'s `%T` of an `any`: its dynamic type's name. -/
  fmtT : Value → String

/-! ## §1 The fixed regular expressions -/

/-- `[A-Za-z0-9_.-]`. -/
def isNameChar (c : Char) : Bool := c.isAlphanum || c = '_' || c = '.' || c = '-'

/-- `rxPort`: `:[0-9]+$`. -/
def rxPort (s : String) : Bool :=
  match s.data.reverse.span isDecDigit with
  | (ds, ':' :: _) => !ds.isEmpty
  | _ => false

/-- `rxPrefix`: `^(/[A-Za-z0-9_.-]+)+$`. -/
def rxPrefix (s : String) : Bool :=
  match s.data with
  | '/' :: rest => (rest.splitOn '/').all fun seg => !seg.isEmpty && seg.all isNameChar
  | _ => false

/-- A segment of `rxURI`: a name, or a name in braces. -/
def isURISeg (seg : List Char) : Bool :=
  (!seg.isEmpty && seg.all isNameChar) ||
    match seg with
    | '\x7b' :: rest => rest.getLast? == some '\x7d' && !rest.dropLast.isEmpty && rest.dropLast.all isNameChar
    | _ => false

/-- `rxURI`. -/
def rxURI (s : String) : Bool :=
  match s.data with
  | '/' :: rest => (rest.splitOn '/').all isURISeg
  | _ => false

/-- `rxMethod`. -/
def rxMethod (s : String) : Bool := s ∈ ["GET", "POST", "PUT", "PATCH", "DELETE"]

/-- `rxParamName`: `^[A-Za-z][A-Za-z0-9_]*$`. -/
def rxParamName (s : String) : Bool :=
  match s.data with
  | c :: cs => c.isAlpha && cs.all fun c => c.isAlphanum || c = '_'
  | [] => false

/-- `rxName`: dot-separated parts of `[A-Za-z0-9_][A-Za-z0-9_-]*`. -/
def rxName (s : String) : Bool :=
  (s.data.splitOn '.').all fun part =>
    match part with
    | c :: cs => (c.isAlphanum || c = '_') && cs.all fun c => c.isAlphanum || c = '_' || c = '-'
    | [] => false

/-- `rxPqParam`: `^[a-z]+(_[a-z]+)*$`. -/
def rxPqParam (s : String) : Bool :=
  (s.data.splitOn '_').all fun part => !part.isEmpty && part.all Char.isLower

theorem mem_intersperse {α : Type} {x sep : α} {l : List α} (h : x ∈ l.intersperse sep) : x = sep ∨ x ∈ l := by
  induction l with
  | nil => cases h
  | cons a t ih =>
    cases t with
    | nil => exact .inr h
    | cons b t =>
      rw [List.intersperse_cons₂] at h
      rcases List.mem_cons.1 h with h | h
      · exact .inr (h ▸ List.mem_cons_self _ _)
      rcases List.mem_cons.1 h with h | h
      · exact .inl h
      · exact (ih h).imp_right (List.mem_cons_of_mem _)

/-- A character of a list whose `sep`-separated segments all pass `q` is `sep`
or lies in a segment that passes. -/
theorem mem_of_splitOn_all {l : List Char} {sep c : Char} {q : List Char → Bool}
    (h : (l.splitOn sep).all q = true) (hc : c ∈ l) : c = sep ∨ ∃ seg, q seg = true ∧ c ∈ seg := by
  rw [← List.intercalate_splitOn l sep] at hc
  simp only [List.intercalate, List.mem_flatten] at hc
  obtain ⟨seg, hseg, hc⟩ := hc
  rcases mem_intersperse hseg with rfl | hseg
  · exact .inl (List.mem_singleton.1 hc)
  · exact .inr ⟨seg, List.all_eq_true.1 h seg hseg, hc⟩

theorem hash_not_mem_of_isNameChars {l : List Char} (h : l.all isNameChar = true) : '#' ∉ l :=
  fun hc => absurd (List.all_eq_true.1 h _ hc) (by decide)

/-- A segment of `rxURI`, a name or a `{name}`, has no `#`. -/
theorem hash_not_mem_of_isURISeg {seg : List Char} (h : isURISeg seg = true) : '#' ∉ seg := by
  unfold isURISeg at h
  simp only [Bool.or_eq_true, Bool.and_eq_true] at h
  rcases h with ⟨-, h⟩ | h
  · exact hash_not_mem_of_isNameChars h
  · split at h
    · simp only [Bool.and_eq_true, beq_iff_eq, List.getLast?_eq_some_iff] at h
      obtain ⟨⟨⟨ys, rfl⟩, -⟩, hys⟩ := h
      rw [List.dropLast_concat] at hys
      simp only [List.mem_cons, List.mem_append, List.mem_singleton, not_or]
      exact ⟨by decide, hash_not_mem_of_isNameChars hys, by decide⟩
    · cases h

/-- A name of `rxURI` has no `#`. -/
theorem hash_not_mem_of_rxURI {s : String} (h : rxURI s = true) : '#' ∉ s.data := by
  unfold rxURI at h
  split at h
  · rename_i rest hs
    rw [hs]
    rintro (_ | ⟨_, hc⟩)
    rcases mem_of_splitOn_all h hc with hc | ⟨seg, hseg, hc⟩
    · exact absurd hc (by decide)
    · exact hash_not_mem_of_isURISeg hseg hc
  · cases h

/-- `unicode.IsSpace`. -/
def isSpace (c : Char) : Bool :=
  c = ' ' || ('\t' ≤ c && c ≤ '\r') || c.toNat = 0x85 || c.toNat = 0xA0 || c.toNat = 0x1680 ||
    (0x2000 ≤ c.toNat && c.toNat ≤ 0x200A) || c.toNat = 0x2028 || c.toNat = 0x2029 ||
    c.toNat = 0x202F || c.toNat = 0x205F || c.toNat = 0x3000

/-- `len(strings.TrimSpace(s)) == 0`. -/
def isBlank (s : String) : Bool := s.data.all isSpace

/-- `x <= 0` on a `float64`. -/
def F64.nonPos (x : F64) : Bool := x.lt ⟨0⟩ || x.beq ⟨0⟩

/-- The loop over a count map that reports each repeated key:
`for k, c := range m { if c > 1 { addError(msg(k, c)) } }`. -/
def dupErrors (keys : List String) (msg : String → Nat → String) : List ValidationResult :=
  (counts keys).flatMap fun p => errorIf (1 < p.2) (msg p.1 p.2)

/-- The `found` loop over the datasources. -/
def found (ds : List Datasource) (name : String) : Bool := ds.any fun d => d.name == name

section Validate

variable (lib : Lib)

/-! ## §2 The parts -/

/-- `TxOptions.validate(pfx)`. -/
def TxOptions.validate (tx : TxOptions) (pfx : String) : List ValidationResult :=
  errorIf (lib.toLower tx.access ∉ ["read only", "read write", ""])
      (pfx ++ " invalid access specifier " ++ lib.quote tx.access) ++
    errorIf (lib.toLower tx.isoLevel ∉ ["read committed", "repeatable read", "serializable", ""])
      (pfx ++ " invalid iso level " ++ lib.quote tx.isoLevel)

/-- `CORS.validate`. -/
def CORS.validate (c : CORS) : List ValidationResult :=
  c.allowedOrigins.flatMap (fun o => errorIf (1 < o.data.count '*')
      ("cors: allowed origin " ++ lib.quote o ++ ": can use only 1 wildcard")) ++
    c.allowedMethods.flatMap (fun m => errorIf (!rxMethod m)
      ("cors: allowed methods: invalid method " ++ lib.quote m)) ++
    warnIf (c.maxAge.any (· ≤ 0))
      ("cors: max age " ++ toString (c.maxAge.getD 0) ++ " is <=0, will be ignored")

/-- The enum check of `Param.validate` for one entry. -/
def Param.validateEnumEntry (p : Param) (pfx : String) (v : Value) : List ValidationResult :=
  if p.type = "string" then
    match v with
    | .string _ => []
    | _ => errorIf true (pfx ++ " enum entry '" ++ lib.fmtV v ++ "': invalid string")
  else if p.type = "integer" then
    match v with
    | .string s => errorIf (parseInt s).isNone (pfx ++ " enum entry " ++ lib.quote s ++ ": not a valid integer")
    | .float64 f => errorIf (float2int f).isNone
        (pfx ++ " enum entry '" ++ lib.fmtV v ++ "': not a valid integer (has fractional part)")
    | .uint64 n => errorIf (2 ^ 63 - 1 < n.toNat)
        (pfx ++ " enum entry '" ++ lib.fmtV v ++ "': not a valid integer (value too large)")
    | .int64 _ => []
    | _ => errorIf true (pfx ++ " enum entry '" ++ lib.fmtV v ++ "': not a valid integer")
  else if p.type = "number" then
    match v with
    | .string s => errorIf (parseFloat s).isNone (pfx ++ " enum entry " ++ lib.quote s ++ ": not a valid number")
    | .uint64 _ | .int64 _ | .float64 _ => []
    | _ => errorIf true (pfx ++ " enum entry '" ++ lib.fmtV v ++ "': not a valid number")
  else []

/-- `Param.validate(u)`. -/
def Param.validate (p : Param) (u : String) : List ValidationResult :=
  let pfx := "endpoint " ++ lib.quote u ++ ": param " ++ lib.quote p.name ++ ":"
  let numeric := p.type = "integer" ∨ p.type = "number"
  errorIf (!rxParamName p.name) (pfx ++ " invalid name") ++
  errorIf (p.«in» ∉ ["query", "path", "body"]) (pfx ++ " invalid location " ++ lib.quote p.«in») ++
  errorIf (p.type ∉ ["integer", "number", "string", "boolean", "array"])
    (pfx ++ " invalid type " ++ lib.quote p.type) ++
  errorIf (p.type = "array" ∧ p.«in» = "path") (pfx ++ " type 'array' cannot occur in 'path'") ++
  (if p.enum.isEmpty then [] else
    errorIf (p.type ∉ ["integer", "number", "string"])
      (pfx ++ " enum cannot be specified for parameter of type " ++ lib.quote p.type) ++
    p.enum.flatMap (p.validateEnumEntry lib pfx)) ++
  (match p.minimum with
    | none => []
    | some m =>
      errorIf (¬numeric) (pfx ++ " minimum can be specified only for params of type integer or number") ++
      errorIf (p.type = "integer" ∧ (float2int m).isNone)
        (pfx ++ " minimum " ++ lib.fmtG m ++ " not a valid integer (has fractional part)")) ++
  (match p.maximum with
    | none => []
    | some m =>
      errorIf (¬numeric) (pfx ++ " maximum can be specified only for params of type integer or number") ++
      errorIf (p.type = "integer" ∧ (float2int m).isNone)
        (pfx ++ " maximum " ++ lib.fmtG m ++ " not a valid integer (has fractional part)") ++
      match p.minimum with
      | some lo => errorIf (m.lt lo)
          (pfx ++ " maximum " ++ lib.fmtG m ++ " is less than minimum " ++ lib.fmtG lo)
      | none => []) ++
  (match p.maxLength with
    | none => []
    | some n =>
      errorIf (p.type ≠ "string") (pfx ++ " maxLength can be specified only for params of type string") ++
      errorIf (n < 0) (pfx ++ " maxLength " ++ toString n ++ " should be >= 0")) ++
  (if p.pattern.isEmpty then [] else
    errorIf (p.type ≠ "string") (pfx ++ " pattern can be specified only for params of type string") ++
    errorIf (!lib.compiles ("^" ++ p.pattern ++ "$")) (pfx ++ " pattern is not a valid unanchored regex")) ++
  (match p.minItems with
    | none => []
    | some n =>
      errorIf (p.type ≠ "array") (pfx ++ " minItems can be specified only for params of type array") ++
      errorIf (n < 0) (pfx ++ " minItems " ++ toString n ++ " should be >= 0")) ++
  (match p.maxItems with
    | none => []
    | some n =>
      errorIf (p.type ≠ "array") (pfx ++ " maxItems can be specified only for params of type array") ++
      errorIf (n < 0) (pfx ++ " maxItems " ++ toString n ++ " should be >= 0") ++
      match p.minItems with
      | some lo => errorIf (n < lo)
          (pfx ++ " maxItems " ++ toString n ++ " is less than minItems " ++ toString lo)
      | none => []) ++
  errorIf (!p.elemType.isEmpty ∧ p.type ≠ "array")
    (pfx ++ " elemType can be specified only for params of type array") ++
  errorIf (p.elemType.isEmpty ∧ p.type = "array")
    (pfx ++ " elemType must be specified for params of type array") ++
  errorIf (!p.elemType.isEmpty ∧ p.elemType ∉ ["integer", "number", "string", "boolean"])
    (pfx ++ " elemType must be one of integer, number, string or boolean")

/-- `Endpoint.validate(ds)`. -/
def Endpoint.validate (ep : Endpoint) (ds : List Datasource) : List ValidationResult :=
  let q := lib.quote ep.uri
  errorIf (!rxURI ep.uri ∧ ep.uri ≠ "/") ("endpoint " ++ q ++ ": invalid URI") ++
  (ep.methods.enum.flatMap fun (i, m) => errorIf (!rxMethod m)
    ("endpoint " ++ q ++ ": method #" ++ toString (i + 1) ++ ": invalid method " ++ lib.quote m)) ++
  ep.params.flatMap (·.validate lib ep.uri) ++
  dupErrors (ep.params.map (·.name))
    (fun n c => "endpoint " ++ q ++ ": " ++ toString c ++ " params named " ++ lib.quote n) ++
  errorIf (ep.implType ∉ ["query-json", "query-csv", "exec", "static-text", "static-json", "javascript"])
    ("endpoint " ++ q ++ ": invalid implementation type " ++ lib.quote ep.implType) ++
  errorIf (ep.implType ∈ ["query-json", "query-csv", "exec"] ∧ !found ds ep.datasource)
    ("endpoint " ++ q ++ ": unknown datasource " ++ lib.quote ep.datasource) ++
  errorIf (isBlank ep.script ∧ ep.implType ≠ "static-text") ("endpoint " ++ q ++ ": invalid script: empty") ++
  errorIf (ep.implType = "static-json" ∧ !lib.jsonValid ep.script)
    ("endpoint " ++ q ++ ": invalid script: invalid json") ++
  (match ep.txOptions with
    | some tx => tx.validate lib ("endpoint " ++ q ++ ":")
    | none => []) ++
  warnIf (ep.timeout.any F64.nonPos)
    ("endpoint " ++ q ++ ": timeout " ++ lib.fmtG (ep.timeout.getD ⟨0⟩) ++ " is <=0, will be ignored") ++
  warnIf (ep.cache.any F64.nonPos)
    ("endpoint " ++ q ++ ": cache ttl " ++ lib.fmtG (ep.cache.getD ⟨0⟩) ++ " is <=0, will be ignored")

/-- `Stream.validate(ds)`. -/
def Stream.validate (s : Stream) (ds : List Datasource) : List ValidationResult :=
  let q := lib.quote s.uri
  errorIf (!rxPrefix s.uri ∧ s.uri ≠ "/") ("stream " ++ q ++ ": invalid URI") ++
  errorIf (s.type ∉ ["websocket", "sse"]) ("stream " ++ q ++ ": invalid type " ++ lib.quote s.type) ++
  errorIf (!rxPgChan s.channel) ("stream " ++ q ++ ": invalid channel " ++ lib.quote s.channel) ++
  errorIf (!found ds s.datasource) ("stream " ++ q ++ ": unknown datasource " ++ lib.quote s.datasource)

/-- `ConnPool.validate(ds)`. -/
def ConnPool.validate (p : ConnPool) (ds : String) : List ValidationResult :=
  let q := lib.quote ds
  errorIf (p.minConns.any (· ≤ 0))
    ("datasource " ++ q ++ ": minConns for pool " ++ toString (p.minConns.getD 0) ++ " must be >0") ++
  errorIf (p.maxConns.any (· ≤ 0))
    ("datasource " ++ q ++ ": maxConns for pool " ++ toString (p.maxConns.getD 0) ++ " must be >0") ++
  (match p.maxConns, p.minConns with
    | some hi, some lo => errorIf (hi < lo)
        ("datasource " ++ q ++ ": maxConns for pool " ++ toString hi ++ " is < minConns " ++ toString lo)
    | _, _ => []) ++
  errorIf (p.maxIdleTime.any F64.nonPos)
    ("datasource " ++ q ++ ": maxIdleTime for pool " ++ lib.fmtG (p.maxIdleTime.getD ⟨0⟩) ++ " must be > 0") ++
  errorIf (p.maxConnectedTime.any F64.nonPos)
    ("datasource " ++ q ++ ": maxConnected for pool " ++ lib.fmtG (p.maxConnectedTime.getD ⟨0⟩) ++
      " must be > 0")

/-- `Datasource.validate`. -/
def Datasource.validate (d : Datasource) : List ValidationResult :=
  let q := lib.quote d.name
  errorIf (!rxName d.name) ("datasource " ++ q ++ ": invalid name") ++
  d.params.flatMap (fun (k, _) => errorIf (!rxPqParam k)
    ("datasource " ++ q ++ ": invalid param " ++ lib.quote k)) ++
  warnIf (d.timeout.any F64.nonPos)
    ("datasource " ++ q ++ ": timeout " ++ lib.fmtG (d.timeout.getD ⟨0⟩) ++ " is <=0, will be ignored") ++
  errorIf (!d.role.isEmpty ∧ !rxPgChan d.role) ("datasource " ++ q ++ ": invalid role " ++ lib.quote d.role) ++
  errorIf (!d.sslCert.isEmpty ∧ !lib.fileExists d.sslCert)
    ("datasource " ++ q ++ ": sslcert file " ++ lib.quote d.sslCert ++ " does not exist") ++
  errorIf (!d.sslKey.isEmpty ∧ !lib.fileExists d.sslKey)
    ("datasource " ++ q ++ ": sslkey file " ++ lib.quote d.sslKey ++ " does not exist") ++
  errorIf (!d.sslRootCert.isEmpty ∧ !lib.fileExists d.sslRootCert)
    ("datasource " ++ q ++ ": sslrootcert file " ++ lib.quote d.sslRootCert ++ " does not exist") ++
  match d.pool with
  | some p => p.validate lib d.name
  | none => []

/-- `Job.validate(ds)`. -/
def Job.validate (j : Job) (ds : List Datasource) : List ValidationResult :=
  let q := lib.quote j.name
  errorIf (!rxName j.name) ("job " ++ q ++ ": invalid name") ++
  errorIf (j.type ∉ ["exec", "javascript"])
    ("job " ++ q ++ ": invalid type " ++ lib.quote j.type ++ ", must be one of 'exec' or 'javascript'") ++
  (match lib.cronError j.schedule with
    | some e => errorIf true ("job " ++ q ++ ": invalid cron schedule: " ++ e)
    | none => []) ++
  errorIf (j.type = "exec" ∧ !found ds j.datasource)
    ("job " ++ q ++ ": unknown datasource " ++ lib.quote j.datasource) ++
  errorIf (isBlank j.script) ("job " ++ q ++ ": invalid script: empty") ++
  (match j.txOptions with
    | some tx => tx.validate lib ("job " ++ q ++ ":")
    | none => []) ++
  warnIf (j.timeout.any F64.nonPos)
    ("job " ++ q ++ ": timeout " ++ lib.fmtG (j.timeout.getD ⟨0⟩) ++ " is <=0, will be ignored")

/-! ## §3 The whole configuration -/

/-- The `Listen` checks of `APIServerConfig.validate`. -/
def validateListen (listen : String) : List ValidationResult :=
  if listen.isEmpty then [] else
  let l := if rxPort listen then listen else listen ++ ":8080"
  match lib.splitHostPort l with
  | none => errorIf true ("invalid listen specification " ++ lib.quote listen)
  | some (host, port) =>
    match parseInt port with
    | some n =>
      if n.val ≤ 0 ∨ 65535 ≤ n.val then errorIf true ("invalid listen specification: bad port " ++ lib.quote port)
      else errorIf (!host.isEmpty ∧ !lib.parseIP host)
        ("invalid listen specification: bad IP " ++ lib.quote host)
    | none => errorIf true ("invalid listen specification: bad port " ++ lib.quote port)

/-- `APIServerConfig.validate`. -/
def APIServerConfig.validate (c : APIServerConfig) : List ValidationResult :=
  let epURIs := counts (c.endpoints.map (·.uri))
  let sURIs := counts (c.streams.map (·.uri))
  (if !lib.semverIsValid ("v" ++ c.version) then
      errorIf true ("invalid schema version " ++ lib.quote c.version ++ ": must be semver")
    else errorIf (lib.semverCanonical ("v" ++ c.version) ≠ "v1.0.0")
      ("incompatible schema version " ++ lib.quote c.version)) ++
  validateListen lib c.listen ++
  errorIf (!c.commonPrefix.isEmpty ∧ !rxPrefix c.commonPrefix)
    ("invalid common prefix " ++ lib.quote c.commonPrefix) ++
  (match c.cors with
    | some cors => cors.validate lib
    | none => []) ++
  c.endpoints.flatMap (·.validate lib c.datasources) ++
  dupErrors (c.endpoints.map (·.uri)) (fun u n => toString n ++ " endpoints with same URI " ++ lib.quote u) ++
  c.streams.flatMap (·.validate lib c.datasources) ++
  dupErrors (c.streams.map (·.uri)) (fun u n => toString n ++ " streams with same URI " ++ lib.quote u) ++
  epURIs.flatMap (fun p =>
    let sc := (sURIs.lookup p.1).getD 0
    errorIf (0 < sc)
      (toString p.2 ++ " endpoint and " ++ toString sc ++ " stream with same URI " ++ lib.quote p.1)) ++
  c.jobs.flatMap (·.validate lib c.datasources) ++
  dupErrors (c.jobs.map (·.name)) (fun n k => toString k ++ " jobs named " ++ lib.quote n) ++
  c.datasources.flatMap (·.validate lib) ++
  dupErrors (c.datasources.map (·.name)) (fun n k => toString k ++ " datasources named " ++ lib.quote n)

/-- `c.IsValid() == nil`. -/
def APIServerConfig.isValid (c : APIServerConfig) : Bool := noErrors (c.validate lib)

end Validate

end RapidRows.Config
