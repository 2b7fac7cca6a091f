import RapidRows.Float.Parse
import Mathlib.Data.List.Dedup

/-!
# The configuration

`APIServerConfig` and its parts (`model.go`), with the fields that validation,
parameter handling and `Start` read; `ValidationResult` and `IsValid`.

A Go pointer field is an `Option`; a Go map of datasource parameters is the
list of its keys and values, each key once; `Enum` holds values of any
dynamic type.
-/

namespace RapidRows.Config

/-- `TxOptions`. -/
structure TxOptions where
  access : String
  isoLevel : String

/-- `Param`. -/
structure Param where
  name : String
  /-- `In`: `query`, `path` or `body`. -/
  «in» : String
  required : Bool
  type : String
  enum : List Value
  minimum : Option F64
  maximum : Option F64
  maxLength : Option Int
  pattern : String
  minItems : Option Int
  maxItems : Option Int
  elemType : String

/-- `Endpoint`. -/
structure Endpoint where
  uri : String
  methods : List String
  params : List Param
  implType : String
  datasource : String
  script : String
  txOptions : Option TxOptions
  timeout : Option F64
  cache : Option F64

/-- `Stream`. -/
structure Stream where
  uri : String
  type : String
  channel : String
  datasource : String

/-- `CORS`. -/
structure CORS where
  allowedOrigins : List String
  allowedMethods : List String
  maxAge : Option Int

/-- `ConnPool`. -/
structure ConnPool where
  minConns : Option Int
  maxConns : Option Int
  maxIdleTime : Option F64
  maxConnectedTime : Option F64
  /-- `Lazy`: connect on first demand, not at startup. -/
  lazy : Bool

/-- `Datasource`. -/
structure Datasource where
  name : String
  params : List (String × String)
  timeout : Option F64
  role : String
  sslCert : String
  sslKey : String
  sslRootCert : String
  pool : Option ConnPool

/-- `Job`. -/
structure Job where
  name : String
  type : String
  schedule : String
  datasource : String
  script : String
  txOptions : Option TxOptions
  timeout : Option F64

/-- `APIServerConfig`. -/
structure APIServerConfig where
  version : String
  listen : String
  commonPrefix : String
  cors : Option CORS
  endpoints : List Endpoint
  streams : List Stream
  jobs : List Job
  datasources : List Datasource

/-- `ValidationResult`. -/
structure ValidationResult where
  warn : Bool
  message : String

/-- `addError(r, msg)`, when `bad`. -/
def errorIf (bad : Bool) (msg : String) : List ValidationResult :=
  if bad then [⟨false, msg⟩] else []

/-- `addWarn(r, msg)`, when `bad`. -/
def warnIf (bad : Bool) (msg : String) : List ValidationResult :=
  if bad then [⟨true, msg⟩] else []

/-- `IsValid() == nil`: no result is an error. -/
def noErrors (r : List ValidationResult) : Bool := r.all (·.warn)

@[simp] theorem noErrors_append (a b : List ValidationResult) :
    noErrors (a ++ b) = (noErrors a && noErrors b) := List.all_append

@[simp] theorem noErrors_flatMap {α : Type} (l : List α) (f : α → List ValidationResult) :
    noErrors (l.flatMap f) = l.all fun a => noErrors (f a) := by
  induction l with
  | nil => rfl
  | cons a l ih => simp only [List.flatMap_cons, noErrors_append, ih, List.all_cons]

@[simp] theorem noErrors_errorIf (bad : Bool) (msg : String) : noErrors (errorIf bad msg) = !bad := by
  cases bad <;> rfl

@[simp] theorem noErrors_warnIf (bad : Bool) (msg : String) : noErrors (warnIf bad msg) = true := by
  cases bad <;> rfl

/-- The number of times each key occurs, each key once: the count maps of
`validate`, whose `range` order Go leaves unspecified. -/
def counts (keys : List String) : List (String × Nat) :=
  keys.dedup.map fun k => (k, keys.count k)

theorem mem_counts {keys : List String} {k : String} {n : Nat} :
    (k, n) ∈ counts keys ↔ k ∈ keys ∧ n = keys.count k := by
  simp only [counts, List.mem_map, List.mem_dedup, Prod.mk.injEq]
  exact ⟨fun ⟨a, ha, hk, hn⟩ => hk ▸ ⟨ha, hn.symm⟩, fun ⟨hk, hn⟩ => ⟨k, hk, rfl, hn.symm⟩⟩

theorem lookup_map_pair {β : Type} (f : String → β) (k : String) (l : List String) :
    (l.map fun a => (a, f a)).lookup k = if k ∈ l then some (f k) else none := by
  induction l with
  | nil => rfl
  | cons a l ih =>
    by_cases hk : k = a
    · subst hk; simp
    · have : (k == a) = false := beq_false_of_ne hk
      simp [List.lookup_cons, hk, ih, this]

/-- A map's lookup: `m[k]` is the count of `k`. -/
theorem lookup_counts (keys : List String) (k : String) :
    (counts keys).lookup k = if k ∈ keys then some (keys.count k) else none := by
  simp only [counts, lookup_map_pair, List.mem_dedup]

end RapidRows.Config
