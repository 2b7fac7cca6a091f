import RapidRows.Config.Validate

/-!
# What `IsValid` guarantees about names

A configuration that `IsValid` accepts names its parts without ambiguity
(`valid_config_well_named`). Endpoint URIs, stream URIs, job names, datasource
names and each endpoint's parameter names are distinct. No URI serves both an
endpoint and a stream. Every datasource reference that is used names exactly
one datasource.

Each part's `validate` contributes one fact (`Endpoint.validate_ok`,
`Stream.validate_ok`, `Job.validate_ok`); the count-map loops give
distinctness (`noErrors_dupErrors`). None of it depends on what the library
functions of `Lib` return.
-/

namespace RapidRows.Config

/-! ## §1 The loops -/

theorem found_iff {ds : List Datasource} {n : String} : found ds n = true ↔ n ∈ ds.map (·.name) := by
  simp only [found, List.any_eq_true, beq_iff_eq, List.mem_map]

/-- **The count-map loop reports exactly the repeats.** -/
theorem noErrors_dupErrors (keys : List String) (msg : String → Nat → String) :
    noErrors (dupErrors keys msg) = true ↔ keys.Nodup := by
  simp only [dupErrors, noErrors_flatMap, noErrors_errorIf, List.all_eq_true, Bool.not_eq_true',
    decide_eq_false_iff_not, not_lt, List.nodup_iff_count_le_one]
  constructor
  · intro h k
    by_cases hk : k ∈ keys
    · exact h (k, keys.count k) (mem_counts.2 ⟨hk, rfl⟩)
    · rw [List.count_eq_zero_of_not_mem hk]; omega
  · rintro h ⟨k, n⟩ hp
    obtain ⟨-, rfl⟩ := mem_counts.1 hp
    exact h k

/-! ## §2 The parts -/

section Parts

variable {lib : Lib} {ds : List Datasource}

/-- A parameter without errors has a valid name and, when it has an enum, a
type that allows one and entries that each pass their check. -/
theorem Param.validate_ok {p : Param} {u : String} (h : noErrors (p.validate lib u) = true) :
    rxParamName p.name = true ∧ (p.enum ≠ [] → p.type ∈ ["integer", "number", "string"] ∧
      ∃ pfx, ∀ v ∈ p.enum, noErrors (p.validateEnumEntry lib pfx v) = true) := by
  simp only [Param.validate, noErrors_append, Bool.and_eq_true, and_assoc] at h
  obtain ⟨hname, -, -, -, henum, -⟩ := h
  refine ⟨by simpa using hname, fun hne => ?_⟩
  have hne' : p.enum.isEmpty = false := by simpa using hne
  simp only [hne', Bool.not_false, Bool.false_eq_true, ite_false, noErrors_append, noErrors_flatMap,
    Bool.and_eq_true, List.all_eq_true] at henum
  exact ⟨by simpa using henum.1, _, henum.2⟩

/-- An endpoint without errors has a URI of `rxURI` or `/`, parameters without
errors and with distinct names, and, when it runs SQL, a known datasource. -/
theorem Endpoint.validate_ok {ep : Endpoint} (h : noErrors (ep.validate lib ds) = true) :
    (rxURI ep.uri = true ∨ ep.uri = "/") ∧ (∀ p ∈ ep.params, noErrors (p.validate lib ep.uri) = true) ∧
      (ep.params.map (·.name)).Nodup ∧
      (ep.implType ∈ ["query-json", "query-csv", "exec"] → ep.datasource ∈ ds.map (·.name)) := by
  simp only [Endpoint.validate, noErrors_append, noErrors_flatMap, Bool.and_eq_true, List.all_eq_true,
    and_assoc] at h
  obtain ⟨huri, -, hps, hdup, -, hds, -⟩ := h
  refine ⟨?_, hps, (noErrors_dupErrors _ _).1 hdup, fun hi => found_iff.1 ?_⟩
  · by_cases hu : rxURI ep.uri = true
    · exact .inl hu
    · exact .inr (by simpa [hu] using huri)
  · simpa [hi] using hds

/-- A stream without errors has a known datasource. -/
theorem Stream.validate_ok {s : Stream} (h : noErrors (s.validate lib ds) = true) :
    s.datasource ∈ ds.map (·.name) := by
  simp only [Stream.validate, noErrors_append, Bool.and_eq_true] at h
  exact found_iff.1 (by simpa using h.2)

/-- An `exec` job without errors has a known datasource. -/
theorem Job.validate_ok {j : Job} (h : noErrors (j.validate lib ds) = true) :
    j.type = "exec" → j.datasource ∈ ds.map (·.name) := by
  simp only [Job.validate, noErrors_append, Bool.and_eq_true, and_assoc] at h
  obtain ⟨-, -, -, hds, -⟩ := h
  exact fun hx => found_iff.1 (by simpa [hx] using hds)

end Parts

/-! ## §3 The whole configuration -/

/-- How the parts of a configuration name each other. -/
structure WellNamed (c : APIServerConfig) : Prop where
  /-- No two endpoints share a URI. -/
  endpoint_uris : (c.endpoints.map (·.uri)).Nodup
  /-- No two streams share a URI. -/
  stream_uris : (c.streams.map (·.uri)).Nodup
  /-- No URI is both an endpoint's and a stream's. -/
  uris_disjoint : ∀ e ∈ c.endpoints, ∀ s ∈ c.streams, e.uri ≠ s.uri
  /-- No two jobs share a name. -/
  job_names : (c.jobs.map (·.name)).Nodup
  /-- No two datasources share a name. -/
  datasource_names : (c.datasources.map (·.name)).Nodup
  /-- No two parameters of an endpoint share a name. -/
  param_names : ∀ e ∈ c.endpoints, (e.params.map (·.name)).Nodup
  /-- An endpoint that runs SQL names exactly one datasource. -/
  endpoint_datasource : ∀ e ∈ c.endpoints, e.implType ∈ ["query-json", "query-csv", "exec"] →
    (c.datasources.map (·.name)).count e.datasource = 1
  /-- Every stream names exactly one datasource. -/
  stream_datasource : ∀ s ∈ c.streams, (c.datasources.map (·.name)).count s.datasource = 1
  /-- An `exec` job names exactly one datasource. -/
  job_datasource : ∀ j ∈ c.jobs, j.type = "exec" → (c.datasources.map (·.name)).count j.datasource = 1

/-- The cross check of endpoint and stream URIs, once no error comes of it. -/
theorem disjoint_of_cross {a b : List String} {msg : String × Nat → String}
    (h : ∀ p ∈ counts a, noErrors (errorIf (0 < ((counts b).lookup p.1).getD 0) (msg p)) = true) :
    ∀ u ∈ a, u ∉ b := by
  intro u hu hb
  have := h (u, a.count u) (mem_counts.2 ⟨hu, rfl⟩)
  simp only [lookup_counts, if_pos hb, Option.getD_some, noErrors_errorIf, List.count_pos_iff.2 hb,
    decide_True, Bool.not_true] at this
  exact Bool.false_ne_true this

/-- What `APIServerConfig.validate` without errors says of each part and of
the names. -/
theorem APIServerConfig.validate_ok {lib : Lib} {c : APIServerConfig} (h : c.isValid lib = true) :
    (∀ e ∈ c.endpoints, noErrors (e.validate lib c.datasources) = true) ∧
    (∀ s ∈ c.streams, noErrors (s.validate lib c.datasources) = true) ∧
    (∀ j ∈ c.jobs, noErrors (j.validate lib c.datasources) = true) ∧
    (c.endpoints.map (·.uri)).Nodup ∧ (c.streams.map (·.uri)).Nodup ∧
    (∀ e ∈ c.endpoints, ∀ s ∈ c.streams, e.uri ≠ s.uri) ∧
    (c.jobs.map (·.name)).Nodup ∧ (c.datasources.map (·.name)).Nodup := by
  simp only [APIServerConfig.isValid, APIServerConfig.validate, noErrors_append, Bool.and_eq_true,
    noErrors_flatMap, List.all_eq_true, and_assoc] at h
  obtain ⟨-, -, -, -, heps, hepu, hss, hsu, hcross, hjs, hju, -, hdu⟩ := h
  exact ⟨heps, hss, hjs, (noErrors_dupErrors _ _).1 hepu, (noErrors_dupErrors _ _).1 hsu,
    fun e he s hs heq =>
      disjoint_of_cross hcross e.uri (List.mem_map_of_mem _ he) (by rw [heq]; exact List.mem_map_of_mem _ hs),
    (noErrors_dupErrors _ _).1 hju, (noErrors_dupErrors _ _).1 hdu⟩

/-- **A valid configuration is well named.** -/
theorem valid_config_well_named (lib : Lib) (c : APIServerConfig) (h : c.isValid lib = true) :
    WellNamed c := by
  obtain ⟨heps, hss, hjs, hepu, hsu, hdisj, hju, hdn⟩ := APIServerConfig.validate_ok h
  have one {n} (hn : n ∈ c.datasources.map (·.name)) : (c.datasources.map (·.name)).count n = 1 :=
    List.count_eq_one_of_mem hdn hn
  exact {
    endpoint_uris := hepu
    stream_uris := hsu
    uris_disjoint := hdisj
    job_names := hju
    datasource_names := hdn
    param_names := fun e he => (Endpoint.validate_ok (heps e he)).2.2.1
    endpoint_datasource := fun e he hi => one ((Endpoint.validate_ok (heps e he)).2.2.2 hi)
    stream_datasource := fun s hs => one (Stream.validate_ok (hss s hs))
    job_datasource := fun j hj hx => one (Job.validate_ok (hjs j hj) hx) }

/-- Library functions that accept everything they are given. -/
def acceptingLib : Lib where
  semverIsValid _ := true
  semverCanonical _ := "v1.0.0"
  splitHostPort _ := some ("", "8080")
  parseIP _ := true
  jsonValid _ := true
  compiles _ := true
  matchString _ _ := true
  cronError _ := none
  fileExists _ := true
  toLower := id
  quote := id
  fmtG _ := ""
  fmtV _ := ""
  fmtT _ := ""

/-- A required integer path parameter with minimum `0`. -/
def idParam : Param := ⟨"id", "path", true, "integer", [], some ⟨0⟩, none, none, "", none, none, ""⟩

/-- An endpoint with an integer path parameter and a string query parameter
with an enum. -/
def sampleEndpoint : Endpoint where
  uri := "/items/\x7bid\x7d"
  methods := ["GET"]
  params :=
    [idParam, ⟨"sort", "query", false, "string", [.string "asc", .string "desc"], none, none, none, "", none, none, ""⟩]
  implType := "query-json"
  datasource := "db"
  script := "select 1"
  txOptions := none
  timeout := none
  cache := none

/-- One datasource, the sample endpoint querying it, and a stream and an
`exec` job on it. -/
def sampleConfig : APIServerConfig where
  version := "1.0.0"
  listen := ":8080"
  commonPrefix := "/api"
  cors := none
  endpoints := [sampleEndpoint]
  streams := [⟨"/events", "websocket", "chan", "db"⟩]
  jobs := [⟨"nightly", "exec", "@daily", "db", "vacuum", none, none⟩]
  datasources := [⟨"db", [("sslmode", "disable")], none, "", "", "", "", none⟩]

theorem sampleConfig_well_named :
    sampleConfig.isValid acceptingLib = true ∧ WellNamed sampleConfig :=
  ⟨by decide, valid_config_well_named acceptingLib sampleConfig (by decide)⟩

end RapidRows.Config
