import RapidRows.Params.Check
import RapidRows.Config.Sound

/-!
# `getParams` on a valid configuration

`getParams` (`server_test.go`) reads each parameter of an endpoint from the path,
the query string or the body, and passes it through `isSuitable`. On a
configuration that `IsValid` accepts, after `prepareParams`, it never panics,
whatever the request. Every slot it returns is `nil` or has the Go type that
the parameter's type and `elemType` fix (`getParams_safe`).

Two agreements carry this. `Param.validate` accepts an enum entry exactly
when `prepareParams` coerces it (`validateEnumEntry_coerces`). URIs have no
`#`, so the keys `URI#name` are unique (`paramKey_inj`). Together they make
every parameter `Ready` (`ready_of_valid`). The boolean special case asserts
`[]string` only on values read from the query string or a form, which are
`[]string` (`boolSpecial_ne_panic`).

A request is what `getParams` reads of it. The body is given decoded: the
JSON object `getJSON` produces, or the form `ParseForm` produces, after the
`Content-Encoding` is undone.
-/

namespace RapidRows.Params

open Config

/-- `url.Values`. -/
abbrev Values := List (String × List String)

/-- A decoded JSON object, `map[string]any`. -/
abbrev JsonObject := List (String × Value)

/-- What `getParams` reads of a request. -/
structure Request where
  method : String
  /-- The `Content-Encoding` header. -/
  contentEncoding : String
  /-- The `Content-Type` header. -/
  contentType : String
  /-- `req.URL.Query()`. -/
  query : Values
  /-- `chi.URLParam(req, key)`. -/
  pathParam : String → String
  /-- The error of `gzip.NewReader` on the body, if any. -/
  gzipError : Option String
  /-- What `getJSON` leaves in `jsonData`: `none` on an error or for `null`. -/
  json : Option JsonObject
  /-- `req.PostForm`, or `none` when `req.ParseForm()` fails. -/
  form : Option Values

/-- `getCT`: the `Content-Type` up to a `;` that is not its first character. -/
def getCT (h : String) : String :=
  let pre := h.data.takeWhile (· != ';')
  if pre.length < h.data.length ∧ 0 < pre.length then ⟨pre⟩ else h

/-- The maps `getParams` looks parameters up in. -/
structure Sources where
  jsonData : Option JsonObject
  formData : Option Values
  urlData : Option Values

/-- The first part of `getParams`: the query string of a `GET`, or the decoded body. -/
def readSources (req : Request) : Except String Sources :=
  if req.method = "GET" then .ok ⟨none, none, some req.query⟩
  else
    match req.contentEncoding, req.gzipError with
    | "gzip", some e => .error ("failed to initialize gzip reader: " ++ e)
    | _, _ =>
      let ct := getCT req.contentType
      if ct = "application/json" then .ok ⟨req.json, none, none⟩
      else if ct = "application/x-www-form-urlencoded" then .ok ⟨none, req.form, none⟩
      else .ok ⟨none, none, none⟩

/-- `getParam(in, key)`. -/
def Sources.getParam (src : Sources) (req : Request) (loc key : String) : Option Value :=
  if loc = "path" then
    let v := req.pathParam key
    if v ≠ "" then some (.string v) else none
  else if loc = "query" then (src.urlData.bind (·.lookup key)).map .strings
  else if loc = "body" then
    match src.jsonData with
    | some j => j.lookup key
    | none => (src.formData.bind (·.lookup key)).map .strings
  else none

/-- The special case of `getParams`: a boolean of the query string or a form
given with an empty value is `true`. -/
def boolSpecial (src : Sources) (p : Param) (v : Value) : Ret Value :=
  if p.type = "boolean" ∧ (p.«in» = "query" ∨ (p.«in» = "body" ∧ src.jsonData = none ∧ src.formData.isSome))
  then (asStrings v).bind fun sa => if sa = [""] then .ok (.bool true) else .ok v
  else .ok v

section GetParams

variable (lib : Lib) (pinfo : PInfo) (ep : Endpoint) (src : Sources) (req : Request)

/-- The loop of `getParams` over the parameters. -/
def paramsLoop : List Param → Ret (List Value)
  | [] => .ok []
  | p :: ps =>
    match src.getParam req p.«in» p.name with
    | none =>
      if p.required then .error ("param " ++ lib.quote p.name ++ ": value required but not supplied")
      else (paramsLoop ps).map (.nil :: ·)
    | some v =>
      (boolSpecial src p v).bind fun v =>
        match isSuitable lib pinfo ep p v with
        | .ok v2 => (paramsLoop ps).map (v2 :: ·)
        | .error e => .error ("param " ++ lib.quote p.name ++ ": invalid value: " ++ e)
        | .panic => .panic

/-- `getParams`. -/
def getParams : Ret (List Value) :=
  match readSources req with
  | .error e => .error e
  | .ok src => paramsLoop lib pinfo ep src req ep.params

/-! ## §1 One parameter -/

/-- A value of the query string or a form is a `[]string`. -/
theorem getParam_strings {loc key : String} {v : Value} (h : src.getParam req loc key = some v)
    (hloc : loc = "query" ∨ (loc = "body" ∧ src.jsonData = none)) : ∃ sa, v = .strings sa := by
  unfold Sources.getParam at h
  rcases hloc with rfl | ⟨rfl, hj⟩
  · simp only [String.reduceEq, ite_false, ite_true, Option.map_eq_some'] at h
    obtain ⟨sa, -, rfl⟩ := h
    exact ⟨sa, rfl⟩
  · simp only [String.reduceEq, ite_false, ite_true, hj, Option.map_eq_some'] at h
    obtain ⟨sa, -, rfl⟩ := h
    exact ⟨sa, rfl⟩

/-- **The boolean special case does not panic**: it asserts only on values of
the query string or a form. -/
theorem boolSpecial_ne_panic {p : Param} {v : Value} (h : src.getParam req p.«in» p.name = some v) :
    boolSpecial src p v ≠ .panic := by
  unfold boolSpecial
  split_ifs with hs
  · obtain ⟨sa, rfl⟩ := getParam_strings src req h (hs.2.imp id fun h => ⟨h.1, h.2.1⟩)
    simp only [asStrings, Ret.bind_ok]
    split_ifs <;> simp
  · simp

/-! ## §2 The loop -/

/-- **The loop does not panic, and fills each slot with `nil` or a value that
fits**, when every parameter is ready. -/
theorem paramsLoop_safe (ps : List Param) (hr : ∀ p ∈ ps, Ready pinfo ep p) :
    paramsLoop lib pinfo ep src req ps ≠ .panic ∧
      ∀ out, paramsLoop lib pinfo ep src req ps = .ok out →
        List.Forall₂ (fun p v => v = .nil ∨ fits p v = true) ps out := by
  induction ps with
  | nil => exact ⟨by simp [paramsLoop], fun out h => by cases h; exact .nil⟩
  | cons p ps ih =>
    obtain ⟨ihp, iho⟩ := ih fun q hq => hr q (List.mem_cons_of_mem _ hq)
    unfold paramsLoop
    split
    · split
      · simp
      · refine ⟨Ret.map_ne_panic ihp, fun out h => ?_⟩
        obtain ⟨rest, hrest, rfl⟩ := Ret.eq_ok_of_map h
        exact .cons (.inl rfl) (iho rest hrest)
    · rename_i v hv
      have hsp := boolSpecial_ne_panic src req hv
      constructor
      · refine Ret.bind_ne_panic hsp fun w => ?_
        have := isSuitable_ne_panic lib pinfo ep p (hr p (List.mem_cons_self _ _)) w
        split
        · exact Ret.map_ne_panic ihp
        · simp
        · contradiction
      · intro out h
        obtain ⟨w, -, h⟩ := Ret.eq_ok_of_bind h
        split at h
        · obtain ⟨rest, hrest, rfl⟩ := Ret.eq_ok_of_map h
          exact .cons (.inr (isSuitable_fits lib pinfo ep p ‹_›)) (iho rest hrest)
        · cases h
        · cases h

end GetParams

/-! ## §3 A valid configuration -/

/-- **A parameter of a valid configuration with an enum finds its own info
under its key** after `prepareParams`, with a slice of its type. -/
theorem prepareParams_of_valid {lib : Lib} {c : APIServerConfig} (hv : c.isValid lib = true)
    {ep : Endpoint} (hep : ep ∈ c.endpoints) {p : Param} (hp : p ∈ ep.params) (hne : p.enum ≠ []) :
    prepareParams lib c.endpoints (paramKey ep p) = some (prepareInfo lib p) ∧
      enumFits p.type (prepareEnum p) = true := by
  obtain ⟨heps, -, -, hepu, -⟩ := APIServerConfig.validate_ok hv
  have hash (e : Endpoint) (he : e ∈ c.endpoints) : '#' ∉ e.uri.data := by
    rcases (Endpoint.validate_ok (heps e he)).1 with h | h
    · exact hash_not_mem_of_rxURI h
    · rw [h]; decide
  obtain ⟨-, hps, hnames, -⟩ := Endpoint.validate_ok (heps ep hep)
  obtain ⟨ht, pfx, hentries⟩ := (Param.validate_ok (hps p hp)).2 hne
  obtain ⟨v, hv⟩ := List.exists_mem_of_ne_nil _ hne
  have hfits : enumFits p.type (prepareEnum p) = true :=
    prepareEnum_fits (by simpa [or_comm, or_left_comm] using ht)
      ⟨v, hv, validateEnumEntry_coerces (hentries v hv)⟩
  have hstored : (prepareInfo lib p).stored = true := by
    simp only [ParamInfo.stored, prepareInfo, Bool.or_eq_true, bne_iff_ne, ne_eq]
    exact .inr fun h => by rw [h] at hfits; cases hfits
  refine ⟨prepareParams_key hep hp hstored fun ep' hep' p' hp' hk => ?_, hfits⟩
  obtain ⟨hu, hn⟩ := paramKey_inj (hash ep' hep') (hash ep hep) hk
  obtain rfl := List.inj_on_of_nodup_map hepu hep' hep hu
  exact List.inj_on_of_nodup_map hnames hp' hp hn

/-- **Every parameter of a valid configuration is ready** after `prepareParams`. -/
theorem ready_of_valid {lib : Lib} {c : APIServerConfig} (hv : c.isValid lib = true)
    {ep : Endpoint} (hep : ep ∈ c.endpoints) {p : Param} (hp : p ∈ ep.params) :
    Ready (prepareParams lib c.endpoints) ep p := by
  refine ⟨fun hne => ⟨_, prepareParams_of_valid hv hep hp hne⟩, fun ha => by_contra fun hne => ?_⟩
  obtain ⟨heps, -⟩ := APIServerConfig.validate_ok hv
  have := (Param.validate_ok ((Endpoint.validate_ok (heps ep hep)).2.1 p hp)).2 hne
  rw [ha] at this
  simp at this

/-- **`getParams` is safe on a valid configuration**: for every endpoint and
every request it does not panic, and each slot it returns is `nil` or has
the Go type of its parameter. -/
theorem getParams_safe (lib : Lib) (c : APIServerConfig) (hv : c.isValid lib = true)
    (ep : Endpoint) (hep : ep ∈ c.endpoints) (req : Request) :
    getParams lib (prepareParams lib c.endpoints) ep req ≠ .panic ∧
      ∀ out, getParams lib (prepareParams lib c.endpoints) ep req = .ok out →
        List.Forall₂ (fun p v => v = .nil ∨ fits p v = true) ep.params out := by
  unfold getParams
  split
  · exact ⟨by simp, fun _ h => by cases h⟩
  · exact paramsLoop_safe lib _ ep _ req ep.params fun p hp => ready_of_valid hv hep hp

/-- A `GET` of `/items/7?sort=asc`. -/
def sampleRequest : Request where
  method := "GET"
  contentEncoding := ""
  contentType := ""
  query := [("sort", ["asc"])]
  pathParam k := if k = "id" then "7" else ""
  gzipError := none
  json := none
  form := none

theorem sampleRequest_safe :
    sampleConfig.isValid acceptingLib = true ∧
      (getParams acceptingLib (prepareParams acceptingLib sampleConfig.endpoints) sampleEndpoint sampleRequest ≠
          .panic ∧
        ∀ out, getParams acceptingLib (prepareParams acceptingLib sampleConfig.endpoints) sampleEndpoint
            sampleRequest = .ok out →
          List.Forall₂ (fun p v => v = .nil ∨ fits p v = true) sampleEndpoint.params out) :=
  ⟨by decide, getParams_safe acceptingLib sampleConfig (by decide) sampleEndpoint (List.mem_singleton_self _)
    sampleRequest⟩

end RapidRows.Params
