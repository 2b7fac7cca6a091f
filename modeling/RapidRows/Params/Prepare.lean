import RapidRows.Config.Validate

/-!
# `prepareParams`: what the checks find in `pinfo`

`prepareParams` (`server_test.go`) compiles each parameter's pattern and coerces
its enum to one typed slice, and stores the result in `pinfo` under the key
`URI#name`, the later store winning. The checks assert the slice's type
without a test, so they rely on two things. The entry under a parameter's key
must be its own (`prepareParams_key`). The slice must have the parameter's
type (`prepareEnum_fits`).

`pinfo` is a `sync.Map`, modelled as a function from keys; the enum slice is
a Go `any`, a `Value` that is `nil`, `[]string`, `[]int64` or `[]float64`.
-/

namespace RapidRows.Params

open Config

/-- `paramInfo`: the compiled pattern `^pattern$`, by its source, and the enum slice. -/
structure ParamInfo where
  rx : Option String
  enum : Value

/-- `a.pinfo`. -/
def PInfo := String → Option ParamInfo

/-- `pinfo.Store(k, info)`. -/
def PInfo.store (m : PInfo) (k : String) (info : ParamInfo) : PInfo :=
  fun k' => if k' = k then some info else m k'

/-- The key of a parameter in `pinfo`: `ep.URI+"#"+p.Name`. -/
def paramKey (ep : Endpoint) (p : Param) : String := ep.uri ++ "#" ++ p.name

theorem append_sep_inj {x : Char} {a b c d : List Char} (ha : x ∉ a) (hc : x ∉ c)
    (h : a ++ x :: b = c ++ x :: d) : a = c ∧ b = d := by
  induction a generalizing c with
  | nil =>
    cases c with
    | nil => simpa using h
    | cons y c => simp only [List.nil_append, List.cons_append, List.cons.injEq] at h; simp [h.1] at hc
  | cons y a ih =>
    cases c with
    | nil => simp only [List.nil_append, List.cons_append, List.cons.injEq] at h; simp [h.1] at ha
    | cons z c =>
      simp only [List.cons_append, List.cons.injEq] at h
      obtain ⟨rfl, h⟩ := h
      have := ih (fun h' => ha (List.mem_cons_of_mem _ h')) (fun h' => hc (List.mem_cons_of_mem _ h')) h
      exact ⟨by rw [this.1], this.2⟩

/-- **Keys are unique** when URIs have no `#`: a key gives back the URI and the name. -/
theorem paramKey_inj {ep ep' : Endpoint} {p p' : Param} (hu : '#' ∉ ep.uri.data) (hu' : '#' ∉ ep'.uri.data)
    (h : paramKey ep p = paramKey ep' p') : ep.uri = ep'.uri ∧ p.name = p'.name := by
  have h := congrArg String.data h
  simp only [paramKey, String.data_append] at h
  have := append_sep_inj hu hu' (by simpa using h)
  exact ⟨String.ext this.1, String.ext this.2⟩

/-! ## §1 One parameter -/

/-- The `"string"` case of the enum loop. -/
def enumString : Value → Option String
  | .string s => some s
  | _ => none

/-- The `"integer"` case of the enum loop. -/
def enumInt : Value → Option I64
  | .int64 i => some i
  | .uint64 n => some (I64.ofUInt64 n)
  | .float64 f => float2int f
  | .string s => parseInt s
  | _ => none

/-- The `"number"` case of the enum loop. -/
def enumFloat : Value → Option F64
  | .int64 i => some (F64.ofInt64 i)
  | .uint64 n => some (F64.ofUInt64 n)
  | .float64 f => some f
  | .string s => parseFloat s
  | _ => none

/-- `info.enum`: the first non-empty slice of the entries that coerce. -/
def prepareEnum (p : Param) : Value :=
  if !p.enum.isEmpty ∧ p.type ∈ ["string", "integer", "number"] then
    let sa := if p.type = "string" then p.enum.filterMap enumString else []
    let ia := if p.type = "integer" then p.enum.filterMap enumInt else []
    let na := if p.type = "number" then p.enum.filterMap enumFloat else []
    if !sa.isEmpty then .strings sa
    else if !ia.isEmpty then .int64s ia
    else if !na.isEmpty then .float64s na
    else .nil
  else .nil

/-- The `paramInfo` of a parameter. -/
def prepareInfo (lib : Lib) (p : Param) : ParamInfo where
  rx := if !p.pattern.isEmpty && lib.compiles ("^" ++ p.pattern ++ "$") then some ("^" ++ p.pattern ++ "$")
    else none
  enum := prepareEnum p

/-- `info.rx != nil || info.enum != nil`. -/
def ParamInfo.stored (info : ParamInfo) : Bool := info.rx.isSome || info.enum != .nil

/-- `prepareParams`. -/
def prepareParams (lib : Lib) (eps : List Endpoint) : PInfo :=
  eps.foldl (fun m ep => ep.params.foldl (fun m p =>
    let info := prepareInfo lib p
    if info.stored then m.store (paramKey ep p) info else m) m) fun _ => none

/-! ## §2 The stores -/

/-- One store of the loop, for an entry of a key and its info. -/
def storeEntry (m : PInfo) (e : String × ParamInfo) : PInfo :=
  if e.2.stored then m.store e.1 e.2 else m

/-- The entries `prepareParams` stores, in order. -/
def entries (lib : Lib) (eps : List Endpoint) : List (String × ParamInfo) :=
  eps.flatMap fun ep => ep.params.map fun p => (paramKey ep p, prepareInfo lib p)

theorem prepareParams_eq (lib : Lib) (eps : List Endpoint) :
    prepareParams lib eps = (entries lib eps).foldl storeEntry fun _ => none := by
  simp only [prepareParams, entries, List.flatMap, List.foldl_flatten, List.foldl_map, storeEntry]

/-- After the stores, a key holds what it held before or a stored entry's info. -/
theorem foldl_storeEntry (l : List (String × ParamInfo)) (m : PInfo) (k : String) :
    (l.foldl storeEntry m) k = m k ∨ ∃ e ∈ l, e.1 = k ∧ (l.foldl storeEntry m) k = some e.2 := by
  induction l generalizing m with
  | nil => exact .inl rfl
  | cons a l ih =>
    rcases ih (storeEntry m a) with h | ⟨e, he, hk, h⟩
    · rw [List.foldl_cons, h]
      by_cases hs : a.2.stored = true ∧ k = a.1
      · exact .inr ⟨a, List.mem_cons_self _ _, hs.2.symm, by simp [storeEntry, PInfo.store, hs]⟩
      · left
        by_cases ha : a.2.stored = true
        · simp [storeEntry, PInfo.store, ha, show k ≠ a.1 from fun h => hs ⟨ha, h⟩]
        · simp [storeEntry, ha]
    · exact .inr ⟨e, List.mem_cons_of_mem _ he, hk, h⟩

/-- A stored entry leaves some entry of its key in the map. -/
theorem foldl_storeEntry_of_mem {l : List (String × ParamInfo)} {e : String × ParamInfo}
    (he : e ∈ l) (hs : e.2.stored = true) (m : PInfo) :
    ∃ e' ∈ l, e'.1 = e.1 ∧ (l.foldl storeEntry m) e.1 = some e'.2 := by
  induction l generalizing m with
  | nil => cases he
  | cons a l ih =>
    rcases List.mem_cons.1 he with rfl | he
    · rcases foldl_storeEntry l (storeEntry m e) e.1 with h | ⟨e', he', hk, h⟩
      · exact ⟨e, List.mem_cons_self _ _, rfl, by rw [List.foldl_cons, h]; simp [storeEntry, PInfo.store, hs]⟩
      · exact ⟨e', List.mem_cons_of_mem _ he', hk, h⟩
    · obtain ⟨e', he', hk, h⟩ := ih he (storeEntry m a)
      exact ⟨e', List.mem_cons_of_mem _ he', hk, h⟩

/-- **The entry under a parameter's key.** When no two parameters share a key,
a parameter whose info is stored finds its own info under its key. -/
theorem prepareParams_key {lib : Lib} {eps : List Endpoint} {ep : Endpoint} {p : Param}
    (hep : ep ∈ eps) (hp : p ∈ ep.params) (hs : (prepareInfo lib p).stored = true)
    (huniq : ∀ ep' ∈ eps, ∀ p' ∈ ep'.params, paramKey ep' p' = paramKey ep p → p' = p) :
    prepareParams lib eps (paramKey ep p) = some (prepareInfo lib p) := by
  have he : (paramKey ep p, prepareInfo lib p) ∈ entries lib eps :=
    List.mem_flatMap.2 ⟨ep, hep, List.mem_map.2 ⟨p, hp, rfl⟩⟩
  obtain ⟨e', he', hk, h⟩ := foldl_storeEntry_of_mem he hs fun _ => none
  obtain ⟨ep', hep', he'⟩ := List.mem_flatMap.1 he'
  obtain ⟨p', hp', rfl⟩ := List.mem_map.1 he'
  rw [prepareParams_eq, h, huniq ep' hep' p' hp' hk]

/-! ## §3 The enum slice -/

/-- The slice type a check asserts for a parameter's type: `checkString`
asserts `[]string`, `checkInteger` `[]int64`, `checkFloat` `[]float64`. -/
def enumFits (type : String) : Value → Bool
  | .strings _ => type = "string"
  | .int64s _ => type = "integer"
  | .float64s _ => type = "number"
  | _ => false

/-- **`Param.validate` and `prepareParams` agree on an entry**: an entry that
passes its check coerces to the parameter's type. -/
theorem validateEnumEntry_coerces {lib : Lib} {p : Param} {pfx : String} {v : Value}
    (h : noErrors (p.validateEnumEntry lib pfx v) = true) :
    (p.type = "string" → (enumString v).isSome) ∧ (p.type = "integer" → (enumInt v).isSome) ∧
      (p.type = "number" → (enumFloat v).isSome) := by
  unfold Param.validateEnumEntry at h
  split_ifs at h with hs hi hn <;> cases v <;> simp_all [enumString, enumInt, enumFloat]

/-- **The enum slice has the parameter's type** once some entry coerces. -/
theorem prepareEnum_fits {p : Param} (ht : p.type ∈ ["string", "integer", "number"])
    (hv : ∃ v ∈ p.enum, (p.type = "string" → (enumString v).isSome) ∧
      (p.type = "integer" → (enumInt v).isSome) ∧ (p.type = "number" → (enumFloat v).isSome)) :
    enumFits p.type (prepareEnum p) = true := by
  obtain ⟨v, hv, hs, hi, hf⟩ := hv
  have hne : p.enum.isEmpty = false := List.isEmpty_eq_false_iff_exists_mem.2 ⟨v, hv⟩
  have nonempty {α : Type} {f : Value → Option α} (h : (f v).isSome) : (p.enum.filterMap f).isEmpty = false := by
    obtain ⟨a, ha⟩ := Option.isSome_iff_exists.1 h
    exact List.isEmpty_eq_false_iff_exists_mem.2 ⟨a, List.mem_filterMap.2 ⟨v, hv, ha⟩⟩
  simp only [List.mem_cons, List.mem_singleton, List.not_mem_nil, or_false] at ht
  rcases ht with h | h | h
  all_goals simp only [prepareEnum, h, hne, ite_true, ite_false, String.reduceEq, List.isEmpty_nil]
  · simp only [nonempty (hs h)]; rfl
  · simp only [nonempty (hi h)]; rfl
  · simp only [nonempty (hf h)]; rfl

end RapidRows.Params
