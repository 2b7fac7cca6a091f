import RapidRows.Params.GetParams
import RapidRows.Float.Integers

/-!
# What the numeric checks accept

`checkIntegerAny` and `checkFloatAny` (`server_test.go`) read a JSON number, or a
string with `strconv.ParseFloat`; `checkInteger` and `checkFloat` then test
the enum or the bounds. So what they accept is the double nearest the input.

An accepted number is that double: finite unless the string spells an
infinity or NaN, equal to one of the enum's doubles, or within the bounds
that are not NaN (`NumAccepted`). An accepted integer is the integer part of
that double, which must lie within `1e-9` of it, when it is in the range of an
`int64` (`IntAccepted`). An integer string of magnitude at most `2^53` comes
back exactly; above it the string is rounded first.

So the checks accept values other than the ones their input denotes
(`numbers_not_as_denoted`): `"9007199254740993"` is read as
`9007199254740992`; `"1e19"` converts to `math.MinInt64`, which passes a
maximum of `100`; and the string `"NaN"` passes a minimum of `0`, where the
JSON path refuses a NaN.

On a valid configuration, after `prepareParams`, this holds of every integer
or number parameter and of every element of an integer or number array
(`accepted_numbers`).
-/

namespace RapidRows.Params

open Config

/-! ## §1 The shapes -/

/-- The double a numeric check reads from a value: the JSON number, or
`ParseFloat` of the string. -/
def ReadsAs (v : Value) (d : F64) : Prop := v = .float64 d ∨ ∃ s, v = .string s ∧ parseFloat s = some d

/-- What an integer `x` that a check accepted is, for the value `v` it received. -/
structure IntAccepted (p : Param) (v : Value) (x : I64) : Prop where
  /-- The check read a finite double within `1e-9` of its integer part, which
  is `x` when it is in range. -/
  nearest : ∃ d, ReadsAs v d ∧ d.isFinite = true ∧ d.modf.2.abs.lt oneNano = true ∧
    (-2 ^ 63 ≤ d.truncInt → d.truncInt < 2 ^ 63 → x.val = d.truncInt)
  /-- A string that `ParseInt` reads as an integer of magnitude at most `2^53` gives that integer. -/
  exact : ∀ s n, v = .string s → parseInt s = some n → n.val.natAbs ≤ 2 ^ 53 → x = n
  /-- With an enum, `x` is one of its entries as `prepareParams` converts them. -/
  enum : p.enum ≠ [] → ∃ e ∈ p.enum, enumInt e = some x
  /-- Without one, `x` is at least the integer part of a minimum in range. -/
  lower : p.enum = [] → ∀ lo, p.minimum = some lo → lo.isFinite = true → -2 ^ 63 ≤ lo.truncInt →
    lo.truncInt < 2 ^ 63 → lo.truncInt ≤ x.val
  /-- Without one, `x` is at most the integer part of a maximum in range. -/
  upper : p.enum = [] → ∀ hi, p.maximum = some hi → hi.isFinite = true → -2 ^ 63 ≤ hi.truncInt →
    hi.truncInt < 2 ^ 63 → x.val ≤ hi.truncInt

/-- What a number `x` that a check accepted is, for the value `v` it received. -/
structure NumAccepted (p : Param) (v : Value) (x : F64) : Prop where
  /-- `x` is the double the check read. -/
  nearest : ReadsAs v x
  /-- It is finite unless a string spelled an infinity or NaN. -/
  finite : (∀ s, v = .string s → special s.data = none) → x.isFinite = true
  /-- With an enum, `x` equals one of its entries as `prepareParams` converts them. -/
  enum : p.enum ≠ [] → ∃ e ∈ p.enum, ∃ y, enumFloat e = some y ∧ y.beq x = true
  /-- Without one, `x` is at or above a minimum, where neither is NaN. -/
  lower : p.enum = [] → ∀ lo, p.minimum = some lo → lo.isNaN = false → x.isNaN = false → lo.le x = true
  /-- Without one, `x` is at or below a maximum, where neither is NaN. -/
  upper : p.enum = [] → ∀ hi, p.maximum = some hi → hi.isNaN = false → x.isNaN = false → x.le hi = true

/-- What the enum test of a check finds under the parameter's key: the slice
`prepareParams` made of the parameter's enum. -/
def EnumStored (pinfo : PInfo) (ep : Endpoint) (p : Param) : Prop :=
  p.enum ≠ [] → ∃ info, pinfo (paramKey ep p) = some info ∧ info.enum = prepareEnum p

theorem mem_prepareEnum_int64s {p : Param} {ia : List I64} {x : I64} (h : prepareEnum p = .int64s ia)
    (hx : x ∈ ia) : ∃ e ∈ p.enum, enumInt e = some x := by
  unfold prepareEnum at h
  split at h
  · dsimp only at h
    generalize (if p.type = "string" then p.enum.filterMap enumString else []) = sa at h
    generalize hia : (if p.type = "integer" then p.enum.filterMap enumInt else []) = ia' at h
    generalize (if p.type = "number" then p.enum.filterMap enumFloat else []) = na at h
    split_ifs at h
    cases h
    subst hia
    split at hx
    · exact List.mem_filterMap.1 hx
    · cases hx
  · cases h

theorem mem_prepareEnum_float64s {p : Param} {na : List F64} {x : F64} (h : prepareEnum p = .float64s na)
    (hx : x ∈ na) : ∃ e ∈ p.enum, enumFloat e = some x := by
  unfold prepareEnum at h
  split at h
  · dsimp only at h
    generalize (if p.type = "string" then p.enum.filterMap enumString else []) = sa at h
    generalize (if p.type = "integer" then p.enum.filterMap enumInt else []) = ia at h
    generalize hna : (if p.type = "number" then p.enum.filterMap enumFloat else []) = na' at h
    split_ifs at h
    cases h
    subst hna
    split at hx
    · exact List.mem_filterMap.1 hx
    · cases hx
  · cases h

/-! ## §2 The checks -/

section Checks

variable {lib : Lib} {pinfo : PInfo} {ep : Endpoint} {p : Param}

/-- **What `checkInteger` accepts**: the integer itself, in the enum, or within
the bounds as `int64` converts them. -/
theorem checkInteger_ok (hs : EnumStored pinfo ep p) {i x : I64} (h : checkInteger pinfo ep p i = .ok x) :
    x = i ∧ (p.enum ≠ [] → ∃ e ∈ p.enum, enumInt e = some x) ∧
      (p.enum = [] → (∀ lo, p.minimum = some lo → (F64.toInt64 lo).val ≤ x.val) ∧
        ∀ hi, p.maximum = some hi → x.val ≤ (F64.toInt64 hi).val) := by
  unfold checkInteger at h
  split at h
  · rename_i hne
    have hne : p.enum ≠ [] := by simpa using hne
    obtain ⟨info, hi, he⟩ := hs hne
    rw [hi] at h
    cases hq : info.enum <;> simp only [hq, asInt64s, Ret.bind, reduceCtorEq] at h
    split_ifs at h with hmem
    cases h
    exact ⟨rfl, fun _ => mem_prepareEnum_int64s (he ▸ hq) hmem, fun h' => absurd h' hne⟩
  · rename_i hne
    have hne : p.enum = [] := by simpa using hne
    cases hmin : p.minimum <;> cases hmax : p.maximum <;> simp only [hmin, hmax] at h <;>
      (try split_ifs at h) <;> cases h <;> exact ⟨rfl, (absurd hne ·), fun _ => ⟨by simp_all, by simp_all⟩⟩

/-- `checkIntegerAny` passes `checkInteger` the `float2int` of the double it read. -/
theorem checkIntegerAny_ok {v : Value} {x : I64} (h : checkIntegerAny lib pinfo ep p v = .ok x) :
    ∃ d i, ReadsAs v d ∧ float2int d = some i ∧ checkInteger pinfo ep p i = .ok x := by
  unfold checkIntegerAny at h
  split at h
  · split at h
    · rename_i s _ i hi
      obtain ⟨d, hd, hi⟩ := Option.bind_eq_some.1 hi
      exact ⟨d, i, .inr ⟨s, rfl, hd⟩, hi, h⟩
    · cases h
  · split at h
    · exact ⟨_, _, .inl rfl, ‹_›, h⟩
    · cases h
  · cases h

/-- **An integer `checkIntegerAny` accepts has the shape `IntAccepted`.** -/
theorem checkIntegerAny_accepted (hs : EnumStored pinfo ep p) {v : Value} {x : I64}
    (h : checkIntegerAny lib pinfo ep p v = .ok x) : IntAccepted p v x := by
  obtain ⟨d, i, hv, hdi, hc⟩ := checkIntegerAny_ok h
  obtain ⟨rfl, henum, hbounds⟩ := checkInteger_ok hs hc
  obtain ⟨hfin, hfrac, rfl⟩ := F64.float2int_eq hdi
  refine ⟨⟨d, hv, hfin, hfrac, F64.toInt64_val hfin⟩, fun s n hvs hn hn53 => ?_, henum,
    fun he lo hlo hf h1 h2 => F64.toInt64_val hf h1 h2 ▸ (hbounds he).1 lo hlo,
    fun he hi hhi hf h1 h2 => F64.toInt64_val hf h1 h2 ▸ (hbounds he).2 hi hhi⟩
  obtain ⟨d', hd', hn'⟩ := float2int_parseFloat_of_parseInt hn hn53
  rcases hv with hv | ⟨s', hs', hd⟩
  · rw [hvs] at hv; cases hv
  · rw [hvs] at hs'
    cases hs'
    rw [hd] at hd'
    cases hd'
    exact Option.some.inj (hdi.symm.trans hn')

/-- **What `checkFloat` accepts**: the double itself, equal to an entry of the
enum, or not beyond a bound. -/
theorem checkFloat_ok (hs : EnumStored pinfo ep p) {f x : F64} (h : checkFloat lib pinfo ep p f = .ok x) :
    x = f ∧ (p.enum ≠ [] → ∃ e ∈ p.enum, ∃ y, enumFloat e = some y ∧ y.beq x = true) ∧
      (p.enum = [] → (∀ lo, p.minimum = some lo → f.lt lo = false) ∧ ∀ hi, p.maximum = some hi → hi.lt f = false) := by
  unfold checkFloat at h
  split at h
  · rename_i hne
    have hne : p.enum ≠ [] := by simpa using hne
    obtain ⟨info, hi, he⟩ := hs hne
    rw [hi] at h
    cases hq : info.enum <;> simp only [hq, asFloat64s, Ret.bind, reduceCtorEq] at h
    split_ifs at h with hmem
    cases h
    obtain ⟨y, hy, hyx⟩ := List.any_eq_true.1 hmem
    obtain ⟨e, he', hey⟩ := mem_prepareEnum_float64s (he ▸ hq) hy
    exact ⟨rfl, fun _ => ⟨e, he', y, hey, hyx⟩, fun h' => absurd h' hne⟩
  · rename_i hne
    have hne : p.enum = [] := by simpa using hne
    cases hmin : p.minimum <;> cases hmax : p.maximum <;> simp only [hmin, hmax] at h <;>
      (try split_ifs at h) <;> cases h <;> exact ⟨rfl, (absurd hne ·), fun _ => ⟨by simp_all, by simp_all⟩⟩

/-- `checkFloatAny` passes `checkFloat` the double it read, finite if it was a JSON number. -/
theorem checkFloatAny_ok {v : Value} {x : F64} (h : checkFloatAny lib pinfo ep p v = .ok x) :
    ∃ d, ReadsAs v d ∧ (v = .float64 d → d.isFinite = true) ∧ checkFloat lib pinfo ep p d = .ok x := by
  unfold checkFloatAny at h
  split at h
  · split at h
    · rename_i s _ d hd
      exact ⟨d, .inr ⟨s, rfl, hd⟩, (fun hv => nomatch hv), h⟩
    · cases h
  · split_ifs at h with hf
    simp only [Bool.and_eq_true, Bool.not_eq_true'] at hf
    exact ⟨_, .inl rfl, fun _ => F64.isFinite_of_not_isNaN hf.1 hf.2, h⟩
  · cases h

/-- **A number `checkFloatAny` accepts has the shape `NumAccepted`.** -/
theorem checkFloatAny_accepted (hs : EnumStored pinfo ep p) {v : Value} {x : F64}
    (h : checkFloatAny lib pinfo ep p v = .ok x) : NumAccepted p v x := by
  obtain ⟨d, hv, hfin, hc⟩ := checkFloatAny_ok h
  obtain ⟨rfl, henum, hbounds⟩ := checkFloat_ok hs hc
  refine ⟨hv, fun hsp => ?_, henum,
    fun he lo hlo hlon hxn => F64.le_of_lt_eq_false hxn hlon ((hbounds he).1 lo hlo),
    fun he hi hhi hhin hxn => F64.le_of_lt_eq_false hhin hxn ((hbounds he).2 hi hhi)⟩
  rcases hv with hv | ⟨s, rfl, hd⟩
  · exact hfin hv
  · exact F64.parseFloat_finite hd (hsp s rfl)

/-! ## §3 `isSuitable` and `checkArray` -/

/-- The element loop returns what the check returned for each element. -/
theorem checkElems_ok {α : Type} {check : Value → Ret α} {j : Nat} {vs : List Value} {xs : List α}
    (h : checkElems check j vs = .ok xs) : List.Forall₂ (fun v x => check v = .ok x) vs xs := by
  induction vs generalizing j xs with
  | nil => cases h; exact .nil
  | cons v vs ih =>
    unfold checkElems at h
    split at h
    · obtain ⟨rest, hr, rfl⟩ := Ret.eq_ok_of_map h
      exact .cons ‹_› (ih hr)
    · cases h
    · cases h

theorem isSuitable_int64 (hs : EnumStored pinfo ep p) {v : Value} {x : I64}
    (h : isSuitable lib pinfo ep p v = .ok (.int64 x)) : IntAccepted p (scalarArg v) x := by
  have ht : p.type = "integer" := by simpa [fits] using isSuitable_fits lib pinfo ep p h
  unfold isSuitable at h
  rw [if_neg (by rw [ht]; decide), if_pos ht] at h
  obtain ⟨y, hy, hxy⟩ := Ret.eq_ok_of_map h
  cases hxy
  exact checkIntegerAny_accepted hs hy

theorem isSuitable_float64 (hs : EnumStored pinfo ep p) {v : Value} {x : F64}
    (h : isSuitable lib pinfo ep p v = .ok (.float64 x)) : NumAccepted p (scalarArg v) x := by
  have ht : p.type = "number" := by simpa [fits] using isSuitable_fits lib pinfo ep p h
  unfold isSuitable at h
  rw [if_neg (by rw [ht]; decide), if_neg (by rw [ht]; decide), if_pos ht] at h
  obtain ⟨y, hy, hxy⟩ := Ret.eq_ok_of_map h
  cases hxy
  exact checkFloatAny_accepted hs hy

theorem checkArray_int64s (hs : EnumStored pinfo ep p) {vs : List Value} {xs : List I64}
    (h : checkArray lib pinfo ep p vs = .ok (.int64s xs)) : List.Forall₂ (IntAccepted p) vs xs := by
  unfold checkArray at h
  split at h
  · cases h
  · cases h
  · split_ifs at h <;> obtain ⟨ys, hys, hxy⟩ := Ret.eq_ok_of_map h <;> cases hxy
    exact List.Forall₂.imp (fun _ _ => checkIntegerAny_accepted hs) (checkElems_ok hys)

theorem checkArray_float64s (hs : EnumStored pinfo ep p) {vs : List Value} {xs : List F64}
    (h : checkArray lib pinfo ep p vs = .ok (.float64s xs)) : List.Forall₂ (NumAccepted p) vs xs := by
  unfold checkArray at h
  split at h
  · cases h
  · cases h
  · split_ifs at h <;> obtain ⟨ys, hys, hxy⟩ := Ret.eq_ok_of_map h <;> cases hxy
    exact List.Forall₂.imp (fun _ _ => checkFloatAny_accepted hs) (checkElems_ok hys)

end Checks

/-! ## §4 A valid configuration -/

theorem enumStored_of_valid {lib : Lib} {c : APIServerConfig} (hv : c.isValid lib = true)
    {ep : Endpoint} (hep : ep ∈ c.endpoints) {p : Param} (hp : p ∈ ep.params) :
    EnumStored (prepareParams lib c.endpoints) ep p :=
  fun hne => ⟨_, (prepareParams_of_valid hv hep hp hne).1, rfl⟩

/-- **The numbers a valid configuration accepts.** For every parameter of every
endpoint, after `prepareParams`: an integer or a number that `isSuitable`
returns, and each element of an integer or number array that `checkArray`
returns, has the shape `IntAccepted` or `NumAccepted` for the value its
check read. -/
theorem accepted_numbers (lib : Lib) (c : APIServerConfig) (hv : c.isValid lib = true)
    (ep : Endpoint) (hep : ep ∈ c.endpoints) (p : Param) (hp : p ∈ ep.params) :
    (∀ v x, isSuitable lib (prepareParams lib c.endpoints) ep p v = .ok (.int64 x) →
      IntAccepted p (scalarArg v) x) ∧
    (∀ v x, isSuitable lib (prepareParams lib c.endpoints) ep p v = .ok (.float64 x) →
      NumAccepted p (scalarArg v) x) ∧
    (∀ vs xs, checkArray lib (prepareParams lib c.endpoints) ep p vs = .ok (.int64s xs) →
      List.Forall₂ (IntAccepted p) vs xs) ∧
    (∀ vs xs, checkArray lib (prepareParams lib c.endpoints) ep p vs = .ok (.float64s xs) →
      List.Forall₂ (NumAccepted p) vs xs) :=
  have hs := enumStored_of_valid hv hep hp
  ⟨fun _ _ => isSuitable_int64 hs, fun _ _ => isSuitable_float64 hs, fun _ _ => checkArray_int64s hs,
    fun _ _ => checkArray_float64s hs⟩

theorem sample_accepted_numbers :
    sampleConfig.isValid acceptingLib = true ∧
      (∀ v x, isSuitable acceptingLib (prepareParams acceptingLib sampleConfig.endpoints) sampleEndpoint idParam v =
          .ok (.int64 x) → IntAccepted idParam (scalarArg v) x) ∧
      (∀ v x, isSuitable acceptingLib (prepareParams acceptingLib sampleConfig.endpoints) sampleEndpoint idParam v =
          .ok (.float64 x) → NumAccepted idParam (scalarArg v) x) ∧
      (∀ vs xs, checkArray acceptingLib (prepareParams acceptingLib sampleConfig.endpoints) sampleEndpoint idParam vs =
          .ok (.int64s xs) → List.Forall₂ (IntAccepted idParam) vs xs) ∧
      (∀ vs xs, checkArray acceptingLib (prepareParams acceptingLib sampleConfig.endpoints) sampleEndpoint idParam vs =
          .ok (.float64s xs) → List.Forall₂ (NumAccepted idParam) vs xs) :=
  ⟨by decide, accepted_numbers acceptingLib sampleConfig (by decide) sampleEndpoint (List.mem_singleton_self _)
    idParam (List.mem_cons_self _ _)⟩

/-- `count`: an integer query parameter of at most `100`. -/
def countParam : Param := ⟨"count", "query", false, "integer", [], none, some ⟨0x4059000000000000⟩, none, "", none, none, ""⟩

/-- `ratio`: a number query parameter of at least `0`. -/
def ratioParam : Param := ⟨"ratio", "query", false, "number", [], some ⟨0⟩, none, none, "", none, none, ""⟩

/-- The sample endpoint with `count` and `ratio` added. -/
def boundedEndpoint : Endpoint := { sampleEndpoint with params := sampleEndpoint.params ++ [countParam, ratioParam] }

def boundedConfig : APIServerConfig := { sampleConfig with endpoints := [boundedEndpoint] }

/-- **The checks accept values other than the ones their input denotes.** On a
valid configuration: the integer `id` given `"9007199254740993"` receives
`9007199254740992`; the integer `count`, at most `100`, given `"1e19"` (read
as the double `1e19`) receives `math.MinInt64`; the number `ratio`, at least
`0`, given the string `"NaN"` receives NaN, while a NaN that is not a string
is refused. -/
theorem numbers_not_as_denoted :
    boundedConfig.isValid acceptingLib = true ∧
      isSuitable acceptingLib (prepareParams acceptingLib boundedConfig.endpoints) boundedEndpoint idParam
        (.string "9007199254740993") = .ok (.int64 ⟨9007199254740992, by decide, by decide⟩) ∧
      parseFloat "1e19" = some ⟨0x43E158E460913D00⟩ ∧
      isSuitable acceptingLib (prepareParams acceptingLib boundedConfig.endpoints) boundedEndpoint countParam
        (.string "1e19") = .ok (.int64 F64.minInt64) ∧
      isSuitable acceptingLib (prepareParams acceptingLib boundedConfig.endpoints) boundedEndpoint ratioParam
        (.string "NaN") = .ok (.float64 F64.nan) ∧ F64.nan.isFinite = false ∧
      isSuitable acceptingLib (prepareParams acceptingLib boundedConfig.endpoints) boundedEndpoint ratioParam
        (.float64 F64.nan) = .error "cannot convert value of type  to number" :=
  ⟨by decide, by decide, by decide, by decide, by decide, by decide, by decide⟩

end RapidRows.Params
