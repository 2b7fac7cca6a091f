import RapidRows.Params.Prepare

/-!
# The parameter checks

`isSuitable` and the checks it calls (`server_test.go`): each takes a request
value of dynamic type `any` and returns the value the query receives, an
error, or panics. The one source of panics is the unchecked assertion of the
enum slice in `checkString`, `checkInteger` and `checkFloat`.

Two facts about every call. It does not panic when the enum slice under the
parameter's key has the parameter's type (`isSuitable_ne_panic`). What it
returns has the Go type the parameter's type and `elemType` fix
(`isSuitable_fits`).
-/

namespace RapidRows.Params

open Config

/-- What a Go call that returns a value and an `error` does: return a value,
return an error, or panic. -/
inductive Ret (α : Type) where
  | ok (a : α)
  | error (msg : String)
  | panic
deriving DecidableEq

namespace Ret

/-- Go on with the value; an error or a panic stops. -/
def bind {α β : Type} : Ret α → (α → Ret β) → Ret β
  | ok a, f => f a
  | error e, _ => error e
  | panic, _ => panic

/-- Convert the value, as a return through a wider result type does. -/
def map {α β : Type} (f : α → β) (r : Ret α) : Ret β := r.bind fun a => ok (f a)

@[simp] theorem bind_ok {α β : Type} (a : α) (f : α → Ret β) : (ok a).bind f = f a := rfl

@[simp] theorem map_ok {α β : Type} (f : α → β) (a : α) : (ok a).map f = ok (f (a)) := rfl

theorem map_ne_panic {α β : Type} {f : α → β} {r : Ret α} (h : r ≠ panic) : r.map f ≠ panic := by
  cases r <;> simp_all [map, bind]

theorem eq_ok_of_bind {α β : Type} {r : Ret α} {f : α → Ret β} {b : β} (h : r.bind f = ok b) :
    ∃ a, r = ok a ∧ f a = ok b := by
  cases r <;> simp_all [bind]

theorem eq_ok_of_map {α β : Type} {f : α → β} {r : Ret α} {b : β} (h : r.map f = ok b) :
    ∃ a, r = ok a ∧ b = f a := by
  cases r <;> simp_all [map, bind]

theorem bind_ne_panic {α β : Type} {r : Ret α} {f : α → Ret β} (h : r ≠ panic) (hf : ∀ a, f a ≠ panic) :
    r.bind f ≠ panic := by
  cases r <;> simp_all [bind]

end Ret

/-- `v.([]string)`, unchecked. -/
def asStrings : Value → Ret (List String)
  | .strings ss => .ok ss
  | _ => .panic

/-- `v.([]int64)`, unchecked. -/
def asInt64s : Value → Ret (List I64)
  | .int64s is => .ok is
  | _ => .panic

/-- `v.([]float64)`, unchecked. -/
def asFloat64s : Value → Ret (List F64)
  | .float64s xs => .ok xs
  | _ => .panic

/-- The error of a value outside the enum. -/
def noMatch : String := "does not match any of the enumerated values"

section Checks

variable (lib : Lib) (pinfo : PInfo) (ep : Endpoint) (p : Param)

/-! ## §1 Strings -/

/-- The pattern check of `checkString`. -/
def checkPattern (s : String) : Ret String :=
  match pinfo (paramKey ep p) with
  | some { rx := some rx, .. } =>
    if !p.pattern.isEmpty && !lib.matchString rx s then .error ("does not match pattern " ++ p.pattern)
    else .ok s
  | _ => .ok s

/-- `checkString`. -/
def checkString (s : String) : Ret String :=
  if !p.enum.isEmpty then
    match pinfo (paramKey ep p) with
    | some info => (asStrings info.enum).bind fun ss => if s ∈ ss then .ok s else .error noMatch
    | none => .error noMatch
  else
    match p.maxLength with
    | some n =>
      if 0 ≤ n ∧ n < (strBytes s).length then .error ("exceeds specified max length of " ++ toString n)
      else checkPattern lib pinfo ep p s
    | none => checkPattern lib pinfo ep p s

/-- `checkStringAny`. -/
def checkStringAny (v : Value) : Ret String :=
  match v with
  | .string s => checkString lib pinfo ep p s
  | _ => .error ("cannot convert value of type " ++ lib.fmtT v ++ " to string")

/-! ## §2 Integers -/

/-- `checkInteger`: the bounds are converted with `int64(*p.Minimum)`. -/
def checkInteger (i : I64) : Ret I64 :=
  if !p.enum.isEmpty then
    match pinfo (paramKey ep p) with
    | some info => (asInt64s info.enum).bind fun is => if i ∈ is then .ok i else .error noMatch
    | none => .error noMatch
  else
    let below : Ret I64 :=
      match p.maximum with
      | some m =>
        if (F64.toInt64 m).val < i.val then .error ("is higher than the maximum of " ++ toString (F64.toInt64 m).val)
        else .ok i
      | none => .ok i
    match p.minimum with
    | some m =>
      if i.val < (F64.toInt64 m).val then .error ("is lower than the minimum of " ++ toString (F64.toInt64 m).val)
      else below
    | none => below

/-- `checkIntegerAny`: a string is parsed as a double, so `"200.00"` is `200`. -/
def checkIntegerAny (v : Value) : Ret I64 :=
  match v with
  | .string s =>
    match (parseFloat s).bind float2int with
    | some i => checkInteger pinfo ep p i
    | none => .error "not a valid integer"
  | .float64 f =>
    match float2int f with
    | some i => checkInteger pinfo ep p i
    | none => .error ("cannot convert value of type " ++ lib.fmtT v ++ " to integer")
  | _ => .error ("cannot convert value of type " ++ lib.fmtT v ++ " to integer")

/-! ## §3 Numbers -/

/-- `checkFloat`. -/
def checkFloat (f : F64) : Ret F64 :=
  if !p.enum.isEmpty then
    match pinfo (paramKey ep p) with
    | some info => (asFloat64s info.enum).bind fun xs => if xs.any (·.beq f) then .ok f else .error noMatch
    | none => .error noMatch
  else
    let below : Ret F64 :=
      match p.maximum with
      | some hi => if hi.lt f then .error ("is higher than the maximum of " ++ lib.fmtG hi) else .ok f
      | none => .ok f
    match p.minimum with
    | some lo => if f.lt lo then .error ("is lower than the minimum of " ++ lib.fmtG lo) else below
    | none => below

/-- `checkFloatAny`: a JSON number must be finite; a string is whatever
`ParseFloat` makes of it. -/
def checkFloatAny (v : Value) : Ret F64 :=
  match v with
  | .string s =>
    match parseFloat s with
    | some f => checkFloat lib pinfo ep p f
    | none => .error "not a valid number"
  | .float64 f =>
    if !f.isNaN && !f.isInf then checkFloat lib pinfo ep p f
    else .error ("cannot convert value of type " ++ lib.fmtT v ++ " to number")
  | _ => .error ("cannot convert value of type " ++ lib.fmtT v ++ " to number")

/-! ## §4 Booleans and arrays -/

/-- `checkBoolAny`. -/
def checkBoolAny (v : Value) : Ret Bool :=
  match v with
  | .string s =>
    if lib.toLower s = "true" then .ok true
    else if lib.toLower s = "false" then .ok false
    else .error ("cannot convert value of type " ++ lib.fmtT v ++ " to boolean")
  | .bool b => .ok b
  | _ => .error ("cannot convert value of type " ++ lib.fmtT v ++ " to boolean")

/-- The element loop of `checkArray`, from element number `j`: the first
error stops it, numbered from one. -/
def checkElems {α : Type} (check : Value → Ret α) (j : Nat) : List Value → Ret (List α)
  | [] => .ok []
  | v :: vs =>
    match check v with
    | .ok a => (checkElems check (j + 1) vs).map (a :: ·)
    | .error e => .error ("enum value #" ++ toString (j + 1) ++ ": " ++ e)
    | .panic => .panic

/-- `checkArray`. -/
def checkArray (vs : List Value) : Ret Value :=
  match p.minItems.filter ((vs.length : Int) < ·), p.maxItems.filter (· < (vs.length : Int)) with
  | some n, _ => .error ("fewer than the specified minimum of " ++ toString n ++ " items")
  | none, some n => .error ("more than the specified maximum of " ++ toString n ++ " items")
  | none, none =>
    if p.elemType = "integer" then (checkElems (checkIntegerAny lib pinfo ep p) 0 vs).map .int64s
    else if p.elemType = "number" then (checkElems (checkFloatAny lib pinfo ep p) 0 vs).map .float64s
    else if p.elemType = "string" then (checkElems (checkStringAny lib pinfo ep p) 0 vs).map .strings
    else if p.elemType = "boolean" then (checkElems (checkBoolAny lib) 0 vs).map .bools
    else .error ("invalid elemType " ++ lib.quote p.elemType)

/-- `checkArrayAny`: a `[]string` of a query or form, or a decoded JSON array. -/
def checkArrayAny (v : Value) : Ret Value :=
  match v with
  | .strings sa => checkArray lib pinfo ep p (sa.map .string)
  | .anys aa => checkArray lib pinfo ep p (aa.map Scalar.toValue)
  | _ => .error ("cannot convert value of type " ++ lib.fmtT v ++ " to array")

/-! ## §5 `isSuitable` -/

/-- The string `isSuitable` reads from a value: a `[]string` of one element,
or a `string`. -/
def singleString : Value → Option String
  | .strings [s] => some s
  | .string s => some s
  | _ => none

/-- The value `isSuitable` passes to a scalar check: the string it read, or
the value itself. -/
def scalarArg (v : Value) : Value :=
  match singleString v with
  | some s => .string s
  | none => v

/-- `isSuitable`. -/
def isSuitable (v : Value) : Ret Value :=
  if p.type = "string" then
    match singleString v with
    | some s => (checkString lib pinfo ep p s).map .string
    | none => .error "not a string"
  else if p.type = "integer" then (checkIntegerAny lib pinfo ep p (scalarArg v)).map .int64
  else if p.type = "number" then (checkFloatAny lib pinfo ep p (scalarArg v)).map .float64
  else if p.type = "boolean" then (checkBoolAny lib (scalarArg v)).map .bool
  else if p.type = "array" then checkArrayAny lib pinfo ep p v
  else .error "unknown parameter type"

/-! ## §6 No panic -/

/-- What the enum assertion of a check for type `t` needs: a parameter with an
enum finds, under its key, a slice of type `t`. -/
def EnumReady (t : String) : Prop :=
  p.enum ≠ [] → ∃ info, pinfo (paramKey ep p) = some info ∧ enumFits t info.enum = true

/-- The assertion of a check succeeds once the slice has the check's type. -/
theorem enum_ne_panic {α : Type} {t : String} {as : Value → Ret (List α)} {k : List α → Ret α}
    (h : EnumReady pinfo ep p t) (has : ∀ v, enumFits t v = true → as v ≠ .panic) (hk : ∀ l, k l ≠ .panic)
    (hne : (!p.enum.isEmpty) = true) :
    (match pinfo (paramKey ep p) with
      | some info => (as info.enum).bind k
      | none => .error noMatch) ≠ .panic := by
  obtain ⟨info, hi, hf⟩ := h (by simpa using hne)
  rw [hi]
  exact Ret.bind_ne_panic (has _ hf) hk

theorem checkPattern_ne_panic (s : String) : checkPattern lib pinfo ep p s ≠ .panic := by
  unfold checkPattern; split <;> [split <;> simp; simp]

theorem checkString_ne_panic (h : EnumReady pinfo ep p "string") (s : String) :
    checkString lib pinfo ep p s ≠ .panic := by
  unfold checkString
  split
  · exact enum_ne_panic pinfo ep p h (fun v hv => by cases v <;> simp_all [enumFits, asStrings])
      (fun _ => by split <;> simp) ‹_›
  · split
    · split
      · simp
      · exact checkPattern_ne_panic lib pinfo ep p s
    · exact checkPattern_ne_panic lib pinfo ep p s

theorem checkInteger_ne_panic (h : EnumReady pinfo ep p "integer") (i : I64) :
    checkInteger pinfo ep p i ≠ .panic := by
  unfold checkInteger
  split
  · exact enum_ne_panic pinfo ep p h (fun v hv => by cases v <;> simp_all [enumFits, asInt64s])
      (fun _ => by split <;> simp) ‹_›
  · dsimp only
    split <;> (try split) <;> (try split) <;> (try split) <;> simp

theorem checkIntegerAny_ne_panic (h : EnumReady pinfo ep p "integer") (v : Value) :
    checkIntegerAny lib pinfo ep p v ≠ .panic := by
  unfold checkIntegerAny
  split <;> (try split) <;> first | exact checkInteger_ne_panic pinfo ep p h _ | simp

theorem checkFloat_ne_panic (h : EnumReady pinfo ep p "number") (f : F64) :
    checkFloat lib pinfo ep p f ≠ .panic := by
  unfold checkFloat
  split
  · exact enum_ne_panic pinfo ep p h (fun v hv => by cases v <;> simp_all [enumFits, asFloat64s])
      (fun _ => by split <;> simp) ‹_›
  · dsimp only
    split <;> (try split) <;> (try split) <;> (try split) <;> simp

theorem checkFloatAny_ne_panic (h : EnumReady pinfo ep p "number") (v : Value) :
    checkFloatAny lib pinfo ep p v ≠ .panic := by
  unfold checkFloatAny
  split <;> (try split) <;> first | exact checkFloat_ne_panic lib pinfo ep p h _ | simp

theorem checkBoolAny_ne_panic (v : Value) : checkBoolAny lib v ≠ .panic := by
  unfold checkBoolAny
  split <;> (try split_ifs) <;> simp

theorem checkElems_ne_panic {α : Type} {check : Value → Ret α} (h : ∀ v, check v ≠ .panic)
    (j : Nat) (vs : List Value) : checkElems check j vs ≠ .panic := by
  induction vs generalizing j with
  | nil => simp [checkElems]
  | cons v vs ih =>
    unfold checkElems
    split
    · exact Ret.map_ne_panic (ih _)
    · simp
    · exact absurd ‹_› (h v)

/-- An array parameter has no enum, so no element check asserts. -/
theorem checkArrayAny_ne_panic (h : p.enum = []) (v : Value) : checkArrayAny lib pinfo ep p v ≠ .panic := by
  have ready (t : String) : EnumReady pinfo ep p t := fun hne => absurd h hne
  have elems (vs : List Value) : checkArray lib pinfo ep p vs ≠ .panic := by
    unfold checkArray
    split
    · simp
    · simp
    · split_ifs
      all_goals first
        | exact Ret.map_ne_panic (checkElems_ne_panic (checkIntegerAny_ne_panic lib pinfo ep p (ready _)) 0 vs)
        | exact Ret.map_ne_panic (checkElems_ne_panic (checkFloatAny_ne_panic lib pinfo ep p (ready _)) 0 vs)
        | exact Ret.map_ne_panic (checkElems_ne_panic (fun v => by
            unfold checkStringAny; split
            · exact checkString_ne_panic lib pinfo ep p (ready _) _
            · simp) 0 vs)
        | exact Ret.map_ne_panic (checkElems_ne_panic (checkBoolAny_ne_panic lib) 0 vs)
        | simp
  unfold checkArrayAny
  split <;> first | exact elems _ | simp

/-- What `isSuitable` needs of `pinfo` and the parameter not to panic. -/
structure Ready : Prop where
  /-- The enum slice has the parameter's type. -/
  enum : EnumReady pinfo ep p p.type
  /-- An array parameter has no enum. -/
  array_no_enum : p.type = "array" → p.enum = []

/-- **`isSuitable` does not panic** on a ready parameter. -/
theorem isSuitable_ne_panic (h : Ready pinfo ep p) (v : Value) : isSuitable lib pinfo ep p v ≠ .panic := by
  unfold isSuitable
  split_ifs with h1 h2 h3 h4 h5
  · split
    · exact Ret.map_ne_panic (checkString_ne_panic lib pinfo ep p (h1 ▸ h.enum) _)
    · simp
  · exact Ret.map_ne_panic (checkIntegerAny_ne_panic lib pinfo ep p (h2 ▸ h.enum) _)
  · exact Ret.map_ne_panic (checkFloatAny_ne_panic lib pinfo ep p (h3 ▸ h.enum) _)
  · exact Ret.map_ne_panic (checkBoolAny_ne_panic lib _)
  · exact checkArrayAny_ne_panic lib pinfo ep p (h.array_no_enum h5) v
  · simp

/-! ## §7 What is returned -/

/-- Whether a value has the Go type that the parameter's type and `elemType` fix. -/
def fits (p : Param) : Value → Bool
  | .string _ => p.type = "string"
  | .int64 _ => p.type = "integer"
  | .float64 _ => p.type = "number"
  | .bool _ => p.type = "boolean"
  | .strings _ => p.type = "array" && p.elemType = "string"
  | .int64s _ => p.type = "array" && p.elemType = "integer"
  | .float64s _ => p.type = "array" && p.elemType = "number"
  | .bools _ => p.type = "array" && p.elemType = "boolean"
  | _ => false

theorem checkArray_fits (ht : p.type = "array") {vs : List Value} {w : Value}
    (h : checkArray lib pinfo ep p vs = .ok w) : fits p w = true := by
  unfold checkArray at h
  split at h
  · cases h
  · cases h
  · split_ifs at h <;> obtain ⟨_, -, rfl⟩ := Ret.eq_ok_of_map h <;> simp [fits, ht, *]

/-- **What `isSuitable` returns fits the parameter.** -/
theorem isSuitable_fits {v w : Value} (h : isSuitable lib pinfo ep p v = .ok w) : fits p w = true := by
  unfold isSuitable at h
  split_ifs at h with h1 h2 h3 h4 h5
  · split at h
    · obtain ⟨_, -, rfl⟩ := Ret.eq_ok_of_map h; simp [fits, h1]
    · cases h
  · obtain ⟨_, -, rfl⟩ := Ret.eq_ok_of_map h; simp [fits, h2]
  · obtain ⟨_, -, rfl⟩ := Ret.eq_ok_of_map h; simp [fits, h3]
  · obtain ⟨_, -, rfl⟩ := Ret.eq_ok_of_map h; simp [fits, h4]
  · unfold checkArrayAny at h
    split at h <;> first | exact checkArray_fits lib pinfo ep p h5 h | cases h

end Checks

end RapidRows.Params
