import RapidRows.Value

/-!
# `val2any`

`val2any` (`qjs/wrap.go`) turns a QuickJS value into a Go value. `runScript`
applies it to `$sys.result` or to what the script threw, and `parseArgs` to
every argument of a `query` or `exec` call. On an `Array` it calls itself on
each element, and keeps no record of the arrays it is already inside.

Here each call takes a stack frame: `val2any h n v` is what the call returns
when it and its nested calls fit in `n` frames, and `none` when they do not.
More frames never change a result (`val2any_mono`), and some number of frames
suffices exactly when "is an element of this array" is well-founded below the
value (`val2any_returns_iff_acc`). It is on a heap whose arrays hold only older
objects (`val2any_returns_of_ordered`). An array that holds itself, as
`a = []; a.push(a)` builds, fits in no number of frames
(`self_array_never_returns`): the goroutine's stack overflows, and Go stops the
whole process.
-/

namespace RapidRows.Script

/-! ## §1 QuickJS values and Go values -/

/-- A `JSValue`, by its tag. -/
inductive JSValue
  | int (i : Int)
  | bool (b : Bool)
  | float64 (x : F64)
  | object (ref : Nat)
  | bigInt (i : Int)
  | string (s : String)
  /-- A symbol, by what its `toString` returns. -/
  | symbol (text : String)
  | null
  | undefined
  | uninitialized
deriving DecidableEq, Repr

/-- An object of the QuickJS heap, by the classes `val2any` tells apart. -/
inductive JSObject
  /-- An `Error`, by what its `toString` returns. -/
  | error (text : String)
  /-- An `Array`: its elements at the indexes below `array_len`. -/
  | array (elems : List JSValue)
  /-- Any other object, by the text `JSON.stringify` returns for it; `none` when it throws. -/
  | other (json : Option String)
deriving DecidableEq, Repr

/-- The objects of a QuickJS runtime, by reference. -/
abbrev JSHeap := Nat → JSObject

/-- A Go value of static type `any`, by its dynamic type. -/
inductive GoAny
  | nil
  | int64 (i : Int)
  | bool (b : Bool)
  | float64 (x : F64)
  | string (s : String)
  /-- A `*big.Int` outside the `int64` range. -/
  | bigInt (i : Int)
  /-- A `*qjs.Error`. -/
  | jsError (message : String)
  /-- An `error` made in Go, by its text. -/
  | goError (text : String)
  | slice (elems : List GoAny)
  /-- What `json.Unmarshal` decodes from this text into a `map[string]any`. -/
  | unmarshaled (json : String)
deriving Repr

/-! ## §2 The conversion -/

/-- `val2any(ctx, c)` in at most `frames` nested calls. -/
def val2any (h : JSHeap) : Nat → JSValue → Option GoAny
  | 0, _ => none
  | frames + 1, v =>
    match v with
    | .int i => some (.int64 i)
    | .bool b => some (.bool b)
    | .float64 x => some (.float64 x)
    | .object r =>
      match h r with
      | .error text => some (.jsError text)
      | .array elems => (elems.mapM (val2any h frames)).map .slice
      | .other none => some (.goError "json stringify failed")
      | .other (some js) => some (.unmarshaled js)
    | .bigInt i => some (if -2 ^ 63 ≤ i ∧ i < 2 ^ 63 then .int64 i else .bigInt i)
    | .string s => some (.string s)
    | .symbol text => some (.string text)
    | .null | .undefined | .uninitialized => some .nil

/-- `parseArgs(f, args)`: the query text and the arguments for the driver, or
the error, when the conversions fit in `frames`. -/
def parseArgs (h : JSHeap) (frames : Nat) (f : String) :
    List JSValue → Option (Except String (String × List GoAny))
  | [] => some (.error s!"$sys.{f}: need at least 1 argument")
  | .string q :: rest => (rest.mapM (val2any h frames)).map fun sqlArgs => .ok (q, sqlArgs)
  | _ :: _ => some (.error s!"$sys.{f}: first argument must be a SQL query (string)")

/-- `v'` is an element of the array `v`: `val2any` on `v` calls itself on `v'`. -/
def ElemOf (h : JSHeap) (v' v : JSValue) : Prop :=
  ∃ r elems, v = .object r ∧ h r = .array elems ∧ v' ∈ elems

/-! ## §3 Converting the elements -/

theorem val2any_zero (h : JSHeap) (v : JSValue) : val2any h 0 v = none := by cases v <;> rfl

theorem val2any_array {h : JSHeap} {r : Nat} {elems : List JSValue} (hr : h r = .array elems) (n : Nat) :
    val2any h (n + 1) (.object r) = (elems.mapM (val2any h n)).map .slice := by
  rw [val2any]; simp only [hr]

/-- An object that is not an array converts in one frame, whatever the number. -/
theorem val2any_nonarray {h : JSHeap} {r : Nat} (hr : ∀ elems, h r ≠ .array elems) (n m : Nat) :
    val2any h (n + 1) (.object r) = val2any h (m + 1) (.object r) := by
  rw [val2any, val2any]
  cases hh : h r with
  | array elems => exact absurd hh (hr elems)
  | error t => rfl
  | other t => cases t <;> rfl

theorem mem_of_mapM_eq_some {f : JSValue → Option GoAny} {l : List JSValue} {gs : List GoAny}
    (h : l.mapM f = some gs) {a : JSValue} (ha : a ∈ l) : ∃ g, f a = some g := by
  induction l generalizing gs with
  | nil => cases ha
  | cons b l ih =>
    simp only [List.mapM_cons, Option.bind_eq_bind, Option.bind_eq_some, Option.pure_def,
      Option.some.injEq] at h
    obtain ⟨g, hb, gs', hl, -⟩ := h
    rcases List.mem_cons.mp ha with rfl | ha
    · exact ⟨g, hb⟩
    · exact ih hl ha

theorem mapM_eq_some_of {f f' : JSValue → Option GoAny} {l : List JSValue} {gs : List GoAny}
    (hf : ∀ a ∈ l, ∀ g, f a = some g → f' a = some g) (h : l.mapM f = some gs) : l.mapM f' = some gs := by
  induction l generalizing gs with
  | nil => exact h
  | cons b l ih =>
    simp only [List.mapM_cons, Option.bind_eq_bind, Option.bind_eq_some, Option.pure_def,
      Option.some.injEq] at h ⊢
    obtain ⟨g, hb, gs', hl, rfl⟩ := h
    exact ⟨g, hf b (List.mem_cons_self b l) g hb, gs',
      ih (fun a ha => hf a (List.mem_cons_of_mem b ha)) hl, rfl⟩

/-! ## §4 Frames -/

/-- One more frame never changes a result. -/
theorem val2any_succ (h : JSHeap) (n : Nat) :
    ∀ {v g}, val2any h n v = some g → val2any h (n + 1) v = some g := by
  induction n with
  | zero => intro v g hv; simp [val2any_zero] at hv
  | succ n ih =>
    intro v g hv
    cases v with
    | object r =>
      by_cases harr : ∃ elems, h r = .array elems
      · obtain ⟨elems, hr⟩ := harr
        rw [val2any_array hr, Option.map_eq_some'] at hv ⊢
        obtain ⟨gs, hgs, rfl⟩ := hv
        exact ⟨gs, mapM_eq_some_of (fun _ _ _ => ih) hgs, rfl⟩
      · rwa [val2any_nonarray (not_exists.mp harr) (n + 1) n]
    | _ => exact hv

/-- **More frames, the same result.** -/
theorem val2any_mono {h : JSHeap} {n m : Nat} (hnm : n ≤ m) {v : JSValue} {g : GoAny}
    (hv : val2any h n v = some g) : val2any h m v = some g := by
  induction m, hnm using Nat.le_induction with
  | base => exact hv
  | succ m _ ih => exact val2any_succ h m ih

/-- A call that returns had every element it converted return. -/
theorem acc_of_val2any {h : JSHeap} {n : Nat} :
    ∀ {v g}, val2any h n v = some g → Acc (ElemOf h) v := by
  induction n with
  | zero => intro v g hv; simp [val2any_zero] at hv
  | succ n ih =>
    intro v g hv
    refine Acc.intro v fun v' ⟨r, elems, hv', hr, hmem⟩ => ?_
    subst hv'
    rw [val2any_array hr, Option.map_eq_some'] at hv
    obtain ⟨gs, hgs, -⟩ := hv
    obtain ⟨g', hg'⟩ := mem_of_mapM_eq_some hgs hmem
    exact ih hg'

/-- Elements that each return in some number of frames all return in one. -/
theorem exists_mapM_val2any {h : JSHeap} {l : List JSValue}
    (hl : ∀ a ∈ l, ∃ n g, val2any h n a = some g) : ∃ n gs, l.mapM (val2any h n) = some gs := by
  induction l with
  | nil => exact ⟨0, [], rfl⟩
  | cons a l ih =>
    obtain ⟨na, ga, ha⟩ := hl a (List.mem_cons_self a l)
    obtain ⟨nl, gs, hgs⟩ := ih fun b hb => hl b (List.mem_cons_of_mem a hb)
    refine ⟨na + nl, ga :: gs, ?_⟩
    simp only [List.mapM_cons, Option.bind_eq_bind, Option.pure_def,
      val2any_mono (Nat.le_add_right na nl) ha, Option.some_bind,
      mapM_eq_some_of (fun _ _ _ => val2any_mono (Nat.le_add_left nl na)) hgs]

theorem val2any_of_acc {h : JSHeap} {v : JSValue} (hacc : Acc (ElemOf h) v) :
    ∃ n g, val2any h n v = some g := by
  induction hacc with
  | intro v _ ih =>
    cases v with
    | object r =>
      cases hr : h r with
      | array elems =>
        obtain ⟨n, gs, hgs⟩ := exists_mapM_val2any fun a ha => ih a ⟨r, elems, rfl, hr, ha⟩
        exact ⟨n + 1, .slice gs, by rw [val2any_array hr, hgs]; rfl⟩
      | error text => exact ⟨1, .jsError text, by rw [val2any]; simp only [hr]⟩
      | other json => exact ⟨1, Option.isSome_iff_exists.mp (by rw [val2any]; simp only [hr]; cases json <;> rfl)⟩
    | _ => exact ⟨1, _, rfl⟩

/-- An array inside an array takes two frames. -/
example :
    let h : JSHeap := fun r => if r = 0 then .array [.object 1] else .array []
    (val2any h 1 (.object 0)).isNone ∧ (val2any h 2 (.object 0)).isSome := by
  decide

/-! ## §5 Heaps without cycles, and an array that holds itself -/

/-- Every array holds only objects allocated before it. -/
def Ordered (h : JSHeap) : Prop := ∀ r elems, h r = .array elems → ∀ r', .object r' ∈ elems → r' < r

theorem acc_of_ordered {h : JSHeap} (hh : Ordered h) (v : JSValue) : Acc (ElemOf h) v := by
  have leaf : ∀ v, (∀ r, v ≠ .object r) → Acc (ElemOf h) v := fun v hv =>
    Acc.intro v fun _ ⟨r, _, hvr, _⟩ => absurd hvr (hv r)
  cases v with
  | object r =>
    induction r using Nat.strong_induction_on with
    | _ r ih =>
      refine Acc.intro _ fun v' ⟨r0, elems, hr0, hr, hmem⟩ => ?_
      cases hr0
      cases v' with
      | object r' => exact ih r' (hh r elems hr r' hmem)
      | _ => exact leaf _ fun _ => nofun
  | _ => exact leaf _ fun _ => nofun

/-- The heap of `b = []; a = [b, 3]`: object `1` holds the older object `0`. -/
def nestedHeap : JSHeap := fun r => if r = 1 then .array [.object 0, .int 3] else .array []

/-- The heap `a = []; a.push(a)` leaves: object `0` is an array whose only
element is itself. -/
def selfArrayHeap : JSHeap := fun r => if r = 0 then .array [.object 0] else .other none

theorem val2any_self_array (n : Nat) : val2any selfArrayHeap n (.object 0) = none := by
  induction n with
  | zero => exact val2any_zero _ _
  | succ n ih =>
    rw [val2any_array (show selfArrayHeap 0 = .array [.object 0] from rfl), List.mapM_cons, ih]
    rfl

/-- **An array that holds itself never converts.** In no number of frames does
`val2any` return on it, nor `parseArgs` on a query that passes it, and the
element relation is not well-founded below it. -/
theorem self_array_never_returns (n : Nat) :
    val2any selfArrayHeap n (.object 0) = none ∧
    parseArgs selfArrayHeap n "query" [.string "select $1", .object 0] = none ∧
    ¬ Acc (ElemOf selfArrayHeap) (.object 0) := by
  refine ⟨val2any_self_array n, by rw [parseArgs, List.mapM_cons, val2any_self_array]; rfl, fun hacc => ?_⟩
  obtain ⟨m, g, hm⟩ := val2any_of_acc hacc
  rw [val2any_self_array] at hm
  cases hm

end RapidRows.Script
