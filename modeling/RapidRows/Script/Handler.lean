import RapidRows.Script.Val2Any

/-!
# The answer of a script endpoint

`runScript` (`script.go`) evaluates an endpoint's script. When `Eval` reports
no exception it returns the Go value of `$sys.result` with that value's QuickJS
tag; otherwise it returns the Go value of what was thrown, with its tag and an
error whose text is the value printed with `%v`. `runScriptHandler` then picks
the response from the tag and from the Go type of the value: the string itself
for a string, the JSON encoding for an object that is not an array, 204 for no
result, and 500 for anything else.

The tag and the Go value come from one JavaScript value, so the type assertion
`result.(string)` never fails, and the status depends only on how the script
ended and on the kind of value it ended with (`script_answer_status`). Two
cases read differently from the handler's comments. `Eval` reports "no
exception" as an undefined error value, so a script that runs
`throw undefined` is answered as one that completed (the example after
`script_answer_status`). And a thrown value that is not a string, an
object or empty (a number, a boolean, an array) is answered with the fixed text
`script error`, whatever the value was (`thrown_value_lost`).
-/

namespace RapidRows.Script

/-! ## §1 Tags -/

/-- The tags of `qjs/wrap.go`. -/
def tagBigInt : Int := -10
def tagSymbol : Int := -8
def tagString : Int := -7
def tagObject : Int := -1
def tagInt : Int := 0
def tagBool : Int := 1
def tagNull : Int := 2
def tagUndefined : Int := 3
def tagUninitialized : Int := 4
def tagFloat64 : Int := 7

/-- `Value.Tag()`. -/
def JSValue.tag : JSValue → Int
  | .int _ => tagInt
  | .bool _ => tagBool
  | .float64 _ => tagFloat64
  | .object _ => tagObject
  | .bigInt _ => tagBigInt
  | .string _ => tagString
  | .symbol _ => tagSymbol
  | .null => tagNull
  | .undefined => tagUndefined
  | .uninitialized => tagUninitialized

/-- The value left no result: `null`, `undefined` or an uninitialized slot. -/
def JSValue.isNullish : JSValue → Bool
  | .null | .undefined | .uninitialized => true
  | _ => false

def JSObject.isArray : JSObject → Bool
  | .array _ => true
  | _ => false

theorem tag_eq_undefined_iff (v : JSValue) : v.tag = tagUndefined ↔ v = .undefined := by
  cases v <;> simp [JSValue.tag] <;> decide

/-- The handler's `noResult` test on a value's tag. -/
theorem noResult_tag (v : JSValue) :
    (v.tag == tagUndefined || v.tag == tagUninitialized || v.tag == tagNull) = v.isNullish := by
  cases v <;> rfl

/-! ## §2 What `runScript` returns -/

/-- The error value of `ctx.Eval(script)`: the exception the script raised, or
`undefined` when it raised none. -/
def evalError : Option JSValue → JSValue
  | some e => e
  | none => .undefined

/-- The `result`, `tag` and `err` that `runScript` returns. -/
structure ScriptResult where
  result : GoAny
  tag : Int
  err : Option String

/-- What `runScript` returns, when the conversion fits in `frames`: `exc` is the
exception the script raised, `sysResult` the value of `$sys.result` once it
has run, and `sprint` is `fmt.Sprintf("%v", ·)`. -/
def runScriptResult (sprint : GoAny → String) (h : JSHeap) (frames : Nat) (exc : Option JSValue)
    (sysResult : JSValue) : Option ScriptResult :=
  let errObj := evalError exc
  if errObj.tag = tagUndefined then
    (val2any h frames sysResult).map fun result => ⟨result, sysResult.tag, none⟩
  else
    (val2any h frames errObj).map fun result =>
      let msg := sprint result
      ⟨result, errObj.tag, some (if msg.length = 0 then "script error" else msg)⟩

/-! ## §3 The response -/

/-- A response body. -/
inductive Body
  /-- `resp.Write([]byte(s))`. -/
  | text (s : String)
  /-- `enc.Encode(v)` with a two-space indent. -/
  | json (v : GoAny)
  | empty
deriving Repr

/-- A status, the `Content-Type` the handler sets (`none` leaves it to
`net/http`), and the body. -/
structure Response where
  status : Nat
  contentType : Option String
  body : Body
deriving Repr

/-- What the handler does: write a response, or panic on a failed type assertion. -/
inductive Reply
  | write (r : Response)
  | panic
deriving Repr

def Reply.status : Reply → Option Nat
  | .write r => some r.status
  | .panic => none

/-- The type assertion `result.(string)`. -/
def GoAny.asString : GoAny → Option String
  | .string s => some s
  | _ => none

/-- The type assertion `result.([]any)` succeeds. -/
def GoAny.isSlice : GoAny → Bool
  | .slice _ => true
  | _ => false

/-- The closure `writeResult(code)`: `none` when it returns false. -/
def writeResult (o : ScriptResult) (code : Nat) : Option Reply :=
  if o.tag = tagString then
    some (match o.result.asString with
      | some s => .write ⟨code, some "text/plain; charset=utf8", .text s⟩
      | none => .panic)
  else if o.tag = tagObject ∧ o.result.isSlice = false then
    some (.write ⟨code, some "application/json", .json o.result⟩)
  else none

/-- The closure `write500Body(body)`. -/
def write500Body (body : String) : Reply := .write ⟨500, none, .text body⟩

/-- `runScriptHandler` once `runScript` has returned `o`. -/
def runScriptHandler (o : ScriptResult) : Reply :=
  let noResult := o.tag == tagUndefined || o.tag == tagUninitialized || o.tag == tagNull
  match o.err with
  | some err =>
    if noResult then write500Body err
    else (writeResult o 500).getD (write500Body "script error")
  | none =>
    if noResult then .write ⟨204, none, .empty⟩
    else (writeResult o 200).getD
      (.write ⟨500, some "text/plain; charset=utf-8", .text "unsupported result type from script\n"⟩)

/-- The script endpoint's answer: `runScript`, then `runScriptHandler`. -/
def scriptReply (sprint : GoAny → String) (h : JSHeap) (frames : Nat) (exc : Option JSValue)
    (sysResult : JSValue) : Option Reply :=
  (runScriptResult sprint h frames exc sysResult).map runScriptHandler

/-! ## §4 The answer by the kind of value -/

/-- The handler answers with the value itself: a string, or an object that is
not an array. -/
def Answerable (h : JSHeap) : JSValue → Bool
  | .string _ => true
  | .object r => !(h r).isArray
  | _ => false

/-- The status a script endpoint answers with: 500 when the script threw, 204
when it left no `$sys.result`, 200 when the result is a string or an object
that is not an array, and 500 for any other result. -/
def expectedStatus (h : JSHeap) (exc : Option JSValue) (sysResult : JSValue) : Nat :=
  if exc.isSome then 500
  else if sysResult.isNullish then 204
  else if Answerable h sysResult then 200
  else 500

/-- An object converts to a slice exactly when it is an array. -/
theorem isSlice_of_val2any {h : JSHeap} {n r : Nat} {g : GoAny} (hc : val2any h n (.object r) = some g) :
    g.isSlice = (h r).isArray := by
  cases n with
  | zero => rw [val2any_zero] at hc; cases hc
  | succ n =>
    rw [val2any] at hc
    cases hr : h r with
    | array elems => simp only [hr, Option.map_eq_some'] at hc; obtain ⟨gs, -, rfl⟩ := hc; rfl
    | error t => simp only [hr, Option.some.injEq] at hc; subst hc; rfl
    | other js => cases js <;> simp only [hr, Option.some.injEq] at hc <;> subst hc <;> rfl

/-- `writeResult` on a value and its conversion: it writes, with the code it is
given, exactly for the values the handler answers with, and never panics. -/
theorem writeResult_status {h : JSHeap} {n : Nat} {v : JSValue} {g : GoAny}
    (hc : val2any h n v = some g) (err : Option String) (code : Nat) :
    (writeResult ⟨g, v.tag, err⟩ code).map Reply.status = if Answerable h v then some (some code) else none := by
  cases v with
  | string s =>
    cases n with
    | zero => rw [val2any_zero] at hc; cases hc
    | succ n => cases hc; rfl
  | object r =>
    simp only [writeResult, JSValue.tag, Answerable, isSlice_of_val2any hc,
      if_neg (show tagObject ≠ tagString by decide), if_pos (rfl : tagObject = tagObject), true_and]
    split_ifs <;> simp_all [Reply.status]
  | _ => rfl

theorem status_writeResult {h : JSHeap} {n : Nat} {v : JSValue} {g : GoAny}
    (hc : val2any h n v = some g) (err : Option String) (code : Nat) (d : Reply) :
    ((writeResult ⟨g, v.tag, err⟩ code).getD d).status = if Answerable h v then some code else d.status := by
  have hw := writeResult_status hc err code
  rcases hr : writeResult ⟨g, v.tag, err⟩ code with _ | r <;> rw [hr] at hw <;> split_ifs at hw ⊢ <;> simp_all

/-- A script that raised no exception is answered from `$sys.result`. -/
theorem scriptReply_of_completed (sprint : GoAny → String) (h : JSHeap) (frames : Nat)
    (sysResult : JSValue) :
    scriptReply sprint h frames none sysResult =
      (val2any h frames sysResult).map fun g => runScriptHandler ⟨g, sysResult.tag, none⟩ := by
  simp only [scriptReply, runScriptResult, evalError, JSValue.tag, ↓reduceIte, Option.map_map]
  rfl

/-- A script that threw `e` is answered from `e`, with the error `runScript` made. -/
theorem scriptReply_of_thrown (sprint : GoAny → String) (h : JSHeap) (frames : Nat) {e : JSValue}
    (he : e ≠ .undefined) (sysResult : JSValue) :
    scriptReply sprint h frames (some e) sysResult =
      (val2any h frames e).map fun g => runScriptHandler
        ⟨g, e.tag, some (if (sprint g).length = 0 then "script error" else sprint g)⟩ := by
  simp only [scriptReply, runScriptResult, evalError, if_neg (mt (tag_eq_undefined_iff e).1 he),
    Option.map_map]
  rfl

/-- The answer to a script that threw something other than `undefined` is a 500. -/
theorem status_of_thrown (sprint : GoAny → String) (h : JSHeap) (frames : Nat) {e : JSValue}
    (he : e ≠ .undefined) (sysResult : JSValue) {r : Reply}
    (hr : scriptReply sprint h frames (some e) sysResult = some r) : r.status = some 500 := by
  rw [scriptReply_of_thrown sprint h frames he, Option.map_eq_some'] at hr
  obtain ⟨g, hc, rfl⟩ := hr
  simp only [runScriptHandler, noResult_tag]
  by_cases hn : e.isNullish = true
  · rw [if_pos hn]; rfl
  · rw [if_neg hn, status_writeResult hc]; split_ifs <;> rfl

/-- The answer to a script that completed, by its `$sys.result`. -/
theorem status_of_completed (sprint : GoAny → String) (h : JSHeap) (frames : Nat) (sysResult : JSValue)
    {r : Reply} (hr : scriptReply sprint h frames none sysResult = some r) :
    r.status = some (expectedStatus h none sysResult) := by
  rw [scriptReply_of_completed, Option.map_eq_some'] at hr
  obtain ⟨g, hc, rfl⟩ := hr
  simp only [runScriptHandler, noResult_tag, expectedStatus, Option.isSome_none, Bool.false_eq_true,
    ↓reduceIte]
  by_cases hn : sysResult.isNullish = true
  · rw [if_pos hn, if_pos hn]; rfl
  · rw [if_neg hn, if_neg hn, status_writeResult hc]; split_ifs <;> rfl

/-- The endpoint answers, in enough frames, when the element relation is
well-founded below `$sys.result` and below what the script threw. -/
theorem scriptReply_returns (sprint : GoAny → String) {h : JSHeap} {exc : Option JSValue} {sysResult : JSValue}
    (hs : Acc (ElemOf h) sysResult) (he : ∀ e ∈ exc, Acc (ElemOf h) e) :
    ∃ frames r, scriptReply sprint h frames exc sysResult = some r := by
  have he' : Acc (ElemOf h) (evalError exc) := by
    cases exc with
    | none => exact Acc.intro _ fun _ ⟨_, _, hv, _⟩ => nomatch hv
    | some e => exact he e rfl
  obtain ⟨n, g, hs⟩ := val2any_of_acc hs
  obtain ⟨m, g', he⟩ := val2any_of_acc he'
  refine ⟨n + m, ?_⟩
  simp only [scriptReply, runScriptResult]
  split_ifs
  · rw [val2any_mono (Nat.le_add_right n m) hs]; exact ⟨_, rfl⟩
  · rw [val2any_mono (Nat.le_add_left m n) he]; exact ⟨_, rfl⟩

/-- `%v` on the values the samples below end with (`"?"` for the others). -/
def sampleSprint : GoAny → String
  | .nil => "<nil>"
  | .int64 i => toString i
  | .string s => s
  | _ => "?"

/-- The heap of `a = []; b = []; a.push(b)`: the older array `0` holds the
newer array `1`. -/
def twoArrays : JSHeap := fun r => if r = 0 then .array [.object 1] else .array []

/-- An array as `$sys.result` is answered 500, in two frames. -/
example : scriptReply sampleSprint twoArrays 2 none (.object 0) =
    some (.write ⟨500, some "text/plain; charset=utf-8", .text "unsupported result type from script\n"⟩) := rfl

/-- `throw undefined` is answered as a completed script: 200 with the string
left in `$sys.result`, 204 without one. -/
example (sprint : GoAny → String) (h : JSHeap) (frames : Nat) (s : String) :
    scriptReply sprint h (frames + 1) (some .undefined) (.string s) =
      some (.write ⟨200, some "text/plain; charset=utf8", .text s⟩) ∧
    scriptReply sprint h (frames + 1) (some .undefined) .undefined = some (.write ⟨204, none, .empty⟩) :=
  ⟨rfl, rfl⟩

/-- A thrown string is the body of the 500. -/
example : scriptReply sampleSprint twoArrays 1 (some (.string "oops")) .undefined =
    some (.write ⟨500, some "text/plain; charset=utf8", .text "oops"⟩) := rfl

/-- **A thrown value that is neither a string, an object nor empty is lost.** A
script that throws a number, a boolean, a symbol, a BigInt or an array is
answered 500 with the text `script error`, whatever the value was and however
`%v` prints it. -/
theorem thrown_value_lost (sprint : GoAny → String) (h : JSHeap) (frames : Nat) {e : JSValue}
    (hn : e.isNullish = false) (ha : Answerable h e = false) (sysResult : JSValue) :
    scriptReply sprint h frames (some e) sysResult =
      (val2any h frames e).map fun _ => write500Body "script error" := by
  have he : e ≠ .undefined := by rintro rfl; cases hn
  rw [scriptReply_of_thrown sprint h frames he]
  refine Option.map_congr fun g hc => ?_
  have hw (err : Option String) : writeResult ⟨g, e.tag, err⟩ 500 = none := Option.map_eq_none'.1 (by
    rw [writeResult_status (Option.mem_def.1 hc), ha]; rfl)
  simp [runScriptHandler, noResult_tag, hn, hw]

end RapidRows.Script
