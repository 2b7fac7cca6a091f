import RapidRows.Query.Cache
import RapidRows.Params.Check

/-!
# What a cache key tells apart

`makeCacheKey` writes each argument between a start byte `2` and an end byte
`3`. When no argument writes an end byte, the stream gives back what each
argument wrote (`makeCacheKey_determines_contents`). The stream still does not
tell every two parameter lists apart, even ones `getParams` can produce: `nil`
and `""` both write nothing, and an end byte and a start byte inside a string
read as a boundary between two arguments (`distinct_params_one_stream`).
-/

namespace RapidRows.Query

open Config Params

/-! ## §1 Frames -/

/-- A frame's content is what comes before the first end byte. -/
theorem frame_cancel {b b' r r' : Bytes} (hb : (3 : UInt8) ∉ b) (hb' : (3 : UInt8) ∉ b')
    (h : b ++ 3 :: r = b' ++ 3 :: r') : b = b' ∧ r = r' := by
  have content : ∀ {c s : Bytes}, (3 : UInt8) ∉ c → (c ++ 3 :: s).takeWhile (· ≠ 3) = c := fun hc => by
    rw [List.takeWhile_append_of_pos (fun a ha => by simpa using ne_of_mem_of_not_mem ha hc)]
    simp
  have hbb : b = b' := by rw [← content hb, h, content hb']
  subst hbb
  exact ⟨rfl, (List.cons_injective (List.append_cancel_left h)).symm ▸ rfl⟩

/-- The frames `2 ++ b ++ 3` of contents without an end byte give the contents back. -/
theorem frames_injective {bs bs' : List Bytes} (h3 : ∀ b ∈ bs, (3 : UInt8) ∉ b)
    (h3' : ∀ b ∈ bs', (3 : UInt8) ∉ b)
    (h : bs.flatMap (fun b => startOfValue ++ b ++ endOfValue) =
      bs'.flatMap (fun b => startOfValue ++ b ++ endOfValue)) : bs = bs' := by
  induction bs generalizing bs' with
  | nil => cases bs' with
    | nil => rfl
    | cons b' bs' => simp [startOfValue] at h
  | cons b bs ih => cases bs' with
    | nil => simp [startOfValue] at h
    | cons b' bs' =>
      simp only [List.flatMap_cons, startOfValue, endOfValue, List.singleton_append, List.cons_append,
        List.append_assoc, List.cons.injEq, true_and] at h
      obtain ⟨rfl, hrest⟩ := frame_cancel (h3 b (List.mem_cons_self b bs))
        (h3' b' (List.mem_cons_self b' bs')) h
      rw [ih (fun c hc => h3 c (List.mem_cons_of_mem b hc)) (fun c hc => h3' c (List.mem_cons_of_mem b hc)) hrest]

/-- **Equal keys, equal contents.** For one endpoint, two argument lists whose
written contents hold no end byte give one stream only when they wrote the same
contents. -/
theorem makeCacheKey_determines_contents {u : String} {args args' : List Value} {bs bs' : List Bytes}
    (hbs : args.mapM argBytes = some bs) (hbs' : args'.mapM argBytes = some bs')
    (h3 : ∀ b ∈ bs, (3 : UInt8) ∉ b) (h3' : ∀ b ∈ bs', (3 : UInt8) ∉ b)
    (h : makeCacheKey u args = makeCacheKey u args') : bs = bs' := by
  simp only [makeCacheKey, hbs, hbs', Option.map_some', Option.some.injEq] at h
  exact frames_injective h3 h3' (List.append_cancel_left h)

/-- A `nil` and an empty string write the same contents, and share a key. -/
theorem nil_empty_string_same_contents :
    [Value.nil, .string "x"].mapM argBytes = some [[], [120]] ∧
      [Value.string "", .string "x"].mapM argBytes = some [[], [120]] ∧
      makeCacheKey "/items" [.nil, .string "x"] = makeCacheKey "/items" [.string "", .string "x"] ∧
      [[], [120]] = ([[], [120]] : List Bytes) :=
  have hbs : [Value.nil, .string "x"].mapM argBytes = some [[], [120]] := rfl
  have hbs' : [Value.string "", .string "x"].mapM argBytes = some [[], [120]] := rfl
  have h3 : ∀ b ∈ ([[], [120]] : List Bytes), (3 : UInt8) ∉ b := by decide
  have hkey : makeCacheKey "/items" [.nil, .string "x"] = makeCacheKey "/items" [.string "", .string "x"] := rfl
  ⟨hbs, hbs', hkey, makeCacheKey_determines_contents hbs hbs' h3 h3 hkey⟩

/-! ## §2 Parameter lists that share a stream -/

/-- Each argument is `nil` or has the Go type `getParams` gives its parameter. -/
def coerced (ps : List Param) (args : List Value) : Bool :=
  ps.length == args.length && (ps.zip args).all fun (p, v) => v == .nil || fits p v

/-- An optional query parameter of type string. -/
def stringParam (name : String) : Param :=
  ⟨name, "query", false, "string", [], none, none, none, "", none, none, ""⟩

/-- **Two parameter lists, one stream.** For every URI, a string parameter left
out and set to `""` share a stream, and so do two string arguments whose bytes
`3 2` move across the boundary between them. -/
theorem distinct_params_one_stream (u : String) :
    coerced [stringParam "q"] [.nil] ∧ coerced [stringParam "q"] [.string ""] ∧
    (makeCacheKey u [.nil]).isSome ∧ makeCacheKey u [.nil] = makeCacheKey u [.string ""] ∧
    coerced [stringParam "a", stringParam "b"] [.string "a\x03\x02b", .nil] ∧
    coerced [stringParam "a", stringParam "b"] [.string "a", .string "b\x03\x02"] ∧
    makeCacheKey u [.string "a\x03\x02b", .nil] = makeCacheKey u [.string "a", .string "b\x03\x02"] := by
  refine ⟨by decide, by decide, rfl, rfl, by decide, by decide, ?_⟩
  simp only [makeCacheKey]
  rfl

end RapidRows.Query
