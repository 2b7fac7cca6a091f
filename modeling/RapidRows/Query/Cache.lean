import RapidRows.Value

/-!
# The query cache

`serveQuery` (`server.go`) with a cache TTL: it looks the call up under
`makeCacheKey(uri, params)`, serves a fresh enough entry, and otherwise runs
the query and stores the timestamped body it sent. The cache is the map that
`cacheSet` and `cacheGet` of `cmd/rapidrows` keep, and xxhash is taken to be
injective on the streams `makeCacheKey` feeds it, so a key is its stream.

Whatever the requests, clock readings and database outcomes, a body served from
the cache is the body of an earlier successful execution whose parameters
give the same stream, stored at most the TTL before (`cache_hit_sound`); a
failed execution stores nothing (`failed_execution_stores_nothing`).

The stream does not tell all parameter lists apart: `nil` writes nothing
between the delimiters, and so does `""`, so a request with an empty string is
served the result of one without the parameter (`empty_string_served_nil_result`).
-/

namespace RapidRows.Query

/-! ## §1 `makeCacheKey` -/

/-- `startOfValue`. -/
def startOfValue : Bytes := [2]

/-- `endOfValue`. -/
def endOfValue : Bytes := [3]

/-- What `makeCacheKey` writes for one argument between its delimiters; `none`
where `binary.Write` fails. -/
def argBytes : Value → Option Bytes
  | .string s => some (strBytes s)
  | .strings ss => some (ss.flatMap fun s => startOfValue ++ strBytes s ++ endOfValue)
  | .nil => some []
  | a => binaryWrite a

/-- The stream `makeCacheKey` hashes; `none` where it returns 0. -/
def makeCacheKey (uri : String) (args : List Value) : Option Bytes :=
  (args.mapM argBytes).map fun bs =>
    startOfValue ++ strBytes uri ++ endOfValue ++
      bs.flatMap fun b => startOfValue ++ b ++ endOfValue

/-! ## §2 `serveQuery` -/

/-- The cache of `cmd/rapidrows`, by key. -/
abbrev Cache := Bytes → Option Bytes

/-- `cacheSet`: an empty value deletes the entry. -/
def cacheSet (c : Cache) (k v : Bytes) : Cache :=
  Function.update c k (if v.length = 0 then none else some v)

/-- What the database and the encoder do when the query runs. -/
inductive Outcome
  /-- `a.ds.withTx` returns an error. -/
  | queryFailed
  /-- The encoder returns an error, after writing part of the body. -/
  | encodeFailed
  /-- The encoder writes `body` and succeeds. -/
  | encoded (body : Bytes)
deriving DecidableEq

/-- One call of `serveQuery`: the coerced parameters, the clock at the lookup
and before encoding, and what the query does if it runs. -/
structure Request where
  params : List Value
  now : UInt64
  outcome : Outcome
  stamp : UInt64

/-- What `serveQuery` answers. -/
inductive Served
  | cached (body : Bytes)
  | queryError
  | encodeError
  | fresh (body : Bytes)
deriving DecidableEq

/-- The query runs; a successful result is stored under `key`, stamped. -/
def execute (key : Option Bytes) (c : Cache) (r : Request) : Served × Cache :=
  match r.outcome with
  | .queryFailed => (.queryError, c)
  | .encodeFailed => (.encodeError, c)
  | .encoded body =>
    (.fresh body, match key with
      | some k => cacheSet c k (be64 r.stamp ++ body)
      | none => c)

/-- `serveQuery` with the cache TTL `ttl`, in nanoseconds, of the endpoint
whose full URI is `uri`. -/
def serveQuery (ttl : UInt64) (uri : String) (c : Cache) (r : Request) : Served × Cache :=
  let key := if 0 < ttl then makeCacheKey uri r.params else none
  match key with
  | none => execute none c r
  | some k =>
    match c k with
    | some val =>
      if 8 ≤ val.length then
        if r.now - beUint64 val ≤ ttl then (.cached (val.drop 8), c)
        else execute key (cacheSet c k []) r
      else execute key c r
    | none => execute key c r

/-- A sequence of calls, from the cache `c`: the answers, and the cache after. -/
def serveAll (ttl : UInt64) (uri : String) (c : Cache) (rs : List Request) :
    List Served × Cache :=
  rs.foldl (fun acc r => (acc.1 ++ [(serveQuery ttl uri acc.2 r).1], (serveQuery ttl uri acc.2 r).2))
    ([], c)

theorem serveAll_append_single (ttl : UInt64) (uri : String) (c : Cache) (rs : List Request)
    (r : Request) : serveAll ttl uri c (rs ++ [r]) =
      ((serveAll ttl uri c rs).1 ++ [(serveQuery ttl uri (serveAll ttl uri c rs).2 r).1],
        (serveQuery ttl uri (serveAll ttl uri c rs).2 r).2) := by
  simp [serveAll, List.foldl_append]

/-! ## §3 What the cache holds -/

section Sound

variable (ttl : UInt64) (uri : String)

/-- Every entry is the stamped body of a call in `done` that ran with
success, stored under the stream of that call's parameters. -/
def Stored (done : List (Request × Served)) (c : Cache) : Prop :=
  ∀ k v, c k = some v → ∃ p ∈ done, ∃ body, p.2 = .fresh body ∧
    makeCacheKey uri p.1.params = some k ∧ v = be64 p.1.stamp ++ body

variable {ttl uri}

theorem Stored.mono {done done' : List (Request × Served)} {c : Cache}
    (h : Stored uri done c) (hsub : done ⊆ done') : Stored uri done' c := fun k v hk => by
  obtain ⟨p, hp, rest⟩ := h k v hk
  exact ⟨p, hsub hp, rest⟩

theorem Stored.cacheSet_empty {done : List (Request × Served)} {c : Cache}
    (h : Stored uri done c) (k : Bytes) : Stored uri done (cacheSet c k []) := fun k' v hk => by
  by_cases hk' : k' = k
  · subst hk'; simp [cacheSet] at hk
  · exact h k' v (by simpa [cacheSet, Function.update_noteq hk'] using hk)

theorem Stored.execute {done : List (Request × Served)} {c : Cache} {r : Request}
    {key : Option Bytes} (h : Stored uri done c)
    (hkey : ∀ k, key = some k → makeCacheKey uri r.params = some k) :
    Stored uri (done ++ [(r, (Query.execute key c r).1)]) (Query.execute key c r).2 := by
  have h' := h.mono (List.subset_append_left done [(r, (Query.execute key c r).1)])
  cases ho : r.outcome with
  | queryFailed => simpa [Query.execute, ho] using h'
  | encodeFailed => simpa [Query.execute, ho] using h'
  | encoded body =>
    cases key with
    | none => simpa [Query.execute, ho] using h'
    | some k =>
      have hx : Query.execute (some k) c r = (.fresh body, cacheSet c k (be64 r.stamp ++ body)) := by
        simp [Query.execute, ho]
      rw [hx] at h' ⊢
      intro k' v hk'
      by_cases hk : k' = k
      · subst hk
        simp only [cacheSet, Function.update_same, List.length_append, length_be64] at hk'
        exact ⟨(r, .fresh body), by simp, body, rfl, hkey _ rfl, by simpa using hk'.symm⟩
      · exact h' k' v (by simpa [cacheSet, Function.update_noteq hk] using hk')

/-- One call keeps `Stored`, and what it serves from the cache is the body
of a call in `done`. -/
theorem Stored.serveQuery {done : List (Request × Served)} {c : Cache} (h : Stored uri done c)
    (r : Request) :
    Stored uri (done ++ [(r, (Query.serveQuery ttl uri c r).1)]) (Query.serveQuery ttl uri c r).2 ∧
    ∀ body, (Query.serveQuery ttl uri c r).1 = .cached body → ∃ p ∈ done, p.2 = .fresh body ∧
      makeCacheKey uri p.1.params = makeCacheKey uri r.params ∧
      (makeCacheKey uri r.params).isSome ∧ r.now - p.1.stamp ≤ ttl := by
  unfold Query.serveQuery
  by_cases ht : 0 < ttl
  · simp only [if_pos ht]
    cases hk : makeCacheKey uri r.params with
    | none => exact ⟨h.execute (by simp), fun _ he => by cases ho : r.outcome <;> simp [Query.execute, ho] at he⟩
    | some k =>
      cases hv : c k with
      | none =>
        simp only [hv]
        exact ⟨h.execute (by simp [hk]), fun _ he => by
          cases ho : r.outcome <;> simp [Query.execute, ho] at he⟩
      | some val =>
        simp only [hv]
        split_ifs with hl hfresh
        · obtain ⟨p, hp, body, hb, hpk, rfl⟩ := h k val hv
          refine ⟨h.mono (List.subset_append_left _ _), fun b hb' => ⟨p, hp, ?_, by rw [hpk], rfl, ?_⟩⟩
          · simp only [Served.cached.injEq] at hb'
            rw [hb, ← hb', List.drop_left' (length_be64 _)]
          · simpa [beUint64_be64_append] using hfresh
        · exact ⟨(h.cacheSet_empty k).execute (by simp [hk]), fun _ he => by
            cases ho : r.outcome <;> simp [Query.execute, ho] at he⟩
        · exact ⟨h.execute (by simp [hk]), fun _ he => by
            cases ho : r.outcome <;> simp [Query.execute, ho] at he⟩
  · simp only [if_neg ht]
    exact ⟨h.execute (by simp), fun _ he => by cases ho : r.outcome <;> simp [Query.execute, ho] at he⟩

/-- From an empty cache, after any calls, every entry is the stamped body of
one of them that ran with success. -/
theorem stored_serveAll (rs : List Request) :
    (serveAll ttl uri (fun _ => none) rs).1.length = rs.length ∧
    Stored uri (rs.zip (serveAll ttl uri (fun _ => none) rs).1)
      (serveAll ttl uri (fun _ => none) rs).2 := by
  induction rs using List.reverseRecOn with
  | nil => exact ⟨rfl, fun _ _ h => by simp [serveAll] at h⟩
  | append_singleton rs r ih =>
    rw [serveAll_append_single, List.zip_append ih.1.symm]
    exact ⟨by simp [ih.1], (ih.2.serveQuery r).1⟩

/-- **Cache hits are sound.** After any calls from an empty cache, a call
answered from the cache gets the body that an earlier call sent when its
query ran and succeeded; that call's parameters give the same stream, and it
was stamped at most `ttl` before the lookup. -/
theorem cache_hit_sound (pre : List Request) (r : Request) (body : Bytes)
    (h : (serveQuery ttl uri (serveAll ttl uri (fun _ => none) pre).2 r).1 = .cached body) :
    ∃ p ∈ pre.zip (serveAll ttl uri (fun _ => none) pre).1, p.2 = .fresh body ∧
      makeCacheKey uri p.1.params = makeCacheKey uri r.params ∧
      (makeCacheKey uri r.params).isSome ∧ r.now - p.1.stamp ≤ ttl :=
  ((stored_serveAll pre).2.serveQuery r).2 body h

/-- A call that stores the body `[42]`, and one 50 ns later with the same
parameters. -/
def sampleCalls : List Request × Request :=
  ([⟨[.string "a"], 100, .encoded [42], 100⟩], ⟨[.string "a"], 150, .queryFailed, 150⟩)

theorem sample_cache_hit_sound :
    (serveQuery 100 "/items" (serveAll 100 "/items" (fun _ => none) sampleCalls.1).2
      sampleCalls.2).1 = .cached [42] ∧
    ∃ p ∈ sampleCalls.1.zip (serveAll 100 "/items" (fun _ => none) sampleCalls.1).1,
      p.2 = .fresh [42] ∧ makeCacheKey "/items" p.1.params = makeCacheKey "/items" sampleCalls.2.params ∧
      (makeCacheKey "/items" sampleCalls.2.params).isSome ∧ sampleCalls.2.now - p.1.stamp ≤ 100 :=
  have h : (serveQuery 100 "/items" (serveAll 100 "/items" (fun _ => none) sampleCalls.1).2
      sampleCalls.2).1 = .cached [42] := by decide
  ⟨h, cache_hit_sound _ _ _ h⟩

theorem execute_of_failed {key : Option Bytes} {c : Cache} {r : Request}
    (hr : r.outcome = .queryFailed ∨ r.outcome = .encodeFailed) : (execute key c r).2 = c := by
  rcases hr with hr | hr <;> simp [execute, hr]

/-- **Failures store nothing.** A call whose query or encoding fails adds or
replaces no entry; it may only delete a stale one. -/
theorem failed_execution_stores_nothing (c : Cache) (r : Request)
    (hr : r.outcome = .queryFailed ∨ r.outcome = .encodeFailed) (k v : Bytes)
    (h : (serveQuery ttl uri c r).2 k = some v) : c k = some v := by
  unfold serveQuery at h
  by_cases ht : 0 < ttl
  · simp only [if_pos ht] at h
    cases hk : makeCacheKey uri r.params with
    | none => simpa [hk, execute_of_failed hr] using h
    | some k' =>
      cases hv : c k' with
      | none => simpa [hk, hv, execute_of_failed hr] using h
      | some val =>
        simp only [hk, hv] at h
        split_ifs at h
        · exact h
        · rw [execute_of_failed hr] at h
          by_cases hkk : k = k'
          · subst hkk; simp [cacheSet] at h
          · simpa [cacheSet, Function.update_noteq hkk] using h
        · rwa [execute_of_failed hr] at h
  · simpa [if_neg ht, execute_of_failed hr] using h

end Sound

/-! ## §4 Two parameter lists, one stream -/

/-- A call without the endpoint's optional string parameter, then one with it
set to the empty string. -/
def nilThenEmpty : List Request :=
  [⟨[.nil], 0, .encoded (strBytes "null row"), 1⟩, ⟨[.string ""], 2, .encoded (strBytes "empty row"), 3⟩]

/-- The second call is answered from the cache with the body of the first. -/
theorem empty_string_served_nil_result :
    (serveAll 60000000000 "/e" (fun _ => none) nilThenEmpty).1 =
      [.fresh (strBytes "null row"), .cached (strBytes "null row")] := by
  decide

end RapidRows.Query

