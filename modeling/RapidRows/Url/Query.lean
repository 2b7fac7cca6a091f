import RapidRows.Value
import Mathlib.Data.List.Sort
import Mathlib.Tactic.FinCases

/-!
# Query strings (`net/url`)

`ds2url` writes its connection string with `url.Values`: `Set` fills the map
and `Encode` writes it, each key and value escaped by `QueryEscape`. The
driver reads it back with `url.Parse` and `URL.Query`: the raw query is split
at `&`, each part cut at its first `=`, and both halves unescaped by
`QueryUnescape`. Go strings are bytes, and so is everything here.

Unescaping undoes escaping byte by byte, whatever follows
(`queryUnescape_queryEscape_append`). An escaped string holds no byte that
`shouldEscape` names but `%` and `+` (`mem_queryEscape`), so no `&`, `=` or
`;`, and the parts `Encode` joins come back one by one: `URL.Query` of an
encoded map gives every key the values it had (`find_parseQuery_encode`).
-/

namespace RapidRows.Url

/-! ## §1 Escaping -/

/-- `shouldEscape(c, encodeQueryComponent)`: everything but letters, digits
and `-_.~`. -/
def shouldEscape (c : UInt8) : Bool :=
  !((97 ≤ c && c ≤ 122) || (65 ≤ c && c ≤ 90) || (48 ≤ c && c ≤ 57) ||
    c = 45 || c = 95 || c = 46 || c = 126)

/-- `upperhex[d]`, for `d < 16`. -/
def upperhex (d : UInt8) : UInt8 := if d < 10 then 48 + d else 55 + d

/-- What `escape(s, encodeQueryComponent)` writes for the byte `c`. -/
def escapeByte (c : UInt8) : Bytes :=
  if c = 32 then [43]
  else if shouldEscape c then [37, upperhex (c >>> 4), upperhex (c &&& 15)]
  else [c]

/-- `QueryEscape`. -/
def queryEscape (s : Bytes) : Bytes := s.flatMap escapeByte

/-- `ishex`. -/
def ishex (c : UInt8) : Bool := (48 ≤ c && c ≤ 57) || (97 ≤ c && c ≤ 102) || (65 ≤ c && c ≤ 70)

/-- `unhex`. -/
def unhex (c : UInt8) : UInt8 :=
  if 48 ≤ c && c ≤ 57 then c - 48
  else if 97 ≤ c && c ≤ 102 then c - 97 + 10
  else if 65 ≤ c && c ≤ 70 then c - 65 + 10
  else 0

/-- `QueryUnescape`: `%` and two hex digits stand for a byte, `+` for a space;
a `%` without two hex digits after it is an `EscapeError`. Go checks every
`%` in a first loop and decodes in a second; one pass fails on the same
inputs. -/
def queryUnescape : Bytes → Option Bytes
  | [] => some []
  | c :: rest =>
    if c = 37 then
      match rest with
      | h :: l :: rest' =>
        if ishex h && ishex l then ((unhex h <<< 4 ||| unhex l) :: ·) <$> queryUnescape rest'
        else none
      | _ => none
    else ((if c = 43 then 32 else c) :: ·) <$> queryUnescape rest

theorem queryUnescape_cons_of_ne {c : UInt8} (rest : Bytes) (h : c ≠ 37) :
    queryUnescape (c :: rest) = ((if c = 43 then 32 else c) :: ·) <$> queryUnescape rest := by
  rw [queryUnescape.eq_def]
  exact if_neg h

/-! ### One byte -/

theorem u8_lt_iff {a b : UInt8} : a < b ↔ a.toNat < b.toNat := Iff.rfl

theorem u8_eq_iff {a b : UInt8} : a = b ↔ a.toNat = b.toNat := ⟨congrArg _, UInt8.toNat.inj⟩

theorem ofNat_toNat (d : UInt8) : UInt8.ofNat d.toNat = d :=
  UInt8.toNat.inj (UInt8.toNat_ofNat_of_lt d.toNat_lt_size)

/-- A space, `%`, `+`, `#`, `?` and the control bytes must be escaped. -/
theorem shouldEscape_of_special {c : UInt8}
    (h : c = 32 ∨ c = 37 ∨ c = 43 ∨ c = 35 ∨ c = 63 ∨ c < 32 ∨ c = 127) : shouldEscape c := by
  have hctl : ∀ n : Fin 32, shouldEscape (UInt8.ofNat n) := by decide
  rcases h with rfl | rfl | rfl | rfl | rfl | h | rfl
  any_goals decide
  simpa only [ofNat_toNat] using hctl ⟨c.toNat, h⟩

/-- A digit `upperhex` writes is a hex digit that needs no escaping, and
`unhex` reads it back. -/
theorem upperhex_spec {d : UInt8} (h : d < 16) :
    ishex (upperhex d) ∧ shouldEscape (upperhex d) = false ∧ unhex (upperhex d) = d := by
  have key : ∀ n : Fin 16, ishex (upperhex (UInt8.ofNat n)) ∧
      shouldEscape (upperhex (UInt8.ofNat n)) = false ∧
      unhex (upperhex (UInt8.ofNat n)) = UInt8.ofNat n := by
    decide
  simpa only [ofNat_toNat] using key ⟨d.toNat, h⟩

theorem shiftRight_four_lt (c : UInt8) : c >>> 4 < 16 := by
  show (c.toBitVec >>> 4).toNat < 16
  have := c.toBitVec.isLt
  rw [BitVec.toNat_ushiftRight, Nat.shiftRight_eq_div_pow]
  omega

theorem and_fifteen_lt (c : UInt8) : c &&& 15 < 16 := by
  show (c.toBitVec &&& 15#8).toNat < 16
  rw [BitVec.toNat_and]
  exact Nat.lt_of_le_of_lt Nat.and_le_right (by decide)

/-- The two hex digits of a byte put back together. -/
theorem nibbles_or (c : UInt8) : c >>> 4 <<< 4 ||| c &&& 15 = c := by
  apply UInt8.eq_of_toBitVec_eq
  show c.toBitVec >>> 4 <<< 4 ||| c.toBitVec &&& 15#8 = c.toBitVec
  ext i
  simp only [BitVec.getLsbD_or, BitVec.getLsbD_shiftLeft, BitVec.getLsbD_ushiftRight,
    BitVec.getLsbD_and]
  fin_cases i <;> simp

/-- **Unescaping one escaped byte**, with the rest of the input after it. -/
theorem queryUnescape_escapeByte (c : UInt8) (rest : Bytes) :
    queryUnescape (escapeByte c ++ rest) = (c :: ·) <$> queryUnescape rest := by
  unfold escapeByte
  split_ifs with h32 hesc
  · subst h32
    rw [List.singleton_append, queryUnescape_cons_of_ne _ (by decide), if_pos rfl]
  · obtain ⟨hi, -, hi'⟩ := upperhex_spec (shiftRight_four_lt c)
    obtain ⟨lo, -, lo'⟩ := upperhex_spec (and_fifteen_lt c)
    simp [queryUnescape, hi, lo, hi', lo', nibbles_or]
  · have h37 : c ≠ 37 := fun h => hesc (shouldEscape_of_special (by simp [h]))
    have h43 : c ≠ 43 := fun h => hesc (shouldEscape_of_special (by simp [h]))
    rw [List.singleton_append, queryUnescape_cons_of_ne _ h37, if_neg h43]

/-- **`QueryUnescape` undoes `QueryEscape`**, whatever follows. -/
theorem queryUnescape_queryEscape_append (s rest : Bytes) :
    queryUnescape (queryEscape s ++ rest) = (s ++ ·) <$> queryUnescape rest := by
  induction s with
  | nil => simp [queryEscape]
  | cons c s ih =>
    simp only [queryEscape, List.flatMap_cons, List.append_assoc] at ih ⊢
    rw [queryUnescape_escapeByte, ih]
    cases queryUnescape rest <;> rfl

theorem queryUnescape_queryEscape (s : Bytes) : queryUnescape (queryEscape s) = some s := by
  simpa [queryUnescape] using queryUnescape_queryEscape_append s []

/-- An escaped string holds `%`, `+`, and bytes that need no escaping. -/
theorem mem_queryEscape {b : UInt8} {s : Bytes} (h : b ∈ queryEscape s) :
    b = 37 ∨ b = 43 ∨ shouldEscape b = false := by
  obtain ⟨c, -, hc⟩ := List.mem_flatMap.1 h
  unfold escapeByte at hc
  split_ifs at hc with h32 hesc
  · simp_all
  · simp only [List.mem_cons, List.mem_singleton, List.not_mem_nil, or_false] at hc
    rcases hc with rfl | rfl | rfl
    · exact .inl rfl
    · exact .inr (.inr (upperhex_spec (shiftRight_four_lt c)).2.1)
    · exact .inr (.inr (upperhex_spec (and_fifteen_lt c)).2.1)
  · simp_all

/-- A byte that must be escaped, other than `%` and `+`, is not in an escaped
string: `&`, `=`, `;`, `#`, `?` and the control bytes among them. -/
theorem not_mem_queryEscape {b : UInt8} (s : Bytes) (hb : shouldEscape b) (h37 : b ≠ 37)
    (h43 : b ≠ 43) : b ∉ queryEscape s := fun h => by
  rcases mem_queryEscape h with h | h | h
  · exact h37 h
  · exact h43 h
  · simp [hb] at h

/-! ## §2 `url.Values` -/

/-- `url.Values`, a `map[string][]string`: its entries, each key once. -/
structure Values where
  entries : List (Bytes × List Bytes)
  nodup : (entries.map Prod.fst).Nodup

theorem lookup_cons_ite {β : Type} (k a : Bytes) (b : β) (l : List (Bytes × β)) :
    ((a, b) :: l).lookup k = if k = a then some b else l.lookup k := by
  rw [List.lookup_cons]
  by_cases h : k = a
  · simp [h]
  · rw [beq_false_of_ne h, if_neg h]

theorem lookup_filter_ne (l : List (Bytes × List Bytes)) {k k' : Bytes} (h : k' ≠ k) :
    (l.filter fun e => e.1 ≠ k).lookup k' = l.lookup k' := by
  induction l with
  | nil => rfl
  | cons e l ih =>
    obtain ⟨a, vs⟩ := e
    by_cases ha : a = k
    · subst ha
      rw [List.filter_cons_of_neg (by simp), ih, lookup_cons_ite, if_neg h]
    · rw [List.filter_cons_of_pos (by simpa using ha), lookup_cons_ite, lookup_cons_ite, ih]

/-- A lookup among distinct keys does not depend on the order of the entries. -/
theorem lookup_perm {β : Type} {l₁ l₂ : List (Bytes × β)} (h : l₁.Perm l₂)
    (hn : (l₁.map Prod.fst).Nodup) (k : Bytes) : l₁.lookup k = l₂.lookup k := by
  induction h with
  | nil => rfl
  | cons e _ ih =>
    rw [List.map_cons, List.nodup_cons] at hn
    rw [lookup_cons_ite, lookup_cons_ite, ih hn.2]
  | swap e e' l =>
    simp only [List.map_cons, List.nodup_cons, List.mem_cons, not_or] at hn
    rw [lookup_cons_ite, lookup_cons_ite, lookup_cons_ite, lookup_cons_ite]
    by_cases h : k = e.1
    · subst h
      simp [Ne.symm hn.1.1]
    · simp [h]
  | trans h₁ _ ih₁ ih₂ => rw [ih₁ hn, ih₂ ((h₁.map Prod.fst).nodup_iff.1 hn)]

namespace Values

/-- `make(url.Values)`. -/
def empty : Values := ⟨[], List.nodup_nil⟩

/-- The keys of the map. -/
def keys (m : Values) : List Bytes := m.entries.map Prod.fst

/-- `m[k]`: the values of `k`, `nil` when absent. -/
def find (m : Values) (k : Bytes) : List Bytes := (m.entries.lookup k).getD []

theorem put_nodup (m : Values) (k : Bytes) (vs : List Bytes) :
    (((k, vs) :: m.entries.filter fun e => e.1 ≠ k).map Prod.fst).Nodup := by
  rw [List.map_cons, List.nodup_cons]
  refine ⟨fun h => ?_, (List.filter_sublist _).map _ |>.nodup m.nodup⟩
  obtain ⟨e, he, rfl⟩ := List.mem_map.1 h
  simp at he

/-- `m[k] = vs`. -/
def put (m : Values) (k : Bytes) (vs : List Bytes) : Values :=
  ⟨(k, vs) :: m.entries.filter (fun e => e.1 ≠ k), put_nodup m k vs⟩

/-- `v.Set(k, x)`. -/
def set (m : Values) (k x : Bytes) : Values := m.put k [x]

/-- `m[key] = append(m[key], value)`, as `parseQuery` does. -/
def add (m : Values) (k x : Bytes) : Values := m.put k (m.find k ++ [x])

@[simp] theorem find_empty (k : Bytes) : empty.find k = [] := rfl

@[simp] theorem find_put (m : Values) (k k' : Bytes) (vs : List Bytes) :
    (m.put k vs).find k' = if k' = k then vs else m.find k' := by
  by_cases h : k' = k
  · simp [find, put, h]
  · rw [find, put, lookup_cons_ite, if_neg h, lookup_filter_ne _ h, if_neg h, find]

theorem mem_keys_put {m : Values} {k k' : Bytes} {vs : List Bytes} :
    k' ∈ (m.put k vs).keys ↔ k' = k ∨ k' ∈ m.keys := by
  by_cases h : k' = k <;> simp [keys, put, h]

end Values

/-! ## §3 `Encode` -/

/-- Go's `<` on strings, which `sort.Strings` sorts by: byte by byte, and a
proper prefix first. -/
def bytesLt : Bytes → Bytes → Bool
  | _, [] => false
  | [], _ :: _ => true
  | a :: as, b :: bs => a < b || (a = b && bytesLt as bs)

/-- The order `sort.Strings` leaves its keys in. -/
def bytesLe (a b : Bytes) : Prop := bytesLt b a = false

instance : DecidableRel bytesLe := fun a b => inferInstanceAs (Decidable (bytesLt b a = false))

theorem bytesLt_asymm : ∀ {a b : Bytes}, bytesLt a b → bytesLt b a = false
  | _, [], h => by simp [bytesLt] at h
  | [], _ :: _, _ => rfl
  | a :: as, b :: bs, h => by
    simp only [bytesLt, Bool.or_eq_true, Bool.and_eq_true, decide_eq_true_eq] at h ⊢
    rcases h with h | ⟨rfl, h⟩
    · simp only [u8_lt_iff, u8_eq_iff] at h ⊢
      simp only [Bool.or_eq_false_iff, decide_eq_false_iff_not, Bool.and_eq_false_imp,
        decide_eq_true_eq]
      omega
    · simp [bytesLt_asymm h]

theorem bytesLt_trans : ∀ {a b c : Bytes}, bytesLt a b → bytesLt b c → bytesLt a c
  | _, [], _, h, _ => by simp [bytesLt] at h
  | _, _ :: _, [], _, h => by simp [bytesLt] at h
  | [], _ :: _, _ :: _, _, _ => rfl
  | a :: as, b :: bs, c :: cs, h₁, h₂ => by
    simp only [bytesLt, Bool.or_eq_true, Bool.and_eq_true, decide_eq_true_eq] at h₁ h₂ ⊢
    rcases h₁ with h₁ | ⟨rfl, h₁⟩ <;> rcases h₂ with h₂ | ⟨rfl, h₂⟩
    · exact .inl (UInt8.lt_trans h₁ h₂)
    · exact .inl h₁
    · exact .inl h₂
    · exact .inr ⟨rfl, bytesLt_trans h₁ h₂⟩

theorem bytesLt_trichotomy : ∀ a b : Bytes, bytesLt a b ∨ a = b ∨ bytesLt b a
  | [], [] => .inr (.inl rfl)
  | [], _ :: _ => .inl rfl
  | _ :: _, [] => .inr (.inr rfl)
  | a :: as, b :: bs => by
    simp only [bytesLt, Bool.or_eq_true, Bool.and_eq_true, decide_eq_true_eq, List.cons.injEq]
    have hab : a < b ∨ a = b ∨ b < a := by
      simp only [u8_lt_iff, u8_eq_iff]
      omega
    rcases hab with h | rfl | h
    · exact .inl (.inl h)
    · rcases bytesLt_trichotomy as bs with h | rfl | h
      · exact .inl (.inr ⟨rfl, h⟩)
      · exact .inr (.inl ⟨rfl, rfl⟩)
      · exact .inr (.inr (.inr ⟨rfl, h⟩))
    · exact .inr (.inr (.inl h))

instance : IsTotal Bytes bytesLe := ⟨fun a b => by
  unfold bytesLe
  cases h : bytesLt b a
  · exact .inl rfl
  · exact .inr (bytesLt_asymm h)⟩

instance : IsTrans Bytes bytesLe := ⟨fun a b c hab hbc => by
  unfold bytesLe at *
  cases h : bytesLt c a
  · rfl
  · rcases bytesLt_trichotomy a b with h' | rfl | h'
    · rw [bytesLt_trans h h'] at hbc
      exact hbc
    · rw [h] at hbc
      exact hbc
    · rw [h'] at hab
      exact hab⟩

instance : IsAntisymm Bytes bytesLe := ⟨fun a b hab hba => by
  unfold bytesLe at *
  rcases bytesLt_trichotomy a b with h | h | h
  · rw [h] at hba
    cases hba
  · exact h
  · rw [h] at hab
    cases hab⟩

/-- One pair `k=v`, both escaped. -/
def pair (k v : Bytes) : Bytes := queryEscape k ++ 61 :: queryEscape v

/-- `Values.Encode`: for each key in sorted order and each of its values, the
pair `k=v`, with `&` between pairs. On distinct keys every sort gives the
same order. -/
def Values.encode (m : Values) : Bytes :=
  [38].intercalate ((m.keys.insertionSort bytesLe).flatMap fun k => (m.find k).map (pair k))

/-- `Encode` writes a map, whatever the order of its entries: two maps with
the same keys and the same values for each write the same string. -/
theorem encode_congr {m₁ m₂ : Values} (hk : m₁.keys.Perm m₂.keys) (hf : ∀ k, m₁.find k = m₂.find k) :
    m₁.encode = m₂.encode := by
  have hs : m₁.keys.insertionSort bytesLe = m₂.keys.insertionSort bytesLe :=
    List.eq_of_perm_of_sorted (((List.perm_insertionSort _ _).trans hk).trans
      (List.perm_insertionSort _ _).symm) (List.sorted_insertionSort _ _)
      (List.sorted_insertionSort _ _)
  rw [Values.encode, Values.encode, hs, funext hf]

theorem mem_of_mem_intersperse {α : Type} {x y : α} : ∀ {l : List α}, y ∈ l.intersperse x → y = x ∨ y ∈ l
  | [], h => by simp at h
  | [_], h => .inr (by simpa using h)
  | a :: b :: l, h => by
    simp only [List.intersperse_cons₂, List.mem_cons] at h
    rcases h with rfl | rfl | h
    · exact .inr (List.mem_cons_self _ _)
    · exact .inl rfl
    · rcases mem_of_mem_intersperse h with h | h
      · exact .inl h
      · exact .inr (List.mem_cons_of_mem _ h)

/-- What `Encode` writes: `&`, `=`, `%`, `+`, and bytes that need no escaping. -/
theorem mem_encode {m : Values} {b : UInt8} (h : b ∈ m.encode) :
    b = 38 ∨ b = 61 ∨ b = 37 ∨ b = 43 ∨ shouldEscape b = false := by
  obtain ⟨l, hl, hb⟩ := List.mem_flatten.1 h
  rcases mem_of_mem_intersperse hl with rfl | hl
  · exact .inl (List.mem_singleton.1 hb)
  · obtain ⟨k, -, hk⟩ := List.mem_flatMap.1 hl
    obtain ⟨v, -, rfl⟩ := List.mem_map.1 hk
    simp only [pair, List.mem_append, List.mem_cons] at hb
    rcases hb with hb | rfl | hb
    · exact .inr (.inr (mem_queryEscape hb))
    · exact .inr (.inl rfl)
    · exact .inr (.inr (mem_queryEscape hb))

/-! ## §4 `ParseQuery` -/

/-- `strings.Cut(s, sep)`: before the first `sep`, and after it (empty when
there is none). -/
def cut (s : Bytes) (sep : UInt8) : Bytes × Bytes :=
  (s.takeWhile (fun b => b ≠ sep), (s.dropWhile (fun b => b ≠ sep)).drop 1)

/-- The body of `parseQuery`'s loop on one part of the query: a part with a
`;` is skipped (with an error), an empty one is skipped, and one whose key or
value does not unescape is skipped (with an error). -/
def addPart (m : Values) (part : Bytes) : Values :=
  if 59 ∈ part then m
  else if part = [] then m
  else
    match queryUnescape (cut part 61).1, queryUnescape (cut part 61).2 with
    | some k, some v => m.add k v
    | _, _ => m

/-- `url.ParseQuery`, as `URL.Query` calls it, which drops the error. The
parts `strings.Cut(query, "&")` takes off one by one are those of `splitOn`,
less the empty ones, which the loop skips. -/
def parseQuery (q : Bytes) : Values := (q.splitOn 38).foldl addPart Values.empty

/-! ### Reading back what `Encode` wrote -/

theorem cut_append_cons {a : Bytes} {sep : UInt8} (b : Bytes) (h : sep ∉ a) :
    cut (a ++ sep :: b) sep = (a, b) := by
  induction a with
  | nil => simp [cut]
  | cons x a ih =>
    have hx : x ≠ sep := fun hx => h (hx ▸ List.mem_cons_self x a)
    simp only [List.mem_cons, not_or] at h
    simpa [cut, hx] using ih h.2

theorem cut_of_not_mem {a : Bytes} {sep : UInt8} (h : sep ∉ a) : cut a sep = (a, []) := by
  induction a with
  | nil => rfl
  | cons x a ih =>
    have hx : x ≠ sep := fun hx => h (hx ▸ List.mem_cons_self x a)
    simp only [List.mem_cons, not_or] at h
    simpa [cut, hx] using ih h.2

/-- One pair `Encode` wrote, read by `parseQuery`'s loop body. -/
theorem addPart_pair (m : Values) (k v : Bytes) : addPart m (pair k v) = m.add k v := by
  have h59 : (59 : UInt8) ∉ pair k v := by
    simp only [pair, List.mem_append, List.mem_cons, not_or]
    exact ⟨not_mem_queryEscape k (by decide) (by decide) (by decide), by decide,
      not_mem_queryEscape v (by decide) (by decide) (by decide)⟩
  have hcut : cut (pair k v) 61 = (queryEscape k, queryEscape v) :=
    cut_append_cons _ (not_mem_queryEscape k (by decide) (by decide) (by decide))
  rw [addPart, if_neg h59, if_neg (by simp [pair]), hcut]
  simp only [queryUnescape_queryEscape]

/-- Adding pairs one by one appends each key's values in order. -/
theorem find_foldl_add (ps : List (Bytes × Bytes)) (m : Values) (k : Bytes) :
    (ps.foldl (fun m p => m.add p.1 p.2) m).find k =
      m.find k ++ (ps.filter fun p => p.1 = k).map Prod.snd := by
  induction ps generalizing m with
  | nil => simp
  | cons p ps ih =>
    rw [List.foldl_cons, ih]
    by_cases h : p.1 = k
    · simp [Values.add, h]
    · simp [Values.add, h, Ne.symm h]

/-- Setting keys one by one: the last value set for a key wins. -/
theorem find_foldl_set (ps : List (Bytes × Bytes)) (m : Values) (k : Bytes) :
    (ps.foldl (fun m p => m.set p.1 p.2) m).find k =
      ((ps.reverse.lookup k).map fun v => [v]).getD (m.find k) := by
  induction ps generalizing m with
  | nil => rfl
  | cons p ps ih =>
    rw [List.foldl_cons, ih, List.reverse_cons, List.lookup_append]
    cases ps.reverse.lookup k with
    | some v => rfl
    | none =>
      obtain ⟨a, x⟩ := p
      by_cases h : k = a <;> simp [Values.set, lookup_cons_ite, h]

theorem mem_keys_foldl_set (ps : List (Bytes × Bytes)) (m : Values) (k : Bytes) :
    k ∈ (ps.foldl (fun m p => m.set p.1 p.2) m).keys ↔ k ∈ ps.map Prod.fst ∨ k ∈ m.keys := by
  induction ps generalizing m with
  | nil => simp
  | cons p ps ih =>
    rw [List.foldl_cons, ih, Values.set, Values.mem_keys_put, List.map_cons, List.mem_cons]
    tauto

/-- The pairs of a list of distinct keys, each with its values, hold the
values of a key once. -/
theorem filter_flatMap_keys (f : Bytes → List Bytes) {ks : List Bytes} (hks : ks.Nodup) (k : Bytes) :
    ((ks.flatMap fun k => (f k).map (k, ·)).filter fun p => p.1 = k).map Prod.snd =
      if k ∈ ks then f k else [] := by
  induction ks with
  | nil => simp
  | cons k' ks ih =>
    rw [List.nodup_cons] at hks
    by_cases h : k' = k
    · subst h
      simp [List.filter_append, ih hks.2, hks.1, List.filter_map, Function.comp_def]
    · simp [List.filter_append, ih hks.2, h, List.filter_map, Function.comp_def, Ne.symm h]

theorem Values.find_eq_nil {m : Values} {k : Bytes} (h : k ∉ m.keys) : m.find k = [] := by
  have : m.entries.lookup k = none :=
    List.lookup_eq_none_iff.2 fun p hp => bne_iff_ne.2 fun e => h (e ▸ List.mem_map_of_mem _ hp)
  simp [Values.find, this]

theorem not_mem_pair {b : UInt8} (k v : Bytes) (hb : shouldEscape b) (h37 : b ≠ 37) (h43 : b ≠ 43)
    (h61 : b ≠ 61) : b ∉ pair k v := by
  simp only [pair, List.mem_append, List.mem_cons, not_or]
  exact ⟨not_mem_queryEscape k hb h37 h43, h61, not_mem_queryEscape v hb h37 h43⟩

/-- `parseQuery` of pairs joined by `&` adds them one by one. -/
theorem parseQuery_intercalate (ps : List (Bytes × Bytes)) :
    parseQuery ([38].intercalate (ps.map fun p => pair p.1 p.2)) =
      ps.foldl (fun m p => m.add p.1 p.2) Values.empty := by
  by_cases hps : ps = []
  · subst hps
    show ([].splitOn 38).foldl addPart Values.empty = Values.empty
    simp [List.splitOn_nil, addPart]
  · have hsep : ∀ l ∈ ps.map fun p => pair p.1 p.2, (38 : UInt8) ∉ l := fun l hl => by
      obtain ⟨p, -, rfl⟩ := List.mem_map.1 hl
      exact not_mem_pair _ _ (by decide) (by decide) (by decide) (by decide)
    rw [parseQuery, List.splitOn_intercalate _ _ hsep (by simpa using hps), List.foldl_map]
    simp only [addPart_pair]

/-- **`URL.Query` reads back what `Values.Encode` wrote**: every key has the
values it had. -/
theorem find_parseQuery_encode (m : Values) (k : Bytes) :
    (parseQuery m.encode).find k = m.find k := by
  have hks := List.perm_insertionSort bytesLe m.keys
  have henc : m.encode = [38].intercalate
      (((m.keys.insertionSort bytesLe).flatMap fun k => (m.find k).map (k, ·)).map
        fun p => pair p.1 p.2) := by
    simp [Values.encode, List.map_flatMap, Function.comp_def]
  rw [henc, parseQuery_intercalate, find_foldl_add, Values.find_empty, List.nil_append,
    filter_flatMap_keys _ (hks.nodup_iff.2 m.nodup)]
  split_ifs with h
  · rfl
  · exact (Values.find_eq_nil fun h' => h (hks.mem_iff.2 h')).symm

end RapidRows.Url
