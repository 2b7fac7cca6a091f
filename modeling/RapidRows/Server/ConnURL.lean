import RapidRows.Url.Query
import RapidRows.Config.Model

/-!
# The connection string

`dsconnect` hands `pgxpool.ParseConfig` the URL `ds2url` writes (`server.go`):
`postgres://?` and a query that `url.Values` encodes. The named connection
fields are set when they are not empty, then every entry of `Params` in the
order `range` visits the map, then `connect_timeout` from a positive
`Timeout`; `Set` replaces, so a later setting wins.

The driver reads the settings back from `URL.Query`. What it reads for a key
is, by precedence, `connect_timeout` from a positive `Timeout`, then the
key's `Params` entry, then the named field with that keyword
(`connSetting`), whatever the order of the map (`ds2url_settings`): every
escaped byte comes back, no setting splits or merges with another, and a
key's value is the last one set. The string itself does not depend on that
order either (`ds2url_order_independent`).
-/

namespace RapidRows.Server

open RapidRows.Config RapidRows.Url

/-- The connection fields of a `Datasource` that only `ds2url` reads; the
model of `Datasource` in `Config` holds `SSLCert`, `SSLKey` and
`SSLRootCert`. -/
structure ConnFields where
  host : String
  user : String
  password : String
  database : String
  passfile : String
  sslMode : String

/-- The `set(field, keyword)` calls of `ds2url`, in order. -/
def namedFields (s : Datasource) (c : ConnFields) : List (String × String) :=
  [(c.host, "host"), (c.user, "user"), (c.password, "password"), (c.database, "dbname"),
    (c.passfile, "passfile"), (c.sslMode, "sslmode"), (s.sslCert, "sslcert"),
    (s.sslKey, "sslkey"), (s.sslRootCert, "sslrootcert")]

/-- `set := func(s, kw string)`: a field is set only when it is not empty. -/
def setNonEmpty (params : Values) (x kw : String) : Values :=
  if (strBytes x).length > 0 then params.set (strBytes kw) (strBytes x) else params

/-- `math.Round`, on the bits: to the nearest integer, half away from zero. -/
def mathRound (x : F64) : F64 :=
  let e := (x.bits >>> 52) &&& 0x7FF
  if e < 1023 then
    ⟨x.bits &&& 0x8000000000000000 ||| (if e = 1022 then 0x3FF0000000000000 else 0)⟩
  else if e < 1023 + 52 then
    let e := e - 1023
    ⟨(x.bits + (0x8000000000000 >>> e)) &&& ~~~(0xFFFFFFFFFFFFF >>> e)⟩
  else x

/-- `strconv.Itoa(int(math.Round(*s.Timeout)))`. -/
def timeoutText (t : F64) : String := toString (mathRound t).toInt64.val

/-- The map `ds2url` encodes, with `range s.Params` visiting the entries in
the order `params`. -/
def ds2urlValues (s : Datasource) (c : ConnFields) (params : List (String × String)) : Values :=
  let v := (namedFields s c).foldl (fun v f => setNonEmpty v f.1 f.2) Values.empty
  let v := params.foldl (fun v p => v.set (strBytes p.1) (strBytes p.2)) v
  match s.timeout with
  | some t =>
    if F64.lt ⟨0⟩ t then v.set (strBytes "connect_timeout") (strBytes (timeoutText t)) else v
  | none => v

/-- `ds2url`. -/
def ds2url (s : Datasource) (c : ConnFields) (params : List (String × String)) : Bytes :=
  strBytes "postgres://?" ++ (ds2urlValues s c params).encode

/-- `stringContainsCTLByte`. -/
def hasCTLByte (u : Bytes) : Bool := u.any fun b => b < 32 || b = 127

/-- The `RawQuery` of `url.Parse(u)`, for a `u` of the form `scheme://?query`:
the fragment is cut off at the first `#`, a URL with a control byte is an
error, and the raw query is what follows the first `?`. How the scheme, the
authority and the path are parsed is not modelled. -/
def rawQuery (u : Bytes) : Option Bytes :=
  let u := (cut u 35).1
  if hasCTLByte u then none else some (cut u 63).2

/-! ## §1 The settings, by precedence -/

/-- The named fields `ds2url` sets: each keyword with its field, when the
field is not empty. -/
def namedSettings (s : Datasource) (c : ConnFields) : List (Bytes × Bytes) :=
  ((namedFields s c).filter fun f => (strBytes f.1).length > 0).map
    fun f => (strBytes f.2, strBytes f.1)

/-- The entries of `Params`. -/
def paramSettings (params : List (String × String)) : List (Bytes × Bytes) :=
  params.map fun p => (strBytes p.1, strBytes p.2)

/-- `connect_timeout`, from a positive `Timeout`. -/
def timeoutSettings (s : Datasource) : List (Bytes × Bytes) :=
  match s.timeout with
  | some t => if F64.lt ⟨0⟩ t then [(strBytes "connect_timeout", strBytes (timeoutText t))] else []
  | none => []

/-- What a datasource's connection string sets the key `k` to: the first
setting for `k` by precedence, the timeout over `Params` over the named
fields. -/
def connSetting (s : Datasource) (c : ConnFields) (k : Bytes) : Option Bytes :=
  (timeoutSettings s ++ paramSettings s.params ++ namedSettings s c).lookup k

theorem namedSettings_keys_nodup (s : Datasource) (c : ConnFields) :
    ((namedSettings s c).map Prod.fst).Nodup := by
  have hkw : ((namedFields s c).map fun f => strBytes f.2).Nodup := by
    show [strBytes "host", strBytes "user", strBytes "password", strBytes "dbname",
      strBytes "passfile", strBytes "sslmode", strBytes "sslcert", strBytes "sslkey",
      strBytes "sslrootcert"].Nodup
    decide
  rw [namedSettings, List.map_map]
  exact ((List.filter_sublist _).map _).nodup hkw

theorem foldl_setNonEmpty (l : List (String × String)) (m : Values) :
    l.foldl (fun v f => setNonEmpty v f.1 f.2) m =
      ((l.filter fun f => (strBytes f.1).length > 0).map fun f => (strBytes f.2, strBytes f.1)).foldl
        (fun m p => m.set p.1 p.2) m := by
  induction l generalizing m with
  | nil => rfl
  | cons f l ih =>
    rw [List.foldl_cons, ih, setNonEmpty]
    by_cases h : (strBytes f.1).length > 0 <;> simp [h]

/-- `ds2urlValues` sets the named fields, the `Params` in the map's order, and
the timeout, one after another. -/
theorem ds2urlValues_eq (s : Datasource) (c : ConnFields) (params : List (String × String)) :
    ds2urlValues s c params = (namedSettings s c ++ paramSettings params ++ timeoutSettings s).foldl
      (fun m p => m.set p.1 p.2) Values.empty := by
  simp only [List.foldl_append, ds2urlValues, foldl_setNonEmpty, paramSettings, List.foldl_map,
    namedSettings, timeoutSettings]
  rcases s.timeout with _ | t
  · rfl
  · by_cases ht : F64.lt ⟨0⟩ t <;> simp [ht]

/-- A key of the map `ds2url` encodes has the value `connSetting` gives it,
whatever the order in which `range` visits `Params`. -/
theorem find_ds2urlValues (s : Datasource) (c : ConnFields) {params : List (String × String)}
    (hperm : params.Perm s.params) (hkeys : (s.params.map fun p => strBytes p.1).Nodup)
    (k : Bytes) : (ds2urlValues s c params).find k = (connSetting s c k).toList := by
  have hp : (paramSettings params).reverse.Perm (paramSettings s.params) :=
    (List.reverse_perm _).trans (hperm.map _)
  have hpn : ((paramSettings params).reverse.map Prod.fst).Nodup := by
    rw [(hp.map Prod.fst).nodup_iff]
    simpa [paramSettings, Function.comp_def] using hkeys
  have hn : (namedSettings s c).reverse.lookup k = (namedSettings s c).lookup k :=
    lookup_perm (List.reverse_perm _) (by simpa using (namedSettings_keys_nodup s c)) k
  have ht : (timeoutSettings s).reverse = timeoutSettings s := by
    unfold timeoutSettings
    split <;> [split <;> rfl; rfl]
  rw [ds2urlValues_eq, find_foldl_set, List.reverse_append, List.reverse_append, connSetting,
    List.lookup_append, List.lookup_append, List.lookup_append, List.lookup_append, ht, hn,
    lookup_perm hp hpn k, Values.find_empty]
  cases (timeoutSettings s).lookup k <;> cases (paramSettings s.params).lookup k <;>
    cases (namedSettings s c).lookup k <;> rfl

/-- `url.Parse` of `postgres://?` and an encoded map takes the map's encoding
as the raw query: an encoding is printable ASCII, and holds neither `#` nor
`?`. -/
theorem rawQuery_postgres_encode (m : Values) :
    rawQuery (strBytes "postgres://?" ++ m.encode) = some m.encode := by
  have hsafe : ∀ b ∈ m.encode, b ≠ 35 ∧ b ≠ 63 ∧ (b < 32 || b = 127) = false := fun b hb => by
    rcases mem_encode hb with rfl | rfl | rfl | rfl | h
    · decide
    · decide
    · decide
    · decide
    · refine ⟨fun e => ?_, fun e => ?_, ?_⟩
      · simp [shouldEscape_of_special (.inr (.inr (.inr (.inl e))))] at h
      · simp [shouldEscape_of_special (.inr (.inr (.inr (.inr (.inl e)))))] at h
      · cases hc : (b < 32 || b = 127)
        · rfl
        · simp only [Bool.or_eq_true, decide_eq_true_eq] at hc
          simp [shouldEscape_of_special (.inr (.inr (.inr (.inr (.inr hc)))))] at h
  have hpre : strBytes "postgres://?" = strBytes "postgres://" ++ [63] := rfl
  have h35 : (35 : UInt8) ∉ strBytes "postgres://?" ++ m.encode := by
    simp only [List.mem_append, not_or]
    exact ⟨by decide, fun h => (hsafe 35 h).1 rfl⟩
  have hctl : hasCTLByte (strBytes "postgres://?" ++ m.encode) = false := by
    simp only [hasCTLByte, List.any_append, Bool.or_eq_false_iff]
    exact ⟨by decide, List.any_eq_false.2 fun b hb => by simp [(hsafe b hb).2.2]⟩
  rw [rawQuery, cut_of_not_mem h35]
  simp only [hctl, Bool.false_eq_true, if_false]
  rw [hpre, List.append_assoc, List.singleton_append, cut_append_cons _ (by decide)]

/-- **The driver reads the settings `connSetting` names** from the string
`ds2url` writes: `url.Parse` takes the query, and `URL.Query` gives each key
the one value its precedence says, or none, for every order of `Params`. -/
theorem ds2url_settings (s : Datasource) (c : ConnFields) (params : List (String × String))
    (hperm : params.Perm s.params) (hkeys : (s.params.map fun p => strBytes p.1).Nodup) :
    ∃ q, rawQuery (ds2url s c params) = some q ∧
      ∀ k, (parseQuery q).find k = (connSetting s c k).toList :=
  ⟨_, rawQuery_postgres_encode _, fun k => by rw [find_parseQuery_encode, find_ds2urlValues s c hperm hkeys]⟩

/-- A datasource with a host, a database, an SSL mode, two `Params` entries
and a timeout of 2.5 seconds. -/
def sampleDatasource : Datasource :=
  { name := "main", params := [("application_name", "rapidrows"), ("sslmode", "require")],
    timeout := some ⟨0x4004000000000000⟩, role := "", sslCert := "", sslKey := "",
    sslRootCert := "", pool := none }

/-- Its connection fields. -/
def sampleConnFields : ConnFields := ⟨"db.local", "app", "", "appdb", "", "disable"⟩

set_option maxRecDepth 4000 in
example : ds2url sampleDatasource sampleConnFields sampleDatasource.params =
    strBytes ("postgres://?application_name=rapidrows&connect_timeout=3&dbname=appdb&" ++
      "host=db.local&sslmode=require&user=app") := by
  decide

theorem sample_ds2url_settings :
    sampleDatasource.params.reverse.Perm sampleDatasource.params ∧
    (sampleDatasource.params.map fun p => strBytes p.1).Nodup ∧
    ∃ q, rawQuery (ds2url sampleDatasource sampleConnFields sampleDatasource.params.reverse) = some q ∧
      ∀ k, (parseQuery q).find k = (connSetting sampleDatasource sampleConnFields k).toList :=
  ⟨List.reverse_perm _, by decide, ds2url_settings _ _ _ (List.reverse_perm _) (by decide)⟩

/-- **`ds2url` writes one string for a datasource**, whatever the order in
which `range` visits `Params`: `Encode` sorts the keys. -/
theorem ds2url_order_independent (s : Datasource) (c : ConnFields) {o₁ o₂ : List (String × String)}
    (h₁ : o₁.Perm s.params) (h₂ : o₂.Perm s.params)
    (hkeys : (s.params.map fun p => strBytes p.1).Nodup) : ds2url s c o₁ = ds2url s c o₂ := by
  have hk : (ds2urlValues s c o₁).keys.Perm (ds2urlValues s c o₂).keys := by
    refine (List.perm_ext_iff_of_nodup (ds2urlValues s c o₁).nodup (ds2urlValues s c o₂).nodup).2
      fun k => ?_
    show k ∈ (ds2urlValues s c o₁).keys ↔ k ∈ (ds2urlValues s c o₂).keys
    rw [ds2urlValues_eq, ds2urlValues_eq, mem_keys_foldl_set, mem_keys_foldl_set]
    simp only [List.map_append, List.mem_append, paramSettings, List.map_map,
      ((h₁.trans h₂.symm).map _).mem_iff]
  rw [ds2url, ds2url, encode_congr hk fun k => by
    rw [find_ds2urlValues s c h₁ hkeys, find_ds2urlValues s c h₂ hkeys]]

theorem sample_ds2url_order_independent :
    sampleDatasource.params.reverse.Perm sampleDatasource.params ∧
    sampleDatasource.params.Perm sampleDatasource.params ∧
    (sampleDatasource.params.map fun p => strBytes p.1).Nodup ∧
    ds2url sampleDatasource sampleConnFields sampleDatasource.params.reverse =
      ds2url sampleDatasource sampleConnFields sampleDatasource.params :=
  ⟨List.reverse_perm _, List.Perm.refl _, by decide,
    ds2url_order_independent _ _ (List.reverse_perm _) (List.Perm.refl _) (by decide)⟩

end RapidRows.Server
