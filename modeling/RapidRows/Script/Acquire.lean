import RapidRows.Value
import Mathlib.Data.Finset.Card

/-!
# Connections a script acquires

`runScript` (`script.go`) gives a script `$sys.acquire`, which checks its
arguments, takes a connection from the datasource's pool, and stores it in
`sctx.conns[dsname]`; after the script, `sctx.close()` releases every
connection in `sctx.conns`. The pools are one list of checked-out
connections, each with a fresh number. What `pool.Acquire` does (wait, time
out, fail) is an input of each call, and so is how the script reacts to what
`$sys.acquire` throws.

A second acquire of one name overwrites the first connection in `conns`, and
nothing releases it: after any run, the checked-out count grows by the
successful acquires less the distinct names they used (`runScript_out_length`).
-/

namespace RapidRows.Script

/-- A pooled connection, by its datasource and a number no other has. -/
structure Conn where
  ds : String
  id : Nat
deriving DecidableEq

/-- The checked-out connections of the datasources' pools. -/
structure Pools where
  out : List Conn
  next : Nat
  /-- Every checked-out connection is numbered below `next`. -/
  lt_next : ∀ c ∈ out, c.id < next

/-- `pool.Acquire` that succeeds. -/
def Pools.acquire (p : Pools) (ds : String) : Conn × Pools :=
  (⟨ds, p.next⟩,
    { out := p.out ++ [⟨ds, p.next⟩]
      next := p.next + 1
      lt_next := fun c hc => by
        rcases List.mem_append.mp hc with h | h
        · exact Nat.lt_succ_of_lt (p.lt_next c h)
        · rw [List.mem_singleton.mp h]; exact Nat.lt_succ_self _ })

/-- `conn.Release()`. -/
def Pools.release (p : Pools) (c : Conn) : Pools :=
  ⟨p.out.erase c, p.next, fun c' hc' => p.lt_next c' (List.mem_of_mem_erase hc')⟩

/-- No connection checked out. -/
def Pools.empty : Pools := ⟨[], 0, fun _ h => absurd h (List.not_mem_nil _)⟩

@[simp] theorem Pools.acquire_fst (p : Pools) (ds : String) : (p.acquire ds).1 = ⟨ds, p.next⟩ := rfl
@[simp] theorem Pools.acquire_out (p : Pools) (ds : String) :
    (p.acquire ds).2.out = p.out ++ [⟨ds, p.next⟩] := rfl
@[simp] theorem Pools.acquire_next (p : Pools) (ds : String) :
    (p.acquire ds).2.next = p.next + 1 := rfl
@[simp] theorem Pools.release_out (p : Pools) (c : Conn) : (p.release c).out = p.out.erase c := rfl

/-! ## §1 `$sys.acquire` -/

/-- A JavaScript value passed to a Go function, by its `qjs` tag. -/
inductive JsValue
  | string (s : String)
  | int (n : Int)
  | float (x : F64)
  | other
deriving DecidableEq

/-- One call of `$sys.acquire`: its arguments, and what `pool.Acquire` would
return. -/
structure AcquireCall where
  args : List JsValue
  pool : Except String Unit

/-- `sctx.conns`, a Go map from datasource name to connection. -/
abbrev ConnMap := List (String × Conn)

/-- `sctx.conns[k] = v`. -/
def ConnMap.set (m : ConnMap) (k : String) (v : Conn) : ConnMap :=
  (k, v) :: m.filter (fun e => e.1 ≠ k)

section Acquire

variable (quote : String → String)

/-- The argument checks of `scriptContext.acquire`, with the messages it
throws; the datasource name when they pass. The timeout's value goes only to
`pool.Acquire`, whose result is an input here. -/
def acquireArgs (dsNames : List String) (args : List JsValue) : Except String String :=
  if args.length ≠ 1 ∧ args.length ≠ 2 then .error "$sys.acquire: needs 1 or 2 arguments"
  else match args with
    | .string dsname :: rest =>
      if dsname.length = 0 then .error "$sys.acquire: datasource not specified"
      else if dsname ∉ dsNames then .error ("$sys.acquire: unknown datasource " ++ quote dsname)
      else match rest with
        | [] | [.int _] | [.float _] => .ok dsname
        | _ => .error "$sys.acquire: second argument must be timeout in seconds (number)"
    | _ => .error "$sys.acquire: first argument must be datasource name (string)"

/-- A script's `scriptContext`: the pools, and `conns`. -/
structure ScriptCtx where
  pools : Pools
  conns : ConnMap

/-- `scriptContext.acquire`: the connection, or the message it throws. -/
def ScriptCtx.acquire (dsNames : List String) (s : ScriptCtx) (call : AcquireCall) :
    Except String Conn × ScriptCtx :=
  match acquireArgs quote dsNames call.args with
  | .error msg => (.error msg, s)
  | .ok dsname =>
    match call.pool with
    | .error e => (.error ("$sys.acquire(" ++ quote dsname ++ "): " ++ e), s)
    | .ok () =>
      (.ok (s.pools.acquire dsname).1,
        ⟨(s.pools.acquire dsname).2, s.conns.set dsname (s.pools.acquire dsname).1⟩)

/-- `scriptContext.close`: release every connection in `conns`. -/
def ScriptCtx.close (s : ScriptCtx) : Pools := s.conns.foldl (fun p e => p.release e.2) s.pools

/-- `runScript`, for the pools: a fresh `scriptContext`, the script's calls of
`$sys.acquire`, then `close`. -/
def runScript (dsNames : List String) (calls : List AcquireCall) (p : Pools) : Pools :=
  (calls.foldl (fun (s : ScriptCtx) c => (s.acquire quote dsNames c).2) ⟨p, []⟩).close

/-- The datasource a call takes a connection from, if it takes one. -/
def AcquireCall.obtains (dsNames : List String) (call : AcquireCall) : Option String :=
  match acquireArgs quote dsNames call.args, call.pool with
  | .ok dsname, .ok () => some dsname
  | _, _ => none

theorem ScriptCtx.acquire_of_obtains {dsNames : List String} {s : ScriptCtx} {call : AcquireCall}
    {n : String} (h : call.obtains quote dsNames = some n) :
    (s.acquire quote dsNames call).2 = ⟨(s.pools.acquire n).2, s.conns.set n ⟨n, s.pools.next⟩⟩ := by
  unfold AcquireCall.obtains at h
  unfold ScriptCtx.acquire
  split at h
  · rename_i hargs hpool
    simp only [Option.some.injEq] at h
    subst h
    simp [hargs, hpool]
  · cases h

theorem ScriptCtx.acquire_of_not_obtains {dsNames : List String} {s : ScriptCtx}
    {call : AcquireCall} (h : call.obtains quote dsNames = none) :
    (s.acquire quote dsNames call).2 = s := by
  unfold AcquireCall.obtains at h
  unfold ScriptCtx.acquire
  cases ha : acquireArgs quote dsNames call.args with
  | error msg => rfl
  | ok n =>
    cases hp : call.pool with
    | error e => rfl
    | ok u => simp [ha, hp] at h

end Acquire

/-! ## §2 `close` -/

/-- Releasing distinct checked-out connections checks each one in. -/
theorem release_all_length (cs : List Conn) (p : Pools) (hnd : cs.Nodup)
    (hmem : ∀ c ∈ cs, c ∈ p.out) :
    (cs.foldl Pools.release p).out.length + cs.length = p.out.length := by
  induction cs generalizing p with
  | nil => rfl
  | cons c cs ih =>
    simp only [List.nodup_cons] at hnd
    have hc := hmem c (List.mem_cons_self _ _)
    have hrest : ∀ c' ∈ cs, c' ∈ (p.release c).out := fun c' hc' =>
      (List.mem_erase_of_ne (fun h => hnd.1 (by subst h; exact hc'))).mpr (hmem c' (List.mem_cons_of_mem _ hc'))
    have := ih (p.release c) hnd.2 hrest
    rw [Pools.release_out, List.length_erase_of_mem hc] at this
    have hpos : 0 < p.out.length := List.length_pos_of_mem hc
    simp only [List.foldl_cons, List.length_cons]
    omega

theorem ScriptCtx.close_eq (s : ScriptCtx) : s.close = (s.conns.map Prod.snd).foldl Pools.release s.pools := by
  simp [ScriptCtx.close, List.foldl_map]

/-! ## §3 The connections of a run -/

section Run

variable (quote : String → String) (dsNames : List String)

/-- After some calls from the pools `p`: `ob` are the connections taken, in
order, and `gr` their datasources; `conns` holds one of them for each name in
`gr`. -/
structure Holds (p : Pools) (ob : List Conn) (gr : List String) (s : ScriptCtx) : Prop where
  out : s.pools.out = p.out ++ ob
  len : ob.length = gr.length
  ob_nodup : ob.Nodup
  keys_nodup : (s.conns.map Prod.fst).Nodup
  keys : (s.conns.map Prod.fst).toFinset = gr.toFinset
  vals_mem : ∀ e ∈ s.conns, e.2 ∈ ob
  vals_nodup : (s.conns.map Prod.snd).Nodup

theorem holds_start (p : Pools) : Holds p [] [] ⟨p, []⟩ :=
  ⟨by simp, rfl, List.nodup_nil, List.nodup_nil, rfl, by simp, List.nodup_nil⟩

theorem Holds.take {p : Pools} {ob : List Conn} {gr : List String} {s : ScriptCtx}
    (h : Holds p ob gr s) (n : String) :
    Holds p (ob ++ [⟨n, s.pools.next⟩]) (gr ++ [n])
      ⟨(s.pools.acquire n).2, s.conns.set n ⟨n, s.pools.next⟩⟩ := by
  have hnew : (⟨n, s.pools.next⟩ : Conn) ∉ ob := fun hm =>
    lt_irrefl _ (s.pools.lt_next _ (h.out ▸ List.mem_append_right _ hm))
  have hfilt : (s.conns.filter fun e => e.1 ≠ n).Sublist s.conns := List.filter_sublist _
  refine ⟨by simp [h.out], by simp [h.len], ?_, ?_, ?_, ?_, ?_⟩
  · exact List.nodup_append.mpr ⟨h.ob_nodup, List.nodup_singleton _, by simpa using hnew⟩
  · refine List.nodup_cons.mpr ⟨?_, h.keys_nodup.sublist (hfilt.map _)⟩
    simp
  · ext x
    have hx := Finset.ext_iff.mp h.keys x
    rw [List.mem_toFinset, List.mem_toFinset] at hx
    rw [List.mem_toFinset, List.mem_toFinset, List.mem_append, List.mem_singleton, ← hx]
    simp only [ConnMap.set, List.map_cons, List.mem_cons, List.mem_map, List.mem_filter]
    constructor
    · rintro (rfl | ⟨e, ⟨he, -⟩, rfl⟩)
      · exact .inr rfl
      · exact .inl ⟨e, he, rfl⟩
    · rintro (⟨e, he, rfl⟩ | rfl)
      · by_cases hen : e.1 = n
        · exact .inl hen
        · exact .inr ⟨e, ⟨he, by simpa using hen⟩, rfl⟩
      · exact .inl rfl
  · intro e he
    simp only [ConnMap.set, List.mem_cons] at he
    rcases he with rfl | he
    · exact List.mem_append_right _ (List.mem_singleton_self _)
    · exact List.mem_append_left _ (h.vals_mem e (hfilt.subset he))
  · refine List.nodup_cons.mpr ⟨fun hm => ?_, h.vals_nodup.sublist (hfilt.map _)⟩
    obtain ⟨e, he, hev⟩ := List.mem_map.mp hm
    have hev : e.2 = ⟨n, s.pools.next⟩ := hev
    exact hnew (hev ▸ h.vals_mem e (hfilt.subset he))

/-- The calls that take a connection, through `conns` and the pools. -/
theorem holds_run (p : Pools) (calls : List AcquireCall) :
    ∃ ob, Holds p ob (calls.filterMap (AcquireCall.obtains quote dsNames))
      (calls.foldl (fun (s : ScriptCtx) c => (s.acquire quote dsNames c).2) ⟨p, []⟩) := by
  induction calls using List.reverseRecOn with
  | nil => exact ⟨[], holds_start p⟩
  | append_singleton calls c ih =>
    obtain ⟨ob, h⟩ := ih
    simp only [List.foldl_append, List.filterMap_append, List.foldl_cons, List.foldl_nil,
      List.filterMap_cons, List.filterMap_nil]
    cases ho : c.obtains quote dsNames with
    | none => rw [ScriptCtx.acquire_of_not_obtains quote ho]; exact ⟨ob, by simpa using h⟩
    | some n => rw [ScriptCtx.acquire_of_obtains quote ho]; exact ⟨_, h.take n⟩

/-- **What a script leaves checked out.** For any calls of `$sys.acquire`, any
pool outcomes and any end of the script, the pools end with as many
checked-out connections as before, plus one for each successful acquire,
less one for each distinct datasource name those acquires used. -/
theorem runScript_out_length (p : Pools) (calls : List AcquireCall) :
    (runScript quote dsNames calls p).out.length +
        (calls.filterMap (AcquireCall.obtains quote dsNames)).toFinset.card =
      p.out.length + (calls.filterMap (AcquireCall.obtains quote dsNames)).length := by
  obtain ⟨ob, h⟩ := holds_run quote dsNames p calls
  unfold runScript
  rw [ScriptCtx.close_eq]
  have hrel := release_all_length _ _ h.vals_nodup fun c hc => by
    obtain ⟨e, he, rfl⟩ := List.mem_map.mp hc
    exact h.out ▸ List.mem_append_right _ (h.vals_mem e he)
  have hcard := List.toFinset_card_of_nodup h.keys_nodup
  rw [h.keys, List.length_map] at hcard
  rw [List.length_map] at hrel
  rw [hcard, ← h.len]
  rw [h.out, List.length_append] at hrel
  omega

end Run

/-! ## §4 Two acquires of one datasource -/

/-- A script that acquires `default` twice. -/
def acquireTwice : List AcquireCall :=
  [⟨[.string "default"], .ok ()⟩, ⟨[.string "default"], .ok ()⟩]

/-- One connection stays checked out after the script. -/
theorem acquire_twice_leaks (quote : String → String) :
    (runScript quote ["default"] acquireTwice Pools.empty).out.length = 1 := by
  rfl

end RapidRows.Script
