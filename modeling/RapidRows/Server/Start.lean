import Mathlib.Data.List.Nodup

/-!
# What a failed `Start` leaves behind

`APIServer.Start` (`server.go`) creates `bgctx`, connects every datasource
(`datasources.start`), hijacks a connection per datasource with streams and
starts a `notifDispatcher` on it (`startNotifDispatchers`), schedules the jobs
and starts the cron, and listens. Each step can fail, and then `Start`
returns at once. What the database, the cron parser and the network do is an
input: `StartEnv`.

`datasources.start` closes the pools it opened when a connect fails
(`dsStart_error_closes_pools`), and `startNotifDispatchers` closes the
connections of the dispatchers it started. Nothing else is undone: no failure
cancels `bgctx` (`start_keeps_bgctx`), and a failure after the
datasources connected leaves every pool open (`start_keeps_pools`). A
failed `net.Listen` leaves the pools, the dispatchers, their fetchers and the
cron running (`listen_failure_leaks`).
-/

namespace RapidRows.Server

/-- The parts of a config that `Start` reads. -/
structure StartConfig where
  /-- The names of `Datasources`, in order. -/
  datasources : List String
  /-- Each stream's datasource and channel. -/
  streams : List (String × String)
  /-- Each job's schedule. -/
  jobs : List String

/-- What the world does during `Start`. -/
structure StartEnv where
  /-- `dsconnect` succeeds. -/
  connect : String → Bool
  /-- `a.ds.hijack` succeeds. -/
  hijack : String → Bool
  /-- Every `LISTEN` of `nd.start` succeeds. -/
  listen : String → Bool
  /-- `a.c.AddFunc` accepts the schedule. -/
  addFunc : String → Bool
  /-- `net.Listen` succeeds. -/
  bind : Bool
  /-- The order in which `range` visits a map's keys. -/
  mapOrder : List (String × List String) → List (String × List String)
  perm : ∀ l, (mapOrder l).Perm l

/-- The resources of the server. -/
structure Res where
  bgLive : Bool
  pools : List String
  conns : List String
  dispatchers : List String
  fetchers : List String
  cron : Bool
  srv : Bool
deriving DecidableEq

/-- A server that `New` made. -/
def Res.idle : Res := ⟨false, [], [], [], [], false, false⟩

/-- Where `Start` failed. -/
inductive StartErr
  | connect (ds : String)
  | hijack (ds : String)
  | listen (ds : String)
  | addFunc (schedule : String)
  | bind
deriving DecidableEq

/-! ## §1 The steps -/

/-- `d.stop()`: close every pool. -/
def dsStop (r : Res) : Res := { r with pools := [] }

/-- `datasources.start`: connect each source in order; on a failure, close
the pools and return. -/
def dsStart (env : StartEnv) (r : Res) : List String → Except StartErr Res × Res
  | [] => (.ok r, r)
  | ds :: rest =>
    if env.connect ds then dsStart env { r with pools := r.pools ++ [ds] } rest
    else (.error (.connect ds), dsStop r)

/-- `add`: the channels each datasource listens to, without repeats. -/
def ds2pgchans : List (String × String) → List (String × List String) → List (String × List String)
  | [], m => m
  | (ds, ch) :: rest, m =>
    ds2pgchans rest <|
      match m.lookup ds with
      | some chans => if ch ∈ chans then m else m.map fun e => if e.1 = ds then (ds, chans ++ [ch]) else e
      | none => m ++ [(ds, [ch])]

/-- The loop of `startNotifDispatchers`, with `connsToClose`; it stops at the
first failure. -/
def ndLoop (env : StartEnv) (r : Res) (toClose : List String) :
    List (String × List String) → Option StartErr × Res × List String
  | [] => (none, r, toClose)
  | (ds, _) :: rest =>
    if ¬env.hijack ds then (some (.hijack ds), r, toClose)
    else if ¬env.listen ds then (some (.listen ds), { r with conns := r.conns ++ [ds] }, toClose)
    else
      let r' := { r with
        conns := r.conns ++ [ds]
        dispatchers := r.dispatchers ++ [ds]
        fetchers := r.fetchers ++ [ds] }
      ndLoop env r' (toClose ++ [ds]) rest

/-- `startNotifDispatchers`: on an error, close the connections in
`connsToClose`, which ends their fetchers. -/
def startNotifDispatchers (env : StartEnv) (cfg : StartConfig) (r : Res) : Except StartErr Res × Res :=
  match ndLoop env r [] (env.mapOrder (ds2pgchans cfg.streams [])) with
  | (none, r', _) => (.ok r', r')
  | (some e, r', toClose) =>
    let closed := { r' with
      conns := r'.conns.filter (· ∉ toClose)
      fetchers := r'.fetchers.filter (· ∉ toClose) }
    (.error e, closed)

/-- `setupJobs`. -/
def setupJobs (env : StartEnv) : List String → Option StartErr
  | [] => none
  | s :: rest => if env.addFunc s then setupJobs env rest else some (.addFunc s)

/-- `APIServer.Start`: the error it returns, if any, and the resources after. -/
def start (env : StartEnv) (cfg : StartConfig) (r : Res) : Option StartErr × Res :=
  let r := { r with bgLive := true }
  match dsStart env r cfg.datasources with
  | (.error e, r) => (some e, r)
  | (.ok _, r) =>
    match startNotifDispatchers env cfg r with
    | (.error e, r) => (some e, r)
    | (.ok _, r) =>
      match setupJobs env cfg.jobs with
      | some e => (some e, r)
      | none =>
        let r := { r with cron := true }
        if env.bind then (none, { r with srv := true }) else (some .bind, r)

/-! ## §2 What each step touches -/

theorem dsStart_snd (env : StartEnv) (r : Res) (l : List String) :
    ∃ ps, (dsStart env r l).2 = { r with pools := ps } := by
  induction l generalizing r with
  | nil => exact ⟨r.pools, rfl⟩
  | cons ds rest ih =>
    unfold dsStart
    split
    · exact ih _
    · exact ⟨[], rfl⟩

/-- **`datasources.start` cleans up.** When a connect fails, no pool is open. -/
theorem dsStart_error_closes_pools {env : StartEnv} {r r' : Res} {l : List String} {e : StartErr}
    (h : dsStart env r l = (.error e, r')) : r'.pools = [] := by
  induction l generalizing r with
  | nil => cases h
  | cons ds rest ih =>
    unfold dsStart at h
    split at h
    · exact ih h
    · cases h; rfl

theorem dsStart_ok {env : StartEnv} {r r' x : Res} {l : List String}
    (h : dsStart env r l = (.ok x, r')) : r' = { r with pools := r.pools ++ l } := by
  induction l generalizing r with
  | nil => cases h; simp
  | cons ds rest ih =>
    unfold dsStart at h
    split at h
    · rw [ih h]; simp
    · cases h

theorem ndLoop_snd (env : StartEnv) (r : Res) (toClose : List String)
    (l : List (String × List String)) :
    ∃ cs ds fs, (ndLoop env r toClose l).2.1 = { r with conns := cs, dispatchers := ds, fetchers := fs } := by
  induction l generalizing r toClose with
  | nil => exact ⟨_, _, _, rfl⟩
  | cons e rest ih =>
    unfold ndLoop
    split_ifs
    all_goals first | exact ⟨r.conns, r.dispatchers, r.fetchers, rfl⟩ | exact ⟨_, _, _, rfl⟩ | exact ih _ _

theorem startNotifDispatchers_snd (env : StartEnv) (cfg : StartConfig) (r : Res) :
    ∃ cs ds fs, (startNotifDispatchers env cfg r).2 =
      { r with conns := cs, dispatchers := ds, fetchers := fs } := by
  obtain ⟨cs, ds, fs, h⟩ := ndLoop_snd env r [] (env.mapOrder (ds2pgchans cfg.streams []))
  unfold startNotifDispatchers
  split
  · rename_i heq; rw [heq] at h; exact ⟨cs, ds, fs, h⟩
  · rename_i heq; rw [heq] at h; simp only at h; subst h; exact ⟨_, _, _, rfl⟩

theorem startNotifDispatchers_bgLive (env : StartEnv) (cfg : StartConfig) (r : Res) :
    (startNotifDispatchers env cfg r).2.bgLive = r.bgLive := by
  obtain ⟨_, _, _, h⟩ := startNotifDispatchers_snd env cfg r
  rw [h]

theorem startNotifDispatchers_pools (env : StartEnv) (cfg : StartConfig) (r : Res) :
    (startNotifDispatchers env cfg r).2.pools = r.pools := by
  obtain ⟨_, _, _, h⟩ := startNotifDispatchers_snd env cfg r
  rw [h]

theorem dsStart_bgLive (env : StartEnv) (r : Res) (l : List String) :
    (dsStart env r l).2.bgLive = r.bgLive := by
  obtain ⟨_, h⟩ := dsStart_snd env r l
  rw [h]

/-! ## §3 A failed `Start` -/

/-- **`Start` never cancels `bgctx`**, whether it fails or not. -/
theorem start_keeps_bgctx (env : StartEnv) (cfg : StartConfig) (r : Res) :
    (start env cfg r).2.bgLive = true := by
  have h1 := dsStart_bgLive env { r with bgLive := true } cfg.datasources
  unfold start
  dsimp only
  rcases hd : dsStart env { r with bgLive := true } cfg.datasources with ⟨_ | _, r1⟩ <;>
    rw [hd] at h1 <;> dsimp only
  · exact h1
  · have h2 := startNotifDispatchers_bgLive env cfg r1
    rcases hn : startNotifDispatchers env cfg r1 with ⟨_ | _, r2⟩ <;> rw [hn] at h2 <;> dsimp only
    · exact h2.trans h1
    · cases setupJobs env cfg.jobs
      · dsimp only; split_ifs <;> exact h2.trans h1
      · exact h2.trans h1

/-- **Once the datasources connected, every pool stays open**, whether a later
step fails or not. -/
theorem start_keeps_pools {env : StartEnv} {cfg : StartConfig} {r x : Res}
    (hds : (dsStart env { r with bgLive := true } cfg.datasources).1 = .ok x) :
    (start env cfg r).2.pools = r.pools ++ cfg.datasources := by
  unfold start
  dsimp only
  rcases hd : dsStart env { r with bgLive := true } cfg.datasources with ⟨_ | _, r1⟩ <;>
    rw [hd] at hds <;> dsimp only
  · cases hds
  · have h1 : r1.pools = r.pools ++ cfg.datasources := by rw [dsStart_ok hd]
    have h2 := startNotifDispatchers_pools env cfg r1
    rcases hn : startNotifDispatchers env cfg r1 with ⟨_ | _, r2⟩ <;> rw [hn] at h2 <;> dsimp only
    · exact h2.trans h1
    · cases setupJobs env cfg.jobs
      · dsimp only; split_ifs <;> exact h2.trans h1
      · exact h2.trans h1

/-! ## §4 A failed `net.Listen` -/

/-- All steps succeed but `net.Listen`. -/
def listenFails : StartEnv where
  connect _ := true
  hijack _ := true
  listen _ := true
  addFunc _ := true
  bind := false
  mapOrder := id
  perm l := List.Perm.refl l

/-- One datasource, one stream on it, and one job. -/
def oneOfEach : StartConfig := ⟨["db"], [("db", "chan")], ["@hourly"]⟩

/-- `Start` returns the bind error with `bgctx` live, the pool open, the
dispatcher, its connection and fetcher running, and the cron started. -/
theorem listen_failure_leaks :
    start listenFails oneOfEach Res.idle =
      (some .bind, ⟨true, ["db"], ["db"], ["db"], ["db"], true, false⟩) := by
  decide

/-! ## §5 A successful `Start` -/

/-- The datasource `ds` has a dispatcher entry in the map that lists the
channel `ch`. -/
def ListensOn (m : List (String × List String)) (ds ch : String) : Prop :=
  ∃ chans, (ds, chans) ∈ m ∧ ch ∈ chans

/-- A map `ds2pgchans` builds: each datasource once, with a list of channels
that is not empty and holds each channel once. -/
structure ChanMapWf (m : List (String × List String)) : Prop where
  keys_nodup : (m.map Prod.fst).Nodup
  chans_nodup : ∀ e ∈ m, e.2.Nodup
  chans_ne_nil : ∀ e ∈ m, e.2 ≠ []

theorem mem_of_lookup_eq_some {β : Type} {m : List (String × β)} {k : String} {v : β}
    (h : m.lookup k = some v) : (k, v) ∈ m := by
  obtain ⟨l₁, l₂, rfl, -⟩ := List.lookup_eq_some_iff.1 h
  simp

theorem not_mem_of_lookup_eq_none {β : Type} {m : List (String × β)} {k : String}
    (h : m.lookup k = none) : k ∉ m.map Prod.fst := fun hk => by
  obtain ⟨⟨a, b⟩, hm, rfl⟩ := List.mem_map.1 hk
  simpa using List.lookup_eq_none_iff.1 h _ hm

/-- `add` of a datasource it has not seen. -/
theorem add_new {m : List (String × List String)} (hm : ChanMapWf m) {ds : String}
    (hds : ds ∉ m.map Prod.fst) (ch : String) :
    ChanMapWf (m ++ [(ds, [ch])]) ∧
      ∀ d c, ListensOn (m ++ [(ds, [ch])]) d c ↔ ListensOn m d c ∨ (d = ds ∧ c = ch) := by
  refine ⟨⟨?_, fun e he => ?_, fun e he => ?_⟩, fun d c => ?_⟩
  · simpa [List.nodup_append, hds] using hm.keys_nodup
  · rcases List.mem_append.1 he with he | he
    · exact hm.chans_nodup e he
    · simp [List.mem_singleton.1 he]
  · rcases List.mem_append.1 he with he | he
    · exact hm.chans_ne_nil e he
    · simp [List.mem_singleton.1 he]
  · simp only [ListensOn, List.mem_append, List.mem_singleton, Prod.mk.injEq]
    constructor
    · rintro ⟨chans, h | ⟨hd, rfl⟩, hc⟩
      · exact .inl ⟨chans, h, hc⟩
      · exact .inr ⟨hd, List.mem_singleton.1 hc⟩
    · rintro (⟨chans, h, hc⟩ | ⟨hd, hc⟩)
      · exact ⟨chans, .inl h, hc⟩
      · exact ⟨[ch], .inr ⟨hd, rfl⟩, hc ▸ List.mem_singleton_self ch⟩

/-- `add` of a channel that a datasource it has seen does not list yet. -/
theorem add_append {m : List (String × List String)} (hm : ChanMapWf m) {ds : String}
    {chans : List String} (hmem : (ds, chans) ∈ m) {ch : String} (hch : ch ∉ chans) :
    let m' := m.map fun e => if e.1 = ds then (ds, chans ++ [ch]) else e
    ChanMapWf m' ∧ ∀ d c, ListensOn m' d c ↔ ListensOn m d c ∨ (d = ds ∧ c = ch) := by
  have huniq : ∀ e ∈ m, e.1 = ds → e = (ds, chans) := fun e he h =>
    List.inj_on_of_nodup_map hm.keys_nodup he hmem h
  have hkeys : (m.map fun e => if e.1 = ds then (ds, chans ++ [ch]) else e).map Prod.fst =
      m.map Prod.fst := by
    simp only [List.map_map]
    exact List.map_congr_left fun e _ => by by_cases h : e.1 = ds <;> simp [h]
  refine ⟨⟨hkeys ▸ hm.keys_nodup, fun e' he' => ?_, fun e' he' => ?_⟩, fun d c => ?_⟩
  · obtain ⟨e, he, rfl⟩ := List.mem_map.1 he'
    by_cases h : e.1 = ds
    · simpa [h, List.nodup_append, hch] using hm.chans_nodup _ hmem
    · simpa [h] using hm.chans_nodup e he
  · obtain ⟨e, he, rfl⟩ := List.mem_map.1 he'
    by_cases h : e.1 = ds
    · simp [h]
    · simpa [h] using hm.chans_ne_nil e he
  · simp only [ListensOn, List.mem_map]
    constructor
    · rintro ⟨cs, ⟨e, he, heq⟩, hc⟩
      by_cases h : e.1 = ds
      · rw [huniq e he h, if_pos rfl] at heq
        obtain ⟨rfl, rfl⟩ := Prod.mk.inj heq
        rcases List.mem_append.1 hc with hc | hc
        · exact .inl ⟨chans, hmem, hc⟩
        · exact .inr ⟨rfl, List.mem_singleton.1 hc⟩
      · rw [if_neg h] at heq
        exact .inl ⟨cs, heq ▸ he, hc⟩
    · rintro (⟨cs, hm', hc⟩ | ⟨hd, hc⟩)
      · by_cases h : d = ds
        · have hcs : cs = chans := (Prod.mk.inj (huniq _ hm' h)).2
          refine ⟨chans ++ [ch], ⟨(d, cs), hm', by simp [h]⟩, List.mem_append_left _ (hcs ▸ hc)⟩
        · exact ⟨cs, ⟨(d, cs), hm', by simp [h]⟩, hc⟩
      · exact ⟨chans ++ [ch], ⟨(ds, chans), hmem, by simp [hd]⟩, by simp [hc]⟩

/-- One `add(ds, pgchan)`: the map stays well formed and lists one channel
more. -/
theorem ds2pgchans_single {m : List (String × List String)} (hm : ChanMapWf m) (ds ch : String) :
    ChanMapWf (ds2pgchans [(ds, ch)] m) ∧
      ∀ d c, ListensOn (ds2pgchans [(ds, ch)] m) d c ↔ ListensOn m d c ∨ (d = ds ∧ c = ch) := by
  simp only [ds2pgchans]
  rcases hl : m.lookup ds with _ | chans <;> dsimp only
  · exact add_new hm (not_mem_of_lookup_eq_none hl) ch
  · have hmem := mem_of_lookup_eq_some hl
    split_ifs with hch
    · exact ⟨hm, fun d c => ⟨.inl, by rintro (h | ⟨rfl, rfl⟩); exacts [h, ⟨chans, hmem, hch⟩]⟩⟩
    · exact add_append hm hmem hch

/-- **The channels each datasource needs**: `ds2pgchans` lists each
datasource with streams once, with the channels of its streams, each once. -/
theorem ds2pgchans_spec (streams : List (String × String)) :
    ChanMapWf (ds2pgchans streams []) ∧
      ∀ ds ch, ListensOn (ds2pgchans streams []) ds ch ↔ (ds, ch) ∈ streams := by
  suffices h : ∀ m, ChanMapWf m → ChanMapWf (ds2pgchans streams m) ∧
      ∀ ds ch, ListensOn (ds2pgchans streams m) ds ch ↔ ListensOn m ds ch ∨ (ds, ch) ∈ streams by
    refine (h [] ⟨List.nodup_nil, by simp, by simp⟩).imp_right fun h' ds ch => ?_
    rw [h' ds ch]
    simp [ListensOn]
  induction streams with
  | nil => exact fun m hm => ⟨hm, by simp [ds2pgchans]⟩
  | cons e rest ih =>
    intro m hm
    obtain ⟨hwf, hmem⟩ := ds2pgchans_single hm e.1 e.2
    refine (ih _ hwf).imp_right fun h ds ch => ?_
    rw [show ds2pgchans (e :: rest) m = ds2pgchans rest (ds2pgchans [e] m) from rfl, h, hmem,
      List.mem_cons, Prod.ext_iff]
    tauto

theorem ndLoop_none {env : StartEnv} {r r' : Res} {toClose toClose' : List String}
    {l : List (String × List String)} (h : ndLoop env r toClose l = (none, r', toClose')) :
    r' = { r with
      conns := r.conns ++ l.map Prod.fst
      dispatchers := r.dispatchers ++ l.map Prod.fst
      fetchers := r.fetchers ++ l.map Prod.fst } := by
  induction l generalizing r toClose with
  | nil => cases h; simp
  | cons e rest ih =>
    unfold ndLoop at h
    split_ifs at h
    all_goals first | cases h | (rw [ih h]; simp)

/-- A `Start` that returns no error connected every datasource, started a
dispatcher for each entry of `ds2pgchans`, set up the jobs and listens. -/
theorem start_none {env : StartEnv} {cfg : StartConfig} {r r' : Res} (h : start env cfg r = (none, r')) :
    let keys := (env.mapOrder (ds2pgchans cfg.streams [])).map Prod.fst
    r' = { r with
      bgLive := true
      pools := r.pools ++ cfg.datasources
      conns := r.conns ++ keys
      dispatchers := r.dispatchers ++ keys
      fetchers := r.fetchers ++ keys
      cron := true
      srv := true } := by
  unfold start at h
  dsimp only at h
  rcases hd : dsStart env { r with bgLive := true } cfg.datasources with ⟨_ | _, r1⟩ <;>
    rw [hd] at h <;> dsimp only at h
  · cases h
  · rcases hn : startNotifDispatchers env cfg r1 with ⟨_ | _, r2⟩ <;> rw [hn] at h <;> dsimp only at h
    · cases h
    · unfold startNotifDispatchers at hn
      rcases hl : ndLoop env r1 [] (env.mapOrder (ds2pgchans cfg.streams [])) with ⟨_ | _, r3, tc⟩ <;>
        rw [hl] at hn <;> dsimp only at hn
      · cases hn
        rw [ndLoop_none hl, dsStart_ok hd] at h
        split at h
        · cases h
        · split_ifs at h
          · cases h
            rfl
          · cases h
      · cases hn

/-- **What a successful `Start` sets up**: from a new server, a pool for
every datasource, and one dispatcher for each datasource that has streams and
for no other, started on a list of channels that holds the channel of each of
its streams. -/
theorem start_ok_serves {env : StartEnv} {cfg : StartConfig} {r : Res}
    (h : start env cfg Res.idle = (none, r)) :
    r.pools = cfg.datasources ∧ r.dispatchers.Nodup ∧
      (∀ ds, ds ∈ r.dispatchers ↔ ∃ ch, (ds, ch) ∈ cfg.streams) ∧
      (∀ ds ch, (ds, ch) ∈ cfg.streams →
        ∃ chans, (ds, chans) ∈ env.mapOrder (ds2pgchans cfg.streams []) ∧ ch ∈ chans) ∧
      r.srv = true := by
  obtain ⟨hwf, hmem⟩ := ds2pgchans_spec cfg.streams
  have hperm := env.perm (ds2pgchans cfg.streams [])
  rw [start_none h]
  refine ⟨rfl, (hperm.map Prod.fst).nodup_iff.2 hwf.keys_nodup, fun ds => ?_, fun ds ch hs => ?_, rfl⟩
  · simp only [Res.idle, List.nil_append, List.mem_map, hperm.mem_iff]
    constructor
    · rintro ⟨⟨d, chans⟩, he, rfl⟩
      obtain ⟨ch, hch⟩ := List.exists_mem_of_ne_nil _ (hwf.chans_ne_nil _ he)
      exact ⟨ch, (hmem d ch).1 ⟨chans, he, hch⟩⟩
    · rintro ⟨ch, hs⟩
      obtain ⟨chans, he, -⟩ := (hmem ds ch).2 hs
      exact ⟨(ds, chans), he, rfl⟩
  · obtain ⟨chans, he, hc⟩ := (hmem ds ch).2 hs
    exact ⟨chans, hperm.mem_iff.2 he, hc⟩

end RapidRows.Server
