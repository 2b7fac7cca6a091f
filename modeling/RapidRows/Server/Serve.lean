import RapidRows.Server.Start
import RapidRows.Config.Sound

/-!
# Serving after `Start`

`serve` (`server.go`) switches on an endpoint's `ImplType`, and answers 500
"invalid impltype" to a type it does not know. `serveQuery` and `serveExec`,
and `runJob` for an `exec` job, reach their datasource's pool through
`datasources.get`, which fails with "datasource %q not found".
`serveStream` looks up the dispatcher of its stream's datasource
(`a.nd.Load`), and answers 500 "internal error" when there is none. The
source marks each of these "should not happen".

They do not, for a configuration that `IsValid` accepts and a `Start` that
returned no error (`valid_start_serves`): validation leaves only the six
implementation types and datasources that exist, `Start` opened a pool for
every datasource, and it started a dispatcher for the datasource of every
stream, on a list of channels holding the stream's channel.
-/

namespace RapidRows.Server

open RapidRows.Config

/-- What `Start` reads of a configuration: the datasource names in order,
each stream's datasource and channel, and each job's schedule. -/
def startConfigOf (c : APIServerConfig) : StartConfig :=
  ⟨c.datasources.map (·.name), c.streams.map fun s => (s.datasource, s.channel),
    c.jobs.map (·.schedule)⟩

/-- The handlers of `serve`. -/
inductive Handler
  | static
  | query
  | exec
  | script
deriving DecidableEq

/-- The switch of `serve` on `ImplType`. -/
def serveRoute (ep : Endpoint) : Except (Nat × String) Handler :=
  match ep.implType with
  | "static-text" | "static-json" => .ok .static
  | "query-json" | "query-csv" => .ok .query
  | "exec" => .ok .exec
  | "javascript" => .ok .script
  | _ => .error (500, "invalid impltype")

/-- `datasources.get(name)`: the pool of the datasource, by its name. -/
def dsGet (quote : String → String) (r : Res) (name : String) : Except String String :=
  if name ∈ r.pools then .ok name else .error ("datasource " ++ quote name ++ " not found")

/-- The dispatcher lookup of `serveStream`: the stream's datasource's
dispatcher, by the datasource's name. -/
def ndLoad (r : Res) (s : Stream) : Except (Nat × String) String :=
  if s.datasource ∈ r.dispatchers then .ok s.datasource else .error (500, "internal error")

/-- An endpoint without errors has one of the six implementation types. -/
theorem Endpoint.validate_implType {lib : Lib} {ds : List Datasource} {ep : Endpoint}
    (h : noErrors (ep.validate lib ds) = true) :
    ep.implType ∈ ["query-json", "query-csv", "exec", "static-text", "static-json", "javascript"] := by
  simp only [Endpoint.validate, noErrors_append, noErrors_flatMap, Bool.and_eq_true,
    List.all_eq_true, and_assoc] at h
  simpa using h.2.2.2.2.1

/-- `serve` runs a handler for each of the six types, and a query or exec
handler only for a type that names a datasource. -/
theorem serveRoute_ok {ep : Endpoint}
    (h : ep.implType ∈ ["query-json", "query-csv", "exec", "static-text", "static-json", "javascript"]) :
    ∃ hd, serveRoute ep = .ok hd ∧
      (hd = .query ∨ hd = .exec → ep.implType ∈ ["query-json", "query-csv", "exec"]) := by
  unfold serveRoute
  simp only [List.mem_cons, List.not_mem_nil, or_false] at h
  rcases h with h | h | h | h | h | h <;> simp [h]

theorem dsGet_of_mem (quote : String → String) {r : Res} {name : String} (h : name ∈ r.pools) :
    dsGet quote r name = .ok name := if_pos h

/-- **After a valid configuration started, no "should not happen" path is
taken**: every endpoint has a handler, whose datasource has a pool when it
runs SQL; every stream finds its dispatcher, started on the stream's channel;
and every `exec` job finds its pool. -/
theorem valid_start_serves (lib : Lib) (c : APIServerConfig) (env : StartEnv) (r : Res)
    (hvalid : c.isValid lib = true) (hstart : start env (startConfigOf c) Res.idle = (none, r)) :
    (∀ ep ∈ c.endpoints, ∃ hd, serveRoute ep = .ok hd ∧
      (hd = .query ∨ hd = .exec → dsGet lib.quote r ep.datasource = .ok ep.datasource)) ∧
    (∀ s ∈ c.streams, ndLoad r s = .ok s.datasource ∧
      ∃ chans, (s.datasource, chans) ∈ env.mapOrder (ds2pgchans (startConfigOf c).streams []) ∧
        s.channel ∈ chans) ∧
    (∀ j ∈ c.jobs, j.type = "exec" → dsGet lib.quote r j.datasource = .ok j.datasource) := by
  obtain ⟨heps, hss, hjs, -⟩ := APIServerConfig.validate_ok hvalid
  obtain ⟨hpools, -, hdisp, hchans, -⟩ := start_ok_serves hstart
  have hstream : ∀ s ∈ c.streams, (s.datasource, s.channel) ∈ (startConfigOf c).streams :=
    fun s hs => List.mem_map_of_mem (fun s : Stream => (s.datasource, s.channel)) hs
  refine ⟨fun ep hep => ?_, fun s hs => ⟨if_pos ((hdisp _).2 ⟨_, hstream s hs⟩), hchans _ _ (hstream s hs)⟩,
    fun j hj hx => dsGet_of_mem _ (hpools ▸ Job.validate_ok (hjs j hj) hx)⟩
  obtain ⟨hd, hroute, hsql⟩ := serveRoute_ok (Endpoint.validate_implType (heps ep hep))
  exact ⟨hd, hroute, fun h => dsGet_of_mem _ (hpools ▸ (Endpoint.validate_ok (heps ep hep)).2.2.2 (hsql h))⟩

/-- Every step of `Start` succeeds. -/
def allSucceed : StartEnv where
  connect _ := true
  hijack _ := true
  listen _ := true
  addFunc _ := true
  bind := true
  mapOrder := id
  perm l := List.Perm.refl l

theorem sampleConfig_serves :
    sampleConfig.isValid acceptingLib = true ∧
    start allSucceed (startConfigOf sampleConfig) Res.idle =
      (none, ⟨true, ["db"], ["db"], ["db"], ["db"], true, true⟩) ∧
    (∀ ep ∈ sampleConfig.endpoints, ∃ hd, serveRoute ep = .ok hd ∧
      (hd = .query ∨ hd = .exec →
        dsGet acceptingLib.quote ⟨true, ["db"], ["db"], ["db"], ["db"], true, true⟩ ep.datasource =
          .ok ep.datasource)) ∧
    (∀ s ∈ sampleConfig.streams, ndLoad ⟨true, ["db"], ["db"], ["db"], ["db"], true, true⟩ s = .ok s.datasource ∧
      ∃ chans, (s.datasource, chans) ∈
          allSucceed.mapOrder (ds2pgchans (startConfigOf sampleConfig).streams []) ∧
        s.channel ∈ chans) ∧
    (∀ j ∈ sampleConfig.jobs, j.type = "exec" →
      dsGet acceptingLib.quote ⟨true, ["db"], ["db"], ["db"], ["db"], true, true⟩ j.datasource =
        .ok j.datasource) :=
  have hv : sampleConfig.isValid acceptingLib = true := by decide
  have hs : start allSucceed (startConfigOf sampleConfig) Res.idle =
      (none, ⟨true, ["db"], ["db"], ["db"], ["db"], true, true⟩) := by decide
  ⟨hv, hs, valid_start_serves acceptingLib sampleConfig allSucceed _ hv hs⟩

end RapidRows.Server
