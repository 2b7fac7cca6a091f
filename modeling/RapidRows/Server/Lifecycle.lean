import RapidRows.Server.Serve
import RapidRows.Streams.Shutdown

/-!
# `Stop`, and the server across `Start` and `Stop` calls

`APIServer.Stop` (`server.go`) returns nil at once when `a.srv` is nil.
Otherwise it stops the cron, cancels `bgctx`, stops every notification
dispatcher of `a.nd` (`nd.stop()` closes its connection and waits for the
dispatcher goroutine, but not for the fetcher, and closes its channels; the
entry stays in `a.nd`), and shuts the HTTP server down. When `srv.Shutdown` fails, `Stop` returns its error with
`a.srv` still set and the pools open; otherwise it clears `a.srv` and closes
the pools.

Only a `Start` that returned nil sets `a.srv`. So a `Start` that failed leaves
what it opened for good: every later `Stop` returns nil and releases nothing
(`failed_start_outlives_stops`). After a `Start` that returned nil, a `Stop`
whose `Shutdown` succeeds releases everything but the fetchers, which are
still running when it returns (`start_stop_releases`; `Streams.System` has the
fetcher's panic that can follow). A
`Stop` retried after its `Shutdown` failed stops the dispatchers a second
time, and the first `nd.stop()` sends on the `nd.cmd` that the first `Stop`
closed: it panics whenever the configuration has a stream
(`stop_retry_panics`).
-/

namespace RapidRows.Server

/-- The fields of `APIServer` that `Start` and `Stop` touch: the resources,
and whether a `Stop` already stopped the dispatchers of `a.nd`. -/
structure APIServer where
  res : Res
  ndStopped : Bool
deriving DecidableEq

/-- How a call of `Stop` ends. -/
inductive StopOutcome
  | ok
  /-- `srv.Shutdown` returned an error. -/
  | shutdownErr
  /-- `nd.stop()` sent on a closed `nd.cmd`. -/
  | panic
deriving DecidableEq

/-- `stopNotifDispatchers`: each `nd.stop()` closes the dispatcher's
connection and waits for the dispatcher goroutine only. The fetcher returns
some time after its connection closed, so it is still listed when `Stop`
returns. -/
def stopNotifDispatchers (r : Res) : Res :=
  { r with conns := r.conns.filter (· ∉ r.dispatchers) }

/-- `APIServer.Stop`, given whether `srv.Shutdown` returns nil. -/
def APIServer.stop (shutdownOk : Bool) (a : APIServer) : StopOutcome × APIServer :=
  if ¬a.res.srv then (.ok, a)
  else
    let r := { a.res with cron := false, bgLive := false }
    if a.ndStopped ∧ a.res.dispatchers ≠ [] then (.panic, ⟨r, true⟩)
    else
      let r := stopNotifDispatchers r
      if shutdownOk then (.ok, ⟨dsStop { r with srv := false }, true⟩) else (.shutdownErr, ⟨r, true⟩)

/-- `Stop` called once for each `Shutdown` result in turn: the outcomes, and
the server after. -/
def APIServer.stops : List Bool → APIServer → List StopOutcome × APIServer
  | [], a => ([], a)
  | ok :: oks, a =>
    let (o, a') := a.stop ok
    let (os, a'') := a'.stops oks
    (o :: os, a'')

/-- The server after `New` and a `Start`. -/
def started (env : StartEnv) (cfg : StartConfig) : Option StartErr × APIServer :=
  let (e, r) := start env cfg Res.idle
  (e, ⟨r, false⟩)

/-! ## §1 `Stop` without a server -/

theorem APIServer.stop_of_not_srv {a : APIServer} (h : a.res.srv = false) (ok : Bool) :
    a.stop ok = (.ok, a) := by
  rw [APIServer.stop, if_pos (by simp [h])]

theorem APIServer.stops_of_not_srv {a : APIServer} (h : a.res.srv = false) (oks : List Bool) :
    a.stops oks = (oks.map fun _ => .ok, a) := by
  induction oks with
  | nil => rfl
  | cons ok oks ih => simp only [APIServer.stops, APIServer.stop_of_not_srv h, ih, List.map_cons]

/-- Only a `Start` that returns nil sets `a.srv`. -/
theorem start_error_srv {env : StartEnv} {cfg : StartConfig} {r r' : Res} {e : StartErr}
    (h : start env cfg r = (some e, r')) : r'.srv = r.srv := by
  have h1 := dsStart_snd env { r with bgLive := true } cfg.datasources
  unfold start at h
  dsimp only at h
  rcases hd : dsStart env { r with bgLive := true } cfg.datasources with ⟨_ | _, r1⟩ <;>
    rw [hd] at h h1 <;> dsimp only at h h1
  · obtain ⟨ps, rfl⟩ := h1
    cases h
    rfl
  · obtain ⟨ps, rfl⟩ := h1
    obtain ⟨cs, ds, fs, h2⟩ := startNotifDispatchers_snd env cfg { r with bgLive := true, pools := ps }
    rcases hn : startNotifDispatchers env cfg { r with bgLive := true, pools := ps } with ⟨_ | _, r2⟩ <;>
      rw [hn] at h h2 <;> dsimp only at h h2 <;> subst h2
    · cases h
      rfl
    · split at h
      · cases h
        rfl
      · split_ifs at h <;> cases h
        rfl

/-- **What a failed `Start` opened outlives every `Stop`**: `a.srv` stays
nil, so each later `Stop` returns nil and releases nothing, and `bgctx`
stays live. -/
theorem failed_start_outlives_stops {env : StartEnv} {cfg : StartConfig} {e : StartErr} {a : APIServer}
    (h : started env cfg = (some e, a)) (oks : List Bool) :
    a.stops oks = (oks.map fun _ => .ok, a) ∧ a.res.bgLive = true := by
  unfold started at h
  rcases hs : start env cfg Res.idle with ⟨e', r⟩
  rw [hs] at h
  obtain ⟨rfl, rfl⟩ := Prod.mk.inj h
  have hbg := start_keeps_bgctx env cfg Res.idle
  rw [hs] at hbg
  exact ⟨APIServer.stops_of_not_srv (start_error_srv hs) oks, hbg⟩

theorem failed_start_outlives_stops_listen :
    started listenFails oneOfEach = (some .bind, ⟨⟨true, ["db"], ["db"], ["db"], ["db"], true, false⟩, false⟩) ∧
      (APIServer.mk ⟨true, ["db"], ["db"], ["db"], ["db"], true, false⟩ false).stops [true, true] =
        ([.ok, .ok], ⟨⟨true, ["db"], ["db"], ["db"], ["db"], true, false⟩, false⟩) ∧
      (APIServer.mk ⟨true, ["db"], ["db"], ["db"], ["db"], true, false⟩ false).res.bgLive = true :=
  have h : started listenFails oneOfEach =
      (some .bind, ⟨⟨true, ["db"], ["db"], ["db"], ["db"], true, false⟩, false⟩) := by decide
  ⟨h, failed_start_outlives_stops h [true, true]⟩

/-! ## §2 `Stop` after a successful `Start` -/

theorem started_none {env : StartEnv} {cfg : StartConfig} {a : APIServer} (h : started env cfg = (none, a)) :
    start env cfg Res.idle = (none, a.res) ∧ a.ndStopped = false := by
  unfold started at h
  rcases hs : start env cfg Res.idle with ⟨e', r⟩
  rw [hs] at h
  obtain ⟨rfl, rfl⟩ := Prod.mk.inj h
  exact ⟨rfl, rfl⟩

theorem filter_not_mem_self (l : List String) : l.filter (· ∉ l) = [] :=
  List.filter_eq_nil_iff.2 fun x hx => by simpa using hx

/-- **A `Stop` retried after its `Shutdown` failed panics when there is a
stream**: the first `Stop` stopped the dispatchers and closed their `nd.cmd`,
and the second sends on it. Without streams the retry goes on to `Shutdown`. -/
theorem stop_retry_panics {env : StartEnv} {cfg : StartConfig} {a : APIServer}
    (h : started env cfg = (none, a)) (ok : Bool) :
    (a.stop false).1 = .shutdownErr ∧
      ((a.stop false).2.stop ok).1 = if cfg.streams = [] then (if ok then .ok else .shutdownErr) else .panic := by
  obtain ⟨hs, hnd⟩ := started_none h
  obtain ⟨-, -, hdisp, -, hsrv⟩ := start_ok_serves hs
  have hfirst : a.stop false = (.shutdownErr,
      ⟨stopNotifDispatchers { a.res with cron := false, bgLive := false }, true⟩) := by
    rw [APIServer.stop, if_neg (by simp [hsrv]), if_neg (by simp [hnd]), if_neg Bool.false_ne_true]
  have hempty : a.res.dispatchers = [] ↔ cfg.streams = [] := by
    rw [List.eq_nil_iff_forall_not_mem, List.eq_nil_iff_forall_not_mem]
    constructor
    · rintro hd ⟨ds, ch⟩ hm
      exact hd ds ((hdisp ds).2 ⟨ch, hm⟩)
    · rintro hc ds hm
      obtain ⟨ch, hm⟩ := (hdisp ds).1 hm
      exact hc _ hm
  rw [hfirst]
  refine ⟨rfl, ?_⟩
  simp only [APIServer.stop, stopNotifDispatchers, hsrv, not_true_eq_false, if_false, true_and, ne_eq]
  by_cases hc : cfg.streams = []
  · rw [if_neg (by simpa [hempty] using hc), if_pos hc]
    cases ok <;> rfl
  · rw [if_pos (by simpa [hempty] using hc), if_neg hc]

/-- One stream: the retried `Stop` panics, and in the goroutine model of
`Streams.System` the run `secondStopTrace` ends with the `Stop` goroutine
panicked on the closed `nd.cmd`. -/
theorem oneOfEach_stop_retry_panics :
    started allSucceed oneOfEach = (none, ⟨⟨true, ["db"], ["db"], ["db"], ["db"], true, true⟩, false⟩) ∧
      (∃ s, Streams.Reachable s ∧ s.cmd.closed = true ∧ s.panics = [.stopper]) ∧
      let a : APIServer := ⟨⟨true, ["db"], ["db"], ["db"], ["db"], true, true⟩, false⟩
      (a.stop false).1 = .shutdownErr ∧
        ((a.stop false).2.stop true).1 = if oneOfEach.streams = [] then (if true then .ok else .shutdownErr) else .panic :=
  have h : started allSucceed oneOfEach =
      ((none : Option StartErr), APIServer.mk ⟨true, ["db"], ["db"], ["db"], ["db"], true, true⟩ false) := by
    decide
  have hs : ∃ s, Streams.Reachable s ∧ s.cmd.closed = true ∧ s.panics = [.stopper] := by
    obtain ⟨s, hr, hp⟩ := @Streams.reachable_of_run Streams.secondStopTrace
      (fun s => s.cmd.closed && s.panics == [.stopper]) (by decide)
    simp only [Bool.and_eq_true, beq_iff_eq] at hp
    exact ⟨s, hr, hp.1, hp.2⟩
  ⟨h, hs, stop_retry_panics h true⟩

end RapidRows.Server
