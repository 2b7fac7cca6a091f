import RapidRows.Streams.Registry

/-!
# Sends on the dispatcher's channels around `Stop`

No goroutine panics while `bgctx` is live (`panics_only_after_stop`): every
send on `nd.cmd` or `nd.in` before `Stop` goes to an open channel.

`nd.stop()` closes the fetcher's connection to stop it, but waits only for the
dispatcher before it closes `nd.cmd` and `nd.in`. A fetcher that had already
read a notification pushes it into the closed `nd.in` and panics
(`fetcher_push_after_close`); that panic is not recovered. A second `Stop`,
after `srv.Shutdown` failed, sends `actStop` on the closed `nd.cmd`
(`secondStopTrace`; `Server.Lifecycle` proves that a retried `Stop` panics
exactly when the configuration has a stream).
-/

namespace RapidRows.Streams

/-- **No panic before `Stop`.** -/
theorem panics_only_after_stop {s : Sys} (hr : Reachable s) (hbg : s.bgCancelled = false) :
    s.panics = [] :=
  (hr.quiet_registry hbg).1.no_panic

/-- A stream on `chan` registered, and a notification on `chan` went through
the fetcher and the dispatcher, all before `Stop`. -/
def notifiedSys : Sys :=
  (run Sys.init [.request .sse "chan", .register 0, .dispCmd, .pgNotify ⟨"chan", "x"⟩,
    .fetcherPush, .dispNotif]).getD Sys.init

theorem notifiedSys_no_panics :
    Reachable notifiedSys ∧ notifiedSys.bgCancelled = false ∧ notifiedSys.panics = [] :=
  have hr : Reachable notifiedSys :=
    Reachable.init.run (show run Sys.init [.request .sse "chan", .register 0, .dispCmd,
      .pgNotify ⟨"chan", "x"⟩, .fetcherPush, .dispNotif] = some notifiedSys from rfl)
  ⟨hr, rfl, panics_only_after_stop hr rfl⟩

/-- A notification reaches the fetcher; `Stop` runs `nd.stop()` to its end;
the fetcher then hands the notification off. -/
def fetcherRaceTrace : List Act :=
  [.pgNotify ⟨"chan", "x"⟩, .stopCall, .stopSend, .dispCmd, .stopWait, .stopCloseCmd,
    .stopCloseIn, .fetcherPush]

/-- The fetcher sends on `nd.in` after `nd.stop()` closed it, and panics. -/
theorem fetcher_push_after_close :
    ∃ s, Reachable s ∧ s.inCh.closed = true ∧ s.panics = [.fetcher] := by
  obtain ⟨s, hr, hp⟩ := @reachable_of_run fetcherRaceTrace
    (fun s => s.inCh.closed && s.panics == [.fetcher]) (by decide)
  simp only [Bool.and_eq_true, beq_iff_eq] at hp
  exact ⟨s, hr, hp.1, hp.2⟩

/-- `Stop` whose `srv.Shutdown` fails, then `Stop` again. -/
def secondStopTrace : List Act :=
  [.stopCall, .stopSend, .dispCmd, .stopWait, .stopCloseCmd, .stopCloseIn, .stopShutdown false,
    .stopCall, .stopSend]

end RapidRows.Streams
