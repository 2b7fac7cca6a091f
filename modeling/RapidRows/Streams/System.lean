import RapidRows.Streams.Dispatcher

/-!
# The stream subsystem as a transition system

One `notifDispatcher` of a started `APIServer` (`streams.go`), with every
goroutine that touches it:

- the dispatcher, receiving from `nd.cmd` and `nd.in` in one `select`;
- the fetcher, which waits for a notification on the hijacked connection and
  sends it into `nd.in`;
- each stream request's `serveStream`, which sends `register`, runs `loopWS`
  or `loopSSE`, and sends `unregister` unless the loop returned
  `context.Canceled`;
- `APIServer.Stop`, which cancels `bgctx` and runs `nd.stop()` before
  `srv.Shutdown`.

A state is the shared memory of these goroutines, and `Sys.step` is one
atomic step of one of them; the scheduler picks any enabled step, so every
interleaving is a run. A send on a closed channel does not block: the
goroutine panics, and `panics` records it. The fetcher's panic is not
recovered and ends the process; net/http recovers a handler's.
-/

namespace RapidRows.Streams

/-! ## §1 Channels and goroutines -/

/-- A buffered Go channel: its buffer, and whether it was closed. -/
structure Chan (α : Type) where
  buf : List α
  closed : Bool
deriving DecidableEq, Repr

/-- What a send on a buffered channel does. -/
inductive Sent (α : Type)
  | ok (c : Chan α)
  | blocked
  | panic

/-- `c <- a` on a channel of capacity `cap`. -/
def Chan.send {α : Type} (c : Chan α) (cap : Nat) (a : α) : Sent α :=
  if c.closed then .panic
  else if c.buf.length < cap then .ok { c with buf := c.buf ++ [a] }
  else .blocked

theorem Chan.send_ok_closed {α : Type} {c c' : Chan α} {cap : Nat} {a : α}
    (h : c.send cap a = .ok c') : c'.closed = c.closed := by
  unfold Chan.send at h
  split at h
  · cases h
  · split at h <;> cases h; rfl

theorem Chan.closed_of_send_panic {α : Type} {c : Chan α} {cap : Nat} {a : α}
    (h : c.send cap a = .panic) : c.closed = true := by
  unfold Chan.send at h
  split at h
  · assumption
  · split at h <;> cases h

/-- The capacity of `nd.cmd` in `newNotifDispatcher`. -/
def cmdCap : Nat := 1

/-- The capacity of `nd.in` in `newNotifDispatcher`. -/
def inCap : Nat := 64

/-- The fetcher goroutine: in `conn.WaitForNotification`, holding a
notification it is about to send into `nd.in`, or returned. -/
inductive Fetcher
  | waiting
  | holding (n : Notif)
  | exited
deriving DecidableEq, Repr

/-- Where a call of `APIServer.Stop` is, in `nd.stop()` and after it. -/
inductive StopPc
  | idle
  | sendStop
  | wait
  | closeCmd
  | closeIn
  | shutdown
deriving DecidableEq, Repr

/-- A goroutine that panicked on a closed channel. -/
inductive Goroutine
  | fetcher
  | handler (h : Nat)
  | stopper
deriving DecidableEq, Repr

/-- The shared state: `bgctx`, `a.srv`, the `Stop` call, the dispatcher's
channels, goroutine and map, the fetcher and its connection, and the stream
handlers numbered in arrival order. -/
structure Sys where
  bgCancelled : Bool
  srvUp : Bool
  stopPc : StopPc
  cmd : Chan Cmd
  inCh : Chan Notif
  dispRunning : Bool
  c2ws : Registry
  fetcher : Fetcher
  connClosed : Bool
  handlers : Nat → Handler
  nextId : Nat
  panics : List Goroutine

/-- A handler number no request has used. -/
def Handler.unused : Handler := { Handler.new .sse "" with phase := .finished none }

/-- The subsystem right after `Start` returned: the dispatcher and fetcher of
`nd.start` run, and no stream request has arrived. -/
def Sys.init : Sys where
  bgCancelled := false
  srvUp := true
  stopPc := .idle
  cmd := ⟨[], false⟩
  inCh := ⟨[], false⟩
  dispRunning := true
  c2ws := fun _ => []
  fetcher := .waiting
  connClosed := false
  handlers := fun _ => Handler.unused
  nextId := 0
  panics := []

/-! ## §2 Steps -/

/-- One atomic step of one goroutine, or of the outside world. -/
inductive Act
  /-- A stream request arrives; `serveStream` creates its writer. -/
  | request (type : StreamType) (channel : String)
  /-- `nd.register(s.Channel, nw)`. -/
  | register (h : Nat)
  /-- One `select` of the handler's loop. -/
  | loop (h : Nat) (st : LoopStep)
  /-- The websocket peer closes, or sends a data frame. -/
  | clientGone (h : Nat)
  /-- `serveStream` after its loop: `nd.unregister` unless the loop's error is
  `context.Canceled`, then return. -/
  | finish (h : Nat)
  /-- The dispatcher receives from `nd.cmd`. -/
  | dispCmd
  /-- The dispatcher receives from `nd.in` and fans the notification out. -/
  | dispNotif
  /-- `conn.WaitForNotification` returns a notification. -/
  | pgNotify (n : Notif)
  /-- The fetcher's `nd.in <- *n`. -/
  | fetcherPush
  /-- `conn.WaitForNotification` fails; the fetcher returns. -/
  | fetcherFail
  /-- `Stop` is called: with `a.srv` set, it cancels `bgctx`, and `nd.stop()`
  sets `stopping` and closes the connection. -/
  | stopCall
  /-- `nd.cmd <- notifDisptacherCmd{act: actStop}`. -/
  | stopSend
  /-- `nd.wg.Wait()` returns once the dispatcher has. -/
  | stopWait
  /-- `close(nd.cmd)`. -/
  | stopCloseCmd
  /-- `close(nd.in)`. -/
  | stopCloseIn
  /-- `a.srv.Shutdown(ctx)` returns, without error when `ok`. -/
  | stopShutdown (ok : Bool)
deriving DecidableEq, Repr

/-- Replace handler `i`. -/
def Sys.setHandler (s : Sys) (i : Nat) (h : Handler) : Sys :=
  { s with handlers := Function.update s.handlers i h }

/-- Goroutine `g` panics. -/
def Sys.panic (s : Sys) (g : Goroutine) : Sys := { s with panics := s.panics ++ [g] }

/-- A handler sends `c` on `nd.cmd` and moves to `next`; it panics instead when
`nd.cmd` is closed. -/
def Sys.handlerSend (s : Sys) (i : Nat) (c : Cmd) (next : Handler) (onPanic : Handler) :
    Option Sys :=
  match s.cmd.send cmdCap c with
  | .ok c => some { s.setHandler i next with cmd := c }
  | .blocked => none
  | .panic => some ((s.setHandler i onPanic).panic (.handler i))

/-- The dispatcher's loop body for one received command. -/
def Sys.dispatch (s : Sys) : Cmd → Sys
  | .stop => { s with dispRunning := false }
  | c => { s with c2ws := applyCmd s.c2ws c }

@[simp]
theorem Sys.dispatch_bgCancelled (s : Sys) (c : Cmd) : (s.dispatch c).bgCancelled = s.bgCancelled := by
  cases c <;> rfl

/-- One step, when it is enabled. -/
def Sys.step (s : Sys) : Act → Option Sys
  | .request type ch =>
    if s.srvUp then
      some { s with
        handlers := Function.update s.handlers s.nextId (Handler.new type ch)
        nextId := s.nextId + 1 }
    else none
  | .register i =>
    let h := s.handlers i
    if h.phase = .registering then
      s.handlerSend i (.register h.channel i) { h with phase := .looping }
        { h with phase := .finished none }
    else none
  | .loop i st =>
    let h := s.handlers i
    if h.phase = .looping then (h.loopStep s.bgCancelled st).map (s.setHandler i) else none
  | .clientGone i =>
    if i < s.nextId then some (s.setHandler i { s.handlers i with clientGone := true }) else none
  | .finish i =>
    let h := s.handlers i
    match h.phase with
    | .exited e =>
      let h' := { h with phase := .finished (some e) }
      if e.isCanceled then some (s.setHandler i h')
      else s.handlerSend i (.unregister h.channel i) h' h'
    | _ => none
  | .dispCmd =>
    if s.dispRunning then
      match s.cmd.buf with
      | [] => none
      | c :: rest => some ({ s with cmd := { s.cmd with buf := rest } }.dispatch c)
    else none
  | .dispNotif =>
    if s.dispRunning then
      match s.inCh.buf with
      | [] => none
      | n :: rest =>
        some { s with
          inCh := { s.inCh with buf := rest }
          handlers := fanOut s.handlers (s.c2ws n.channel) n.payload }
    else none
  | .pgNotify n =>
    if s.fetcher = .waiting ∧ s.connClosed = false then some { s with fetcher := .holding n }
    else none
  | .fetcherPush =>
    match s.fetcher with
    | .holding n =>
      match s.inCh.send inCap n with
      | .ok c => some { s with inCh := c, fetcher := .waiting }
      | .blocked => none
      | .panic => some ({ s with fetcher := .exited }.panic .fetcher)
    | _ => none
  | .fetcherFail => if s.fetcher = .waiting then some { s with fetcher := .exited } else none
  | .stopCall =>
    if s.stopPc = .idle then
      if s.srvUp then
        some { s with bgCancelled := true, connClosed := true, stopPc := .sendStop }
      else some s
    else none
  | .stopSend =>
    if s.stopPc = .sendStop then
      match s.cmd.send cmdCap .stop with
      | .ok c => some { s with cmd := c, stopPc := .wait }
      | .blocked => none
      | .panic => some ({ s with stopPc := .idle }.panic .stopper)
    else none
  | .stopWait =>
    if s.stopPc = .wait ∧ s.dispRunning = false then some { s with stopPc := .closeCmd } else none
  | .stopCloseCmd =>
    if s.stopPc = .closeCmd then
      if s.cmd.closed then some ({ s with stopPc := .idle }.panic .stopper)
      else some { s with cmd := { s.cmd with closed := true }, stopPc := .closeIn }
    else none
  | .stopCloseIn =>
    if s.stopPc = .closeIn then
      if s.inCh.closed then some ({ s with stopPc := .idle }.panic .stopper)
      else some { s with inCh := { s.inCh with closed := true }, stopPc := .shutdown }
    else none
  | .stopShutdown ok =>
    if s.stopPc = .shutdown then
      some (if ok then { s with srvUp := false, stopPc := .idle } else { s with stopPc := .idle })
    else none

/-! ## §3 Runs -/

/-- The states some interleaving reaches from `Sys.init`. -/
inductive Reachable : Sys → Prop
  | init : Reachable Sys.init
  | step {s s' : Sys} {a : Act} : Reachable s → s.step a = some s' → Reachable s'

/-- Run a schedule of steps in order; `none` when one of them is not enabled. -/
def run (s : Sys) : List Act → Option Sys
  | [] => some s
  | a :: as => (s.step a).bind (run · as)

theorem Reachable.run {s s' : Sys} {as : List Act} (hs : Reachable s)
    (h : run s as = some s') : Reachable s' := by
  induction as generalizing s with
  | nil => cases h; exact hs
  | cons a as ih =>
    simp only [Streams.run, Option.bind_eq_some] at h
    obtain ⟨s₁, h₁, h₂⟩ := h
    exact ih (hs.step h₁) h₂

/-- A schedule that runs from `Sys.init` to a state where `p` holds. -/
theorem reachable_of_run {as : List Act} {p : Sys → Bool}
    (h : (run Sys.init as).map p = some true) : ∃ s, Reachable s ∧ p s = true := by
  cases hr : run Sys.init as with
  | none => simp [hr] at h
  | some s =>
    simp only [hr, Option.map_some', Option.some.injEq] at h
    exact ⟨s, Reachable.init.run hr, h⟩

end RapidRows.Streams
