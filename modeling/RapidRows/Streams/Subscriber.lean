import Mathlib.Data.List.Infix

/-!
# Stream subscribers: `notifWriter` and its loop

A subscriber of a notification stream (`streams.go`) is a `notifWriter`: a
buffered channel `q` of capacity `notifWriterBacklog`, and a flag `qClosed`
guarded by `qMtx`. The dispatcher hands it payloads through the non-blocking
`accept`; the HTTP handler that owns it drains `q` in `loopWS` or `loopSSE`.

`closeQ` is the only place that closes `q`, and it sets `qClosed` under the
same lock, so one flag stands for both. A handler (`serveStream`) is the
writer together with where the handler is in its code and the ghost
`WriterLog` of what the writer was offered, enqueued and wrote. `Handler.Inv`
is the subscriber's contract over that log, and every operation of this
module keeps it.
-/

namespace RapidRows.Streams

/-! ## §1 The queue -/

/-- `notifWriterBacklog`: the most payloads a subscriber may have pending. -/
def notifWriterBacklog : Nat := 16

/-- A `notifWriter`: the payloads buffered in `q`, and `qClosed`. -/
structure NotifWriter where
  q : List String
  qClosed : Bool
deriving DecidableEq, Repr

/-- `newNotifWriter`. -/
def newNotifWriter : NotifWriter := ⟨[], false⟩

/-- `closeQ`: close `q` unless it is closed already. -/
def NotifWriter.closeQ (n : NotifWriter) : NotifWriter := { n with qClosed := true }

/-- `accept`. Its `select` sends on `q` or, when `q` is full, takes `default`
and closes it. A send on a closed channel panics; the deferred `recover` sees
`send on closed channel` and calls `closeQ`, which changes nothing. -/
def NotifWriter.accept (n : NotifWriter) (payload : String) : NotifWriter :=
  if n.qClosed then n.closeQ
  else if n.q.length < notifWriterBacklog then { n with q := n.q ++ [payload] }
  else n.closeQ

/-- Whether `accept` puts its payload into the queue. -/
def NotifWriter.enqueues (n : NotifWriter) : Bool :=
  !n.qClosed && decide (n.q.length < notifWriterBacklog)

theorem NotifWriter.accept_of_enqueues {n : NotifWriter} {p : String}
    (h : n.enqueues = true) : n.accept p = { n with q := n.q ++ [p] } := by
  simp only [enqueues, Bool.and_eq_true, Bool.not_eq_true', decide_eq_true_eq] at h
  simp [accept, h.1, h.2]

theorem NotifWriter.accept_of_not_enqueues {n : NotifWriter} {p : String}
    (h : n.enqueues = false) : n.accept p = n.closeQ := by
  unfold enqueues at h
  cases hc : n.qClosed <;> simp_all [accept]

@[simp] theorem NotifWriter.closeQ_q (n : NotifWriter) : n.closeQ.q = n.q := rfl

@[simp] theorem NotifWriter.closeQ_qClosed (n : NotifWriter) : n.closeQ.qClosed = true := rfl

/-- A closed queue stays closed under `accept`. -/
theorem NotifWriter.accept_qClosed {n : NotifWriter} {p : String} (h : n.qClosed = true) :
    (n.accept p).qClosed = true := by
  simp [accept, h]

/-- A closed queue never enqueues. -/
theorem NotifWriter.enqueues_of_qClosed {n : NotifWriter} (h : n.qClosed = true) :
    n.enqueues = false := by
  simp [enqueues, h]

/-! ## §2 The handler: `serveStream` around `loopWS` / `loopSSE` -/

/-- `Stream.Type`. -/
inductive StreamType
  | websocket
  | sse
deriving DecidableEq, Repr

/-- A transport error of a stream loop: `canceled` when it wraps
`context.Canceled` (a websocket write whose context was cancelled), or a
websocket closed by its peer with a normal status, which `loopWS` maps to
`nil`. -/
inductive WriteErr
  | transport (canceled : Bool)
  | normalClosure
deriving DecidableEq, Repr

/-- What `loopWS` / `loopSSE` returned. -/
inductive LoopErr
  | tooSlow
  | ctxDone
  | write (e : WriteErr)
deriving DecidableEq, Repr

/-- `errors.Is(err, context.Canceled)` in `serveStream`. `ctx.Err()` of a
cancelled `bgctx`, or of the `CloseRead` context of a websocket, is
`context.Canceled`. -/
def LoopErr.isCanceled : LoopErr → Bool
  | .tooSlow => false
  | .ctxDone => true
  | .write (.transport c) => c
  | .write .normalClosure => false

/-- Where a stream handler is: before its `register`, in its loop, back from
its loop with `err`, or returned. A handler returns with `none` when its
`register` panicked, before any loop. -/
inductive Phase
  | registering
  | looping
  | exited (err : LoopErr)
  | finished (err : Option LoopErr)
deriving DecidableEq, Repr

/-- The loop has not returned yet. -/
def Phase.running : Phase → Bool
  | .registering | .looping => true
  | _ => false

/-- What the loop returned, once it has. -/
def Phase.loopErr : Phase → Option LoopErr
  | .exited e => some e
  | .finished e => e
  | _ => none

/-- Ghost record of a subscriber: the payloads the dispatcher offered it
(`accept` calls), those `accept` enqueued, and those its loop wrote out. -/
structure WriterLog where
  offered : List String
  enqueued : List String
  written : List String
deriving DecidableEq, Repr

/-- One stream request in `serveStream`: the stream's type and channel, where
the handler is, whether a websocket peer has closed or sent a data frame (the
`CloseRead` reader then cancels the loop's context), its writer, and the ghost
log. -/
structure Handler where
  type : StreamType
  channel : String
  phase : Phase
  clientGone : Bool
  writer : NotifWriter
  log : WriterLog
deriving DecidableEq, Repr

/-- A new request: `nw := newNotifWriter()`, before `nd.register`. -/
def Handler.new (type : StreamType) (channel : String) : Handler :=
  ⟨type, channel, .registering, false, newNotifWriter, ⟨[], [], []⟩⟩

/-- The loop's context is done: `bgctx` is cancelled, or, for a websocket,
the `CloseRead` context is. -/
def Handler.ctxCancelled (h : Handler) (bgCancelled : Bool) : Bool :=
  bgCancelled || (h.type == .websocket && h.clientGone)

/-- The dispatcher calling `accept`, with the offer logged. -/
def Handler.accept (h : Handler) (payload : String) : Handler :=
  { h with
    writer := h.writer.accept payload
    log := { h.log with
      offered := h.log.offered ++ [payload]
      enqueued := if h.writer.enqueues then h.log.enqueued ++ [payload] else h.log.enqueued } }

/-- The loop returns `err`; the deferred `closeQ` runs unless it returned
`errTooSlow`, whose queue is closed already. -/
def Handler.exit (h : Handler) (err : LoopErr) : Handler :=
  { h with
    phase := .exited err
    writer := if err = .tooSlow then h.writer else h.writer.closeQ }

/-- One `select` of `loopWS` / `loopSSE`. -/
inductive LoopStep
  /-- `payload, ok := <-n.q` with a payload, then its write; `some e` when the
  write fails with `e`. -/
  | recv (res : Option WriteErr)
  /-- `!ok`: the queue is closed and drained, the loop returns `errTooSlow`. -/
  | drained
  /-- `<-ctx.Done()`: the loop returns `ctx.Err()`. -/
  | ctxDone
  /-- The connection fails outside a queued write: the upgrade of `loopWS`,
  or a keep-alive comment of `loopSSE`. -/
  | fail (e : WriteErr)
deriving DecidableEq, Repr

/-- The loop of a handler taking one step, when that step is enabled. -/
def Handler.loopStep (h : Handler) (bgCancelled : Bool) : LoopStep → Option Handler
  | .recv res =>
    match h.writer.q with
    | [] => none
    | p :: rest =>
      match res with
      | none => some { h with
          writer := { h.writer with q := rest }
          log := { h.log with written := h.log.written ++ [p] } }
      | some e => some ({ h with writer := { h.writer with q := rest } }.exit (.write e))
  | .drained => if h.writer.q = [] ∧ h.writer.qClosed = true then some (h.exit .tooSlow) else none
  | .ctxDone => if h.ctxCancelled bgCancelled then some (h.exit .ctxDone) else none
  | .fail e => some (h.exit (.write e))

/-! ## §3 The subscriber contract -/

/-- The contract of a subscriber over its ghost log. -/
structure Handler.Inv (h : Handler) : Prop where
  /-- The queue holds at most `notifWriterBacklog` payloads. -/
  q_le : h.writer.q.length ≤ notifWriterBacklog
  /-- What was enqueued is a prefix of what was offered. -/
  enqueued_prefix : h.log.enqueued <+: h.log.offered
  /-- What was written is a prefix of what was enqueued. -/
  written_prefix : h.log.written <+: h.log.enqueued
  /-- Once an offer is not enqueued, the queue is closed. -/
  closed_of_dropped : h.log.enqueued.length < h.log.offered.length → h.writer.qClosed = true
  /-- While the loop runs, the queue is what was enqueued and not yet written. -/
  running_queue : h.phase.running = true → h.log.enqueued = h.log.written ++ h.writer.q
  /-- While the loop runs, only a dropped offer closes the queue. -/
  running_closed : h.phase.running = true → h.writer.qClosed = true →
    h.log.enqueued.length < h.log.offered.length
  /-- After the loop, the queue is closed. -/
  exited_closed : h.phase.loopErr.isSome = true → h.writer.qClosed = true
  /-- `errTooSlow` comes after a dropped offer and after every enqueued payload
  was written. -/
  tooSlow_written : h.phase.loopErr = some .tooSlow →
    h.log.written = h.log.enqueued ∧ h.log.enqueued.length < h.log.offered.length

theorem Handler.inv_new (type : StreamType) (channel : String) :
    (Handler.new type channel).Inv where
  q_le := by simp [Handler.new, newNotifWriter]
  enqueued_prefix := List.prefix_refl _
  written_prefix := List.prefix_refl _
  closed_of_dropped := by simp [Handler.new]
  running_queue := by simp [Handler.new, newNotifWriter]
  running_closed := by simp [Handler.new, newNotifWriter]
  exited_closed := by simp [Handler.new, Phase.loopErr]
  tooSlow_written := by simp [Handler.new, Phase.loopErr]

/-- The contract survives a change of everything but the writer and the log,
as long as the loop does not start running again or change its result. -/
theorem Handler.Inv.mono {h h' : Handler} (hi : h.Inv) (hw : h'.writer = h.writer)
    (hl : h'.log = h.log) (hr : h'.phase.running = true → h.phase.running = true)
    (he : h'.phase.loopErr = h.phase.loopErr) : h'.Inv where
  q_le := hw ▸ hi.q_le
  enqueued_prefix := hl ▸ hi.enqueued_prefix
  written_prefix := hl ▸ hi.written_prefix
  closed_of_dropped := hw ▸ hl ▸ hi.closed_of_dropped
  running_queue := fun h1 => hw ▸ hl ▸ hi.running_queue (hr h1)
  running_closed := fun h1 => hw ▸ hl ▸ hi.running_closed (hr h1)
  exited_closed := fun h1 => hw ▸ hi.exited_closed (he ▸ h1)
  tooSlow_written := fun h1 => hl ▸ hi.tooSlow_written (he ▸ h1)

/-- An enqueuing `accept` happens only before any offer was dropped. -/
theorem Handler.Inv.enqueued_eq_of_enqueues {h : Handler} (hi : h.Inv)
    (he : h.writer.enqueues = true) : h.log.enqueued = h.log.offered := by
  have hopen : h.writer.qClosed = false := by
    simpa [NotifWriter.enqueues] using (Bool.and_eq_true _ _).mp he |>.1
  refine hi.enqueued_prefix.eq_of_length_le ?_
  by_contra hlt
  simp [hi.closed_of_dropped (by omega)] at hopen

theorem Handler.Inv.accept {h : Handler} (hi : h.Inv) (p : String) : (h.accept p).Inv := by
  have hlen := hi.enqueued_prefix.length_le
  cases he : h.writer.enqueues
  · have hw := @NotifWriter.accept_of_not_enqueues _ p he
    exact
      { q_le := by simpa [Handler.accept, hw] using hi.q_le
        enqueued_prefix := by
          simpa [Handler.accept, he] using hi.enqueued_prefix.trans (List.prefix_append _ [p])
        written_prefix := by simpa [Handler.accept, he] using hi.written_prefix
        closed_of_dropped := fun _ => by simp [Handler.accept, hw]
        running_queue := by simpa [Handler.accept, he, hw] using hi.running_queue
        running_closed := fun _ _ => by simp [Handler.accept, he]; omega
        exited_closed := fun _ => by simp [Handler.accept, hw]
        tooSlow_written := fun ht => by
          simp only [Handler.accept, he] at ht ⊢
          exact ⟨(hi.tooSlow_written ht).1, by simp; omega⟩ }
  · have hw := @NotifWriter.accept_of_enqueues _ p he
    have heq := hi.enqueued_eq_of_enqueues he
    have hopen : h.writer.qClosed = false ∧ h.writer.q.length < notifWriterBacklog := by
      simpa [NotifWriter.enqueues] using he
    exact
      { q_le := by simp [Handler.accept, hw]; omega
        enqueued_prefix := by simp [Handler.accept, he, heq]
        written_prefix := by
          simpa [Handler.accept, he] using hi.written_prefix.trans (List.prefix_append _ [p])
        closed_of_dropped := fun hlt => by simp [Handler.accept, he, heq] at hlt
        running_queue := fun hr => by
          simp only [Handler.accept, he, hw, if_true] at hr ⊢
          rw [hi.running_queue hr, List.append_assoc]
        running_closed := fun _ hc => by simp [Handler.accept, hw, hopen.1] at hc
        exited_closed := fun hx => by
          simp only [Handler.accept] at hx
          simp [hi.exited_closed hx] at hopen
        tooSlow_written := fun ht => by
          simp only [Handler.accept] at ht
          simp [hi.exited_closed (by simp [ht])] at hopen }

/-- A loop that returns with anything but `errTooSlow` closes its queue, which
leaves only the prefix facts to check. -/
theorem Handler.inv_exit {h : Handler} (hq : h.writer.q.length ≤ notifWriterBacklog)
    (he : h.log.enqueued <+: h.log.offered) (hw : h.log.written <+: h.log.enqueued)
    {err : LoopErr} (herr : err ≠ .tooSlow) : (h.exit err).Inv where
  q_le := by simpa [Handler.exit, herr] using hq
  enqueued_prefix := he
  written_prefix := hw
  closed_of_dropped := by simp [Handler.exit, herr]
  running_queue := by simp [Handler.exit, Phase.running]
  running_closed := by simp [Handler.exit, Phase.running]
  exited_closed := by simp [Handler.exit, herr]
  tooSlow_written := by simp [Handler.exit, Phase.loopErr, herr]

theorem Handler.Inv.loopStep {h h' : Handler} (hi : h.Inv) (hr : h.phase = .looping)
    {bg : Bool} {st : LoopStep} (hs : h.loopStep bg st = some h') : h'.Inv := by
  have hrun : h.phase.running = true := by simp [hr, Phase.running]
  have hqueue := hi.running_queue hrun
  cases st with
  | recv res =>
    simp only [Handler.loopStep] at hs
    split at hs
    · cases hs
    · rename_i p rest hq
      have hlen : rest.length < notifWriterBacklog := by
        have := hi.q_le; simp only [hq, List.length_cons] at this; omega
      rw [hq] at hqueue
      cases res with
      | none =>
        cases hs
        refine ⟨Nat.le_of_lt hlen, hi.enqueued_prefix, ?_, hi.closed_of_dropped, ?_,
          hi.running_closed, hi.exited_closed, fun ht => by simp [hr, Phase.loopErr] at ht⟩
        · exact ⟨rest, by simp [hqueue]⟩
        · intro _; simp [hqueue]
      | some e =>
        cases hs
        exact @Handler.inv_exit { h with writer := { h.writer with q := rest } }
          (Nat.le_of_lt hlen) hi.enqueued_prefix hi.written_prefix (.write e) (by simp)
  | drained =>
    simp only [Handler.loopStep] at hs
    split at hs
    · rename_i hq
      cases hs
      rw [hq.1, List.append_nil] at hqueue
      exact { q_le := hi.q_le
              enqueued_prefix := hi.enqueued_prefix
              written_prefix := hi.written_prefix
              closed_of_dropped := hi.closed_of_dropped
              running_queue := by simp [Handler.exit, Phase.running]
              running_closed := by simp [Handler.exit, Phase.running]
              exited_closed := fun _ => hq.2
              tooSlow_written := fun _ => ⟨hqueue.symm, hi.running_closed hrun hq.2⟩ }
    · cases hs
  | ctxDone =>
    simp only [Handler.loopStep] at hs
    split at hs
    · cases hs
      exact Handler.inv_exit hi.q_le hi.enqueued_prefix hi.written_prefix (by simp)
    · cases hs
  | fail e =>
    cases hs
    exact Handler.inv_exit hi.q_le hi.enqueued_prefix hi.written_prefix (by simp)

end RapidRows.Streams
