import RapidRows.Streams.Invariants
import Mathlib.Logic.Relation

/-!
# The subscriber contract over every run

For every interleaving of notifications, commands, and the steps of the
stream loops, a subscriber's queue holds at most `notifWriterBacklog`
payloads, its loop writes a prefix of what it enqueued, and what it enqueued
is a prefix of what the dispatcher offered it. Once an offer is dropped, the
queue is closed for good and nothing more is enqueued. The fan-out never
waits for a subscriber.

The loop does not always end with `errTooSlow` after a drop: its `select`
also watches the context, and a cancelled context (a websocket peer that
closed or sent data, or a server shutdown) ends it with `context.Canceled`,
queued payloads unwritten (`dropped_then_canceled`).
-/

namespace RapidRows.Streams

/-- `s'` follows `s` by some steps. -/
def Steps : Sys → Sys → Prop := Relation.ReflTransGen (fun s s' => ∃ a, s.step a = some s')

theorem Reachable.steps {s s' : Sys} (hr : Reachable s) (h : Steps s s') : Reachable s' := by
  induction h with
  | refl => exact hr
  | tail _ hs ih => obtain ⟨a, ha⟩ := hs; exact ih.step ha

/-! ## §1 The fan-out never waits -/

/-- The dispatcher can always take its next notification: whether it fans out
does not depend on any subscriber. -/
theorem dispNotif_enabled {s : Sys} (hr : s.dispRunning = true) (hb : s.inCh.buf ≠ []) :
    (s.step .dispNotif).isSome := by
  obtain ⟨n, rest, h⟩ := List.exists_cons_of_ne_nil hb
  simp [Sys.step, hr, h]

/-! ## §2 A closed queue is frozen -/

/-- Once `h`'s queue is closed, `h'`'s is, with the same payloads enqueued. -/
def Frozen (h h' : Handler) : Prop :=
  h.writer.qClosed = true → h'.writer.qClosed = true ∧ h'.log.enqueued = h.log.enqueued

theorem Frozen.trans {a b c : Handler} (h₁ : Frozen a b) (h₂ : Frozen b c) : Frozen a c :=
  fun ha => ⟨(h₂ (h₁ ha).1).1, (h₂ (h₁ ha).1).2.trans (h₁ ha).2⟩

theorem Handler.frozen_accept (h : Handler) (p : String) : Frozen h (h.accept p) := fun hc =>
  ⟨NotifWriter.accept_qClosed hc, by simp [Handler.accept, NotifWriter.enqueues_of_qClosed hc]⟩

/-- The loop enqueues nothing, and reopens nothing. -/
theorem Handler.loopStep_frozen {h h' : Handler} {bg : Bool} {st : LoopStep}
    (hs : h.loopStep bg st = some h') : Frozen h h' := by
  intro hc
  cases st with
  | recv res =>
    simp only [Handler.loopStep] at hs
    split at hs
    · cases hs
    · cases res <;> cases hs <;> simp [Handler.exit, hc]
  | drained =>
    simp only [Handler.loopStep] at hs
    split at hs <;> cases hs; simp [Handler.exit, hc]
  | ctxDone =>
    simp only [Handler.loopStep] at hs
    split at hs <;> cases hs; simp [Handler.exit]
  | fail e => cases hs; simp [Handler.exit]

theorem HandlerMove.frozen {bg : Bool} {h h' : Handler} (hm : HandlerMove bg h h') :
    Frozen h h' := by
  cases hm with
  | loop _ hl => exact Handler.loopStep_frozen hl
  | _ => exact fun hc => ⟨hc, rfl⟩

theorem SysInv.step_frozen {s s' : Sys} {a : Act} (hi : SysInv s) (hs : s.step a = some s')
    (i : Nat) : Frozen (s.handlers i) (s'.handlers i) := by
  rcases step_handlers hs with ⟨h1, -⟩ | ⟨t, ch, -, h1, -⟩ | ⟨j, h', hm, -, h1, -⟩ | ⟨n, h1, -⟩
  · rw [h1]; exact fun hc => ⟨hc, rfl⟩
  · rw [h1]
    by_cases hij : i = s.nextId
    · subst hij
      intro hc
      rw [hi.unused _ le_rfl] at hc
      cases hc
    · rw [Function.update_noteq hij]; exact fun hc => ⟨hc, rfl⟩
  · rw [h1]
    by_cases hij : i = j
    · subst hij; simpa using hm.frozen
    · rw [Function.update_noteq hij]; exact fun hc => ⟨hc, rfl⟩
  · rw [h1]
    exact @fanOut_rel Frozen (fun _ hc => ⟨hc, rfl⟩) (fun _ _ _ => Frozen.trans)
      Handler.frozen_accept _ _ _ _

theorem Steps.frozen {s s' : Sys} (hr : Reachable s) (h : Steps s s') (i : Nat) :
    Frozen (s.handlers i) (s'.handlers i) := by
  induction h with
  | refl => exact fun hc => ⟨hc, rfl⟩
  | tail hst hs ih =>
    obtain ⟨a, ha⟩ := hs
    exact ih.trans ((hr.steps hst).sysInv.step_frozen ha i)

/-! ## §3 The loop drains a closed queue -/

/-- A looping subscriber whose queue is closed can always take its next
`select`, and that step writes a queued payload or returns `errTooSlow`. -/
theorem loop_drains {s : Sys} {i : Nat} (hp : (s.handlers i).phase = .looping)
    (hc : (s.handlers i).writer.qClosed = true) :
    ∃ st s', s.step (.loop i st) = some s' ∧
      ((s'.handlers i).writer.q.length < (s.handlers i).writer.q.length ∨
        (s'.handlers i).phase = .exited .tooSlow) := by
  cases hq : (s.handlers i).writer.q with
  | nil =>
    refine ⟨.drained, s.setHandler i ((s.handlers i).exit .tooSlow), ?_, .inr ?_⟩
    · simp [Sys.step, hp, Handler.loopStep, hq, hc]
    · simp [Sys.setHandler, Handler.exit]
  | cons p rest =>
    refine ⟨.recv none, s.setHandler i { s.handlers i with
      writer := { (s.handlers i).writer with q := rest }
      log := { (s.handlers i).log with written := (s.handlers i).log.written ++ [p] } },
      ?_, .inl ?_⟩
    · simp [Sys.step, hp, Handler.loopStep, hq]
    · simp [Sys.setHandler, hq]

/-! ## §4 The contract -/

/-- **The subscriber contract.** The fan-out never waits; in every reachable
state each subscriber's queue is bounded, its loop wrote a prefix of what it
enqueued, which is a prefix of what it was offered, and a drop closes the
queue; a loop that returned `errTooSlow` had written everything it enqueued;
after a drop nothing more is ever enqueued; and a looping subscriber with a
closed queue can always write a queued payload or return `errTooSlow`. -/
theorem subscriber_contract :
    (∀ s : Sys, s.dispRunning = true → s.inCh.buf ≠ [] → (s.step .dispNotif).isSome) ∧
    (∀ s, Reachable s → ∀ i,
      (s.handlers i).writer.q.length ≤ notifWriterBacklog ∧
      (s.handlers i).log.written <+: (s.handlers i).log.enqueued ∧
      (s.handlers i).log.enqueued <+: (s.handlers i).log.offered ∧
      ((s.handlers i).log.enqueued.length < (s.handlers i).log.offered.length →
        (s.handlers i).writer.qClosed = true) ∧
      ((s.handlers i).phase.loopErr = some .tooSlow →
        (s.handlers i).log.written = (s.handlers i).log.enqueued)) ∧
    (∀ s s' : Sys, Reachable s → Steps s s' → ∀ i,
      (s.handlers i).log.enqueued.length < (s.handlers i).log.offered.length →
      (s'.handlers i).writer.qClosed = true ∧
        (s'.handlers i).log.enqueued = (s.handlers i).log.enqueued) ∧
    (∀ (s : Sys) (i : Nat), (s.handlers i).phase = .looping → (s.handlers i).writer.qClosed = true →
      ∃ st s', s.step (.loop i st) = some s' ∧
        ((s'.handlers i).writer.q.length < (s.handlers i).writer.q.length ∨
          (s'.handlers i).phase = .exited .tooSlow)) := by
  refine ⟨fun _ => dispNotif_enabled, ?_, ?_, fun _ _ => loop_drains⟩
  · intro s hr i
    have hi := hr.sysInv.handler_inv i
    exact ⟨hi.q_le, hi.written_prefix, hi.enqueued_prefix, hi.closed_of_dropped,
      fun ht => (hi.tooSlow_written ht).1⟩
  · intro s s' hr hst i hd
    exact hst.frozen hr i ((hr.sysInv.handler_inv i).closed_of_dropped hd)

/-- Seventeen notifications on the channel of a websocket subscriber whose
loop has not run: sixteen fill the queue, the seventeenth closes it; then the
peer closes the connection. -/
def droppedThenCanceledTrace : List Act :=
  [.request .websocket "c", .register 0, .dispCmd] ++
    (List.replicate 17 [.pgNotify ⟨"c", "p"⟩, .fetcherPush, .dispNotif]).flatten ++
    [.clientGone 0, .loop 0 .ctxDone]

/-- After a dropped offer, a subscriber's loop can end with `context.Canceled`
instead of `errTooSlow`, with no write failed and the queued payloads
unwritten. -/
theorem dropped_then_canceled :
    ∃ s, Reachable s ∧
      (s.handlers 0).log.enqueued.length < (s.handlers 0).log.offered.length ∧
      (s.handlers 0).phase = .exited .ctxDone ∧
      (s.handlers 0).log.written ≠ (s.handlers 0).log.enqueued := by
  obtain ⟨s, hr, hp⟩ := @reachable_of_run droppedThenCanceledTrace
    (fun s => decide ((s.handlers 0).log.enqueued.length < (s.handlers 0).log.offered.length)
      && (s.handlers 0).phase == .exited .ctxDone
      && (s.handlers 0).log.written != (s.handlers 0).log.enqueued) (by decide)
  simp only [Bool.and_eq_true, decide_eq_true_eq, beq_iff_eq, bne_iff_ne, ne_eq] at hp
  exact ⟨s, hr, hp.1.1, hp.1.2, hp.2⟩

end RapidRows.Streams
