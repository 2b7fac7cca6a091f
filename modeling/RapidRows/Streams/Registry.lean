import RapidRows.Streams.Contract
import Mathlib.Data.List.Nodup

/-!
# The dispatcher's registry while the server runs

While `bgctx` is live, `Stop` has not begun: the dispatcher runs, its
channels are open, and no goroutine has panicked (`Quiet`). The registry, once
the dispatcher has taken the pending commands, then holds handler `i` on `ch`
exactly when `i` is a handler of `ch` whose `register` was sent and whose
`unregister` was not, which is the case while its loop runs and after the
loop returned `context.Canceled` (`registry_after_drain`).

A websocket loop returns `context.Canceled` when its peer closes or sends a
data frame, since `ws.CloseRead` cancels the loop's context, and
`serveStream` then skips `unregister` though `bgctx` is live. The writer of a
handler that has returned stays registered (`ws_close_keeps_writer`).
-/

namespace RapidRows.Streams

/-! ## §1 The registry after the pending commands -/

/-- The registry once the dispatcher has taken the commands `cmds`. -/
def drain (m : Registry) (cmds : List Cmd) : Registry := cmds.foldl applyCmd m

theorem drain_append_single (m : Registry) (cmds : List Cmd) (c : Cmd) :
    drain m (cmds ++ [c]) = applyCmd (drain m cmds) c := by
  simp [drain, List.foldl_append]

/-- A writer in the drained registry is in the registry or in a pending command. -/
theorem mem_drain {m : Registry} {cmds : List Cmd} {ch : String} {x : Nat}
    (h : some x ∈ drain m cmds ch) : (∃ ch', some x ∈ m ch') ∨ ∃ c ∈ cmds, c.writer = some x := by
  induction cmds generalizing m with
  | nil => exact .inl ⟨ch, h⟩
  | cons c cmds ih =>
    rcases ih h with ⟨ch', hm⟩ | ⟨c', hc', hw⟩
    · cases c with
      | register ch'' w =>
        by_cases hch : ch' = ch''
        · subst hch
          simp only [applyCmd, Function.update_same, List.mem_append, List.mem_singleton,
            Option.some.injEq] at hm
          rcases hm with hm | rfl
          · exact .inl ⟨_, hm⟩
          · exact .inr ⟨_, List.mem_cons_self _ _, rfl⟩
        · simp only [applyCmd, Function.update_noteq hch] at hm; exact .inl ⟨_, hm⟩
      | unregister ch'' w =>
        by_cases hch : ch' = ch''
        · subst hch
          simp only [applyCmd, Function.update_same, unregisterSlots_eq_erase] at hm
          exact .inl ⟨_, List.mem_of_mem_erase hm⟩
        · simp only [applyCmd, Function.update_noteq hch] at hm; exact .inl ⟨_, hm⟩
      | stop => exact .inl ⟨_, hm⟩
    · exact .inr ⟨c', List.mem_cons_of_mem _ hc', hw⟩

/-- The handler's `register` was sent and its `unregister` will not be: its
loop runs, or has returned and `serveStream` is about to decide, or returned
`context.Canceled`. Where it is registered, then. -/
def Handler.regChannel (h : Handler) : Option String :=
  match h.phase with
  | .looping | .exited _ => some h.channel
  | .finished (some e) => if e.isCanceled then some h.channel else none
  | _ => none

theorem Handler.regChannel_accept (h : Handler) (p : String) :
    (h.accept p).regChannel = h.regChannel := rfl

theorem Handler.regChannel_loopStep {h h' : Handler} {bg : Bool} {st : LoopStep}
    (hp : h.phase = .looping) (hs : h.loopStep bg st = some h') :
    h'.regChannel = h.regChannel := by
  cases st with
  | recv res =>
    simp only [Handler.loopStep] at hs
    split at hs
    · cases hs
    · cases res <;> cases hs <;> simp [Handler.regChannel, Handler.exit, hp]
  | drained =>
    simp only [Handler.loopStep] at hs
    split at hs <;> cases hs; simp [Handler.regChannel, Handler.exit, hp]
  | ctxDone =>
    simp only [Handler.loopStep] at hs
    split at hs <;> cases hs; simp [Handler.regChannel, Handler.exit, hp]
  | fail e => cases hs; simp [Handler.regChannel, Handler.exit, hp]

/-! ## §2 While `bgctx` is live -/

/-- `Stop` has not begun: the dispatcher runs, its channels are open, nobody
has asked it to stop, and no goroutine has panicked. -/
structure Quiet (s : Sys) : Prop where
  idle : s.stopPc = .idle
  srvUp : s.srvUp = true
  disp : s.dispRunning = true
  cmd_open : s.cmd.closed = false
  in_open : s.inCh.closed = false
  no_stop : Cmd.stop ∉ s.cmd.buf
  no_panic : s.panics = []

theorem Quiet.of_eq {s s' : Sys} (hq : Quiet s) (h1 : s'.stopPc = s.stopPc)
    (h2 : s'.srvUp = s.srvUp) (h3 : s'.dispRunning = s.dispRunning)
    (h4 : s'.cmd.closed = s.cmd.closed) (h5 : s'.inCh.closed = s.inCh.closed)
    (h6 : s'.panics = s.panics) (h7 : Cmd.stop ∈ s'.cmd.buf → Cmd.stop ∈ s.cmd.buf) : Quiet s' :=
  ⟨h1 ▸ hq.idle, h2 ▸ hq.srvUp, h3 ▸ hq.disp, h4 ▸ hq.cmd_open, h5 ▸ hq.in_open,
    fun h => hq.no_stop (h7 h), h6 ▸ hq.no_panic⟩

/-- A handler's send on an open `nd.cmd` goes through. -/
theorem Sys.handlerSend_open {s s' : Sys} {i : Nat} {c : Cmd} {next onP : Handler}
    (h : s.handlerSend i c next onP = some s') (hc : s.cmd.closed = false) :
    s' = { s.setHandler i next with cmd := { s.cmd with buf := s.cmd.buf ++ [c] } } := by
  rcases Sys.handlerSend_cases h with ⟨-, -, rfl⟩ | ⟨hc', -⟩
  · rfl
  · simp [hc] at hc'

theorem Quiet.step {s s' : Sys} {a : Act} (hq : Quiet s) (hs : s.step a = some s')
    (hbg : s'.bgCancelled = false) : Quiet s' := by
  cases a with
  | request t ch =>
    simp only [Sys.step, if_pos hq.srvUp, Option.some.injEq] at hs
    subst hs; exact hq.of_eq rfl rfl rfl rfl rfl rfl id
  | register i =>
    simp only [Sys.step] at hs
    split at hs
    · rw [Sys.handlerSend_open hs hq.cmd_open]
      exact hq.of_eq rfl rfl rfl rfl rfl rfl (by simp)
    · cases hs
  | loop i st =>
    simp only [Sys.step] at hs
    split at hs
    · obtain ⟨h', -, rfl⟩ := Option.map_eq_some'.mp hs
      exact hq.of_eq rfl rfl rfl rfl rfl rfl id
    · cases hs
  | clientGone i =>
    simp only [Sys.step] at hs
    split at hs <;> cases hs; exact hq.of_eq rfl rfl rfl rfl rfl rfl id
  | finish i =>
    simp only [Sys.step] at hs
    cases hp : (s.handlers i).phase <;> simp only [hp, reduceCtorEq] at hs
    case exited e =>
      split at hs
      · cases hs; exact hq.of_eq rfl rfl rfl rfl rfl rfl id
      · rw [Sys.handlerSend_open hs hq.cmd_open]
        exact hq.of_eq rfl rfl rfl rfl rfl rfl (by simp)
  | dispCmd =>
    simp only [Sys.step] at hs
    cases hd : s.dispRunning <;> cases hb : s.cmd.buf <;>
      simp only [hd, hb, if_true, if_false, Bool.false_eq_true, reduceCtorEq] at hs
    case true.cons c rest =>
      cases hs
      have hstop : c ≠ .stop := fun h => hq.no_stop (by simp [hb, h])
      cases c with
      | stop => exact absurd rfl hstop
      | _ => exact hq.of_eq rfl rfl hd.symm rfl rfl rfl (fun h => by simpa [Sys.dispatch, hb] using h)
  | dispNotif =>
    simp only [Sys.step] at hs
    cases hd : s.dispRunning <;> cases hb : s.inCh.buf <;>
      simp only [hd, hb, if_true, if_false, Bool.false_eq_true, reduceCtorEq] at hs
    case true.cons n rest => cases hs; exact hq.of_eq rfl rfl hd.symm rfl rfl rfl id
  | pgNotify n =>
    simp only [Sys.step] at hs
    split at hs <;> cases hs; exact hq.of_eq rfl rfl rfl rfl rfl rfl id
  | fetcherPush =>
    simp only [Sys.step] at hs
    cases hf : s.fetcher <;> simp only [hf, reduceCtorEq] at hs
    case holding n =>
      cases hc : s.inCh.send inCap n <;> simp only [hc, reduceCtorEq, Option.some.injEq] at hs
      case ok c => subst hs; exact hq.of_eq rfl rfl rfl rfl (Chan.send_ok_closed hc) rfl id
      case panic => exact absurd (Chan.closed_of_send_panic hc) (by simp [hq.in_open])
  | fetcherFail =>
    simp only [Sys.step] at hs
    split at hs <;> cases hs; exact hq.of_eq rfl rfl rfl rfl rfl rfl id
  | stopCall =>
    simp only [Sys.step, hq.idle, hq.srvUp, if_true, Option.some.injEq] at hs
    subst hs; cases hbg
  | stopSend => simp [Sys.step, hq.idle] at hs
  | stopWait => simp [Sys.step, hq.idle] at hs
  | stopCloseCmd => simp [Sys.step, hq.idle] at hs
  | stopCloseIn => simp [Sys.step, hq.idle] at hs
  | stopShutdown ok => simp [Sys.step, hq.idle] at hs

/-- Once the pending commands are taken, the registry holds exactly the
registered handlers, each once, on its own channel. -/
structure RegistryExact (s : Sys) : Prop where
  mem : ∀ ch i, some i ∈ drain s.c2ws s.cmd.buf ch ↔ (s.handlers i).regChannel = some ch
  nodup : ∀ ch, (drain s.c2ws s.cmd.buf ch).Nodup

/-- A step that changes only the handlers, and keeps where each is registered. -/
theorem RegistryExact.of_handlers {s s' : Sys} (hr : RegistryExact s)
    (hc : s'.c2ws = s.c2ws) (hb : s'.cmd.buf = s.cmd.buf)
    (hreg : ∀ i, (s'.handlers i).regChannel = (s.handlers i).regChannel) : RegistryExact s' :=
  ⟨fun ch i => by rw [hc, hb, hreg i]; exact hr.mem ch i, fun ch => by rw [hc, hb]; exact hr.nodup ch⟩

/-- Only handler `i` changed, and where it is registered did not. -/
theorem RegistryExact.of_setHandler {s : Sys} (hr : RegistryExact s) {i : Nat} {h : Handler}
    (hh : h.regChannel = (s.handlers i).regChannel) : RegistryExact (s.setHandler i h) :=
  hr.of_handlers rfl rfl fun j => by
    by_cases hj : j = i
    · subst hj; simpa [Sys.setHandler] using hh
    · simp [Sys.setHandler, Function.update_noteq hj]

theorem RegistryExact.register {s s' : Sys} {i : Nat} (hs : s.step (.register i) = some s')
    (hq : Quiet s) (hr : RegistryExact s) : RegistryExact s' := by
  simp only [Sys.step] at hs
  split at hs
  · rename_i hp
    rw [Sys.handlerSend_open hs hq.cmd_open]
    have hnot : some i ∉ drain s.c2ws s.cmd.buf (s.handlers i).channel := by
      rw [hr.mem]; simp [Handler.regChannel, hp]
    constructor
    · intro ch j
      simp only [Sys.setHandler, drain_append_single]
      by_cases hj : j = i
      · subst hj
        by_cases hch : ch = (s.handlers j).channel
        · subst hch; simp [applyCmd, Handler.regChannel]
        · simp [applyCmd, Function.update_noteq hch, hr.mem, Handler.regChannel, hp, Ne.symm hch]
      · rw [Function.update_noteq hj, ← hr.mem]
        by_cases hch : ch = (s.handlers i).channel
        · subst hch; simp [applyCmd, hj]
        · simp [applyCmd, Function.update_noteq hch]
    · intro ch
      simp only [Sys.setHandler, drain_append_single]
      by_cases hch : ch = (s.handlers i).channel
      · subst hch
        simpa [applyCmd, List.nodup_append, hnot] using hr.nodup (s.handlers i).channel
      · simpa [applyCmd, Function.update_noteq hch] using hr.nodup ch
  · cases hs

theorem RegistryExact.finish {s s' : Sys} {i : Nat} (hs : s.step (.finish i) = some s')
    (hq : Quiet s) (hr : RegistryExact s) : RegistryExact s' := by
  simp only [Sys.step] at hs
  cases hp : (s.handlers i).phase <;> simp only [hp, reduceCtorEq] at hs
  case exited e =>
    split at hs
    · rename_i hcan
      cases hs
      exact hr.of_setHandler (by simp [Handler.regChannel, hp, hcan])
    · rename_i hcan
      rw [Sys.handlerSend_open hs hq.cmd_open]
      constructor
      · intro ch j
        simp only [Sys.setHandler, drain_append_single]
        by_cases hch : ch = (s.handlers i).channel
        · subst hch
          simp only [applyCmd, Function.update_same, unregisterSlots_eq_erase,
            (hr.nodup _).mem_erase_iff, ne_eq, Option.some.injEq]
          by_cases hj : j = i
          · subst hj; simp [Handler.regChannel, hcan]
          · simp [hj, Function.update_noteq hj, hr.mem]
        · simp only [applyCmd, Function.update_noteq hch]
          by_cases hj : j = i
          · subst hj
            simp [hr.mem, Handler.regChannel, hp, hcan, Ne.symm hch]
          · simp [Function.update_noteq hj, hr.mem]
      · intro ch
        simp only [drain_append_single]
        by_cases hch : ch = (s.handlers i).channel
        · subst hch
          simpa [applyCmd, unregisterSlots_eq_erase] using (hr.nodup _).erase _
        · simpa [applyCmd, Function.update_noteq hch] using hr.nodup ch

/-- **The registry stays exact while `bgctx` is live.** -/
theorem RegistryExact.step {s s' : Sys} {a : Act} (hsi : SysInv s) (hq : Quiet s)
    (hr : RegistryExact s) (hs : s.step a = some s') (hbg : s'.bgCancelled = false) :
    RegistryExact s' := by
  cases a with
  | request t ch =>
    simp only [Sys.step, hq.srvUp, if_true, Option.some.injEq] at hs
    subst hs
    have hfresh : ∀ ch, some s.nextId ∉ drain s.c2ws s.cmd.buf ch := fun ch hm => by
      rcases mem_drain hm with ⟨ch', h⟩ | ⟨c, hc, hw⟩
      · exact absurd (hsi.c2ws_lt _ _ h) (lt_irrefl _)
      · exact absurd (hsi.cmd_lt c hc _ hw) (lt_irrefl _)
    refine ⟨fun ch j => ?_, hr.nodup⟩
    by_cases hj : j = s.nextId
    · subst hj; simp [hfresh, Handler.regChannel, Handler.new]
    · simpa [Function.update_noteq hj] using hr.mem ch j
  | register i => exact hr.register hs hq
  | loop i st =>
    simp only [Sys.step] at hs
    split at hs
    · rename_i hp
      obtain ⟨h', hl, rfl⟩ := Option.map_eq_some'.mp hs
      exact hr.of_setHandler (Handler.regChannel_loopStep hp hl)
    · cases hs
  | clientGone i =>
    simp only [Sys.step] at hs
    split at hs <;> cases hs
    exact hr.of_setHandler rfl
  | finish i => exact hr.finish hs hq
  | dispCmd =>
    simp only [Sys.step] at hs
    cases hd : s.dispRunning <;> cases hb : s.cmd.buf <;>
      simp only [hd, hb, if_true, if_false, Bool.false_eq_true, reduceCtorEq] at hs
    case true.cons c rest =>
      cases hs
      have hstop : c ≠ .stop := fun h => hq.no_stop (by simp [hb, h])
      have hdrain : drain (applyCmd s.c2ws c) rest = drain s.c2ws s.cmd.buf := by rw [hb]; rfl
      cases c with
      | stop => exact absurd rfl hstop
      | _ =>
        exact ⟨fun ch j => by simpa [Sys.dispatch, hdrain] using hr.mem ch j,
          fun ch => by simpa [Sys.dispatch, hdrain] using hr.nodup ch⟩
  | dispNotif =>
    simp only [Sys.step] at hs
    cases hd : s.dispRunning <;> cases hb : s.inCh.buf <;>
      simp only [hd, hb, if_true, if_false, Bool.false_eq_true, reduceCtorEq] at hs
    case true.cons n rest =>
      cases hs
      exact hr.of_handlers rfl rfl (fanOut_frame Handler.regChannel_accept _ _ _)
  | pgNotify n =>
    simp only [Sys.step] at hs
    split at hs <;> cases hs; exact hr.of_handlers rfl rfl fun _ => rfl
  | fetcherPush =>
    simp only [Sys.step] at hs
    cases hf : s.fetcher <;> simp only [hf, reduceCtorEq] at hs
    case holding n =>
      cases hc : s.inCh.send inCap n <;> simp only [hc, reduceCtorEq, Option.some.injEq] at hs
      case ok c => subst hs; exact hr.of_handlers rfl rfl fun _ => rfl
      case panic => exact absurd (Chan.closed_of_send_panic hc) (by simp [hq.in_open])
  | fetcherFail =>
    simp only [Sys.step] at hs
    split at hs <;> cases hs; exact hr.of_handlers rfl rfl fun _ => rfl
  | stopCall =>
    simp only [Sys.step, hq.idle, hq.srvUp, if_true, Option.some.injEq] at hs
    subst hs; cases hbg
  | stopSend => simp [Sys.step, hq.idle] at hs
  | stopWait => simp [Sys.step, hq.idle] at hs
  | stopCloseCmd => simp [Sys.step, hq.idle] at hs
  | stopCloseIn => simp [Sys.step, hq.idle] at hs
  | stopShutdown ok => simp [Sys.step, hq.idle] at hs

/-- Only `Stop` cancels `bgctx`, and nothing un-cancels it. -/
theorem step_bgCancelled {s s' : Sys} {a : Act} (hs : s.step a = some s')
    (h : s.bgCancelled = true) : s'.bgCancelled = true := by
  cases a <;> simp only [Sys.step] at hs <;> (repeat' split at hs) <;>
    first
    | (cases hs <;> first | exact h | rfl | simp [h, Sys.panic])
    | (obtain ⟨_, -, rfl⟩ := Option.map_eq_some'.mp hs; exact h)
    | (rcases Sys.handlerSend_cases hs with ⟨-, -, rfl⟩ | ⟨-, rfl⟩ <;> exact h)

theorem Reachable.quiet_registry {s : Sys} (hr : Reachable s) (hbg : s.bgCancelled = false) :
    Quiet s ∧ RegistryExact s := by
  induction hr with
  | init =>
    exact ⟨⟨rfl, rfl, rfl, rfl, rfl, by simp [Sys.init], rfl⟩,
      ⟨by simp [Sys.init, drain, Handler.unused, Handler.regChannel], by simp [Sys.init, drain]⟩⟩
  | step hr hs ih =>
    have hbg₀ : _ = false := Bool.eq_false_iff.mpr fun h => by
      rw [step_bgCancelled hs h] at hbg; cases hbg
    obtain ⟨hq, hreg⟩ := ih hbg₀
    exact ⟨hq.step hs hbg, hreg.step hr.sysInv hq hs hbg⟩

/-- **The registry while `bgctx` is live.** Once the dispatcher has taken the
pending commands, each channel's slice lists each handler at most once, and
lists exactly the handlers of that channel whose loop runs, is about to be
judged by `serveStream`, or returned `context.Canceled`. -/
theorem registry_after_drain {s : Sys} (hr : Reachable s) (hbg : s.bgCancelled = false)
    (ch : String) :
    (drain s.c2ws s.cmd.buf ch).Nodup ∧
      ∀ i, some i ∈ drain s.c2ws s.cmd.buf ch ↔ (s.handlers i).regChannel = some ch :=
  ⟨(hr.quiet_registry hbg).2.nodup ch, fun i => (hr.quiet_registry hbg).2.mem ch i⟩

/-- The subsystem once an SSE request on `chan` has sent its `register`, which
the dispatcher has not taken yet. -/
def sampleSys : Sys := (run Sys.init [.request .sse "chan", .register 0]).getD Sys.init

theorem sample_registry_after_drain :
    Reachable sampleSys ∧ sampleSys.bgCancelled = false ∧
      ((drain sampleSys.c2ws sampleSys.cmd.buf "chan").Nodup ∧
        ∀ i, some i ∈ drain sampleSys.c2ws sampleSys.cmd.buf "chan" ↔
          (sampleSys.handlers i).regChannel = some "chan") :=
  have hr : Reachable sampleSys :=
    Reachable.init.run (show run Sys.init [.request .sse "chan", .register 0] = some sampleSys from rfl)
  ⟨hr, rfl, registry_after_drain hr rfl "chan"⟩

/-! ## §3 A closed websocket stays registered -/

/-- A websocket subscriber registers on `chan`; its peer closes the
connection, which cancels the loop's context; the loop returns and
`serveStream` returns without `unregister`. -/
def wsCloseTrace : List Act :=
  [.request .websocket "chan", .register 0, .dispCmd, .clientGone 0, .loop 0 .ctxDone, .finish 0]

/-- With `bgctx` live and no command pending, the writer of a handler that has
returned is still in `c2ws`. -/
theorem ws_close_keeps_writer :
    ∃ s, Reachable s ∧ s.bgCancelled = false ∧ s.cmd.buf = [] ∧
      (s.handlers 0).phase = .finished (some .ctxDone) ∧ some 0 ∈ s.c2ws "chan" := by
  obtain ⟨s, hr, hp⟩ := @reachable_of_run wsCloseTrace
    (fun s => !s.bgCancelled && s.cmd.buf.isEmpty
      && (s.handlers 0).phase == .finished (some .ctxDone) && decide (some 0 ∈ s.c2ws "chan"))
    (by decide)
  simp only [Bool.and_eq_true, Bool.not_eq_true', List.isEmpty_iff, beq_iff_eq,
    decide_eq_true_eq] at hp
  exact ⟨s, hr, hp.1.1.1, hp.1.1.2, hp.1.2, hp.2⟩

end RapidRows.Streams
