import RapidRows.Streams.System

/-!
# Invariants of every reachable state

`step_handlers` says once what a step can do to the handlers: nothing, start
a new one, move one handler (`HandlerMove`), or fan a notification out. From
it, `SysInv` holds in every reachable state: the handler numbers in use are
below `nextId`, the registry and the pending commands name only those, and
every handler keeps its subscriber contract `Handler.Inv`.
-/

namespace RapidRows.Streams

/-! ## §1 What one step does -/

/-- What one step can do to one handler. -/
inductive HandlerMove (bg : Bool) : Handler → Handler → Prop
  | register {h : Handler} : h.phase = .registering → HandlerMove bg h { h with phase := .looping }
  | registerPanic {h : Handler} :
      h.phase = .registering → HandlerMove bg h { h with phase := .finished none }
  | loop {h h' : Handler} {st : LoopStep} :
      h.phase = .looping → h.loopStep bg st = some h' → HandlerMove bg h h'
  | clientGone {h : Handler} : HandlerMove bg h { h with clientGone := true }
  | finish {h : Handler} {e : LoopErr} :
      h.phase = .exited e → HandlerMove bg h { h with phase := .finished (some e) }

/-- The writer a command names. -/
def Cmd.writer : Cmd → Option Nat
  | .register _ w | .unregister _ w => some w
  | .stop => none

theorem Sys.handlerSend_cases {s s' : Sys} {i : Nat} {c : Cmd} {next onP : Handler}
    (h : s.handlerSend i c next onP = some s') :
    (s.cmd.closed = false ∧ s.cmd.buf.length < cmdCap ∧
      s' = { s.setHandler i next with cmd := { s.cmd with buf := s.cmd.buf ++ [c] } }) ∨
    (s.cmd.closed = true ∧ s' = (s.setHandler i onP).panic (.handler i)) := by
  unfold Sys.handlerSend Chan.send at h
  by_cases hc : s.cmd.closed = true
  · rw [if_pos hc] at h; cases h; exact .inr ⟨hc, rfl⟩
  · by_cases hl : s.cmd.buf.length < cmdCap
    · rw [if_neg hc, if_pos hl] at h
      cases h; exact .inl ⟨by simpa using hc, hl, rfl⟩
    · rw [if_neg hc, if_neg hl] at h; cases h

/-- **What a step does to the handlers.** -/
theorem step_handlers {s s' : Sys} {a : Act} (hs : s.step a = some s') :
    (s'.handlers = s.handlers ∧ s'.nextId = s.nextId) ∨
    (∃ t ch, s.srvUp = true ∧
      s'.handlers = Function.update s.handlers s.nextId (Handler.new t ch) ∧
      s'.nextId = s.nextId + 1) ∨
    (∃ i h', HandlerMove s.bgCancelled (s.handlers i) h' ∧
      (i < s.nextId ∨ (s.handlers i).phase ≠ .finished none) ∧
      s'.handlers = Function.update s.handlers i h' ∧ s'.nextId = s.nextId) ∨
    (∃ n : Notif, s'.handlers = fanOut s.handlers (s.c2ws n.channel) n.payload ∧
      s'.nextId = s.nextId) := by
  cases a with
  | request t ch =>
    simp only [Sys.step] at hs
    split at hs
    · cases hs; exact .inr (.inl ⟨t, ch, by assumption, rfl, rfl⟩)
    · cases hs
  | register i =>
    simp only [Sys.step] at hs
    split at hs
    · rename_i hp
      rcases Sys.handlerSend_cases hs with ⟨-, -, rfl⟩ | ⟨-, rfl⟩
      · exact .inr (.inr (.inl ⟨i, _, .register hp, .inr (by simp [hp]), rfl, rfl⟩))
      · exact .inr (.inr (.inl ⟨i, _, .registerPanic hp, .inr (by simp [hp]), rfl, rfl⟩))
    · cases hs
  | loop i st =>
    simp only [Sys.step] at hs
    split at hs
    · rename_i hp
      obtain ⟨h', hl, rfl⟩ := Option.map_eq_some'.mp hs
      exact .inr (.inr (.inl ⟨i, h', .loop hp hl, .inr (by simp [hp]), rfl, rfl⟩))
    · cases hs
  | clientGone i =>
    simp only [Sys.step] at hs
    split at hs
    · cases hs; exact .inr (.inr (.inl ⟨i, _, .clientGone, .inl ‹_›, rfl, rfl⟩))
    · cases hs
  | finish i =>
    simp only [Sys.step] at hs
    cases hp : (s.handlers i).phase <;> simp only [hp, reduceCtorEq] at hs
    case exited e =>
      split at hs
      · cases hs; exact .inr (.inr (.inl ⟨i, _, .finish hp, .inr (by simp [hp]), rfl, rfl⟩))
      · rcases Sys.handlerSend_cases hs with ⟨-, -, rfl⟩ | ⟨-, rfl⟩ <;>
          exact .inr (.inr (.inl ⟨i, _, .finish hp, .inr (by simp [hp]), rfl, rfl⟩))
  | dispCmd =>
    simp only [Sys.step] at hs
    cases hd : s.dispRunning <;> cases hb : s.cmd.buf <;>
      simp only [hd, hb, if_true, if_false, Bool.false_eq_true, reduceCtorEq] at hs
    case true.cons c rest => cases hs; cases c <;> exact .inl ⟨rfl, rfl⟩
  | dispNotif =>
    simp only [Sys.step] at hs
    cases hd : s.dispRunning <;> cases hb : s.inCh.buf <;>
      simp only [hd, hb, if_true, if_false, Bool.false_eq_true, reduceCtorEq] at hs
    case true.cons n rest => cases hs; exact .inr (.inr (.inr ⟨n, rfl, rfl⟩))
  | pgNotify n =>
    simp only [Sys.step] at hs
    split at hs <;> cases hs; exact .inl ⟨rfl, rfl⟩
  | fetcherPush =>
    simp only [Sys.step] at hs
    cases hf : s.fetcher <;> simp only [hf, reduceCtorEq] at hs
    case holding n =>
      cases hc : s.inCh.send inCap n <;> simp only [hc] at hs <;> cases hs <;> exact .inl ⟨rfl, rfl⟩
  | fetcherFail =>
    simp only [Sys.step] at hs
    split at hs <;> cases hs; exact .inl ⟨rfl, rfl⟩
  | stopCall =>
    simp only [Sys.step] at hs
    split at hs
    · split at hs <;> cases hs <;> exact .inl ⟨rfl, rfl⟩
    · cases hs
  | stopSend =>
    simp only [Sys.step] at hs
    split at hs
    · cases hc : s.cmd.send cmdCap .stop <;> simp only [hc] at hs <;> cases hs <;>
        exact .inl ⟨rfl, rfl⟩
    · cases hs
  | stopWait =>
    simp only [Sys.step] at hs
    split at hs <;> cases hs; exact .inl ⟨rfl, rfl⟩
  | stopCloseCmd =>
    simp only [Sys.step] at hs
    split at hs
    · split at hs <;> cases hs <;> exact .inl ⟨rfl, rfl⟩
    · cases hs
  | stopCloseIn =>
    simp only [Sys.step] at hs
    split at hs
    · split at hs <;> cases hs <;> exact .inl ⟨rfl, rfl⟩
    · cases hs
  | stopShutdown ok =>
    simp only [Sys.step] at hs
    split at hs
    · cases hs; cases ok <;> exact .inl ⟨rfl, rfl⟩
    · cases hs

/-- The command a step sends on `nd.cmd`. -/
inductive Sends (s : Sys) : Act → Cmd → Prop
  | register {i : Nat} : (s.handlers i).phase = .registering →
      Sends s (.register i) (.register (s.handlers i).channel i)
  | unregister {i : Nat} {e : LoopErr} : (s.handlers i).phase = .exited e →
      e.isCanceled = false → Sends s (.finish i) (.unregister (s.handlers i).channel i)
  | stop : s.stopPc = .sendStop → Sends s .stopSend .stop

/-- **What a step does to the registry and to `nd.cmd`'s buffer**: nothing,
one send, or the dispatcher's receive of the head command. -/
theorem step_registry {s s' : Sys} {a : Act} (hs : s.step a = some s') :
    (s'.c2ws = s.c2ws ∧ s'.cmd.buf = s.cmd.buf) ∨
    (∃ c, Sends s a c ∧ s'.c2ws = s.c2ws ∧ s'.cmd.buf = s.cmd.buf ++ [c]) ∨
    (∃ c, a = .dispCmd ∧ s.cmd.buf = c :: s'.cmd.buf ∧ s'.c2ws = applyCmd s.c2ws c) := by
  cases a with
  | register i =>
    simp only [Sys.step] at hs
    split at hs
    · rename_i hp
      rcases Sys.handlerSend_cases hs with ⟨-, -, rfl⟩ | ⟨-, rfl⟩
      · exact .inr (.inl ⟨_, .register hp, rfl, rfl⟩)
      · exact .inl ⟨rfl, rfl⟩
    · cases hs
  | finish i =>
    simp only [Sys.step] at hs
    cases hp : (s.handlers i).phase <;> simp only [hp, reduceCtorEq] at hs
    case exited e =>
      split at hs
      · cases hs; exact .inl ⟨rfl, rfl⟩
      · rename_i hc
        rcases Sys.handlerSend_cases hs with ⟨-, -, rfl⟩ | ⟨-, rfl⟩
        · exact .inr (.inl ⟨_, .unregister hp (by simpa using hc), rfl, rfl⟩)
        · exact .inl ⟨rfl, rfl⟩
  | dispCmd =>
    simp only [Sys.step] at hs
    cases hd : s.dispRunning <;> cases hb : s.cmd.buf <;>
      simp only [hd, hb, if_true, if_false, Bool.false_eq_true, reduceCtorEq] at hs
    case true.cons c rest =>
      cases hs
      refine .inr (.inr ⟨c, rfl, ?_, ?_⟩) <;> cases c <;> simp [hb, Sys.dispatch, applyCmd]
  | stopSend =>
    simp only [Sys.step] at hs
    split at hs
    · rename_i hpc
      cases hc : s.cmd.send cmdCap .stop <;> simp only [hc, reduceCtorEq] at hs <;> cases hs
      · rename_i c
        simp only [Chan.send] at hc
        split at hc
        · cases hc
        · split at hc
          · cases hc; exact .inr (.inl ⟨_, .stop hpc, rfl, rfl⟩)
          · cases hc
      · exact .inl ⟨rfl, rfl⟩
    · cases hs
  | request t ch =>
    simp only [Sys.step] at hs
    split at hs <;> cases hs; exact .inl ⟨rfl, rfl⟩
  | loop i st =>
    simp only [Sys.step] at hs
    split at hs
    · obtain ⟨h', -, rfl⟩ := Option.map_eq_some'.mp hs; exact .inl ⟨rfl, rfl⟩
    · cases hs
  | clientGone i =>
    simp only [Sys.step] at hs
    split at hs <;> cases hs; exact .inl ⟨rfl, rfl⟩
  | dispNotif =>
    simp only [Sys.step] at hs
    cases hd : s.dispRunning <;> cases hb : s.inCh.buf <;>
      simp only [hd, hb, if_true, if_false, Bool.false_eq_true, reduceCtorEq] at hs
    case true.cons n rest => cases hs; exact .inl ⟨rfl, rfl⟩
  | pgNotify n =>
    simp only [Sys.step] at hs
    split at hs <;> cases hs; exact .inl ⟨rfl, rfl⟩
  | fetcherPush =>
    simp only [Sys.step] at hs
    cases hf : s.fetcher <;> simp only [hf, reduceCtorEq] at hs
    case holding n =>
      cases hc : s.inCh.send inCap n <;> simp only [hc] at hs <;> cases hs <;> exact .inl ⟨rfl, rfl⟩
  | fetcherFail =>
    simp only [Sys.step] at hs
    split at hs <;> cases hs; exact .inl ⟨rfl, rfl⟩
  | stopCall =>
    simp only [Sys.step] at hs
    split at hs
    · split at hs <;> cases hs <;> exact .inl ⟨rfl, rfl⟩
    · cases hs
  | stopWait =>
    simp only [Sys.step] at hs
    split at hs <;> cases hs; exact .inl ⟨rfl, rfl⟩
  | stopCloseCmd =>
    simp only [Sys.step] at hs
    split at hs
    · split at hs <;> cases hs <;> exact .inl ⟨rfl, rfl⟩
    · cases hs
  | stopCloseIn =>
    simp only [Sys.step] at hs
    split at hs
    · split at hs <;> cases hs <;> exact .inl ⟨rfl, rfl⟩
    · cases hs
  | stopShutdown ok =>
    simp only [Sys.step] at hs
    split at hs
    · cases hs; cases ok <;> exact .inl ⟨rfl, rfl⟩
    · cases hs

/-! ## §2 The invariant -/

theorem HandlerMove.inv {bg : Bool} {h h' : Handler} (hm : HandlerMove bg h h') (hi : h.Inv) :
    h'.Inv := by
  cases hm with
  | register hp => exact hi.mono rfl rfl (fun _ => by simp [hp, Phase.running]) (by simp [hp, Phase.loopErr])
  | registerPanic hp =>
    exact hi.mono rfl rfl (fun h => by simp [Phase.running] at h) (by simp [hp, Phase.loopErr])
  | loop hp hl => exact hi.loopStep hp hl
  | clientGone => exact hi.mono rfl rfl id rfl
  | finish hp =>
    exact hi.mono rfl rfl (fun h => by simp [Phase.running] at h) (by simp [hp, Phase.loopErr])

/-- The invariant of every reachable state. -/
structure SysInv (s : Sys) : Prop where
  /-- Handler numbers from `nextId` on are unused. -/
  unused : ∀ i, s.nextId ≤ i → s.handlers i = Handler.unused
  /-- Every handler keeps its subscriber contract. -/
  handler_inv : ∀ i, (s.handlers i).Inv
  /-- The registry names arrived handlers only. -/
  c2ws_lt : ∀ ch x, some x ∈ s.c2ws ch → x < s.nextId
  /-- So do the pending commands. -/
  cmd_lt : ∀ c ∈ s.cmd.buf, ∀ x, c.writer = some x → x < s.nextId

theorem sysInv_init : SysInv Sys.init where
  unused := fun _ _ => rfl
  handler_inv := fun _ =>
    (Handler.inv_new .sse "").mono rfl rfl
      (fun h => by simp [Sys.init, Handler.unused, Phase.running] at h)
      (by simp [Sys.init, Handler.unused, Handler.new, Phase.loopErr])
  c2ws_lt := by simp [Sys.init]
  cmd_lt := by simp [Sys.init]

theorem SysInv.lt_of_phase {s : Sys} (hi : SysInv s) {i : Nat}
    (hp : (s.handlers i).phase ≠ .finished none) : i < s.nextId := by
  by_contra hlt
  exact hp (by rw [hi.unused i (by omega)]; rfl)

theorem SysInv.step {s s' : Sys} {a : Act} (hi : SysInv s) (hs : s.step a = some s') :
    SysInv s' := by
  have hnext : s.nextId ≤ s'.nextId := by
    rcases step_handlers hs with ⟨-, h⟩ | ⟨-, -, -, -, h⟩ | ⟨-, -, -, -, -, h⟩ | ⟨-, -, h⟩ <;> omega
  refine ⟨?_, ?_, ?_, ?_⟩
  · intro j hj
    rcases step_handlers hs with ⟨h1, h2⟩ | ⟨t, ch, -, h1, h2⟩ | ⟨i, h', hm, hlt, h1, h2⟩ | ⟨n, h1, h2⟩
    · rw [h1]; exact hi.unused j (by omega)
    · rw [h1, Function.update_noteq (by omega)]; exact hi.unused j (by omega)
    · rw [h1]
      by_cases hji : j = i
      · subst hji
        have hu := hi.unused j (by omega)
        rcases hlt with hlt | hlt
        · omega
        · exact absurd (by rw [hu]; rfl) hlt
      · rw [Function.update_noteq hji]; exact hi.unused j (by omega)
    · rw [h1, fanOut_of_not_mem (fun hm => by have := hi.c2ws_lt _ _ hm; omega)]
      exact hi.unused j (by omega)
  · intro j
    rcases step_handlers hs with ⟨h1, -⟩ | ⟨t, ch, -, h1, -⟩ | ⟨i, h', hm, -, h1, -⟩ | ⟨n, h1, -⟩
    · rw [h1]; exact hi.handler_inv j
    · rw [h1]
      by_cases hj : j = s.nextId
      · subst hj; simpa using Handler.inv_new t ch
      · rw [Function.update_noteq hj]; exact hi.handler_inv j
    · rw [h1]
      by_cases hj : j = i
      · subst hj; simpa using hm.inv (hi.handler_inv j)
      · rw [Function.update_noteq hj]; exact hi.handler_inv j
    · rw [h1]; exact fanOut_preserves (fun h p hh => hh.accept p) hi.handler_inv _ _ j
  · intro ch x hx
    rcases step_registry hs with ⟨h1, -⟩ | ⟨c, -, h1, -⟩ | ⟨c, -, hb, h1⟩
    · rw [h1] at hx; exact Nat.lt_of_lt_of_le (hi.c2ws_lt ch x hx) hnext
    · rw [h1] at hx; exact Nat.lt_of_lt_of_le (hi.c2ws_lt ch x hx) hnext
    · rw [h1] at hx
      refine Nat.lt_of_lt_of_le ?_ hnext
      cases c with
      | register ch' w =>
        by_cases hch : ch = ch'
        · subst hch
          simp only [applyCmd, Function.update_same, List.mem_append, List.mem_singleton,
            Option.some.injEq] at hx
          rcases hx with hx | rfl
          · exact hi.c2ws_lt _ _ hx
          · exact hi.cmd_lt (.register ch x) (by simp [hb]) _ rfl
        · simp only [applyCmd, Function.update_noteq hch] at hx; exact hi.c2ws_lt _ _ hx
      | unregister ch' w =>
        by_cases hch : ch = ch'
        · subst hch
          simp only [applyCmd, Function.update_same, unregisterSlots_eq_erase] at hx
          exact hi.c2ws_lt _ _ (List.mem_of_mem_erase hx)
        · simp only [applyCmd, Function.update_noteq hch] at hx; exact hi.c2ws_lt _ _ hx
      | stop => exact hi.c2ws_lt _ _ hx
  · intro c hc x hx
    refine Nat.lt_of_lt_of_le ?_ hnext
    rcases step_registry hs with ⟨-, h1⟩ | ⟨c', hsend, -, h1⟩ | ⟨c', -, hb, -⟩
    · rw [h1] at hc; exact hi.cmd_lt c hc x hx
    · rw [h1, List.mem_append, List.mem_singleton] at hc
      rcases hc with hc | rfl
      · exact hi.cmd_lt c hc x hx
      · cases hsend with
        | register hp => cases hx; exact hi.lt_of_phase (by simp [hp])
        | unregister hp _ => cases hx; exact hi.lt_of_phase (by simp [hp])
        | stop => cases hx
    · exact hi.cmd_lt c (by simp [hb, hc]) x hx

theorem Reachable.sysInv {s : Sys} (h : Reachable s) : SysInv s := by
  induction h with
  | init => exact sysInv_init
  | step _ hs ih => exact ih.step hs

end RapidRows.Streams
