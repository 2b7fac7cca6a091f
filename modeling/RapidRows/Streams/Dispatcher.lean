import RapidRows.Streams.Subscriber

/-!
# The notification dispatcher's registry

`notifDispatcher.dispatcher` (`streams.go`) owns a map `c2ws` from a
PostgreSQL channel to the `notifWriter`s registered on it. It changes only by
the commands of `nd.cmd`, and a notification from `nd.in` is fanned out by
calling `accept` on every writer of its channel.

Writers are named by the number of their handler, and a slot of a `c2ws`
slice is `none` where the Go slice holds `nil`: the `unregister` closure
writes `nil` before it shifts the tail down. `unregisterSlots_eq_erase`
shows that the slice surgery removes exactly the first occurrence.
-/

namespace RapidRows.Streams

/-- A `pgconn.Notification`: the channel it was sent on, and its payload. -/
structure Notif where
  channel : String
  payload : String
deriving DecidableEq, Repr

/-- A `notifDisptacherCmd`, by its `act`. -/
inductive Cmd
  | register (channel : String) (writer : Nat)
  | unregister (channel : String) (writer : Nat)
  | stop
deriving DecidableEq, Repr

/-- The dispatcher's `c2ws`. -/
abbrev Registry := String → List (Option Nat)

/-! ## §1 The `unregister` closure -/

/-- `copy(ws[i:], ws[i+1:])` seen on the suffix `ws[i:]`: every element moves
down one place, and the last one stays where it was. -/
def shiftDown {α : Type} : List α → List α
  | _ :: b :: rest => b :: shiftDown (b :: rest)
  | l => l

/-- The index the loop `for i, w := range ws { if w == w2 {` stops at. -/
def indexOfSlot (w2 : Nat) : List (Option Nat) → Option Nat
  | [] => none
  | w :: ws => if w = some w2 then some 0 else (indexOfSlot w2 ws).map (· + 1)

/-- The `unregister` closure on the slice `ws = c2ws[c]`: at the first `i`
with `ws[i] == w2`, `ws[i] = nil`, `copy(ws[i:], ws[i+1:])`, and the slice is
cut to `ws[:len(ws)-1]`. -/
def unregisterSlots (ws : List (Option Nat)) (w2 : Nat) : List (Option Nat) :=
  match indexOfSlot w2 ws with
  | none => ws
  | some i =>
    let cleared := ws.set i none
    let copied := cleared.take i ++ shiftDown (cleared.drop i)
    copied.take (ws.length - 1)

theorem shiftDown_cons {α : Type} (a : α) (l : List α) :
    shiftDown (a :: l) = l ++ [(a :: l).getLast (List.cons_ne_nil a l)] := by
  induction l generalizing a with
  | nil => rfl
  | cons b l ih => simp [shiftDown, ih]

theorem indexOfSlot_eq_none {w2 : Nat} {ws : List (Option Nat)} :
    indexOfSlot w2 ws = none ↔ some w2 ∉ ws := by
  induction ws with
  | nil => simp [indexOfSlot]
  | cons w ws ih =>
    by_cases h : w = some w2
    · simp [indexOfSlot, h]
    · simp [indexOfSlot, h, ih]
      exact fun _ e => h e.symm

/-- Where the loop stops, the slice splits around the first `w2`. -/
theorem indexOfSlot_eq_some {w2 i : Nat} {ws : List (Option Nat)}
    (h : indexOfSlot w2 ws = some i) :
    ∃ A B, ws = A ++ some w2 :: B ∧ A.length = i ∧ some w2 ∉ A := by
  induction ws generalizing i with
  | nil => simp [indexOfSlot] at h
  | cons w ws ih =>
    by_cases hw : w = some w2
    · simp only [indexOfSlot, hw, if_true, Option.some.injEq] at h
      exact ⟨[], ws, by simp [hw], by simp [h], by simp⟩
    · simp only [indexOfSlot, hw, if_false, Option.map_eq_some'] at h
      obtain ⟨j, hj, rfl⟩ := h
      obtain ⟨A, B, rfl, rfl, hA⟩ := ih hj
      exact ⟨w :: A, B, rfl, rfl, by simp [hA, Ne.symm hw]⟩

/-- **The slice surgery removes the first occurrence.** -/
theorem unregisterSlots_eq_erase (ws : List (Option Nat)) (w2 : Nat) :
    unregisterSlots ws w2 = ws.erase (some w2) := by
  unfold unregisterSlots
  cases hi : indexOfSlot w2 ws with
  | none => exact (List.erase_of_not_mem (indexOfSlot_eq_none.mp hi)).symm
  | some i =>
    obtain ⟨A, B, rfl, rfl, hA⟩ := indexOfSlot_eq_some hi
    have hset : (A ++ some w2 :: B).set A.length none = A ++ none :: B := by
      simp [List.set_append_right]
    simp only [hset, List.take_left', List.drop_left', shiftDown_cons,
      List.erase_append_right _ hA, List.erase_cons_head, ← List.append_assoc]
    rw [List.take_left' (by simp)]

/-! ## §2 Commands and fan-out -/

/-- The dispatcher's `switch c.act` on a register or unregister command. -/
def applyCmd (c2ws : Registry) : Cmd → Registry
  | .register ch w => Function.update c2ws ch (c2ws ch ++ [some w])
  | .unregister ch w => Function.update c2ws ch (unregisterSlots (c2ws ch) w)
  | .stop => c2ws

/-- `for _, w := range c2ws[notif.Channel] { w.accept(notif.Payload) }`. On a
`nil` slot, `accept` dereferences `nil`; its deferred `recover` stops that
panic, so the slot has no effect. -/
def fanOut (hs : Nat → Handler) (ws : List (Option Nat)) (payload : String) : Nat → Handler :=
  ws.foldl (fun hs w => match w with
    | some w => Function.update hs w ((hs w).accept payload)
    | none => hs) hs

/-- Fan-out keeps any property that `accept` keeps. -/
theorem fanOut_preserves {P : Handler → Prop} (hP : ∀ h p, P h → P (h.accept p))
    {hs : Nat → Handler} (h : ∀ x, P (hs x)) (ws : List (Option Nat)) (p : String) :
    ∀ x, P (fanOut hs ws p x) := by
  induction ws generalizing hs with
  | nil => exact h
  | cons w ws ih =>
    cases w with
    | none => exact ih h
    | some w =>
      refine ih (fun x => ?_)
      by_cases hx : x = w
      · subst hx; simpa using hP _ p (h x)
      · simpa [Function.update_noteq hx] using h x

/-- Fan-out relates each handler to its result by any reflexive, transitive
relation that relates a handler to its `accept`. -/
theorem fanOut_rel {R : Handler → Handler → Prop} (hrefl : ∀ h, R h h)
    (htrans : ∀ a b c, R a b → R b c → R a c) (hacc : ∀ h p, R h (h.accept p))
    (hs : Nat → Handler) (ws : List (Option Nat)) (p : String) (x : Nat) :
    R (hs x) (fanOut hs ws p x) := by
  induction ws generalizing hs with
  | nil => exact hrefl _
  | cons w ws ih =>
    cases w with
    | none => exact ih hs
    | some w =>
      change R (hs x) (fanOut (Function.update hs w ((hs w).accept p)) ws p x)
      refine htrans _ _ _ ?_ (ih _)
      by_cases hx : x = w
      · subst hx; simpa using hacc (hs x) p
      · simpa [Function.update_noteq hx] using hrefl (hs x)

/-- Fan-out touches only writers registered on the channel. -/
theorem fanOut_of_not_mem {hs : Nat → Handler} {ws : List (Option Nat)} {x : Nat}
    (hx : some x ∉ ws) (p : String) : fanOut hs ws p x = hs x := by
  induction ws generalizing hs with
  | nil => rfl
  | cons w ws ih =>
    simp only [List.mem_cons, not_or] at hx
    cases w with
    | none => exact ih hx.2
    | some w =>
      change fanOut (Function.update hs w ((hs w).accept p)) ws p x = hs x
      rw [ih hx.2]
      exact Function.update_noteq (fun h => hx.1 (by rw [h])) _ _

/-- Fan-out leaves the fields that `accept` leaves. -/
theorem fanOut_frame {f : Handler → α} (hf : ∀ h p, f (h.accept p) = f h)
    (hs : Nat → Handler) (ws : List (Option Nat)) (p : String) (x : Nat) :
    f (fanOut hs ws p x) = f (hs x) := by
  induction ws generalizing hs with
  | nil => rfl
  | cons w ws ih =>
    cases w with
    | none => exact ih hs
    | some w =>
      change f (fanOut (Function.update hs w ((hs w).accept p)) ws p x) = f (hs x)
      rw [ih]
      by_cases hx : x = w
      · subst hx; simp [hf]
      · simp [Function.update_noteq hx]

end RapidRows.Streams
