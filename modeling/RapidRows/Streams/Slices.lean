import RapidRows.Streams.Dispatcher

/-!
# `c2ws` in memory

`Dispatcher` reads each `c2ws[c]` as a list. In Go it is a slice header over a
backing array that the slice surgery of `unregister` writes in place, and that
a later `append` writes into again when the slice has spare capacity. Here the
dispatcher's memory is modelled as it is: numbered backing arrays, each as long
as its capacity, and for each channel present in the map a header (array,
length, capacity); a slice reads as the first `len` slots of its array.

Each channel's slice has an array of its own (`SliceHeap.Wf`), so writing one
channel's array leaves every other channel's list as it was
(`read_storeArray_of_ne`). On that invariant, `register` appends to the
channel's list and `unregister` removes the first occurrence of its writer,
and neither touches another channel (`read_register`, `read_unregister`). From
the empty map, after any commands, the memory reads as the list registry of
`applyCmd` (`read_run`), and each channel's list is the writers registered on
it and not yet unregistered, in registration order (`c2ws_tracks_registrations`).
-/

namespace RapidRows.Streams

/-! ## §1 Slices and the dispatcher's memory -/

/-- A slice header of `[]*notifWriter`: its backing array, length and capacity. -/
structure SliceHdr where
  arr : Nat
  len : Nat
  cap : Nat
deriving DecidableEq, Repr

/-- The dispatcher's memory: the backing arrays by number, the next number the
runtime allocates, and the map `c2ws` (a channel absent from it is `none`). -/
structure SliceHeap where
  arrays : Nat → List (Option Nat)
  next : Nat
  c2ws : String → Option SliceHdr

/-- `make(map[string][]*notifWriter)`. -/
def SliceHeap.empty : SliceHeap := ⟨fun _ => [], 0, fun _ => none⟩

/-- `c2ws[c]` as a list: the first `len` slots of its array; an absent channel
reads as the nil slice. -/
def SliceHeap.read (m : SliceHeap) (c : String) : List (Option Nat) :=
  match m.c2ws c with
  | some s => (m.arrays s.arr).take s.len
  | none => []

/-- Write array `a` and set the header of channel `c`. -/
def SliceHeap.storeArray (m : SliceHeap) (a : Nat) (contents : List (Option Nat)) (c : String)
    (s : SliceHdr) : SliceHeap :=
  { m with arrays := Function.update m.arrays a contents, c2ws := Function.update m.c2ws c (some s) }

@[simp] theorem c2ws_storeArray (m : SliceHeap) (a : Nat) (xs : List (Option Nat)) (c : String)
    (s : SliceHdr) (c' : String) :
    (m.storeArray a xs c s).c2ws c' = if c' = c then some s else m.c2ws c' :=
  Function.update_apply _ _ _ _

@[simp] theorem arrays_storeArray (m : SliceHeap) (a : Nat) (xs : List (Option Nat)) (c : String)
    (s : SliceHdr) (a' : Nat) :
    (m.storeArray a xs c s).arrays a' = if a' = a then xs else m.arrays a' :=
  Function.update_apply _ _ _ _

/-- `append` without room: a fresh array holding the elements, `w`, and `spare`
nil slots of extra capacity, chosen by the runtime. -/
def SliceHeap.grow (m : SliceHeap) (c : String) (elems : List (Option Nat)) (w spare : Nat) : SliceHeap :=
  { m.storeArray m.next (elems ++ [some w] ++ List.replicate spare none) c
      ⟨m.next, elems.length + 1, elems.length + 1 + spare⟩ with next := m.next + 1 }

/-- `c2ws[c] = append(c2ws[c], w)`: with room, `w` goes into the slot after
the last element, in place; otherwise into a fresh array. -/
def SliceHeap.register (m : SliceHeap) (c : String) (w spare : Nat) : SliceHeap :=
  match m.c2ws c with
  | some s =>
    if s.len < s.cap then m.storeArray s.arr ((m.arrays s.arr).set s.len (some w)) c { s with len := s.len + 1 }
    else m.grow c ((m.arrays s.arr).take s.len) w spare
  | none => m.grow c [] w spare

/-- The `unregister` closure: for `ws := c2ws[c]`, at the first `i` with
`ws[i] == w2`, `ws[i] = nil` and `copy(ws[i:], ws[i+1:])` in the array, whose
slots past `len` stay as they were, then `c2ws[c] = ws[:len(ws)-1]`. -/
def SliceHeap.unregister (m : SliceHeap) (c : String) (w2 : Nat) : SliceHeap :=
  match m.c2ws c with
  | none => m
  | some s =>
    let ws := (m.arrays s.arr).take s.len
    match indexOfSlot w2 ws with
    | none => m
    | some i =>
      let cleared := ws.set i none
      m.storeArray s.arr (cleared.take i ++ shiftDown (cleared.drop i) ++ (m.arrays s.arr).drop s.len) c
        { s with len := s.len - 1 }

/-- The dispatcher takes one command; a register comes with the spare capacity
the runtime would give a fresh array. -/
def SliceHeap.apply (m : SliceHeap) : Cmd × Nat → SliceHeap
  | (.register c w, spare) => m.register c w spare
  | (.unregister c w, _) => m.unregister c w
  | (.stop, _) => m

/-- The dispatcher's memory after a sequence of commands. -/
def SliceHeap.run (m : SliceHeap) (cmds : List (Cmd × Nat)) : SliceHeap := cmds.foldl SliceHeap.apply m

/-! ## §2 Each channel has an array of its own -/

/-- What the memory keeps: every header fits its array, which was allocated,
and two channels never share an array. -/
structure SliceHeap.Wf (m : SliceHeap) : Prop where
  /-- A slice is no longer than its capacity, which is its array's length. -/
  fits : ∀ c s, m.c2ws c = some s → s.len ≤ s.cap ∧ (m.arrays s.arr).length = s.cap
  /-- Every array in use was allocated. -/
  allocated : ∀ c s, m.c2ws c = some s → s.arr < m.next
  /-- Two channels have two arrays. -/
  separate : ∀ c c' s s', c ≠ c' → m.c2ws c = some s → m.c2ws c' = some s' → s.arr ≠ s'.arr

theorem wf_empty : SliceHeap.empty.Wf := ⟨nofun, nofun, fun _ _ _ _ _ => nofun⟩

/-- **Frame.** Storing an array that another channel does not use leaves that
channel's list as it was. -/
theorem read_storeArray_of_ne {m : SliceHeap} {a : Nat} {xs : List (Option Nat)} {c c' : String}
    {s : SliceHdr} (hc : c' ≠ c) (ha : ∀ s', m.c2ws c' = some s' → s'.arr ≠ a) :
    (m.storeArray a xs c s).read c' = m.read c' := by
  unfold SliceHeap.read
  rw [c2ws_storeArray, if_neg hc]
  cases h : m.c2ws c' with
  | none => rfl
  | some s' => simp only [arrays_storeArray, if_neg (ha s' h)]

theorem read_storeArray_self (m : SliceHeap) (a : Nat) (xs : List (Option Nat)) (c : String) (s : SliceHdr)
    (ha : s.arr = a) : (m.storeArray a xs c s).read c = xs.take s.len := by
  simp [SliceHeap.read, ha]

theorem length_shiftDown {α : Type} (l : List α) : (shiftDown l).length = l.length := by
  cases l with
  | nil => rfl
  | cons a l => simp [shiftDown_cons]

theorem read_of_c2ws {m : SliceHeap} {c : String} {s : SliceHdr} (hs : m.c2ws c = some s) :
    m.read c = (m.arrays s.arr).take s.len := by
  simp [SliceHeap.read, hs]

/-- Storing a channel's own array changes that channel's list only. -/
theorem read_storeArray {m : SliceHeap} (hm : m.Wf) {c : String} {s : SliceHdr} (hs : m.c2ws c = some s)
    (xs : List (Option Nat)) (s' : SliceHdr) (ha : s'.arr = s.arr) :
    (m.storeArray s.arr xs c s').read = Function.update m.read c (xs.take s'.len) := by
  funext c'
  by_cases hc : c' = c
  · subst hc
    rw [Function.update_same]
    exact read_storeArray_self m _ xs c' s' ha
  · rw [Function.update_noteq hc]
    exact read_storeArray_of_ne hc fun s'' h => hm.separate c' c s'' s hc h hs

/-- A fresh array changes the growing channel's list only. -/
theorem read_grow {m : SliceHeap} (hm : m.Wf) (c : String) (elems : List (Option Nat)) (w spare : Nat) :
    (m.grow c elems w spare).read = Function.update m.read c (elems ++ [some w]) := by
  funext c'
  by_cases hc : c' = c
  · subst hc
    rw [Function.update_same]
    simp [SliceHeap.grow, SliceHeap.read, SliceHeap.storeArray, List.take_append_eq_append_take]
  · rw [Function.update_noteq hc]
    exact read_storeArray_of_ne (m := m) hc fun s' h => (hm.allocated c' s' h).ne

/-- A store keeps the invariant when the header fits the new contents, the
array was allocated, and no other channel uses it. -/
theorem wf_storeArray {m : SliceHeap} (hm : m.Wf) {a : Nat} {xs : List (Option Nat)} {c : String}
    {s : SliceHdr} (ha : s.arr = a) (hfit : s.len ≤ s.cap ∧ xs.length = s.cap) (halloc : a < m.next)
    (hsep : ∀ c' s', c' ≠ c → m.c2ws c' = some s' → s'.arr ≠ a) :
    (m.storeArray a xs c s).Wf := by
  refine ⟨fun c1 s1 h1 => ?_, fun c1 s1 h1 => ?_, fun c1 c2 s1 s2 hne h1 h2 => ?_⟩
  · rw [c2ws_storeArray] at h1
    split_ifs at h1 with hc
    · cases h1; simpa [ha] using hfit
    · simpa [hsep c1 s1 hc h1] using hm.fits c1 s1 h1
  · rw [c2ws_storeArray] at h1
    split_ifs at h1 with hc
    · cases h1; exact ha ▸ halloc
    · exact hm.allocated c1 s1 h1
  · rw [c2ws_storeArray] at h1 h2
    split_ifs at h1 h2 with hc1 hc2 hc2
    · exact absurd (hc1.trans hc2.symm) hne
    · cases h1; exact ha ▸ (hsep c2 s2 hc2 h2).symm
    · cases h2; exact ha ▸ hsep c1 s1 hc1 h1
    · exact hm.separate c1 c2 s1 s2 hne h1 h2

theorem wf_grow {m : SliceHeap} (hm : m.Wf) (c : String) (elems : List (Option Nat)) (w spare : Nat) :
    (m.grow c elems w spare).Wf := by
  have hbump : ({ m with next := m.next + 1 } : SliceHeap).Wf :=
    ⟨hm.fits, fun c s h => Nat.lt_succ_of_lt (hm.allocated c s h), hm.separate⟩
  have hfit : elems.length + 1 ≤ elems.length + 1 + spare ∧
      (elems ++ [some w] ++ List.replicate spare none).length = elems.length + 1 + spare := by
    simp; omega
  exact wf_storeArray hbump rfl hfit (Nat.lt_succ_self _)
    fun c' s' _ h => (hm.allocated c' s' h).ne

/-! ## §3 One command -/

/-- **`append` appends**, to its own channel only. -/
theorem read_register {m : SliceHeap} (hm : m.Wf) (c : String) (w spare : Nat) :
    (m.register c w spare).read = Function.update m.read c (m.read c ++ [some w]) := by
  unfold SliceHeap.register
  cases hs : m.c2ws c with
  | none => rw [read_grow hm]; simp [SliceHeap.read, hs]
  | some s =>
    simp only
    have hlen := (hm.fits c s hs).2
    split_ifs with hroom
    · rw [read_storeArray hm hs _ { s with len := s.len + 1 } rfl, read_of_c2ws hs,
        List.set_eq_take_append_cons_drop, if_pos (by omega)]
      simp [List.take_append_eq_append_take, List.take_take, show s.len ≤ (m.arrays s.arr).length by omega]
    · rw [read_grow hm, read_of_c2ws hs]

theorem wf_register {m : SliceHeap} (hm : m.Wf) (c : String) (w spare : Nat) :
    (m.register c w spare).Wf := by
  unfold SliceHeap.register
  cases hs : m.c2ws c with
  | none => exact wf_grow hm c [] w spare
  | some s =>
    simp only
    split_ifs with hroom
    · exact wf_storeArray hm rfl ⟨hroom, by simp [(hm.fits c s hs).2]⟩ (hm.allocated c s hs)
        fun c' s' hc h => hm.separate c' c s' s hc h hs
    · exact wf_grow hm c _ w spare

/-- The slice surgery of `unregister` keeps the slice's length. -/
theorem length_surgery (ws : List (Option Nat)) (i : Nat) :
    ((ws.set i none).take i ++ shiftDown ((ws.set i none).drop i)).length = ws.length := by
  simp only [List.length_append, List.length_take, List.length_drop, List.length_set, length_shiftDown]
  omega

/-- **The slice surgery in place is `unregisterSlots`**, on its own channel only. -/
theorem read_unregister {m : SliceHeap} (hm : m.Wf) (c : String) (w2 : Nat) :
    (m.unregister c w2).read = Function.update m.read c (unregisterSlots (m.read c) w2) := by
  unfold SliceHeap.unregister
  cases hs : m.c2ws c with
  | none =>
    have h : unregisterSlots (m.read c) w2 = m.read c := by simp [SliceHeap.read, hs]; rfl
    rw [h, Function.update_eq_self]
  | some s =>
    have hlen : ((m.arrays s.arr).take s.len).length = s.len := by simp [(hm.fits c s hs).1, (hm.fits c s hs).2]
    simp only [read_of_c2ws hs]
    cases hi : indexOfSlot w2 ((m.arrays s.arr).take s.len) with
    | none =>
      simp only [unregisterSlots, hi]
      rw [← read_of_c2ws hs, Function.update_eq_self]
    | some i =>
      simp only [read_storeArray hm hs _ { s with len := s.len - 1 } rfl, unregisterSlots, hi, hlen]
      rw [List.take_append_of_le_length (by rw [length_surgery, hlen]; omega)]

theorem wf_unregister {m : SliceHeap} (hm : m.Wf) (c : String) (w2 : Nat) :
    (m.unregister c w2).Wf := by
  unfold SliceHeap.unregister
  cases hs : m.c2ws c with
  | none => exact hm
  | some s =>
    obtain ⟨hle, hcap⟩ := hm.fits c s hs
    simp only
    split
    · exact hm
    · refine wf_storeArray hm rfl ⟨by simp only; omega, ?_⟩ (hm.allocated c s hs)
        fun c' s' hc h => hm.separate c' c s' s hc h hs
      rw [List.length_append, length_surgery]
      simp only [List.length_take, List.length_drop, hcap]
      omega

/-- **The memory refines the list registry**, one command at a time. -/
theorem read_apply {m : SliceHeap} (hm : m.Wf) (cmd : Cmd × Nat) :
    (m.apply cmd).read = applyCmd m.read cmd.1 := by
  obtain ⟨_ | _ | _, spare⟩ := cmd
  · exact read_register hm _ _ spare
  · exact read_unregister hm _ _
  · rfl

theorem wf_apply {m : SliceHeap} (hm : m.Wf) (cmd : Cmd × Nat) : (m.apply cmd).Wf := by
  obtain ⟨_ | _ | _, spare⟩ := cmd
  · exact wf_register hm _ _ spare
  · exact wf_unregister hm _ _
  · exact hm

/-! ## §4 Whole runs -/

theorem wf_run {m : SliceHeap} (hm : m.Wf) (cmds : List (Cmd × Nat)) : (m.run cmds).Wf := by
  induction cmds generalizing m with
  | nil => exact hm
  | cons cmd cmds ih => exact ih (wf_apply hm cmd)

/-- After any commands, the memory reads as the list registry of `applyCmd`. -/
theorem read_run {m : SliceHeap} (hm : m.Wf) (cmds : List (Cmd × Nat)) :
    (m.run cmds).read = (cmds.map Prod.fst).foldl applyCmd m.read := by
  induction cmds generalizing m with
  | nil => rfl
  | cons cmd cmds ih =>
    rw [List.map_cons, List.foldl_cons, ← read_apply hm cmd]
    exact ih (wf_apply hm cmd)

/-- An `unregister` leaves a stale writer past the shortened slice, and the
next `append` writes over it in place. -/
example :
    (SliceHeap.empty.run [(.register "x" 1, 1), (.register "y" 5, 0), (.register "x" 2, 0),
      (.unregister "x" 1, 0), (.register "x" 3, 0)]).read "x" = [some 2, some 3] := by
  decide

/-! ## §5 The writers live on a channel -/

/-- What one command does to the writers live on channel `c`: a registration
appends its writer, an unregistration removes the earliest live registration
of its writer. -/
def liveStep (c : String) (ws : List Nat) : Cmd → List Nat
  | .register c' w => if c' = c then ws ++ [w] else ws
  | .unregister c' w => if c' = c then ws.erase w else ws
  | .stop => ws

/-- The writers registered on `c` and not yet unregistered. -/
def liveOn (c : String) (cmds : List Cmd) : List Nat := cmds.foldl (liveStep c) []

/-- The writer a command registers on `c`, if any. -/
def registeredOn (c : String) : Cmd → Option Nat
  | .register c' w => if c' = c then some w else none
  | _ => none

theorem liveStep_sublist (c : String) (ws : List Nat) (cmd : Cmd) :
    List.Sublist (liveStep c ws cmd) (ws ++ (registeredOn c cmd).toList) := by
  cases cmd with
  | register c' w => by_cases hc : c' = c <;> simp [liveStep, registeredOn, hc]
  | unregister c' w => by_cases hc : c' = c <;> simp [liveStep, registeredOn, hc, List.erase_sublist]
  | stop => simp [liveStep, registeredOn]

/-- **Registration order.** The live writers are a subsequence of the writers
registered on the channel, in the order of their registration. -/
theorem liveOn_sublist (c : String) (cmds : List Cmd) :
    List.Sublist (liveOn c cmds) (cmds.filterMap (registeredOn c)) := by
  suffices h : ∀ ws, List.Sublist (cmds.foldl (liveStep c) ws) (ws ++ cmds.filterMap (registeredOn c)) from h []
  induction cmds with
  | nil => simp
  | cons cmd cmds ih =>
    intro ws
    have hstep := (liveStep_sublist c ws cmd).append_right (cmds.filterMap (registeredOn c))
    cases h : registeredOn c cmd <;> simpa [List.filterMap_cons, h] using (ih _).trans hstep

theorem map_some_erase (ws : List Nat) (w : Nat) : (ws.map some).erase (some w) = (ws.erase w).map some := by
  induction ws with
  | nil => rfl
  | cons a ws ih => by_cases h : a = w <;> simp [List.erase_cons, h, ih]

/-- One command on the list registry is one step of `liveStep` on each channel. -/
theorem applyCmd_liveStep {r : Registry} {c : String} {ws : List Nat} (h : r c = ws.map some) (cmd : Cmd) :
    applyCmd r cmd c = (liveStep c ws cmd).map some := by
  cases cmd with
  | register c' w =>
    by_cases hc : c' = c
    · subst hc; simp [applyCmd, liveStep, h]
    · simp [applyCmd, liveStep, hc, Function.update_noteq (Ne.symm hc), h]
  | unregister c' w =>
    by_cases hc : c' = c
    · subst hc
      simp [applyCmd, liveStep, h, unregisterSlots_eq_erase, map_some_erase]
    · simp [applyCmd, liveStep, hc, Function.update_noteq (Ne.symm hc), h]
  | stop => exact h

theorem foldl_applyCmd_liveStep {r : Registry} {c : String} {ws : List Nat} (h : r c = ws.map some)
    (cmds : List Cmd) : cmds.foldl applyCmd r c = (cmds.foldl (liveStep c) ws).map some := by
  induction cmds generalizing r ws with
  | nil => exact h
  | cons cmd cmds ih => exact ih (applyCmd_liveStep h cmd)

/-- **`c2ws` tracks the registrations.** From `make`, after any commands (a
register with any spare capacity the runtime gives a fresh array), channel `c`'s
slice reads as the writers live on it, in registration order; an `unregister`
removes the first occurrence of its writer from `c`'s slice, and neither it nor
an `append` changes the slice of another channel. -/
theorem c2ws_tracks_registrations (cmds : List (Cmd × Nat)) (c : String) :
    let m := SliceHeap.empty.run cmds
    m.read c = (liveOn c (cmds.map Prod.fst)).map some ∧
    List.Sublist (liveOn c (cmds.map Prod.fst)) ((cmds.map Prod.fst).filterMap (registeredOn c)) ∧
    (∀ w2, (m.unregister c w2).read = Function.update m.read c ((m.read c).erase (some w2))) ∧
    (∀ w spare, (m.register c w spare).read = Function.update m.read c (m.read c ++ [some w])) := by
  intro m
  have hm : m.Wf := wf_run wf_empty cmds
  refine ⟨?_, liveOn_sublist c _, fun w2 => ?_, fun w spare => read_register hm c w spare⟩
  · rw [read_run wf_empty]
    exact foldl_applyCmd_liveStep rfl _
  · rw [read_unregister hm, unregisterSlots_eq_erase]

end RapidRows.Streams
