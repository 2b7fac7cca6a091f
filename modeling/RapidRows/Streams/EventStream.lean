import Mathlib.Data.List.Basic

/-!
# The server-sent events body

`loopSSE` (`unnamed/part_004`) writes a keep-alive comment `":\n\n"` when the
loop starts and at every tick, and writes a notification's payload as one
`data: ` line for each of its `\n`-separated lines, then an empty line. A
client reads the body by the `text/event-stream` rules: a line ends at LF, CR
or CRLF; a `data` field's value, with one leading space removed, is appended
to the data buffer followed by LF; an empty line dispatches the buffer minus
its final LF, or nothing when the buffer is empty; a comment line is ignored.

A body made of payloads with no CR, with keep-alives anywhere, parses to those
payloads in order (`parseSSE_sseBody`). A payload with a CR does not survive:
the CR ends the `data:` line early, and what follows it becomes a line that is
not a `data` field, so `"a\rb"` reaches the client as `"a"`
(`cr_payload_truncated`).
-/

namespace RapidRows.Streams

/-! ## §1 What `loopSSE` writes -/

/-- `notifSSEKeepAliveComment`. -/
def keepAliveComment : List Char := [':', '\n', '\n']

/-- The `payload` case of `loopSSE`'s `select`: `fmt.Fprintf(resp, "data: %s\n",
line)` for each line of `strings.Split(payload, "\n")`, then `fmt.Fprintln(resp)`. -/
def eventBytes (payload : String) : List Char :=
  (payload.data.splitOn '\n').flatMap (fun line => "data: ".data ++ line ++ ['\n']) ++ ['\n']

/-- One write of the loop: a keep-alive at a tick, or a payload from the queue. -/
inductive SSEWrite
  | tick
  | payload (p : String)
deriving DecidableEq, Repr

/-- The characters of one write. -/
def SSEWrite.bytes : SSEWrite → List Char
  | .tick => keepAliveComment
  | .payload p => eventBytes p

/-- The payload a write carries. -/
def SSEWrite.payloadOf : SSEWrite → Option String
  | .tick => none
  | .payload p => some p

/-- The body `loopSSE` writes: the first keep-alive, then its writes in order. -/
def sseBody (ws : List SSEWrite) : List Char := keepAliveComment ++ ws.flatMap SSEWrite.bytes

/-! ## §2 The `text/event-stream` parser -/

/-- A line's field name and value: the name runs up to the first colon, and the
value follows it with one leading space removed; a line without a colon is a
name with the empty value. -/
def fieldOf (line : List Char) : List Char × List Char :=
  match line.span (· ≠ ':') with
  | (name, _ :: ' ' :: value) => (name, value)
  | (name, _ :: value) => (name, value)
  | (name, []) => (name, [])

/-- What one line does to the data buffer and the events dispatched. -/
def dispatchLine (data : List Char) (events : List String) : List Char → List Char × List String
  | [] => if data = [] then ([], events) else ([], events ++ [⟨data.dropLast⟩])
  | ':' :: _ => (data, events)
  | line => if (fieldOf line).1 = "data".data then (data ++ (fieldOf line).2 ++ ['\n'], events)
    else (data, events)

/-- What the parser keeps between characters. -/
structure SSEParser where
  /-- The current line, read so far. -/
  line : List Char
  /-- The data buffer. -/
  data : List Char
  /-- The last character was a CR, so an LF right after it ends no line. -/
  afterCR : Bool
  /-- The data of the events dispatched. -/
  events : List String
deriving DecidableEq, Repr

/-- The parser reads one character. -/
def SSEParser.feed (st : SSEParser) (c : Char) : SSEParser :=
  if c = '\n' ∧ st.afterCR = true then { st with afterCR := false }
  else if c = '\n' ∨ c = '\r' then
    ⟨[], (dispatchLine st.data st.events st.line).1, decide (c = '\r'),
      (dispatchLine st.data st.events st.line).2⟩
  else { st with line := st.line ++ [c], afterCR := false }

/-- The data of the events a client dispatches from a body. -/
def parseSSE (body : List Char) : List String :=
  (body.foldl SSEParser.feed ⟨[], [], false, []⟩).events

/-! ## §3 The pieces of a payload -/

/-- A piece of `splitOnP` is a sublist of the list split, free of separators. -/
theorem sublist_of_mem_splitOnP {α : Type} {p : α → Bool} {xs l : List α} (h : l ∈ xs.splitOnP p) :
    List.Sublist l xs ∧ ∀ x ∈ l, p x = false := by
  induction xs generalizing l with
  | nil =>
    rw [List.splitOnP_nil, List.mem_singleton] at h
    subst h
    exact ⟨List.nil_sublist _, fun _ => nofun⟩
  | cons x xs ih =>
    rw [List.splitOnP_cons] at h
    split_ifs at h with hx
    · rcases List.mem_cons.1 h with rfl | h
      · exact ⟨List.nil_sublist _, fun _ => nofun⟩
      · exact (ih h).imp_left (List.Sublist.cons x)
    · obtain ⟨h0, t, ht⟩ := List.exists_cons_of_ne_nil (List.splitOnP_ne_nil p xs)
      rw [ht, List.modifyHead_cons, List.mem_cons] at h
      rcases h with rfl | h
      · obtain ⟨hs, hp⟩ := ih (ht ▸ List.mem_cons_self h0 t)
        exact ⟨hs.cons₂ x, List.forall_mem_cons.2 ⟨by simpa using hx, hp⟩⟩
      · exact (ih (ht ▸ List.mem_cons_of_mem h0 h)).imp_left (List.Sublist.cons x)

/-- The lines of a payload with no CR hold neither CR nor LF. -/
theorem line_plain {payload : String} (hcr : '\r' ∉ payload.data) {line : List Char}
    (h : line ∈ payload.data.splitOn '\n') : ∀ c ∈ line, c ≠ '\n' ∧ c ≠ '\r' := by
  obtain ⟨hs, hp⟩ := sublist_of_mem_splitOnP h
  exact fun c hc => ⟨by simpa using hp c hc, fun e => hcr (e ▸ hs.subset hc)⟩

theorem flatMap_append_eq_intercalate {α : Type} (a : α) {ls : List (List α)} (h : ls ≠ []) :
    ls.flatMap (· ++ [a]) = [a].intercalate ls ++ [a] := by
  induction ls with
  | nil => exact absurd rfl h
  | cons l ls ih =>
    cases ls with
    | nil => simp [List.intercalate]
    | cons l' ls =>
      rw [List.flatMap_cons, ih (List.cons_ne_nil _ _)]
      simp [List.intercalate, List.intersperse_cons_cons]

/-! ## §4 The parser on what `loopSSE` writes -/

/-- The state between two writes: no partial line, an empty buffer, no CR pending. -/
def idle (events : List String) : SSEParser := ⟨[], [], false, events⟩

/-- Characters other than CR and LF extend the current line. -/
theorem foldl_feed_plain {l : List Char} (hl : ∀ c ∈ l, c ≠ '\n' ∧ c ≠ '\r') (line data : List Char)
    (events : List String) :
    l.foldl SSEParser.feed ⟨line, data, false, events⟩ = ⟨line ++ l, data, false, events⟩ := by
  induction l generalizing line with
  | nil => simp
  | cons c l ih =>
    obtain ⟨hc, hl⟩ := List.forall_mem_cons.1 hl
    rw [List.foldl_cons, SSEParser.feed, if_neg (fun h => hc.1 h.1), if_neg (fun h => h.elim hc.1 hc.2)]
    simpa using ih hl (line ++ [c])

/-- A line ended by LF goes through `dispatchLine`. -/
theorem foldl_feed_line {l : List Char} (hl : ∀ c ∈ l, c ≠ '\n' ∧ c ≠ '\r') (data : List Char)
    (events : List String) :
    (l ++ ['\n']).foldl SSEParser.feed ⟨[], data, false, events⟩ =
      ⟨[], (dispatchLine data events l).1, false, (dispatchLine data events l).2⟩ := by
  rw [List.foldl_append, foldl_feed_plain hl]
  simp [SSEParser.feed]

theorem dispatchLine_data (data line : List Char) (events : List String) :
    dispatchLine data events ("data: ".data ++ line) = (data ++ line ++ ['\n'], events) := by
  rfl

/-- The `data:` lines of an event fill the buffer with their lines, each followed by LF. -/
theorem foldl_feed_dataLines {ls : List (List Char)} (hls : ∀ l ∈ ls, ∀ c ∈ l, c ≠ '\n' ∧ c ≠ '\r')
    (data : List Char) (events : List String) :
    (ls.flatMap fun line => "data: ".data ++ line ++ ['\n']).foldl SSEParser.feed ⟨[], data, false, events⟩ =
      ⟨[], data ++ ls.flatMap (· ++ ['\n']), false, events⟩ := by
  induction ls generalizing data with
  | nil => simp
  | cons l ls ih =>
    obtain ⟨hl, hls⟩ := List.forall_mem_cons.1 hls
    have hfield : ∀ c ∈ "data: ".data, c ≠ '\n' ∧ c ≠ '\r' := by decide
    have hplain : ∀ c ∈ "data: ".data ++ l, c ≠ '\n' ∧ c ≠ '\r' := fun c hc =>
      (List.mem_append.1 hc).elim (hfield c) (hl c)
    rw [List.flatMap_cons, List.foldl_append, foldl_feed_line hplain, dispatchLine_data, ih hls]
    simp

/-- **An event with no CR dispatches its payload**, and leaves the parser idle. -/
theorem foldl_feed_eventBytes {payload : String} (hcr : '\r' ∉ payload.data) (events : List String) :
    (eventBytes payload).foldl SSEParser.feed (idle events) = idle (events ++ [payload]) := by
  have hne : payload.data.splitOn '\n' ≠ [] := List.splitOnP_ne_nil _ _
  rw [eventBytes, List.foldl_append, idle, foldl_feed_dataLines fun l hl => line_plain hcr hl]
  have hdata : ([] ++ (payload.data.splitOn '\n').flatMap (· ++ ['\n'])).dropLast = payload.data := by
    rw [List.nil_append, flatMap_append_eq_intercalate _ hne, List.dropLast_concat, List.intercalate_splitOn]
  obtain ⟨l, ls, hl⟩ := List.exists_cons_of_ne_nil hne
  simp only [List.foldl_cons, List.foldl_nil, SSEParser.feed, dispatchLine, hdata, idle]
  simp [hl]

/-- A keep-alive dispatches nothing. -/
theorem foldl_feed_keepAlive (events : List String) :
    keepAliveComment.foldl SSEParser.feed (idle events) = idle events := rfl

/-- **The parser on a body**: from an idle state, the writes dispatch their
payloads in order. -/
theorem foldl_feed_writes {ws : List SSEWrite} (hcr : ∀ p, .payload p ∈ ws → '\r' ∉ p.data)
    (events : List String) :
    (ws.flatMap SSEWrite.bytes).foldl SSEParser.feed (idle events) = idle (events ++ ws.filterMap SSEWrite.payloadOf) := by
  induction ws generalizing events with
  | nil => simp
  | cons w ws ih =>
    have hrest := ih fun p hp => hcr p (List.mem_cons_of_mem _ hp)
    rw [List.flatMap_cons, List.foldl_append]
    cases w with
    | tick => rw [SSEWrite.bytes, foldl_feed_keepAlive, hrest]; simp [SSEWrite.payloadOf]
    | payload p =>
      rw [SSEWrite.bytes, foldl_feed_eventBytes (hcr p (List.mem_cons_self _ _)), hrest]
      simp [SSEWrite.payloadOf]

/-- **A body of payloads without CR parses to those payloads.** Whatever the
keep-alives between them, each payload dispatches one event whose data is the
payload, and the keep-alives dispatch none. -/
theorem parseSSE_sseBody (ws : List SSEWrite) (hcr : ∀ p, .payload p ∈ ws → '\r' ∉ p.data) :
    parseSSE (sseBody ws) = ws.filterMap SSEWrite.payloadOf := by
  change ((ws.flatMap SSEWrite.bytes).foldl SSEParser.feed (keepAliveComment.foldl SSEParser.feed (idle []))).events = _
  rw [foldl_feed_keepAlive, foldl_feed_writes hcr]
  rfl

/-- Keep-alives around a two-line payload and an empty one. -/
def sampleWrites : List SSEWrite := [.tick, .payload "x\ny", .tick, .tick, .payload ""]

theorem sample_parseSSE_sseBody :
    (∀ p, .payload p ∈ sampleWrites → '\r' ∉ p.data) ∧
      parseSSE (sseBody sampleWrites) = ["x\ny", ""] :=
  have hcr : ∀ p, .payload p ∈ sampleWrites → '\r' ∉ p.data := by
    simp only [sampleWrites, List.mem_cons, List.not_mem_nil, or_false, SSEWrite.payload.injEq]
    rintro p (h | rfl | h | h | rfl) <;> first | cases h | decide
  ⟨hcr, (parseSSE_sseBody sampleWrites hcr).trans rfl⟩

/-- **A CR in a payload changes it.** `loopSSE` writes the payload `"a\rb"` as
the line `data: a\rb`; the CR ends that line after `a`, and `b` becomes a line
naming a field that is not `data`. A CRLF ends the line too, so `"a\r\nb"`
arrives as `"a\nb"`. -/
theorem cr_payload_truncated :
    parseSSE (sseBody [.payload "a\rb"]) = ["a"] ∧ parseSSE (sseBody [.payload "a\r\nb"]) = ["a\nb"] := by
  decide

end RapidRows.Streams
