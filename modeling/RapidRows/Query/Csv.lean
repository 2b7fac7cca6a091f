import RapidRows.Value

/-!
# The CSV body of a `query-csv` endpoint

`qr2csv` (`server.go`) writes the rows of a query result with `csv.Writer`:
each value formatted by `%v` into a buffer `strrow` as wide as the first row,
and each buffer written as a record. `Write` puts a field between quotes, its
quotes doubled, when it holds a quote, a comma, a CR or an LF, when it is
`\.`, and when it starts with a space; fields are separated by `,`, and a
record ends with `\n`.

The body is for a client that reads it as CSV: a reader of RFC 4180 records
with LF line ends (`readCsv`) gets every row back, whenever the rows have one
width and it is not zero (`readCsv_qr2csv`), which is what a query returns.

Go's own `encoding/csv` reader departs from that grammar on two bodies that
`qr2csv` writes. It skips an empty line, which is how a row of one empty field
is written, so that row is lost; and it reads a CR before an LF inside a quoted
field as an LF alone. `readCsv` is the RFC 4180 reader, not Go's.
-/

namespace RapidRows.Query

/-! ## §1 `csv.Writer` -/

/-- `unicode.IsSpace` of the first rune of a field, on its UTF-8 bytes: the
Latin-1 spaces and the other code points of `White_Space`. -/
def startsWithSpace : Bytes → Bool
  | 9 :: _ | 10 :: _ | 11 :: _ | 12 :: _ | 13 :: _ | 32 :: _ => true
  | 0xC2 :: 0x85 :: _ | 0xC2 :: 0xA0 :: _ => true
  | 0xE1 :: 0x9A :: 0x80 :: _ => true
  | 0xE2 :: 0x80 :: c :: _ => 0x80 ≤ c && c ≤ 0x8A || c = 0xA8 || c = 0xA9 || c = 0xAF
  | 0xE2 :: 0x81 :: 0x9F :: _ => true
  | 0xE3 :: 0x80 :: 0x80 :: _ => true
  | _ => false

/-- A byte that `fieldNeedsQuotes` looks for with `Comma` `,`. -/
def isSpecial (c : UInt8) : Bool := c = 10 || c = 13 || c = 34 || c = 44

/-- `Writer.fieldNeedsQuotes`, with `Comma` `,`. -/
def fieldNeedsQuotes (f : Bytes) : Bool :=
  if f = [] then false
  else if f = [92, 46] then true
  else if f.any isSpecial then true
  else startsWithSpace f

/-- The bytes of a field between quotes: each quote doubled, CR and LF as
they are (`UseCRLF` is false). -/
def quoteBytes (f : Bytes) : Bytes := f.flatMap fun c => if c = 34 then [34, 34] else [c]

/-- What `Write` writes for one field. -/
def writeField (f : Bytes) : Bytes :=
  if fieldNeedsQuotes f then 34 :: quoteBytes f ++ [34] else f

/-- `Writer.Write(record)`: the fields with `,` between them, then `\n`. -/
def writeRecord (record : List Bytes) : Bytes := [44].intercalate (record.map writeField) ++ [10]

/-- The loop of `qr2csv`: `strrow[i]` takes the `i`-th value of each row, and
the buffer is written; `none` where a row is wider than the buffer, for which
`strrow[i]` panics. -/
def qr2csvLoop (strrow : List Bytes) : List (List Bytes) → Option Bytes
  | [] => some []
  | row :: rest =>
    if row.length ≤ strrow.length then
      (writeRecord (row ++ strrow.drop row.length) ++ ·) <$>
        qr2csvLoop (row ++ strrow.drop row.length) rest
    else none

/-- `qr2csv`, with each value of a row given by its `%v` text: nothing for no
rows, and otherwise the loop over a buffer of `len(qr.Rows[0])` empty
strings. -/
def qr2csv (rows : List (List Bytes)) : Option Bytes :=
  match rows with
  | [] => some []
  | first :: _ => qr2csvLoop (List.replicate first.length []) rows

/-! ## §2 Reading CSV -/

/-- Where a reader is in a record. -/
inductive Phase
  /-- At the start of a field. -/
  | start
  /-- In a field without quotes. -/
  | plain
  /-- Between quotes. -/
  | quoted
  /-- Just after a quote, between quotes. -/
  | quote
deriving DecidableEq

/-- A reader: its phase, the field, the fields of the record, and the records
read. -/
structure Reader where
  phase : Phase
  field : Bytes
  record : List Bytes
  records : List (List Bytes)
deriving DecidableEq

/-- The field ends at a `,`. -/
def Reader.endField (s : Reader) : Reader := ⟨.start, [], s.record ++ [s.field], s.records⟩

/-- The record ends at an `\n`. -/
def Reader.endRecord (s : Reader) : Reader := ⟨.start, [], [], s.records ++ [s.record ++ [s.field]]⟩

/-- One byte of RFC 4180 with LF line ends: a field is plain, without quote,
comma, CR or LF, or between quotes, where a quote is doubled; `none` for
anything else. -/
def Reader.step (s : Reader) (b : UInt8) : Option Reader :=
  match s.phase with
  | .start =>
    if b = 34 then some { s with phase := .quoted }
    else if b = 44 then some s.endField
    else if b = 10 then some s.endRecord
    else if b = 13 then none
    else some { s with phase := .plain, field := [b] }
  | .plain =>
    if b = 44 then some s.endField
    else if b = 10 then some s.endRecord
    else if b = 34 || b = 13 then none
    else some { s with field := s.field ++ [b] }
  | .quoted =>
    if b = 34 then some { s with phase := .quote } else some { s with field := s.field ++ [b] }
  | .quote =>
    if b = 34 then some { s with phase := .quoted, field := s.field ++ [34] }
    else if b = 44 then some s.endField
    else if b = 10 then some s.endRecord
    else none

/-- The end of the input: a last record need not end with `\n`; an open quote
is an error. -/
def Reader.finish (s : Reader) : Option (List (List Bytes)) :=
  match s.phase with
  | .start => some (if s.record = [] then s.records else s.records ++ [s.record ++ [[]]])
  | .plain | .quote => some (s.records ++ [s.record ++ [s.field]])
  | .quoted => none

/-- The records a CSV text holds. -/
def readCsv (bs : Bytes) : Option (List (List Bytes)) :=
  (bs.foldlM Reader.step ⟨.start, [], [], []⟩).bind Reader.finish

/-! ## §3 Reading back what `qr2csv` wrote -/

section Read

variable (s : Reader)

theorem foldlM_step_append (a b : Bytes) :
    (a ++ b).foldlM Reader.step s = (a.foldlM Reader.step s).bind fun s' => b.foldlM Reader.step s' :=
  List.foldlM_append _ _ _ _

/-- A phase in which `,` and `\n` end the field. -/
def Closing (p : Phase) : Prop := p ≠ .quoted

theorem step_comma {p : Phase} (h : Closing p) (f : Bytes) (rec : List Bytes)
    (recs : List (List Bytes)) : Reader.step ⟨p, f, rec, recs⟩ 44 = some ⟨.start, [], rec ++ [f], recs⟩ := by
  cases p <;> first | exact absurd rfl h | rfl

theorem step_newline {p : Phase} (h : Closing p) (f : Bytes) (rec : List Bytes)
    (recs : List (List Bytes)) :
    Reader.step ⟨p, f, rec, recs⟩ 10 = some ⟨.start, [], [], recs ++ [rec ++ [f]]⟩ := by
  cases p <;> first | exact absurd rfl h | rfl

/-- **A quoted field**: its doubled quotes and other bytes, and the closing
quote. -/
theorem read_quoteBytes (f : Bytes) :
    ∀ acc rec recs, (quoteBytes f ++ [34]).foldlM Reader.step ⟨.quoted, acc, rec, recs⟩ =
      some ⟨.quote, acc ++ f, rec, recs⟩ := by
  induction f with
  | nil => intros; simp [quoteBytes, Reader.step]
  | cons c f ih =>
    intro acc rec recs
    by_cases hc : c = 34
    · -- a doubled quote
      subst hc
      have := ih (acc ++ [34]) rec recs
      simp only [quoteBytes, List.flatMap_cons, if_pos rfl, List.append_assoc] at this ⊢
      simpa [Reader.step] using this
    · -- any other byte
      have := ih (acc ++ [c]) rec recs
      simp only [quoteBytes, List.flatMap_cons, if_neg hc, List.append_assoc] at this ⊢
      simpa [Reader.step, hc] using this

/-- **A plain field**: bytes `fieldNeedsQuotes` does not look for. -/
theorem read_plain (f : Bytes) (hf : ∀ c ∈ f, isSpecial c = false) :
    ∀ acc rec recs, f.foldlM Reader.step ⟨.plain, acc, rec, recs⟩ = some ⟨.plain, acc ++ f, rec, recs⟩ := by
  induction f with
  | nil => intros; simp
  | cons c f ih =>
    intro acc rec recs
    have hc := hf c (List.mem_cons_self c f)
    simp only [isSpecial, Bool.or_eq_false_iff, decide_eq_false_iff_not] at hc
    have := ih (fun c' h => hf c' (List.mem_cons_of_mem c h)) (acc ++ [c]) rec recs
    simpa [Reader.step, hc] using this

/-- **One field as `Write` wrote it**, read from the start of a field: the
reader holds the field, in a phase that a separator closes. -/
theorem read_writeField (f : Bytes) (rec : List Bytes) (recs : List (List Bytes)) :
    ∃ p, Closing p ∧ (writeField f).foldlM Reader.step ⟨.start, [], rec, recs⟩ = some ⟨p, f, rec, recs⟩ := by
  unfold writeField
  split_ifs with hq
  · refine ⟨.quote, by simp [Closing], ?_⟩
    simpa [Reader.step] using read_quoteBytes f [] rec recs
  · rcases f with _ | ⟨c, f⟩
    · exact ⟨.start, by simp [Closing], rfl⟩
    · have hany : (c :: f).any isSpecial = false := by
        cases h : (c :: f).any isSpecial
        · rfl
        · simp [fieldNeedsQuotes, h] at hq
      have hs : ∀ c' ∈ c :: f, isSpecial c' = false := by simpa using hany
      have hc := hs c (List.mem_cons_self c f)
      simp only [isSpecial, Bool.or_eq_false_iff, decide_eq_false_iff_not] at hc
      refine ⟨.plain, by simp [Closing], ?_⟩
      simpa [Reader.step, hc] using read_plain f (fun c' h => hs c' (List.mem_cons_of_mem c h)) [c] rec recs

theorem intercalate_single (sep a : Bytes) : sep.intercalate [a] = a := by
  simp [List.intercalate]

theorem intercalate_cons_cons (sep a b : Bytes) (l : List Bytes) :
    sep.intercalate (a :: b :: l) = a ++ sep ++ sep.intercalate (b :: l) := by
  simp [List.intercalate, List.intersperse_cons₂]

/-- **One record**, read from the start of a record: the reader has one
record more. -/
theorem read_fields (r : List Bytes) (hr : r ≠ []) :
    ∀ cur recs, ([44].intercalate (r.map writeField) ++ [10]).foldlM Reader.step ⟨.start, [], cur, recs⟩ =
      some ⟨.start, [], [], recs ++ [cur ++ r]⟩ := by
  induction r with
  | nil => exact absurd rfl hr
  | cons f r ih =>
    intro cur recs
    obtain ⟨p, hp, hf⟩ := read_writeField f cur recs
    rcases r with _ | ⟨g, r⟩
    · -- the last field
      rw [List.map_singleton, intercalate_single, foldlM_step_append, hf, Option.some_bind]
      simp [step_newline hp]
    · -- a field and a comma
      rw [List.map_cons, List.map_cons, intercalate_cons_cons, List.append_assoc, List.append_assoc,
        foldlM_step_append, hf, Option.some_bind, List.singleton_append, List.foldlM_cons,
        step_comma hp, ← List.map_cons]
      simpa using ih (List.cons_ne_nil g r) (cur ++ [f]) recs

theorem read_records (rows : List (List Bytes)) (hrows : ∀ row ∈ rows, row ≠ []) (recs) :
    (rows.flatMap writeRecord).foldlM Reader.step ⟨.start, [], [], recs⟩ = some ⟨.start, [], [], recs ++ rows⟩ := by
  induction rows generalizing recs with
  | nil => simp
  | cons row rows ih =>
    rw [List.flatMap_cons, foldlM_step_append, writeRecord,
      read_fields row (hrows row (List.mem_cons_self _ _)), Option.some_bind,
      ih (fun r h => hrows r (List.mem_cons_of_mem _ h))]
    simp

theorem qr2csvLoop_rect {w : Nat} (rows : List (List Bytes)) (hrows : ∀ row ∈ rows, row.length = w) :
    ∀ strrow : List Bytes, strrow.length = w → qr2csvLoop strrow rows = some (rows.flatMap writeRecord) := by
  induction rows with
  | nil => intros; rfl
  | cons row rows ih =>
    intro strrow hs
    have hrow := hrows row (List.mem_cons_self _ _)
    have hbuf : row ++ strrow.drop row.length = row := by simp [hrow, hs]
    rw [qr2csvLoop, if_pos (by omega), hbuf, ih (fun r h => hrows r (List.mem_cons_of_mem _ h)) row hrow]
    rfl

/-- **A client reads back the rows `qr2csv` wrote**, whenever they have one
width and it is not zero. -/
theorem readCsv_qr2csv (rows : List (List Bytes)) (w : Nat) (hw : 0 < w)
    (hrows : ∀ row ∈ rows, row.length = w) : ∃ out, qr2csv rows = some out ∧ readCsv out = some rows := by
  refine ⟨rows.flatMap writeRecord, ?_, ?_⟩
  · rcases rows with _ | ⟨first, rest⟩
    · rfl
    · exact qr2csvLoop_rect _ hrows _ (by simp [hrows first (List.mem_cons_self _ _)])
  · have hne : ∀ row ∈ rows, row ≠ [] := fun row h e => by
      have := hrows row h
      simp [e] at this
      omega
    rw [readCsv, read_records rows hne []]
    rfl

/-- Two rows: a comma in a field, and a field that starts with a space and
holds quotes. -/
def sampleRows : List (List Bytes) :=
  [[strBytes "1", strBytes "a,b"], [strBytes "2", strBytes " say \"hi\""]]

example : qr2csv sampleRows = some (strBytes "1,\"a,b\"\n2,\" say \"\"hi\"\"\"\n") := by
  decide

theorem sample_readCsv_qr2csv :
    0 < 2 ∧ (∀ row ∈ sampleRows, row.length = 2) ∧
      ∃ out, qr2csv sampleRows = some out ∧ readCsv out = some sampleRows :=
  ⟨by decide, by decide, readCsv_qr2csv sampleRows 2 (by decide) (by decide)⟩

end Read

end RapidRows.Query
