import RapidRows.Streams.Contract

/-!
# The channel a stream listens on

`Stream.validate` accepts a channel that matches `rxPgChan`, and
`notifDispatcher.start` sends the unquoted statement `"LISTEN " + pgchan`.
PostgreSQL folds an unquoted identifier: `downcase_truncate_identifier`
lower-cases its ASCII letters and, in a UTF-8 database, clips it to the
longest run of whole characters of at most `NAMEDATALEN - 1` bytes. The
connection listens on the folded name, and a notification carries that name
in `notif.Channel`; `serveStream` registers under `s.Channel` unfolded.

A channel with an upper-case ASCII letter, or of more than 63 bytes, is not
its folded name: a stream on `Foo` listens on `foo` and its subscribers are
offered nothing (`upper_case_channel_missed`).
`SET ROLE` folds the role name the same way.
-/

namespace RapidRows.Streams

/-! ## §1 `rxPgChan` -/

/-- `[A-Za-z\200-\377_]`, on runes. -/
def isChanStart (c : Char) : Bool := c.isAlpha || (128 ≤ c.toNat && c.toNat ≤ 255) || c = '_'

/-- `[A-Za-z\200-\377_0-9\$]`. -/
def isChanCont (c : Char) : Bool := isChanStart c || c.isDigit || c = '$'

/-- `rxPgChan.MatchString`, which `rxRole` repeats. -/
def rxPgChan (s : String) : Bool :=
  match s.data with
  | [] => false
  | c :: cs => isChanStart c && cs.all isChanCont

/-! ## §2 Identifier folding -/

/-- `NAMEDATALEN`. -/
def namedatalen : Nat := 64

/-- The longest prefix of whole characters of at most `n` UTF-8 bytes. -/
def clipChars (n : Nat) : List Char → List Char
  | [] => []
  | c :: cs => if c.utf8Size ≤ n then c :: clipChars (n - c.utf8Size) cs else []

/-- `downcase_truncate_identifier` in a UTF-8 database. -/
def pgIdentifier (s : String) : String :=
  ⟨clipChars (namedatalen - 1) (s.data.map Char.toLower)⟩

/-! ## §3 A channel with an upper-case letter -/

/-- A subscriber of the stream channel `Foo`; a notification on the channel the
connection listens on is fetched and fanned out. -/
def upperCaseTrace : List Act :=
  [.request .sse "Foo", .register 0, .dispCmd, .pgNotify ⟨pgIdentifier "Foo", "x"⟩, .fetcherPush,
    .dispNotif]

/-- `Foo` is a valid channel, PostgreSQL listens on another name, and the
registered subscriber of `Foo` is offered nothing. -/
theorem upper_case_channel_missed :
    rxPgChan "Foo" = true ∧ pgIdentifier "Foo" ≠ "Foo" ∧
      ∃ s, Reachable s ∧ s.inCh.buf = [] ∧ (s.handlers 0).phase = .looping ∧
        (s.handlers 0).channel = "Foo" ∧ (s.handlers 0).log.offered = [] := by
  refine ⟨by decide, by decide, ?_⟩
  obtain ⟨s, hr, hp⟩ := @reachable_of_run upperCaseTrace
    (fun s => s.inCh.buf.isEmpty && (s.handlers 0).phase == .looping
      && (s.handlers 0).channel == "Foo" && (s.handlers 0).log.offered.isEmpty) (by decide)
  simp only [Bool.and_eq_true, List.isEmpty_iff, beq_iff_eq] at hp
  exact ⟨s, hr, hp.1.1.1, hp.1.1.2, hp.1.2, hp.2⟩

end RapidRows.Streams
