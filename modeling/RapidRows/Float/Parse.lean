import RapidRows.Float.Binary64

/-!
# `strconv.ParseFloat` and `strconv.ParseInt`

`ParseFloat(s, 64)` as `strconv/atof.go` reads its input: the special
spellings of infinity and NaN, then `readFloat`'s decimal or hexadecimal
mantissa, with underscores, one point and an exponent whose digits stop
counting at `10000`; the whole string must be read. The result is the exact
value rounded to the nearest double, ties to even, as the package documents;
a value past the largest double is `ErrRange`. The callers only test for an
error, so an error is `none`.

`ParseInt(s, 10, 64)`: an optional sign and decimal digits, in range.
-/

namespace RapidRows

/-! ## §1 Characters -/

/-- `'0' <= c && c <= '9'`. -/
def isDecDigit (c : Char) : Bool := '0' ≤ c && c ≤ '9'

/-- The value of a digit in base 10 or 16: `0-9`, and `a-f` in either case for
base 16. -/
def digitVal (base : Nat) (c : Char) : Option Nat :=
  if isDecDigit c then some (c.toNat - '0'.toNat)
  else if base = 16 && 'a' ≤ c.toLower && c.toLower ≤ 'f' then some (c.toLower.toNat - 'a'.toNat + 10)
  else none

/-- An optional sign: whether it is `-`, and the rest. -/
def signPrefix : List Char → Bool × List Char
  | '+' :: r => (false, r)
  | '-' :: r => (true, r)
  | r => (false, r)

/-- An optional `0x` before at least one more character: whether it is there,
and the rest. -/
def hexPrefix : List Char → Bool × List Char
  | s@('0' :: x :: r@(_ :: _)) => if x.toLower = 'x' then (true, r) else (false, s)
  | s => (false, s)

/-- `commonPrefixLenIgnoreCase(s, p) == len(p)` for the whole of `s`. -/
def eqIgnoreCase (s : List Char) (p : String) : Bool := s.map Char.toLower == p.data

/-! ## §2 `special` -/

/-- `special`, for a whole string: `inf` or `infinity` in any case after an
optional sign, or `nan` in any case. -/
def special (s : List Char) : Option F64 :=
  match s with
  | '+' :: rest => if eqIgnoreCase rest "inf" || eqIgnoreCase rest "infinity" then some (F64.inf false) else none
  | '-' :: rest => if eqIgnoreCase rest "inf" || eqIgnoreCase rest "infinity" then some (F64.inf true) else none
  | _ =>
    if eqIgnoreCase s "inf" || eqIgnoreCase s "infinity" then some (F64.inf false)
    else if eqIgnoreCase s "nan" then some F64.nan
    else none

/-! ## §3 `readFloat` -/

/-- What `readFloat`'s mantissa loop has seen: the significant digits' value
and count, the point's position, and the flags. -/
structure Mant where
  digits : Nat
  nd : Nat
  dp : Int
  sawdot : Bool
  sawdigits : Bool
  underscores : Bool

/-- The mantissa loop: it stops at the first character it does not take. -/
def mantLoop (base : Nat) : Mant → List Char → Mant × List Char
  | m, [] => (m, [])
  | m, c :: rest =>
    if c = '_' then mantLoop base { m with underscores := true } rest
    else if c = '.' then
      if m.sawdot then (m, c :: rest) else mantLoop base { m with sawdot := true, dp := m.nd } rest
    else
      match digitVal base c with
      | some d =>
        if c = '0' ∧ m.nd = 0 then mantLoop base { m with sawdigits := true, dp := m.dp - 1 } rest
        else mantLoop base { m with sawdigits := true, nd := m.nd + 1, digits := m.digits * base + d } rest
      | none => (m, c :: rest)

/-- The exponent's digits: the value stops growing once it reaches `10000`. -/
def expLoop : Nat → Bool → List Char → Nat × Bool × List Char
  | e, u, [] => (e, u, [])
  | e, u, c :: rest =>
    if c = '_' then expLoop e true rest
    else if isDecDigit c then expLoop (if e < 10000 then e * 10 + (c.toNat - '0'.toNat) else e) u rest
    else (e, u, c :: rest)

/-- `underscoreOK`: underscores only between digits, or after a base prefix. -/
def underscoreOK (s : List Char) : Bool :=
  let s := match s with
    | c :: rest => if c = '-' ∨ c = '+' then rest else s
    | [] => []
  match s with
  | '0' :: b :: rest =>
    if b.toLower = 'b' ∨ b.toLower = 'o' ∨ b.toLower = 'x' then go '0' (b.toLower = 'x') rest
    else go '^' false s
  | _ => go '^' false s
where
  /-- `saw` is the class of the last character. -/
  go : Char → Bool → List Char → Bool
    | saw, _, [] => saw != '_'
    | saw, hex, c :: rest =>
      if isDecDigit c || hex && 'a' ≤ c.toLower && c.toLower ≤ 'f' then go '0' hex rest
      else if c = '_' then saw == '0' && go '_' hex rest
      else saw != '_' && go '!' hex rest

/-- A number `readFloat` accepts as the whole string: its sign, its base,
and its value as `digits * base^exp` (`2^exp` for hexadecimal). -/
structure ReadFloat where
  neg : Bool
  hex : Bool
  digits : Nat
  exp : Int

/-- `readFloat`, when it reads the whole string. -/
def readFloat (s : List Char) : Option ReadFloat :=
  let (neg, s1) := signPrefix s
  let (hex, s2) := hexPrefix s1
  let base := if hex then 16 else 10
  let (m, s3) := mantLoop base ⟨0, 0, 0, false, false, false⟩ s2
  let dp : Int := if m.sawdot then m.dp else m.nd
  let expOf (e : Int) : Int := if hex then 4 * (dp - m.nd) + e else dp - m.nd + e
  let result (e : Int) (u : Bool) : Option ReadFloat :=
    if u && !underscoreOK s then none else some ⟨neg, hex, m.digits, expOf e⟩
  if !m.sawdigits then none
  else
    match s3 with
    | c :: r =>
      if c.toLower = (if hex then 'p' else 'e') then
        let (esign, r) : Int × List Char := match r with
          | '+' :: r => (1, r)
          | '-' :: r => (-1, r)
          | r => (1, r)
        match r with
        | d :: _ =>
          if isDecDigit d then
            match expLoop 0 m.underscores r with
            | (e, u, []) => result (esign * e) u
            | _ => none
          else none
        | [] => none
      else none
    | [] => if hex then none else result 0 m.underscores

/-- The double nearest `digits * base^exp`, and whether it overflowed. -/
def ReadFloat.value (r : ReadFloat) : F64 × Bool :=
  if r.hex then
    if 0 ≤ r.exp then F64.round r.neg (r.digits <<< r.exp.toNat) 1
    else F64.round r.neg r.digits (1 <<< (-r.exp).toNat)
  else
    if 0 ≤ r.exp then F64.round r.neg (r.digits * 10 ^ r.exp.toNat) 1
    else F64.round r.neg r.digits (10 ^ (-r.exp).toNat)

/-! ## §4 The parsers -/

/-- `strconv.ParseFloat(s, 64)` when its error is nil. -/
def parseFloat (s : String) : Option F64 :=
  match special s.data with
  | some f => some f
  | none =>
    match readFloat s.data with
    | some r => if r.value.2 then none else some r.value.1
    | none => none

/-- The value of a non-empty string of decimal digits. -/
def decDigits : List Char → Option Nat
  | [] => none
  | c :: cs => go (c :: cs) 0
where
  /-- Accumulate the digits. -/
  go : List Char → Nat → Option Nat
    | [], n => some n
    | c :: cs, n => if isDecDigit c then go cs (n * 10 + (c.toNat - '0'.toNat)) else none

/-- `strconv.ParseInt(s, 10, 64)` when its error is nil. -/
def parseInt (s : String) : Option I64 :=
  let (neg, ds) := signPrefix s.data
  match decDigits ds with
  | none => none
  | some n =>
    if neg then
      if h : n ≤ 2 ^ 63 then some ⟨-n, by omega, by omega⟩ else none
    else
      if h : n < 2 ^ 63 then some ⟨n, by omega, by omega⟩ else none

end RapidRows
