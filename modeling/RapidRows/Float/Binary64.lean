import RapidRows.Value

/-!
# Binary64 arithmetic of the parameter checks

The float64 operations that the parameter checks use: IEEE 754 comparison,
`math.Abs`, `math.Modf`, the conversions between `float64` and `int64` (as
amd64 executes them), and round-to-nearest-even of an exact value, which
`strconv.ParseFloat` and `float64(i)` perform.

A finite double is an integer multiple of `2^-1074`: `mag` is its magnitude
in that unit, `sig * 2^uexp`, so every comparison is one of natural numbers.
-/

namespace RapidRows

namespace F64

/-! ## §1 Fields -/

/-- The bits as a number. -/
def word (x : F64) : Nat := x.bits.toNat

/-- The sign bit. -/
def sign (x : F64) : Bool := decide (2 ^ 63 ≤ x.word)

/-- The biased exponent field. -/
def bexp (x : F64) : Nat := x.word / 2 ^ 52 % 2 ^ 11

/-- The fraction field. -/
def frac (x : F64) : Nat := x.word % 2 ^ 52

/-- `math.IsNaN`. -/
def isNaN (x : F64) : Bool := x.bexp == 2047 && x.frac != 0

/-- `math.IsInf(x, 0)`. -/
def isInf (x : F64) : Bool := x.bexp == 2047 && x.frac == 0

/-- Neither infinite nor NaN. -/
def isFinite (x : F64) : Bool := x.bexp != 2047

/-- The significand, with the hidden bit of a normal number. -/
def sig (x : F64) : Nat := if x.bexp = 0 then x.frac else 2 ^ 52 + x.frac

/-- The exponent of the significand's unit, counted from `2^-1074`. -/
def uexp (x : F64) : Nat := x.bexp - 1

/-- The magnitude of a finite double, in units of `2^-1074`. Shifts stand for
powers of two throughout, which evaluate at any size. -/
def mag (x : F64) : Nat := x.sig <<< x.uexp

/-- The value of a finite double, in units of `2^-1074`; both zeros are `0`. -/
def scaled (x : F64) : Int := if x.sign then -(x.mag : Int) else x.mag

/-- The double with sign `s`, significand `m` and unit exponent `p`: a
subnormal when `m < 2^52`. -/
def make (s : Bool) (m p : Nat) : F64 :=
  ⟨((if s then 2 ^ 63 else 0) + if m < 2 ^ 52 then m else (p + 1) * 2 ^ 52 + (m - 2 ^ 52)).toUInt64⟩

/-- `math.Inf(1)` or `math.Inf(-1)`. -/
def inf (s : Bool) : F64 := ⟨((if s then 2 ^ 63 else 0) + 2047 * 2 ^ 52).toUInt64⟩

/-- `math.NaN()`. -/
def nan : F64 := ⟨0x7FF8000000000001⟩

/-- `math.Abs`: the sign bit cleared. -/
def abs (x : F64) : F64 := ⟨(x.word % 2 ^ 63).toUInt64⟩

/-! ## §2 Comparison -/

/-- `x < y`: false when either is NaN. -/
def lt (x y : F64) : Bool :=
  !x.isNaN && !y.isNaN &&
    if x.isInf then x.sign && !(y.isInf && y.sign)
    else if y.isInf then !y.sign
    else decide (x.scaled < y.scaled)

/-- `x == y`: false when either is NaN, and `-0 == 0`. -/
def beq (x y : F64) : Bool :=
  !x.isNaN && !y.isNaN &&
    if x.isInf || y.isInf then x.bits == y.bits else x.scaled == y.scaled

/-- `x <= y`. -/
def le (x y : F64) : Bool := x.lt y || x.beq y

/-! ## §3 Rounding -/

/-- `a / d` rounded to the nearest integer, ties to even. -/
def rne (a d : Nat) : Nat :=
  if 2 * (a % d) < d then a / d
  else if d < 2 * (a % d) then a / d + 1
  else if a / d % 2 = 0 then a / d else a / d + 1

/-- Binary search for the largest `p < lo + 2^k` with `D * 2^(p+52) ≤ A`,
from a `lo` that is `0` or has it. -/
def ulpSearch (A D : Nat) : Nat → Nat → Nat
  | 0, lo => lo
  | k + 1, lo => if D <<< (lo + 2 ^ k + 52) ≤ A then ulpSearch A D k (lo + 2 ^ k) else ulpSearch A D k lo

/-- The unit exponent of the binade of `A / D`, up to `4095`: the largest `p`
with `p = 0` or `D * 2^(p+52) ≤ A`. Any value at `2045` or above overflows. -/
def ulpExp (A D : Nat) : Nat := ulpSearch A D 12 0

/-- The double nearest the magnitude `a / d`, ties to even: its significand
and unit exponent, or `none` past the largest finite double. -/
def roundMag (a d : Nat) : Option (Nat × Nat) :=
  let A := a <<< 1074
  let p := ulpExp A d
  let m := rne A (d <<< p)
  if m = 2 ^ 53 then (if p + 1 ≤ 2045 then some (2 ^ 52, p + 1) else none)
  else if p ≤ 2045 then some (m, p) else none

/-- The double nearest `±a / d`, ties to even, and whether it overflowed to an
infinity. -/
def round (s : Bool) (a d : Nat) : F64 × Bool :=
  match roundMag a d with
  | some (m, p) => (make s m p, false)
  | none => (inf s, true)

/-! ## §4 Conversions -/

/-- `math.Modf`: the integer part and the fractional part, each with the sign
of `x`; `(±Inf, NaN)` for an infinity and `(NaN, NaN)` for a NaN. -/
def modf (x : F64) : F64 × F64 :=
  if x.isNaN then (nan, nan)
  else if x.isInf then (x, nan)
  else ((round x.sign (x.mag >>> 1074 <<< 1074) (1 <<< 1074)).1,
    (round x.sign (x.mag % (1 <<< 1074)) (1 <<< 1074)).1)

/-- `math.MinInt64`. -/
def minInt64 : I64 := ⟨-2 ^ 63, Int.le_refl _, by decide⟩

/-- The integer part of a finite double, truncated toward zero. -/
def truncInt (x : F64) : Int := if x.sign then -((x.mag >>> 1074 : Nat) : Int) else (x.mag >>> 1074 : Nat)

/-- `int64(x)` on amd64 (`CVTTSD2SQ`): truncate toward zero; a NaN, an
infinity or a value out of range gives `math.MinInt64`. -/
def toInt64 (x : F64) : I64 :=
  if h : x.isFinite ∧ -2 ^ 63 ≤ x.truncInt ∧ x.truncInt < 2 ^ 63 then ⟨x.truncInt, h.2.1, h.2.2⟩ else minInt64

/-- `float64(i)`. -/
def ofInt64 (i : I64) : F64 := (round (decide (i.val < 0)) i.val.natAbs 1).1

/-- `float64(u)` for a `uint64`. -/
def ofUInt64 (n : UInt64) : F64 := (round false n.toNat 1).1

end F64

/-- The constant `1e-9`. -/
def oneNano : F64 := (F64.round false 1 (10 ^ 9)).1

/-- `float2int` (`server_test.go`): the integer part, when the fractional part
is below `1e-9` in magnitude. -/
def float2int (f : F64) : Option I64 :=
  let (i, frac) := f.modf
  if frac.abs.lt oneNano then some i.toInt64 else none

end RapidRows
