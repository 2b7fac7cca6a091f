import Mathlib.Data.List.Basic
import Mathlib.Algebra.Group.Int

/-!
# Go values and their bytes

The dynamic values that flow through `getParams`, `makeCacheKey` and the
config's `Enum` lists: a Go value of static type `any`, by its dynamic type.
A Go `string` is a Lean `String`, and `[]byte(s)` its UTF-8 bytes; an `int64`
is an integer in its range; a `float64` is kept as its IEEE 754 bits, which is
what `binary.Write` writes and what `==` on two values is decided from.

A JSON array decodes to `[]any`. Its elements are kept as `Scalar`s: a nested
array or object is `composite`, since no check accepts one.
-/

namespace RapidRows

/-- A Go byte slice. -/
abbrev Bytes := List UInt8

/-- `[]byte(s)`. -/
def strBytes (s : String) : Bytes := s.data.flatMap String.utf8EncodeChar

@[simp] theorem strBytes_empty : strBytes "" = [] := rfl

/-! ## §1 Big-endian words -/

/-- The `n` low bytes of `x`, most significant first. -/
def beBytes : Nat → Nat → Bytes
  | 0, _ => []
  | n + 1, x => beBytes n (x / 256) ++ [(x % 256).toUInt8]

/-- Bytes read as a big-endian number. -/
def beNat (b : Bytes) : Nat := b.foldl (fun acc (d : UInt8) => acc * 256 + d.toNat) 0

/-- `binary.BigEndian.PutUint64`. -/
def be64 (x : UInt64) : Bytes := beBytes 8 x.toNat

/-- `binary.BigEndian.Uint64(b[0:8])`. -/
def beUint64 (b : Bytes) : UInt64 := (beNat (b.take 8)).toUInt64

theorem toNat_toUInt8 (n : Nat) : n.toUInt8.toNat = n % 256 := by
  simp [Nat.toUInt8, UInt8.toNat, UInt8.ofNat, BitVec.toNat_ofNat]

@[simp] theorem length_beBytes (n x : Nat) : (beBytes n x).length = n := by
  induction n generalizing x <;> simp [beBytes, *]

@[simp] theorem length_be64 (x : UInt64) : (be64 x).length = 8 := length_beBytes 8 _

theorem beNat_beBytes (n x : Nat) : beNat (beBytes n x) = x % 256 ^ n := by
  induction n generalizing x with
  | zero => simp [beBytes, beNat, Nat.mod_one]
  | succ n ih =>
    have := ih (x / 256)
    simp only [beNat, beBytes, List.foldl_append, List.foldl_cons, List.foldl_nil] at this ⊢
    rw [this, toNat_toUInt8, Nat.pow_succ', Nat.mod_mul, Nat.mod_mod]
    omega

/-- Reading back the eight bytes `PutUint64` wrote gives the word. -/
theorem beUint64_be64_append (x : UInt64) (rest : Bytes) : beUint64 (be64 x ++ rest) = x := by
  have hx := x.toNat_lt_size
  rw [beUint64, List.take_left' (length_be64 x), be64, beNat_beBytes]
  apply UInt64.toNat.inj
  simp only [Nat.toUInt64, UInt64.toNat, UInt64.ofNat, BitVec.toNat_ofNat]
  simp only [UInt64.size, UInt64.toNat] at hx
  omega

/-! ## §2 Values -/

/-- A Go `int64`. -/
structure I64 where
  val : Int
  ge_min : -2 ^ 63 ≤ val
  lt_max : val < 2 ^ 63
deriving DecidableEq

theorem I64.ext {a b : I64} (h : a.val = b.val) : a = b := by
  cases a; cases b; cases h; rfl

/-- The two's-complement word of an `int64`. -/
def I64.bits (i : I64) : Nat := (i.val % 2 ^ 64).toNat

/-- `int64(u)` for a `uint64`: the same word, read as two's complement. -/
def I64.ofUInt64 (n : UInt64) : I64 :=
  if h : n.toNat < 2 ^ 63 then ⟨n.toNat, by omega, by omega⟩
  else ⟨n.toNat - 2 ^ 64, by omega, by have := n.toNat_lt_size; simp only [UInt64.size] at this; omega⟩

/-- `int64(z)` of an integer: its low 64 bits, as two's complement. -/
def I64.ofInt (z : Int) : I64 := ⟨(z + 2 ^ 63) % 2 ^ 64 - 2 ^ 63, by omega, by omega⟩

/-- `a * b` for `int64`: the product's low 64 bits. -/
def I64.mul (a b : I64) : I64 := I64.ofInt (a.val * b.val)

theorem I64.ofInt_val {z : Int} (h1 : -2 ^ 63 ≤ z) (h2 : z < 2 ^ 63) : (I64.ofInt z).val = z := by
  simp only [I64.ofInt]
  omega

/-- A Go `float64`, by its IEEE 754 bits. -/
structure F64 where
  bits : UInt64
deriving DecidableEq, Repr

/-- An element of a decoded JSON array. -/
inductive Scalar
  | null
  | bool (b : Bool)
  | number (x : F64)
  | string (s : String)
  /-- A nested array or object. -/
  | composite
deriving DecidableEq

/-- A Go value of static type `any`, by its dynamic type. -/
inductive Value
  | nil
  | bool (b : Bool)
  | int64 (i : I64)
  | uint64 (n : UInt64)
  | float64 (x : F64)
  | string (s : String)
  | strings (ss : List String)
  | int64s (is : List I64)
  | float64s (xs : List F64)
  | bools (bs : List Bool)
  /-- A decoded JSON array. -/
  | anys (vs : List Scalar)
  /-- Any other dynamic type, such as a decoded JSON object. -/
  | other
deriving DecidableEq

/-- The dynamic value of an element of a `[]any`. -/
def Scalar.toValue : Scalar → Value
  | .null => .nil
  | .bool b => .bool b
  | .number x => .float64 x
  | .string s => .string s
  | .composite => .other

/-! ## §3 `binary.Write` -/

/-- The bytes `binary.Write(w, binary.BigEndian, a)` writes for the fixed-size
types and their slices; `none` where it returns an error. -/
def binaryWrite : Value → Option Bytes
  | .bool b => some [if b then 1 else 0]
  | .int64 i => some (beBytes 8 i.bits)
  | .uint64 n => some (be64 n)
  | .float64 x => some (be64 x.bits)
  | .int64s is => some (is.flatMap fun i => beBytes 8 i.bits)
  | .float64s xs => some (xs.flatMap fun x => be64 x.bits)
  | .bools bs => some (bs.map fun b => if b then 1 else 0)
  | _ => none

end RapidRows
