import RapidRows.Float.Rounding

/-!
# Integers through `ParseFloat`

`checkIntegerAny` reads an integer parameter with `ParseFloat` and
`float2int`. A string that `ParseInt` accepts, of magnitude at most `2^53`,
comes through unchanged: `ParseFloat` reads it as its own value, which is a
double, and `float2int` returns it (`float2int_parseFloat_of_parseInt`).
Above `2^53` the double nearest the value is not the value in general, and
the integer that comes back is that double's.
-/

namespace RapidRows

/-! ## §1 Digits -/

theorem isDecDigit_iff {c : Char} : isDecDigit c = true ↔ 48 ≤ c.toNat ∧ c.toNat ≤ 57 := by
  simp only [isDecDigit, Bool.and_eq_true, decide_eq_true_eq, Char.le_def]
  rfl

theorem toLower_of_isDecDigit {c : Char} (h : isDecDigit c = true) : c.toLower = c := by
  have := isDecDigit_iff.1 h
  simp only [Char.toLower, Char.isUpper, Bool.and_eq_true, decide_eq_true_eq, Char.le_def]
  split_ifs with hu
  · exact absurd hu.1 (by simp only [Char.toNat]; omega)
  · rfl

theorem ne_of_isDecDigit {c d : Char} (h : isDecDigit c = true) (hd : d.toNat < 48 ∨ 57 < d.toNat) : c ≠ d := by
  rintro rfl
  have := isDecDigit_iff.1 h
  omega

/-- The digit loop of `decDigits` reads only digits. -/
theorem decDigits_go_digits {ds : List Char} {n k : Nat} (h : decDigits.go ds n = some k) :
    ∀ c ∈ ds, isDecDigit c = true := by
  induction ds generalizing n with
  | nil => simp
  | cons c cs ih =>
    unfold decDigits.go at h
    split_ifs at h with hc
    exact List.forall_mem_cons.2 ⟨hc, ih h⟩

theorem digitVal_of_isDecDigit {c : Char} (h : isDecDigit c = true) : digitVal 10 c = some (c.toNat - '0'.toNat) := by
  simp [digitVal, h]

/-- **`readFloat`'s mantissa loop reads a string of digits as `decDigits` does**:
to its end, with no point and no underscore. Leading zeros count for
nothing, since the value read so far is zero while no digit has counted. -/
theorem mantLoop_digits {ds : List Char} (hd : ∀ c ∈ ds, isDecDigit c = true) (m : Mant)
    (h0 : m.nd = 0 → m.digits = 0) :
    (mantLoop 10 m ds).2 = [] ∧ (mantLoop 10 m ds).1.sawdot = m.sawdot ∧
      (mantLoop 10 m ds).1.underscores = m.underscores ∧
      decDigits.go ds m.digits = some (mantLoop 10 m ds).1.digits ∧
      (ds ≠ [] → (mantLoop 10 m ds).1.sawdigits = true) := by
  induction ds generalizing m with
  | nil => exact ⟨rfl, rfl, rfl, rfl, fun h => absurd rfl h⟩
  | cons c cs ih =>
    obtain ⟨hc, hcs⟩ := List.forall_mem_cons.1 hd
    have hu : c ≠ '_' := ne_of_isDecDigit hc (by decide)
    have hp : c ≠ '.' := ne_of_isDecDigit hc (by decide)
    unfold mantLoop
    rw [if_neg hu, if_neg hp, digitVal_of_isDecDigit hc]
    dsimp only
    split_ifs with hz
    · obtain ⟨h1, h2, h3, h4, h5⟩ := ih hcs { m with sawdigits := true, dp := m.dp - 1 } h0
      have hz0 : m.digits * 10 + (c.toNat - '0'.toNat) = m.digits := by rw [h0 hz.2, hz.1]; rfl
      refine ⟨h1, h2, h3, by rw [decDigits.go, if_pos hc, hz0]; exact h4, fun _ => ?_⟩
      cases cs with
      | nil => rfl
      | cons _ _ => exact h5 (List.cons_ne_nil _ _)
    · obtain ⟨h1, h2, h3, h4, h5⟩ := ih hcs
        { m with sawdigits := true, nd := m.nd + 1, digits := m.digits * 10 + (c.toNat - '0'.toNat) }
        (fun h => absurd h (Nat.succ_ne_zero _))
      refine ⟨h1, h2, h3, by rw [decDigits.go, if_pos hc]; exact h4, fun _ => ?_⟩
      cases cs with
      | nil => rfl
      | cons _ _ => exact h5 (List.cons_ne_nil _ _)

/-! ## §2 An integer string -/

theorem hexPrefix_digits {ds : List Char} (hd : ∀ c ∈ ds, isDecDigit c = true) : hexPrefix ds = (false, ds) := by
  unfold hexPrefix
  split
  · rename_i x r _
    have hx := hd x (by simp)
    rw [if_neg (by rw [toLower_of_isDecDigit hx]; exact ne_of_isDecDigit hx (by decide))]
  · rfl

theorem eqIgnoreCase_digit {c d : Char} {cs : List Char} {p : String} (hc : isDecDigit c = true)
    (hp : p.data.head? = some d) (hd : d.toNat < 48 ∨ 57 < d.toNat) : eqIgnoreCase (c :: cs) p = false := by
  cases hq : p.data with
  | nil => simp [hq] at hp
  | cons d' ps =>
    simp only [hq, List.head?_cons, Option.some.injEq] at hp
    subst hp
    simp [eqIgnoreCase, hq, toLower_of_isDecDigit hc, ne_of_isDecDigit hc hd]

/-- A string of digits after an optional sign is not a spelling of an infinity or NaN. -/
theorem special_of_signPrefix {l : List Char} {neg : Bool} {c : Char} {cs : List Char}
    (h : signPrefix l = (neg, c :: cs)) (hc : isDecDigit c = true) : special l = none := by
  have hi : eqIgnoreCase (c :: cs) "inf" = false := eqIgnoreCase_digit hc rfl (by decide)
  have hy : eqIgnoreCase (c :: cs) "infinity" = false := eqIgnoreCase_digit hc rfl (by decide)
  have hn : eqIgnoreCase (c :: cs) "nan" = false := eqIgnoreCase_digit hc rfl (by decide)
  unfold signPrefix at h
  split at h <;> obtain ⟨-, rfl⟩ := Prod.mk.inj h
  · simp [special, hi, hy]
  · simp [special, hi, hy]
  · unfold special
    split
    · rename_i heq
      exact absurd (List.cons.inj heq).1 (ne_of_isDecDigit hc (by decide))
    · rename_i heq
      exact absurd (List.cons.inj heq).1 (ne_of_isDecDigit hc (by decide))
    · simp [hi, hy, hn]

/-- **`readFloat` of an integer string** reads its digits with exponent zero. -/
theorem readFloat_of_signPrefix {l ds : List Char} {neg : Bool} {N : Nat} (hs : signPrefix l = (neg, ds))
    (hN : decDigits ds = some N) : readFloat l = some ⟨neg, false, N, 0⟩ := by
  obtain ⟨c, cs, rfl⟩ : ∃ c cs, ds = c :: cs := by
    cases ds with
    | nil => cases hN
    | cons c cs => exact ⟨c, cs, rfl⟩
  have hd := decDigits_go_digits hN
  obtain ⟨h1, h2, h3, h4, h5⟩ := mantLoop_digits hd ⟨0, 0, 0, false, false, false⟩ fun _ => rfl
  unfold readFloat
  rw [hs]
  dsimp only
  rw [hexPrefix_digits hd]
  dsimp only
  simp only [Bool.false_eq_true, ite_false]
  rcases hm : mantLoop 10 ⟨0, 0, 0, false, false, false⟩ (c :: cs) with ⟨m, s3⟩
  rw [hm] at h1 h2 h3 h4 h5
  dsimp only at h1 h2 h3 h4 h5 ⊢
  subst h1
  have hN' : m.digits = N := Option.some.inj (h4.symm.trans hN)
  simp [h2, h3, h5 (List.cons_ne_nil _ _), hN']

/-! ## §3 `float2int(ParseFloat(s))` -/

/-- **What `parseInt` accepts**: an optional sign and a string of digits, read
as the integer they spell. -/
theorem parseInt_eq {s : String} {n : I64} (h : parseInt s = some n) :
    ∃ neg ds N, signPrefix s.data = (neg, ds) ∧ decDigits ds = some N ∧ n.val = if neg then -(N : Int) else N := by
  unfold parseInt at h
  rcases hsp : signPrefix s.data with ⟨neg, ds⟩
  rcases hN : decDigits ds with _ | N
  · simp [hsp, hN] at h
  refine ⟨neg, ds, N, rfl, hN, ?_⟩
  simp only [hsp, hN] at h
  split_ifs at h <;> obtain rfl := Option.some.inj h <;> simp_all

/-- **An integer of magnitude at most `2^53` comes through `ParseFloat` and
`float2int` unchanged.** -/
theorem float2int_parseFloat_of_parseInt {s : String} {n : I64} (h : parseInt s = some n)
    (hn : n.val.natAbs ≤ 2 ^ 53) : ∃ d, parseFloat s = some d ∧ float2int d = some n := by
  obtain ⟨neg, ds, N, hsp, hN, hval⟩ := parseInt_eq h
  have hN53 : N ≤ 2 ^ 53 := by
    rw [hval] at hn
    split_ifs at hn <;> simpa using hn
  obtain ⟨c, cs, rfl⟩ : ∃ c cs, ds = c :: cs := by
    cases ds with
    | nil => cases hN
    | cons c cs => exact ⟨c, cs, rfl⟩
  obtain ⟨m, p, hnorm, hmp⟩ := F64.normalized_of_int hN53
  have hround : F64.round neg N 1 = (F64.make neg m p, false) :=
    F64.round_of_roundMag (F64.roundMag_exact hnorm Nat.one_pos (by rw [hmp, Nat.mul_one]))
  have hpf : parseFloat s = some (F64.make neg m p) := by
    unfold parseFloat
    rw [special_of_signPrefix hsp (decDigits_go_digits hN c (List.mem_cons_self _ _)),
      readFloat_of_signPrefix hsp hN]
    simp [ReadFloat.value, hround]
  have hmag : (F64.make neg m p).mag = N <<< 1074 := (F64.mag_make hnorm).trans hmp
  have hfin := F64.isFinite_make (s := neg) hnorm
  have htrunc : (F64.make neg m p).truncInt = n.val := by
    rw [F64.truncInt, F64.sign_make hnorm, hmag, Nat.shiftLeft_shiftRight, hval]
  refine ⟨_, hpf, ?_⟩
  rw [F64.float2int_of_integral hfin (by rw [hmag, Nat.shiftLeft_eq, Nat.shiftLeft_eq 1, Nat.one_mul,
    Nat.mul_mod_left])]
  exact congrArg some (I64.ext (by rw [F64.toInt64_val hfin (htrunc ▸ n.ge_min) (htrunc ▸ n.lt_max), htrunc]))

end RapidRows
