import RapidRows.Float.Parse
import Mathlib.Tactic.Ring
import Mathlib.Tactic.Positivity
import Mathlib.Tactic.NormNum

/-!
# What rounding gives back

Facts about `F64.round` that the parameter checks rely on. The binary search
of `ulpExp` finds the binade of the value (`ulpExp_lower`, `ulpExp_upper`), so
`roundMag` returns a significand and exponent that `make` encodes faithfully
(`roundMag_normalized`): a double that does not overflow is finite
(`round_finite`), and `ParseFloat` returns only finite doubles for what is not
spelled as an infinity or NaN (`parseFloat_finite`). A value that is already a
double comes back unchanged (`roundMag_exact`), and so `math.Modf`'s integer
part is exact and `float2int` returns the integer part of its argument
(`float2int_eq`).
-/

namespace RapidRows

namespace F64

/-! ## §1 Decoding `make` -/

theorem toNat_toUInt64 (n : Nat) : n.toUInt64.toNat = n % 2 ^ 64 := by
  simp [Nat.toUInt64, UInt64.toNat, UInt64.ofNat, BitVec.toNat_ofNat]

/-- A significand and unit exponent that `make` encodes faithfully: a normal
significand with an exponent below the infinities', or a subnormal one. -/
def Normalized (m p : Nat) : Prop := (2 ^ 52 ≤ m ∧ m < 2 ^ 53 ∨ m < 2 ^ 52 ∧ p = 0) ∧ p ≤ 2045

section Make

variable {s : Bool} {m p : Nat}

theorem word_make (h : Normalized m p) :
    (make s m p).word = (if s then 2 ^ 63 else 0) + if m < 2 ^ 52 then m else (p + 1) * 2 ^ 52 + (m - 2 ^ 52) := by
  simp only [word, make, toNat_toUInt64]
  apply Nat.mod_eq_of_lt
  obtain ⟨hm | hm, hp⟩ := h <;> split_ifs <;> omega

/-- Below the sign bit, the word of `make` holds the biased exponent and the fraction. -/
theorem word_mod_make (h : Normalized m p) :
    (make s m p).word % 2 ^ 63 = if m < 2 ^ 52 then m else (p + 1) * 2 ^ 52 + (m - 2 ^ 52) := by
  have hb : (if m < 2 ^ 52 then m else (p + 1) * 2 ^ 52 + (m - 2 ^ 52)) < 2 ^ 63 := by
    obtain ⟨hm | hm, hp⟩ := h <;> split_ifs <;> omega
  rw [word_make h]
  cases s
  · rw [if_neg Bool.false_ne_true, Nat.zero_add, Nat.mod_eq_of_lt hb]
  · rw [if_pos rfl, Nat.add_mod_left, Nat.mod_eq_of_lt hb]

@[simp] theorem sign_make (h : Normalized m p) : (make s m p).sign = s := by
  rw [sign, word_make h]
  obtain ⟨hm | hm, hp⟩ := h <;> cases s <;>
    simp only [ite_true, Bool.false_eq_true, ite_false, decide_eq_true_eq, decide_eq_false_iff_not, not_le] <;>
    split_ifs <;> omega

@[simp] theorem bexp_make (h : Normalized m p) : (make s m p).bexp = if m < 2 ^ 52 then 0 else p + 1 := by
  rw [bexp, ← Nat.mod_mul_right_div_self, show 2 ^ 52 * 2 ^ 11 = 2 ^ 63 by norm_num, word_mod_make h]
  obtain ⟨hm | hm, hp⟩ := h <;> split_ifs <;> omega

@[simp] theorem frac_make (h : Normalized m p) : (make s m p).frac = m % 2 ^ 52 := by
  rw [frac, ← Nat.mod_mod_of_dvd _ (show 2 ^ 52 ∣ 2 ^ 63 by norm_num), word_mod_make h]
  obtain ⟨hm | hm, hp⟩ := h <;> split_ifs <;> omega

theorem isFinite_make (h : Normalized m p) : (make s m p).isFinite = true := by
  have := h.2
  rw [isFinite, bexp_make h, bne_iff_ne]
  split_ifs <;> omega

theorem mag_make (h : Normalized m p) : (make s m p).mag = m <<< p := by
  rw [mag, sig, uexp, bexp_make h, frac_make h]
  obtain ⟨hm | hm, hp⟩ := h
  · rw [if_neg (show ¬m < 2 ^ 52 by omega), if_neg (by omega), Nat.add_sub_cancel,
      show 2 ^ 52 + m % 2 ^ 52 = m by omega]
  · rw [if_pos hm.1, if_pos rfl, Nat.mod_eq_of_lt hm.1, hm.2]

end Make

/-! ## §2 The binade -/

/-- The search keeps an upper end above the value, or at the top. -/
theorem ulpSearch_upper (A D k lo : Nat) (h : A < D * 2 ^ (lo + 2 ^ k + 52) ∨ 4096 ≤ lo + 2 ^ k) :
    A < D * 2 ^ (ulpSearch A D k lo + 53) ∨ 4095 ≤ ulpSearch A D k lo := by
  induction k generalizing lo with
  | zero =>
    rw [Nat.pow_zero, show lo + 1 + 52 = lo + 53 by omega] at h
    exact h.imp_right fun h => by simp only [ulpSearch]; omega
  | succ k ih =>
    have hk : lo + 2 ^ (k + 1) = lo + 2 ^ k + 2 ^ k := by rw [Nat.pow_succ]; omega
    simp only [ulpSearch, Nat.shiftLeft_eq]
    split_ifs with ht
    · exact ih _ (by rwa [← hk])
    · exact ih lo (.inl (by omega))

/-- The search keeps a lower end at or below the value, or at zero. -/
theorem ulpSearch_lower (A D k lo : Nat) (h : lo = 0 ∨ D * 2 ^ (lo + 52) ≤ A) :
    ulpSearch A D k lo = 0 ∨ D * 2 ^ (ulpSearch A D k lo + 52) ≤ A := by
  induction k generalizing lo with
  | zero => exact h
  | succ k ih =>
    simp only [ulpSearch, Nat.shiftLeft_eq]
    split_ifs with ht
    · exact ih _ (.inr ht)
    · exact ih lo h

theorem ulpExp_lower (A D : Nat) : ulpExp A D = 0 ∨ D * 2 ^ (ulpExp A D + 52) ≤ A :=
  ulpSearch_lower A D 12 0 (.inl rfl)

theorem ulpExp_upper (A D : Nat) : A < D * 2 ^ (ulpExp A D + 53) ∨ 4095 ≤ ulpExp A D :=
  ulpSearch_upper A D 12 0 (.inr (by norm_num))

/-- A value exactly `m * 2^p` units, with `m` normalized, has unit exponent `p`. -/
theorem ulpExp_eq {m p d : Nat} (h : Normalized m p) (hd : 0 < d) : ulpExp (m * 2 ^ p * d) d = p := by
  have mono {i j : Nat} (hij : i ≤ j) : d * 2 ^ i ≤ d * 2 ^ j :=
    Nat.mul_le_mul_left d (Nat.pow_le_pow_right (by norm_num) hij)
  have split (i : Nat) : d * 2 ^ (p + i) = 2 ^ i * (d * 2 ^ p) := by ring
  have hpos : 0 < d * 2 ^ p := by positivity
  have hmd : m * 2 ^ p * d = m * (d * 2 ^ p) := by ring
  have hup : m * 2 ^ p * d < d * 2 ^ (p + 53) := by
    rw [split, hmd]
    exact Nat.mul_lt_mul_of_pos_right (h.1.elim (·.2) fun h => h.1.trans (by norm_num)) hpos
  have hlo : p = 0 ∨ d * 2 ^ (p + 52) ≤ m * 2 ^ p * d := by
    rcases h.1 with hm | hm
    · exact .inr (by rw [split, hmd]; exact Nat.mul_le_mul_right _ hm.1)
    · exact .inl hm.2
  set r := ulpExp (m * 2 ^ p * d) d
  have hr1 := ulpExp_lower (m * 2 ^ p * d) d
  have hr2 := ulpExp_upper (m * 2 ^ p * d) d
  have hp := h.2
  rcases Nat.lt_trichotomy r p with hlt | heq | hgt
  · rcases hlo with h0 | hlo
    · omega
    rcases hr2 with hr2 | hr2
    · exact absurd (lt_of_lt_of_le hr2 (mono (by omega))) (not_lt.2 hlo)
    · omega
  · exact heq
  · rcases hr1 with h0 | hr1
    · omega
    · exact absurd (lt_of_lt_of_le hup (mono (by omega))) (not_lt.2 hr1)

/-! ## §3 Round to nearest, ties to even -/

theorem le_rne (a d : Nat) : a / d ≤ rne a d := by
  unfold rne; split_ifs <;> omega

theorem rne_le (a d : Nat) : rne a d ≤ a / d + 1 := by
  unfold rne; split_ifs <;> omega

theorem rne_of_dvd {a d : Nat} (h : d ∣ a) : rne a d = a / d := by
  rcases Nat.eq_zero_or_pos d with rfl | hd
  · simp [rne, Nat.eq_zero_of_zero_dvd h]
  · simp [rne, Nat.mod_eq_zero_of_dvd h, hd]

/-! ## §4 `roundMag` -/

/-- At the exponent the search finds, the rounded significand lies in the
binade, or the exponent is zero. -/
theorem rne_binade {A d : Nat} (hr : ulpExp A d ≤ 2045) :
    (ulpExp A d = 0 ∨ 2 ^ 52 ≤ rne A (d <<< ulpExp A d)) ∧ rne A (d <<< ulpExp A d) ≤ 2 ^ 53 := by
  have hlo := ulpExp_lower A d
  have hup := ulpExp_upper A d
  generalize ulpExp A d = r at hr hlo hup ⊢
  have hm1 := le_rne A (d <<< r)
  have hm2 := rne_le A (d <<< r)
  rw [Nat.shiftLeft_eq] at hm1 hm2 ⊢
  have e (k : Nat) : d * 2 ^ (r + k) = 2 ^ k * (d * 2 ^ r) := by rw [Nat.pow_add]; ring
  have hup : A < 2 ^ 53 * (d * 2 ^ r) := by
    rcases hup with h | h
    · rwa [e] at h
    · omega
  have hd : 0 < d * 2 ^ r := Nat.pos_of_ne_zero fun h0 => by rw [h0] at hup; omega
  have hq : A / (d * 2 ^ r) < 2 ^ 53 := (Nat.div_lt_iff_lt_mul hd).2 hup
  refine ⟨hlo.imp_right fun h => ?_, by omega⟩
  have : 2 ^ 52 ≤ A / (d * 2 ^ r) := (Nat.le_div_iff_mul_le hd).2 (by rwa [e] at h)
  omega

/-- **What `roundMag` returns is normalized**: the significand lies in its
binade, or is subnormal. -/
theorem roundMag_normalized {a d m p : Nat} (h : roundMag a d = some (m, p)) : Normalized m p := by
  unfold roundMag at h
  generalize a <<< 1074 = A at h
  dsimp only at h
  split_ifs at h with heq hp hp <;> obtain ⟨rfl, rfl⟩ := Prod.mk.inj (Option.some.inj h)
  · exact ⟨.inl ⟨le_refl _, by norm_num⟩, hp⟩
  · obtain ⟨hlo, hhi⟩ := rne_binade hp
    refine ⟨?_, hp⟩
    by_cases hs : rne A (d <<< ulpExp A d) < 2 ^ 52
    · exact .inr ⟨hs, hlo.resolve_right (by omega)⟩
    · exact .inl ⟨by omega, by omega⟩

/-- **A value that is already a double rounds to itself.** -/
theorem roundMag_exact {a d m p : Nat} (h : Normalized m p) (hd : 0 < d) (ha : a <<< 1074 = (m <<< p) * d) :
    roundMag a d = some (m, p) := by
  have hr : ulpExp (a <<< 1074) d = p := by rw [ha, Nat.shiftLeft_eq]; exact ulpExp_eq h hd
  have hm : rne (a <<< 1074) (d <<< p) = m := by
    rw [ha, Nat.shiftLeft_eq, Nat.shiftLeft_eq, rne_of_dvd ⟨m, by ring⟩,
      show m * 2 ^ p * d = m * (d * 2 ^ p) by ring, Nat.mul_div_cancel _ (by positivity)]
  have hlt : m < 2 ^ 53 := h.1.elim (·.2) fun h => by omega
  unfold roundMag
  dsimp only
  rw [hr, hm, if_neg (Nat.ne_of_lt hlt), if_pos h.2]

/-! ## §5 `round` -/

theorem round_of_roundMag {s : Bool} {a d m p : Nat} (h : roundMag a d = some (m, p)) :
    round s a d = (make s m p, false) := by
  unfold round
  rw [h]

/-- **A rounding that does not overflow is finite.** -/
theorem round_finite {s : Bool} {a d : Nat} (h : (round s a d).2 = false) : (round s a d).1.isFinite = true := by
  rcases hmp : roundMag a d with _ | ⟨m, p⟩
  · unfold round at h; rw [hmp] at h; cases h
  · rw [round_of_roundMag hmp]
    exact isFinite_make (roundMag_normalized hmp)

/-! ## §6 The integer part -/

theorem isNaN_of_isFinite {x : F64} (hx : x.isFinite = true) : x.isNaN = false := by
  simp_all [isFinite, isNaN]

theorem isInf_of_isFinite {x : F64} (hx : x.isFinite = true) : x.isInf = false := by
  simp_all [isFinite, isInf]

/-- A double that is neither NaN nor an infinity is finite. -/
theorem isFinite_of_not_isNaN {x : F64} (hn : x.isNaN = false) (hi : x.isInf = false) : x.isFinite = true := by
  simp only [isNaN, isInf, Bool.and_eq_false_iff, bne_eq_false_iff_eq, beq_eq_false_iff_ne] at hn hi
  simp only [isFinite, bne_iff_ne, ne_eq]
  omega

theorem sig_lt (x : F64) : x.sig < 2 ^ 53 := by
  unfold sig frac; split_ifs <;> omega

/-- An integer up to `2^53`, in units of `2^-1074`, is a double. -/
theorem normalized_of_int {N : Nat} (hN : N ≤ 2 ^ 53) : ∃ m p, Normalized m p ∧ m <<< p = N <<< 1074 := by
  rcases Nat.eq_zero_or_pos N with rfl | hpos
  · exact ⟨0, 0, ⟨.inr ⟨by norm_num, rfl⟩, by norm_num⟩, by simp⟩
  rcases Nat.lt_or_eq_of_le hN with hN | rfl
  swap
  · refine ⟨2 ^ 52, 1075, ⟨.inl ⟨le_refl _, by norm_num⟩, by norm_num⟩, ?_⟩
    rw [Nat.shiftLeft_eq, Nat.shiftLeft_eq, ← Nat.pow_add, ← Nat.pow_add]
  set k := N.log2
  have h1 : 2 ^ k ≤ N := Nat.log2_self_le hpos.ne'
  have h2 : N < 2 ^ (k + 1) := Nat.lt_log2_self
  have hk : k ≤ 52 := by
    by_contra hk
    have : 2 ^ 53 ≤ 2 ^ k := Nat.pow_le_pow_right (by norm_num) (by omega)
    omega
  refine ⟨N * 2 ^ (52 - k), 1022 + k, ⟨.inl ⟨?_, ?_⟩, by omega⟩, ?_⟩
  · calc 2 ^ 52 = 2 ^ k * 2 ^ (52 - k) := by rw [← Nat.pow_add, Nat.add_sub_cancel' hk]
      _ ≤ N * 2 ^ (52 - k) := Nat.mul_le_mul_right _ h1
  · calc N * 2 ^ (52 - k) < 2 ^ (k + 1) * 2 ^ (52 - k) := Nat.mul_lt_mul_of_pos_right h2 (by positivity)
      _ = 2 ^ 53 := by rw [← Nat.pow_add]; congr 1; omega
  · rw [Nat.shiftLeft_eq, Nat.shiftLeft_eq, Nat.mul_assoc, ← Nat.pow_add]
    congr 2
    omega

/-- **The integer part of a finite double is a double.** -/
theorem normalized_intPart {x : F64} (hx : x.isFinite = true) :
    ∃ m p, Normalized m p ∧ m <<< p = x.mag >>> 1074 <<< 1074 := by
  have hb : x.bexp ≤ 2046 := by
    have : x.bexp < 2048 := Nat.mod_lt _ (by norm_num)
    simp only [isFinite, bne_iff_ne, ne_eq] at hx
    omega
  by_cases hu : 1074 ≤ x.uexp ∧ x.bexp ≠ 0
  · refine ⟨x.sig, x.uexp, ⟨.inl ⟨?_, sig_lt x⟩, by unfold uexp; omega⟩, ?_⟩
    · unfold sig; rw [if_neg hu.2]; omega
    · rw [Nat.shiftRight_eq_div_pow, Nat.shiftLeft_eq (x.mag / 2 ^ 1074), Nat.div_mul_cancel]
      · rfl
      · rw [mag, Nat.shiftLeft_eq]
        exact Dvd.dvd.mul_left (Nat.pow_dvd_pow 2 hu.1) _
  · apply normalized_of_int
    apply Nat.le_of_lt
    rw [Nat.shiftRight_eq_div_pow]
    apply (Nat.div_lt_iff_lt_mul (Nat.two_pow_pos _)).2
    rw [mag, Nat.shiftLeft_eq, ← Nat.pow_add]
    have hu' : x.uexp ≤ 1073 := by unfold uexp at hu ⊢; omega
    calc x.sig * 2 ^ x.uexp < 2 ^ 53 * 2 ^ 1073 :=
          Nat.mul_lt_mul_of_lt_of_le (sig_lt x) (Nat.pow_le_pow_right (by norm_num) hu') (Nat.two_pow_pos _)
      _ ≤ 2 ^ (53 + 1074) := by rw [← Nat.pow_add]; exact Nat.pow_le_pow_right (by norm_num) (by norm_num)

/-- `math.Modf`'s integer part of a finite double: the same sign and the
magnitude cut to whole units. -/
theorem modf_fst {x : F64} (hx : x.isFinite = true) :
    ∃ m p, Normalized m p ∧ m <<< p = x.mag >>> 1074 <<< 1074 ∧ x.modf.1 = make x.sign m p := by
  obtain ⟨m, p, hn, hmp⟩ := normalized_intPart hx
  refine ⟨m, p, hn, hmp, ?_⟩
  have hr : roundMag (x.mag >>> 1074 <<< 1074) (1 <<< 1074) = some (m, p) := by
    apply roundMag_exact hn (by rw [Nat.shiftLeft_eq, Nat.one_mul]; exact Nat.two_pow_pos _)
    rw [hmp, Nat.shiftLeft_eq _ 1074, Nat.shiftLeft_eq 1, Nat.one_mul]
  unfold modf
  rw [if_neg (by simp [isNaN_of_isFinite hx]), if_neg (by simp [isInf_of_isFinite hx]),
    round_of_roundMag hr]

/-- `int64(x)` is the integer part of `x` when that is in range. -/
theorem toInt64_val {x : F64} (hx : x.isFinite = true) (h1 : -2 ^ 63 ≤ x.truncInt) (h2 : x.truncInt < 2 ^ 63) :
    x.toInt64.val = x.truncInt := by
  simp only [toInt64, dif_pos (And.intro hx (And.intro h1 h2))]

/-- `int64(i)` of the integer part is `int64(x)`. -/
theorem toInt64_modf {x : F64} (hx : x.isFinite = true) : x.modf.1.toInt64 = x.toInt64 := by
  obtain ⟨m, p, hn, hmp, he⟩ := modf_fst hx
  have ht : (make x.sign m p).truncInt = x.truncInt := by
    simp only [truncInt, sign_make hn, mag_make hn, hmp, Nat.shiftLeft_shiftRight]
  simp only [toInt64, he, ht, isFinite_make hn, hx]

/-- `math.Modf` of an infinity or NaN has a NaN fractional part. -/
theorem modf_snd_of_not_isFinite {x : F64} (hx : x.isFinite = false) : x.modf.2 = nan := by
  unfold modf
  by_cases hn : x.isNaN = true
  · rw [if_pos hn]
  · rw [if_neg hn, if_pos (by simp_all [isFinite, isNaN, isInf])]

/-- **What `float2int` accepts**: a finite double whose fractional part is
below `1e-9` in magnitude, returned as `int64(f)`. -/
theorem float2int_eq {f : F64} {i : I64} (h : float2int f = some i) :
    f.isFinite = true ∧ f.modf.2.abs.lt oneNano = true ∧ i = f.toInt64 := by
  unfold float2int at h
  rcases hm : f.modf with ⟨ip, fp⟩
  rw [hm] at h
  dsimp only at h
  split_ifs at h with hl
  obtain rfl := Option.some.inj h
  have hf : f.isFinite = true := by
    by_contra hf
    have hfp : fp = nan := by rw [← modf_snd_of_not_isFinite (by simpa using hf), hm]
    subst hfp
    exact absurd hl (by decide)
  exact ⟨hf, hl, by rw [← toInt64_modf hf, hm]⟩

theorem round_zero (s : Bool) {d : Nat} (hd : 0 < d) : round s 0 d = (make s 0 0, false) :=
  round_of_roundMag (roundMag_exact ⟨.inr ⟨by norm_num, rfl⟩, by norm_num⟩ hd (by simp))

/-- **`float2int` of a whole double** is `int64` of it. -/
theorem float2int_of_integral {x : F64} (hx : x.isFinite = true) (hi : x.mag % (1 <<< 1074) = 0) :
    float2int x = some x.toInt64 := by
  have hpos : 0 < 1 <<< 1074 := by rw [Nat.shiftLeft_eq, Nat.one_mul]; exact Nat.two_pow_pos _
  have hz : (make x.sign 0 0).abs = ⟨0⟩ := by cases x.sign <;> decide
  have hlt : (⟨0⟩ : F64).lt oneNano = true := by decide
  have hm : x.modf.2 = make x.sign 0 0 := by
    unfold modf
    rw [if_neg (by simp [isNaN_of_isFinite hx]), if_neg (by simp [isInf_of_isFinite hx]), hi, round_zero _ hpos]
  unfold float2int
  rcases h : x.modf with ⟨ip, fp⟩
  rw [h] at hm
  dsimp only at hm ⊢
  rw [hm, hz, if_pos hlt, ← toInt64_modf hx, h]

/-! ## §7 `ParseFloat` -/

theorem ReadFloat.value_finite {r : ReadFloat} (h : r.value.2 = false) : r.value.1.isFinite = true := by
  unfold ReadFloat.value at h ⊢
  split_ifs at h ⊢ <;> exact round_finite h

/-- **`ParseFloat` of what is not spelled as an infinity or NaN is finite.** -/
theorem parseFloat_finite {s : String} {x : F64} (h : parseFloat s = some x) (hs : special s.data = none) :
    x.isFinite = true := by
  unfold parseFloat at h
  rw [hs] at h
  dsimp only at h
  split at h
  · split_ifs at h with hv
    obtain rfl := Option.some.inj h
    exact ReadFloat.value_finite (by simpa using hv)
  · cases h

/-! ## §8 Comparison -/

theorem bits_eq_of_isInf {x y : F64} (hx : x.isInf = true) (hy : y.isInf = true) (hs : x.sign = y.sign) :
    x.bits = y.bits := by
  apply UInt64.toNat.inj
  have h1 := x.bits.toNat_lt_size
  have h2 := y.bits.toNat_lt_size
  simp only [isInf, bexp, frac, word, Bool.and_eq_true, beq_iff_eq] at hx hy
  simp only [sign, word, decide_eq_decide] at hs
  simp only [UInt64.size] at h1 h2
  omega

/-- **Doubles other than NaN are totally ordered**: what is not below is at or above. -/
theorem le_of_lt_eq_false {x y : F64} (hx : x.isNaN = false) (hy : y.isNaN = false) (h : x.lt y = false) :
    y.le x = true := by
  simp only [le, lt, beq, hx, hy, Bool.not_false, Bool.true_and, Bool.or_eq_true] at h ⊢
  cases hxi : x.isInf <;> cases hyi : y.isInf <;> cases hxs : x.sign <;> cases hys : y.sign <;>
    simp_all [decide_eq_false_iff_not]
  · omega
  · omega
  · omega
  · omega
  · exact bits_eq_of_isInf hyi hxi (hys.trans hxs.symm)
  · exact bits_eq_of_isInf hyi hxi (hys.trans hxs.symm)

end F64

end RapidRows
