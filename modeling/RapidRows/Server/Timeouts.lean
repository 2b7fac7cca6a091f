import RapidRows.Float.Rounding
import RapidRows.Config.Sound
import RapidRows.Script.Acquire

/-!
# Timeouts in seconds, and the contexts they make

`serveQuery`, `serveExec` and `runJob` (`server.go`) give the context of their
SQL the endpoint's or the job's `Timeout`, and `datasources.start` keeps each
datasource's `Timeout` for `dsconnect`, `withConn`, `withTx` and `acquire`:
each as `time.Duration(*x.Timeout * float64(time.Second))`, when
`*x.Timeout > 0`. `$sys.acquire` takes a timeout from the script, as
`time.Duration(v) * time.Second` from an integer and
`time.Duration(float64(time.Second) * v)` from a float, and
`datasources.acquire` uses it when it is positive.

The product is a double. Up to `2^63 - 2^10` nanoseconds the duration lies
between the integers around the exact product (`durationOf_between`). From
`2^63` nanoseconds on, about 292 years, and for `+Inf`, the conversion to
`int64` is out of range, and amd64 gives `math.MinInt64`: `context.WithTimeout`
then returns a context whose deadline has passed, and every statement run
under it fails. Validation warns only about a timeout that is not positive, so
it treats such a timeout as if it were absent (`huge_endpoint_timeout_expires`).
A datasource with such a timeout fails to connect, and `Start` with it, unless
its pool is lazy; with a lazy pool the server starts, and every context its
connections are used under has expired (`huge_datasource_timeout_expires`).
A QuickJS integer is an `int32`, so the integer path never wraps
(`acquire_int_timeout`).
-/

namespace RapidRows

namespace F64

/-! ## §1 Rounding is monotone -/

theorem le_rne_of_mul_le {a D K : Nat} (hD : 0 < D) (h : K * D ≤ a) : K ≤ rne a D :=
  ((Nat.le_div_iff_mul_le hD).2 h).trans (le_rne a D)

theorem rne_le_of_le_mul {a D K : Nat} (hD : 0 < D) (h : a ≤ K * D) : rne a D ≤ K := by
  have hq : a / D ≤ K := Nat.div_le_of_le_mul (by rwa [Nat.mul_comm])
  rcases Nat.lt_or_eq_of_le hq with hlt | heq
  · exact (rne_le a D).trans hlt
  · have hr : a % D = 0 := by
      have := Nat.div_add_mod a D
      rw [heq] at this
      rw [Nat.mul_comm] at h
      omega
    unfold rne
    rw [hr, if_pos (by omega), heq]

theorem Normalized.lt {m p : Nat} (h : Normalized m p) : m < 2 ^ 53 :=
  h.1.elim (·.2) fun h => h.1.trans (by norm_num)

/-- What `roundMag` returns is `rne A (d * 2^q) * 2^q`, at the unit exponent
`q` of the binade, in both of its branches. -/
theorem roundMag_eq {a d m p : Nat} (h : roundMag a d = some (m, p)) :
    ulpExp (a <<< 1074) d ≤ 2045 ∧
      m <<< p = rne (a <<< 1074) (d <<< ulpExp (a <<< 1074) d) <<< ulpExp (a <<< 1074) d := by
  unfold roundMag at h
  generalize a <<< 1074 = A at h ⊢
  dsimp only at h
  split_ifs at h with heq hp hp <;> obtain ⟨rfl, rfl⟩ := Prod.mk.inj (Option.some.inj h)
  · refine ⟨by omega, ?_⟩
    rw [heq, Nat.shiftLeft_eq, Nat.shiftLeft_eq, Nat.pow_succ, Nat.pow_succ]
    ring
  · exact ⟨hp, rfl⟩

/-- **Rounding keeps a lower bound that is a double**, when it does not
overflow. -/
theorem le_roundMag {a d m p M m' p' : Nat} (hd : 0 < d) (hM : Normalized m p) (hmp : m <<< p = M)
    (h : M * d ≤ a <<< 1074) (hr : roundMag a d = some (m', p')) : M ≤ m' <<< p' := by
  subst hmp
  obtain ⟨hq, hmag⟩ := roundMag_eq hr
  generalize a <<< 1074 = A at h hq hmag
  rw [hmag]
  have hup := ulpExp_upper A d
  have hlo := rne_binade hq
  generalize ulpExp A d = q at hq hup hlo
  simp only [Nat.shiftLeft_eq] at h hlo ⊢
  have hm := hM.1
  -- the value's binade is at least the bound's
  have hpq : p ≤ q := by
    rcases hm with ⟨hm1, -⟩ | ⟨-, rfl⟩
    · rcases hup with hup | hup
      · have : 2 ^ (p + 52) < 2 ^ (q + 53) := by
          refine Nat.lt_of_mul_lt_mul_left (a := d) (lt_of_le_of_lt ?_ hup)
          calc d * 2 ^ (p + 52) = 2 ^ 52 * 2 ^ p * d := by rw [Nat.pow_add]; ring
            _ ≤ m * 2 ^ p * d := by gcongr
            _ ≤ A := h
        have := (Nat.pow_lt_pow_iff_right (by norm_num)).1 this
        omega
      · have := hM.2; omega
    · exact Nat.zero_le _
  rcases Nat.lt_or_eq_of_le hpq with hlt | rfl
  · -- in a higher binade the significand is at least `2^52`
    have h52 : 2 ^ 52 ≤ rne A (d * 2 ^ q) := hlo.1.resolve_left (by omega)
    calc m * 2 ^ p ≤ 2 ^ 53 * 2 ^ p := Nat.mul_le_mul_right _ hM.lt.le
      _ = 2 ^ 52 * 2 ^ (p + 1) := by rw [Nat.pow_succ]; ring
      _ ≤ rne A (d * 2 ^ q) * 2 ^ q := Nat.mul_le_mul h52 (Nat.pow_le_pow_right (by norm_num) hlt)
  · exact Nat.mul_le_mul_right _
      (le_rne_of_mul_le (by positivity) (by rwa [Nat.mul_assoc, Nat.mul_comm (2 ^ p)] at h))

/-- **Rounding keeps an upper bound that is a double**, and does not overflow
under it. -/
theorem roundMag_le {a d m p M : Nat} (hd : 0 < d) (hM : Normalized m p) (hmp : m <<< p = M)
    (h : a <<< 1074 ≤ M * d) : ∃ m' p', roundMag a d = some (m', p') ∧ m' <<< p' ≤ M := by
  subst hmp
  unfold roundMag
  generalize a <<< 1074 = A at h ⊢
  dsimp only
  have hlo := ulpExp_lower A d
  generalize ulpExp A d = q at hlo ⊢
  simp only [Nat.shiftLeft_eq] at h ⊢
  -- the value's binade is at most the bound's
  have hqp : q ≤ p := by
    rcases hlo with rfl | hlo
    · exact Nat.zero_le _
    · have : 2 ^ (q + 52) < 2 ^ (p + 53) := by
        refine Nat.lt_of_mul_lt_mul_left (a := d) (lt_of_le_of_lt (hlo.trans h) ?_)
        calc m * 2 ^ p * d < 2 ^ 53 * 2 ^ p * d :=
              Nat.mul_lt_mul_of_pos_right (Nat.mul_lt_mul_of_pos_right hM.lt (by positivity)) hd
          _ = d * 2 ^ (p + 53) := by rw [Nat.pow_add]; ring
      have := (Nat.pow_lt_pow_iff_right (by norm_num)).1 this
      omega
  have hsplit : m * 2 ^ p = m * 2 ^ (p - q) * 2 ^ q := by
    rw [Nat.mul_assoc, ← Nat.pow_add, Nat.sub_add_cancel hqp]
  have hr : rne A (d * 2 ^ q) ≤ m * 2 ^ (p - q) :=
    rne_le_of_le_mul (by positivity) (by rwa [hsplit, Nat.mul_assoc _ (2 ^ q), Nat.mul_comm (2 ^ q)] at h)
  have hp := hM.2
  have hm53 := hM.lt
  split_ifs with heq hq1 hq2
  · refine ⟨_, _, rfl, ?_⟩
    calc 2 ^ 52 * 2 ^ (q + 1) = 2 ^ 53 * 2 ^ q := by rw [Nat.pow_succ]; ring
      _ ≤ m * 2 ^ p := by rw [hsplit]; exact Nat.mul_le_mul_right _ (heq ▸ hr)
  · -- a carry out of the binade needs an exponent below the bound's
    have : p ≠ q := fun hpq => by
      rw [hpq, Nat.sub_self, Nat.pow_zero, Nat.mul_one, heq] at hr; omega
    omega
  · exact ⟨_, _, rfl, by rw [hsplit]; exact Nat.mul_le_mul_right _ hr⟩
  · omega

/-! ## §2 Multiplication -/

/-- `x * y`: NaN when an operand is NaN or an infinity meets a zero; an
infinity when an operand is infinite; otherwise the exact product rounded to
nearest even, whose unit is `2^-1074 * 2^-1074`. The sign is the exclusive or
of the signs; a NaN's payload is left out. -/
def mul (x y : F64) : F64 :=
  if x.isNaN || y.isNaN then nan
  else if x.isInf || y.isInf then
    if (x.isInf && y.mag == 0) || (y.isInf && x.mag == 0) then nan else inf (xor x.sign y.sign)
  else (round (xor x.sign y.sign) (x.mag * y.mag) (1 <<< 1074 <<< 1074)).1

theorem mul_comm (x y : F64) : x.mul y = y.mul x := by
  unfold mul
  rw [Bool.or_comm x.isNaN, Bool.or_comm x.isInf, Bool.or_comm (x.isInf && _), Bool.xor_comm,
    Nat.mul_comm]

theorem mul_of_isFinite {x y : F64} (hx : x.isFinite = true) (hy : y.isFinite = true) :
    x.mul y = (round (xor x.sign y.sign) (x.mag * y.mag) (1 <<< 1074 <<< 1074)).1 := by
  rw [mul, isNaN_of_isFinite hx, isNaN_of_isFinite hy, isInf_of_isFinite hx, isInf_of_isFinite hy]
  rfl

/-! ## §3 `int64` of a rounded value -/

theorem le_shiftRight_of_shiftLeft_le {n M k : Nat} (h : n <<< k ≤ M) : n ≤ M >>> k := by
  rw [Nat.shiftRight_eq_div_pow]
  rw [Nat.shiftLeft_eq] at h
  exact (Nat.le_div_iff_mul_le (Nat.two_pow_pos k)).2 h

theorem shiftRight_le_of_le_shiftLeft {n M k : Nat} (h : M ≤ n <<< k) : M >>> k ≤ n := by
  rw [Nat.shiftRight_eq_div_pow]
  rw [Nat.shiftLeft_eq] at h
  exact Nat.div_le_of_le_mul (by rwa [Nat.mul_comm])

theorem shiftRight_lt_of_lt_shiftLeft {n M k : Nat} (h : M < n <<< k) : M >>> k < n := by
  rw [Nat.shiftRight_eq_div_pow]
  rw [Nat.shiftLeft_eq] at h
  exact (Nat.div_lt_iff_lt_mul (Nat.two_pow_pos k)).2 h

theorem isFinite_inf (s : Bool) : (inf s).isFinite = false := by cases s <;> rfl

theorem round_of_roundMag_none {s : Bool} {a d : Nat} (h : roundMag a d = none) :
    round s a d = (inf s, true) := by
  unfold round
  rw [h]

theorem toInt64_inf (s : Bool) : (inf s).toInt64 = minInt64 :=
  dif_neg fun h => by rw [isFinite_inf] at h; exact Bool.false_ne_true h.1

theorem truncInt_make {m p : Nat} (h : Normalized m p) :
    (make false m p).truncInt = ((m <<< p) >>> 1074 : Nat) := by
  unfold truncInt
  rw [sign_make h, if_neg Bool.false_ne_true, mag_make h]

/-- A finite positive double converts to its integer part below `2^63`. -/
theorem toInt64_make {m p : Nat} (h : Normalized m p) (hlt : m <<< p < 2 ^ 63 <<< 1074) :
    (make false m p).toInt64.val = ((m <<< p) >>> 1074 : Nat) := by
  have ht := truncInt_make h
  have hlt := shiftRight_lt_of_lt_shiftLeft hlt
  generalize (m <<< p) >>> 1074 = T at hlt ht ⊢
  rw [toInt64_val (isFinite_make h) (by rw [ht]; omega) (by rw [ht]; omega), ht]

/-- From `2^63` on, the conversion is out of range. -/
theorem toInt64_make_of_le {m p : Nat} (h : Normalized m p) (hge : 2 ^ 63 <<< 1074 ≤ m <<< p) :
    (make false m p).toInt64 = minInt64 := by
  have ht := truncInt_make h
  have hge := le_shiftRight_of_shiftLeft_le hge
  generalize (m <<< p) >>> 1074 = T at hge ht
  exact dif_neg fun ⟨_, _, h2⟩ => by rw [ht] at h2; omega

/-- **Rounding a value of `2^63` or more gives a double that `int64` cannot
hold.** -/
theorem toInt64_round_of_le {a d : Nat} (hd : 0 < d) (h : (2 ^ 63 <<< 1074) * d ≤ a <<< 1074) :
    (round false a d).1.toInt64 = minInt64 := by
  rcases hr : roundMag a d with _ | ⟨m, p⟩
  · rw [round_of_roundMag_none hr, toInt64_inf]
  · rw [round_of_roundMag hr]
    have hM : Normalized (2 ^ 52) 1085 := ⟨.inl ⟨le_refl _, by norm_num⟩, by norm_num⟩
    have hMeq : (2 ^ 52 : Nat) <<< 1085 = 2 ^ 63 <<< 1074 := by
      simp only [Nat.shiftLeft_eq, ← Nat.pow_add]
    exact toInt64_make_of_le (roundMag_normalized hr) (le_roundMag hd hM hMeq h hr)

/-- **Rounding a value up to `2^63 - 2^10` gives an `int64` between the
integers around it**: at least every integer `n ≤ 2^53` below the value, at
most every one above it. -/
theorem toInt64_round_between {a d n : Nat} (hd : 0 < d)
    (hmax : a <<< 1074 ≤ ((2 ^ 63 - 2 ^ 10) <<< 1074) * d) (hn : n ≤ 2 ^ 53) :
    ((n <<< 1074) * d ≤ a <<< 1074 → (n : Int) ≤ (round false a d).1.toInt64.val) ∧
      (a <<< 1074 ≤ (n <<< 1074) * d → (round false a d).1.toInt64.val ≤ n) := by
  have hM : Normalized (2 ^ 53 - 1) 1084 := ⟨.inl ⟨by norm_num, by norm_num⟩, by norm_num⟩
  have hMeq : (2 ^ 53 - 1 : Nat) <<< 1084 = (2 ^ 63 - 2 ^ 10) <<< 1074 := by
    simp only [Nat.shiftLeft_eq, show 1084 = 10 + 1074 from rfl, Nat.pow_add, ← Nat.mul_assoc]
    norm_num
  have hlt : (2 ^ 63 - 2 ^ 10 : Nat) <<< 1074 < 2 ^ 63 <<< 1074 := by
    simp only [Nat.shiftLeft_eq]
    exact Nat.mul_lt_mul_of_pos_right (by norm_num) (Nat.two_pow_pos _)
  obtain ⟨m, p, hr, hle⟩ := roundMag_le hd hM hMeq hmax
  have hval : (round false a d).1.toInt64.val = ((m <<< p) >>> 1074 : Nat) := by
    rw [round_of_roundMag hr]
    exact toInt64_make (roundMag_normalized hr) (lt_of_le_of_lt hle hlt)
  obtain ⟨m₀, p₀, hn₀, hn₀eq⟩ := normalized_of_int hn
  rw [hval]
  refine ⟨fun hlo => ?_, fun hhi => ?_⟩
  · exact Int.ofNat_le.2 (le_shiftRight_of_shiftLeft_le (le_roundMag hd hn₀ hn₀eq hlo hr))
  · obtain ⟨m', p', hr', hle'⟩ := roundMag_le hd hn₀ hn₀eq hhi
    rw [hr] at hr'
    obtain ⟨rfl, rfl⟩ := Prod.mk.inj (Option.some.inj hr')
    exact Int.ofNat_le.2 (shiftRight_le_of_le_shiftLeft hle')

end F64

/-! ## §4 Durations -/

open Config Script

namespace Server

/-- `float64(time.Second)`: `1e9`, exactly. -/
def nsPerSecond : F64 := (F64.round false (10 ^ 9) 1).1

theorem nsPerSecond_eq : nsPerSecond = F64.make false (10 ^ 9 * 2 ^ 23) 1051 := by
  have hn : F64.Normalized (10 ^ 9 * 2 ^ 23) 1051 := ⟨.inl ⟨by norm_num, by norm_num⟩, by norm_num⟩
  have he : 10 ^ 9 <<< 1074 = ((10 ^ 9 * 2 ^ 23) <<< 1051) * 1 := by
    rw [Nat.mul_one, Nat.shiftLeft_eq, Nat.shiftLeft_eq, Nat.mul_assoc, ← Nat.pow_add]
  rw [nsPerSecond, F64.round_of_roundMag (F64.roundMag_exact hn Nat.one_pos he)]

theorem nsPerSecond_normalized : F64.Normalized (10 ^ 9 * 2 ^ 23) 1051 :=
  ⟨.inl ⟨by norm_num, by norm_num⟩, by norm_num⟩

theorem nsPerSecond_mag : nsPerSecond.mag = 10 ^ 9 <<< 1074 := by
  rw [nsPerSecond_eq, F64.mag_make nsPerSecond_normalized, Nat.shiftLeft_eq, Nat.shiftLeft_eq, Nat.mul_assoc,
    ← Nat.pow_add]

theorem nsPerSecond_isFinite : nsPerSecond.isFinite = true := by
  rw [nsPerSecond_eq]; exact F64.isFinite_make nsPerSecond_normalized

theorem nsPerSecond_sign : nsPerSecond.sign = false := by
  rw [nsPerSecond_eq]; exact F64.sign_make nsPerSecond_normalized

/-- `time.Duration(t * float64(time.Second))`: the timeout `t`, in seconds, in
nanoseconds. -/
def durationOf (t : F64) : I64 := (t.mul nsPerSecond).toInt64

/-- A positive finite timeout is `t * 10^9` nanoseconds, rounded. -/
theorem durationOf_eq {t : F64} (ht : t.isFinite = true) (hs : t.sign = false) :
    durationOf t = (F64.round false (t.mag * (10 ^ 9 <<< 1074)) (1 <<< 1074 <<< 1074)).1.toInt64 := by
  rw [durationOf, F64.mul_of_isFinite ht nsPerSecond_isFinite, hs, nsPerSecond_sign, nsPerSecond_mag,
    Bool.false_xor]

/-- A bound `n ≤ x * c`, as `roundMag` compares the product of `x` and the
double `c`. -/
theorem le_product {x c n : Nat} (h : n <<< 1074 ≤ x * c) :
    (n <<< 1074) * (1 <<< 1074 <<< 1074) ≤ (x * (c <<< 1074)) <<< 1074 := by
  simp only [Nat.shiftLeft_eq] at h ⊢
  generalize 2 ^ 1074 = B at h ⊢
  calc n * B * (1 * B * B) = n * B * (B * B) := by rw [Nat.one_mul]
    _ ≤ x * c * (B * B) := Nat.mul_le_mul_right _ h
    _ = x * (c * B) * B := by ring

/-- A bound `x * c ≤ n`, as `roundMag` compares it. -/
theorem product_le {x c n : Nat} (h : x * c ≤ n <<< 1074) :
    (x * (c <<< 1074)) <<< 1074 ≤ (n <<< 1074) * (1 <<< 1074 <<< 1074) := by
  simp only [Nat.shiftLeft_eq] at h ⊢
  generalize 2 ^ 1074 = B at h ⊢
  calc x * (c * B) * B = x * c * (B * B) := by ring
    _ ≤ n * B * (B * B) := Nat.mul_le_mul_right _ h
    _ = n * B * (1 * B * B) := by rw [Nat.one_mul]

theorem unit_pos : 0 < (1 : Nat) <<< 1074 <<< 1074 := by
  rw [Nat.shiftLeft_eq, Nat.shiftLeft_eq]; positivity

/-- **A timeout up to `2^63 - 2^10` nanoseconds converts to a duration between
the integers around it**: at least every integer `n ≤ 2^53` below `t * 10^9`,
and at most every one above it. -/
theorem durationOf_between {t : F64} (ht : t.isFinite = true) (hs : t.sign = false)
    (hmax : t.mag * 10 ^ 9 ≤ (2 ^ 63 - 2 ^ 10) <<< 1074) {n : Nat} (hn : n ≤ 2 ^ 53) :
    (n <<< 1074 ≤ t.mag * 10 ^ 9 → (n : Int) ≤ (durationOf t).val) ∧
      (t.mag * 10 ^ 9 ≤ n <<< 1074 → (durationOf t).val ≤ n) := by
  rw [durationOf_eq ht hs]
  have h := F64.toInt64_round_between unit_pos (product_le hmax) hn
  exact ⟨fun hlo => h.1 (le_product hlo), fun hhi => h.2 (product_le hhi)⟩

/-- **From `2^63` nanoseconds on, and at `+Inf`, the duration is
`math.MinInt64`.** -/
theorem durationOf_of_huge {t : F64} (hn : t.isNaN = false) (hs : t.sign = false)
    (h : t.isInf = true ∨ 2 ^ 63 <<< 1074 ≤ t.mag * 10 ^ 9) : durationOf t = F64.minInt64 := by
  by_cases hi : t.isInf = true
  · have hmag : nsPerSecond.mag ≠ 0 := by rw [nsPerSecond_mag]; decide
    have hnan : nsPerSecond.isNaN = false := F64.isNaN_of_isFinite nsPerSecond_isFinite
    have hinf : nsPerSecond.isInf = false := F64.isInf_of_isFinite nsPerSecond_isFinite
    rw [durationOf, F64.mul, hn, hnan, hi, hinf]
    simp only [Bool.or_false, Bool.false_or, Bool.true_or, Bool.true_and, Bool.false_and, beq_iff_eq, hmag,
      decide_False, if_false, Bool.false_eq_true, ite_false, ite_true, F64.toInt64_inf]
  · have ht : t.isFinite = true := F64.isFinite_of_not_isNaN hn (by simpa using hi)
    rw [durationOf_eq ht hs]
    exact F64.toInt64_round_of_le unit_pos (le_product (h.resolve_left hi))

/-! ## §5 The contexts -/

/-- The guard and the conversion that `serveQuery`, `serveExec`, `runJob`,
`dsconnect` and `datasources.start` share: a timeout `t > 0` gives the context
`time.Duration(t * float64(time.Second))`; no timeout, or one not above `0`,
gives none. -/
def ctxTimeout : Option F64 → Option I64
  | some t => if F64.lt ⟨0⟩ t then some (durationOf t) else none
  | none => none

/-- The timeout of the context `serveQuery` and `serveExec` run an endpoint's
SQL under. -/
def endpointTimeout (ep : Endpoint) : Option I64 := ctxTimeout ep.timeout

/-- The timeout of the context `runJob` runs an `exec` job under. -/
def jobTimeout (j : Job) : Option I64 := ctxTimeout j.timeout

/-- The timeout `datasources.start` stores for a datasource, and `dsconnect`
connects under. -/
def datasourceTimeout (s : Datasource) : Option I64 := ctxTimeout s.timeout

/-- One step of the loop of `datasources.start` over the sources, once a source
connected: `d.timeouts.Store(s.Name, ...)` for a positive timeout. -/
def storeTimeout (m : String → Option I64) (s : Datasource) : String → Option I64 :=
  match datasourceTimeout s with
  | some t => Function.update m s.name (some t)
  | none => m

/-- Whether `dsconnect` returns a pool, given whether the server accepts a
connection (`up`). `pgxpool.ConnectConfig` connects nothing for a lazy pool
(`Pool.Lazy`); any other pool acquires a first connection under the context,
which fails once the context's deadline has passed. -/
def dsconnect (up : Bool) (s : Datasource) : Bool :=
  s.pool.any (·.lazy) || up && (datasourceTimeout s).all fun d => 0 < d.val

/-- The loop of `datasources.start` from the store `m`: `none` once a
`dsconnect` fails, and `start` returns its error. -/
def timeoutsLoop (up : String → Bool) : List Datasource → (String → Option I64) → Option (String → Option I64)
  | [], m => some m
  | s :: rest, m => if dsconnect (up s.name) s then timeoutsLoop up rest (storeTimeout m s) else none

/-- `d.timeouts` after `datasources.start`, when it returned nil. `withConn`
and `withTx` put `d.timeouts.Load(name)` on their context. -/
def startTimeouts (up : String → Bool) (sources : List Datasource) : Option (String → Option I64) :=
  timeoutsLoop up sources fun _ => none

/-- The timeout `datasources.acquire(name, timeout)` puts on its context: the
one given when it is positive, else the datasource's. -/
def acquireTimeout (timeouts : String → Option I64) (name : String) (timeout : I64) : Option I64 :=
  if 0 < timeout.val then some timeout else timeouts name

/-- `time.Second`. -/
def second : I64 := ⟨10 ^ 9, by norm_num, by norm_num⟩

/-- The timeout `$sys.acquire` passes to `datasources.acquire`: from an integer
second argument `time.Duration(v) * time.Second`, from a float
`time.Duration(float64(time.Second) * v)`, and `0` without one. -/
def scriptTimeout : List JsValue → I64
  | [_, .int v] => (I64.ofInt v).mul second
  | [_, .float v] => (nsPerSecond.mul v).toInt64
  | _ => ⟨0, by norm_num, by norm_num⟩

/-- A positive double: not NaN, sign clear, and infinite or of positive
magnitude. -/
structure Positive (t : F64) : Prop where
  not_nan : t.isNaN = false
  sign : t.sign = false
  inf_or_pos : t.isInf = true ∨ 0 < t.mag

theorem zero_isNaN : (⟨0⟩ : F64).isNaN = false := by decide

theorem zero_isInf : (⟨0⟩ : F64).isInf = false := by decide

theorem zero_scaled : (⟨0⟩ : F64).scaled = 0 := by decide

theorem bits_ne_zero_of_isInf {t : F64} (h : t.isInf = true) : t.bits ≠ 0 := fun h0 => by
  simp only [F64.isInf, F64.bexp, F64.word, h0, Bool.and_eq_true, beq_iff_eq] at h
  exact absurd h.1 (by decide)

theorem scaled_of_sign {t : F64} (hs : t.sign = false) : t.scaled = t.mag := by
  simp [F64.scaled, hs]

/-- `t > 0` holds of a positive double. -/
theorem Positive.lt {t : F64} (h : Positive t) : F64.lt ⟨0⟩ t = true := by
  simp only [F64.lt, zero_isNaN, h.not_nan, zero_isInf, Bool.not_false, Bool.true_and, Bool.false_eq_true,
    if_false]
  rcases h.inf_or_pos with hi | hm
  · simp [hi, h.sign]
  · split_ifs <;> simp [h.sign, scaled_of_sign h.sign, zero_scaled, hm]

/-- The check `*t <= 0` of the validators is false of a positive double. -/
theorem Positive.nonPos {t : F64} (h : Positive t) : F64.nonPos t = false := by
  simp only [F64.nonPos, F64.lt, F64.beq, zero_isNaN, h.not_nan, zero_isInf, h.sign, Bool.not_false,
    Bool.true_and, Bool.or_false, Bool.false_and, Bool.and_false, Bool.or_eq_false_iff]
  by_cases hi : t.isInf = true
  · simp [hi, bits_ne_zero_of_isInf hi]
  · simp [hi, scaled_of_sign h.sign, zero_scaled, (h.inf_or_pos.resolve_left hi).ne']

/-- A value of `2^63` nanoseconds or more, or `+Inf`, is positive. -/
theorem Positive.of_huge {t : F64} (hn : t.isNaN = false) (hs : t.sign = false)
    (h : t.isInf = true ∨ 2 ^ 63 <<< 1074 ≤ t.mag * 10 ^ 9) : Positive t :=
  ⟨hn, hs, h.imp_right fun h => Nat.pos_of_ne_zero fun h0 => by
    rw [h0, Nat.zero_mul] at h
    exact absurd h (by decide)⟩

/-- **A huge timeout gives a context past its deadline**: the guard passes, and
the duration is `math.MinInt64`. -/
theorem ctxTimeout_of_huge {t : F64} (hn : t.isNaN = false) (hs : t.sign = false)
    (h : t.isInf = true ∨ 2 ^ 63 <<< 1074 ≤ t.mag * 10 ^ 9) : ctxTimeout (some t) = some F64.minInt64 := by
  rw [ctxTimeout, if_pos (Positive.of_huge hn hs h).lt, durationOf_of_huge hn hs h]

theorem warnIf_false (msg : String) : warnIf false msg = [] := rfl

/-- Validation treats a positive endpoint timeout as if it were absent. -/
theorem Endpoint.validate_of_positive (lib : Lib) (ds : List Datasource) {ep : Endpoint} {t : F64}
    (he : ep.timeout = some t) (ht : Positive t) :
    ep.validate lib ds = { ep with timeout := none }.validate lib ds := by
  simp only [Endpoint.validate, he, Option.any_some, Option.any_none, ht.nonPos, warnIf_false]

/-- Validation treats a positive datasource timeout as if it were absent. -/
theorem Datasource.validate_of_positive (lib : Lib) {s : Datasource} {t : F64}
    (he : s.timeout = some t) (ht : Positive t) :
    s.validate lib = { s with timeout := none }.validate lib := by
  simp only [Datasource.validate, he, Option.any_some, Option.any_none, ht.nonPos, warnIf_false]

/-- **An endpoint timeout of `2^63` nanoseconds or more, or `+Inf`, expires
every query at once, and validation says nothing about it**: `serveQuery` and
`serveExec` run the endpoint's SQL under a context whose timeout is
`math.MinInt64`, and `Endpoint.validate` returns what it returns for the
endpoint without a timeout. -/
theorem huge_endpoint_timeout_expires (lib : Lib) (ds : List Datasource) {ep : Endpoint} {t : F64}
    (he : ep.timeout = some t) (hn : t.isNaN = false) (hs : t.sign = false)
    (h : t.isInf = true ∨ 2 ^ 63 <<< 1074 ≤ t.mag * 10 ^ 9) :
    endpointTimeout ep = some F64.minInt64 ∧ ep.validate lib ds = { ep with timeout := none }.validate lib ds :=
  ⟨by rw [endpointTimeout, he, ctxTimeout_of_huge hn hs h],
    Endpoint.validate_of_positive lib ds he (Positive.of_huge hn hs h)⟩

/-- `1e10` seconds, about 317 years. -/
def tenBillion : F64 := ⟨0x4202A05F20000000⟩

/-- The sample endpoint, with a timeout of `1e10` seconds. -/
def patientEndpoint : Endpoint := { sampleEndpoint with timeout := some tenBillion }

theorem patientEndpoint_expires :
    { sampleConfig with endpoints := [patientEndpoint] }.isValid acceptingLib = true ∧
      endpointTimeout patientEndpoint = some F64.minInt64 ∧
      patientEndpoint.validate acceptingLib sampleConfig.datasources =
        { patientEndpoint with timeout := none }.validate acceptingLib sampleConfig.datasources :=
  ⟨by decide, huge_endpoint_timeout_expires acceptingLib sampleConfig.datasources rfl (by decide) (by decide)
    (.inr (by decide))⟩

theorem storeTimeout_of_ne (m : String → Option I64) {s : Datasource} {k : String} (h : k ≠ s.name) :
    storeTimeout m s k = m k := by
  unfold storeTimeout
  rcases datasourceTimeout s with _ | t
  · rfl
  · exact Function.update_noteq h _ _

theorem storeTimeout_self {m : String → Option I64} {s : Datasource} (hm : m s.name = none) :
    storeTimeout m s s.name = datasourceTimeout s := by
  unfold storeTimeout
  rcases datasourceTimeout s with _ | t
  · exact hm
  · exact Function.update_same _ _ _

/-- A run of the loop that returns leaves a name of no source as it found it. -/
theorem timeoutsLoop_of_not_mem {up : String → Bool} {sources : List Datasource} {k : String}
    (hk : k ∉ sources.map (·.name)) :
    ∀ {m m' : String → Option I64}, timeoutsLoop up sources m = some m' → m' k = m k := by
  induction sources with
  | nil => intro m m' h; cases h; rfl
  | cons s rest ih =>
    intro m m' h
    rw [List.map_cons, List.mem_cons, not_or] at hk
    rw [timeoutsLoop] at h
    split_ifs at h
    rw [ih hk.2 h, storeTimeout_of_ne m hk.1]

/-- **After a run of the loop of `datasources.start` that returns, each name
holds its datasource's timeout**, when the names are distinct. -/
theorem timeoutsLoop_of_mem {up : String → Bool} {sources : List Datasource}
    (hnd : (sources.map (·.name)).Nodup) {s : Datasource} (hs : s ∈ sources) :
    ∀ {m m' : String → Option I64}, m s.name = none → timeoutsLoop up sources m = some m' →
      m' s.name = datasourceTimeout s := by
  induction sources with
  | nil => cases hs
  | cons s₀ rest ih =>
    intro m m' hm h
    rw [List.map_cons, List.nodup_cons] at hnd
    rw [timeoutsLoop] at h
    split_ifs at h
    rcases List.mem_cons.1 hs with rfl | hs
    · rw [timeoutsLoop_of_not_mem hnd.1 h, storeTimeout_self hm]
    · have hne : s.name ≠ s₀.name := fun h => hnd.1 (h ▸ List.mem_map_of_mem _ hs)
      exact ih hnd.2 hs (by rw [storeTimeout_of_ne m hne, hm]) h

/-- A source whose connect fails ends the loop with an error. -/
theorem timeoutsLoop_of_fails {up : String → Bool} {sources : List Datasource} {s : Datasource}
    (hs : s ∈ sources) (hf : dsconnect (up s.name) s = false) (m : String → Option I64) :
    timeoutsLoop up sources m = none := by
  induction sources generalizing m with
  | nil => cases hs
  | cons s₀ rest ih =>
    rw [timeoutsLoop]
    rcases List.mem_cons.1 hs with rfl | hs
    · rw [hf, if_neg Bool.false_ne_true]
    · split_ifs
      · exact ih hs _
      · rfl

/-- **A datasource timeout of `2^63` nanoseconds or more, or `+Inf`, gives
contexts past their deadline, and validation says nothing about it**:
`dsconnect` connects under it, so unless the pool is lazy the connect fails
and `Start` fails with it; when `datasources.start` returns, `d.timeouts`
holds `math.MinInt64` for the datasource, which `withConn` and `withTx` load,
and so does `$sys.acquire` given no timeout of its own. -/
theorem huge_datasource_timeout_expires (lib : Lib) (up : String → Bool) {sources : List Datasource}
    (hnd : (sources.map (·.name)).Nodup) {s : Datasource} (hs : s ∈ sources) {t : F64}
    (he : s.timeout = some t) (hn : t.isNaN = false) (hsg : t.sign = false)
    (h : t.isInf = true ∨ 2 ^ 63 <<< 1074 ≤ t.mag * 10 ^ 9) :
    datasourceTimeout s = some F64.minInt64 ∧
      (s.pool.any (·.lazy) = false → startTimeouts up sources = none) ∧
      (∀ m, startTimeouts up sources = some m → m s.name = some F64.minInt64 ∧
        acquireTimeout m s.name (scriptTimeout [.string s.name]) = some F64.minInt64) ∧
      s.validate lib = { s with timeout := none }.validate lib := by
  have hds : datasourceTimeout s = some F64.minInt64 := by
    rw [datasourceTimeout, he, ctxTimeout_of_huge hn hsg h]
  refine ⟨hds, fun hl => timeoutsLoop_of_fails hs ?_ _, fun m hm => ?_,
    Datasource.validate_of_positive lib he (Positive.of_huge hn hsg h)⟩
  · simp [dsconnect, hl, hds, F64.minInt64]
  · have hstore : m s.name = some F64.minInt64 := by rw [timeoutsLoop_of_mem hnd hs rfl hm, hds]
    refine ⟨hstore, ?_⟩
    rw [acquireTimeout, if_neg (show ¬(0 : Int) < (scriptTimeout [.string s.name]).val from lt_irrefl 0), hstore]

/-- A datasource with a lazy pool and a timeout of `1e10` seconds. -/
def patientDatasource : Datasource :=
  ⟨"db", [], some tenBillion, "", "", "", "", some ⟨none, none, none, none, true⟩⟩

theorem patientDatasource_expires :
    (startTimeouts (fun _ => true) [patientDatasource]).isSome = true ∧
      datasourceTimeout patientDatasource = some F64.minInt64 ∧
      (patientDatasource.pool.any (·.lazy) = false → startTimeouts (fun _ => true) [patientDatasource] = none) ∧
      (∀ m, startTimeouts (fun _ => true) [patientDatasource] = some m → m "db" = some F64.minInt64 ∧
        acquireTimeout m "db" (scriptTimeout [.string "db"]) = some F64.minInt64) ∧
      patientDatasource.validate acceptingLib = { patientDatasource with timeout := none }.validate acceptingLib :=
  ⟨by decide, huge_datasource_timeout_expires acceptingLib (fun _ => true) (by decide) (List.mem_singleton_self _)
    rfl (by decide) (by decide) (.inr (by decide))⟩

/-- **A timeout between one nanosecond and `2^63 - 2^10` nanoseconds gives the
context a positive timeout between the integers around `t * 10^9`**: at
least every integer `n ≤ 2^53` below it, and at most every one above it. -/
theorem ctxTimeout_between {t : F64} (ht : t.isFinite = true) (hs : t.sign = false)
    (hmin : 1 <<< 1074 ≤ t.mag * 10 ^ 9) (hmax : t.mag * 10 ^ 9 ≤ (2 ^ 63 - 2 ^ 10) <<< 1074) :
    ∃ d, ctxTimeout (some t) = some d ∧ 0 < d.val ∧
      ∀ n : Nat, n ≤ 2 ^ 53 → (n <<< 1074 ≤ t.mag * 10 ^ 9 → (n : Int) ≤ d.val) ∧
        (t.mag * 10 ^ 9 ≤ n <<< 1074 → d.val ≤ n) := by
  have hpos : Positive t := ⟨F64.isNaN_of_isFinite ht, hs, .inr (Nat.pos_of_ne_zero fun h0 => by
    rw [h0, Nat.zero_mul] at hmin; exact absurd hmin (by decide))⟩
  refine ⟨durationOf t, by rw [ctxTimeout, if_pos hpos.lt], ?_, fun n hn => durationOf_between ht hs hmax hn⟩
  exact (durationOf_between ht hs hmax (n := 1) (by norm_num)).1 hmin

/-- `2.5` seconds. -/
def twoAndAHalf : F64 := ⟨0x4004000000000000⟩

theorem twoAndAHalf_between :
    ctxTimeout (some twoAndAHalf) = some ⟨2500000000, by decide, by decide⟩ ∧
      ∃ d, ctxTimeout (some twoAndAHalf) = some d ∧ 0 < d.val ∧
        ∀ n : Nat, n ≤ 2 ^ 53 → (n <<< 1074 ≤ twoAndAHalf.mag * 10 ^ 9 → (n : Int) ≤ d.val) ∧
          (twoAndAHalf.mag * 10 ^ 9 ≤ n <<< 1074 → d.val ≤ n) :=
  ⟨by decide, ctxTimeout_between (by decide) (by decide) (by decide) (by decide)⟩

/-- **An integer timeout of a script never wraps**: QuickJS holds an integer
as an `int32`, so `time.Duration(v) * time.Second` is `v` seconds, and
`datasources.acquire` uses it exactly when `v > 0`, and the datasource's
timeout otherwise. -/
theorem acquire_int_timeout (timeouts : String → Option I64) (name : String) (x : JsValue) {v : Int}
    (hv : -2 ^ 31 ≤ v ∧ v < 2 ^ 31) :
    (scriptTimeout [x, .int v]).val = v * 10 ^ 9 ∧
      acquireTimeout timeouts name (scriptTimeout [x, .int v]) =
        if 0 < v then some (scriptTimeout [x, .int v]) else timeouts name := by
  have hval : (scriptTimeout [x, .int v]).val = v * 10 ^ 9 := by
    simp only [scriptTimeout, I64.mul, second]
    rw [I64.ofInt_val (z := v) (by omega) (by omega), I64.ofInt_val (by omega) (by omega)]
  refine ⟨hval, ?_⟩
  rw [acquireTimeout, hval]
  by_cases h : 0 < v
  · rw [if_pos (by omega), if_pos h]
  · rw [if_neg (by omega), if_neg h]

/-- `$sys.acquire("db", 30)` waits thirty seconds. -/
example : acquireTimeout (fun _ => none) "db" (scriptTimeout [.string "db", .int 30]) =
    some ⟨30 * 10 ^ 9, by norm_num, by norm_num⟩ := by decide

theorem scriptTimeout_float (x : JsValue) (v : F64) : scriptTimeout [x, .float v] = durationOf v := by
  rw [scriptTimeout, durationOf, F64.mul_comm]

/-- **A float timeout of a script counts between one nanosecond and
`2^63 - 2^10` nanoseconds**, as a positive duration; from `2^63` nanoseconds
on, and at `+Inf`, it converts to `math.MinInt64`, and `datasources.acquire`
uses the datasource's timeout in its place. -/
theorem acquire_float_timeout (timeouts : String → Option I64) (name : String) (x : JsValue) {v : F64}
    (hn : v.isNaN = false) (hs : v.sign = false) :
    (v.isFinite = true → 1 <<< 1074 ≤ v.mag * 10 ^ 9 → v.mag * 10 ^ 9 ≤ (2 ^ 63 - 2 ^ 10) <<< 1074 →
        acquireTimeout timeouts name (scriptTimeout [x, .float v]) = some (durationOf v) ∧
          0 < (durationOf v).val) ∧
      (v.isInf = true ∨ 2 ^ 63 <<< 1074 ≤ v.mag * 10 ^ 9 →
        acquireTimeout timeouts name (scriptTimeout [x, .float v]) = timeouts name) := by
  rw [scriptTimeout_float]
  refine ⟨fun ht hmin hmax => ?_, fun h => ?_⟩
  · have hpos : 0 < (durationOf v).val := (durationOf_between ht hs hmax (n := 1) (by norm_num)).1 hmin
    exact ⟨if_pos hpos, hpos⟩
  · rw [acquireTimeout, durationOf_of_huge hn hs h, if_neg (by decide)]

theorem tenBillion_acquire :
    tenBillion.isNaN = false ∧ tenBillion.sign = false ∧
      (tenBillion.isFinite = true → 1 <<< 1074 ≤ tenBillion.mag * 10 ^ 9 →
          tenBillion.mag * 10 ^ 9 ≤ (2 ^ 63 - 2 ^ 10) <<< 1074 →
          acquireTimeout (fun _ => none) "db" (scriptTimeout [.string "db", .float tenBillion]) =
              some (durationOf tenBillion) ∧ 0 < (durationOf tenBillion).val) ∧
        (tenBillion.isInf = true ∨ 2 ^ 63 <<< 1074 ≤ tenBillion.mag * 10 ^ 9 →
          acquireTimeout (fun _ => none) "db" (scriptTimeout [.string "db", .float tenBillion]) = none) :=
  have hn : tenBillion.isNaN = false := by decide
  have hs : tenBillion.sign = false := by decide
  ⟨hn, hs, acquire_float_timeout (fun _ => none) "db" (.string "db") hn hs⟩

end Server

end RapidRows
