import Atra.TickMath
import Mathlib.Analysis.Complex.ExponentialBounds
/-!
# TickRatio — how far the forward map is from `1.0001^(t/2)`

`tickStep` is the logarithm of one tick.  The logarithms of the twenty factors are minus `1, 2, 4, ..` of it, to within
`2^-68`: each factor is the square of the one before, up to its last digit.  The product over a tick's bits truncates once for
each, and the final rounding costs one in `2^30` at worst, so `log (sqrtPriceX96 / 2^96)` at tick `t` is `t` steps to within
`2^-28` (`sqrtRatio_log`) — far less than half a step, hence the forward map is strictly increasing (`sqrtRatio_lt`).
-/
namespace Atra
namespace TickMath

/-- The logarithm of `√1.0001`. -/
noncomputable def tickStep : ℝ := Real.log (10001 / 10000) / 2

/-! ## Logarithms near one -/

theorem abs_log_le {x u : ℝ} (hx : |x - 1| ≤ u) (hu : u ≤ 1 / 2) : |Real.log x| ≤ 2 * u := by
  obtain ⟨h1, h2⟩ := abs_le.1 hx
  have hpos : 0 < x := by linarith
  have hup := Real.log_le_sub_one_of_pos hpos
  have hlo := Real.one_sub_inv_le_log_of_pos hpos
  have hu0 : 0 ≤ u := (abs_nonneg _).trans hx
  have hinv : x⁻¹ ≤ 1 + 2 * u := by
    rw [inv_le_comm₀ hpos (by linarith), inv_le_iff_one_le_mul₀ (by linarith)]
    nlinarith
  rw [abs_le]
  constructor
  · linarith
  · linarith

theorem tickStep_near : |tickStep - 4999750016665417 / 10 ^ 20| ≤ 1 / 10 ^ 19 := by
  have h := Real.abs_log_sub_add_sum_range_le (show |(-1 / 10000 : ℝ)| < 1 by norm_num [abs_lt]) 5
  have hx : (1 - -1 / 10000 : ℝ) = 10001 / 10000 := by norm_num
  rw [hx] at h
  norm_num [Finset.sum_range_succ, abs_le] at h
  unfold tickStep
  rw [abs_le]
  constructor
  · linarith [h.1]
  · linarith [h.2]

/-! ## The factors -/

def factor (i : Nat) : Nat := SQRT_RATIO_FACTORS.getD i 0

theorem zipIdx_factors : SQRT_RATIO_FACTORS.zipIdx = (List.range 20).map fun i => (factor i, i) := by decide +kernel

/-- The first factor is `2^128 / √1.0001`, up to its last digit. -/
theorem factor_zero : 2 ^ 256 * 10000 * (2 ^ 90 - 1) ≤ factor 0 ^ 2 * 10001 * 2 ^ 90 ∧
    factor 0 ^ 2 * 10001 * 2 ^ 90 ≤ 2 ^ 256 * 10000 * (2 ^ 90 + 1) := by decide +kernel

/-- Every factor is the square of the one before, up to its last digit. -/
theorem factor_succ : ∀ i < 19, factor i ^ 2 * (2 ^ 90 - 1) ≤ factor (i + 1) * 2 ^ 128 * 2 ^ 90 ∧
    factor (i + 1) * 2 ^ 128 * 2 ^ 90 ≤ factor i ^ 2 * (2 ^ 90 + 1) := by decide +kernel

theorem factor_bounds : ∀ i < 20, 0 < factor i ∧ factor i ≤ 2 ^ 128 := by decide +kernel

/-- A ratio of naturals that is one up to `2^-90`. -/
theorem near_one {a b : Nat} (hb : 0 < b) (h : b * (2 ^ 90 - 1) ≤ a * 2 ^ 90 ∧ a * 2 ^ 90 ≤ b * (2 ^ 90 + 1)) :
    |Real.log (a / b)| ≤ 2 * (1 / 2 ^ 90) := by
  have hb' : (0 : ℝ) < b := by exact_mod_cast hb
  have h1 : (b : ℝ) * (2 ^ 90 - 1) ≤ a * 2 ^ 90 := by
    have := h.1
    have hcast : ((b * (2 ^ 90 - 1) : Nat) : ℝ) ≤ ((a * 2 ^ 90 : Nat) : ℝ) := by exact_mod_cast this
    push_cast at hcast
    norm_num at hcast ⊢
    exact hcast
  have h2 : (a : ℝ) * 2 ^ 90 ≤ b * (2 ^ 90 + 1) := by exact_mod_cast h.2
  apply abs_log_le _ (by norm_num)
  rw [abs_le]
  constructor
  · rw [le_sub_iff_add_le, le_div_iff₀ hb']
    norm_num at h1 ⊢
    linarith
  · rw [sub_le_iff_le_add, div_le_iff₀ hb']
    norm_num at h2 ⊢
    linarith

/-- **The logarithms of the factors**, each twice the one before. -/
theorem factor_log {i : Nat} (hi : i < 20) :
    |Real.log (factor i / 2 ^ 128) + 2 ^ i * tickStep| ≤ (3 * 2 ^ i - 2) * (1 / 2 ^ 90) := by
  induction i with
  | zero =>
    have hpos : (0 : ℝ) < factor 0 := by exact_mod_cast (factor_bounds 0 (by decide)).1
    have h := near_one (a := factor 0 ^ 2 * 10001) (by norm_num) factor_zero
    have hsplit : Real.log ((factor 0 ^ 2 * 10001 : Nat) / (2 ^ 256 * 10000 : Nat)) =
        2 * (Real.log (factor 0 / 2 ^ 128) + 2 ^ 0 * tickStep) := by
      have hr : (((factor 0 ^ 2 * 10001 : Nat) : ℝ) / ((2 ^ 256 * 10000 : Nat) : ℝ)) =
          (factor 0 / 2 ^ 128) ^ 2 * (10001 / 10000) := by
        push_cast
        ring
      rw [hr, Real.log_mul (by positivity) (by norm_num), Real.log_pow]
      unfold tickStep
      push_cast
      ring
    rw [hsplit, abs_mul, abs_two] at h
    norm_num at h ⊢
    linarith
  | succ i ih =>
    have hpos : (0 : ℝ) < factor i := by exact_mod_cast (factor_bounds i (by omega)).1
    have hpos' : (0 : ℝ) < factor (i + 1) := by exact_mod_cast (factor_bounds (i + 1) hi).1
    have h := near_one (a := factor (i + 1) * 2 ^ 128) (b := factor i ^ 2)
      (Nat.pow_pos (factor_bounds i (by omega)).1) (factor_succ i (by omega))
    have hsplit : Real.log ((factor (i + 1) * 2 ^ 128 : Nat) / (factor i ^ 2 : Nat)) =
        (Real.log (factor (i + 1) / 2 ^ 128) + 2 ^ (i + 1) * tickStep) -
          2 * (Real.log (factor i / 2 ^ 128) + 2 ^ i * tickStep) := by
      have hr : (((factor (i + 1) * 2 ^ 128 : Nat) : ℝ) / ((factor i ^ 2 : Nat) : ℝ)) =
          (factor (i + 1) / 2 ^ 128) / (factor i / 2 ^ 128) ^ 2 := by
        push_cast
        field_simp
        norm_num
      rw [hr, Real.log_div (by positivity) (by positivity), Real.log_pow]
      push_cast
      ring
    rw [hsplit] at h
    have hold := ih (by omega)
    obtain ⟨h1, h2⟩ := abs_le.1 h
    obtain ⟨h3, h4⟩ := abs_le.1 hold
    rw [abs_le, pow_succ (2 : ℝ) i]
    rw [pow_succ (2 : ℝ) i] at h1 h2
    constructor
    · linarith
    · linarith

/-! ## The product over a tick's bits -/

/-- The product over the lowest `k` bits. -/
def accumulateTo (absTick k : Nat) : Nat := (List.range k).foldl (fun ratio i => multiplyBit absTick ratio (factor i, i)) Q128

theorem accumulate_eq (absTick : Nat) : accumulate absTick = accumulateTo absTick 20 := by
  unfold accumulate accumulateTo
  rw [zipIdx_factors, List.foldl_map]

theorem accumulateTo_succ (absTick k : Nat) :
    accumulateTo absTick (k + 1) = multiplyBit absTick (accumulateTo absTick k) (factor k, k) := by
  unfold accumulateTo
  rw [List.range_succ, List.foldl_append]
  rfl

theorem multiplyBit_eq (absTick ratio k : Nat) : multiplyBit absTick ratio (factor k, k) =
    if absTick / 2 ^ k % 2 = 1 then ratio * factor k / 2 ^ 128 else ratio := by
  have hbit : absTick &&& (1 <<< k) ≠ 0 ↔ absTick / 2 ^ k % 2 = 1 := by
    rw [Nat.one_shiftLeft, Nat.and_two_pow, Nat.testBit_eq_decide_div_mod_eq]
    by_cases h : absTick / 2 ^ k % 2 = 1
    · simp [h]
    · simp [h]
  unfold multiplyBit
  by_cases h : absTick / 2 ^ k % 2 = 1
  · rw [if_pos (hbit.2 h), if_pos h, Nat.shiftRight_eq_div_pow]
  · rw [if_neg (fun hc => h (hbit.1 hc)), if_neg h]

/-- A product that truncates at most once for each bit, of a real factor `p` that is the tick's bits so far. -/
structure Accumulated (absTick k : Nat) (p : ℝ) : Prop where
  pos : 0 < p
  le_one : p ≤ 1
  upper : accumulateTo absTick k ≤ 2 ^ 128 * p
  lower : 2 ^ 128 * p - k ≤ accumulateTo absTick k
  log : |Real.log p + (absTick % 2 ^ k : Nat) * tickStep| ≤ k * (1 / 2 ^ 68)

theorem factor_log_le {i : Nat} (hi : i < 20) : |Real.log (factor i / 2 ^ 128) + 2 ^ i * tickStep| ≤ 1 / 2 ^ 68 := by
  refine (factor_log hi).trans ?_
  have hpow : (2 : ℝ) ^ i ≤ 2 ^ 19 := pow_le_pow_right₀ (by norm_num) (by omega)
  norm_num at hpow ⊢
  linarith

/-- **One bit more**: its factor joins, and what the product lost before only shrinks. -/
theorem Accumulated.step {absTick k : Nat} {p : ℝ} (h : Accumulated absTick k p) (hk : k < 20) :
    ∃ p', Accumulated absTick (k + 1) p' := by
  obtain ⟨hfpos, hfle⟩ := factor_bounds k hk
  by_cases hbit : absTick / 2 ^ k % 2 = 1
  · have hq0 : (0 : ℝ) < factor k / 2 ^ 128 := by
      have : (0 : ℝ) < factor k := by exact_mod_cast hfpos
      positivity
    have hq1 : (factor k / 2 ^ 128 : ℝ) ≤ 1 := by
      rw [div_le_one (by positivity)]
      exact_mod_cast hfle
    have hacc : accumulateTo absTick (k + 1) = accumulateTo absTick k * factor k / 2 ^ 128 := by
      rw [accumulateTo_succ, multiplyBit_eq, if_pos hbit]
    have hfloor : ((accumulateTo absTick (k + 1) : Nat) : ℝ) ≤ accumulateTo absTick k * (factor k / 2 ^ 128) ∧
        accumulateTo absTick k * (factor k / 2 ^ 128 : ℝ) - 1 ≤ accumulateTo absTick (k + 1) := by
      rw [hacc]
      constructor
      · have hle : ((accumulateTo absTick k * factor k / 2 ^ 128 : Nat) : ℝ) ≤
            (accumulateTo absTick k * factor k : Nat) / (2 ^ 128 : Nat) := Nat.cast_div_le
        rw [Nat.cast_mul, Nat.cast_pow, Nat.cast_ofNat] at hle
        rw [← mul_div_assoc]
        exact hle
      · have hlt := Nat.lt_div_mul_add (a := accumulateTo absTick k * factor k) (b := 2 ^ 128) (by positivity)
        have hlt' : (accumulateTo absTick k * factor k : ℝ) <
            (accumulateTo absTick k * factor k / 2 ^ 128 : Nat) * 2 ^ 128 + 2 ^ 128 := by exact_mod_cast hlt
        rw [← mul_div_assoc, sub_le_iff_le_add, div_le_iff₀ (by positivity)]
        linarith
    refine ⟨p * (factor k / 2 ^ 128), by have := h.pos; positivity, ?_, ?_, ?_, ?_⟩
    · exact mul_le_one₀ h.le_one hq0.le hq1
    · calc ((accumulateTo absTick (k + 1) : Nat) : ℝ) ≤ accumulateTo absTick k * (factor k / 2 ^ 128) := hfloor.1
        _ ≤ 2 ^ 128 * p * (factor k / 2 ^ 128) := by
          apply mul_le_mul_of_nonneg_right h.upper hq0.le
        _ = 2 ^ 128 * (p * (factor k / 2 ^ 128)) := by ring
    · have hlow : (2 ^ 128 * p - k) * (factor k / 2 ^ 128) ≤ accumulateTo absTick k * (factor k / 2 ^ 128 : ℝ) :=
        mul_le_mul_of_nonneg_right h.lower hq0.le
      have hshrink : (k : ℝ) * (factor k / 2 ^ 128) ≤ k := mul_le_of_le_one_right (Nat.cast_nonneg k) hq1
      push_cast
      linarith [hfloor.2]
    · have hmod : absTick % 2 ^ (k + 1) = absTick % 2 ^ k + 2 ^ k := by
        rw [Nat.mod_pow_succ, hbit, Nat.mul_one]
      rw [Real.log_mul h.pos.ne' hq0.ne', hmod]
      have h1 := h.log
      have h2 := factor_log_le hk
      obtain ⟨h3, h4⟩ := abs_le.1 h1
      obtain ⟨h5, h6⟩ := abs_le.1 h2
      rw [abs_le]
      push_cast
      constructor
      · linarith
      · linarith
  · have hacc : accumulateTo absTick (k + 1) = accumulateTo absTick k := by
      rw [accumulateTo_succ, multiplyBit_eq, if_neg hbit]
    have hmod : absTick % 2 ^ (k + 1) = absTick % 2 ^ k := by
      rw [Nat.mod_pow_succ, show absTick / 2 ^ k % 2 = 0 by omega, Nat.mul_zero, Nat.add_zero]
    refine ⟨p, h.pos, h.le_one, by rw [hacc]; exact h.upper, ?_, ?_⟩
    · rw [hacc]
      push_cast
      linarith [h.lower]
    · rw [hmod]
      refine h.log.trans ?_
      push_cast
      linarith

theorem accumulated (absTick : Nat) {k : Nat} (hk : k ≤ 20) : ∃ p, Accumulated absTick k p := by
  induction k with
  | zero =>
    have hq : ((accumulateTo absTick 0 : Nat) : ℝ) = 2 ^ 128 := by
      have : accumulateTo absTick 0 = 2 ^ 128 := by
        unfold accumulateTo Q128
        rw [List.range_zero, List.foldl_nil, Nat.one_shiftLeft]
      rw [this, Nat.cast_pow, Nat.cast_ofNat]
    refine ⟨1, one_pos, le_refl 1, ?_, ?_, ?_⟩
    · rw [hq, mul_one]
    · rw [hq, Nat.cast_zero, sub_zero, mul_one]
    · simp [Nat.mod_one]
  | succ k ih =>
    obtain ⟨p, hp⟩ := ih (by omega)
    exact hp.step (by omega)

/-! ## The ratio of a tick -/

theorem tickStep_bounds : 4999 / 10 ^ 8 < tickStep ∧ tickStep < 5000 / 10 ^ 8 := by
  obtain ⟨h1, h2⟩ := abs_le.1 tickStep_near
  norm_num at h1 h2 ⊢
  constructor
  · linarith
  · linarith

/-- A rounding of `2^62` or more by `2^6` at most costs `2^-55` of a logarithm. -/
theorem log_sub_le {x d : ℝ} (hx : 2 ^ 62 ≤ x) (hd : 0 ≤ d) (hd' : d ≤ 2 ^ 6) :
    Real.log x - 1 / 2 ^ 55 ≤ Real.log (x - d) := by
  have hpos : 0 < x := lt_of_lt_of_le (by norm_num) hx
  have hpos' : 0 < x - d := by
    norm_num at hx hd'
    linarith
  have hratio : |(x - d) / x - 1| ≤ 1 / 2 ^ 56 := by
    have heq : (x - d) / x - 1 = -(d / x) := by
      field_simp
      ring
    rw [heq, abs_neg, abs_of_nonneg (by positivity)]
    calc d / x ≤ 2 ^ 6 / 2 ^ 62 := div_le_div₀ (by norm_num) hd' (by norm_num) hx
      _ = 1 / 2 ^ 56 := by norm_num
  have hlog := abs_log_le hratio (by norm_num)
  rw [Real.log_div hpos'.ne' hpos.ne'] at hlog
  obtain ⟨h1, -⟩ := abs_le.1 hlog
  norm_num at h1 ⊢
  linarith

/-- **The ratio of a negative tick**: the logarithm of the product of its bits. -/
theorem accumulate_log {absTick : Nat} (h : absTick ≤ 887272) : (2 : ℝ) ^ 62 ≤ accumulate absTick ∧
    (accumulate absTick : ℝ) ≤ 2 ^ 128 ∧ |Real.log (accumulate absTick / 2 ^ 128) + absTick * tickStep| ≤ 1 / 2 ^ 54 := by
  obtain ⟨p, hp⟩ := accumulated absTick (Nat.le_refl 20)
  have hmod : absTick % 2 ^ 20 = absTick := Nat.mod_eq_of_lt (by omega)
  have hlog := hp.log
  rw [hmod] at hlog
  obtain ⟨h1, h2⟩ := abs_le.1 hlog
  have hstep := tickStep_bounds
  have habs : (absTick : ℝ) ≤ 887272 := by exact_mod_cast h
  have hfar : (absTick : ℝ) * tickStep ≤ 887272 * (5000 / 10 ^ 8) :=
    mul_le_mul habs hstep.2.le (by linarith [hstep.1]) (by norm_num)
  have hp63 : (2 : ℝ) ^ 63 ≤ 2 ^ 128 * p := by
    have hlog2 := Real.log_two_gt_d9
    have hge : Real.log (1 / 2 ^ 65) ≤ Real.log p := by
      rw [one_div, Real.log_inv, Real.log_pow]
      norm_num at h1 hfar hlog2 ⊢
      linarith
    have hge' := (Real.log_le_log_iff (by norm_num) hp.pos).1 hge
    norm_num at hge' ⊢
    linarith
  have hlo := hp.lower
  have hup := hp.upper
  rw [← accumulate_eq] at hlo hup
  have hbig : (2 : ℝ) ^ 62 ≤ accumulate absTick := by
    refine le_trans ?_ hlo
    norm_num at hp63 ⊢
    linarith
  have hpos : (0 : ℝ) < accumulate absTick := lt_of_lt_of_le (by norm_num) hbig
  refine ⟨hbig, ?_, ?_⟩
  · refine hup.trans ?_
    have := hp.le_one
    norm_num
    linarith
  · have hle : Real.log (accumulate absTick / 2 ^ 128) ≤ Real.log p :=
      Real.log_le_log (by positivity) (by rw [div_le_iff₀ (by positivity), mul_comm]; exact hup)
    have hge : Real.log p - 1 / 2 ^ 55 ≤ Real.log (accumulate absTick / 2 ^ 128) := by
      have hx := log_sub_le (x := 2 ^ 128 * p) (d := 20) ((by norm_num : (2 : ℝ) ^ 62 ≤ 2 ^ 63).trans hp63) (by norm_num)
        (by norm_num)
      have hmono : Real.log (2 ^ 128 * p - 20) ≤ Real.log (accumulate absTick) := by
        apply Real.log_le_log
        · norm_num at hp63 ⊢
          linarith
        · exact hlo
      rw [Real.log_mul (by norm_num) hp.pos.ne'] at hx
      rw [Real.log_div hpos.ne' (by norm_num)]
      have hboth := hx.trans hmono
      linarith only [hboth]
    norm_num at h1 h2 hge ⊢
    rw [abs_le]
    constructor
    · linarith
    · linarith

theorem uint256_div {a : Nat} (ha : 0 < a) : (2 : ℝ) ^ 256 / a - 2 ≤ (UINT256_MAX / a : Nat) ∧
    ((UINT256_MAX / a : Nat) : ℝ) ≤ 2 ^ 256 / a := by
  have ha' : (1 : ℝ) ≤ a := by exact_mod_cast ha
  have hmax : ((UINT256_MAX : Nat) : ℝ) = 2 ^ 256 - 1 := by
    have : UINT256_MAX + 1 = 2 ^ 256 := by decide +kernel
    rw [eq_sub_iff_add_eq]
    exact_mod_cast this
  constructor
  · have hlt : UINT256_MAX < UINT256_MAX / a * a + a := Nat.lt_div_mul_add ha
    have hlt' : ((UINT256_MAX : Nat) : ℝ) < (UINT256_MAX / a : Nat) * a + a := by exact_mod_cast hlt
    rw [hmax] at hlt'
    rw [sub_le_iff_le_add, div_le_iff₀ (by linarith)]
    linarith
  · have hle : ((UINT256_MAX / a : Nat) : ℝ) ≤ (UINT256_MAX : Nat) / (a : ℝ) := Nat.cast_div_le
    refine hle.trans ?_
    rw [hmax]
    gcongr
    linarith

/-- **The ratio of a tick.** -/
theorem ratioAt_log {tick : Int} (h : MIN_TICK ≤ tick ∧ tick ≤ MAX_TICK) : (2 : ℝ) ^ 62 ≤ ratioAt tick ∧
    |Real.log (ratioAt tick / 2 ^ 128) - tick * tickStep| ≤ 1 / 2 ^ 53 := by
  unfold MIN_TICK MAX_TICK at h
  obtain ⟨hlo, hhi, hlog⟩ := accumulate_log (show tick.natAbs ≤ 887272 by omega)
  obtain ⟨h1, h2⟩ := abs_le.1 hlog
  have hpos : (0 : ℝ) < accumulate tick.natAbs := lt_of_lt_of_le (by norm_num) hlo
  unfold ratioAt
  dsimp only
  by_cases ht : 0 < tick
  · have habs : ((tick.natAbs : Nat) : ℝ) = tick := by
      rw [Nat.cast_natAbs, abs_of_pos ht]
    rw [habs] at h1 h2
    rw [if_pos ht]
    obtain ⟨hq1, hq2⟩ := uint256_div (show 0 < accumulate tick.natAbs by exact_mod_cast hpos)
    have hx : (2 : ℝ) ^ 128 ≤ 2 ^ 256 / accumulate tick.natAbs := by
      rw [le_div_iff₀ hpos]
      calc (2 : ℝ) ^ 128 * accumulate tick.natAbs ≤ 2 ^ 128 * 2 ^ 128 := mul_le_mul_of_nonneg_left hhi (by norm_num)
        _ = 2 ^ 256 := by norm_num
    have hq62 : (2 : ℝ) ^ 62 ≤ (UINT256_MAX / accumulate tick.natAbs : Nat) := by
      refine le_trans ?_ hq1
      norm_num at hx ⊢
      linarith only [hx]
    have hqpos : (0 : ℝ) < (UINT256_MAX / accumulate tick.natAbs : Nat) := lt_of_lt_of_le (by norm_num) hq62
    have hloss := log_sub_le (d := 2) ((by norm_num : (2 : ℝ) ^ 62 ≤ 2 ^ 128).trans hx) (by norm_num) (by norm_num)
    have hge : Real.log (2 ^ 256 / accumulate tick.natAbs) - 1 / 2 ^ 55 ≤
        Real.log (UINT256_MAX / accumulate tick.natAbs : Nat) := by
      refine hloss.trans (Real.log_le_log ?_ hq1)
      norm_num at hx ⊢
      linarith only [hx]
    have hle : Real.log (UINT256_MAX / accumulate tick.natAbs : Nat) ≤ Real.log (2 ^ 256 / accumulate tick.natAbs) :=
      Real.log_le_log hqpos hq2
    have h256 : Real.log (2 ^ 256) = Real.log (2 ^ 128) + Real.log (2 ^ 128) := by
      rw [← Real.log_mul (by norm_num) (by norm_num)]
      norm_num
    rw [Real.log_div (by norm_num) hpos.ne', h256] at hge hle
    rw [Real.log_div hpos.ne' (by norm_num)] at h1 h2
    refine ⟨hq62, ?_⟩
    rw [Real.log_div hqpos.ne' (by norm_num), abs_le]
    norm_num only at h1 h2 hge ⊢
    constructor
    · linarith only [h2, hge]
    · linarith only [h1, hle]
  · have habs : ((tick.natAbs : Nat) : ℝ) = -tick := by
      rw [Nat.cast_natAbs, abs_of_nonpos (by omega), Int.cast_neg]
    rw [habs] at h1 h2
    rw [if_neg ht]
    refine ⟨hlo, ?_⟩
    rw [abs_le]
    norm_num only at h1 h2 ⊢
    constructor
    · linarith only [h1]
    · linarith only [h2]

/-- A ratio is rounded up to whole `2^32`s. -/
theorem roundUpRatio_bounds (ratio : Nat) : ratio ≤ roundUpRatio ratio * 2 ^ 32 ∧ roundUpRatio ratio * 2 ^ 32 < ratio + 2 ^ 32 := by
  have hq : Q32 = 2 ^ 32 := by
    unfold Q32
    rw [Nat.one_shiftLeft]
  unfold roundUpRatio
  rw [Nat.shiftRight_eq_div_pow, hq]
  split
  · omega
  · omega

/-- `sqrtPriceX96` at a tick of the range. -/
def sqrtRatio (tick : Int) : Nat := roundUpRatio (ratioAt tick)

theorem getSqrtRatioAtTick_ok {tick : Int} {ratio : Nat} :
    getSqrtRatioAtTick tick = .ok ratio ↔ (MIN_TICK ≤ tick ∧ tick ≤ MAX_TICK) ∧ ratio = sqrtRatio tick := by
  unfold getSqrtRatioAtTick assertTick
  simp only [bind_ok, pure_ok, refuseWhen_ok, not_or, not_lt]
  constructor
  · rintro ⟨_, h, rfl⟩
    exact ⟨h, rfl⟩
  · rintro ⟨h, rfl⟩
    exact ⟨(), h, rfl⟩

noncomputable def sqrtLog (sqrtPriceX96 : Nat) : ℝ := Real.log (sqrtPriceX96 / 2 ^ 96)

theorem sqrtLog_lt {a b : Nat} (ha : 0 < a) (hb : 0 < b) : a < b ↔ sqrtLog a < sqrtLog b := by
  have ha' : (0 : ℝ) < a := by exact_mod_cast ha
  have hb' : (0 : ℝ) < b := by exact_mod_cast hb
  unfold sqrtLog
  rw [Real.log_lt_log_iff (by positivity) (by positivity), div_lt_div_iff_of_pos_right (by norm_num), Nat.cast_lt]

/-- **The price of tick `t` is `1.0001^(t/2)`**, up to `2^-28` of its logarithm. -/
theorem sqrtRatio_log {tick : Int} (h : MIN_TICK ≤ tick ∧ tick ≤ MAX_TICK) :
    0 < sqrtRatio tick ∧ |sqrtLog (sqrtRatio tick) - tick * tickStep| ≤ 1 / 2 ^ 28 := by
  obtain ⟨hbig, hlog⟩ := ratioAt_log h
  obtain ⟨h1, h2⟩ := abs_le.1 hlog
  obtain ⟨hle, hlt⟩ := roundUpRatio_bounds (ratioAt tick)
  have hpos : (0 : ℝ) < ratioAt tick := lt_of_lt_of_le (by norm_num) hbig
  have hle' : (ratioAt tick : ℝ) ≤ sqrtRatio tick * 2 ^ 32 := by exact_mod_cast hle
  have hlt' : (sqrtRatio tick * 2 ^ 32 : ℝ) < ratioAt tick + 2 ^ 32 := by exact_mod_cast hlt
  have hspos : (0 : ℝ) < sqrtRatio tick := by
    by_contra hn
    linarith only [hle', hpos, hn]
  have hratio : |(sqrtRatio tick * 2 ^ 32 / ratioAt tick : ℝ) - 1| ≤ 1 / 2 ^ 30 := by
    rw [abs_le]
    constructor
    · rw [le_sub_iff_add_le, le_div_iff₀ hpos]
      linarith only [hle', hpos]
    · rw [sub_le_iff_le_add, div_le_iff₀ hpos]
      norm_num only at hlt' hbig ⊢
      linarith only [hlt', hbig]
  have hround := abs_log_le hratio (by norm_num)
  have hsplit : Real.log (sqrtRatio tick * 2 ^ 32 / ratioAt tick) =
      sqrtLog (sqrtRatio tick) - Real.log (ratioAt tick / 2 ^ 128) := by
    unfold sqrtLog
    rw [← Real.log_div (by positivity) (by positivity)]
    congr 1
    field_simp
  rw [hsplit] at hround
  obtain ⟨h3, h4⟩ := abs_le.1 hround
  refine ⟨by exact_mod_cast hspos, ?_⟩
  rw [abs_le]
  norm_num only at h1 h2 h3 h4 ⊢
  constructor
  · linarith only [h1, h3]
  · linarith only [h2, h4]

/-- **The forward map is strictly increasing**: a step is far more than the error at either end. -/
theorem sqrtRatio_lt {t t' : Int} (ht : MIN_TICK ≤ t ∧ t ≤ MAX_TICK) (ht' : MIN_TICK ≤ t' ∧ t' ≤ MAX_TICK) (h : t < t') :
    sqrtRatio t < sqrtRatio t' := by
  obtain ⟨hpos, hlog⟩ := sqrtRatio_log ht
  obtain ⟨hpos', hlog'⟩ := sqrtRatio_log ht'
  obtain ⟨-, h1⟩ := abs_le.1 hlog
  obtain ⟨h2, -⟩ := abs_le.1 hlog'
  have hstep := tickStep_bounds.1
  have hone : (t : ℝ) + 1 ≤ t' := by exact_mod_cast h
  have hmul : ((t : ℝ) + 1) * tickStep ≤ t' * tickStep :=
    mul_le_mul_of_nonneg_right hone (by linarith only [hstep])
  rw [sqrtLog_lt hpos hpos']
  norm_num only at h1 h2 hstep
  linarith only [h1, h2, hstep, hmul]

end TickMath
end Atra
