import Atra.BinaryLog
import Atra.TickRatio
/-!
# TickInversion — the inverse map finds the tick of every price

The scan and the fourteen squarings know the base-2 logarithm of a price to within `2^-14` and a little (`log2_bounds`).  Scaled
to ticks that is less than the distance between the two error bounds, so the tick of a price is the lower or the upper guess,
and they are one apart at most; where they differ the forward map decides.
-/
namespace Atra
namespace TickMath

open BinaryLog

/-! ## The logarithm the inverse computes -/

theorem msbStep_scanned {ratio k : Nat} {st : Nat × Nat} (h : Scanned ratio (k + 1) st.1 st.2) :
    Scanned ratio k (msbStep st k).1 (msbStep st k).2 := by
  have hs := h.step
  unfold msbStep
  rw [Nat.one_shiftLeft, Nat.one_shiftLeft]
  exact hs

theorem scanned_last {ratio : Nat} {st : Nat × Nat} (h : Scanned ratio 1 st.1 st.2) :
    2 ^ (st.2 ||| if 1 < st.1 then 1 else 0) ≤ ratio ∧ ratio < 2 ^ ((st.2 ||| if 1 < st.1 then 1 else 0) + 1) := by
  have hs := h.step.bounds
  rw [Nat.shiftLeft_zero, Nat.pow_zero, Nat.pow_one] at hs
  exact hs

/-- **The scan finds the most significant bit.** -/
theorem mostSignificantBit_bounds {ratio : Nat} (hpos : 1 ≤ ratio) (hlt : ratio < 2 ^ 256) :
    2 ^ mostSignificantBit ratio ≤ ratio ∧ ratio < 2 ^ (mostSignificantBit ratio + 1) := by
  have h8 : Scanned ratio 8 ((ratio, 0) : Nat × Nat).1 ((ratio, 0) : Nat × Nat).2 := scanned_zero hpos hlt
  have h1 := msbStep_scanned (msbStep_scanned (msbStep_scanned (msbStep_scanned (msbStep_scanned (msbStep_scanned
    (msbStep_scanned h8))))))
  unfold mostSignificantBit MSB_SHIFTS
  simp only [List.foldl_cons, List.foldl_nil]
  exact scanned_last h1

/-- The mantissa the squarings start from. -/
def mantissa (ratio msb : Nat) : Nat := if 128 ≤ msb then ratio >>> (msb - 127) else ratio <<< (127 - msb)

theorem mantissa_bounds {ratio msb : Nat} (h : 2 ^ msb ≤ ratio ∧ ratio < 2 ^ (msb + 1)) :
    2 ^ 127 ≤ mantissa ratio msb ∧ mantissa ratio msb < 2 ^ 128 ∧
      lg (mantissa ratio msb) - 127 ≤ lg ratio - msb ∧ lg ratio - msb ≤ lg (mantissa ratio msb) - 127 + 2 / 2 ^ 127 := by
  obtain ⟨hlo, hhi⟩ := h
  unfold mantissa
  by_cases hm : 128 ≤ msb
  · have hk : 0 < 2 ^ (msb - 127) := Nat.two_pow_pos _
    rw [if_pos hm, Nat.shiftRight_eq_div_pow]
    have hge : 2 ^ 127 ≤ ratio / 2 ^ (msb - 127) := by
      rw [Nat.le_div_iff_mul_le hk, ← Nat.pow_add, show 127 + (msb - 127) = msb by omega]
      exact hlo
    obtain ⟨h1, h2⟩ := lg_div hge
    rw [Nat.cast_sub (by omega)] at h1 h2
    refine ⟨hge, ?_, ?_, ?_⟩
    · rw [Nat.div_lt_iff_lt_mul hk, ← Nat.pow_add, show 128 + (msb - 127) = msb + 1 by omega]
      exact hhi
    · push_cast at h1
      linarith only [h1]
    · push_cast at h2
      linarith only [h2]
  · rw [if_neg hm, Nat.shiftLeft_eq]
    have hratio : 0 < ratio := Nat.lt_of_lt_of_le (Nat.two_pow_pos msb) hlo
    have hlg : lg (ratio * 2 ^ (127 - msb)) = lg ratio + (127 - msb) := by
      rw [lg_mul hratio (Nat.two_pow_pos _), lg_two_pow, Nat.cast_sub (by omega)]
      push_cast
      rfl
    refine ⟨?_, ?_, ?_, ?_⟩
    · calc 2 ^ 127 = 2 ^ msb * 2 ^ (127 - msb) := by rw [← Nat.pow_add]; congr 1; omega
        _ ≤ ratio * 2 ^ (127 - msb) := Nat.mul_le_mul_right _ hlo
    · calc ratio * 2 ^ (127 - msb) < 2 ^ (msb + 1) * 2 ^ (127 - msb) := Nat.mul_lt_mul_of_pos_right hhi (Nat.two_pow_pos _)
        _ = 2 ^ 128 := by rw [← Nat.pow_add]; congr 1; omega
    · rw [hlg]
      linarith only []
    · rw [hlg]
      have : (0 : ℝ) ≤ 2 / 2 ^ 127 := by positivity
      linarith only [this]

/-- The squarings so far: the bits found stand below the base, and the rest of the base is clear. -/
theorem logSteps {r : Nat} (z : Int) (hlo : 2 ^ 127 ≤ r) (hhi : r < 2 ^ 128) {n : Nat} (hn : n ≤ 14) :
    ∃ bits, Refined 127 (lg r - 127) n ((List.range n).foldl logStep (r, z * 2 ^ 64)).1 bits ∧
      ((List.range n).foldl logStep (r, z * 2 ^ 64)).2 = (z * 2 ^ n + bits) * 2 ^ (64 - n) := by
  induction n with
  | zero =>
    refine ⟨0, ?_, by simp⟩
    have h0 := refined_zero hlo hhi
    push_cast at h0
    exact h0
  | succ n ih =>
    obtain ⟨bits, href, hlog⟩ := ih (by omega)
    rw [List.range_succ, List.foldl_append, List.foldl_cons, List.foldl_nil]
    generalize (List.range n).foldl logStep (r, z * 2 ^ 64) = st at href hlog ⊢
    have hstep := href.step
    have hbit : (st.1 * st.1) >>> 127 >>> (127 + 1) < 2 := (square_step href.lo href.hi).1
    unfold logStep
    dsimp only at hstep ⊢
    refine ⟨_, hstep, ?_⟩
    have hsmall : ((st.1 * st.1) >>> 127 >>> 128) <<< (63 - n) < 2 ^ (64 - n) := by
      rw [Nat.shiftLeft_eq, show 64 - n = 63 - n + 1 by omega, Nat.pow_succ']
      exact Nat.mul_lt_mul_of_pos_right hbit (Nat.two_pow_pos _)
    rw [hlog, lor_eq_add hsmall, Nat.shiftLeft_eq, show 64 - n = 63 - n + 1 by omega, show 64 - (n + 1) = 63 - n by omega]
    push_cast
    ring

/-- **The computed logarithm** is below the real one by less than `2^-14` and a little. -/
theorem log2_bounds {ratio : Nat} (hpos : 1 ≤ ratio) (hlt : ratio < 2 ^ 256) :
    (log2 ratio : ℝ) / 2 ^ 64 ≤ lg ratio - 128 ∧ lg ratio - 128 ≤ log2 ratio / 2 ^ 64 + 1 / 2 ^ 14 + 1 / 2 ^ 120 := by
  have hmsb := mostSignificantBit_bounds hpos hlt
  obtain ⟨hlo, hhi, h1, h2⟩ := mantissa_bounds hmsb
  obtain ⟨bits, href, hlog⟩ := logSteps ((mostSignificantBit ratio : Int) - 128) hlo hhi (Nat.le_refl 14)
  have hval : log2 ratio = (((mostSignificantBit ratio : Int) - 128) * 2 ^ 14 + bits) * 2 ^ 50 := by
    rw [← hlog]
    unfold log2 mantissa
    dsimp only
    rw [Int.shiftLeft_eq]
  have hreal : (log2 ratio : ℝ) / 2 ^ 64 = mostSignificantBit ratio - 128 + bits / 2 ^ 14 := by
    rw [hval]
    push_cast
    ring
  obtain ⟨h3, h4⟩ := href.bounds
  rw [hreal]
  rw [add_div] at h4
  push_cast at h3 h4
  norm_num only at h2 h4 ⊢
  constructor
  · linarith only [h1, h3]
  · linarith only [h2, h4]

/-! ## The two guesses -/

theorem sqrtLog_eq {p : Nat} (hp : 0 < p) : sqrtLog p = (lg (p <<< 32) - 128) * Real.log 2 := by
  have hp' : (0 : ℝ) < p := by exact_mod_cast hp
  have hlog2 : Real.log 2 ≠ 0 := (Real.log_pos (by norm_num)).ne'
  rw [Nat.shiftLeft_eq, lg_mul hp (Nat.two_pow_pos 32), lg_two_pow]
  unfold sqrtLog lg Real.logb
  rw [Real.log_div hp'.ne' (by norm_num), Real.log_pow]
  push_cast
  field_simp
  ring

/-- The scale of the logarithm is `log 2` in ticks. -/
theorem scale_near : |(LOG_SQRT_10001 : ℝ) / 2 ^ 64 * tickStep - Real.log 2| ≤ 4 / 10 ^ 10 := by
  obtain ⟨h1, h2⟩ := abs_le.1 tickStep_near
  have hlo := Real.log_two_gt_d9
  have hhi := Real.log_two_lt_d9
  unfold LOG_SQRT_10001
  push_cast
  norm_num at h1 h2 hlo hhi ⊢
  rw [abs_le]
  constructor
  · linarith only [h1, hhi]
  · linarith only [h2, hlo]

/-- The price range, in bits of the shifted price. -/
theorem shifted_bounds {p : Nat} (h : MIN_SQRT_RATIO ≤ p ∧ p < MAX_SQRT_RATIO) :
    1 ≤ p <<< 32 ∧ p <<< 32 < 2 ^ 256 ∧ (64 : ℝ) ≤ lg (p <<< 32) ∧ lg (p <<< 32) ≤ 192 + 1 := by
  have hlo : 2 ^ 32 ≤ p := Nat.le_trans (by decide) h.1
  have hhi : p < 2 ^ 161 := Nat.lt_trans h.2 (by decide +kernel)
  rw [Nat.shiftLeft_eq]
  have hge : 2 ^ 64 ≤ p * 2 ^ 32 := by
    calc 2 ^ 64 = 2 ^ 32 * 2 ^ 32 := by rw [← Nat.pow_add]
      _ ≤ p * 2 ^ 32 := Nat.mul_le_mul_right _ hlo
  have hlt : p * 2 ^ 32 < 2 ^ 193 := by
    calc p * 2 ^ 32 < 2 ^ 161 * 2 ^ 32 := Nat.mul_lt_mul_of_pos_right hhi (Nat.two_pow_pos 32)
      _ = 2 ^ 193 := by rw [← Nat.pow_add]
  have h1 := lg_le_lg (Nat.two_pow_pos 64) hge
  have h2 := lg_le_lg (Nat.lt_of_lt_of_le (Nat.two_pow_pos 64) hge) hlt.le
  rw [lg_two_pow] at h1 h2
  push_cast at h1 h2
  refine ⟨Nat.le_trans (Nat.one_le_two_pow) hge, Nat.lt_trans hlt (Nat.pow_lt_pow_right (by decide) (by decide)), h1, ?_⟩
  linarith only [h2]

/-- The logarithm of a price in ticks, as the inverse map computes it before the error bounds. -/
def scaledLog (p : Nat) : Int := log2 (p <<< 32) * LOG_SQRT_10001

/-- **The scaled logarithm**, as a price: never above it by more than `2e-8`, nor below it by more than `4.24e-5`. -/
theorem scaledLog_bounds {p : Nat} (h : MIN_SQRT_RATIO ≤ p ∧ p < MAX_SQRT_RATIO) :
    (scaledLog p : ℝ) / 2 ^ 128 * tickStep ≤ sqrtLog p + 3 / 10 ^ 8 ∧
      sqrtLog p - 4234 / 10 ^ 8 ≤ scaledLog p / 2 ^ 128 * tickStep := by
  obtain ⟨hpos, hlt, h64, h193⟩ := shifted_bounds h
  obtain ⟨h1, h2⟩ := log2_bounds hpos hlt
  have hp : 0 < p := Nat.lt_of_lt_of_le (by decide) h.1
  obtain ⟨h3, h4⟩ := abs_le.1 scale_near
  have hlo := Real.log_two_gt_d9
  have hhi := Real.log_two_lt_d9
  rw [sqrtLog_eq hp]
  generalize hy : (log2 (p <<< 32) : ℝ) / 2 ^ 64 = y at h1 h2
  generalize hρ : lg (p <<< 32) - 128 = ρ at h1 h2
  have hscaled : (scaledLog p : ℝ) / 2 ^ 128 * tickStep = y * (LOG_SQRT_10001 / 2 ^ 64 * tickStep) := by
    unfold scaledLog
    rw [← hy]
    push_cast
    ring
  have hdiff : |y * ((LOG_SQRT_10001 : ℝ) / 2 ^ 64 * tickStep - Real.log 2)| ≤ 66 * (4 / 10 ^ 10) := by
    rw [abs_mul]
    apply mul_le_mul _ scale_near (abs_nonneg _) (by norm_num)
    rw [abs_le]
    norm_num only at h2
    constructor
    · linarith only [h2, h64, hρ]
    · linarith only [h1, h193, hρ]
  obtain ⟨h5, h6⟩ := abs_le.1 hdiff
  have hsplit : y * (LOG_SQRT_10001 / 2 ^ 64 * tickStep) =
      y * Real.log 2 + y * (LOG_SQRT_10001 / 2 ^ 64 * tickStep - Real.log 2) := by ring
  have hlog2pos : 0 ≤ Real.log 2 := by linarith only [hlo]
  have hup : y * Real.log 2 ≤ ρ * Real.log 2 := mul_le_mul_of_nonneg_right h1 hlog2pos
  have hdown : ρ * Real.log 2 ≤ (y + 1 / 2 ^ 14 + 1 / 2 ^ 120) * Real.log 2 := mul_le_mul_of_nonneg_right h2 hlog2pos
  rw [hscaled, hsplit]
  norm_num only at h5 h6 hdown hhi ⊢
  constructor
  · linarith only [hup, h6]
  · linarith only [hdown, h5, hhi]

theorem shiftRight_bounds (v : Int) :
    ((v >>> (128 : Nat) : Int) : ℝ) * 2 ^ 128 ≤ v ∧ (v : ℝ) < ((v >>> (128 : Nat) : Int) + 1) * 2 ^ 128 := by
  rw [Int.shiftRight_eq_div_pow]
  have h1 : v / ((2 ^ 128 : Nat) : Int) * ((2 ^ 128 : Nat) : Int) ≤ v := Int.ediv_mul_le v (by decide)
  have h2 : v < (v / ((2 ^ 128 : Nat) : Int) + 1) * ((2 ^ 128 : Nat) : Int) := Int.lt_ediv_add_one_mul_self v (by decide)
  constructor
  · exact_mod_cast h1
  · exact_mod_cast h2

/-- The guesses of the inverse map. -/
def tickLow (p : Nat) : Int := (scaledLog p - TICK_LOW_ERROR) >>> (128 : Nat)
def tickHigh (p : Nat) : Int := (scaledLog p + TICK_HIGH_ERROR) >>> (128 : Nat)

/-- **The guesses are one apart at most.** -/
theorem tickHigh_le (p : Nat) : tickHigh p ≤ tickLow p + 1 := by
  unfold tickHigh tickLow TICK_LOW_ERROR TICK_HIGH_ERROR
  rw [Int.shiftRight_eq_div_pow, Int.shiftRight_eq_div_pow]
  norm_num
  omega

/-- The tick of a price. -/
structure IsTickOf (p : Nat) (tick : Int) : Prop where
  lo : MIN_TICK ≤ tick
  hi : tick < MAX_TICK
  below : sqrtRatio tick ≤ p
  above : p < sqrtRatio (tick + 1)

/-- **The tick of a price lies between the guesses.** -/
theorem IsTickOf.guessed {p : Nat} {tick : Int} (h : IsTickOf p tick) (hp : MIN_SQRT_RATIO ≤ p ∧ p < MAX_SQRT_RATIO) :
    tickLow p ≤ tick ∧ tick ≤ tickHigh p := by
  obtain ⟨hlo, hhi, hbelow, habove⟩ := h
  have hppos : 0 < p := Nat.lt_of_lt_of_le (by decide) hp.1
  obtain ⟨hpos, hlog⟩ := sqrtRatio_log (show MIN_TICK ≤ tick ∧ tick ≤ MAX_TICK by omega)
  obtain ⟨hpos', hlog'⟩ := sqrtRatio_log (show MIN_TICK ≤ tick + 1 ∧ tick + 1 ≤ MAX_TICK by omega)
  have hle : sqrtLog (sqrtRatio tick) ≤ sqrtLog p := not_lt.1 fun hc => absurd ((sqrtLog_lt hppos hpos).2 hc) (by omega)
  have hlt : sqrtLog p < sqrtLog (sqrtRatio (tick + 1)) := (sqrtLog_lt hppos hpos').1 habove
  obtain ⟨h1, -⟩ := abs_le.1 hlog
  obtain ⟨-, h2⟩ := abs_le.1 hlog'
  obtain ⟨h3, h4⟩ := scaledLog_bounds hp
  obtain ⟨hs1, hs2⟩ := tickStep_bounds
  have hs0 : 0 < tickStep := by linarith only [hs1]
  push_cast at h2
  constructor
  · obtain ⟨h5, -⟩ := shiftRight_bounds (scaledLog p - TICK_LOW_ERROR)
    have hmul : (tickLow p : ℝ) * tickStep ≤ (scaledLog p - TICK_LOW_ERROR : Int) / 2 ^ 128 * tickStep := by
      apply mul_le_mul_of_nonneg_right _ hs0.le
      rw [le_div_iff₀ (by norm_num)]
      exact h5
    have hreal : (tickLow p : ℝ) < tick + 1 := by
      apply lt_of_mul_lt_mul_right _ hs0.le
      unfold TICK_LOW_ERROR at hmul
      push_cast at hmul
      rw [sub_div, sub_mul] at hmul
      norm_num only at h2 h3 hs1 hmul
      linarith only [h2, h3, hs1, hmul, hlt]
    have hint : tickLow p < tick + 1 := by exact_mod_cast hreal
    omega
  · obtain ⟨-, h5⟩ := shiftRight_bounds (scaledLog p + TICK_HIGH_ERROR)
    have hmul : (scaledLog p + TICK_HIGH_ERROR : Int) / 2 ^ 128 * tickStep ≤ (tickHigh p + 1 : ℝ) * tickStep := by
      apply mul_le_mul_of_nonneg_right _ hs0.le
      rw [div_le_iff₀ (by norm_num)]
      exact h5.le
    have hreal : (tick : ℝ) < tickHigh p + 1 := by
      apply lt_of_mul_lt_mul_right _ hs0.le
      unfold TICK_HIGH_ERROR at hmul
      push_cast at hmul
      rw [add_div, add_mul] at hmul
      norm_num only at h1 h4 hs1 hmul
      linarith only [h1, h4, hs1, hmul, hle]
    have hint : tick < tickHigh p + 1 := by exact_mod_cast hreal
    omega

/-! ## The inverse -/

theorem sqrtRatio_min : sqrtRatio MIN_TICK = MIN_SQRT_RATIO := by decide +kernel

theorem sqrtRatio_max : sqrtRatio MAX_TICK = MAX_SQRT_RATIO := by decide +kernel

theorem exists_tick {p : Nat} (hp : MIN_SQRT_RATIO ≤ p ∧ p < MAX_SQRT_RATIO) : ∃ tick, IsTickOf p tick := by
  have hex : ∃ n : Nat, p < sqrtRatio (MIN_TICK + n) := by
    refine ⟨1774544, ?_⟩
    have hmax : MIN_TICK + (1774544 : Nat) = MAX_TICK := by decide
    rw [hmax, sqrtRatio_max]
    exact hp.2
  have hspec := Nat.find_spec hex
  have hmin := fun m => Nat.find_min hex (m := m)
  generalize Nat.find hex = n at hspec hmin
  have hn0 : n ≠ 0 := by
    rintro rfl
    rw [Nat.cast_zero, Int.add_zero, sqrtRatio_min] at hspec
    omega
  have hn : n ≤ 1774544 := by
    by_contra hc
    have hmax : MIN_TICK + (1774544 : Nat) = MAX_TICK := by decide
    exact hmin 1774544 (by omega) (by rw [hmax, sqrtRatio_max]; exact hp.2)
  have hbelow : sqrtRatio (MIN_TICK + (n - 1 : Nat)) ≤ p := not_lt.1 (hmin (n - 1) (by omega))
  have hnext : MIN_TICK + (n - 1 : Nat) + 1 = MIN_TICK + n := by omega
  refine ⟨MIN_TICK + (n - 1 : Nat), ?_, ?_, hbelow, by rw [hnext]; exact hspec⟩
  · omega
  · unfold MIN_TICK MAX_TICK
    omega

/-- **The inverse map finds the tick of a price.** -/
theorem getTickAtSqrtRatio_ok {p : Nat} {tick : Int} (hp : MIN_SQRT_RATIO ≤ p ∧ p < MAX_SQRT_RATIO) (ht : IsTickOf p tick) :
    getTickAtSqrtRatio p = .ok tick := by
  obtain ⟨hlow, hhigh⟩ := ht.guessed hp
  have hone := tickHigh_le p
  have hassert : assertSqrtRatio p = .ok () := by
    unfold assertSqrtRatio
    rw [refuseWhen_ok, not_or, not_lt, not_le]
    exact hp
  have hrun : getTickAtSqrtRatio p = if tickLow p = tickHigh p then .ok (tickLow p)
      else do
        let high ← getSqrtRatioAtTick (tickHigh p)
        return if high ≤ p then tickHigh p else tickLow p := by
    unfold getTickAtSqrtRatio
    rw [hassert]
    rfl
  rw [hrun]
  by_cases heq : tickLow p = tickHigh p
  · rw [if_pos heq]
    congr 1
    omega
  · rw [if_neg heq]
    have hrange : MIN_TICK ≤ tickHigh p ∧ tickHigh p ≤ MAX_TICK := by
      have := ht.lo
      have := ht.hi
      omega
    rw [getSqrtRatioAtTick_ok.2 ⟨hrange, rfl⟩]
    show Except.ok (if sqrtRatio (tickHigh p) ≤ p then tickHigh p else tickLow p) = _
    congr 1
    by_cases htick : tick = tickHigh p
    · rw [← htick, if_pos ht.below]
    · have hsucc : tickHigh p = tick + 1 := by omega
      have hnot : ¬ sqrtRatio (tickHigh p) ≤ p := by
        rw [hsucc]
        exact not_le.2 ht.above
      rw [if_neg hnot]
      omega

/-- A tick is below another just when its price is. -/
theorem sqrtRatio_le_iff {t t' : Int} (ht : MIN_TICK ≤ t ∧ t ≤ MAX_TICK) (ht' : MIN_TICK ≤ t' ∧ t' ≤ MAX_TICK) :
    sqrtRatio t ≤ sqrtRatio t' ↔ t ≤ t' := by
  constructor
  · intro h
    by_contra hc
    have := sqrtRatio_lt ht' ht (by omega)
    omega
  · intro h
    rcases h.lt_or_eq with h | rfl
    · exact (sqrtRatio_lt ht ht' h).le
    · exact le_refl _

/-- **Ticks and prices**: the inverse map returns, for every price of the range, the tick whose price is the greatest at most
it; so the two maps are a Galois connection, the forward map is strictly increasing, and the inverse undoes it. -/
theorem tick_inverts :
    (∀ p, MIN_SQRT_RATIO ≤ p → p < MAX_SQRT_RATIO → ∃ tick ratio above, getTickAtSqrtRatio p = .ok tick ∧
      MIN_TICK ≤ tick ∧ tick < MAX_TICK ∧ getSqrtRatioAtTick tick = .ok ratio ∧ getSqrtRatioAtTick (tick + 1) = .ok above ∧
      ratio ≤ p ∧ p < above) ∧
    (∀ p tick t ratio, MIN_SQRT_RATIO ≤ p → p < MAX_SQRT_RATIO → getTickAtSqrtRatio p = .ok tick →
      getSqrtRatioAtTick t = .ok ratio → (ratio ≤ p ↔ t ≤ tick)) ∧
    (∀ t t', MIN_TICK ≤ t → t < t' → t' ≤ MAX_TICK → ∃ ratio ratio', getSqrtRatioAtTick t = .ok ratio ∧
      getSqrtRatioAtTick t' = .ok ratio' ∧ ratio < ratio') ∧
    ∀ t, MIN_TICK ≤ t → t < MAX_TICK → ∃ ratio, getSqrtRatioAtTick t = .ok ratio ∧ getTickAtSqrtRatio ratio = .ok t := by
  refine ⟨fun p hlo hhi => ?_, fun p tick t ratio hlo hhi hp ht => ?_, fun t t' hlo hlt hhi => ?_, fun t hlo hhi => ?_⟩
  · obtain ⟨tick, ht⟩ := exists_tick ⟨hlo, hhi⟩
    have hmin := ht.lo
    have hmax := ht.hi
    exact ⟨tick, _, _, getTickAtSqrtRatio_ok ⟨hlo, hhi⟩ ht, hmin, hmax, getSqrtRatioAtTick_ok.2 ⟨by omega, rfl⟩,
      getSqrtRatioAtTick_ok.2 ⟨by omega, rfl⟩, ht.below, ht.above⟩
  · obtain ⟨tick', htick⟩ := exists_tick ⟨hlo, hhi⟩
    obtain rfl : tick' = tick := Except.ok.inj ((getTickAtSqrtRatio_ok ⟨hlo, hhi⟩ htick).symm.trans hp)
    obtain ⟨hrange, rfl⟩ := getSqrtRatioAtTick_ok.1 ht
    have hmin := htick.lo
    have hmax := htick.hi
    constructor
    · intro hle
      have hlt : sqrtRatio t < sqrtRatio (tick' + 1) := Nat.lt_of_le_of_lt hle htick.above
      by_contra hc
      have := (sqrtRatio_le_iff (show MIN_TICK ≤ tick' + 1 ∧ tick' + 1 ≤ MAX_TICK by omega) hrange).2 (by omega)
      omega
    · intro hle
      exact Nat.le_trans ((sqrtRatio_le_iff hrange (by omega)).2 hle) htick.below
  · exact ⟨_, _, getSqrtRatioAtTick_ok.2 ⟨by omega, rfl⟩, getSqrtRatioAtTick_ok.2 ⟨by omega, rfl⟩,
      sqrtRatio_lt (by omega) (by omega) hlt⟩
  · have hmin : MIN_SQRT_RATIO ≤ sqrtRatio t := by
      rw [← sqrtRatio_min]
      exact (sqrtRatio_le_iff (by decide) (by omega)).2 hlo
    have hmax : sqrtRatio t < MAX_SQRT_RATIO := by
      rw [← sqrtRatio_max]
      exact sqrtRatio_lt (by omega) (by decide) hhi
    exact ⟨_, getSqrtRatioAtTick_ok.2 ⟨by omega, rfl⟩, getTickAtSqrtRatio_ok ⟨hmin, hmax⟩
      ⟨hlo, hhi, le_refl _, sqrtRatio_lt (by omega) (by omega) (by omega)⟩⟩

end TickMath
end Atra
