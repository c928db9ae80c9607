import Mathlib.Analysis.Complex.ExponentialBounds
import Mathlib.Analysis.SpecialFunctions.Log.Base
import Mathlib.Data.Int.Bitwise
/-!
# BinaryLog — base-2 logarithms by scanning and squaring

The integer part of a logarithm is the most significant bit, found by a scan that halves the width it looks at
(`Scanned`).  The fraction comes bit by bit: squaring a mantissa doubles its logarithm, and whether the square overflows is
the next bit (`Refined`).  Every truncation loses less than `2 / 2^w` for a mantissa of `w` fraction bits, so `n` squarings
know the logarithm to within `1 / 2^n` and `n` such losses (`Refined.bounds`).
-/
namespace BinaryLog

/-! ## Setting bits -/

theorem nat_or_eq_add {a b k : Nat} (h : 2 ^ k ∣ a) (hb : b < 2 ^ k) : a ||| b = a + b := by
  obtain ⟨c, rfl⟩ := h
  exact (Nat.two_pow_add_eq_or_of_lt hb c).symm

theorem ldiff_ones {n b k : Nat} (hb : b < 2 ^ k) : Nat.ldiff (2 ^ k * n + (2 ^ k - 1)) b = 2 ^ k * n + (2 ^ k - (b + 1)) := by
  apply Nat.eq_of_testBit_eq
  intro j
  have hpos : 0 < 2 ^ k := Nat.two_pow_pos k
  rw [Nat.testBit_ldiff, Nat.testBit_two_pow_mul_add _ (by omega), Nat.testBit_two_pow_mul_add _ (by omega)]
  by_cases hj : j < k
  · rw [if_pos hj, if_pos hj, Nat.testBit_two_pow_sub_succ hb, Nat.testBit_two_pow_sub_one]
  · have hclear : b.testBit j = false :=
      Nat.testBit_lt_two_pow (Nat.lt_of_lt_of_le hb (Nat.pow_le_pow_right (by decide) (Nat.le_of_not_lt hj)))
    rw [if_neg hj, if_neg hj, hclear]
    exact Bool.and_true _

theorem lor_eq_add {z : Int} {b k : Nat} (hb : b < 2 ^ k) : Int.lor (z * 2 ^ k) b = z * 2 ^ k + b := by
  have hpos : 0 < 2 ^ k := Nat.two_pow_pos k
  cases z with
  | ofNat n =>
    have hz : (Int.ofNat n * 2 ^ k : Int) = ((2 ^ k * n : Nat) : Int) := by
      push_cast
      exact Int.mul_comm _ _
    rw [hz]
    show ((2 ^ k * n ||| b : Nat) : Int) = _
    rw [nat_or_eq_add (Nat.dvd_mul_right _ _) hb]
    rfl
  | negSucc n =>
    have hz : (Int.negSucc n * 2 ^ k : Int) = Int.negSucc (2 ^ k * n + (2 ^ k - 1)) := by
      rw [Int.negSucc_eq, Int.negSucc_eq]
      push_cast [Nat.one_le_two_pow]
      ring
    rw [hz]
    show Int.negSucc (Nat.ldiff (2 ^ k * n + (2 ^ k - 1)) b) = _
    rw [ldiff_ones hb, Int.negSucc_eq, Int.negSucc_eq]
    have h1 : b + 1 ≤ 2 ^ k := hb
    push_cast [h1, Nat.one_le_two_pow]
    ring

/-! ## Logarithms of naturals -/

/-- The base-2 logarithm of a natural. -/
noncomputable def lg (n : Nat) : ℝ := Real.logb (2 : Nat) n

theorem lg_eq (n : Nat) : lg n = Real.logb 2 n := by
  unfold lg
  rw [Nat.cast_ofNat]

theorem lg_two_pow (k : Nat) : lg (2 ^ k) = k := by
  rw [lg_eq]
  rw [Nat.cast_pow, Nat.cast_ofNat, Real.logb_pow, Real.logb_self_eq_one (by norm_num), mul_one]

theorem lg_mul {a b : Nat} (ha : 0 < a) (hb : 0 < b) : lg (a * b) = lg a + lg b := by
  unfold lg
  rw [Nat.cast_mul, Real.logb_mul (by positivity) (by positivity)]

theorem lg_le_lg {a b : Nat} (ha : 0 < a) (h : a ≤ b) : lg a ≤ lg b := by
  rw [lg_eq, lg_eq]
  exact Real.logb_le_logb_of_le (by norm_num) (by exact_mod_cast ha) (by exact_mod_cast h)

/-- The next number is no more than `2 / 2^w` further, from `2^w` on. -/
theorem lg_succ_le {r w : Nat} (h : 2 ^ w ≤ r) : lg (r + 1) ≤ lg r + 2 / 2 ^ w := by
  have hr : (0 : ℝ) < r := by exact_mod_cast Nat.lt_of_lt_of_le (Nat.two_pow_pos w) h
  have hw : (2 : ℝ) ^ w ≤ r := by exact_mod_cast h
  have hlog2 : (1 : ℝ) / 2 ≤ Real.log 2 := by
    have := Real.log_two_gt_d9
    linarith
  have hratio : Real.log ((r + 1) / r) ≤ 1 / r := by
    have hle := Real.log_le_sub_one_of_pos (show (0 : ℝ) < (r + 1) / r by positivity)
    have heq : (r + 1) / r - 1 = 1 / (r : ℝ) := by
      field_simp
      ring
    rwa [heq] at hle
  have hsplit : lg (r + 1) = lg r + Real.log ((r + 1) / r) / Real.log 2 := by
    rw [lg_eq, lg_eq]
    unfold Real.logb
    rw [Real.log_div (by positivity) (by positivity)]
    push_cast
    ring
  have hstep : Real.log ((r + 1) / r) / Real.log 2 ≤ 2 / 2 ^ w := by
    calc Real.log ((r + 1) / r) / Real.log 2 ≤ (1 / r) / (1 / 2) := by
          apply div_le_div₀ (by positivity) hratio (by norm_num) hlog2
      _ = 2 / r := by ring
      _ ≤ 2 / 2 ^ w := by gcongr
  rw [hsplit]
  linarith

/-- A floored quotient by a power of two is that power of two away, up to the truncation. -/
theorem lg_div {a k w : Nat} (h : 2 ^ w ≤ a / 2 ^ k) : lg (a / 2 ^ k) ≤ lg a - k ∧ lg a - k ≤ lg (a / 2 ^ k) + 2 / 2 ^ w := by
  have hk : 0 < 2 ^ k := Nat.two_pow_pos k
  have hq : 0 < a / 2 ^ k := Nat.lt_of_lt_of_le (Nat.two_pow_pos w) h
  have hlo : a / 2 ^ k * 2 ^ k ≤ a := Nat.div_mul_le_self a _
  have hhi : a ≤ (a / 2 ^ k + 1) * 2 ^ k := by
    have := Nat.lt_div_mul_add hk (a := a)
    rw [Nat.add_mul, Nat.one_mul]
    omega
  have h1 := lg_le_lg (Nat.mul_pos hq hk) hlo
  have h2 := lg_le_lg (Nat.lt_of_lt_of_le (Nat.mul_pos hq hk) hlo) hhi
  rw [lg_mul hq hk, lg_two_pow] at h1
  rw [lg_mul (Nat.succ_pos _) hk, lg_two_pow] at h2
  have h3 := lg_succ_le h
  exact ⟨by linarith, by linarith⟩

/-! ## The most significant bit -/

/-- A scan that still has `2^k` bits to look at: what is left of the number, and the position found so far. -/
structure Scanned (ratio k scan msb : Nat) : Prop where
  value : ratio / 2 ^ msb = scan
  pos : 1 ≤ scan
  small : scan < 2 ^ 2 ^ k
  aligned : 2 ^ k ∣ msb

/-- Halving the width: the upper half is taken where it is not empty. -/
theorem Scanned.step {ratio k scan msb : Nat} (h : Scanned ratio (k + 1) scan msb) :
    Scanned ratio k (scan >>> ((if 2 ^ 2 ^ k - 1 < scan then 1 else 0) <<< k))
      (msb ||| (if 2 ^ 2 ^ k - 1 < scan then 1 else 0) <<< k) := by
  have hpos : 0 < 2 ^ 2 ^ k := Nat.two_pow_pos _
  by_cases hs : 2 ^ 2 ^ k - 1 < scan
  · rw [if_pos hs, Nat.one_shiftLeft, Nat.shiftRight_eq_div_pow,
      nat_or_eq_add h.aligned (Nat.pow_lt_pow_right (by decide) (Nat.lt_succ_self k))]
    refine ⟨?_, ?_, ?_, ?_⟩
    · rw [Nat.pow_add, ← Nat.div_div_eq_div_mul, h.value]
    · exact (Nat.one_le_div_iff hpos).2 (by omega)
    · rw [Nat.div_lt_iff_lt_mul hpos, ← Nat.pow_add, ← Nat.two_mul, ← Nat.pow_succ']
      exact h.small
    · exact Nat.dvd_add ((Nat.pow_dvd_pow 2 (Nat.le_succ k)).trans h.aligned) (Nat.dvd_refl _)
  · rw [if_neg hs, Nat.zero_shiftLeft, Nat.shiftRight_zero, Nat.or_zero]
    exact ⟨h.value, h.pos, by omega, (Nat.pow_dvd_pow 2 (Nat.le_succ k)).trans h.aligned⟩

theorem scanned_zero {ratio k : Nat} (hpos : 1 ≤ ratio) (hlt : ratio < 2 ^ 2 ^ k) : Scanned ratio k ratio 0 :=
  ⟨by rw [Nat.pow_zero, Nat.div_one], hpos, hlt, Nat.dvd_zero _⟩

/-- **The position a finished scan has found** is that of the most significant bit. -/
theorem Scanned.bounds {ratio scan msb : Nat} (h : Scanned ratio 0 scan msb) :
    2 ^ msb ≤ ratio ∧ ratio < 2 ^ (msb + 1) := by
  have hone : ratio / 2 ^ msb = 1 := by
    have := h.small
    have := h.pos
    have hv := h.value
    omega
  have hpos : 0 < 2 ^ msb := Nat.two_pow_pos msb
  constructor
  · exact (Nat.one_le_div_iff hpos).1 (le_of_eq hone.symm)
  · rw [Nat.pow_succ', ← Nat.div_lt_iff_lt_mul hpos]
    omega

/-! ## The bits of the fraction -/

theorem square_step {w r : Nat} (hlo : 2 ^ w ≤ r) (hhi : r < 2 ^ (w + 1)) :
    let squared := (r * r) >>> w
    let bit := squared >>> (w + 1)
    bit < 2 ∧ 2 ^ w ≤ squared >>> bit ∧ squared >>> bit < 2 ^ (w + 1) ∧
      lg (squared >>> bit) + bit ≤ 2 * lg r - w ∧ 2 * lg r - w ≤ lg (squared >>> bit) + bit + 2 / 2 ^ w := by
  intro squared bit
  have hw : 0 < 2 ^ w := Nat.two_pow_pos w
  have hsq : squared = r * r / 2 ^ w := Nat.shiftRight_eq_div_pow _ _
  have hbit : bit = squared / 2 ^ (w + 1) := Nat.shiftRight_eq_div_pow _ _
  have hr : 0 < r := Nat.lt_of_lt_of_le hw hlo
  have hslo : 2 ^ w ≤ squared := by
    rw [hsq, Nat.le_div_iff_mul_le hw]
    exact Nat.mul_le_mul hlo hlo
  have hshi : squared < 2 ^ (w + 2) := by
    rw [hsq, Nat.div_lt_iff_lt_mul hw, ← Nat.pow_add]
    calc r * r < 2 ^ (w + 1) * 2 ^ (w + 1) := Nat.mul_lt_mul'' hhi hhi
      _ = 2 ^ (w + 2 + w) := by rw [← Nat.pow_add]; congr 1; omega
  have hbit2 : bit < 2 := by
    rw [hbit, Nat.div_lt_iff_lt_mul (Nat.two_pow_pos _), ← Nat.pow_succ']
    exact hshi
  have hnext : squared >>> bit = r * r / 2 ^ (w + bit) := by
    rw [Nat.shiftRight_eq_div_pow, hsq, Nat.div_div_eq_div_mul, ← Nat.pow_add]
  have hrange : 2 ^ w ≤ squared >>> bit ∧ squared >>> bit < 2 ^ (w + 1) := by
    rw [Nat.shiftRight_eq_div_pow]
    rcases Nat.lt_or_ge squared (2 ^ (w + 1)) with hlt | hge
    · have hz : bit = 0 := by
        rw [hbit]
        exact Nat.div_eq_of_lt hlt
      rw [hz, Nat.pow_zero, Nat.div_one]
      exact ⟨hslo, hlt⟩
    · have ho : bit = 1 := by
        have : 1 ≤ bit := by
          rw [hbit]
          exact (Nat.one_le_div_iff (Nat.two_pow_pos _)).2 hge
        omega
      rw [ho, Nat.pow_one]
      rw [Nat.pow_succ] at hge
      rw [Nat.pow_succ, Nat.pow_succ] at hshi
      rw [Nat.pow_succ]
      omega
  obtain ⟨h1, h2⟩ := lg_div (show 2 ^ w ≤ r * r / 2 ^ (w + bit) by rw [← hnext]; exact hrange.1)
  rw [lg_mul hr hr] at h1 h2
  push_cast at h1 h2
  rw [hnext]
  exact ⟨hbit2, by rw [← hnext]; exact hrange.1, by rw [← hnext]; exact hrange.2, by linarith, by linarith⟩

/-- After `n` squarings of a mantissa of `w` fraction bits with fractional logarithm `y`: the mantissa `r`, and the `n` bits
found as a number. -/
structure Refined (w : Nat) (y : ℝ) (n r bits : Nat) : Prop where
  lo : 2 ^ w ≤ r
  hi : r < 2 ^ (w + 1)
  few : bits < 2 ^ n
  lower : (bits + (lg r - w)) / 2 ^ n ≤ y
  upper : y ≤ (bits + (lg r - w)) / 2 ^ n + n * (2 / 2 ^ w)

theorem refined_zero {w r : Nat} (hlo : 2 ^ w ≤ r) (hhi : r < 2 ^ (w + 1)) : Refined w (lg r - w) 0 r 0 :=
  ⟨hlo, hhi, by decide, by simp, by simp⟩

/-- **A squaring finds the next bit.** -/
theorem Refined.step {w n r bits : Nat} {y : ℝ} (h : Refined w y n r bits) :
    let squared := (r * r) >>> w
    let bit := squared >>> (w + 1)
    Refined w y (n + 1) (squared >>> bit) (2 * bits + bit) := by
  intro squared bit
  obtain ⟨hbit, hlo, hhi, hlower, hupper⟩ := square_step h.lo h.hi
  have hn : (0 : ℝ) < 2 ^ n := by positivity
  have hw : (0 : ℝ) ≤ 2 / 2 ^ w := by positivity
  have hle : (((2 * bits + bit : Nat) : ℝ) + (lg (squared >>> bit) - w)) / 2 ^ (n + 1) ≤ (bits + (lg r - w)) / 2 ^ n := by
    rw [pow_succ, div_le_div_iff₀ (by positivity) hn]
    push_cast
    have : (2 * bits + bit + (lg (squared >>> bit) - w)) * 2 ^ n ≤ (bits + (lg r - w)) * 2 * 2 ^ n := by
      apply mul_le_mul_of_nonneg_right _ hn.le
      linarith
    linarith
  have hge : (bits + (lg r - w)) / 2 ^ n ≤
      (((2 * bits + bit : Nat) : ℝ) + (lg (squared >>> bit) - w)) / 2 ^ (n + 1) + 2 / 2 ^ w := by
    have hhalf : (bits + (lg r - w)) / 2 ^ n ≤
        (((2 * bits + bit : Nat) : ℝ) + (lg (squared >>> bit) - w) + 2 / 2 ^ w) / 2 ^ (n + 1) := by
      rw [pow_succ, div_le_div_iff₀ hn (by positivity)]
      push_cast
      have : (bits + (lg r - w)) * 2 * 2 ^ n ≤ (2 * bits + bit + (lg (squared >>> bit) - w) + 2 / 2 ^ w) * 2 ^ n := by
        apply mul_le_mul_of_nonneg_right _ hn.le
        linarith
      linarith
    have hloss : 2 / 2 ^ w / 2 ^ (n + 1) ≤ (2 : ℝ) / 2 ^ w :=
      div_le_self hw (one_le_pow₀ (by norm_num))
    rw [add_div _ (2 / 2 ^ w : ℝ)] at hhalf
    linarith
  refine ⟨hlo, hhi, ?_, hle.trans h.lower, ?_⟩
  · have hfew := h.few
    rw [Nat.pow_succ]
    have : bit < 2 := hbit
    omega
  · have hu := h.upper
    rw [Nat.cast_succ, add_mul, one_mul]
    linarith

/-- **What `n` bits tell of a logarithm.** -/
theorem Refined.bounds {w n r bits : Nat} {y : ℝ} (h : Refined w y n r bits) :
    (bits : ℝ) / 2 ^ n ≤ y ∧ y ≤ (bits + 1) / 2 ^ n + n * (2 / 2 ^ w) := by
  have hlg0 : (w : ℝ) ≤ lg r := by
    rw [← lg_two_pow w]
    exact lg_le_lg (Nat.two_pow_pos w) h.lo
  have hlg1 : lg r ≤ w + 1 := by
    have := lg_le_lg (Nat.lt_of_lt_of_le (Nat.two_pow_pos w) h.lo) h.hi.le
    rw [lg_two_pow] at this
    push_cast at this
    exact this
  have hn : (0 : ℝ) < 2 ^ n := by positivity
  constructor
  · refine le_trans ?_ h.lower
    gcongr
    linarith
  · refine h.upper.trans ?_
    gcongr
    linarith

end BinaryLog
