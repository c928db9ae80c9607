import Atra.RangeBooks
import Atra.RangePlan
import Atra.TickInversion
/-!
# PlanFunding — a plan never asks for more than it was given

The liquidity of a plan is a floored quotient of the capital, and its amounts are floored products of that liquidity: going
there and back cannot gain (`amount0_returned`, `amount1_returned`), in each of the three regions of the price.  So the last
guard of `planRange` never fires, and a plan with anything in it is one the ledger opens.
-/
namespace Atra

namespace TickMath

open Money

/-! ## What the price arithmetic throws -/

theorem assertTick_throws (tick : Int) (field : String) : Throws .schemaInvalid (assertTick tick field) := .refuseWhen _

theorem assertSqrtRatio_throws (p : Nat) : Throws .schemaInvalid (assertSqrtRatio p) := .refuseWhen _

theorem assertRange_throws (lower upper : Int) : Throws .schemaInvalid (assertRange lower upper) :=
  (assertTick_throws _ _).bind fun _ => (assertTick_throws _ _).bind fun _ => .refuseWhen _

theorem getSqrtRatioAtTick_throws (tick : Int) : Throws .schemaInvalid (getSqrtRatioAtTick tick) :=
  (assertTick_throws _ _).bind fun _ => .pure _

theorem getTickAtSqrtRatio_throws (p : Nat) : Throws .schemaInvalid (getTickAtSqrtRatio p) := by
  refine (assertSqrtRatio_throws p).bind fun _ => .ite (.pure _) ?_
  exact (getSqrtRatioAtTick_throws _).bind fun _ => .pure _

theorem isTickInRange_throws (tick lower upper : Int) : Throws .schemaInvalid (isTickInRange tick lower upper) :=
  (assertTick_throws _ _).bind fun _ => (assertTick_throws _ _).bind fun _ => (assertTick_throws _ _).bind fun _ => .pure _

theorem getAmount0ForLiquidity_throws (a b : Nat) (liquidity : Int) :
    Throws .schemaInvalid (getAmount0ForLiquidity a b liquidity) :=
  (floorDiv_throws _ _).bind fun _ => floorDiv_throws _ _

theorem getAmount1ForLiquidity_throws (a b : Nat) (liquidity : Int) :
    Throws .schemaInvalid (getAmount1ForLiquidity a b liquidity) := floorDiv_throws _ _

theorem getAmountsForLiquidity_throws (p : Nat) (lower upper liquidity : Int) :
    Throws .schemaInvalid (getAmountsForLiquidity p lower upper liquidity) := by
  have hinside (a b : Nat) : Throws .schemaInvalid (amountsInside p a b liquidity) :=
    (getAmount0ForLiquidity_throws _ _ _).bind fun _ => (getAmount1ForLiquidity_throws _ _ _).bind fun _ => .pure _
  have hregions (a b : Nat) : Throws .schemaInvalid (amountsAt p a b liquidity) :=
    .ite ((getAmount0ForLiquidity_throws _ _ _).map _)
      (.ite (hinside a b) ((getAmount1ForLiquidity_throws _ _ _).map _))
  refine (assertSqrtRatio_throws p).bind fun _ => (assertRange_throws _ _).bind fun _ => (Throws.refuseWhen _).bind fun _ => ?_
  refine .ite (.pure _) ?_
  exact (getSqrtRatioAtTick_throws _).bind fun _ => (getSqrtRatioAtTick_throws _).bind fun _ => hregions _ _

/-! ## What a liquidity is made of -/

theorem assertSqrtRatio_ok {p : Nat} {u : Unit} :
    assertSqrtRatio p = .ok u ↔ MIN_SQRT_RATIO ≤ p ∧ p < MAX_SQRT_RATIO := by
  unfold assertSqrtRatio
  rw [refuseWhen_ok, not_or, not_lt, not_le]

theorem assertRange_ok {lower upper : Int} {u : Unit} :
    assertRange lower upper = .ok u ↔ MIN_TICK ≤ lower ∧ lower < upper ∧ upper ≤ MAX_TICK := by
  unfold assertRange assertTick
  simp only [bind_ok, refuseWhen_ok]
  constructor
  · rintro ⟨-, hl, -, hu, hlt⟩
    exact ⟨by omega, by omega, by omega⟩
  · rintro ⟨hl, hlt, hu⟩
    exact ⟨(), by omega, (), by omega, by omega⟩

theorem getAmount0ForLiquidity_eq {a b : Nat} {liquidity : Int} (ha : 0 < a) (hab : a < b) (hl : 0 ≤ liquidity) :
    getAmount0ForLiquidity a b liquidity =
      .ok (Rounding.down (Rounding.down (liquidity * Q96 * (b - a)) b) a) := by
  have hmin : min a b = a := Nat.min_eq_left hab.le
  have hmax : max a b = b := Nat.max_eq_right hab.le
  have hshift : liquidity <<< (96 : Nat) = liquidity * Q96 := Int.shiftLeft_eq liquidity 96
  have hspan : (0 : Int) ≤ b - a := by omega
  have hprod : 0 ≤ liquidity * Q96 * (b - a : Int) := Int.mul_nonneg (Int.mul_nonneg hl (by omega)) hspan
  unfold getAmount0ForLiquidity
  rw [hmin, hmax, hshift, bind_ok]
  refine ⟨_, floorDiv_eq (by omega) hprod, ?_⟩
  exact floorDiv_eq (by omega) (Rounding.down_nonneg (by omega) hprod)

theorem getAmount1ForLiquidity_eq {a b : Nat} {liquidity : Int} (hab : a < b) (hl : 0 ≤ liquidity) :
    getAmount1ForLiquidity a b liquidity = .ok (Rounding.down (liquidity * (b - a)) Q96) := by
  have hmin : min a b = a := Nat.min_eq_left hab.le
  have hmax : max a b = b := Nat.max_eq_right hab.le
  have hspan : (0 : Int) ≤ b - a := by omega
  unfold getAmount1ForLiquidity
  rw [hmin, hmax]
  exact floorDiv_eq (by decide) (Int.mul_nonneg hl hspan)

/-- The three regions of a price, each with what it is made of. -/
theorem amountsAt_ok {p lower upper : Nat} {liquidity : Int} {used : PositionAmounts} (hlower : 0 < lower)
    (hlt : lower < upper) (hl : 0 ≤ liquidity) (h : amountsAt p lower upper liquidity = .ok used) :
    (p ≤ lower ∧ used = ⟨Rounding.down (Rounding.down (liquidity * Q96 * (upper - lower)) upper) lower, 0⟩) ∨
    (lower < p ∧ p < upper ∧ used =
      ⟨Rounding.down (Rounding.down (liquidity * Q96 * (upper - p)) upper) p, Rounding.down (liquidity * (p - lower)) Q96⟩) ∨
    (upper ≤ p ∧ used = ⟨0, Rounding.down (liquidity * (upper - lower)) Q96⟩) := by
  unfold amountsAt at h
  by_cases hbelow : p ≤ lower
  · rw [if_pos hbelow, getAmount0ForLiquidity_eq hlower hlt hl] at h
    exact .inl ⟨hbelow, (Except.ok.inj h).symm⟩
  · rw [if_neg hbelow] at h
    by_cases habove : p < upper
    · unfold amountsInside at h
      rw [if_pos habove, getAmount0ForLiquidity_eq (by omega) habove hl, getAmount1ForLiquidity_eq (by omega) hl] at h
      exact .inr (.inl ⟨by omega, habove, (Except.ok.inj h).symm⟩)
    · rw [if_neg habove, getAmount1ForLiquidity_eq hlt hl] at h
      exact .inr (.inr ⟨by omega, (Except.ok.inj h).symm⟩)

end TickMath

namespace RangePlan

open Money TickMath

/-! ## What the solver throws -/

theorem assertAmount_throws (amount : Int) (field : String) : Throws .schemaInvalid (assertAmount amount field) :=
  .refuseWhen _

theorem assertTickSpacing_throws (spacing : Int) : Throws .schemaInvalid (assertTickSpacing spacing) :=
  (Throws.refuseWhen _).bind fun _ => .pure _

theorem assertPositiveSpan_throws (low high : Nat) : Throws .schemaInvalid (assertPositiveSpan low high) :=
  (Throws.refuseWhen _).bind fun _ => .refuseWhen _

theorem isUsableTick_throws (tick spacing : Int) : Throws .schemaInvalid (isUsableTick tick spacing) :=
  (assertTickSpacing_throws _).bind fun _ => .pure _

theorem getLiquidityForAmount0_throws (a b : Nat) (amount : Int) :
    Throws .schemaInvalid (getLiquidityForAmount0 a b amount) :=
  (assertPositiveSpan_throws _ _).bind fun _ => (assertAmount_throws _ _).bind fun _ =>
    (floorDiv_throws _ _).bind fun _ => floorDiv_throws _ _

theorem getLiquidityForAmount1_throws (a b : Nat) (amount : Int) :
    Throws .schemaInvalid (getLiquidityForAmount1 a b amount) :=
  (assertPositiveSpan_throws _ _).bind fun _ => (assertAmount_throws _ _).bind fun _ => floorDiv_throws _ _

theorem liquidityAt_throws (p lower upper : Nat) (amount0 amount1 : Int) :
    Throws .schemaInvalid (liquidityAt p lower upper amount0 amount1) := by
  refine .ite (getLiquidityForAmount0_throws _ _ _) (.ite ?_ (getLiquidityForAmount1_throws _ _ _))
  exact (getLiquidityForAmount0_throws _ _ _).bind fun _ => (getLiquidityForAmount1_throws _ _ _).bind fun _ => .pure _

theorem maxLiquidityForAmounts_throws (p : Nat) (lower upper amount0 amount1 : Int) :
    Throws .schemaInvalid (maxLiquidityForAmounts p lower upper amount0 amount1) :=
  (assertSqrtRatio_throws _).bind fun _ => (assertRange_throws _ _).bind fun _ => (assertAmount_throws _ _).bind fun _ =>
    (assertAmount_throws _ _).bind fun _ => (getSqrtRatioAtTick_throws _).bind fun _ =>
      (getSqrtRatioAtTick_throws _).bind fun _ => (liquidityAt_throws _ _ _ _ _).bind fun _ =>
        (Throws.refuseWhen _).bind fun _ => .pure _

theorem maxLiquidityPerTick_throws (spacing : Int) : Throws .schemaInvalid (maxLiquidityPerTick spacing) :=
  (assertTickSpacing_throws _).bind fun _ => floorDiv_throws _ _

theorem rangeStatus_throws (tick lower upper : Int) : Throws .schemaInvalid (rangeStatus tick lower upper) :=
  (assertTick_throws _ _).bind fun _ => (assertRange_throws _ _).bind fun _ => (isTickInRange_throws _ _ _).bind fun _ =>
    (ceilDiv_throws _ _).bind fun _ => .pure _

theorem minimumAmounts_throws (amounts : PositionAmounts) (slippageBps : Int) :
    Throws .schemaInvalid (minimumAmounts amounts slippageBps) :=
  (assertAmount_throws _ _).bind fun _ => (assertAmount_throws _ _).bind fun _ => (Throws.refuseWhen _).bind fun _ =>
    (ceilDiv_throws _ _).bind fun _ => (ceilDiv_throws _ _).bind fun _ => .pure _

theorem planChecks_throws (request : RangePlanRequest) : Throws .schemaInvalid (planChecks request) :=
  (assertSqrtRatio_throws _).bind fun _ => (assertRange_throws _ _).bind fun _ => (assertAmount_throws _ _).bind fun _ =>
    (assertAmount_throws _ _).bind fun _ => (isUsableTick_throws _ _).bind fun _ => (isUsableTick_throws _ _).bind fun _ =>
      (Throws.refuseWhen _).bind fun _ => .refuseWhen _

/-! ## There and back

`low` and `high` are the sqrt prices of a span. -/

/-- **The token0 of the liquidity an amount of token0 buys is at most that amount.** -/
theorem amount0_returned {low high amount liquidity : Int} (hlow : 0 < low) (hlt : low < high) (ha : 0 ≤ amount)
    (hl : liquidity ≤ Rounding.down (amount * Rounding.down (low * high) Q96) (high - low)) :
    Rounding.down (Rounding.down (liquidity * Q96 * (high - low)) high) low ≤ amount := by
  have hq : (0 : Int) < Q96 := by decide
  have hbought : liquidity * (high - low) ≤ amount * Rounding.down (low * high) Q96 :=
    (Rounding.le_down_iff (by omega)).1 hl
  have hproduct : liquidity * Q96 * (high - low) ≤ amount * low * high := by
    calc liquidity * Q96 * (high - low)
        = liquidity * (high - low) * Q96 := Int.mul_right_comm _ _ _
      _ ≤ amount * Rounding.down (low * high) Q96 * Q96 := Int.mul_le_mul_of_nonneg_right hbought hq.le
      _ = amount * (Rounding.down (low * high) Q96 * Q96) := Int.mul_assoc _ _ _
      _ ≤ amount * (low * high) := Int.mul_le_mul_of_nonneg_left (Rounding.down_mul_le _ hq) ha
      _ = amount * low * high := (Int.mul_assoc _ _ _).symm
  have hscaled : Rounding.down (liquidity * Q96 * (high - low)) high ≤ amount * low := by
    rw [← Rounding.down_mul_cancel (amount * low) (show 0 < high by omega)]
    exact Rounding.down_mono (by omega) hproduct
  rw [← Rounding.down_mul_cancel amount hlow]
  exact Rounding.down_mono hlow hscaled

/-- **The token1 of the liquidity an amount of token1 buys is at most that amount.** -/
theorem amount1_returned {low high amount liquidity : Int} (hlt : low < high)
    (hl : liquidity ≤ Rounding.down (amount * Q96) (high - low)) :
    Rounding.down (liquidity * (high - low)) Q96 ≤ amount := by
  have hq : (0 : Int) < Q96 := by decide
  have hbought : liquidity * (high - low) ≤ amount * Q96 := (Rounding.le_down_iff (by omega)).1 hl
  rw [← Rounding.down_mul_cancel amount hq]
  exact Rounding.down_mono hq hbought

/-! ## What the solver returns -/

theorem assertAmount_ok {amount : Int} {field : String} {u : Unit} : assertAmount amount field = .ok u ↔ 0 ≤ amount := by
  unfold assertAmount
  rw [refuseWhen_ok, not_lt]

theorem getLiquidityForAmount0_ok {a b : Nat} {amount liquidity : Int} (hab : a < b)
    (h : getLiquidityForAmount0 a b amount = .ok liquidity) :
    0 ≤ amount ∧ liquidity = Rounding.down (amount * Rounding.down (a * b) Q96) (b - a) := by
  have hmin : min a b = a := Nat.min_eq_left hab.le
  have hmax : max a b = b := Nat.max_eq_right hab.le
  have hprod : 0 ≤ (a : Int) * b := Int.mul_nonneg (by omega) (by omega)
  have hq : (0 : Int) < Q96 := by decide
  unfold getLiquidityForAmount0 assertPositiveSpan at h
  simp only [hmin, hmax, bind_ok, refuseWhen_ok, assertAmount_ok, floorDiv_eq hq hprod] at h
  obtain ⟨_, -, _, ha, _, hi, h⟩ := h
  obtain rfl := Except.ok.inj hi
  rw [floorDiv_eq (by omega) (Int.mul_nonneg ha (Rounding.down_nonneg hq hprod))] at h
  exact ⟨ha, (Except.ok.inj h).symm⟩

theorem getLiquidityForAmount1_ok {a b : Nat} {amount liquidity : Int} (hab : a < b)
    (h : getLiquidityForAmount1 a b amount = .ok liquidity) :
    0 ≤ amount ∧ liquidity = Rounding.down (amount * Q96) (b - a) := by
  have hmin : min a b = a := Nat.min_eq_left hab.le
  have hmax : max a b = b := Nat.max_eq_right hab.le
  have hq : (0 : Int) < Q96 := by decide
  unfold getLiquidityForAmount1 assertPositiveSpan at h
  simp only [hmin, hmax, bind_ok, refuseWhen_ok, assertAmount_ok] at h
  obtain ⟨_, -, _, ha, h⟩ := h
  rw [floorDiv_eq (by omega) (Int.mul_nonneg ha hq.le)] at h
  exact ⟨ha, (Except.ok.inj h).symm⟩

/-- What some capital buys in the region of the price, which is never negative and never more than either side buys. -/
theorem liquidityAt_ok {p lower upper : Nat} {amount0 amount1 liquidity : Int} (hlt : lower < upper)
    (h : liquidityAt p lower upper amount0 amount1 = .ok liquidity) : 0 ≤ liquidity ∧
    (p ≤ lower → liquidity ≤ Rounding.down (amount0 * Rounding.down (lower * upper) Q96) (upper - lower)) ∧
    (lower < p → p < upper → liquidity ≤ Rounding.down (amount0 * Rounding.down (p * upper) Q96) (upper - p) ∧
      liquidity ≤ Rounding.down (amount1 * Q96) (p - lower)) ∧
    (lower < p → upper ≤ p → liquidity ≤ Rounding.down (amount1 * Q96) (upper - lower)) := by
  have hq : (0 : Int) < Q96 := by decide
  have hbuys0 {a b : Nat} {amount : Int} (hab : a < b) (ha : 0 ≤ amount) :
      0 ≤ Rounding.down (amount * Rounding.down ((a : Int) * b) Q96) (b - a) :=
    Rounding.down_nonneg (by omega) (Int.mul_nonneg ha (Rounding.down_nonneg hq (Int.mul_nonneg (by omega) (by omega))))
  have hbuys1 {a b : Nat} {amount : Int} (hab : a < b) (ha : 0 ≤ amount) :
      0 ≤ Rounding.down (amount * Q96) ((b : Int) - a) := Rounding.down_nonneg (by omega) (Int.mul_nonneg ha hq.le)
  unfold liquidityAt at h
  by_cases hbelow : p ≤ lower
  · rw [if_pos hbelow] at h
    obtain ⟨ha, rfl⟩ := getLiquidityForAmount0_ok hlt h
    exact ⟨hbuys0 hlt ha, fun _ => le_rfl, fun _ => by omega, fun _ => by omega⟩
  · rw [if_neg hbelow] at h
    by_cases habove : p < upper
    · rw [if_pos habove] at h
      unfold liquidityInside at h
      simp only [bind_ok, pure_ok] at h
      obtain ⟨l0, h0, l1, h1, rfl⟩ := h
      obtain ⟨ha0, rfl⟩ := getLiquidityForAmount0_ok habove h0
      obtain ⟨ha1, rfl⟩ := getLiquidityForAmount1_ok (show lower < p by omega) h1
      have hn0 := hbuys0 habove ha0
      have hn1 := hbuys1 (show lower < p by omega) ha1
      refine ⟨?_, fun _ => by omega, fun _ _ => ?_, fun _ => by omega⟩
      · split <;> assumption
      · split
        · rename_i hs
          exact ⟨le_rfl, hs.le⟩
        · rename_i hs
          exact ⟨not_lt.1 hs, le_rfl⟩
    · rw [if_neg habove] at h
      obtain ⟨ha, rfl⟩ := getLiquidityForAmount1_ok hlt h
      exact ⟨hbuys1 hlt ha, fun _ => by omega, fun _ => by omega, fun _ _ => le_rfl⟩

theorem sqrtRatio_range {lower upper : Int} (h : MIN_TICK ≤ lower ∧ lower < upper ∧ upper ≤ MAX_TICK) :
    0 < sqrtRatio lower ∧ sqrtRatio lower < sqrtRatio upper := by
  obtain ⟨hl, hlt, hu⟩ := h
  exact ⟨(sqrtRatio_log ⟨hl, by omega⟩).1, sqrtRatio_lt ⟨hl, by omega⟩ ⟨by omega, hu⟩ hlt⟩

theorem maxLiquidityForAmounts_ok {p : Nat} {lower upper amount0 amount1 liquidity : Int}
    (h : maxLiquidityForAmounts p lower upper amount0 amount1 = .ok liquidity) :
    (MIN_TICK ≤ lower ∧ lower < upper ∧ upper ≤ MAX_TICK) ∧ 0 ≤ amount0 ∧ 0 ≤ amount1 ∧
    liquidityAt p (sqrtRatio lower) (sqrtRatio upper) amount0 amount1 = .ok liquidity := by
  unfold maxLiquidityForAmounts at h
  simp only [bind_ok, pure_ok, assertRange_ok, assertAmount_ok, getSqrtRatioAtTick_ok] at h
  obtain ⟨_, -, _, hr, _, h0, _, h1, _, ⟨-, rfl⟩, _, ⟨-, rfl⟩, l, hl, _, -, rfl⟩ := h
  exact ⟨hr, h0, h1, hl⟩

theorem getAmountsForLiquidity_ok {p : Nat} {lower upper liquidity : Int} {used : PositionAmounts}
    (h : getAmountsForLiquidity p lower upper liquidity = .ok used) :
    if liquidity = 0 then used = ⟨0, 0⟩ else amountsAt p (sqrtRatio lower) (sqrtRatio upper) liquidity = .ok used := by
  unfold getAmountsForLiquidity at h
  simp only [bind_ok] at h
  obtain ⟨_, -, _, -, _, -, h⟩ := h
  by_cases hz : liquidity = 0
  · rw [if_pos hz] at h ⊢
    exact (Except.ok.inj h).symm
  · rw [if_neg hz] at h ⊢
    unfold amountsOf at h
    simp only [bind_ok, getSqrtRatioAtTick_ok] at h
    obtain ⟨_, ⟨-, rfl⟩, _, ⟨-, rfl⟩, h⟩ := h
    exact h

/-- What a position is made of on each side of its range. -/
structure Within (p lower upper : Nat) (used : PositionAmounts) (amount0 amount1 : Int) : Prop where
  side0 : 0 ≤ used.amount0 ∧ used.amount0 ≤ amount0
  side1 : 0 ≤ used.amount1 ∧ used.amount1 ≤ amount1
  below : p ≤ lower → used.amount1 = 0
  above : upper ≤ p → used.amount0 = 0

/-- **The liquidity some capital buys asks for no more than that capital**, whatever the region of the price. -/
theorem amounts_within {p : Nat} {lower upper amount0 amount1 liquidity : Int} {used : PositionAmounts}
    (hmax : maxLiquidityForAmounts p lower upper amount0 amount1 = .ok liquidity)
    (hused : getAmountsForLiquidity p lower upper liquidity = .ok used) :
    0 ≤ liquidity ∧ Within p (sqrtRatio lower) (sqrtRatio upper) used amount0 amount1 := by
  obtain ⟨hr, h0, h1, hbought⟩ := maxLiquidityForAmounts_ok hmax
  obtain ⟨hlow, hlt⟩ := sqrtRatio_range hr
  obtain ⟨hl, hbelow, hinside, habove⟩ := liquidityAt_ok hlt hbought
  refine ⟨hl, ?_⟩
  have hmade := getAmountsForLiquidity_ok hused
  by_cases hz : liquidity = 0
  · rw [if_pos hz] at hmade
    rw [hmade]
    exact ⟨⟨le_rfl, h0⟩, ⟨le_rfl, h1⟩, fun _ => rfl, fun _ => rfl⟩
  · rw [if_neg hz] at hmade
    have hq : (0 : Int) < Q96 := by decide
    have hside0 {a b : Nat} (hab : a < b) : 0 ≤ Rounding.down (Rounding.down (liquidity * Q96 * (b - a)) b) a :=
      Int.ediv_nonneg (Int.ediv_nonneg (Int.mul_nonneg (Int.mul_nonneg hl hq.le) (by omega)) (by omega)) (by omega)
    have hside1 {a b : Nat} (hab : a < b) : 0 ≤ Rounding.down (liquidity * (b - a)) Q96 :=
      Rounding.down_nonneg hq (Int.mul_nonneg hl (by omega))
    rcases amountsAt_ok hlow hlt hl hmade with ⟨hp, rfl⟩ | ⟨hp, hp', rfl⟩ | ⟨hp, rfl⟩
    · exact ⟨⟨hside0 hlt, amount0_returned (by omega) (by omega) h0 (hbelow hp)⟩, ⟨le_rfl, h1⟩, fun _ => rfl,
        fun _ => by omega⟩
    · obtain ⟨hb0, hb1⟩ := hinside hp hp'
      exact ⟨⟨hside0 hp', amount0_returned (by omega) (by omega) h0 hb0⟩,
        ⟨hside1 hp, amount1_returned (by omega) hb1⟩, fun _ => by omega, fun _ => by omega⟩
    · exact ⟨⟨le_rfl, h0⟩, ⟨hside1 hlt, amount1_returned (by omega) (habove (by omega) hp)⟩, fun _ => by omega,
        fun _ => rfl⟩

/-! ## The mint of a plan -/

def mint (plan : RangePlan) (input : OpenRangePositionInput) : OpenRangePositionInput :=
  { input with tickLower := plan.tickLower, tickUpper := plan.tickUpper, liquidity := plan.liquidity }

open LiquidityStore in
theorem assertTickRange_cast {lower upper : Int} (h : MIN_TICK ≤ lower ∧ lower < upper ∧ upper ≤ MAX_TICK) :
    assertTickRange lower upper = .ok () := by
  have hint (t : Int) : (t : ℚ).isInt = true := by simp [Rat.isInt]
  obtain ⟨hl, hlt, hu⟩ := h
  unfold assertTickRange LiquidityStore.assertTick
  simp only [bind_ok, refuseWhen_ok, hint]
  refine ⟨(), ?_, (), ?_, ?_⟩
  · rintro (h | h | h)
    · cases h
    · exact absurd (Int.cast_lt.1 h) (by omega)
    · exact absurd (Int.cast_lt.1 h) (by omega)
  · rintro (h | h | h)
    · cases h
    · exact absurd (Int.cast_lt.1 h) (by omega)
    · exact absurd (Int.cast_lt.1 h) (by omega)
  · exact fun h => absurd (Int.cast_le.1 h) (by omega)

open LiquidityStore in
theorem openChecks_mint {plan : RangePlan} {input : OpenRangePositionInput} {tokenId : String} {other liquidity : Int}
    (h : openChecks input = .ok (tokenId, other))
    (hr : MIN_TICK ≤ plan.tickLower ∧ plan.tickLower < plan.tickUpper ∧ plan.tickUpper ≤ MAX_TICK)
    (hl : amountToBigint plan.liquidity = .ok liquidity) (hpos : 0 < liquidity) :
    openChecks (plan.mint input) = .ok (tokenId, liquidity) := by
  unfold openChecks at h ⊢
  simp only [bind_ok, pure_ok, refuseWhen_ok] at h ⊢
  obtain ⟨t, ht, id, hid, _, -, _, hrealized, _, -, _, hc, _, hfee, _, -, he⟩ := h
  obtain ⟨rfl, -⟩ := Prod.mk.inj he
  exact ⟨t, ht, id, hid, liquidity, hl, (), hrealized, (), by omega, (), hc, (), hfee, (),
    assertTickRange_cast hr, rfl⟩

open LiquidityStore Script in
/-- A mint counts its rebalance, if it is one, exactly when no other was counted under its key. -/
theorem countReplaced_succeeds {position : LpRangePositionRow} {replaced : Option LpRangePositionRow} {time : Int}
    {db : Db} : (∃ u db', (countReplaced position replaced time).exec db = (.ok u, db')) ↔
      (replaced.isSome → ¬ ∃ r ∈ db.lpRangeRebalances, r.key = position.key) := by
  cases replaced with
  | none => exact ⟨fun _ h => (by cases h), fun _ => ⟨(), db, rfl⟩⟩
  | some old =>
    have hkey : (rangeRebalance position old time).key = position.key := rfl
    unfold countReplaced countRangeRebalance
    simp only [exec_get_bind, exec_lift_bind_ok, exec_modify, refuseWhen_ok, hkey]
    constructor
    · rintro ⟨_, _, _, hnew, -⟩ -
      exact hnew
    · intro hnew
      exact ⟨(), _, (), hnew rfl, rfl⟩

open LiquidityStore Script in
/-- **An opening the ledger books is one it books with any other range and liquidity that pass their checks.** -/
theorem openRangePosition_mint {plan : RangePlan} {input : OpenRangePositionInput} {db db' : Db}
    {position : LpRangePositionRow} {liquidity : Int} (h : (openRangePosition input).exec db = (.ok position, db'))
    (hr : MIN_TICK ≤ plan.tickLower ∧ plan.tickLower < plan.tickUpper ∧ plan.tickUpper ≤ MAX_TICK)
    (hl : amountToBigint plan.liquidity = .ok liquidity) (hpos : 0 < liquidity) :
    ∃ opened db'', (openRangePosition (plan.mint input)).exec db = (.ok opened, db'') := by
  unfold openRangePosition at h ⊢
  simp only [exec_lift_bind_ok, exec_transaction_ok] at h ⊢
  obtain ⟨⟨tokenId, other⟩, hchecks, h⟩ := h
  unfold openWrites writeRangePosition recordRangeEvent at h
  simp only [exec_lift_bind_ok, exec_get_bind, exec_modify_bind] at h
  obtain ⟨_, hnew, replaced, hreplaced, h⟩ := h
  simp only [exec_bind_ok] at h
  obtain ⟨_, counted, hcount, -⟩ := h
  have hfree := countReplaced_succeeds.1 ⟨_, _, hcount⟩
  let opened := openedRow (plan.mint input) tokenId liquidity
  let written : Db := { db with
    lpRangePositions := db.lpRangePositions.put opened
    lpRangeEvents := db.lpRangeEvents ++ [rangeEvent opened .ADD liquidity input.capitalUsd input.time] }
  have hcounts : ∃ u counted', (countReplaced opened replaced input.time).exec written = (.ok u, counted') :=
    countReplaced_succeeds.2 hfree
  obtain ⟨u, counted', hcount'⟩ := hcounts
  let action : LpRecordedAction := if replaced.isSome then .REBALANCE else .ADD
  refine ⟨opened, (recordPnl counted' (rangePnl opened action 0 input.realized input.time)).1, (tokenId, liquidity),
    openChecks_mint hchecks hr hl hpos, ?_⟩
  unfold openWrites writeRangePosition recordRangeEvent
  simp only [exec_lift_bind_ok, exec_get_bind, exec_modify_bind]
  refine ⟨(), hnew, replaced, hreplaced, ?_⟩
  simp only [exec_bind_ok, exec_recordRangePnl, exec_pure]
  exact ⟨u, counted', hcount', _, _, rfl, rfl⟩

/-! ## The plan -/

theorem planAmounts_throws (request : RangePlanRequest) : Throws .schemaInvalid (planAmounts request) := by
  refine (maxLiquidityForAmounts_throws _ _ _ _ _).bind_ok fun liquidity hmax => ?_
  refine (maxLiquidityPerTick_throws _).bind fun _ => (Throws.refuseWhen _).bind fun _ => ?_
  refine (getAmountsForLiquidity_throws _ _ _ _).bind_ok fun used hused => ?_
  -- the guard against a plan it cannot fund never fires
  have hw := (amounts_within hmax hused).2
  have hfits : ¬ (request.amount0 < used.amount0 ∨ request.amount1 < used.amount1) :=
    fun h => h.elim (not_lt.2 hw.side0.2) (not_lt.2 hw.side1.2)
  unfold refuseWhen
  rw [if_neg hfits]
  exact .pure _

theorem planRange_throws (request : RangePlanRequest) : Throws .schemaInvalid (planRange request) :=
  (planChecks_throws request).bind fun _ => (planAmounts_throws request).bind fun _ => (minimumAmounts_throws _ _).bind
    fun _ => (getTickAtSqrtRatio_throws _).bind fun _ => (rangeStatus_throws _ _ _).bind fun _ => .pure _

/-- The floors of what a mint takes, for a tolerance between nothing and everything. -/
theorem minimumAmounts_ok {used : PositionAmounts} {slippageBps : Int} {floors : MinimumAmounts}
    (h : minimumAmounts used slippageBps = .ok floors) :
    (0 ≤ floors.amount0Min ∧ floors.amount0Min ≤ used.amount0) ∧ 0 ≤ floors.amount1Min ∧ floors.amount1Min ≤ used.amount1 := by
  have hbps : (0 : Int) < BPS_DENOM := by decide
  unfold minimumAmounts at h
  simp only [bind_ok, pure_ok, refuseWhen_ok, assertAmount_ok, ceilDiv_eq hbps] at h
  obtain ⟨_, h0, _, h1, _, hs, _, hf0, _, hf1, rfl⟩ := h
  obtain rfl := Except.ok.inj hf0
  obtain rfl := Except.ok.inj hf1
  have hkeep : 0 ≤ BPS_DENOM - slippageBps ∧ BPS_DENOM - slippageBps ≤ BPS_DENOM := by omega
  exact ⟨⟨Rounding.up_nonneg hbps (Int.mul_nonneg h0 hkeep.1), Rounding.up_part_le hbps h0 hkeep.2⟩,
    Rounding.up_nonneg hbps (Int.mul_nonneg h1 hkeep.1), Rounding.up_part_le hbps h1 hkeep.2⟩

open LiquidityStore Script in
/-- What a plan promises of the figures its texts stand for. -/
structure Funded (request : RangePlanRequest) (plan : RangePlan) (liquidity : Int) (used : PositionAmounts)
    (floors : MinimumAmounts) : Prop where
  range : plan.tickLower = request.tickLower ∧ plan.tickUpper = request.tickUpper ∧ plan.tickLower < plan.tickUpper
  usable : isUsableTick plan.tickLower request.tickSpacing = .ok true ∧
    isUsableTick plan.tickUpper request.tickSpacing = .ok true
  liquidity_read : amountToBigint plan.liquidity = .ok liquidity
  amounts_read : amountToBigint plan.amount0 = .ok used.amount0 ∧ amountToBigint plan.amount1 = .ok used.amount1
  floors_read : amountToBigint plan.amount0Min = .ok floors.amount0Min ∧
    amountToBigint plan.amount1Min = .ok floors.amount1Min
  unused_read : amountToBigint plan.unused0 = .ok (request.amount0 - used.amount0) ∧
    amountToBigint plan.unused1 = .ok (request.amount1 - used.amount1)
  capped : ∃ cap, maxLiquidityPerTick request.tickSpacing = .ok cap ∧ 0 ≤ liquidity ∧ liquidity ≤ cap
  made : getAmountsForLiquidity request.sqrtPriceX96 request.tickLower request.tickUpper liquidity = .ok used
  afforded : used.amount0 ≤ request.amount0 ∧ used.amount1 ≤ request.amount1
  floored : (0 ≤ floors.amount0Min ∧ floors.amount0Min ≤ used.amount0) ∧
    0 ≤ floors.amount1Min ∧ floors.amount1Min ≤ used.amount1
  below : ∀ lower, getSqrtRatioAtTick request.tickLower = .ok lower → request.sqrtPriceX96 ≤ lower → used.amount1 = 0
  above : ∀ upper, getSqrtRatioAtTick request.tickUpper = .ok upper → upper ≤ request.sqrtPriceX96 → used.amount0 = 0
  empty : liquidity = 0 → used = ⟨0, 0⟩
  opens : 0 < liquidity → ∀ input db position db', (openRangePosition input).exec db = (.ok position, db') →
    ∃ opened db'', (openRangePosition (plan.mint input)).exec db = (.ok opened, db'')

/-- **A range plan is funded**: its guard against a plan the capital does not cover is unreachable, and a plan that is returned
keeps every promise of its figures; one that holds any liquidity is one the ledger opens. -/
theorem planRange_funded (request : RangePlanRequest) : planRange request ≠ .error exceedsCapital ∧
    ∀ plan, planRange request = .ok plan → ∃ liquidity used floors, Funded request plan liquidity used floors := by
  constructor
  · intro h
    exact absurd (planRange_throws request _ h) (by decide)
  · intro plan h
    unfold planRange planChecks planAmounts at h
    simp only [bind_ok, pure_ok, refuseWhen_ok] at h
    obtain ⟨_, ⟨_, -, _, -, _, -, _, -, lowerUsable, hlower, upperUsable, hupper, _, husable, -⟩, planned,
      ⟨liquidity, hmax, cap, hcap, _, hfits, used, hused, _, -, rfl⟩, floors, hfloors, tick, -, status, -, rfl⟩ := h
    obtain ⟨hl, hw⟩ := amounts_within hmax hused
    have hfloored := minimumAmounts_ok hfloors
    have hr := (maxLiquidityForAmounts_ok hmax).1
    obtain rfl : lowerUsable = true := by simpa using fun h => husable (.inl h)
    obtain rfl : upperUsable = true := by simpa using fun h => husable (.inr h)
    have hread : amountToBigint (toString liquidity) = .ok liquidity := amountToBigint_intToString hl
    refine ⟨liquidity, used, floors, ?_⟩
    exact {
      range := ⟨rfl, rfl, hr.2.1⟩
      usable := ⟨hlower, hupper⟩
      liquidity_read := hread
      amounts_read := ⟨amountToBigint_intToString hw.side0.1, amountToBigint_intToString hw.side1.1⟩
      floors_read := ⟨amountToBigint_intToString hfloored.1.1, amountToBigint_intToString hfloored.2.1⟩
      unused_read := ⟨amountToBigint_intToString (Int.sub_nonneg.2 hw.side0.2),
        amountToBigint_intToString (Int.sub_nonneg.2 hw.side1.2)⟩
      capped := ⟨cap, hcap, hl, not_lt.1 hfits⟩
      made := hused
      afforded := ⟨hw.side0.2, hw.side1.2⟩
      floored := hfloored
      below := fun lower hlow hp => hw.below (by rwa [← (getSqrtRatioAtTick_ok.1 hlow).2])
      above := fun upper hup hp => hw.above (by rwa [← (getSqrtRatioAtTick_ok.1 hup).2])
      empty := fun hz => by
        have hmade := getAmountsForLiquidity_ok hused
        rwa [if_pos hz] at hmade
      opens := fun hpos input db position db' ho => openRangePosition_mint ho hr hread hpos }

/-- A request with capital on both sides of a price inside its range. -/
def inRangeRequest : RangePlanRequest :=
  { sqrtPriceX96 := 4057557002433332622997954
    tickLower := -197700
    tickUpper := -197460
    tickSpacing := 60
    amount0 := 1000000000000000000
    amount1 := 3000000000
    slippageBps := 50 }

theorem planRange_funded_inRange : ∃ plan, planRange inRangeRequest = .ok plan ∧
    ∃ liquidity used floors, Funded inRangeRequest plan liquidity used floors := by
  have hok : (planRange inRangeRequest).toOption.isSome = true := by decide +kernel
  cases hp : planRange inRangeRequest with
  | error e =>
    rw [hp] at hok
    cases hok
  | ok plan => exact ⟨plan, rfl, (planRange_funded inRangeRequest).2 plan hp⟩

/-- The same range with the price below it, and only the token it does not take. -/
def unreachableRequest : RangePlanRequest :=
  { inRangeRequest with sqrtPriceX96 := 3977215967600538944242426, amount0 := 0 }

open LiquidityStore in
/-- **A range the capital cannot reach is planned as an empty position**, which the ledger does not open. -/
theorem planRange_empty : ( MIN_SQRT_RATIO ≤ unreachableRequest.sqrtPriceX96 ∧
      unreachableRequest.sqrtPriceX96 < MAX_SQRT_RATIO) ∧
    isUsableTick unreachableRequest.tickLower unreachableRequest.tickSpacing = .ok true ∧
    isUsableTick unreachableRequest.tickUpper unreachableRequest.tickSpacing = .ok true ∧
    unreachableRequest.tickLower < unreachableRequest.tickUpper ∧
    0 ≤ unreachableRequest.amount0 ∧ 0 < unreachableRequest.amount1 ∧
    ∃ plan, planRange unreachableRequest = .ok plan ∧ amountToBigint plan.liquidity = .ok 0 ∧
      ∀ input, ¬ ∃ tokenId liquidity, openChecks (plan.mint input) = .ok (tokenId, liquidity) := by
  have hliquidity : (planRange unreachableRequest).toOption.map (·.liquidity) = some "0" := by decide +kernel
  refine ⟨by decide +kernel, by decide +kernel, by decide +kernel, by decide, by decide, by decide, ?_⟩
  cases hp : planRange unreachableRequest with
  | error e =>
    rw [hp] at hliquidity
    cases hliquidity
  | ok plan =>
    rw [hp] at hliquidity
    have hl : plan.liquidity = "0" := Option.some.inj hliquidity
    refine ⟨plan, rfl, by rw [hl]; rfl, ?_⟩
    rintro input ⟨tokenId, liquidity, h⟩
    have hpos := (openChecks_ok h).1
    unfold openChecks at h
    simp only [bind_ok, pure_ok] at h
    obtain ⟨_, -, _, -, l, hread, _, -, _, -, _, -, _, -, _, -, he⟩ := h
    obtain ⟨-, rfl⟩ := Prod.mk.inj he
    have hz : amountToBigint "0" = .ok l := hl ▸ hread
    obtain rfl : (0 : Int) = l := Except.ok.inj ((show amountToBigint "0" = .ok 0 from rfl).symm.trans hz)
    cases hpos

end RangePlan
end Atra
