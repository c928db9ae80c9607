import Atra.PlanFunding
import Mathlib.Algebra.Order.Floor.Ring
import Mathlib.Data.Rat.Floor
/-!
# Composition — what a position is made of, and how that moves

Both amounts of a position are floors of an exact rational amount, the nested division of token0 included (`madeOf_iff`).  The
exact amounts are linear in the liquidity, monotone in the price held inside the range, and additive over ranges that meet; the
laws of the amounts are the laws of the floor.
-/
namespace Rounding

theorem down_eq_floor (a : Int) {b : Int} (hb : 0 < b) : down a b = ⌊(a : ℚ) / b⌋ := by
  obtain ⟨n, rfl⟩ := Int.eq_ofNat_of_zero_le hb.le
  exact (Rat.floor_intCast_div_natCast a n).symm

/-- Dividing twice and flooring each time floors the quotient by the product. -/
theorem down_down (x a : Int) {b : Int} (hb : 0 < b) : down (down x b) a = down x (b * a) :=
  Int.ediv_ediv_of_nonneg hb.le

end Rounding

namespace Atra
namespace TickMath

open Money

/-! ## The exact amounts -/

/-- The price held inside a range. -/
def inside (p lower upper : Nat) : Nat := if p ≤ lower then lower else if p < upper then p else upper

/-- Token0 of a liquidity, before it is floored. -/
def exact0 (p lower upper : Nat) (liquidity : Int) : ℚ :=
  liquidity * Q96 * (1 / inside p lower upper - 1 / upper)

/-- Token1 of a liquidity, before it is floored. -/
def exact1 (p lower upper : Nat) (liquidity : Int) : ℚ := liquidity * (inside p lower upper - lower) / Q96

def exactAmounts (p lower upper : Nat) (liquidity : Int) : PositionAmounts :=
  ⟨⌊exact0 p lower upper liquidity⌋, ⌊exact1 p lower upper liquidity⌋⟩

variable {p p' lower middle upper : Nat} {liquidity : Int}

theorem inside_bounds (h : lower ≤ upper) : lower ≤ inside p lower upper ∧ inside p lower upper ≤ upper := by
  unfold inside
  split_ifs <;> omega

theorem inside_mono (hp : p ≤ p') (h : lower ≤ upper) : inside p lower upper ≤ inside p' lower upper := by
  unfold inside
  split_ifs <;> omega

/-- Token0 over a span, floored twice, is the floor of its exact amount. -/
theorem floor_amount0 {a b : Nat} (ha : 0 < a) (hab : a ≤ b) :
    Rounding.down (Rounding.down (liquidity * Q96 * (b - a)) b) a = ⌊(liquidity * Q96 * (1 / a - 1 / b) : ℚ)⌋ := by
  have ha' : (a : ℚ) ≠ 0 := by exact_mod_cast ha.ne'
  have hb' : (b : ℚ) ≠ 0 := by exact_mod_cast (show b ≠ 0 by omega)
  have hprod : (0 : Int) < b * a := by exact_mod_cast Nat.mul_pos (by omega) ha
  rw [Rounding.down_down _ _ (by omega), Rounding.down_eq_floor _ hprod]
  congr 1
  push_cast
  field_simp

theorem floor_amount1 {a b : Nat} :
    Rounding.down (liquidity * (b - a)) Q96 = ⌊(liquidity * (b - a) / Q96 : ℚ)⌋ := by
  rw [Rounding.down_eq_floor _ (by decide)]
  push_cast
  rfl

/-- **The amounts of a liquidity are the floors of its exact amounts**, in each of the three regions. -/
theorem amountsAt_eq (hlower : 0 < lower) (hlt : lower < upper) (hl : 0 ≤ liquidity) :
    amountsAt p lower upper liquidity = .ok (exactAmounts p lower upper liquidity) := by
  unfold amountsAt exactAmounts exact0 exact1 inside
  by_cases hbelow : p ≤ lower
  · rw [if_pos hbelow, if_pos hbelow, getAmount0ForLiquidity_eq hlower hlt hl, floor_amount0 hlower hlt.le]
    simp [Functor.map, Except.map]
  · rw [if_neg hbelow, if_neg hbelow]
    by_cases habove : p < upper
    · unfold amountsInside
      rw [if_pos habove, if_pos habove, getAmount0ForLiquidity_eq (by omega) habove hl,
        getAmount1ForLiquidity_eq (by omega) hl, floor_amount0 (by omega) habove.le, floor_amount1]
      rfl
    · rw [if_neg habove, if_neg habove, getAmount1ForLiquidity_eq hlt hl, floor_amount1]
      simp [Functor.map, Except.map]

/-- A liquidity of a valid price and range holds these amounts. -/
theorem getAmountsForLiquidity_eq {a b : Int} (hp : MIN_SQRT_RATIO ≤ p ∧ p < MAX_SQRT_RATIO)
    (hrange : MIN_TICK ≤ a ∧ a < b ∧ b ≤ MAX_TICK) (hl : 0 ≤ liquidity) :
    getAmountsForLiquidity p a b liquidity = .ok (exactAmounts p (sqrtRatio a) (sqrtRatio b) liquidity) := by
  unfold getAmountsForLiquidity
  rw [(assertSqrtRatio_ok (u := ())).2 hp, (assertRange_ok (u := ())).2 hrange, (refuseWhen_ok (u := ())).2 (by omega)]
  show (if liquidity = 0 then pure ⟨0, 0⟩ else amountsOf p a b liquidity) = _
  by_cases hzero : liquidity = 0
  · rw [if_pos hzero, hzero]
    simp [exactAmounts, exact0, exact1]
    rfl
  · have ha : MIN_TICK ≤ a ∧ a ≤ MAX_TICK := by omega
    have hb : MIN_TICK ≤ b ∧ b ≤ MAX_TICK := by omega
    unfold amountsOf
    rw [if_neg hzero, getSqrtRatioAtTick_ok.2 ⟨ha, rfl⟩, getSqrtRatioAtTick_ok.2 ⟨hb, rfl⟩]
    exact amountsAt_eq (sqrtRatio_log ha).1 (sqrtRatio_lt ha hb hrange.2.1) hl

/-! ## The laws of the exact amounts -/

theorem exact0_nonneg (hlower : 0 < lower) (h : lower ≤ upper) : (0 : ℚ) ≤ 1 / inside p lower upper - 1 / upper := by
  obtain ⟨h1, h2⟩ := inside_bounds (p := p) h
  have hpos : (0 : ℚ) < inside p lower upper := by exact_mod_cast (show 0 < inside p lower upper by omega)
  rw [sub_nonneg]
  exact one_div_le_one_div_of_le hpos (by exact_mod_cast h2)

theorem exact0_le {l m : Int} (hlower : 0 < lower) (h : lower ≤ upper) (hlm : l ≤ m) :
    exact0 p lower upper l ≤ exact0 p lower upper m := by
  have hq : (0 : ℚ) ≤ Q96 := by positivity
  have hlm' : (l : ℚ) ≤ m := by exact_mod_cast hlm
  exact mul_le_mul_of_nonneg_right (mul_le_mul_of_nonneg_right hlm' hq) (exact0_nonneg hlower h)

theorem exact1_le {l m : Int} (h : lower ≤ upper) (hlm : l ≤ m) : exact1 p lower upper l ≤ exact1 p lower upper m := by
  have hq : (0 : ℚ) ≤ Q96 := by positivity
  have hlm' : (l : ℚ) ≤ m := by exact_mod_cast hlm
  have hspan : (0 : ℚ) ≤ inside p lower upper - lower := by
    rw [sub_nonneg]
    exact_mod_cast (inside_bounds h).1
  exact div_le_div_of_nonneg_right (mul_le_mul_of_nonneg_right hlm' hspan) hq

theorem exact0_anti (hlower : 0 < lower) (h : lower ≤ upper) (hl : 0 ≤ liquidity) (hp : p ≤ p') :
    exact0 p' lower upper liquidity ≤ exact0 p lower upper liquidity := by
  have hpos : (0 : ℚ) < inside p lower upper := by
    exact_mod_cast (show 0 < inside p lower upper by have := (inside_bounds (p := p) h).1; omega)
  have hle : (inside p lower upper : ℚ) ≤ inside p' lower upper := by exact_mod_cast inside_mono hp h
  have hscale : (0 : ℚ) ≤ liquidity * Q96 := mul_nonneg (by exact_mod_cast hl) (by positivity)
  exact mul_le_mul_of_nonneg_left (sub_le_sub_right (one_div_le_one_div_of_le hpos hle) _) hscale

theorem exact1_mono (h : lower ≤ upper) (hl : 0 ≤ liquidity) (hp : p ≤ p') :
    exact1 p lower upper liquidity ≤ exact1 p' lower upper liquidity := by
  have hle : (inside p lower upper : ℚ) ≤ inside p' lower upper := by exact_mod_cast inside_mono hp h
  have hl' : (0 : ℚ) ≤ liquidity := by exact_mod_cast hl
  exact div_le_div_of_nonneg_right (mul_le_mul_of_nonneg_left (sub_le_sub_right hle _) hl') (by positivity)

theorem exact0_add (l m : Int) : exact0 p lower upper (l + m) = exact0 p lower upper l + exact0 p lower upper m := by
  unfold exact0
  push_cast
  ring

theorem exact1_add (l m : Int) : exact1 p lower upper (l + m) = exact1 p lower upper l + exact1 p lower upper m := by
  unfold exact1
  push_cast
  ring

/-- The price held inside two ranges that meet: one of the two holds it where their union does, the other at the meeting. -/
theorem inside_split (h : lower ≤ middle) (h' : middle ≤ upper) :
    (inside p lower middle = inside p lower upper ∧ inside p middle upper = middle) ∨
      (inside p lower middle = middle ∧ inside p middle upper = inside p lower upper) := by
  unfold inside
  split_ifs <;> omega

/-- **The exact amounts of two ranges that meet** are those of their union. -/
theorem exact0_split (h : lower ≤ middle) (h' : middle ≤ upper) :
    exact0 p lower upper liquidity = exact0 p lower middle liquidity + exact0 p middle upper liquidity := by
  unfold exact0
  rcases inside_split (p := p) h h' with ⟨h1, h2⟩ | ⟨h1, h2⟩
  · rw [h1, h2]
    ring
  · rw [h1, h2]
    ring

theorem exact1_split (h : lower ≤ middle) (h' : middle ≤ upper) :
    exact1 p lower upper liquidity = exact1 p lower middle liquidity + exact1 p middle upper liquidity := by
  unfold exact1
  rcases inside_split (p := p) h h' with ⟨h1, h2⟩ | ⟨h1, h2⟩
  · rw [h1, h2]
    ring
  · rw [h1, h2]
    ring

/-! ## The side of a range -/

theorem exact1_below (h : p ≤ lower) : exact1 p lower upper liquidity = 0 := by
  unfold exact1 inside
  rw [if_pos h, sub_self, mul_zero, zero_div]

theorem exact0_above (h : lower < upper) (hp : upper ≤ p) : exact0 p lower upper liquidity = 0 := by
  unfold exact0 inside
  rw [if_neg (by omega), if_neg (by omega), sub_self, mul_zero]

/-- **A tick outside a range puts the price outside it**, on the same side. -/
theorem IsTickOf.outside {tick a b : Int} (ht : IsTickOf p tick) (ha : MIN_TICK ≤ a ∧ a ≤ MAX_TICK)
    (hb : MIN_TICK ≤ b ∧ b ≤ MAX_TICK) : (tick < a → p ≤ sqrtRatio a) ∧ (b ≤ tick → sqrtRatio b ≤ p) := by
  have hlo := ht.lo
  have hhi := ht.hi
  constructor
  · intro h
    have hle := (sqrtRatio_le_iff (show MIN_TICK ≤ tick + 1 ∧ tick + 1 ≤ MAX_TICK by omega) ha).2 (by omega)
    exact Nat.le_trans ht.above.le hle
  · intro h
    exact Nat.le_trans ((sqrtRatio_le_iff hb (by omega)).2 h) ht.below

theorem rangeStatus_ok {tick a b : Int} (ht : MIN_TICK ≤ tick ∧ tick ≤ MAX_TICK)
    (hrange : MIN_TICK ≤ a ∧ a < b ∧ b ≤ MAX_TICK) : ∃ status, RangePlan.rangeStatus tick a b = .ok status ∧
      isTickInRange tick a b = .ok (status.side == .inRange) ∧
      (status.side = .below ↔ tick < a) ∧ (status.side = .above ↔ b ≤ tick) := by
  have hassert : ∀ t field, MIN_TICK ≤ t ∧ t ≤ MAX_TICK → assertTick t field = .ok () := by
    intro t field h
    unfold assertTick
    exact refuseWhen_ok.2 (by omega)
  have hwithin : isTickInRange tick a b = .ok (decide (a ≤ tick ∧ tick < b)) := by
    unfold isTickInRange
    rw [hassert tick _ ht, hassert a _ (by omega), hassert b _ (by omega)]
    rfl
  unfold RangePlan.rangeStatus
  rw [hassert tick _ ht, (assertRange_ok (u := ())).2 hrange, hwithin]
  simp only [bind, Except.bind, ceilDiv_eq (show 0 < b - a by omega)]
  refine ⟨_, rfl, ?_⟩
  by_cases hbelow : tick < a
  · have hnot : ¬ a ≤ tick := by omega
    have hlt : tick < b := by omega
    simp [hbelow, hnot, hlt]
  · have hle : a ≤ tick := by omega
    by_cases habove : tick < b
    · have hnot : ¬ b ≤ tick := by omega
      simp [hbelow, hle, habove, hnot]
    · have hge : b ≤ tick := by omega
      simp [hbelow, habove, hge]

/-! ## The laws -/

/-- What the amounts of a position promise: in its liquidity, its price, its range and its side. -/
structure Coherent (p : Nat) (a b L M : Int) (ofL ofM ofBoth ofRight ofWhole : PositionAmounts) (tick : Int) : Prop where
  monotone : L ≤ M → ofL.amount0 ≤ ofM.amount0 ∧ ofL.amount1 ≤ ofM.amount1
  price : ∀ p', p ≤ p' → p' < MAX_SQRT_RATIO → ∃ dearer, getAmountsForLiquidity p' a b L = .ok dearer ∧
    dearer.amount0 ≤ ofL.amount0 ∧ ofL.amount1 ≤ dearer.amount1
  joined : ofL.amount0 + ofM.amount0 ≤ ofBoth.amount0 ∧ ofL.amount1 + ofM.amount1 ≤ ofBoth.amount1
  split0 : ofL.amount0 + ofRight.amount0 ≤ ofWhole.amount0 ∧ ofWhole.amount0 ≤ ofL.amount0 + ofRight.amount0 + 1
  split1 : ofL.amount1 + ofRight.amount1 ≤ ofWhole.amount1 ∧ ofWhole.amount1 ≤ ofL.amount1 + ofRight.amount1 + 1
  below : tick < a → ofL.amount1 = 0
  above : b ≤ tick → ofL.amount0 = 0
  side : ∃ status, RangePlan.rangeStatus tick a b = .ok status ∧
    isTickInRange tick a b = .ok (status.side == .inRange) ∧
    (status.side = .below → ofL.amount1 = 0) ∧ (status.side = .above → ofL.amount0 = 0)

/-- The floors of two amounts fall short of the floor of their sum by at most one. -/
theorem floor_split {x y z : ℚ} (h : z = x + y) : ⌊x⌋ + ⌊y⌋ ≤ ⌊z⌋ ∧ ⌊z⌋ ≤ ⌊x⌋ + ⌊y⌋ + 1 := by
  subst h
  exact ⟨Int.le_floor_add x y, by have := Int.le_floor_add_floor x y; omega⟩

/-- **Position amounts are coherent**: monotone in the liquidity and the price, superadditive in the liquidity, additive over
ranges that meet up to one base unit, and on the side of the range the tick is on. -/
theorem amounts_coherent {p : Nat} {a b c L M : Int} (hp : MIN_SQRT_RATIO ≤ p ∧ p < MAX_SQRT_RATIO)
    (hticks : MIN_TICK ≤ a ∧ a < b ∧ b < c ∧ c ≤ MAX_TICK) (hL : 0 ≤ L) (hM : 0 ≤ M) :
    ∃ ofL ofM ofBoth ofRight ofWhole tick, getAmountsForLiquidity p a b L = .ok ofL ∧
      getAmountsForLiquidity p a b M = .ok ofM ∧ getAmountsForLiquidity p a b (L + M) = .ok ofBoth ∧
      getAmountsForLiquidity p b c L = .ok ofRight ∧ getAmountsForLiquidity p a c L = .ok ofWhole ∧
      getTickAtSqrtRatio p = .ok tick ∧ Coherent p a b L M ofL ofM ofBoth ofRight ofWhole tick := by
  have ha : MIN_TICK ≤ a ∧ a ≤ MAX_TICK := by omega
  have hb : MIN_TICK ≤ b ∧ b ≤ MAX_TICK := by omega
  have hc : MIN_TICK ≤ c ∧ c ≤ MAX_TICK := by omega
  have hab : MIN_TICK ≤ a ∧ a < b ∧ b ≤ MAX_TICK := by omega
  have hposa := (sqrtRatio_log ha).1
  have hltab := sqrtRatio_lt ha hb hab.2.1
  have hleab := hltab.le
  have hlebc := (sqrtRatio_lt hb hc hticks.2.2.1).le
  obtain ⟨tick, ht⟩ := exists_tick hp
  obtain ⟨hbelow, habove⟩ := ht.outside ha hb
  have hlow : tick < a → ⌊exact1 p (sqrtRatio a) (sqrtRatio b) L⌋ = 0 := by
    intro h
    rw [exact1_below (hbelow h), Int.floor_zero]
  have hhigh : b ≤ tick → ⌊exact0 p (sqrtRatio a) (sqrtRatio b) L⌋ = 0 := by
    intro h
    rw [exact0_above hltab (habove h), Int.floor_zero]
  refine ⟨_, _, _, _, _, tick, getAmountsForLiquidity_eq hp hab hL, getAmountsForLiquidity_eq hp hab hM,
    getAmountsForLiquidity_eq hp hab (by omega), getAmountsForLiquidity_eq hp (by omega) hL,
    getAmountsForLiquidity_eq hp (by omega) hL, getTickAtSqrtRatio_ok hp ht, ?_⟩
  constructor
  case monotone =>
    intro h
    exact ⟨Int.floor_le_floor (exact0_le hposa hleab h), Int.floor_le_floor (exact1_le hleab h)⟩
  case price =>
    intro p' hpp' hmax
    refine ⟨_, getAmountsForLiquidity_eq ⟨by omega, hmax⟩ hab hL, ?_, ?_⟩
    · exact Int.floor_le_floor (exact0_anti hposa hleab hL hpp')
    · exact Int.floor_le_floor (exact1_mono hleab hL hpp')
  case joined => exact ⟨(floor_split (exact0_add L M)).1, (floor_split (exact1_add L M)).1⟩
  case split0 => exact floor_split (exact0_split hleab hlebc)
  case split1 => exact floor_split (exact1_split hleab hlebc)
  case below => exact hlow
  case above => exact hhigh
  case side =>
    have hlo := ht.lo
    have hhi := ht.hi
    obtain ⟨status, hstatus, hwithin, hside, hside'⟩ := rangeStatus_ok (show MIN_TICK ≤ tick ∧ tick ≤ MAX_TICK by omega) hab
    exact ⟨status, hstatus, hwithin, fun h => hlow (hside.1 h), fun h => hhigh (hside'.1 h)⟩

theorem amounts_coherent_at_par : ∃ ofL ofM ofBoth ofRight ofWhole tick,
    getAmountsForLiquidity (2 ^ 96) (-60) 0 1000 = .ok ofL ∧ getAmountsForLiquidity (2 ^ 96) (-60) 0 7 = .ok ofM ∧
    getAmountsForLiquidity (2 ^ 96) (-60) 0 (1000 + 7) = .ok ofBoth ∧ getAmountsForLiquidity (2 ^ 96) 0 60 1000 = .ok ofRight ∧
    getAmountsForLiquidity (2 ^ 96) (-60) 60 1000 = .ok ofWhole ∧ getTickAtSqrtRatio (2 ^ 96) = .ok tick ∧
    Coherent (2 ^ 96) (-60) 0 1000 7 ofL ofM ofBoth ofRight ofWhole tick :=
  amounts_coherent (by decide) (by decide) (by decide) (by decide)

end TickMath
end Atra
