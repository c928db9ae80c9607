import Atra.TickMath
/-!
# RangePlan — the position some capital buys

A position is usually asked what its liquidity is made of; a plan asks the other way round: given capital and a range, how much
liquidity fits, and what does it cost.  Every division that turns capital into liquidity floors, and the amounts of a plan are
what `getAmountsForLiquidity` returns for the liquidity it chose.
-/
namespace Atra

inductive RangeSide where
  | below | inRange | above
deriving DecidableEq, Repr

structure RangeStatus where
  side : RangeSide
  widthTicks : Int
  ticksToLower : Int
  ticksToUpper : Int
  ticksOutside : Int
  outsideBps : Int
deriving DecidableEq, Repr

structure MinimumAmounts where
  amount0Min : Int
  amount1Min : Int
deriving DecidableEq, Repr

structure RangePlanRequest where
  sqrtPriceX96 : Nat
  tickLower : Int
  tickUpper : Int
  tickSpacing : Int
  amount0 : Int
  amount1 : Int
  slippageBps : Int
deriving DecidableEq, Repr

/-- Everything a mint would need; amounts are base-unit texts. -/
structure RangePlan where
  tickLower : Int
  tickUpper : Int
  tickSpacing : Int
  sqrtPriceX96 : String
  tick : Int
  side : RangeSide
  liquidity : String
  amount0 : String
  amount1 : String
  amount0Min : String
  amount1Min : String
  unused0 : String
  unused1 : String
  slippageBps : Int
deriving DecidableEq, Repr

namespace RangePlan

open Money TickMath

def MAX_TICK_SPACING : Int := 16384
def MAX_UINT128 : Int := (1 <<< 128 : Nat) - 1

/-! ## What is checked -/

def assertTickSpacing (tickSpacing : Int) : Result Int := do
  refuseWhen (tickSpacing ≤ 0 ∨ MAX_TICK_SPACING < tickSpacing)
    ⟨.schemaInvalid, "Tick spacing is not one a v3 pool could report"⟩
  return tickSpacing

def assertAmount (amount : Int) (field : String) : Result Unit :=
  refuseWhen (amount < 0) ⟨.schemaInvalid, field ++ " is negative"⟩

def assertPositiveSpan (low high : Nat) : Result Unit := do
  refuseWhen (low = 0) ⟨.schemaInvalid, "A sqrt price bound is not positive"⟩
  refuseWhen (high = low) ⟨.schemaInvalid, "A liquidity range of zero width holds nothing"⟩

/-- Whether a pool would accept a tick as a bound. -/
def isUsableTick (tick tickSpacing : Int) : Result Bool := do
  let spacing ← assertTickSpacing tickSpacing
  return decide (¬ (tick < MIN_TICK ∨ MAX_TICK < tick) ∧ tick.tmod spacing = 0)

/-! ## The solver -/

/-- The liquidity some token0 buys between two sqrt prices. -/
def getLiquidityForAmount0 (a b : Nat) (amount0 : Int) : Result Int := do
  let low := min a b
  let high := max a b
  assertPositiveSpan low high
  assertAmount amount0 "amount0"
  let intermediate ← floorDiv (low * high) Q96
  floorDiv (amount0 * intermediate) (high - low)

/-- The liquidity some token1 buys between two sqrt prices. -/
def getLiquidityForAmount1 (a b : Nat) (amount1 : Int) : Result Int := do
  let low := min a b
  let high := max a b
  assertPositiveSpan low high
  assertAmount amount1 "amount1"
  floorDiv (amount1 * Q96) (high - low)

/-- Inside the range the scarcer side decides. -/
def liquidityInside (sqrtPriceX96 lower upper : Nat) (amount0 amount1 : Int) : Result Int := do
  let liquidity0 ← getLiquidityForAmount0 sqrtPriceX96 upper amount0
  let liquidity1 ← getLiquidityForAmount1 lower sqrtPriceX96 amount1
  return if liquidity0 < liquidity1 then liquidity0 else liquidity1

/-- The three regions of a price, split on the comparisons the amounts are split on. -/
def liquidityAt (sqrtPriceX96 lower upper : Nat) (amount0 amount1 : Int) : Result Int :=
  if sqrtPriceX96 ≤ lower then getLiquidityForAmount0 lower upper amount0
  else if sqrtPriceX96 < upper then liquidityInside sqrtPriceX96 lower upper amount0 amount1
  else getLiquidityForAmount1 lower upper amount1

/-- The most liquidity a range holds without asking for more of either token than there is. -/
def maxLiquidityForAmounts (sqrtPriceX96 : Nat) (tickLower tickUpper amount0 amount1 : Int) : Result Int := do
  assertSqrtRatio sqrtPriceX96
  assertRange tickLower tickUpper
  assertAmount amount0 "amount0"
  assertAmount amount1 "amount1"
  let lower ← getSqrtRatioAtTick tickLower
  let upper ← getSqrtRatioAtTick tickUpper
  let liquidity ← liquidityAt sqrtPriceX96 lower upper amount0 amount1
  refuseWhen (MAX_UINT128 < liquidity) ⟨.schemaInvalid, "Position liquidity overflows the pool uint128"⟩
  return liquidity

/-- The most liquidity one tick may carry; the bounds truncate towards zero, as the pool's do. -/
def maxLiquidityPerTick (tickSpacing : Int) : Result Int := do
  let spacing ← assertTickSpacing tickSpacing
  let minTick := MIN_TICK.tdiv spacing * spacing
  let maxTick := MAX_TICK.tdiv spacing * spacing
  floorDiv MAX_UINT128 ((maxTick - minTick).tdiv spacing + 1)

/-- Where the pool's tick sits relative to a range, and how far outside. -/
def rangeStatus (tick tickLower tickUpper : Int) : Result RangeStatus := do
  assertTick tick "tick"
  assertRange tickLower tickUpper
  let within ← isTickInRange tick tickLower tickUpper
  let ticksToLower := tick - tickLower
  let ticksToUpper := tickUpper - tick
  let ticksOutside := if ticksToLower < 0 then -ticksToLower else if ticksToUpper < 0 then -ticksToUpper else 0
  let outsideBps ← ceilDiv (ticksOutside * BPS_DENOM) (tickUpper - tickLower)
  return {
    side := if tick < tickLower then .below else if within then .inRange else .above
    widthTicks := tickUpper - tickLower
    ticksToLower
    ticksToUpper
    ticksOutside
    outsideBps }

/-- The floors that hold a mint to a slippage tolerance, rounded up. -/
def minimumAmounts (amounts : PositionAmounts) (slippageBps : Int) : Result MinimumAmounts := do
  assertAmount amounts.amount0 "amount0"
  assertAmount amounts.amount1 "amount1"
  refuseWhen (slippageBps < 0 ∨ BPS_DENOM < slippageBps) ⟨.schemaInvalid, "Slippage in basis points is out of range"⟩
  let keep := BPS_DENOM - slippageBps
  let amount0Min ← ceilDiv (amounts.amount0 * keep) BPS_DENOM
  let amount1Min ← ceilDiv (amounts.amount1 * keep) BPS_DENOM
  return ⟨amount0Min, amount1Min⟩

/-! ## The plan -/

/-- What a plan requires of its request before it solves anything. -/
def planChecks (request : RangePlanRequest) : Result Unit := do
  assertSqrtRatio request.sqrtPriceX96
  assertRange request.tickLower request.tickUpper
  assertAmount request.amount0 "amount0"
  assertAmount request.amount1 "amount1"
  let lowerUsable ← isUsableTick request.tickLower request.tickSpacing
  let upperUsable ← isUsableTick request.tickUpper request.tickSpacing
  refuseWhen (lowerUsable = false ∨ upperUsable = false) ⟨.schemaInvalid, "A range bound is not a usable tick"⟩
  refuseWhen (request.amount0 = 0 ∧ request.amount1 = 0)
    ⟨.schemaInvalid, "A position cannot be planned with no capital"⟩

def exceedsCapital : AppError := ⟨.internal, "Planned amounts exceed the capital they were solved from"⟩

def planAmounts (request : RangePlanRequest) : Result (Int × PositionAmounts) := do
  let liquidity ← maxLiquidityForAmounts request.sqrtPriceX96 request.tickLower request.tickUpper request.amount0
    request.amount1
  let cap ← maxLiquidityPerTick request.tickSpacing
  refuseWhen (cap < liquidity) ⟨.schemaInvalid, "Position liquidity exceeds what one tick may carry"⟩
  let amounts ← getAmountsForLiquidity request.sqrtPriceX96 request.tickLower request.tickUpper liquidity
  -- unreachable: the liquidity was floored from this capital
  refuseWhen (request.amount0 < amounts.amount0 ∨ request.amount1 < amounts.amount1) exceedsCapital
  return (liquidity, amounts)

/-- Solve a range against the capital available for it. -/
def planRange (request : RangePlanRequest) : Result RangePlan := do
  planChecks request
  let (liquidity, amounts) ← planAmounts request
  let minimums ← minimumAmounts amounts request.slippageBps
  let tick ← getTickAtSqrtRatio request.sqrtPriceX96
  let status ← rangeStatus tick request.tickLower request.tickUpper
  return {
    tickLower := request.tickLower
    tickUpper := request.tickUpper
    tickSpacing := request.tickSpacing
    sqrtPriceX96 := toString request.sqrtPriceX96
    tick
    side := status.side
    liquidity := toString liquidity
    amount0 := toString amounts.amount0
    amount1 := toString amounts.amount1
    amount0Min := toString minimums.amount0Min
    amount1Min := toString minimums.amount1Min
    unused0 := toString (request.amount0 - amounts.amount0)
    unused1 := toString (request.amount1 - amounts.amount1)
    slippageBps := request.slippageBps }

end RangePlan
end Atra
