import Atra.Money
import Mathlib.Data.Int.Bitwise
/-!
# TickMath — v3 ticks and sqrt prices

The pools' own arithmetic: a price is a Q64.96 square root of token1 per token0, and tick `t` stands for `1.0001^t`.  The forward
map multiplies one Q128.128 factor for each bit of the tick; the inverse is a fixed-point base-2 logarithm of fourteen bits,
with two error bounds around it and one comparison where they straddle a tick.  A liquidity's tokens are floored, so they are what
a burn returns and never more.
-/
namespace Atra
namespace TickMath

open Money

/-- `2^96`, the fixed-point scale of `sqrtPriceX96`. -/
def Q96 : Nat := 1 <<< 96
def Q128 : Nat := 1 <<< 128
def Q32 : Nat := 1 <<< 32
def UINT256_MAX : Nat := (1 <<< 256) - 1

def MIN_TICK : Int := -887272
def MAX_TICK : Int := 887272
def MIN_SQRT_RATIO : Nat := 4295128739
def MAX_SQRT_RATIO : Nat := 1461446703485210103287273052203988822378723970342

/-- The factors of the forward map, one for each bit of the tick. -/
def SQRT_RATIO_FACTORS : List Nat := [
  0xfffcb933bd6fad37aa2d162d1a594001,
  0xfff97272373d413259a46990580e213a,
  0xfff2e50f5f656932ef12357cf3c7fdcc,
  0xffe5caca7e10e4e61c3624eaa0941cd0,
  0xffcb9843d60f6159c9db58835c926644,
  0xff973b41fa98c081472e6896dfb254c0,
  0xff2ea16466c96a3843ec78b326b52861,
  0xfe5dee046a99a2a811c461f1969c3053,
  0xfcbe86c7900a88aedcffc83b479aa3a4,
  0xf987a7253ac413176f2b074cf7815e54,
  0xf3392b0822b70005940c7a398e4b70f3,
  0xe7159475a2c29b7443b29c7fa6e889d9,
  0xd097f3bdfd2022b8845ad8f792aa5825,
  0xa9f746462d870fdf8a65dc1f90e061e5,
  0x70d869a156d2a1b890bb3df62baf32f7,
  0x31be135f97d08fd981231505542fcfa6,
  0x9aa508b5b7a84e1c677de54f3e99bc9,
  0x5d6af8dedb81196699c329225ee604,
  0x2216e584f5fa1ea926041bedfe98,
  0x48a170391f7dc42444e8fa2]

/-- The binary-search steps of the most-significant-bit scan. -/
def MSB_SHIFTS : List Nat := [7, 6, 5, 4, 3, 2, 1]

/-- `1 / log2 (sqrt 1.0001)` in Q64, and the two error bounds around the logarithm it scales. -/
def LOG_SQRT_10001 : Int := 255738958999603826347141
def TICK_LOW_ERROR : Int := 3402992956809132418596140100660247210
def TICK_HIGH_ERROR : Int := 291339464771989622907027621153398088495

def assertTick (tick : Int) (field : String) : Result Unit :=
  refuseWhen (tick < MIN_TICK ∨ MAX_TICK < tick) ⟨.schemaInvalid, field ++ " is outside the v3 tick range"⟩

def assertSqrtRatio (sqrtPriceX96 : Nat) : Result Unit :=
  refuseWhen (sqrtPriceX96 < MIN_SQRT_RATIO ∨ MAX_SQRT_RATIO ≤ sqrtPriceX96)
    ⟨.schemaInvalid, "sqrtPriceX96 is outside the v3 price range"⟩

/-! ## The forward map -/

/-- One bit of the tick: its factor joins the product where the bit is set. -/
def multiplyBit (absTick ratio : Nat) (entry : Nat × Nat) : Nat :=
  if absTick &&& (1 <<< entry.2) ≠ 0 then (ratio * entry.1) >>> 128 else ratio

/-- The Q128.128 product of the factors of a tick's bits: the ratio of the negative tick. -/
def accumulate (absTick : Nat) : Nat := SQRT_RATIO_FACTORS.zipIdx.foldl (multiplyBit absTick) Q128

def ratioAt (tick : Int) : Nat :=
  let ratio := accumulate tick.natAbs
  if 0 < tick then UINT256_MAX / ratio else ratio

def roundUpRatio (ratio : Nat) : Nat := (ratio >>> 32) + if ratio % Q32 = 0 then 0 else 1

/-- `sqrtPriceX96` at a tick. -/
def getSqrtRatioAtTick (tick : Int) : Result Nat := do
  assertTick tick "tick"
  return roundUpRatio (ratioAt tick)

/-! ## The inverse -/

/-- One step of the scan: what is left of the number, and the position so far. -/
def msbStep (st : Nat × Nat) (shift : Nat) : Nat × Nat :=
  let step := (if (1 <<< (1 <<< shift)) - 1 < st.1 then 1 else 0) <<< shift
  (st.1 >>> step, st.2 ||| step)

def mostSignificantBit (ratio : Nat) : Nat :=
  let st := MSB_SHIFTS.foldl msbStep (ratio, 0)
  st.2 ||| if 1 < st.1 then 1 else 0

/-- One squaring of the remainder, which finds a bit of the logarithm. -/
def logStep (st : Nat × Int) (i : Nat) : Nat × Int :=
  let squared := (st.1 * st.1) >>> 127
  let bit := squared >>> 128
  (squared >>> bit, Int.lor st.2 (bit <<< (63 - i) : Nat))

/-- The base-2 logarithm of a Q128.128 ratio, in Q64. -/
def log2 (ratio : Nat) : Int :=
  let msb := mostSignificantBit ratio
  let remainder := if 128 ≤ msb then ratio >>> (msb - 127) else ratio <<< (127 - msb)
  ((List.range 14).foldl logStep (remainder, ((msb : Int) - 128) <<< (64 : Nat))).2

/-- The greatest tick whose `sqrtPriceX96` is at most the given one. -/
def getTickAtSqrtRatio (sqrtPriceX96 : Nat) : Result Int := do
  assertSqrtRatio sqrtPriceX96
  let logSqrt10001 := log2 (sqrtPriceX96 <<< 32) * LOG_SQRT_10001
  let tickLow := (logSqrt10001 - TICK_LOW_ERROR) >>> (128 : Nat)
  let tickHigh := (logSqrt10001 + TICK_HIGH_ERROR) >>> (128 : Nat)
  if tickLow = tickHigh then return tickLow
  else
    -- the bounds straddle a tick boundary, so ask the forward conversion
    let high ← getSqrtRatioAtTick tickHigh
    return if high ≤ sqrtPriceX96 then tickHigh else tickLow

/-! ## The price of a pool -/

def PRICE_DECIMALS : Nat := 18
def MAX_DECIMALS : Int := 36

def assertDecimals (decimals : Int) (field : String) : Result Unit :=
  refuseWhen (decimals < 0 ∨ MAX_DECIMALS < decimals) ⟨.schemaInvalid, "Unsupported token decimals in " ++ field⟩

/-- One whole token0 in whole token1, floored to exactly eighteen digits. -/
def priceFromSqrtPriceX96 (sqrtPriceX96 : Nat) (decimals0 decimals1 : Int) : Result String := do
  assertSqrtRatio sqrtPriceX96
  assertDecimals decimals0 "decimals0"
  assertDecimals decimals1 "decimals1"
  let scaled ← floorDiv (sqrtPriceX96 * sqrtPriceX96 * 10 ^ decimals0.toNat * PRICE_SCALE) (Q96 * Q96 * 10 ^ decimals1.toNat)
  return toString (scaled.tdiv PRICE_SCALE) ++ "." ++ padStart (toString (scaled.tmod PRICE_SCALE)) PRICE_DECIMALS

/-! ## What a position is made of -/

structure PositionAmounts where
  amount0 : Int
  amount1 : Int
deriving DecidableEq, Repr

def assertRange (tickLower tickUpper : Int) : Result Unit := do
  assertTick tickLower "tickLower"
  assertTick tickUpper "tickUpper"
  refuseWhen (tickUpper ≤ tickLower) ⟨.schemaInvalid, "Position range is empty or inverted"⟩

/-- Token0 of a liquidity between two sqrt ratios: the contract divides twice, and floors each time. -/
def getAmount0ForLiquidity (a b : Nat) (liquidity : Int) : Result Int := do
  let low := min a b
  let high := max a b
  let scaled ← floorDiv (liquidity <<< (96 : Nat) * (high - low)) high
  floorDiv scaled low

/-- Token1 of a liquidity between two sqrt ratios. -/
def getAmount1ForLiquidity (a b : Nat) (liquidity : Int) : Result Int :=
  floorDiv (liquidity * (max a b - min a b : Int)) Q96

/-- Both tokens of a liquidity inside its range. -/
def amountsInside (sqrtPriceX96 lower upper : Nat) (liquidity : Int) : Result PositionAmounts := do
  let amount0 ← getAmount0ForLiquidity sqrtPriceX96 upper liquidity
  let amount1 ← getAmount1ForLiquidity lower sqrtPriceX96 liquidity
  return ⟨amount0, amount1⟩

/-- The three regions of a price: below its range a position is all token0, above it all token1. -/
def amountsAt (sqrtPriceX96 lower upper : Nat) (liquidity : Int) : Result PositionAmounts :=
  if sqrtPriceX96 ≤ lower then (⟨·, 0⟩) <$> getAmount0ForLiquidity lower upper liquidity
  else if sqrtPriceX96 < upper then amountsInside sqrtPriceX96 lower upper liquidity
  else (⟨0, ·⟩) <$> getAmount1ForLiquidity lower upper liquidity

/-- What a position that holds something is made of. -/
def amountsOf (sqrtPriceX96 : Nat) (tickLower tickUpper liquidity : Int) : Result PositionAmounts := do
  let lower ← getSqrtRatioAtTick tickLower
  let upper ← getSqrtRatioAtTick tickUpper
  amountsAt sqrtPriceX96 lower upper liquidity

def getAmountsForLiquidity (sqrtPriceX96 : Nat) (tickLower tickUpper liquidity : Int) : Result PositionAmounts := do
  assertSqrtRatio sqrtPriceX96
  assertRange tickLower tickUpper
  refuseWhen (liquidity < 0) ⟨.schemaInvalid, "Position liquidity is negative"⟩
  if liquidity = 0 then return ⟨0, 0⟩ else amountsOf sqrtPriceX96 tickLower tickUpper liquidity

/-- Whether a position earns at a tick: the upper bound is exclusive. -/
def isTickInRange (tick tickLower tickUpper : Int) : Result Bool := do
  assertTick tick "tick"
  assertTick tickLower "tickLower"
  assertTick tickUpper "tickUpper"
  return decide (tickLower ≤ tick ∧ tick < tickUpper)

end TickMath
end Atra
