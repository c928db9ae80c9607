import Atra.RiskTypes
/-!
# Quotes — what the execution and liquidity adapters answer

The quotes of the v2 router and of the v2 pools, as functions of what the chain answers.  A quote's minimum is its
expected amount less `bpsOf` of the requested slippage, rounded up; the engine measures the pair again with
`impliedSlippageBps`, rounded up once more.  `Haircut` names such a pair and `Haircut.implied_le_iff` says when the two
roundings agree.
-/
namespace Atra

/-! ## Requests and quotes -/

structure QuoteRequest where
  chain : ChainId
  tokenIn : TokenRef
  tokenOut : TokenRef
  amountIn : String
  slippageBps : Nat
  /-- The address that will send the transaction. -/
  sender : String
deriving DecidableEq, Repr

/-- A quote for a swap; `R` is the adapter's private data for building the transaction. -/
structure ExecutionQuote (R : Type) where
  chain : ChainId
  protocol : String
  contract : String
  programIds : Option (List String)
  tokenIn : TokenRef
  tokenOut : TokenRef
  amountIn : String
  expectedAmountOut : String
  minAmountOut : String
  slippageBps : Nat
  priceImpactBps : Nat
  quotedAt : Int
  source : String
  marketId : String
  feeEstimate : FeeEstimate
  routeData : Option R
deriving DecidableEq, Repr

structure LpTokenInfo where
  address : String
  decimals : Nat
  symbol : Option String
deriving DecidableEq, Repr

/-- A pool as the chain reports it. -/
structure LpPoolState where
  chain : ChainId
  protocol : String
  poolId : String
  stable : Bool
  token0 : LpTokenInfo
  token1 : LpTokenInfo
  reserve0 : String
  reserve1 : String
  totalSupply : String
  lpTokenDecimals : Nat
  observedAt : Int
deriving DecidableEq, Repr

structure LpAddQuoteRequest where
  poolId : String
  amount0Desired : String
  amount1Desired : String
  slippageBps : Nat
  sender : String
deriving DecidableEq, Repr

structure LpAddQuote (R : Type) where
  chain : ChainId
  protocol : String
  poolId : String
  contract : String
  amount0 : String
  amount1 : String
  min0 : String
  min1 : String
  expectedLpTokens : String
  minLpTokens : String
  slippageBps : Nat
  quotedAt : Int
  source : String
  feeEstimate : FeeEstimate
  routeData : Option R
deriving DecidableEq, Repr

structure LpRemoveQuoteRequest where
  poolId : String
  lpTokens : String
  slippageBps : Nat
  sender : String
deriving DecidableEq, Repr

structure LpRemoveQuote (R : Type) where
  chain : ChainId
  protocol : String
  poolId : String
  contract : String
  lpTokens : String
  expected0 : String
  expected1 : String
  min0 : String
  min1 : String
  slippageBps : Nat
  quotedAt : Int
  source : String
  feeEstimate : FeeEstimate
  routeData : Option R
deriving DecidableEq, Repr

/-! ## The v2 router -/

open Money

def ZERO_ADDRESS : String := "0x0000000000000000000000000000000000000000"
def SWAP_GAS_LIMIT : Nat := 250000
def ADD_GAS_LIMIT : Nat := 260000
def REMOVE_GAS_LIMIT : Nat := 220000
def APPROVE_GAS_LIMIT : Nat := 60000
def DEADLINE_SECONDS : Nat := 300

/-- A fee estimate at the current gas price plus a quarter. -/
def feeEstimate (gasLimit gasPrice : Nat) (estimatedAt : Int) : FeeEstimate :=
  ⟨estimatedAt, .evm (toString gasLimit) (toString (gasPrice * 125 / 100))⟩

/-- The client library's address predicate and the platform. -/
structure EvmHost extends Host where
  isAddress : String → Bool

def isSender (host : EvmHost) (s : String) : Bool := host.isAddress s && host.toLowerCase s != ZERO_ADDRESS

structure V2RouterAdapter where
  chain : ChainId
  protocol : String
  router : String

structure V2RouteData where
  path : List String
  stable : Bool
  deadlineSeconds : Nat
  recipient : String
deriving DecidableEq, Repr

/-- What the chain answers while a swap is quoted, call by call. -/
structure RouterAnswers where
  route : Result (List Nat)
  amounts : Result (List Nat)
  gasPrice : Result Nat
  probe : Result (List Nat)
  quotedAt : Int

def V2RouterAdapter.supportsRoute (host : EvmHost) (route : Result (List Nat)) (tokenIn tokenOut : String) : Bool :=
  host.isAddress tokenIn && host.isAddress tokenOut && host.toLowerCase tokenIn != host.toLowerCase tokenOut &&
    tokenIn != EVM_NATIVE_SENTINEL && tokenOut != EVM_NATIVE_SENTINEL && route.isOk

/-- The realised price of the trade against the marginal price of a tiny one, rounded up and clamped. -/
def priceImpactBps (amountIn expectedOut probeIn probeOut : Int) : Result Nat :=
  if probeOut ≤ 0 then pure 10000
  else if probeOut * amountIn = 0 then throw ⟨.internal, "Division by zero"⟩
  else
    let impact := ((probeOut * amountIn - expectedOut * probeIn) * 10000 + probeOut * amountIn - 1).tdiv
      (probeOut * amountIn)
    pure (max 0 (min 10000 impact)).toNat

def V2RouterAdapter.quote (adapter : V2RouterAdapter) (host : EvmHost) (rpc : RouterAnswers) (request : QuoteRequest) :
    Result (ExecutionQuote V2RouteData) :=
  if !isSender host request.sender then throw ⟨.schemaInvalid, "A quote needs the sending wallet address"⟩
  else if !supportsRoute host rpc.route request.tokenIn.address request.tokenOut.address then
    throw ⟨.adapterUnavailable, "No route between these tokens"⟩
  else do
    let amountIn ← amountToBigint request.amountIn
    let amounts ← rpc.amounts
    let gasPrice ← rpc.gasPrice
    let expectedOut : Int := amounts.getLast?.getD 0
    if expectedOut ≤ 0 then throw ⟨.adapterUnavailable, "Router quoted zero output"⟩
    else
      let minOut := expectedOut - (← bpsOf expectedOut request.slippageBps)
      let probe ← rpc.probe
      let probeIn := if amountIn / 1000 > 0 then amountIn / 1000 else 1
      let impact ← priceImpactBps amountIn expectedOut probeIn (probe.getLast?.getD 0 : Nat)
      return {
        chain := adapter.chain
        protocol := adapter.protocol
        contract := host.toLowerCase adapter.router
        programIds := none
        tokenIn := request.tokenIn
        tokenOut := request.tokenOut
        amountIn := toString amountIn
        expectedAmountOut := toString expectedOut
        minAmountOut := toString minOut
        slippageBps := request.slippageBps
        priceImpactBps := impact
        quotedAt := rpc.quotedAt
        source := adapter.protocol ++ "-getAmountsOut"
        marketId := host.toLowerCase request.tokenIn.address ++ ":" ++ host.toLowerCase request.tokenOut.address
        feeEstimate := feeEstimate SWAP_GAS_LIMIT gasPrice rpc.quotedAt
        routeData := some
          { path := [request.tokenIn.address, request.tokenOut.address], stable := false, deadlineSeconds := DEADLINE_SECONDS
            recipient := request.sender } }

/-! ## The v2 pools -/

inductive LpDialect where
  | aerodrome | uniswapV2
deriving DecidableEq, Repr

structure V2PoolLpAdapter where
  chain : ChainId
  protocol : String
  dialect : LpDialect
  router : String

structure V2LpRoute where
  token0 : String
  token1 : String
  stable : Bool
  recipient : String
  deadlineSeconds : Nat
deriving DecidableEq, Repr

/-- What the chain answers while a pool operation is quoted: the pool, the router's own quotes and the gas price. -/
structure PoolAnswers where
  pool : Result LpPoolState
  quoteAddLiquidity : Result (Nat × Nat × Nat)
  quoteRemoveLiquidity : Result (Nat × Nat)
  gasPrice : Result Nat
  quotedAt : Int

/-- The desired amounts adjusted to the pool's ratio: all of one asset, at most the desired amount of the other. -/
def ratioAmounts (desired0 desired1 reserve0 reserve1 : Int) : Result (Int × Int) := do
  let optimal1 ← floorDiv (desired0 * reserve1) reserve0
  if optimal1 ≤ desired1 then return (desired0, optimal1)
  else return (← floorDiv (desired1 * reserve0) reserve1, desired1)

/-- The router's ratio adjustment and the pair's mint formula. -/
def v2AddQuote (pool : LpPoolState) (desired0 desired1 : Int) : Result (Int × Int × Int) := do
  let reserve0 ← amountToBigint pool.reserve0
  let reserve1 ← amountToBigint pool.reserve1
  let totalSupply ← amountToBigint pool.totalSupply
  if reserve0 ≤ 0 ∨ reserve1 ≤ 0 ∨ totalSupply ≤ 0 then throw ⟨.adapterUnavailable, "The pool has no reserves"⟩
  else
    let (amount0, amount1) ← ratioAmounts desired0 desired1 reserve0 reserve1
    let byToken0 ← floorDiv (amount0 * totalSupply) reserve0
    let byToken1 ← floorDiv (amount1 * totalSupply) reserve1
    return (amount0, amount1, if byToken0 < byToken1 then byToken0 else byToken1)

/-- A holder's share of the reserves: what a burn would return. -/
def shareOfReserves (pool : LpPoolState) (lpTokens : Int) : Result (Int × Int) := do
  let totalSupply ← amountToBigint pool.totalSupply
  if totalSupply ≤ 0 ∨ lpTokens ≤ 0 then return (0, 0)
  else
    let amount0 ← floorDiv (lpTokens * (← amountToBigint pool.reserve0)) totalSupply
    let amount1 ← floorDiv (lpTokens * (← amountToBigint pool.reserve1)) totalSupply
    return (amount0, amount1)

/-- The amounts an add pulls and the liquidity it mints: the router's answer, or the pool's formula. -/
def V2PoolLpAdapter.addAmounts (adapter : V2PoolLpAdapter) (rpc : PoolAnswers) (pool : LpPoolState)
    (desired0 desired1 : Int) : Result (Int × Int × Int) :=
  match adapter.dialect with
  | .aerodrome => return (← rpc.quoteAddLiquidity).map Int.ofNat (Prod.map Int.ofNat Int.ofNat)
  | .uniswapV2 => v2AddQuote pool desired0 desired1

/-- The amounts a removal returns: the router's answer, or the share of the reserves. -/
def V2PoolLpAdapter.removeAmounts (adapter : V2PoolLpAdapter) (rpc : PoolAnswers) (pool : LpPoolState)
    (lpTokens : Int) : Result (Int × Int) :=
  match adapter.dialect with
  | .aerodrome => return (← rpc.quoteRemoveLiquidity).map Int.ofNat Int.ofNat
  | .uniswapV2 => shareOfReserves pool lpTokens

def V2PoolLpAdapter.sourceName (adapter : V2PoolLpAdapter) (call : String) : String :=
  adapter.protocol ++ (match adapter.dialect with
    | .aerodrome => call
    | .uniswapV2 => "-reserves")

def v2LpRoute (pool : LpPoolState) (recipient : String) : V2LpRoute :=
  ⟨pool.token0.address, pool.token1.address, pool.stable, recipient, DEADLINE_SECONDS⟩

def V2PoolLpAdapter.quoteAdd (adapter : V2PoolLpAdapter) (host : EvmHost) (rpc : PoolAnswers)
    (request : LpAddQuoteRequest) : Result (LpAddQuote V2LpRoute) :=
  if !isSender host request.sender then throw ⟨.schemaInvalid, "A quote needs the sending wallet address"⟩
  else do
    let pool ← rpc.pool
    let desired0 ← amountToBigint request.amount0Desired
    let desired1 ← amountToBigint request.amount1Desired
    if desired0 ≤ 0 ∨ desired1 ≤ 0 then throw ⟨.schemaInvalid, "An add needs a positive amount of both assets"⟩
    else
      let (amount0, amount1, liquidity) ← adapter.addAmounts rpc pool desired0 desired1
      if liquidity ≤ 0 then throw ⟨.adapterUnavailable, "The pool would mint zero LP tokens"⟩
      else
        let gasPrice ← rpc.gasPrice
        let min0 := amount0 - (← bpsOf amount0 request.slippageBps)
        let min1 := amount1 - (← bpsOf amount1 request.slippageBps)
        let minLpTokens := liquidity - (← bpsOf liquidity request.slippageBps)
        return {
          chain := adapter.chain
          protocol := adapter.protocol
          poolId := pool.poolId
          contract := adapter.router
          amount0 := toString amount0
          amount1 := toString amount1
          min0 := toString min0
          min1 := toString min1
          expectedLpTokens := toString liquidity
          minLpTokens := toString minLpTokens
          slippageBps := request.slippageBps
          quotedAt := rpc.quotedAt
          source := adapter.sourceName "-quoteAddLiquidity"
          feeEstimate := feeEstimate ADD_GAS_LIMIT gasPrice rpc.quotedAt
          routeData := some (v2LpRoute pool request.sender) }

def V2PoolLpAdapter.quoteRemove (adapter : V2PoolLpAdapter) (host : EvmHost) (rpc : PoolAnswers)
    (request : LpRemoveQuoteRequest) : Result (LpRemoveQuote V2LpRoute) :=
  if !isSender host request.sender then throw ⟨.schemaInvalid, "A quote needs the sending wallet address"⟩
  else do
    let pool ← rpc.pool
    let lpTokens ← amountToBigint request.lpTokens
    if lpTokens ≤ 0 then throw ⟨.schemaInvalid, "A removal needs a positive LP amount"⟩
    else
      let (expected0, expected1) ← adapter.removeAmounts rpc pool lpTokens
      let gasPrice ← rpc.gasPrice
      let min0 := expected0 - (← bpsOf expected0 request.slippageBps)
      let min1 := expected1 - (← bpsOf expected1 request.slippageBps)
      return {
        chain := adapter.chain
        protocol := adapter.protocol
        poolId := pool.poolId
        contract := adapter.router
        lpTokens := toString lpTokens
        expected0 := toString expected0
        expected1 := toString expected1
        min0 := toString min0
        min1 := toString min1
        slippageBps := request.slippageBps
        quotedAt := rpc.quotedAt
        source := adapter.sourceName "-quoteRemoveLiquidity"
        feeEstimate := feeEstimate REMOVE_GAS_LIMIT gasPrice rpc.quotedAt
        routeData := some (v2LpRoute pool request.sender) }

/-! ## A minimum that is a haircut of what is expected -/

/-- The pair of texts an adapter answers: a positive amount, and that amount less the rounded-up slippage. -/
structure Haircut (expected minimum : String) (bps : Nat) (amount : Int) : Prop where
  amount_pos : 0 < amount
  bps_le : bps ≤ 10000
  expected_eq : expected = toString amount
  minimum_eq : minimum = toString (amount - Rounding.up (amount * bps) 10000)

theorem haircut_le {amount : Int} {bps : Nat} (h : 0 ≤ amount) (hb : bps ≤ 10000) :
    0 ≤ Rounding.up (amount * bps) 10000 ∧ Rounding.up (amount * bps) 10000 ≤ amount :=
  ⟨Rounding.up_nonneg (by decide) (Int.mul_nonneg h (by omega)), Rounding.up_part_le (by decide) h (by omega)⟩

/-- **The slippage a haircut implies** is within the limit it was made with exactly when the haircut was not rounded. -/
theorem up_haircut_le_iff {amount : Int} {bps : Nat} (h : 0 < amount) :
    Rounding.up ((amount - (amount - Rounding.up (amount * bps) 10000)) * 10000) amount ≤ bps ↔
      (10000 : Int) ∣ amount * bps := by
  rw [Rounding.up_le_iff h, ← Rounding.up_mul_le_iff_dvd (by decide), Int.sub_sub_self, Int.mul_comm (bps : Int) amount]

namespace Haircut

variable {expected minimum : String} {bps : Nat} {amount : Int}

theorem expected_ok (h : Haircut expected minimum bps amount) : amountToBigint expected = .ok amount := by
  rw [h.expected_eq]
  exact amountToBigint_intToString h.amount_pos.le

theorem minimum_ok (h : Haircut expected minimum bps amount) :
    amountToBigint minimum = .ok (amount - Rounding.up (amount * bps) 10000) := by
  have hle := haircut_le h.amount_pos.le h.bps_le
  rw [h.minimum_eq]
  exact amountToBigint_intToString (by omega)

theorem implied_ok (h : Haircut expected minimum bps amount) :
    impliedSlippageBps amount (amount - Rounding.up (amount * bps) 10000) =
      .ok (Rounding.up ((amount - (amount - Rounding.up (amount * bps) 10000)) * 10000) amount) := by
  have hle := haircut_le h.amount_pos.le h.bps_le
  exact impliedSlippageBps_eq h.amount_pos (by omega) (by omega)

/-- **A quote passes the limit it was made with exactly when its haircut is a whole number of units.** -/
theorem implied_le_iff (h : Haircut expected minimum bps amount) : ∃ m implied, amountToBigint minimum = .ok m ∧
    impliedSlippageBps amount m = .ok implied ∧ (implied ≤ bps ↔ (10000 : Int) ∣ amount * bps) :=
  ⟨_, _, h.minimum_ok, h.implied_ok, up_haircut_le_iff h.amount_pos⟩

end Haircut

theorem haircut_of_bpsOf {amount cut : Int} {bps : Nat} (hpos : 0 < amount) (h : bpsOf amount bps = .ok cut) :
    Haircut (toString amount) (toString (amount - cut)) bps amount := by
  have hb : bps ≤ 10000 := by
    by_contra hb
    unfold bpsOf at h
    rw [if_pos (by omega)] at h
    cases h
  rw [bpsOf_eq hb] at h
  obtain rfl := Except.ok.inj h
  exact ⟨hpos, hb, rfl, rfl⟩

/-! ## What each adapter answers -/

variable {host : EvmHost}

/-- **A router quote** names its pair and amounts, and its minimum is a haircut of a positive output. -/
theorem V2RouterAdapter.quote_ok {adapter : V2RouterAdapter} {rpc : RouterAnswers} {request : QuoteRequest}
    {q : ExecutionQuote V2RouteData} (h : adapter.quote host rpc request = .ok q) :
    q.slippageBps = request.slippageBps ∧ q.amountIn = toString (Decimal.natOf request.amountIn.toList) ∧
      ∃ amount, Haircut q.expectedAmountOut q.minAmountOut request.slippageBps amount := by
  unfold quote at h
  split at h
  · cases h
  split at h
  · cases h
  simp only [bind_ok] at h
  obtain ⟨amountIn, ha, amounts, -, gasPrice, -, h⟩ := h
  split at h
  · cases h
  rename_i hpos
  simp only [bind_ok, pure_ok] at h
  obtain ⟨cut, hcut, probe, -, impact, -, rfl⟩ := h
  obtain ⟨-, rfl⟩ := amountToBigint_ok.1 ha
  exact ⟨rfl, rfl, _, haircut_of_bpsOf (by omega) hcut⟩

/-- **An add quote**: the minimum LP amount is a haircut of a positive minted amount. -/
theorem V2PoolLpAdapter.quoteAdd_ok {adapter : V2PoolLpAdapter} {rpc : PoolAnswers} {request : LpAddQuoteRequest}
    {q : LpAddQuote V2LpRoute} (h : adapter.quoteAdd host rpc request = .ok q) :
    q.slippageBps = request.slippageBps ∧
      ∃ amount, Haircut q.expectedLpTokens q.minLpTokens request.slippageBps amount := by
  unfold quoteAdd at h
  split at h
  · cases h
  simp only [bind_ok] at h
  obtain ⟨pool, -, desired0, -, desired1, -, h⟩ := h
  split at h
  · cases h
  simp only [bind_ok] at h
  obtain ⟨⟨amount0, amount1, liquidity⟩, -, h⟩ := h
  simp only at h
  split at h
  · cases h
  rename_i hpos
  simp only [bind_ok, pure_ok] at h
  obtain ⟨gasPrice, -, cut0, -, cut1, -, cut, hcut, rfl⟩ := h
  exact ⟨rfl, _, haircut_of_bpsOf (by omega) hcut⟩

/-- **A removal quote**: each minimum is a haircut of its expected amount, where that is positive. -/
theorem V2PoolLpAdapter.quoteRemove_ok {adapter : V2PoolLpAdapter} {rpc : PoolAnswers} {request : LpRemoveQuoteRequest}
    {q : LpRemoveQuote V2LpRoute} (h : adapter.quoteRemove host rpc request = .ok q) :
    q.slippageBps = request.slippageBps ∧ ∃ amount0 amount1,
      q.expected0 = toString amount0 ∧ q.expected1 = toString amount1 ∧
      (0 < amount0 → Haircut q.expected0 q.min0 request.slippageBps amount0) ∧
      (0 < amount1 → Haircut q.expected1 q.min1 request.slippageBps amount1) := by
  unfold quoteRemove at h
  split at h
  · cases h
  simp only [bind_ok] at h
  obtain ⟨pool, -, lpTokens, -, h⟩ := h
  split at h
  · cases h
  simp only [bind_ok] at h
  obtain ⟨⟨expected0, expected1⟩, -, h⟩ := h
  simp only [pure_ok] at h
  obtain ⟨gasPrice, -, cut0, h0, cut1, h1, rfl⟩ := h
  exact ⟨rfl, expected0, expected1, rfl, rfl, fun hp => haircut_of_bpsOf hp h0, fun hp => haircut_of_bpsOf hp h1⟩

end Atra
