import Atra.LiquidityStore
import Atra.Proposal
/-!
# LpProposal — from a liquidity decision to the action the engine judges

The twin of the trading builder for v2 pools: an add at half the capital a side, a removal of half or all of the position, or
a fee claim.  The snapshot carries the pool's TVL, the derived price of its LP token and the LP slice of the ledger.
-/
namespace Atra

inductive LpAgentAction where
  | HOLD | ADD_LIQUIDITY | REMOVE_LIQUIDITY | REBALANCE | COLLECT_FEES | EXIT
deriving DecidableEq, Repr

def LpAgentAction.name : LpAgentAction → String
  | .HOLD => "HOLD"
  | .ADD_LIQUIDITY => "ADD_LIQUIDITY"
  | .REMOVE_LIQUIDITY => "REMOVE_LIQUIDITY"
  | .REBALANCE => "REBALANCE"
  | .COLLECT_FEES => "COLLECT_FEES"
  | .EXIT => "EXIT"

structure LpDecision where
  action : LpAgentAction
  capitalUsd : String
  reason : String

/-- A wallet's position in a pool, as far as the builder reads it. -/
structure LpPositionState where
  lpTokens : String
  observedAt : Int
  source : String

structure LpClaimPlan where
  contract : String
  claimable0 : String
  claimable1 : String
  feeEstimate : FeeEstimate

inductive LpPlan (R : Type) where
  | add (quote : LpAddQuote R)
  | remove (quote : LpRemoveQuote R) (closes : Bool)
  | claim (plan : LpClaimPlan)

structure LpProposalRequest where
  chain : ChainId
  mode : Mode
  decisionCycleId : String
  source : ActionSource
  walletAddress : String
  decision : LpDecision
  policy : RiskPolicy
  pool : LpPoolState
  /-- The chain's view of the position in LIVE, the ledger's in PAPER. -/
  position : Option LpPositionState
  prices : Record Stamped

/-- The adapter a build asks, and what the wallet and the clock answer. -/
structure LpProposalAnswers (R : Type) where
  protocol : String
  claimsFees : Bool
  quoteAdd : LpAddQuoteRequest → Result (LpAddQuote R)
  quoteRemove : LpRemoveQuoteRequest → Result (LpRemoveQuote R)
  claimPlan : Result LpClaimPlan
  readBalances : List String → Result WalletReading
  actionId : String
  proposedAt : Int
  now : Int

structure BuiltLpProposal (R : Type) where
  action : ProposedAction
  plan : LpPlan R
  snapshot : MarketSnapshot
  priceLookup : PriceLookup
  token0Usd : String
  token1Usd : String
  nativeUsd : String
  side : TradeSide
  recorded : LpRecordedAction

namespace LpProposalBuilder

open Money ProposalBuilder

/-! ## The pool at market prices -/

def LpTokenInfo.ref (t : LpTokenInfo) : TokenRef := ⟨t.address, t.decimals⟩

def valueOf (amount : String) (decimals : Nat) (atto : Int) (rounding : Direction) : Result Int := do
  nativeToUsdMicros (← amountToBigint amount) decimals atto rounding

/-- The value of the reserves, rounded down. -/
def poolTvlMicros (pool : LpPoolState) (atto0 atto1 : Int) : Result Int :=
  return (← valueOf pool.reserve0 pool.token0.decimals atto0 .floor) +
    (← valueOf pool.reserve1 pool.token1.decimals atto1 .floor)

/-- How far the pool's own price is from the market's, in basis points, rounded up. -/
def reserveValueDeviationBps (pool : LpPoolState) (atto0 atto1 : Int) : Result Int := do
  let v0 ← valueOf pool.reserve0 pool.token0.decimals atto0 .floor
  let v1 ← valueOf pool.reserve1 pool.token1.decimals atto1 .floor
  let low := if v0 < v1 then v0 else v1
  let high := if v0 < v1 then v1 else v0
  return if low ≤ 0 then 10000 else ((high - low) * 10000 + low - 1).tdiv low

/-- USD per whole LP token in atto-USD, rounded down. -/
def lpTokenPriceAtto (pool : LpPoolState) (tvlMicros : Int) : Result Int := do
  let totalSupply ← amountToBigint pool.totalSupply
  return if totalSupply ≤ 0 then 0
    else (tvlMicros * (PRICE_SCALE.tdiv USD_SCALE) * 10 ^ pool.lpTokenDecimals).tdiv totalSupply

def attoToPrice (atto : Int) : String :=
  toString (atto.tdiv PRICE_SCALE) ++ "." ++ padStart (toString (atto.tmod PRICE_SCALE)) 18

/-! ## The actions -/

/-- The atto prices and the TVL a build works with. -/
structure Market where
  price0 : Stamped
  price1 : Stamped
  native : Stamped
  atto0 : Int
  atto1 : Int
  tvl : Int

variable {R : Type}

def base (env : LpProposalAnswers R) (request : LpProposalRequest) (kind : ActionKind) (contract amountIn : String)
    (quote : Option Quote) (feeEstimate : FeeEstimate) (lp : LpLeg) : ProposedAction :=
  { schemaVersion := 1
    actionId := env.actionId
    decisionCycleId := request.decisionCycleId
    idempotencyKey := UNKEYED
    proposedAt := env.proposedAt
    mode := request.mode
    source := request.source
    chain := request.chain
    kind
    protocol := env.protocol
    contract
    programIds := none
    reduceOnly := false
    tokenIn := LpTokenInfo.ref request.pool.token0
    tokenOut := LpTokenInfo.ref request.pool.token1
    amountIn
    quote
    feeEstimate
    lp := some lp
    rationale := some (jsSlice 2000 request.decision.reason) }

/-- The leg of an action: its pool and its hints. -/
def leg (request : LpProposalRequest) (capitalUsd claimableFeesUsd : String) (rebalances : Nat) : LpLeg :=
  { poolId := request.pool.poolId, capitalUsd, rebalanceIndexToday := rebalances, claimableFeesUsd, amountB := none
    minAmountA := none, minAmountB := none, lpTokens := none, claimable := none }

/-- The quote of an LP action as the engine reads it: one amount the pool returns, and its minimum. -/
def poolQuote (request : LpProposalRequest) (expected minimum : String) (slippageBps : Nat) (quotedAt : Int)
    (source : String) : Quote :=
  { expectedAmountOut := expected, minAmountOut := minimum, slippageBps, priceImpactBps := 0, quotedAt, source
    marketId := request.pool.poolId }

def addCandidate (env : LpProposalAnswers R) (request : LpProposalRequest) (rebalances : Nat) (committed : Int)
    (quote : LpAddQuote R) : ProposedAction :=
  base env request .lp_add quote.contract quote.amount0
    (some (poolQuote request quote.expectedLpTokens quote.minLpTokens quote.slippageBps quote.quotedAt quote.source))
    quote.feeEstimate
    { leg request (microsToUsd committed) "0" rebalances with
      amountB := some quote.amount1, minAmountA := some quote.min0, minAmountB := some quote.min1 }

def removeCandidate (env : LpProposalAnswers R) (request : LpProposalRequest) (rebalances : Nat) (capitalUsd : String)
    (quote : LpRemoveQuote R) : ProposedAction :=
  base env request .lp_remove quote.contract quote.expected0
    (some (poolQuote request quote.expected1 quote.min1 quote.slippageBps quote.quotedAt quote.source))
    quote.feeEstimate
    { leg request capitalUsd "0" rebalances with
      lpTokens := some quote.lpTokens, minAmountA := some quote.min0, minAmountB := some quote.min1 }

def claimCandidate (env : LpProposalAnswers R) (request : LpProposalRequest) (rebalances : Nat) (capitalUsd : String)
    (claimableUsd : Int) (plan : LpClaimPlan) : ProposedAction :=
  base env request .lp_claim plan.contract "0" none plan.feeEstimate
    { leg request capitalUsd (microsToUsd claimableUsd) rebalances with
      claimable := some ⟨plan.claimable0, plan.claimable1⟩ }

/-- A plan with its action, before the key and the schema. -/
structure Planned (R : Type) where
  plan : LpPlan R
  action : ProposedAction
  side : TradeSide
  recorded : LpRecordedAction

/-- The booked capital of the position, as the hint carries it. -/
def storedCapital (db : Db) (env : LpProposalAnswers R) (request : LpProposalRequest) : String :=
  match LiquidityStore.getPosition db request.mode request.chain env.protocol request.pool.poolId with
  | some stored => microsToUsd stored.capitalUsd
  | none => "0"

/-- An add into a volatile pool that disagrees with the market is refused. -/
def deviationGate (request : LpProposalRequest) (market : Market) : Build Unit :=
  if request.pool.stable then pure ()
  else do
    let deviation ← reserveValueDeviationBps request.pool market.atto0 market.atto1
    if deviation > request.policy.lp.maxRebalanceSlippageBps then
      refuse ("pool price deviates from the cross-checked market price by " ++ toString deviation ++ " bps (limit " ++
        toString request.policy.lp.maxRebalanceSlippageBps ++ "); not adding into a mispriced pool")
    else pure ()

def positiveCapital (desired0 desired1 : Int) : Build Unit :=
  if desired0 ≤ 0 ∨ desired1 ≤ 0 then refuse "requested capital rounds to zero base units" else pure ()

def desiredAmounts (request : LpProposalRequest) (market : Market) : Result (Int × Int) := do
  let capital ← usdToMicros request.decision.capitalUsd
  let half := capital.tdiv 2
  let desired0 ← usdToTokenUnits half request.pool.token0.decimals market.atto0
  let desired1 ← usdToTokenUnits (capital - half) request.pool.token1.decimals market.atto1
  return (desired0, desired1)

def committedMicros (request : LpProposalRequest) (market : Market) (quote : LpAddQuote R) : Result Int :=
  return (← valueOf quote.amount0 request.pool.token0.decimals market.atto0 .ceil) +
    (← valueOf quote.amount1 request.pool.token1.decimals market.atto1 .ceil)

def planAdd (env : LpProposalAnswers R) (request : LpProposalRequest) (market : Market) (rebalances : Nat) :
    Build (Planned R) := do
  deviationGate request market
  let desired ← desiredAmounts request market
  positiveCapital desired.1 desired.2
  let quote ← quoted "add quote" (env.quoteAdd
    { poolId := request.pool.poolId, amount0Desired := toString desired.1, amount1Desired := toString desired.2
      slippageBps := request.policy.lp.maxRebalanceSlippageBps, sender := request.walletAddress })
  let committed ← committedMicros request market quote
  return ⟨.add quote, addCandidate env request rebalances committed quote, .open, .ADD⟩

def heldTokens (request : LpProposalRequest) : Result Int :=
  match request.position with
  | some position => amountToBigint position.lpTokens
  | none => pure 0

def openPosition (request : LpProposalRequest) (held : Int) : Build Unit :=
  if held ≤ 0 then refuse (request.decision.action.name ++ " without an open position") else pure ()

def notDust (quote : LpRemoveQuote R) : Build Unit := do
  let expected0 ← amountToBigint quote.expected0
  if expected0 ≤ 0 then refuse "the position is dust: removal returns zero of an asset"
  else
    let expected1 ← amountToBigint quote.expected1
    if expected1 ≤ 0 then refuse "the position is dust: removal returns zero of an asset" else pure ()

/-- An exit burns everything; a removal burns half, or everything when half is nothing. -/
def planRemove (db : Db) (env : LpProposalAnswers R) (request : LpProposalRequest) (rebalances : Nat) :
    Build (Planned R) := do
  let held ← heldTokens request
  openPosition request held
  let closes := request.decision.action == .EXIT || held.tdiv 2 == 0
  let quote ← quoted "remove quote" (env.quoteRemove
    { poolId := request.pool.poolId, lpTokens := toString (if closes then held else held.tdiv 2)
      slippageBps := request.policy.lp.maxRebalanceSlippageBps, sender := request.walletAddress })
  notDust quote
  return ⟨.remove quote closes, removeCandidate env request rebalances (storedCapital db env request) quote,
    if closes then .close else .reduce, if closes then .EXIT else .REMOVE⟩

def claimAllowed (env : LpProposalAnswers R) (request : LpProposalRequest) : Build Unit :=
  if request.mode = .PAPER then refuse "fee accrual is not simulated in PAPER; there is nothing to claim"
  else if !env.claimsFees then
    refuse (env.protocol ++ " fees compound into the reserves; there is nothing to claim")
  else pure ()

def claimableMicros (request : LpProposalRequest) (market : Market) (plan : LpClaimPlan) : Result Int :=
  return (← valueOf plan.claimable0 request.pool.token0.decimals market.atto0 .floor) +
    (← valueOf plan.claimable1 request.pool.token1.decimals market.atto1 .floor)

def planClaim (db : Db) (env : LpProposalAnswers R) (request : LpProposalRequest) (market : Market) (rebalances : Nat) :
    Build (Planned R) := do
  claimAllowed env request
  let plan ← quoted "claim plan" env.claimPlan
  let claimable ← claimableMicros request market plan
  return ⟨.claim plan, claimCandidate env request rebalances (storedCapital db env request) claimable plan, .reduce,
    .COLLECT_FEES⟩

def planOf (db : Db) (env : LpProposalAnswers R) (request : LpProposalRequest) (market : Market) (rebalances : Nat) :
    Build (Planned R) :=
  match request.decision.action with
  | .HOLD => refuse "nothing to build for HOLD"
  | .ADD_LIQUIDITY => planAdd env request market rebalances
  | .REMOVE_LIQUIDITY | .EXIT => planRemove db env request rebalances
  | .COLLECT_FEES => planClaim db env request market rebalances
  | .REBALANCE => refuse "REBALANCE is not applicable to a v2 pool: it has no price range"

/-! ## The snapshot -/

/-- The LP slice: in LIVE the chain says what the wallet holds, the ledger what was paid for it. -/
def lpSnapshot (db : Db) (env : LpProposalAnswers R) (request : LpProposalRequest) : Result LpSnapshot :=
  let state := LiquidityStore.toRiskSnapshot db request.mode env.now
  match if request.mode = .LIVE then request.position else none with
  | none => pure state
  | some position => do
    let held ← amountToBigint position.lpTokens
    let holding : Option LpHolding := if held > 0 then some ⟨position.lpTokens, storedCapital db env request⟩ else none
    return { state with positions := fun key =>
      if key = lpPoolKey request.chain request.pool.poolId then holding else state.positions key }

def DERIVED : String := "derived:reserves+prices"

/-- What the position reading says of the LP token. -/
def lpBalance (env : LpProposalAnswers R) (request : LpProposalRequest) : Stamped :=
  match request.position with
  | some position => ⟨position.lpTokens, position.observedAt, position.source⟩
  | none => ⟨"0", env.now, "none"⟩

def snapshotOf (host : Host) (db : Db) (env : LpProposalAnswers R) (request : LpProposalRequest) (market : Market)
    (lpPrice : Stamped) (lpState : LpSnapshot) : MarketSnapshot :=
  let chain := request.chain
  let pool := request.pool
  let balances := balancesOf host db request.mode chain env.now env.readBalances
    [pool.token0.address, pool.token1.address, nativeAddress chain]
  { prices := recordOf [(priceKey chain pool.poolId, lpPrice), (priceKey chain (nativeAddress chain), market.native),
      (priceKey chain pool.token1.address, market.price1), (priceKey chain pool.token0.address, market.price0)]
    liquidity := recordOf []
    balances := fun key =>
      if key = balanceKey chain pool.poolId then some (lpBalance env request) else balances key
    poolLiquidity := some (recordOf
      [(liquidityKey chain pool.poolId, ⟨microsToUsd market.tvl, pool.observedAt, DERIVED⟩)])
    lp := some lpState }

def priceMarket (request : LpProposalRequest) : Build Market := do
  let price0 ← pricedToken "token0" (request.prices request.pool.token0.address)
  let price1 ← pricedToken "token1" (request.prices request.pool.token1.address)
  let native ← pricedToken "native" (request.prices (nativeAddress request.chain))
  let atto0 ← priceToAtto price0.value
  let atto1 ← priceToAtto price1.value
  if atto0 ≤ 0 ∨ atto1 ≤ 0 then refuse "a pool asset has a zero price"
  else
    let tvl ← poolTvlMicros request.pool atto0 atto1
    return ⟨price0, price1, native, atto0, atto1, tvl⟩

def notHold (request : LpProposalRequest) : Build Unit :=
  if request.decision.action = .HOLD then refuse "nothing to build for HOLD" else pure ()

def assemble (host : Host) (db : Db) (env : LpProposalAnswers R) (request : LpProposalRequest) (market : Market)
    (planned : Planned R) (lpPriceAtto : Int) (lpState : LpSnapshot) : BuiltLpProposal R :=
  let lpPrice : Stamped := ⟨attoToPrice lpPriceAtto, request.pool.observedAt, DERIVED⟩
  { action := withKey host planned.action
    plan := planned.plan
    snapshot := snapshotOf host db env request market lpPrice lpState
    priceLookup := priceLookupOf request.chain fun token =>
      if token = request.pool.poolId then some lpPrice else request.prices token
    token0Usd := market.price0.value
    token1Usd := market.price1.value
    nativeUsd := market.native.value
    side := planned.side
    recorded := planned.recorded }

def build (host : Host) (db : Db) (env : LpProposalAnswers R) (request : LpProposalRequest) : Build (BuiltLpProposal R) := do
  notHold request
  let market ← priceMarket request
  let rebalances := LiquidityStore.rebalancesToday db request.mode request.chain request.pool.poolId env.now
  let planned ← planOf db env request market rebalances
  parsed (withKey host planned.action)
  let lpPriceAtto ← lpTokenPriceAtto request.pool market.tvl
  let lpState ← lpSnapshot db env request
  return assemble host db env request market planned lpPriceAtto lpState

/-! ## What a built proposal is -/

variable {host : Host} {db : Db} {env : LpProposalAnswers R} {request : LpProposalRequest} {p : BuiltLpProposal R}

theorem build_ok (h : (build host db env request).run = .ok (.ok p)) :
    ∃ (market : Market) (planned : Planned R) (lpPriceAtto : Int) (lpState : LpSnapshot),
      (planOf db env request market
        (LiquidityStore.rebalancesToday db request.mode request.chain request.pool.poolId env.now)).run = .ok (.ok planned) ∧
      p = assemble host db env request market planned lpPriceAtto lpState ∧ p.action.Valid ∧
      (priceMarket request).run = .ok (.ok market) ∧ lpTokenPriceAtto request.pool market.tvl = .ok lpPriceAtto ∧
      lpSnapshot db env request = .ok lpState := by
  unfold build at h
  simp only [built_bind, built_pure, built_lift] at h
  obtain ⟨⟨⟩, -, market, hm, planned, hp, ⟨⟩, hv, lpPriceAtto, hl, lpState, hs, rfl⟩ := h
  exact ⟨market, planned, lpPriceAtto, lpState, hp, rfl, parsed_ok hv, hm, hl, hs⟩

theorem planAdd_ok {market : Market} {rebalances : Nat} {planned : Planned R}
    (h : (planAdd env request market rebalances).run = .ok (.ok planned)) :
    ∃ (desired0 desired1 : Int) (quote : LpAddQuote R) (committed : Int),
      env.quoteAdd { poolId := request.pool.poolId, amount0Desired := toString desired0, amount1Desired := toString desired1
                     slippageBps := request.policy.lp.maxRebalanceSlippageBps, sender := request.walletAddress } = .ok quote ∧
      committedMicros request market quote = .ok committed ∧
      planned = ⟨.add quote, addCandidate env request rebalances committed quote, .open, .ADD⟩ := by
  unfold planAdd at h
  simp only [built_bind, built_pure, built_lift] at h
  obtain ⟨⟨⟩, -, desired, -, ⟨⟩, -, quote, hq, committed, hc, rfl⟩ := h
  exact ⟨desired.1, desired.2, quote, committed, quoted_ok hq, hc, rfl⟩

theorem notDust_ok {quote : LpRemoveQuote R} (h : (notDust quote).run = .ok (.ok ())) :
    ∃ expected0 expected1, amountToBigint quote.expected0 = .ok expected0 ∧ amountToBigint quote.expected1 = .ok expected1 ∧
      0 < expected0 ∧ 0 < expected1 := by
  unfold notDust at h
  simp only [built_bind, built_lift] at h
  obtain ⟨expected0, h0, h⟩ := h
  split at h
  · exact absurd h not_built_refuse
  simp only [built_bind, built_lift] at h
  obtain ⟨expected1, h1, h⟩ := h
  split at h
  · exact absurd h not_built_refuse
  exact ⟨expected0, expected1, h0, h1, by omega, by omega⟩

theorem planRemove_ok {rebalances : Nat} {planned : Planned R}
    (h : (planRemove db env request rebalances).run = .ok (.ok planned)) :
    ∃ (held : Int) (closes : Bool) (quote : LpRemoveQuote R),
      heldTokens request = .ok held ∧ (closes = (request.decision.action == .EXIT || held.tdiv 2 == 0)) ∧
      env.quoteRemove { poolId := request.pool.poolId, lpTokens := toString (if closes then held else held.tdiv 2)
                        slippageBps := request.policy.lp.maxRebalanceSlippageBps
                        sender := request.walletAddress } = .ok quote ∧
      (∃ expected0 expected1, amountToBigint quote.expected0 = .ok expected0 ∧
        amountToBigint quote.expected1 = .ok expected1 ∧ 0 < expected0 ∧ 0 < expected1) ∧
      planned = ⟨.remove quote closes, removeCandidate env request rebalances (storedCapital db env request) quote,
        if closes then .close else .reduce, if closes then .EXIT else .REMOVE⟩ := by
  unfold planRemove at h
  simp only [built_bind, built_pure, built_lift] at h
  obtain ⟨held, hh, ⟨⟩, -, quote, hq, ⟨⟩, hd, rfl⟩ := h
  exact ⟨held, _, quote, hh, rfl, quoted_ok hq, notDust_ok hd, rfl⟩

theorem planClaim_ok {market : Market} {rebalances : Nat} {planned : Planned R}
    (h : (planClaim db env request market rebalances).run = .ok (.ok planned)) :
    ∃ (claimable : Int) (plan : LpClaimPlan), planned = ⟨.claim plan,
      claimCandidate env request rebalances (storedCapital db env request) claimable plan, .reduce, .COLLECT_FEES⟩ := by
  unfold planClaim at h
  simp only [built_bind, built_pure, built_lift] at h
  obtain ⟨⟨⟩, -, plan, -, claimable, -, rfl⟩ := h
  exact ⟨claimable, plan, rfl⟩

/-- **The plan of a build** is an add, a removal or a claim, each with its own action. -/
theorem planOf_ok {market : Market} {rebalances : Nat} {planned : Planned R}
    (h : (planOf db env request market rebalances).run = .ok (.ok planned)) :
    (planAdd env request market rebalances).run = .ok (.ok planned) ∨
      (planRemove db env request rebalances).run = .ok (.ok planned) ∨
      (planClaim db env request market rebalances).run = .ok (.ok planned) := by
  unfold planOf at h
  split at h
  · exact absurd h not_built_refuse
  · exact .inl h
  · exact .inr (.inl h)
  · exact .inr (.inl h)
  · exact .inr (.inr h)
  · exact absurd h not_built_refuse

/-- **An add that was built** is the candidate of a quote asked for at the policy's limit. -/
theorem build_add (h : (build host db env request).run = .ok (.ok p)) {quote : LpAddQuote R} (hp : p.plan = .add quote) :
    ∃ (desired0 desired1 : Int) (rebalances : Nat) (committed : Int),
      env.quoteAdd { poolId := request.pool.poolId, amount0Desired := toString desired0, amount1Desired := toString desired1
                     slippageBps := request.policy.lp.maxRebalanceSlippageBps, sender := request.walletAddress } = .ok quote ∧
      p.action = withKey host (addCandidate env request rebalances committed quote) := by
  obtain ⟨market, planned, lpPriceAtto, lpState, hplan, rfl, -, -, -, -⟩ := build_ok h
  rcases planOf_ok hplan with ha | hr | hc
  · obtain ⟨desired0, desired1, quote', committed, hq, -, rfl⟩ := planAdd_ok ha
    cases hp
    exact ⟨desired0, desired1, _, committed, hq, rfl⟩
  · obtain ⟨held, closes, quote', -, -, -, -, rfl⟩ := planRemove_ok hr
    cases hp
  · obtain ⟨claimable, plan, rfl⟩ := planClaim_ok hc
    cases hp

/-- **A removal that was built**, likewise; neither of its assets returns nothing. -/
theorem build_remove (h : (build host db env request).run = .ok (.ok p)) {quote : LpRemoveQuote R} {closes : Bool}
    (hp : p.plan = .remove quote closes) :
    ∃ (lpTokens : Int) (rebalances : Nat) (capital : String),
      env.quoteRemove { poolId := request.pool.poolId, lpTokens := toString lpTokens
                        slippageBps := request.policy.lp.maxRebalanceSlippageBps
                        sender := request.walletAddress } = .ok quote ∧
      (∃ expected0 expected1, amountToBigint quote.expected0 = .ok expected0 ∧
        amountToBigint quote.expected1 = .ok expected1 ∧ 0 < expected0 ∧ 0 < expected1) ∧
      p.action = withKey host (removeCandidate env request rebalances capital quote) := by
  obtain ⟨market, planned, lpPriceAtto, lpState, hplan, rfl, -, -, -, -⟩ := build_ok h
  rcases planOf_ok hplan with ha | hr | hc
  · obtain ⟨desired0, desired1, quote', committed, -, -, rfl⟩ := planAdd_ok ha
    cases hp
  · obtain ⟨held, closes', quote', -, -, hq, hd, rfl⟩ := planRemove_ok hr
    cases hp
    exact ⟨_, _, _, hq, hd, rfl⟩
  · obtain ⟨claimable, plan, rfl⟩ := planClaim_ok hc
    cases hp

end LpProposalBuilder
end Atra
