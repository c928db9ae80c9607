import Atra.RiskTypes
/-!
# Engine — the deterministic risk engine

`evaluate` runs tier 0 (schema, stops, mode), which short-circuits, and then every remaining check in one canonical order.
Each group of checks is a definition of its own, in the order of the source; a group whose numbers do not parse throws,
and the groups are evaluated in the order in which the source evaluates them, so the first throw is the source's.
-/
namespace Atra
namespace Engine

open Money

def ENGINE_VERSION : String := "risk-engine/1.0.0"
def NOT_EVALUATED : String := "not-evaluated"
def SOLANA_SIGNATURE_LAMPORTS : Int := 5000

/-! ## Recording checks -/

def mkCheck (name : String) (code : RejectionCode) (passed : Bool) (observed limit : String) (detail : Option String) :
    RiskCheck :=
  { name, code, passed, observed, limit, skipped := none, detail }

def skip (name : String) (code : RejectionCode) (reason : Skip) : RiskCheck :=
  { name, code, passed := reason == .notApplicable
    observed := if reason = .notApplicable then "n/a" else NOT_EVALUATED
    limit := "n/a", skipped := some reason, detail := none }

def notApplicable (name : String) (code : RejectionCode) : RiskCheck := skip name code .notApplicable

/-- A check that refuses: it did not pass and was not skipped. -/
def refuses (c : RiskCheck) : Bool := !c.passed && c.skipped.isNone

def checksFailed (checks : List RiskCheck) : Bool := checks.any refuses

def finish (input : RiskInput) (checks : List RiskCheck) (derived : Option RiskDerived) : RiskDecision :=
  let firstFailure := checks.find? refuses
  { schemaVersion := 1
    engineVersion := ENGINE_VERSION
    actionId := input.action.actionId
    idempotencyKey := input.action.idempotencyKey
    mode := input.state.mode
    evaluatedAt := input.now
    policyHash := input.policyHash
    allowed := firstFailure.isNone
    code := firstFailure.map RiskCheck.code
    reason := match firstFailure with
      | some c => c.name ++ ": observed " ++ c.observed ++ " vs limit " ++ c.limit
      | none => "all checks passed"
    checks
    derived
    replayOf := none }

/-! ## The kinds of an action -/

def isApprove (a : ProposedAction) : Bool := a.kind == .approve
def isExit (a : ProposedAction) : Bool := a.reduceOnly && a.kind == .swap
def isLp (a : ProposedAction) : Bool := isLpKind a.kind
def isLpEntry (a : ProposedAction) : Bool := a.kind == .lp_add || a.kind == .lp_rebalance
def isLpExit (a : ProposedAction) : Bool := a.kind == .lp_remove
def isLpClaim (a : ProposedAction) : Bool := a.kind == .lp_claim
def isLpApprove (a : ProposedAction) : Bool := isApprove a && a.lp.isSome

def LP_POOL_CHECK : String × RejectionCode := ("lp.pool", .POOL_NOT_ALLOWLISTED)
def LP_CAPITAL_CHECK : String × RejectionCode := ("lp.capital", .LP_CAPITAL_EXCEEDS_MAX)

def LP_LATE_CHECK_NAMES : List (String × RejectionCode) :=
  [("lp.position", .REDUCE_ONLY_MISMATCH), ("lp.poolLiquidity", .POOL_LIQUIDITY_BELOW_MIN),
    ("lp.rebalanceCount", .REBALANCE_LIMIT_REACHED), ("lp.rebalanceSlippage", .SLIPPAGE_EXCEEDS_MAX),
    ("lp.gas", .FEE_EXCEEDS_MAX), ("lp.claimThreshold", .FEE_BELOW_CLAIM_THRESHOLD),
    ("lp.freshness.balance.tokenB", .DATA_STALE), ("lp.balance.tokenB", .BALANCE_INSUFFICIENT)]

/-- Everything after `chain.enabled`, in canonical order. -/
def REMAINING_CHECK_NAMES_REST : List (String × RejectionCode) :=
  [("freshness.action", .DATA_STALE), ("freshness.ledger", .DATA_STALE), ("freshness.price.tokenIn", .DATA_STALE),
    ("freshness.price.tokenOut", .DATA_STALE), ("freshness.price.native", .DATA_STALE), ("freshness.quote", .DATA_STALE),
    ("freshness.fee", .DATA_STALE), ("freshness.balance.tokenIn", .DATA_STALE), ("freshness.balance.native", .DATA_STALE),
    ("freshness.liquidity", .DATA_STALE), ("allowlist.tokenIn", .TOKEN_NOT_ALLOWLISTED),
    ("allowlist.tokenOut", .TOKEN_NOT_ALLOWLISTED), ("allowlist.protocol", .PROTOCOL_NOT_ALLOWLISTED),
    ("allowlist.contract", .CONTRACT_UNKNOWN), ("position.reduceOnly", .REDUCE_ONLY_MISMATCH),
    ("size.amountInUsd", .SIZE_EXCEEDS_MAX_TRADE), ("loss.daily", .DAILY_LOSS_BREACHED),
    ("deployed.total", .TOTAL_DEPLOYED_BREACHED), ("slippage.implied", .SLIPPAGE_EXCEEDS_MAX),
    ("slippage.priceImpact", .SLIPPAGE_EXCEEDS_MAX), ("quote.market", .QUOTE_OFF_MARKET), ("fee.usd", .FEE_EXCEEDS_MAX),
    ("liquidity.market", .LIQUIDITY_BELOW_MIN), ("cooldown.market", .COOLDOWN_ACTIVE),
    ("cooldown.global", .COOLDOWN_ACTIVE), ("balance.tokenIn", .BALANCE_INSUFFICIENT),
    ("balance.gas", .BALANCE_INSUFFICIENT)]

/-- The canonical check order for an action's kind. -/
def remainingCheckNames (a : ProposedAction) : List (String × RejectionCode) :=
  if !isLp a && !isLpApprove a then ("chain.enabled", .CHAIN_UNSUPPORTED) :: REMAINING_CHECK_NAMES_REST
  else
    [("chain.enabled", .CHAIN_UNSUPPORTED), LP_POOL_CHECK] ++ (if isLpEntry a then [LP_CAPITAL_CHECK] else []) ++
      REMAINING_CHECK_NAMES_REST ++ (if isLp a then LP_LATE_CHECK_NAMES else [])

/-! ## Tier 0 -/

structure DecimalsMismatch where
  address : String
  observed : String
  expected : String

def decimalsMismatch (a : ProposedAction) (allowlist : List TokenAllowEntry) : Option DecimalsMismatch :=
  [a.tokenIn, a.tokenOut].findSome? fun ref =>
    match allowlist.find? (·.address == ref.address) with
    | some entry =>
      if entry.decimals != ref.decimals then some ⟨ref.address, toString ref.decimals, toString entry.decimals⟩ else none
    | none => none

/-- The key of an intent: what the action does, not when it was proposed. -/
def deriveIdempotencyKey (host : Host) (a : ProposedAction) : String :=
  host.sha256 (String.intercalate "|" ["atra-action-v1", a.decisionCycleId, a.chain.name, a.kind.name, a.protocol,
    a.tokenIn.address, a.tokenOut.address, a.amountIn, if a.reduceOnly then "true" else "false"])

def schemaActionCheck (a : ProposedAction) : RiskCheck :=
  match a.issues with
  | [] => mkCheck "schema.action" .SCHEMA_INVALID true "valid" "valid" none
  | issue :: _ => mkCheck "schema.action" .SCHEMA_INVALID false (String.intercalate "." issue.path) "valid"
      (some (jsSlice 200 issue.message))

def schemaChecks (host : Host) (input : RiskInput) : List RiskCheck :=
  let a := input.action
  if a.Valid then
    let mismatch := decimalsMismatch a (input.policy.tokens a.chain)
    [mkCheck "schema.decimals" .SCHEMA_INVALID mismatch.isNone ((mismatch.map (·.observed)).getD "match")
        ((mismatch.map (·.expected)).getD "allowlist")
        (mismatch.map fun m => m.address ++ " decimals disagree with the allowlist"),
      mkCheck "schema.idempotency" .SCHEMA_INVALID (a.idempotencyKey == deriveIdempotencyKey host a) a.idempotencyKey
        (deriveIdempotencyKey host a) none]
  else [skip "schema.decimals" .SCHEMA_INVALID .shortCircuit, skip "schema.idempotency" .SCHEMA_INVALID .shortCircuit]

def boolName (b : Bool) : String := if b then "true" else "false"

/-- The stop switches, the mode and the activation. -/
def switchChecks (input : RiskInput) : List RiskCheck :=
  let a := input.action
  let emergency := input.policy.emergencyStop || input.state.emergencyStop.active
  let paused := input.policy.globalPause || input.state.globalPause
  let live := input.state.activation.state == .LIVE &&
    match input.state.activation.liveSession with
    | some session => decide (session.expiresAt > input.now)
    | none => false
  [mkCheck "stop.emergency" .EMERGENCY_STOP (!emergency) (boolName emergency) "false"
      (match input.state.emergencyStop.reason with
        | some reason => if reason = "" then none else some (jsSlice 200 reason)
        | none => none),
    mkCheck "pause.global" .GLOBAL_PAUSE (!paused) (boolName paused) "false" none,
    mkCheck "live.modeMatch" .MODE_MISMATCH (a.mode == input.state.mode) a.mode.name input.state.mode.name none,
    mkCheck "live.activated" .LIVE_NOT_ACTIVATED (a.mode == .PAPER || live) input.state.activation.state.name
      (if a.mode = .PAPER then "n/a" else "LIVE") none]

/-- The tier-0 checks, without the skips that follow a failure. -/
def tier0Checks (host : Host) (input : RiskInput) : List RiskCheck :=
  mkCheck "schema.policy" .SCHEMA_INVALID (input.policy.schemaVersion == 1)
      (if input.policy.schemaVersion = 1 then "valid" else "invalid") "valid" none ::
    schemaActionCheck input.action :: (schemaChecks host input ++ switchChecks input)

/-! ## Shared data -/

def nativeTokenRef (chain : ChainId) : TokenRef :=
  if chain = .solana then ⟨"So11111111111111111111111111111111111111112", 9⟩
  else ⟨"0xeeeeeeeeeeeeeeeeeeeeeeeeeeeeeeeeeeeeeeee", 18⟩

def priceIn (i : RiskInput) : Option Stamped := i.snapshot.prices (priceKey i.action.chain i.action.tokenIn.address)
def priceOut (i : RiskInput) : Option Stamped := i.snapshot.prices (priceKey i.action.chain i.action.tokenOut.address)

def priceNative (i : RiskInput) : Option Stamped :=
  i.snapshot.prices (priceKey i.action.chain (nativeTokenRef i.action.chain).address)

def balanceIn (i : RiskInput) : Option Stamped :=
  i.snapshot.balances (balanceKey i.action.chain i.action.tokenIn.address)

def balanceNative (i : RiskInput) : Option Stamped :=
  i.snapshot.balances (balanceKey i.action.chain (nativeTokenRef i.action.chain).address)

/-- The parsed price: none when it is absent, malformed or zero. -/
def usablePrice (stamped : Option Stamped) : Option Int :=
  match stamped with
  | none => none
  | some s => match priceToAtto s.value with
    | .ok atto => if atto > 0 then some atto else none
    | .error _ => none

def valueAt (amount : Int) (decimals : Nat) (price : Option Int) (dir : Direction) : Result (Option Int) :=
  match price with
  | none => pure none
  | some p => return some (← nativeToUsdMicros amount decimals p dir)

def microsOr (m : Option Int) : String :=
  match m with
  | none => NOT_EVALUATED
  | some m => microsToUsd m

/-- A check that an evaluated figure is within a limit. -/
def within (observed : Option Int) (max : Int) : Bool :=
  match observed with
  | none => false
  | some m => m ≤ max

def atLeast (observed : Option Int) (min : Int) : Bool :=
  match observed with
  | none => false
  | some m => min ≤ m

def feeInNativeUnits (detail : FeeDetail) : Result Int :=
  match detail with
  | .evm gasLimit maxFeePerGas => return (← amountToBigint gasLimit) * (← amountToBigint maxFeePerGas)
  | .solana signatures computeUnitLimit price rent => do
    let priority ← ceilDiv (computeUnitLimit * (← amountToBigint price)) 1000000
    return SOLANA_SIGNATURE_LAMPORTS * signatures + priority + (← amountToBigint rent)

/-- The amounts every later check uses, in base units and micro-USD. -/
structure Amounts where
  amountIn : Int
  amountInUsd : Option Int
  feeNative : Int
  feeUsd : Option Int

def deriveAmounts (i : RiskInput) : Result Amounts := do
  let amountIn ← amountToBigint i.action.amountIn
  let amountInUsd ← valueAt amountIn i.action.tokenIn.decimals (usablePrice (priceIn i)) .ceil
  let feeNative ← feeInNativeUnits i.action.feeEstimate.detail
  let feeUsd ← valueAt feeNative (nativeTokenRef i.action.chain).decimals (usablePrice (priceNative i)) .ceil
  return { amountIn, amountInUsd, feeNative, feeUsd }

/-! ## Chain, pool and capital -/

def chainChecks (i : RiskInput) : List RiskCheck :=
  [mkCheck "chain.enabled" .CHAIN_UNSUPPORTED (i.policy.enabledChains.contains i.action.chain) i.action.chain.name
    (String.intercalate "," (i.policy.enabledChains.map ChainId.name)) none]

def poolAllowed (host : Host) (policy : RiskPolicy) (chain : ChainId) (protocol poolId : String) : Bool :=
  policy.lp.allowedPools.any fun entry => entry.chain == chain && entry.protocol == protocol &&
    canonicalizeAddress host chain entry.poolId == canonicalizeAddress host chain poolId

def poolAllowlistCheck (host : Host) (policy : RiskPolicy) (chain : ChainId) (protocol poolId : String) : RiskCheck :=
  let protocolOk := ((policy.lp.allowedProtocols.lookup chain).getD []).contains protocol
  let poolOk := poolAllowed host policy chain protocol poolId
  mkCheck "lp.pool" .POOL_NOT_ALLOWLISTED (protocolOk && poolOk) (protocol ++ ":" ++ poolId) "lp.allowedPools"
    (if protocolOk then (if poolOk then none else some "pool is not in lp.allowedPools")
      else some ("protocol " ++ protocol ++ " is not in lp.allowedProtocols[" ++ chain.name ++ "]"))

def poolChecks (host : Host) (i : RiskInput) : List RiskCheck :=
  match i.action.lp with
  | some lp => if isLp i.action || isLpApprove i.action then
      [poolAllowlistCheck host i.policy i.action.chain i.action.protocol lp.poolId] else []
  | none => []

/-- Both legs of an LP entry valued in micro-USD, each rounded up. -/
def lpCapitalMicros (a : ProposedAction) (amountB : String) (priceIn priceOut : Option Int) : Result (Option Int) :=
  match priceIn, priceOut with
  | some pIn, some pOut => do
    let legA ← nativeToUsdMicros (← amountToBigint a.amountIn) a.tokenIn.decimals pIn .ceil
    let legB ← nativeToUsdMicros (← amountToBigint amountB) a.tokenOut.decimals pOut .ceil
    return some (legA + legB)
  | _, _ => pure none

/-- The capital an entry commits; none for any other kind or when a leg cannot be valued. -/
def lpEntryCapital (i : RiskInput) : Result (Option Int) :=
  match i.action.lp with
  | some lp => match lp.amountB with
    | some amountB =>
      if isLpEntry i.action then
        lpCapitalMicros i.action amountB (usablePrice (priceIn i)) (usablePrice (priceOut i))
      else pure none
    | none => pure none
  | none => pure none

def lpHolding (i : RiskInput) (lp : LpLeg) : Option LpHolding :=
  i.snapshot.lp.bind fun s => s.positions (lpPoolKey i.action.chain lp.poolId)

def existingCapital (i : RiskInput) (lp : LpLeg) : Result Int :=
  match lpHolding i lp with
  | some held => usdToMicros held.capitalUsd
  | none => pure 0

def capitalChecks (i : RiskInput) (entryCapital : Option Int) : Result (List RiskCheck) :=
  match i.action.lp with
  | some lp =>
    if isLpEntry i.action then do
      let existingCapital ← existingCapital i lp
      let total := entryCapital.map (existingCapital + ·)
      let maxCapital ← usdToMicros i.policy.lp.maxCapitalPerLpUsd
      return [mkCheck "lp.capital" .LP_CAPITAL_EXCEEDS_MAX (within total maxCapital) (microsOr total)
        (microsToUsd maxCapital)
        (some ("existing " ++ microsToUsd existingCapital ++ " plus new " ++ microsOr entryCapital))]
    else pure []
  | none => pure []

/-! ## Freshness -/

def freshnessCheck (name : String) (stamped : Option Stamped) (now maxAgeMs skewMs : Int) : RiskCheck :=
  match stamped with
  | none => mkCheck name .DATA_STALE false "missing" (toString maxAgeMs) none
  | some s =>
    if now - s.stampedAt < -skewMs then
      mkCheck name .DATA_STALE false (toString (now - s.stampedAt)) (toString maxAgeMs)
        (some "timestamp is in the future beyond the allowed clock skew")
    else mkCheck name .DATA_STALE (now - s.stampedAt ≤ maxAgeMs) (toString (now - s.stampedAt)) (toString maxAgeMs)
      (if s.source = "" then none else some ("source " ++ s.source))

/-- A freshness check that also refuses a zero or malformed price. -/
def priceCheck (name : String) (stamped : Option Stamped) (now maxAgeMs skewMs : Int) : RiskCheck :=
  let fresh := freshnessCheck name stamped now maxAgeMs skewMs
  if fresh.passed && stamped.isSome && (usablePrice stamped).isNone then
    mkCheck name .DATA_STALE false "zero" (toString maxAgeMs)
      (some "provider reported a zero or unparseable price; treated as unknown")
  else fresh

def dayStartOf (now : Int) : Int := now / 86400000 * 86400000

/-- The liquidity datum: the pool's own TVL for an LP entry, the quoted market's for a swap. -/
def liquidityDatum (i : RiskInput) : Option Stamped :=
  if isLp i.action then
    match i.action.lp with
    | some lp => if isLpEntry i.action then
        i.snapshot.poolLiquidity.bind fun m => m (liquidityKey i.action.chain lp.poolId) else none
    | none => none
  else match i.action.quote with
    | some q => i.snapshot.liquidity (liquidityKey i.action.chain q.marketId)
    | none => none

def ledgerDayCheck (i : RiskInput) : RiskCheck :=
  let sameDay := i.state.ledger.dayStartUtcMs == dayStartOf i.now
  mkCheck "freshness.ledger" .DATA_STALE sameDay (toString i.state.ledger.dayStartUtcMs) (toString (dayStartOf i.now))
    (if sameDay then none else some "ledger snapshot belongs to a different UTC day")

def freshnessChecks (i : RiskInput) : List RiskCheck :=
  let a := i.action
  let f := i.policy.freshness
  [freshnessCheck "freshness.action" (some ⟨"action", a.proposedAt, a.source.name⟩) i.now f.actionMaxAgeMs f.maxClockSkewMs,
    ledgerDayCheck i,
    priceCheck "freshness.price.tokenIn" (priceIn i) i.now f.priceMaxAgeMs f.maxClockSkewMs,
    if isApprove a then notApplicable "freshness.price.tokenOut" .DATA_STALE
    else priceCheck "freshness.price.tokenOut" (priceOut i) i.now f.priceMaxAgeMs f.maxClockSkewMs,
    priceCheck "freshness.price.native" (priceNative i) i.now f.priceMaxAgeMs f.maxClockSkewMs,
    match a.quote with
    | some q => if isApprove a then notApplicable "freshness.quote" .DATA_STALE
      else freshnessCheck "freshness.quote" (some ⟨q.source, q.quotedAt, q.source⟩) i.now f.quoteMaxAgeMs f.maxClockSkewMs
    | none => notApplicable "freshness.quote" .DATA_STALE,
    freshnessCheck "freshness.fee" (some ⟨"fee", a.feeEstimate.estimatedAt, "adapter"⟩) i.now f.feeEstimateMaxAgeMs
      f.maxClockSkewMs,
    if isLpExit a || isLpClaim a then notApplicable "freshness.balance.tokenIn" .DATA_STALE
    else freshnessCheck "freshness.balance.tokenIn" (balanceIn i) i.now f.balanceMaxAgeMs f.maxClockSkewMs,
    freshnessCheck "freshness.balance.native" (balanceNative i) i.now f.balanceMaxAgeMs f.maxClockSkewMs,
    if isApprove a || a.quote.isNone || isLpExit a then notApplicable "freshness.liquidity" .DATA_STALE
    else freshnessCheck "freshness.liquidity" (liquidityDatum i) i.now f.liquidityMaxAgeMs f.maxClockSkewMs]

/-! ## Allowlists -/

def contractCheck (a : ProposedAction) (entry : Option ProtocolAllowEntry) : RiskCheck :=
  match entry with
  | none => mkCheck "allowlist.contract" .CONTRACT_UNKNOWN false a.contract "n/a"
      (some "protocol is not allowlisted, so no contract can be checked")
  | some entry =>
    let allowed := match a.kind with
      | .approve => entry.approveSpenders.contains a.contract
      | .lp_claim => match a.lp with
        | some lp => a.contract == lp.poolId
        | none => false
      | _ => entry.contracts.contains a.contract
    if !allowed then
      mkCheck "allowlist.contract" .CONTRACT_UNKNOWN false a.contract "n/a" (match a.kind with
        | .approve => some "not an approved spender"
        | .lp_claim => some "a claim must target the pool named in the lp leg"
        | _ => none)
    else if a.chain = .solana then
      let programIds := a.programIds.getD []
      if !programIds.contains a.contract then
        mkCheck "allowlist.contract" .CONTRACT_UNKNOWN false a.contract "n/a"
          (some "declared program is not among the transaction top-level programs")
      else match programIds.find? fun id => !(entry.contracts ++ SOLANA_SYSTEM_PROGRAMS).contains id with
        | some offending => mkCheck "allowlist.contract" .CONTRACT_UNKNOWN false offending "n/a"
            (some "transaction targets a program that is not allowlisted")
        | none => mkCheck "allowlist.contract" .CONTRACT_UNKNOWN true a.contract "n/a" none
    else mkCheck "allowlist.contract" .CONTRACT_UNKNOWN true a.contract "n/a" none

/-- The LP token of an allowlisted pool, approved ahead of a removal. -/
def tokenInViaPool (host : Host) (i : RiskInput) : Bool :=
  isLpApprove i.action && (poolChecks host i).all (·.passed)

def allowlistChecks (host : Host) (i : RiskInput) : List RiskCheck :=
  let a := i.action
  let allowedTokens := (i.policy.tokens a.chain).map (·.address)
  let protocolEntry := (i.policy.protocols a.chain).lookup a.protocol
  [mkCheck "allowlist.tokenIn" .TOKEN_NOT_ALLOWLISTED
      (allowedTokens.contains a.tokenIn.address || tokenInViaPool host i) a.tokenIn.address "n/a"
      (if tokenInViaPool host i then some "LP token of an allowlisted pool" else none),
    if isApprove a then notApplicable "allowlist.tokenOut" .TOKEN_NOT_ALLOWLISTED
    else mkCheck "allowlist.tokenOut" .TOKEN_NOT_ALLOWLISTED (allowedTokens.contains a.tokenOut.address)
      a.tokenOut.address "n/a" none,
    mkCheck "allowlist.protocol" .PROTOCOL_NOT_ALLOWLISTED protocolEntry.isSome a.protocol "n/a" none,
    contractCheck a protocolEntry]

/-! ## Position, size, loss and deployed capital -/

/-- What the ledger holds of the token being sold. -/
def heldAmount (chain : ChainId) (token : String) : List Position → Result Int
  | [] => pure 0
  | p :: ps =>
    if p.chain = chain ∧ p.token = token then do
      let amount ← amountToBigint p.amount
      return amount + (← heldAmount chain token ps)
    else heldAmount chain token ps

def positionChecks (host : Host) (i : RiskInput) : Result (List RiskCheck) :=
  if isExit i.action then do
    let held ← heldAmount i.action.chain i.action.tokenIn.address i.state.ledger.positions
    let wanted ← amountToBigint i.action.amountIn
    let sellsHolding := !isStablecoin host i.action.chain i.action.tokenIn.address
    let returnsToStable := isStablecoin host i.action.chain i.action.tokenOut.address
    return [mkCheck "position.reduceOnly" .REDUCE_ONLY_MISMATCH
      (held > 0 && wanted ≤ held && sellsHolding && returnsToStable) i.action.amountIn (toString held)
      (if held = 0 then some "no open position for this token"
        else if !sellsHolding then some "an exit cannot sell a stablecoin"
        else if !returnsToStable then some "an exit must return to a stablecoin"
        else none)]
  else pure [{ name := "position.reduceOnly", code := .REDUCE_ONLY_MISMATCH, passed := true, observed := "false"
               limit := "n/a", skipped := some .notApplicable, detail := none }]

def sizeChecks (i : RiskInput) (amounts : Amounts) : Result (List RiskCheck) := do
  let maxTrade ← usdToMicros i.policy.maxAmountPerTradeUsd
  if isExit i.action || isLp i.action || isLpApprove i.action then
    return [notApplicable "size.amountInUsd" .SIZE_EXCEEDS_MAX_TRADE]
  else
    return [mkCheck "size.amountInUsd" .SIZE_EXCEEDS_MAX_TRADE (within amounts.amountInUsd maxTrade)
      (microsOr amounts.amountInUsd) (microsToUsd maxTrade) none]

/-- The unrealized part of the day's drawdown, against the mark at the start of the day. -/
def unrealizedMove (i : RiskInput) : Result Int :=
  if i.policy.includeUnrealized then do
    let unrealized ← usdToMicros i.state.ledger.unrealizedPnlUsd
    let atDayStart ← usdToMicros i.state.ledger.unrealizedPnlAtDayStartUsd
    return -(unrealized - atDayStart)
  else pure 0

/-- The day's drawdown as a positive number: gains offset losses, floored at zero. -/
def computeDailyLoss (i : RiskInput) : Result Int := do
  let realizedLoss := -(← usdToMicros i.state.ledger.realizedPnlTodayUsd)
  let total := realizedLoss + (← unrealizedMove i)
  return if total > 0 then total else 0

/-- What the action can cost at worst, on top of today's loss. -/
def worstCase (i : RiskInput) (amounts : Amounts) (entryCapital : Option Int) : Result (Option Int) :=
  if isLp i.action then
    if isLpEntry i.action then
      match entryCapital, amounts.feeUsd with
      | some capital, some fee => return some (fee + (← bpsOf capital i.policy.lp.maxRebalanceSlippageBps))
      | _, _ => pure none
    else pure amounts.feeUsd
  else match amounts.amountInUsd, amounts.feeUsd with
    | some value, some fee =>
      if isApprove i.action then pure (some fee) else return some (fee + (← bpsOf value i.policy.maxSlippageBps))
    | _, _ => pure none

def lossChecks (i : RiskInput) (amounts : Amounts) (entryCapital : Option Int) : Result (List RiskCheck × Int) := do
  let dailyLoss ← computeDailyLoss i
  let worst ← worstCase i amounts entryCapital
  let maxDailyLoss ← usdToMicros i.policy.maxDailyLossUsd
  let projectedLoss := worst.map (dailyLoss + ·)
  if isExit i.action || isLpExit i.action then
    return ([notApplicable "loss.daily" .DAILY_LOSS_BREACHED], dailyLoss)
  else
    return ([mkCheck "loss.daily" .DAILY_LOSS_BREACHED (within projectedLoss maxDailyLoss) (microsOr projectedLoss)
      (microsToUsd maxDailyLoss)
      (some ("today " ++ microsToUsd dailyLoss ++ " plus worst case " ++ microsOr worst))], dailyLoss)

/-- The LP capital a snapshot reports; nothing when it has no LP slice. -/
def lpDeployed (i : RiskInput) : Result Int :=
  match i.snapshot.lp with
  | some s => usdToMicros s.deployedUsd
  | none => pure 0

def deployedChecks (i : RiskInput) (amounts : Amounts) (entryCapital : Option Int) :
    Result (List RiskCheck × Option Int) := do
  let deployed ← usdToMicros i.state.ledger.deployedUsd
  let lpDeployed ← lpDeployed i
  let maxDeployed ← usdToMicros i.policy.maxTotalDeployedUsd
  let projected := if isLp i.action then (if isLpEntry i.action then entryCapital.map (deployed + lpDeployed + ·) else none)
    else amounts.amountInUsd.map (deployed + lpDeployed + ·)
  if isExit i.action || isApprove i.action || isLpExit i.action || isLpClaim i.action then
    return ([notApplicable "deployed.total" .TOTAL_DEPLOYED_BREACHED], projected)
  else
    return ([mkCheck "deployed.total" .TOTAL_DEPLOYED_BREACHED (within projected maxDeployed) (microsOr projected)
      (microsToUsd maxDeployed)
      (if isLp i.action then some ("trading " ++ microsToUsd deployed ++ " plus LP " ++ microsToUsd lpDeployed ++
        " plus new " ++ microsOr entryCapital) else none)], projected)

/-! ## Execution quality and the market -/

/-- The larger of the stated slippage and the one the quote's minimum implies. -/
def quoteSlippage (q : Quote) : Result Int := do
  let expectedOut ← amountToBigint q.expectedAmountOut
  let minOut ← amountToBigint q.minAmountOut
  if expectedOut > 0 && minOut ≤ expectedOut then
    return maxBigint q.slippageBps (← impliedSlippageBps expectedOut minOut)
  else return maxBigint q.slippageBps 0

/-- The quote of a swap: an approval has none to judge and an LP quote is judged by the LP checks. -/
def swapQuote (a : ProposedAction) : Option Quote := if isApprove a || isLp a then none else a.quote

def qualityChecks (i : RiskInput) : Result (List RiskCheck × Int) :=
  match swapQuote i.action with
  | none => pure ([notApplicable "slippage.implied" .SLIPPAGE_EXCEEDS_MAX,
      notApplicable "slippage.priceImpact" .SLIPPAGE_EXCEEDS_MAX], 0)
  | some q => do
    let impliedBps ← quoteSlippage q
    return ([mkCheck "slippage.implied" .SLIPPAGE_EXCEEDS_MAX (impliedBps ≤ i.policy.maxSlippageBps)
        (toString impliedBps) (toString i.policy.maxSlippageBps) none,
      mkCheck "slippage.priceImpact" .SLIPPAGE_EXCEEDS_MAX (q.priceImpactBps ≤ i.policy.maxPriceImpactBps)
        (toString q.priceImpactBps) (toString i.policy.maxPriceImpactBps) none], impliedBps)

/-- The expected output at the snapshot price, rounded down. -/
def quotedValue (i : RiskInput) (q : Quote) : Result (Option Int) :=
  match usablePrice (priceOut i) with
  | none => pure none
  | some p => return some (← nativeToUsdMicros (← amountToBigint q.expectedAmountOut) i.action.tokenOut.decimals p .floor)

/-- The least value the quote's output may have: what goes in, less the tolerance. -/
def marketFloor (amountInUsd : Option Int) (toleranceBps : Nat) : Result (Option Int) :=
  match amountInUsd with
  | none => pure none
  | some m => return some (m - (← bpsOf m toleranceBps))

def marketChecks (i : RiskInput) (amounts : Amounts) : Result (List RiskCheck) :=
  match swapQuote i.action with
  | none => pure [notApplicable "quote.market" .QUOTE_OFF_MARKET]
  | some q => do
    let expectedOutUsd ← quotedValue i q
    let toleranceBps := min (i.policy.maxSlippageBps + i.policy.maxPriceImpactBps) 10000
    let floorUsd ← marketFloor amounts.amountInUsd toleranceBps
    return [mkCheck "quote.market" .QUOTE_OFF_MARKET (floorUsd.any (atLeast expectedOutUsd)) (microsOr expectedOutUsd)
      (microsOr floorUsd)
      (some ("expected output valued at the cross-checked price, against " ++
        microsToUsd (amounts.amountInUsd.getD 0) ++ " in less " ++ toString toleranceBps ++ " bps"))]

def feeChecks (i : RiskInput) (amounts : Amounts) : Result (List RiskCheck) := do
  let maxFee ← usdToMicros i.policy.maxTransactionFeeUsd
  return [mkCheck "fee.usd" .FEE_EXCEEDS_MAX (within amounts.feeUsd maxFee) (microsOr amounts.feeUsd)
    (microsToUsd maxFee) none]

def usdDatum (datum : Option Stamped) : Result (Option Int) :=
  match datum with
  | some s => return some (← usdToMicros s.value)
  | none => pure none

def missingOr (m : Option Int) : String :=
  match m with
  | none => "missing"
  | some m => microsToUsd m

def liquidityChecks (i : RiskInput) : Result (List RiskCheck) := do
  let minLiquidity ← usdToMicros i.policy.minLiquidityUsd
  match swapQuote i.action with
  | none => return [notApplicable "liquidity.market" .LIQUIDITY_BELOW_MIN]
  | some _ =>
    let observed ← usdDatum (liquidityDatum i)
    return [mkCheck "liquidity.market" .LIQUIDITY_BELOW_MIN (atLeast observed minLiquidity) (missingOr observed)
      (microsToUsd minLiquidity) none]

/-! ## Pacing and balances -/

def elapsedCheck (name : String) (now : Int) (last : Option Int) (limitSeconds : Nat) : RiskCheck :=
  let elapsedMs := match last with
    | none => MAX_SAFE_INTEGER
    | some t => now - t
  mkCheck name .COOLDOWN_ACTIVE ((limitSeconds : Int) * 1000 ≤ elapsedMs)
    (match last with
      | none => "never"
      | some _ => toString (elapsedMs / 1000)) (toString limitSeconds) none

def pacingChecks (i : RiskInput) : List RiskCheck :=
  let a := i.action
  [if isExit a || isApprove a || isLpExit a then notApplicable "cooldown.market" .COOLDOWN_ACTIVE
    else elapsedCheck "cooldown.market" i.now (i.state.cooldowns (marketKey a.chain a.tokenIn.address a.tokenOut.address))
      i.policy.cooldownSeconds,
    if isExit a || isLpExit a || isLpApprove a then notApplicable "cooldown.global" .COOLDOWN_ACTIVE
    else elapsedCheck "cooldown.global" i.now i.state.lastAnyActionAt i.policy.globalMinIntervalSeconds]

def amountDatum (datum : Option Stamped) : Result (Option Int) :=
  match datum with
  | some s => return some (← amountToBigint s.value)
  | none => pure none

def missingOrAmount (m : Option Int) : String :=
  match m with
  | none => "missing"
  | some m => toString m

/-- What an action spends of `tokenIn`: a native input pays the fee from the same balance. -/
def neededIn (host : Host) (i : RiskInput) (amounts : Amounts) : Int :=
  if isNativeToken host i.action.chain i.action.tokenIn.address then amounts.amountIn + amounts.feeNative
  else amounts.amountIn

def tokenInBalanceCheck (host : Host) (i : RiskInput) (amounts : Amounts) : Result RiskCheck := do
  if isApprove i.action || isLpExit i.action || isLpClaim i.action then return notApplicable "balance.tokenIn" .BALANCE_INSUFFICIENT
  else
    let held ← amountDatum (balanceIn i)
    return mkCheck "balance.tokenIn" .BALANCE_INSUFFICIENT (atLeast held (neededIn host i amounts))
      (missingOrAmount held) (toString (neededIn host i amounts))
      (if isNativeToken host i.action.chain i.action.tokenIn.address then some "native trade must also cover the fee" else none)

def balanceChecks (host : Host) (i : RiskInput) (amounts : Amounts) : Result (List RiskCheck) := do
  let tokenIn ← tokenInBalanceCheck host i amounts
  let nativeHeld ← amountDatum (balanceNative i)
  return [tokenIn, mkCheck "balance.gas" .BALANCE_INSUFFICIENT (atLeast nativeHeld amounts.feeNative)
    (missingOrAmount nativeHeld) (toString amounts.feeNative) none]

/-! ## LP checks -/

def heldLpTokens (i : RiskInput) (lp : LpLeg) : Result Int :=
  match lpHolding i lp with
  | some held => amountToBigint held.lpTokens
  | none => pure 0

/-- The LP tokens a removal burns; a claim burns none. -/
def wantedLpTokens (i : RiskInput) (lp : LpLeg) : Result Int :=
  if isLpExit i.action then amountToBigint (lp.lpTokens.getD "0") else pure 0

def lpPositionChecks (i : RiskInput) (lp : LpLeg) : Result (List RiskCheck) :=
  if isLpExit i.action || isLpClaim i.action then do
    let heldTokens ← heldLpTokens i lp
    let wanted ← wantedLpTokens i lp
    let passed := if isLpExit i.action then heldTokens > 0 && wanted ≤ heldTokens else heldTokens > 0
    return [mkCheck "lp.position" .REDUCE_ONLY_MISMATCH passed (toString (if isLpExit i.action then wanted else heldTokens))
      (toString heldTokens) (if heldTokens = 0 then some "no open LP position in this pool" else none)]
  else pure [notApplicable "lp.position" .REDUCE_ONLY_MISMATCH]

def lpPoolLiquidityChecks (i : RiskInput) : Result (List RiskCheck) := do
  let minPoolLiquidity ← usdToMicros i.policy.lp.minPoolLiquidityUsd
  if isLpEntry i.action then
    let observed ← usdDatum (liquidityDatum i)
    return [mkCheck "lp.poolLiquidity" .POOL_LIQUIDITY_BELOW_MIN (atLeast observed minPoolLiquidity)
      (missingOr observed) (microsToUsd minPoolLiquidity) none]
  else return [notApplicable "lp.poolLiquidity" .POOL_LIQUIDITY_BELOW_MIN]

/-- Rebalances today, by whichever store reports more. -/
def rebalanceCount (i : RiskInput) (lp : LpLeg) : Nat :=
  let key := lpPoolKey i.action.chain lp.poolId
  max ((i.state.ledger.lpRebalancesToday key).getD 0) ((i.snapshot.lp.bind fun s => s.rebalancesToday key).getD 0)

def lpRebalanceChecks (i : RiskInput) (lp : LpLeg) : List RiskCheck :=
  if i.action.kind = .lp_rebalance then
    [mkCheck "lp.rebalanceCount" .REBALANCE_LIMIT_REACHED (rebalanceCount i lp < i.policy.lp.maxRebalancePerDay)
      (toString (rebalanceCount i lp)) (toString i.policy.lp.maxRebalancePerDay) none]
  else [notApplicable "lp.rebalanceCount" .REBALANCE_LIMIT_REACHED]

def lpSlippageChecks (i : RiskInput) : Result (List RiskCheck) :=
  match if isLpClaim i.action then none else i.action.quote with
  | some q => do
    let implied ← quoteSlippage q
    return [mkCheck "lp.rebalanceSlippage" .SLIPPAGE_EXCEEDS_MAX (implied ≤ i.policy.lp.maxRebalanceSlippageBps)
      (toString implied) (toString i.policy.lp.maxRebalanceSlippageBps) none]
  | none => pure [notApplicable "lp.rebalanceSlippage" .SLIPPAGE_EXCEEDS_MAX]

def lpGasChecks (i : RiskInput) (amounts : Amounts) : Result (List RiskCheck) := do
  let maxLpGas ← usdToMicros i.policy.lp.maxLpGasUsd
  return [mkCheck "lp.gas" .FEE_EXCEEDS_MAX (within amounts.feeUsd maxLpGas) (microsOr amounts.feeUsd)
    (microsToUsd maxLpGas) none]

/-- Claimable fees at the snapshot prices, each leg rounded down. -/
def claimValue (i : RiskInput) (lp : LpLeg) : Result (Option Int) :=
  match lp.claimable, usablePrice (priceIn i), usablePrice (priceOut i) with
  | some claimable, some pIn, some pOut => do
    let legA ← nativeToUsdMicros (← amountToBigint claimable.amountA) i.action.tokenIn.decimals pIn .floor
    let legB ← nativeToUsdMicros (← amountToBigint claimable.amountB) i.action.tokenOut.decimals pOut .floor
    return some (legA + legB)
  | _, _, _ => pure none

def lpClaimChecks (i : RiskInput) (lp : LpLeg) : Result (List RiskCheck) :=
  if isLpClaim i.action then do
    let value ← claimValue i lp
    let threshold ← usdToMicros i.policy.lp.minFeeThresholdUsd
    return [mkCheck "lp.claimThreshold" .FEE_BELOW_CLAIM_THRESHOLD (atLeast value threshold) (microsOr value)
      (microsToUsd threshold) none]
  else pure [notApplicable "lp.claimThreshold" .FEE_BELOW_CLAIM_THRESHOLD]

def balanceOut (i : RiskInput) : Option Stamped :=
  i.snapshot.balances (balanceKey i.action.chain i.action.tokenOut.address)

/-- The second asset of an entry: the same freshness and sufficiency as `tokenIn`. -/
def lpTokenBChecks (i : RiskInput) (lp : LpLeg) : Result (List RiskCheck) :=
  match if isLpEntry i.action then lp.amountB else none with
  | some amountB => do
    let held ← amountDatum (balanceOut i)
    let needed ← amountToBigint amountB
    return [freshnessCheck "lp.freshness.balance.tokenB" (balanceOut i) i.now i.policy.freshness.balanceMaxAgeMs
        i.policy.freshness.maxClockSkewMs,
      mkCheck "lp.balance.tokenB" .BALANCE_INSUFFICIENT (atLeast held needed) (missingOrAmount held) (toString needed)
        none]
  | none => pure [notApplicable "lp.freshness.balance.tokenB" .DATA_STALE,
      notApplicable "lp.balance.tokenB" .BALANCE_INSUFFICIENT]

def runLpChecks (i : RiskInput) (amounts : Amounts) : Result (List RiskCheck) :=
  match if isLp i.action then i.action.lp else none with
  | none => pure []
  | some lp => do
    let position ← lpPositionChecks i lp
    let poolLiquidity ← lpPoolLiquidityChecks i
    let slippage ← lpSlippageChecks i
    let gas ← lpGasChecks i amounts
    let claim ← lpClaimChecks i lp
    let tokenB ← lpTokenBChecks i lp
    return position ++ poolLiquidity ++ lpRebalanceChecks i lp ++ slippage ++ gas ++ claim ++ tokenB

/-! ## The whole evaluation -/

def runRemainingChecks (host : Host) (i : RiskInput) : Result (List RiskCheck × RiskDerived) := do
  let entryCapital ← lpEntryCapital i
  let capital ← capitalChecks i entryCapital
  let position ← positionChecks host i
  let amounts ← deriveAmounts i
  let size ← sizeChecks i amounts
  let loss ← lossChecks i amounts entryCapital
  let deployed ← deployedChecks i amounts entryCapital
  let quality ← qualityChecks i
  let market ← marketChecks i amounts
  let fee ← feeChecks i amounts
  let liquidity ← liquidityChecks i
  let balances ← balanceChecks host i amounts
  let lp ← runLpChecks i amounts
  return (chainChecks i ++ poolChecks host i ++ capital ++ freshnessChecks i ++ allowlistChecks host i ++ position ++
      size ++ loss.1 ++ deployed.1 ++ quality.1 ++ market ++ fee ++ liquidity ++ pacingChecks i ++ balances ++ lp,
    { amountInUsd := microsOr amounts.amountInUsd
      feeUsd := microsOr amounts.feeUsd
      impliedSlippageBps := quality.2
      dailyLossUsd := microsToUsd loss.2
      projectedDeployedUsd := microsOr deployed.2 })

def evaluate (host : Host) (input : RiskInput) : Result RiskDecision :=
  if checksFailed (tier0Checks host input) then
    pure (finish input (tier0Checks host input ++
      (remainingCheckNames input.action).map fun n => skip n.1 n.2 .shortCircuit) none)
  else do
    let rest ← runRemainingChecks host input
    return finish input (tier0Checks host input ++ rest.1) (some rest.2)

end Engine
end Atra
