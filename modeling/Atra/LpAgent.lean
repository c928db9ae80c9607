import Atra.Agents
import Atra.LpProposal
/-!
# LpAgent — what the liquidity manager makes of a model's reply

The liquidity manager consults a model about one pool and the wallet's position in it.  A reply that passes the schema and
contradicts nothing it was shown is the decision, as it stands; any other becomes `HOLD`, with the reason.
-/
namespace Atra

/-- A pool as its adapter reads it. -/
structure LpPoolReading extends LpPoolState where
  /-- The pool has a price range that can be moved. -/
  ranged : Bool

/-- A position as it is read; fees nothing tracks are not known. -/
structure LpPositionReading extends LpPositionState where
  claimable0 : Option String
  claimable1 : Option String

/-- The liquidity decision, with what the cycle only records. -/
structure LpAgentDecision extends LpDecision where
  chain : ChainId
  poolId : String
  confidence : ℚ
  evidence : List String

structure LpEligibility where
  poolAllowlisted : Bool
  protocolAllowlisted : Bool
  rebalancesToday : Nat
  maxRebalancePerDay : Nat
  /-- Claimable fees valued in USD, where they are known. -/
  claimableFeesUsd : Option String
  minFeeThresholdUsd : String
  rangeApplicable : Bool

/-- A position in the pool, with what it cost where the ledger knows. -/
structure LpHeld where
  lpTokens : String
  capitalUsd : Option String

structure LpAgentInput where
  chain : ChainId
  pool : LpPoolState
  position : Option LpHeld
  policy : RiskPolicy
  eligibility : LpEligibility
  executable : Bool
  executableReason : String

namespace LiquidityManagerAgent

open Money

/-- `lpDecisionSchema`. -/
def conforms (d : LpAgentDecision) : Bool :=
  textWithin 1 128 d.poolId && usdString d.capitalUsd && textWithin 1 600 d.reason && decide (0 ≤ d.confidence) &&
  decide (d.confidence ≤ 1) && d.evidence.all (textWithin 1 64) && decide (d.evidence.length ≤ 12)

/-- A reply that passed the schema. -/
abbrev Reply := { d : LpAgentDecision // conforms d = true }

def hold (input : LpAgentInput) (reason : String) : LpAgentDecision :=
  { action := .HOLD, chain := input.chain, poolId := input.pool.poolId, capitalUsd := "0", reason, confidence := 9 / 10
    evidence := [] }

/-- What the position cost, as far as the input says. -/
def existingCapital (input : LpAgentInput) : Result Int :=
  match (input.position.bind (·.capitalUsd)).filter (· ≠ "") with
  | none => pure 0
  | some capitalUsd => usdToMicros capitalUsd

def addViolation (d : LpAgentDecision) (input : LpAgentInput) : Result (Option String) :=
  if d.capitalUsd = "0" then pure (some "ADD_LIQUIDITY with zero capital")
  else do
    let requested ← usdToMicros d.capitalUsd
    let cap ← usdToMicros input.policy.lp.maxCapitalPerLpUsd
    let existing ← existingCapital input
    return if requested + existing > cap then
      some ("requested " ++ d.capitalUsd ++ " USD plus existing capital exceeds the per-position cap " ++
        input.policy.lp.maxCapitalPerLpUsd)
    else none

def claimViolation (input : LpAgentInput) : Result (Option String) :=
  match input.eligibility.claimableFeesUsd with
  | none => pure (some "COLLECT_FEES with unknown claimable fees")
  | some claimable => do
    let fees ← usdToMicros claimable
    let threshold ← usdToMicros input.eligibility.minFeeThresholdUsd
    return if fees < threshold then
      some ("COLLECT_FEES below the claim threshold (" ++ claimable ++ " < " ++ input.eligibility.minFeeThresholdUsd ++ " USD)")
    else none

def rebalanceViolation (input : LpAgentInput) (hasPosition : Bool) : Option String :=
  if !input.eligibility.rangeApplicable then some "REBALANCE is not applicable: a v2 pool has no price range"
  else if !hasPosition then some "REBALANCE with no open position in this pool"
  else if input.eligibility.rebalancesToday ≥ input.eligibility.maxRebalancePerDay then
    some ("REBALANCE limit reached (" ++ toString input.eligibility.rebalancesToday ++ " of " ++
      toString input.eligibility.maxRebalancePerDay ++ " today)")
  else none

def holdsTokens (input : LpAgentInput) : Result Bool :=
  match input.position with
  | none => pure false
  | some position => return decide (0 < (← Live.bigInt position.lpTokens))

/-- What contradicts an action, by what it does to the position. -/
def actionViolation (d : LpAgentDecision) (input : LpAgentInput) (hasPosition : Bool) : Result (Option String) :=
  match d.action with
  | .ADD_LIQUIDITY => addViolation d input
  | action =>
    if d.capitalUsd ≠ "0" then pure (some (action.name ++ " with a non-zero capital"))
    else match action with
      | .REMOVE_LIQUIDITY | .EXIT =>
        pure (if hasPosition then none else some (action.name ++ " with no open position in this pool"))
      | .COLLECT_FEES =>
        if hasPosition then claimViolation input else pure (some "COLLECT_FEES with no open position in this pool")
      | _ => pure (rebalanceViolation input hasPosition)

/-- Where a well-formed decision contradicts what the model was shown. -/
def deterministicSanity (host : Host) (d : LpAgentDecision) (input : LpAgentInput) : Result (Option String) :=
  if d.chain ≠ input.chain then
    pure (some ("decision names chain " ++ d.chain.name ++ ", input was " ++ input.chain.name))
  else if host.toLowerCase d.poolId ≠ host.toLowerCase input.pool.poolId then
    pure (some ("decision names pool " ++ d.poolId ++ ", input was " ++ input.pool.poolId))
  else if d.action = .HOLD then
    pure (if d.capitalUsd = "0" then none else some "HOLD with a non-zero capital")
  else if !input.eligibility.poolAllowlisted || !input.eligibility.protocolAllowlisted then
    pure (some (d.action.name ++ " on a pool that is not allowlisted"))
  else do actionViolation d input (← holdsTokens input)

/-- What stands of a reply. -/
def judged (host : Host) (d : LpAgentDecision) (input : LpAgentInput) : LpAgentDecision :=
  match deterministicSanity host d input with
  | .error e => hold input ("model output rejected: " ++ e.message)
  | .ok none => d
  | .ok (some violation) => { d with action := .HOLD, capitalUsd := "0", reason := overridden violation d.reason }

def decide (host : Host) (llm : LlmProvider Reply) (input : LpAgentInput) : Live LpAgentDecision :=
  if !input.executable then pure (hold input ("no LP adapter: " ++ input.executableReason))
  else do
    Live.sleep llm.asked
    if llm.available then
      match ← Script.attempt (Live.await llm.chat) with
      | .error e => return hold input ("model output rejected: " ++ e.message)
      | .ok reply => return judged host reply.1 input
    else return hold input ("no reasoning model: " ++ llm.detail)

/-! ## What a decision to act says -/

variable {host : Host} {d : LpAgentDecision} {input : LpAgentInput} {llm : LlmProvider Reply}

end LiquidityManagerAgent
end Atra
