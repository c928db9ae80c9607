import Atra.LiveProcess
import Atra.Proposal
/-!
# Agents — what the trader makes of a model's reply

The trader consults a model only where the research stands and the chain can be traded on.  A reply that passes the schema and
contradicts nothing it was shown is the decision, as it stands; any other becomes `NO_ACTION`, with the reason.
-/
namespace Atra

/-! ## A provider -/

/-- What a reasoning model answers: whether it is there, and a reply that passed the caller's schema. -/
structure LlmProvider (α : Type) where
  asked : Pause
  available : Bool
  detail : String
  chat : Await α

/-- A text within the bounds of a schema. -/
def textWithin (min max : Nat) (s : String) : Bool := min ≤ jsLength s && jsLength s ≤ max

/-- `slice(0, n)` of a text that is quoted behind its override. -/
def overridden (violation reason : String) : String :=
  "overridden: " ++ violation ++ " (model said: " ++ jsSlice 200 reason ++ ")"

/-! ## Amounts as the agent compares them -/

def padEnd (width : Nat) (cs : List Char) : List Char := cs ++ List.replicate (width - cs.length) '0'

/-- Micro-USD of an amount, by its parts before and behind the point. -/
def partsMicros (s : String) : Result Int := do
  let parts := s.toList.splitOn '.'
  let whole ← Live.bigInt (String.ofList (parts[0]?.getD ['0']))
  let frac ← Live.bigInt (String.ofList (padEnd 6 (parts[1]?.getD [])))
  return whole * 1000000 + frac

section
variable {cs : List Char}

end

/-! ## The trader -/

inductive ResearchStatus where
  | OK | INSUFFICIENT_DATA | ERROR
deriving DecidableEq, Repr

def ResearchStatus.name : ResearchStatus → String
  | .OK => "OK"
  | .INSUFFICIENT_DATA => "INSUFFICIENT_DATA"
  | .ERROR => "ERROR"

/-- A research result, as far as the trader and the cycle read it. -/
structure ResearchResult where
  id : String
  status : ResearchStatus
  poolId : Option String
  token : Option String

def TradeAction.name : TradeAction → String
  | .NO_ACTION => "NO_ACTION"
  | .OPEN => "OPEN"
  | .REDUCE => "REDUCE"
  | .CLOSE => "CLOSE"
  | .SWAP => "SWAP"

/-- The trader's decision, with what the cycle only records. -/
structure AgentDecision extends TradeDecision where
  chain : ChainId
  market : String
  confidence : ℚ
  evidence : List String

namespace TraderAgent

/-- `tradeDecisionSchema`. -/
def conforms (d : AgentDecision) : Bool :=
  textWithin 1 128 d.market && textWithin 1 600 d.reason && decide (0 ≤ d.confidence) && decide (d.confidence ≤ 1) &&
  usdString d.requestedNotionalUsd && d.evidence.all (textWithin 1 64) && decide (d.evidence.length ≤ 12) &&
  d.token.all (textWithin 1 64)

/-- A reply that passed the schema. -/
abbrev Reply := { d : AgentDecision // conforms d = true }

structure TraderInput where
  chain : ChainId
  research : ResearchResult
  portfolio : PortfolioMark
  policy : RiskPolicy
  allowlist : List TokenAllowEntry
  executable : Bool
  executableReason : String

def noAction (input : TraderInput) (reason : String) : AgentDecision :=
  { action := .NO_ACTION, chain := input.chain, market := (input.research.poolId.or input.research.token).getD "unknown", reason
    confidence := 9 / 10, requestedNotionalUsd := "0", evidence := [], token := none }

def isExit (d : AgentDecision) : Bool := d.action == .REDUCE || d.action == .CLOSE

/-- Only a held token that is no stablecoin is sold. -/
def exitViolation (host : Host) (d : AgentDecision) (input : TraderInput) (token : String) : Option String :=
  if !isExit d then none
  else if !input.portfolio.positions.any (fun position => position.row.chain == input.chain && position.row.token == token) then
    some (d.action.name ++ " of a token with no open position")
  else if isStablecoin host input.chain token then some (d.action.name ++ " of a stablecoin is not an exit")
  else none

def sizeViolation (d : AgentDecision) (input : TraderInput) : Result (Option String) := do
  let requested ← partsMicros d.requestedNotionalUsd
  let maximum ← partsMicros input.policy.maxAmountPerTradeUsd
  return if requested > maximum then
    some ("requested " ++ d.requestedNotionalUsd ++ " USD exceeds the per-trade limit " ++ input.policy.maxAmountPerTradeUsd)
  else none

/-- Where a well-formed decision contradicts what the model was shown. -/
def deterministicSanity (host : Host) (d : AgentDecision) (input : TraderInput) : Result (Option String) :=
  if d.chain ≠ input.chain then
    pure (some ("decision names chain " ++ d.chain.name ++ ", input was " ++ input.chain.name))
  else if d.action = .NO_ACTION then
    pure (if d.requestedNotionalUsd = "0" then none else some "NO_ACTION with a non-zero notional")
  else if d.requestedNotionalUsd = "0" then pure (some (d.action.name ++ " with a zero notional"))
  else match d.token.filter (· ≠ "") with
    | none => pure (some (d.action.name ++ " without a token"))
    | some token =>
      if !input.allowlist.any (·.address == token) then pure (some ("token " ++ token ++ " is not allowlisted"))
      else match exitViolation host d input token with
        | some violation => pure (some violation)
        | none => sizeViolation d input

/-- What stands of a reply. -/
def judged (host : Host) (d : AgentDecision) (input : TraderInput) : AgentDecision :=
  match deterministicSanity host d input with
  | .error e => noAction input ("model output rejected: " ++ e.message)
  | .ok none => d
  | .ok (some violation) =>
    { d with action := .NO_ACTION, requestedNotionalUsd := "0", reason := overridden violation d.reason }

def decide (host : Host) (llm : LlmProvider Reply) (input : TraderInput) : Live AgentDecision :=
  if input.research.status ≠ .OK then pure (noAction input ("research returned " ++ input.research.status.name))
  else if !input.executable then pure (noAction input ("no execution path: " ++ input.executableReason))
  else do
    Live.sleep llm.asked
    if llm.available then
      match ← Script.attempt (Live.await llm.chat) with
      | .error e => return noAction input ("model output rejected: " ++ e.message)
      | .ok reply => return judged host reply.1 input
    else return noAction input ("no reasoning model: " ++ llm.detail)

/-! ### What a decision to act says -/

variable {host : Host} {d : AgentDecision} {input : TraderInput} {llm : LlmProvider Reply}

end TraderAgent
end Atra
