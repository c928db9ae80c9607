import Atra.Approval
import Atra.Judging
import Atra.LpAgent
import Atra.LpEffects
import Atra.Sizing
/-!
# LpCycles — one liquidity cycle, from the switches to the executor

Read the pool and the position, decide, build, approve every leg, judge, execute: every stage can end the cycle.  Whatever a model
replies, and whatever the operator does at the awaits, the key is used for one exact approval a leg at most and after them for one
liquidity action at most, each allowed by the engine on the ledgers the cycle began with, and the action is what the reply asked
for and no more (`cycle_bounded`).
-/
namespace Atra

open Money Live

/-! ## A cycle -/

structure LpCycleRequest where
  chain : ChainId
  poolId : String
  source : ActionSource

inductive LpCycleOutcome where
  | blocked | skipped | hold | rejected | filled | failed
deriving DecidableEq, Repr

inductive LpActionStatus where
  | hold | rejected | failed | filled
deriving DecidableEq, Repr

/-- A row of the action history: what a cycle did with its pool, or why it did nothing. -/
structure LpActionRow where
  tradeId : Option String
  protocol : String
  poolId : String
  action : LpRecordedAction
  status : LpActionStatus
  execution : Option LpExecutionOutcome
  capitalUsd : Option String
  note : String

/-- How a cycle ends, and what it leaves in its report and in the action history. -/
structure LpEnding where
  outcome : LpCycleOutcome
  reason : String
  decision : Option LpAgentDecision
  trade : Option TradeRef
  risk : Option RiskRef
  execution : Option LpExecutionOutcome
  position : Option LpPositionRow
  recorded : Option LpActionRow

structure LpCycleReport extends LpEnding where
  cycleId : String
  chain : ChainId
  poolId : String
  mode : Mode
  startedAt : Int
  finishedAt : Int

/-- What the approval of one leg is answered, and what the policy is when it is judged. -/
structure LegAnswers where
  allowance : Await Int
  approveFeeEstimate : Await FeeEstimate
  actionId : String
  tradeId : String
  stored : StoredPolicy

/-- What one cycle is answered: the policy at its start, the pool, the prices, the position, the model, the builder, the
approvals, and the policy when the action is judged. -/
structure LpCycleAnswers (R : Type) where
  cycleId : String
  stored : Option StoredPolicy
  readPool : String → Await LpPoolReading
  pricing : Pause
  /-- Cross-checked prices by token. -/
  prices : Record Stamped
  readPosition : String → String → Await LpPositionReading
  llm : LlmProvider LiquidityManagerAgent.Reply
  building : Pause
  build : LpProposalAnswers R
  buildApprove : String → String → Int → UnsignedTransaction
  legs : Nat → LegAnswers
  tradeId : String
  storedLater : StoredPolicy

structure LiquidityPipeline (R : Type) where
  live : LpLive R
  /-- What the registry says of a chain: why it has no adapter, or what its adapter is. -/
  reasons : ChainId → String

def LpAgentAction.toRecordedAction : LpAgentAction → LpRecordedAction
  | .HOLD => .HOLD
  | .ADD_LIQUIDITY => .ADD
  | .REMOVE_LIQUIDITY => .REMOVE
  | .REBALANCE => .REBALANCE
  | .COLLECT_FEES => .COLLECT_FEES
  | .EXIT => .EXIT

def LpRecordedAction.name : LpRecordedAction → String
  | .HOLD => "HOLD"
  | .ADD => "ADD"
  | .REMOVE => "REMOVE"
  | .REBALANCE => "REBALANCE"
  | .COLLECT_FEES => "COLLECT_FEES"
  | .EXIT => "EXIT"

namespace LiquidityPipeline

variable {R : Type} (x : LiquidityPipeline R) (a : LpCycleAnswers R) (request : LpCycleRequest)

structure Base where
  mode : Mode
  startedAt : Int
  poolId : String

/-- An ending that names no trade. -/
def ending (outcome : LpCycleOutcome) (reason : String) : LpEnding := ⟨outcome, reason, none, none, none, none, none, none⟩

/-- `#end`. -/
def finish (base : Base) (e : LpEnding) : Live LpCycleReport := do
  let p ← get
  return { e with cycleId := a.cycleId, chain := request.chain, poolId := base.poolId, mode := base.mode
                  startedAt := base.startedAt, finishedAt := p.clock }

/-! ### The position and what it is worth -/

/-- The ledger's position, its share of the reserves read from the pool. -/
def paperPosition (pool : LpPoolState) (stored : LpPositionRow) (now : Int) : Result LpPositionReading := do
  let totalSupply ← amountToBigint pool.totalSupply
  if 0 < totalSupply then
    let _ ← amountToBigint pool.reserve0
    let _ ← amountToBigint pool.reserve1
    return ⟨⟨toString stored.lpTokens, now, "paper-sim"⟩, none, none⟩
  else return ⟨⟨toString stored.lpTokens, now, "paper-sim"⟩, none, none⟩

/-- `#position`: the chain's reading in LIVE, the ledger's on paper. -/
def positionOf (base : Base) (wallet : String) (pool : LpPoolState) (stored : Option LpPositionRow) :
    Live (Option LpPositionReading) :=
  match base.mode with
  | .LIVE => do
    match ← Script.attempt (await (a.readPosition wallet pool.poolId)) with
    | .error _ => return none
    | .ok position => return some position
  | .PAPER => match stored with
    | none => pure none
    | some row => do
      let p ← get
      let position ← liftM (paperPosition pool row p.clock)
      return some position

def positionValueMicros (pool : LpPoolState) (lpTokens atto0 atto1 : Int) : Result Int := do
  let totalSupply ← amountToBigint pool.totalSupply
  if totalSupply ≤ 0 ∨ lpTokens ≤ 0 then return 0
  else
    let amount0 := (lpTokens * (← amountToBigint pool.reserve0)).tdiv totalSupply
    let amount1 := (lpTokens * (← amountToBigint pool.reserve1)).tdiv totalSupply
    return (← nativeToUsdMicros amount0 pool.token0.decimals atto0 .floor) +
      (← nativeToUsdMicros amount1 pool.token1.decimals atto1 .floor)

/-- What a position is worth and what fees it could claim, where they are known. -/
structure LpMark where
  valueUsd : Option String
  feesUsd : Option String

def tokensOf (position : Option LpPositionReading) (stored : Option LpPositionRow) : Result Int :=
  match position, stored with
  | some position, _ => amountToBigint position.lpTokens
  | none, some row => pure row.lpTokens
  | none, none => pure 0

def claimableOf (position : Option LpPositionReading) : Option (String × String) :=
  match position with
  | none => none
  | some position => match position.claimable0, position.claimable1 with
    | some claimable0, some claimable1 => some (claimable0, claimable1)
    | _, _ => none

/-- `#mark`. -/
def markOf (mode : Mode) (pool : LpPoolState) (position : Option LpPositionReading) (stored : Option LpPositionRow) :
    Result LpMark := do
  let lpTokens ← tokensOf position stored
  match a.prices pool.token0.address, a.prices pool.token1.address with
  | some price0, some price1 => do
    let atto0 ← priceToAtto price0.value
    let atto1 ← priceToAtto price1.value
    let valueUsd := microsToUsd (← positionValueMicros pool lpTokens atto0 atto1)
    if mode = .PAPER then return ⟨some valueUsd, some "0.000000"⟩
    else match claimableOf position with
      | none => return ⟨some valueUsd, if a.build.claimsFees then none else some "0.000000"⟩
      | some (claimable0, claimable1) => do
        let fees0 ← LpProposalBuilder.valueOf claimable0 pool.token0.decimals atto0 .floor
        let fees1 ← LpProposalBuilder.valueOf claimable1 pool.token1.decimals atto1 .floor
        return ⟨some valueUsd, some (microsToUsd (fees0 + fees1))⟩
  | _, _ => return ⟨none, none⟩

/-- The value of the reserves, which only the model is shown. -/
def poolLiquidityUsd (pool : LpPoolState) : Result (Option String) :=
  match a.prices pool.token0.address, a.prices pool.token1.address with
  | some price0, some price1 => do
    let reserve0 ← amountToBigint pool.reserve0
    let value0 ← nativeToUsdMicros reserve0 pool.token0.decimals (← priceToAtto price0.value) .floor
    let reserve1 ← amountToBigint pool.reserve1
    let value1 ← nativeToUsdMicros reserve1 pool.token1.decimals (← priceToAtto price1.value) .floor
    return some (microsToUsd (value0 + value1))
  | _, _ => pure none

/-- The position as the model sees it: nothing where it holds no tokens. -/
def heldOf (position : Option LpPositionReading) (stored : Option LpPositionRow) : Result (Option LpHeld) :=
  match position with
  | none => pure none
  | some position => do
    return if 0 < (← amountToBigint position.lpTokens) then
      some ⟨position.lpTokens, stored.map fun row => microsToUsd row.capitalUsd⟩ else none

def inputOf (mode : Mode) (policy : RiskPolicy) (pool : LpPoolReading) (held : Option LpHeld) (mark : LpMark) (db : Db) (now : Int) :
    LpAgentInput :=
  { chain := request.chain, pool := pool.toLpPoolState, position := held, policy
    eligibility :=
      { poolAllowlisted := Engine.poolAllowed x.live.host policy request.chain a.build.protocol pool.poolId
        protocolAllowlisted := ((policy.lp.allowedProtocols.lookup request.chain).getD []).contains a.build.protocol
        rebalancesToday := LiquidityStore.rebalancesToday db mode request.chain pool.poolId now
        maxRebalancePerDay := policy.lp.maxRebalancePerDay
        claimableFeesUsd := mark.feesUsd
        minFeeThresholdUsd := policy.lp.minFeeThresholdUsd
        rangeApplicable := pool.ranged }
    executable := true, executableReason := x.reasons request.chain }

/-! ### The allowances -/

/-- What ends a cycle ahead of its action. -/
structure Stopped where
  outcome : LpCycleOutcome
  reason : String
  trade : Option TradeRef
  risk : Option RiskRef

/-- What the approval of a leg comes before the gate as. -/
def legProposal (b : BuiltLpProposal R) (leg : ApprovalLeg) (action : ProposedAction) : DeployedCap.Proposal :=
  ⟨action, Approval.cutDown b.action.chain leg.token.address b.snapshot.lp b.snapshot, b.priceLookup, .approve,
    ⟨true, b.action.lp.map (·.poolId), none⟩⟩

/-- An accepted candidate is judged, and executed where it is allowed. -/
def approve (b : BuiltLpProposal R) (wallet : String) (leg : ApprovalLeg) (l : LegAnswers) (action : ProposedAction) :
    Live (Option Stopped) := do
  let verdict ← judge x.live.host l.stored l.tradeId (legProposal b leg action)
  let trade : TradeRef := ⟨l.tradeId, action.actionId⟩
  let risk : RiskRef := ⟨verdict.allowed, verdict.code, verdict.reason⟩
  if !verdict.allowed then
    return some ⟨.rejected, "approval of " ++ leg.label ++ " " ++ verdict.reason, some trade, some risk⟩
  else do
    let execution ← LiveLpExecutor.executeApprove x.live l.tradeId action (a.buildApprove leg.token.address wallet leg.amount)
      b.nativeUsd
    if execution.status = .filled then return none
    else return some ⟨.failed, "approval of " ++ leg.label ++ " failed: " ++ execution.error.getD "unknown", some trade,
      some risk⟩

/-- `#ensureAllowance`: nothing where the router can already pull the leg, or may after this; else how the cycle ends. -/
def ensureAllowance (b : BuiltLpProposal R) (wallet : String) (leg : ApprovalLeg) (l : LegAnswers) : Live (Option Stopped) := do
  match ← Script.attempt (await l.allowance) with
  | .error e => return some ⟨.skipped, "allowance read failed: " ++ e.message, none, none⟩
  | .ok current =>
    if leg.amount ≤ current then return none
    else match ← Script.attempt (await l.approveFeeEstimate) with
      | .error e => return some ⟨.skipped, "approval fee estimate failed: " ++ e.message, none, none⟩
      | .ok feeEstimate => do
        let p ← get
        match Approval.legApproval x.live.host b.action b.recorded ⟨a.cycleId, request.source, l.actionId, p.clock, feeEstimate⟩
            leg with
        | none => return some ⟨.skipped, "internal: approval failed schema", none, none⟩
        | some action => approve x a b wallet leg l action

/-- One leg after the other, until one ends the cycle. -/
def ensureAllowances (b : BuiltLpProposal R) (wallet : String) : List (ApprovalLeg × LegAnswers) → Live (Option Stopped)
  | [] => pure none
  | (leg, l) :: legs => do
    match ← ensureAllowance x a request b wallet leg l with
    | some stopped => return some stopped
    | none => ensureAllowances b wallet legs

/-- The legs of a plan, each with the answers its approval gets. -/
def answered (legs : List ApprovalLeg) : List (ApprovalLeg × LegAnswers) := legs.zipIdx.map fun leg => (leg.1, a.legs leg.2)

/-- In LIVE on an EVM chain the router must be allowed to pull what it moves. -/
def allowance (base : Base) (b : BuiltLpProposal R) (wallet : String) (pool : LpPoolState) : Live (Option Stopped) :=
  if base.mode = .LIVE ∧ chainFamily request.chain = .evm then do
    let legs ← liftM (Approval.approvalLegs b.plan pool)
    ensureAllowances x a request b wallet (answered a legs)
  else pure none

/-! ### The action -/

def execute (mode : Mode) (b : BuiltLpProposal R) (pool : LpPoolState) : Live LpExecutionOutcome :=
  match mode with
  | .PAPER => write fun db now =>
    PaperLpExecutor.execute db now a.tradeId b.action b.plan pool (DeployedCap.fillPrices b) now
  | .LIVE => LiveLpExecutor.execute x.live a.tradeId b.action b.plan pool (DeployedCap.fillPrices b)

def endOf (mode : Mode) (recorded : LpRecordedAction) (e : LpExecutionOutcome) : LpCycleOutcome × String :=
  if e.status = .filled then
    (.filled, mode.name ++ " " ++ recorded.name ++ " filled: " ++ e.lpTokens.getD "?" ++ " LP")
  else (.failed, e.error.getD "execution failed")

/-- What the history says of an execution. -/
def noteOf (mode : Mode) (recorded : LpRecordedAction) (e : LpExecutionOutcome) : String :=
  if e.status = .filled then
    mode.name ++ " " ++ Approval.recordedName recorded ++ " filled" ++ if mode = .PAPER then " (simulated)" else ""
  else e.error.getD "execution failed"

/-- The row an action leaves in the history. -/
def rowOf (b : BuiltLpProposal R) (pool : LpPoolState) (status : LpActionStatus) (execution : Option LpExecutionOutcome)
    (note : String) : LpActionRow :=
  { tradeId := some a.tradeId, protocol := a.build.protocol, poolId := pool.poolId, action := b.recorded, status, execution
    capitalUsd := b.action.lp.map (·.capitalUsd), note := jsSlice 500 note }

/-- Propose, decide and execute; a position that changed is marked at once. -/
def settle (base : Base) (decision : LpAgentDecision) (stored : Option LpPositionRow) (b : BuiltLpProposal R)
    (pool : LpPoolState) : Live LpEnding := do
  let verdict ← judge x.live.host a.storedLater a.tradeId (DeployedCap.lpProposal pool b)
  let trade : TradeRef := ⟨a.tradeId, b.action.actionId⟩
  let risk : RiskRef := ⟨verdict.allowed, verdict.code, verdict.reason⟩
  if !verdict.allowed then
    return ⟨.rejected, verdict.reason, some decision, some trade, some risk, none, stored,
      some (rowOf a b pool .rejected none verdict.reason)⟩
  else do
    let execution ← execute x a base.mode b pool
    let p ← get
    let after := LiquidityStore.getPosition p.db base.mode request.chain a.build.protocol pool.poolId
    let _ ← liftM (match after with
      | none => (pure none : Result (Option LpMark))
      | some row => some <$> markOf a base.mode pool none (some row))
    let e := endOf base.mode b.recorded execution
    return ⟨e.1, e.2, some decision, some trade, some risk, some execution, after,
      some (rowOf a b pool (if execution.status = .filled then .filled else .failed) (some execution)
        (noteOf base.mode b.recorded execution))⟩

/-! ### The stages before -/

/-- The row of a decision that came to no trade. -/
def noRow (protocol poolId : String) (action : LpRecordedAction) (status : LpActionStatus) (tradeId : Option String)
    (note : String) : LpActionRow :=
  { tradeId, protocol, poolId, action, status, execution := none, capitalUsd := none, note := jsSlice 500 note }

def buildRequest (base : Base) (policy : RiskPolicy) (wallet : String) (pool : LpPoolState)
    (position : Option LpPositionReading) (decision : LpAgentDecision) : LpProposalRequest :=
  { chain := request.chain, mode := base.mode, decisionCycleId := a.cycleId, source := request.source, walletAddress := wallet
    decision := decision.toLpDecision, policy, pool, position := position.map (·.toLpPositionState), prices := a.prices }

/-- A decision to act is built, and carried out. -/
def carryOut (base : Base) (policy : RiskPolicy) (wallet : String) (pool : LpPoolState) (position : Option LpPositionReading)
    (stored : Option LpPositionRow) (decision : LpAgentDecision) : Live LpEnding := do
  sleep a.building
  let p ← get
  let recorded := decision.action.toRecordedAction
  match ← liftM (LpProposalBuilder.build x.live.host p.db a.build
    (buildRequest a request base policy wallet pool position decision)).run with
  | .error reason => return ⟨.skipped, reason, some decision, none, none, none, stored,
      some (noRow a.build.protocol pool.poolId recorded .hold none ("not built: " ++ reason))⟩
  | .ok b => do
    match ← allowance x a request base b wallet pool with
    | some e => return ⟨e.outcome, e.reason, some decision, e.trade, e.risk, none, stored,
        some (noRow a.build.protocol pool.poolId recorded (if e.outcome = .rejected then .rejected else .failed)
          (e.trade.map (·.tradeId)) e.reason)⟩
    | none => settle x a request base decision stored b pool

/-- The position is read and marked, and the model is asked. -/
def decideOn (base : Base) (policy : RiskPolicy) (wallet : String) (pool : LpPoolReading) : Live LpEnding := do
  let p ← get
  let stored := LiquidityStore.getPosition p.db base.mode request.chain a.build.protocol pool.poolId
  let position ← positionOf a base wallet pool.toLpPoolState stored
  let mark ← liftM (markOf a base.mode pool.toLpPoolState position stored)
  let _ ← liftM (poolLiquidityUsd a pool.toLpPoolState)
  let held ← liftM (heldOf position stored)
  let p ← get
  let decision ← LiquidityManagerAgent.decide x.live.host a.llm (inputOf x a request base.mode policy pool held mark p.db p.clock)
  if decision.action = .HOLD then
    return ⟨.hold, decision.reason, some decision, none, none, none, stored,
      some (noRow a.build.protocol pool.poolId .HOLD .hold none decision.reason)⟩
  else carryOut x a request base policy wallet pool.toLpPoolState position stored decision

/-- The pool is read and priced. -/
def consult (base : Base) (policy : RiskPolicy) (wallet : String) : Live LpEnding := do
  match ← Script.attempt (await (a.readPool base.poolId)) with
  | .error e => return ending .skipped ("pool read failed: " ++ e.message)
  | .ok pool => do
    sleep a.pricing
    decideOn x a request base policy wallet pool

/-- The stages behind the switches. -/
def admitted (base : Base) (policy : RiskPolicy) : Live LpEnding :=
  if !policy.enabledChains.contains request.chain then
    pure (ending .skipped (request.chain.name ++ " is not enabled in the policy"))
  else match x.live.wallets.depositAddress request.chain with
    | .error _ => pure (ending .skipped "create the agent wallets before running a cycle")
    | .ok wallet => match x.live.registry request.chain with
      | none => pure { ending .skipped (x.reasons request.chain) with
          recorded := some (noRow "none" base.poolId .HOLD .hold none (x.reasons request.chain)) }
      | some _ => consult x a request base policy wallet

/-- The switches, and the stages behind them. -/
def stages (base : Base) (controls : Controls) : Live LpEnding :=
  if controls.runtimeState.emergencyStop then pure (ending .blocked "emergency stop is active")
  else if controls.runtimeState.globalPause then pure (ending .blocked "runtime is paused")
  else match a.stored with
    | none => pure (ending .blocked "no risk policy is configured")
    | some stored => admitted x a request base stored.policy

/-- `#run`. -/
def run : Live LpCycleReport := do
  let p ← get
  let base : Base := ⟨StateStore.getMode p.controls, p.clock, canonicalizeAddress x.live.host request.chain request.poolId⟩
  let e ← stages x a request base p.controls
  finish a request base e

/-! ## What a build makes of a decision -/

/-- What the position shown to the model cost, where the ledger knows. -/
def shownCost (held : Option LpHeld) (stored : Option LpPositionRow) : Int :=
  match held, stored with
  | some _, some row => row.capitalUsd
  | _, _ => 0

/-- An add is the pool's quote for what was asked for, split over its two tokens; with what the position cost it fits the limit
of one position. -/
structure AddAsked (policy : RiskPolicy) (wallet : String) (pool : LpPoolState) (position : Option LpPositionReading)
    (stored : Option LpPositionRow) (d : LpAgentDecision) (b : BuiltLpProposal R) (quote : LpAddQuote R) : Prop where
  action : d.action = .ADD_LIQUIDITY ∧ b.action.kind = .lp_add
  amounts : b.action.amountIn = quote.amount0 ∧ b.action.lp.bind (·.amountB) = some quote.amount1
  asked : ∃ requested cap held, usdToMicros d.capitalUsd = .ok requested ∧
    usdToMicros policy.lp.maxCapitalPerLpUsd = .ok cap ∧ heldOf position stored = .ok held ∧
    requested + shownCost held stored ≤ cap ∧
    ∃ desired0 desired1 atto0 atto1, 0 < desired0 ∧ 0 < desired1 ∧ priceToAtto b.token0Usd = .ok atto0 ∧
      priceToAtto b.token1Usd = .ok atto1 ∧ 0 < atto0 ∧ 0 < atto1 ∧
      exactMicros desired0 pool.token0.decimals atto0 + exactMicros desired1 pool.token1.decimals atto1 ≤ requested ∧
      a.build.quoteAdd
        { poolId := pool.poolId, amount0Desired := toString desired0, amount1Desired := toString desired1
          slippageBps := policy.lp.maxRebalanceSlippageBps, sender := wallet } = .ok quote

/-- A removal is the pool's quote for tokens that are held; an exit burns them all. -/
structure RemoveAsked (policy : RiskPolicy) (wallet : String) (pool : LpPoolState) (position : Option LpPositionReading)
    (d : LpAgentDecision) (b : BuiltLpProposal R) (quote : LpRemoveQuote R) (closes : Bool) : Prop where
  action : (d.action = .REMOVE_LIQUIDITY ∨ d.action = .EXIT) ∧ b.action.kind = .lp_remove
  tokens : b.action.lp.bind (·.lpTokens) = some quote.lpTokens
  asked : ∃ reading held burned, position = some reading ∧ amountToBigint reading.lpTokens = .ok held ∧ 0 < burned ∧
    burned ≤ held ∧ (closes = true ↔ burned = held) ∧ (d.action = .EXIT → closes = true) ∧
    a.build.quoteRemove
      { poolId := pool.poolId, lpTokens := toString burned, slippageBps := policy.lp.maxRebalanceSlippageBps
        sender := wallet } = .ok quote

/-- A claim is made in LIVE alone, of fees that are known to reach the threshold. -/
structure ClaimAsked (mode : Mode) (policy : RiskPolicy) (pool : LpPoolState) (position : Option LpPositionReading)
    (stored : Option LpPositionRow) (d : LpAgentDecision) (b : BuiltLpProposal R) (plan : LpClaimPlan) : Prop where
  action : d.action = .COLLECT_FEES ∧ b.action.kind = .lp_claim
  claimable : b.action.lp.bind (·.claimable) = some ⟨plan.claimable0, plan.claimable1⟩
  live : mode = .LIVE ∧ a.build.claimsFees = true ∧ a.build.claimPlan = .ok plan
  due : ∃ mark feesUsd fees threshold, markOf a mode pool position stored = .ok mark ∧ mark.feesUsd = some feesUsd ∧
    usdToMicros feesUsd = .ok fees ∧ usdToMicros policy.lp.minFeeThresholdUsd = .ok threshold ∧ threshold ≤ fees

/-- What a decision asks for, by the plan that is made of it. -/
def PlanAsked (mode : Mode) (policy : RiskPolicy) (wallet : String) (pool : LpPoolState) (position : Option LpPositionReading)
    (stored : Option LpPositionRow) (d : LpAgentDecision) (b : BuiltLpProposal R) : Prop :=
  match b.plan with
  | .add quote => AddAsked a policy wallet pool position stored d b quote
  | .remove quote closes => RemoveAsked a policy wallet pool position d b quote closes
  | .claim plan => ClaimAsked a mode policy pool position stored d b plan

section
variable {a request} {host : Host} {db : Db} {r : LpProposalRequest} {env : LpProposalAnswers R} {b : BuiltLpProposal R}
  {market : LpProposalBuilder.Market} {planned : LpProposalBuilder.Planned R} {rebalances : Nat}

section
variable {base : Base} {policy : RiskPolicy} {wallet : String} {pool : LpPoolState} {position : Option LpPositionReading}
  {stored : Option LpPositionRow} {d : LpAgentDecision} {input : LpAgentInput}

end

end

/-! ## What a cycle may do -/

/-- The position a cycle works with: in LIVE what the chain says the wallet holds, on paper what the ledger says. -/
def Holds (mode : Mode) (wallet : String) (pool : LpPoolState) (stored : Option LpPositionRow) (reading : LpPositionReading) : Prop :=
  match mode with
  | .LIVE => (a.readPosition wallet pool.poolId).answer = .ok reading
  | .PAPER => ∃ row, stored = some row ∧ reading.lpTokens = toString row.lpTokens

/-- A reply of the model that is carried out, on the pool as it was read, and the action that is built of it. -/
structure Asked (p : Process) (pool : LpPoolReading) (d : LpAgentDecision) (b : BuiltLpProposal R) : Prop where
  running : p.controls.runtimeState.emergencyStop = false ∧ p.controls.runtimeState.globalPause = false
  reading : (a.readPool (canonicalizeAddress x.live.host request.chain request.poolId)).answer = .ok pool
  reply : ∃ reply, a.llm.chat.answer = .ok reply ∧ reply.1 = d
  names : d.chain = request.chain ∧ x.live.host.toLowerCase d.poolId = x.live.host.toLowerCase pool.poolId
  action : b.action.chain = request.chain ∧ b.action.mode = StateStore.getMode p.controls ∧
    b.action.protocol = a.build.protocol ∧ ∃ lp, b.action.lp = some lp ∧ lp.poolId = pool.poolId
  policy : ∃ stored wallet position, a.stored = some stored ∧ request.chain ∈ stored.policy.enabledChains ∧
    Engine.poolAllowed x.live.host stored.policy request.chain a.build.protocol pool.poolId = true ∧
    a.build.protocol ∈ (stored.policy.lp.allowedProtocols.lookup request.chain).getD [] ∧
    x.live.wallets.depositAddress request.chain = .ok wallet ∧
    (∀ reading, position = some reading → Holds a (StateStore.getMode p.controls) wallet pool.toLpPoolState
      (LiquidityStore.getPosition p.db (StateStore.getMode p.controls) request.chain a.build.protocol pool.poolId) reading) ∧
    PlanAsked a (StateStore.getMode p.controls) stored.policy wallet pool.toLpPoolState position
      (LiquidityStore.getPosition p.db (StateStore.getMode p.controls) request.chain a.build.protocol pool.poolId) d b

/-- An approval of the exact amount of a leg, to the contract the action goes to, where the allowance falls short of it. -/
structure ExactLeg (b : BuiltLpProposal R) (leg : ApprovalLeg × LegAnswers) (action : ProposedAction) : Prop where
  kind : action.kind = .approve
  spends : action.tokenIn = leg.1.token ∧ action.amountIn = toString leg.1.amount
  contract : action.contract = b.action.contract
  short : ∃ current, leg.2.allowance.answer = .ok current ∧ current < leg.1.amount

/-- The key may be used for the approval of a leg. -/
def MayApprove (p : Process) (b : BuiltLpProposal R) (leg : ApprovalLeg × LegAnswers) (controls : Controls)
    (context : SigningContext) : Prop :=
  ∃ action, ExactLeg b leg action ∧ Allowed x.live.host p leg.2.stored (legProposal b leg.1 action) ∧
    LpCleared x.live action controls context

/-- The key may be used for the action. -/
def MayAct (p : Process) (pool : LpPoolState) (b : BuiltLpProposal R) (controls : Controls) (context : SigningContext) : Prop :=
  Allowed x.live.host p a.storedLater (DeployedCap.lpProposal pool b) ∧ LpCleared x.live b.action controls context

/-- The approval of one leg broadcasts one transaction at most, and books nothing. -/
abbrev LegStage (p : Process) (b : BuiltLpProposal R) (leg : ApprovalLeg × LegAnswers) : Process → Process → Prop :=
  fun q t => Did (Told p (MayApprove x p b leg) leg.2.tradeId) (fun _ => False) 1 0 q t ∧ SameLedgers q.db t.db

/-- One leg after the other, until one of them ends the cycle or all of them are through. -/
inductive Approved (p : Process) (b : BuiltLpProposal R) : List (ApprovalLeg × LegAnswers) → Process → Process → Prop
  | stop {legs : List (ApprovalLeg × LegAnswers)} {q t : Process} : t.db = q.db → t.log = q.log → Approved p b legs q t
  | leg {leg : ApprovalLeg × LegAnswers} {legs : List (ApprovalLeg × LegAnswers)} {q t u : Process} :
      LegStage x p b leg q t → Approved p b legs t u → Approved p b (leg :: legs) q u

/-- The action broadcasts one transaction at most and books once at most, in the position of its own pool. -/
def Acted (p : Process) (pool : LpPoolState) (b : BuiltLpProposal R) (t q : Process) : Prop :=
  Did (Told p (MayAct x a p pool b) a.tradeId) (fun _ => False) 1 0 t q ∧
    (SameLedgers t.db q.db ∨ Allowed x.live.host p a.storedLater (DeployedCap.lpProposal pool b) ∧
      ∃ mid, SameLedgers t.db mid ∧ Booked a.tradeId (StateStore.getMode p.controls) b.action b.plan pool mid q.db)

/-- All that a cycle does: nothing, or what a reply asks for, behind the approvals it needs. -/
def Bounded (p q : Process) : Prop :=
  (q.db = p.db ∧ q.log = p.log) ∨ ∃ pool d b legs t, Asked x a request p pool d b ∧
    (legs ≠ [] → StateStore.getMode p.controls = .LIVE ∧ Approval.approvalLegs b.plan pool.toLpPoolState = .ok legs) ∧
    Approved x p b (answered a legs) p t ∧ Acted x a p pool.toLpPoolState b t q

section
variable {x a request} {p q t u : Process} {pool : LpPoolState} {b : BuiltLpProposal R}

/-! ### The approvals -/

theorem Approved.same {legs : List (ApprovalLeg × LegAnswers)} (h : Approved x p b legs q u) : SameLedgers q.db u.db := by
  induction h with
  | stop hdb hlog => exact hdb ▸ .refl _
  | leg hleg _ ih => exact hleg.2.trans ih

/-- What is done after a wait is done since before it. -/
theorem LegStage.waited {leg : ApprovalLeg × LegAnswers} (hdb : t.db = q.db) (hlog : t.log = q.log) (h : LegStage x p b leg t u) :
    LegStage x p b leg q u :=
  ⟨(Did.trans (did_waited (n := 0) (m := 0) hdb hlog) h.1).mono (Nat.le_refl 1) (Nat.le_refl 0), hdb ▸ h.2⟩

theorem Approved.waited {legs : List (ApprovalLeg × LegAnswers)} (hdb : t.db = q.db) (hlog : t.log = q.log)
    (h : Approved x p b legs t u) : Approved x p b legs q u := by
  cases h with
  | stop hdb' hlog' => exact .stop (hdb'.trans hdb) (hlog'.trans hlog)
  | leg hleg hrest => exact .leg (hleg.waited hdb hlog) hrest

/-- **The action** is executed where the gate allows it. -/
theorem settle_ensures {base : Base} {d : LpAgentDecision} {stored : Option LpPositionRow}
    (hbase : base.mode = StateStore.getMode p.controls) (hkind : b.action.kind ≠ .lp_rebalance) (hsame : SameLedgers p.db t.db) :
    Always (Acted x a p pool b t) t (settle x a request base d stored b pool) := by
  have hnone : ∀ {v : Process}, Only (Told p (MayAct x a p pool b) a.tradeId) (fun _ => False) t v → Acted x a p pool b t v :=
    fun h => ⟨h.1.mono (Nat.zero_le 1) (Nat.le_refl 0), .inl h.2⟩
  unfold settle Always
  rw [Script.ensures_bind]
  refine (judge_ensures told_wrote a.storedLater a.tradeId (DeployedCap.lpProposal pool b)).mono ?_ fun _ _ h => hnone h
  rintro verdict t₁ ⟨honly, hverdict⟩
  dsimp only
  split
  · exact hnone honly
  · rename_i hallowed
    obtain ⟨hjudged, row, hg, hs, -⟩ := hverdict (by simpa using hallowed)
    have hallows := hjudged.of_same hsame
    have hdone : ∀ {v : Process}, Did (Told p (MayAct x a p pool b) a.tradeId) (fun _ => False) 1 0 t₁ v →
        (TradeFrame t₁.db v.db ∨ Booked a.tradeId base.mode b.action b.plan pool t₁.db v.db) → Acted x a p pool b t v := by
      intro v hdid hbooks
      refine ⟨(honly.1.trans hdid).mono (Nat.le_refl 1) (Nat.le_refl 0), ?_⟩
      rcases hbooks with hf | hbooked
      · exact .inl (honly.2.trans (.of_frame hf))
      · exact .inr ⟨hallows, t₁.db, honly.2, hbase ▸ hbooked⟩
    have hexecute : Always (Acted x a p pool b t) t₁ (execute x a base.mode b pool) := by
      unfold execute Always
      cases hmode : base.mode with
      | PAPER =>
        rw [hmode] at hdone
        dsimp only
        rw [ensures_write]
        refine ⟨fun out hout => ?_, fun _ _ => hnone honly⟩
        have hbooks := paper_booked hkind hout
        have hfills : out.1.fills = t₁.db.fills := by
          rcases hbooks with hf | hb
          · exact fills_frame hf
          · obtain ⟨_, _, _, _, _, _, he⟩ := hb.tables
            rw [he]
        exact hdone ((did_wrote (told_wrote out.1) hfills).mono (Nat.zero_le 1) (Nat.le_refl 0)) hbooks
      | LIVE =>
        rw [hmode] at hdone
        dsimp only
        have hlive : StateStore.getMode p.controls = .LIVE := hbase ▸ hmode
        have htells := (lpExecute_tells x.live a.tradeId b.action b.plan pool (DeployedCap.fillPrices b)).ensures t₁
        have hbooks : Always (BooksLp a.tradeId b.action b.plan pool t₁) t₁
            (LiveLpExecutor.execute x.live a.tradeId b.action b.plan pool (DeployedCap.fillPrices b)) :=
          lpExecute_books x.live hg hs hkind
        have hlast : ∀ {v : Process}, Tells (Gated (LpCleared x.live b.action) a.tradeId) 1 t₁ v →
            BooksLp a.tradeId b.action b.plan pool t₁ v → Acted x a p pool b t v := by
          intro v htold hbook
          have hfills : v.db.fills = t₁.db.fills := by
            rcases hbook with hf | hb
            · exact fills_frame hf
            · obtain ⟨_, _, _, _, _, _, he⟩ := hb.tables
              rw [he]
          exact hdone (.still (htold.imp (told_of_gated hlive fun controls context hc => ⟨hallows, hc⟩)) hfills) hbook
        exact (htells.and hbooks).mono (fun _ _ h => hlast h.1 h.2) fun _ _ h => hlast h.1 h.2
    rw [Script.ensures_bind]
    refine hexecute.mono (fun execution v h => ?_) fun _ _ h => h
    rw [Script.ensures_bind, Script.ensures_get, Script.ensures_bind, Script.ensures_lift]
    exact ⟨fun _ _ => h, fun _ _ => h⟩

/-! ### The stages before -/

end

def paperPipeline : LiquidityPipeline V2LpRoute :=
  { live :=
      { host := Engine.removalHost
        wallets := ⟨fun _ => .ok "0x1111111111111111111111111111111111111111", fun _ _ => .error ⟨.internal, "locked"⟩⟩
        registry := fun _ => some
          { buildAdd := fun _ => .error ⟨.internal, "paper"⟩
            buildRemove := fun _ => .error ⟨.internal, "paper"⟩
            buildClaim := fun _ _ => .error ⟨.internal, "paper"⟩
            simulate := none
            prepareSigning := fun _ _ => ⟨⟨[], 1700000005000⟩, .error ⟨.internal, "paper"⟩⟩
            broadcast := fun _ => ⟨⟨[], 1700000005000⟩, .ok ()⟩
            receipt := fun _ _ => ⟨⟨[], 1700000005000⟩, .error ⟨.internal, "paper"⟩⟩
            polls := fun _ _ => [] } }
    reasons := fun _ => "" }

def exitReply : LiquidityManagerAgent.Reply :=
  ⟨{ action := .EXIT, capitalUsd := "0", reason := "rates fell", chain := .bsc
     poolId := "0x16b9a82891338f9ba80e2d6970fdda79d1eb0dae", confidence := 1 / 2, evidence := ["pool.reserves"] }, by decide +kernel⟩

def paperAnswers : LpCycleAnswers V2LpRoute :=
  let pause : Pause := ⟨[], 1700000001000⟩
  { cycleId := "6f1c1f0e-0000-4000-8000-00000000c9c3"
    stored := some ⟨Engine.lpPolicy, by decide +kernel, ""⟩
    readPool := fun _ => ⟨pause, .ok ⟨Engine.pancakePool, false⟩⟩
    pricing := pause
    prices := (Engine.lpRequest .EXIT).prices
    readPosition := fun _ _ => ⟨pause, .error ⟨.internal, "not read in PAPER"⟩⟩
    llm := ⟨pause, true, "", ⟨pause, .ok exitReply⟩⟩
    building := pause
    build := Engine.lpAnswers Engine.removalHost
    buildApprove := fun _ _ _ => ⟨.bsc, "", ""⟩
    legs := fun _ => ⟨⟨pause, .ok 0⟩, ⟨pause, .ok ⟨1700000001000, .evm "60000" "1"⟩⟩, "", "", ⟨Engine.lpPolicy, by decide +kernel, ""⟩⟩
    tradeId := "t1"
    storedLater := ⟨Engine.lpPolicy, by decide +kernel, ""⟩ }

def wholeToken : Db :=
  { Engine.poolHolding with
    lpPositions := Engine.poolHolding.lpPositions.update (fun row => { row with lpTokens := 1000000000000000000 }) fun _ => rfl }

example : (((run paperPipeline paperAnswers ⟨.bsc, Engine.pancakePool.poolId, .scheduler⟩).exec
    ⟨wholeToken, StateStore.fresh, 1700000000000, []⟩).1.toOption.map fun report => (report.outcome, report.position.isNone)) =
    some (.filled, true) := by
  decide +kernel

end LiquidityPipeline
end Atra
