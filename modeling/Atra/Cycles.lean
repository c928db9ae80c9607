import Atra.Agents
import Atra.Approval
import Atra.Judging
import Atra.LiveCrashes
import Atra.Sizing
/-!
# Cycles — one auto-trade cycle, from the switches to the executor

Research, decide, build, approve, judge, execute: every stage can end the cycle.  Whatever a model replies, and whatever the
operator does at the awaits, the key is used for one exact approval at most and after it for one swap at most, each allowed by
the engine on the ledgers as they stood, and the swap is what the reply asked for and no more (`cycle_bounded`).
-/
namespace Atra

open Money Live

/-! ## A cycle -/

structure CycleRequest where
  chain : ChainId
  source : ActionSource

inductive CycleOutcome where
  | blocked | skipped | no_action | rejected | filled | failed
deriving DecidableEq, Repr

/-- How a cycle ends, and what it leaves in its report. -/
structure Ending where
  outcome : CycleOutcome
  reason : String
  decision : Option AgentDecision
  trade : Option TradeRef
  risk : Option RiskRef
  execution : Option ExecutionOutcome

structure CycleReport extends Ending where
  cycleId : String
  chain : ChainId
  mode : Mode
  startedAt : Int
  finishedAt : Int

/-- An adapter that takes ERC-20 approvals, and what the policy is when one is judged. -/
structure ApprovalAdapter where
  allowance : String → Await Int
  approveFeeEstimate : Await FeeEstimate
  buildApprove : String → String → Int → UnsignedTransaction
  actionId : String
  tradeId : String
  stored : StoredPolicy

/-- What one cycle is answered: the policy at its start, the research, the market, the model, the builder, and the policy when
the swap is judged. -/
structure CycleAnswers (R : Type) where
  cycleId : String
  stored : Option StoredPolicy
  research : Await ResearchResult
  pricing : Pause
  /-- Cross-checked prices of the open positions on the chain. -/
  positionPrices : String → Option String
  llm : LlmProvider TraderAgent.Reply
  building : Pause
  build : ProposalAnswers R
  approval : Option ApprovalAdapter
  tradeId : String
  storedLater : StoredPolicy

structure AutoTradePipeline (R : Type) where
  live : LiveExecutor R
  /-- Why a chain without an adapter has none. -/
  reasons : ChainId → String

namespace AutoTradePipeline

variable {R : Type} (x : AutoTradePipeline R) (a : CycleAnswers R) (request : CycleRequest)

structure Base where
  mode : Mode
  startedAt : Int

def ending (outcome : CycleOutcome) (reason : String) (decision : Option AgentDecision) : Ending :=
  ⟨outcome, reason, decision, none, none, none⟩

/-- `#end`. -/
def finish (base : Base) (e : Ending) : Live CycleReport := do
  let p ← get
  return { e with cycleId := a.cycleId, chain := request.chain, mode := base.mode, startedAt := base.startedAt
                  finishedAt := p.clock }

/-! ### The allowance -/

/-- What an approval comes before the gate as: the swap's prices and balances, cut down to its token and the native coin. -/
def approvalProposal (b : BuiltProposal R) (action : ProposedAction) : DeployedCap.Proposal :=
  ⟨action, Approval.cutDown b.action.chain b.action.tokenIn.address none b.snapshot, b.priceLookup, .approve, ⟨false, none, none⟩⟩

/-- An accepted candidate is judged, and executed where it is allowed. -/
def approve (adapter : ApprovalAdapter) (decision : AgentDecision) (b : BuiltProposal R) (wallet : String) (needed : Int)
    (action : ProposedAction) : Live (Option Ending) := do
  let verdict ← judge x.live.host adapter.stored adapter.tradeId (approvalProposal b action)
  let trade : TradeRef := ⟨adapter.tradeId, action.actionId⟩
  let risk : RiskRef := ⟨verdict.allowed, verdict.code, verdict.reason⟩
  if !verdict.allowed then
    return some ⟨.rejected, "approval " ++ verdict.reason, some decision, some trade, some risk, none⟩
  else do
    let execution ← x.live.executeApprove adapter.tradeId action
      (adapter.buildApprove b.action.tokenIn.address wallet needed) b.prices.nativeUsd
    if execution.status = .filled then return none
    else return some ⟨.failed, "approval failed: " ++ execution.error.getD "unknown", some decision, some trade, some risk,
      some execution⟩

/-- `#ensureAllowance`: nothing where the router can already pull what it needs, or may after this; else how the cycle ends. -/
def ensureAllowance (decision : AgentDecision) (b : BuiltProposal R) (wallet : String) : Live (Option Ending) :=
  match a.approval with
  | none => pure none
  | some adapter => do
    let needed ← liftM (amountToBigint b.action.amountIn)
    match ← Script.attempt (await (adapter.allowance b.action.tokenIn.address)) with
    | .error e => return some (ending .skipped ("allowance read failed: " ++ e.message) (some decision))
    | .ok current =>
      if needed ≤ current then return none
      else match ← Script.attempt (await adapter.approveFeeEstimate) with
        | .error e => return some (ending .skipped ("approval fee estimate failed: " ++ e.message) (some decision))
        | .ok feeEstimate => do
          let p ← get
          match ← liftM (Approval.swapApproval x.live.host b.action
            ⟨a.cycleId, request.source, adapter.actionId, p.clock, feeEstimate⟩) with
          | none => return some (ending .skipped "internal: approval failed schema" (some decision))
          | some action => x.approve adapter decision b wallet needed action

/-! ### The swap -/

def execute (mode : Mode) (b : BuiltProposal R) : Live ExecutionOutcome :=
  match mode with
  | .PAPER => write fun db now => PaperExecutor.execute db now a.tradeId b.action b.quote b.prices now
  | .LIVE => x.live.execute a.tradeId b.action b.quote b.prices

def endOf (mode : Mode) (e : ExecutionOutcome) : CycleOutcome × String :=
  if e.status = .filled then (.filled, mode.name ++ " fill: " ++ e.amountOut.getD "?" ++ " received")
  else (.failed, e.error.getD "execution failed")

/-- Propose, decide and execute. -/
def settle (base : Base) (decision : AgentDecision) (b : BuiltProposal R) : Live Ending := do
  let verdict ← judge x.live.host a.storedLater a.tradeId (DeployedCap.swapProposal b)
  let trade : TradeRef := ⟨a.tradeId, b.action.actionId⟩
  let risk : RiskRef := ⟨verdict.allowed, verdict.code, verdict.reason⟩
  if !verdict.allowed then return ⟨.rejected, verdict.reason, some decision, some trade, some risk, none⟩
  else do
    let execution ← x.execute a base.mode b
    let e := endOf base.mode execution
    return ⟨e.1, e.2, some decision, some trade, some risk, some execution⟩

def buildRequest (base : Base) (policy : RiskPolicy) (wallet : String) (decision : AgentDecision) : ProposalRequest :=
  { chain := request.chain, mode := base.mode, decisionCycleId := a.cycleId, source := request.source, walletAddress := wallet
    decision := decision.toTradeDecision, policy }

/-- In LIVE on an EVM chain the router must be allowed to pull the input token. -/
def allowance (base : Base) (decision : AgentDecision) (b : BuiltProposal R) (wallet : String) : Live (Option Ending) :=
  if base.mode = .LIVE ∧ chainFamily request.chain = .evm then ensureAllowance x a request decision b wallet else pure none

/-- A decision to act is built, and carried out. -/
def carryOut (base : Base) (policy : RiskPolicy) (wallet : String) (decision : AgentDecision) : Live Ending := do
  sleep a.building
  let p ← get
  match ← liftM (ProposalBuilder.build x.live.host p.db a.build (buildRequest a request base policy wallet decision)).run with
  | .error reason => return ending .skipped reason (some decision)
  | .ok b => do
    match ← allowance x a request base decision b wallet with
    | some e => return e
    | none => x.settle a base decision b

def inputOf (policy : RiskPolicy) (research : ResearchResult) (portfolio : PortfolioMark) : TraderAgent.TraderInput :=
  { chain := request.chain, research, portfolio, policy, allowlist := policy.tokens request.chain
    executable := (x.live.registry request.chain).isSome, executableReason := x.reasons request.chain }

def consult (base : Base) (policy : RiskPolicy) (wallet : String) : Live Ending := do
  let research ← await a.research
  sleep a.pricing
  let p ← get
  let portfolio ← liftM (LedgerService.mark x.live.host p.db p.clock base.mode
    fun chain token => if chain = request.chain then a.positionPrices token else none)
  let decision ← TraderAgent.decide x.live.host a.llm (inputOf x request policy research portfolio)
  if decision.action = .NO_ACTION then return ending .no_action decision.reason (some decision)
  else match x.live.registry request.chain with
    | none => return ending .skipped (x.reasons request.chain) (some decision)
    | some _ => carryOut x a request base policy wallet decision

/-- The stages behind the switches. -/
def admitted (base : Base) (policy : RiskPolicy) : Live Ending :=
  if !policy.enabledChains.contains request.chain then
    pure (ending .skipped (request.chain.name ++ " is not enabled in the policy") none)
  else match x.live.wallets.depositAddress request.chain with
    | .error _ => pure (ending .skipped "create the agent wallets before running a cycle" none)
    | .ok wallet => consult x a request base policy wallet

/-- The switches, and the stages behind them. -/
def stages (base : Base) (controls : Controls) : Live Ending :=
  if controls.runtimeState.emergencyStop then pure (ending .blocked "emergency stop is active" none)
  else if controls.runtimeState.globalPause then pure (ending .blocked "runtime is paused" none)
  else match a.stored with
    | none => pure (ending .blocked "no risk policy is configured" none)
    | some stored => admitted x a request base stored.policy

/-- `#run`. -/
def run : Live CycleReport := do
  let p ← get
  let base : Base := ⟨StateStore.getMode p.controls, p.clock⟩
  let e ← stages x a request base p.controls
  finish a request base e

/-! ## What a build makes of a decision -/

/-- A close sells the whole position and a reduction no more than it; whatever else is spent is worth no more than what was asked
for, and that no more than the limit of one trade. -/
structure WithinAsk (db : Db) (mode : Mode) (policy : RiskPolicy) (d : AgentDecision) (b : BuiltProposal R) (amountIn : Int) :
    Prop where
  close : d.action = .CLOSE → ∃ position, LedgerService.getPosition db mode b.action.chain b.action.tokenIn.address =
    some position ∧ amountIn = position.amount
  reduce : d.action = .REDUCE → ∃ position, LedgerService.getPosition db mode b.action.chain b.action.tokenIn.address =
    some position ∧ amountIn ≤ position.amount
  asked : d.action ≠ .CLOSE → ∃ requested maximum atto, usdToMicros d.requestedNotionalUsd = .ok requested ∧
    usdToMicros policy.maxAmountPerTradeUsd = .ok maximum ∧ requested ≤ maximum ∧
    priceToAtto b.prices.tokenInUsd = .ok atto ∧ 0 < atto ∧ exactMicros amountIn b.action.tokenIn.decimals atto ≤ requested

section
variable {host : Host} {db : Db} {env : ProposalAnswers R} {r : ProposalRequest} {b : BuiltProposal R}

end

/-! ## What a cycle may do -/

/-- A reply of the model that is carried out, and the swap that is built of it. -/
structure Asked (p : Process) (d : AgentDecision) (b : BuiltProposal R) : Prop where
  running : p.controls.runtimeState.emergencyStop = false ∧ p.controls.runtimeState.globalPause = false
  research : ∃ research, a.research.answer = .ok research ∧ research.status = .OK
  reply : ∃ reply, a.llm.chat.answer = .ok reply ∧ reply.1 = d
  acts : d.action ≠ .NO_ACTION
  chain : d.chain = request.chain ∧ b.action.chain = request.chain
  swap : b.action.kind = .swap ∧ b.action.mode = StateStore.getMode p.controls ∧ b.action.reduceOnly = TraderAgent.isExit d
  token : ∃ token, d.token = some token ∧
    (if TraderAgent.isExit d then b.action.tokenIn else b.action.tokenOut).address = token ∧
    (TraderAgent.isExit d = true → isStablecoin x.live.host request.chain token = false)
  policy : ∃ stored, a.stored = some stored ∧ request.chain ∈ stored.policy.enabledChains ∧
    (∃ entry ∈ stored.policy.tokens request.chain, d.token = some entry.address) ∧
    ∃ amountIn, b.action.amountIn = toString amountIn ∧ 0 < amountIn ∧
      WithinAsk p.db (StateStore.getMode p.controls) stored.policy d b amountIn

/-- An approval of what a swap spends, to the contract it goes to, where the allowance falls short of it. -/
structure Exact (adapter : ApprovalAdapter) (b : BuiltProposal R) (action : ProposedAction) : Prop where
  kind : action.kind = .approve
  spends : action.tokenIn = b.action.tokenIn ∧ action.amountIn = b.action.amountIn
  contract : action.contract = b.action.contract
  short : ∃ current needed, (adapter.allowance b.action.tokenIn.address).answer = .ok current ∧
    amountToBigint b.action.amountIn = .ok needed ∧ current < needed

/-- The key may be used for an approval. -/
def MayApprove (p : Process) (controls : Controls) (context : SigningContext) : Prop :=
  ∃ adapter d b action, a.approval = some adapter ∧ Asked x a request p d b ∧ Exact adapter b action ∧
    Allowed x.live.host p adapter.stored (approvalProposal b action) ∧ x.live.Cleared action controls context

/-- The key may be used for the swap. -/
def MaySwap (p : Process) (controls : Controls) (context : SigningContext) : Prop :=
  ∃ d b, Asked x a request p d b ∧ Allowed x.live.host p a.storedLater (DeployedCap.swapProposal b) ∧
    x.live.Cleared b.action controls context

/-- The fill of the swap. -/
def FillOfSwap (p : Process) (f : FillRow) : Prop :=
  ∃ d b, Asked x a request p d b ∧ Allowed x.live.host p a.storedLater (DeployedCap.swapProposal b) ∧
    f.tradeId = a.tradeId ∧ f.mode = StateStore.getMode p.controls ∧ f.chain = b.action.chain ∧
    f.tokenIn = b.action.tokenIn.address ∧ f.tokenOut = b.action.tokenOut.address ∧ f.amountIn = b.action.amountIn

def approvalId : String := (a.approval.map (·.tradeId)).getD ""

/-- First the approval: it broadcasts one transaction at most and books nothing. -/
abbrev FirstStage (p q t : Process) : Prop := Did (Told p (MayApprove x a request p) (approvalId a)) (fun _ => False) 1 0 q t

/-- Then the swap: it broadcasts one transaction at most and books one fill at most. -/
abbrev SecondStage (p q t : Process) : Prop := Did (Told p (MaySwap x a request p) a.tradeId) (FillOfSwap x a request p) 1 1 q t

/-- All that a cycle does. -/
def Bounded (p q : Process) : Prop := ∃ t, FirstStage x a request p p t ∧ SecondStage x a request p t q

section
variable {x a request} {P : LiveEvent → Prop} {F : FillRow → Prop} {p q t : Process} {db db' db'' : Db}

/-! ### The approval -/

variable {d : AgentDecision} {b : BuiltProposal R} {adapter : ApprovalAdapter}

/-- The fill of an action. -/
structure FillOfAction (tradeId : String) (action : ProposedAction) (f : FillRow) : Prop where
  trade : f.tradeId = tradeId
  chain : f.chain = action.chain
  tokens : f.tokenIn = action.tokenIn.address ∧ f.tokenOut = action.tokenOut.address
  amountIn : f.amountIn = action.amountIn

/-- **A paper swap books one fill at most**, of its own action. -/
theorem paper_fills {tradeId : String} {now filledAt : Int} {action : ProposedAction} {quote : ExecutionQuote R}
    {prices : QuotePrices} {out : Db × ExecutionOutcome}
    (h : PaperExecutor.execute db now tradeId action quote prices filledAt = .ok out) : ∃ fills,
      out.1.fills = db.fills ++ fills ∧ (∀ f ∈ fills, FillOfAction tradeId action f ∧ f.mode = .PAPER) ∧ fills.length ≤ 1 := by
  have hnone : ∀ {db' : Db}, TradeFrame db db' → ∃ fills, db'.fills = db.fills ++ fills ∧
      (∀ f ∈ fills, FillOfAction tradeId action f ∧ f.mode = .PAPER) ∧ fills.length ≤ 1 := fun hf =>
    ⟨[], by rw [fills_frame hf, List.append_nil], fun _ h => absurd h List.not_mem_nil, Nat.zero_le 1⟩
  unfold PaperExecutor.execute at h
  cases hq : action.quote with
  | none =>
    rw [hq] at h
    obtain rfl := pure_ok.1 h
    exact hnone (failTrade_frame ..)
  | some q =>
    rw [hq] at h
    obtain ⟨dispatched, hd, h⟩ := bind_ok.1 h
    have hstarted : TradeFrame db (RiskGate.markDispatched dispatched.1 now action) := started_frame hd
    split at h
    · obtain rfl := pure_ok.1 h
      exact hnone (hstarted.trans (failTrade_frame ..))
    · rename_i fill _
      obtain rfl := pure_ok.1 h
      unfold PaperExecutor.settle
      split
      · exact hnone (hstarted.trans (failTrade_frame ..))
      · rename_i booked hbooked
        obtain ⟨hfills, hid, hmode, hchain, hin, hout, hamount⟩ := recordFill_row hbooked
        have hone : ∀ {db' : Db}, TradeFrame booked.1 db' → ∃ fills, db'.fills = db.fills ++ fills ∧
            (∀ f ∈ fills, FillOfAction tradeId action f ∧ f.mode = .PAPER) ∧ fills.length ≤ 1 := by
          intro db' hf
          refine ⟨[booked.2], by rw [fills_frame hf, hfills, fills_frame hstarted], fun f h => ?_, Nat.le_refl 1⟩
          rw [List.mem_singleton.1 h]
          exact ⟨⟨hid, hchain, ⟨hin, hout⟩, hamount⟩, hmode⟩
        split
        · exact hone (failTrade_frame ..)
        · rename_i closed hclosed
          exact hone (transition_frame hclosed)

/-- **The swap** is executed where the gate allows it. -/
theorem settle_ensures (base : Base) (hbase : base.mode = StateStore.getMode p.controls) (hasked : Asked x a request p d b)
    (hsame : SameLedgers p.db t.db) :
    Does (Told p (MaySwap x a request p) a.tradeId) (FillOfSwap x a request p) 1 1 t (x.settle a base d b) := by
  unfold settle Does
  rw [Script.ensures_bind]
  refine (judge_ensures told_wrote a.storedLater a.tradeId (DeployedCap.swapProposal b)).mono ?_
    fun _ _ h => h.1.mono (Nat.zero_le 1) (Nat.zero_le 1)
  rintro verdict t₁ ⟨⟨hd₁, hsame₁⟩, hverdict⟩
  dsimp only
  split
  · exact hd₁.mono (Nat.zero_le 1) (Nat.zero_le 1)
  · rename_i hallowed
    obtain ⟨hjudged, row, hg, hs, hrow⟩ := hverdict (by simpa using hallowed)
    have hallows := hjudged.of_same hsame
    have hfill : ∀ {f : FillRow}, FillOfAction a.tradeId b.action f → f.mode = StateStore.getMode p.controls →
        FillOfSwap x a request p f := fun h hm =>
      ⟨d, b, hasked, hallows, h.trade, hm, h.chain, h.tokens.1, h.tokens.2, h.amountIn⟩
    have hexecute : Does (Told p (MaySwap x a request p) a.tradeId) (FillOfSwap x a request p) 1 1 t₁
        (x.execute a base.mode b) := by
      unfold execute
      cases hmode : base.mode with
      | PAPER =>
        dsimp only
        unfold Does
        rw [ensures_write]
        refine ⟨fun out hout => ?_, fun _ _ => (Did.refl t₁).mono (Nat.zero_le 1) (Nat.zero_le 1)⟩
        obtain ⟨fills, hfills, hF, hlen⟩ := paper_fills hout
        refine ⟨(Tells.told (e := .wrote out.1) (told_wrote out.1) rfl).mono (Nat.zero_le 1), fills, hfills, fun f hf => ?_, hlen⟩
        exact hfill (hF f hf).1 (by rw [(hF f hf).2, ← hbase, hmode])
      | LIVE =>
        dsimp only
        have hlive : StateStore.getMode p.controls = .LIVE := hbase ▸ hmode
        have htells := (execute_tells x.live a.tradeId b.action b.quote b.prices).ensures t₁
        have hbooks := execute_books x.live b.action hg hs b.quote b.prices
        have hdone : ∀ {u : Process}, Tells (Gated (x.live.Cleared b.action) a.tradeId) 1 t₁ u → BooksOne row t₁ u →
            SecondStage x a request p t₁ u := by
          rintro u htold ⟨fills, hfills, hF, hlen⟩
          refine ⟨htold.imp (told_of_gated hlive fun controls context hc => ⟨d, b, hasked, hallows, hc⟩), fills, hfills,
            fun f hf => ?_, hlen⟩
          obtain ⟨hof, hm⟩ := hF f hf
          exact hfill ⟨hof.trade.trans hrow.id, hof.chain.trans hrow.chain, ⟨hof.tokens.1.trans hrow.tokens.1,
            hof.tokens.2.trans hrow.tokens.2⟩, hof.amountIn.trans hrow.amountIn⟩ (hm.trans hlive.symm)
        exact (htells.and hbooks).mono (fun _ _ h => hdone h.1 h.2) fun _ _ h => hdone h.1 h.2
    rw [Script.ensures_bind]
    exact Script.Ensures.mono hexecute (fun _ u h => (hd₁.trans h).mono (Nat.le_refl 1) (Nat.le_refl 1)) fun _ u h =>
      (hd₁.trans h).mono (Nat.le_refl 1) (Nat.le_refl 1)

/-! ### The stages before -/

theorem Bounded.first {u : Process} (h : FirstStage x a request p p u) : Bounded x a request p u :=
  ⟨u, h, (Did.refl u).mono (Nat.zero_le 1) (Nat.zero_le 1)⟩

end

def paperPipeline : AutoTradePipeline V2RouteData :=
  { live :=
      { host := Engine.paperSwapHost
        codecs := ⟨fun _ => .error ⟨.schemaInvalid, "base58"⟩, fun _ => "", fun _ => .error ⟨.schemaInvalid, "base64"⟩⟩
        wallets := ⟨fun _ => .ok "0x1111111111111111111111111111111111111111", fun _ _ => .error ⟨.internal, "locked"⟩⟩
        registry := fun _ => some
          { build := fun _ => answered ⟨.base, "", ""⟩
            simulate := fun _ _ => answered ⟨true, none⟩
            prepareSigning := fun _ _ => answered (.solana "" "" none)
            broadcast := fun _ => answered ()
            receipt := fun _ _ => answered ⟨"", .unknown, none, none, none⟩
            polls := fun _ _ => [] } }
    reasons := fun _ => "" }

def momentumReply : TraderAgent.Reply :=
  ⟨{ action := .OPEN, token := some "0x4200000000000000000000000000000000000006", requestedNotionalUsd := "20"
     reason := "momentum", chain := .base, market := "base:weth", confidence := 1 / 2, evidence := ["price.usd"] }, by decide +kernel⟩

def paperAnswers : CycleAnswers V2RouteData :=
  let pause : Pause := ⟨[], 1700000001000⟩
  { cycleId := "6f1c1f0e-0000-4000-8000-00000000c9c1"
    stored := some ⟨defaultRiskPolicy CHAIN_IDS, by decide +kernel, ""⟩
    research := ⟨pause, .ok ⟨"r1", .OK, none, none⟩⟩
    pricing := pause
    positionPrices := fun _ => none
    llm := ⟨pause, true, "", ⟨pause, .ok momentumReply⟩⟩
    building := pause
    build := Engine.openAnswers 10000000000000000
    approval := none
    tradeId := "t1"
    storedLater := ⟨defaultRiskPolicy CHAIN_IDS, by decide +kernel, ""⟩ }

example : (((paperPipeline.run paperAnswers ⟨.base, .llm⟩).exec
    ⟨Engine.bankroll, StateStore.fresh, 1700000000000, []⟩).1.toOption.map fun report => report.outcome) = some .filled := by
  decide +kernel

end AutoTradePipeline
end Atra
