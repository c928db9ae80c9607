import Atra.EngineChecks
import Atra.EngineSoundLp
import Atra.LpProposal
/-!
# OwnQuotes — the engine's verdict on the quotes the builders ask for

A builder asks its adapter for a quote at the very limit the engine judges it by.  The adapter rounds the haircut up to a
base unit and the engine rounds the slippage it implies up to a basis point, so the quote passes exactly when the haircut
was a whole number of base units (`own_quotes_iff`).
-/
namespace Atra
namespace Engine

open Money

variable {host : Host} {i : RiskInput} {expected minimum : String} {bps : Nat} {amount : Int}

/-! ## From a haircut to a refusal -/

/-- What the engine reads off a quote that is a haircut at its own limit. -/
theorem quoteSlippage_haircut {q : Quote} (h : Haircut q.expectedAmountOut q.minAmountOut bps amount)
    (hs : q.slippageBps = bps) {implied : Int} (hq : quoteSlippage q = .ok implied) :
    implied ≤ bps ↔ (10000 : Int) ∣ amount * bps := by
  obtain ⟨m, implied', hm, himp, hiff⟩ := h.implied_le_iff
  have hle : m ≤ amount := by
    have := (Except.ok.inj (hm.symm.trans h.minimum_ok))
    have := (haircut_le h.amount_pos.le h.bps_le).1
    omega
  unfold quoteSlippage at hq
  rw [h.expected_ok, hm] at hq
  simp only [bind_ok, Except.ok.injEq, exists_eq_left'] at hq
  rw [if_pos (by simp [h.amount_pos, hle]), himp] at hq
  simp only [bind_ok, Except.ok.injEq, exists_eq_left', pure_ok] at hq
  rw [← hiff, ← hq, hs]
  unfold maxBigint
  split <;> omega

/-- **The implied-slippage check of a swap** refuses a haircut at its own limit exactly when it was rounded. -/
theorem refusedBy_implied {d : RiskDecision} {q : Quote} (h0 : Tier0 host i) (hq : swapQuote i.action = some q)
    (h : Haircut q.expectedAmountOut q.minAmountOut i.policy.maxSlippageBps amount)
    (hs : q.slippageBps = i.policy.maxSlippageBps) (he : evaluate host i = .ok d) :
    RefusedBy "slippage.implied" d.checks ↔ ¬ (10000 : Int) ∣ amount * i.policy.maxSlippageBps := by
  have hrun : ∀ r : Run host i, ∃ c ∈ r.checks, c.name = "slippage.implied" ∧
      (refuses c = true ↔ ¬ (10000 : Int) ∣ amount * i.policy.maxSlippageBps) := by
    intro r
    have hok := r.quality_ok
    unfold qualityChecks at hok
    rw [hq] at hok
    simp only [bind_ok, pure_ok] at hok
    obtain ⟨implied, himp, hok⟩ := hok
    refine ⟨mkCheck "slippage.implied" .SLIPPAGE_EXCEEDS_MAX (implied ≤ i.policy.maxSlippageBps) (toString implied)
      (toString i.policy.maxSlippageBps) none, ?_, rfl, ?_⟩
    · simp only [Run.checks, ← hok, List.mem_append, List.mem_cons, true_or, or_true]
    · rw [refuses_mkCheck, ← quoteSlippage_haircut h hs himp]
      simp
  exact refusedBy_decision h0 hrun he

/-- **The slippage check of a liquidity action**, likewise. -/
theorem refusedBy_rebalanceSlippage {d : RiskDecision} {q : Quote} (h0 : Tier0 host i) (hl : isLp i.action = true)
    (hc : isLpClaim i.action = false) (hq : i.action.quote = some q)
    (h : Haircut q.expectedAmountOut q.minAmountOut i.policy.lp.maxRebalanceSlippageBps amount)
    (hs : q.slippageBps = i.policy.lp.maxRebalanceSlippageBps) (he : evaluate host i = .ok d) :
    RefusedBy "lp.rebalanceSlippage" d.checks ↔ ¬ (10000 : Int) ∣ amount * i.policy.lp.maxRebalanceSlippageBps := by
  have hrun : ∀ r : Run host i, ∃ c ∈ r.checks, c.name = "lp.rebalanceSlippage" ∧
      (refuses c = true ↔ ¬ (10000 : Int) ∣ amount * i.policy.lp.maxRebalanceSlippageBps) := by
    intro r
    obtain ⟨lp, hlp⟩ := ProposedAction.Valid.lp_isSome h0.action hl
    obtain ⟨lr, hlr⟩ := (runLpChecks_ok hlp hl).1 r.lp_ok
    have hok := lr.slippage_ok
    unfold lpSlippageChecks at hok
    rw [hc, if_neg (by decide), hq] at hok
    simp only [bind_ok, pure_ok] at hok
    obtain ⟨implied, himp, hok⟩ := hok
    refine ⟨mkCheck "lp.rebalanceSlippage" .SLIPPAGE_EXCEEDS_MAX (implied ≤ i.policy.lp.maxRebalanceSlippageBps)
      (toString implied) (toString i.policy.lp.maxRebalanceSlippageBps) none, ?_, rfl, ?_⟩
    · simp only [Run.checks, hlr, LpRun.checks, ← hok, List.mem_append, List.mem_cons, true_or, or_true]
    · rw [refuses_mkCheck, ← quoteSlippage_haircut h hs himp]
      simp
  exact refusedBy_decision h0 hrun he

/-! ## The three quote paths -/

/-- The slippage a quote implies is within the limit exactly when 10000 divides the expected amount times the limit. -/
def ImpliesByDivisibility (limit : Nat) (expected minimum : String) : Prop :=
  ∃ amount m implied : Int, 0 < amount ∧ amountToBigint expected = .ok amount ∧ amountToBigint minimum = .ok m ∧
    impliedSlippageBps amount m = .ok implied ∧ (implied ≤ limit ↔ (10000 : Int) ∣ amount * limit)

/-- Under the same policy, an evaluation past tier 0 refuses the action under the check's name unless 10000 divides the
expected amount times the limit. -/
def RefusedUnlessDivisible (host : Host) (policy : RiskPolicy) (a : ProposedAction) (check : String) (limit : Nat)
    (expected : String) : Prop :=
  ∃ amount : Int, amountToBigint expected = .ok amount ∧
    ∀ i d, i.action = a → i.policy = policy → Tier0 host i → evaluate host i = .ok d →
      (RefusedBy check d.checks ↔ ¬ (10000 : Int) ∣ amount * limit)

theorem implies_of_haircut (h : Haircut expected minimum bps amount) : ImpliesByDivisibility bps expected minimum := by
  obtain ⟨m, implied, hm, himp, hiff⟩ := h.implied_le_iff
  exact ⟨amount, m, implied, h.amount_pos, h.expected_ok, hm, himp, hiff⟩

variable {host : EvmHost} {db : Db}

/-! ### What the adapters answer -/

theorem implies_swap {adapter : V2RouterAdapter} {rpc : RouterAnswers} {request : QuoteRequest}
    {q : ExecutionQuote V2RouteData} (h : adapter.quote host rpc request = .ok q) :
    ImpliesByDivisibility request.slippageBps q.expectedAmountOut q.minAmountOut := by
  obtain ⟨-, -, amount, hcut⟩ := V2RouterAdapter.quote_ok h
  exact implies_of_haircut hcut

theorem implies_add {adapter : V2PoolLpAdapter} {rpc : PoolAnswers} {request : LpAddQuoteRequest}
    {q : LpAddQuote V2LpRoute} (h : adapter.quoteAdd host rpc request = .ok q) :
    ImpliesByDivisibility request.slippageBps q.expectedLpTokens q.minLpTokens := by
  obtain ⟨-, amount, hcut⟩ := V2PoolLpAdapter.quoteAdd_ok h
  exact implies_of_haircut hcut

theorem implies_remove {adapter : V2PoolLpAdapter} {rpc : PoolAnswers} {request : LpRemoveQuoteRequest}
    {q : LpRemoveQuote V2LpRoute} (h : adapter.quoteRemove host rpc request = .ok q) {share : Int} (hpos : 0 < share) :
    (amountToBigint q.expected0 = .ok share → ImpliesByDivisibility request.slippageBps q.expected0 q.min0) ∧
      (amountToBigint q.expected1 = .ok share → ImpliesByDivisibility request.slippageBps q.expected1 q.min1) := by
  obtain ⟨-, amount0, amount1, h0, h1, hcut0, hcut1⟩ := V2PoolLpAdapter.quoteRemove_ok h
  constructor
  · intro hs
    rw [h0] at hs
    obtain rfl := eq_of_amountToBigint_intToString hs
    exact implies_of_haircut (hcut0 hpos)
  · intro hs
    rw [h1] at hs
    obtain rfl := eq_of_amountToBigint_intToString hs
    exact implies_of_haircut (hcut1 hpos)

/-! ### What the engine says of the built actions -/

theorem refused_swap {adapter : V2RouterAdapter} {rpc : QuoteRequest → RouterAnswers} {env : ProposalAnswers V2RouteData}
    {request : ProposalRequest} {p : BuiltProposal V2RouteData}
    (hq : env.quote = fun r => adapter.quote host (rpc r) r)
    (hp : (ProposalBuilder.build host.toHost db env request).run = .ok (.ok p)) :
    RefusedUnlessDivisible host.toHost request.policy p.action "slippage.implied" request.policy.maxSlippageBps
      p.quote.expectedAmountOut := by
  obtain ⟨tokenIn, tokenOut, prices, amountIn, quote, rfl, -, -, -, -, -, hquote⟩ := ProposalBuilder.build_ok hp
  rw [hq] at hquote
  obtain ⟨hs, -, amount, hcut⟩ := V2RouterAdapter.quote_ok hquote
  refine ⟨amount, hcut.expected_ok, fun i d ha hpol h0 he => ?_⟩
  have hsq : swapQuote i.action = some (ProposalBuilder.quoteOf quote) := by
    rw [ha]
    rfl
  rw [← hpol]
  exact refusedBy_implied h0 hsq (by rw [hpol]; exact hcut) (by rw [hpol]; exact hs) he

/-- A liquidity action with a quote at the policy's limit, whatever else it carries. -/
theorem refused_of_poolQuote (policy : RiskPolicy) {a : ProposedAction} (q : Quote) (hl : isLp a = true)
    (hc : isLpClaim a = false) (hq : a.quote = some q) (hs : q.slippageBps = policy.lp.maxRebalanceSlippageBps)
    (h : Haircut q.expectedAmountOut q.minAmountOut policy.lp.maxRebalanceSlippageBps amount) :
    RefusedUnlessDivisible host.toHost policy a "lp.rebalanceSlippage" policy.lp.maxRebalanceSlippageBps
      q.expectedAmountOut := by
  refine ⟨amount, h.expected_ok, fun i d ha hpol h0 he => ?_⟩
  subst ha hpol
  exact refusedBy_rebalanceSlippage h0 hl hc hq h hs he

theorem refused_add {adapter : V2PoolLpAdapter} {rpc : LpAddQuoteRequest → PoolAnswers} {env : LpProposalAnswers V2LpRoute}
    {request : LpProposalRequest} {p : BuiltLpProposal V2LpRoute} {quote : LpAddQuote V2LpRoute}
    (hq : env.quoteAdd = fun r => adapter.quoteAdd host (rpc r) r)
    (hp : (LpProposalBuilder.build host.toHost db env request).run = .ok (.ok p)) (hplan : p.plan = .add quote) :
    RefusedUnlessDivisible host.toHost request.policy p.action "lp.rebalanceSlippage"
      request.policy.lp.maxRebalanceSlippageBps quote.expectedLpTokens := by
  obtain ⟨desired0, desired1, rebalances, committed, hquote, ha⟩ := LpProposalBuilder.build_add hp hplan
  rw [hq] at hquote
  obtain ⟨hs, amount, hcut⟩ := V2PoolLpAdapter.quoteAdd_ok hquote
  rw [ha]
  exact refused_of_poolQuote request.policy (LpProposalBuilder.poolQuote request quote.expectedLpTokens quote.minLpTokens
    quote.slippageBps quote.quotedAt quote.source) rfl rfl rfl hs hcut

theorem refused_remove {adapter : V2PoolLpAdapter} {rpc : LpRemoveQuoteRequest → PoolAnswers}
    {env : LpProposalAnswers V2LpRoute} {request : LpProposalRequest} {p : BuiltLpProposal V2LpRoute}
    {quote : LpRemoveQuote V2LpRoute} {closes : Bool} (hq : env.quoteRemove = fun r => adapter.quoteRemove host (rpc r) r)
    (hp : (LpProposalBuilder.build host.toHost db env request).run = .ok (.ok p))
    (hplan : p.plan = .remove quote closes) :
    RefusedUnlessDivisible host.toHost request.policy p.action "lp.rebalanceSlippage"
      request.policy.lp.maxRebalanceSlippageBps quote.expected1 := by
  obtain ⟨lpTokens, rebalances, capital, hquote, ⟨-, e1, -, he1, -, hpos⟩, ha⟩ := LpProposalBuilder.build_remove hp hplan
  rw [hq] at hquote
  obtain ⟨hs, amount0, amount1, -, h1, -, hcut⟩ := V2PoolLpAdapter.quoteRemove_ok hquote
  rw [h1] at he1
  obtain rfl := eq_of_amountToBigint_intToString he1
  rw [ha]
  exact refused_of_poolQuote request.policy (LpProposalBuilder.poolQuote request quote.expected1 quote.min1
    quote.slippageBps quote.quotedAt quote.source) rfl rfl rfl hs (hcut hpos)

/-- **A builder's own quote passes its own limit exactly when its haircut was a whole number of base units**: over the
router's quote of a swap and the pool's quotes of an add and of a removal, the implied slippage is within the limit, and the
built action is not refused for it, if and only if 10000 divides the expected amount times the limit. -/
theorem own_quotes_iff :
    (∀ (adapter : V2RouterAdapter) (rpc : RouterAnswers) (request : QuoteRequest) (q : ExecutionQuote V2RouteData),
        adapter.quote host rpc request = .ok q →
      ImpliesByDivisibility request.slippageBps q.expectedAmountOut q.minAmountOut) ∧
    (∀ (adapter : V2PoolLpAdapter) (rpc : PoolAnswers) (request : LpAddQuoteRequest) (q : LpAddQuote V2LpRoute),
        adapter.quoteAdd host rpc request = .ok q →
      ImpliesByDivisibility request.slippageBps q.expectedLpTokens q.minLpTokens) ∧
    (∀ (adapter : V2PoolLpAdapter) (rpc : PoolAnswers) (request : LpRemoveQuoteRequest) (q : LpRemoveQuote V2LpRoute)
        (share : Int), adapter.quoteRemove host rpc request = .ok q → 0 < share →
      (amountToBigint q.expected0 = .ok share → ImpliesByDivisibility request.slippageBps q.expected0 q.min0) ∧
        (amountToBigint q.expected1 = .ok share → ImpliesByDivisibility request.slippageBps q.expected1 q.min1)) ∧
    (∀ (adapter : V2RouterAdapter) (rpc : QuoteRequest → RouterAnswers) (env : ProposalAnswers V2RouteData)
        (request : ProposalRequest) (p : BuiltProposal V2RouteData), env.quote = (fun r => adapter.quote host (rpc r) r) →
        (ProposalBuilder.build host.toHost db env request).run = .ok (.ok p) →
      RefusedUnlessDivisible host.toHost request.policy p.action "slippage.implied" request.policy.maxSlippageBps
        p.quote.expectedAmountOut) ∧
    (∀ (adapter : V2PoolLpAdapter) (rpc : LpAddQuoteRequest → PoolAnswers) (env : LpProposalAnswers V2LpRoute)
        (request : LpProposalRequest) (p : BuiltLpProposal V2LpRoute) (quote : LpAddQuote V2LpRoute),
        env.quoteAdd = (fun r => adapter.quoteAdd host (rpc r) r) →
        (LpProposalBuilder.build host.toHost db env request).run = .ok (.ok p) → p.plan = .add quote →
      RefusedUnlessDivisible host.toHost request.policy p.action "lp.rebalanceSlippage"
        request.policy.lp.maxRebalanceSlippageBps quote.expectedLpTokens) ∧
    (∀ (adapter : V2PoolLpAdapter) (rpc : LpRemoveQuoteRequest → PoolAnswers) (env : LpProposalAnswers V2LpRoute)
        (request : LpProposalRequest) (p : BuiltLpProposal V2LpRoute) (quote : LpRemoveQuote V2LpRoute) (closes : Bool),
        env.quoteRemove = (fun r => adapter.quoteRemove host (rpc r) r) →
        (LpProposalBuilder.build host.toHost db env request).run = .ok (.ok p) → p.plan = .remove quote closes →
      RefusedUnlessDivisible host.toHost request.policy p.action "lp.rebalanceSlippage"
        request.policy.lp.maxRebalanceSlippageBps quote.expected1) :=
  ⟨fun _ _ _ _ h => implies_swap h, fun _ _ _ _ h => implies_add h, fun _ _ _ _ _ h hpos => implies_remove h hpos,
    fun _ _ _ _ _ hq hp => refused_swap hq hp, fun _ _ _ _ _ _ hq hp hplan => refused_add hq hp hplan,
    fun _ _ _ _ _ _ _ hq hp hplan => refused_remove hq hp hplan⟩

/-! ### Quotes at the default limit of 50 basis points -/

/-- The client library's predicate on lower-case addresses. -/
def evmHostOf (host : Host) : EvmHost := { host with isAddress := fun s => s.toList.length == 42 }

def aerodromeRouter : V2RouterAdapter := ⟨.base, "aerodrome-v2", "0xcf77a3ba9a5ca399b7c97c74d54e5b1beb874e43"⟩

/-- A router that answers 20 USDC with an amount of WETH. -/
def routerAnswers (expected : Nat) : RouterAnswers :=
  { route := .ok [20000000, expected], amounts := .ok [20000000, expected], gasPrice := .ok 1000000
    probe := .ok [20000, 10000000000000], quotedAt := 1700000000000 }

def openAnswers (expected : Nat) : ProposalAnswers V2RouteData :=
  { prices := recordOf [("0x833589fcd6edb6e08f4c7c32d4f71b54bda02913", stamp "1"),
      ("0x4200000000000000000000000000000000000006", stamp "2000"), (EVM_NATIVE_SENTINEL, stamp "2000")]
    fundingBalances := fun _ => .error ⟨.upstreamUnavailable, "not read in PAPER"⟩
    readBalances := fun _ => .error ⟨.upstreamUnavailable, "not read in PAPER"⟩
    quote := fun r => aerodromeRouter.quote (evmHostOf paperSwapHost) (routerAnswers expected) r
    liquidity := fun _ _ _ => some (stamp "1000000")
    actionId := "6f1c1f0e-0000-4000-8000-00000000a003"
    balancesAt := 1700000000000
    proposedAt := 1700000000000 }

def openRequest : ProposalRequest :=
  { chain := .base, mode := .PAPER, decisionCycleId := "6f1c1f0e-0000-4000-8000-00000000c9c1", source := .llm
    walletAddress := "0x1111111111111111111111111111111111111111"
    decision := ⟨.OPEN, some "0x4200000000000000000000000000000000000006", "20", "momentum"⟩
    policy := defaultRiskPolicy CHAIN_IDS }

/-- A bankroll of 50 USDC and one ETH. -/
def bankroll : Db :=
  LedgerService.setPaperBalance
    (LedgerService.setPaperBalance Db.empty 0 .base "0x833589fcd6edb6e08f4c7c32d4f71b54bda02913" 6 50000000) 0 .base
    EVM_NATIVE_SENTINEL 18 1000000000000000000

/-- What the gate would hand to the engine, on the quiet PAPER account. -/
def inputOf (policy : RiskPolicy) (a : ProposedAction) (snapshot : MarketSnapshot) : RiskInput :=
  { now := 1700000001000, policy, policyHash := "", action := a, state := paperState, snapshot }

def pancakePool : LpPoolState :=
  { chain := .bsc, protocol := "pancakeswap-v2", poolId := "0x16b9a82891338f9ba80e2d6970fdda79d1eb0dae", stable := false
    token0 := ⟨"0x55d398326f99059ff775485246999027b3197955", 18, some "USDT"⟩
    token1 := ⟨"0xbb4cdb9cbd36b01bd1cbaebf2de08d9173bc095c", 18, some "WBNB"⟩
    reserve0 := "1201000000000000000000000", reserve1 := "2000000000000000000000"
    totalSupply := "40000000000000000000000", lpTokenDecimals := 18, observedAt := 1700000000000 }

def pancakeAdapter : V2PoolLpAdapter :=
  ⟨.bsc, "pancakeswap-v2", .uniswapV2, "0x10ed43c718714eb63d5aa57b78b54704e256024e"⟩

def poolAnswers : PoolAnswers :=
  { pool := .ok pancakePool, quoteAddLiquidity := .error ⟨.internal, ""⟩, quoteRemoveLiquidity := .error ⟨.internal, ""⟩
    gasPrice := .ok 1000000000, quotedAt := 1700000000000 }

def exitHost : Host :=
  hostKnowing ("atra-action-v1|6f1c1f0e-0000-4000-8000-00000000c9c3|bsc|lp_remove|pancakeswap-v2|" ++
    "0x55d398326f99059ff775485246999027b3197955|0xbb4cdb9cbd36b01bd1cbaebf2de08d9173bc095c|30024999999999999969|false")
    "bc39a2e07f0a04f23065a8e07ebb29526182b52e25a2cc64c681adbe3ad0a7ab"

def lpAnswers (host : Host) : LpProposalAnswers V2LpRoute :=
  { protocol := "pancakeswap-v2"
    claimsFees := false
    quoteAdd := fun r => pancakeAdapter.quoteAdd (evmHostOf host) poolAnswers r
    quoteRemove := fun r => pancakeAdapter.quoteRemove (evmHostOf host) poolAnswers r
    claimPlan := .error ⟨.adapterUnavailable, "nothing to claim"⟩
    readBalances := fun _ => .error ⟨.upstreamUnavailable, "not read in PAPER"⟩
    actionId := "6f1c1f0e-0000-4000-8000-00000000a004"
    proposedAt := 1700000000000
    now := 1700000000000 }

def lpRequest (action : LpAgentAction) : LpProposalRequest :=
  { chain := .bsc, mode := .PAPER, decisionCycleId := "6f1c1f0e-0000-4000-8000-00000000c9c3", source := .scheduler
    walletAddress := "0x1111111111111111111111111111111111111111", decision := ⟨action, "40", "operator"⟩
    policy := lpPolicy, pool := pancakePool, position := some ⟨"999999999999999999", 1700000000000, "paper-ledger"⟩
    prices := recordOf [("0x55d398326f99059ff775485246999027b3197955", stamp "1"),
      ("0xbb4cdb9cbd36b01bd1cbaebf2de08d9173bc095c", stamp "600.5"), (EVM_NATIVE_SENTINEL, stamp "600.5")] }

/-- A position of almost one LP token, and gas to leave it. -/
def poolHolding : Db :=
  let row : LpPositionRow :=
    { mode := .PAPER, chain := .bsc, protocol := "pancakeswap-v2", poolId := "0x16b9a82891338f9ba80e2d6970fdda79d1eb0dae"
      token0 := "0x55d398326f99059ff775485246999027b3197955", token1 := "0xbb4cdb9cbd36b01bd1cbaebf2de08d9173bc095c"
      decimals0 := 18, decimals1 := 18, lpTokens := 999999999999999999, amount0 := "30025000000000000000"
      amount1 := "50000000000000000", capitalUsd := 60050000, openedAt := 1690000000000, lastAction := .ADD
      lastActionAt := 1690000000000, lastRebalanceAt := none }
  let db := LedgerService.setPaperBalance Db.empty 0 .bsc EVM_NATIVE_SENTINEL 18 1000000000000000000
  { db with lpPositions := db.lpPositions.put row }

theorem open_refused :
    ∃ p, (ProposalBuilder.build paperSwapHost bankroll (openAnswers 9999999999999999) openRequest).run = .ok (.ok p) ∧
      ∃ d, evaluate paperSwapHost (inputOf openRequest.policy p.action p.snapshot) = .ok d ∧
        d.code = some .SLIPPAGE_EXCEEDS_MAX ∧ RefusedBy "slippage.implied" d.checks := by
  decide +kernel

def isRemovePlan (plan : LpPlan V2LpRoute) : Bool :=
  match plan with
  | .remove .. => true
  | _ => false

theorem exit_refused :
    ∃ p, (LpProposalBuilder.build exitHost poolHolding (lpAnswers exitHost) (lpRequest .EXIT)).run = .ok (.ok p) ∧
      isRemovePlan p.plan = true ∧ ∃ d, evaluate exitHost (inputOf lpPolicy p.action p.snapshot) = .ok d ∧
        d.code = some .SLIPPAGE_EXCEEDS_MAX ∧ RefusedBy "lp.rebalanceSlippage" d.checks := by
  decide +kernel

/-- **Rounding blocks a swap and a removal**: 9999999999999999 wei of WETH less the default 50 basis points implies 51, and
so does the WBNB of an exit from a pool. -/
theorem own_quotes_refused :
    (∃ p, (ProposalBuilder.build paperSwapHost bankroll (openAnswers 9999999999999999) openRequest).run = .ok (.ok p) ∧
      ∃ d, evaluate paperSwapHost (inputOf openRequest.policy p.action p.snapshot) = .ok d ∧
        d.code = some .SLIPPAGE_EXCEEDS_MAX ∧ RefusedBy "slippage.implied" d.checks) ∧
    (∃ p, (LpProposalBuilder.build exitHost poolHolding (lpAnswers exitHost) (lpRequest .EXIT)).run = .ok (.ok p) ∧
      ∃ d, evaluate exitHost (inputOf lpPolicy p.action p.snapshot) = .ok d ∧
        d.code = some .SLIPPAGE_EXCEEDS_MAX ∧ RefusedBy "lp.rebalanceSlippage" d.checks) := by
  obtain ⟨p, hp, -, hd⟩ := exit_refused
  exact ⟨open_refused, p, hp, hd⟩

def addHost : Host :=
  hostKnowing ("atra-action-v1|6f1c1f0e-0000-4000-8000-00000000c9c3|bsc|lp_add|pancakeswap-v2|" ++
    "0x55d398326f99059ff775485246999027b3197955|0xbb4cdb9cbd36b01bd1cbaebf2de08d9173bc095c|20000000000000000000|false")
    "992d39d0284475f4c22fd1e02126904af9f9752a16ffe66988f3e73fadae9efe"

def isAddPlan (plan : LpPlan V2LpRoute) : Bool :=
  match plan with
  | .add _ => true
  | _ => false

theorem own_quotes_judged :
    (∃ p, (ProposalBuilder.build paperSwapHost bankroll (openAnswers 9999999999999999) openRequest).run = .ok (.ok p) ∧
      ImpliesByDivisibility 50 p.quote.expectedAmountOut p.quote.minAmountOut ∧
      RefusedUnlessDivisible paperSwapHost (defaultRiskPolicy CHAIN_IDS) p.action "slippage.implied" 50
        p.quote.expectedAmountOut) ∧
    (∃ p quote, (LpProposalBuilder.build addHost poolHolding (lpAnswers addHost) (lpRequest .ADD_LIQUIDITY)).run =
        .ok (.ok p) ∧ p.plan = .add quote ∧
      RefusedUnlessDivisible addHost lpPolicy p.action "lp.rebalanceSlippage" 50 quote.expectedLpTokens) ∧
    (∃ p quote closes, (LpProposalBuilder.build exitHost poolHolding (lpAnswers exitHost) (lpRequest .EXIT)).run =
        .ok (.ok p) ∧ p.plan = .remove quote closes ∧
      RefusedUnlessDivisible exitHost lpPolicy p.action "lp.rebalanceSlippage" 50 quote.expected1) := by
  obtain ⟨hswap, -, -, hswapRefused, -, -⟩ := @own_quotes_iff (evmHostOf paperSwapHost) bankroll
  obtain ⟨-, -, -, -, hadd, -⟩ := @own_quotes_iff (evmHostOf addHost) poolHolding
  obtain ⟨-, -, -, -, -, hremove⟩ := @own_quotes_iff (evmHostOf exitHost) poolHolding
  refine ⟨?_, ?_, ?_⟩
  · obtain ⟨p, hp, -⟩ := open_refused
    obtain ⟨tokenIn, tokenOut, prices, amountIn, quote, hpq, -, -, -, -, -, hquote⟩ := ProposalBuilder.build_ok hp
    refine ⟨p, hp, ?_, hswapRefused aerodromeRouter (fun _ => routerAnswers 9999999999999999) _ _ p rfl hp⟩
    rw [hpq]
    exact hswap _ _ _ _ hquote
  · have h : ∃ p, (LpProposalBuilder.build addHost poolHolding (lpAnswers addHost) (lpRequest .ADD_LIQUIDITY)).run =
        .ok (.ok p) ∧ isAddPlan p.plan = true := by decide +kernel
    obtain ⟨p, hp, hplan⟩ := h
    cases hpl : p.plan with
    | add quote => exact ⟨p, quote, hp, hpl, hadd pancakeAdapter (fun _ => poolAnswers) _ _ p quote rfl hp hpl⟩
    | remove quote closes => simp [isAddPlan, hpl] at hplan
    | claim plan => simp [isAddPlan, hpl] at hplan
  · obtain ⟨p, hp, hplan, -⟩ := exit_refused
    cases hpl : p.plan with
    | add quote => simp [isRemovePlan, hpl] at hplan
    | remove quote closes =>
      exact ⟨p, quote, closes, hp, hpl, hremove pancakeAdapter (fun _ => poolAnswers) _ _ p quote closes rfl hp hpl⟩
    | claim plan => simp [isRemovePlan, hpl] at hplan

end Engine
end Atra
