import Atra.OwnQuotes
/-!
# Approval — the exact approval ahead of a live transaction

Both pipelines ask the engine about an `approve` action before the transaction it enables, on a snapshot cut down to the
prices and balances of the approved token and the native coin.  The candidate is made and judged at one reading of the clock:
nothing is awaited in between.
-/
namespace Atra

/-- What an approval takes from its cycle and its adapter. -/
structure ApprovalInput where
  decisionCycleId : String
  source : ActionSource
  actionId : String
  now : Int
  feeEstimate : FeeEstimate

/-- One leg the router must be able to pull. -/
structure ApprovalLeg where
  token : TokenRef
  amount : Int
  label : String
  isLpToken : Bool

namespace Approval

open Money ProposalBuilder

/-! ## The candidate and its snapshot -/

def approveCandidate (a : ProposedAction) (input : ApprovalInput) (token : TokenRef) (amount : Int) (lp : Option LpLeg)
    (rationale : String) : ProposedAction :=
  { schemaVersion := 1
    actionId := input.actionId
    decisionCycleId := input.decisionCycleId
    idempotencyKey := UNKEYED
    proposedAt := input.now
    mode := .LIVE
    source := input.source
    chain := a.chain
    kind := .approve
    protocol := a.protocol
    contract := a.contract
    programIds := none
    reduceOnly := false
    tokenIn := token
    tokenOut := token
    amountIn := toString amount
    quote := none
    feeEstimate := input.feeEstimate
    lp
    rationale := some rationale }

/-- The candidate the engine is asked about: keyed, and accepted by the schema. -/
def accepted (host : Host) (candidate : ProposedAction) : Option ProposedAction :=
  if (withKey host candidate).Valid then some (withKey host candidate) else none

def swapApproval (host : Host) (a : ProposedAction) (input : ApprovalInput) : Result (Option ProposedAction) := do
  let needed ← amountToBigint a.amountIn
  return accepted host (approveCandidate a input a.tokenIn needed none
    ("exact approval of " ++ toString needed ++ " for the swap that follows"))

def recordedName : LpRecordedAction → String
  | .HOLD => "hold"
  | .ADD => "add"
  | .REMOVE => "remove"
  | .REBALANCE => "rebalance"
  | .COLLECT_FEES => "collect_fees"
  | .EXIT => "exit"

/-- The allowances an LP transaction needs the router to hold. -/
def approvalLegs {R : Type} (plan : LpPlan R) (pool : LpPoolState) : Result (List ApprovalLeg) :=
  match plan with
  | .add quote => do
    let amount0 ← amountToBigint quote.amount0
    let amount1 ← amountToBigint quote.amount1
    return [⟨LpProposalBuilder.LpTokenInfo.ref pool.token0, amount0, pool.token0.symbol.getD "token0", false⟩,
      ⟨LpProposalBuilder.LpTokenInfo.ref pool.token1, amount1, pool.token1.symbol.getD "token1", false⟩]
  | .remove quote _ => do
    let amount ← amountToBigint quote.lpTokens
    return [⟨⟨pool.poolId, pool.lpTokenDecimals⟩, amount, "LP token", true⟩]
  | .claim _ => pure []

/-- The leg an LP-token approval carries: its pool and the hints of the removal. -/
def approvalLp (lp : LpLeg) : LpLeg :=
  { poolId := lp.poolId, capitalUsd := lp.capitalUsd, rebalanceIndexToday := lp.rebalanceIndexToday, claimableFeesUsd := "0"
    amountB := none, minAmountA := none, minAmountB := none, lpTokens := none, claimable := none }

def legApproval (host : Host) (a : ProposedAction) (recorded : LpRecordedAction) (input : ApprovalInput)
    (leg : ApprovalLeg) : Option ProposedAction :=
  accepted host (approveCandidate a input leg.token leg.amount (if leg.isLpToken then a.lp.map approvalLp else none)
    ("exact approval of " ++ toString leg.amount ++ " " ++ leg.label ++ " for the LP " ++ recordedName recorded ++
      " that follows"))

/-- The entries of a record under two keys. -/
def pick {α : Type} (record : Record α) (keys : List String) : Record α := fun key =>
  if keys.contains key then record key else none

/-- The snapshot of an approval: the prices and balances of its token and of the native coin. -/
def cutDown (chain : ChainId) (token : String) (lp : Option LpSnapshot) (s : MarketSnapshot) : MarketSnapshot :=
  { prices := pick s.prices [priceKey chain token, priceKey chain (nativeAddress chain)]
    liquidity := recordOf []
    balances := pick s.balances [balanceKey chain token, balanceKey chain (nativeAddress chain)]
    poolLiquidity := none
    lp }

end Approval

namespace Engine

open Money

variable {host : Host} {i j : RiskInput}

/-! ## What an approval shares with the action it enables -/

/-- An approval judged at the same time, under the same policy and state, for the same chain and protocol. -/
structure ApprovalOf (host : Host) (i j : RiskInput) : Prop where
  now : j.now = i.now
  policy : j.policy = i.policy
  state : j.state = i.state
  kind : j.action.kind = .approve
  valid : j.action.Valid
  key : j.action.idempotencyKey = deriveIdempotencyKey host j.action
  mode : j.action.mode = i.action.mode
  chain : j.action.chain = i.action.chain
  protocol : j.action.protocol = i.action.protocol
  proposedAt : j.action.proposedAt = i.now
  priceNative : priceNative j = priceNative i
  balanceNative : balanceNative j = balanceNative i
  lp : j.snapshot.lp = none ∨ j.snapshot.lp = i.snapshot.lp

theorem approve_flags {a : ProposedAction} (hk : a.kind = .approve) :
    isApprove a = true ∧ isExit a = false ∧ isLp a = false ∧ isLpEntry a = false ∧ isLpExit a = false ∧
      isLpClaim a = false ∧ isLpApprove a = a.lp.isSome ∧ swapQuote a = none := by
  simp [isApprove, isExit, isLp, isLpKind, isLpEntry, isLpExit, isLpClaim, isLpApprove, swapQuote, hk]

theorem ProposedAction.Valid.approve_quote (hv : j.action.Valid) (hk : j.action.kind = .approve) :
    j.action.quote = none := by
  have hc := hv.cross
  simp only [ProposedAction.crossIssues, quoteRules, hk, if_true, List.append_eq_nil_iff, expect_eq_nil] at hc
  simpa using hc.1.1.1.2.1.1

/-- Tier 0 of an approval follows from tier 0 of its action, but for the decimals of what is approved. -/
theorem ApprovalOf.tier0 (h : ApprovalOf host i j) (h0 : Tier0 host i)
    (hd : decimalsMismatch j.action (i.policy.tokens i.action.chain) = none) : Tier0 host j where
  policy := by rw [h.policy]; exact h0.policy
  action := h.valid
  decimals := by rw [h.policy, h.chain]; exact hd
  idempotency := h.key
  running := by rw [h.policy, h.state]; exact h0.running
  unpaused := by rw [h.policy, h.state]; exact h0.unpaused
  mode := by rw [h.mode, h.state]; exact h0.mode
  live := by rw [h.mode, h.state, h.now]; exact h0.live

theorem lpEntryCapital_of_not_entry (he : isLpEntry i.action = false) : lpEntryCapital i = .ok none := by
  unfold lpEntryCapital
  split
  · split
    · rw [if_neg (by simp [he])]
      rfl
    · rfl
  · rfl

theorem capitalChecks_of_not_entry {entry : Option Int} (he : isLpEntry i.action = false) :
    capitalChecks i entry = .ok [] := by
  unfold capitalChecks
  split
  · rw [if_neg (by simp [he])]
    rfl
  · rfl

/-- The groups of an approval that depend on the policy and the ledger alone parse, because those of its action did. -/
theorem ApprovalOf.ledger_isOk (h : ApprovalOf host i j) (r : Run host i) (am : Amounts) :
    (∃ cs, sizeChecks j am = .ok cs) ∧ (∃ out, lossChecks j am none = .ok out) ∧
      (∃ out, deployedChecks j am none = .ok out) ∧ (∃ cs, feeChecks j am = .ok cs) ∧
      (∃ cs, liquidityChecks j = .ok cs) := by
  obtain ⟨hApp, hExit, hLp, hEntry, hLpExit, hClaim, hLpApp, hSwap⟩ := approve_flags h.kind
  obtain ⟨maxTrade, hTrade, -⟩ := sizeChecks_clear r.size_ok
  obtain ⟨worst, maxLoss, hLoss, -, hMaxLoss, -⟩ := lossChecks_clear r.loss_ok
  obtain ⟨deployed, lpDeployed, maxDeployed, hD, hLD, hMaxD, -⟩ := deployedChecks_clear r.deployed_ok
  obtain ⟨maxFee, hMaxFee, -⟩ := feeChecks_clear r.fee_ok
  have hLossJ : computeDailyLoss j = .ok r.loss.2 := by
    rw [← hLoss]
    unfold computeDailyLoss unrealizedMove
    rw [h.policy, h.state]
  have hWorst : ∃ worst, worstCase j am none = .ok worst := by
    unfold worstCase
    rw [if_neg (by simp [hLp])]
    split
    · rw [if_pos hApp]
      exact ⟨_, rfl⟩
    · exact ⟨_, rfl⟩
  have hLpJ : ∃ m, Engine.lpDeployed j = .ok m := by
    rcases h.lp with hn | hs
    · unfold Engine.lpDeployed
      rw [hn]
      exact ⟨_, rfl⟩
    · exact ⟨lpDeployed, by rw [← hLD]; unfold Engine.lpDeployed; rw [hs]⟩
  obtain ⟨worstJ, hWorst⟩ := hWorst
  obtain ⟨lpJ, hLpJ⟩ := hLpJ
  refine ⟨?_, ?_, ?_, ?_, ?_⟩
  · unfold sizeChecks
    rw [h.policy, hTrade]
    simp only [bind_ok, Except.ok.injEq, exists_eq_left']
    split <;> exact ⟨_, rfl⟩
  · unfold lossChecks
    rw [h.policy, hLossJ, hWorst, hMaxLoss]
    simp only [bind_ok, Except.ok.injEq, exists_eq_left']
    split <;> exact ⟨_, rfl⟩
  · unfold deployedChecks
    rw [h.policy, h.state, hD, hLpJ, hMaxD]
    simp only [bind_ok, Except.ok.injEq, exists_eq_left']
    split <;> exact ⟨_, rfl⟩
  · unfold feeChecks
    rw [h.policy, hMaxFee]
    exact ⟨_, rfl⟩
  · have hliq := r.liquidity_ok
    unfold liquidityChecks at hliq ⊢
    rw [bind_ok] at hliq
    obtain ⟨minLiquidity, hm, -⟩ := hliq
    rw [h.policy, hm, hSwap]
    exact ⟨_, rfl⟩

/-- **An approval is always judged**: the figures its checks read parse, because those of its action did. -/
theorem ApprovalOf.run (h : ApprovalOf host i j) (r : Run host i) : Nonempty (Run host j) := by
  obtain ⟨hApp, hExit, hLp, hEntry, hLpExit, hClaim, hLpApp, hSwap⟩ := approve_flags h.kind
  have hw := h.valid.wellFormed
  obtain ⟨fee, hfee⟩ := feeInNativeUnits_isOk hw.fee
  obtain ⟨v, hv⟩ : ∃ v, valueAt (Decimal.natOf j.action.amountIn.toList : Int) j.action.tokenIn.decimals
      (usablePrice (priceIn j)) .ceil = .ok v :=
    valueAt_isOk (priceIn j) (by have := hw.tokenIn; omega)
  obtain ⟨f, hf⟩ : ∃ f, valueAt fee (nativeTokenRef j.action.chain).decimals (usablePrice (Engine.priceNative j)) .ceil =
      .ok f := valueAt_isOk (Engine.priceNative j) (nativeTokenRef_decimals_le _)
  obtain ⟨am, ham⟩ : ∃ am, deriveAmounts j = .ok am :=
    ⟨⟨Decimal.natOf j.action.amountIn.toList, v, fee, f⟩,
      deriveAmounts_ok.2 ⟨amountToBigint_ok.2 ⟨hw.amountIn, rfl⟩, hv, hfee, hf⟩⟩
  obtain ⟨⟨size, hsize⟩, ⟨loss, hloss⟩, ⟨deployed, hdep⟩, ⟨feeCs, hfeeCs⟩, ⟨liq, hliq⟩⟩ := h.ledger_isOk r am
  obtain ⟨held, nativeHeld, -, hNative, -⟩ := balanceChecks_clear r.balances_ok
  have hbal : ∃ cs, balanceChecks host j am = .ok cs := by
    unfold balanceChecks tokenInBalanceCheck
    rw [if_pos (by simp [hApp]), h.balanceNative, hNative]
    exact ⟨_, rfl⟩
  obtain ⟨bal, hbal⟩ := hbal
  have hpos : ∃ cs, positionChecks host j = .ok cs := by
    unfold positionChecks
    rw [if_neg (by simp [hExit])]
    exact ⟨_, rfl⟩
  obtain ⟨pos, hpos⟩ := hpos
  exact ⟨⟨none, [], pos, am, size, loss, deployed, _, _, feeCs, liq, bal, [], lpEntryCapital_of_not_entry hEntry,
    capitalChecks_of_not_entry hEntry, hpos, ham, hsize, hloss, hdep, by unfold qualityChecks; rw [hSwap]; rfl,
    by unfold marketChecks; rw [hSwap]; rfl, hfeeCs, hliq, hbal, runLpChecks_of_not_lp hLp⟩⟩

/-! ## What can refuse an approval -/

def Tolerated (names : List String) (c : RiskCheck) : Prop := refuses c = true → c.name ∈ names

def OnlyBy (names : List String) (checks : List RiskCheck) : Prop := ∀ c ∈ checks, Tolerated names c

section
variable {names : List String} {name : String} {code : RejectionCode}

theorem onlyBy_nil : OnlyBy names [] := by simp [OnlyBy]

theorem onlyBy_append {xs ys : List RiskCheck} : OnlyBy names (xs ++ ys) ↔ OnlyBy names xs ∧ OnlyBy names ys :=
  List.forall_mem_append

theorem onlyBy_cons {c : RiskCheck} {cs : List RiskCheck} :
    OnlyBy names (c :: cs) ↔ Tolerated names c ∧ OnlyBy names cs :=
  List.forall_mem_cons

theorem tolerated_of_clear {c : RiskCheck} (h : refuses c = false) : Tolerated names c := by
  intro hr
  rw [h] at hr
  cases hr

theorem tolerated_notApplicable : Tolerated names (notApplicable name code) := tolerated_of_clear (refuses_notApplicable _ _)

theorem tolerated_iff {c : RiskCheck} (h : signature c = (name, code)) (hn : name ∉ names) :
    Tolerated names c ↔ refuses c = false := by
  refine ⟨fun ht => ?_, tolerated_of_clear⟩
  cases hr : refuses c with
  | false => rfl
  | true => exact absurd (ht hr) (by rwa [show c.name = name from congrArg Prod.fst h])

theorem tolerated_of_mem {c : RiskCheck} (h : signature c = (name, code)) (hn : name ∈ names) : Tolerated names c := by
  intro _
  rwa [show c.name = name from congrArg Prod.fst h]

theorem onlyBy_of_clear {cs : List RiskCheck} (h : Clear cs) : OnlyBy names cs := fun c hc => tolerated_of_clear (h c hc)

/-- A group of one check outside the list may not refuse at all. -/
theorem onlyBy_iff_clear {cs : List RiskCheck} (h : cs.map signature = [(name, code)]) (hn : name ∉ names) :
    OnlyBy names cs ↔ Clear cs := by
  refine forall₂_congr fun c hc => ?_
  have hmem : signature c ∈ cs.map signature := List.mem_map.2 ⟨c, hc, rfl⟩
  rw [h, List.mem_singleton] at hmem
  exact tolerated_iff hmem hn

theorem onlyBy_of_mem {cs : List RiskCheck} (h : cs.map signature = [(name, code)]) (hn : name ∈ names) :
    OnlyBy names cs := by
  intro c hc
  have hmem : signature c ∈ cs.map signature := List.mem_map.2 ⟨c, hc, rfl⟩
  rw [h, List.mem_singleton] at hmem
  exact tolerated_of_mem hmem hn

end

/-- The checks about an approval's own fee and spender; ahead of an entry also the day's loss, by that fee. -/
def ownChecks (entry : Bool) : List String :=
  ["freshness.fee", "fee.usd", "balance.gas", "allowlist.contract"] ++ if entry then ["loss.daily"] else []

/-- What the freshness group asks of an approval besides its own fee. -/
structure ApprovalFresh (j : RiskInput) : Prop where
  priceIn : Fresh (priceIn j) j.now j.policy.freshness.priceMaxAgeMs j.policy.freshness.maxClockSkewMs ∧
    (usablePrice (priceIn j)).isSome
  balanceIn : Fresh (balanceIn j) j.now j.policy.freshness.balanceMaxAgeMs j.policy.freshness.maxClockSkewMs

theorem ApprovalOf.fresh_only (h : ApprovalOf host i j) (hi : AllFresh i)
    (hp : 0 ≤ i.policy.freshness.maxClockSkewMs ∧ 0 ≤ i.policy.freshness.actionMaxAgeMs) (entry : Bool) :
    OnlyBy (ownChecks entry) (freshnessChecks j) ↔ ApprovalFresh j := by
  obtain ⟨hApp, hExit, hLp, hEntry, hLpExit, hClaim, hLpApp, hSwap⟩ := approve_flags h.kind
  have hq := ProposedAction.Valid.approve_quote h.valid h.kind
  have hledger : refuses (ledgerDayCheck j) = false := by
    have hl : j.state.ledger.dayStartUtcMs = dayStartOf j.now := by rw [h.state, h.now]; exact hi.ledger
    simp [ledgerDayCheck, hl]
  have haction : refuses (freshnessCheck "freshness.action" (some ⟨"action", j.action.proposedAt, j.action.source.name⟩)
      j.now j.policy.freshness.actionMaxAgeMs j.policy.freshness.maxClockSkewMs) = false := by
    rw [freshnessCheck_clear, fresh_some, h.policy, h.proposedAt, h.now]
    dsimp only
    omega
  have hnative : refuses (priceCheck "freshness.price.native" (Engine.priceNative j) j.now j.policy.freshness.priceMaxAgeMs
      j.policy.freshness.maxClockSkewMs) = false := by
    rw [priceCheck_clear, h.policy, h.priceNative, h.now]
    exact hi.priceNative
  have hbalance : refuses (freshnessCheck "freshness.balance.native" (Engine.balanceNative j) j.now
      j.policy.freshness.balanceMaxAgeMs j.policy.freshness.maxClockSkewMs) = false := by
    rw [freshnessCheck_clear, h.policy, h.balanceNative, h.now]
    exact hi.balanceNative
  have hfee : "freshness.fee" ∈ ownChecks entry := by cases entry <;> decide
  have hprice : "freshness.price.tokenIn" ∉ ownChecks entry := by cases entry <;> decide
  have hheld : "freshness.balance.tokenIn" ∉ ownChecks entry := by cases entry <;> decide
  unfold freshnessChecks
  simp only [hApp, hq, hLpExit, hClaim, Bool.or_false, Bool.true_or, Bool.false_eq_true, if_true, if_false, onlyBy_cons]
  rw [tolerated_iff signature_priceCheck hprice, tolerated_iff signature_freshnessCheck hheld, priceCheck_clear,
    freshnessCheck_clear]
  constructor
  · rintro ⟨-, -, hin, -, -, -, -, hb, -, -, -⟩
    exact ⟨hin, hb⟩
  · intro hf
    exact ⟨tolerated_of_clear haction, tolerated_of_clear hledger, hf.priceIn, tolerated_notApplicable,
      tolerated_of_clear hnative, tolerated_notApplicable, tolerated_of_mem signature_freshnessCheck hfee, hf.balanceIn,
      tolerated_of_clear hbalance, tolerated_notApplicable, onlyBy_nil⟩

theorem poolChecks_skipped : ∀ c ∈ poolChecks host i, c.skipped = none := by
  unfold poolChecks
  intro c hc
  split at hc
  · split at hc
    · rw [List.mem_singleton] at hc
      rw [hc]
      rfl
    · cases hc
  · cases hc

/-- What the other groups ask of an approval besides its own fee and spender. -/
structure ApprovalRoom (host : Host) (j : RiskInput) (q : Run host j) (entry : Bool) : Prop where
  fresh : ApprovalFresh j
  size : Clear q.size
  loss : entry = false → Clear q.loss.1
  paced : Clear (pacingChecks j)

/-- **Which checks can refuse an approval**, once its pool and token are allowed. -/
theorem ApprovalOf.only_iff (h : ApprovalOf host i j) {r : Run host i} (hi : r.AllClear) (q : Run host j)
    (hp : 0 ≤ i.policy.freshness.maxClockSkewMs ∧ 0 ≤ i.policy.freshness.actionMaxAgeMs) (entry : Bool)
    (hpool : Clear (poolChecks host j))
    (htoken : ((j.policy.tokens j.action.chain).map (·.address)).contains j.action.tokenIn.address = true ∨
      isLpApprove j.action = true) :
    OnlyBy (ownChecks entry) q.checks ↔ ApprovalRoom host j q entry := by
  obtain ⟨hApp, hExit, hLp, hEntry, hLpExit, hClaim, hLpApp, hSwap⟩ := approve_flags h.kind
  have hnot : ∀ name ∈ ["size.amountInUsd", "cooldown.market", "cooldown.global", "balance.tokenIn"],
      name ∉ ownChecks entry := by cases entry <;> decide
  have hown : ∀ name ∈ ["freshness.fee", "fee.usd", "balance.gas", "allowlist.contract"], name ∈ ownChecks entry := by
    cases entry <;> decide
  have hchain : Clear (chainChecks j) := by
    have hc := hi.chain
    unfold chainChecks at hc ⊢
    rw [h.policy, h.chain]
    exact hc
  have hcapital : q.capital = [] := by
    have hc := q.capital_ok
    rw [capitalChecks_of_not_entry hEntry] at hc
    exact (Except.ok.inj hc).symm
  have hlp : q.lp = [] := by
    have hl := q.lp_ok
    rw [runLpChecks_of_not_lp hLp] at hl
    exact (Except.ok.inj hl).symm
  have hposition : Clear q.position := by
    have hc := q.position_ok
    unfold positionChecks at hc
    rw [if_neg (by simp [hExit]), pure_ok] at hc
    rw [← hc]
    simp [refuses]
  have hquality : Clear q.quality.1 := by
    have hc := q.quality_ok
    unfold qualityChecks at hc
    rw [hSwap, pure_ok] at hc
    rw [← hc]
    simp
  have hmarket : Clear q.market := by
    have hc := q.market_ok
    unfold marketChecks at hc
    rw [hSwap, pure_ok] at hc
    rw [← hc]
    simp
  have hliquidity : Clear q.liquidity := by
    have hc := q.liquidity_ok
    unfold liquidityChecks at hc
    rw [bind_ok] at hc
    obtain ⟨_, _, hc⟩ := hc
    rw [hSwap, pure_ok] at hc
    rw [← hc]
    simp
  have hdeployed : Clear q.deployed.1 := by
    obtain ⟨_, _, _, _, _, _, hc⟩ := deployedChecks_clear q.deployed_ok
    exact hc.2 (by simp [hApp])
  have hallow : OnlyBy (ownChecks entry) (allowlistChecks host j) := by
    have htoken' : (((j.policy.tokens j.action.chain).map (·.address)).contains j.action.tokenIn.address ||
        tokenInViaPool host j) = true := by
      rw [Bool.or_eq_true]
      refine htoken.imp_right fun hl => ?_
      have hall : (poolChecks host j).all (·.passed) = true := List.all_eq_true.2 fun c hc => by
        have hs : c.skipped = none := poolChecks_skipped c hc
        have hr := hpool c hc
        simpa [refuses, hs] using hr
      simp [tokenInViaPool, hl, hall]
    have hprotocol : ((j.policy.protocols j.action.chain).lookup j.action.protocol).isSome = true := by
      have ha := hi.allowlist
      unfold allowlistChecks at ha
      simp only [clear_cons, refuses_mkCheck] at ha
      rw [h.policy, h.chain, h.protocol]
      simpa using ha.2.2.1
    unfold allowlistChecks
    simp only [hApp, if_true, onlyBy_cons]
    exact ⟨tolerated_of_clear (by rw [refuses_mkCheck, htoken']; rfl), tolerated_notApplicable,
      tolerated_of_clear (by rw [refuses_mkCheck, hprotocol]; rfl),
      tolerated_of_mem signature_contractCheck (hown _ (by decide)), onlyBy_nil⟩
  have hbalances : OnlyBy (ownChecks entry) q.balances := by
    have hc := q.balances_ok
    unfold balanceChecks tokenInBalanceCheck at hc
    rw [if_pos (by simp [hApp])] at hc
    simp only [bind_ok, pure_ok] at hc
    obtain ⟨_, rfl, _, _, hc⟩ := hc
    rw [← hc]
    simp only [onlyBy_cons]
    exact ⟨tolerated_notApplicable, tolerated_of_mem signature_mkCheck (hown _ (by decide)), onlyBy_nil⟩
  have hloss : OnlyBy (ownChecks entry) q.loss.1 ↔ (entry = false → Clear q.loss.1) := by
    cases entry with
    | false => simpa using onlyBy_iff_clear (lossChecks_signatures q.loss_ok) (by decide)
    | true => simpa using onlyBy_of_mem (lossChecks_signatures q.loss_ok) (by decide)
  have hpaced : OnlyBy (ownChecks entry) (pacingChecks j) ↔ Clear (pacingChecks j) := by
    refine ⟨fun ho c hc => ?_, onlyBy_of_clear⟩
    have hmem : signature c ∈ (pacingChecks j).map signature := List.mem_map.2 ⟨c, hc, rfl⟩
    rw [pacingChecks_signatures] at hmem
    simp only [List.mem_cons, List.not_mem_nil, or_false] at hmem
    rcases hmem with hs | hs
    · exact (tolerated_iff hs (hnot _ (by decide))).1 (ho c hc)
    · exact (tolerated_iff hs (hnot _ (by decide))).1 (ho c hc)
  unfold Run.checks
  simp only [onlyBy_append]
  rw [h.fresh_only hi.fresh hp entry, hloss, hpaced, onlyBy_iff_clear (sizeChecks_signatures q.size_ok) (hnot _ (by decide)),
    hcapital, hlp]
  constructor
  · rintro ⟨⟨⟨⟨⟨⟨⟨⟨⟨⟨⟨⟨⟨⟨⟨-, -⟩, -⟩, hfresh⟩, -⟩, -⟩, hsize⟩, hloss'⟩, -⟩, -⟩, -⟩, -⟩, -⟩, hpace⟩, -⟩, -⟩
    exact ⟨hfresh, hsize, hloss', hpace⟩
  · intro ⟨hfresh, hsize, hloss', hpace⟩
    exact ⟨⟨⟨⟨⟨⟨⟨⟨⟨⟨⟨⟨⟨⟨⟨onlyBy_of_clear hchain, onlyBy_of_clear hpool⟩, onlyBy_nil⟩, hfresh⟩, hallow⟩,
      onlyBy_of_clear hposition⟩, hsize⟩, hloss'⟩, onlyBy_of_clear hdeployed⟩, onlyBy_of_clear hquality⟩,
      onlyBy_of_clear hmarket⟩, onlyBy_of_mem (feeChecks_signatures q.fee_ok) (hown _ (by decide))⟩,
      onlyBy_of_clear hliquidity⟩, hpace⟩, hbalances⟩, onlyBy_nil⟩

/-! ## The conditions in terms of the input -/

/-- The value of an amount at a usable price, rounded up, is within the limit of one trade. -/
def WithinTrade (i : RiskInput) (amount : Int) (decimals : Nat) (price : Option Stamped) : Prop :=
  ∃ p maxTrade, usablePrice price = some p ∧ usdToMicros i.policy.maxAmountPerTradeUsd = .ok maxTrade ∧
    Rounding.up (amount * p) (usdUnit decimals) ≤ maxTrade

/-- The day's loss plus a fee in USD, rounded up, is within the limit of a day. -/
def WithinDay (i : RiskInput) (detail : FeeDetail) : Prop :=
  ∃ loss fee p maxLoss, computeDailyLoss i = .ok loss ∧ feeInNativeUnits detail = .ok fee ∧
    usablePrice (priceNative i) = some p ∧ usdToMicros i.policy.maxDailyLossUsd = .ok maxLoss ∧
    loss + Rounding.up (fee * p) (usdUnit (nativeTokenRef i.action.chain).decimals) ≤ maxLoss

/-- The interval between any two actions has passed. -/
def Paced (i : RiskInput) : Prop :=
  ∀ t, i.state.lastAnyActionAt = some t → (i.policy.globalMinIntervalSeconds : Int) * 1000 ≤ i.now - t

/-- The amounts of an input at a usable price of `tokenIn`. -/
theorem Run.amountInUsd_eq (q : Run host j) (hd : j.action.tokenIn.decimals ≤ 36) {amount : Int}
    (ha : amountToBigint j.action.amountIn = .ok amount) :
    q.amounts.amountInUsd = (usablePrice (priceIn j)).map fun p =>
      Rounding.up (amount * p) (usdUnit j.action.tokenIn.decimals) := by
  obtain ⟨hIn, hV, -, -⟩ := deriveAmounts_ok.1 q.amounts_ok
  obtain rfl := Except.ok.inj (hIn.symm.trans ha)
  exact valueAt_ceil hd hV

theorem Run.feeUsd_eq (q : Run host j) :
    q.amounts.feeUsd = (usablePrice (Engine.priceNative j)).map fun p =>
      Rounding.up (q.amounts.feeNative * p) (usdUnit (nativeTokenRef j.action.chain).decimals) := by
  obtain ⟨-, -, -, hF⟩ := deriveAmounts_ok.1 q.amounts_ok
  exact valueAt_ceil (nativeTokenRef_decimals_le _) hF

theorem size_clear_iff (q : Run host j) (hv : j.action.Valid) (hk : j.action.kind = .approve) {amount : Int}
    (ha : amountToBigint j.action.amountIn = .ok amount) : Clear q.size ↔
    (isLpApprove j.action = false → WithinTrade j amount j.action.tokenIn.decimals (priceIn j)) := by
  obtain ⟨hApp, hExit, hLp, hEntry, hLpExit, hClaim, hLpApp, hSwap⟩ := approve_flags hk
  have hd : j.action.tokenIn.decimals ≤ 36 := by
    have := hv.wellFormed.tokenIn
    omega
  obtain ⟨maxTrade, hm, hc⟩ := sizeChecks_clear q.size_ok
  rw [hc, hExit, hLp, Bool.or_self, Bool.false_or, q.amountInUsd_eq hd ha]
  refine imp_congr_right fun _ => ?_
  unfold WithinTrade
  rw [within_iff, hm]
  cases usablePrice (priceIn j) with
  | none => simp
  | some p => simp

theorem loss_clear_iff (q : Run host j) (hv : j.action.Valid) (hk : j.action.kind = .approve)
    (hp : (usablePrice (priceIn j)).isSome) : Clear q.loss.1 ↔ WithinDay j j.action.feeEstimate.detail := by
  obtain ⟨hApp, hExit, hLp, hEntry, hLpExit, hClaim, hLpApp, hSwap⟩ := approve_flags hk
  have hd : j.action.tokenIn.decimals ≤ 36 := by
    have := hv.wellFormed.tokenIn
    omega
  obtain ⟨pIn, hpIn⟩ := Option.isSome_iff_exists.1 hp
  obtain ⟨hIn, -, hFee, -⟩ := deriveAmounts_ok.1 q.amounts_ok
  have hval := q.amountInUsd_eq hd hIn
  rw [hpIn, Option.map_some] at hval
  obtain ⟨worst, maxLoss, hLoss, hWorst, hMaxLoss, hc⟩ := lossChecks_clear q.loss_ok
  rw [hc, hExit, hLpExit]
  unfold worstCase at hWorst
  rw [if_neg (by simp [hLp]), hval, q.feeUsd_eq] at hWorst
  unfold WithinDay
  rw [hLoss, hFee, hMaxLoss]
  cases hpn : usablePrice (Engine.priceNative j) with
  | none =>
    rw [hpn] at hWorst
    obtain rfl := pure_ok.1 hWorst
    simp
  | some p =>
    simp only [hpn, Option.map_some, hApp, if_true, pure_ok] at hWorst
    subst hWorst
    simp

theorem paced_clear_iff (hk : j.action.kind = .approve) (ht : j.policy.Timing) :
    Clear (pacingChecks j) ↔ (isLpApprove j.action = false → Paced j) := by
  obtain ⟨hApp, hExit, hLp, hEntry, hLpExit, hClaim, hLpApp, hSwap⟩ := approve_flags hk
  have helapsed : refuses (elapsedCheck "cooldown.global" j.now j.state.lastAnyActionAt j.policy.globalMinIntervalSeconds) =
      false ↔ Paced j := by
    unfold elapsedCheck Paced
    have hg := ht.globalMinIntervalSeconds
    cases j.state.lastAnyActionAt with
    | none =>
      have hlimit : (j.policy.globalMinIntervalSeconds : Int) * 1000 ≤ MAX_SAFE_INTEGER := by
        unfold MAX_SAFE_INTEGER
        omega
      simp [hlimit]
    | some t => simp
  unfold pacingChecks
  simp only [hApp, hExit, hLpExit, Bool.or_false, Bool.false_or, Bool.or_true, if_true, clear_cons, refuses_notApplicable,
    true_and, clear_nil, and_true, ite_clear, helapsed]

/-! ## The verdict on an approval -/

/-- The engine judges an input, and only the checks about an approval's own fee and spender refuse it. -/
def OnlyOwnChecks (host : Host) (j : RiskInput) (entry : Bool) : Prop :=
  ∃ d, evaluate host j = .ok d ∧ OnlyBy (ownChecks entry) d.checks

theorem onlyOwnChecks_iff {entry : Bool} (h0 : Tier0 host j) (q : Run host j) :
    OnlyOwnChecks host j entry ↔ OnlyBy (ownChecks entry) q.checks := by
  have hc := tier0Checks_clear.2 h0
  have he : evaluate host j = .ok (finish j (tier0Checks host j ++ q.checks) (some q.derived)) := by
    unfold evaluate
    rw [if_neg (by rw [checksFailed_eq_false.2 hc]; simp), runRemainingChecks_ok.2 ⟨q, rfl⟩]
    rfl
  unfold OnlyOwnChecks
  rw [he]
  simp only [Except.ok.injEq, exists_eq_left']
  show OnlyBy _ (tier0Checks host j ++ q.checks) ↔ _
  rw [onlyBy_append, and_iff_right (onlyBy_of_clear hc)]

/-- **The verdict on an approval whose action is allowed**: only its own fee and spender can refuse it exactly when its
token is priced and held on fresh data, its value fits one trade and the interval has passed (unless it approves an LP
token), and, ahead of an exit, the day has room for its fee. -/
theorem ApprovalOf.onlyOwnChecks_iff (h : ApprovalOf host i j) (hpol : i.policy.Valid) (hi : Allows host i) (entry : Bool)
    (hd : decimalsMismatch j.action (i.policy.tokens i.action.chain) = none) (hpool : Clear (poolChecks host j))
    (htoken : ((j.policy.tokens j.action.chain).map (·.address)).contains j.action.tokenIn.address = true ∨
      isLpApprove j.action = true) {amount : Int} (ha : amountToBigint j.action.amountIn = .ok amount) :
    OnlyOwnChecks host j entry ↔ ApprovalFresh j ∧
      (isLpApprove j.action = false → WithinTrade j amount j.action.tokenIn.decimals (priceIn j) ∧ Paced j) ∧
      (entry = false → WithinDay j j.action.feeEstimate.detail) := by
  obtain ⟨h0, r, hr⟩ := allows_iff.1 hi
  obtain ⟨q⟩ := h.run r
  have ht := hpol.timing
  rw [Engine.onlyOwnChecks_iff (h.tier0 h0 hd) q,
    h.only_iff hr q ⟨ht.maxClockSkewMs, ht.actionMaxAgeMs⟩ entry hpool htoken]
  have hsize := size_clear_iff q h.valid h.kind ha
  have hpaced := paced_clear_iff h.kind (show j.policy.Timing by rw [h.policy]; exact ht)
  constructor
  · intro hroom
    exact ⟨hroom.fresh, fun hn => ⟨hsize.1 hroom.size hn, hpaced.1 hroom.paced hn⟩,
      fun he => (loss_clear_iff q h.valid h.kind hroom.fresh.priceIn.2).1 (hroom.loss he)⟩
  · intro ⟨hf, hn, hl⟩
    exact ⟨hf, hsize.2 fun hna => (hn hna).1, fun he => (loss_clear_iff q h.valid h.kind hf.priceIn.2).2 (hl he),
      hpaced.2 fun hna => (hn hna).2⟩

/-! ## The approvals of the two pipelines -/

/-- What the engine is asked about an approval, beside the input of its action. -/
def approvalInput (i : RiskInput) (b : ProposedAction) (lp : Option LpSnapshot) : RiskInput :=
  { i with action := b, snapshot := Approval.cutDown b.chain b.tokenIn.address lp i.snapshot }

theorem pick_of_mem {α : Type} {record : Record α} {keys : List String} {key : String} (h : key ∈ keys) :
    Approval.pick record keys key = record key := by
  unfold Approval.pick
  rw [if_pos (by simpa using h)]

theorem nativeTokenRef_address (chain : ChainId) :
    (nativeTokenRef chain).address = ProposalBuilder.nativeAddress chain := by
  cases chain <;> rfl

theorem accepted_some {candidate b : ProposedAction} (h : Approval.accepted host candidate = some b) :
    b = ProposalBuilder.withKey host candidate ∧ b.Valid := by
  unfold Approval.accepted at h
  split at h
  · rename_i hv
    obtain rfl := Option.some.inj h
    exact ⟨rfl, hv⟩
  · cases h

section
variable {b : ProposedAction} {input : ApprovalInput} {token : TokenRef} {amount : Int} {lp : Option LpLeg}
  {rationale : String} {lps : Option LpSnapshot}

theorem priceIn_approvalInput : priceIn (approvalInput i b lps) = i.snapshot.prices (priceKey b.chain b.tokenIn.address) :=
  pick_of_mem List.mem_cons_self

theorem balanceIn_approvalInput :
    balanceIn (approvalInput i b lps) = i.snapshot.balances (balanceKey b.chain b.tokenIn.address) :=
  pick_of_mem List.mem_cons_self

theorem approvalOf_candidate
    (hb : Approval.accepted host (Approval.approveCandidate i.action input token amount lp rationale) = some b)
    (hm : i.action.mode = .LIVE) (hn : input.now = i.now) (hl : lps = none ∨ lps = i.snapshot.lp) :
    ApprovalOf host i (approvalInput i b lps) := by
  obtain ⟨rfl, hv⟩ := accepted_some hb
  refine ⟨rfl, rfl, rfl, rfl, hv, rfl, hm.symm, rfl, rfl, hn, ?_, ?_, hl⟩
  · unfold priceNative
    rw [nativeTokenRef_address, nativeTokenRef_address]
    exact pick_of_mem (List.mem_cons_of_mem _ List.mem_cons_self)
  · unfold balanceNative
    rw [nativeTokenRef_address, nativeTokenRef_address]
    exact pick_of_mem (List.mem_cons_of_mem _ List.mem_cons_self)

end

/-- The value of what an action spends is within the limit of one trade. -/
def SpendsWithinTrade (i : RiskInput) : Prop :=
  ∃ amount, amountToBigint i.action.amountIn = .ok amount ∧ WithinTrade i amount i.action.tokenIn.decimals (priceIn i)

theorem amountIn_toString {b : ProposedAction} {amount : Int} (hv : b.Valid) (ha : b.amountIn = toString amount) :
    amountToBigint b.amountIn = .ok amount := by
  obtain ⟨z, hz⟩ : ∃ z, amountToBigint b.amountIn = .ok z := ⟨_, amountToBigint_ok.2 ⟨hv.wellFormed.amountIn, rfl⟩⟩
  rw [ha] at hz ⊢
  rw [hz, eq_of_amountToBigint_intToString hz]

theorem decimalsMismatch_eq_none {a : ProposedAction} {allowlist : List TokenAllowEntry} :
    decimalsMismatch a allowlist = none ↔ ∀ ref ∈ [a.tokenIn, a.tokenOut], ∀ entry,
      allowlist.find? (·.address == ref.address) = some entry → entry.decimals = ref.decimals := by
  unfold decimalsMismatch
  rw [List.findSome?_eq_none_iff]
  refine forall₂_congr fun ref _ => ?_
  cases allowlist.find? (·.address == ref.address) with
  | none => simp
  | some entry => simp

/-- An approval names one token, so its decimals are asked for once. -/
theorem decimalsMismatch_same {a : ProposedAction} {allowlist : List TokenAllowEntry} (h : a.tokenOut = a.tokenIn) :
    decimalsMismatch a allowlist = none ↔ ∀ entry, allowlist.find? (·.address == a.tokenIn.address) = some entry →
      entry.decimals = a.tokenIn.decimals := by
  rw [decimalsMismatch_eq_none, h]
  simp

theorem ApprovalOf.withinTrade_iff (h : ApprovalOf host i j) {amount : Int} {decimals : Nat} {price : Option Stamped} :
    WithinTrade j amount decimals price ↔ WithinTrade i amount decimals price := by
  unfold WithinTrade
  rw [h.policy]

theorem ApprovalOf.paced_iff (h : ApprovalOf host i j) : Paced j ↔ Paced i := by
  unfold Paced
  rw [h.policy, h.state, h.now]

theorem ApprovalOf.withinDay_iff (h : ApprovalOf host i j) {detail : FeeDetail} :
    WithinDay j detail ↔ WithinDay i detail := by
  have hloss : computeDailyLoss j = computeDailyLoss i := by
    unfold computeDailyLoss unrealizedMove
    rw [h.policy, h.state]
  unfold WithinDay
  rw [hloss, h.policy, h.priceNative, h.chain]

/-- An action the global interval was asked of is paced. -/
theorem paced_of_clear (h : Clear (pacingChecks i))
    (hk : (isExit i.action || isLpExit i.action || isLpApprove i.action) = false) : Paced i := by
  unfold pacingChecks at h
  simp only [clear_cons, ite_clear] at h
  have hg := h.2.1 hk
  intro t ht
  rw [ht] at hg
  simpa [elapsedCheck] using hg

/-- An allowed action that is no exit and moves no liquidity spends within the limit of one trade. -/
theorem Run.AllClear.spendsWithinTrade {r : Run host i} (h : r.AllClear) (hv : i.action.Valid)
    (hk : (isExit i.action || isLp i.action || isLpApprove i.action) = false) : SpendsWithinTrade i := by
  obtain ⟨maxTrade, hm, hc⟩ := sizeChecks_clear r.size_ok
  obtain ⟨hIn, -, -, -⟩ := deriveAmounts_ok.1 r.amounts_ok
  obtain ⟨v, hv', hle⟩ := within_iff.1 (hc.1 h.size hk)
  obtain ⟨p, hp⟩ := Option.isSome_iff_exists.1 h.fresh.priceIn.2
  rw [r.amountInUsd_eq (by have := hv.wellFormed.tokenIn; omega) hIn, hp] at hv'
  obtain rfl := Option.some.inj hv'
  exact ⟨_, hIn, p, maxTrade, hp, hm, hle⟩

/-- **The approval of a swap**: an entry's is never refused for anything but its own fee and spender; an exit's exactly when
its value fits one trade, the interval has passed and the day has room for the approval's fee. -/
theorem swap_approval_iff {b : ProposedAction} {input : ApprovalInput} (hpol : i.policy.Valid) (hi : Allows host i)
    (hk : i.action.kind = .swap) (hm : i.action.mode = .LIVE) (hn : input.now = i.now)
    (hb : Approval.swapApproval host i.action input = .ok (some b)) :
    OnlyOwnChecks host (approvalInput i b none) (!i.action.reduceOnly) ↔
      (i.action.reduceOnly = true → SpendsWithinTrade i ∧ Paced i ∧ WithinDay i input.feeEstimate.detail) := by
  obtain ⟨h0, r, hr⟩ := allows_iff.1 hi
  unfold Approval.swapApproval at hb
  simp only [bind_ok, pure_ok] at hb
  obtain ⟨amount, hamt, hb⟩ := hb
  have hof := approvalOf_candidate hb hm hn (.inl (Eq.refl none))
  obtain ⟨rfl, hv⟩ := accepted_some hb
  have hflags : isApprove i.action = false ∧ isLp i.action = false ∧ isLpExit i.action = false ∧
      isLpClaim i.action = false ∧ isLpApprove i.action = false ∧ isExit i.action = i.action.reduceOnly := by
    simp [isApprove, isLp, isLpKind, isLpExit, isLpClaim, isLpApprove, isExit, hk]
  obtain ⟨hApp, hLp, hLpExit, hClaim, hLpApp, hExit⟩ := hflags
  have hd := decimalsMismatch_eq_none.1 h0.decimals i.action.tokenIn List.mem_cons_self
  have hallow := hr.allowlist
  unfold allowlistChecks tokenInViaPool at hallow
  simp only [clear_cons, refuses_mkCheck, hLpApp, Bool.false_and, Bool.or_false, Bool.not_eq_false'] at hallow
  rw [hof.onlyOwnChecks_iff hpol hi _ ((decimalsMismatch_same rfl).2 hd) clear_nil (.inl hallow.1)
    (amountIn_toString hv rfl), priceIn_approvalInput, hof.withinTrade_iff, hof.paced_iff, hof.withinDay_iff]
  constructor
  · rintro ⟨-, hnot, hl⟩ hred
    obtain ⟨hs, hp⟩ := hnot rfl
    exact ⟨⟨amount, hamt, hs⟩, hp, hl (by rw [hred]; rfl)⟩
  · intro hcond
    have hroom : SpendsWithinTrade i ∧ Paced i := by
      cases hred : i.action.reduceOnly with
      | true => exact ⟨(hcond hred).1, (hcond hred).2.1⟩
      | false =>
        rw [hred] at hExit
        exact ⟨hr.spendsWithinTrade h0.action (by simp [hExit, hLp, hLpApp]),
          paced_of_clear hr.pacing (by simp [hExit, hLpExit, hLpApp])⟩
    obtain ⟨⟨amount', hamt', hs⟩, hp⟩ := hroom
    obtain rfl := Except.ok.inj (hamt'.symm.trans hamt)
    refine ⟨⟨?_, ?_⟩, fun _ => ⟨hs, hp⟩, fun hentry => (hcond (by simpa using hentry)).2.2⟩
    · rw [priceIn_approvalInput]
      exact hr.fresh.priceIn
    · rw [balanceIn_approvalInput]
      exact hr.fresh.balanceIn hLpExit hClaim

/-- The second asset of an allowed entry is held on fresh data. -/
theorem Run.AllClear.fresh_balanceOut {r : Run host i} (h : r.AllClear) (hv : i.action.Valid)
    (hk : i.action.kind = .lp_add ∨ i.action.kind = .lp_rebalance) :
    Fresh (balanceOut i) i.now i.policy.freshness.balanceMaxAgeMs i.policy.freshness.maxClockSkewMs := by
  have hkind : isLpKind i.action.kind = true := by rcases hk with hk | hk <;> simp [isLpKind, hk]
  have he : isLpEntry i.action = true := by rcases hk with hk | hk <;> simp [isLpEntry, hk]
  obtain ⟨lp, hlp⟩ := ProposedAction.Valid.lp_isSome hv hkind
  obtain ⟨-, -, l, -, -, hl⟩ := h.lp_shared hkind hlp
  obtain ⟨text, hText⟩ := lpLegRules_amountB (hv.wellFormed.lp lp hlp).2 hk
  obtain ⟨_, _, _, _, hTokB⟩ := lpTokenBChecks_clear l.tokenB_ok he hText
  simp only [LpRun.checks, clear_append] at hl
  exact (hTokB.1 hl.2).1

/-- **The approval of an asset of an add** is refused for more than its own fee and spender exactly when the value of that
leg exceeds the limit of one trade. -/
theorem add_leg_approval_iff {b : ProposedAction} {input : ApprovalInput} {recorded : LpRecordedAction} {leg : ApprovalLeg}
    (hpol : i.policy.Valid) (hi : Allows host i) (hk : i.action.kind = .lp_add) (hm : i.action.mode = .LIVE)
    (hn : input.now = i.now) (hleg : leg.token = i.action.tokenIn ∨ leg.token = i.action.tokenOut)
    (hlp : leg.isLpToken = false) (hb : Approval.legApproval host i.action recorded input leg = some b) :
    OnlyOwnChecks host (approvalInput i b i.snapshot.lp) true ↔ WithinTrade i leg.amount leg.token.decimals
      (i.snapshot.prices (priceKey i.action.chain leg.token.address)) := by
  obtain ⟨h0, r, hr⟩ := allows_iff.1 hi
  unfold Approval.legApproval at hb
  rw [hlp] at hb
  have hof := approvalOf_candidate hb hm hn (.inr (Eq.refl i.snapshot.lp))
  obtain ⟨rfl, hv⟩ := accepted_some hb
  obtain ⟨hLp, hApp, hExit, hLpApp, hNot⟩ := lp_flags (i := i) (by simp [isLpKind, hk])
  obtain ⟨hLpExit, hClaim⟩ := hNot (by simp [isLpEntry, hk])
  have hallow := hr.allowlist
  unfold allowlistChecks tokenInViaPool at hallow
  simp only [clear_cons, refuses_mkCheck, hLpApp, hApp, Bool.false_and, Bool.or_false, Bool.not_eq_false',
    Bool.false_eq_true, if_false] at hallow
  have hd := decimalsMismatch_eq_none.1 h0.decimals
  have hfacts : (∀ entry, (i.policy.tokens i.action.chain).find? (·.address == leg.token.address) = some entry →
        entry.decimals = leg.token.decimals) ∧
      ((i.policy.tokens i.action.chain).map (·.address)).contains leg.token.address = true ∧
      (Fresh (i.snapshot.prices (priceKey i.action.chain leg.token.address)) i.now i.policy.freshness.priceMaxAgeMs
        i.policy.freshness.maxClockSkewMs ∧
        (usablePrice (i.snapshot.prices (priceKey i.action.chain leg.token.address))).isSome) ∧
      Fresh (i.snapshot.balances (balanceKey i.action.chain leg.token.address)) i.now i.policy.freshness.balanceMaxAgeMs
        i.policy.freshness.maxClockSkewMs := by
    rcases hleg with hleg | hleg
    · rw [hleg]
      exact ⟨hd _ List.mem_cons_self, hallow.1, hr.fresh.priceIn, hr.fresh.balanceIn hLpExit hClaim⟩
    · rw [hleg]
      exact ⟨hd _ (List.mem_cons_of_mem _ List.mem_cons_self), hallow.2.1, hr.fresh.priceOut hApp,
        hr.fresh_balanceOut h0.action (.inl hk)⟩
  obtain ⟨hdec, htok, hprice, hbal⟩ := hfacts
  rw [hof.onlyOwnChecks_iff hpol hi _ ((decimalsMismatch_same rfl).2 hdec) clear_nil (.inl htok)
    (amountIn_toString hv rfl), priceIn_approvalInput, hof.withinTrade_iff, hof.paced_iff]
  constructor
  · rintro ⟨-, hnot, -⟩
    exact (hnot rfl).1
  · intro hw
    refine ⟨⟨?_, ?_⟩, fun _ => ⟨hw, paced_of_clear hr.pacing (by simp [hExit, hLpExit, hLpApp])⟩, fun he => by cases he⟩
    · rw [priceIn_approvalInput]
      exact hprice
    · rw [balanceIn_approvalInput]
      exact hbal

/-- What the approval of the LP token of a removal needs beside its own fee and spender: the token's decimals, where the
operator lists it, its price and its balance on fresh data, and room in the day for the approval's fee. -/
structure LpTokenApprovable (i : RiskInput) (token : TokenRef) (detail : FeeDetail) : Prop where
  decimals : ∀ entry, (i.policy.tokens i.action.chain).find? (·.address == token.address) = some entry →
    entry.decimals = token.decimals
  price : Fresh (i.snapshot.prices (priceKey i.action.chain token.address)) i.now i.policy.freshness.priceMaxAgeMs
      i.policy.freshness.maxClockSkewMs ∧
    (usablePrice (i.snapshot.prices (priceKey i.action.chain token.address))).isSome
  balance : Fresh (i.snapshot.balances (balanceKey i.action.chain token.address)) i.now
    i.policy.freshness.balanceMaxAgeMs i.policy.freshness.maxClockSkewMs
  day : WithinDay i detail

/-- An approval refused for its decimals is refused for more than its own fee and spender. -/
theorem decimals_of_onlyOwnChecks {entry : Bool} (hv : j.action.Valid) (h : OnlyOwnChecks host j entry) :
    decimalsMismatch j.action (j.policy.tokens j.action.chain) = none := by
  obtain ⟨d, hd, ho⟩ := h
  have hmem : ∃ rest, d.checks = tier0Checks host j ++ rest := by
    unfold evaluate at hd
    split at hd
    · obtain rfl := pure_ok.1 hd
      exact ⟨_, rfl⟩
    · simp only [bind_ok, pure_ok] at hd
      obtain ⟨out, -, rfl⟩ := hd
      exact ⟨_, rfl⟩
  obtain ⟨rest, hrest⟩ := hmem
  rw [hrest, onlyBy_append] at ho
  have htier := ho.1
  unfold tier0Checks schemaChecks at htier
  simp only [if_pos hv, List.cons_append, onlyBy_cons] at htier
  have hn : "schema.decimals" ∉ ownChecks entry := by cases entry <;> decide
  have hc := (tolerated_iff signature_mkCheck hn).1 htier.2.2.1
  simpa using hc

/-- **The approval of the LP token of a removal** is never refused for more than its own fee and spender exactly when the
token is approvable. -/
theorem lp_token_approval_iff {b : ProposedAction} {input : ApprovalInput} {recorded : LpRecordedAction} {leg : ApprovalLeg}
    {lp : LpLeg} (hpol : i.policy.Valid) (hi : Allows host i) (hk : i.action.kind = .lp_remove)
    (hm : i.action.mode = .LIVE) (hn : input.now = i.now) (hlp : i.action.lp = some lp) (hleg : leg.isLpToken = true)
    (hb : Approval.legApproval host i.action recorded input leg = some b) :
    OnlyOwnChecks host (approvalInput i b i.snapshot.lp) false ↔
      LpTokenApprovable i leg.token input.feeEstimate.detail := by
  obtain ⟨h0, r, hr⟩ := allows_iff.1 hi
  unfold Approval.legApproval at hb
  rw [hleg, if_pos rfl, hlp, Option.map_some] at hb
  have hof := approvalOf_candidate hb hm hn (.inr (Eq.refl i.snapshot.lp))
  obtain ⟨hbeq, hv⟩ := accepted_some hb
  obtain ⟨hLp, -, -, -, -⟩ := lp_flags (i := i) (by simp [isLpKind, hk])
  have hpool := (poolChecks_clear hlp (by simp [hLp])).1 hr.pool
  have hpoolJ : Clear (poolChecks host (approvalInput i b i.snapshot.lp)) := by
    have hlpJ : (approvalInput i b i.snapshot.lp).action.lp = some (Approval.approvalLp lp) := by
      rw [hbeq]
      rfl
    have hk : (isLp (approvalInput i b i.snapshot.lp).action || isLpApprove (approvalInput i b i.snapshot.lp).action) =
        true := by
      rw [hbeq]
      rfl
    rw [poolChecks_clear hlpJ hk, hof.policy, hof.chain, hof.protocol]
    exact hpool
  subst hbeq
  constructor
  · intro ho
    have hdec := decimals_of_onlyOwnChecks hof.valid ho
    rw [hof.onlyOwnChecks_iff hpol hi _ hdec hpoolJ (.inr rfl) (amountIn_toString hv rfl)] at ho
    obtain ⟨hf, -, hl⟩ := ho
    refine ⟨(decimalsMismatch_same rfl).1 hdec, ?_, ?_, hof.withinDay_iff.1 (hl rfl)⟩
    · have hp := hf.priceIn
      rw [priceIn_approvalInput] at hp
      exact hp
    · have hb := hf.balanceIn
      rw [balanceIn_approvalInput] at hb
      exact hb
  · intro h
    rw [hof.onlyOwnChecks_iff hpol hi _ ((decimalsMismatch_same rfl).2 h.decimals) hpoolJ (.inr rfl)
      (amountIn_toString hv rfl)]
    refine ⟨⟨?_, ?_⟩, fun hno => ?_, fun _ => hof.withinDay_iff.2 h.day⟩
    · rw [priceIn_approvalInput]
      exact h.price
    · rw [balanceIn_approvalInput]
      exact h.balance
    · cases hno

/-! ### Built actions and their approvals -/

theorem built_swap {R : Type} {db : Db} {env : ProposalAnswers R} {request : ProposalRequest} {p : BuiltProposal R}
    (h : (ProposalBuilder.build host db env request).run = .ok (.ok p)) :
    p.action.kind = .swap ∧ p.action.mode = request.mode := by
  obtain ⟨tokenIn, tokenOut, prices, amountIn, quote, rfl, -⟩ := ProposalBuilder.build_ok h
  exact ⟨rfl, rfl⟩

theorem add_legs {R : Type} {db : Db} {env : LpProposalAnswers R} {request : LpProposalRequest} {p : BuiltLpProposal R}
    {quote : LpAddQuote R} {legs : List ApprovalLeg} {leg : ApprovalLeg}
    (h : (LpProposalBuilder.build host db env request).run = .ok (.ok p)) (hplan : p.plan = .add quote)
    (hlegs : Approval.approvalLegs p.plan request.pool = .ok legs) (hl : leg ∈ legs) :
    p.action.kind = .lp_add ∧ p.action.mode = request.mode ∧ leg.isLpToken = false ∧
      (leg.token = p.action.tokenIn ∨ leg.token = p.action.tokenOut) := by
  obtain ⟨-, -, rebalances, committed, -, ha⟩ := LpProposalBuilder.build_add h hplan
  rw [ha]
  rw [hplan] at hlegs
  simp only [Approval.approvalLegs, bind_ok, pure_ok] at hlegs
  obtain ⟨amount0, -, amount1, -, rfl⟩ := hlegs
  rcases List.mem_cons.1 hl with rfl | hl
  · exact ⟨rfl, rfl, rfl, .inl rfl⟩
  · obtain rfl := List.mem_singleton.1 hl
    exact ⟨rfl, rfl, rfl, .inr rfl⟩

theorem remove_legs {R : Type} {db : Db} {env : LpProposalAnswers R} {request : LpProposalRequest} {p : BuiltLpProposal R}
    {quote : LpRemoveQuote R} {closes : Bool} {legs : List ApprovalLeg} {leg : ApprovalLeg}
    (h : (LpProposalBuilder.build host db env request).run = .ok (.ok p)) (hplan : p.plan = .remove quote closes)
    (hlegs : Approval.approvalLegs p.plan request.pool = .ok legs) (hl : leg ∈ legs) :
    p.action.kind = .lp_remove ∧ p.action.mode = request.mode ∧ leg.isLpToken = true ∧ ∃ lp, p.action.lp = some lp := by
  obtain ⟨-, rebalances, capital, -, -, ha⟩ := LpProposalBuilder.build_remove h hplan
  rw [ha]
  rw [hplan] at hlegs
  simp only [Approval.approvalLegs, bind_ok, pure_ok] at hlegs
  obtain ⟨amount, -, rfl⟩ := hlegs
  obtain rfl := List.mem_singleton.1 hl
  exact ⟨rfl, rfl, rfl, _, rfl⟩

/-- **When an approval is no trap.**  For an action a builder made in LIVE and the engine allows, the approval ahead of it is
refused, if at all, only for its own fee and spender

* ahead of an entry swap: always;
* ahead of an exit swap: exactly when its value fits one trade, the interval has passed and the day has room for its fee;
* for an asset of an add: exactly when the value of that leg fits one trade;
* for the LP token of a removal: exactly when the token is approvable. -/
theorem approval_only_own_iff {R : Type} {db : Db} {b : ProposedAction} {input : ApprovalInput} (hpol : i.policy.Valid)
    (hi : Allows host i) (hn : input.now = i.now) :
    (∀ (env : ProposalAnswers R) (request : ProposalRequest) (p : BuiltProposal R),
        (ProposalBuilder.build host db env request).run = .ok (.ok p) → request.mode = .LIVE → i.action = p.action →
        i.snapshot = p.snapshot → Approval.swapApproval host p.action input = .ok (some b) →
      (OnlyOwnChecks host (approvalInput i b none) (!p.action.reduceOnly) ↔
        (p.action.reduceOnly = true → SpendsWithinTrade i ∧ Paced i ∧ WithinDay i input.feeEstimate.detail))) ∧
    (∀ (env : LpProposalAnswers R) (request : LpProposalRequest) (p : BuiltLpProposal R) (quote : LpAddQuote R)
        (legs : List ApprovalLeg) (leg : ApprovalLeg), (LpProposalBuilder.build host db env request).run = .ok (.ok p) →
        request.mode = .LIVE → p.plan = .add quote → i.action = p.action → i.snapshot = p.snapshot →
        Approval.approvalLegs p.plan request.pool = .ok legs → leg ∈ legs →
        Approval.legApproval host p.action p.recorded input leg = some b →
      (OnlyOwnChecks host (approvalInput i b i.snapshot.lp) true ↔ WithinTrade i leg.amount leg.token.decimals
        (i.snapshot.prices (priceKey i.action.chain leg.token.address)))) ∧
    (∀ (env : LpProposalAnswers R) (request : LpProposalRequest) (p : BuiltLpProposal R) (quote : LpRemoveQuote R)
        (closes : Bool) (legs : List ApprovalLeg) (leg : ApprovalLeg),
        (LpProposalBuilder.build host db env request).run = .ok (.ok p) → request.mode = .LIVE →
        p.plan = .remove quote closes → i.action = p.action → i.snapshot = p.snapshot →
        Approval.approvalLegs p.plan request.pool = .ok legs → leg ∈ legs →
        Approval.legApproval host p.action p.recorded input leg = some b →
      (OnlyOwnChecks host (approvalInput i b i.snapshot.lp) false ↔
        LpTokenApprovable i leg.token input.feeEstimate.detail)) := by
  refine ⟨?_, ?_, ?_⟩
  · intro env request p hp hlive ha _ hb
    obtain ⟨hk, hm⟩ := built_swap hp
    rw [← ha] at hk hm hb ⊢
    exact swap_approval_iff hpol hi hk (hm.trans hlive) hn hb
  · intro env request p quote legs leg hp hlive hplan ha _ hlegs hl hb
    obtain ⟨hk, hm, hlp, htok⟩ := add_legs hp hplan hlegs hl
    rw [← ha] at hk hm htok hb
    exact add_leg_approval_iff hpol hi hk (hm.trans hlive) hn htok hlp hb
  · intro env request p quote closes legs leg hp hlive hplan ha _ hlegs hl hb
    obtain ⟨hk, hm, hlp, lp, hleg⟩ := remove_legs hp hplan hlegs hl
    rw [← ha] at hk hm hleg hb
    exact lp_token_approval_iff hpol hi hk (hm.trans hlive) hn hleg hlp hb

/-! ### Exits the approval traps -/

/-- A host whose digests are the real ones on the texts of two intents, for ASCII addresses. -/
def hostKnowingBoth (text digest text' digest' : String) : Host where
  sha256 s := if s = text then digest else if s = text' then digest' else ""
  toLowerCase := asciiLower

/-- A LIVE account past its daily loss, whose WETH is worth more than one trade may be. -/
def losingState : RuntimeState :=
  { paperState with
    mode := .LIVE
    activation := ⟨.LIVE, some ⟨1699996400000, 1700003600000⟩⟩
    ledger :=
      { paperState.ledger with
        realizedPnlTodayUsd := "-60.000000"
        positions := [⟨.base, "0x4200000000000000000000000000000000000006", "15000000000000000", "24.000000",
          1690000000000⟩] } }

def losingInput (policy : RiskPolicy) (a : ProposedAction) (snapshot : MarketSnapshot) : RiskInput :=
  { inputOf policy a snapshot with state := losingState }

def closeHost : Host :=
  hostKnowingBoth ("atra-action-v1|6f1c1f0e-0000-4000-8000-00000000c9c1|base|swap|aerodrome-v2|" ++
      "0x4200000000000000000000000000000000000006|0x833589fcd6edb6e08f4c7c32d4f71b54bda02913|15000000000000000|true")
    "bff3d780221cb3ec12cc2001b82c66e6bb4050dcdf68422002b7f3892e700067"
    ("atra-action-v1|6f1c1f0e-0000-4000-8000-00000000c9c1|base|approve|aerodrome-v2|" ++
      "0x4200000000000000000000000000000000000006|0x4200000000000000000000000000000000000006|15000000000000000|false")
    "da66131d83b40542092deb83682e3269ef2dce6d3f668d3faa5fb0ee26b6f52b"

/-- A wallet with one native coin and some tokens. -/
def walletHolding (tokens : List (String × String)) : Result WalletReading :=
  .ok ⟨none, some 1700000000000, none, some "1000000000000000000", tokens⟩

/-- The whole position goes for 30 USDC. -/
def closeAnswers : ProposalAnswers V2RouteData :=
  let router : RouterAnswers :=
    { routerAnswers 0 with
      route := .ok [15000000000000000, 30000000], amounts := .ok [15000000000000000, 30000000]
      probe := .ok [15000000000000, 30000] }
  { openAnswers 0 with
    readBalances := fun _ => walletHolding [("0x4200000000000000000000000000000000000006", "15000000000000000")]
    quote := fun r => aerodromeRouter.quote (evmHostOf closeHost) router r }

def closeRequest : ProposalRequest :=
  { openRequest with
    mode := .LIVE, decision := ⟨.CLOSE, some "0x4200000000000000000000000000000000000006", "0", "momentum is gone"⟩ }

def holding : Db :=
  let row : PositionRow :=
    { mode := .LIVE, chain := .base, token := "0x4200000000000000000000000000000000000006", decimals := 18
      amount := 15000000000000000, costBasisUsd := 24000000, openedAt := 1690000000000, updatedAt := 1690000000000 }
  { Db.empty with positions := Db.empty.positions.put row }

def approvalAnswers (decisionCycleId gasPrice : String) : ApprovalInput :=
  { decisionCycleId, source := .llm, actionId := "6f1c1f0e-0000-4000-8000-00000000a005", now := 1700000001000
    feeEstimate := ⟨1700000001000, .evm "60000" gasPrice⟩ }

def approvalOfClose : ApprovalInput := approvalAnswers "6f1c1f0e-0000-4000-8000-00000000c9c1" "1000000"

theorem close_approval_refused :
    ∃ p, (ProposalBuilder.build closeHost holding closeAnswers closeRequest).run = .ok (.ok p) ∧
      p.action.reduceOnly = true ∧ Allows closeHost (losingInput closeRequest.policy p.action p.snapshot) ∧
      ∃ b, Approval.swapApproval closeHost p.action approvalOfClose = .ok b ∧ ∃ b', b = some b' ∧ ∃ d,
        evaluate closeHost (approvalInput (losingInput closeRequest.policy p.action p.snapshot) b' none) = .ok d ∧
        RefusedBy "size.amountInUsd" d.checks ∧ RefusedBy "loss.daily" d.checks := by
  decide +kernel

def removalHost : Host :=
  hostKnowingBoth ("atra-action-v1|6f1c1f0e-0000-4000-8000-00000000c9c3|bsc|lp_remove|pancakeswap-v2|" ++
      "0x55d398326f99059ff775485246999027b3197955|0xbb4cdb9cbd36b01bd1cbaebf2de08d9173bc095c|30025000000000000000|false")
    "fdc5c3304bd0547ac8f186d5dcc2efdc872bc31c926c7e207e1c69e3c16ef672"
    ("atra-action-v1|6f1c1f0e-0000-4000-8000-00000000c9c3|bsc|approve|pancakeswap-v2|" ++
      "0x16b9a82891338f9ba80e2d6970fdda79d1eb0dae|0x16b9a82891338f9ba80e2d6970fdda79d1eb0dae|1000000000000000000|false")
    "c2cf661b789f71d059a2a5a1d626842fcd03b30773d62a74eb48f35beffb5a8c"

def removalAnswers : LpProposalAnswers V2LpRoute :=
  { lpAnswers removalHost with
    readBalances := fun _ => walletHolding [("0x16b9a82891338f9ba80e2d6970fdda79d1eb0dae", "1000000000000000000"),
      ("0x55d398326f99059ff775485246999027b3197955", "0"), ("0xbb4cdb9cbd36b01bd1cbaebf2de08d9173bc095c", "0")] }

def removalRequest : LpProposalRequest :=
  { lpRequest .EXIT with mode := .LIVE, position := some ⟨"1000000000000000000", 1700000000000, "rpc"⟩ }

def approvalOfRemoval : ApprovalInput := approvalAnswers "6f1c1f0e-0000-4000-8000-00000000c9c3" "1000000000"

theorem removal_approval_refused :
    ∃ p, (LpProposalBuilder.build removalHost Db.empty removalAnswers removalRequest).run = .ok (.ok p) ∧
      isRemovePlan p.plan = true ∧ Allows removalHost (losingInput lpPolicy p.action p.snapshot) ∧
      ∃ legs, Approval.approvalLegs p.plan pancakePool = .ok legs ∧ ∃ leg ∈ legs, ∃ b,
        Approval.legApproval removalHost p.action p.recorded approvalOfRemoval leg = some b ∧ ∃ d,
        evaluate removalHost (approvalInput (losingInput lpPolicy p.action p.snapshot) b p.snapshot.lp) = .ok d ∧
        RefusedBy "loss.daily" d.checks := by
  decide +kernel

theorem not_onlyOwnChecks {d : RiskDecision} {name : String} {entry : Bool} (hd : evaluate host j = .ok d)
    (hr : RefusedBy name d.checks) (hn : name ∉ ownChecks entry) : ¬ OnlyOwnChecks host j entry := by
  rintro ⟨d', hd', ho⟩
  obtain rfl := Except.ok.inj (hd'.symm.trans hd)
  obtain ⟨c, hc, rfl, hrefuses⟩ := hr
  exact hn (ho c hc hrefuses)

/-- **Two exits caught by their approvals**: past the daily loss the engine still allows a close of 30 USD and a removal, and
refuses the approval of either. -/
theorem approval_traps_exit :
    (∃ p b, (ProposalBuilder.build closeHost holding closeAnswers closeRequest).run = .ok (.ok p) ∧
      p.action.reduceOnly = true ∧ Allows closeHost (losingInput closeRequest.policy p.action p.snapshot) ∧
      Approval.swapApproval closeHost p.action approvalOfClose = .ok (some b) ∧
      ¬ OnlyOwnChecks closeHost (approvalInput (losingInput closeRequest.policy p.action p.snapshot) b none) false) ∧
    (∃ p legs leg b, (LpProposalBuilder.build removalHost Db.empty removalAnswers removalRequest).run = .ok (.ok p) ∧
      Allows removalHost (losingInput lpPolicy p.action p.snapshot) ∧
      Approval.approvalLegs p.plan removalRequest.pool = .ok legs ∧ leg ∈ legs ∧
      Approval.legApproval removalHost p.action p.recorded approvalOfRemoval leg = some b ∧
      ¬ OnlyOwnChecks removalHost (approvalInput (losingInput lpPolicy p.action p.snapshot) b p.snapshot.lp) false) := by
  constructor
  · obtain ⟨p, hp, hexit, hallow, _, hb, b, rfl, d, hd, hr, -⟩ := close_approval_refused
    exact ⟨p, b, hp, hexit, hallow, hb, not_onlyOwnChecks hd hr (by decide)⟩
  · obtain ⟨p, hp, -, hallow, legs, hlegs, leg, hleg, b, hb, d, hd, hr⟩ := removal_approval_refused
    exact ⟨p, legs, leg, b, hp, hallow, hlegs, hleg, hb, not_onlyOwnChecks hd hr (by decide)⟩

theorem lpPolicy_valid : lpPolicy.Valid := by decide +kernel

theorem approval_of_exit_judged :
    (∃ p b, (ProposalBuilder.build closeHost holding closeAnswers closeRequest).run = .ok (.ok p) ∧
      Approval.swapApproval closeHost p.action approvalOfClose = .ok (some b) ∧
      (OnlyOwnChecks closeHost (approvalInput (losingInput closeRequest.policy p.action p.snapshot) b none)
          (!p.action.reduceOnly) ↔ (p.action.reduceOnly = true →
        SpendsWithinTrade (losingInput closeRequest.policy p.action p.snapshot) ∧
        Paced (losingInput closeRequest.policy p.action p.snapshot) ∧
        WithinDay (losingInput closeRequest.policy p.action p.snapshot) (.evm "60000" "1000000")))) ∧
    (∃ p leg b, (LpProposalBuilder.build removalHost Db.empty removalAnswers removalRequest).run = .ok (.ok p) ∧
      Approval.legApproval removalHost p.action p.recorded approvalOfRemoval leg = some b ∧
      (OnlyOwnChecks removalHost (approvalInput (losingInput lpPolicy p.action p.snapshot) b p.snapshot.lp) false ↔
        LpTokenApprovable (losingInput lpPolicy p.action p.snapshot) leg.token (.evm "60000" "1000000000"))) := by
  constructor
  · obtain ⟨p, hp, -, hallow, _, hb, b, rfl, -⟩ := close_approval_refused
    have hpol : closeRequest.policy.Valid := defaultRiskPolicy_valid (by decide)
    obtain ⟨hswap, -⟩ := @approval_only_own_iff closeHost (losingInput closeRequest.policy p.action p.snapshot)
      V2RouteData holding b approvalOfClose hpol hallow rfl
    exact ⟨p, b, hp, hb, hswap closeAnswers closeRequest p hp rfl rfl rfl hb⟩
  · obtain ⟨p, hp, hplan, hallow, legs, hlegs, leg, hleg, b, hb, -⟩ := removal_approval_refused
    cases hpl : p.plan with
    | add quote => simp [isRemovePlan, hpl] at hplan
    | remove quote closes =>
      obtain ⟨-, -, hremoval⟩ := @approval_only_own_iff removalHost (losingInput lpPolicy p.action p.snapshot) V2LpRoute
        Db.empty b approvalOfRemoval lpPolicy_valid hallow rfl
      exact ⟨p, leg, b, hp, hb,
        hremoval removalAnswers removalRequest p quote closes legs leg hp rfl hpl rfl rfl hlegs hleg hb⟩
    | claim plan => simp [isRemovePlan, hpl] at hplan

end Engine
end Atra
