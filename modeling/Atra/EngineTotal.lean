import Atra.EngineChecks
import Atra.EngineSound
/-!
# EngineTotal — when the engine returns a decision

A price the engine cannot parse is one it does not know, and the check on its freshness refuses.  The other figures of the
ledger and the snapshot have no such guard: the group of checks that parses one throws, and the whole evaluation with it.
`readings` lists what each group parses; the evaluation returns exactly when tier 0 refuses or all of it is well formed.
-/
namespace Atra
namespace Engine

open Money

/-! ## What is parsed -/

def UsdRead (datum : Option Stamped) : Prop := ∀ s, datum = some s → isSignedUsd s.value = true

/-- A base-unit datum that is missing or parses. -/
def AmountRead (datum : Option Stamped) : Prop := ∀ s, datum = some s → isAmount s.value = true

/-- A price that is missing or parses. -/
def PriceRead (datum : Option Stamped) : Prop := ∀ s, datum = some s → Returns (priceToAtto s.value)

/-- The LP position of an action's pool, when there is one, satisfies `P`. -/
def HoldingRead (i : RiskInput) (P : LpHolding → Prop) : Prop :=
  ∀ lp, i.action.lp = some lp → ∀ held, lpHolding i lp = some held → P held

/-- The figures of the ledger and the snapshot that an evaluation parses, each under the check that reads it. -/
def readings (i : RiskInput) : List (String × Prop) :=
  [("lp.capital", isLpEntry i.action = true → HoldingRead i fun held => isSignedUsd held.capitalUsd = true),
    ("position.reduceOnly", isExit i.action = true → ∀ p ∈ i.state.ledger.positions,
      p.chain = i.action.chain ∧ p.token = i.action.tokenIn.address → isAmount p.amount = true),
    ("loss.daily", isSignedUsd i.state.ledger.realizedPnlTodayUsd = true ∧ (i.policy.includeUnrealized = true →
      isSignedUsd i.state.ledger.unrealizedPnlUsd = true ∧
        isSignedUsd i.state.ledger.unrealizedPnlAtDayStartUsd = true)),
    ("deployed.total", isSignedUsd i.state.ledger.deployedUsd = true ∧
      ∀ s, i.snapshot.lp = some s → isSignedUsd s.deployedUsd = true),
    ("liquidity.market", (swapQuote i.action).isSome = true → UsdRead (liquidityDatum i)),
    ("balance.tokenIn", (isApprove i.action || isLpExit i.action || isLpClaim i.action) = false → AmountRead (balanceIn i)),
    ("balance.gas", AmountRead (balanceNative i)),
    ("lp.position", (isLpExit i.action || isLpClaim i.action) = true →
      HoldingRead i fun held => isAmount held.lpTokens = true),
    ("lp.poolLiquidity", isLpEntry i.action = true → UsdRead (liquidityDatum i)),
    ("lp.balance.tokenB", isLpEntry i.action = true → AmountRead (balanceOut i))]

/-- Every figure the evaluation parses, other than a price, is well formed. -/
def Readable (i : RiskInput) : Prop := ∀ x ∈ readings i, x.2

/-- The prices an evaluation parses. -/
def priceReadings (i : RiskInput) : List (String × Prop) :=
  [("freshness.price.tokenIn", PriceRead (priceIn i)),
    ("freshness.price.tokenOut", isApprove i.action = false → PriceRead (priceOut i)),
    ("freshness.price.native", PriceRead (priceNative i))]

/-- A refusal, not an exception: the engine returns a decision, and past tier 0 every datum that does not parse makes the
check that reads it refuse. -/
def Judges (host : Host) (i : RiskInput) : Prop :=
  ∃ d, evaluate host i = .ok d ∧
    (Tier0 host i → ∀ x ∈ priceReadings i ++ readings i, ¬ x.2 → RefusedBy x.1 d.checks)

variable {host : Host} {i : RiskInput} {am : Amounts} {entry : Option Int}

/-! ## The parsers -/

theorem usdToMicros_returns {s : String} : Returns (usdToMicros s) ↔ isSignedUsd s = true := usdToMicros_isOk

theorem usdString_returns {s : String} (h : usdString s = true) : Returns (usdToMicros s) := by
  obtain ⟨m, hm, -⟩ := usdToMicros_of_usdString h
  exact ⟨m, hm⟩

theorem usdDatum_returns {datum : Option Stamped} : Returns (usdDatum datum) ↔ UsdRead datum := by
  cases datum with
  | none => exact ⟨fun _ _ h => by (cases h), fun _ => returns_pure _⟩
  | some s =>
    have h : Returns (usdDatum (some s)) ↔ isSignedUsd s.value = true :=
      returns_bind_iff usdToMicros_returns fun _ _ => returns_pure _
    rw [h, UsdRead]
    simp

theorem amountDatum_returns {datum : Option Stamped} : Returns (amountDatum datum) ↔ AmountRead datum := by
  cases datum with
  | none => exact ⟨fun _ _ h => by (cases h), fun _ => returns_pure _⟩
  | some s =>
    have h : Returns (amountDatum (some s)) ↔ isAmount s.value = true :=
      returns_bind_iff amountToBigint_returns fun _ _ => returns_pure _
    rw [h, AmountRead]
    simp

theorem bpsOf_returns {value : Int} {bps : Nat} (h : bps ≤ 10000) : Returns (bpsOf value bps) := ⟨_, bpsOf_eq h⟩

theorem nativeToUsdMicros_returns {amount p : Int} {decimals : Nat} {stamped : Option Stamped} (rounding : Direction)
    (hd : decimals ≤ 18) (hp : usablePrice stamped = some p) : Returns (nativeToUsdMicros amount decimals p rounding) := by
  obtain ⟨s, -, -, hpos⟩ := usablePrice_some hp
  cases rounding with
  | ceil => exact ⟨_, nativeToUsdMicros_ceil (by omega) hpos⟩
  | floor =>
    unfold nativeToUsdMicros floorDiv
    rw [if_neg (by omega), if_neg (by omega), usdUnit_eq, if_neg (by have := usdUnit_pos decimals; omega)]
    exact returns_pure _

/-- **The slippage of a valid quote** is always computed. -/
theorem quoteSlippage_returns (hw : i.action.WellFormed) {q : Quote} (hq : i.action.quote = some q) :
    Returns (quoteSlippage q) := by
  obtain ⟨he, hm, -, hpos, hle⟩ := hw.quote q hq
  unfold quoteSlippage
  rw [amountToBigint_ok.2 ⟨he, rfl⟩, amountToBigint_ok.2 ⟨hm, rfl⟩]
  simp only [bind, Except.bind]
  rw [if_pos (by simp; omega), impliedSlippageBps_eq (by omega) (by omega) (by omega)]
  exact returns_pure _

/-! ## One group at a time -/

theorem lpEntryCapital_returns (hw : i.action.WellFormed) : Returns (lpEntryCapital i) := by
  unfold lpEntryCapital
  cases hlp : i.action.lp with
  | none => exact returns_pure _
  | some lp =>
    cases hb : lp.amountB with
    | none =>
      simp only [hb]
      exact returns_pure _
    | some amountB =>
      simp only [hb]
      by_cases he : isLpEntry i.action = true
      · rw [if_pos he]
        have hB : isAmount amountB = true := by
          have h := (hw.lp lp hlp).1
          simp only [lpLegIssues, hb, optionIssues, amountIssue, List.append_eq_nil_iff, expect_eq_nil] at h
          exact h.1.1.1.1.2
        unfold lpCapitalMicros
        cases hpIn : usablePrice (priceIn i) with
        | none => exact returns_pure _
        | some pIn => cases hpOut : usablePrice (priceOut i) with
          | none => exact returns_pure _
          | some pOut =>
            refine Returns.bind (amountToBigint_returns.2 hw.amountIn) fun a _ => ?_
            refine Returns.bind (nativeToUsdMicros_returns .ceil hw.tokenIn hpIn) fun legA _ => ?_
            refine Returns.bind (amountToBigint_returns.2 hB) fun b _ => ?_
            exact Returns.bind (nativeToUsdMicros_returns .ceil hw.tokenOut hpOut) fun legB _ => returns_pure _
      · rw [if_neg he]
        exact returns_pure _

theorem capitalChecks_returns (hp : i.policy.Limits) : Returns (capitalChecks i entry) ↔
    (isLpEntry i.action = true → HoldingRead i fun held => isSignedUsd held.capitalUsd = true) := by
  unfold capitalChecks HoldingRead
  cases hlp : i.action.lp with
  | none => simp
  | some lp =>
    by_cases he : isLpEntry i.action = true
    · simp only [he, if_true, forall_true_left, Option.some.injEq, forall_eq']
      have hx : Returns (existingCapital i lp) ↔ ∀ held, lpHolding i lp = some held → isSignedUsd held.capitalUsd = true := by
        unfold existingCapital
        cases lpHolding i lp with
        | none => simp
        | some held => simp [usdToMicros_returns]
      refine returns_bind_iff hx fun existing _ => ?_
      exact Returns.bind (usdString_returns hp.maxCapitalPerLpUsd) fun _ _ => returns_pure _
    · simp [he]

/-- What the ledger holds of a token is summed when every amount of it parses. -/
theorem heldAmount_returns {chain : ChainId} {token : String} (ps : List Position) : Returns (heldAmount chain token ps) ↔
    ∀ p ∈ ps, p.chain = chain ∧ p.token = token → isAmount p.amount = true := by
  induction ps with
  | nil => simp [heldAmount]
  | cons p ps ih =>
    rw [heldAmount, List.forall_mem_cons]
    by_cases hk : p.chain = chain ∧ p.token = token
    · rw [if_pos hk, ← ih]
      simp only [hk, and_self, forall_true_left]
      exact returns_bind amountToBigint_returns fun a _ => returns_bind_iff Iff.rfl fun b _ => returns_pure _
    · rw [if_neg hk, ih]
      simp [hk]

theorem positionChecks_returns (hw : i.action.WellFormed) : Returns (positionChecks host i) ↔
    (isExit i.action = true → ∀ p ∈ i.state.ledger.positions,
      p.chain = i.action.chain ∧ p.token = i.action.tokenIn.address → isAmount p.amount = true) := by
  unfold positionChecks
  by_cases he : isExit i.action = true
  · rw [if_pos he]
    simp only [he, forall_true_left]
    refine returns_bind_iff (heldAmount_returns _) fun held _ => ?_
    exact Returns.bind (amountToBigint_returns.2 hw.amountIn) fun _ _ => returns_pure _
  · rw [if_neg he]
    simp [he]

theorem deriveAmounts_returns (hw : i.action.WellFormed) : Returns (deriveAmounts i) := by
  obtain ⟨a, ha⟩ := amountToBigint_returns.2 hw.amountIn
  obtain ⟨fee, hfee⟩ := feeInNativeUnits_isOk hw.fee
  have hdecimals : i.action.tokenIn.decimals ≤ 36 := by
    have := hw.tokenIn
    omega
  obtain ⟨v, hv⟩ : Returns (valueAt a i.action.tokenIn.decimals (usablePrice (priceIn i)) .ceil) :=
    valueAt_isOk _ hdecimals
  obtain ⟨f, hf⟩ : Returns (valueAt fee (nativeTokenRef i.action.chain).decimals (usablePrice (priceNative i)) .ceil) :=
    valueAt_isOk _ (nativeTokenRef_decimals_le i.action.chain)
  exact ⟨⟨a, v, fee, f⟩, deriveAmounts_ok.2 ⟨ha, hv, hfee, hf⟩⟩

theorem sizeChecks_returns (hp : i.policy.Limits) : Returns (sizeChecks i am) := by
  obtain ⟨m, hm⟩ := usdString_returns hp.maxAmountPerTradeUsd
  unfold sizeChecks
  rw [hm]
  by_cases hx : (isExit i.action || isLp i.action || isLpApprove i.action) = true
  · exact ⟨_, if_pos hx⟩
  · exact ⟨_, if_neg hx⟩

theorem worstCase_returns (hp : i.policy.Limits) : Returns (worstCase i am entry) := by
  have hr := hp.maxRebalanceSlippageBps
  have hs := hp.maxSlippageBps
  unfold worstCase
  by_cases hl : isLp i.action = true
  · rw [if_pos hl]
    by_cases he : isLpEntry i.action = true
    · rw [if_pos he]
      split
      · exact Returns.bind (bpsOf_returns (by omega)) fun _ _ => returns_pure _
      · exact returns_pure _
    · rw [if_neg he]
      exact returns_pure _
  · rw [if_neg hl]
    split
    · by_cases ha : isApprove i.action = true
      · rw [if_pos ha]
        exact returns_pure _
      · rw [if_neg ha]
        exact Returns.bind (bpsOf_returns (by omega)) fun _ _ => returns_pure _
    · exact returns_pure _

theorem computeDailyLoss_returns : Returns (computeDailyLoss i) ↔
    isSignedUsd i.state.ledger.realizedPnlTodayUsd = true ∧ (i.policy.includeUnrealized = true →
      isSignedUsd i.state.ledger.unrealizedPnlUsd = true ∧
        isSignedUsd i.state.ledger.unrealizedPnlAtDayStartUsd = true) := by
  unfold computeDailyLoss
  refine returns_bind usdToMicros_returns fun realized _ => ?_
  refine returns_bind_iff ?_ fun move _ => returns_pure _
  unfold unrealizedMove
  by_cases hinc : i.policy.includeUnrealized = true
  · rw [if_pos hinc]
    simp only [hinc, forall_true_left]
    exact returns_bind usdToMicros_returns fun u _ => returns_bind_iff usdToMicros_returns fun s _ => returns_pure _
  · rw [if_neg hinc]
    simp [hinc]

theorem lossChecks_returns (hp : i.policy.Limits) : Returns (lossChecks i am entry) ↔
    isSignedUsd i.state.ledger.realizedPnlTodayUsd = true ∧ (i.policy.includeUnrealized = true →
      isSignedUsd i.state.ledger.unrealizedPnlUsd = true ∧
        isSignedUsd i.state.ledger.unrealizedPnlAtDayStartUsd = true) := by
  unfold lossChecks
  refine returns_bind_iff computeDailyLoss_returns fun loss _ => ?_
  refine Returns.bind (worstCase_returns hp) fun worst _ => ?_
  refine Returns.bind (usdString_returns hp.maxDailyLossUsd) fun m _ => ?_
  by_cases hx : (isExit i.action || isLpExit i.action) = true
  · exact ⟨_, if_pos hx⟩
  · exact ⟨_, if_neg hx⟩

theorem deployedChecks_returns (hp : i.policy.Limits) : Returns (deployedChecks i am entry) ↔
    isSignedUsd i.state.ledger.deployedUsd = true ∧ ∀ s, i.snapshot.lp = some s → isSignedUsd s.deployedUsd = true := by
  unfold deployedChecks
  refine returns_bind usdToMicros_returns fun deployed _ => ?_
  refine returns_bind_iff ?_ fun l _ => ?_
  · unfold lpDeployed
    cases i.snapshot.lp with
    | none => simp
    | some s => simp [usdToMicros_returns]
  · refine Returns.bind (usdString_returns hp.maxTotalDeployedUsd) fun m _ => ?_
    by_cases hx : (isExit i.action || isApprove i.action || isLpExit i.action || isLpClaim i.action) = true
    · exact ⟨_, if_pos hx⟩
    · exact ⟨_, if_neg hx⟩

theorem swapQuote_some {a : ProposedAction} {q : Quote} (h : swapQuote a = some q) : a.quote = some q := by
  unfold swapQuote at h
  by_cases hk : (isApprove a || isLp a) = true
  · rw [if_pos hk] at h
    cases h
  · rwa [if_neg hk] at h

theorem qualityChecks_returns (hw : i.action.WellFormed) : Returns (qualityChecks i) := by
  unfold qualityChecks
  cases hq : swapQuote i.action with
  | none => exact returns_pure _
  | some q =>
    exact Returns.bind (quoteSlippage_returns hw (swapQuote_some hq)) fun _ _ => returns_pure _

theorem marketChecks_returns (hw : i.action.WellFormed) : Returns (marketChecks i am) := by
  unfold marketChecks
  cases hq : swapQuote i.action with
  | none => exact returns_pure _
  | some q =>
    have hvalue : Returns (quotedValue i q) := by
      unfold quotedValue
      cases hp : usablePrice (priceOut i) with
      | none => exact returns_pure _
      | some p =>
        refine Returns.bind (amountToBigint_returns.2 (hw.quote q (swapQuote_some hq)).1) fun a _ => ?_
        exact Returns.bind (nativeToUsdMicros_returns .floor hw.tokenOut hp) fun _ _ => returns_pure _
    have hfloor : Returns (marketFloor am.amountInUsd (min (i.policy.maxSlippageBps + i.policy.maxPriceImpactBps) 10000)) := by
      unfold marketFloor
      cases am.amountInUsd with
      | none => exact returns_pure _
      | some m => exact Returns.bind (bpsOf_returns (by omega)) fun _ _ => returns_pure _
    exact hvalue.bind fun _ _ => hfloor.bind fun _ _ => returns_pure _

theorem feeChecks_returns (hp : i.policy.Limits) : Returns (feeChecks i am) :=
  Returns.bind (usdString_returns hp.maxTransactionFeeUsd) fun _ _ => returns_pure _

theorem liquidityChecks_returns (hp : i.policy.Limits) : Returns (liquidityChecks i) ↔
    ((swapQuote i.action).isSome = true → UsdRead (liquidityDatum i)) := by
  unfold liquidityChecks
  refine returns_bind_of (usdString_returns hp.minLiquidityUsd) fun m _ => ?_
  cases swapQuote i.action with
  | none => simp
  | some q =>
    simp only [Option.isSome_some, forall_true_left]
    exact returns_bind_iff usdDatum_returns fun _ _ => returns_pure _

theorem balanceChecks_returns : Returns (balanceChecks host i am) ↔
    ((isApprove i.action || isLpExit i.action || isLpClaim i.action) = false → AmountRead (balanceIn i)) ∧
      AmountRead (balanceNative i) := by
  unfold balanceChecks
  refine returns_bind ?_ fun c _ => returns_bind_iff amountDatum_returns fun _ _ => returns_pure _
  unfold tokenInBalanceCheck
  cases hx : isApprove i.action || isLpExit i.action || isLpClaim i.action with
  | true => simp
  | false =>
    simp only [forall_true_left]
    exact returns_bind_iff amountDatum_returns fun _ _ => returns_pure _

/-! ## The liquidity groups -/

theorem lpPositionChecks_returns (hw : i.action.WellFormed) {lp : LpLeg} (hlp : i.action.lp = some lp) :
    Returns (lpPositionChecks i lp) ↔ ((isLpExit i.action || isLpClaim i.action) = true →
      HoldingRead i fun held => isAmount held.lpTokens = true) := by
  have hheld : Returns (heldLpTokens i lp) ↔ HoldingRead i fun held => isAmount held.lpTokens = true := by
    unfold heldLpTokens HoldingRead
    simp only [hlp, Option.some.injEq, forall_eq']
    cases lpHolding i lp with
    | none => simp
    | some held => simp [amountToBigint_returns]
  have hwanted : Returns (wantedLpTokens i lp) := by
    unfold wantedLpTokens
    by_cases he : isLpExit i.action = true
    · rw [if_pos he]
      have hfields := (hw.lp lp hlp).1
      simp only [lpLegIssues, List.append_eq_nil_iff] at hfields
      have htok := hfields.1.2
      cases ht : lp.lpTokens with
      | none => exact amountToBigint_returns.2 (by decide)
      | some tokens =>
        simp only [ht, optionIssues, amountIssue, expect_eq_nil] at htok
        exact amountToBigint_returns.2 htok
    · rw [if_neg he]
      exact returns_pure _
  unfold lpPositionChecks
  by_cases hx : (isLpExit i.action || isLpClaim i.action) = true
  · rw [if_pos hx]
    simp only [hx, forall_true_left]
    exact returns_bind_iff hheld fun held _ => hwanted.bind fun wanted _ => returns_pure _
  · rw [if_neg hx]
    simp [hx]

theorem lpPoolLiquidityChecks_returns (hp : i.policy.Limits) : Returns (lpPoolLiquidityChecks i) ↔
    (isLpEntry i.action = true → UsdRead (liquidityDatum i)) := by
  unfold lpPoolLiquidityChecks
  refine returns_bind_of (usdString_returns hp.minPoolLiquidityUsd) fun m _ => ?_
  by_cases he : isLpEntry i.action = true
  · rw [if_pos he]
    simp only [he, forall_true_left]
    exact returns_bind_iff usdDatum_returns fun _ _ => returns_pure _
  · rw [if_neg he]
    simp [he]

theorem lpSlippageChecks_returns (hw : i.action.WellFormed) : Returns (lpSlippageChecks i) := by
  unfold lpSlippageChecks
  by_cases hc : isLpClaim i.action = true
  · rw [if_pos hc]
    exact returns_pure _
  · rw [if_neg hc]
    cases hq : i.action.quote with
    | none => exact returns_pure _
    | some q => exact Returns.bind (quoteSlippage_returns hw hq) fun _ _ => returns_pure _

theorem lpClaimChecks_returns (hp : i.policy.Limits) (hw : i.action.WellFormed) {lp : LpLeg} (hlp : i.action.lp = some lp) :
    Returns (lpClaimChecks i lp) := by
  unfold lpClaimChecks
  by_cases hc : isLpClaim i.action = true
  · rw [if_pos hc]
    refine Returns.bind ?_ fun value _ => Returns.bind (usdString_returns hp.minFeeThresholdUsd) fun _ _ => returns_pure _
    unfold claimValue
    cases hcl : lp.claimable with
    | none => exact returns_pure _
    | some claimable => cases hpIn : usablePrice (priceIn i) with
      | none => exact returns_pure _
      | some pIn => cases hpOut : usablePrice (priceOut i) with
        | none => exact returns_pure _
        | some pOut =>
          have hfields := (hw.lp lp hlp).1
          simp only [lpLegIssues, hcl, optionIssues, claimableIssues, amountIssue, List.append_eq_nil_iff,
            expect_eq_nil] at hfields
          refine Returns.bind (amountToBigint_returns.2 hfields.2.1) fun a _ => ?_
          refine Returns.bind (nativeToUsdMicros_returns .floor hw.tokenIn hpIn) fun legA _ => ?_
          refine Returns.bind (amountToBigint_returns.2 hfields.2.2) fun b _ => ?_
          exact Returns.bind (nativeToUsdMicros_returns .floor hw.tokenOut hpOut) fun legB _ => returns_pure _
  · rw [if_neg hc]
    exact returns_pure _

/-- The schema gives an entry the amount of its second asset. -/
theorem amountB_of_entry (hv : i.action.Valid) {lp : LpLeg} (hlp : i.action.lp = some lp) (he : isLpEntry i.action = true) :
    ∃ amountB, lp.amountB = some amountB ∧ isAmount amountB = true := by
  obtain ⟨hfields, hrules⟩ := hv.wellFormed.lp lp hlp
  have hk : (i.action.kind == .lp_add || i.action.kind == .lp_rebalance) = true := he
  cases hb : lp.amountB with
  | none => simp [lpLegRules, hb, hk] at hrules
  | some amountB =>
    simp only [lpLegIssues, hb, optionIssues, amountIssue, List.append_eq_nil_iff, expect_eq_nil] at hfields
    exact ⟨amountB, rfl, hfields.1.1.1.1.2⟩

theorem lpTokenBChecks_returns (hv : i.action.Valid) {lp : LpLeg} (hlp : i.action.lp = some lp) :
    Returns (lpTokenBChecks i lp) ↔ (isLpEntry i.action = true → AmountRead (balanceOut i)) := by
  unfold lpTokenBChecks
  by_cases he : isLpEntry i.action = true
  · obtain ⟨amountB, hb, hB⟩ := amountB_of_entry hv hlp he
    rw [if_pos he, hb]
    simp only [he, forall_true_left]
    exact returns_bind_iff amountDatum_returns fun held _ =>
      Returns.bind (amountToBigint_returns.2 hB) fun needed _ => returns_pure _
  · rw [if_neg he]
    simp [he]

theorem runLpChecks_returns (hp : i.policy.Limits) (hv : i.action.Valid) : Returns (runLpChecks i am) ↔
    ((isLpExit i.action || isLpClaim i.action) = true → HoldingRead i fun held => isAmount held.lpTokens = true) ∧
      (isLpEntry i.action = true → UsdRead (liquidityDatum i)) ∧
      (isLpEntry i.action = true → AmountRead (balanceOut i)) := by
  unfold runLpChecks
  by_cases hl : isLp i.action = true
  · obtain ⟨lp, hlp⟩ := ProposedAction.Valid.lp_isSome hv hl
    rw [if_pos hl, hlp]
    refine returns_bind (lpPositionChecks_returns hv.wellFormed hlp) fun position _ => ?_
    refine returns_bind (lpPoolLiquidityChecks_returns hp) fun poolLiquidity _ => ?_
    refine returns_bind_of (lpSlippageChecks_returns hv.wellFormed) fun slippage _ => ?_
    refine returns_bind_of (usdString_returns hp.maxLpGasUsd |>.bind fun _ _ => returns_pure _) fun gas _ => ?_
    refine returns_bind_of (lpClaimChecks_returns hp hv.wellFormed hlp) fun claim _ => ?_
    exact returns_bind_iff (lpTokenBChecks_returns hv hlp) fun tokenB _ => returns_pure _
  · rw [if_neg hl]
    have hk : isLpKind i.action.kind = false := by simpa [isLp] using hl
    have hkinds : isLpEntry i.action = false ∧ isLpExit i.action = false ∧ isLpClaim i.action = false := by
      unfold isLpEntry isLpExit isLpClaim
      cases hkind : i.action.kind <;> simp [hkind, isLpKind] at hk ⊢
    simp [hkinds]

/-! ## The whole evaluation -/

/-- **The remaining checks return when every figure is readable**, and throw otherwise. -/
theorem runRemainingChecks_returns (hp : i.policy.Limits) (hv : i.action.Valid) :
    Returns (runRemainingChecks host i) ↔ Readable i := by
  have hw := hv.wellFormed
  unfold Readable readings
  simp only [List.forall_mem_cons, List.not_mem_nil, false_implies, implies_true, and_true]
  unfold runRemainingChecks
  refine returns_bind_of (lpEntryCapital_returns hw) fun entry _ => ?_
  refine returns_bind (capitalChecks_returns hp) fun capital _ => ?_
  refine returns_bind (positionChecks_returns hw) fun position _ => ?_
  refine returns_bind_of (deriveAmounts_returns hw) fun am _ => ?_
  refine returns_bind_of (sizeChecks_returns hp) fun size _ => ?_
  refine returns_bind (lossChecks_returns hp) fun loss _ => ?_
  refine returns_bind (deployedChecks_returns hp) fun deployed _ => ?_
  refine returns_bind_of (qualityChecks_returns hw) fun quality _ => ?_
  refine returns_bind_of (marketChecks_returns hw) fun market _ => ?_
  refine returns_bind_of (feeChecks_returns hp) fun fee _ => ?_
  refine returns_bind (liquidityChecks_returns hp) fun liquidity _ => ?_
  rw [← and_assoc]
  refine returns_bind balanceChecks_returns fun balances _ => ?_
  exact returns_bind_iff (runLpChecks_returns hp hv) fun lp _ => returns_pure _

/-- **The engine returns a decision exactly when** tier 0 refuses or every figure is readable. -/
theorem evaluate_returns (hp : i.policy.Limits) (hv : i.action.Valid) :
    Returns (evaluate host i) ↔ ¬ Tier0 host i ∨ Readable i := by
  unfold evaluate
  by_cases hf : checksFailed (tier0Checks host i) = true
  · rw [if_pos hf]
    have h0 : ¬ Tier0 host i := by
      intro h
      rw [checksFailed_eq_false.2 (tier0Checks_clear.2 h)] at hf
      cases hf
    simp [h0]
  · rw [if_neg hf]
    have h0 : Tier0 host i := tier0Checks_clear.1 (checksFailed_eq_false.1 (by simpa using hf))
    rw [returns_bind_iff (runRemainingChecks_returns hp hv) fun _ _ => returns_pure _]
    simp [h0]

/-- **A price that does not parse is refused** by the check of its freshness. -/
theorem priceCheck_refuses {name : String} {stamped : Option Stamped} {now maxAgeMs skewMs : Int} (h : ¬ PriceRead stamped) :
    refuses (priceCheck name stamped now maxAgeMs skewMs) = true ∧
      (priceCheck name stamped now maxAgeMs skewMs).name = name := by
  have hn : usablePrice stamped = none := by
    cases hu : usablePrice stamped with
    | none => rfl
    | some p =>
      obtain ⟨s, rfl, hs, -⟩ := usablePrice_some hu
      refine absurd (fun s' h' => ?_) h
      obtain rfl := Option.some.inj h'
      exact ⟨p, hs⟩
  constructor
  · rw [← Bool.not_eq_false, priceCheck_clear, hn]
    simp
  · exact congrArg Prod.fst signature_priceCheck

theorem Run.refuses_price (r : Run host i) {x : String × Prop} (hx : x ∈ priceReadings i) (h : ¬ x.2) :
    RefusedBy x.1 r.checks := by
  have hprice (name : String) (stamped : Option Stamped) (hc : priceCheck name stamped i.now i.policy.freshness.priceMaxAgeMs
      i.policy.freshness.maxClockSkewMs ∈ freshnessChecks i) (hn : ¬ PriceRead stamped) : RefusedBy name r.checks := by
    obtain ⟨hr, hname⟩ := priceCheck_refuses hn
    refine ⟨_, ?_, hname, hr⟩
    unfold Run.checks
    simp only [List.mem_append]
    tauto
  simp only [priceReadings, List.mem_cons, List.not_mem_nil, or_false] at hx
  rcases hx with rfl | rfl | rfl
  · exact hprice _ _ (by simp [freshnessChecks]) h
  · obtain ⟨ha, h⟩ := not_forall.1 h
    exact hprice _ _ (by simp [freshnessChecks, ha]) h
  · exact hprice _ _ (by simp [freshnessChecks]) h

/-- **A refusal is never an exception exactly when the figures parse.**  Under a valid policy, for a valid action, the engine
judges an input when tier 0 refuses it or every figure of the ledger and the snapshot that it parses is well formed. -/
theorem judges_iff (hp : i.policy.Valid) (hv : i.action.Valid) : Judges host i ↔ ¬ Tier0 host i ∨ Readable i := by
  rw [← evaluate_returns hp.limits hv]
  constructor
  · rintro ⟨d, hd, -⟩
    exact ⟨d, hd⟩
  · rintro ⟨d, hd⟩
    refine ⟨d, hd, fun h0 x hx hn => ?_⟩
    obtain ⟨r, rfl⟩ := evaluate_ok_of_tier0 h0 hd
    rw [refusedBy_finish h0]
    rcases List.mem_append.1 hx with hx | hx
    · exact r.refuses_price hx hn
    · exact absurd (((evaluate_returns hp.limits hv).1 ⟨_, hd⟩).resolve_left (fun h => h h0) x hx) hn

/-! ### A liquidity with seven decimals -/

/-- `/^\d+(\.\d+)?$/`. -/
def isDecimal (cs : List Char) : Bool :=
  let rest := cs.dropWhile Char.isDigit
  !(cs.takeWhile Char.isDigit).isEmpty && (rest.isEmpty || (rest.head? == some '.' && !rest.tail.isEmpty && rest.tail.all Char.isDigit))

/-- How the GeckoTerminal mapping passes on a decimal of a payload, `reserve_in_usd` among them. -/
def decimalOrNull (value : Option String) : Option String :=
  value.bind fun v => if isDecimal v.toList && v.toList.any (fun c => '1' ≤ c && c ≤ '9') then some v else none

theorem judges_paperSwap : Judges paperSwapHost paperSwapInput ↔ ¬ Tier0 paperSwapHost paperSwapInput ∨ Readable paperSwapInput :=
  judges_iff (defaultRiskPolicy_valid (by decide)) (by decide +kernel)

/-- The swap of `paperSwapInput` in a market whose liquidity GeckoTerminal reports to seven decimals. -/
def deepMarketInput (liquidity : String) : RiskInput :=
  { paperSwapInput with
    snapshot := { paperSnapshot with liquidity := recordOf [("base:usdc-weth", stamp liquidity)] } }

/-- **The evaluation is aborted by a liquidity the provider mapping passes on.** -/
theorem evaluate_aborts : decimalOrNull (some "1264531.7894561") = some "1264531.7894561" ∧
    (deepMarketInput "1264531.7894561").policy.Valid ∧ (deepMarketInput "1264531.7894561").action.Valid ∧
    ¬ Judges paperSwapHost (deepMarketInput "1264531.7894561") := by
  refine ⟨by decide +kernel, defaultRiskPolicy_valid (by decide), by decide +kernel, ?_⟩
  rintro ⟨d, hd, -⟩
  have ht : (evaluate paperSwapHost (deepMarketInput "1264531.7894561")).isOk = false := by decide +kernel
  rw [hd] at ht
  cases ht

end Engine
end Atra
