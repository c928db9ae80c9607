import Atra.Engine
/-!
# EngineSpec — what an allowed decision says about its input

A decision allows exactly when no recorded check refuses (`evaluate_allowed_iff`).  `Run` collects the outcome of every
group of checks of one evaluation; each group then has one lemma for what its not refusing means, in the terms of the
input alone, so that no later proof unfolds the engine.
-/
namespace Atra
namespace Engine

open Money

def Clear (checks : List RiskCheck) : Prop := ∀ c ∈ checks, refuses c = false

theorem checksFailed_eq_false {checks : List RiskCheck} : checksFailed checks = false ↔ Clear checks := by
  unfold checksFailed Clear
  rw [List.any_eq_false]
  simp

@[simp] theorem clear_nil : Clear [] := by simp [Clear]

@[simp] theorem clear_cons {c : RiskCheck} {cs : List RiskCheck} : Clear (c :: cs) ↔ refuses c = false ∧ Clear cs := by
  simp [Clear]

@[simp] theorem clear_append {xs ys : List RiskCheck} : Clear (xs ++ ys) ↔ Clear xs ∧ Clear ys := by
  simp only [Clear, List.mem_append]
  exact ⟨fun h => ⟨fun c hc => h c (.inl hc), fun c hc => h c (.inr hc)⟩, fun h c hc => hc.elim (h.1 c) (h.2 c)⟩

@[simp] theorem refuses_mkCheck (name : String) (code : RejectionCode) (passed : Bool) (observed limit : String)
    (detail : Option String) : refuses (mkCheck name code passed observed limit detail) = !passed := by
  simp [refuses, mkCheck]

@[simp] theorem refuses_skip (name : String) (code : RejectionCode) (reason : Skip) :
    refuses (skip name code reason) = false := by
  simp [refuses, skip]

@[simp] theorem refuses_notApplicable (name : String) (code : RejectionCode) :
    refuses (notApplicable name code) = false := refuses_skip name code _

theorem finish_allowed {input : RiskInput} {checks : List RiskCheck} {derived : Option RiskDerived} :
    (finish input checks derived).allowed = true ↔ Clear checks := by
  unfold finish Clear
  rw [Option.isNone_iff_eq_none, List.find?_eq_none]
  simp

/-! ## One evaluation, group by group -/

/-- The outcome of every group of checks after tier 0. -/
structure Run (host : Host) (i : RiskInput) where
  entryCapital : Option Int
  capital : List RiskCheck
  position : List RiskCheck
  amounts : Amounts
  size : List RiskCheck
  loss : List RiskCheck × Int
  deployed : List RiskCheck × Option Int
  quality : List RiskCheck × Int
  market : List RiskCheck
  fee : List RiskCheck
  liquidity : List RiskCheck
  balances : List RiskCheck
  lp : List RiskCheck
  entryCapital_ok : lpEntryCapital i = .ok entryCapital
  capital_ok : capitalChecks i entryCapital = .ok capital
  position_ok : positionChecks host i = .ok position
  amounts_ok : deriveAmounts i = .ok amounts
  size_ok : sizeChecks i amounts = .ok size
  loss_ok : lossChecks i amounts entryCapital = .ok loss
  deployed_ok : deployedChecks i amounts entryCapital = .ok deployed
  quality_ok : qualityChecks i = .ok quality
  market_ok : marketChecks i amounts = .ok market
  fee_ok : feeChecks i amounts = .ok fee
  liquidity_ok : liquidityChecks i = .ok liquidity
  balances_ok : balanceChecks host i amounts = .ok balances
  lp_ok : runLpChecks i amounts = .ok lp

variable {host : Host} {i : RiskInput}

def Run.checks (r : Run host i) : List RiskCheck :=
  chainChecks i ++ poolChecks host i ++ r.capital ++ freshnessChecks i ++ allowlistChecks host i ++ r.position ++
    r.size ++ r.loss.1 ++ r.deployed.1 ++ r.quality.1 ++ r.market ++ r.fee ++ r.liquidity ++ pacingChecks i ++
    r.balances ++ r.lp

def Run.derived (r : Run host i) : RiskDerived :=
  { amountInUsd := microsOr r.amounts.amountInUsd
    feeUsd := microsOr r.amounts.feeUsd
    impliedSlippageBps := r.quality.2
    dailyLossUsd := microsToUsd r.loss.2
    projectedDeployedUsd := microsOr r.deployed.2 }

/-- **The remaining checks return exactly the outcome of a run.** -/
theorem runRemainingChecks_ok {out : List RiskCheck × RiskDerived} :
    runRemainingChecks host i = .ok out ↔ ∃ r : Run host i, out = (r.checks, r.derived) := by
  unfold runRemainingChecks
  simp only [bind_ok, pure_ok]
  constructor
  · rintro ⟨entryCapital, h1, capital, h2, position, h3, amounts, h4, size, h5, loss, h6, deployed, h7, quality, h8,
      market, h9, fee, h10, liquidity, h11, balances, h12, lp, h13, rfl⟩
    exact ⟨⟨entryCapital, capital, position, amounts, size, loss, deployed, quality, market, fee, liquidity, balances, lp,
      h1, h2, h3, h4, h5, h6, h7, h8, h9, h10, h11, h12, h13⟩, rfl⟩
  · rintro ⟨r, rfl⟩
    exact ⟨_, r.entryCapital_ok, _, r.capital_ok, _, r.position_ok, _, r.amounts_ok, _, r.size_ok, _, r.loss_ok, _,
      r.deployed_ok, _, r.quality_ok, _, r.market_ok, _, r.fee_ok, _, r.liquidity_ok, _, r.balances_ok, _, r.lp_ok, rfl⟩

def Allows (host : Host) (i : RiskInput) : Prop := ∃ d, evaluate host i = .ok d ∧ d.allowed = true

def allows (host : Host) (i : RiskInput) : Bool :=
  match evaluate host i with
  | .ok d => d.allowed
  | .error _ => false

instance : Decidable (Allows host i) := decidable_of_iff (allows host i = true) <| by
  unfold allows Allows
  cases evaluate host i <;> simp

/-- **Allowed means that every check ran and none refused.** -/
theorem evaluate_allowed_iff : Allows host i ↔ Clear (tier0Checks host i) ∧ ∃ r : Run host i, Clear r.checks := by
  unfold Allows evaluate
  constructor
  · rintro ⟨d, hd, ha⟩
    split at hd
    · rename_i hf
      rw [pure_ok] at hd
      subst hd
      rw [finish_allowed, clear_append, ← checksFailed_eq_false, hf] at ha
      exact absurd ha.1 (by simp)
    · rename_i hf
      rw [bind_ok] at hd
      obtain ⟨out, hout, hd⟩ := hd
      obtain ⟨r, rfl⟩ := runRemainingChecks_ok.1 hout
      rw [pure_ok] at hd
      subst hd
      rw [finish_allowed, clear_append] at ha
      exact ⟨ha.1, r, ha.2⟩
  · rintro ⟨h0, r, hr⟩
    refine ⟨finish i (tier0Checks host i ++ r.checks) (some r.derived), ?_, ?_⟩
    · rw [if_neg (by rw [checksFailed_eq_false.2 h0]; simp), runRemainingChecks_ok.2 ⟨r, rfl⟩]
      rfl
    · exact finish_allowed.2 (clear_append.2 ⟨h0, hr⟩)

/-! ## Tier 0 -/

/-- What tier 0 asks of an input. -/
structure Tier0 (host : Host) (i : RiskInput) : Prop where
  policy : i.policy.schemaVersion = 1
  action : i.action.Valid
  decimals : decimalsMismatch i.action (i.policy.tokens i.action.chain) = none
  idempotency : i.action.idempotencyKey = deriveIdempotencyKey host i.action
  running : i.policy.emergencyStop = false ∧ i.state.emergencyStop.active = false
  unpaused : i.policy.globalPause = false ∧ i.state.globalPause = false
  mode : i.action.mode = i.state.mode
  live : i.action.mode = .PAPER ∨ i.state.activation.state = .LIVE ∧
    ∃ session, i.state.activation.liveSession = some session ∧ i.now < session.expiresAt

theorem schemaActionCheck_clear {a : ProposedAction} : refuses (schemaActionCheck a) = false ↔ a.Valid := by
  unfold schemaActionCheck ProposedAction.Valid
  split
  · rename_i h
    simp [h]
  · rename_i h
    simp [h]

theorem schemaChecks_clear (hv : i.action.Valid) : Clear (schemaChecks host i) ↔
    decimalsMismatch i.action (i.policy.tokens i.action.chain) = none ∧
      i.action.idempotencyKey = deriveIdempotencyKey host i.action := by
  unfold schemaChecks
  simp [hv]

theorem switchChecks_clear : Clear (switchChecks i) ↔
    (i.policy.emergencyStop = false ∧ i.state.emergencyStop.active = false) ∧
    (i.policy.globalPause = false ∧ i.state.globalPause = false) ∧ i.action.mode = i.state.mode ∧
    (i.action.mode = .PAPER ∨ i.state.activation.state = .LIVE ∧
      ∃ session, i.state.activation.liveSession = some session ∧ i.now < session.expiresAt) := by
  unfold switchChecks
  cases hs : i.state.activation.liveSession with
  | none => simp
  | some session => simp [or_iff_not_imp_left]

/-- **Tier 0 is clear exactly when its conditions hold.** -/
theorem tier0Checks_clear : Clear (tier0Checks host i) ↔ Tier0 host i := by
  unfold tier0Checks
  rw [clear_cons, clear_cons, clear_append, schemaActionCheck_clear, refuses_mkCheck]
  constructor
  · rintro ⟨hp, hv, hs, hw⟩
    rw [schemaChecks_clear hv] at hs
    rw [switchChecks_clear] at hw
    exact ⟨by simpa using hp, hv, hs.1, hs.2, hw.1, hw.2.1, hw.2.2.1, hw.2.2.2⟩
  · intro h
    exact ⟨by simp [h.policy], h.action, (schemaChecks_clear h.action).2 ⟨h.decimals, h.idempotency⟩,
      switchChecks_clear.2 ⟨h.running, h.unpaused, h.mode, h.live⟩⟩

theorem ProposedAction.Valid.lp_isSome (h : i.action.Valid) (hk : isLpKind i.action.kind = true) :
    ∃ lp, i.action.lp = some lp := by
  have hc := h.cross
  simp only [ProposedAction.crossIssues, List.append_eq_nil_iff, expect_eq_nil] at hc
  have hl := hc.1.1.1.1.1.1.2
  cases hlp : i.action.lp with
  | none => simp [hk, hlp] at hl
  | some lp => exact ⟨lp, rfl⟩

/-! ## Freshness -/

/-- A datum that is present, not from the future beyond the skew, and no older than its limit. -/
def Fresh (stamped : Option Stamped) (now maxAgeMs skewMs : Int) : Prop :=
  ∃ s, stamped = some s ∧ -skewMs ≤ now - s.stampedAt ∧ now - s.stampedAt ≤ maxAgeMs

theorem freshnessCheck_passed (name : String) {stamped : Option Stamped} {now maxAgeMs skewMs : Int} :
    (freshnessCheck name stamped now maxAgeMs skewMs).passed = true ↔ Fresh stamped now maxAgeMs skewMs := by
  unfold freshnessCheck Fresh
  cases stamped with
  | none => simp [mkCheck]
  | some s =>
    simp only [Option.some.injEq, exists_eq_left']
    split
    · simp [mkCheck]; omega
    · simp [mkCheck]; omega

theorem freshnessCheck_skipped {name : String} {stamped : Option Stamped} {now maxAgeMs skewMs : Int} :
    (freshnessCheck name stamped now maxAgeMs skewMs).skipped = none := by
  unfold freshnessCheck
  split
  · rfl
  · split <;> rfl

@[simp] theorem freshnessCheck_clear {name : String} {stamped : Option Stamped} {now maxAgeMs skewMs : Int} :
    refuses (freshnessCheck name stamped now maxAgeMs skewMs) = false ↔ Fresh stamped now maxAgeMs skewMs := by
  rw [← freshnessCheck_passed name, refuses, freshnessCheck_skipped]
  simp

@[simp] theorem priceCheck_clear {name : String} {stamped : Option Stamped} {now maxAgeMs skewMs : Int} :
    refuses (priceCheck name stamped now maxAgeMs skewMs) = false ↔
      Fresh stamped now maxAgeMs skewMs ∧ (usablePrice stamped).isSome := by
  unfold priceCheck
  by_cases hf : Fresh stamped now maxAgeMs skewMs
  · have hs : stamped.isSome = true := by
      obtain ⟨s, rfl, -⟩ := hf
      rfl
    have hp := (freshnessCheck_passed name).2 hf
    cases hu : usablePrice stamped <;> simp [hp, hs, hf]
  · have hp : (freshnessCheck name stamped now maxAgeMs skewMs).passed = false := by
      rw [← Bool.not_eq_true, freshnessCheck_passed]
      exact hf
    simp [hp, hf]

/-- **Every datum of an allowed input is fresh**, as far as its kind reads it. -/
structure AllFresh (i : RiskInput) : Prop where
  action : -i.policy.freshness.maxClockSkewMs ≤ i.now - i.action.proposedAt ∧
    i.now - i.action.proposedAt ≤ i.policy.freshness.actionMaxAgeMs
  ledger : i.state.ledger.dayStartUtcMs = dayStartOf i.now
  priceIn : Fresh (priceIn i) i.now i.policy.freshness.priceMaxAgeMs i.policy.freshness.maxClockSkewMs ∧
    (usablePrice (priceIn i)).isSome
  priceOut : isApprove i.action = false →
    Fresh (priceOut i) i.now i.policy.freshness.priceMaxAgeMs i.policy.freshness.maxClockSkewMs ∧
      (usablePrice (priceOut i)).isSome
  priceNative : Fresh (priceNative i) i.now i.policy.freshness.priceMaxAgeMs i.policy.freshness.maxClockSkewMs ∧
    (usablePrice (priceNative i)).isSome
  quote : ∀ q, i.action.quote = some q → isApprove i.action = false →
    -i.policy.freshness.maxClockSkewMs ≤ i.now - q.quotedAt ∧ i.now - q.quotedAt ≤ i.policy.freshness.quoteMaxAgeMs
  fee : -i.policy.freshness.maxClockSkewMs ≤ i.now - i.action.feeEstimate.estimatedAt ∧
    i.now - i.action.feeEstimate.estimatedAt ≤ i.policy.freshness.feeEstimateMaxAgeMs
  balanceIn : isLpExit i.action = false → isLpClaim i.action = false →
    Fresh (balanceIn i) i.now i.policy.freshness.balanceMaxAgeMs i.policy.freshness.maxClockSkewMs
  balanceNative : Fresh (balanceNative i) i.now i.policy.freshness.balanceMaxAgeMs i.policy.freshness.maxClockSkewMs
  liquidity : ∀ q, i.action.quote = some q → isApprove i.action = false → isLpExit i.action = false →
    Fresh (liquidityDatum i) i.now i.policy.freshness.liquidityMaxAgeMs i.policy.freshness.maxClockSkewMs

theorem fresh_some {s : Stamped} {now maxAgeMs skewMs : Int} :
    Fresh (some s) now maxAgeMs skewMs ↔ -skewMs ≤ now - s.stampedAt ∧ now - s.stampedAt ≤ maxAgeMs := by
  simp [Fresh]

theorem ite_clear {b : Bool} {name : String} {code : RejectionCode} {c : RiskCheck} :
    refuses (if b = true then notApplicable name code else c) = false ↔ (b = false → refuses c = false) := by
  cases b <;> simp

theorem freshnessChecks_clear : Clear (freshnessChecks i) ↔ AllFresh i := by
  have hledger : refuses (ledgerDayCheck i) = false ↔ i.state.ledger.dayStartUtcMs = dayStartOf i.now := by
    simp [ledgerDayCheck]
  unfold freshnessChecks
  simp only [clear_cons, clear_nil, and_true, freshnessCheck_clear, priceCheck_clear, ite_clear, fresh_some, hledger]
  constructor
  · rintro ⟨h1, h2, h3, h4, h5, h6, h7, h8, h9, h10⟩
    refine ⟨h1, h2, h3, h4, h5, ?_, h7, ?_, h9, ?_⟩
    · intro q hq ha
      simpa [hq, ha, fresh_some] using h6
    · intro he hc
      exact h8 (by simp [he, hc])
    · intro q hq ha he
      exact h10 (by simp [hq, ha, he])
  · intro h
    refine ⟨h.action, h.ledger, h.priceIn, h.priceOut, h.priceNative, ?_, h.fee, ?_, h.balanceNative, ?_⟩
    · cases hq : i.action.quote with
      | none => simp
      | some q =>
        simp only [ite_clear, freshnessCheck_clear, fresh_some]
        exact h.quote q hq
    · intro hec
      rw [Bool.or_eq_false_iff] at hec
      exact h.balanceIn hec.1 hec.2
    · intro hq
      simp only [Bool.or_eq_false_iff, Option.isNone_eq_false_iff] at hq
      obtain ⟨q, hq'⟩ := Option.isSome_iff_exists.1 hq.1.2
      exact h.liquidity q hq' hq.1.1 hq.2

/-! ## Values -/

theorem usablePrice_some {stamped : Option Stamped} {p : Int} (h : usablePrice stamped = some p) :
    ∃ s, stamped = some s ∧ priceToAtto s.value = .ok p ∧ 0 < p := by
  unfold usablePrice at h
  cases stamped with
  | none => cases h
  | some s =>
    refine ⟨s, rfl, ?_⟩
    cases hp : priceToAtto s.value with
    | error e => simp [hp] at h
    | ok atto =>
      simp only [hp] at h
      split at h
      · rename_i hpos
        obtain rfl := Option.some.inj h
        exact ⟨rfl, hpos⟩
      · cases h

@[simp] theorem within_iff {observed : Option Int} {max : Int} :
    within observed max = true ↔ ∃ m, observed = some m ∧ m ≤ max := by
  cases observed <;> simp [within]

@[simp] theorem atLeast_iff {observed : Option Int} {min : Int} :
    atLeast observed min = true ↔ ∃ m, observed = some m ∧ min ≤ m := by
  cases observed <;> simp [atLeast]

theorem deriveAmounts_ok {am : Amounts} : deriveAmounts i = .ok am ↔
    amountToBigint i.action.amountIn = .ok am.amountIn ∧
    valueAt am.amountIn i.action.tokenIn.decimals (usablePrice (priceIn i)) .ceil = .ok am.amountInUsd ∧
    feeInNativeUnits i.action.feeEstimate.detail = .ok am.feeNative ∧
    valueAt am.feeNative (nativeTokenRef i.action.chain).decimals (usablePrice (priceNative i)) .ceil = .ok am.feeUsd := by
  unfold deriveAmounts
  simp only [bind_ok, pure_ok]
  constructor
  · rintro ⟨x, h1, y, h2, z, h3, w, h4, rfl⟩
    exact ⟨h1, h2, h3, h4⟩
  · rintro ⟨h1, h2, h3, h4⟩
    exact ⟨_, h1, _, h2, _, h3, _, h4, rfl⟩

/-- **A valuation at a usable price** is the rounded-up quotient; without one there is no value. -/
theorem valueAt_ceil {amount : Int} {decimals : Nat} {stamped : Option Stamped} {v : Option Int} (hd : decimals ≤ 36)
    (h : valueAt amount decimals (usablePrice stamped) .ceil = .ok v) :
    v = (usablePrice stamped).map fun p => Rounding.up (amount * p) (usdUnit decimals) := by
  cases hp : usablePrice stamped with
  | none =>
    rw [hp] at h
    exact (pure_ok.1 h).symm
  | some p =>
    obtain ⟨s, -, -, hpos⟩ := usablePrice_some hp
    rw [hp, valueAt, nativeToUsdMicros_ceil hd hpos] at h
    exact (Except.ok.inj h).symm

theorem valueAt_isOk {amount : Int} {decimals : Nat} (stamped : Option Stamped) (hd : decimals ≤ 36) :
    ∃ v, valueAt amount decimals (usablePrice stamped) .ceil = .ok v := by
  cases hp : usablePrice stamped with
  | none => exact ⟨none, rfl⟩
  | some p =>
    obtain ⟨s, -, -, hpos⟩ := usablePrice_some hp
    exact ⟨_, by rw [valueAt, nativeToUsdMicros_ceil hd hpos]; rfl⟩

theorem nativeTokenRef_decimals_le (chain : ChainId) : (nativeTokenRef chain).decimals ≤ 36 := by
  cases chain <;> decide

theorem amountToBigint_returns {s : String} : Returns (amountToBigint s) ↔ isAmount s = true := by
  constructor
  · rintro ⟨a, h⟩
    exact (amountToBigint_ok.1 h).1
  · intro h
    exact ⟨_, amountToBigint_ok.2 ⟨h, rfl⟩⟩

theorem usdToMicros_isOk {s : String} : (∃ m, usdToMicros s = .ok m) ↔ isSignedUsd s = true := by
  unfold usdToMicros isSignedUsd
  cases Decimal.read 6 (splitSign s.toList).2 with
  | none =>
    constructor
    · rintro ⟨m, h⟩
      cases h
    · intro h
      cases h
  | some n => exact ⟨fun _ => rfl, fun _ => ⟨_, rfl⟩⟩

theorem feeInNativeUnits_isOk {field : List String} {detail : FeeDetail} (h : feeDetailIssues field detail = []) :
    ∃ fee, feeInNativeUnits detail = .ok fee := by
  unfold feeDetailIssues at h
  unfold feeInNativeUnits
  split at h
  · simp only [amountIssue, List.append_eq_nil_iff, expect_eq_nil] at h
    simp only [bind_ok, pure_ok]
    exact ⟨_, _, amountToBigint_ok.2 ⟨h.1, rfl⟩, _, amountToBigint_ok.2 ⟨h.2, rfl⟩, rfl⟩
  · simp only [amountIssue, List.append_eq_nil_iff, expect_eq_nil] at h
    simp only [bind_ok, pure_ok]
    exact ⟨_, _, amountToBigint_ok.2 ⟨h.1.2, rfl⟩, _, ceilDiv_eq (by decide), _, amountToBigint_ok.2 ⟨h.2, rfl⟩, rfl⟩

/-! ## Limits -/

theorem sizeChecks_clear {am : Amounts} {cs : List RiskCheck} (h : sizeChecks i am = .ok cs) :
    ∃ maxTrade, usdToMicros i.policy.maxAmountPerTradeUsd = .ok maxTrade ∧ (Clear cs ↔
      ((isExit i.action || isLp i.action || isLpApprove i.action) = false → within am.amountInUsd maxTrade = true)) := by
  unfold sizeChecks at h
  rw [bind_ok] at h
  obtain ⟨maxTrade, hm, h⟩ := h
  refine ⟨maxTrade, hm, ?_⟩
  split at h
  · rename_i hs
    rw [pure_ok] at h
    simp [← h, hs]
  · rename_i hs
    rw [pure_ok] at h
    simp only [Bool.not_eq_true] at hs
    simp [← h, hs]

theorem unrealizedMove_ok {move : Int} : unrealizedMove i = .ok move ↔
    if i.policy.includeUnrealized = true then
      ∃ now anchor, usdToMicros i.state.ledger.unrealizedPnlUsd = .ok now ∧
        usdToMicros i.state.ledger.unrealizedPnlAtDayStartUsd = .ok anchor ∧ -(now - anchor) = move
    else 0 = move := by
  unfold unrealizedMove
  split
  · simp only [bind_ok, pure_ok]
    exact ⟨fun ⟨now, hn, anchor, ha, hm⟩ => ⟨now, anchor, hn, ha, hm⟩,
      fun ⟨now, anchor, hn, ha, hm⟩ => ⟨now, hn, anchor, ha, hm⟩⟩
  · exact pure_ok

theorem computeDailyLoss_ok {loss : Int} : computeDailyLoss i = .ok loss ↔
    ∃ realized move, usdToMicros i.state.ledger.realizedPnlTodayUsd = .ok realized ∧ unrealizedMove i = .ok move ∧
      loss = max 0 (-realized + move) := by
  unfold computeDailyLoss
  simp only [bind_ok, pure_ok]
  constructor
  · rintro ⟨realized, hr, move, hm, rfl⟩
    exact ⟨realized, move, hr, hm, by split <;> omega⟩
  · rintro ⟨realized, move, hr, hm, rfl⟩
    exact ⟨realized, hr, move, hm, by split <;> omega⟩

theorem lossChecks_clear {am : Amounts} {entry : Option Int} {out : List RiskCheck × Int}
    (h : lossChecks i am entry = .ok out) :
    ∃ worst maxLoss, computeDailyLoss i = .ok out.2 ∧ worstCase i am entry = .ok worst ∧
      usdToMicros i.policy.maxDailyLossUsd = .ok maxLoss ∧ (Clear out.1 ↔
        ((isExit i.action || isLpExit i.action) = false → within (worst.map (out.2 + ·)) maxLoss = true)) := by
  unfold lossChecks at h
  simp only [bind_ok] at h
  obtain ⟨loss, hl, worst, hw, maxLoss, hm, h⟩ := h
  split at h
  · rename_i hs
    rw [pure_ok] at h
    subst h
    exact ⟨worst, maxLoss, hl, hw, hm, by simp [hs]⟩
  · rename_i hs
    rw [pure_ok] at h
    subst h
    simp only [Bool.not_eq_true] at hs
    exact ⟨worst, maxLoss, hl, hw, hm, by simp [hs]⟩

/-- What `deployed.total` adds to the deployed capital: an entry's capital, or the value a swap spends. -/
def deployedAddition (i : RiskInput) (am : Amounts) (entry : Option Int) : Option Int :=
  if isLp i.action then (if isLpEntry i.action then entry else none) else am.amountInUsd

theorem deployedChecks_clear {am : Amounts} {entry : Option Int} {out : List RiskCheck × Option Int}
    (h : deployedChecks i am entry = .ok out) :
    ∃ deployed lpDeployed maxDeployed, usdToMicros i.state.ledger.deployedUsd = .ok deployed ∧
      Engine.lpDeployed i = .ok lpDeployed ∧ usdToMicros i.policy.maxTotalDeployedUsd = .ok maxDeployed ∧
      (Clear out.1 ↔ ((isExit i.action || isApprove i.action || isLpExit i.action || isLpClaim i.action) = false →
        within ((deployedAddition i am entry).map (deployed + lpDeployed + ·)) maxDeployed = true)) := by
  unfold deployedChecks at h
  simp only [bind_ok] at h
  obtain ⟨deployed, hd, lpDeployed, hl, maxDeployed, hm, h⟩ := h
  refine ⟨deployed, lpDeployed, maxDeployed, hd, hl, hm, ?_⟩
  · have hadd : (if isLp i.action = true then
          if isLpEntry i.action = true then Option.map (fun x => deployed + lpDeployed + x) entry else none
        else Option.map (fun x => deployed + lpDeployed + x) am.amountInUsd) =
        (deployedAddition i am entry).map (deployed + lpDeployed + ·) := by
      unfold deployedAddition
      split
      · split <;> rfl
      · rfl
    rw [hadd] at h
    split at h
    · rename_i hs
      rw [pure_ok] at h
      simp [← h, hs]
    · rename_i hs
      rw [pure_ok] at h
      simp only [Bool.not_eq_true] at hs
      simp [← h, hs]

theorem feeChecks_clear {am : Amounts} {cs : List RiskCheck} (h : feeChecks i am = .ok cs) :
    ∃ maxFee, usdToMicros i.policy.maxTransactionFeeUsd = .ok maxFee ∧ (Clear cs ↔ within am.feeUsd maxFee = true) := by
  unfold feeChecks at h
  rw [bind_ok] at h
  obtain ⟨maxFee, hm, h⟩ := h
  rw [pure_ok] at h
  exact ⟨maxFee, hm, by simp [← h]⟩

theorem quoteSlippage_bound {q : Quote} {implied : Int} {limit : Nat} (h : quoteSlippage q = .ok implied)
    (hle : implied ≤ limit) {expectedOut minOut : Int} (he : amountToBigint q.expectedAmountOut = .ok expectedOut)
    (hm : amountToBigint q.minAmountOut = .ok minOut) (hpos : 0 < expectedOut) (hmin : minOut ≤ expectedOut) :
    (q.slippageBps : Int) ≤ limit ∧ expectedOut * (10000 - limit) ≤ minOut * 10000 := by
  unfold quoteSlippage at h
  rw [he, hm] at h
  simp only [bind_ok, Except.ok.injEq, exists_eq_left'] at h
  rw [if_pos (by simp [hpos, hmin]), impliedSlippageBps_eq hpos (amountToBigint_nonneg hm) hmin, bind_ok] at h
  obtain ⟨implied', himp, h⟩ := h
  rw [pure_ok] at h
  have hs := le_maxBigint_left q.slippageBps implied'
  have hi := le_maxBigint_right q.slippageBps implied'
  refine ⟨by omega, ?_⟩
  have hup : Rounding.up ((expectedOut - minOut) * 10000) expectedOut ≤ limit := by
    have := Except.ok.inj himp
    omega
  rw [Rounding.up_le_iff hpos] at hup
  linarith

theorem qualityChecks_clear {out : List RiskCheck × Int} (h : qualityChecks i = .ok out) {q : Quote}
    (hq : swapQuote i.action = some q) : quoteSlippage q = .ok out.2 ∧ (Clear out.1 ↔
      out.2 ≤ i.policy.maxSlippageBps ∧ q.priceImpactBps ≤ i.policy.maxPriceImpactBps) := by
  unfold qualityChecks at h
  rw [hq] at h
  simp only [bind_ok, pure_ok] at h
  obtain ⟨implied, himp, rfl⟩ := h
  exact ⟨himp, by simp⟩

theorem usdDatum_some {datum : Option Stamped} {m : Int} (h : usdDatum datum = .ok (some m)) :
    ∃ s, datum = some s ∧ usdToMicros s.value = .ok m := by
  unfold usdDatum at h
  split at h
  · rename_i s
    simp only [bind_ok, pure_ok] at h
    obtain ⟨m', hm, hs⟩ := h
    obtain rfl := Option.some.inj hs
    exact ⟨s, rfl, hm⟩
  · cases h

theorem amountDatum_some {datum : Option Stamped} {m : Int} (h : amountDatum datum = .ok (some m)) :
    ∃ s, datum = some s ∧ amountToBigint s.value = .ok m := by
  unfold amountDatum at h
  split at h
  · rename_i s
    simp only [bind_ok, pure_ok] at h
    obtain ⟨m', hm, hs⟩ := h
    obtain rfl := Option.some.inj hs
    exact ⟨s, rfl, hm⟩
  · cases h

/-- An action that spends `tokenIn`. -/
def spendsIn (a : ProposedAction) : Bool := !(isApprove a || isLpExit a || isLpClaim a)

theorem tokenInBalanceCheck_clear {am : Amounts} {c : RiskCheck} (h : tokenInBalanceCheck host i am = .ok c) :
    ∃ held, (spendsIn i.action = true → amountDatum (balanceIn i) = .ok held) ∧
      (refuses c = false ↔ (spendsIn i.action = true → atLeast held (neededIn host i am) = true)) := by
  unfold tokenInBalanceCheck at h
  split at h
  · rename_i hs
    rw [pure_ok] at h
    have hsp : spendsIn i.action = false := by simp [spendsIn, hs]
    exact ⟨none, by simp [hsp], by simp [← h, hsp]⟩
  · rename_i hs
    simp only [bind_ok, pure_ok] at h
    obtain ⟨held, hh, rfl⟩ := h
    have hsp : spendsIn i.action = true := by simpa [spendsIn] using hs
    exact ⟨held, fun _ => hh, by simp [hsp]⟩

theorem balanceChecks_clear {am : Amounts} {cs : List RiskCheck} (h : balanceChecks host i am = .ok cs) :
    ∃ held nativeHeld, (spendsIn i.action = true → amountDatum (balanceIn i) = .ok held) ∧
      amountDatum (balanceNative i) = .ok nativeHeld ∧
      (Clear cs ↔ (spendsIn i.action = true → atLeast held (neededIn host i am) = true) ∧
        atLeast nativeHeld am.feeNative = true) := by
  unfold balanceChecks at h
  simp only [bind_ok, pure_ok] at h
  obtain ⟨c, hc, nativeHeld, hn, rfl⟩ := h
  obtain ⟨held, hh, hcl⟩ := tokenInBalanceCheck_clear hc
  refine ⟨held, nativeHeld, hh, hn, ?_⟩
  rw [clear_cons, hcl]
  simp

/-! ## The worst case of a swap and of an entry -/

theorem worstCase_swap {am : Amounts} {entry worst : Option Int} (h : worstCase i am entry = .ok worst)
    (hl : isLp i.action = false) (ha : isApprove i.action = false) (hb : i.policy.maxSlippageBps ≤ 10000) :
    worst = am.amountInUsd.bind fun v => am.feeUsd.map fun f =>
      f + Rounding.up (v * i.policy.maxSlippageBps) 10000 := by
  unfold worstCase at h
  rw [if_neg (by simp [hl])] at h
  split at h
  · rename_i v f hv hf
    rw [if_neg (by simp [ha]), bpsOf_eq hb] at h
    rw [hv, hf]
    exact (Except.ok.inj h).symm
  · rename_i hne
    rw [pure_ok] at h
    cases hv : am.amountInUsd with
    | none => exact h.symm
    | some v => cases hf : am.feeUsd with
      | none => exact h.symm
      | some f => exact absurd hf (hne v f hv)

theorem lpEntryCapital_ok {entry : Option Int} {lp : LpLeg} {amountB : String} (h : lpEntryCapital i = .ok entry)
    (hlp : i.action.lp = some lp) (hb : lp.amountB = some amountB) (he : isLpEntry i.action = true)
    (hIn : i.action.tokenIn.decimals ≤ 36) (hOut : i.action.tokenOut.decimals ≤ 36) {a b : Int}
    (ha : amountToBigint i.action.amountIn = .ok a) (hB : amountToBigint amountB = .ok b) :
    entry = (usablePrice (priceIn i)).bind fun pIn => (usablePrice (priceOut i)).map fun pOut =>
      Rounding.up (a * pIn) (usdUnit i.action.tokenIn.decimals) +
        Rounding.up (b * pOut) (usdUnit i.action.tokenOut.decimals) := by
  unfold lpEntryCapital at h
  simp only [hlp, hb, he, if_true] at h
  unfold lpCapitalMicros at h
  cases hpIn : usablePrice (priceIn i) with
  | none =>
    simp only [hpIn] at h
    exact (pure_ok.1 h).symm
  | some pIn => cases hpOut : usablePrice (priceOut i) with
    | none =>
      simp only [hpIn, hpOut] at h
      exact (pure_ok.1 h).symm
    | some pOut =>
      obtain ⟨-, -, -, hpos⟩ := usablePrice_some hpIn
      obtain ⟨-, -, -, hpos'⟩ := usablePrice_some hpOut
      simp only [hpIn, hpOut, ha, hB] at h
      simp only [bind_ok, Except.ok.injEq, exists_eq_left', nativeToUsdMicros_ceil hIn hpos,
        nativeToUsdMicros_ceil hOut hpos'] at h
      exact (pure_ok.1 h).symm

/-! ## LP groups -/

/-- **The pool is one the operator allowed**, under an allowed protocol. -/
theorem poolChecks_clear {lp : LpLeg} (hlp : i.action.lp = some lp)
    (hk : (isLp i.action || isLpApprove i.action) = true) : Clear (poolChecks host i) ↔
      i.action.protocol ∈ (i.policy.lp.allowedProtocols.lookup i.action.chain).getD [] ∧
        poolAllowed host i.policy i.action.chain i.action.protocol lp.poolId = true := by
  unfold poolChecks
  simp only [hlp, hk, if_true, poolAllowlistCheck]
  simp

theorem capitalChecks_clear {cs : List RiskCheck} {entry : Option Int} {lp : LpLeg}
    (h : capitalChecks i entry = .ok cs) (hlp : i.action.lp = some lp) (he : isLpEntry i.action = true) :
    ∃ existing maxCapital, Engine.existingCapital i lp = .ok existing ∧
      usdToMicros i.policy.lp.maxCapitalPerLpUsd = .ok maxCapital ∧
      (Clear cs ↔ within (entry.map (existing + ·)) maxCapital = true) := by
  unfold capitalChecks at h
  simp only [hlp, he, if_true, bind_ok, pure_ok] at h
  obtain ⟨existing, hx, maxCapital, hm, rfl⟩ := h
  exact ⟨existing, maxCapital, hx, hm, by simp⟩

/-- The outcome of every LP group. -/
structure LpRun (i : RiskInput) (am : Amounts) (lp : LpLeg) where
  position : List RiskCheck
  poolLiquidity : List RiskCheck
  slippage : List RiskCheck
  gas : List RiskCheck
  claim : List RiskCheck
  tokenB : List RiskCheck
  position_ok : lpPositionChecks i lp = .ok position
  poolLiquidity_ok : lpPoolLiquidityChecks i = .ok poolLiquidity
  slippage_ok : lpSlippageChecks i = .ok slippage
  gas_ok : lpGasChecks i am = .ok gas
  claim_ok : lpClaimChecks i lp = .ok claim
  tokenB_ok : lpTokenBChecks i lp = .ok tokenB

def LpRun.checks {am : Amounts} {lp : LpLeg} (r : LpRun i am lp) : List RiskCheck :=
  r.position ++ r.poolLiquidity ++ lpRebalanceChecks i lp ++ r.slippage ++ r.gas ++ r.claim ++ r.tokenB

theorem runLpChecks_ok {am : Amounts} {cs : List RiskCheck} {lp : LpLeg} (hlp : i.action.lp = some lp)
    (hl : isLp i.action = true) : runLpChecks i am = .ok cs ↔ ∃ r : LpRun i am lp, cs = r.checks := by
  unfold runLpChecks
  simp only [hl, if_true, hlp, bind_ok, pure_ok]
  constructor
  · rintro ⟨position, h1, poolLiquidity, h2, slippage, h3, gas, h4, claim, h5, tokenB, h6, rfl⟩
    exact ⟨⟨position, poolLiquidity, slippage, gas, claim, tokenB, h1, h2, h3, h4, h5, h6⟩, rfl⟩
  · rintro ⟨r, rfl⟩
    exact ⟨_, r.position_ok, _, r.poolLiquidity_ok, _, r.slippage_ok, _, r.gas_ok, _, r.claim_ok, _, r.tokenB_ok, rfl⟩

theorem runLpChecks_of_not_lp {am : Amounts} (hl : isLp i.action = false) : runLpChecks i am = .ok [] := by
  unfold runLpChecks
  simp [hl]
  rfl

theorem lpPositionChecks_clear {cs : List RiskCheck} {lp : LpLeg} (h : lpPositionChecks i lp = .ok cs)
    (hk : (isLpExit i.action || isLpClaim i.action) = true) :
    ∃ held wanted, heldLpTokens i lp = .ok held ∧ wantedLpTokens i lp = .ok wanted ∧
      (Clear cs ↔ 0 < held ∧ (isLpExit i.action = true → wanted ≤ held)) := by
  unfold lpPositionChecks at h
  simp only [hk, if_true, bind_ok, pure_ok] at h
  obtain ⟨held, hh, wanted, hw, rfl⟩ := h
  refine ⟨held, wanted, hh, hw, ?_⟩
  cases isLpExit i.action <;> simp

theorem lpPoolLiquidityChecks_clear {cs : List RiskCheck} (h : lpPoolLiquidityChecks i = .ok cs)
    (he : isLpEntry i.action = true) :
    ∃ minPool tvl, usdToMicros i.policy.lp.minPoolLiquidityUsd = .ok minPool ∧ usdDatum (liquidityDatum i) = .ok tvl ∧
      (Clear cs ↔ atLeast tvl minPool = true) := by
  unfold lpPoolLiquidityChecks at h
  simp only [he, if_true, bind_ok, pure_ok] at h
  obtain ⟨minPool, hm, tvl, ht, rfl⟩ := h
  exact ⟨minPool, tvl, hm, ht, by simp⟩

theorem lpRebalanceChecks_clear {lp : LpLeg} (hk : i.action.kind = .lp_rebalance) :
    Clear (lpRebalanceChecks i lp) ↔ rebalanceCount i lp < i.policy.lp.maxRebalancePerDay := by
  unfold lpRebalanceChecks
  simp [hk]

theorem lpGasChecks_clear {am : Amounts} {cs : List RiskCheck} (h : lpGasChecks i am = .ok cs) :
    ∃ maxLpGas, usdToMicros i.policy.lp.maxLpGasUsd = .ok maxLpGas ∧ (Clear cs ↔ within am.feeUsd maxLpGas = true) := by
  unfold lpGasChecks at h
  simp only [bind_ok, pure_ok] at h
  obtain ⟨maxLpGas, hm, rfl⟩ := h
  exact ⟨maxLpGas, hm, by simp⟩

theorem lpClaimChecks_clear {cs : List RiskCheck} {lp : LpLeg} (h : lpClaimChecks i lp = .ok cs)
    (hk : isLpClaim i.action = true) :
    ∃ value threshold, claimValue i lp = .ok value ∧ usdToMicros i.policy.lp.minFeeThresholdUsd = .ok threshold ∧
      (Clear cs ↔ atLeast value threshold = true) := by
  unfold lpClaimChecks at h
  simp only [hk, if_true, bind_ok, pure_ok] at h
  obtain ⟨value, hv, threshold, ht, rfl⟩ := h
  exact ⟨value, threshold, hv, ht, by simp⟩

theorem claimValue_some {lp : LpLeg} {v : Int} (h : claimValue i lp = .ok (some v))
    (hIn : i.action.tokenIn.decimals ≤ 36) (hOut : i.action.tokenOut.decimals ≤ 36) :
    ∃ c pIn pOut a b, lp.claimable = some c ∧ usablePrice (priceIn i) = some pIn ∧ usablePrice (priceOut i) = some pOut ∧
      amountToBigint c.amountA = .ok a ∧ amountToBigint c.amountB = .ok b ∧
      v = Rounding.down (a * pIn) (usdUnit i.action.tokenIn.decimals) +
        Rounding.down (b * pOut) (usdUnit i.action.tokenOut.decimals) := by
  unfold claimValue at h
  split at h
  · rename_i c pIn pOut hc hpIn hpOut
    obtain ⟨-, -, -, hpos⟩ := usablePrice_some hpIn
    obtain ⟨-, -, -, hpos'⟩ := usablePrice_some hpOut
    simp only [bind_ok, pure_ok] at h
    obtain ⟨a, ha, legA, hA, b, hb, legB, hB, hv⟩ := h
    rw [nativeToUsdMicros_floor hIn hpos (amountToBigint_nonneg ha)] at hA
    rw [nativeToUsdMicros_floor hOut hpos' (amountToBigint_nonneg hb)] at hB
    obtain rfl := Except.ok.inj hA
    obtain rfl := Except.ok.inj hB
    exact ⟨c, pIn, pOut, a, b, hc, hpIn, hpOut, ha, hb, (Option.some.inj hv).symm⟩
  · exact absurd (pure_ok.1 h) (by simp)

theorem lpTokenBChecks_clear {cs : List RiskCheck} {lp : LpLeg} {amountB : String} (h : lpTokenBChecks i lp = .ok cs)
    (he : isLpEntry i.action = true) (hb : lp.amountB = some amountB) :
    ∃ held needed, amountDatum (balanceOut i) = .ok held ∧ amountToBigint amountB = .ok needed ∧
      (Clear cs ↔
        Fresh (balanceOut i) i.now i.policy.freshness.balanceMaxAgeMs i.policy.freshness.maxClockSkewMs ∧
          atLeast held needed = true) := by
  unfold lpTokenBChecks at h
  simp only [he, if_true, hb, bind_ok, pure_ok] at h
  obtain ⟨held, hh, needed, hn, rfl⟩ := h
  exact ⟨held, needed, hh, hn, by simp⟩

/-! ## All groups at once -/

/-- No group of a run refuses. -/
structure Run.AllClear (r : Run host i) : Prop where
  chain : Clear (chainChecks i)
  pool : Clear (poolChecks host i)
  capital : Clear r.capital
  fresh : AllFresh i
  allowlist : Clear (allowlistChecks host i)
  position : Clear r.position
  size : Clear r.size
  loss : Clear r.loss.1
  deployed : Clear r.deployed.1
  quality : Clear r.quality.1
  market : Clear r.market
  fee : Clear r.fee
  liquidity : Clear r.liquidity
  pacing : Clear (pacingChecks i)
  balances : Clear r.balances
  lp : Clear r.lp

theorem Run.clear_iff {r : Run host i} : Clear r.checks ↔ r.AllClear := by
  unfold Run.checks
  simp only [clear_append, and_assoc, freshnessChecks_clear]
  exact ⟨fun ⟨h1, h2, h3, h4, h5, h6, h7, h8, h9, h10, h11, h12, h13, h14, h15, h16⟩ =>
      ⟨h1, h2, h3, h4, h5, h6, h7, h8, h9, h10, h11, h12, h13, h14, h15, h16⟩,
    fun h => ⟨h.chain, h.pool, h.capital, h.fresh, h.allowlist, h.position, h.size, h.loss, h.deployed, h.quality,
      h.market, h.fee, h.liquidity, h.pacing, h.balances, h.lp⟩⟩

/-- **An allowed input**: tier 0 holds and one run of every group has none that refuses. -/
theorem allows_iff : Allows host i ↔ Tier0 host i ∧ ∃ r : Run host i, r.AllClear := by
  rw [evaluate_allowed_iff, tier0Checks_clear]
  simp only [Run.clear_iff]

end Engine
end Atra
