import Atra.EngineSpec
/-!
# EngineChecks — which checks an evaluation records, and which of them refuses

Every group of checks records the same names and codes whatever it finds, so that the names of one evaluation are those of
`remainingCheckNames` (`Run.signatures`).  No name occurs twice, and a refusal under a name is a refusal of its one group.
-/
namespace Atra
namespace Engine

open Money

/-! ## Names and codes -/

def signature (c : RiskCheck) : String × RejectionCode := (c.name, c.code)

section
variable {name : String} {code : RejectionCode}

@[simp] theorem signature_mkCheck {passed : Bool} {observed limit : String} {detail : Option String} :
    signature (mkCheck name code passed observed limit detail) = (name, code) := rfl

@[simp] theorem signature_skip {reason : Skip} : signature (skip name code reason) = (name, code) := rfl

@[simp] theorem signature_notApplicable : signature (notApplicable name code) = (name, code) := rfl

@[simp] theorem signature_freshnessCheck {stamped : Option Stamped} {now maxAgeMs skewMs : Int} :
    signature (freshnessCheck name stamped now maxAgeMs skewMs) = (name, .DATA_STALE) := by
  unfold freshnessCheck
  split
  · rfl
  · split <;> rfl

@[simp] theorem signature_priceCheck {stamped : Option Stamped} {now maxAgeMs skewMs : Int} :
    signature (priceCheck name stamped now maxAgeMs skewMs) = (name, .DATA_STALE) := by
  unfold priceCheck
  simp only
  split
  · rfl
  · exact signature_freshnessCheck

@[simp] theorem signature_elapsedCheck {now : Int} {last : Option Int} {limitSeconds : Nat} :
    signature (elapsedCheck name now last limitSeconds) = (name, .COOLDOWN_ACTIVE) := rfl

@[simp] theorem signature_contractCheck {a : ProposedAction} {entry : Option ProtocolAllowEntry} :
    signature (contractCheck a entry) = ("allowlist.contract", .CONTRACT_UNKNOWN) := by
  cases entry with
  | none => rfl
  | some entry =>
    simp only [contractCheck]
    repeat' split
    all_goals rfl

end

variable {host : Host} {i : RiskInput} {am : Amounts} {entry : Option Int}

theorem signature_ite {b : Prop} [Decidable b] {c c' : RiskCheck} {s : String × RejectionCode} (h : signature c = s)
    (h' : signature c' = s) : signature (if b then c else c') = s := by
  split
  · exact h
  · exact h'

/-! ## What each group records -/

theorem chainChecks_signatures : (chainChecks i).map signature = [("chain.enabled", .CHAIN_UNSUPPORTED)] := rfl

/-- The pool check is recorded for the liquidity kinds, whose leg the schema requires, and the LP-token approval. -/
theorem poolChecks_signatures (hv : i.action.Valid) : (poolChecks host i).map signature =
    if isLp i.action || isLpApprove i.action then [LP_POOL_CHECK] else [] := by
  unfold poolChecks
  cases hlp : i.action.lp with
  | some lp =>
    simp only
    split
    · rfl
    · rfl
  | none =>
    have hl : isLp i.action = false := by
      by_contra hl
      obtain ⟨lp, hsome⟩ := ProposedAction.Valid.lp_isSome hv (Bool.not_eq_false _ ▸ hl)
      rw [hlp] at hsome
      cases hsome
    simp [isLpApprove, hlp, hl]

theorem capitalChecks_signatures {cs : List RiskCheck} (hv : i.action.Valid) (h : capitalChecks i entry = .ok cs) :
    cs.map signature = if isLpEntry i.action then [LP_CAPITAL_CHECK] else [] := by
  unfold capitalChecks at h
  cases hlp : i.action.lp with
  | some lp =>
    simp only [hlp] at h
    split at h
    · rename_i he
      simp only [bind_ok, pure_ok] at h
      obtain ⟨_, _, _, _, rfl⟩ := h
      simp [he, LP_CAPITAL_CHECK]
    · rename_i he
      obtain rfl := pure_ok.1 h
      simp [he]
  | none =>
    simp only [hlp] at h
    obtain rfl := pure_ok.1 h
    have he : isLpEntry i.action = false := by
      by_contra he
      have hl : isLp i.action = true := by
        cases hk : i.action.kind <;> simp_all [isLp, isLpKind, isLpEntry]
      obtain ⟨lp, hsome⟩ := ProposedAction.Valid.lp_isSome hv hl
      rw [hlp] at hsome
      cases hsome
    simp [he]

theorem freshnessChecks_signatures : (freshnessChecks i).map signature =
    [("freshness.action", .DATA_STALE), ("freshness.ledger", .DATA_STALE), ("freshness.price.tokenIn", .DATA_STALE),
      ("freshness.price.tokenOut", .DATA_STALE), ("freshness.price.native", .DATA_STALE), ("freshness.quote", .DATA_STALE),
      ("freshness.fee", .DATA_STALE), ("freshness.balance.tokenIn", .DATA_STALE),
      ("freshness.balance.native", .DATA_STALE), ("freshness.liquidity", .DATA_STALE)] := by
  have hledger : signature (ledgerDayCheck i) = ("freshness.ledger", .DATA_STALE) := rfl
  unfold freshnessChecks
  simp only [List.map_cons, List.map_nil, signature_freshnessCheck, signature_priceCheck, hledger, List.cons.injEq, true_and,
    and_true]
  refine ⟨signature_ite rfl signature_priceCheck, ?_, signature_ite rfl signature_freshnessCheck,
    signature_ite rfl signature_freshnessCheck⟩
  split
  · exact signature_ite rfl signature_freshnessCheck
  · rfl

theorem allowlistChecks_signatures : (allowlistChecks host i).map signature =
    [("allowlist.tokenIn", .TOKEN_NOT_ALLOWLISTED), ("allowlist.tokenOut", .TOKEN_NOT_ALLOWLISTED),
      ("allowlist.protocol", .PROTOCOL_NOT_ALLOWLISTED), ("allowlist.contract", .CONTRACT_UNKNOWN)] := by
  unfold allowlistChecks
  simp only [List.map_cons, List.map_nil, signature_mkCheck, signature_contractCheck, List.cons.injEq, true_and, and_true]
  exact signature_ite rfl rfl

theorem positionChecks_signatures {cs : List RiskCheck} (h : positionChecks host i = .ok cs) :
    cs.map signature = [("position.reduceOnly", .REDUCE_ONLY_MISMATCH)] := by
  unfold positionChecks at h
  split at h
  · simp only [bind_ok, pure_ok] at h
    obtain ⟨_, _, _, _, rfl⟩ := h
    rfl
  · obtain rfl := pure_ok.1 h
    rfl

theorem sizeChecks_signatures {cs : List RiskCheck} (h : sizeChecks i am = .ok cs) :
    cs.map signature = [("size.amountInUsd", .SIZE_EXCEEDS_MAX_TRADE)] := by
  unfold sizeChecks at h
  rw [bind_ok] at h
  obtain ⟨_, _, h⟩ := h
  split at h
  · obtain rfl := pure_ok.1 h
    rfl
  · obtain rfl := pure_ok.1 h
    rfl

theorem lossChecks_signatures {out : List RiskCheck × Int} (h : lossChecks i am entry = .ok out) :
    out.1.map signature = [("loss.daily", .DAILY_LOSS_BREACHED)] := by
  unfold lossChecks at h
  simp only [bind_ok] at h
  obtain ⟨_, _, _, _, _, _, h⟩ := h
  split at h
  · obtain rfl := pure_ok.1 h
    rfl
  · obtain rfl := pure_ok.1 h
    rfl

theorem deployedChecks_signatures {out : List RiskCheck × Option Int} (h : deployedChecks i am entry = .ok out) :
    out.1.map signature = [("deployed.total", .TOTAL_DEPLOYED_BREACHED)] := by
  unfold deployedChecks at h
  simp only [bind_ok] at h
  obtain ⟨_, _, _, _, _, _, h⟩ := h
  split at h
  · obtain rfl := pure_ok.1 h
    rfl
  · obtain rfl := pure_ok.1 h
    rfl

theorem qualityChecks_signatures {out : List RiskCheck × Int} (h : qualityChecks i = .ok out) :
    out.1.map signature = [("slippage.implied", .SLIPPAGE_EXCEEDS_MAX), ("slippage.priceImpact", .SLIPPAGE_EXCEEDS_MAX)] := by
  unfold qualityChecks at h
  split at h
  · obtain rfl := pure_ok.1 h
    rfl
  · simp only [bind_ok, pure_ok] at h
    obtain ⟨_, _, rfl⟩ := h
    rfl

theorem marketChecks_signatures {cs : List RiskCheck} (h : marketChecks i am = .ok cs) :
    cs.map signature = [("quote.market", .QUOTE_OFF_MARKET)] := by
  unfold marketChecks at h
  split at h
  · obtain rfl := pure_ok.1 h
    rfl
  · simp only [bind_ok, pure_ok] at h
    obtain ⟨_, _, _, _, rfl⟩ := h
    rfl

theorem feeChecks_signatures {cs : List RiskCheck} (h : feeChecks i am = .ok cs) :
    cs.map signature = [("fee.usd", .FEE_EXCEEDS_MAX)] := by
  unfold feeChecks at h
  simp only [bind_ok, pure_ok] at h
  obtain ⟨_, _, rfl⟩ := h
  rfl

theorem liquidityChecks_signatures {cs : List RiskCheck} (h : liquidityChecks i = .ok cs) :
    cs.map signature = [("liquidity.market", .LIQUIDITY_BELOW_MIN)] := by
  unfold liquidityChecks at h
  rw [bind_ok] at h
  obtain ⟨_, _, h⟩ := h
  split at h
  · obtain rfl := pure_ok.1 h
    rfl
  · simp only [bind_ok, pure_ok] at h
    obtain ⟨_, _, rfl⟩ := h
    rfl

theorem pacingChecks_signatures : (pacingChecks i).map signature =
    [("cooldown.market", .COOLDOWN_ACTIVE), ("cooldown.global", .COOLDOWN_ACTIVE)] := by
  unfold pacingChecks
  simp only [List.map_cons, List.map_nil, List.cons.injEq, and_true]
  exact ⟨signature_ite rfl rfl, signature_ite rfl rfl⟩

theorem balanceChecks_signatures {cs : List RiskCheck} (h : balanceChecks host i am = .ok cs) :
    cs.map signature = [("balance.tokenIn", .BALANCE_INSUFFICIENT), ("balance.gas", .BALANCE_INSUFFICIENT)] := by
  unfold balanceChecks at h
  simp only [bind_ok, pure_ok] at h
  obtain ⟨c, hc, _, _, rfl⟩ := h
  have hs : signature c = ("balance.tokenIn", .BALANCE_INSUFFICIENT) := by
    unfold tokenInBalanceCheck at hc
    split at hc
    · obtain rfl := pure_ok.1 hc
      rfl
    · simp only [bind_ok, pure_ok] at hc
      obtain ⟨_, _, rfl⟩ := hc
      rfl
  simp [hs]

theorem LpRun.signatures {lp : LpLeg} (r : LpRun i am lp) : r.checks.map signature = LP_LATE_CHECK_NAMES := by
  have h1 : r.position.map signature = [("lp.position", .REDUCE_ONLY_MISMATCH)] := by
    have h := r.position_ok
    unfold lpPositionChecks at h
    split at h
    · simp only [bind_ok, pure_ok] at h
      obtain ⟨_, _, _, _, h⟩ := h
      rw [← h]
      rfl
    · rw [← pure_ok.1 h]
      rfl
  have h2 : r.poolLiquidity.map signature = [("lp.poolLiquidity", .POOL_LIQUIDITY_BELOW_MIN)] := by
    have h := r.poolLiquidity_ok
    unfold lpPoolLiquidityChecks at h
    rw [bind_ok] at h
    obtain ⟨_, _, h⟩ := h
    split at h
    · simp only [bind_ok, pure_ok] at h
      obtain ⟨_, _, h⟩ := h
      rw [← h]
      rfl
    · rw [← pure_ok.1 h]
      rfl
  have h3 : (lpRebalanceChecks i lp).map signature = [("lp.rebalanceCount", .REBALANCE_LIMIT_REACHED)] := by
    unfold lpRebalanceChecks
    split <;> rfl
  have h4 : r.slippage.map signature = [("lp.rebalanceSlippage", .SLIPPAGE_EXCEEDS_MAX)] := by
    have h := r.slippage_ok
    unfold lpSlippageChecks at h
    split at h
    · simp only [bind_ok, pure_ok] at h
      obtain ⟨_, _, h⟩ := h
      rw [← h]
      rfl
    · rw [← pure_ok.1 h]
      rfl
  have h5 : r.gas.map signature = [("lp.gas", .FEE_EXCEEDS_MAX)] := by
    have h := r.gas_ok
    unfold lpGasChecks at h
    simp only [bind_ok, pure_ok] at h
    obtain ⟨_, _, h⟩ := h
    rw [← h]
    rfl
  have h6 : r.claim.map signature = [("lp.claimThreshold", .FEE_BELOW_CLAIM_THRESHOLD)] := by
    have h := r.claim_ok
    unfold lpClaimChecks at h
    split at h
    · simp only [bind_ok, pure_ok] at h
      obtain ⟨_, _, _, _, h⟩ := h
      rw [← h]
      rfl
    · rw [← pure_ok.1 h]
      rfl
  have h7 : r.tokenB.map signature = [("lp.freshness.balance.tokenB", .DATA_STALE),
      ("lp.balance.tokenB", .BALANCE_INSUFFICIENT)] := by
    have h := r.tokenB_ok
    unfold lpTokenBChecks at h
    split at h
    · simp only [bind_ok, pure_ok] at h
      obtain ⟨_, _, _, _, h⟩ := h
      rw [← h]
      simp
    · rw [← pure_ok.1 h]
      rfl
  unfold LpRun.checks
  simp only [List.map_append, h1, h2, h3, h4, h5, h6, h7]
  rfl

theorem runLpChecks_signatures {cs : List RiskCheck} (hv : i.action.Valid) (h : runLpChecks i am = .ok cs) :
    cs.map signature = if isLp i.action then LP_LATE_CHECK_NAMES else [] := by
  cases hl : isLp i.action with
  | true =>
    obtain ⟨lp, hlp⟩ := ProposedAction.Valid.lp_isSome hv hl
    obtain ⟨r, rfl⟩ := (runLpChecks_ok hlp hl).1 h
    exact r.signatures
  | false =>
    rw [runLpChecks_of_not_lp hl] at h
    obtain rfl := Except.ok.inj h
    rfl

/-- **An evaluation records the canonical checks**, in order, whatever they find. -/
theorem Run.signatures (r : Run host i) (hv : i.action.Valid) : r.checks.map signature = remainingCheckNames i.action := by
  unfold Run.checks
  simp only [List.map_append, chainChecks_signatures, poolChecks_signatures hv, capitalChecks_signatures hv r.capital_ok,
    freshnessChecks_signatures, allowlistChecks_signatures, positionChecks_signatures r.position_ok,
    sizeChecks_signatures r.size_ok, lossChecks_signatures r.loss_ok, deployedChecks_signatures r.deployed_ok,
    qualityChecks_signatures r.quality_ok, marketChecks_signatures r.market_ok, feeChecks_signatures r.fee_ok,
    liquidityChecks_signatures r.liquidity_ok, pacingChecks_signatures, balanceChecks_signatures r.balances_ok,
    runLpChecks_signatures hv r.lp_ok]
  unfold remainingCheckNames
  cases hk : i.action.kind <;> cases hl : i.action.lp <;>
    simp [isLp, isLpKind, isLpApprove, isApprove, isLpEntry, hk, hl, REMAINING_CHECK_NAMES_REST]

theorem remainingCheckNames_nodup (a : ProposedAction) : ((remainingCheckNames a).map Prod.fst).Nodup := by
  unfold remainingCheckNames isLp isLpApprove isApprove isLpEntry
  generalize a.kind = kind
  generalize a.lp.isSome = hasLeg
  cases kind <;> cases hasLeg <;> decide

/-! ## Refusals by name -/

def RefusedBy (name : String) (checks : List RiskCheck) : Prop := ∃ c ∈ checks, c.name = name ∧ refuses c = true

instance (name : String) (checks : List RiskCheck) : Decidable (RefusedBy name checks) :=
  inferInstanceAs (Decidable (∃ c ∈ checks, c.name = name ∧ refuses c = true))

theorem refusedBy_append {name : String} {xs ys : List RiskCheck} :
    RefusedBy name (xs ++ ys) ↔ RefusedBy name xs ∨ RefusedBy name ys := by
  simp only [RefusedBy, List.mem_append, or_and_right, exists_or]

theorem clear_iff_not_refusedBy {cs : List RiskCheck} : Clear cs ↔ ∀ name, ¬ RefusedBy name cs := by
  constructor
  · rintro h name ⟨c, hc, -, hr⟩
    rw [h c hc] at hr
    cases hr
  · intro h c hc
    cases hr : refuses c with
    | false => rfl
    | true => exact absurd ⟨c, hc, rfl, hr⟩ (h c.name)

/-- **A run refuses under a recorded check's name exactly when that check refuses.** -/
theorem Run.refusedBy_iff (r : Run host i) (hv : i.action.Valid) {c : RiskCheck} (hc : c ∈ r.checks) :
    RefusedBy c.name r.checks ↔ refuses c = true := by
  constructor
  · rintro ⟨c', hc', hn, hr⟩
    have hnodup : (r.checks.map RiskCheck.name).Nodup := by
      have h := remainingCheckNames_nodup i.action
      rw [← r.signatures hv, List.map_map] at h
      exact h
    rwa [List.inj_on_of_nodup_map hnodup hc' hc hn] at hr
  · intro hr
    exact ⟨c, hc, rfl, hr⟩

/-! ## Decisions -/

theorem evaluate_ok_of_tier0 {d : RiskDecision} (h0 : Tier0 host i) (h : evaluate host i = .ok d) :
    ∃ r : Run host i, d = finish i (tier0Checks host i ++ r.checks) (some r.derived) := by
  have hc := tier0Checks_clear.2 h0
  unfold evaluate at h
  rw [if_neg (by rw [checksFailed_eq_false.2 hc]; simp), bind_ok] at h
  obtain ⟨out, hout, hd⟩ := h
  obtain ⟨r, rfl⟩ := runRemainingChecks_ok.1 hout
  exact ⟨r, (pure_ok.1 hd).symm⟩

theorem refusedBy_finish {name : String} {checks : List RiskCheck} {derived : Option RiskDerived} (h0 : Tier0 host i) :
    RefusedBy name (finish i (tier0Checks host i ++ checks) derived).checks ↔ RefusedBy name checks := by
  show RefusedBy name (tier0Checks host i ++ checks) ↔ _
  rw [refusedBy_append, or_iff_right (clear_iff_not_refusedBy.1 (tier0Checks_clear.2 h0) name)]

/-- **The verdict of one check**: past tier 0, a decision refuses under a recorded check's name when that check refuses. -/
theorem refusedBy_decision {d : RiskDecision} {name : String} {P : Prop} (h0 : Tier0 host i)
    (hrun : ∀ r : Run host i, ∃ c ∈ r.checks, c.name = name ∧ (refuses c = true ↔ P)) (h : evaluate host i = .ok d) :
    RefusedBy name d.checks ↔ P := by
  obtain ⟨r, rfl⟩ := evaluate_ok_of_tier0 h0 h
  obtain ⟨c, hc, rfl, hP⟩ := hrun r
  rw [refusedBy_finish h0, r.refusedBy_iff h0.action hc, hP]

end Engine
end Atra
