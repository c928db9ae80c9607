import Atra.EngineSound
/-!
# EngineSoundLp — an allowed liquidity action in exact arithmetic

The liquidity counterpart of `EngineSound`: an entry, a rebalance, a removal and a claim each have the exact numbers their
checks stand for, and the proposer's own figures (`capitalUsd`, `claimableFeesUsd`) change no decision.
-/
namespace Atra
namespace Engine

open Money

variable {host : Host} {i : RiskInput}

/-- The exact numbers every LP action is judged by. -/
structure LpFigures (i : RiskInput) extends AccountFigures i where
  lp : LpLeg
  maxFee : ℚ
  maxLpGas : ℚ
  lp_eq : i.action.lp = some lp
  maxFee_eq : exactUsd i.policy.maxTransactionFeeUsd = some maxFee
  maxLpGas_eq : exactUsd i.policy.lp.maxLpGasUsd = some maxLpGas

/-- The pool is one the operator allowed and the fee is within both limits. -/
structure LpFigures.Within (host : Host) (f : LpFigures i) : Prop where
  protocol : i.action.protocol ∈ (i.policy.lp.allowedProtocols.lookup i.action.chain).getD []
  pool : ∃ entry ∈ i.policy.lp.allowedPools, entry.chain = i.action.chain ∧ entry.protocol = i.action.protocol ∧
    canonicalizeAddress host i.action.chain entry.poolId = canonicalizeAddress host i.action.chain f.lp.poolId
  fee : f.feeValue ≤ f.maxFee
  gas : f.feeValue ≤ f.maxLpGas

/-- The exact numbers behind an entry. -/
structure EntryFigures {i : RiskInput} (f : LpFigures i) where
  textB : String
  amountA : Int
  amountB : Int
  priceA : ℚ
  priceB : ℚ
  existing : ℚ
  maxCapital : ℚ
  maxDeployed : ℚ
  heldA : Int
  heldB : Int
  tvl : ℚ
  minTvl : ℚ
  textB_eq : f.lp.amountB = some textB
  amountA_eq : amountToBigint i.action.amountIn = .ok amountA
  amountB_eq : amountToBigint textB = .ok amountB
  priceA_eq : Priced (Engine.priceIn i) i.now i.policy.freshness.priceMaxAgeMs priceA
  priceB_eq : Priced (priceOut i) i.now i.policy.freshness.priceMaxAgeMs priceB
  existing_eq : (lpHolding i f.lp = none ∧ existing = 0) ∨
    ∃ h, lpHolding i f.lp = some h ∧ exactUsd h.capitalUsd = some existing
  maxCapital_eq : exactUsd i.policy.lp.maxCapitalPerLpUsd = some maxCapital
  maxDeployed_eq : exactUsd i.policy.maxTotalDeployedUsd = some maxDeployed
  heldA_eq : Holds (balanceIn i) i.now i.policy.freshness.balanceMaxAgeMs heldA
  heldB_eq : Holds (balanceOut i) i.now i.policy.freshness.balanceMaxAgeMs heldB
  tvl_eq : ∃ s, liquidityDatum i = some s ∧ exactUsd s.value = some tvl
  minTvl_eq : exactUsd i.policy.lp.minPoolLiquidityUsd = some minTvl

/-- The exact USD value of both legs. -/
def EntryFigures.value {f : LpFigures i} (e : EntryFigures f) : ℚ :=
  worth e.amountA i.action.tokenIn.decimals e.priceA + worth e.amountB i.action.tokenOut.decimals e.priceB

structure EntryFigures.Within (host : Host) {f : LpFigures i} (e : EntryFigures f) : Prop where
  capital : e.existing + e.value ≤ e.maxCapital
  deployed : f.deployed + f.lpDeployed + e.value ≤ e.maxDeployed
  balanceA : (if isNativeToken host i.action.chain i.action.tokenIn.address then e.amountA + f.fee else e.amountA) ≤
    e.heldA
  balanceB : e.amountB ≤ e.heldB
  tvl : e.minTvl ≤ e.tvl

/-- The LP tokens the snapshot holds in the pool of a leg. -/
def HoldsLp (i : RiskInput) (lp : LpLeg) (held : Int) : Prop :=
  ∃ h, lpHolding i lp = some h ∧ amountToBigint h.lpTokens = .ok held

/-- What a removal burns, against what is held. -/
def RemovalSound (i : RiskInput) (lp : LpLeg) : Prop :=
  ∃ text burned held, lp.lpTokens = some text ∧ amountToBigint text = .ok burned ∧ HoldsLp i lp held ∧
    0 < burned ∧ burned ≤ held

/-- What a claim collects, at exact value, from an open position of the pool it calls. -/
def ClaimSound (i : RiskInput) (lp : LpLeg) : Prop :=
  i.action.contract = lp.poolId ∧ (∃ held, HoldsLp i lp held ∧ 0 < held) ∧
    ∃ c a b pA pB threshold, lp.claimable = some c ∧ amountToBigint c.amountA = .ok a ∧ amountToBigint c.amountB = .ok b ∧
      Priced (priceIn i) i.now i.policy.freshness.priceMaxAgeMs pA ∧
      Priced (priceOut i) i.now i.policy.freshness.priceMaxAgeMs pB ∧
      exactUsd i.policy.lp.minFeeThresholdUsd = some threshold ∧
      threshold ≤ worth a i.action.tokenIn.decimals pA + worth b i.action.tokenOut.decimals pB

/-- Fewer rebalances today than the limit, in either store. -/
def RebalanceSound (i : RiskInput) (lp : LpLeg) : Prop :=
  (i.state.ledger.lpRebalancesToday (lpPoolKey i.action.chain lp.poolId)).getD 0 < i.policy.lp.maxRebalancePerDay ∧
    ((i.snapshot.lp.bind fun s => s.rebalancesToday (lpPoolKey i.action.chain lp.poolId)).getD 0) <
      i.policy.lp.maxRebalancePerDay

theorem lp_flags (hk : isLpKind i.action.kind = true) : isLp i.action = true ∧ isApprove i.action = false ∧
    isExit i.action = false ∧ isLpApprove i.action = false ∧ (isLpEntry i.action = true →
      isLpExit i.action = false ∧ isLpClaim i.action = false) := by
  unfold isLp isApprove isExit isLpApprove isLpEntry isLpExit isLpClaim isApprove
  cases h : i.action.kind <;> simp_all [isLpKind]

/-- **What an LP kind shares**: the pool is allowed and the exact fee is within both limits. -/
theorem Run.AllClear.lp_shared {r : Run host i} (h : r.AllClear) (hk : isLpKind i.action.kind = true) {lp : LpLeg}
    (hlp : i.action.lp = some lp) :
    ∃ (f : LpFigures i) (_ : AccountMicros i r f.toAccountFigures) (l : LpRun i r.amounts lp),
      f.lp = lp ∧ f.Within host ∧ Clear l.checks := by
  obtain ⟨hLp, -, -, -, -⟩ := lp_flags hk
  obtain ⟨account, ⟨micros⟩⟩ := h.account
  obtain ⟨l, hl⟩ := (runLpChecks_ok hlp hLp).1 r.lp_ok
  have hlc : Clear l.checks := hl ▸ h.lp
  obtain ⟨hProt, hPool⟩ := (poolChecks_clear hlp (by simp [hLp])).1 h.pool
  obtain ⟨maxFee, hMaxFee, hFeeC⟩ := feeChecks_clear r.fee_ok
  obtain ⟨v, hv, hvF⟩ := within_iff.1 (hFeeC.1 h.fee)
  obtain ⟨maxGas, hMaxGas, hGasC⟩ := lpGasChecks_clear l.gas_ok
  have hgas := hlc
  simp only [LpRun.checks, clear_append] at hgas
  obtain ⟨w, hw, hwG⟩ := within_iff.1 (hGasC.1 hgas.1.1.2)
  obtain rfl := Option.some.inj (hv.symm.trans micros.feeUsd_eq)
  obtain rfl := Option.some.inj (hw.symm.trans micros.feeUsd_eq)
  refine ⟨⟨account, lp, _, _, hlp, exactUsd_of_micros hMaxFee, exactUsd_of_micros hMaxGas⟩, micros, l, rfl, ?_, hlc⟩
  refine ⟨hProt, ?_, ?_, ?_⟩
  · unfold poolAllowed at hPool
    obtain ⟨entry, hmem, he⟩ := List.any_eq_true.1 hPool
    simp only [Bool.and_eq_true, beq_iff_eq] at he
    exact ⟨entry, hmem, he.1.1, he.1.2, he.2⟩
  · exact micros.feeValue_le.trans (div_le_div_of_nonneg_right (Int.cast_le.2 hvF) (by norm_num))
  · exact micros.feeValue_le.trans (div_le_div_of_nonneg_right (Int.cast_le.2 hwG) (by norm_num))

theorem lpLegRules_amountB {a : ProposedAction} {lp : LpLeg} (h : lpLegRules a lp = [])
    (hk : a.kind = .lp_add ∨ a.kind = .lp_rebalance) : ∃ text, lp.amountB = some text := by
  simp only [lpLegRules, List.append_eq_nil_iff, expect_eq_nil] at h
  have hb := h.1.1.1.1.1
  cases hl : lp.amountB with
  | none => rcases hk with hk | hk <;> simp [hk, hl] at hb
  | some text => exact ⟨text, rfl⟩

theorem existing_reading {lp : LpLeg} {m : Int} (h : Engine.existingCapital i lp = .ok m) :
    (lpHolding i lp = none ∧ (m : ℚ) / 10 ^ 6 = 0) ∨
      ∃ held, lpHolding i lp = some held ∧ exactUsd held.capitalUsd = some ((m : ℚ) / 10 ^ 6) := by
  unfold Engine.existingCapital at h
  split at h
  · rename_i held hh
    exact .inr ⟨held, hh, exactUsd_of_micros h⟩
  · rename_i hh
    obtain rfl := pure_ok.1 h
    exact .inl ⟨hh, by simp⟩

/-- **What an entry commits**: its two amounts at the two usable prices, each rounded up. -/
theorem entryCapital_eq {r : Run host i} (h : r.AllClear) (hw : i.action.WellFormed)
    (hk : i.action.kind = .lp_add ∨ i.action.kind = .lp_rebalance) {lp : LpLeg} (hlp : i.action.lp = some lp) :
    ∃ text amountB priceA priceB, lp.amountB = some text ∧ amountToBigint text = .ok amountB ∧
      usablePrice (priceIn i) = some priceA ∧ usablePrice (priceOut i) = some priceB ∧ r.entryCapital = some
        (Rounding.up (r.amounts.amountIn * priceA) (usdUnit i.action.tokenIn.decimals) +
          Rounding.up (amountB * priceB) (usdUnit i.action.tokenOut.decimals)) := by
  have he : isLpEntry i.action = true := by rcases hk with hk | hk <;> simp [isLpEntry, hk]
  have hApp : isApprove i.action = false := by rcases hk with hk | hk <;> simp [isApprove, hk]
  obtain ⟨hLegFields, hLegRules⟩ := hw.lp lp hlp
  obtain ⟨text, hText⟩ := lpLegRules_amountB hLegRules hk
  have hB : isAmount text = true := by
    simp only [lpLegIssues, List.append_eq_nil_iff, hText, optionIssues, amountIssue, expect_eq_nil] at hLegFields
    exact hLegFields.1.1.1.1.2
  have hBok : amountToBigint text = .ok (Decimal.natOf text.toList : Int) := amountToBigint_ok.2 ⟨hB, rfl⟩
  obtain ⟨hIn, -, -, -⟩ := deriveAmounts_ok.1 r.amounts_ok
  obtain ⟨pA, hpA⟩ := Option.isSome_iff_exists.1 h.fresh.priceIn.2
  obtain ⟨pB, hpB⟩ := Option.isSome_iff_exists.1 (h.fresh.priceOut hApp).2
  have hCap := lpEntryCapital_ok r.entryCapital_ok hlp hText he (by have := hw.tokenIn; omega)
    (by have := hw.tokenOut; omega) hIn hBok
  rw [hpA, hpB, Option.bind_some, Option.map_some] at hCap
  exact ⟨text, _, pA, pB, hText, hBok, hpA, hpB, hCap⟩

/-- **An entry finds room beside both ledgers** for what it commits. -/
theorem entryCapital_within {r : Run host i} (h : r.AllClear) (hk : i.action.kind = .lp_add ∨ i.action.kind = .lp_rebalance) :
    ∃ deployed lpDeployed maxDeployed capital, usdToMicros i.state.ledger.deployedUsd = .ok deployed ∧
      Engine.lpDeployed i = .ok lpDeployed ∧ usdToMicros i.policy.maxTotalDeployedUsd = .ok maxDeployed ∧
      r.entryCapital = some capital ∧ deployed + lpDeployed + capital ≤ maxDeployed := by
  have he : isLpEntry i.action = true := by rcases hk with hk | hk <;> simp [isLpEntry, hk]
  obtain ⟨hLp, hApp, hExit, -, hNot⟩ := lp_flags (i := i) (by rcases hk with hk | hk <;> simp [isLpKind, hk])
  obtain ⟨hLpExit, hClaim⟩ := hNot he
  obtain ⟨deployed, lpDeployed, maxDeployed, hD, hLD, hMaxD, hDepC⟩ := deployedChecks_clear r.deployed_ok
  obtain ⟨u, hu, huM⟩ := within_iff.1 (hDepC.1 h.deployed (by simp [hExit, hApp, hLpExit, hClaim]))
  simp only [deployedAddition, hLp, he, if_true] at hu
  obtain ⟨capital, hCap, rfl⟩ := Option.map_eq_some_iff.1 hu
  exact ⟨deployed, lpDeployed, maxDeployed, capital, hD, hLD, hMaxD, hCap, huM⟩

/-- **An entry stays within the pool's cap, the total cap, both balances and the pool's depth.** -/
theorem entry_sound {r : Run host i} (h : r.AllClear) (hw : i.action.WellFormed)
    (hk : i.action.kind = .lp_add ∨ i.action.kind = .lp_rebalance) {f : LpFigures i}
    (micros : AccountMicros i r f.toAccountFigures) {l : LpRun i r.amounts f.lp} (hl : Clear l.checks) :
    ∃ e : EntryFigures f, e.Within host := by
  have he : isLpEntry i.action = true := by rcases hk with hk | hk <;> simp [isLpEntry, hk]
  obtain ⟨hLp, hApp, hExit, hLpApp, hNot⟩ := lp_flags (i := i) (by rcases hk with hk | hk <;> simp [isLpKind, hk])
  obtain ⟨hLpExit, hClaim⟩ := hNot he
  obtain ⟨text, amountB, pA, pB, hText, hBok, hpA, hpB, hCap⟩ := entryCapital_eq h hw hk f.lp_eq
  obtain ⟨hIn, -, -, -⟩ := deriveAmounts_ok.1 r.amounts_ok
  obtain ⟨existing, maxCapital, hEx, hMaxC, hCapC⟩ := capitalChecks_clear r.capital_ok f.lp_eq he
  obtain ⟨t, ht, htM⟩ := within_iff.1 (hCapC.1 h.capital)
  obtain ⟨deployed, lpDeployed, maxDeployed, capital, hD, hLD, hMaxD, hC, huM⟩ := entryCapital_within h hk
  obtain rfl := Except.ok.inj (hD.symm.trans micros.deployed_ok)
  obtain rfl := Except.ok.inj (hLD.symm.trans micros.lpDeployed_ok)
  obtain rfl := Option.some.inj (hC.symm.trans hCap)
  rw [hCap] at ht
  obtain rfl := Option.some.inj ht
  obtain ⟨held, nativeHeld, hHeld, -, hBalC⟩ := balanceChecks_clear r.balances_ok
  have hsp : spendsIn i.action = true := by simp [spendsIn, hApp, hLpExit, hClaim]
  obtain ⟨heldA, rfl, hCover⟩ := atLeast_iff.1 ((hBalC.1 h.balances).1 hsp)
  simp only [LpRun.checks, clear_append] at hl
  obtain ⟨minPool, tvl, hMin, hTvl, hTvlC⟩ := lpPoolLiquidityChecks_clear l.poolLiquidity_ok he
  obtain ⟨tvlM, rfl, hTvlGe⟩ := atLeast_iff.1 (hTvlC.1 hl.1.1.1.1.1.2)
  obtain ⟨s, hs, hsM⟩ := usdDatum_some hTvl
  obtain ⟨heldB, needed, hHeldB, hNeeded, hTokB⟩ := lpTokenBChecks_clear l.tokenB_ok he hText
  obtain ⟨hFreshB, hGeB⟩ := hTokB.1 hl.2
  obtain ⟨heldBm, rfl, hGe⟩ := atLeast_iff.1 hGeB
  obtain rfl := Except.ok.inj (hBok.symm.trans hNeeded)
  have hA : worth r.amounts.amountIn i.action.tokenIn.decimals ((pA : ℚ) / 10 ^ 18) ≤ _ := worth_le_of_up le_rfl
  have hBw : worth amountB i.action.tokenOut.decimals ((pB : ℚ) / 10 ^ 18) ≤ _ := worth_le_of_up le_rfl
  have hsum := add_le_add hA hBw
  rw [← add_div, ← Int.cast_add] at hsum
  refine ⟨⟨text, r.amounts.amountIn, _, _, _, _, _, _, heldA, heldBm, _, _, hText, hIn, hBok,
    priced_of_usable h.fresh.priceIn.1 hpA, priced_of_usable (h.fresh.priceOut hApp).1 hpB, existing_reading hEx,
    exactUsd_of_micros hMaxC, exactUsd_of_micros hMaxD, holds_of_fresh (h.fresh.balanceIn hLpExit hClaim) (hHeld hsp),
    holds_of_fresh hFreshB hHeldB, ⟨s, hs, exactUsd_of_micros hsM⟩, exactUsd_of_micros hMin⟩, ?_⟩
  constructor
  · exact add_le rfl hsum htM
  · exact add_le micros.capital_eq hsum huM
  · rw [micros.fee_eq]
    exact hCover
  · exact hGe
  · exact div_le_div_of_nonneg_right (Int.cast_le.2 hTvlGe) (by norm_num)

theorem holdsLp_of_pos {lp : LpLeg} {held : Int} (h : heldLpTokens i lp = .ok held) (hpos : 0 < held) :
    HoldsLp i lp held := by
  unfold heldLpTokens at h
  split at h
  · rename_i holding hh
    exact ⟨holding, hh, h⟩
  · obtain rfl := pure_ok.1 h
    omega

theorem lpLegRules_lpTokens {a : ProposedAction} {lp : LpLeg} (hf : lpLegIssues ["lp"] lp = [])
    (h : lpLegRules a lp = []) (hk : a.kind = .lp_remove) :
    ∃ text, lp.lpTokens = some text ∧ isAmount text = true ∧ text ≠ "0" := by
  simp only [lpLegRules, List.append_eq_nil_iff, expect_eq_nil] at h
  have ht := h.1.1.1.2
  cases hl : lp.lpTokens with
  | none => simp [hk, hl] at ht
  | some text =>
    simp only [lpLegIssues, List.append_eq_nil_iff, hl, optionIssues, amountIssue, expect_eq_nil] at hf
    refine ⟨text, rfl, hf.1.2, ?_⟩
    rintro rfl
    simp [hk, hl] at ht

/-- **A removal burns a positive amount no larger than what is held.** -/
theorem removal_sound (hw : i.action.WellFormed) (hk : i.action.kind = .lp_remove) {am : Amounts} {lp : LpLeg}
    (hlp : i.action.lp = some lp) {l : LpRun i am lp} (hl : Clear l.checks) : RemovalSound i lp := by
  have he : isLpExit i.action = true := by simp [isLpExit, hk]
  obtain ⟨hf, hr⟩ := hw.lp lp hlp
  obtain ⟨text, ht, hAmt, h0⟩ := lpLegRules_lpTokens hf hr hk
  obtain ⟨held, wanted, hHeld, hWanted, hC⟩ := lpPositionChecks_clear l.position_ok (by simp [he])
  simp only [LpRun.checks, clear_append] at hl
  obtain ⟨hpos, hle⟩ := hC.1 hl.1.1.1.1.1.1
  unfold wantedLpTokens at hWanted
  rw [if_pos he, ht, Option.getD_some] at hWanted
  obtain ⟨-, rfl⟩ := amountToBigint_ok.1 hWanted
  refine ⟨text, _, held, ht, hWanted, holdsLp_of_pos hHeld hpos, ?_, hle he⟩
  have := Decimal.natOf_pos hAmt fun h => h0 (String.toList_injective h)
  omega

/-- **A claim calls the pool of an open position and is worth collecting.** -/
theorem claim_sound {r : Run host i} (h : r.AllClear) (hw : i.action.WellFormed) (hk : i.action.kind = .lp_claim)
    {lp : LpLeg} (hlp : i.action.lp = some lp) {l : LpRun i r.amounts lp} (hl : Clear l.checks) : ClaimSound i lp := by
  have hc : isLpClaim i.action = true := by simp [isLpClaim, hk]
  have hApp : isApprove i.action = false := by simp [isApprove, hk]
  obtain ⟨-, hr⟩ := hw.lp lp hlp
  have hContract : i.action.contract = lp.poolId := by
    simp only [lpLegRules, List.append_eq_nil_iff, expect_eq_nil] at hr
    simpa [hk] using hr.1.2
  simp only [LpRun.checks, clear_append] at hl
  obtain ⟨held, wanted, hHeld, -, hC⟩ := lpPositionChecks_clear l.position_ok (by simp [hc])
  obtain ⟨hpos, -⟩ := hC.1 hl.1.1.1.1.1.1
  obtain ⟨value, threshold, hValue, hThr, hClaimC⟩ := lpClaimChecks_clear l.claim_ok hc
  obtain ⟨v, rfl, hGe⟩ := atLeast_iff.1 (hClaimC.1 hl.1.2)
  obtain ⟨c, pA, pB, a, b, hcl, hpA, hpB, ha, hb, rfl⟩ := claimValue_some hValue (by have := hw.tokenIn; omega)
    (by have := hw.tokenOut; omega)
  refine ⟨hContract, ⟨held, holdsLp_of_pos hHeld hpos, hpos⟩, c, a, b, _, _, _, hcl, ha, hb,
    priced_of_usable h.fresh.priceIn.1 hpA, priced_of_usable (h.fresh.priceOut hApp).1 hpB, exactUsd_of_micros hThr, ?_⟩
  have hA : _ ≤ worth a i.action.tokenIn.decimals ((pA : ℚ) / 10 ^ 18) := le_worth_of_down le_rfl
  have hB : _ ≤ worth b i.action.tokenOut.decimals ((pB : ℚ) / 10 ^ 18) := le_worth_of_down le_rfl
  have hsum := add_le_add hA hB
  rw [← add_div, ← Int.cast_add] at hsum
  exact (div_le_div_of_nonneg_right (Int.cast_le.2 hGe) (by norm_num)).trans hsum

theorem rebalance_sound (hk : i.action.kind = .lp_rebalance) {am : Amounts} {lp : LpLeg} {l : LpRun i am lp}
    (hl : Clear l.checks) : RebalanceSound i lp := by
  simp only [LpRun.checks, clear_append] at hl
  have hcount := (lpRebalanceChecks_clear hk).1 hl.1.1.1.1.2
  exact ⟨(le_max_left _ _).trans_lt hcount, (le_max_right _ _).trans_lt hcount⟩

/-! ### The proposer's hints -/

def withLp (i : RiskInput) (lp : LpLeg) : RiskInput := { i with action := { i.action with lp := some lp } }

def withHints (lp : LpLeg) (capitalUsd claimableFeesUsd : String) : LpLeg := { lp with capitalUsd, claimableFeesUsd }

variable {lp : LpLeg} {c f : String}

theorem runLpChecks_withHints : runLpChecks (withLp i (withHints lp c f)) = runLpChecks (withLp i lp) := by
  by_cases h : isLpKind i.action.kind = true
  · have h1 : isLp (withLp i (withHints lp c f)).action = true := h
    have h2 : isLp (withLp i lp).action = true := h
    unfold runLpChecks
    rw [h1, h2]
    rfl
  · rw [Bool.not_eq_true] at h
    have h1 : isLp (withLp i (withHints lp c f)).action = false := h
    have h2 : isLp (withLp i lp).action = false := h
    unfold runLpChecks
    rw [h1, h2]
    rfl

/-- **No check after tier 0 reads a hint.** -/
theorem runRemainingChecks_withHints :
    runRemainingChecks host (withLp i (withHints lp c f)) = runRemainingChecks host (withLp i lp) := by
  generalize hj : withLp i (withHints lp c f) = j
  generalize hk : withLp i lp = k
  have h1 : lpEntryCapital j = lpEntryCapital k := by subst hj hk; rfl
  have h2 : capitalChecks j = capitalChecks k := by subst hj hk; rfl
  have h3 : positionChecks host j = positionChecks host k := by subst hj hk; rfl
  have h4 : deriveAmounts j = deriveAmounts k := by subst hj hk; rfl
  have h5 : sizeChecks j = sizeChecks k := by subst hj hk; rfl
  have h6 : lossChecks j = lossChecks k := by subst hj hk; rfl
  have h7 : deployedChecks j = deployedChecks k := by subst hj hk; rfl
  have h8 : qualityChecks j = qualityChecks k := by subst hj hk; rfl
  have h9 : marketChecks j = marketChecks k := by subst hj hk; rfl
  have h10 : feeChecks j = feeChecks k := by subst hj hk; rfl
  have h11 : liquidityChecks j = liquidityChecks k := by subst hj hk; rfl
  have h12 : balanceChecks host j = balanceChecks host k := by subst hj hk; rfl
  have h13 : runLpChecks j = runLpChecks k := by subst hj hk; exact runLpChecks_withHints
  have h14 : chainChecks j = chainChecks k := by subst hj hk; rfl
  have h15 : poolChecks host j = poolChecks host k := by subst hj hk; rfl
  have h16 : freshnessChecks j = freshnessChecks k := by subst hj hk; rfl
  have h17 : allowlistChecks host j = allowlistChecks host k := by subst hj hk; rfl
  have h18 : pacingChecks j = pacingChecks k := by subst hj hk; rfl
  unfold runRemainingChecks
  rw [h1, h2, h3, h4, h5, h6, h7, h8, h9, h10, h11, h12, h13, h14, h15, h16, h17, h18]

theorem issues_withHints (hc : isSignedUsd c = true) (hf : isSignedUsd f = true) (hc' : isSignedUsd lp.capitalUsd = true)
    (hf' : isSignedUsd lp.claimableFeesUsd = true) :
    (withLp i (withHints lp c f)).action.issues = (withLp i lp).action.issues := by
  have hleg : lpLegIssues ["lp"] (withHints lp c f) = lpLegIssues ["lp"] lp := by
    simp [lpLegIssues, withHints, hc, hf, hc', hf', expect]
  have hfields : (withLp i (withHints lp c f)).action.fieldIssues = (withLp i lp).action.fieldIssues := by
    unfold ProposedAction.fieldIssues withLp optionIssues
    simp only [hleg]
  have hcross : (withLp i (withHints lp c f)).action.crossIssues = (withLp i lp).action.crossIssues := rfl
  unfold ProposedAction.issues
  rw [hfields, hcross]

/-- **The hints decide nothing**: any well-formed hints give the same decision. -/
theorem evaluate_withHints (hc : isSignedUsd c = true) (hf : isSignedUsd f = true)
    (hc' : isSignedUsd lp.capitalUsd = true) (hf' : isSignedUsd lp.claimableFeesUsd = true) :
    evaluate host (withLp i (withHints lp c f)) = evaluate host (withLp i lp) := by
  have hi := issues_withHints (i := i) hc hf hc' hf'
  have h0 : tier0Checks host (withLp i (withHints lp c f)) = tier0Checks host (withLp i lp) := by
    unfold tier0Checks schemaActionCheck schemaChecks
    simp only [ProposedAction.Valid, hi]
    rfl
  unfold evaluate
  rw [h0, runRemainingChecks_withHints]
  rfl

/-- **An allowed LP action keeps every limit of its kind in exact arithmetic**, whatever its hints say. -/
theorem allowed_lp_sound {d : RiskDecision} (hk : isLpKind i.action.kind = true) (he : evaluate host i = .ok d)
    (ha : d.allowed = true) :
    ∃ f : LpFigures i, f.Within host ∧
      (i.action.kind = .lp_add ∨ i.action.kind = .lp_rebalance → ∃ e : EntryFigures f, e.Within host) ∧
      (i.action.kind = .lp_rebalance → RebalanceSound i f.lp) ∧
      (i.action.kind = .lp_remove → RemovalSound i f.lp) ∧
      (i.action.kind = .lp_claim → ClaimSound i f.lp) ∧
      ∀ capitalUsd claimableFeesUsd, isSignedUsd capitalUsd = true → isSignedUsd claimableFeesUsd = true →
        evaluate host (withLp i (withHints f.lp capitalUsd claimableFeesUsd)) = evaluate host i := by
  obtain ⟨h0, r, h⟩ := allows_iff.1 ⟨d, he, ha⟩
  have hw := h0.action.wellFormed
  obtain ⟨lp, hlp⟩ := ProposedAction.Valid.lp_isSome h0.action hk
  obtain ⟨f, micros, l, rfl, hf, hl⟩ := h.lp_shared hk hlp
  refine ⟨f, hf, fun hk' => entry_sound h hw hk' micros hl, fun hk' => rebalance_sound hk' hl,
    fun hk' => removal_sound hw hk' hlp hl, fun hk' => claim_sound h hw hk' hlp hl, ?_⟩
  intro c g hc hg
  have hleg := (hw.lp f.lp hlp).1
  simp only [lpLegIssues, List.append_eq_nil_iff, expect_eq_nil] at hleg
  rw [evaluate_withHints hc hg hleg.1.1.1.1.1.1.2 hleg.1.1.1.1.1.2]
  have hi : withLp i f.lp = i := by
    unfold withLp
    rw [← hlp]
  rw [hi]

/-- The default policy with one pool opted in. -/
def lpPolicy : RiskPolicy :=
  { defaultRiskPolicy CHAIN_IDS with
    lp :=
      { maxCapitalPerLpUsd := "100"
        allowedPools := [⟨.bsc, "pancakeswap-v2", "0x16B9a82891338f9bA80E2D6970FddA79D1eb0daE"⟩]
        allowedProtocols := [(.bsc, ["pancakeswap-v2"])]
        minPoolLiquidityUsd := "500000", maxRebalancePerDay := 4, maxRebalanceSlippageBps := 50, maxLpGasUsd := "2"
        minFeeThresholdUsd := "5" } }

def paperAdd : ProposedAction :=
  { schemaVersion := 1
    actionId := "6f1c1f0e-0000-4000-8000-00000000a002"
    decisionCycleId := "6f1c1f0e-0000-4000-8000-00000000c9c2"
    idempotencyKey := "d1db184aaf04f5606d0332056a9ceb53c4200d74ccc00d539d043748082c65c0"
    proposedAt := 1700000000000
    mode := .PAPER
    source := .scheduler
    chain := .bsc
    kind := .lp_add
    protocol := "pancakeswap-v2"
    contract := "0x10ed43c718714eb63d5aa57b78b54704e256024e"
    programIds := none
    reduceOnly := false
    tokenIn := ⟨"0x55d398326f99059ff775485246999027b3197955", 18⟩
    tokenOut := ⟨"0xbb4cdb9cbd36b01bd1cbaebf2de08d9173bc095c", 18⟩
    amountIn := "20000000000000000000"
    quote := some
      { expectedAmountOut := "1000000000000000000", minAmountOut := "995000000000000000", slippageBps := 50
        priceImpactBps := 0, quotedAt := 1700000000000, source := "pancakeswap-v2"
        marketId := "0x16b9a82891338f9ba80e2d6970fdda79d1eb0dae" }
    feeEstimate := ⟨1700000000000, .evm "300000" "1000000000"⟩
    lp := some
      { poolId := "0x16b9a82891338f9ba80e2d6970fdda79d1eb0dae", capitalUsd := "40", rebalanceIndexToday := 0
        claimableFeesUsd := "0", amountB := some "33333333333333333", minAmountA := some "19900000000000000000"
        minAmountB := some "33166666666666666", lpTokens := none, claimable := none }
    rationale := none }

def paperAddHost : Host :=
  hostKnowing ("atra-action-v1|6f1c1f0e-0000-4000-8000-00000000c9c2|bsc|lp_add|pancakeswap-v2|" ++
    "0x55d398326f99059ff775485246999027b3197955|0xbb4cdb9cbd36b01bd1cbaebf2de08d9173bc095c|20000000000000000000|false")
    "d1db184aaf04f5606d0332056a9ceb53c4200d74ccc00d539d043748082c65c0"

def paperAddInput : RiskInput :=
  { now := 1700000001000, policy := lpPolicy, policyHash := "", action := paperAdd, state := paperState
    snapshot :=
      { prices := recordOf [("bsc:0x55d398326f99059ff775485246999027b3197955", stamp "1"),
          ("bsc:0xbb4cdb9cbd36b01bd1cbaebf2de08d9173bc095c", stamp "600.5"),
          ("bsc:0xeeeeeeeeeeeeeeeeeeeeeeeeeeeeeeeeeeeeeeee", stamp "600.5")]
        liquidity := recordOf []
        balances := recordOf [("bsc:0x55d398326f99059ff775485246999027b3197955", stamp "25000000000000000000"),
          ("bsc:0xbb4cdb9cbd36b01bd1cbaebf2de08d9173bc095c", stamp "40000000000000000"),
          ("bsc:0xeeeeeeeeeeeeeeeeeeeeeeeeeeeeeeeeeeeeeeee", stamp "1000000000000000000")]
        poolLiquidity := some (recordOf [("bsc:0x16b9a82891338f9ba80e2d6970fdda79d1eb0dae", stamp "2500000")])
        lp := some { deployedUsd := "30.000000", rebalancesToday := recordOf []
                     positions := recordOf [("bsc:0x16b9a82891338f9ba80e2d6970fdda79d1eb0dae", ⟨"700", "30.000000"⟩)] } } }

theorem allowed_paperAdd_sound :
    ∃ f : LpFigures paperAddInput, f.Within paperAddHost ∧
      (paperAdd.kind = .lp_add ∨ paperAdd.kind = .lp_rebalance → ∃ e : EntryFigures f, e.Within paperAddHost) ∧
      (paperAdd.kind = .lp_rebalance → RebalanceSound paperAddInput f.lp) ∧
      (paperAdd.kind = .lp_remove → RemovalSound paperAddInput f.lp) ∧
      (paperAdd.kind = .lp_claim → ClaimSound paperAddInput f.lp) ∧
      ∀ capitalUsd claimableFeesUsd, isSignedUsd capitalUsd = true → isSignedUsd claimableFeesUsd = true →
        evaluate paperAddHost (withLp paperAddInput (withHints f.lp capitalUsd claimableFeesUsd)) =
          evaluate paperAddHost paperAddInput := by
  have h : Allows paperAddHost paperAddInput := by decide +kernel
  obtain ⟨d, he, ha⟩ := h
  exact allowed_lp_sound rfl he ha

end Engine
end Atra
