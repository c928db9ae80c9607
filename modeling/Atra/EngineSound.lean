import Atra.EngineSpec
/-!
# EngineSound — an allowed action in exact arithmetic

The engine compares rounded micro-USD texts; an operator thinks in dollars.  `SwapFigures` and `LpFigures` are the exact
rational numbers behind an input, each tied to the text it is read from, and the two main results say that an allowed
input keeps every limit on those numbers, with every datum it uses present and fresh.
-/
namespace Atra
namespace Engine

open Money

variable {host : Host} {i : RiskInput}

/-! ## Exact readings -/

/-- A datum that is a positive price `p` and not too old. -/
def Priced (datum : Option Stamped) (now maxAgeMs : Int) (p : ℚ) : Prop :=
  ∃ s, datum = some s ∧ exactPrice s.value = some p ∧ 0 < p ∧ now - s.stampedAt ≤ maxAgeMs

/-- A datum that is the base-unit amount `n` and not too old. -/
def Holds (datum : Option Stamped) (now maxAgeMs : Int) (n : Int) : Prop :=
  ∃ s, datum = some s ∧ amountToBigint s.value = .ok n ∧ now - s.stampedAt ≤ maxAgeMs

theorem exactUsd_of_micros {s : String} {m : Int} (h : usdToMicros s = .ok m) : exactUsd s = some ((m : ℚ) / 10 ^ 6) := by
  obtain ⟨v, hv, hm⟩ := usdToMicros_ok.1 h
  rw [hv, hm, mul_div_assoc, div_self (by norm_num), mul_one]

theorem priced_of_usable {datum : Option Stamped} {now maxAgeMs skewMs a : Int} (hf : Fresh datum now maxAgeMs skewMs)
    (ha : usablePrice datum = some a) : Priced datum now maxAgeMs ((a : ℚ) / 10 ^ 18) := by
  obtain ⟨s, rfl, hp, hpos⟩ := usablePrice_some ha
  obtain ⟨p, hv, hm⟩ := priceToAtto_ok.1 hp
  refine ⟨s, rfl, ?_, ?_, (fresh_some.1 hf).2⟩
  · rw [hv, hm, mul_div_assoc, div_self (by norm_num), mul_one]
  · have : (0 : ℚ) < a := by exact_mod_cast hpos
    positivity

theorem holds_of_fresh {datum : Option Stamped} {now maxAgeMs skewMs : Int} {held : Int}
    (hf : Fresh datum now maxAgeMs skewMs) (hd : amountDatum datum = .ok (some held)) :
    Holds datum now maxAgeMs held := by
  obtain ⟨s, rfl, hs⟩ := amountDatum_some hd
  exact ⟨s, rfl, hs, (fresh_some.1 hf).2⟩

/-- The exact value of an amount of a token at a price per whole token. -/
def worth (amount : Int) (decimals : Nat) (price : ℚ) : ℚ := (amount : ℚ) / 10 ^ decimals * price

theorem worth_le_of_up {amount a m : Int} {decimals : Nat} (h : Rounding.up (amount * a) (usdUnit decimals) ≤ m) :
    worth amount decimals ((a : ℚ) / 10 ^ 18) ≤ (m : ℚ) / 10 ^ 6 := by
  have h1 : exactValue amount decimals a * 10 ^ 6 ≤ Rounding.up (amount * a) (usdUnit decimals) :=
    exactValue_le_up amount decimals a
  have h2 : ((Rounding.up (amount * a) (usdUnit decimals) : Int) : ℚ) ≤ m := by exact_mod_cast h
  rw [le_div_iff₀ (by norm_num)]
  exact h1.trans h2

theorem le_worth_of_down {amount a m : Int} {decimals : Nat} (h : m ≤ Rounding.down (amount * a) (usdUnit decimals)) :
    (m : ℚ) / 10 ^ 6 ≤ worth amount decimals ((a : ℚ) / 10 ^ 18) := by
  have h1 : ((Rounding.down (amount * a) (usdUnit decimals) : Int) : ℚ) ≤ exactValue amount decimals a * 10 ^ 6 :=
    down_le_exactValue amount decimals a
  have h2 : ((m : Int) : ℚ) ≤ Rounding.down (amount * a) (usdUnit decimals) := by exact_mod_cast h
  rw [div_le_iff₀ (by norm_num)]
  exact h2.trans h1

/-! ## What every allowed action shares -/

/-- The exact numbers of the account an action is judged against. -/
structure AccountFigures (i : RiskInput) where
  realized : ℚ
  unrealized : ℚ
  dayStart : ℚ
  deployed : ℚ
  lpDeployed : ℚ
  fee : Int
  nativePrice : ℚ
  nativeHeld : Int
  realized_eq : exactUsd i.state.ledger.realizedPnlTodayUsd = some realized
  unrealized_eq : i.policy.includeUnrealized = true → exactUsd i.state.ledger.unrealizedPnlUsd = some unrealized
  dayStart_eq : i.policy.includeUnrealized = true →
    exactUsd i.state.ledger.unrealizedPnlAtDayStartUsd = some dayStart
  deployed_eq : exactUsd i.state.ledger.deployedUsd = some deployed
  lpDeployed_eq : (i.snapshot.lp = none ∧ lpDeployed = 0) ∨
    ∃ s, i.snapshot.lp = some s ∧ exactUsd s.deployedUsd = some lpDeployed
  fee_eq : feeInNativeUnits i.action.feeEstimate.detail = .ok fee
  nativePrice_eq : Priced (priceNative i) i.now i.policy.freshness.priceMaxAgeMs nativePrice
  nativeHeld_eq : Holds (balanceNative i) i.now i.policy.freshness.balanceMaxAgeMs nativeHeld

/-- Today's loss: realized, and unrealized where the policy counts it, floored at zero. -/
def AccountFigures.loss {i : RiskInput} (f : AccountFigures i) : ℚ :=
  max 0 (-f.realized + if i.policy.includeUnrealized then -(f.unrealized - f.dayStart) else 0)

def AccountFigures.feeValue {i : RiskInput} (f : AccountFigures i) : ℚ :=
  worth f.fee (nativeTokenRef i.action.chain).decimals f.nativePrice

/-- The same numbers in micro-USD, as the checks compare them. -/
structure AccountMicros (i : RiskInput) (r : Run host i) (f : AccountFigures i) where
  deployed : Int
  lpDeployed : Int
  feeUsd : Int
  deployed_ok : usdToMicros i.state.ledger.deployedUsd = .ok deployed
  lpDeployed_ok : Engine.lpDeployed i = .ok lpDeployed
  feeUsd_eq : r.amounts.feeUsd = some feeUsd
  deployed_eq : f.deployed = (deployed : ℚ) / 10 ^ 6
  lpDeployed_eq : f.lpDeployed = (lpDeployed : ℚ) / 10 ^ 6
  loss_eq : f.loss = (r.loss.2 : ℚ) / 10 ^ 6
  fee_eq : f.fee = r.amounts.feeNative
  feeValue_le : f.feeValue ≤ (feeUsd : ℚ) / 10 ^ 6
  nativeHeld_ge : f.fee ≤ f.nativeHeld

theorem AccountMicros.capital_eq {r : Run host i} {f : AccountFigures i} (m : AccountMicros i r f) :
    f.deployed + f.lpDeployed = ((m.deployed + m.lpDeployed : Int) : ℚ) / 10 ^ 6 := by
  rw [m.deployed_eq, m.lpDeployed_eq, ← add_div, Int.cast_add]

theorem lpDeployed_reading {m : Int} (h : Engine.lpDeployed i = .ok m) :
    (i.snapshot.lp = none ∧ (m : ℚ) / 10 ^ 6 = 0) ∨
      ∃ s, i.snapshot.lp = some s ∧ exactUsd s.deployedUsd = some ((m : ℚ) / 10 ^ 6) := by
  unfold Engine.lpDeployed at h
  split at h
  · rename_i s hs
    exact .inr ⟨s, hs, exactUsd_of_micros h⟩
  · rename_i hs
    obtain rfl := pure_ok.1 h
    exact .inl ⟨hs, by simp⟩

theorem cast_max_div (x : Int) : ((max 0 x : Int) : ℚ) / 10 ^ 6 = max 0 ((x : ℚ) / 10 ^ 6) := by
  rcases le_total x 0 with h | h
  · have hq : (x : ℚ) / 10 ^ 6 ≤ 0 := div_nonpos_of_nonpos_of_nonneg (by exact_mod_cast h) (by norm_num)
    rw [max_eq_left h, max_eq_left hq]
    simp
  · have hq : 0 ≤ (x : ℚ) / 10 ^ 6 := div_nonneg (by exact_mod_cast h) (by norm_num)
    rw [max_eq_right h, max_eq_right hq]

/-- **The account of a clear run**: every shared number is present, and the micros the checks used bound it. -/
theorem Run.AllClear.account {r : Run host i} (h : r.AllClear) :
    ∃ f : AccountFigures i, Nonempty (AccountMicros i r f) := by
  obtain ⟨hIn, hV, hFee, hFeeUsd⟩ := deriveAmounts_ok.1 r.amounts_ok
  obtain ⟨worst, maxLoss, hLoss, -, -, -⟩ := lossChecks_clear r.loss_ok
  obtain ⟨realized, move, hRealized, hMove, hLossEq⟩ := computeDailyLoss_ok.1 hLoss
  obtain ⟨deployed, lpDeployed, -, hDeployed, hLpDeployed, -, -⟩ := deployedChecks_clear r.deployed_ok
  obtain ⟨_, nativeHeld, -, hHeld, hBal⟩ := balanceChecks_clear r.balances_ok
  obtain ⟨held, rfl, hGe⟩ := atLeast_iff.1 (hBal.1 h.balances).2
  obtain ⟨p, hp⟩ := Option.isSome_iff_exists.1 h.fresh.priceNative.2
  have hFeeVal := valueAt_ceil (nativeTokenRef_decimals_le _) hFeeUsd
  rw [hp, Option.map_some] at hFeeVal
  -- the unrealized figures exist only where the policy reads them
  have hun : ∃ unrealized dayStart : ℚ,
      (i.policy.includeUnrealized = true → exactUsd i.state.ledger.unrealizedPnlUsd = some unrealized) ∧
      (i.policy.includeUnrealized = true → exactUsd i.state.ledger.unrealizedPnlAtDayStartUsd = some dayStart) ∧
      (if i.policy.includeUnrealized then -(unrealized - dayStart) else 0) = (move : ℚ) / 10 ^ 6 := by
    have hm := unrealizedMove_ok.1 hMove
    by_cases hu : i.policy.includeUnrealized = true
    · rw [if_pos hu] at hm
      obtain ⟨now, anchor, hn, ha, rfl⟩ := hm
      refine ⟨_, _, fun _ => exactUsd_of_micros hn, fun _ => exactUsd_of_micros ha, ?_⟩
      rw [if_pos hu]
      push_cast
      ring
    · rw [if_neg hu] at hm
      exact ⟨0, 0, fun hu' => absurd hu' hu, fun hu' => absurd hu' hu, by rw [if_neg hu, ← hm]; simp⟩
  obtain ⟨unrealized, dayStart, hUn, hDs, hMoveEq⟩ := hun
  refine ⟨⟨_, unrealized, dayStart, _, _, r.amounts.feeNative, _, held, exactUsd_of_micros hRealized, hUn, hDs,
    exactUsd_of_micros hDeployed, lpDeployed_reading hLpDeployed, hFee, priced_of_usable h.fresh.priceNative.1 hp,
    holds_of_fresh h.fresh.balanceNative hHeld⟩, ⟨⟨deployed, lpDeployed, _, hDeployed, hLpDeployed, hFeeVal, rfl, rfl, ?_, rfl,
    worth_le_of_up le_rfl, hGe⟩⟩⟩
  show max 0 (-((realized : ℚ) / 10 ^ 6) + _) = _
  rw [hMoveEq, hLossEq, cast_max_div]
  push_cast
  congr 1
  ring

/-! ## An allowed swap -/

/-- The exact numbers behind a swap. -/
structure SwapFigures (i : RiskInput) extends AccountFigures i where
  quote : Quote
  amountIn : Int
  expectedOut : Int
  minOut : Int
  heldIn : Int
  priceIn : ℚ
  maxTrade : ℚ
  maxFee : ℚ
  maxLoss : ℚ
  maxDeployed : ℚ
  quote_eq : i.action.quote = some quote
  amountIn_eq : amountToBigint i.action.amountIn = .ok amountIn
  expectedOut_eq : amountToBigint quote.expectedAmountOut = .ok expectedOut
  minOut_eq : amountToBigint quote.minAmountOut = .ok minOut
  heldIn_eq : Holds (balanceIn i) i.now i.policy.freshness.balanceMaxAgeMs heldIn
  priceIn_eq : Priced (Engine.priceIn i) i.now i.policy.freshness.priceMaxAgeMs priceIn
  priceOut_eq : ∃ p, Priced (priceOut i) i.now i.policy.freshness.priceMaxAgeMs p
  maxTrade_eq : exactUsd i.policy.maxAmountPerTradeUsd = some maxTrade
  maxFee_eq : exactUsd i.policy.maxTransactionFeeUsd = some maxFee
  maxLoss_eq : exactUsd i.policy.maxDailyLossUsd = some maxLoss
  maxDeployed_eq : exactUsd i.policy.maxTotalDeployedUsd = some maxDeployed

/-- The exact USD value of what a swap puts in. -/
def SwapFigures.value (f : SwapFigures i) : ℚ := worth f.amountIn i.action.tokenIn.decimals f.priceIn

/-- The limits of a swap, on its exact numbers. -/
structure SwapFigures.Within (host : Host) (f : SwapFigures i) : Prop where
  size : f.value ≤ f.maxTrade
  fee : f.feeValue ≤ f.maxFee
  loss : f.loss + f.feeValue + f.value * i.policy.maxSlippageBps / 10000 ≤ f.maxLoss
  deployed : f.deployed + f.lpDeployed + f.value ≤ f.maxDeployed
  minOut : f.expectedOut * (10000 - i.policy.maxSlippageBps) ≤ f.minOut * 10000
  balance : (if isNativeToken host i.action.chain i.action.tokenIn.address then f.amountIn + f.fee else f.amountIn) ≤
    f.heldIn
  gas : f.fee ≤ f.nativeHeld
  quoteAge : i.now - f.quote.quotedAt ≤ i.policy.freshness.quoteMaxAgeMs
  feeAge : i.now - i.action.feeEstimate.estimatedAt ≤ i.policy.freshness.feeEstimateMaxAgeMs

theorem kind_flags (hk : i.action.kind = .swap) (hr : i.action.reduceOnly = false) :
    isExit i.action = false ∧ isApprove i.action = false ∧ isLp i.action = false ∧ isLpEntry i.action = false ∧
      isLpExit i.action = false ∧ isLpClaim i.action = false ∧ isLpApprove i.action = false := by
  simp [isExit, isApprove, isLp, isLpKind, isLpEntry, isLpExit, isLpClaim, isLpApprove, hk, hr]

theorem ProposedAction.Valid.quote_isSome (h : i.action.Valid) (hk : i.action.kind = .swap) :
    ∃ q, i.action.quote = some q := by
  have hc := h.cross
  simp only [ProposedAction.crossIssues, quoteRules, hk, List.append_eq_nil_iff, expect_eq_nil] at hc
  have hq := hc.1.1.1.2.1
  cases hq' : i.action.quote with
  | none => simp [hq'] at hq
  | some q => exact ⟨q, rfl⟩

/-- The two parts of a swap's worst case, each rounded up on its own, bound the exact worst case. -/
theorem worst_le {loss value fee : ℚ} {lossM valueM feeM maxM : Int} {bps : Nat} (hl : loss = (lossM : ℚ) / 10 ^ 6)
    (hv : value ≤ (valueM : ℚ) / 10 ^ 6) (hf : fee ≤ (feeM : ℚ) / 10 ^ 6)
    (h : lossM + (feeM + Rounding.up (valueM * bps) 10000) ≤ maxM) :
    loss + fee + value * bps / 10000 ≤ (maxM : ℚ) / 10 ^ 6 := by
  have hb : (0 : ℚ) ≤ bps := Nat.cast_nonneg bps
  have hup : (valueM : ℚ) * bps / 10000 ≤ (Rounding.up (valueM * bps) 10000 : Int) := by
    have := Rounding.div_le_up (valueM * bps) (show (0 : Int) < 10000 by decide)
    push_cast at this
    exact this
  have hvb : value * bps / 10000 ≤ ((Rounding.up (valueM * bps) 10000 : Int) : ℚ) / 10 ^ 6 :=
    calc value * bps / 10000 ≤ (valueM : ℚ) / 10 ^ 6 * bps / 10000 :=
          div_le_div_of_nonneg_right (mul_le_mul_of_nonneg_right hv hb) (by norm_num)
      _ = (valueM : ℚ) * bps / 10000 / 10 ^ 6 := by ring
      _ ≤ ((Rounding.up (valueM * bps) 10000 : Int) : ℚ) / 10 ^ 6 := div_le_div_of_nonneg_right hup (by norm_num)
  have hsum : (lossM : ℚ) + (feeM + (Rounding.up (valueM * bps) 10000 : Int)) ≤ (maxM : ℚ) := by exact_mod_cast h
  have hdiv : ((lossM : ℚ) + (feeM + (Rounding.up (valueM * bps) 10000 : Int))) / 10 ^ 6 ≤ (maxM : ℚ) / 10 ^ 6 :=
    div_le_div_of_nonneg_right hsum (by norm_num)
  rw [add_div, add_div] at hdiv
  linarith

/-- A figure and a value bounded in micros stay within a limit in micros. -/
theorem add_le {x v : ℚ} {xM vM maxM : Int} (hx : x = (xM : ℚ) / 10 ^ 6) (hv : v ≤ (vM : ℚ) / 10 ^ 6)
    (h : xM + vM ≤ maxM) : x + v ≤ (maxM : ℚ) / 10 ^ 6 := by
  have hsum : (xM : ℚ) + vM ≤ maxM := by exact_mod_cast h
  have hdiv : ((xM : ℚ) + vM) / 10 ^ 6 ≤ (maxM : ℚ) / 10 ^ 6 := div_le_div_of_nonneg_right hsum (by norm_num)
  rw [add_div] at hdiv
  rw [hx]
  linarith

/-- **An allowed swap keeps every limit in exact arithmetic**, on data that are present and fresh. -/
theorem allowed_swap_sound {d : RiskDecision} (hp : i.policy.Valid) (hk : i.action.kind = .swap)
    (hr : i.action.reduceOnly = false) (he : evaluate host i = .ok d) (ha : d.allowed = true) :
    ∃ f : SwapFigures i, f.Within host := by
  obtain ⟨h0, r, h⟩ := allows_iff.1 ⟨d, he, ha⟩
  obtain ⟨hExit, hApp, hLp, -, hLpExit, hClaim, hLpApp⟩ := kind_flags hk hr
  have hw := h0.action.wellFormed
  have hlim := hp.limits
  obtain ⟨q, hq⟩ := ProposedAction.Valid.quote_isSome h0.action hk
  obtain ⟨hqe, hqm, -, hpos, hle⟩ := hw.quote q hq
  obtain ⟨account, ⟨micros⟩⟩ := h.account
  -- the value going in
  obtain ⟨hIn, hV, -, -⟩ := deriveAmounts_ok.1 r.amounts_ok
  obtain ⟨p, hpr⟩ := Option.isSome_iff_exists.1 h.fresh.priceIn.2
  obtain ⟨pOut, hprOut⟩ := Option.isSome_iff_exists.1 (h.fresh.priceOut hApp).2
  have hVal := valueAt_ceil (by have := hw.tokenIn; omega) hV
  rw [hpr, Option.map_some] at hVal
  -- the limits the groups compared with
  obtain ⟨maxTrade, hTrade, hSize⟩ := sizeChecks_clear r.size_ok
  obtain ⟨v, hv, hvT⟩ := within_iff.1 (hSize.1 h.size (by simp [hExit, hLp, hLpApp]))
  obtain ⟨worst, maxLoss, -, hWorst, hMaxLoss, hLossC⟩ := lossChecks_clear r.loss_ok
  obtain ⟨l, hl, hlL⟩ := within_iff.1 (hLossC.1 h.loss (by simp [hExit, hLpExit]))
  obtain ⟨deployed, lpDeployed, maxDeployed, hD, hLD, hMaxD, hDepC⟩ := deployedChecks_clear r.deployed_ok
  obtain ⟨t, ht, htM⟩ := within_iff.1 (hDepC.1 h.deployed (by simp [hExit, hApp, hLpExit, hClaim]))
  obtain ⟨maxFee, hMaxFee, hFeeC⟩ := feeChecks_clear r.fee_ok
  obtain ⟨f, hf, hfF⟩ := within_iff.1 (hFeeC.1 h.fee)
  obtain ⟨held, nativeHeld, hHeld, -, hBalC⟩ := balanceChecks_clear r.balances_ok
  have hsp : spendsIn i.action = true := by simp [spendsIn, hApp, hLpExit, hClaim]
  obtain ⟨heldIn, rfl, hCover⟩ := atLeast_iff.1 ((hBalC.1 h.balances).1 hsp)
  have hsq : swapQuote i.action = some q := by simp [swapQuote, hApp, hLp, hq]
  obtain ⟨hSlip, hQual⟩ := qualityChecks_clear r.quality_ok hsq
  obtain ⟨-, hMin⟩ := quoteSlippage_bound hSlip (hQual.1 h.quality).1 (amountToBigint_ok.2 ⟨hqe, rfl⟩)
    (amountToBigint_ok.2 ⟨hqm, rfl⟩) (by omega) (by omega)
  obtain rfl := Option.some.inj (hf.symm.trans micros.feeUsd_eq)
  obtain rfl := Option.some.inj (hVal.symm.trans hv)
  obtain rfl := Except.ok.inj (hD.symm.trans micros.deployed_ok)
  obtain rfl := Except.ok.inj (hLD.symm.trans micros.lpDeployed_ok)
  rw [worstCase_swap hWorst hLp hApp (by have := hlim.maxSlippageBps; omega), hv, hf] at hl
  obtain rfl := Option.some.inj hl
  simp only [deployedAddition, hLp, hv] at ht
  obtain rfl := Option.some.inj ht
  have hvalue : worth r.amounts.amountIn i.action.tokenIn.decimals ((p : ℚ) / 10 ^ 18) ≤ _ := worth_le_of_up le_rfl
  refine ⟨⟨account, q, r.amounts.amountIn, _, _, heldIn, _, _, _, _, _, hq, hIn, amountToBigint_ok.2 ⟨hqe, rfl⟩,
    amountToBigint_ok.2 ⟨hqm, rfl⟩, holds_of_fresh (h.fresh.balanceIn hLpExit hClaim) (hHeld hsp),
    priced_of_usable h.fresh.priceIn.1 hpr, ⟨_, priced_of_usable (h.fresh.priceOut hApp).1 hprOut⟩,
    exactUsd_of_micros hTrade, exactUsd_of_micros hMaxFee, exactUsd_of_micros hMaxLoss, exactUsd_of_micros hMaxD⟩, ?_⟩
  constructor
  · exact worth_le_of_up hvT
  · exact micros.feeValue_le.trans (div_le_div_of_nonneg_right (Int.cast_le.2 hfF) (by norm_num))
  · exact worst_le micros.loss_eq hvalue micros.feeValue_le hlL
  · exact add_le micros.capital_eq hvalue htM
  · exact hMin
  · rw [micros.fee_eq]
    exact hCover
  · exact micros.nativeHeld_ge
  · exact (h.fresh.quote q hq hApp).2
  · exact h.fresh.fee.2

/-- A host whose digest is the real one on the text of one intent, for ASCII addresses. -/
def hostKnowing (text digest : String) : Host where
  sha256 s := if s = text then digest else ""
  toLowerCase := asciiLower

def paperSwap : ProposedAction :=
  { schemaVersion := 1
    actionId := "6f1c1f0e-0000-4000-8000-00000000a001"
    decisionCycleId := "6f1c1f0e-0000-4000-8000-00000000c9c1"
    idempotencyKey := "ae098c2161dbb00f57ba034ab8cdd492ac4ea2914df322cce7531742b5a251e4"
    proposedAt := 1700000000000
    mode := .PAPER
    source := .llm
    chain := .base
    kind := .swap
    protocol := "aerodrome-v2"
    contract := "0xcf77a3ba9a5ca399b7c97c74d54e5b1beb874e43"
    programIds := none
    reduceOnly := false
    tokenIn := ⟨"0x833589fcd6edb6e08f4c7c32d4f71b54bda02913", 6⟩
    tokenOut := ⟨"0x4200000000000000000000000000000000000006", 18⟩
    amountIn := "20000000"
    quote := some
      { expectedAmountOut := "10000000000000000", minAmountOut := "9950000000000000", slippageBps := 50
        priceImpactBps := 10, quotedAt := 1700000000000, source := "aerodrome-v2", marketId := "usdc-weth" }
    feeEstimate := ⟨1700000000000, .evm "200000" "1000000000"⟩
    lp := none
    rationale := none }

def paperSwapHost : Host :=
  hostKnowing ("atra-action-v1|6f1c1f0e-0000-4000-8000-00000000c9c1|base|swap|aerodrome-v2|" ++
    "0x833589fcd6edb6e08f4c7c32d4f71b54bda02913|0x4200000000000000000000000000000000000006|20000000|false")
    "ae098c2161dbb00f57ba034ab8cdd492ac4ea2914df322cce7531742b5a251e4"

def stamp (value : String) : Stamped := ⟨value, 1700000000000, "oracle"⟩

/-- A PAPER account with 100 USD deployed and a small loss today. -/
def paperState : RuntimeState :=
  { mode := .PAPER
    emergencyStop := ⟨false, none⟩
    globalPause := false
    activation := ⟨.PAPER, none⟩
    cooldowns := recordOf []
    lastAnyActionAt := none
    ledger :=
      { dayStartUtcMs := 1699920000000, deployedUsd := "100.000000", realizedPnlTodayUsd := "-3.500000"
        unrealizedPnlUsd := "-1.000000", unrealizedPnlAtDayStartUsd := "0.000000", positions := []
        lpRebalancesToday := recordOf [] } }

def paperSnapshot : MarketSnapshot :=
  { prices := recordOf [("base:0x833589fcd6edb6e08f4c7c32d4f71b54bda02913", stamp "1.0001"),
      ("base:0x4200000000000000000000000000000000000006", stamp "2000"),
      ("base:0xeeeeeeeeeeeeeeeeeeeeeeeeeeeeeeeeeeeeeeee", stamp "2000")]
    liquidity := recordOf [("base:usdc-weth", stamp "1000000")]
    balances := recordOf [("base:0x833589fcd6edb6e08f4c7c32d4f71b54bda02913", stamp "50000000"),
      ("base:0x4200000000000000000000000000000000000006", stamp "50000000000000000"),
      ("base:0xeeeeeeeeeeeeeeeeeeeeeeeeeeeeeeeeeeeeeeee", stamp "1000000000000000000")]
    poolLiquidity := none
    lp := none }

def paperSwapInput : RiskInput :=
  { now := 1700000001000, policy := defaultRiskPolicy CHAIN_IDS, policyHash := "", action := paperSwap
    state := paperState, snapshot := paperSnapshot }

theorem allowed_paperSwap_sound : ∃ f : SwapFigures paperSwapInput, f.Within paperSwapHost := by
  have h : Allows paperSwapHost paperSwapInput := by decide +kernel
  obtain ⟨d, he, ha⟩ := h
  exact allowed_swap_sound (defaultRiskPolicy_valid (by decide)) rfl rfl he ha

end Engine
end Atra
