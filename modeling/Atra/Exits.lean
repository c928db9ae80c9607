import Atra.Exposure
import Atra.TwoRuns
/-!
# Exits — an exit is decided without the loss and exposure limits

A reduce-only swap and a removal of liquidity skip the size, loss, deployed and cooldown checks.  `free` puts harmless figures
in the place of everything those checks read: an exit is decided alike with them, as long as the figures parse.
-/
namespace Atra
namespace Engine

open Money

/-- Closing a position: a reduce-only swap or a removal of liquidity. -/
def Closes (a : ProposedAction) : Prop := (a.kind = .swap ∧ a.reduceOnly = true) ∨ a.kind = .lp_remove

/-- An input with its loss, exposure and pacing figures, and the limits on them, put to zero. -/
def free (i : RiskInput) : RiskInput :=
  { i with
    policy := { i.policy with
      maxAmountPerTradeUsd := "0", maxTotalDeployedUsd := "0", maxDailyLossUsd := "0", cooldownSeconds := 0
      globalMinIntervalSeconds := 0 }
    policyHash := ""
    state := { i.state with
      cooldowns := fun _ => none
      lastAnyActionAt := none
      ledger := { i.state.ledger with
        deployedUsd := "0", realizedPnlTodayUsd := "0", unrealizedPnlUsd := "0", unrealizedPnlAtDayStartUsd := "0" } }
    snapshot := { i.snapshot with lp := i.snapshot.lp.map fun s => { s with deployedUsd := "0" } } }

/-- Two inputs that differ only in the figures `free` puts to zero. -/
def SameButLimits (i j : RiskInput) : Prop := free i = free j

/-- The figures `free` puts to zero, well formed. -/
structure FiguresRead (i : RiskInput) : Prop where
  maxAmountPerTradeUsd : isSignedUsd i.policy.maxAmountPerTradeUsd = true
  maxTotalDeployedUsd : isSignedUsd i.policy.maxTotalDeployedUsd = true
  maxDailyLossUsd : isSignedUsd i.policy.maxDailyLossUsd = true
  deployedUsd : isSignedUsd i.state.ledger.deployedUsd = true
  realizedPnlTodayUsd : isSignedUsd i.state.ledger.realizedPnlTodayUsd = true
  unrealizedPnlUsd : isSignedUsd i.state.ledger.unrealizedPnlUsd = true
  unrealizedPnlAtDayStartUsd : isSignedUsd i.state.ledger.unrealizedPnlAtDayStartUsd = true
  lpDeployedUsd : ∀ s, i.snapshot.lp = some s → isSignedUsd s.deployedUsd = true

variable {host : Host} {i j : RiskInput}

theorem free_read : FiguresRead (free i) := by
  have h0 : isSignedUsd "0" = true := by decide
  refine ⟨h0, h0, h0, h0, h0, h0, h0, ?_⟩
  intro s hs
  obtain ⟨s', -, rfl⟩ := Option.map_eq_some_iff.1 hs
  exact h0

theorem Closes.exempt (h : Closes i.action) : isExit i.action = true ∨ isLpExit i.action = true := by
  rcases h with ⟨hk, hr⟩ | hk
  · left
    simp [isExit, hk, hr]
  · right
    simp [isLpExit, hk]

/-! ## The groups that read the figures -/

theorem sizeChecks_of_closes (h : Closes i.action) (hr : FiguresRead i) (am : Amounts) :
    sizeChecks i am = .ok [notApplicable "size.amountInUsd" .SIZE_EXCEEDS_MAX_TRADE] := by
  obtain ⟨m, hm⟩ := usdToMicros_isOk.2 hr.maxAmountPerTradeUsd
  have hex : (isExit i.action || isLp i.action || isLpApprove i.action) = true := by
    rcases h with ⟨hk, hred⟩ | hk
    · simp [isExit, hk, hred]
    · simp [isLp, isLpKind, hk]
  unfold sizeChecks
  rw [hm, hex]
  rfl

theorem computeDailyLoss_isOk (hr : FiguresRead i) : ∃ loss, computeDailyLoss i = .ok loss := by
  obtain ⟨realized, h1⟩ := usdToMicros_isOk.2 hr.realizedPnlTodayUsd
  obtain ⟨unrealized, h2⟩ := usdToMicros_isOk.2 hr.unrealizedPnlUsd
  obtain ⟨dayStart, h3⟩ := usdToMicros_isOk.2 hr.unrealizedPnlAtDayStartUsd
  by_cases hinc : i.policy.includeUnrealized = true
  · exact ⟨_, computeDailyLoss_ok.2 ⟨_, _, h1, unrealizedMove_ok.2 (by rw [if_pos hinc]; exact ⟨_, _, h2, h3, rfl⟩), rfl⟩⟩
  · exact ⟨_, computeDailyLoss_ok.2 ⟨_, _, h1, unrealizedMove_ok.2 (by rw [if_neg hinc]), rfl⟩⟩

/-- Both runs judge the loss of an exit alike: neither checks it. -/
theorem lossChecks_alike (h : Closes i.action) (hi : FiguresRead i) (am : Amounts) (entry : Option Int) :
    Alike (fun out out' : List RiskCheck × Int => out.1 = out'.1) (lossChecks i am entry) (lossChecks (free i) am entry) := by
  obtain ⟨loss, hl⟩ := computeDailyLoss_isOk hi
  obtain ⟨loss', hl'⟩ := computeDailyLoss_isOk (free_read (i := i))
  obtain ⟨m, hm⟩ := usdToMicros_isOk.2 hi.maxDailyLossUsd
  obtain ⟨m', hm'⟩ := usdToMicros_isOk.2 (free_read (i := i)).maxDailyLossUsd
  have hex : (isExit i.action || isLpExit i.action) = true := by
    rcases h.exempt with he | he <;> simp [he]
  have hex' : (isExit (free i).action || isLpExit (free i).action) = true := hex
  unfold lossChecks
  refine .skip_left hl (.skip_right hl' ?_)
  refine Alike.bind (Alike.refl (worstCase i am entry)) fun worst worst' _ => ?_
  refine .skip_left hm (.skip_right hm' ?_)
  rw [if_pos hex, if_pos hex']
  exact .ok rfl

theorem deployedChecks_of_closes (h : Closes i.action) (hi : FiguresRead i) (am : Amounts) (entry : Option Int) :
    ∃ projected, deployedChecks i am entry =
      .ok ([notApplicable "deployed.total" .TOTAL_DEPLOYED_BREACHED], projected) := by
  obtain ⟨d, hd⟩ := usdToMicros_isOk.2 hi.deployedUsd
  obtain ⟨m, hm⟩ := usdToMicros_isOk.2 hi.maxTotalDeployedUsd
  obtain ⟨l, hl⟩ : ∃ l, lpDeployed i = .ok l := by
    unfold lpDeployed
    cases hs : i.snapshot.lp with
    | none => exact ⟨0, rfl⟩
    | some s => exact usdToMicros_isOk.2 (hi.lpDeployedUsd s hs)
  have hex : (isExit i.action || isApprove i.action || isLpExit i.action || isLpClaim i.action) = true := by
    rcases h.exempt with he | he <;> simp [he]
  unfold deployedChecks
  rw [hd, hl, hm]
  exact ⟨_, if_pos hex⟩

theorem pacingChecks_of_closes (h : Closes i.action) : pacingChecks i =
    [notApplicable "cooldown.market" .COOLDOWN_ACTIVE, notApplicable "cooldown.global" .COOLDOWN_ACTIVE] := by
  unfold pacingChecks
  have hex : (isExit i.action || isApprove i.action || isLpExit i.action) = true := by
    rcases h.exempt with he | he <;> simp [he]
  have hex' : (isExit i.action || isLpExit i.action || isLpApprove i.action) = true := by
    rcases h.exempt with he | he <;> simp [he]
  simp only [hex, hex', if_true]

/-! ## The groups that read nothing of them -/

/-- The liquidity slice of a snapshot keeps its holdings. -/
theorem capitalChecks_free (entry : Option Int) : capitalChecks (free i) entry = capitalChecks i entry := by
  obtain ⟨now, policy, hash, action, state, prices, liquidity, balances, pools, lp⟩ := i
  cases lp <;> rfl

theorem runLpChecks_free (am : Amounts) : runLpChecks (free i) am = runLpChecks i am := by
  obtain ⟨now, policy, hash, action, state, prices, liquidity, balances, pools, lp⟩ := i
  cases lp <;> rfl

/-! ## The decision -/

/-- The remaining checks of an exit are, check for check, those made with the figures at zero. -/
theorem runRemainingChecks_alike (h : Closes i.action) (hi : FiguresRead i) :
    Alike (fun out out' : List RiskCheck × RiskDerived => out.1 = out'.1) (runRemainingChecks host i)
      (runRemainingChecks host (free i)) := by
  have h' : Closes (free i).action := h
  unfold runRemainingChecks
  refine Alike.bind (Alike.refl (lpEntryCapital i)) ?_
  rintro entry _ rfl
  rw [capitalChecks_free]
  refine .bind_same fun capital => ?_
  refine Alike.bind (Alike.refl (positionChecks host i)) ?_
  rintro position _ rfl
  refine Alike.bind (Alike.refl (deriveAmounts i)) ?_
  rintro am _ rfl
  rw [sizeChecks_of_closes h hi, sizeChecks_of_closes h' free_read]
  refine .bind_same fun size => ?_
  refine (lossChecks_alike h hi am entry).bind fun loss loss' hloss => ?_
  obtain ⟨projected, hd⟩ := deployedChecks_of_closes h hi am entry
  obtain ⟨projected', hd'⟩ := deployedChecks_of_closes h' free_read am entry
  refine .skip_left hd (.skip_right hd' ?_)
  refine Alike.bind (Alike.refl (qualityChecks i)) ?_
  rintro quality _ rfl
  refine Alike.bind (Alike.refl (marketChecks i am)) ?_
  rintro market _ rfl
  refine Alike.bind (Alike.refl (feeChecks i am)) ?_
  rintro fee _ rfl
  refine Alike.bind (Alike.refl (liquidityChecks i)) ?_
  rintro liquidity _ rfl
  refine Alike.bind (Alike.refl (balanceChecks host i am)) ?_
  rintro balances _ rfl
  rw [runLpChecks_free]
  refine .bind_same fun lp => .ok ?_
  show _ ++ _ ++ _ ++ _ ++ _ ++ _ ++ _ ++ loss.1 ++ _ ++ _ ++ _ ++ _ ++ _ ++ pacingChecks i ++ _ ++ _ =
    _ ++ _ ++ _ ++ _ ++ _ ++ _ ++ _ ++ loss'.1 ++ _ ++ _ ++ _ ++ _ ++ _ ++ pacingChecks (free i) ++ _ ++ _
  rw [hloss, pacingChecks_of_closes h, pacingChecks_of_closes h']
  rfl

def SameVerdict (d d' : RiskDecision) : Prop := d.allowed = d'.allowed ∧ d.code = d'.code

theorem evaluate_free (h : Closes i.action) (hi : FiguresRead i) :
    Alike SameVerdict (evaluate host i) (evaluate host (free i)) := by
  unfold evaluate
  have h0 : tier0Checks host (free i) = tier0Checks host i := rfl
  rw [h0]
  by_cases hf : checksFailed (tier0Checks host i) = true
  · rw [if_pos hf, if_pos hf]
    exact .ok ⟨rfl, rfl⟩
  · rw [if_neg hf, if_neg hf]
    refine (runRemainingChecks_alike h hi).bind fun out out' hout => .ok ?_
    unfold SameVerdict finish
    rw [hout]
    exact ⟨rfl, rfl⟩

/-- **No state of the loss, exposure or pacing figures decides an exit.**  Two inputs that differ only in those figures and
in the limits on them, well formed in both, get the same verdict on closing a position. -/
theorem exit_verdict_same (h : Closes i.action) (hsame : SameButLimits i j) (hi : FiguresRead i) (hj : FiguresRead j) :
    Alike SameVerdict (evaluate host i) (evaluate host j) := by
  have hact : (free i).action = (free j).action := congrArg RiskInput.action hsame
  have hleft : Alike SameVerdict (evaluate host i) (evaluate host (free i)) := evaluate_free h hi
  rw [hsame] at hleft
  refine hleft.trans (evaluate_free (hact ▸ h) hj).symm ?_
  rintro a b c ⟨h1, h2⟩ ⟨h3, h4⟩
  exact ⟨h1.trans h3.symm, h2.trans h4.symm⟩

/-! ### An account past every limit sells its WETH -/

/-- 5000 USD lost today and a million deployed, the last action a moment ago. -/
def brokeState : RuntimeState :=
  { paperState with
    cooldowns := fun _ => some 1700000000999
    lastAnyActionAt := some 1700000000999
    ledger := { paperState.ledger with
      deployedUsd := "1000000", realizedPnlTodayUsd := "-5000", unrealizedPnlUsd := "-800.5"
      positions := [⟨.base, "0x4200000000000000000000000000000000000006", "15000000000000000", "24.000000", 1690000000000⟩] } }

def brokeExit : RiskInput :=
  { paperSwapInput with
    action := PaperExecutor.paperExit, state := brokeState
    policy := { defaultRiskPolicy CHAIN_IDS with maxAmountPerTradeUsd := "1", cooldownSeconds := 86400 } }

theorem brokeExit_verdict : Allows PaperExecutor.paperExitGate.host brokeExit ∧
    Alike SameVerdict (evaluate PaperExecutor.paperExitGate.host brokeExit)
      (evaluate PaperExecutor.paperExitGate.host (free brokeExit)) := by
  have hread : FiguresRead brokeExit :=
    ⟨by decide +kernel, by decide +kernel, by decide +kernel, by decide +kernel, by decide +kernel, by decide +kernel,
      by decide +kernel, fun s hs => by cases hs⟩
  exact ⟨by decide +kernel, exit_verdict_same (.inl ⟨rfl, rfl⟩) rfl hread free_read⟩

end Engine
end Atra
