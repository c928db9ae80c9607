import Atra.EngineTotal
/-!
# CheckList — the list of checks a decision records and the verdict it reads off it

After tier 0 a decision records one entry for each canonical check, evaluated or skipped.  Its verdict is the first judged
entry that did not pass: what is skipped may be left out, or be replaced by any other skipped entry.
-/
namespace Atra
namespace Engine

open Money

/-- The entries a verdict is read off: those that were not skipped. -/
def judged (checks : List RiskCheck) : List RiskCheck := checks.filter fun c => c.skipped.isNone

/-- **A decision with one canonical list of checks**, whose verdict is that of the first judged entry that failed. -/
structure Canonical (host : Host) (i : RiskInput) (d : RiskDecision) : Prop where
  recorded : ∃ rest, d.checks = tier0Checks host i ++ rest ∧ rest.map signature = remainingCheckNames i.action ∧
    (rest.map RiskCheck.name).Nodup ∧
    (checksFailed (tier0Checks host i) = true → ∀ c ∈ rest, c.skipped = some .shortCircuit)
  allowed : d.allowed = true ↔ ∀ c ∈ d.checks, c.skipped = none → c.passed = true
  code : d.code = ((judged d.checks).find? fun c => !c.passed).map RiskCheck.code
  skipped : ∀ checks derived, judged checks = judged d.checks →
    (finish i checks derived).allowed = d.allowed ∧ (finish i checks derived).code = d.code

variable {host : Host} {i : RiskInput}

/-! ## The verdict -/

theorem find_refuses (checks : List RiskCheck) : checks.find? refuses = (judged checks).find? fun c => !c.passed := by
  unfold judged
  rw [List.find?_filter]
  apply congrArg (fun p => checks.find? p)
  funext c
  unfold refuses
  cases c.passed <;> cases c.skipped <;> simp

theorem finish_code {checks : List RiskCheck} {derived : Option RiskDerived} :
    (finish i checks derived).code = ((judged checks).find? fun c => !c.passed).map RiskCheck.code := by
  rw [← find_refuses]
  rfl

theorem finish_allowed_judged {checks : List RiskCheck} {derived : Option RiskDerived} :
    (finish i checks derived).allowed = ((judged checks).find? fun c => !c.passed).isNone := by
  rw [← find_refuses]
  rfl

theorem clear_iff_passed {checks : List RiskCheck} :
    Clear checks ↔ ∀ c ∈ checks, c.skipped = none → c.passed = true := by
  unfold Clear
  apply forall₂_congr
  intro c _
  cases hs : c.skipped <;> cases hp : c.passed <;> simp [refuses, hs, hp]

/-- A decision's verdict is determined by the entries that were not skipped. -/
theorem canonical_finish {rest : List RiskCheck} {derived : Option RiskDerived}
    (hsig : rest.map signature = remainingCheckNames i.action)
    (hskip : checksFailed (tier0Checks host i) = true → ∀ c ∈ rest, c.skipped = some .shortCircuit) :
    Canonical host i (finish i (tier0Checks host i ++ rest) derived) where
  recorded := by
    refine ⟨rest, rfl, hsig, ?_, hskip⟩
    have h := remainingCheckNames_nodup i.action
    rwa [← hsig, List.map_map] at h
  allowed := finish_allowed.trans clear_iff_passed
  code := finish_code
  skipped := by
    intro checks derived' h
    rw [finish_allowed_judged, finish_code, finish_allowed_judged, finish_code, h]
    exact ⟨rfl, rfl⟩

/-! ## The list -/

theorem shortCircuited_signatures (names : List (String × RejectionCode)) :
    (names.map fun n => skip n.1 n.2 .shortCircuit).map signature = names := by
  rw [List.map_map]
  exact List.map_id' _

theorem canonical_of_ok (hv : i.action.Valid) {d : RiskDecision} (hd : evaluate host i = .ok d) : Canonical host i d := by
  by_cases hf : checksFailed (tier0Checks host i) = true
  · unfold evaluate at hd
    rw [if_pos hf] at hd
    rw [← pure_ok.1 hd]
    apply canonical_finish (shortCircuited_signatures _)
    intro _ c hc
    obtain ⟨n, -, rfl⟩ := List.mem_map.1 hc
    rfl
  · have h0 : Tier0 host i := tier0Checks_clear.1 (checksFailed_eq_false.1 (by simpa using hf))
    obtain ⟨r, rfl⟩ := evaluate_ok_of_tier0 h0 hd
    exact canonical_finish (r.signatures hv) fun h => absurd h hf

/-- **One canonical list of checks.**  For a valid action and readable figures the engine returns a decision, and every
decision it returns for a valid action records after tier 0 exactly the canonical checks, each once. -/
theorem evaluate_canonical (hv : i.action.Valid) :
    (i.policy.Limits → Readable i → Returns (evaluate host i)) ∧
      ∀ d, evaluate host i = .ok d → Canonical host i d := by
  constructor
  · intro hp hr
    exact (evaluate_returns hp hv).2 (.inr hr)
  · exact fun d hd => canonical_of_ok hv hd

theorem canonical_paperSwap :
    ∃ d, evaluate paperSwapHost paperSwapInput = .ok d ∧ Canonical paperSwapHost paperSwapInput d := by
  have hp : paperSwapInput.policy.Limits := (defaultRiskPolicy_valid (by decide)).limits
  have h : paperSwapInput.action.Valid ∧ checksFailed (tier0Checks paperSwapHost paperSwapInput) = false ∧
      (evaluate paperSwapHost paperSwapInput).isOk = true := by
    decide +kernel
  have hr : Readable paperSwapInput := by
    cases he : evaluate paperSwapHost paperSwapInput with
    | error e =>
      rw [he] at h
      cases h.2.2
    | ok d =>
      have h0 := tier0Checks_clear.1 (checksFailed_eq_false.1 h.2.1)
      exact ((evaluate_returns hp h.1).1 ⟨d, he⟩).resolve_left fun hn => hn h0
  obtain ⟨d, hd⟩ := (@evaluate_canonical paperSwapHost paperSwapInput h.1).1 hp hr
  exact ⟨d, hd, (evaluate_canonical h.1).2 d hd⟩

end Engine
end Atra
