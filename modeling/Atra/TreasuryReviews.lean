import Atra.Agents
import Atra.TreasurySpend
/-!
# TreasuryReviews — what a model's review may write

A review reads the books, asks a model and carries out what it recommends.  Between the reading and the carrying out the admin
goes on working.  A recommendation becomes a proposal, which the caps judge again, or a payable, which nothing judges again; it
never decides and never exports.
-/
namespace Atra
namespace Treasury

open Money History Calendar

/-! ## The agent -/

inductive TreasuryAction where
  | NO_ACTION | REVIEW_BUDGET | PROPOSE_PAYMENT
deriving DecidableEq, Repr

def TreasuryAction.name : TreasuryAction → String
  | .NO_ACTION => "NO_ACTION"
  | .REVIEW_BUDGET => "REVIEW_BUDGET"
  | .PROPOSE_PAYMENT => "PROPOSE_PAYMENT"

structure TreasuryRecommendation where
  action : TreasuryAction
  provider : Option String
  amountUsd : String
  reason : String
deriving DecidableEq, Repr

structure TreasuryReview where
  summary : String
  concerns : List String
  recommendedActions : List TreasuryRecommendation
  confidence : ℚ

/-- `treasuryRecommendationSchema`. -/
def TreasuryRecommendation.conforms (r : TreasuryRecommendation) : Bool :=
  r.provider.all (textWithin 1 64) && usdString r.amountUsd && textWithin 1 400 r.reason

/-- `treasuryReviewSchema`. -/
def TreasuryReview.conforms (v : TreasuryReview) : Bool :=
  textWithin 1 800 v.summary && v.concerns.all (textWithin 1 300) && decide (v.concerns.length ≤ 12) &&
  v.recommendedActions.all TreasuryRecommendation.conforms && decide (v.recommendedActions.length ≤ 6) &&
  decide (0 ≤ v.confidence) && decide (v.confidence ≤ 1)

/-- A reply that passed the schema. -/
abbrev ReviewReply := { v : TreasuryReview // v.conforms = true }

/-- A provider with what it cost in the billing period. -/
structure ProviderView extends Provider where
  spentThisPeriodUsd : String
  remainingBudgetUsd : Option String
  overBudget : Bool

structure TreasuryAgentInput where
  caps : TreasuryCaps
  frozen : Bool
  approvedThisMonthUsd : String
  providers : List ProviderView
  /-- The summaries of the alerts that are open. -/
  openAlerts : List String

section
variable (host : Host)

def namedProvider (providers : List ProviderView) (name : String) : Option ProviderView :=
  providers.find? fun candidate => host.toLowerCase candidate.name = host.toLowerCase name

/-- What is amiss with a payment, with the cap of one payment and what the month leaves. -/
def paymentViolation (input : TreasuryAgentInput) (perPayment monthlyRemaining : Int) (provider : ProviderView)
    (amountUsd : String) : Result (Option String) := do
  let amount ← usdToMicros amountUsd
  if amount ≤ 0 then return some "PROPOSE_PAYMENT with a zero amount"
  else if perPayment < amount then
    return some ("proposed " ++ amountUsd ++ " USD exceeds the per-payment cap " ++ input.caps.perPaymentCapUsd)
  else if monthlyRemaining < amount then
    return some ("proposed " ++ amountUsd ++ " USD exceeds the remaining monthly cap")
  else do
    let budget ← usdToMicros provider.monthlyBudgetUsd
    if budget ≤ 0 then return none
    else do
      let spent ← usdToMicros provider.spentThisPeriodUsd
      return if budget < spent + amount then
        some ("proposed " ++ amountUsd ++ " USD exceeds " ++ provider.name ++ "'s remaining budget") else none

def recommendationViolation (input : TreasuryAgentInput) (perPayment monthlyRemaining : Int) (r : TreasuryRecommendation) :
    Result (Option String) :=
  if r.action = .NO_ACTION then
    if r.amountUsd ≠ "0" then pure (some "NO_ACTION with a non-zero amount")
    else if r.provider.isSome then pure (some "NO_ACTION naming a provider")
    else pure none
  else if input.frozen then pure (some (r.action.name ++ " while the treasury is frozen"))
  else
    match r.provider with
    | none => pure (some (r.action.name ++ " without a provider"))
    | some name =>
      match namedProvider host input.providers name with
      | none => pure (some ("provider " ++ jsonStringify name ++ " is not registered"))
      | some provider =>
        if !provider.active then pure (some ("provider " ++ provider.name ++ " is inactive"))
        else if r.action = .PROPOSE_PAYMENT then paymentViolation input perPayment monthlyRemaining provider r.amountUsd
        else pure none

/-- The first violation of a list of recommendations. -/
def firstViolation (input : TreasuryAgentInput) (perPayment monthlyRemaining : Int) :
    List TreasuryRecommendation → Result (Option String)
  | [] => pure none
  | r :: rest => do
    match ← recommendationViolation host input perPayment monthlyRemaining r with
    | some violation => pure (some violation)
    | none => firstViolation input perPayment monthlyRemaining rest

def deterministicSanity (review : TreasuryReview) (input : TreasuryAgentInput) : Result (Option String) := do
  let perPayment ← usdToMicros input.caps.perPaymentCapUsd
  let monthlyCap ← usdToMicros input.caps.monthlyCapUsd
  let approved ← usdToMicros input.approvedThisMonthUsd
  firstViolation host input perPayment (monthlyCap - approved) review.recommendedActions

/-- What the model answers: whether it is there, and a reply that passed the schema, or why there is none. -/
structure ModelAnswer where
  available : Bool
  detail : String
  reply : Except String ReviewReply

end

/-! ## The review -/

/-- The stablecoin the registry lists for a chain. -/
def defaultAssetFor (chain : ChainId) : String :=
  let tokens := (CHAINS chain).tokens
  match ["USDC", "USDT", "USDG"].find? fun symbol => tokens.any fun t => t.symbol = symbol with
  | some symbol => symbol
  | none => (tokens.head?.map (·.symbol)).getD (nativeSymbol chain)

/-- What came of a recommendation. -/
inductive ReviewOutcome where
  | nothing
  | refused (detail : String)
  | budgetReview
  | payableRecorded
  | proposalCreated (id : String)

section
variable (host : Host)

/-- One recommendation, carried out against the books as they are, for a provider as it was listed. -/
def carryOut (providers : List ProviderView) (period id : String) (b : Books) (r : TreasuryRecommendation) :
    Books × ReviewOutcome :=
  if r.action = .NO_ACTION then (b, .nothing)
  else
    match r.provider.bind (namedProvider host providers) with
    | none => (b, .refused "provider is not registered")
    | some provider =>
      if r.action = .REVIEW_BUDGET then (b, .budgetReview)
      else if provider.billingMode ≠ .onChain then
        match b.recordExpense ⟨provider.id, period, r.amountUsd⟩ with
        | .ok b' => (b', .payableRecorded)
        | .error e => (b, .refused e.message)
      else
        match provider.recipient with
        | none => (b, .refused "Cannot read properties of null (reading 'chain')")
        | some recipient =>
          match b.propose id ⟨provider.id, defaultAssetFor recipient.chain, r.amountUsd⟩ (some period) with
          | .ok b' => (b', .proposalCreated id)
          | .error e => (b, .refused e.message)

/-- What a review meets: the calls of the admin while balances are read and while the model is asked, and what the model says. -/
structure ReviewWorld where
  whileRead : List BooksEvent
  openAlerts : List String
  whileAsked : List BooksEvent
  answer : ModelAnswer
  ids : Nat → String

variable (canonical : ChainId → String → String → Result String)

/-- What happens to the books: a call, or a whole review. -/
inductive ReviewEvent where
  | call (e : BooksEvent)
  | review (w : ReviewWorld)

end

/-! ## A review as calls of the books -/

section
variable {host : Host} {canonical : ChainId → String → String → Result String} {providers : List ProviderView}
  {period id : String} {ids : Nat → String} {b : Books} {r : TreasuryRecommendation}

end

/-! ## What passes the agent -/

section
variable {host : Host} {input : TreasuryAgentInput} {perPayment monthlyRemaining : Int} {r : TreasuryRecommendation}

/-- A payment as the agent lets it pass: to an active provider it was shown, within each of the figures it was shown. -/
structure Fits (host : Host) (input : TreasuryAgentInput) (r : TreasuryRecommendation) (provider : ProviderView) : Prop where
  unfrozen : input.frozen = false
  active : provider.active = true
  positive : 0 < micros r.amountUsd
  perPayment : micros r.amountUsd ≤ micros input.caps.perPaymentCapUsd
  month : micros input.approvedThisMonthUsd + micros r.amountUsd ≤ micros input.caps.monthlyCapUsd
  budget : 0 < micros provider.monthlyBudgetUsd →
    micros provider.spentThisPeriodUsd + micros r.amountUsd ≤ micros provider.monthlyBudgetUsd

end

/-! ## What the model was shown -/

section
variable {b opened shown : Books} {period : String}

end

/-! ## What a review writes -/

/-- A payable a review records: to an active provider that is not paid on chain, within each figure the model was shown. -/
structure PayableWithin (opened shown : Books) (x : Expense) : Prop where
  unfrozen : opened.treasury.frozen = false
  provider : ∃ pr, shown.treasury.providers.get x.providerId = some pr ∧ pr.active = true ∧ pr.billingMode ≠ .onChain ∧
    (0 < micros pr.monthlyBudgetUsd → (shown.expensesOf pr.id x.period).length ≤ 2000 →
      shown.expenseSpend pr.id x.period + shown.proposalSpend pr.id x.period + micros x.amountUsd ≤ micros pr.monthlyBudgetUsd)
  period : x.period = periodOf shown.clock
  positive : 0 < micros x.amountUsd
  perPayment : micros x.amountUsd ≤ micros opened.treasury.caps.perPaymentCapUsd
  month : shown.monthSpend (monthOf shown.clock) + micros x.amountUsd ≤ micros opened.treasury.caps.monthlyCapUsd

/-- A proposal a review makes of the books `b`: it waits for the admin, and is within the caps as they stand. -/
structure ProposedWithin (b b' : Books) (p : PaymentProposal) : Prop where
  status : p.status = .proposed
  unfrozen : b.treasury.frozen = false
  allowlisted : Allowlisted b.treasury.providers p = true
  positive : 0 < micros p.amountUsd
  perPayment : micros p.amountUsd ≤ micros b.treasury.caps.perPaymentCapUsd
  month : b.monthSpend (monthOf b.clock) + micros p.amountUsd ≤ micros b.treasury.caps.monthlyCapUsd
  budget : ∀ pr, b.treasury.providers.get p.providerId = some pr → 0 < micros pr.monthlyBudgetUsd →
    (b'.expensesOf pr.id (b'.period p.id)).length ≤ 2000 →
      b.expenseSpend pr.id (b'.period p.id) + b.proposalSpend pr.id (b'.period p.id) + micros p.amountUsd ≤
        micros pr.monthlyBudgetUsd

/-- What a review that was shown `shown` makes of the books `b`: so many new rows at most, each a proposal or a payable. -/
structure Wrote (opened shown : Books) (n : Nat) (b b' : Books) : Prop where
  treasury : b'.treasury = { b.treasury with proposals := b'.treasury.proposals }
  decidedAt : b'.decidedAt = b.decidedAt
  clock : b'.clock = b.clock
  rows : ∀ id, (b'.treasury.proposals.get id = b.treasury.proposals.get id ∧ b'.period id = b.period id) ∨
    b.treasury.proposals.get id = none ∧ ∃ p, b'.treasury.proposals.get id = some p ∧
      b'.period id = periodOf shown.clock ∧ ProposedWithin b b' p
  payables : ∃ new, b'.expenses = new ++ b.expenses ∧ ∀ x ∈ new, PayableWithin opened shown x
  few : b'.treasury.proposals.rows.length + b'.expenses.length ≤
    b.treasury.proposals.rows.length + b.expenses.length + n
  monthSpend : ∀ k, b'.monthSpend k = b.monthSpend k
  proposalSpend : ∀ providerId period, b'.proposalSpend providerId period = b.proposalSpend providerId period

section
variable {opened shown b c d : Books} {n m : Nat}

theorem expensesOf_append {new : List Expense} (h : c.expenses = new ++ b.expenses) (providerId period : String) :
    ∃ more, c.expensesOf providerId period = more ++ b.expensesOf providerId period ∧ ∀ x ∈ more, x ∈ new := by
  unfold Books.expensesOf
  rw [h, List.filter_append]
  exact ⟨_, rfl, fun x hx => (List.mem_filter.1 hx).1⟩

theorem Wrote.refl (b : Books) : Wrote opened shown 0 b b where
  treasury := rfl
  decidedAt := rfl
  clock := rfl
  rows _ := .inl ⟨rfl, rfl⟩
  payables := ⟨[], rfl, fun _ h => absurd h List.not_mem_nil⟩
  few := le_rfl
  monthSpend _ := rfl
  proposalSpend _ _ := rfl

theorem Wrote.expenseSpend (h : Wrote opened shown n b c) (providerId period : String) :
    b.expenseSpend providerId period ≤ c.expenseSpend providerId period := by
  obtain ⟨new, hnew, hpayable⟩ := h.payables
  obtain ⟨more, hmore, hmem⟩ := expensesOf_append hnew providerId period
  have hnonneg : 0 ≤ (more.map fun x => micros x.amountUsd).sum := by
    refine List.sum_nonneg fun a ha => ?_
    obtain ⟨x, hx, rfl⟩ := List.mem_map.1 ha
    exact (hpayable x (hmem x hx)).positive.le
  unfold Books.expenseSpend
  rw [hmore, List.map_append, List.sum_append]
  omega

theorem Wrote.expensesOf_le (h : Wrote opened shown n b c) (providerId period : String) :
    (b.expensesOf providerId period).length ≤ (c.expensesOf providerId period).length := by
  obtain ⟨new, hnew, -⟩ := h.payables
  obtain ⟨more, hmore, -⟩ := expensesOf_append hnew providerId period
  rw [hmore, List.length_append]
  omega

/-- What is written of the books a review has written to is written within the caps of those before it. -/
theorem Wrote.trans (h : Wrote opened shown n b c) (h' : Wrote opened shown m c d) : Wrote opened shown (n + m) b d where
  treasury := by
    rw [h'.treasury, h.treasury]
  decidedAt := h'.decidedAt.trans h.decidedAt
  clock := h'.clock.trans h.clock
  rows id := by
    have hproviders : c.treasury.providers = b.treasury.providers := by rw [h.treasury]
    have hcaps : c.treasury.caps = b.treasury.caps := by rw [h.treasury]
    have hfrozen : c.treasury.frozen = b.treasury.frozen := by rw [h.treasury]
    rcases h.rows id, h'.rows id with
      ⟨⟨hget, hperiod⟩ | ⟨hnone, p, hget, hperiod, hp⟩, ⟨hget', hperiod'⟩ | ⟨hnone', q, hget', hperiod', hq⟩⟩
    · exact .inl ⟨hget'.trans hget, hperiod'.trans hperiod⟩
    · refine .inr ⟨hget ▸ hnone', q, hget', hperiod', hq.status, hfrozen ▸ hq.unfrozen, hproviders ▸ hq.allowlisted, hq.positive,
        hcaps ▸ hq.perPayment, ?_, fun pr hpr hbudget hcount => ?_⟩
      · have := hq.month
        rwa [h.clock, h.monthSpend, hcaps] at this
      · have hwithin := hq.budget pr (hproviders ▸ hpr) hbudget hcount
        have := h.expenseSpend pr.id (d.period q.id)
        rw [h.proposalSpend] at hwithin
        omega
    · have hid : p.id = id := Table.key_of_get hget
      refine .inr ⟨hnone, p, hget'.trans hget, hperiod'.trans hperiod, hp.status, hp.unfrozen, hp.allowlisted, hp.positive,
        hp.perPayment, hp.month, fun pr hpr hbudget hcount => ?_⟩
      rw [hid, hperiod', ← hid] at hcount ⊢
      exact hp.budget pr hpr hbudget ((h'.expensesOf_le ..).trans hcount)
    · rw [hget] at hnone'
      cases hnone'
  payables := by
    obtain ⟨new, hnew, hpayable⟩ := h.payables
    obtain ⟨new', hnew', hpayable'⟩ := h'.payables
    refine ⟨new' ++ new, by rw [hnew', hnew, List.append_assoc], fun x hx => ?_⟩
    rcases List.mem_append.1 hx with hx | hx
    · exact hpayable' x hx
    · exact hpayable x hx
  few := by
    have := h.few
    have := h'.few
    omega
  monthSpend k := (h'.monthSpend k).trans (h.monthSpend k)
  proposalSpend providerId period := (h'.proposalSpend ..).trans (h.proposalSpend ..)

end

/-! ## A review among the calls of the admin -/

section
variable {host : Host} {canonical : ChainId → String → String → Result String} {b : Books} {w : ReviewWorld}

theorem Wrote.more {opened shown b c : Books} {n m : Nat} (h : Wrote opened shown n b c) (hle : n ≤ m) :
    Wrote opened shown m b c where
  treasury := h.treasury
  decidedAt := h.decidedAt
  clock := h.clock
  rows := h.rows
  payables := h.payables
  few := h.few.trans (by omega)
  monthSpend := h.monthSpend
  proposalSpend := h.proposalSpend

/-- The calls of the admin among the events. -/
def ReviewEvent.calls : ReviewEvent → List BooksEvent
  | .call e => [e]
  | .review w => w.whileRead ++ w.whileAsked

end

end Treasury
end Atra
