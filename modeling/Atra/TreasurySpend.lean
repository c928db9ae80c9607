import Atra.ExportSafety
import Atra.Calendar
/-!
# TreasurySpend — what the caps are compared with

The cap engine is given two sums: what was approved in the calendar month of the evaluation, and what a provider cost in the
billing period of the proposal.  Here they are read from the rows, so that the caps hold over whole histories.  The second
sum rests on a listing of expenses that is cut at 2000 rows.
-/
namespace Atra
namespace Treasury

open Money History Calendar

/-! ## The rows that are summed -/

structure Expense where
  providerId : String
  period : String
  amountUsd : String
deriving DecidableEq, Repr

/-- The treasury with the columns `period` and `decided_at` of its proposals, by id, and its expenses, the last recorded
first. -/
structure Books where
  treasury : TreasuryState
  period : String → String
  decidedAt : String → Option Int
  expenses : List Expense
  clock : Int

def newBooks : Books := ⟨newTreasury, fun _ => "", fun _ => none, [], 0⟩

/-- The calendar month of an instant as text. -/
def periodOf (now : Int) : String :=
  toString (yearMonth (monthOf now)).1 ++ "-" ++ padStart (toString ((yearMonth (monthOf now)).2 + 1)) 2

/-- The first instants of the calendar month of `now` and of the next one. -/
def monthBounds (now : Int) : Int × Int := (monthStart (monthOf now), monthStart (monthOf now + 1))

def sumUsd (amounts : List String) : Result String := do
  let micros ← amounts.mapM usdToMicros
  return microsToUsd micros.sum

/-- The statuses whose amount counts as spent. -/
def ProposalStatus.spent : ProposalStatus → Bool
  | .approved | .exported => true
  | .proposed | .rejected | .cancelled => false

namespace Books

def approvedInMonth (now : Int) (b : Books) : List PaymentProposal :=
  b.treasury.proposals.rows.filter fun p =>
    p.status.spent && (b.decidedAt p.id).any fun t => (monthBounds now).1 ≤ t && t < (monthBounds now).2

def approvedForProviderPeriod (providerId period : String) (b : Books) : List PaymentProposal :=
  b.treasury.proposals.rows.filter fun p => p.status.spent && decide (p.providerId = providerId ∧ b.period p.id = period)

def expensesOf (providerId period : String) (b : Books) : List Expense :=
  b.expenses.filter fun x => x.providerId = providerId ∧ x.period = period

/-- The clock does not go back, so the order of `recorded_at` is that of the recording. -/
def listExpenses (providerId period : String) (limit : Nat) (b : Books) : List Expense :=
  (b.expensesOf providerId period).take (min (max limit 1) 2000)

/-- Expenses plus approved and exported proposals of a provider in a billing period. -/
def providerPeriodSpend (providerId period : String) (b : Books) : Result String :=
  sumUsd ((b.listExpenses providerId period 2000).map Expense.amountUsd ++
    (b.approvedForProviderPeriod providerId period).map PaymentProposal.amountUsd)

/-- An unknown provider has spent nothing. -/
def providerSpend (provider : Option Provider) (period : String) (b : Books) : Result String :=
  match provider with
  | some p => b.providerPeriodSpend p.id period
  | none => pure "0.000000"

/-- The sums of `#evaluate`. -/
def spendFor (provider : Option Provider) (period : String) (excludeProposalId : Option String) (now : Int) (b : Books) :
    Result Spend := do
  let monthToDate ← sumUsd (((b.approvedInMonth now).filter fun p => some p.id ≠ excludeProposalId).map
    PaymentProposal.amountUsd)
  let providerSpend ← b.providerSpend provider period
  return ⟨monthToDate, providerSpend⟩

/-! ## The calls -/

def propose (id : String) (request : ProposalRequest) (period : Option String) (b : Books) : Result Books := do
  let period := period.getD (periodOf b.clock)
  let spend ← b.spendFor (b.treasury.providers.get request.providerId) period none b.clock
  let treasury ← Treasury.propose id request spend b.treasury
  return { b with treasury, period := Function.update b.period id period }

/-- The row of a decision is written at a later reading of the clock than the one the caps are evaluated at. -/
def decided (id : String) (later : Nat) (treasury : TreasuryState) (b : Books) : Books :=
  { b with
    treasury
    decidedAt := Function.update b.decidedAt id (some (b.clock + later))
    clock := b.clock + later }

def approve (id : String) (creatorApproval : Bool) (later : Nat) (b : Books) : Result Books := do
  let proposal ← getProposal id b.treasury
  assertTransition proposal .proposed "approve"
  assertNotFrozen "approve a payment proposal" b.treasury
  let spend ← b.spendFor (b.treasury.providers.get proposal.providerId) (b.period id) (some id) b.clock
  let outcome ← Treasury.approve id creatorApproval spend b.treasury
  return b.decided id later outcome.1

def reject (id : String) (later : Nat) (b : Books) : Result Books := do
  let treasury ← Treasury.reject id b.treasury
  return b.decided id later treasury

def recordExpense (record : Expense) (b : Books) : Result Books := do
  let provider ← getProvider record.providerId b.treasury
  let amountUsd ← canonicalUsd record.amountUsd "amountUsd"
  let micros ← usdToMicros amountUsd
  refuseWhen (micros ≤ 0) ⟨.schemaInvalid, "An expense must be greater than zero"⟩
  return { b with expenses := ⟨provider.id, record.period, amountUsd⟩ :: b.expenses }

end Books

/-! ## Runs -/

/-- An event that proposes nothing and decides nothing. -/
def TreasuryEvent.plain : TreasuryEvent → Bool
  | .call (.propose _ _ _) _ | .call (.approve _ _ _) _ | .call (.reject _) _ => false
  | _ => true

/-- What happens to the books.  The calls that read a sum or write a date are events of their own. -/
inductive BooksEvent where
  | tick (n : Nat)
  | propose (id : String) (request : ProposalRequest) (period : Option String)
  | approve (id : String) (creatorApproval : Bool) (later : Nat)
  | reject (id : String) (later : Nat)
  | recordExpense (record : Expense)
  | other (e : { e : TreasuryEvent // e.plain = true })

section
variable (canonical : ChainId → String → String → Result String)

/-- A call that fails leaves the books. -/
def booksStep (b : Books) : BooksEvent → Books
  | .tick n => { b with clock := b.clock + n }
  | .propose id request period => (b.propose id request period).toOption.getD b
  | .approve id creatorApproval later => (b.approve id creatorApproval later).toOption.getD b
  | .reject id later => (b.reject id later).toOption.getD b
  | .recordExpense record => (b.recordExpense record).toOption.getD b
  | .other e => { b with treasury := treasuryStep canonical b.treasury e }

end

/-! ## What an approval must respect -/

/-- An amount in millionths; nothing where the text is malformed. -/
def micros (amount : String) : Int := (usdToMicros amount).toOption.getD 0

namespace Books

/-- What the proposals decided in a calendar month amount to. -/
def monthSpend (b : Books) (k : Int) : Int :=
  b.treasury.proposals.total fun p =>
    if p.status.spent = true ∧ (b.decidedAt p.id).any (fun t => monthOf t = k) = true then micros p.amountUsd else 0

def proposalSpend (b : Books) (providerId period : String) : Int :=
  b.treasury.proposals.total fun p =>
    if p.status.spent = true ∧ p.providerId = providerId ∧ b.period p.id = period then micros p.amountUsd else 0

/-- All expenses ever recorded for a provider and a billing period. -/
def expenseSpend (b : Books) (providerId period : String) : Int :=
  ((b.expensesOf providerId period).map fun x => micros x.amountUsd).sum

end Books

/-- What must hold where a proposal has become approved: of the books before and after, and of the row. -/
structure Capped (b b' : Books) (p : PaymentProposal) : Prop where
  unfrozen : b.treasury.frozen = false
  month : ∃ t, b'.decidedAt p.id = some t ∧ b'.monthSpend (monthOf t) ≤ micros b.treasury.caps.monthlyCapUsd
  perPayment : micros p.amountUsd ≤ micros b.treasury.caps.perPaymentCapUsd
  approval : micros b.treasury.caps.approvalThresholdUsd ≤ micros p.amountUsd → p.creatorApproval = true
  allowlisted : Allowlisted b.treasury.providers p = true
  budget : ∀ pr, b.treasury.providers.get p.providerId = some pr → 0 < micros pr.monthlyBudgetUsd →
    b'.expenseSpend p.providerId (b'.period p.id) + b'.proposalSpend p.providerId (b'.period p.id) ≤
      micros pr.monthlyBudgetUsd

/-- Every proposal that becomes approved does so within the caps. -/
def ApprovalsCapped (b b' : Books) : Prop :=
  ∀ id p, b'.treasury.proposals.get id = some p → p.status = .approved →
    b.treasury.proposals.get id = some p ∨ Capped b b' p

inductive ProposalStatus.Next : ProposalStatus → ProposalStatus → Prop where
  | approved : Next .proposed .approved
  | rejected : Next .proposed .rejected
  | exported : Next .approved .exported
  | cancelled : Next .approved .cancelled

/-- A row stays, appears as a proposal, or follows its life. -/
def Lifecycle (b b' : Books) : Prop :=
  ∀ id, b'.treasury.proposals.get id = b.treasury.proposals.get id ∨
    (b.treasury.proposals.get id = none ∧ ∃ p, b'.treasury.proposals.get id = some p ∧ p.status = .proposed) ∨
    ∃ p p', b.treasury.proposals.get id = some p ∧ b'.treasury.proposals.get id = some p' ∧ p.status.Next p'.status

/-- An approval reads every expense of the provider and the period: it has no budget, or there are at most 2000. -/
def counted (b : Books) : BooksEvent → Bool
  | .approve id _ _ =>
    match b.treasury.proposals.get id with
    | some p => match b.treasury.providers.get p.providerId with
      | some pr => decide (micros pr.monthlyBudgetUsd ≤ 0 ∨ (b.expensesOf pr.id (b.period id)).length ≤ 2000)
      | none => true
    | none => true
  | _ => true

/-! ## The sums, read back -/

section
variable {canonical : ChainId → String → String → Result String} {b b' : Books}

theorem micros_ok {amount : String} {m : Int} (h : usdToMicros amount = .ok m) : micros amount = m := by
  unfold micros
  rw [h]
  rfl

theorem mapM_micros {amounts : List String} {ms : List Int} (h : amounts.mapM usdToMicros = .ok ms) :
    ms = amounts.map micros := by
  induction amounts generalizing ms with
  | nil =>
    rw [List.mapM_nil, pure_ok] at h
    exact h.symm
  | cons a as ih =>
    rw [List.mapM_cons] at h
    obtain ⟨m, hm, h⟩ := bind_ok.1 h
    obtain ⟨ms', hms', h⟩ := bind_ok.1 h
    rw [pure_ok] at h
    rw [← h, List.map_cons, micros_ok hm, ih hms']

theorem sumUsd_ok {amounts : List String} {total : String} (h : sumUsd amounts = .ok total) :
    micros total = (amounts.map micros).sum := by
  obtain ⟨ms, hms, h⟩ := bind_ok.1 h
  rw [pure_ok] at h
  rw [← h, mapM_micros hms]
  exact micros_ok (usdToMicros_microsToUsd _)

theorem canonicalUsd_ok {value field amount : String} (h : canonicalUsd value field = .ok amount) : 0 ≤ micros amount := by
  unfold canonicalUsd at h
  split at h
  · rename_i m hm
    split at h
    · cases h
    · rename_i hneg
      rw [pure_ok] at h
      rw [← h, micros_ok (usdToMicros_microsToUsd m)]
      omega
  · cases h

/-- What the caps say of the amounts. -/
structure WithinCaps (i : CapInput) : Prop where
  perPayment : micros i.proposal.amountUsd ≤ micros i.caps.perPaymentCapUsd
  month : micros i.spend.monthToDateApprovedUsd + micros i.proposal.amountUsd ≤ micros i.caps.monthlyCapUsd
  budget : ∀ pr, i.provider = some pr → 0 < micros pr.monthlyBudgetUsd →
    micros i.spend.providerPeriodSpendUsd + micros i.proposal.amountUsd ≤ micros pr.monthlyBudgetUsd
  approval : i.stage = .approve → micros i.caps.approvalThresholdUsd ≤ micros i.proposal.amountUsd → i.creatorApproval = true

/-- **What the caps let pass** is within them. -/
theorem evaluateCaps_within {i : CapInput} {d : CapDecision} (h : evaluateCaps i = .ok d) (ha : d.allowed = true) :
    WithinCaps i := by
  unfold evaluateCaps at h
  split at h
  · rw [pure_ok] at h
    subst h
    cases ha
  simp only [evaluateUnfrozen, bind_ok] at h
  obtain ⟨perPayment, hperPayment, monthly, hmonthly, mtd, hmtd, budget, hbudget, budgetCheck, hcheck, threshold, hthreshold, h⟩ :=
    h
  rw [pure_ok] at h
  subst h
  have hall := finish_allowed ha
  simp only [List.forall_mem_cons] at hall
  obtain ⟨-, -, -, -, -, -, -, hamount, hcap, hmonth, hchecked, happroval, -⟩ := hall
  obtain ⟨a, hsafe⟩ := Option.isSome_iff_exists.1 hamount
  have hparsed : usdToMicros i.proposal.amountUsd = .ok a := by
    obtain ⟨hto, -⟩ := Option.filter_eq_some_iff.1 hsafe
    cases hread : usdToMicros i.proposal.amountUsd with
    | ok m =>
      rw [hread] at hto
      rw [Option.some.inj hto]
    | error e =>
      rw [hread] at hto
      cases hto
  rw [hsafe] at hcap hmonth hcheck happroval
  constructor
  · rw [micros_ok hparsed, micros_ok hperPayment]
    simpa using hcap
  · rw [micros_ok hparsed, micros_ok hmtd, micros_ok hmonthly]
    simpa using hmonth
  · intro pr hpr hpos
    rw [hpr] at hbudget
    rw [micros_ok hbudget] at hpos ⊢
    unfold checkBudget at hcheck
    rw [if_pos hpos] at hcheck
    obtain ⟨spent, hspent, hcheck⟩ := bind_ok.1 hcheck
    rw [pure_ok] at hcheck
    subst hcheck
    rw [micros_ok hparsed, micros_ok hspent]
    simpa using hchecked
  · intro hstage hover
    rw [micros_ok hparsed, micros_ok hthreshold] at hover
    rw [hstage] at happroval
    simpa [checkApproval, hover] using happroval

/-! ## What the calls do to the rows -/

/-- What the rows keep: amounts that are not negative, and dates that are past. -/
structure Booked (b : Books) : Prop where
  proposals : ∀ p ∈ b.treasury.proposals.rows, 0 ≤ micros p.amountUsd
  expenses : ∀ x ∈ b.expenses, 0 ≤ micros x.amountUsd
  past : ∀ id t, b.decidedAt id = some t → t ≤ b.clock

theorem newBooks_booked : Booked newBooks where
  proposals _ h := by cases h
  expenses _ h := by cases h
  past _ _ h := by cases h

/-- A row after a plain event: the row itself, or that row with another status than `approved`. -/
def Passed (s s' : TreasuryState) : Prop :=
  ∀ p' ∈ s'.proposals.rows, p' ∈ s.proposals.rows ∨
    p'.status ≠ .approved ∧ ∃ p ∈ s.proposals.rows, p'.amountUsd = p.amountUsd

theorem passed_put {s : TreasuryState} {p p' : PaymentProposal} {exports : List Composed} (hp : p ∈ s.proposals.rows)
    (hstatus : p'.status ≠ .approved) (hamount : p'.amountUsd = p.amountUsd) :
    Passed s { s with proposals := s.proposals.put p', exports } := by
  intro q hq
  rcases Table.mem_put hq with rfl | hold
  · exact .inr ⟨hstatus, p, hp, hamount⟩
  · exact .inl hold

theorem passed_same {s s' : TreasuryState} (h : s'.proposals = s.proposals) : Passed s s' := by
  intro p' hp'
  rw [h] at hp'
  exact .inl hp'

/-- **A plain event approves nothing.** -/
theorem passed_of_plain {e : TreasuryEvent} (he : e.plain = true) (s : TreasuryState) :
    Passed s (treasuryStep canonical s e) := by
  cases e with
  | call c written =>
    unfold treasuryStep
    cases written with
    | false => exact passed_same rfl
    | true =>
      dsimp only
      cases h : c.apply canonical s with
      | error _ => exact passed_same rfl
      | ok s' =>
        cases c with
        | updateConfig update =>
          obtain ⟨_, _, rfl⟩ := updateConfig_ok h
          exact passed_same rfl
        | freeze =>
          cases h
          exact passed_same rfl
        | clearFreeze =>
          obtain rfl := clearFreeze_ok h
          exact passed_same rfl
        | addProvider id input =>
          obtain ⟨_, -, rfl⟩ := addProvider_ok h
          exact passed_same rfl
        | updateProvider id update =>
          obtain ⟨_, -, rfl⟩ := updateProvider_ok h
          exact passed_same rfl
        | cancel id =>
          obtain ⟨p, hp, -, rfl⟩ := cancel_ok h
          apply passed_put (Table.mem_of_get hp)
          · simp
          · rfl
        | propose | approve | reject => cases he
  | beginExport id =>
    unfold treasuryStep
    dsimp only
    split
    · exact passed_same rfl
    · exact passed_same rfl
  | finishExport i answer written =>
    unfold treasuryStep
    dsimp only
    split
    · exact passed_same rfl
    · rename_i c hc
      split
      · rename_i s' instruction hfinish
        obtain ⟨-, -, p, hp, -, rfl⟩ := finishExport_ok hfinish
        apply passed_put (Table.mem_of_get hp)
        · simp
        · rfl
      · exact passed_same rfl
  | restart => exact passed_same rfl

/-! ## An approval -/

theorem spendFor_month {provider : Option Provider} {period id : String} {now : Int} {spend : Spend}
    (h : b.spendFor provider period (some id) now = .ok spend)
    (hrow : ∀ p ∈ b.treasury.proposals.rows, p.id = id → p.status.spent = false) :
    micros spend.monthToDateApprovedUsd = b.monthSpend (monthOf now) := by
  obtain ⟨total, htotal, h⟩ := bind_ok.1 h
  obtain ⟨_, -, h⟩ := bind_ok.1 h
  rw [pure_ok] at h
  subst h
  show micros total = _
  rw [sumUsd_ok htotal, List.map_map, Books.approvedInMonth, List.filter_filter]
  have hsum := b.treasury.proposals.sum_filter (fun p => micros p.amountUsd) fun p =>
    (decide (some p.id ≠ some id) && (p.status.spent && (b.decidedAt p.id).any fun t =>
      decide ((monthBounds now).1 ≤ t) && decide (t < (monthBounds now).2))) = true
  simp only [Bool.decide_eq_true] at hsum
  refine hsum.trans (Table.total_congr fun p hp => ?_)
  have hmonth : (b.decidedAt p.id).any (fun t => decide ((monthBounds now).1 ≤ t) && decide (t < (monthBounds now).2)) =
      (b.decidedAt p.id).any fun t => monthOf t = monthOf now := by
    congr 1
    funext t
    rw [← Bool.decide_and]
    exact decide_eq_decide.2 monthOf_eq.symm
  rw [hmonth]
  by_cases hid : p.id = id
  · simp [hrow p hp hid]
  · simp [hid]

theorem spendFor_period {pr : Provider} {period : String} {exclude : Option String} {now : Int} {spend : Spend}
    (h : b.spendFor (some pr) period exclude now = .ok spend) (hcount : (b.expensesOf pr.id period).length ≤ 2000) :
    micros spend.providerPeriodSpendUsd = b.expenseSpend pr.id period + b.proposalSpend pr.id period := by
  obtain ⟨_, -, h⟩ := bind_ok.1 h
  obtain ⟨total, htotal, h⟩ := bind_ok.1 h
  rw [pure_ok] at h
  subst h
  show micros total = _
  have hall : b.listExpenses pr.id period 2000 = b.expensesOf pr.id period := List.take_of_length_le hcount
  rw [sumUsd_ok htotal, hall, List.map_append, List.sum_append, List.map_map, List.map_map]
  congr 1
  have hsum := b.treasury.proposals.sum_filter (fun p => micros p.amountUsd) fun p =>
    (p.status.spent && decide (p.providerId = pr.id ∧ b.period p.id = period)) = true
  simp only [Bool.decide_eq_true] at hsum
  refine hsum.trans (Table.total_congr fun p _ => ?_)
  simp

/-- A row that counted for nothing is replaced by one that counts. -/
theorem total_decided {t : Table PaymentProposal.id} {p p' : PaymentProposal} {v v' : PaymentProposal → Int}
    (hp : t.get p.id = some p) (hid : p'.id = p.id) (hv : v p = 0) (hv' : v' p = 0)
    (hother : ∀ q ∈ t.rows, q.id ≠ p.id → v' q = v q) : (t.put p').total v' = t.total v + v' p' := by
  have hsame : t.total v' = t.total v := by
    apply Table.total_congr
    intro q hq
    by_cases hqid : q.id = p.id
    · have hget := Table.get_key_of_mem hq
      rw [hqid, hp] at hget
      rw [← Option.some.inj hget, hv, hv']
    · exact hother q hq hqid
  rw [Table.total_put, hid, Table.share_some hp, hv', hsame]
  omega

theorem monthSpend_decided {p : PaymentProposal} {creatorApproval : Bool} {later : Nat}
    (hp : b.treasury.proposals.get p.id = some p) (hstatus : p.status = .proposed) :
    (b.decided p.id later (decideProposal p .approved creatorApproval b.treasury)).monthSpend (monthOf (b.clock + later)) =
      b.monthSpend (monthOf (b.clock + later)) + micros p.amountUsd := by
  unfold Books.monthSpend Books.decided decideProposal
  rw [total_decided (v := fun q => if q.status.spent = true ∧ (b.decidedAt q.id).any (fun t => monthOf t =
    monthOf (b.clock + later)) = true then micros q.amountUsd else 0) hp]
  · simp [ProposalStatus.spent]
  · rfl
  · simp [hstatus, ProposalStatus.spent]
  · simp [hstatus, ProposalStatus.spent]
  · intro q _ hid
    simp only [Function.update_of_ne hid]

theorem proposalSpend_decided {p : PaymentProposal} {creatorApproval : Bool} {later : Nat}
    (hp : b.treasury.proposals.get p.id = some p) (hstatus : p.status = .proposed) :
    (b.decided p.id later (decideProposal p .approved creatorApproval b.treasury)).proposalSpend p.providerId
      (b.period p.id) = b.proposalSpend p.providerId (b.period p.id) + micros p.amountUsd := by
  unfold Books.proposalSpend Books.decided decideProposal
  rw [total_decided (v := fun q => if q.status.spent = true ∧ q.providerId = p.providerId ∧ b.period q.id = b.period p.id then
    micros q.amountUsd else 0) hp]
  · simp [ProposalStatus.spent]
  · rfl
  · simp [hstatus, ProposalStatus.spent]
  · simp [hstatus, ProposalStatus.spent]
  · intro q _ _
    rfl

theorem Booked.monthSpend_nonneg (hb : Booked b) (k : Int) : 0 ≤ b.monthSpend k := by
  unfold Books.monthSpend Table.total
  apply List.sum_nonneg
  intro x hx
  obtain ⟨p, hp, rfl⟩ := List.mem_map.1 hx
  split
  · exact hb.proposals p hp
  · exact le_refl 0

/-- Nothing was decided in a month that has not begun. -/
theorem Booked.monthSpend_ahead (hb : Booked b) {k : Int} (hk : monthOf b.clock < k) : b.monthSpend k = 0 := by
  unfold Books.monthSpend Table.total
  apply List.sum_eq_zero
  intro x hx
  obtain ⟨p, hp, rfl⟩ := List.mem_map.1 hx
  rw [if_neg]
  rintro ⟨-, hmonth⟩
  obtain ⟨t, ht, hk'⟩ := (Option.any_eq_true _ _).1 hmonth
  have hpast := monthOf_mono (hb.past _ _ ht)
  have := of_decide_eq_true hk'
  omega

theorem Books.approve_ok {id : String} {creatorApproval : Bool} {later : Nat}
    (h : b.approve id creatorApproval later = .ok b') :
    ∃ p spend, b.treasury.proposals.get p.id = some p ∧ p.id = id ∧ p.status = .proposed ∧
      b.spendFor (b.treasury.providers.get p.providerId) (b.period p.id) (some p.id) b.clock = .ok spend ∧
      (b' = b.decided p.id later (decideProposal p .approved creatorApproval b.treasury) ∧
          (∃ d, evaluateCaps (approvalInput p creatorApproval spend b.treasury) = .ok d ∧ d.allowed = true) ∨
        b' = b.decided p.id later (decideProposal p .rejected creatorApproval b.treasury)) := by
  simp only [Books.approve, bind_ok, pure_ok] at h
  obtain ⟨p, hp, _, -, _, -, spend, hspend, ⟨treasury, refused⟩, happrove, rfl⟩ := h
  obtain ⟨p', hp', hstatus, hcase⟩ := Treasury.approve_ok happrove
  have hrow := getProposal_ok hp
  obtain rfl : p = p' := Option.some.inj (hrow.symm.trans hp')
  obtain rfl : p.id = id := Table.key_of_get hrow
  refine ⟨p, spend, hrow, rfl, hstatus, hspend, ?_⟩
  rcases hcase with ⟨rfl, hallowed⟩ | rfl
  · exact .inl ⟨rfl, hallowed⟩
  · exact .inr rfl

/-- **An approval is within the caps**, where every expense is counted. -/
theorem Booked.capped (hb : Booked b) {p : PaymentProposal} {creatorApproval : Bool} {later : Nat} {spend : Spend}
    {d : CapDecision} (hp : b.treasury.proposals.get p.id = some p) (hstatus : p.status = .proposed)
    (hspend : b.spendFor (b.treasury.providers.get p.providerId) (b.period p.id) (some p.id) b.clock = .ok spend)
    (hd : evaluateCaps (approvalInput p creatorApproval spend b.treasury) = .ok d) (ha : d.allowed = true)
    (hcount : counted b (.approve p.id creatorApproval later) = true) :
    Capped b (b.decided p.id later (decideProposal p .approved creatorApproval b.treasury))
      { p with status := .approved, creatorApproval } := by
  have hwithin := evaluateCaps_within hd ha
  have hmonth := hwithin.month
  dsimp only [approvalInput] at hmonth
  rw [spendFor_month hspend] at hmonth
  · refine ⟨(evaluateCaps_allowed hd ha).1, ⟨b.clock + later, Function.update_self .., ?_⟩, hwithin.perPayment,
      hwithin.approval rfl, allowlisted_of_allowed hd ha, fun pr hpr hbudget => ?_⟩
    · rw [monthSpend_decided hp hstatus]
      rcases (monthOf_mono (show b.clock ≤ b.clock + later by omega)).lt_or_eq with hahead | hsame
      · -- The month began between the evaluation and the decision.
        rw [hb.monthSpend_ahead hahead]
        have := hb.monthSpend_nonneg (monthOf b.clock)
        omega
      · rw [← hsame]
        exact hmonth
    · dsimp only at hpr ⊢
      have hid : pr.id = p.providerId := Table.key_of_get hpr
      unfold counted at hcount
      dsimp only at hcount
      rw [hp] at hcount
      dsimp only at hcount
      rw [hpr] at hcount
      have hlisted := (of_decide_eq_true hcount).resolve_left (by omega)
      rw [hpr] at hspend
      have hperiod := hwithin.budget pr hpr hbudget
      dsimp only [approvalInput] at hperiod
      rw [spendFor_period hspend hlisted, hid] at hperiod
      show b.expenseSpend p.providerId (b.period p.id) + Books.proposalSpend (b.decided _ _ _) _ (b.period p.id) ≤ _
      rw [proposalSpend_decided hp hstatus]
      omega
  · intro q hq hid
    have hget := Table.get_key_of_mem hq
    rw [hid, hp] at hget
    rw [← Option.some.inj hget, hstatus]
    rfl

/-! ## Every event -/

theorem booksStep_did (canonical : ChainId → String → String → Result String) (b : Books) (e : BooksEvent) :
    ∃ e', Did canonical b.treasury e' (booksStep canonical b e).treasury := by
  have hstay : ∃ e', Did canonical b.treasury e' b.treasury := ⟨.restart, did_nothing _⟩
  unfold booksStep
  cases e with
  | tick n => exact hstay
  | propose id request period =>
    dsimp only
    cases h : b.propose id request period with
    | error _ => exact hstay
    | ok b' =>
      simp only [Books.propose, bind_ok, pure_ok] at h
      obtain ⟨spend, -, treasury, hpropose, rfl⟩ := h
      exact ⟨_, did_call (c := .propose id request spend) hpropose⟩
  | approve id creatorApproval later =>
    dsimp only
    cases h : b.approve id creatorApproval later with
    | error _ => exact hstay
    | ok b' =>
      simp only [Books.approve, bind_ok, pure_ok] at h
      obtain ⟨_, -, _, -, _, -, spend, -, outcome, happrove, rfl⟩ := h
      exact ⟨_, did_call (c := .approve id creatorApproval spend) (bind_ok.2 ⟨outcome, happrove, rfl⟩)⟩
  | reject id later =>
    dsimp only
    cases h : b.reject id later with
    | error _ => exact hstay
    | ok b' =>
      obtain ⟨treasury, hreject, h⟩ := bind_ok.1 h
      rw [pure_ok] at h
      subst h
      exact ⟨_, did_call (c := .reject id) hreject⟩
  | recordExpense record =>
    dsimp only
    cases h : b.recordExpense record with
    | error _ => exact hstay
    | ok b' =>
      simp only [Books.recordExpense, bind_ok, pure_ok] at h
      obtain ⟨_, -, _, -, _, -, _, -, rfl⟩ := h
      exact hstay
  | other e => exact ⟨e.1, did_step canonical _ _⟩

/-- **Every event keeps to the life of a proposal.** -/
theorem lifecycle_step (canonical : ChainId → String → String → Result String) (b : Books) (e : BooksEvent) :
    Lifecycle b (booksStep canonical b e) := by
  obtain ⟨e', hdid⟩ := booksStep_did canonical b e
  intro id
  have hbecame := hdid.became id
  generalize b.treasury.proposals.get id = row at hbecame ⊢
  generalize (booksStep canonical b e).treasury.proposals.get id = row' at hbecame ⊢
  cases hbecame with
  | same => exact .inl rfl
  | created p hstatus => exact .inr (.inl ⟨rfl, p, rfl, hstatus⟩)
  | decided p status creatorApproval hstatus hdecided =>
    refine .inr (.inr ⟨p, _, rfl, rfl, ?_⟩)
    dsimp only
    rcases hdecided with ⟨rfl, -⟩ | rfl
    · rw [hstatus]
      exact .approved
    · rw [hstatus]
      exact .rejected
  | cancelled p hstatus =>
    refine .inr (.inr ⟨p, _, rfl, rfl, ?_⟩)
    rw [hstatus]
    exact .cancelled
  | exported p i hstatus =>
    refine .inr (.inr ⟨p, _, rfl, rfl, ?_⟩)
    rw [hstatus]
    exact .exported

theorem Booked.decided (hb : Booked b) {p : PaymentProposal} (hp : b.treasury.proposals.get p.id = some p)
    (status : ProposalStatus) (creatorApproval : Bool) (later : Nat) :
    Booked (b.decided p.id later (decideProposal p status creatorApproval b.treasury)) where
  proposals q hq := by
    rcases Table.mem_put hq with rfl | hold
    · exact hb.proposals p (Table.mem_of_get hp)
    · exact hb.proposals q hold
  expenses := hb.expenses
  past id t ht := by
    unfold Books.decided at ht ⊢
    dsimp only at ht ⊢
    by_cases hid : id = p.id
    · rw [hid, Function.update_self] at ht
      exact le_of_eq (Option.some.inj ht).symm
    · rw [Function.update_of_ne hid] at ht
      have := hb.past id t ht
      omega

/-- A row put in another status than `approved` needs no cap. -/
theorem capped_put {p : PaymentProposal} (h : b'.treasury.proposals = b.treasury.proposals.put p)
    (hp : p.status = .approved → Capped b b' p) : ApprovalsCapped b b' := by
  intro id q hq hstatus
  rw [h, Table.get_put] at hq
  split at hq
  · obtain rfl := Option.some.inj hq
    exact .inr (hp hstatus)
  · exact .inl hq

theorem capped_same (h : b'.treasury.proposals = b.treasury.proposals) : ApprovalsCapped b b' := by
  intro id p hp _
  rw [h] at hp
  exact .inl hp

/-- **Every event keeps the rows in order, and approves within the caps** what it approves with every expense counted. -/
theorem Booked.step (hb : Booked b) (e : BooksEvent) :
    Booked (booksStep canonical b e) ∧ (counted b e = true → ApprovalsCapped b (booksStep canonical b e)) := by
  have hstay : Booked b ∧ (counted b e = true → ApprovalsCapped b b) := ⟨hb, fun _ => capped_same rfl⟩
  unfold booksStep
  cases e with
  | tick n =>
    refine ⟨⟨hb.proposals, hb.expenses, fun id t ht => ?_⟩, fun _ => capped_same rfl⟩
    have := hb.past id t ht
    dsimp only
    omega
  | propose id request period =>
    dsimp only
    cases h : b.propose id request period with
    | error _ => exact hstay
    | ok b' =>
      simp only [Books.propose, bind_ok, pure_ok] at h
      obtain ⟨spend, -, treasury, hpropose, rfl⟩ := h
      obtain ⟨p, -, hstatus, hamount, rfl⟩ := propose_ok hpropose
      refine ⟨⟨fun q hq => ?_, hb.expenses, hb.past⟩, fun _ => capped_put rfl fun happroved => ?_⟩
      · rcases Table.mem_put hq with rfl | hold
        · exact canonicalUsd_ok hamount
        · exact hb.proposals q hold
      · rw [hstatus] at happroved
        cases happroved
  | approve id creatorApproval later =>
    dsimp only
    cases h : b.approve id creatorApproval later with
    | error _ => exact hstay
    | ok b' =>
      obtain ⟨p, spend, hp, rfl, hstatus, hspend, ⟨rfl, d, hd, hallowed⟩ | rfl⟩ := Books.approve_ok h
      · exact ⟨hb.decided hp .approved creatorApproval later,
          fun hcount => capped_put rfl fun _ => hb.capped hp hstatus hspend hd hallowed hcount⟩
      · exact ⟨hb.decided hp .rejected creatorApproval later, fun _ => capped_put rfl fun happroved => by cases happroved⟩
  | reject id later =>
    dsimp only
    cases h : b.reject id later with
    | error _ => exact hstay
    | ok b' =>
      obtain ⟨treasury, hreject, h⟩ := bind_ok.1 h
      rw [pure_ok] at h
      subst h
      obtain ⟨p, hp, -, rfl⟩ := reject_ok hreject
      obtain rfl : p.id = id := Table.key_of_get hp
      exact ⟨hb.decided hp .rejected false later, fun _ => capped_put rfl fun happroved => by cases happroved⟩
  | recordExpense record =>
    dsimp only
    cases h : b.recordExpense record with
    | error _ => exact hstay
    | ok b' =>
      simp only [Books.recordExpense, bind_ok, pure_ok] at h
      obtain ⟨_, -, amount, hamount, _, -, _, -, rfl⟩ := h
      refine ⟨⟨hb.proposals, fun x hx => ?_, hb.past⟩, fun _ => capped_same rfl⟩
      rcases List.mem_cons.1 hx with rfl | hold
      · exact canonicalUsd_ok hamount
      · exact hb.expenses x hold
  | other e =>
    have hpassed : Passed b.treasury (treasuryStep canonical b.treasury e) := passed_of_plain e.2 _
    refine ⟨⟨fun q hq => ?_, hb.expenses, hb.past⟩, fun _ id q hq hstatus => ?_⟩
    · rcases hpassed q hq with hold | ⟨-, p, hp, hamount⟩
      · exact hb.proposals q hold
      · rw [hamount]
        exact hb.proposals p hp
    · dsimp only at hq
      rcases hpassed q (Table.mem_of_get hq) with hold | ⟨hne, -⟩
      · obtain rfl := Table.key_of_get hq
        exact .inl (Table.get_key_of_mem hold)
      · exact absurd hstatus hne

/-! ## Runs -/

/-- The books after a run from their first opening. -/
def books (canonical : ChainId → String → String → Result String) (es : List BooksEvent) : Books :=
  after (booksStep canonical) newBooks es

theorem books_booked (es : List BooksEvent) : Booked (books canonical es) :=
  invariant newBooks_booked (fun _ e hb => (hb.step e).1) es

/-- **Treasury caps.**  In a run in which every approval counts all expenses, whatever becomes approved does so within the
caps; and every proposal follows its life. -/
theorem approvals_capped (es : List BooksEvent)
    (h : Along (booksStep canonical) (fun b e => counted b e = true) newBooks es) :
    Along (booksStep canonical) (fun b e => ApprovalsCapped b (booksStep canonical b e) ∧
      Lifecycle b (booksStep canonical b e)) newBooks es := by
  induction es using List.reverseRecOn with
  | nil => trivial
  | append_singleton es e ih =>
    obtain ⟨hes, he⟩ := along_snoc.1 h
    exact along_snoc.2 ⟨ih hes, ((books_booked es).step e).2 he, lifecycle_step canonical _ e⟩

end

/-! ## An approval within the budget -/

/-- Hosting has a budget of 100 USD, and 60 of them are spent. -/
def spent60 : List BooksEvent :=
  [.other ⟨addHosting, rfl⟩,
    .other ⟨.call (.updateConfig ⟨⟨none, some "50", some "500", some "50"⟩,
      [⟨.base, "0x1111111111111111111111111111111111111111", [], true⟩]⟩) true, rfl⟩,
    .recordExpense ⟨"hosting", "1970-01", "60"⟩,
    .tick 1]

def approve50 : BooksEvent := .approve "payment" true 0

/-- A payment that fits the budget. -/
def fitting : List BooksEvent := spent60 ++ [.propose "payment" ⟨"hosting", "USDC", "40"⟩ none, approve50]

theorem approvals_capped_fitting :
    Along (booksStep asGiven) (fun b e => ApprovalsCapped b (booksStep asGiven b e) ∧
      Lifecycle b (booksStep asGiven b e)) newBooks fitting ∧
    ((books asGiven fitting).treasury.proposals.get "payment").map PaymentProposal.status = some .approved := by
  refine ⟨approvals_capped fitting ?_, by decide +kernel⟩
  exact ⟨rfl, rfl, rfl, rfl, rfl, by decide +kernel, trivial⟩

/-! ## A budget passed behind 2000 small expenses -/

def smallExpense : Expense := ⟨"hosting", "1970-01", "0.000001"⟩

def propose50 : BooksEvent := .propose "payment" ⟨"hosting", "USDC", "50"⟩ none

/-- The large expense is no longer among the newest 2000. -/
def crowded : List BooksEvent := spent60 ++ List.replicate 2000 (.recordExpense smallExpense) ++ [propose50]

theorem booksStep_small {b : Books} (h : (b.treasury.providers.get "hosting").isSome) :
    booksStep asGiven b (.recordExpense smallExpense) = { b with expenses := smallExpense :: b.expenses } := by
  obtain ⟨pr, hpr⟩ := Option.isSome_iff_exists.1 h
  have hid : pr.id = "hosting" := Table.key_of_get hpr
  have hamount : canonicalUsd "0.000001" "amountUsd" = .ok "0.000001" := by rfl
  have hmicros : usdToMicros "0.000001" = .ok 1 := by rfl
  have hok : b.recordExpense smallExpense = .ok { b with expenses := smallExpense :: b.expenses } := by
    simp only [Books.recordExpense, getProvider, smallExpense, hpr, bind_ok, pure_ok]
    exact ⟨pr, rfl, _, hamount, 1, hmicros, (), by rfl, by rw [hid]⟩
  unfold booksStep
  dsimp only
  rw [hok]
  rfl

theorem after_small {b : Books} (h : (b.treasury.providers.get "hosting").isSome) (n : Nat) :
    after (booksStep asGiven) b (List.replicate n (.recordExpense smallExpense)) =
      { b with expenses := List.replicate n smallExpense ++ b.expenses } := by
  induction n with
  | zero => rfl
  | succ n ih =>
    rw [List.replicate_succ', after_snoc, ih, booksStep_small]
    · rfl
    · exact h

theorem mapM_replicate {amount : String} {m : Int} (h : usdToMicros amount = .ok m) (n : Nat) :
    (List.replicate n amount).mapM usdToMicros = .ok (List.replicate n m) := by
  induction n with
  | zero => rfl
  | succ n ih =>
    rw [List.replicate_succ, List.mapM_cons]
    exact bind_ok.2 ⟨m, h, bind_ok.2 ⟨_, ih, rfl⟩⟩

/-- With nothing approved yet, and 2000 small expenses last, the budget is compared with these. -/
theorem spendFor_small {b : Books} {rest : List Expense} {pr : Provider} {exclude : Option String} {now : Int}
    (hspent : ∀ p ∈ b.treasury.proposals.rows, p.status.spent = false)
    (hexpenses : b.expenses = List.replicate 2000 smallExpense ++ rest) (hid : pr.id = "hosting") :
    b.spendFor (some pr) "1970-01" exclude now = .ok ⟨"0.000000", "0.002000"⟩ := by
  have hmonth : b.approvedInMonth now = [] := List.filter_eq_nil_iff.2 fun p hp => by simp [hspent p hp]
  have hperiod : b.approvedForProviderPeriod pr.id "1970-01" = [] :=
    List.filter_eq_nil_iff.2 fun p hp => by simp [hspent p hp]
  have hlisted : b.listExpenses pr.id "1970-01" 2000 = List.replicate 2000 smallExpense := by
    unfold Books.listExpenses Books.expensesOf
    rw [hexpenses, hid, List.filter_append, List.filter_replicate_of_pos (by decide)]
    exact List.take_left' List.length_replicate
  have hsum : sumUsd (List.replicate 2000 "0.000001") = .ok "0.002000" := by
    refine bind_ok.2 ⟨_, mapM_replicate (m := 1) rfl 2000, ?_⟩
    rw [List.sum_replicate]
    rfl
  refine bind_ok.2 ⟨"0.000000", ?_, bind_ok.2 ⟨"0.002000", ?_, rfl⟩⟩
  · rw [hmonth]
    rfl
  · unfold Books.providerSpend Books.providerPeriodSpend
    dsimp only
    rw [hlisted, hperiod, List.map_nil, List.append_nil, List.map_replicate]
    exact hsum

/-- The books before the small expenses. -/
def opened : Books := books asGiven spent60

theorem opened_evaluated : (opened.treasury.providers.get "hosting").isSome = true ∧ opened.treasury.proposals.rows = [] ∧
    periodOf opened.clock = "1970-01" ∧ opened.expenses = [⟨"hosting", "1970-01", "60.000000"⟩] := by
  decide +kernel

/-- The treasury once the payment is proposed, and once it is approved. -/
def proposed50 : TreasuryState :=
  (Treasury.propose "payment" ⟨"hosting", "USDC", "50"⟩ ⟨"0.000000", "0.002000"⟩ opened.treasury).toOption.getD newTreasury

def approved50 : TreasuryState :=
  ((Treasury.approve "payment" true ⟨"0.000000", "0.002000"⟩ proposed50).toOption.map Prod.fst).getD newTreasury

/-- The books before the approval. -/
def crowdedBooks : Books :=
  { opened with
    treasury := proposed50
    period := Function.update opened.period "payment" "1970-01"
    expenses := List.replicate 2000 smallExpense ++ opened.expenses }

theorem payment_evaluated :
    (Treasury.propose "payment" ⟨"hosting", "USDC", "50"⟩ ⟨"0.000000", "0.002000"⟩ opened.treasury).toOption.isSome = true ∧
    (Treasury.approve "payment" true ⟨"0.000000", "0.002000"⟩ proposed50).toOption.isSome = true ∧
    (proposed50.proposals.get "payment").map (fun p => (p.status, p.providerId)) = some (.proposed, "hosting") ∧
    (approved50.proposals.get "payment").map (fun p => (p.status, p.providerId)) = some (.approved, "hosting") ∧
    (proposed50.providers.get "hosting").map Provider.monthlyBudgetUsd = some "100.000000" ∧
    (∀ p ∈ proposed50.proposals.rows, p.status.spent = false) ∧ proposed50.frozen = false ∧
    (crowdedBooks.decided "payment" 0 approved50).proposalSpend "hosting" "1970-01" = 50000000 := by
  decide +kernel

theorem ok_getD {r : Result TreasuryState} (h : r.toOption.isSome) : r = .ok (r.toOption.getD newTreasury) := by
  cases r with
  | ok s => rfl
  | error e => cases h

theorem propose50_ok :
    Treasury.propose "payment" ⟨"hosting", "USDC", "50"⟩ ⟨"0.000000", "0.002000"⟩ opened.treasury = .ok proposed50 :=
  ok_getD payment_evaluated.1

theorem approve50_ok :
    ∃ refused, Treasury.approve "payment" true ⟨"0.000000", "0.002000"⟩ proposed50 = .ok (approved50, refused) := by
  obtain ⟨-, hok, -⟩ := payment_evaluated
  unfold approved50
  cases h : Treasury.approve "payment" true ⟨"0.000000", "0.002000"⟩ proposed50 with
  | ok r => exact ⟨r.2, rfl⟩
  | error e =>
    rw [h] at hok
    cases hok

theorem crowded_books : books asGiven crowded = crowdedBooks := by
  obtain ⟨hknown, hfresh, hperiod, -⟩ := opened_evaluated
  obtain ⟨pr, hpr⟩ := Option.isSome_iff_exists.1 hknown
  have hsmall : books asGiven (spent60 ++ List.replicate 2000 (.recordExpense smallExpense)) =
      { opened with expenses := List.replicate 2000 smallExpense ++ opened.expenses } := by
    unfold books after
    rw [List.foldl_append]
    exact after_small hknown 2000
  have hspend : Books.spendFor (some pr) "1970-01" none opened.clock
      { opened with expenses := List.replicate 2000 smallExpense ++ opened.expenses } = .ok ⟨"0.000000", "0.002000"⟩ :=
    spendFor_small (by rw [hfresh]; simp) rfl (Table.key_of_get hpr)
  unfold books crowded
  rw [after_snoc]
  show booksStep asGiven (books asGiven _) _ = _
  rw [hsmall]
  unfold booksStep propose50
  dsimp only
  have hok : Books.propose "payment" ⟨"hosting", "USDC", "50"⟩ none
      { opened with expenses := List.replicate 2000 smallExpense ++ opened.expenses } = .ok crowdedBooks := by
    simp only [Books.propose, Option.getD_none, hperiod, hpr, bind_ok, pure_ok]
    exact ⟨_, hspend, _, propose50_ok, rfl⟩
  rw [hok]
  rfl

theorem proposed50_row : ∃ p, proposed50.proposals.get "payment" = some p ∧ p.status = .proposed ∧ p.providerId = "hosting" := by
  obtain ⟨-, -, hrow, -⟩ := payment_evaluated
  obtain ⟨p, hp, hpair⟩ := Option.map_eq_some_iff.1 hrow
  rw [Prod.mk.injEq] at hpair
  exact ⟨p, hp, hpair⟩

theorem approved50_row : ∃ p, approved50.proposals.get "payment" = some p ∧ p.status = .approved ∧ p.providerId = "hosting" := by
  obtain ⟨-, -, -, hrow, -⟩ := payment_evaluated
  obtain ⟨p, hp, hpair⟩ := Option.map_eq_some_iff.1 hrow
  rw [Prod.mk.injEq] at hpair
  exact ⟨p, hp, hpair⟩

theorem crowded_period : crowdedBooks.period "payment" = "1970-01" := by
  unfold crowdedBooks
  dsimp only
  rw [Function.update_self]

theorem crowded_approved : booksStep asGiven crowdedBooks approve50 = crowdedBooks.decided "payment" 0 approved50 := by
  obtain ⟨p, hp, hstatus, hprovider⟩ := proposed50_row
  obtain ⟨refused, happrove⟩ := approve50_ok
  obtain ⟨-, -, -, -, hbudget, hunspent, hopen, -⟩ := payment_evaluated
  obtain ⟨pr, hpr, -⟩ := Option.map_eq_some_iff.1 hbudget
  have hproposal : getProposal "payment" crowdedBooks.treasury = .ok p := by
    unfold getProposal crowdedBooks
    dsimp only
    rw [hp]
    rfl
  have hproposed : assertTransition p .proposed "approve" = .ok () := by
    unfold assertTransition
    rw [hstatus]
    rfl
  have hfrozen : assertNotFrozen "approve a payment proposal" crowdedBooks.treasury = .ok () := by
    unfold assertNotFrozen crowdedBooks
    dsimp only
    rw [hopen]
    rfl
  have hspend : crowdedBooks.spendFor (crowdedBooks.treasury.providers.get p.providerId) (crowdedBooks.period "payment")
      (some "payment") crowdedBooks.clock = .ok ⟨"0.000000", "0.002000"⟩ := by
    have hprovider' : crowdedBooks.treasury.providers.get p.providerId = some pr := by
      rw [hprovider]
      exact hpr
    rw [crowded_period, hprovider']
    exact spendFor_small hunspent rfl (Table.key_of_get hpr)
  have hok : crowdedBooks.approve "payment" true 0 = .ok (crowdedBooks.decided "payment" 0 approved50) :=
    bind_ok.2 ⟨p, hproposal, bind_ok.2 ⟨(), hproposed, bind_ok.2 ⟨(), hfrozen, bind_ok.2 ⟨_, hspend,
      bind_ok.2 ⟨_, happrove, rfl⟩⟩⟩⟩⟩
  unfold booksStep approve50
  dsimp only
  rw [hok]
  rfl

theorem crowded_expenseSpend : crowdedBooks.expenseSpend "hosting" "1970-01" = 60002000 := by
  have hsmall : micros smallExpense.amountUsd = 1 := micros_ok rfl
  have hlarge : micros "60.000000" = 60000000 := micros_ok rfl
  obtain ⟨-, -, -, hexpenses⟩ := opened_evaluated
  unfold Books.expenseSpend Books.expensesOf crowdedBooks
  dsimp only
  rw [hexpenses, List.filter_append, List.filter_replicate_of_pos (by decide), List.map_append, List.sum_append,
    List.map_replicate, List.sum_replicate, hsmall]
  show 2000 • (1 : Int) + (micros "60.000000" + 0) = 60002000
  rw [hlarge]
  rfl

/-- **A budget is passed** when more than 2000 expenses were recorded for the period. -/
theorem budget_passed : ¬ ApprovalsCapped (books asGiven crowded) (booksStep asGiven (books asGiven crowded) approve50) := by
  rw [crowded_books, crowded_approved]
  intro h
  obtain ⟨p, hp, hstatus, hprovider⟩ := approved50_row
  obtain ⟨p', hp', hstatus', -⟩ := proposed50_row
  have hid : p.id = "payment" := Table.key_of_get hp
  rcases h "payment" p hp hstatus with hold | hcapped
  · obtain rfl : p' = p := Option.some.inj (hp'.symm.trans hold)
    rw [hstatus] at hstatus'
    cases hstatus'
  · obtain ⟨-, -, -, -, hbudget, -, -, hproposals⟩ := payment_evaluated
    obtain ⟨pr, hpr, hmonthly⟩ := Option.map_eq_some_iff.1 hbudget
    have hmicros : micros pr.monthlyBudgetUsd = 100000000 := by
      rw [hmonthly]
      exact micros_ok rfl
    have hlimit := hcapped.budget pr (by rw [hprovider]; exact hpr) (by rw [hmicros]; decide)
    have hperiod : (crowdedBooks.decided "payment" 0 approved50).period p.id = "1970-01" := by
      rw [hid]
      exact crowded_period
    rw [hprovider, hperiod, hmicros, hproposals] at hlimit
    have hexpenses : (crowdedBooks.decided "payment" 0 approved50).expenseSpend "hosting" "1970-01" = 60002000 :=
      crowded_expenseSpend
    rw [hexpenses] at hlimit
    revert hlimit
    decide

end Treasury
end Atra
