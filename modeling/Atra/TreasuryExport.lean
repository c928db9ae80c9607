import Atra.LiveProcess
import Atra.Registry
import Atra.Table
import Atra.History
/-!
# TreasuryExport — payment proposals, their approval, and the instruction a human pays from

A proposal is a row that is approved against the caps and then exported as an instruction.  `exportProposal` composes the
instruction, waits for a price, and writes it: between the two any admin call may run.  The write asks for the freeze and the
status again, and for nothing else.
-/
namespace Atra
namespace Treasury

open Money History

inductive BillingMode where
  | onChain | card | invoice | manual
deriving DecidableEq, Repr

structure Recipient where
  chain : ChainId
  address : String
deriving DecidableEq, Repr

structure Provider where
  id : String
  name : String
  billingMode : BillingMode
  monthlyBudgetUsd : String
  recipient : Option Recipient
  active : Bool
deriving DecidableEq, Repr

/-- The watch-only address of a chain. -/
structure TreasuryAddress where
  chain : ChainId
  address : String
  tokens : List TokenInfo
  enabled : Bool
deriving DecidableEq, Repr

structure TreasuryCaps where
  lowBalanceThresholdUsd : String
  perPaymentCapUsd : String
  monthlyCapUsd : String
  approvalThresholdUsd : String
deriving DecidableEq, Repr

inductive ProposalStatus where
  | proposed | approved | rejected | exported | cancelled
deriving DecidableEq, Repr

def ProposalStatus.name : ProposalStatus → String
  | .proposed => "proposed"
  | .approved => "approved"
  | .rejected => "rejected"
  | .exported => "exported"
  | .cancelled => "cancelled"

structure ExportedInstruction where
  proposalId : String
  chain : ChainId
  /-- The treasury address the transfer is expected to come from. -/
  source : String
  recipient : String
  asset : TokenInfo
  amountUsd : String
  amountBaseUnits : Option Int
  priceReason : Option String
  provider : String
deriving DecidableEq, Repr

structure PaymentProposal where
  id : String
  providerId : String
  chain : ChainId
  recipient : String
  asset : String
  amountUsd : String
  status : ProposalStatus
  creatorApproval : Bool
  instruction : Option ExportedInstruction
deriving DecidableEq, Repr

/-- An instruction composed before the price is known: the proposal, the token and the address as they were read. -/
structure Composed where
  proposal : PaymentProposal
  provider : String
  token : TokenInfo
  source : String
deriving DecidableEq, Repr

/-- The rows of the treasury, and the exports that wait for a price. -/
structure TreasuryState where
  caps : TreasuryCaps
  frozen : Bool
  addresses : Table TreasuryAddress.chain
  providers : Table Provider.id
  proposals : Table PaymentProposal.id
  exports : List Composed

def noCaps : TreasuryCaps := ⟨"0.000000", "0.000000", "0.000000", "0.000000"⟩

def newTreasury : TreasuryState := ⟨noCaps, false, .empty, .empty, .empty, []⟩

/-! ## The cap engine -/

inductive CapStage where
  | propose | approve
deriving DecidableEq, Repr

inductive CapCode where
  | FROZEN | PROVIDER_UNKNOWN | PROVIDER_INACTIVE | PROVIDER_NOT_ON_CHAIN | RECIPIENT_NOT_ALLOWLISTED | CHAIN_NOT_ENABLED
  | ASSET_UNKNOWN | AMOUNT_INVALID | PER_PAYMENT_CAP | MONTHLY_CAP | PROVIDER_BUDGET | CREATOR_APPROVAL_REQUIRED
deriving DecidableEq, Repr

def CapCode.text : CapCode → String
  | .FROZEN => "FROZEN"
  | .PROVIDER_UNKNOWN => "PROVIDER_UNKNOWN"
  | .PROVIDER_INACTIVE => "PROVIDER_INACTIVE"
  | .PROVIDER_NOT_ON_CHAIN => "PROVIDER_NOT_ON_CHAIN"
  | .RECIPIENT_NOT_ALLOWLISTED => "RECIPIENT_NOT_ALLOWLISTED"
  | .CHAIN_NOT_ENABLED => "CHAIN_NOT_ENABLED"
  | .ASSET_UNKNOWN => "ASSET_UNKNOWN"
  | .AMOUNT_INVALID => "AMOUNT_INVALID"
  | .PER_PAYMENT_CAP => "PER_PAYMENT_CAP"
  | .MONTHLY_CAP => "MONTHLY_CAP"
  | .PROVIDER_BUDGET => "PROVIDER_BUDGET"
  | .CREATOR_APPROVAL_REQUIRED => "CREATOR_APPROVAL_REQUIRED"

/-- Why a check was not evaluated. -/
inductive CapSkip where
  | shortCircuit | notApplicable
deriving DecidableEq, Repr

structure CapCheck where
  code : CapCode
  passed : Bool
  skipped : Option CapSkip
deriving DecidableEq, Repr

/-- What a decision is about. -/
structure CapRequest where
  chain : ChainId
  recipient : String
  asset : String
  amountUsd : String

/-- What was approved before: this month in all, and for the provider's billing period with its expenses. -/
structure Spend where
  monthToDateApprovedUsd : String
  providerPeriodSpendUsd : String

structure CapInput where
  stage : CapStage
  frozen : Bool
  caps : TreasuryCaps
  provider : Option Provider
  enabledChains : List ChainId
  proposal : CapRequest
  spend : Spend
  creatorApproval : Bool

structure CapDecision where
  allowed : Bool
  /-- The first check that failed, skipped ones after the others. -/
  code : Option CapCode
  checks : List CapCheck

def REMAINING_AFTER_FREEZE : List CapCode :=
  [.PROVIDER_UNKNOWN, .PROVIDER_INACTIVE, .PROVIDER_NOT_ON_CHAIN, .RECIPIENT_NOT_ALLOWLISTED, .CHAIN_NOT_ENABLED,
    .ASSET_UNKNOWN, .AMOUNT_INVALID, .PER_PAYMENT_CAP, .MONTHLY_CAP, .PROVIDER_BUDGET, .CREATOR_APPROVAL_REQUIRED]

def finish (checks : List CapCheck) : CapDecision :=
  let failed := checks.find? fun c => !c.passed && c.skipped ≠ some .shortCircuit
  let firstFailed := failed.or (checks.find? fun c => !c.passed)
  ⟨firstFailed.isNone, firstFailed.map CapCheck.code, checks⟩

/-- The recipient must be the provider's allowlisted address on its chain. -/
def recipientMatches (provider : Option Provider) (chain : ChainId) (recipient : String) : Bool :=
  provider.any fun p => p.recipient = some ⟨chain, recipient⟩

/-- A budget of zero, or no provider, leaves nothing to compare with. -/
def providerBudget (provider : Option Provider) : Result Int :=
  match provider with
  | some p => usdToMicros p.monthlyBudgetUsd
  | none => pure 0

def checkBudget (budget : Int) (spend : Spend) (safeAmount : Option Int) : Result CapCheck :=
  if 0 < budget then do
    let spent ← usdToMicros spend.providerPeriodSpendUsd
    return ⟨.PROVIDER_BUDGET, safeAmount.any fun a => spent + a ≤ budget, none⟩
  else pure ⟨.PROVIDER_BUDGET, true, some .notApplicable⟩

def checkApproval (stage : CapStage) (threshold : Int) (safeAmount : Option Int) (creatorApproval : Bool) : CapCheck :=
  match stage with
  | .propose => ⟨.CREATOR_APPROVAL_REQUIRED, true, some .notApplicable⟩
  | .approve => ⟨.CREATOR_APPROVAL_REQUIRED, !(safeAmount.any fun a => threshold ≤ a) || creatorApproval, none⟩

/-- Under a freeze nothing else is evaluated. -/
def frozenDecision : CapDecision :=
  finish (⟨.FROZEN, false, none⟩ :: REMAINING_AFTER_FREEZE.map fun code => ⟨code, false, some .shortCircuit⟩)

def evaluateUnfrozen (i : CapInput) : Result CapDecision := do
  let unknown := if i.provider.isNone then some .shortCircuit else none
  let amount := (usdToMicros i.proposal.amountUsd).toOption
  let safeAmount := amount.filter (0 < ·)
  let perPayment ← usdToMicros i.caps.perPaymentCapUsd
  let monthly ← usdToMicros i.caps.monthlyCapUsd
  let mtd ← usdToMicros i.spend.monthToDateApprovedUsd
  let budget ← providerBudget i.provider
  let budgetCheck ← checkBudget budget i.spend safeAmount
  let threshold ← usdToMicros i.caps.approvalThresholdUsd
  return finish [
    ⟨.FROZEN, true, none⟩,
    ⟨.PROVIDER_UNKNOWN, i.provider.isSome, none⟩,
    ⟨.PROVIDER_INACTIVE, i.provider.any Provider.active, unknown⟩,
    ⟨.PROVIDER_NOT_ON_CHAIN, i.provider.any fun p => p.billingMode = .onChain, unknown⟩,
    ⟨.RECIPIENT_NOT_ALLOWLISTED, recipientMatches i.provider i.proposal.chain i.proposal.recipient, none⟩,
    ⟨.CHAIN_NOT_ENABLED, i.enabledChains.contains i.proposal.chain, none⟩,
    ⟨.ASSET_UNKNOWN, (CHAINS i.proposal.chain).tokens.any fun t => t.symbol = i.proposal.asset, none⟩,
    ⟨.AMOUNT_INVALID, safeAmount.isSome, none⟩,
    ⟨.PER_PAYMENT_CAP, safeAmount.any fun a => a ≤ perPayment, none⟩,
    ⟨.MONTHLY_CAP, safeAmount.any fun a => mtd + a ≤ monthly, none⟩,
    budgetCheck,
    checkApproval i.stage threshold safeAmount i.creatorApproval]

def evaluateCaps (i : CapInput) : Result CapDecision :=
  if i.frozen then pure frozenDecision else evaluateUnfrozen i

/-! ## Configuration and providers -/

def canonicalUsd (value field : String) : Result String :=
  match usdToMicros value with
  | .ok micros =>
    if micros < 0 then throw ⟨.schemaInvalid, field ++ " must be a non-negative USD amount"⟩ else pure (microsToUsd micros)
  | .error _ => throw ⟨.schemaInvalid, field ++ " must be a non-negative USD amount"⟩

/-- The caps a request sets; the others stay as they are. -/
structure CapsUpdate where
  lowBalanceThresholdUsd : Option String
  perPaymentCapUsd : Option String
  monthlyCapUsd : Option String
  approvalThresholdUsd : Option String

structure ConfigUpdate where
  caps : CapsUpdate
  addresses : List TreasuryAddress

structure ProviderInput where
  name : String
  billingMode : BillingMode
  monthlyBudgetUsd : String
  recipient : Option Recipient

structure ProviderUpdate where
  name : Option String
  billingMode : Option BillingMode
  monthlyBudgetUsd : Option String
  /-- Absent, or the recipient that replaces the present one. -/
  recipient : Option (Option Recipient)
  active : Option Bool

structure ProposalRequest where
  providerId : String
  asset : String
  amountUsd : String

def BillingMode.name : BillingMode → String
  | .onChain => "on-chain"
  | .card => "card"
  | .invoice => "invoice"
  | .manual => "manual"

section
-- `canonicalTreasuryAddress`: the stored form of an address of the chain, or a refusal that names the field.
variable (canonical : ChainId → String → String → Result String)

def canonicalAddress (entry : TreasuryAddress) : Result TreasuryAddress := do
  let address ← canonical entry.chain entry.address ("addresses." ++ entry.chain.name ++ ".address")
  let tokens ← entry.tokens.mapM fun token => do
    let address ← canonical entry.chain token.address ("addresses." ++ entry.chain.name ++ ".tokens." ++ token.symbol)
    pure { token with address }
  return { entry with address, tokens }

def canonicalCap (value : Option String) (field before : String) : Result String :=
  match value with
  | some value => canonicalUsd value field
  | none => pure before

def updateConfig (update : ConfigUpdate) (s : TreasuryState) : Result TreasuryState := do
  let lowBalanceThresholdUsd ←
    canonicalCap update.caps.lowBalanceThresholdUsd "lowBalanceThresholdUsd" s.caps.lowBalanceThresholdUsd
  let perPaymentCapUsd ← canonicalCap update.caps.perPaymentCapUsd "perPaymentCapUsd" s.caps.perPaymentCapUsd
  let monthlyCapUsd ← canonicalCap update.caps.monthlyCapUsd "monthlyCapUsd" s.caps.monthlyCapUsd
  let approvalThresholdUsd ← canonicalCap update.caps.approvalThresholdUsd "approvalThresholdUsd" s.caps.approvalThresholdUsd
  let addresses ← update.addresses.mapM (canonicalAddress canonical)
  return { s with
    caps := ⟨lowBalanceThresholdUsd, perPaymentCapUsd, monthlyCapUsd, approvalThresholdUsd⟩
    addresses := addresses.foldl Table.put s.addresses }

def clearFreeze (s : TreasuryState) : Result TreasuryState := do
  refuseWhen (s.frozen = false) ⟨.conflict, "The treasury is not frozen"⟩
  return { s with frozen := false }

def normalizeProvider (input : ProviderInput) : Result ProviderInput := do
  let name := String.ofList (Live.jsTrim input.name.toList)
  refuseWhen (name = "") ⟨.schemaInvalid, "A provider needs a name"⟩
  let monthlyBudgetUsd ← canonicalUsd input.monthlyBudgetUsd "monthlyBudgetUsd"
  match input.billingMode, input.recipient with
  | .onChain, none => throw ⟨.schemaInvalid, "An on-chain provider needs an allowlisted recipient address"⟩
  | .onChain, some r =>
    let address ← canonical r.chain r.address "recipient.address"
    return ⟨name, .onChain, monthlyBudgetUsd, some ⟨r.chain, address⟩⟩
  | mode, some _ =>
    throw ⟨.schemaInvalid, "A " ++ mode.name ++ " provider cannot carry a recipient address; " ++
      "only on-chain providers are paid from the treasury wallet"⟩
  | mode, none => return ⟨name, mode, monthlyBudgetUsd, none⟩

/-- Names are compared without regard to ASCII case. -/
def findProviderByName (name : String) (s : TreasuryState) : Option Provider :=
  s.providers.rows.find? fun p => asciiLower p.name = asciiLower name

def getProvider (id : String) (s : TreasuryState) : Result Provider :=
  match s.providers.get id with
  | some p => pure p
  | none => throw ⟨.notFound, "No treasury provider with id " ++ id⟩

/-- An identifier is a fresh one: the primary key refuses a second row. -/
def addProvider (id : String) (input : ProviderInput) (s : TreasuryState) : Result TreasuryState := do
  let clean ← normalizeProvider canonical input
  refuseWhen (findProviderByName clean.name s).isSome ⟨.conflict, "A provider named " ++ clean.name ++ " already exists"⟩
  refuseWhen (s.providers.get id).isSome ⟨.internal, "UNIQUE constraint failed: treasury_providers.id"⟩
  return { s with
    providers := s.providers.put ⟨id, clean.name, clean.billingMode, clean.monthlyBudgetUsd, clean.recipient, true⟩ }

def mergedProvider (current : Provider) (update : ProviderUpdate) : Result Provider := do
  let merged ← normalizeProvider canonical
    ⟨update.name.getD current.name, update.billingMode.getD current.billingMode,
      update.monthlyBudgetUsd.getD current.monthlyBudgetUsd, update.recipient.getD current.recipient⟩
  return ⟨current.id, merged.name, merged.billingMode, merged.monthlyBudgetUsd, merged.recipient,
    update.active.getD current.active⟩

def updateProvider (id : String) (update : ProviderUpdate) (s : TreasuryState) : Result TreasuryState := do
  let current ← getProvider id s
  let provider ← mergedProvider canonical current update
  refuseWhen ((findProviderByName provider.name s).any fun clash => clash.id ≠ id)
    ⟨.conflict, "A provider named " ++ provider.name ++ " already exists"⟩
  return { s with providers := s.providers.put provider }

end

/-! ## Proposals -/

def getProposal (id : String) (s : TreasuryState) : Result PaymentProposal :=
  match s.proposals.get id with
  | some p => pure p
  | none => throw ⟨.notFound, "No payment proposal with id " ++ id⟩

def assertTransition (p : PaymentProposal) (expected : ProposalStatus) (verb : String) : Result Unit :=
  refuseWhen (p.status ≠ expected)
    ⟨.conflict, "Cannot " ++ verb ++ " a proposal in status " ++ p.status.name ++ "; it must be " ++ expected.name⟩

def assertNotFrozen (verb : String) (s : TreasuryState) : Result Unit :=
  refuseWhen s.frozen ⟨.conflict, "The treasury is frozen; cannot " ++ verb⟩

def enabledChains (s : TreasuryState) : List ChainId :=
  (s.addresses.rows.filter TreasuryAddress.enabled).map TreasuryAddress.chain

def propose (id : String) (request : ProposalRequest) (spend : Spend) (s : TreasuryState) : Result TreasuryState := do
  let provider := s.providers.get request.providerId
  let recipient := provider.bind Provider.recipient
  let amountUsd ← canonicalUsd request.amountUsd "amountUsd"
  -- A provider without a recipient has no chain: the placeholder is refused by the check of the recipient.
  let chain := (recipient.map Recipient.chain).getD .base
  let address := (recipient.map Recipient.address).getD "none"
  let decision ← evaluateCaps
    ⟨.propose, s.frozen, s.caps, provider, enabledChains s, ⟨chain, address, request.asset, amountUsd⟩, spend, false⟩
  refuseWhen (decision.allowed = false) ⟨.conflict, "The payment proposal does not pass the treasury caps"⟩
  refuseWhen (s.proposals.get id).isSome ⟨.internal, "UNIQUE constraint failed: treasury_payment_proposals.id"⟩
  return { s with
    proposals := s.proposals.put
      ⟨id, request.providerId, chain, address, request.asset, amountUsd, .proposed, false, none⟩ }

def decideProposal (p : PaymentProposal) (status : ProposalStatus) (creatorApproval : Bool) (s : TreasuryState) :
    TreasuryState :=
  { s with proposals := s.proposals.put { p with status, creatorApproval } }

/-- A refusal by the caps is written as a rejection, and reported by the decision that comes with it. -/
def approve (id : String) (creatorApproval : Bool) (spend : Spend) (s : TreasuryState) :
    Result (TreasuryState × Option CapDecision) := do
  let proposal ← getProposal id s
  assertTransition proposal .proposed "approve"
  assertNotFrozen "approve a payment proposal" s
  let decision ← evaluateCaps
    ⟨.approve, s.frozen, s.caps, s.providers.get proposal.providerId, enabledChains s,
      ⟨proposal.chain, proposal.recipient, proposal.asset, proposal.amountUsd⟩, spend, creatorApproval⟩
  if decision.allowed then return (decideProposal proposal .approved creatorApproval s, none)
  else return (decideProposal proposal .rejected creatorApproval s, some decision)

def reject (id : String) (s : TreasuryState) : Result TreasuryState := do
  let proposal ← getProposal id s
  assertTransition proposal .proposed "reject"
  return decideProposal proposal .rejected false s

def cancel (id : String) (s : TreasuryState) : Result TreasuryState := do
  let proposal ← getProposal id s
  assertTransition proposal .approved "cancel"
  return { s with proposals := s.proposals.put { proposal with status := .cancelled } }

/-! ## Exports -/

structure PriceQuote where
  priceUsd : Option String
  disputed : Bool
  reason : Option String

/-- USD to base units at a price, rounded down so the instruction never overpays. -/
def usdToBaseUnits (amountUsd : String) (decimals : Nat) (priceUsd : String) : Result Int := do
  let usdMicros ← usdToMicros amountUsd
  let priceAtto ← priceToAtto priceUsd
  refuseWhen (priceAtto ≤ 0) ⟨.internal, "non-positive price"⟩
  let units := (usdMicros * 10 ^ decimals * 10 ^ 12).tdiv priceAtto
  let back ← nativeToUsdMicros units decimals priceAtto .ceil
  return if usdMicros < back then units - 1 else units

section
variable {amountUsd priceUsd : String} {decimals : Nat} {micros atto : Int}

theorem mul_scales (micros : Int) (decimals : Nat) : micros * 10 ^ decimals * 10 ^ 12 = micros * usdUnit decimals := by
  unfold usdUnit
  rw [Int.mul_assoc]
  rfl

/-- The units are the floor of the amount over the price, and their value, rounded up, is at most the amount: the correction
never fires. -/
theorem usdToBaseUnits_eq (hm : usdToMicros amountUsd = .ok micros) (h0 : 0 ≤ micros) (ha : priceToAtto priceUsd = .ok atto)
    (hpos : 0 < atto) (hd : decimals ≤ 36) :
    usdToBaseUnits amountUsd decimals priceUsd = .ok (Rounding.down (micros * usdUnit decimals) atto) := by
  have hnumerator : 0 ≤ micros * usdUnit decimals := Int.mul_nonneg h0 (usdUnit_pos decimals).le
  have hback : Rounding.up (Rounding.down (micros * usdUnit decimals) atto * atto) (usdUnit decimals) ≤ micros :=
    (Rounding.up_le_iff (usdUnit_pos decimals)).2 (Rounding.down_mul_le _ hpos)
  unfold usdToBaseUnits
  rw [hm, ha]
  refine bind_ok.2 ⟨micros, rfl, bind_ok.2 ⟨atto, rfl, bind_ok.2 ⟨(), refuseWhen_ok.2 (by omega), ?_⟩⟩⟩
  rw [mul_scales, Rounding.tdiv_eq_down hnumerator]
  refine bind_ok.2 ⟨_, nativeToUsdMicros_ceil hd hpos, ?_⟩
  rw [if_neg (Int.not_lt.2 hback)]
  rfl

/-- **A payment never overpays and is maximal**: it is worth at most the approved amount, exactly and rounded up, and one base
unit more would be worth more. -/
theorem payment_maximal (hm : usdToMicros amountUsd = .ok micros) (h0 : 0 ≤ micros) (ha : priceToAtto priceUsd = .ok atto)
    (hpos : 0 < atto) (hd : decimals ≤ 36) :
    ∃ units, usdToBaseUnits amountUsd decimals priceUsd = .ok units ∧ 0 ≤ units ∧
      exactValue units decimals atto ≤ (micros : ℚ) / 10 ^ 6 ∧
      (∃ back, nativeToUsdMicros units decimals atto .ceil = .ok back ∧ back ≤ micros) ∧
      (micros : ℚ) / 10 ^ 6 < exactValue (units + 1) decimals atto ∧
      units = (micros * 10 ^ decimals * 10 ^ 12).tdiv atto := by
  have hunit := usdUnit_pos decimals
  have hunit' : (0 : ℚ) < (usdUnit decimals : Int) := by exact_mod_cast hunit
  have hnumerator : 0 ≤ micros * usdUnit decimals := Int.mul_nonneg h0 hunit.le
  have hle := Rounding.down_mul_le (micros * usdUnit decimals) hpos
  have hlt := Rounding.lt_down_mul (micros * usdUnit decimals) hpos
  have hexact (k : Int) : exactValue k decimals atto = ((k * atto : Int) : ℚ) / (usdUnit decimals : Int) / 10 ^ 6 := by
    rw [← exactValue_eq]
    field_simp
  refine ⟨_, usdToBaseUnits_eq hm h0 ha hpos hd, Rounding.down_nonneg hpos hnumerator, ?_, ⟨_, nativeToUsdMicros_ceil hd hpos,
    (Rounding.up_le_iff hunit).2 hle⟩, ?_, ?_⟩
  · rw [hexact]
    gcongr
    rw [div_le_iff₀ hunit']
    exact_mod_cast hle
  · rw [hexact]
    gcongr
    rw [lt_div_iff₀ hunit', Int.add_mul, Int.one_mul]
    exact_mod_cast hlt
  · rw [mul_scales, Rounding.tdiv_eq_down hnumerator]

/-- 12.50 USD at 0.998, in a token of six decimals. -/
theorem payment_maximal_hosting : ∃ units, usdToBaseUnits "12.50" 6 "0.998" = .ok units ∧ 0 ≤ units ∧
    exactValue units 6 998000000000000000 ≤ ((12500000 : Int) : ℚ) / 10 ^ 6 ∧
    (∃ back, nativeToUsdMicros units 6 998000000000000000 .ceil = .ok back ∧ back ≤ 12500000) ∧
    ((12500000 : Int) : ℚ) / 10 ^ 6 < exactValue (units + 1) 6 998000000000000000 ∧
    units = (12500000 * 10 ^ 6 * 10 ^ 12 : Int).tdiv 998000000000000000 :=
  payment_maximal (by decide) (by decide) (by decide) (by decide) (by decide)

end

/-- The amount in base units and what is said about the price: a lookup that fails leaves the amount to the human. -/
def priced (c : Composed) (answer : Except String PriceQuote) : Option Int × Option String :=
  match answer with
  | .error message => (none, some ("price lookup failed: " ++ message ++ "; convert the USD amount manually"))
  | .ok quote => match quote.priceUsd with
    | none => (none, some ("asset price unknown: " ++ quote.reason.getD "no provider returned a price" ++
        "; convert the USD amount manually"))
    | some priceUsd =>
      if quote.disputed then
        (none, some ("asset price disputed: " ++ quote.reason.getD "providers disagree" ++
          "; convert the USD amount manually"))
      else match usdToBaseUnits c.proposal.amountUsd c.token.decimals priceUsd with
        | .ok units => (some units, quote.reason)
        | .error e => (none, some ("price lookup failed: " ++ e.message ++ "; convert the USD amount manually"))

/-- `exportProposal` as far as its price lookup. -/
def beginExport (id : String) (s : TreasuryState) : Result Composed := do
  let proposal ← getProposal id s
  assertTransition proposal .approved "export"
  assertNotFrozen "export a payment proposal" s
  let provider ← getProvider proposal.providerId s
  match (CHAINS proposal.chain).tokens.find? fun t => t.symbol = proposal.asset with
  | none => throw ⟨.conflict, "Asset " ++ proposal.asset ++ " is not listed for " ++ proposal.chain.name⟩
  | some token => match (s.addresses.get proposal.chain).filter TreasuryAddress.enabled with
    | none => throw ⟨.conflict, "No enabled treasury address is configured for " ++ proposal.chain.name⟩
    | some source => return ⟨proposal, provider.name, token, source.address⟩

def instructionOf (c : Composed) (answer : Except String PriceQuote) : ExportedInstruction :=
  ⟨c.proposal.id, c.proposal.chain, c.source, c.proposal.recipient, c.token, c.proposal.amountUsd, (priced c answer).1,
    (priced c answer).2, c.provider⟩

/-- The write of `exportProposal`, once the price is known: the freeze and the status are asked for again. -/
def finishExport (c : Composed) (answer : Except String PriceQuote) (s : TreasuryState) :
    Result (TreasuryState × ExportedInstruction) := do
  assertNotFrozen "export a payment proposal" s
  let fresh ← getProposal c.proposal.id s
  assertTransition fresh .approved "export"
  let instruction := instructionOf c answer
  return ({ s with
    proposals := s.proposals.put { fresh with status := .exported, instruction := some instruction } }, instruction)

/-! ## Runs -/

inductive AdminCall where
  | updateConfig (update : ConfigUpdate)
  | freeze
  | clearFreeze
  | addProvider (id : String) (input : ProviderInput)
  | updateProvider (id : String) (update : ProviderUpdate)
  | propose (id : String) (request : ProposalRequest) (spend : Spend)
  | approve (id : String) (creatorApproval : Bool) (spend : Spend)
  | reject (id : String)
  | cancel (id : String)

/-- What happens to the treasury: a call of an admin, whose writes may fail; an export that starts, or one that waits for a
price and gets the answer; a restart, which ends the exports that wait. -/
inductive TreasuryEvent where
  | call (c : AdminCall) (written : Bool)
  | beginExport (id : String)
  | finishExport (i : Nat) (answer : Except String PriceQuote) (written : Bool)
  | restart

section
variable (canonical : ChainId → String → String → Result String)

def AdminCall.apply (s : TreasuryState) : AdminCall → Result TreasuryState
  | .updateConfig update => Treasury.updateConfig canonical update s
  | .freeze => pure { s with frozen := true }
  | .clearFreeze => Treasury.clearFreeze s
  | .addProvider id input => Treasury.addProvider canonical id input s
  | .updateProvider id update => Treasury.updateProvider canonical id update s
  | .propose id request spend => Treasury.propose id request spend s
  | .approve id creatorApproval spend => do
    let outcome ← Treasury.approve id creatorApproval spend s
    pure outcome.1
  | .reject id => Treasury.reject id s
  | .cancel id => Treasury.cancel id s

def TreasuryState.resume (s : TreasuryState) (i : Nat) : TreasuryState := { s with exports := s.exports.eraseIdx i }

def treasuryStep (s : TreasuryState) : TreasuryEvent → TreasuryState
  | .call _ false => s
  | .call c true => (c.apply canonical s).toOption.getD s
  | .beginExport id => match Treasury.beginExport id s with
    | .ok c => { s with exports := s.exports ++ [c] }
    | .error _ => s
  | .finishExport i answer written =>
    match s.exports[i]? with
    | none => s
    | some c => match Treasury.finishExport c answer (s.resume i), written with
      | .ok (s', _), true => s'
      | _, _ => s.resume i
  | .restart => { s with exports := [] }

def handedOver (s : TreasuryState) : TreasuryEvent → List ExportedInstruction
  | .finishExport i answer true =>
    match s.exports[i]? with
    | some c => match Treasury.finishExport c answer (s.resume i) with
      | .ok (_, instruction) => [instruction]
      | .error _ => []
    | none => []
  | _ => []

end

end Treasury
end Atra
