import Atra.Policy
/-!
# RiskTypes — what the risk engine reads and returns

A proposed action, the runtime state, the market snapshot and the decision, with the schema of a proposed action.  The
engine reads nothing else: the time and the snapshot are part of its input.
-/
namespace Atra

inductive Mode where
  | PAPER | LIVE
deriving DecidableEq, Repr

def Mode.name : Mode → String
  | .PAPER => "PAPER"
  | .LIVE => "LIVE"

inductive ActionKind where
  | swap | approve | lp_add | lp_remove | lp_rebalance | lp_claim
deriving DecidableEq, Repr

def ActionKind.name : ActionKind → String
  | .swap => "swap"
  | .approve => "approve"
  | .lp_add => "lp_add"
  | .lp_remove => "lp_remove"
  | .lp_rebalance => "lp_rebalance"
  | .lp_claim => "lp_claim"

inductive ActionSource where
  | llm | scheduler | operator | test
deriving DecidableEq, Repr

def ActionSource.name : ActionSource → String
  | .llm => "llm"
  | .scheduler => "scheduler"
  | .operator => "operator"
  | .test => "test"

inductive ActivationState where
  | PAPER | PENDING | LIVE
deriving DecidableEq, Repr

def ActivationState.name : ActivationState → String
  | .PAPER => "PAPER"
  | .PENDING => "PENDING"
  | .LIVE => "LIVE"

inductive RejectionCode where
  | SCHEMA_INVALID | EMERGENCY_STOP | GLOBAL_PAUSE | LIVE_NOT_ACTIVATED | MODE_MISMATCH | CHAIN_UNSUPPORTED | DATA_STALE
  | TOKEN_NOT_ALLOWLISTED | PROTOCOL_NOT_ALLOWLISTED | CONTRACT_UNKNOWN | REDUCE_ONLY_MISMATCH | SIZE_EXCEEDS_MAX_TRADE
  | DAILY_LOSS_BREACHED | TOTAL_DEPLOYED_BREACHED | SLIPPAGE_EXCEEDS_MAX | QUOTE_OFF_MARKET | FEE_EXCEEDS_MAX
  | LIQUIDITY_BELOW_MIN | COOLDOWN_ACTIVE | BALANCE_INSUFFICIENT | DUPLICATE_ACTION | POOL_NOT_ALLOWLISTED
  | LP_CAPITAL_EXCEEDS_MAX | POOL_LIQUIDITY_BELOW_MIN | REBALANCE_LIMIT_REACHED | FEE_BELOW_CLAIM_THRESHOLD
deriving DecidableEq, Repr

/-! ## The proposed action -/

structure TokenRef where
  address : String
  decimals : Nat
deriving DecidableEq, Repr

inductive FeeDetail where
  | evm (gasLimit maxFeePerGas : String)
  | solana (signatures computeUnitLimit : Nat) (computeUnitPriceMicroLamports rentLamports : String)
deriving DecidableEq, Repr

def FeeDetail.family : FeeDetail → ChainFamily
  | .evm .. => .evm
  | .solana .. => .solana

structure FeeEstimate where
  estimatedAt : Int
  detail : FeeDetail
deriving DecidableEq, Repr

structure Quote where
  expectedAmountOut : String
  minAmountOut : String
  slippageBps : Nat
  priceImpactBps : Nat
  quotedAt : Int
  source : String
  marketId : String
deriving DecidableEq, Repr

structure Claimable where
  amountA : String
  amountB : String
deriving DecidableEq, Repr

/-- The liquidity leg of an action; `capitalUsd` and `claimableFeesUsd` are the proposer's hints. -/
structure LpLeg where
  poolId : String
  capitalUsd : String
  rebalanceIndexToday : Nat
  claimableFeesUsd : String
  amountB : Option String
  minAmountA : Option String
  minAmountB : Option String
  lpTokens : Option String
  claimable : Option Claimable
deriving DecidableEq, Repr

structure ProposedAction where
  schemaVersion : Nat
  actionId : String
  decisionCycleId : String
  idempotencyKey : String
  proposedAt : Int
  mode : Mode
  source : ActionSource
  chain : ChainId
  kind : ActionKind
  protocol : String
  contract : String
  programIds : Option (List String)
  reduceOnly : Bool
  tokenIn : TokenRef
  tokenOut : TokenRef
  amountIn : String
  quote : Option Quote
  feeEstimate : FeeEstimate
  lp : Option LpLeg
  rationale : Option String
deriving DecidableEq, Repr

def isLpKind : ActionKind → Bool
  | .lp_add | .lp_remove | .lp_rebalance | .lp_claim => true
  | .swap | .approve => false

/-! ### The schema of an action -/

/-- A base-unit amount: `0` or digits with no leading zero. -/
def isAmount (s : String) : Bool := Decimal.isInteger s.toList

/-- A USD text that may be negative. -/
def isSignedUsd (s : String) : Bool := (Decimal.read 6 (Money.splitSign s.toList).2).isSome

def isSha256Hex (s : String) : Bool := s.toList.length == 64 && s.toList.all isHexLower

def isHex (c : Char) : Bool := isHexLower c || ('A' ≤ c && c ≤ 'F')

/-- The version nibble `1` to `8` and the variant nibble `8`, `9`, `a` or `b` of an RFC 9562 identifier. -/
def isUuid (s : String) : Bool :=
  s == "00000000-0000-0000-0000-000000000000" || s == "ffffffff-ffff-ffff-ffff-ffffffffffff" ||
    (s.toList.length == 36 && s.toList.zipIdx.all fun (c, i) =>
      if i == 8 || i == 13 || i == 18 || i == 23 then c == '-'
      else if i == 14 then '1' ≤ c && c ≤ '8'
      else if i == 19 then c == '8' || c == '9' || c == 'a' || c == 'b' || c == 'A' || c == 'B'
      else isHex c)

def canonicalAddress (s : String) : Bool := tokenAddress s

def MAX_SAFE_INTEGER : Int := 9007199254740991

def amountIssue (field : List String) (s : String) : List Issue := expect (isAmount s) field "must be a base-unit integer"

def epochIssue (field : List String) (ms : Int) : List Issue := rangeIssue field 0 MAX_SAFE_INTEGER ms

def addressIssue (field : List String) (s : String) : List Issue := expect (canonicalAddress s) field "Invalid input"

def textIssue (field : List String) (lo hi : Nat) (s : String) : List Issue :=
  expect (lo ≤ jsLength s) field ("Too small: expected string to have >=" ++ toString lo ++ " characters") ++
    expect (jsLength s ≤ hi) field ("Too big: expected string to have <=" ++ toString hi ++ " characters")

def tokenRefIssues (field : List String) (t : TokenRef) : List Issue :=
  addressIssue (field ++ ["address"]) t.address ++ rangeIssue (field ++ ["decimals"]) 0 18 t.decimals

def feeDetailIssues (field : List String) : FeeDetail → List Issue
  | .evm gasLimit maxFeePerGas =>
    amountIssue (field ++ ["gasLimit"]) gasLimit ++ amountIssue (field ++ ["maxFeePerGas"]) maxFeePerGas
  | .solana signatures computeUnitLimit price rent =>
    rangeIssue (field ++ ["signatures"]) 1 64 signatures ++
      rangeIssue (field ++ ["computeUnitLimit"]) 0 1400000 computeUnitLimit ++
      amountIssue (field ++ ["computeUnitPriceMicroLamports"]) price ++ amountIssue (field ++ ["rentLamports"]) rent

def quoteIssues (field : List String) (q : Quote) : List Issue :=
  amountIssue (field ++ ["expectedAmountOut"]) q.expectedAmountOut ++
    amountIssue (field ++ ["minAmountOut"]) q.minAmountOut ++
    rangeIssue (field ++ ["slippageBps"]) 0 10000 q.slippageBps ++
    rangeIssue (field ++ ["priceImpactBps"]) 0 10000 q.priceImpactBps ++
    epochIssue (field ++ ["quotedAt"]) q.quotedAt ++
    textIssue (field ++ ["source"]) 1 64 q.source ++
    textIssue (field ++ ["marketId"]) 1 128 q.marketId

def optionIssues {α : Type} (f : α → List Issue) : Option α → List Issue
  | none => []
  | some x => f x

def claimableIssues (field : List String) (c : Claimable) : List Issue :=
  amountIssue (field ++ ["amountA"]) c.amountA ++ amountIssue (field ++ ["amountB"]) c.amountB

def lpLegIssues (field : List String) (lp : LpLeg) : List Issue :=
  textIssue (field ++ ["poolId"]) 1 128 lp.poolId ++
    expect (isSignedUsd lp.capitalUsd) (field ++ ["capitalUsd"]) "must be a USD amount" ++
    expect (isSignedUsd lp.claimableFeesUsd) (field ++ ["claimableFeesUsd"]) "must be a USD amount" ++
    optionIssues (amountIssue (field ++ ["amountB"])) lp.amountB ++
    optionIssues (amountIssue (field ++ ["minAmountA"])) lp.minAmountA ++
    optionIssues (amountIssue (field ++ ["minAmountB"])) lp.minAmountB ++
    optionIssues (amountIssue (field ++ ["lpTokens"])) lp.lpTokens ++
    optionIssues (claimableIssues (field ++ ["claimable"])) lp.claimable

/-- What the field schemas find, in the order of the fields. -/
def ProposedAction.fieldIssues (a : ProposedAction) : List Issue :=
  expect (a.schemaVersion == 1) ["schemaVersion"] "Invalid input: expected 1" ++
    expect (isUuid a.actionId) ["actionId"] "Invalid UUID" ++
    expect (isUuid a.decisionCycleId) ["decisionCycleId"] "Invalid UUID" ++
    expect (isSha256Hex a.idempotencyKey) ["idempotencyKey"] "must be a sha256 hex digest" ++
    epochIssue ["proposedAt"] a.proposedAt ++
    expect (protocolKey a.protocol) ["protocol"] "Invalid string: must match pattern /^[a-z0-9-]\x7b2,32\x7d$/" ++
    addressIssue ["contract"] a.contract ++
    optionIssues (eachIssue ["programIds"] addressIssue) a.programIds ++
    tokenRefIssues ["tokenIn"] a.tokenIn ++
    tokenRefIssues ["tokenOut"] a.tokenOut ++
    amountIssue ["amountIn"] a.amountIn ++
    optionIssues (quoteIssues ["quote"]) a.quote ++
    epochIssue ["feeEstimate", "estimatedAt"] a.feeEstimate.estimatedAt ++
    feeDetailIssues ["feeEstimate", "detail"] a.feeEstimate.detail ++
    optionIssues (lpLegIssues ["lp"]) a.lp ++
    optionIssues (textIssue ["rationale"] 0 2000) a.rationale

def lpLegRules (a : ProposedAction) (lp : LpLeg) : List Issue :=
  expect (!((a.kind == .lp_add || a.kind == .lp_rebalance) && (lp.amountB == none || lp.amountB == some "")))
      ["lp", "amountB"] "lp_add needs amountB" ++
    expect (lp.amountB != some "0") ["lp", "amountB"] "must be greater than zero" ++
    expect (!(a.kind == .lp_remove && (lp.lpTokens == none || lp.lpTokens == some "" || lp.lpTokens == some "0")))
      ["lp", "lpTokens"] "lp_remove needs a positive lpTokens amount" ++
    expect (!(a.kind == .lp_claim && lp.claimable == none)) ["lp", "claimable"] "lp_claim needs the claimable amounts" ++
    expect (!(a.kind == .lp_claim && a.contract != lp.poolId)) ["contract"] "lp_claim must target the pool itself" ++
    expect (!(a.kind == .approve && a.tokenIn.address != lp.poolId)) ["lp", "poolId"]
      "an approve with an lp leg must approve the pool LP token"

/-- The rules about an action's quote and its pair of tokens. -/
def quoteRules (a : ProposedAction) : List Issue :=
  (if a.kind = .approve then
    expect (a.quote == none) ["quote"] "approve must not carry a quote" ++
      expect (a.tokenIn.address == a.tokenOut.address) ["tokenOut"] "approve must reference a single token"
  else
    expect (a.quote != none || a.kind == .lp_claim) ["quote"] "a quote is required" ++
      expect (a.quote == none || a.kind != .lp_claim) ["quote"] "lp_claim has no quote" ++
      expect (a.tokenIn.address != a.tokenOut.address) ["tokenOut"] "tokenIn and tokenOut must differ") ++
    optionIssues (fun q : Quote =>
      expect (Decimal.natOf q.expectedAmountOut.toList != 0) ["quote", "expectedAmountOut"] "must be greater than zero" ++
        expect (Decimal.natOf q.minAmountOut.toList ≤ Decimal.natOf q.expectedAmountOut.toList) ["quote", "minAmountOut"]
          "must not exceed expectedAmountOut") a.quote

def ChainFamily.name : ChainFamily → String
  | .evm => "evm"
  | .solana => "solana"

/-- The rules between fields. -/
def ProposedAction.crossIssues (a : ProposedAction) : List Issue :=
  expect (!(a.amountIn == "0" && a.kind != .lp_claim)) ["amountIn"] "must be greater than zero" ++
    expect (!(a.reduceOnly && a.kind != .swap)) ["reduceOnly"] (a.kind.name ++ " cannot be reduce-only") ++
    expect (!(isLpKind a.kind && a.lp == none)) ["lp"] (a.kind.name ++ " requires the lp leg") ++
    expect (!(a.kind == .swap && a.lp != none)) ["lp"] "a swap cannot carry an lp leg" ++
    optionIssues (lpLegRules a) a.lp ++
    quoteRules a ++
    expect (!(a.chain == .solana && a.programIds == none)) ["programIds"]
      "Solana actions must list every top-level program id" ++
    expect (!(a.chain != .solana && a.programIds != none)) ["programIds"] "programIds is Solana-only" ++
    expect ((a.chain == .solana) == (a.feeEstimate.detail.family == .solana)) ["feeEstimate", "detail", "family"]
      ("fee detail family " ++ a.feeEstimate.detail.family.name ++ " does not match chain " ++ a.chain.name)

/-- The findings of the action schema: the rules between fields are looked at when every field is well formed. -/
def ProposedAction.issues (a : ProposedAction) : List Issue :=
  if a.fieldIssues = [] then a.crossIssues else a.fieldIssues

def ProposedAction.Valid (a : ProposedAction) : Prop := a.issues = []

instance (a : ProposedAction) : Decidable a.Valid := inferInstanceAs (Decidable (a.issues = []))

theorem ProposedAction.Valid.fields {a : ProposedAction} (h : a.Valid) : a.fieldIssues = [] := by
  by_cases hf : a.fieldIssues = []
  · exact hf
  · unfold Valid issues at h
    rw [if_neg hf] at h
    exact h

theorem ProposedAction.Valid.cross {a : ProposedAction} (h : a.Valid) : a.crossIssues = [] := by
  have hf := h.fields
  unfold Valid issues at h
  rw [if_pos hf] at h
  exact h

/-! ## State, snapshot and decision -/

structure Position where
  chain : ChainId
  token : String
  amount : String
  costBasisUsd : String
  openedAt : Int
deriving DecidableEq, Repr

structure Ledger where
  dayStartUtcMs : Int
  deployedUsd : String
  realizedPnlTodayUsd : String
  unrealizedPnlUsd : String
  unrealizedPnlAtDayStartUsd : String
  positions : List Position
  lpRebalancesToday : Record Nat

structure EmergencyStop where
  active : Bool
  reason : Option String
deriving DecidableEq, Repr

structure LiveSession where
  startedAt : Int
  expiresAt : Int
deriving DecidableEq, Repr

structure Activation where
  state : ActivationState
  liveSession : Option LiveSession
deriving DecidableEq, Repr

structure RuntimeState where
  mode : Mode
  emergencyStop : EmergencyStop
  globalPause : Bool
  activation : Activation
  cooldowns : Record Int
  lastAnyActionAt : Option Int
  ledger : Ledger

/-- A datum with the time it was observed and where it came from. -/
structure Stamped where
  value : String
  stampedAt : Int
  source : String
deriving DecidableEq, Repr

structure LpHolding where
  lpTokens : String
  capitalUsd : String
deriving DecidableEq, Repr

structure LpSnapshot where
  deployedUsd : String
  rebalancesToday : Record Nat
  positions : Record LpHolding

structure MarketSnapshot where
  prices : Record Stamped
  liquidity : Record Stamped
  balances : Record Stamped
  poolLiquidity : Option (Record Stamped)
  lp : Option LpSnapshot

structure RiskInput where
  now : Int
  policy : RiskPolicy
  policyHash : String
  action : ProposedAction
  state : RuntimeState
  snapshot : MarketSnapshot

inductive Skip where
  | notApplicable | shortCircuit
deriving DecidableEq, Repr

structure RiskCheck where
  name : String
  code : RejectionCode
  passed : Bool
  observed : String
  limit : String
  skipped : Option Skip
  detail : Option String
deriving DecidableEq, Repr

structure RiskDerived where
  amountInUsd : String
  feeUsd : String
  impliedSlippageBps : Int
  dailyLossUsd : String
  projectedDeployedUsd : String
deriving DecidableEq, Repr

structure RiskDecision where
  schemaVersion : Nat
  engineVersion : String
  actionId : String
  idempotencyKey : String
  mode : Mode
  evaluatedAt : Int
  policyHash : String
  allowed : Bool
  code : Option RejectionCode
  reason : String
  checks : List RiskCheck
  derived : Option RiskDerived
  replayOf : Option String
deriving DecidableEq, Repr

/-- The key of a market's cooldown: the same for both orders of a pair. -/
def marketKey (chain : ChainId) (a b : String) : String :=
  if a < b then chain.name ++ ":" ++ a ++ ":" ++ b else chain.name ++ ":" ++ b ++ ":" ++ a

def priceKey (chain : ChainId) (token : String) : String := chain.name ++ ":" ++ token
def balanceKey (chain : ChainId) (token : String) : String := chain.name ++ ":" ++ token
def liquidityKey (chain : ChainId) (market : String) : String := chain.name ++ ":" ++ market
def lpPoolKey (chain : ChainId) (poolId : String) : String := chain.name ++ ":" ++ poolId

/-! ### What a valid action gives -/

/-- **The well-formed numbers of a valid action**, as the engine reads them. -/
structure ProposedAction.WellFormed (a : ProposedAction) : Prop where
  amountIn : isAmount a.amountIn = true
  tokenIn : a.tokenIn.decimals ≤ 18
  tokenOut : a.tokenOut.decimals ≤ 18
  fee : feeDetailIssues ["feeEstimate", "detail"] a.feeEstimate.detail = []
  quote : ∀ q, a.quote = some q → isAmount q.expectedAmountOut = true ∧ isAmount q.minAmountOut = true ∧
    q.slippageBps ≤ 10000 ∧ 0 < Decimal.natOf q.expectedAmountOut.toList ∧
    Decimal.natOf q.minAmountOut.toList ≤ Decimal.natOf q.expectedAmountOut.toList
  lp : ∀ l, a.lp = some l → lpLegIssues ["lp"] l = [] ∧ lpLegRules a l = []

theorem ProposedAction.Valid.wellFormed {a : ProposedAction} (h : a.Valid) : a.WellFormed := by
  have hf := h.fields
  have hc := h.cross
  simp only [fieldIssues, tokenRefIssues, amountIssue, List.append_eq_nil_iff, expect_eq_nil, rangeIssue_eq_nil,
    and_assoc] at hf
  obtain ⟨-, -, -, -, -, -, -, -, -, -, hIn, -, -, hOut, hAmt, hq, -, hFee, hlp, -⟩ := hf
  simp only [crossIssues, quoteRules, List.append_eq_nil_iff, and_assoc] at hc
  obtain ⟨-, -, -, -, hlr, -, hqr, -, -, -⟩ := hc
  refine ⟨hAmt, by omega, by omega, hFee, ?_, ?_⟩
  · intro q hq'
    rw [hq'] at hq hqr
    simp only [optionIssues, quoteIssues, amountIssue, List.append_eq_nil_iff, expect_eq_nil, rangeIssue_eq_nil,
      and_assoc] at hq hqr
    obtain ⟨he, hm, -, hs, -⟩ := hq
    obtain ⟨h0, hle⟩ := hqr
    refine ⟨he, hm, by omega, ?_, by simpa using hle⟩
    simp only [bne_iff_ne, ne_eq] at h0
    omega
  · intro l hl
    rw [hl] at hlp hlr
    exact ⟨hlp, hlr⟩

end Atra
