import Atra.Registry
/-!
# Policy — the operator's hard limits and when they are well formed

`RiskPolicy.issues` lists what the policy schema finds wrong, the fields first and the cross-field rules when every field
is well formed; a policy is `Valid` when it finds nothing.  The readings further on are what the engine relies on: every
limit is a number, and the basis points are in range.
-/
namespace Atra

/-- One finding of a schema: the field it is about and the text shown for it. -/
structure Issue where
  path : List String
  message : String
deriving DecidableEq, Repr

/-- A finding unless the field is well formed. -/
def expect (ok : Bool) (path : List String) (message : String) : List Issue := if ok then [] else [⟨path, message⟩]

@[simp] theorem expect_eq_nil {ok : Bool} {path : List String} {message : String} :
    expect ok path message = [] ↔ ok = true := by
  cases ok <;> simp [expect]

/-! ## The shapes of texts -/

def isHexLower (c : Char) : Bool := c.isDigit || ('a' ≤ c && c ≤ 'f')

/-- The alphabet of base58: no zero, no capital I or O, no small l. -/
def isBase58 (c : Char) : Bool :=
  ('1' ≤ c && c ≤ '9') || ('A' ≤ c && c ≤ 'H') || ('J' ≤ c && c ≤ 'N') || ('P' ≤ c && c ≤ 'Z') ||
    ('a' ≤ c && c ≤ 'k') || ('m' ≤ c && c ≤ 'z')

def evmAddress (s : String) : Bool :=
  match s.toList with
  | '0' :: 'x' :: cs => cs.length == 40 && cs.all isHexLower
  | _ => false

def solanaPubkey (s : String) : Bool :=
  32 ≤ s.toList.length && s.toList.length ≤ 44 && s.toList.all isBase58

def tokenAddress (s : String) : Bool := evmAddress s || solanaPubkey s

def protocolKey (s : String) : Bool :=
  2 ≤ s.toList.length && s.toList.length ≤ 32 &&
    s.toList.all fun c => ('a' ≤ c && c ≤ 'z') || c.isDigit || c == '-'

def tokenSymbol (s : String) : Bool :=
  1 ≤ s.toList.length && s.toList.length ≤ 16 &&
    s.toList.all fun c => c.isAlphanum || c == '.' || c == '$' || c == '_' || c == '-'

/-- A non-negative USD text with up to six decimals. -/
def usdString (s : String) : Bool := (Decimal.read 6 s.toList).isSome

/-! ## The policy -/

structure TokenAllowEntry where
  address : String
  symbol : String
  decimals : Nat
deriving DecidableEq, Repr

structure ProtocolAllowEntry where
  contracts : List String
  approveSpenders : List String
deriving DecidableEq, Repr

structure Freshness where
  priceMaxAgeMs : Int
  quoteMaxAgeMs : Int
  balanceMaxAgeMs : Int
  liquidityMaxAgeMs : Int
  feeEstimateMaxAgeMs : Int
  actionMaxAgeMs : Int
  maxClockSkewMs : Int
deriving DecidableEq, Repr

structure AllowedPool where
  chain : ChainId
  protocol : String
  poolId : String
deriving DecidableEq, Repr

structure LpPolicy where
  maxCapitalPerLpUsd : String
  allowedPools : List AllowedPool
  allowedProtocols : List (ChainId × List String)
  minPoolLiquidityUsd : String
  maxRebalancePerDay : Nat
  maxRebalanceSlippageBps : Nat
  maxLpGasUsd : String
  minFeeThresholdUsd : String
deriving DecidableEq, Repr

/-- The maps are kept in insertion order; a chain or a protocol is looked up at its first entry. -/
structure RiskPolicy where
  schemaVersion : Nat
  enabledChains : List ChainId
  maxAmountPerTradeUsd : String
  maxDailyLossUsd : String
  maxTotalDeployedUsd : String
  maxTransactionFeeUsd : String
  minLiquidityUsd : String
  maxSlippageBps : Nat
  maxPriceImpactBps : Nat
  cooldownSeconds : Nat
  globalMinIntervalSeconds : Nat
  freshness : Freshness
  includeUnrealized : Bool
  tokenAllowlist : List (ChainId × List TokenAllowEntry)
  protocolAllowlist : List (ChainId × List (String × ProtocolAllowEntry))
  globalPause : Bool
  emergencyStop : Bool
  lp : LpPolicy
deriving DecidableEq, Repr

def bigUsd (s : String) : Int := ((Decimal.read 6 s.toList).map fun n => (n.scaled : Int)).getD 0

/-! ### Field checks -/

def usdIssue (field : List String) (s : String) : List Issue :=
  expect (usdString s) field "must be a non-negative amount with up to 6 decimals"

/-- `z.number().int().min(lo).max(hi)`. -/
def rangeIssue (field : List String) (lo hi n : Int) : List Issue :=
  expect (lo ≤ n) field ("Too small: expected number to be >=" ++ toString lo) ++
    expect (n ≤ hi) field ("Too big: expected number to be <=" ++ toString hi)

@[simp] theorem rangeIssue_eq_nil {field : List String} {lo hi n : Int} :
    rangeIssue field lo hi n = [] ↔ lo ≤ n ∧ n ≤ hi := by
  simp [rangeIssue]

/-- The findings of a list, each under its position. -/
def eachIssue {α : Type} (field : List String) (f : List String → α → List Issue) (xs : List α) : List Issue :=
  xs.zipIdx.flatMap fun (x, i) => f (field ++ [toString i]) x

def tokenAllowEntryIssues (field : List String) (t : TokenAllowEntry) : List Issue :=
  expect (tokenAddress t.address) (field ++ ["address"]) "Invalid input" ++
    expect (tokenSymbol t.symbol) (field ++ ["symbol"]) "Invalid string: must match pattern /^[A-Za-z0-9.$_-]\x7b1,16\x7d$/" ++
    rangeIssue (field ++ ["decimals"]) 0 18 t.decimals

def protocolAllowEntryIssues (field : List String) (e : ProtocolAllowEntry) : List Issue :=
  expect (!e.contracts.isEmpty) (field ++ ["contracts"]) "Too small: expected array to have >=1 items" ++
    eachIssue (field ++ ["contracts"]) (fun p a => expect (tokenAddress a) p "Invalid input") e.contracts ++
    eachIssue (field ++ ["approveSpenders"]) (fun p a => expect (tokenAddress a) p "Invalid input") e.approveSpenders

def protocolEntryIssues (chain : ChainId) : String × ProtocolAllowEntry → List Issue
  | (key, e) => expect (protocolKey key) ["protocolAllowlist", chain.name, key] "Invalid key in record" ++
      protocolAllowEntryIssues ["protocolAllowlist", chain.name, key] e

def freshnessIssues (f : Freshness) : List Issue :=
  rangeIssue ["freshness", "priceMaxAgeMs"] 1000 3600000 f.priceMaxAgeMs ++
    rangeIssue ["freshness", "quoteMaxAgeMs"] 1000 600000 f.quoteMaxAgeMs ++
    rangeIssue ["freshness", "balanceMaxAgeMs"] 1000 3600000 f.balanceMaxAgeMs ++
    rangeIssue ["freshness", "liquidityMaxAgeMs"] 1000 86400000 f.liquidityMaxAgeMs ++
    rangeIssue ["freshness", "feeEstimateMaxAgeMs"] 1000 600000 f.feeEstimateMaxAgeMs ++
    rangeIssue ["freshness", "actionMaxAgeMs"] 1000 600000 f.actionMaxAgeMs ++
    rangeIssue ["freshness", "maxClockSkewMs"] 0 60000 f.maxClockSkewMs

def lpPolicyIssues (lp : LpPolicy) : List Issue :=
  usdIssue ["lp", "maxCapitalPerLpUsd"] lp.maxCapitalPerLpUsd ++
    eachIssue ["lp", "allowedPools"] (fun p (e : AllowedPool) =>
      expect (protocolKey e.protocol) (p ++ ["protocol"]) "must be a lowercase protocol key" ++
        expect (1 ≤ jsLength e.poolId) (p ++ ["poolId"]) "Too small: expected string to have >=1 characters")
      lp.allowedPools ++
    lp.allowedProtocols.flatMap (fun (chain, keys) =>
      eachIssue ["lp", "allowedProtocols", chain.name] (fun p k =>
        expect (protocolKey k) p "must be a lowercase protocol key") keys) ++
    usdIssue ["lp", "minPoolLiquidityUsd"] lp.minPoolLiquidityUsd ++
    rangeIssue ["lp", "maxRebalancePerDay"] 0 48 lp.maxRebalancePerDay ++
    rangeIssue ["lp", "maxRebalanceSlippageBps"] 1 500 lp.maxRebalanceSlippageBps ++
    usdIssue ["lp", "maxLpGasUsd"] lp.maxLpGasUsd ++
    usdIssue ["lp", "minFeeThresholdUsd"] lp.minFeeThresholdUsd

/-- What the field schemas find, in the order of the fields. -/
def RiskPolicy.fieldIssues (p : RiskPolicy) : List Issue :=
  expect (p.schemaVersion == 1) ["schemaVersion"] "Invalid input: expected 1" ++
    expect (!p.enabledChains.isEmpty) ["enabledChains"] "Too small: expected array to have >=1 items" ++
    usdIssue ["maxAmountPerTradeUsd"] p.maxAmountPerTradeUsd ++
    usdIssue ["maxDailyLossUsd"] p.maxDailyLossUsd ++
    usdIssue ["maxTotalDeployedUsd"] p.maxTotalDeployedUsd ++
    usdIssue ["maxTransactionFeeUsd"] p.maxTransactionFeeUsd ++
    usdIssue ["minLiquidityUsd"] p.minLiquidityUsd ++
    rangeIssue ["maxSlippageBps"] 1 1000 p.maxSlippageBps ++
    rangeIssue ["maxPriceImpactBps"] 1 2000 p.maxPriceImpactBps ++
    rangeIssue ["cooldownSeconds"] 0 86400 p.cooldownSeconds ++
    rangeIssue ["globalMinIntervalSeconds"] 0 3600 p.globalMinIntervalSeconds ++
    freshnessIssues p.freshness ++
    p.tokenAllowlist.flatMap (fun (chain, ts) => eachIssue ["tokenAllowlist", chain.name] tokenAllowEntryIssues ts) ++
    p.protocolAllowlist.flatMap (fun (chain, es) => es.flatMap (protocolEntryIssues chain)) ++
    lpPolicyIssues p.lp

/-- Addresses and decimals belong to the family of the chain they are listed under. -/
def tokenFamilyIssues (chain : ChainId) (field : List String) (t : TokenAllowEntry) : List Issue :=
  let looksEvm := t.address.toList.take 2 == ['0', 'x']
  expect (!(chainFamily chain == .evm && !looksEvm)) (field ++ ["address"]) "expected a 0x address on an EVM chain" ++
    expect (!(chainFamily chain == .solana && looksEvm)) (field ++ ["address"]) "expected a base58 mint on Solana" ++
    expect (!(chainFamily chain == .solana && 9 < t.decimals)) (field ++ ["decimals"])
      "Solana mints have at most 9 decimals"

/-- An approval to an address the protocol itself never uses is refused. -/
def spenderIssues (chain : ChainId) : String × ProtocolAllowEntry → List Issue
  | (key, e) => e.approveSpenders.flatMap fun spender =>
      expect (e.contracts.contains spender) ["protocolAllowlist", chain.name, key, "approveSpenders"]
        (spender ++ " is not in contracts")

/-- The rules between fields. -/
def RiskPolicy.crossIssues (p : RiskPolicy) : List Issue :=
  expect (bigUsd p.maxAmountPerTradeUsd ≤ bigUsd p.maxTotalDeployedUsd) ["maxAmountPerTradeUsd"]
      "must not exceed maxTotalDeployedUsd" ++
    expect (bigUsd p.maxAmountPerTradeUsd != 0) ["maxAmountPerTradeUsd"] "must be greater than zero" ++
    expect (bigUsd p.maxDailyLossUsd != 0) ["maxDailyLossUsd"] "must be greater than zero" ++
    expect (bigUsd p.maxTransactionFeeUsd != 0) ["maxTransactionFeeUsd"] "must be greater than zero" ++
    p.tokenAllowlist.flatMap (fun (chain, _) => expect (p.enabledChains.contains chain) ["tokenAllowlist", chain.name]
      ("chain " ++ chain.name ++ " is not in enabledChains")) ++
    p.protocolAllowlist.flatMap (fun (chain, _) => expect (p.enabledChains.contains chain)
      ["protocolAllowlist", chain.name] ("chain " ++ chain.name ++ " is not in enabledChains")) ++
    p.tokenAllowlist.flatMap (fun (chain, ts) => eachIssue ["tokenAllowlist", chain.name] (tokenFamilyIssues chain) ts) ++
    p.protocolAllowlist.flatMap (fun (chain, es) => es.flatMap (spenderIssues chain))

/-- The schema's findings: the rules between fields are looked at when every field is well formed. -/
def RiskPolicy.issues (p : RiskPolicy) : List Issue :=
  if p.fieldIssues = [] then p.crossIssues else p.fieldIssues

/-- A policy the schema accepts. -/
def RiskPolicy.Valid (p : RiskPolicy) : Prop := p.issues = []

instance (p : RiskPolicy) : Decidable p.Valid := inferInstanceAs (Decidable (p.issues = []))

def RiskPolicy.tokens (p : RiskPolicy) (chain : ChainId) : List TokenAllowEntry := (p.tokenAllowlist.lookup chain).getD []

def RiskPolicy.protocols (p : RiskPolicy) (chain : ChainId) : List (String × ProtocolAllowEntry) :=
  (p.protocolAllowlist.lookup chain).getD []

/-! ### What a valid policy gives -/

theorem RiskPolicy.Valid.fields {p : RiskPolicy} (h : p.Valid) : p.fieldIssues = [] := by
  by_cases hf : p.fieldIssues = []
  · exact hf
  · unfold Valid issues at h
    rw [if_neg hf] at h
    exact h

theorem RiskPolicy.Valid.cross {p : RiskPolicy} (h : p.Valid) : p.crossIssues = [] := by
  have hf := h.fields
  unfold Valid issues at h
  rw [if_pos hf] at h
  exact h

theorem usdToMicros_of_usdString {s : String} (h : usdString s = true) : ∃ m : Int, Money.usdToMicros s = .ok m ∧ 0 ≤ m := by
  unfold usdString at h
  obtain ⟨n, hn⟩ := Option.isSome_iff_exists.1 h
  have hs : Money.splitSign s.toList = (false, s.toList) := by
    apply Money.splitSign_digits
    rintro c hc rfl
    unfold Decimal.read at hn
    cases hl : s.toList with
    | nil => rw [hl] at hc; cases hc
    | cons d ds =>
      rw [hl] at hc hn
      obtain rfl := Option.some.inj hc
      split at hn
      · simp [Decimal.ofParts, Decimal.isInteger, show ('-').isDigit = false from by decide] at hn
      · simp [Decimal.ofParts, Decimal.isInteger, show ('-').isDigit = false from by decide] at hn
  refine ⟨n.scaled, ?_, by omega⟩
  unfold Money.usdToMicros
  rw [hs]
  simp only [hn]
  rfl

/-- **Every limit of a valid policy is a number**, and every basis-point limit is in its range. -/
structure RiskPolicy.Limits (p : RiskPolicy) : Prop where
  maxAmountPerTradeUsd : usdString p.maxAmountPerTradeUsd = true
  maxDailyLossUsd : usdString p.maxDailyLossUsd = true
  maxTotalDeployedUsd : usdString p.maxTotalDeployedUsd = true
  maxTransactionFeeUsd : usdString p.maxTransactionFeeUsd = true
  minLiquidityUsd : usdString p.minLiquidityUsd = true
  maxCapitalPerLpUsd : usdString p.lp.maxCapitalPerLpUsd = true
  minPoolLiquidityUsd : usdString p.lp.minPoolLiquidityUsd = true
  maxLpGasUsd : usdString p.lp.maxLpGasUsd = true
  minFeeThresholdUsd : usdString p.lp.minFeeThresholdUsd = true
  maxSlippageBps : 1 ≤ p.maxSlippageBps ∧ p.maxSlippageBps ≤ 1000
  maxPriceImpactBps : 1 ≤ p.maxPriceImpactBps ∧ p.maxPriceImpactBps ≤ 2000
  maxRebalanceSlippageBps : 1 ≤ p.lp.maxRebalanceSlippageBps ∧ p.lp.maxRebalanceSlippageBps ≤ 500

theorem RiskPolicy.Valid.limits {p : RiskPolicy} (h : p.Valid) : p.Limits := by
  have hf := h.fields
  simp only [fieldIssues, lpPolicyIssues, usdIssue, List.append_eq_nil_iff, expect_eq_nil, rangeIssue_eq_nil,
    and_assoc] at hf
  obtain ⟨-, -, hTrade, hLoss, hTotal, hFee, hLiq, hs₁, hs₂, hi₁, hi₂, -, -, -, -, -, -, -, hCap, -, -, hPool, -, -,
    hr₁, hr₂, hGas, hThr⟩ := hf
  exact ⟨hTrade, hLoss, hTotal, hFee, hLiq, hCap, hPool, hGas, hThr, by omega, by omega, by omega⟩

/-- **The ages and intervals of a valid policy** are in their ranges. -/
structure RiskPolicy.Timing (p : RiskPolicy) : Prop where
  maxClockSkewMs : 0 ≤ p.freshness.maxClockSkewMs
  actionMaxAgeMs : 0 ≤ p.freshness.actionMaxAgeMs
  cooldownSeconds : p.cooldownSeconds ≤ 86400
  globalMinIntervalSeconds : p.globalMinIntervalSeconds ≤ 3600

theorem RiskPolicy.Valid.timing {p : RiskPolicy} (h : p.Valid) : p.Timing := by
  have hf := h.fields
  simp only [fieldIssues, freshnessIssues, List.append_eq_nil_iff, rangeIssue_eq_nil] at hf
  obtain ⟨⟨⟨⟨⟨⟨-, hc⟩, hg⟩, hfr⟩, -⟩, -⟩, -⟩ := hf
  obtain ⟨⟨-, ha⟩, hs⟩ := hfr
  exact ⟨by omega, by omega, by omega, by omega⟩

/-! ### The policy a fresh install starts with -/

def defaultTokens (chain : ChainId) : List TokenAllowEntry :=
  (CHAINS chain).tokens.map fun t => ⟨t.address, t.symbol, t.decimals⟩

def defaultProtocols (chain : ChainId) : List (String × ProtocolAllowEntry) :=
  (DEFAULT_PROTOCOLS chain).map fun (key, e) => (key, ⟨e.contracts, e.approveSpenders⟩)

def defaultRiskPolicy (enabledChains : List ChainId) : RiskPolicy :=
  { schemaVersion := 1
    enabledChains
    maxAmountPerTradeUsd := "25"
    maxDailyLossUsd := "50"
    maxTotalDeployedUsd := "250"
    maxTransactionFeeUsd := "2"
    minLiquidityUsd := "250000"
    maxSlippageBps := 50
    maxPriceImpactBps := 100
    cooldownSeconds := 900
    globalMinIntervalSeconds := 60
    freshness :=
      { priceMaxAgeMs := 60000, quoteMaxAgeMs := 30000, balanceMaxAgeMs := 120000, liquidityMaxAgeMs := 900000
        feeEstimateMaxAgeMs := 60000, actionMaxAgeMs := 120000, maxClockSkewMs := 5000 }
    includeUnrealized := true
    tokenAllowlist := enabledChains.map fun chain => (chain, defaultTokens chain)
    protocolAllowlist := enabledChains.map fun chain => (chain, defaultProtocols chain)
    globalPause := false
    emergencyStop := false
    lp :=
      { maxCapitalPerLpUsd := "0", allowedPools := [], allowedProtocols := [], minPoolLiquidityUsd := "500000"
        maxRebalancePerDay := 4, maxRebalanceSlippageBps := 50, maxLpGasUsd := "2", minFeeThresholdUsd := "5" } }

theorem defaultTokens_clear (chain : ChainId) :
    eachIssue ["tokenAllowlist", chain.name] tokenAllowEntryIssues (defaultTokens chain) = [] ∧
      eachIssue ["tokenAllowlist", chain.name] (tokenFamilyIssues chain) (defaultTokens chain) = [] := by
  cases chain <;> decide

/-- The default protocol entries of every chain are well formed, and every spender is one of the contracts. -/
theorem defaultProtocols_clear (chain : ChainId) :
    (defaultProtocols chain).flatMap (protocolEntryIssues chain) = [] ∧
      (defaultProtocols chain).flatMap (spenderIssues chain) = [] := by
  cases chain <;> decide

/-- **The defaults pass their own schema**, whichever chains are enabled. -/
theorem defaultRiskPolicy_valid {enabledChains : List ChainId} (h : enabledChains ≠ []) :
    (defaultRiskPolicy enabledChains).Valid := by
  have hf : (defaultRiskPolicy enabledChains).fieldIssues = [] := by
    simp only [RiskPolicy.fieldIssues, defaultRiskPolicy, List.append_eq_nil_iff, List.flatMap_map,
      List.flatMap_eq_nil_iff, expect_eq_nil]
    refine ⟨⟨⟨⟨⟨⟨⟨⟨⟨⟨⟨⟨⟨⟨rfl, by simpa using h⟩, ?_⟩, ?_⟩, ?_⟩, ?_⟩, ?_⟩, ?_⟩, ?_⟩, ?_⟩, ?_⟩, ?_⟩,
      fun chain _ => (defaultTokens_clear chain).1⟩,
      fun chain _ => List.flatMap_eq_nil_iff.1 (defaultProtocols_clear chain).1⟩, ?_⟩
    all_goals decide
  have hc : (defaultRiskPolicy enabledChains).crossIssues = [] := by
    simp only [RiskPolicy.crossIssues, defaultRiskPolicy, List.append_eq_nil_iff, List.flatMap_map,
      List.flatMap_eq_nil_iff, expect_eq_nil]
    refine ⟨⟨⟨⟨⟨⟨⟨decide_eq_true (by decide), ?_⟩, ?_⟩, ?_⟩, fun chain hc => by simpa using hc⟩, fun chain hc => by simpa using hc⟩,
      fun chain _ => (defaultTokens_clear chain).2⟩,
      fun chain _ => List.flatMap_eq_nil_iff.1 (defaultProtocols_clear chain).2⟩
    all_goals rfl
  unfold RiskPolicy.Valid RiskPolicy.issues
  rw [if_pos hf, hc]

end Atra
