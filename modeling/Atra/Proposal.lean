import Atra.Ledger
import Atra.Quotes
/-!
# Proposal — from a trader's decision to the action the engine judges

The builder turns a direction, a token and a USD size into base-unit amounts, a quote with a minimum, a fee estimate and a
dated snapshot.  It may refuse with a reason; what it builds has passed the schema.  The market, the wallet and the adapter
are the environment's answers.
-/
namespace Atra

/-! ## Building, or refusing with a reason -/

/-- A build that may refuse with a reason; it may also throw. -/
abbrev Build := ExceptT String Result

def refuse {α : Type} (reason : String) : Build α := ExceptT.mk (pure (.error reason))

section
variable {α β : Type}

theorem built_bind {x : Build α} {f : α → Build β} {b : β} :
    (x >>= f).run = .ok (.ok b) ↔ ∃ a, x.run = .ok (.ok a) ∧ (f a).run = .ok (.ok b) := by
  rw [ExceptT.run_bind, bind_ok]
  constructor
  · rintro ⟨r, hx, hf⟩
    cases r with
    | error reason => cases hf
    | ok a => exact ⟨a, hx, hf⟩
  · rintro ⟨a, hx, hf⟩
    exact ⟨.ok a, hx, hf⟩

theorem built_pure {a b : α} : (pure a : Build α).run = .ok (.ok b) ↔ a = b := by
  rw [ExceptT.run_pure, pure_ok, Except.ok.injEq]

theorem built_lift {x : Result α} {a : α} : (liftM x : Build α).run = .ok (.ok a) ↔ x = .ok a := by
  cases x with
  | error e => exact iff_of_false (fun h => by cases h) (fun h => by cases h)
  | ok b =>
    constructor
    · intro h
      cases h
      rfl
    · intro h
      cases h
      rfl

/-- What a build makes, tested. -/
instance decidableExistsBuilt {x : Build α} {P : α → Prop} [DecidablePred P] : Decidable (∃ a, x.run = .ok (.ok a) ∧ P a) :=
  decidable_of_iff (∃ r, x.run = .ok r ∧ ∃ a, r = .ok a ∧ P a) <| by
    constructor
    · rintro ⟨r, hr, a, rfl, hP⟩
      exact ⟨a, hr, hP⟩
    · rintro ⟨a, ha, hP⟩
      exact ⟨_, ha, a, rfl, hP⟩

theorem not_built_refuse {reason : String} {a : α} : (refuse reason : Build α).run ≠ .ok (.ok a) := by
  intro h
  cases h

end

/-! ## The decision and the answers of the environment -/

inductive TradeAction where
  | NO_ACTION | OPEN | REDUCE | CLOSE | SWAP
deriving DecidableEq, Repr

structure TradeDecision where
  action : TradeAction
  token : Option String
  requestedNotionalUsd : String
  reason : String

structure ProposalRequest where
  chain : ChainId
  mode : Mode
  decisionCycleId : String
  source : ActionSource
  walletAddress : String
  decision : TradeDecision
  policy : RiskPolicy

/-- The wallet's balances as the chain reports them. -/
structure WalletReading where
  error : Option String
  observedAt : Option Int
  source : Option String
  native : Option String
  tokens : List (String × String)

/-- What the market, the wallet and the adapter answer while a swap is built. -/
structure ProposalAnswers (R : Type) where
  /-- Cross-checked prices; a disputed or missing one is absent. -/
  prices : Record Stamped
  fundingBalances : List String → Result WalletReading
  readBalances : List String → Result WalletReading
  quote : QuoteRequest → Result (ExecutionQuote R)
  liquidity : String → String → ExecutionQuote R → Option Stamped
  actionId : String
  balancesAt : Int
  proposedAt : Int

structure BuiltProposal (R : Type) where
  action : ProposedAction
  quote : ExecutionQuote R
  snapshot : MarketSnapshot
  priceLookup : PriceLookup
  prices : QuotePrices
  side : TradeSide

namespace ProposalBuilder

open Money

/-! ## Sizes, prices and balances -/

/-- Micro-USD in base units of a token, rounded down. -/
def usdToTokenUnits (usdMicros : Int) (decimals : Nat) (priceAtto : Int) : Result Int :=
  if priceAtto ≤ 0 then pure 0 else floorDiv (usdMicros * (PRICE_SCALE.tdiv 1000000) * 10 ^ decimals) priceAtto

def nativeAddress (chain : ChainId) : String := (CHAINS chain).nativeSentinel

/-- Prices by token as the fill and the gate read them, on one chain. -/
def priceLookupOf (chain : ChainId) (priced : Record Stamped) : PriceLookup := fun lookupChain token =>
  if lookupChain = chain then (priced token).map (·.value) else none

/-- A paper balance that was never seeded is zero. -/
def paperBalances (db : Db) (chain : ChainId) (now : Int) (tokens : List String) : Record Stamped :=
  recordOf (tokens.map fun token =>
    (balanceKey chain token, ⟨toString (LedgerService.paperHeld db chain token), now, "paper-ledger"⟩))

def liveBalances (chain : ChainId) (reading : Result WalletReading) : Record Stamped :=
  match reading with
  | .error _ => recordOf []
  | .ok reading => match reading.error, reading.observedAt with
    | none, some observedAt =>
      let stamp := fun amount => (⟨amount, observedAt, reading.source.getD "rpc"⟩ : Stamped)
      let native := match reading.native with
        | some amount => [(balanceKey chain (nativeAddress chain), stamp amount)]
        | none => []
      -- a later entry of the same key wins
      recordOf (native ++ reading.tokens.map fun t => (balanceKey chain t.1, stamp t.2)).reverse
    | _, _ => recordOf []

def balancesOf (host : Host) (db : Db) (mode : Mode) (chain : ChainId) (now : Int)
    (read : List String → Result WalletReading) (tokens : List String) : Record Stamped :=
  match mode with
  | .PAPER => paperBalances db chain now tokens
  | .LIVE => liveBalances chain (read (tokens.filter fun token => !isNativeToken host chain token))

/-! ## The funding token -/

def isExitDecision (d : TradeDecision) : Bool := d.action == .REDUCE || d.action == .CLOSE

def largestHeld (chain : ChainId) (balances : Record Stamped) (best : Option (TokenAllowEntry × Int)) :
    List TokenAllowEntry → Result (Option (TokenAllowEntry × Int))
  | [] => pure best
  | entry :: rest => do
    let held ← match balances (balanceKey chain entry.address) with
      | some reading => amountToBigint reading.value
      | none => pure 0
    largestHeld chain balances (if best.all fun b => b.2 < held then some (entry, held) else best) rest

/-- The stablecoin an entry spends, or an exit is sold into. -/
def pickFundingToken {R : Type} (host : Host) (db : Db) (env : ProposalAnswers R) (request : ProposalRequest)
    (exclude : String) : Result (Option TokenAllowEntry) :=
  let stables := (request.policy.tokens request.chain).filter fun entry =>
    STABLE_SYMBOLS.contains (asciiLower entry.symbol) && entry.address != exclude
  if stables.isEmpty then pure none
  else if isExitDecision request.decision then pure stables.head?
  else do
    let balances := balancesOf host db request.mode request.chain env.balancesAt env.fundingBalances
      (stables.map (·.address))
    let best ← largestHeld request.chain balances none stables
    return best.bind fun b => if b.2 > 0 then some b.1 else none

/-! ## The build -/

def sideOf : TradeAction → TradeSide
  | .OPEN => .open
  | .SWAP => .swap
  | .REDUCE => .reduce
  | _ => .close

def namedToken (host : Host) (request : ProposalRequest) : Build TokenAllowEntry :=
  match if request.decision.action = .NO_ACTION then none else request.decision.token with
  | none => refuse "nothing to build for NO_ACTION"
  | some token =>
    if token = "" then refuse "nothing to build for NO_ACTION"
    else match (request.policy.tokens request.chain).find? (·.address == token) with
    | none => refuse (token ++ " is not allowlisted on " ++ request.chain.name)
    | some named =>
      if isNativeToken host request.chain named.address then
        refuse "native-coin legs are not supported in this build"
      else pure named

def fundingToken {R : Type} (host : Host) (db : Db) (env : ProposalAnswers R) (request : ProposalRequest)
    (named : TokenAllowEntry) : Build TokenAllowEntry := do
  match ← pickFundingToken host db env request named.address with
  | none => refuse ("no allowlisted stablecoin with a balance on " ++ request.chain.name ++ " to fund the trade")
  | some funding => pure funding

def pricedToken (label : String) (price : Option Stamped) : Build Stamped :=
  match price with
  | none => refuse ("no reliable USD price for " ++ label)
  | some price => pure price

/-- The requested USD size in base units of the token that is spent. -/
def requestedUnits (request : ProposalRequest) (tokenIn : TokenAllowEntry) (priceIn : Stamped) : Result Int := do
  let usd ← usdToMicros request.decision.requestedNotionalUsd
  let atto ← priceToAtto priceIn.value
  usdToTokenUnits usd tokenIn.decimals atto

/-- What is spent: the whole position on a close, at most the position on a reduce, the requested size otherwise. -/
def sizeOf (db : Db) (request : ProposalRequest) (tokenIn : TokenAllowEntry) (priceIn : Stamped) : Build Int :=
  match request.decision.action with
  | .CLOSE => match LedgerService.getPosition db request.mode request.chain tokenIn.address with
    | none => refuse "CLOSE without an open position"
    | some position => pure position.amount
  | .REDUCE => match LedgerService.getPosition db request.mode request.chain tokenIn.address with
    | none => refuse "REDUCE without an open position"
    | some position => do
      let wanted ← requestedUnits request tokenIn priceIn
      pure (if wanted > position.amount then position.amount else wanted)
  | _ => liftM (requestedUnits request tokenIn priceIn)

def positiveSize (amountIn : Int) : Build Unit :=
  if amountIn ≤ 0 then refuse "requested size rounds to zero base units" else pure ()

/-- An adapter's answer; its error is a reason, not a throw. -/
def quoted {α : Type} (what : String) (answer : Result α) : Build α :=
  match answer with
  | .error e => refuse (what ++ " failed: " ++ e.message)
  | .ok quote => pure quote

/-- What the schema refuses is reported as a fault of the builder. -/
def parsed (a : ProposedAction) : Build Unit :=
  match a.issues with
  | [] => pure ()
  | issue :: _ => refuse ("internal: proposal failed schema (" ++ String.intercalate "." issue.path ++ ": " ++
      issue.message ++ ")")

def TokenAllowEntry.ref (t : TokenAllowEntry) : TokenRef := ⟨t.address, t.decimals⟩

/-- The quote as the action carries it. -/
def quoteOf {R : Type} (q : ExecutionQuote R) : Quote :=
  { expectedAmountOut := q.expectedAmountOut, minAmountOut := q.minAmountOut, slippageBps := q.slippageBps
    priceImpactBps := q.priceImpactBps, quotedAt := q.quotedAt, source := q.source, marketId := q.marketId }

def withKey (host : Host) (a : ProposedAction) : ProposedAction :=
  { a with idempotencyKey := Engine.deriveIdempotencyKey host a }

def UNKEYED : String := String.ofList (List.replicate 64 '0')

def candidate {R : Type} (env : ProposalAnswers R) (request : ProposalRequest) (tokenIn tokenOut : TokenAllowEntry)
    (amountIn : Int) (quote : ExecutionQuote R) : ProposedAction :=
  { schemaVersion := 1
    actionId := env.actionId
    decisionCycleId := request.decisionCycleId
    idempotencyKey := UNKEYED
    proposedAt := env.proposedAt
    mode := request.mode
    source := request.source
    chain := request.chain
    kind := .swap
    protocol := quote.protocol
    contract := quote.contract
    programIds := if request.chain = .solana then some (quote.programIds.getD []) else none
    reduceOnly := isExitDecision request.decision
    tokenIn := TokenAllowEntry.ref tokenIn
    tokenOut := TokenAllowEntry.ref tokenOut
    amountIn := toString amountIn
    quote := some (quoteOf quote)
    feeEstimate := quote.feeEstimate
    lp := none
    rationale := some (jsSlice 2000 request.decision.reason) }

/-- The three prices a build asked for. -/
structure Prices where
  tokenIn : Stamped
  tokenOut : Stamped
  native : Stamped

def snapshotOf {R : Type} (request : ProposalRequest) (tokenIn tokenOut : TokenAllowEntry) (prices : Prices)
    (balances : Record Stamped) (liquidity : Option Stamped) (quote : ExecutionQuote R) : MarketSnapshot :=
  let chain := request.chain
  { prices := recordOf [(priceKey chain (nativeAddress chain), prices.native),
      (priceKey chain tokenOut.address, prices.tokenOut), (priceKey chain tokenIn.address, prices.tokenIn)]
    liquidity := recordOf ((liquidity.map fun l => (liquidityKey chain quote.marketId, l)).toList)
    balances
    poolLiquidity := none
    lp := none }

def quoteRequest (request : ProposalRequest) (tokenIn tokenOut : TokenAllowEntry) (amountIn : Int) : QuoteRequest :=
  { chain := request.chain
    tokenIn := TokenAllowEntry.ref tokenIn
    tokenOut := TokenAllowEntry.ref tokenOut
    amountIn := toString amountIn
    slippageBps := request.policy.maxSlippageBps
    sender := request.walletAddress }

def assemble {R : Type} (host : Host) (db : Db) (env : ProposalAnswers R) (request : ProposalRequest)
    (tokenIn tokenOut : TokenAllowEntry) (prices : Prices) (amountIn : Int) (quote : ExecutionQuote R) : BuiltProposal R :=
  let chain := request.chain
  let balances := balancesOf host db request.mode chain env.balancesAt env.readBalances
    [tokenIn.address, nativeAddress chain]
  let asked := [tokenIn.address, tokenOut.address, nativeAddress chain]
  { action := withKey host (candidate env request tokenIn tokenOut amountIn quote)
    quote
    snapshot := snapshotOf request tokenIn tokenOut prices balances (env.liquidity tokenIn.address tokenOut.address quote)
      quote
    priceLookup := priceLookupOf chain fun token => if asked.contains token then env.prices token else none
    prices := ⟨prices.tokenIn.value, prices.tokenOut.value, prices.native.value⟩
    side := sideOf request.decision.action }

def build {R : Type} (host : Host) (db : Db) (env : ProposalAnswers R) (request : ProposalRequest) :
    Build (BuiltProposal R) := do
  let named ← namedToken host request
  let funding ← fundingToken host db env request named
  let tokenIn := if isExitDecision request.decision then named else funding
  let tokenOut := if isExitDecision request.decision then funding else named
  let priceIn ← pricedToken "tokenIn" (env.prices tokenIn.address)
  let priceOut ← pricedToken "tokenOut" (env.prices tokenOut.address)
  let priceNative ← pricedToken "native" (env.prices (nativeAddress request.chain))
  let amountIn ← sizeOf db request tokenIn priceIn
  positiveSize amountIn
  let quote ← quoted "quote" (env.quote (quoteRequest request tokenIn tokenOut amountIn))
  let proposal := assemble host db env request tokenIn tokenOut ⟨priceIn, priceOut, priceNative⟩ amountIn quote
  parsed proposal.action
  return proposal

/-! ## What a built proposal is -/

variable {R : Type} {host : Host} {db : Db} {env : ProposalAnswers R} {request : ProposalRequest} {p : BuiltProposal R}

theorem quoted_ok {α : Type} {what : String} {answer : Result α} {a : α}
    (h : (quoted what answer).run = .ok (.ok a)) : answer = .ok a := by
  unfold quoted at h
  cases answer with
  | error e => exact absurd h not_built_refuse
  | ok b => rw [built_pure.1 h]

theorem parsed_ok {a : ProposedAction} (h : (parsed a).run = .ok (.ok ())) : a.Valid := by
  unfold parsed at h
  cases hi : a.issues with
  | nil => exact hi
  | cons issue rest =>
    rw [hi] at h
    exact absurd h not_built_refuse

theorem positiveSize_ok {amountIn : Int} (h : (positiveSize amountIn).run = .ok (.ok ())) : 0 < amountIn := by
  unfold positiveSize at h
  split at h
  · exact absurd h not_built_refuse
  · omega

theorem pricedToken_ok {label : String} {price : Option Stamped} {s : Stamped}
    (h : (pricedToken label price).run = .ok (.ok s)) : price = some s := by
  unfold pricedToken at h
  cases price with
  | none => exact absurd h not_built_refuse
  | some s' => rw [built_pure.1 h]

/-- **A built proposal is assembled from the environment's answers**, on a pair of distinct legs and a quote asked for at
the policy's slippage limit, and its action has passed the schema. -/
theorem build_ok (h : (build host db env request).run = .ok (.ok p)) :
    ∃ (tokenIn tokenOut : TokenAllowEntry) (prices : Prices) (amountIn : Int) (quote : ExecutionQuote R),
      p = assemble host db env request tokenIn tokenOut prices amountIn quote ∧ p.action.Valid ∧ 0 < amountIn ∧
      env.prices tokenIn.address = some prices.tokenIn ∧ env.prices tokenOut.address = some prices.tokenOut ∧
      env.prices (nativeAddress request.chain) = some prices.native ∧
      env.quote (quoteRequest request tokenIn tokenOut amountIn) = .ok quote := by
  unfold build at h
  simp only [built_bind, built_pure] at h
  obtain ⟨named, -, funding, -, priceIn, hin, priceOut, hout, priceNative, hnat, amountIn, -, ⟨⟩, hpos, quote, hq, ⟨⟩,
    hvalid, rfl⟩ := h
  exact ⟨_, _, ⟨priceIn, priceOut, priceNative⟩, amountIn, quote, rfl, parsed_ok hvalid, positiveSize_ok hpos,
    pricedToken_ok hin, pricedToken_ok hout, pricedToken_ok hnat, quoted_ok hq⟩

end ProposalBuilder
end Atra
