import Atra.LiveProcess
/-!
# LiveSwap — the executor that signs swaps and their approvals

Refuse, build, simulate what was built, sign it, record its hash, broadcast it, and book what the chain reports.  `reconcile`
settles the rows a previous process left in flight: the chain decides those that name a hash, and nothing is signed again.
-/
namespace Atra

structure ExecutionReceipt where
  hash : String
  status : ReceiptStatus
  amountOut : Option String
  feeNative : Option Nat
  error : Option String
deriving DecidableEq, Repr

/-- What a receipt is asked to expose. -/
structure ReceiptExpectation where
  tokenOut : String
  recipient : String
deriving DecidableEq, Repr

structure ExecutionAdapter (R : Type) where
  build : ExecutionQuote R → Await UnsignedTransaction
  simulate : ExecutionQuote R → UnsignedTransaction → Await SimulationResult
  prepareSigning : UnsignedTransaction → String → Await SigningContext
  broadcast : SignedTransaction → Await Unit
  receipt : String → Option ReceiptExpectation → Await ExecutionReceipt
  /-- The answers to the polls of a hash until the deadline, each with the sleep after it. -/
  polls : String → Option ReceiptExpectation → List (Await ExecutionReceipt × Pause)

structure LiveExecutor (R : Type) where
  host : Host
  codecs : Solana.BaseCodecs
  wallets : WalletService
  registry : ChainId → Option (ExecutionAdapter R)

namespace LiveExecutor

open Money Live

variable {R : Type}

/-- Programs the signed message invokes that the engine never approved, or the approved one it never invokes. -/
def unapprovedPrograms (codecs : Solana.BaseCodecs) (action : ProposedAction) (transactionBase64 : String) : Option String :=
  match Solana.summarizeSolanaTransaction codecs transactionBase64 with
  | .error e => some ("built transaction could not be decoded: " ++ e.message)
  | .ok summary =>
    let approved := action.programIds.getD [] ++ SOLANA_SYSTEM_PROGRAMS
    let unapproved := summary.programIds.filter fun id => !approved.contains id
    if unapproved.length > 0 then
      some ("built transaction invokes " ++ String.intercalate ", " unapproved ++ ", which the engine did not approve")
    else if !summary.programIds.contains action.contract then
      some ("built transaction never invokes " ++ action.contract ++ ", the approved program")
    else none

/-- The checks made on a context right before it is signed. -/
def vet (x : LiveExecutor R) (controls : Controls) (action : ProposedAction) (context : SigningContext) :
    Result (Option String) :=
  match refusal controls action with
  | some reason => pure (some ("refused before signing: " ++ reason))
  | none => match context with
    | .evm c => do
      match ← feeOverrun action c with
      | some reason => return some reason
      | none => return wrongTarget x.host action c
    | .solana _ transactionBase64 _ => pure (unapprovedPrograms x.codecs action transactionBase64)

/-- The way to the chain of one execution; only a swap asks its receipt for what was received. -/
def sender (x : LiveExecutor R) (adapter : ExecutionAdapter R) (tokenOut : Option String) : Sender ExecutionReceipt :=
  { wallets := x.wallets
    prepareSigning := adapter.prepareSigning
    vet := x.vet
    broadcast := adapter.broadcast
    polls := fun hash wallet => adapter.polls hash (tokenOut.map fun token => ⟨token, wallet⟩)
    status := (·.status)
    error := (·.error) }

def failedOutcome (action : ProposedAction) (reason : String) (txHash : Option String) (filledAt : Int) :
    ExecutionOutcome :=
  { actionId := action.actionId, mode := .LIVE, status := .failed, amountOut := none, feeUsd := "0.000000", txHash
    error := some reason, filledAt }

def fail (tradeId : String) (action : ProposedAction) (reason : String) (filledAt : Int) : Live ExecutionOutcome := do
  markFailed tradeId reason
  return failedOutcome action reason none filledAt

/-! ## Booking -/

/-- The decimals of a token in the ledger: as allowlisted, else the registry's, else the family's. -/
def tokenRef (chain : ChainId) (address : String) (decimals : Option Nat) : TokenRef :=
  match decimals with
  | some n => ⟨address, n⟩
  | none => match (CHAINS chain).tokens.find? fun t => t.address == address with
    | some entry => ⟨address, entry.decimals⟩
    | none => ⟨address, if chain = .solana then 9 else 18⟩

/-- The fee of a receipt; zero where it cannot be valued. -/
def feeUsdOf (chain : ChainId) (receipt : ExecutionReceipt) (nativeUsd : String) : String :=
  let value : Result Int := do
    let price ← priceToAtto nativeUsd
    nativeToUsdMicros (receipt.feeNative.getD 0) (CHAINS chain).nativeDecimals price .ceil
  match value with
  | .ok fee => microsToUsd fee
  | .error _ => microsToUsd 0

/-- The decimals of both tokens as the operator allowlisted them, where the caller has them. -/
structure PairDecimals where
  tokenIn : Nat
  tokenOut : Nat

/-- What was received: as the chain reports it, else the minimum the contract enforced. -/
def amountOutOf (trade : TradeRow) (receipt : ExecutionReceipt) : String :=
  (receipt.amountOut.or trade.minOut).getD "0"

def fillInput (trade : TradeRow) (receipt : ExecutionReceipt) (prices : QuotePrices) (decimals : Option PairDecimals)
    (filledAt : Int) : RecordFillInput :=
  { tradeId := trade.id
    mode := .LIVE
    chain := trade.chain
    tokenIn := tokenRef trade.chain trade.tokenIn ((decimals.map (·.tokenIn)).or trade.tokenInDecimals)
    tokenOut := tokenRef trade.chain trade.tokenOut ((decimals.map (·.tokenOut)).or trade.tokenOutDecimals)
    amountIn := trade.amountIn
    amountOut := amountOutOf trade receipt
    priceInUsd := prices.tokenInUsd
    priceOutUsd := prices.tokenOutUsd
    feeUsd := feeUsdOf trade.chain receipt prices.nativeUsd
    filledAt
    simulated := false }

/-- What a row is closed with; an approval moved nothing and keeps the hash on its row. -/
def closing (trade : TradeRow) (receipt : ExecutionReceipt) (feeUsd : String) : TradeStore.Filled :=
  let feeNative := some (toString (receipt.feeNative.getD 0))
  if trade.kind = .approve then ⟨"0", feeNative, feeUsd, none⟩
  else ⟨amountOutOf trade receipt, feeNative, feeUsd, some receipt.hash⟩

/-- The ledger is written where there are prices to write it with, and an approval moves nothing. -/
def booked (trade : TradeRow) (prices : QuotePrices) : Bool :=
  trade.kind ≠ .approve && prices.tokenInUsd != "0" && prices.tokenOutUsd != "0"

def writeLedger (trade : TradeRow) (receipt : ExecutionReceipt) (prices : QuotePrices) (decimals : Option PairDecimals) :
    Live Unit :=
  if booked trade prices then do
    let _ ← write fun db now => LedgerService.recordFill db now (fillInput trade receipt prices decimals now)
  else pure ()

def bookFill (trade : TradeRow) (receipt : ExecutionReceipt) (prices : QuotePrices) (decimals : Option PairDecimals) :
    Live String := do
  let feeUsd := feeUsdOf trade.chain receipt prices.nativeUsd
  writeLedger trade receipt prices decimals
  let _ ← write fun db now => TradeStore.markFilled db now trade.id (closing trade receipt feeUsd)
  return feeUsd

/-! ## Executions -/

/-- Report how far a transaction got, and book it once it is confirmed. -/
def settle (tradeId : String) (action : ProposedAction) (prices : QuotePrices) (decimals : Option PairDecimals)
    (sent : Sent ExecutionReceipt) : Live ExecutionOutcome :=
  match sent with
  | .stopped reason txHash time => pure (failedOutcome action reason txHash time)
  | .confirmed txHash receipt => do
    let p ← get
    match TradeStore.get p.db tradeId with
    | none => throw ⟨.internal, "Cannot read properties of null"⟩
    | some trade => do
      let feeUsd ← bookFill trade receipt prices decimals
      let q ← get
      return { actionId := action.actionId, mode := .LIVE, status := .filled, amountOut := receipt.amountOut, feeUsd
               txHash := some txHash, error := none, filledAt := q.clock }

/-- Build, simulate what was built, then sign and send it. -/
def buildAndSend (x : LiveExecutor R) (adapter : ExecutionAdapter R) (tradeId : String) (action : ProposedAction)
    (quote : ExecutionQuote R) (prices : QuotePrices) (startedAt : Int) : Live ExecutionOutcome := do
  match ← Script.attempt (await (adapter.build quote)) with
  | .error e => fail tradeId action ("build failed: " ++ e.message) startedAt
  | .ok tx => do
    let simulation ← await (adapter.simulate quote tx)
    if simulation.ok then
      let sent ← signAndSend (x.sender adapter (some action.tokenOut.address)) tradeId action tx
      settle tradeId action prices (some ⟨action.tokenIn.decimals, action.tokenOut.decimals⟩) sent
    else fail tradeId action ("simulation failed: " ++ simulation.error.getD "unknown") startedAt

/-- Execute an allowed swap. -/
def execute (x : LiveExecutor R) (tradeId : String) (action : ProposedAction) (quote : ExecutionQuote R)
    (prices : QuotePrices) : Live ExecutionOutcome := do
  let p ← get
  admitAction (x.registry action.chain) p.controls action "no execution adapter for "
    (fun reason => fail tradeId action reason p.clock) fun adapter => do
      write fun db now => pure (TradeStore.recordQuotePrices db now tradeId prices, ())
      dispatch tradeId action
      x.buildAndSend adapter tradeId action quote prices p.clock

/-- Execute an allowed approval; nothing is booked in the ledger. -/
def executeApprove (x : LiveExecutor R) (tradeId : String) (action : ProposedAction) (tx : UnsignedTransaction)
    (nativeUsd : String) : Live ExecutionOutcome := do
  let p ← get
  admitAction (x.registry action.chain) p.controls action "no execution adapter for "
    (fun reason => fail tradeId action reason p.clock) fun adapter => do
      dispatch tradeId action
      let sent ← signAndSend (x.sender adapter none) tradeId action tx
      settle tradeId action ⟨"0", "0", nativeUsd⟩ none sent

/-! ## After a restart -/

def noPrices : QuotePrices := ⟨"0", "0", "0"⟩

def reconciler (x : LiveExecutor R) : Reconciler ExecutionReceipt :=
  { mine := fun trade => !isLpRow trade
    ask := fun trade hash => (x.registry trade.chain).map fun adapter => do
      let recipient ← x.wallets.depositAddress trade.chain
      return adapter.receipt hash (some ⟨trade.tokenOut, recipient⟩)
    status := (·.status)
    error := (·.error)
    -- the price it landed at is gone, the prices it was decided on are on the row
    book := fun trade receipt => do
      let _ ← bookFill trade receipt (trade.quotePrices.getD noPrices) none }

/-- Settle the swaps and approvals left in flight by a previous process. -/
def reconcile (x : LiveExecutor R) : Live ReconcileReport := Live.reconcile x.reconciler

end LiveExecutor
end Atra
