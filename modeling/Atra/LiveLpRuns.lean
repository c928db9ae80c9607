import Atra.LiveSwap
/-!
# LiveLpRuns — the executor that signs liquidity transactions

Refuse, build from the plan the engine approved, simulate, sign, record the hash, broadcast, and book from the transfers the
receipt exposes.  `reconcile` settles the liquidity rows a previous process left in flight.
-/
namespace Atra

structure LpAdapter (R : Type) where
  buildAdd : LpAddQuote R → Result UnsignedTransaction
  buildRemove : LpRemoveQuote R → Result UnsignedTransaction
  buildClaim : LpClaimPlan → String → Result UnsignedTransaction
  /-- Not every adapter can simulate what it built. -/
  simulate : Option (UnsignedTransaction → Await SimulationResult)
  prepareSigning : UnsignedTransaction → String → Await SigningContext
  broadcast : SignedTransaction → Await Unit
  receipt : String → String → Await LpReceipt
  /-- The answers to the polls of a hash until the deadline, each with the sleep after it. -/
  polls : String → String → List (Await LpReceipt × Pause)

/-- The executor of liquidity actions on LIVE. -/
structure LpLive (R : Type) where
  host : Host
  wallets : WalletService
  registry : ChainId → Option (LpAdapter R)

namespace LiveLpExecutor

open Money Live LiveExecutor

variable {R : Type}

/-- The checks made on a context right before it is signed. -/
def vet (x : LpLive R) (controls : Controls) (action : ProposedAction) (context : SigningContext) :
    Result (Option String) :=
  match context with
  | .solana .. => pure (some "LP execution is EVM-only in this build")
  | .evm c => match refusal controls action with
    | some reason => pure (some ("refused before signing: " ++ reason))
    | none => do
      match ← feeOverrun action c with
      | some reason => return some reason
      | none => return wrongTarget x.host action c

def sender (x : LpLive R) (adapter : LpAdapter R) : Sender LpReceipt :=
  { wallets := x.wallets
    prepareSigning := adapter.prepareSigning
    vet := vet x
    broadcast := adapter.broadcast
    polls := adapter.polls
    status := (·.status)
    error := (·.error) }

def failedOutcome (action : ProposedAction) (reason : String) (txHash : Option String) (filledAt : Int) :
    LpExecutionOutcome :=
  { actionId := action.actionId, mode := .LIVE, status := .failed, lpTokens := none, amount0 := none, amount1 := none
    feeUsd := "0.000000", txHash, error := some reason, filledAt }

def fail (tradeId : String) (action : ProposedAction) (reason : String) (filledAt : Int) : Live LpExecutionOutcome := do
  markFailed tradeId reason
  return failedOutcome action reason none filledAt

/-- Run what was built past the chain, where the adapter can: the reason it would revert, if it would or did not say. -/
def simulate (adapter : LpAdapter R) (tx : UnsignedTransaction) : Live (Option String) :=
  match adapter.simulate with
  | none => pure none
  | some run => do
    match ← Script.attempt (await (run tx)) with
    | .error e => return some ("simulation failed: " ++ e.message)
    | .ok result =>
      return if result.ok then none else some ("simulation failed: " ++ result.error.getD "unknown")

def build (x : LpLive R) (adapter : LpAdapter R) (chain : ChainId) (plan : LpPlan R) : Result UnsignedTransaction := do
  let wallet ← x.wallets.depositAddress chain
  match plan with
  | .add quote => adapter.buildAdd quote
  | .remove quote _ => adapter.buildRemove quote
  | .claim claim => adapter.buildClaim claim wallet

/-- `#book`: the ledger in one transaction, then the trade row. -/
def bookConfirmed (x : LpLive R) (trade : TradeRow) (action : ProposedAction) (plan : LpPlan R) (pool : LpPoolState)
    (prices : LpFillPrices) (receipt : LpReceipt) : Live LpExecutionOutcome := do
  let p ← get
  let feeUsd := feeUsdOf action.chain receipt prices.nativeUsd
  let amounts := amountsOf x.host pool plan receipt
  write fun db now => (·, ()) <$> bookLedger db x.host ⟨trade.id, action, pool, feeUsd, now⟩ plan prices receipt
  let _ ← write fun db now => TradeStore.markFilled db now trade.id
    ⟨filledOutOf plan amounts, receipt.feeNative.map toString, feeUsd, some receipt.hash⟩
  return { actionId := action.actionId, mode := .LIVE, status := .filled, lpTokens := amounts.lpTokens
           amount0 := some amounts.amount0, amount1 := some amounts.amount1, feeUsd, txHash := some receipt.hash
           error := none, filledAt := p.clock }

/-- Report how far a transaction got, and book it once it is confirmed. -/
def settle (x : LpLive R) (tradeId : String) (action : ProposedAction) (plan : LpPlan R) (pool : LpPoolState)
    (prices : LpFillPrices) (sent : Sent LpReceipt) : Live LpExecutionOutcome :=
  match sent with
  | .stopped reason txHash time => pure (failedOutcome action reason txHash time)
  | .confirmed _ receipt => do
    let p ← get
    match TradeStore.get p.db tradeId with
    | none => throw ⟨.internal, "Cannot read properties of null"⟩
    | some trade => bookConfirmed x trade action plan pool prices receipt

/-- Build from the plan, simulate what was built, then sign and send it. -/
def buildAndSend (x : LpLive R) (adapter : LpAdapter R) (tradeId : String) (action : ProposedAction) (plan : LpPlan R)
    (pool : LpPoolState) (prices : LpFillPrices) (startedAt : Int) : Live LpExecutionOutcome :=
  match build x adapter action.chain plan with
  | .error e => fail tradeId action ("build failed: " ++ e.message) startedAt
  | .ok tx => do
    match ← simulate adapter tx with
    | some reverted => fail tradeId action reverted startedAt
    | none => do
      let sent ← signAndSend (sender x adapter) tradeId action tx
      settle x tradeId action plan pool prices sent

/-- Execute an allowed add, removal or claim. -/
def execute (x : LpLive R) (tradeId : String) (action : ProposedAction) (plan : LpPlan R) (pool : LpPoolState)
    (prices : LpFillPrices) : Live LpExecutionOutcome := do
  let p ← get
  admitAction (x.registry action.chain) p.controls action "no LP adapter for "
    (fun reason => fail tradeId action reason p.clock) fun adapter => do
      dispatch tradeId action
      buildAndSend x adapter tradeId action plan pool prices p.clock

/-- Close the row of a confirmed approval. -/
def settleApproval (tradeId : String) (action : ProposedAction) (nativeUsd : String) (sent : Sent LpReceipt) :
    Live LpExecutionOutcome :=
  match sent with
  | .stopped reason txHash time => pure (failedOutcome action reason txHash time)
  | .confirmed _ receipt => do
    let feeUsd := feeUsdOf action.chain receipt nativeUsd
    let _ ← write fun db now => TradeStore.markFilled db now tradeId
      ⟨"0", receipt.feeNative.map toString, feeUsd, some receipt.hash⟩
    let p ← get
    return { actionId := action.actionId, mode := .LIVE, status := .filled, lpTokens := none, amount0 := none
             amount1 := none, feeUsd, txHash := some receipt.hash, error := none, filledAt := p.clock }

/-- Execute an allowed exact-amount approval to the router. -/
def executeApprove (x : LpLive R) (tradeId : String) (action : ProposedAction) (tx : UnsignedTransaction)
    (nativeUsd : String) : Live LpExecutionOutcome := do
  let p ← get
  admitAction (x.registry action.chain) p.controls action "no LP adapter for "
    (fun reason => fail tradeId action reason p.clock) fun adapter => do
      dispatch tradeId action
      match ← simulate adapter tx with
      | some reverted => fail tradeId action reverted p.clock
      | none => do
        let sent ← signAndSend (sender x adapter) tradeId action tx
        settleApproval tradeId action nativeUsd sent

/-! ## After a restart -/

/-- `#bookReconciled`: the trade row first, then the ledger. -/
def bookRecovered (x : LpLive R) (trade : TradeRow) (receipt : LpReceipt) : Live Unit := do
  let _ ← write fun db now => TradeStore.markFilled db now trade.id (reconciledFill receipt)
  write fun db now => (·, ()) <$> reconcileLedger db now x.host trade receipt

def reconciler (x : LpLive R) : Reconciler LpReceipt :=
  { mine := isLpRow
    ask := fun trade hash => (x.registry trade.chain).map fun adapter => do
      let wallet ← x.wallets.depositAddress trade.chain
      return adapter.receipt hash wallet
    status := (·.status)
    error := (·.error)
    book := bookRecovered x }

/-- Settle the liquidity rows left in flight by a previous process. -/
def reconcile (x : LpLive R) : Live ReconcileReport := Live.reconcile (reconciler x)

end LiveLpExecutor
end Atra
