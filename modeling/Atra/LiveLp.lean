import Atra.LpBooks
import Atra.Paper
/-!
# LiveLp — booking a confirmed LP transaction

`book` runs right after an execution, from the plan, the fill-time prices and the transfers the receipt exposes: the position
and the day's P&L in one transaction, then the trade row.  `bookReconciled` runs after a restart, when plan and prices are
gone: the trade row first, then the position from the transfers alone, at a cost basis of zero.
-/
namespace Atra

inductive ReceiptStatus where
  | pending | confirmed | failed | unknown
deriving DecidableEq, Repr

/-- What the chain says of a transaction; transfers by lower-case token address. -/
structure LpReceipt where
  hash : String
  status : ReceiptStatus
  feeNative : Option Nat
  error : Option String
  received : Record String
  sent : Record String

namespace LiveLpExecutor

open Money

/-- The fee of a receipt; zero where it cannot be valued. -/
def feeUsdOf (chain : ChainId) (receipt : LpReceipt) (nativeUsd : String) : String :=
  let value : Result Int := do
    let price ← priceToAtto nativeUsd
    nativeToUsdMicros (receipt.feeNative.getD 0) (CHAINS chain).nativeDecimals price .ceil
  match value with
  | .ok fee => microsToUsd fee
  | .error _ => microsToUsd 0

/-- The transfer of a token, or the amount the quote guaranteed. -/
def chainAmount (host : Host) (side : Record String) (token fallback : String) : String :=
  (side (host.toLowerCase token)).getD fallback

/-- The USD value of the two amounts of a pool, each read before it is priced. -/
def sidesUsd (pool : LpPoolState) (prices : LpFillPrices) (amount0 amount1 : String) (rounding : Direction) : Result Int := do
  let base0 ← amountToBigint amount0
  let price0 ← priceToAtto prices.token0Usd
  let value0 ← nativeToUsdMicros base0 pool.token0.decimals price0 rounding
  let base1 ← amountToBigint amount1
  let price1 ← priceToAtto prices.token1Usd
  let value1 ← nativeToUsdMicros base1 pool.token1.decimals price1 rounding
  return value0 + value1

/-- What a booking moved, as the outcome reports it. -/
structure Amounts where
  lpTokens : Option String
  amount0 : String
  amount1 : String
deriving DecidableEq, Repr

/-- Where and for what a booking is made. -/
structure Booking where
  tradeId : String
  action : ProposedAction
  pool : LpPoolState
  feeUsd : String
  filledAt : Int

def Booking.pnl (b : Booking) (recorded : LpRecordedAction) (proceedsUsd costReleasedUsd feeUsd : Int) : RecordPnlInput :=
  { tradeId := some b.tradeId, mode := .LIVE, chain := b.action.chain, protocol := b.action.protocol, poolId := b.pool.poolId
    action := recorded, proceedsUsd, costReleasedUsd, feeUsd, time := b.filledAt, simulated := false }

def Booking.addInput (b : Booking) (amounts : Amounts) (minted : String) (capital : Int) : BookAddInput :=
  { mode := .LIVE
    chain := b.action.chain
    protocol := b.action.protocol
    poolId := b.pool.poolId
    token0 := ⟨b.pool.token0.address, b.pool.token0.decimals⟩
    token1 := ⟨b.pool.token1.address, b.pool.token1.decimals⟩
    lpTokens := minted
    amount0 := amounts.amount0
    amount1 := amounts.amount1
    capitalUsd := microsToUsd capital
    time := b.filledAt
    rebalance := b.action.kind = .lp_rebalance }

/-- What an add moved: the tokens it minted and pulled. -/
def addAmounts {R : Type} (host : Host) (pool : LpPoolState) (quote : LpAddQuote R) (receipt : LpReceipt) : Amounts :=
  { lpTokens := some (chainAmount host receipt.received pool.poolId quote.minLpTokens)
    amount0 := chainAmount host receipt.sent pool.token0.address quote.amount0
    amount1 := chainAmount host receipt.sent pool.token1.address quote.amount1 }

/-- Book an add: the position at what was paid, and its gas. -/
def bookAdded {R : Type} (db : Db) (host : Host) (b : Booking) (quote : LpAddQuote R) (prices : LpFillPrices)
    (receipt : LpReceipt) : Result Db := do
  let amounts := addAmounts host b.pool quote receipt
  let capital ← sidesUsd b.pool prices amounts.amount0 amounts.amount1 .ceil
  let minted := chainAmount host receipt.received b.pool.poolId quote.minLpTokens
  let booked ← LiquidityStore.bookAdd db (b.addInput amounts minted capital)
  let fee ← usdToMicros b.feeUsd
  let recorded : LpRecordedAction := if b.action.kind = .lp_rebalance then .REBALANCE else .ADD
  return (LiquidityStore.recordPnl booked.1 (b.pnl recorded 0 0 fee)).1

/-- What a removal moved: the tokens it burned and what came back. -/
def removeAmounts {R : Type} (host : Host) (pool : LpPoolState) (quote : LpRemoveQuote R) (receipt : LpReceipt) : Amounts :=
  { lpTokens := some quote.lpTokens
    amount0 := chainAmount host receipt.received pool.token0.address quote.min0
    amount1 := chainAmount host receipt.received pool.token1.address quote.min1 }

/-- The position holds at least what was burned. -/
def coversBurn (stored : Option LpPositionRow) (burned : String) : Result Bool :=
  match stored with
  | none => pure false
  | some row => return decide ((← amountToBigint burned) ≤ row.lpTokens)

/-- Burn what the ledger holds and realize it. -/
def bookBurned (db : Db) (b : Booking) (burned : String) (proceedsUsd : Int) : Result Db := do
  let removed ← LiquidityStore.bookRemove db
    { mode := .LIVE, chain := b.action.chain, protocol := b.action.protocol, poolId := b.pool.poolId, lpTokens := burned
      time := b.filledAt }
  let fee ← usdToMicros b.feeUsd
  let recorded : LpRecordedAction := if removed.2.closed then .EXIT else .REMOVE
  return (LiquidityStore.recordPnl removed.1 (b.pnl recorded proceedsUsd removed.2.costReleasedUsd fee)).1

/-- Book a removal; a burn the ledger does not hold leaves the position as it is and charges the gas alone. -/
def bookRemoved {R : Type} (db : Db) (host : Host) (b : Booking) (quote : LpRemoveQuote R) (prices : LpFillPrices)
    (receipt : LpReceipt) : Result Db := do
  let amounts := removeAmounts host b.pool quote receipt
  let proceeds ← sidesUsd b.pool prices amounts.amount0 amounts.amount1 .floor
  let stored := LiquidityStore.getPosition db .LIVE b.action.chain b.action.protocol b.pool.poolId
  if ← coversBurn stored quote.lpTokens then bookBurned db b quote.lpTokens proceeds
  else return (LiquidityStore.recordPnl db (b.pnl .REMOVE 0 0 (← usdToMicros b.feeUsd))).1

def claimAmounts (host : Host) (pool : LpPoolState) (receipt : LpReceipt) : Amounts :=
  { lpTokens := none, amount0 := chainAmount host receipt.received pool.token0.address "0"
    amount1 := chainAmount host receipt.received pool.token1.address "0" }

/-- Book a claim: a realized gain against no basis. -/
def bookClaimed (db : Db) (host : Host) (b : Booking) (prices : LpFillPrices) (receipt : LpReceipt) : Result Db := do
  let amounts := claimAmounts host b.pool receipt
  let touched := LiquidityStore.touchClaim db .LIVE b.action.chain b.action.protocol b.pool.poolId b.filledAt
  let proceeds ← sidesUsd b.pool prices amounts.amount0 amounts.amount1 .floor
  let fee ← usdToMicros b.feeUsd
  return (LiquidityStore.recordPnl touched (b.pnl .COLLECT_FEES proceeds 0 fee)).1

/-- The ledger of a confirmed transaction, written before its trade row. -/
def bookLedger {R : Type} (db : Db) (host : Host) (b : Booking) (plan : LpPlan R) (prices : LpFillPrices)
    (receipt : LpReceipt) : Result Db :=
  match plan with
  | .add quote => bookAdded db host b quote prices receipt
  | .remove quote _ => bookRemoved db host b quote prices receipt
  | .claim _ => bookClaimed db host b prices receipt

def amountsOf {R : Type} (host : Host) (pool : LpPoolState) (plan : LpPlan R) (receipt : LpReceipt) : Amounts :=
  match plan with
  | .add quote => addAmounts host pool quote receipt
  | .remove quote _ => removeAmounts host pool quote receipt
  | .claim _ => claimAmounts host pool receipt

/-- What a trade row is closed with. -/
def filledOutOf {R : Type} (plan : LpPlan R) (amounts : Amounts) : String :=
  match plan with
  | .add _ => amounts.lpTokens.getD "0"
  | _ => amounts.amount1

/-- Book a confirmed LP transaction from the chain's own transfers: the ledger, then the trade row. -/
def book {R : Type} (db : Db) (now : Int) (host : Host) (trade : TradeRow) (action : ProposedAction) (plan : LpPlan R)
    (pool : LpPoolState) (prices : LpFillPrices) (receipt : LpReceipt) : Db × Result LpExecutionOutcome :=
  let feeUsd := feeUsdOf action.chain receipt prices.nativeUsd
  let amounts := amountsOf host pool plan receipt
  match bookLedger db host ⟨trade.id, action, pool, feeUsd, now⟩ plan prices receipt with
  | .error e => (db, .error e)
  | .ok written =>
    match TradeStore.markFilled written now trade.id
      ⟨filledOutOf plan amounts, receipt.feeNative.map toString, feeUsd, some receipt.hash⟩ with
    | .error e => (written, .error e)
    | .ok closed => (closed.1, .ok
        { actionId := action.actionId, mode := .LIVE, status := .filled, lpTokens := amounts.lpTokens
          amount0 := some amounts.amount0, amount1 := some amounts.amount1, feeUsd, txHash := some receipt.hash
          error := none, filledAt := now })

/-- What a booking leaves: the ledger as it was where it throws, and as it was written where only closing the row throws. -/
theorem book_fst {R : Type} {db : Db} {now : Int} {host : Host} {trade : TradeRow} {action : ProposedAction} {plan : LpPlan R}
    {pool : LpPoolState} {prices : LpFillPrices} {receipt : LpReceipt} : ∃ fill,
    (book db now host trade action plan pool prices receipt).1 =
      match bookLedger db host ⟨trade.id, action, pool, feeUsdOf action.chain receipt prices.nativeUsd, now⟩ plan prices
        receipt with
      | .error _ => db
      | .ok written => match TradeStore.markFilled written now trade.id fill with
        | .error _ => written
        | .ok closed => closed.1 := by
  refine ⟨⟨filledOutOf plan (amountsOf host pool plan receipt), receipt.feeNative.map toString,
    feeUsdOf action.chain receipt prices.nativeUsd, some receipt.hash⟩, ?_⟩
  unfold book
  dsimp only
  split
  · rfl
  · split
    · rfl
    · rfl

/-! ## After a restart -/

def knownDecimals (chain : ChainId) (token : String) : Nat :=
  match (CHAINS chain).tokens.find? fun t => t.address == token with
  | some entry => entry.decimals
  | none => 18

def reconciledAdd (host : Host) (trade : TradeRow) (poolId minted : String) (receipt : LpReceipt) (now : Int) :
    BookAddInput :=
  { mode := .LIVE
    chain := trade.chain
    protocol := trade.protocol
    poolId
    token0 := ⟨trade.tokenIn, knownDecimals trade.chain trade.tokenIn⟩
    token1 := ⟨trade.tokenOut, knownDecimals trade.chain trade.tokenOut⟩
    lpTokens := minted
    amount0 := chainAmount host receipt.sent trade.tokenIn "0"
    amount1 := chainAmount host receipt.sent trade.tokenOut "0"
    capitalUsd := "0"
    time := now
    rebalance := false }

/-- Book the tokens a recovered add minted, if the receipt shows any, at a cost basis of zero. -/
def reconcileAdd (db : Db) (now : Int) (host : Host) (trade : TradeRow) (poolId : String) (receipt : LpReceipt) :
    Result Db :=
  match receipt.received (host.toLowerCase poolId) with
  | none => pure db
  | some minted =>
    if minted = "" then pure db
    else do
      if 0 < (← amountToBigint minted) then
        return (← LiquidityStore.bookAdd db (reconciledAdd host trade poolId minted receipt now)).1
      else return db

def reconciledRemove (trade : TradeRow) (poolId burned : String) (now : Int) : BookRemoveInput :=
  { mode := .LIVE, chain := trade.chain, protocol := trade.protocol, poolId, lpTokens := burned, time := now }

/-- Burn what a recovered removal burned, where the ledger holds that much. -/
def reconcileRemove (db : Db) (now : Int) (trade : TradeRow) (poolId : String) : Result Db :=
  match trade.route.lpTokens with
  | none => pure db
  | some burned => do
    if ← coversBurn (LiquidityStore.getPosition db .LIVE trade.chain trade.protocol poolId) burned then
      return (← LiquidityStore.bookRemove db (reconciledRemove trade poolId burned now)).1
    else return db

/-- The ledger of a recovered transaction, written after its trade row. -/
def reconcileLedger (db : Db) (now : Int) (host : Host) (trade : TradeRow) (receipt : LpReceipt) : Result Db :=
  match trade.route.poolId with
  | none => pure db
  | some poolId =>
    if poolId = "" then pure db
    else match trade.kind with
      | .lp_add => reconcileAdd db now host trade poolId receipt
      | .lp_remove => reconcileRemove db now trade poolId
      | _ => pure db

def reconciledFill (receipt : LpReceipt) : TradeStore.Filled :=
  ⟨"0", some (toString (receipt.feeNative.getD 0)), microsToUsd 0, some receipt.hash⟩

/-- A confirmed row after a restart: the trade row, then the ledger. -/
def bookReconciled (db : Db) (now : Int) (host : Host) (trade : TradeRow) (receipt : LpReceipt) : Db × Result Unit :=
  match TradeStore.markFilled db now trade.id (reconciledFill receipt) with
  | .error e => (db, .error e)
  | .ok filled =>
    match reconcileLedger filled.1 now host trade receipt with
    | .error e => (filled.1, .error e)
    | .ok written => (written, .ok ())

end LiveLpExecutor
end Atra
