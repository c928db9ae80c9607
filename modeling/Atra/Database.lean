import Atra.RiskTypes
import Atra.Table
/-!
# Database — the tables the modelled services read and write

One row type a table, with the uniqueness constraints of the schema as keys.  Base-unit amounts are numbers and USD columns
micro-USD, which is what their texts parse to; times are milliseconds.  A service is a function of the database; where it
throws, its caller keeps the database it had, which is the rollback of the source's transactions.
-/
namespace Atra

inductive TradeStatus where
  | proposed | rejected | allowed | dispatched | signed | broadcast | filled | failed | cancelled
deriving DecidableEq, Repr

def TradeStatus.name : TradeStatus → String
  | .proposed => "proposed"
  | .rejected => "rejected"
  | .allowed => "allowed"
  | .dispatched => "dispatched"
  | .signed => "signed"
  | .broadcast => "broadcast"
  | .filled => "filled"
  | .failed => "failed"
  | .cancelled => "cancelled"

inductive TradeSide where
  | open | reduce | close | swap | approve
deriving DecidableEq, Repr

/-- The USD prices a decision was made on. -/
structure QuotePrices where
  tokenInUsd : String
  tokenOutUsd : String
  nativeUsd : String
deriving DecidableEq, Repr

/-- What the reconcilers read back of a row's route: whether it is an LP row, its pool and the LP tokens it burns. -/
structure TradeRoute where
  lp : Bool
  poolId : Option String
  lpTokens : Option String
deriving DecidableEq, Repr

structure TradeRow where
  id : String
  actionId : String
  decisionCycleId : String
  mode : Mode
  chain : ChainId
  protocol : String
  kind : ActionKind
  side : TradeSide
  marketKey : String
  tokenIn : String
  tokenOut : String
  tokenInDecimals : Option Nat
  tokenOutDecimals : Option Nat
  quotePrices : Option QuotePrices
  amountIn : String
  expectedOut : Option String
  minOut : Option String
  filledOut : Option String
  feeNative : Option String
  feeUsd : Option String
  amountInUsd : Option String
  status : TradeStatus
  rejectionCode : Option RejectionCode
  txHash : Option String
  route : TradeRoute
  rationale : Option String
  error : Option String
  proposedAt : Int
  updatedAt : Int
  filledAt : Option Int
deriving DecidableEq, Repr

structure PositionRow where
  mode : Mode
  chain : ChainId
  token : String
  decimals : Nat
  amount : Nat
  costBasisUsd : Int
  openedAt : Int
  updatedAt : Int
deriving DecidableEq, Repr

def PositionRow.key (r : PositionRow) : Mode × ChainId × String := (r.mode, r.chain, r.token)

structure FillRow where
  tradeId : String
  mode : Mode
  chain : ChainId
  tokenIn : String
  tokenOut : String
  amountIn : String
  amountOut : String
  priceInUsd : String
  priceOutUsd : String
  feeUsd : Int
  realizedPnlUsd : Int
  filledAt : Int
  simulated : Bool
deriving DecidableEq, Repr

structure PaperBalanceRow where
  chain : ChainId
  token : String
  decimals : Nat
  amount : Nat
  updatedAt : Int
deriving DecidableEq, Repr

def PaperBalanceRow.key (r : PaperBalanceRow) : ChainId × String := (r.chain, r.token)

structure LedgerDayRow where
  mode : Mode
  dayStartUtcMs : Int
  unrealizedAtStartUsd : Int
  recordedAt : Int
deriving DecidableEq, Repr

def LedgerDayRow.key (r : LedgerDayRow) : Mode × Int := (r.mode, r.dayStartUtcMs)

/-- What an LP row or an LP action records as having been done. -/
inductive LpRecordedAction where
  | HOLD | ADD | REMOVE | REBALANCE | COLLECT_FEES | EXIT
deriving DecidableEq, Repr

structure LpPositionRow where
  mode : Mode
  chain : ChainId
  protocol : String
  poolId : String
  token0 : String
  token1 : String
  decimals0 : Nat
  decimals1 : Nat
  lpTokens : Nat
  amount0 : String
  amount1 : String
  capitalUsd : Int
  openedAt : Int
  lastAction : LpRecordedAction
  lastActionAt : Int
  lastRebalanceAt : Option Int
deriving DecidableEq, Repr

def LpPositionRow.key (r : LpPositionRow) : Mode × ChainId × String × String := (r.mode, r.chain, r.protocol, r.poolId)

structure LpPnlRow where
  tradeId : Option String
  mode : Mode
  chain : ChainId
  protocol : String
  poolId : String
  action : LpRecordedAction
  proceedsUsd : Int
  costReleasedUsd : Int
  feeUsd : Int
  realizedPnlUsd : Int
  recordedAt : Int
  simulated : Bool
deriving DecidableEq, Repr

structure LpRebalanceRow where
  mode : Mode
  chain : ChainId
  poolId : String
  dayStartUtcMs : Int
  count : Nat
  updatedAt : Int
deriving DecidableEq, Repr

def LpRebalanceRow.key (r : LpRebalanceRow) : Mode × ChainId × String × Int := (r.mode, r.chain, r.poolId, r.dayStartUtcMs)

/-- What a change of a range position's liquidity was. -/
inductive LpRangeAction where
  | ADD | REMOVE | EXIT
deriving DecidableEq, Repr

def LpRangeAction.recorded : LpRangeAction → LpRecordedAction
  | .ADD => .ADD
  | .REMOVE => .REMOVE
  | .EXIT => .EXIT

/-- A position NFT.  Its row is never deleted: it closes when its liquidity reaches zero, and may open again. -/
structure LpRangePositionRow where
  mode : Mode
  chain : ChainId
  protocol : String
  poolId : String
  tokenId : String
  token0 : String
  token1 : String
  decimals0 : Nat
  decimals1 : Nat
  feePips : ℚ
  tickLower : ℚ
  tickUpper : ℚ
  liquidity : Int
  capitalUsd : Int
  openedAt : Int
  lastAction : LpRangeAction
  lastActionAt : Int
  closedAt : Option Int
deriving DecidableEq, Repr

/-- The key of a range position: its token id within a mode, chain and protocol. -/
abbrev RangeKey := Mode × ChainId × String × String

def LpRangePositionRow.key (r : LpRangePositionRow) : RangeKey := (r.mode, r.chain, r.protocol, r.tokenId)

/-- One change of a range position's liquidity, with what the position held after it. -/
structure LpRangeEventRow where
  mode : Mode
  chain : ChainId
  protocol : String
  poolId : String
  tokenId : String
  action : LpRangeAction
  liquidityDelta : Int
  liquidityAfter : Int
  capitalDeltaUsd : Int
  capitalAfterUsd : Int
  time : Int
deriving DecidableEq, Repr

def LpRangeEventRow.key (r : LpRangeEventRow) : RangeKey := (r.mode, r.chain, r.protocol, r.tokenId)

/-- A range position replaced by another, counted against the pool of the new one. -/
structure LpRangeRebalanceRow where
  mode : Mode
  chain : ChainId
  protocol : String
  poolId : String
  closedTokenId : String
  openedTokenId : String
  dayStartUtcMs : Int
  time : Int
deriving DecidableEq, Repr

/-- A mint is the second half of at most one rebalance. -/
def LpRangeRebalanceRow.key (r : LpRangeRebalanceRow) : RangeKey := (r.mode, r.chain, r.protocol, r.openedTokenId)

/-- A decision as it was persisted. -/
structure DecisionRow where
  actionId : String
  idempotencyKey : String
  decision : RiskDecision
  createdAt : Int
  expiresAt : Int
deriving DecidableEq, Repr

structure CooldownRow where
  marketKey : String
  lastActionAt : Int
deriving DecidableEq, Repr

structure Db where
  trades : Table TradeRow.id
  positions : Table PositionRow.key
  fills : List FillRow
  paperBalances : Table PaperBalanceRow.key
  ledgerDays : Table LedgerDayRow.key
  lpPositions : Table LpPositionRow.key
  lpPnl : List LpPnlRow
  lpRebalances : Table LpRebalanceRow.key
  lpRangePositions : Table LpRangePositionRow.key
  lpRangeEvents : List LpRangeEventRow
  lpRangeRebalances : List LpRangeRebalanceRow
  decisions : Table DecisionRow.actionId
  cooldowns : Table CooldownRow.marketKey
  lastAnyActionAt : Option Int

def Db.empty : Db :=
  { trades := .empty, positions := .empty, fills := [], paperBalances := .empty, ledgerDays := .empty, lpPositions := .empty
    lpPnl := [], lpRebalances := .empty, lpRangePositions := .empty, lpRangeEvents := [], lpRangeRebalances := []
    decisions := .empty, cooldowns := .empty, lastAnyActionAt := none }

def uniqueViolation (column : String) : AppError := ⟨.internal, "UNIQUE constraint failed: " ++ column⟩

def foreignKeyViolation : AppError := ⟨.internal, "FOREIGN KEY constraint failed"⟩

end Atra
