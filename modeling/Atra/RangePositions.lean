import Atra.LiquidityStore
import Atra.TickMath
import Atra.Transaction
/-!
# RangePositions — the ledger of concentrated positions

Every change of a range position is one transaction over up to four tables: the row itself, the event that dates the change,
the rebalance it completes and what it realized.  A burn releases cost rounded up, like a v2 burn; a position burned to
nothing stays as a closed row and may be increased again.
-/
namespace Atra

/-- What the chain reported of a fill. -/
structure RangeRealizedInput where
  tradeId : Option String
  proceedsUsd : Int
  feeUsd : Int
  simulated : Bool
deriving DecidableEq, Repr

structure OpenRangePositionInput where
  mode : Mode
  chain : ChainId
  protocol : String
  poolId : String
  tokenId : String
  token0 : TokenRef
  token1 : TokenRef
  feePips : ℚ
  tickLower : ℚ
  tickUpper : ℚ
  liquidity : String
  capitalUsd : Int
  rebalancedFrom : Option String
  realized : RangeRealizedInput
  time : Int

structure AdjustRangePositionInput where
  mode : Mode
  chain : ChainId
  protocol : String
  tokenId : String
  liquidityDelta : Int
  capitalUsd : Option Int
  realized : RangeRealizedInput
  time : Int

structure CloseRangePositionInput where
  mode : Mode
  chain : ChainId
  protocol : String
  tokenId : String
  realized : RangeRealizedInput
  time : Int

/-- The adjustment a close makes: everything the position holds is burned. -/
def CloseRangePositionInput.burn (input : CloseRangePositionInput) (tokenId : String) (held : Int) :
    AdjustRangePositionInput :=
  { mode := input.mode
    chain := input.chain
    protocol := input.protocol
    tokenId
    liquidityDelta := -held
    capitalUsd := none
    realized := input.realized
    time := input.time }

structure RangeAdjustResult where
  position : LpRangePositionRow
  costReleasedUsd : Int
  closed : Bool
  realizedPnlUsd : Int

namespace LiquidityStore

open Money Script

/-! ## What is checked before anything is written -/

/-- The most milliseconds an instant may be away from the epoch. -/
def MAX_TIME : Int := 8640000000000000

/-- The time of a call, which must be an instant. -/
def isoTime (time : Int) : Result Int :=
  if -MAX_TIME ≤ time ∧ time ≤ MAX_TIME then pure time else throw ⟨.internal, "Invalid time value"⟩

/-- A token id in the form the chain assigned it: digits with no leading zero. -/
def canonicalTokenId (tokenId : String) : Result String :=
  match amountToBigint tokenId with
  | .ok n => pure (toString n)
  | .error _ => throw ⟨.schemaInvalid, "Malformed position token id"⟩

def assertRealized (realized : RangeRealizedInput) (proceedsAllowed : Bool) : Result Unit := do
  refuseWhen (realized.feeUsd < 0) ⟨.schemaInvalid, "Gas is a cost; it cannot be negative"⟩
  refuseWhen (realized.proceedsUsd < 0) ⟨.schemaInvalid, "A burn cannot return a negative amount"⟩
  refuseWhen (proceedsAllowed = false ∧ realized.proceedsUsd ≠ 0)
    ⟨.schemaInvalid, "Adding liquidity returns no proceeds; it pays capital in"⟩

/-- A fee is hundredths of a basis point, so 100% is a million of them. -/
def MAX_FEE_PIPS : ℚ := 1000000

def assertFeePips (feePips : ℚ) : Result Unit :=
  refuseWhen (feePips.isInt = false ∨ feePips ≤ 0 ∨ MAX_FEE_PIPS ≤ feePips) ⟨.schemaInvalid, "Impossible v3 fee tier"⟩

/-- The bounds are the pool's own. -/
def assertTick (field : String) (tick : ℚ) : Result Unit :=
  refuseWhen (tick.isInt = false ∨ tick < TickMath.MIN_TICK ∨ TickMath.MAX_TICK < tick)
    ⟨.schemaInvalid, field ++ " is outside the v3 tick range"⟩

def assertTickRange (tickLower tickUpper : ℚ) : Result Unit := do
  assertTick "tickLower" tickLower
  assertTick "tickUpper" tickUpper
  refuseWhen (tickUpper ≤ tickLower) ⟨.schemaInvalid, "Position range is empty or inverted"⟩

/-- What an open reads and checks first: the canonical token id and the liquidity. -/
def openChecks (input : OpenRangePositionInput) : Result (String × Int) := do
  let _ ← isoTime input.time
  let tokenId ← canonicalTokenId input.tokenId
  let liquidity ← amountToBigint input.liquidity
  assertRealized input.realized false
  refuseWhen (liquidity ≤ 0) ⟨.schemaInvalid, "A range position must open with positive liquidity"⟩
  refuseWhen (input.capitalUsd < 0) ⟨.schemaInvalid, "A range position cost basis cannot be negative"⟩
  assertFeePips input.feePips
  assertTickRange input.tickLower input.tickUpper
  return (tokenId, liquidity)

def adjustChecks (input : AdjustRangePositionInput) : Result String := do
  let _ ← isoTime input.time
  let tokenId ← canonicalTokenId input.tokenId
  let delta := input.liquidityDelta
  let capital := input.capitalUsd.getD 0
  refuseWhen (delta = 0) ⟨.schemaInvalid, "A range adjustment must move liquidity"⟩
  refuseWhen (capital < 0) ⟨.schemaInvalid, "A range position cost basis cannot be negative"⟩
  refuseWhen (delta < 0 ∧ capital ≠ 0) ⟨.schemaInvalid, "A decrease pays no capital in; it releases cost basis instead"⟩
  assertRealized input.realized (delta < 0)
  return tokenId

/-! ## The rows of a change -/

def getRangePosition (db : Db) (mode : Mode) (chain : ChainId) (protocol tokenId : String) : Option LpRangePositionRow :=
  db.lpRangePositions.get (mode, chain, protocol, tokenId)

/-- The event of a change that has been applied: the after-values are the row's. -/
def rangeEvent (position : LpRangePositionRow) (action : LpRangeAction) (liquidityDelta capitalDeltaUsd time : Int) :
    LpRangeEventRow :=
  { mode := position.mode
    chain := position.chain
    protocol := position.protocol
    poolId := position.poolId
    tokenId := position.tokenId
    action
    liquidityDelta
    liquidityAfter := position.liquidity
    capitalDeltaUsd
    capitalAfterUsd := position.capitalUsd
    time }

def recordRangeEvent (position : LpRangePositionRow) (action : LpRangeAction) (liquidityDelta capitalDeltaUsd time : Int) :
    Script Db AppError Unit :=
  modify fun db =>
    { db with lpRangeEvents := db.lpRangeEvents ++ [rangeEvent position action liquidityDelta capitalDeltaUsd time] }

/-- The mint half of a rebalance, against the pool of the new position. -/
def rangeRebalance (opened replaced : LpRangePositionRow) (time : Int) : LpRangeRebalanceRow :=
  { mode := opened.mode
    chain := opened.chain
    protocol := opened.protocol
    poolId := opened.poolId
    closedTokenId := replaced.tokenId
    openedTokenId := opened.tokenId
    dayStartUtcMs := Engine.dayStartOf time
    time }

def countRangeRebalance (opened replaced : LpRangePositionRow) (time : Int) : Script Db AppError Unit := do
  let row := rangeRebalance opened replaced time
  refuseWhen (∃ r ∈ (← get).lpRangeRebalances, r.key = row.key) (uniqueViolation "lp_range_rebalances.opened_token_id")
  modify fun db => { db with lpRangeRebalances := db.lpRangeRebalances ++ [row] }

/-- The P&L row of a range change, from the position in hand and what the chain reported. -/
def rangePnl (position : LpRangePositionRow) (action : LpRecordedAction) (costReleasedUsd : Int)
    (realized : RangeRealizedInput) (time : Int) : RecordPnlInput :=
  { tradeId := realized.tradeId
    mode := position.mode
    chain := position.chain
    protocol := position.protocol
    poolId := position.poolId
    action
    proceedsUsd := realized.proceedsUsd
    costReleasedUsd
    feeUsd := realized.feeUsd
    time
    simulated := realized.simulated }

def recordRangePnl (position : LpRangePositionRow) (action : LpRecordedAction) (costReleasedUsd : Int)
    (realized : RangeRealizedInput) (time : Int) : Script Db AppError Int := do
  let (db, realizedUsd) := recordPnl (← get) (rangePnl position action costReleasedUsd realized time)
  set db
  return realizedUsd

/-! ## Opening -/

/-- The position a mint says it replaces, if it says so; it need not be closed. -/
def resolveRebalancedFrom (db : Db) (input : OpenRangePositionInput) (tokenId : String) :
    Result (Option LpRangePositionRow) :=
  match input.rebalancedFrom with
  | none => pure none
  | some rebalancedFrom => do
    let origin ← canonicalTokenId rebalancedFrom
    refuseWhen (origin = tokenId) ⟨.schemaInvalid, "A rebalance replaces one position with another, not with itself"⟩
    match getRangePosition db input.mode input.chain input.protocol origin with
    | none => throw ⟨.conflict, "No range position to rebalance out of"⟩
    | some replaced => return some replaced

/-- The row a mint leaves. -/
def openedRow (input : OpenRangePositionInput) (tokenId : String) (liquidity : Int) : LpRangePositionRow :=
  { mode := input.mode
    chain := input.chain
    protocol := input.protocol
    poolId := input.poolId
    tokenId
    token0 := input.token0.address
    token1 := input.token1.address
    decimals0 := input.token0.decimals
    decimals1 := input.token1.decimals
    feePips := input.feePips
    tickLower := input.tickLower
    tickUpper := input.tickUpper
    liquidity
    capitalUsd := input.capitalUsd
    openedAt := input.time
    lastAction := .ADD
    lastActionAt := input.time
    closedAt := none }

def countReplaced (position : LpRangePositionRow) (replaced : Option LpRangePositionRow) (time : Int) :
    Script Db AppError Unit :=
  match replaced with
  | none => pure ()
  | some old => countRangeRebalance position old time

def writeRangePosition (position : LpRangePositionRow) : Script Db AppError Unit :=
  modify fun db => { db with lpRangePositions := db.lpRangePositions.put position }

def openWrites (input : OpenRangePositionInput) (tokenId : String) (liquidity : Int) :
    Script Db AppError LpRangePositionRow := do
  refuseWhen (getRangePosition (← get) input.mode input.chain input.protocol tokenId).isSome
    ⟨.conflict, "That range position is already booked"⟩
  let replaced ← resolveRebalancedFrom (← get) input tokenId
  let position := openedRow input tokenId liquidity
  writeRangePosition position
  recordRangeEvent position .ADD liquidity input.capitalUsd input.time
  countReplaced position replaced input.time
  let _ ← recordRangePnl position (if replaced.isSome then .REBALANCE else .ADD) 0 input.realized input.time
  return position

/-- Book a newly minted position at what was paid for it. -/
def openRangePosition (input : OpenRangePositionInput) : Script Db AppError LpRangePositionRow := do
  let (tokenId, liquidity) ← openChecks input
  transaction (openWrites input tokenId liquidity)

/-! ## Adjusting and closing -/

/-- The action a change is recorded as. -/
def rangeAction (delta remaining : Int) : LpRangeAction :=
  if 0 < delta then .ADD else if remaining = 0 then .EXIT else .REMOVE

/-- The cost a change releases: a burn's share of it, rounded up. -/
def rangeReleased (existing : LpRangePositionRow) (delta : Int) : Int :=
  if delta < 0 then (existing.capitalUsd * -delta + existing.liquidity - 1).tdiv existing.liquidity else 0

/-- The row a change leaves. -/
def adjustedRow (input : AdjustRangePositionInput) (existing : LpRangePositionRow) : LpRangePositionRow :=
  let delta := input.liquidityDelta
  let remaining := existing.liquidity + delta
  { existing with
    liquidity := remaining
    capitalUsd := if 0 < delta then existing.capitalUsd + input.capitalUsd.getD 0
      else existing.capitalUsd - rangeReleased existing delta
    lastAction := rangeAction delta remaining
    lastActionAt := input.time
    closedAt := if remaining = 0 then some input.time else none }

def adjustExisting (input : AdjustRangePositionInput) (existing : LpRangePositionRow) :
    Script Db AppError RangeAdjustResult := do
  let delta := input.liquidityDelta
  refuseWhen (delta < 0 ∧ existing.liquidity < -delta) ⟨.conflict, "Decrease exceeds the range position"⟩
  let costReleased := rangeReleased existing delta
  let position := adjustedRow input existing
  writeRangePosition position
  recordRangeEvent position position.lastAction delta (if 0 < delta then input.capitalUsd.getD 0 else -costReleased)
    input.time
  let realizedUsd ← recordRangePnl position position.lastAction.recorded costReleased input.realized
    input.time
  return ⟨position, costReleased, position.liquidity = 0, realizedUsd⟩

def adjustWrites (input : AdjustRangePositionInput) (tokenId : String) : Script Db AppError RangeAdjustResult := do
  match getRangePosition (← get) input.mode input.chain input.protocol tokenId with
  | none => throw ⟨.conflict, "No range position to adjust"⟩
  | some existing => adjustExisting input existing

/-- Mint more liquidity into a booked position, or burn some of it. -/
def adjustRangePosition (input : AdjustRangePositionInput) : Script Db AppError RangeAdjustResult := do
  let tokenId ← adjustChecks input
  transaction (adjustWrites input tokenId)

def closeExisting (input : CloseRangePositionInput) (tokenId : String) (held : Int) :
    Script Db AppError RangeAdjustResult := do
  refuseWhen (held = 0) ⟨.conflict, "That range position is already closed"⟩
  adjustRangePosition (input.burn tokenId held)

def closeWrites (input : CloseRangePositionInput) (tokenId : String) : Script Db AppError RangeAdjustResult := do
  match getRangePosition (← get) input.mode input.chain input.protocol tokenId with
  | none => throw ⟨.conflict, "No range position to close"⟩
  | some existing => closeExisting input tokenId existing.liquidity

/-- Burn everything a position still holds. -/
def closeRangePosition (input : CloseRangePositionInput) : Script Db AppError RangeAdjustResult := do
  let tokenId ← canonicalTokenId input.tokenId
  transaction (closeWrites input tokenId)

/-- Events as the store lists them, newest first: by time, and those of one time by when they were written. -/
def newestFirst (events : List LpRangeEventRow) : List LpRangeEventRow :=
  events.reverse.insertionSort fun a b => b.time ≤ a.time

end LiquidityStore
end Atra
