import Atra.Engine
import Atra.Database
/-!
# LiquidityStore — the LP ledger

Positions in v2 pools at average cost, the P&L every LP fill realizes, the rebalances of the day, and the slice of all that
the risk engine reads.  A burn releases cost basis rounded up, so that it can only under-report profit.
-/
namespace Atra

structure BookAddInput where
  mode : Mode
  chain : ChainId
  protocol : String
  poolId : String
  token0 : TokenRef
  token1 : TokenRef
  lpTokens : String
  amount0 : String
  amount1 : String
  capitalUsd : String
  time : Int
  rebalance : Bool

structure BookRemoveInput where
  mode : Mode
  chain : ChainId
  protocol : String
  poolId : String
  lpTokens : String
  time : Int

/-- What a burn did to its position. -/
structure Removed where
  position : Option LpPositionRow
  costReleasedUsd : Int
  closed : Bool

structure RecordPnlInput where
  tradeId : Option String
  mode : Mode
  chain : ChainId
  protocol : String
  poolId : String
  action : LpRecordedAction
  proceedsUsd : Int
  costReleasedUsd : Int
  feeUsd : Int
  time : Int
  simulated : Bool

namespace LiquidityStore

open Money

/-! ## Positions -/

def listPositions (db : Db) (mode : Mode) : List LpPositionRow :=
  (db.lpPositions.rows.filter fun r => r.mode = mode).insertionSort fun a b => a.openedAt ≤ b.openedAt

def getPosition (db : Db) (mode : Mode) (chain : ChainId) (protocol poolId : String) : Option LpPositionRow :=
  db.lpPositions.get (mode, chain, protocol, poolId)

def countRebalance (db : Db) (mode : Mode) (chain : ChainId) (poolId : String) (now : Int) : Db :=
  let day := Engine.dayStartOf now
  let count := match db.lpRebalances.get (mode, chain, poolId, day) with
    | some row => row.count
    | none => 0
  { db with lpRebalances := db.lpRebalances.put ⟨mode, chain, poolId, day, count + 1, now⟩ }

/-- The sum of two base-unit texts. -/
def addAmounts (a b : String) : Result String := return toString ((← amountToBigint a) + (← amountToBigint b))

/-- The row an add leaves: a new position, or the old one at the summed amounts and cost. -/
def addedRow (db : Db) (input : BookAddInput) (added : Nat) : Result LpPositionRow :=
  let action : LpRecordedAction := if input.rebalance then .REBALANCE else .ADD
  let rebalancedAt := if input.rebalance then some input.time else none
  match getPosition db input.mode input.chain input.protocol input.poolId with
  | none => return {
      mode := input.mode
      chain := input.chain
      protocol := input.protocol
      poolId := input.poolId
      token0 := input.token0.address
      token1 := input.token1.address
      decimals0 := input.token0.decimals
      decimals1 := input.token1.decimals
      lpTokens := added
      amount0 := input.amount0
      amount1 := input.amount1
      capitalUsd := ← usdToMicros input.capitalUsd
      openedAt := input.time
      lastAction := action
      lastActionAt := input.time
      lastRebalanceAt := rebalancedAt }
  | some existing => return { existing with
      lpTokens := existing.lpTokens + added
      amount0 := ← addAmounts existing.amount0 input.amount0
      amount1 := ← addAmounts existing.amount1 input.amount1
      capitalUsd := existing.capitalUsd + (← usdToMicros input.capitalUsd)
      lastAction := action
      lastActionAt := input.time
      lastRebalanceAt := rebalancedAt.or existing.lastRebalanceAt }

/-- Open or add to a position at what was paid. -/
def bookAdd (db : Db) (input : BookAddInput) : Result (Db × LpPositionRow) := do
  let added ← amountToBigint input.lpTokens
  if added ≤ 0 then throw ⟨.schemaInvalid, "An LP add must mint a positive amount"⟩
  else
    let row ← addedRow db input added.toNat
    let booked := { db with lpPositions := db.lpPositions.put row }
    return (if input.rebalance then countRebalance booked input.mode input.chain input.poolId input.time else booked, row)

def remainingShare (amount : String) (remaining held : Int) : Result String :=
  return toString (((← amountToBigint amount) * remaining).tdiv held)

/-- Burn LP tokens from a position, releasing their cost basis, rounded up. -/
def bookRemove (db : Db) (input : BookRemoveInput) : Result (Db × Removed) := do
  let burned ← amountToBigint input.lpTokens
  match getPosition db input.mode input.chain input.protocol input.poolId with
  | none => throw ⟨.conflict, "No LP position to remove from"⟩
  | some existing =>
    let held : Int := existing.lpTokens
    if burned ≤ 0 ∨ burned > held then throw ⟨.conflict, "Removal exceeds the LP position"⟩
    else
      let costReleased := (existing.capitalUsd * burned + held - 1).tdiv held
      let remaining := held - burned
      if remaining = 0 then
        return ({ db with lpPositions := db.lpPositions.delete existing.key }, ⟨none, costReleased, true⟩)
      else
        let amount0 ← remainingShare existing.amount0 remaining held
        let amount1 ← remainingShare existing.amount1 remaining held
        let row := { existing with
          lpTokens := remaining.toNat, amount0, amount1, capitalUsd := existing.capitalUsd - costReleased
          lastAction := .REMOVE, lastActionAt := input.time }
        return ({ db with lpPositions := db.lpPositions.put row }, ⟨some row, costReleased, false⟩)

/-- Record a fee claim on the position row. -/
def touchClaim (db : Db) (mode : Mode) (chain : ChainId) (protocol poolId : String) (time : Int) : Db :=
  match getPosition db mode chain protocol poolId with
  | none => db
  | some row => { db with lpPositions := db.lpPositions.put { row with lastAction := .COLLECT_FEES, lastActionAt := time } }

/-! ## Realized P&L -/

/-- Record what an LP fill realized: proceeds less the released cost less the fee. -/
def recordPnl (db : Db) (input : RecordPnlInput) : Db × Int :=
  let realized := input.proceedsUsd - input.costReleasedUsd - input.feeUsd
  let row : LpPnlRow :=
    { tradeId := input.tradeId
      mode := input.mode
      chain := input.chain
      protocol := input.protocol
      poolId := input.poolId
      action := input.action
      proceedsUsd := input.proceedsUsd
      costReleasedUsd := input.costReleasedUsd
      feeUsd := input.feeUsd
      realizedPnlUsd := realized
      recordedAt := input.time
      simulated := input.simulated }
  ({ db with lpPnl := db.lpPnl ++ [row] }, realized)

/-! ## The risk snapshot -/

def rebalancesToday (db : Db) (mode : Mode) (chain : ChainId) (poolId : String) (now : Int) : Nat :=
  match db.lpRebalances.get (mode, chain, poolId, Engine.dayStartOf now) with
  | some row => row.count
  | none => 0

def listRangePositions (db : Db) (mode : Mode) : List LpRangePositionRow :=
  (db.lpRangePositions.rows.filter fun r => r.mode = mode ∧ r.closedAt = none).insertionSort
    fun a b => a.openedAt ≤ b.openedAt

def rangeRebalances (db : Db) (mode : Mode) (now : Int) (key : String) : Nat :=
  (db.lpRangeRebalances.filter fun r =>
    r.mode = mode ∧ r.dayStartUtcMs = Engine.dayStartOf now ∧ lpPoolKey r.chain r.poolId = key).length

/-- Today's rebalances of the pools of a list of positions, by pool key. -/
def poolRebalances (db : Db) (mode : Mode) (now : Int) (positions : List LpPositionRow) (key : String) : Nat :=
  match positions.find? fun p => lpPoolKey p.chain p.poolId = key with
  | some p => rebalancesToday db mode p.chain p.poolId now
  | none => 0

/-- The capital of both families of positions, in micro-USD. -/
def deployedMicros (db : Db) (mode : Mode) : Int :=
  ((listPositions db mode).map (·.capitalUsd)).sum + ((listRangePositions db mode).map (·.capitalUsd)).sum

def toRiskSnapshot (db : Db) (mode : Mode) (now : Int) : LpSnapshot :=
  let positions := listPositions db mode
  { deployedUsd := microsToUsd (deployedMicros db mode)
    -- a pool without a rebalance has no entry
    rebalancesToday := fun key =>
      let count := poolRebalances db mode now positions key + rangeRebalances db mode now key
      if count = 0 then none else some count
    -- the last position of a pool is the one its key names
    positions := recordOf (positions.map fun p =>
      (lpPoolKey p.chain p.poolId, (⟨toString p.lpTokens, microsToUsd p.capitalUsd⟩ : LpHolding))).reverse }

/-! ## What a booking writes -/

theorem bookAdd_eq {db : Db} {input : BookAddInput} {out : Db × LpPositionRow} (h : bookAdd db input = .ok out) :
    ∃ lpPositions lpRebalances, out.1 = { db with lpPositions, lpRebalances } := by
  unfold bookAdd at h
  rw [bind_ok] at h
  obtain ⟨added, -, h⟩ := h
  split at h
  · cases h
  · simp only [bind_ok, pure_ok] at h
    obtain ⟨row, -, rfl⟩ := h
    dsimp only
    split
    · exact ⟨_, _, rfl⟩
    · exact ⟨_, _, rfl⟩

theorem bookRemove_eq {db : Db} {input : BookRemoveInput} {out : Db × Removed} (h : bookRemove db input = .ok out) :
    ∃ lpPositions, out.1 = { db with lpPositions } := by
  unfold bookRemove at h
  rw [bind_ok] at h
  obtain ⟨burned, -, h⟩ := h
  dsimp only at h
  split at h
  · cases h
  · split at h
    · cases h
    · split at h
      · obtain rfl := pure_ok.1 h
        exact ⟨_, rfl⟩
      · simp only [bind_ok, pure_ok] at h
        obtain ⟨_, -, _, -, rfl⟩ := h
        exact ⟨_, rfl⟩

end LiquidityStore
end Atra
