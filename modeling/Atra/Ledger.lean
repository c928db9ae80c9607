import Atra.Engine
import Atra.Trades
/-!
# Ledger — positions, fills, balances and P&L

A swap reduces the position in what it spends, realizing P&L at average cost rounded against the operator, and opens or adds
to the position in what it buys at what was paid.  PAPER fills also move the operator's paper balances.  `mark` values the
open positions at current prices and `toRiskLedger` is the slice of it the risk engine reads, with the day's anchor.
-/
namespace Atra

/-- The USD price of a token, where one is known. -/
abbrev PriceLookup := ChainId → String → Option String

structure RecordFillInput where
  tradeId : String
  mode : Mode
  chain : ChainId
  tokenIn : TokenRef
  tokenOut : TokenRef
  amountIn : String
  amountOut : String
  priceInUsd : String
  priceOutUsd : String
  feeUsd : String
  filledAt : Int
  simulated : Bool

structure MarkedPosition where
  row : PositionRow
  markUsd : Option Int
deriving DecidableEq, Repr

def MarkedPosition.unrealizedUsd (p : MarkedPosition) : Option Int := p.markUsd.map (· - p.row.costBasisUsd)

structure PortfolioMark where
  mode : Mode
  positionsValueUsd : Option String
  deployedUsd : String
  unrealizedPnlUsd : Option String
  realizedPnlTodayUsd : String
  unpriced : List (ChainId × String)
  positions : List MarkedPosition
deriving DecidableEq, Repr

namespace LedgerService

open Money

/-! ## Paper balances -/

def setPaperBalance (db : Db) (now : Int) (chain : ChainId) (token : String) (decimals amount : Nat) : Db :=
  { db with paperBalances := db.paperBalances.put ⟨chain, token, decimals, amount, now⟩ }

def getPaperBalance (db : Db) (chain : ChainId) (token : String) : Option PaperBalanceRow :=
  db.paperBalances.get (chain, token)

def paperHeld (db : Db) (chain : ChainId) (token : String) : Int :=
  match getPaperBalance db chain token with
  | some current => current.amount
  | none => 0

def adjustPaperBalance (db : Db) (now : Int) (chain : ChainId) (token : String) (decimals : Nat) (delta : Int) :
    Result Db :=
  let next := paperHeld db chain token + delta
  if next < 0 then throw ⟨.conflict, "Paper balance would go negative"⟩
  else pure (setPaperBalance db now chain token decimals next.toNat)

/-! ## Positions -/

def listPositions (db : Db) (mode : Mode) : List PositionRow :=
  (db.positions.rows.filter fun r => r.mode = mode).insertionSort fun a b => a.openedAt ≤ b.openedAt

def getPosition (db : Db) (mode : Mode) (chain : ChainId) (token : String) : Option PositionRow :=
  db.positions.get (mode, chain, token)

/-- The cost of a sold part at average cost, rounded up. -/
def costOfSold (basis : Int) (sold held : Nat) : Int :=
  if held = 0 then 0 else (basis * sold + held - 1).tdiv held

/-- The proceeds of the part that was held, rounded down. -/
def proceedsOfSold (proceedsUsd : Int) (sold amount : Nat) : Int :=
  if amount = sold then proceedsUsd else (proceedsUsd * sold).tdiv amount

/-- Reduce a position, with the realized P&L; spending what was never a position realizes nothing. -/
def reducePosition (db : Db) (mode : Mode) (chain : ChainId) (token : String) (amount : Nat) (proceedsUsd time : Int) :
    Db × Int :=
  match getPosition db mode chain token with
  | none => (db, 0)
  | some existing =>
    let held := existing.amount
    let sold := if amount > held then held else amount
    let cost := costOfSold existing.costBasisUsd sold held
    let realized := proceedsOfSold proceedsUsd sold amount - cost
    let remaining := held - sold
    if remaining = 0 then ({ db with positions := db.positions.delete (mode, chain, token) }, realized)
    else
      let row := { existing with amount := remaining, costBasisUsd := existing.costBasisUsd - cost, updatedAt := time }
      ({ db with positions := db.positions.put row }, realized)

/-- Open a position at what was paid, or add to it. -/
def addPosition (db : Db) (mode : Mode) (chain : ChainId) (token : String) (decimals amount : Nat) (costUsd time : Int) :
    Db :=
  match getPosition db mode chain token with
  | none =>
    let row := { mode, chain, token, decimals, amount, costBasisUsd := costUsd, openedAt := time, updatedAt := time }
    { db with positions := db.positions.put row }
  | some existing =>
    let row := { existing with
      amount := existing.amount + amount, costBasisUsd := existing.costBasisUsd + costUsd, updatedAt := time }
    { db with positions := db.positions.put row }

/-! ## Fills -/

/-- Move the paper balances of a fill: what was spent, then what was received. -/
def payPaper (db : Db) (now : Int) (input : RecordFillInput) (amountIn amountOut : Nat) : Result Db :=
  if input.mode = .PAPER then do
    let spent ← adjustPaperBalance db now input.chain input.tokenIn.address input.tokenIn.decimals (-amountIn)
    adjustPaperBalance spent now input.chain input.tokenOut.address input.tokenOut.decimals amountOut
  else pure db

def writeFill (db : Db) (now : Int) (input : RecordFillInput) (amountIn amountOut : Nat) (inValueUsd feeUsd : Int) :
    Result (Db × FillRow) := do
  let reduced := reducePosition db input.mode input.chain input.tokenIn.address amountIn inValueUsd input.filledAt
  let added := addPosition reduced.1 input.mode input.chain input.tokenOut.address input.tokenOut.decimals amountOut
    inValueUsd input.filledAt
  let paid ← payPaper added now input amountIn amountOut
  -- the fee is a realized loss whatever the swap did
  let fill : FillRow :=
    { tradeId := input.tradeId
      mode := input.mode
      chain := input.chain
      tokenIn := input.tokenIn.address
      tokenOut := input.tokenOut.address
      amountIn := input.amountIn
      amountOut := input.amountOut
      priceInUsd := input.priceInUsd
      priceOutUsd := input.priceOutUsd
      feeUsd
      realizedPnlUsd := reduced.2 - feeUsd
      filledAt := input.filledAt
      simulated := input.simulated }
  if (paid.trades.get input.tradeId).isNone then throw foreignKeyViolation
  else return ({ paid with fills := paid.fills ++ [fill] }, fill)

/-- Record a fill, its positions, balances and realized P&L. -/
def recordFill (db : Db) (now : Int) (input : RecordFillInput) : Result (Db × FillRow) := do
  let amountIn ← amountToBigint input.amountIn
  let amountOut ← amountToBigint input.amountOut
  let priceIn ← priceToAtto input.priceInUsd
  let priceOut ← priceToAtto input.priceOutUsd
  let feeUsd ← usdToMicros input.feeUsd
  if amountIn ≤ 0 ∨ amountOut ≤ 0 then throw ⟨.schemaInvalid, "A fill must move a positive amount"⟩
  else
    let inValueUsd ← nativeToUsdMicros amountIn input.tokenIn.decimals priceIn .floor
    -- the received value only reaches the log, but an unpriced output refuses the fill
    let _outValueUsd ← nativeToUsdMicros amountOut input.tokenOut.decimals priceOut .floor
    writeFill db now input amountIn.toNat amountOut.toNat inValueUsd feeUsd

/-! ## P&L and marks -/

/-- Realized P&L of the UTC day of `now`: swaps and LP actions, fees included. -/
def realizedPnlTodayUsd (db : Db) (mode : Mode) (now : Int) : Int :=
  ((db.fills.filter fun r => r.mode = mode ∧ Engine.dayStartOf now ≤ r.filledAt).map (·.realizedPnlUsd)).sum +
    ((db.lpPnl.filter fun r => r.mode = mode ∧ Engine.dayStartOf now ≤ r.recordedAt).map (·.realizedPnlUsd)).sum

/-- The quote assets: what capital returns to. -/
def isQuote (host : Host) (chain : ChainId) (token : String) : Bool :=
  isNativeToken host chain token || isStablecoin host chain token

def deployedOf (host : Host) (r : PositionRow) : Int := if isQuote host r.chain r.token then 0 else r.costBasisUsd

/-- The usable price of a token: present, well formed and positive. -/
def usableQuote (price : PriceLookup) (chain : ChainId) (token : String) : Option Int :=
  match price chain token with
  | none => none
  | some quote => match priceToAtto quote with
    | .ok atto => if atto ≤ 0 then none else some atto
    | .error _ => none

def markPosition (price : PriceLookup) (r : PositionRow) : Result MarkedPosition :=
  match usableQuote price r.chain r.token with
  | none => pure ⟨r, none⟩
  | some atto => return ⟨r, some (← nativeToUsdMicros r.amount r.decimals atto .floor)⟩

def markPositions (price : PriceLookup) : List PositionRow → Result (List MarkedPosition)
  | [] => pure []
  | r :: rs => return (← markPosition price r) :: (← markPositions price rs)

/-- Mark every position at current prices; the totals are missing when a position has no usable price. -/
def mark (host : Host) (db : Db) (now : Int) (mode : Mode) (price : PriceLookup) : Result PortfolioMark := do
  let positions := listPositions db mode
  let marked ← markPositions price positions
  let unpriced := (marked.filter (·.markUsd.isNone)).map fun p => (p.row.chain, p.row.token)
  let complete := unpriced.isEmpty
  let value := (marked.filterMap (·.markUsd)).sum
  let unrealized := (marked.filterMap (·.unrealizedUsd)).sum
  return {
    mode
    positionsValueUsd := if complete then some (microsToUsd value) else none
    deployedUsd := microsToUsd (positions.map (deployedOf host)).sum
    unrealizedPnlUsd := if complete then some (microsToUsd unrealized) else none
    realizedPnlTodayUsd := microsToUsd (realizedPnlTodayUsd db mode now)
    unpriced
    positions := marked }

/-- The opening unrealized P&L of a day; the first mark of a day is kept. -/
def recordDayStart (db : Db) (mode : Mode) (unrealizedUsd : Int) (now : Int) : Db :=
  match db.ledgerDays.get (mode, Engine.dayStartOf now) with
  | some _ => db
  | none => { db with ledgerDays := db.ledgerDays.put ⟨mode, Engine.dayStartOf now, unrealizedUsd, now⟩ }

/-- The day's anchor: the row of the day, or the complete mark this call writes there. -/
def dayAnchor (db : Db) (mode : Mode) (unrealizedUsd : Option String) (now : Int) : Result (Db × Option String) :=
  match db.ledgerDays.get (mode, Engine.dayStartOf now), unrealizedUsd with
  | some row, _ => pure (db, some (microsToUsd row.unrealizedAtStartUsd))
  | none, some unrealized => return (recordDayStart db mode (← usdToMicros unrealized) now, some unrealized)
  | none, none => pure (db, none)

def riskPosition (p : MarkedPosition) : Position :=
  ⟨p.row.chain, p.row.token, toString p.row.amount, microsToUsd p.row.costBasisUsd, p.row.openedAt⟩

/-- The ledger as the risk engine reads it; `clock` is the ledger's own reading of the time for the day's P&L. -/
def toRiskLedger (host : Host) (db : Db) (clock : Int) (mode : Mode) (price : PriceLookup) (now : Int) :
    Result (Db × Ledger) := do
  let marked ← mark host db clock mode price
  let (db', anchor) ← dayAnchor db mode marked.unrealizedPnlUsd now
  return (db',
    { dayStartUtcMs := Engine.dayStartOf now
      deployedUsd := marked.deployedUsd
      realizedPnlTodayUsd := marked.realizedPnlTodayUsd
      unrealizedPnlUsd := marked.unrealizedPnlUsd.getD "0"
      unrealizedPnlAtDayStartUsd := (anchor.or marked.unrealizedPnlUsd).getD "0"
      positions := marked.positions.map riskPosition
      lpRebalancesToday := recordOf [] })

/-! ## What a mark says -/

variable {host : Host} {db : Db} {mode : Mode} {price : PriceLookup}

theorem markPosition_ok {r : PositionRow} {m : MarkedPosition} (h : markPosition price r = .ok m) :
    m.row = r ∧ (m.markUsd = none ↔ usableQuote price r.chain r.token = none) := by
  unfold markPosition at h
  split at h
  · rename_i hq
    rw [pure_ok] at h
    subst h
    exact ⟨rfl, by simp [hq]⟩
  · rename_i atto hq
    simp only [bind_ok, pure_ok] at h
    obtain ⟨value, -, rfl⟩ := h
    exact ⟨rfl, by simp [hq]⟩

theorem markPositions_ok {rs : List PositionRow} {ms : List MarkedPosition} (h : markPositions price rs = .ok ms) :
    List.Forall₂ (fun r m => markPosition price r = .ok m) rs ms := by
  induction rs generalizing ms with
  | nil =>
    obtain rfl := pure_ok.1 h
    exact .nil
  | cons r rs ih =>
    unfold markPositions at h
    simp only [bind_ok, pure_ok] at h
    obtain ⟨m, hm, ms', hms, rfl⟩ := h
    exact .cons hm (ih hms)

/-- **A mark misses a price exactly where a position has none.** -/
theorem exists_unmarked {rs : List PositionRow} {ms : List MarkedPosition} (h : markPositions price rs = .ok ms) :
    (∃ m ∈ ms, m.markUsd = none) ↔ ∃ r ∈ rs, usableQuote price r.chain r.token = none := by
  have hall := markPositions_ok h
  clear h
  induction hall with
  | nil => simp
  | cons hm _ ih => simp only [List.mem_cons, exists_eq_or_imp, (markPosition_ok hm).2, ih]

theorem markPositions_rows {rs : List PositionRow} {ms : List MarkedPosition} (h : markPositions price rs = .ok ms) :
    ms.map (·.row) = rs := by
  have hall := markPositions_ok h
  clear h
  induction hall with
  | nil => rfl
  | cons hm _ ih => rw [List.map_cons, ih, (markPosition_ok hm).1]

/-- Some open position of the mode has no usable price. -/
def Unpriced (db : Db) (mode : Mode) (price : PriceLookup) : Prop :=
  ∃ r ∈ listPositions db mode, usableQuote price r.chain r.token = none

def deployedMicros (host : Host) (db : Db) (mode : Mode) : Int := ((listPositions db mode).map (deployedOf host)).sum

/-- **What a mark reports**: the deployed and realized figures, and an unrealized figure only when every position is
priced. -/
theorem mark_ok {now : Int} {m : PortfolioMark} (h : mark host db now mode price = .ok m) :
    m.deployedUsd = microsToUsd (deployedMicros host db mode) ∧
      m.realizedPnlTodayUsd = microsToUsd (realizedPnlTodayUsd db mode now) ∧
      (Unpriced db mode price ↔ m.unrealizedPnlUsd = none) ∧
      ∀ text, m.unrealizedPnlUsd = some text → ∃ unrealized, text = microsToUsd unrealized := by
  unfold mark at h
  simp only [bind_ok, pure_ok] at h
  obtain ⟨ms, hms, rfl⟩ := h
  refine ⟨rfl, rfl, ?_, ?_⟩
  · rw [Unpriced, ← exists_unmarked hms]
    simp
  · intro text ht
    dsimp only at ht
    split at ht
    · exact ⟨_, (Option.some.inj ht).symm⟩
    · cases ht

def anchorMicros (db : Db) (mode : Mode) (now : Int) : Option Int :=
  (db.ledgerDays.get (mode, Engine.dayStartOf now)).map (·.unrealizedAtStartUsd)

/-- **The risk ledger of a mode**: only the day's anchor is written; with an unpriced position the engine sees no
unrealized gain, against the anchor of the day where there is one. -/
theorem toRiskLedger_ok {clock now : Int} {out : Db × Ledger} (h : toRiskLedger host db clock mode price now = .ok out) :
    out.2.deployedUsd = microsToUsd (deployedMicros host db mode) ∧
      out.2.realizedPnlTodayUsd = microsToUsd (realizedPnlTodayUsd db mode clock) ∧
      (∃ days, out.1 = { db with ledgerDays := days }) ∧
      (Unpriced db mode price → out.2.unrealizedPnlUsd = "0" ∧
        out.2.unrealizedPnlAtDayStartUsd = ((anchorMicros db mode now).map microsToUsd).getD "0") := by
  unfold toRiskLedger at h
  simp only [bind_ok, pure_ok] at h
  obtain ⟨m, hm, ⟨db', anchor⟩, ha, rfl⟩ := h
  obtain ⟨hd, hr, hu, ht⟩ := mark_ok hm
  refine ⟨hd, hr, ?_, ?_⟩
  · unfold dayAnchor at ha
    split at ha
    · cases ha
      exact ⟨_, rfl⟩
    · rename_i unrealized hrow htext
      simp only [bind_ok, pure_ok] at ha
      obtain ⟨micros, -, he⟩ := ha
      cases he
      exact ⟨_, by unfold recordDayStart; rw [hrow]⟩
    · cases ha
      exact ⟨_, rfl⟩
  · intro hun
    have hnone := hu.1 hun
    refine ⟨by rw [hnone]; rfl, ?_⟩
    unfold dayAnchor at ha
    unfold anchorMicros
    rw [hnone] at ha ⊢
    split at ha
    · rename_i row _ hrow
      cases ha
      simp [hrow]
    · rename_i hsome
      cases hsome
    · rename_i hrow _
      cases ha
      simp [hrow]

theorem toRiskLedger_positions {clock now : Int} {out : Db × Ledger}
    (h : toRiskLedger host db clock mode price now = .ok out) :
    ∃ ms : List MarkedPosition, ms.map (·.row) = listPositions db mode ∧ out.2.positions = ms.map riskPosition := by
  unfold toRiskLedger mark at h
  simp only [bind_ok, pure_ok] at h
  obtain ⟨_, ⟨ms, hms, rfl⟩, _, -, rfl⟩ := h
  exact ⟨ms, markPositions_rows hms, rfl⟩

end LedgerService
end Atra
