import Atra.Database
/-!
# Trades — one row a proposal, walking a fixed state machine

A row is created `proposed` and moves along `TRANSITIONS`; a terminal row cannot move.  `markSigned` writes the hash of the
transaction, before anything is sent.  Every move is `transition`, so what a move can do is said once (`transition_ok`).
-/
namespace Atra
namespace TradeStore

def TRANSITIONS : TradeStatus → List TradeStatus
  | .proposed => [.rejected, .allowed]
  | .allowed => [.dispatched, .cancelled]
  | .dispatched => [.signed, .filled, .failed, .cancelled]
  | .signed => [.broadcast, .failed]
  | .broadcast => [.filled, .failed]
  | .rejected | .filled | .failed | .cancelled => []

def terminal (s : TradeStatus) : Bool := (TRANSITIONS s).isEmpty

def get (db : Db) (id : String) : Option TradeRow := db.trades.get id

def getByAction (db : Db) (actionId : String) : Option TradeRow := db.trades.rows.find? (·.actionId = actionId)

/-- Record a proposal under a fresh id. -/
def propose (db : Db) (id : String) (now : Int) (action : ProposedAction) (side : TradeSide) (route : TradeRoute) :
    Result (Db × TradeRow) :=
  if (get db id).isSome then throw (uniqueViolation "trades.id")
  else if (getByAction db action.actionId).isSome then throw (uniqueViolation "trades.action_id")
  else
    let row : TradeRow :=
      { id
        actionId := action.actionId
        decisionCycleId := action.decisionCycleId
        mode := action.mode
        chain := action.chain
        protocol := action.protocol
        kind := action.kind
        side
        marketKey := marketKey action.chain action.tokenIn.address action.tokenOut.address
        tokenIn := action.tokenIn.address
        tokenOut := action.tokenOut.address
        tokenInDecimals := some action.tokenIn.decimals
        tokenOutDecimals := some action.tokenOut.decimals
        quotePrices := none
        amountIn := action.amountIn
        expectedOut := action.quote.map (·.expectedAmountOut)
        minOut := action.quote.map (·.minAmountOut)
        filledOut := none
        feeNative := none
        feeUsd := none
        amountInUsd := none
        status := .proposed
        rejectionCode := none
        txHash := none
        route
        rationale := action.rationale
        error := none
        proposedAt := now
        updatedAt := now
        filledAt := none }
    pure ({ db with trades := db.trades.put row }, row)

/-- Move a row along an allowed transition, writing further columns. -/
def transition (db : Db) (now : Int) (tradeId : String) (next : TradeStatus) (fields : TradeRow → TradeRow) :
    Result (Db × TradeRow) :=
  match get db tradeId with
  | none => throw ⟨.notFound, "No such trade"⟩
  | some current =>
    if (TRANSITIONS current.status).contains next then
      let row := { fields current with id := tradeId, status := next, updatedAt := now }
      pure ({ db with trades := db.trades.put row }, row)
    else throw ⟨.conflict, "A trade cannot move from " ++ current.status.name ++ " to " ++ next.name⟩

def decide (db : Db) (now : Int) (tradeId : String) (decision : RiskDecision) : Result (Db × TradeRow) :=
  if decision.allowed then transition db now tradeId .allowed fun r =>
    { r with amountInUsd := decision.derived.map (·.amountInUsd), feeUsd := decision.derived.map (·.feeUsd) }
  else transition db now tradeId .rejected fun r => { r with rejectionCode := decision.code }

/-- Persist the prices a decision was made on; not a transition. -/
def recordQuotePrices (db : Db) (now : Int) (tradeId : String) (prices : QuotePrices) : Db :=
  match get db tradeId with
  | none => db
  | some row => { db with trades := db.trades.put { row with quotePrices := some prices, updatedAt := now } }

def markDispatched (db : Db) (now : Int) (tradeId : String) : Result (Db × TradeRow) :=
  transition db now tradeId .dispatched id

def markSigned (db : Db) (now : Int) (tradeId txHash : String) : Result (Db × TradeRow) :=
  transition db now tradeId .signed fun r => { r with txHash := some txHash }

def markBroadcast (db : Db) (now : Int) (tradeId : String) : Result (Db × TradeRow) :=
  transition db now tradeId .broadcast id

/-- What a fill writes on its row. -/
structure Filled where
  filledOut : String
  feeNative : Option String
  feeUsd : String
  txHash : Option String

/-- A hash the caller names replaces the row's; the empty text does not. -/
def filledHash (row : TradeRow) (fill : Filled) : Option String :=
  match fill.txHash with
  | some hash => if hash = "" then row.txHash else some hash
  | none => row.txHash

def markFilled (db : Db) (now : Int) (tradeId : String) (fill : Filled) : Result (Db × TradeRow) :=
  transition db now tradeId .filled fun r =>
    { r with filledOut := some fill.filledOut, feeNative := fill.feeNative, feeUsd := some fill.feeUsd
             txHash := filledHash r fill, filledAt := some now }

def markFailed (db : Db) (now : Int) (tradeId error : String) : Result (Db × TradeRow) :=
  transition db now tradeId .failed fun r => { r with error := some (jsSlice 500 error) }

def markCancelled (db : Db) (now : Int) (tradeId reason : String) : Result (Db × TradeRow) :=
  transition db now tradeId .cancelled fun r => { r with error := some (jsSlice 500 reason) }

def inFlight (s : TradeStatus) : Bool := s == .dispatched || s == .signed || s == .broadcast

/-- Rows that were dispatched, signed or broadcast and never reached a terminal state, oldest first. -/
def listInFlight (db : Db) : List TradeRow :=
  (db.trades.rows.filter fun r => inFlight r.status).insertionSort fun a b => a.proposedAt ≤ b.proposedAt

/-! ## What a move can do -/

/-- **A move that succeeds** found the row in a status it may leave, and wrote only that row. -/
theorem transition_ok {db : Db} {now : Int} {tradeId : String} {next : TradeStatus} {fields : TradeRow → TradeRow}
    {out : Db × TradeRow} : transition db now tradeId next fields = .ok out ↔ ∃ current, get db tradeId = some current ∧
      next ∈ TRANSITIONS current.status ∧ out.2 = { fields current with id := tradeId, status := next, updatedAt := now } ∧
      out.1 = { db with trades := db.trades.put out.2 } := by
  unfold transition
  cases hg : get db tradeId with
  | none =>
    constructor
    · intro h
      cases h
    · rintro ⟨current, h, -⟩
      cases h
  | some current =>
    simp only [Option.some.injEq, exists_eq_left']
    split
    · rename_i hc
      constructor
      · intro h
        cases h
        exact ⟨by simpa using hc, rfl, rfl⟩
      · rintro ⟨-, h2, h1⟩
        exact congrArg Except.ok (Prod.ext (by rw [h1, h2]) h2.symm)
    · rename_i hc
      constructor
      · intro h
        cases h
      · rintro ⟨hm, -⟩
        exact absurd (by simpa using hm) hc

theorem transition_of_mem {db : Db} {now : Int} {tradeId : String} {next : TradeStatus} {fields : TradeRow → TradeRow}
    {current : TradeRow} (hg : get db tradeId = some current) (hm : next ∈ TRANSITIONS current.status) :
    ∃ out, transition db now tradeId next fields = .ok out := by
  unfold transition
  rw [hg]
  dsimp only
  rw [if_pos (by simpa using hm)]
  exact ⟨_, rfl⟩

/-- **A terminal row never moves.** -/
theorem transition_terminal {db : Db} {now : Int} {tradeId : String} {next : TradeStatus} {fields : TradeRow → TradeRow}
    {row : TradeRow} (hg : get db tradeId = some row) (ht : terminal row.status = true) (out : Db × TradeRow) :
    transition db now tradeId next fields ≠ .ok out := by
  intro h
  obtain ⟨current, hc, hm, -⟩ := transition_ok.1 h
  obtain rfl := Option.some.inj (hc.symm.trans hg)
  rw [List.isEmpty_iff.1 ht] at hm
  cases hm

end TradeStore
end Atra
