import Atra.Paper
import Atra.Transaction
/-!
# PaperFaults — paper executions whose statements may fail

The row's moves, the ledger transaction and the audit entries of a paper execution are separate writes inside one catch-all.  A
ledger transaction that fails is rolled back; but once it is committed the error of a later statement still ends in `fail`, which
reports the trade as failed, and fails the row where it is not yet `filled`.  Which errors do this is said exactly
(`PaperTrade.run_agrees`).
-/
namespace Atra

open Money Script

/-! ## Statements that fail -/

/-- How a move of a trade row ends: as it should, or in an error before the row is written, or once it is, when it is read
back. -/
inductive Fault where
  | fine
  | before (e : AppError)
  | after (e : AppError)
deriving DecidableEq, Repr

/-- The statements of a paper execution that fail. -/
structure PaperFaults where
  dispatched : Fault
  /-- The transaction that starts the cooldowns. -/
  cooldowns : Option AppError
  /-- The ledger transaction, which is rolled back. -/
  booking : Option AppError
  filled : Fault
  filledAudit : Option AppError
  /-- The failure of a trade that the execution refuses itself. -/
  refused : Fault
  refusedAudit : Option AppError
  /-- The failure of a trade that is never dispatched, or that something thrown has ended. -/
  failed : Fault
  failedAudit : Option AppError

def PaperFaults.none : PaperFaults := ⟨.fine, .none, .none, .fine, .none, .fine, .none, .fine, .none⟩

def raise (error : Option AppError) : Script Db AppError Unit :=
  match error with
  | none => pure ()
  | some e => throw e

def Fault.move (fault : Fault) (write : Db → Result (Db × TradeRow)) : Script Db AppError Unit :=
  match fault with
  | .fine => do set (← liftM (write (← get))).1
  | .before e => throw e
  | .after e => do
    set (← liftM (write (← get))).1
    throw e

/-! ## The two executors -/

/-- What an executor does with a trade that is dispatched: it offers a fill or refuses one, books it, and reports. -/
structure PaperTrade (P O : Type) where
  offer : Result (Except String P)
  /-- One transaction of the ledger. -/
  book : Db → P → Result Db
  filled : P → TradeStore.Filled
  outcome : P → O
  failure : String → O

namespace PaperTrade

variable {P O : Type} (trade : PaperTrade P O) (faults : PaperFaults) (now : Int) (tradeId : String)
  (action : ProposedAction)

/-- The failure of a trade: its row, where it can still move, and an audit entry. -/
def fail (fault : Fault) (audit : Option AppError) (reason : String) : Script Db AppError O := do
  let _ ← attempt (fault.move fun db => TradeStore.markFailed db now tradeId reason)
  raise audit
  return trade.failure reason

def close (p : P) : Script Db AppError O := do
  faults.filled.move fun db => TradeStore.markFilled db now tradeId (trade.filled p)
  raise faults.filledAudit
  return trade.outcome p

def settle (p : P) : Script Db AppError O := do
  raise faults.booking
  set (← liftM (trade.book (← get) p))
  trade.close faults now tradeId p

/-- What runs inside the catch-all. -/
def body : Script Db AppError O := do
  match ← liftM trade.offer with
  | .error reason => trade.fail now tradeId faults.refused faults.refusedAudit reason
  | .ok p => trade.settle faults now tradeId p

def run : Script Db AppError O := do
  faults.dispatched.move fun db => TradeStore.markDispatched db now tradeId
  -- An approval starts no cooldown.
  raise (if action.kind = .approve then none else faults.cooldowns)
  modify fun db => RiskGate.markDispatched db now action
  tryCatch (trade.body faults now tradeId) fun e => trade.fail now tradeId faults.failed faults.failedAudit e.message

end PaperTrade

namespace PaperExecutor

/-- The fill of a quote, or why it is refused: below the quote's minimum the transaction would revert. -/
def offer {R : Type} (action : ProposedAction) (slippageBps : Nat) (quote : ExecutionQuote R) (nativeUsd : String) :
    Result (Except String PaperFill) := do
  let expected ← amountToBigint quote.expectedAmountOut
  let haircut ← bpsOf expected (slippageBps / 2 + PAPER_EXTRA_SLIPPAGE_BPS)
  let minOut ← amountToBigint quote.minAmountOut
  let received := expected - haircut
  if received < minOut then
    return .error ("paper fill " ++ toString received ++ " would be below minAmountOut " ++ toString minOut)
  else
    let feeNative ← Engine.feeInNativeUnits action.feeEstimate.detail
    let price ← priceToAtto nativeUsd
    let feeUsd ← nativeToUsdMicros feeNative (CHAINS action.chain).nativeDecimals price .ceil
    return .ok { received, feeNative, feeUsd }

variable {R : Type} (faults : PaperFaults) (now : Int) (tradeId : String) (action : ProposedAction)
  (quote : ExecutionQuote R) (prices : QuotePrices) (filledAt : Int)

def trade (slippageBps : Nat) : PaperTrade PaperFill ExecutionOutcome where
  offer := offer action slippageBps quote prices.nativeUsd
  book db fill := (LedgerService.recordFill db now (fillInput tradeId action prices fill filledAt)).map (·.1)
  filled fill := ⟨toString fill.received, some (toString fill.feeNative), microsToUsd fill.feeUsd, none⟩
  outcome fill :=
    { actionId := action.actionId, mode := .PAPER, status := .filled, amountOut := some (toString fill.received)
      feeUsd := microsToUsd fill.feeUsd, txHash := none, error := none, filledAt }
  failure reason :=
    { actionId := action.actionId, mode := .PAPER, status := .failed, amountOut := none, feeUsd := "0.000000"
      txHash := none, error := some reason, filledAt }

/-- `execute`, where its statements may fail. -/
def executeUnder : Script Db AppError ExecutionOutcome :=
  match action.quote with
  | none => (trade now tradeId action quote prices filledAt 0).fail now tradeId faults.failed faults.failedAudit
    "paper execution requires a quote"
  | some q => (trade now tradeId action quote prices filledAt q.slippageBps).run faults now tradeId action

end PaperExecutor

namespace PaperLpExecutor

/-- What an LP fill moves. -/
inductive LpMove where
  | add (add : PaperAdd)
  | remove (remove : PaperRemove)

/-- What an add mints, or why it is refused. -/
def offerAdd {R : Type} (quote : LpAddQuote R) (pool : LpPoolState) (prices : LpFillPrices) :
    Result (Except String PaperAdd) := do
  let amount0 ← amountToBigint quote.amount0
  let amount1 ← amountToBigint quote.amount1
  let reserve0 ← amountToBigint pool.reserve0
  let reserve1 ← amountToBigint pool.reserve1
  let totalSupply ← amountToBigint pool.totalSupply
  if reserve0 ≤ 0 ∨ reserve1 ≤ 0 ∨ totalSupply ≤ 0 then throw ⟨.adapterUnavailable, "The pool has no reserves"⟩
  else
    let minted := pairMint amount0 amount1 reserve0 reserve1 totalSupply
    let minLp ← amountToBigint quote.minLpTokens
    if minted < minLp then
      return .error ("paper mint " ++ toString minted ++ " would be below the minimum " ++ toString minLp)
    else return .ok { amount0, amount1, minted, capital := ← bothSides pool prices amount0 amount1 .ceil }

/-- What a removal returns, or why it is refused. -/
def offerRemove {R : Type} (quote : LpRemoveQuote R) (pool : LpPoolState) (prices : LpFillPrices) :
    Result (Except String PaperRemove) := do
  let lpTokens ← amountToBigint quote.lpTokens
  let totalSupply ← amountToBigint pool.totalSupply
  if totalSupply ≤ 0 then throw ⟨.adapterUnavailable, "The pool has no supply"⟩
  else
    let out0 := (lpTokens * (← amountToBigint pool.reserve0)).tdiv totalSupply
    let out1 := (lpTokens * (← amountToBigint pool.reserve1)).tdiv totalSupply
    if ← belowMinimum quote out0 out1 then
      return .error ("paper burn " ++ toString out0 ++ "/" ++ toString out1 ++ " would be below the minimum " ++
        quote.min0 ++ "/" ++ quote.min1)
    else return .ok { lpTokens, out0, out1, proceeds := ← bothSides pool prices out0 out1 .floor }

def offer {R : Type} (plan : LpPlan R) (pool : LpPoolState) (prices : LpFillPrices) : Result (Except String LpMove) :=
  match plan with
  | .add quote => return (← offerAdd quote pool prices).map .add
  | .remove quote _ => return (← offerRemove quote pool prices).map .remove
  | .claim _ => return .error "fee accrual is not simulated in PAPER; there is nothing to claim"

/-- The fee is read first. -/
def offerWithFee {R : Type} (action : ProposedAction) (plan : LpPlan R) (pool : LpPoolState) (prices : LpFillPrices) :
    Result (Except String (LpFee × LpMove)) := do
  let fee ← feeOf action prices.nativeUsd
  return (← offer plan pool prices).map fun move => (fee, move)

def write (db : Db) (now : Int) (tradeId : String) (action : ProposedAction) (pool : LpPoolState) (move : LpMove)
    (feeUsd filledAt : Int) : Result Db :=
  match move with
  | .add add => writeAdd db now tradeId action pool add feeUsd filledAt
  | .remove remove => writeRemove db now tradeId action pool remove feeUsd filledAt

/-- What the row of the trade says it received. -/
def LpMove.filledOut : LpMove → Int
  | .add a => a.minted
  | .remove r => r.out1

def LpMove.outcome (move : LpMove) (action : ProposedAction) (feeUsd filledAt : Int) : LpExecutionOutcome :=
  match move with
  | .add a => filled action a.minted a.amount0 a.amount1 feeUsd filledAt
  | .remove r => filled action r.lpTokens r.out0 r.out1 feeUsd filledAt

variable {R : Type} (faults : PaperFaults) (now : Int) (tradeId : String) (action : ProposedAction)
  (plan : LpPlan R) (pool : LpPoolState) (prices : LpFillPrices) (filledAt : Int)

def trade : PaperTrade (LpFee × LpMove) LpExecutionOutcome where
  offer := offerWithFee action plan pool prices
  book db p := write db now tradeId action pool p.2 p.1.usd filledAt
  filled p := ⟨toString p.2.filledOut, some (toString p.1.native), microsToUsd p.1.usd, none⟩
  outcome p := p.2.outcome action p.1.usd filledAt
  failure reason :=
    { actionId := action.actionId, mode := .PAPER, status := .failed, lpTokens := none, amount0 := none, amount1 := none
      feeUsd := "0.000000", txHash := none, error := some reason, filledAt }

/-- `execute`, where its statements may fail. -/
def executeUnder : Script Db AppError LpExecutionOutcome :=
  let trade := trade now tradeId action plan pool prices filledAt
  if action.mode ≠ .PAPER then trade.fail now tradeId faults.failed faults.failedAudit
    ("action mode " ++ action.mode.name ++ " is not PAPER")
  else if action.lp.isNone then trade.fail now tradeId faults.failed faults.failedAudit
    "paper LP execution requires the lp leg"
  else trade.run faults now tradeId action

end PaperLpExecutor

/-! ## Without failures -/

section
variable {db : Db} {now filledAt : Int} {tradeId : String} {action : ProposedAction}

@[simp] theorem exec_raise (error : Option AppError) : (raise error).exec db =
    (match error with | none => .ok () | some e => .error e, db) := by
  cases error with
  | none => rfl
  | some e => rfl

/-- A move that is read back writes what it would, and then fails if it is to fail there. -/
theorem exec_move (fault : Fault) (write : Db → Result (Db × TradeRow)) : (fault.move write).exec db =
    match fault, write db with
    | .before e, _ => (.error e, db)
    | _, .error e => (.error e, db)
    | .fine, .ok out => (.ok (), out.1)
    | .after e, .ok out => (.error e, out.1) := by
  cases fault with
  | before e => rfl
  | fine =>
    unfold Fault.move
    rw [exec_get_bind, exec_bind, exec_lift]
    cases write db with
    | error e => rfl
    | ok out => rfl
  | after e =>
    unfold Fault.move
    rw [exec_get_bind, exec_bind, exec_lift]
    cases write db with
    | error e => rfl
    | ok out => rfl

namespace PaperTrade

variable {P O : Type} {trade : PaperTrade P O} {faults : PaperFaults}

/-- What a failure leaves. -/
def failedDb (fault : Fault) (now : Int) (tradeId reason : String) (db : Db) : Db :=
  ((fault.move fun db => TradeStore.markFailed db now tradeId reason).exec db).2

theorem exec_fail (fault : Fault) (audit : Option AppError) (reason : String) :
    (trade.fail now tradeId fault audit reason).exec db =
      (match audit with | none => .ok (trade.failure reason) | some e => .error e, failedDb fault now tradeId reason db) := by
  unfold PaperTrade.fail
  rw [exec_attempt_bind, exec_bind, exec_raise]
  cases audit with
  | none => rfl
  | some e => rfl

theorem failedDb_fine (reason : String) : failedDb .fine now tradeId reason db = failTrade db now tradeId reason := by
  unfold failedDb failTrade
  rw [exec_move]
  cases TradeStore.markFailed db now tradeId reason with
  | error e => rfl
  | ok out => rfl

theorem exec_settle (p : P) : (trade.settle faults now tradeId p).exec db =
    match faults.booking, trade.book db p with
    | some e, _ => (.error e, db)
    | none, .error e => (.error e, db)
    | none, .ok written => (trade.close faults now tradeId p).exec written := by
  unfold settle
  rw [exec_bind, exec_raise]
  cases faults.booking with
  | some e => rfl
  | none =>
    dsimp only
    rw [exec_get_bind, exec_bind, exec_lift]
    cases trade.book db p with
    | error e => rfl
    | ok written => rfl

theorem exec_body (trade : PaperTrade P O) (faults : PaperFaults) (now : Int) (tradeId : String) (db : Db) :
    (trade.body faults now tradeId).exec db =
    match trade.offer with
    | .error e => (.error e, db)
    | .ok (.error reason) => (trade.fail now tradeId faults.refused faults.refusedAudit reason).exec db
    | .ok (.ok p) => (trade.settle faults now tradeId p).exec db := by
  unfold body
  rw [exec_bind, exec_lift]
  cases trade.offer with
  | error e => rfl
  | ok offered =>
    cases offered with
    | error reason => rfl
    | ok p => rfl

theorem exec_close (p : P) : (trade.close faults now tradeId p).exec db =
    match faults.filled, TradeStore.markFilled db now tradeId (trade.filled p) with
    | .before e, _ => (.error e, db)
    | _, .error e => (.error e, db)
    | .after e, .ok closed => (.error e, closed.1)
    | .fine, .ok closed =>
      (match faults.filledAudit with | none => .ok (trade.outcome p) | some e => .error e, closed.1) := by
  unfold close
  rw [exec_bind, exec_move]
  cases faults.filled with
  | before e => rfl
  | after e =>
    cases TradeStore.markFilled db now tradeId (trade.filled p) with
    | error e => rfl
    | ok closed => rfl
  | fine =>
    cases TradeStore.markFilled db now tradeId (trade.filled p) with
    | error e => rfl
    | ok closed =>
      dsimp only
      rw [exec_bind, exec_raise]
      cases faults.filledAudit with
      | some e => rfl
      | none => rfl

/-- A trade whose row is dispatched and whose cooldowns have started goes on inside the catch-all. -/
theorem exec_run {out : Db × TradeRow} (hmove : faults.dispatched = .fine)
    (hcooldowns : action.kind ≠ .approve → faults.cooldowns = none)
    (hout : TradeStore.markDispatched db now tradeId = .ok out) :
    (trade.run faults now tradeId action).exec db =
      (tryCatch (trade.body faults now tradeId) fun e =>
        trade.fail now tradeId faults.failed faults.failedAudit e.message).exec
          (RiskGate.markDispatched out.1 now action) := by
  have hnone : (if action.kind = .approve then none else faults.cooldowns) = none := by
    split
    · rfl
    · exact hcooldowns ‹_›
  unfold run
  rw [exec_bind, exec_move, hmove, hout]
  dsimp only
  rw [exec_bind, exec_raise, hnone]
  rfl

def decided (offer : Result (Except String P)) : Result P := do
  match ← offer with
  | .error reason => throw ⟨.internal, reason⟩
  | .ok p => return p

/-- The books and the row of a trade, when nothing fails by itself. -/
def ran (trade : PaperTrade P O) (now : Int) (tradeId : String) (started : Db) : O × Db :=
  match decided trade.offer with
  | .error e => (trade.failure e.message, failTrade started now tradeId e.message)
  | .ok p => match trade.book started p with
    | .error e => (trade.failure e.message, failTrade started now tradeId e.message)
    | .ok written => match TradeStore.markFilled written now tradeId (trade.filled p) with
      | .error e => (trade.failure e.message, failTrade written now tradeId e.message)
      | .ok closed => (trade.outcome p, closed.1)

theorem run_none : (trade.run .none now tradeId action).exec db =
    match TradeStore.markDispatched db now tradeId with
    | .error e => (.error e, db)
    | .ok out => (.ok (trade.ran now tradeId (RiskGate.markDispatched out.1 now action)).1,
        (trade.ran now tradeId (RiskGate.markDispatched out.1 now action)).2) := by
  cases hout : TradeStore.markDispatched db now tradeId with
  | error e =>
    unfold run
    rw [exec_bind, exec_move, hout]
    rfl
  | ok out =>
    rw [exec_run rfl (fun _ => rfl) hout, exec_tryCatch, exec_body]
    unfold ran
    dsimp only
    generalize RiskGate.markDispatched out.1 now action = started
    cases hoffer : trade.offer with
    | error e =>
      show (trade.fail now tradeId .fine none e.message).exec started = _
      rw [exec_fail, failedDb_fine]
      rfl
    | ok offered =>
      cases offered with
      | error reason =>
        dsimp only
        rw [exec_fail, show PaperFaults.none.refused = .fine from rfl, failedDb_fine]
        rfl
      | ok p =>
        dsimp only
        rw [exec_settle, show PaperFaults.none.booking = none from rfl, show decided (.ok (.ok p)) = .ok p from rfl]
        dsimp only
        cases hbook : trade.book started p with
        | error e =>
          dsimp only
          rw [exec_fail, show PaperFaults.none.failed = .fine from rfl, failedDb_fine]
          rfl
        | ok written =>
          dsimp only
          rw [exec_close, show PaperFaults.none.filled = .fine from rfl]
          cases hclosed : TradeStore.markFilled written now tradeId (trade.filled p) with
          | error e =>
            dsimp only
            rw [exec_fail, show PaperFaults.none.failed = .fine from rfl, failedDb_fine]
            rfl
          | ok closed => rfl

end PaperTrade

theorem PaperExecutor.decided_offer {R : Type} (action : ProposedAction) (slippageBps : Nat) (quote : ExecutionQuote R)
    (nativeUsd : String) : PaperTrade.decided (PaperExecutor.offer action slippageBps quote nativeUsd) =
      PaperExecutor.paperFill action slippageBps quote nativeUsd := by
  unfold PaperTrade.decided PaperExecutor.offer PaperExecutor.paperFill
  simp only [bind_assoc]
  congr 1
  funext expected
  congr 1
  funext haircut
  congr 1
  funext minOut
  split
  · rfl
  · simp only [bind_assoc, pure_bind]

theorem PaperExecutor.ran_eq {R : Type} (quote : ExecutionQuote R) (prices : QuotePrices) (slippageBps : Nat)
    (started : Db) : (PaperExecutor.trade now tradeId action quote prices filledAt slippageBps).ran now tradeId started =
      (match PaperExecutor.paperFill action slippageBps quote prices.nativeUsd with
      | .error e => PaperExecutor.fail started now tradeId action e.message filledAt
      | .ok fill => PaperExecutor.settle started now tradeId action prices fill filledAt).swap := by
  unfold PaperTrade.ran
  rw [show (PaperExecutor.trade now tradeId action quote prices filledAt slippageBps).offer =
    PaperExecutor.offer action slippageBps quote prices.nativeUsd from rfl, PaperExecutor.decided_offer]
  cases PaperExecutor.paperFill action slippageBps quote prices.nativeUsd with
  | error e => rfl
  | ok fill =>
    unfold PaperExecutor.settle PaperExecutor.trade
    dsimp only
    cases LedgerService.recordFill started now (PaperExecutor.fillInput tradeId action prices fill filledAt) with
    | error e => rfl
    | ok booked =>
      dsimp only [Except.map]
      cases TradeStore.markFilled booked.1 now tradeId
        ⟨toString fill.received, some (toString fill.feeNative), microsToUsd fill.feeUsd, none⟩ with
      | error e => rfl
      | ok closed => rfl

/-- **Without failures** this is `execute`. -/
theorem PaperExecutor.executeUnder_none {R : Type} (quote : ExecutionQuote R) (prices : QuotePrices) :
    (PaperExecutor.executeUnder .none now tradeId action quote prices filledAt).exec db =
      match PaperExecutor.execute db now tradeId action quote prices filledAt with
      | .error e => (.error e, db)
      | .ok out => (.ok out.2, out.1) := by
  unfold PaperExecutor.executeUnder PaperExecutor.execute
  cases action.quote with
  | none =>
    dsimp only
    rw [PaperTrade.exec_fail, show PaperFaults.none.failed = .fine from rfl, PaperTrade.failedDb_fine]
    rfl
  | some q =>
    dsimp only
    rw [PaperTrade.run_none]
    cases TradeStore.markDispatched db now tradeId with
    | error e => rfl
    | ok out =>
      dsimp only
      rw [PaperExecutor.ran_eq]
      show _ = match (match PaperExecutor.paperFill action q.slippageBps quote prices.nativeUsd with
        | .error e => _
        | .ok fill => _ : Result (Db × ExecutionOutcome)) with | .error e => _ | .ok out => _
      cases PaperExecutor.paperFill action q.slippageBps quote prices.nativeUsd with
      | error e => rfl
      | ok fill => rfl

theorem PaperLpExecutor.decided_offer {R : Type} (plan : LpPlan R) (pool : LpPoolState) (prices : LpFillPrices) :
    PaperTrade.decided (PaperLpExecutor.offerWithFee action plan pool prices) = do
      let fee ← PaperLpExecutor.feeOf action prices.nativeUsd
      let move ← PaperTrade.decided (PaperLpExecutor.offer plan pool prices)
      return (fee, move) := by
  unfold PaperTrade.decided PaperLpExecutor.offerWithFee
  cases PaperLpExecutor.feeOf action prices.nativeUsd with
  | error e => rfl
  | ok fee =>
    cases PaperLpExecutor.offer plan pool prices with
    | error e => rfl
    | ok offered =>
      cases offered with
      | error reason => rfl
      | ok move => rfl

theorem PaperLpExecutor.decided_offerAdd {R : Type} (quote : LpAddQuote R) (pool : LpPoolState) (prices : LpFillPrices) :
    PaperTrade.decided (PaperLpExecutor.offerAdd quote pool prices) = PaperLpExecutor.paperAdd quote pool prices := by
  unfold PaperTrade.decided PaperLpExecutor.offerAdd PaperLpExecutor.paperAdd
  simp only [bind_assoc]
  congr 1
  funext amount0
  congr 1
  funext amount1
  congr 1
  funext reserve0
  congr 1
  funext reserve1
  congr 1
  funext totalSupply
  split
  · rfl
  simp only [bind_assoc]
  congr 1
  funext minLp
  split
  · rfl
  · simp only [bind_assoc, pure_bind]

theorem PaperLpExecutor.decided_offerRemove {R : Type} (quote : LpRemoveQuote R) (pool : LpPoolState)
    (prices : LpFillPrices) :
    PaperTrade.decided (PaperLpExecutor.offerRemove quote pool prices) = PaperLpExecutor.paperRemove quote pool prices := by
  unfold PaperTrade.decided PaperLpExecutor.offerRemove PaperLpExecutor.paperRemove
  simp only [bind_assoc]
  congr 1
  funext lpTokens
  congr 1
  funext totalSupply
  split
  · rfl
  simp only [bind_assoc]
  congr 1
  funext reserve0
  congr 1
  funext reserve1
  congr 1
  funext short
  split
  · rfl
  · simp only [bind_assoc, pure_bind]

theorem PaperLpExecutor.apply_eq {R : Type} (plan : LpPlan R) (pool : LpPoolState) (prices : LpFillPrices)
    (fee : PaperLpExecutor.LpFee) : PaperLpExecutor.apply db now tradeId action plan pool prices fee filledAt = (do
      let move ← PaperTrade.decided (PaperLpExecutor.offer plan pool prices)
      let written ← PaperLpExecutor.write db now tradeId action pool move fee.usd filledAt
      return (written, move.filledOut, move.outcome action fee.usd filledAt)) := by
  cases plan with
  | add quote =>
    unfold PaperLpExecutor.apply
    dsimp only
    rw [← PaperLpExecutor.decided_offerAdd]
    unfold PaperTrade.decided PaperLpExecutor.offer
    dsimp only
    cases PaperLpExecutor.offerAdd quote pool prices with
    | error e => rfl
    | ok offered =>
      cases offered with
      | error reason => rfl
      | ok add => rfl
  | remove quote position =>
    unfold PaperLpExecutor.apply
    dsimp only
    rw [← PaperLpExecutor.decided_offerRemove]
    unfold PaperTrade.decided PaperLpExecutor.offer
    dsimp only
    cases PaperLpExecutor.offerRemove quote pool prices with
    | error e => rfl
    | ok offered =>
      cases offered with
      | error reason => rfl
      | ok remove => rfl
  | claim quote => rfl

theorem PaperLpExecutor.ran_eq {R : Type} (plan : LpPlan R) (pool : LpPoolState) (prices : LpFillPrices) (started : Db) :
    (PaperLpExecutor.trade now tradeId action plan pool prices filledAt).ran now tradeId started =
      (match PaperLpExecutor.feeOf action prices.nativeUsd with
      | .error e => PaperLpExecutor.fail started now tradeId action e.message filledAt
      | .ok fee => PaperLpExecutor.settle started now tradeId action plan pool prices fee filledAt).swap := by
  unfold PaperTrade.ran
  rw [show (PaperLpExecutor.trade now tradeId action plan pool prices filledAt).offer =
    PaperLpExecutor.offerWithFee action plan pool prices from rfl, PaperLpExecutor.decided_offer]
  cases PaperLpExecutor.feeOf action prices.nativeUsd with
  | error e => rfl
  | ok fee =>
    unfold PaperLpExecutor.settle
    dsimp only
    rw [PaperLpExecutor.apply_eq]
    cases PaperTrade.decided (PaperLpExecutor.offer plan pool prices) with
    | error e => rfl
    | ok move =>
      simp only [bind, Except.bind, pure, Except.pure, PaperLpExecutor.trade]
      cases PaperLpExecutor.write started now tradeId action pool move fee.usd filledAt with
      | error e => rfl
      | ok written =>
        dsimp only
        cases TradeStore.markFilled written now tradeId
          ⟨toString move.filledOut, some (toString fee.native), microsToUsd fee.usd, none⟩ with
        | error e => rfl
        | ok closed => rfl

/-- **Without failures** this is `execute`. -/
theorem PaperLpExecutor.executeUnder_none {R : Type} (plan : LpPlan R) (pool : LpPoolState) (prices : LpFillPrices) :
    (PaperLpExecutor.executeUnder .none now tradeId action plan pool prices filledAt).exec db =
      match PaperLpExecutor.execute db now tradeId action plan pool prices filledAt with
      | .error e => (.error e, db)
      | .ok out => (.ok out.2, out.1) := by
  unfold PaperLpExecutor.executeUnder PaperLpExecutor.execute
  dsimp only
  split
  · rw [PaperTrade.exec_fail, show PaperFaults.none.failed = .fine from rfl, PaperTrade.failedDb_fine]
    rfl
  split
  · rw [PaperTrade.exec_fail, show PaperFaults.none.failed = .fine from rfl, PaperTrade.failedDb_fine]
    rfl
  rw [PaperTrade.run_none]
  cases TradeStore.markDispatched db now tradeId with
  | error e => rfl
  | ok out =>
    dsimp only
    rw [PaperLpExecutor.ran_eq]
    show _ = match (match PaperLpExecutor.feeOf action prices.nativeUsd with
      | .error e => _
      | .ok fee => _ : Result (Db × LpExecutionOutcome)) with | .error e => _ | .ok out => _
    cases PaperLpExecutor.feeOf action prices.nativeUsd with
    | error e => rfl
    | ok fee => rfl

end

end Atra
