import Atra.CostBasis
import Atra.Gate
import Atra.LiquidityStore
import Atra.LpProposal
/-!
# Paper — the executors that never touch a chain

A paper swap fills at the quote's expected output less half the slippage tolerance and five basis points, at the quoted
prices.  A paper add spends both assets and mints by the pair's formula; a paper removal returns the share of the reserves.
Whatever throws once the trade is dispatched fails the trade; what was written until then stays.
-/
namespace Atra

open Money

inductive OutcomeStatus where
  | filled | failed
deriving DecidableEq, Repr

/-- What an execution reports. -/
structure ExecutionOutcome where
  actionId : String
  mode : Mode
  status : OutcomeStatus
  amountOut : Option String
  feeUsd : String
  txHash : Option String
  error : Option String
  filledAt : Int
deriving DecidableEq, Repr

structure LpExecutionOutcome where
  actionId : String
  mode : Mode
  status : OutcomeStatus
  lpTokens : Option String
  amount0 : Option String
  amount1 : Option String
  feeUsd : String
  txHash : Option String
  error : Option String
  filledAt : Int
deriving DecidableEq, Repr

structure LpFillPrices where
  token0Usd : String
  token1Usd : String
  nativeUsd : String

/-- A failed trade is marked where its row can still move. -/
def failTrade (db : Db) (now : Int) (tradeId reason : String) : Db :=
  match TradeStore.markFailed db now tradeId reason with
  | .ok out => out.1
  | .error _ => db

namespace PaperExecutor

open Money

def PAPER_EXTRA_SLIPPAGE_BPS : Nat := 5

def fail (db : Db) (now : Int) (tradeId : String) (action : ProposedAction) (reason : String) (filledAt : Int) :
    Db × ExecutionOutcome :=
  (failTrade db now tradeId reason,
    { actionId := action.actionId, mode := .PAPER, status := .failed, amountOut := none, feeUsd := "0.000000"
      txHash := none, error := some reason, filledAt })

/-- What a paper fill receives and costs. -/
structure PaperFill where
  received : Int
  feeNative : Int
  feeUsd : Int

/-- The fill of a quote; below the quote's minimum the transaction would revert. -/
def paperFill {R : Type} (action : ProposedAction) (slippageBps : Nat) (quote : ExecutionQuote R) (nativeUsd : String) :
    Result PaperFill := do
  let expected ← amountToBigint quote.expectedAmountOut
  let haircut ← bpsOf expected (slippageBps / 2 + PAPER_EXTRA_SLIPPAGE_BPS)
  let minOut ← amountToBigint quote.minAmountOut
  let received := expected - haircut
  if received < minOut then
    throw ⟨.internal, "paper fill " ++ toString received ++ " would be below minAmountOut " ++ toString minOut⟩
  else
    let feeNative ← Engine.feeInNativeUnits action.feeEstimate.detail
    let price ← priceToAtto nativeUsd
    let feeUsd ← nativeToUsdMicros feeNative (CHAINS action.chain).nativeDecimals price .ceil
    return { received, feeNative, feeUsd }

def fillInput (tradeId : String) (action : ProposedAction) (prices : QuotePrices) (fill : PaperFill) (filledAt : Int) :
    RecordFillInput :=
  { tradeId
    mode := .PAPER
    chain := action.chain
    tokenIn := action.tokenIn
    tokenOut := action.tokenOut
    amountIn := action.amountIn
    amountOut := toString fill.received
    priceInUsd := prices.tokenInUsd
    priceOutUsd := prices.tokenOutUsd
    feeUsd := microsToUsd fill.feeUsd
    filledAt
    simulated := true }

def settle (db : Db) (now : Int) (tradeId : String) (action : ProposedAction) (prices : QuotePrices) (fill : PaperFill)
    (filledAt : Int) : Db × ExecutionOutcome :=
  match LedgerService.recordFill db now (fillInput tradeId action prices fill filledAt) with
  | .error e => fail db now tradeId action e.message filledAt
  | .ok booked =>
    match TradeStore.markFilled booked.1 now tradeId
      ⟨toString fill.received, some (toString fill.feeNative), microsToUsd fill.feeUsd, none⟩ with
    | .error e => fail booked.1 now tradeId action e.message filledAt
    | .ok closed => (closed.1,
        { actionId := action.actionId, mode := .PAPER, status := .filled, amountOut := some (toString fill.received)
          feeUsd := microsToUsd fill.feeUsd, txHash := none, error := none, filledAt })

def execute {R : Type} (db : Db) (now : Int) (tradeId : String) (action : ProposedAction) (quote : ExecutionQuote R)
    (prices : QuotePrices) (filledAt : Int) : Result (Db × ExecutionOutcome) :=
  match action.quote with
  | none => pure (fail db now tradeId action "paper execution requires a quote" filledAt)
  | some q => do
    let dispatched ← TradeStore.markDispatched db now tradeId
    let started := RiskGate.markDispatched dispatched.1 now action
    match paperFill action q.slippageBps quote prices.nativeUsd with
    | .error e => return fail started now tradeId action e.message filledAt
    | .ok fill => return settle started now tradeId action prices fill filledAt

end PaperExecutor

namespace PaperLpExecutor

open Money

def fail (db : Db) (now : Int) (tradeId : String) (action : ProposedAction) (reason : String) (filledAt : Int) :
    Db × LpExecutionOutcome :=
  (failTrade db now tradeId reason,
    { actionId := action.actionId, mode := .PAPER, status := .failed, lpTokens := none, amount0 := none, amount1 := none
      feeUsd := "0.000000", txHash := none, error := some reason, filledAt })

def filled (action : ProposedAction) (lpTokens amount0 amount1 feeUsd : Int) (filledAt : Int) : LpExecutionOutcome :=
  { actionId := action.actionId, mode := .PAPER, status := .filled, lpTokens := some (toString lpTokens)
    amount0 := some (toString amount0), amount1 := some (toString amount1), feeUsd := microsToUsd feeUsd, txHash := none
    error := none, filledAt }

/-- Paper balances move through the trading ledger's own table. -/
def adjustPaper (db : Db) (now : Int) (chain : ChainId) (token : LpTokenInfo) (delta : Int) : Result Db :=
  LedgerService.adjustPaperBalance db now chain token.address token.decimals delta

/-- The USD value of both sides of a pool position. -/
def bothSides (pool : LpPoolState) (prices : LpFillPrices) (amount0 amount1 : Int) (rounding : Direction) : Result Int := do
  let price0 ← priceToAtto prices.token0Usd
  let value0 ← nativeToUsdMicros amount0 pool.token0.decimals price0 rounding
  let price1 ← priceToAtto prices.token1Usd
  let value1 ← nativeToUsdMicros amount1 pool.token1.decimals price1 rounding
  return value0 + value1

/-- The fee of an action, in base units and micro-USD. -/
structure LpFee where
  native : Int
  usd : Int

def feeOf (action : ProposedAction) (nativeUsd : String) : Result LpFee := do
  let native ← Engine.feeInNativeUnits action.feeEstimate.detail
  let price ← priceToAtto nativeUsd
  return { native, usd := ← nativeToUsdMicros native (CHAINS action.chain).nativeDecimals price .ceil }

/-- What an add moves: the two amounts, the LP tokens it mints and what it costs. -/
structure PaperAdd where
  amount0 : Int
  amount1 : Int
  minted : Int
  capital : Int

def pairMint (amount0 amount1 reserve0 reserve1 totalSupply : Int) : Int :=
  let by0 := (amount0 * totalSupply).tdiv reserve0
  let by1 := (amount1 * totalSupply).tdiv reserve1
  if by0 < by1 then by0 else by1

def paperAdd {R : Type} (quote : LpAddQuote R) (pool : LpPoolState) (prices : LpFillPrices) : Result PaperAdd := do
  let amount0 ← amountToBigint quote.amount0
  let amount1 ← amountToBigint quote.amount1
  let reserve0 ← amountToBigint pool.reserve0
  let reserve1 ← amountToBigint pool.reserve1
  let totalSupply ← amountToBigint pool.totalSupply
  if reserve0 ≤ 0 ∨ reserve1 ≤ 0 ∨ totalSupply ≤ 0 then throw ⟨.adapterUnavailable, "The pool has no reserves"⟩
  else
    let minted := pairMint amount0 amount1 reserve0 reserve1 totalSupply
    let minLp ← amountToBigint quote.minLpTokens
    if minted < minLp then
      throw ⟨.internal, "paper mint " ++ toString minted ++ " would be below the minimum " ++ toString minLp⟩
    else return { amount0, amount1, minted, capital := ← bothSides pool prices amount0 amount1 .ceil }

def bookAddInput (action : ProposedAction) (pool : LpPoolState) (add : PaperAdd) (filledAt : Int) : BookAddInput :=
  { mode := .PAPER
    chain := action.chain
    protocol := action.protocol
    poolId := pool.poolId
    token0 := ⟨pool.token0.address, pool.token0.decimals⟩
    token1 := ⟨pool.token1.address, pool.token1.decimals⟩
    lpTokens := toString add.minted
    amount0 := toString add.amount0
    amount1 := toString add.amount1
    capitalUsd := microsToUsd add.capital
    time := filledAt
    rebalance := action.kind = .lp_rebalance }

/-- The row an LP fill realizes. -/
def pnlInput (tradeId : String) (action : ProposedAction) (pool : LpPoolState) (recorded : LpRecordedAction)
    (proceedsUsd costReleasedUsd feeUsd filledAt : Int) : RecordPnlInput :=
  { tradeId := some tradeId, mode := .PAPER, chain := action.chain, protocol := action.protocol, poolId := pool.poolId
    action := recorded, proceedsUsd, costReleasedUsd, feeUsd, time := filledAt, simulated := true }

/-- Spend both assets, book the position and charge the gas, as one transaction. -/
def writeAdd (db : Db) (now : Int) (tradeId : String) (action : ProposedAction) (pool : LpPoolState) (add : PaperAdd)
    (feeUsd filledAt : Int) : Result Db := do
  let spent0 ← adjustPaper db now action.chain pool.token0 (-add.amount0)
  let spent1 ← adjustPaper spent0 now action.chain pool.token1 (-add.amount1)
  let booked ← LiquidityStore.bookAdd spent1 (bookAddInput action pool add filledAt)
  let recorded : LpRecordedAction := if action.kind = .lp_rebalance then .REBALANCE else .ADD
  return (LiquidityStore.recordPnl booked.1 (pnlInput tradeId action pool recorded 0 0 feeUsd filledAt)).1

/-- What a removal burns and returns. -/
structure PaperRemove where
  lpTokens : Int
  out0 : Int
  out1 : Int
  proceeds : Int

/-- Either side falls short of its minimum; the second minimum is read only when the first side does not. -/
def belowMinimum {R : Type} (quote : LpRemoveQuote R) (out0 out1 : Int) : Result Bool := do
  let min0 ← amountToBigint quote.min0
  if out0 < min0 then return true
  else return decide (out1 < (← amountToBigint quote.min1))

/-- The share of the reserves a burn returns. -/
def paperRemove {R : Type} (quote : LpRemoveQuote R) (pool : LpPoolState) (prices : LpFillPrices) : Result PaperRemove := do
  let lpTokens ← amountToBigint quote.lpTokens
  let totalSupply ← amountToBigint pool.totalSupply
  if totalSupply ≤ 0 then throw ⟨.adapterUnavailable, "The pool has no supply"⟩
  else
    let out0 := (lpTokens * (← amountToBigint pool.reserve0)).tdiv totalSupply
    let out1 := (lpTokens * (← amountToBigint pool.reserve1)).tdiv totalSupply
    if ← belowMinimum quote out0 out1 then
      throw ⟨.internal, "paper burn " ++ toString out0 ++ "/" ++ toString out1 ++ " would be below the minimum " ++
        quote.min0 ++ "/" ++ quote.min1⟩
    else return { lpTokens, out0, out1, proceeds := ← bothSides pool prices out0 out1 .floor }

/-- Burn, credit both assets and realize the result, as one transaction. -/
def writeRemove (db : Db) (now : Int) (tradeId : String) (action : ProposedAction) (pool : LpPoolState)
    (remove : PaperRemove) (feeUsd filledAt : Int) : Result Db := do
  let removed ← LiquidityStore.bookRemove db
    { mode := .PAPER, chain := action.chain, protocol := action.protocol, poolId := pool.poolId
      lpTokens := toString remove.lpTokens, time := filledAt }
  let credited0 ← adjustPaper removed.1 now action.chain pool.token0 remove.out0
  let credited1 ← adjustPaper credited0 now action.chain pool.token1 remove.out1
  let recorded : LpRecordedAction := if removed.2.closed then .EXIT else .REMOVE
  return (LiquidityStore.recordPnl credited1 (pnlInput tradeId action pool recorded remove.proceeds
    removed.2.costReleasedUsd feeUsd filledAt)).1

/-- What a plan writes and reports, beside its trade: the ledger, the filled amount and the outcome. -/
def apply {R : Type} (db : Db) (now : Int) (tradeId : String) (action : ProposedAction) (plan : LpPlan R)
    (pool : LpPoolState) (prices : LpFillPrices) (fee : LpFee) (filledAt : Int) :
    Result (Db × Int × LpExecutionOutcome) :=
  match plan with
  | .add quote => do
    let add ← paperAdd quote pool prices
    let written ← writeAdd db now tradeId action pool add fee.usd filledAt
    return (written, add.minted, filled action add.minted add.amount0 add.amount1 fee.usd filledAt)
  | .remove quote _ => do
    let remove ← paperRemove quote pool prices
    let written ← writeRemove db now tradeId action pool remove fee.usd filledAt
    return (written, remove.out1, filled action remove.lpTokens remove.out0 remove.out1 fee.usd filledAt)
  | .claim _ => throw ⟨.internal, "fee accrual is not simulated in PAPER; there is nothing to claim"⟩

def settle {R : Type} (db : Db) (now : Int) (tradeId : String) (action : ProposedAction) (plan : LpPlan R)
    (pool : LpPoolState) (prices : LpFillPrices) (fee : LpFee) (filledAt : Int) : Db × LpExecutionOutcome :=
  match apply db now tradeId action plan pool prices fee filledAt with
  | .error e => fail db now tradeId action e.message filledAt
  | .ok (written, filledOut, outcome) =>
    match TradeStore.markFilled written now tradeId
      ⟨toString filledOut, some (toString fee.native), microsToUsd fee.usd, none⟩ with
    | .error e => fail written now tradeId action e.message filledAt
    | .ok closed => (closed.1, outcome)

def execute {R : Type} (db : Db) (now : Int) (tradeId : String) (action : ProposedAction) (plan : LpPlan R)
    (pool : LpPoolState) (prices : LpFillPrices) (filledAt : Int) : Result (Db × LpExecutionOutcome) :=
  if action.mode ≠ .PAPER then
    pure (fail db now tradeId action ("action mode " ++ action.mode.name ++ " is not PAPER") filledAt)
  else if action.lp.isNone then
    pure (fail db now tradeId action "paper LP execution requires the lp leg" filledAt)
  else do
    let dispatched ← TradeStore.markDispatched db now tradeId
    let started := RiskGate.markDispatched dispatched.1 now action
    match feeOf action prices.nativeUsd with
    | .error e => return fail started now tradeId action e.message filledAt
    | .ok fee => return settle started now tradeId action plan pool prices fee filledAt

end PaperLpExecutor

/-! ## What an execution writes -/

/-- The tables a trade's own progress writes: its row and the cooldowns. -/
def TradeFrame (db db' : Db) : Prop :=
  ∃ trades cooldowns lastAnyActionAt, db' = { db with trades, cooldowns, lastAnyActionAt }

theorem TradeFrame.refl (db : Db) : TradeFrame db db := ⟨_, _, _, rfl⟩

theorem TradeFrame.trans {a b c : Db} (h : TradeFrame a b) (h' : TradeFrame b c) : TradeFrame a c := by
  obtain ⟨_, _, _, rfl⟩ := h
  obtain ⟨_, _, _, rfl⟩ := h'
  exact ⟨_, _, _, rfl⟩

theorem transition_frame {db : Db} {now : Int} {tradeId : String} {next : TradeStatus} {fields : TradeRow → TradeRow}
    {out : Db × TradeRow} (h : TradeStore.transition db now tradeId next fields = .ok out) : TradeFrame db out.1 := by
  obtain ⟨_, -, -, -, he⟩ := TradeStore.transition_ok.1 h
  exact ⟨_, _, _, he⟩

theorem failTrade_frame (db : Db) (now : Int) (tradeId reason : String) : TradeFrame db (failTrade db now tradeId reason) := by
  unfold failTrade
  split
  · rename_i h
    exact transition_frame h
  · exact .refl db

theorem started_frame {db : Db} {now : Int} {tradeId : String} {action : ProposedAction} {out : Db × TradeRow}
    (h : TradeStore.markDispatched db now tradeId = .ok out) :
    TradeFrame db (RiskGate.markDispatched out.1 now action) := by
  obtain ⟨_, _, he⟩ := RiskGate.markDispatched_eq out.1 now action
  refine (transition_frame h).trans ?_
  rw [he]
  exact ⟨_, _, _, rfl⟩

/-- A dispatched trade can be closed as filled. -/
def Dispatched (db : Db) (tradeId : String) : Prop := ∃ row, TradeStore.get db tradeId = some row ∧ row.status = .dispatched

theorem started_dispatched {db : Db} {now : Int} {tradeId : String} {action : ProposedAction} {out : Db × TradeRow}
    (h : TradeStore.markDispatched db now tradeId = .ok out) :
    Dispatched (RiskGate.markDispatched out.1 now action) tradeId := by
  obtain ⟨_, -, -, hrow, he⟩ := TradeStore.transition_ok.1 h
  obtain ⟨_, _, hm⟩ := RiskGate.markDispatched_eq out.1 now action
  refine ⟨out.2, ?_, by rw [hrow]⟩
  rw [hm, he]
  show (db.trades.put out.2).get tradeId = some out.2
  rw [Table.get_put, if_pos (by rw [hrow])]

theorem Dispatched.markFilled {db : Db} {tradeId : String} (h : Dispatched db tradeId) (now : Int)
    (fill : TradeStore.Filled) : ∃ out, TradeStore.markFilled db now tradeId fill = .ok out := by
  obtain ⟨row, hg, hs⟩ := h
  refine TradeStore.transition_of_mem hg ?_
  rw [hs]
  decide

theorem Dispatched.of_trades {db db' : Db} {tradeId : String} (h : Dispatched db tradeId) (ht : db'.trades = db.trades) :
    Dispatched db' tradeId := by
  unfold Dispatched TradeStore.get
  rw [ht]
  exact h

theorem recordFill_trades {db : Db} {now : Int} {input : RecordFillInput} {out : Db × FillRow}
    (h : LedgerService.recordFill db now input = .ok out) : out.1.trades = db.trades := by
  obtain ⟨f, paid, hp, hout, -⟩ := LedgerService.recordFill_ok h
  obtain ⟨_, rfl⟩ := LedgerService.payPaper_eq hp
  obtain ⟨_, hb⟩ : ∃ positions, f.bought (f.sold db) = { db with positions } := f.bought_eq
  rw [hout, hb]

/-- **A paper swap** is booked as one fill and reported filled, or leaves every ledger table alone and is reported failed. -/
theorem PaperExecutor.execute_ok {R : Type} {db : Db} {now filledAt : Int} {tradeId : String} {action : ProposedAction}
    {quote : ExecutionQuote R} {prices : QuotePrices} {out : Db × ExecutionOutcome}
    (h : PaperExecutor.execute db now tradeId action quote prices filledAt = .ok out) :
    (TradeFrame db out.1 ∧ out.2.status = .failed) ∨ (out.2.status = .filled ∧ ∃ started fill booked, TradeFrame db started ∧
      LedgerService.recordFill started now (PaperExecutor.fillInput tradeId action prices fill filledAt) = .ok booked ∧
      TradeFrame booked.1 out.1) := by
  unfold PaperExecutor.execute at h
  split at h
  · obtain rfl := pure_ok.1 h
    exact .inl ⟨failTrade_frame .., rfl⟩
  · rw [bind_ok] at h
    obtain ⟨dispatched, hd, h⟩ := h
    have hstarted : TradeFrame db (RiskGate.markDispatched dispatched.1 now action) := started_frame hd
    have hopen : Dispatched (RiskGate.markDispatched dispatched.1 now action) tradeId := started_dispatched hd
    dsimp only at h
    split at h
    · obtain rfl := pure_ok.1 h
      exact .inl ⟨hstarted.trans (failTrade_frame ..), rfl⟩
    · rename_i fill hfill
      obtain rfl := pure_ok.1 h
      unfold PaperExecutor.settle
      cases hb : LedgerService.recordFill (RiskGate.markDispatched dispatched.1 now action) now
        (PaperExecutor.fillInput tradeId action prices fill filledAt) with
      | error e => exact .inl ⟨hstarted.trans (failTrade_frame ..), rfl⟩
      | ok booked =>
        -- the row was dispatched and the fill leaves it so
        obtain ⟨closed, hc⟩ := (hopen.of_trades (recordFill_trades hb)).markFilled now
          ⟨toString fill.received, some (toString fill.feeNative), microsToUsd fill.feeUsd, none⟩
        dsimp only
        rw [hc]
        exact .inr ⟨rfl, _, fill, booked, hstarted, hb, transition_frame hc⟩

theorem PaperLpExecutor.apply_trades {R : Type} {db : Db} {now filledAt : Int} {tradeId : String} {action : ProposedAction}
    {plan : LpPlan R} {pool : LpPoolState} {prices : LpFillPrices} {fee : PaperLpExecutor.LpFee}
    {applied : Db × Int × LpExecutionOutcome}
    (h : PaperLpExecutor.apply db now tradeId action plan pool prices fee filledAt = .ok applied) :
    applied.1.trades = db.trades ∧ applied.2.2.status = .filled := by
  unfold PaperLpExecutor.apply at h
  split at h
  · simp only [bind_ok, pure_ok] at h
    obtain ⟨add, -, written, hw, rfl⟩ := h
    unfold PaperLpExecutor.writeAdd PaperLpExecutor.adjustPaper at hw
    simp only [bind_ok, pure_ok] at hw
    obtain ⟨spent0, h0, spent1, h1, booked, hb, rfl⟩ := hw
    obtain ⟨-, rfl⟩ := LedgerService.adjustPaperBalance_ok.1 h0
    obtain ⟨-, rfl⟩ := LedgerService.adjustPaperBalance_ok.1 h1
    obtain ⟨_, _, he⟩ := LiquidityStore.bookAdd_eq hb
    refine ⟨?_, rfl⟩
    show booked.1.trades = _
    rw [he]
    rfl
  · simp only [bind_ok, pure_ok] at h
    obtain ⟨remove, -, written, hw, rfl⟩ := h
    unfold PaperLpExecutor.writeRemove PaperLpExecutor.adjustPaper at hw
    simp only [bind_ok, pure_ok] at hw
    obtain ⟨removed, hr, credited0, h0, credited1, h1, rfl⟩ := hw
    obtain ⟨_, he⟩ := LiquidityStore.bookRemove_eq hr
    obtain ⟨-, rfl⟩ := LedgerService.adjustPaperBalance_ok.1 h0
    obtain ⟨-, rfl⟩ := LedgerService.adjustPaperBalance_ok.1 h1
    refine ⟨?_, rfl⟩
    show removed.1.trades = _
    rw [he]
  · cases h

/-- **A paper LP action** is applied as one transaction and reported filled, or leaves every ledger table alone and is
reported failed. -/
theorem PaperLpExecutor.execute_ok {R : Type} {db : Db} {now filledAt : Int} {tradeId : String} {action : ProposedAction}
    {plan : LpPlan R} {pool : LpPoolState} {prices : LpFillPrices} {out : Db × LpExecutionOutcome}
    (h : PaperLpExecutor.execute db now tradeId action plan pool prices filledAt = .ok out) :
    (TradeFrame db out.1 ∧ out.2.status = .failed) ∨ (out.2.status = .filled ∧ ∃ started fee applied, TradeFrame db started ∧
      PaperLpExecutor.apply started now tradeId action plan pool prices fee filledAt = .ok applied ∧
      TradeFrame applied.1 out.1) := by
  unfold PaperLpExecutor.execute at h
  split at h
  · obtain rfl := pure_ok.1 h
    exact .inl ⟨failTrade_frame .., rfl⟩
  · split at h
    · obtain rfl := pure_ok.1 h
      exact .inl ⟨failTrade_frame .., rfl⟩
    · rw [bind_ok] at h
      obtain ⟨dispatched, hd, h⟩ := h
      have hstarted : TradeFrame db (RiskGate.markDispatched dispatched.1 now action) := started_frame hd
      have hopen : Dispatched (RiskGate.markDispatched dispatched.1 now action) tradeId := started_dispatched hd
      dsimp only at h
      split at h
      · obtain rfl := pure_ok.1 h
        exact .inl ⟨hstarted.trans (failTrade_frame ..), rfl⟩
      · rename_i fee hfee
        obtain rfl := pure_ok.1 h
        unfold PaperLpExecutor.settle
        cases ha : PaperLpExecutor.apply (RiskGate.markDispatched dispatched.1 now action) now tradeId action plan pool
          prices fee filledAt with
        | error e => exact .inl ⟨hstarted.trans (failTrade_frame ..), rfl⟩
        | ok applied =>
          obtain ⟨htrades, hfilled⟩ := PaperLpExecutor.apply_trades ha
          obtain ⟨closed, hc⟩ := (hopen.of_trades htrades).markFilled now
            ⟨toString applied.2.1, some (toString fee.native), microsToUsd fee.usd, none⟩
          obtain ⟨written, filledOut, outcome⟩ := applied
          dsimp only at hc hfilled ⊢
          rw [hc]
          exact .inr ⟨hfilled, _, fee, (written, filledOut, outcome), hstarted, ha, transition_frame hc⟩

end Atra
