import Atra.Backing
import Atra.LiveLp
/-!
# LpAccount — every released LP cost basis is on a P&L row

The capital of a mode's open positions and the cost on its P&L rows account for all that adds booked in: an add raises the
first, and a removal moves cost from the first to the second.  One path breaks the account: a removal recovered after a restart
releases cost and writes no row, which shows as soon as the position had any cost.
-/
namespace Atra
namespace LpAccount

open Money LiquidityStore

def releasedRows (mode : Mode) (db : Db) : Int := ((db.lpPnl.filter fun r => r.mode = mode).map (·.costReleasedUsd)).sum

def openCapital (mode : Mode) (db : Db) : Int := capitalOver (fun k => k.1 = mode) db

/-- What a mode can account for: the cost still held and the cost released on a row. -/
def accounted (mode : Mode) (db : Db) : Int := releasedRows mode db + openCapital mode db

variable {mode : Mode} {db db' : Db}

/-! ## The store's operations -/

theorem accounted_recordPnl (input : RecordPnlInput) : accounted mode (recordPnl db input).1 =
    accounted mode db + if input.mode = mode then input.costReleasedUsd else 0 := by
  have hopen : openCapital mode (recordPnl db input).1 = openCapital mode db := rfl
  have hrows : releasedRows mode (recordPnl db input).1 =
      releasedRows mode db + if input.mode = mode then input.costReleasedUsd else 0 := by
    unfold releasedRows recordPnl
    rw [List.filter_append, List.map_append, List.sum_append]
    congr 1
    by_cases hm : input.mode = mode
    · rw [List.filter_cons_of_pos (by simpa using hm), if_pos hm]
      simp
    · rw [List.filter_cons_of_neg (by simpa using hm), if_neg hm]
      rfl
  unfold accounted
  rw [hopen, hrows]
  omega

theorem accounted_bookAdd {input : BookAddInput} {out : Db × LpPositionRow} {capital : Int} (h : bookAdd db input = .ok out)
    (hc : usdToMicros input.capitalUsd = .ok capital) :
    accounted mode out.1 = accounted mode db + if input.mode = mode then capital else 0 := by
  have hcap := capitalOver_bookAdd (p := fun k => k.1 = mode) h hc
  obtain ⟨_, _, he⟩ := bookAdd_eq h
  have hrows : releasedRows mode out.1 = releasedRows mode db := by rw [he]; rfl
  unfold accounted openCapital
  rw [hrows, hcap]
  by_cases hm : input.mode = mode
  · simp [BookAddInput.key, hm]
    omega
  · simp [BookAddInput.key, hm]

theorem accounted_bookRemove {input : BookRemoveInput} {out : Db × Removed} (hs : Sound db)
    (h : bookRemove db input = .ok out) :
    accounted mode out.1 = accounted mode db - if input.mode = mode then out.2.costReleasedUsd else 0 := by
  have hcap := capitalOver_bookRemove (p := fun k => k.1 = mode) hs h
  obtain ⟨_, he⟩ := bookRemove_eq h
  have hrows : releasedRows mode out.1 = releasedRows mode db := by rw [he]; rfl
  unfold accounted openCapital
  rw [hrows, hcap]
  by_cases hm : input.mode = mode
  · simp [BookRemoveInput.key, hm]
    omega
  · simp [BookRemoveInput.key, hm]

theorem accounted_touchClaim {chain : ChainId} {protocol poolId : String} {time : Int} {m : Mode} :
    accounted mode (touchClaim db m chain protocol poolId time) = accounted mode db := by
  have hrows : releasedRows mode (touchClaim db m chain protocol poolId time) = releasedRows mode db := by
    unfold touchClaim
    split
    · rfl
    · rfl
  unfold accounted openCapital
  rw [hrows, capitalOver_touchClaim]

/-! ## The executors' bookings -/

/-- A booking accounts for a capital: it keeps the positions sound and the account grows by just that. -/
structure Books (mode : Mode) (db db' : Db) (capital : Int) : Prop where
  sound : Sound db'
  accounted : accounted mode db' = LpAccount.accounted mode db + capital

theorem Books.refl (hs : Sound db) : Books mode db db 0 := ⟨hs, (Int.add_zero _).symm⟩

theorem bothSides_nonneg {pool : LpPoolState} {prices : LpFillPrices} {amount0 amount1 value : Int} {rounding : Direction}
    (h0 : 0 ≤ amount0) (h1 : 0 ≤ amount1)
    (h : PaperLpExecutor.bothSides pool prices amount0 amount1 rounding = .ok value) : 0 ≤ value := by
  unfold PaperLpExecutor.bothSides at h
  simp only [bind_ok, pure_ok] at h
  obtain ⟨_, -, value0, hv0, _, -, value1, hv1, rfl⟩ := h
  exact Int.add_nonneg (nativeToUsdMicros_nonneg h0 hv0) (nativeToUsdMicros_nonneg h1 hv1)

theorem paperAdd_nonneg {R : Type} {quote : LpAddQuote R} {pool : LpPoolState} {prices : LpFillPrices}
    {add : PaperLpExecutor.PaperAdd} (h : PaperLpExecutor.paperAdd quote pool prices = .ok add) : 0 ≤ add.capital := by
  unfold PaperLpExecutor.paperAdd at h
  simp only [bind_ok] at h
  obtain ⟨amount0, h0, amount1, h1, _, -, _, -, _, -, h⟩ := h
  split at h
  · cases h
  · simp only [bind_ok] at h
    obtain ⟨_, -, h⟩ := h
    split at h
    · cases h
    · simp only [bind_ok, pure_ok] at h
      obtain ⟨capital, hc, rfl⟩ := h
      exact bothSides_nonneg (amountToBigint_nonneg h0) (amountToBigint_nonneg h1) hc

theorem sidesUsd_nonneg {pool : LpPoolState} {prices : LpFillPrices} {amount0 amount1 : String} {value : Int}
    {rounding : Direction} (h : LiveLpExecutor.sidesUsd pool prices amount0 amount1 rounding = .ok value) : 0 ≤ value := by
  unfold LiveLpExecutor.sidesUsd at h
  simp only [bind_ok, pure_ok] at h
  obtain ⟨_, hb0, _, -, value0, hv0, _, hb1, _, -, value1, hv1, rfl⟩ := h
  exact Int.add_nonneg (nativeToUsdMicros_nonneg (amountToBigint_nonneg hb0) hv0)
    (nativeToUsdMicros_nonneg (amountToBigint_nonneg hb1) hv1)

theorem books_add {input : BookAddInput} {out : Db × LpPositionRow} {capital : Int} (pnl : RecordPnlInput) (hs : Sound db)
    (h : bookAdd db input = .ok out) (hc : input.capitalUsd = microsToUsd capital) (h0 : 0 ≤ capital)
    (hp : pnl.costReleasedUsd = 0) :
    Books mode db (recordPnl out.1 pnl).1 (if input.mode = mode then capital else 0) := by
  have hmicros : usdToMicros input.capitalUsd = .ok capital := by rw [hc, usdToMicros_microsToUsd]
  refine ⟨bookAdd_sound hs h fun c hc' => ?_, ?_⟩
  · obtain rfl := Except.ok.inj (hmicros.symm.trans hc')
    exact h0
  · rw [accounted_recordPnl, accounted_bookAdd h hmicros, hp]
    split
    · omega
    · omega

theorem books_remove {input : BookRemoveInput} {out : Db × Removed} (pnl : RecordPnlInput) (hs : Sound db)
    (h : bookRemove db input = .ok out) (hm : pnl.mode = input.mode) (hp : pnl.costReleasedUsd = out.2.costReleasedUsd) :
    Books mode db (recordPnl out.1 pnl).1 0 := by
  refine ⟨bookRemove_sound hs h, ?_⟩
  rw [accounted_recordPnl, accounted_bookRemove hs h, hp, hm]
  omega

section
variable {now filledAt feeUsd : Int} {tradeId : String} {action : ProposedAction} {pool : LpPoolState}
  {prices : LpFillPrices}

theorem writeAdd_books {add : PaperLpExecutor.PaperAdd} (hs : Sound db) (h0 : 0 ≤ add.capital)
    (h : PaperLpExecutor.writeAdd db now tradeId action pool add feeUsd filledAt = .ok db') :
    Books mode db db' (if Mode.PAPER = mode then add.capital else 0) := by
  unfold PaperLpExecutor.writeAdd PaperLpExecutor.adjustPaper at h
  simp only [bind_ok, pure_ok] at h
  obtain ⟨spent0, hs0, spent1, hs1, booked, hb, rfl⟩ := h
  obtain ⟨-, rfl⟩ := LedgerService.adjustPaperBalance_ok.1 hs0
  obtain ⟨-, rfl⟩ := LedgerService.adjustPaperBalance_ok.1 hs1
  let recorded : LpRecordedAction := if action.kind = .lp_rebalance then .REBALANCE else .ADD
  have hbooks : Books mode _ _ (if Mode.PAPER = mode then add.capital else 0) :=
    books_add (PaperLpExecutor.pnlInput tradeId action pool recorded 0 0 feeUsd filledAt) (by exact hs) hb rfl h0 rfl
  exact ⟨hbooks.sound, hbooks.accounted⟩

theorem writeRemove_books {remove : PaperLpExecutor.PaperRemove} (hs : Sound db)
    (h : PaperLpExecutor.writeRemove db now tradeId action pool remove feeUsd filledAt = .ok db') : Books mode db db' 0 := by
  unfold PaperLpExecutor.writeRemove PaperLpExecutor.adjustPaper at h
  simp only [bind_ok, pure_ok] at h
  obtain ⟨removed, hr, credited0, hc0, credited1, hc1, rfl⟩ := h
  obtain ⟨-, rfl⟩ := LedgerService.adjustPaperBalance_ok.1 hc0
  obtain ⟨-, rfl⟩ := LedgerService.adjustPaperBalance_ok.1 hc1
  let recorded : LpRecordedAction := if removed.2.closed then .EXIT else .REMOVE
  have hbooks : Books mode db _ 0 := books_remove (PaperLpExecutor.pnlInput tradeId action pool recorded remove.proceeds
    removed.2.costReleasedUsd feeUsd filledAt) hs hr rfl rfl
  exact ⟨hbooks.sound, hbooks.accounted⟩

end

section
variable {R : Type} {host : Host} {b : LiveLpExecutor.Booking} {prices : LpFillPrices} {receipt : LpReceipt}

theorem bookAdded_books {quote : LpAddQuote R} (mode : Mode) (hs : Sound db)
    (h : LiveLpExecutor.bookAdded db host b quote prices receipt = .ok db') : ∃ capital,
    LiveLpExecutor.sidesUsd b.pool prices (LiveLpExecutor.addAmounts host b.pool quote receipt).amount0
      (LiveLpExecutor.addAmounts host b.pool quote receipt).amount1 .ceil = .ok capital ∧
    Books mode db db' (if Mode.LIVE = mode then capital else 0) := by
  unfold LiveLpExecutor.bookAdded at h
  simp only [bind_ok, pure_ok] at h
  obtain ⟨capital, hc, booked, hb, fee, -, rfl⟩ := h
  exact ⟨capital, hc, books_add _ hs hb rfl (sidesUsd_nonneg hc) rfl⟩

theorem books_recordPnl (pnl : RecordPnlInput) (hs : Sound db) (hp : pnl.costReleasedUsd = 0) :
    Books mode db (recordPnl db pnl).1 0 := by
  refine ⟨hs, ?_⟩
  rw [accounted_recordPnl, hp]
  split
  · rfl
  · rfl

theorem bookRemoved_books {quote : LpRemoveQuote R} (hs : Sound db)
    (h : LiveLpExecutor.bookRemoved db host b quote prices receipt = .ok db') : Books mode db db' 0 := by
  unfold LiveLpExecutor.bookRemoved at h
  simp only [bind_ok] at h
  obtain ⟨proceeds, -, covers, -, h⟩ := h
  split at h
  · unfold LiveLpExecutor.bookBurned at h
    simp only [bind_ok, pure_ok] at h
    obtain ⟨removed, hr, fee, -, rfl⟩ := h
    exact books_remove _ hs hr rfl rfl
  · simp only [bind_ok, pure_ok] at h
    obtain ⟨fee, -, rfl⟩ := h
    exact books_recordPnl _ hs rfl

theorem bookClaimed_books (hs : Sound db) (h : LiveLpExecutor.bookClaimed db host b prices receipt = .ok db') :
    Books mode db db' 0 := by
  unfold LiveLpExecutor.bookClaimed at h
  simp only [bind_ok, pure_ok] at h
  obtain ⟨proceeds, -, fee, -, rfl⟩ := h
  have hs' : Sound (touchClaim db .LIVE b.action.chain b.action.protocol b.pool.poolId b.filledAt) := touchClaim_sound hs
  have hrow : Books mode _ _ 0 := books_recordPnl (b.pnl .COLLECT_FEES proceeds 0 fee) hs' rfl
  exact ⟨hrow.sound, hrow.accounted.trans (by rw [accounted_touchClaim])⟩

end

/-! ## Recovery -/

/-- A recovered removal burns from a position that has a cost. -/
def Recovers (db : Db) (trade : TradeRow) : Prop :=
  trade.kind = .lp_remove ∧ ∃ poolId, trade.route.poolId = some poolId ∧ poolId ≠ "" ∧
    ∃ burned, trade.route.lpTokens = some burned ∧ ∃ amount, amountToBigint burned = .ok amount ∧ 0 < amount ∧
    ∃ row, getPosition db .LIVE trade.chain trade.protocol poolId = some row ∧ amount ≤ row.lpTokens ∧ 0 < row.capitalUsd

theorem reconcileAdd_books {now : Int} {host : Host} {trade : TradeRow} {poolId : String} {receipt : LpReceipt}
    (hs : Sound db) (h : LiveLpExecutor.reconcileAdd db now host trade poolId receipt = .ok db') : Books mode db db' 0 := by
  unfold LiveLpExecutor.reconcileAdd at h
  split at h
  · obtain rfl := pure_ok.1 h
    exact .refl hs
  · rename_i minted hm
    split at h
    · obtain rfl := pure_ok.1 h
      exact .refl hs
    · rw [bind_ok] at h
      obtain ⟨amount, -, h⟩ := h
      split at h
      · simp only [bind_ok, pure_ok] at h
        obtain ⟨booked, hb, rfl⟩ := h
        have hzero : usdToMicros (LiveLpExecutor.reconciledAdd host trade poolId minted receipt now).capitalUsd = .ok 0 := by
          show usdToMicros "0" = .ok 0
          decide
        refine ⟨bookAdd_sound hs hb fun c hc => ?_, ?_⟩
        · obtain rfl := Except.ok.inj (hzero.symm.trans hc)
          exact Int.le_refl 0
        · rw [accounted_bookAdd hb hzero, ite_self]
      · obtain rfl := pure_ok.1 h
        exact .refl hs

/-- **A recovered removal releases cost on no row**, so it keeps the account only where there is no cost to release. -/
theorem reconcileRemove_books {now : Int} {trade : TradeRow} {poolId : String} (hs : Sound db)
    (h : LiveLpExecutor.reconcileRemove db now trade poolId = .ok db') (hk : trade.kind = .lp_remove)
    (hp : trade.route.poolId = some poolId) (hne : poolId ≠ "") (hr : ¬ Recovers db trade) : Books mode db db' 0 := by
  unfold LiveLpExecutor.reconcileRemove at h
  split at h
  · obtain rfl := pure_ok.1 h
    exact .refl hs
  · rename_i burned hburned
    rw [bind_ok] at h
    obtain ⟨covers, -, h⟩ := h
    split at h
    · simp only [bind_ok, pure_ok] at h
      obtain ⟨removed, hrem, rfl⟩ := h
      obtain ⟨amount, row, hamount, hg, hpos, hle, -⟩ := bookRemove_ok hs hrem
      have hcap : row.capitalUsd = 0 := by
        by_contra hc
        have h0 := (Table.forall_rows.1 hs _ row hg).2
        exact hr ⟨hk, poolId, hp, hne, burned, hburned, amount, hamount, by exact_mod_cast hpos, row, hg,
          by exact_mod_cast hle, by omega⟩
      have hzero := (released_bounds hs hrem).2.2.2 (by rw [capitalAt_some hg, hcap])
      refine ⟨bookRemove_sound hs hrem, ?_⟩
      rw [accounted_bookRemove hs hrem, hzero, ite_self]
      omega
    · obtain rfl := pure_ok.1 h
      exact .refl hs

theorem reconcileLedger_books {now : Int} {host : Host} {trade : TradeRow} {receipt : LpReceipt} (hs : Sound db)
    (h : LiveLpExecutor.reconcileLedger db now host trade receipt = .ok db') (hr : ¬ Recovers db trade) :
    Books mode db db' 0 := by
  unfold LiveLpExecutor.reconcileLedger at h
  split at h
  · obtain rfl := pure_ok.1 h
    exact .refl hs
  · rename_i poolId hp
    split at h
    · obtain rfl := pure_ok.1 h
      exact .refl hs
    · rename_i hne
      split at h
      · exact reconcileAdd_books hs h
      · rename_i hk
        exact reconcileRemove_books hs h hk hp hne hr
      · obtain rfl := pure_ok.1 h
        exact .refl hs

/-! ## Runs -/

/-- One step of a run: an LP action on paper, the booking of a live one, the recovery of one, or whatever writes neither the
positions nor the P&L rows. -/
inductive Event (R : Type) where
  | paper (now : Int) (tradeId : String) (action : ProposedAction) (plan : LpPlan R) (pool : LpPoolState)
      (prices : LpFillPrices) (filledAt : Int)
  | live (now : Int) (trade : TradeRow) (action : ProposedAction) (plan : LpPlan R) (pool : LpPoolState)
      (prices : LpFillPrices) (receipt : LpReceipt)
  | reconciled (now : Int) (trade : TradeRow) (receipt : LpReceipt)
  | elsewhere (other : Db)

variable {R : Type}

/-- A step that throws keeps what it had written. -/
def step (host : Host) (db : Db) : Event R → Db
  | .paper now tradeId action plan pool prices filledAt =>
    match PaperLpExecutor.execute db now tradeId action plan pool prices filledAt with
    | .ok out => out.1
    | .error _ => db
  | .live now trade action plan pool prices receipt =>
    (LiveLpExecutor.book db now host trade action plan pool prices receipt).1
  | .reconciled now trade receipt => (LiveLpExecutor.bookReconciled db now host trade receipt).1
  | .elsewhere other => { other with lpPositions := db.lpPositions, lpPnl := db.lpPnl }

def paperCapital (quote : LpAddQuote R) (pool : LpPoolState) (prices : LpFillPrices) : Int :=
  match PaperLpExecutor.paperAdd quote pool prices with
  | .ok add => add.capital
  | .error _ => 0

def liveCapital (host : Host) (quote : LpAddQuote R) (pool : LpPoolState) (prices : LpFillPrices) (receipt : LpReceipt) :
    Int :=
  let amounts := LiveLpExecutor.addAmounts host pool quote receipt
  match LiveLpExecutor.sidesUsd pool prices amounts.amount0 amounts.amount1 .ceil with
  | .ok capital => capital
  | .error _ => 0

/-- What a step books into a mode: the capital of an add that is booked; a recovered add has none. -/
def bookedIn (host : Host) (mode : Mode) (db : Db) : Event R → Int
  | .paper now tradeId action (.add quote) pool prices filledAt =>
    match PaperLpExecutor.execute db now tradeId action (.add quote) pool prices filledAt with
    | .ok out => if out.2.status = .filled ∧ Mode.PAPER = mode then paperCapital quote pool prices else 0
    | .error _ => 0
  | .live now trade action (.add quote) pool prices receipt =>
    let feeUsd := LiveLpExecutor.feeUsdOf action.chain receipt prices.nativeUsd
    match LiveLpExecutor.bookAdded db host ⟨trade.id, action, pool, feeUsd, now⟩ quote prices receipt with
    | .ok _ => if Mode.LIVE = mode then liveCapital host quote pool prices receipt else 0
    | .error _ => 0
  | _ => 0

theorem Books.of_frame {capital : Int} {a b c : Db} (h : Books mode a b capital) (hf : TradeFrame db a) (hf' : TradeFrame b c) :
    Books mode db c capital := by
  obtain ⟨_, _, _, rfl⟩ := hf
  obtain ⟨_, _, _, rfl⟩ := hf'
  exact ⟨h.sound, h.accounted⟩

theorem sound_of_frame (hs : Sound db) (hf : TradeFrame db db') : Sound db' := by
  obtain ⟨_, _, _, rfl⟩ := hf
  exact hs

theorem execute_books {now filledAt : Int} {tradeId : String} {action : ProposedAction} {plan : LpPlan R}
    {pool : LpPoolState} {prices : LpFillPrices} (host : Host) (hs : Sound db) :
    Books mode db (step host db (.paper now tradeId action plan pool prices filledAt))
      (bookedIn host mode db (.paper now tradeId action plan pool prices filledAt)) := by
  have hstep : step host db (.paper now tradeId action plan pool prices filledAt) =
      match PaperLpExecutor.execute db now tradeId action plan pool prices filledAt with
      | .ok out => out.1
      | .error _ => db := rfl
  rw [hstep]
  cases hx : PaperLpExecutor.execute db now tradeId action plan pool prices filledAt with
  | error e =>
    cases plan with
    | add quote =>
      unfold bookedIn
      dsimp only
      rw [hx]
      exact .refl hs
    | remove quote closes => exact .refl hs
    | claim p => exact .refl hs
  | ok out =>
    rcases PaperLpExecutor.execute_ok hx with ⟨hf, hfail⟩ | ⟨hfilled, started, fee, applied, hf, ha, hf'⟩
    · have hrefl := (show Books mode db db 0 from .refl hs).of_frame (.refl db) hf
      cases plan with
      | add quote =>
        unfold bookedIn
        dsimp only
        rw [hx]
        dsimp only
        rw [if_neg (by rw [hfail]; exact fun hc => by cases hc.1)]
        exact hrefl
      | remove quote closes => exact hrefl
      | claim p => exact hrefl
    · have hs' := sound_of_frame hs hf
      unfold PaperLpExecutor.apply at ha
      cases plan with
      | add quote =>
        simp only [bind_ok, pure_ok] at ha
        obtain ⟨add, hadd, written, hw, rfl⟩ := ha
        have hcap : paperCapital quote pool prices = add.capital := by
          unfold paperCapital
          rw [hadd]
        have h0 : 0 ≤ add.capital := paperAdd_nonneg hadd
        unfold bookedIn
        dsimp only
        rw [hx]
        dsimp only
        rw [hfilled, hcap]
        simp only [true_and]
        exact (writeAdd_books hs' h0 hw).of_frame hf hf'
      | remove quote closes =>
        simp only [bind_ok, pure_ok] at ha
        obtain ⟨remove, -, written, hw, rfl⟩ := ha
        exact (writeRemove_books hs' hw).of_frame hf hf'
      | claim p => cases ha

theorem Books.closed {capital now : Int} {tradeId : String} {fill : TradeStore.Filled} (h : Books mode db db' capital) :
    Books mode db (match TradeStore.markFilled db' now tradeId fill with
      | .error _ => db'
      | .ok closed => closed.1) capital := by
  split
  · exact h
  · rename_i hc
    exact h.of_frame (.refl db) (transition_frame hc)

theorem book_books {now : Int} {trade : TradeRow} {action : ProposedAction} {plan : LpPlan R} {pool : LpPoolState}
    {prices : LpFillPrices} {receipt : LpReceipt} (host : Host) (hs : Sound db) :
    Books mode db (step host db (.live now trade action plan pool prices receipt))
      (bookedIn host mode db (.live now trade action plan pool prices receipt)) := by
  have hstep : step host db (.live now trade action plan pool prices receipt) =
      (LiveLpExecutor.book db now host trade action plan pool prices receipt).1 := rfl
  obtain ⟨fill, hbook⟩ : ∃ fill, (LiveLpExecutor.book db now host trade action plan pool prices receipt).1 = _ :=
    LiveLpExecutor.book_fst
  rw [hstep, hbook]
  cases plan with
  | add quote =>
    unfold LiveLpExecutor.bookLedger bookedIn
    dsimp only
    cases hb : LiveLpExecutor.bookAdded db host ⟨trade.id, action, pool, _, now⟩ quote prices receipt with
    | error e => exact .refl hs
    | ok written =>
      obtain ⟨capital, hc, hbooks⟩ := bookAdded_books mode hs hb
      have hcap : liveCapital host quote pool prices receipt = capital := by
        unfold liveCapital
        dsimp only
        rw [show LiveLpExecutor.sidesUsd pool prices _ _ .ceil = .ok capital from hc]
      dsimp only
      rw [hcap]
      exact hbooks.closed
  | remove quote closes =>
    unfold LiveLpExecutor.bookLedger
    dsimp only
    cases hb : LiveLpExecutor.bookRemoved db host ⟨trade.id, action, pool, _, now⟩ quote prices receipt with
    | error e => exact .refl hs
    | ok written => exact (bookRemoved_books hs hb).closed
  | claim p =>
    unfold LiveLpExecutor.bookLedger
    dsimp only
    cases hb : LiveLpExecutor.bookClaimed db host ⟨trade.id, action, pool, _, now⟩ prices receipt with
    | error e => exact .refl hs
    | ok written => exact (bookClaimed_books hs hb).closed

theorem bookReconciled_books {now : Int} {trade : TradeRow} {receipt : LpReceipt} (host : Host) (hs : Sound db)
    (hr : ¬ Recovers db trade) :
    Books mode db (step host db (.reconciled now trade receipt : Event R))
      (bookedIn host mode db (.reconciled now trade receipt : Event R)) := by
  have hstep : step host db (.reconciled now trade receipt : Event R) =
      (LiveLpExecutor.bookReconciled db now host trade receipt).1 := rfl
  rw [hstep]
  show Books mode db _ 0
  unfold LiveLpExecutor.bookReconciled
  split
  · exact .refl hs
  · rename_i filled hf
    have hframe := transition_frame hf
    obtain ⟨trades, cooldowns, last, hfilled⟩ := hframe
    have hr' : ¬ Recovers filled.1 trade := by
      rw [hfilled]
      exact hr
    have hs' : Sound filled.1 := by
      rw [hfilled]
      exact hs
    split
    · exact (Books.refl hs').of_frame (transition_frame hf) (.refl _)
    · rename_i written hw
      exact (reconcileLedger_books hs' hw hr').of_frame (transition_frame hf) (.refl _)

/-- The steps that keep the account: every one but a recovered removal from a position that has a cost. -/
def Keeps (db : Db) : Event R → Prop
  | .reconciled _ trade _ => ¬ Recovers db trade
  | _ => True

theorem step_books {host : Host} {e : Event R} (mode : Mode) (hs : Sound db) (hk : Keeps db e) :
    Books mode db (step host db e) (bookedIn host mode db e) := by
  cases e with
  | paper => exact execute_books host hs
  | live => exact book_books host hs
  | reconciled => exact bookReconciled_books host hs hk
  | elsewhere other => exact ⟨hs, (Int.add_zero _).symm⟩

/-- **Every released LP cost basis reaches the P&L rows**, in every run from an empty LP ledger in which no recovered removal
burns from a position that has a cost: the cost on a mode's rows is the capital its adds booked in less the capital of its open
positions. -/
theorem released_cost_accounted (host : Host) (mode : Mode) (hp : db.lpPositions.rows = []) (hl : db.lpPnl = [])
    (es : List (Event R)) (hk : History.Along (step host) Keeps db es) :
    releasedRows mode (History.after (step host) db es) =
      History.tally (step host) (bookedIn host mode) db es - openCapital mode (History.after (step host) db es) := by
  have h0 : Sound db ∧ accounted mode db = 0 := by
    constructor
    · intro r hr
      rw [hp] at hr
      cases hr
    · unfold accounted releasedRows openCapital capitalOver Table.totalOver Table.total
      rw [hp, hl]
      rfl
  have hrun : Sound (History.after (step host) db es) ∧ accounted mode (History.after (step host) db es) =
      History.tally (step host) (bookedIn host mode) db es :=
    History.tally_along (P := fun db total => Sound db ∧ accounted mode db = total) h0
      (fun _ _ _ hk h => ⟨(step_books mode h.1 hk).sound, by rw [(step_books mode h.1 hk).accounted, h.2]⟩) hk
  have hacc := hrun.2
  unfold accounted at hacc
  omega

/-! ### A position booked live, and its removal recovered -/

def liveAdd : ProposedAction := { Engine.paperAdd with mode := .LIVE }

def broadcastRow (id : String) (kind : ActionKind) (lpTokens : Option String) : TradeRow :=
  { id, actionId := id, decisionCycleId := liveAdd.decisionCycleId, mode := .LIVE, chain := .bsc
    protocol := "pancakeswap-v2", kind, side := .open, marketKey := "", tokenIn := liveAdd.tokenIn.address
    tokenOut := liveAdd.tokenOut.address, tokenInDecimals := some 18, tokenOutDecimals := some 18, quotePrices := none
    amountIn := liveAdd.amountIn, expectedOut := none, minOut := none, filledOut := none, feeNative := none, feeUsd := none
    amountInUsd := none, status := .broadcast, rejectionCode := none, txHash := some "0xfeed"
    route := ⟨true, some PaperWallet.bnbPool.poolId, lpTokens⟩, rationale := none, error := none
    proposedAt := 1700000000000, updatedAt := 1700000000000, filledAt := none }

def addRow : TradeRow := broadcastRow "t1" .lp_add none

def removeRow : TradeRow := broadcastRow "t2" .lp_remove (some "660000000000000000")

def twoBroadcast : Db := { Db.empty with trades := (Table.empty.put addRow).put removeRow }

def addReceipt : LpReceipt :=
  { hash := "0xfeed", status := .confirmed, feeNative := some 100000000000000, error := none
    received := recordOf [(PaperWallet.bnbPool.poolId, "660000000000000000")]
    sent := recordOf [(liveAdd.tokenIn.address, "19999999999999999800"), (liveAdd.tokenOut.address, "33333333333333333")] }

def removeReceipt : LpReceipt :=
  { addReceipt with
    received := recordOf [(liveAdd.tokenIn.address, "19999999999999999800"), (liveAdd.tokenOut.address, "33333333333333333")]
    sent := recordOf [(PaperWallet.bnbPool.poolId, "660000000000000000")] }

def bookedAdd : Event Unit :=
  .live 1700000000000 addRow liveAdd (.add PaperWallet.bnbAdd) PaperWallet.bnbPool ⟨"1", "600", "600"⟩ addReceipt

/-- The add is booked with its cost; the removal is found confirmed after a restart. -/
def recoveredRun : List (Event Unit) := [bookedAdd, .reconciled 1700000001000 removeRow removeReceipt]

theorem recovered_cost_lost : ¬ ∀ (host : Host) (mode : Mode) (db : Db) (es : List (Event Unit)),
    db.lpPositions.rows = [] → db.lpPnl = [] →
    releasedRows mode (History.after (step host) db es) =
      History.tally (step host) (bookedIn host mode) db es - openCapital mode (History.after (step host) db es) := by
  intro h
  have hrun := h Engine.paperAddHost .LIVE twoBroadcast recoveredRun (by decide +kernel) rfl
  revert hrun
  decide +kernel

/-- The same removal booked by the executor that sent it. -/
def bookedRun : List (Event Unit) :=
  let quote : LpRemoveQuote Unit :=
    { chain := .bsc, protocol := "pancakeswap-v2", poolId := PaperWallet.bnbPool.poolId, contract := liveAdd.contract
      lpTokens := "660000000000000000", expected0 := "0", expected1 := "0", min0 := "0", min1 := "0", slippageBps := 50
      quotedAt := 1700000000000, source := "pancakeswap-v2", feeEstimate := liveAdd.feeEstimate, routeData := none }
  [bookedAdd, .live 1700000001000 removeRow { liveAdd with kind := .lp_remove } (.remove quote true) PaperWallet.bnbPool
    ⟨"1", "600", "600"⟩ removeReceipt]

theorem booked_cost_accounted :
    releasedRows .LIVE (History.after (step Engine.paperAddHost) twoBroadcast bookedRun) = 40000000 := by
  rw [released_cost_accounted Engine.paperAddHost .LIVE (by decide +kernel) rfl bookedRun ⟨trivial, trivial, trivial⟩]
  decide +kernel

end LpAccount
end Atra
