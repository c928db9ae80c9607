import Atra.LiveLpRuns
import Atra.TwoRuns
/-!
# LiveBooking — what booking a confirmed transaction needs

A fill is recorded exactly when its texts can be read (`recordFill_returns`), and an LP booking reads the liquidity ledger
alone (`together_bookLedger`).  A confirmed row is closed where its booking can be made, and left as it is where not.
-/
namespace Atra

open Money Live

variable {R : Type} {p q : Process} {tradeId : String} {row : TradeRow}

/-! ## What a fill needs -/

/-- A text that reads as a positive number. -/
def Positive (x : Result Int) : Prop := ∃ n, x = .ok n ∧ 0 < n

/-- A fill the ledger can record. -/
structure RecordFillInput.Readable (input : RecordFillInput) : Prop where
  amountIn : Positive (amountToBigint input.amountIn)
  amountOut : Positive (amountToBigint input.amountOut)
  priceIn : Positive (priceToAtto input.priceInUsd)
  priceOut : Positive (priceToAtto input.priceOutUsd)
  fee : Returns (usdToMicros input.feeUsd)
  decimalsIn : input.tokenIn.decimals ≤ 36
  decimalsOut : input.tokenOut.decimals ≤ 36

theorem returns_nativeToUsdMicros_floor {amount price : Int} {decimals : Nat} (ha : 0 ≤ amount) :
    Returns (nativeToUsdMicros amount decimals price .floor) ↔ decimals ≤ 36 ∧ 0 < price :=
  ⟨fun ⟨_, h⟩ => nativeToUsdMicros_guards h, fun ⟨hd, hp⟩ => ⟨_, nativeToUsdMicros_floor hd hp ha⟩⟩

/-- A LIVE fill of a known trade is written: no balance stands in its way. -/
theorem writeFill_returns {db : Db} {now : Int} {input : RecordFillInput} (hmode : input.mode = .LIVE)
    (hrow : (db.trades.get input.tradeId).isSome) (amountIn amountOut : Nat) (value fee : Int) :
    Returns (LedgerService.writeFill db now input amountIn amountOut value fee) := by
  unfold LedgerService.writeFill
  dsimp only
  obtain ⟨held, hr⟩ : ∃ positions, (LedgerService.reducePosition db input.mode input.chain input.tokenIn.address amountIn value
      input.filledAt).1 = { db with positions } := LedgerService.reducePosition_eq
  rw [hr]
  obtain ⟨_, ha⟩ : ∃ positions, LedgerService.addPosition { db with positions := held } input.mode input.chain
      input.tokenOut.address input.tokenOut.decimals amountOut value input.filledAt = { db with positions } :=
    LedgerService.addPosition_eq
  rw [ha]
  unfold LedgerService.payPaper
  rw [if_neg (by rw [hmode]; decide)]
  have hsome : ¬ (db.trades.get input.tradeId).isNone = true := by
    rw [Option.isNone_iff_eq_none]
    exact Option.isSome_iff_ne_none.1 hrow
  exact ⟨_, if_neg hsome⟩

/-- **A LIVE fill of a known trade is recorded exactly when it can be read.** -/
theorem recordFill_returns {db : Db} {now : Int} {input : RecordFillInput} (hmode : input.mode = .LIVE)
    (hrow : (db.trades.get input.tradeId).isSome) :
    Returns (LedgerService.recordFill db now input) ↔ input.Readable := by
  unfold LedgerService.recordFill
  constructor
  · rintro ⟨out, h⟩
    simp only [bind_ok] at h
    obtain ⟨amountIn, hin, amountOut, hout, priceIn, hpi, priceOut, hpo, fee, hfee, h⟩ := h
    split at h
    · cases h
    · rename_i hpos
      simp only [bind_ok] at h
      obtain ⟨_, hvi, _, hvo, -⟩ := h
      obtain ⟨hdi, hpi'⟩ := nativeToUsdMicros_guards hvi
      obtain ⟨hdo, hpo'⟩ := nativeToUsdMicros_guards hvo
      exact ⟨⟨_, hin, by omega⟩, ⟨_, hout, by omega⟩, ⟨_, hpi, hpi'⟩, ⟨_, hpo, hpo'⟩, ⟨_, hfee⟩, hdi, hdo⟩
  · rintro ⟨⟨amountIn, hin, hin'⟩, ⟨amountOut, hout, hout'⟩, ⟨priceIn, hpi, hpi'⟩, ⟨priceOut, hpo, hpo'⟩, ⟨fee, hfee⟩,
      hdi, hdo⟩
    obtain ⟨vi, hvi⟩ := (returns_nativeToUsdMicros_floor hin'.le).2 ⟨hdi, hpi'⟩
    obtain ⟨vo, hvo⟩ := (returns_nativeToUsdMicros_floor hout'.le).2 ⟨hdo, hpo'⟩
    obtain ⟨out, hw⟩ : Returns (LedgerService.writeFill db now input amountIn.toNat amountOut.toNat vi fee) :=
      writeFill_returns hmode hrow ..
    refine ⟨out, ?_⟩
    simp only [bind_ok]
    refine ⟨amountIn, hin, amountOut, hout, priceIn, hpi, priceOut, hpo, fee, hfee, ?_⟩
    rw [if_neg (by omega)]
    simp only [bind_ok]
    exact ⟨vi, hvi, vo, hvo, hw⟩

/-! ## Closing a row -/

/-- The rows of the other trades are as they were. -/
def OthersKept (q : Process) (tradeId : String) (t : Process) : Prop :=
  ∀ id, id ≠ tradeId → TradeStore.get t.db id = TradeStore.get q.db id

theorem OthersKept.refl (q : Process) (tradeId : String) : OthersKept q tradeId q := fun _ _ => rfl

theorem OthersKept.trans {a b c : Process} (h : OthersKept a tradeId b) (h' : OthersKept b tradeId c) :
    OthersKept a tradeId c := fun id hid => (h' id hid).trans (h id hid)

theorem transition_ensures {current : TradeRow} {next : TradeStatus} {fields : Int → TradeRow → TradeRow}
    (hg : TradeStore.get q.db tradeId = some current) (hm : next ∈ TradeStore.TRANSITIONS current.status) :
    Script.Ensures (write fun db now => TradeStore.transition db now tradeId next (fields now)) q
      (fun _ t => signedBy t = signedBy q ∧ t.db.lpPositions = q.db.lpPositions ∧ OthersKept q tradeId t ∧
        ∃ moved, TradeStore.get t.db tradeId = some moved ∧
          moved = { fields q.clock current with id := tradeId, status := next, updatedAt := q.clock })
      fun _ _ => False := by
  rw [ensures_write]
  constructor
  · intro out hout
    obtain ⟨current', hc, -, hrow, hdb⟩ := TradeStore.transition_ok.1 hout
    obtain rfl := Option.some.inj (hg.symm.trans hc)
    refine ⟨(signedBy_emit (q := { q with db := out.1 }) (.wrote out.1)).trans (List.append_nil _), by rw [hdb],
      fun id hid => ?_, out.2, ?_, hrow⟩
    · show TradeStore.get out.1 id = _
      rw [hdb]
      show (q.db.trades.put out.2).get id = q.db.trades.get id
      rw [Table.get_put, if_neg (by rw [hrow]; exact hid)]
    · show TradeStore.get out.1 tradeId = _
      rw [hdb]
      show (q.db.trades.put out.2).get tradeId = some out.2
      rw [Table.get_put, if_pos (by rw [hrow])]
  · intro e he
    obtain ⟨out, hout⟩ : Returns (TradeStore.transition q.db q.clock tradeId next (fields q.clock)) :=
      TradeStore.transition_of_mem hg hm
    rw [hout] at he
    cases he

/-- **A broadcast row is closed**, with the hash its fill names. -/
theorem markFilled_ensures {current : TradeRow} {fill : TradeStore.Filled}
    (hg : TradeStore.get q.db tradeId = some current) (hs : current.status = .broadcast) :
    Script.Ensures (write fun db now => TradeStore.markFilled db now tradeId fill) q
      (fun _ t => signedBy t = signedBy q ∧ t.db.lpPositions = q.db.lpPositions ∧ OthersKept q tradeId t ∧
        ∃ closed, TradeStore.get t.db tradeId = some closed ∧ closed.status = .filled ∧
          closed.txHash = TradeStore.filledHash current fill)
      fun _ _ => False := by
  refine (transition_ensures hg (by rw [hs]; decide)).mono ?_ fun _ _ hfalse => hfalse
  rintro _ t ⟨hsigned, hlp, hothers, closed, hg', rfl⟩
  exact ⟨hsigned, hlp, hothers, _, hg', rfl, rfl⟩

namespace LiveExecutor

/-- A confirmed row that can be closed: its fill is not booked, or can be read. -/
def Bookable (trade : TradeRow) (receipt : ExecutionReceipt) (prices : QuotePrices) (decimals : Option PairDecimals) :
    Prop :=
  booked trade prices = true → (fillInput trade receipt prices decimals 0).Readable

variable {trade : TradeRow} {receipt : ExecutionReceipt} {prices : QuotePrices} {decimals : Option PairDecimals}

/-- What a booking reads of a row stays as it was proposed. -/
theorem bookable_same (h : SameTrade row trade) :
    Bookable trade receipt prices decimals ↔ Bookable row receipt prices decimals := by
  obtain ⟨_, _, _, _, _, rfl⟩ := h
  exact Iff.rfl

theorem recordFill_frame {db : Db} {now : Int} {input : RecordFillInput} {out : Db × FillRow}
    (h : LedgerService.recordFill db now input = .ok out) : out.1.trades = db.trades ∧ out.1.lpPositions = db.lpPositions := by
  obtain ⟨f, paid, hp, hout, -⟩ := LedgerService.recordFill_ok h
  obtain ⟨_, rfl⟩ := LedgerService.payPaper_eq hp
  obtain ⟨_, hb⟩ : ∃ positions, f.bought (f.sold db) = { db with positions } := f.bought_eq
  rw [hout, hb]
  exact ⟨rfl, rfl⟩

theorem writeLedger_ensures (hrow : (TradeStore.get q.db trade.id).isSome) :
    Script.Ensures (writeLedger trade receipt prices decimals) q
      (fun _ t => Bookable trade receipt prices decimals ∧ signedBy t = signedBy q ∧ t.db.trades = q.db.trades ∧
        t.db.lpPositions = q.db.lpPositions)
      fun _ t => ¬ Bookable trade receipt prices decimals ∧ t = q := by
  unfold writeLedger Bookable
  by_cases hb : booked trade prices = true
  · rw [if_pos hb, Script.ensures_bind, ensures_write]
    have hiff : Returns (LedgerService.recordFill q.db q.clock (fillInput trade receipt prices decimals q.clock)) ↔
        (fillInput trade receipt prices decimals 0).Readable := by
      have hread : Returns (LedgerService.recordFill q.db q.clock (fillInput trade receipt prices decimals q.clock)) ↔
          (fillInput trade receipt prices decimals q.clock).Readable := recordFill_returns rfl hrow
      rw [hread]
      -- the time of a fill is not read
      exact ⟨fun ⟨a, b, c, d, e, f, g⟩ => ⟨a, b, c, d, e, f, g⟩, fun ⟨a, b, c, d, e, f, g⟩ => ⟨a, b, c, d, e, f, g⟩⟩
    constructor
    · intro out hout
      obtain ⟨htrades, hlp⟩ := recordFill_frame hout
      exact ⟨fun _ => hiff.1 ⟨out, hout⟩,
        (signedBy_emit (q := { q with db := out.1 }) (.wrote out.1)).trans (List.append_nil _), htrades, hlp⟩
    · intro e he
      refine ⟨fun hr => ?_, rfl⟩
      obtain ⟨out, hout⟩ := hiff.2 (hr hb)
      rw [hout] at he
      cases he
  · rw [if_neg hb]
    exact ⟨fun h => absurd h hb, rfl, rfl, rfl⟩

/-- **A confirmed row is closed when its fill can be booked**, and left as it is when not. -/
theorem bookFill_ensures {current : TradeRow} (hg : TradeStore.get q.db trade.id = some current)
    (hs : current.status = .broadcast) :
    Script.Ensures (bookFill trade receipt prices decimals) q
      (fun _ t => Bookable trade receipt prices decimals ∧ signedBy t = signedBy q ∧ t.db.lpPositions = q.db.lpPositions ∧
        OthersKept q trade.id t ∧ ∃ closed, TradeStore.get t.db trade.id = some closed ∧ closed.status = .filled ∧
        closed.txHash = TradeStore.filledHash current
          (closing trade receipt (feeUsdOf trade.chain receipt prices.nativeUsd)))
      fun _ t => ¬ Bookable trade receipt prices decimals ∧ t = q := by
  unfold bookFill
  dsimp only
  rw [Script.ensures_bind]
  refine (writeLedger_ensures (by rw [hg]; rfl)).mono ?_ fun _ t h => h
  rintro _ t ⟨hb, hsigned, htrades, hlp⟩
  have hkept : ∀ id, TradeStore.get t.db id = TradeStore.get q.db id := fun id => by
    unfold TradeStore.get
    rw [htrades]
  rw [Script.ensures_bind]
  refine (markFilled_ensures ((hkept _).trans hg) hs).mono ?_ fun _ _ hfalse => hfalse.elim
  rintro _ t' ⟨hsigned', hlp', hothers, hclosed⟩
  exact ⟨hb, hsigned'.trans hsigned, hlp'.trans hlp, fun id hid => (hothers id hid).trans (hkept id), hclosed⟩

end LiveExecutor

/-! ## What an LP booking needs -/

theorem returns_iff_of_alike {ε α β : Type} {S : α → β → Prop} {x : Except ε α} {y : Except ε β} (h : Alike S x y) :
    Returns x ↔ Returns y := by
  cases h with
  | ok h => exact ⟨fun _ => ⟨_, rfl⟩, fun _ => ⟨_, rfl⟩⟩
  | error e =>
    constructor
    · rintro ⟨_, h⟩
      cases h
    · rintro ⟨_, h⟩
      cases h

namespace LiveLpExecutor

section
variable {db db' : Db} {time : Int}

/-- Both return, or both throw the same. -/
abbrev Together {α β : Type} (x : Result α) (y : Result β) : Prop := Alike (fun _ _ => True) x y

theorem together_bookAdd (hf : TradeFrame db db') (i : BookAddInput) (time : Int) :
    Together (LiquidityStore.bookAdd db' { i with time }) (LiquidityStore.bookAdd db i) := by
  obtain ⟨trades, cooldowns, lastAnyActionAt, rfl⟩ := hf
  unfold LiquidityStore.bookAdd
  refine .bind_same fun added => ?_
  by_cases ha : added ≤ 0
  · rw [if_pos ha, if_pos ha]
    exact .error _
  · rw [if_neg ha, if_neg ha]
    have hrow : Together (LiquidityStore.addedRow { db with trades, cooldowns, lastAnyActionAt } { i with time } added.toNat)
        (LiquidityStore.addedRow db i added.toNat) := by
      unfold LiquidityStore.addedRow
      dsimp only
      have hget : LiquidityStore.getPosition { db with trades, cooldowns, lastAnyActionAt } i.mode i.chain i.protocol i.poolId =
          LiquidityStore.getPosition db i.mode i.chain i.protocol i.poolId := rfl
      rw [hget]
      cases LiquidityStore.getPosition db i.mode i.chain i.protocol i.poolId with
      | none => exact .bind_same fun _ => .ok trivial
      | some existing => exact .bind_same fun _ => .bind_same fun _ => .bind_same fun _ => .ok trivial
    exact hrow.bind fun _ _ _ => .ok trivial

theorem together_bookRemove (hf : TradeFrame db db') (i : BookRemoveInput) (time : Int) :
    Together (LiquidityStore.bookRemove db' { i with time }) (LiquidityStore.bookRemove db i) := by
  obtain ⟨trades, cooldowns, lastAnyActionAt, rfl⟩ := hf
  unfold LiquidityStore.bookRemove
  refine .bind_same fun burned => ?_
  have hget : LiquidityStore.getPosition { db with trades, cooldowns, lastAnyActionAt } i.mode i.chain i.protocol i.poolId =
      LiquidityStore.getPosition db i.mode i.chain i.protocol i.poolId := rfl
  dsimp only
  rw [hget]
  cases LiquidityStore.getPosition db i.mode i.chain i.protocol i.poolId with
  | none => exact .error _
  | some existing =>
    dsimp only
    by_cases hb : burned ≤ 0 ∨ burned > (existing.lpTokens : Int)
    · rw [if_pos hb, if_pos hb]
      exact .error _
    · rw [if_neg hb, if_neg hb]
      by_cases hz : (existing.lpTokens : Int) - burned = 0
      · rw [if_pos hz, if_pos hz]
        exact .ok trivial
      · rw [if_neg hz, if_neg hz]
        exact .bind_same fun _ => .bind_same fun _ => .ok trivial

/-- **An LP booking reads the liquidity ledger alone**: a trade on its way, and the time, change nothing of whether it can be
made. -/
theorem together_bookLedger (hf : TradeFrame db db') (host : Host) (b : Booking) (time : Int) (plan : LpPlan R)
    (prices : LpFillPrices) (receipt : LpReceipt) :
    Together (bookLedger db' host { b with filledAt := time } plan prices receipt)
      (bookLedger db host b plan prices receipt) := by
  cases plan with
  | add quote =>
    refine .bind_same fun capital => ?_
    have hadd := together_bookAdd hf (b.addInput (addAmounts host b.pool quote receipt)
      (chainAmount host receipt.received b.pool.poolId quote.minLpTokens) capital) time
    exact hadd.bind fun _ _ _ => .bind_same fun _ => .ok trivial
  | remove quote closes =>
    refine .bind_same fun proceeds => ?_
    obtain ⟨trades, cooldowns, lastAnyActionAt, rfl⟩ := hf
    show Together (coversBurn (LiquidityStore.getPosition db .LIVE b.action.chain b.action.protocol b.pool.poolId)
      quote.lpTokens >>= _) _
    refine .bind_same fun covered => ?_
    cases covered with
    | true =>
      have hremove := @together_bookRemove db _ ⟨trades, cooldowns, lastAnyActionAt, rfl⟩
        { mode := .LIVE, chain := b.action.chain, protocol := b.action.protocol, poolId := b.pool.poolId
          lpTokens := quote.lpTokens, time := b.filledAt } time
      exact hremove.bind fun _ _ _ => .bind_same fun _ => .ok trivial
    | false => exact .bind_same fun _ => .ok trivial
  | claim p => exact .bind_same fun _ => .bind_same fun _ => .ok trivial

/-- The booking of a confirmed row, as its executor makes it. -/
def bookingOf (row : TradeRow) (action : ProposedAction) (pool : LpPoolState) (prices : LpFillPrices) (receipt : LpReceipt)
    (filledAt : Int) : Booking :=
  ⟨row.id, action, pool, feeUsdOf action.chain receipt prices.nativeUsd, filledAt⟩

/-- A confirmed LP row that can be closed: its booking can be made. -/
def Bookable (db : Db) (host : Host) (row : TradeRow) (action : ProposedAction) (plan : LpPlan R) (pool : LpPoolState)
    (prices : LpFillPrices) (receipt : LpReceipt) : Prop :=
  Returns (bookLedger db host (bookingOf row action pool prices receipt 0) plan prices receipt)

theorem bookLedger_trades {host : Host} {b : Booking} {plan : LpPlan R} {prices : LpFillPrices} {receipt : LpReceipt}
    {written : Db} (h : bookLedger db host b plan prices receipt = .ok written) : written.trades = db.trades := by
  cases plan with
  | add quote =>
    unfold bookLedger bookAdded at h
    simp only [bind_ok, pure_ok] at h
    obtain ⟨_, -, booked, hb, _, -, rfl⟩ := h
    obtain ⟨_, _, he⟩ := LiquidityStore.bookAdd_eq hb
    show booked.1.trades = db.trades
    rw [he]
  | remove quote closes =>
    unfold bookLedger bookRemoved at h
    simp only [bind_ok] at h
    obtain ⟨_, -, covered, -, h⟩ := h
    cases covered with
    | true =>
      unfold bookBurned at h
      simp only [if_true, bind_ok, pure_ok] at h
      obtain ⟨removed, hr, _, -, rfl⟩ := h
      obtain ⟨_, he⟩ := LiquidityStore.bookRemove_eq hr
      show removed.1.trades = db.trades
      rw [he]
    | false =>
      simp only [Bool.false_eq_true, if_false, bind_ok, pure_ok] at h
      obtain ⟨_, -, rfl⟩ := h
      rfl
  | claim p =>
    unfold bookLedger bookClaimed at h
    simp only [bind_ok, pure_ok] at h
    obtain ⟨_, -, _, -, rfl⟩ := h
    show (LiquidityStore.touchClaim ..).trades = db.trades
    unfold LiquidityStore.touchClaim
    split
    · rfl
    · rfl

/-- **A confirmed LP row is closed when its booking can be made**, and left as it is when not. -/
theorem bookConfirmed_ensures {x : LpLive R} {trade : TradeRow} {action : ProposedAction} {plan : LpPlan R}
    {pool : LpPoolState} {prices : LpFillPrices} {receipt : LpReceipt} (hf : TradeFrame p.db q.db)
    (hg : TradeStore.get q.db tradeId = some trade) (hs : trade.status = .broadcast) (hsame : SameTrade row trade) :
    Script.Ensures (bookConfirmed x trade action plan pool prices receipt) q
      (fun o t => o.status = .filled ∧ Bookable p.db x.host row action plan pool prices receipt ∧ signedBy t = signedBy q ∧
        ∃ closed, TradeStore.get t.db tradeId = some closed ∧ closed.status = .filled ∧
          ∃ fill : TradeStore.Filled, fill.txHash = some receipt.hash ∧ closed.txHash = TradeStore.filledHash trade fill)
      fun _ t => ¬ Bookable p.db x.host row action plan pool prices receipt ∧ t = q := by
  have hid : trade.id = tradeId := Table.key_of_get hg
  subst hid
  have hrow : row.id = trade.id := by
    obtain ⟨_, _, _, _, _, rfl⟩ := hsame
    rfl
  have hiff : Returns (bookLedger q.db x.host (bookingOf trade action pool prices receipt q.clock) plan prices receipt) ↔
      Bookable p.db x.host row action plan pool prices receipt := by
    have h := together_bookLedger hf x.host (bookingOf row action pool prices receipt 0) q.clock plan prices receipt
    unfold bookingOf at h ⊢
    rw [← hrow]
    exact returns_iff_of_alike h
  unfold bookConfirmed
  dsimp only
  rw [Script.ensures_bind, Script.ensures_get, Script.ensures_bind, ensures_write]
  constructor
  · intro out hout
    have hbooked : bookLedger q.db x.host (bookingOf trade action pool prices receipt q.clock) plan prices receipt =
        .ok out.1 := by
      obtain ⟨written, hw, he⟩ := bind_ok.1 (by simpa only [map_eq_pure_bind] using hout)
      rw [← pure_ok.1 he]
      exact hw
    have hg' : TradeStore.get { q with db := out.1, log := q.log ++ [.wrote out.1] : Process }.db trade.id = some trade := by
      show out.1.trades.get trade.id = some trade
      rw [bookLedger_trades hbooked]
      exact hg
    rw [Script.ensures_bind]
    refine (markFilled_ensures hg' hs).mono ?_ fun _ _ hfalse => hfalse.elim
    rintro _ t ⟨hsigned, -, -, closed, hcl, hcs, hch⟩
    have h1 := signedBy_emit (q := { q with db := out.1 }) (.wrote out.1)
    rw [List.append_nil] at h1
    exact ⟨rfl, hiff.1 ⟨_, hbooked⟩, hsigned.trans h1, closed, hcl, hcs, _, rfl, hch⟩
  · intro e he
    refine ⟨fun hb => ?_, rfl⟩
    obtain ⟨written, hw⟩ := hiff.2 hb
    have hmap : ((·, ()) <$> bookLedger q.db x.host (bookingOf trade action pool prices receipt q.clock) plan prices
        receipt : Result (Db × Unit)) = .ok (written, ()) := by
      rw [hw]
      rfl
    rw [show ((·, ()) <$> bookLedger q.db x.host ⟨trade.id, action, pool, _, q.clock⟩ plan prices receipt :
      Result (Db × Unit)) = .ok (written, ()) from hmap] at he
    cases he

end

end LiveLpExecutor

end Atra
