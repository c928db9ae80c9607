import Atra.EngineSound
import Atra.PaperFaults
/-!
# PaperAgreement — when a paper outcome and the ledger say the same

A trade that says it failed has booked nothing, and one that has booked something says so, unless the booking is committed and
a later statement fails: the move to `filled` before it is written, or its read-back or the audit entry of the fill while the
audit entry of the failure is written.
-/
namespace Atra

open Money Script

/-- The tables a paper fill is booked in. -/
structure PaperBooks where
  positions : Table PositionRow.key
  fills : List FillRow
  paperBalances : Table PaperBalanceRow.key
  lpPositions : Table LpPositionRow.key
  lpPnl : List LpPnlRow

def paperBooks (db : Db) : PaperBooks := ⟨db.positions, db.fills, db.paperBalances, db.lpPositions, db.lpPnl⟩

/-- What the end of a call, a value or a throw and the database it leaves, says of the ledger. -/
structure PaperAgrees {O : Type} (status : O → OutcomeStatus) (Recorded : Db → TradeRow → Prop) (tradeId : String)
    (db : Db) (ended : Result O × Db) : Prop where
  failed : (∃ outcome, ended.1 = .ok outcome ∧ status outcome = .failed) ∨
    (∃ row, TradeStore.get ended.2 tradeId = some row ∧ row.status = .failed) → paperBooks ended.2 = paperBooks db
  booked : paperBooks ended.2 ≠ paperBooks db →
    ∃ row, TradeStore.get ended.2 tradeId = some row ∧ row.status = .filled ∧ Recorded ended.2 row

/-- The row carries what was filled. -/
structure FilledWith (row : TradeRow) (fill : TradeStore.Filled) : Prop where
  out : row.filledOut = some fill.filledOut
  feeNative : row.feeNative = fill.feeNative
  feeUsd : row.feeUsd = some fill.feeUsd

/-- The statements that fail after the booking make the trade look failed. -/
def PaperFaults.lost (faults : PaperFaults) : Bool :=
  match faults.filled with
  | .before _ => true
  | .after _ => faults.failedAudit.isNone
  | .fine => faults.filledAudit.isSome && faults.failedAudit.isNone

section
variable {db : Db} {now filledAt : Int} {tradeId : String} {action : ProposedAction}

theorem TradeFrame.paperBooks {db' : Db} (h : TradeFrame db db') : paperBooks db' = paperBooks db := by
  obtain ⟨_, _, _, rfl⟩ := h
  rfl

namespace PaperTrade

variable {P O : Type} {trade : PaperTrade P O} {faults : PaperFaults}

/-- The booking of a trade is reached and goes through. -/
structure Commits (trade : PaperTrade P O) (faults : PaperFaults) (now : Int) (tradeId : String) (action : ProposedAction)
    (db : Db) (p : P) (started written : Db) : Prop where
  dispatched : faults.dispatched = .fine
  cooldowns : action.kind ≠ .approve → faults.cooldowns = none
  booking : faults.booking = none
  start : ∃ out, TradeStore.markDispatched db now tradeId = .ok out ∧ started = RiskGate.markDispatched out.1 now action
  offer : trade.offer = .ok (.ok p)
  book : trade.book started p = .ok written

theorem failedDb_frame (fault : Fault) (reason : String) : TradeFrame db (failedDb fault now tradeId reason db) := by
  unfold failedDb
  rw [exec_move]
  cases hm : TradeStore.markFailed db now tradeId reason with
  | error e =>
    cases fault with
    | fine => exact .refl db
    | before => exact .refl db
    | after => exact .refl db
  | ok out =>
    cases fault with
    | fine => exact transition_frame hm
    | before => exact .refl db
    | after => exact transition_frame hm

theorem fail_frame (trade : PaperTrade P O) (now : Int) (tradeId : String) (db : Db) (fault : Fault)
    (audit : Option AppError) (reason : String) :
    TradeFrame db ((trade.fail now tradeId fault audit reason).exec db).2 := by
  rw [exec_fail]
  exact failedDb_frame fault reason

/-- What is refused or thrown before the booking leaves the ledger alone. -/
theorem caught_frame {started : Db} {r : Result O} {t : Db} (h : (trade.body faults now tradeId).exec started = (r, t))
    (hframe : TradeFrame started t) : TradeFrame started ((tryCatch (trade.body faults now tradeId) fun e =>
      trade.fail now tradeId faults.failed faults.failedAudit e.message).exec started).2 := by
  rw [exec_tryCatch, h]
  cases r with
  | ok outcome => exact hframe
  | error e => exact hframe.trans (fail_frame ..)

/-- **A trade is booked, or the call touches its row and its cooldowns alone.** -/
theorem commits_or_frame (trade : PaperTrade P O) (faults : PaperFaults) (now : Int) (tradeId : String) (action : ProposedAction)
    (db : Db) :
    (∃ p started written, trade.Commits faults now tradeId action db p started written) ∨
      TradeFrame db ((trade.run faults now tradeId action).exec db).2 := by
  cases hout : TradeStore.markDispatched db now tradeId with
  | error e =>
    refine .inr ?_
    unfold run
    rw [exec_bind, exec_move, hout]
    cases faults.dispatched with
    | fine => exact .refl db
    | before => exact .refl db
    | after => exact .refl db
  | ok out =>
    cases hmove : faults.dispatched with
    | before e =>
      refine .inr ?_
      unfold run
      rw [exec_bind, exec_move, hmove]
      exact .refl db
    | after e =>
      refine .inr ?_
      unfold run
      rw [exec_bind, exec_move, hmove, hout]
      exact transition_frame hout
    | fine =>
      by_cases hcooldowns : action.kind ≠ .approve → faults.cooldowns = none
      swap
      · refine .inr ?_
        push Not at hcooldowns
        obtain ⟨e, he⟩ := Option.ne_none_iff_exists'.1 hcooldowns.2
        unfold run
        rw [exec_bind, exec_move, hmove, hout]
        dsimp only
        rw [exec_bind, exec_raise, if_neg hcooldowns.1, he]
        exact transition_frame hout
      have hstarted : TradeFrame db (RiskGate.markDispatched out.1 now action) := started_frame hout
      rw [exec_run hmove hcooldowns hout]
      generalize hs : RiskGate.markDispatched out.1 now action = started at hstarted
      have hbody := trade.exec_body faults now tradeId started
      cases hoffer : trade.offer with
      | error e =>
        rw [hoffer] at hbody
        exact .inr (hstarted.trans (caught_frame hbody (.refl _)))
      | ok offered =>
        cases offered with
        | error reason =>
          rw [hoffer] at hbody
          exact .inr (hstarted.trans (caught_frame hbody (fail_frame ..)))
        | ok p =>
          rw [hoffer] at hbody
          dsimp only at hbody
          rw [exec_settle] at hbody
          cases hbooking : faults.booking with
          | some e =>
            rw [hbooking] at hbody
            exact .inr (hstarted.trans (caught_frame hbody (.refl _)))
          | none =>
            rw [hbooking] at hbody
            cases hbook : trade.book started p with
            | error e =>
              rw [hbook] at hbody
              exact .inr (hstarted.trans (caught_frame hbody (.refl _)))
            | ok written =>
              exact .inl ⟨p, started, written, hmove, hcooldowns, hbooking, ⟨out, hout, hs.symm⟩, hoffer, hbook⟩

/-- The failure of a row that may still move leaves it dispatched or failed. -/
theorem failedDb_unfilled (now : Int) (fault : Fault) (reason : String) (h : Dispatched db tradeId) :
    ∃ row, TradeStore.get (failedDb fault now tradeId reason db) tradeId = some row ∧ row.status ≠ .filled := by
  obtain ⟨row, hrow, hstatus⟩ := h
  obtain ⟨out, hout⟩ : ∃ out, TradeStore.markFailed db now tradeId reason = .ok out :=
    TradeStore.transition_of_mem hrow (by rw [hstatus]; decide)
  obtain ⟨_, -, -, hnew, hdb⟩ := TradeStore.transition_ok.1 hout
  have hfailed : TradeStore.get out.1 tradeId = some out.2 := by
    rw [hdb]
    exact (Table.get_put _ _ _).trans (if_pos (by rw [hnew]))
  have hunfilled : out.2.status ≠ .filled := by
    rw [hnew]
    intro hs
    cases hs
  unfold failedDb
  rw [exec_move, hout]
  cases fault with
  | fine => exact ⟨out.2, hfailed, hunfilled⟩
  | before e => exact ⟨row, hrow, by rw [hstatus]; decide⟩
  | after e => exact ⟨out.2, hfailed, hunfilled⟩

theorem failedDb_filled (fault : Fault) (reason : String) {row : TradeRow} (hrow : TradeStore.get db tradeId = some row)
    (hstatus : row.status = .filled) : failedDb fault now tradeId reason db = db := by
  unfold failedDb
  rw [exec_move]
  cases hm : TradeStore.markFailed db now tradeId reason with
  | error e =>
    cases fault with
    | fine => rfl
    | before => rfl
    | after => rfl
  | ok out => exact absurd hm (TradeStore.transition_terminal hrow (by rw [hstatus]; rfl) out)

theorem markFilled_row {closed : Db × TradeRow} {fill : TradeStore.Filled}
    (h : TradeStore.markFilled db now tradeId fill = .ok closed) :
    TradeStore.get closed.1 tradeId = some closed.2 ∧ closed.2.status = .filled ∧ FilledWith closed.2 fill := by
  obtain ⟨_, -, -, hnew, hdb⟩ := TradeStore.transition_ok.1 h
  refine ⟨?_, ?_, ?_⟩
  · rw [hdb]
    exact (Table.get_put _ _ _).trans (if_pos (by rw [hnew]))
  · rw [hnew]
  · rw [hnew]
    exact ⟨rfl, rfl, rfl⟩

theorem Commits.exec {p : P} {started written : Db} (h : trade.Commits faults now tradeId action db p started written) :
    (trade.run faults now tradeId action).exec db =
      match (trade.close faults now tradeId p).exec written with
      | (.ok outcome, t) => (.ok outcome, t)
      | (.error e, t) => (trade.fail now tradeId faults.failed faults.failedAudit e.message).exec t := by
  obtain ⟨out, hout, rfl⟩ := h.start
  rw [exec_run h.dispatched h.cooldowns hout, exec_tryCatch, exec_body, h.offer]
  dsimp only
  rw [exec_settle, h.booking, h.book]
  dsimp only
  rcases (trade.close faults now tradeId p).exec written with ⟨_ | outcome, t⟩
  · rfl
  · rfl

theorem Commits.started_frame {p : P} {started written : Db}
    (h : trade.Commits faults now tradeId action db p started written) : TradeFrame db started := by
  obtain ⟨out, hout, rfl⟩ := h.start
  exact Atra.started_frame hout

variable {status : O → OutcomeStatus} {Recorded : Db → TradeRow → Prop}

/-- **A booked trade agrees with the ledger exactly when no later error is taken for its failure.** -/
theorem Commits.agrees_iff {p : P} {started written : Db}
    (h : trade.Commits faults now tradeId action db p started written)
    (hfailure : ∀ reason, status (trade.failure reason) = .failed) (houtcome : status (trade.outcome p) = .filled)
    (htrades : written.trades = started.trades) (hbooks : paperBooks written ≠ paperBooks started)
    (hrecorded : ∀ db' row, paperBooks db' = paperBooks written → FilledWith row (trade.filled p) → Recorded db' row) :
    PaperAgrees status Recorded tradeId db ((trade.run faults now tradeId action).exec db) ↔ faults.lost = false := by
  have hopen : Dispatched written tradeId := by
    obtain ⟨out, hout, rfl⟩ := h.start
    exact (started_dispatched hout).of_trades htrades
  obtain ⟨closed, hclosed⟩ := hopen.markFilled now (trade.filled p)
  obtain ⟨hrow, hfilled, hwith⟩ := markFilled_row hclosed
  have hsame : paperBooks closed.1 = paperBooks written := (transition_frame hclosed).paperBooks
  have hchanged : ∀ {t : Db}, paperBooks t = paperBooks written → paperBooks t ≠ paperBooks db := by
    intro t ht
    rw [ht, ← h.started_frame.paperBooks]
    exact hbooks
  -- A call that reports nothing, over a filled row, says what was booked.
  have hquiet : ∀ {r : Result O}, (∀ outcome, r = .ok outcome → status outcome ≠ .failed) →
      PaperAgrees status Recorded tradeId db (r, closed.1) := by
    intro r hr
    refine ⟨?_, fun _ => ⟨closed.2, hrow, hfilled, hrecorded _ _ hsame hwith⟩⟩
    rintro (⟨outcome, hok, hs⟩ | ⟨row, hget, hs⟩)
    · exact absurd hs (hr outcome hok)
    · obtain rfl := Option.some.inj (hrow.symm.trans hget)
      rw [hfilled] at hs
      cases hs
  -- An error after the row is closed agrees only when the failure is not reported either.
  have hlate : ∀ e : AppError, PaperAgrees status Recorded tradeId db
      ((trade.fail now tradeId faults.failed faults.failedAudit e.message).exec closed.1) ↔ faults.failedAudit.isNone = false := by
    intro e
    rw [exec_fail, failedDb_filled _ _ hrow hfilled]
    cases faults.failedAudit with
    | none =>
      refine ⟨fun hagrees => absurd (hagrees.failed (.inl ⟨_, rfl, hfailure _⟩)) (hchanged hsame), fun hnone => ?_⟩
      cases hnone
    | some e' => exact ⟨fun _ => rfl, fun _ => hquiet fun outcome hok => by cases hok⟩
  rw [h.exec, exec_close, hclosed]
  unfold PaperFaults.lost
  cases faults.filled with
  | before e =>
    dsimp only
    refine ⟨fun hagrees => ?_, fun hlost => by cases hlost⟩
    rw [exec_fail] at hagrees
    obtain ⟨row, hget, hunfilled⟩ := failedDb_unfilled now faults.failed e.message hopen
    obtain ⟨row', hget', hfilled', -⟩ := hagrees.booked (hchanged (failedDb_frame _ _).paperBooks)
    obtain rfl := Option.some.inj (hget.symm.trans hget')
    exact absurd hfilled' hunfilled
  | after e => exact hlate e
  | fine =>
    cases faults.filledAudit with
    | none => exact ⟨fun _ => rfl, fun _ => hquiet fun outcome hok hs => by cases hok; rw [houtcome] at hs; cases hs⟩
    | some e => exact hlate e

/-- **A trade agrees with the ledger** exactly when it is not booked, or no later error is taken for its failure. -/
theorem run_agrees (hfailure : ∀ reason, status (trade.failure reason) = .failed)
    (houtcome : ∀ p, status (trade.outcome p) = .filled)
    (hbook : ∀ db p written, trade.book db p = .ok written →
      written.trades = db.trades ∧ paperBooks written ≠ paperBooks db)
    (hrecorded : ∀ p started written db' row, trade.Commits faults now tradeId action db p started written →
      paperBooks db' = paperBooks written → FilledWith row (trade.filled p) → Recorded db' row) :
    PaperAgrees status Recorded tradeId db ((trade.run faults now tradeId action).exec db) ↔
      ((∃ p started written, trade.Commits faults now tradeId action db p started written) → faults.lost = false) := by
  rcases trade.commits_or_frame faults now tradeId action db with hcommits | hframe
  · obtain ⟨p, started, written, h⟩ := hcommits
    obtain ⟨htrades, hbooks⟩ := hbook started p written h.book
    rw [h.agrees_iff hfailure (houtcome p) htrades hbooks fun db' row => hrecorded p started written db' row h]
    exact ⟨fun hlost _ => hlost, fun hlost => hlost ⟨p, started, written, h⟩⟩
  · have hagrees : PaperAgrees status Recorded tradeId db ((trade.run faults now tradeId action).exec db) :=
      ⟨fun _ => hframe.paperBooks, fun hne => absurd hframe.paperBooks hne⟩
    refine ⟨fun _ hcommits => ?_, fun _ => hagrees⟩
    obtain ⟨p, started, written, h⟩ := hcommits
    obtain ⟨htrades, hbooks⟩ := hbook started p written h.book
    exact (h.agrees_iff hfailure (houtcome p) htrades hbooks fun db' row => hrecorded p started written db' row h).1 hagrees

/-- A call that returns reports a failure, or the fill that was offered. -/
theorem run_outcome {outcome : O} {t : Db} (h : (trade.run faults now tradeId action).exec db = (.ok outcome, t)) :
    (∃ reason, outcome = trade.failure reason) ∨ ∃ p, trade.offer = .ok (.ok p) ∧ outcome = trade.outcome p := by
  have hfail : ∀ {fault : Fault} {audit : Option AppError} {reason : String} {s t : Db},
      (trade.fail now tradeId fault audit reason).exec s = (.ok outcome, t) → outcome = trade.failure reason := by
    intro fault audit reason s t h
    rw [exec_fail] at h
    cases audit with
    | none => exact (Except.ok.inj (Prod.mk.inj h).1).symm
    | some e => cases h
  unfold run at h
  obtain ⟨_, u, -, h⟩ := exec_bind_ok.1 h
  obtain ⟨_, v, -, h⟩ := exec_bind_ok.1 h
  rw [exec_modify_bind, exec_tryCatch] at h
  generalize RiskGate.markDispatched v now action = started at h
  have hbody := trade.exec_body faults now tradeId started
  split at h
  · rename_i result s hs
    obtain rfl := Except.ok.inj (Prod.mk.inj h).1
    rw [hs] at hbody
    cases hoffer : trade.offer with
    | error e =>
      rw [hoffer] at hbody
      cases hbody
    | ok offered =>
      rw [hoffer] at hbody
      cases offered with
      | error reason => exact .inl ⟨reason, hfail hbody.symm⟩
      | ok p =>
        refine .inr ⟨p, rfl, ?_⟩
        dsimp only at hbody
        rw [exec_settle] at hbody
        cases hbooking : faults.booking with
        | some e =>
          rw [hbooking] at hbody
          cases hbody
        | none =>
          rw [hbooking] at hbody
          cases hbook : trade.book started p with
          | error e =>
            rw [hbook] at hbody
            cases hbody
          | ok written =>
            rw [hbook] at hbody
            dsimp only at hbody
            unfold close at hbody
            obtain ⟨_, _, -, hbody⟩ := exec_bind_ok.1 hbody.symm
            obtain ⟨_, _, -, hbody⟩ := exec_bind_ok.1 hbody
            exact (Except.ok.inj (Prod.mk.inj hbody).1).symm
  · rename_i e s hs
    exact .inl ⟨e.message, hfail h⟩

end PaperTrade

/-! ## Swaps -/

section
variable {R : Type} (quote : ExecutionQuote R) (prices : QuotePrices)

/-- Between the quote's floor and what it expects. -/
def Between (received : Int) : Prop :=
  ∃ expected minOut, amountToBigint quote.expectedAmountOut = .ok expected ∧ amountToBigint quote.minAmountOut = .ok minOut ∧
    minOut ≤ received ∧ received ≤ expected

/-- The booking of a swap is reached and goes through. -/
def PaperExecutor.Commits (faults : PaperFaults) (now : Int) (tradeId : String) (action : ProposedAction) (filledAt : Int)
    (db : Db) : Prop :=
  ∃ q fill started written, action.quote = some q ∧
    (PaperExecutor.trade now tradeId action quote prices filledAt q.slippageBps).Commits faults now tradeId action db fill
      started written

/-- The ledger is what the recording of a fill makes of the books, and the row carries this fill. -/
def PaperExecutor.Recorded (now : Int) (tradeId : String) (action : ProposedAction) (filledAt : Int) (db db' : Db)
    (row : TradeRow) : Prop :=
  ∃ fill started recorded, paperBooks started = paperBooks db ∧
    LedgerService.recordFill started now (PaperExecutor.fillInput tradeId action prices fill filledAt) = .ok recorded ∧
    paperBooks db' = paperBooks recorded.1 ∧ Between quote fill.received ∧
    FilledWith row ⟨toString fill.received, some (toString fill.feeNative), microsToUsd fill.feeUsd, none⟩

variable {quote prices}

theorem bpsOf_nonneg {value cut : Int} {bps : Nat} (h : bpsOf value bps = .ok cut) (hvalue : 0 ≤ value) : 0 ≤ cut := by
  have hbps : bps ≤ 10000 := by
    unfold bpsOf at h
    split at h
    · cases h
    · omega
  rw [bpsOf_eq hbps] at h
  obtain rfl := Except.ok.inj h
  exact Rounding.up_nonneg (by decide) (Int.mul_nonneg hvalue (Int.natCast_nonneg _))

theorem PaperExecutor.offer_between {slippageBps : Nat} {nativeUsd : String} {fill : PaperExecutor.PaperFill}
    (h : PaperExecutor.offer action slippageBps quote nativeUsd = .ok (.ok fill)) : Between quote fill.received := by
  unfold PaperExecutor.offer at h
  simp only [bind_ok] at h
  obtain ⟨expected, hexpected, haircut, hcut, minOut, hmin, h⟩ := h
  split at h
  · cases h
  · rename_i hfloor
    simp only [bind_ok, pure_ok] at h
    obtain ⟨feeNative, -, price, -, feeUsd, -, he⟩ := h
    obtain rfl := Except.ok.inj he
    have := bpsOf_nonneg hcut (amountToBigint_nonneg hexpected)
    refine ⟨expected, minOut, hexpected, hmin, ?_, ?_⟩
    · dsimp only
      omega
    · dsimp only
      omega

theorem recordFill_books {input : RecordFillInput} {out : Db × FillRow} (h : LedgerService.recordFill db now input = .ok out) :
    paperBooks out.1 ≠ paperBooks db := by
  obtain ⟨f, paid, hp, hout, -⟩ := LedgerService.recordFill_ok h
  obtain ⟨_, rfl⟩ := LedgerService.payPaper_eq hp
  obtain ⟨_, hb⟩ : ∃ positions, f.bought (f.sold db) = { db with positions } := f.bought_eq
  intro hsame
  have hfills : out.1.fills = db.fills := congrArg PaperBooks.fills hsame
  rw [hout, hb] at hfills
  simp at hfills

theorem PaperExecutor.agrees_iff (faults : PaperFaults) :
    PaperAgrees (·.status) (PaperExecutor.Recorded quote prices now tradeId action filledAt db) tradeId db
        ((PaperExecutor.executeUnder faults now tradeId action quote prices filledAt).exec db) ↔
      (PaperExecutor.Commits quote prices faults now tradeId action filledAt db → faults.lost = false) := by
  unfold PaperExecutor.executeUnder
  cases hq : action.quote with
  | none =>
    dsimp only
    have hframe : TradeFrame db _ := PaperTrade.fail_frame (PaperExecutor.trade now tradeId action quote prices filledAt 0)
      now tradeId db faults.failed faults.failedAudit "paper execution requires a quote"
    refine ⟨fun _ hcommits => ?_, fun _ => ⟨fun _ => hframe.paperBooks, fun hne => absurd hframe.paperBooks hne⟩⟩
    obtain ⟨q, fill, started, written, hsome, -⟩ := hcommits
    rw [hq] at hsome
    cases hsome
  | some q =>
    dsimp only
    rw [PaperTrade.run_agrees (fun _ => rfl) (fun _ => rfl)]
    · constructor
      · rintro h ⟨q', fill, started, written, hsome, hcommits⟩
        obtain rfl := Option.some.inj (hq.symm.trans hsome)
        exact h ⟨fill, started, written, hcommits⟩
      · rintro h ⟨fill, started, written, hcommits⟩
        exact h ⟨q, fill, started, written, hq, hcommits⟩
    · intro db fill written hbook
      unfold PaperExecutor.trade at hbook
      dsimp only at hbook
      cases hrecord : LedgerService.recordFill db now (PaperExecutor.fillInput tradeId action prices fill filledAt) with
      | error e =>
        rw [hrecord] at hbook
        cases hbook
      | ok recorded =>
        rw [hrecord] at hbook
        cases hbook
        exact ⟨recordFill_trades hrecord, recordFill_books hrecord⟩
    · intro fill started written db' row hcommits hbooks hwith
      have hbook := hcommits.book
      unfold PaperExecutor.trade at hbook
      dsimp only at hbook
      cases hrecord : LedgerService.recordFill started now (PaperExecutor.fillInput tradeId action prices fill filledAt) with
      | error e =>
        rw [hrecord] at hbook
        cases hbook
      | ok recorded =>
        rw [hrecord] at hbook
        cases hbook
        exact ⟨fill, started, recorded, hcommits.started_frame.paperBooks, hrecord, hbooks,
          PaperExecutor.offer_between hcommits.offer, hwith⟩

/-- A swap that reports a fill received what lies between the quote's floor and what it expects. -/
theorem PaperExecutor.filled_between (faults : PaperFaults) {outcome : ExecutionOutcome} {t : Db}
    (h : (PaperExecutor.executeUnder faults now tradeId action quote prices filledAt).exec db = (.ok outcome, t))
    (hfilled : outcome.status = .filled) :
    ∃ received, outcome.amountOut = some (toString received) ∧ Between quote received := by
  unfold PaperExecutor.executeUnder at h
  cases hq : action.quote with
  | none =>
    rw [hq] at h
    dsimp only at h
    rw [PaperTrade.exec_fail] at h
    cases haudit : faults.failedAudit with
    | none =>
      rw [haudit] at h
      cases h
      cases hfilled
    | some e =>
      rw [haudit] at h
      cases h
  | some q =>
    rw [hq] at h
    rcases PaperTrade.run_outcome h with ⟨reason, rfl⟩ | ⟨fill, hoffer, rfl⟩
    · cases hfilled
    · exact ⟨fill.received, rfl, PaperExecutor.offer_between hoffer⟩

end

/-! ## LP actions -/

section
variable {R : Type} (plan : LpPlan R) (pool : LpPoolState) (prices : LpFillPrices)

def PaperLpExecutor.Commits (faults : PaperFaults) (now : Int) (tradeId : String) (action : ProposedAction) (filledAt : Int)
    (db : Db) : Prop :=
  action.mode = .PAPER ∧ action.lp.isSome ∧ ∃ p started written,
    (PaperLpExecutor.trade now tradeId action plan pool prices filledAt).Commits faults now tradeId action db p started written

/-- The ledger is what the writing of a move makes of the books, and the row carries this move. -/
def PaperLpExecutor.Recorded (now : Int) (tradeId : String) (action : ProposedAction) (filledAt : Int) (db db' : Db)
    (row : TradeRow) : Prop :=
  ∃ fee move started written, PaperLpExecutor.offerWithFee action plan pool prices = .ok (.ok (fee, move)) ∧
    paperBooks started = paperBooks db ∧
    PaperLpExecutor.write started now tradeId action pool move fee.usd filledAt = .ok written ∧
    paperBooks db' = paperBooks written ∧
    FilledWith row ⟨toString move.filledOut, some (toString fee.native), microsToUsd fee.usd, none⟩

variable {plan pool prices}

/-- What an LP fill realizes is a new row of the ledger. -/
theorem recordPnl_books {base : Db} (input : RecordPnlInput) (h : base.lpPnl = db.lpPnl) :
    paperBooks (LiquidityStore.recordPnl base input).1 ≠ paperBooks db := by
  intro hsame
  have hpnl := congrArg PaperBooks.lpPnl hsame
  simp [paperBooks, LiquidityStore.recordPnl, h] at hpnl

theorem PaperLpExecutor.write_books {move : PaperLpExecutor.LpMove} {feeUsd : Int} {written : Db}
    (h : PaperLpExecutor.write db now tradeId action pool move feeUsd filledAt = .ok written) :
    written.trades = db.trades ∧ paperBooks written ≠ paperBooks db := by
  unfold PaperLpExecutor.write at h
  cases move with
  | add add =>
    unfold PaperLpExecutor.writeAdd PaperLpExecutor.adjustPaper at h
    simp only [bind_ok, pure_ok] at h
    obtain ⟨spent0, h0, spent1, h1, booked, hb, rfl⟩ := h
    obtain ⟨-, rfl⟩ := LedgerService.adjustPaperBalance_ok.1 h0
    obtain ⟨-, rfl⟩ := LedgerService.adjustPaperBalance_ok.1 h1
    obtain ⟨_, _, he⟩ := LiquidityStore.bookAdd_eq hb
    refine ⟨?_, recordPnl_books _ ?_⟩
    · show booked.1.trades = _
      rw [he]
      rfl
    · rw [he]
      rfl
  | remove remove =>
    unfold PaperLpExecutor.writeRemove PaperLpExecutor.adjustPaper at h
    simp only [bind_ok, pure_ok] at h
    obtain ⟨removed, hr, credited0, h0, credited1, h1, rfl⟩ := h
    obtain ⟨_, he⟩ := LiquidityStore.bookRemove_eq hr
    obtain ⟨-, rfl⟩ := LedgerService.adjustPaperBalance_ok.1 h0
    obtain ⟨-, rfl⟩ := LedgerService.adjustPaperBalance_ok.1 h1
    refine ⟨?_, recordPnl_books _ ?_⟩
    · show removed.1.trades = _
      rw [he]
    · show removed.1.lpPnl = _
      rw [he]

theorem PaperLpExecutor.agrees_iff (faults : PaperFaults) :
    PaperAgrees (·.status) (PaperLpExecutor.Recorded plan pool prices now tradeId action filledAt db) tradeId db
        ((PaperLpExecutor.executeUnder faults now tradeId action plan pool prices filledAt).exec db) ↔
      (PaperLpExecutor.Commits plan pool prices faults now tradeId action filledAt db → faults.lost = false) := by
  have hfailed : ∀ reason, PaperAgrees (·.status) (PaperLpExecutor.Recorded plan pool prices now tradeId action filledAt db)
      tradeId db (((PaperLpExecutor.trade now tradeId action plan pool prices filledAt).fail now tradeId faults.failed
        faults.failedAudit reason).exec db) := by
    intro reason
    have hframe := PaperTrade.fail_frame (PaperLpExecutor.trade now tradeId action plan pool prices filledAt) now
      tradeId db faults.failed faults.failedAudit reason
    exact ⟨fun _ => hframe.paperBooks, fun hne => absurd hframe.paperBooks hne⟩
  unfold PaperLpExecutor.executeUnder
  dsimp only
  split
  · rename_i hmode
    exact ⟨fun _ hcommits => absurd hcommits.1 hmode, fun _ => hfailed _⟩
  split
  · rename_i hleg
    refine ⟨fun _ hcommits => ?_, fun _ => hfailed _⟩
    have hsome := hcommits.2.1
    rw [Option.isNone_iff_eq_none.1 hleg] at hsome
    cases hsome
  rename_i hmode hleg
  have hpaper : action.mode = .PAPER := by simpa using hmode
  have hlp : action.lp.isSome = true := by simpa [Option.isSome_iff_ne_none] using hleg
  rw [PaperTrade.run_agrees (fun _ => rfl)]
  · exact ⟨fun h hcommits => h hcommits.2.2, fun h hcommits => h ⟨hpaper, hlp, hcommits⟩⟩
  · intro p
    obtain ⟨fee, move⟩ := p
    cases move with
    | add add => rfl
    | remove remove => rfl
  · intro db p written hbook
    exact PaperLpExecutor.write_books hbook
  · intro p started written db' row hcommits hbooks hwith
    exact ⟨p.1, p.2, started, written, hcommits.offer, hcommits.started_frame.paperBooks, hcommits.book, hbooks, hwith⟩

end

/-- **A PAPER outcome and the ledger agree** exactly when the booking is not reached or not committed, or no error after it is
taken for a failure of the trade; a swap that reports a fill received what lies between the quote's floor and what it
expects. -/
theorem paper_outcome_agrees {R : Type} (faults : PaperFaults) (db : Db) (now filledAt : Int) (tradeId : String)
    (action : ProposedAction) :
    (∀ (quote : ExecutionQuote R) (prices : QuotePrices),
      (PaperAgrees (·.status) (PaperExecutor.Recorded quote prices now tradeId action filledAt db) tradeId db
          ((PaperExecutor.executeUnder faults now tradeId action quote prices filledAt).exec db) ↔
        (PaperExecutor.Commits quote prices faults now tradeId action filledAt db → faults.lost = false)) ∧
      ∀ outcome t, (PaperExecutor.executeUnder faults now tradeId action quote prices filledAt).exec db = (.ok outcome, t) →
        outcome.status = .filled →
          ∃ received, outcome.amountOut = some (toString received) ∧ Between quote received) ∧
    ∀ (plan : LpPlan R) (pool : LpPoolState) (prices : LpFillPrices),
      PaperAgrees (·.status) (PaperLpExecutor.Recorded plan pool prices now tradeId action filledAt db) tradeId db
          ((PaperLpExecutor.executeUnder faults now tradeId action plan pool prices filledAt).exec db) ↔
        (PaperLpExecutor.Commits plan pool prices faults now tradeId action filledAt db → faults.lost = false) :=
  ⟨fun _ _ => ⟨PaperExecutor.agrees_iff faults, fun _ _ h hfilled => PaperExecutor.filled_between faults h hfilled⟩,
    fun _ _ _ => PaperLpExecutor.agrees_iff faults⟩

end

/-! ## An audit entry that is not written -/

/-- A bankroll of 40 USDC, and an allowed trade for a swap. -/
def allowedSwap : Db :=
  let seeded := LedgerService.setPaperBalance Db.empty 1700000000000 .base Engine.paperSwap.tokenIn.address 6 40000000
  match TradeStore.propose seeded "t1" 1700000000000 Engine.paperSwap .open ⟨false, none, none⟩ with
  | .ok out => { out.1 with trades := out.1.trades.put { out.2 with status := .allowed } }
  | .error _ => Db.empty

def wethQuote : ExecutionQuote Unit :=
  { chain := .base, protocol := "aerodrome-v2", contract := Engine.paperSwap.contract, programIds := none
    tokenIn := Engine.paperSwap.tokenIn, tokenOut := Engine.paperSwap.tokenOut, amountIn := "20000000"
    expectedAmountOut := "10000000000000000", minAmountOut := "9950000000000000", slippageBps := 50, priceImpactBps := 10
    quotedAt := 1700000000000, source := "aerodrome-v2", marketId := "usdc-weth"
    feeEstimate := Engine.paperSwap.feeEstimate, routeData := none }

def reportsFailure (ended : Result ExecutionOutcome × Db) : Bool :=
  match ended.1 with
  | .ok outcome => outcome.status = .failed
  | .error _ => false

/-- The audit entry of the fill fails; nothing else does. -/
def auditDown : PaperFaults := { PaperFaults.none with filledAudit := some ⟨.internal, "database or disk is full"⟩ }

/-- The swap is booked, its row is filled, and the outcome says it failed. -/
theorem booked_swap_fails :
    ¬ PaperAgrees (·.status) (PaperExecutor.Recorded wethQuote ⟨"1", "2000", "2000"⟩ 1700000001000 "t1" Engine.paperSwap
        1700000001000 allowedSwap) "t1" allowedSwap
      ((PaperExecutor.executeUnder auditDown 1700000001000 "t1" Engine.paperSwap wethQuote ⟨"1", "2000", "2000"⟩
        1700000001000).exec allowedSwap) := by
  intro h
  have hfailed : reportsFailure ((PaperExecutor.executeUnder auditDown 1700000001000 "t1" Engine.paperSwap wethQuote
      ⟨"1", "2000", "2000"⟩ 1700000001000).exec allowedSwap) = true := by decide +kernel
  unfold reportsFailure at hfailed
  split at hfailed
  swap
  · cases hfailed
  rename_i outcome hok
  have hsame := h.failed (.inl ⟨outcome, hok, by simpa using hfailed⟩)
  have hfills : ((PaperExecutor.executeUnder auditDown 1700000001000 "t1" Engine.paperSwap wethQuote ⟨"1", "2000", "2000"⟩
      1700000001000).exec allowedSwap).2.fills.length = allowedSwap.fills.length :=
    congrArg (fun books => books.fills.length) hsame
  revert hfills
  decide +kernel

/-- Without failures the swap is booked, and agrees. -/
theorem paper_outcome_agrees_filled :
    PaperAgrees (·.status) (PaperExecutor.Recorded wethQuote ⟨"1", "2000", "2000"⟩ 1700000001000 "t1" Engine.paperSwap
        1700000001000 allowedSwap) "t1" allowedSwap
      ((PaperExecutor.executeUnder .none 1700000001000 "t1" Engine.paperSwap wethQuote ⟨"1", "2000", "2000"⟩
        1700000001000).exec allowedSwap) ∧
    ((PaperExecutor.executeUnder .none 1700000001000 "t1" Engine.paperSwap wethQuote ⟨"1", "2000", "2000"⟩
        1700000001000).exec allowedSwap).2.fills.length = 1 :=
  ⟨((paper_outcome_agrees .none allowedSwap 1700000001000 1700000001000 "t1" Engine.paperSwap).1 wethQuote
    ⟨"1", "2000", "2000"⟩).1.2 fun _ => rfl, by decide +kernel⟩

end Atra
