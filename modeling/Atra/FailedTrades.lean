import Atra.EngineSound
import Atra.LiveBooking
/-!
# FailedTrades — where an execution leaves the row of its trade

An execution that gives up before the key is used fails its row, and one that signed leaves the hash on it.  The exception are
the refusals made before the trade is dispatched: an allowed row cannot fail, so the refusal is reported and the row stays
`allowed` (`settles_iff`).
-/
namespace Atra

open Money Live

variable {R : Type} {p q : Process} {tradeId : String} {row : TradeRow}

/-! ## A paper failure -/

/-- **A paper call that reports a failure** after the dispatch has failed its row. -/
theorem PaperExecutor.execute_failed {db : Db} {now filledAt : Int} {action : ProposedAction} {quote : ExecutionQuote R}
    {prices : QuotePrices} {out : Db × ExecutionOutcome} (hq : action.quote.isSome)
    (h : PaperExecutor.execute db now tradeId action quote prices filledAt = .ok out) (hfailed : out.2.status = .failed) :
    ∃ row, TradeStore.get out.1 tradeId = some row ∧ row.status = .failed := by
  have hfail : ∀ {db : Db} {reason : String}, Dispatched db tradeId →
      ∃ row, TradeStore.get (failTrade db now tradeId reason) tradeId = some row ∧ row.status = .failed := by
    intro db reason hd
    obtain ⟨row, hg, hs⟩ := hd
    obtain ⟨out, hout⟩ : ∃ out, TradeStore.markFailed db now tradeId reason = .ok out :=
      TradeStore.transition_of_mem hg (by rw [hs]; decide)
    obtain ⟨_, -, -, hrow, hdb⟩ := TradeStore.transition_ok.1 hout
    unfold failTrade
    rw [hout]
    refine ⟨out.2, ?_, by rw [hrow]⟩
    dsimp only
    rw [hdb]
    show (db.trades.put out.2).get tradeId = some out.2
    rw [Table.get_put, if_pos (by rw [hrow])]
  obtain ⟨q, hq⟩ := Option.isSome_iff_exists.1 hq
  unfold PaperExecutor.execute at h
  rw [hq] at h
  simp only [bind_ok] at h
  obtain ⟨dispatched, hd, h⟩ := h
  have hopen : Dispatched (RiskGate.markDispatched dispatched.1 now action) tradeId := started_dispatched hd
  split at h
  · obtain rfl := pure_ok.1 h
    exact hfail hopen
  · rename_i fill hfill
    obtain rfl := pure_ok.1 h
    unfold PaperExecutor.settle at hfailed ⊢
    cases hb : LedgerService.recordFill (RiskGate.markDispatched dispatched.1 now action) now
      (PaperExecutor.fillInput tradeId action prices fill filledAt) with
    | error e => exact hfail hopen
    | ok booked =>
      rw [hb] at hfailed
      obtain ⟨closed, hc⟩ := (hopen.of_trades (recordFill_trades hb)).markFilled now
        ⟨toString fill.received, some (toString fill.feeNative), microsToUsd fill.feeUsd, none⟩
      dsimp only at hfailed
      rw [hc] at hfailed
      cases hfailed

/-! ## Executions of an allowed trade -/

/-- A call of one of the executors, the trade's id apart. -/
inductive Execution (R : Type) where
  | paper (action : ProposedAction) (quote : ExecutionQuote R) (prices : QuotePrices)
  | swap (x : LiveExecutor R) (action : ProposedAction) (quote : ExecutionQuote R) (prices : QuotePrices)
  | approve (x : LiveExecutor R) (action : ProposedAction) (tx : UnsignedTransaction) (nativeUsd : String)
  | lp (x : LpLive R) (action : ProposedAction) (plan : LpPlan R) (pool : LpPoolState) (prices : LpFillPrices)

/-- A row closed by a hash ends up with another than the one it had. -/
def NamesOther (named : Option String) (hash : String) : Prop := ∃ h, named = some h ∧ h ≠ "" ∧ h ≠ hash

theorem filledHash_iff {trade : TradeRow} {fill : TradeStore.Filled} {hash : String} (h : trade.txHash = some hash) :
    TradeStore.filledHash trade fill = some hash ↔ ¬ NamesOther fill.txHash hash := by
  unfold TradeStore.filledHash NamesOther
  cases fill.txHash with
  | none => simp [h]
  | some named =>
    by_cases hn : named = ""
    · simp [hn, h]
    · simp [hn]

/-- What was signed is confirmed by a receipt that can be booked and names another transaction. -/
def MisnamedBy {ρ : Type} (s : Sender ρ) (chain : ChainId) (bookable : ρ → Prop) (named : ρ → Option String)
    (signed : SignedTransaction) : Prop :=
  ∃ wallet receipt, s.wallets.depositAddress chain = .ok wallet ∧ confirmation s wallet signed = some receipt ∧
    bookable receipt ∧ NamesOther (named receipt) signed.hash

namespace Execution

def run (tradeId : String) : Execution R → Live OutcomeStatus
  | .paper action quote prices => do
    let outcome ← write fun db now => PaperExecutor.execute db now tradeId action quote prices now
    return outcome.status
  | .swap x action quote prices => do
    let outcome ← x.execute tradeId action quote prices
    return outcome.status
  | .approve x action tx nativeUsd => do
    let outcome ← x.executeApprove tradeId action tx nativeUsd
    return outcome.status
  | .lp x action plan pool prices => do
    let outcome ← LiveLpExecutor.execute x tradeId action plan pool prices
    return outcome.status

/-- The call gets as far as dispatching its trade: a paper action carries its quote; on LIVE the chain has an adapter, and
the mode and the switches let it through. -/
def Accepted (controls : Controls) : Execution R → Prop
  | .paper action _ _ => action.quote.isSome
  | .swap x action _ _ => (x.registry action.chain).isSome ∧ refusal controls action = none
  | .approve x action _ _ => (x.registry action.chain).isSome ∧ refusal controls action = none
  | .lp x action _ _ _ => (x.registry action.chain).isSome ∧ refusal controls action = none

instance decidableAccepted (controls : Controls) : (e : Execution R) → Decidable (e.Accepted controls)
  | .paper action _ _ => inferInstanceAs (Decidable (action.quote.isSome = true))
  | .swap x action _ _ => inferInstanceAs (Decidable ((x.registry action.chain).isSome = true ∧ refusal controls action = none))
  | .approve x action _ _ =>
    inferInstanceAs (Decidable ((x.registry action.chain).isSome = true ∧ refusal controls action = none))
  | .lp x action _ _ _ => inferInstanceAs (Decidable ((x.registry action.chain).isSome = true ∧ refusal controls action = none))

/-- A receipt that confirms what was signed can be booked and names another transaction, which the row then carries. -/
def Misnamed (db : Db) (row : TradeRow) (signed : SignedTransaction) : Execution R → Prop
  | .paper .. => False
  | .swap x action _ prices => ∃ adapter, x.registry action.chain = some adapter ∧
      MisnamedBy (x.sender adapter (some action.tokenOut.address)) action.chain
        (LiveExecutor.Bookable row · prices (some ⟨action.tokenIn.decimals, action.tokenOut.decimals⟩))
        (fun receipt => (LiveExecutor.closing row receipt "").txHash) signed
  | .approve x action _ nativeUsd => ∃ adapter, x.registry action.chain = some adapter ∧
      MisnamedBy (x.sender adapter none) action.chain (LiveExecutor.Bookable row · ⟨"0", "0", nativeUsd⟩ none)
        (fun receipt => (LiveExecutor.closing row receipt "").txHash) signed
  | .lp x action plan pool prices => ∃ adapter, x.registry action.chain = some adapter ∧
      MisnamedBy (LiveLpExecutor.sender x adapter) action.chain
        (LiveLpExecutor.Bookable db x.host row action plan pool prices) (fun receipt => some receipt.hash) signed

/-- The row of a trade whose transaction was signed carries its hash. -/
def Carries (q : Process) (tradeId hash : String) : Prop := ∃ row, TradeStore.get q.db tradeId = some row ∧
  (row.status = .signed ∨ row.status = .broadcast ∨ row.status = .filled ∨ row.status = .failed) ∧ row.txHash = some hash

/-- **Where a call leaves its trade**: reported failed without having signed, it left the row terminal; having signed, it
left the row with the hash. -/
structure Settles (e : Execution R) (tradeId : String) (p : Process) : Prop where
  unsigned : ∀ q, (e.run tradeId).exec p = (.ok .failed, q) → signedBy q = signedBy p →
    ∃ row, TradeStore.get q.db tradeId = some row ∧ (row.status = .failed ∨ row.status = .cancelled)
  signed : ∀ txs tx, signedBy ((e.run tradeId).exec p).2 = signedBy p ++ txs → tx ∈ txs →
    Carries ((e.run tradeId).exec p).2 tradeId tx.hash

/-! ### Refused at once -/

theorem exec_write_error {α : Type} {f : Db → Int → Result (Db × α)} {e : AppError} (h : f p.db p.clock = .error e) :
    (write f).exec p = (.error e, p) := by
  unfold write
  rw [Script.exec_get_bind, Script.exec_bind, Script.exec_lift, h]

/-- **An allowed row cannot fail**: the move is refused, and the refusal swallowed. -/
theorem exec_markFailed_allowed (hg : TradeStore.get p.db tradeId = some row) (hs : row.status = .allowed) (reason : String) :
    (Live.markFailed tradeId reason).exec p = (.ok (), p) := by
  have hrefused : ∃ message, TradeStore.markFailed p.db p.clock tradeId reason = .error ⟨.conflict, message⟩ := by
    unfold TradeStore.markFailed TradeStore.transition
    rw [hg]
    dsimp only
    rw [hs, if_neg (by decide)]
    exact ⟨_, rfl⟩
  obtain ⟨message, hm⟩ := hrefused
  unfold Live.markFailed
  rw [Script.exec_attempt_bind, exec_write_error (f := fun db now => TradeStore.markFailed db now tradeId reason) hm]
  rfl

theorem exec_fail_allowed (hg : TradeStore.get p.db tradeId = some row) (hs : row.status = .allowed) (action : ProposedAction)
    (reason : String) (filledAt : Int) : (LiveExecutor.fail tradeId action reason filledAt).exec p =
      (.ok (LiveExecutor.failedOutcome action reason none filledAt), p) := by
  unfold LiveExecutor.fail
  rw [Script.exec_bind, exec_markFailed_allowed hg hs]
  rfl

theorem exec_lpFail_allowed (hg : TradeStore.get p.db tradeId = some row) (hs : row.status = .allowed)
    (action : ProposedAction) (reason : String) (filledAt : Int) :
    (LiveLpExecutor.fail tradeId action reason filledAt).exec p =
      (.ok (LiveLpExecutor.failedOutcome action reason none filledAt), p) := by
  unfold LiveLpExecutor.fail
  rw [Script.exec_bind, exec_markFailed_allowed hg hs]
  rfl

/-- **A call that is refused at once** reports a failure and leaves the row as it was. -/
theorem run_refused {e : Execution R} (hg : TradeStore.get p.db tradeId = some row) (hs : row.status = .allowed)
    (ha : ¬ e.Accepted p.controls) : ∃ q, (e.run tradeId).exec p = (.ok .failed, q) ∧ signedBy q = signedBy p ∧
      TradeStore.get q.db tradeId = some row := by
  cases e with
  | paper action quote prices =>
    have hq : action.quote = none := by simpa [Accepted] using ha
    have hkept : failTrade p.db p.clock tradeId "paper execution requires a quote" = p.db := by
      unfold failTrade TradeStore.markFailed TradeStore.transition
      rw [hg]
      dsimp only
      rw [hs, if_neg (by decide)]
      rfl
    have hpaper : PaperExecutor.execute p.db p.clock tradeId action quote prices p.clock =
        .ok (PaperExecutor.fail p.db p.clock tradeId action "paper execution requires a quote" p.clock) := by
      unfold PaperExecutor.execute
      rw [hq]
      rfl
    refine ⟨{ p with log := p.log ++ [.wrote p.db] }, ?_, (signedBy_emit _).trans (List.append_nil _), hg⟩
    unfold run write
    rw [Script.exec_bind, Script.exec_get_bind, Script.exec_bind, Script.exec_lift]
    dsimp only
    rw [hpaper]
    unfold PaperExecutor.fail
    rw [hkept]
    rfl
  | swap x action quote prices =>
    refine ⟨p, ?_, rfl, hg⟩
    unfold run LiveExecutor.execute
    obtain ⟨reason, hr⟩ := admitAction_refused ha
    rw [Script.exec_bind, Script.exec_get_bind, hr, exec_fail_allowed hg hs]
    rfl
  | approve x action tx nativeUsd =>
    refine ⟨p, ?_, rfl, hg⟩
    unfold run LiveExecutor.executeApprove
    obtain ⟨reason, hr⟩ := admitAction_refused ha
    rw [Script.exec_bind, Script.exec_get_bind, hr, exec_fail_allowed hg hs]
    rfl
  | lp x action plan pool prices =>
    refine ⟨p, ?_, rfl, hg⟩
    unfold run LiveLpExecutor.execute
    obtain ⟨reason, hr⟩ := admitAction_refused ha
    rw [Script.exec_bind, Script.exec_get_bind, hr, exec_lpFail_allowed hg hs]
    rfl

/-! ### Accepted -/

/-- The call signed, and its row carries the hash unless the receipt names another. -/
def SignedEnd (p : Process) (tradeId : String) (misnamed : SignedTransaction → Prop) (q : Process) : Prop :=
  ∃ signed, signedBy q = signedBy p ++ [signed] ∧ (Carries q tradeId signed.hash ↔ ¬ misnamed signed)

/-- Where an accepted call that returns leaves its trade. -/
def Returned (p : Process) (tradeId : String) (misnamed : SignedTransaction → Prop) (status : OutcomeStatus) (q : Process) :
    Prop :=
  (signedBy q = signedBy p ∧ (status = .failed → ∃ row, TradeStore.get q.db tradeId = some row ∧ row.status = .failed)) ∨
    SignedEnd p tradeId misnamed q

/-- Where an accepted call that throws leaves its trade. -/
def Threw (p : Process) (tradeId : String) (misnamed : SignedTransaction → Prop) (q : Process) : Prop :=
  signedBy q = signedBy p ∨ SignedEnd p tradeId misnamed q

section
variable {misnamed : SignedTransaction → Prop} {status : TradeStatus} {txHash : Option String}

theorem moved_unsigned (h : Moved p tradeId row [] status txHash q) : signedBy q = signedBy p :=
  h.signed.trans (List.append_nil _)

theorem returned_failed (h : Moved p tradeId row [] .failed txHash q) (outcome : OutcomeStatus) :
    Returned p tradeId misnamed outcome q := by
  obtain ⟨row', hg, hs, -⟩ := h.row
  exact .inl ⟨moved_unsigned h, fun _ => ⟨row', hg, hs⟩⟩

theorem stopped_end {ρ : Type} {s : Sender ρ} {wallet : String} {chain : ChainId} {signed : SignedTransaction}
    {bookable : ρ → Prop} {named : ρ → Option String} (hw : s.wallets.depositAddress chain = .ok wallet)
    (hc : ∀ receipt, confirmation s wallet signed = some receipt → ¬ bookable receipt)
    (hstatus : status = .signed ∨ status = .broadcast ∨ status = .failed)
    (h : Moved p tradeId row [signed] status (some signed.hash) q) :
    SignedEnd p tradeId (MisnamedBy s chain bookable named) q := by
  refine ⟨signed, h.signed, iff_of_true ?_ ?_⟩
  · obtain ⟨row', hg, hs, hh, -⟩ := h.row
    refine ⟨row', hg, ?_, hh⟩
    rw [hs]
    rcases hstatus with h | h | h
    · exact .inl h
    · exact .inr (.inl h)
    · exact .inr (.inr (.inr h))
  · rintro ⟨wallet', receipt, hw', hc', hb, -⟩
    obtain rfl := Except.ok.inj (hw.symm.trans hw')
    exact hc receipt hc' hb

theorem closed_end {ρ : Type} {s : Sender ρ} {wallet : String} {chain : ChainId} {signed : SignedTransaction}
    {bookable : ρ → Prop} {named : ρ → Option String} {receipt : ρ} {trade closed : TradeRow} {fill : TradeStore.Filled}
    (hw : s.wallets.depositAddress chain = .ok wallet) (hc : confirmation s wallet signed = some receipt)
    (hb : bookable receipt) (hs : signedBy q = signedBy p ++ [signed]) (ht : trade.txHash = some signed.hash)
    (hg : TradeStore.get q.db tradeId = some closed) (hstatus : closed.status = .filled)
    (hhash : closed.txHash = TradeStore.filledHash trade fill) (hfill : fill.txHash = named receipt) :
    SignedEnd p tradeId (MisnamedBy s chain bookable named) q := by
  have hm : MisnamedBy s chain bookable named signed ↔ NamesOther (named receipt) signed.hash := by
    constructor
    · rintro ⟨wallet', receipt', hw', hc', -, hn⟩
      obtain rfl := Except.ok.inj (hw.symm.trans hw')
      obtain rfl := Option.some.inj (hc.symm.trans hc')
      exact hn
    · intro hn
      exact ⟨wallet, receipt, hw, hc, hb, hn⟩
  refine ⟨signed, hs, ?_⟩
  rw [hm, ← hfill, ← filledHash_iff ht, ← hhash]
  constructor
  · rintro ⟨row', hg', -, hh⟩
    obtain rfl := Option.some.inj (hg.symm.trans hg')
    exact hh
  · intro hh
    exact ⟨closed, hg, .inr (.inr (.inl hstatus)), hh⟩

theorem dispatch_ensures (h : Moved p tradeId row [] .allowed txHash q) (action : ProposedAction) :
    Script.Ensures (dispatch tradeId action) q (fun _ => Moved p tradeId row [] .dispatched txHash) fun _ _ => False := by
  unfold dispatch
  rw [Script.ensures_bind]
  refine h.markDispatched.mono ?_ fun _ _ hfalse => hfalse
  intro _ t ht
  rw [ensures_write]
  constructor
  · intro out hout
    obtain rfl := pure_ok.1 hout
    obtain ⟨_, _, he⟩ := RiskGate.markDispatched_eq t.db t.clock action
    dsimp only
    rw [he]
    exact ht.wrote rfl ⟨_, _, _, rfl⟩
  · intro e he
    cases he

theorem fail_ensures (h : Moved p tradeId row [] .dispatched txHash q) (action : ProposedAction) (reason : String)
    (filledAt : Int) : Script.Ensures (LiveExecutor.fail tradeId action reason filledAt) q
      (fun o t => Returned p tradeId misnamed o.status t) fun _ _ => False := by
  unfold LiveExecutor.fail
  rw [Script.ensures_bind]
  exact (h.markFailed (by decide) reason).mono (fun _ t ht => returned_failed ht _) fun _ _ hfalse => hfalse

theorem lpFail_ensures (h : Moved p tradeId row [] .dispatched txHash q) (action : ProposedAction) (reason : String)
    (filledAt : Int) : Script.Ensures (LiveLpExecutor.fail tradeId action reason filledAt) q
      (fun o t => Returned p tradeId misnamed o.status t) fun _ _ => False := by
  unfold LiveLpExecutor.fail
  rw [Script.ensures_bind]
  exact (h.markFailed (by decide) reason).mono (fun _ t ht => returned_failed ht _) fun _ _ hfalse => hfalse

/-- **Settling a swap**: a confirmed one is closed with what the receipt names, or stays broadcast. -/
theorem settle_ensures {x : LiveExecutor R} {adapter : ExecutionAdapter R} {tokenOut : Option String} {chain : ChainId}
    {action : ProposedAction} {prices : QuotePrices} {decimals : Option LiveExecutor.PairDecimals}
    {sent : Sent ExecutionReceipt} (h : Sends (x.sender adapter tokenOut) chain p tradeId row sent q) :
    Script.Ensures (LiveExecutor.settle tradeId action prices decimals sent) q
      (fun o t => Returned p tradeId (MisnamedBy (x.sender adapter tokenOut) chain
        (LiveExecutor.Bookable row · prices decimals) fun receipt => (LiveExecutor.closing row receipt "").txHash) o.status t)
      fun _ t => Threw p tradeId (MisnamedBy (x.sender adapter tokenOut) chain
        (LiveExecutor.Bookable row · prices decimals) fun receipt => (LiveExecutor.closing row receipt "").txHash) t := by
  rcases h with ⟨reason, time, rfl, hm⟩ | ⟨wallet, signed, hw, hend⟩
  · exact returned_failed hm _
  · cases hend with
    | stopped hc hstatus hm =>
      refine .inr (stopped_end hw (fun receipt hr => ?_) hstatus hm)
      rw [hc] at hr
      cases hr
    | confirmed hc hm =>
      rename_i receipt
      obtain ⟨trade, hg, hs, hh, hsame⟩ := hm.row
      unfold LiveExecutor.settle
      dsimp only
      rw [Script.ensures_bind, Script.ensures_get, hg]
      dsimp only
      rw [Script.ensures_bind]
      have hid : trade.id = tradeId := Table.key_of_get hg
      subst hid
      refine (LiveExecutor.bookFill_ensures hg hs).mono ?_ ?_
      · rintro feeUsd t ⟨hb, hsigned, -, -, closed, hcl, hcs, hch⟩
        rw [Script.ensures_bind, Script.ensures_get, Script.ensures_pure]
        refine .inr (closed_end hw hc ((LiveExecutor.bookable_same hsame).1 hb) (hsigned.trans hm.signed) hh hcl hcs hch ?_)
        obtain ⟨_, _, _, _, _, rfl⟩ := hsame
        unfold LiveExecutor.closing
        dsimp only
        split
        · rfl
        · rfl
      · rintro e t ⟨hb, rfl⟩
        refine .inr (stopped_end hw (fun receipt' hr => ?_) (.inr (.inl rfl)) hm)
        obtain rfl := Option.some.inj (hc.symm.trans hr)
        rwa [LiveExecutor.bookable_same hsame] at hb

/-- **Settling an LP action**, likewise. -/
theorem lpSettle_ensures {x : LpLive R} {adapter : LpAdapter R} {chain : ChainId} {action : ProposedAction}
    {plan : LpPlan R} {pool : LpPoolState} {prices : LpFillPrices} {sent : Sent LpReceipt}
    (h : Sends (LiveLpExecutor.sender x adapter) chain p tradeId row sent q) :
    Script.Ensures (LiveLpExecutor.settle x tradeId action plan pool prices sent) q
      (fun o t => Returned p tradeId (MisnamedBy (LiveLpExecutor.sender x adapter) chain
        (LiveLpExecutor.Bookable p.db x.host row action plan pool prices) fun receipt => some receipt.hash) o.status t)
      fun _ t => Threw p tradeId (MisnamedBy (LiveLpExecutor.sender x adapter) chain
        (LiveLpExecutor.Bookable p.db x.host row action plan pool prices) fun receipt => some receipt.hash) t := by
  rcases h with ⟨reason, time, rfl, hm⟩ | ⟨wallet, signed, hw, hend⟩
  · exact returned_failed hm _
  · cases hend with
    | stopped hc hstatus hm =>
      refine .inr (stopped_end hw (fun receipt hr => ?_) hstatus hm)
      rw [hc] at hr
      cases hr
    | confirmed hc hm =>
      rename_i receipt
      obtain ⟨trade, hg, hs, hh, hsame⟩ := hm.row
      unfold LiveLpExecutor.settle
      dsimp only
      rw [Script.ensures_bind, Script.ensures_get, hg]
      dsimp only
      refine (LiveLpExecutor.bookConfirmed_ensures hm.frame hg hs hsame).mono ?_ ?_
      · rintro o t ⟨-, hb, hsigned, closed, hcl, hcs, fill, hfill, hch⟩
        exact .inr (closed_end hw hc hb (hsigned.trans hm.signed) hh hcl hcs hch hfill)
      · rintro e t ⟨hb, rfl⟩
        refine .inr (stopped_end hw (fun receipt' hr => ?_) (.inr (.inl rfl)) hm)
        obtain rfl := Option.some.inj (hc.symm.trans hr)
        exact hb

theorem simulate_ensures (h : Moved p tradeId row [] .dispatched txHash q) (adapter : LpAdapter R)
    (tx : UnsignedTransaction) : Script.Ensures (LiveLpExecutor.simulate adapter tx) q
      (fun _ => Moved p tradeId row [] .dispatched txHash) fun _ _ => False := by
  unfold LiveLpExecutor.simulate
  cases adapter.simulate with
  | none => exact h
  | some run =>
    dsimp only
    rw [Script.ensures_bind, Script.ensures_attempt, ensures_await]
    exact ⟨fun _ _ => h.paused _, fun _ _ => h.paused _⟩

theorem quoted_ensures (h : Moved p tradeId row [] .allowed txHash q) (prices : QuotePrices) :
    Script.Ensures (write fun db now => pure (TradeStore.recordQuotePrices db now tradeId prices, ())) q
      (fun _ => Moved p tradeId row [] .allowed txHash) fun _ _ => False := by
  rw [ensures_write]
  constructor
  · intro out hout
    obtain rfl := pure_ok.1 hout
    obtain ⟨row', hg, hs, hh, hsame⟩ := h.row
    have hid : row'.id = tradeId := Table.key_of_get hg
    dsimp only
    unfold TradeStore.recordQuotePrices
    rw [hg]
    dsimp only
    refine ⟨⟨{ row' with quotePrices := some prices, updatedAt := q.clock }, ?_, hs, hh, ?_⟩, ?_, ?_⟩
    · show (q.db.trades.put _).get tradeId = _
      rw [Table.get_put, if_pos hid.symm]
    · exact hsame.trans ⟨_, _, _, _, _, rfl⟩
    · exact ((signedBy_emit (q := { q with db := _ }) (.wrote _)).trans (List.append_nil _)).trans h.signed
    · exact h.frame.trans ⟨_, _, _, rfl⟩
  · intro e he
    cases he

/-- **A paper call** never signs, and reports a failure only of a failed row. -/
theorem paper_ensures {action : ProposedAction} {quote : ExecutionQuote R} {prices : QuotePrices}
    (ha : action.quote.isSome) :
    Script.Ensures (write fun db now => PaperExecutor.execute db now tradeId action quote prices now) p
      (fun o t => Returned p tradeId misnamed o.status t) fun _ t => Threw p tradeId misnamed t := by
  rw [ensures_write]
  refine ⟨fun out hout => .inl ⟨(signedBy_emit (q := { p with db := out.1 }) (.wrote out.1)).trans (List.append_nil _),
    fun hfailed => ?_⟩, fun _ _ => .inl rfl⟩
  exact PaperExecutor.execute_failed ha hout hfailed

/-- **A call that is accepted** fails its row before it signs, and leaves the hash on it after. -/
theorem run_accepted {e : Execution R} (hg : TradeStore.get p.db tradeId = some row) (hs : row.status = .allowed)
    (ha : e.Accepted p.controls) : Script.Ensures (e.run tradeId) p (Returned p tradeId (e.Misnamed p.db row))
      fun _ => Threw p tradeId (e.Misnamed p.db row) := by
  have hp : Moved p tradeId row [] .allowed row.txHash p := hs ▸ Moved.refl hg
  cases e with
  | paper action quote prices =>
    unfold run
    rw [Script.ensures_bind]
    exact paper_ensures ha
  | swap x action quote prices =>
    obtain ⟨hreg, href⟩ := ha
    obtain ⟨adapter, hadapter⟩ := Option.isSome_iff_exists.1 hreg
    have hmis : (Execution.swap x action quote prices).Misnamed p.db row = MisnamedBy
        (x.sender adapter (some action.tokenOut.address)) action.chain
        (LiveExecutor.Bookable row · prices (some ⟨action.tokenIn.decimals, action.tokenOut.decimals⟩))
        fun receipt => (LiveExecutor.closing row receipt "").txHash := by
      funext signed
      simp [Misnamed, hadapter]
    rw [hmis]
    unfold run LiveExecutor.execute
    rw [Script.ensures_bind, Script.ensures_bind, Script.ensures_get, admitAction_some hadapter href, Script.ensures_bind]
    refine (quoted_ensures hp prices).mono (fun _ t ht => ?_) fun _ _ hfalse => hfalse.elim
    rw [Script.ensures_bind]
    refine (dispatch_ensures ht action).mono (fun _ t ht => ?_) fun _ _ hfalse => hfalse.elim
    unfold LiveExecutor.buildAndSend
    rw [Script.ensures_bind, Script.ensures_attempt, ensures_await]
    refine ⟨fun tx _ => ?_, fun e _ => (fail_ensures (ht.paused _) action _ _).mono (fun _ _ h => h)
      fun _ _ hfalse => hfalse.elim⟩
    rw [Script.ensures_bind, ensures_await]
    refine ⟨fun simulation _ => ?_, fun e _ => .inl (moved_unsigned ((ht.paused _).paused _))⟩
    by_cases hok : simulation.ok = true
    · rw [if_pos hok, Script.ensures_bind]
      refine (signAndSend_ensures ((ht.paused _).paused _)).mono (fun sent t' ht' => ?_) fun _ t' ht' =>
        .inl (moved_unsigned ht')
      exact settle_ensures ht'
    · rw [if_neg hok]
      exact (fail_ensures ((ht.paused _).paused _) action _ _).mono (fun _ _ h => h) fun _ _ hfalse => hfalse.elim
  | approve x action tx nativeUsd =>
    obtain ⟨hreg, href⟩ := ha
    obtain ⟨adapter, hadapter⟩ := Option.isSome_iff_exists.1 hreg
    have hmis : (Execution.approve x action tx nativeUsd : Execution R).Misnamed p.db row = MisnamedBy
        (x.sender adapter none) action.chain (LiveExecutor.Bookable row · ⟨"0", "0", nativeUsd⟩ none)
        fun receipt => (LiveExecutor.closing row receipt "").txHash := by
      funext signed
      simp [Misnamed, hadapter]
    rw [hmis]
    unfold run LiveExecutor.executeApprove
    rw [Script.ensures_bind, Script.ensures_bind, Script.ensures_get, admitAction_some hadapter href, Script.ensures_bind]
    refine (dispatch_ensures hp action).mono (fun _ t ht => ?_) fun _ _ hfalse => hfalse.elim
    rw [Script.ensures_bind]
    refine (signAndSend_ensures ht).mono (fun sent t' ht' => settle_ensures ht') fun _ t' ht' => .inl (moved_unsigned ht')
  | lp x action plan pool prices =>
    obtain ⟨hreg, href⟩ := ha
    obtain ⟨adapter, hadapter⟩ := Option.isSome_iff_exists.1 hreg
    have hmis : (Execution.lp x action plan pool prices).Misnamed p.db row = MisnamedBy
        (LiveLpExecutor.sender x adapter) action.chain
        (LiveLpExecutor.Bookable p.db x.host row action plan pool prices) fun receipt => some receipt.hash := by
      funext signed
      simp [Misnamed, hadapter]
    rw [hmis]
    unfold run LiveLpExecutor.execute
    rw [Script.ensures_bind, Script.ensures_bind, Script.ensures_get, admitAction_some hadapter href, Script.ensures_bind]
    refine (dispatch_ensures hp action).mono (fun _ t ht => ?_) fun _ _ hfalse => hfalse.elim
    unfold LiveLpExecutor.buildAndSend
    cases LiveLpExecutor.build x adapter action.chain plan with
    | error e => exact (lpFail_ensures ht action _ _).mono (fun _ _ h => h) fun _ _ hfalse => hfalse.elim
    | ok tx =>
      dsimp only
      rw [Script.ensures_bind]
      refine (simulate_ensures ht adapter tx).mono (fun reverted t ht => ?_) fun _ _ hfalse => hfalse.elim
      cases reverted with
      | some reason => exact (lpFail_ensures ht action _ _).mono (fun _ _ h => h) fun _ _ hfalse => hfalse.elim
      | none =>
        dsimp only
        rw [Script.ensures_bind]
        exact (signAndSend_ensures ht).mono (fun sent t' ht' => lpSettle_ensures ht') fun _ t' ht' =>
          .inl (moved_unsigned ht')

end

/-- What an accepted call signed is on its row, unless the receipt names another. -/
theorem signed_end {e : Execution R} {misnamed : SignedTransaction → Prop} {txs : List SignedTransaction}
    {tx : SignedTransaction} (h : Script.Ensures (e.run tradeId) p (Returned p tradeId misnamed)
      fun _ => Threw p tradeId misnamed)
    (htxs : signedBy ((e.run tradeId).exec p).2 = signedBy p ++ txs) (htx : tx ∈ txs) :
    Carries ((e.run tradeId).exec p).2 tradeId tx.hash ↔ ¬ misnamed tx := by
  have hcases : signedBy ((e.run tradeId).exec p).2 = signedBy p ∨
      SignedEnd p tradeId misnamed ((e.run tradeId).exec p).2 := by
    unfold Script.Ensures at h
    rcases hr : (e.run tradeId).exec p with ⟨_ | status, q⟩
    · rw [hr] at h
      exact h
    · rw [hr] at h
      exact h.imp_left And.left
  rcases hcases with hsame | ⟨signed, hsigned, hiff⟩
  · rw [hsame] at htxs
    obtain rfl : txs = [] := by simpa using htxs
    cases htx
  · rw [hsigned] at htxs
    obtain rfl := List.append_cancel_left htxs
    obtain rfl := List.mem_singleton.1 htx
    exact hiff

/-- **An execution of an allowed trade leaves it terminal when it fails before signing, and carrying its hash after,** exactly
when it is not refused before the trade is dispatched, and no receipt that it books names another transaction. -/
theorem settles_iff {e : Execution R} (hg : TradeStore.get p.db tradeId = some row) (hs : row.status = .allowed) :
    e.Settles tradeId p ↔ e.Accepted p.controls ∧ ∀ txs tx, signedBy ((e.run tradeId).exec p).2 = signedBy p ++ txs →
      tx ∈ txs → ¬ e.Misnamed p.db row tx := by
  constructor
  · intro h
    have ha : e.Accepted p.controls := by
      by_contra hrefused
      obtain ⟨q, hq, hsigned, hg'⟩ := run_refused hg hs hrefused
      obtain ⟨row', hg'', hterminal⟩ := h.unsigned q hq hsigned
      obtain rfl := Option.some.inj (hg'.symm.trans hg'')
      rw [hs] at hterminal
      rcases hterminal with h | h <;> cases h
    refine ⟨ha, fun txs tx htxs htx => ?_⟩
    have hend := signed_end (run_accepted hg hs ha) htxs htx
    exact hend.1 (h.signed txs tx htxs htx)
  · rintro ⟨ha, hnames⟩
    have hrun := run_accepted hg hs ha
    refine ⟨fun q hq hsigned => ?_, fun txs tx htxs htx => (signed_end hrun htxs htx).2 (hnames txs tx htxs htx)⟩
    rcases hrun.returned hq with ⟨-, hfailed⟩ | ⟨tx, htx, -⟩
    · obtain ⟨row', hg', hs'⟩ := hfailed rfl
      exact ⟨row', hg', .inl hs'⟩
    · rw [hsigned] at htx
      exact absurd htx (by simp)

/-! ### A swap the node does not answer, with the runtime paused and without -/

def liveSwap : ProposedAction := { Engine.paperSwap with mode := .LIVE }

def liveQuote : ExecutionQuote Unit :=
  { chain := .base, protocol := "aerodrome-v2", contract := liveSwap.contract, programIds := none
    tokenIn := liveSwap.tokenIn, tokenOut := liveSwap.tokenOut, amountIn := liveSwap.amountIn
    expectedAmountOut := "10000000000000000", minAmountOut := "9950000000000000", slippageBps := 50, priceImpactBps := 10
    quotedAt := 1700000000000, source := "aerodrome-v2", marketId := "usdc-weth", feeEstimate := liveSwap.feeEstimate
    routeData := none }

def livePrices : QuotePrices := ⟨"1", "2000", "2000"⟩

/-- An answer that never came. -/
def unanswered {α : Type} : Await α := ⟨⟨[], 1700000005000⟩, .error ⟨.upstreamUnavailable, "timeout"⟩⟩

def silentAdapter : ExecutionAdapter Unit :=
  { build := fun _ => unanswered, simulate := fun _ _ => unanswered, prepareSigning := fun _ _ => unanswered
    broadcast := fun _ => unanswered, receipt := fun _ _ => unanswered, polls := fun _ _ => [] }

def silentExecutor : LiveExecutor Unit :=
  { host := Engine.paperSwapHost
    codecs := ⟨fun _ => .error ⟨.schemaInvalid, "base58"⟩, fun _ => "", fun _ => .error ⟨.schemaInvalid, "base64"⟩⟩
    wallets := ⟨fun _ => .ok "0x00000000000000000000000000000000000000aa", fun _ _ => .error ⟨.vaultLocked, "locked"⟩⟩
    registry := fun chain => if chain = .base then some silentAdapter else none }

/-- The row of the swap, decided and not yet dispatched. -/
def allowedRow : TradeRow :=
  { id := "t1", actionId := liveSwap.actionId, decisionCycleId := liveSwap.decisionCycleId, mode := .LIVE, chain := .base
    protocol := liveSwap.protocol, kind := .swap, side := .open
    marketKey := marketKey .base liveSwap.tokenIn.address liveSwap.tokenOut.address
    tokenIn := liveSwap.tokenIn.address, tokenOut := liveSwap.tokenOut.address, tokenInDecimals := some 6
    tokenOutDecimals := some 18, quotePrices := none, amountIn := liveSwap.amountIn
    expectedOut := some "10000000000000000", minOut := some "9950000000000000", filledOut := none, feeNative := none
    feeUsd := none, amountInUsd := some "20.000000", status := .allowed, rejectionCode := none, txHash := none
    route := ⟨false, none, none⟩, rationale := none, error := none, proposedAt := 1700000000000, updatedAt := 1700000000000
    filledAt := none }

def liveProcess (paused : Bool) : Process :=
  { db := { Db.empty with trades := Db.empty.trades.put allowedRow }
    controls := ⟨some .LIVE, ⟨paused, false, none, none⟩, ⟨fun _ => none, none⟩⟩
    clock := 1700000001000, log := [] }

theorem settles_unanswered : (Execution.swap silentExecutor liveSwap liveQuote livePrices).Settles "t1" (liveProcess false) := by
  have hg : TradeStore.get (liveProcess false).db "t1" = some allowedRow := by decide
  refine (settles_iff hg rfl).2 ⟨by decide, ?_⟩
  rintro txs tx - - ⟨adapter, ha, wallet, receipt, -, hc, -⟩
  obtain rfl : silentAdapter = adapter := Option.some.inj ha
  cases hc

/-- **A pause engaged between the decision and the call** is reported as a failed execution, and the row stays `allowed`. -/
theorem paused_not_settled :
    ¬ (Execution.swap silentExecutor liveSwap liveQuote livePrices).Settles "t1" (liveProcess true) := by
  intro h
  have hg : TradeStore.get (liveProcess true).db "t1" = some allowedRow := by decide
  obtain ⟨q, hq, hsigned, hg'⟩ := run_refused (e := .swap silentExecutor liveSwap liveQuote livePrices) hg rfl (by decide)
  obtain ⟨row, hrow, hterminal⟩ := h.unsigned q hq hsigned
  obtain rfl := Option.some.inj (hg'.symm.trans hrow)
  exact absurd hterminal (by decide)

end Execution

end Atra
