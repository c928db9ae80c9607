import Atra.History
import Atra.Reconcile
/-!
# LiveCrashes — a live swap is booked once, unless the process dies half way through its booking

A process commits one statement or one transaction at a time, and can die after any of them; the next one starts from what
was committed and reconciles.  The fill and the row's move to `filled` are two commits.  From a database without a fill whose
row is still open, every commit leaves each trade with one fill at most; a process that dies between the two leaves such a
fill behind, and the next one books the trade again.
-/
namespace Atra

open History Money Live

/-! ## Databases without a half-booked trade -/

def fillsOf (db : Db) (tradeId : String) : Nat := db.fills.countP fun fill => fill.tradeId = tradeId

def AtMostOnce (db : Db) : Prop := ∀ tradeId, fillsOf db tradeId ≤ 1

/-- Every trade with a fill is filled. -/
def NoneHalfBooked (db : Db) : Prop :=
  ∀ tradeId, 0 < fillsOf db tradeId → ∃ row, TradeStore.get db tradeId = some row ∧ row.status = .filled

theorem noneHalfBooked_of_all {db : Db}
    (h : (db.fills.all fun fill => (TradeStore.get db fill.tradeId).any fun row => row.status = .filled) = true) :
    NoneHalfBooked db := by
  intro id hpos
  obtain ⟨fill, hfill, hid⟩ := List.countP_pos_iff.1 hpos
  have hrow := List.all_eq_true.1 h fill hfill
  rw [of_decide_eq_true hid, Option.any_eq_true] at hrow
  obtain ⟨row, hget, hstatus⟩ := hrow
  exact ⟨row, hget, of_decide_eq_true hstatus⟩

structure Whole (db : Db) : Prop where
  once : AtMostOnce db
  closed : NoneHalfBooked db

theorem whole_empty : Whole Db.empty := ⟨fun _ => Nat.zero_le _, fun _ h => absurd h (Nat.lt_irrefl 0)⟩

theorem Whole.keep {db db' : Db} (h : Whole db) (hfills : db'.fills = db.fills)
    (hrows : ∀ id row, TradeStore.get db id = some row → row.status = .filled →
      ∃ row', TradeStore.get db' id = some row' ∧ row'.status = .filled) : Whole db' := by
  have hcount : ∀ id, fillsOf db' id = fillsOf db id := fun id => by
    unfold fillsOf
    rw [hfills]
  refine ⟨fun id => (hcount id).symm ▸ h.once id, fun id hpos => ?_⟩
  rw [hcount] at hpos
  obtain ⟨row, hrow, hstatus⟩ := h.closed id hpos
  exact hrows id row hrow hstatus

variable {db : Db} {now : Int} {tradeId : String}

theorem Whole.transition (h : Whole db) {next : TradeStatus} {fields : TradeRow → TradeRow} {out : Db × TradeRow}
    (hout : TradeStore.transition db now tradeId next fields = .ok out) : Whole out.1 := by
  obtain ⟨_, _, _, hframe⟩ := transition_frame hout
  refine h.keep (by rw [hframe]) fun id row hrow hstatus => ?_
  obtain ⟨current, hcurrent, hnext, hout2, hdb⟩ := TradeStore.transition_ok.1 hout
  have hne : id ≠ tradeId := by
    rintro rfl
    obtain rfl := Option.some.inj (hcurrent.symm.trans hrow)
    rw [hstatus] at hnext
    cases hnext
  refine ⟨row, ?_, hstatus⟩
  rw [hdb]
  show (db.trades.put out.2).get id = some row
  rw [Table.get_put, if_neg (by rw [hout2]; exact hne)]
  exact hrow

theorem Whole.recordQuotePrices (h : Whole db) (prices : QuotePrices) :
    Whole (TradeStore.recordQuotePrices db now tradeId prices) := by
  unfold TradeStore.recordQuotePrices
  cases hg : TradeStore.get db tradeId with
  | none => exact h
  | some current =>
    refine h.keep rfl fun id row hrow hstatus => ?_
    have hkey : current.id = tradeId := Table.key_of_get hg
    show ∃ row', (db.trades.put { current with quotePrices := some prices, updatedAt := now }).get id = some row' ∧ _
    rw [Table.get_put]
    by_cases hid : id = tradeId
    · subst hid
      obtain rfl := Option.some.inj (hg.symm.trans hrow)
      exact ⟨_, if_pos hkey.symm, hstatus⟩
    · exact ⟨row, (if_neg fun hc => hid (hc.trans hkey)).trans hrow, hstatus⟩

theorem Whole.cooldowns (h : Whole db) (action : ProposedAction) : Whole (RiskGate.markDispatched db now action) := by
  obtain ⟨_, _, heq⟩ := RiskGate.markDispatched_eq db now action
  rw [heq]
  exact h.keep rfl fun _ row hrow hstatus => ⟨row, hrow, hstatus⟩

theorem Whole.propose (h : Whole db) {id : String} {action : ProposedAction} {side : TradeSide} {route : TradeRoute}
    {out : Db × TradeRow} (hout : TradeStore.propose db id now action side route = .ok out) : Whole out.1 := by
  unfold TradeStore.propose at hout
  by_cases hid : (TradeStore.get db id).isSome
  · rw [if_pos hid] at hout
    cases hout
  · rw [if_neg hid] at hout
    split at hout
    · cases hout
    · obtain rfl := pure_ok.1 hout
      refine h.keep rfl fun id' row hrow hstatus => ⟨row, ?_, hstatus⟩
      have hne : id' ≠ id := by
        rintro rfl
        exact hid (by rw [hrow]; rfl)
      show (db.trades.put _).get id' = some row
      rw [Table.get_put, if_neg hne]
      exact hrow

/-! ## The two commits of a booking -/

theorem recordFill_fills {input : RecordFillInput} {out : Db × FillRow}
    (h : LedgerService.recordFill db now input = .ok out) : out.1.trades = db.trades ∧
      ∀ id, fillsOf out.1 id = fillsOf db id + if id = input.tradeId then 1 else 0 := by
  obtain ⟨f, paid, hp, hout, -, -, -, hid⟩ := LedgerService.recordFill_ok h
  obtain ⟨_, rfl⟩ := LedgerService.payPaper_eq hp
  obtain ⟨_, hb⟩ : ∃ positions, f.bought (f.sold db) = { db with positions } := f.bought_eq
  rw [hb] at hout
  refine ⟨by rw [hout], fun id => ?_⟩
  unfold fillsOf
  rw [hout]
  show (db.fills ++ [out.2]).countP _ = _
  rw [List.countP_append, List.countP_singleton, hid]
  by_cases heq : id = input.tradeId
  · rw [if_pos heq, if_pos (by simp [heq])]
  · rw [if_neg heq, if_neg (by simp [Ne.symm heq])]

/-- **A fill of an open trade** is its first one. -/
theorem Whole.recordFill (h : Whole db) {input : RecordFillInput} {out : Db × FillRow} {row : TradeRow}
    (hg : TradeStore.get db input.tradeId = some row) (hs : row.status ≠ .filled)
    (hout : LedgerService.recordFill db now input = .ok out) : AtMostOnce out.1 := by
  intro id
  rw [(recordFill_fills hout).2]
  by_cases heq : id = input.tradeId
  · have hzero : fillsOf db id = 0 := by
      by_contra hne
      obtain ⟨row', hrow', hstatus⟩ := h.closed id (Nat.pos_of_ne_zero hne)
      rw [heq, hg] at hrow'
      exact hs (Option.some.inj hrow' ▸ hstatus)
    rw [if_pos heq, hzero]
  · rw [if_neg heq]
    exact h.once id

/-- **Closing the trade of a fill** leaves nothing half booked. -/
theorem Whole.close (h : Whole db) {input : RecordFillInput} {out : Db × FillRow} {closed : Db × TradeRow} {row : TradeRow}
    {fields : TradeRow → TradeRow} {later : Int} (hg : TradeStore.get db input.tradeId = some row)
    (hs : row.status ≠ .filled) (hout : LedgerService.recordFill db now input = .ok out)
    (hclosed : TradeStore.transition out.1 later input.tradeId .filled fields = .ok closed) : Whole closed.1 := by
  obtain ⟨htrades, hfills⟩ := recordFill_fills hout
  obtain ⟨_, _, _, hframe⟩ := transition_frame hclosed
  obtain ⟨current, -, -, hrow, hdb⟩ := TradeStore.transition_ok.1 hclosed
  have hcount : ∀ id, fillsOf closed.1 id = fillsOf out.1 id := fun id => by
    rw [hframe]
    rfl
  refine ⟨fun id => (hcount id).symm ▸ h.recordFill hg hs hout id, fun id hpos => ?_⟩
  have hget : TradeStore.get closed.1 id = if id = input.tradeId then some closed.2 else TradeStore.get db id := by
    rw [hdb]
    show (out.1.trades.put closed.2).get id = _
    rw [Table.get_put, htrades, hrow]
    rfl
  rw [hget]
  by_cases heq : id = input.tradeId
  · exact ⟨closed.2, if_pos heq, by rw [hrow]⟩
  · rw [if_neg heq]
    rw [hcount, hfills, if_neg heq] at hpos
    exact h.closed id hpos

/-! ## Scripts that book a trade once -/

/-- The databases a process committed, oldest first. -/
def committed (log : List LiveEvent) : List Db :=
  log.filterMap fun e => match e with
    | .wrote db => some db
    | _ => none

/-- From a whole database, every commit leaves each trade with one fill at most, and the last one a whole database. -/
structure Safe (q t : Process) : Prop where
  log : ∃ more, t.log = q.log ++ more ∧ (Whole q.db → ∀ db ∈ committed more, AtMostOnce db)
  whole : Whole q.db → Whole t.db

theorem Safe.refl (q : Process) : Safe q q := ⟨⟨[], (List.append_nil _).symm, fun _ db h => (by cases h)⟩, id⟩

theorem Safe.trans {a b c : Process} (h : Safe a b) (h' : Safe b c) : Safe a c := by
  obtain ⟨⟨more, hlog, honce⟩, hwhole⟩ := h
  obtain ⟨⟨more', hlog', honce'⟩, hwhole'⟩ := h'
  refine ⟨⟨more ++ more', by rw [hlog', hlog, List.append_assoc], fun hw db hdb => ?_⟩, fun hw => hwhole' (hwhole hw)⟩
  unfold committed at hdb
  rw [List.filterMap_append, List.mem_append] at hdb
  rcases hdb with hdb | hdb
  · exact honce hw db hdb
  · exact honce' (hwhole hw) db hdb

theorem safe_uncommitted {q t : Process} {more : List LiveEvent} (hdb : t.db = q.db) (hlog : t.log = q.log ++ more)
    (hmore : committed more = []) : Safe q t :=
  ⟨⟨more, hlog, fun _ db h => (by rw [hmore] at h; cases h)⟩, fun hw => by rwa [hdb]⟩

theorem safe_wrote {q : Process} {db : Db} (hdb : Whole q.db → Whole db) :
    Safe q { q with db, log := q.log ++ [.wrote db] } :=
  ⟨⟨[.wrote db], rfl, fun hw _ h => (List.mem_singleton.1 h) ▸ (hdb hw).once⟩, hdb⟩

section
variable {α β ρ : Type} {q : Process} {x : Live α} {f : α → Live β}

theorem safe_bind (hx : Script.Keeps Safe x) (hf : ∀ a, Script.Keeps Safe (f a)) : Script.Keeps Safe (x >>= f) :=
  Script.Keeps.bind (fun h h' => h.trans h') (fun h => h) hx hf

theorem safe_pure (a : α) : Script.Keeps Safe (pure a : Live α) := Script.keeps_pure Safe.refl a

theorem safe_throw (e : AppError) : Script.Keeps Safe (throw e : Live α) := Script.keeps_throw Safe.refl e

theorem safe_get : Script.Keeps Safe (get : Live Process) := Script.keeps_get Safe.refl

theorem safe_lift (r : Result α) : Script.Keeps Safe (liftM r : Live α) := Script.keeps_lift Safe.refl r

theorem safe_sleep (a : Pause) : Script.Keeps Safe (sleep a) := fun q =>
  safe_uncommitted (t := paused q a) rfl (List.append_nil _).symm rfl

theorem safe_await (a : Await α) : Script.Keeps Safe (await a) := safe_bind (safe_sleep _) fun _ => safe_lift _

theorem safe_emit {e : LiveEvent} (h : committed [e] = []) : Script.Keeps Safe (emit e) := fun q =>
  safe_uncommitted (t := { q with log := q.log ++ [e] }) rfl rfl h

theorem safe_write {f : Db → Int → Result (Db × α)} (hf : ∀ db now out, f db now = .ok out → Whole db → Whole out.1) :
    Script.Keeps Safe (write f) := by
  refine Script.keeps_of_ensures fun q => ensures_write.2 ⟨fun out hout => ?_, fun e _ => Safe.refl q⟩
  exact safe_wrote (hf _ _ _ hout)

theorem safe_transition {tradeId : String} {next : TradeStatus} {fields : Int → TradeRow → TradeRow} :
    Script.Keeps Safe (write fun db now => TradeStore.transition db now tradeId next (fields now)) :=
  safe_write fun _ _ _ hout hw => hw.transition hout

theorem safe_markFailed (tradeId reason : String) : Script.Keeps Safe (Live.markFailed tradeId reason) := by
  have hfail : Script.Keeps Safe (write fun db now => TradeStore.markFailed db now tradeId reason) := safe_transition
  unfold Live.markFailed
  refine safe_bind hfail.attempt fun r => ?_
  cases r with
  | ok _ => exact safe_pure _
  | error e =>
    dsimp only
    by_cases hc : e.code = .conflict
    · rw [if_pos hc]
      exact safe_pure _
    · rw [if_neg hc]
      exact safe_throw e

theorem safe_stop (tradeId reason : String) (txHash : Option String) (time : Int) :
    Script.Keeps Safe (stop tradeId reason txHash time : Live (Sent ρ)) :=
  safe_bind (safe_markFailed _ _) fun _ => safe_pure _

theorem safe_leaveOpen (reason txHash : String) : Script.Keeps Safe (leaveOpen reason txHash : Live (Sent ρ)) :=
  safe_bind safe_get fun _ => safe_pure _

theorem safe_awaitReceipt (status : ρ → ReceiptStatus) (last : Option ρ) (polls : List (Await ρ × Pause)) :
    Script.Keeps Safe (awaitReceipt status last polls) := by
  induction polls generalizing last with
  | nil => exact safe_pure _
  | cons poll polls ih =>
    unfold awaitReceipt
    refine safe_bind (safe_await _).attempt fun r => ?_
    cases r with
    | error e => exact safe_bind (safe_sleep _) fun _ => ih _
    | ok receipt =>
      dsimp only
      by_cases hf : final (status receipt) = true
      · rw [if_pos hf]
        exact safe_pure _
      · rw [if_neg hf]
        exact safe_bind (safe_sleep _) fun _ => ih _

theorem safe_confirm (s : Sender ρ) (tradeId txHash : String) (receipt : Option ρ) (startedAt : Int) :
    Script.Keeps Safe (confirm s tradeId txHash receipt startedAt) := by
  unfold confirm
  cases receipt with
  | none => exact safe_leaveOpen _ _
  | some r =>
    dsimp only
    cases s.status r with
    | pending => exact safe_leaveOpen _ _
    | unknown => exact safe_leaveOpen _ _
    | failed => exact safe_stop _ _ _ _
    | confirmed => exact safe_pure _

theorem safe_send (s : Sender ρ) (tradeId wallet : String) (signed : SignedTransaction) (startedAt : Int) :
    Script.Keeps Safe (send s tradeId wallet signed startedAt) := by
  have hsigned : Script.Keeps Safe (write fun db now => TradeStore.markSigned db now tradeId signed.hash) := safe_transition
  have hbroadcast : Script.Keeps Safe (write fun db now => TradeStore.markBroadcast db now tradeId) := safe_transition
  unfold send
  refine safe_bind hsigned fun _ => safe_bind safe_get fun p => safe_bind (safe_emit rfl) fun _ => ?_
  refine safe_bind (safe_await _).attempt fun r => ?_
  cases r with
  | error e => exact safe_leaveOpen _ _
  | ok _ =>
    exact safe_bind hbroadcast fun _ => safe_bind (safe_awaitReceipt _ _ _) fun _ => safe_confirm _ _ _ _ _

theorem safe_sign (wallets : WalletService) (chain : ChainId) (context : SigningContext) :
    Script.Keeps Safe (sign wallets chain context) :=
  safe_bind safe_get fun _ => safe_bind (safe_emit rfl) fun _ => safe_bind (safe_lift _) fun _ =>
    safe_bind (safe_emit rfl) fun _ => safe_pure _

theorem safe_vetAndSign (s : Sender ρ) (tradeId wallet : String) (action : ProposedAction) (context : SigningContext)
    (startedAt : Int) : Script.Keeps Safe (vetAndSign s tradeId wallet action context startedAt) := by
  unfold vetAndSign
  refine safe_bind safe_get fun p => safe_bind (safe_lift _) fun vetted => ?_
  cases vetted with
  | some reason => exact safe_stop _ _ _ _
  | none =>
    refine safe_bind (safe_sign _ _ _).attempt fun r => ?_
    cases r with
    | error e => exact safe_stop _ _ _ _
    | ok signed => exact safe_send _ _ _ _ _

theorem safe_signAndSend (s : Sender ρ) (tradeId : String) (action : ProposedAction) (tx : UnsignedTransaction) :
    Script.Keeps Safe (signAndSend s tradeId action tx) := by
  unfold signAndSend
  refine safe_bind safe_get fun p => safe_bind (safe_lift _) fun wallet => safe_bind (safe_await _).attempt fun r => ?_
  cases r with
  | error e => exact safe_stop _ _ _ _
  | ok context => exact safe_vetAndSign _ _ _ _ _ _

end

/-! ## Bookings and executions -/

section
variable {R : Type} {q : Process} {trade current row : TradeRow} {tradeId : String}

/-- A run that is safe however it ends. -/
def SafeFrom {α : Type} (q : Process) (x : Live α) : Prop := Script.Ensures x q (fun _ t => Safe q t) fun _ t => Safe q t

theorem safeFrom_of_keeps {α : Type} {x : Live α} (h : Script.Keeps Safe x) : SafeFrom q x := h.ensures q

theorem safeFrom_bind {α β : Type} {x : Live α} {f : α → Live β} {P : α → Process → Prop}
    (hx : Script.Ensures x q (fun a t => P a t ∧ Safe q t) fun _ t => Safe q t)
    (hf : ∀ a t, P a t → SafeFrom t (f a)) : SafeFrom q (x >>= f) := by
  unfold SafeFrom
  rw [Script.ensures_bind]
  refine hx.mono (fun a t h => ?_) fun _ _ h => h
  exact (hf a t h.1).mono (fun _ _ h' => h.2.trans h') fun _ _ h' => h.2.trans h'

/-- **Booking an open trade** writes its fill and closes it, in two commits. -/
theorem bookFill_safe {receipt : ExecutionReceipt} {prices : QuotePrices} {decimals : Option LiveExecutor.PairDecimals}
    (hg : TradeStore.get q.db trade.id = some current) (hs : current.status = .broadcast) :
    SafeFrom q (LiveExecutor.bookFill trade receipt prices decimals) := by
  have hopen : current.status ≠ .filled := by
    rw [hs]
    decide
  have hclose : Script.Keeps Safe (write fun db now => TradeStore.markFilled db now trade.id
      (LiveExecutor.closing trade receipt (LiveExecutor.feeUsdOf trade.chain receipt prices.nativeUsd))) := safe_transition
  unfold LiveExecutor.bookFill LiveExecutor.writeLedger
  by_cases hb : LiveExecutor.booked trade prices = true
  · unfold SafeFrom
    rw [if_pos hb]
    simp only [Script.ensures_bind, ensures_write, Script.ensures_pure]
    refine ⟨fun out hout => ⟨fun closed hclosed => ?_, fun e he => ?_⟩, fun _ _ => Safe.refl q⟩
    · refine ⟨⟨[.wrote out.1, .wrote closed.1], by simp, fun hw db hdb => ?_⟩, fun hw => hw.close hg hopen hout hclosed⟩
      rcases List.mem_cons.1 hdb with rfl | hdb
      · exact hw.recordFill hg hopen hout
      · exact (List.mem_singleton.1 hdb) ▸ (hw.close hg hopen hout hclosed).once
    · -- an open row can be closed
      have hg' : TradeStore.get out.1 trade.id = some current := by
        unfold TradeStore.get
        rw [(recordFill_fills hout).1]
        exact hg
      obtain ⟨closed, hclosed⟩ : ∃ closed, TradeStore.markFilled out.1 q.clock trade.id
          (LiveExecutor.closing trade receipt (LiveExecutor.feeUsdOf trade.chain receipt prices.nativeUsd)) = .ok closed :=
        TradeStore.transition_of_mem hg' (by rw [hs]; decide)
      rw [hclosed] at he
      cases he
  · rw [if_neg hb]
    exact safeFrom_of_keeps (safe_bind (safe_pure _) fun _ => safe_bind hclose fun _ => safe_pure _)

/-- **Settling** books a trade that its own transaction left broadcast. -/
theorem settle_safe {x : LiveExecutor R} {adapter : ExecutionAdapter R} {tokenOut : Option String} {chain : ChainId}
    {action : ProposedAction} {prices : QuotePrices} {decimals : Option LiveExecutor.PairDecimals}
    {sent : Sent ExecutionReceipt} {p : Process} (h : Sends (x.sender adapter tokenOut) chain p tradeId row sent q) :
    SafeFrom q (LiveExecutor.settle tradeId action prices decimals sent) := by
  cases sent with
  | stopped reason txHash time => exact safeFrom_of_keeps (safe_pure _)
  | confirmed txHash receipt =>
    obtain ⟨current, hg, hs⟩ : ∃ current, TradeStore.get q.db tradeId = some current ∧ current.status = .broadcast := by
      rcases h with ⟨reason, time, hsent, -⟩ | ⟨wallet, signed, -, hend⟩
      · cases hsent
      · cases hend with
        | confirmed hc hm =>
          obtain ⟨current, hg, hs, -⟩ := hm.row
          exact ⟨current, hg, hs⟩
    obtain rfl : current.id = tradeId := Table.key_of_get hg
    unfold LiveExecutor.settle SafeFrom
    dsimp only
    rw [Script.ensures_bind, Script.ensures_get, hg]
    refine safeFrom_bind (P := fun _ _ => True) ?_ fun _ t _ => safeFrom_of_keeps (safe_bind safe_get fun _ => safe_pure _)
    exact (bookFill_safe hg hs).mono (fun _ _ ht => ⟨trivial, ht⟩) fun _ _ ht => ht

theorem sendAndSettle_safe {x : LiveExecutor R} {adapter : ExecutionAdapter R} {tokenOut : Option String}
    {action : ProposedAction} {tx : UnsignedTransaction} {prices : QuotePrices}
    {decimals : Option LiveExecutor.PairDecimals} (hd : Dispatched q.db tradeId) :
    SafeFrom q (signAndSend (x.sender adapter tokenOut) tradeId action tx >>=
      LiveExecutor.settle tradeId action prices decimals) := by
  obtain ⟨row, hg, hs⟩ := hd
  have hm : Moved q tradeId row [] .dispatched row.txHash q := hs ▸ Moved.refl hg
  have hsafe : SafeFrom q (signAndSend (x.sender adapter tokenOut) tradeId action tx) :=
    safeFrom_of_keeps (safe_signAndSend _ _ _ _)
  exact safeFrom_bind (((signAndSend_ensures hm).and hsafe).mono (fun _ _ h => h) fun _ _ h => h.2)
    fun sent t hsent => settle_safe hsent

theorem safe_fail (action : ProposedAction) (reason : String) (filledAt : Int) :
    Script.Keeps Safe (LiveExecutor.fail tradeId action reason filledAt) :=
  safe_bind (safe_markFailed _ _) fun _ => safe_pure _

/-- **Dispatching** leaves the trade dispatched, or throws. -/
theorem dispatch_safe (action : ProposedAction) : Script.Ensures (dispatch tradeId action) q
    (fun _ t => Dispatched t.db tradeId ∧ Safe q t) fun _ t => Safe q t := by
  unfold dispatch
  simp only [Script.ensures_bind, ensures_write]
  refine ⟨fun out hout => ⟨fun started hstarted => ?_, fun e he => ?_⟩, fun _ _ => Safe.refl q⟩
  · obtain rfl := pure_ok.1 hstarted
    refine ⟨started_dispatched hout, (safe_wrote fun hw => hw.transition hout).trans (safe_wrote fun hw => ?_)⟩
    exact hw.cooldowns action
  · cases he

variable {x : LiveExecutor R}

theorem buildAndSend_safe {adapter : ExecutionAdapter R} {action : ProposedAction} {quote : ExecutionQuote R}
    {prices : QuotePrices} {startedAt : Int} (hd : Dispatched q.db tradeId) :
    SafeFrom q (x.buildAndSend adapter tradeId action quote prices startedAt) := by
  have hawait : ∀ {α : Type} (a : Await α) {p : Process}, Dispatched p.db tradeId →
      Script.Ensures (await a) p (fun _ t => Dispatched t.db tradeId ∧ Safe p t)
        fun _ t => Dispatched t.db tradeId ∧ Safe p t := by
    intro α a p hp
    have hs := safe_sleep a.toPause p
    exact (ensures_await a).2 ⟨fun _ _ => ⟨hp, hs⟩, fun _ _ => ⟨hp, hs⟩⟩
  unfold LiveExecutor.buildAndSend
  refine safeFrom_bind (P := fun _ t => Dispatched t.db tradeId) ?_ fun r t ht => ?_
  · rw [Script.ensures_attempt]
    exact (hawait (adapter.build quote) hd).mono (fun _ _ h => h) fun _ _ h => h
  · cases r with
    | error e => exact safeFrom_of_keeps (safe_fail _ _ _)
    | ok tx =>
      refine safeFrom_bind ((hawait (adapter.simulate quote tx) ht).mono (fun _ _ h => h) fun _ _ h => h.2)
        fun simulation t' ht' => ?_
      by_cases hok : simulation.ok = true
      · rw [if_pos hok]
        exact sendAndSettle_safe ht'
      · rw [if_neg hok]
        exact safeFrom_of_keeps (safe_fail _ _ _)

theorem admit_safe {A β : Type} {registered : Option A} {controls : Controls} {action : ProposedAction} {missing : String}
    {fail : String → Live β} {go : A → Live β} (hfail : ∀ reason, SafeFrom q (fail reason))
    (hgo : ∀ adapter, SafeFrom q (go adapter)) : SafeFrom q (admitAction registered controls action missing fail go) := by
  unfold admitAction
  cases registered with
  | none => exact hfail _
  | some adapter =>
    dsimp only
    cases refusal controls action with
    | some reason => exact hfail reason
    | none => exact hgo adapter

/-- **An execution** books its trade once. -/
theorem safe_execute (action : ProposedAction) (quote : ExecutionQuote R) (prices : QuotePrices) :
    Script.Keeps Safe (x.execute tradeId action quote prices) := by
  refine Script.keeps_of_ensures fun q => ?_
  unfold LiveExecutor.execute
  rw [Script.ensures_bind, Script.ensures_get]
  refine admit_safe (fun reason => safeFrom_of_keeps (safe_fail _ _ _)) fun adapter => ?_
  have hprices : Script.Keeps Safe (write fun db now => pure (TradeStore.recordQuotePrices db now tradeId prices, ())) :=
    safe_write fun db now out hout hw => by
      obtain rfl := pure_ok.1 hout
      exact hw.recordQuotePrices prices
  refine safeFrom_bind (P := fun _ _ => True)
    ((hprices.ensures q).mono (fun _ _ h => ⟨trivial, h⟩) fun _ _ h => h) fun _ t _ => ?_
  exact safeFrom_bind (dispatch_safe action) fun _ t' ht' => buildAndSend_safe ht'

theorem safe_executeApprove (action : ProposedAction) (tx : UnsignedTransaction) (nativeUsd : String) :
    Script.Keeps Safe (x.executeApprove tradeId action tx nativeUsd) := by
  refine Script.keeps_of_ensures fun q => ?_
  unfold LiveExecutor.executeApprove
  rw [Script.ensures_bind, Script.ensures_get]
  refine admit_safe (fun reason => safeFrom_of_keeps (safe_fail _ _ _)) fun adapter => ?_
  exact safeFrom_bind (dispatch_safe action) fun _ t ht => sendAndSettle_safe ht

/-! ## Reconciling -/

theorem safe_assumeBroadcast (trade : TradeRow) : Script.Keeps Safe (assumeBroadcast trade) := by
  have hbroadcast : Script.Keeps Safe (write fun db now => TradeStore.markBroadcast db now trade.id) := safe_transition
  unfold assumeBroadcast
  split
  · exact safe_bind hbroadcast fun _ => safe_pure _
  · exact safe_pure _

theorem safe_failRow (trade : TradeRow) (reason : String) (report : ReconcileReport) :
    Script.Keeps Safe (failRow trade reason report) := by
  have hfail : Script.Keeps Safe (write fun db now => TradeStore.markFailed db now trade.id reason) := safe_transition
  exact safe_bind hfail fun _ => safe_pure _

/-- **Settling a row in flight** books it once. -/
theorem settleRow_safe {answer : Except AppError ExecutionReceipt} {report : ReconcileReport}
    (hg : TradeStore.get q.db trade.id = some trade) (hs : trade.status = .signed ∨ trade.status = .broadcast) :
    SafeFrom q (settleRow x.reconciler trade answer report) := by
  unfold settleRow
  cases answer with
  | error e => exact safeFrom_of_keeps (safe_pure _)
  | ok receipt =>
    dsimp only
    cases x.reconciler.status receipt with
    | pending => exact safeFrom_of_keeps (safe_pure _)
    | unknown => exact safeFrom_of_keeps (safe_pure _)
    | failed =>
      have hfail : Script.Keeps Safe (write fun db now => TradeStore.markFailed db now trade.id
          ((x.reconciler.error receipt).getD "transaction failed on chain")) := safe_transition
      exact safeFrom_of_keeps (safe_bind (safe_assumeBroadcast _) fun _ => safe_bind hfail fun _ => safe_pure _)
    | confirmed =>
      have hbroadcast := (assumeBroadcast_ensures hg hs).and ((safe_assumeBroadcast trade).ensures q)
      refine safeFrom_bind (hbroadcast.mono (fun _ _ h => h) fun _ _ h => h.2) fun _ t ht => ?_
      obtain ⟨-, -, current, hg', hs'⟩ := ht
      refine safeFrom_bind (P := fun _ _ => True) ?_ fun _ t' _ => safeFrom_of_keeps (safe_pure _)
      refine Script.Ensures.mono (safeFrom_bind (P := fun _ _ => True)
        ((bookFill_safe hg' hs').mono (fun _ _ h => ⟨trivial, h⟩) fun _ _ h => h) fun _ t' _ =>
          safeFrom_of_keeps (safe_pure _)) (fun _ _ h => ⟨trivial, h⟩) fun _ _ h => h

theorem reconcileRow_safe {report : ReconcileReport} (hg : TradeStore.get q.db trade.id = some trade)
    (hin : TradeStore.inFlight trade.status = true) : SafeFrom q (reconcileRow x.reconciler report trade) := by
  unfold reconcileRow
  split
  · exact safeFrom_of_keeps (safe_pure _)
  · by_cases hd : trade.status = .dispatched
    · rw [if_pos hd]
      exact safeFrom_of_keeps (safe_failRow _ _ _)
    · rw [if_neg hd]
      cases hashOf trade with
      | none => exact safeFrom_of_keeps (safe_failRow _ _ _)
      | some hash =>
        dsimp only
        cases x.reconciler.ask trade hash with
        | none => exact safeFrom_of_keeps (safe_pure _)
        | some question =>
          have hs : trade.status = .signed ∨ trade.status = .broadcast := (inFlight_cases hin).resolve_left hd
          dsimp only
          refine safeFrom_bind (P := fun _ t => TradeStore.get t.db trade.id = some trade) ?_ fun poll t ht => ?_
          · exact (Script.ensures_lift question).2 ⟨fun _ _ => ⟨hg, Safe.refl q⟩, fun _ _ => Safe.refl q⟩
          · refine safeFrom_bind (P := fun _ t => TradeStore.get t.db trade.id = some trade) ?_
              fun answer t' ht' => settleRow_safe ht' hs
            rw [Script.ensures_attempt, ensures_await]
            exact ⟨fun _ _ => ⟨ht, safe_sleep poll.toPause t⟩, fun _ _ => ⟨ht, safe_sleep poll.toPause t⟩⟩

theorem pass_safe {rows : List TradeRow} {report : ReconcileReport} (hnodup : (rows.map TradeRow.id).Nodup)
    (hg : ∀ trade ∈ rows, TradeStore.get q.db trade.id = some trade ∧ TradeStore.inFlight trade.status = true) :
    SafeFrom q (rows.foldlM (reconcileRow x.reconciler) report) := by
  induction rows generalizing q report with
  | nil => exact safeFrom_of_keeps (safe_pure _)
  | cons trade rows ih =>
    rw [List.map_cons, List.nodup_cons] at hnodup
    rw [List.foldlM_cons]
    obtain ⟨hgt, hin⟩ := hg trade List.mem_cons_self
    have hrest : ∀ other ∈ rows, TradeStore.get q.db other.id = some other ∧ TradeStore.inFlight other.status = true :=
      fun other ho => hg other (List.mem_cons_of_mem _ ho)
    by_cases hmine : x.reconciler.mine trade = true
    · have hrow := (reconcileRow_ensures (LiveExecutor.reconciler_books x fun _ => True) hmine hgt hin).and
        (@reconcileRow_safe _ _ _ x report hgt hin)
      refine safeFrom_bind (hrow.mono (fun _ _ h => h) fun _ _ h => h.2) fun report' t ht => ?_
      refine ih hnodup.2 fun other ho => ?_
      rw [ht.others other.id fun he => hnodup.1 (List.mem_map.2 ⟨other, ho, he⟩)]
      exact hrest other ho
    · have hskip : reconcileRow x.reconciler report trade = pure report := by
        unfold reconcileRow
        rw [if_pos (by simp [hmine])]
      rw [hskip, pure_bind]
      exact ih hnodup.2 hrest

theorem safe_reconcile : Script.Keeps Safe x.reconcile := by
  refine Script.keeps_of_ensures fun q => ?_
  unfold LiveExecutor.reconcile Live.reconcile
  rw [Script.ensures_bind, Script.ensures_get]
  exact pass_safe (nodup_listInFlight q.db) fun _ => mem_listInFlight.1

end

/-! ## Lives of a process -/

section
variable {R : Type}

/-- What a process does with the trades of live swaps: it records a proposal and its decision, executes what was allowed,
and reconciles. -/
inductive LiveTask (R : Type) where
  | propose (id : String) (action : ProposedAction) (side : TradeSide) (route : TradeRoute)
  | decide (tradeId : String) (decision : RiskDecision)
  | swap (x : LiveExecutor R) (tradeId : String) (action : ProposedAction) (quote : ExecutionQuote R)
    (prices : QuotePrices)
  | approve (x : LiveExecutor R) (tradeId : String) (action : ProposedAction) (tx : UnsignedTransaction)
    (nativeUsd : String)
  | reconcile (x : LiveExecutor R)

def LiveTask.run : LiveTask R → Live Unit
  | .propose id action side route => do
    let _ ← write fun db now => TradeStore.propose db id now action side route
  | .decide tradeId decision => do
    let _ ← write fun db now => TradeStore.decide db now tradeId decision
  | .swap x tradeId action quote prices => do
    let _ ← x.execute tradeId action quote prices
  | .approve x tradeId action tx nativeUsd => do
    let _ ← x.executeApprove tradeId action tx nativeUsd
  | .reconcile x => do
    let _ ← x.reconcile

/-- Tasks one after the other, whatever they throw, with the operator at the switches in between. -/
def runTasks : List (Pause × LiveTask R) → Live Unit
  | [] => pure ()
  | (pause, task) :: tasks => do
    sleep pause
    let _ ← Script.attempt task.run
    runTasks tasks

/-- A process from its start to its death, right after so many commits. -/
structure Life (R : Type) where
  controls : Controls
  clock : Int
  boot : LiveExecutor R
  tasks : List (Pause × LiveTask R)
  commits : Nat

def Life.script (life : Life R) : Live Unit := do
  let _ ← Script.attempt life.boot.reconcile
  runTasks life.tasks

/-- The databases a life goes through, from the one it finds to the one it leaves. -/
def Life.states (life : Life R) (db : Db) : List Db :=
  (db :: committed (life.script.exec ⟨db, life.controls, life.clock, []⟩).2.log).take (life.commits + 1)

/-- The database a life leaves. -/
def left (db : Db) (life : Life R) : Db := (life.states db).getLast?.getD db

theorem safe_task (task : LiveTask R) : Script.Keeps Safe task.run := by
  cases task with
  | propose id action side route =>
    have hpropose : Script.Keeps Safe (write fun db now => TradeStore.propose db id now action side route) :=
      safe_write fun _ _ _ hout hw => hw.propose hout
    exact safe_bind hpropose fun _ => safe_pure _
  | decide tradeId decision =>
    have hdecide : Script.Keeps Safe (write fun db now => TradeStore.decide db now tradeId decision) := by
      refine safe_write fun db now out hout hw => ?_
      unfold TradeStore.decide at hout
      split at hout
      · exact hw.transition hout
      · exact hw.transition hout
    exact safe_bind hdecide fun _ => safe_pure _
  | swap x tradeId action quote prices => exact safe_bind (safe_execute _ _ _) fun _ => safe_pure _
  | approve x tradeId action tx nativeUsd => exact safe_bind (safe_executeApprove _ _ _) fun _ => safe_pure _
  | reconcile x => exact safe_bind safe_reconcile fun _ => safe_pure _

theorem safe_runTasks (tasks : List (Pause × LiveTask R)) : Script.Keeps Safe (runTasks tasks) := by
  induction tasks with
  | nil => exact safe_pure _
  | cons task tasks ih => exact safe_bind (safe_sleep _) fun _ => safe_bind (safe_task _).attempt fun _ => ih

/-- **A life that starts whole** books each trade once at most, wherever it ends. -/
theorem once_of_whole {life : Life R} {db : Db} (h : Whole db) : ∀ d ∈ life.states db, AtMostOnce d := by
  have hsafe : Script.Keeps Safe life.script := safe_bind safe_reconcile.attempt fun _ => safe_runTasks _
  obtain ⟨⟨more, hlog, honce⟩, -⟩ := hsafe ⟨db, life.controls, life.clock, []⟩
  intro d hd
  have hmem := List.mem_of_mem_take hd
  rw [hlog] at hmem
  rcases List.mem_cons.1 hmem with rfl | hmem
  · exact h.once
  · exact honce h d hmem

theorem left_mem (life : Life R) (db : Db) : left db life ∈ life.states db := by
  unfold left Life.states
  rw [List.take_succ_cons, List.getLast?_cons, Option.getD_some]
  generalize committed (life.script.exec ⟨db, life.controls, life.clock, []⟩).2.log = log
  cases hlast : (log.take life.commits).getLast? with
  | none => exact List.mem_cons_self
  | some d => exact List.mem_cons_of_mem _ (List.mem_of_getLast? hlast)

theorem once_along {lives : List (Life R)} {db : Db} (hw : Whole db)
    (h : Along left (fun db life => NoneHalfBooked (left db life)) db lives) :
    Along left (fun db life => ∀ d ∈ life.states db, AtMostOnce d) db lives := by
  induction lives generalizing db with
  | nil => trivial
  | cons life lives ih => exact ⟨once_of_whole hw, ih ⟨once_of_whole hw _ (left_mem life db), h.1⟩ h.2⟩

/-- **A live swap is booked at most once** in every database that a run of lives goes through, when none of them leaves a
fill whose row is still open. -/
theorem booked_at_most_once (lives : List (Life R))
    (h : Along left (fun db life => NoneHalfBooked (left db life)) Db.empty lives) :
    Along left (fun db life => ∀ d ∈ life.states db, AtMostOnce d) Db.empty lives := once_along whole_empty h

/-! ### A death between the two commits -/

def answered {α : Type} (a : α) : Await α := ⟨⟨[], 1700000005000⟩, .ok a⟩

def confirmedReceipt : ExecutionReceipt := ⟨"0x5f", .confirmed, some "10000000000000000", some 100000000000000, none⟩

def confirmingAdapter : ExecutionAdapter Unit :=
  { build := fun _ => answered ⟨.base, "", ""⟩
    simulate := fun _ _ => answered ⟨true, none⟩
    prepareSigning := fun _ wallet =>
      answered (.evm ⟨8453, wallet, Execution.liveSwap.contract, "0x", "0", "200000", 0, "1000000000", "0"⟩)
    broadcast := fun _ => answered ()
    receipt := fun _ _ => answered confirmedReceipt
    polls := fun _ _ => [(answered confirmedReceipt, ⟨[], 1700000005000⟩)] }

def confirmingExecutor : LiveExecutor Unit :=
  { host := Engine.paperSwapHost
    codecs := ⟨fun _ => .error ⟨.schemaInvalid, "base58"⟩, fun _ => "", fun _ => .error ⟨.schemaInvalid, "base64"⟩⟩
    wallets := ⟨fun _ => .ok "0x00000000000000000000000000000000000000aa", fun _ _ => .ok ⟨"0x02", "0x5f"⟩⟩
    registry := fun chain => if chain = .base then some confirmingAdapter else none }

def allowedDecision : RiskDecision :=
  { schemaVersion := 1, engineVersion := "", actionId := Execution.liveSwap.actionId
    idempotencyKey := Execution.liveSwap.idempotencyKey, mode := .LIVE, evaluatedAt := 1700000001000
    policyHash := "", allowed := true, code := none, reason := "", checks := [], derived := none, replayOf := none }

/-- A swap is proposed, allowed and executed by a process that dies after so many commits. -/
def oneSwap (commits : Nat) : Life Unit :=
  { controls := ⟨some .LIVE, ⟨false, false, none, none⟩, ⟨fun _ => none, none⟩⟩
    clock := 1700000001000
    boot := confirmingExecutor
    tasks := [(⟨[], 1700000001000⟩, .propose "t1" Execution.liveSwap .open ⟨false, none, none⟩),
      (⟨[], 1700000001000⟩, .decide "t1" allowedDecision),
      (⟨[], 1700000001000⟩, .swap confirmingExecutor "t1" Execution.liveSwap Execution.liveQuote Execution.livePrices)]
    commits }

/-- The process that comes after. -/
def restarted : Life Unit := { oneSwap 100 with tasks := [] }

theorem restarted_once :
    Along left (fun db life => ∀ d ∈ life.states db, AtMostOnce d) Db.empty [oneSwap 9, restarted] := by
  refine booked_at_most_once _ ⟨?_, ?_, trivial⟩
  · exact noneHalfBooked_of_all (by decide +kernel)
  · exact noneHalfBooked_of_all (by decide +kernel)

/-- **A process that dies between the fill and the row** leaves a trade that the next one books again. -/
theorem restarted_twice :
    ¬ Along left (fun db life => ∀ d ∈ life.states db, AtMostOnce d) Db.empty [oneSwap 8, restarted] := by
  rintro ⟨-, honce, -⟩
  have htwice : fillsOf (left (left Db.empty (oneSwap 8)) restarted) "t1" = 2 := by decide +kernel
  have h := honce _ (left_mem restarted _) "t1"
  rw [htwice] at h
  exact absurd h (by decide)

end

end Atra
