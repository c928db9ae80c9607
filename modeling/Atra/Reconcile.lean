import Atra.FailedTrades
/-!
# Reconcile — the pass over the rows a previous process left in flight

A row is failed where nothing was signed, and settled by the final receipt of its hash where there is one; so its verdict is
read off the row and the chain alone (`verdict`).  A pass returns all of them, or it stops at a row that cannot be booked, and
leaves the rows after it (`reconcile_ensures`).
-/
namespace Atra

open Money Live

namespace Live

variable {ρ : Type} {c : Reconciler ρ} {q : Process} {trade : TradeRow}

/-- The receipt that settles a row: its hash was asked for, and the answer is final. -/
def finalReceipt (c : Reconciler ρ) (trade : TradeRow) : Option ρ :=
  (hashOf trade).bind fun hash => (c.ask trade hash).bind fun question => question.toOption.bind fun poll =>
    poll.answer.toOption.filter fun receipt => final (c.status receipt)

/-- Where a row ends up, by itself. -/
def verdict (c : Reconciler ρ) (trade : TradeRow) : TradeStatus :=
  if trade.status = .dispatched ∨ hashOf trade = none then .failed
  else match finalReceipt c trade with
    | none => trade.status
    | some receipt => if c.status receipt = .confirmed then .filled else .failed

/-- A row the pass gets past: its chain can be asked, and what is confirmed can be booked. -/
structure Settleable (c : Reconciler ρ) (bookable : TradeRow → ρ → Prop) (trade : TradeRow) : Prop where
  asks : trade.status ≠ .dispatched → ∀ hash question, hashOf trade = some hash → c.ask trade hash = some question →
    Returns question
  books : trade.status ≠ .dispatched → ∀ receipt, finalReceipt c trade = some receipt → c.status receipt = .confirmed →
    bookable trade receipt

/-- What an executor's booking does: it closes the row of a broadcast trade and leaves the others, or throws. -/
structure Books (c : Reconciler ρ) (kept : Table LpPositionRow.key → Prop) (needed enough : TradeRow → ρ → Prop) :
    Prop where
  book : ∀ {q : Process} {trade current : TradeRow} {receipt : ρ}, TradeStore.get q.db trade.id = some current →
    current.status = .broadcast → Script.Ensures (c.book trade receipt) q
      (fun _ t => needed trade receipt ∧ (kept q.db.lpPositions → enough trade receipt → kept t.db.lpPositions) ∧
        OthersKept q trade.id t ∧ ∃ closed, TradeStore.get t.db trade.id = some closed ∧ closed.status = .filled)
      fun _ _ => ¬ (kept q.db.lpPositions ∧ enough trade receipt)

/-- A row that was in flight, settled. -/
structure Settled (c : Reconciler ρ) (kept : Table LpPositionRow.key → Prop) (needed enough : TradeRow → ρ → Prop)
    (trade : TradeRow) (q t : Process) : Prop where
  settleable : Settleable c needed trade
  kept : kept q.db.lpPositions → Settleable c enough trade → kept t.db.lpPositions
  others : OthersKept q trade.id t
  row : ∃ row, TradeStore.get t.db trade.id = some row ∧ row.status = verdict c trade ∧
    (TradeStore.inFlight row.status = true → row = trade)

section
variable {kept : Table LpPositionRow.key → Prop} {needed enough : TradeRow → ρ → Prop} {report : ReconcileReport}

theorem inFlight_cases {s : TradeStatus} (h : TradeStore.inFlight s = true) :
    s = .dispatched ∨ s = .signed ∨ s = .broadcast := by
  unfold TradeStore.inFlight at h
  simpa [or_assoc] using h

theorem not_inFlight_failed : ¬ TradeStore.inFlight .failed = true := by decide

theorem failRow_ensures (hg : TradeStore.get q.db trade.id = some trade) (hin : TradeStore.inFlight trade.status = true)
    (h : trade.status = .dispatched ∨ hashOf trade = none) (reason : String) :
    Script.Ensures (failRow trade reason report) q (fun _ t => Settled c kept needed enough trade q t) fun _ _ => False := by
  unfold failRow
  rw [Script.ensures_bind]
  have hm : TradeStatus.failed ∈ TradeStore.TRANSITIONS trade.status := by
    rcases inFlight_cases hin with hs | hs | hs
    · rw [hs]
      decide
    · rw [hs]
      decide
    · rw [hs]
      decide
  have hfail : Script.Ensures (write fun db now => TradeStore.markFailed db now trade.id reason) q _ fun _ _ => False :=
    transition_ensures hg hm
  refine hfail.mono ?_ fun _ _ hfalse => hfalse
  rintro _ t ⟨-, hlp, hothers, row, hg', rfl⟩
  refine ⟨⟨fun hd hash question hh => ?_, fun hd receipt hr => ?_⟩, fun hk _ => by rw [hlp]; exact hk, hothers, _, hg', ?_⟩
  · rcases h with h | h
    · exact absurd h hd
    · rw [h] at hh
      cases hh
  · rcases h with h | h
    · exact absurd h hd
    · unfold finalReceipt at hr
      rw [h] at hr
      cases hr
  · unfold verdict
    rw [if_pos h]
    exact ⟨rfl, fun hf => absurd hf not_inFlight_failed⟩

/-- A row whose transaction the chain has is broadcast, whatever it said. -/
theorem assumeBroadcast_ensures (hg : TradeStore.get q.db trade.id = some trade)
    (hs : trade.status = .signed ∨ trade.status = .broadcast) :
    Script.Ensures (assumeBroadcast trade) q
      (fun _ t => t.db.lpPositions = q.db.lpPositions ∧ OthersKept q trade.id t ∧
        ∃ current, TradeStore.get t.db trade.id = some current ∧ current.status = .broadcast)
      fun _ _ => False := by
  unfold assumeBroadcast
  rcases hs with hs | hs
  · rw [if_pos hs, Script.ensures_bind]
    have hbroadcast : Script.Ensures (write fun db now => TradeStore.markBroadcast db now trade.id) q _ fun _ _ => False :=
      transition_ensures hg (by rw [hs]; decide)
    refine hbroadcast.mono ?_ fun _ _ hfalse => hfalse
    rintro _ t ⟨-, hlp, hothers, row, hg', rfl⟩
    exact ⟨hlp, hothers, _, hg', rfl⟩
  · rw [if_neg (by rw [hs]; decide)]
    exact ⟨rfl, .refl q trade.id, trade, hg, hs⟩

theorem settled_pending {t : Process} (hg : TradeStore.get q.db trade.id = some trade)
    (hd : trade.status ≠ .dispatched) {hash : String} (hh : hashOf trade = some hash)
    (hask : ∀ question, c.ask trade hash = some question → Returns question) (hf : finalReceipt c trade = none)
    (ht : t.db = q.db) : Settled c kept needed enough trade q t := by
  refine ⟨⟨fun _ hash' question hh' hq => ?_, fun _ receipt hr => ?_⟩, fun hk _ => by rw [ht]; exact hk, fun id _ => by rw [ht],
    trade, by rw [ht]; exact hg, ?_⟩
  · obtain rfl := Option.some.inj (hh.symm.trans hh')
    exact hask question hq
  · rw [hf] at hr
    cases hr
  · unfold verdict
    rw [if_neg (by rw [hh]; simp [hd]), hf]
    exact ⟨rfl, fun _ => rfl⟩

theorem settled_final {t : Process} {receipt : ρ} {row : TradeRow} (hd : trade.status ≠ .dispatched) {hash : String}
    (hh : hashOf trade = some hash) (hask : ∀ question, c.ask trade hash = some question → Returns question)
    (hf : finalReceipt c trade = some receipt) (hneeded : c.status receipt = .confirmed → needed trade receipt)
    (hk : kept q.db.lpPositions → (c.status receipt = .confirmed → enough trade receipt) → kept t.db.lpPositions)
    (ho : OthersKept q trade.id t) (hg : TradeStore.get t.db trade.id = some row)
    (hs : row.status = if c.status receipt = .confirmed then .filled else .failed) :
    Settled c kept needed enough trade q t := by
  refine ⟨⟨fun _ hash' question hh' hq => ?_, fun _ receipt' hr hc => ?_⟩, fun hk' he => hk hk' (he.books hd receipt hf), ho,
    row, hg, ?_, fun hin => ?_⟩
  · obtain rfl := Option.some.inj (hh.symm.trans hh')
    exact hask question hq
  · obtain rfl := Option.some.inj (hf.symm.trans hr)
    exact hneeded hc
  · unfold verdict
    rw [if_neg (by rw [hh]; simp [hd]), hf, hs]
  · rw [hs] at hin
    split at hin
    · exact absurd hin (by decide)
    · exact absurd hin (by decide)

/-- **One row of the pass**: it is settled by its own verdict, or it cannot be settled. -/
theorem reconcileRow_ensures (hb : Books c kept needed enough) (hmine : c.mine trade = true)
    (hg : TradeStore.get q.db trade.id = some trade) (hin : TradeStore.inFlight trade.status = true) :
    Script.Ensures (reconcileRow c report trade) q (fun _ t => Settled c kept needed enough trade q t)
      fun _ _ => ¬ (kept q.db.lpPositions ∧ Settleable c enough trade) := by
  unfold reconcileRow
  rw [if_neg (by simp [hmine])]
  by_cases hd : trade.status = .dispatched
  · rw [if_pos hd]
    exact (failRow_ensures hg hin (.inl hd) _).mono (fun _ _ h => h) fun _ _ hfalse => hfalse.elim
  rw [if_neg hd]
  cases hh : hashOf trade with
  | none => exact (failRow_ensures hg hin (.inr hh) _).mono (fun _ _ h => h) fun _ _ hfalse => hfalse.elim
  | some hash =>
    dsimp only
    cases ha : c.ask trade hash with
    | none =>
      refine settled_pending hg hd hh (fun question hq => ?_) ?_ rfl
      · rw [ha] at hq
        cases hq
      · unfold finalReceipt
        rw [hh, Option.bind_some, ha, Option.bind_none]
    | some question =>
      dsimp only
      rw [Script.ensures_bind, Script.ensures_lift]
      refine ⟨fun poll hpoll => ?_, fun e he hs => ?_⟩
      · have hask : ∀ question', c.ask trade hash = some question' → Returns question' := fun question' hq => by
          obtain rfl := Option.some.inj (ha.symm.trans hq)
          exact ⟨poll, hpoll⟩
        have hfinal : finalReceipt c trade = poll.answer.toOption.filter fun receipt => final (c.status receipt) := by
          unfold finalReceipt
          rw [hh, Option.bind_some, ha, Option.bind_some, hpoll]
          rfl
        have hs : trade.status = .signed ∨ trade.status = .broadcast := (inFlight_cases hin).resolve_left hd
        rw [Script.ensures_bind, Script.ensures_attempt, ensures_await]
        constructor
        · intro receipt hr
          rw [hr] at hfinal
          unfold settleRow
          dsimp only
          cases hc : c.status receipt with
          | pending =>
            refine settled_pending hg hd hh hask (hfinal.trans ?_) rfl
            simp [Except.toOption, hc, final]
          | unknown =>
            refine settled_pending hg hd hh hask (hfinal.trans ?_) rfl
            simp [Except.toOption, hc, final]
          | failed =>
            have hfinal' : finalReceipt c trade = some receipt := by
              rw [hfinal]
              simp [Except.toOption, hc, final]
            dsimp only
            rw [Script.ensures_bind]
            refine (assumeBroadcast_ensures (q := paused q poll.toPause) hg hs).mono ?_ fun _ _ hfalse => hfalse.elim
            rintro _ t ⟨hlp, hothers, current, hg', hs'⟩
            rw [Script.ensures_bind]
            have hfail : Script.Ensures (write fun db now => TradeStore.markFailed db now trade.id
                ((c.error receipt).getD "transaction failed on chain")) t _ fun _ _ => False :=
              transition_ensures hg' (by rw [hs']; decide)
            refine hfail.mono ?_ fun _ _ hfalse => hfalse.elim
            rintro _ t' ⟨-, hlp', hothers', row, hg'', rfl⟩
            exact settled_final hd hh hask hfinal' (fun hc' => absurd hc' (by rw [hc]; decide))
              (fun hk _ => by rw [hlp', hlp]; exact hk) (hothers.trans hothers') hg'' (by rw [hc]; rfl)
          | confirmed =>
            have hfinal' : finalReceipt c trade = some receipt := by
              rw [hfinal]
              simp [Except.toOption, hc, final]
            dsimp only
            rw [Script.ensures_bind]
            refine (assumeBroadcast_ensures (q := paused q poll.toPause) hg hs).mono ?_ fun _ _ hfalse => hfalse.elim
            rintro _ t ⟨hlp, hothers, current, hg', hs'⟩
            rw [Script.ensures_bind]
            refine (hb.book hg' hs').mono ?_ fun e t' hstop hset => hstop ⟨by rw [hlp]; exact hset.1,
              hset.2.books hd receipt hfinal' hc⟩
            rintro _ t' ⟨hneeded, hkept, hothers', closed, hg'', hs''⟩
            exact settled_final hd hh hask hfinal' (fun _ => hneeded)
              (fun hk he => hkept (by rw [hlp]; exact hk) (he hc)) (hothers.trans hothers') hg'' (by rw [hs'', if_pos hc])
        · intro e he
          rw [he] at hfinal
          exact settled_pending hg hd hh hask hfinal rfl
      · obtain ⟨poll, hpoll⟩ := hs.2.asks hd hash question hh ha
        rw [hpoll] at he
        cases he

/-! ### The pass -/

theorem mem_listInFlight {db : Db} : trade ∈ TradeStore.listInFlight db ↔
    TradeStore.get db trade.id = some trade ∧ TradeStore.inFlight trade.status = true := by
  unfold TradeStore.listInFlight TradeStore.get
  rw [List.mem_insertionSort, List.mem_filter]
  exact and_congr_left fun _ => ⟨Table.get_key_of_mem, Table.mem_of_get⟩

theorem nodup_listInFlight (db : Db) : ((TradeStore.listInFlight db).map TradeRow.id).Nodup := by
  unfold TradeStore.listInFlight
  rw [((List.perm_insertionSort _ _).map TradeRow.id).nodup_iff]
  exact (List.filter_sublist.map TradeRow.id).nodup db.trades.keyed

/-- What a pass over rows in flight leaves: its own rows settled, each by its own verdict, and the others as they were. -/
structure Passed (c : Reconciler ρ) (kept : Table LpPositionRow.key → Prop) (needed enough : TradeRow → ρ → Prop)
    (rows : List TradeRow) (q t : Process) : Prop where
  kept : kept q.db.lpPositions → (∀ trade ∈ rows, c.mine trade = true → Settleable c enough trade) → kept t.db.lpPositions
  settled : ∀ trade ∈ rows, c.mine trade = true → Settleable c needed trade ∧
    ∃ row, TradeStore.get t.db trade.id = some row ∧ row.status = verdict c trade ∧
      (TradeStore.inFlight row.status = true → row = trade)
  others : ∀ id, (∀ trade ∈ rows, c.mine trade = true → trade.id ≠ id) → TradeStore.get t.db id = TradeStore.get q.db id

/-- **A pass settles its rows, or stops at one that cannot be settled.** -/
theorem pass_ensures (hb : Books c kept needed enough) {rows : List TradeRow} (hnodup : (rows.map TradeRow.id).Nodup)
    (hg : ∀ trade ∈ rows, TradeStore.get q.db trade.id = some trade ∧ TradeStore.inFlight trade.status = true) :
    Script.Ensures (rows.foldlM (reconcileRow c) report) q (fun _ t => Passed c kept needed enough rows q t)
      fun _ _ => ¬ (kept q.db.lpPositions ∧ ∀ trade ∈ rows, c.mine trade = true → Settleable c enough trade) := by
  induction rows generalizing q report with
  | nil => exact ⟨fun hk _ => hk, fun _ h => (List.not_mem_nil h).elim, fun _ _ => rfl⟩
  | cons trade rows ih =>
    rw [List.map_cons, List.nodup_cons] at hnodup
    rw [List.foldlM_cons, Script.ensures_bind]
    obtain ⟨hgt, hin⟩ := hg trade List.mem_cons_self
    have hne : ∀ other ∈ rows, other.id ≠ trade.id := fun other ho he => hnodup.1 (List.mem_map.2 ⟨other, ho, he⟩)
    by_cases hmine : c.mine trade = true
    · refine (reconcileRow_ensures hb hmine hgt hin).mono (fun report' t ht => ?_) fun _ _ hstop h =>
        hstop ⟨h.1, h.2 trade List.mem_cons_self hmine⟩
      have hrest : ∀ other ∈ rows, TradeStore.get t.db other.id = some other ∧
          TradeStore.inFlight other.status = true := by
        intro other ho
        rw [ht.others other.id (hne other ho)]
        exact hg other (List.mem_cons_of_mem _ ho)
      refine (ih hnodup.2 hrest).mono (fun _ t' ht' => ?_) fun _ _ hstop h => hstop
        ⟨ht.kept h.1 (h.2 trade List.mem_cons_self hmine), fun other ho => h.2 other (List.mem_cons_of_mem _ ho)⟩
      refine ⟨fun hk h => ?_, fun other ho hm => ?_, fun id hid => ?_⟩
      · exact ht'.kept (ht.kept hk (h trade List.mem_cons_self hmine)) fun other ho => h other (List.mem_cons_of_mem _ ho)
      · rcases List.mem_cons.1 ho with rfl | ho
        · obtain ⟨row, hrow, hverdict⟩ := ht.row
          refine ⟨ht.settleable, row, ?_, hverdict⟩
          rw [ht'.others _ fun other' ho' _ => hne other' ho']
          exact hrow
        · exact ht'.settled other ho hm
      · rw [ht'.others id fun other ho hm => hid other (List.mem_cons_of_mem _ ho) hm]
        exact ht.others id fun he => hid trade List.mem_cons_self hmine he.symm
    · have hskip : reconcileRow c report trade = pure report := by
        unfold reconcileRow
        rw [if_pos (by simp [hmine])]
      rw [hskip, Script.ensures_pure]
      refine (ih hnodup.2 fun other ho => hg other (List.mem_cons_of_mem _ ho)).mono (fun _ t' ht' => ?_)
        fun _ _ hstop h => hstop ⟨h.1, fun other ho => h.2 other (List.mem_cons_of_mem _ ho)⟩
      refine ⟨fun hk h => ht'.kept hk fun other ho => h other (List.mem_cons_of_mem _ ho), fun other ho hm => ?_,
        fun id hid => ht'.others id fun other ho hm => hid other (List.mem_cons_of_mem _ ho) hm⟩
      rcases List.mem_cons.1 ho with rfl | ho
      · exact absurd hm hmine
      · exact ht'.settled other ho hm

theorem reconcile_ensures (hb : Books c kept needed enough) :
    Script.Ensures (reconcile c) q (fun _ t => Passed c kept needed enough (TradeStore.listInFlight q.db) q t)
      fun _ _ => ¬ (kept q.db.lpPositions ∧
        ∀ trade ∈ TradeStore.listInFlight q.db, c.mine trade = true → Settleable c enough trade) := by
  unfold reconcile
  rw [Script.ensures_bind, Script.ensures_get]
  exact pass_ensures hb (nodup_listInFlight q.db) fun _ => mem_listInFlight.1

end

end Live

/-! ## Swaps and approvals -/

namespace LiveExecutor

variable {R : Type} {x : LiveExecutor R}

/-- A confirmed row whose fill can be booked at the prices it was quoted. -/
def Recoverable (trade : TradeRow) (receipt : ExecutionReceipt) : Prop :=
  Bookable trade receipt (trade.quotePrices.getD noPrices) none

theorem reconciler_books (x : LiveExecutor R) (kept : Table LpPositionRow.key → Prop) :
    Books x.reconciler kept Recoverable Recoverable where
  book := by
    intro q trade current receipt hg hs
    show Script.Ensures (bookFill trade receipt (trade.quotePrices.getD noPrices) none >>= fun _ => pure ()) q _ _
    rw [Script.ensures_bind]
    refine (bookFill_ensures hg hs).mono ?_ fun _ t h hk => h.1 hk.2
    rintro _ t ⟨hb, -, hlp, hothers, closed, hcl, hcs, -⟩
    exact ⟨hb, fun hk _ => by rw [hlp]; exact hk, hothers, closed, hcl, hcs⟩

end LiveExecutor

/-! ## Liquidity rows -/

def AmountsRead (positions : Table LpPositionRow.key) : Prop :=
  ∀ r ∈ positions.rows, isAmount r.amount0 = true ∧ isAmount r.amount1 = true

theorem isAmount_toString {z : Int} (h : 0 ≤ z) : isAmount (toString z) = true :=
  Engine.amountToBigint_returns.1 ⟨z, amountToBigint_intToString h⟩

theorem AmountsRead.put {positions : Table LpPositionRow.key} {r : LpPositionRow} (h : AmountsRead positions)
    (hr : isAmount r.amount0 = true ∧ isAmount r.amount1 = true) : AmountsRead (positions.put r) := by
  refine Table.forall_rows.2 fun k r' hg => ?_
  rw [Table.get_put] at hg
  split at hg
  · obtain rfl := Option.some.inj hg
    exact hr
  · exact Table.forall_rows.1 h k r' hg

namespace LiquidityStore

variable {db : Db}

theorem addAmounts_read {a b : String} (ha : isAmount a = true) (hb : isAmount b = true) :
    ∃ sum, addAmounts a b = .ok sum ∧ isAmount sum = true := by
  obtain ⟨x, hx⟩ := Engine.amountToBigint_returns.2 ha
  obtain ⟨y, hy⟩ := Engine.amountToBigint_returns.2 hb
  have h0 := amountToBigint_nonneg hx
  have h1 := amountToBigint_nonneg hy
  refine ⟨toString (x + y), ?_, isAmount_toString (by omega)⟩
  unfold addAmounts
  rw [hx, hy]
  rfl

/-- **An add of texts that read** is booked, and leaves texts that read. -/
theorem bookAdd_read {input : BookAddInput} (h : AmountsRead db.lpPositions) (htokens : Positive (amountToBigint input.lpTokens))
    (h0 : isAmount input.amount0 = true) (h1 : isAmount input.amount1 = true) (hcapital : Returns (usdToMicros input.capitalUsd)) :
    ∃ out, bookAdd db input = .ok out ∧ AmountsRead out.1.lpPositions := by
  obtain ⟨added, hadded, hpos⟩ := htokens
  obtain ⟨capital, hc⟩ := hcapital
  have hrow : ∃ row, addedRow db input added.toNat = .ok row ∧ isAmount row.amount0 = true ∧ isAmount row.amount1 = true := by
    unfold addedRow
    dsimp only
    cases hg : getPosition db input.mode input.chain input.protocol input.poolId with
    | none =>
      refine ⟨_, bind_ok.2 ⟨capital, hc, rfl⟩, h0, h1⟩
    | some existing =>
      obtain ⟨he0, he1⟩ := Table.forall_rows.1 h _ existing hg
      obtain ⟨sum0, hs0, hr0⟩ := addAmounts_read he0 h0
      obtain ⟨sum1, hs1, hr1⟩ := addAmounts_read he1 h1
      refine ⟨_, bind_ok.2 ⟨sum0, hs0, bind_ok.2 ⟨sum1, hs1, bind_ok.2 ⟨capital, hc, rfl⟩⟩⟩, hr0, hr1⟩
  obtain ⟨row, hrow, hr⟩ := hrow
  have hput : AmountsRead (db.lpPositions.put row) := h.put hr
  unfold bookAdd
  simp only [hadded, bind_ok, Except.ok.injEq, exists_eq_left']
  rw [if_neg (by omega)]
  refine ⟨_, bind_ok.2 ⟨row, hrow, rfl⟩, ?_⟩
  dsimp only
  split
  · exact hput
  · exact hput

/-- **A removal of no more than the position holds** is booked, and leaves texts that read. -/
theorem bookRemove_read {input : BookRemoveInput} {burned : Int} {row : LpPositionRow} (h : AmountsRead db.lpPositions)
    (hb : amountToBigint input.lpTokens = .ok burned) (hpos : 0 < burned)
    (hg : getPosition db input.mode input.chain input.protocol input.poolId = some row) (hle : burned ≤ row.lpTokens) :
    ∃ out, bookRemove db input = .ok out ∧ AmountsRead out.1.lpPositions := by
  obtain ⟨h0, h1⟩ := Table.forall_rows.1 h _ row hg
  obtain ⟨a0, ha0⟩ := Engine.amountToBigint_returns.2 h0
  obtain ⟨a1, ha1⟩ := Engine.amountToBigint_returns.2 h1
  unfold bookRemove
  simp only [hb, hg, bind_ok, Except.ok.injEq, exists_eq_left']
  rw [if_neg (by omega)]
  by_cases hz : (row.lpTokens : Int) - burned = 0
  · rw [if_pos hz]
    exact ⟨_, rfl, fun r hr => h r (List.mem_filter.1 hr).1⟩
  · rw [if_neg hz]
    have hshare : ∀ a : Int, 0 ≤ a → isAmount (toString ((a * (row.lpTokens - burned)).tdiv row.lpTokens)) = true :=
      fun a ha => isAmount_toString (Int.tdiv_nonneg (Int.mul_nonneg ha (by omega)) (by omega))
    unfold remainingShare
    rw [ha0, ha1]
    exact ⟨_, rfl, h.put ⟨hshare a0 (amountToBigint_nonneg ha0), hshare a1 (amountToBigint_nonneg ha1)⟩⟩

end LiquidityStore

namespace LiveLpExecutor

variable {R : Type} {x : LpLive R}

/-- A confirmed liquidity row whose texts read: what it minted and spent, and a positive amount that it burned. -/
structure Recoverable (host : Host) (trade : TradeRow) (receipt : LpReceipt) : Prop where
  add : trade.kind = .lp_add → ∀ poolId minted, trade.route.poolId = some poolId →
    receipt.received (host.toLowerCase poolId) = some minted → minted ≠ "" → isAmount minted = true ∧
      isAmount (chainAmount host receipt.sent trade.tokenIn "0") = true ∧
      isAmount (chainAmount host receipt.sent trade.tokenOut "0") = true
  remove : trade.kind = .lp_remove → ∀ burned, trade.route.lpTokens = some burned → Positive (amountToBigint burned)

section
variable {db : Db} {now : Int} {host : Host} {trade : TradeRow} {receipt : LpReceipt}

theorem reconcileAdd_read {poolId : String} (h : AmountsRead db.lpPositions) (hr : Recoverable host trade receipt)
    (hk : trade.kind = .lp_add) (hp : trade.route.poolId = some poolId) :
    ∃ written, reconcileAdd db now host trade poolId receipt = .ok written ∧ AmountsRead written.lpPositions := by
  unfold reconcileAdd
  cases hm : receipt.received (host.toLowerCase poolId) with
  | none => exact ⟨db, rfl, h⟩
  | some minted =>
    dsimp only
    by_cases hempty : minted = ""
    · rw [if_pos hempty]
      exact ⟨db, rfl, h⟩
    · obtain ⟨hminted, h0, h1⟩ := hr.add hk poolId minted hp hm hempty
      obtain ⟨amount, ha⟩ := Engine.amountToBigint_returns.2 hminted
      rw [if_neg hempty]
      simp only [ha, bind_ok, Except.ok.injEq, exists_eq_left']
      by_cases hpos : 0 < amount
      · rw [if_pos hpos]
        have hzero : usdToMicros "0" = .ok 0 := by decide +kernel
        obtain ⟨out, hout, hread⟩ : ∃ out, LiquidityStore.bookAdd db (reconciledAdd host trade poolId minted receipt now) =
            .ok out ∧ AmountsRead out.1.lpPositions :=
          LiquidityStore.bookAdd_read h ⟨amount, ha, hpos⟩ h0 h1 ⟨0, hzero⟩
        exact ⟨out.1, bind_ok.2 ⟨out, hout, rfl⟩, hread⟩
      · rw [if_neg hpos]
        exact ⟨db, rfl, h⟩

theorem reconcileRemove_read {poolId : String} (h : AmountsRead db.lpPositions) (hr : Recoverable host trade receipt)
    (hk : trade.kind = .lp_remove) :
    ∃ written, reconcileRemove db now trade poolId = .ok written ∧ AmountsRead written.lpPositions := by
  unfold reconcileRemove
  cases hb : trade.route.lpTokens with
  | none => exact ⟨db, rfl, h⟩
  | some burned =>
    obtain ⟨amount, ha, hpos⟩ := hr.remove hk burned hb
    dsimp only
    unfold coversBurn
    cases hg : LiquidityStore.getPosition db .LIVE trade.chain trade.protocol poolId with
    | none => exact ⟨db, rfl, h⟩
    | some row =>
      simp only [ha, bind_ok, pure_ok, Except.ok.injEq, exists_eq_left']
      by_cases hle : amount ≤ (row.lpTokens : Int)
      · rw [if_pos (by simpa using hle)]
        obtain ⟨out, hout, hread⟩ : ∃ out, LiquidityStore.bookRemove db (reconciledRemove trade poolId burned now) =
            .ok out ∧ AmountsRead out.1.lpPositions := LiquidityStore.bookRemove_read h ha hpos hg hle
        exact ⟨out.1, bind_ok.2 ⟨out, hout, rfl⟩, hread⟩
      · rw [if_neg (by simpa using hle)]
        exact ⟨db, rfl, h⟩

/-- **A recovered row whose texts read is booked.** -/
theorem reconcileLedger_read (h : AmountsRead db.lpPositions) (hr : Recoverable host trade receipt) :
    ∃ written, reconcileLedger db now host trade receipt = .ok written ∧ AmountsRead written.lpPositions := by
  unfold reconcileLedger
  cases hp : trade.route.poolId with
  | none => exact ⟨db, rfl, h⟩
  | some poolId =>
    dsimp only
    by_cases hempty : poolId = ""
    · rw [if_pos hempty]
      exact ⟨db, rfl, h⟩
    · rw [if_neg hempty]
      cases hk : trade.kind with
      | lp_add => exact reconcileAdd_read h hr hk hp
      | lp_remove => exact reconcileRemove_read h hr hk
      | swap => exact ⟨db, rfl, h⟩
      | approve => exact ⟨db, rfl, h⟩
      | lp_rebalance => exact ⟨db, rfl, h⟩
      | lp_claim => exact ⟨db, rfl, h⟩

theorem reconcileAdd_trades {poolId : String} {written : Db}
    (h : reconcileAdd db now host trade poolId receipt = .ok written) : written.trades = db.trades := by
  unfold reconcileAdd at h
  split at h
  · obtain rfl := pure_ok.1 h
    rfl
  · split at h
    · obtain rfl := pure_ok.1 h
      rfl
    · rw [bind_ok] at h
      obtain ⟨amount, -, h⟩ := h
      split at h
      · simp only [bind_ok, pure_ok] at h
        obtain ⟨booked, hb, rfl⟩ := h
        obtain ⟨_, _, he⟩ := LiquidityStore.bookAdd_eq hb
        rw [he]
      · obtain rfl := pure_ok.1 h
        rfl

theorem reconcileRemove_trades {poolId : String} {written : Db}
    (h : reconcileRemove db now trade poolId = .ok written) : written.trades = db.trades := by
  unfold reconcileRemove at h
  split at h
  · obtain rfl := pure_ok.1 h
    rfl
  · rw [bind_ok] at h
    obtain ⟨covered, -, h⟩ := h
    split at h
    · simp only [bind_ok, pure_ok] at h
      obtain ⟨removed, hr, rfl⟩ := h
      obtain ⟨_, he⟩ := LiquidityStore.bookRemove_eq hr
      rw [he]
    · obtain rfl := pure_ok.1 h
      rfl

theorem reconcileLedger_trades {written : Db} (h : reconcileLedger db now host trade receipt = .ok written) :
    written.trades = db.trades := by
  unfold reconcileLedger at h
  split at h
  · obtain rfl := pure_ok.1 h
    rfl
  · split at h
    · obtain rfl := pure_ok.1 h
      rfl
    · split at h
      · exact reconcileAdd_trades h
      · exact reconcileRemove_trades h
      · obtain rfl := pure_ok.1 h
        rfl

end

theorem reconciler_books (x : LpLive R) : Books (reconciler x) AmountsRead (fun _ _ => True) (Recoverable x.host) where
  book := by
    intro q trade current receipt hg hs
    show Script.Ensures (bookRecovered x trade receipt) q _ _
    unfold bookRecovered
    rw [Script.ensures_bind]
    refine (markFilled_ensures hg hs).mono ?_ fun _ _ hfalse => hfalse.elim
    rintro _ t ⟨-, hlp, hothers, closed, hcl, hcs, -⟩
    have hreads : AmountsRead q.db.lpPositions → Recoverable x.host trade receipt → ∃ written,
        reconcileLedger t.db t.clock x.host trade receipt = .ok written ∧ AmountsRead written.lpPositions :=
      fun hk hr => reconcileLedger_read (by rw [hlp]; exact hk) hr
    rw [ensures_write]
    constructor
    · intro out hout
      obtain ⟨written, hw, he⟩ := bind_ok.1 (by simpa only [map_eq_pure_bind] using hout)
      obtain rfl := pure_ok.1 he
      have hkept : ∀ id, TradeStore.get written id = TradeStore.get t.db id := fun id => by
        unfold TradeStore.get
        rw [reconcileLedger_trades hw]
      refine ⟨trivial, fun hk hr => ?_, fun id hid => (hkept id).trans (hothers id hid), closed, (hkept _).trans hcl, hcs⟩
      obtain ⟨written', hw', hread⟩ := hreads hk hr
      obtain rfl := Except.ok.inj (hw.symm.trans hw')
      exact hread
    · rintro e he ⟨hk, hr⟩
      obtain ⟨written, hw, -⟩ := hreads hk hr
      rw [hw] at he
      cases he

end LiveLpExecutor

end Atra
