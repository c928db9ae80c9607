import Atra.Backing
import Atra.LiveEffects
import Atra.LpBooks
/-!
# LpEffects — what an LP execution tells, and what it books

The twin of the swap executor's.  A live liquidity action tells what the signing gate lets through; on either ledger an action
books once at most, in the position of its own pool: an add brings tokens into it, a removal takes tokens out of it or leaves
them, and a claim leaves them.
-/
namespace Atra
namespace Live

open LiquidityStore

/-- Where the position of an action is kept. -/
def poolKey (mode : Mode) (action : ProposedAction) (pool : LpPoolState) : Mode × ChainId × String × String :=
  (mode, action.chain, action.protocol, pool.poolId)

/-- What a plan does to the tokens of a position. -/
def Moves {R : Type} (plan : LpPlan R) (before after : Nat) : Prop :=
  match plan with
  | .add _ => before < after
  | .remove _ _ => after ≤ before
  | .claim _ => after = before

/-- One booking: the position of the pool, one row of realized P&L and, on paper, the balances of the pool's two tokens. -/
structure Booked {R : Type} (tradeId : String) (mode : Mode) (action : ProposedAction) (plan : LpPlan R) (pool : LpPoolState)
    (db db' : Db) : Prop where
  tables : ∃ trades cooldowns lastAnyActionAt lpPositions lpPnl paperBalances,
    db' = { db with trades, cooldowns, lastAnyActionAt, lpPositions, lpPnl, paperBalances }
  elsewhere : ∀ k, k ≠ poolKey mode action pool → db'.lpPositions.get k = db.lpPositions.get k
  moves : Moves plan (tokensAt db (poolKey mode action pool)) (tokensAt db' (poolKey mode action pool))
  pnl : ∃ row, db'.lpPnl = db.lpPnl ++ [row] ∧ row.tradeId = some tradeId ∧
    (row.mode, row.chain, row.protocol, row.poolId) = poolKey mode action pool
  balances : ∀ k, db'.paperBalances.get k ≠ db.paperBalances.get k →
    mode = .PAPER ∧ (k = (action.chain, pool.token0.address) ∨ k = (action.chain, pool.token1.address))

section
variable {R : Type} {tradeId : String} {mode : Mode} {action : ProposedAction} {plan : LpPlan R} {pool : LpPoolState}
  {db db' : Db} {now filledAt feeUsd : Int}

theorem Booked.framed {a b c d : Db} (h : Booked tradeId mode action plan pool b c) (hf : TradeFrame a b) (hf' : TradeFrame c d) :
    Booked tradeId mode action plan pool a d := by
  obtain ⟨_, _, _, rfl⟩ := hf
  obtain ⟨_, _, _, rfl⟩ := hf'
  obtain ⟨_, _, _, _, _, _, rfl⟩ := h.tables
  exact ⟨⟨_, _, _, _, _, _, rfl⟩, h.elsewhere, h.moves, h.pnl, h.balances⟩

/-! ## The ledger -/

/-- What an add that is no rebalance writes. -/
theorem bookAdd_moves {input : BookAddInput} {out : Db × LpPositionRow} (h : bookAdd db input = .ok out)
    (hr : input.rebalance = false) : out.1 = { db with lpPositions := db.lpPositions.put out.2 } ∧ out.2.key = input.key ∧
      tokensAt db input.key < out.2.lpTokens := by
  obtain ⟨added, -, hpos, -, -, hkey, -, htok, -⟩ := bookAdd_ok h
  refine ⟨?_, hkey, by omega⟩
  unfold bookAdd at h
  rw [bind_ok] at h
  obtain ⟨_, -, h⟩ := h
  split at h
  · cases h
  · simp only [bind_ok, pure_ok, hr, Bool.false_eq_true, if_false] at h
    obtain ⟨row, -, rfl⟩ := h
    rfl

/-- What a removal writes. -/
theorem bookRemove_moves {input : BookRemoveInput} {out : Db × Removed} (h : bookRemove db input = .ok out) :
    ∃ lpPositions, out.1 = { db with lpPositions } ∧ (∀ k, k ≠ input.key → lpPositions.get k = db.lpPositions.get k) ∧
      tokensAt out.1 input.key < tokensAt db input.key := by
  unfold bookRemove at h
  rw [bind_ok] at h
  obtain ⟨burned, -, h⟩ := h
  dsimp only at h
  split at h
  · cases h
  · rename_i existing hg
    replace hg : db.lpPositions.get input.key = some existing := hg
    have hkey : existing.key = input.key := Table.key_of_get hg
    have hheld : tokensAt db input.key = existing.lpTokens := by
      unfold tokensAt
      rw [hg]
      rfl
    split at h
    · cases h
    · rename_i hb
      rw [not_or, not_le, not_lt] at hb
      split at h
      · obtain rfl := pure_ok.1 h
        refine ⟨_, rfl, fun k hk => ?_, ?_⟩
        · rw [hkey, Table.get_delete, if_neg hk]
        · have hgone : (db.lpPositions.delete existing.key).get input.key = none := by
            rw [hkey, Table.get_delete, if_pos rfl]
          unfold tokensAt at hheld ⊢
          dsimp only
          rw [hgone, hheld]
          show 0 < existing.lpTokens
          omega
      · simp only [bind_ok, pure_ok] at h
        obtain ⟨amount0, -, amount1, -, rfl⟩ := h
        refine ⟨_, rfl, fun k hk => ?_, ?_⟩
        · rw [Table.get_put, if_neg (by exact fun hc => hk (hc.trans hkey))]
        · unfold tokensAt at hheld ⊢
          dsimp only
          rw [Table.get_put, if_pos (by exact hkey.symm), hheld]
          show ((existing.lpTokens : Int) - burned).toNat < existing.lpTokens
          omega

/-- The balances two moves of a wallet leave as they were. -/
theorem adjust_balances {mid : Db} {delta0 delta1 : Int} (h0 : PaperLpExecutor.adjustPaper db now action.chain pool.token0 delta0 =
    .ok mid) (h1 : PaperLpExecutor.adjustPaper mid now action.chain pool.token1 delta1 = .ok db') : ∃ paperBalances,
      db' = { db with paperBalances } ∧ ∀ k, paperBalances.get k ≠ db.paperBalances.get k →
        k = (action.chain, pool.token0.address) ∨ k = (action.chain, pool.token1.address) := by
  obtain ⟨-, rfl⟩ := LedgerService.adjustPaperBalance_ok.1 h0
  obtain ⟨-, rfl⟩ := LedgerService.adjustPaperBalance_ok.1 h1
  refine ⟨_, rfl, fun k hk => ?_⟩
  by_contra hn
  rw [not_or] at hn
  apply hk
  rw [Table.get_put, if_neg (by exact hn.2)]
  show (db.paperBalances.put _).get k = _
  rw [Table.get_put, if_neg (by exact hn.1)]

/-! ## On paper -/

theorem writeAdd_booked {quote : LpAddQuote R} {add : PaperLpExecutor.PaperAdd} (hk : action.kind ≠ .lp_rebalance)
    (h : PaperLpExecutor.writeAdd db now tradeId action pool add feeUsd filledAt = .ok db') :
    Booked tradeId .PAPER action (.add quote) pool db db' := by
  unfold PaperLpExecutor.writeAdd at h
  simp only [bind_ok, pure_ok] at h
  obtain ⟨spent0, hs0, spent1, hs1, booked, hb, rfl⟩ := h
  obtain ⟨paperBalances, rfl, hbalances⟩ := adjust_balances hs0 hs1
  obtain ⟨he, hkey, htok⟩ := bookAdd_moves hb (by simp [PaperLpExecutor.bookAddInput, hk])
  unfold recordPnl
  rw [he]
  refine ⟨⟨_, _, _, _, _, _, rfl⟩, fun k hk => ?_, ?_, ⟨_, rfl, rfl, rfl⟩, fun k hk => ⟨rfl, hbalances k hk⟩⟩
  · exact (Table.get_put ..).trans (if_neg (by rw [hkey]; exact hk))
  · have hput : tokensAt { db with lpPositions := db.lpPositions.put booked.2 } (poolKey .PAPER action pool) = booked.2.lpTokens := by
      unfold tokensAt
      dsimp only
      rw [Table.get_put, if_pos (by exact hkey.symm)]
      rfl
    exact htok.trans_eq hput.symm

theorem writeRemove_booked {quote : LpRemoveQuote R} {closes : Bool} {remove : PaperLpExecutor.PaperRemove}
    (h : PaperLpExecutor.writeRemove db now tradeId action pool remove feeUsd filledAt = .ok db') :
    Booked tradeId .PAPER action (.remove quote closes) pool db db' := by
  unfold PaperLpExecutor.writeRemove at h
  simp only [bind_ok, pure_ok] at h
  obtain ⟨removed, hr, credited0, hc0, credited1, hc1, rfl⟩ := h
  obtain ⟨lpPositions, he, helse, htok⟩ := bookRemove_moves hr
  obtain ⟨paperBalances, rfl, hbalances⟩ := adjust_balances hc0 hc1
  unfold recordPnl
  rw [he] at hbalances htok ⊢
  exact ⟨⟨_, _, _, _, _, _, rfl⟩, helse, htok.le, ⟨_, rfl, rfl, rfl⟩, fun k hk => ⟨rfl, hbalances k hk⟩⟩

/-- **A paper action books once at most.** -/
theorem paper_booked {prices : LpFillPrices} {out : Db × LpExecutionOutcome} (hk : action.kind ≠ .lp_rebalance)
    (h : PaperLpExecutor.execute db now tradeId action plan pool prices filledAt = .ok out) :
    TradeFrame db out.1 ∨ Booked tradeId .PAPER action plan pool db out.1 := by
  rcases PaperLpExecutor.execute_ok h with ⟨hf, -⟩ | ⟨-, started, fee, applied, hstarted, happly, hout⟩
  · exact .inl hf
  · refine .inr (Booked.framed ?_ hstarted hout)
    unfold PaperLpExecutor.apply at happly
    cases plan with
    | add quote =>
      simp only [bind_ok, pure_ok] at happly
      obtain ⟨add, -, written, hw, rfl⟩ := happly
      exact writeAdd_booked hk hw
    | remove quote closes =>
      simp only [bind_ok, pure_ok] at happly
      obtain ⟨remove, -, written, hw, rfl⟩ := happly
      exact writeRemove_booked hw
    | claim claim => cases happly

end

/-! ## On the chain -/

section
variable {R : Type} {tradeId : String} {action : ProposedAction} {plan : LpPlan R} {pool : LpPoolState} {p q : Process}
  {row : TradeRow} {prices : LpFillPrices} {x : LpLive R}

/-- **A live ledger entry is one booking.** -/
theorem bookLedger_booked {host : Host} {b : LiveLpExecutor.Booking} {db db' : Db} {receipt : LpReceipt}
    (hk : b.action.kind ≠ .lp_rebalance) (h : LiveLpExecutor.bookLedger db host b plan prices receipt = .ok db') :
    Booked b.tradeId .LIVE b.action plan b.pool db db' := by
  unfold LiveLpExecutor.bookLedger at h
  cases plan with
  | add quote =>
    unfold LiveLpExecutor.bookAdded at h
    simp only [bind_ok, pure_ok] at h
    obtain ⟨capital, -, booked, hb, fee, -, rfl⟩ := h
    obtain ⟨he, hkey, htok⟩ := bookAdd_moves hb (by simp [LiveLpExecutor.Booking.addInput, hk])
    unfold recordPnl
    rw [he]
    refine ⟨⟨_, _, _, _, _, _, rfl⟩, fun k hk => ?_, ?_, ⟨_, rfl, rfl, rfl⟩, fun k hk => absurd rfl hk⟩
    · exact (Table.get_put ..).trans (if_neg (by rw [hkey]; exact hk))
    · have hput : tokensAt { db with lpPositions := db.lpPositions.put booked.2 } (poolKey .LIVE b.action b.pool) =
          booked.2.lpTokens := by
        unfold tokensAt
        dsimp only
        rw [Table.get_put, if_pos (by exact hkey.symm)]
        rfl
      exact htok.trans_eq hput.symm
  | remove quote closes =>
    unfold LiveLpExecutor.bookRemoved at h
    simp only [bind_ok] at h
    obtain ⟨proceeds, -, covered, -, h⟩ := h
    split at h
    · unfold LiveLpExecutor.bookBurned at h
      simp only [bind_ok, pure_ok] at h
      obtain ⟨removed, hr, fee, -, rfl⟩ := h
      obtain ⟨lpPositions, he, helse, htok⟩ := bookRemove_moves hr
      unfold recordPnl
      rw [he] at htok ⊢
      exact ⟨⟨_, _, _, _, _, _, rfl⟩, helse, htok.le, ⟨_, rfl, rfl, rfl⟩, fun k hk => absurd rfl hk⟩
    · simp only [bind_ok, pure_ok] at h
      obtain ⟨fee, -, rfl⟩ := h
      exact ⟨⟨_, _, _, _, _, _, rfl⟩, fun _ _ => rfl, Nat.le_refl _, ⟨_, rfl, rfl, rfl⟩, fun k hk => absurd rfl hk⟩
  | claim claim =>
    unfold LiveLpExecutor.bookClaimed at h
    simp only [bind_ok, pure_ok] at h
    obtain ⟨proceeds, -, fee, -, rfl⟩ := h
    have htouched : ∃ lpPositions, touchClaim db .LIVE b.action.chain b.action.protocol b.pool.poolId b.filledAt =
        { db with lpPositions } := by
      unfold touchClaim
      split
      · exact ⟨_, rfl⟩
      · exact ⟨_, rfl⟩
    have hget : ∀ k, (touchClaim db .LIVE b.action.chain b.action.protocol b.pool.poolId b.filledAt).lpPositions.get k =
        if k = (.LIVE, b.action.chain, b.action.protocol, b.pool.poolId) then
          (db.lpPositions.get k).map fun row => { row with lastAction := .COLLECT_FEES, lastActionAt := b.filledAt }
        else db.lpPositions.get k := fun _ => touchClaim_get
    obtain ⟨lpPositions, he⟩ := htouched
    unfold recordPnl
    rw [he] at hget ⊢
    refine ⟨⟨_, _, _, _, _, _, rfl⟩, fun k hk => (hget k).trans (if_neg hk), ?_, ⟨_, rfl, rfl, rfl⟩, fun k hk => absurd rfl hk⟩
    show tokensAt { db with lpPositions } (poolKey .LIVE b.action b.pool) = tokensAt db (poolKey .LIVE b.action b.pool)
    unfold tokensAt
    rw [hget, if_pos (show poolKey .LIVE b.action b.pool =
      (.LIVE, b.action.chain, b.action.protocol, b.pool.poolId) from rfl), Option.map_map]
    rfl

/-- Since a process stood at `p` an LP action wrote its own trade, and booked once at most. -/
def BooksLp (tradeId : String) (action : ProposedAction) (plan : LpPlan R) (pool : LpPoolState) (p q : Process) : Prop :=
  TradeFrame p.db q.db ∨ Booked tradeId .LIVE action plan pool p.db q.db

theorem lpFail_frame (action : ProposedAction) (reason : String) (filledAt : Int) :
    Always (fun t => TradeFrame q.db t.db) q (LiveLpExecutor.fail tradeId action reason filledAt) := by
  unfold LiveLpExecutor.fail Live.markFailed Always
  rw [Script.ensures_bind, Script.ensures_bind, Script.ensures_attempt, ensures_write]
  constructor
  · intro out hout
    exact transition_frame hout
  · intro e _
    dsimp only
    split
    · exact .refl _
    · exact .refl _

/-- A confirmed action is booked, and its row closed. -/
theorem bookConfirmed_books {trade : TradeRow} {receipt : LpReceipt} (hf : TradeFrame p.db q.db) (hid : trade.id = tradeId)
    (hk : action.kind ≠ .lp_rebalance) :
    Always (BooksLp tradeId action plan pool p) q (LiveLpExecutor.bookConfirmed x trade action plan pool prices receipt) := by
  unfold LiveLpExecutor.bookConfirmed Always
  dsimp only
  rw [Script.ensures_bind, Script.ensures_get, Script.ensures_bind, ensures_write]
  refine ⟨fun out hout => ?_, fun _ _ => .inl hf⟩
  have hwritten : Booked tradeId .LIVE action plan pool p.db out.1 := by
    obtain ⟨written, hw, he⟩ := bind_ok.1 (by simpa only [map_eq_pure_bind] using hout)
    rw [← pure_ok.1 he, ← hid]
    exact (bookLedger_booked hk hw).framed hf (.refl _)
  rw [Script.ensures_bind]
  refine (markFilled_frame (.refl out.1)).mono (fun _ u hu => ?_) fun _ u hu => ?_
  · exact .inr (hwritten.framed (.refl _) hu)
  · exact .inr (hwritten.framed (.refl _) hu)

/-- **Settling an LP action** comes down to booking what was confirmed. -/
theorem lpSettle_books {adapter : LpAdapter R} {chain : ChainId} {sent : Sent LpReceipt}
    (h : Sends (LiveLpExecutor.sender x adapter) chain p tradeId row sent q) (hk : action.kind ≠ .lp_rebalance) :
    Always (BooksLp tradeId action plan pool p) q (LiveLpExecutor.settle x tradeId action plan pool prices sent) := by
  cases sent with
  | stopped reason txHash time => exact .inl h.frame
  | confirmed txHash receipt =>
    unfold LiveLpExecutor.settle Always
    dsimp only
    rw [Script.ensures_bind, Script.ensures_get]
    cases hg : TradeStore.get q.db tradeId with
    | none => exact .inl h.frame
    | some trade => exact bookConfirmed_books h.frame (Table.key_of_get hg) hk

/-- **A live LP action books once at most**, in the position of its own pool. -/
theorem lpExecute_books (x : LpLive R) (hg : TradeStore.get p.db tradeId = some row) (hs : row.status = .allowed)
    (hk : action.kind ≠ .lp_rebalance) :
    Always (BooksLp tradeId action plan pool p) p (LiveLpExecutor.execute x tradeId action plan pool prices) := by
  have hp : Moved p tradeId row [] .allowed row.txHash p := hs ▸ Moved.refl hg
  have hfail : ∀ {t : Process} (reason : String) (time : Int), TradeFrame p.db t.db →
      Always (BooksLp tradeId action plan pool p) t (LiveLpExecutor.fail tradeId action reason time) := fun reason time ht =>
    (lpFail_frame action reason time).mono (fun _ _ h => .inl (ht.trans h)) fun _ _ h => .inl (ht.trans h)
  unfold LiveLpExecutor.execute Always
  rw [Script.ensures_bind, Script.ensures_get]
  refine admit_always (fun reason => hfail _ _ (.refl _)) fun adapter => ?_
  unfold Always
  rw [Script.ensures_bind]
  refine (Execution.dispatch_ensures hp action).mono (fun _ t ht => ?_) fun _ _ hfalse => hfalse.elim
  unfold LiveLpExecutor.buildAndSend
  cases LiveLpExecutor.build x adapter action.chain plan with
  | error e => exact hfail _ _ ht.frame
  | ok tx =>
    dsimp only
    rw [Script.ensures_bind]
    refine (Execution.simulate_ensures ht adapter tx).mono (fun reverted t ht => ?_) fun _ _ hfalse => hfalse.elim
    cases reverted with
    | some reason => exact hfail _ _ ht.frame
    | none =>
      dsimp only
      rw [Script.ensures_bind]
      exact (signAndSend_ensures ht).mono (fun sent t ht => lpSettle_books ht hk) fun _ t ht => .inl ht.frame

/-- The key may be used on a context: the runtime is LIVE and neither switch is set, and what is signed costs no more than the
engine approved and goes where it approved. -/
structure LpCleared (x : LpLive R) (action : ProposedAction) (controls : Controls) (context : SigningContext) : Prop where
  mode : StateStore.getMode controls = .LIVE
  running : controls.runtimeState.emergencyStop = false ∧ controls.runtimeState.globalPause = false
  evm : ∃ c, context = .evm c ∧ LiveExecutor.ApprovedEvm x.host action c

/-- What lets the process sign. -/
theorem refusal_none {controls : Controls} (h : refusal controls action = none) : StateStore.getMode controls = .LIVE ∧
    controls.runtimeState.emergencyStop = false ∧ controls.runtimeState.globalPause = false := by
  unfold refusal at h
  split at h
  · cases h
  · split at h
    · cases h
    · rename_i hmode
      split at h
      · cases h
      · rename_i hstop
        split at h
        · cases h
        · rename_i hpause
          exact ⟨not_not.1 hmode, by simpa using hstop, by simpa using hpause⟩

/-- **What the checks let through is cleared.** -/
theorem lpVet_cleared {controls : Controls} {context : SigningContext} (h : LiveLpExecutor.vet x controls action context = .ok none) :
    LpCleared x action controls context := by
  unfold LiveLpExecutor.vet at h
  cases context with
  | solana feePayer transactionBase64 height => cases pure_ok.1 h
  | evm c =>
    dsimp only at h
    cases hr : refusal controls action with
    | some reason =>
      rw [hr] at h
      cases pure_ok.1 h
    | none =>
      rw [hr] at h
      obtain ⟨overrun, ho, h⟩ := bind_ok.1 h
      cases overrun with
      | some reason => cases pure_ok.1 h
      | none =>
        obtain ⟨hmode, hrunning⟩ := refusal_none hr
        exact ⟨hmode, hrunning, c, rfl, LiveExecutor.feeOverrun_none ho, LiveExecutor.wrongTarget_none (pure_ok.1 h)⟩

section
variable {cleared : Controls → SigningContext → Prop}

theorem quiet_lpFail (id : String) (reason : String) (filledAt : Int) :
    Quiet cleared tradeId (LiveLpExecutor.fail id action reason filledAt) :=
  (quiet_markFailed id reason).bind fun _ => quiet_pure _

theorem quiet_simulate (adapter : LpAdapter R) (tx : UnsignedTransaction) :
    Quiet cleared tradeId (LiveLpExecutor.simulate adapter tx) := by
  unfold LiveLpExecutor.simulate
  cases adapter.simulate with
  | none => exact quiet_pure _
  | some run =>
    refine (quiet_await _).attempt.bind fun result => ?_
    cases result with
    | error e => exact quiet_pure _
    | ok result => exact quiet_pure _

theorem quiet_lpSettle (id : String) (sent : Sent LpReceipt) :
    Quiet cleared tradeId (LiveLpExecutor.settle x id action plan pool prices sent) := by
  unfold LiveLpExecutor.settle
  cases sent with
  | stopped reason txHash time => exact quiet_pure _
  | confirmed txHash receipt =>
    refine quiet_get.bind fun p => ?_
    cases TradeStore.get p.db id with
    | none => exact quiet_throw _
    | some trade =>
      exact quiet_get.bind fun _ => (quiet_write _).bind fun _ => (quiet_write _).bind fun _ => quiet_pure _

end

/-- Simulated first, then signed and sent, and settled. -/
theorem simulated_tells {β : Type} {adapter : LpAdapter R} {tx : UnsignedTransaction} {fail : String → Live β}
    {settle : Sent LpReceipt → Live β} (hfail : ∀ reason, Quiet (LpCleared x action) tradeId (fail reason))
    (hsettle : ∀ sent, Quiet (LpCleared x action) tradeId (settle sent)) :
    Script.Keeps (Tells (Gated (LpCleared x action) tradeId) 1) (do
      match ← LiveLpExecutor.simulate adapter tx with
      | some reverted => fail reverted
      | none => do
        let sent ← signAndSend (LiveLpExecutor.sender x adapter) tradeId action tx
        settle sent) := by
  refine Tells.bind (m := 0) (n := 1) (quiet_simulate adapter tx) fun reverted => ?_
  cases reverted with
  | some reason => exact fun q => (hfail reason q).mono (Nat.zero_le 1)
  | none => exact Tells.bind (m := 1) (n := 0) (signAndSend_gated (fun _ _ hv => lpVet_cleared hv) tx) hsettle

theorem lpExecute_tells (x : LpLive R) (tradeId : String) (action : ProposedAction) (plan : LpPlan R) (pool : LpPoolState)
    (prices : LpFillPrices) :
    Script.Keeps (Tells (Gated (LpCleared x action) tradeId) 1) (LiveLpExecutor.execute x tradeId action plan pool prices) := by
  refine Tells.bind (m := 0) (n := 1) quiet_get fun p => quiet_admitAction (fun reason => quiet_lpFail _ _ _) fun adapter => ?_
  refine Tells.bind (m := 0) (n := 1) (quiet_dispatch _ _) fun _ => ?_
  unfold LiveLpExecutor.buildAndSend
  cases LiveLpExecutor.build x adapter action.chain plan with
  | error e => exact fun q => (quiet_lpFail _ _ _ q).mono (Nat.zero_le 1)
  | ok tx => exact simulated_tells (fun _ => quiet_lpFail _ _ _) fun sent => quiet_lpSettle _ sent

end

end Live
end Atra
