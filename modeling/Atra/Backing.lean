import Atra.CostBasis
import Atra.EngineSoundLp
import Atra.History
import Atra.Paper
/-!
# Backing — what the paper wallet holds against the paper positions

Two executors move the paper balances.  A swap moves the position of a token with its balance, so it never unbacks one; an LP
action leaves the positions alone, so an add that spends more of a token than lies beside its position unbacks it by the rest,
and a removal only gives back.
-/
namespace Atra
namespace PaperWallet

open Money LedgerService Engine

/-- The paper balance of a token; nothing where there is no row. -/
def balanceAt (db : Db) (k : ChainId × String) : Nat := ((db.paperBalances.get k).map (·.amount)).getD 0

def positionAt (db : Db) (k : ChainId × String) : Nat := heldAt db (.PAPER, k.1, k.2)

variable {db db' : Db} {now : Int} {k : ChainId × String}

/-! ## Balances -/

theorem paperHeld_eq (db : Db) (chain : ChainId) (token : String) : paperHeld db chain token = balanceAt db (chain, token) := by
  unfold paperHeld getPaperBalance balanceAt
  cases db.paperBalances.get (chain, token) with
  | none => rfl
  | some r => rfl

/-- **An adjustment moves one balance**, and never below zero. -/
theorem balanceAt_adjust {chain : ChainId} {token : String} {decimals : Nat} {delta : Int}
    (h : adjustPaperBalance db now chain token decimals delta = .ok db') :
    (balanceAt db' k : Int) = balanceAt db k + if k = (chain, token) then delta else 0 := by
  obtain ⟨hn, rfl⟩ := adjustPaperBalance_ok.1 h
  unfold setPaperBalance balanceAt
  dsimp only
  rw [Table.get_put]
  by_cases hk : k = (chain, token)
  · rw [if_pos (by exact hk), if_pos hk, hk]
    show ((paperHeld db chain token + delta).toNat : Int) = balanceAt db (chain, token) + delta
    rw [Int.toNat_of_nonneg hn, paperHeld_eq]
  · rw [if_neg (by exact hk), if_neg hk, Int.add_zero]

theorem adjustPaperBalance_eq {chain : ChainId} {token : String} {decimals : Nat} {delta : Int}
    (h : adjustPaperBalance db now chain token decimals delta = .ok db') : ∃ paperBalances, db' = { db with paperBalances } := by
  obtain ⟨-, rfl⟩ := adjustPaperBalance_ok.1 h
  exact ⟨_, rfl⟩

/-! ## Swaps -/

section
variable {input : RecordFillInput} {out : Db × FillRow}

theorem key_iff (hm : input.mode = .PAPER) (token : String) :
    (Mode.PAPER, k.1, k.2) = (input.mode, input.chain, token) ↔ k = (input.chain, token) := by
  rw [hm, Prod.mk.injEq, and_iff_right rfl]

/-- **A paper fill moves positions**: what it spends leaves, as far as there is a position, and what it receives joins. -/
theorem positionAt_recordFill (hs : Sound db) (hm : input.mode = .PAPER) (h : recordFill db now input = .ok out) :
    positionAt out.1 k = positionAt db k - (if k = (input.chain, input.tokenIn.address) then spentBy input else 0) +
      if k = (input.chain, input.tokenOut.address) then receivedBy input else 0 := by
  obtain ⟨f, paid, hp, hout, -⟩ := recordFill_ok h
  obtain ⟨l, hl⟩ := exists_stands hs (Mode.PAPER, k.1, k.2)
  have hb := f.bought_stands (f.sold_stands hl)
  have hheld : positionAt out.1 k = heldAt (f.bought (f.sold db)) (.PAPER, k.1, k.2) := by
    obtain ⟨_, rfl⟩ := payPaper_eq hp
    rw [hout]
    rfl
  have hin : (Mode.PAPER, k.1, k.2) = keyIn input ↔ k = (input.chain, input.tokenIn.address) := key_iff hm _
  have hto : (Mode.PAPER, k.1, k.2) = keyOut input ↔ k = (input.chain, input.tokenOut.address) := key_iff hm _
  rw [hheld, hb.held, show positionAt db k = l.amount from hl.held, f.spent_eq, f.received_eq]
  simp only [hin, hto]
  split
  · split
    · rfl
    · rfl
  · split
    · rfl
    · rfl

/-- **A paper fill moves balances**: what it spends was there and leaves, and what it receives joins. -/
theorem balanceAt_recordFill (hm : input.mode = .PAPER) (h : recordFill db now input = .ok out) :
    (balanceAt out.1 k : Int) = balanceAt db k - (if k = (input.chain, input.tokenIn.address) then (spentBy input : Int) else 0) +
      (if k = (input.chain, input.tokenOut.address) then (receivedBy input : Int) else 0) ∧
    (k = (input.chain, input.tokenIn.address) → spentBy input ≤ balanceAt db k) := by
  obtain ⟨f, paid, hp, hout, -⟩ := recordFill_ok h
  obtain ⟨positions, hb⟩ : ∃ positions, f.bought (f.sold db) = { db with positions } := f.bought_eq
  unfold payPaper at hp
  rw [if_pos hm, hb, bind_ok] at hp
  obtain ⟨spent, hspent, hpaid⟩ := hp
  have h1 := balanceAt_adjust (k := k) hspent
  have h2 := balanceAt_adjust (k := k) hpaid
  have hdb : balanceAt { db with positions } k = balanceAt db k := rfl
  have hto : balanceAt out.1 k = balanceAt paid k := by
    rw [hout]
    rfl
  rw [hdb] at h1
  rw [f.spent_eq, f.received_eq, hto, h2, h1]
  constructor
  · by_cases hi : k = (input.chain, input.tokenIn.address)
    · rw [if_pos hi, if_pos hi]
      omega
    · rw [if_neg hi, if_neg hi]
      omega
  · intro hk
    rw [if_pos hk] at h1
    omega

end

/-- **A paper fill never unbacks a position.** -/
theorem recordFill_backed {input : RecordFillInput} {out : Db × FillRow} (hs : Sound db) (hm : input.mode = .PAPER)
    (h : recordFill db now input = .ok out) {n : Nat} (hk : positionAt db k ≤ balanceAt db k + n) :
    positionAt out.1 k ≤ balanceAt out.1 k + n := by
  have hp := positionAt_recordFill (k := k) hs hm h
  obtain ⟨hb, hle⟩ := balanceAt_recordFill (k := k) hm h
  by_cases hi : k = (input.chain, input.tokenIn.address)
  · have := hle hi
    rw [if_pos hi] at hp hb
    split at hp
    · rename_i ho
      rw [if_pos ho] at hb
      omega
    · rename_i ho
      rw [if_neg ho] at hb
      omega
  · rw [if_neg hi] at hp hb
    split at hp
    · rename_i ho
      rw [if_pos ho] at hb
      omega
    · rename_i ho
      rw [if_neg ho] at hb
      omega

/-! ## LP actions -/

section
variable {action : ProposedAction} {pool : LpPoolState} {tradeId : String} {filledAt feeUsd : Int}

/-- **A paper add writes no position.** -/
theorem writeAdd_positions {add : PaperLpExecutor.PaperAdd}
    (h : PaperLpExecutor.writeAdd db now tradeId action pool add feeUsd filledAt = .ok db') :
    db'.positions = db.positions := by
  unfold PaperLpExecutor.writeAdd PaperLpExecutor.adjustPaper at h
  simp only [bind_ok, pure_ok] at h
  obtain ⟨spent0, h0, spent1, h1, booked, hb, rfl⟩ := h
  obtain ⟨_, rfl⟩ := adjustPaperBalance_eq h0
  obtain ⟨_, rfl⟩ := adjustPaperBalance_eq h1
  obtain ⟨_, _, he⟩ := LiquidityStore.bookAdd_eq hb
  show booked.1.positions = _
  rw [he]

/-- **A paper removal writes no position and lowers no balance.** -/
theorem writeRemove_credits {remove : PaperLpExecutor.PaperRemove} (h0 : 0 ≤ remove.out0) (h1 : 0 ≤ remove.out1)
    (h : PaperLpExecutor.writeRemove db now tradeId action pool remove feeUsd filledAt = .ok db') :
    db'.positions = db.positions ∧ ∀ k, balanceAt db k ≤ balanceAt db' k := by
  unfold PaperLpExecutor.writeRemove PaperLpExecutor.adjustPaper at h
  simp only [bind_ok, pure_ok] at h
  obtain ⟨removed, hr, credited0, hc0, credited1, hc1, rfl⟩ := h
  obtain ⟨_, hremoved⟩ := LiquidityStore.bookRemove_eq hr
  rw [hremoved] at hc0
  constructor
  · obtain ⟨_, rfl⟩ := adjustPaperBalance_eq hc0
    obtain ⟨_, rfl⟩ := adjustPaperBalance_eq hc1
    rfl
  · intro k
    have hb0 := balanceAt_adjust (k := k) hc0
    have hb1 := balanceAt_adjust (k := k) hc1
    have hdb : ∀ lpPositions, balanceAt { db with lpPositions } k = balanceAt db k := fun _ => rfl
    show balanceAt db k ≤ balanceAt credited1 k
    rw [hdb] at hb0
    split at hb0
    · split at hb1
      · omega
      · omega
    · split at hb1
      · omega
      · omega

theorem paperRemove_nonneg {R : Type} {quote : LpRemoveQuote R} {prices : LpFillPrices} {remove : PaperLpExecutor.PaperRemove}
    (h : PaperLpExecutor.paperRemove quote pool prices = .ok remove) : 0 ≤ remove.out0 ∧ 0 ≤ remove.out1 := by
  unfold PaperLpExecutor.paperRemove at h
  simp only [bind_ok] at h
  obtain ⟨lpTokens, hlp, totalSupply, -, h⟩ := h
  split at h
  · cases h
  · simp only [bind_ok] at h
    obtain ⟨reserve0, hr0, reserve1, hr1, below, -, h⟩ := h
    split at h
    · cases h
    · simp only [bind_ok, pure_ok] at h
      obtain ⟨_, -, rfl⟩ := h
      have hlp0 := amountToBigint_nonneg hlp
      exact ⟨Int.tdiv_nonneg (Int.mul_nonneg hlp0 (amountToBigint_nonneg hr0)) (by omega),
        Int.tdiv_nonneg (Int.mul_nonneg hlp0 (amountToBigint_nonneg hr1)) (by omega)⟩

end

/-! ## Runs -/

/-- One step of a run: a swap fill, an LP action, or whatever writes neither positions nor paper balances. -/
inductive Event (R : Type) where
  | fill (now : Int) (input : RecordFillInput)
  | lp (now : Int) (tradeId : String) (action : ProposedAction) (plan : LpPlan R) (pool : LpPoolState)
      (prices : LpFillPrices) (filledAt : Int)
  | elsewhere (other : Db)

variable {R : Type}

/-- A step that throws changes nothing. -/
def step (db : Db) : Event R → Db
  | .fill now input => match recordFill db now { input with mode := .PAPER } with
    | .ok out => out.1
    | .error _ => db
  | .lp now tradeId action plan pool prices filledAt =>
    match PaperLpExecutor.execute db now tradeId action plan pool prices filledAt with
    | .ok out => out.1
    | .error _ => db
  | .elsewhere other => { other with positions := db.positions, paperBalances := db.paperBalances }

/-- What an LP add takes of a token beyond what lies beside its position. -/
def taken (k : ChainId × String) (db : Db) : Event R → Nat
  | .lp now tradeId action (.add quote) pool prices filledAt =>
    let spent := balanceAt db k - balanceAt (step db (.lp now tradeId action (.add quote) pool prices filledAt)) k
    spent - (balanceAt db k - positionAt db k)
  | _ => 0

theorem balanceAt_frame (h : TradeFrame db db') : balanceAt db' k = balanceAt db k := by
  obtain ⟨_, _, _, rfl⟩ := h
  rfl

theorem positions_frame (h : TradeFrame db db') : db'.positions = db.positions := by
  obtain ⟨_, _, _, rfl⟩ := h
  rfl

/-- **An LP action moves no position, and only an add lowers a balance.** -/
theorem lp_credits {now filledAt : Int} {tradeId : String} {action : ProposedAction} {plan : LpPlan R} {pool : LpPoolState}
    {prices : LpFillPrices} {out : Db × LpExecutionOutcome}
    (h : PaperLpExecutor.execute db now tradeId action plan pool prices filledAt = .ok out) :
    out.1.positions = db.positions ∧ ((∀ quote, plan ≠ .add quote) → ∀ k, balanceAt db k ≤ balanceAt out.1 k) := by
  rcases PaperLpExecutor.execute_ok h with ⟨hf, -⟩ | ⟨-, started, fee, applied, hs, ha, hf⟩
  · exact ⟨positions_frame hf, fun _ k => (balanceAt_frame hf).ge⟩
  · rw [positions_frame hf, ← positions_frame hs]
    unfold PaperLpExecutor.apply at ha
    split at ha
    · rename_i quote
      simp only [bind_ok, pure_ok] at ha
      obtain ⟨add, -, written, hw, rfl⟩ := ha
      exact ⟨writeAdd_positions hw, fun hn => absurd rfl (hn quote)⟩
    · simp only [bind_ok, pure_ok] at ha
      obtain ⟨remove, hr, written, hw, rfl⟩ := ha
      obtain ⟨hpos, hbal⟩ := writeRemove_credits (paperRemove_nonneg hr).1 (paperRemove_nonneg hr).2 hw
      exact ⟨hpos, fun _ k => by
        rw [balanceAt_frame hf, ← balanceAt_frame hs]
        exact hbal k⟩
    · cases ha

/-- **One step** unbacks a position by no more than what an add takes of it. -/
theorem step_backed {n : Nat} (e : Event R) (h : Sound db ∧ positionAt db k ≤ balanceAt db k + n) :
    Sound (step db e) ∧ positionAt (step db e) k ≤ balanceAt (step db e) k + (n + taken k db e) := by
  obtain ⟨hs, hk⟩ := h
  cases e with
  | fill now input =>
    have hstep : step db (.fill now input : Event R) = match recordFill db now { input with mode := .PAPER } with
        | .ok out => out.1
        | .error _ => db := rfl
    cases hr : recordFill db now { input with mode := .PAPER } with
    | error _ =>
      rw [hr] at hstep
      rw [show step db _ = db from hstep]
      exact ⟨hs, hk⟩
    | ok out =>
      rw [hr] at hstep
      rw [show step db _ = out.1 from hstep]
      exact ⟨recordFill_sound hs hr, recordFill_backed hs rfl hr hk⟩
  | elsewhere other => exact ⟨hs, hk⟩
  | lp now tradeId action plan pool prices filledAt =>
    have hstep : step db (.lp now tradeId action plan pool prices filledAt) =
        match PaperLpExecutor.execute db now tradeId action plan pool prices filledAt with
        | .ok out => out.1
        | .error _ => db := rfl
    cases hx : PaperLpExecutor.execute db now tradeId action plan pool prices filledAt with
    | error _ =>
      rw [hx] at hstep
      rw [show step db _ = db from hstep]
      exact ⟨hs, by omega⟩
    | ok out =>
      rw [hx] at hstep
      replace hstep : step db _ = out.1 := hstep
      obtain ⟨hpos, hbal⟩ := lp_credits hx
      have hp : positionAt out.1 k = positionAt db k := by
        unfold positionAt heldAt
        rw [hpos]
      refine ⟨by rw [hstep]; unfold Sound; rw [hpos]; exact hs, ?_⟩
      cases plan with
      | add quote =>
        have ht : taken k db (.lp now tradeId action (.add quote) pool prices filledAt) = balanceAt db k -
            balanceAt (step db (.lp now tradeId action (.add quote) pool prices filledAt)) k -
              (balanceAt db k - positionAt db k) := rfl
        rw [ht, hstep]
        omega
      | remove quote closes =>
        have hle := hbal (by intro _ hc; cases hc) k
        rw [hstep]
        omega
      | claim p =>
        have hle := hbal (by intro _ hc; cases hc) k
        rw [hstep]
        omega

/-- **Paper positions are backed but for what LP adds take of them.**  From no positions, after any run, a position is at most
the paper balance of its token and what the adds of the run took beyond what lay beside the position; where they took nothing,
the whole position can be spent. -/
theorem positions_backed (hdb : db.positions.rows = []) (es : List (Event R)) (k : ChainId × String) :
    positionAt (History.after step db es) k ≤
      balanceAt (History.after step db es) k + History.tally step (taken k) db es ∧
    (History.tally step (taken k) db es = 0 → ∀ now decimals, ∃ closed,
      adjustPaperBalance (History.after step db es) now k.1 k.2 decimals (-positionAt (History.after step db es) k) =
        .ok closed) := by
  have h0 : Sound db ∧ positionAt db k ≤ balanceAt db k + 0 := by
    refine ⟨fun r hr => ?_, ?_⟩
    · rw [hdb] at hr
      cases hr
    · unfold positionAt heldAt Table.get
      rw [hdb]
      exact Nat.zero_le _
  have hrun : Sound (History.after step db es) ∧ positionAt (History.after step db es) k ≤
      balanceAt (History.after step db es) k + History.tally step (taken k) db es :=
    History.invariant_tally (P := fun db n => Sound db ∧ positionAt db k ≤ balanceAt db k + n) h0
      (fun _ _ e h => step_backed e h) es
  obtain ⟨-, hle⟩ := hrun
  refine ⟨hle, fun hz now decimals => ⟨_, adjustPaperBalance_ok.2 ⟨?_, rfl⟩⟩⟩
  rw [hz] at hle
  rw [paperHeld_eq]
  show 0 ≤ (balanceAt (History.after step db es) k : Int) + _
  omega

/-! ### WBNB bought, then paid into a pool -/

/-- A bankroll of 40 USDT, with a trade for the swap and one for the add. -/
def bankroll : Db :=
  let seeded := setPaperBalance Db.empty 1700000000000 .bsc paperAdd.tokenIn.address 18 40000000000000000000
  match TradeStore.propose seeded "t1" 1700000000000 paperAdd .open ⟨true, none, none⟩ with
  | .ok out => { out.1 with trades := out.1.trades.put { out.2 with status := .allowed } }
  | .error _ => Db.empty

def buyBnb : RecordFillInput :=
  { tradeId := "t1", mode := .PAPER, chain := .bsc, tokenIn := paperAdd.tokenIn, tokenOut := paperAdd.tokenOut
    amountIn := "20000000000000000000", amountOut := "33333333333333333", priceInUsd := "1", priceOutUsd := "600"
    feeUsd := "0", filledAt := 1700000000000, simulated := true }

def bnbPool : LpPoolState :=
  { chain := .bsc, protocol := "pancakeswap-v2", poolId := "0x16b9a82891338f9ba80e2d6970fdda79d1eb0dae", stable := false
    token0 := ⟨paperAdd.tokenIn.address, 18, some "USDT"⟩, token1 := ⟨paperAdd.tokenOut.address, 18, some "WBNB"⟩
    reserve0 := "600000000000000000000000", reserve1 := "1000000000000000000000", totalSupply := "20000000000000000000000"
    lpTokenDecimals := 18, observedAt := 1700000000000 }

def bnbAdd : LpAddQuote Unit :=
  { chain := .bsc, protocol := "pancakeswap-v2", poolId := bnbPool.poolId, contract := paperAdd.contract
    amount0 := "19999999999999999800", amount1 := "33333333333333333", min0 := "0", min1 := "0"
    expectedLpTokens := "660000000000000000", minLpTokens := "650000000000000000", slippageBps := 50
    quotedAt := 1700000000000, source := "pancakeswap-v2", feeEstimate := paperAdd.feeEstimate, routeData := none }

/-- The swap buys WBNB, the add spends all of it. -/
def buyThenAdd : List (Event Unit) :=
  [.fill 1700000000000 buyBnb,
    .lp 1700000001000 "t1" paperAdd (.add bnbAdd) bnbPool ⟨"1", "600", "600"⟩ 1700000001000]

theorem position_unbacked : ¬ ∀ (db : Db) (es : List (Event Unit)) (k : ChainId × String), db.positions.rows = [] →
    positionAt (History.after step db es) k ≤ balanceAt (History.after step db es) k := by
  intro h
  have hle := h bankroll buyThenAdd (.bsc, paperAdd.tokenOut.address) (by decide +kernel)
  revert hle
  decide +kernel

/-- The swap alone. -/
def buyOnly : List (Event Unit) := [.fill 1700000000000 buyBnb]

theorem positions_backed_before_add : positionAt (History.after step bankroll buyOnly) (.bsc, paperAdd.tokenOut.address) ≤
    balanceAt (History.after step bankroll buyOnly) (.bsc, paperAdd.tokenOut.address) + 0 :=
  (positions_backed (by decide +kernel) buyOnly (.bsc, paperAdd.tokenOut.address)).1

end PaperWallet
end Atra
