import Atra.AverageCost
import Atra.EngineSound
import Atra.Ledger
/-!
# CostBasis — the trading ledger is a ledger of lots

Every position row stands for a lot at average cost (`Stands`), a fill sells from the lot of what it spends and buys into the
lot of what it receives (`recordFill_stands`), and the cost that is left follows by the conservation rule of lots.
-/
namespace Atra
namespace LedgerService

open Money AverageCost

variable {db : Db} {now : Int} {input : RecordFillInput} {out : Db × FillRow} {k : Mode × ChainId × String}

/-! ## Positions as lots -/

def Stands (row : Option PositionRow) (l : Lot) : Prop :=
  match row with
  | none => l.amount = 0
  | some r => 0 < r.amount ∧ l.amount = r.amount ∧ l.basis = r.costBasisUsd

def Sound (db : Db) : Prop := ∀ r ∈ db.positions.rows, 0 < r.amount ∧ 0 ≤ r.costBasisUsd

def heldAt (db : Db) (k : Mode × ChainId × String) : Nat := ((db.positions.get k).map (·.amount)).getD 0

def basisAt (db : Db) (k : Mode × ChainId × String) : Int := db.positions.share (·.costBasisUsd) k

theorem exists_stands (h : Sound db) (k : Mode × ChainId × String) : ∃ l, Stands (db.positions.get k) l := by
  cases hg : db.positions.get k with
  | none => exact ⟨Lot.none, rfl⟩
  | some r =>
    obtain ⟨ha, hb⟩ := Table.forall_rows.1 h k r hg
    exact ⟨⟨r.amount, r.costBasisUsd, hb, fun hz => by omega⟩, ha, rfl, rfl⟩

theorem sound_of_stands (h : ∀ k, ∃ l, Stands (db.positions.get k) l) : Sound db := by
  refine Table.forall_rows.2 fun k r hg => ?_
  obtain ⟨l, hl⟩ := h k
  rw [hg] at hl
  obtain ⟨ha, -, hb⟩ := hl
  exact ⟨ha, by rw [← hb]; exact l.nonneg⟩

theorem Stands.held {l : Lot} (h : Stands (db.positions.get k) l) : heldAt db k = l.amount := by
  unfold heldAt
  cases hg : db.positions.get k with
  | none =>
    rw [hg] at h
    exact h.symm
  | some r =>
    rw [hg] at h
    exact h.2.1.symm

theorem Stands.basis {l : Lot} (h : Stands (db.positions.get k) l) : basisAt db k = l.basis := by
  unfold basisAt Table.share
  cases hg : db.positions.get k with
  | none =>
    rw [hg] at h
    exact (l.empty h).symm
  | some r =>
    rw [hg] at h
    exact h.2.2.symm

/-! ## A sale and a purchase -/

section
variable {mode : Mode} {chain : ChainId} {token : String} {amount decimals : Nat} {proceedsUsd costUsd time : Int}

theorem sold_eq (amount held : Nat) : (if amount > held then held else amount) = min amount held := by
  split
  · omega
  · omega

theorem reducePosition_get (hk : k ≠ (mode, chain, token)) :
    (reducePosition db mode chain token amount proceedsUsd time).1.positions.get k = db.positions.get k := by
  unfold reducePosition getPosition
  cases hg : db.positions.get (mode, chain, token) with
  | none => rfl
  | some r =>
    have hkey : r.key = (mode, chain, token) := Table.key_of_get hg
    dsimp only
    rw [sold_eq]
    split
    · rw [Table.get_delete, if_neg hk]
    · rw [Table.get_put, if_neg (fun he => hk (he.trans hkey))]

theorem addPosition_get (hk : k ≠ (mode, chain, token)) :
    (addPosition db mode chain token decimals amount costUsd time).positions.get k = db.positions.get k := by
  unfold addPosition getPosition
  cases hg : db.positions.get (mode, chain, token) with
  | none =>
    dsimp only
    rw [Table.get_put, if_neg (by exact hk)]
  | some r =>
    have hkey : r.key = (mode, chain, token) := Table.key_of_get hg
    dsimp only
    rw [Table.get_put, if_neg (fun he => hk (he.trans hkey))]

/-- **Reducing a position sells from its lot**, and touches no other. -/
theorem reducePosition_stands {l : Lot} (h : Stands (db.positions.get k) l) :
    Stands ((reducePosition db mode chain token amount proceedsUsd time).1.positions.get k)
      (if k = (mode, chain, token) then l.move (.sell amount) else l) := by
  by_cases hk : k = (mode, chain, token)
  · subst hk
    rw [if_pos rfl]
    unfold reducePosition getPosition
    cases hg : db.positions.get (mode, chain, token) with
    | none =>
      rw [hg] at h
      show Stands (db.positions.get (mode, chain, token)) _
      rw [hg]
      show l.amount - amount = 0
      rw [show l.amount = 0 from h, Nat.zero_sub]
    | some r =>
      rw [hg] at h
      obtain ⟨hpos, ha, hb⟩ := h
      have hkey : r.key = (mode, chain, token) := Table.key_of_get hg
      dsimp only
      rw [sold_eq]
      split
      · rename_i hz
        rw [Table.get_delete, if_pos rfl]
        show l.amount - amount = 0
        omega
      · rename_i hz
        rw [Table.get_put, if_pos (by rw [← hkey]; rfl)]
        refine ⟨by show 0 < r.amount - min amount r.amount; omega, ?_, ?_⟩
        · show l.amount - amount = r.amount - min amount r.amount
          omega
        · show l.basis - release l.basis (min amount l.amount) l.amount =
            r.costBasisUsd - costOfSold r.costBasisUsd (min amount r.amount) r.amount
          unfold costOfSold
          rw [if_neg (by omega), ha, hb, tdiv_eq_release (by rw [← hb]; exact l.nonneg) hpos]
  · rw [if_neg hk, reducePosition_get hk]
    exact h

/-- **Adding to a position buys into its lot**, and touches no other. -/
theorem addPosition_stands {l : Lot} (h : Stands (db.positions.get k) l) (hm : 0 < amount ∧ 0 ≤ costUsd) :
    Stands ((addPosition db mode chain token decimals amount costUsd time).positions.get k)
      (if k = (mode, chain, token) then l.move (.buy amount costUsd hm) else l) := by
  by_cases hk : k = (mode, chain, token)
  · subst hk
    rw [if_pos rfl]
    unfold addPosition getPosition
    cases hg : db.positions.get (mode, chain, token) with
    | none =>
      rw [hg] at h
      dsimp only
      rw [Table.get_put, if_pos (by rfl)]
      refine ⟨hm.1, ?_, ?_⟩
      · show l.amount + amount = amount
        rw [show l.amount = 0 from h, Nat.zero_add]
      · show l.basis + costUsd = costUsd
        rw [l.empty h, Int.zero_add]
    | some r =>
      rw [hg] at h
      obtain ⟨hpos, ha, hb⟩ := h
      have hkey : r.key = (mode, chain, token) := Table.key_of_get hg
      dsimp only
      rw [Table.get_put, if_pos (by rw [← hkey]; rfl)]
      refine ⟨by show 0 < r.amount + amount; omega, ?_, ?_⟩
      · show l.amount + amount = r.amount + amount
        rw [ha]
      · show l.basis + costUsd = r.costBasisUsd + costUsd
        rw [hb]
  · rw [if_neg hk, addPosition_get hk]
    exact h

theorem reducePosition_eq : ∃ positions,
    (reducePosition db mode chain token amount proceedsUsd time).1 = { db with positions } := by
  unfold reducePosition
  split
  · exact ⟨db.positions, rfl⟩
  · dsimp only
    rw [sold_eq]
    split
    · exact ⟨_, rfl⟩
    · exact ⟨_, rfl⟩

theorem addPosition_eq : ∃ positions,
    addPosition db mode chain token decimals amount costUsd time = { db with positions } := by
  unfold addPosition
  split
  · exact ⟨_, rfl⟩
  · exact ⟨_, rfl⟩

/-- What a reduction realizes: the proceeds of the part that was held less its cost. -/
theorem reducePosition_realized {l : Lot} (h : Stands (db.positions.get (mode, chain, token)) l) (ha : 0 < amount)
    (hp : 0 ≤ proceedsUsd) : (reducePosition db mode chain token amount proceedsUsd time).2 =
      Rounding.down (proceedsUsd * (min amount l.amount : Nat)) amount - l.released (.sell amount) := by
  unfold reducePosition getPosition
  cases hg : db.positions.get (mode, chain, token) with
  | none =>
    rw [hg] at h
    have hz : l.amount = 0 := h
    show 0 = Rounding.down (proceedsUsd * (min amount l.amount : Nat)) amount -
      release l.basis (min amount l.amount) l.amount
    rw [hz, release_empty, Nat.min_zero, Int.natCast_zero, Int.mul_zero]
    unfold Rounding.down
    rw [Int.zero_ediv, Int.sub_zero]
  | some r =>
    rw [hg] at h
    obtain ⟨hpos, hla, hlb⟩ := h
    have hcost : costOfSold r.costBasisUsd (min amount r.amount) r.amount = l.released (.sell amount) := by
      unfold costOfSold Lot.released
      rw [if_neg (by omega), ← hla, ← hlb, tdiv_eq_release l.nonneg (by omega)]
    have hproceeds : proceedsOfSold proceedsUsd (min amount r.amount) amount =
        Rounding.down (proceedsUsd * (min amount l.amount : Nat)) amount := by
      unfold proceedsOfSold
      rw [← hla]
      split
      · rename_i he
        rw [← he]
        exact (Rounding.down_mul_cancel _ (by exact_mod_cast ha)).symm
      · exact Rounding.tdiv_eq_down (Int.mul_nonneg hp (Int.natCast_nonneg _))
    dsimp only
    rw [sold_eq, hcost, hproceeds]
    split
    · rfl
    · rfl

end

/-! ## Fills -/

/-- The position a fill sells from. -/
def keyIn (input : RecordFillInput) : Mode × ChainId × String := (input.mode, input.chain, input.tokenIn.address)

/-- The position a fill buys into. -/
def keyOut (input : RecordFillInput) : Mode × ChainId × String := (input.mode, input.chain, input.tokenOut.address)

/-- The figures a fill parses: positive amounts, what was paid in, rounded down, and the fee. -/
structure FillFigures (input : RecordFillInput) where
  amountIn : Nat
  amountOut : Nat
  price : Int
  paidUsd : Int
  feeUsd : Int
  amountIn_pos : 0 < amountIn
  amountOut_pos : 0 < amountOut
  paid_nonneg : 0 ≤ paidUsd
  amountIn_ok : amountToBigint input.amountIn = .ok amountIn
  amountOut_ok : amountToBigint input.amountOut = .ok amountOut
  price_ok : priceToAtto input.priceInUsd = .ok price
  paid_ok : nativeToUsdMicros amountIn input.tokenIn.decimals price .floor = .ok paidUsd
  fee_ok : usdToMicros input.feeUsd = .ok feeUsd

theorem adjustPaperBalance_ok {db' : Db} {chain : ChainId} {token : String} {decimals : Nat} {delta : Int} :
    adjustPaperBalance db now chain token decimals delta = .ok db' ↔ 0 ≤ paperHeld db chain token + delta ∧
      db' = setPaperBalance db now chain token decimals (paperHeld db chain token + delta).toNat := by
  unfold adjustPaperBalance
  dsimp only
  by_cases hn : paperHeld db chain token + delta < 0
  · rw [if_pos hn]
    constructor
    · intro h
      cases h
    · rintro ⟨h, -⟩
      omega
  · rw [if_neg hn, pure_ok]
    exact ⟨fun h => ⟨by omega, h.symm⟩, fun h => h.2.symm⟩

theorem payPaper_eq {db' : Db} {amountIn amountOut : Nat} (h : payPaper db now input amountIn amountOut = .ok db') :
    ∃ paperBalances, db' = { db with paperBalances } := by
  unfold payPaper at h
  split at h
  · simp only [bind_ok] at h
    obtain ⟨spent, hs, hr⟩ := h
    obtain ⟨-, rfl⟩ := adjustPaperBalance_ok.1 hs
    obtain ⟨-, rfl⟩ := adjustPaperBalance_ok.1 hr
    exact ⟨_, rfl⟩
  · obtain rfl := pure_ok.1 h
    exact ⟨_, rfl⟩

namespace FillFigures

variable (f : FillFigures input)

theorem buys : 0 < f.amountOut ∧ 0 ≤ f.paidUsd := ⟨f.amountOut_pos, f.paid_nonneg⟩

/-- The ledger once a fill has sold what it spends. -/
def sold (db : Db) : Db :=
  (reducePosition db input.mode input.chain input.tokenIn.address f.amountIn f.paidUsd input.filledAt).1

/-- The ledger once a fill has bought what it receives. -/
def bought (db : Db) : Db :=
  addPosition db input.mode input.chain input.tokenOut.address input.tokenOut.decimals f.amountOut f.paidUsd input.filledAt

theorem sold_stands {l : Lot} (h : Stands (db.positions.get k) l) :
    Stands ((f.sold db).positions.get k) (if k = keyIn input then l.move (.sell f.amountIn) else l) :=
  reducePosition_stands h

theorem bought_stands {l : Lot} (h : Stands (db.positions.get k) l) :
    Stands ((f.bought db).positions.get k) (if k = keyOut input then l.move (.buy f.amountOut f.paidUsd f.buys) else l) :=
  addPosition_stands h f.buys

theorem sold_get (h : k ≠ keyIn input) : (f.sold db).positions.get k = db.positions.get k := reducePosition_get h

theorem bought_get (h : k ≠ keyOut input) : (f.bought db).positions.get k = db.positions.get k := addPosition_get h

theorem bought_eq : ∃ positions, f.bought (f.sold db) = { db with positions } := by
  unfold bought sold
  obtain ⟨reduced, hr⟩ : ∃ positions, (reducePosition db input.mode input.chain input.tokenIn.address f.amountIn f.paidUsd
      input.filledAt).1 = { db with positions } := reducePosition_eq
  rw [hr]
  exact addPosition_eq

end FillFigures

/-- **What a fill that is recorded did**: it sold, bought, moved the paper balances, and appended its row. -/
theorem recordFill_ok (h : recordFill db now input = .ok out) : ∃ (f : FillFigures input) (paid : Db),
    payPaper (f.bought (f.sold db)) now input f.amountIn f.amountOut = .ok paid ∧
      out.1 = { paid with fills := paid.fills ++ [out.2] } ∧ (paid.trades.get input.tradeId).isSome ∧
      out.2.realizedPnlUsd = (reducePosition db input.mode input.chain input.tokenIn.address f.amountIn f.paidUsd
        input.filledAt).2 - f.feeUsd ∧ out.2.mode = input.mode ∧ out.2.tradeId = input.tradeId := by
  unfold recordFill at h
  simp only [bind_ok] at h
  obtain ⟨amountIn, hin, amountOut, hout, price, hprice, _, _, fee, hfee, h⟩ := h
  split at h
  · cases h
  · rename_i hpos
    simp only [bind_ok] at h
    obtain ⟨paidUsd, hpaid, _, _, h⟩ := h
    have hin0 := amountToBigint_nonneg hin
    have hout0 := amountToBigint_nonneg hout
    unfold writeFill at h
    simp only [bind_ok] at h
    obtain ⟨paid, hp, h⟩ := h
    split at h
    · cases h
    · rename_i htrade
      obtain rfl := pure_ok.1 h
      let f : FillFigures input :=
        { amountIn := amountIn.toNat, amountOut := amountOut.toNat, price, paidUsd, feeUsd := fee
          amountIn_pos := by omega, amountOut_pos := by omega
          paid_nonneg := nativeToUsdMicros_nonneg hin0 hpaid
          amountIn_ok := by rw [hin, Int.toNat_of_nonneg hin0]
          amountOut_ok := by rw [hout, Int.toNat_of_nonneg hout0]
          price_ok := hprice, paid_ok := by rw [Int.toNat_of_nonneg hin0]; exact hpaid, fee_ok := hfee }
      exact ⟨f, paid, hp, rfl, by simpa [Option.isSome_iff_ne_none] using htrade, rfl, rfl, rfl⟩

def spentBy (input : RecordFillInput) : Nat := ((amountToBigint input.amountIn).toOption.getD 0).toNat

/-- The USD value a fill pays in, rounded down to a micro-USD. -/
def paidBy (input : RecordFillInput) : Int :=
  (do
    let amountIn ← amountToBigint input.amountIn
    let price ← priceToAtto input.priceInUsd
    nativeToUsdMicros amountIn input.tokenIn.decimals price .floor : Result Int).toOption.getD 0

/-- The cost a fill releases from what it spends: the share that was held, at average cost, rounded up. -/
def releasedBy (db : Db) (input : RecordFillInput) : Int :=
  let held := heldAt db (keyIn input)
  release (basisAt db (keyIn input)) (min (spentBy input) held) held

def receivedBy (input : RecordFillInput) : Nat := ((amountToBigint input.amountOut).toOption.getD 0).toNat

theorem FillFigures.received_eq (f : FillFigures input) : receivedBy input = f.amountOut := by
  unfold receivedBy
  rw [f.amountOut_ok]
  rfl

theorem FillFigures.spent_eq (f : FillFigures input) : spentBy input = f.amountIn := by
  unfold spentBy
  rw [f.amountIn_ok]
  rfl

theorem FillFigures.paid_eq (f : FillFigures input) : paidBy input = f.paidUsd := by
  unfold paidBy
  have h : (do
      let amountIn ← amountToBigint input.amountIn
      let price ← priceToAtto input.priceInUsd
      nativeToUsdMicros amountIn input.tokenIn.decimals price .floor : Result Int) = .ok f.paidUsd := by
    simp only [bind_ok]
    exact ⟨_, f.amountIn_ok, _, f.price_ok, f.paid_ok⟩
  rw [h]
  rfl

theorem released_eq {l : Lot} (f : FillFigures input) (h : Stands (db.positions.get (keyIn input)) l) :
    releasedBy db input = l.released (.sell f.amountIn) := by
  unfold releasedBy
  rw [h.held, h.basis, f.spent_eq]
  rfl

/-- **A fill moves the lots of its two tokens**: it sells what it spends and buys what it receives. -/
theorem recordFill_stands {l : Lot} (h : recordFill db now input = .ok out) (hl : Stands (db.positions.get k) l) :
    ∃ ms, Stands (out.1.positions.get k) (l.run ms) ∧
      (ms.map Move.paid).sum = (if k = keyOut input then paidBy input else 0) ∧
      l.releasedBy ms = (if k = keyIn input then releasedBy db input else 0) := by
  obtain ⟨f, paid, hp, hout, -⟩ := recordFill_ok h
  obtain ⟨balances, rfl⟩ := payPaper_eq hp
  rw [hout, f.paid_eq]
  have hm := f.buys
  have hbought := f.bought_stands (f.sold_stands hl)
  refine ⟨(if k = keyIn input then [Move.sell f.amountIn] else []) ++
    (if k = keyOut input then [Move.buy f.amountOut f.paidUsd hm] else []), ?_, ?_, ?_⟩
  · rw [Lot.run_append]
    have hrun : ((l.run (if k = keyIn input then [Move.sell f.amountIn] else [])).run
        (if k = keyOut input then [Move.buy f.amountOut f.paidUsd hm] else [])) =
        (if k = keyOut input then
          (if k = keyIn input then l.move (.sell f.amountIn) else l).move (.buy f.amountOut f.paidUsd hm)
        else if k = keyIn input then l.move (.sell f.amountIn) else l) := by
      by_cases hi : k = keyIn input
      · rw [if_pos hi, if_pos hi]
        by_cases ho : k = keyOut input
        · rw [if_pos ho, if_pos ho]
          rfl
        · rw [if_neg ho, if_neg ho]
          rfl
      · rw [if_neg hi, if_neg hi]
        by_cases ho : k = keyOut input
        · rw [if_pos ho, if_pos ho]
          rfl
        · rw [if_neg ho, if_neg ho]
          rfl
    rw [hrun]
    exact hbought
  · by_cases hi : k = keyIn input
    · by_cases ho : k = keyOut input
      · simp [hi.symm, ho.symm, Move.paid]
      · simp [hi.symm, ho, Move.paid]
    · by_cases ho : k = keyOut input
      · simp [hi, ho.symm, Move.paid]
      · simp [hi, ho]
  · by_cases hi : k = keyIn input
    · rw [if_pos hi, if_pos hi, released_eq f (hi ▸ hl)]
      by_cases ho : k = keyOut input
      · simp [ho.symm, Lot.releasedBy, Lot.released]
      · simp [ho, Lot.releasedBy]
    · rw [if_neg hi, if_neg hi]
      by_cases ho : k = keyOut input
      · simp [ho.symm, Lot.releasedBy, Lot.released]
      · simp [ho, Lot.releasedBy]

/-- **The invariant**: recorded fills keep every position a positive amount at a nonnegative cost. -/
theorem recordFill_sound (hs : Sound db) (h : recordFill db now input = .ok out) : Sound out.1 :=
  sound_of_stands fun k => by
    obtain ⟨l, hl⟩ := exists_stands hs k
    obtain ⟨ms, hms, -⟩ := recordFill_stands h hl
    exact ⟨_, hms⟩

theorem basisAt_recordFill (hs : Sound db) (h : recordFill db now input = .ok out) (k : Mode × ChainId × String) :
    basisAt out.1 k = basisAt db k + (if k = keyOut input then paidBy input else 0) -
      (if k = keyIn input then releasedBy db input else 0) := by
  obtain ⟨l, hl⟩ := exists_stands hs k
  obtain ⟨ms, hms, hpaid, hreleased⟩ := recordFill_stands h hl
  rw [hms.basis, hl.basis, l.run_basis, hpaid, hreleased]

/-! ## Totals -/

/-- The cost of the positions whose key is picked. -/
def costOver (p : Mode × ChainId × String → Bool) (db : Db) : Int :=
  db.positions.total fun r => if p r.key then r.costBasisUsd else 0

section
variable {p : Mode × ChainId × String → Bool}

theorem costOver_frame {db' : Db} (h : ∀ k', k' ≠ k → db'.positions.get k' = db.positions.get k') :
    costOver p db' = costOver p db + if p k then basisAt db' k - basisAt db k else 0 :=
  Table.totalOver_frame p (fun r : PositionRow => r.costBasisUsd) h

/-- **A fill changes the cost over any positions** by what it pays into them less what it releases from them. -/
theorem costOver_recordFill (hs : Sound db) (h : recordFill db now input = .ok out) :
    costOver p out.1 = costOver p db + (if p (keyOut input) then paidBy input else 0) -
      if p (keyIn input) then releasedBy db input else 0 := by
  obtain ⟨f, paid, hp, hout, -⟩ := recordFill_ok h
  obtain ⟨balances, rfl⟩ := payPaper_eq hp
  obtain ⟨l, hl⟩ := exists_stands hs (keyIn input)
  obtain ⟨l', hl'⟩ := exists_stands hs (keyOut input)
  have hsold := f.sold_stands hl
  have hbought := f.bought_stands (f.sold_stands hl')
  rw [if_pos rfl] at hsold hbought
  have hreleased : basisAt (f.sold db) (keyIn input) - basisAt db (keyIn input) = -releasedBy db input := by
    rw [hsold.basis, hl.basis, Lot.move_basis, released_eq f hl]
    show l.basis + 0 - _ - l.basis = _
    omega
  have hpaid : basisAt (f.bought (f.sold db)) (keyOut input) - basisAt (f.sold db) (keyOut input) = paidBy input := by
    rw [hbought.basis, (f.sold_stands hl').basis, Lot.move_basis, f.paid_eq]
    show _ + f.paidUsd - 0 - _ = _
    omega
  rw [hout]
  show costOver p (f.bought (f.sold db)) = _
  rw [costOver_frame fun k' hk' => f.bought_get hk', costOver_frame fun k' hk' => f.sold_get hk', hreleased, hpaid]
  split
  · split
    · omega
    · omega
  · split
    · omega
    · omega

end

/-! ## Runs -/

/-- The ledger after a sequence of calls, each at its reading of the clock; a call that throws changes nothing. -/
def recordAll (db : Db) : List (Int × RecordFillInput) → Db
  | [] => db
  | call :: calls => match recordFill db call.1 call.2 with
    | .ok out => recordAll out.1 calls
    | .error _ => recordAll db calls

/-- What the recorded calls of a sequence pay into a position. -/
def paidInto (k : Mode × ChainId × String) (db : Db) : List (Int × RecordFillInput) → Int
  | [] => 0
  | call :: calls => match recordFill db call.1 call.2 with
    | .ok out => (if k = keyOut call.2 then paidBy call.2 else 0) + paidInto k out.1 calls
    | .error _ => paidInto k db calls

def releasedFrom (k : Mode × ChainId × String) (db : Db) : List (Int × RecordFillInput) → Int
  | [] => 0
  | call :: calls => match recordFill db call.1 call.2 with
    | .ok out => (if k = keyIn call.2 then releasedBy db call.2 else 0) + releasedFrom k out.1 calls
    | .error _ => releasedFrom k db calls

def AllRecorded (db : Db) : List (Int × RecordFillInput) → Prop
  | [] => True
  | call :: calls => ∃ out, recordFill db call.1 call.2 = .ok out ∧ AllRecorded out.1 calls

instance decidableAllRecorded : (db : Db) → (calls : List (Int × RecordFillInput)) → Decidable (AllRecorded db calls)
  | _, [] => isTrue trivial
  | _, call :: calls =>
    have : DecidablePred fun out : Db × FillRow => AllRecorded out.1 calls := fun out => decidableAllRecorded out.1 calls
    inferInstanceAs (Decidable (∃ out, recordFill _ call.1 call.2 = .ok out ∧ AllRecorded out.1 calls))

theorem recordAll_sound (hs : Sound db) (calls : List (Int × RecordFillInput)) : Sound (recordAll db calls) := by
  induction calls generalizing db with
  | nil => exact hs
  | cons call calls ih =>
    unfold recordAll
    cases hr : recordFill db call.1 call.2 with
    | ok out => exact ih (recordFill_sound hs hr)
    | error e => exact ih hs

/-- **Conservation over a run**: the cost of a position is what was paid into it less what it released. -/
theorem basisAt_recordAll (hs : Sound db) (calls : List (Int × RecordFillInput)) :
    basisAt (recordAll db calls) k = basisAt db k + paidInto k db calls - releasedFrom k db calls := by
  induction calls generalizing db with
  | nil => simp [recordAll, paidInto, releasedFrom]
  | cons call calls ih =>
    unfold recordAll paidInto releasedFrom
    cases hr : recordFill db call.1 call.2 with
    | ok out =>
      dsimp only
      rw [ih (recordFill_sound hs hr), basisAt_recordFill hs hr]
      omega
    | error e => exact ih hs

/-- A position that is gone has no cost left. -/
theorem basisAt_of_held (hs : Sound db) (h : heldAt db k = 0) : basisAt db k = 0 := by
  obtain ⟨l, hl⟩ := exists_stands hs k
  rw [hl.held] at h
  rw [hl.basis]
  exact l.empty h

theorem recordFill_sells {l : Lot} (h : recordFill db now input = .ok out) (hi : keyIn input = k) (ho : keyOut input ≠ k)
    (hl : Stands (db.positions.get k) l) : Stands (out.1.positions.get k) (l.move (.sell (spentBy input))) ∧
      releasedBy db input = l.released (.sell (spentBy input)) := by
  obtain ⟨f, paid, hp, hout, -⟩ := recordFill_ok h
  obtain ⟨balances, rfl⟩ := payPaper_eq hp
  have hbought := f.bought_stands (f.sold_stands hl)
  rw [if_pos hi.symm, if_neg (Ne.symm ho), ← f.spent_eq] at hbought
  rw [hout]
  refine ⟨hbought, ?_⟩
  rw [released_eq f (hi ▸ hl), f.spent_eq]

/-- **Exits are sales of one lot.** -/
theorem recordAll_sells {calls : List (Int × RecordFillInput)} {l : Lot} (hall : AllRecorded db calls) (hk : ∀ c ∈ calls, keyIn c.2 = k ∧ keyOut c.2 ≠ k)
    (hl : Stands (db.positions.get k) l) :
    Stands ((recordAll db calls).positions.get k) (l.run ((calls.map fun c => spentBy c.2).map .sell)) ∧
      releasedFrom k db calls = l.releasedBy ((calls.map fun c => spentBy c.2).map .sell) := by
  induction calls generalizing db l with
  | nil => exact ⟨hl, rfl⟩
  | cons call calls ih =>
    obtain ⟨out, hr, hrest⟩ := hall
    obtain ⟨hi, ho⟩ := hk call List.mem_cons_self
    obtain ⟨hstands, hreleased⟩ := recordFill_sells hr hi ho hl
    obtain ⟨hrun, hsum⟩ := ih hrest (fun c hc => hk c (List.mem_cons_of_mem _ hc)) hstands
    unfold recordAll releasedFrom
    rw [hr]
    refine ⟨hrun, ?_⟩
    dsimp only
    rw [if_pos hi.symm, hsum, hreleased]
    rfl

/-- The account of a recorded fill: the value of what it spends, rounded down, is paid in; the cost of the share that was
held leaves; and the proceeds of that share less its cost less the fee are realized. -/
structure Accounted (db : Db) (input : RecordFillInput) (out : Db × FillRow) : Prop where
  paid : ∃ amountIn price, amountToBigint input.amountIn = .ok amountIn ∧ priceToAtto input.priceInUsd = .ok price ∧
    nativeToUsdMicros amountIn input.tokenIn.decimals price .floor = .ok (paidBy input)
  cost : costOver (fun k => k.1 = input.mode) out.1 =
    costOver (fun k => k.1 = input.mode) db + paidBy input - releasedBy db input
  realized : ∃ fee, usdToMicros input.feeUsd = .ok fee ∧ out.2.realizedPnlUsd =
    Rounding.down (paidBy input * (min (spentBy input) (heldAt db (keyIn input)) : Nat)) (spentBy input) -
      releasedBy db input - fee
  released : 0 ≤ releasedBy db input ∧ releasedBy db input ≤ basisAt db (keyIn input)

theorem recordFill_accounted (hs : Sound db) (h : recordFill db now input = .ok out) : Accounted db input out := by
  obtain ⟨f, paid, hp, hout, -, hrealized, -⟩ := recordFill_ok h
  obtain ⟨l, hl⟩ := exists_stands hs (keyIn input)
  have hreleased := released_eq f hl
  refine ⟨⟨_, _, f.amountIn_ok, f.price_ok, by rw [f.paid_eq]; exact f.paid_ok⟩, ?_, ⟨_, f.fee_ok, ?_⟩, ?_⟩
  · have hcost := costOver_recordFill (p := fun k => k.1 = input.mode) hs h
    simpa [keyIn, keyOut] using hcost
  · rw [hrealized, reducePosition_realized hl f.amountIn_pos f.paid_nonneg, hreleased, f.paid_eq, f.spent_eq, hl.held]
  · rw [hreleased, hl.basis]
    exact ⟨l.released_nonneg _, l.released_le _⟩

/-- **Cost basis is conserved, however it is sold.**  After any calls the positions are positive amounts at nonnegative cost,
one a key; every further fill is accounted; the cost of a position is what was paid into it less what it released, all of it
once the position is gone; and exits that cut a whole position in any way release exactly its cost. -/
theorem cost_basis_conserved (hs : Sound db) (calls : List (Int × RecordFillInput)) :
    Sound (recordAll db calls) ∧ ((recordAll db calls).positions.rows.map PositionRow.key).Nodup ∧
    (∀ now input out, recordFill (recordAll db calls) now input = .ok out → Accounted (recordAll db calls) input out) ∧
    (∀ k, basisAt (recordAll db calls) k = basisAt db k + paidInto k db calls - releasedFrom k db calls) ∧
    (∀ k, heldAt (recordAll db calls) k = 0 → releasedFrom k db calls = basisAt db k + paidInto k db calls) ∧
    (∀ k exits, (∀ c ∈ exits, keyIn c.2 = k ∧ keyOut c.2 ≠ k) → AllRecorded (recordAll db calls) exits →
      (exits.map fun c => spentBy c.2).sum = heldAt (recordAll db calls) k →
      heldAt (recordAll (recordAll db calls) exits) k = 0 ∧
        releasedFrom k (recordAll db calls) exits = basisAt (recordAll db calls) k) := by
  have hsound := recordAll_sound hs calls
  refine ⟨hsound, (recordAll db calls).positions.keyed, fun _ _ _ h => recordFill_accounted hsound h,
    fun k => basisAt_recordAll hs calls, fun k hk => ?_, fun k exits hexits hall hsum => ?_⟩
  · have hb := basisAt_recordAll (k := k) hs calls
    rw [basisAt_of_held hsound hk] at hb
    omega
  · obtain ⟨l, hl⟩ := exists_stands hsound k
    obtain ⟨hrun, hreleased⟩ := recordAll_sells hall hexits hl
    rw [hl.held] at hsum
    rw [hrun.held, hreleased, hl.basis]
    exact ⟨by rw [Lot.amount_run_sells]; omega, Lot.released_of_sold_off (by omega)⟩

/-! ### Ten micro-USD bought, sold in thirds -/

/-- A ledger with one trade to book fills against. -/
def oneTrade : Db :=
  match TradeStore.propose Db.empty "t1" 1700000000000 Engine.paperSwap .open ⟨false, none, none⟩ with
  | .ok out => out.1
  | .error _ => Db.empty

def liveFill (tokenIn tokenOut : TokenRef) (amountIn amountOut priceInUsd priceOutUsd : String) : RecordFillInput :=
  { tradeId := "t1", mode := .LIVE, chain := .base, tokenIn, tokenOut, amountIn, amountOut, priceInUsd, priceOutUsd
    feeUsd := "0", filledAt := 1700000000000, simulated := false }

/-- Three units for ten micro-USD. -/
def purchase : Int × RecordFillInput := (1700000000000, liveFill ⟨"usdc", 6⟩ ⟨"unit", 0⟩ "10" "3" "1" "1")

def sale : Int × RecordFillInput := (1700000000000, liveFill ⟨"unit", 0⟩ ⟨"usdc", 6⟩ "1" "1000000" "1" "1")

theorem cost_basis_thirds : releasedFrom (.LIVE, .base, "unit") (recordAll oneTrade [purchase]) [sale, sale, sale] = 10 := by
  have hs : Sound oneTrade := by
    intro r hr
    cases hr
  obtain ⟨-, -, -, -, -, hexits⟩ := cost_basis_conserved hs [purchase]
  have hkeys : ∀ c ∈ [sale, sale, sale], keyIn c.2 = (.LIVE, .base, "unit") ∧ keyOut c.2 ≠ (.LIVE, .base, "unit") := by
    decide
  have hall : AllRecorded (recordAll oneTrade [purchase]) [sale, sale, sale] := by decide +kernel
  rw [(hexits _ [sale, sale, sale] hkeys hall (by decide +kernel)).2]
  decide +kernel


end LedgerService
end Atra
