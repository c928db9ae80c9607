import Atra.AverageCost
import Atra.LiquidityStore
/-!
# LpBooks — the v2 positions are holdings at average cost

An add joins LP tokens and cost at the key of its pool (`bookAdd_ok`), a removal burns tokens and releases their share of the
cost (`bookRemove_ok`), and the capital over any positions changes by just that.
-/
namespace Atra

def BookAddInput.key (i : BookAddInput) : Mode × ChainId × String × String := (i.mode, i.chain, i.protocol, i.poolId)

def BookRemoveInput.key (i : BookRemoveInput) : Mode × ChainId × String × String := (i.mode, i.chain, i.protocol, i.poolId)

namespace LiquidityStore

open Money AverageCost

variable {db : Db} {k : Mode × ChainId × String × String}

/-- Every LP position holds LP tokens, at a nonnegative cost. -/
def Sound (db : Db) : Prop := ∀ r ∈ db.lpPositions.rows, 0 < r.lpTokens ∧ 0 ≤ r.capitalUsd

/-- The cost of an LP position; nothing where there is no row. -/
def capitalAt (db : Db) (k : Mode × ChainId × String × String) : Int :=
  db.lpPositions.share (fun r : LpPositionRow => r.capitalUsd) k

def tokensAt (db : Db) (k : Mode × ChainId × String × String) : Nat := ((db.lpPositions.get k).map (·.lpTokens)).getD 0

/-- The cost of the positions whose key is picked. -/
def capitalOver (p : Mode × ChainId × String × String → Bool) (db : Db) : Int :=
  db.lpPositions.totalOver p fun r : LpPositionRow => r.capitalUsd

theorem capitalAt_some {r : LpPositionRow} (h : db.lpPositions.get k = some r) : capitalAt db k = r.capitalUsd := by
  unfold capitalAt Table.share
  rw [h]
  rfl

theorem capitalAt_none (h : db.lpPositions.get k = none) : capitalAt db k = 0 := by
  unfold capitalAt Table.share
  rw [h]
  rfl

theorem capitalAt_nonneg (hs : Sound db) (k : Mode × ChainId × String × String) : 0 ≤ capitalAt db k := by
  cases hg : db.lpPositions.get k with
  | none => rw [capitalAt_none hg]
  | some r =>
    rw [capitalAt_some hg]
    exact (Table.forall_rows.1 hs k r hg).2

/-! ## Adds -/

section
variable {input : BookAddInput} {out : Db × LpPositionRow}

/-- The row an add leaves: its tokens and its cost join what the pool held. -/
theorem addedRow_ok {added : Nat} {row : LpPositionRow} (h : addedRow db input added = .ok row) : row.key = input.key ∧
    ∃ capital, usdToMicros input.capitalUsd = .ok capital ∧ row.capitalUsd = capitalAt db input.key + capital ∧
      row.lpTokens = tokensAt db input.key + added := by
  unfold addedRow getPosition at h
  dsimp only at h
  split at h
  · rename_i hg
    replace hg : db.lpPositions.get input.key = none := hg
    simp only [bind_ok, pure_ok] at h
    obtain ⟨capital, hc, rfl⟩ := h
    refine ⟨rfl, capital, hc, ?_, ?_⟩
    · rw [capitalAt_none hg, Int.zero_add]
    · unfold tokensAt
      rw [hg]
      exact (Nat.zero_add _).symm
  · rename_i existing hg
    replace hg : db.lpPositions.get input.key = some existing := hg
    simp only [bind_ok, pure_ok] at h
    obtain ⟨_, -, _, -, capital, hc, rfl⟩ := h
    have hkey : existing.key = input.key := Table.key_of_get hg
    refine ⟨hkey, capital, hc, ?_, ?_⟩
    · rw [capitalAt_some hg]
    · unfold tokensAt
      rw [hg]
      rfl

/-- **What an add books**: a positive amount of LP tokens, at its cost, in the position of its pool. -/
theorem bookAdd_ok (h : bookAdd db input = .ok out) : ∃ added : Nat, ∃ capital, 0 < added ∧
    amountToBigint input.lpTokens = .ok added ∧ usdToMicros input.capitalUsd = .ok capital ∧ out.2.key = input.key ∧
    out.2.capitalUsd = capitalAt db input.key + capital ∧ out.2.lpTokens = tokensAt db input.key + added ∧
    out.1.lpPositions = db.lpPositions.put out.2 := by
  unfold bookAdd at h
  rw [bind_ok] at h
  obtain ⟨added, hadded, h⟩ := h
  split at h
  · cases h
  · rename_i hpos
    simp only [bind_ok, pure_ok] at h
    obtain ⟨row, hrow, rfl⟩ := h
    obtain ⟨hkey, capital, hc, hcap, htok⟩ := addedRow_ok hrow
    refine ⟨added.toNat, capital, by omega, ?_, hc, hkey, hcap, htok, ?_⟩
    · rw [hadded, Int.toNat_of_nonneg (by omega)]
    · dsimp only
      split
      · rfl
      · rfl

/-- **An add raises the capital** over the positions that count its pool, by what it cost. -/
theorem capitalOver_bookAdd {p : Mode × ChainId × String × String → Bool} {capital : Int} (h : bookAdd db input = .ok out)
    (hc : usdToMicros input.capitalUsd = .ok capital) :
    capitalOver p out.1 = capitalOver p db + if p input.key then capital else 0 := by
  obtain ⟨added, capital', -, -, hc', hkey, hcap, -, hput⟩ := bookAdd_ok h
  obtain rfl := Except.ok.inj (hc.symm.trans hc')
  have hframe : ∀ k, k ≠ input.key → out.1.lpPositions.get k = db.lpPositions.get k := by
    intro k hk
    rw [hput, Table.get_put, if_neg (by rw [hkey]; exact hk)]
  have hat : capitalAt out.1 input.key = capitalAt db input.key + capital := by
    rw [← hcap]
    refine capitalAt_some ?_
    rw [hput, Table.get_put, if_pos hkey.symm]
  unfold capitalOver
  rw [Table.totalOver_frame p _ hframe]
  show _ + (if p input.key then capitalAt out.1 input.key - capitalAt db input.key else 0) = _
  rw [hat]
  split
  · omega
  · rfl

theorem bookAdd_sound (hs : Sound db) (h : bookAdd db input = .ok out)
    (hc : ∀ capital, usdToMicros input.capitalUsd = .ok capital → 0 ≤ capital) : Sound out.1 := by
  obtain ⟨added, capital, hpos, -, hcap, hkey, hrow, htok, hput⟩ := bookAdd_ok h
  refine Table.forall_rows.2 fun k r hg => ?_
  rw [hput, Table.get_put] at hg
  split at hg
  · obtain rfl := Option.some.inj hg
    have := hc _ hcap
    have := capitalAt_nonneg hs input.key
    omega
  · exact Table.forall_rows.1 hs k r hg

end

/-! ## Removals -/

section
variable {input : BookRemoveInput} {out : Db × Removed}

/-- **What a removal books**: a positive part of what the position holds is burned and its share of the cost released; the
whole of it closes the position. -/
theorem bookRemove_ok (hs : Sound db) (h : bookRemove db input = .ok out) : ∃ burned : Nat, ∃ row,
    amountToBigint input.lpTokens = .ok burned ∧ db.lpPositions.get input.key = some row ∧ 0 < burned ∧
    burned ≤ row.lpTokens ∧ out.2.costReleasedUsd = release row.capitalUsd burned row.lpTokens ∧
    (burned = row.lpTokens ∧ out.1.lpPositions = db.lpPositions.delete input.key ∨
      ∃ row', row'.key = input.key ∧ row'.lpTokens = row.lpTokens - burned ∧ burned < row.lpTokens ∧
        row'.capitalUsd = row.capitalUsd - out.2.costReleasedUsd ∧ out.1.lpPositions = db.lpPositions.put row') := by
  unfold bookRemove at h
  rw [bind_ok] at h
  obtain ⟨burned, hburned, h⟩ := h
  dsimp only at h
  split at h
  · cases h
  · rename_i row hg
    have hkey : row.key = input.key := Table.key_of_get hg
    have hrow := Table.forall_rows.1 hs _ row hg
    split at h
    · cases h
    · rename_i hb
      rw [not_or, not_le, not_lt] at hb
      have hcast : (burned.toNat : Int) = burned := Int.toNat_of_nonneg (by omega)
      have hcost : (row.capitalUsd * burned + row.lpTokens - 1).tdiv row.lpTokens =
          release row.capitalUsd burned.toNat row.lpTokens := by
        rw [← tdiv_eq_release hrow.2 hrow.1, hcast]
      rw [hcost] at h
      refine ⟨burned.toNat, row, by rw [hcast]; exact hburned, hg, by omega, by omega, ?_⟩
      split at h
      · rename_i hz
        obtain rfl := pure_ok.1 h
        exact ⟨rfl, .inl ⟨by omega, by rw [hkey]⟩⟩
      · rename_i hz
        simp only [bind_ok, pure_ok] at h
        obtain ⟨amount0, -, amount1, -, rfl⟩ := h
        refine ⟨rfl, .inr ⟨_, ?_, ?_, ?_, ?_, rfl⟩⟩
        · exact hkey
        · show ((row.lpTokens : Int) - burned).toNat = row.lpTokens - burned.toNat
          omega
        · omega
        · rfl

/-- **A removal lowers the capital** over the positions that count its pool, by the cost it releases. -/
theorem capitalOver_bookRemove {p : Mode × ChainId × String × String → Bool} (hs : Sound db)
    (h : bookRemove db input = .ok out) :
    capitalOver p out.1 = capitalOver p db - if p input.key then out.2.costReleasedUsd else 0 := by
  obtain ⟨burned, row, -, hg, hpos, hle, hcost, hput⟩ := bookRemove_ok hs h
  have hrow := Table.forall_rows.1 hs _ row hg
  have hat : (∀ k, k ≠ input.key → out.1.lpPositions.get k = db.lpPositions.get k) ∧
      capitalAt out.1 input.key = row.capitalUsd - out.2.costReleasedUsd := by
    rcases hput with ⟨hall, hdel⟩ | ⟨row', hkey', -, -, hcap', hput'⟩
    · refine ⟨fun k hk => by rw [hdel, Table.get_delete, if_neg hk], ?_⟩
      rw [capitalAt_none (by rw [hdel, Table.get_delete, if_pos rfl]), hcost, hall, release_all hrow.1]
      omega
    · refine ⟨fun k hk => by rw [hput', Table.get_put, if_neg (by rw [hkey']; exact hk)], ?_⟩
      rw [capitalAt_some (by rw [hput', Table.get_put, if_pos hkey'.symm]), hcap']
  unfold capitalOver
  rw [Table.totalOver_frame p _ hat.1]
  show _ + (if p input.key then capitalAt out.1 input.key - capitalAt db input.key else 0) = _
  rw [hat.2, capitalAt_some hg]
  split
  · omega
  · omega

theorem bookRemove_sound (hs : Sound db) (h : bookRemove db input = .ok out) : Sound out.1 := by
  obtain ⟨burned, row, -, hg, hpos, hle, hcost, hput⟩ := bookRemove_ok hs h
  have hrow := Table.forall_rows.1 hs _ row hg
  refine Table.forall_rows.2 fun k r hr => ?_
  rcases hput with ⟨-, hdel⟩ | ⟨row', hkey', htok', hlt, hcap', hput'⟩
  · rw [hdel, Table.get_delete] at hr
    split at hr
    · cases hr
    · exact Table.forall_rows.1 hs k r hr
  · rw [hput', Table.get_put] at hr
    split at hr
    · obtain rfl := Option.some.inj hr
      have := release_le hrow.2 hrow.1 hle
      omega
    · exact Table.forall_rows.1 hs k r hr

/-- **What a removal releases** is no more than the position cost, and nothing only where it cost nothing. -/
theorem released_bounds (hs : Sound db) (h : bookRemove db input = .ok out) :
    0 ≤ out.2.costReleasedUsd ∧ out.2.costReleasedUsd ≤ capitalAt db input.key ∧
      (out.2.costReleasedUsd = 0 ↔ capitalAt db input.key = 0) := by
  obtain ⟨burned, row, -, hg, hpos, hle, hcost, -⟩ := bookRemove_ok hs h
  obtain ⟨ht, hc⟩ := Table.forall_rows.1 hs _ row hg
  rw [hcost, capitalAt_some hg]
  refine ⟨release_nonneg hc ht, release_le hc ht hle, fun hz => ?_, fun hz => ?_⟩
  · have hup : row.capitalUsd * burned ≤ 0 * row.lpTokens := (Rounding.up_le_iff (by exact_mod_cast ht)).1 (le_of_eq hz)
    rw [Int.zero_mul] at hup
    by_contra hne
    have : 0 < row.capitalUsd * burned := Int.mul_pos (by omega) (by exact_mod_cast hpos)
    omega
  · have := release_le hc ht hle
    have : 0 ≤ release row.capitalUsd burned row.lpTokens := release_nonneg hc ht
    omega

end

/-! ## Claims -/

section
variable {mode : Mode} {chain : ChainId} {protocol poolId : String} {time : Int}

/-- What a claim leaves at each key: the row it touched, at the same tokens and cost. -/
theorem touchClaim_get : (touchClaim db mode chain protocol poolId time).lpPositions.get k =
    if k = (mode, chain, protocol, poolId) then
      (db.lpPositions.get k).map fun row => { row with lastAction := .COLLECT_FEES, lastActionAt := time }
    else db.lpPositions.get k := by
  unfold touchClaim getPosition
  cases hg : db.lpPositions.get (mode, chain, protocol, poolId) with
  | none =>
    dsimp only
    split
    · rename_i hk
      rw [hk, hg]
      rfl
    · rfl
  | some row =>
    have hkey : row.key = (mode, chain, protocol, poolId) := Table.key_of_get hg
    dsimp only
    rw [Table.get_put]
    by_cases hk : k = (mode, chain, protocol, poolId)
    · rw [if_pos (by exact hk.trans hkey.symm), if_pos hk, hk, hg]
      rfl
    · rw [if_neg (by exact fun hc => hk (hc.trans hkey)), if_neg hk]

/-- **A claim moves no capital.** -/
theorem capitalOver_touchClaim (p : Mode × ChainId × String × String → Bool) :
    capitalOver p (touchClaim db mode chain protocol poolId time) = capitalOver p db := by
  have hshare : capitalAt (touchClaim db mode chain protocol poolId time) (mode, chain, protocol, poolId) =
      capitalAt db (mode, chain, protocol, poolId) := by
    unfold capitalAt Table.share
    rw [touchClaim_get, if_pos rfl, Option.map_map]
    rfl
  have hframe := Table.totalOver_frame p (fun r : LpPositionRow => r.capitalUsd)
    (t := db.lpPositions) (k := (mode, chain, protocol, poolId)) fun k' hk' =>
      (show (touchClaim db mode chain protocol poolId time).lpPositions.get k' = _ by rw [touchClaim_get, if_neg hk'])
  unfold capitalOver
  rw [hframe]
  show _ + (if p (mode, chain, protocol, poolId) then capitalAt (touchClaim db mode chain protocol poolId time) _ -
    capitalAt db _ else 0) = _
  rw [hshare, Int.sub_self, ite_self, Int.add_zero]

theorem touchClaim_sound (hs : Sound db) : Sound (touchClaim db mode chain protocol poolId time) := by
  refine Table.forall_rows.2 fun k r hr => ?_
  rw [touchClaim_get] at hr
  split at hr
  · obtain ⟨row, hg, rfl⟩ := Option.map_eq_some_iff.1 hr
    exact Table.forall_rows.1 hs k row hg
  · exact Table.forall_rows.1 hs k r hr

end

end LiquidityStore
end Atra
