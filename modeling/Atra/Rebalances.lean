import Atra.EngineSpec
import Atra.LpBooks
import Atra.RangeBooks
/-!
# Rebalances — what the risk snapshot counts of a pool's rebalances

The v2 rebalances of a day are a counter by pool and the v3 ones are rows.  The snapshot adds the two, but reads the counter
off the open v2 positions, so that a pool that was rebalanced and left on one day shows only its v3 rebalances.
-/
namespace Atra

theorem lpPoolKey_inj {chain chain' : ChainId} {poolId poolId' : String} :
    lpPoolKey chain poolId = lpPoolKey chain' poolId' ↔ chain = chain' ∧ poolId = poolId' := by
  constructor
  · intro h
    have hl : chain.name.toList ++ ':' :: poolId.toList = chain'.name.toList ++ ':' :: poolId'.toList := by
      have := congrArg String.toList h
      unfold lpPoolKey at this
      simpa using this
    have hc : chain = chain' := by
      have hpre : chain.name.toList = chain'.name.toList := by
        have hno : ∀ c : ChainId, ∀ x ∈ c.name.toList, decide (x ≠ ':') = true := by
          intro c
          apply List.all_eq_true.1
          cases c <;> rfl
        have htake := congrArg (List.takeWhile fun x => decide (x ≠ ':')) hl
        rw [List.takeWhile_append_of_pos (hno chain), List.takeWhile_append_of_pos (hno chain')] at htake
        simpa using htake
      have hname : chain.name = chain'.name := String.toList_inj.1 hpre
      revert hname
      cases chain <;> cases chain' <;> decide
    subst hc
    exact ⟨rfl, String.toList_inj.1 (by simpa using hl)⟩
  · rintro ⟨rfl, rfl⟩
    rfl

namespace LiquidityStore

open Script

variable {db db' : Db} {mode : Mode} {chain : ChainId} {poolId : String} {now : Int}

/-! ## What one booking counts -/

/-- A booking falls on the day of a moment, in a mode and a pool. -/
def Hits (mode : Mode) (chain : ChainId) (poolId : String) (now : Int) (m : Mode) (c : ChainId) (p : String) (time : Int) :
    Prop := m = mode ∧ c = chain ∧ p = poolId ∧ Engine.dayStartOf time = Engine.dayStartOf now

instance decidableHits {m : Mode} {c : ChainId} {p : String} {time : Int} :
    Decidable (Hits mode chain poolId now m c p time) := by
  unfold Hits
  infer_instance

/-- **A counted rebalance raises the count of its pool and day**, and no other. -/
theorem rebalancesToday_countRebalance {m : Mode} {c : ChainId} {p : String} {time : Int} :
    rebalancesToday (countRebalance db m c p time) mode chain poolId now =
      rebalancesToday db mode chain poolId now + if Hits mode chain poolId now m c p time then 1 else 0 := by
  unfold rebalancesToday countRebalance
  dsimp only
  rw [Table.get_put]
  by_cases h : Hits mode chain poolId now m c p time
  · obtain ⟨rfl, rfl, rfl, hd⟩ := id h
    rw [if_pos h, if_pos (by rw [LpRebalanceRow.key, hd]), hd]
  · have hne : (mode, chain, poolId, Engine.dayStartOf now) ≠ (m, c, p, Engine.dayStartOf time) := by
      intro he
      obtain ⟨h1, h2, h3, h4⟩ : mode = m ∧ chain = c ∧ poolId = p ∧ Engine.dayStartOf now = Engine.dayStartOf time := by
        simpa using he
      exact h ⟨h1.symm, h2.symm, h3.symm, h4.symm⟩
    rw [if_neg h, if_neg (by exact hne), Nat.add_zero]

theorem rebalancesToday_bookAdd {input : BookAddInput} {out : Db × LpPositionRow} (h : bookAdd db input = .ok out) :
    rebalancesToday out.1 mode chain poolId now = rebalancesToday db mode chain poolId now +
      if input.rebalance ∧ Hits mode chain poolId now input.mode input.chain input.poolId input.time then 1 else 0 := by
  unfold bookAdd at h
  rw [bind_ok] at h
  obtain ⟨added, -, h⟩ := h
  split at h
  · cases h
  · simp only [bind_ok, pure_ok] at h
    obtain ⟨row, -, rfl⟩ := h
    dsimp only
    cases hr : input.rebalance with
    | false =>
      rw [if_neg (by simp), if_neg (by simp)]
      rfl
    | true =>
      rw [if_pos rfl, rebalancesToday_countRebalance]
      simp only [true_and]
      rfl

theorem rangeRebalances_append {rows : List LpRangeRebalanceRow}
    (h : db'.lpRangeRebalances = db.lpRangeRebalances ++ rows) (key : String) :
    rangeRebalances db' mode now key = rangeRebalances db mode now key +
      (rows.filter fun r => r.mode = mode ∧ r.dayStartUtcMs = Engine.dayStartOf now ∧ lpPoolKey r.chain r.poolId = key).length :=
    by
  unfold rangeRebalances
  rw [h, List.filter_append, List.length_append]

/-- Only a mint that replaces a position counts, on the pool it mints into. -/
theorem rangeRebalances_open {input : OpenRangePositionInput} {position : LpRangePositionRow}
    (h : (openRangePosition input).exec db = (.ok position, db')) :
    rangeRebalances db' mode now (lpPoolKey chain poolId) = rangeRebalances db mode now (lpPoolKey chain poolId) +
      if input.rebalancedFrom.isSome ∧ Hits mode chain poolId now input.mode input.chain input.poolId input.time then 1
      else 0 := by
  obtain ⟨tokenId, liquidity, replaced, -, -, hreplaced, hrow, -, hrows⟩ := openRangePosition_ok h
  have hsome : replaced.isSome = input.rebalancedFrom.isSome := by
    unfold resolveRebalancedFrom at hreplaced
    split at hreplaced
    · rename_i hn
      rw [hn, ← pure_ok.1 hreplaced]
      rfl
    · rename_i hn
      simp only [bind_ok] at hreplaced
      obtain ⟨_, -, _, -, hreplaced⟩ := hreplaced
      split at hreplaced
      · cases hreplaced
      · rw [hn, ← pure_ok.1 hreplaced]
        rfl
  rw [rangeRebalances_append hrows]
  congr 1
  unfold countedFor
  rw [← hsome]
  cases replaced with
  | none => rfl
  | some old =>
    have hmode : (rangeRebalance position old input.time).mode = input.mode := by rw [hrow]; rfl
    have hchain : (rangeRebalance position old input.time).chain = input.chain := by rw [hrow]; rfl
    have hpool : (rangeRebalance position old input.time).poolId = input.poolId := by rw [hrow]; rfl
    have hday : (rangeRebalance position old input.time).dayStartUtcMs = Engine.dayStartOf input.time := rfl
    show ([rangeRebalance position old input.time].filter _).length = _
    by_cases hh : Hits mode chain poolId now input.mode input.chain input.poolId input.time
    · obtain ⟨h1, h2, h3, h4⟩ := id hh
      rw [if_pos ⟨rfl, hh⟩, List.filter_cons_of_pos (by simp [hmode, hchain, hpool, hday, h1, h2, h3, h4])]
      rfl
    · rw [if_neg (fun hc => hh hc.2), List.filter_cons_of_neg ?_]
      · rfl
      · simp only [hmode, hchain, hpool, hday, decide_eq_true_eq, lpPoolKey_inj]
        exact fun hc => hh ⟨hc.1, hc.2.2.1, hc.2.2.2, hc.2.1⟩

theorem rangeRebalances_adjust {input : AdjustRangePositionInput} {out : RangeAdjustResult}
    (h : (adjustRangePosition input).exec db = (.ok out, db')) (key : String) :
    rangeRebalances db' mode now key = rangeRebalances db mode now key := by
  obtain ⟨_, _, -, -, -, -, -, hrows⟩ := adjustRangePosition_ok h
  unfold rangeRebalances
  rw [hrows]

/-! ## What the snapshot shows -/

/-- The figure the snapshot shows of a pool. -/
def shown (db : Db) (mode : Mode) (now : Int) (chain : ChainId) (poolId : String) : Nat :=
  ((toRiskSnapshot db mode now).rebalancesToday (lpPoolKey chain poolId)).getD 0

def HoldsPool (db : Db) (mode : Mode) (chain : ChainId) (poolId : String) : Prop :=
  ∃ r ∈ db.lpPositions.rows, r.mode = mode ∧ r.chain = chain ∧ r.poolId = poolId

instance decidableHoldsPool : Decidable (HoldsPool db mode chain poolId) := by
  unfold HoldsPool
  infer_instance

/-- **The snapshot reads the v2 counter only off an open v2 position.** -/
theorem shown_eq : shown db mode now chain poolId =
    (if HoldsPool db mode chain poolId then rebalancesToday db mode chain poolId now else 0) +
      rangeRebalances db mode now (lpPoolKey chain poolId) := by
  have hshown : shown db mode now chain poolId =
      poolRebalances db mode now (listPositions db mode) (lpPoolKey chain poolId) +
        rangeRebalances db mode now (lpPoolKey chain poolId) := by
    unfold shown toRiskSnapshot
    dsimp only
    split
    · rename_i hz
      exact hz.symm
    · rfl
  rw [hshown]
  congr 1
  have hmem : ∀ r, r ∈ listPositions db mode ↔ r ∈ db.lpPositions.rows ∧ r.mode = mode := by
    intro r
    unfold listPositions
    rw [List.mem_insertionSort, List.mem_filter, decide_eq_true_eq]
  unfold poolRebalances
  split
  · rename_i r hr
    have hkey : lpPoolKey r.chain r.poolId = lpPoolKey chain poolId := by simpa using List.find?_some hr
    obtain ⟨hchain, hpool⟩ := lpPoolKey_inj.1 hkey
    obtain ⟨hrow, hmode⟩ := (hmem r).1 (List.mem_of_find?_eq_some hr)
    rw [if_pos ⟨r, hrow, hmode, hchain, hpool⟩, hchain, hpool]
  · rename_i hn
    rw [if_neg]
    rintro ⟨r, hrow, hmode, hchain, hpool⟩
    have hno := List.find?_eq_none.1 hn r ((hmem r).2 ⟨hrow, hmode⟩)
    rw [hchain, hpool] at hno
    exact hno (decide_eq_true rfl)

/-! ## Runs -/

/-- A booking of either family. -/
inductive Booking where
  | add (input : BookAddInput)
  | remove (input : BookRemoveInput)
  | range (call : RangeCall)

namespace Booking

/-- The store a booking leaves, whether it succeeds or throws. -/
def step (db : Db) : Booking → Db
  | .add input =>
    match bookAdd db input with
    | .ok out => out.1
    | .error _ => db
  | .remove input =>
    match bookRemove db input with
    | .ok out => out.1
    | .error _ => db
  | .range call => RangeCall.step db call

/-- One, where a booking is a v2 rebalance of a pool on a day. -/
def v2 (mode : Mode) (chain : ChainId) (poolId : String) (now : Int) (db : Db) : Booking → Nat
  | .add input =>
    match bookAdd db input with
    | .ok _ => if input.rebalance ∧ Hits mode chain poolId now input.mode input.chain input.poolId input.time then 1 else 0
    | .error _ => 0
  | _ => 0

/-- One, where a booking is a v3 rebalance into a pool on a day. -/
def v3 (mode : Mode) (chain : ChainId) (poolId : String) (now : Int) (db : Db) : Booking → Nat
  | .range (.openPosition input) =>
    match ((openRangePosition input).exec db).1 with
    | .ok _ =>
      if input.rebalancedFrom.isSome ∧ Hits mode chain poolId now input.mode input.chain input.poolId input.time then 1 else 0
    | .error _ => 0
  | _ => 0

theorem rebalancesToday_range (call : RangeCall) :
    rebalancesToday (RangeCall.step db call) mode chain poolId now = rebalancesToday db mode chain poolId now := by
  have hcongr : ∀ db' : Db, db'.lpRebalances = db.lpRebalances →
      rebalancesToday db' mode chain poolId now = rebalancesToday db mode chain poolId now := by
    intro db' h
    unfold rebalancesToday
    rw [h]
  unfold RangeCall.step
  rcases hx : call.perform.exec db with ⟨e | u, db'⟩
  · rw [RangeCall.perform_atomic call db e db' hx]
  · cases call with
    | openPosition input =>
      obtain ⟨_, ho, -⟩ := exec_map_ok.1 hx
      obtain ⟨_, _, _, -, -, -, -, hc, -⟩ := openRangePosition_ok ho
      exact hcongr db' hc.rebalances
    | adjustPosition input =>
      obtain ⟨_, ho, -⟩ := exec_map_ok.1 hx
      obtain ⟨_, _, -, -, -, -, hc, -⟩ := adjustRangePosition_ok ho
      exact hcongr db' hc.rebalances
    | closePosition input =>
      obtain ⟨_, ho, -⟩ := exec_map_ok.1 hx
      obtain ⟨_, _, ho'⟩ := closeRangePosition_ok ho
      obtain ⟨_, _, -, -, -, -, hc, -⟩ := adjustRangePosition_ok ho'
      exact hcongr db' hc.rebalances

/-- **A booking raises the v2 counter by what it is.** -/
theorem v2_step (e : Booking) : rebalancesToday (step db e) mode chain poolId now =
    rebalancesToday db mode chain poolId now + v2 mode chain poolId now db e := by
  cases e with
  | add input =>
    unfold step v2
    dsimp only
    cases hb : bookAdd db input with
    | error e => rfl
    | ok out => exact rebalancesToday_bookAdd hb
  | remove input =>
    unfold step v2
    dsimp only
    cases hb : bookRemove db input with
    | error e => rfl
    | ok out =>
      obtain ⟨_, hdb⟩ := bookRemove_eq hb
      dsimp only
      rw [hdb]
      rfl
  | range call => exact rebalancesToday_range call

/-- **A booking raises the v3 rows by what it is.** -/
theorem v3_step (e : Booking) : rangeRebalances (step db e) mode now (lpPoolKey chain poolId) =
    rangeRebalances db mode now (lpPoolKey chain poolId) + v3 mode chain poolId now db e := by
  cases e with
  | add input =>
    unfold step v3
    dsimp only
    cases hb : bookAdd db input with
    | error e => rfl
    | ok out =>
      obtain ⟨_, _, hdb⟩ := bookAdd_eq hb
      dsimp only
      rw [hdb]
      rfl
  | remove input =>
    unfold step v3
    dsimp only
    cases hb : bookRemove db input with
    | error e => rfl
    | ok out =>
      obtain ⟨_, hdb⟩ := bookRemove_eq hb
      dsimp only
      rw [hdb]
      rfl
  | range call =>
    show rangeRebalances (call.perform.exec db).2 mode now _ = _
    rcases hx : call.perform.exec db with ⟨e | u, db'⟩
    · obtain rfl := RangeCall.perform_atomic call db e db' hx
      cases call with
      | openPosition input =>
        have hnone : v3 mode chain poolId now db' (.range (.openPosition input)) = 0 := by
          unfold v3
          dsimp only
          rcases ho : (openRangePosition input).exec db' with ⟨e' | position, t⟩
          · rfl
          · have hx' : (RangeCall.openPosition input).perform.exec db' = (.ok (), t) :=
              exec_map_ok.2 ⟨position, ho, rfl⟩
            rw [hx] at hx'
            cases hx'
        rw [hnone]
        rfl
      | adjustPosition input => rfl
      | closePosition input => rfl
    · cases call with
      | openPosition input =>
        obtain ⟨position, ho, -⟩ := exec_map_ok.1 hx
        unfold v3
        dsimp only
        rw [ho]
        exact rangeRebalances_open ho
      | adjustPosition input =>
        obtain ⟨_, ho, -⟩ := exec_map_ok.1 hx
        exact rangeRebalances_adjust ho _
      | closePosition input =>
        obtain ⟨_, ho, -⟩ := exec_map_ok.1 hx
        obtain ⟨_, _, ho'⟩ := closeRangePosition_ok ho
        exact rangeRebalances_adjust ho' _

/-- The rebalances of either family a run booked against a pool on a day. -/
def booked (mode : Mode) (chain : ChainId) (poolId : String) (now : Int) (es : List Booking) : Nat × Nat :=
  (History.tally step (v2 mode chain poolId now) Db.empty es, History.tally step (v3 mode chain poolId now) Db.empty es)

theorem counted (es : List Booking) :
    rebalancesToday (History.after step Db.empty es) mode chain poolId now = (booked mode chain poolId now es).1 ∧
      rangeRebalances (History.after step Db.empty es) mode now (lpPoolKey chain poolId) =
        (booked mode chain poolId now es).2 := by
  constructor
  · refine History.invariant_tally (P := fun db n => rebalancesToday db mode chain poolId now = n) rfl
      (fun _ _ e h => ?_) es
    rw [v2_step, h]
  · refine History.invariant_tally (P := fun db n => rangeRebalances db mode now (lpPoolKey chain poolId) = n) rfl
      (fun _ _ e h => ?_) es
    rw [v3_step, h]

/-- **The snapshot counts every rebalance of a pool and day just where the mode still has a v2 position in it, or booked no v2
rebalance of it that day**, in every run on an empty store; and there the check admits a rebalance only while fewer than its
limit were booked. -/
theorem shown_counts_all (es : List Booking) (mode : Mode) (now : Int) (chain : ChainId) (poolId : String) :
    let db := History.after step Db.empty es
    let n := booked mode chain poolId now es
    let holds := HoldsPool db mode chain poolId ∨ n.1 = 0
    (shown db mode now chain poolId = n.1 + n.2 ↔ holds) ∧
    ∀ (i : RiskInput) (lp : LpLeg), i.snapshot.lp = some (toRiskSnapshot db mode now) → i.action.chain = chain →
      lp.poolId = poolId → i.action.kind = .lp_rebalance → Engine.Clear (Engine.lpRebalanceChecks i lp) → holds →
      n.1 + n.2 < i.policy.lp.maxRebalancePerDay := by
  intro db n holds
  obtain ⟨h2, h3⟩ : rebalancesToday db mode chain poolId now = n.1 ∧
      rangeRebalances db mode now (lpPoolKey chain poolId) = n.2 := counted es
  have hshown : shown db mode now chain poolId = n.1 + n.2 ↔ holds := by
    rw [shown_eq, h2, h3]
    by_cases hp : HoldsPool db mode chain poolId
    · rw [if_pos hp]
      exact ⟨fun _ => .inl hp, fun _ => rfl⟩
    · rw [if_neg hp]
      constructor
      · intro h
        exact .inr (by omega)
      · rintro (h | h)
        · exact absurd h hp
        · rw [h]
  refine ⟨hshown, fun i lp hsnap hchain hpool hkind hclear hholds => ?_⟩
  rw [← hshown.2 hholds]
  have hlt := (Engine.lpRebalanceChecks_clear hkind).1 hclear
  have hcount : shown db mode now chain poolId ≤ Engine.rebalanceCount i lp := by
    unfold Engine.rebalanceCount
    rw [hsnap, hchain, hpool]
    exact Nat.le_max_right _ _
  omega

/-! ### A pool rebalanced and left on one day -/

def poolAdd (rebalance : Bool) (time : Int) : BookAddInput :=
  { mode := .LIVE
    chain := .bsc
    protocol := "pancakeswap-v2"
    poolId := "0x58f876857a02d6762e0101bb5c46a8c1ed44dc16"
    token0 := ⟨"0x55d398326f99059ff775485246999027b3197955", 18⟩
    token1 := ⟨"0xbb4cdb9cbd36b01bd1cbaebf2de08d9173bc095c", 18⟩
    lpTokens := "1000000000000000000"
    amount0 := "20000000000000000000"
    amount1 := "33333333333333333"
    capitalUsd := "40.000000"
    time
    rebalance }

/-- Entered, rebalanced into and left within an hour. -/
def leftRun : List Booking :=
  [.add (poolAdd false 1700000000000), .add (poolAdd true 1700001000000),
    .remove { mode := .LIVE, chain := .bsc, protocol := "pancakeswap-v2", poolId := (poolAdd true 0).poolId
              lpTokens := "2000000000000000000", time := 1700002000000 }]

theorem rebalance_forgotten : ¬ ∀ (es : List Booking) (mode : Mode) (now : Int) (chain : ChainId) (poolId : String),
    shown (History.after step Db.empty es) mode now chain poolId =
      (booked mode chain poolId now es).1 + (booked mode chain poolId now es).2 := by
  intro h
  have hrun := h leftRun .LIVE 1700003000000 .bsc (poolAdd true 0).poolId
  revert hrun
  decide +kernel

end Booking

end LiquidityStore
end Atra
