import Atra.AverageCost
import Atra.History
import Atra.RangePositions
/-!
# RangeBooks — the range rows, their events and their P&L stay in step

A call that changes a range position writes its row, one event and one P&L row (`Changed`); a call that throws writes nothing.
So in every run a row is the sum of its events, and the P&L rows add up to what the calls paid out less the cost released.
-/
namespace Atra
namespace LiquidityStore

open Script

variable {db db' : Db} {k : RangeKey}

/-! ## What a call writes -/

/-- What a successful call wrote: a row of a key, the event of what it changed, and what it realized. -/
structure Changed (db db' : Db) (position : LpRangePositionRow) (delta capitalDelta released : Int)
    (realized : RangeRealizedInput) (time : Int) : Prop where
  rows : db'.lpRangePositions = db.lpRangePositions.put position
  events : ∃ action, db'.lpRangeEvents = db.lpRangeEvents ++ [rangeEvent position action delta capitalDelta time]
  pnl : ∃ action, db'.lpPnl = (recordPnl db (rangePnl position action released realized time)).1.lpPnl
  liquidity : position.liquidity = db.lpRangePositions.share (·.liquidity) position.key + delta
  capital : position.capitalUsd = db.lpRangePositions.share (·.capitalUsd) position.key + capitalDelta
  cost : released = if delta < 0 then -capitalDelta else 0
  positions : db'.lpPositions = db.lpPositions
  rebalances : db'.lpRebalances = db.lpRebalances

def countedFor (position : LpRangePositionRow) (replaced : Option LpRangePositionRow) (time : Int) :
    List LpRangeRebalanceRow := (replaced.map fun old => rangeRebalance position old time).toList

theorem countReplaced_ok {position : LpRangePositionRow} {replaced : Option LpRangePositionRow} {time : Int} {u : Unit}
    (h : (countReplaced position replaced time).exec db = (.ok u, db')) :
    db' = { db with lpRangeRebalances := db.lpRangeRebalances ++ countedFor position replaced time } := by
  unfold countReplaced at h
  split at h
  · obtain ⟨-, rfl⟩ := Prod.mk.inj h
    show db = { db with lpRangeRebalances := db.lpRangeRebalances ++ [] }
    rw [List.append_nil]
  · unfold countRangeRebalance at h
    simp only [exec_get_bind, exec_lift_bind_ok, exec_modify] at h
    obtain ⟨_, -, h⟩ := h
    obtain ⟨-, rfl⟩ := Prod.mk.inj h
    rfl

theorem exec_recordRangePnl {position : LpRangePositionRow} {action : LpRecordedAction} {cost time : Int}
    {realized : RangeRealizedInput} : (recordRangePnl position action cost realized time).exec db =
      (.ok (recordPnl db (rangePnl position action cost realized time)).2,
        (recordPnl db (rangePnl position action cost realized time)).1) := rfl

theorem openChecks_ok {input : OpenRangePositionInput} {tokenId : String} {liquidity : Int}
    (h : openChecks input = .ok (tokenId, liquidity)) : 0 < liquidity ∧ 0 ≤ input.capitalUsd := by
  unfold openChecks at h
  simp only [bind_ok, pure_ok, refuseWhen_ok] at h
  obtain ⟨_, -, _, -, liquidity', -, _, -, _, hl, _, hc, _, -, _, -, he⟩ := h
  obtain ⟨-, rfl⟩ := Prod.mk.inj he
  exact ⟨by omega, by omega⟩

/-- **What an open writes**, besides its rebalance. -/
theorem openRangePosition_ok {input : OpenRangePositionInput} {position : LpRangePositionRow}
    (h : (openRangePosition input).exec db = (.ok position, db')) : ∃ tokenId liquidity replaced,
    openChecks input = .ok (tokenId, liquidity) ∧ db.lpRangePositions.get position.key = none ∧
    resolveRebalancedFrom db input tokenId = .ok replaced ∧ position = openedRow input tokenId liquidity ∧
    Changed db db' position liquidity input.capitalUsd 0 input.realized input.time ∧
    db'.lpRangeRebalances = db.lpRangeRebalances ++ countedFor position replaced input.time := by
  unfold openRangePosition at h
  simp only [exec_lift_bind_ok, exec_transaction_ok] at h
  obtain ⟨⟨tokenId, liquidity⟩, hchecks, h⟩ := h
  unfold openWrites writeRangePosition recordRangeEvent at h
  simp only [exec_lift_bind_ok, exec_get_bind, exec_modify_bind] at h
  obtain ⟨_, hnew, replaced, hreplaced, h⟩ := h
  simp only [exec_bind_ok, exec_recordRangePnl, exec_pure, Prod.mk.injEq] at h
  obtain ⟨_, counted, hcount, _, _, ⟨-, rfl⟩, hrow, rfl⟩ := h
  obtain rfl := Except.ok.inj hrow
  have hnone : db.lpRangePositions.get (openedRow input tokenId liquidity).key = none := by
    rw [refuseWhen_ok, Option.not_isSome_iff_eq_none] at hnew
    exact hnew
  have hpos := (openChecks_ok hchecks).1
  refine ⟨tokenId, liquidity, replaced, hchecks, hnone, hreplaced, rfl, ?_, ?_⟩
  · rw [countReplaced_ok hcount]
    refine ⟨rfl, ⟨.ADD, rfl⟩, ⟨_, rfl⟩, ?_, ?_, (if_neg (by omega)).symm, rfl, rfl⟩
    · rw [Table.share_none hnone, Int.zero_add]
      rfl
    · rw [Table.share_none hnone, Int.zero_add]
      rfl
  · rw [countReplaced_ok hcount]
    rfl

/-- The capital a change moves. -/
def capitalDelta (input : AdjustRangePositionInput) (existing : LpRangePositionRow) : Int :=
  if 0 < input.liquidityDelta then input.capitalUsd.getD 0 else -rangeReleased existing input.liquidityDelta

theorem adjustChecks_ok {input : AdjustRangePositionInput} {tokenId : String} (h : adjustChecks input = .ok tokenId) :
    input.liquidityDelta ≠ 0 ∧ 0 ≤ input.capitalUsd.getD 0 := by
  unfold adjustChecks at h
  simp only [bind_ok, pure_ok, refuseWhen_ok] at h
  obtain ⟨_, -, _, -, _, hd, _, hc, -⟩ := h
  exact ⟨hd, by omega⟩

/-- **What an adjustment writes.** -/
theorem adjustRangePosition_ok {input : AdjustRangePositionInput} {out : RangeAdjustResult}
    (h : (adjustRangePosition input).exec db = (.ok out, db')) : ∃ tokenId existing,
    adjustChecks input = .ok tokenId ∧ db.lpRangePositions.get out.position.key = some existing ∧
    out.position = adjustedRow input existing ∧
    (input.liquidityDelta < 0 → -input.liquidityDelta ≤ existing.liquidity) ∧
    Changed db db' out.position input.liquidityDelta (capitalDelta input existing)
      (rangeReleased existing input.liquidityDelta) input.realized input.time ∧
    db'.lpRangeRebalances = db.lpRangeRebalances := by
  unfold adjustRangePosition at h
  simp only [exec_lift_bind_ok, exec_transaction_ok] at h
  obtain ⟨tokenId, hchecks, h⟩ := h
  unfold adjustWrites at h
  rw [exec_get_bind] at h
  split at h
  · cases h
  · rename_i existing hg
    unfold adjustExisting writeRangePosition recordRangeEvent at h
    simp only [exec_lift_bind_ok, exec_modify_bind] at h
    obtain ⟨_, hfits, h⟩ := h
    simp only [exec_bind_ok, exec_recordRangePnl, exec_pure, Prod.mk.injEq] at h
    obtain ⟨_, _, ⟨-, rfl⟩, hout, rfl⟩ := h
    obtain rfl := Except.ok.inj hout
    rw [refuseWhen_ok, not_and, not_lt] at hfits
    have hkey : existing.key = (input.mode, input.chain, input.protocol, tokenId) := Table.key_of_get hg
    have hcost : rangeReleased existing input.liquidityDelta =
        if input.liquidityDelta < 0 then -capitalDelta input existing else 0 := by
      unfold capitalDelta rangeReleased
      split
      · rw [if_neg (by omega), Int.neg_neg]
      · rfl
    have hrow : db.lpRangePositions.get (adjustedRow input existing).key = some existing := by
      show db.lpRangePositions.get existing.key = some existing
      rw [hkey]
      exact hg
    refine ⟨tokenId, existing, hchecks, hrow, rfl, hfits, ⟨rfl, ⟨_, rfl⟩, ⟨_, rfl⟩, ?_, ?_, hcost, rfl, rfl⟩, rfl⟩
    · rw [Table.share_some hrow]
      rfl
    · rw [Table.share_some hrow]
      show (if 0 < input.liquidityDelta then _ else _) = _ + if 0 < input.liquidityDelta then _ else _
      split
      · rfl
      · rfl

/-- **A close is the adjustment that burns all the position holds.** -/
theorem closeRangePosition_ok {input : CloseRangePositionInput} {out : RangeAdjustResult}
    (h : (closeRangePosition input).exec db = (.ok out, db')) : ∃ tokenId held,
    (adjustRangePosition (input.burn tokenId held)).exec db = (.ok out, db') := by
  unfold closeRangePosition at h
  simp only [exec_lift_bind_ok, exec_transaction_ok] at h
  obtain ⟨tokenId, -, h⟩ := h
  unfold closeWrites at h
  rw [exec_get_bind] at h
  split at h
  · cases h
  · rename_i existing hg
    unfold closeExisting at h
    rw [exec_lift_bind_ok] at h
    obtain ⟨_, -, h⟩ := h
    exact ⟨tokenId, existing.liquidity, h⟩

/-! ## A throw changes no table -/

theorem openRangePosition_atomic (input : OpenRangePositionInput) : Atomic (openRangePosition input) :=
  (reads_lift _).bind fun _ => atomic_transaction _

theorem adjustRangePosition_atomic (input : AdjustRangePositionInput) : Atomic (adjustRangePosition input) :=
  (reads_lift _).bind fun _ => atomic_transaction _

theorem closeRangePosition_atomic (input : CloseRangePositionInput) : Atomic (closeRangePosition input) :=
  (reads_lift _).bind fun _ => atomic_transaction _

/-! ## Rows -/

/-- What holds of a range row on its own: nothing is negative, and it is closed just when it is empty, at no cost. -/
structure Standing (r : LpRangePositionRow) : Prop where
  liquidity : 0 ≤ r.liquidity
  capital : 0 ≤ r.capitalUsd
  closed : r.closedAt.isSome ↔ r.liquidity = 0
  empty : r.liquidity = 0 → r.capitalUsd = 0

theorem openedRow_standing {input : OpenRangePositionInput} {tokenId : String} {liquidity : Int}
    (h : openChecks input = .ok (tokenId, liquidity)) : Standing (openedRow input tokenId liquidity) := by
  obtain ⟨hl, hc⟩ := openChecks_ok h
  have hne : (openedRow input tokenId liquidity).liquidity ≠ 0 := fun hz => by
    have : liquidity = 0 := hz
    omega
  exact ⟨Int.le_of_lt hl, hc, ⟨fun h => (by cases h), fun hz => absurd hz hne⟩, fun hz => absurd hz hne⟩

theorem rangeReleased_eq {r : LpRangePositionRow} {delta : Int} (hs : Standing r) (hd : delta < 0)
    (hle : -delta ≤ r.liquidity) :
    rangeReleased r delta = AverageCost.release r.capitalUsd (-delta).toNat r.liquidity.toNat := by
  have hb : ((-delta).toNat : Int) = -delta := Int.toNat_of_nonneg (by omega)
  have hh : (r.liquidity.toNat : Int) = r.liquidity := Int.toNat_of_nonneg hs.liquidity
  unfold rangeReleased
  rw [if_pos hd, ← AverageCost.tdiv_eq_release hs.capital (by omega), hb, hh]

theorem adjustedRow_standing {input : AdjustRangePositionInput} {tokenId : String} {existing : LpRangePositionRow}
    (hs : Standing existing) (hc : adjustChecks input = .ok tokenId)
    (hle : input.liquidityDelta < 0 → -input.liquidityDelta ≤ existing.liquidity) : Standing (adjustedRow input existing) := by
  obtain ⟨hne, hpaid⟩ := adjustChecks_ok hc
  have hl0 := hs.liquidity
  have hc0 := hs.capital
  have hliq : (adjustedRow input existing).liquidity = existing.liquidity + input.liquidityDelta := rfl
  have hcap : (adjustedRow input existing).capitalUsd = if 0 < input.liquidityDelta then
      existing.capitalUsd + input.capitalUsd.getD 0
      else existing.capitalUsd - rangeReleased existing input.liquidityDelta := rfl
  have hclosed : (adjustedRow input existing).closedAt.isSome ↔ (adjustedRow input existing).liquidity = 0 := by
    rw [hliq]
    show (if existing.liquidity + input.liquidityDelta = 0 then some input.time else none).isSome ↔ _
    split
    · rename_i hz
      exact ⟨fun _ => hz, fun _ => rfl⟩
    · rename_i hz
      exact ⟨fun h => (by cases h), fun h => absurd h hz⟩
  rcases Int.lt_or_gt_of_ne hne with hneg | hpos
  · have hle' := hle hneg
    have hheld : 0 < existing.liquidity.toNat := by omega
    have hrel := rangeReleased_eq hs hneg hle'
    rw [if_neg (by omega)] at hcap
    refine ⟨by omega, ?_, hclosed, fun hz => ?_⟩
    · have hmost : AverageCost.release existing.capitalUsd (-input.liquidityDelta).toNat existing.liquidity.toNat ≤
          existing.capitalUsd := AverageCost.release_le hc0 hheld (by omega)
      rw [hcap, hrel]
      omega
    · have hall : (-input.liquidityDelta).toNat = existing.liquidity.toNat := by omega
      rw [hcap, hrel, hall, AverageCost.release_all hheld]
      omega
  · rw [if_pos hpos] at hcap
    exact ⟨by omega, by omega, hclosed, fun hz => absurd hz (by omega)⟩

/-! ## Rows and their events -/

/-- The events of a position, as they were written. -/
def eventsOf (db : Db) (k : RangeKey) : List LpRangeEventRow := db.lpRangeEvents.filter fun e => e.key = k

/-- The after-values of an event are what a row holds. -/
def Shows (e : LpRangeEventRow) (r : LpRangePositionRow) : Prop :=
  e.liquidityAfter = r.liquidity ∧ e.capitalAfterUsd = r.capitalUsd

/-- The rows are what their events add up to. -/
structure RowsInStep (db : Db) : Prop where
  standing : ∀ r ∈ db.lpRangePositions.rows, Standing r
  liquidity : ∀ k, db.lpRangePositions.share (·.liquidity) k = ((eventsOf db k).map (·.liquidityDelta)).sum
  capital : ∀ k, db.lpRangePositions.share (·.capitalUsd) k = ((eventsOf db k).map (·.capitalDeltaUsd)).sum
  newest : ∀ k r, db.lpRangePositions.get k = some r → ∃ e, (eventsOf db k).getLast? = some e ∧ Shows e r

theorem RowsInStep.empty : RowsInStep Db.empty := ⟨fun _ h => (by cases h), fun _ => rfl, fun _ => rfl, fun _ _ h => by cases h⟩

section
variable {position : LpRangePositionRow} {delta capitalDelta released time : Int} {realized : RangeRealizedInput}

/-- The events of a key after a change: the one it wrote joins those of its own key. -/
theorem Changed.eventsOf (h : Changed db db' position delta capitalDelta released realized time) (k : RangeKey) :
    ∃ action, LiquidityStore.eventsOf db' k = LiquidityStore.eventsOf db k ++
      if k = position.key then [rangeEvent position action delta capitalDelta time] else [] := by
  obtain ⟨action, he⟩ := h.events
  refine ⟨action, ?_⟩
  have hkey : (rangeEvent position action delta capitalDelta time).key = position.key := rfl
  unfold LiquidityStore.eventsOf
  rw [he, List.filter_append]
  congr 1
  by_cases hk : k = position.key
  · rw [if_pos hk, List.filter_cons_of_pos (by rw [hkey]; simpa using hk.symm)]
    rfl
  · rw [if_neg hk, List.filter_cons_of_neg (by rw [hkey]; simpa using Ne.symm hk)]
    rfl

/-- **A change keeps the rows in step**, where the row it leaves stands on its own. -/
theorem RowsInStep.changed (hi : RowsInStep db) (hc : Changed db db' position delta capitalDelta released realized time)
    (hs : Standing position) : RowsInStep db' := by
  have hget : ∀ k, db'.lpRangePositions.get k = if k = position.key then some position else db.lpRangePositions.get k := by
    intro k
    rw [hc.rows, Table.get_put]
  refine ⟨Table.forall_rows.2 fun k r hr => ?_, fun k => ?_, fun k => ?_, fun k r hr => ?_⟩
  · rw [hget] at hr
    split at hr
    · obtain rfl := Option.some.inj hr
      exact hs
    · exact Table.forall_rows.1 hi.standing k r hr
  · obtain ⟨action, he⟩ := hc.eventsOf k
    by_cases hk : k = position.key
    · rw [he, if_pos hk, Table.share_some (by rw [hget, if_pos hk]), List.map_append, List.sum_append, ← hi.liquidity, hk]
      rw [List.map_singleton, List.sum_singleton]
      exact hc.liquidity
    · rw [he, if_neg hk, List.append_nil, ← hi.liquidity]
      exact Table.share_congr (by rw [hget, if_neg hk])
  · obtain ⟨action, he⟩ := hc.eventsOf k
    by_cases hk : k = position.key
    · rw [he, if_pos hk, Table.share_some (by rw [hget, if_pos hk]), List.map_append, List.sum_append, ← hi.capital, hk]
      rw [List.map_singleton, List.sum_singleton]
      exact hc.capital
    · rw [he, if_neg hk, List.append_nil, ← hi.capital]
      exact Table.share_congr (by rw [hget, if_neg hk])
  · obtain ⟨action, he⟩ := hc.eventsOf k
    rw [hget] at hr
    rw [he]
    split at hr
    · rename_i hk
      obtain rfl := Option.some.inj hr
      rw [if_pos hk, List.getLast?_concat]
      exact ⟨_, rfl, rfl, rfl⟩
    · rename_i hk
      rw [if_neg hk, List.append_nil]
      exact hi.newest k r hr

end

/-! ## P&L -/

def realizedTotal (db : Db) : Int := (db.lpPnl.map (·.realizedPnlUsd)).sum

/-- The cost the burns released, by their events. -/
def basisReleased (db : Db) : Int :=
  (db.lpRangeEvents.map fun e => if e.liquidityDelta < 0 then -e.capitalDeltaUsd else 0).sum

/-- **A change realizes what it paid out less the cost it released less its gas**, on one row. -/
theorem Changed.realized {position : LpRangePositionRow} {delta capitalDelta released time : Int}
    {realized : RangeRealizedInput} (h : Changed db db' position delta capitalDelta released realized time) :
    db'.lpPnl.length = db.lpPnl.length + 1 ∧ realizedTotal db' + basisReleased db' =
      realizedTotal db + basisReleased db + (realized.proceedsUsd - realized.feeUsd) := by
  obtain ⟨action, hp⟩ := h.pnl
  obtain ⟨_, he⟩ := h.events
  have hrows : db'.lpPnl = db.lpPnl ++ [_] := hp
  have htotal : realizedTotal db' = realizedTotal db + (realized.proceedsUsd - released - realized.feeUsd) := by
    unfold realizedTotal
    rw [hrows, List.map_append, List.sum_append, List.map_singleton, List.sum_singleton]
    rfl
  have hbasis : basisReleased db' = basisReleased db + released := by
    unfold basisReleased
    rw [he, List.map_append, List.sum_append, List.map_singleton, List.sum_singleton, h.cost]
    rfl
  refine ⟨by rw [hrows, List.length_append, List.length_singleton], ?_⟩
  rw [htotal, hbasis]
  omega

/-! ## Runs -/

/-- A call on the range ledger. -/
inductive RangeCall where
  | openPosition (input : OpenRangePositionInput)
  | adjustPosition (input : AdjustRangePositionInput)
  | closePosition (input : CloseRangePositionInput)

namespace RangeCall

def perform : RangeCall → Script Db AppError Unit
  | .openPosition input => (fun _ => ()) <$> openRangePosition input
  | .adjustPosition input => (fun _ => ()) <$> adjustRangePosition input
  | .closePosition input => (fun _ => ()) <$> closeRangePosition input

def realized : RangeCall → RangeRealizedInput
  | .openPosition input => input.realized
  | .adjustPosition input => input.realized
  | .closePosition input => input.realized

def time : RangeCall → Int
  | .openPosition input => input.time
  | .adjustPosition input => input.time
  | .closePosition input => input.time

/-- The store a call leaves, whether it succeeds or throws. -/
def step (db : Db) (c : RangeCall) : Db := (c.perform.exec db).2

/-- What a call that succeeds counts: itself, what it paid out and its gas. -/
def booked (db : Db) (c : RangeCall) : Nat × Int × Int :=
  match (c.perform.exec db).1 with
  | .ok _ => (1, c.realized.proceedsUsd, c.realized.feeUsd)
  | .error _ => 0

/-- **A call that throws changes no table.** -/
theorem perform_atomic (c : RangeCall) : Atomic c.perform := by
  cases c with
  | openPosition input => exact (openRangePosition_atomic input).map _
  | adjustPosition input => exact (adjustRangePosition_atomic input).map _
  | closePosition input => exact (closeRangePosition_atomic input).map _

theorem adjust_standing {input : AdjustRangePositionInput} {out : RangeAdjustResult} (hi : RowsInStep db)
    (h : (adjustRangePosition input).exec db = (.ok out, db')) : ∃ delta capitalDelta released,
    Changed db db' out.position delta capitalDelta released input.realized input.time ∧ Standing out.position := by
  obtain ⟨tokenId, existing, hchecks, hg, hrow, hfits, hc, -⟩ := adjustRangePosition_ok h
  refine ⟨_, _, _, hc, ?_⟩
  rw [hrow]
  exact adjustedRow_standing (Table.forall_rows.1 hi.standing _ existing hg) hchecks hfits

/-- **What a call that succeeds does**: one change, to a row that stands on its own. -/
theorem perform_changed {c : RangeCall} (hi : RowsInStep db) (h : c.perform.exec db = (.ok (), db')) :
    ∃ position delta capitalDelta released,
      Changed db db' position delta capitalDelta released c.realized c.time ∧ Standing position := by
  cases c with
  | openPosition input =>
    obtain ⟨position, ho, -⟩ := exec_map_ok.1 h
    obtain ⟨tokenId, liquidity, replaced, hchecks, -, -, hrow, hc, -⟩ := openRangePosition_ok ho
    refine ⟨position, _, _, _, hc, ?_⟩
    rw [hrow]
    exact openedRow_standing hchecks
  | adjustPosition input =>
    obtain ⟨out, ho, -⟩ := exec_map_ok.1 h
    exact ⟨out.position, adjust_standing hi ho⟩
  | closePosition input =>
    obtain ⟨out, ho, -⟩ := exec_map_ok.1 h
    obtain ⟨tokenId, held, ho'⟩ := closeRangePosition_ok ho
    exact ⟨out.position, adjust_standing hi ho'⟩

/-- The ledger of a run that so far counts `n` changes, which paid out and cost what `total` says. -/
structure InStep (db : Db) (total : Nat × Int × Int) : Prop where
  rows : RowsInStep db
  pnl : db.lpPnl.length = total.1
  realized : realizedTotal db = total.2.1 - basisReleased db - total.2.2
  v2 : db.lpPositions = .empty

theorem step_inStep {total : Nat × Int × Int} (c : RangeCall) (hi : InStep db total) :
    InStep (step db c) (total + booked db c) := by
  unfold step booked
  rcases hx : c.perform.exec db with ⟨e | u, db'⟩
  · obtain rfl := perform_atomic c db e db' hx
    rw [add_zero]
    exact hi
  · obtain ⟨position, delta, capitalDelta, released, hc, hs⟩ := perform_changed hi.rows hx
    obtain ⟨hlen, hsum⟩ := hc.realized
    refine ⟨hi.rows.changed hc hs, ?_, ?_, hc.positions.trans hi.v2⟩
    · show db'.lpPnl.length = total.1 + 1
      rw [hlen, hi.pnl]
    · show realizedTotal db' = total.2.1 + c.realized.proceedsUsd - basisReleased db' - (total.2.2 + c.realized.feeUsd)
      have := hi.realized
      omega

theorem run_inStep (calls : List RangeCall) :
    InStep (History.after step Db.empty calls) (History.tally step booked Db.empty calls) :=
  History.invariant_tally ⟨.empty, rfl, rfl, rfl⟩ (fun _ _ c hi => step_inStep c hi) calls

/-! ## The newest event -/

theorem events_times (calls : List RangeCall) :
    ((History.after step Db.empty calls).lpRangeEvents.map (·.time)).Sublist (calls.map time) := by
  induction calls using List.reverseRecOn with
  | nil => exact .slnil
  | append_singleton calls c ih =>
    have hi := (run_inStep calls).rows
    have hstep : step (History.after step Db.empty calls) c = (c.perform.exec (History.after step Db.empty calls)).2 := rfl
    rw [History.after_snoc, List.map_append, hstep]
    rcases hx : c.perform.exec (History.after step Db.empty calls) with ⟨e | u, db'⟩
    · rw [perform_atomic c _ e db' hx]
      exact ih.trans (List.sublist_append_left _ _)
    · obtain ⟨position, delta, capitalDelta, released, hc, -⟩ := perform_changed hi hx
      obtain ⟨action, he⟩ := hc.events
      rw [he, List.map_append]
      exact ih.append (.refl _)

theorem newestFirst_head {events : List LpRangeEventRow} (h : (events.map (·.time)).Pairwise (· ≤ ·)) :
    (newestFirst events).head? = events.getLast? := by
  have hs : events.reverse.Pairwise fun a b => b.time ≤ a.time := List.pairwise_reverse.2 (List.pairwise_map.1 h)
  unfold newestFirst
  rw [hs.insertionSort_eq, List.head?_reverse]

/-! ## The snapshot -/

def openRangeCapital (db : Db) (mode : Mode) : Int :=
  ((db.lpRangePositions.rows.filter fun r => r.mode = mode ∧ r.closedAt = none).map (·.capitalUsd)).sum

theorem deployedMicros_range (h : db.lpPositions = .empty) (mode : Mode) :
    deployedMicros db mode = openRangeCapital db mode := by
  have hv2 : listPositions db mode = [] := by
    unfold listPositions
    rw [h]
    rfl
  unfold deployedMicros listRangePositions openRangeCapital
  rw [hv2, ((List.perm_insertionSort _ _).map _).sum_eq]
  exact Int.zero_add _

/-- **The range ledger stays in step** in every run of calls on an empty store, failing ones included.  A row stands on its
own, its events add up to it and the newest one shows it, also as the store lists them where the clock never goes back; there
is one P&L row for each change, and together they realize what the changes paid out less the cost released less gas; the risk
snapshot counts the capital of the open rows; and a call that throws changes no table. -/
theorem ledger_in_step (calls : List RangeCall) :
    let db := History.after step Db.empty calls
    let total := History.tally step booked Db.empty calls
    (∀ r ∈ db.lpRangePositions.rows, Standing r ∧
      r.liquidity = ((eventsOf db r.key).map (·.liquidityDelta)).sum ∧
      r.capitalUsd = ((eventsOf db r.key).map (·.capitalDeltaUsd)).sum ∧
      (∃ e, (eventsOf db r.key).getLast? = some e ∧ Shows e r) ∧
      ((calls.map time).Pairwise (· ≤ ·) → ∃ e, (newestFirst (eventsOf db r.key)).head? = some e ∧ Shows e r)) ∧
    db.lpPnl.length = total.1 ∧ realizedTotal db = total.2.1 - basisReleased db - total.2.2 ∧
    (∀ mode now, (toRiskSnapshot db mode now).deployedUsd = Money.microsToUsd (openRangeCapital db mode)) ∧
    ∀ (c : RangeCall) (s s' : Db) (e : AppError), c.perform.exec s = (.error e, s') → s' = s := by
  intro db total
  have hi : InStep db total := run_inStep calls
  refine ⟨fun r hr => ?_, hi.pnl, hi.realized, fun mode now => ?_, fun c s s' e h => perform_atomic c s e s' h⟩
  · have hg := Table.get_key_of_mem hr
    have hl := hi.rows.liquidity r.key
    have hc := hi.rows.capital r.key
    obtain ⟨e, hlast, hshows⟩ := hi.rows.newest r.key r hg
    rw [Table.share_some hg] at hl hc
    refine ⟨hi.rows.standing r hr, hl, hc, ⟨e, hlast, hshows⟩, fun hclock => ⟨e, ?_, hshows⟩⟩
    have htimes : ((eventsOf db r.key).map (·.time)).Pairwise (· ≤ ·) :=
      hclock.sublist ((List.filter_sublist.map _).trans (events_times calls))
    rw [newestFirst_head htimes, hlast]
  · show Money.microsToUsd (deployedMicros db mode) = _
    rw [deployedMicros_range hi.v2]

end RangeCall

end LiquidityStore
end Atra
