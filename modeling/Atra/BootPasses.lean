import Atra.Reconcile
/-!
# BootPasses — both executors' passes over what a restart found in flight

A row is settled by itself: by its status, and by what the chain says of its hash.  Both passes settle every row when each can
be booked; a confirmed swap that the ledger cannot record stops the first pass, and everything after it stays as it was.
-/
namespace Atra

open Money Live

section
variable {R : Type} {x : LiveExecutor R} {y : LpLive R} {q : Process}

/-- What a boot runs: the pass over swaps and approvals, then the one over liquidity rows. -/
def bootPasses (x : LiveExecutor R) (y : LpLive R) : Live ReconcileReport := do
  let _ ← x.reconcile
  LiveLpExecutor.reconcile y

/-- Where a row of either executor ends up, by itself. -/
def ownVerdict (x : LiveExecutor R) (y : LpLive R) (trade : TradeRow) : TradeStatus :=
  if isLpRow trade then verdict (LiveLpExecutor.reconciler y) trade else verdict x.reconciler trade

def Finally (x : LiveExecutor R) (y : LpLive R) (trade : TradeRow) : Prop :=
  if isLpRow trade then (finalReceipt (LiveLpExecutor.reconciler y) trade).isSome
  else (finalReceipt x.reconciler trade).isSome

/-- A row that was in flight, after both passes. -/
structure SettledBoth (x : LiveExecutor R) (y : LpLive R) (trade row : TradeRow) : Prop where
  dispatched : trade.status = .dispatched → row.status = .failed
  final : Finally x y trade → row.status = .filled ∨ row.status = .failed
  alone : row.status = ownVerdict x y trade

/-- Both passes complete, and every row that was in flight is settled by itself. -/
structure PassesSettle (x : LiveExecutor R) (y : LpLive R) (q : Process) : Prop where
  settles : Script.Ensures (bootPasses x y) q
    (fun _ t => ∀ trade ∈ TradeStore.listInFlight q.db,
      ∃ row, TradeStore.get t.db trade.id = some row ∧ SettledBoth x y trade row)
    fun _ _ => False

/-- Every row in flight of an executor can be settled. -/
def AllSettleable {ρ : Type} (c : Reconciler ρ) (bookable : TradeRow → ρ → Prop) (db : Db) : Prop :=
  ∀ trade ∈ TradeStore.listInFlight db, c.mine trade = true → Settleable c bookable trade

theorem verdict_final {ρ : Type} {c : Reconciler ρ} {trade : TradeRow} (h : (finalReceipt c trade).isSome) :
    verdict c trade = .filled ∨ verdict c trade = .failed := by
  unfold verdict
  split
  · exact .inr rfl
  · obtain ⟨receipt, hr⟩ := Option.isSome_iff_exists.1 h
    rw [hr]
    dsimp only
    split
    · exact .inl rfl
    · exact .inr rfl

theorem verdict_dispatched {ρ : Type} {c : Reconciler ρ} {trade : TradeRow} (h : trade.status = .dispatched) :
    verdict c trade = .failed := by
  unfold verdict
  rw [if_pos (.inl h)]

theorem settledBoth {trade row : TradeRow} (h : row.status = ownVerdict x y trade) : SettledBoth x y trade row := by
  refine ⟨fun hd => ?_, fun hf => ?_, h⟩
  · rw [h]
    unfold ownVerdict
    split
    · exact verdict_dispatched hd
    · exact verdict_dispatched hd
  · rw [h]
    unfold Finally at hf
    unfold ownVerdict
    split
    · rename_i hl
      rw [if_pos hl] at hf
      exact verdict_final hf
    · rename_i hl
      rw [if_neg hl] at hf
      exact verdict_final hf

theorem swap_mine {trade : TradeRow} : x.reconciler.mine trade = true ↔ ¬ isLpRow trade = true := by
  show (!isLpRow trade) = true ↔ _
  simp

/-- A liquidity row in flight after the swaps' pass was in flight before it. -/
theorem lp_inFlight {kept : Table LpPositionRow.key → Prop} {needed enough : TradeRow → ExecutionReceipt → Prop}
    {t : Process} (h : Passed x.reconciler kept needed enough (TradeStore.listInFlight q.db) q t) {trade : TradeRow}
    (hl : isLpRow trade = true) :
    trade ∈ TradeStore.listInFlight t.db ↔ trade ∈ TradeStore.listInFlight q.db := by
  have hkept : (∀ other ∈ TradeStore.listInFlight q.db, x.reconciler.mine other = true → other.id ≠ trade.id) →
      (trade ∈ TradeStore.listInFlight t.db ↔ trade ∈ TradeStore.listInFlight q.db) := fun hne => by
    rw [mem_listInFlight, mem_listInFlight, h.others trade.id hne]
  by_cases hne : ∀ other ∈ TradeStore.listInFlight q.db, x.reconciler.mine other = true → other.id ≠ trade.id
  · exact hkept hne
  · push Not at hne
    obtain ⟨other, hother, hmine, hid⟩ := hne
    obtain ⟨-, row, hrow, -, hsame⟩ := h.settled other hother hmine
    constructor
    · intro ht
      obtain ⟨hg, hin⟩ := mem_listInFlight.1 ht
      obtain rfl := Option.some.inj (hrow.symm.trans ((congrArg _ hid).trans hg))
      rw [hsame hin] at hl
      exact absurd hl (swap_mine.1 hmine)
    · intro hq
      have hg := (mem_listInFlight.1 hq).1
      have hg' := (mem_listInFlight.1 hother).1
      rw [hid] at hg'
      obtain rfl := Option.some.inj (hg'.symm.trans hg)
      exact absurd hl (swap_mine.1 hmine)

theorem PassesSettle.of_settleable (hx : AllSettleable x.reconciler LiveExecutor.Recoverable q.db)
    (hy : AllSettleable (LiveLpExecutor.reconciler y) (LiveLpExecutor.Recoverable y.host) q.db)
    (hk : AmountsRead q.db.lpPositions) : PassesSettle x y q := by
  constructor
  unfold bootPasses
  rw [Script.ensures_bind]
  refine (reconcile_ensures (LiveExecutor.reconciler_books x AmountsRead)).mono (fun _ t ht => ?_)
    fun _ _ hstop => hstop ⟨hk, hx⟩
  have hlp := reconcile_ensures (q := t) (LiveLpExecutor.reconciler_books y)
  refine hlp.mono (fun _ t' ht' trade hin => ?_) fun _ _ hstop => hstop ⟨ht.kept hk hx, fun trade hin hmine => ?_⟩
  · by_cases hl : isLpRow trade = true
    · obtain ⟨-, row, hrow, hverdict, -⟩ := ht'.settled trade ((lp_inFlight ht hl).2 hin) hl
      exact ⟨row, hrow, settledBoth (hverdict.trans (if_pos hl).symm)⟩
    · obtain ⟨-, row, hrow, hverdict, -⟩ := ht.settled trade hin (swap_mine.2 hl)
      refine ⟨row, ?_, settledBoth (hverdict.trans (if_neg hl).symm)⟩
      rw [ht'.others trade.id fun other hother hmine hid => ?_]
      · exact hrow
      · have hg := (mem_listInFlight.1 ((lp_inFlight ht hmine).1 hother)).1
        rw [hid, (mem_listInFlight.1 hin).1] at hg
        obtain rfl := Option.some.inj hg
        exact hl hmine
  · exact hy trade ((lp_inFlight ht hmine).1 hin) hmine

theorem PassesSettle.settleable (h : PassesSettle x y q) : AllSettleable x.reconciler LiveExecutor.Recoverable q.db ∧
    AllSettleable (LiveLpExecutor.reconciler y) (fun _ _ => True) q.db := by
  obtain ⟨h⟩ := h
  unfold bootPasses at h
  rw [Script.ensures_bind] at h
  obtain ⟨_, t, hx, h⟩ := h.total
  have ht := (reconcile_ensures (LiveExecutor.reconciler_books x AmountsRead)).returned hx
  obtain ⟨_, t', hy, -⟩ := h.total
  have ht' := (reconcile_ensures (LiveLpExecutor.reconciler_books y)).returned hy
  exact ⟨fun trade hin hmine => (ht.settled trade hin hmine).1, fun trade hin hmine =>
    (ht'.settled trade ((lp_inFlight ht hmine).2 hin) hmine).1⟩

/-- **Both passes settle every row in flight** when each can be settled; and when they do, every swap and approval could be,
and the chain of every liquidity row be asked. -/
theorem bootPasses_settle (x : LiveExecutor R) (y : LpLive R) (q : Process) :
    (AllSettleable x.reconciler LiveExecutor.Recoverable q.db →
      AllSettleable (LiveLpExecutor.reconciler y) (LiveLpExecutor.Recoverable y.host) q.db → AmountsRead q.db.lpPositions →
      PassesSettle x y q) ∧
    (PassesSettle x y q → AllSettleable x.reconciler LiveExecutor.Recoverable q.db ∧
      AllSettleable (LiveLpExecutor.reconciler y) (fun _ _ => True) q.db) :=
  ⟨fun hx hy hk => .of_settleable hx hy hk, fun h => h.settleable⟩

/-! ### A swap that landed, and one that was never signed -/

def signedRow : TradeRow :=
  { Execution.allowedRow with status := .signed, txHash := some "0xaa", quotePrices := some Execution.livePrices }

def unsignedRow : TradeRow := { Execution.allowedRow with id := "t2", status := .dispatched, proposedAt := 1700000000001 }

/-- A chain on which the swap is confirmed, with what it gave as the receipt tells it. -/
def landedExecutor (amountOut : String) : LiveExecutor Unit :=
  { Execution.silentExecutor with
    registry := fun chain => if chain = .base then some { Execution.silentAdapter with
      receipt := fun hash _ => ⟨⟨[], 1700000005000⟩, .ok ⟨hash, .confirmed, some amountOut, some 21000, none⟩⟩ } else none }

def noLiquidity : LpLive Unit := ⟨Execution.silentExecutor.host, Execution.silentExecutor.wallets, fun _ => none⟩

def rebooted : Process :=
  { db := { Db.empty with trades := (Db.empty.trades.put signedRow).put unsignedRow }
    controls := ⟨some .LIVE, ⟨false, false, none, none⟩, ⟨fun _ => none, none⟩⟩
    clock := 1700000001000, log := [] }

theorem rebooted_inFlight : TradeStore.listInFlight rebooted.db = [signedRow, unsignedRow] := rfl

theorem landed_receipt {amountOut : String} {receipt : ExecutionReceipt}
    (h : finalReceipt (landedExecutor amountOut).reconciler signedRow = some receipt) :
    receipt = ⟨"0xaa", .confirmed, some amountOut, some 21000, none⟩ := (Option.some.inj h).symm

theorem landed_recoverable : LiveExecutor.Recoverable signedRow ⟨"0xaa", .confirmed, some "10000000000000000", some 21000, none⟩ :=
  fun _ => { amountIn := ⟨20000000, by decide +kernel, by decide⟩
             amountOut := ⟨10000000000000000, by decide +kernel, by decide⟩
             priceIn := ⟨1000000000000000000, by decide +kernel, by decide⟩
             priceOut := ⟨2000000000000000000000, by decide +kernel, by decide⟩
             fee := ⟨1, by decide +kernel⟩
             decimalsIn := by decide
             decimalsOut := by decide }

theorem bootPasses_settle_landed : PassesSettle (landedExecutor "10000000000000000") noLiquidity rebooted := by
  have hx : AllSettleable (landedExecutor "10000000000000000").reconciler LiveExecutor.Recoverable rebooted.db := by
    intro trade ht _
    rw [rebooted_inFlight, List.mem_pair] at ht
    rcases ht with rfl | rfl
    · refine ⟨fun _ hash question _ hq => ?_, fun _ receipt hr _ => ?_⟩
      · obtain rfl := Option.some.inj hq
        exact ⟨_, rfl⟩
      · rw [landed_receipt hr]
        exact landed_recoverable
    · exact ⟨fun h => absurd rfl h, fun h => absurd rfl h⟩
  have hy : AllSettleable (LiveLpExecutor.reconciler noLiquidity) (LiveLpExecutor.Recoverable noLiquidity.host) rebooted.db := by
    intro trade ht hmine
    rw [rebooted_inFlight, List.mem_pair] at ht
    rcases ht with rfl | rfl
    · exact absurd hmine (by decide)
    · exact absurd hmine (by decide)
  have hk : AmountsRead rebooted.db.lpPositions := fun _ hr => absurd hr List.not_mem_nil
  exact (bootPasses_settle (landedExecutor "10000000000000000") noLiquidity rebooted).1 hx hy hk

/-- **A swap whose receipt shows nothing received** stops the pass, and the row after it stays as it was. -/
theorem zero_received_stops : ¬ PassesSettle (landedExecutor "0") noLiquidity rebooted := by
  intro h
  have hs : Settleable (landedExecutor "0").reconciler LiveExecutor.Recoverable signedRow :=
    h.settleable.1 signedRow (by rw [rebooted_inFlight]; exact List.mem_cons_self) rfl
  have hb : LiveExecutor.Recoverable signedRow ⟨"0xaa", .confirmed, some "0", some 21000, none⟩ :=
    hs.books (by decide) _ rfl rfl
  obtain ⟨n, hn, hpos⟩ := (hb rfl).amountOut
  have h0 : amountToBigint "0" = .ok 0 := by decide +kernel
  obtain rfl : 0 = n := Except.ok.inj (h0.symm.trans hn)
  exact absurd hpos (by decide)

end

end Atra
