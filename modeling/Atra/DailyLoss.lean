import Atra.EngineSound
import Atra.Ledger
/-!
# DailyLoss — the day's loss of a ledger with an unpriced holding

The engine's daily loss is the realized loss plus the move of the unrealized P&L since the day's anchor.  While a holding
has no price the ledger reports an unrealized P&L of zero, but the anchor an earlier complete mark wrote stays: the engine
then sees a move of minus the anchor.  `unpriced_loss` is the figure it computes, and
`unpriced_loss_covers_realized_iff` says when that figure still covers the loss already realized.
-/
namespace Atra
namespace LedgerService

open Money Engine

variable {host : Host} {db : Db} {mode : Mode} {price : PriceLookup} {i : RiskInput} {clock now : Int} {out : Db × Ledger}

/-- **The daily loss under an unpriced holding**: what was realized, moved by the day's anchor. -/
theorem unpriced_loss (hinc : i.policy.includeUnrealized = true) (hout : toRiskLedger host db clock mode price now = .ok out)
    (hi : i.state.ledger = out.2) (hun : Unpriced db mode price) : computeDailyLoss i =
      .ok (max 0 (-realizedPnlTodayUsd db mode clock + (anchorMicros db mode now).getD 0)) := by
  obtain ⟨-, hr, -, hu⟩ := toRiskLedger_ok hout
  obtain ⟨hu, ha⟩ := hu hun
  rw [computeDailyLoss_ok]
  refine ⟨_, (anchorMicros db mode now).getD 0, by rw [hi, hr]; exact usdToMicros_microsToUsd _, ?_, rfl⟩
  rw [unrealizedMove_ok, if_pos hinc, hi, hu, ha]
  cases anchorMicros db mode now with
  | none => exact ⟨0, 0, rfl, rfl, rfl⟩
  | some anchor => exact ⟨0, anchor, rfl, usdToMicros_microsToUsd anchor, by simp⟩

/-- **An unpriced holding never hides a realized loss exactly when** the day opened without an unrealized loss on record,
or nothing was lost. -/
theorem unpriced_loss_covers_realized_iff (hinc : i.policy.includeUnrealized = true)
    (hout : toRiskLedger host db clock mode price now = .ok out) (hi : i.state.ledger = out.2)
    (hun : Unpriced db mode price) : ∃ loss, computeDailyLoss i = .ok loss ∧
      (max 0 (-realizedPnlTodayUsd db mode clock) ≤ loss ↔
        (∀ anchor, anchorMicros db mode now = some anchor → 0 ≤ anchor) ∨ 0 ≤ realizedPnlTodayUsd db mode clock) := by
  refine ⟨_, unpriced_loss hinc hout hi hun, ?_⟩
  cases anchorMicros db mode now with
  | none =>
    simp only [Option.getD_none, reduceCtorEq, false_implies, implies_true, true_or, iff_true]
    omega
  | some anchor =>
    simp only [Option.getD_some, Option.some.injEq, forall_eq']
    omega

/-- A PAPER ledger that lost 10 USD today and holds 0.05 WETH bought for 100 USD. -/
def losingDb : Db :=
  let fill : FillRow :=
    { tradeId := "t-1", mode := .PAPER, chain := .base, tokenIn := "0x833589fcd6edb6e08f4c7c32d4f71b54bda02913"
      tokenOut := "0x4200000000000000000000000000000000000006", amountIn := "100000000", amountOut := "50000000000000000"
      priceInUsd := "1", priceOutUsd := "2000", feeUsd := 10000000, realizedPnlUsd := -10000000
      filledAt := 1700000000000, simulated := true }
  let position : PositionRow :=
    { mode := .PAPER, chain := .base, token := "0x4200000000000000000000000000000000000006", decimals := 18
      amount := 50000000000000000, costBasisUsd := 100000000, openedAt := 1700000000000, updatedAt := 1700000000000 }
  { Db.empty with fills := [fill], positions := Table.empty.put position }

def quotedAt (text : String) : PriceLookup := fun _ _ => some text
def noQuote : PriceLookup := fun _ _ => none

/-- The ledger slice after a first evaluation at a price of 1000 USD, and that of a second one without a price. -/
def anchored : Result (Db × Ledger) :=
  toRiskLedger paperSwapHost losingDb 1700000001000 .PAPER (quotedAt "1000") 1700000001000

def unpricedLedger : Result (Db × Ledger) := do
  let first ← anchored
  toRiskLedger paperSwapHost first.1 1700000002000 .PAPER noQuote 1700000002000

theorem unpriced_loss_offset : ∃ first second, anchored = .ok first ∧ unpricedLedger = .ok second ∧
    Unpriced first.1 .PAPER noQuote ∧ realizedPnlTodayUsd first.1 .PAPER 1700000002000 = -10000000 ∧
    computeDailyLoss { paperSwapInput with state := { paperState with ledger := second.2 } } = .ok 0 := by
  refine ⟨_, _, rfl, rfl, ?_, ?_, ?_⟩
  · exact ⟨_, List.mem_singleton.2 rfl, rfl⟩
  · decide +kernel
  · rfl

theorem unpriced_loss_losingDb : ∃ out loss, toRiskLedger paperSwapHost losingDb 1700000001000 .PAPER noQuote 1700000001000 =
    .ok out ∧ computeDailyLoss { paperSwapInput with state := { paperState with ledger := out.2 } } = .ok loss ∧
      (max 0 (-realizedPnlTodayUsd losingDb .PAPER 1700000001000) ≤ loss ↔
        (∀ anchor, anchorMicros losingDb .PAPER 1700000001000 = some anchor → 0 ≤ anchor) ∨
          0 ≤ realizedPnlTodayUsd losingDb .PAPER 1700000001000) := by
  have hun : Unpriced losingDb .PAPER noQuote := ⟨_, List.mem_singleton.2 rfl, rfl⟩
  obtain ⟨out, hout⟩ : ∃ out, toRiskLedger paperSwapHost losingDb 1700000001000 .PAPER noQuote 1700000001000 = .ok out :=
    ⟨_, rfl⟩
  obtain ⟨loss, hl, hiff⟩ := unpriced_loss_covers_realized_iff
    (i := { paperSwapInput with state := { paperState with ledger := out.2 } }) rfl hout rfl hun
  exact ⟨out, loss, hout, hl, hiff⟩

end LedgerService
end Atra
