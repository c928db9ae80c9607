import Atra.CostBasis
import Atra.Paper
/-!
# Exposure — what an exit does to the deployed capital

An exit is judged by one check of the engine: it sells no more than the position holds, out of an asset that is not a
stablecoin into one that is.  On the ledger such a fill releases cost from what it sells and books cost only in a stablecoin,
which the deployed capital does not count.
-/
namespace Atra

open Money Engine

/-! ## The check of an exit -/

/-- **What the one check of an exit asks**: no more is sold than held, and a holding returns to a stablecoin. -/
theorem positionChecks_clear {host : Host} {i : RiskInput} {checks : List RiskCheck}
    (h : positionChecks host i = .ok checks) (hexit : isExit i.action = true) (hc : Clear checks) :
    isStablecoin host i.action.chain i.action.tokenIn.address = false ∧
    isStablecoin host i.action.chain i.action.tokenOut.address = true ∧
    ∃ held wanted, heldAmount i.action.chain i.action.tokenIn.address i.state.ledger.positions = .ok held ∧
      amountToBigint i.action.amountIn = .ok wanted ∧ wanted ≤ held := by
  unfold positionChecks at h
  rw [if_pos hexit] at h
  simp only [bind_ok, pure_ok] at h
  obtain ⟨held, hheld, wanted, hwanted, rfl⟩ := h
  rw [clear_cons, refuses_mkCheck] at hc
  simp only [Bool.not_eq_false', Bool.and_eq_true, Bool.not_eq_true', decide_eq_true_eq] at hc
  obtain ⟨⟨⟨⟨-, hle⟩, hin⟩, hout⟩, -⟩ := hc
  exact ⟨hin, hout, held, wanted, hheld, hwanted, hle⟩

namespace LedgerService

theorem heldAmount_marked (chain : ChainId) (token : String) (ms : List MarkedPosition) :
    heldAmount chain token (ms.map riskPosition) =
      .ok ((ms.map (·.row)).map fun r => if r.chain = chain ∧ r.token = token then (r.amount : Int) else 0).sum := by
  induction ms with
  | nil => rfl
  | cons m ms ih =>
    rw [List.map_cons, List.map_cons, List.map_cons, List.sum_cons, heldAmount, ih]
    by_cases hm : m.row.chain = chain ∧ m.row.token = token
    · rw [if_pos (by exact hm), if_pos hm]
      show (amountToBigint (toString m.row.amount) >>= _) = _
      rw [amountToBigint_toString]
      rfl
    · rw [if_neg (by exact hm), if_neg hm, Int.zero_add]

variable {host : Host} {db : Db} {mode : Mode} {price : PriceLookup}

/-- **The engine's held amount is the ledger's position.** -/
theorem heldAmount_toRiskLedger {clock now : Int} {out : Db × Ledger} (chain : ChainId) (token : String)
    (h : toRiskLedger host db clock mode price now = .ok out) :
    heldAmount chain token out.2.positions = .ok (heldAt db (mode, chain, token) : Int) := by
  obtain ⟨ms, hrows, hp⟩ := toRiskLedger_positions h
  rw [hp, heldAmount_marked, hrows, listPositions, Table.sum_sorted_filter, Table.total_at (k := (mode, chain, token))]
  · unfold Table.share heldAt
    cases hg : db.positions.get (mode, chain, token) with
    | none => rfl
    | some r =>
      have hk : r.key = (mode, chain, token) := Table.key_of_get hg
      simp only [PositionRow.key, Prod.mk.injEq] at hk
      simp [hk]
  · intro r _ hr
    by_cases hm : r.mode = mode
    · rw [if_pos hm, if_neg fun hc => hr (by rw [PositionRow.key, hm, hc.1, hc.2])]
    · rw [if_neg hm]

/-- The positions whose cost is deployed capital of a mode. -/
def deploys (host : Host) (mode : Mode) (k : Mode × ChainId × String) : Bool :=
  k.1 = mode && !isQuote host k.2.1 k.2.2

/-- **The deployed capital is the cost of the positions that are no quote asset.** -/
theorem deployedMicros_eq (host : Host) (db : Db) (mode : Mode) :
    deployedMicros host db mode = costOver (deploys host mode) db := by
  unfold deployedMicros listPositions costOver
  rw [Table.sum_sorted_filter]
  congr 1
  funext r
  unfold deployedOf deploys PositionRow.key
  by_cases hm : r.mode = mode
  · cases hq : isQuote host r.chain r.token
    · simp [hm]
    · simp [hm]
  · simp [hm]

/-- The deployed capital is read off the positions alone. -/
theorem deployedMicros_congr {db' : Db} (h : db'.positions = db.positions) :
    deployedMicros host db' mode = deployedMicros host db mode := by
  unfold deployedMicros listPositions
  rw [h]

/-- **A fill into a stablecoin only releases deployed capital**, and touches no position but that one and the sold one. -/
theorem recordFill_into_stable (mode : Mode) {now : Int} {input : RecordFillInput} {out : Db × FillRow} (hs : Sound db)
    (h : recordFill db now input = .ok out) (hstable : isStablecoin host input.chain input.tokenOut.address = true) :
    deployedMicros host out.1 mode ≤ deployedMicros host db mode ∧
    ∀ k : Mode × ChainId × String, isStablecoin host k.2.1 k.2.2 = false → k ≠ keyIn input →
      out.1.positions.get k = db.positions.get k := by
  constructor
  · have hcost := costOver_recordFill (p := deploys host mode) hs h
    have hreleased := (recordFill_accounted hs h).released.1
    have hq : deploys host mode (keyOut input) = false := by simp [deploys, keyOut, isQuote, hstable]
    rw [deployedMicros_eq, deployedMicros_eq, hcost, hq, if_neg (by simp)]
    split
    · omega
    · omega
  · intro k hk hkin
    obtain ⟨f, paid, hp, hbooked, -⟩ := recordFill_ok h
    obtain ⟨_, rfl⟩ := payPaper_eq hp
    have hkout : k ≠ keyOut input := by
      rintro rfl
      exact absurd (hstable.symm.trans hk) (by simp)
    rw [hbooked]
    show (f.bought (f.sold db)).positions.get k = _
    rw [f.bought_get hkout, f.sold_get hkin]

end LedgerService

/-! ## An exit filled on paper -/

namespace PaperExecutor

open LedgerService

variable {gate : RiskGate} {db db' : Db} {now now' filledAt : Int} {tradeId : String} {action : ProposedAction}
  {snapshot : MarketSnapshot} {price : PriceLookup} {decided : Db × RiskDecision}

/-- **An allowed exit sells what is held**, and sells it into a stablecoin. -/
theorem exit_judged (hkind : action.kind = .swap) (hexit : action.reduceOnly = true)
    (hd : gate.decide db now action snapshot price = .ok decided) (ha : decided.2.allowed = true) :
    isStablecoin gate.host action.chain action.tokenIn.address = false ∧
    isStablecoin gate.host action.chain action.tokenOut.address = true ∧
    ∃ wanted : Nat, amountToBigint action.amountIn = .ok wanted ∧
      wanted ≤ heldAt db (action.mode, action.chain, action.tokenIn.address) := by
  obtain ⟨ledger, hledger, hev⟩ := (RiskGate.decide_ok hd).2 ha
  obtain ⟨-, r, hclear⟩ := allows_iff.1 ⟨_, hev, ha⟩
  have hx : isExit action = true := by
    unfold isExit
    rw [hexit, hkind]
    rfl
  obtain ⟨hin, hout, held, wanted, hheld, hwanted, hle⟩ := positionChecks_clear r.position_ok hx hclear.position
  -- what the engine saw held is what the ledger holds
  have he := heldAmount_toRiskLedger action.chain action.tokenIn.address hledger
  obtain rfl := Except.ok.inj (hheld.symm.trans he)
  have h0 := amountToBigint_nonneg hwanted
  refine ⟨hin, hout, wanted.toNat, ?_, Int.toNat_le.2 hle⟩
  rw [Int.toNat_of_nonneg h0]
  exact hwanted

/-- **An exit can only lower exposure.**  It was allowed on the ledger as it was, and whatever happened to the trade in
between, its fill sells no more of a holding than was held, leaves the deployed capital of the mode no higher, and touches no
other position that is not a stablecoin's. -/
theorem exit_lowers_exposure {R : Type} {quote : ExecutionQuote R} {prices : QuotePrices} {out : Db × ExecutionOutcome}
    (hs : Sound db) (hmode : action.mode = .PAPER) (hkind : action.kind = .swap) (hexit : action.reduceOnly = true)
    (hd : gate.decide db now action snapshot price = .ok decided) (ha : decided.2.allowed = true)
    (hdb : db'.positions = decided.1.positions)
    (hx : execute db' now' tradeId action quote prices filledAt = .ok out) (hf : out.2.status = .filled) :
    (isStablecoin gate.host action.chain action.tokenIn.address = false ∧
      isStablecoin gate.host action.chain action.tokenOut.address = true ∧
      ∃ wanted : Nat, amountToBigint action.amountIn = .ok wanted ∧
        wanted ≤ heldAt db (.PAPER, action.chain, action.tokenIn.address)) ∧
    deployedMicros gate.host out.1 .PAPER ≤ deployedMicros gate.host db .PAPER ∧
    (∀ before after t t' p p', mark gate.host db t .PAPER p = .ok before → mark gate.host out.1 t' .PAPER p' = .ok after →
      before.deployedUsd = microsToUsd (deployedMicros gate.host db .PAPER) ∧
        after.deployedUsd = microsToUsd (deployedMicros gate.host out.1 .PAPER)) ∧
    ∀ k : Mode × ChainId × String, k.1 = .PAPER → isStablecoin gate.host k.2.1 k.2.2 = false →
      k ≠ (.PAPER, action.chain, action.tokenIn.address) → out.1.positions.get k = db.positions.get k := by
  have hjudged := exit_judged hkind hexit hd ha
  rw [hmode] at hjudged
  obtain ⟨⟨decisions, days, hframe⟩, -⟩ := RiskGate.decide_ok hd
  have hpos : db'.positions = db.positions := by rw [hdb, hframe]
  rcases execute_ok hx with ⟨-, hfail⟩ | ⟨-, started, fill, booked, ⟨_, _, _, hstarted⟩, hb, ⟨_, _, _, hout⟩⟩
  · rw [hfail] at hf
    cases hf
  · have hspos : started.positions = db.positions := by rw [hstarted, ← hpos]
    have hopos : out.1.positions = booked.1.positions := by rw [hout]
    have hsound : Sound started := by
      unfold Sound
      rw [hspos]
      exact hs
    obtain ⟨hle, hget⟩ := recordFill_into_stable .PAPER hsound hb hjudged.2.1
    refine ⟨hjudged, ?_, fun before after t t' p p' hm hm' => ⟨(mark_ok hm).1, (mark_ok hm').1⟩, fun k _ hk hkin => ?_⟩
    · rw [deployedMicros_congr hopos, ← deployedMicros_congr hspos]
      exact hle
    · rw [hopos, hget k hk hkin, hspos]

/-! ### The whole position goes for 30 USDC -/

def paperExit : ProposedAction :=
  { paperSwap with
    idempotencyKey := "bff3d780221cb3ec12cc2001b82c66e6bb4050dcdf68422002b7f3892e700067"
    reduceOnly := true
    tokenIn := ⟨"0x4200000000000000000000000000000000000006", 18⟩
    tokenOut := ⟨"0x833589fcd6edb6e08f4c7c32d4f71b54bda02913", 6⟩
    amountIn := "15000000000000000"
    quote := some
      { expectedAmountOut := "30000000", minAmountOut := "29850000", slippageBps := 50, priceImpactBps := 10
        quotedAt := 1700000000000, source := "aerodrome-v2", marketId := "usdc-weth" } }

def paperExitGate : RiskGate :=
  { host := hostKnowing ("atra-action-v1|6f1c1f0e-0000-4000-8000-00000000c9c1|base|swap|aerodrome-v2|" ++
      "0x4200000000000000000000000000000000000006|0x833589fcd6edb6e08f4c7c32d4f71b54bda02913|15000000000000000|true")
      "bff3d780221cb3ec12cc2001b82c66e6bb4050dcdf68422002b7f3892e700067"
    controls := StateStore.fresh, policy := defaultRiskPolicy CHAIN_IDS, policyHash := "" }

/-- A paper wallet that bought its WETH for 24 USD, with the exit proposed. -/
def paperHolding : Db :=
  let row : PositionRow :=
    { mode := .PAPER, chain := .base, token := "0x4200000000000000000000000000000000000006", decimals := 18
      amount := 15000000000000000, costBasisUsd := 24000000, openedAt := 1690000000000, updatedAt := 1690000000000 }
  let bought := { Db.empty with positions := Db.empty.positions.put row }
  let funded := setPaperBalance bought 1690000000000 .base "0x4200000000000000000000000000000000000006" 18 15000000000000000
  match TradeStore.propose funded "t1" 1700000000000 paperExit .close ⟨false, none, none⟩ with
  | .ok out => out.1
  | .error _ => Db.empty

def exitQuote : ExecutionQuote Unit :=
  { chain := .base, protocol := "aerodrome-v2", contract := "0xcf77a3ba9a5ca399b7c97c74d54e5b1beb874e43", programIds := none
    tokenIn := paperExit.tokenIn, tokenOut := paperExit.tokenOut, amountIn := "15000000000000000"
    expectedAmountOut := "30000000", minAmountOut := "29850000", slippageBps := 50, priceImpactBps := 10
    quotedAt := 1700000000000, source := "aerodrome-v2", marketId := "usdc-weth", feeEstimate := paperExit.feeEstimate
    routeData := none }

theorem exit_lowers_paperHolding : ∃ decided ready out,
    paperExitGate.decide paperHolding 1700000001000 paperExit paperSnapshot (fun _ _ => none) = .ok decided ∧
    TradeStore.decide decided.1 1700000001000 "t1" decided.2 = .ok ready ∧
    execute ready.1 1700000001000 "t1" paperExit exitQuote ⟨"2000", "1.0001", "2000"⟩ 1700000001000 = .ok out ∧
    deployedMicros paperExitGate.host out.1 .PAPER ≤ deployedMicros paperExitGate.host paperHolding .PAPER := by
  have hrun : ∃ decided, paperExitGate.decide paperHolding 1700000001000 paperExit paperSnapshot (fun _ _ => none) =
      .ok decided ∧ decided.2.allowed = true ∧ ∃ ready, TradeStore.decide decided.1 1700000001000 "t1" decided.2 = .ok ready ∧
      ∃ out, execute ready.1 1700000001000 "t1" paperExit exitQuote ⟨"2000", "1.0001", "2000"⟩ 1700000001000 = .ok out ∧
        out.2.status = .filled := by
    decide +kernel
  obtain ⟨decided, hd, ha, ready, hr, out, hx, hf⟩ := hrun
  have hs : Sound paperHolding := by
    have h : ∀ r ∈ paperHolding.positions.rows, 0 < r.amount ∧ 0 ≤ r.costBasisUsd := by decide +kernel
    exact h
  obtain ⟨_, _, _, hready⟩ := transition_frame (show TradeStore.transition decided.1 1700000001000 "t1" .allowed _ = _ by
    unfold TradeStore.decide at hr
    rw [if_pos ha] at hr
    exact hr)
  exact ⟨decided, ready, out, hd, hr, hx,
    (exit_lowers_exposure hs rfl rfl rfl hd ha (by rw [hready]) hx hf).2.1⟩

end PaperExecutor
end Atra
