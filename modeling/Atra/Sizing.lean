import Atra.OwnQuotes
import Atra.V2Pool
/-!
# Sizing — what is asked for in USD and what is spent

A USD size becomes base units rounded down, and the engine values base units rounded up.  The floor is the greatest amount whose
exact value is within the size (`le_units_iff`), and a rounded-up value is within an integer exactly when the exact value is, so
the two roundings meet and nothing asked for at a limit is refused for rounding.
-/
namespace Atra

open Money ProposalBuilder

/-! ## The exact value of an amount -/

def exactMicros (amount : Int) (decimals : Nat) (priceAtto : Int) : ℚ := (amount * priceAtto : Int) / (usdUnit decimals : Int)

variable {micros atto : Int} {decimals : Nat}

theorem exactMicros_le_iff {amount : Int} : exactMicros amount decimals atto ≤ micros ↔ amount * atto ≤ micros * usdUnit decimals := by
  have hunit : (0 : ℚ) < (usdUnit decimals : Int) := by exact_mod_cast usdUnit_pos decimals
  unfold exactMicros
  rw [div_le_iff₀ hunit]
  exact_mod_cast Iff.rfl

/-- **The base units of a size** are the most whose exact value is within it. -/
theorem le_units_iff (hpos : 0 < atto) {k : Int} :
    k ≤ Rounding.down (micros * usdUnit decimals) atto ↔ exactMicros k decimals atto ≤ micros := by
  rw [Rounding.le_down_iff hpos, exactMicros_le_iff]

theorem usdToTokenUnits_eq (hm : 0 ≤ micros) (hpos : 0 < atto) :
    usdToTokenUnits micros decimals atto = .ok (Rounding.down (micros * usdUnit decimals) atto) := by
  have hscale : PRICE_SCALE.tdiv 1000000 = 1000000000000 := by decide
  have hunit : micros * (PRICE_SCALE.tdiv 1000000) * 10 ^ decimals = micros * usdUnit decimals := by
    rw [hscale, usdUnit, Int.mul_assoc, Int.mul_comm (10 ^ decimals)]
  unfold usdToTokenUnits
  rw [if_neg (by omega), hunit]
  exact floorDiv_eq hpos (Int.mul_nonneg hm (usdUnit_pos decimals).le)

/-- **The engine's value of an amount**, rounded up, is within a size exactly when the exact value is. -/
theorem valued_le {amount : Int} (hd : decimals ≤ 36) (hpos : 0 < atto) (h : exactMicros amount decimals atto ≤ micros) :
    ∃ value, nativeToUsdMicros amount decimals atto .ceil = .ok value ∧ value ≤ micros := by
  refine ⟨_, nativeToUsdMicros_ceil hd hpos, ?_⟩
  rw [Rounding.up_le_iff (usdUnit_pos decimals)]
  exact exactMicros_le_iff.1 h

/-! ## The size of a trade -/

/-- What a trader asks for: a size the schema takes, of a token the engine can value, at a positive price. -/
structure SwapAsk (request : ProposalRequest) (tokenIn : TokenAllowEntry) (priceIn : Stamped) (micros atto : Int) : Prop where
  usd : usdString request.decision.requestedNotionalUsd = true
  micros_ok : usdToMicros request.decision.requestedNotionalUsd = .ok micros
  decimals_le : tokenIn.decimals ≤ 36
  atto_ok : priceToAtto priceIn.value = .ok atto
  atto_pos : 0 < atto

/-- An amount that is the most within a size, up to a cap, and that the engine values within the size. -/
structure SizedBy (micros atto : Int) (decimals : Nat) (cap : Option Int) (amount : Int) : Prop where
  within : exactMicros amount decimals atto ≤ micros
  capped : ∀ held, cap = some held → amount ≤ held
  largest : ∀ k, exactMicros k decimals atto ≤ micros → (∀ held, cap = some held → k ≤ held) → k ≤ amount
  valued : ∃ value, nativeToUsdMicros amount decimals atto .ceil = .ok value ∧ value ≤ micros

/-- The sizes a builder computes: for an entry, and for a reduction of each position. -/
structure SwapSized (db : Db) (request : ProposalRequest) (tokenIn : TokenAllowEntry) (priceIn : Stamped)
    (micros atto : Int) : Prop where
  entry : request.decision.action ≠ .CLOSE → request.decision.action ≠ .REDUCE →
    ∃ amount, (ProposalBuilder.sizeOf db request tokenIn priceIn).run = .ok (.ok amount) ∧
      SizedBy micros atto tokenIn.decimals none amount
  reduce : request.decision.action = .REDUCE →
    ∀ position, LedgerService.getPosition db request.mode request.chain tokenIn.address = some position →
    ∃ amount, (ProposalBuilder.sizeOf db request tokenIn priceIn).run = .ok (.ok amount) ∧
      SizedBy micros atto tokenIn.decimals (some position.amount) amount

theorem usdString_nonneg {s : String} (h : usdString s = true) (hm : usdToMicros s = .ok micros) : 0 ≤ micros := by
  obtain ⟨m, hm', hpos⟩ := usdToMicros_of_usdString h
  rw [hm] at hm'
  obtain rfl := Except.ok.inj hm'
  exact hpos

theorem requestedUnits_eq {request : ProposalRequest} {tokenIn : TokenAllowEntry} {priceIn : Stamped}
    (h : SwapAsk request tokenIn priceIn micros atto) : requestedUnits request tokenIn priceIn =
      .ok (Rounding.down (micros * usdUnit tokenIn.decimals) atto) := by
  unfold requestedUnits
  rw [h.micros_ok, h.atto_ok]
  exact usdToTokenUnits_eq (usdString_nonneg h.usd h.micros_ok) h.atto_pos

theorem swap_sized {db : Db} {request : ProposalRequest} {tokenIn : TokenAllowEntry} {priceIn : Stamped}
    (h : SwapAsk request tokenIn priceIn micros atto) : SwapSized db request tokenIn priceIn micros atto where
  entry := by
    intro hclose hreduce
    have hwithin := (le_units_iff h.atto_pos).1 (Int.le_refl (Rounding.down (micros * usdUnit tokenIn.decimals) atto))
    have hrun : (ProposalBuilder.sizeOf db request tokenIn priceIn).run =
        .ok (.ok (Rounding.down (micros * usdUnit tokenIn.decimals) atto)) := by
      unfold ProposalBuilder.sizeOf
      cases ha : request.decision.action with
      | CLOSE => exact absurd ha hclose
      | REDUCE => exact absurd ha hreduce
      | _ => exact built_lift.2 (requestedUnits_eq h)
    exact ⟨_, hrun, hwithin, nofun, fun k hk _ => (le_units_iff h.atto_pos).2 hk, valued_le h.decimals_le h.atto_pos hwithin⟩
  reduce := by
    intro ha position hposition
    have hrun : (ProposalBuilder.sizeOf db request tokenIn priceIn).run =
        .ok (.ok (min (Rounding.down (micros * usdUnit tokenIn.decimals) atto) position.amount)) := by
      unfold ProposalBuilder.sizeOf
      simp only [ha, hposition, built_bind, built_pure, built_lift]
      refine ⟨_, requestedUnits_eq h, ?_⟩
      split
      · omega
      · omega
    have hwithin : exactMicros (min (Rounding.down (micros * usdUnit tokenIn.decimals) atto) position.amount)
        tokenIn.decimals atto ≤ micros := (le_units_iff h.atto_pos).1 (by omega)
    refine ⟨_, hrun, hwithin, ?_, ?_, valued_le h.decimals_le h.atto_pos hwithin⟩
    · intro held hheld
      obtain rfl := Option.some.inj hheld
      omega
    · intro k hk hcap
      have hunits := (le_units_iff h.atto_pos).2 hk
      have hheld := hcap _ rfl
      omega

/-! ## The capital of an add -/

section
variable {request : LpProposalRequest} {market : LpProposalBuilder.Market} {capital : Int}

/-- What a liquidity manager asks for: a capital the schema takes, in a pool of two tokens the engine can value. -/
structure LpAsk (request : LpProposalRequest) (market : LpProposalBuilder.Market) (capital : Int) : Prop where
  usd : usdString request.decision.capitalUsd = true
  capital_ok : usdToMicros request.decision.capitalUsd = .ok capital
  decimals0_le : request.pool.token0.decimals ≤ 36
  decimals1_le : request.pool.token1.decimals ≤ 36
  atto0_pos : 0 < market.atto0
  atto1_pos : 0 < market.atto1

/-- An action whose two legs the engine values within a capital. -/
def LegsWithin (market : LpProposalBuilder.Market) (capital : Int) (action : ProposedAction) (amountB : String) : Prop :=
  ∃ value, Engine.lpCapitalMicros action amountB (some market.atto0) (some market.atto1) = .ok (some value) ∧ value ≤ capital

/-- The capital an add commits: of the amounts a funded pool quotes, and of every action the builder plans on one. -/
structure LpSized (request : LpProposalRequest) (market : LpProposalBuilder.Market) (capital : Int) : Prop where
  quoted : ∀ pool reserve0 reserve1 supply, Funded pool reserve0 reserve1 supply →
    ∃ desired amount0 amount1 liquidity, LpProposalBuilder.desiredAmounts request market = .ok desired ∧
      v2AddQuote pool desired.1 desired.2 = .ok (amount0, amount1, liquidity) ∧
      ∀ action : ProposedAction, action.amountIn = toString amount0 → action.tokenIn.decimals = request.pool.token0.decimals →
        action.tokenOut.decimals = request.pool.token1.decimals → LegsWithin market capital action (toString amount1)
  planned : ∀ (host : EvmHost) (adapter : V2PoolLpAdapter) (rpc : PoolAnswers) (env : LpProposalAnswers V2LpRoute) rebalances
    planned, adapter.dialect = .uniswapV2 → env.quoteAdd = adapter.quoteAdd host rpc →
      (LpProposalBuilder.planAdd env request market rebalances).run = .ok (.ok planned) →
      ∃ lp amountB, planned.action.lp = some lp ∧ lp.amountB = some amountB ∧
        LegsWithin market capital planned.action amountB

/-- Half the capital in each asset, rounded down to base units. -/
theorem desiredAmounts_eq (h : LpAsk request market capital) :
    0 ≤ capital.tdiv 2 ∧ 0 ≤ capital - capital.tdiv 2 ∧ LpProposalBuilder.desiredAmounts request market =
      .ok (Rounding.down (capital.tdiv 2 * usdUnit request.pool.token0.decimals) market.atto0,
        Rounding.down ((capital - capital.tdiv 2) * usdUnit request.pool.token1.decimals) market.atto1) := by
  have hcapital := usdString_nonneg h.usd h.capital_ok
  have hhalf : 0 ≤ capital.tdiv 2 ∧ capital.tdiv 2 ≤ capital := by
    rw [Int.tdiv_eq_ediv_of_nonneg hcapital]
    omega
  have hrest : 0 ≤ capital - capital.tdiv 2 := by omega
  refine ⟨hhalf.1, hrest, ?_⟩
  unfold LpProposalBuilder.desiredAmounts
  rw [h.capital_ok]
  simp only [bind, Except.bind, usdToTokenUnits_eq hhalf.1 h.atto0_pos, usdToTokenUnits_eq hrest h.atto1_pos]
  rfl

/-- **Half the capital in each asset** is what the two legs are together worth, at most. -/
theorem legs_within (h : LpAsk request market capital) {desired : Int × Int}
    (hd : LpProposalBuilder.desiredAmounts request market = .ok desired) {amount0 amount1 : Int} {action : ProposedAction}
    {amountB : String} (h0 : 0 ≤ amount0 ∧ amount0 ≤ desired.1) (h1 : 0 ≤ amount1 ∧ amount1 ≤ desired.2)
    (hin : action.amountIn = toString amount0) (hB : amountB = toString amount1)
    (hdec0 : action.tokenIn.decimals = request.pool.token0.decimals)
    (hdec1 : action.tokenOut.decimals = request.pool.token1.decimals) : LegsWithin market capital action amountB := by
  obtain ⟨-, -, heq⟩ := desiredAmounts_eq h
  obtain rfl := Except.ok.inj (heq.symm.trans hd)
  obtain ⟨value0, hv0, hle0⟩ := valued_le h.decimals0_le h.atto0_pos ((le_units_iff h.atto0_pos).1 h0.2)
  obtain ⟨value1, hv1, hle1⟩ := valued_le h.decimals1_le h.atto1_pos ((le_units_iff h.atto1_pos).1 h1.2)
  refine ⟨value0 + value1, ?_, by omega⟩
  unfold Engine.lpCapitalMicros
  rw [hin, hB, hdec0, hdec1]
  simp only [amountToBigint_intToString h0.1, amountToBigint_intToString h1.1, hv0, hv1, bind, Except.bind]
  rfl

theorem desiredAmounts_nonneg (h : LpAsk request market capital) : ∃ desired : Int × Int,
    LpProposalBuilder.desiredAmounts request market = .ok desired ∧ 0 ≤ desired.1 ∧ 0 ≤ desired.2 := by
  obtain ⟨hhalf, hrest, heq⟩ := desiredAmounts_eq h
  refine ⟨_, heq, ?_, ?_⟩
  · exact Rounding.down_nonneg h.atto0_pos (Int.mul_nonneg hhalf (usdUnit_pos _).le)
  · exact Rounding.down_nonneg h.atto1_pos (Int.mul_nonneg hrest (usdUnit_pos _).le)

/-! ### The quote of an add -/

theorem v2AddQuote_funded {pool : LpPoolState} {desired0 desired1 : Int} {out : Int × Int × Int}
    (h : v2AddQuote pool desired0 desired1 = .ok out) : ∃ reserve0 reserve1 supply, Funded pool reserve0 reserve1 supply := by
  unfold v2AddQuote at h
  simp only [bind_ok] at h
  obtain ⟨reserve0, h0, reserve1, h1, supply, hs, h⟩ := h
  split at h
  · cases h
  exact ⟨reserve0, reserve1, supply, h0, h1, hs, by omega, by omega, by omega⟩

/-- **A quote from the reserves** asks for at most the desired amount of each asset. -/
theorem quoteAdd_within {host : EvmHost} {adapter : V2PoolLpAdapter} {rpc : PoolAnswers} {asked : LpAddQuoteRequest}
    {q : LpAddQuote V2LpRoute} {desired0 desired1 : Int} (hd : adapter.dialect = .uniswapV2)
    (h0 : amountToBigint asked.amount0Desired = .ok desired0) (h1 : amountToBigint asked.amount1Desired = .ok desired1)
    (hq : adapter.quoteAdd host rpc asked = .ok q) : ∃ amount0 amount1, q.amount0 = toString amount0 ∧
      q.amount1 = toString amount1 ∧ (0 ≤ amount0 ∧ amount0 ≤ desired0) ∧ (0 ≤ amount1 ∧ amount1 ≤ desired1) := by
  unfold V2PoolLpAdapter.quoteAdd at hq
  split at hq
  · cases hq
  simp only [bind_ok, h0, h1, Except.ok.injEq] at hq
  obtain ⟨pool, -, _, rfl, _, rfl, hq⟩ := hq
  split at hq
  · cases hq
  unfold V2PoolLpAdapter.addAmounts at hq
  simp only [hd, bind_ok] at hq
  obtain ⟨out, hout, hq⟩ := hq
  obtain ⟨reserve0, reserve1, supply, hpool⟩ := v2AddQuote_funded hout
  obtain ⟨amount0, amount1, hratio, hle0, hle1, -⟩ := ratioAmounts_spec hpool.reserve0_pos hpool.reserve1_pos
    (show 0 ≤ desired0 by omega) (show 0 ≤ desired1 by omega)
  rw [v2AddQuote_eq hpool hratio hle0.1 hle1.1] at hout
  obtain rfl := Except.ok.inj hout
  simp only at hq
  split at hq
  · cases hq
  simp only [bind_ok, pure_ok] at hq
  obtain ⟨gasPrice, -, cut0, -, cut1, -, cut, -, rfl⟩ := hq
  exact ⟨amount0, amount1, rfl, rfl, hle0, hle1⟩

theorem planAdd_desired {R : Type} {env : LpProposalAnswers R} {rebalances : Nat} {planned : LpProposalBuilder.Planned R}
    (h : (LpProposalBuilder.planAdd env request market rebalances).run = .ok (.ok planned)) :
    ∃ desired quote committed, LpProposalBuilder.desiredAmounts request market = .ok desired ∧
      env.quoteAdd { poolId := request.pool.poolId, amount0Desired := toString desired.1, amount1Desired := toString desired.2
                     slippageBps := request.policy.lp.maxRebalanceSlippageBps, sender := request.walletAddress } = .ok quote ∧
      planned.action = LpProposalBuilder.addCandidate env request rebalances committed quote := by
  unfold LpProposalBuilder.planAdd at h
  simp only [built_bind, built_pure, built_lift] at h
  obtain ⟨⟨⟩, -, desired, hdesired, ⟨⟩, -, quote, hq, committed, -, rfl⟩ := h
  exact ⟨desired, quote, committed, hdesired, quoted_ok hq, rfl⟩

theorem lp_sized (h : LpAsk request market capital) : LpSized request market capital where
  quoted := by
    intro pool reserve0 reserve1 supply hpool
    obtain ⟨desired, hdesired, hd0, hd1⟩ := desiredAmounts_nonneg h
    obtain ⟨amount0, amount1, hratio, hle0, hle1, -⟩ := ratioAmounts_spec hpool.reserve0_pos hpool.reserve1_pos hd0 hd1
    exact ⟨desired, amount0, amount1, _, hdesired, v2AddQuote_eq hpool hratio hle0.1 hle1.1,
      fun action hin hdec0 hdec1 => legs_within h hdesired hle0 hle1 hin rfl hdec0 hdec1⟩
  planned := by
    intro host adapter rpc env rebalances planned hdialect henv hplan
    obtain ⟨desired, quote, committed, hdesired, hquote, haction⟩ := planAdd_desired hplan
    obtain ⟨desired', hdesired', hd0, hd1⟩ := desiredAmounts_nonneg h
    obtain rfl : desired' = desired := Except.ok.inj (hdesired'.symm.trans hdesired)
    rw [henv] at hquote
    obtain ⟨amount0, amount1, hq0, hq1, hle0, hle1⟩ := quoteAdd_within hdialect (amountToBigint_intToString hd0)
      (amountToBigint_intToString hd1) hquote
    rw [haction]
    exact ⟨_, quote.amount1, rfl, rfl, legs_within h hdesired hle0 hle1 hq0 hq1 rfl rfl⟩

/-- **Sizing never exceeds the request**: the size of a trade is the most within it, and the capital of an add is within it, both
as the engine values them. -/
theorem sizing_within_request {db : Db} {asked : ProposalRequest} {tokenIn : TokenAllowEntry} {priceIn : Stamped}
    (hswap : SwapAsk asked tokenIn priceIn micros atto) (hlp : LpAsk request market capital) :
    SwapSized db asked tokenIn priceIn micros atto ∧ LpSized request market capital :=
  ⟨swap_sized hswap, lp_sized hlp⟩

end

/-! ### Twenty dollars of USDC, and forty in a pool -/

def usdc : TokenAllowEntry := ⟨"0x833589fcd6edb6e08f4c7c32d4f71b54bda02913", "USDC", 6⟩

/-- The pool of USDT and WBNB at market prices. -/
def pancakeMarket : LpProposalBuilder.Market :=
  { price0 := Engine.stamp "1", price1 := Engine.stamp "600.5", native := Engine.stamp "600.5", atto0 := 1000000000000000000
    atto1 := 600500000000000000000, tvl := 2402000000000 }

theorem sizing_of_twenty_dollars :
    SwapSized Engine.bankroll Engine.openRequest usdc (Engine.stamp "1") 20000000 1000000000000000000 ∧
      LpSized (Engine.lpRequest .ADD_LIQUIDITY) pancakeMarket 40000000 :=
  sizing_within_request ⟨by decide, by decide, by decide, by decide, by decide⟩
    ⟨by decide, by decide, by decide, by decide, by decide, by decide⟩

end Atra
