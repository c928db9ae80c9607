import Atra.Paper
import Atra.ProRata
/-!
# V2Pool — adding to a pool and burning what was minted

The arithmetic of a v2 pool is that of shares: an add mints for each side at most its part of the deposit, a burn returns the
share of each reserve.  What the library says of shares then holds of both reserves at once, and the paper executors compute on
the pool a quote was made from the very amounts the quote announced.
-/
namespace Atra

open Money

/-- A pool whose reserves and supply are positive numbers. -/
structure Funded (pool : LpPoolState) (reserve0 reserve1 supply : Int) : Prop where
  reserve0_ok : amountToBigint pool.reserve0 = .ok reserve0
  reserve1_ok : amountToBigint pool.reserve1 = .ok reserve1
  supply_ok : amountToBigint pool.totalSupply = .ok supply
  reserve0_pos : 0 < reserve0
  reserve1_pos : 0 < reserve1
  supply_pos : 0 < supply

def LpPoolState.withReserves (pool : LpPoolState) (reserve0 reserve1 supply : Int) : LpPoolState :=
  { pool with reserve0 := toString reserve0, reserve1 := toString reserve1, totalSupply := toString supply }

variable {pool : LpPoolState} {reserve0 reserve1 supply desired0 desired1 : Int}

theorem withReserves_funded (pool : LpPoolState) (h0 : 0 < reserve0) (h1 : 0 < reserve1) (hs : 0 < supply) :
    Funded (pool.withReserves reserve0 reserve1 supply) reserve0 reserve1 supply :=
  ⟨amountToBigint_intToString h0.le, amountToBigint_intToString h1.le, amountToBigint_intToString hs.le, h0, h1, hs⟩

/-! ## The share of the reserves -/

/-- **A burn returns the share of each reserve.** -/
theorem shareOfReserves_eq {k : Int} (h0 : amountToBigint pool.reserve0 = .ok reserve0)
    (h1 : amountToBigint pool.reserve1 = .ok reserve1) (hs : amountToBigint pool.totalSupply = .ok supply)
    (hr0 : 0 ≤ reserve0) (hr1 : 0 ≤ reserve1) (hk : 0 ≤ k) (hpos : k = 0 ∨ 0 < supply) :
    shareOfReserves pool k = .ok (ProRata.worth k reserve0 supply, ProRata.worth k reserve1 supply) := by
  unfold shareOfReserves
  rw [hs]
  simp only [bind, Except.bind]
  rcases hk.eq_or_lt with rfl | hk
  · rw [if_pos (.inr (le_refl 0)), ProRata.worth_zero, ProRata.worth_zero]
    rfl
  · have hpos : 0 < supply := hpos.resolve_left (by omega)
    rw [if_neg (by omega), h0, h1]
    simp only [floorDiv_eq hpos (Int.mul_nonneg hk.le hr0), floorDiv_eq hpos (Int.mul_nonneg hk.le hr1)]
    rfl

theorem Funded.share_eq {k : Int} (h : Funded pool reserve0 reserve1 supply) (hk : 0 ≤ k) :
    shareOfReserves pool k = .ok (ProRata.worth k reserve0 supply, ProRata.worth k reserve1 supply) :=
  shareOfReserves_eq h.reserve0_ok h.reserve1_ok h.supply_ok h.reserve0_pos.le h.reserve1_pos.le hk (.inr h.supply_pos)

/-! ## The ratio of an add -/

/-- **The amounts an add pulls**: at most the desired amount of each asset, and all of one. -/
theorem ratioAmounts_spec (h0 : 0 < reserve0) (h1 : 0 < reserve1) (hd0 : 0 ≤ desired0) (hd1 : 0 ≤ desired1) :
    ∃ amount0 amount1, ratioAmounts desired0 desired1 reserve0 reserve1 = .ok (amount0, amount1) ∧
      (0 ≤ amount0 ∧ amount0 ≤ desired0) ∧ (0 ≤ amount1 ∧ amount1 ≤ desired1) ∧
      (amount0 = desired0 ∨ amount1 = desired1) := by
  unfold ratioAmounts
  have hp0 := Int.mul_nonneg hd0 h1.le
  have hp1 := Int.mul_nonneg hd1 h0.le
  rw [floorDiv_eq h0 hp0]
  simp only [bind, Except.bind]
  by_cases hle : Rounding.down (desired0 * reserve1) reserve0 ≤ desired1
  · rw [if_pos hle]
    exact ⟨_, _, rfl, ⟨hd0, le_refl _⟩, ⟨Rounding.down_nonneg h0 hp0, hle⟩, .inl rfl⟩
  · rw [if_neg hle, floorDiv_eq h1 hp1]
    refine ⟨_, _, rfl, ⟨Rounding.down_nonneg h1 hp1, ?_⟩, ⟨hd1, le_refl _⟩, .inr rfl⟩
    -- the second asset is the scarcer one, so its counterpart is within the first
    have hscarce : (desired1 + 1) * reserve0 ≤ desired0 * reserve1 := (Rounding.le_down_iff h0).1 (by omega)
    have hfloor := Rounding.down_mul_le (desired1 * reserve0) h1
    rw [Int.add_mul, Int.one_mul] at hscarce
    exact Int.le_of_mul_le_mul_right (by omega) h1

/-- The liquidity the pair mints: the smaller of the two shares of the supply. -/
def minted (amount0 amount1 reserve0 reserve1 supply : Int) : Int :=
  min (ProRata.worth amount0 supply reserve0) (ProRata.worth amount1 supply reserve1)

theorem min_eq_ite (a b : Int) : min a b = if a < b then a else b := by
  split
  · omega
  · omega

/-- The liquidity minted is at most each side's part of its deposit. -/
theorem minted_mul_le (amount0 amount1 supply : Int) (h0 : 0 < reserve0) (h1 : 0 < reserve1) :
    minted amount0 amount1 reserve0 reserve1 supply * reserve0 ≤ amount0 * supply ∧
      minted amount0 amount1 reserve0 reserve1 supply * reserve1 ≤ amount1 * supply := by
  unfold minted
  have hle0 : min (ProRata.worth amount0 supply reserve0) (ProRata.worth amount1 supply reserve1) ≤
      ProRata.worth amount0 supply reserve0 := by omega
  have hle1 : min (ProRata.worth amount0 supply reserve0) (ProRata.worth amount1 supply reserve1) ≤
      ProRata.worth amount1 supply reserve1 := by omega
  exact ⟨(ProRata.le_worth_iff h0).1 hle0, (ProRata.le_worth_iff h1).1 hle1⟩

theorem minted_nonneg {amount0 amount1 : Int} (h0 : 0 < reserve0) (h1 : 0 < reserve1) (hs : 0 < supply) (ha0 : 0 ≤ amount0)
    (ha1 : 0 ≤ amount1) : 0 ≤ minted amount0 amount1 reserve0 reserve1 supply := by
  have hw0 := ProRata.worth_nonneg ha0 hs.le h0
  have hw1 := ProRata.worth_nonneg ha1 hs.le h1
  unfold minted
  omega

theorem v2AddQuote_eq (h : Funded pool reserve0 reserve1 supply) {amount0 amount1 : Int}
    (hr : ratioAmounts desired0 desired1 reserve0 reserve1 = .ok (amount0, amount1)) (ha0 : 0 ≤ amount0) (ha1 : 0 ≤ amount1) :
    v2AddQuote pool desired0 desired1 = .ok (amount0, amount1, minted amount0 amount1 reserve0 reserve1 supply) := by
  have h0 := h.reserve0_pos
  have h1 := h.reserve1_pos
  have hs := h.supply_pos
  unfold v2AddQuote
  rw [h.reserve0_ok, h.reserve1_ok, h.supply_ok]
  simp only [bind, Except.bind]
  rw [if_neg (by omega), hr]
  simp only [floorDiv_eq h0 (Int.mul_nonneg ha0 hs.le), floorDiv_eq h1 (Int.mul_nonneg ha1 hs.le)]
  unfold minted ProRata.worth
  rw [min_eq_ite]
  rfl

/-! ## Burning in parts -/

/-- The pool a burn leaves. -/
def burnt (pool : LpPoolState) (lpTokens : Int) (out : Int × Int) : Result LpPoolState := do
  let reserve0 ← amountToBigint pool.reserve0
  let reserve1 ← amountToBigint pool.reserve1
  let totalSupply ← amountToBigint pool.totalSupply
  return pool.withReserves (reserve0 - out.1) (reserve1 - out.2) (totalSupply - lpTokens)

/-- What a burn in parts returns, each part from the pool the last one left. -/
def burnParts (pool : LpPoolState) : List Int → Result (Int × Int)
  | [] => pure (0, 0)
  | k :: ks => do
    let out ← shareOfReserves pool k
    let left ← burnt pool k out
    let rest ← burnParts left ks
    return (out.1 + rest.1, out.2 + rest.2)

theorem burnt_eq {k : Int} (h0 : amountToBigint pool.reserve0 = .ok reserve0) (h1 : amountToBigint pool.reserve1 = .ok reserve1)
    (hs : amountToBigint pool.totalSupply = .ok supply) (out : Int × Int) :
    burnt pool k out = .ok (pool.withReserves (reserve0 - out.1) (reserve1 - out.2) (supply - k)) := by
  unfold burnt
  rw [h0, h1, hs]
  rfl

/-- **A burn in parts is a redemption in parts** of both reserves. -/
theorem burnParts_eq {ks : List Int} (h0 : amountToBigint pool.reserve0 = .ok reserve0)
    (h1 : amountToBigint pool.reserve1 = .ok reserve1) (hs : amountToBigint pool.totalSupply = .ok supply)
    (hks : ∀ k ∈ ks, 0 ≤ k) (hsum : ks.sum ≤ supply) (hr0 : 0 ≤ reserve0) (hr1 : 0 ≤ reserve1) :
    burnParts pool ks = .ok (ProRata.redeem ks reserve0 supply, ProRata.redeem ks reserve1 supply) := by
  induction ks generalizing pool reserve0 reserve1 supply with
  | nil => rfl
  | cons k ks ih =>
    rw [List.forall_mem_cons] at hks
    rw [List.sum_cons] at hsum
    have hrest : 0 ≤ ks.sum := List.sum_nonneg hks.2
    have hleft0 := ProRata.left_nonneg hr0 hks.1 (show k ≤ supply by omega)
    have hleft1 := ProRata.left_nonneg hr1 hks.1 (show k ≤ supply by omega)
    have hread0 : amountToBigint (pool.withReserves (reserve0 - ProRata.worth k reserve0 supply)
      (reserve1 - ProRata.worth k reserve1 supply) (supply - k)).reserve0 = _ := amountToBigint_intToString hleft0
    have hrec := ih hread0 (amountToBigint_intToString hleft1) (amountToBigint_intToString (show 0 ≤ supply - k by omega))
      hks.2 (by omega) hleft0 hleft1
    rw [burnParts, shareOfReserves_eq h0 h1 hs hr0 hr1 hks.1 (by omega)]
    simp only [bind, Except.bind, burnt_eq h0 h1 hs, hrec]
    rfl

/-! ## The paper executors on the pool of a quote -/

theorem minimum_ok {amount cut : Int} {bps : Nat} (ha : 0 ≤ amount) (h : bpsOf amount bps = .ok cut) :
    amountToBigint (toString (amount - cut)) = .ok (amount - cut) ∧ 0 ≤ cut := by
  have hb : bps ≤ 10000 := by
    by_contra hb
    unfold bpsOf at h
    rw [if_pos (by omega)] at h
    cases h
  rw [bpsOf_eq hb] at h
  obtain rfl := Except.ok.inj h
  obtain ⟨h1, h2⟩ := haircut_le ha hb
  exact ⟨amountToBigint_intToString (by omega), h1⟩

theorem pairMint_eq {amount0 amount1 : Int} (ha0 : 0 ≤ amount0) (ha1 : 0 ≤ amount1) (hs : 0 ≤ supply) :
    PaperLpExecutor.pairMint amount0 amount1 reserve0 reserve1 supply = minted amount0 amount1 reserve0 reserve1 supply := by
  unfold PaperLpExecutor.pairMint minted ProRata.worth
  rw [min_eq_ite, Rounding.tdiv_eq_down (Int.mul_nonneg ha0 hs), Rounding.tdiv_eq_down (Int.mul_nonneg ha1 hs)]

theorem tdiv_eq_worth {k r s : Int} (hk : 0 ≤ k) (hr : 0 ≤ r) : (k * r).tdiv s = ProRata.worth k r s :=
  Rounding.tdiv_eq_down (Int.mul_nonneg hk hr)

theorem belowMinimum_eq {R : Type} {q : LpRemoveQuote R} {min0 min1 out0 out1 : Int} (h0 : amountToBigint q.min0 = .ok min0)
    (h1 : amountToBigint q.min1 = .ok min1) (hle0 : min0 ≤ out0) (hle1 : min1 ≤ out1) :
    PaperLpExecutor.belowMinimum q out0 out1 = .ok false := by
  unfold PaperLpExecutor.belowMinimum
  simp only [h0, h1, bind, Except.bind]
  rw [if_neg (by omega), decide_eq_false (by omega)]
  rfl

section
variable {host : EvmHost} {adapter : V2PoolLpAdapter} {rpc : PoolAnswers}

/-- **A paper add mints what the quote announced**: on the pool of the quote only the prices can refuse it. -/
theorem paperAdd_of_quote {request : LpAddQuoteRequest} {q : LpAddQuote V2LpRoute} (h : Funded pool reserve0 reserve1 supply)
    (hd : adapter.dialect = .uniswapV2) (hp : rpc.pool = .ok pool) (hq : adapter.quoteAdd host rpc request = .ok q)
    (prices : LpFillPrices) : ∃ amount0 amount1 liquidity, q.amount0 = toString amount0 ∧ q.amount1 = toString amount1 ∧
      q.expectedLpTokens = toString liquidity ∧ PaperLpExecutor.paperAdd q pool prices =
        (fun capital => ⟨amount0, amount1, liquidity, capital⟩) <$>
          PaperLpExecutor.bothSides pool prices amount0 amount1 .ceil := by
  unfold V2PoolLpAdapter.quoteAdd at hq
  split at hq
  · cases hq
  simp only [bind_ok, hp, Except.ok.injEq] at hq
  obtain ⟨_, rfl, desired0, -, desired1, -, hq⟩ := hq
  split at hq
  · cases hq
  rename_i hpos
  have h0 := h.reserve0_pos
  have h1 := h.reserve1_pos
  have hs := h.supply_pos
  obtain ⟨amount0, amount1, hratio, ⟨ha0, -⟩, ⟨ha1, -⟩, -⟩ := ratioAmounts_spec h0 h1
    (show 0 ≤ desired0 by omega) (show 0 ≤ desired1 by omega)
  unfold V2PoolLpAdapter.addAmounts at hq
  simp only [hd, v2AddQuote_eq h hratio ha0 ha1, bind_ok, Except.ok.injEq] at hq
  obtain ⟨_, rfl, hq⟩ := hq
  simp only at hq
  split at hq
  · cases hq
  simp only [bind_ok, pure_ok] at hq
  obtain ⟨gasPrice, -, cut0, -, cut1, -, cut, hcut, rfl⟩ := hq
  refine ⟨amount0, amount1, _, rfl, rfl, rfl, ?_⟩
  obtain ⟨hmin, hnonneg⟩ := minimum_ok (minted_nonneg h0 h1 hs ha0 ha1) hcut
  unfold PaperLpExecutor.paperAdd
  simp only [amountToBigint_intToString ha0, amountToBigint_intToString ha1, h.reserve0_ok, h.reserve1_ok, h.supply_ok,
    bind, Except.bind]
  rw [if_neg (by omega)]
  simp only [pairMint_eq ha0 ha1 hs.le, hmin]
  rw [if_neg (by omega)]
  rfl

/-- **A paper removal returns what the quote announced.** -/
theorem paperRemove_of_quote {request : LpRemoveQuoteRequest} {q : LpRemoveQuote V2LpRoute}
    (h : Funded pool reserve0 reserve1 supply) (hd : adapter.dialect = .uniswapV2) (hp : rpc.pool = .ok pool)
    (hq : adapter.quoteRemove host rpc request = .ok q) (prices : LpFillPrices) : ∃ lpTokens out0 out1,
      q.lpTokens = toString lpTokens ∧ q.expected0 = toString out0 ∧ q.expected1 = toString out1 ∧
        PaperLpExecutor.paperRemove q pool prices =
          (fun proceeds => ⟨lpTokens, out0, out1, proceeds⟩) <$> PaperLpExecutor.bothSides pool prices out0 out1 .floor := by
  unfold V2PoolLpAdapter.quoteRemove at hq
  split at hq
  · cases hq
  simp only [bind_ok, hp, Except.ok.injEq] at hq
  obtain ⟨_, rfl, lpTokens, -, hq⟩ := hq
  split at hq
  · cases hq
  rename_i hpos
  have hk : 0 ≤ lpTokens := by omega
  have h0 := h.reserve0_pos.le
  have h1 := h.reserve1_pos.le
  have hs := h.supply_pos
  have hout0 := ProRata.worth_nonneg hk h0 hs
  have hout1 := ProRata.worth_nonneg hk h1 hs
  unfold V2PoolLpAdapter.removeAmounts at hq
  simp only [hd, h.share_eq hk, bind_ok, Except.ok.injEq] at hq
  obtain ⟨_, rfl, hq⟩ := hq
  simp only [pure_ok] at hq
  obtain ⟨gasPrice, -, cut0, hcut0, cut1, hcut1, hq⟩ := hq
  obtain ⟨hread0, hnonneg0⟩ := minimum_ok hout0 hcut0
  obtain ⟨hread1, hnonneg1⟩ := minimum_ok hout1 hcut1
  have hmin0 : amountToBigint q.min0 = .ok (ProRata.worth lpTokens reserve0 supply - cut0) := by
    rw [← hq]
    exact hread0
  have hmin1 : amountToBigint q.min1 = .ok (ProRata.worth lpTokens reserve1 supply - cut1) := by
    rw [← hq]
    exact hread1
  have htokens : q.lpTokens = toString lpTokens := by rw [← hq]
  refine ⟨lpTokens, _, _, htokens, by rw [← hq], by rw [← hq], ?_⟩
  unfold PaperLpExecutor.paperRemove
  simp only [htokens, amountToBigint_intToString hk, h.reserve0_ok, h.reserve1_ok, h.supply_ok, bind, Except.bind]
  rw [if_neg (by omega)]
  simp only [tdiv_eq_worth hk h0, tdiv_eq_worth hk h1]
  rw [belowMinimum_eq hmin0 hmin1 (by omega) (by omega)]
  rfl

end

/-! ## The laws -/

/-- What adding two amounts for a liquidity promises: burning it returns no more, and no holder's share falls. -/
def Fair (pool : LpPoolState) (reserve0 reserve1 supply amount0 amount1 liquidity : Int) : Prop :=
  ∃ added out left, added = pool.withReserves (reserve0 + amount0) (reserve1 + amount1) (supply + liquidity) ∧
    shareOfReserves added liquidity = .ok out ∧ burnt added liquidity out = .ok left ∧
    (out.1 ≤ amount0 ∧ out.2 ≤ amount1) ∧
    ∀ k, 0 ≤ k → ∃ before during after, shareOfReserves pool k = .ok before ∧ shareOfReserves added k = .ok during ∧
      shareOfReserves left k = .ok after ∧ (before.1 ≤ during.1 ∧ during.1 ≤ after.1) ∧
      (before.2 ≤ during.2 ∧ during.2 ≤ after.2)

/-- What a funded pool promises to whoever adds, burns or trades with it on paper. -/
structure PoolLaws (pool : LpPoolState) (reserve0 reserve1 supply desired0 desired1 : Int) : Prop where
  add : ∃ amount0 amount1 liquidity, v2AddQuote pool desired0 desired1 = .ok (amount0, amount1, liquidity) ∧
    (amount0 ≤ desired0 ∧ amount1 ≤ desired1) ∧ (amount0 = desired0 ∨ amount1 = desired1) ∧
    Fair pool reserve0 reserve1 supply amount0 amount1 liquidity
  split : ∀ ks : List Int, (∀ k ∈ ks, 0 ≤ k) → ks.sum ≤ supply → ∃ whole parts, shareOfReserves pool ks.sum = .ok whole ∧
    burnParts pool ks = .ok parts ∧ parts.1 ≤ whole.1 ∧ parts.2 ≤ whole.2
  paperAdd : ∀ (host : EvmHost) (adapter : V2PoolLpAdapter) (rpc : PoolAnswers) request q prices,
    adapter.dialect = .uniswapV2 → rpc.pool = .ok pool → adapter.quoteAdd host rpc request = .ok q →
    ∃ amount0 amount1 liquidity, q.amount0 = toString amount0 ∧ q.amount1 = toString amount1 ∧
      q.expectedLpTokens = toString liquidity ∧ PaperLpExecutor.paperAdd q pool prices =
        (fun capital => ⟨amount0, amount1, liquidity, capital⟩) <$>
          PaperLpExecutor.bothSides pool prices amount0 amount1 .ceil
  paperRemove : ∀ (host : EvmHost) (adapter : V2PoolLpAdapter) (rpc : PoolAnswers) request q prices,
    adapter.dialect = .uniswapV2 → rpc.pool = .ok pool → adapter.quoteRemove host rpc request = .ok q →
    ∃ lpTokens out0 out1, q.lpTokens = toString lpTokens ∧ q.expected0 = toString out0 ∧ q.expected1 = toString out1 ∧
      PaperLpExecutor.paperRemove q pool prices =
        (fun proceeds => ⟨lpTokens, out0, out1, proceeds⟩) <$> PaperLpExecutor.bothSides pool prices out0 out1 .floor

/-- **An add is fair** when its liquidity is at most each side's part of the deposit. -/
theorem Funded.fair {amount0 amount1 liquidity : Int} (h : Funded pool reserve0 reserve1 supply) (ha0 : 0 ≤ amount0)
    (ha1 : 0 ≤ amount1) (hl : 0 ≤ liquidity) (h0 : liquidity * reserve0 ≤ amount0 * supply)
    (h1 : liquidity * reserve1 ≤ amount1 * supply) : Fair pool reserve0 reserve1 supply amount0 amount1 liquidity := by
  have hr0 := h.reserve0_pos
  have hr1 := h.reserve1_pos
  have hs := h.supply_pos
  have hadded : Funded (pool.withReserves (reserve0 + amount0) (reserve1 + amount1) (supply + liquidity))
      (reserve0 + amount0) (reserve1 + amount1) (supply + liquidity) :=
    withReserves_funded pool (by omega) (by omega) (by omega)
  have hb0 := ProRata.worth_issued_le hs hl h0
  have hb1 := ProRata.worth_issued_le hs hl h1
  have hratio0 := ProRata.redeemed_ratio (k := liquidity) (r := reserve0 + amount0) hadded.supply_pos
  have hratio1 := ProRata.redeemed_ratio (k := liquidity) (r := reserve1 + amount1) hadded.supply_pos
  have hout0 := ProRata.worth_nonneg hl hadded.reserve0_pos.le hadded.supply_pos
  have hout1 := ProRata.worth_nonneg hl hadded.reserve1_pos.le hadded.supply_pos
  refine ⟨_, _, _, rfl, hadded.share_eq hl, burnt_eq hadded.reserve0_ok hadded.reserve1_ok hadded.supply_ok _, ⟨hb0, hb1⟩,
    fun k hk => ?_⟩
  have hsupply : 0 < supply + liquidity - liquidity := by omega
  have hleft := withReserves_funded (pool.withReserves (reserve0 + amount0) (reserve1 + amount1) (supply + liquidity))
    (show 0 < reserve0 + amount0 - ProRata.worth liquidity (reserve0 + amount0) (supply + liquidity) by omega)
    (show 0 < reserve1 + amount1 - ProRata.worth liquidity (reserve1 + amount1) (supply + liquidity) by omega) hsupply
  refine ⟨_, _, _, h.share_eq hk, hadded.share_eq hk, hleft.share_eq hk, ⟨?_, ?_⟩, ?_, ?_⟩
  · exact ProRata.worth_mono hk hs hadded.supply_pos (ProRata.issued_ratio h0)
  · exact ProRata.worth_mono hk hadded.supply_pos hsupply hratio0
  · exact ProRata.worth_mono hk hs hadded.supply_pos (ProRata.issued_ratio h1)
  · exact ProRata.worth_mono hk hadded.supply_pos hsupply hratio1

/-- **Adding and burning are fair**, and a quote from the reserves is what the paper executors compute. -/
theorem pool_laws (h : Funded pool reserve0 reserve1 supply) (hd0 : 0 ≤ desired0) (hd1 : 0 ≤ desired1) :
    PoolLaws pool reserve0 reserve1 supply desired0 desired1 where
  add := by
    have h0 := h.reserve0_pos
    have h1 := h.reserve1_pos
    obtain ⟨amount0, amount1, hratio, ⟨ha0, hle0⟩, ⟨ha1, hle1⟩, hall⟩ := ratioAmounts_spec h0 h1 hd0 hd1
    obtain ⟨hpart0, hpart1⟩ := minted_mul_le amount0 amount1 supply h0 h1
    have hl := minted_nonneg h0 h1 h.supply_pos ha0 ha1
    exact ⟨amount0, amount1, _, v2AddQuote_eq h hratio ha0 ha1, ⟨hle0, hle1⟩, hall, h.fair ha0 ha1 hl hpart0 hpart1⟩
  split := by
    intro ks hks hsum
    have h0 := h.reserve0_pos.le
    have h1 := h.reserve1_pos.le
    refine ⟨_, _, h.share_eq (List.sum_nonneg hks),
      burnParts_eq h.reserve0_ok h.reserve1_ok h.supply_ok hks hsum h0 h1, ?_, ?_⟩
    · exact ProRata.redeem_le hks h.supply_pos hsum h0
    · exact ProRata.redeem_le hks h.supply_pos hsum h1
  paperAdd := fun _ _ _ _ _ prices hd hp hq => paperAdd_of_quote h hd hp hq prices
  paperRemove := fun _ _ _ _ _ prices hd hp hq => paperRemove_of_quote h hd hp hq prices

/-- A pool of a thousand to three, with seven shares out. -/
def skewedPool : LpPoolState :=
  { chain := .base, protocol := "uniswap-v2", poolId := "0x01", stable := false, token0 := ⟨"0x0a", 6, none⟩
    token1 := ⟨"0x0b", 18, none⟩, reserve0 := toString (1000 : Int), reserve1 := toString (3 : Int)
    totalSupply := toString (7 : Int), lpTokenDecimals := 18, observedAt := 0 }

theorem skewedPool_laws : PoolLaws skewedPool 1000 3 7 500 1 :=
  pool_laws ⟨amountToBigint_intToString (by decide), amountToBigint_intToString (by decide),
    amountToBigint_intToString (by decide), by decide, by decide, by decide⟩ (by decide) (by decide)

end Atra
