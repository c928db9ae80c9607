import Atra.Engine
import Atra.Proposal
import Mathlib.Algebra.Order.BigOperators.Group.List
/-!
# MarketLiquidity — what the providers say of a pair's pools

The pools of a token are those of every provider that answered, one list after the other; the search path drops the second
reading of a pool, this one keeps it.  An aggregator's market is measured by all of the pair's readings together, stamped with
the newest of them; a venue's by one reading of its own.  So the figure is `Backed` by one reading a pool in just the cases in
which no pool was read twice and no reading is older than another (`Uniform`).
-/

/-! ## What a part of a list leaves of a total -/

namespace Weights

variable {α : Type} {w : α → Int} {S M : List α}

/-- **A part that weighs all of it** leaves what weighs nothing. -/
theorem rest_zero (h0 : ∀ x ∈ M, 0 ≤ w x) (hsub : S.Subperm M) (hle : (M.map w).sum ≤ (S.map w).sum) :
    ∃ rest, M.Perm (S ++ rest) ∧ ∀ x ∈ rest, w x = 0 := by
  obtain ⟨l, hl, hsublist⟩ := hsub
  obtain ⟨rest, hrest⟩ := hsublist.exists_perm_append
  have hperm : M.Perm (S ++ rest) := hrest.trans (hl.append_right rest)
  refine ⟨rest, hperm, fun x hx => ?_⟩
  have hsum : (M.map w).sum = (S.map w).sum + (rest.map w).sum := by
    rw [(hperm.map w).sum_eq, List.map_append, List.sum_append]
  have hnonneg : ∀ y ∈ rest.map w, 0 ≤ y := by
    intro y hy
    obtain ⟨z, hz, rfl⟩ := List.mem_map.1 hy
    exact h0 z (hperm.mem_iff.2 (List.mem_append_right S hz))
  have hone : w x ≤ (rest.map w).sum := List.single_le_sum hnonneg _ (List.mem_map_of_mem hx)
  have hx0 : 0 ≤ w x := hnonneg _ (List.mem_map_of_mem hx)
  omega

end Weights

namespace Atra
namespace Market

open Money Engine

/-- A reading of a pool. -/
structure MarketSnapshot where
  chain : ChainId
  poolId : String
  dexId : Option String
  base : String
  quote : String
  liquidityUsd : Option String
  observedAt : Int
  source : String
  /-- The providers' readers let no sign through. -/
  unsigned : ∀ text, liquidityUsd = some text → text.toList.head? ≠ some '-'

/-- `Number(text)`, as it ranks pools, beside what the runtime takes from its host. -/
structure MarketHost extends Host where
  number : String → ℚ

def rank (host : MarketHost) (s : MarketSnapshot) : ℚ :=
  match s.liquidityUsd with
  | none => -1
  | some text => host.number text

/-- The readings of the providers that answered; none of them answering is an error. -/
def collect (answers : List (Option (List MarketSnapshot))) (what : String) : Result (List MarketSnapshot) :=
  if answers ≠ [] ∧ answers.all Option.isNone then throw ⟨.upstreamUnavailable, "Could not retrieve " ++ what⟩
  else pure (answers.flatMap fun answer => answer.getD [])

/-- The readings of a token's pools, the cached ones while they are kept, best liquidity first. -/
def getPoolsForToken (host : MarketHost) (cached : Option (List MarketSnapshot)) (answers : List (Option (List MarketSnapshot)))
    (chain : ChainId) (token : String) : Result (List MarketSnapshot) :=
  match cached with
  | some readings => pure (readings.map fun s => { s with source := "cache" })
  | none =>
    if answers = [] then throw ⟨.adapterUnavailable, "No market-data provider covers " ++ chain.name⟩
    else do
      let readings ← collect answers ("pools for " ++ token ++ " on " ++ chain.name)
      return readings.insertionSort fun x y => rank host y ≤ rank host x

/-- A pool, however its id is spelled. -/
def poolKey (host : MarketHost) (s : MarketSnapshot) : ChainId × String := (s.chain, host.toLowerCase s.poolId)

/-- The readings of pools that trade exactly the pair and have a figure. -/
def matching (host : MarketHost) (pools : List MarketSnapshot) (a b : String) : List MarketSnapshot :=
  pools.filter fun pool =>
    let pair := [host.toLowerCase pool.base, host.toLowerCase pool.quote]
    pair.contains (host.toLowerCase a) && pair.contains (host.toLowerCase b) && pool.liquidityUsd.isSome

def AGGREGATOR_PROTOCOLS : List String := ["jupiter-v6"]

def isAggregator (host : MarketHost) (protocol : String) : Bool := AGGREGATOR_PROTOCOLS.contains (host.toLowerCase protocol)

/-- The venue behind a protocol's name or a provider's dex id. -/
def venueOf (host : MarketHost) (name : String) : String :=
  String.ofList ((host.toLowerCase name).toList.takeWhile fun c => c ≠ '-' && c ≠ '_')

def microsOf (s : MarketSnapshot) : Result Int := usdToMicros (s.liquidityUsd.getD "")

def newer (newest pool : MarketSnapshot) : MarketSnapshot := if newest.observedAt < pool.observedAt then pool else newest

/-- A positive total, as of the newest reading. -/
def summed (protocol : String) (total : Int) : List MarketSnapshot → Option Stamped
  | [] => none
  | first :: rest =>
    if total ≤ 0 then none
    else
      let freshest := rest.foldl newer first
      some ⟨microsToUsd total, freshest.observedAt,
        freshest.source ++ ":" ++ toString (rest.length + 1) ++ " pools via " ++ protocol⟩

def together (readings : List MarketSnapshot) (protocol : String) : Result (Option Stamped) := do
  let total ← readings.foldlM (fun sum pool => return sum + (← microsOf pool)) 0
  return summed protocol total readings

/-- The quoted pool's reading, else the best of the quoted venue. -/
def chosen (host : MarketHost) (readings : List MarketSnapshot) (protocol marketId : String) : Option MarketSnapshot :=
  (readings.find? fun pool => host.toLowerCase pool.poolId = host.toLowerCase marketId).or
    ((readings.filter fun pool => venueOf host (pool.dexId.getD "") = venueOf host protocol).insertionSort fun x y =>
      rank host y ≤ rank host x).head?

def ofVenue (host : MarketHost) (readings : List MarketSnapshot) (protocol marketId : String) : Option Stamped :=
  (chosen host readings protocol marketId).bind fun pool => (pool.liquidityUsd.filter (· ≠ "")).map fun value =>
    ⟨value, pool.observedAt, pool.source ++ ":" ++ pool.poolId⟩

def figureOf (host : MarketHost) (readings : List MarketSnapshot) (protocol marketId : String) : Result (Option Stamped) :=
  if readings = [] then pure none
  else if isAggregator host protocol then together readings protocol
  else pure (ofVenue host readings protocol marketId)

/-- A lookup that fails gives no figure. -/
def orNone (figure : Result (Option Stamped)) : Option Stamped :=
  match figure with
  | .ok f => f
  | .error _ => none

/-- `#liquidity`: the figure of a pair, where one can be given. -/
def liquidity {R : Type} (host : MarketHost) (pools : Result (List MarketSnapshot)) (a b : String) (quote : ExecutionQuote R) :
    Option Stamped :=
  orNone do
    let pools ← pools
    figureOf host (matching host pools a b) quote.protocol quote.marketId

/-! ## What a figure stands on -/

/-- What a reading adds to a total; one that cannot be read adds nothing. -/
def worth (s : MarketSnapshot) : Int :=
  match microsOf s with
  | .ok m => m
  | .error _ => 0

/-- A figure is no more than one reading each of distinct pools together, and no newer than any of them. -/
def Backed (host : MarketHost) (readings : List MarketSnapshot) (f : Stamped) : Prop :=
  ∃ S : List MarketSnapshot, S.Subperm readings ∧ (S.map (poolKey host)).Nodup ∧
    (∀ value, usdToMicros f.value = .ok value → value ≤ (S.map worth).sum) ∧ ∀ s ∈ S, f.stampedAt ≤ s.observedAt

/-- The engine's floor and age hold of readings of distinct pools whenever it passes a swap on the figure. -/
def Judged (host : MarketHost) (readings : List MarketSnapshot) (f : Stamped) : Prop :=
  ∀ (i : RiskInput) (checks : List RiskCheck) (minLiquidity : Int), liquidityDatum i = some f →
    (swapQuote i.action).isSome = true → liquidityChecks i = .ok checks → usdToMicros i.policy.minLiquidityUsd = .ok minLiquidity →
    (∀ c ∈ checks ++ freshnessChecks i, c.passed = true) →
    ∃ S : List MarketSnapshot, S.Subperm readings ∧ (S.map (poolKey host)).Nodup ∧ minLiquidity ≤ (S.map worth).sum ∧
      ∀ s ∈ S, i.now - s.observedAt ≤ i.policy.freshness.liquidityMaxAgeMs

/-- The readings that say anything are of different pools, and none of them is older than another reading. -/
structure Uniform (host : MarketHost) (readings : List MarketSnapshot) : Prop where
  distinct : ((readings.filter fun s => 0 < worth s).map (poolKey host)).Nodup
  newest : ∀ s ∈ readings, 0 < worth s → ∀ s' ∈ readings, s'.observedAt ≤ s.observedAt

section
variable {host : MarketHost} {readings : List MarketSnapshot} {protocol : String}

theorem worth_nonneg (s : MarketSnapshot) : 0 ≤ worth s := by
  unfold worth
  cases hm : microsOf s with
  | error e => exact le_refl 0
  | ok m =>
    unfold microsOf usdToMicros at hm
    have hsign : (splitSign (s.liquidityUsd.getD "").toList).1 = false := by
      unfold splitSign
      split
      · rename_i cs hcs
        exfalso
        cases ht : s.liquidityUsd with
        | none =>
          rw [ht] at hcs
          cases hcs
        | some text =>
          rw [ht] at hcs
          exact s.unsigned text ht (by rw [show text.toList = '-' :: cs from hcs]; rfl)
      · rfl
    rw [hsign] at hm
    split at hm
    · cases hm
    · obtain rfl := pure_ok.1 hm
      exact Int.natCast_nonneg _

/-- **The total** is of readings that can all be read. -/
theorem total_ok {sum t : Int} : readings.foldlM (fun sum pool => return sum + (← microsOf pool)) sum = .ok t ↔
    (∀ s ∈ readings, ∃ m, microsOf s = .ok m) ∧ t = sum + (readings.map worth).sum := by
  induction readings generalizing sum with
  | nil =>
    rw [List.foldlM_nil, pure_ok]
    simp [eq_comm]
  | cons s readings ih =>
    rw [List.foldlM_cons, bind_ok]
    constructor
    · rintro ⟨_, hs, hrest⟩
      obtain ⟨m, hm, hpure⟩ := bind_ok.1 hs
      obtain rfl := pure_ok.1 hpure
      obtain ⟨hall, rfl⟩ := ih.1 hrest
      have hw : worth s = m := by
        unfold worth
        rw [hm]
      refine ⟨fun s' hs' => ?_, ?_⟩
      · rcases List.mem_cons.1 hs' with rfl | hs'
        · exact ⟨m, hm⟩
        · exact hall s' hs'
      · rw [List.map_cons, List.sum_cons, hw]
        ring
    · rintro ⟨hall, rfl⟩
      obtain ⟨m, hm⟩ := hall s List.mem_cons_self
      have hw : worth s = m := by
        unfold worth
        rw [hm]
      refine ⟨sum + m, bind_ok.2 ⟨m, hm, rfl⟩, ih.2 ⟨fun s' hs' => hall s' (List.mem_cons_of_mem s hs'), ?_⟩⟩
      rw [List.map_cons, List.sum_cons, hw]
      ring

theorem newest_spec (first : MarketSnapshot) (rest : List MarketSnapshot) : rest.foldl newer first ∈ first :: rest ∧
    ∀ s ∈ first :: rest, s.observedAt ≤ (rest.foldl newer first).observedAt := by
  induction rest generalizing first with
  | nil =>
    refine ⟨List.mem_cons_self, fun s hs => ?_⟩
    rw [List.mem_singleton.1 hs]
    exact le_refl _
  | cons s rest ih =>
    rw [List.foldl_cons]
    obtain ⟨hmem, hmax⟩ := ih (newer first s)
    have hnewer : (newer first s = first ∨ newer first s = s) ∧ first.observedAt ≤ (newer first s).observedAt ∧
        s.observedAt ≤ (newer first s).observedAt := by
      unfold newer
      split
      · exact ⟨.inr rfl, by omega, le_refl _⟩
      · exact ⟨.inl rfl, le_refl _, by omega⟩
    have htop := hmax (newer first s) List.mem_cons_self
    refine ⟨?_, fun s' hs' => ?_⟩
    · rcases List.mem_cons.1 hmem with hm | hm
      · rw [hm]
        rcases hnewer.1 with hn | hn
        · rw [hn]
          exact List.mem_cons_self
        · rw [hn]
          exact List.mem_cons_of_mem _ List.mem_cons_self
      · exact List.mem_cons_of_mem _ (List.mem_cons_of_mem _ hm)
    · rcases List.mem_cons.1 hs' with rfl | hs'
      · exact hnewer.2.1.trans htop
      · rcases List.mem_cons.1 hs' with rfl | hs'
        · exact hnewer.2.2.trans htop
        · exact hmax s' (List.mem_cons_of_mem _ hs')

theorem together_eq (hread : ∀ s ∈ readings, ∃ m, microsOf s = .ok m) :
    together readings protocol = .ok (summed protocol (readings.map worth).sum readings) := by
  have htotal : readings.foldlM (fun sum pool => return sum + (← microsOf pool)) 0 = .ok (0 + (readings.map worth).sum) :=
    total_ok.2 ⟨hread, rfl⟩
  rw [Int.zero_add] at htotal
  exact bind_ok.2 ⟨_, htotal, rfl⟩

theorem summed_some {f : Stamped} (h : summed protocol (readings.map worth).sum readings = some f) :
    usdToMicros f.value = .ok (readings.map worth).sum ∧ ∃ newest ∈ readings, f.stampedAt = newest.observedAt ∧
      ∀ s ∈ readings, s.observedAt ≤ newest.observedAt := by
  cases readings with
  | nil => cases h
  | cons first rest =>
    unfold summed at h
    dsimp only at h
    split at h
    · cases h
    · obtain rfl := Option.some.inj h
      obtain ⟨hmem, hmax⟩ := newest_spec first rest
      exact ⟨usdToMicros_microsToUsd _, _, hmem, rfl, hmax⟩

theorem worth_of_summed_none (h : summed protocol (readings.map worth).sum readings = none) : ∀ s ∈ readings, worth s = 0 := by
  intro s hs
  have hle : worth s ≤ (readings.map worth).sum := by
    refine List.single_le_sum (fun x hx => ?_) _ (List.mem_map_of_mem hs)
    obtain ⟨s', -, rfl⟩ := List.mem_map.1 hx
    exact worth_nonneg s'
  have hw := worth_nonneg s
  cases readings with
  | nil => cases hs
  | cons first rest =>
    unfold summed at h
    dsimp only at h
    split at h
    · omega
    · cases h

theorem sum_positive (readings : List MarketSnapshot) :
    ((readings.filter fun s => 0 < worth s).map worth).sum = (readings.map worth).sum := by
  induction readings with
  | nil => rfl
  | cons s rest ih =>
    have hw := worth_nonneg s
    by_cases hpos : 0 < worth s
    · rw [List.filter_cons, if_pos (decide_eq_true hpos), List.map_cons, List.map_cons, List.sum_cons, List.sum_cons, ih]
    · rw [List.filter_cons, if_neg (by simpa using hpos), List.map_cons, List.sum_cons, ih]
      omega

/-- **A pair's pools together are backed in just the case that they were read uniformly.** -/
theorem together_backed_iff (hread : ∀ s ∈ readings, ∃ m, microsOf s = .ok m) :
    (∀ f, together readings protocol = .ok (some f) → Backed host readings f) ↔ Uniform host readings := by
  rw [together_eq hread]
  constructor
  · intro h
    cases hf : summed protocol (readings.map worth).sum readings with
    | some f =>
      obtain ⟨S, hsub, hnodup, hle, hnew⟩ := h f (by rw [hf])
      obtain ⟨hvalue, newest, -, hat, hmax⟩ := summed_some hf
      obtain ⟨rest, hperm, hzero⟩ := Weights.rest_zero (fun s _ => worth_nonneg s) hsub (hle _ hvalue)
      -- what says anything is in the part the figure stands on
      have hpart : (readings.filter fun s => 0 < worth s).Perm (S.filter fun s => 0 < worth s) := by
        have hfilter := hperm.filter fun s => decide (0 < worth s)
        have hrest : rest.filter (fun s => decide (0 < worth s)) = [] :=
          List.filter_eq_nil_iff.2 fun s hs => by rw [hzero s hs]; decide
        rw [List.filter_append, hrest, List.append_nil] at hfilter
        exact hfilter
      refine ⟨?_, fun s hs hpos s' hs' => ?_⟩
      · rw [(hpart.map _).nodup_iff]
        exact (List.filter_sublist.map _).nodup hnodup
      · have hS : s ∈ S := (List.mem_filter.1 (hpart.mem_iff.1 (List.mem_filter.2 ⟨hs, decide_eq_true hpos⟩))).1
        have hfresh := hnew s hS
        have holdest := hmax s' hs'
        omega
    | none =>
      have hzero := worth_of_summed_none hf
      refine ⟨?_, fun s hs hpos => ?_⟩
      · rw [List.filter_eq_nil_iff.2 fun s hs => by rw [hzero s hs]; decide]
        exact List.nodup_nil
      · rw [hzero s hs] at hpos
        omega
  · intro h f hf
    obtain ⟨hvalue, newest, hnewest, hat, -⟩ := summed_some (Except.ok.inj hf)
    refine ⟨readings.filter fun s => 0 < worth s, List.filter_sublist.subperm, h.distinct, fun value hv => ?_, fun s hs => ?_⟩
    · rw [hvalue] at hv
      rw [sum_positive, Except.ok.inj hv]
    · obtain ⟨hmem, hpos⟩ := List.mem_filter.1 hs
      rw [hat]
      exact h.newest s hmem (of_decide_eq_true hpos) newest hnewest

theorem ofVenue_backed {marketId : String} {f : Stamped} (h : ofVenue host readings protocol marketId = some f) :
    Backed host readings f := by
  unfold ofVenue at h
  obtain ⟨pool, hpool, h⟩ := Option.bind_eq_some_iff.1 h
  obtain ⟨value, hvalue, rfl⟩ := Option.map_eq_some_iff.1 h
  have htext := (Option.filter_eq_some_iff.1 hvalue).1
  have hmem : pool ∈ readings := by
    unfold chosen at hpool
    rcases Option.or_eq_some_iff.1 hpool with hfind | ⟨-, hhead⟩
    · exact List.mem_of_find?_eq_some hfind
    · have hsorted := List.mem_of_head? hhead
      rw [List.mem_insertionSort] at hsorted
      exact (List.mem_filter.1 hsorted).1
  refine ⟨[pool], List.singleton_subperm_iff.2 hmem, List.nodup_singleton _, fun v hv => ?_, fun s hs => ?_⟩
  · have hworth : worth pool = v := by
      unfold worth microsOf
      rw [htext, Option.getD_some, hv]
    rw [List.map_singleton, List.sum_singleton, hworth]
  · rw [List.mem_singleton.1 hs]

end

theorem fresh_of_passed {name : String} {s : Stamped} {now maxAgeMs skewMs : Int}
    (h : (freshnessCheck name (some s) now maxAgeMs skewMs).passed = true) : now - s.stampedAt ≤ maxAgeMs := by
  unfold freshnessCheck at h
  dsimp only at h
  split at h
  · cases h
  · exact of_decide_eq_true h

/-- **The engine judges what a backed figure stands on.** -/
theorem Backed.judged {host : MarketHost} {readings : List MarketSnapshot} {f : Stamped} (h : Backed host readings f) :
    Judged host readings f := by
  intro i checks minLiquidity hdatum hswap hchecks hmin hpassed
  obtain ⟨S, hsub, hnodup, hvalue, hold⟩ := h
  obtain ⟨q, hq⟩ := Option.isSome_iff_exists.1 hswap
  have hkind : (isApprove i.action || isLp i.action) = false ∧ i.action.quote = some q := by
    unfold swapQuote at hq
    split at hq
    · cases hq
    · rename_i hno
      exact ⟨by simpa using hno, hq⟩
  have hexit : isLpExit i.action = false := by
    have hlp := (Bool.or_eq_false_iff.1 hkind.1).2
    unfold isLp isLpKind at hlp
    unfold isLpExit
    cases hk : i.action.kind <;> rw [hk] at hlp <;> first | rfl | cases hlp
  refine ⟨S, hsub, hnodup, ?_, fun s hs => ?_⟩
  · -- the floor is compared with the figure's own micros
    unfold liquidityChecks at hchecks
    obtain ⟨m, hm, hchecks⟩ := bind_ok.1 hchecks
    rw [hq, hdatum] at hchecks
    obtain ⟨observed, hobserved, hchecks⟩ := bind_ok.1 hchecks
    obtain ⟨value, hv, hsome⟩ := bind_ok.1 hobserved
    obtain rfl := pure_ok.1 hsome
    obtain rfl := pure_ok.1 hchecks
    rw [hmin] at hm
    obtain rfl := Except.ok.inj hm
    have hpass := hpassed _ (List.mem_append_left _ List.mem_cons_self)
    exact (of_decide_eq_true hpass).trans (hvalue value hv)
  · have hmem : freshnessCheck "freshness.liquidity" (some f) i.now i.policy.freshness.liquidityMaxAgeMs
        i.policy.freshness.maxClockSkewMs ∈ freshnessChecks i := by
      unfold freshnessChecks
      dsimp only
      rw [(Bool.or_eq_false_iff.1 hkind.1).1, hkind.2, hexit, hdatum]
      simp
    have hage := fresh_of_passed (hpassed _ (List.mem_append_right _ hmem))
    have hs := hold s hs
    omega

/-- The readings a figure is taken from. -/
def readingsOf (host : MarketHost) (cached : Option (List MarketSnapshot)) (answers : List (Option (List MarketSnapshot)))
    (chain : ChainId) (a b : String) : List MarketSnapshot :=
  matching host ((getPoolsForToken host cached answers chain a).toOption.getD []) a b

/-- **The reported figure is backed**, and so are the engine's checks of it, for a venue's market always, and for an
aggregator's in just the case that the readings, where all of them can be read, are uniform. -/
theorem liquidity_backed_iff {R : Type} (host : MarketHost) (cached : Option (List MarketSnapshot))
    (answers : List (Option (List MarketSnapshot))) (chain : ChainId) (a b : String) (quote : ExecutionQuote R) :
    (∀ f, liquidity host (getPoolsForToken host cached answers chain a) a b quote = some f →
      Backed host (readingsOf host cached answers chain a b) f ∧ Judged host (readingsOf host cached answers chain a b) f) ↔
    (isAggregator host quote.protocol = true → (∀ s ∈ readingsOf host cached answers chain a b, ∃ m, microsOf s = .ok m) →
      Uniform host (readingsOf host cached answers chain a b)) := by
  suffices h : (∀ f, liquidity host (getPoolsForToken host cached answers chain a) a b quote = some f →
      Backed host (readingsOf host cached answers chain a b) f) ↔
      (isAggregator host quote.protocol = true → (∀ s ∈ readingsOf host cached answers chain a b, ∃ m, microsOf s = .ok m) →
        Uniform host (readingsOf host cached answers chain a b)) by
    rw [← h]
    exact ⟨fun hb f hf => (hb f hf).1, fun hb f hf => ⟨hb f hf, (hb f hf).judged⟩⟩
  unfold readingsOf
  cases hp : getPoolsForToken host cached answers chain a with
  | error e =>
    constructor
    · intro _ _ _
      exact ⟨List.nodup_nil, fun s hs => absurd hs List.not_mem_nil⟩
    · intro _ f hf
      cases hf
  | ok pools =>
    show (∀ f, orNone (figureOf host (matching host pools a b) quote.protocol quote.marketId) = some f →
        Backed host (matching host pools a b) f) ↔
      (isAggregator host quote.protocol = true → (∀ s ∈ matching host pools a b, ∃ m, microsOf s = .ok m) →
        Uniform host (matching host pools a b))
    unfold figureOf
    by_cases hempty : matching host pools a b = []
    · rw [if_pos hempty, hempty]
      exact ⟨fun _ _ _ => ⟨List.nodup_nil, fun s hs => absurd hs List.not_mem_nil⟩, fun _ f hf => by cases hf⟩
    · rw [if_neg hempty]
      cases hagg : isAggregator host quote.protocol with
      | false =>
        rw [if_neg Bool.false_ne_true]
        exact ⟨fun _ h => absurd h Bool.false_ne_true, fun _ f hf => ofVenue_backed hf⟩
      | true =>
        rw [if_pos rfl]
        have hiff := @together_backed_iff host (matching host pools a b) quote.protocol
        constructor
        · intro h _ hread
          refine (hiff hread).1 fun f hf => h f ?_
          rw [hf]
          rfl
        · intro h f hf
          cases ht : together (matching host pools a b) quote.protocol with
          | error e =>
            rw [ht] at hf
            cases hf
          | ok figure =>
            obtain ⟨total, htotal, -⟩ := bind_ok.1 ht
            have hread := (total_ok.1 htotal).1
            refine (hiff hread).2 (h rfl hread) f ?_
            rw [ht] at hf
            rw [ht, show figure = some f from hf]

/-! ### A pool read twice -/

def pairHost : MarketHost := ⟨⟨id, asciiLower⟩, fun text => (usdToMicros text).toOption.getD 0⟩

/-- One provider's reading of the pool of `SOL` and `USDC`. -/
def pairReading (poolId source : String) (observedAt : Int) : MarketSnapshot :=
  { chain := .solana, poolId, dexId := some "orca", base := "sol", quote := "usdc", liquidityUsd := some "150000", observedAt
    source, unsigned := by rintro _ ⟨⟩; decide }

/-- Both providers report it, a minute apart. -/
def doubled : List (Option (List MarketSnapshot)) :=
  [some [pairReading "HJPjoWUrhoZzkNfRpHuieeFk9WcZWjwy6PBjZ81ngndJ" "dexscreener" 1700000060000],
   some [pairReading "hjpjoWUrhoZzkNfRpHuieeFk9WcZWjwy6PBjZ81ngndJ" "geckoterminal" 1700000000000]]

def routedQuote : ExecutionQuote Unit :=
  { chain := .solana, protocol := "jupiter-v6", contract := "jup", programIds := none, tokenIn := ⟨"sol", 9⟩
    tokenOut := ⟨"usdc", 6⟩, amountIn := "1", expectedAmountOut := "1", minAmountOut := "1", slippageBps := 50
    priceImpactBps := 0, quotedAt := 1700000060000, source := "jupiter", marketId := "sol:usdc"
    feeEstimate := ⟨1700000060000, .solana 1 0 "0" "0"⟩, routeData := none }

/-- **The pool's 150000 USD are reported as 300000**, as of the newer reading. -/
theorem doubled_not_backed : ¬ ∀ f, liquidity pairHost (getPoolsForToken pairHost none doubled .solana "sol") "sol" "usdc"
    routedQuote = some f → Backed pairHost (readingsOf pairHost none doubled .solana "sol" "usdc") f ∧
      Judged pairHost (readingsOf pairHost none doubled .solana "sol" "usdc") f := by
  intro h
  have hread : ∀ s ∈ readingsOf pairHost none doubled .solana "sol" "usdc", ∃ m, microsOf s = .ok m := by
    intro s hs
    have hall : ∀ s' ∈ readingsOf pairHost none doubled .solana "sol" "usdc", (microsOf s').isOk = true := by
      decide +kernel
    cases hm : microsOf s with
    | ok m => exact ⟨m, rfl⟩
    | error e =>
      have hok := hall s hs
      rw [hm] at hok
      cases hok
  have huniform : Uniform pairHost (readingsOf pairHost none doubled .solana "sol" "usdc") := by
    refine (@together_backed_iff _ _ "jupiter-v6" hread).1 fun f hf => (h f ?_).1
    show orNone (figureOf pairHost (readingsOf pairHost none doubled .solana "sol" "usdc") "jupiter-v6" "sol:usdc") = some f
    unfold figureOf
    rw [if_neg (by decide +kernel), if_pos (by decide +kernel), hf]
    rfl
  exact absurd huniform.distinct (by decide +kernel)

end Market
end Atra
