import Atra.MarketCache
/-!
# MarketTruth — where a cached answer is the answer that filled the cache

Every entry is what the last call to store under its key stored, so an answer from the cache is never too old and never of
another call or chain.  It repeats that call's answer when the first reading stored is the one the call preferred, and it is
of the token or pool asked for when folding the case of its address has not made two of them one.
-/
namespace Atra
namespace MarketCache

open History

variable {R : Type} {deps : Deps}

/-! ## The cache's operations -/

theorem fromCache_some {now : Int} {key : String} {cache : Table (CacheEntry.key (R := R))}
    {snapshots : List (MarketSnapshot R)} (h : (fromCache deps now key cache).1 = some snapshots) :
    ∃ entry, cache.get key = some entry ∧ now - entry.storedAt ≤ deps.cacheTtlMs ∧
      snapshots = entry.snapshots.map (recached now) ∧ (fromCache deps now key cache).2 = cache := by
  unfold fromCache at h ⊢
  cases hget : cache.get key with
  | none =>
    rw [hget] at h
    cases h
  | some entry =>
    rw [hget] at h
    dsimp only at h ⊢
    by_cases hold : deps.cacheTtlMs < now - entry.storedAt
    · rw [if_pos hold] at h
      cases h
    · rw [if_neg hold] at h ⊢
      exact ⟨entry, rfl, not_lt.1 hold, (Option.some.inj h).symm, rfl⟩

theorem get_fromCache {now : Int} {key k : String} {cache : Table (CacheEntry.key (R := R))} {entry : CacheEntry R}
    (h : (fromCache deps now key cache).2.get k = some entry) : cache.get k = some entry := by
  unfold fromCache at h
  cases hget : cache.get key with
  | none =>
    rw [hget] at h
    exact h
  | some found =>
    rw [hget] at h
    dsimp only at h
    by_cases hold : deps.cacheTtlMs < now - found.storedAt
    · rw [if_pos hold, Table.get_delete] at h
      by_cases hk : k = key
      · rw [if_pos hk] at h
        cases h
      · rwa [if_neg hk] at h
    · rwa [if_neg hold] at h

theorem get_evict {k : String} {cache : Table (CacheEntry.key (R := R))} {entry : CacheEntry R}
    (h : (evict cache).get k = some entry) : cache.get k = some entry := by
  unfold evict at h
  by_cases hfull : MAX_CACHE_ENTRIES ≤ cache.rows.length
  · rw [if_pos hfull] at h
    cases hhead : cache.rows.head? with
    | none =>
      rw [hhead] at h
      exact h
    | some oldest =>
      rw [hhead, Option.map_some, Option.getD_some, Table.get_delete] at h
      by_cases hk : k = oldest.key
      · rw [if_pos hk] at h
        cases h
      · rwa [if_neg hk] at h
  · rwa [if_neg hfull] at h

/-- **What a store leaves at each key**: its own entry, or one that was there. -/
theorem get_toCache {now : Int} {key k : String} {snapshots : List (MarketSnapshot R)}
    {cache : Table (CacheEntry.key (R := R))} {entry : CacheEntry R}
    (h : (toCache now key snapshots cache).get k = some entry) :
    (k = key ∧ entry = ⟨key, snapshots, now⟩) ∨ (k ≠ key ∧ cache.get k = some entry) := by
  unfold toCache at h
  rw [Table.get_put] at h
  by_cases hk : k = key
  · rw [if_pos hk] at h
    exact .inl ⟨hk, (Option.some.inj h).symm⟩
  · rw [if_neg hk] at h
    exact .inr ⟨hk, get_evict h⟩

/-! ## Every entry has the call that filled it -/

/-- An entry is what a call stored, under its key and at its time, and answered with. -/
structure FilledBy (entry : CacheEntry R) (fill : Returned R) : Prop where
  stored : fill.stored = some entry.snapshots
  now : fill.now = entry.storedAt
  answer : fill.answer = .ok (freshAnswer fill.request.kind entry.snapshots)

/-- Every entry is what the last call to store under its key stored. -/
def Filled (deps : Deps) (s : Service R) : Prop :=
  ∀ key entry, s.cache.get key = some entry → ∃ fill, lastFill deps s key = some fill ∧ FilledBy entry fill

theorem lastFill_key {s : Service R} {key : String} {fill : Returned R} (h : lastFill deps s key = some fill) :
    keyOf deps fill.request = key := by
  have hfound := List.find?_some h
  simp only [Bool.and_eq_true, decide_eq_true_eq] at hfound
  exact hfound.2

variable {s : Service R} {request : Request} {now : Int}

theorem Filled.narrow (h : Filled deps s) {s' : Service R} (hreturned : s'.returned = s.returned)
    (hcache : ∀ key entry, s'.cache.get key = some entry → s.cache.get key = some entry) : Filled deps s' := by
  intro key entry hget
  obtain ⟨fill, hfill, hby⟩ := h key entry (hcache key entry hget)
  refine ⟨fill, ?_, hby⟩
  unfold lastFill at hfill ⊢
  rw [hreturned]
  exact hfill

theorem Filled.returns (h : Filled deps s) (answer : Result (Answer R)) : Filled deps (s.returns request now answer) := h

theorem Filled.stores (h : Filled deps s) (snapshots : List (MarketSnapshot R)) :
    Filled deps (s.stores deps request now snapshots) := by
  intro key entry hget
  unfold lastFill Service.stores
  rcases get_toCache hget with ⟨hk, rfl⟩ | ⟨hk, hget⟩
  · exact ⟨_, List.find?_cons_of_pos (by simp [hk]), rfl, rfl, rfl⟩
  · rw [List.find?_cons_of_neg (by simp [Ne.symm hk])]
    exact h key entry hget

theorem Filled.called (h : Filled deps s) : Filled deps (s.called deps request now) := by
  have hnarrow : ∀ waiting, Filled deps { s with cache := (fromCache deps now (keyOf deps request) s.cache).2, waiting } :=
    fun waiting => h.narrow rfl fun _ _ => get_fromCache
  unfold Service.called
  split
  case h_1 heq =>
    apply Filled.returns
    have hcache := hnarrow s.waiting
    rwa [heq] at hcache
  case h_2 heq =>
    have hcache := hnarrow
    rw [heq] at hcache
    by_cases hcovered : deps.covered request.chain = true
    · rw [if_pos hcovered]
      exact hcache _
    · rw [if_neg hcovered]
      exact (hcache s.waiting).returns _

theorem Filled.answeredPools (h : Filled deps s) (answers : List (Option (List (MarketSnapshot R)))) :
    Filled deps (s.answeredPools deps now answers request) := by
  unfold Service.answeredPools
  cases poolsForToken deps now request answers with
  | ok snapshots => exact h.stores _
  | error e => exact h.returns _

theorem Filled.answeredPool (h : Filled deps s) (answers : List (Option (Option (MarketSnapshot R)))) :
    Filled deps (s.answeredPool deps now answers request) := by
  unfold Service.answeredPool
  cases poolReadings now answers with
  | nil => exact h.returns _
  | cons first others => exact h.stores _

theorem Filled.step (h : Filled deps s) (e : Event R) : Filled deps (step deps s e) := by
  have hgone : ∀ waiting, Filled deps { s with waiting } := fun _ => h
  cases e with
  | call request now => exact h.called
  | poolsAnswered i answers now =>
    unfold MarketCache.step
    dsimp only
    cases s.waiting[i]?.filter fun request => request.kind = .pools with
    | none => exact h
    | some request => exact (hgone _).answeredPools answers
  | poolAnswered i answers now =>
    unfold MarketCache.step
    dsimp only
    cases s.waiting[i]?.filter fun request => request.kind = .pool with
    | none => exact h
    | some request => exact (hgone _).answeredPool answers

theorem filled (deps : Deps) (es : List (Event R)) : Filled deps (after (MarketCache.step deps) newService es) := by
  apply invariant
  · intro key entry hget
    cases hget
  · exact fun s e hs => hs.step e

/-! ## What an answer from the cache is -/

/-- A reading with a price comes first, where there is one. -/
def FirstPriced (snapshots : List (MarketSnapshot R)) : Prop :=
  (∃ x ∈ snapshots, x.priceUsd.isSome) → ∃ first ∈ snapshots.head?, first.priceUsd.isSome

/-- An answer with its readings given back by the cache. -/
def Answer.recached (now : Int) : Answer R → Answer R
  | .pools snapshots => .pools (snapshots.map (MarketCache.recached now))
  | .pool snapshot => .pool (snapshot.map (MarketCache.recached now))

theorem priceUsd_recached (now : Int) (x : MarketSnapshot R) : (recached now x).priceUsd = x.priceUsd := rfl

theorem recached_preferred {snapshots : List (MarketSnapshot R)} :
    snapshots.head?.map (recached now) = (preferred snapshots).map (recached now) ↔ FirstPriced snapshots := by
  unfold preferred FirstPriced
  constructor
  · rintro heq ⟨x, hx, hprice⟩
    have hmem : x ∈ snapshots.filter fun s => s.priceUsd.isSome := List.mem_filter.2 ⟨hx, hprice⟩
    cases hpriced : snapshots.filter fun s => s.priceUsd.isSome with
    | nil =>
      rw [hpriced] at hmem
      cases hmem
    | cons p others =>
      have hp : p.priceUsd.isSome = true :=
        (List.mem_filter.1 (hpriced ▸ List.mem_cons_self : p ∈ snapshots.filter fun s => s.priceUsd.isSome)).2
      rw [hpriced, List.head?_cons, Option.some_or, Option.map_some] at heq
      obtain ⟨first, hfirst, hsame⟩ := Option.map_eq_some_iff.1 heq
      refine ⟨first, hfirst, ?_⟩
      rwa [← priceUsd_recached now first, hsame]
  · intro hfirst
    by_cases hany : ∃ x ∈ snapshots, x.priceUsd.isSome
    · obtain ⟨first, hhead, hprice⟩ := hfirst hany
      cases snapshots with
      | nil => cases hhead
      | cons y ys =>
        obtain rfl := Option.some.inj hhead
        rw [List.filter_cons_of_pos (p := fun x : MarketSnapshot R => x.priceUsd.isSome) hprice]
        rfl
    · have hnone : (snapshots.filter fun s => s.priceUsd.isSome) = [] :=
        List.filter_eq_nil_iff.2 fun x hx hprice => hany ⟨x, hx, hprice⟩
      rw [hnone]
      rfl

theorem cachedAnswer_eq_iff {kind : Kind} {snapshots : List (MarketSnapshot R)} :
    cachedAnswer kind (snapshots.map (recached now)) = (freshAnswer kind snapshots).recached now ↔
      (kind = .pool → FirstPriced snapshots) := by
  cases kind with
  | pools => exact ⟨fun _ h => (by cases h), fun _ => rfl⟩
  | pool =>
    rw [← @recached_preferred R now, ← List.head?_map]
    exact ⟨fun h _ => Answer.pool.inj h, fun h => congrArg Answer.pool (h rfl)⟩

/-- Requests under one key are of one token or pool, unless the case of a Solana address tells them apart. -/
theorem canonicalize_eq_iff {a b : Request} (h : keyOf deps a = keyOf deps b) :
    canonicalizeAddress deps.host a.chain a.id = canonicalizeAddress deps.host b.chain b.id ↔
      (chainFamily b.chain = .solana → a.id = b.id) := by
  obtain ⟨-, hchain, hid⟩ := keyOf_inj h
  unfold canonicalizeAddress
  rw [hchain]
  cases chainFamily b.chain with
  | evm => exact ⟨fun _ h => (by cases h), fun _ => hid⟩
  | solana => exact ⟨fun h _ => h, fun h => h rfl⟩

theorem called_served {answer : Answer R} (h : servedFromCache deps s request now = some answer) :
    s.called deps request now = s.returns request now (.ok answer) := by
  unfold servedFromCache at h
  obtain ⟨snapshots, hserved, rfl⟩ := Option.map_eq_some_iff.1 h
  obtain ⟨-, -, -, -, hcache⟩ := fromCache_some hserved
  unfold Service.called
  split
  case h_1 heq =>
    rw [heq] at hserved hcache
    obtain rfl := Option.some.inj hserved
    dsimp only at hcache
    rw [hcache]
  case h_2 heq =>
    rw [heq] at hserved
    cases hserved

/-- **A call that is answered from the cache**, in any run: the last call that stored under its key was of the same kind and
chain, and its readings are no older than the time to live.  The answer repeats that call's, with the readings given back by
the cache, and is of the token or pool asked for, exactly when a priced reading was stored first, for a pool, and the two
calls name one address, on Solana. -/
theorem cache_transparent (deps : Deps) (es : List (Event R)) (request : Request) (now : Int) (answer : Answer R)
    (h : servedFromCache deps (after (MarketCache.step deps) newService es) request now = some answer) :
    ∃ fill answered, lastFill deps (after (MarketCache.step deps) newService es) (keyOf deps request) = some fill ∧
      fill.answer = .ok answered ∧ now - fill.now ≤ deps.cacheTtlMs ∧ fill.request.kind = request.kind ∧
      fill.request.chain = request.chain ∧
      (after (MarketCache.step deps) newService (es ++ [.call request now])).returned.head? =
        some ⟨request, now, .ok answer, none⟩ ∧
      ((answer = answered.recached now ∧ canonicalizeAddress deps.host fill.request.chain fill.request.id =
          canonicalizeAddress deps.host request.chain request.id) ↔
        (request.kind = .pool → FirstPriced (fill.stored.getD [])) ∧
          (chainFamily request.chain = .solana → fill.request.id = request.id)) := by
  have hcalled := called_served h
  unfold servedFromCache at h
  obtain ⟨snapshots, hserved, rfl⟩ := Option.map_eq_some_iff.1 h
  obtain ⟨entry, hget, hyoung, rfl, -⟩ := fromCache_some hserved
  obtain ⟨fill, hfill, hstored, hnow, hanswer⟩ := filled deps es _ _ hget
  have hkey := lastFill_key hfill
  obtain ⟨hkind, hchain, -⟩ := keyOf_inj hkey
  refine ⟨fill, _, hfill, hanswer, by rwa [hnow], hkind, hchain, ?_, ?_⟩
  · rw [after_snoc]
    show ((after (MarketCache.step deps) newService es).called deps request now).returned.head? = _
    rw [hcalled]
    rfl
  · rw [hkind, hstored, Option.getD_some]
    exact and_congr cachedAnswer_eq_iff (canonicalize_eq_iff hkey)

/-! ## Two runs -/

/-- A service on Base and Solana with the default time to live. -/
def sampleDeps : Deps := ⟨30000, ⟨id, asciiLower⟩, fun _ => 0, fun _ => true⟩

def reading (source : String) (priceUsd : Option String) : MarketSnapshot Unit := ⟨priceUsd, none, 0, source, 0, ()⟩

/-- A pool is asked for, and the first provider to be listed has no price for it. -/
def unpricedFirst : List (Event Unit) :=
  [.call ⟨.pool, .base, "0xb4"⟩ 1000,
    .poolAnswered 0 [some (some (reading "geckoterminal" none)), some (some (reading "dexscreener" (some "2.5")))] 1000]

/-- One Solana token's pools are asked for. -/
def oneMint : List (Event Unit) :=
  [.call ⟨.pools, .solana, "MintA"⟩ 1000, .poolsAnswered 0 [some [reading "dexscreener" (some "2.5")]] 1000]

theorem cache_transparent_pools : ∃ fill answered,
    lastFill sampleDeps (after (MarketCache.step sampleDeps) newService oneMint) "pools:solana:minta" = some fill ∧
      fill.answer = .ok answered ∧
        Answer.pools [recached 2000 (reading "dexscreener" (some "2.5"))] = answered.recached 2000 := by
  obtain ⟨fill, answered, hfill, hanswer, -, -, -, -, hiff⟩ := cache_transparent sampleDeps oneMint
    ⟨.pools, .solana, "MintA"⟩ 2000 (.pools [recached 2000 (reading "dexscreener" (some "2.5"))]) rfl
  refine ⟨fill, answered, hfill, hanswer, (hiff.2 ⟨fun h => (by cases h), fun _ => ?_⟩).1⟩
  have hfill' : lastFill sampleDeps (after (MarketCache.step sampleDeps) newService oneMint) "pools:solana:minta" =
      some fill := hfill
  obtain rfl := Option.some.inj hfill'
  rfl

/-- The price a pool was answered with is gone a second later, and a Solana token is answered with the pools of another. -/
theorem cached_loses_price :
    (∃ fill answered answer,
      lastFill sampleDeps (after (MarketCache.step sampleDeps) newService unpricedFirst) "pool:base:0xb4" = some fill ∧
      fill.answer = .ok answered ∧
      servedFromCache sampleDeps (after (MarketCache.step sampleDeps) newService unpricedFirst) ⟨.pool, .base, "0xb4"⟩ 2000 =
        some answer ∧ answer ≠ answered.recached 2000) ∧
      ∃ fill answer,
        lastFill sampleDeps (after (MarketCache.step sampleDeps) newService oneMint) "pools:solana:minta" = some fill ∧
        servedFromCache sampleDeps (after (MarketCache.step sampleDeps) newService oneMint) ⟨.pools, .solana, "mINTa"⟩ 2000 =
          some answer ∧
        canonicalizeAddress sampleDeps.host .solana fill.request.id ≠ canonicalizeAddress sampleDeps.host .solana "mINTa" := by
  refine ⟨⟨_, _, _, rfl, rfl, rfl, ?_⟩, _, _, rfl, rfl, by decide⟩
  intro heq
  have hprice := congrArg (fun x : Option (MarketSnapshot Unit) => x.bind (·.priceUsd)) (Answer.pool.inj heq)
  cases hprice

end MarketCache
end Atra
