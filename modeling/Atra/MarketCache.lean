import Atra.Delimited
import Atra.History
import Atra.Registry
import Atra.Table
import Mathlib.Algebra.Order.Ring.Rat
import Mathlib.Data.List.Basic
import Mathlib.Data.List.Sort
/-!
# MarketCache — what the market service answers from its cache

A call looks its key up, and asks the providers when nothing young enough is there; what they answered is stored under the key
when the last of them is through, whatever other calls did meanwhile.  The uncached answer for a pool prefers a reading with
a price, the cached one is the first reading stored: the two agree when the first reading has a price, or none has.
-/
namespace Atra
namespace MarketCache

open History Money

/-- A reading of a pool; `rest` is the pool, its tokens and the figures that are passed on as they are. -/
structure MarketSnapshot (R : Type) where
  priceUsd : Option String
  liquidityUsd : Option String
  observedAt : Int
  source : String
  freshnessMs : Int
  rest : R

variable {R : Type}

/-- What the service is constructed with, and what it takes from its host: lower-casing, `Number(text)` as it ranks pools,
and whether a provider lists a chain. -/
structure Deps where
  cacheTtlMs : Int
  host : Host
  number : String → ℚ
  covered : ChainId → Bool

def MAX_CACHE_ENTRIES : Nat := 500

structure CacheEntry (R : Type) where
  key : String
  snapshots : List (MarketSnapshot R)
  storedAt : Int

/-- The two calls that are cached: a token's pools, and one pool. -/
inductive Kind where
  | pools | pool
deriving DecidableEq, Repr

def Kind.name : Kind → String
  | .pools => "pools"
  | .pool => "pool"

structure Request where
  kind : Kind
  chain : ChainId
  /-- The token, or the pool. -/
  id : String

def keyOf (deps : Deps) (request : Request) : String :=
  request.kind.name ++ ":" ++ request.chain.name ++ ":" ++ deps.host.toLowerCase request.id

inductive Answer (R : Type) where
  | pools (snapshots : List (MarketSnapshot R))
  | pool (snapshot : Option (MarketSnapshot R))

theorem keyOf_inj {deps : Deps} {a b : Request} (h : keyOf deps a = keyOf deps b) :
    a.kind = b.kind ∧ a.chain = b.chain ∧ deps.host.toLowerCase a.id = deps.host.toLowerCase b.id := by
  have hkind : ∀ k : Kind, ':' ∉ k.name.toList := by
    intro k
    cases k <;> decide
  have hsplit : ∀ r : Request, keyOf deps r =
      r.kind.name ++ String.singleton ':' ++ (r.chain.name ++ String.singleton ':' ++ deps.host.toLowerCase r.id) := by
    intro r
    unfold keyOf
    simp only [String.append_assoc]
    rfl
  rw [hsplit, hsplit] at h
  obtain ⟨hk, hrest⟩ := Delimited.string_inj (hkind _) (hkind _) h
  obtain ⟨hc, hid⟩ := Delimited.string_inj a.chain.colon_notMem_name b.chain.colon_notMem_name hrest
  refine ⟨?_, ChainId.name_injective hc, hid⟩
  revert hk
  cases a.kind <;> cases b.kind <;> simp [Kind.name]

/-! ## The cache -/

def stamp (now : Int) (snapshot : MarketSnapshot R) : MarketSnapshot R :=
  { snapshot with freshnessMs := max (now - snapshot.observedAt) 0 }

/-- A reading as the cache gives it back: the observation with its age at the time. -/
def recached (now : Int) (snapshot : MarketSnapshot R) : MarketSnapshot R := stamp now { snapshot with source := "cache" }

/-- `#fromCache`, with the cache it leaves: an entry that is too old is dropped. -/
def fromCache (deps : Deps) (now : Int) (key : String) (cache : Table (CacheEntry.key (R := R))) :
    Option (List (MarketSnapshot R)) × Table (CacheEntry.key (R := R)) :=
  match cache.get key with
  | none => (none, cache)
  | some entry =>
    if deps.cacheTtlMs < now - entry.storedAt then (none, cache.delete key)
    else (some (entry.snapshots.map (recached now)), cache)

/-- A full cache gives up the entry that was inserted first. -/
def evict (cache : Table (CacheEntry.key (R := R))) : Table (CacheEntry.key (R := R)) :=
  if MAX_CACHE_ENTRIES ≤ cache.rows.length then (cache.rows.head?.map fun oldest => cache.delete oldest.key).getD cache
  else cache

def toCache (now : Int) (key : String) (snapshots : List (MarketSnapshot R)) (cache : Table (CacheEntry.key (R := R))) :
    Table (CacheEntry.key (R := R)) :=
  (evict cache).put ⟨key, snapshots, now⟩

/-! ## The calls -/

def rank (deps : Deps) (snapshot : MarketSnapshot R) : ℚ := snapshot.liquidityUsd.elim (-1) deps.number

/-- The readings of the providers that answered; none of them answering is an error. -/
def collect (answers : List (Option (List (MarketSnapshot R)))) (what : String) : Result (List (MarketSnapshot R)) :=
  if answers ≠ [] ∧ answers.all Option.isNone then throw ⟨.upstreamUnavailable, "Could not retrieve " ++ what⟩
  else pure (answers.flatMap fun answer => answer.getD [])

/-- The pools of a token, best liquidity first.  The sort reorders the very list that is stored. -/
def poolsForToken (deps : Deps) (now : Int) (request : Request) (answers : List (Option (List (MarketSnapshot R)))) :
    Result (List (MarketSnapshot R)) := do
  let snapshots ← collect answers ("pools for " ++ request.id ++ " on " ++ request.chain.name)
  return (snapshots.map (stamp now)).insertionSort fun x y => rank deps y ≤ rank deps x

/-- The readings of a pool: `none` is a provider that failed, `some none` one that does not know the pool. -/
def poolReadings (now : Int) (answers : List (Option (Option (MarketSnapshot R)))) : List (MarketSnapshot R) :=
  (answers.filterMap Option.join).map (stamp now)

/-- Prefer a reading that carries a price. -/
def preferred (snapshots : List (MarketSnapshot R)) : Option (MarketSnapshot R) :=
  ((snapshots.filter fun s => s.priceUsd.isSome).head?).or snapshots.head?

/-- The answer of a call that found its readings in the cache. -/
def cachedAnswer (kind : Kind) (snapshots : List (MarketSnapshot R)) : Answer R :=
  match kind with
  | .pools => .pools snapshots
  | .pool => .pool snapshots.head?

/-- The answer of a call that has just stored its readings. -/
def freshAnswer (kind : Kind) (snapshots : List (MarketSnapshot R)) : Answer R :=
  match kind with
  | .pools => .pools snapshots
  | .pool => .pool (preferred snapshots)

/-- A call that has returned, with what it stored. -/
structure Returned (R : Type) where
  request : Request
  now : Int
  answer : Result (Answer R)
  stored : Option (List (MarketSnapshot R))

/-- The service, the calls that wait for the providers, and the calls that have returned, the last first. -/
structure Service (R : Type) where
  cache : Table (CacheEntry.key (R := R))
  waiting : List Request
  returned : List (Returned R)

def newService : Service R := ⟨Table.empty, [], []⟩

/-- A call at a time, or the providers' answers to the `i`-th call that waits. -/
inductive Event (R : Type) where
  | call (request : Request) (now : Int)
  | poolsAnswered (i : Nat) (answers : List (Option (List (MarketSnapshot R)))) (now : Int)
  | poolAnswered (i : Nat) (answers : List (Option (Option (MarketSnapshot R)))) (now : Int)

def Service.returns (s : Service R) (request : Request) (now : Int) (answer : Result (Answer R)) : Service R :=
  { s with returned := ⟨request, now, answer, none⟩ :: s.returned }

def Service.stores (s : Service R) (deps : Deps) (request : Request) (now : Int) (snapshots : List (MarketSnapshot R)) :
    Service R :=
  { s with
    cache := toCache now (keyOf deps request) snapshots s.cache
    returned := ⟨request, now, .ok (freshAnswer request.kind snapshots), some snapshots⟩ :: s.returned }

def Service.called (s : Service R) (deps : Deps) (request : Request) (now : Int) : Service R :=
  match fromCache deps now (keyOf deps request) s.cache with
  | (some snapshots, cache) => { s with cache }.returns request now (.ok (cachedAnswer request.kind snapshots))
  | (none, cache) =>
    if deps.covered request.chain then { s with cache, waiting := s.waiting ++ [request] }
    else
      { s with cache }.returns request now
        (.error ⟨.adapterUnavailable, "No market-data provider covers " ++ request.chain.name⟩)

def Service.answeredPools (s : Service R) (deps : Deps) (now : Int) (answers : List (Option (List (MarketSnapshot R))))
    (request : Request) : Service R :=
  match poolsForToken deps now request answers with
  | .ok snapshots => s.stores deps request now snapshots
  | .error e => s.returns request now (.error e)

def Service.answeredPool (s : Service R) (deps : Deps) (now : Int) (answers : List (Option (Option (MarketSnapshot R))))
    (request : Request) : Service R :=
  match poolReadings now answers with
  | [] => s.returns request now (.ok (.pool none))
  | first :: others => s.stores deps request now (first :: others)

def step (deps : Deps) (s : Service R) : Event R → Service R
  | .call request now => s.called deps request now
  | .poolsAnswered i answers now =>
    match s.waiting[i]?.filter fun request => request.kind = .pools with
    | some request => { s with waiting := s.waiting.eraseIdx i }.answeredPools deps now answers request
    | none => s
  | .poolAnswered i answers now =>
    match s.waiting[i]?.filter fun request => request.kind = .pool with
    | some request => { s with waiting := s.waiting.eraseIdx i }.answeredPool deps now answers request
    | none => s

def servedFromCache (deps : Deps) (s : Service R) (request : Request) (now : Int) : Option (Answer R) :=
  (fromCache deps now (keyOf deps request) s.cache).1.map (cachedAnswer request.kind)

/-- The last call that stored readings under a key. -/
def lastFill (deps : Deps) (s : Service R) (key : String) : Option (Returned R) :=
  s.returned.find? fun r => r.stored.isSome && keyOf deps r.request = key

end MarketCache
end Atra
