import Atra.Figures
import Atra.JsonText
import Atra.Registry
import Atra.Utf16
import Mathlib.Data.List.Sort
/-!
# Research — the evidence of the research agent, the prompt it becomes and the figures a model may cite

The market providers' payloads are mapped into snapshots, the snapshots into facts, the facts into the lines of a prompt.  A
figure is a printed number or a text that was checked to be one; every other text of a provider is flattened to one capped
line.  The figures of the measured facts, the facts' ages and small integers are what a statement of the model may contain.
-/
namespace Atra
namespace Research

open Js

def MAX_SYMBOL : Nat := 16
def MAX_DEX : Nat := 32
def MAX_ID : Nat := 64
def MAX_REASON : Nat := 200

/-- The keys of the facts that are figures. -/
def NUMERIC_FACT_KEYS : List String :=
  ["price.usd", "price.crossCheckDeviationBps", "pool.priceUsd", "liquidity.usd", "volume.24hUsd", "change.24hBps",
    "history.candles", "history.firstClose", "history.lastClose"]

structure ResearchRequest where
  chain : ChainId
  token : Option Text
  poolId : Option Text
  includeHistory : Bool

structure ResearchFact where
  key : String
  value : Text
  source : Text
  observedAt : Int
  ageMs : Nat
  stale : Bool

/-- What JavaScript makes of the numbers of a payload, and how the runtime compares prices. -/
structure Numbers (N : Type) where
  /-- `String(n)`. -/
  print : N → Text
  /-- `n.toFixed(6)`. -/
  toFixed6 : N → Text
  negative : N → Bool
  /-- `Math.round(n * 100)`. -/
  toBps : N → N
  /-- `Number(s)` of a plain decimal, if it is finite. -/
  parse : Text → Option N
  /-- `Number(a) <= Number(b)`. -/
  le : Text → Text → Bool
  /-- The largest deviation of several prices, and whether it is beyond the tolerance. -/
  maxDeviationBps : List Text → N
  disputed : N → Bool
  /-- Numbers are printed in ASCII. -/
  print_ascii : ∀ n, ∀ u ∈ print n, 32 < u ∧ u < 127
  toFixed6_ascii : ∀ n, ∀ u ∈ toFixed6 n, 32 < u ∧ u < 127

/-! ## Text of the providers -/

section
-- The code points of the Unicode category `C`: control and format characters, surrogates, private use, unassigned.
variable (isOther : Nat → Bool)

def codePoint (u v : Nat) : Nat := 0x10000 + (u - 0xD800) * 0x400 + (v - 0xDC00)

/-- `replace(/\p{C}/gu, ' ')`: a surrogate pair is one code point. -/
def replaceOther : Text → Text
  | [] => []
  | [u] => [if isOther u then 32 else u]
  | u :: v :: rest =>
    if isHigh u && isLow v then
      (if isOther (codePoint u v) then 32 :: replaceOther rest else u :: v :: replaceOther rest)
    else (if isOther u then 32 else u) :: replaceOther (v :: rest)

/-- `replace(/\s+/g, ' ')`. -/
def collapse : Text → Text
  | [] => []
  | u :: rest =>
    if isSpace u then
      (if rest.head?.any isSpace then collapse rest else 32 :: collapse rest)
    else u :: collapse rest

/-- Provider text on one line, and not longer than its cap. -/
def cleanText (value : Text) (max : Nat) : Text :=
  let flattened := trim (collapse (replaceOther isOther value))
  if max < flattened.length then flattened.take max ++ text "..." else flattened

end

/-! ## Payloads and snapshots -/

inductive MarketSource where
  | dexscreener | geckoterminal | cache
deriving DecidableEq, Repr

def MarketSource.name : MarketSource → String
  | .dexscreener => "dexscreener"
  | .geckoterminal => "geckoterminal"
  | .cache => "cache"

structure MarketSnapshot (N : Type) where
  poolId : Text
  dexId : Option Text
  baseSymbol : Option Text
  quoteSymbol : Option Text
  priceUsd : Option Text
  liquidityUsd : Option Text
  volume24hUsd : Option Text
  change24h : Option N
  observedAt : Int
  source : MarketSource

/-- `^\d+(\.\d+)?$`. -/
def isDecimalText (t : Text) : Bool :=
  !(t.takeWhile Reading.isDigitUnit).isEmpty && match t.dropWhile Reading.isDigitUnit with
    | [] => true
    | c :: frac => c == 46 && !frac.isEmpty && frac.all Reading.isDigitUnit

/-- A decimal text that is not zero. -/
def decimalOrNull (value : Option Text) : Option Text :=
  value.filter fun t => isDecimalText t && t.any fun u => 49 ≤ u && u ≤ 57

/-- `replace(/\.?0+$/, '')`. -/
def dropZeros (t : Text) : Text :=
  let kept := (t.reverse.dropWhile (· == 48)).reverse
  if kept.length = t.length then t else if kept.getLast? = some 46 then kept.dropLast else kept

section
variable {N : Type} (numbers : Numbers N)

def numberToDecimal (value : Option N) : Option Text :=
  (value.filter fun n => !numbers.negative n).map fun n =>
    let dropped := dropZeros (numbers.toFixed6 n)
    if dropped = [] then text "0" else dropped

/-- A row of DexScreener. -/
structure Pair (N : Type) where
  pairAddress : Text
  dexId : Option Text
  baseSymbol : Option Text
  quoteSymbol : Option Text
  priceUsd : Option Text
  liquidityUsd : Option N
  volume24h : Option N
  change24h : Option N

def Pair.toSnapshot (pair : Pair N) (fetchedAt : Int) : MarketSnapshot N where
  poolId := pair.pairAddress
  dexId := pair.dexId
  baseSymbol := pair.baseSymbol
  quoteSymbol := pair.quoteSymbol
  priceUsd := decimalOrNull pair.priceUsd
  liquidityUsd := numberToDecimal numbers pair.liquidityUsd
  volume24hUsd := numberToDecimal numbers pair.volume24h
  change24h := pair.change24h.map numbers.toBps
  observedAt := fetchedAt
  source := .dexscreener

/-- A row of GeckoTerminal. -/
structure Pool where
  name : Option Text
  address : Text
  dexId : Option Text
  priceUsd : Option Text
  reserveUsd : Option Text
  volume24h : Option Text
  change24h : Option Text

/-- `replace(/\s+[\d.]+%$/, '')`: a fee tier at the end. -/
def dropTier (t : Text) : Text :=
  match t.reverse with
  | 37 :: rest =>
    let figure := rest.takeWhile fun u => Reading.isDigitUnit u || u == 46
    let before := rest.dropWhile fun u => Reading.isDigitUnit u || u == 46
    if figure ≠ [] ∧ before.head?.any isSpace then (before.dropWhile isSpace).reverse else t
  | _ => t

def cleanSymbol (value : Option Text) : Option Text :=
  ((value.filter (· ≠ [])).map fun t => trim (dropTier t)).filter (· ≠ [])

def splitPairName (name : Option Text) : Option Text × Option Text :=
  match name.filter (· ≠ []) with
  | none => (none, none)
  | some name =>
    let parts := (name.splitOn 47).map trim
    (cleanSymbol parts[0]?, cleanSymbol parts[1]?)

/-- A signed plain decimal, in basis points. -/
def percentStringToBps (value : Option Text) : Option N :=
  value.bind fun t =>
    let trimmed := trim t
    if isDecimalText (if trimmed.head? = some 45 then trimmed.tail else trimmed) then (numbers.parse t).map numbers.toBps
    else none

def Pool.toSnapshot (pool : Pool) (fetchedAt : Int) : MarketSnapshot N where
  poolId := pool.address
  dexId := pool.dexId
  baseSymbol := (splitPairName pool.name).1
  quoteSymbol := (splitPairName pool.name).2
  priceUsd := decimalOrNull pool.priceUsd
  liquidityUsd := decimalOrNull pool.reserveUsd
  volume24hUsd := decimalOrNull pool.volume24h
  change24h := percentStringToBps numbers pool.change24h
  observedAt := fetchedAt
  source := .geckoterminal

/-- A provider's row as the market service hands it on: fetched at some time, and now or from the cache. -/
structure Row (N : Type) where
  payload : Pair N ⊕ Pool
  fetchedAt : Int
  cached : Bool

def Row.snapshot (row : Row N) : MarketSnapshot N :=
  let fetched := match row.payload with
    | .inl pair => pair.toSnapshot numbers row.fetchedAt
    | .inr pool => pool.toSnapshot numbers row.fetchedAt
  if row.cached then { fetched with source := .cache } else fetched

/-! ## The market service -/

structure CrossCheckedPrice (N : Type) where
  priceUsd : Option Text
  sources : List MarketSource
  deviationBps : Option N
  disputed : Bool
  reason : Option Text

/-- The middle one of the prices, as its provider wrote it. -/
def median (values : List Text) : Option Text :=
  (values.insertionSort fun a b => numbers.le a b = true)[(values.length - 1) / 2]?

/-- What the providers say a token costs: each in its own text, or nothing. -/
def crossCheckedPrice (answers : List (MarketSource × Option Text)) : CrossCheckedPrice N :=
  let observations := answers.filterMap fun answer => (decimalOrNull answer.2).map fun price => (answer.1, price)
  let prices := observations.map Prod.snd
  if observations = [] then ⟨none, [], none, false, some (text "no provider returned a price for this token")⟩
  else
    let deviation := if prices.length < 2 then none else some (numbers.maxDeviationBps prices)
    let disputed := deviation.any numbers.disputed
    ⟨median numbers prices, observations.map Prod.fst, deviation, disputed,
      if prices.length = 1 then some (text "only one provider returned a price; it could not be cross-checked")
      else if disputed then
        some (text "providers disagree by " ++ (deviation.map numbers.print).getD [] ++ text " bps")
      else none⟩

structure Candle (N : Type) where
  openedAt : Int
  close : N

structure OhlcvSeries (N : Type) where
  candles : List (Candle N)
  fetchedAt : Int

/-- What the market answers while evidence is gathered, and the times: `now key` is that of the fact, `asked key` the one the
fact is dated with where nothing else dates it. -/
structure World (N : Type) where
  pool : Except Text (Option (Row N))
  price : Except Text (List (MarketSource × Option Text))
  pricedAt : Int
  pools : Except Text (List (Row N))
  ohlcv : Except Text (Option (OhlcvSeries N))
  now : String → Int
  asked : String → Int

/-! ## Evidence -/

structure Evidence where
  facts : List ResearchFact
  staleInputs : List Text

section
variable (isOther : Nat → Bool) (maxAgeMs : Nat) (world : World N)

def World.fact (key : String) (value source : Text) (observedAt : Int) : ResearchFact :=
  let ageMs := (world.now key - observedAt).toNat
  ⟨key, value, source, observedAt, ageMs, decide (maxAgeMs < ageMs)⟩

/-- A fact for a text that is there and not empty. -/
def shown (value : Option Text) : Option Text := value.filter (· ≠ [])

def pairText (snapshot : MarketSnapshot N) : Option Text :=
  (shown snapshot.baseSymbol).bind fun base => (shown snapshot.quoteSymbol).map fun quote =>
    cleanText isOther base MAX_SYMBOL ++ text "/" ++ cleanText isOther quote MAX_SYMBOL

def poolFacts (snapshot : MarketSnapshot N) : List ResearchFact :=
  let fact key value := world.fact maxAgeMs key value (text snapshot.source.name) snapshot.observedAt
  [fact "pool.id" (cleanText isOther snapshot.poolId MAX_ID)] ++
    ((shown snapshot.dexId).map fun dex => fact "pool.dex" (cleanText isOther dex MAX_DEX)).toList ++
    ((pairText isOther snapshot).map (fact "pool.pair")).toList ++
    (snapshot.priceUsd.map (fact "pool.priceUsd")).toList ++
    (snapshot.liquidityUsd.map (fact "liquidity.usd")).toList ++
    (snapshot.volume24hUsd.map (fact "volume.24hUsd")).toList ++
    (snapshot.change24h.map fun change => fact "change.24hBps" (numbers.print change)).toList

def issue (what : Text) : Text := cleanText isOther what MAX_REASON

/-- The pool of the request, and what is said if there is none. -/
def requestedPool (request : ResearchRequest) : Option (MarketSnapshot N) × List Text :=
  match shown request.poolId with
  | none => (none, [])
  | some poolId => match world.pool with
    | .error e => (none, [issue isOther (text "pool lookup failed: " ++ e)])
    | .ok none => (none, [issue isOther (text "pool " ++ poolId ++ text " was not found by any provider")])
    | .ok (some row) => (some (row.snapshot numbers), [])

def joinSources (sources : List MarketSource) : Text := ((sources.map fun s => text s.name).intersperse (text "+")).flatten

def priceFacts (price : CrossCheckedPrice N) : List ResearchFact :=
  match price.priceUsd with
  | none => []
  | some priceUsd =>
    world.fact maxAgeMs "price.usd" priceUsd (joinSources price.sources)
        (if price.sources = [] then world.asked "price.usd" else world.pricedAt) ::
      (price.deviationBps.map fun deviation =>
        world.fact maxAgeMs "price.crossCheckDeviationBps" (numbers.print deviation) (text "atra")
          (world.asked "price.crossCheckDeviationBps")).toList

def priceIssues (price : CrossCheckedPrice N) : List Text :=
  match price.priceUsd with
  | none => [issue isOther (price.reason.getD (text "no provider returned a price"))]
  | some _ =>
    if price.disputed then [issue isOther (price.reason.getD (text "providers disagree about this price"))] else []

/-- The facts about the token's price, and what is said about it. -/
def pricing (request : ResearchRequest) : List ResearchFact × List Text :=
  match shown request.token with
  | none => ([], [])
  | some _ => match world.price with
    | .error e => ([], [issue isOther (text "price lookup failed: " ++ e)])
    | .ok answers =>
      let price := crossCheckedPrice numbers answers
      (priceFacts numbers maxAgeMs world price, priceIssues isOther price)

/-- The deepest pool of the token, where the request names no pool or that one was not found. -/
def discovered (request : ResearchRequest) (known : Option (MarketSnapshot N)) : Option (MarketSnapshot N) × List Text :=
  match shown request.token, known with
  | some _, none => match world.pools with
    | .error e => (none, [issue isOther (text "pool discovery failed: " ++ e)])
    | .ok rows => (rows.head?.map (Row.snapshot numbers), [])
  | _, _ => (none, [])

def historyFacts (series : OhlcvSeries N) : List ResearchFact :=
  match series.candles.head?, series.candles.getLast? with
  | some first, some last =>
    let source := text MarketSource.geckoterminal.name
    [world.fact maxAgeMs "history.candles" (text (toString series.candles.length)) source series.fetchedAt,
      world.fact maxAgeMs "history.firstClose" (numbers.print first.close) source first.openedAt,
      world.fact maxAgeMs "history.lastClose" (numbers.print last.close) source last.openedAt]
  | _, _ => []

def history (request : ResearchRequest) (pool : Option (MarketSnapshot N)) : List ResearchFact × List Text :=
  if request.includeHistory ∧ pool.isSome then match world.ohlcv with
    | .error e => ([], [issue isOther (text "history lookup failed: " ++ e)])
    | .ok series =>
      let facts := (series.map (historyFacts numbers maxAgeMs world)).getD []
      (facts, if facts = [] then [text "no historical candles were available for this pool"] else [])
  else ([], [])

/-- `Math.round(ageMs / 1000)`. -/
def ResearchFact.ageSeconds (fact : ResearchFact) : Nat := (fact.ageMs + 500) / 1000

def staleLine (fact : ResearchFact) : Text :=
  text fact.key ++ text " is " ++ text (toString fact.ageSeconds) ++ text "s old"

/-- The evidence for a request; every fact carries its source and age. -/
def gather (request : ResearchRequest) : Evidence :=
  let registry := [world.fact maxAgeMs "chain.id" (text request.chain.name) (text "registry") (world.asked "chain.id"),
    world.fact maxAgeMs "chain.nativeSymbol" (text (nativeSymbol request.chain)) (text "registry")
      (world.asked "chain.nativeSymbol")]
  let requested := requestedPool numbers isOther world request
  let priced := pricing numbers isOther maxAgeMs world request
  let found := discovered numbers isOther world request requested.1
  let past := history numbers isOther maxAgeMs world request (requested.1.or found.1)
  let facts := registry ++ (requested.1.map (poolFacts numbers isOther maxAgeMs world)).getD [] ++ priced.1 ++
    (found.1.map (poolFacts numbers isOther maxAgeMs world)).getD [] ++ past.1
  ⟨facts, requested.2 ++ priced.2 ++ found.2 ++ past.2 ++ (facts.filter (·.stale)).map staleLine⟩

end

end

/-! ## The prompt -/

def factLine (fact : ResearchFact) : Text :=
  text "- " ++ text fact.key ++ text " = " ++ fact.value ++ text " (source: " ++ fact.source ++ text ", " ++
    text (toString fact.ageSeconds) ++ text "s old" ++ (if fact.stale then text ", STALE" else []) ++ text ")"

/-- What stands above the facts: empty lines are left out. -/
def headerLines (request : ResearchRequest) : List Text :=
  [text "Chain: " ++ text request.chain.name] ++ ((shown request.token).map (text "Token: " ++ ·)).toList ++
    [text "EVIDENCE (every value below was observed by ATRA):"]

def issueLines (staleInputs : List Text) : List Text :=
  if staleInputs = [] then [] else [] :: text "MISSING OR UNRELIABLE:" :: staleInputs.map (text "- " ++ ·)

def closingLines : List Text :=
  [[], text ("Describe what this evidence shows. Use only the numbers above. If it is not enough to judge the market, " ++
    "say so.")]

def promptLines (request : ResearchRequest) (evidence : Evidence) : List Text :=
  headerLines request ++ evidence.facts.map factLine ++ issueLines evidence.staleInputs ++ closingLines

def renderEvidence (request : ResearchRequest) (evidence : Evidence) : Text :=
  ((promptLines request evidence).intersperse [10]).flatten

/-! ## The figures of a statement -/

def digitChars (t : Text) : List Char := t.map Char.ofNat

theorem digitChars_all {t : Text} (h : t.all Reading.isDigitUnit = true) : (digitChars t).all Char.isDigit = true := by
  unfold digitChars
  rw [List.all_map, List.all_eq_true]
  intro u hu
  have hunit := List.all_eq_true.1 h u hu
  simp only [Reading.isDigitUnit, Bool.and_eq_true, decide_eq_true_eq] at hunit
  have htoNat : (Char.ofNat u).toNat = u := ofNat_valid (.inl (by omega))
  show (Char.ofNat u).isDigit = true
  simp only [Char.isDigit, Bool.and_eq_true, decide_eq_true_eq]
  have hlow : 48 ≤ (Char.ofNat u).toNat := by omega
  have hhigh : (Char.ofNat u).toNat ≤ 57 := by omega
  exact ⟨hlow, hhigh⟩

theorem takeWhile_digits (t : Text) : (t.takeWhile Reading.isDigitUnit).all Reading.isDigitUnit = true :=
  List.all_eq_true.2 fun _ hu => List.mem_takeWhile_imp hu

/-- The digits behind a point, if there is one and they follow it. -/
def fracUnits (t : Text) : Text := if t.head? = some 46 then t.tail.takeWhile Reading.isDigitUnit else []

theorem fracUnits_digits (t : Text) : (fracUnits t).all Reading.isDigitUnit = true := by
  unfold fracUnits
  split
  · exact takeWhile_digits _
  · rfl

/-- `\d+(?:\.\d+)?` at the start of a text. -/
def runAt (t : Text) : Option (Figures.Run × Text) :=
  let whole := t.takeWhile Reading.isDigitUnit
  let rest := t.dropWhile Reading.isDigitUnit
  if hwhole : whole = [] then none
  else
    some (⟨digitChars whole, digitChars (fracUnits rest), digitChars_all (takeWhile_digits t),
        fun h => hwhole (List.map_eq_nil_iff.1 h), digitChars_all (fracUnits_digits rest)⟩,
      if fracUnits rest = [] then rest else rest.tail.dropWhile Reading.isDigitUnit)

/-- The matches of the search for figures. -/
def digitRuns (t : Text) : List Figures.Run := Figures.scan runAt t.length t

/-- The zeros at the end of a fraction are dropped, and the point if nothing is left behind it. -/
def normalizeNumber (value : List Char) : List Char :=
  if '.' ∈ value then
    let kept := Decimal.stripZeros value
    if kept.getLast? = some '.' then kept.dropLast else kept
  else value

def isNumeric (fact : ResearchFact) : Bool := NUMERIC_FACT_KEYS.contains fact.key

/-- Every figure of a measured fact, the facts' ages in seconds, and the integers up to 24. -/
def allowedNumbers (facts : List ResearchFact) : List (List Char) :=
  (facts.flatMap fun fact => normalizeNumber (Nat.toDigits 10 fact.ageSeconds) ::
    if isNumeric fact then (digitRuns fact.value).map fun run => normalizeNumber run.text else []) ++
  (List.range 25).map (Nat.toDigits 10)

structure Checked where
  text : Text
  invented : List (List Char)

def REMOVED : Text := text "[removed: this statement contained figures that were not in the evidence]"

/-- A statement with a figure that was not in the evidence is replaced. -/
def checkForInventedNumbers (statement : Text) (allowed : List (List Char)) : Checked :=
  let invented := ((digitRuns statement).map (·.text)).filter fun run => !allowed.contains (normalizeNumber run)
  if invented = [] then ⟨statement, []⟩ else ⟨REMOVED, invented⟩

end Research
end Atra
