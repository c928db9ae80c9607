import Atra.Exposure
import Atra.LpAccount
import Atra.OwnQuotes
/-!
# DeployedCap — the cap on deployed capital, over whole runs of both paper pipelines

The engine adds up what both ledgers have deployed where it judges an LP entry; the snapshot of a swap has no LP slice, so a
swap is judged on the trading ledger alone.  Each ledger therefore stays within the cap by itself, and the sum of both does
just where every swap that opens finds room beside both (`deployed_within`).
-/
namespace Atra
namespace DeployedCap

open Money LedgerService

/-! ## Cycles -/

/-- The clock readings of one cycle. -/
structure Times where
  proposed : Int
  decided : Int
  started : Int
  filled : Int

/-- One step of a run: a whole cycle of either pipeline, or whatever writes the positions of neither ledger. -/
inductive Cycle (R L : Type) where
  | swap (controls : Controls) (t : Times) (tradeId : String) (env : ProposalAnswers R) (request : ProposalRequest)
  | lp (controls : Controls) (t : Times) (tradeId : String) (env : LpProposalAnswers L) (request : LpProposalRequest)
  | elsewhere (other : Db)

/-- What a pipeline brings before the gate. -/
structure Proposal where
  action : ProposedAction
  snapshot : MarketSnapshot
  price : PriceLookup
  side : TradeSide
  route : TradeRoute

/-- A proposal comes before the gate: the tables an allowed one is executed on, or those the cycle ends with. -/
def judge (gate : RiskGate) (db : Db) (t : Times) (tradeId : String) (x : Proposal) : Except Db Db :=
  match TradeStore.propose db tradeId t.proposed x.action x.side x.route with
  | .error _ => .error db
  | .ok proposed =>
    match gate.decide proposed.1 t.decided x.action x.snapshot x.price with
    | .error _ => .error (RiskGate.pruneExpired proposed.1 t.decided)
    | .ok (decided, decision) =>
      match TradeStore.decide decided t.decided tradeId decision with
      | .error _ => .error decided
      | .ok (ready, _) => if decision.allowed then .ok ready else .error ready

section
variable {R L P : Type} (gate : RiskGate) (db : Db) (t : Times) (tradeId : String)

/-- What was built and allowed, with the tables it is executed on. -/
def allowed (built : Build P) (proposal : P → Proposal) : Except Db (P × Db) :=
  match built.run with
  | .ok (.ok p) => (judge gate db t tradeId (proposal p)).map fun ready => (p, ready)
  | _ => .error db

def swapProposal (p : BuiltProposal R) : Proposal := ⟨p.action, p.snapshot, p.priceLookup, p.side, ⟨false, none, none⟩⟩

def allowedSwap (env : ProposalAnswers R) (request : ProposalRequest) : Except Db (BuiltProposal R × Db) :=
  allowed gate db t tradeId (ProposalBuilder.build gate.host db env { request with mode := .PAPER }) swapProposal

def planRoute (pool : LpPoolState) : LpPlan L → TradeRoute
  | .remove quote _ => ⟨true, some pool.poolId, some quote.lpTokens⟩
  | _ => ⟨true, some pool.poolId, none⟩

def lpProposal (pool : LpPoolState) (p : BuiltLpProposal L) : Proposal :=
  ⟨p.action, p.snapshot, p.priceLookup, p.side, planRoute pool p.plan⟩

def allowedLp (env : LpProposalAnswers L) (request : LpProposalRequest) : Except Db (BuiltLpProposal L × Db) :=
  allowed gate db t tradeId (LpProposalBuilder.build gate.host db env { request with mode := .PAPER })
    (lpProposal request.pool)

def swapCycle (env : ProposalAnswers R) (request : ProposalRequest) : Db :=
  match allowedSwap gate db t tradeId env request with
  | .error rest => rest
  | .ok (p, ready) =>
    match PaperExecutor.execute ready t.started tradeId p.action p.quote p.prices t.filled with
    | .error _ => ready
    | .ok out => out.1

def fillPrices (p : BuiltLpProposal L) : LpFillPrices := ⟨p.token0Usd, p.token1Usd, p.nativeUsd⟩

def lpCycle (env : LpProposalAnswers L) (request : LpProposalRequest) : Db :=
  match allowedLp gate db t tradeId env request with
  | .error rest => rest
  | .ok (p, ready) =>
    match PaperLpExecutor.execute ready t.started tradeId p.action p.plan request.pool (fillPrices p) t.filled with
    | .error _ => ready
    | .ok out => out.1

/-- A run is under one policy; the operator's switches may be others in every cycle. -/
def step : Cycle R L → Db
  | .swap controls t tradeId env request => swapCycle { gate with controls } db t tradeId env request
  | .lp controls t tradeId env request => lpCycle { gate with controls } db t tradeId env request
  | .elsewhere other =>
    { other with positions := db.positions, lpPositions := db.lpPositions, lpRangePositions := db.lpRangePositions }

end

/-! ## Capital -/

/-- What both ledgers have deployed on paper, in micro-USD. -/
def deployed (host : Host) (db : Db) : Int :=
  LedgerService.deployedMicros host db .PAPER + LiquidityStore.deployedMicros db .PAPER

/-- What a fill adds to the capital of the trading ledger: what it pays into a position that counts, less the cost it releases
from one that does. -/
def added (host : Host) (db : Db) (input : RecordFillInput) : Int :=
  (if deploys host .PAPER (keyOut input) then paidBy input else 0) -
    if deploys host .PAPER (keyIn input) then releasedBy db input else 0

/-- The fill of a swap, but for what it receives, which has no part in its cost. -/
def spending {R : Type} (t : Times) (tradeId : String) (p : BuiltProposal R) : RecordFillInput :=
  PaperExecutor.fillInput tradeId p.action p.prices ⟨0, 0, 0⟩ t.filled

/-- The proposal of a swap cycle that ends in a fill. -/
def filledSwap {R : Type} (gate : RiskGate) (db : Db) (t : Times) (tradeId : String) (env : ProposalAnswers R)
    (request : ProposalRequest) : Option (BuiltProposal R) :=
  match allowedSwap gate db t tradeId env request with
  | .error _ => none
  | .ok (p, ready) =>
    match PaperExecutor.execute ready t.started tradeId p.action p.quote p.prices t.filled with
    | .error _ => none
    | .ok out => if out.2.status = .filled then some p else none

/-- The pool of an LP action is not one of its own tokens. -/
def PoolApart {R L : Type} : Cycle R L → Prop
  | .lp _ _ _ _ request =>
    request.pool.poolId ≠ request.pool.token0.address ∧ request.pool.poolId ≠ request.pool.token1.address
  | _ => True

/-! ## What a cycle leaves alone -/

section
variable {host : Host} {db db' : Db}

/-- The tables the deployed capital is read from. -/
def books (db : Db) : Table PositionRow.key × Table LpPositionRow.key × Table LpRangePositionRow.key :=
  (db.positions, db.lpPositions, db.lpRangePositions)

theorem books_iff : books db' = books db ↔ db'.positions = db.positions ∧ db'.lpPositions = db.lpPositions ∧
    db'.lpRangePositions = db.lpRangePositions := by
  unfold books
  rw [Prod.mk.injEq, Prod.mk.injEq]

theorem books_frame (h : TradeFrame db db') : books db' = books db := by
  obtain ⟨_, _, _, rfl⟩ := h
  rfl

theorem books_propose {id : String} {now : Int} {action : ProposedAction} {side : TradeSide} {route : TradeRoute}
    {out : Db × TradeRow} (h : TradeStore.propose db id now action side route = .ok out) : books out.1 = books db := by
  unfold TradeStore.propose at h
  split at h
  · cases h
  · split at h
    · cases h
    · obtain rfl := pure_ok.1 h
      rfl

theorem books_decide {gate : RiskGate} {now : Int} {action : ProposedAction} {snapshot : MarketSnapshot} {price : PriceLookup}
    {out : Db × RiskDecision} (h : gate.decide db now action snapshot price = .ok out) : books out.1 = books db := by
  obtain ⟨⟨_, _, hf⟩, -⟩ := RiskGate.decide_ok h
  rw [hf]
  rfl

theorem books_decided {now : Int} {tradeId : String} {decision : RiskDecision} {out : Db × TradeRow}
    (h : TradeStore.decide db now tradeId decision = .ok out) : books out.1 = books db := by
  unfold TradeStore.decide at h
  split at h
  · exact books_frame (transition_frame h)
  · exact books_frame (transition_frame h)

variable {gate : RiskGate} {t : Times} {tradeId : String}

/-- **What comes before an execution writes no position**, and an allowed action was allowed on the books as they are. -/
theorem judge_books {x : Proposal} : (∀ rest, judge gate db t tradeId x = .error rest → books rest = books db) ∧
    ∀ ready, judge gate db t tradeId x = .ok ready → books ready = books db ∧ ∃ proposed decided,
      books proposed = books db ∧ gate.decide proposed t.decided x.action x.snapshot x.price = .ok decided ∧
        decided.2.allowed = true := by
  unfold judge
  cases hp : TradeStore.propose db tradeId t.proposed x.action x.side x.route with
  | error e => exact ⟨fun rest h => by cases h; rfl, fun ready h => by cases h⟩
  | ok proposed =>
    have hproposed := books_propose hp
    dsimp only
    cases hd : gate.decide proposed.1 t.decided x.action x.snapshot x.price with
    | error e => exact ⟨fun rest h => by cases h; exact hproposed, fun ready h => by cases h⟩
    | ok decided =>
      have hdecided := (books_decide hd).trans hproposed
      dsimp only
      cases hr : TradeStore.decide decided.1 t.decided tradeId decided.2 with
      | error e => exact ⟨fun rest h => by cases h; exact hdecided, fun ready h => by cases h⟩
      | ok ready =>
        have hready := (books_decided hr).trans hdecided
        dsimp only
        split
        · rename_i ha
          refine ⟨fun rest h => (by cases h), fun ready h => ?_⟩
          cases h
          exact ⟨hready, _, _, hproposed, hd, ha⟩
        · exact ⟨fun rest h => by cases h; exact hready, fun ready h => by cases h⟩

theorem allowed_books {P : Type} {built : Build P} {proposal : P → Proposal} :
    (∀ rest, allowed gate db t tradeId built proposal = .error rest → books rest = books db) ∧
    ∀ p ready, allowed gate db t tradeId built proposal = .ok (p, ready) → books ready = books db ∧
      built.run = .ok (.ok p) ∧ ∃ proposed decided, books proposed = books db ∧
        gate.decide proposed t.decided (proposal p).action (proposal p).snapshot (proposal p).price = .ok decided ∧
          decided.2.allowed = true := by
  unfold allowed
  split
  · rename_i p hbuilt
    obtain ⟨hrest, hready⟩ := judge_books (t := t) (x := proposal p)
    cases hj : judge gate db t tradeId (proposal p) with
    | error rest => exact ⟨fun rest' h => by cases h; exact hrest _ hj, fun p' ready h => by cases h⟩
    | ok ready =>
      refine ⟨fun rest h => (by cases h), fun p' ready' h => ?_⟩
      cases h
      obtain ⟨hbooks, hjudged⟩ := hready _ hj
      exact ⟨hbooks, hbuilt, hjudged⟩
  · exact ⟨fun rest h => by cases h; rfl, fun p ready h => by cases h⟩

end

/-- The positions of both ledgers stand. -/
structure Stands (db : Db) : Prop where
  trading : LedgerService.Sound db
  lp : LiquidityStore.Sound db

section
variable {host : Host} {db db' : Db}

theorem deployed_of_books (host : Host) (h : books db' = books db) :
    LedgerService.deployedMicros host db' .PAPER = LedgerService.deployedMicros host db .PAPER ∧
      LiquidityStore.deployedMicros db' .PAPER = LiquidityStore.deployedMicros db .PAPER := by
  obtain ⟨hp, hl, hr⟩ := books_iff.1 h
  refine ⟨deployedMicros_congr hp, ?_⟩
  unfold LiquidityStore.deployedMicros LiquidityStore.listPositions LiquidityStore.listRangePositions
  rw [hl, hr]

theorem Stands.of_books (hs : Stands db) (h : books db' = books db) : Stands db' := by
  obtain ⟨hp, hl, -⟩ := books_iff.1 h
  refine ⟨?_, ?_⟩
  · unfold LedgerService.Sound
    rw [hp]
    exact hs.trading
  · unfold LiquidityStore.Sound
    rw [hl]
    exact hs.lp

/-! ## Swaps -/

theorem recordFill_lp {now : Int} {input : RecordFillInput} {out : Db × FillRow} (h : recordFill db now input = .ok out) :
    out.1.lpPositions = db.lpPositions ∧ out.1.lpRangePositions = db.lpRangePositions := by
  obtain ⟨f, paid, hp, hout, -⟩ := recordFill_ok h
  obtain ⟨_, rfl⟩ := payPaper_eq hp
  obtain ⟨_, hb⟩ : ∃ positions, f.bought (f.sold db) = { db with positions } := f.bought_eq
  rw [hout, hb]
  exact ⟨rfl, rfl⟩

/-- **A fill adds to the deployed capital** of the trading ledger alone. -/
theorem deployed_recordFill {now : Int} {input : RecordFillInput} {out : Db × FillRow} (hs : LedgerService.Sound db)
    (h : recordFill db now input = .ok out) :
    LedgerService.deployedMicros host out.1 .PAPER = LedgerService.deployedMicros host db .PAPER + added host db input ∧
      LiquidityStore.deployedMicros out.1 .PAPER = LiquidityStore.deployedMicros db .PAPER := by
  have hcost := costOver_recordFill (p := deploys host .PAPER) hs h
  obtain ⟨hl, hr⟩ := recordFill_lp h
  unfold added LiquidityStore.deployedMicros LiquidityStore.listPositions LiquidityStore.listRangePositions
  rw [deployedMicros_eq, deployedMicros_eq, hcost, hl, hr]
  exact ⟨by omega, rfl⟩

/-- What a fill adds is read off the books and off what it spends. -/
theorem added_of_books {R : Type} {t : Times} {tradeId : String} {p : BuiltProposal R} (fill : PaperExecutor.PaperFill)
    (h : books db' = books db) :
    added host db' (PaperExecutor.fillInput tradeId p.action p.prices fill t.filled) =
      added host db (spending t tradeId p) := by
  have hb : ∀ k, basisAt db' k = basisAt db k ∧ heldAt db' k = heldAt db k := by
    intro k
    unfold basisAt heldAt
    rw [(books_iff.1 h).1]
    exact ⟨rfl, rfl⟩
  unfold added releasedBy
  rw [(hb _).1, (hb _).2]
  rfl

/-- A fill adds no more than it pays. -/
theorem added_le {input : RecordFillInput} {now : Int} {out : Db × FillRow} (hs : LedgerService.Sound db)
    (h : recordFill db now input = .ok out) : added host db input ≤ paidBy input := by
  have hreleased := (recordFill_accounted hs h).released.1
  obtain ⟨f, -⟩ := recordFill_ok h
  have hpaid := f.paid_nonneg
  rw [← f.paid_eq] at hpaid
  unfold added
  split <;> split <;> omega

/-- A fill into a stablecoin adds nothing. -/
theorem added_into_stable {input : RecordFillInput} {now : Int} {out : Db × FillRow} (hs : LedgerService.Sound db)
    (h : recordFill db now input = .ok out) (hstable : isStablecoin host input.chain input.tokenOut.address = true) :
    added host db input ≤ 0 := by
  have hreleased := (recordFill_accounted hs h).released.1
  have hq : deploys host .PAPER (keyOut input) = false := by simp [deploys, keyOut, isQuote, hstable]
  unfold added
  rw [hq, if_neg (by simp)]
  split <;> omega

end

/-! ## A swap is judged on the trading ledger -/

theorem priceKey_inj {chain : ChainId} {a b : String} : priceKey chain a = priceKey chain b ↔ a = b := by
  unfold priceKey
  rw [String.append_right_inj]

/-- A record of the prices that were asked for has, at a token that was asked for, its price. -/
theorem recordOf_prices {chain : ChainId} {token : String} {prices : String → Option Stamped}
    (asked : List (String × Stamped)) (h : ∀ e ∈ asked, prices e.1 = some e.2) (ht : token ∈ asked.map (·.1)) :
    recordOf (asked.map fun e => (priceKey chain e.1, e.2)) (priceKey chain token) = prices token := by
  induction asked with
  | nil => cases ht
  | cons e rest ih =>
    unfold recordOf
    have hkey : (priceKey chain token == priceKey chain e.1) = (token == e.1) := by
      rw [Bool.eq_iff_iff, beq_iff_eq, beq_iff_eq, priceKey_inj]
    rw [List.map_cons, List.lookup_cons, hkey]
    cases he : token == e.1 with
    | true =>
      rw [eq_of_beq he]
      exact (h e (List.mem_cons_self ..)).symm
    | false =>
      have hrest := (List.mem_cons.1 ht).resolve_left fun h => by rw [h, beq_self_eq_true] at he; cases he
      exact ih (fun e' he' => h e' (List.mem_cons_of_mem _ he')) hrest

/-- **A swap that opens finds room on what the engine saw deployed** for its value, rounded up. -/
theorem swapValue_within {host : Host} {i : RiskInput} {r : Engine.Run host i} (h : r.AllClear) (hw : i.action.WellFormed)
    (hkind : i.action.kind = .swap) (hentry : i.action.reduceOnly = false) :
    ∃ deployed lpDeployed maxDeployed price, usdToMicros i.state.ledger.deployedUsd = .ok deployed ∧
      Engine.lpDeployed i = .ok lpDeployed ∧ usdToMicros i.policy.maxTotalDeployedUsd = .ok maxDeployed ∧
      Engine.usablePrice (Engine.priceIn i) = some price ∧
      deployed + lpDeployed + Rounding.up (r.amounts.amountIn * price) (usdUnit i.action.tokenIn.decimals) ≤ maxDeployed := by
  obtain ⟨hExit, hApp, hLp, -, hLpExit, hClaim, -⟩ := Engine.kind_flags hkind hentry
  obtain ⟨-, hV, -, -⟩ := Engine.deriveAmounts_ok.1 r.amounts_ok
  obtain ⟨price, hprice⟩ := Option.isSome_iff_exists.1 h.fresh.priceIn.2
  have hvalue := Engine.valueAt_ceil (by have := hw.tokenIn; omega) hV
  rw [hprice, Option.map_some] at hvalue
  obtain ⟨deployed, lpDeployed, maxDeployed, hD, hLD, hMaxD, hDepC⟩ := Engine.deployedChecks_clear r.deployed_ok
  obtain ⟨u, hu, huM⟩ := Engine.within_iff.1 (hDepC.1 h.deployed (by simp [hExit, hApp, hLpExit, hClaim]))
  simp only [Engine.deployedAddition, hLp, hvalue] at hu
  obtain rfl := Option.some.inj hu
  exact ⟨deployed, lpDeployed, maxDeployed, price, hD, hLD, hMaxD, hprice, huM⟩

section
variable {R : Type} {gate : RiskGate} {cap : Int} {db : Db} {t : Times} {tradeId : String} {env : ProposalAnswers R}
  {request : ProposalRequest} {p : BuiltProposal R} {ready : Db}

/-- What a swap built on paper shows the engine: the price it is filled at, and no LP slice. -/
structure ShowsSwap (p : BuiltProposal R) : Prop where
  kind : p.action.kind = .swap
  mode : p.action.mode = .PAPER
  price : ∃ s, p.snapshot.prices (priceKey p.action.chain p.action.tokenIn.address) = some s ∧ s.value = p.prices.tokenInUsd
  slice : p.snapshot.lp = none

theorem build_showsSwap {host : Host} (h : (ProposalBuilder.build host db env request).run = .ok (.ok p))
    (hmode : request.mode = .PAPER) : ShowsSwap p := by
  obtain ⟨tokenIn, tokenOut, prices, amountIn, quote, rfl, -, -, hin, hout, hnative, -⟩ := ProposalBuilder.build_ok h
  refine ⟨rfl, hmode, ⟨prices.tokenIn, ?_, rfl⟩, rfl⟩
  refine Eq.trans ?_ hin
  exact recordOf_prices [(ProposalBuilder.nativeAddress request.chain, prices.native),
    (tokenOut.address, prices.tokenOut), (tokenIn.address, prices.tokenIn)] (by simp [hin, hout, hnative])
    (.tail _ (.tail _ (.head _)))

/-- **An allowed entry finds room on the trading ledger** for what it pays. -/
theorem entry_within (gate : RiskGate) (hcap : usdToMicros gate.policy.maxTotalDeployedUsd = .ok cap)
    (h : allowedSwap gate db t tradeId env request = .ok (p, ready)) (hentry : p.action.reduceOnly = false) :
    LedgerService.deployedMicros gate.host db .PAPER + paidBy (spending t tradeId p) ≤ cap := by
  obtain ⟨-, hbuilt, proposed, decided, hproposed, hd, hallowed⟩ := allowed_books.2 _ _ h
  replace hd : gate.decide proposed t.decided p.action p.snapshot p.priceLookup = .ok decided := hd
  have hshows := build_showsSwap hbuilt rfl
  obtain ⟨ledger, hledger, hev⟩ := (RiskGate.decide_ok hd).2 hallowed
  obtain ⟨h0, r, hclear⟩ := Engine.allows_iff.1 ⟨_, hev, hallowed⟩
  have hw : p.action.WellFormed := h0.action.wellFormed
  obtain ⟨trading, slice, maxDeployed, price, htrading, hslice, hmax, hprice, hle⟩ :=
    swapValue_within hclear hw hshows.kind hentry
  obtain rfl := Except.ok.inj (hcap.symm.trans hmax)
  have hnone : slice = 0 := by
    unfold Engine.lpDeployed RiskGate.inputOf at hslice
    dsimp only at hslice
    rw [hshows.slice] at hslice
    exact (pure_ok.1 hslice).symm
  -- the trading ledger the engine read is the one that stands
  have hread : trading = LedgerService.deployedMicros gate.host db .PAPER := by
    replace htrading : usdToMicros ledger.2.deployedUsd = .ok trading := htrading
    rw [(toRiskLedger_ok hledger).1, usdToMicros_microsToUsd, hshows.mode] at htrading
    rw [← Except.ok.inj htrading]
    exact deployedMicros_congr (books_iff.1 hproposed).1
  -- the engine valued the amount the fill pays, at the price it is filled at
  have hpaid : paidBy (spending t tradeId p) ≤
      Rounding.up (r.amounts.amountIn * price) (usdUnit p.action.tokenIn.decimals) := by
    obtain ⟨hamount, -⟩ := Engine.deriveAmounts_ok.1 r.amounts_ok
    obtain ⟨s, hsnap, hatto, hpos⟩ := Engine.usablePrice_some hprice
    obtain ⟨s', hsnap', hvalue⟩ := hshows.price
    obtain rfl := Option.some.inj (hsnap.symm.trans hsnap')
    replace hamount : amountToBigint p.action.amountIn = .ok r.amounts.amountIn := hamount
    have hd36 : p.action.tokenIn.decimals ≤ 36 := by have := hw.tokenIn; omega
    have hpaid : paidBy (spending t tradeId p) =
        Rounding.down (r.amounts.amountIn * price) (usdUnit p.action.tokenIn.decimals) := by
      rw [hvalue] at hatto
      unfold paidBy spending PaperExecutor.fillInput
      rw [hamount, hatto]
      show (nativeToUsdMicros r.amounts.amountIn p.action.tokenIn.decimals price .floor).toOption.getD 0 = _
      rw [nativeToUsdMicros_floor hd36 hpos (amountToBigint_nonneg hamount)]
      rfl
    rw [hpaid]
    exact Rounding.down_le_up _ (usdUnit_pos _)
  replace hle : trading + slice + Rounding.up (r.amounts.amountIn * price) (usdUnit p.action.tokenIn.decimals) ≤ cap := hle
  omega

/-- What a cycle of the trade pipeline does to the books. -/
theorem swapCycle_cases (gate : RiskGate) (t : Times) (tradeId : String) (env : ProposalAnswers R) (request : ProposalRequest)
    (hs : Stands db) :
    (books (swapCycle gate db t tradeId env request) = books db ∧ filledSwap gate db t tradeId env request = none) ∨
    ∃ p ready, allowedSwap gate db t tradeId env request = .ok (p, ready) ∧
      filledSwap gate db t tradeId env request = some p ∧ Stands (swapCycle gate db t tradeId env request) ∧
      LedgerService.deployedMicros gate.host (swapCycle gate db t tradeId env request) .PAPER =
        LedgerService.deployedMicros gate.host db .PAPER + added gate.host db (spending t tradeId p) ∧
      LiquidityStore.deployedMicros (swapCycle gate db t tradeId env request) .PAPER =
        LiquidityStore.deployedMicros db .PAPER ∧
      added gate.host db (spending t tradeId p) ≤ (if p.action.reduceOnly then 0 else paidBy (spending t tradeId p)) := by
  unfold swapCycle filledSwap
  cases ha : allowedSwap gate db t tradeId env request with
  | error rest => exact .inl ⟨allowed_books.1 _ ha, rfl⟩
  | ok x =>
    obtain ⟨p, ready⟩ := x
    obtain ⟨hready, hbuilt, proposed, decided, hproposed, hd, hallowed⟩ := allowed_books.2 _ _ ha
    have hkind := (build_showsSwap hbuilt rfl).kind
    dsimp only
    cases hx : PaperExecutor.execute ready t.started tradeId p.action p.quote p.prices t.filled with
    | error e => exact .inl ⟨hready, rfl⟩
    | ok out =>
      dsimp only
      rcases PaperExecutor.execute_ok hx with ⟨hf, hfail⟩ | ⟨hfilled, started, fill, booked, hstarted, hb, hout⟩
      · rw [hfail]
        exact .inl ⟨(books_frame hf).trans hready, rfl⟩
      · have hbooks : books started = books db := (books_frame hstarted).trans hready
        have hstands := hs.of_books hbooks
        have hlp := recordFill_lp hb
        have hsound : Stands booked.1 := by
          refine ⟨recordFill_sound hstands.trading hb, ?_⟩
          unfold LiquidityStore.Sound
          rw [hlp.1]
          exact hstands.lp
        rw [if_pos hfilled]
        obtain ⟨hdeployed, hslice⟩ := deployed_of_books gate.host (books_frame hout)
        obtain ⟨hbefore, hsliceBefore⟩ := deployed_of_books gate.host hbooks
        obtain ⟨hadded, hsliceAdded⟩ := deployed_recordFill hstands.trading hb
        refine .inr ⟨p, ready, rfl, rfl, hsound.of_books (books_frame hout), ?_, ?_, ?_⟩
        · rw [hdeployed, hadded, hbefore, added_of_books fill hbooks]
        · rw [hslice, hsliceAdded, hsliceBefore]
        · rw [← added_of_books fill hbooks]
          split
          · rename_i hexit
            obtain ⟨-, hstable, -⟩ := PaperExecutor.exit_judged hkind hexit hd hallowed
            exact added_into_stable hstands.trading hb hstable
          · exact added_le hstands.trading hb

end

/-! ## LP actions -/

section
variable {db db' : Db} {now filledAt feeUsd : Int} {tradeId : String} {action : ProposedAction} {pool : LpPoolState}

/-- The LP slice counts the cost of the v2 positions of the mode, and of its open range positions. -/
theorem lpDeployed_eq (db : Db) (mode : Mode) : LiquidityStore.deployedMicros db mode = LpAccount.openCapital mode db +
    ((LiquidityStore.listRangePositions db mode).map (·.capitalUsd)).sum := by
  unfold LiquidityStore.deployedMicros LiquidityStore.listPositions LpAccount.openCapital LiquidityStore.capitalOver
    Table.totalOver
  rw [Table.sum_sorted_filter]
  congr 2
  funext r
  by_cases hm : r.mode = mode
  · simp [LpPositionRow.key, hm]
  · simp [LpPositionRow.key, hm]

/-- What a change of the v2 positions alone does to the deployed capital. -/
theorem deployed_lpPositions {change : Int} (host : Host) (hp : db'.positions = db.positions)
    (hr : db'.lpRangePositions = db.lpRangePositions)
    (hc : LpAccount.openCapital .PAPER db' = LpAccount.openCapital .PAPER db + change) :
    deployed host db' = deployed host db + change := by
  unfold deployed
  rw [deployedMicros_congr hp, lpDeployed_eq, lpDeployed_eq, hc]
  unfold LiquidityStore.listRangePositions
  rw [hr]
  omega

/-- **A paper add deploys its capital.** -/
theorem writeAdd_deployed {add : PaperLpExecutor.PaperAdd} (host : Host)
    (h : PaperLpExecutor.writeAdd db now tradeId action pool add feeUsd filledAt = .ok db') :
    deployed host db' = deployed host db + add.capital := by
  have hpos := PaperWallet.writeAdd_positions h
  unfold PaperLpExecutor.writeAdd PaperLpExecutor.adjustPaper at h
  simp only [bind_ok, pure_ok] at h
  obtain ⟨spent0, hs0, spent1, hs1, booked, hb, rfl⟩ := h
  obtain ⟨-, rfl⟩ := adjustPaperBalance_ok.1 hs0
  obtain ⟨-, rfl⟩ := adjustPaperBalance_ok.1 hs1
  have hcap := LiquidityStore.capitalOver_bookAdd (p := fun k => k.1 = .PAPER) hb (usdToMicros_microsToUsd add.capital)
  obtain ⟨_, _, he⟩ := LiquidityStore.bookAdd_eq hb
  have hranges : booked.1.lpRangePositions = db.lpRangePositions := by
    rw [he]
    rfl
  exact deployed_lpPositions host hpos hranges hcap

/-- **A paper removal deploys nothing more.** -/
theorem writeRemove_deployed {remove : PaperLpExecutor.PaperRemove} (host : Host) (hs : LiquidityStore.Sound db)
    (h : PaperLpExecutor.writeRemove db now tradeId action pool remove feeUsd filledAt = .ok db') :
    db'.positions = db.positions ∧ deployed host db' ≤ deployed host db := by
  unfold PaperLpExecutor.writeRemove PaperLpExecutor.adjustPaper at h
  simp only [bind_ok, pure_ok] at h
  obtain ⟨removed, hr, credited0, hc0, credited1, hc1, rfl⟩ := h
  obtain ⟨-, rfl⟩ := adjustPaperBalance_ok.1 hc0
  obtain ⟨-, rfl⟩ := adjustPaperBalance_ok.1 hc1
  have hcap := LiquidityStore.capitalOver_bookRemove (p := fun k => k.1 = .PAPER) hs hr
  have hreleased := (LiquidityStore.released_bounds hs hr).1
  obtain ⟨_, he⟩ := LiquidityStore.bookRemove_eq hr
  have hpos : removed.1.positions = db.positions := by
    rw [he]
  have hranges : removed.1.lpRangePositions = db.lpRangePositions := by
    rw [he]
  refine ⟨hpos, ?_⟩
  have hchange := deployed_lpPositions host hpos hranges hcap
  show deployed host removed.1 ≤ _
  omega

end

/-! ## An LP entry is judged on both ledgers -/

section
variable {L : Type} {gate : RiskGate} {cap : Int} {db : Db} {t : Times} {tradeId : String} {env : LpProposalAnswers L}
  {request : LpProposalRequest} {p : BuiltLpProposal L} {ready : Db}

theorem priceMarket_ok {market : LpProposalBuilder.Market}
    (h : (LpProposalBuilder.priceMarket request).run = .ok (.ok market)) :
    request.prices request.pool.token0.address = some market.price0 ∧
      request.prices request.pool.token1.address = some market.price1 ∧
      request.prices (ProposalBuilder.nativeAddress request.chain) = some market.native := by
  unfold LpProposalBuilder.priceMarket at h
  simp only [built_bind, built_lift] at h
  obtain ⟨price0, h0, price1, h1, native, hn, atto0, -, atto1, -, h⟩ := h
  split at h
  · exact absurd h not_built_refuse
  · simp only [built_bind, built_lift, built_pure] at h
    obtain ⟨tvl, -, rfl⟩ := h
    exact ⟨ProposalBuilder.pricedToken_ok h0, ProposalBuilder.pricedToken_ok h1, ProposalBuilder.pricedToken_ok hn⟩

/-- **The snapshot of an LP action carries the prices it was asked for**, at every address but the pool's. -/
theorem snapshot_price {host : Host} {market : LpProposalBuilder.Market} {lpPrice stamp : Stamped} {lpState : LpSnapshot}
    {token : String} (h : (LpProposalBuilder.priceMarket request).run = .ok (.ok market)) (hpool : request.pool.poolId ≠ token)
    (ht : token = request.pool.token0.address ∨ token = request.pool.token1.address)
    (hp : request.prices token = some stamp) :
    (LpProposalBuilder.snapshotOf host db env request market lpPrice lpState).prices (priceKey request.chain token) =
      some stamp := by
  obtain ⟨h0, h1, hn⟩ := priceMarket_ok h
  unfold LpProposalBuilder.snapshotOf recordOf
  dsimp only
  have hkey : ∀ a b, (priceKey request.chain a == priceKey request.chain b) = (a == b) := by
    intro a b
    rw [Bool.eq_iff_iff, beq_iff_eq, beq_iff_eq, priceKey_inj]
  simp only [List.lookup_cons, hkey]
  split
  · rename_i hq
    exact absurd (eq_of_beq hq).symm hpool
  · split
    · rename_i hq
      rw [eq_of_beq hq] at hp
      exact hn.symm.trans hp
    · split
      · rename_i hq
        rw [eq_of_beq hq] at hp
        exact h1.symm.trans hp
      · rename_i hne
        obtain rfl := ht.resolve_right (by simpa using hne)
        rw [beq_self_eq_true]
        exact h0.symm.trans hp

/-- **A paper add costs** its two amounts at the two prices, each rounded up. -/
theorem paperAdd_capital {quote : LpAddQuote L} {pool : LpPoolState} {prices : LpFillPrices} {add : PaperLpExecutor.PaperAdd}
    (h : PaperLpExecutor.paperAdd quote pool prices = .ok add) : ∃ amount0 amount1 price0 price1,
      amountToBigint quote.amount0 = .ok amount0 ∧ amountToBigint quote.amount1 = .ok amount1 ∧
      priceToAtto prices.token0Usd = .ok price0 ∧ priceToAtto prices.token1Usd = .ok price1 ∧ add.capital =
        Rounding.up (amount0 * price0) (usdUnit pool.token0.decimals) +
          Rounding.up (amount1 * price1) (usdUnit pool.token1.decimals) := by
  unfold PaperLpExecutor.paperAdd at h
  simp only [bind_ok] at h
  obtain ⟨amount0, h0, amount1, h1, _, -, _, -, _, -, h⟩ := h
  split at h
  · cases h
  · simp only [bind_ok] at h
    obtain ⟨_, -, h⟩ := h
    split at h
    · cases h
    · simp only [bind_ok, pure_ok] at h
      obtain ⟨capital, hc, rfl⟩ := h
      unfold PaperLpExecutor.bothSides at hc
      simp only [bind_ok, pure_ok] at hc
      obtain ⟨price0, hp0, value0, hv0, price1, hp1, value1, hv1, rfl⟩ := hc
      obtain ⟨hd0, hpos0⟩ := nativeToUsdMicros_guards hv0
      obtain ⟨hd1, hpos1⟩ := nativeToUsdMicros_guards hv1
      rw [nativeToUsdMicros_ceil hd0 hpos0] at hv0
      rw [nativeToUsdMicros_ceil hd1 hpos1] at hv1
      exact ⟨amount0, amount1, price0, price1, h0, h1, hp0, hp1,
        congrArg₂ (· + ·) (Except.ok.inj hv0).symm (Except.ok.inj hv1).symm⟩

/-- What an add built on paper shows the engine: the amounts of its quote, the two prices it is filled at, and the LP slice of
the ledger. -/
structure ShowsAdd (db : Db) (now : Int) (pool : LpPoolState) (p : BuiltLpProposal L) (quote : LpAddQuote L) : Prop where
  kind : p.action.kind = .lp_add
  mode : p.action.mode = .PAPER
  amountIn : p.action.amountIn = quote.amount0
  amountB : ∃ lp, p.action.lp = some lp ∧ lp.amountB = some quote.amount1
  decimals : p.action.tokenIn.decimals = pool.token0.decimals ∧ p.action.tokenOut.decimals = pool.token1.decimals
  price0 : ∃ s, p.snapshot.prices (priceKey p.action.chain p.action.tokenIn.address) = some s ∧ s.value = p.token0Usd
  price1 : ∃ s, p.snapshot.prices (priceKey p.action.chain p.action.tokenOut.address) = some s ∧ s.value = p.token1Usd
  slice : p.snapshot.lp = some (LiquidityStore.toRiskSnapshot db .PAPER now)

theorem build_shows {host : Host} {quote : LpAddQuote L}
    (h : (LpProposalBuilder.build host db env request).run = .ok (.ok p)) (hplan : p.plan = .add quote)
    (hmode : request.mode = .PAPER) (hpool0 : request.pool.poolId ≠ request.pool.token0.address)
    (hpool1 : request.pool.poolId ≠ request.pool.token1.address) : ShowsAdd db env.now request.pool p quote := by
  obtain ⟨market, planned, lpPriceAtto, lpState, hplanOf, rfl, -, hmarket, -, hstate⟩ := LpProposalBuilder.build_ok h
  obtain ⟨h0, h1, -⟩ := priceMarket_ok hmarket
  have hslice : lpState = LiquidityStore.toRiskSnapshot db .PAPER env.now := by
    unfold LpProposalBuilder.lpSnapshot at hstate
    rw [hmode, if_neg (by decide)] at hstate
    exact (pure_ok.1 hstate).symm
  rcases LpProposalBuilder.planOf_ok hplanOf with ha | hr | hc
  · obtain ⟨desired0, desired1, quote', committed, -, -, rfl⟩ := LpProposalBuilder.planAdd_ok ha
    cases hplan
    exact ⟨rfl, hmode, rfl, ⟨_, rfl, rfl⟩, ⟨rfl, rfl⟩, ⟨_, snapshot_price hmarket hpool0 (.inl rfl) h0, rfl⟩,
      ⟨_, snapshot_price hmarket hpool1 (.inr rfl) h1, rfl⟩, congrArg some hslice⟩
  · obtain ⟨held, closes, quote', -, -, -, -, rfl⟩ := LpProposalBuilder.planRemove_ok hr
    cases hplan
  · obtain ⟨claimable, plan, rfl⟩ := LpProposalBuilder.planClaim_ok hc
    cases hplan

section
variable {now : Int} {pool : LpPoolState} {quote : LpAddQuote L} {i : RiskInput}

theorem ShowsAdd.lpDeployed (hs : ShowsAdd db now pool p quote) (hi : i.snapshot = p.snapshot) :
    Engine.lpDeployed i = .ok (LiquidityStore.deployedMicros db .PAPER) := by
  unfold Engine.lpDeployed
  rw [hi, hs.slice]
  exact usdToMicros_microsToUsd _

/-- **The engine judges an add by what it costs**: it reads the same amounts at the same prices. -/
theorem ShowsAdd.entryCapital {host : Host} {r : Engine.Run host i} {add : PaperLpExecutor.PaperAdd}
    (hs : ShowsAdd db now pool p quote) (ha : i.action = p.action) (hi : i.snapshot = p.snapshot) (hclear : r.AllClear)
    (hw : i.action.WellFormed) (hadd : PaperLpExecutor.paperAdd quote pool (fillPrices p) = .ok add) :
    r.entryCapital = some add.capital := by
  obtain ⟨lp, hlp, hB⟩ := hs.amountB
  obtain ⟨text, amountB, priceA, priceB, htext, hamountB, hpriceA, hpriceB, hentry⟩ :=
    Engine.entryCapital_eq hclear hw (.inl (by rw [ha]; exact hs.kind)) (by rw [ha]; exact hlp)
  obtain ⟨amount0, amount1, price0, price1, h0, h1, hp0, hp1, hcapital⟩ := paperAdd_capital hadd
  obtain ⟨hamountIn, -⟩ := Engine.deriveAmounts_ok.1 r.amounts_ok
  have hamount0 : r.amounts.amountIn = amount0 := by
    rw [ha, hs.amountIn, h0] at hamountIn
    exact (Except.ok.inj hamountIn).symm
  have hamount1 : amountB = amount1 := by
    obtain rfl := Option.some.inj (hB.symm.trans htext)
    exact Except.ok.inj (hamountB.symm.trans h1)
  have hprice0 : priceA = price0 := by
    obtain ⟨s, hsnap, hatto, -⟩ := Engine.usablePrice_some hpriceA
    obtain ⟨s', hsnap', hvalue⟩ := hs.price0
    unfold Engine.priceIn at hsnap
    rw [ha, hi, hsnap'] at hsnap
    obtain rfl := Option.some.inj hsnap
    rw [hvalue] at hatto
    exact Except.ok.inj (hatto.symm.trans hp0)
  have hprice1 : priceB = price1 := by
    obtain ⟨s, hsnap, hatto, -⟩ := Engine.usablePrice_some hpriceB
    obtain ⟨s', hsnap', hvalue⟩ := hs.price1
    unfold Engine.priceOut at hsnap
    rw [ha, hi, hsnap'] at hsnap
    obtain rfl := Option.some.inj hsnap
    rw [hvalue] at hatto
    exact Except.ok.inj (hatto.symm.trans hp1)
  rw [hentry, hcapital, hamount0, hamount1, hprice0, hprice1, ha, hs.decimals.1, hs.decimals.2]

end

/-- **An allowed entry finds room beside both ledgers** for what it is filled at. -/
theorem allowedLp_room {quote : LpAddQuote L} {add : PaperLpExecutor.PaperAdd}
    (hcap : usdToMicros gate.policy.maxTotalDeployedUsd = .ok cap)
    (hpool0 : request.pool.poolId ≠ request.pool.token0.address) (hpool1 : request.pool.poolId ≠ request.pool.token1.address)
    (h : allowedLp gate db t tradeId env request = .ok (p, ready)) (hplan : p.plan = .add quote)
    (hadd : PaperLpExecutor.paperAdd quote request.pool (fillPrices p) = .ok add) :
    deployed gate.host db + add.capital ≤ cap := by
  obtain ⟨-, hbuilt, proposed, decided, hproposed, hd, hallowed⟩ := allowed_books.2 _ _ h
  replace hd : gate.decide proposed t.decided p.action p.snapshot p.priceLookup = .ok decided := hd
  have hshows := build_shows hbuilt hplan rfl
  dsimp only at hshows
  replace hshows := hshows hpool0 hpool1
  obtain ⟨ledger, hledger, hev⟩ := (RiskGate.decide_ok hd).2 hallowed
  obtain ⟨h0, r, hclear⟩ := Engine.allows_iff.1 ⟨_, hev, hallowed⟩
  have hentry := hshows.entryCapital rfl rfl hclear h0.action.wellFormed hadd
  obtain ⟨trading, slice, maxDeployed, capital, htrading, hslice, hmax, hcapital, hle⟩ :=
    Engine.entryCapital_within hclear (.inl hshows.kind)
  obtain rfl := Except.ok.inj (hcap.symm.trans hmax)
  obtain rfl := Except.ok.inj (hslice.symm.trans (hshows.lpDeployed rfl))
  obtain rfl := Option.some.inj (hcapital.symm.trans hentry)
  -- the trading ledger the engine read is the one that stands
  have hread : trading = LedgerService.deployedMicros gate.host db .PAPER := by
    replace htrading : usdToMicros ledger.2.deployedUsd = .ok trading := htrading
    rw [(toRiskLedger_ok hledger).1, usdToMicros_microsToUsd, hshows.mode] at htrading
    rw [← Except.ok.inj htrading]
    exact deployedMicros_congr (books_iff.1 hproposed).1
  unfold deployed
  omega

/-- What a cycle of the liquidity pipeline does to the books. -/
theorem lpCycle_cases (gate : RiskGate) (t : Times) (tradeId : String) (env : LpProposalAnswers L)
    (hcap : usdToMicros gate.policy.maxTotalDeployedUsd = .ok cap) (hs : Stands db)
    (hpool0 : request.pool.poolId ≠ request.pool.token0.address)
    (hpool1 : request.pool.poolId ≠ request.pool.token1.address) :
    Stands (lpCycle gate db t tradeId env request) ∧
    LedgerService.deployedMicros gate.host (lpCycle gate db t tradeId env request) .PAPER =
      LedgerService.deployedMicros gate.host db .PAPER ∧
    (deployed gate.host (lpCycle gate db t tradeId env request) ≤ deployed gate.host db ∨
      deployed gate.host (lpCycle gate db t tradeId env request) ≤ cap) := by
  have hsame : ∀ {db'}, books db' = books db → Stands db' ∧
      LedgerService.deployedMicros gate.host db' .PAPER = LedgerService.deployedMicros gate.host db .PAPER ∧
      (deployed gate.host db' ≤ deployed gate.host db ∨ deployed gate.host db' ≤ cap) := by
    intro db' h
    obtain ⟨htrading, hlp⟩ := deployed_of_books gate.host h
    refine ⟨hs.of_books h, htrading, .inl ?_⟩
    unfold deployed
    omega
  unfold lpCycle
  cases ha : allowedLp gate db t tradeId env request with
  | error rest => exact hsame (allowed_books.1 _ ha)
  | ok x =>
    obtain ⟨p, ready⟩ := x
    have hready := (allowed_books.2 _ _ ha).1
    dsimp only
    cases hx : PaperLpExecutor.execute ready t.started tradeId p.action p.plan request.pool (fillPrices p) t.filled with
    | error e => exact hsame hready
    | ok out =>
      dsimp only
      rcases PaperLpExecutor.execute_ok hx with ⟨hf, -⟩ | ⟨-, started, fee, applied, hstarted, happly, hout⟩
      · exact hsame ((books_frame hf).trans hready)
      · have hbooks : books started = books db := (books_frame hstarted).trans hready
        have hstands := hs.of_books hbooks
        obtain ⟨htrading, hlp⟩ := deployed_of_books gate.host hbooks
        obtain ⟨hafter, hlpAfter⟩ := deployed_of_books gate.host (books_frame hout)
        -- it is enough to follow the write itself
        suffices h : applied.1.positions = started.positions ∧ LiquidityStore.Sound applied.1 ∧
            (deployed gate.host applied.1 ≤ deployed gate.host started ∨ deployed gate.host applied.1 ≤ cap) by
          obtain ⟨hpos, hsound, hle⟩ := h
          have htrading' : LedgerService.deployedMicros gate.host applied.1 .PAPER =
              LedgerService.deployedMicros gate.host started .PAPER := deployedMicros_congr hpos
          refine ⟨Stands.of_books ⟨?_, hsound⟩ (books_frame hout), by omega, ?_⟩
          · unfold LedgerService.Sound
            rw [hpos]
            exact hstands.trading
          · unfold deployed at hle ⊢
            omega
        unfold PaperLpExecutor.apply at happly
        split at happly
        · rename_i quote hplan
          simp only [bind_ok, pure_ok] at happly
          obtain ⟨add, hadd, written, hw, rfl⟩ := happly
          refine ⟨PaperWallet.writeAdd_positions hw,
            (@LpAccount.writeAdd_books .PAPER _ _ _ _ _ _ _ _ _ hstands.lp (LpAccount.paperAdd_nonneg hadd) hw).sound, .inr ?_⟩
          have hroom := allowedLp_room hcap hpool0 hpool1 ha hplan hadd
          rw [writeAdd_deployed gate.host hw]
          unfold deployed at hroom ⊢
          omega
        · simp only [bind_ok, pure_ok] at happly
          obtain ⟨remove, -, written, hw, rfl⟩ := happly
          obtain ⟨hpos, hle⟩ := writeRemove_deployed gate.host hstands.lp hw
          exact ⟨hpos, (@LpAccount.writeRemove_books .PAPER _ _ _ _ _ _ _ _ _ hstands.lp hw).sound, .inl hle⟩
        · cases happly

end

/-! ## Runs -/

section
variable {R L : Type} {gate : RiskGate} {cap : Int} {db : Db} {e : Cycle R L}

/-- Each ledger alone has deployed no more than the cap. -/
structure Capped (host : Host) (cap : Int) (db : Db) : Prop extends Stands db where
  tradingWithin : LedgerService.deployedMicros host db .PAPER ≤ cap
  lpWithin : LiquidityStore.deployedMicros db .PAPER ≤ cap

theorem Stands.deployed_nonneg (host : Host) (hs : Stands db) : 0 ≤ LedgerService.deployedMicros host db .PAPER := by
  rw [deployedMicros_eq]
  refine List.sum_nonneg fun x hx => ?_
  obtain ⟨r, hr, rfl⟩ := List.mem_map.1 hx
  split
  · exact (hs.trading r hr).2
  · exact le_refl 0

/-- **Every cycle keeps each ledger within the cap.** -/
theorem Capped.step (hcap : usdToMicros gate.policy.maxTotalDeployedUsd = .ok cap) (he : PoolApart e)
    (hc : Capped gate.host cap db) : Capped gate.host cap (step gate db e) := by
  cases e with
  | swap controls t tradeId env request =>
    show Capped gate.host cap (swapCycle { gate with controls } db t tradeId env request)
    rcases swapCycle_cases { gate with controls } t tradeId env request hc.toStands with
      ⟨hbooks, -⟩ | ⟨p, ready, ha, -, hstands, htrading, hlp, hadded⟩
    · obtain ⟨htrading, hlp⟩ := deployed_of_books gate.host hbooks
      exact ⟨hc.toStands.of_books hbooks, htrading ▸ hc.tradingWithin, hlp ▸ hc.lpWithin⟩
    · refine ⟨hstands, ?_, hlp ▸ hc.lpWithin⟩
      have hwithin := hc.tradingWithin
      split at hadded
      · dsimp only at htrading hadded
        omega
      · rename_i hentry
        have := entry_within { gate with controls } hcap ha (by simpa using hentry)
        dsimp only at htrading hadded this
        omega
  | lp controls t tradeId env request =>
    show Capped gate.host cap (lpCycle { gate with controls } db t tradeId env request)
    obtain ⟨hstands, htrading, hle⟩ := lpCycle_cases { gate with controls } t tradeId env hcap hc.toStands he.1 he.2
    have hwithin := hc.tradingWithin
    have hlpWithin := hc.lpWithin
    have hnonneg := hc.toStands.deployed_nonneg gate.host
    unfold deployed at hle
    dsimp only at htrading hle
    exact ⟨hstands, by omega, by omega⟩
  | elsewhere other => exact ⟨⟨hc.trading, hc.lp⟩, hc.tradingWithin, hc.lpWithin⟩

/-- The bankroll of 50 USDC, and a pool position that cost 240 USD. -/
def crowded : Db :=
  let row : LpPositionRow :=
    { mode := .PAPER, chain := .bsc, protocol := "pancakeswap-v2", poolId := "0x16b9a82891338f9ba80e2d6970fdda79d1eb0dae"
      token0 := "0x55d398326f99059ff775485246999027b3197955", token1 := "0xbb4cdb9cbd36b01bd1cbaebf2de08d9173bc095c"
      decimals0 := 18, decimals1 := 18, lpTokens := 4000000000000000000, amount0 := "120000000000000000000"
      amount1 := "200000000000000000", capitalUsd := 240000000, openedAt := 1690000000000, lastAction := .ADD
      lastActionAt := 1690000000000, lastRebalanceAt := none }
  { Engine.bankroll with lpPositions := Engine.bankroll.lpPositions.put row }

def opening : Cycle V2RouteData Unit :=
  .swap StateStore.fresh ⟨1700000000000, 1700000001000, 1700000001000, 1700000002000⟩ "t1"
    (Engine.openAnswers 10000000000000000) Engine.openRequest

end

end DeployedCap
end Atra
