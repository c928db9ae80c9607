import Atra.CheckList
import Atra.Delimited
import Atra.Replays
import Mathlib.Logic.Equiv.Basic
/-!
# IntentKeys — what tells one intent from another

The key of an intent joins eight of its fields, after a version tag, with bars.  No field of a valid action holds a bar,
so with an injective digest the key determines these fields and nothing else: not the pool and the LP amounts of an LP
action, and not the times, the fee or the rationale of any.
-/
namespace Atra
namespace Engine

/-! ## What a key covers -/

/-- The texts a key joins. -/
def keyParts (a : ProposedAction) : List String :=
  ["atra-action-v1", a.decisionCycleId, a.chain.name, a.kind.name, a.protocol, a.tokenIn.address, a.tokenOut.address,
    a.amountIn, if a.reduceOnly then "true" else "false"]

theorem deriveIdempotencyKey_eq (host : Host) (a : ProposedAction) :
    deriveIdempotencyKey host a = host.sha256 (String.intercalate (String.singleton '|') (keyParts a)) := rfl

/-- Two actions of one decision cycle with the same chain, kind, protocol, tokens, amount in and reduce-only flag. -/
structure SameKeyed (a b : ProposedAction) : Prop where
  cycle : a.decisionCycleId = b.decisionCycleId
  chain : a.chain = b.chain
  kind : a.kind = b.kind
  protocol : a.protocol = b.protocol
  tokenIn : a.tokenIn.address = b.tokenIn.address
  tokenOut : a.tokenOut.address = b.tokenOut.address
  amountIn : a.amountIn = b.amountIn
  reduceOnly : a.reduceOnly = b.reduceOnly

/-- The pool and the amounts an LP leg moves. -/
def lpPart (a : ProposedAction) : Option (String × Option String × Option String × Option Claimable) :=
  a.lp.map fun lp => (lp.poolId, lp.amountB, lp.lpTokens, lp.claimable)

/-- **The same intent**: the keyed fields, and for an LP action its pool and its LP amounts. -/
structure SameIntent (a b : ProposedAction) : Prop extends SameKeyed a b where
  lp : isLpKind a.kind = true → lpPart a = lpPart b

/-- Two LP actions the key does not tell apart: they agree in what it covers, and not in the pool or the LP amounts. -/
structure Collides (a b : ProposedAction) : Prop extends SameKeyed a b where
  isLp : isLpKind a.kind = true
  lp : lpPart a ≠ lpPart b

theorem ActionKind.name_injective {x y : ActionKind} (h : x.name = y.name) : x = y := by
  cases x <;> cases y <;> first | rfl | exact absurd h (by decide)

theorem sameKeyed_iff {a b : ProposedAction} : SameKeyed a b ↔ keyParts a = keyParts b := by
  unfold keyParts
  simp only [List.cons.injEq, and_true, true_and]
  constructor
  · rintro ⟨hcycle, hchain, hkind, hprotocol, hin, hout, hamount, hreduce⟩
    rw [hchain, hkind, hreduce]
    exact ⟨hcycle, rfl, rfl, hprotocol, hin, hout, hamount, rfl⟩
  · rintro ⟨hcycle, hchain, hkind, hprotocol, hin, hout, hamount, hreduce⟩
    refine ⟨hcycle, ChainId.name_injective hchain, ActionKind.name_injective hkind, hprotocol, hin, hout, hamount, ?_⟩
    revert hreduce
    cases a.reduceOnly <;> cases b.reduceOnly <;> decide

/-! ## No bar in a valid field -/

theorem no_bar_of_all {p : Char → Bool} {s : String} (hp : p '|' = false) (h : s.toList.all p = true) :
    '|' ∉ s.toList := by
  intro hmem
  have hbar := List.all_eq_true.1 h '|' hmem
  rw [hp] at hbar
  cases hbar

theorem isUuid_no_bar {s : String} (h : isUuid s = true) : '|' ∉ s.toList := by
  unfold isUuid at h
  rw [Bool.or_eq_true, Bool.or_eq_true, beq_iff_eq, beq_iff_eq, Bool.and_eq_true] at h
  rcases h with (rfl | rfl) | ⟨-, h⟩
  · decide
  · decide
  · intro hmem
    obtain ⟨i, hi⟩ := List.mem_iff_getElem?.1 hmem
    have hplace := List.all_eq_true.1 h ('|', i) (List.mk_mem_zipIdx_iff_getElem?.2 hi)
    revert hplace
    dsimp only
    split_ifs <;> decide

theorem tokenAddress_no_bar {s : String} (h : tokenAddress s = true) : '|' ∉ s.toList := by
  unfold tokenAddress at h
  rcases Bool.or_eq_true_iff.1 h with h | h
  · unfold evmAddress at h
    split at h
    · rename_i cs hs
      rw [hs]
      have hall := List.all_eq_true.1 (Bool.and_eq_true_iff.1 h).2
      intro hmem
      have hbar : '|' ∈ cs := by simpa using hmem
      exact absurd (hall '|' hbar) (by decide)
    · cases h
  · simp only [solanaPubkey, Bool.and_eq_true] at h
    exact no_bar_of_all (by decide) h.2

theorem isAmount_no_bar {s : String} (h : isAmount s = true) : '|' ∉ s.toList := by
  unfold isAmount at h
  cases hs : s.toList with
  | nil => exact List.not_mem_nil
  | cons c cs =>
    rw [hs] at h
    simp only [Decimal.isInteger, Bool.and_eq_true] at h
    obtain ⟨⟨hc, hcs⟩, -⟩ := h
    intro hmem
    rcases List.mem_cons.1 hmem with rfl | hmem
    · exact absurd hc (by decide)
    · exact absurd (List.all_eq_true.1 hcs '|' hmem) (by decide)

theorem protocolKey_no_bar {s : String} (h : protocolKey s = true) : '|' ∉ s.toList := by
  simp only [protocolKey, Bool.and_eq_true] at h
  exact no_bar_of_all (by decide) h.2

theorem keyParts_no_bar {a : ProposedAction} (h : a.Valid) : ∀ s ∈ keyParts a, '|' ∉ s.toList := by
  have hf := h.fields
  simp only [ProposedAction.fieldIssues, List.append_eq_nil_iff, expect_eq_nil, tokenRefIssues, addressIssue, amountIssue]
    at hf
  obtain ⟨⟨⟨⟨⟨⟨⟨⟨⟨⟨⟨⟨⟨⟨⟨-, -⟩, hcycle⟩, -⟩, -⟩, hprotocol⟩, -⟩, -⟩, hin⟩, hout⟩, hamount⟩, -⟩, -⟩, -⟩, -⟩, -⟩ := hf
  intro s hs
  simp only [keyParts, List.mem_cons, List.not_mem_nil, or_false] at hs
  rcases hs with rfl | rfl | rfl | rfl | rfl | rfl | rfl | rfl | rfl
  · decide
  · exact isUuid_no_bar hcycle
  · cases a.chain <;> decide
  · cases a.kind <;> decide
  · exact protocolKey_no_bar hprotocol
  · exact tokenAddress_no_bar hin.1
  · exact tokenAddress_no_bar hout.1
  · exact isAmount_no_bar hamount
  · cases a.reduceOnly <;> decide

/-- **The key of a valid action determines the fields it joins.** -/
theorem deriveIdempotencyKey_inj {host : Host} (hsha : Function.Injective host.sha256) {a b : ProposedAction}
    (ha : a.Valid) (hb : b.Valid) : deriveIdempotencyKey host a = deriveIdempotencyKey host b ↔ SameKeyed a b := by
  rw [deriveIdempotencyKey_eq, deriveIdempotencyKey_eq, hsha.eq_iff, sameKeyed_iff]
  constructor
  · exact Delimited.intercalate_injective (keyParts_no_bar ha) (keyParts_no_bar hb) (List.cons_ne_nil _ _) (List.cons_ne_nil _ _)
  · exact congrArg _

theorem SameKeyed.sameIntent_iff {a b : ProposedAction} (h : SameKeyed a b) : SameIntent a b ↔ ¬ Collides a b := by
  constructor
  · exact fun hsame hcollides => hcollides.lp (hsame.lp hcollides.isLp)
  · intro hnot
    refine ⟨h, fun hlp => ?_⟩
    by_contra hne
    exact hnot ⟨h, hlp, hne⟩


/-! ## A decision of the engine is no duplicate -/

variable {host : Host} {i : RiskInput}

theorem tier0Checks_code : ∀ c ∈ tier0Checks host i, c.code ≠ .DUPLICATE_ACTION := by
  have hswitch : ∀ c ∈ switchChecks i, c.code ≠ .DUPLICATE_ACTION := by
    intro c hc
    simp only [switchChecks, List.mem_cons, List.not_mem_nil, or_false] at hc
    rcases hc with rfl | rfl | rfl | rfl <;> nofun
  have hschema : ∀ c ∈ schemaChecks host i, c.code ≠ .DUPLICATE_ACTION := by
    intro c hc
    unfold schemaChecks at hc
    by_cases hv : i.action.Valid
    · rw [if_pos hv] at hc
      simp only [List.mem_cons, List.not_mem_nil, or_false] at hc
      rcases hc with rfl | rfl <;> nofun
    · rw [if_neg hv] at hc
      simp only [List.mem_cons, List.not_mem_nil, or_false] at hc
      rcases hc with rfl | rfl <;> nofun
  intro c hc
  rcases List.mem_cons.1 hc with hc | hc
  · rw [hc]
    nofun
  rcases List.mem_cons.1 hc with hc | hc
  · rw [hc]
    unfold schemaActionCheck
    cases i.action.issues <;> nofun
  · rcases List.mem_append.1 hc with hc | hc
    · exact hschema c hc
    · exact hswitch c hc

theorem remainingCheckNames_code (a : ProposedAction) : ∀ n ∈ remainingCheckNames a, n.2 ≠ .DUPLICATE_ACTION := by
  unfold remainingCheckNames
  cases isLp a <;> cases isLpApprove a <;> cases isLpEntry a <;> exact (by decide)

theorem evaluate_code (hv : i.action.Valid) {d : RiskDecision} (hd : evaluate host i = .ok d) :
    d.code ≠ some .DUPLICATE_ACTION := by
  have hcanonical := canonical_of_ok hv hd
  obtain ⟨rest, hchecks, hnames, -, -⟩ := hcanonical.recorded
  rw [hcanonical.code]
  intro hcode
  obtain ⟨c, hfind, hc⟩ := Option.map_eq_some_iff.1 hcode
  have hmem := List.mem_of_mem_filter (List.mem_of_find?_eq_some hfind)
  rw [hchecks, List.mem_append] at hmem
  rcases hmem with hmem | hmem
  · exact tier0Checks_code c hmem hc
  · refine remainingCheckNames_code i.action (signature c) ?_ hc
    rw [← hnames]
    exact List.mem_map_of_mem hmem

end Engine

namespace RiskGate

open Engine

/-! ## Duplicates -/

variable {db db' : Db} {clock : Int} {history : List (Call × Option RiskDecision)}

def Decided (x : Call × Option RiskDecision) : Prop := x.1.previews = false ∧ x.2.isSome = true

/-- Every action that is decided is valid and carries the key derived from it, as the pipelines build it. -/
def Keyed (host : Host) (history : List (Call × Option RiskDecision)) : Prop :=
  ∀ x ∈ history, x.1.previews = false → x.1.action.Valid ∧ x.1.action.idempotencyKey = deriveIdempotencyKey host x.1.action

/-- No two decided actions are LP actions that one key covers. -/
def Separate (history : List (Call × Option RiskDecision)) : Prop :=
  ∀ x ∈ history, ∀ y ∈ history, x.1.previews = false → y.1.previews = false → ¬ Collides x.1.action y.1.action

/-- A decision answers `DUPLICATE_ACTION` only to an intent that was decided before. -/
def RepeatsOnly (history : List (Call × Option RiskDecision)) : Prop :=
  ∀ pre (k : Call) (d : RiskDecision) post, history = pre ++ (k, some d) :: post → k.previews = false →
    d.code = some .DUPLICATE_ACTION → ∃ x ∈ pre, Decided x ∧ SameIntent x.1.action k.action

/-- A row a call leaves was there before, or is that of the action it has decided. -/
theorem Call.Outcome.rows {k : Call} {o : Option RiskDecision} (ho : k.Outcome db o db') {r : DecisionRow}
    (hr : r ∈ db'.decisions.rows) :
    r ∈ db.decisions.rows ∨ Decided (k, o) ∧ r.idempotencyKey = k.action.idempotencyKey := by
  have hpruned : ∀ {t : Int}, r ∈ (pruneExpired db t).decisions.rows → r ∈ db.decisions.rows :=
    fun h => (List.mem_filter.1 h).1
  cases ho with
  | decided hk hd =>
    cases hf : findByIdempotencyKey (pruneExpired db k.clock.prune) k.action.idempotencyKey with
    | some replay =>
      rw [decideAt_replay hf] at hd
      obtain ⟨rfl, -⟩ := Prod.mk.inj (Except.ok.inj hd)
      exact .inl (hpruned hr)
    | none =>
      obtain ⟨evaluated, he, hid, days, rfl⟩ := decideAt_first hf hd
      rcases Table.mem_put hr with rfl | hr
      · exact .inr ⟨⟨hk, rfl⟩, rfl⟩
      · exact .inl (hpruned hr)
  | decideThrew days hk hd => exact .inl (hpruned hr)
  | previewed hk hd =>
    obtain ⟨days, rfl⟩ := evaluateAt_frame hd
    exact .inl hr
  | previewThrew days hk hd => exact .inl hr

/-- **A decision answers `DUPLICATE_ACTION` only to a key it finds among the rows.** -/
theorem Call.Outcome.duplicate {k : Call} {d : RiskDecision} (ho : k.Outcome db (some d) db') (hk : k.previews = false)
    (hvalid : k.action.Valid) (hcode : d.code = some .DUPLICATE_ACTION) :
    ∃ r ∈ db.decisions.rows, r.idempotencyKey = k.action.idempotencyKey := by
  cases ho with
  | previewed hk' hd =>
    rw [hk] at hk'
    cases hk'
  | decided hk' hd =>
    cases hf : findByIdempotencyKey (pruneExpired db k.clock.prune) k.action.idempotencyKey with
    | some replay =>
      obtain ⟨r, hr, -⟩ := Option.map_eq_some_iff.1 hf
      have hkey := List.find?_some hr
      exact ⟨r, (List.mem_filter.1 (List.mem_of_find?_eq_some hr)).1, of_decide_eq_true hkey⟩
    | none =>
      obtain ⟨evaluated, he, -, -⟩ := decideAt_first hf hd
      unfold evaluateAt at he
      simp only [bind_ok, pure_ok] at he
      obtain ⟨out, -, decision, hdecision, heq⟩ := he
      obtain ⟨-, rfl⟩ := Prod.mk.inj heq
      have hv : (k.gate.inputOf k.clock.evaluated k.action k.snapshot out.2).action.Valid := hvalid
      exact absurd hcode (evaluate_code hv hdecision)

/-- **The key of a duplicate was decided before**, in the run or in a row it started with. -/
theorem Runs.duplicate (h : Runs db clock history db') {pre post : List (Call × Option RiskDecision)} {k : Call}
    {d : RiskDecision} (hsplit : history = pre ++ (k, some d) :: post) (hk : k.previews = false) (hvalid : k.action.Valid)
    (hcode : d.code = some .DUPLICATE_ACTION) :
    (∃ r ∈ db.decisions.rows, r.idempotencyKey = k.action.idempotencyKey) ∨
      ∃ x ∈ pre, Decided x ∧ x.1.action.idempotencyKey = k.action.idempotencyKey := by
  induction h generalizing pre with
  | done => exact absurd hsplit.symm (by simp)
  | elsewhere hd _ ih =>
    rw [← hd]
    exact ih hsplit
  | call hclock hordered hpolicy ho hrest ih =>
    cases pre with
    | nil =>
      obtain ⟨hhead, -⟩ := List.cons.inj hsplit
      obtain ⟨rfl, rfl⟩ := Prod.mk.inj hhead
      exact .inl (ho.duplicate hk hvalid hcode)
    | cons x pre =>
      obtain ⟨rfl, htail⟩ := List.cons.inj hsplit
      rcases ih htail with ⟨r, hr, hkey⟩ | ⟨y, hy, hdecided, hkey⟩
      · rcases ho.rows hr with hr | ⟨hdecided, hown⟩
        · exact .inl ⟨r, hr, hkey⟩
        · exact .inr ⟨_, List.mem_cons_self, hdecided, hown.symm.trans hkey⟩
      · exact .inr ⟨y, List.mem_cons_of_mem _ hy, hdecided, hkey⟩

/-- **What the key of an intent tells apart.**  With an injective digest two valid actions with one key have one intent
exactly when they are not two LP actions that differ in the pool or the LP amounts alone; what an action's key does not join
does not change it; and a run that decides no two such LP actions answers duplicates only to what was decided before. -/
theorem distinct_intents {host : Host} (hsha : Function.Injective host.sha256) :
    (∀ a b : ProposedAction, a.Valid → b.Valid →
      ((deriveIdempotencyKey host a = deriveIdempotencyKey host b → SameIntent a b) ↔ ¬ Collides a b)) ∧
    (∀ a b : ProposedAction, SameKeyed a b → deriveIdempotencyKey host a = deriveIdempotencyKey host b) ∧
    ∀ (db : Db) (clock : Int) (history : List (Call × Option RiskDecision)) (db' : Db), Runs db clock history db' →
      db.decisions.rows = [] → Keyed host history → Separate history → RepeatsOnly history := by
  refine ⟨?_, ?_, ?_⟩
  · intro a b ha hb
    rw [deriveIdempotencyKey_inj hsha ha hb]
    constructor
    · intro h hcollides
      have hkeyed := hcollides.toSameKeyed
      exact hkeyed.sameIntent_iff.1 (h hkeyed) hcollides
    · exact fun hnot hkeyed => hkeyed.sameIntent_iff.2 hnot
  · intro a b hkeyed
    rw [deriveIdempotencyKey_eq, deriveIdempotencyKey_eq, sameKeyed_iff.1 hkeyed]
  · intro db clock history db' hrun hempty hkeyed hapart pre k d post hsplit hk hcode
    have hmem : (k, some d) ∈ history := by simp [hsplit]
    obtain ⟨hvalid, hkey⟩ := hkeyed _ hmem hk
    rcases hrun.duplicate hsplit hk hvalid hcode with ⟨r, hr, -⟩ | ⟨x, hx, hdecided, hsame⟩
    · rw [hempty] at hr
      exact absurd hr List.not_mem_nil
    · have hxmem : x ∈ history := by
        rw [hsplit]
        exact List.mem_append_left _ hx
      obtain ⟨hxvalid, hxkey⟩ := hkeyed x hxmem hdecided.1
      rw [hxkey, hkey, deriveIdempotencyKey_inj hsha hxvalid hvalid] at hsame
      exact ⟨x, hx, hdecided, hsame.sameIntent_iff.2 (hapart x hxmem _ hmem hdecided.1 hk)⟩

/-! ### A swap proposed again, and two claims -/

/-- A digest that exchanges the joined fields of an action and the key it carries, and keeps every other text. -/
def hostKeying (a : ProposedAction) : Host where
  sha256 := Equiv.swap (String.intercalate (String.singleton '|') (keyParts a)) a.idempotencyKey
  toLowerCase := asciiLower

theorem hostKeying_key {a b : ProposedAction} (hparts : keyParts b = keyParts a)
    (hkey : b.idempotencyKey = a.idempotencyKey) : b.idempotencyKey = deriveIdempotencyKey (hostKeying a) b := by
  rw [deriveIdempotencyKey_eq, hparts, hkey]
  exact (Equiv.swap_apply_left _ _).symm

/-- The swap proposed again in its cycle, half a second later. -/
def swapAgain : ProposedAction :=
  { paperSwap with
    actionId := "6f1c1f0e-0000-4000-8000-00000000a002", proposedAt := 1700000000500, rationale := some "again" }

/-- The swap decided, and its second proposal answered with what the first left. -/
def swapTwice (first replay : RiskDecision) : List (Call × Option RiskDecision) :=
  [(swapCall 1700000001000 false, some first),
    ({ swapCall 1700000002000 false with action := swapAgain }, some (duplicateOf 1700000002000 swapAgain replay))]

theorem mem_swapTwice {first replay : RiskDecision} {x : Call × Option RiskDecision} (hx : x ∈ swapTwice first replay) :
    x.1.action = paperSwap ∨ x.1.action = swapAgain := by
  simp only [swapTwice, List.mem_cons, List.not_mem_nil, or_false] at hx
  rcases hx with rfl | rfl
  · exact .inl rfl
  · exact .inr rfl

theorem distinct_intents_swap : ∃ (first replay : RiskDecision) (db' : Db) (x : Call × Option RiskDecision),
    Runs Db.empty 1700000001000 (swapTwice first replay) db' ∧ x.2 = some first ∧ SameIntent x.1.action swapAgain := by
  obtain ⟨out, replay, h, ha, hreplay⟩ := swap_decided
  have hv : (defaultRiskPolicy CHAIN_IDS).Valid := defaultRiskPolicy_valid (by decide)
  have hsecond : swapGate.decideAt out.1 (.still 1700000002000) swapAgain paperSnapshot (fun _ _ => none) = _ :=
    decideAt_replay hreplay
  have hrun : Runs Db.empty 1700000001000 (swapTwice out.2 replay) _ :=
    .call le_rfl ⟨le_rfl, le_rfl, le_rfl⟩ hv (.decided rfl h)
      (.call (by decide) ⟨le_rfl, le_rfl, le_rfl⟩ hv (.decided rfl hsecond) (.done _ _))
  have hvalid : paperSwap.Valid ∧ swapAgain.Valid := by decide +kernel
  have hinj : Function.Injective (hostKeying paperSwap).sha256 := Equiv.injective _
  have hkeyed : Keyed (hostKeying paperSwap) (swapTwice out.2 replay) := by
    intro x hx _
    rcases mem_swapTwice hx with hx | hx <;> rw [hx]
    · exact ⟨hvalid.1, hostKeying_key rfl rfl⟩
    · exact ⟨hvalid.2, hostKeying_key rfl rfl⟩
  have hapart : Separate (swapTwice out.2 replay) := by
    intro x hx y _ _ _ hcollides
    have hlp := hcollides.isLp
    rcases mem_swapTwice hx with hx | hx <;> rw [hx] at hlp <;> cases hlp
  have hbefore := (distinct_intents hinj).2.2 Db.empty _ _ _ hrun rfl hkeyed hapart
    [(swapCall 1700000001000 false, some out.2)] { swapCall 1700000002000 false with action := swapAgain }
    (duplicateOf 1700000002000 swapAgain replay) [] rfl rfl rfl
  obtain ⟨x, hx, -, hsame⟩ := hbefore
  rw [List.mem_singleton.1 hx] at hsame
  exact ⟨out.2, replay, _, (swapCall 1700000001000 false, some out.2), hrun, rfl, hsame⟩

/-- A claim of the fees of a pool, in one decision cycle. -/
def claimOf (pool : String) : ProposedAction :=
  { paperSwap with
    kind := .lp_claim, contract := pool, amountIn := "0", quote := none
    lp := some
      { poolId := pool, capitalUsd := "0", rebalanceIndexToday := 0, claimableFeesUsd := "5", amountB := none
        minAmountA := none, minAmountB := none, lpTokens := none, claimable := some ⟨"1000000", "1000000"⟩ } }

def volatileClaim : ProposedAction := claimOf "0xcdac0d6c6c59727a65f871236188350531885c43"
def stableClaim : ProposedAction := claimOf "0x3548029694fbb241d45fb24ba0cd9c9d4e745f16"

/-- The claim on the volatile pool decided, and nothing else. -/
def claimDecided : Db :=
  let claim := volatileClaim
  { Db.empty with
    decisions := Db.empty.decisions.put
      ⟨claim.actionId, claim.idempotencyKey, keptDecision claim.actionId claim.idempotencyKey, 1700000000000,
        1700086400000⟩ }

/-- **Two claims on different pools have one key**, and the second is answered as a duplicate of the first. -/
theorem claims_collide :
    (volatileClaim.Valid ∧ stableClaim.Valid) ∧
      (volatileClaim.idempotencyKey = deriveIdempotencyKey (hostKeying volatileClaim) volatileClaim ∧
        stableClaim.idempotencyKey = deriveIdempotencyKey (hostKeying volatileClaim) stableClaim) ∧
      volatileClaim.idempotencyKey = stableClaim.idempotencyKey ∧
      ¬ SameIntent volatileClaim stableClaim ∧
      ∃ out, swapGate.decideAt claimDecided (.still 1700000001000) stableClaim paperSnapshot (fun _ _ => none) =
          .ok out ∧ out.2.code = some .DUPLICATE_ACTION := by
  refine ⟨by decide +kernel, ⟨hostKeying_key rfl rfl, hostKeying_key rfl rfl⟩, rfl, fun h => ?_, ?_⟩
  · exact absurd (h.lp rfl) (by decide)
  have hreplay : findByIdempotencyKey (pruneExpired claimDecided (Readings.still 1700000001000).prune)
      stableClaim.idempotencyKey =
        some (keptDecision volatileClaim.actionId volatileClaim.idempotencyKey) := rfl
  exact ⟨_, decideAt_replay hreplay, rfl⟩

end RiskGate
end Atra
