import Atra.EngineSound
import Atra.EngineSpec
import Atra.Gate
/-!
# Replays — no intent is allowed twice

The row of a decision answers every repetition of its intent, and is pruned a day later.  By then the intent is older than any
valid policy lets an action be: whichever of the two guards is looked at, one of them still stands (`Guarded`).
-/
namespace Atra
namespace RiskGate

open Engine

/-! ## Calls and their clock -/

/-- The clock readings of one call, in the order in which it takes them. -/
structure Readings where
  prune : Int
  state : Int
  evaluated : Int
  persisted : Int

def Readings.Ordered (t : Readings) : Prop := t.prune ≤ t.state ∧ t.state ≤ t.evaluated ∧ t.evaluated ≤ t.persisted

/-- A clock that stands still during the call. -/
def Readings.still (now : Int) : Readings := ⟨now, now, now, now⟩

section
variable (gate : RiskGate) (db : Db) (t : Readings) (action : ProposedAction) (snapshot : MarketSnapshot)
  (price : PriceLookup)

def evaluateAt : Result (Db × RiskDecision) := do
  let out ← gate.runtimeState db t.state action.mode price
  let decision ← Engine.evaluate gate.host (gate.inputOf t.evaluated action snapshot out.2)
  return (out.1, decision)

/-- `preview`: the evaluation alone. -/
def preview : Result (Db × RiskDecision) := gate.evaluateAt db t action snapshot price

/-- `decide`, with every reading of the clock its own. -/
def decideAt : Result (Db × RiskDecision) :=
  let pruned := pruneExpired db t.prune
  match findByIdempotencyKey pruned action.idempotencyKey with
  | some replay => pure (pruned, duplicateOf t.state action replay)
  | none => do
    let out ← gate.evaluateAt pruned t action snapshot price
    let persisted ← persist out.1 t.persisted action out.2
    return (persisted, out.2)

theorem decideAt_still (now : Int) :
    gate.decideAt db (.still now) action snapshot price = gate.decide db now action snapshot price := rfl

end

/-- A call of the gate, under the policy stored then. -/
structure Call where
  gate : RiskGate
  clock : Readings
  previews : Bool
  action : ProposedAction
  snapshot : MarketSnapshot
  price : PriceLookup

/-- What a call returns, nothing when it throws, and what it leaves: a throw comes after the prune, and perhaps after the
ledger's mark. -/
inductive Call.Outcome (k : Call) (db : Db) : Option RiskDecision → Db → Prop
  | decided {db' : Db} {d : RiskDecision} (hk : k.previews = false)
      (h : k.gate.decideAt db k.clock k.action k.snapshot k.price = .ok (db', d)) : Outcome k db (some d) db'
  | decideThrew {e : AppError} (days : Table LedgerDayRow.key) (hk : k.previews = false)
      (h : k.gate.decideAt db k.clock k.action k.snapshot k.price = .error e) :
      Outcome k db none { pruneExpired db k.clock.prune with ledgerDays := days }
  | previewed {db' : Db} {d : RiskDecision} (hk : k.previews = true)
      (h : k.gate.preview db k.clock k.action k.snapshot k.price = .ok (db', d)) : Outcome k db (some d) db'
  | previewThrew {e : AppError} (days : Table LedgerDayRow.key) (hk : k.previews = true)
      (h : k.gate.preview db k.clock k.action k.snapshot k.price = .error e) :
      Outcome k db none { db with ledgerDays := days }

/-- A run of the gate: calls on a clock that does not go back, each under a valid policy, while the rest of the runtime
writes any table but the decisions.  The history pairs each call with what it returned. -/
inductive Runs : Db → Int → List (Call × Option RiskDecision) → Db → Prop
  | done (db : Db) (clock : Int) : Runs db clock [] db
  | elsewhere {db other db' : Db} {clock : Int} {history : List (Call × Option RiskDecision)}
      (hd : other.decisions = db.decisions) (h : Runs other clock history db') : Runs db clock history db'
  | call {db left db' : Db} {clock : Int} {k : Call} {o : Option RiskDecision} {history : List (Call × Option RiskDecision)}
      (hclock : clock ≤ k.clock.prune) (hordered : k.clock.Ordered) (hvalid : k.gate.policy.Valid)
      (ho : k.Outcome db o left) (h : Runs left k.clock.persisted history db') : Runs db clock ((k, o) :: history) db'

/-- A decision that allowed the intent of a key, proposed at a time. -/
def allowedAs (key : String) (proposedAt : Int) (x : Call × Option RiskDecision) : Bool :=
  !x.1.previews && x.1.action.idempotencyKey == key && x.1.action.proposedAt == proposedAt && x.2.any (·.allowed)

/-! ## The two guards -/

/-- When the row of an allowed decision expires at the earliest: a day after the intent, less the skew of a policy. -/
def earliestExpiry (proposedAt : Int) : Int := proposedAt - 60000 + DECISION_RETENTION_MS

/-- An intent that can no longer be allowed: its row is still there and will be for its day, or the day is over. -/
def Guarded (key : String) (proposedAt : Int) (db : Db) (clock : Int) : Prop :=
  earliestExpiry proposedAt < clock ∨
    ∃ r ∈ db.decisions.rows, r.idempotencyKey = key ∧ earliestExpiry proposedAt ≤ r.expiresAt

variable {gate : RiskGate} {db db' : Db} {t : Readings} {action : ProposedAction} {snapshot : MarketSnapshot}
  {price : PriceLookup} {d : RiskDecision} {key : String} {proposedAt clock : Int}

theorem actionWindow {p : RiskPolicy} (h : p.Valid) :
    p.freshness.actionMaxAgeMs ≤ 600000 ∧ p.freshness.maxClockSkewMs ≤ 60000 := by
  have hf := h.fields
  simp only [RiskPolicy.fieldIssues, freshnessIssues, List.append_eq_nil_iff, rangeIssue_eq_nil] at hf
  obtain ⟨⟨⟨⟨⟨-, -⟩, hfr⟩, -⟩, -⟩, -⟩ := hf
  obtain ⟨⟨-, ha⟩, hs⟩ := hfr
  exact ⟨by omega, by omega⟩

/-- **An allowed action is young**: between a minute before it was proposed and ten minutes after. -/
theorem evaluateAt_allowed (hv : gate.policy.Valid) (h : gate.evaluateAt db t action snapshot price = .ok (db', d))
    (ha : d.allowed = true) : -60000 ≤ t.evaluated - action.proposedAt ∧ t.evaluated - action.proposedAt ≤ 600000 := by
  unfold evaluateAt at h
  simp only [bind_ok, pure_ok] at h
  obtain ⟨out, -, decision, hd, he⟩ := h
  obtain ⟨-, rfl⟩ := Prod.mk.inj he
  obtain ⟨-, r, hr⟩ := allows_iff.1 ⟨decision, hd, ha⟩
  obtain ⟨hage, hskew⟩ := actionWindow hv
  have hfresh := hr.fresh.action
  have hpol : (gate.inputOf t.evaluated action snapshot out.2).policy = gate.policy := rfl
  have hnow : (gate.inputOf t.evaluated action snapshot out.2).now = t.evaluated := rfl
  have hact : (gate.inputOf t.evaluated action snapshot out.2).action = action := rfl
  rw [hpol, hnow, hact] at hfresh
  omega

theorem evaluateAt_frame (h : gate.evaluateAt db t action snapshot price = .ok (db', d)) :
    ∃ days, db' = { db with ledgerDays := days } := by
  unfold evaluateAt runtimeState at h
  simp only [bind_ok, pure_ok] at h
  obtain ⟨_, ⟨ledger, hl, rfl⟩, decision, hd, he⟩ := h
  obtain ⟨rfl, -⟩ := Prod.mk.inj he
  exact (LedgerService.toRiskLedger_ok hl).2.2.1

theorem findByIdempotencyKey_isSome {r : DecisionRow} (hr : r ∈ db.decisions.rows) :
    ∃ replay, findByIdempotencyKey db r.idempotencyKey = some replay := by
  unfold findByIdempotencyKey
  cases hf : db.decisions.rows.find? fun r' => r'.idempotencyKey = r.idempotencyKey with
  | none => exact absurd (List.find?_eq_none.1 hf r hr) (by simp)
  | some r' => exact ⟨r'.decision, rfl⟩

/-- **A repeated intent is answered as a duplicate**, and only the prune is written. -/
theorem decideAt_replay {replay : RiskDecision}
    (h : findByIdempotencyKey (pruneExpired db t.prune) action.idempotencyKey = some replay) :
    gate.decideAt db t action snapshot price = .ok (pruneExpired db t.prune, duplicateOf t.state action replay) := by
  unfold decideAt
  simp only [h]
  rfl

/-- What a first decision does: it evaluates on the pruned tables, and inserts its own row. -/
theorem decideAt_first (h : findByIdempotencyKey (pruneExpired db t.prune) action.idempotencyKey = none)
    (hd : gate.decideAt db t action snapshot price = .ok (db', d)) :
    ∃ evaluated, gate.evaluateAt (pruneExpired db t.prune) t action snapshot price = .ok (evaluated, d) ∧
      evaluated.decisions.get action.actionId = none ∧ ∃ days, db' = { pruneExpired db t.prune with
        ledgerDays := days, decisions := (pruneExpired db t.prune).decisions.put
          ⟨action.actionId, action.idempotencyKey, d, t.persisted, t.persisted + DECISION_RETENTION_MS⟩ } := by
  unfold decideAt at hd
  simp only [h, bind_ok, pure_ok] at hd
  obtain ⟨⟨evaluated, decision⟩, he, persisted, hp, hout⟩ := hd
  obtain ⟨rfl, rfl⟩ := Prod.mk.inj hout
  obtain ⟨days, rfl⟩ := evaluateAt_frame he
  unfold persist at hp
  by_cases hid : (Table.get (pruneExpired db t.prune).decisions action.actionId).isSome = true
  · rw [if_pos hid] at hp
    cases hp
  · rw [if_neg hid] at hp
    by_cases hkey : (findByIdempotencyKey { pruneExpired db t.prune with ledgerDays := days } action.idempotencyKey).isSome = true
    · rw [if_pos hkey] at hp
      cases hp
    · rw [if_neg hkey] at hp
      exact ⟨_, he, by simpa using hid, days, (pure_ok.1 hp).symm⟩

/-! ## Steps -/

/-- A row is pruned once its time is over. -/
theorem guarded_pruned {now : Int} (hclock : clock ≤ now) (h : Guarded key proposedAt db clock) :
    Guarded key proposedAt (pruneExpired db now) now := by
  rcases h with h | ⟨r, hr, hkey, hexp⟩
  · exact .inl (by omega)
  · by_cases hx : r.expiresAt < now
    · exact .inl (by omega)
    · exact .inr ⟨r, List.mem_filter.2 ⟨hr, by simpa using hx⟩, hkey, hexp⟩

theorem guarded_later {now : Int} (hclock : clock ≤ now) (h : Guarded key proposedAt db clock) :
    Guarded key proposedAt db now :=
  h.imp_left fun h => lt_of_lt_of_le h hclock

theorem mem_put {decisions : Table DecisionRow.actionId} {r row : DecisionRow} (hget : decisions.get row.actionId = none)
    (hr : r ∈ decisions.rows) : r ∈ (decisions.put row).rows := by
  have hne : r.actionId ≠ row.actionId := by
    intro he
    have hr' := Table.get_key_of_mem hr
    rw [he, hget] at hr'
    cases hr'
  have hg : (decisions.put row).get r.actionId = some r := by
    rw [Table.get_put, if_neg hne]
    exact Table.get_key_of_mem hr
  exact Table.mem_of_get hg

/-- **A guarded intent stays guarded**, whatever a call does. -/
theorem Call.Outcome.guarded {k : Call} {o : Option RiskDecision} (ho : k.Outcome db o db') (hordered : k.clock.Ordered)
    (hclock : clock ≤ k.clock.prune) (h : Guarded key proposedAt db clock) :
    Guarded key proposedAt db' k.clock.persisted := by
  obtain ⟨h1, h2, h3⟩ := hordered
  have hpruned : Guarded key proposedAt (pruneExpired db k.clock.prune) k.clock.persisted :=
    guarded_later (by omega) (guarded_pruned hclock h)
  cases ho with
  | decided hk hd =>
    cases hf : findByIdempotencyKey (pruneExpired db k.clock.prune) k.action.idempotencyKey with
    | some replay =>
      rw [decideAt_replay hf] at hd
      obtain ⟨rfl, -⟩ := Prod.mk.inj (Except.ok.inj hd)
      exact hpruned
    | none =>
      obtain ⟨evaluated, he, hid, days, rfl⟩ := decideAt_first hf hd
      obtain ⟨days', rfl⟩ := evaluateAt_frame he
      rcases hpruned with hp | ⟨r, hr, hkey, hexp⟩
      · exact .inl hp
      · exact .inr ⟨r, mem_put hid hr, hkey, hexp⟩
  | decideThrew days hk hd => exact hpruned
  | previewed hk hd =>
    obtain ⟨days, rfl⟩ := evaluateAt_frame hd
    exact guarded_later (by omega) h
  | previewThrew days hk hd => exact guarded_later (by omega) h

/-- **A guarded intent is not allowed**: its row answers it, or it is too old for any valid policy. -/
theorem Call.Outcome.not_allowed {k : Call} {o : Option RiskDecision} (ho : k.Outcome db o db') (hv : k.gate.policy.Valid)
    (hordered : k.clock.Ordered) (hclock : clock ≤ k.clock.prune)
    (h : Guarded k.action.idempotencyKey k.action.proposedAt db clock) :
    allowedAs k.action.idempotencyKey k.action.proposedAt (k, o) = false := by
  obtain ⟨h1, h2, h3⟩ := hordered
  cases ho with
  | decided hk hd =>
    rename_i d
    suffices ha : d.allowed = false by simp [allowedAs, ha]
    cases hf : findByIdempotencyKey (pruneExpired db k.clock.prune) k.action.idempotencyKey with
    | some replay =>
      rw [decideAt_replay hf] at hd
      obtain ⟨-, rfl⟩ := Prod.mk.inj (Except.ok.inj hd)
      rfl
    | none =>
      obtain ⟨evaluated, he, -, -⟩ := decideAt_first hf hd
      cases ha : d.allowed with
      | false => rfl
      | true =>
        obtain ⟨-, hold⟩ := evaluateAt_allowed hv he ha
        rcases guarded_pruned hclock h with hp | ⟨r, hr, hkey, -⟩
        · unfold earliestExpiry DECISION_RETENTION_MS at hp
          omega
        · obtain ⟨replay, hreplay⟩ := findByIdempotencyKey_isSome hr
          rw [hkey, hf] at hreplay
          cases hreplay
  | decideThrew days hk hd => simp [allowedAs]
  | previewed hk hd => simp [allowedAs, hk]
  | previewThrew days hk hd => simp [allowedAs]

/-- **An allowed decision guards its intent** from then on. -/
theorem Call.Outcome.guards {k : Call} {o : Option RiskDecision} (ho : k.Outcome db o db') (hv : k.gate.policy.Valid)
    (hordered : k.clock.Ordered) (ha : allowedAs key proposedAt (k, o) = true) :
    Guarded key proposedAt db' k.clock.persisted := by
  obtain ⟨h1, h2, h3⟩ := hordered
  simp only [allowedAs, Bool.and_eq_true, beq_iff_eq, Bool.not_eq_true'] at ha
  obtain ⟨⟨⟨hk, rfl⟩, rfl⟩, hallowed⟩ := ha
  cases ho with
  | decided hk' hd =>
    rename_i d
    have hallowed : d.allowed = true := by simpa using hallowed
    cases hf : findByIdempotencyKey (pruneExpired db k.clock.prune) k.action.idempotencyKey with
    | some replay =>
      rw [decideAt_replay hf] at hd
      obtain ⟨-, rfl⟩ := Prod.mk.inj (Except.ok.inj hd)
      cases hallowed
    | none =>
      obtain ⟨evaluated, he, -, days, rfl⟩ := decideAt_first hf hd
      obtain ⟨hyoung, -⟩ := evaluateAt_allowed hv he hallowed
      have hrow := (Table.get_put (pruneExpired db k.clock.prune).decisions ⟨k.action.actionId, k.action.idempotencyKey, d,
        k.clock.persisted, k.clock.persisted + DECISION_RETENTION_MS⟩ k.action.actionId).trans (if_pos rfl)
      refine .inr ⟨_, Table.mem_of_get hrow, rfl, ?_⟩
      · show earliestExpiry k.action.proposedAt ≤ k.clock.persisted + DECISION_RETENTION_MS
        unfold earliestExpiry
        omega
  | decideThrew days hk' hd => cases hallowed
  | previewed hk' hd =>
    rw [hk'] at hk
    cases hk
  | previewThrew days hk' hd => cases hallowed

/-! ## Runs -/

theorem Runs.none_allowed {history : List (Call × Option RiskDecision)} (h : Runs db clock history db')
    (hg : Guarded key proposedAt db clock) : history.countP (allowedAs key proposedAt) = 0 := by
  induction h with
  | done => rfl
  | elsewhere hd _ ih =>
    refine ih ?_
    unfold Guarded at hg ⊢
    rwa [hd]
  | call hclock hordered hvalid ho hrest ih =>
    rename_i k o _
    rw [List.countP_cons, ih (ho.guarded hordered hclock hg)]
    by_cases hk : k.action.idempotencyKey = key ∧ k.action.proposedAt = proposedAt
    · obtain ⟨rfl, rfl⟩ := hk
      rw [ho.not_allowed hvalid hordered hclock hg]
      rfl
    · have hn : allowedAs key proposedAt (k, o) = false := by
        unfold allowedAs
        rw [not_and_or] at hk
        rcases hk with hk | hk <;> simp [hk]
      rw [hn]
      rfl

theorem Runs.once {history : List (Call × Option RiskDecision)} (h : Runs db clock history db') :
    history.countP (allowedAs key proposedAt) ≤ 1 := by
  induction h with
  | done => exact Nat.zero_le 1
  | elsewhere _ _ ih => exact ih
  | call hclock hordered hvalid ho hrest ih =>
    rename_i k o _
    rw [List.countP_cons]
    by_cases ha : allowedAs key proposedAt (k, o) = true
    · rw [hrest.none_allowed (ho.guards hvalid hordered ha), if_pos ha]
    · rw [if_neg ha]
      exact ih

/-- **No intent is allowed twice.**  In every run of decisions and previews, under any sequence of valid policies, an intent
with one key and one time of proposal is allowed at most once, also after its row is pruned.  A decision that finds the intent
decided never allows it and writes nothing but the prune; a preview changes no table but the ledger's anchor of the day. -/
theorem intent_allowed_once {history : List (Call × Option RiskDecision)} (h : Runs db clock history db') :
    (∀ key proposedAt, history.countP (allowedAs key proposedAt) ≤ 1) ∧
    (∀ (gate : RiskGate) (db : Db) t action snapshot price replay,
      findByIdempotencyKey (pruneExpired db t.prune) action.idempotencyKey = some replay →
        ∃ d, gate.decideAt db t action snapshot price = .ok (pruneExpired db t.prune, d) ∧ d.allowed = false) ∧
    ∀ (gate : RiskGate) (db : Db) t action snapshot price out, gate.preview db t action snapshot price = .ok out →
      ∃ days, out.1 = { db with ledgerDays := days } :=
  ⟨fun _ _ => h.once, fun _ _ _ _ _ _ _ hf => ⟨_, decideAt_replay hf, rfl⟩,
    fun _ _ _ _ _ _ _ hp => evaluateAt_frame hp⟩

/-! ### A swap decided twice -/

def swapGate : RiskGate :=
  { host := paperSwapHost, controls := StateStore.fresh, policy := defaultRiskPolicy CHAIN_IDS, policyHash := "" }

/-- The swap proposed at one time, decided at another. -/
def swapCall (now : Int) (previews : Bool) : Call :=
  { gate := swapGate, clock := .still now, previews, action := paperSwap, snapshot := paperSnapshot
    price := fun _ _ => none }

theorem swap_decided : ∃ out replay,
    swapGate.decideAt Db.empty (.still 1700000001000) paperSwap paperSnapshot (fun _ _ => none) = .ok out ∧
      out.2.allowed = true ∧
      findByIdempotencyKey (pruneExpired out.1 1700000002000) paperSwap.idempotencyKey = some replay := by
  have hfirst : (swapGate.decideAt Db.empty (.still 1700000001000) paperSwap paperSnapshot fun _ _ => none).toOption.any
      (fun out => out.2.allowed && (findByIdempotencyKey (pruneExpired out.1 1700000002000) paperSwap.idempotencyKey).isSome) =
      true := by decide +kernel
  cases h : swapGate.decideAt Db.empty (.still 1700000001000) paperSwap paperSnapshot fun _ _ => none with
  | error e =>
    rw [h] at hfirst
    cases hfirst
  | ok out =>
    rw [h] at hfirst
    obtain ⟨ha, hf⟩ := Bool.and_eq_true_iff.1 hfirst
    obtain ⟨replay, hreplay⟩ := Option.isSome_iff_exists.1 hf
    exact ⟨out, replay, rfl, ha, hreplay⟩

theorem swap_allowed_once : ∃ history db', Runs Db.empty 1700000001000 history db' ∧
    history.map (fun x => x.2.map (·.allowed)) = [some true, some false] ∧
    ∀ key proposedAt, history.countP (allowedAs key proposedAt) ≤ 1 := by
  obtain ⟨out, replay, h, ha, hreplay⟩ := swap_decided
  have hv : (defaultRiskPolicy CHAIN_IDS).Valid := defaultRiskPolicy_valid (by decide)
  have hsecond : swapGate.decideAt out.1 (.still 1700000002000) paperSwap paperSnapshot (fun _ _ => none) = _ :=
    decideAt_replay hreplay
  have hrun : Runs Db.empty 1700000001000 [(swapCall 1700000001000 false, some out.2),
      (swapCall 1700000002000 false, some (duplicateOf _ paperSwap replay))] _ :=
    .call le_rfl ⟨le_rfl, le_rfl, le_rfl⟩ hv (.decided rfl h)
      (.call (by decide) ⟨le_rfl, le_rfl, le_rfl⟩ hv (.decided rfl hsecond) (.done _ _))
  refine ⟨_, _, hrun, ?_, (intent_allowed_once hrun).1⟩
  simp [ha, duplicateOf]

/-- A refused decision, as its row keeps it. -/
def keptDecision (actionId key : String) : RiskDecision :=
  { schemaVersion := 1, engineVersion := ENGINE_VERSION, actionId, idempotencyKey := key, mode := .PAPER
    evaluatedAt := 1700000000000, policyHash := "", allowed := false, code := some .GLOBAL_PAUSE, reason := "", checks := []
    derived := none, replayOf := none }

/-- The swap's intent decided, beside a decision whose day is over. -/
def twoDecisions : Db :=
  let stale : DecisionRow := ⟨"a0", "k0", keptDecision "a0" "k0", 1600000000000, 1600086400000⟩
  let kept : DecisionRow := ⟨"a1", paperSwap.idempotencyKey, keptDecision "a1" paperSwap.idempotencyKey, 1700000000000,
    1700086400000⟩
  { Db.empty with decisions := (Db.empty.decisions.put stale).put kept }

/-- **A replay prunes, and a preview writes the day's anchor.** -/
theorem replay_and_preview_write :
    (∃ out, (findByIdempotencyKey (pruneExpired twoDecisions 1700000001000) paperSwap.idempotencyKey).isSome = true ∧
      swapGate.decideAt twoDecisions (.still 1700000001000) paperSwap paperSnapshot (fun _ _ => none) = .ok out ∧
      out.1 ≠ twoDecisions) ∧
    ∃ out, swapGate.preview Db.empty (.still 1700000001000) paperSwap paperSnapshot (fun _ _ => none) = .ok out ∧
      out.1 ≠ Db.empty := by
  constructor
  · have hf : (findByIdempotencyKey (pruneExpired twoDecisions 1700000001000) paperSwap.idempotencyKey).isSome = true := by
      decide +kernel
    obtain ⟨replay, hreplay⟩ := Option.isSome_iff_exists.1 hf
    refine ⟨_, hf, decideAt_replay (t := .still 1700000001000) hreplay, fun he => ?_⟩
    have hrows : (pruneExpired twoDecisions 1700000001000).decisions.rows.length = twoDecisions.decisions.rows.length :=
      congrArg (fun db : Db => db.decisions.rows.length) he
    exact absurd hrows (by decide +kernel)
  · have hp : (swapGate.preview Db.empty (.still 1700000001000) paperSwap paperSnapshot fun _ _ => none).toOption.any
        (fun out => out.1.ledgerDays.rows.length == 1) = true := by decide +kernel
    cases h : swapGate.preview Db.empty (.still 1700000001000) paperSwap paperSnapshot fun _ _ => none with
    | error e =>
      rw [h] at hp
      cases hp
    | ok out =>
      refine ⟨out, rfl, ?_⟩
      rintro he
      rw [h] at hp
      have hrows : out.1.ledgerDays.rows.length = 1 := beq_iff_eq.1 hp
      rw [he] at hrows
      cases hrows

end RiskGate
end Atra
