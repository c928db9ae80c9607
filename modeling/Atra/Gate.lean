import Atra.Ledger
import Atra.StateStore
/-!
# Gate — the stateful wrapper around the risk engine

`decide` answers a repeated intent with its first decision, never allowed again; otherwise it assembles the engine's state
from the stores as they are, evaluates, and persists the decision.  `markDispatched` starts the cooldowns of a trade.
-/
namespace Atra

def DECISION_RETENTION_MS : Int := 24 * 60 * 60 * 1000

/-- What the gate reads beside the ledger: the operator's switches and the stored policy with its hash. -/
structure RiskGate where
  host : Host
  controls : Controls
  policy : RiskPolicy
  policyHash : String

namespace RiskGate

variable (gate : RiskGate)

def pruneExpired (db : Db) (now : Int) : Db := { db with decisions := db.decisions.keep fun r => !(r.expiresAt < now) }

def findByIdempotencyKey (db : Db) (key : String) : Option RiskDecision :=
  (db.decisions.rows.find? fun r => r.idempotencyKey = key).map (·.decision)

/-- The state slice the engine reads, assembled from every store. -/
def runtimeState (db : Db) (now : Int) (mode : Mode) (price : PriceLookup) : Result (Db × RuntimeState) := do
  let out ← LedgerService.toRiskLedger gate.host db now mode price now
  let cooldowns : Record Int := fun key => (db.cooldowns.get key).map (·.lastActionAt)
  return (out.1, StateStore.toRiskState gate.controls now cooldowns db.lastAnyActionAt out.2)

/-- What the engine is asked about an action. -/
def inputOf (now : Int) (action : ProposedAction) (snapshot : MarketSnapshot) (state : RuntimeState) : RiskInput :=
  { now, policy := gate.policy, policyHash := gate.policyHash, action, state, snapshot }

def evaluate (db : Db) (now : Int) (action : ProposedAction) (snapshot : MarketSnapshot) (price : PriceLookup) :
    Result (Db × RiskDecision) := do
  let out ← gate.runtimeState db now action.mode price
  let decision ← Engine.evaluate gate.host (gate.inputOf now action snapshot out.2)
  return (out.1, decision)

def persist (db : Db) (now : Int) (action : ProposedAction) (decision : RiskDecision) : Result Db :=
  if (db.decisions.get action.actionId).isSome then throw (uniqueViolation "action_decisions.action_id")
  else if (findByIdempotencyKey db action.idempotencyKey).isSome then
    throw (uniqueViolation "action_decisions.idempotency_key")
  else
    let row : DecisionRow :=
      { actionId := action.actionId, idempotencyKey := action.idempotencyKey, decision, createdAt := now
        expiresAt := now + DECISION_RETENTION_MS }
    pure { db with decisions := db.decisions.put row }

/-- The answer to an intent that was already decided. -/
def duplicateOf (now : Int) (action : ProposedAction) (replay : RiskDecision) : RiskDecision :=
  { replay with
    actionId := action.actionId, evaluatedAt := now, allowed := false, code := some .DUPLICATE_ACTION
    reason := "duplicate of " ++ replay.actionId ++ ": the same intent was already decided", checks := []
    replayOf := some replay.actionId }

def decide (db : Db) (now : Int) (action : ProposedAction) (snapshot : MarketSnapshot) (price : PriceLookup) :
    Result (Db × RiskDecision) :=
  let pruned := pruneExpired db now
  match findByIdempotencyKey pruned action.idempotencyKey with
  | some replay => pure (pruned, duplicateOf now action replay)
  | none => do
    let out ← gate.evaluate pruned now action snapshot price
    let persisted ← persist out.1 now action out.2
    return (persisted, out.2)

/-- Start the cooldowns of a dispatched trade; an approval moves no funds and starts none. -/
def markDispatched (db : Db) (now : Int) (action : ProposedAction) : Db :=
  if action.kind = .approve then db
  else { db with
    cooldowns := db.cooldowns.put ⟨marketKey action.chain action.tokenIn.address action.tokenOut.address, now⟩
    lastAnyActionAt := some now }

/-! ## What a decision says -/

variable {gate} {db : Db} {now : Int} {action : ProposedAction} {snapshot : MarketSnapshot} {price : PriceLookup}
  {out : Db × RiskDecision}

/-- The tables a decision writes: decisions, and the ledger's anchor of the day. -/
def DecisionFrame (db db' : Db) : Prop := ∃ decisions ledgerDays, db' = { db with decisions, ledgerDays }

/-- **A decision writes only itself and the day's anchor, and an allowed one is the engine's**, on the ledger as it was. -/
theorem decide_ok (h : gate.decide db now action snapshot price = .ok out) : DecisionFrame db out.1 ∧
    (out.2.allowed = true → ∃ (ledger : Db × Ledger),
      LedgerService.toRiskLedger gate.host (pruneExpired db now) now action.mode price now = .ok ledger ∧
      Engine.evaluate gate.host (gate.inputOf now action snapshot (StateStore.toRiskState gate.controls now
        (fun key => (db.cooldowns.get key).map (·.lastActionAt)) db.lastAnyActionAt ledger.2)) = .ok out.2) := by
  unfold decide at h
  dsimp only at h
  split at h
  · obtain rfl := pure_ok.1 h
    exact ⟨⟨_, _, rfl⟩, fun ha => by cases ha⟩
  · unfold evaluate runtimeState at h
    simp only [bind_ok, pure_ok] at h
    obtain ⟨_, ⟨_, ⟨ledger, hl, rfl⟩, decision, hd, rfl⟩, persisted, hp, rfl⟩ := h
    obtain ⟨-, -, ⟨days, hdays⟩, -⟩ := LedgerService.toRiskLedger_ok hl
    refine ⟨?_, fun _ => ⟨ledger, hl, hd⟩⟩
    unfold persist at hp
    split at hp
    · cases hp
    · split at hp
      · cases hp
      · obtain rfl := pure_ok.1 hp
        rw [hdays]
        exact ⟨_, _, rfl⟩

theorem markDispatched_eq (db : Db) (now : Int) (action : ProposedAction) : ∃ cooldowns lastAnyActionAt,
    markDispatched db now action = { db with cooldowns, lastAnyActionAt } := by
  unfold markDispatched
  split
  · exact ⟨_, _, rfl⟩
  · exact ⟨_, _, rfl⟩

end RiskGate
end Atra
