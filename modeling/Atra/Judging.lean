import Atra.DeployedCap
import Atra.LiveEffects
/-!
# Judging — a proposal before the gate, in the process that signs

Both pipelines bring what they built before the gate the same way: the trade is proposed, judged under the policy and the switches
of that moment and moved to its verdict, with nothing awaited in between.  The ledgers stay as they are, and the row of an allowed
trade is allowed with it (`judge_ensures`).
-/
namespace Atra

/-- The stored policy, which is validated on every read. -/
structure StoredPolicy where
  policy : RiskPolicy
  valid : policy.Valid
  hash : String

structure TradeRef where
  tradeId : String
  actionId : String
deriving DecidableEq, Repr

structure RiskRef where
  allowed : Bool
  code : Option RejectionCode
  reason : String
deriving DecidableEq, Repr

namespace Live

/-- A proposal comes before the gate, under the policy and the switches of that moment, with nothing awaited in between. -/
def judge (host : Host) (stored : StoredPolicy) (tradeId : String) (y : DeployedCap.Proposal) : Live RiskDecision := do
  let _ ← write fun db now => TradeStore.propose db tradeId now y.action y.side y.route
  write fun db now => pure (RiskGate.pruneExpired db now, ())
  let p ← get
  let verdict ← write fun db now =>
    RiskGate.decide ⟨host, p.controls, stored.policy, stored.hash⟩ db now y.action y.snapshot y.price
  let _ ← write fun db now => TradeStore.decide db now tradeId verdict
  return verdict

/-- The same ledgers: a cycle writes its trades, its decisions, the day's anchor and the cooldowns on the way. -/
def SameLedgers (db db' : Db) : Prop :=
  ∃ trades decisions ledgerDays cooldowns lastAnyActionAt,
    db' = { db with trades, decisions, ledgerDays, cooldowns, lastAnyActionAt }

/-- The gate allows a proposal under a stored policy, on the ledgers as they stood when the cycle began. -/
def Allowed (host : Host) (p : Process) (stored : StoredPolicy) (y : DeployedCap.Proposal) : Prop :=
  ∃ controls db now out, SameLedgers p.db db ∧
    RiskGate.decide ⟨host, controls, stored.policy, stored.hash⟩ db now y.action y.snapshot y.price = .ok out ∧
    out.2.allowed = true

/-- What a cycle tells: on paper it only writes. -/
def Told (p : Process) (cleared : Controls → SigningContext → Prop) (tradeId : String) (e : LiveEvent) : Prop :=
  Gated cleared tradeId e ∧ ((∃ db, e = .wrote db) ∨ StateStore.getMode p.controls = .LIVE)

section
variable {P : LiveEvent → Prop} {F : FillRow → Prop} {p t : Process} {db db' db'' : Db}

theorem SameLedgers.refl (db : Db) : SameLedgers db db := ⟨_, _, _, _, _, rfl⟩

theorem SameLedgers.trans (h : SameLedgers db db') (h' : SameLedgers db' db'') : SameLedgers db db'' := by
  obtain ⟨_, _, _, _, _, rfl⟩ := h
  obtain ⟨_, _, _, _, _, rfl⟩ := h'
  exact ⟨_, _, _, _, _, rfl⟩

theorem SameLedgers.of_frame (h : TradeFrame db db') : SameLedgers db db' := by
  obtain ⟨_, _, _, rfl⟩ := h
  exact ⟨_, _, _, _, _, rfl⟩

theorem SameLedgers.fills (h : SameLedgers db db') : db'.fills = db.fills := by
  obtain ⟨_, _, _, _, _, rfl⟩ := h
  rfl

/-- A row as its action was proposed. -/
structure ProposedRow (tradeId : String) (action : ProposedAction) (row : TradeRow) : Prop where
  id : row.id = tradeId
  chain : row.chain = action.chain
  tokens : row.tokenIn = action.tokenIn.address ∧ row.tokenOut = action.tokenOut.address
  amountIn : row.amountIn = action.amountIn

theorem propose_row {tradeId : String} {now : Int} {action : ProposedAction} {side : TradeSide} {route : TradeRoute}
    {out : Db × TradeRow} (h : TradeStore.propose db tradeId now action side route = .ok out) :
    SameLedgers db out.1 ∧ TradeStore.get out.1 tradeId = some out.2 ∧ ProposedRow tradeId action out.2 := by
  unfold TradeStore.propose at h
  split at h
  · cases h
  · split at h
    · cases h
    · obtain rfl := pure_ok.1 h
      refine ⟨⟨_, _, _, _, _, rfl⟩, ?_, rfl, rfl, ⟨rfl, rfl⟩, rfl⟩
      exact (Table.get_put ..).trans (if_pos rfl)

theorem decided_row {tradeId : String} {now : Int} {action : ProposedAction} {row : TradeRow} {verdict : RiskDecision}
    {out : Db × TradeRow} (hg : TradeStore.get db tradeId = some row) (hrow : ProposedRow tradeId action row)
    (h : TradeStore.decide db now tradeId verdict = .ok out) : SameLedgers db out.1 ∧ (verdict.allowed = true →
      ∃ row', TradeStore.get out.1 tradeId = some row' ∧ row'.status = .allowed ∧ ProposedRow tradeId action row') := by
  unfold TradeStore.decide at h
  split at h
  · refine ⟨.of_frame (transition_frame h), fun _ => ?_⟩
    obtain ⟨current, hg', -, hrow', hdb⟩ := TradeStore.transition_ok.1 h
    obtain rfl := Option.some.inj (hg'.symm.trans hg)
    refine ⟨out.2, ?_, by rw [hrow'], by rw [hrow'], by rw [hrow']; exact hrow.chain, by rw [hrow']; exact hrow.tokens,
      by rw [hrow']; exact hrow.amountIn⟩
    rw [hdb]
    exact (Table.get_put ..).trans (if_pos (by rw [hrow']))
  · rename_i hrejected
    exact ⟨.of_frame (transition_frame h), fun ha => absurd ha hrejected⟩

/-- What a process that stands where one stood before did since: it told of writes alone, and its ledgers are the same. -/
abbrev Only (P : LiveEvent → Prop) (F : FillRow → Prop) (t u : Process) : Prop := Did P F 0 0 t u ∧ SameLedgers t.db u.db

theorem Only.trans {u v : Process} (h : Only P F t u) (h' : Only P F u v) : Only P F t v := ⟨h.1.trans h'.1, h.2.trans h'.2⟩

/-- One write that leaves the ledgers as they are. -/
theorem write_only {α : Type} {f : Db → Int → Result (Db × α)} (hP : ∀ db, P (.wrote db))
    (hf : ∀ out, f t.db t.clock = .ok out → SameLedgers t.db out.1) : Script.Ensures (write f) t
      (fun r u => (∃ out, f t.db t.clock = .ok out ∧ r = out.2 ∧ u.db = out.1) ∧ Only P F t u)
      fun _ u => Only P F t u := by
  rw [ensures_write]
  exact ⟨fun out hout => ⟨⟨out, hout, rfl, rfl⟩, did_wrote (hP _) (hf out hout).fills, hf out hout⟩,
    fun _ _ => ⟨.refl t, .refl _⟩⟩

/-- **What comes before the gate** is allowed on the ledgers as they are, and its row is allowed with it. -/
theorem judge_ensures {host : Host} (hP : ∀ db, P (.wrote db)) (stored : StoredPolicy) (tradeId : String)
    (y : DeployedCap.Proposal) : Script.Ensures (judge host stored tradeId y) t
      (fun verdict u => Only P F t u ∧ (verdict.allowed = true → Allowed host t stored y ∧
        ∃ row, TradeStore.get u.db tradeId = some row ∧ row.status = .allowed ∧ ProposedRow tradeId y.action row))
      fun _ u => Only P F t u := by
  unfold judge
  rw [Script.ensures_bind]
  refine (write_only hP fun out hout => (propose_row hout).1).mono ?_ fun _ _ h => h
  rintro _ t₁ ⟨⟨out₁, h₁, -, hdb₁⟩, hd₁⟩
  obtain ⟨-, hg₁, hrow₁⟩ := propose_row h₁
  rw [← hdb₁] at hg₁
  rw [Script.ensures_bind]
  refine (write_only hP fun out hout => by obtain rfl := pure_ok.1 hout; exact ⟨_, _, _, _, _, rfl⟩).mono ?_
    fun _ _ h => hd₁.trans h
  rintro _ t₂ ⟨⟨out₂, h₂, -, hdb₂⟩, hd₂⟩
  obtain rfl := pure_ok.1 h₂
  rw [Script.ensures_bind, Script.ensures_get, Script.ensures_bind]
  refine (write_only hP fun out hout => ?_).mono ?_ fun _ _ h => (hd₁.trans hd₂).trans h
  · obtain ⟨⟨_, _, hf⟩, -⟩ := RiskGate.decide_ok hout
    rw [hf]
    exact ⟨_, _, _, _, _, rfl⟩
  rintro verdict t₃ ⟨⟨out₃, h₃, rfl, hdb₃⟩, hd₃⟩
  obtain ⟨⟨_, _, hf₃⟩, -⟩ := RiskGate.decide_ok h₃
  have hg₃ : TradeStore.get t₃.db tradeId = some out₁.2 := by
    rw [hdb₃, hf₃]
    show TradeStore.get t₂.db tradeId = _
    rw [hdb₂]
    exact hg₁
  rw [Script.ensures_bind]
  refine (write_only hP fun out hout => (decided_row hg₃ hrow₁ hout).1).mono ?_
    fun _ _ h => ((hd₁.trans hd₂).trans hd₃).trans h
  rintro _ t₄ ⟨⟨out₄, h₄, -, hdb₄⟩, hd₄⟩
  have hrow₄ := (decided_row hg₃ hrow₁ h₄).2
  rw [← hdb₄] at hrow₄
  exact ⟨((hd₁.trans hd₂).trans hd₃).trans hd₄, fun ha => ⟨⟨_, _, _, _, (hd₁.trans hd₂).2, h₃, ha⟩, hrow₄ ha⟩⟩

theorem Allowed.of_same {host : Host} {stored : StoredPolicy} {y : DeployedCap.Proposal} (h : Allowed host t stored y)
    (hsame : SameLedgers p.db t.db) : Allowed host p stored y := by
  obtain ⟨controls, db, now, out, hdb, hdecide, hallowed⟩ := h
  exact ⟨controls, db, now, out, hsame.trans hdb, hdecide, hallowed⟩

theorem told_wrote {cleared : Controls → SigningContext → Prop} {tradeId : String} (db : Db) :
    Told p cleared tradeId (.wrote db) := ⟨trivial, .inl ⟨db, rfl⟩⟩

theorem told_of_gated {cleared cleared' : Controls → SigningContext → Prop} {tradeId : String}
    (hlive : StateStore.getMode p.controls = .LIVE) (h : ∀ controls context, cleared controls context → cleared' controls context)
    (e : LiveEvent) (he : Gated cleared tradeId e) : Told p cleared' tradeId e := by
  refine ⟨?_, .inr hlive⟩
  cases e with
  | keyUsed controls context => exact h controls context he
  | signed _ => trivial
  | broadcast _ _ => exact he
  | wrote _ => trivial

/-- A process that only waited. -/
theorem did_waited {n m : Nat} {u : Process} (hdb : u.db = t.db) (hlog : u.log = t.log) : Did P F n m t u :=
  .still ⟨[], by rw [hlog, List.append_nil], fun _ h => absurd h List.not_mem_nil, Nat.zero_le n⟩ (by rw [hdb])

end

end Live
end Atra
