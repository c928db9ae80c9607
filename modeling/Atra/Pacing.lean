import Atra.Approval
import Atra.Mutex
import Atra.Replays
/-!
# Pacing — the time between two dispatched actions, over whole runs of both pipelines

A dispatch writes its time for its market and for the runtime as a whole, and the engine reads both times when it decides.
Between a decision and its dispatch no other cycle holds the lock, so that what was read is still what was written last
(`Spaced`).  An approval starts no cooldown: the swap that it enables follows at once.
-/
namespace Atra
namespace Pacing

open History Money Mutex RiskGate

/-! ## Cycles -/

/-- An action that was dispatched, and when it was decided and dispatched. -/
structure Dispatch where
  action : ProposedAction
  decidedAt : Int
  dispatchedAt : Int

/-- What the runtime is composed of, under a policy that does not change. -/
structure Runtime where
  host : Host
  policy : RiskPolicy
  policyHash : String
  /-- The two tokens of a pool, which its contract names once and for all. -/
  pairOf : ChainId → String → String × String

/-- What a cycle asks the gate about: an action of the trade pipeline or an approval, or what is built for a pool as read. -/
inductive Candidate (R : Type) where
  | trade (action : ProposedAction) (snapshot : MarketSnapshot) (price : PriceLookup)
  | lp (env : LpProposalAnswers R) (request : LpProposalRequest)

structure CycleState where
  db : Db
  clock : Int
  lock : AsyncMutex Unit AppError
  /-- What a cycle has been allowed to do and has not dispatched, and when that was decided. -/
  allowed : Nat → Option (ProposedAction × Int)

inductive CycleEvent (R : Type) where
  | tick (ms : Nat)
  /-- Another part of the runtime writes its tables. -/
  | elsewhere (db : Db)
  /-- A cycle is started, gets the lock, ends or hands the lock on. -/
  | lock (e : Mutex.Event Unit AppError)
  | decide (i : Nat) (controls : Controls) (readings : Readings) (candidate : Candidate R)
  /-- The executor hands the action to the signer or the paper simulator. -/
  | dispatch (i : Nat)
  | restart

section
variable {R : Type} (runtime : Runtime)

/-- The body of a call of the lock is running. -/
def holds (lock : AsyncMutex Unit AppError) (i : Nat) : Bool :=
  match phaseOf lock i with
  | some .running => true
  | _ => false

def Runtime.gate (controls : Controls) : RiskGate := ⟨runtime.host, controls, runtime.policy, runtime.policyHash⟩

def proposal (db : Db) : Candidate R → Option (ProposedAction × MarketSnapshot × PriceLookup)
  | .trade action snapshot price => if isLpKind action.kind then none else some (action, snapshot, price)
  | .lp env request =>
    if runtime.pairOf request.chain request.pool.poolId = (request.pool.token0.address, request.pool.token1.address) then
      match (LpProposalBuilder.build runtime.host db env request).run with
      | .ok (.ok p) => some (p.action, p.snapshot, p.priceLookup)
      | _ => none
    else none

instance (t : Readings) : Decidable t.Ordered := inferInstanceAs (Decidable (_ ∧ _ ∧ _))

/-- The gate decides for the cycle that holds the lock; a decision that throws has pruned. -/
def decideNext (s : CycleState) (i : Nat) (controls : Controls) (t : Readings) (candidate : Candidate R) : CycleState :=
  match proposal runtime s.db candidate with
  | none => s
  | some (action, snapshot, price) =>
    match (runtime.gate controls).decideAt s.db t action snapshot price with
    | .error _ => { s with db := pruneExpired s.db t.prune, clock := t.persisted }
    | .ok (db, decision) =>
      { s with
        db
        clock := t.persisted
        allowed := if decision.allowed then Function.update s.allowed i (some (action, t.evaluated)) else s.allowed }

def cycleStep (s : CycleState) : CycleEvent R → CycleState
  | .tick ms => { s with clock := s.clock + ms }
  | .elsewhere db => { s with db := { db with cooldowns := s.db.cooldowns, lastAnyActionAt := s.db.lastAnyActionAt } }
  | .lock e => { s with
      lock := Mutex.step s.lock e
      -- What a cycle was about to do ends with it.
      allowed := match e with
        | .settle i _ => Function.update s.allowed i none
        | _ => s.allowed }
  | .decide i controls t candidate =>
    if holds s.lock i = true ∧ s.allowed i = none ∧ s.clock ≤ t.prune ∧ t.Ordered then
      decideNext runtime s i controls t candidate
    else s
  | .dispatch i =>
    if holds s.lock i then match s.allowed i with
      | some (action, _) =>
        { s with db := RiskGate.markDispatched s.db s.clock action, allowed := Function.update s.allowed i none }
      | none => s
    else s
  | .restart => { s with lock := Mutex.fresh, allowed := fun _ => none }

def dispatchedBy (s : CycleState) : CycleEvent R → List Dispatch
  | .dispatch i => if holds s.lock i then match s.allowed i with
      | some (action, decidedAt) => [⟨action, decidedAt, s.clock⟩]
      | none => []
    else []
  | _ => []

/-- A runtime that has just started. -/
def booted (db : Db) (clock : Int) : CycleState := ⟨db, clock, Mutex.fresh, fun _ => none⟩

/-- The actions a run dispatches, oldest first. -/
def dispatches (db : Db) (clock : Int) (es : List (CycleEvent R)) : List Dispatch :=
  collect (cycleStep runtime) dispatchedBy (booted db clock) es

/-! ## Spacing -/

/-- The key under which the books keep the market of an action. -/
def marketOf (a : ProposedAction) : String := marketKey a.chain a.tokenIn.address a.tokenOut.address

/-- An action that waits for the cooldowns: neither an approval nor an exit. -/
def waits (a : ProposedAction) : Bool := !(Engine.isApprove a || Engine.isExit a || Engine.isLpExit a)

def SamePool (a b : ProposedAction) : Prop :=
  isLpKind a.kind = true ∧ isLpKind b.kind = true ∧ ∃ la lb, a.lp = some la ∧ b.lp = some lb ∧ la.poolId = lb.poolId

/-- Both actions are of one market: the same tokens, in either direction, or the same pool. -/
def SameMarket (a b : ProposedAction) : Prop :=
  a.chain = b.chain ∧
    (a.tokenIn.address = b.tokenIn.address ∧ a.tokenOut.address = b.tokenOut.address ∨
      a.tokenIn.address = b.tokenOut.address ∧ a.tokenOut.address = b.tokenIn.address ∨ SamePool a b)

/-- The pauses of the policy lie between a dispatch and a later decision. -/
structure Spaced (policy : RiskPolicy) (earlier : Dispatch) (action : ProposedAction) (decidedAt : Int) : Prop where
  anyMarket : earlier.dispatchedAt + policy.globalMinIntervalSeconds * 1000 ≤ decidedAt
  market : SameMarket earlier.action action → earlier.dispatchedAt + policy.cooldownSeconds * 1000 ≤ decidedAt

/-! ## What the engine asks -/

theorem elapsedCheck_clear {name : String} {now t : Int} {limitSeconds : Nat}
    (h : Engine.refuses (Engine.elapsedCheck name now (some t) limitSeconds) = false) :
    t + limitSeconds * 1000 ≤ now := by
  simp [Engine.elapsedCheck] at h
  omega

/-- **An action that waits and is allowed** has waited since the last dispatch of its market, and since the last of all. -/
theorem pacing_clear {i : RiskInput} (h : Engine.Clear (Engine.pacingChecks i)) (hw : waits i.action = true) :
    (∀ t, i.state.lastAnyActionAt = some t → t + i.policy.globalMinIntervalSeconds * 1000 ≤ i.now) ∧
    ∀ t, i.state.cooldowns (marketOf i.action) = some t →
      t + i.policy.cooldownSeconds * 1000 ≤ i.now := by
  unfold marketOf
  unfold waits at hw
  simp only [Bool.not_eq_true', Bool.or_eq_false_iff] at hw
  obtain ⟨⟨happrove, hexit⟩, hlpExit⟩ := hw
  have hlpApprove : Engine.isLpApprove i.action = false := by
    unfold Engine.isLpApprove
    rw [happrove, Bool.false_and]
  unfold Engine.pacingChecks at h
  dsimp only at h
  rw [happrove, hexit, hlpExit, hlpApprove] at h
  simp only [Bool.or_false, Bool.false_eq_true, if_false, Engine.clear_cons] at h
  refine ⟨fun t ht => ?_, fun t ht => ?_⟩
  · rw [ht] at h
    exact elapsedCheck_clear h.2.1
  · rw [ht] at h
    exact elapsedCheck_clear h.1

theorem decideAt_paced {gate : RiskGate} {db db' : Db} {t : Readings} {action : ProposedAction} {snapshot : MarketSnapshot}
    {price : PriceLookup} {d : RiskDecision} (h : gate.decideAt db t action snapshot price = .ok (db', d)) :
    db'.cooldowns = db.cooldowns ∧ db'.lastAnyActionAt = db.lastAnyActionAt ∧
      (d.allowed = true → waits action = true →
        (∀ last, db.lastAnyActionAt = some last → last + gate.policy.globalMinIntervalSeconds * 1000 ≤ t.evaluated) ∧
        ∀ row, db.cooldowns.get (marketOf action) = some row →
          row.lastActionAt + gate.policy.cooldownSeconds * 1000 ≤ t.evaluated) := by
  cases hf : findByIdempotencyKey (pruneExpired db t.prune) action.idempotencyKey with
  | some replay =>
    rw [decideAt_replay hf] at h
    cases h
    exact ⟨rfl, rfl, fun ha => by cases ha⟩
  | none =>
    obtain ⟨evaluated, he, -, days, rfl⟩ := decideAt_first hf h
    refine ⟨rfl, rfl, fun ha hw => ?_⟩
    unfold evaluateAt runtimeState at he
    simp only [bind_ok, pure_ok] at he
    obtain ⟨_, ⟨ledger, -, rfl⟩, decision, hd, hout⟩ := he
    obtain ⟨-, rfl⟩ := Prod.mk.inj hout
    obtain ⟨-, r, hr⟩ := Engine.allows_iff.1 ⟨decision, hd, ha⟩
    obtain ⟨hany, hmarket⟩ := pacing_clear hr.pacing hw
    exact ⟨hany, fun row hrow => hmarket row.lastActionAt (Option.map_eq_some_iff.2 ⟨row, hrow, rfl⟩)⟩

theorem marketKey_comm (chain : ChainId) (a b : String) : marketKey chain a b = marketKey chain b a := by
  unfold marketKey
  by_cases hab : a < b
  · have hba : ¬ b < a := String.lt_asymm hab
    rw [if_pos hab, if_neg hba]
  · rw [if_neg hab]
    by_cases hba : b < a
    · rw [if_pos hba]
    · rw [if_neg hba, String.le_antisymm (String.not_lt.1 hba) (String.not_lt.1 hab)]

/-! ## The lock -/

theorem holds_iff {lock : AsyncMutex Unit AppError} {i : Nat} : holds lock i = true ↔ phaseOf lock i = some .running := by
  unfold holds
  split
  · rename_i hp
    exact ⟨fun _ => hp, fun _ => rfl⟩
  · rename_i hp
    exact ⟨fun h => (Bool.false_ne_true h).elim, fun h => (hp h).elim⟩

/-- **One cycle at a time** holds the lock. -/
theorem holds_unique {lock : AsyncMutex Unit AppError} {n i j : Nat} (h : Progress lock n) (hi : holds lock i = true)
    (hj : holds lock j = true) : i = j := by
  have hi' := h.last (holds_iff.1 hi) (by simp) (by simp)
  have hj' := h.last (holds_iff.1 hj) (by simp) (by simp)
  omega

theorem holds_step {lock : AsyncMutex Unit AppError} {i : Nat} (hi : holds lock i = true) (e : Mutex.Event Unit AppError)
    (he : ∀ result, e ≠ .settle i result) : holds (Mutex.step lock e) i = true := by
  rw [holds_iff] at hi ⊢
  cases e with
  | run =>
    have hlt := lt_of_phaseOf hi
    rw [phaseOf_run, if_neg hlt.ne, hi]
  | resume j =>
    unfold Mutex.step
    dsimp only
    split
    · rw [phaseOf_setPhase, hi]
      split
      · rfl
      · rfl
    · exact hi
  | settle j result =>
    have hji : j ≠ i := fun h => he result (by rw [h])
    unfold Mutex.step
    dsimp only
    split
    · rw [phaseOf_setPhase, if_neg hji, hi]
    · exact hi
  | unwind j =>
    unfold Mutex.step
    dsimp only
    split
    · rename_i result hp
      have hji : j ≠ i := by
        rintro rfl
        rw [hi] at hp
        cases hp
      rw [phaseOf_setPhase, if_neg hji, hi]
    · exact hi

end

/-! ## What holds between the steps -/

/-- An action on a pool names its tokens as the pool does. -/
def PoolNamed (runtime : Runtime) (a : ProposedAction) : Prop :=
  isLpKind a.kind = true →
    ∃ leg, a.lp = some leg ∧ runtime.pairOf a.chain leg.poolId = (a.tokenIn.address, a.tokenOut.address)

/-- The tables hold the dispatch, or a later one of its market. -/
structure Booked (db : Db) (d : Dispatch) : Prop where
  anyMarket : ∃ last, db.lastAnyActionAt = some last ∧ d.dispatchedAt ≤ last
  market : ∃ row, db.cooldowns.get (marketOf d.action) = some row ∧ d.dispatchedAt ≤ row.lastActionAt

/-- The action has waited for every dispatch so far that moved funds. -/
def WaitedFor (policy : RiskPolicy) (log : List Dispatch) (a : ProposedAction) (decidedAt : Int) : Prop :=
  ∀ d ∈ log, d.action.kind ≠ .approve → waits a = true → Spaced policy d a decidedAt

/-- What has been dispatched is on the books, and what is about to be has waited for it. -/
structure Paced (runtime : Runtime) (s : CycleState) (log : List Dispatch) : Prop where
  lock : ∃ n, Progress s.lock n
  held : ∀ i entry, s.allowed i = some entry → holds s.lock i = true
  named : ∀ i entry, s.allowed i = some entry → PoolNamed runtime entry.1
  waited : ∀ i entry, s.allowed i = some entry → WaitedFor runtime.policy log entry.1 entry.2
  past : ∀ d ∈ log, d.dispatchedAt ≤ s.clock
  booked : ∀ d ∈ log, d.action.kind ≠ .approve → Booked s.db d
  dispatched : ∀ d ∈ log, PoolNamed runtime d.action
  spaced : log.Pairwise fun earlier later => earlier.action.kind ≠ .approve → waits later.action = true →
    Spaced runtime.policy earlier later.action later.decidedAt

section
variable {R : Type} {runtime : Runtime} {s : CycleState} {log : List Dispatch}

theorem poolNamed_of_proposal {db : Db} {candidate : Candidate R} {action : ProposedAction} {snapshot : MarketSnapshot}
    {price : PriceLookup} (h : proposal runtime db candidate = some (action, snapshot, price)) : PoolNamed runtime action := by
  unfold proposal at h
  split at h
  · rename_i a _ _
    split at h
    · cases h
    · rename_i hlp
      cases h
      exact fun hk => absurd hk hlp
  · rename_i env request
    split at h
    · rename_i hpair
      split at h
      · rename_i p hbuild
        cases h
        obtain ⟨market, planned, lpPriceAtto, lpState, hplan, rfl, -, -, -, -⟩ := LpProposalBuilder.build_ok hbuild
        intro _
        rcases LpProposalBuilder.planOf_ok hplan with ha | hr | hc
        · obtain ⟨_, _, quote, committed, -, -, rfl⟩ := LpProposalBuilder.planAdd_ok ha
          exact ⟨_, rfl, hpair⟩
        · obtain ⟨_, closes, quote, -, -, -, -, rfl⟩ := LpProposalBuilder.planRemove_ok hr
          exact ⟨_, rfl, hpair⟩
        · obtain ⟨claimable, plan, rfl⟩ := LpProposalBuilder.planClaim_ok hc
          exact ⟨_, rfl, hpair⟩
      · cases h
    · cases h

/-- **Actions of one market share its row**: those of a pool name its tokens alike. -/
theorem marketKey_of_sameMarket {a b : ProposedAction} (h : SameMarket a b) (ha : PoolNamed runtime a)
    (hb : PoolNamed runtime b) : marketOf a = marketOf b := by
  unfold marketOf
  obtain ⟨hchain, hsame | hswapped | ⟨hka, hkb, la, lb, hla, hlb, hpool⟩⟩ := h
  · rw [hchain, hsame.1, hsame.2]
  · rw [hchain, hswapped.1, hswapped.2, marketKey_comm]
  · obtain ⟨la', hla', hpa⟩ := ha hka
    obtain ⟨lb', hlb', hpb⟩ := hb hkb
    rw [hla] at hla'
    rw [hlb] at hlb'
    cases hla'
    cases hlb'
    rw [hchain, hpool, hpb] at hpa
    obtain ⟨hin, hout⟩ := Prod.mk.inj hpa
    rw [hchain, ← hin, ← hout]

/-- The books of a dispatch outlive another one at a later time. -/
theorem Booked.markDispatched {db : Db} {d : Dispatch} (h : Booked db d) {now : Int} (hnow : d.dispatchedAt ≤ now)
    (action : ProposedAction) : Booked (RiskGate.markDispatched db now action) d := by
  unfold RiskGate.markDispatched
  by_cases hk : action.kind = .approve
  · rw [if_pos hk]
    exact h
  · rw [if_neg hk]
    refine ⟨⟨now, rfl, hnow⟩, ?_⟩
    obtain ⟨row, hrow, hle⟩ := h.market
    dsimp only
    rw [Table.get_put]
    split
    · exact ⟨_, rfl, hnow⟩
    · exact ⟨row, hrow, hle⟩

/-- **A dispatch puts itself on the books.** -/
theorem booked_own {db : Db} {d : Dispatch} (hk : d.action.kind ≠ .approve) :
    Booked (RiskGate.markDispatched db d.dispatchedAt d.action) d := by
  unfold RiskGate.markDispatched
  rw [if_neg hk]
  refine ⟨⟨d.dispatchedAt, rfl, le_refl _⟩, ⟨⟨marketOf d.action, d.dispatchedAt⟩, ?_, le_refl _⟩⟩
  exact (Table.get_put ..).trans (if_pos rfl)

theorem Booked.congr {db db' : Db} {d : Dispatch} (h : Booked db d) (hc : db'.cooldowns = db.cooldowns)
    (hl : db'.lastAnyActionAt = db.lastAnyActionAt) : Booked db' d := by
  obtain ⟨hany, hmarket⟩ := h
  refine ⟨?_, ?_⟩
  · rw [hl]
    exact hany
  · rw [hc]
    exact hmarket

theorem waitedFor_decideAt {gate : RiskGate} {db db' : Db} {t : Readings} {action : ProposedAction}
    {snapshot : MarketSnapshot} {price : PriceLookup} {d : RiskDecision} (hpolicy : gate.policy = runtime.policy)
    (h : gate.decideAt db t action snapshot price = .ok (db', d)) (ha : d.allowed = true)
    (hnamed : PoolNamed runtime action) (hbooked : ∀ d ∈ log, d.action.kind ≠ .approve → Booked db d)
    (hdispatched : ∀ d ∈ log, PoolNamed runtime d.action) : WaitedFor runtime.policy log action t.evaluated := by
  intro e he hk hw
  obtain ⟨-, -, hpaced⟩ := decideAt_paced h
  obtain ⟨hany, hmarket⟩ := hpaced ha hw
  rw [hpolicy] at hany hmarket
  obtain ⟨⟨last, hlast, hle⟩, ⟨row, hrow, hrowle⟩⟩ := hbooked e he hk
  refine ⟨?_, fun hsame => ?_⟩
  · have := hany last hlast
    omega
  · rw [marketKey_of_sameMarket hsame (hdispatched e he) hnamed] at hrow
    have := hmarket row hrow
    omega

/-! ## The steps -/

theorem progress_fresh : ∃ n, Progress (fresh : AsyncMutex Unit AppError) n := by
  obtain ⟨n, -, h⟩ := progress_ran (α := Unit) (ε := AppError) []
  exact ⟨n, h⟩

theorem paced_booted (db : Db) (clock : Int) : Paced runtime (booted db clock) [] where
  lock := progress_fresh
  held := fun i entry h => by cases h
  named := fun i entry h => by cases h
  waited := fun i entry h => by cases h
  past := fun d hd => by cases hd
  booked := fun d hd => by cases hd
  dispatched := fun d hd => by cases hd
  spaced := .nil

/-- Time passes, and what is not the cooldowns is written. -/
theorem Paced.later (h : Paced runtime s log) {db : Db} {clock : Int} (hc : db.cooldowns = s.db.cooldowns)
    (hl : db.lastAnyActionAt = s.db.lastAnyActionAt) (hclock : s.clock ≤ clock) :
    Paced runtime { s with db, clock } log where
  lock := h.lock
  held := h.held
  named := h.named
  waited := h.waited
  past := fun d hd => (h.past d hd).trans hclock
  booked := fun d hd hk => (h.booked d hd hk).congr hc hl
  dispatched := h.dispatched
  spaced := h.spaced

/-- A cycle whose body settles gives up what it was about to do; the others keep what they have. -/
theorem Paced.lockStep (h : Paced runtime s log) (e : Mutex.Event Unit AppError) :
    Paced runtime (cycleStep (R := R) runtime s (.lock e)) log := by
  have hkept : ∀ i entry, (cycleStep (R := R) runtime s (.lock e)).allowed i = some entry →
      s.allowed i = some entry ∧ ∀ result, e ≠ .settle i result := by
    intro i entry hi
    unfold cycleStep at hi
    dsimp only at hi
    split at hi
    · rename_i j result
      by_cases hij : i = j
      · subst hij
        rw [Function.update_self] at hi
        cases hi
      · rw [Function.update_of_ne hij] at hi
        exact ⟨hi, fun result' he => hij (by cases he; rfl)⟩
    · rename_i hother
      exact ⟨hi, fun result he => hother i result he⟩
  obtain ⟨n, hn⟩ := h.lock
  refine ⟨?_, fun i entry hi => ?_, fun i entry hi => h.named i entry (hkept i entry hi).1,
    fun i entry hi => h.waited i entry (hkept i entry hi).1, h.past, h.booked, h.dispatched, h.spaced⟩
  · rcases hn.step e with ⟨-, hstep⟩ | ⟨-, hstep⟩
    · exact ⟨n, hstep⟩
    · exact ⟨n + 1, hstep⟩
  · obtain ⟨hi, he⟩ := hkept i entry hi
    exact holds_step (h.held i entry hi) e he

theorem Paced.restart (h : Paced runtime s log) : Paced runtime { s with lock := Mutex.fresh, allowed := fun _ => none } log where
  lock := progress_fresh
  held := fun i entry hi => by cases hi
  named := fun i entry hi => by cases hi
  waited := fun i entry hi => by cases hi
  past := h.past
  booked := h.booked
  dispatched := h.dispatched
  spaced := h.spaced

theorem Paced.allow (h : Paced runtime s log) {i : Nat} (hi : holds s.lock i = true) {action : ProposedAction}
    {decidedAt : Int} (hnamed : PoolNamed runtime action) (hwaited : WaitedFor runtime.policy log action decidedAt) :
    Paced runtime { s with allowed := Function.update s.allowed i (some (action, decidedAt)) } log := by
  have hcases : ∀ j entry, Function.update s.allowed i (some (action, decidedAt)) j = some entry →
      j = i ∧ entry = (action, decidedAt) ∨ s.allowed j = some entry := by
    intro j entry hj
    by_cases hji : j = i
    · subst hji
      rw [Function.update_self] at hj
      cases hj
      exact .inl ⟨rfl, rfl⟩
    · rw [Function.update_of_ne hji] at hj
      exact .inr hj
  refine ⟨h.lock, fun j entry hj => ?_, fun j entry hj => ?_, fun j entry hj => ?_, h.past, h.booked, h.dispatched,
    h.spaced⟩
  · rcases hcases j entry hj with ⟨rfl, rfl⟩ | hj
    · exact hi
    · exact h.held j entry hj
  · rcases hcases j entry hj with ⟨rfl, rfl⟩ | hj
    · exact hnamed
    · exact h.named j entry hj
  · rcases hcases j entry hj with ⟨rfl, rfl⟩ | hj
    · exact hwaited
    · exact h.waited j entry hj

/-- **A decision** allows only what has waited for everything that was dispatched. -/
theorem Paced.decide (h : Paced runtime s log) {i : Nat} (hi : holds s.lock i = true) (controls : Controls) {t : Readings}
    (ht : t.Ordered) (hclock : s.clock ≤ t.prune) (candidate : Candidate R) :
    Paced runtime (decideNext runtime s i controls t candidate) log := by
  obtain ⟨h1, h2, h3⟩ := ht
  have hlater : s.clock ≤ t.persisted := by omega
  unfold decideNext
  split
  · exact h
  · rename_i action snapshot price hproposal
    split
    · exact h.later rfl rfl hlater
    · rename_i db d hdecided
      obtain ⟨hc, hl, -⟩ := decideAt_paced hdecided
      have hbase := h.later hc hl hlater
      by_cases ha : d.allowed = true
      · rw [if_pos ha]
        have hnamed := poolNamed_of_proposal hproposal
        have hwaited : WaitedFor runtime.policy log action t.evaluated :=
          waitedFor_decideAt rfl hdecided ha hnamed h.booked h.dispatched
        exact hbase.allow hi hnamed hwaited
      · rw [if_neg ha]
        exact hbase

/-- **A dispatch** had waited for all those before it, and no other cycle is about to dispatch. -/
theorem Paced.dispatch (h : Paced runtime s log) {i : Nat} {action : ProposedAction} {decidedAt : Int}
    (hi : s.allowed i = some (action, decidedAt)) :
    Paced runtime
      { s with db := RiskGate.markDispatched s.db s.clock action, allowed := Function.update s.allowed i none }
      (log ++ [⟨action, decidedAt, s.clock⟩]) := by
  obtain ⟨n, hn⟩ := h.lock
  have hnone : ∀ j, Function.update s.allowed i none j = none := by
    intro j
    by_cases hji : j = i
    · rw [hji, Function.update_self]
    · rw [Function.update_of_ne hji]
      cases hj : s.allowed j with
      | none => rfl
      | some entry => exact absurd (holds_unique hn (h.held j entry hj) (h.held i _ hi)) hji
  refine ⟨⟨n, hn⟩, fun j entry hj => ?_, fun j entry hj => ?_, fun j entry hj => ?_, fun d hd => ?_, fun d hd hk => ?_,
    fun d hd => ?_, ?_⟩
  · exact absurd ((hnone j).symm.trans hj) (by simp)
  · exact absurd ((hnone j).symm.trans hj) (by simp)
  · exact absurd ((hnone j).symm.trans hj) (by simp)
  · rcases List.mem_append.1 hd with hd | hd
    · exact h.past d hd
    · obtain rfl := List.mem_singleton.1 hd
      exact le_refl s.clock
  · rcases List.mem_append.1 hd with hd | hd
    · exact (h.booked d hd hk).markDispatched (h.past d hd) action
    · obtain rfl := List.mem_singleton.1 hd
      exact booked_own hk
  · rcases List.mem_append.1 hd with hd | hd
    · exact h.dispatched d hd
    · obtain rfl := List.mem_singleton.1 hd
      exact h.named i _ hi
  · refine List.pairwise_append.2 ⟨h.spaced, List.pairwise_singleton .., fun d hd later hlater => ?_⟩
    obtain rfl := List.mem_singleton.1 hlater
    exact fun hk hw => h.waited i _ hi d hd hk hw

theorem Paced.step (h : Paced runtime s log) (e : CycleEvent R) :
    Paced runtime (cycleStep runtime s e) (log ++ dispatchedBy s e) := by
  cases e with
  | tick ms =>
    rw [show dispatchedBy s (.tick ms : CycleEvent R) = [] from rfl, List.append_nil]
    exact h.later rfl rfl (by omega)
  | elsewhere db =>
    rw [show dispatchedBy s (.elsewhere db : CycleEvent R) = [] from rfl, List.append_nil]
    exact h.later rfl rfl (le_refl _)
  | lock e =>
    rw [show dispatchedBy s (.lock e : CycleEvent R) = [] from rfl, List.append_nil]
    exact h.lockStep e
  | decide i controls t candidate =>
    rw [show dispatchedBy s (.decide i controls t candidate : CycleEvent R) = [] from rfl, List.append_nil]
    unfold cycleStep
    dsimp only
    split
    · rename_i hcond
      obtain ⟨hi, -, hclock, ht⟩ := hcond
      exact h.decide hi controls ht hclock candidate
    · exact h
  | dispatch i =>
    unfold cycleStep dispatchedBy
    dsimp only
    split
    · cases hi : s.allowed i with
      | none =>
        rw [List.append_nil]
        exact h
      | some entry => exact h.dispatch hi
    · rw [List.append_nil]
      exact h
  | restart =>
    rw [show dispatchedBy s (.restart : CycleEvent R) = [] from rfl, List.append_nil]
    exact h.restart

/-! ## Runs -/

theorem paced_run (db : Db) (clock : Int) (es : List (CycleEvent R)) :
    Paced runtime (after (cycleStep runtime) (booted db clock) es) (dispatches runtime db clock es) := by
  unfold dispatches
  induction es using List.reverseRecOn with
  | nil => exact paced_booted db clock
  | append_singleton es e ih =>
    rw [after_snoc, collect_snoc]
    exact ih.step e

/-- **Pacing**: in every run of both pipelines, whoever holds the lock when, an action that waits was decided at least the
policy's pauses after every earlier dispatch that moved funds. -/
theorem dispatches_spaced (runtime : Runtime) (db : Db) (clock : Int) (es : List (CycleEvent R)) :
    (dispatches runtime db clock es).Pairwise fun earlier later =>
      earlier.action.kind ≠ .approve → waits later.action = true →
        Spaced runtime.policy earlier later.action later.decidedAt :=
  (paced_run db clock es).spaced

end

/-! ### An approval and its swap -/

def liveSwap : ProposedAction := { Engine.paperSwap with mode := .LIVE }

def liveHost : Host :=
  Engine.hostKnowingBoth ("atra-action-v1|6f1c1f0e-0000-4000-8000-00000000c9c1|base|swap|aerodrome-v2|" ++
      "0x833589fcd6edb6e08f4c7c32d4f71b54bda02913|0x4200000000000000000000000000000000000006|20000000|false")
    "ae098c2161dbb00f57ba034ab8cdd492ac4ea2914df322cce7531742b5a251e4"
    ("atra-action-v1|6f1c1f0e-0000-4000-8000-00000000c9c1|base|approve|aerodrome-v2|" ++
      "0x833589fcd6edb6e08f4c7c32d4f71b54bda02913|0x833589fcd6edb6e08f4c7c32d4f71b54bda02913|20000000|false")
    "8cdc66a90dd45eac098e38d0ff84a212efefb1aa280c3e88c466f0fe23b66a87"

/-- The approval of the swap's input. -/
def liveApproval : ProposedAction :=
  let input : ApprovalInput :=
    { decisionCycleId := liveSwap.decisionCycleId, source := .llm, actionId := "6f1c1f0e-0000-4000-8000-00000000a005"
      now := 1700000001000, feeEstimate := ⟨1700000001000, .evm "60000" "1000000"⟩ }
  ProposalBuilder.withKey liveHost (Approval.approveCandidate liveSwap input liveSwap.tokenIn 20000000 none
    "exact approval of 20000000 for the swap that follows")

def liveRuntime : Runtime := ⟨liveHost, defaultRiskPolicy CHAIN_IDS, "", fun _ _ => ("", "")⟩

def liveControls : Controls :=
  ⟨some .LIVE, ⟨false, false, none, none⟩, ⟨fun _ => none, some 1699999990000⟩⟩

/-- One cycle: the approval, and a second later the swap. -/
def enabledSwap : List (CycleEvent Unit) :=
  [.lock .run, .lock (.resume 0),
    .decide 0 liveControls (.still 1700000001000)
      (.trade liveApproval (Approval.cutDown .base liveSwap.tokenIn.address none Engine.paperSnapshot) fun _ _ => none),
    .dispatch 0,
    .decide 0 liveControls (.still 1700000002000) (.trade liveSwap Engine.paperSnapshot fun _ _ => none),
    .dispatch 0]

/-- **A swap directly behind its approval**: the cooldown of all markets lies between no approval and its swap. -/
theorem swap_follows_approval : ¬ ∀ (runtime : Runtime) (db : Db) (clock : Int) (es : List (CycleEvent Unit)),
    (dispatches runtime db clock es).Pairwise fun earlier later =>
      waits later.action = true → Spaced runtime.policy earlier later.action later.decidedAt := by
  intro h
  have hrun : (dispatches liveRuntime Db.empty 1700000000000 enabledSwap).map
      (fun d => (waits d.action, d.decidedAt, d.dispatchedAt)) =
        [(false, 1700000001000, 1700000001000), (true, 1700000002000, 1700000002000)] := by
    decide +kernel
  obtain ⟨earlier, rest, hlist, hearlier, hrest⟩ := List.map_eq_cons_iff.1 hrun
  obtain ⟨later, more, rfl, hlater, -⟩ := List.map_eq_cons_iff.1 hrest
  have hpair := h liveRuntime Db.empty 1700000000000 enabledSwap
  rw [hlist] at hpair
  obtain ⟨hwaits, hdecided, -⟩ : waits later.action = true ∧ later.decidedAt = 1700000002000 ∧ _ := by
    simpa only [Prod.mk.injEq] using hlater
  obtain ⟨-, -, hdispatched⟩ : _ ∧ _ ∧ earlier.dispatchedAt = 1700000001000 := by
    simpa only [Prod.mk.injEq] using hearlier
  have hspaced := ((List.pairwise_cons.1 hpair).1 later (List.mem_cons_self ..) hwaits).anyMarket
  have hpause : liveRuntime.policy.globalMinIntervalSeconds = 60 := rfl
  rw [hdecided, hdispatched, hpause] at hspaced
  omega

end Pacing
end Atra
