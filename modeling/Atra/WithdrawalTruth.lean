import Atra.WithdrawalSafety
/-!
# WithdrawalTruth — what a row says of its hash, and what the chain decided

A row says `confirmed` only of a hash the chain confirmed.  It says `failed` after an error of the broadcast, too, when the
network may have taken the bytes, and `refresh` asks only about rows that say `submitted`: a row that was given up, or left
`simulated` by a crash, is never put right.  In runs without these a finished `refresh` leaves what the chain decided.
-/
namespace Atra
namespace Wallet

open Money History

section
variable {deps : WithdrawalDeps} {chain : String → Option Final} {s s' : WithdrawalState} {e : WithdrawalEvent}

/-! ## The end of a refresh -/

/-- The call of `refresh` that an event ends, by its row. -/
def completes (chain : String → Option Final) (s : WithdrawalState) : WithdrawalEvent → Option String
  | .refresh txId adapter => if s.idle = true ∧ refreshStart txId adapter s = none then some txId else none
  | .polled i ok => if s.idle then match s.jobs[i]? with
      | some ⟨txId, _, .refreshing hash⟩ => if (if ok then reported chain s hash else none) = none then some txId else none
      | _ => none
    else none
  | .statement i => match s.jobs[i]? with
    | some ⟨txId, _, .refreshed _ _⟩ => some txId
    | _ => none
  | _ => none

/-- The chain could be asked: there is an adapter, and its answer came. -/
def asked : WithdrawalEvent → Bool
  | .refresh _ adapter => adapter
  | .polled _ ok => ok
  | _ => true

/-- What the chain has decided about the hash of a row is what the row says. -/
def Truthful (chain : String → Option Final) (s : WithdrawalState) (txId : String) : Prop :=
  ∀ row hash verdict, s.rows.get txId = some row → row.txHash = some hash → reported chain s hash = some verdict →
    row.status = verdict.status

/-- No broadcast ends in an error of a transaction the chain confirms, and no refresh comes for a row that is still `simulated`
when the chain has decided about its hash. -/
def Steady (chain : String → Option Final) (s : WithdrawalState) : WithdrawalEvent → Prop
  | .broadcast i (some _) => ∀ txId on signed, s.jobs[i]? = some ⟨txId, on, .broadcasting signed⟩ →
    chain signed.hash ≠ some .confirmed
  | .refresh txId true => ∀ row hash, s.rows.get txId = some row → row.status = .simulated → row.txHash = some hash →
    reported chain s hash = none
  | _ => True

/-! ## Rows -/

/-- What the chain said to a call that is about to write it. -/
def Phase.heard : Phase → Option (String × Final)
  | .settle hash verdict => some (hash, verdict)
  | .refreshed hash verdict => some (hash, verdict)
  | _ => none

def Phase.givesUp : Phase → Option String
  | .fail _ txHash => txHash
  | _ => none

/-- A row after an event is one that was there, or a new one, or one that a statement wrote. -/
theorem Did.row_cases (h : Did deps chain s e s') {id : String} {row : TxRow} (hrow : s'.rows.get id = some row) :
    s.rows.get id = some row ∨ row.status = .prepared ∧ row.txHash = none ∨
      ∃ (i : Nat) (j : Job) (old : TxRow) (write : TxRow → TxRow) (phase : Phase), s.jobs[i]? = some j ∧
        s.rows.get j.txId = some old ∧ statementOf s.clock j.phase = some (write, phase) ∧
        row.status = (write old).status ∧ row.txHash = (write old).txHash := by
  cases h with
  | time | lands | restarts | forgets | quotes | refreshes | moves => exact .inl hrow
  | starts call pending quotes hquotes htaken hpending hfresh hkey =>
    dsimp only at hrow
    rw [Table.get_put] at hrow
    split at hrow
    · obtain rfl := Option.some.inj hrow
      exact .inr (.inl ⟨rfl, rfl⟩)
    · exact .inl hrow
  | writes i j he hj =>
    unfold runStatement at hrow
    split at hrow
    · rename_i write phase hs
      replace hrow : (s.edit j.txId write).rows.get id = some row := hrow
      rw [get_edit] at hrow
      split at hrow
      · obtain ⟨old, hold, rfl⟩ := Option.map_eq_some_iff.1 hrow
        exact .inr (.inr ⟨i, j, old, write, phase, hj, hold, hs, rfl, rfl⟩)
      · exact .inl hrow
    · exact .inl hrow

/-- The phase of a call after an event is the one it had, or the first of a new call, or what an answer or a statement led to. -/
theorem Did.phase_cases (h : Did deps chain s e s') {k : Nat} {x : Job} (hx : s'.jobs[k]? = some x) :
    s.jobs[k]? = some x ∨ x.phase.heard = none ∧ x.phase.givesUp = none ∨
      (∃ i j, e.target = some i ∧ s.jobs[i]? = some j ∧ answered deps chain s j e = some x.phase) ∨
      ∃ (j : Job) (write : TxRow → TxRow), statementOf s.clock j.phase = some (write, x.phase) := by
  cases h with
  | time | lands | forgets | quotes => exact .inl hx
  | restarts => cases hx
  | starts | refreshes =>
    rcases appended_job hx with hold | ⟨-, rfl⟩
    · exact .inl hold
    · exact .inr (.inl ⟨rfl, rfl⟩)
  | moves i j phase hi hidle hj ha =>
    obtain ⟨x', hx', hid, hchain, hp⟩ := setPhase_job hx
    split at hp
    · exact .inr (.inr (.inl ⟨i, j, hi, hj, hp ▸ ha⟩))
    · refine .inl ?_
      cases x
      cases x'
      cases hid
      cases hchain
      cases hp
      exact hx'
  | writes i j he hj =>
    unfold runStatement at hx
    split at hx
    · rename_i write phase hs
      obtain ⟨x', hx', hid, hchain, hp⟩ := setPhase_job hx
      rw [edit_jobs] at hx'
      split at hp
      · exact .inr (.inr (.inr ⟨j, write, hp ▸ hs⟩))
      · refine .inl ?_
        cases x
        cases x'
        cases hid
        cases hchain
        cases hp
        exact hx'
    · exact .inl hx

theorem Did.landed (h : Did deps chain s e s') : ∀ hash ∈ s.landed, hash ∈ s'.landed := by
  intro hash hmem
  cases h with
  | time | restarts | forgets | quotes | starts | refreshes | moves => exact hmem
  | lands hash' h => exact List.mem_cons_of_mem _ hmem
  | writes i j he hj =>
    unfold runStatement
    split
    · unfold WithdrawalState.edit
      split
      · exact hmem
      · exact hmem
    · exact hmem

theorem reported_iff {hash : String} {verdict : Final} :
    reported chain s hash = some verdict ↔ hash ∈ s.landed ∧ chain hash = some verdict := by
  refine ⟨reported_some, fun h => ?_⟩
  unfold reported
  rw [if_pos h.1]
  exact h.2

theorem Did.reported (h : Did deps chain s e s') {hash : String} {verdict : Final}
    (hr : reported chain s hash = some verdict) : Wallet.reported chain s' hash = some verdict := by
  obtain ⟨hmem, hv⟩ := reported_iff.1 hr
  exact reported_iff.2 ⟨h.landed hash hmem, hv⟩

theorem statement_quiet {phase next : Phase} {clock : Int} {write : TxRow → TxRow}
    (h : statementOf clock phase = some (write, next)) : next.heard = none ∧ next.givesUp = none := by
  cases phase <;> simp only [statementOf, reduceCtorEq, Option.some.injEq, Prod.mk.injEq] at h
  all_goals
    obtain ⟨-, rfl⟩ := h
    exact ⟨rfl, rfl⟩

theorem answered_heard {j : Job} {phase : Phase} {hash : String} {verdict : Final}
    (h : answered deps chain s j e = some phase) (hheard : phase.heard = some (hash, verdict)) :
    reported chain s hash = some verdict := by
  unfold answered at h
  split at h
  · split at h
    · cases h
      unfold signNext at hheard
      split at hheard
      · cases hheard
      · split at hheard
        · cases hheard
        · cases hheard
    · cases h
  · split at h
    · cases h
      split at hheard
      · cases hheard
      · cases hheard
    · cases h
  · rename_i ok
    split at h
    · cases h
      split at hheard
      · rename_i v hv
        cases hheard
        cases ok with
        | false => cases hv
        | true => exact hv
      · cases hheard
    · cases h
      split at hheard
      · rename_i v hv
        cases hheard
        cases ok with
        | false => cases hv
        | true => exact hv
      · cases hheard
    · cases h
  · split at h
    · cases h
      split at hheard
      · cases hheard
      · cases hheard
    · cases h
  · cases h

theorem answered_givesUp {j : Job} {phase : Phase} {hash : String} (h : answered deps chain s j e = some phase)
    (hgives : phase.givesUp = some hash) :
    ∃ i message signed, e = .broadcast i (some message) ∧ j.phase = .broadcasting signed ∧ signed.hash = hash := by
  unfold answered at h
  split at h
  · split at h
    · cases h
      unfold signNext at hgives
      split at hgives
      · cases hgives
      · split at hgives
        · cases hgives
        · cases hgives
    · cases h
  · rename_i i error
    split at h
    · rename_i signed hp
      cases h
      cases error with
      | none => cases hgives
      | some message => exact ⟨i, message, signed, rfl, hp, Option.some.inj hgives⟩
    · cases h
  · split at h
    · cases h
      split at hgives
      · cases hgives
      · cases hgives
    · cases h
      split at hgives
      · cases hgives
      · cases hgives
    · cases h
  · split at h
    · cases h
      split at hgives
      · cases hgives
      · cases hgives
    · cases h
  · cases h

/-! ## What holds in every run -/

/-- What a row may say: `confirmed` of a hash the chain reports so, `prepared` without a hash, and nothing of cancelling. -/
structure Told (chain : String → Option Final) (s : WithdrawalState) (row : TxRow) : Prop where
  confirmed : row.status = .confirmed → ∃ hash, row.txHash = some hash ∧ reported chain s hash = some .confirmed
  prepared : row.status = .prepared → row.txHash = none
  active : row.status ≠ .cancelled

structure Heard (chain : String → Option Final) (s : WithdrawalState) : Prop where
  rows : ∀ id row, s.rows.get id = some row → Told chain s row
  calls : ∀ (i : Nat) (j : Job) (hash : String) (verdict : Final), s.jobs[i]? = some j →
    j.phase.heard = some (hash, verdict) → reported chain s hash = some verdict

theorem Told.did {row : TxRow} (h : Told chain s row) (hdid : Did deps chain s e s') : Told chain s' row where
  confirmed hstatus := by
    obtain ⟨hash, hhash, hr⟩ := h.confirmed hstatus
    exact ⟨hash, hhash, hdid.reported hr⟩
  prepared := h.prepared
  active := h.active

theorem told_verdict {row : TxRow} {hash : String} {verdict : Final} (hhash : row.txHash = some hash)
    (hstatus : row.status = verdict.status) (hr : reported chain s hash = some verdict) : Told chain s row := by
  cases verdict with
  | confirmed =>
    refine ⟨fun _ => ⟨hash, hhash, hr⟩, fun h => ?_, fun h => ?_⟩
    · rw [hstatus] at h
      cases h
    · rw [hstatus] at h
      cases h
  | failed =>
    refine ⟨fun h => ?_, fun h => ?_, fun h => ?_⟩
    · rw [hstatus] at h
      cases h
    · rw [hstatus] at h
      cases h
    · rw [hstatus] at h
      cases h

/-- The row a statement leaves may say what it says. -/
theorem Told.written {row : TxRow} {phase next : Phase} {clock : Int} {write : TxRow → TxRow}
    (hrow : Told chain s row) (hagrees : Agrees row phase)
    (hheard : ∀ hash verdict, phase.heard = some (hash, verdict) → reported chain s hash = some verdict)
    (hs : statementOf clock phase = some (write, next)) : Told chain s (write row) := by
  cases phase <;> simp only [statementOf, reduceCtorEq, Option.some.injEq, Prod.mk.injEq] at hs
  case send signed =>
    obtain ⟨rfl, -⟩ := hs
    exact hrow
  case settle hash verdict =>
    obtain ⟨rfl, -⟩ := hs
    exact told_verdict hagrees.1 rfl (hheard hash verdict rfl)
  case refreshed hash verdict =>
    obtain ⟨rfl, -⟩ := hs
    exact told_verdict hagrees.1 rfl (hheard hash verdict rfl)
  all_goals
    obtain ⟨rfl, -⟩ := hs
    constructor
    · intro h
      cases h
    · intro h
      cases h
    · intro h
      cases h

theorem Heard.did (h : Heard chain s) (hsound : Sound s) (hdid : Did deps chain s e s') : Heard chain s' where
  rows id row hrow := by
    rcases hdid.row_cases hrow with hold | ⟨hstatus, hhash⟩ | ⟨i, j, old, write, phase, hj, hold, hs, hstatus, hhash⟩
    · exact (h.rows id row hold).did hdid
    · refine ⟨fun hc => ?_, fun _ => hhash, fun hc => ?_⟩
      · rw [hstatus] at hc
        cases hc
      · rw [hstatus] at hc
        cases hc
    · obtain ⟨row', hrow', -, hagrees⟩ := hsound.agrees i j hj
      obtain rfl : old = row' := Option.some.inj (hold.symm.trans hrow')
      have hwritten := ((h.rows _ old hold).written hagrees (fun hash verdict => h.calls i j hash verdict hj) hs).did hdid
      exact ⟨hstatus ▸ hhash ▸ hwritten.confirmed, hstatus ▸ hhash ▸ hwritten.prepared, hstatus ▸ hwritten.active⟩
  calls k x hash verdict hx hheard := by
    rcases hdid.phase_cases hx with hold | ⟨hnone, -⟩ | ⟨i, j, -, -, ha⟩ | ⟨j, write, hs⟩
    · exact hdid.reported (h.calls k x hash verdict hold hheard)
    · rw [hnone] at hheard
      cases hheard
    · exact hdid.reported (answered_heard ha hheard)
    · rw [(statement_quiet hs).1] at hheard
      cases hheard

theorem withdrawals_heard (clock : Int) (es : List WithdrawalEvent) : Heard chain (withdrawals deps chain clock es) := by
  induction es using List.reverseRecOn with
  | nil =>
    constructor
    · intro id row hrow
      cases hrow
    · intro i j hash verdict hj
      cases hj
  | append_singleton es e ih =>
    rw [withdrawals_snoc]
    exact ih.did (withdrawals_sound clock es) (did_step deps chain _ e)

/-! ## What holds in steady runs -/

/-- Nothing is given up, or said to have failed, that the chain confirms. -/
structure Unlost (chain : String → Option Final) (s : WithdrawalState) : Prop where
  rows : ∀ id row hash, s.rows.get id = some row → row.status = .failed → row.txHash = some hash →
    chain hash ≠ some .confirmed
  calls : ∀ (i : Nat) (j : Job) (hash : String), s.jobs[i]? = some j → j.phase.givesUp = some hash →
    chain hash ≠ some .confirmed

theorem Unlost.did (h : Unlost chain s) (hheard : Heard chain s) (hsound : Sound s) (hsteady : Steady chain s e)
    (hdid : Did deps chain s e s') : Unlost chain s' where
  rows id row hash hrow hstatus hhash := by
    rcases hdid.row_cases hrow with hold | ⟨hprepared, -⟩ | ⟨i, j, old, write, phase, hj, hold, hs, hstatus', hhash'⟩
    · exact h.rows id row hash hold hstatus hhash
    · rw [hprepared] at hstatus
      cases hstatus
    · rw [hstatus'] at hstatus
      rw [hhash'] at hhash
      obtain ⟨row', hrow', -, hagrees⟩ := hsound.agrees i j hj
      obtain rfl : old = row' := Option.some.inj (hold.symm.trans hrow')
      have hverdict : ∀ (hash' : String) (verdict : Final), j.phase.heard = some (hash', verdict) → old.txHash = some hash →
          old.txHash = some hash' → verdict.status = .failed → chain hash ≠ some .confirmed := by
        intro hash' verdict hj' hhash hagreed hfailed hconfirmed
        obtain rfl : hash = hash' := Option.some.inj (hhash.symm.trans hagreed)
        have hr := (reported_iff.1 (hheard.calls i j hash verdict hj hj')).2
        rw [hconfirmed] at hr
        cases hr
        cases hfailed
      cases hp : j.phase <;> rw [hp] at hs hagrees <;>
        simp only [statementOf, reduceCtorEq, Option.some.injEq, Prod.mk.injEq] at hs
      case record | submit =>
        obtain ⟨rfl, -⟩ := hs
        cases hstatus
      case send =>
        obtain ⟨rfl, -⟩ := hs
        rw [hagrees.2] at hstatus
        cases hstatus
      case settle hash' verdict =>
        obtain ⟨rfl, -⟩ := hs
        exact hverdict hash' verdict (by rw [hp]; rfl) hhash hagrees.1 hstatus
      case refreshed hash' verdict =>
        obtain ⟨rfl, -⟩ := hs
        exact hverdict hash' verdict (by rw [hp]; rfl) hhash hagrees.1 hstatus
      case fail reason txHash =>
        obtain ⟨rfl, -⟩ := hs
        refine h.calls i j hash hj ?_
        rw [hp]
        exact hagrees.1.symm.trans hhash
  calls k x hash hx hgives := by
    rcases hdid.phase_cases hx with hold | ⟨-, hnone⟩ | ⟨i, j, hi, hj, ha⟩ | ⟨j, write, hs⟩
    · exact h.calls k x hash hold hgives
    · rw [hnone] at hgives
      cases hgives
    · obtain ⟨i', message, signed, rfl, hp, rfl⟩ := answered_givesUp ha hgives
      cases hi
      obtain ⟨txId, on, phase⟩ := j
      cases hp
      exact hsteady txId on signed hj
    · rw [(statement_quiet hs).2] at hgives
      cases hgives

theorem withdrawals_unlost {clock : Int} {es : List WithdrawalEvent}
    (hsteady : Along (withdrawalStep deps chain) (Steady chain) (newWithdrawals clock) es) :
    Unlost chain (withdrawals deps chain clock es) := by
  induction es using List.reverseRecOn with
  | nil =>
    constructor
    · intro id row hash hrow
      cases hrow
    · intro i j hash hj
      cases hj
  | append_singleton es e ih =>
    obtain ⟨hpre, he⟩ := along_snoc.1 hsteady
    rw [withdrawals_snoc]
    exact (ih hpre).did (withdrawals_heard clock es) (withdrawals_sound clock es) he (did_step deps chain _ e)

/-! ## When a refresh has ended -/

/-- A refresh that asks nothing leaves what the chain decided, where the row was not left behind. -/
theorem unasked_truthful {txId : String} (hheard : Heard chain s) (hunlost : Unlost chain s)
    (hsteady : Steady chain s (.refresh txId true)) (hnone : refreshStart txId true s = none) : Truthful chain s txId := by
  intro row hash verdict hrow hhash hr
  have htold := hheard.rows txId row hrow
  cases hstatus : row.status with
  | prepared =>
    rw [htold.prepared hstatus] at hhash
    cases hhash
  | simulated =>
    rw [hsteady row hash hrow hstatus hhash] at hr
    cases hr
  | submitted =>
    unfold refreshStart at hnone
    rw [hrow] at hnone
    dsimp only at hnone
    rw [hstatus, hhash] at hnone
    cases hnone
  | confirmed =>
    obtain ⟨hash', hhash', hr'⟩ := htold.confirmed hstatus
    obtain rfl : hash = hash' := Option.some.inj (hhash.symm.trans hhash')
    rw [hr] at hr'
    cases hr'
    rfl
  | failed =>
    cases verdict with
    | confirmed => exact absurd (reported_iff.1 hr).2 (hunlost.rows txId row hash hrow hstatus hhash)
    | failed => rfl
  | cancelled => exact absurd hstatus htold.active

/-- A poll of `refresh` that was answered, and ends it, found nothing decided. -/
theorem polled_truthful {i : Nat} {txId : String} (hsound : Sound s)
    (hends : completes chain s (.polled i true) = some txId) : Truthful chain (withdrawalStep deps chain s (.polled i true)) txId := by
  unfold completes at hends
  dsimp only at hends
  split at hends
  swap
  · cases hends
  rename_i hidle
  split at hends
  swap
  · cases hends
  rename_i id on hash hj
  simp only [↓reduceIte] at hends
  split at hends
  swap
  · cases hends
  rename_i hnone
  cases hends
  obtain ⟨row, hrow, -, hagrees⟩ := hsound.agrees i _ hj
  have hstep : withdrawalStep deps chain s (.polled i true) = s.setPhase i .done := by
    simp [withdrawalStep, answer, hidle, hj, answered, hnone]
  rw [hstep]
  intro row' hash' verdict hrow' hhash' hr
  obtain rfl : row = row' := Option.some.inj (hrow.symm.trans hrow')
  obtain rfl : hash = hash' := Option.some.inj (hagrees.1.symm.trans hhash')
  rw [show reported chain (s.setPhase i .done) hash = reported chain s hash from rfl, hnone] at hr
  cases hr

/-- The last statement of `refresh` writes what the chain said of the hash of its row. -/
theorem refreshed_truthful {i : Nat} {txId : String} (hheard : Heard chain s) (hsound : Sound s)
    (hends : completes chain s (.statement i) = some txId) : Truthful chain (withdrawalStep deps chain s (.statement i)) txId := by
  unfold completes at hends
  dsimp only at hends
  split at hends
  swap
  · cases hends
  rename_i id on hash verdict hj
  cases hends
  obtain ⟨row, hrow, -, hagrees⟩ := hsound.agrees i _ hj
  have hr := hheard.calls i _ hash verdict hj rfl
  have hstep : withdrawalStep deps chain s (.statement i) =
      (s.edit txId fun row => { row with status := verdict.status }).setPhase i .done := by
    simp [withdrawalStep, hj, runStatement, statementOf]
  intro row' hash' verdict' hrow' hhash' hr'
  rw [hstep] at hrow'
  replace hrow' : (s.edit txId fun row => { row with status := verdict.status }).rows.get txId = some row' := hrow'
  rw [get_edit, if_pos rfl, hrow] at hrow'
  cases hrow'
  obtain rfl : hash = hash' := Option.some.inj (hagrees.1.symm.trans hhash')
  have hdecided := (reported_iff.1 hr).2
  rw [(reported_iff.1 hr').2] at hdecided
  cases hdecided
  rfl

/-- **What a status says of its hash.**  In every run a row says `confirmed` only of a hash the chain reports so.  In a run
without an erring broadcast of a transaction the chain confirms, and without a refresh of a row left `simulated` though its
hash is decided, no row says `failed` of a hash the chain confirms, and a refresh that could ask leaves what the chain decided. -/
theorem status_truthful (clock : Int) (es : List WithdrawalEvent) :
    (∀ id row, (withdrawals deps chain clock es).rows.get id = some row → row.status = .confirmed →
      ∃ hash, row.txHash = some hash ∧ reported chain (withdrawals deps chain clock es) hash = some .confirmed) ∧
    (Along (withdrawalStep deps chain) (Steady chain) (newWithdrawals clock) es →
      ∀ id row hash, (withdrawals deps chain clock es).rows.get id = some row → row.status = .failed →
        row.txHash = some hash → chain hash ≠ some .confirmed) ∧
    ∀ e, Along (withdrawalStep deps chain) (Steady chain) (newWithdrawals clock) (es ++ [e]) → asked e = true →
      ∀ txId, completes chain (withdrawals deps chain clock es) e = some txId →
        Truthful chain (withdrawals deps chain clock (es ++ [e])) txId := by
  have hheard := @withdrawals_heard deps chain clock es
  refine ⟨fun id row hrow => (hheard.rows id row hrow).confirmed, fun hsteady => (withdrawals_unlost hsteady).rows,
    fun e hsteady hasked txId hends => ?_⟩
  obtain ⟨hpre, he⟩ := along_snoc.1 hsteady
  have hsound := @withdrawals_sound deps chain clock es
  rw [withdrawals_snoc]
  cases e with
  | refresh id adapter =>
    obtain rfl : adapter = true := hasked
    unfold completes at hends
    dsimp only at hends
    split at hends
    · rename_i hstart
      cases hends
      have hstep : withdrawalStep deps chain (withdrawals deps chain clock es) (.refresh txId true) =
          withdrawals deps chain clock es := by
        simp [withdrawalStep, hstart.1, hstart.2]
      rw [hstep]
      exact unasked_truthful hheard (withdrawals_unlost hpre) he hstart.2
    · cases hends
  | polled i ok =>
    obtain rfl : ok = true := hasked
    exact polled_truthful hsound hends
  | statement i => exact refreshed_truthful hheard hsound hends
  | tick | quoteBegins | quoted | withdraw | context | broadcast | woke | lands | restart => cases hends

end

/-! ## An answer that was lost -/

/-- The network takes the bytes, but the answer is lost; the chain confirms them, and the row is refreshed. -/
def lostAnswer : List WithdrawalEvent :=
  signing .ETH "0.001" ++ [.statement 0, .statement 0, .broadcast 0 (some "timeout"), .statement 0, .lands "hash of 0x02f8"]

theorem lost_answer_failed :
    completes (fun _ => some .confirmed) (withdrawals sampleDeps (fun _ => some .confirmed) 0 lostAnswer)
      (.refresh "transaction" true) = some "transaction" ∧
    ¬ Truthful (fun _ => some .confirmed) (withdrawals sampleDeps (fun _ => some .confirmed) 0
      (lostAnswer ++ [.refresh "transaction" true])) "transaction" := by
  refine ⟨by decide +kernel, fun h => ?_⟩
  have hrow : ((withdrawals sampleDeps (fun _ => some .confirmed) 0
      (lostAnswer ++ [.refresh "transaction" true])).rows.get "transaction").map
        (fun row => (row.txHash, row.status)) = some (some "hash of 0x02f8", .failed) := by decide +kernel
  obtain ⟨row, hget, hfields⟩ := Option.map_eq_some_iff.1 hrow
  obtain ⟨hhash, hstatus⟩ := Prod.mk.inj hfields
  have := h row "hash of 0x02f8" .confirmed hget hhash (by decide +kernel)
  rw [hstatus] at this
  cases this

/-- With its answer, the withdrawal is submitted; the poll of a refresh finds it confirmed. -/
def refreshedInTime : List WithdrawalEvent :=
  signing .ETH "0.001" ++ [.statement 0, .statement 0, .broadcast 0 none, .statement 0, .lands "hash of 0x02f8",
    .refresh "transaction" true, .polled 1 true]

theorem refreshed_steady :
    Along (withdrawalStep sampleDeps fun _ => some .confirmed) (Steady fun _ => some .confirmed) (newWithdrawals 0)
      (refreshedInTime ++ [.statement 1]) := by
  refine ⟨trivial, trivial, trivial, trivial, trivial, trivial, trivial, trivial, ?_, trivial, trivial, trivial⟩
  intro row hash hrow hstatus hhash
  have hsubmitted : ((withdrawals sampleDeps (fun _ => some .confirmed) 0 (refreshedInTime.take 8)).rows.get
      "transaction").map (·.status) = some .submitted := by decide +kernel
  replace hrow : (withdrawals sampleDeps (fun _ => some .confirmed) 0 (refreshedInTime.take 8)).rows.get
    "transaction" = some row := hrow
  rw [hrow] at hsubmitted
  rw [Option.map_some, hstatus] at hsubmitted
  cases hsubmitted

theorem status_truthful_refreshed :
    completes (fun _ => some .confirmed) (withdrawals sampleDeps (fun _ => some .confirmed) 0 refreshedInTime)
      (.statement 1) = some "transaction" ∧
    Truthful (fun _ => some .confirmed) (withdrawals sampleDeps (fun _ => some .confirmed) 0
      (refreshedInTime ++ [.statement 1])) "transaction" := by
  have hends : completes (fun _ => some .confirmed) (withdrawals sampleDeps (fun _ => some .confirmed) 0 refreshedInTime)
      (.statement 1) = some "transaction" := by decide +kernel
  exact ⟨hends, (status_truthful 0 refreshedInTime).2.2 (.statement 1) refreshed_steady rfl "transaction" hends⟩

end Wallet
end Atra
