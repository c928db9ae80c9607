import Atra.WithdrawalRuns
/-!
# WithdrawalSafety — a withdrawal is signed once, and what is signed is what was quoted

A quote is in memory, or with the call that took it, or behind a signature: never in two of these places.  A row belongs to one
call until it is signed.  So no quote and no key is behind two signatures, over any interleaving of calls and across restarts.
What is signed is the prepared transfer of the quote; that one carries the quoted amount unless the quote was for all of a
balance of nothing, when the amount it was priced with, one unit, stays in it.
-/
namespace Atra
namespace Wallet

open Money History

/-- A use of the signing key by a withdrawal. -/
structure Signature where
  txId : String
  pending : PendingQuote
  key : Option String
  chain : ChainId
  context : SigningContext
  raw : String

def Signature.quoteId (sig : Signature) : String := sig.pending.quote.quoteId

def signedBy (s : WithdrawalState) : WithdrawalEvent → List Signature
  | .context i fees signer =>
    if s.idle then match s.jobs[i]? with
      | some ⟨txId, chain, .context pending key⟩ =>
        match transferSigningContext chain pending.prepared.payload fees, signer with
        | .ok context, .ok raw => [⟨txId, pending, key, chain, context, raw⟩]
        | _, _ => []
      | _ => []
    else []
  | _ => []

/-- The call of `broadcastSigned` an event makes, and for which row. -/
def handedBy (s : WithdrawalState) : WithdrawalEvent → List (String × SignedTransaction)
  | .statement i => match s.jobs[i]? with
    | some ⟨txId, _, .send signed⟩ => [(txId, signed)]
    | _ => []
  | _ => []

/-- The quote a call that has not signed yet has taken, and its key. -/
def Job.taken (j : Job) : Option (PendingQuote × Option String) :=
  match j.phase with
  | .context pending key => some (pending, key)
  | _ => none

def Job.holds (quoteId : String) (j : Job) : Bool := j.taken.any fun t => t.1.quote.quoteId = quoteId

def Job.signs (txId : String) (j : Job) : Bool := j.taken.isSome && j.txId = txId

section
variable {deps : WithdrawalDeps} {chain : String → Option Final} {s s' : WithdrawalState} {e : WithdrawalEvent}
  {sigs : List Signature}

/-! ## Counting -/

/-- Where a quote is, apart from the signatures. -/
def WithdrawalState.quoteCount (s : WithdrawalState) (quoteId : String) : Nat :=
  s.quotes.countP (·.quote.quoteId = quoteId) + s.jobs.countP (Job.holds quoteId)

def WithdrawalState.rowCount (s : WithdrawalState) (txId : String) : Nat := s.jobs.countP (Job.signs txId)

theorem countP_setPhase (p : Job → Bool) (phase : Phase) {i : Nat} {j : Job} (hj : s.jobs[i]? = some j) :
    (s.setPhase i phase).jobs.countP p + (if p j then 1 else 0) =
      s.jobs.countP p + (if p { j with phase } then 1 else 0) := by
  obtain ⟨hi, hget⟩ := List.getElem?_eq_some_iff.1 hj
  have hle : (if p j then 1 else 0) ≤ s.jobs.countP p := by
    split
    · rename_i hp
      exact List.countP_pos_iff.2 ⟨j, List.mem_of_getElem? hj, hp⟩
    · exact Nat.zero_le _
  have hset : (s.setPhase i phase).jobs = s.jobs.set i { j with phase } := by
    apply List.ext_getElem?
    intro k
    show (s.jobs.modify i _)[k]? = _
    rw [List.getElem?_modify, List.getElem?_set]
    by_cases hk : i = k
    · subst hk
      simp [hi, hget]
    · simp [hk]
  rw [hset, List.countP_set hi, hget]
  omega

theorem not_taken_answered {j : Job} {phase : Phase} (h : answered deps chain s j e = some phase) :
    ({ j with phase } : Job).taken = none := by
  unfold answered at h
  split at h
  · split at h
    · cases h
      unfold signNext
      split
      · rfl
      · split
        · rfl
        · rfl
    · cases h
  · split at h
    · cases h
      split
      · rfl
      · rfl
    · cases h
  · split at h
    · cases h
      split
      · rfl
      · rfl
    · cases h
      split
      · rfl
      · rfl
    · cases h
  · split at h
    · cases h
      split
      · rfl
      · rfl
    · cases h
  · cases h

theorem not_taken_statement {j : Job} {phase next : Phase} {clock : Int} {write : TxRow → TxRow}
    (h : statementOf clock phase = some (write, next)) : ({ j with phase := next } : Job).taken = none := by
  cases phase <;> simp only [statementOf, reduceCtorEq, Option.some.injEq, Prod.mk.injEq] at h
  all_goals
    obtain ⟨-, rfl⟩ := h
    rfl

theorem holds_of_not_taken {j : Job} (h : j.taken = none) (quoteId : String) : j.holds quoteId = false := by
  unfold Job.holds
  rw [h]
  rfl

theorem signs_of_not_taken {j : Job} (h : j.taken = none) (txId : String) : j.signs txId = false := by
  unfold Job.signs
  rw [h]
  rfl

/-- A call that goes on from where it is takes no quote with it that it had not. -/
theorem advanced_counts (phase : Phase) {i : Nat} {j : Job} {t : WithdrawalState} (hj : s.jobs[i]? = some j)
    (hjobs : t.jobs = s.jobs) (hquotes : t.quotes = s.quotes) (h : ({ j with phase } : Job).taken = none) :
    (∀ id, (t.setPhase i phase).quoteCount id + (if j.holds id then 1 else 0) = s.quoteCount id) ∧
      ∀ id, (t.setPhase i phase).rowCount id + (if j.signs id then 1 else 0) = s.rowCount id := by
  rw [← hjobs] at hj
  constructor
  · intro id
    have := countP_setPhase (Job.holds id) phase hj
    rw [holds_of_not_taken h] at this
    unfold WithdrawalState.quoteCount
    rw [← hjobs, ← hquotes]
    show t.quotes.countP _ + _ + _ = _
    simp only [Bool.false_eq_true, if_false] at this
    omega
  · intro id
    have := countP_setPhase (Job.signs id) phase hj
    rw [signs_of_not_taken h] at this
    unfold WithdrawalState.rowCount
    rw [← hjobs]
    simp only [Bool.false_eq_true, if_false] at this
    omega

theorem edit_quotes (txId : String) (write : TxRow → TxRow) :
    (s.edit txId write).quotes = s.quotes ∧ (s.edit txId write).issued = s.issued := by
  unfold WithdrawalState.edit
  split
  · exact ⟨rfl, rfl⟩
  · exact ⟨rfl, rfl⟩

theorem Did.row (h : Did deps chain s e s') {id : String} {row : TxRow} (hrow : s.rows.get id = some row) :
    ∃ row', s'.rows.get id = some row' ∧ row'.idempotencyKey = row.idempotencyKey := by
  cases h with
  | time | lands | restarts | forgets | quotes | refreshes | moves => exact ⟨row, hrow, rfl⟩
  | starts call pending quotes hquotes htaken hpending hfresh hkey => exact ⟨row, get_of_fresh hfresh hrow, rfl⟩
  | writes i j he hj =>
    unfold runStatement
    split
    · rename_i write phase hs
      show ∃ row', (s.edit j.txId write).rows.get id = some row' ∧ _
      rw [get_edit]
      split
      · rename_i hid
        rw [hid] at hrow
        rw [hrow]
        exact ⟨_, rfl, (statement_keeps hs row).2⟩
      · exact ⟨row, hrow, rfl⟩
    · exact ⟨row, hrow, rfl⟩

/-- A row is one that was there, with its key, or the new one of a call that found no other row of its key. -/
theorem Did.row_before (h : Did deps chain s e s') {id : String} {row' : TxRow} (hrow : s'.rows.get id = some row') :
    (∃ row, s.rows.get id = some row ∧ row.idempotencyKey = row'.idempotencyKey) ∨
      s.rows.get id = none ∧ (∀ id', s.rows.get id' = none → (s'.rows.get id').isSome → id = id') ∧
        ∀ key, row'.idempotencyKey = some key → ∀ row ∈ s.rows.rows, row.idempotencyKey ≠ some key := by
  cases h with
  | time | lands | restarts | forgets | quotes | refreshes | moves => exact .inl ⟨row', hrow, rfl⟩
  | starts call pending quotes hquotes htaken hpending hfresh hkey =>
    dsimp only at hrow
    rw [Table.get_put] at hrow
    split at hrow
    · rename_i hid
      obtain rfl := Option.some.inj hrow
      refine .inr ⟨hid ▸ hfresh, fun id' hnone hsome => ?_, hkey⟩
      dsimp only at hsome
      rw [Table.get_put, hnone] at hsome
      split at hsome
      · rename_i hid'
        exact hid.trans hid'.symm
      · cases hsome
    · exact .inl ⟨row', hrow, rfl⟩
  | writes i j he hj =>
    unfold runStatement at hrow
    split at hrow
    · rename_i write phase hs
      replace hrow : (s.edit j.txId write).rows.get id = some row' := hrow
      rw [get_edit] at hrow
      split at hrow
      · rename_i hid
        obtain ⟨row, hget, rfl⟩ := Option.map_eq_some_iff.1 hrow
        exact .inl ⟨row, hid ▸ hget, (statement_keeps hs row).2.symm⟩
      · exact .inl ⟨row', hrow, rfl⟩
    · exact .inl ⟨row', hrow, rfl⟩

theorem Did.quoteCount (h : Did deps chain s e s') (id : String) :
    s'.quoteCount id ≤ s.quoteCount id ∧ (id ∈ s.issued → id ∈ s'.issued) ∨
      id ∉ s.issued ∧ id ∈ s'.issued ∧ s'.quoteCount id ≤ s.quoteCount id + 1 := by
  unfold WithdrawalState.quoteCount
  cases h with
  | time | lands => exact .inl ⟨le_refl _, fun h => h⟩
  | restarts => exact .inl ⟨Nat.zero_le _, fun h => h⟩
  | forgets quotes hsub => exact .inl ⟨Nat.add_le_add_right hsub.countP_le _, fun h => h⟩
  | quotes pending input world hfresh hquote =>
    dsimp only
    rw [List.countP_append, List.countP_singleton]
    by_cases hid : pending.quote.quoteId = id
    · refine .inr ⟨hid ▸ hfresh, hid ▸ List.mem_cons_self, ?_⟩
      rw [if_pos (by simpa using hid)]
      omega
    · refine .inl ⟨?_, List.mem_cons_of_mem _⟩
      rw [if_neg (by simpa using hid)]
      omega
  | starts call pending quotes hquotes htaken hpending hfresh hkey =>
    refine .inl ⟨?_, fun h => h⟩
    dsimp only
    rw [List.countP_append, List.countP_singleton]
    have hsub := hquotes.countP_le (p := (·.quote.quoteId = id))
    by_cases hid : pending.quote.quoteId = id
    · have hgone : quotes.countP (·.quote.quoteId = id) = 0 := by
        rw [List.countP_eq_zero]
        intro p hp
        simpa [← hid] using htaken p hp
      have hwas : 0 < s.quotes.countP (·.quote.quoteId = id) :=
        List.countP_pos_iff.2 ⟨pending, hpending, by simpa using hid⟩
      rw [hgone]
      split
      · omega
      · omega
    · rw [if_neg (by simpa [Job.holds, Job.taken] using hid)]
      omega
  | refreshes txId row hash hrow hstatus hhash =>
    refine .inl ⟨?_, fun h => h⟩
    dsimp only
    rw [List.countP_append, List.countP_singleton, if_neg (by simp [Job.holds, Job.taken])]
    omega
  | moves i j phase hi hidle hj ha =>
    refine .inl ⟨?_, fun h => h⟩
    have := (advanced_counts _ hj rfl rfl (not_taken_answered ha)).1 id
    unfold WithdrawalState.quoteCount at this
    omega
  | writes i j he hj =>
    unfold runStatement
    split
    · rename_i write phase hs
      have := (advanced_counts _ hj (edit_jobs j.txId write) (edit_quotes j.txId write).1 (not_taken_statement hs)).1 id
      unfold WithdrawalState.quoteCount at this
      refine .inl ⟨by omega, fun h => ?_⟩
      show id ∈ (s.edit j.txId write).issued
      rwa [(edit_quotes j.txId write).2]
    · exact .inl ⟨le_refl _, fun h => h⟩

/-- A row is with one more unsigned call only when it is new. -/
theorem Did.rowCount (h : Did deps chain s e s') (id : String) :
    s'.rowCount id ≤ s.rowCount id ∨ s.rows.get id = none ∧ (s'.rows.get id).isSome ∧ s'.rowCount id ≤ s.rowCount id + 1 := by
  unfold WithdrawalState.rowCount
  cases h with
  | time | lands | forgets | quotes => exact .inl (le_refl _)
  | restarts => exact .inl (Nat.zero_le _)
  | starts call pending quotes hquotes htaken hpending hfresh hkey =>
    dsimp only
    rw [List.countP_append, List.countP_singleton]
    by_cases hid : call.txId = id
    · refine .inr ⟨hid ▸ hfresh, ?_, ?_⟩
      · rw [Table.get_put, if_pos (show id = (rowOf call.txId pending call.idempotencyKey).id from hid.symm)]
        rfl
      · split
        · omega
        · omega
    · rw [if_neg (by simpa [Job.signs, Job.taken] using hid)]
      exact .inl (le_refl _)
  | refreshes txId row hash hrow hstatus hhash =>
    dsimp only
    rw [List.countP_append, List.countP_singleton, if_neg (by simp [Job.signs, Job.taken])]
    exact .inl (le_refl _)
  | moves i j phase hi hidle hj ha =>
    have := (advanced_counts _ hj rfl rfl (not_taken_answered ha)).2 id
    unfold WithdrawalState.rowCount at this
    exact .inl (by omega)
  | writes i j he hj =>
    unfold runStatement
    split
    · rename_i write phase hs
      have := (advanced_counts _ hj (edit_jobs j.txId write) (edit_quotes j.txId write).1 (not_taken_statement hs)).2 id
      unfold WithdrawalState.rowCount at this
      exact .inl (by omega)
    · exact .inl (le_refl _)

/-! ## Signatures -/

/-- An event that signs does so for a call that waits with a quote, and goes on to write the hash. -/
theorem signedBy_cases (deps : WithdrawalDeps) (chain : String → Option Final) (s : WithdrawalState) (e : WithdrawalEvent) :
    signedBy s e = [] ∨ ∃ i pending key fees raw context txId on, s.idle = true ∧
      s.jobs[i]? = some ⟨txId, on, .context pending key⟩ ∧
      transferSigningContext on pending.prepared.payload fees = .ok context ∧
      signedBy s e = [⟨txId, pending, key, on, context, raw⟩] ∧
      withdrawalStep deps chain s e = s.setPhase i (.record ⟨raw, deps.hashOf on raw⟩) := by
  cases e with
  | context i fees signer =>
    unfold signedBy
    dsimp only
    split
    swap
    · exact .inl rfl
    rename_i hidle
    split
    swap
    · exact .inl rfl
    rename_i txId on pending key hj
    cases hc : transferSigningContext on pending.prepared.payload fees with
    | error _ => exact .inl rfl
    | ok context =>
      cases signer with
      | error _ => exact .inl rfl
      | ok raw =>
        refine .inr ⟨i, pending, key, fees, raw, context, txId, on, hidle, hj, hc, rfl, ?_⟩
        simp [withdrawalStep, answer, hidle, hj, answered, signNext, hc]
  | tick | quoteBegins | quoted | withdraw | statement | broadcast | polled | woke | refresh | lands | restart =>
    exact .inl rfl

/-- What the quotes and rows hold together with the signatures made so far. -/
structure Counted (s : WithdrawalState) (sigs : List Signature) : Prop where
  quoteIds : ∀ id, s.quoteCount id + sigs.countP (·.quoteId = id) ≤ if id ∈ s.issued then 1 else 0
  txIds : ∀ id, s.rowCount id + sigs.countP (·.txId = id) ≤ if (s.rows.get id).isSome then 1 else 0

theorem Counted.did (h : Counted s sigs) (hdid : Did deps chain s e s') : Counted s' sigs where
  quoteIds id := by
    have hold := h.quoteIds id
    rcases hdid.quoteCount id with ⟨hle, hissued⟩ | ⟨hnew, hissued, hle⟩
    · by_cases hid : id ∈ s.issued
      · rw [if_pos hid] at hold
        rw [if_pos (hissued hid)]
        omega
      · rw [if_neg hid] at hold
        split <;> omega
    · rw [if_neg hnew] at hold
      rw [if_pos hissued]
      omega
  txIds id := by
    have hold := h.txIds id
    rcases hdid.rowCount id with hle | ⟨hnew, hrow, hle⟩
    · cases hget : s.rows.get id with
      | none =>
        rw [hget] at hold
        simp only [Option.isSome_none, Bool.false_eq_true, if_false] at hold
        split <;> omega
      | some row =>
        obtain ⟨row', hrow', -⟩ := hdid.row hget
        rw [hget] at hold
        rw [hrow']
        simp only [Option.isSome_some, if_true] at hold ⊢
        omega
    · rw [hnew] at hold
      rw [if_pos hrow]
      simp only [Option.isSome_none, Bool.false_eq_true, if_false] at hold
      omega

theorem Counted.step (h : Counted s sigs) (deps : WithdrawalDeps) (chain : String → Option Final) (e : WithdrawalEvent) :
    Counted (withdrawalStep deps chain s e) (sigs ++ signedBy s e) := by
  rcases signedBy_cases deps chain s e with hnone |
    ⟨i, pending, key, fees, raw, context, txId, on, -, hj, -, hsigned, hstep⟩
  · rw [hnone, List.append_nil]
    exact h.did (did_step deps chain s e)
  · rw [hsigned, hstep]
    have hcounts := advanced_counts (.record ⟨raw, deps.hashOf on raw⟩) hj rfl rfl rfl
    constructor
    · intro id
      have hold := h.quoteIds id
      have := hcounts.1 id
      rw [List.countP_append, List.countP_singleton]
      show _ + (_ + if decide (pending.quote.quoteId = id) then 1 else 0) ≤ if id ∈ s.issued then 1 else 0
      replace this : _ + (if decide (pending.quote.quoteId = id) then 1 else 0) = s.quoteCount id := this
      omega
    · intro id
      have hold := h.txIds id
      have := hcounts.2 id
      rw [List.countP_append, List.countP_singleton]
      show _ + (_ + if decide (txId = id) then 1 else 0) ≤ if (s.rows.get id).isSome then 1 else 0
      replace this : _ + (if decide (txId = id) then 1 else 0) = s.rowCount id := this
      omega

/-- The key of a row is its own, and the key of a call and of a signature is that of their row. -/
structure Keyed (s : WithdrawalState) (sigs : List Signature) : Prop where
  rows : ∀ id id' row row' key, s.rows.get id = some row → s.rows.get id' = some row' → row.idempotencyKey = some key →
    row'.idempotencyKey = some key → id = id'
  taken : ∀ (i : Nat) (j : Job) pending key, s.jobs[i]? = some j → j.taken = some (pending, key) →
    ∃ row, s.rows.get j.txId = some row ∧ row.idempotencyKey = key
  signed : ∀ sig ∈ sigs, ∃ row, s.rows.get sig.txId = some row ∧ row.idempotencyKey = sig.key

theorem not_taken_setPhase {i k : Nat} {j x : Job} {phase : Phase} (hx : (s.setPhase i phase).jobs[k]? = some x)
    (hj : s.jobs[i]? = some j) (hnone : ({ j with phase } : Job).taken = none) {t : PendingQuote × Option String}
    (ht : x.taken = some t) : s.jobs[k]? = some x := by
  unfold WithdrawalState.setPhase at hx
  dsimp only at hx
  rw [List.getElem?_modify] at hx
  split at hx
  · rename_i hik
    rw [← hik, hj] at hx
    obtain rfl := Option.some.inj hx
    rw [hnone] at ht
    cases ht
  · simpa using hx

/-- A call that holds a quote after an event held it before, or has just taken it. -/
theorem Did.taken (h : Did deps chain s e s') {i : Nat} {j : Job} {pending : PendingQuote} {key : Option String}
    (hj : s'.jobs[i]? = some j) (ht : j.taken = some (pending, key)) :
    s.jobs[i]? = some j ∨ pending ∈ s.quotes ∧ j.chain = pending.quote.chainId ∧ s.rows.get j.txId = none ∧
      s'.rows.get j.txId = some (rowOf j.txId pending key) := by
  cases h with
  | time | lands | forgets | quotes => exact .inl hj
  | restarts => cases hj
  | starts call pending quotes hquotes htaken hpending hfresh hkey =>
    rcases appended_job hj with hold | ⟨-, rfl⟩
    · exact .inl hold
    · cases ht
      refine .inr ⟨hpending, rfl, hfresh, ?_⟩
      exact (Table.get_put _ _ _).trans (if_pos rfl)
  | refreshes txId row hash hrow hstatus hhash =>
    rcases appended_job hj with hold | ⟨-, rfl⟩
    · exact .inl hold
    · cases ht
  | moves i' j' phase hi hidle hj' ha => exact .inl (not_taken_setPhase hj hj' (not_taken_answered ha) ht)
  | writes i' j' he hj' =>
    unfold runStatement at hj
    split at hj
    · rename_i write phase hs
      rw [← edit_jobs j'.txId write] at hj'
      have := not_taken_setPhase hj hj' (not_taken_statement hs) ht
      rw [edit_jobs] at this
      exact .inl this
    · exact .inl hj

theorem Keyed.did (h : Keyed s sigs) (hdid : Did deps chain s e s') : Keyed s' sigs where
  rows id id' row row' key hrow hrow' hkey hkey' := by
    rcases hdid.row_before hrow with ⟨old, hold, hsame⟩ | ⟨hnone, honly, hnew⟩ <;>
      rcases hdid.row_before hrow' with ⟨old', hold', hsame'⟩ | ⟨hnone', honly', hnew'⟩
    · exact h.rows id id' old old' key hold hold' (hsame.trans hkey) (hsame'.trans hkey')
    · exact absurd (hsame.trans hkey) (hnew' key hkey' old (Table.mem_of_get hold))
    · exact absurd (hsame'.trans hkey') (hnew key hkey old' (Table.mem_of_get hold'))
    · exact honly id' hnone' (by rw [hrow']; rfl)
  taken i j pending key hj ht := by
    rcases hdid.taken hj ht with hold | ⟨-, -, -, hrow⟩
    · obtain ⟨row, hrow, hkey⟩ := h.taken i j pending key hold ht
      obtain ⟨row', hrow', hkey'⟩ := hdid.row hrow
      exact ⟨row', hrow', hkey'.trans hkey⟩
    · exact ⟨_, hrow, rfl⟩
  signed sig hsig := by
    obtain ⟨row, hrow, hkey⟩ := h.signed sig hsig
    obtain ⟨row', hrow', hkey'⟩ := hdid.row hrow
    exact ⟨row', hrow', hkey'.trans hkey⟩

theorem Keyed.step (h : Keyed s sigs) (deps : WithdrawalDeps) (chain : String → Option Final) (e : WithdrawalEvent) :
    Keyed (withdrawalStep deps chain s e) (sigs ++ signedBy s e) := by
  have hstep := h.did (did_step deps chain s e)
  rcases signedBy_cases deps chain s e with hnone | ⟨i, pending, key, fees, raw, context, txId, on, -, hj, -, hsigned, hs⟩
  · rw [hnone, List.append_nil]
    exact hstep
  · refine ⟨hstep.rows, hstep.taken, fun sig hsig => ?_⟩
    rw [hsigned] at hsig
    rcases List.mem_append.1 hsig with hold | hnew
    · exact hstep.signed sig hold
    · obtain rfl := List.mem_singleton.1 hnew
      rw [hs]
      exact h.taken i _ pending key hj rfl

/-- The quote is one `quote` has given. -/
def Quoted (deps : WithdrawalDeps) (pending : PendingQuote) : Prop :=
  ∃ now input world, quote deps pending.quote.quoteId now input world = .ok pending

/-- The bytes a call goes on with once it has signed. -/
def Phase.signed : Phase → Option SignedTransaction
  | .record signed => some signed
  | .send signed => some signed
  | .broadcasting signed => some signed
  | _ => none

/-- Where quotes, signatures and signed bytes come from. -/
structure Traced (deps : WithdrawalDeps) (s : WithdrawalState) (sigs : List Signature) : Prop where
  quoted : ∀ pending ∈ s.quotes, Quoted deps pending
  taken : ∀ (i : Nat) (j : Job) pending key, s.jobs[i]? = some j → j.taken = some (pending, key) →
    j.chain = pending.quote.chainId ∧ Quoted deps pending
  signed : ∀ sig ∈ sigs, sig.chain = sig.pending.quote.chainId ∧ Quoted deps sig.pending ∧
    ∃ fees, transferSigningContext sig.chain sig.pending.prepared.payload fees = .ok sig.context
  behind : ∀ (i : Nat) (j : Job) signed, s.jobs[i]? = some j → j.phase.signed = some signed →
    signed.hash = deps.hashOf j.chain signed.raw ∧ ∃ sig ∈ sigs, sig.txId = j.txId ∧ sig.chain = j.chain ∧ sig.raw = signed.raw

/-- A call that goes on with bytes had signed them, or the event has just. -/
theorem signed_of_answered {i : Nat} {j : Job} {phase : Phase} (hi : e.target = some i) (hidle : s.idle = true)
    (hj : s.jobs[i]? = some j) (ha : answered deps chain s j e = some phase) {signed : SignedTransaction}
    (hs : phase.signed = some signed) : j.phase.signed = some signed ∨ signedBy s e ≠ [] := by
  unfold answered at ha
  split at ha
  · rename_i fees signer
    obtain rfl := Option.some.inj hi
    split at ha
    · rename_i pending key hp
      cases ha
      obtain ⟨txId, on, p⟩ := j
      dsimp only at hp
      subst hp
      unfold signNext at hs
      split at hs
      · cases hs
      · rename_i context hc
        split at hs
        · cases hs
        · refine .inr ?_
          dsimp only at hc
          simp [signedBy, hidle, hj, hc]
    · cases ha
  · split at ha
    · cases ha
      split at hs
      · cases hs
      · cases hs
    · cases ha
  · split at ha
    · cases ha
      split at hs
      · cases hs
      · cases hs
    · cases ha
      split at hs
      · cases hs
      · cases hs
    · cases ha
  · split at ha
    · cases ha
      split at hs
      · cases hs
      · cases hs
    · cases ha
  · cases ha

theorem signed_of_statement {phase next : Phase} {clock : Int} {write : TxRow → TxRow}
    (h : statementOf clock phase = some (write, next)) {signed : SignedTransaction} (hs : next.signed = some signed) :
    phase.signed = some signed := by
  cases phase <;> simp only [statementOf, reduceCtorEq, Option.some.injEq, Prod.mk.injEq] at h
  case record signed' =>
    obtain ⟨-, rfl⟩ := h
    exact hs
  case send signed' =>
    obtain ⟨-, rfl⟩ := h
    exact hs
  all_goals
    obtain ⟨-, rfl⟩ := h
    cases hs

/-- The bytes a call goes on with after an event that signs nothing it had before. -/
theorem Did.signed (h : Did deps chain s e s') (hnone : signedBy s e = []) {k : Nat} {x : Job} {signed : SignedTransaction}
    (hx : s'.jobs[k]? = some x) (hs : x.phase.signed = some signed) :
    ∃ j, s.jobs[k]? = some j ∧ j.txId = x.txId ∧ j.chain = x.chain ∧ j.phase.signed = some signed := by
  cases h with
  | time | lands | forgets | quotes => exact ⟨x, hx, rfl, rfl, hs⟩
  | restarts => cases hx
  | starts call pending quotes hquotes htaken hpending hfresh hkey =>
    rcases appended_job hx with hold | ⟨-, rfl⟩
    · exact ⟨x, hold, rfl, rfl, hs⟩
    · cases hs
  | refreshes txId row hash hrow hstatus hhash =>
    rcases appended_job hx with hold | ⟨-, rfl⟩
    · exact ⟨x, hold, rfl, rfl, hs⟩
    · cases hs
  | moves i j phase hi hidle hj ha =>
    obtain ⟨x', hx', hid, hchain, hp⟩ := setPhase_job hx
    refine ⟨x', hx', hid.symm, hchain.symm, ?_⟩
    rw [hp] at hs
    split at hs
    · rename_i hik
      subst hik
      obtain rfl : j = x' := Option.some.inj (hj.symm.trans hx')
      exact (signed_of_answered hi hidle hj ha hs).resolve_right (fun h => h hnone)
    · exact hs
  | writes i j he hj =>
    unfold runStatement at hx
    split at hx
    · rename_i write phase hst
      obtain ⟨x', hx', hid, hchain, hp⟩ := setPhase_job hx
      rw [edit_jobs] at hx'
      refine ⟨x', hx', hid.symm, hchain.symm, ?_⟩
      rw [hp] at hs
      split at hs
      · rename_i hik
        subst hik
        obtain rfl : j = x' := Option.some.inj (hj.symm.trans hx')
        exact signed_of_statement hst hs
      · exact hs
    · exact ⟨x, hx, rfl, rfl, hs⟩

/-- The quotes in memory after an event were there, or are what `quote` has just given. -/
theorem Did.quoted (h : Did deps chain s e s') {pending : PendingQuote} (hp : pending ∈ s'.quotes) :
    pending ∈ s.quotes ∨ Quoted deps pending := by
  cases h with
  | time | lands | refreshes | moves => exact .inl hp
  | restarts => cases hp
  | forgets quotes hsub => exact .inl (hsub.subset hp)
  | quotes p input world hfresh hquote =>
    rcases List.mem_append.1 hp with hold | hnew
    · exact .inl hold
    · obtain rfl := List.mem_singleton.1 hnew
      exact .inr ⟨_, _, _, hquote⟩
  | starts call p quotes hquotes => exact .inl (hquotes.subset hp)
  | writes i j he hj =>
    unfold runStatement at hp
    split at hp
    · rename_i write phase hst
      replace hp : pending ∈ (s.edit j.txId write).quotes := hp
      rw [(edit_quotes j.txId write).1] at hp
      exact .inl hp
    · exact .inl hp

theorem Traced.step (h : Traced deps s sigs) (chain : String → Option Final) (e : WithdrawalEvent) :
    Traced deps (withdrawalStep deps chain s e) (sigs ++ signedBy s e) := by
  have hdid := did_step deps chain s e
  have hquoted : ∀ pending ∈ (withdrawalStep deps chain s e).quotes, Quoted deps pending := fun p hp =>
    (hdid.quoted hp).elim (h.quoted p) fun hq => hq
  have htaken : ∀ (i : Nat) (j : Job) pending key, (withdrawalStep deps chain s e).jobs[i]? = some j →
      j.taken = some (pending, key) → j.chain = pending.quote.chainId ∧ Quoted deps pending := by
    intro i j pending key hj ht
    rcases hdid.taken hj ht with hold | ⟨hmem, hchain, -, -⟩
    · exact h.taken i j pending key hold ht
    · exact ⟨hchain, h.quoted pending hmem⟩
  rcases signedBy_cases deps chain s e with hnone | ⟨i, pending, key, fees, raw, context, txId, on, -, hj, hc, hsigned, hs⟩
  · rw [hnone, List.append_nil]
    refine ⟨hquoted, htaken, h.signed, fun k x signed hx hsx => ?_⟩
    obtain ⟨j, hj, hid, hchain, hsj⟩ := hdid.signed hnone hx hsx
    rw [← hid, ← hchain]
    exact h.behind k j signed hj hsj
  · refine ⟨hquoted, htaken, fun sig hsig => ?_, fun k x signed hx hsx => ?_⟩
    · rw [hsigned] at hsig
      rcases List.mem_append.1 hsig with hold | hnew
      · exact h.signed sig hold
      · obtain rfl := List.mem_singleton.1 hnew
        obtain ⟨hchain, hq⟩ := h.taken i _ pending key hj rfl
        exact ⟨hchain, hq, fees, hc⟩
    · rw [hs] at hx
      obtain ⟨x', hx', hid, hchain, hp⟩ := setPhase_job hx
      rw [hid, hchain]
      rw [hp] at hsx
      split at hsx
      · rename_i hik
        subst hik
        obtain rfl := Option.some.inj (hj.symm.trans hx')
        cases hsx
        exact ⟨rfl, _, List.mem_append_right _ (by rw [hsigned]; exact List.mem_cons_self), rfl, rfl, rfl⟩
      · obtain ⟨hhash, sig, hsig, hrest⟩ := h.behind k x' signed hx' hsx
        exact ⟨hhash, sig, List.mem_append_left _ hsig, hrest⟩

/-! ## What is signed is what was quoted -/

theorem preparing_ok {x : Result PreparedTransfer} {prepared : PreparedTransfer} (h : preparing x = .ok prepared) :
    x = .ok prepared := by
  unfold preparing at h
  split at h
  · exact h
  · split at h
    · cases h
    · cases h

/-- The transfer that is kept was prepared for the amount that is quoted, if that is more than nothing. -/
theorem settleAmount_ok {input : WithdrawQuoteRequest} {token : ResolvedAsset} {world : QuoteWorld}
    {sender recipient : String} {amount : Int} {settled : Settled}
    (h : settleAmount input token (prepareTransfer deps.codecs input.chainId world.first)
      (prepareTransfer deps.codecs input.chainId world.second) sender recipient amount = .ok settled)
    (hpos : 0 < settled.amount) :
    ∃ network, prepareTransfer deps.codecs input.chainId network
      ⟨sender, recipient, if token.native then none else some token.address, settled.amount, token.decimals⟩ =
        .ok settled.prepared := by
  simp only [settleAmount, bind_ok] at h
  obtain ⟨prepared, hprepared, h⟩ := h
  split at h
  · rename_i hall
    split at h
    · cases h
    · simp only [bind_ok, pure_ok] at h
      obtain ⟨_, -, again, hagain, rfl⟩ := h
      rw [hall.2]
      exact ⟨world.second, hagain⟩
  · rw [pure_ok] at h
    subst h
    have hfirst := preparing_ok hprepared
    rw [if_pos hpos] at hfirst
    exact ⟨world.first, hfirst⟩

/-- The transfer kept with a quote is the one the quote shows. -/
structure Shown (deps : WithdrawalDeps) (pending : PendingQuote) : Prop where
  recipient : pending.request.recipient = pending.quote.destination
  asset : ∃ token, resolveAsset deps pending.quote.chainId pending.quote.asset = .ok token ∧
    pending.request.token = (if token.native then none else some token.address) ∧
    pending.quote.amount = view pending.request.amount token.decimals token.symbol

/-- The amount is one a transfer can carry. -/
def Payable (pending : PendingQuote) : Prop :=
  0 < pending.request.amount ∧ (pending.quote.chainId = .solana → pending.request.amount < 2 ^ 64)

theorem Quoted.shown {pending : PendingQuote} (h : Quoted deps pending) : Shown deps pending := by
  obtain ⟨now, input, world, h⟩ := h
  simp only [quote, quoteWith, bind_ok, pure_ok] at h
  obtain ⟨_, -, token, htoken, _, -, _, -, _, -, _, -, _, -, _, -, h⟩ := h
  rw [← h]
  exact ⟨rfl, token, htoken, rfl, rfl⟩

theorem Quoted.prepared {pending : PendingQuote} (h : Quoted deps pending) (hpos : 0 < pending.request.amount) :
    ∃ network, prepareTransfer deps.codecs pending.quote.chainId network pending.request = .ok pending.prepared := by
  obtain ⟨now, input, world, h⟩ := h
  simp only [quote, quoteWith, bind_ok, pure_ok] at h
  obtain ⟨_, -, token, -, _, -, _, -, _, -, _, -, _, -, settled, hsettled, h⟩ := h
  rw [← h] at hpos ⊢
  exact settleAmount_ok hsettled hpos

/-! ## Runs -/

/-- The signatures of a run, oldest first. -/
def signatures (deps : WithdrawalDeps) (chain : String → Option Final) (clock : Int) (es : List WithdrawalEvent) :
    List Signature :=
  collect (withdrawalStep deps chain) signedBy (newWithdrawals clock) es

theorem signatures_snoc {clock : Int} {es : List WithdrawalEvent} : signatures deps chain clock (es ++ [e]) =
    signatures deps chain clock es ++ signedBy (withdrawals deps chain clock es) e := collect_snoc

theorem signatures_safe (clock : Int) (es : List WithdrawalEvent) :
    Counted (withdrawals deps chain clock es) (signatures deps chain clock es) ∧
      Keyed (withdrawals deps chain clock es) (signatures deps chain clock es) ∧
      Traced deps (withdrawals deps chain clock es) (signatures deps chain clock es) := by
  induction es using List.reverseRecOn with
  | nil =>
    refine ⟨⟨fun _ => Nat.le_refl _, fun _ => Nat.le_refl _⟩, ⟨?_, ?_, ?_⟩, ⟨?_, ?_, ?_, ?_⟩⟩
    · intro _ _ _ _ _ h
      cases h
    · intro _ _ _ _ h
      cases h
    · intro _ h
      cases h
    · intro _ h
      cases h
    · intro _ _ _ _ h
      cases h
    · intro _ h
      cases h
    · intro _ _ _ h
      cases h
  | append_singleton es e ih =>
    obtain ⟨hcounted, hkeyed, htraced⟩ := ih
    rw [withdrawals_snoc, signatures_snoc]
    exact ⟨hcounted.step deps chain e, hkeyed.step deps chain e, htraced.step chain e⟩

/-- One row, one signature, and so one for a key. -/
theorem Keyed.once (h : Keyed s sigs) (hc : Counted s sigs) (key : String) : sigs.countP (·.key = some key) ≤ 1 := by
  rcases Nat.eq_zero_or_pos (sigs.countP (·.key = some key)) with hzero | hpos
  · omega
  obtain ⟨sig, hsig, hkey⟩ := List.countP_pos_iff.1 hpos
  replace hkey : sig.key = some key := by simpa using hkey
  have hle : sigs.countP (·.key = some key) ≤ sigs.countP (·.txId = sig.txId) := by
    refine List.countP_mono_left fun sig' hsig' hkey' => ?_
    obtain ⟨row, hrow, hrowKey⟩ := h.signed sig hsig
    obtain ⟨row', hrow', hrowKey'⟩ := h.signed sig' hsig'
    replace hkey' : sig'.key = some key := by simpa using hkey'
    simpa using h.rows sig'.txId sig.txId row' row key hrow' hrow (hrowKey'.trans hkey') (hrowKey.trans hkey)
  have hone := hc.txIds sig.txId
  split at hone
  · omega
  · omega

theorem Keyed.replays (h : Keyed s sigs) {id key : String} {row : TxRow} (hrow : s.rows.get id = some row)
    (hkey : row.idempotencyKey = some key) {call : ExecuteCall} (hcall : keyOfHeader call.idempotencyKey = some key) :
    withdraw call s = (.replayed (toResult row), pruneQuotes s) := by
  have hnonempty : key ≠ "" := by
    unfold keyOfHeader at hcall
    have := (Option.filter_eq_some_iff.1 hcall).2
    simp only [decide_eq_true_eq] at this
    exact this.1
  have hfind : findByIdempotencyKey key (pruneQuotes s) = some row := by
    show s.rows.rows.find? (fun r => decide (r.idempotencyKey = some key)) = some row
    cases hfound : s.rows.rows.find? (fun r => decide (r.idempotencyKey = some key)) with
    | none => simpa [hkey] using List.find?_eq_none.1 hfound row (Table.mem_of_get hrow)
    | some found =>
      have hfoundKey : found.idempotencyKey = some key := by simpa using List.find?_some hfound
      have hget := Table.get_key_of_mem (List.mem_of_find?_eq_some hfound)
      have hid := h.rows found.id id found row key hget hrow hfoundKey hkey
      rw [hid, hrow] at hget
      exact hget.symm
  have hkept : (some key).filter (fun key => decide (key ≠ "")) = some key := by simp [Option.filter, hnonempty]
  unfold withdraw execute
  dsimp only
  rw [hcall, hkept, Option.bind_some, hfind]

theorem row_stays {clock : Int} {es : List WithdrawalEvent} {id : String} {row : TxRow}
    (hrow : (withdrawals deps chain clock es).rows.get id = some row) (more : List WithdrawalEvent) :
    ∃ row', (withdrawals deps chain clock (es ++ more)).rows.get id = some row' ∧
      row'.idempotencyKey = row.idempotencyKey := by
  induction more using List.reverseRecOn with
  | nil =>
    rw [List.append_nil]
    exact ⟨row, hrow, rfl⟩
  | append_singleton more e ih =>
    obtain ⟨row', hrow', hkey⟩ := ih
    obtain ⟨row'', hrow'', hkey'⟩ := (did_step deps chain _ e).row hrow'
    rw [← List.append_assoc, withdrawals_snoc]
    exact ⟨row'', hrow'', hkey'.trans hkey⟩

/-- The row carries the hash of exactly the bytes, which were signed for it. -/
structure Recorded (deps : WithdrawalDeps) (s : WithdrawalState) (sigs : List Signature) (txId : String)
    (signed : SignedTransaction) : Prop where
  row : ∃ row, s.rows.get txId = some row ∧ row.txHash = some signed.hash
  signature : ∃ sig ∈ sigs, sig.txId = txId ∧ sig.raw = signed.raw ∧ signed.hash = deps.hashOf sig.chain sig.raw

theorem recorded_of_handed {clock : Int} {es : List WithdrawalEvent} {txId : String} {signed : SignedTransaction}
    (h : (txId, signed) ∈ handedBy (withdrawals deps chain clock es) e) :
    Recorded deps (withdrawals deps chain clock es) (signatures deps chain clock es) txId signed := by
  cases e with
  | statement i =>
    unfold handedBy at h
    dsimp only at h
    split at h
    · rename_i id on signed' hj
      cases List.mem_singleton.1 h
      obtain ⟨row, hrow, -, hagrees⟩ := (withdrawals_sound clock es).agrees i _ hj
      obtain ⟨hhash, sig, hsig, hid, hchain, hraw⟩ := (signatures_safe clock es).2.2.behind i _ signed hj rfl
      refine ⟨⟨row, hrow, hagrees.1⟩, sig, hsig, hid, hraw, ?_⟩
      rw [hchain, hraw]
      exact hhash
    · cases h
  | tick | quoteBegins | quoted | withdraw | context | broadcast | polled | woke | refresh | lands | restart => cases h

/-- **A withdrawal is signed at most once.**  In every run no quote and no key is behind two signatures, a key that has a row is
answered with that row from then on, what reaches the network is what the row carries the hash of, and a signature moves what
the quote shows, if that is an amount a transfer can carry. -/
theorem signed_once (clock : Int) (es : List WithdrawalEvent) :
    (∀ quoteId, (signatures deps chain clock es).countP (·.quoteId = quoteId) ≤ 1) ∧
    (∀ key, (signatures deps chain clock es).countP (·.key = some key) ≤ 1) ∧
    (∀ id row key, (withdrawals deps chain clock es).rows.get id = some row → row.idempotencyKey = some key →
      ∀ more call, keyOfHeader call.idempotencyKey = some key →
        ∃ row', (withdrawals deps chain clock (es ++ more)).rows.get id = some row' ∧
          withdraw call (withdrawals deps chain clock (es ++ more)) =
            (.replayed (toResult row'), pruneQuotes (withdrawals deps chain clock (es ++ more)))) ∧
    (∀ sig ∈ signatures deps chain clock es, sig.chain = sig.pending.quote.chainId ∧ Shown deps sig.pending ∧
      (Payable sig.pending → Moves deps.codecs sig.chain sig.pending.request sig.context)) ∧
    (∀ e txId signed, (txId, signed) ∈ handedBy (withdrawals deps chain clock es) e →
      Recorded deps (withdrawals deps chain clock es) (signatures deps chain clock es) txId signed) := by
  obtain ⟨hcounted, hkeyed, htraced⟩ := @signatures_safe deps chain clock es
  refine ⟨fun quoteId => ?_, hkeyed.once hcounted, fun id row key hrow hkey more call hcall => ?_, fun sig hsig => ?_,
    fun e txId signed h => recorded_of_handed h⟩
  · have := hcounted.quoteIds quoteId
    split at this
    · omega
    · omega
  · obtain ⟨row', hrow', hkey'⟩ := row_stays hrow more
    exact ⟨row', hrow', (signatures_safe clock (es ++ more)).2.1.replays hrow' (hkey'.trans hkey) hcall⟩
  · obtain ⟨hchain, hquoted, fees, hc⟩ := htraced.signed sig hsig
    refine ⟨hchain, hquoted.shown, fun hpayable => ?_⟩
    obtain ⟨network, hprepared⟩ := hquoted.prepared hpayable.1
    rw [hchain] at hc ⊢
    exact prepared_moves hprepared hc hpayable.2

def carriesData (codecs : TransferCodecs) (request : TransferRequest) : SigningContext → Bool
  | .evm _ _ _ data _ _ _ _ _ => data = (evmCall codecs request).2.1
  | .solana _ _ _ => true

theorem Moves.data {codecs : TransferCodecs} {on : ChainId} {request : TransferRequest} {context : SigningContext}
    (h : Moves codecs on request context) : carriesData codecs request context = true := by
  cases context with
  | evm =>
    obtain ⟨-, -, hcall⟩ := h
    simp [carriesData, ← hcall]
  | solana => rfl

end

/-! ## All of a balance of nothing -/

def wordOf (digits : List Char) : String := String.ofList (List.replicate (64 - digits.length) '0' ++ digits)

def erc20Transfer (recipient : String) (amount : Int) : String :=
  "0xa9059cbb" ++ wordOf (recipient.toList.drop 2) ++ wordOf (Nat.toDigits 16 amount.toNat)

def sampleDeps : WithdrawalDeps where
  host := ⟨id, asciiLower⟩
  codecs := ⟨fun _ => true, erc20Transfer, ⟨fun _ => .ok [], fun _ => "", fun _ => .ok []⟩, fun _ _ _ => .ok ""⟩
  validateDestination _ destination := .ok destination
  hashOf _ raw := "hash of " ++ raw

/-- The native balance was read; the token's was not, and is missing. -/
def unreadToken : QuoteWorld where
  depositAddress := .ok "0x1111111111111111111111111111111111111111"
  adapter := true
  reading := .ok ⟨some 10000000000000000, [], none⟩
  first := ⟨⟨.ok false, .ok 50000, .ok 1000000000⟩, ⟨.ok ("", 0), .ok none, .ok true, .ok 0⟩⟩
  second := ⟨⟨.ok false, .ok 50000, .ok 1000000000⟩, ⟨.ok ("", 0), .ok none, .ok true, .ok 0⟩⟩

/-- A withdrawal of an amount of an asset on Base, as far as its signature. -/
def signing (asset : WithdrawAsset) (amount : String) : List WithdrawalEvent :=
  [.quoted "quote" ⟨.base, asset, "0x2222222222222222222222222222222222222222", amount⟩ unreadToken,
    .withdraw ⟨"quote", some "WITHDRAW", none, true, true, "transaction"⟩,
    .context 0 (.ok ⟨7, 2000000000, 1000000⟩) (.ok "0x02f8")]

theorem unread_signs_one_unit :
    ¬ ∀ sig ∈ signatures sampleDeps (fun _ => none) 0 (signing .USDC "all"),
      Moves sampleDeps.codecs sig.chain sig.pending.request sig.context := by
  intro h
  have hall : (signatures sampleDeps (fun _ => none) 0 (signing .USDC "all")).all
      (fun sig => carriesData sampleDeps.codecs sig.pending.request sig.context) = true :=
    List.all_eq_true.2 fun sig hsig => (h sig hsig).data
  revert hall
  decide +kernel

theorem signed_once_native :
    (∀ sig ∈ signatures sampleDeps (fun _ => none) 0 (signing .ETH "0.001"), Payable sig.pending →
      Moves sampleDeps.codecs sig.chain sig.pending.request sig.context) ∧
    (signatures sampleDeps (fun _ => none) 0 (signing .ETH "0.001")).map (·.pending.request.amount) =
      [1000000000000000] :=
  ⟨fun sig hsig => ((signed_once 0 (signing .ETH "0.001")).2.2.2.1 sig hsig).2.2, by decide +kernel⟩

end Wallet
end Atra
