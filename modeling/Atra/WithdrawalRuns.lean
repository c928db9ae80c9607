import Atra.Withdrawal
/-!
# WithdrawalRuns — what a step can do, and how a row and the call that works on it agree

`Did` lists what one event can make of the state, and every invariant is read off it.  `Sound` ties the phase of each call under
way to its row: no two calls of `execute` work on one row, and the hash of a row is the one its call goes on with.
-/
namespace Atra
namespace Wallet

open Money History

section
variable {deps : WithdrawalDeps} {chain : String → Option Final} {s s' : WithdrawalState} {e : WithdrawalEvent}

/-- A call of `execute` that has not ended. -/
def Phase.executing : Phase → Bool
  | .refreshing _ | .refreshed _ _ | .done => false
  | _ => true

/-- The call an answer is for. -/
def WithdrawalEvent.target : WithdrawalEvent → Option Nat
  | .context i _ _ => some i
  | .broadcast i _ => some i
  | .polled i _ => some i
  | .woke i => some i
  | _ => none

/-! ## What one event does -/

inductive Did (deps : WithdrawalDeps) (chain : String → Option Final) (s : WithdrawalState) (e : WithdrawalEvent) :
    WithdrawalState → Prop where
  | time (clock : Int) : Did deps chain s e { s with clock }
  | lands (hash : String) (h : (chain hash).isSome) : Did deps chain s e { s with landed := hash :: s.landed }
  | restarts : Did deps chain s e { s with quotes := [], jobs := [] }
  | forgets (quotes : List PendingQuote) (h : quotes.Sublist s.quotes) : Did deps chain s e { s with quotes }
  | quotes (pending : PendingQuote) (input : WithdrawQuoteRequest) (world : QuoteWorld)
      (hfresh : pending.quote.quoteId ∉ s.issued)
      (hquote : quote deps pending.quote.quoteId s.clock input world = .ok pending) :
      Did deps chain s e { s with quotes := s.quotes ++ [pending], issued := pending.quote.quoteId :: s.issued }
  | starts (call : ExecuteCall) (pending : PendingQuote) (quotes : List PendingQuote)
      (hquotes : quotes.Sublist s.quotes) (htaken : ∀ p ∈ quotes, p.quote.quoteId ≠ pending.quote.quoteId)
      (hpending : pending ∈ s.quotes) (hfresh : s.rows.get call.txId = none)
      (hkey : ∀ key, call.idempotencyKey = some key → ∀ row ∈ s.rows.rows, row.idempotencyKey ≠ some key) :
      Did deps chain s e { s with
        quotes
        rows := s.rows.put (rowOf call.txId pending call.idempotencyKey)
        jobs := s.jobs ++ [⟨call.txId, pending.quote.chainId, .context pending call.idempotencyKey⟩] }
  | refreshes (txId : String) (row : TxRow) (hash : String) (hrow : s.rows.get txId = some row)
      (hstatus : row.status = .submitted) (hhash : row.txHash = some hash) :
      Did deps chain s e { s with jobs := s.jobs ++ [⟨txId, row.chain, .refreshing hash⟩] }
  | moves (i : Nat) (j : Job) (phase : Phase) (hi : e.target = some i) (hidle : s.idle = true) (hj : s.jobs[i]? = some j)
      (ha : answered deps chain s j e = some phase) : Did deps chain s e (s.setPhase i phase)
  | writes (i : Nat) (j : Job) (he : e = .statement i) (hj : s.jobs[i]? = some j) : Did deps chain s e (runStatement s i j)

theorem did_nothing : Did deps chain s e s := .forgets s.quotes (List.Sublist.refl _)

theorem pruned_sublist : (pruneQuotes s).quotes.Sublist s.quotes := List.filter_sublist

theorem taken_sublist (quoteId : String) : (takeQuote quoteId s).quotes.Sublist s.quotes := List.filter_sublist

theorem quote_id {quoteId : String} {now : Int} {input : WithdrawQuoteRequest} {world : QuoteWorld} {pending : PendingQuote}
    (h : quote deps quoteId now input world = .ok pending) : pending.quote.quoteId = quoteId := by
  simp only [quote, quoteWith, bind_ok, pure_ok] at h
  obtain ⟨_, -, _, -, _, -, _, -, _, -, _, -, _, -, _, -, rfl⟩ := h
  rfl

theorem findByIdempotencyKey_none {key : String} (h : findByIdempotencyKey key s = none) :
    ∀ row ∈ s.rows.rows, row.idempotencyKey ≠ some key := by
  intro row hrow hkey
  have := List.find?_eq_none.1 h row hrow
  simp [hkey] at this

/-- `execute` forgets quotes, or takes the one it was given and inserts a row of its own. -/
theorem did_execute (call : ExecuteCall) : Did deps chain s e (execute call s).2 := by
  have hprune : Did deps chain s e (pruneQuotes s) := .forgets _ pruned_sublist
  unfold execute
  dsimp only
  split
  · exact hprune
  split
  · exact hprune
  rename_i pending hfind
  split
  · exact hprune
  split
  · exact hprune
  split
  · exact hprune
  have htake : Did deps chain s e (takeQuote call.quoteId (pruneQuotes s)) :=
    .forgets _ ((taken_sublist call.quoteId).trans pruned_sublist)
  split
  · exact htake
  unfold insertRow
  split
  · exact htake
  rename_i hfresh
  split
  · exact htake
  rename_i hkey
  have hid : pending.quote.quoteId = call.quoteId := by simpa using List.find?_some hfind
  have hfree : (takeQuote call.quoteId (pruneQuotes s)).rows.get call.txId = none := by simpa using hfresh
  refine .starts call pending _ ((taken_sublist call.quoteId).trans pruned_sublist) (fun p hp => ?_)
    (pruned_sublist.subset (List.mem_of_find?_eq_some hfind)) hfree fun key hsome => ?_
  · rw [hid]
    simpa using (List.mem_filter.1 hp).2
  · have hnone : findByIdempotencyKey key (takeQuote call.quoteId (pruneQuotes s)) = none := by
      rw [hsome] at hkey
      simpa using hkey
    exact findByIdempotencyKey_none hnone

theorem did_answer {i : Nat} (hi : e.target = some i) : Did deps chain s e (answer deps chain s i e) := by
  unfold answer
  split
  · rename_i hidle
    cases hj : s.jobs[i]? with
    | none => exact did_nothing
    | some j =>
      dsimp only
      cases ha : answered deps chain s j e with
      | none => exact did_nothing
      | some phase => exact .moves i j phase hi hidle hj ha
  · exact did_nothing

theorem did_step (deps : WithdrawalDeps) (chain : String → Option Final) (s : WithdrawalState) (e : WithdrawalEvent) :
    Did deps chain s e (withdrawalStep deps chain s e) := by
  cases e with
  | tick ms => exact .time _
  | lands hash =>
    unfold withdrawalStep
    dsimp only
    split
    · rename_i h
      exact .lands hash h
    · exact did_nothing
  | restart => exact .restarts
  | statement i =>
    unfold withdrawalStep
    dsimp only
    cases hj : s.jobs[i]? with
    | none => exact did_nothing
    | some j => exact .writes i j rfl hj
  | quoteBegins =>
    unfold withdrawalStep
    dsimp only
    split
    · exact .forgets _ pruned_sublist
    · exact did_nothing
  | quoted quoteId input world =>
    unfold withdrawalStep
    dsimp only
    split
    · rename_i hfresh
      cases hquote : quote deps quoteId s.clock input world with
      | error _ => exact did_nothing
      | ok pending =>
        obtain rfl := quote_id hquote
        exact .quotes pending input world hfresh.2 hquote
    · exact did_nothing
  | withdraw call =>
    unfold withdrawalStep
    dsimp only
    split
    · exact did_execute _
    · exact did_nothing
  | refresh txId adapter =>
    unfold withdrawalStep
    dsimp only
    split
    · unfold refreshStart
      split
      · rw [Option.toList_none, List.append_nil]
        exact did_nothing
      · rename_i row hrow
        split
        · rename_i hash hstatus hhash
          exact .refreshes txId row hash hrow hstatus hhash
        · rw [Option.toList_none, List.append_nil]
          exact did_nothing
    · exact did_nothing
  | context i fees signer => exact did_answer rfl
  | broadcast i error => exact did_answer rfl
  | polled i ok => exact did_answer rfl
  | woke i => exact did_answer rfl

/-! ## Rows and phases -/

/-- Handed over: the row says `submitted`, or what the chain decided. -/
def TxStatus.Out (status : TxStatus) : Prop := status = .submitted ∨ status = .confirmed ∨ status = .failed

/-- What the row of a call says while the call is in a phase. -/
def Agrees (row : TxRow) : Phase → Prop
  | .context _ _ => row.txHash = none ∧ row.status = .prepared
  | .record _ => row.txHash = none ∧ row.status = .prepared
  | .send signed => row.txHash = some signed.hash ∧ row.status = .simulated
  | .broadcasting signed => row.txHash = some signed.hash ∧ row.status = .simulated
  | .submit hash => row.txHash = some hash ∧ row.status = .simulated
  | .polling hash _ => row.txHash = some hash ∧ row.status.Out
  | .sleeping hash _ => row.txHash = some hash ∧ row.status.Out
  | .settle hash _ => row.txHash = some hash ∧ row.status.Out
  | .fail _ txHash => row.txHash = txHash ∧
      (txHash = none ∧ row.status = .prepared ∨ txHash.isSome ∧ row.status = .simulated)
  | .refreshing hash => row.txHash = some hash ∧ row.status.Out
  | .refreshed hash _ => row.txHash = some hash ∧ row.status.Out
  | .done => True

theorem Agrees.congr {row row' : TxRow} {phase : Phase} (h : Agrees row phase) (hhash : row'.txHash = row.txHash)
    (hstatus : row'.status = row.status) : Agrees row' phase := by
  unfold Agrees
  rw [hhash, hstatus]
  exact h

theorem out_status (verdict : Final) : verdict.status.Out := by
  cases verdict with
  | confirmed => exact .inr (.inl rfl)
  | failed => exact .inr (.inr rfl)

theorem not_out_prepared : ¬ TxStatus.prepared.Out := by rintro (h | h | h) <;> cases h

theorem not_out_simulated : ¬ TxStatus.simulated.Out := by rintro (h | h | h) <;> cases h

theorem reported_some {hash : String} {verdict : Final} (h : reported chain s hash = some verdict) :
    hash ∈ s.landed ∧ chain hash = some verdict := by
  unfold reported at h
  split at h
  · exact ⟨‹_›, h⟩
  · cases h

theorem Agrees.answered {row : TxRow} {j : Job} {phase : Phase} (h : Agrees row j.phase)
    (ha : answered deps chain s j e = some phase) :
    Agrees row phase ∧ (phase.executing = true → j.phase.executing = true) := by
  unfold Wallet.answered at ha
  split at ha
  · split at ha
    · rename_i hp
      rw [hp] at h ⊢
      cases ha
      refine ⟨?_, fun _ => rfl⟩
      unfold signNext
      split
      · exact ⟨h.1, .inl ⟨rfl, h.2⟩⟩
      · split
        · exact ⟨h.1, .inl ⟨rfl, h.2⟩⟩
        · exact h
    · cases ha
  · split at ha
    · rename_i error _ signed hp
      rw [hp] at h ⊢
      cases ha
      refine ⟨?_, fun _ => rfl⟩
      cases error with
      | none => exact h
      | some message => exact ⟨h.1, .inr ⟨rfl, h.2⟩⟩
    · cases ha
  · split at ha
    · rename_i ok _ hash deadline hp
      rw [hp] at h ⊢
      cases ha
      refine ⟨?_, fun _ => rfl⟩
      split
      · rename_i verdict hv
        cases ok with
        | false => cases hv
        | true => exact h
      · exact h
    · rename_i ok _ hash hp
      rw [hp] at h ⊢
      cases ha
      split
      · rename_i verdict hv
        cases ok with
        | false => cases hv
        | true => exact ⟨h, fun h => by cases h⟩
      · exact ⟨trivial, fun h => by cases h⟩
    · cases ha
  · split at ha
    · rename_i hash deadline hp
      rw [hp] at h ⊢
      cases ha
      refine ⟨?_, fun _ => rfl⟩
      split
      · exact h
      · trivial
    · cases ha
  · cases ha

theorem Agrees.statement {row : TxRow} {phase next : Phase} {clock : Int} {write : TxRow → TxRow}
    (h : Agrees row phase) (hs : statementOf clock phase = some (write, next)) :
    Agrees (write row) next ∧ (next.executing = true → phase.executing = true) := by
  cases phase <;> simp only [statementOf, reduceCtorEq, Option.some.injEq, Prod.mk.injEq] at hs
  case record signed =>
    obtain ⟨rfl, rfl⟩ := hs
    exact ⟨⟨rfl, rfl⟩, fun _ => rfl⟩
  case send signed =>
    obtain ⟨rfl, rfl⟩ := hs
    exact ⟨h, fun _ => rfl⟩
  case submit hash =>
    obtain ⟨rfl, rfl⟩ := hs
    exact ⟨⟨h.1, .inl rfl⟩, fun _ => rfl⟩
  case settle hash verdict =>
    obtain ⟨rfl, rfl⟩ := hs
    exact ⟨trivial, fun h => by cases h⟩
  case fail reason txHash =>
    obtain ⟨rfl, rfl⟩ := hs
    exact ⟨trivial, fun h => by cases h⟩
  case refreshed hash verdict =>
    obtain ⟨rfl, rfl⟩ := hs
    exact ⟨trivial, fun h => by cases h⟩

theorem Agrees.restatus {row : TxRow} {phase : Phase} {status : TxStatus} (h : Agrees row phase)
    (hout : row.status.Out) (hstatus : status.Out) : Agrees { row with status } phase := by
  cases phase with
  | context => exact absurd (h.2 ▸ hout) not_out_prepared
  | record => exact absurd (h.2 ▸ hout) not_out_prepared
  | send => exact absurd (h.2 ▸ hout) not_out_simulated
  | broadcasting => exact absurd (h.2 ▸ hout) not_out_simulated
  | submit => exact absurd (h.2 ▸ hout) not_out_simulated
  | fail =>
    rcases h.2 with ⟨-, h⟩ | ⟨-, h⟩
    · exact absurd (h ▸ hout) not_out_prepared
    · exact absurd (h ▸ hout) not_out_simulated
  | polling => exact ⟨h.1, hstatus⟩
  | sleeping => exact ⟨h.1, hstatus⟩
  | refreshing => exact ⟨h.1, hstatus⟩
  | settle => exact ⟨h.1, hstatus⟩
  | refreshed => exact ⟨h.1, hstatus⟩
  | done => trivial

/-- Before a row is out no refresh is under way on it. -/
theorem Agrees.ended {row row' : TxRow} {phase : Phase} (h : Agrees row phase) (hexec : phase.executing = false)
    (hout : ¬ row.status.Out) : Agrees row' phase := by
  cases phase with
  | refreshing => exact absurd h.2 hout
  | refreshed => exact absurd h.2 hout
  | done => trivial
  | context | record | send | broadcasting | submit | polling | sleeping | settle | fail => cases hexec

/-- A statement of one call leaves the agreement of the others on the same row, of which at most one executes. -/
theorem Agrees.beside {row : TxRow} {phase next other : Phase} {clock : Int} {write : TxRow → TxRow}
    (h : Agrees row phase) (ho : Agrees row other) (hs : statementOf clock phase = some (write, next))
    (halone : phase.executing = true → other.executing = false) : Agrees (write row) other := by
  cases phase <;> simp only [statementOf, reduceCtorEq, Option.some.injEq, Prod.mk.injEq] at hs
  case record signed =>
    obtain ⟨rfl, rfl⟩ := hs
    exact ho.ended (halone rfl) (h.2 ▸ not_out_prepared)
  case send signed =>
    obtain ⟨rfl, rfl⟩ := hs
    exact ho
  case submit hash =>
    obtain ⟨rfl, rfl⟩ := hs
    exact ho.ended (halone rfl) (h.2 ▸ not_out_simulated)
  case settle hash verdict =>
    obtain ⟨rfl, rfl⟩ := hs
    exact ho.restatus h.2 (out_status verdict)
  case fail reason txHash =>
    obtain ⟨rfl, rfl⟩ := hs
    refine ho.ended (halone rfl) ?_
    rcases h.2 with ⟨-, h⟩ | ⟨-, h⟩
    · exact h ▸ not_out_prepared
    · exact h ▸ not_out_simulated
  case refreshed hash verdict =>
    obtain ⟨rfl, rfl⟩ := hs
    exact ho.restatus h.2 (out_status verdict)

theorem setPhase_job {i k : Nat} {phase : Phase} {j : Job} (h : (s.setPhase i phase).jobs[k]? = some j) :
    ∃ j', s.jobs[k]? = some j' ∧ j.txId = j'.txId ∧ j.chain = j'.chain ∧ j.phase = if i = k then phase else j'.phase := by
  unfold WithdrawalState.setPhase at h
  dsimp only at h
  rw [List.getElem?_modify] at h
  cases hk : s.jobs[k]? with
  | none =>
    rw [hk] at h
    cases h
  | some j' =>
    rw [hk] at h
    refine ⟨j', rfl, ?_⟩
    split at h
    · obtain rfl := Option.some.inj h
      exact ⟨rfl, rfl, by simp [*]⟩
    · obtain rfl := Option.some.inj h
      exact ⟨rfl, rfl, by simp [*]⟩

theorem get_edit (txId : String) (write : TxRow → TxRow) (id : String) :
    (s.edit txId write).rows.get id =
      if id = txId then (s.rows.get txId).map fun row => { write row with id := row.id } else s.rows.get id := by
  unfold WithdrawalState.edit
  cases h : s.rows.get txId with
  | none =>
    dsimp only
    split
    · rename_i hid
      rw [hid, h]
      rfl
    · rfl
  | some row =>
    have hrow : row.id = txId := Table.key_of_get h
    dsimp only
    rw [Table.get_put]
    dsimp only
    rw [hrow]
    split
    · rw [Option.map_some, hrow]
    · rfl

/-- The rows and the calls under way agree, and no two calls of `execute` work on one row. -/
structure Sound (s : WithdrawalState) : Prop where
  agrees : ∀ (i : Nat) (j : Job), s.jobs[i]? = some j → ∃ row, s.rows.get j.txId = some row ∧ row.chain = j.chain ∧
    Agrees row j.phase
  alone : ∀ (i i' : Nat) (j j' : Job), s.jobs[i]? = some j → s.jobs[i']? = some j' → j.txId = j'.txId → j.phase.executing = true →
    j'.phase.executing = true → i = i'

theorem newWithdrawals_sound (clock : Int) : Sound (newWithdrawals clock) where
  agrees i j h := by cases h
  alone i i' j j' h := by cases h

theorem get_of_fresh {row fresh : TxRow} {id : String} (hfresh : s.rows.get fresh.id = none) (h : s.rows.get id = some row) :
    (s.rows.put fresh).get id = some row := by
  rw [Table.get_put, if_neg]
  · exact h
  · rintro rfl
    rw [hfresh] at h
    cases h

theorem appended_job {jobs : List Job} {added j : Job} {k : Nat} (h : (jobs ++ [added])[k]? = some j) :
    jobs[k]? = some j ∨ k = jobs.length ∧ j = added := by
  rw [List.getElem?_append] at h
  split at h
  · exact .inl h
  · rename_i hk
    rw [List.getElem?_singleton] at h
    split at h
    · exact .inr ⟨by omega, (Option.some.inj h).symm⟩
    · cases h

theorem Sound.starts (h : Sound s) {call : ExecuteCall} {pending : PendingQuote} {quotes : List PendingQuote}
    (hfresh : s.rows.get call.txId = none) :
    Sound { s with
      quotes
      rows := s.rows.put (rowOf call.txId pending call.idempotencyKey)
      jobs := s.jobs ++ [⟨call.txId, pending.quote.chainId, .context pending call.idempotencyKey⟩] } where
  agrees k j hj := by
    rcases appended_job hj with hold | ⟨-, rfl⟩
    · obtain ⟨row, hrow, hchain, hagrees⟩ := h.agrees k j hold
      exact ⟨row, get_of_fresh hfresh hrow, hchain, hagrees⟩
    · refine ⟨rowOf call.txId pending call.idempotencyKey, ?_, rfl, rfl, rfl⟩
      exact (Table.get_put _ _ _).trans (if_pos rfl)
  alone k k' j j' hj hj' hid hexec hexec' := by
    have hnew : ∀ (m : Nat) (x : Job), s.jobs[m]? = some x → x.txId ≠ call.txId := by
      intro m x hx heq
      obtain ⟨row, hrow, -⟩ := h.agrees m x hx
      rw [heq, hfresh] at hrow
      cases hrow
    rcases appended_job hj with hold | ⟨hk, rfl⟩ <;> rcases appended_job hj' with hold' | ⟨hk', rfl⟩
    · exact h.alone k k' j j' hold hold' hid hexec hexec'
    · exact absurd hid (hnew k j hold)
    · exact absurd hid.symm (hnew k' j' hold')
    · rw [hk, hk']

theorem Sound.refreshes (h : Sound s) {txId hash : String} {row : TxRow} (hrow : s.rows.get txId = some row)
    (hstatus : row.status = .submitted) (hhash : row.txHash = some hash) :
    Sound { s with jobs := s.jobs ++ [⟨txId, row.chain, .refreshing hash⟩] } where
  agrees k j hj := by
    rcases appended_job hj with hold | ⟨-, rfl⟩
    · exact h.agrees k j hold
    · exact ⟨row, hrow, rfl, hhash, .inl hstatus⟩
  alone k k' j j' hj hj' hid hexec hexec' := by
    rcases appended_job hj with hold | ⟨-, rfl⟩
    · rcases appended_job hj' with hold' | ⟨-, rfl⟩
      · exact h.alone k k' j j' hold hold' hid hexec hexec'
      · cases hexec'
    · cases hexec

theorem Sound.advances (h : Sound s) {i : Nat} {j : Job} {phase : Phase} {t : WithdrawalState} {row row' : TxRow}
    (hj : s.jobs[i]? = some j) (hrow : s.rows.get j.txId = some row) (hjobs : t.jobs = s.jobs)
    (hrows : ∀ id, t.rows.get id = if id = j.txId then some row' else s.rows.get id) (hchain : row'.chain = row.chain)
    (hself : Agrees row' phase)
    (hbeside : ∀ other, Agrees row other → (j.phase.executing = true → other.executing = false) →
      Agrees row' other)
    (hexec : phase.executing = true → j.phase.executing = true) : Sound (t.setPhase i phase) where
  agrees k x hx := by
    obtain ⟨x', hx', hid, hxchain, hp⟩ := setPhase_job hx
    rw [hjobs] at hx'
    obtain ⟨rowx, hrowx, hrowChain, hagrees⟩ := h.agrees k x' hx'
    show ∃ row, t.rows.get x.txId = some row ∧ _
    rw [hid, hxchain, hp, hrows]
    by_cases hsame : x'.txId = j.txId
    · rw [hsame] at hrowx
      obtain rfl : row = rowx := Option.some.inj (hrow.symm.trans hrowx)
      rw [if_pos hsame]
      refine ⟨row', rfl, hchain.trans hrowChain, ?_⟩
      split
      · exact hself
      · rename_i hik
        refine hbeside x'.phase hagrees fun hje => ?_
        cases hxe : x'.phase.executing with
        | false => rfl
        | true => exact absurd (h.alone i k j x' hj hx' hsame.symm hje hxe) hik
    · rw [if_neg hsame]
      refine ⟨rowx, hrowx, hrowChain, ?_⟩
      split
      · rename_i hik
        subst hik
        obtain rfl : j = x' := Option.some.inj (hj.symm.trans hx')
        exact absurd rfl hsame
      · exact hagrees
  alone k k' x y hx hy hid hex hey := by
    have hwas : ∀ {m : Nat} {z : Job}, (t.setPhase i phase).jobs[m]? = some z → z.phase.executing = true →
        ∃ z', s.jobs[m]? = some z' ∧ z.txId = z'.txId ∧ z'.phase.executing = true := by
      intro m z hz he
      obtain ⟨z', hz', hidz, -, hpz⟩ := setPhase_job hz
      rw [hjobs] at hz'
      refine ⟨z', hz', hidz, ?_⟩
      rw [hpz] at he
      split at he
      · rename_i him
        subst him
        obtain rfl : j = z' := Option.some.inj (hj.symm.trans hz')
        exact hexec he
      · exact he
    obtain ⟨x', hx', hidx, hexx⟩ := hwas hx hex
    obtain ⟨y', hy', hidy, heyy⟩ := hwas hy hey
    exact h.alone k k' x' y' hx' hy' (hidx.symm.trans (hid.trans hidy)) hexx heyy

theorem Sound.moves (h : Sound s) {i : Nat} {j : Job} {phase : Phase} (hj : s.jobs[i]? = some j)
    (ha : answered deps chain s j e = some phase) : Sound (s.setPhase i phase) := by
  obtain ⟨row, hrow, -, hagrees⟩ := h.agrees i j hj
  obtain ⟨hself, hexec⟩ := hagrees.answered ha
  refine h.advances hj hrow rfl (fun id => ?_) rfl hself (fun _ hother _ => hother) hexec
  split
  · rename_i hid
    rw [hid, hrow]
  · rfl

theorem statement_keeps {phase next : Phase} {clock : Int} {write : TxRow → TxRow}
    (h : statementOf clock phase = some (write, next)) (row : TxRow) :
    (write row).chain = row.chain ∧ (write row).idempotencyKey = row.idempotencyKey := by
  cases phase <;> simp only [statementOf, reduceCtorEq, Option.some.injEq, Prod.mk.injEq] at h
  all_goals
    obtain ⟨rfl, -⟩ := h
    exact ⟨rfl, rfl⟩

theorem edit_jobs (txId : String) (write : TxRow → TxRow) : (s.edit txId write).jobs = s.jobs := by
  unfold WithdrawalState.edit
  split
  · rfl
  · rfl

theorem Sound.writes (h : Sound s) {i : Nat} {j : Job} (hj : s.jobs[i]? = some j) :
    Sound (runStatement s i j) := by
  unfold runStatement
  split
  swap
  · exact h
  rename_i write phase hs
  obtain ⟨row, hrow, -, hagrees⟩ := h.agrees i j hj
  obtain ⟨hself, hexec⟩ := hagrees.statement hs
  have hrows : ∀ id, (s.edit j.txId write).rows.get id =
      if id = j.txId then some { write row with id := row.id } else s.rows.get id := by
    intro id
    rw [get_edit, hrow]
    rfl
  exact h.advances hj hrow (edit_jobs _ _) hrows (statement_keeps hs row).1 (hself.congr rfl rfl)
    (fun other hother halone => (hagrees.beside hother hs halone).congr rfl rfl) hexec

/-- **Every event keeps the rows and the calls in agreement.** -/
theorem Sound.did (h : Sound s) (hdid : Did deps chain s e s') : Sound s' := by
  cases hdid with
  | time | lands | forgets | quotes => exact ⟨h.agrees, h.alone⟩
  | restarts =>
    constructor
    · intro i j hj
      cases hj
    · intro i i' j j' hj
      cases hj
  | starts call pending quotes hquotes htaken hpending hfresh hkey => exact h.starts hfresh
  | refreshes txId row hash hrow hstatus hhash => exact h.refreshes hrow hstatus hhash
  | moves i j phase hi hidle hj ha => exact h.moves hj ha
  | writes i j he hj => exact h.writes hj

/-- The withdrawals after a run from the first start. -/
def withdrawals (deps : WithdrawalDeps) (chain : String → Option Final) (clock : Int) (es : List WithdrawalEvent) :
    WithdrawalState :=
  after (withdrawalStep deps chain) (newWithdrawals clock) es

theorem withdrawals_snoc {clock : Int} {es : List WithdrawalEvent} :
    withdrawals deps chain clock (es ++ [e]) = withdrawalStep deps chain (withdrawals deps chain clock es) e := after_snoc

theorem withdrawals_sound (clock : Int) (es : List WithdrawalEvent) : Sound (withdrawals deps chain clock es) :=
  invariant (newWithdrawals_sound clock) (fun s e h => h.did (did_step deps chain s e)) es

end

end Wallet
end Atra
