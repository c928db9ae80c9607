import Atra.TreasuryExport
/-!
# ExportSafety — what an exported instruction can be trusted for

Over every interleaving of exports with the other admin calls: a proposal is exported once, from `approved`, while nothing is
frozen, and never after it was cancelled.  What the instruction names is another matter.  Its recipient was allowlisted when
the caps were evaluated, and its source was read before the wait for a price; neither is read again.  They are right at the
write in every run in which no update of a provider takes the recipient from an approved proposal, and no update of the
configuration the address from an export under way.
-/
namespace Atra
namespace Treasury

open Money History

section
variable {canonical : ChainId → String → String → Result String} {s s' : TreasuryState} {providers : Table Provider.id}

/-! ## The cap engine, read back -/

theorem finish_allowed {checks : List CapCheck} (h : (finish checks).allowed = true) : ∀ c ∈ checks, c.passed = true := by
  unfold finish at h
  dsimp only at h
  have hnone := Option.isNone_iff_eq_none.1 h
  rw [Option.or_eq_none_iff] at hnone
  intro c hc
  have := List.find?_eq_none.1 hnone.2 c hc
  simpa using this

/-- The provider is active, is paid on a chain, and there at the recipient of the proposal. -/
def Pays (p : PaymentProposal) (pr : Provider) : Bool :=
  pr.active && decide (pr.billingMode = .onChain) && decide (pr.recipient = some ⟨p.chain, p.recipient⟩)

/-- **What the caps let pass** has an active on-chain provider with this recipient on this chain. -/
theorem evaluateCaps_allowed {i : CapInput} {d : CapDecision} (h : evaluateCaps i = .ok d) (ha : d.allowed = true) :
    i.frozen = false ∧ ∃ pr, i.provider = some pr ∧ pr.active = true ∧ pr.billingMode = .onChain ∧
      pr.recipient = some ⟨i.proposal.chain, i.proposal.recipient⟩ := by
  unfold evaluateCaps at h
  split at h
  · rw [pure_ok] at h
    subst h
    cases ha
  · rename_i hfrozen
    simp only [evaluateUnfrozen, bind_ok] at h
    obtain ⟨perPayment, -, monthly, -, mtd, -, budget, -, budgetCheck, -, threshold, -, h⟩ := h
    rw [pure_ok] at h
    subst h
    have hall := finish_allowed ha
    simp only [List.forall_mem_cons] at hall
    obtain ⟨-, hknown, hactive, honChain, hrecipient, -⟩ := hall
    obtain ⟨pr, hpr⟩ := Option.isSome_iff_exists.1 hknown
    refine ⟨by simpa using hfrozen, pr, hpr, ?_, ?_, ?_⟩
    · simpa [hpr] using hactive
    · simpa [hpr] using honChain
    · simpa [recipientMatches, hpr] using hrecipient

/-! ## What the calls do -/

theorem getProposal_ok {id : String} {p : PaymentProposal} (h : getProposal id s = .ok p) :
    s.proposals.get id = some p := by
  unfold getProposal at h
  split at h
  · rename_i q hq
    rw [pure_ok] at h
    rw [hq, h]
  · cases h

theorem getProvider_id {id : String} {pr : Provider} (h : getProvider id s = .ok pr) : pr.id = id := by
  unfold getProvider at h
  split at h
  · rename_i q hq
    rw [pure_ok] at h
    rw [← h]
    exact Table.key_of_get hq
  · cases h

theorem assertTransition_ok {p : PaymentProposal} {expected : ProposalStatus} {verb : String} {u : Unit}
    (h : assertTransition p expected verb = .ok u) : p.status = expected := by
  unfold assertTransition at h
  rw [refuseWhen_ok] at h
  exact Classical.not_not.1 h

theorem assertNotFrozen_ok {verb : String} {u : Unit} (h : assertNotFrozen verb s = .ok u) : s.frozen = false := by
  unfold assertNotFrozen at h
  rw [refuseWhen_ok] at h
  simpa using h

def Allowlisted (providers : Table Provider.id) (p : PaymentProposal) : Bool :=
  (providers.get p.providerId).any (Pays p)

theorem updateConfig_ok {update : ConfigUpdate} (h : updateConfig canonical update s = .ok s') :
    ∃ caps addresses, s' = { s with caps, addresses } := by
  simp only [updateConfig, bind_ok, pure_ok] at h
  obtain ⟨_, -, _, -, _, -, _, -, _, -, rfl⟩ := h
  exact ⟨_, _, rfl⟩

theorem clearFreeze_ok (h : clearFreeze s = .ok s') : s' = { s with frozen := false } := by
  simp only [clearFreeze, bind_ok, pure_ok] at h
  obtain ⟨_, -, rfl⟩ := h
  rfl

theorem addProvider_ok {id : String} {input : ProviderInput} (h : addProvider canonical id input s = .ok s') :
    ∃ pr : Provider, s.providers.get pr.id = none ∧ s' = { s with providers := s.providers.put pr } := by
  simp only [addProvider, bind_ok, pure_ok, refuseWhen_ok] at h
  obtain ⟨_, -, _, -, _, hfree, rfl⟩ := h
  exact ⟨_, by simpa using hfree, rfl⟩

theorem updateProvider_ok {id : String} {update : ProviderUpdate} (h : updateProvider canonical id update s = .ok s') :
    ∃ pr : Provider, pr.id = id ∧ s' = { s with providers := s.providers.put pr } := by
  simp only [updateProvider, mergedProvider, bind_ok, pure_ok] at h
  obtain ⟨current, hcurrent, _, ⟨_, -, rfl⟩, _, -, rfl⟩ := h
  refine ⟨_, ?_, rfl⟩
  dsimp only
  exact getProvider_id hcurrent

theorem propose_ok {id : String} {request : ProposalRequest} {spend : Spend} (h : propose id request spend s = .ok s') :
    ∃ p : PaymentProposal, s.proposals.get p.id = none ∧ p.status = .proposed ∧
      canonicalUsd request.amountUsd "amountUsd" = .ok p.amountUsd ∧ s' = { s with proposals := s.proposals.put p } := by
  simp only [propose, bind_ok, pure_ok, refuseWhen_ok] at h
  obtain ⟨_, hamount, _, -, _, -, _, hfree, rfl⟩ := h
  exact ⟨_, by simpa using hfree, rfl, hamount, rfl⟩

def approvalInput (p : PaymentProposal) (creatorApproval : Bool) (spend : Spend) (s : TreasuryState) : CapInput :=
  ⟨.approve, s.frozen, s.caps, s.providers.get p.providerId, enabledChains s, ⟨p.chain, p.recipient, p.asset, p.amountUsd⟩,
    spend, creatorApproval⟩

theorem approve_ok {id : String} {creatorApproval : Bool} {spend : Spend} {refused : Option CapDecision}
    (h : approve id creatorApproval spend s = .ok (s', refused)) :
    ∃ p, s.proposals.get id = some p ∧ p.status = .proposed ∧
      (s' = decideProposal p .approved creatorApproval s ∧
          (∃ d, evaluateCaps (approvalInput p creatorApproval spend s) = .ok d ∧ d.allowed = true) ∨
        s' = decideProposal p .rejected creatorApproval s) := by
  simp only [approve, bind_ok] at h
  obtain ⟨p, hp, _, hstatus, _, -, decision, hdecision, h⟩ := h
  refine ⟨p, getProposal_ok hp, assertTransition_ok hstatus, ?_⟩
  split at h
  · rename_i hallowed
    rw [pure_ok, Prod.mk.injEq] at h
    exact .inl ⟨h.1.symm, decision, hdecision, hallowed⟩
  · rw [pure_ok, Prod.mk.injEq] at h
    exact .inr h.1.symm

theorem allowlisted_of_allowed {p : PaymentProposal} {creatorApproval : Bool} {spend : Spend} {d : CapDecision}
    (h : evaluateCaps (approvalInput p creatorApproval spend s) = .ok d) (ha : d.allowed = true) :
    Allowlisted s.providers p = true := by
  obtain ⟨-, pr, hpr, hactive, honChain, hrecipient⟩ := evaluateCaps_allowed h ha
  dsimp only [approvalInput] at hpr hrecipient
  simp [Allowlisted, Pays, hpr, hactive, honChain, hrecipient]

theorem reject_ok {id : String} (h : reject id s = .ok s') :
    ∃ p, s.proposals.get id = some p ∧ p.status = .proposed ∧ s' = decideProposal p .rejected false s := by
  simp only [reject, bind_ok, pure_ok] at h
  obtain ⟨p, hp, _, hstatus, rfl⟩ := h
  exact ⟨p, getProposal_ok hp, assertTransition_ok hstatus, rfl⟩

theorem cancel_ok {id : String} (h : cancel id s = .ok s') :
    ∃ p, s.proposals.get id = some p ∧ p.status = .approved ∧
      s' = { s with proposals := s.proposals.put { p with status := .cancelled } } := by
  simp only [cancel, bind_ok, pure_ok] at h
  obtain ⟨p, hp, _, hstatus, rfl⟩ := h
  exact ⟨p, getProposal_ok hp, assertTransition_ok hstatus, rfl⟩

/-- The enabled address of the chain is the one the instruction names. -/
def SourceStands (addresses : Table TreasuryAddress.chain) (chain : ChainId) (source : String) : Bool :=
  (addresses.get chain).any fun a => a.enabled && decide (a.address = source)

theorem beginExport_ok {id : String} {c : Composed} (h : beginExport id s = .ok c) :
    s.proposals.get c.proposal.id = some c.proposal ∧ c.proposal.status = .approved ∧
      SourceStands s.addresses c.proposal.chain c.source = true := by
  simp only [beginExport, bind_ok] at h
  obtain ⟨p, hp, _, hstatus, _, -, provider, -, h⟩ := h
  split at h
  · cases h
  split at h
  · cases h
  rename_i source hsource
  rw [pure_ok] at h
  subst h
  have hrow := getProposal_ok hp
  obtain ⟨haddress, henabled⟩ := Option.filter_eq_some_iff.1 hsource
  refine ⟨?_, assertTransition_ok hstatus, ?_⟩
  · have hid : p.id = id := Table.key_of_get hrow
    rw [hid]
    exact hrow
  · simp [SourceStands, haddress, henabled]

theorem finishExport_ok {c : Composed} {answer : Except String PriceQuote} {i : ExportedInstruction}
    (h : finishExport c answer s = .ok (s', i)) :
    s.frozen = false ∧ i = instructionOf c answer ∧ ∃ p, s.proposals.get c.proposal.id = some p ∧ p.status = .approved ∧
      s' = { s with proposals := s.proposals.put { p with status := .exported, instruction := some i } } := by
  simp only [finishExport, bind_ok, pure_ok, Prod.mk.injEq] at h
  obtain ⟨_, hfrozen, p, hp, _, hstatus, rfl, rfl⟩ := h
  exact ⟨assertNotFrozen_ok hfrozen, rfl, p, getProposal_ok hp, assertTransition_ok hstatus, rfl⟩

/-! ## What one event makes of a proposal -/

inductive Became (providers : Table Provider.id) : Option PaymentProposal → Option PaymentProposal → Prop where
  | same (row : Option PaymentProposal) : Became providers row row
  | created (p : PaymentProposal) (h : p.status = .proposed) : Became providers none (some p)
  | decided (p : PaymentProposal) (status : ProposalStatus) (creatorApproval : Bool) (h : p.status = .proposed)
      (hs : status = .approved ∧ Allowlisted providers p = true ∨ status = .rejected) :
      Became providers (some p) (some { p with status, creatorApproval })
  | cancelled (p : PaymentProposal) (h : p.status = .approved) :
      Became providers (some p) (some { p with status := .cancelled })
  | exported (p : PaymentProposal) (i : ExportedInstruction) (h : p.status = .approved) :
      Became providers (some p) (some { p with status := .exported, instruction := some i })

theorem get_id {id : String} {p : PaymentProposal} (h : s.proposals.get id = some p) : s.proposals.get p.id = some p := by
  rw [Table.key_of_get h]
  exact h

theorem became_put {p : PaymentProposal} (h : Became s.providers (s.proposals.get p.id) (some p)) (id : String) :
    Became s.providers (s.proposals.get id) ((s.proposals.put p).get id) := by
  rw [Table.get_put]
  split
  · rename_i hid
    rw [hid]
    exact h
  · exact .same _

/-- Everything an event can do, with what it found when it did it. -/
inductive Did (canonical : ChainId → String → String → Result String) (s : TreasuryState) (e : TreasuryEvent) :
    TreasuryState → Prop where
  | freeze (frozen : Bool) : Did canonical s e { s with frozen }
  | config (update : ConfigUpdate) (caps : TreasuryCaps) (addresses : Table TreasuryAddress.chain)
      (he : e = .call (.updateConfig update) true)
      (h : updateConfig canonical update s = .ok { s with caps, addresses }) : Did canonical s e { s with caps, addresses }
  | newProvider (pr : Provider) (h : s.providers.get pr.id = none) :
      Did canonical s e { s with providers := s.providers.put pr }
  | provider (update : ProviderUpdate) (pr : Provider) (he : e = .call (.updateProvider pr.id update) true)
      (h : updateProvider canonical pr.id update s = .ok { s with providers := s.providers.put pr }) :
      Did canonical s e { s with providers := s.providers.put pr }
  | proposal (p : PaymentProposal) (exports : List Composed) (h : Became s.providers (s.proposals.get p.id) (some p))
      (hexports : ∀ c ∈ exports, c ∈ s.exports) : Did canonical s e { s with proposals := s.proposals.put p, exports }
  | exports (exports : List Composed)
      (h : ∀ c ∈ exports, c ∈ s.exports ∨ ∃ id, e = .beginExport id ∧ beginExport id s = .ok c) :
      Did canonical s e { s with exports }

theorem did_nothing (e : TreasuryEvent) : Did canonical s e s := .exports s.exports fun _ h => .inl h

theorem did_propose {p : PaymentProposal} {e : TreasuryEvent} (h : Became s.providers (s.proposals.get p.id) (some p)) :
    Did canonical s e { s with proposals := s.proposals.put p } :=
  .proposal p s.exports h fun _ hc => hc

theorem did_call {c : AdminCall} (h : c.apply canonical s = .ok s') : Did canonical s (.call c true) s' := by
  cases c with
  | updateConfig update =>
    have hok : updateConfig canonical update s = .ok s' := h
    obtain ⟨_, _, rfl⟩ := updateConfig_ok hok
    exact .config update _ _ rfl hok
  | freeze =>
    cases h
    exact .freeze true
  | clearFreeze =>
    obtain rfl := clearFreeze_ok h
    exact .freeze false
  | addProvider id input =>
    obtain ⟨pr, hfree, rfl⟩ := addProvider_ok h
    exact .newProvider pr hfree
  | updateProvider id update =>
    have hok : updateProvider canonical id update s = .ok s' := h
    obtain ⟨pr, rfl, rfl⟩ := updateProvider_ok hok
    exact .provider update pr rfl hok
  | propose id request spend =>
    obtain ⟨p, hfree, hstatus, -, rfl⟩ := propose_ok h
    apply did_propose
    rw [hfree]
    exact .created p hstatus
  | approve id creatorApproval spend =>
    obtain ⟨⟨_, refused⟩, happrove, hs'⟩ := bind_ok.1 h
    obtain rfl := pure_ok.1 hs'
    obtain ⟨p, hp, hstatus, ⟨rfl, d, hd, hallowed⟩ | rfl⟩ := approve_ok happrove
    · apply did_propose
      rw [get_id hp]
      exact .decided p _ _ hstatus (.inl ⟨rfl, allowlisted_of_allowed hd hallowed⟩)
    · apply did_propose
      rw [get_id hp]
      exact .decided p _ _ hstatus (.inr rfl)
  | reject id =>
    obtain ⟨p, hp, hstatus, rfl⟩ := reject_ok h
    apply did_propose
    rw [get_id hp]
    exact .decided p _ _ hstatus (.inr rfl)
  | cancel id =>
    obtain ⟨p, hp, hstatus, rfl⟩ := cancel_ok h
    apply did_propose
    rw [get_id hp]
    exact .cancelled p hstatus

theorem did_step (canonical : ChainId → String → String → Result String) (s : TreasuryState) (e : TreasuryEvent) :
    Did canonical s e (treasuryStep canonical s e) := by
  cases e with
  | call c written =>
    cases written with
    | false => exact did_nothing _
    | true =>
      unfold treasuryStep
      dsimp only
      cases h : c.apply canonical s with
      | error _ => exact did_nothing _
      | ok s' => exact did_call h
  | beginExport id =>
    unfold treasuryStep
    dsimp only
    cases h : beginExport id s with
    | error _ => exact did_nothing _
    | ok c =>
      refine .exports _ fun c' hc' => ?_
      rcases List.mem_append.1 hc' with hold | hnew
      · exact .inl hold
      · obtain rfl := List.mem_singleton.1 hnew
        exact .inr ⟨id, rfl, h⟩
  | finishExport i answer written =>
    have hleft : ∀ c ∈ s.exports.eraseIdx i, c ∈ s.exports := fun c hc => List.mem_of_mem_eraseIdx hc
    unfold treasuryStep
    dsimp only
    cases hc : s.exports[i]? with
    | none => exact did_nothing _
    | some c =>
      dsimp only
      cases h : finishExport c answer (s.resume i) with
      | error _ => exact .exports _ fun c hc => .inl (hleft c hc)
      | ok r =>
        obtain ⟨s', instruction⟩ := r
        cases written with
        | false => exact .exports _ fun c hc => .inl (hleft c hc)
        | true =>
          obtain ⟨-, -, p, hp, hstatus, rfl⟩ := finishExport_ok h
          refine .proposal _ _ ?_ hleft
          have hrow : s.proposals.get p.id = some p := get_id hp
          dsimp only
          rw [hrow]
          exact .exported p instruction hstatus
  | restart => exact .exports [] fun _ h => by cases h

theorem Did.became {e : TreasuryEvent} (h : Did canonical s e s') (id : String) :
    Became s.providers (s.proposals.get id) (s'.proposals.get id) := by
  cases h with
  | proposal p exports h => exact became_put h id
  | freeze | config | newProvider | provider | exports => exact .same _

/-- A status no event leaves. -/
def ProposalStatus.Final (status : ProposalStatus) : Prop := status = .rejected ∨ status = .exported ∨ status = .cancelled

theorem Became.final {p : PaymentProposal} {row : Option PaymentProposal} (h : Became providers (some p) row) (hf : p.status.Final) :
    row = some p := by
  cases h with
  | same => rfl
  | decided _ _ _ h _ => rcases hf with hf | hf | hf <;> rw [hf] at h <;> cases h
  | cancelled _ h => rcases hf with hf | hf | hf <;> rw [hf] at h <;> cases h
  | exported _ _ h => rcases hf with hf | hf | hf <;> rw [hf] at h <;> cases h

/-- What a row keeps: whom it pays, and that it was decided. -/
structure SameProposal (p p' : PaymentProposal) : Prop where
  id : p'.id = p.id
  providerId : p'.providerId = p.providerId
  chain : p'.chain = p.chain
  recipient : p'.recipient = p.recipient
  decided : p.status ≠ .proposed → p'.status ≠ .proposed
  again : p.status ≠ .proposed → p'.status = .approved → p.status = .approved

theorem Became.keeps {p : PaymentProposal} {row : Option PaymentProposal} (h : Became providers (some p) row) :
    ∃ p', row = some p' ∧ SameProposal p p' := by
  cases h with
  | same => exact ⟨p, rfl, rfl, rfl, rfl, rfl, id, fun _ h => h⟩
  | decided _ status c h hs => exact ⟨_, rfl, rfl, rfl, rfl, rfl, fun hne => absurd h hne, fun hne => absurd h hne⟩
  | cancelled _ h => exact ⟨_, rfl, rfl, rfl, rfl, rfl, fun _ => by simp, fun _ h => by cases h⟩
  | exported _ i h => exact ⟨_, rfl, rfl, rfl, rfl, rfl, fun _ => by simp, fun _ h => by cases h⟩

/-! ## What is handed over -/

theorem handedOver_ok (canonical : ChainId → String → String → Result String) {e : TreasuryEvent} {i : ExportedInstruction}
    (h : i ∈ handedOver s e) :
    s.frozen = false ∧ ∃ c ∈ s.exports, ∃ answer p, i = instructionOf c answer ∧ s.proposals.get c.proposal.id = some p ∧
      p.status = .approved ∧ handedOver s e = [i] ∧
      (treasuryStep canonical s e).proposals.get p.id = some { p with status := .exported, instruction := some i } := by
  cases e with
  | finishExport k answer written =>
    cases written with
    | false => cases h
    | true =>
      unfold handedOver treasuryStep at *
      dsimp only at h ⊢
      cases hc : s.exports[k]? with
      | none =>
        rw [hc] at h
        cases h
      | some c =>
        rw [hc] at h
        dsimp only at h ⊢
        cases hf : finishExport c answer (s.resume k) with
        | error _ =>
          rw [hf] at h
          cases h
        | ok r =>
          obtain ⟨s', instruction⟩ := r
          rw [hf] at h
          obtain rfl := List.mem_singleton.1 h
          obtain ⟨hfrozen, hi, p, hp, hstatus, rfl⟩ := finishExport_ok hf
          refine ⟨hfrozen, c, List.mem_of_getElem? hc, answer, p, hi, hp, hstatus, rfl, ?_⟩
          dsimp only
          rw [Table.get_put, if_pos rfl]
  | call _ _ => cases h
  | beginExport _ => cases h
  | restart => cases h

/-! ## Steady runs -/

/-- The call takes no recipient from an approved proposal and no source from an export under way. -/
def Steady (canonical : ChainId → String → String → Result String) (s : TreasuryState) : TreasuryEvent → Prop
  | .call (.updateProvider id update) true => ∀ s', updateProvider canonical id update s = .ok s' →
      ∀ p ∈ s.proposals.rows, p.status = .approved → p.providerId = id → Allowlisted s'.providers p = true
  | .call (.updateConfig update) true => ∀ s', updateConfig canonical update s = .ok s' →
      ∀ c ∈ s.exports, (s.proposals.get c.proposal.id).any (fun p => p.status = .approved) = true →
        SourceStands s'.addresses c.proposal.chain c.source = true
  | _ => True

/-- What stands behind the approved proposals and the exports under way. -/
structure Sound (s : TreasuryState) : Prop where
  allowlisted : ∀ id p, s.proposals.get id = some p → p.status = .approved → Allowlisted s.providers p = true
  carried : ∀ c ∈ s.exports, ∃ p, s.proposals.get c.proposal.id = some p ∧ SameProposal c.proposal p ∧
    c.proposal.status = .approved ∧ (p.status = .approved → SourceStands s.addresses c.proposal.chain c.source = true)

theorem newTreasury_sound : Sound newTreasury where
  allowlisted _ _ h := by cases h
  carried _ h := by cases h

theorem allowlisted_put {p : PaymentProposal} {pr : Provider} (hne : p.providerId ≠ pr.id)
    (h : Allowlisted s.providers p = true) : Allowlisted (s.providers.put pr) p = true := by
  unfold Allowlisted
  rw [Table.get_put, if_neg hne]
  exact h

theorem Sound.allowlisted_did (h : Sound s) {e : TreasuryEvent} (hs : Steady canonical s e) (hdid : Did canonical s e s')
    {p : PaymentProposal} (hp : s.proposals.get p.id = some p) (hstatus : p.status = .approved) :
    Allowlisted s'.providers p = true := by
  have hallowed : Allowlisted s.providers p = true := h.allowlisted p.id p hp hstatus
  cases hdid with
  | newProvider pr hfree =>
    refine allowlisted_put (fun hid => ?_) hallowed
    rw [Allowlisted, hid, hfree] at hallowed
    cases hallowed
  | provider update pr he hok =>
    subst he
    by_cases hid : p.providerId = pr.id
    · exact hs _ hok p (Table.mem_of_get hp) hstatus hid
    · exact allowlisted_put hid hallowed
  | freeze | config | proposal | exports => exact hallowed

/-- What a steady event leaves in place for an export of a proposal that is still approved. -/
theorem Sound.source_did (h : Sound s) {e : TreasuryEvent} (hs : Steady canonical s e) (hdid : Did canonical s e s')
    {c : Composed} (hc : c ∈ s.exports) {p : PaymentProposal} (hp : s.proposals.get c.proposal.id = some p)
    (hstatus : p.status = .approved) : SourceStands s'.addresses c.proposal.chain c.source = true := by
  have hstands : SourceStands s.addresses c.proposal.chain c.source = true := by
    obtain ⟨p', hp', -, -, hsource⟩ := h.carried c hc
    obtain rfl : p = p' := Option.some.inj (hp.symm.trans hp')
    exact hsource hstatus
  cases hdid with
  | config update caps addresses he hok =>
    subst he
    exact hs _ hok c hc (by simp [hp, hstatus])
  | freeze | newProvider | provider | proposal | exports => exact hstands

theorem SameProposal.trans {p q r : PaymentProposal} (h : SameProposal p q) (h' : SameProposal q r) : SameProposal p r where
  id := h'.id.trans h.id
  providerId := h'.providerId.trans h.providerId
  chain := h'.chain.trans h.chain
  recipient := h'.recipient.trans h.recipient
  decided hp := h'.decided (h.decided hp)
  again hp hr := h.again hp (h'.again (h.decided hp) hr)

/-- An export under way was under way, or has just begun. -/
theorem Did.mem_exports {e : TreasuryEvent} (h : Did canonical s e s') {c : Composed} (hc : c ∈ s'.exports) :
    c ∈ s.exports ∨ ∃ id, e = .beginExport id ∧ beginExport id s = .ok c ∧ s'.addresses = s.addresses ∧
      s'.proposals = s.proposals := by
  cases h with
  | proposal p exports h hexports => exact .inl (hexports c hc)
  | exports exports hexports =>
    rcases hexports c hc with hold | ⟨id, he, hbegin⟩
    · exact .inl hold
    · exact .inr ⟨id, he, hbegin, rfl, rfl⟩
  | freeze | config | newProvider | provider => exact .inl hc

/-- A proposal that has become approved was approved, or the caps have just let it pass. -/
theorem Became.allowlisted {row : Option PaymentProposal} {q : PaymentProposal} (h : Became providers row (some q))
    (hkept : ∀ p, row = some p → p.status = .approved → Allowlisted providers p = true) (hstatus : q.status = .approved) :
    Allowlisted providers q = true := by
  cases h with
  | same => exact hkept q rfl hstatus
  | created _ hproposed =>
    rw [hproposed] at hstatus
    cases hstatus
  | decided p status creatorApproval hproposed hdecided =>
    rcases hdecided with ⟨-, hallowed⟩ | rfl
    · exact hallowed
    · cases hstatus
  | cancelled => cases hstatus
  | exported => cases hstatus

/-- **A steady event keeps the approved proposals payable and the exports under way right.** -/
theorem Sound.did (h : Sound s) {e : TreasuryEvent} (hs : Steady canonical s e) (hdid : Did canonical s e s') : Sound s' where
  allowlisted id p hp hstatus := by
    have hkept : ∀ p, s.proposals.get p.id = some p → p.status = .approved → Allowlisted s'.providers p = true :=
      fun p hp hstatus => h.allowlisted_did hs hdid hp hstatus
    cases hdid with
    | proposal q exports hq hexports =>
      dsimp only at hp hkept
      rw [Table.get_put] at hp
      split at hp
      · obtain rfl := Option.some.inj hp
        exact hq.allowlisted (fun p' hp' => hkept p' (get_id hp')) hstatus
      · exact hkept p (get_id hp) hstatus
    | freeze | config | newProvider | provider | exports => exact hkept p (get_id hp) hstatus
  carried c hc := by
    rcases hdid.mem_exports hc with hold | ⟨id, -, hbegin, haddresses, hproposals⟩
    · obtain ⟨p, hp, hsame, happroved, -⟩ := h.carried c hold
      have hrow := hdid.became c.proposal.id
      rw [hp] at hrow
      obtain ⟨p', hp', hsame'⟩ := hrow.keeps
      have hne : p.status ≠ .proposed := hsame.decided (by rw [happroved]; simp)
      exact ⟨p', hp', hsame.trans hsame', happroved, fun hstatus => h.source_did hs hdid hold hp (hsame'.again hne hstatus)⟩
    · obtain ⟨hrow, hstatus, hstands⟩ := beginExport_ok hbegin
      rw [haddresses, hproposals]
      exact ⟨c.proposal, hrow, ⟨rfl, rfl, rfl, rfl, fun h => h, fun _ h => h⟩, hstatus, fun _ => hstands⟩

/-! ## Runs -/

/-- The instructions a run hands over, oldest first. -/
def handed (canonical : ChainId → String → String → Result String) (es : List TreasuryEvent) : List ExportedInstruction :=
  collect (treasuryStep canonical) handedOver newTreasury es

/-- What the write of an instruction must find. -/
structure Approved (s : TreasuryState) (i : ExportedInstruction) : Prop where
  unfrozen : s.frozen = false
  approved : ∃ p, s.proposals.get i.proposalId = some p ∧ p.status = .approved

/-- The instruction names, as they stand, the recipient and chain of the proposal's provider, which is active and paid on a
chain, and the enabled treasury address of that chain. -/
structure NamesStanding (s : TreasuryState) (i : ExportedInstruction) : Prop where
  provider : ∃ p pr, s.proposals.get i.proposalId = some p ∧ s.providers.get p.providerId = some pr ∧ pr.active = true ∧
    pr.billingMode = .onChain ∧ pr.recipient = some ⟨i.chain, i.recipient⟩
  source : ∃ a, s.addresses.get i.chain = some a ∧ a.enabled = true ∧ a.address = i.source

theorem approved_of_handedOver {e : TreasuryEvent} {i : ExportedInstruction} (h : i ∈ handedOver s e) : Approved s i := by
  obtain ⟨hfrozen, c, -, answer, p, rfl, hp, hstatus, -, -⟩ := handedOver_ok (fun _ a _ => .ok a) h
  exact ⟨hfrozen, p, hp, hstatus⟩

theorem Sound.namesStanding (h : Sound s) {e : TreasuryEvent} {i : ExportedInstruction} (hi : i ∈ handedOver s e) :
    NamesStanding s i := by
  obtain ⟨-, c, hc, answer, p, rfl, hp, hstatus, -, -⟩ := handedOver_ok (fun _ a _ => .ok a) hi
  obtain ⟨p', hp', hsame, -, hstands⟩ := h.carried c hc
  obtain rfl : p = p' := Option.some.inj (hp.symm.trans hp')
  have hallowed := h.allowlisted _ p hp hstatus
  have hsource := hstands hstatus
  obtain ⟨pr, hpr, hpays⟩ := (Option.any_eq_true _ _).1 hallowed
  obtain ⟨a, ha, hnamed⟩ := (Option.any_eq_true _ _).1 hsource
  simp only [Pays, Bool.and_eq_true, decide_eq_true_eq] at hpays hnamed
  obtain ⟨⟨hactive, honChain⟩, hrecipient⟩ := hpays
  rw [hsame.chain, hsame.recipient] at hrecipient
  exact ⟨⟨p, pr, hp, hpr, hactive, honChain, hrecipient⟩, a, ha, hnamed⟩

/-- The treasury after a run from its first start. -/
def treasury (canonical : ChainId → String → String → Result String) (es : List TreasuryEvent) : TreasuryState :=
  after (treasuryStep canonical) newTreasury es

theorem treasury_snoc (es : List TreasuryEvent) (e : TreasuryEvent) :
    treasury canonical (es ++ [e]) = treasuryStep canonical (treasury canonical es) e := after_snoc

theorem handed_snoc (es : List TreasuryEvent) (e : TreasuryEvent) :
    handed canonical (es ++ [e]) = handed canonical es ++ handedOver (treasury canonical es) e := collect_snoc

theorem treasury_sound {es : List TreasuryEvent} (h : Along (treasuryStep canonical) (Steady canonical) newTreasury es) :
    Sound (treasury canonical es) := by
  induction es using List.reverseRecOn with
  | nil => exact newTreasury_sound
  | append_singleton es e ih =>
    obtain ⟨hes, he⟩ := along_snoc.1 h
    rw [treasury_snoc]
    exact (ih hes).did he (did_step canonical _ e)

theorem final_stays {es : List TreasuryEvent} {id : String} {p : PaymentProposal}
    (hp : (treasury canonical es).proposals.get id = some p) (hf : p.status.Final) (more : List TreasuryEvent) :
    (treasury canonical (es ++ more)).proposals.get id = some p := by
  induction more using List.reverseRecOn with
  | nil => rwa [List.append_nil]
  | append_singleton more e ih =>
    have hrow := (did_step canonical (treasury canonical (es ++ more)) e).became id
    rw [ih] at hrow
    rw [← List.append_assoc, treasury_snoc]
    exact hrow.final hf

/-- What was handed over is `exported`, and was handed over once. -/
theorem handed_once (es : List TreasuryEvent) :
    ((handed canonical es).map ExportedInstruction.proposalId).Nodup ∧
      ∀ i ∈ handed canonical es, ∃ p, (treasury canonical es).proposals.get i.proposalId = some p ∧ p.status = .exported := by
  induction es using List.reverseRecOn with
  | nil => exact ⟨List.nodup_nil, fun i hi => by cases hi⟩
  | append_singleton es e ih =>
    obtain ⟨hnodup, hexported⟩ := ih
    have hbefore : ∀ i ∈ handed canonical es, ∃ p,
        (treasury canonical (es ++ [e])).proposals.get i.proposalId = some p ∧ p.status = .exported := by
      intro i hi
      obtain ⟨p, hp, hstatus⟩ := hexported i hi
      exact ⟨p, final_stays hp (.inr (.inl hstatus)) [e], hstatus⟩
    rw [handed_snoc]
    cases hnew : handedOver (treasury canonical es) e with
    | nil =>
      rw [List.append_nil]
      exact ⟨hnodup, hbefore⟩
    | cons i rest =>
      have hi : i ∈ handedOver (treasury canonical es) e := by rw [hnew]; exact List.mem_cons_self
      obtain ⟨-, c, -, answer, p, rfl, hp, hstatus, hone, hrow⟩ := handedOver_ok canonical hi
      rw [hnew] at hone
      rw [hone]
      constructor
      · rw [List.map_append, List.nodup_append]
        refine ⟨hnodup, List.nodup_singleton _, fun a ha b hb hab => ?_⟩
        obtain ⟨j, hj, rfl⟩ := List.mem_map.1 ha
        obtain rfl := List.mem_singleton.1 hb
        obtain ⟨q, hq, hqstatus⟩ := hexported j hj
        rw [hab] at hq
        obtain rfl : p = q := Option.some.inj (hp.symm.trans hq)
        rw [hstatus] at hqstatus
        cases hqstatus
      · intro j hj
        rcases List.mem_append.1 hj with hj | hj
        · exact hbefore j hj
        · obtain rfl := List.mem_singleton.1 hj
          have hid : p.id = c.proposal.id := Table.key_of_get hp
          rw [treasury_snoc]
          exact ⟨_, hid ▸ hrow, rfl⟩

/-- **Treasury export safety.**  In every run a proposal is handed over once at most, from `approved` and with nothing
frozen, and not after it was cancelled.  In a run whose steps are steady, what is handed over names the recipient and the
source as they stand. -/
theorem exports_safe (es : List TreasuryEvent) :
    ((handed canonical es).map ExportedInstruction.proposalId).Nodup ∧
    (∀ id p, (treasury canonical es).proposals.get id = some p → p.status = .cancelled →
      ∀ more, ∀ i ∈ handed canonical (es ++ more), i.proposalId ≠ id) ∧
    (∀ e, ∀ i ∈ handedOver (treasury canonical es) e, Approved (treasury canonical es) i) ∧
    (Along (treasuryStep canonical) (Steady canonical) newTreasury es →
      ∀ e, ∀ i ∈ handedOver (treasury canonical es) e, NamesStanding (treasury canonical es) i) := by
  refine ⟨(handed_once es).1, fun id p hp hstatus more i hi hid => ?_, fun e i hi => approved_of_handedOver hi,
    fun h e i hi => (treasury_sound h).namesStanding hi⟩
  obtain ⟨q, hq, hexported⟩ := (handed_once (es ++ more)).2 i hi
  rw [hid, final_stays hp (.inr (.inr hstatus)) more] at hq
  obtain rfl : p = q := Option.some.inj hq
  rw [hstatus] at hexported
  cases hexported

def namesRecipient (s : TreasuryState) (i : ExportedInstruction) : Bool :=
  ((s.proposals.get i.proposalId).bind fun p => s.providers.get p.providerId).any fun pr =>
    decide (pr.recipient = some ⟨i.chain, i.recipient⟩)

theorem NamesStanding.recipient {i : ExportedInstruction} (h : NamesStanding s i) : namesRecipient s i = true := by
  obtain ⟨p, pr, hp, hpr, -, -, hrecipient⟩ := h.provider
  simp [namesRecipient, hp, hpr, hrecipient]

end

/-! ## A recipient replaced after the approval -/

/-- Addresses that are in the canonical form already. -/
def asGiven (_ : ChainId) (address _ : String) : Result String := .ok address

def addHosting : TreasuryEvent :=
  .call (.addProvider "hosting"
    ⟨"Hosting", .onChain, "100", some ⟨.base, "0xaaaaaaaaaaaaaaaaaaaaaaaaaaaaaaaaaaaaaaaa"⟩⟩) true

/-- A provider, an address, and a proposal that is approved. -/
def hosting : List TreasuryEvent :=
  [addHosting,
    .call (.updateConfig ⟨⟨none, some "50", some "500", some "50"⟩,
      [⟨.base, "0x1111111111111111111111111111111111111111", [], true⟩]⟩) true,
    .call (.propose "payment" ⟨"hosting", "USDC", "20"⟩ ⟨"0", "0"⟩) true,
    .call (.approve "payment" true ⟨"0", "0"⟩) true]

/-- The provider moves to another address before the export. -/
def moved : List TreasuryEvent :=
  hosting ++ [.call (.updateProvider "hosting"
      ⟨none, none, none, some (some ⟨.base, "0xbbbbbbbbbbbbbbbbbbbbbbbbbbbbbbbbbbbbbbbb"⟩), none⟩) true,
    .beginExport "payment"]

/-- The price is not known. -/
def unpriced : TreasuryEvent := .finishExport 0 (.error "offline") true

theorem moved_names_old_recipient :
    ¬ ∀ i ∈ handedOver (treasury asGiven moved) unpriced, NamesStanding (treasury asGiven moved) i := by
  intro h
  have hall : (handedOver (treasury asGiven moved) unpriced).all (namesRecipient (treasury asGiven moved)) = true :=
    List.all_eq_true.2 fun i hi => (h i hi).recipient
  revert hall
  decide +kernel

def stayed : List TreasuryEvent := hosting ++ [.beginExport "payment"]

theorem exports_safe_stayed :
    (∀ i ∈ handedOver (treasury asGiven stayed) unpriced, NamesStanding (treasury asGiven stayed) i) ∧
    (handedOver (treasury asGiven stayed) unpriced).map ExportedInstruction.recipient =
      ["0xaaaaaaaaaaaaaaaaaaaaaaaaaaaaaaaaaaaaaaaa"] := by
  refine ⟨(exports_safe stayed).2.2.2 ?_ _, by decide +kernel⟩
  refine ⟨trivial, fun s' _ c hc => ?_, trivial, trivial, trivial, trivial⟩
  -- No export is under way when the address is configured.
  have hnone : (treasuryStep asGiven newTreasury addHosting).exports = [] := by decide +kernel
  rw [hnone] at hc
  cases hc

end Treasury
end Atra
