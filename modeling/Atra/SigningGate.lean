import Atra.LiveSwap
/-!
# SigningGate — what stands between an adapter and the wallet key

The key is used in the step that vets the context, so the switches it was vetted under are those it is used under, whatever the
operator did while the adapter built, simulated and prepared (`signing_gated`).  What is broadcast has its hash on the trade's
row, and one execution broadcasts one transaction at most.
-/
namespace Atra
namespace Live

variable {ρ : Type}

def isBroadcast : LiveEvent → Bool
  | .broadcast _ _ => true
  | _ => false

/-- Since a process stood at `p` it told what satisfies `P`, and at most `n` broadcasts among it. -/
def Tells (P : LiveEvent → Prop) (n : Nat) (p q : Process) : Prop :=
  ∃ told, q.log = p.log ++ told ∧ (∀ e ∈ told, P e) ∧ told.countP isBroadcast ≤ n

section
variable {P : LiveEvent → Prop} {m n : Nat} {p q r : Process}

theorem Tells.refl (p : Process) : Tells P 0 p p :=
  ⟨[], (List.append_nil _).symm, fun _ he => absurd he List.not_mem_nil, Nat.le_refl 0⟩

theorem Tells.trans (h : Tells P m p q) (h' : Tells P n q r) : Tells P (m + n) p r := by
  obtain ⟨told, hq, hP, hm⟩ := h
  obtain ⟨told', hr, hP', hn⟩ := h'
  refine ⟨told ++ told', by rw [hr, hq, List.append_assoc], fun e he => ?_, ?_⟩
  · rcases List.mem_append.1 he with he | he
    · exact hP e he
    · exact hP' e he
  · rw [List.countP_append]
    exact Nat.add_le_add hm hn

theorem Tells.mono (h : Tells P m p q) (hmn : m ≤ n) : Tells P n p q := by
  obtain ⟨told, hq, hP, hm⟩ := h
  exact ⟨told, hq, hP, hm.trans hmn⟩

theorem Tells.told {e : LiveEvent} (he : P e) (hq : q.log = p.log ++ [e]) : Tells P (if isBroadcast e then 1 else 0) p q := by
  refine ⟨[e], hq, fun e' he' => ?_, ?_⟩
  · rw [List.mem_singleton.1 he']
    exact he
  · rw [List.countP_singleton]

theorem Tells.emit {e : LiveEvent} (h : Tells P m p q) (he : P e) :
    Tells P (m + if isBroadcast e then 1 else 0) p { q with log := q.log ++ [e] } := h.trans (.told he rfl)

theorem Tells.bind {α β : Type} {x : Live α} {f : α → Live β} (hx : Script.Keeps (Tells P m) x)
    (hf : ∀ a, Script.Keeps (Tells P n) (f a)) : Script.Keeps (Tells P (m + n)) (x >>= f) :=
  hx.bind (fun h h' => h.trans h') (fun h => h.mono (Nat.le_add_right m n)) hf

end

/-! ## Steps that broadcast nothing -/

/-- What a process tells on the way to its key and past it: the key is used on contexts that were cleared, and what is broadcast
is what the trade's row, signed, names. -/
def Gated (cleared : Controls → SigningContext → Prop) (tradeId : String) : LiveEvent → Prop
  | .keyUsed controls context => cleared controls context
  | .signed _ => True
  | .broadcast row signed => ∃ r, row = some r ∧ r.id = tradeId ∧ r.status = .signed ∧ r.txHash = some signed.hash
  | .wrote _ => True

/-- A script that broadcasts nothing and uses no key that was not cleared. -/
abbrev Quiet {α : Type} (cleared : Controls → SigningContext → Prop) (tradeId : String) (x : Live α) : Prop :=
  Script.Keeps (Tells (Gated cleared tradeId) 0) x

section
variable {α β : Type} {cleared : Controls → SigningContext → Prop} {tradeId : String}

theorem quiet_pure (a : α) : Quiet cleared tradeId (pure a) := Script.keeps_pure Tells.refl a

theorem quiet_throw (e : AppError) : Quiet cleared tradeId (throw e : Live α) := Script.keeps_throw Tells.refl e

theorem quiet_get : Quiet cleared tradeId (get : Live Process) := Script.keeps_get Tells.refl

theorem quiet_lift (r : Result α) : Quiet cleared tradeId (liftM r : Live α) := Script.keeps_lift Tells.refl r

theorem quiet_sleep (a : Pause) : Quiet cleared tradeId (sleep a) := fun p =>
  ⟨[], (List.append_nil p.log).symm, fun _ he => absurd he List.not_mem_nil, Nat.le_refl 0⟩

theorem Quiet.bind {x : Live α} {f : α → Live β} (hx : Quiet cleared tradeId x) (hf : ∀ a, Quiet cleared tradeId (f a)) :
    Quiet cleared tradeId (x >>= f) := Tells.bind hx hf

theorem Quiet.attempt {x : Live α} (hx : Quiet cleared tradeId x) : Quiet cleared tradeId (Script.attempt x) :=
  Script.Keeps.attempt hx

theorem quiet_await (a : Await α) : Quiet cleared tradeId (await a) := (quiet_sleep a.toPause).bind fun _ => quiet_lift a.answer

theorem quiet_write (f : Db → Int → Result (Db × α)) : Quiet cleared tradeId (write f) := by
  intro p
  unfold write
  rw [Script.exec_get_bind, Script.exec_bind, Script.exec_lift]
  cases hf : f p.db p.clock with
  | error e => exact .refl p
  | ok out => exact Tells.told (e := .wrote out.1) trivial rfl

theorem quiet_markFailed (id reason : String) : Quiet cleared tradeId (markFailed id reason) := by
  refine (quiet_write _).attempt.bind fun r => ?_
  cases r with
  | ok row => exact quiet_pure ()
  | error e =>
    dsimp only
    split
    · exact quiet_pure ()
    · exact quiet_throw e

theorem quiet_dispatch (id : String) (action : ProposedAction) : Quiet cleared tradeId (dispatch id action) :=
  (quiet_write _).bind fun _ => quiet_write _

theorem quiet_stop (id reason : String) (txHash : Option String) (time : Int) :
    Quiet cleared tradeId (stop id reason txHash time : Live (Sent ρ)) :=
  (quiet_markFailed id reason).bind fun _ => quiet_pure _

theorem quiet_leaveOpen (reason txHash : String) : Quiet cleared tradeId (leaveOpen reason txHash : Live (Sent ρ)) :=
  quiet_get.bind fun _ => quiet_pure _

theorem quiet_awaitReceipt (status : ρ → ReceiptStatus) (last : Option ρ) (polls : List (Await ρ × Pause)) :
    Quiet cleared tradeId (awaitReceipt status last polls) := by
  induction polls generalizing last with
  | nil => exact quiet_pure last
  | cons poll polls ih =>
    unfold awaitReceipt
    refine (quiet_await poll.1).attempt.bind fun r => ?_
    cases r with
    | error e => exact (quiet_sleep poll.2).bind fun _ => ih last
    | ok receipt =>
      dsimp only
      split
      · exact quiet_pure _
      · exact (quiet_sleep poll.2).bind fun _ => ih (some receipt)

theorem quiet_confirm (s : Sender ρ) (id txHash : String) (receipt : Option ρ) (startedAt : Int) :
    Quiet cleared tradeId (confirm s id txHash receipt startedAt) := by
  unfold confirm
  cases receipt with
  | none => exact quiet_leaveOpen _ _
  | some r =>
    dsimp only
    cases s.status r with
    | pending => exact quiet_leaveOpen _ _
    | unknown => exact quiet_leaveOpen _ _
    | failed => exact quiet_stop _ _ _ _
    | confirmed => exact quiet_pure _

theorem quiet_admitAction {A : Type} {registered : Option A} {controls : Controls} {action : ProposedAction} {missing : String}
    {fail : String → Live β} {go : A → Live β} {n : Nat} (hfail : ∀ reason, Quiet cleared tradeId (fail reason))
    (hgo : ∀ a, Script.Keeps (Tells (Gated cleared tradeId) n) (go a)) :
    Script.Keeps (Tells (Gated cleared tradeId) n) (admitAction registered controls action missing fail go) := by
  unfold admitAction
  cases registered with
  | none => exact fun p => (hfail _ p).mono (Nat.zero_le n)
  | some adapter =>
    dsimp only
    cases refusal controls action with
    | none => exact hgo adapter
    | some reason => exact fun p => (hfail _ p).mono (Nat.zero_le n)

end

/-! ## Signing and sending -/

section
variable {cleared : Controls → SigningContext → Prop} {tradeId : String} {s : Sender ρ}

/-- A broadcast of what the row, moved to `signed` in the step before, names. -/
theorem told_broadcast {p : Process} {out : Db × TradeRow} {signed : SignedTransaction}
    (h : TradeStore.markSigned p.db p.clock tradeId signed.hash = .ok out) :
    Gated cleared tradeId (.broadcast (TradeStore.get out.1 tradeId) signed) := by
  obtain ⟨current, -, -, hrow, hdb⟩ := TradeStore.transition_ok.1 h
  refine ⟨out.2, ?_, by rw [hrow], by rw [hrow], by rw [hrow]⟩
  rw [hdb]
  show (p.db.trades.put out.2).get tradeId = some out.2
  rw [Table.get_put, if_pos (by rw [hrow])]

/-- **One broadcast at most**, of a transaction whose hash is on the signed row. -/
theorem send_gated (s : Sender ρ) (wallet : String) (signed : SignedTransaction) (startedAt : Int) :
    Script.Keeps (Tells (Gated cleared tradeId) 1) (send s tradeId wallet signed startedAt) := by
  refine Script.keeps_of_ensures fun p => ?_
  unfold send
  rw [Script.ensures_bind, ensures_write]
  refine ⟨fun out hm => ?_, fun e _ => (Tells.refl p).mono (Nat.zero_le 1)⟩
  have hwrote : Tells (Gated cleared tradeId) 0 p { p with db := out.1, log := p.log ++ [.wrote out.1] } :=
    Tells.told (e := .wrote out.1) trivial rfl
  rw [Script.ensures_bind, Script.ensures_get, Script.ensures_bind, ensures_emit]
  have hsent := hwrote.emit (told_broadcast hm)
  -- what is left tells of no broadcast
  refine Script.Ensures.mono (Script.Keeps.ensures (R := Tells (Gated cleared tradeId) 0) ?_ _)
    (fun _ _ ht => hsent.trans ht) fun _ _ ht => hsent.trans ht
  refine (quiet_await _).attempt.bind fun r => ?_
  cases r with
  | error e => exact quiet_leaveOpen _ _
  | ok u => exact (quiet_write _).bind fun _ => (quiet_awaitReceipt _ _ _).bind fun _ => quiet_confirm _ _ _ _ _

/-- **The key is used on the context that was vetted**, under the switches it was vetted under. -/
theorem vetAndSign_gated {action : ProposedAction}
    (h : ∀ controls context, s.vet controls action context = .ok none → cleared controls context) (wallet : String)
    (context : SigningContext) (startedAt : Int) :
    Script.Keeps (Tells (Gated cleared tradeId) 1) (vetAndSign s tradeId wallet action context startedAt) := by
  refine Script.keeps_of_ensures fun p => ?_
  unfold vetAndSign
  have hstart : Tells (Gated cleared tradeId) 1 p p := (Tells.refl p).mono (Nat.zero_le 1)
  rw [Script.ensures_bind, Script.ensures_get, Script.ensures_bind, Script.ensures_lift]
  refine ⟨fun vetted hv => ?_, fun e _ => hstart⟩
  cases vetted with
  | some reason =>
    exact (quiet_stop tradeId reason none startedAt).ensures p |>.mono (fun _ _ ht => ht.mono (Nat.zero_le 1))
      fun _ _ ht => ht.mono (Nat.zero_le 1)
  | none =>
    dsimp only
    unfold sign
    rw [Script.ensures_bind, Script.ensures_attempt, Script.ensures_bind, Script.ensures_get, Script.ensures_bind,
      ensures_emit, Script.ensures_bind, Script.ensures_lift]
    have hused : Tells (Gated cleared tradeId) 0 p { p with log := p.log ++ [.keyUsed p.controls context] } :=
      Tells.told (e := .keyUsed p.controls context) (h _ _ hv) rfl
    refine ⟨fun signed _ => ?_, fun e _ => ?_⟩
    · rw [Script.ensures_bind, ensures_emit, Script.ensures_pure]
      have hsigned := hused.emit (e := .signed signed) trivial
      exact ((send_gated s wallet signed startedAt).ensures _).mono (fun _ _ ht => hsigned.trans ht) fun _ _ ht =>
        hsigned.trans ht
    · have hstop : Quiet cleared tradeId (stop tradeId ("signing failed: " ++ e.message) none startedAt : Live (Sent ρ)) :=
        quiet_stop _ _ _ _
      exact (hstop.ensures _).mono (fun _ _ ht => (hused.trans ht).mono (Nat.zero_le 1)) fun _ _ ht =>
        (hused.trans ht).mono (Nat.zero_le 1)

/-- **Signing and sending passes the gate**, whatever context the adapter returns. -/
theorem signAndSend_gated {action : ProposedAction}
    (h : ∀ controls context, s.vet controls action context = .ok none → cleared controls context) (tx : UnsignedTransaction) :
    Script.Keeps (Tells (Gated cleared tradeId) 1) (signAndSend s tradeId action tx) := by
  refine Tells.bind (m := 0) (n := 1) quiet_get fun p => Tells.bind (m := 0) (n := 1) (quiet_lift _) fun wallet =>
    Tells.bind (m := 0) (n := 1) (quiet_await _).attempt fun r => ?_
  cases r with
  | error e => exact fun q => (quiet_stop _ _ _ _ q).mono (Nat.zero_le 1)
  | ok context => exact vetAndSign_gated h wallet context p.clock

end
end Live

/-! ## What the message of a Solana transaction invokes -/

namespace Solana

/-- A wallet's secret key: its address, and its signature of a message. -/
structure SolanaKey where
  address : String
  sign : List UInt8 → List UInt8

def signSolanaTransaction (codecs : BaseCodecs) (key : SolanaKey) (transactionBase64 expectedFeePayer : String) :
    Result SignedTransaction := do
  let bytes ← decodeTransaction codecs transactionBase64
  let (count, message) ← splitTransaction bytes
  let summary ← summarizeMessage codecs message
  refuseWhen (summary.numRequiredSignatures ≠ 1 ∨ count ≠ 1) ⟨.conflict, "Transaction expects " ++
    toString summary.numRequiredSignatures ++ " signatures; only the wallet's is available"⟩
  refuseWhen (key.address ≠ expectedFeePayer ∨ summary.feePayer ≠ key.address)
    ⟨.conflict, "Signing key does not match the transaction fee payer"⟩
  return ⟨Base64.encode (1 :: (key.sign message ++ message)), codecs.base58Encode (key.sign message)⟩

/-- **The signer signs the message that was summarized**, and nothing else. -/
theorem signSolanaTransaction_signs {codecs : BaseCodecs} {transactionBase64 : String} {summary : SolanaMessageSummary}
    (h : summarizeSolanaTransaction codecs transactionBase64 = .ok summary) :
    ∃ message, summarizeMessage codecs message = .ok summary ∧ ∀ key feePayer signed,
      signSolanaTransaction codecs key transactionBase64 feePayer = .ok signed →
        signed = ⟨Base64.encode (1 :: (key.sign message ++ message)), codecs.base58Encode (key.sign message)⟩ := by
  obtain ⟨bytes, hbytes, h⟩ := bind_ok.1 h
  obtain ⟨split, hsplit, h⟩ := bind_ok.1 h
  refine ⟨split.2, h, fun key feePayer signed hs => ?_⟩
  unfold signSolanaTransaction at hs
  rw [hbytes] at hs
  obtain ⟨_, hb, hs⟩ := bind_ok.1 hs
  cases hb
  rw [hsplit] at hs
  obtain ⟨_, hb, hs⟩ := bind_ok.1 hs
  cases hb
  obtain ⟨_, -, hs⟩ := bind_ok.1 hs
  obtain ⟨_, -, hs⟩ := bind_ok.1 hs
  obtain ⟨_, -, hs⟩ := bind_ok.1 hs
  exact (pure_ok.1 hs).symm

end Solana

/-! ## The gate of the swap executor -/

namespace LiveExecutor

open Live Solana

variable {R : Type} {x : LiveExecutor R} {action : ProposedAction} {controls : Controls} {context : SigningContext}

/-- A transaction that can cost no more than what the engine approved, to the contract it approved; an approval goes to its
token. -/
structure ApprovedEvm (host : Host) (action : ProposedAction) (c : EvmContext) : Prop where
  fee : ∃ approved gas maxFeePerGas, Engine.feeInNativeUnits action.feeEstimate.detail = .ok approved ∧
    bigInt c.gas = .ok gas ∧ bigInt c.maxFeePerGas = .ok maxFeePerGas ∧ gas * maxFeePerGas ≤ approved
  target : host.toLowerCase c.target = host.toLowerCase action.contract ∨
    (action.kind = .approve ∧ host.toLowerCase c.target = action.tokenIn.address)

/-- A message whose programs the engine approved, the action's contract among them. -/
def ApprovedMessage (codecs : BaseCodecs) (action : ProposedAction) (message : List UInt8) : Prop :=
  ∃ summary, summarizeMessage codecs message = .ok summary ∧
    (∀ id ∈ summary.programIds, id ∈ action.programIds.getD [] ∨ id ∈ SOLANA_SYSTEM_PROGRAMS) ∧
    action.contract ∈ summary.programIds

/-- The key may be used on a context: the runtime is LIVE and neither switch is set, and what the signature is put to was
approved. -/
structure Cleared (x : LiveExecutor R) (action : ProposedAction) (controls : Controls) (context : SigningContext) : Prop where
  mode : StateStore.getMode controls = .LIVE
  running : controls.runtimeState.emergencyStop = false ∧ controls.runtimeState.globalPause = false
  evm : ∀ c, context = .evm c → ApprovedEvm x.host action c
  solana : ∀ payer transactionBase64 height, context = .solana payer transactionBase64 height →
    ∃ message, ApprovedMessage x.codecs action message ∧ ∀ key feePayer signed,
      signSolanaTransaction x.codecs key transactionBase64 feePayer = .ok signed →
        signed = ⟨Base64.encode (1 :: (key.sign message ++ message)), x.codecs.base58Encode (key.sign message)⟩

theorem feeOverrun_none {c : EvmContext} (h : feeOverrun action c = .ok none) :
    ∃ approved gas maxFeePerGas, Engine.feeInNativeUnits action.feeEstimate.detail = .ok approved ∧
      bigInt c.gas = .ok gas ∧ bigInt c.maxFeePerGas = .ok maxFeePerGas ∧ gas * maxFeePerGas ≤ approved := by
  obtain ⟨approved, ha, h⟩ := bind_ok.1 h
  obtain ⟨gas, hg, h⟩ := bind_ok.1 h
  obtain ⟨maxFeePerGas, hm, h⟩ := bind_ok.1 h
  refine ⟨approved, gas, maxFeePerGas, ha, hg, hm, ?_⟩
  by_contra hle
  rw [if_neg hle] at h
  cases pure_ok.1 h

theorem wrongTarget_none {host : Host} {c : EvmContext} (h : wrongTarget host action c = none) :
    host.toLowerCase c.target = host.toLowerCase action.contract ∨
      (action.kind = .approve ∧ host.toLowerCase c.target = action.tokenIn.address) := by
  by_contra hn
  unfold wrongTarget at h
  rw [if_neg hn] at h
  cases h

theorem unapprovedPrograms_none {codecs : BaseCodecs} {transactionBase64 : String}
    (h : unapprovedPrograms codecs action transactionBase64 = none) :
    ∃ summary, summarizeSolanaTransaction codecs transactionBase64 = .ok summary ∧
      (∀ id ∈ summary.programIds, id ∈ action.programIds.getD [] ∨ id ∈ SOLANA_SYSTEM_PROGRAMS) ∧
      action.contract ∈ summary.programIds := by
  unfold unapprovedPrograms at h
  split at h
  · cases h
  · rename_i summary hs
    dsimp only at h
    split at h
    · cases h
    · rename_i hall
      split at h
      · cases h
      · rename_i hcontract
        refine ⟨summary, hs, fun id hid => ?_, by simpa using hcontract⟩
        by_contra hn
        apply hall
        apply List.length_pos_of_mem (a := id)
        rw [List.mem_filter]
        refine ⟨hid, ?_⟩
        rw [← List.mem_append] at hn
        simpa using hn

/-- **What the checks let through is cleared.** -/
theorem vet_cleared (h : x.vet controls action context = .ok none) : x.Cleared action controls context := by
  unfold vet at h
  cases hr : refusal controls action with
  | some reason =>
    rw [hr] at h
    cases pure_ok.1 h
  | none =>
    rw [hr] at h
    unfold refusal at hr
    split at hr
    · cases hr
    split at hr
    · cases hr
    rename_i hmode
    split at hr
    · cases hr
    rename_i hstop
    split at hr
    · cases hr
    rename_i hpause
    refine ⟨not_not.1 hmode, ⟨by simpa using hstop, by simpa using hpause⟩, ?_, ?_⟩
    · rintro c rfl
      obtain ⟨overrun, ho, h⟩ := bind_ok.1 h
      cases overrun with
      | some reason => cases pure_ok.1 h
      | none => exact ⟨feeOverrun_none ho, wrongTarget_none (pure_ok.1 h)⟩
    · rintro payer transactionBase64 height rfl
      obtain ⟨summary, hsummary, happroved, hcontract⟩ := unapprovedPrograms_none (pure_ok.1 h)
      obtain ⟨message, hm, hsigns⟩ := signSolanaTransaction_signs hsummary
      exact ⟨message, ⟨summary, hm, happroved, hcontract⟩, hsigns⟩

section
variable {cleared : Controls → SigningContext → Prop} {tradeId : String}

theorem quiet_fail (id : String) (action : ProposedAction) (reason : String) (filledAt : Int) :
    Quiet cleared tradeId (fail id action reason filledAt) := (quiet_markFailed id reason).bind fun _ => quiet_pure _

theorem quiet_writeLedger (trade : TradeRow) (receipt : ExecutionReceipt) (prices : QuotePrices)
    (decimals : Option PairDecimals) : Quiet cleared tradeId (writeLedger trade receipt prices decimals) := by
  unfold writeLedger
  split
  · exact (quiet_write _).bind fun _ => quiet_pure ()
  · exact quiet_pure ()

theorem quiet_settle (id : String) (action : ProposedAction) (prices : QuotePrices) (decimals : Option PairDecimals)
    (sent : Sent ExecutionReceipt) : Quiet cleared tradeId (settle id action prices decimals sent) := by
  unfold settle
  cases sent with
  | stopped reason txHash time => exact quiet_pure _
  | confirmed txHash receipt =>
    refine quiet_get.bind fun p => ?_
    cases TradeStore.get p.db id with
    | none => exact quiet_throw _
    | some trade =>
      have hbook : Quiet cleared tradeId (bookFill trade receipt prices decimals) :=
        (quiet_writeLedger _ _ _ _).bind fun _ => (quiet_write _).bind fun _ => quiet_pure _
      exact hbook.bind fun _ => quiet_get.bind fun _ => quiet_pure _

end

/-- **The signing gate.**  Whatever the adapters answer and the operator does at the awaits of an execution, the key is used
on cleared contexts alone, under the switches as they stand at that moment; what is broadcast has its hash on the signed row of
the trade, and there is one broadcast at most. -/
theorem signing_gated (x : LiveExecutor R) (tradeId : String) (action : ProposedAction) (quote : ExecutionQuote R)
    (prices : QuotePrices) (tx : UnsignedTransaction) (nativeUsd : String) (p : Process) :
    Tells (Gated (x.Cleared action) tradeId) 1 p ((x.execute tradeId action quote prices).exec p).2 ∧
    Tells (Gated (x.Cleared action) tradeId) 1 p ((x.executeApprove tradeId action tx nativeUsd).exec p).2 := by
  have hsend : ∀ (adapter : ExecutionAdapter R) (tokenOut : Option String) (tx : UnsignedTransaction),
      Script.Keeps (Tells (Gated (x.Cleared action) tradeId) 1) (signAndSend (x.sender adapter tokenOut) tradeId action tx) :=
    fun adapter tokenOut tx => signAndSend_gated (fun _ _ hv => vet_cleared hv) tx
  constructor
  · refine Tells.bind (m := 0) (n := 1) quiet_get (fun p => ?_) p
    refine quiet_admitAction (fun reason => quiet_fail _ _ _ _) fun adapter => ?_
    refine Tells.bind (m := 0) (n := 1) (quiet_write _) fun _ => Tells.bind (m := 0) (n := 1) (quiet_dispatch _ _) fun _ => ?_
    refine Tells.bind (m := 0) (n := 1) (quiet_await _).attempt fun built => ?_
    cases built with
    | error e => exact fun q => (quiet_fail _ _ _ _ q).mono (Nat.zero_le 1)
    | ok tx =>
      refine Tells.bind (m := 0) (n := 1) (quiet_await _) fun simulation => ?_
      split
      · exact Tells.bind (m := 1) (n := 0) (hsend adapter _ tx) fun sent => quiet_settle _ _ _ _ sent
      · exact fun q => (quiet_fail _ _ _ _ q).mono (Nat.zero_le 1)
  · refine Tells.bind (m := 0) (n := 1) quiet_get (fun p => ?_) p
    refine quiet_admitAction (fun reason => quiet_fail _ _ _ _) fun adapter => ?_
    exact Tells.bind (m := 0) (n := 1) (quiet_dispatch _ _) fun _ =>
      Tells.bind (m := 1) (n := 0) (hsend adapter none tx) fun sent => quiet_settle _ _ _ _ sent

end LiveExecutor
end Atra
