import Atra.FailedTrades
import Atra.SigningGate
/-!
# LiveEffects — what an execution tells, and what it books

One relation says of a run of the process what it told others and which fills it appended, with a bound on both; relations of
consecutive runs add up (`did_bind`).  A live execution tells what the signing gate lets through and books one fill at most, of
its own trade; an approval books none.
-/
namespace Atra
namespace Live

/-! ## The relation -/

/-- Since a process stood at `p` it told what satisfies `P`, at most `n` broadcasts among it, and booked at most `m` fills, all
satisfying `F`. -/
structure Did (P : LiveEvent → Prop) (F : FillRow → Prop) (n m : Nat) (p q : Process) : Prop where
  told : Tells P n p q
  booked : ∃ fills, q.db.fills = p.db.fills ++ fills ∧ (∀ f ∈ fills, F f) ∧ fills.length ≤ m

/-- A run that did so however it ends. -/
def Does {α : Type} (P : LiveEvent → Prop) (F : FillRow → Prop) (n m : Nat) (p : Process) (x : Live α) : Prop :=
  Script.Ensures x p (fun _ q => Did P F n m p q) fun _ q => Did P F n m p q

section
variable {α β : Type} {P : LiveEvent → Prop} {F : FillRow → Prop} {n m n' m' : Nat} {p q r : Process}

theorem Tells.imp {P' : LiveEvent → Prop} (h : Tells P n p q) (hP : ∀ e, P e → P' e) : Tells P' n p q := by
  obtain ⟨told, hq, he, hn⟩ := h
  exact ⟨told, hq, fun e hmem => hP e (he e hmem), hn⟩

theorem Did.still (ht : Tells P n p q) (hf : q.db.fills = p.db.fills) : Did P F n m p q :=
  ⟨ht, [], by rw [hf, List.append_nil], fun _ h => absurd h List.not_mem_nil, Nat.zero_le m⟩

theorem Did.refl (p : Process) : Did P F 0 0 p p := .still (.refl p) rfl

theorem Did.trans (h : Did P F n m p q) (h' : Did P F n' m' q r) : Did P F (n + n') (m + m') p r := by
  obtain ⟨fills, hq, hF, hm⟩ := h.booked
  obtain ⟨fills', hr, hF', hm'⟩ := h'.booked
  refine ⟨h.told.trans h'.told, fills ++ fills', by rw [hr, hq, List.append_assoc], fun f hf => ?_, ?_⟩
  · rcases List.mem_append.1 hf with hf | hf
    · exact hF f hf
    · exact hF' f hf
  · rw [List.length_append]
    omega

theorem Did.mono (h : Did P F n m p q) (hn : n ≤ n') (hm : m ≤ m') : Did P F n' m' p q := by
  obtain ⟨fills, hq, hF, hle⟩ := h.booked
  exact ⟨h.told.mono hn, fills, hq, hF, hle.trans hm⟩

theorem Does.mono {x : Live α} (h : Does P F n m p x) (hn : n ≤ n') (hm : m ≤ m') : Does P F n' m' p x :=
  Script.Ensures.mono h (fun _ _ h => h.mono hn hm) fun _ _ h => h.mono hn hm

/-- **What a sequence does** is what its parts do, one after the other. -/
theorem did_bind {x : Live α} {f : α → Live β} {Q : α → Process → Prop}
    (hx : Script.Ensures x p (fun a q => Q a q ∧ Did P F n m p q) fun _ q => Did P F n m p q)
    (hf : ∀ a q, Q a q → Does P F n' m' q (f a)) : Does P F (n + n') (m + m') p (x >>= f) := by
  unfold Does
  rw [Script.ensures_bind]
  refine hx.mono (fun a q h => ?_) fun _ q h => h.mono (Nat.le_add_right n n') (Nat.le_add_right m m')
  exact Script.Ensures.mono (hf a q h.1) (fun _ _ h' => h.2.trans h') fun _ _ h' => h.2.trans h'

/-- What a run tells and what it books, put together. -/
theorem Does.of {x : Live α} (ht : Script.Keeps (Tells P n) x)
    (hb : Script.Ensures x p
      (fun _ q => ∃ fills, q.db.fills = p.db.fills ++ fills ∧ (∀ f ∈ fills, F f) ∧ fills.length ≤ m)
      fun _ q => ∃ fills, q.db.fills = p.db.fills ++ fills ∧ (∀ f ∈ fills, F f) ∧ fills.length ≤ m) :
    Does P F n m p x :=
  ((ht.ensures p).and hb).mono (fun _ _ h => ⟨h.1, h.2⟩) fun _ _ h => ⟨h.1, h.2⟩

theorem did_sleep (a : Pause) : Did P F 0 0 p (paused p a) :=
  .still ⟨[], (List.append_nil p.log).symm, fun _ he => absurd he List.not_mem_nil, Nat.le_refl 0⟩ rfl

theorem did_wrote {db : Db} (hP : P (.wrote db)) (hf : db.fills = p.db.fills) :
    Did P F 0 0 p { p with db, log := p.log ++ [.wrote db] } := .still (Tells.told hP rfl) hf

end

/-! ## Live executions -/

theorem fills_frame {db db' : Db} (h : TradeFrame db db') : db'.fills = db.fills := by
  obtain ⟨_, _, _, rfl⟩ := h
  rfl

/-- A fill of a trade as it was proposed. -/
structure FillOf (row : TradeRow) (f : FillRow) : Prop where
  trade : f.tradeId = row.id
  chain : f.chain = row.chain
  tokens : f.tokenIn = row.tokenIn ∧ f.tokenOut = row.tokenOut
  amountIn : f.amountIn = row.amountIn

theorem recordFill_row {db : Db} {now : Int} {input : RecordFillInput} {out : Db × FillRow}
    (h : LedgerService.recordFill db now input = .ok out) : out.1.fills = db.fills ++ [out.2] ∧
      out.2.tradeId = input.tradeId ∧ out.2.mode = input.mode ∧ out.2.chain = input.chain ∧
      out.2.tokenIn = input.tokenIn.address ∧ out.2.tokenOut = input.tokenOut.address ∧ out.2.amountIn = input.amountIn := by
  unfold LedgerService.recordFill at h
  simp only [bind_ok] at h
  obtain ⟨amountIn, -, amountOut, -, priceIn, -, priceOut, -, feeUsd, -, h⟩ := h
  split at h
  · cases h
  · simp only [bind_ok] at h
    obtain ⟨paidUsd, -, _, -, h⟩ := h
    unfold LedgerService.writeFill at h
    simp only [bind_ok] at h
    obtain ⟨paid, hp, h⟩ := h
    split at h
    · cases h
    · obtain rfl := pure_ok.1 h
      obtain ⟨_, rfl⟩ := LedgerService.payPaper_eq hp
      obtain ⟨held, hr⟩ : ∃ positions, (LedgerService.reducePosition db input.mode input.chain input.tokenIn.address
          amountIn.toNat paidUsd input.filledAt).1 = { db with positions } := LedgerService.reducePosition_eq
      rw [hr]
      obtain ⟨_, ha⟩ : ∃ positions, LedgerService.addPosition { db with positions := held } input.mode input.chain
          input.tokenOut.address input.tokenOut.decimals amountOut.toNat paidUsd input.filledAt =
            { db with positions } := LedgerService.addPosition_eq
      rw [ha]
      exact ⟨rfl, rfl, rfl, rfl, rfl, rfl, rfl⟩

variable {R : Type} {p q : Process} {tradeId : String} {row : TradeRow} {txs : List SignedTransaction} {status : TradeStatus}
  {txHash : Option String}

theorem tokenRef_address (chain : ChainId) (address : String) (decimals : Option Nat) :
    (LiveExecutor.tokenRef chain address decimals).address = address := by
  unfold LiveExecutor.tokenRef
  cases decimals with
  | some n => rfl
  | none =>
    dsimp only
    split
    · rfl
    · rfl

/-- A live swap books one fill at most, of its own trade. -/
def BooksOne (row : TradeRow) (p q : Process) : Prop :=
  ∃ fills, q.db.fills = p.db.fills ++ fills ∧ (∀ f ∈ fills, FillOf row f ∧ f.mode = .LIVE) ∧ fills.length ≤ 1

theorem BooksOne.none (h : TradeFrame p.db q.db) : BooksOne row p q :=
  ⟨[], by rw [fills_frame h, List.append_nil], fun _ h => absurd h List.not_mem_nil, Nat.zero_le 1⟩

/-- A run that establishes the same whether it returns or throws. -/
abbrev Always {α : Type} (K : Process → Prop) (q : Process) (y : Live α) : Prop :=
  Script.Ensures y q (fun _ t => K t) fun _ t => K t

theorem Sends.frame {ρ : Type} {s : Sender ρ} {chain : ChainId} {sent : Sent ρ} (h : Sends s chain p tradeId row sent q) :
    TradeFrame p.db q.db := by
  rcases h with ⟨_, _, -, hm⟩ | ⟨_, _, -, hend⟩
  · exact hm.frame
  · cases hend with
    | confirmed _ hm => exact hm.frame
    | stopped _ _ hm => exact hm.frame

theorem fail_frame (action : ProposedAction) (reason : String) (filledAt : Int) :
    Always (fun t => TradeFrame q.db t.db) q (LiveExecutor.fail tradeId action reason filledAt) := by
  unfold LiveExecutor.fail Live.markFailed Always
  rw [Script.ensures_bind, Script.ensures_bind, Script.ensures_attempt, ensures_write]
  constructor
  · intro out hout
    exact transition_frame hout
  · intro e _
    dsimp only
    split
    · exact .refl _
    · exact .refl _

theorem markFilled_frame {db : Db} {t : Process} {fill : TradeStore.Filled} (h : TradeFrame db t.db) :
    Always (fun u => TradeFrame db u.db) t (write fun db now => TradeStore.markFilled db now tradeId fill) := by
  unfold Always
  rw [ensures_write]
  exact ⟨fun out hout => h.trans (transition_frame hout), fun _ _ => h⟩

section
variable {trade : TradeRow} {receipt : ExecutionReceipt} {prices : QuotePrices} {decimals : Option LiveExecutor.PairDecimals}

/-- **Booking a confirmed trade** appends its fill, where there are prices to book it with. -/
theorem bookFill_books (hsame : SameTrade row trade) (hf : TradeFrame p.db q.db) :
    Always (BooksOne row p) q (LiveExecutor.bookFill trade receipt prices decimals) := by
  have hclose : ∀ {t : Process}, BooksOne row p t → Always (BooksOne row p) t (write fun db now =>
      TradeStore.markFilled db now trade.id
        (LiveExecutor.closing trade receipt (LiveExecutor.feeUsdOf trade.chain receipt prices.nativeUsd))) := by
    rintro t ⟨fills, htf, hrest⟩
    exact (markFilled_frame (.refl t.db)).mono (fun _ u hu => ⟨fills, (fills_frame hu).trans htf, hrest⟩)
      fun _ u hu => ⟨fills, (fills_frame hu).trans htf, hrest⟩
  unfold LiveExecutor.bookFill LiveExecutor.writeLedger Always
  rw [Script.ensures_bind]
  by_cases hb : LiveExecutor.booked trade prices = true
  · rw [if_pos hb, Script.ensures_bind, ensures_write]
    refine ⟨fun out hout => ?_, fun _ _ => .none hf⟩
    obtain ⟨hfills, hid, hmode, hchain, hin, hout', hamount⟩ := recordFill_row hout
    rw [Script.ensures_pure, Script.ensures_bind]
    refine (hclose ⟨[out.2], hfills.trans (by rw [fills_frame hf]), fun f h => ?_, Nat.le_refl 1⟩).mono (fun _ _ h => h)
      fun _ _ h => h
    obtain ⟨_, _, _, _, _, rfl⟩ := hsame
    rw [List.mem_singleton.1 h]
    exact ⟨⟨hid, hchain, ⟨hin.trans (tokenRef_address ..), hout'.trans (tokenRef_address ..)⟩, hamount⟩, hmode⟩
  · rw [if_neg hb, Script.ensures_pure, Script.ensures_bind]
    exact (hclose (.none hf)).mono (fun _ _ h => h) fun _ _ h => h

/-- **Settling** comes down to booking what was confirmed. -/
theorem settle_always {K : Process → Prop} {action : ProposedAction} {x : LiveExecutor R} {adapter : ExecutionAdapter R}
    {tokenOut : Option String} {chain : ChainId} {sent : Sent ExecutionReceipt}
    (h : Sends (x.sender adapter tokenOut) chain p tradeId row sent q) (hstopped : K q)
    (hbook : ∀ trade receipt, SameTrade row trade → Always K q (LiveExecutor.bookFill trade receipt prices decimals)) :
    Always K q (LiveExecutor.settle tradeId action prices decimals sent) := by
  cases sent with
  | stopped reason txHash time => exact hstopped
  | confirmed txHash receipt =>
    obtain ⟨trade, hg, hsame⟩ : ∃ trade, TradeStore.get q.db tradeId = some trade ∧ SameTrade row trade := by
      rcases h with ⟨_, _, hsent, -⟩ | ⟨_, _, -, hend⟩
      · cases hsent
      · cases hend with
        | confirmed _ hmoved =>
          obtain ⟨trade, hg, -, -, hsame⟩ := hmoved.row
          exact ⟨trade, hg, hsame⟩
    unfold LiveExecutor.settle Always
    dsimp only
    rw [Script.ensures_bind, Script.ensures_get, hg]
    dsimp only
    rw [Script.ensures_bind]
    exact (hbook trade receipt hsame).mono (fun _ _ ht => ht) fun _ _ ht => ht

end

variable {x : LiveExecutor R} {action : ProposedAction}

/-- An execution is refused, or goes on with its adapter. -/
theorem admit_always {A β : Type} {K : Process → Prop} {registered : Option A} {controls : Controls} {go : A → Live β}
    {fail : String → Live β} {missing : String} (hfail : ∀ reason, Always K p (fail reason))
    (hgo : ∀ adapter, Always K p (go adapter)) : Always K p (admitAction registered controls action missing fail go) := by
  unfold admitAction
  cases registered with
  | none => exact hfail _
  | some adapter =>
    dsimp only
    cases refusal controls action with
    | some reason => exact hfail reason
    | none => exact hgo adapter

/-- **A live swap books one fill at most**, of its own trade. -/
theorem execute_books (x : LiveExecutor R) (action : ProposedAction) (hg : TradeStore.get p.db tradeId = some row)
    (hs : row.status = .allowed) (quote : ExecutionQuote R) (prices : QuotePrices) :
    Always (BooksOne row p) p (x.execute tradeId action quote prices) := by
  have hp : Moved p tradeId row [] .allowed row.txHash p := hs ▸ Moved.refl hg
  have hfail : ∀ {t : Process} (reason : String) (time : Int), TradeFrame p.db t.db →
      Always (BooksOne row p) t (LiveExecutor.fail tradeId action reason time) :=
    fun reason time ht => (fail_frame action reason time).mono (fun _ _ h => .none (ht.trans h)) fun _ _ h =>
      .none (ht.trans h)
  unfold LiveExecutor.execute Always
  rw [Script.ensures_bind, Script.ensures_get]
  refine admit_always (fun reason => hfail _ _ (.refl _)) fun adapter => ?_
  unfold Always
  rw [Script.ensures_bind]
  refine (Execution.quoted_ensures hp prices).mono (fun _ t ht => ?_) fun _ _ hfalse => hfalse.elim
  rw [Script.ensures_bind]
  refine (Execution.dispatch_ensures ht action).mono (fun _ t ht => ?_) fun _ _ hfalse => hfalse.elim
  unfold LiveExecutor.buildAndSend
  rw [Script.ensures_bind, Script.ensures_attempt, ensures_await]
  refine ⟨fun tx _ => ?_, fun e _ => hfail _ _ (ht.paused (adapter.build quote).toPause).frame⟩
  have hbuilt := ht.paused (adapter.build quote).toPause
  dsimp only
  rw [Script.ensures_bind, ensures_await]
  have hsimulated := hbuilt.paused (adapter.simulate quote tx).toPause
  refine ⟨fun simulation _ => ?_, fun e _ => .none hsimulated.frame⟩
  split
  · rw [Script.ensures_bind]
    refine (signAndSend_ensures hsimulated).mono (fun sent t ht => ?_) fun _ t ht => .none ht.frame
    exact settle_always ht (.none ht.frame) fun trade receipt hsame => bookFill_books hsame ht.frame
  · exact hfail _ _ hsimulated.frame

theorem sender_tells {adapter : ExecutionAdapter R} {tokenOut : Option String} (tx : UnsignedTransaction) :
    Script.Keeps (Tells (Gated (x.Cleared action) tradeId) 1) (signAndSend (x.sender adapter tokenOut) tradeId action tx) :=
  signAndSend_gated (fun _ _ hv => LiveExecutor.vet_cleared hv) tx

theorem sendAndSettle_tells {adapter : ExecutionAdapter R} {tokenOut : Option String} (tx : UnsignedTransaction)
    (prices : QuotePrices) (decimals : Option LiveExecutor.PairDecimals) :
    Script.Keeps (Tells (Gated (x.Cleared action) tradeId) 1) (signAndSend (x.sender adapter tokenOut) tradeId action tx >>=
      LiveExecutor.settle tradeId action prices decimals) :=
  Tells.bind (m := 1) (n := 0) (sender_tells tx) fun sent => LiveExecutor.quiet_settle _ _ _ _ sent

theorem execute_tells (x : LiveExecutor R) (tradeId : String) (action : ProposedAction) (quote : ExecutionQuote R)
    (prices : QuotePrices) :
    Script.Keeps (Tells (Gated (x.Cleared action) tradeId) 1) (x.execute tradeId action quote prices) := by
  have hfail : ∀ reason time, Quiet (x.Cleared action) tradeId (LiveExecutor.fail tradeId action reason time) :=
    LiveExecutor.quiet_fail tradeId action
  refine Tells.bind (m := 0) (n := 1) quiet_get fun p => quiet_admitAction (fun reason => hfail _ _) fun adapter => ?_
  refine Tells.bind (m := 0) (n := 1) (quiet_write _) fun _ => Tells.bind (m := 0) (n := 1) (quiet_dispatch _ _) fun _ => ?_
  refine Tells.bind (m := 0) (n := 1) (quiet_await _).attempt fun built => ?_
  cases built with
  | error e => exact fun q => (hfail _ _ q).mono (Nat.zero_le 1)
  | ok tx =>
    refine Tells.bind (m := 0) (n := 1) (quiet_await _) fun simulation => ?_
    split
    · exact sendAndSettle_tells tx prices _
    · exact fun q => (hfail _ _ q).mono (Nat.zero_le 1)

end Live
end Atra
