import Atra.Ensures
import Atra.LiveLp
import Atra.SolanaMessage
import Atra.StateStore
/-!
# LiveProcess — signing and sending one transaction

The process that signs: its database, the operator's switches and a log of what left it.  Everything up to the next `await` is
one step; at an await an adapter answers whatever it likes and the operator may have moved the switches.  Both executors sign
and send the same way (`signAndSend`): the context is fetched, vetted and signed in one step, the hash is on disk before the
transaction is broadcast, and the receipt is polled until a deadline.
-/
namespace Atra

structure EvmContext where
  chainId : Nat
  sender : String
  target : String
  data : String
  value : String
  gas : String
  nonce : Nat
  maxFeePerGas : String
  maxPriorityFeePerGas : String
deriving DecidableEq, Repr

/-- What an adapter hands to the signer. -/
inductive SigningContext where
  | evm (context : EvmContext)
  | solana (feePayer transactionBase64 : String) (lastValidBlockHeight : Option Nat)
deriving DecidableEq, Repr

structure SignedTransaction where
  raw : String
  hash : String
deriving DecidableEq, Repr

/-- What an adapter built; its payload is the adapter's own. -/
structure UnsignedTransaction where
  chain : ChainId
  payload : String
  summary : String
deriving DecidableEq, Repr

structure SimulationResult where
  ok : Bool
  error : Option String
deriving DecidableEq, Repr

structure WalletService where
  depositAddress : ChainId → Result String
  /-- What the vault signs of a context, in one synchronous callback. -/
  useSigningKey : ChainId → SigningContext → Result SignedTransaction

/-! ## The process -/

/-- What the process did that others can see. -/
inductive LiveEvent where
  | keyUsed (controls : Controls) (context : SigningContext)
  | signed (signed : SignedTransaction)
  | broadcast (row : Option TradeRow) (signed : SignedTransaction)
  | wrote (db : Db)

structure Process where
  db : Db
  controls : Controls
  clock : Int
  log : List LiveEvent

/-- What the operator did while the process waited, and the time it went on. -/
structure Pause where
  meanwhile : List StateStore.Event
  clock : Int

/-- An answer waited for. -/
structure Await (α : Type) extends Pause where
  answer : Result α

abbrev Live := Script Process AppError

namespace Live

variable {α ρ : Type}

def sleep (a : Pause) : Live Unit :=
  modify fun p => { p with controls := History.after StateStore.step p.controls a.meanwhile, clock := a.clock }

def await (a : Await α) : Live α := do
  sleep a.toPause
  liftM a.answer

def emit (e : LiveEvent) : Live Unit := modify fun p => { p with log := p.log ++ [e] }

/-- One statement or transaction of the database, committed. -/
def write (f : Db → Int → Result (Db × α)) : Live α := do
  let p ← get
  let out ← liftM (f p.db p.clock)
  set ({ p with db := out.1, log := p.log ++ [.wrote out.1] } : Process)
  return out.2

/-- Fail a trade; a row that cannot fail stays as it is. -/
def markFailed (tradeId reason : String) : Live Unit := do
  match ← Script.attempt (write fun db now => TradeStore.markFailed db now tradeId reason) with
  | .ok _ => pure ()
  | .error e => if e.code = .conflict then pure () else throw e

/-- Start a trade and its cooldowns. -/
def dispatch (tradeId : String) (action : ProposedAction) : Live Unit := do
  let _ ← write fun db now => TradeStore.markDispatched db now tradeId
  write fun db now => pure (RiskGate.markDispatched db now action, ())

/-! ## The checks before the key is used -/

/-- White space as JavaScript trims it. -/
def isJsSpace (c : Char) : Bool :=
  let n := c.toNat
  (9 ≤ n && n ≤ 13) || (0x2000 ≤ n && n ≤ 0x200a) ||
    [0x20, 0xa0, 0x1680, 0x2028, 0x2029, 0x202f, 0x205f, 0x3000, 0xfeff].contains n

def jsTrim (cs : List Char) : List Char := ((cs.dropWhile isJsSpace).reverse.dropWhile isJsSpace).reverse

def digitIn (radix : Nat) (c : Char) : Option Nat :=
  let value := if c.isDigit then some (c.toNat - 48)
    else if 'a' ≤ c ∧ c ≤ 'f' then some (c.toNat - 87)
    else if 'A' ≤ c ∧ c ≤ 'F' then some (c.toNat - 55) else none
  value.filter fun n => n < radix

def digitsIn (radix : Nat) (cs : List Char) : Option Nat :=
  if cs.isEmpty then none else cs.foldlM (fun n c => (digitIn radix c).map (radix * n + ·)) 0

/-- `BigInt(text)`. -/
def bigInt (s : String) : Result Int :=
  let parsed : Option Int := match jsTrim s.toList with
    | [] => some 0
    | '0' :: 'x' :: cs | '0' :: 'X' :: cs => (digitsIn 16 cs).map Int.ofNat
    | '0' :: 'o' :: cs | '0' :: 'O' :: cs => (digitsIn 8 cs).map Int.ofNat
    | '0' :: 'b' :: cs | '0' :: 'B' :: cs => (digitsIn 2 cs).map Int.ofNat
    | '-' :: cs => (digitsIn 10 cs).map fun n => -(n : Int)
    | '+' :: cs => (digitsIn 10 cs).map Int.ofNat
    | cs => (digitsIn 10 cs).map Int.ofNat
  match parsed with
  | some n => pure n
  | none => throw ⟨.internal, "Cannot convert " ++ s ++ " to a BigInt"⟩

/-- Why the process may not sign now. -/
def refusal (controls : Controls) (action : ProposedAction) : Option String :=
  if action.mode ≠ .LIVE then some ("action mode " ++ action.mode.name ++ " is not LIVE")
  else if StateStore.getMode controls ≠ .LIVE then some "runtime is not in LIVE mode"
  else if controls.runtimeState.emergencyStop then some "emergency stop is active"
  else if controls.runtimeState.globalPause then some "runtime is paused"
  else none

/-- What the signed transaction can cost at most, where that is more than the engine approved. -/
def feeOverrun (action : ProposedAction) (context : EvmContext) : Result (Option String) := do
  let approved ← Engine.feeInNativeUnits action.feeEstimate.detail
  let signing := (← bigInt context.gas) * (← bigInt context.maxFeePerGas)
  if signing ≤ approved then return none
  else return some ("fee at signing " ++ toString signing ++ " exceeds the approved " ++ toString approved ++
    " (gas moved since the quote); re-quote and decide again")

/-- The transaction goes elsewhere than to the contract the engine approved, or for an approval to its token. -/
def wrongTarget (host : Host) (action : ProposedAction) (context : EvmContext) : Option String :=
  let target := host.toLowerCase context.target
  if target = host.toLowerCase action.contract ∨ (action.kind = .approve ∧ target = action.tokenIn.address) then none
  else some ("built transaction targets " ++ context.target ++ ", engine approved " ++ action.contract)

/-- Go on with the adapter of the action's chain, unless there is none or the process may not sign now. -/
def admitAction {A β : Type} (registered : Option A) (controls : Controls) (action : ProposedAction) (missing : String)
    (fail : String → Live β) (go : A → Live β) : Live β :=
  match registered with
  | none => fail (missing ++ action.chain.name)
  | some adapter => match refusal controls action with
    | some reason => fail reason
    | none => go adapter

theorem admitAction_some {A β : Type} {registered : Option A} {controls : Controls} {action : ProposedAction} {missing : String}
    {fail : String → Live β} {go : A → Live β} {adapter : A} (h : registered = some adapter)
    (hr : refusal controls action = none) : admitAction registered controls action missing fail go = go adapter := by
  unfold admitAction
  rw [h, hr]

theorem admitAction_refused {A β : Type} {registered : Option A} {controls : Controls} {action : ProposedAction}
    {missing : String} {fail : String → Live β} {go : A → Live β}
    (h : ¬ (registered.isSome ∧ refusal controls action = none)) :
    ∃ reason, admitAction registered controls action missing fail go = fail reason := by
  unfold admitAction
  cases registered with
  | none => exact ⟨_, rfl⟩
  | some adapter =>
    cases hr : refusal controls action with
    | none => exact absurd ⟨rfl, hr⟩ h
    | some reason => exact ⟨reason, rfl⟩

/-! ## Signing and sending -/

/-- An executor's way to the chain: its adapter's calls, its wallets and the checks it makes before the key is used. -/
structure Sender (ρ : Type) where
  wallets : WalletService
  prepareSigning : UnsignedTransaction → String → Await SigningContext
  vet : Controls → ProposedAction → SigningContext → Result (Option String)
  broadcast : SignedTransaction → Await Unit
  /-- The answers to the polls of a hash until the deadline, each with the sleep after it. -/
  polls : String → String → List (Await ρ × Pause)
  status : ρ → ReceiptStatus
  error : ρ → Option String

/-- How far a transaction got: confirmed, or stopped for a reason, naming its hash once it has one. -/
inductive Sent (ρ : Type) where
  | confirmed (txHash : String) (receipt : ρ)
  | stopped (reason : String) (txHash : Option String) (time : Int)

/-- A receipt that ends the polling. -/
def final (s : ReceiptStatus) : Bool := s == .confirmed || s == .failed

/-- Poll until a final receipt; without one, the last answer. -/
def awaitReceipt (status : ρ → ReceiptStatus) : Option ρ → List (Await ρ × Pause) → Live (Option ρ)
  | last, [] => pure last
  | last, (poll, pause) :: polls => do
    match ← Script.attempt (await poll) with
    | .ok receipt =>
      if final (status receipt) then return some receipt
      else do
        sleep pause
        awaitReceipt status (some receipt) polls
    | .error _ => do
      sleep pause
      awaitReceipt status last polls

/-- `#fail`, naming a hash where there is one. -/
def stop (tradeId reason : String) (txHash : Option String) (time : Int) : Live (Sent ρ) := do
  markFailed tradeId reason
  return .stopped reason txHash time

/-- The row stays open until it is reconciled. -/
def leaveOpen (reason txHash : String) : Live (Sent ρ) := do
  let p ← get
  return .stopped reason (some txHash) p.clock

def sign (wallets : WalletService) (chain : ChainId) (context : SigningContext) : Live SignedTransaction := do
  let p ← get
  emit (.keyUsed p.controls context)
  let signed ← liftM (wallets.useSigningKey chain context)
  emit (.signed signed)
  return signed

/-- What a receipt says of a transaction that was broadcast. -/
def confirm (s : Sender ρ) (tradeId txHash : String) (receipt : Option ρ) (startedAt : Int) : Live (Sent ρ) :=
  match receipt with
  | none => leaveOpen "confirmation pending; the trade row stays open until reconciled" txHash
  | some r => match s.status r with
    | .pending | .unknown => leaveOpen "confirmation pending; the trade row stays open until reconciled" txHash
    | .failed => stop tradeId ((s.error r).getD "transaction failed on chain") (some txHash) startedAt
    | .confirmed => pure (.confirmed txHash r)

/-- Record the hash, broadcast, and wait for the receipt. -/
def send (s : Sender ρ) (tradeId wallet : String) (signed : SignedTransaction) (startedAt : Int) : Live (Sent ρ) := do
  let _ ← write fun db now => TradeStore.markSigned db now tradeId signed.hash
  let p ← get
  emit (.broadcast (TradeStore.get p.db tradeId) signed)
  match ← Script.attempt (await (s.broadcast signed)) with
  | .error e => leaveOpen ("broadcast failed; transaction state unknown until reconciled: " ++ e.message) signed.hash
  | .ok _ => do
    let _ ← write fun db now => TradeStore.markBroadcast db now tradeId
    let receipt ← awaitReceipt s.status none (s.polls signed.hash wallet)
    confirm s tradeId signed.hash receipt startedAt

/-- Vet a context and sign it, with nothing awaited in between. -/
def vetAndSign (s : Sender ρ) (tradeId wallet : String) (action : ProposedAction) (context : SigningContext)
    (startedAt : Int) : Live (Sent ρ) := do
  let p ← get
  match ← liftM (s.vet p.controls action context) with
  | some reason => stop tradeId reason none startedAt
  | none => match ← Script.attempt (sign s.wallets action.chain context) with
    | .error e => stop tradeId ("signing failed: " ++ e.message) none startedAt
    | .ok signed => send s tradeId wallet signed startedAt

def signAndSend (s : Sender ρ) (tradeId : String) (action : ProposedAction) (tx : UnsignedTransaction) : Live (Sent ρ) := do
  let p ← get
  let wallet ← liftM (s.wallets.depositAddress action.chain)
  match ← Script.attempt (await (s.prepareSigning tx wallet)) with
  | .error e => stop tradeId ("prepare failed: " ++ e.message) none p.clock
  | .ok context => vetAndSign s tradeId wallet action context p.clock

/-! ## After a restart -/

structure ReconcileReport where
  checked : Nat
  filled : Nat
  failed : Nat
  stillPending : Nat
deriving DecidableEq, Repr

namespace ReconcileReport

def oneFilled (r : ReconcileReport) : ReconcileReport := { r with checked := r.checked + 1, filled := r.filled + 1 }

def oneFailed (r : ReconcileReport) : ReconcileReport := { r with checked := r.checked + 1, failed := r.failed + 1 }

def onePending (r : ReconcileReport) : ReconcileReport :=
  { r with checked := r.checked + 1, stillPending := r.stillPending + 1 }

end ReconcileReport

/-- The liquidity executor's rows: LP actions and the approvals before an add. -/
def isLpRow (trade : TradeRow) : Bool := isLpKind trade.kind || (trade.kind == .approve && trade.route.lp)

/-- What an executor reconciles: its rows, how it asks the chain for a hash, and how it books what is confirmed. -/
structure Reconciler (ρ : Type) where
  mine : TradeRow → Bool
  /-- Nothing where the chain has no adapter; the question throws where it has no wallet. -/
  ask : TradeRow → String → Option (Result (Await ρ))
  status : ρ → ReceiptStatus
  error : ρ → Option String
  book : TradeRow → ρ → Live Unit

def hashOf (trade : TradeRow) : Option String := trade.txHash.filter (· ≠ "")

/-- The chain has it, so it was broadcast, whatever the row says. -/
def assumeBroadcast (trade : TradeRow) : Live Unit :=
  if trade.status = .signed then do
    let _ ← write fun db now => TradeStore.markBroadcast db now trade.id
  else pure ()

/-- Settle a row by what the chain says of its hash, if it says so finally. -/
def settleRow (c : Reconciler ρ) (trade : TradeRow) (answer : Except AppError ρ) (report : ReconcileReport) :
    Live ReconcileReport :=
  match answer with
  | .error _ => pure report.onePending
  | .ok receipt => match c.status receipt with
    | .pending | .unknown => pure report.onePending
    | .failed => do
      assumeBroadcast trade
      let _ ← write fun db now =>
        TradeStore.markFailed db now trade.id ((c.error receipt).getD "transaction failed on chain")
      return report.oneFailed
    | .confirmed => do
      assumeBroadcast trade
      c.book trade receipt
      return report.oneFilled

def failRow (trade : TradeRow) (reason : String) (report : ReconcileReport) : Live ReconcileReport := do
  let _ ← write fun db now => TradeStore.markFailed db now trade.id reason
  return report.oneFailed

def reconcileRow (c : Reconciler ρ) (report : ReconcileReport) (trade : TradeRow) : Live ReconcileReport :=
  if !c.mine trade then pure report
  else if trade.status = .dispatched then failRow trade "runtime restarted before the transaction was signed" report
  else match hashOf trade with
    | none => failRow trade ("row in " ++ trade.status.name ++ " without a transaction hash") report
    | some hash => match c.ask trade hash with
      | none => pure report.onePending
      | some question => do
        let poll ← liftM question
        let answer ← Script.attempt (await poll)
        settleRow c trade answer report

/-- Settle, oldest first, the rows of an executor that a previous process left in flight. -/
def reconcile (c : Reconciler ρ) : Live ReconcileReport := do
  let p ← get
  (TradeStore.listInFlight p.db).foldlM (reconcileRow c) ⟨0, 0, 0, 0⟩

/-! ## What its steps establish -/

section
variable {p q : Process} {tradeId reason : String} {row : TradeRow} {err : AppError → Process → Prop}

def paused (p : Process) (a : Pause) : Process :=
  { p with controls := History.after StateStore.step p.controls a.meanwhile, clock := a.clock }

@[simp] theorem ensures_sleep {ok : Unit → Process → Prop} (a : Pause) :
    Script.Ensures (sleep a) p ok err ↔ ok () (paused p a) := Iff.rfl

theorem ensures_await {ok : α → Process → Prop} (a : Await α) : Script.Ensures (await a) p ok err ↔
    (∀ x, a.answer = .ok x → ok x (paused p a.toPause)) ∧ ∀ e, a.answer = .error e → err e (paused p a.toPause) := by
  unfold await
  rw [Script.ensures_bind, ensures_sleep, Script.ensures_lift]

@[simp] theorem ensures_emit {ok : Unit → Process → Prop} (e : LiveEvent) :
    Script.Ensures (emit e) p ok err ↔ ok () { p with log := p.log ++ [e] } := Iff.rfl

theorem ensures_write {ok : α → Process → Prop} {f : Db → Int → Result (Db × α)} : Script.Ensures (write f) p ok err ↔
    (∀ out, f p.db p.clock = .ok out → ok out.2 { p with db := out.1, log := p.log ++ [.wrote out.1] }) ∧
    ∀ e, f p.db p.clock = .error e → err e p := by
  unfold write
  simp only [Script.ensures_bind, Script.ensures_get, Script.ensures_lift, Script.ensures_set, Script.ensures_pure]

/-! ### Where a trade is -/

def signedBy (p : Process) : List SignedTransaction :=
  p.log.filterMap fun e => match e with
    | .signed signed => some signed
    | _ => none

/-- A row as it was proposed, wherever it has moved. -/
def SameTrade (row row' : TradeRow) : Prop :=
  ∃ status txHash error updatedAt quotePrices, row' = { row with status, txHash, error, updatedAt, quotePrices }

theorem SameTrade.refl (row : TradeRow) : SameTrade row row := ⟨_, _, _, _, _, rfl⟩

theorem SameTrade.trans {a b c : TradeRow} (h : SameTrade a b) (h' : SameTrade b c) : SameTrade a c := by
  obtain ⟨_, _, _, _, _, rfl⟩ := h
  obtain ⟨_, _, _, _, _, rfl⟩ := h'
  exact ⟨_, _, _, _, _, rfl⟩

/-- Since a process stood at `p` it signed `txs`, and the trade moved to a status and a hash; nothing but the trade and
the cooldowns was written. -/
structure Moved (p : Process) (tradeId : String) (row : TradeRow) (txs : List SignedTransaction) (status : TradeStatus)
    (txHash : Option String) (q : Process) : Prop where
  row : ∃ row', TradeStore.get q.db tradeId = some row' ∧ row'.status = status ∧ row'.txHash = txHash ∧ SameTrade row row'
  signed : signedBy q = signedBy p ++ txs
  frame : TradeFrame p.db q.db

theorem Moved.refl (h : TradeStore.get p.db tradeId = some row) : Moved p tradeId row [] row.status row.txHash p :=
  ⟨⟨row, h, rfl, rfl, .refl row⟩, (List.append_nil _).symm, .refl _⟩

variable {txs : List SignedTransaction} {status next : TradeStatus} {txHash txHash' : Option String}

theorem signedBy_emit (e : LiveEvent) : signedBy { q with log := q.log ++ [e] } = signedBy q ++
    match e with
    | .signed signed => [signed]
    | _ => [] := by
  unfold signedBy
  rw [List.filterMap_append]
  cases e with
  | signed signed => rfl
  | keyUsed controls context => rfl
  | broadcast row signed => rfl
  | wrote db => rfl

theorem Moved.paused (h : Moved p tradeId row txs status txHash q) (a : Pause) :
    Moved p tradeId row txs status txHash (paused q a) := ⟨h.row, h.signed, h.frame⟩

theorem Moved.keyUsed (h : Moved p tradeId row txs status txHash q) (controls : Controls) (context : SigningContext) :
    Moved p tradeId row txs status txHash { q with log := q.log ++ [.keyUsed controls context] } :=
  ⟨h.row, by rw [signedBy_emit, h.signed]; simp, h.frame⟩

theorem Moved.broadcast (h : Moved p tradeId row txs status txHash q) (sent : Option TradeRow) (signed : SignedTransaction) :
    Moved p tradeId row txs status txHash { q with log := q.log ++ [.broadcast sent signed] } :=
  ⟨h.row, by rw [signedBy_emit, h.signed]; simp, h.frame⟩

theorem Moved.sign (h : Moved p tradeId row txs status txHash q) (signed : SignedTransaction) :
    Moved p tradeId row (txs ++ [signed]) status txHash { q with log := q.log ++ [.signed signed] } :=
  ⟨h.row, by rw [signedBy_emit, h.signed, List.append_assoc], h.frame⟩

/-- A statement that leaves the trade where it is. -/
theorem Moved.wrote {db : Db} (h : Moved p tradeId row txs status txHash q) (ht : db.trades = q.db.trades)
    (hf : TradeFrame q.db db) : Moved p tradeId row txs status txHash { q with db, log := q.log ++ [.wrote db] } := by
  obtain ⟨row', hg, hrest⟩ := h.row
  refine ⟨⟨row', ?_, hrest⟩, ?_, h.frame.trans hf⟩
  · rw [← hg]
    exact congrArg (fun t : Table TradeRow.id => t.get tradeId) ht
  · exact (signedBy_emit (q := { q with db }) (.wrote db)).trans (by rw [List.append_nil]; exact h.signed)

/-- **A trade moves to any status its own allows**, and the move does not throw. -/
theorem Moved.transition {fields : TradeRow → TradeRow} (h : Moved p tradeId row txs status txHash q)
    (hm : next ∈ TradeStore.TRANSITIONS status)
    (hf : ∀ r, r.txHash = txHash → (fields r).txHash = txHash' ∧ SameTrade r (fields r)) :
    Script.Ensures (write fun db now => TradeStore.transition db now tradeId next fields) q
      (fun _ => Moved p tradeId row txs next txHash') fun _ _ => False := by
  obtain ⟨row', hg, rfl, hhash, hsame⟩ := h.row
  rw [ensures_write]
  constructor
  · intro out hout
    obtain ⟨current, hg', -, hrow, hdb⟩ := TradeStore.transition_ok.1 hout
    obtain rfl := Option.some.inj (hg'.symm.trans hg)
    obtain ⟨hh, hs⟩ := hf current hhash
    have hframe : TradeFrame q.db out.1 := transition_frame hout
    refine ⟨⟨out.2, ?_, by rw [hrow], by rw [hrow]; exact hh, ?_⟩, ?_, h.frame.trans hframe⟩
    · rw [hdb]
      show (q.db.trades.put out.2).get tradeId = some out.2
      rw [Table.get_put, if_pos (by rw [hrow])]
    · refine hsame.trans (hs.trans ?_)
      have hid : current.id = tradeId := Table.key_of_get hg
      obtain ⟨_, _, _, _, _, he⟩ := hs
      subst hid
      rw [hrow, he]
      exact ⟨_, _, _, _, _, rfl⟩
    · exact (signedBy_emit (q := { q with db := out.1 }) (.wrote out.1)).trans
        (by rw [List.append_nil]; exact h.signed)
  · intro e he
    obtain ⟨out, hout⟩ : Returns (TradeStore.transition q.db q.clock tradeId next fields) :=
      TradeStore.transition_of_mem hg hm
    rw [hout] at he
    cases he

theorem Moved.markDispatched (h : Moved p tradeId row txs .allowed txHash q) :
    Script.Ensures (write fun db now => TradeStore.markDispatched db now tradeId) q
      (fun _ => Moved p tradeId row txs .dispatched txHash) fun _ _ => False :=
  h.transition (by decide) fun r hr => ⟨hr, .refl r⟩

theorem Moved.markSigned (h : Moved p tradeId row txs .dispatched txHash q) (hash : String) :
    Script.Ensures (write fun db now => TradeStore.markSigned db now tradeId hash) q
      (fun _ => Moved p tradeId row txs .signed (some hash)) fun _ _ => False :=
  h.transition (by decide) fun _ _ => ⟨rfl, _, _, _, _, _, rfl⟩

theorem Moved.markBroadcast (h : Moved p tradeId row txs .signed txHash q) :
    Script.Ensures (write fun db now => TradeStore.markBroadcast db now tradeId) q
      (fun _ => Moved p tradeId row txs .broadcast txHash) fun _ _ => False :=
  h.transition (by decide) fun r hr => ⟨hr, .refl r⟩

/-- **A dispatched, signed or broadcast trade fails**, keeping its hash. -/
theorem Moved.markFailed (h : Moved p tradeId row txs status txHash q) (hm : .failed ∈ TradeStore.TRANSITIONS status)
    (reason : String) : Script.Ensures (Live.markFailed tradeId reason) q
      (fun _ => Moved p tradeId row txs .failed txHash) fun _ _ => False := by
  have hfail : Script.Ensures (write fun db now => TradeStore.markFailed db now tradeId reason) q
      (fun _ => Moved p tradeId row txs .failed txHash) fun _ _ => False :=
    h.transition hm fun r hr => ⟨hr, _, _, _, _, _, rfl⟩
  unfold Live.markFailed
  rw [Script.ensures_bind, Script.ensures_attempt]
  refine hfail.mono ?_ ?_
  · intro _ t ht
    exact ht
  · intro _ _ hfalse
    exact hfalse.elim

theorem Moved.stop (h : Moved p tradeId row txs status txHash q) (hm : .failed ∈ TradeStore.TRANSITIONS status)
    (reason : String) (named : Option String) (time : Int) :
    Script.Ensures (stop tradeId reason named time : Live (Sent ρ)) q
      (fun sent t => sent = .stopped reason named time ∧ Moved p tradeId row txs .failed txHash t) fun _ _ => False := by
  unfold Live.stop
  rw [Script.ensures_bind]
  exact (h.markFailed hm reason).mono (fun _ t ht => ⟨rfl, ht⟩) fun _ _ hfalse => hfalse

/-! ### Where sending leaves a trade -/

/-- The last answer to the polls, and the first final one among them. -/
def lastAnswer (status : ρ → ReceiptStatus) : Option ρ → List (Await ρ × Pause) → Option ρ
  | last, [] => last
  | last, (poll, _) :: polls => match poll.answer with
    | .ok receipt => if final (status receipt) then some receipt else lastAnswer status (some receipt) polls
    | .error _ => lastAnswer status last polls

theorem awaitReceipt_ensures (statusOf : ρ → ReceiptStatus) (last : Option ρ) (polls : List (Await ρ × Pause))
    (h : Moved p tradeId row txs status txHash q) : Script.Ensures (awaitReceipt statusOf last polls) q
      (fun answer t => answer = lastAnswer statusOf last polls ∧ Moved p tradeId row txs status txHash t)
      fun _ _ => False := by
  induction polls generalizing last q with
  | nil => exact ⟨rfl, h⟩
  | cons poll polls ih =>
    unfold awaitReceipt lastAnswer
    rw [Script.ensures_bind, Script.ensures_attempt, ensures_await]
    constructor
    · intro receipt hr
      rw [hr]
      dsimp only
      by_cases hf : final (statusOf receipt) = true
      · rw [if_pos hf, if_pos hf]
        exact ⟨rfl, h.paused _⟩
      · rw [if_neg hf, if_neg hf, Script.ensures_bind, ensures_sleep]
        exact ih _ ((h.paused _).paused _)
    · intro e he
      rw [he]
      dsimp only
      rw [Script.ensures_bind, ensures_sleep]
      exact ih _ ((h.paused _).paused _)

/-- The receipt that confirms a signed transaction: it was broadcast, and the polls end on a confirmation. -/
def confirmation (s : Sender ρ) (wallet : String) (signed : SignedTransaction) : Option ρ :=
  match (s.broadcast signed).answer with
  | .error _ => none
  | .ok _ => (lastAnswer s.status none (s.polls signed.hash wallet)).filter fun r => s.status r == .confirmed

/-- How far a signed transaction got, and where that leaves its trade. -/
inductive Ended (s : Sender ρ) (wallet : String) (p : Process) (tradeId : String) (row : TradeRow)
    (signed : SignedTransaction) : Sent ρ → Process → Prop
  | confirmed {receipt : ρ} {q : Process} (hc : confirmation s wallet signed = some receipt)
      (h : Moved p tradeId row [signed] .broadcast (some signed.hash) q) :
      Ended s wallet p tradeId row signed (.confirmed signed.hash receipt) q
  | stopped {reason : String} {time : Int} {status : TradeStatus} {q : Process} (hc : confirmation s wallet signed = none)
      (hstatus : status = .signed ∨ status = .broadcast ∨ status = .failed)
      (h : Moved p tradeId row [signed] status (some signed.hash) q) :
      Ended s wallet p tradeId row signed (.stopped reason (some signed.hash) time) q

theorem confirm_ensures {s : Sender ρ} {wallet : String} {signed : SignedTransaction} {startedAt : Int}
    (hsent : ∃ u, (s.broadcast signed).answer = .ok u)
    (h : Moved p tradeId row [signed] .broadcast (some signed.hash) q) :
    Script.Ensures (confirm s tradeId signed.hash (lastAnswer s.status none (s.polls signed.hash wallet)) startedAt) q
      (Ended s wallet p tradeId row signed) fun _ _ => False := by
  obtain ⟨u, hu⟩ := hsent
  have hc : confirmation s wallet signed = (lastAnswer s.status none (s.polls signed.hash wallet)).filter
      fun r => s.status r == .confirmed := by
    unfold confirmation
    rw [hu]
  unfold confirm
  cases hr : lastAnswer s.status none (s.polls signed.hash wallet) with
  | none =>
    rw [hr] at hc
    exact .stopped hc (.inr (.inl rfl)) h
  | some r =>
    rw [hr, Option.filter_some] at hc
    dsimp only
    cases hs : s.status r with
    | pending =>
      rw [hs] at hc
      exact .stopped hc (.inr (.inl rfl)) h
    | unknown =>
      rw [hs] at hc
      exact .stopped hc (.inr (.inl rfl)) h
    | failed =>
      rw [hs] at hc
      refine (h.stop (by decide) _ _ _).mono ?_ fun _ _ hfalse => hfalse
      rintro _ t ⟨rfl, ht⟩
      exact .stopped hc (.inr (.inr rfl)) ht
    | confirmed =>
      rw [hs] at hc
      exact .confirmed hc h

/-- **A signed transaction is recorded before it is broadcast**, and its row keeps its hash wherever the run stops. -/
theorem send_ensures {s : Sender ρ} {wallet : String} {signed : SignedTransaction} {startedAt : Int}
    (h : Moved p tradeId row [signed] .dispatched txHash q) : Script.Ensures (send s tradeId wallet signed startedAt) q
      (Ended s wallet p tradeId row signed) fun _ _ => False := by
  unfold send
  rw [Script.ensures_bind]
  refine (h.markSigned signed.hash).mono ?_ fun _ _ hfalse => hfalse
  intro _ t ht
  rw [Script.ensures_bind, Script.ensures_get, Script.ensures_bind, ensures_emit, Script.ensures_bind,
    Script.ensures_attempt, ensures_await]
  have hb := (ht.broadcast (TradeStore.get t.db tradeId) signed).paused (s.broadcast signed).toPause
  constructor
  · intro u hu
    dsimp only
    rw [Script.ensures_bind]
    refine hb.markBroadcast.mono ?_ fun _ _ hfalse => hfalse
    intro _ t' ht'
    rw [Script.ensures_bind]
    refine (awaitReceipt_ensures s.status none (s.polls signed.hash wallet) ht').mono ?_ fun _ _ hfalse => hfalse
    rintro _ t'' ⟨rfl, ht''⟩
    exact confirm_ensures ⟨u, hu⟩ ht''
  · intro e he
    refine .stopped ?_ (.inl rfl) hb
    unfold confirmation
    rw [he]

/-- What signing and sending returns, with the trade where it left it: stopped unsigned and failed, or signed. -/
def Sends (s : Sender ρ) (chain : ChainId) (p : Process) (tradeId : String) (row : TradeRow) (sent : Sent ρ) (q : Process) :
    Prop :=
  (∃ reason time, sent = .stopped reason none time ∧ Moved p tradeId row [] .failed row.txHash q) ∨
    ∃ wallet signed, s.wallets.depositAddress chain = .ok wallet ∧ Ended s wallet p tradeId row signed sent q

/-- **Signing and sending** leaves a dispatched trade failed and unsigned, or signed with its hash on its row; it throws only
before the key is used, out of the dispatched trade. -/
theorem signAndSend_ensures {s : Sender ρ} {action : ProposedAction} {tx : UnsignedTransaction}
    (h : Moved p tradeId row [] .dispatched row.txHash q) : Script.Ensures (signAndSend s tradeId action tx) q
      (Sends s action.chain p tradeId row) fun _ => Moved p tradeId row [] .dispatched row.txHash := by
  have hstop : ∀ {reason : String} {time : Int} {t : Process}, Moved p tradeId row [] .dispatched row.txHash t →
      Script.Ensures (stop tradeId reason none time) t (Sends s action.chain p tradeId row)
        fun _ => Moved p tradeId row [] .dispatched row.txHash := by
    intro reason time t ht
    refine (ht.stop (by decide) reason none time).mono ?_ fun _ _ hfalse => hfalse.elim
    rintro _ t' ⟨rfl, ht'⟩
    exact .inl ⟨reason, time, rfl, ht'⟩
  unfold signAndSend
  rw [Script.ensures_bind, Script.ensures_get, Script.ensures_bind, Script.ensures_lift]
  refine ⟨fun wallet hw => ?_, fun e _ => h⟩
  rw [Script.ensures_bind, Script.ensures_attempt, ensures_await]
  refine ⟨fun context _ => ?_, fun e _ => hstop (h.paused _)⟩
  have hp := h.paused (s.prepareSigning tx wallet).toPause
  dsimp only
  unfold vetAndSign
  rw [Script.ensures_bind, Script.ensures_get, Script.ensures_bind, Script.ensures_lift]
  refine ⟨fun vetted _ => ?_, fun e _ => hp⟩
  cases vetted with
  | some reason => exact hstop hp
  | none =>
    dsimp only
    unfold sign
    rw [Script.ensures_bind, Script.ensures_attempt, Script.ensures_bind, Script.ensures_get, Script.ensures_bind,
      ensures_emit, Script.ensures_bind, Script.ensures_lift]
    have hk := hp.keyUsed (paused q (s.prepareSigning tx wallet).toPause).controls context
    refine ⟨fun signed _ => ?_, fun e _ => hstop hk⟩
    rw [Script.ensures_bind, ensures_emit, Script.ensures_pure]
    exact (send_ensures (hk.sign signed)).mono (fun sent t ht => .inr ⟨wallet, signed, hw, ht⟩) fun _ _ hfalse => hfalse.elim

end

end Live
end Atra
