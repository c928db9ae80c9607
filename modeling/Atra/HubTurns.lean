import Mathlib.Data.Rat.Floor
import Atra.FixedWindow
import Atra.GatewayHub
/-!
# HubTurns — the hub's handlers between their awaits, and its daily counters

A handler runs to its first await and leaves the rest to later turns, with the attachment it has by then; other handlers, quota
calls and the purge run in between.  What was charged, and what quota calls were answered, is collected along a run.
-/
namespace Atra.Hub

open Gateway (LinkRow getLinkByInstall)

/-! ## Quotas -/

/-- `Number.isFinite(limit) && limit >= 0 ? Math.floor(limit) : 0`: a limit that is not finite is none. -/
def capOf (limit : Option ℚ) : Nat :=
  match limit with
  | some l => if 0 ≤ l then ⌊l⌋.toNat else 0
  | none => 0

/-- Days since 1 January 1970, for the day's date. -/
def utcDay (now : Int) : Int := now / 86400000

structure QuotaDecision where
  allowed : Bool
  kind : QuotaKind
  limit : Nat
  used : Nat
  rejected : Nat
  day : Int
  windowStart : Int
  resetAt : Int
deriving DecidableEq, Repr

/-- `INSERT … ON CONFLICT DO UPDATE`. -/
def upsert (quota : Table QuotaRow.key) (row : QuotaRow) (update : QuotaRow → QuotaRow) : Table QuotaRow.key :=
  match quota.get row.key with
  | none => quota.put row
  | some old => quota.put (update old)

/-- `consumeQuota` of the counters, with the limit and the time its caller passes. -/
def consumeQuotaAt (quota : Table QuotaRow.key) (installId : String) (kind : QuotaKind) (limit : Option ℚ) (now : Int) :
    Table QuotaRow.key × QuotaDecision :=
  let day := utcDay now
  let cap := capOf limit
  let row := quota.get (day, installId, kind)
  let used := (row.map QuotaRow.used).getD 0
  let rejected := (row.map QuotaRow.rejected).getD 0
  let windowStart := day * 86400000
  let resetAt := windowStart + 86400000
  if cap ≤ used then
    (upsert quota ⟨day, installId, kind, 0, 1⟩ fun r => { r with rejected := r.rejected + 1 },
      ⟨false, kind, cap, used, rejected + 1, day, windowStart, resetAt⟩)
  else
    (upsert quota ⟨day, installId, kind, 1, 0⟩ fun r => { r with used := r.used + 1 },
      ⟨true, kind, cap, used + 1, rejected, day, windowStart, resetAt⟩)

def purgeCutoff (now retentionDays : Int) : Int := utcDay (now - retentionDays * 86400000)

/-- Drop the counters older than the retention window. -/
def purgeUsage (quota : Table QuotaRow.key) (now retentionDays : Int) : Table QuotaRow.key :=
  quota.keep fun r => !decide (r.day < purgeCutoff now retentionDays)

/-! ## Handlers -/

/-- What a handler of a hello or a notification waits for; offers and revocations wait in the hub for their statements. -/
inductive Await where
  /-- `getLinkByInstall` of a hello. -/
  | welcome
  /-- `getLinkByInstall` of a notification. -/
  | chat (text : String)
  | sendMessage
deriving DecidableEq, Repr

/-- A suspended handler, with the attachment it was called with. -/
structure Handler where
  attachment : HubSocket
  awaits : Await
deriving DecidableEq, Repr

inductive Sent where
  | welcome (socket : Nat) (link : Option LinkRow)
  /-- The gateway could not process a frame. -/
  | internal (socket : Nat)
  | message (chatId : Int) (text : String)
deriving DecidableEq, Repr

/-- The attachment and the frame `handleFrame` is called with, if it is. -/
def toHandle (s : HubState) (ws : HubSocket) (message : Message) : Option (HubSocket × RuntimeFrame) :=
  match charge s ws .frame with
  | (_, none) => none
  | (s, some ws) =>
    match message with
    | .binary | .invalid => none
    | .frame f =>
      if !isHello f && !ws.hello then none
      else
        match ownBudget f with
        | none => some (ws, f)
        | some kind => (charge s ws kind).2.map fun ws => (ws, f)

def suspended (s : HubState) (ws : HubSocket) (message : Message) : List Handler :=
  match toHandle s ws message with
  | some (attachment, .hello _ _) => [⟨attachment, .welcome⟩]
  | some (attachment, .notify _ text) => [⟨attachment, .chat text⟩]
  | _ => []

structure Running where
  hub : HubState
  handlers : List Handler
  sent : List Sent

/-- A handler goes on: what it waits for was answered, or failed. -/
def resume (s : Running) (i : Nat) (ok : Bool) : Running :=
  match s.handlers[i]? with
  | none => s
  | some handler =>
    let link := getLinkByInstall s.hub.db handler.attachment.installId
    let done := s.handlers.eraseIdx i
    if !ok then { s with handlers := done, sent := s.sent ++ [.internal handler.attachment.id] }
    else match handler.awaits with
      | .welcome => { s with handlers := done, sent := s.sent ++ [.welcome handler.attachment.id link] }
      | .chat text =>
        match link with
        | none => { s with handlers := done }
        | some link =>
          { s with
            handlers := s.handlers.set i { handler with awaits := .sendMessage }
            sent := s.sent ++ [.message link.telegram.chatId text] }
      | .sendMessage => { s with handlers := done }

/-! ## Turns -/

inductive Turn where
  | hub (e : Event)
  | resume (i : Nat) (ok : Bool)
  | consumeQuota (installId : String) (kind : QuotaKind) (limit : Option ℚ) (now : Int)
  | purgeUsage (now retentionDays : Int)

section
variable (storedPairHash : String → String)

def turn (s : Running) : Turn → Running
  | .hub e =>
    { s with
      hub := step storedPairHash s.hub e
      handlers := s.handlers ++ match e with
        | .message id message => ((s.hub.sockets.get id).map fun ws => suspended s.hub ws message).getD []
        | _ => [] }
  | .resume i ok => resume s i ok
  | .consumeQuota installId kind limit now =>
    { s with hub := { s.hub with quota := (consumeQuotaAt s.hub.quota installId kind limit now).1 } }
  | .purgeUsage now retentionDays => { s with hub := { s.hub with quota := purgeUsage s.hub.quota now retentionDays } }

def begun (clock : Int) : Running := ⟨start clock, [], []⟩

def turned (clock : Int) (ts : List Turn) : Running := History.after (turn storedPairHash) (begun clock) ts

end

/-! ## What was charged -/

structure BudgetCharge where
  socket : Nat
  kind : BudgetKind
  now : Int
  allowed : Bool
deriving DecidableEq, Repr

/-- The charges of a message: of its frame, and of its kind where that has a budget of its own. -/
def chargesOf (s : HubState) (ws : HubSocket) (message : Message) : List BudgetCharge :=
  let spent := spendBudget ws.budget .frame s.clock
  ⟨ws.id, .frame, s.clock, spent.2⟩ ::
    if !spent.2 then []
    else match message with
      | .binary | .invalid => []
      | .frame f =>
        if !isHello f && !ws.hello then []
        else ((ownBudget f).map fun kind => ⟨ws.id, kind, s.clock, (spendBudget (some spent.1) kind s.clock).2⟩).toList

def chargedBy (s : Running) : Turn → List BudgetCharge
  | .hub (.message id message) => ((s.hub.sockets.get id).map fun ws => chargesOf s.hub ws message).getD []
  | _ => []

/-- The charges of a socket, those of a kind counted. -/
def onSocket (id : Nat) (kind : BudgetKind) (cs : List BudgetCharge) : List FixedWindow.Charge :=
  (cs.filter fun c => c.socket = id).map fun c => ⟨c.now, c.kind = kind, c.allowed⟩

def BudgetKind.windowMs : BudgetKind → Int
  | .frame | .pairOffer => MINUTE_MS
  | .notify => HOUR_MS

def BudgetKind.cap : BudgetKind → Nat
  | .frame => FRAME_LIMIT_PER_MINUTE
  | .pairOffer => PAIR_OFFER_LIMIT_PER_MINUTE
  | .notify => NOTIFY_LIMIT_PER_HOUR

def FrameBudget.window (b : FrameBudget) : BudgetKind → FixedWindow
  | .frame => ⟨b.minuteStart, b.frames⟩
  | .pairOffer => ⟨b.minuteStart, b.offers⟩
  | .notify => ⟨b.hourStart, b.notifies⟩

/-! ## What quota calls were answered -/

structure Consumed where
  key : Int × String × QuotaKind
  cap : Nat
  allowed : Bool
deriving DecidableEq, Repr

def consumption (quota : Table QuotaRow.key) (installId : String) (kind : QuotaKind) (limit : Option ℚ) (now : Int) :
    Consumed :=
  let decision := (consumeQuotaAt quota installId kind limit now).2
  ⟨(decision.day, installId, kind), decision.limit, decision.allowed⟩

def consumedBy (s : Running) : Turn → List Consumed
  | .consumeQuota installId kind limit now => [consumption s.hub.quota installId kind limit now]
  | .hub (.quota installId kind limit) => [consumption s.hub.quota installId kind (some limit) s.hub.clock]
  | _ => []

section
variable (storedPairHash : String → String) (clock : Int) (ts : List Turn)

def charges : List BudgetCharge := History.collect (turn storedPairHash) chargedBy (begun clock) ts

/-- The quota calls of an installation, a kind and a day. -/
def consumptions (key : Int × String × QuotaKind) : List Consumed :=
  (History.collect (turn storedPairHash) consumedBy (begun clock) ts).filter fun c => c.key = key

/-- The stored counters, used and rejected: a row that is not there has none. -/
def counters (quota : Table QuotaRow.key) (key : Int × String × QuotaKind) : Nat × Nat :=
  ((quota.get key).map fun r => (r.used, r.rejected)).getD (0, 0)

/-- Budgets and quotas are exact over a run. -/
structure Accounted : Prop where
  /-- A frame is handled when its charges were allowed. -/
  handled : ∀ pre id message post, ts = pre ++ .hub (.message id message) :: post → ∀ ws attachment f,
    (turned storedPairHash clock pre).hub.sockets.get id = some ws →
    toHandle (turned storedPairHash clock pre).hub ws message = some (attachment, f) →
    chargesOf (turned storedPairHash clock pre).hub ws message = (BudgetKind.frame :: (ownBudget f).toList).map fun kind =>
      ⟨id, kind, (turned storedPairHash clock pre).hub.clock, true⟩
  /-- In each window of a socket as many charges of a kind are allowed as its cap, or all if there are fewer. -/
  windows : ∀ id kind, ∀ start ∈ FixedWindow.starts kind.windowMs
    ((onSocket id kind (charges storedPairHash clock ts)).map FixedWindow.Charge.now),
    FixedWindow.allowedIn kind.windowMs start (onSocket id kind (charges storedPairHash clock ts)) =
      min (FixedWindow.chargedIn kind.windowMs start (onSocket id kind (charges storedPairHash clock ts))) kind.cap
  /-- The stored budget counts every charge of its windows. -/
  stored : ∀ id ws, (turned storedPairHash clock ts).hub.sockets.get id = some ws → ∀ kind,
    ws.budget.map (fun b => b.window kind) =
      ((FixedWindow.starts kind.windowMs ((onSocket id kind (charges storedPairHash clock ts)).map
        FixedWindow.Charge.now)).getLast?).map fun start =>
          ⟨start, FixedWindow.chargedIn kind.windowMs start (onSocket id kind (charges storedPairHash clock ts))⟩
  /-- A socket that completed hello has. -/
  greeted : ∀ pre id installationId runtimeVersion post,
    ts = pre ++ .hub (.message id (.frame (.hello installationId runtimeVersion))) :: post → ∀ ws,
    (turned storedPairHash clock pre).hub.sockets.get id = some ws →
    (spendBudget ws.budget .frame (turned storedPairHash clock pre).hub.clock).2 = true →
    ∃ ws', (turned storedPairHash clock ts).hub.sockets.get id = some ws' ∧ ws'.hello = true
  /-- Until its day is purged a counter is the number of calls that were answered so, and no cap was passed. -/
  metered : ∀ key : Int × String × QuotaKind,
    (∀ now retentionDays, .purgeUsage now retentionDays ∈ ts → purgeCutoff now retentionDays ≤ key.1) →
    counters (turned storedPairHash clock ts).hub.quota key =
      ((consumptions storedPairHash clock ts key).countP (·.allowed),
        (consumptions storedPairHash clock ts key).countP fun c => !c.allowed) ∧
    ∀ bound, (∀ c ∈ consumptions storedPairHash clock ts key, c.cap ≤ bound) →
      (counters (turned storedPairHash clock ts).hub.quota key).1 ≤ bound

end

end Atra.Hub
