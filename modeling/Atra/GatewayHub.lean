import Atra.GatewayLinks
/-!
# GatewayHub — one object for every runtime's socket

All installations share the hub: its map of commands that wait for a reply, by request id, and the tables behind it.  A frame
is charged to its socket's budget, its table statement is carried out later, and a reply resolves whatever command waits under
its request id.  Frames of one installation leave another's link, live codes, quota, sockets and answers as they are, except
for a reply under a request id of the other's.
-/
namespace Atra.Hub

open Gateway (D1 PairCode LinkRow storePairOffer unlinkInstall withoutUnused storePairOffer_cases get_withoutUnused)

def FRAME_LIMIT_PER_MINUTE : Nat := 60

def NOTIFY_LIMIT_PER_HOUR : Nat := 30

def PAIR_OFFER_LIMIT_PER_MINUTE : Nat := 5

def MINUTE_MS : Int := 60000

def HOUR_MS : Int := 60 * MINUTE_MS

structure FrameBudget where
  /-- Start of the current one-minute window (all frames, pair.offer). -/
  minuteStart : Int
  frames : Nat
  offers : Nat
  /-- Start of the current one-hour window (notify). -/
  hourStart : Int
  notifies : Nat
deriving DecidableEq, Repr

inductive BudgetKind where
  | frame | notify | pairOffer
deriving DecidableEq, Repr

/-- A socket and its attachment; the token, not a frame, says which installation it is. -/
structure HubSocket where
  id : Nat
  installId : String
  connectedAt : Int
  hello : Bool
  budget : Option FrameBudget
  isOpen : Bool
deriving DecidableEq, Repr

inductive QuotaKind where
  | rpc | market | inference | ws
deriving DecidableEq, Repr

/-- A row of `quota_usage`. -/
structure QuotaRow where
  day : Int
  installId : String
  kind : QuotaKind
  used : Nat
  rejected : Nat
deriving DecidableEq, Repr

def QuotaRow.key (r : QuotaRow) : Int × String × QuotaKind := (r.day, r.installId, r.kind)

/-- The frames the gateway's schema accepts. -/
inductive RuntimeFrame where
  | hello (installationId runtimeVersion : String)
  | pairOffer (codeHash : String) (expiresAt : Int)
  | pairRevoke
  | reply (requestId text : String)
  | notify (kind text : String)
deriving DecidableEq, Repr

inductive Message where
  | binary
  | invalid
  | frame (f : RuntimeFrame)
deriving DecidableEq, Repr

/-- A forwarded command, with every call of the resolver of its promise: a text, or nothing at a timeout. -/
structure Dispatch where
  installId : String
  requestId : String
  results : List (Option String)
deriving DecidableEq, Repr

/-- The table statement a frame waits for. -/
inductive Statement where
  | offer (stored : String) (expiresAt now : Int)
  | revoke
deriving DecidableEq, Repr

structure Waiting where
  installId : String
  statement : Statement
deriving DecidableEq, Repr

structure HubState where
  db : D1
  quota : Table QuotaRow.key
  sockets : Table HubSocket.id
  /-- Request id to the command that waits under it. -/
  pending : List (String × Nat)
  dispatches : List Dispatch
  waiting : List Waiting
  clock : Int

def start (clock : Int) : HubState := ⟨.empty, .empty, .empty, [], [], [], clock⟩

/-! ## Budgets -/

/-- Charge one unit: the budget to store back, and whether the unit was within the cap. -/
def spendBudget (budget : Option FrameBudget) (kind : BudgetKind) (now : Int) : FrameBudget × Bool :=
  let first := budget.getD ⟨now, 0, 0, now, 0⟩
  let minute := if now - first.minuteStart ≥ MINUTE_MS then { first with minuteStart := now, frames := 0, offers := 0 } else first
  let next := if now - minute.hourStart ≥ HOUR_MS then { minute with hourStart := now, notifies := 0 } else minute
  match kind with
  | .frame => ({ next with frames := next.frames + 1 }, decide (next.frames < FRAME_LIMIT_PER_MINUTE))
  | .notify => ({ next with notifies := next.notifies + 1 }, decide (next.notifies < NOTIFY_LIMIT_PER_HOUR))
  | .pairOffer => ({ next with offers := next.offers + 1 }, decide (next.offers < PAIR_OFFER_LIMIT_PER_MINUTE))

/-- Charge the socket and persist its budget; on a breach the socket is closed and the caller must stop. -/
def charge (s : HubState) (ws : HubSocket) (kind : BudgetKind) : HubState × Option HubSocket :=
  let (budget, allowed) := spendBudget ws.budget kind s.clock
  let next := { ws with budget := some budget }
  if allowed then ({ s with sockets := s.sockets.put next }, some next)
  else ({ s with sockets := s.sockets.put { next with isOpen := false } }, none)

/-! ## Commands -/

/-- Remove what waits under a request id. -/
def dropPending (pending : List (String × Nat)) (requestId : String) : List (String × Nat) :=
  pending.filter fun entry => entry.1 ≠ requestId

/-- Call the resolver of a command. -/
def resolve (s : HubState) (i : Nat) (result : Option String) : HubState :=
  { s with dispatches := s.dispatches.modify i fun d => { d with results := d.results ++ [result] } }

/-- The newest open socket of an installation that completed hello. -/
def liveSocket (s : HubState) (installId : String) : Option HubSocket :=
  (s.sockets.rows.filter fun w => w.installId = installId ∧ w.isOpen ∧ w.hello).foldl
    (fun best w => if best.all fun b => decide (b.connectedAt < w.connectedAt) then some w else best) none

/-- Forward a command to the installation's socket, if it has one; a send that fails ends it at once. -/
def dispatchCommand (s : HubState) (installId requestId : String) (sent : Bool) : HubState :=
  match liveSocket s installId with
  | none => s
  | some _ =>
    if sent then
      { s with
        pending := (requestId, s.dispatches.length) :: dropPending s.pending requestId
        dispatches := s.dispatches ++ [⟨installId, requestId, []⟩] }
    else
      { s with
        pending := dropPending s.pending requestId
        dispatches := s.dispatches ++ [⟨installId, requestId, [none]⟩] }

/-- The timer of a command is due; one that was resolved had it cleared. -/
def timeout (s : HubState) (i : Nat) : HubState :=
  match s.dispatches[i]? with
  | some d =>
    if d.results = [] then resolve { s with pending := dropPending s.pending d.requestId } i none else s
  | none => s

/-- Resolve the command that waits under the request id. -/
def reply (s : HubState) (requestId text : String) : HubState :=
  match s.pending.lookup requestId with
  | some i => resolve { s with pending := dropPending s.pending requestId } i (some text)
  | none => s

/-! ## Frames -/

section
variable (storedPairHash : String → String)

/-- What a frame does up to its first await; the reads behind a welcome and a notification change nothing. -/
def handleFrame (s : HubState) (ws : HubSocket) : RuntimeFrame → HubState
  | .hello _ _ => { s with sockets := s.sockets.put { ws with hello := true } }
  | .pairOffer codeHash expiresAt =>
    if expiresAt ≤ s.clock then s
    else { s with waiting := s.waiting ++ [⟨ws.installId, .offer (storedPairHash codeHash) expiresAt s.clock⟩] }
  | .pairRevoke => { s with waiting := s.waiting ++ [⟨ws.installId, .revoke⟩] }
  | .reply requestId text => reply s requestId text
  | .notify _ _ => s

def ownBudget : RuntimeFrame → Option BudgetKind
  | .notify _ _ => some .notify
  | .pairOffer _ _ => some .pairOffer
  | _ => none

def isHello : RuntimeFrame → Bool
  | .hello _ _ => true
  | _ => false

def webSocketMessage (s : HubState) (ws : HubSocket) (message : Message) : HubState :=
  match charge s ws .frame with
  | (s, none) => s
  | (s, some ws) =>
    match message with
    | .binary | .invalid => s
    | .frame f =>
      if !isHello f && !ws.hello then s
      else
        match ownBudget f with
        | none => handleFrame storedPairHash s ws f
        | some kind =>
          match charge s ws kind with
          | (s, none) => s
          | (s, some ws) => handleFrame storedPairHash s ws f

def carryOut (db : D1) (w : Waiting) : D1 :=
  match w.statement with
  | .offer stored expiresAt now => (storePairOffer db w.installId stored expiresAt now).1
  | .revoke => unlinkInstall db w.installId

def connect (s : HubState) (id : Nat) (installId : String) : HubState :=
  let superseded := s.sockets.update (fun w => if w.installId = installId then { w with isOpen := false } else w) fun w => by
    split
    · rfl
    · rfl
  { s with sockets := superseded.put ⟨id, installId, s.clock, false, none, true⟩ }

/-- Count one request against the day's quota. -/
def consumeQuota (s : HubState) (installId : String) (kind : QuotaKind) (limit : Int) : HubState :=
  let day := s.clock / 86400000
  let row := (s.quota.get (day, installId, kind)).getD ⟨day, installId, kind, 0, 0⟩
  let charged := if (row.used : Int) ≥ max limit 0 then { row with rejected := row.rejected + 1 } else { row with used := row.used + 1 }
  { s with quota := s.quota.put charged }

inductive Event where
  | tick (ms : Nat)
  | connect (id : Nat) (installId : String)
  | close (id : Nat)
  | message (id : Nat) (message : Message)
  /-- The statement a frame waits for is carried out, or fails. -/
  | settle (i : Nat) (ok : Bool)
  | dispatch (installId requestId : String) (sent : Bool)
  | timeout (i : Nat)
  | quota (installId : String) (kind : QuotaKind) (limit : Int)
  /-- The webhook, the admin routes or the housekeeping have written the tables. -/
  | worker (db : D1)

def step (s : HubState) : Event → HubState
  | .tick ms => { s with clock := s.clock + ms }
  | .connect id installId => if (s.sockets.get id).isSome then s else connect s id installId
  | .close id =>
    match s.sockets.get id with
    | some w => { s with sockets := s.sockets.put { w with isOpen := false } }
    | none => s
  | .message id message =>
    match s.sockets.get id with
    | some ws => webSocketMessage storedPairHash s ws message
    | none => s
  | .settle i ok =>
    match s.waiting[i]? with
    | some w => { s with db := if ok then carryOut s.db w else s.db, waiting := s.waiting.eraseIdx i }
    | none => s
  | .dispatch installId requestId sent => dispatchCommand s installId requestId sent
  | .timeout i => timeout s i
  | .quota installId kind limit => consumeQuota s installId kind limit
  | .worker db => { s with db }

def ran (clock : Int) (es : List Event) : HubState := History.after (step storedPairHash) (start clock) es

/-! ## What isolation is -/

/-- The installation whose frame an event handles, or whose frame's statement it carries out. -/
def sender (s : HubState) : Event → Option String
  | .message id _ => (s.sockets.get id).map HubSocket.installId
  | .settle i _ => (s.waiting[i]?).map Waiting.installId
  | _ => none

/-- What an installation has on the hub: its link, its live codes, its quota counters, its sockets with their budgets, and
the answers to its commands. -/
structure View where
  link : Option LinkRow
  codes : List PairCode
  quota : List QuotaRow
  sockets : List HubSocket
  answers : List (List (Option String))

def isLive (installId : String) (clock : Int) (c : PairCode) : Bool :=
  c.installId = installId && c.usedAt.isNone && decide (clock < c.expiresAt)

def view (s : HubState) (installId : String) : View where
  link := s.db.tgLinks.get installId
  codes := s.db.pairCodes.rows.filter (isLive installId s.clock)
  quota := s.quota.rows.filter fun r => r.installId = installId
  sockets := s.sockets.rows.filter fun w => w.installId = installId
  answers := (s.dispatches.filter fun d => d.installId = installId).map Dispatch.results

/-- Installations are isolated over a run: an answer comes from a reply of the command's own installation, other frames leave
what an installation has, and every command is resolved once. -/
structure Isolated (clock : Int) (es : List Event) : Prop where
  origin : ∀ d ∈ (ran storedPairHash clock es).dispatches, ∀ text, some text ∈ d.results →
    ∃ pre id post ws, es = pre ++ .message id (.frame (.reply d.requestId text)) :: post ∧
      (ran storedPairHash clock pre).sockets.get id = some ws ∧ ws.installId = d.installId
  apart : ∀ pre e post, es = pre ++ e :: post → ∀ other installId, sender (ran storedPairHash clock pre) e = some other →
    installId ≠ other → view (ran storedPairHash clock (pre ++ [e])) installId = view (ran storedPairHash clock pre) installId
  once : ∀ i d, (ran storedPairHash clock es).dispatches[i]? = some d → d.results.length ≤ 1 ∧
    (d.results ≠ [] → ∀ entry ∈ (ran storedPairHash clock es).pending, entry.2 ≠ i)
  due : ∀ pre i post, es = pre ++ .timeout i :: post → ∀ d, (ran storedPairHash clock (pre ++ [.timeout i])).dispatches[i]? =
    some d → d.results.length = 1

/-- A reply, within its socket's budget, under a request id another installation's command waits under. -/
def isForeign (s : HubState) : Event → Bool
  | .message id (.frame (.reply requestId _)) =>
    (s.sockets.get id).any fun ws => ws.hello && (spendBudget ws.budget .frame s.clock).2 &&
      ((s.pending.lookup requestId).bind fun i => s.dispatches[i]?).any fun d => !decide (d.installId = ws.installId)
  | _ => false

end

end Atra.Hub
