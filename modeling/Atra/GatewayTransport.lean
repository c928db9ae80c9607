import Atra.CommandRouter
import Atra.History
import Atra.Transaction
/-!
# GatewayTransport — the runtime's link to the gateway

The machine keeps one socket and three timers: a connect timeout, a heartbeat and a backed-off reconnect.  A world is the
machine together with the event loop around it: the sockets it created and has not let go of, and the timers that are armed.
Sockets fire their events in any order and at any time, callbacks may stop the machine or throw, and what a handler did
before it threw stays.
-/
namespace Atra
namespace Transport

open Script

/-! ## The machine and its world -/

/-- What an armed timer does when it fires. -/
inductive Task where
  | reconnect
  | connectTimeout (socket : Nat)
  | heartbeat (socket : Nat)
deriving DecidableEq, Repr

structure Timer where
  handle : Nat
  task : Task
deriving DecidableEq, Repr

/-- The calls the machine makes of its owner. -/
inductive Callback where
  | welcome (paired : Bool) (telegram : Option TelegramIdentity) (botUsername : String)
  | connected
  | disconnected (reason : String)
  | superseded
  | revoked
  | paired (identity : TelegramIdentity) (pairedAt : Int)
  | unpaired (reason : String)
  | command (command : InboundCommand)
deriving DecidableEq, Repr

inductive Outbound where
  | hello | pairOffer | pairRevoke | reply | notify | ping | pong
deriving DecidableEq, Repr

/-- What has happened so far, as far as it can be seen from outside. -/
inductive Mark where
  | start
  | stop
  | created (socket : Nat)
  /-- The gateway closed the current socket with 4003. -/
  | refused (socket : Nat)
  | called (callback : Callback)
  | sent (socket : Nat) (out : Outbound)
deriving DecidableEq, Repr

/-- The fields of `GatewayTransport`. -/
structure Machine where
  socket : Option Nat
  stopped : Bool
  revoked : Bool
  welcomed : Bool
  attempts : Nat
  missedPongs : Nat
  heartbeat : Option Nat
  reconnect : Option Nat
  connectTimer : Option Nat
  lastError : Option String
  lastConnectedAt : Option String
  botUsername : Option String
deriving DecidableEq, Repr

/-- The machine, its sockets in the order of their creation, and its timers likewise. -/
structure World extends Machine where
  created : Nat
  /-- The sockets that are neither closed nor dropped. -/
  live : List Nat
  handles : Nat
  armed : List Timer
  log : List Mark
  /-- The commands that are being answered, with their sockets. -/
  pending : List (Nat × String)
deriving DecidableEq, Repr

def booted : World :=
  { socket := none, stopped := true, revoked := false, welcomed := false, attempts := 0, missedPongs := 0, heartbeat := none
    reconnect := none, connectTimer := none, lastError := none, lastConnectedAt := none, botUsername := none, created := 0
    live := [], handles := 0, armed := [], log := [], pending := [] }

/-! ## Events -/

/-- What `socket.send` does, and whether there was a frame to send at all. -/
inductive Sending where
  | unmade
  | sent
  | threw (message : String)

/-- What a callback does with the machine. -/
inductive Call where
  | stop
  /-- `notify`, `offerPairCode` or `revokePairing`; a send that fails is a rejection, not a throw. -/
  | send (out : Outbound) (isOpen : Bool) (sending : Sending)

structure Reaction where
  calls : List Call
  throws : Bool

/-- A frame of the gateway as it was decoded. -/
inductive Message where
  | pong | ping | undecoded
  | welcome (paired : Bool) (telegram : Option TelegramIdentity) (botUsername : String)
  | paired (telegram : TelegramIdentity) (pairedAt : Int)
  | unpaired (reason : String)
  | command (command : InboundCommand)
  | error

inductive Occurrence where
  | start
  | stop
  | send (out : Outbound) (isOpen : Bool)
  | fire (handle : Nat)
  | opened (socket : Nat)
  | message (socket : Nat) (message : Message)
  | errored (socket : Nat) (message : Option String)
  | closed (socket : Nat) (code : Nat) (reason : String)
  /-- The handler of a command has returned a text, nothing, or an error. -/
  | answered (socket : Nat) (requestId : String) (reply : Except Unit (Option String))

/-- What the socket factory, the socket, the clock and the callbacks answer while an event is handled. -/
structure Answers where
  factory : Except String Unit
  sending : Sending
  now : String
  reaction : Callback → Reaction

structure Event where
  occurrence : Occurrence
  answers : Answers

/-! ## The steps of the machine -/

def maxMissedPongs : Nat := 3

/-- Another client is holding the slot. -/
def supersededCode : Nat := 4001

/-- The installation token no longer exists. -/
def revokedCode : Nat := 4003

def GATEWAY_TOKEN_REVOKED : String := "gateway token revoked; issue a new token"

def REDACTED : String := "[REDACTED]"

section
variable (token : String)

/-- No string that passes through here may carry the token. -/
def scrub (text : String) : String := if 0 < token.length then REDACTED.intercalate (text.splitOn token) else text

def World.mark (w : World) (m : Mark) : World := { w with log := w.log ++ [m] }

def cancel (w : World) (handle : Option Nat) : World := { w with armed := w.armed.filter fun t => some t.handle ≠ handle }

/-- Arm a timer; its handle is the number of timers set before. -/
def arm (w : World) (task : Task) : World :=
  { w with handles := w.handles + 1, armed := w.armed ++ [⟨w.handles, task⟩] }

def clearConnectTimer (w : World) : World := { cancel w w.connectTimer with connectTimer := none }

def clearTimers (w : World) : World :=
  clearConnectTimer { cancel (cancel w w.heartbeat) w.reconnect with heartbeat := none, reconnect := none }

/-- A socket that is closed from either side. -/
def release (w : World) (socket : Nat) : World := { w with live := w.live.filter fun s => s ≠ socket }

def stop (w : World) : World :=
  let cleared := clearTimers { w.mark .stop with stopped := true }
  { (match w.socket with
      | some socket => release cleared socket
      | none => cleared) with socket := none, welcomed := false }

def scheduleReconnect (w : World) : World :=
  if w.stopped || w.revoked then w
  else { arm { w with attempts := w.attempts + 1 } .reconnect with reconnect := some w.handles }

def connect (answers : Answers) (w : World) : World :=
  if w.stopped then w
  else
    let cleared := { clearTimers w with welcomed := false, missedPongs := 0 }
    match answers.factory with
    | .error message => scheduleReconnect { cleared with lastError := some (scrub token message) }
    | .ok () =>
      let made := { cleared.mark (.created w.created) with
        created := w.created + 1, live := cleared.live ++ [w.created], socket := some w.created }
      { arm made (.connectTimeout w.created) with connectTimer := some made.handles }

def start (answers : Answers) (w : World) : World :=
  let called := w.mark .start
  if called.stopped then connect token answers { called with stopped := false, revoked := false, attempts := 0 } else called

def raw (socket : Nat) (out : Outbound) : Sending → Script World Unit Unit
  | .threw message => do
    modify fun w => { w with lastError := some (scrub token message) }
    throw ()
  | .unmade => throw ()
  | .sent => modify fun w => w.mark (.sent socket out)

/-- `#sendAsync`: whatever it throws is a rejection. -/
def sendAsync (out : Outbound) (isOpen : Bool) (sending : Sending) (w : World) : World :=
  match w.socket with
  | some socket => if isOpen && w.welcomed then ((raw token socket out sending).exec w).2 else w
  | none => w

def runCall (w : World) : Call → World
  | .stop => stop w
  | .send out isOpen sending => sendAsync token out isOpen sending w

/-- A callback is called: it does what it does with the machine, and may then throw. -/
def call (answers : Answers) (callback : Callback) : Script World Unit Unit := do
  modify fun w => (answers.reaction callback).calls.foldl (runCall token) (w.mark (.called callback))
  if (answers.reaction callback).throws then throw ()

/-- The reason a callback hears. -/
def closeReason (code : Nat) (reason : String) : String := if reason = "" then "close " ++ toString code else reason

def callIf (condition : Bool) (answers : Answers) (callback : Callback) : Script World Unit Unit :=
  if condition then call token answers callback else pure ()

/-- A code the gateway chose is a verdict about this installation: it may end the link for good. -/
def onVerdict (answers : Answers) (code : Nat) (isLocal : Bool) : Script World Unit Unit :=
  if !isLocal && code == revokedCode then do
    modify fun w => { w with revoked := true, lastError := some GATEWAY_TOKEN_REVOKED }
    call token answers .revoked
  else do
    callIf token (!isLocal && code == supersededCode) answers .superseded
    modify scheduleReconnect

/-- The connection is gone: `isLocal` marks a close that this transport initiated. -/
def onClose (answers : Answers) (code : Nat) (reason : String) (isLocal : Bool) : Script World Unit Unit := do
  let w ← get
  set (clearTimers { w with socket := none, welcomed := false })
  callIf token w.welcomed answers (.disconnected (closeReason code reason))
  onVerdict token answers code isLocal

/-- Close a socket that is no longer trusted, and go through the close path. -/
def dropSocket (answers : Answers) (socket : Nat) (code : Nat) (reason : String) : Script World Unit Unit := do
  modify fun w => release w socket
  let w ← get
  if w.socket = some socket then onClose token answers code reason true

def onConnectTimeout (answers : Answers) (socket : Nat) : Script World Unit Unit := do
  let w ← get
  if w.socket = some socket ∧ w.welcomed = false then
    modify fun w => { w with lastError := some "connect timeout" }
    dropSocket token answers socket 4001 "connect timeout"

def onHeartbeat (answers : Answers) (socket : Nat) : Script World Unit Unit := do
  let w ← get
  if w.socket = some socket then
    if maxMissedPongs ≤ w.missedPongs then
      modify fun w => { w with lastError := some "heartbeat lost" }
      dropSocket token answers socket 4002 "heartbeat lost"
    else
      modify fun w => { w with missedPongs := w.missedPongs + 1 }
      raw token socket .ping answers.sending

def startHeartbeat (socket : Nat) (w : World) : World :=
  { arm { w with missedPongs := 0 } (.heartbeat socket) with heartbeat := some w.handles }

def onOpen (answers : Answers) (socket : Nat) : Script World Unit Unit := do
  let w ← get
  if w.socket = some socket then
    raw token socket .hello answers.sending
    modify (startHeartbeat socket)

/-- The session is established. -/
def welcomedBy (now botUsername : String) (w : World) : World :=
  clearConnectTimer { w with
    welcomed := true
    attempts := 0
    lastError := none
    lastConnectedAt := some now
    botUsername := if botUsername = "" then none else some botUsername }

def onMessage (answers : Answers) (socket : Nat) : Message → Script World Unit Unit
  | .pong => modify fun w => { w with missedPongs := 0 }
  | .ping => raw token socket .pong answers.sending
  | .undecoded => pure ()
  | .welcome paired telegram botUsername => do
    modify (welcomedBy answers.now botUsername)
    call token answers (.welcome paired telegram botUsername)
    call token answers .connected
  | .paired telegram pairedAt => call token answers (.paired telegram pairedAt)
  | .unpaired reason => call token answers (.unpaired reason)
  | .command command => do
    -- a handler that throws at once is answered like one that rejects
    let _ ← attempt (call token answers (.command command))
    modify fun w => { w with pending := w.pending ++ [(socket, command.requestId)] }
  | .error => pure ()

/-- A reply is sent on the socket that delivered the command, and only logged when it cannot be. -/
def onAnswer (answers : Answers) (socket : Nat) (requestId : String) (reply : Except Unit (Option String)) (w : World) :
    World :=
  if (socket, requestId) ∈ w.pending then
    let taken := { w with pending := w.pending.erase (socket, requestId) }
    match reply with
    | .ok none => taken
    | .ok (some _) | .error () => ((raw token socket .reply answers.sending).exec taken).2
  else w

/-- A timer that is armed fires; an interval stays armed. -/
def fire (answers : Answers) (handle : Nat) : Script World Unit Unit := do
  let w ← get
  match w.armed.find? fun t => t.handle = handle with
  | none => pure ()
  | some ⟨_, .reconnect⟩ => modify fun w => connect token answers { cancel w (some handle) with reconnect := none }
  | some ⟨_, .connectTimeout socket⟩ => do
    modify fun w => cancel w (some handle)
    onConnectTimeout token answers socket
  | some ⟨_, .heartbeat socket⟩ => onHeartbeat token answers socket

/-- What handles an event: the listeners of a socket first ask whether it is the current one. -/
def handler (answers : Answers) : Occurrence → Script World Unit Unit
  | .start => modify (start token answers)
  | .stop => modify stop
  | .send out isOpen => modify (sendAsync token out isOpen answers.sending)
  | .fire handle => fire token answers handle
  | .opened socket => onOpen token answers socket
  | .message socket message => do
    let w ← get
    if w.socket = some socket then onMessage token answers socket message
  | .errored socket message => modify fun w =>
    if w.socket = some socket then { w with lastError := some (scrub token (message.getD "socket error")) } else w
  | .closed socket code reason => do
    let w ← get
    modify fun w => release w socket
    if w.socket = some socket then
      modify fun w => if code = revokedCode then w.mark (.refused socket) else w
      onClose token answers code reason false
  | .answered socket requestId reply => modify (onAnswer token answers socket requestId reply)

/-- An event is handled; what a handler throws goes to the process. -/
def step (w : World) (e : Event) : World := ((handler token e.answers e.occurrence).exec w).2

end

end Transport
end Atra
