import Atra.SlidingWindow
import Atra.TelegramPairing
/-!
# CommandRouter — what a Telegram message can do

Every message walks the same gates in the same order: replay, age, identity, the two rate limits, and then the command.  A
message moves the cursor of its chat once it is not a replay; the pause and the emergency stop are set by the last gate alone.
-/
namespace Atra

/-- A command as the transport hands it to the router. -/
structure InboundCommand where
  requestId : String
  updateId : Int
  telegram : TelegramIdentity
  text : String
  receivedAt : Int
  source : TransportKind
deriving DecidableEq, Repr

inductive CommandOutcome where
  | ok | refused | unauthorized | replayed | stale | rateLimited
deriving DecidableEq, Repr

/-- A row of `telegram_chat_cursor`. -/
structure ChatCursor where
  chatId : Int
  lastUpdateId : Int
  updatedAt : Int
deriving DecidableEq, Repr

structure EmergencyChallenge where
  userId : Int
  issuedAt : Int
deriving DecidableEq, Repr

/-- The rows the router reads and writes, and what it keeps in memory. -/
structure Remote where
  controls : Controls
  pairing : Pairing
  cursors : Table ChatCursor.chatId
  alertsEnabled : Bool
  perUser : SlidingWindow Int
  control : SlidingWindow Int
  foreign : SlidingWindow Int
  pairAttempts : SlidingWindow Int
  emergencyChallenge : Option EmergencyChallenge

/-- What became of a message: an outcome and the reply, or a read whose answer is awaited. -/
inductive Handled where
  | done (outcome : CommandOutcome) (reply : Option String)
  | reading (word : String)
deriving DecidableEq, Repr

structure ParsedCommand where
  word : String
  args : List String
deriving DecidableEq, Repr

/-- A process: its text functions and the installation's name. -/
structure CommandRouter where
  host : TextHost
  installationName : String

namespace CommandRouter

def perUserPerMinute : Nat := 20
def controlPerMinute : Nat := 5
def foreignRepliesPer10Min : Nat := 3
def pairAttemptsPer10Min : Nat := 5
def maxMessageAgeMs : Int := 120000
def maxFutureSkewMs : Int := 60000
def emergencyChallengeMs : Int := 60000
def MINUTE_MS : Int := 60000
def TEN_MINUTES_MS : Int := 10 * 60000

def UNPAIRED_REPLY : String :=
  "This bot is not paired with an ATRA installation. Generate a code in your dashboard and send /pair CODE."

def REFUSED_REPLY : String :=
  "Not available over Telegram. Wallet export and withdrawals are done in the local dashboard, with re-authentication."

def CHALLENGE_REPLY : String :=
  "Emergency stop: this halts all automation, disables the scheduler and drops the runtime to PAPER. Open positions are NOT " ++
    "closed.\nTo confirm, send /emergency CONFIRM within 60 seconds."

def ENGAGED_REPLY : String :=
  "EMERGENCY STOP ENGAGED. Automation is halted, the scheduler is disabled and the runtime is in PAPER mode. Open positions " ++
    "were not closed. Clearing the stop requires the local dashboard."

def CONTROL_COMMANDS : List String := ["pause", "resume", "emergency"]

def REFUSED_COMMANDS : List String :=
  ["export", "withdraw", "withdrawal", "send", "transfer", "sweep", "key", "keys", "privatekey", "private_key", "seed",
   "mnemonic", "backup", "keystore"]

/-- The commands answered from what other services say. -/
def READ_COMMANDS : List String := ["status", "portfolio", "positions", "trades", "lp", "risk"]

/-! ## Reading a message -/

/-- The words of a text, between white space. -/
def wordsOf (cs : List Char) : List String := ((cs.splitOnP Live.isJsSpace).filter (· ≠ [])).map String.ofList

def isWordChar (c : Char) : Bool := ('a' ≤ c && c ≤ 'z') || c = '_'

/-- A command's word and arguments; other text has none. -/
def parseCommand (host : Host) (text : String) : Option ParsedCommand :=
  match wordsOf text.toList with
  | [] => none
  | head :: rest => match head.toList with
    | '/' :: cs =>
      let word := host.toLowerCase (String.ofList (cs.takeWhile (· ≠ '@')))
      if word.toList ≠ [] ∧ word.toList.length ≤ 32 ∧ word.toList.all isWordChar then some ⟨word, rest.take 8⟩ else none
    | _ => none

/-! ## The gates -/

/-- An update at or before the last one seen in its chat. -/
def isReplay (s : Remote) (c : InboundCommand) : Bool :=
  (s.cursors.get c.telegram.chatId).any fun row => c.updateId ≤ row.lastUpdateId

def setCursor (s : Remote) (chatId updateId now : Int) : Remote :=
  let last := ((s.cursors.get chatId).map fun row => max row.lastUpdateId updateId).getD updateId
  { s with cursors := s.cursors.put ⟨chatId, last, now⟩ }

def isStale (c : InboundCommand) (now : Int) : Bool :=
  decide (maxMessageAgeMs < now - c.receivedAt) || decide (maxFutureSkewMs < -(now - c.receivedAt))

/-- The sender and the chat are those of the link. -/
def authorized (s : Remote) (c : InboundCommand) : Bool :=
  s.pairing.link.any fun l => l.userId == c.telegram.userId && l.chatId == c.telegram.chatId

/-- Someone else's message: told so a few times, then ignored. -/
def unauthorized (s : Remote) (c : InboundCommand) (now : Int) : Remote × Handled :=
  let taken := s.foreign.take foreignRepliesPer10Min TEN_MINUTES_MS c.telegram.userId now
  ({ s with foreign := taken.1 }, .done .unauthorized (if taken.2.1 then some UNPAIRED_REPLY else none))

def limited (denials : Nat) (reply : String) : Handled := .done .rateLimited (if denials = 1 then some reply else none)

/-! ## Pairing over the bot -/

def tryCode (r : CommandRouter) (s : Remote) (c : InboundCommand) (args : List String) (now : Int) : Remote × Handled :=
  match args.head? with
  | none => (s, .done .refused (some "Send /pair CODE with the code shown in your dashboard."))
  | some code => match PairingService.verify r.host s.pairing code c.telegram .direct now with
    | (pairing, some _) => ({ s with pairing },
        .done .refused (some "That code is not valid or has expired. Generate a new one in the dashboard."))
    | (pairing, none) => ({ s with pairing },
        .done .ok (some ("Paired with " ++ r.installationName ++ ". Send /help for the list of commands.")))

def pair (r : CommandRouter) (s : Remote) (c : InboundCommand) (args : List String) (now : Int) : Remote × Handled :=
  if c.source = .gateway then
    (s, .done .refused (some "Pairing is handled by the bot: send /pair CODE with the code from your dashboard."))
  else
    let taken := s.pairAttempts.take pairAttemptsPer10Min TEN_MINUTES_MS c.telegram.userId now
    let s := { s with pairAttempts := taken.1 }
    if taken.2.1 then tryCode r s c args now
    else (s, limited taken.2.2 "Too many pairing attempts. Wait ten minutes and generate a fresh code.")

/-! ## The commands -/

def pause (s : Remote) (c : InboundCommand) : Remote × Handled :=
  if s.controls.runtimeState.globalPause then (s, .done .ok (some "Automation is already paused."))
  else
    let reason := "paused from Telegram by " ++ c.telegram.displayName
    ({ s with controls := StateStore.setGlobalPause s.controls true (some reason) },
      .done .ok (some "Automation paused. No new cycles will run until /resume."))

def resume (s : Remote) : Remote × Handled :=
  if s.controls.runtimeState.emergencyStop then (s, .done .refused (some ("The emergency stop is engaged. Clearing it " ++
    "requires the local dashboard and re-authentication; /resume cannot do it.")))
  else if !s.controls.runtimeState.globalPause then (s, .done .ok (some "Automation is not paused."))
  else ({ s with controls := StateStore.setGlobalPause s.controls false none }, .done .ok (some "Automation resumed."))

/-- A challenge that a confirmation answers: of the same user, and recent. -/
def challengeStands (s : Remote) (c : InboundCommand) (now : Int) : Bool :=
  s.emergencyChallenge.any fun challenge =>
    challenge.userId == c.telegram.userId && decide (now - challenge.issuedAt ≤ emergencyChallengeMs)

def confirmEmergency (s : Remote) (c : InboundCommand) (now : Int) : Remote × Handled :=
  let answered := { s with emergencyChallenge := none }
  if challengeStands s c now then
    let reason := "engaged from Telegram by " ++ c.telegram.displayName
    ({ answered with controls := StateStore.setEmergencyStop s.controls true (some reason) },
      .done .ok (some ENGAGED_REPLY))
  else (answered, .done .refused
    (some "No pending emergency challenge (they expire after 60 seconds). Send /emergency first."))

def emergency (host : TextHost) (s : Remote) (c : InboundCommand) (args : List String) (now : Int) : Remote × Handled :=
  let argument := host.toUpperCase (args.head?.getD "")
  if argument = "CLEAR" ∨ argument = "OFF" ∨ argument = "RESET" ∨ argument = "RESUME" then
    (s, .done .refused (some ("Clearing the emergency stop requires the local dashboard and re-authentication. It cannot " ++
      "be cleared from Telegram.")))
  else if s.controls.runtimeState.emergencyStop then
    (s, .done .ok (some ("The emergency stop is already engaged" ++
      ((s.controls.runtimeState.emergencyReason.filter (· ≠ "")).map fun reason => " (" ++ reason ++ ")").getD "" ++
      ". Clearing it requires the local dashboard.")))
  else if argument = "CONFIRM" then confirmEmergency s c now
  else ({ s with emergencyChallenge := some ⟨c.telegram.userId, now⟩ }, .done .ok (some CHALLENGE_REPLY))

def alerts (host : Host) (s : Remote) (args : List String) : Remote × Handled :=
  let argument := host.toLowerCase (args.head?.getD "status")
  if argument = "on" ∨ argument = "off" then ({ s with alertsEnabled := argument == "on" }, .reading "alerts")
  else if argument ≠ "status" then (s, .done .ok (some "Usage: /alerts on | off | status"))
  else (s, .reading "alerts")

def dispatch (r : CommandRouter) (s : Remote) (c : InboundCommand) (parsed : ParsedCommand) (now : Int) :
    Remote × Handled :=
  if READ_COMMANDS.contains parsed.word then (s, .reading parsed.word)
  else match parsed.word with
    | "start" => (s, .done .ok (some ("ATRA — " ++ r.installationName ++
        "\nThis chat is paired. Send /help for the list of commands.")))
    | "help" => (s, .reading "help")
    | "alerts" => alerts r.host.toHost s parsed.args
    | "pause" => pause s c
    | "resume" => resume s
    | "emergency" => emergency r.host s c parsed.args now
    | _ => (s, .done .ok (some "Unknown command. Send /help for the list."))

/-- Past the second limit, where the command has one. -/
def admitted (r : CommandRouter) (s : Remote) (c : InboundCommand) (parsed : Option ParsedCommand) (now : Int) :
    Remote × Handled :=
  match parsed with
  | none => (s, .done .ok (some "Send /help for the list of commands."))
  | some p =>
    if REFUSED_COMMANDS.contains p.word then (s, .done .refused (some REFUSED_REPLY)) else dispatch r s c p now

def isControl (parsed : Option ParsedCommand) : Bool := parsed.any fun p => CONTROL_COMMANDS.contains p.word

def limitControl (r : CommandRouter) (s : Remote) (c : InboundCommand) (parsed : Option ParsedCommand) (now : Int) :
    Remote × Handled :=
  if isControl parsed then
    let taken := s.control.take controlPerMinute MINUTE_MS c.telegram.userId now
    let s := { s with control := taken.1 }
    if taken.2.1 then admitted r s c parsed now
    else (s, limited taken.2.2 "Too many control commands. Wait a minute and try again.")
  else admitted r s c parsed now

/-- The linked user's message: the limit for all commands, and then the one for control commands. -/
def limitUser (r : CommandRouter) (s : Remote) (c : InboundCommand) (parsed : Option ParsedCommand) (now : Int) :
    Remote × Handled :=
  let taken := s.perUser.take perUserPerMinute MINUTE_MS c.telegram.userId now
  let s := { s with perUser := taken.1 }
  if taken.2.1 then limitControl r s c parsed now
  else (s, limited taken.2.2 "Too many commands. Wait a minute and try again.")

/-- Past the replay check and the age. -/
def identify (r : CommandRouter) (s : Remote) (c : InboundCommand) (parsed : Option ParsedCommand) (now : Int) :
    Remote × Handled :=
  match parsed.filter fun p => p.word = "pair" with
  | some p => pair r s c p.args now
  | none => if authorized s c then limitUser r s c parsed now else unauthorized s c now

/-- One message, up to what it awaits. -/
def handle (r : CommandRouter) (s : Remote) (c : InboundCommand) (now : Int) : Remote × Handled :=
  if isReplay s c then (s, .done .replayed none)
  else
    let seen := setCursor s c.telegram.chatId c.updateId now
    if isStale c now then (seen, .done .stale none) else identify r seen c (parseCommand r.host.toHost c.text) now

end CommandRouter
end Atra
