import Atra.Registry
import Atra.History
import Mathlib.Logic.Function.Basic
import Mathlib.Data.List.Sort
/-!
# Notifier — outbound Telegram messages and their limits

`notify` passes its gates and reserves a slot, a deduplication key and a cooldown in one synchronous stretch, then waits
for the delivery; a failed delivery gives back what was reserved.  `step` takes one such stretch: a call, or the end of
one of the deliveries under way.  A cooldown entry is a value here: whoever takes it out of the map holds the only
reference to it, and only entries in the map are ever incremented.
-/
namespace Atra
namespace Notifier

open History

inductive NotificationKind where
  | tradeFilled | tradeRejected | tradeFailed | lpRebalanced | lpExited | lpFilled | riskDailyLossNear | gasLow
  | emergencyEngaged | emergencyCleared | runtimeOnline | runtimeOffline | paused | resumed
deriving DecidableEq, Repr

def NotificationKind.name : NotificationKind → String
  | .tradeFilled => "trade.filled"
  | .tradeRejected => "trade.rejected"
  | .tradeFailed => "trade.failed"
  | .lpRebalanced => "lp.rebalanced"
  | .lpExited => "lp.exited"
  | .lpFilled => "lp.filled"
  | .riskDailyLossNear => "risk.dailyLossNear"
  | .gasLow => "gas.low"
  | .emergencyEngaged => "emergency.engaged"
  | .emergencyCleared => "emergency.cleared"
  | .runtimeOnline => "runtime.online"
  | .runtimeOffline => "runtime.offline"
  | .paused => "paused"
  | .resumed => "resumed"

structure NotificationEvent where
  kind : NotificationKind
  chain : Option ChainId := none
  summary : String
  dedupeKey : Option String := none
  rejectionCode : Option String := none

structure NotificationToggles where
  riskRejections : Bool
  tradeDecisions : Bool
  liquidityUpdates : Bool
  runtimeAlerts : Bool

def categoryFor : NotificationKind → NotificationToggles → Bool
  | .tradeFilled | .tradeFailed => (·.tradeDecisions)
  | .tradeRejected => (·.riskRejections)
  | .lpRebalanced | .lpExited | .lpFilled => (·.liquidityUpdates)
  | .riskDailyLossNear | .gasLow | .emergencyEngaged | .emergencyCleared | .runtimeOnline | .runtimeOffline | .paused
  | .resumed => (·.runtimeAlerts)

inductive NotifyOutcome where
  | sent | unpaired | alertsOff | categoryOff | cooldown | duplicate | hourlyCap | failed
deriving DecidableEq, Repr

/-! `NOTIFIER_LIMITS` -/

def hourlyCap : Nat := 30
def dedupeMs : Int := 60 * 60 * 1000
def rejectionCooldownMs : Int := 10 * 60 * 1000

structure Cooldown where
  endsAt : Int
  suppressed : Nat
deriving DecidableEq, Repr

/-- The notifier's fields: the times in `#sentAt`, oldest first, and its two maps. -/
structure State where
  sentAt : List Int := []
  dedupe : String → Option Int := fun _ => none
  cooldowns : String → Option Cooldown := fun _ => none

/-- What a call reads of the pairing and of the settings row. -/
structure Settings where
  isPaired : Bool
  alertsEnabled : Bool
  toggles : NotificationToggles

def dedupeKey (event : NotificationEvent) : String :=
  event.dedupeKey.getD (event.kind.name ++ "|" ++ event.chain.elim "" ChainId.name ++ "|" ++ event.summary)

def cooldownKey (event : NotificationEvent) : Option String :=
  if event.kind = .tradeRejected then some ("trade.rejected:" ++ event.rejectionCode.getD "UNKNOWN") else none

def prune (now : Int) (s : State) : State :=
  let hourAgo := now - dedupeMs
  { s with
    sentAt := s.sentAt.dropWhile fun time => time ≤ hourAgo
    dedupe := fun key => (s.dedupe key).filter fun time => !decide (time ≤ hourAgo) }

/-- A call of `notify`, by its event and the clock it read. -/
structure Call where
  event : NotificationEvent
  now : Int

/-- A delivery under way, with what the call holds for the case that it fails. -/
structure Sending where
  call : Call
  suppressed : Nat
  previousCooldown : Option Cooldown

/-- A call that has returned. -/
structure Ended where
  call : Call
  outcome : NotifyOutcome
  suppressed : Nat

/-- The entry under the event's rejection code. -/
def standingCooldown (event : NotificationEvent) (s : State) : Option Cooldown := (cooldownKey event).bind s.cooldowns

def setCooldown (event : NotificationEvent) (entry : Option Cooldown) (s : State) : State :=
  match cooldownKey event with
  | none => s
  | some key => { s with cooldowns := Function.update s.cooldowns key entry }

/-- Take a slot of the cap, the deduplication key and the cooldown, before the delivery starts. -/
def reserve (call : Call) (s : State) : State :=
  setCooldown call.event (some ⟨call.now + rejectionCooldownMs, 0⟩)
    { s with
      sentAt := s.sentAt ++ [call.now]
      dedupe := Function.update s.dedupe (dedupeKey call.event) (some call.now) }

/-- `lastIndexOf` and `splice`. -/
def removeLast (time : Int) (times : List Int) : List Int := (times.reverse.erase time).reverse

/-- What the `catch` undoes. -/
def giveBack (sending : Sending) (s : State) : State :=
  setCooldown sending.call.event sending.previousCooldown
    { s with
      sentAt := removeLast sending.call.now s.sentAt
      dedupe := Function.update s.dedupe (dedupeKey sending.call.event) none }

/-- Where a call stands when it first yields: it has returned, or it waits for its delivery. -/
inductive Yielded where
  | returned (outcome : NotifyOutcome) (suppressed : Nat)
  | sending (suppressed : Nat) (previousCooldown : Option Cooldown)

/-- `notify` up to the delivery. -/
def notify (settings : Settings) (call : Call) (s : State) : State × Yielded :=
  let s := prune call.now s
  let event := call.event
  if !settings.isPaired then (s, .returned .unpaired 0)
  else if !settings.alertsEnabled then (s, .returned .alertsOff 0)
  else if !categoryFor event.kind settings.toggles then (s, .returned .categoryOff 0)
  else if (s.dedupe (dedupeKey event)).isSome then (s, .returned .duplicate 0)
  else
    match (standingCooldown event s).filter fun active => call.now < active.endsAt with
    | some active =>
      let active := { active with suppressed := active.suppressed + 1 }
      (setCooldown event (some active) s, .returned .cooldown active.suppressed)
    | none =>
      let suppressed := (standingCooldown event s).elim 0 Cooldown.suppressed
      if hourlyCap ≤ s.sentAt.length then (s, .returned .hourlyCap 0)
      else (reserve call s, .sending suppressed (standingCooldown event s))

/-! ## The notifier with its deliveries -/

/-- The notifier, its deliveries under way, the calls that have returned, and the clock the last call read. -/
structure System where
  notifier : State
  inFlight : List Sending
  ended : List Ended
  clock : Int

/-- A call with the clock and the settings it reads, or the end of the `i`-th delivery under way. -/
inductive Event where
  | notify (settings : Settings) (call : Call)
  | settled (i : Nat) (delivered : Bool)

def System.begun (s : System) (call : Call) : State × Yielded → System
  | (notifier, .returned outcome suppressed) =>
    { s with notifier, clock := call.now, ended := s.ended ++ [⟨call, outcome, suppressed⟩] }
  | (notifier, .sending suppressed previousCooldown) =>
    { s with notifier, clock := call.now, inFlight := s.inFlight ++ [⟨call, suppressed, previousCooldown⟩] }

def System.finished (s : System) (i : Nat) (delivered : Bool) (sending : Sending) : System :=
  { s with
    notifier := if delivered then s.notifier else giveBack sending s.notifier
    inFlight := s.inFlight.eraseIdx i
    ended := s.ended ++ [⟨sending.call, if delivered then .sent else .failed, sending.suppressed⟩] }

def step (s : System) : Event → System
  | .notify settings call => s.begun call (notify settings call s.notifier)
  | .settled i delivered => s.inFlight[i]?.elim s (s.finished i delivered)

/-- A notifier as constructed, before any call, when the clock shows `clock`. -/
def start (clock : Int) : System := ⟨{}, [], [], clock⟩

/-- The clock never goes back from one call to the next. -/
def Forward (s : System) : Event → Prop
  | .notify _ call => s.clock ≤ call.now
  | .settled _ _ => True

def sentCalls (s : System) : List Call := (s.ended.filter fun ended => ended.outcome = .sent).map Ended.call

/-! ## What one event can do -/

/-- **The five ways of an event**, beside the one that finds no delivery to end. -/
inductive Did (s : System) : Event → System → Prop
  /-- A gate refused the call before the spam controls, or the cap did. -/
  | refused (settings : Settings) (call : Call) (outcome : NotifyOutcome)
      (hsent : outcome ≠ .sent) (hcooldown : outcome ≠ .cooldown) :
      Did s (.notify settings call)
        { s with notifier := prune call.now s.notifier, clock := call.now, ended := s.ended ++ [⟨call, outcome, 0⟩] }
  /-- The call met an active cooldown, which counts it. -/
  | cooled (settings : Settings) (call : Call) (key : String) (active : Cooldown)
      (hkey : cooldownKey call.event = some key) (hactive : s.notifier.cooldowns key = some active)
      (hends : call.now < active.endsAt) :
      Did s (.notify settings call)
        { s with
          notifier := setCooldown call.event (some { active with suppressed := active.suppressed + 1 })
            (prune call.now s.notifier)
          clock := call.now
          ended := s.ended ++ [⟨call, .cooldown, active.suppressed + 1⟩] }
  /-- The call reserved what it needs and waits for its delivery. -/
  | began (settings : Settings) (call : Call)
      (hdedupe : (prune call.now s.notifier).dedupe (dedupeKey call.event) = none)
      (hover : ∀ entry ∈ standingCooldown call.event s.notifier, entry.endsAt ≤ call.now)
      (hcap : (prune call.now s.notifier).sentAt.length < hourlyCap) :
      Did s (.notify settings call)
        { s with
          notifier := reserve call (prune call.now s.notifier)
          clock := call.now
          inFlight := s.inFlight ++ [⟨call, (standingCooldown call.event s.notifier).elim 0 Cooldown.suppressed,
            standingCooldown call.event s.notifier⟩] }
  | delivered (i : Nat) (sending : Sending) (hi : s.inFlight[i]? = some sending) :
      Did s (.settled i true)
        { s with
          inFlight := s.inFlight.eraseIdx i
          ended := s.ended ++ [⟨sending.call, .sent, sending.suppressed⟩] }
  | failed (i : Nat) (sending : Sending) (hi : s.inFlight[i]? = some sending) :
      Did s (.settled i false)
        { s with
          notifier := giveBack sending s.notifier
          inFlight := s.inFlight.eraseIdx i
          ended := s.ended ++ [⟨sending.call, .failed, sending.suppressed⟩] }
  | missed (i : Nat) (delivered : Bool) (hi : s.inFlight[i]? = none) : Did s (.settled i delivered) s

theorem standingCooldown_prune (event : NotificationEvent) (now : Int) (s : State) :
    standingCooldown event (prune now s) = standingCooldown event s := rfl

theorem did_notify (s : System) (settings : Settings) (call : Call) :
    Did s (.notify settings call) (step s (.notify settings call)) := by
  show Did s _ (s.begun call (notify settings call s.notifier))
  unfold notify
  dsimp only
  by_cases hpaired : (!settings.isPaired) = true
  · rw [if_pos hpaired]
    exact .refused settings call .unpaired (by decide) (by decide)
  rw [if_neg hpaired]
  by_cases halerts : (!settings.alertsEnabled) = true
  · rw [if_pos halerts]
    exact .refused settings call .alertsOff (by decide) (by decide)
  rw [if_neg halerts]
  by_cases hcategory : (!categoryFor call.event.kind settings.toggles) = true
  · rw [if_pos hcategory]
    exact .refused settings call .categoryOff (by decide) (by decide)
  rw [if_neg hcategory]
  by_cases hdedupe : ((prune call.now s.notifier).dedupe (dedupeKey call.event)).isSome = true
  · rw [if_pos hdedupe]
    exact .refused settings call .duplicate (by decide) (by decide)
  rw [if_neg hdedupe, standingCooldown_prune]
  cases hactive : (standingCooldown call.event s.notifier).filter fun active => call.now < active.endsAt with
  | some active =>
    obtain ⟨hstanding, hends⟩ := Option.filter_eq_some_iff.1 hactive
    obtain ⟨key, hkey, hentry⟩ := Option.bind_eq_some_iff.1 hstanding
    exact .cooled settings call key active hkey hentry (of_decide_eq_true hends)
  | none =>
    dsimp only
    by_cases hcap : hourlyCap ≤ (prune call.now s.notifier).sentAt.length
    · rw [if_pos hcap]
      exact .refused settings call .hourlyCap (by decide) (by decide)
    · rw [if_neg hcap]
      have hover : ∀ entry ∈ standingCooldown call.event s.notifier, entry.endsAt ≤ call.now := by
        intro entry hentry
        have hnot := Option.filter_eq_none_iff.1 hactive entry hentry
        exact Int.not_lt.1 fun hlt => hnot (decide_eq_true hlt)
      exact .began settings call (Option.not_isSome_iff_eq_none.1 hdedupe) hover (Nat.lt_of_not_le hcap)

theorem did (s : System) (e : Event) : Did s e (step s e) := by
  cases e with
  | notify settings call => exact did_notify s settings call
  | settled i delivered =>
    cases hi : s.inFlight[i]? with
    | none =>
      have hstep : step s (.settled i delivered) = s := by
        show s.inFlight[i]?.elim s (s.finished i delivered) = s
        rw [hi]
        rfl
      rw [hstep]
      exact .missed i delivered hi
    | some sending =>
      have hstep : step s (.settled i delivered) = s.finished i delivered sending := by
        show s.inFlight[i]?.elim s (s.finished i delivered) = _
        rw [hi]
        rfl
      rw [hstep]
      cases delivered with
      | true => exact .delivered i sending hi
      | false => exact .failed i sending hi

end Notifier
end Atra
