import Atra.NotifierLimits
import Mathlib.Algebra.BigOperators.Group.List.Basic
/-!
# NotifierCounts — what becomes of the rejections a cooldown swallows

Every rejection that ends as `cooldown` is counted by the entry under its code.  The count moves from the entry to the
next message with that code and, when that message fails, back; the entry that stands meanwhile is then replaced, and what
it has counted is dropped.  The law of the counts holds in every run with that loss as one of its terms.
-/
namespace Atra
namespace Notifier

open History

/-- The rejections of a code that ended as `cooldown`. -/
def cooled (key : String) (s : System) : Nat :=
  s.ended.countP fun ended => ended.outcome = .cooldown && cooldownKey ended.call.event = some key

/-- What the messages of a code that were sent say was swallowed. -/
def rendered (key : String) (s : System) : Nat :=
  (s.ended.map fun ended =>
    if ended.outcome = .sent ∧ cooldownKey ended.call.event = some key then ended.suppressed else 0).sum

/-- What the messages of a code that are under way say was swallowed. -/
def carried (key : String) (s : System) : Nat :=
  (s.inFlight.map fun sending => if cooldownKey sending.call.event = some key then sending.suppressed else 0).sum

/-- What is left for the next message of a code. -/
def pending (key : String) (st : State) : Nat := (st.cooldowns key).elim 0 Cooldown.suppressed

/-- A delivery that fails finds nothing pending for its code. -/
def NothingPending (key : String) (s : System) : Event → Prop
  | .settled i false => ∀ sending ∈ s.inFlight[i]?, cooldownKey sending.call.event = some key → pending key s.notifier = 0
  | _ => True

/-- What a failed delivery overwrites. -/
def dropped (key : String) (s : System) : Event → Nat
  | .settled i false =>
    s.inFlight[i]?.elim 0 fun sending => if cooldownKey sending.call.event = some key then pending key s.notifier else 0
  | _ => 0

variable {key : String} {s s' : System} {e : Event}

theorem dropped_eq_zero : dropped key s e = 0 ↔ NothingPending key s e := by
  cases e with
  | notify settings call => exact ⟨fun _ => trivial, fun _ => rfl⟩
  | settled i delivered =>
    cases delivered with
    | true => exact ⟨fun _ => trivial, fun _ => rfl⟩
    | false =>
      show s.inFlight[i]?.elim 0 _ = 0 ↔ ∀ sending ∈ s.inFlight[i]?, _
      cases s.inFlight[i]? with
      | none => simp
      | some sending => simp

/-! ## Where a count is -/

/-- What a delivery under way says was swallowed is what the entry it took had counted. -/
def Held (s : System) : Prop :=
  ∀ sending ∈ s.inFlight, ∀ key, cooldownKey sending.call.event = some key →
    sending.suppressed = sending.previousCooldown.elim 0 Cooldown.suppressed

/-- **The law of the counts** with what has been dropped so far. -/
structure Balanced (key : String) (s : System) (lost : Nat) : Prop where
  held : Held s
  balance : cooled key s = rendered key s + carried key s + pending key s.notifier + lost

theorem pending_setCooldown (event : NotificationEvent) (entry : Option Cooldown) (st : State) :
    pending key (setCooldown event entry st) =
      if cooldownKey event = some key then entry.elim 0 Cooldown.suppressed else pending key st := by
  unfold pending
  by_cases hkey : cooldownKey event = some key
  · rw [if_pos hkey, setCooldown_self hkey]
  · rw [if_neg hkey, setCooldown_other hkey]

theorem standingCooldown_elim {event : NotificationEvent} (hkey : cooldownKey event = some key) (st : State) :
    (standingCooldown event st).elim 0 Cooldown.suppressed = pending key st := by
  unfold standingCooldown
  rw [hkey]
  rfl

section
variable {notifier : State} {inFlight : List Sending} {last : Ended} {clock : Int}

theorem cooled_ended : cooled key ⟨notifier, inFlight, s.ended ++ [last], clock⟩ =
    cooled key s + if last.outcome = .cooldown ∧ cooldownKey last.call.event = some key then 1 else 0 := by
  unfold cooled
  rw [List.countP_append, List.countP_singleton]
  simp

theorem rendered_ended : rendered key ⟨notifier, inFlight, s.ended ++ [last], clock⟩ =
    rendered key s + if last.outcome = .sent ∧ cooldownKey last.call.event = some key then last.suppressed else 0 := by
  unfold rendered
  rw [List.map_append, List.sum_append]
  simp

theorem carried_began {sending : Sending} : carried key ⟨notifier, s.inFlight ++ [sending], s.ended, clock⟩ =
    carried key s + if cooldownKey sending.call.event = some key then sending.suppressed else 0 := by
  unfold carried
  rw [List.map_append, List.sum_append]
  simp

theorem carried_eraseIdx (key : String) (notifier : State) (ended : List Ended) (clock : Int) {i : Nat}
    {sending : Sending} (hi : s.inFlight[i]? = some sending) :
    carried key s = (if cooldownKey sending.call.event = some key then sending.suppressed else 0) +
      carried key ⟨notifier, s.inFlight.eraseIdx i, ended, clock⟩ := by
  unfold carried
  rw [← ((inFlight_perm hi).map _).sum_eq, List.map_cons, List.sum_cons]

end

theorem Balanced.step {lost : Nat} (h : Balanced key s lost) (hdid : Did s e s') :
    Balanced key s' (lost + dropped key s e) := by
  obtain ⟨hheld, hbalance⟩ := h
  cases hdid with
  | refused settings call outcome hsent hcooldown =>
    refine ⟨hheld, ?_⟩
    rw [cooled_ended, rendered_ended, if_neg fun h => hcooldown h.1, if_neg fun h => hsent h.1]
    exact hbalance
  | cooled settings call key' active hkey hactive hends =>
    refine ⟨hheld, ?_⟩
    have hnotSent : ¬ (NotifyOutcome.cooldown = .sent ∧ cooldownKey call.event = some key) := fun h => by cases h.1
    rw [cooled_ended, rendered_ended, pending_setCooldown, if_neg hnotSent]
    by_cases hsame : cooldownKey call.event = some key
    · have hpending : pending key s.notifier = active.suppressed := by
        unfold pending
        rw [Option.some.inj (hsame.symm.trans hkey), hactive]
        rfl
      rw [if_pos ⟨rfl, hsame⟩, if_pos hsame]
      show cooled key s + 1 = rendered key s + 0 + carried key s + (active.suppressed + 1) + (lost + 0)
      omega
    · rw [if_neg fun h => hsame h.2, if_neg hsame]
      exact hbalance
  | began settings call hdedupe hover hcap =>
    constructor
    · intro sending hsending key' hkey'
      rcases List.mem_append.1 hsending with hsending | hsending
      · exact hheld sending hsending key' hkey'
      · rw [List.mem_singleton.1 hsending]
    · -- what the entry had counted moves into the message
      rw [carried_began]
      show cooled key s = rendered key s + _ + pending key (setCooldown call.event _ _) + (lost + 0)
      rw [pending_setCooldown]
      dsimp only
      by_cases hsame : cooldownKey call.event = some key
      · rw [if_pos hsame, if_pos hsame, standingCooldown_elim hsame]
        show cooled key s = rendered key s + (carried key s + pending key s.notifier) + 0 + (lost + 0)
        omega
      · rw [if_neg hsame, if_neg hsame]
        exact hbalance
  | delivered i sending hi =>
    refine ⟨fun other hother => hheld other (List.mem_of_mem_eraseIdx hother), ?_⟩
    have hnotCooled : ¬ (NotifyOutcome.sent = .cooldown ∧ cooldownKey sending.call.event = some key) :=
      fun h => by cases h.1
    have hcarried := carried_eraseIdx key s.notifier (s.ended ++ [⟨sending.call, .sent, sending.suppressed⟩])
      s.clock hi
    rw [cooled_ended, rendered_ended, if_neg hnotCooled]
    show cooled key s + 0 = rendered key s + _ + carried key _ + pending key s.notifier + (lost + 0)
    by_cases hsame : cooldownKey sending.call.event = some key
    · rw [if_pos hsame] at hcarried
      rw [if_pos ⟨rfl, hsame⟩]
      dsimp only
      omega
    · rw [if_neg hsame] at hcarried
      rw [if_neg fun h => hsame h.2]
      omega
  | failed i sending hi =>
    refine ⟨fun other hother => hheld other (List.mem_of_mem_eraseIdx hother), ?_⟩
    have hnotCooled : ¬ (NotifyOutcome.failed = .cooldown ∧ cooldownKey sending.call.event = some key) :=
      fun h => by cases h.1
    have hnotSent : ¬ (NotifyOutcome.failed = .sent ∧ cooldownKey sending.call.event = some key) :=
      fun h => by cases h.1
    have hcarried := carried_eraseIdx key (giveBack sending s.notifier)
      (s.ended ++ [⟨sending.call, .failed, sending.suppressed⟩]) s.clock hi
    have hdropped : dropped key s (.settled i false) =
        if cooldownKey sending.call.event = some key then pending key s.notifier else 0 := by
      show s.inFlight[i]?.elim 0 _ = _
      rw [hi]
      rfl
    rw [cooled_ended, rendered_ended, if_neg hnotCooled, if_neg hnotSent, hdropped]
    show cooled key s + 0 = rendered key s + 0 + carried key _ + pending key (setCooldown sending.call.event _ _) + _
    rw [pending_setCooldown]
    by_cases hsame : cooldownKey sending.call.event = some key
    · -- the count goes back to the entry, over what has been counted since
      have hback := hheld sending (List.mem_of_getElem? hi) key hsame
      rw [if_pos hsame] at hcarried
      rw [if_pos hsame, if_pos hsame]
      omega
    · rw [if_neg hsame] at hcarried
      rw [if_neg hsame, if_neg hsame]
      show cooled key s + 0 = rendered key s + 0 + carried key _ + pending key s.notifier + (lost + 0)
      omega
  | missed i delivered hi =>
    have hdropped : dropped key s (.settled i delivered) = 0 := by
      cases delivered with
      | true => rfl
      | false =>
        show s.inFlight[i]?.elim 0 _ = 0
        rw [hi]
        rfl
    rw [hdropped]
    exact ⟨hheld, hbalance⟩

/-! ## Whole runs -/

variable {clock : Int} {es : List Event}

theorem balanced_after (key : String) (clock : Int) (es : List Event) :
    Balanced key (after step (start clock) es) (tally step (dropped key) (start clock) es) :=
  invariant_tally ⟨fun _ hsending => absurd hsending List.not_mem_nil, rfl⟩ (fun s _ e h => h.step (did s e)) es

theorem carried_quiet {s : System} (hquiet : ∀ sending ∈ s.inFlight, cooldownKey sending.call.event ≠ some key) :
    carried key s = 0 := by
  unfold carried
  rw [List.sum_eq_zero]
  intro n hn
  obtain ⟨sending, hsending, rfl⟩ := List.mem_map.1 hn
  exact if_neg (hquiet sending hsending)

/-- **No swallowed rejection is lost or counted twice** while nothing of its code is under way, exactly when every
delivery of that code that failed found nothing pending. -/
theorem rejections_conserved
    (hquiet : ∀ sending ∈ (after step (start clock) es).inFlight, cooldownKey sending.call.event ≠ some key) :
    cooled key (after step (start clock) es) =
        rendered key (after step (start clock) es) + pending key (after step (start clock) es).notifier ↔
      Along step (NothingPending key) (start clock) es := by
  have hbalance := (balanced_after key clock es).balance
  rw [carried_quiet hquiet] at hbalance
  have hlost : tally step (dropped key) (start clock) es = 0 ↔ Along step (NothingPending key) (start clock) es := by
    rw [tally_eq_zero]
    have hsame : (fun s e => dropped key s e = 0) = NothingPending key := by
      funext s e
      exact propext dropped_eq_zero
    rw [hsame]
  rw [← hlost]
  omega

/-- A rejection is swallowed while the message before it is under way; the message then goes out or fails. -/
def swallowed (delivered : Bool) : List Event :=
  [.notify allOn ⟨rejected "t1", 0⟩, .notify allOn ⟨rejected "t2", 1⟩, .settled 0 delivered]

def dailyLoss : String := "trade.rejected:DAILY_LOSS_LIMIT"

theorem rejections_conserved_sent :
    Along step (NothingPending dailyLoss) (start 0) (swallowed true) ∧
      cooled dailyLoss (after step (start 0) (swallowed true)) = 1 ∧
      cooled dailyLoss (after step (start 0) (swallowed true)) =
        rendered dailyLoss (after step (start 0) (swallowed true)) +
          pending dailyLoss (after step (start 0) (swallowed true)).notifier := by
  have hquiet : ∀ sending ∈ (after step (start 0) (swallowed true)).inFlight,
      cooldownKey sending.call.event ≠ some dailyLoss := fun sending hsending => by cases hsending
  have hnone : Along step (NothingPending dailyLoss) (start 0) (swallowed true) := ⟨trivial, trivial, trivial, trivial⟩
  exact ⟨hnone, rfl, (rejections_conserved hquiet).2 hnone⟩

/-- **A delivery that fails drops what its cooldown has counted**: one rejection was swallowed, nothing is pending, and no
message says so. -/
theorem failed_delivery_drops :
    (after step (start 0) (swallowed false)).inFlight.length = 0 ∧
      cooled dailyLoss (after step (start 0) (swallowed false)) = 1 ∧
      rendered dailyLoss (after step (start 0) (swallowed false)) = 0 ∧
      pending dailyLoss (after step (start 0) (swallowed false)).notifier = 0 := ⟨rfl, rfl, rfl, rfl⟩

end Notifier
end Atra
