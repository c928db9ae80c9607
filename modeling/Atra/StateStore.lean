import Atra.History
import Atra.RiskTypes
/-!
# StateStore — mode, pause, emergency stop and the LIVE checklist

The rows an operator's switches live in.  LIVE is entered by `activateLive` alone, on six steps recorded in the last ten
minutes, which it consumes; `revertToPaper`, an engaged emergency stop and a restart while LIVE leave it and clear the steps.
-/
namespace Atra

def LIVE_SESSION_TTL_MS : Int := 12 * 60 * 60 * 1000

/-- A recorded checklist step is good for this long. -/
def ACTIVATION_STEP_TTL_MS : Int := 10 * 60 * 1000

inductive ActivationStep where
  | acknowledged | reauthenticated | riskReviewed | walletFunded | gasChecked | adapterChecked
deriving DecidableEq, Repr

/-- The steps in the order the dashboard presents them. -/
def ActivationStep.all : List ActivationStep :=
  [.acknowledged, .reauthenticated, .riskReviewed, .walletFunded, .gasChecked, .adapterChecked]

structure RuntimeStateRow where
  globalPause : Bool
  emergencyStop : Bool
  pausedReason : Option String
  emergencyReason : Option String
deriving DecidableEq, Repr

/-- One column a step, holding the time it was recorded. -/
structure LiveActivationRow where
  recordedAt : ActivationStep → Option Int
  activatedAt : Option Int

/-- The rows of the store; the installation is missing until the first-run setup creates it. -/
structure Controls where
  installation : Option Mode
  runtimeState : RuntimeStateRow
  liveActivation : LiveActivationRow

structure LiveActivationProgress where
  done : ActivationStep → Bool
  activatedAt : Option Int
  missing : List ActivationStep

namespace StateStore

/-- Clear every checklist step. -/
def resetChecklist (c : Controls) : Controls := { c with liveActivation := ⟨fun _ => none, none⟩ }

def setMode (c : Controls) (mode : Mode) : Controls := { c with installation := c.installation.map fun _ => mode }

def getMode (c : Controls) : Mode := c.installation.getD .PAPER

/-- A process start never resumes LIVE. -/
def demoteOnBoot (c : Controls) : Controls :=
  if c.installation = some .LIVE then resetChecklist (setMode c .PAPER) else c

/-- The rows of a database no process has opened. -/
def fresh : Controls := ⟨none, ⟨false, false, none, none⟩, ⟨fun _ => none, none⟩⟩

def createInstallation (c : Controls) : Result Controls :=
  match c.installation with
  | some _ => throw ⟨.alreadyInitialized, "This installation already exists"⟩
  | none => pure { c with installation := some .PAPER }

def setGlobalPause (c : Controls) (paused : Bool) (reason : Option String) : Controls :=
  { c with runtimeState := { c.runtimeState with
      globalPause := paused, pausedReason := if paused then reason else none } }

/-- Engage or clear the emergency stop; engaging it also leaves LIVE. -/
def setEmergencyStop (c : Controls) (active : Bool) (reason : Option String) : Controls :=
  let stopped := { c with runtimeState := { c.runtimeState with
    emergencyStop := active, emergencyReason := if active then reason else none } }
  if active then resetChecklist (setMode stopped .PAPER) else stopped

/-- A step counts only while it is recent. -/
def isFresh (now : Int) (stamp : Option Int) : Bool := stamp.any fun recorded => now - recorded ≤ ACTIVATION_STEP_TTL_MS

def getActivation (c : Controls) (now : Int) : LiveActivationProgress :=
  let done := fun s => isFresh now (c.liveActivation.recordedAt s)
  { done, activatedAt := c.liveActivation.activatedAt, missing := ActivationStep.all.filter fun s => !done s }

def recordActivationStep (c : Controls) (now : Int) (s : ActivationStep) : Controls :=
  { c with liveActivation := { c.liveActivation with
      recordedAt := fun s' => if s' = s then some now else c.liveActivation.recordedAt s' } }

/-- Switch to LIVE, consuming the steps. -/
def activateLive (c : Controls) (now : Int) : Result Controls :=
  if c.runtimeState.emergencyStop then throw ⟨.liveActivationIncomplete, "Clear the emergency stop first"⟩
  else if c.runtimeState.globalPause then throw ⟨.liveActivationIncomplete, "Resume from pause first"⟩
  else if (getActivation c now).missing.length > 0 then
    throw ⟨.liveActivationIncomplete, "LIVE activation is incomplete"⟩
  else
    let reset := resetChecklist (setMode c .LIVE)
    pure { reset with liveActivation := { reset.liveActivation with activatedAt := some now } }

def revertToPaper (c : Controls) : Controls := resetChecklist (setMode c .PAPER)

/-- The slice of state the risk engine needs. -/
def toRiskState (c : Controls) (now : Int) (cooldowns : Record Int) (lastAnyActionAt : Option Int) (ledger : Ledger) :
    RuntimeState :=
  let activation := getActivation c now
  let mode := getMode c
  let state : ActivationState :=
    if mode = .LIVE ∧ activation.activatedAt.isSome then .LIVE
    else if activation.missing.length = 0 then .PENDING else .PAPER
  { mode
    emergencyStop := ⟨c.runtimeState.emergencyStop, c.runtimeState.emergencyReason⟩
    globalPause := c.runtimeState.globalPause
    activation := ⟨state, if state = .LIVE then activation.activatedAt.map fun t => ⟨t, t + LIVE_SESSION_TTL_MS⟩ else none⟩
    cooldowns
    lastAnyActionAt
    ledger }

/-! ## Histories -/

inductive Operation where
  | createInstallation
  | recordActivationStep (s : ActivationStep)
  | activateLive
  | setEmergencyStop (active : Bool) (reason : Option String)
  | setGlobalPause (paused : Bool) (reason : Option String)
  | revertToPaper
  | restart

/-- An operation and its reading of the clock. -/
structure Event where
  time : Int
  operation : Operation

/-- What an operation that may throw leaves behind. -/
def orKeep (c : Controls) (result : Result Controls) : Controls :=
  match result with
  | .ok c' => c'
  | .error _ => c

def step (c : Controls) (e : Event) : Controls :=
  match e.operation with
  | .createInstallation => orKeep c (createInstallation c)
  | .recordActivationStep s => recordActivationStep c e.time s
  | .activateLive => orKeep c (activateLive c e.time)
  | .setEmergencyStop active reason => setEmergencyStop c active reason
  | .setGlobalPause paused reason => setGlobalPause c paused reason
  | .revertToPaper => revertToPaper c
  | .restart => demoteOnBoot c

/-- The operation leaves LIVE, or would: the checklist starts again. -/
def Demotes (c : Controls) (e : Event) : Prop :=
  e.operation = .revertToPaper ∨ (∃ reason, e.operation = .setEmergencyStop true reason) ∨
    (e.operation = .restart ∧ getMode c = .LIVE)

/-- The operation is an activation that succeeds. -/
def Activates (c : Controls) (e : Event) : Prop :=
  e.operation = .activateLive ∧ ∃ c', activateLive c e.time = .ok c'

/-- The operation is an activation on a checklist walked in the last ten minutes, no step of it older than the last
demotion or activation, with neither switch set. -/
def ActivatesFresh (pre : List Event) (e : Event) : Prop :=
  Activates (History.after step fresh pre) e ∧
    (History.after step fresh pre).runtimeState.emergencyStop = false ∧
    (History.after step fresh pre).runtimeState.globalPause = false ∧
    ∀ s, History.Since step (fun _ e' => e'.operation = .recordActivationStep s ∧ e'.time ≤ e.time ∧
        e.time - e'.time ≤ ACTIVATION_STEP_TTL_MS) (fun c e' => Demotes c e' ∨ Activates c e') fresh pre

/-! ## What an operation does -/

variable {c c' : Controls} {e : Event} {es : List Event}

@[simp] theorem getMode_resetChecklist : getMode (resetChecklist c) = getMode c := rfl

@[simp] theorem getMode_setMode_paper : getMode (setMode c .PAPER) = .PAPER := by
  unfold getMode setMode
  cases c.installation with
  | none => rfl
  | some mode => rfl

theorem orKeep_createInstallation : orKeep c (createInstallation c) = c ∨
    orKeep c (createInstallation c) = { c with installation := some .PAPER } := by
  unfold createInstallation
  cases c.installation with
  | none => exact .inr rfl
  | some mode => exact .inl rfl

/-- **An activation that succeeds** met both switches off and every step fresh, and consumed the steps. -/
theorem activateLive_ok {now : Int} (h : activateLive c now = .ok c') : c.runtimeState.emergencyStop = false ∧
    c.runtimeState.globalPause = false ∧ (∀ s, isFresh now (c.liveActivation.recordedAt s) = true) ∧
    ∀ s, c'.liveActivation.recordedAt s = none := by
  unfold activateLive at h
  split at h
  · cases h
  · rename_i hstop
    split at h
    · cases h
    · rename_i hpause
      split at h
      · cases h
      · rename_i hmissing
        obtain rfl := pure_ok.1 h
        refine ⟨by simpa using hstop, by simpa using hpause, fun s => ?_, fun s => rfl⟩
        have hnil : (getActivation c now).missing = [] := List.length_eq_zero_iff.1 (by omega)
        have hall := List.filter_eq_nil_iff.1 hnil s (by cases s <;> decide)
        simpa [getActivation] using hall

/-- **A step that is recorded after an operation** was recorded by it, or before it and the operation was no reset. -/
theorem recordedAt_step {s : ActivationStep} {t : Int} (h : (step c e).liveActivation.recordedAt s = some t) :
    (e.operation = .recordActivationStep s ∧ e.time = t) ∨
      (c.liveActivation.recordedAt s = some t ∧ ¬ (Demotes c e ∨ Activates c e)) := by
  unfold step at h
  unfold Demotes Activates
  cases ho : e.operation with
  | createInstallation =>
    rw [ho] at h
    dsimp only at h
    refine .inr ⟨?_, by simp⟩
    rcases orKeep_createInstallation (c := c) with hc | hc
    · rw [hc] at h
      exact h
    · rw [hc] at h
      exact h
  | recordActivationStep s' =>
    rw [ho] at h
    simp only [recordActivationStep] at h
    by_cases hs : s = s'
    · rw [if_pos hs] at h
      exact .inl ⟨by rw [hs], Option.some.inj h⟩
    · rw [if_neg hs] at h
      exact .inr ⟨h, by simp⟩
  | activateLive =>
    rw [ho] at h
    dsimp only at h
    cases ha : activateLive c e.time with
    | ok c' =>
      rw [ha] at h
      rw [show orKeep c (.ok c') = c' from rfl, (activateLive_ok ha).2.2.2 s] at h
      cases h
    | error err =>
      rw [ha] at h
      exact .inr ⟨h, by simp⟩
  | setEmergencyStop active reason =>
    rw [ho] at h
    cases active with
    | true => cases h
    | false => exact .inr ⟨h, by simp⟩
  | setGlobalPause paused reason =>
    rw [ho] at h
    exact .inr ⟨h, by simp⟩
  | revertToPaper =>
    rw [ho] at h
    cases h
  | restart =>
    rw [ho] at h
    dsimp only at h
    unfold demoteOnBoot at h
    split at h
    · cases h
    · rename_i hmode
      refine .inr ⟨h, ?_⟩
      have hnot : getMode c ≠ .LIVE := by
        intro hm
        unfold getMode at hm
        cases hi : c.installation with
        | none => simp [hi] at hm
        | some mode =>
          rw [hi] at hm hmode
          exact hmode (congrArg some hm)
      simp [hnot]

/-- **LIVE after an operation** is LIVE entered by it, or LIVE before it and not left. -/
theorem live_step (h : getMode (step c e) = .LIVE) : Activates c e ∨ (getMode c = .LIVE ∧ ¬ Demotes c e) := by
  unfold step at h
  unfold Demotes Activates
  cases ho : e.operation with
  | createInstallation =>
    rw [ho] at h
    dsimp only at h
    rcases orKeep_createInstallation (c := c) with hc | hc
    · rw [hc] at h
      exact .inr ⟨h, by simp⟩
    · rw [hc] at h
      cases h
  | recordActivationStep s =>
    rw [ho] at h
    exact .inr ⟨h, by simp⟩
  | activateLive =>
    rw [ho] at h
    dsimp only at h
    cases ha : activateLive c e.time with
    | ok c' => exact .inl ⟨rfl, c', rfl⟩
    | error err =>
      rw [ha] at h
      exact .inr ⟨h, by simp⟩
  | setEmergencyStop active reason =>
    rw [ho] at h
    cases active with
    | true => simp [setEmergencyStop] at h
    | false => exact .inr ⟨h, by simp⟩
  | setGlobalPause paused reason =>
    rw [ho] at h
    exact .inr ⟨h, by simp⟩
  | revertToPaper =>
    rw [ho] at h
    simp [revertToPaper] at h
  | restart =>
    rw [ho] at h
    dsimp only at h
    unfold demoteOnBoot at h
    split at h
    · simp at h
    · rename_i hmode
      exfalso
      unfold getMode at h
      cases hi : c.installation with
      | none => simp [hi] at h
      | some mode =>
        rw [hi] at h hmode
        exact hmode (congrArg some h)

/-! ## LIVE is reachable only through a fresh checklist -/

theorem since_recorded {s : ActivationStep} {t : Int}
    (h : (History.after step fresh es).liveActivation.recordedAt s = some t) :
    History.Since step (fun _ e' => e'.operation = .recordActivationStep s ∧ e'.time = t)
      (fun c e' => Demotes c e' ∨ Activates c e') fresh es := by
  induction es using List.reverseRecOn with
  | nil => cases h
  | append_singleton es e ih =>
    rw [History.after_snoc] at h
    rcases recordedAt_step h with hnow | ⟨hbefore, hkeep⟩
    · exact History.since_now hnow
    · exact History.since_later (ih hbefore) hkeep

/-- **LIVE is reachable only through a fresh checklist.**  Under a clock that never goes back, whenever the stored mode is
LIVE there is an activation on a fresh checklist with neither switch set, and nothing has demoted the runtime since. -/
theorem live_since_fresh_checklist (es : List Event) (hclock : (es.map Event.time).Pairwise (· ≤ ·))
    (hlive : getMode (History.after step fresh es) = .LIVE) :
    History.Since step ActivatesFresh Demotes fresh es := by
  induction es using List.reverseRecOn with
  | nil => cases hlive
  | append_singleton es e ih =>
    rw [List.map_append, List.pairwise_append] at hclock
    obtain ⟨hpre, -, hlast⟩ := hclock
    rw [History.after_snoc] at hlive
    rcases live_step hlive with ⟨ho, c', ha⟩ | ⟨hbefore, hkeep⟩
    · obtain ⟨hstop, hpause, hfresh, -⟩ := activateLive_ok ha
      refine History.since_now ⟨⟨ho, c', ha⟩, hstop, hpause, fun s => ?_⟩
      obtain ⟨t, ht, hage⟩ := (Option.any_eq_true _ _).1 (hfresh s)
      refine (since_recorded ht).imp fun pre e' he' ⟨hs, htime⟩ => ⟨hs, ?_, ?_⟩
      · exact hlast _ (List.mem_map_of_mem he') _ (by simp)
      · rw [htime]
        simpa using hage
    · exact History.since_later (ih hpre hbefore) hkeep

/-- A checklist walked in a minute. -/
def walk : List Event :=
  ⟨0, .createInstallation⟩ :: ActivationStep.all.map (fun s => ⟨60000, .recordActivationStep s⟩) ++ [⟨120000, .activateLive⟩]

theorem live_since_walk : History.Since step ActivatesFresh Demotes fresh walk :=
  live_since_fresh_checklist walk (by decide) (by decide)

end StateStore
end Atra
