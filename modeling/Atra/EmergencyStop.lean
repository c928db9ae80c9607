import Mathlib.Data.Rat.Defs
import Atra.Statements
import Atra.StateStore
/-!
# EmergencyStop — the stop, its hook and both schedules, statement by statement

Engaging the stop writes the switch, the mode, the checklist, both schedules and the treasury's freeze in statements of
their own; a boot demotes LIVE and arms what the stored schedules say.  An idle runtime under an engaged stop is in PAPER with
both schedules stored as disabled and no timer armed, as long as no crash falls between the switch and the schedules: a boot
after such a crash arms the schedule the stop had not reached.
-/
namespace Atra.Emergency

open StateStore Statements

/-- The auto-trade scheduler and the LP scheduler. -/
inductive Scheduler where
  | trade | liquidity
deriving DecidableEq, Repr

def Scheduler.all : List Scheduler := [.trade, .liquidity]

def MIN_INTERVAL_SECONDS : Int := 60

def MAX_INTERVAL_SECONDS : Int := 24 * 60 * 60

structure SchedulerRow where
  enabled : Bool
  intervalSeconds : Int
deriving DecidableEq, Repr

/-- The stored rows, and with them what only a running process holds: the armed timers and the starts its boot still owes. -/
structure Runtime where
  controls : Controls
  schedulers : Scheduler → SchedulerRow
  frozen : Bool
  timer : Scheduler → Option Int
  starting : List Scheduler

inductive Statement where
  | createInstallation
  | setSwitch (active : Bool) (reason : Option String)
  | setPause (paused : Bool) (reason : Option String)
  | setMode (mode : Mode)
  | resetChecklist
  | recordStep (step : ActivationStep) (now : Int)
  | activatedAt (now : Int)
  | setScheduler (k : Scheduler) (enabled : Bool) (intervalSeconds : Int)
  | disableScheduler (k : Scheduler)
  | setFrozen
  /-- A row no switch is read from: an audit event, an alert, a default that is there already. -/
  | insert
  | stop (k : Scheduler)
  | arm (k : Scheduler) (intervalSeconds : Int)
  /-- The next of the starts a boot owes: arm the timer if the stored setting says so. -/
  | start
deriving DecidableEq, Repr

def setTimer (s : Runtime) (k : Scheduler) (timer : Option Int) : Runtime :=
  { s with timer := fun k' => if k' = k then timer else s.timer k' }

def setRow (s : Runtime) (k : Scheduler) (row : SchedulerRow) : Runtime :=
  { s with schedulers := fun k' => if k' = k then row else s.schedulers k' }

def exec (s : Runtime) : Statement → Runtime
  | .createInstallation => { s with controls := { s.controls with installation := some .PAPER } }
  | .setSwitch active reason =>
    { s with controls := { s.controls with runtimeState := { s.controls.runtimeState with
      emergencyStop := active, emergencyReason := if active then reason else none } } }
  | .setPause paused reason => { s with controls := setGlobalPause s.controls paused reason }
  | .setMode mode => { s with controls := StateStore.setMode s.controls mode }
  | .resetChecklist => { s with controls := StateStore.resetChecklist s.controls }
  | .recordStep step now => { s with controls := recordActivationStep s.controls now step }
  | .activatedAt now =>
    { s with controls := { s.controls with liveActivation := { s.controls.liveActivation with activatedAt := some now } } }
  | .setScheduler k enabled intervalSeconds => setRow s k ⟨enabled, intervalSeconds⟩
  | .disableScheduler k => setRow s k { s.schedulers k with enabled := false }
  | .setFrozen => { s with frozen := true }
  | .insert => s
  | .stop k => setTimer s k none
  | .arm k intervalSeconds => setTimer s k (some intervalSeconds)
  | .start =>
    match s.starting with
    | [] => s
    | k :: rest =>
      let status := s.schedulers k
      setTimer { s with starting := rest } k (if status.enabled then some status.intervalSeconds else s.timer k)

/-! ## The operations -/

inductive Operation where
  | createInstallation
  | setGlobalPause (paused : Bool) (reason : Option String)
  | setEmergencyStop (active : Bool) (reason : Option String)
  | configure (k : Scheduler) (enabled : Bool) (intervalSeconds : ℚ)
  | recordActivationStep (step : ActivationStep)
  | activateLive
  | revertToPaper
  | start

/-- A call and its reading of the clock. -/
structure Call where
  time : Int
  operation : Operation

def emergencyStop (s : Runtime) : Bool := s.controls.runtimeState.emergencyStop

/-- Called by the emergency stop path: disable without waiting for a tick. -/
def disableForEmergency (k : Scheduler) : List Statement := [.stop k, .disableScheduler k]

/-- Freeze the treasury: the flag, its audit event, and an alert with its own. -/
def freeze : List Statement := [.setFrozen, .insert, .insert, .insert]

/-- The hook of the composition root: an engaged stop disarms both schedules and freezes the treasury. -/
def onEmergencyStop (s : Runtime) (active : Bool) : List Statement :=
  if active then
    disableForEmergency .trade ++ disableForEmergency .liquidity ++ (if s.frozen then [] else freeze)
  else []

def setEmergencyStop (s : Runtime) (active : Bool) (reason : Option String) : List Statement :=
  .setSwitch active reason ::
    ((if active then [.setMode .PAPER, .resetChecklist] else []) ++ .insert :: onEmergencyStop s active)

def configure (s : Runtime) (k : Scheduler) (enabled : Bool) (intervalSeconds : ℚ) : Result (List Statement) := do
  refuseWhen (intervalSeconds.isInt = false ∨ intervalSeconds < MIN_INTERVAL_SECONDS ∨ MAX_INTERVAL_SECONDS < intervalSeconds)
    ⟨.schemaInvalid, "intervalSeconds must be between 60 and 86400"⟩
  refuseWhen (enabled = true ∧ emergencyStop s = true) ⟨.conflict,
    match k with
    | .trade => "Clear the emergency stop before enabling auto-trade"
    | .liquidity => "Clear the emergency stop before enabling LP automation"⟩
  pure ([.setScheduler k enabled intervalSeconds.num, .insert, .stop k] ++
    if enabled then [.arm k intervalSeconds.num] else [])

def activateLive (s : Runtime) (now : Int) : Result (List Statement) := do
  let _ ← StateStore.activateLive s.controls now
  pure [.setMode .LIVE, .resetChecklist, .activatedAt now, .insert]

def createInstallation (s : Runtime) : Result (List Statement) := do
  let _ ← StateStore.createInstallation s.controls
  pure [.createInstallation, .insert]

/-- The statements of a call; one that throws runs none. -/
def operate (s : Runtime) (c : Call) : Result (List Statement) :=
  match c.operation with
  | .createInstallation => createInstallation s
  | .setGlobalPause paused reason => pure [.setPause paused reason, .insert]
  | .setEmergencyStop active reason => pure (setEmergencyStop s active reason)
  | .configure k enabled intervalSeconds => configure s k enabled intervalSeconds
  | .recordActivationStep step => pure [.recordStep step c.time, .insert]
  | .activateLive => activateLive s c.time
  | .revertToPaper => pure [.setMode .PAPER, .resetChecklist, .insert]
  | .start => pure [.start]

def script (s : Runtime) (c : Call) : List Statement :=
  match operate s c with
  | .ok statements => statements
  | .error _ => []

/-- A new process: no timer is armed, and both schedulers are still to be started. -/
def volatile (s : Runtime) : Runtime := { s with timer := fun _ => none, starting := [.liquidity, .trade] }

/-- The constructors, in their order: missing rows, LIVE left, both schedulers' rows. -/
def boot (s : Runtime) : List Statement :=
  [.insert, .insert] ++
    (if s.controls.installation = some .LIVE then [.setMode .PAPER, .resetChecklist, .insert] else []) ++ [.insert, .insert]

def program : Program Runtime Statement Call := ⟨exec, script, volatile, boot⟩

/-- The rows of a database no process has opened, both schedules off. -/
def fresh : Runtime :=
  ⟨StateStore.fresh, fun k => match k with | .trade => ⟨false, 300⟩ | .liquidity => ⟨false, 1800⟩, false, fun _ => none, []⟩

/-- The runtime after a run of calls, statements and crashes, from its first boot. -/
def ran (es : List (Event Call)) : Machine Runtime Statement :=
  History.after program.step ⟨volatile fresh, boot fresh⟩ es

/-! ## What the stop promises -/

/-- The runtime trades nothing by itself. -/
structure Disarmed (s : Runtime) : Prop where
  paper : getMode s.controls = .PAPER
  disabled : ∀ k, (s.schedulers k).enabled = false
  idle : ∀ k, s.timer k = none

def Scheduled (k : Scheduler) (s : Runtime) : Prop := (s.schedulers k).enabled = true ∨ s.timer k ≠ none

/-- The event is the operator's call that enables a schedule, with the stop cleared, and it is not refused. -/
def Reenables (k : Scheduler) (m : Machine Runtime Statement) (e : Event Call) : Prop :=
  m.pending = [] ∧ emergencyStop m.store = false ∧
    ∃ now intervalSeconds statements, e = .call ⟨now, .configure k true intervalSeconds⟩ ∧
      configure m.store k true intervalSeconds = .ok statements

/-- A run in which the stop is effective: whenever it is engaged and no call is under way the runtime is disarmed, and from
there a schedule comes back through a call that enables it only. -/
structure Effective (es : List (Event Call)) : Prop where
  disarmed : ∀ pre post, es = pre ++ post → (ran pre).pending = [] → emergencyStop (ran pre).store = true →
    Disarmed (ran pre).store
  deliberate : ∀ pre mid post, es = pre ++ mid ++ post → (ran pre).pending = [] → emergencyStop (ran pre).store = true →
    ∀ k, Scheduled k (ran (pre ++ mid)).store → ∃ p e q, mid = p ++ e :: q ∧ Reenables k (ran (pre ++ p)) e

/-- A crash under an engaged stop that has not reached every enabled schedule yet. -/
def interrupts (m : Machine Runtime Statement) : Event Call → Bool
  | .crash => emergencyStop m.store && Scheduler.all.any fun k => (m.store.schedulers k).enabled
  | _ => false

variable {s : Runtime} {m : Machine Runtime Statement} {k : Scheduler} {es : List (Event Call)}

/-! ## What a call does, run to its end -/

/-- The call as the store of the switches takes it. -/
def Operation.stored : Operation → Option StateStore.Operation
  | .createInstallation => some .createInstallation
  | .setGlobalPause paused reason => some (.setGlobalPause paused reason)
  | .setEmergencyStop active reason => some (.setEmergencyStop active reason)
  | .recordActivationStep step => some (.recordActivationStep step)
  | .activateLive => some .activateLive
  | .revertToPaper => some .revertToPaper
  | .configure _ _ _ | .start => none

/-- What the call does to the store of the switches when nothing cuts it short. -/
def storeStep (c : Controls) (call : Call) : Controls :=
  match call.operation.stored with
  | some operation => StateStore.step c ⟨call.time, operation⟩
  | none => c

theorem script_of_ok {c : Call} {ws : List Statement} (h : operate s c = .ok ws) : script s c = ws := by
  unfold script
  rw [h]

theorem script_of_error {c : Call} {e : AppError} (h : operate s c = .error e) : script s c = [] := by
  unfold script
  rw [h]

theorem configure_ok {enabled : Bool} {intervalSeconds : ℚ} {ws : List Statement}
    (h : configure s k enabled intervalSeconds = .ok ws) : (enabled = true → emergencyStop s = false) ∧
      ws = [.setScheduler k enabled intervalSeconds.num, .insert, .stop k] ++
        if enabled then [.arm k intervalSeconds.num] else [] := by
  unfold configure at h
  obtain ⟨_, -, h⟩ := bind_ok.1 h
  obtain ⟨_, hclear, h⟩ := bind_ok.1 h
  refine ⟨fun he => ?_, (pure_ok.1 h).symm⟩
  by_contra hs
  exact refuseWhen_ok.1 hclear ⟨he, by simpa using hs⟩

theorem activateLive_eq {c c' : Controls} {now : Int} (h : StateStore.activateLive c now = .ok c') :
    c' = { StateStore.resetChecklist (StateStore.setMode c .LIVE) with liveActivation := ⟨fun _ => none, some now⟩ } := by
  unfold StateStore.activateLive at h
  split at h
  · cases h
  · split at h
    · cases h
    · split at h
      · cases h
      · exact (pure_ok.1 h).symm

theorem operate_activateLive {c' : Controls} {now : Int} (h : StateStore.activateLive s.controls now = .ok c') :
    operate s ⟨now, .activateLive⟩ = .ok [.setMode .LIVE, .resetChecklist, .activatedAt now, .insert] := by
  show activateLive s now = _
  unfold activateLive
  rw [h]
  rfl

theorem operate_activateLive_error {e : AppError} {now : Int} (h : StateStore.activateLive s.controls now = .error e) :
    operate s ⟨now, .activateLive⟩ = .error e := by
  show activateLive s now = _
  unfold activateLive
  rw [h]
  rfl

theorem start_controls : (exec s .start).controls = s.controls := by
  rcases s with ⟨c, rows, frozen, timer, _ | ⟨k, rest⟩⟩
  · rfl
  · rfl

theorem start_schedulers : (exec s .start).schedulers = s.schedulers := by
  rcases s with ⟨c, rows, frozen, timer, _ | ⟨k, rest⟩⟩
  · rfl
  · rfl

/-- **A call that is not cut short does to the switches what the store's own operation does.** -/
theorem run_controls (c : Call) : (program.run s (script s c)).controls = storeStep s.controls c := by
  rcases c with ⟨now, operation⟩
  cases operation with
  | createInstallation =>
    unfold storeStep
    rcases hi : s.controls.installation with _ | mode
    · simp [script, operate, createInstallation, StateStore.createInstallation, hi, Operation.stored, StateStore.step, orKeep,
        Program.run, program, exec, pure, bind, Except.pure, Except.bind]
    · simp [script, operate, createInstallation, StateStore.createInstallation, hi, Operation.stored, StateStore.step, orKeep,
        Program.run, throw, throwThe, MonadExceptOf.throw, bind, Except.bind]
  | setGlobalPause paused reason => rfl
  | setEmergencyStop active reason =>
    cases active with
    | false => rfl
    | true =>
      rcases s with ⟨c, rows, _ | _, timer, starting⟩
      · rfl
      · rfl
  | configure k enabled intervalSeconds =>
    cases ho : configure s k enabled intervalSeconds with
    | error e =>
      rw [script_of_error (c := ⟨now, .configure k enabled intervalSeconds⟩) ho]
      rfl
    | ok ws =>
      rw [script_of_ok (c := ⟨now, .configure k enabled intervalSeconds⟩) ho, (configure_ok ho).2]
      cases enabled with
      | false => rfl
      | true => rfl
  | recordActivationStep step => rfl
  | activateLive =>
    cases ha : StateStore.activateLive s.controls now with
    | error e =>
      rw [script_of_error (operate_activateLive_error ha)]
      show _ = orKeep s.controls (StateStore.activateLive s.controls now)
      rw [ha]
      rfl
    | ok c' =>
      rw [script_of_ok (operate_activateLive ha)]
      show _ = orKeep s.controls (StateStore.activateLive s.controls now)
      rw [ha, activateLive_eq ha]
      rfl
  | revertToPaper => rfl
  | start => exact start_controls

/-- A boot that is not cut short leaves LIVE, and does nothing else to the switches. -/
theorem boot_controls : (program.finish (program.step m .crash)).controls = demoteOnBoot m.store.controls := by
  show (program.run (volatile m.store) (boot (volatile m.store))).controls = _
  unfold boot demoteOnBoot
  show (program.run (volatile m.store) (([.insert, .insert] ++ if m.store.controls.installation = some .LIVE then _ else _) ++
    _)).controls = _
  by_cases hl : m.store.controls.installation = some .LIVE
  · rw [if_pos hl, if_pos hl]
    rfl
  · rw [if_neg hl, if_neg hl]
    rfl

/-! ## An idle runtime under an engaged stop is disarmed -/

def Stopped (s : Runtime) : Prop := emergencyStop s = true → Disarmed s

theorem getMode_demoteOnBoot (c : Controls) : getMode (demoteOnBoot c) = .PAPER := by
  unfold demoteOnBoot
  by_cases hl : c.installation = some .LIVE
  · rw [if_pos hl]
    exact getMode_setMode_paper
  · rw [if_neg hl]
    unfold getMode
    rcases hi : c.installation with _ | _ | _
    · rfl
    · rfl
    · exact absurd hi hl

theorem disarmed_setEmergencyStop (reason : Option String) (now : Int) :
    Disarmed (program.run s (script s ⟨now, .setEmergencyStop true reason⟩)) := by
  refine ⟨?_, fun k => ?_, fun k => ?_⟩
  · rw [run_controls]
    exact getMode_setMode_paper
  · rcases s with ⟨c, rows, _ | _, timer, starting⟩
    · cases k with
      | trade => rfl
      | liquidity => rfl
    · cases k with
      | trade => rfl
      | liquidity => rfl
  · rcases s with ⟨c, rows, _ | _, timer, starting⟩
    · cases k with
      | trade => rfl
      | liquidity => rfl
    · cases k with
      | trade => rfl
      | liquidity => rfl

theorem Disarmed.configure (h : Disarmed s) (intervalSeconds : Int) :
    Disarmed (program.run s [.setScheduler k false intervalSeconds, .insert, .stop k]) := by
  refine ⟨h.paper, fun k' => ?_, fun k' => ?_⟩
  · show (if k' = k then (⟨false, intervalSeconds⟩ : SchedulerRow) else s.schedulers k').enabled = false
    by_cases hk : k' = k
    · rw [if_pos hk]
    · rw [if_neg hk]
      exact h.disabled k'
  · show (if k' = k then none else s.timer k') = none
    by_cases hk : k' = k
    · rw [if_pos hk]
    · rw [if_neg hk]
      exact h.idle k'

theorem Disarmed.start (h : Disarmed s) : Disarmed (exec s .start) := by
  refine ⟨by rw [start_controls]; exact h.paper, fun k => by rw [start_schedulers]; exact h.disabled k, fun k' => ?_⟩
  rcases s with ⟨c, rows, frozen, timer, _ | ⟨k, rest⟩⟩
  · exact h.idle k'
  · show (if k' = k then if (rows k).enabled = true then some (rows k).intervalSeconds else timer k else timer k') = none
    by_cases hk : k' = k
    · rw [if_pos hk, if_neg (by simp [show (rows k).enabled = false from h.disabled k])]
      exact h.idle k
    · rw [if_neg hk]
      exact h.idle k'

/-- **A call, run to its end, keeps an engaged stop effective.** -/
theorem stopped_run (c : Call) (h : Stopped s) : Stopped (program.run s (script s c)) := by
  intro hstop
  rcases c with ⟨now, operation⟩
  cases operation with
  | createInstallation =>
    cases ho : operate s ⟨now, .createInstallation⟩ with
    | error e =>
      rw [script_of_error ho] at hstop ⊢
      exact h hstop
    | ok ws =>
      obtain ⟨_, -, hws⟩ := bind_ok.1 (show createInstallation s = .ok ws from ho)
      rw [script_of_ok ho, ← pure_ok.1 hws] at hstop ⊢
      exact ⟨rfl, (h hstop).disabled, (h hstop).idle⟩
  | setGlobalPause paused reason => exact ⟨(h hstop).paper, (h hstop).disabled, (h hstop).idle⟩
  | setEmergencyStop active reason =>
    cases active with
    | false => cases hstop
    | true => exact disarmed_setEmergencyStop reason now
  | configure k enabled intervalSeconds =>
    cases ho : configure s k enabled intervalSeconds with
    | error e =>
      rw [script_of_error (c := ⟨now, .configure k enabled intervalSeconds⟩) ho] at hstop ⊢
      exact h hstop
    | ok ws =>
      obtain ⟨hclear, rfl⟩ := configure_ok ho
      rw [script_of_ok (c := ⟨now, .configure k enabled intervalSeconds⟩) ho] at hstop ⊢
      cases enabled with
      | true =>
        rw [show emergencyStop (program.run s _) = emergencyStop s from rfl, hclear rfl] at hstop
        cases hstop
      | false => exact (h hstop).configure _
  | recordActivationStep step => exact ⟨(h hstop).paper, (h hstop).disabled, (h hstop).idle⟩
  | activateLive =>
    cases ha : StateStore.activateLive s.controls now with
    | error e =>
      rw [script_of_error (operate_activateLive_error ha)] at hstop ⊢
      exact h hstop
    | ok c' =>
      rw [script_of_ok (operate_activateLive ha)] at hstop
      rw [show emergencyStop (program.run s _) = emergencyStop s from rfl,
        show emergencyStop s = false from (activateLive_ok ha).1] at hstop
      cases hstop
  | revertToPaper => exact ⟨getMode_setMode_paper, (h hstop).disabled, (h hstop).idle⟩
  | start =>
    refine (h ?_).start
    rw [emergencyStop, ← @start_controls s]
    exact hstop

theorem interrupts_crash : interrupts m .crash = false ↔
    (emergencyStop m.store = true → ∀ k, (m.store.schedulers k).enabled = false) := by
  unfold interrupts
  cases emergencyStop m.store with
  | false => simp
  | true =>
    simp only [Bool.true_and, List.any_eq_false, Bool.not_eq_true, forall_const]
    exact ⟨fun h k => h k (by cases k <;> decide), fun h k _ => h k⟩

theorem boot_schedulers : (program.finish (program.step m .crash)).schedulers = m.store.schedulers ∧
    (program.finish (program.step m .crash)).timer = fun _ => none := by
  show (program.run (volatile m.store) (boot (volatile m.store))).schedulers = _ ∧
    (program.run (volatile m.store) (boot (volatile m.store))).timer = _
  unfold boot
  by_cases hl : (volatile m.store).controls.installation = some .LIVE
  · rw [if_pos hl]
    exact ⟨rfl, rfl⟩
  · rw [if_neg hl]
    exact ⟨rfl, rfl⟩

/-- A crash that finds the stop cleared, or both schedules disabled, keeps an engaged stop effective. -/
theorem stopped_crash (h : interrupts m .crash = false) : Stopped (program.finish (program.step m .crash)) := by
  intro hstop
  obtain ⟨hrows, htimer⟩ := boot_schedulers (m := m)
  have hflag : emergencyStop m.store = true := by
    rw [emergencyStop, boot_controls] at hstop
    unfold demoteOnBoot at hstop
    split at hstop
    · exact hstop
    · exact hstop
  refine ⟨?_, ?_, ?_⟩
  · rw [boot_controls]
    exact getMode_demoteOnBoot _
  · rw [hrows]
    exact interrupts_crash.1 h hflag
  · rw [htimer]
    exact fun _ => rfl

/-! ## A schedule comes back through the operator only -/

/-- A statement that neither enables a schedule nor arms its timer. -/
def Leaves (k : Scheduler) : Statement → Prop
  | .setScheduler k' enabled _ => k' = k → enabled = false
  | .arm k' _ => k' ≠ k
  | _ => True

def Off (k : Scheduler) (s : Runtime) : Prop := (s.schedulers k).enabled = false ∧ s.timer k = none

theorem not_scheduled : ¬ Scheduled k s ↔ Off k s := by simp [Scheduled, Off]

theorem Off.setTimer {k' : Scheduler} {t : Option Int} (h : Off k s) (ht : k = k' → t = none) : Off k (setTimer s k' t) := by
  refine ⟨h.1, ?_⟩
  show (if k = k' then t else s.timer k) = none
  by_cases hk : k = k'
  · rw [if_pos hk]
    exact ht hk
  · rw [if_neg hk]
    exact h.2

theorem Off.setRow {k' : Scheduler} {row : SchedulerRow} (h : Off k s) (hrow : k' = k → row.enabled = false) :
    Off k (setRow s k' row) := by
  refine ⟨?_, h.2⟩
  show (if k = k' then row else s.schedulers k).enabled = false
  by_cases hk : k = k'
  · rw [if_pos hk]
    exact hrow hk.symm
  · rw [if_neg hk]
    exact h.1

/-- **A statement that leaves a schedule keeps it off.** -/
theorem Off.exec {w : Statement} (hw : Leaves k w) (h : Off k s) : Off k (exec s w) := by
  cases w with
  | setScheduler k' enabled intervalSeconds => exact h.setRow hw
  | disableScheduler k' => exact h.setRow fun _ => rfl
  | stop k' => exact h.setTimer fun _ => rfl
  | arm k' intervalSeconds => exact h.setTimer fun hk => absurd hk.symm hw
  | start =>
    rcases s with ⟨c, rows, frozen, timer, _ | ⟨k', rest⟩⟩
    · exact h
    · refine Off.setTimer (s := ⟨c, rows, frozen, timer, rest⟩) h fun hk => ?_
      subst hk
      rw [if_neg (by simp [show (rows k).enabled = false from h.1])]
      exact h.2
  | createInstallation | setSwitch | setPause | setMode | resetChecklist | recordStep | activatedAt | setFrozen | insert =>
    exact h

/-- **The only call with a statement that does not leave a schedule is the one that enables it.** -/
theorem script_leaves {c : Call} (h : ¬ Reenables k ⟨s, []⟩ (.call c)) : ∀ w ∈ script s c, Leaves k w := by
  rcases c with ⟨now, operation⟩
  cases ho : operate s ⟨now, operation⟩ with
  | error e =>
    rw [script_of_error ho]
    exact fun w hw => absurd hw List.not_mem_nil
  | ok ws =>
    rw [script_of_ok ho]
    cases operation with
    | createInstallation =>
      obtain ⟨_, -, hws⟩ := bind_ok.1 (show createInstallation s = .ok ws from ho)
      obtain rfl := pure_ok.1 hws
      simp [Leaves]
    | activateLive =>
      obtain ⟨_, -, hws⟩ := bind_ok.1 (show activateLive s now = .ok ws from ho)
      obtain rfl := pure_ok.1 hws
      simp [Leaves]
    | configure k' enabled intervalSeconds =>
      obtain ⟨hclear, rfl⟩ := configure_ok ho
      have hk : enabled = true → k' ≠ k := by
        rintro rfl rfl
        exact h ⟨rfl, hclear rfl, now, intervalSeconds, _, rfl, ho⟩
      cases enabled with
      | true => simp [Leaves, hk rfl]
      | false => simp [Leaves]
    | setEmergencyStop active reason =>
      obtain rfl := pure_ok.1 ho
      cases active with
      | false => simp [setEmergencyStop, onEmergencyStop, Leaves]
      | true =>
        cases hf : s.frozen with
        | false => simp [setEmergencyStop, onEmergencyStop, disableForEmergency, freeze, hf, Leaves]
        | true => simp [setEmergencyStop, onEmergencyStop, disableForEmergency, hf, Leaves]
    | setGlobalPause | recordActivationStep | revertToPaper | start =>
      obtain rfl := pure_ok.1 ho
      simp [Leaves]

theorem boot_leaves : ∀ w ∈ boot s, Leaves k w := by
  unfold boot
  split
  · simp [Leaves]
  · simp [Leaves]

/-! ## The stop stays effective -/

theorem ran_append (pre mid : List (Event Call)) : ran (pre ++ mid) = History.after program.step (ran pre) mid :=
  List.foldl_append

/-- After a run in which no crash interrupts a stop, an idle runtime under an engaged stop is disarmed. -/
theorem disarmed_of_along (h : History.Along program.step (fun m e => interrupts m e = false) ⟨volatile fresh, boot fresh⟩ es)
    (hidle : (ran es).pending = []) (hstop : emergencyStop (ran es).store = true) : Disarmed (ran es).store := by
  have hfinish : Stopped (program.finish (ran es)) :=
    finish_along (fun s c => stopped_run c) (fun m => stopped_crash) (fun hfresh => by cases hfresh) h
  rw [finish_idle hidle] at hfinish
  exact hfinish hstop

/-- **A schedule that is off comes back through a call of the operator that enables it.** -/
theorem reenables_of_scheduled {pre mid : List (Event Call)} (hidle : (ran pre).pending = []) (hoff : Off k (ran pre).store)
    (h : Scheduled k (ran (pre ++ mid)).store) : ∃ p e q, mid = p ++ e :: q ∧ Reenables k (ran (pre ++ p)) e := by
  by_contra hnone
  have halong : History.Along program.step (fun m e => ¬ Reenables k m e) (ran pre) mid := by
    rw [History.along_iff]
    intro p e q hmid hre
    exact hnone ⟨p, e, q, hmid, by rw [ran_append]; exact hre⟩
  have heach : Each (Off k) (Leaves k) (History.after program.step (ran pre) mid) := by
    apply each_along _ _ _ _ _ halong
    · exact fun s w hw hs => hs.exec hw
    · exact fun s hs => ⟨hs.1, rfl⟩
    · exact fun s _ => boot_leaves
    · exact fun s c hc _ => script_leaves hc
    · exact ⟨hoff, by rw [hidle]; exact fun w hw => absurd hw List.not_mem_nil⟩
  rw [ran_append] at h
  exact not_scheduled.2 heach.1 h

/-- **The stop stays effective** in every run in which no crash falls between the switch and the schedules it disables. -/
theorem effective_along (es : List (Event Call))
    (h : History.Along program.step (fun m e => interrupts m e = false) ⟨volatile fresh, boot fresh⟩ es) : Effective es := by
  have hpre : ∀ pre post, es = pre ++ post →
      History.Along program.step (fun m e => interrupts m e = false) ⟨volatile fresh, boot fresh⟩ pre := by
    rintro pre post rfl
    rw [History.along_iff] at h ⊢
    intro p e q hq
    exact h p e (q ++ post) (by rw [hq, List.append_assoc]; rfl)
  refine ⟨fun pre post he hidle hstop => disarmed_of_along (hpre pre post he) hidle hstop, ?_⟩
  intro pre mid post he hidle hstop k hk
  have hdisarmed := disarmed_of_along (hpre pre (mid ++ post) (by rw [he, List.append_assoc])) hidle hstop
  exact reenables_of_scheduled hidle ⟨hdisarmed.disabled k, hdisarmed.idle k⟩ hk

/-- **A crash that interrupts the stop breaks it**: once the boot is done the switch is set and a schedule is stored as
enabled. -/
theorem not_effective_of_interrupts (h : interrupts (ran es) .crash = true) :
    ∃ n, ¬ Effective (es ++ .crash :: List.replicate n .statement) := by
  have hboots : ran (es ++ .crash :: List.replicate (boot (volatile (ran es).store)).length .statement) =
      ⟨program.finish (program.step (ran es) .crash), []⟩ := by
    rw [ran_append]
    exact @after_statements _ _ _ program _ _
  refine ⟨(boot (volatile (ran es).store)).length, fun heff => ?_⟩
  obtain ⟨hflag, hon⟩ := Bool.and_eq_true_iff.1 h
  obtain ⟨k, -, hk⟩ := List.any_eq_true.1 hon
  have hd := heff.disarmed _ [] (List.append_nil _).symm (by rw [hboots]) (by
    rw [hboots, emergencyStop, boot_controls]
    unfold demoteOnBoot
    split
    · exact hflag
    · exact hflag)
  have hoff := hd.disabled k
  rw [hboots, (boot_schedulers (m := ran es)).1, hk] at hoff
  cases hoff

def finished (now : Int) (operation : Operation) (n : Nat) : List (Event Call) :=
  .call ⟨now, operation⟩ :: List.replicate n .statement

/-- Both schedules on, the stop engaged, a crash once the stop is done, the stop cleared, and one schedule on again. -/
def stoppedThenCleared : List (Event Call) :=
  List.replicate 4 .statement ++ finished 0 .createInstallation 2 ++ finished 1 (.configure .trade true 60) 4 ++
    finished 2 (.configure .liquidity true 900) 4 ++ finished 3 (.setEmergencyStop true none) 12 ++
    .crash :: List.replicate 4 .statement ++ finished 4 .start 1 ++ finished 4 .start 1 ++
    finished 5 (.setEmergencyStop false none) 2 ++ finished 6 (.configure .trade true 60) 4

theorem effective_stoppedThenCleared : Effective stoppedThenCleared :=
  effective_along stoppedThenCleared (by
    repeat' apply And.intro
    all_goals first | exact trivial | decide +kernel)

/-- A crash right after the stop is stored, with a schedule on, and the boot that follows. -/
def interrupted : List (Event Call) :=
  List.replicate 4 .statement ++ finished 1 (.configure .trade true 60) 4 ++ finished 2 (.setEmergencyStop true none) 1 ++
    .crash :: List.replicate 4 .statement ++ finished 3 .start 1 ++ finished 3 .start 1

theorem interrupted_not_effective : ¬ Effective interrupted := by
  intro h
  have hd := (h.disarmed interrupted [] (List.append_nil _).symm (by decide +kernel) (by decide +kernel)).disabled .trade
  revert hd
  decide +kernel

end Atra.Emergency
