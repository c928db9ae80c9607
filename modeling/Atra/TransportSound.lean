import Atra.Ensures
import Atra.GatewayTransport
/-!
# TransportSound — one socket, one timer of each kind, and a way back

A machine that handles no event is off, refused, waiting for its reconnect or linked to its one live socket (`Place`).  The
close path calls its owner before it arms the reconnect: a callback that throws there leaves the machine in none of these
places, and for good.  In every run in which none does, the machine holds to what its timers and sockets promise (`Sound`).
-/
namespace Atra
namespace Transport

open History Script

/-! ## What is asked of a world -/

/-- Whether the log lets a socket be created: not after a stop before the next start, and not after a refusal before a stop
and a start. -/
inductive Permit where
  | off | refused | on
deriving DecidableEq, Repr

def Permit.next (p : Permit) : Mark → Permit
  | .start => if p = .off then .on else p
  | .stop => .off
  | .refused _ => .refused
  | .created _ | .called _ | .sent _ _ => p

def permit (log : List Mark) : Permit := log.foldl Permit.next .off

def socketOf : Occurrence → Option Nat
  | .opened socket | .message socket _ | .errored socket _ | .closed socket _ _ => some socket
  | .start | .stop | .send _ _ | .fire _ | .answered _ _ _ => none

def Task.isReconnect (t : Task) : Bool := t == .reconnect

def Task.isConnectTimeout : Task → Bool
  | .connectTimeout _ => true
  | _ => false

def Task.isHeartbeat : Task → Bool
  | .heartbeat _ => true
  | _ => false

/-- The timer is of the connection there is: the two of a socket of the current one, the reconnect of none. -/
def Task.Current (w : World) : Task → Prop
  | .reconnect => w.socket = none
  | .connectTimeout socket | .heartbeat socket => w.socket = some socket

/-- How many timers of a kind are armed. -/
def armedOf (w : World) (kind : Task → Bool) : Nat := w.armed.countP fun t => kind t.task

/-- **What the transport promises** of the state it is in. -/
structure Sound (token : String) (w : World) : Prop where
  oneSocket : w.live.length ≤ 1
  oneReconnect : armedOf w Task.isReconnect ≤ 1
  oneConnectTimeout : armedOf w Task.isConnectTimeout ≤ 1
  oneHeartbeat : armedOf w Task.isHeartbeat ≤ 1
  current : ∀ t ∈ w.armed, t.task.Current w
  superseded : ∀ e socket, socketOf e.occurrence = some socket → w.socket ≠ some socket → step token w e = w
  afterStop : ∀ a b c socket, w.log = a ++ .stop :: (b ++ .created socket :: c) → .start ∈ b
  afterRefusal : ∀ a b c socket old, w.log = a ++ .refused old :: (b ++ .created socket :: c) →
    ∃ b₁ b₂, b = b₁ ++ .stop :: b₂ ∧ .start ∈ b₂
  comesBack : w.stopped = false → w.revoked = false → w.socket.isSome = true ∨ ∃ t ∈ w.armed, t.task = .reconnect

/-! ## What must not happen -/

def Reaction.stops (r : Reaction) : Bool := r.calls.any fun
  | .stop => true
  | .send _ _ _ => false

/-- The close path gets to its end, or the machine has been stopped on the way. -/
structure Closes (answers : Answers) (welcomed : Bool) (code : Nat) (reason : String) (isLocal : Bool) : Prop where
  disconnected : welcomed = true → (answers.reaction (.disconnected (closeReason code reason))).throws = true →
    (answers.reaction (.disconnected (closeReason code reason))).stops = true
  superseded : isLocal = false → code = supersededCode → (answers.reaction .superseded).throws = true →
    (answers.reaction .superseded).stops = true ∨
      welcomed = true ∧ (answers.reaction (.disconnected (closeReason code reason))).stops = true

/-- No callback breaks off the close path, and no socket opens a second time and starts a second heartbeat. -/
def Completes (w : World) (e : Event) : Prop :=
  match e.occurrence with
  | .opened socket => w.socket = some socket → e.answers.sending = .sent → ∀ t ∈ w.armed, t.task ≠ .heartbeat socket
  | .closed socket code reason => w.socket = some socket → Closes e.answers w.welcomed code reason false
  | .fire handle => ∀ t socket, w.armed.find? (fun t => t.handle = handle) = some t → t.task = .heartbeat socket →
      maxMissedPongs ≤ w.missedPongs → Closes e.answers w.welcomed 4002 "heartbeat lost" true
  | _ => True

/-! ## Logs -/

section
variable {w w' t : World} {log : List Mark}

theorem permit_append (a b : List Mark) : permit (a ++ b) = b.foldl Permit.next (permit a) := List.foldl_append ..

@[simp] theorem permit_snoc (log : List Mark) (m : Mark) : permit (log ++ [m]) = (permit log).next m := permit_append ..

/-- A callback or a frame. -/
def Mark.isInert : Mark → Bool
  | .called _ | .sent _ _ => true
  | _ => false

theorem permit_inert {marks : List Mark} (h : ∀ m ∈ marks, m.isInert = true) (log : List Mark) :
    permit (log ++ marks) = permit log := by
  induction marks using List.reverseRecOn with
  | nil => rw [List.append_nil]
  | append_singleton ms m ih =>
    have hms := ih fun m hm => h m (List.mem_append_left _ hm)
    have hm := h m (List.mem_append_right _ (List.mem_singleton_self m))
    rw [← List.append_assoc, permit_snoc, hms]
    cases m with
    | called | sent => rfl
    | start | stop | created | refused => cases hm

def Lawful (log : List Mark) : Prop := ∀ a socket b, log = a ++ .created socket :: b → permit a = .on

theorem lawful_nil : Lawful [] := by
  intro a socket b h
  exact absurd h (by simp)

theorem Lawful.snoc (h : Lawful log) {m : Mark} (hm : ∀ socket, m = .created socket → permit log = .on) :
    Lawful (log ++ [m]) := by
  intro a socket b hsplit
  rcases List.eq_nil_or_concat b with rfl | ⟨b', m', rfl⟩
  · obtain ⟨rfl, hlast⟩ := List.append_inj' hsplit rfl
    exact hm socket (List.singleton_inj.1 hlast)
  · rw [List.concat_eq_append, ← List.cons_append, ← List.append_assoc] at hsplit
    obtain ⟨rfl, -⟩ := List.append_inj' hsplit rfl
    exact h a socket b' rfl

theorem Lawful.inert (h : Lawful log) {marks : List Mark} (hi : ∀ m ∈ marks, m.isInert = true) : Lawful (log ++ marks) := by
  induction marks using List.reverseRecOn with
  | nil =>
    rw [List.append_nil]
    exact h
  | append_singleton ms m ih =>
    have hm := hi m (List.mem_append_right _ (List.mem_singleton_self m))
    rw [← List.append_assoc]
    refine (ih fun m hm => hi m (List.mem_append_left _ hm)).snoc fun socket he => ?_
    rw [he] at hm
    cases hm

theorem start_of_permit {b : List Mark} {p : Permit} (hp : p ≠ .on) (h : b.foldl Permit.next p = .on) : .start ∈ b := by
  induction b generalizing p with
  | nil => exact absurd h hp
  | cons m b ih =>
    cases m with
    | start => exact List.mem_cons_self ..
    | stop => exact List.mem_cons_of_mem _ (ih (p := .off) (by decide) h)
    | refused old => exact List.mem_cons_of_mem _ (ih (p := .refused) (by decide) h)
    | created | called | sent => exact List.mem_cons_of_mem _ (ih hp h)

theorem restart_of_permit {b : List Mark} (h : b.foldl Permit.next .refused = .on) :
    ∃ b₁ b₂, b = b₁ ++ .stop :: b₂ ∧ .start ∈ b₂ := by
  induction b with
  | nil => cases h
  | cons m b ih =>
    cases m with
    | stop => exact ⟨[], b, rfl, start_of_permit (by decide) h⟩
    | start | refused | created | called | sent =>
      obtain ⟨b₁, b₂, rfl, hstart⟩ := ih h
      exact ⟨_ :: b₁, b₂, rfl, hstart⟩

/-! ## Places -/

/-- Every armed timer is one that `clearTimers` knows of. -/
def Fielded (w : World) : Prop :=
  ∀ t ∈ w.armed, some t.handle = w.heartbeat ∨ some t.handle = w.reconnect ∨ some t.handle = w.connectTimer

/-- What holds in the middle of a step as well. -/
structure Tidy (w : World) : Prop where
  fielded : Fielded w
  live : w.live = w.socket.toList
  lawful : Lawful w.log

structure Off (w : World) : Prop extends Tidy w where
  stopped : w.stopped = true
  socket : w.socket = none
  armed : w.armed = []
  permit : permit w.log = .off

/-- Not linked, and no timer is armed. -/
structure Bare (w : World) (revoked : Bool) (p : Permit) : Prop extends Tidy w where
  stopped : w.stopped = false
  revoked : w.revoked = revoked
  socket : w.socket = none
  armed : w.armed = []
  permit : permit w.log = p

def linkTimers (socket : Nat) (timeout beat : Option Nat) : List Timer :=
  (timeout.map fun h => ⟨h, .connectTimeout socket⟩).toList ++ (beat.map fun h => ⟨h, .heartbeat socket⟩).toList

theorem mem_linkTimers {socket : Nat} {timeout beat : Option Nat} {timer : Timer} :
    timer ∈ linkTimers socket timeout beat ↔ (∃ h, timeout = some h ∧ timer = ⟨h, .connectTimeout socket⟩) ∨
      ∃ h, beat = some h ∧ timer = ⟨h, .heartbeat socket⟩ := by
  unfold linkTimers
  cases timeout with
  | none => cases beat with
    | none => simp
    | some b => simp
  | some a => cases beat with
    | none => simp
    | some b => simp

structure Linked (w : World) (s : Nat) (timeout beat : Option Nat) : Prop extends Tidy w where
  stopped : w.stopped = false
  revoked : w.revoked = false
  socket : w.socket = some s
  armed : w.armed = linkTimers s timeout beat
  timeout : ∀ h, timeout = some h → w.connectTimer = some h
  beat : ∀ h, beat = some h → w.heartbeat = some h
  permit : permit w.log = .on

theorem fielded_link {s : Nat} {timeout beat : Option Nat} (harmed : w.armed = linkTimers s timeout beat)
    (htimeout : ∀ h, timeout = some h → w.connectTimer = some h) (hbeat : ∀ h, beat = some h → w.heartbeat = some h) :
    Fielded w := by
  intro timer hmem
  rw [harmed] at hmem
  rcases mem_linkTimers.1 hmem with ⟨h, ht, rfl⟩ | ⟨h, hb, rfl⟩
  · exact .inr (.inr (htimeout h ht).symm)
  · exact .inl (hbeat h hb).symm

structure Waiting (w : World) (handle : Nat) : Prop extends Tidy w where
  stopped : w.stopped = false
  revoked : w.revoked = false
  socket : w.socket = none
  armed : w.armed = [⟨handle, .reconnect⟩]
  permit : permit w.log = .on

/-- Where a machine is that handles no event. -/
inductive Place (w : World) : Prop where
  | off (h : Off w)
  | refused (h : Bare w true .refused)
  | waiting (handle : Nat) (h : Waiting w handle)
  | linked (socket : Nat) (timeout beat : Option Nat) (h : Linked w socket timeout beat)

theorem Place.tidy (h : Place w) : Tidy w := by
  cases h with
  | off h => exact h.toTidy
  | refused h => exact h.toTidy
  | waiting handle h => exact h.toTidy
  | linked socket timeout beat h => exact h.toTidy

theorem Place.mark (h : Place w) {m : Mark} (hnext : (permit w.log).next m = permit w.log) (hm : ∀ s, m ≠ .created s) :
    Place (w.mark m) := by
  have hlawful : Lawful (w.log ++ [m]) := h.tidy.lawful.snoc fun s hs => absurd hs (hm s)
  have hpermit : permit (w.log ++ [m]) = permit w.log := (permit_snoc ..).trans hnext
  cases h with
  | off h => exact .off ⟨⟨h.fielded, h.live, hlawful⟩, h.stopped, h.socket, h.armed, hpermit.trans h.permit⟩
  | refused h =>
    exact .refused ⟨⟨h.fielded, h.live, hlawful⟩, h.stopped, h.revoked, h.socket, h.armed, hpermit.trans h.permit⟩
  | waiting handle h =>
    exact .waiting handle ⟨⟨h.fielded, h.live, hlawful⟩, h.stopped, h.revoked, h.socket, h.armed, hpermit.trans h.permit⟩
  | linked s timeout beat h =>
    exact .linked s timeout beat ⟨⟨h.fielded, h.live, hlawful⟩, h.stopped, h.revoked, h.socket, h.armed, h.timeout, h.beat,
      hpermit.trans h.permit⟩

theorem Place.off_of_stopped (h : Place w) (hs : w.stopped = true) : Off w := by
  cases h with
  | off h => exact h
  | refused h => exact absurd (h.stopped.symm.trans hs) (by decide)
  | waiting handle h => exact absurd (h.stopped.symm.trans hs) (by decide)
  | linked s timeout beat h => exact absurd (h.stopped.symm.trans hs) (by decide)

theorem Place.permit_of_running (h : Place w) (hs : w.stopped = false) : permit w.log ≠ .off := by
  cases h with
  | off h => exact absurd (h.stopped.symm.trans hs) (by decide)
  | refused h => exact fun hp => by cases h.permit.symm.trans hp
  | waiting handle h => exact fun hp => by cases h.permit.symm.trans hp
  | linked s timeout beat h => exact fun hp => by cases h.permit.symm.trans hp

theorem Place.linked_of_socket (h : Place w) {s : Nat} (hs : w.socket = some s) : ∃ timeout beat, Linked w s timeout beat := by
  cases h with
  | off h => exact absurd (h.socket.symm.trans hs) (by simp)
  | refused h => exact absurd (h.socket.symm.trans hs) (by simp)
  | waiting handle h => exact absurd (h.socket.symm.trans hs) (by simp)
  | linked s' timeout beat h =>
    obtain rfl := Option.some.inj (h.socket.symm.trans hs)
    exact ⟨timeout, beat, h⟩

/-! ## Timers -/

theorem clearTimers_eq (h : Fielded w) :
    clearTimers w = { w with armed := [], heartbeat := none, reconnect := none, connectTimer := none } := by
  have harmed : (((w.armed.filter fun t => some t.handle ≠ w.heartbeat).filter fun t => some t.handle ≠ w.reconnect).filter
      fun t => some t.handle ≠ w.connectTimer) = [] := by
    rw [List.filter_filter, List.filter_filter, List.filter_eq_nil_iff]
    intro t ht
    rcases h t ht with h | h | h
    · simp [h]
    · simp [h]
    · simp [h]
  unfold clearTimers clearConnectTimer cancel
  dsimp only
  rw [harmed]

theorem fielded_of_empty (h : w.armed = []) : Fielded w := by
  intro t ht
  rw [h] at ht
  cases ht

theorem release_own (h : w.live = w.socket.toList) {socket : Nat} (hs : w.socket = some socket) :
    release w socket = { w with live := [] } := by
  unfold release
  rw [h, hs]
  simp

theorem stop_eq (h : Tidy w) : stop w =
    { w with
      log := w.log ++ [.stop], stopped := true, socket := none, welcomed := false, live := [], armed := [], heartbeat := none
      reconnect := none, connectTimer := none } := by
  have hf : Fielded { w.mark .stop with stopped := true } := h.fielded
  have hlive := h.live
  unfold stop
  dsimp only
  rw [clearTimers_eq hf]
  cases hs : w.socket with
  | none =>
    rw [hs] at hlive
    have hnone : w.live = [] := hlive
    unfold World.mark
    dsimp only
    rw [hnone]
  | some socket =>
    rw [hs] at hlive
    unfold release World.mark
    dsimp only
    rw [hlive]
    simp

theorem off_stop (h : Tidy w) : Off (stop w) := by
  rw [stop_eq h]
  refine ⟨⟨fielded_of_empty rfl, rfl, h.lawful.snoc (by simp)⟩, rfl, rfl, rfl, ?_⟩
  exact permit_snoc ..

/-! ## Callbacks -/

/-- What is told of the connection changes, and calls and frames are logged; the connection and its timers stay. -/
def Drift (w t : World) : Prop :=
  ∃ welcomed attempts missedPongs lastError lastConnectedAt botUsername pending marks,
    (∀ m ∈ marks, m.isInert = true) ∧
    t = { w with
      welcomed, attempts, missedPongs, lastError, lastConnectedAt, botUsername, pending, log := w.log ++ marks }

theorem Drift.refl (w : World) : Drift w w :=
  ⟨w.welcomed, w.attempts, w.missedPongs, w.lastError, w.lastConnectedAt, w.botUsername, w.pending, [], by simp, by simp⟩

theorem Drift.trans {u : World} (h : Drift w t) (h' : Drift t u) : Drift w u := by
  obtain ⟨_, _, _, _, _, _, _, marks, hi, rfl⟩ := h
  obtain ⟨welcomed, attempts, missedPongs, lastError, lastConnectedAt, botUsername, pending, marks', hi', rfl⟩ := h'
  refine ⟨welcomed, attempts, missedPongs, lastError, lastConnectedAt, botUsername, pending, marks ++ marks',
    fun m hm => ?_, by rw [← List.append_assoc]⟩
  rcases List.mem_append.1 hm with hm | hm
  · exact hi m hm
  · exact hi' m hm

theorem drift_mark {m : Mark} (hm : m.isInert = true) : Drift w (w.mark m) := by
  refine ⟨w.welcomed, w.attempts, w.missedPongs, w.lastError, w.lastConnectedAt, w.botUsername, w.pending, [m],
    fun m' hm' => ?_, rfl⟩
  obtain rfl := List.mem_singleton.1 hm'
  exact hm

theorem drift_told (w : World) (welcomed : Bool) (attempts missedPongs : Nat)
    (lastError lastConnectedAt botUsername : Option String) (pending : List (Nat × String)) :
    Drift w { w with welcomed, attempts, missedPongs, lastError, lastConnectedAt, botUsername, pending } :=
  ⟨welcomed, attempts, missedPongs, lastError, lastConnectedAt, botUsername, pending, [], by simp, by simp⟩

theorem Tidy.drift (h : Tidy w) (hd : Drift w t) : Tidy t := by
  obtain ⟨_, _, _, _, _, _, _, marks, hi, rfl⟩ := hd
  exact ⟨h.fielded, h.live, h.lawful.inert hi⟩

theorem Off.drift (h : Off w) (hd : Drift w t) : Off t := by
  have ht := h.toTidy.drift hd
  obtain ⟨_, _, _, _, _, _, _, marks, hi, rfl⟩ := hd
  exact ⟨ht, h.stopped, h.socket, h.armed, (permit_inert hi _).trans h.permit⟩

theorem Bare.drift {revoked : Bool} {p : Permit} (h : Bare w revoked p) (hd : Drift w t) : Bare t revoked p := by
  have ht := h.toTidy.drift hd
  obtain ⟨_, _, _, _, _, _, _, marks, hi, rfl⟩ := hd
  exact ⟨ht, h.stopped, h.revoked, h.socket, h.armed, (permit_inert hi _).trans h.permit⟩

theorem Linked.drift {socket : Nat} {timeout beat : Option Nat} (h : Linked w socket timeout beat) (hd : Drift w t) :
    Linked t socket timeout beat := by
  have ht := h.toTidy.drift hd
  obtain ⟨_, _, _, _, _, _, _, marks, hi, rfl⟩ := hd
  exact ⟨ht, h.stopped, h.revoked, h.socket, h.armed, h.timeout, h.beat, (permit_inert hi _).trans h.permit⟩

theorem Waiting.drift {handle : Nat} (h : Waiting w handle) (hd : Drift w t) : Waiting t handle := by
  have ht := h.toTidy.drift hd
  obtain ⟨_, _, _, _, _, _, _, marks, hi, rfl⟩ := hd
  exact ⟨ht, h.stopped, h.revoked, h.socket, h.armed, (permit_inert hi _).trans h.permit⟩

theorem Place.drift (h : Place w) (hd : Drift w t) : Place t := by
  cases h with
  | off h => exact .off (h.drift hd)
  | refused h => exact .refused (h.drift hd)
  | waiting handle h => exact .waiting handle (h.drift hd)
  | linked socket timeout beat h => exact .linked socket timeout beat (h.drift hd)

variable {token : String} {answers : Answers}

theorem drift_raw {socket : Nat} {out : Outbound} (sending : Sending) : Ensures (raw token socket out sending) w
    (fun _ t => Drift w t) fun _ t => Drift w t := by
  cases sending with
  | unmade => exact Drift.refl w
  | sent => exact drift_mark rfl
  | threw message => exact drift_told w w.welcomed w.attempts w.missedPongs (some (scrub token message)) _ _ _

theorem runCall_off (h : Off w) (c : Call) : Off (runCall token w c) := by
  cases c with
  | stop => exact off_stop h.toTidy
  | send out isOpen sending =>
    unfold runCall sendAsync
    dsimp only
    rw [h.socket]
    exact h

theorem runCalls_off (calls : List Call) (h : Off w) : Off (calls.foldl (runCall token) w) := by
  induction calls generalizing w with
  | nil => exact h
  | cons c calls ih => exact ih (runCall_off h c)

theorem drift_sendAsync (out : Outbound) (isOpen : Bool) (sending : Sending) :
    Drift w (sendAsync token out isOpen sending w) := by
  unfold sendAsync
  split
  · split
    · exact (drift_raw sending).final
    · exact Drift.refl w
  · exact Drift.refl w

/-- What a callback leaves: the machine is off if it was stopped, and has only drifted if it was not. -/
structure Left (r : Reaction) (w t : World) : Prop where
  off : r.stops = true → Off t
  drift : r.stops = false → Drift w t

theorem runCalls_left (h : Tidy w) (calls : List Call) (throws : Bool) :
    Left ⟨calls, throws⟩ w (calls.foldl (runCall token) w) := by
  induction calls generalizing w with
  | nil => exact ⟨fun hs => (Bool.false_ne_true hs).elim, fun _ => Drift.refl w⟩
  | cons c calls ih =>
    cases c with
    | stop => exact ⟨fun _ => runCalls_off calls (off_stop h), fun hs => (Bool.false_ne_true hs.symm).elim⟩
    | send out isOpen sending =>
      have hd : Drift w (sendAsync token out isOpen sending w) := drift_sendAsync out isOpen sending
      obtain ⟨hoff, hdrift⟩ := ih (h.drift hd)
      exact ⟨hoff, fun hs => hd.trans (hdrift hs)⟩

theorem ensures_call (h : Tidy w) (callback : Callback) : Ensures (call token answers callback) w
    (fun _ t => Left (answers.reaction callback) w t ∧ (answers.reaction callback).throws = false)
    fun _ t => Left (answers.reaction callback) w t ∧ (answers.reaction callback).throws = true := by
  have hmark : Drift w (w.mark (.called callback)) := drift_mark rfl
  obtain ⟨hoff, hdrift⟩ := runCalls_left (h.drift hmark) (answers.reaction callback).calls
    (answers.reaction callback).throws
  have hleft := Left.mk hoff fun hs => hmark.trans (hdrift hs)
  unfold call
  rw [ensures_bind, ensures_modify]
  by_cases ht : (answers.reaction callback).throws = true
  · rw [if_pos ht]
    exact ⟨hleft, ht⟩
  · rw [if_neg ht]
    exact ⟨hleft, by simpa using ht⟩

theorem Left.place {r : Reaction} (h : Left r w t) (hp : Place w) : Place t := by
  by_cases hs : r.stops = true
  · exact .off (h.off hs)
  · exact hp.drift (h.drift (by simpa using hs))

theorem ensures_call_place (h : Place w) (callback : Callback) :
    Ensures (call token answers callback) w (fun _ t => Place t) fun _ t => Place t :=
  (ensures_call h.tidy callback).mono (fun _ _ hl => hl.1.place h) fun _ _ hl => hl.1.place h

/-! ## Connections -/

/-- **A machine without timers that may connect** arms its reconnect. -/
theorem place_scheduleReconnect (h : Bare w false .on) : Place (scheduleReconnect w) := by
  have harmed : w.armed ++ [⟨w.handles, .reconnect⟩] = [⟨w.handles, Task.reconnect⟩] := by
    rw [h.armed]
    rfl
  unfold scheduleReconnect
  rw [h.stopped, h.revoked, if_neg (by decide)]
  refine .waiting w.handles ⟨⟨fun timer ht => ?_, h.live, h.lawful⟩, rfl, rfl, h.socket, harmed, h.permit⟩
  have hmem : timer ∈ w.armed ++ [⟨w.handles, .reconnect⟩] := ht
  rw [harmed] at hmem
  obtain rfl := List.mem_singleton.1 hmem
  exact .inr (.inl rfl)

theorem off_scheduleReconnect (h : Off w) : Off (scheduleReconnect w) := by
  unfold scheduleReconnect
  rw [h.stopped]
  exact h

theorem linked_new {s handle : Nat} (hstopped : w.stopped = false) (hrevoked : w.revoked = false)
    (hsocket : w.socket = some s) (hlive : w.live = [s]) (harmed : w.armed = [⟨handle, .connectTimeout s⟩])
    (htimer : w.connectTimer = some handle) (hlawful : Lawful w.log) (hpermit : permit w.log = .on) :
    Linked w s (some handle) none := by
  have htimeout : ∀ h, some handle = some h → w.connectTimer = some h := fun h hh => by rw [htimer, hh]
  have hbeat : ∀ h, none = some h → w.heartbeat = some h := fun _ hn => (Option.some_ne_none _ hn.symm).elim
  have hown : w.live = w.socket.toList := by
    rw [hlive, hsocket]
    rfl
  have hlinks : w.armed = linkTimers s (some handle) none := harmed
  exact ⟨⟨fielded_link hlinks htimeout hbeat, hown, hlawful⟩, hstopped, hrevoked, hsocket, hlinks, htimeout, hbeat, hpermit⟩

/-- **A new connection** is linked to its socket, or waits to be tried again. -/
theorem place_connect (h : Tidy w) (hstopped : w.stopped = false) (hrevoked : w.revoked = false) (hsocket : w.socket = none)
    (hpermit : permit w.log = .on) : Place (connect token answers w) := by
  have hlive : w.live = [] := by
    rw [h.live, hsocket]
    rfl
  unfold connect
  rw [if_neg (by rw [hstopped]; decide), clearTimers_eq h.fielded]
  dsimp only
  cases answers.factory with
  | error message =>
    exact place_scheduleReconnect
      ⟨⟨fielded_of_empty rfl, h.live, h.lawful⟩, hstopped, hrevoked, hsocket, rfl, hpermit⟩
  | ok _ =>
    have hlinks : w.live ++ [w.created] = [w.created] := by
      rw [hlive]
      rfl
    exact .linked w.created (some w.handles) none (linked_new hstopped hrevoked rfl hlinks rfl rfl
      (h.lawful.snoc fun _ _ => hpermit) ((permit_snoc ..).trans hpermit))

/-! ## The close path -/

/-- A machine whose socket is going: it has been released, and is still the current one. -/
structure Going (w : World) (p : Permit) : Prop where
  fielded : Fielded w
  live : w.live = []
  lawful : Lawful w.log
  stopped : w.stopped = false
  revoked : w.revoked = false
  permit : permit w.log = p

theorem Going.cleared {p : Permit} (h : Going w p) : Bare (clearTimers { w with socket := none, welcomed := false }) false p := by
  have hf : Fielded { w with socket := none, welcomed := false } := h.fielded
  rw [clearTimers_eq hf]
  exact ⟨⟨fielded_of_empty rfl, h.live, h.lawful⟩, h.stopped, h.revoked, rfl, rfl, h.permit⟩

/-- The first callback of the close path, where it does not break it off, leaves the machine off or as bare as it was. -/
theorem ensures_disconnected {p : Permit} {code : Nat} {reason : String} {welcomed : Bool} (h : Bare w false p)
    (hthrow : welcomed = true → (answers.reaction (.disconnected (closeReason code reason))).throws = true →
      (answers.reaction (.disconnected (closeReason code reason))).stops = true) :
    Ensures (callIf token welcomed answers (.disconnected (closeReason code reason))) w
      (fun _ t => Off t ∧ welcomed = true ∧ (answers.reaction (.disconnected (closeReason code reason))).stops = true ∨
        Bare t false p ∧ (welcomed = true → (answers.reaction (.disconnected (closeReason code reason))).stops = false))
      fun _ t => Off t ∧ welcomed = true ∧ (answers.reaction (.disconnected (closeReason code reason))).stops = true := by
  cases welcomed with
  | false => exact .inr ⟨h, fun hw => (Bool.false_ne_true hw).elim⟩
  | true =>
    refine (ensures_call h.toTidy _).mono (fun _ t hl => ?_) fun _ t hl =>
      ⟨hl.1.off (hthrow rfl hl.2), rfl, hthrow rfl hl.2⟩
    cases hs : (answers.reaction (.disconnected (closeReason code reason))).stops with
    | true => exact .inl ⟨hl.1.off hs, rfl, rfl⟩
    | false => exact .inr ⟨h.drift (hl.1.drift hs), fun _ => rfl⟩

theorem ensures_off (h : Off w) (callback : Callback) :
    Ensures (call token answers callback) w (fun _ t => Off t) fun _ t => Off t := by
  have hoff : ∀ {t}, Left (answers.reaction callback) w t → Off t := by
    intro t hl
    by_cases hs : (answers.reaction callback).stops = true
    · exact hl.off hs
    · exact h.drift (hl.drift (by simpa using hs))
  exact (ensures_call h.toTidy callback).mono (fun _ _ hl => hoff hl.1) fun _ _ hl => hoff hl.1

theorem ensures_verdict_off (h : Off w) (code : Nat) (isLocal : Bool) :
    Ensures (onVerdict token answers code isLocal) w (fun _ t => Off t) fun _ t => Off t := by
  unfold onVerdict
  split
  · rw [ensures_bind, ensures_modify]
    have hoff : Off { w with revoked := true, lastError := some GATEWAY_TOKEN_REVOKED } :=
      ⟨⟨h.fielded, h.live, h.lawful⟩, h.stopped, h.socket, h.armed, h.permit⟩
    exact ensures_off hoff _
  · rw [ensures_bind]
    unfold callIf
    split
    · exact (ensures_off h _).mono (fun _ t ht => off_scheduleReconnect ht) fun _ t ht => ht
    · exact off_scheduleReconnect h

/-- **A verdict on a machine that runs on**: a refusal ends the link, and every other close is followed by a reconnect. -/
theorem ensures_verdict {code : Nat} {isLocal : Bool} {p : Permit} (h : Bare w false p)
    (hp : p = if !isLocal && code == revokedCode then .refused else .on)
    (hthrow : isLocal = false → code = supersededCode → (answers.reaction .superseded).throws = true →
      (answers.reaction .superseded).stops = true) :
    Ensures (onVerdict token answers code isLocal) w (fun _ t => Place t) fun _ t => Place t := by
  unfold onVerdict
  split
  · rename_i hcode
    rw [if_pos hcode] at hp
    subst hp
    rw [ensures_bind, ensures_modify]
    have hbare : Bare { w with revoked := true, lastError := some GATEWAY_TOKEN_REVOKED } true .refused :=
      ⟨⟨h.fielded, h.live, h.lawful⟩, h.stopped, rfl, h.socket, h.armed, h.permit⟩
    exact ensures_call_place (.refused hbare) _
  · rename_i hcode
    rw [if_neg hcode] at hp
    subst hp
    rw [ensures_bind]
    unfold callIf
    split
    · rename_i hsuperseded
      simp only [Bool.and_eq_true, Bool.not_eq_true', beq_iff_eq] at hsuperseded
      refine (ensures_call h.toTidy _).mono (fun _ t hl => ?_) fun _ t hl =>
        .off (hl.1.off (hthrow hsuperseded.1 hsuperseded.2 hl.2))
      rw [ensures_modify]
      cases hs : (answers.reaction .superseded).stops with
      | true => exact .off (off_scheduleReconnect (hl.1.off hs))
      | false => exact place_scheduleReconnect (h.drift (hl.1.drift hs))
    · exact place_scheduleReconnect h

/-- **A close path that gets to its end** leaves the machine in a place. -/
theorem ensures_onClose {code : Nat} {reason : String} {isLocal : Bool} {p : Permit} (h : Going w p)
    (hp : p = if !isLocal && code == revokedCode then .refused else .on) (hc : Closes answers w.welcomed code reason isLocal) :
    Ensures (onClose token answers code reason isLocal) w (fun _ t => Place t) fun _ t => Place t := by
  unfold onClose
  rw [ensures_bind, ensures_get, ensures_bind, ensures_set, ensures_bind]
  refine (ensures_disconnected h.cleared hc.disconnected).mono (fun _ t ht => ?_) fun _ t ht => .off ht.1
  rcases ht with ⟨hoff, -, -⟩ | ⟨hbare, hstops⟩
  · exact (ensures_verdict_off hoff code isLocal).mono (fun _ t ht => .off ht) fun _ t ht => .off ht
  · refine ensures_verdict hbare hp fun hl hcode hthrows => ?_
    rcases hc.superseded hl hcode hthrows with hs | ⟨hw, hs⟩
    · exact hs
    · rw [hstops hw] at hs
      cases hs

/-! ## The events of a link -/

variable {s : Nat} {timeout beat : Option Nat}

theorem Linked.going (h : Linked w s timeout beat) : Going (release w s) .on := by
  rw [release_own h.live h.socket]
  exact ⟨h.fielded, rfl, h.lawful, h.stopped, h.revoked, h.permit⟩

theorem ensures_dropSocket (h : Linked w s timeout beat) {code : Nat} {reason : String} (hc : Closes answers w.welcomed code reason true) :
    Ensures (dropSocket token answers s code reason) w (fun _ t => Place t) fun _ t => Place t := by
  unfold dropSocket
  have hsocket : (release w s).socket = some s := h.socket
  rw [ensures_bind, ensures_modify, ensures_bind, ensures_get, if_pos hsocket]
  exact ensures_onClose h.going (by simp) ⟨hc.disconnected, hc.superseded⟩

/-- A connect timeout of a link without a welcome closes it; nobody is told of the close. -/
theorem ensures_onConnectTimeout (h : Linked w s timeout beat) :
    Ensures (onConnectTimeout token answers s) w (fun _ t => Place t) fun _ t => Place t := by
  unfold onConnectTimeout
  rw [ensures_bind, ensures_get]
  split
  · rename_i hw
    rw [ensures_bind, ensures_modify]
    have hlinked := h.drift (drift_told w w.welcomed w.attempts w.missedPongs (some "connect timeout") w.lastConnectedAt
      w.botUsername w.pending)
    refine ensures_dropSocket hlinked ⟨fun hwelcomed => ?_, fun hl => (Bool.false_ne_true hl.symm).elim⟩
    exact absurd (hw.2.symm.trans hwelcomed) (by decide)
  · exact .linked s timeout beat h

theorem ensures_onHeartbeat (h : Linked w s timeout beat)
    (hc : maxMissedPongs ≤ w.missedPongs → Closes answers w.welcomed 4002 "heartbeat lost" true) :
    Ensures (onHeartbeat token answers s) w (fun _ t => Place t) fun _ t => Place t := by
  unfold onHeartbeat
  rw [ensures_bind, ensures_get, if_pos h.socket]
  split
  · rename_i hmissed
    rw [ensures_bind, ensures_modify]
    have hlinked := h.drift (drift_told w w.welcomed w.attempts w.missedPongs (some "heartbeat lost") w.lastConnectedAt
      w.botUsername w.pending)
    exact ensures_dropSocket hlinked ⟨(hc hmissed).disconnected, (hc hmissed).superseded⟩
  · rw [ensures_bind, ensures_modify]
    have hlinked := h.drift (drift_told w w.welcomed w.attempts (w.missedPongs + 1) w.lastError w.lastConnectedAt
      w.botUsername w.pending)
    exact (drift_raw answers.sending).mono (fun _ _ hd => .linked s timeout beat (hlinked.drift hd))
      fun _ _ hd => .linked s timeout beat (hlinked.drift hd)

/-- **The heartbeat of a link without one** is started. -/
theorem place_startHeartbeat (ht : Linked t s timeout none) : Place (startHeartbeat s t) := by
  have harmed : t.armed ++ [⟨t.handles, .heartbeat s⟩] = linkTimers s timeout (some t.handles) := by
    rw [ht.armed]
    unfold linkTimers
    simp
  exact .linked s timeout (some t.handles) ⟨⟨fielded_link harmed ht.timeout fun _ h => h, ht.live, ht.lawful⟩, ht.stopped,
    ht.revoked, ht.socket, harmed, ht.timeout, fun _ h => h, ht.permit⟩

/-- An open starts the heartbeat, if the first frame can be sent. -/
theorem ensures_onOpen (h : Linked w s timeout beat) (hc : answers.sending = .sent → beat = none) :
    Ensures (onOpen token answers s) w (fun _ t => Place t) fun _ t => Place t := by
  unfold onOpen
  rw [ensures_bind, ensures_get, if_pos h.socket, ensures_bind]
  cases hsending : answers.sending with
  | unmade => exact .linked s timeout beat h
  | threw message => exact .linked s timeout beat (h.drift (drift_told w ..))
  | sent =>
    obtain rfl := hc hsending
    exact place_startHeartbeat (h.drift (drift_mark rfl))

/-- Clearing the connect timeout of a link leaves no timer but the heartbeat. -/
theorem filter_linkTimers {c : Option Nat} (h : ∀ handle, timeout = some handle → c = some handle) :
    ∃ beat', (∀ handle, beat' = some handle → beat = some handle) ∧
      (linkTimers s timeout beat).filter (fun t => some t.handle ≠ c) = linkTimers s none beat' := by
  have htimeout : (timeout.map fun h => Timer.mk h (.connectTimeout s)).toList.filter (fun t => some t.handle ≠ c) = [] := by
    cases timeout with
    | none => rfl
    | some a => simp [h a rfl]
  unfold linkTimers
  rw [List.filter_append, htimeout]
  cases beat with
  | none => exact ⟨none, fun _ h => h, rfl⟩
  | some b =>
    by_cases hb : some b = c
    · subst hb
      exact ⟨none, fun _ h => (Option.some_ne_none _ h.symm).elim, by simp⟩
    · exact ⟨some b, fun _ h => h, by simp [hb]⟩

theorem linked_cancel (h : Linked w s timeout beat) {c : Option Nat} (hc : ∀ handle, timeout = some handle → c = some handle)
    (connectTimer : Option Nat) : ∃ beat', Linked { cancel w c with connectTimer } s none beat' := by
  obtain ⟨beat', hbeat', harmed⟩ := filter_linkTimers (s := s) hc
  rw [← h.armed] at harmed
  have htimeout : ∀ handle, (none : Option Nat) = some handle → connectTimer = some handle :=
    fun _ hn => (Option.some_ne_none _ hn.symm).elim
  have hbeat : ∀ handle, beat' = some handle → w.heartbeat = some handle := fun handle hb => h.beat handle (hbeat' handle hb)
  exact ⟨beat', ⟨fielded_link harmed htimeout hbeat, h.live, h.lawful⟩, h.stopped, h.revoked, h.socket, harmed, htimeout,
    hbeat, h.permit⟩

/-- The session is established: the connect timeout is over. -/
theorem linked_welcomedBy (h : Linked w s timeout beat) (now botUsername : String) :
    ∃ beat', Linked (welcomedBy now botUsername w) s none beat' := by
  have hdrift := drift_told w true 0 w.missedPongs none (some now) (if botUsername = "" then none else some botUsername)
    w.pending
  exact linked_cancel (h.drift hdrift) h.timeout none

theorem ensures_onMessage (h : Linked w s timeout beat) (message : Message) :
    Ensures (onMessage token answers s message) w (fun _ t => Place t) fun _ t => Place t := by
  have hplace : Place w := .linked s timeout beat h
  cases message with
  | pong => exact hplace.drift (drift_told w _ _ _ _ _ _ _)
  | ping => exact (drift_raw answers.sending).mono (fun _ _ hd => hplace.drift hd) fun _ _ hd => hplace.drift hd
  | undecoded => exact hplace
  | welcome paired telegram botUsername =>
    obtain ⟨beat', hlinked⟩ := linked_welcomedBy h answers.now botUsername
    unfold onMessage
    rw [ensures_bind, ensures_modify, ensures_bind]
    exact (ensures_call_place (.linked s none beat' hlinked) _).mono (fun _ t ht => ensures_call_place ht _)
      fun _ t ht => ht
  | paired telegram pairedAt => exact ensures_call_place hplace _
  | unpaired reason => exact ensures_call_place hplace _
  | command command =>
    unfold onMessage
    rw [ensures_bind, ensures_attempt]
    have hpending : ∀ {t : World}, Place t → Place { t with pending := t.pending ++ [(s, command.requestId)] } :=
      fun ht => ht.drift (drift_told _ _ _ _ _ _ _ _)
    exact (ensures_call_place hplace _).mono (fun _ t ht => hpending ht) fun _ t ht => hpending ht
  | error => exact hplace

/-- A close from the other side: a refusal is noted before the callbacks are called. -/
theorem going_closed (h : Linked w s timeout beat) (code : Nat) :
    Going (if code = revokedCode then (release w s).mark (.refused s) else release w s)
      (if code = revokedCode then .refused else .on) := by
  have hg := h.going
  by_cases hcode : code = revokedCode
  · rw [if_pos hcode, if_pos hcode]
    exact ⟨hg.fielded, hg.live, hg.lawful.snoc (by simp), hg.stopped, hg.revoked, permit_snoc ..⟩
  · rw [if_neg hcode, if_neg hcode]
    exact hg

theorem welcomed_closed (s code : Nat) :
    (if code = revokedCode then (release w s).mark (.refused s) else release w s).welcomed = w.welcomed := by
  split
  · rfl
  · rfl

/-! ## Steps -/

theorem ensures_reconnect {handle : Nat} (h : Waiting w handle) : Place
    (connect token answers { cancel w (some handle) with reconnect := none }) := by
  have harmed : (cancel w (some handle)).armed = [] := by
    unfold cancel
    dsimp only
    rw [h.armed]
    simp
  exact place_connect ⟨fielded_of_empty harmed, h.live, h.lawful⟩ h.stopped h.revoked h.socket h.permit

theorem ensures_fire (h : Place w) {handle : Nat} (hc : ∀ t socket, w.armed.find? (fun t => t.handle = handle) = some t →
      t.task = .heartbeat socket → maxMissedPongs ≤ w.missedPongs → Closes answers w.welcomed 4002 "heartbeat lost" true) :
    Ensures (fire token answers handle) w (fun _ t => Place t) fun _ t => Place t := by
  unfold fire
  rw [ensures_bind, ensures_get]
  cases hfind : w.armed.find? (fun t => t.handle = handle) with
  | none => exact h
  | some timer =>
    have hmem := List.mem_of_find?_eq_some hfind
    have hhandle : timer.handle = handle := by simpa using List.find?_some hfind
    cases h with
    | off h => exact absurd (h.armed ▸ hmem) List.not_mem_nil
    | refused h => exact absurd (h.armed ▸ hmem) List.not_mem_nil
    | waiting own h =>
      obtain rfl := List.mem_singleton.1 (h.armed ▸ hmem)
      obtain rfl : own = handle := hhandle
      exact ensures_reconnect h
    | linked s timeout beat h =>
      rcases mem_linkTimers.1 (h.armed ▸ hmem) with ⟨own, htimeout, rfl⟩ | ⟨own, hbeat, rfl⟩
      · obtain rfl : own = handle := hhandle
        obtain ⟨beat', hlinked⟩ := linked_cancel h (c := some own) (fun handle hh => by rw [← htimeout, hh]) w.connectTimer
        exact ensures_onConnectTimeout hlinked
      · exact ensures_onHeartbeat h (hc _ s hfind rfl)

/-- A socket that is released and is not the current one was not live any more. -/
theorem release_other (h : Place w) {socket : Nat} (hs : w.socket ≠ some socket) : release w socket = w := by
  have hlive := h.tidy.live
  unfold release
  cases hw : w.socket with
  | none =>
    rw [hw] at hlive
    have hnil : w.live = [] := hlive
    rw [hnil, List.filter_nil, ← hnil]
  | some s =>
    rw [hw] at hlive hs
    have hne : s ≠ socket := fun h => hs (by rw [h])
    have hone : w.live = [s] := hlive
    rw [hone, List.filter_cons_of_pos (by simpa using hne), List.filter_nil, ← hone]

theorem place_start (h : Place w) : Place (start token answers w) := by
  unfold start
  dsimp only
  cases hs : w.stopped with
  | true =>
    have hoff := h.off_of_stopped hs
    have hstopped : (w.mark .start).stopped = true := hs
    have hpermit : permit (w.log ++ [.start]) = .on := by
      rw [permit_snoc, hoff.permit]
      rfl
    rw [if_pos hstopped]
    exact place_connect ⟨hoff.fielded, hoff.live, hoff.lawful.snoc (by simp)⟩ rfl rfl hoff.socket hpermit
  | false =>
    have hrunning : ¬ (w.mark .start).stopped = true := by
      rw [show (w.mark .start).stopped = false from hs]
      decide
    rw [if_neg hrunning]
    exact h.mark (if_neg (h.permit_of_running hs)) (by simp)

/-- **Every event leaves the machine in a place**, if it completes. -/
theorem place_step (h : Place w) {e : Event} (hc : Completes w e) : Place (step token w e) := by
  obtain ⟨occurrence, answers⟩ := e
  unfold step
  refine Ensures.final ?_
  cases occurrence with
  | start => exact place_start h
  | stop => exact Place.off (off_stop h.tidy)
  | send out isOpen => exact h.drift (drift_sendAsync out isOpen answers.sending)
  | fire handle => exact ensures_fire h hc
  | opened socket =>
    by_cases hs : w.socket = some socket
    · obtain ⟨timeout, beat, hlinked⟩ := h.linked_of_socket hs
      refine ensures_onOpen hlinked fun hsent => ?_
      cases beat with
      | none => rfl
      | some b =>
        have hmem : (⟨b, .heartbeat socket⟩ : Timer) ∈ w.armed := by
          rw [hlinked.armed]
          exact mem_linkTimers.2 (.inr ⟨b, rfl, rfl⟩)
        exact absurd rfl (hc hs hsent _ hmem)
    · show Ensures (onOpen token answers socket) w _ _
      unfold onOpen
      rw [ensures_bind, ensures_get, if_neg hs]
      exact h
  | message socket message =>
    show Ensures (handler token answers (.message socket message)) w _ _
    unfold handler
    rw [ensures_bind, ensures_get]
    split
    · rename_i hs
      obtain ⟨timeout, beat, hlinked⟩ := h.linked_of_socket hs
      exact ensures_onMessage hlinked message
    · exact h
  | errored socket message =>
    show Place (if w.socket = some socket then { w with lastError := some (scrub token (message.getD "socket error")) } else w)
    split
    · exact h.drift (drift_told w ..)
    · exact h
  | closed socket code reason =>
    show Ensures (handler token answers (.closed socket code reason)) w _ _
    unfold handler
    rw [ensures_bind, ensures_get, ensures_bind, ensures_modify]
    split
    · rename_i hs
      obtain ⟨timeout, beat, hlinked⟩ := h.linked_of_socket hs
      rw [ensures_bind, ensures_modify]
      exact ensures_onClose (going_closed hlinked code) (by simp) ((welcomed_closed socket code).symm ▸ hc hs)
    · rename_i hs
      rw [ensures_pure, release_other h hs]
      exact h
  | answered socket requestId reply =>
    show Place (onAnswer token answers socket requestId reply w)
    unfold onAnswer
    split
    · have htaken : Drift w { w with pending := w.pending.erase (socket, requestId) } := drift_told w ..
      dsimp only
      split
      · exact h.drift htaken
      · exact (h.drift htaken).drift (drift_raw answers.sending).final
      · exact (h.drift htaken).drift (drift_raw answers.sending).final
    · exact h

/-! ## What a place promises -/

/-- **A socket that is not the current one** does nothing. -/
theorem step_superseded (h : Place w) {e : Event} {socket : Nat} (he : socketOf e.occurrence = some socket)
    (hs : w.socket ≠ some socket) : step token w e = w := by
  obtain ⟨occurrence, answers⟩ := e
  cases occurrence with
  | start | stop | send | fire | answered => cases he
  | opened s =>
    cases he
    show ((onOpen token answers socket).exec w).2 = w
    unfold onOpen
    rw [exec_get_bind, if_neg hs]
    rfl
  | message s message =>
    cases he
    unfold step handler
    rw [exec_get_bind, if_neg hs]
    rfl
  | errored s message =>
    cases he
    exact if_neg hs
  | closed s code reason =>
    cases he
    unfold step handler
    rw [exec_get_bind, exec_modify_bind, if_neg hs]
    exact release_other h hs

/-- A kind of timer of which a link has at most one is armed at most once in every place. -/
theorem Place.armedOf_le (h : Place w) {kind : Task → Bool}
    (hk : ∀ s, (kind (.connectTimeout s) && kind (.heartbeat s)) = false) : armedOf w kind ≤ 1 := by
  unfold armedOf
  cases h with
  | off h =>
    rw [h.armed]
    exact Nat.zero_le 1
  | refused h =>
    rw [h.armed]
    exact Nat.zero_le 1
  | waiting handle h =>
    rw [h.armed]
    exact List.countP_le_length
  | linked s timeout beat h =>
    have hs := hk s
    rw [h.armed]
    unfold linkTimers
    cases timeout with
    | none => cases beat with
      | none => exact Nat.zero_le 1
      | some b => exact List.countP_le_length
    | some a => cases beat with
      | none => exact List.countP_le_length
      | some b =>
        cases hc : kind (.connectTimeout s) with
        | false => simp [hc]; split <;> simp
        | true =>
          rw [hc, Bool.true_and] at hs
          simp [hc, hs]

theorem Place.sound (h : Place w) : Sound token w := by
  have hlaw := h.tidy.lawful
  have hpermitted : ∀ a m b c socket, w.log = a ++ m :: (b ++ .created socket :: c) →
      b.foldl Permit.next ((permit a).next m) = .on := by
    intro a m b c socket hlog
    have hon := hlaw (a ++ m :: b) socket c (by rw [hlog, List.append_assoc, List.cons_append])
    rwa [permit_append] at hon
  refine ⟨?_, h.armedOf_le fun _ => rfl, h.armedOf_le fun _ => rfl, h.armedOf_le fun _ => rfl, ?_,
    fun e socket he hs => step_superseded h he hs,
    fun a b c socket hlog => start_of_permit (p := .off) (by decide) (hpermitted a .stop b c socket hlog),
    fun a b c socket old hlog => restart_of_permit (hpermitted a (.refused old) b c socket hlog), fun hs hr => ?_⟩
  · rw [h.tidy.live]
    cases w.socket with
    | none => exact Nat.zero_le 1
    | some s => exact le_refl 1
  · intro timer hmem
    cases h with
    | off h => exact absurd (h.armed ▸ hmem) List.not_mem_nil
    | refused h => exact absurd (h.armed ▸ hmem) List.not_mem_nil
    | waiting handle h =>
      obtain rfl := List.mem_singleton.1 (h.armed ▸ hmem)
      exact h.socket
    | linked s timeout beat h =>
      rcases mem_linkTimers.1 (h.armed ▸ hmem) with ⟨_, -, rfl⟩ | ⟨_, -, rfl⟩
      · exact h.socket
      · exact h.socket
  · cases h with
    | off h => exact absurd (h.stopped.symm.trans hs) (by decide)
    | refused h => exact absurd (h.revoked.symm.trans hr) (by decide)
    | waiting handle h => exact .inr ⟨⟨handle, .reconnect⟩, by rw [h.armed]; exact List.mem_singleton_self _, rfl⟩
    | linked s timeout beat h => exact .inl (by rw [h.socket]; rfl)

/-! ## What breaks off -/

/-- **A close path that is broken off** leaves a machine that runs, with no connection and no timer. -/
theorem ensures_lost {code : Nat} {reason : String} {isLocal : Bool} {p : Permit} (h : Going w p)
    (hc : ¬ Closes answers w.welcomed code reason isLocal) :
    Ensures (onClose token answers code reason isLocal) w (fun _ _ => False) fun _ t => Bare t false p := by
  unfold onClose
  rw [ensures_bind, ensures_get, ensures_bind, ensures_set, ensures_bind]
  by_cases hd : w.welcomed = true → (answers.reaction (.disconnected (closeReason code reason))).throws = true →
      (answers.reaction (.disconnected (closeReason code reason))).stops = true
  · have hsuperseded : isLocal = false ∧ code = supersededCode ∧ (answers.reaction .superseded).throws = true ∧
        (answers.reaction .superseded).stops = false ∧
        ¬ (w.welcomed = true ∧ (answers.reaction (.disconnected (closeReason code reason))).stops = true) := by
      by_contra hn
      refine hc ⟨hd, fun hl hcode ht => ?_⟩
      by_contra hboth
      obtain ⟨hstops, hfirst⟩ := not_or.1 hboth
      exact hn ⟨hl, hcode, ht, by simpa using hstops, hfirst⟩
    obtain ⟨rfl, rfl, hthrows, hstops, hfirst⟩ := hsuperseded
    refine (ensures_disconnected h.cleared hd).mono (fun _ t ht => ?_) fun _ t ht => absurd ht.2 hfirst
    rcases ht with ⟨-, hw, hs⟩ | ⟨hbare, -⟩
    · exact absurd ⟨hw, hs⟩ hfirst
    · unfold onVerdict
      rw [if_neg (by decide), ensures_bind]
      refine (ensures_call hbare.toTidy .superseded).mono (fun _ _ hl => ?_) fun _ _ hl => hbare.drift (hl.1.drift hstops)
      exact absurd (hl.2.symm.trans hthrows) (by decide)
  · push Not at hd
    obtain ⟨hwelcomed, hthrows, hstops⟩ := hd
    rw [hwelcomed]
    have hbare := h.cleared
    refine (ensures_call hbare.toTidy _).mono (fun _ _ hl => ?_) fun _ _ hl =>
      hbare.drift (hl.1.drift (by simpa using hstops))
    exact absurd (hl.2.symm.trans hthrows) (by decide)

theorem not_sound_of_bare {p : Permit} (h : Bare w false p) : ¬ Sound token w := by
  intro hs
  rcases hs.comesBack h.stopped h.revoked with hsocket | ⟨t, ht, -⟩
  · rw [h.socket] at hsocket
    cases hsocket
  · rw [h.armed] at ht
    cases ht

theorem not_sound_of_lost {x : Script World Unit Unit} {p : Permit}
    (h : Ensures x w (fun _ _ => False) fun _ t => Bare t false p) : ¬ Sound token (x.exec w).2 :=
  (h.mono (fun _ _ hf => hf.elim) fun _ _ hb => not_sound_of_bare hb).final

theorem not_sound_onOpen (h : Linked w s timeout beat) (hsending : answers.sending = .sent)
    (hbeat : ∃ t ∈ w.armed, t.task = .heartbeat s) : ¬ Sound token ((onOpen token answers s).exec w).2 := by
  intro hs
  obtain ⟨timer, hmem, htask⟩ := hbeat
  have hpos : 0 < armedOf w Task.isHeartbeat := List.countP_pos_iff.2 ⟨timer, hmem, by rw [htask]; rfl⟩
  have hone := hs.oneHeartbeat
  unfold onOpen at hone
  rw [exec_get_bind, if_pos h.socket, hsending] at hone
  have htwo : armedOf (startHeartbeat s (w.mark (.sent s .hello))) Task.isHeartbeat ≤ 1 := hone
  have hmore : armedOf (startHeartbeat s (w.mark (.sent s .hello))) Task.isHeartbeat = armedOf w Task.isHeartbeat + 1 :=
    List.countP_append
  omega

theorem ensures_dropSocket_lost (h : Linked w s timeout beat) {code : Nat} {reason : String}
    (hc : ¬ Closes answers w.welcomed code reason true) :
    Ensures (dropSocket token answers s code reason) w (fun _ _ => False) fun _ t => Bare t false .on := by
  unfold dropSocket
  have hsocket : (release w s).socket = some s := h.socket
  rw [ensures_bind, ensures_modify, ensures_bind, ensures_get, if_pos hsocket]
  exact ensures_lost h.going hc

/-- **An event that does not complete** leaves the machine in none of the places. -/
theorem not_sound_step (h : Place w) {e : Event} (hc : ¬ Completes w e) : ¬ Sound token (step token w e) := by
  obtain ⟨occurrence, answers⟩ := e
  unfold Completes at hc
  cases occurrence with
  | start | stop | send | message | errored | answered => exact absurd trivial hc
  | opened socket =>
    dsimp only at hc
    push Not at hc
    obtain ⟨hs, hsent, hbeat⟩ := hc
    obtain ⟨timeout, beat, hlinked⟩ := h.linked_of_socket hs
    exact not_sound_onOpen hlinked hsent hbeat
  | closed socket code reason =>
    dsimp only at hc
    rw [Classical.not_imp] at hc
    obtain ⟨hs, hcloses⟩ := hc
    obtain ⟨timeout, beat, hlinked⟩ := h.linked_of_socket hs
    refine not_sound_of_lost (p := if code = revokedCode then .refused else .on) ?_
    show Ensures (handler token answers (.closed socket code reason)) w _ _
    unfold handler
    rw [ensures_bind, ensures_get, ensures_bind, ensures_modify, if_pos hs, ensures_bind, ensures_modify]
    exact ensures_lost (going_closed hlinked code) fun hn => hcloses (welcomed_closed socket code ▸ hn)
  | fire handle =>
    dsimp only at hc
    push Not at hc
    obtain ⟨⟨own, task⟩, socket, hfind, htask, hmissed, hcloses⟩ := hc
    obtain rfl : task = .heartbeat socket := htask
    have hmem := List.mem_of_find?_eq_some hfind
    have hsocket : w.socket = some socket := (h.sound : Sound token w).current _ hmem
    obtain ⟨timeout, beat, hlinked⟩ := h.linked_of_socket hsocket
    refine not_sound_of_lost (p := .on) ?_
    show Ensures (fire token answers handle) w _ _
    unfold fire
    rw [ensures_bind, ensures_get, hfind]
    show Ensures (onHeartbeat token answers socket) w _ _
    unfold onHeartbeat
    rw [ensures_bind, ensures_get, if_pos hsocket, if_pos hmissed, ensures_bind, ensures_modify]
    have hdrift := hlinked.drift (drift_told w w.welcomed w.attempts w.missedPongs (some "heartbeat lost") w.lastConnectedAt
      w.botUsername w.pending)
    exact ensures_dropSocket_lost hdrift hcloses

/-! ## Runs -/

theorem place_booted : Place booted :=
  .off ⟨⟨fielded_of_empty rfl, rfl, lawful_nil⟩, rfl, rfl, rfl, rfl⟩

theorem place_run {es : List Event} (h : Along (step token) Completes booted es) : Place (after (step token) booted es) := by
  induction es using List.reverseRecOn with
  | nil => exact place_booted
  | append_singleton es e ih =>
    obtain ⟨hes, he⟩ := along_snoc.1 h
    rw [after_snoc]
    exact place_step (ih hes) he

/-- **One socket, one timer of each kind, no way around a stop or a refusal, and a way back**: a run keeps all of it in every
state it reaches exactly when no event of it breaks off the close path or opens a socket twice. -/
theorem sound_iff (token : String) (es : List Event) :
    (∀ pre, pre <+: es → Sound token (after (step token) booted pre)) ↔ Along (step token) Completes booted es := by
  constructor
  · intro hsound
    induction es using List.reverseRecOn with
    | nil => trivial
    | append_singleton es e ih =>
      have hes := ih fun pre hpre => hsound pre (hpre.trans (List.prefix_append es [e]))
      refine along_snoc.2 ⟨hes, ?_⟩
      by_contra hc
      have hlast := hsound _ (List.prefix_refl _)
      rw [after_snoc] at hlast
      exact not_sound_step (place_run hes) hc hlast
  · rintro h pre ⟨post, rfl⟩
    refine (place_run (along_iff.2 fun front e back hfront => ?_)).sound
    exact along_iff.1 h front e (back ++ post) (by rw [hfront, List.append_assoc, List.cons_append])

end

/-! ### An owner that throws -/

/-- Another client takes the slot, and the audit entry about it cannot be written. -/
def supersededLink : List Event :=
  let answers : Answers := ⟨.ok (), .sent, "2026-01-01T00:00:00.000Z", fun callback => ⟨[], callback == .superseded⟩⟩
  [⟨.start, answers⟩, ⟨.opened 0, answers⟩, ⟨.message 0 (.welcome false none "atra_bot"), answers⟩,
    ⟨.closed 0 4001 "superseded", answers⟩]

/-- **A link that never comes back**: it is neither stopped nor revoked, and nothing is left that could connect it. -/
theorem superseded_link_lost : ¬ ∀ (token : String) (es : List Event), Sound token (after (step token) booted es) := by
  intro h
  have hlost : (after (step "token") booted supersededLink).stopped = false ∧
      (after (step "token") booted supersededLink).revoked = false ∧
      (after (step "token") booted supersededLink).socket = none ∧
      (after (step "token") booted supersededLink).armed = [] := by
    decide +kernel
  obtain ⟨hstopped, hrevoked, hsocket, harmed⟩ := hlost
  rcases (h "token" supersededLink).comesBack hstopped hrevoked with hs | ⟨t, ht, -⟩
  · rw [hsocket] at hs
    cases hs
  · rw [harmed] at ht
    cases ht

end Transport
end Atra
