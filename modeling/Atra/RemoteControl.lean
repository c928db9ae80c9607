import Atra.CommandRouter
/-!
# RemoteControl — histories of messages, and who moved the switches

Messages of anyone over either transport, between them the dashboard, the gateway's word on pairings and restarts of the process.
Whatever a message does to the switches it does past every gate (`Effect`); a challenge is in memory only while it was issued and
not used since (`challenge_since`).
-/
namespace Atra
namespace CommandRouter

open History

/-! ## What one message does -/

/-- Past every gate of a control command: not a replay, recent, of the linked user in the linked chat, within both limits. -/
structure MayControl (s : Remote) (c : InboundCommand) (now : Int) : Prop where
  fresh : isReplay s c = false
  age : now - c.receivedAt ≤ maxMessageAgeMs
  linked : ∃ l, s.pairing.link = some l ∧ l.userId = c.telegram.userId ∧ l.chatId = c.telegram.chatId
  perUser : (s.perUser.take perUserPerMinute MINUTE_MS c.telegram.userId now).2.1 = true
  control : (s.control.take controlPerMinute MINUTE_MS c.telegram.userId now).2.1 = true

/-- The text is a confirmation of the emergency stop. -/
def isConfirm (r : CommandRouter) (c : InboundCommand) : Prop :=
  ∃ args, parseCommand r.host.toHost c.text = some ⟨"emergency", args⟩ ∧
    r.host.toUpperCase (args.head?.getD "") = "CONFIRM"

/-- What a message past the replay check does to the switches and the challenge. -/
inductive Effect (r : CommandRouter) (s : Remote) (c : InboundCommand) (now : Int) (may : Prop) : Remote × Handled → Prop
  | quiet {out : Remote × Handled} (hcursors : out.1.cursors = s.cursors) (hcontrols : out.1.controls = s.controls)
      (hchallenge : out.1.emergencyChallenge = s.emergencyChallenge ∨ out.1.emergencyChallenge = none) :
      Effect r s c now may out
  | paused {out : Remote × Handled} (hmay : may) (on : Bool) (reason : Option String)
      (hcursors : out.1.cursors = s.cursors) (hcontrols : out.1.controls = StateStore.setGlobalPause s.controls on reason)
      (hchallenge : out.1.emergencyChallenge = s.emergencyChallenge) : Effect r s c now may out
  | challenged {out : Remote × Handled} (hmay : may) (hcursors : out.1.cursors = s.cursors)
      (hcontrols : out.1.controls = s.controls) (hchallenge : out.1.emergencyChallenge = some ⟨c.telegram.userId, now⟩)
      (hreply : out.2 = .done .ok (some CHALLENGE_REPLY)) : Effect r s c now may out
  | engaged {out : Remote × Handled} (hmay : may) (hconfirm : isConfirm r c) (hstands : challengeStands s c now = true)
      (reason : Option String) (hcursors : out.1.cursors = s.cursors)
      (hcontrols : out.1.controls = StateStore.setEmergencyStop s.controls true reason)
      (hchallenge : out.1.emergencyChallenge = none) : Effect r s c now may out

section
variable {r : CommandRouter} {s : Remote} {c : InboundCommand} {now : Int} {may : Prop}

theorem Effect.same (o : Handled) : Effect r s c now may (s, o) := .quiet rfl rfl (.inl rfl)

theorem pause_effect (hmay : may) : Effect r s c now may (pause s c) := by
  unfold pause
  split
  · exact .same _
  · exact .paused hmay true _ rfl rfl rfl

theorem resume_effect (hmay : may) : Effect r s c now may (resume s) := by
  unfold resume
  split
  · exact .same _
  · split
    · exact .same _
    · exact .paused hmay false _ rfl rfl rfl

theorem emergency_effect {args : List String} (hmay : may)
    (hp : parseCommand r.host.toHost c.text = some ⟨"emergency", args⟩) :
    Effect r s c now may (emergency r.host s c args now) := by
  unfold emergency
  dsimp only
  split
  · exact .same _
  · split
    · exact .same _
    · split
      · rename_i hconfirm
        unfold confirmEmergency
        dsimp only
        split
        · rename_i hstands
          exact .engaged hmay ⟨args, hp, hconfirm⟩ hstands _ rfl rfl rfl
        · exact .quiet rfl rfl (.inr rfl)
      · exact .challenged hmay rfl rfl rfl rfl

theorem alerts_effect {args : List String} : Effect r s c now may (alerts r.host.toHost s args) := by
  unfold alerts
  dsimp only
  split
  · exact .quiet rfl rfl (.inl rfl)
  · split
    · exact .same _
    · exact .same _

theorem dispatch_effect {parsed : ParsedCommand} (hmay : isControl (some parsed) = true → may)
    (hp : parseCommand r.host.toHost c.text = some parsed) : Effect r s c now may (dispatch r s c parsed now) := by
  obtain ⟨word, args⟩ := parsed
  unfold dispatch
  split
  · exact .same _
  · dsimp only
    split
    · exact .same _
    · exact .same _
    · exact alerts_effect
    · exact pause_effect (hmay rfl)
    · exact resume_effect (hmay rfl)
    · exact emergency_effect (hmay rfl) hp
    · exact .same _

theorem admitted_effect {parsed : Option ParsedCommand} (hmay : isControl parsed = true → may)
    (hp : parseCommand r.host.toHost c.text = parsed) : Effect r s c now may (admitted r s c parsed now) := by
  unfold admitted
  cases parsed with
  | none => exact .same _
  | some p =>
    dsimp only
    split
    · exact .same _
    · exact dispatch_effect hmay hp

/-- The windows and the pairing have no part in it. -/
theorem Effect.carry {s' : Remote} {out : Remote × Handled} (h : Effect r s' c now may out)
    (hcursors : s'.cursors = s.cursors) (hcontrols : s'.controls = s.controls)
    (hchallenge : s'.emergencyChallenge = s.emergencyChallenge) : Effect r s c now may out := by
  cases h with
  | quiet h1 h2 h3 =>
    rw [hchallenge] at h3
    exact .quiet (h1.trans hcursors) (h2.trans hcontrols) h3
  | paused hmay on reason h1 h2 h3 =>
    rw [hcontrols] at h2
    exact .paused hmay on reason (h1.trans hcursors) h2 (h3.trans hchallenge)
  | challenged hmay h1 h2 h3 h4 => exact .challenged hmay (h1.trans hcursors) (h2.trans hcontrols) h3 h4
  | engaged hmay hconfirm hstands reason h1 h2 h3 =>
    unfold challengeStands at hstands
    rw [hchallenge] at hstands
    rw [hcontrols] at h2
    exact .engaged hmay hconfirm hstands reason (h1.trans hcursors) h2 h3

theorem limitControl_effect {parsed : Option ParsedCommand}
    (hmay : (s.control.take controlPerMinute MINUTE_MS c.telegram.userId now).2.1 = true → may)
    (hp : parseCommand r.host.toHost c.text = parsed) : Effect r s c now may (limitControl r s c parsed now) := by
  unfold limitControl
  split
  · dsimp only
    split
    · rename_i htaken
      exact (admitted_effect (fun _ => hmay htaken) hp).carry rfl rfl rfl
    · exact .quiet rfl rfl (.inl rfl)
  · rename_i hnot
    exact admitted_effect (fun h => absurd h hnot) hp

theorem tryCode_effect {args : List String} : Effect r s c now may (tryCode r s c args now) := by
  unfold tryCode
  split
  · exact .same _
  · split
    · exact .quiet rfl rfl (.inl rfl)
    · exact .quiet rfl rfl (.inl rfl)

theorem pair_effect {args : List String} : Effect r s c now may (pair r s c args now) := by
  unfold pair
  split
  · exact .same _
  · dsimp only
    split
    · exact tryCode_effect.carry rfl rfl rfl
    · exact .quiet rfl rfl (.inl rfl)

theorem linked_of_authorized (h : authorized s c = true) :
    ∃ l, s.pairing.link = some l ∧ l.userId = c.telegram.userId ∧ l.chatId = c.telegram.chatId := by
  unfold authorized at h
  obtain ⟨l, hl, heq⟩ := (Option.any_eq_true _ _).1 h
  rw [Bool.and_eq_true, beq_iff_eq, beq_iff_eq] at heq
  exact ⟨l, hl, heq.1, heq.2⟩

/-- **What a message past the replay check and the age does.** -/
theorem identify_effect {parsed : Option ParsedCommand} (hp : parseCommand r.host.toHost c.text = parsed)
    (hmay : (∃ l, s.pairing.link = some l ∧ l.userId = c.telegram.userId ∧ l.chatId = c.telegram.chatId) →
      (s.perUser.take perUserPerMinute MINUTE_MS c.telegram.userId now).2.1 = true →
      (s.control.take controlPerMinute MINUTE_MS c.telegram.userId now).2.1 = true → may) :
    Effect r s c now may (identify r s c parsed now) := by
  unfold identify
  split
  · exact pair_effect
  · split
    · rename_i hauthorized
      unfold limitUser
      dsimp only
      split
      · rename_i huser
        have hcontrol : Effect r { s with
            perUser := (s.perUser.take perUserPerMinute MINUTE_MS c.telegram.userId now).1 } c now may _ :=
          limitControl_effect (hmay (linked_of_authorized hauthorized) huser) hp
        exact hcontrol.carry rfl rfl rfl
      · exact .quiet rfl rfl (.inl rfl)
    · unfold unauthorized
      exact .quiet rfl rfl (.inl rfl)

/-- **What a message does**: nothing where it is a replay, and otherwise its effect after the cursor has moved. -/
theorem handle_effect (r : CommandRouter) (s : Remote) (c : InboundCommand) (now : Int) :
    (isReplay s c = true ∧ handle r s c now = (s, .done .replayed none)) ∨
    (isReplay s c = false ∧ Effect r (setCursor s c.telegram.chatId c.updateId now) c now (MayControl s c now)
      (handle r s c now)) := by
  unfold handle
  cases hreplay : isReplay s c with
  | true =>
    rw [if_pos rfl]
    exact .inl ⟨rfl, rfl⟩
  | false =>
    rw [if_neg (by decide)]
    dsimp only
    refine .inr ⟨rfl, ?_⟩
    by_cases hstale : isStale c now = true
    · rw [if_pos hstale]
      exact .same _
    · rw [if_neg hstale]
      refine identify_effect rfl fun hlinked huser hcontrol => ⟨hreplay, ?_, hlinked, huser, hcontrol⟩
      unfold isStale at hstale
      rw [Bool.or_eq_true, decide_eq_true_eq, decide_eq_true_eq] at hstale
      omega

end

/-! ## Histories -/

/-- What happens to a process and its database: messages, each with the clock when it is handled, the dashboard's switches and
restarts, codes it issues, and what the gateway says of the pairing. -/
inductive RemoteEvent where
  | message (time : Int) (command : InboundCommand)
  | control (e : StateStore.Event)
  | issue (transport : TransportKind) (codeHash : String) (time : Int)
  | paired (identity : TelegramIdentity) (pairedAt time : Int)
  | unpair (time : Int)

/-- A process that was just started: its windows are empty, and no challenge stands. -/
def booted (controls : Controls) (pairing : Pairing) (cursors : Table ChatCursor.chatId) (alertsEnabled : Bool) : Remote :=
  ⟨controls, pairing, cursors, alertsEnabled, .fresh, .fresh, .fresh, .fresh, none⟩

def restarted (s : Remote) : Remote :=
  booted (StateStore.demoteOnBoot s.controls) s.pairing s.cursors s.alertsEnabled

/-- What is left of an issue that was refused. -/
def pairingAfter (s : Remote) (result : Result Pairing) : Remote :=
  match result with
  | .ok pairing => { s with pairing }
  | .error _ => s

def step (r : CommandRouter) (s : Remote) : RemoteEvent → Remote
  | .message time c => (r.handle s c time).1
  | .control e => match e.operation with
    | .restart => restarted s
    | _ => { s with controls := StateStore.step s.controls e }
  | .issue transport codeHash time => pairingAfter s (PairingService.issue s.pairing transport codeHash time)
  | .paired identity pairedAt time =>
    { s with pairing := PairingService.confirmFromGateway s.pairing identity pairedAt time }
  | .unpair time => { s with pairing := PairingService.unpair s.pairing time }

/-- The emergency stop is engaged by a message. -/
def Engages (r : CommandRouter) (s : Remote) (e : RemoteEvent) : Prop :=
  ∃ time c, e = .message time c ∧ s.controls.runtimeState.emergencyStop = false ∧
    (step r s e).controls.runtimeState.emergencyStop = true

def Challenges (r : CommandRouter) (s : Remote) (e : RemoteEvent) (userId issuedAt : Int) : Prop :=
  ∃ c, e = .message issuedAt c ∧ c.telegram.userId = userId ∧ MayControl s c issuedAt ∧
    (r.handle s c issuedAt).2 = .done .ok (some CHALLENGE_REPLY)

/-- What messages do along a history. -/
structure RemoteSafe (r : CommandRouter) (s0 : Remote) (es : List RemoteEvent) : Prop where
  /-- Within a chat the messages past the replay check come in the order of their ids. -/
  increasing : ∀ pre t c mid t' c' post, es = pre ++ .message t c :: mid ++ .message t' c' :: post →
    c.telegram.chatId = c'.telegram.chatId → isReplay (after (step r) s0 pre) c = false →
    isReplay (after (step r) s0 (pre ++ .message t c :: mid)) c' = false → c.updateId < c'.updateId
  /-- A message that does not get past it does nothing. -/
  dropped : ∀ pre t c post, es = pre ++ .message t c :: post → isReplay (after (step r) s0 pre) c = true →
    step r (after (step r) s0 pre) (.message t c) = after (step r) s0 pre
  /-- A message that moves a switch is the linked user's, recent and within both limits. -/
  authority : ∀ pre t c post, es = pre ++ .message t c :: post →
    (step r (after (step r) s0 pre) (.message t c)).controls ≠ (after (step r) s0 pre).controls →
    MayControl (after (step r) s0 pre) c t
  /-- No message clears the stop, or changes the mode but to PAPER. -/
  bounds : ∀ pre t c post, es = pre ++ .message t c :: post →
    ((after (step r) s0 pre).controls.runtimeState.emergencyStop = true →
      (step r (after (step r) s0 pre) (.message t c)).controls.runtimeState.emergencyStop = true) ∧
    (StateStore.getMode (step r (after (step r) s0 pre) (.message t c)).controls =
        StateStore.getMode (after (step r) s0 pre).controls ∨
      StateStore.getMode (step r (after (step r) s0 pre) (.message t c)).controls = .PAPER)
  /-- The stop is engaged by a confirmation of the linked user, after a challenge to that user that was not used since. -/
  engaged : ∀ pre t c post, es = pre ++ .message t c :: post → Engages r (after (step r) s0 pre) (.message t c) →
    isConfirm r c ∧ MayControl (after (step r) s0 pre) c t ∧ ∃ issuedAt, t - issuedAt ≤ emergencyChallengeMs ∧
      Since (step r) (fun pre e => Challenges r (after (step r) s0 pre) e c.telegram.userId issuedAt) (Engages r) s0 pre

section
variable {r : CommandRouter} {s s0 : Remote} {c : InboundCommand} {now : Int} {e : RemoteEvent}

/-! ### The cursor -/

def Seen (s : Remote) (chatId updateId : Int) : Prop :=
  ∃ row, s.cursors.get chatId = some row ∧ updateId ≤ row.lastUpdateId

theorem handle_cursors (h : isReplay s c = false) :
    (handle r s c now).1.cursors = (setCursor s c.telegram.chatId c.updateId now).cursors := by
  rcases handle_effect r s c now with ⟨hreplay, -⟩ | ⟨-, heffect⟩
  · rw [h] at hreplay
    cases hreplay
  · cases heffect with
    | quiet h1 => exact h1
    | paused _ _ _ h1 => exact h1
    | challenged _ h1 => exact h1
    | engaged _ _ _ _ h1 => exact h1

/-- **A replay does nothing.** -/
theorem step_replay (h : isReplay s c = true) : step r s (.message now c) = s := by
  unfold step handle
  dsimp only
  rw [if_pos h]

theorem seen_setCursor {chatId updateId : Int} (h : Seen s chatId updateId) (chatId' updateId' now : Int) :
    Seen (setCursor s chatId' updateId' now) chatId updateId := by
  obtain ⟨row, hrow, hle⟩ := h
  unfold Seen setCursor
  dsimp only
  by_cases hchat : chatId = chatId'
  · subst hchat
    rw [Table.get_put, if_pos rfl, hrow]
    exact ⟨_, rfl, hle.trans (le_max_left _ _)⟩
  · rw [Table.get_put, if_neg hchat]
    exact ⟨row, hrow, hle⟩

theorem seen_own : Seen (setCursor s c.telegram.chatId c.updateId now) c.telegram.chatId c.updateId := by
  unfold Seen setCursor
  dsimp only
  rw [Table.get_put, if_pos rfl]
  refine ⟨_, rfl, ?_⟩
  cases s.cursors.get c.telegram.chatId with
  | none => exact le_rfl
  | some row => exact le_max_right _ _

theorem seen_message (h : isReplay s c = false) (now : Int) :
    Seen (step r s (.message now c)) c.telegram.chatId c.updateId := by
  obtain ⟨row, hrow, hle⟩ : Seen (setCursor s c.telegram.chatId c.updateId now) c.telegram.chatId c.updateId := seen_own
  refine ⟨row, ?_, hle⟩
  show (handle r s c now).1.cursors.get c.telegram.chatId = some row
  rw [handle_cursors h]
  exact hrow

theorem seen_step {chatId updateId : Int} (h : Seen s chatId updateId) (e : RemoteEvent) :
    Seen (step r s e) chatId updateId := by
  cases e with
  | message time c =>
    cases hreplay : isReplay s c with
    | true =>
      rw [step_replay hreplay]
      exact h
    | false =>
      obtain ⟨row, hrow, hle⟩ := seen_setCursor h c.telegram.chatId c.updateId time
      refine ⟨row, ?_, hle⟩
      show (handle r s c time).1.cursors.get chatId = some row
      rw [handle_cursors hreplay]
      exact hrow
  | control e =>
    unfold step
    dsimp only
    split
    · exact h
    · exact h
  | issue transport codeHash time =>
    unfold step pairingAfter
    dsimp only
    split
    · exact h
    · exact h
  | paired identity pairedAt time => exact h
  | unpair time => exact h

theorem seen_after {chatId updateId : Int} (h : Seen s chatId updateId) (es : List RemoteEvent) :
    Seen (after (step r) s es) chatId updateId :=
  invariant (P := fun s => Seen s chatId updateId) h (fun _ e hs => seen_step hs e) es

/-- A message past the replay check is past everything its chat has seen. -/
theorem seen_lt {updateId : Int} (hseen : Seen s c.telegram.chatId updateId) (h : isReplay s c = false) :
    updateId < c.updateId := by
  obtain ⟨row, hrow, hle⟩ := hseen
  unfold isReplay at h
  rw [hrow, Option.any_some, decide_eq_false_iff_not] at h
  omega

/-! ### The switches -/

theorem getMode_stopped (controls : Controls) (reason : Option String) :
    StateStore.getMode (StateStore.setEmergencyStop controls true reason) = .PAPER := by
  unfold StateStore.setEmergencyStop StateStore.getMode
  dsimp only
  rw [if_pos rfl]
  show (controls.installation.map fun _ => Mode.PAPER).getD .PAPER = .PAPER
  cases controls.installation with
  | none => rfl
  | some _ => rfl

theorem stop_stopped (controls : Controls) (reason : Option String) :
    (StateStore.setEmergencyStop controls true reason).runtimeState.emergencyStop = true := by
  unfold StateStore.setEmergencyStop
  dsimp only
  rw [if_pos rfl]
  rfl

/-- **What a message leaves of the switches**: as they were, or past every gate. -/
theorem controls_message (r : CommandRouter) (s : Remote) (c : InboundCommand) (now : Int) :
    (handle r s c now).1.controls = s.controls ∨ MayControl s c now ∧
    ((∃ on reason, (handle r s c now).1.controls = StateStore.setGlobalPause s.controls on reason) ∨
      ∃ reason, (handle r s c now).1.controls = StateStore.setEmergencyStop s.controls true reason) := by
  rcases handle_effect r s c now with ⟨-, hnothing⟩ | ⟨-, heffect⟩
  · rw [hnothing]
    exact .inl rfl
  · cases heffect with
    | quiet _ h2 => exact .inl h2
    | paused hmay on reason _ h2 => exact .inr ⟨hmay, .inl ⟨on, reason, h2⟩⟩
    | challenged _ _ h2 => exact .inl h2
    | engaged hmay _ _ reason _ h2 => exact .inr ⟨hmay, .inr ⟨reason, h2⟩⟩

/-- What a step leaves of a standing challenge: it stood before and no message engaged the stop, or it was issued now. -/
theorem challenge_step {challenge : EmergencyChallenge} (h : (step r s e).emergencyChallenge = some challenge) :
    (s.emergencyChallenge = some challenge ∧ ¬ Engages r s e) ∨ Challenges r s e challenge.userId challenge.issuedAt := by
  cases e with
  | message time c =>
    have hnot : (handle r s c time).1.controls.runtimeState.emergencyStop = s.controls.runtimeState.emergencyStop →
        ¬ Engages r s (.message time c) := by
      rintro hsame ⟨_, _, -, hfalse, htrue⟩
      replace htrue : (handle r s c time).1.controls.runtimeState.emergencyStop = true := htrue
      rw [hsame, hfalse] at htrue
      cases htrue
    replace h : (handle r s c time).1.emergencyChallenge = some challenge := h
    rcases handle_effect r s c time with ⟨-, hnothing⟩ | ⟨-, heffect⟩
    · rw [hnothing] at h
      exact .inl ⟨h, hnot (by rw [hnothing])⟩
    · cases heffect with
      | quiet _ h2 h3 =>
        rcases h3 with h3 | h3
        · exact .inl ⟨h3.symm.trans h, hnot (by rw [h2]; rfl)⟩
        · rw [h3] at h
          cases h
      | paused _ on reason _ h2 h3 => exact .inl ⟨h3.symm.trans h, hnot (by rw [h2]; rfl)⟩
      | challenged hmay _ _ h3 h4 =>
        obtain rfl := Option.some.inj (h3.symm.trans h)
        exact .inr ⟨c, rfl, rfl, hmay, h4⟩
      | engaged _ _ _ _ _ _ h3 =>
        rw [h3] at h
        cases h
  | control e =>
    refine .inl ⟨?_, fun ⟨_, _, he, _⟩ => by cases he⟩
    unfold step at h
    dsimp only at h
    split at h
    · cases h
    · exact h
  | issue transport codeHash time =>
    refine .inl ⟨?_, fun ⟨_, _, he, _⟩ => by cases he⟩
    unfold step pairingAfter at h
    dsimp only at h
    split at h
    · exact h
    · exact h
  | paired identity pairedAt time => exact .inl ⟨h, fun ⟨_, _, he, _⟩ => by cases he⟩
  | unpair time => exact .inl ⟨h, fun ⟨_, _, he, _⟩ => by cases he⟩

/-- **The challenge that stands was issued, and not used since.** -/
theorem challenge_since (h0 : s0.emergencyChallenge = none) (es : List RemoteEvent) : ∀ challenge,
    (after (step r) s0 es).emergencyChallenge = some challenge →
    Since (step r) (fun pre e => Challenges r (after (step r) s0 pre) e challenge.userId challenge.issuedAt) (Engages r) s0
      es := by
  induction es using List.reverseRecOn with
  | nil =>
    intro challenge h
    rw [after_nil, h0] at h
    cases h
  | append_singleton es e ih =>
    intro challenge h
    rw [after_snoc] at h
    rcases challenge_step h with ⟨hbefore, hnot⟩ | hissued
    · exact since_later (ih challenge hbefore) hnot
    · exact since_now hissued

/-- **A message that engages the stop** confirms a challenge to its sender that stands. -/
theorem engages_confirms (h : Engages r s (.message now c)) : isConfirm r c ∧ MayControl s c now ∧
    ∃ issuedAt, s.emergencyChallenge = some ⟨c.telegram.userId, issuedAt⟩ ∧ now - issuedAt ≤ emergencyChallengeMs := by
  obtain ⟨_, _, he, hfalse, htrue⟩ := h
  obtain ⟨rfl, rfl⟩ := RemoteEvent.message.inj he
  replace htrue : (handle r s c now).1.controls.runtimeState.emergencyStop = true := htrue
  rcases handle_effect r s c now with ⟨-, hnothing⟩ | ⟨-, heffect⟩
  · rw [hnothing, hfalse] at htrue
    cases htrue
  · cases heffect with
    | quiet _ h2 =>
      rw [h2] at htrue
      exact absurd (hfalse.symm.trans htrue) (by decide)
    | paused _ on reason _ h2 =>
      rw [h2] at htrue
      exact absurd (hfalse.symm.trans htrue) (by decide)
    | challenged _ _ h2 =>
      rw [h2] at htrue
      exact absurd (hfalse.symm.trans htrue) (by decide)
    | engaged hmay hconfirm hstands =>
      refine ⟨hconfirm, hmay, ?_⟩
      unfold challengeStands at hstands
      obtain ⟨challenge, hchallenge, heq⟩ := (Option.any_eq_true _ _).1 hstands
      rw [Bool.and_eq_true, beq_iff_eq, decide_eq_true_eq] at heq
      refine ⟨challenge.issuedAt, ?_, heq.2⟩
      rw [← heq.1]
      exact hchallenge

end

/-- **Control over Telegram is the linked user's, and no update is heeded twice**, from any rows a process starts on. -/
theorem remoteSafe (r : CommandRouter) (controls : Controls) (pairing : Pairing) (cursors : Table ChatCursor.chatId)
    (alertsEnabled : Bool) (es : List RemoteEvent) :
    RemoteSafe r (booted controls pairing cursors alertsEnabled) es where
  increasing := by
    intro pre t c mid t' c' post _ hchat hfresh hfresh'
    have hseen : Seen (step r (after (step r) (booted controls pairing cursors alertsEnabled) pre) (.message t c))
        c.telegram.chatId c.updateId := seen_message hfresh t
    have hlater := seen_after (r := r) hseen mid
    rw [hchat] at hlater
    unfold after at hfresh' hlater
    rw [List.foldl_append, List.foldl_cons] at hfresh'
    exact seen_lt hlater hfresh'
  dropped := fun pre t c post _ hreplay => step_replay hreplay
  authority := by
    intro pre t c post _ hmoved
    rcases controls_message r (after (step r) _ pre) c t with hsame | ⟨hmay, -⟩
    · exact absurd hsame hmoved
    · exact hmay
  bounds := by
    intro pre t c post _
    rcases controls_message r (after (step r) _ pre) c t with
      hsame | ⟨-, ⟨on, reason, hpaused⟩ | ⟨reason, hstopped⟩⟩
    · replace hsame : (step r _ (.message t c)).controls = _ := hsame
      rw [hsame]
      exact ⟨fun h => h, .inl rfl⟩
    · replace hpaused : (step r _ (.message t c)).controls = _ := hpaused
      rw [hpaused]
      exact ⟨fun h => h, .inl rfl⟩
    · replace hstopped : (step r _ (.message t c)).controls = _ := hstopped
      rw [hstopped]
      exact ⟨fun _ => stop_stopped _ _, .inr (getMode_stopped _ _)⟩
  engaged := by
    intro pre t c post _ hengages
    obtain ⟨hconfirm, hmay, issuedAt, hchallenge, hrecent⟩ := engages_confirms hengages
    exact ⟨hconfirm, hmay, issuedAt, hrecent, challenge_since rfl pre _ hchallenge⟩

end CommandRouter
end Atra
