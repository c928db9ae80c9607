import Atra.HubIsolation
import Atra.HubTurns
/-!
# HubBudgets — budgets and quotas are exact over every run of the hub

A message charges the budget it finds and writes it back before any other handler runs, so the stored budget of a socket is
always that of all its charges: three windows of `FixedWindow` (`Spent`).  After its awaits a handler writes no attachment.  A
quota call adds one to one counter of its day, and the purge takes whole days.
-/
namespace Atra.Hub

open History
open Gateway (getLinkByInstall)

variable {storedPairHash : String → String} {s : HubState} {ws : HubSocket} {kind : BudgetKind} {id : Nat} {now : Int}
  {budget : Option FrameBudget} {cs : List BudgetCharge} {clock : Int} {ts : List Turn}

/-! ## A budget is three windows -/

theorem windowMs_pos (kind : BudgetKind) : 0 < kind.windowMs := by
  cases kind with
  | frame => decide
  | notify => decide
  | pairOffer => decide

/-- The budget a unit is charged to: its windows are those of now. -/
def rolled (budget : Option FrameBudget) (now : Int) : FrameBudget :=
  let first := budget.getD ⟨now, 0, 0, now, 0⟩
  let minute :=
    if now - first.minuteStart ≥ MINUTE_MS then { first with minuteStart := now, frames := 0, offers := 0 } else first
  if now - minute.hourStart ≥ HOUR_MS then { minute with hourStart := now, notifies := 0 } else minute

theorem window_rolled (budget : Option FrameBudget) (now : Int) (kind : BudgetKind) :
    (rolled budget now).window kind = FixedWindow.roll kind.windowMs (budget.map fun b => b.window kind) now := by
  have hsame (b : FrameBudget) : (rolled (some b) now).window kind =
      FixedWindow.roll kind.windowMs (some (b.window kind)) now := by
    unfold rolled FixedWindow.roll
    dsimp only [Option.getD_some]
    by_cases hminute : MINUTE_MS ≤ now - b.minuteStart
    · by_cases hhour : HOUR_MS ≤ now - b.hourStart
      · cases kind <;> simp [FrameBudget.window, BudgetKind.windowMs, hminute, hhour]
      · cases kind <;> simp [FrameBudget.window, BudgetKind.windowMs, hminute, hhour]
    · by_cases hhour : HOUR_MS ≤ now - b.hourStart
      · cases kind <;> simp [FrameBudget.window, BudgetKind.windowMs, hminute, hhour]
      · cases kind <;> simp [FrameBudget.window, BudgetKind.windowMs, hminute, hhour]
  cases budget with
  | some b => exact hsame b
  | none =>
    -- a first budget is one that starts now
    have hfirst := hsame ⟨now, 0, 0, now, 0⟩
    have hpos := windowMs_pos kind
    have hroll (w : FixedWindow) (hw : w.start = now) : FixedWindow.roll kind.windowMs (some w) now = w := by
      unfold FixedWindow.roll
      dsimp only
      rw [if_neg (by omega)]
    refine hfirst.trans ?_
    cases kind with
    | frame => exact hroll _ rfl
    | notify => exact hroll _ rfl
    | pairOffer => exact hroll _ rfl

/-- **What a charge leaves of each window.** -/
theorem window_spendBudget (budget : Option FrameBudget) (k kind : BudgetKind) (now : Int) (allowed : Bool) :
    (spendBudget budget k now).1.window kind =
      FixedWindow.charge kind.windowMs (budget.map fun b => b.window kind) ⟨now, k = kind, allowed⟩ := by
  have hcharge : FixedWindow.charge kind.windowMs (budget.map fun b => b.window kind) ⟨now, k = kind, allowed⟩ =
      ⟨((rolled budget now).window kind).start, ((rolled budget now).window kind).count + if k = kind then 1 else 0⟩ := by
    unfold FixedWindow.charge
    rw [window_rolled]
    simp
  rw [hcharge]
  cases k <;> cases kind <;> rfl

theorem allowed_spendBudget (budget : Option FrameBudget) (kind : BudgetKind) (now : Int) :
    (spendBudget budget kind now).2 = true ↔
      (FixedWindow.roll kind.windowMs (budget.map fun b => b.window kind) now).count < kind.cap := by
  rw [← window_rolled]
  cases kind with
  | frame => exact decide_eq_true_iff
  | notify => exact decide_eq_true_iff
  | pairOffer => exact decide_eq_true_iff

/-! ## The budget of a socket's charges -/

/-- A budget is that of all charges of a socket, each decided on the ones before it. -/
structure Spent (id : Nat) (cs : List BudgetCharge) (budget : Option FrameBudget) : Prop where
  windows : ∀ kind, (budget.map fun b => b.window kind) = FixedWindow.afterCharges kind.windowMs (onSocket id kind cs)
  decided : ∀ kind, FixedWindow.Decided kind.windowMs kind.cap (onSocket id kind cs)

theorem spent_nil (id : Nat) : Spent id [] none :=
  ⟨fun _ => rfl, fun _ pre c post h => by cases pre <;> cases h⟩

theorem onSocket_append (cs ds : List BudgetCharge) :
    onSocket id kind (cs ++ ds) = onSocket id kind cs ++ onSocket id kind ds := by
  unfold onSocket
  rw [List.filter_append, List.map_append]

theorem onSocket_own (id : Nat) (k kind : BudgetKind) (now : Int) (allowed : Bool) :
    onSocket id kind [⟨id, k, now, allowed⟩] = [⟨now, k = kind, allowed⟩] := by
  unfold onSocket
  rw [List.filter_cons_of_pos (by simp)]
  rfl

theorem onSocket_eq_nil (h : ∀ c ∈ cs, c.socket ≠ id) : onSocket id kind cs = [] := by
  unfold onSocket
  rw [List.filter_eq_nil_iff.2 fun c hc => by simpa using h c hc]
  rfl

/-- Charges of other sockets leave a budget that of its socket's charges. -/
theorem Spent.others (h : Spent id cs budget) {ds : List BudgetCharge} (hne : ∀ c ∈ ds, c.socket ≠ id) :
    Spent id (cs ++ ds) budget := by
  constructor
  · intro kind
    rw [onSocket_append, onSocket_eq_nil hne, List.append_nil]
    exact h.windows kind
  · intro kind
    rw [onSocket_append, onSocket_eq_nil hne, List.append_nil]
    exact h.decided kind

/-- **A charge of the stored budget** is one more of its socket's charges. -/
theorem Spent.charge (h : Spent id cs budget) (k : BudgetKind) (now : Int) :
    Spent id (cs ++ [⟨id, k, now, (spendBudget budget k now).2⟩]) (some (spendBudget budget k now).1) := by
  constructor
  · intro kind
    rw [onSocket_append, onSocket_own, FixedWindow.afterCharges_snoc, ← h.windows kind, Option.map_some]
    exact congrArg some (window_spendBudget budget k kind now _)
  · intro kind
    rw [onSocket_append, onSocket_own]
    refine forall_split_snoc (h.decided kind) fun hcounted => ?_
    obtain rfl := of_decide_eq_true hcounted
    rw [← h.windows k]
    exact allowed_spendBudget budget k now

/-! ## What a message does to its socket -/

/-- Charges one after the other, each of the budget the one before left. -/
inductive Charging (id : Nat) (now : Int) : Option FrameBudget → List BudgetCharge → Option FrameBudget → Prop where
  | done (budget : Option FrameBudget) : Charging id now budget [] budget
  | unit {budget budget' : Option FrameBudget} {cs : List BudgetCharge} (kind : BudgetKind)
    (rest : Charging id now (some (spendBudget budget kind now).1) cs budget') :
    Charging id now budget (⟨id, kind, now, (spendBudget budget kind now).2⟩ :: cs) budget'

theorem Spent.charging {ds : List BudgetCharge} {budget' : Option FrameBudget} (h : Spent id cs budget)
    (hcharging : Charging id now budget ds budget') : Spent id (cs ++ ds) budget' := by
  induction hcharging generalizing cs with
  | done budget =>
    rw [List.append_nil]
    exact h
  | unit kind rest ih =>
    rename_i budget₀ budget₁ ds
    rw [← List.singleton_append, ← List.append_assoc]
    exact ih (h.charge kind now)

theorem Charging.snoc {ds : List BudgetCharge} {budget' : Option FrameBudget} (h : Charging id now budget ds budget')
    (k : BudgetKind) :
    Charging id now budget (ds ++ [⟨id, k, now, (spendBudget budget' k now).2⟩])
      (some (spendBudget budget' k now).1) := by
  induction h with
  | done budget => exact .unit k (.done _)
  | unit kind rest ih => exact .unit kind ih

theorem Charging.of {ds : List BudgetCharge} {budget' : Option FrameBudget} (h : Charging id now budget ds budget') :
    ∀ c ∈ ds, c.socket = id ∧ c.now = now := by
  induction h with
  | done budget => exact fun c hc => by cases hc
  | unit kind rest ih => exact List.forall_mem_cons.2 ⟨⟨rfl, rfl⟩, ih⟩

theorem sockets_handleFrame (s : HubState) (w : HubSocket) (f : RuntimeFrame) :
    (handleFrame storedPairHash s w f).sockets =
      if isHello f then s.sockets.put { w with hello := true } else s.sockets := by
  cases f with
  | hello installationId runtimeVersion => rfl
  | pairOffer codeHash expiresAt =>
    unfold handleFrame
    dsimp only
    split
    · rfl
    · rfl
  | pairRevoke => rfl
  | reply requestId text =>
    unfold handleFrame reply
    dsimp only
    cases s.pending.lookup requestId with
    | none => rfl
    | some i => rfl
  | notify kind text => rfl

/-- What a message leaves of the sockets: its own with the charges taken, and greeted once it said hello. -/
structure Met (s : HubState) (ws : HubSocket) (message : Message) (s' : HubState) : Prop where
  own : ∃ w, s'.sockets.get ws.id = some w ∧ Charging ws.id s.clock ws.budget (chargesOf s ws message) w.budget ∧
    (ws.hello = true → w.hello = true) ∧ ((∃ i v, message = .frame (.hello i v)) →
      (spendBudget ws.budget .frame s.clock).2 = true → w.hello = true)
  others : ∀ id, id ≠ ws.id → s'.sockets.get id = s.sockets.get id

/-- The sockets when some charges of a message were taken. -/
structure Taken (s : HubState) (ws : HubSocket) (cs : List BudgetCharge) (w : HubSocket) (sockets : Table HubSocket.id) :
    Prop where
  own : sockets.get ws.id = some w
  id : w.id = ws.id
  hello : w.hello = ws.hello
  charging : Charging ws.id s.clock ws.budget cs w.budget
  others : ∀ id, id ≠ ws.id → sockets.get id = s.sockets.get id

theorem Taken.met {message : Message} {w : HubSocket} {sockets : Table HubSocket.id} {s' : HubState}
    (h : Taken s ws (chargesOf s ws message) w sockets) (hs' : s'.sockets = sockets)
    (hgreeted : (∃ i v, message = .frame (.hello i v)) → (spendBudget ws.budget .frame s.clock).2 ≠ true) :
    Met s ws message s' := by
  subst hs'
  exact ⟨⟨w, h.own, h.charging, fun hh => h.hello.trans hh, fun hm hb => absurd hb (hgreeted hm)⟩, h.others⟩

/-- A frame that is handled leaves the charges taken, and a hello greets. -/
theorem Taken.handleFrame {f : RuntimeFrame} {w : HubSocket} {s' : HubState}
    (h : Taken s ws (chargesOf s ws (.frame f)) w s'.sockets) :
    Met s ws (.frame f) (handleFrame storedPairHash s' w f) := by
  by_cases hf : isHello f = true
  · refine ⟨⟨{ w with hello := true }, ?_, h.charging, fun _ => rfl, fun _ _ => rfl⟩, fun id hne => ?_⟩
    · rw [sockets_handleFrame, if_pos hf, Table.get_put, if_pos h.id.symm]
    · rw [sockets_handleFrame, if_pos hf, Table.get_put, if_neg fun heq => hne (heq.trans h.id), h.others id hne]
  · refine ⟨⟨w, ?_, h.charging, fun hh => h.hello.trans hh, ?_⟩, fun id hne => ?_⟩
    · rw [sockets_handleFrame, if_neg hf]
      exact h.own
    · rintro ⟨i, v, heq⟩
      cases heq
      exact absurd rfl hf
    · rw [sockets_handleFrame, if_neg hf]
      exact h.others id hne

theorem taken_charge {sockets : Table HubSocket.id} {w w' : HubSocket} {kind : BudgetKind}
    (h : Taken s ws cs w sockets) (hid : w'.id = w.id) (hhello : w'.hello = w.hello)
    (hbudget : w'.budget = some (spendBudget w.budget kind s.clock).1) :
    Taken s ws (cs ++ [⟨ws.id, kind, s.clock, (spendBudget w.budget kind s.clock).2⟩]) w' (sockets.put w') := by
  have hid' := hid.trans h.id
  refine ⟨by rw [Table.get_put, if_pos hid'.symm], hid', hhello.trans h.hello, ?_, fun id hne => ?_⟩
  · rw [hbudget]
    exact h.charging.snoc kind
  · rw [Table.get_put, if_neg fun heq => hne (heq.trans hid'), h.others id hne]

/-- Only a frame that was let in is charged again. -/
theorem chargesOf_single {message : Message}
    (h : (spendBudget ws.budget .frame s.clock).2 = true → ∀ f, message ≠ .frame f) :
    chargesOf s ws message = [⟨ws.id, .frame, s.clock, (spendBudget ws.budget .frame s.clock).2⟩] := by
  unfold chargesOf
  dsimp only
  by_cases hb : (spendBudget ws.budget .frame s.clock).2 = true
  · cases message with
    | binary => simp
    | invalid => simp
    | frame f => exact absurd rfl (h hb f)
  · simp [hb]

theorem chargesOf_frame (hb : (spendBudget ws.budget .frame s.clock).2 = true) (f : RuntimeFrame) :
    chargesOf s ws (.frame f) = ⟨ws.id, .frame, s.clock, (spendBudget ws.budget .frame s.clock).2⟩ ::
      if !isHello f && !ws.hello then [] else ((ownBudget f).map fun kind => ⟨ws.id, kind, s.clock,
        (spendBudget (some (spendBudget ws.budget .frame s.clock).1) kind s.clock).2⟩).toList := by
  unfold chargesOf
  dsimp only
  rw [hb]
  rfl

/-- **What a message does to the sockets.** -/
theorem met (hget : s.sockets.get ws.id = some ws) (message : Message) :
    Met s ws message (webSocketMessage storedPairHash s ws message) := by
  have hstart : Taken s ws [] ws s.sockets := ⟨hget, rfl, rfl, .done _, fun _ _ => rfl⟩
  obtain ⟨w, hid, -, hhello, hbudget, hfirst, hsecond⟩ := charge_eq s ws .frame
  have htaken := taken_charge hstart hid hhello hbudget
  rw [List.nil_append] at htaken
  unfold webSocketMessage
  rcases hc : charge s ws .frame with ⟨s₁, r⟩
  rw [hc] at hfirst hsecond
  dsimp only at hfirst hsecond
  subst hfirst hsecond
  by_cases hb : (spendBudget ws.budget .frame s.clock).2 = true
  · rw [if_pos hb]
    dsimp only
    cases message with
    | binary =>
      rw [← @chargesOf_single s ws .binary fun _ f hm => by cases hm] at htaken
      exact htaken.met rfl fun ⟨i, v, hm⟩ => by cases hm
    | invalid =>
      rw [← @chargesOf_single s ws .invalid fun _ f hm => by cases hm] at htaken
      exact htaken.met rfl fun ⟨i, v, hm⟩ => by cases hm
    | frame f =>
      dsimp only
      by_cases hh : (!isHello f && !w.hello) = true
      · rw [if_pos hh]
        have hone := chargesOf_frame hb f
        rw [← hhello, if_pos hh] at hone
        rw [← hone] at htaken
        refine htaken.met rfl fun ⟨i, v, hm⟩ => ?_
        cases hm
        cases hh
      · rw [if_neg hh]
        have hown := chargesOf_frame hb f
        rw [← hhello, if_neg hh] at hown
        cases hkind : ownBudget f with
        | none =>
          rw [hkind] at hown
          replace htaken : Taken s ws (chargesOf s ws (.frame f)) w (s.sockets.put w) := hown ▸ htaken
          exact @Taken.handleFrame storedPairHash s ws f w { s with sockets := s.sockets.put w } htaken
        | some kind =>
          rw [hkind] at hown
          obtain ⟨w', hid', -, hhello', hbudget', hfirst', hsecond'⟩ :=
            charge_eq { s with sockets := s.sockets.put w } w kind
          have htaken' := taken_charge htaken hid' hhello' hbudget'
          rw [hbudget] at htaken'
          replace htaken' : Taken s ws (chargesOf s ws (.frame f)) w' ((s.sockets.put w).put w') := hown ▸ htaken'
          dsimp only
          rcases hc' : charge { s with sockets := s.sockets.put w } w kind with ⟨s₂, r'⟩
          rw [hc'] at hfirst' hsecond'
          dsimp only at hfirst' hsecond'
          subst hfirst' hsecond'
          by_cases hb' : (spendBudget w.budget kind s.clock).2 = true
          · rw [if_pos hb']
            exact @Taken.handleFrame storedPairHash s ws f w' { s with sockets := (s.sockets.put w).put w' } htaken'
          · rw [if_neg hb']
            refine htaken'.met rfl fun ⟨i, v, hm⟩ => ?_
            cases hm
            cases hkind
  · rw [if_neg hb]
    rw [← chargesOf_single fun h => absurd h hb] at htaken
    exact htaken.met rfl fun _ => hb

/-- A socket is charged, is left but for its being open, or is new. -/
inductive SocketStep (s s' : HubState) (ds : List BudgetCharge) (id : Nat) : Prop where
  | charged (ws w : HubSocket) (hget : s.sockets.get id = some ws) (hget' : s'.sockets.get id = some w)
    (hcharging : Charging id s.clock ws.budget ds w.budget) (hello : ws.hello = true → w.hello = true)
  | left (ws w : HubSocket) (hget : s.sockets.get id = some ws) (hget' : s'.sockets.get id = some w)
    (hbudget : w.budget = ws.budget) (hello : w.hello = ws.hello) (hothers : ∀ c ∈ ds, c.socket ≠ id)
  | absent (hget : s.sockets.get id = none) (hget' : ∀ w, s'.sockets.get id = some w → w.budget = none)
    (hothers : ∀ c ∈ ds, c.socket ≠ id)

theorem socketStep_same {s' : HubState} {ds : List BudgetCharge} (h : s'.sockets.get id = s.sockets.get id)
    (hothers : ∀ c ∈ ds, c.socket ≠ id) : SocketStep s s' ds id := by
  cases hget : s.sockets.get id with
  | none => exact .absent hget (fun w hw => by rw [h, hget] at hw; cases hw) hothers
  | some ws => exact .left ws ws hget (h.trans hget) rfl rfl hothers

theorem socketStep_connect (h : s.sockets.get id = none) (installId : String) (id' : Nat) :
    SocketStep s (connect s id installId) [] id' := by
  have hget : (connect s id installId).sockets.get id' =
      if id' = id then some ⟨id, installId, s.clock, false, none, true⟩
      else (s.sockets.get id').map fun w => if w.installId = installId then { w with isOpen := false } else w := by
    unfold connect
    rw [Table.get_put, Table.get_update]
  by_cases hid : id' = id
  · subst hid
    rw [if_pos rfl] at hget
    refine .absent h (fun w hw => ?_) fun c hc => by cases hc
    obtain rfl := Option.some.inj (hget.symm.trans hw)
    rfl
  · rw [if_neg hid] at hget
    cases hs : s.sockets.get id' with
    | none =>
      rw [hs] at hget
      exact .absent hs (fun w hw => by rw [hget] at hw; cases hw) fun c hc => by cases hc
    | some ws =>
      rw [hs] at hget
      refine .left ws _ hs hget ?_ ?_ fun c hc => by cases hc
      · dsimp only
        split
        · rfl
        · rfl
      · dsimp only
        split
        · rfl
        · rfl

theorem sockets_dispatchCommand (installId requestId : String) (sent : Bool) :
    (dispatchCommand s installId requestId sent).sockets = s.sockets := by
  unfold dispatchCommand
  cases liveSocket s installId with
  | none => rfl
  | some w =>
    cases sent with
    | true => rfl
    | false => rfl

theorem sockets_timeout (i : Nat) : (timeout s i).sockets = s.sockets := by
  unfold timeout
  cases s.dispatches[i]? with
  | none => rfl
  | some d =>
    dsimp only
    split
    · rfl
    · rfl

/-- A message charges its socket and leaves the others. -/
theorem socketStep_message {storedPairHash : String → String} (hget : s.sockets.get ws.id = some ws) (message : Message)
    (id : Nat) :
    SocketStep s (webSocketMessage storedPairHash s ws message) (chargesOf s ws message) id := by
  have hmet : Met s ws message (webSocketMessage storedPairHash s ws message) := met hget message
  obtain ⟨w, hw, hcharging, hhello, -⟩ := hmet.own
  by_cases hid : id = ws.id
  · subst hid
    exact .charged ws w hget hw hcharging hhello
  · exact socketStep_same (hmet.others id hid) fun c hc heq => hid (heq.symm.trans (hcharging.of c hc).1)

/-- **A handler that goes on writes no attachment.** -/
theorem hub_resume (r : Running) (i : Nat) (ok : Bool) : (resume r i ok).hub = r.hub := by
  unfold resume
  cases r.handlers[i]? with
  | none => rfl
  | some handler =>
    dsimp only
    cases ok with
    | false => rfl
    | true =>
      cases handler.awaits with
      | welcome => rfl
      | sendMessage => rfl
      | chat text =>
        dsimp only [Bool.not_true]
        cases getLinkByInstall r.hub.db handler.attachment.installId with
        | none => rfl
        | some link => rfl

/-- **What a turn does to a socket**: only a message charges, and only its own socket. -/
theorem socketStep (r : Running) (t : Turn) (id : Nat) :
    SocketStep r.hub (turn storedPairHash r t).hub (chargedBy r t) id := by
  have hnone : ∀ c ∈ ([] : List BudgetCharge), c.socket ≠ id := fun c hc => by cases hc
  cases t with
  | hub e =>
    cases e with
    | tick ms => exact socketStep_same rfl hnone
    | connect id' installId =>
      show SocketStep r.hub (if (r.hub.sockets.get id').isSome then r.hub else connect r.hub id' installId) [] id
      by_cases hget : (r.hub.sockets.get id').isSome = true
      · rw [if_pos hget]
        exact socketStep_same rfl hnone
      · rw [if_neg hget]
        exact socketStep_connect (by simpa using hget) installId id
    | close id' =>
      unfold turn step
      dsimp only
      cases hget : r.hub.sockets.get id' with
      | none => exact socketStep_same rfl hnone
      | some w =>
        dsimp only
        obtain rfl := Table.key_of_get hget
        by_cases hid : id = w.id
        · subst hid
          refine .left w { w with isOpen := false } hget ?_ rfl rfl hnone
          rw [Table.get_put, if_pos rfl]
        · refine socketStep_same ?_ hnone
          rw [Table.get_put, if_neg hid]
    | message id' message =>
      unfold turn step chargedBy
      dsimp only
      cases hget : r.hub.sockets.get id' with
      | none => exact socketStep_same rfl hnone
      | some w =>
        obtain rfl := Table.key_of_get hget
        exact socketStep_message hget message id
    | settle i ok =>
      unfold turn step
      dsimp only
      cases r.hub.waiting[i]? with
      | none => exact socketStep_same rfl hnone
      | some w => exact socketStep_same rfl hnone
    | dispatch installId requestId sent =>
      refine socketStep_same ?_ hnone
      show (dispatchCommand r.hub installId requestId sent).sockets.get id = _
      rw [sockets_dispatchCommand]
    | timeout i =>
      refine socketStep_same ?_ hnone
      show (timeout r.hub i).sockets.get id = _
      rw [sockets_timeout]
    | quota installId kind limit => exact socketStep_same rfl hnone
    | worker db => exact socketStep_same rfl hnone
  | resume i ok => exact socketStep_same (by show (resume r i ok).hub.sockets.get id = _; rw [hub_resume]) hnone
  | consumeQuota installId kind limit now => exact socketStep_same rfl hnone
  | purgeUsage now retentionDays => exact socketStep_same rfl hnone

/-! ## Runs -/

theorem clock_turn (r : Running) (t : Turn) : r.hub.clock ≤ (turn storedPairHash r t).hub.clock := by
  cases t with
  | hub e =>
    cases e with
    | tick ms => exact Int.le_add_of_nonneg_right (Int.natCast_nonneg ms)
    | connect id installId =>
      unfold turn step
      dsimp only
      split
      · exact Int.le_refl _
      · exact Int.le_refl _
    | close id =>
      unfold turn step
      dsimp only
      split
      · exact Int.le_refl _
      · exact Int.le_refl _
    | message id message =>
      unfold turn step
      dsimp only
      cases hget : r.hub.sockets.get id with
      | none => exact Int.le_refl _
      | some w =>
        obtain rfl := Table.key_of_get hget
        exact (@handled storedPairHash _ _ hget message).clock.ge
    | settle i ok =>
      unfold turn step
      dsimp only
      split
      · exact Int.le_refl _
      · exact Int.le_refl _
    | dispatch installId requestId sent =>
      unfold turn step dispatchCommand
      dsimp only
      split
      · exact Int.le_refl _
      · split
        · exact Int.le_refl _
        · exact Int.le_refl _
    | timeout i =>
      unfold turn step timeout
      dsimp only
      split
      · split
        · exact Int.le_refl _
        · exact Int.le_refl _
      · exact Int.le_refl _
    | quota installId kind limit => exact Int.le_refl _
    | worker db => exact Int.le_refl _
  | resume i ok => exact (congrArg HubState.clock (hub_resume r i ok)).ge
  | consumeQuota installId kind limit now => exact Int.le_refl _
  | purgeUsage now retentionDays => exact Int.le_refl _

/-- The charges of a message are those of its socket, now. -/
theorem now_chargedBy (r : Running) (t : Turn) : ∀ c ∈ chargedBy r t, c.now = r.hub.clock := by
  unfold chargedBy
  split
  · rename_i id message
    cases hget : r.hub.sockets.get id with
    | none => exact fun c hc => by cases hc
    | some w =>
      obtain rfl := Table.key_of_get hget
      obtain ⟨w', -, hcharging, -⟩ := (@met (fun hash => hash) _ _ hget message).own
      exact fun c hc => (hcharging.of c hc).2
  · exact fun c hc => by cases hc

/-- The stored budgets are those of the charges made, which are in the order of their times. -/
structure Kept (cs : List BudgetCharge) (s : HubState) : Prop where
  spent : ∀ id ws, s.sockets.get id = some ws → Spent id cs ws.budget
  fresh : ∀ id, s.sockets.get id = none → ∀ c ∈ cs, c.socket ≠ id
  order : cs.Pairwise fun c d => c.now ≤ d.now
  past : ∀ c ∈ cs, c.now ≤ s.clock

/-- **What a turn keeps.** -/
theorem Kept.turn {r : Running} (h : Kept cs r.hub) (t : Turn) :
    Kept (cs ++ chargedBy r t) (turn storedPairHash r t).hub := by
  have hnow := now_chargedBy r t
  have hclock := @clock_turn storedPairHash r t
  have hstep := @socketStep storedPairHash r t
  refine ⟨fun id w hw => ?_, fun id hnone => ?_, ?_, fun c hc => ?_⟩
  · cases hstep id with
    | charged ws w' hget hget' hcharging hello =>
      obtain rfl := Option.some.inj (hget'.symm.trans hw)
      exact (h.spent id ws hget).charging hcharging
    | left ws w' hget hget' hbudget hello hothers =>
      obtain rfl := Option.some.inj (hget'.symm.trans hw)
      rw [hbudget]
      exact (h.spent id ws hget).others hothers
    | absent hget hget' hothers =>
      rw [hget' w hw, ← List.nil_append (cs ++ chargedBy r t)]
      refine (spent_nil id).others fun c hc => ?_
      exact (List.mem_append.1 hc).elim (h.fresh id hget c) (hothers c)
  · intro c hc
    cases hstep id with
    | charged ws w hget hget' hcharging hello => rw [hnone] at hget'; cases hget'
    | left ws w hget hget' hbudget hello hothers => rw [hnone] at hget'; cases hget'
    | absent hget hget' hothers => exact (List.mem_append.1 hc).elim (h.fresh id hget c) (hothers c)
  · refine List.pairwise_append.2 ⟨h.order, ?_, fun c hc d hd => ?_⟩
    · refine List.pairwise_iff_forall_sublist.2 fun hsub => ?_
      rename_i c d
      have hc := hnow c (hsub.subset List.mem_cons_self)
      have hd := hnow d (hsub.subset (List.mem_cons_of_mem _ List.mem_cons_self))
      omega
    · rw [hnow d hd]
      exact h.past c hc
  · rcases List.mem_append.1 hc with hc | hc
    · exact Int.le_trans (h.past c hc) hclock
    · rw [hnow c hc]
      exact hclock

/-- Whether or not the socket is there, its charges were decided on the ones before them. -/
theorem Kept.decided (h : Kept cs s) (id : Nat) (kind : BudgetKind) :
    FixedWindow.Decided kind.windowMs kind.cap (onSocket id kind cs) := by
  cases hget : s.sockets.get id with
  | none =>
    rw [onSocket_eq_nil (h.fresh id hget)]
    exact (spent_nil id).decided kind
  | some ws => exact (h.spent id ws hget).decided kind

/-- A socket that completed hello has it from then on. -/
def Greeted (id : Nat) (r : Running) : Prop := ∃ ws, r.hub.sockets.get id = some ws ∧ ws.hello = true

theorem Greeted.turn {r : Running} (h : Greeted id r) (t : Turn) : Greeted id (turn storedPairHash r t) := by
  obtain ⟨ws, hget, hhello⟩ := h
  have hstep := @socketStep storedPairHash r t id
  cases hstep with
  | charged ws' w hget' hw hcharging hello =>
    obtain rfl := Option.some.inj (hget.symm.trans hget')
    exact ⟨w, hw, hello hhello⟩
  | left ws' w hget' hw hbudget hello hothers =>
    obtain rfl := Option.some.inj (hget.symm.trans hget')
    exact ⟨w, hw, hello.trans hhello⟩
  | absent hnone hget' hothers =>
    rw [hget] at hnone
    cases hnone

/-! ## Quotas -/

section
variable {quota : Table QuotaRow.key} {key : Int × String × QuotaKind} {installId : String} {limit : Option ℚ}

end

/-- The counters of a key are the calls answered for it, and used stays within what the calls passed. -/
structure Metered (cs : List Consumed) (stored : Nat × Nat) : Prop where
  counted : stored = (cs.countP (·.allowed), cs.countP fun c => !c.allowed)
  capped : ∀ bound, (∀ c ∈ cs, c.cap ≤ bound) → stored.1 ≤ bound

/-- **One more answer** is one more on its counter. -/
theorem Metered.snoc {cs : List Consumed} {stored : Nat × Nat} (h : Metered cs stored) {c : Consumed}
    (hallowed : c.allowed = true ↔ stored.1 < c.cap) :
    Metered (cs ++ [c]) (stored.1 + if c.allowed then 1 else 0, stored.2 + if c.allowed then 0 else 1) := by
  refine ⟨?_, fun bound hbound => ?_⟩
  · rw [h.counted, List.countP_append, List.countP_append, List.countP_singleton, List.countP_singleton]
    cases c.allowed with
    | false => rfl
    | true => rfl
  · have hbefore := h.capped bound fun d hd => hbound d (List.mem_append_left _ hd)
    have hcap := hbound c (List.mem_append_right _ List.mem_cons_self)
    dsimp only
    split
    · rename_i ha
      have := hallowed.1 ha
      omega
    · omega

end Atra.Hub
