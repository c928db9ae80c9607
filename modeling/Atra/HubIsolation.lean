import Atra.GatewayHub
/-!
# HubIsolation — installations are isolated on the hub, foreign replies apart

What a frame does is said once (`Handled`): the tables wait, the sockets of other installations stay, and the commands change
by a reply only.  From it each step leaves what the other installations have, an answer has its origin in a reply of its own
installation, and each command is resolved once.  All of it fails at the first reply under a request id of another
installation's command, so a run is isolated exactly when it has none.
-/
namespace Atra.Hub

open Gateway (D1 PairCode LinkRow storePairOffer unlinkInstall withoutUnused storePairOffer_cases get_withoutUnused)

variable {storedPairHash : String → String} {s s' : HubState} {ws : HubSocket} {installId requestId : String} {i : Nat}
  {clock : Int} {es : List Event}

/-! ## What an installation has -/

theorem view_congr (hdb : s'.db = s.db) (hquota : s'.quota = s.quota) (hclock : s'.clock = s.clock)
    (hsockets : s'.sockets.rows.filter (fun w => w.installId = installId) = s.sockets.rows.filter fun w => w.installId = installId)
    (hanswers : (view s' installId).answers = (view s installId).answers) : view s' installId = view s installId := by
  unfold view at hanswers ⊢
  dsimp only at hanswers
  rw [hdb, hquota, hclock, hsockets, hanswers]

theorem filter_put_socket {sockets : Table HubSocket.id} {w w₀ : HubSocket} (h : sockets.get w.id = some w₀)
    (h₀ : w₀.installId ≠ installId) (hw : w.installId ≠ installId) :
    (sockets.put w).rows.filter (fun w => w.installId = installId) = sockets.rows.filter fun w => w.installId = installId := by
  apply Table.filter_put
  · simpa using hw
  · intro x hx
    obtain rfl := Option.some.inj (h.symm.trans hx)
    simpa using h₀

/-- A change of one member that a test rejects leaves what passes it. -/
theorem filter_map_modify {α β : Type} {p : α → Bool} {f : α → α} {g : α → β} (l : List α) (i : Nat)
    (h : ∀ x, l[i]? = some x → p x = false ∧ p (f x) = false) :
    ((l.modify i f).filter p).map g = (l.filter p).map g := by
  induction l generalizing i with
  | nil => simp
  | cons x xs ih =>
    cases i with
    | zero =>
      obtain ⟨hx, hfx⟩ := h x rfl
      rw [List.modify_zero_cons, List.filter_cons_of_neg (by simp [hfx]), List.filter_cons_of_neg (by simp [hx])]
    | succ i =>
      have hxs := ih i h
      rw [List.modify_succ_cons, List.filter_cons, List.filter_cons]
      by_cases hx : p x = true
      · rw [if_pos hx, if_pos hx, List.map_cons, List.map_cons, hxs]
      · rw [if_neg hx, if_neg hx, hxs]

theorem answers_resolve {result : Option String} (h : ∀ d, s.dispatches[i]? = some d → d.installId ≠ installId) :
    (view (resolve s i result) installId).answers = (view s installId).answers :=
  filter_map_modify _ _ fun d hd => ⟨by simpa using h d hd, by simpa using h d hd⟩

/-! ## What a frame does -/

theorem charge_eq (s : HubState) (ws : HubSocket) (kind : BudgetKind) :
    ∃ w : HubSocket, w.id = ws.id ∧ w.installId = ws.installId ∧ w.hello = ws.hello ∧
      w.budget = some (spendBudget ws.budget kind s.clock).1 ∧
      (charge s ws kind).1 = { s with sockets := s.sockets.put w } ∧
      (charge s ws kind).2 = if (spendBudget ws.budget kind s.clock).2 then some w else none := by
  unfold charge
  dsimp only
  by_cases h : (spendBudget ws.budget kind s.clock).2 = true
  · rw [if_pos h]
    exact ⟨{ ws with budget := some (spendBudget ws.budget kind s.clock).1 }, rfl, rfl, rfl, rfl, rfl, (if_pos h).symm⟩
  · rw [if_neg h]
    exact ⟨{ ws with budget := some (spendBudget ws.budget kind s.clock).1, isOpen := false }, rfl, rfl, rfl, rfl, rfl,
      (if_neg h).symm⟩

/-- What handling a message of a socket may do. -/
structure Handled (s : HubState) (ws : HubSocket) (message : Message) (s' : HubState) : Prop where
  db : s'.db = s.db
  quota : s'.quota = s.quota
  clock : s'.clock = s.clock
  sockets : ∀ installId, installId ≠ ws.installId →
    s'.sockets.rows.filter (fun w => w.installId = installId) = s.sockets.rows.filter fun w => w.installId = installId
  waiting : ∃ more, s'.waiting = s.waiting ++ more ∧
    ∀ w ∈ more, ∀ stored expiresAt now, w.statement = .offer stored expiresAt now → now = s.clock
  commands : (s'.pending = s.pending ∧ s'.dispatches = s.dispatches) ∨
    ∃ requestId text, message = .frame (.reply requestId text) ∧ ws.hello = true ∧
      (spendBudget ws.budget .frame s.clock).2 = true ∧ s'.pending = (reply s requestId text).pending ∧
      s'.dispatches = (reply s requestId text).dispatches

/-- The hub with other sockets, the same for the other installations. -/
structure Charged (s : HubState) (ws : HubSocket) (sockets : Table HubSocket.id) : Prop where
  others : ∀ installId, installId ≠ ws.installId →
    sockets.rows.filter (fun w => w.installId = installId) = s.sockets.rows.filter fun w => w.installId = installId
  own : ∃ w, sockets.get ws.id = some w ∧ w.installId = ws.installId

theorem Charged.put {sockets : Table HubSocket.id} (h : Charged s ws sockets) {w : HubSocket} (hid : w.id = ws.id)
    (hinstall : w.installId = ws.installId) : Charged s ws (sockets.put w) := by
  obtain ⟨w₀, hget, h₀⟩ := h.own
  refine ⟨fun installId hne => ?_, w, by rw [Table.get_put, if_pos hid.symm], hinstall⟩
  rw [← h.others installId hne]
  refine @filter_put_socket _ _ _ w₀ (hid ▸ hget) ?_ ?_
  · rw [h₀]
    exact hne.symm
  · rw [hinstall]
    exact hne.symm

theorem Charged.handled {sockets : Table HubSocket.id} (h : Charged s ws sockets) (message : Message) :
    Handled s ws message { s with sockets } :=
  ⟨rfl, rfl, rfl, h.others, ⟨[], (List.append_nil _).symm, fun _ hw => by cases hw⟩, .inl ⟨rfl, rfl⟩⟩

theorem reply_sockets (requestId text : String) (sockets : Table HubSocket.id) :
    reply { s with sockets } requestId text = { reply s requestId text with sockets } := by
  unfold reply
  dsimp only
  cases s.pending.lookup requestId with
  | none => rfl
  | some i => rfl

theorem reply_rest (s : HubState) (requestId text : String) : (reply s requestId text).db = s.db ∧
    (reply s requestId text).quota = s.quota ∧ (reply s requestId text).clock = s.clock ∧
    (reply s requestId text).waiting = s.waiting := by
  unfold reply
  cases s.pending.lookup requestId with
  | none => exact ⟨rfl, rfl, rfl, rfl⟩
  | some i => exact ⟨rfl, rfl, rfl, rfl⟩

/-- **What a charged frame does.** -/
theorem Charged.handleFrame {sockets : Table HubSocket.id} (h : Charged s ws sockets) {w : HubSocket} (hid : w.id = ws.id)
    (hinstall : w.installId = ws.installId) (f : RuntimeFrame) (hhello : isHello f = false → ws.hello = true)
    (hbudget : (spendBudget ws.budget .frame s.clock).2 = true) :
    Handled s ws (.frame f) (handleFrame storedPairHash { s with sockets } w f) := by
  cases f with
  | hello installationId runtimeVersion =>
    have hput : Charged s ws (sockets.put { w with hello := true }) := h.put hid hinstall
    exact hput.handled _
  | pairOffer codeHash expiresAt =>
    unfold Hub.handleFrame
    dsimp only
    by_cases hexp : expiresAt ≤ s.clock
    · rw [if_pos hexp]
      exact h.handled _
    · rw [if_neg hexp]
      refine ⟨rfl, rfl, rfl, h.others, ⟨_, rfl, fun w' hw' stored expiresAt' now hs => ?_⟩, .inl ⟨rfl, rfl⟩⟩
      obtain rfl := List.mem_singleton.1 hw'
      obtain ⟨-, -, rfl⟩ := Statement.offer.inj hs
      rfl
  | pairRevoke =>
    refine ⟨rfl, rfl, rfl, h.others, ⟨_, rfl, fun w' hw' stored expiresAt' now hs => ?_⟩, .inl ⟨rfl, rfl⟩⟩
    obtain rfl := List.mem_singleton.1 hw'
    cases hs
  | reply requestId text =>
    show Handled s ws _ (reply { s with sockets } requestId text)
    rw [reply_sockets]
    obtain ⟨hdb, hquota, hclock, hwaiting⟩ := reply_rest s requestId text
    exact ⟨hdb, hquota, hclock, h.others, ⟨[], by rw [List.append_nil]; exact hwaiting, fun _ hw => by cases hw⟩,
      .inr ⟨requestId, text, rfl, hhello rfl, hbudget, rfl, rfl⟩⟩
  | notify kind text => exact h.handled _

/-- **What handling a message does.** -/
theorem handled (hget : s.sockets.get ws.id = some ws) (message : Message) :
    Handled s ws message (webSocketMessage storedPairHash s ws message) := by
  have hstart : Charged s ws s.sockets := ⟨fun _ _ => rfl, ws, hget, rfl⟩
  obtain ⟨w, hid, hinstall, hhello, -, hfirst, hsecond⟩ := charge_eq s ws .frame
  have hcharged := hstart.put hid hinstall
  unfold webSocketMessage
  rcases hc : charge s ws .frame with ⟨s₁, r⟩
  rw [hc] at hfirst hsecond
  dsimp only at hfirst hsecond
  subst hfirst hsecond
  by_cases hb : (spendBudget ws.budget .frame s.clock).2 = true
  · rw [if_pos hb]
    dsimp only
    cases message with
    | binary => exact hcharged.handled _
    | invalid => exact hcharged.handled _
    | frame f =>
      dsimp only
      by_cases hh : (!isHello f && !w.hello) = true
      · rw [if_pos hh]
        exact hcharged.handled _
      · rw [if_neg hh]
        have hready : isHello f = false → ws.hello = true := fun hf => by simpa [hf, hhello] using hh
        cases hown : ownBudget f with
        | none => exact hcharged.handleFrame hid hinstall f hready hb
        | some kind =>
          obtain ⟨w', hid', hinstall', -, -, hfirst', hsecond'⟩ := charge_eq { s with sockets := s.sockets.put w } w kind
          have hcharged' := hcharged.put (hid'.trans hid) (hinstall'.trans hinstall)
          dsimp only
          rcases hc' : charge { s with sockets := s.sockets.put w } w kind with ⟨s₂, r'⟩
          rw [hc'] at hfirst' hsecond'
          dsimp only at hfirst' hsecond'
          subst hfirst' hsecond'
          by_cases hb' : (spendBudget w.budget kind s.clock).2 = true
          · rw [if_pos hb']
            exact hcharged'.handleFrame (hid'.trans hid) (hinstall'.trans hinstall) f hready hb
          · rw [if_neg hb']
            exact hcharged'.handled _
  · rw [if_neg hb]
    exact hcharged.handled _

theorem dispatches_reply {text : String} (hhello : ws.hello = true)
    (hbudget : (spendBudget ws.budget .frame s.clock).2 = true) :
    (webSocketMessage storedPairHash s ws (.frame (.reply requestId text))).dispatches = (reply s requestId text).dispatches := by
  obtain ⟨w, -, -, hw, -, hfirst, hsecond⟩ := charge_eq s ws .frame
  unfold webSocketMessage
  rcases hc : charge s ws .frame with ⟨s₁, r⟩
  rw [hc] at hfirst hsecond
  dsimp only at hfirst hsecond
  subst hfirst hsecond
  rw [if_pos hbudget]
  dsimp only
  rw [if_neg (by simp [isHello, hw, hhello])]
  show (reply { s with sockets := s.sockets.put w } requestId text).dispatches = _
  rw [reply_sockets]

/-! ## Commands -/

/-- What waits, waits under its own request id and is unresolved; no command is resolved twice; the offers that wait read the
clock before. -/
structure Sound (s : HubState) : Prop where
  pending : ∀ entry ∈ s.pending, ∃ d, s.dispatches[entry.2]? = some d ∧ d.requestId = entry.1 ∧ d.results = []
  single : ∀ d ∈ s.dispatches, d.results.length ≤ 1
  past : ∀ w ∈ s.waiting, ∀ stored expiresAt now, w.statement = .offer stored expiresAt now → now ≤ s.clock

/-- What one event does to the commands and to what waits for a reply; a text resolves a command it is a reply to. -/
inductive Commands (isReply : Dispatch → String → Prop) (p : List (String × Nat)) (ds : List Dispatch) :
    List (String × Nat) → List Dispatch → Prop where
  | same : Commands isReply p ds p ds
  | forwarded (installId requestId : String) :
    Commands isReply p ds ((requestId, ds.length) :: dropPending p requestId) (ds ++ [⟨installId, requestId, []⟩])
  | failed (installId requestId : String) :
    Commands isReply p ds (dropPending p requestId) (ds ++ [⟨installId, requestId, [none]⟩])
  | resolved (i : Nat) (d : Dispatch) (result : Option String) (hd : ds[i]? = some d) (hopen : d.results = [])
    (hreply : ∀ text, result = some text → isReply d text) :
    Commands isReply p ds (dropPending p d.requestId) (ds.modify i fun d => { d with results := d.results ++ [result] })

theorem Commands.imp {isReply isReply' : Dispatch → String → Prop} {p p' : List (String × Nat)} {ds ds' : List Dispatch}
    (h : Commands isReply p ds p' ds') (himp : ∀ d text, isReply d text → isReply' d text) :
    Commands isReply' p ds p' ds' := by
  cases h with
  | same => exact .same
  | forwarded installId requestId => exact .forwarded installId requestId
  | failed installId requestId => exact .failed installId requestId
  | resolved i d result hd hopen hreply => exact .resolved i d result hd hopen fun text ht => himp d text (hreply text ht)

/-- A text under the request id of a command that waits. -/
def IsReply (s : HubState) (requestId text : String) (d : Dispatch) (t : String) : Prop :=
  t = text ∧ d.requestId = requestId ∧ ∃ i, s.pending.lookup requestId = some i ∧ s.dispatches[i]? = some d

/-- A reply of a socket that said hello, within its budget, to a command that waits. -/
def Answers (s : HubState) (e : Event) (d : Dispatch) (text : String) : Prop :=
  ∃ id ws, e = .message id (.frame (.reply d.requestId text)) ∧ s.sockets.get id = some ws ∧ ws.hello = true ∧
    (spendBudget ws.budget .frame s.clock).2 = true ∧ IsReply s d.requestId text d text

theorem mem_of_lookup {p : List (String × Nat)} (h : p.lookup requestId = some i) : (requestId, i) ∈ p := by
  obtain ⟨l₁, l₂, rfl, -⟩ := List.lookup_eq_some_iff.1 h
  simp

theorem commands_reply (h : Sound s) (requestId text : String) : Commands (IsReply s requestId text) s.pending s.dispatches
    (reply s requestId text).pending (reply s requestId text).dispatches := by
  unfold reply
  cases hl : s.pending.lookup requestId with
  | none => exact .same
  | some i =>
    obtain ⟨d, hd, hid, hopen⟩ := h.pending _ (mem_of_lookup hl)
    dsimp only at hd hid
    subst hid
    refine .resolved i d (some text) hd hopen fun t ht => ⟨(Option.some.inj ht).symm, rfl, i, hl, hd⟩

/-- **What a step does to the commands.** -/
theorem commands_step (h : Sound s) (e : Event) : Commands (Answers s e) s.pending s.dispatches
    (step storedPairHash s e).pending (step storedPairHash s e).dispatches := by
  cases e with
  | tick ms => exact .same
  | connect id installId =>
    unfold step
    dsimp only
    split
    · exact .same
    · exact .same
  | close id =>
    unfold step
    dsimp only
    split
    · exact .same
    · exact .same
  | message id message =>
    unfold step
    dsimp only
    cases hg : s.sockets.get id with
    | none => exact .same
    | some ws =>
      have hget : s.sockets.get ws.id = some ws := by rw [Table.key_of_get hg]; exact hg
      have hhandled : Handled s ws message (webSocketMessage storedPairHash s ws message) := handled hget message
      rcases hhandled.commands with ⟨hp, hd⟩ | ⟨r, text, rfl, hhello, hbudget, hp, hd⟩
      · dsimp only
        rw [hp, hd]
        exact .same
      · dsimp only
        rw [hp, hd]
        refine (commands_reply h r text).imp ?_
        rintro d t ⟨rfl, rfl, hwaits⟩
        exact ⟨id, ws, rfl, hg, hhello, hbudget, rfl, rfl, hwaits⟩
  | settle i ok =>
    unfold step
    dsimp only
    split
    · exact .same
    · exact .same
  | dispatch installId requestId sent =>
    unfold step dispatchCommand
    dsimp only
    cases liveSocket s installId with
    | none => exact .same
    | some w =>
      cases sent with
      | true => exact .forwarded installId requestId
      | false => exact .failed installId requestId
  | timeout i =>
    unfold step timeout
    dsimp only
    cases hd : s.dispatches[i]? with
    | none => exact .same
    | some d =>
      dsimp only
      by_cases hopen : d.results = []
      · rw [if_pos hopen]
        exact .resolved i d none hd hopen fun text ht => by cases ht
      · rw [if_neg hopen]
        exact .same
  | quota installId kind limit => exact .same
  | worker db => exact .same

theorem mem_dropPending {p : List (String × Nat)} {entry : String × Nat} :
    entry ∈ dropPending p requestId ↔ entry ∈ p ∧ entry.1 ≠ requestId := by
  unfold dropPending
  rw [List.mem_filter, decide_eq_true_eq]

/-- **The commands stay sound.** -/
theorem commands_sound {isReply : Dispatch → String → Prop} {p p' : List (String × Nat)} {ds ds' : List Dispatch}
    (hstep : Commands isReply p ds p' ds')
    (hp : ∀ entry ∈ p, ∃ d, ds[entry.2]? = some d ∧ d.requestId = entry.1 ∧ d.results = [])
    (hsingle : ∀ d ∈ ds, d.results.length ≤ 1) :
    (∀ entry ∈ p', ∃ d, ds'[entry.2]? = some d ∧ d.requestId = entry.1 ∧ d.results = []) ∧
      ∀ d ∈ ds', d.results.length ≤ 1 := by
  have hkept : ∀ entry ∈ p, ∀ d', ∃ d, (ds ++ [d'])[entry.2]? = some d ∧ d.requestId = entry.1 ∧ d.results = [] := by
    intro entry he d'
    obtain ⟨d, hd, h⟩ := hp entry he
    exact ⟨d, List.getElem?_append_left (List.getElem?_eq_some_iff.1 hd).1 ▸ hd, h⟩
  cases hstep with
  | same => exact ⟨hp, hsingle⟩
  | forwarded installId requestId =>
    refine ⟨fun entry he => ?_, fun d hd => ?_⟩
    · rcases List.mem_cons.1 he with rfl | he
      · exact ⟨⟨installId, requestId, []⟩, List.getElem?_concat_length, rfl, rfl⟩
      · exact hkept entry (mem_dropPending.1 he).1 _
    · rcases List.mem_append.1 hd with hd | hd
      · exact hsingle d hd
      · obtain rfl := List.mem_singleton.1 hd
        exact Nat.zero_le _
  | failed installId requestId =>
    refine ⟨fun entry he => hkept entry (mem_dropPending.1 he).1 _, fun d hd => ?_⟩
    rcases List.mem_append.1 hd with hd | hd
    · exact hsingle d hd
    · obtain rfl := List.mem_singleton.1 hd
      exact Nat.le_refl _
  | resolved i d result hd hopen hreply =>
    refine ⟨fun entry he => ?_, fun d' hd' => ?_⟩
    · -- what waited for the resolved command waited under its request id, and is gone
      obtain ⟨hin, hne⟩ := mem_dropPending.1 he
      obtain ⟨d', hd', hid, hopen'⟩ := hp entry hin
      have hi : i ≠ entry.2 := by
        rintro rfl
        obtain rfl := Option.some.inj (hd.symm.trans hd')
        exact hne hid.symm
      exact ⟨d', by rw [List.getElem?_modify_ne _ _ hi]; exact hd', hid, hopen'⟩
    · obtain ⟨j, hj⟩ := List.mem_iff_getElem?.1 hd'
      by_cases hij : i = j
      · subst hij
        rw [List.getElem?_modify_eq, hd] at hj
        obtain rfl := Option.some.inj hj
        show (d.results ++ [result]).length ≤ 1
        rw [hopen]
        exact Nat.le_refl _
      · rw [List.getElem?_modify_ne _ _ hij] at hj
        exact hsingle d' (List.mem_of_getElem? hj)

theorem past_step (h : Sound s) (e : Event) : ∀ w ∈ (step storedPairHash s e).waiting, ∀ stored expiresAt now,
    w.statement = .offer stored expiresAt now → now ≤ (step storedPairHash s e).clock := by
  cases e with
  | tick ms =>
    intro w hw stored expiresAt now hs
    show now ≤ s.clock + ms
    have hpast := h.past w hw stored expiresAt now hs
    omega
  | connect id installId =>
    unfold step
    dsimp only
    split
    · exact h.past
    · exact h.past
  | close id =>
    unfold step
    dsimp only
    split
    · exact h.past
    · exact h.past
  | message id message =>
    unfold step
    dsimp only
    cases hg : s.sockets.get id with
    | none => exact h.past
    | some ws =>
      have hget : s.sockets.get ws.id = some ws := by rw [Table.key_of_get hg]; exact hg
      have hhandled : Handled s ws message (webSocketMessage storedPairHash s ws message) := handled hget message
      obtain ⟨more, hwaiting, hmore⟩ := hhandled.waiting
      dsimp only
      rw [hwaiting, hhandled.clock]
      intro w hw stored expiresAt now hs
      rcases List.mem_append.1 hw with hw | hw
      · exact h.past w hw stored expiresAt now hs
      · exact (hmore w hw stored expiresAt now hs).le
  | settle i ok =>
    unfold step
    dsimp only
    cases s.waiting[i]? with
    | none => exact h.past
    | some w => exact fun w' hw' => h.past w' (List.mem_of_mem_eraseIdx hw')
  | dispatch installId requestId sent =>
    unfold step dispatchCommand
    dsimp only
    cases liveSocket s installId with
    | none => exact h.past
    | some w =>
      cases sent with
      | true => exact h.past
      | false => exact h.past
  | timeout i =>
    unfold step timeout
    dsimp only
    cases s.dispatches[i]? with
    | none => exact h.past
    | some d =>
      dsimp only
      split
      · exact h.past
      · exact h.past
  | quota installId kind limit => exact h.past
  | worker db => exact h.past

theorem sound_ran (es : List Event) : Sound (ran storedPairHash clock es) := by
  apply History.invariant
  · exact ⟨fun _ h => absurd h List.not_mem_nil, fun _ h => absurd h List.not_mem_nil, fun _ h => absurd h List.not_mem_nil⟩
  · intro s e h
    obtain ⟨hp, hsingle⟩ := commands_sound (commands_step h e) h.pending h.single
    exact ⟨hp, hsingle, past_step h e⟩

theorem ran_snoc (es : List Event) (e : Event) :
    ran storedPairHash clock (es ++ [e]) = step storedPairHash (ran storedPairHash clock es) e := History.after_snoc

/-- Once its timer is due a command is resolved. -/
theorem length_timeout (h : Sound s) {d : Dispatch} (hd : (timeout s i).dispatches[i]? = some d) : d.results.length = 1 := by
  unfold timeout at hd
  cases h₀ : s.dispatches[i]? with
  | none =>
    rw [h₀] at hd
    dsimp only at hd
    rw [h₀] at hd
    cases hd
  | some d₀ =>
    rw [h₀] at hd
    dsimp only at hd
    by_cases hopen : d₀.results = []
    · rw [if_pos hopen] at hd
      have hmodify : (s.dispatches.modify i fun d => { d with results := d.results ++ [none] })[i]? = some d := hd
      rw [List.getElem?_modify_eq, h₀] at hmodify
      obtain rfl := Option.some.inj hmodify
      show (d₀.results ++ [none]).length = 1
      rw [hopen]
      rfl
    · rw [if_neg hopen, h₀] at hd
      obtain rfl := Option.some.inj hd
      have hle := h.single d₀ (List.mem_of_getElem? h₀)
      have hpos : 0 < d₀.results.length := List.length_pos_iff.2 hopen
      omega

/-! ## Frames of another installation -/

theorem not_isLive_of_ne {c : PairCode} (h : c.installId ≠ installId) : isLive installId clock c = false := by
  unfold isLive
  simp [h]

theorem filter_withoutUnused {db : D1} {other : String} (hne : installId ≠ other) :
    (withoutUnused db other).rows.filter (isLive installId clock) = db.pairCodes.rows.filter (isLive installId clock) := by
  show (db.pairCodes.rows.filter _).filter _ = _
  rw [List.filter_filter]
  apply List.filter_congr
  intro c _
  by_cases hc : c.installId = installId
  · simp [hc, hne]
  · rw [not_isLive_of_ne hc]
    rfl

/-- **Another installation's statement** leaves the link and the live codes. -/
theorem carryOut_others {db : D1} {w : Waiting} (hne : installId ≠ w.installId)
    (hpast : ∀ stored expiresAt now, w.statement = .offer stored expiresAt now → now ≤ clock) :
    (carryOut db w).tgLinks.get installId = db.tgLinks.get installId ∧
      (carryOut db w).pairCodes.rows.filter (isLive installId clock) = db.pairCodes.rows.filter (isLive installId clock) := by
  unfold carryOut
  cases hs : w.statement with
  | revoke =>
    dsimp only
    exact ⟨by rw [unlinkInstall, Table.get_delete, if_neg hne], filter_withoutUnused hne⟩
  | offer stored expiresAt now =>
    dsimp only
    have hnow := hpast stored expiresAt now hs
    rcases storePairOffer_cases db w.installId stored expiresAt now with ⟨clamped, heq, hheld⟩ | heq
    · rw [heq]
      refine ⟨rfl, (Table.filter_put ?_ ?_).trans (filter_withoutUnused hne)⟩
      · exact not_isLive_of_ne hne.symm
      · -- a code that the offer takes over is used, or was expired when the offer read the clock
        intro held hget
        cases hu : held.usedAt with
        | some t => simp [isLive, hu]
        | none =>
          have hexp := hheld held hget hu
          simp only [isLive, Bool.and_eq_false_iff, decide_eq_false_iff_not]
          exact .inr (by omega)
    · rw [heq]
      exact ⟨rfl, filter_withoutUnused hne⟩

theorem own_of_not_foreign {id : Nat} {text : String} (hget : s.sockets.get id = some ws) (hhello : ws.hello = true)
    (hbudget : (spendBudget ws.budget .frame s.clock).2 = true)
    (h : isForeign s (.message id (.frame (.reply requestId text))) = false) {d : Dispatch}
    (hl : s.pending.lookup requestId = some i) (hd : s.dispatches[i]? = some d) : d.installId = ws.installId := by
  unfold isForeign at h
  dsimp only at h
  rw [hget, Option.any_some, hhello, hbudget, hl, Option.bind_some, hd, Option.any_some] at h
  simpa using h

/-- **A step for another installation's frame** leaves what an installation has, unless it is a foreign reply. -/
theorem view_step (h : Sound s) {e : Event} {other : String} (hsender : sender s e = some other) (hne : installId ≠ other)
    (hforeign : isForeign s e = false) : view (step storedPairHash s e) installId = view s installId := by
  cases e with
  | tick | connect | close | dispatch | timeout | quota | worker => cases hsender
  | message id message =>
    obtain ⟨ws, hg, rfl⟩ := Option.map_eq_some_iff.1 hsender
    have hget : s.sockets.get ws.id = some ws := by rw [Table.key_of_get hg]; exact hg
    have hhandled : Handled s ws message (webSocketMessage storedPairHash s ws message) := handled hget message
    unfold step
    dsimp only
    rw [hg]
    refine view_congr hhandled.db hhandled.quota hhandled.clock (hhandled.sockets installId hne) ?_
    rcases hhandled.commands with ⟨-, hd⟩ | ⟨requestId, text, rfl, hhello, hbudget, -, hd⟩
    · unfold view
      rw [hd]
    · have hanswers : (view (reply s requestId text) installId).answers = (view s installId).answers := by
        unfold reply
        cases hl : s.pending.lookup requestId with
        | none => rfl
        | some i =>
          refine answers_resolve (s := { s with pending := dropPending s.pending requestId }) fun d hi => ?_
          rw [own_of_not_foreign hg hhello hbudget hforeign hl hi]
          exact hne.symm
      rw [← hanswers]
      unfold view
      rw [hd]
  | settle i ok =>
    obtain ⟨w, hw, rfl⟩ := Option.map_eq_some_iff.1 hsender
    unfold step
    dsimp only
    rw [hw]
    cases ok with
    | false => rfl
    | true =>
      obtain ⟨hlink, hcodes⟩ := @carryOut_others _ _ s.db _ hne (h.past w (List.mem_of_getElem? hw))
      unfold view
      dsimp only
      rw [if_pos rfl, hlink, hcodes]

theorem answer_step {isReply : Dispatch → String → Prop} {p p' : List (String × Nat)} {ds ds' : List Dispatch}
    (hstep : Commands isReply p ds p' ds') {d' : Dispatch} (hd' : d' ∈ ds') {text : String} (ht : some text ∈ d'.results) :
    ∃ d, d.requestId = d'.requestId ∧ d.installId = d'.installId ∧ (d ∈ ds ∧ some text ∈ d.results ∨ isReply d text) := by
  cases hstep with
  | same => exact ⟨d', rfl, rfl, .inl ⟨hd', ht⟩⟩
  | forwarded installId requestId =>
    rcases List.mem_append.1 hd' with hd' | hd'
    · exact ⟨d', rfl, rfl, .inl ⟨hd', ht⟩⟩
    · obtain rfl := List.mem_singleton.1 hd'
      cases ht
  | failed installId requestId =>
    rcases List.mem_append.1 hd' with hd' | hd'
    · exact ⟨d', rfl, rfl, .inl ⟨hd', ht⟩⟩
    · obtain rfl := List.mem_singleton.1 hd'
      cases List.mem_singleton.1 ht
  | resolved i d result hd hopen hreply =>
    obtain ⟨j, hj⟩ := List.mem_iff_getElem?.1 hd'
    by_cases hij : i = j
    · subst hij
      rw [List.getElem?_modify_eq, hd] at hj
      obtain rfl := Option.some.inj hj
      refine ⟨d, rfl, rfl, .inr (hreply text ?_)⟩
      replace ht : some text ∈ d.results ++ [result] := ht
      rw [hopen] at ht
      exact (List.mem_singleton.1 ht).symm
    · rw [List.getElem?_modify_ne _ _ hij] at hj
      exact ⟨d', rfl, rfl, .inl ⟨List.mem_of_getElem? hj, ht⟩⟩

theorem length_answers_resolve {d : Dispatch} (hd : s.dispatches[i]? = some d) (result : Option String) :
    (view (resolve s i result) d.installId).answers.flatten.length = (view s d.installId).answers.flatten.length + 1 := by
  show (((s.dispatches.modify i _).filter _).map Dispatch.results).flatten.length = _
  unfold view
  dsimp only
  generalize s.dispatches = ds at hd
  induction ds generalizing i with
  | nil => cases hd
  | cons x xs ih =>
    cases i with
    | zero =>
      obtain rfl := Option.some.inj hd
      rw [List.modify_zero_cons, List.filter_cons_of_pos (by simp), List.filter_cons_of_pos (by simp)]
      simp only [List.map_cons, List.flatten_cons, List.length_append, List.length_singleton]
      omega
    | succ i =>
      have hxs := ih hd
      rw [List.modify_succ_cons, List.filter_cons, List.filter_cons]
      by_cases hx : x.installId = d.installId
      · rw [if_pos (by simpa using hx), if_pos (by simpa using hx)]
        simp only [List.map_cons, List.flatten_cons, List.length_append]
        omega
      · rw [if_neg (by simpa using hx), if_neg (by simpa using hx)]
        exact hxs

theorem eq_of_foreign {e : Event} (h : isForeign s e = true) : ∃ id requestId text ws i d,
    e = .message id (.frame (.reply requestId text)) ∧ s.sockets.get id = some ws ∧ ws.hello = true ∧
    (spendBudget ws.budget .frame s.clock).2 = true ∧ s.pending.lookup requestId = some i ∧
    s.dispatches[i]? = some d ∧ d.installId ≠ ws.installId := by
  unfold isForeign at h
  split at h
  · rename_i id requestId text
    obtain ⟨ws, hg, hws⟩ := (Option.any_eq_true _ _).1 h
    rw [Bool.and_eq_true, Bool.and_eq_true] at hws
    obtain ⟨⟨hhello, hbudget⟩, hany⟩ := hws
    obtain ⟨d, hd, hne⟩ := (Option.any_eq_true _ _).1 hany
    obtain ⟨i, hl, hi⟩ := Option.bind_eq_some_iff.1 hd
    exact ⟨id, requestId, text, ws, i, d, rfl, hg, hhello, hbudget, hl, hi, by simpa using hne⟩
  · cases h

/-! ## Runs -/

/-- **An answer comes from a reply of its own installation**, in a run without foreign replies. -/
theorem origin_along (h : History.Along (step storedPairHash) (fun s e => isForeign s e = false) (start clock) es) {d : Dispatch}
    (hd : d ∈ (ran storedPairHash clock es).dispatches) {text : String} (ht : some text ∈ d.results) :
    ∃ pre id post ws, es = pre ++ .message id (.frame (.reply d.requestId text)) :: post ∧
      (ran storedPairHash clock pre).sockets.get id = some ws ∧ ws.installId = d.installId := by
  induction es using List.reverseRecOn generalizing d with
  | nil => cases hd
  | append_singleton es e ih =>
    obtain ⟨hpre, he⟩ := History.along_snoc.1 h
    rw [ran_snoc] at hd
    obtain ⟨d₀, hid, hinstall, ⟨hd₀, ht₀⟩ | ⟨id, ws, rfl, hg, hhello, hbudget, -, -, i, hl, hi⟩⟩ :=
      answer_step (commands_step (sound_ran es) e) hd ht
    · obtain ⟨pre, id, post, ws, rfl, hg, hws⟩ := ih hpre hd₀ ht₀
      refine ⟨pre, id, post ++ [e], ws, ?_, hg, hws.trans hinstall⟩
      rw [hid, List.append_assoc, List.cons_append]
    · refine ⟨es, id, [], ws, by rw [hid], hg, ?_⟩
      rw [← hinstall]
      exact (own_of_not_foreign hg hhello hbudget he hl hi).symm

/-- **Installations are isolated on the hub**, over exactly the runs without a reply under a request id of another
installation's command. -/
theorem isolated_iff (storedPairHash : String → String) (clock : Int) (es : List Event) :
    Isolated storedPairHash clock es ↔
      History.Along (step storedPairHash) (fun s e => isForeign s e = false) (start clock) es := by
  constructor
  · intro h
    rw [History.along_iff]
    rintro pre e post rfl
    by_contra hforeign
    replace hforeign : isForeign (ran storedPairHash clock pre) e = true := Bool.not_eq_false _ ▸ hforeign
    obtain ⟨id, requestId, text, ws, i, d, rfl, hg, hhello, hbudget, hl, hd, hne⟩ := eq_of_foreign hforeign
    -- the other installation's answers grow by the foreign reply
    have hview := h.apart pre _ post rfl ws.installId d.installId (by unfold sender; dsimp only; rw [hg]; rfl) hne
    have hanswers : (view (ran storedPairHash clock (pre ++ [.message id (.frame (.reply requestId text))])) d.installId).answers =
        (view (resolve (ran storedPairHash clock pre) i (some text)) d.installId).answers := by
      rw [ran_snoc]
      unfold view step
      dsimp only
      rw [hg]
      dsimp only
      rw [dispatches_reply hhello hbudget]
      unfold reply
      rw [hl]
      rfl
    have hlength := length_answers_resolve hd (some text)
    rw [← hanswers, hview] at hlength
    omega
  · intro h
    refine ⟨fun d hd text ht => origin_along h hd ht, ?_, ?_, ?_⟩
    · rintro pre e post rfl other installId hsender hne
      rw [ran_snoc]
      exact view_step (sound_ran pre) hsender hne (History.along_iff.1 h pre e post rfl)
    · intro i d hd
      refine ⟨(sound_ran es).single d (List.mem_of_getElem? hd), fun hresolved entry he hi => ?_⟩
      obtain ⟨d', hd', -, hopen⟩ := (sound_ran es).pending entry he
      rw [hi, hd] at hd'
      obtain rfl := Option.some.inj hd'
      exact hresolved hopen
    · rintro pre i post rfl d hd
      rw [ran_snoc] at hd
      exact length_timeout (sound_ran pre) hd

/-- A hostile runtime answers the command of another installation's chat. -/
theorem foreign_not_isolated : ¬ Isolated (fun hash => hash) 0
    [.connect 1 "a", .message 1 (.frame (.hello "a" "1")), .connect 2 "b", .message 2 (.frame (.hello "b" "1")),
      .dispatch "a" "r" true, .message 2 (.frame (.reply "r" "x"))] := by
  intro h
  have hview := h.apart [.connect 1 "a", .message 1 (.frame (.hello "a" "1")), .connect 2 "b",
    .message 2 (.frame (.hello "b" "1")), .dispatch "a" "r" true] (.message 2 (.frame (.reply "r" "x"))) [] rfl "b" "a"
    (by decide +kernel) (by decide)
  have hanswers := congrArg View.answers hview
  revert hanswers
  decide +kernel

end Atra.Hub
