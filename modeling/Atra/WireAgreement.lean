import Atra.Wire
/-!
# WireAgreement — which frames reach the other side whole

What a schema takes is within it, and what is within it is taken back from its encoding, so a frame arrives exactly when
its values are valid and, towards the gateway, its text is short enough.  The length of a frame is that of its escaped texts
and of its digits.
-/
namespace Atra.Wire

open Js Js.Reading

/-! ## Payloads of the runtime -/

/-- What the gateway's schemas take. -/
def OutboundPayload.Valid : OutboundPayload → Prop
  | .hello installationId runtimeVersion capabilities =>
    (1 ≤ installationId.length ∧ installationId.length ≤ 64) ∧ runtimeVersion.length ≤ 64 ∧
      capabilities.length ≤ 16 ∧ ∀ s ∈ capabilities, s.length ≤ 32
  | .pairOffer codeHash expiresAt =>
    (codeHash.length = 64 ∧ codeHash.all isHexUnit = true) ∧ 1 ≤ expiresAt ∧ Safe expiresAt
  | .pairRevoke => True
  | .reply requestId body => (1 ≤ requestId.length ∧ requestId.length ≤ 64) ∧ body.length ≤ MAX_TELEGRAM_TEXT
  | .notify kind body => (1 ≤ kind.length ∧ kind.length ≤ 64) ∧ 1 ≤ body.length ∧ body.length ≤ MAX_TELEGRAM_TEXT

section
variable {j : Json} {p : OutboundPayload}

theorem helloFrameSchema_eq_some : helloFrameSchema j = some p ↔
    ∃ installationId runtimeVersion capabilities, p = .hello installationId runtimeVersion capabilities ∧ p.Valid ∧
      j.get (text "installationId") = some (.str installationId) ∧
      j.get (text "runtimeVersion") = some (.str runtimeVersion) ∧
      j.get (text "capabilities") = some (.arr (capabilities.map .str)) := by
  simp only [helloFrameSchema, Option.bind_eq_bind, Option.bind_eq_some_iff, stringIn_eq_some, stringsIn_eq_some,
    Option.pure_def, Option.some.injEq]
  constructor
  · rintro ⟨i, ⟨hi, hmin, hmax⟩, v, ⟨hv, -, hversion⟩, c, ⟨hc, hcount, hcs⟩, rfl⟩
    exact ⟨i, v, c, rfl, ⟨⟨hmin, hmax⟩, hversion, hcount, hcs⟩, hi, hv, hc⟩
  · rintro ⟨i, v, c, rfl, ⟨⟨hmin, hmax⟩, hversion, hcount, hcs⟩, hi, hv, hc⟩
    exact ⟨i, ⟨hi, hmin, hmax⟩, v, ⟨hv, Nat.zero_le _, hversion⟩, c, ⟨hc, hcount, hcs⟩, rfl⟩

theorem pairOfferFrameSchema_eq_some : pairOfferFrameSchema j = some p ↔
    ∃ codeHash expiresAt, p = .pairOffer codeHash expiresAt ∧ p.Valid ∧
      j.get (text "codeHash") = some (.str codeHash) ∧ j.get (text "expiresAt") = some (.int expiresAt) := by
  simp only [pairOfferFrameSchema, Option.bind_eq_bind, Option.bind_eq_some_iff, Option.filter_eq_some_iff, stringIn_eq_some,
    intFrom_eq_some, Option.pure_def, Option.some.injEq]
  constructor
  · rintro ⟨c, ⟨⟨hc, hmin, hmax⟩, hhex⟩, n, ⟨hn, hpos, hsafe⟩, rfl⟩
    exact ⟨c, n, rfl, ⟨⟨le_antisymm hmax hmin, hhex⟩, hpos, hsafe⟩, hc, hn⟩
  · rintro ⟨c, n, rfl, ⟨⟨hlength, hhex⟩, hpos, hsafe⟩, hc, hn⟩
    exact ⟨c, ⟨⟨hc, hlength.ge, hlength.le⟩, hhex⟩, n, ⟨hn, hpos, hsafe⟩, rfl⟩

theorem replyFrameSchema_eq_some : replyFrameSchema j = some p ↔
    ∃ requestId body, p = .reply requestId body ∧ p.Valid ∧
      j.get (text "requestId") = some (.str requestId) ∧ j.get (text "text") = some (.str body) := by
  simp only [replyFrameSchema, Option.bind_eq_bind, Option.bind_eq_some_iff, stringIn_eq_some, Option.pure_def,
    Option.some.injEq]
  constructor
  · rintro ⟨r, ⟨hr, hmin, hmax⟩, t, ⟨ht, -, hbody⟩, rfl⟩
    exact ⟨r, t, rfl, ⟨⟨hmin, hmax⟩, hbody⟩, hr, ht⟩
  · rintro ⟨r, t, rfl, ⟨⟨hmin, hmax⟩, hbody⟩, hr, ht⟩
    exact ⟨r, ⟨hr, hmin, hmax⟩, t, ⟨ht, Nat.zero_le _, hbody⟩, rfl⟩

theorem notifyFrameSchema_eq_some : notifyFrameSchema j = some p ↔
    ∃ kind body, p = .notify kind body ∧ p.Valid ∧
      j.get (text "kind") = some (.str kind) ∧ j.get (text "text") = some (.str body) := by
  simp only [notifyFrameSchema, Option.bind_eq_bind, Option.bind_eq_some_iff, stringIn_eq_some, Option.pure_def,
    Option.some.injEq]
  constructor
  · rintro ⟨k, ⟨hk, hmin, hmax⟩, t, ⟨ht, hbody⟩, rfl⟩
    exact ⟨k, t, rfl, ⟨⟨hmin, hmax⟩, hbody⟩, hk, ht⟩
  · rintro ⟨k, t, rfl, ⟨⟨hmin, hmax⟩, hbody⟩, hk, ht⟩
    exact ⟨k, ⟨hk, hmin, hmax⟩, t, ⟨ht, hbody⟩, rfl⟩

theorem runtimeFrameSchema_valid (h : runtimeFrameSchema j = some p) : p.Valid := by
  unfold runtimeFrameSchema at h
  split at h
  · split_ifs at h with hhello hoffer hrevoke hreply hnotify
    · obtain ⟨_, _, _, -, hvalid, -⟩ := helloFrameSchema_eq_some.1 h
      exact hvalid
    · obtain ⟨_, _, -, hvalid, -⟩ := pairOfferFrameSchema_eq_some.1 h
      exact hvalid
    · obtain rfl := Option.some.inj h
      trivial
    · obtain ⟨_, _, -, hvalid, -⟩ := replyFrameSchema_eq_some.1 h
      exact hvalid
    · obtain ⟨_, _, -, hvalid, -⟩ := notifyFrameSchema_eq_some.1 h
      exact hvalid
  · cases h

theorem runtimeFrameSchema_of_type (type : Text) (h : j.get (text "type") = some (.str type)) :
    runtimeFrameSchema j =
      if type = text "hello" then helloFrameSchema j
      else if type = text "pair.offer" then pairOfferFrameSchema j
      else if type = text "pair.revoke" then some .pairRevoke
      else if type = text "reply" then replyFrameSchema j
      else if type = text "notify" then notifyFrameSchema j
      else none := by
  unfold runtimeFrameSchema
  rw [h]

theorem runtimeFrameSchema_members (e : Envelope) (h : p.Valid) :
    runtimeFrameSchema (.obj (e.members p.type p.members)) = some p := by
  cases p with
  | hello i v c =>
    rw [runtimeFrameSchema_of_type (text "hello") rfl, if_pos rfl, helloFrameSchema_eq_some]
    exact ⟨i, v, c, rfl, h, rfl, rfl, rfl⟩
  | pairOffer c n =>
    rw [runtimeFrameSchema_of_type (text "pair.offer") rfl, if_neg (by decide), if_pos rfl, pairOfferFrameSchema_eq_some]
    exact ⟨c, n, rfl, h, rfl, rfl⟩
  | pairRevoke => rfl
  | reply r t =>
    rw [runtimeFrameSchema_of_type (text "reply") rfl, if_neg (by decide), if_neg (by decide), if_neg (by decide), if_pos rfl,
      replyFrameSchema_eq_some]
    exact ⟨r, t, rfl, h, rfl, rfl⟩
  | notify k t =>
    rw [runtimeFrameSchema_of_type (text "notify") rfl, if_neg (by decide), if_neg (by decide), if_neg (by decide),
      if_neg (by decide), if_pos rfl, notifyFrameSchema_eq_some]
    exact ⟨k, t, rfl, h, rfl, rfl⟩

end

/-! ## Frames of the gateway -/

def TelegramIdentity.Valid (t : TelegramIdentity) : Prop := Safe t.userId ∧ Safe t.chatId ∧ t.displayName.length ≤ 256

/-- What the runtime's schemas take. -/
def GatewayFrame.Valid : GatewayFrame → Prop
  | .welcome _ telegram botUsername => (∀ t ∈ telegram, t.Valid) ∧ botUsername.length ≤ 64
  | .paired telegram pairedAt => telegram.Valid ∧ 0 ≤ pairedAt ∧ Safe pairedAt
  | .unpaired reason => reason.length ≤ 512
  | .command requestId updateId telegram body receivedAt =>
    (1 ≤ requestId.length ∧ requestId.length ≤ 128) ∧ (0 ≤ updateId ∧ Safe updateId) ∧ telegram.Valid ∧
      body.length ≤ 4096 ∧ 0 ≤ receivedAt ∧ Safe receivedAt
  | .error requestId code message => (∀ r ∈ requestId, r.length ≤ 128) ∧ code.length ≤ 64 ∧ message.length ≤ 1024

section
variable {j : Json} {f : GatewayFrame}

theorem identitySchema_valid {j : Option Json} {t : TelegramIdentity} (h : identitySchema j = some t) : t.Valid := by
  cases j with
  | none => cases h
  | some j =>
    simp only [identitySchema, Option.bind_eq_bind, Option.bind_eq_some_iff, intFrom_eq_some, stringIn_eq_some,
      Option.pure_def, Option.some.injEq] at h
    obtain ⟨u, ⟨-, -, hu⟩, c, ⟨-, -, hc⟩, d, ⟨-, -, hd⟩, rfl⟩ := h
    exact ⟨hu, hc, hd⟩

theorem identitySchema_json {t : TelegramIdentity} (h : t.Valid) : identitySchema (some t.json) = some t := by
  obtain ⟨hu, hc, hd⟩ := h
  simp only [identitySchema, Option.bind_eq_bind, Option.bind_eq_some_iff, intFrom_eq_some, stringIn_eq_some,
    Option.pure_def, Option.some.injEq]
  exact ⟨t.userId, ⟨rfl, hu.1, hu⟩, t.chatId, ⟨rfl, hc.1, hc⟩, t.displayName, ⟨rfl, Nat.zero_le _, hd⟩, rfl⟩

theorem nullableIdentity_valid {j : Option Json} {telegram : Option TelegramIdentity}
    (h : nullableIdentity j = some telegram) : ∀ t ∈ telegram, t.Valid := by
  unfold nullableIdentity at h
  split at h
  · obtain rfl := Option.some.inj h
    rintro t ⟨⟩
  · obtain ⟨t, ht, rfl⟩ := Option.map_eq_some_iff.1 h
    rintro _ ⟨⟩
    exact identitySchema_valid ht

theorem nullableIdentity_json {telegram : Option TelegramIdentity} (h : ∀ t ∈ telegram, t.Valid) :
    nullableIdentity (some ((telegram.map TelegramIdentity.json).getD .null)) = some telegram := by
  cases telegram with
  | none => rfl
  | some t =>
    show (identitySchema (some t.json)).map some = _
    rw [identitySchema_json (h t rfl)]
    rfl

theorem optionalString_eq_some {hi : Nat} {j : Option Json} {s : Option Text} :
    optionalString hi j = some s ↔ j = s.map .str ∧ ∀ r ∈ s, r.length ≤ hi := by
  cases j with
  | none => cases s <;> simp [optionalString]
  | some j =>
    show (stringIn 0 hi (some j)).map some = some s ↔ _
    rw [Option.map_eq_some_iff]
    simp only [stringIn_eq_some]
    constructor
    · rintro ⟨r, ⟨hj, -, hr⟩, rfl⟩
      refine ⟨hj, ?_⟩
      rintro _ ⟨⟩
      exact hr
    · rintro ⟨hj, hs⟩
      cases s with
      | none => cases hj
      | some r => exact ⟨r, ⟨hj, Nat.zero_le _, hs r rfl⟩, rfl⟩

theorem inboundFrameSchema_valid (h : inboundFrameSchema j = some f) : f.Valid := by
  unfold inboundFrameSchema at h
  split at h
  · split_ifs at h with hwelcome hpaired hunpaired hcommand herror
    · simp only [welcomeFrameSchema, Option.bind_eq_bind, Option.bind_eq_some_iff, stringIn_eq_some, Option.pure_def,
        Option.some.injEq] at h
      obtain ⟨_, -, _, ht, _, ⟨-, -, hb⟩, rfl⟩ := h
      exact ⟨nullableIdentity_valid ht, hb⟩
    · simp only [pairedFrameSchema, Option.bind_eq_bind, Option.bind_eq_some_iff, intFrom_eq_some, Option.pure_def,
        Option.some.injEq] at h
      obtain ⟨_, ht, _, ⟨-, hp⟩, rfl⟩ := h
      exact ⟨identitySchema_valid ht, hp⟩
    · simp only [unpairedFrameSchema, Option.bind_eq_bind, Option.bind_eq_some_iff, stringIn_eq_some, Option.pure_def,
        Option.some.injEq] at h
      obtain ⟨_, ⟨-, -, hr⟩, rfl⟩ := h
      exact hr
    · simp only [commandFrameSchema, Option.bind_eq_bind, Option.bind_eq_some_iff, stringIn_eq_some, intFrom_eq_some,
        Option.pure_def, Option.some.injEq] at h
      obtain ⟨_, ⟨-, hr⟩, _, ⟨-, hu⟩, _, ht, _, ⟨-, -, hb⟩, _, ⟨-, hat⟩, rfl⟩ := h
      exact ⟨hr, hu, identitySchema_valid ht, hb, hat⟩
    · simp only [errorFrameSchema, Option.bind_eq_bind, Option.bind_eq_some_iff, stringIn_eq_some, optionalString_eq_some,
        Option.pure_def, Option.some.injEq] at h
      obtain ⟨_, ⟨-, hr⟩, _, ⟨-, -, hc⟩, _, ⟨-, -, hm⟩, rfl⟩ := h
      exact ⟨hr, hc, hm⟩
  · cases h

theorem inboundFrameSchema_of_type (type : Text) (h : j.get (text "type") = some (.str type)) :
    inboundFrameSchema j =
      if type = text "welcome" then welcomeFrameSchema j
      else if type = text "paired" then pairedFrameSchema j
      else if type = text "unpaired" then unpairedFrameSchema j
      else if type = text "command" then commandFrameSchema j
      else if type = text "error" then errorFrameSchema j
      else none := by
  unfold inboundFrameSchema
  rw [h]

theorem inboundFrameSchema_members (e : Envelope) (h : f.Valid) :
    inboundFrameSchema (.obj (e.members f.type f.members)) = some f := by
  cases f with
  | welcome isPaired telegram botUsername =>
    rw [inboundFrameSchema_of_type (text "welcome") rfl, if_pos rfl]
    simp only [welcomeFrameSchema, Option.bind_eq_bind, Option.bind_eq_some_iff, boolean_eq_some, stringIn_eq_some,
      Option.pure_def, Option.some.injEq]
    exact ⟨isPaired, rfl, telegram, nullableIdentity_json h.1, botUsername, ⟨rfl, Nat.zero_le _, h.2⟩, rfl⟩
  | paired telegram pairedAt =>
    rw [inboundFrameSchema_of_type (text "paired") rfl, if_neg (by decide), if_pos rfl]
    simp only [pairedFrameSchema, Option.bind_eq_bind, Option.bind_eq_some_iff, intFrom_eq_some, Option.pure_def,
      Option.some.injEq]
    exact ⟨telegram, identitySchema_json h.1, pairedAt, ⟨rfl, h.2⟩, rfl⟩
  | unpaired reason =>
    rw [inboundFrameSchema_of_type (text "unpaired") rfl, if_neg (by decide), if_neg (by decide), if_pos rfl]
    simp only [unpairedFrameSchema, Option.bind_eq_bind, Option.bind_eq_some_iff, stringIn_eq_some, Option.pure_def,
      Option.some.injEq]
    exact ⟨reason, ⟨rfl, Nat.zero_le _, h⟩, rfl⟩
  | command requestId updateId telegram body receivedAt =>
    obtain ⟨hr, hu, ht, hb, hat⟩ := h
    rw [inboundFrameSchema_of_type (text "command") rfl, if_neg (by decide), if_neg (by decide), if_neg (by decide),
      if_pos rfl]
    simp only [commandFrameSchema, Option.bind_eq_bind, Option.bind_eq_some_iff, stringIn_eq_some, intFrom_eq_some,
      Option.pure_def, Option.some.injEq]
    exact ⟨requestId, ⟨rfl, hr⟩, updateId, ⟨rfl, hu⟩, telegram, identitySchema_json ht, body, ⟨rfl, Nat.zero_le _, hb⟩,
      receivedAt, ⟨rfl, hat⟩, rfl⟩
  | error requestId code message =>
    obtain ⟨hr, hc, hm⟩ := h
    rw [inboundFrameSchema_of_type (text "error") rfl, if_neg (by decide), if_neg (by decide), if_neg (by decide),
      if_neg (by decide), if_pos rfl]
    simp only [errorFrameSchema, Option.bind_eq_bind, Option.bind_eq_some_iff, stringIn_eq_some, optionalString_eq_some,
      Option.pure_def, Option.some.injEq]
    cases requestId with
    | none => exact ⟨none, ⟨rfl, hr⟩, code, ⟨rfl, Nat.zero_le _, hc⟩, message, ⟨rfl, Nat.zero_le _, hm⟩, rfl⟩
    | some r => exact ⟨some r, ⟨rfl, hr⟩, code, ⟨rfl, Nat.zero_le _, hc⟩, message, ⟨rfl, Nat.zero_le _, hm⟩, rfl⟩

end

/-! ## Frames read back -/

section
variable {α : Type} {idMax : Nat} {payload : Json → Option α}

theorem frameSchema_payload {j : Json} {f : Frame α} (h : frameSchema idMax payload j = some f) :
    payload j = some f.payload := by
  unfold frameSchema at h
  split at h
  · simp only [Option.bind_eq_bind, Option.bind_eq_some_iff, Option.pure_def, Option.some.injEq] at h
    obtain ⟨_, -, _, -, p, hp, rfl⟩ := h
    exact hp
  · cases h

theorem frameSchema_members (e : Envelope) {type : String} {members : List (Text × Json)} {p : α} (hmax : 36 ≤ idMax)
    (h : payload (.obj (e.members type members)) = some p) :
    frameSchema idMax payload (.obj (e.members type members)) = some (e.frame p) := by
  have hid := e.id_length
  have hversion : isVersion (Json.get (.obj (e.members type members)) (text "v")) = true := rfl
  unfold frameSchema
  rw [if_pos hversion]
  simp only [Option.bind_eq_bind, Option.bind_eq_some_iff, stringIn_eq_some, intFrom_eq_some, Option.pure_def,
    Option.some.injEq]
  exact ⟨e.id, ⟨rfl, by omega, by omega⟩, e.ts, ⟨rfl, e.ts_nonneg, e.safe_ts⟩, p, h, rfl⟩

end

section
variable {number : Text → Option Json}

def IntegersRead (number : Text → Option Json) : Prop := ∀ n, Safe n → ReadsAs number (text (toString n)) (.int n)

theorem integersRead_plainNumber : IntegersRead plainNumber := fun n _ => readsAs_int n

theorem Envelope.readsBack (hnumber : IntegersRead number) (e : Envelope) {type : String} {payload : List (Text × Json)}
    (h : MembersReadBack number payload) : ReadsBack number (.obj (e.members type payload)) :=
  ⟨hnumber 1 (by decide), trivial, trivial, hnumber e.ts e.safe_ts, h⟩

theorem strings_readBack (ss : List Text) : ItemsReadBack number (ss.map .str) := by
  induction ss with
  | nil => trivial
  | cons s ss ih => exact ⟨trivial, ih⟩

theorem OutboundPayload.readsBack (hnumber : IntegersRead number) {p : OutboundPayload} (h : p.Valid) :
    MembersReadBack number p.members := by
  cases p with
  | hello i v c => exact ⟨trivial, trivial, strings_readBack c, trivial⟩
  | pairOffer c n => exact ⟨trivial, hnumber n h.2.2, trivial⟩
  | pairRevoke => trivial
  | reply r t => exact ⟨trivial, trivial, trivial⟩
  | notify k t => exact ⟨trivial, trivial, trivial⟩

theorem TelegramIdentity.readsBack (hnumber : IntegersRead number) {t : TelegramIdentity} (h : t.Valid) :
    ReadsBack number t.json :=
  ⟨hnumber _ h.1, hnumber _ h.2.1, trivial, trivial⟩

theorem GatewayFrame.readsBack (hnumber : IntegersRead number) {f : GatewayFrame} (h : f.Valid) :
    MembersReadBack number f.members := by
  cases f with
  | welcome isPaired telegram botUsername =>
    refine ⟨trivial, ?_, trivial, trivial⟩
    cases telegram with
    | none => trivial
    | some t => exact TelegramIdentity.readsBack hnumber (h.1 t rfl)
  | paired t at' => exact ⟨TelegramIdentity.readsBack hnumber h.1, hnumber _ h.2.2, trivial⟩
  | unpaired reason => exact ⟨trivial, trivial⟩
  | command r u t b at' =>
    obtain ⟨-, hu, ht, -, hat⟩ := h
    exact ⟨trivial, hnumber u hu.2, TelegramIdentity.readsBack hnumber ht, trivial, hnumber at' hat.2, trivial⟩
  | error r c m =>
    cases r with
    | none => exact ⟨trivial, trivial, trivial⟩
    | some r => exact ⟨trivial, trivial, trivial, trivial⟩

/-- **A frame of the runtime arrives** exactly when it is valid and short enough. -/
theorem decodeRuntimeFrame_iff (hnumber : IntegersRead number) (issue : Json → Option Issue) (e : Envelope)
    (p : OutboundPayload) :
    decodeRuntimeFrame number issue (p.encodeFrame e) = .ok (e.frame p) ↔
      p.Valid ∧ (p.encodeFrame e).length ≤ MAX_FRAME_BYTES := by
  unfold decodeRuntimeFrame
  by_cases hlong : MAX_FRAME_BYTES < (p.encodeFrame e).length
  · rw [if_pos hlong]
    exact ⟨fun h => (by cases h), fun h => absurd h.2 (Nat.not_le.2 hlong)⟩
  · rw [if_neg hlong]
    constructor
    · intro hok
      refine ⟨?_, Nat.not_lt.1 hlong⟩
      cases hparse : parse number (p.encodeFrame e) with
      | none => rw [hparse] at hok; cases hok
      | some j =>
        rw [hparse] at hok
        dsimp only at hok
        cases hschema : frameSchema 64 runtimeFrameSchema j with
        | none => rw [hschema] at hok; cases hok
        | some frame =>
          rw [hschema] at hok
          obtain rfl := Except.ok.inj hok
          exact runtimeFrameSchema_valid (frameSchema_payload hschema)
    · rintro ⟨hvalid, -⟩
      unfold OutboundPayload.encodeFrame
      rw [parse_stringify (Envelope.readsBack hnumber e (OutboundPayload.readsBack hnumber hvalid))]
      dsimp only
      rw [frameSchema_members e (by decide) (runtimeFrameSchema_members e hvalid)]

/-- **A frame of the gateway arrives** exactly when it is valid. -/
theorem decodeFrame_iff (hnumber : IntegersRead number) (e : Envelope) (f : GatewayFrame) :
    decodeFrame number (f.encodeFrame e) = .ok (e.frame f) ↔ f.Valid := by
  constructor
  · intro hok
    unfold decodeFrame at hok
    split at hok
    · split at hok
      · split at hok
        · split at hok
          · cases hok
          · rename_i frame hschema
            obtain rfl := Except.ok.inj hok
            exact inboundFrameSchema_valid (frameSchema_payload hschema)
        · cases hok
      · cases hok
    · cases hok
    · cases hok
  · intro hvalid
    have hknown : known.contains (text f.type) = true := by
      have hmem : f.type ∈ ["welcome", "paired", "unpaired", "command", "error"] := by
        cases f <;> simp [GatewayFrame.type]
      exact List.contains_iff_mem.2 (List.mem_map_of_mem hmem)
    have htype : Json.get (.obj (e.members f.type f.members)) (text "type") = some (.str (text f.type)) := rfl
    unfold decodeFrame GatewayFrame.encodeFrame
    rw [parse_stringify (Envelope.readsBack hnumber e (GatewayFrame.readsBack hnumber hvalid))]
    dsimp only
    rw [htype]
    dsimp only
    rw [if_pos hknown, frameSchema_members e (by decide) (inboundFrameSchema_members e hvalid)]

end

/-! ## The length of a frame -/

def unitCost (u : Nat) : Nat :=
  if [34, 92, 8, 12, 10, 13, 9].contains u then 2 else if u < 32 || isHigh u || isLow u then 6 else 1

/-- The units a text takes once it is escaped. -/
def cost : Text → Nat
  | [] => 0
  | [u] => unitCost u
  | u :: v :: rest => if isHigh u && isLow v then 2 + cost rest else unitCost u + cost (v :: rest)

/-- The digits of a number, and its sign. -/
def digits (n : Int) : Nat := (text (toString n)).length

theorem escape_length (u : Nat) : (escape u).length = unitCost u := by
  unfold escape unitCost
  split_ifs <;> simp_all [unicodeEscape]

theorem unitCost_le (u : Nat) : unitCost u ≤ 6 := by
  unfold unitCost
  split_ifs <;> decide

theorem escapeAll_length (s : Text) : (escapeAll s).length = cost s := by
  induction s using cost.induct with
  | case1 => rfl
  | case2 u => exact escape_length u
  | case3 u v rest hpair ih =>
    rw [escapeAll, cost, if_pos hpair, if_pos hpair, List.length_cons, List.length_cons, ih]
    omega
  | case4 u v rest hpair ih =>
    rw [escapeAll, cost, if_neg hpair, if_neg hpair, List.length_append, escape_length, ih]

theorem cost_le (s : Text) : cost s ≤ 6 * s.length := by
  induction s using cost.induct with
  | case1 => exact Nat.le_refl 0
  | case2 u => exact unitCost_le u
  | case3 u v rest hpair ih =>
    rw [cost, if_pos hpair, List.length_cons, List.length_cons]
    omega
  | case4 u v rest hpair ih =>
    have hu := unitCost_le u
    rw [cost, if_neg hpair, List.length_cons]
    omega

theorem quote_length (s : Text) : (quote s).length = cost s + 2 := by
  unfold quote
  rw [List.length_cons, List.length_append, escapeAll_length]
  rfl

theorem digits_le {n : Int} (h : Safe n) : digits n ≤ 17 := by
  have hlength : ∀ m : Nat, m < 10 ^ 16 → (digitUnits m).length ≤ 16 := fun m hm => by
    unfold digitUnits
    rw [List.length_map]
    exact (Nat.length_toDigits_le_iff (by decide) (by decide)).2 hm
  obtain ⟨hmin, hmax⟩ := h
  unfold maxSafe at hmin hmax
  unfold digits
  rw [text_int]
  cases n with
  | ofNat m =>
    have hm : (m : Int) ≤ 9007199254740991 := hmax
    exact (hlength m (by omega)).trans (by decide)
  | negSucc m =>
    have hm : (m : Int) + 1 ≤ 9007199254740991 := by
      rw [Int.negSucc_eq] at hmin
      omega
    have hlength := hlength (m + 1) (by omega)
    dsimp only
    rw [List.length_cons]
    omega

/-- The units of a frame around its payload: the envelope's names, marks and values. -/
theorem members_length (e : Envelope) (type : String) (payload : List (Text × Json)) :
    (stringify (.obj (e.members type payload))).length =
      31 + cost (text type) + cost e.id + digits e.ts +
        if payload = [] then 0 else 1 + (stringifyMembers payload).length := by
  have hv : cost (text "v") = 1 := by decide
  have ht : cost (text "type") = 4 := by decide
  have hi : cost (text "id") = 2 := by decide
  have hs : cost (text "ts") = 2 := by decide
  have hversion : (text (toString PROTOCOL_VERSION)).length = 1 := by decide
  have hopen : (text "\x7b").length = 1 := by decide
  have hclose : (text "\x7d").length = 1 := by decide
  unfold Envelope.members digits
  cases payload with
  | nil =>
    rw [if_pos rfl]
    simp only [stringify, stringifyMembers, List.length_append, List.length_cons, quote_length, hv, ht, hi, hs, hversion,
      hopen, hclose]
    omega
  | cons member payload =>
    rw [if_neg (List.cons_ne_nil _ _)]
    simp only [stringify, stringifyMembers, List.length_append, List.length_cons, quote_length, hv, ht, hi, hs, hversion,
      hopen, hclose]
    omega

theorem reply_length (e : Envelope) (requestId body : Text) :
    ((OutboundPayload.reply requestId body).encodeFrame e).length =
      61 + cost e.id + digits e.ts + cost requestId + cost body := by
  have htype : cost (text "reply") = 5 := by decide
  have hid : cost (text "requestId") = 9 := by decide
  have hbody : cost (text "text") = 4 := by decide
  unfold OutboundPayload.encodeFrame OutboundPayload.members OutboundPayload.type
  rw [members_length, if_neg (List.cons_ne_nil _ _), htype]
  simp only [stringifyMembers, stringify, List.length_append, List.length_cons, quote_length, hid, hbody]
  omega

theorem notify_length (e : Envelope) (kind body : Text) :
    ((OutboundPayload.notify kind body).encodeFrame e).length =
      57 + cost e.id + digits e.ts + cost kind + cost body := by
  have htype : cost (text "notify") = 6 := by decide
  have hkind : cost (text "kind") = 4 := by decide
  have hbody : cost (text "text") = 4 := by decide
  unfold OutboundPayload.encodeFrame OutboundPayload.members OutboundPayload.type
  rw [members_length, if_neg (List.cons_ne_nil _ _), htype]
  simp only [stringifyMembers, stringify, List.length_append, List.length_cons, quote_length, hkind, hbody]
  omega

theorem hello_length {e : Envelope} {installationId runtimeVersion : Text}
    (h : (OutboundPayload.hello installationId runtimeVersion [text "telegram"]).Valid) :
    ((OutboundPayload.hello installationId runtimeVersion [text "telegram"]).encodeFrame e).length ≤ MAX_FRAME_BYTES := by
  obtain ⟨⟨-, hinstallation⟩, hversion, -⟩ := h
  have hts := digits_le e.safe_ts
  have hid := cost_le e.id
  have hi := cost_le installationId
  have hv := cost_le runtimeVersion
  have htype : cost (text "hello") = 5 := by decide
  have hname : cost (text "installationId") = 14 := by decide
  have hversionName : cost (text "runtimeVersion") = 14 := by decide
  have hcapabilities : cost (text "capabilities") = 12 := by decide
  have htelegram : (stringify (.arr [.str (text "telegram")])).length = 12 := by decide
  rw [e.id_length] at hid
  unfold OutboundPayload.encodeFrame OutboundPayload.members OutboundPayload.type MAX_FRAME_BYTES
  rw [members_length, if_neg (List.cons_ne_nil _ _), htype]
  simp only [stringifyMembers, List.length_append, List.length_cons, quote_length, hname, hversionName, hcapabilities,
    List.map_cons, List.map_nil, htelegram, stringify.eq_6]
  omega

theorem offer_length {e : Envelope} {codeHash : Text} {expiresAt : Int}
    (h : (OutboundPayload.pairOffer codeHash expiresAt).Valid) :
    ((OutboundPayload.pairOffer codeHash expiresAt).encodeFrame e).length ≤ MAX_FRAME_BYTES := by
  obtain ⟨⟨hlength, -⟩, -, hsafe⟩ := h
  have hts := digits_le e.safe_ts
  have hat : digits expiresAt ≤ 17 := digits_le hsafe
  have hid := cost_le e.id
  have hc := cost_le codeHash
  have htype : cost (text "pair.offer") = 10 := by decide
  have hname : cost (text "codeHash") = 8 := by decide
  have hexpires : cost (text "expiresAt") = 9 := by decide
  rw [e.id_length] at hid
  unfold digits at hat
  unfold OutboundPayload.encodeFrame OutboundPayload.members OutboundPayload.type MAX_FRAME_BYTES
  rw [members_length, if_neg (List.cons_ne_nil _ _), htype]
  simp only [stringifyMembers, stringify, List.length_append, List.length_cons, quote_length, hname, hexpires]
  omega

theorem revoke_length (e : Envelope) : (OutboundPayload.pairRevoke.encodeFrame e).length ≤ MAX_FRAME_BYTES := by
  have hts := digits_le e.safe_ts
  have hid := cost_le e.id
  have htype : cost (text "pair.revoke") = 11 := by decide
  rw [e.id_length] at hid
  unfold OutboundPayload.encodeFrame OutboundPayload.members OutboundPayload.type MAX_FRAME_BYTES
  rw [members_length, if_pos rfl, htype]
  omega

/-! ## What arrives -/

/-- The condition on what the transport sends: the schemas' bounds, a text to notify, and a reply or notification that is
short enough once it is escaped. -/
def Handed.Fits (e : Envelope) : Handed → Prop
  | .hello installationId runtimeVersion =>
    (1 ≤ installationId.length ∧ installationId.length ≤ 64) ∧ runtimeVersion.length ≤ 64
  | .offerPairCode codeHash expiresAt =>
    (codeHash.length = 64 ∧ codeHash.all isHexUnit = true) ∧ 1 ≤ expiresAt ∧ Safe expiresAt
  | .revokePairing => True
  | .reply requestId body =>
    (1 ≤ requestId.length ∧ requestId.length ≤ 64) ∧
      61 + cost e.id + digits e.ts + cost requestId + cost (clip body) ≤ MAX_FRAME_BYTES
  | .notify kind body =>
    (1 ≤ kind.length ∧ kind.length ≤ 64) ∧ body ≠ [] ∧
      57 + cost e.id + digits e.ts + cost kind + cost (clip body) ≤ MAX_FRAME_BYTES

theorem clip_length_le (body : Text) : (clip body).length ≤ MAX_TELEGRAM_TEXT := by
  unfold clip
  split
  · rw [List.length_append, List.length_take]
    unfold MAX_MESSAGE_CHARS MAX_TELEGRAM_TEXT
    simp only [List.length_cons, List.length_nil]
    omega
  · rename_i h
    exact (Nat.not_lt.1 h).trans (by decide)

theorem clip_pos {body : Text} : 1 ≤ (clip body).length ↔ body ≠ [] := by
  unfold clip
  split
  · rename_i h
    have hne : body ≠ [] := by
      rintro rfl
      exact absurd h (Nat.not_lt_zero _)
    simp [hne]
  · rw [Nat.one_le_iff_ne_zero, Ne, List.length_eq_zero_iff]

theorem Handed.fits_iff (e : Envelope) (p : Handed) :
    p.payload.Valid ∧ (p.payload.encodeFrame e).length ≤ MAX_FRAME_BYTES ↔ p.Fits e := by
  cases p with
  | hello installationId runtimeVersion =>
    have hcapability : ∀ s ∈ [text "telegram"], s.length ≤ 32 := by decide
    constructor
    · rintro ⟨⟨hi, hv, -⟩, -⟩
      exact ⟨hi, hv⟩
    · rintro ⟨hi, hv⟩
      have hvalid : (Handed.hello installationId runtimeVersion).payload.Valid := ⟨hi, hv, by decide, hcapability⟩
      exact ⟨hvalid, hello_length hvalid⟩
  | offerPairCode codeHash expiresAt => exact ⟨fun h => h.1, fun h => ⟨h, offer_length h⟩⟩
  | revokePairing => exact ⟨fun _ => trivial, fun _ => ⟨trivial, revoke_length e⟩⟩
  | reply requestId body =>
    show (_ ∧ _) ∧ ((OutboundPayload.reply requestId (clip body)).encodeFrame e).length ≤ _ ↔ _ ∧ _
    rw [reply_length]
    exact ⟨fun h => ⟨h.1.1, h.2⟩, fun h => ⟨⟨h.1, clip_length_le body⟩, h.2⟩⟩
  | notify kind body =>
    show (_ ∧ _ ∧ _) ∧ ((OutboundPayload.notify kind (clip body)).encodeFrame e).length ≤ _ ↔ _ ∧ _ ∧ _
    rw [notify_length, clip_pos]
    exact ⟨fun h => ⟨h.1.1, h.1.2.1, h.2⟩, fun h => ⟨⟨h.1, h.2.1, clip_length_le body⟩, h.2.2⟩⟩

/-- **Either side takes the other's frames whole** exactly when their values are within its schemas and, towards the
gateway, the escaped texts within a frame. -/
theorem wire_agreement {number : Text → Option Json} (hnumber : IntegersRead number) (issue : Json → Option Issue)
    (e : Envelope) :
    (∀ p : Handed,
      decodeRuntimeFrame number issue (p.payload.encodeFrame e) = .ok (e.frame p.payload) ↔ p.Fits e) ∧
    ∀ f : GatewayFrame, decodeFrame number (f.encodeFrame e) = .ok (e.frame f) ↔ f.Valid :=
  ⟨fun p => (decodeRuntimeFrame_iff hnumber issue e p.payload).trans (p.fits_iff e), decodeFrame_iff hnumber e⟩

def sampleEnvelope : Envelope :=
  ⟨text "00000000-0000-4000-8000-000000000000", 1700000000000, by decide, by decide, by decide⟩

def operator : TelegramIdentity := ⟨7, 7, text "@operator"⟩

/-- A command and its answer. -/
theorem wire_agreement_answered :
    decodeFrame plainNumber ((GatewayFrame.command (text "r1") 1 operator (text "/status") 1700000000000).encodeFrame
      sampleEnvelope) = .ok (sampleEnvelope.frame (.command (text "r1") 1 operator (text "/status") 1700000000000)) ∧
    decodeRuntimeFrame plainNumber (fun _ => none)
      ((Handed.reply (text "r1") (text "mode \"PAPER\"")).payload.encodeFrame sampleEnvelope) =
      .ok (sampleEnvelope.frame (.reply (text "r1") (text "mode \"PAPER\""))) := by
  refine ⟨((wire_agreement integersRead_plainNumber (fun _ => none) sampleEnvelope).2 _).2 ?_,
    ((wire_agreement integersRead_plainNumber (fun _ => none) sampleEnvelope).1 (.reply _ _)).2 ?_⟩
  · exact ⟨by decide, by decide, ⟨by decide, by decide, by decide⟩, by decide, by decide⟩
  · exact ⟨by decide, by decide⟩

/-! ### A reply that is short enough for a message and too long for a frame -/

theorem cost_controls (n : Nat) : cost (List.replicate n 1) = 6 * n := by
  have hstep : ∀ n, cost (1 :: List.replicate n 1) = 6 + cost (List.replicate n 1) := fun n => by
    cases n with
    | zero => rfl
    | succ n => rfl
  induction n with
  | zero => rfl
  | succ n ih =>
    rw [List.replicate_succ, hstep, ih]
    omega

/-- **3000 control characters** do not reach the gateway. -/
theorem long_reply_dropped :
    decodeRuntimeFrame plainNumber (fun _ => none)
      ((Handed.reply (text "r1") (List.replicate 3000 1)).payload.encodeFrame sampleEnvelope) =
      .error ⟨.tooLarge, s!"frame exceeds {MAX_FRAME_BYTES} bytes"⟩ := by
  have hclip : clip (List.replicate 3000 1) = List.replicate 3000 1 :=
    if_neg (by rw [List.length_replicate]; decide)
  have hlong : MAX_FRAME_BYTES <
      ((Handed.reply (text "r1") (List.replicate 3000 1)).payload.encodeFrame sampleEnvelope).length := by
    unfold Handed.payload
    rw [reply_length, hclip, cost_controls]
    unfold MAX_FRAME_BYTES
    omega
  exact if_pos hlong

end Atra.Wire
