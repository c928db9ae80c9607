import Atra.JsonText
/-!
# Wire — the frames between the runtime and its gateway

Each side writes its frames with an encoder of its own and checks the other's against its own schemas.  A frame is taken
whole by the other side exactly when its values are within that side's schemas and, towards the gateway, its text within the
16384 units of a frame.  The texts of replies and notifications are held to 4000 units before they are escaped, and a unit
takes up to six once it is.
-/
namespace Atra.Wire

open Js Js.Reading

/-! ## Properties under a schema -/

/-- `Number.MAX_SAFE_INTEGER`. -/
def maxSafe : Int := 9007199254740991

def Safe (n : Int) : Prop := -maxSafe ≤ n ∧ n ≤ maxSafe

instance (n : Int) : Decidable (Safe n) := inferInstanceAs (Decidable (_ ∧ _))

/-- `z.string().min(lo).max(hi)`. -/
def stringIn (lo hi : Nat) : Option Json → Option Text
  | some (.str s) => if lo ≤ s.length ∧ s.length ≤ hi then some s else none
  | _ => none

/-- `z.number().int()`, which only takes safe integers, and from a bound on. -/
def intFrom (lo : Int) : Option Json → Option Int
  | some (.int n) => if lo ≤ n ∧ Safe n then some n else none
  | _ => none

def boolean : Option Json → Option Bool
  | some (.bool b) => some b
  | _ => none

/-- `z.array(z.string().max(hi)).max(count)`. -/
def stringsIn (count hi : Nat) : Option Json → Option (List Text)
  | some (.arr items) => if items.length ≤ count then items.mapM fun item => stringIn 0 hi (some item) else none
  | _ => none

def isHexUnit (u : Nat) : Bool := (48 ≤ u && u ≤ 57) || (97 ≤ u && u ≤ 102)

theorem stringIn_eq_some {lo hi : Nat} {j : Option Json} {s : Text} :
    stringIn lo hi j = some s ↔ j = some (.str s) ∧ lo ≤ s.length ∧ s.length ≤ hi := by
  unfold stringIn
  split
  · rename_i s'
    by_cases h : lo ≤ s'.length ∧ s'.length ≤ hi
    · rw [if_pos h]
      constructor
      · rintro ⟨⟩
        exact ⟨rfl, h⟩
      · rintro ⟨⟨⟩, -⟩
        rfl
    · rw [if_neg h]
      constructor
      · rintro ⟨⟩
      · rintro ⟨⟨⟩, hs⟩
        exact absurd hs h
  · rename_i hne
    constructor
    · rintro ⟨⟩
    · rintro ⟨rfl, -⟩
      exact absurd rfl (hne s)

theorem intFrom_eq_some {lo : Int} {j : Option Json} {n : Int} :
    intFrom lo j = some n ↔ j = some (.int n) ∧ lo ≤ n ∧ Safe n := by
  unfold intFrom
  split
  · rename_i n'
    by_cases h : lo ≤ n' ∧ Safe n'
    · rw [if_pos h]
      constructor
      · rintro ⟨⟩
        exact ⟨rfl, h⟩
      · rintro ⟨⟨⟩, -⟩
        rfl
    · rw [if_neg h]
      constructor
      · rintro ⟨⟩
      · rintro ⟨⟨⟩, hn⟩
        exact absurd hn h
  · rename_i hne
    constructor
    · rintro ⟨⟩
    · rintro ⟨rfl, -⟩
      exact absurd rfl (hne n)

theorem boolean_eq_some {j : Option Json} {b : Bool} : boolean j = some b ↔ j = some (.bool b) := by
  unfold boolean
  split
  · simp
  · rename_i hne
    exact ⟨fun h => (by cases h), fun h => absurd h (hne b)⟩

theorem mapM_stringIn {hi : Nat} {items : List Json} {ss : List Text} :
    (items.mapM fun item => stringIn 0 hi (some item)) = some ss ↔ items = ss.map .str ∧ ∀ s ∈ ss, s.length ≤ hi := by
  induction items generalizing ss with
  | nil => cases ss <;> simp
  | cons item items ih =>
    rw [List.mapM_cons]
    simp only [Option.bind_eq_bind, Option.bind_eq_some_iff, stringIn_eq_some, Option.some.injEq, ih, Option.pure_def]
    constructor
    · rintro ⟨s, ⟨rfl, -, hs⟩, rest, ⟨rfl, hrest⟩, rfl⟩
      exact ⟨rfl, List.forall_mem_cons.2 ⟨hs, hrest⟩⟩
    · rintro ⟨heq, hss⟩
      cases ss with
      | nil => cases heq
      | cons s rest =>
        obtain ⟨rfl, rfl⟩ := List.cons.inj heq
        obtain ⟨hs, hrest⟩ := List.forall_mem_cons.1 hss
        exact ⟨s, ⟨rfl, Nat.zero_le _, hs⟩, rest, ⟨rfl, hrest⟩, rfl⟩

theorem stringsIn_eq_some {count hi : Nat} {j : Option Json} {ss : List Text} :
    stringsIn count hi j = some ss ↔ j = some (.arr (ss.map .str)) ∧ ss.length ≤ count ∧ ∀ s ∈ ss, s.length ≤ hi := by
  unfold stringsIn
  split
  · rename_i items
    by_cases h : items.length ≤ count
    · rw [if_pos h, mapM_stringIn, Option.some.injEq, Json.arr.injEq]
      constructor
      · rintro ⟨rfl, hss⟩
        exact ⟨rfl, (List.length_map _) ▸ h, hss⟩
      · rintro ⟨rfl, -, hss⟩
        exact ⟨rfl, hss⟩
    · rw [if_neg h]
      constructor
      · rintro ⟨⟩
      · rintro ⟨⟨⟩, hlength, -⟩
        exact absurd ((List.length_map _).trans_le hlength) h
  · rename_i hne
    constructor
    · rintro ⟨⟩
    · rintro ⟨rfl, -⟩
      exact absurd rfl (hne _)

/-! ## Frames -/

def PROTOCOL_VERSION : Int := 1

/-- What a frame carries beside its payload: `randomUUID()` and `Date.now()`. -/
structure Envelope where
  id : Text
  ts : Int
  id_length : id.length = 36
  ts_nonneg : 0 ≤ ts
  ts_le : ts ≤ 8640000000000000

theorem Envelope.safe_ts (e : Envelope) : Safe e.ts := by
  have hts := e.ts_le
  have hzero := e.ts_nonneg
  unfold Safe maxSafe
  omega

def Envelope.members (e : Envelope) (type : String) (payload : List (Text × Json)) : List (Text × Json) :=
  (text "v", .int PROTOCOL_VERSION) :: (text "type", .str (text type)) :: (text "id", .str e.id) ::
    (text "ts", .int e.ts) :: payload

/-- A frame as the other side decodes it. -/
structure Frame (α : Type) where
  id : Text
  ts : Int
  payload : α

def Envelope.frame {α : Type} (e : Envelope) (payload : α) : Frame α := ⟨e.id, e.ts, payload⟩

def isVersion : Option Json → Bool
  | some (.int n) => n = PROTOCOL_VERSION
  | _ => false

def frameSchema {α : Type} (idMax : Nat) (payload : Json → Option α) (j : Json) : Option (Frame α) :=
  if isVersion (j.get (text "v")) then do
    let id ← stringIn 1 idMax (j.get (text "id"))
    let ts ← intFrom 0 (j.get (text "ts"))
    let payload ← payload j
    return ⟨id, ts, payload⟩
  else none

structure TelegramIdentity where
  userId : Int
  chatId : Int
  displayName : Text

def TelegramIdentity.json (t : TelegramIdentity) : Json :=
  .obj [(text "userId", .int t.userId), (text "chatId", .int t.chatId), (text "displayName", .str t.displayName)]

/-! ### From the runtime -/

/-- `OutboundPayloads`. -/
inductive OutboundPayload where
  | hello (installationId runtimeVersion : Text) (capabilities : List Text)
  | pairOffer (codeHash : Text) (expiresAt : Int)
  | pairRevoke
  | reply (requestId text : Text)
  | notify (kind text : Text)

def OutboundPayload.type : OutboundPayload → String
  | .hello .. => "hello"
  | .pairOffer .. => "pair.offer"
  | .pairRevoke => "pair.revoke"
  | .reply .. => "reply"
  | .notify .. => "notify"

def OutboundPayload.members : OutboundPayload → List (Text × Json)
  | .hello installationId runtimeVersion capabilities =>
    [(text "installationId", .str installationId), (text "runtimeVersion", .str runtimeVersion),
      (text "capabilities", .arr (capabilities.map .str))]
  | .pairOffer codeHash expiresAt => [(text "codeHash", .str codeHash), (text "expiresAt", .int expiresAt)]
  | .pairRevoke => []
  | .reply requestId body => [(text "requestId", .str requestId), (text "text", .str body)]
  | .notify kind body => [(text "kind", .str kind), (text "text", .str body)]

/-- The runtime's `encodeFrame`. -/
def OutboundPayload.encodeFrame (p : OutboundPayload) (e : Envelope) : Text := stringify (.obj (e.members p.type p.members))

def MAX_MESSAGE_CHARS : Nat := 4000

def clip (t : Text) : Text := if MAX_MESSAGE_CHARS < t.length then t.take (MAX_MESSAGE_CHARS - 1) ++ [0x2026] else t

/-- What the transport hands to its encoder. -/
inductive Handed where
  | hello (installationId runtimeVersion : Text)
  | offerPairCode (codeHash : Text) (expiresAt : Int)
  | revokePairing
  | reply (requestId text : Text)
  | notify (kind text : Text)

def Handed.payload : Handed → OutboundPayload
  | .hello installationId runtimeVersion => .hello installationId runtimeVersion [text "telegram"]
  | .offerPairCode codeHash expiresAt => .pairOffer codeHash expiresAt
  | .revokePairing => .pairRevoke
  | .reply requestId text => .reply requestId (clip text)
  | .notify kind text => .notify kind (clip text)

/-! ### At the gateway -/

def MAX_FRAME_BYTES : Nat := 16 * 1024

def MAX_TELEGRAM_TEXT : Nat := 4096

def helloFrameSchema (j : Json) : Option OutboundPayload := do
  let installationId ← stringIn 1 64 (j.get (text "installationId"))
  let runtimeVersion ← stringIn 0 64 (j.get (text "runtimeVersion"))
  let capabilities ← stringsIn 16 32 (j.get (text "capabilities"))
  return .hello installationId runtimeVersion capabilities

def pairOfferFrameSchema (j : Json) : Option OutboundPayload := do
  -- 64 hexadecimal digits in lower case
  let codeHash ← (stringIn 64 64 (j.get (text "codeHash"))).filter fun s => s.all isHexUnit
  let expiresAt ← intFrom 1 (j.get (text "expiresAt"))
  return .pairOffer codeHash expiresAt

def replyFrameSchema (j : Json) : Option OutboundPayload := do
  let requestId ← stringIn 1 64 (j.get (text "requestId"))
  let body ← stringIn 0 MAX_TELEGRAM_TEXT (j.get (text "text"))
  return .reply requestId body

def notifyFrameSchema (j : Json) : Option OutboundPayload := do
  let kind ← stringIn 1 64 (j.get (text "kind"))
  let body ← stringIn 1 MAX_TELEGRAM_TEXT (j.get (text "text"))
  return .notify kind body

/-- The discriminated union of the five frames. -/
def runtimeFrameSchema (j : Json) : Option OutboundPayload :=
  match j.get (text "type") with
  | some (.str type) =>
    if type = text "hello" then helloFrameSchema j
    else if type = text "pair.offer" then pairOfferFrameSchema j
    else if type = text "pair.revoke" then some .pairRevoke
    else if type = text "reply" then replyFrameSchema j
    else if type = text "notify" then notifyFrameSchema j
    else none
  | _ => none

inductive DecodeCode where
  | tooLarge
  | notJson
  | invalidFrame
deriving DecidableEq

structure DecodeFailure where
  code : DecodeCode
  message : String

/-- The first issue of a schema with a value it refuses. -/
structure Issue where
  message : String
  path : List String

def invalidMessage (first : Option Issue) : String :=
  let place := if (first.map Issue.path).getD [] ≠ [] then " at " ++ ".".intercalate ((first.map Issue.path).getD []) else ""
  (first.map Issue.message).getD "invalid frame" ++ place

/-- The gateway's `decodeRuntimeFrame`. -/
def decodeRuntimeFrame (number : Text → Option Json) (issue : Json → Option Issue) (raw : Text) :
    Except DecodeFailure (Frame OutboundPayload) :=
  if MAX_FRAME_BYTES < raw.length then .error ⟨.tooLarge, s!"frame exceeds {MAX_FRAME_BYTES} bytes"⟩
  else match parse number raw with
    | none => .error ⟨.notJson, "frame is not valid JSON"⟩
    | some j => match frameSchema 64 runtimeFrameSchema j with
      | none => .error ⟨.invalidFrame, invalidMessage (issue j)⟩
      | some frame => .ok frame

/-! ### From the gateway -/

inductive GatewayFrame where
  | welcome (paired : Bool) (telegram : Option TelegramIdentity) (botUsername : Text)
  | paired (telegram : TelegramIdentity) (pairedAt : Int)
  | unpaired (reason : Text)
  | command (requestId : Text) (updateId : Int) (telegram : TelegramIdentity) (text : Text) (receivedAt : Int)
  | error (requestId : Option Text) (code message : Text)

def GatewayFrame.type : GatewayFrame → String
  | .welcome .. => "welcome"
  | .paired .. => "paired"
  | .unpaired _ => "unpaired"
  | .command .. => "command"
  | .error .. => "error"

def GatewayFrame.members : GatewayFrame → List (Text × Json)
  | .welcome isPaired telegram botUsername =>
    [(text "paired", .bool isPaired), (text "telegram", (telegram.map TelegramIdentity.json).getD .null),
      (text "botUsername", .str botUsername)]
  | .paired telegram pairedAt => [(text "telegram", telegram.json), (text "pairedAt", .int pairedAt)]
  | .unpaired reason => [(text "reason", .str reason)]
  | .command requestId updateId telegram body receivedAt =>
    [(text "requestId", .str requestId), (text "updateId", .int updateId), (text "telegram", telegram.json),
      (text "text", .str body), (text "receivedAt", .int receivedAt)]
  | .error requestId code message =>
    (requestId.map fun r => (text "requestId", .str r)).toList ++ [(text "code", .str code), (text "message", .str message)]

/-- The gateway's `encodeFrame`. -/
def GatewayFrame.encodeFrame (f : GatewayFrame) (e : Envelope) : Text := stringify (.obj (e.members f.type f.members))

/-! ### At the runtime -/

def identitySchema : Option Json → Option TelegramIdentity
  | none => none
  | some j => do
    let userId ← intFrom (-maxSafe) (j.get (text "userId"))
    let chatId ← intFrom (-maxSafe) (j.get (text "chatId"))
    let displayName ← stringIn 0 256 (j.get (text "displayName"))
    return ⟨userId, chatId, displayName⟩

/-- `identitySchema.nullable()`. -/
def nullableIdentity : Option Json → Option (Option TelegramIdentity)
  | some .null => some none
  | j => (identitySchema j).map some

/-- `z.string().max(hi).optional()`. -/
def optionalString (hi : Nat) : Option Json → Option (Option Text)
  | none => some none
  | j => (stringIn 0 hi j).map some

def welcomeFrameSchema (j : Json) : Option GatewayFrame := do
  let isPaired ← boolean (j.get (text "paired"))
  let telegram ← nullableIdentity (j.get (text "telegram"))
  let botUsername ← stringIn 0 64 (j.get (text "botUsername"))
  return .welcome isPaired telegram botUsername

def pairedFrameSchema (j : Json) : Option GatewayFrame := do
  let telegram ← identitySchema (j.get (text "telegram"))
  let pairedAt ← intFrom 0 (j.get (text "pairedAt"))
  return .paired telegram pairedAt

def unpairedFrameSchema (j : Json) : Option GatewayFrame := do
  let reason ← stringIn 0 512 (j.get (text "reason"))
  return .unpaired reason

def commandFrameSchema (j : Json) : Option GatewayFrame := do
  let requestId ← stringIn 1 128 (j.get (text "requestId"))
  let updateId ← intFrom 0 (j.get (text "updateId"))
  let telegram ← identitySchema (j.get (text "telegram"))
  let body ← stringIn 0 4096 (j.get (text "text"))
  let receivedAt ← intFrom 0 (j.get (text "receivedAt"))
  return .command requestId updateId telegram body receivedAt

def errorFrameSchema (j : Json) : Option GatewayFrame := do
  let requestId ← optionalString 128 (j.get (text "requestId"))
  let code ← stringIn 0 64 (j.get (text "code"))
  let message ← stringIn 0 1024 (j.get (text "message"))
  return .error requestId code message

def inboundFrameSchema (j : Json) : Option GatewayFrame :=
  match j.get (text "type") with
  | some (.str type) =>
    if type = text "welcome" then welcomeFrameSchema j
    else if type = text "paired" then pairedFrameSchema j
    else if type = text "unpaired" then unpairedFrameSchema j
    else if type = text "command" then commandFrameSchema j
    else if type = text "error" then errorFrameSchema j
    else none
  | _ => none

/-- Why a frame is ignored. -/
inductive Ignored where
  | notJson
  | unknownType (type : Option Text)
  | invalid (type : Text)

def known : List Text := ["welcome", "paired", "unpaired", "command", "error"].map text

/-- The runtime's `decodeFrame`. -/
def decodeFrame (number : Text → Option Json) (raw : Text) : Except Ignored (Frame GatewayFrame) :=
  match parse number raw with
  | some (.obj members) =>
    match Json.get (.obj members) (text "type") with
    | some (.str type) =>
      if known.contains type then
        match frameSchema 128 inboundFrameSchema (.obj members) with
        | none => .error (.invalid type)
        | some frame => .ok frame
      else .error (.unknownType (some type))
    | _ => .error (.unknownType none)
  -- an array has no type
  | some (.arr _) => .error (.unknownType none)
  | _ => .error .notJson

end Atra.Wire
