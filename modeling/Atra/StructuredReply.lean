import Atra.JsonScan
import Atra.Money
/-!
# StructuredReply — the object a model's reply holds

A reply is unfenced, scanned for its outermost object and read as JSON before a schema sees it.  A model is asked twice at most,
the second time with what the validator said of its first reply.
-/
namespace Atra
namespace HttpLlmProvider

open Js

/-! ## The object in a reply -/

/-- Three backticks. -/
def fence : Text := [96, 96, 96]

/-- The text before and behind the first place where a mark stands. -/
def splitAtFirst (mark : Text) : Text → Option (Text × Text)
  | [] => none
  | u :: t =>
    if mark.isPrefixOf (u :: t) then some ([], (u :: t).drop mark.length)
    else (splitAtFirst mark t).map fun (before, behind) => (u :: before, behind)

def lowerUnit (u : Nat) : Nat := if 65 ≤ u ∧ u ≤ 90 then u + 32 else u

/-- Behind the language a fence may name. -/
def behindTag (t : Text) : Text := if (t.take 4).map lowerUnit = text "json" then t.drop 4 else t

/-- What stands between the first two fences, if there are two. -/
def stripFence (raw : Text) : Text :=
  match splitAtFirst fence raw with
  | none => raw
  | some (_, opened) =>
    match splitAtFirst fence ((behindTag opened).dropWhile isSpace) with
    | none => raw
    | some (content, _) => content

/-- The outermost balanced JSON object, ignoring braces inside strings. -/
def extractJsonObject (text : Text) : Option Text := upToClosing ⟨0, false, false⟩ (text.dropWhile (· != 123))

/-- What a schema finds amiss: where, and what. -/
structure Issue where
  path : List Text
  message : Text

def Issue.text (issue : Issue) : Text :=
  let path := [46].intercalate issue.path
  (if path = [] then Js.text "root" else path) ++ Js.text ": " ++ issue.message

/-- How the runtime's language reads a number and words what is wrong with a text, and what it takes for a secret. -/
structure Reader where
  number : Text → Option Json
  syntaxError : Text → Text
  containsSecret : Text → Bool

section
variable {T : Type} (x : Reader) (schema : Json → Except (List Issue) T)

def parseStructured (raw : Text) : Except Text T :=
  let text := trim (stripFence raw)
  if text = [] then .error (Js.text "the model returned an empty reply")
  else
    match extractJsonObject text with
    | none => .error (Js.text "the reply contained no JSON object")
    | some candidate =>
      match Reading.parse x.number candidate with
      | none => .error (Js.text "the reply was not valid JSON: " ++ x.syntaxError candidate)
      | some value =>
        match schema value with
        | .ok data => .ok data
        | .error [] => .error (Js.text "schema mismatch")
        | .error (issue :: _) => .error issue.text

/-- What a reply holds: data of the object its first brace opens, whole and by itself, with prose before it and anything behind. -/
def Holds (reply : Text) (data : T) : Prop :=
  ∃ before object after value, stripFence reply = before ++ object ++ after ∧ 123 ∉ before ∧ object.head? = some 123 ∧
    object.getLast? = some 125 ∧ Reading.parse x.number object = some value ∧ schema value = .ok data

end

/-! ## What is extracted -/

section
variable {t before object after : Text}

theorem dropWhile_before (hb : 123 ∉ before) (t : Text) : (before ++ t).dropWhile (· != 123) = t.dropWhile (· != 123) :=
  List.dropWhile_append_of_pos fun u hu => by simpa using fun h : u = 123 => hb (h ▸ hu)

/-- What is extracted stands in the text: behind what holds no brace, from a brace to a brace. -/
theorem extracted (h : extractJsonObject t = some object) :
    ∃ before after, t = before ++ object ++ after ∧ 123 ∉ before ∧ object.head? = some 123 ∧ object.getLast? = some 125 := by
  obtain ⟨⟨after, hafter⟩, hlast⟩ := upToClosing_some h
  refine ⟨t.takeWhile (· != 123), after, ?_, fun hmem => ?_, ?_, hlast⟩
  · rw [List.append_assoc, hafter, List.takeWhile_append_dropWhile]
  · have hopen := List.mem_takeWhile_imp hmem
    cases hopen
  · cases object with
    | nil => cases hlast
    | cons u object =>
      have hhead := List.head?_dropWhile_not (· != 123) t
      rw [← hafter] at hhead
      simpa using hhead

/-- **An object is extracted whole**, from behind any prose and before any text. -/
theorem extract_parsed {number : Text → Option Json} {v : Json} (after : Text) (hb : 123 ∉ before) (hhead : object.head? = some 123)
    (hlast : object.getLast? = some 125) (h : Reading.parse number object = some v) :
    extractJsonObject (before ++ object ++ after) = some object := by
  cases object with
  | nil => cases hhead
  | cons u object =>
    obtain rfl := Option.some.inj hhead
    unfold extractJsonObject
    rw [List.append_assoc, dropWhile_before hb, List.cons_append, List.dropWhile_cons_of_neg (by decide)]
    exact Reading.upToClosing_parsed h hlast

theorem trim_eq (t : Text) : ∃ a b, t = a ++ trim t ++ b ∧ (∀ u ∈ a, isSpace u = true) ∧ ∀ u ∈ b, isSpace u = true := by
  refine ⟨t.takeWhile isSpace, ((t.dropWhile isSpace).reverse.takeWhile isSpace).reverse, ?_, fun u hu => List.mem_takeWhile_imp hu,
    fun u hu => List.mem_takeWhile_imp (List.mem_reverse.1 hu)⟩
  unfold trim
  rw [List.append_assoc, ← List.reverse_append, List.takeWhile_append_dropWhile, List.reverse_reverse,
    List.takeWhile_append_dropWhile]

/-- White space around a text hides no object. -/
theorem extract_trim (t : Text) : extractJsonObject (trim t) = extractJsonObject t := by
  obtain ⟨a, b, heq, ha, hb⟩ := trim_eq t
  have hspace : ∀ {l : Text}, (∀ u ∈ l, isSpace u = true) → 123 ∉ l ∧ ∀ u ∈ l, u ≠ 125 := by
    intro l hl
    refine ⟨fun h => ?_, fun u hu h => ?_⟩
    · cases hl 123 h
    · cases h ▸ hl u hu
  unfold extractJsonObject
  conv => rhs; rw [heq, List.append_assoc, dropWhile_before (hspace ha).1, List.dropWhile_append]
  split
  · rename_i hempty
    rw [List.isEmpty_iff.1 hempty]
    have hnone := dropWhile_before (hspace hb).1 []
    rw [List.append_nil] at hnone
    rw [hnone]
    rfl
  · exact (upToClosing_append (hspace hb).2).symm

end

/-! ## What is accepted -/

section
variable {T : Type} {x : Reader} {schema : Json → Except (List Issue) T} {reply : Text} {data : T}

/-- **A reply is accepted just where it holds an object the schema accepts.** -/
theorem parseStructured_ok : parseStructured x schema reply = .ok data ↔ Holds x schema reply data := by
  constructor
  · intro h
    unfold parseStructured at h
    dsimp only at h
    split_ifs at h with hempty
    rw [extract_trim] at h
    split at h
    · cases h
    · rename_i object hobject
      obtain ⟨before, after, heq, hb, hhead, hlast⟩ := extracted hobject
      split at h
      · cases h
      · rename_i value hvalue
        split at h
        · rename_i hdata
          obtain rfl := Except.ok.inj h
          exact ⟨before, object, after, value, heq, hb, hhead, hlast, hvalue, hdata⟩
        · cases h
        · cases h
  · rintro ⟨before, object, after, value, heq, hb, hhead, hlast, hvalue, hdata⟩
    have hobject : extractJsonObject (trim (stripFence reply)) = some object := by
      rw [extract_trim, heq]
      exact extract_parsed after hb hhead hlast hvalue
    unfold parseStructured
    dsimp only
    rw [if_neg, hobject]
    · dsimp only
      rw [hvalue]
      dsimp only
      rw [hdata]
    · intro hempty
      rw [hempty] at hobject
      cases hobject

theorem text_eq_nil {s : String} : Js.text s = [] ↔ s = "" := by
  unfold Js.text
  rw [List.flatMap_eq_nil_iff, ← String.toList_eq_nil_iff]
  constructor
  · intro h
    refine List.eq_nil_iff_forall_not_mem.2 fun c hc => ?_
    have hunits := h c hc
    unfold unitsOf at hunits
    split at hunits <;> cases hunits
  · intro h
    simp [h]

/-- What is said of a refused reply is never empty. -/
theorem parseStructured_error {e : Text} (h : parseStructured x schema reply = .error e) : e ≠ [] := by
  rintro rfl
  unfold parseStructured at h
  dsimp only at h
  split at h
  · simp [text_eq_nil] at h
  · split at h
    · simp [text_eq_nil] at h
    · split at h
      · simp [text_eq_nil] at h
      · split at h
        · cases h
        · simp [text_eq_nil] at h
        · simp [Issue.text, text_eq_nil] at h

/-- **An object as it is printed is heard as it is**, behind prose without braces and before any text, where nothing is fenced. -/
theorem holds_printed {members : List (Text × Json)} {before after : Text} (hv : Reading.ReadsBack x.number (.obj members))
    (hb : 123 ∉ before) (hplain : stripFence reply = before ++ stringify (.obj members) ++ after) :
    Holds x schema reply data ↔ schema (.obj members) = .ok data := by
  have hhead : (stringify (.obj members)).head? = some 123 := rfl
  have hlast : (stringify (.obj members)).getLast? = some 125 := by
    show (_ ++ [125] : Text).getLast? = _
    rw [List.getLast?_append]
    rfl
  have hread := Reading.parse_stringify hv
  constructor
  · rintro ⟨before', object, after', value, heq, hb', hhead', hlast', hvalue, hdata⟩
    have hobject := extract_parsed after hb hhead hlast hread
    rw [← hplain, heq, extract_parsed after' hb' hhead' hlast' hvalue] at hobject
    rw [Option.some.inj hobject, hread] at hvalue
    rw [Option.some.inj hvalue, hdata]
  · exact fun hdata => ⟨before, _, after, _, hplain, hb, hhead, hlast, hread, hdata⟩

end

/-! ## Fences -/

section
variable {before content t : Text}

theorem splitAtFirst_none (h : 96 ∉ t) : splitAtFirst fence t = none := by
  induction t with
  | nil => rfl
  | cons u t ih =>
    have hu : u ≠ 96 := fun he => h (he ▸ List.mem_cons_self)
    have hpre : fence.isPrefixOf (u :: t) = false := by
      simp [fence, List.isPrefixOf, hu.symm]
    rw [splitAtFirst, hpre, if_neg Bool.false_ne_true, ih fun hmem => h (List.mem_cons_of_mem _ hmem)]
    rfl

theorem splitAtFirst_fence (h : 96 ∉ before) (t : Text) : splitAtFirst fence (before ++ fence ++ t) = some (before, t) := by
  induction before with
  | nil => rfl
  | cons u before ih =>
    have hu : u ≠ 96 := fun he => h (he ▸ List.mem_cons_self)
    have hpre : fence.isPrefixOf (u :: (before ++ fence ++ t)) = false := by
      simp [fence, List.isPrefixOf, hu.symm]
    rw [List.cons_append, List.cons_append, splitAtFirst, hpre, if_neg Bool.false_ne_true,
      ih fun hmem => h (List.mem_cons_of_mem _ hmem)]
    rfl

theorem stripFence_plain (h : 96 ∉ t) : stripFence t = t := by
  unfold stripFence
  rw [splitAtFirst_none h]

/-- **What is fenced is read without its fences**, the language they name and the white space behind it. -/
theorem stripFence_fenced {blank : Text} (hb : 96 ∉ before) (hblank : ∀ u ∈ blank, isSpace u = true) (hc : 96 ∉ content)
    (hhead : ∀ u ∈ content.head?, isSpace u = false) (after : Text) :
    stripFence (before ++ fence ++ (Js.text "json" ++ blank ++ content ++ fence ++ after)) = content := by
  unfold stripFence
  rw [splitAtFirst_fence hb]
  dsimp only
  have htag : behindTag (Js.text "json" ++ blank ++ content ++ fence ++ after) = blank ++ (content ++ fence ++ after) := by
    simp [behindTag, Js.text, unitsOf, lowerUnit]
  have hskip : (blank ++ (content ++ fence ++ after)).dropWhile isSpace = content ++ fence ++ after := by
    rw [List.dropWhile_append_of_pos hblank]
    cases content with
    | nil => rfl
    | cons u content =>
      rw [List.cons_append, List.cons_append, List.dropWhile_cons_of_neg]
      rw [hhead u rfl]
      exact Bool.false_ne_true
  rw [htag, hskip, splitAtFirst_fence hc]

end

/-! ## Asking a model -/

inductive LlmRole where
  | system | user | assistant | tool
deriving DecidableEq

structure LlmMessage where
  role : LlmRole
  content : Text
deriving DecidableEq

structure LlmRequest where
  system : Text
  messages : List LlmMessage

/-- A tool call as an endpoint reports it, its arguments a text. -/
structure ReportedCall where
  id : Text
  name : Text
  arguments : Text

structure Choice where
  content : Option Text
  toolCalls : Option (List ReportedCall)

structure ChatCompletion where
  model : Option Text
  choices : List Choice

structure LlmToolCall where
  id : Text
  name : Text
  arguments : List (Text × Json)

structure LlmResponse (T : Type) where
  data : T
  toolCalls : List LlmToolCall
  model : Text
  attempts : Nat

inductive LlmFailure where
  | secret
  | post (cause : AppError)
  | unusable (model lastError : Text)

def LlmFailure.error : LlmFailure → AppError
  | .secret => ⟨.internal, "Refusing to send a prompt that appears to contain secret material"⟩
  | .post cause => cause
  | .unusable _ _ => ⟨.schemaInvalid, "The reasoning model did not produce output matching the required schema"⟩

def ChatCompletion.content (raw : ChatCompletion) : Text := ((raw.choices.head?.bind (·.content))).getD []

section
variable {T : Type} (x : Reader) (model : Text) (schema : Json → Except (List Issue) T) (request : LlmRequest)
  (post : Nat → Result ChatCompletion)

/-- Arguments that are no object are dropped, with their call. -/
def extractToolCalls (raw : ChatCompletion) : List LlmToolCall :=
  ((raw.choices.head?.bind (·.toolCalls)).getD []).filterMap fun call =>
    match Reading.parse x.number call.arguments with
    | some (.obj arguments) => some ⟨call.id, call.name, arguments⟩
    | _ => none

def correctionOf (correction : Text) : LlmMessage :=
  ⟨.user, Js.text "Your previous reply did not match the required schema. " ++ (Js.text "The validator reported: " ++ correction ++
    Js.text ". ") ++ Js.text "Reply again with JSON that satisfies the schema exactly, and nothing else."⟩

def buildMessages (correction : Option Text) : List LlmMessage :=
  let messages := ⟨.system, request.system⟩ :: request.messages
  match correction with
  | none => messages
  | some correction => if correction = [] then messages else messages ++ [correctionOf correction]

/-- What is searched for secrets before anything is sent. -/
def payload : Text := [10].intercalate (request.system :: request.messages.map (·.content))

/-- So many attempts more, each with what it posts and what the endpoint answers it. -/
def attemptFrom : Nat → Nat → Text → List (List LlmMessage) × Except LlmFailure (LlmResponse T)
  | 0, _, lastError => ([], .error (.unusable model lastError))
  | left + 1, attempt, lastError =>
    let messages := buildMessages request (if attempt = 2 then some lastError else none)
    match post attempt with
    | .error cause => ([messages], .error (.post cause))
    | .ok raw =>
      match parseStructured x schema raw.content with
      | .ok data => ([messages], .ok ⟨data, extractToolCalls x raw, raw.model.getD model, attempt⟩)
      | .error e =>
        let later := attemptFrom left (attempt + 1) e
        (messages :: later.1, later.2)

/-- Ask the model: the messages of every post, and what comes of them. -/
def chat : List (List LlmMessage) × Except LlmFailure (LlmResponse T) :=
  if x.containsSecret (payload request) then ([], .error .secret) else attemptFrom x model schema request post 2 1 []

/-! ## What a model says -/

/-- A model is heard at its first reply that holds data, of two at most. -/
def HeardAt (attempt : Nat) (raw : ChatCompletion) (data : T) : Prop :=
  post attempt = .ok raw ∧ Holds x schema raw.content data ∧
    (attempt = 1 ∨ attempt = 2 ∧ ∃ first, post 1 = .ok first ∧ ∀ d, ¬ Holds x schema first.content d)

end

section
variable {T : Type} {x : Reader} {model : Text} {schema : Json → Except (List Issue) T} {request : LlmRequest}
  {post : Nat → Result ChatCompletion}

theorem not_holds {reply e : Text} (h : parseStructured x schema reply = .error e) (d : T) : ¬ Holds x schema reply d := by
  intro hd
  rw [parseStructured_ok.2 hd] at h
  cases h

/-- Either the first attempt settles it, or its reply is refused and the second attempt says why. -/
theorem attempts_cases (x : Reader) (model : Text) (schema : Json → Except (List Issue) T) (request : LlmRequest)
    (post : Nat → Result ChatCompletion) :
    (∃ cause, post 1 = .error cause ∧ attemptFrom x model schema request post 2 1 [] =
      ([buildMessages request none], .error (.post cause))) ∨
    (∃ raw data, post 1 = .ok raw ∧ Holds x schema raw.content data ∧ attemptFrom x model schema request post 2 1 [] =
      ([buildMessages request none], .ok ⟨data, extractToolCalls x raw, raw.model.getD model, 1⟩)) ∨
    ∃ first e, post 1 = .ok first ∧ parseStructured x schema first.content = .error e ∧
      ∃ result, attemptFrom x model schema request post 2 1 [] =
        ([buildMessages request none, buildMessages request none ++ [correctionOf e]], result) ∧
        ∀ r, result = .ok r ↔ ∃ raw, post 2 = .ok raw ∧ Holds x schema raw.content r.data ∧
          r = ⟨r.data, extractToolCalls x raw, raw.model.getD model, 2⟩ := by
  cases h1 : post 1 with
  | error cause => exact .inl ⟨cause, rfl, by rw [attemptFrom, h1]; rfl⟩
  | ok first =>
    right
    cases hp : parseStructured x schema first.content with
    | ok data => exact .inl ⟨first, data, rfl, parseStructured_ok.1 hp, by rw [attemptFrom, h1]; dsimp only; rw [hp]; rfl⟩
    | error e =>
      refine .inr ⟨first, e, rfl, hp, (attemptFrom x model schema request post 1 2 e).2, ?_, fun r => ?_⟩
      · have hsent : (attemptFrom x model schema request post 1 2 e).1 = [buildMessages request (some e)] := by
          rw [attemptFrom]
          cases post 2 with
          | error cause => rfl
          | ok raw =>
            dsimp only
            cases parseStructured x schema raw.content with
            | ok data => rfl
            | error e' => rfl
        have hcorrected : buildMessages request (some e) = buildMessages request none ++ [correctionOf e] :=
          if_neg (parseStructured_error hp)
        rw [attemptFrom, h1]
        dsimp only
        rw [hp]
        dsimp only
        rw [hsent, hcorrected]
        rfl
      · rw [attemptFrom]
        cases h2 : post 2 with
        | error cause => simp
        | ok raw =>
          dsimp only
          cases hq : parseStructured x schema raw.content with
          | error e' =>
            constructor
            · intro h
              cases h
            · rintro ⟨raw', hraw, hd, -⟩
              obtain rfl := Except.ok.inj hraw
              exact absurd hd (not_holds hq _)
          | ok data =>
            have hdata := parseStructured_ok.1 hq
            constructor
            · intro h
              obtain rfl := Except.ok.inj h
              exact ⟨raw, rfl, hdata, rfl⟩
            · rintro ⟨raw', hraw, hd, hr⟩
              obtain rfl := Except.ok.inj hraw
              have hsame := parseStructured_ok.2 hd
              rw [hq] at hsame
              rw [hr, Except.ok.inj hsame]

/-- **What is heard of a model.**  Data comes of a reply only as the object its first brace opens, whole, read as JSON and accepted
by the schema: of the first reply, or of the second where the first holds none.  No prompt that looks like it holds a secret is
posted, and besides the prompt itself only the correction of a refused first reply is. -/
theorem chat_heard (x : Reader) (model : Text) (schema : Json → Except (List Issue) T) (request : LlmRequest)
    (post : Nat → Result ChatCompletion) :
    (∀ r, (chat x model schema request post).2 = .ok r ↔ x.containsSecret (payload request) = false ∧
      ∃ raw, HeardAt x schema post r.attempts raw r.data ∧
        r.toolCalls = extractToolCalls x raw ∧ r.model = raw.model.getD model) ∧
    (chat x model schema request post).1.length ≤ 2 ∧
    ∀ messages ∈ (chat x model schema request post).1, x.containsSecret (payload request) = false ∧
      (messages = ⟨.system, request.system⟩ :: request.messages ∨ ∃ first e, post 1 = .ok first ∧
        parseStructured x schema first.content = .error e ∧ (∀ d, ¬ Holds x schema first.content d) ∧
        messages = ⟨.system, request.system⟩ :: request.messages ++ [correctionOf e]) := by
  unfold chat
  cases hsecret : x.containsSecret (payload request) with
  | true => simp
  | false =>
    rw [if_neg Bool.false_ne_true]
    rcases attempts_cases x model schema request post with ⟨cause, h1, h⟩ | ⟨raw, data, h1, hd, h⟩ |
      ⟨first, e, h1, hp, result, h, hr⟩
    · rw [h]
      refine ⟨fun r => ?_, by simp, fun messages hm => ⟨rfl, .inl (List.mem_singleton.1 hm)⟩⟩
      constructor
      · intro hc
        cases hc
      · rintro ⟨-, raw, ⟨hpost, -, hattempt⟩, -⟩
        rcases hattempt with hone | ⟨-, first, hfirst, -⟩
        · rw [hone, h1] at hpost
          cases hpost
        · rw [h1] at hfirst
          cases hfirst
    · rw [h]
      refine ⟨fun r => ?_, by simp, fun messages hm => ⟨rfl, .inl (List.mem_singleton.1 hm)⟩⟩
      constructor
      · intro hr
        obtain rfl := Except.ok.inj hr
        exact ⟨rfl, raw, ⟨h1, hd, .inl rfl⟩, rfl, rfl⟩
      · rintro ⟨-, raw', ⟨hpost, hd', hattempt⟩, hcalls, hmodel⟩
        rcases hattempt with hone | ⟨-, first, hfirst, hnone⟩
        · rw [hone, h1] at hpost
          obtain rfl := Except.ok.inj hpost
          have hsame := parseStructured_ok.2 hd
          rw [parseStructured_ok.2 hd'] at hsame
          obtain ⟨d, calls, m, attempts⟩ := r
          obtain rfl := Except.ok.inj hsame
          dsimp only at hone hcalls hmodel
          rw [hone, hcalls, hmodel]
        · rw [h1] at hfirst
          obtain rfl := Except.ok.inj hfirst
          exact absurd hd (hnone data)
    · rw [h]
      refine ⟨fun r => ?_, by simp, fun messages hm => ⟨rfl, ?_⟩⟩
      · rw [hr]
        constructor
        · rintro ⟨raw, h2, hd, heq⟩
          refine ⟨rfl, raw, ?_, ?_, ?_⟩
          · rw [heq]
            exact ⟨h2, hd, .inr ⟨rfl, first, h1, not_holds hp⟩⟩
          · rw [heq]
          · rw [heq]
        · rintro ⟨-, raw, ⟨hpost, hd, hattempt⟩, hcalls, hmodel⟩
          rcases hattempt with hone | ⟨htwo, -⟩
          · rw [hone, h1] at hpost
            obtain rfl := Except.ok.inj hpost
            exact absurd hd (not_holds hp _)
          · rw [htwo] at hpost
            obtain ⟨d, calls, m, attempts⟩ := r
            dsimp only at htwo hcalls hmodel hd ⊢
            exact ⟨raw, hpost, hd, by rw [htwo, hcalls, hmodel]⟩
      · rcases List.mem_pair.1 hm with rfl | rfl
        · exact .inl rfl
        · exact .inr ⟨first, e, h1, hp, not_holds hp, rfl⟩

end

end HttpLlmProvider
end Atra
