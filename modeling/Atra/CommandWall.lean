import Atra.CommandRouter
import Mathlib.Data.List.DropRight
/-!
# CommandWall — what the gateway answers, refuses and forwards

A message is read twice, by two parsers.  The gateway's takes a word of ASCII letters, digits and `_`, and behind an `@` another
of them; the runtime's takes what stands before the first `@` and lower-cases it.  Where both read a command it is the same one
(`words_agree`), and the gateway's refusals hold for the commands it reads: those that are `Plain`.
-/

/-! ## The first word of a list -/

namespace Words

variable {α : Type} {p : α → Bool}

def first (p : α → Bool) (cs : List α) : List α := (cs.dropWhile p).takeWhile fun c => !p c

def trim (p : α → Bool) (cs : List α) : List α := ((cs.dropWhile p).reverse.dropWhile p).reverse

theorem trim_eq (cs : List α) : trim p cs = (cs.dropWhile p).rdropWhile p := rfl

theorem dropWhile_trim (cs : List α) : (trim p cs).dropWhile p = trim p cs := by
  rw [trim_eq]
  cases hd : cs.dropWhile p with
  | nil => rfl
  | cons d ds =>
    have hp : p d = false := by
      have hne : cs.dropWhile p ≠ [] := by simp [hd]
      have hhead := List.head_dropWhile_not p hne
      simpa [hd] using hhead
    have hnil : (d :: ds).rdropWhile p ≠ [] := fun h => by
      rw [List.rdropWhile_eq_nil_iff] at h
      rw [h d List.mem_cons_self] at hp
      cases hp
    obtain ⟨x, xs, hx⟩ := List.exists_cons_of_ne_nil hnil
    obtain ⟨t, ht⟩ := List.rdropWhile_prefix p (l := d :: ds)
    rw [hx] at ht
    obtain ⟨rfl, -⟩ := List.cons.inj ht
    rw [hx, List.dropWhile_cons, hp]
    rfl

theorem takeWhile_rdropWhile (cs : List α) :
    (cs.rdropWhile p).takeWhile (fun c => !p c) = cs.takeWhile fun c => !p c := by
  conv => rhs; rw [← List.rdropWhile_append_rtakeWhile (p := p) (l := cs)]
  rw [List.takeWhile_append]
  split
  · rename_i hlen
    have hnone : (cs.rtakeWhile p).takeWhile (fun c => !p c) = [] := by
      cases hr : cs.rtakeWhile p with
      | nil => rfl
      | cons r rs =>
        have hpr : p r = true := List.mem_rtakeWhile_imp (by rw [hr]; exact List.mem_cons_self)
        rw [List.takeWhile_cons, hpr]
        rfl
    rw [hnone, List.append_nil]
    exact (List.takeWhile_prefix _).eq_of_length hlen
  · rfl

/-- **Trimming keeps the first word.** -/
theorem first_trim (cs : List α) : first p (trim p cs) = first p cs := by
  unfold first
  rw [dropWhile_trim, trim_eq, takeWhile_rdropWhile]

theorem splitOnP_head (cs : List α) : ∃ rest, cs.splitOnP p = cs.takeWhile (fun c => !p c) :: rest := by
  induction cs with
  | nil => exact ⟨[], rfl⟩
  | cons c cs ih =>
    obtain ⟨rest, hrest⟩ := ih
    rw [List.splitOnP_cons_eq_if_modifyHead, List.takeWhile_cons]
    cases hc : p c with
    | true => exact ⟨_, rfl⟩
    | false =>
      rw [hrest]
      exact ⟨rest, rfl⟩

/-- **The first of the words** between separators. -/
theorem head_words (cs : List α) : ((cs.splitOnP p).filter fun w => !w.isEmpty).head? =
    if (first p cs).isEmpty then none else some (first p cs) := by
  induction cs with
  | nil => rfl
  | cons c cs ih =>
    unfold first at ih ⊢
    rw [List.splitOnP_cons_eq_if_modifyHead, List.dropWhile_cons]
    cases hc : p c with
    | true => exact ih
    | false =>
      obtain ⟨rest, hrest⟩ := splitOnP_head (p := p) cs
      rw [hrest, if_neg Bool.false_ne_true, if_neg Bool.false_ne_true, List.takeWhile_cons, hc]
      rfl

end Words

namespace Atra
namespace Gateway

/-- A command as the gateway reads it. -/
structure GatewayCommand where
  name : String
  args : String
deriving DecidableEq, Repr

def isNameChar (c : Char) : Bool := ('A' ≤ c && c ≤ 'Z') || ('a' ≤ c && c ≤ 'z') || ('0' ≤ c && c ≤ '9') || c = '_'

/-- `[A-Za-z0-9_]{1,32}`. -/
def isName (cs : List Char) : Bool := 1 ≤ cs.length && cs.length ≤ 32 && cs.all isNameChar

/-- `(?:@[A-Za-z0-9_]{1,32})?`, of a text that is empty or starts with `@`. -/
def isSuffix (cs : List Char) : Bool :=
  match cs with
  | [] => true
  | _ :: name => isName name

/-- `/^\/([A-Za-z0-9_]{1,32})(?:@[A-Za-z0-9_]{1,32})?(?:\s+([\s\S]*))?$/` of the trimmed text: all of it up to the first white
space is the name and its suffix. -/
def parseCommand (host : Host) (text : String) : Option GatewayCommand :=
  let trimmed := Live.jsTrim text.toList
  match trimmed.takeWhile fun c => !Live.isJsSpace c with
  | '/' :: cs =>
    let name := cs.takeWhile (· ≠ '@')
    if isName name && isSuffix (cs.dropWhile (· ≠ '@')) then
      some ⟨host.toLowerCase (String.ofList name),
        String.ofList (Live.jsTrim (trimmed.dropWhile fun c => !Live.isJsSpace c))⟩
    else none
  | _ => none

/-- The commands the gateway does not forward, whatever the runtime would do with them. -/
def REFUSED_COMMANDS : List String :=
  ["export", "exportkey", "exportwallet", "withdraw", "withdrawal", "send", "transfer", "key", "keys", "privatekey",
   "private_key", "seed", "mnemonic", "backup"]

def MAX_COMMAND_TEXT : Nat := 512

structure TelegramUser where
  id : Int
  isBot : Bool
  firstName : Option String
  lastName : Option String
  username : Option String
deriving DecidableEq, Repr

structure TelegramMessage where
  date : Int
  chatId : Int
  chatType : String
  sender : Option TelegramUser
  text : Option String
deriving DecidableEq, Repr

structure TelegramUpdate where
  updateId : Int
  message : Option TelegramMessage
deriving DecidableEq, Repr

/-- What a `command` frame carries, its request id apart. -/
structure CommandPayload where
  updateId : Int
  telegram : TelegramIdentity
  text : String
  receivedAt : Int
deriving DecidableEq, Repr

inductive PairOutcome where
  | paired | failed | refused | rateLimited
deriving DecidableEq, Repr

inductive UpdateOutcome where
  | ignored | duplicate | rateLimited | help | pair (outcome : PairOutcome) | unpairedHint | refused
  | forwarded (installId : String) (command : CommandPayload)
deriving DecidableEq, Repr

/-- What an update meets: whether it is new, the two rate limits, the links, and what becomes of a code. -/
structure WebhookAnswers where
  inserted : Bool
  chatAllowed : Bool
  userAllowed : Bool
  links : Table LinkRow.installId
  redeem : TelegramUser → String → PairOutcome

def getLinkByUser (links : Table LinkRow.installId) (userId : Int) : Option LinkRow :=
  ((links.rows.filter fun r => r.telegram.userId = userId).insertionSort fun a b => b.pairedAt ≤ a.pairedAt).head?

/-- A message of a private chat that was not seen before and is within its chat's rate. -/
def handleText (host : Host) (w : WebhookAnswers) (updateId : Int) (m : TelegramMessage) (user : TelegramUser)
    (text : String) : UpdateOutcome :=
  let command := parseCommand host text
  if command.any fun c => c.name = "start" ∨ c.name = "help" then .help
  else match command.filter fun c => c.name = "pair" with
    | some c => .pair (w.redeem user c.args)
    | none => match (getLinkByUser w.links user.id).filter fun l => l.telegram.chatId = m.chatId with
      | none => if w.userAllowed then .unpairedHint else .rateLimited
      | some link =>
        if command.any fun c => REFUSED_COMMANDS.contains c.name then .refused
        else .forwarded link.installId ⟨updateId, link.telegram, jsSlice MAX_COMMAND_TEXT text, m.date * 1000⟩

def handleUpdate (host : Host) (w : WebhookAnswers) (u : TelegramUpdate) : UpdateOutcome :=
  match u.message with
  | none => .ignored
  | some m => match m.text, m.sender with
    | some text, some user =>
      if user.isBot ∨ m.chatType ≠ "private" then .ignored
      else if !w.inserted then .duplicate
      else if !w.chatAllowed then .rateLimited
      else handleText host w u.updateId m user (String.ofList (Live.jsTrim text.toList))
    | _, _ => .ignored

/-! ## What the wall is for -/

def Carries (u : TelegramUpdate) (text : String) : Prop := ∃ m, u.message = some m ∧ m.text = some text

def Forwarded (o : UpdateOutcome) : Prop := ∃ installId command, o = .forwarded installId command

/-- No text whose command the gateway refuses reaches a runtime that reads the same command in it, and what the gateway reads
itself the runtime reads no differently. -/
structure Walled (host : Host) (text : String) : Prop where
  refused : ∀ c, CommandRouter.parseCommand host text = some c → c.word ∈ REFUSED_COMMANDS →
    ∀ w u, Carries u text → ¬ Forwarded (handleUpdate host w u)
  same : ∀ g c, parseCommand host text = some g → g.name ∈ ["start", "help", "pair"] ++ REFUSED_COMMANDS →
    CommandRouter.parseCommand host text = some c → c.word = g.name

/-- The first word of a text is a slash, a name of ASCII letters, digits and `_`, and no suffix or such a name behind an `@`. -/
def Plain (text : String) : Prop :=
  ∃ name suffix, Words.first Live.isJsSpace text.toList = '/' :: (name ++ suffix) ∧ isName name = true ∧
    (suffix = [] ∨ ∃ bot, suffix = '@' :: bot ∧ isName bot = true)

/-! ## The two readings -/

section
variable {host : Host} {text : String}

theorem takeWhile_jsTrim (cs : List Char) :
    ((Live.jsTrim cs).takeWhile fun c => !Live.isJsSpace c) = Words.first Live.isJsSpace cs := by
  have htrim := Words.first_trim (p := Live.isJsSpace) cs
  unfold Words.first at htrim ⊢
  rw [Words.dropWhile_trim] at htrim
  exact htrim

theorem plain_trim : Plain (String.ofList (Live.jsTrim text.toList)) ↔ Plain text := by
  unfold Plain
  rw [String.toList_ofList]
  have hfirst : Words.first Live.isJsSpace (Live.jsTrim text.toList) = Words.first Live.isJsSpace text.toList :=
    Words.first_trim _
  rw [hfirst]

theorem not_at_of_isName {name : List Char} (h : isName name = true) : ∀ c ∈ name, (decide (c ≠ '@')) = true := by
  intro c hc
  unfold isName at h
  rw [Bool.and_eq_true, List.all_eq_true] at h
  have hchar := h.2 c hc
  rw [decide_eq_true_eq]
  rintro rfl
  exact absurd hchar (by decide)

/-- The name of a word and its suffix, where the first `@` is. -/
theorem split_at {name suffix : List Char} (hname : isName name = true) (hsuffix : suffix = [] ∨ ∃ bot, suffix = '@' :: bot) :
    (name ++ suffix).takeWhile (· ≠ '@') = name ∧ (name ++ suffix).dropWhile (· ≠ '@') = suffix := by
  rw [List.takeWhile_append_of_pos (not_at_of_isName hname), List.dropWhile_append_of_pos (not_at_of_isName hname)]
  rcases hsuffix with rfl | ⟨bot, rfl⟩
  · exact ⟨List.append_nil name, rfl⟩
  · exact ⟨List.append_nil name, rfl⟩

/-- **The gateway reads the plain commands**, by their lower-cased names. -/
theorem parseCommand_plain (host : Host) {name suffix : List Char}
    (hfirst : Words.first Live.isJsSpace text.toList = '/' :: (name ++ suffix)) (hname : isName name = true)
    (hsuffix : suffix = [] ∨ ∃ bot, suffix = '@' :: bot ∧ isName bot = true) :
    ∃ args, parseCommand host text = some ⟨host.toLowerCase (String.ofList name), args⟩ := by
  have hat : suffix = [] ∨ ∃ bot, suffix = '@' :: bot := hsuffix.imp_right fun ⟨bot, hb, _⟩ => ⟨bot, hb⟩
  obtain ⟨htake, hdrop⟩ := split_at hname hat
  have hok : isSuffix suffix = true := by
    rcases hsuffix with rfl | ⟨bot, rfl, hb⟩
    · rfl
    · exact hb
  refine ⟨String.ofList (Live.jsTrim ((Live.jsTrim text.toList).dropWhile fun c => !Live.isJsSpace c)), ?_⟩
  unfold parseCommand
  dsimp only
  rw [takeWhile_jsTrim, hfirst]
  show (if isName ((name ++ suffix).takeWhile (· ≠ '@')) && isSuffix ((name ++ suffix).dropWhile (· ≠ '@')) then _
    else none) = _
  rw [htake, hdrop, hname, hok]
  rfl

/-- **It reads no others.** -/
theorem plain_of_parseCommand {g : GatewayCommand} (h : parseCommand host text = some g) : ∃ name suffix,
    Words.first Live.isJsSpace text.toList = '/' :: (name ++ suffix) ∧ isName name = true ∧
    (suffix = [] ∨ ∃ bot, suffix = '@' :: bot ∧ isName bot = true) ∧ g.name = host.toLowerCase (String.ofList name) := by
  unfold parseCommand at h
  dsimp only at h
  rw [takeWhile_jsTrim] at h
  split at h
  · rename_i cs hcs
    split at h
    · rename_i hok
      rw [Bool.and_eq_true] at hok
      obtain rfl := Option.some.inj h
      refine ⟨cs.takeWhile (· ≠ '@'), cs.dropWhile (· ≠ '@'), by rw [hcs, List.takeWhile_append_dropWhile], hok.1, ?_, rfl⟩
      cases hd : cs.dropWhile (· ≠ '@') with
      | nil => exact .inl rfl
      | cons d bot =>
        refine .inr ⟨bot, ?_, ?_⟩
        · have hne : cs.dropWhile (· ≠ '@') ≠ [] := by
            rw [hd]
            exact List.cons_ne_nil d bot
          have hhead := List.head_dropWhile_not _ hne
          simp only [hd, List.head_cons] at hhead
          rw [not_not.1 (of_decide_eq_false hhead)]
        · have hsuffix := hok.2
          rw [hd] at hsuffix
          exact hsuffix
    · cases h
  · cases h

/-- The runtime reads the first word up to its first `@`. -/
theorem word_of_parseCommand {c : ParsedCommand} (h : CommandRouter.parseCommand host text = some c) : ∃ cs,
    Words.first Live.isJsSpace text.toList = '/' :: cs ∧ c.word = host.toLowerCase (String.ofList (cs.takeWhile (· ≠ '@'))) := by
  have hhead := Words.head_words (p := Live.isJsSpace) text.toList
  have hfilter : (fun w : List Char => decide (w ≠ [])) = fun w => !w.isEmpty := by
    funext w
    cases w <;> rfl
  unfold CommandRouter.parseCommand CommandRouter.wordsOf at h
  rw [hfilter] at h
  cases hw : (text.toList.splitOnP Live.isJsSpace).filter fun w => !w.isEmpty with
  | nil =>
    rw [hw] at h
    cases h
  | cons w rest =>
    rw [hw, List.map_cons] at h
    rw [hw, List.head?_cons] at hhead
    dsimp only at h
    split at h
    · rename_i cs hcs
      rw [String.toList_ofList] at hcs
      split at hhead
      · cases hhead
      · split at h
        · obtain rfl := Option.some.inj h
          exact ⟨cs, (Option.some.inj hhead).symm.trans hcs, rfl⟩
        · cases h
    · cases h

/-- **Where both read a command, it is the same one.** -/
theorem words_agree {g : GatewayCommand} {c : ParsedCommand} (hg : parseCommand host text = some g)
    (hc : CommandRouter.parseCommand host text = some c) : c.word = g.name := by
  obtain ⟨name, suffix, hfirst, hname, hsuffix, hgn⟩ := plain_of_parseCommand hg
  obtain ⟨cs, hcs, hword⟩ := word_of_parseCommand hc
  obtain ⟨-, rfl⟩ := List.cons.inj (hfirst.symm.trans hcs)
  rw [hword, hgn, (split_at hname (hsuffix.imp_right fun ⟨bot, hb, _⟩ => ⟨bot, hb⟩)).1]

theorem handleText_refused {w : WebhookAnswers} {updateId : Int} {m : TelegramMessage} {user : TelegramUser}
    {g : GatewayCommand} (hg : parseCommand host text = some g) (hr : g.name ∈ REFUSED_COMMANDS) :
    ¬ Forwarded (handleText host w updateId m user text) := by
  rintro ⟨installId, command, hf⟩
  unfold handleText at hf
  rw [hg] at hf
  dsimp only at hf
  split at hf
  · cases hf
  · split at hf
    · cases hf
    · split at hf
      · split at hf
        · cases hf
        · cases hf
      · rw [Option.any_some, if_pos (by simpa using hr)] at hf
        cases hf

/-- An update of a linked user that nothing else stops. -/
def openAnswers : WebhookAnswers :=
  { inserted := true, chatAllowed := true, userAllowed := true
    links := ⟨[⟨"install-1", ⟨7, 7, "@operator"⟩, 0⟩], by decide⟩
    redeem := fun _ _ => .failed }

def textUpdate (text : String) : TelegramUpdate :=
  ⟨1, some ⟨1, 7, "private", some ⟨7, false, none, none, some "operator"⟩, some text⟩⟩

/-- A text that is no command of the gateway's is forwarded to the installation of its sender. -/
theorem forwarded_unread (h : parseCommand host (String.ofList (Live.jsTrim text.toList)) = none) :
    Forwarded (handleUpdate host openAnswers (textUpdate text)) := by
  refine ⟨"install-1", ⟨1, ⟨7, 7, "@operator"⟩, jsSlice MAX_COMMAND_TEXT (String.ofList (Live.jsTrim text.toList)), 1000⟩, ?_⟩
  unfold handleUpdate textUpdate
  dsimp only
  rw [if_neg (by decide), if_neg (by decide), if_neg (by decide)]
  unfold handleText
  rw [h]
  rfl

/-- **The wall holds for a text in just the case that it is plain, where the runtime reads a refused command in it.** -/
theorem walled_iff (host : Host) (text : String) : Walled host text ↔
    ((∃ c, CommandRouter.parseCommand host text = some c ∧ c.word ∈ REFUSED_COMMANDS) → Plain text) := by
  constructor
  · rintro h ⟨c, hc, hr⟩
    by_contra hn
    refine h.refused c hc hr openAnswers (textUpdate text) ⟨_, rfl, rfl⟩ (forwarded_unread ?_)
    cases hp : parseCommand host (String.ofList (Live.jsTrim text.toList)) with
    | none => rfl
    | some g =>
      obtain ⟨name, suffix, hfirst, hname, hsuffix, -⟩ := plain_of_parseCommand hp
      exact absurd (plain_trim.1 ⟨name, suffix, hfirst, hname, hsuffix⟩) hn
  · intro h
    refine ⟨?_, fun g c hg _ hc => words_agree hg hc⟩
    rintro c hc hr w u ⟨m, hu, hm⟩
    obtain ⟨name, suffix, hfirst, hname, hsuffix⟩ := h ⟨c, hc, hr⟩
    have htrimmed : Words.first Live.isJsSpace (String.ofList (Live.jsTrim text.toList)).toList = '/' :: (name ++ suffix) := by
      rw [String.toList_ofList]
      exact (Words.first_trim _).trans hfirst
    obtain ⟨args, hg⟩ := parseCommand_plain host hfirst hname hsuffix
    obtain ⟨args', hg'⟩ := parseCommand_plain host htrimmed hname hsuffix
    rw [words_agree hg hc] at hr
    rintro ⟨installId, command, hf⟩
    unfold handleUpdate at hf
    rw [hu] at hf
    dsimp only at hf
    rw [hm] at hf
    cases hs : m.sender with
    | none =>
      rw [hs] at hf
      cases hf
    | some user =>
      rw [hs] at hf
      dsimp only at hf
      split at hf
      · cases hf
      split at hf
      · cases hf
      split at hf
      · cases hf
      exact handleText_refused hg' hr ⟨installId, command, hf⟩

/-- A refused command with an empty suffix. -/
def suffixed : String := "/export@"

/-- **The gateway forwards it**: its pattern wants a name behind the `@`, and the runtime reads `export`. -/
theorem suffixed_not_walled : ¬ Walled ⟨id, asciiLower⟩ suffixed := by
  intro h
  refine h.refused ⟨"export", []⟩ (by decide +kernel) (by decide) openAnswers (textUpdate suffixed) ⟨_, rfl, rfl⟩ ?_
  exact forwarded_unread (by decide +kernel)

end
end Gateway
end Atra
