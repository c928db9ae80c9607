import Atra.Decimal
import Atra.Json
/-!
# JsonText — a JSON text read back

`parse` reads a JSON text, with `number` for what the text of a number stands for.  It reads back what `stringify` gives of
every value whose numbers read back, so such values with one text are one value.  The fuel of the reader is the length of
the text, which every step into a value or past an element shortens.
-/
namespace Js.Reading

/-! ## Strings -/

def hexValue (u : Nat) : Option Nat :=
  if 48 ≤ u ∧ u ≤ 57 then some (u - 48)
  else if 97 ≤ u ∧ u ≤ 102 then some (u - 87)
  else if 65 ≤ u ∧ u ≤ 70 then some (u - 55)
  else none

def readHex (a b c d : Nat) : Option Nat := do
  let a ← hexValue a
  let b ← hexValue b
  let c ← hexValue c
  let d ← hexValue d
  return ((a * 16 + b) * 16 + c) * 16 + d

/-- The unit a letter behind a backslash stands for. -/
def letter (u : Nat) : Option Nat :=
  if u = 34 ∨ u = 92 ∨ u = 47 then some u
  else if u = 98 then some 8
  else if u = 102 then some 12
  else if u = 110 then some 10
  else if u = 114 then some 13
  else if u = 116 then some 9
  else none

/-- The content of a string up to its closing quotation mark, and the text behind it. -/
def readString : Text → Option (Text × Text)
  | [] => none
  | 92 :: 117 :: a :: b :: c :: d :: t => do
    let u ← readHex a b c d
    let (s, rest) ← readString t
    return (u :: s, rest)
  | 92 :: e :: t => do
    let u ← letter e
    let (s, rest) ← readString t
    return (u :: s, rest)
  | u :: t =>
    if u = 34 then some ([], t)
    else if u < 32 ∨ u = 92 then none
    else (readString t).map fun (s, rest) => (u :: s, rest)

theorem hexValue_hexDigit : ∀ d < 16, hexValue (hexDigit d) = some d := by decide

/-- Before a string that is read as `s`, a raw unit. -/
theorem readString_raw {u : Nat} {t s rest : Text} (hu : 32 ≤ u ∧ u ≠ 34 ∧ u ≠ 92) (h : readString t = some (s, rest)) :
    readString (u :: t) = some (u :: s, rest) := by
  rw [readString.eq_4 _ _ (by grind) (by grind), if_neg hu.2.1, if_neg (by omega), h]
  rfl

theorem readString_letter {e u : Nat} {t s rest : Text} (he : letter e = some u) (h : readString t = some (s, rest)) :
    readString (92 :: e :: t) = some (u :: s, rest) := by
  have hne : e ≠ 117 := by
    rintro rfl
    cases he
  rw [readString.eq_3 _ _ (fun _ _ _ _ _ hc => absurd hc hne), he, h]
  rfl

theorem readString_unicodeEscape {u : Nat} {t s rest : Text} (hu : u < 0x10000) (h : readString t = some (s, rest)) :
    readString (unicodeEscape u ++ t) = some (u :: s, rest) := by
  have hdigit : ∀ d, hexValue (hexDigit (d % 16)) = some (d % 16) := fun d =>
    hexValue_hexDigit _ (Nat.mod_lt _ (by decide))
  show readString (92 :: 117 :: _ :: _ :: _ :: _ :: t) = _
  rw [readString]
  unfold readHex
  rw [hdigit, hdigit, hdigit, hdigit, h]
  have hnumber : ((u / 0x1000 % 16 * 16 + u / 0x100 % 16) * 16 + u / 0x10 % 16) * 16 + u % 16 = u := by omega
  show some (_ :: s, rest) = _
  rw [hnumber]

/-- Before a string that is read as `s`, a unit as it is escaped. -/
theorem readString_escape (u : Nat) {t s rest : Text} (h : readString t = some (s, rest)) :
    readString (escape u ++ t) = some (u :: s, rest) := by
  unfold escape
  split_ifs with h34 h92 h8 h12 h10 h13 h9 hnumber
  · exact readString_letter (by rw [h34]; rfl) h
  · exact readString_letter (by rw [h92]; rfl) h
  · exact readString_letter (by rw [h8]; rfl) h
  · exact readString_letter (by rw [h12]; rfl) h
  · exact readString_letter (by rw [h10]; rfl) h
  · exact readString_letter (by rw [h13]; rfl) h
  · exact readString_letter (by rw [h9]; rfl) h
  · refine readString_unicodeEscape ?_ h
    simp only [isHigh, isLow, Bool.or_eq_true, Bool.and_eq_true, decide_eq_true_eq] at hnumber
    omega
  · refine readString_raw ⟨?_, h34, h92⟩ h
    simp only [Bool.or_eq_true, decide_eq_true_eq, not_or] at hnumber
    omega

/-- **A string is read back.** -/
theorem readString_escapeAll (s r : Text) : readString (escapeAll s ++ 34 :: r) = some (s, r) := by
  induction s using escapeAll.induct with
  | case1 => rfl
  | case2 u => exact readString_escape u rfl
  | case3 u v rest hpair ih =>
    rw [escapeAll, if_pos hpair]
    simp only [isHigh, isLow, Bool.and_eq_true, decide_eq_true_eq] at hpair
    exact readString_raw (by omega) (readString_raw (by omega) ih)
  | case4 u v rest hpair ih =>
    rw [escapeAll, if_neg hpair, List.append_assoc]
    exact readString_escape u ih

/-! ## Values -/

/-- White space between tokens. -/
def isBlank (u : Nat) : Bool := u = 32 || u = 9 || u = 10 || u = 13

def skip (t : Text) : Text := t.dropWhile isBlank

/-- The units the text of a number is made of: digits, signs, the point and the exponent's letter. -/
def isNumberUnit (u : Nat) : Bool := (48 ≤ u && u ≤ 57) || [43, 45, 46, 69, 101].contains u

def behind (word t : Text) : Option Text := if word.isPrefixOf t then some (t.drop word.length) else none

section
variable (number : Text → Option Json)

def readNumber (t : Text) : Option (Json × Text) :=
  (number (t.takeWhile isNumberUnit)).map fun value => (value, t.dropWhile isNumberUnit)

mutual

/-- The value at the start of a text, and what stands behind it. -/
def readValue : Nat → Text → Option (Json × Text)
  | _, [] => none
  | 0, _ => none
  | fuel + 1, u :: t =>
    if u = 34 then (readString t).map fun (s, rest) => (.str s, rest)
    else if u = 91 then
      match skip t with
      | 93 :: rest => some (.arr [], rest)
      | t => (readItems fuel t).map fun (items, rest) => (.arr items, rest)
    else if u = 123 then
      match skip t with
      | 125 :: rest => some (.obj [], rest)
      | t => (readMembers fuel t).map fun (members, rest) => (.obj members, rest)
    else if u = 110 then (behind (text "ull") t).map fun rest => (.null, rest)
    else if u = 116 then (behind (text "rue") t).map fun rest => (.bool true, rest)
    else if u = 102 then (behind (text "alse") t).map fun rest => (.bool false, rest)
    else readNumber number (u :: t)

/-- The elements of an array, at the first of them. -/
def readItems : Nat → Text → Option (List Json × Text)
  | 0, _ => none
  | fuel + 1, t =>
    match readValue fuel t with
    | none => none
    | some (item, t) =>
      match skip t with
      | 93 :: rest => some ([item], rest)
      | 44 :: t => (readItems fuel (skip t)).map fun (items, rest) => (item :: items, rest)
      | _ => none

/-- The members of an object, at the first of them. -/
def readMembers : Nat → Text → Option (List (Text × Json) × Text)
  | 0, _ => none
  | fuel + 1, t =>
    match behind [34] t with
    | none => none
    | some t =>
      match readString t with
      | none => none
      | some (name, t) =>
        match skip t with
        | 58 :: t =>
          match readValue fuel (skip t) with
          | none => none
          | some (value, t) =>
            match skip t with
            | 125 :: rest => some ([(name, value)], rest)
            | 44 :: t => (readMembers fuel (skip t)).map fun (members, rest) => ((name, value) :: members, rest)
            | _ => none
        | _ => none

end

def parse (t : Text) : Option Json :=
  ((readValue number t.length (skip t)).filter fun (_, rest) => (skip rest).isEmpty).map Prod.fst

end

/-! ## What reads back -/

section
variable {number : Text → Option Json}

/-- The text of a number is read as a value. -/
structure ReadsAs (number : Text → Option Json) (t : Text) (v : Json) : Prop where
  ne_nil : t ≠ []
  units : ∀ u ∈ t, isNumberUnit u = true
  read : number t = some v

mutual

def ReadsBack (number : Text → Option Json) : Json → Prop
  | .null | .bool _ | .str _ => True
  | .int n => ReadsAs number (text (toString n)) (.int n)
  | .real printed => ReadsAs number printed (.real printed)
  | .arr items => ItemsReadBack number items
  | .obj members => MembersReadBack number members

def ItemsReadBack (number : Text → Option Json) : List Json → Prop
  | [] => True
  | item :: items => ReadsBack number item ∧ ItemsReadBack number items

def MembersReadBack (number : Text → Option Json) : List (Text × Json) → Prop
  | [] => True
  | (_, value) :: members => ReadsBack number value ∧ MembersReadBack number members

end

def Ends (r : Text) : Prop := ∀ u ∈ r.head?, isNumberUnit u = false

theorem ends_cons {u : Nat} {r : Text} (h : isNumberUnit u = false) : Ends (u :: r) := by
  rintro v ⟨⟩
  exact h

theorem skip_cons {u : Nat} {t : Text} (h : isBlank u = false) : skip (u :: t) = u :: t :=
  List.dropWhile_cons_of_neg (by rw [h]; exact Bool.false_ne_true)

theorem numberUnit_cases {u : Nat} (h : isNumberUnit u = true) :
    (48 ≤ u ∧ u ≤ 57) ∨ u = 43 ∨ u = 45 ∨ u = 46 ∨ u = 69 ∨ u = 101 := by
  simpa [isNumberUnit] using h

theorem readNumber_append {t r : Text} {v : Json} (h : ReadsAs number t v) (hr : Ends r) :
    readNumber number (t ++ r) = some (v, r) := by
  have htake : (t ++ r).takeWhile isNumberUnit = t := by
    rw [List.takeWhile_append_of_pos h.units]
    cases r with
    | nil => simp
    | cons u r => rw [List.takeWhile_cons_of_neg (by rw [hr u rfl]; exact Bool.false_ne_true), List.append_nil]
  have hdrop : (t ++ r).dropWhile isNumberUnit = r := by
    rw [List.dropWhile_append_of_pos h.units]
    cases r with
    | nil => rfl
    | cons u r => exact List.dropWhile_cons_of_neg (by rw [hr u rfl]; exact Bool.false_ne_true)
  unfold readNumber
  rw [htake, hdrop, h.read]
  rfl

theorem readValue_number {t r : Text} {v : Json} {fuel : Nat} (h : ReadsAs number t v) (hr : Ends r)
    (hfuel : t.length ≤ fuel) : readValue number fuel (t ++ r) = some (v, r) := by
  have hread := readNumber_append h hr
  obtain ⟨hne, hunits, -⟩ := h
  cases t with
  | nil => exact absurd rfl hne
  | cons u t =>
    obtain ⟨fuel, rfl⟩ : ∃ f, fuel = f + 1 := ⟨fuel - 1, by rw [List.length_cons] at hfuel; omega⟩
    have hu := numberUnit_cases (hunits u List.mem_cons_self)
    rw [List.cons_append, readValue]
    rw [if_neg (by omega), if_neg (by omega), if_neg (by omega), if_neg (by omega), if_neg (by omega), if_neg (by omega)]
    exact hread

/-- What a value's text starts with: neither white space nor a closing bracket. -/
theorem stringify_head {v : Json} (h : ReadsBack number v) : ∃ u t, stringify v = u :: t ∧ isBlank u = false ∧ u ≠ 93 := by
  have hnumber : ∀ {t : Text} {w : Json}, ReadsAs number t w → ∃ u t', t = u :: t' ∧ isBlank u = false ∧ u ≠ 93 := by
    rintro t w ⟨hne, hunits, -⟩
    cases t with
    | nil => exact absurd rfl hne
    | cons u t =>
      have hu := numberUnit_cases (hunits u List.mem_cons_self)
      exact ⟨u, t, rfl, by simp [isBlank]; omega, by omega⟩
  cases v with
  | null => exact ⟨110, _, rfl, rfl, by decide⟩
  | bool b =>
    cases b with
    | false => exact ⟨102, _, rfl, rfl, by decide⟩
    | true => exact ⟨116, _, rfl, rfl, by decide⟩
  | int n => exact hnumber h
  | real printed => exact hnumber h
  | str s => exact ⟨34, _, rfl, rfl, by decide⟩
  | arr items => exact ⟨91, _, rfl, rfl, by decide⟩
  | obj members => exact ⟨123, _, rfl, rfl, by decide⟩

theorem skip_stringify {v : Json} (h : ReadsBack number v) (r : Text) : skip (stringify v ++ r) = stringify v ++ r := by
  obtain ⟨u, t, heq, hblank, -⟩ := stringify_head h
  rw [heq]
  exact skip_cons hblank

/-- The last element of an array, and one before others. -/
theorem readItems_last {fuel : Nat} {item : Json} {r : Text}
    (h : readValue number fuel (stringify item ++ 93 :: r) = some (item, 93 :: r)) :
    readItems number (fuel + 1) (stringifyItems [item] ++ 93 :: r) = some ([item], r) := by
  show readItems number (fuel + 1) (stringify item ++ 93 :: r) = _
  rw [readItems, h]
  rfl

theorem readItems_next {fuel : Nat} {item next : Json} {items : List Json} {r : Text}
    (h : readValue number fuel (stringify item ++ 44 :: (stringifyItems (next :: items) ++ 93 :: r)) =
      some (item, 44 :: (stringifyItems (next :: items) ++ 93 :: r)))
    (hskip : skip (stringifyItems (next :: items) ++ 93 :: r) = stringifyItems (next :: items) ++ 93 :: r)
    (ih : readItems number fuel (stringifyItems (next :: items) ++ 93 :: r) = some (next :: items, r)) :
    readItems number (fuel + 1) (stringifyItems (item :: next :: items) ++ 93 :: r) = some (item :: next :: items, r) := by
  have htext : stringifyItems (item :: next :: items) ++ 93 :: r =
      stringify item ++ 44 :: (stringifyItems (next :: items) ++ 93 :: r) := by
    rw [stringifyItems.eq_3 _ _ (List.cons_ne_nil _ _), List.append_assoc]
    rfl
  rw [htext, readItems, h]
  show (readItems number fuel (skip (stringifyItems (next :: items) ++ 93 :: r))).map _ = _
  rw [hskip, ih]
  rfl

theorem stringifyItems_head {item : Json} {items : List Json} (h : ReadsBack number item) :
    ∃ u t, stringifyItems (item :: items) = u :: t ∧ isBlank u = false ∧ u ≠ 93 := by
  obtain ⟨u, t, heq, hu⟩ := stringify_head h
  cases items with
  | nil => exact ⟨u, t, heq, hu⟩
  | cons next items => exact ⟨u, _, by rw [stringifyItems.eq_3 _ _ (List.cons_ne_nil _ _), heq]; rfl, hu⟩

theorem readMembers_name {fuel : Nat} {name : Text} {value : Json} {t : Text} (hvalue : ReadsBack number value)
    (h : readValue number fuel (stringify value ++ t) = some (value, t)) :
    readMembers number (fuel + 1) (quote name ++ 58 :: (stringify value ++ t)) =
      match skip t with
      | 125 :: rest => some ([(name, value)], rest)
      | 44 :: t => (readMembers number fuel (skip t)).map fun (members, rest) => ((name, value) :: members, rest)
      | _ => none := by
  have hquote : quote name ++ 58 :: (stringify value ++ t) =
      34 :: (escapeAll name ++ 34 :: 58 :: (stringify value ++ t)) := by
    unfold quote
    rw [List.cons_append, List.append_assoc]
    rfl
  rw [hquote, readMembers]
  show (match readString (escapeAll name ++ 34 :: 58 :: (stringify value ++ t)) with
    | none => none
    | some (name, t) => _) = _
  rw [readString_escapeAll]
  show (match readValue number fuel (skip (stringify value ++ t)) with | none => none | some (value, t) => _) = _
  rw [skip_stringify hvalue, h]

theorem readValue_word {u : Nat} {word r : Text} {v : Json} {fuel : Nat} (hfuel : (u :: word).length ≤ fuel)
    (h : (u = 110 ∧ word = text "ull" ∧ v = .null) ∨ (u = 116 ∧ word = text "rue" ∧ v = .bool true) ∨
      (u = 102 ∧ word = text "alse" ∧ v = .bool false)) : readValue number fuel (u :: word ++ r) = some (v, r) := by
  obtain ⟨fuel, rfl⟩ : ∃ f, fuel = f + 1 := ⟨fuel - 1, by rw [List.length_cons] at hfuel; omega⟩
  rcases h with ⟨rfl, rfl, rfl⟩ | ⟨rfl, rfl, rfl⟩ | ⟨rfl, rfl, rfl⟩
  · rfl
  · rfl
  · rfl

/-- With so much fuel, values are read back from their texts, whatever stands behind them that is no part of a number. -/
def ValuesRead (number : Text → Option Json) (fuel : Nat) : Prop :=
  ∀ v r, ReadsBack number v → Ends r → (stringify v).length ≤ fuel → readValue number fuel (stringify v ++ r) = some (v, r)

/-- With so much fuel, elements are read back to the end of their array. -/
def ItemsRead (number : Text → Option Json) (fuel : Nat) : Prop :=
  ∀ item items r, ItemsReadBack number (item :: items) → (stringifyItems (item :: items)).length + 1 ≤ fuel →
    readItems number fuel (stringifyItems (item :: items) ++ 93 :: r) = some (item :: items, r)

/-- With so much fuel, members are read back to the end of their object. -/
def MembersRead (number : Text → Option Json) (fuel : Nat) : Prop :=
  ∀ name value members r, MembersReadBack number ((name, value) :: members) →
    (stringifyMembers ((name, value) :: members)).length + 1 ≤ fuel →
    readMembers number fuel (stringifyMembers ((name, value) :: members) ++ 125 :: r) = some ((name, value) :: members, r)

theorem stringifyMembers_head (name : Text) (value : Json) (members : List (Text × Json)) :
    ∃ t, stringifyMembers ((name, value) :: members) = 34 :: t := by
  cases members with
  | nil => exact ⟨_, rfl⟩
  | cons next members => exact ⟨_, by rw [stringifyMembers.eq_3 _ _ _ (List.cons_ne_nil _ _)]; rfl⟩

theorem readValue_arr {fuel : Nat} {item : Json} {items : List Json} {r : Text} (h : ItemsReadBack number (item :: items))
    (hread : readItems number fuel (stringifyItems (item :: items) ++ 93 :: r) = some (item :: items, r)) :
    readValue number (fuel + 1) (stringify (.arr (item :: items)) ++ r) = some (.arr (item :: items), r) := by
  have htext : stringify (.arr (item :: items)) ++ r = 91 :: (stringifyItems (item :: items) ++ 93 :: r) := by
    simp [stringify, text, unitsOf]
  obtain ⟨u, t, heq, hblank, hclose⟩ := @stringifyItems_head number item items h.1
  rw [htext, readValue, if_neg (by decide), if_pos rfl]
  rw [heq, List.cons_append] at hread ⊢
  rw [skip_cons hblank]
  split
  · rename_i hhead
    exact absurd (List.cons.inj hhead).1 hclose
  · rw [hread]
    rfl

theorem readValue_obj {fuel : Nat} {name : Text} {value : Json} {members : List (Text × Json)} {r : Text}
    (hread : readMembers number fuel (stringifyMembers ((name, value) :: members) ++ 125 :: r) =
      some ((name, value) :: members, r)) :
    readValue number (fuel + 1) (stringify (.obj ((name, value) :: members)) ++ r) =
      some (.obj ((name, value) :: members), r) := by
  have htext : stringify (.obj ((name, value) :: members)) ++ r =
      123 :: (stringifyMembers ((name, value) :: members) ++ 125 :: r) := by
    simp [stringify, text, unitsOf]
  obtain ⟨t, heq⟩ := stringifyMembers_head name value members
  rw [htext, readValue, if_neg (by decide), if_neg (by decide), if_pos rfl]
  rw [heq] at hread ⊢
  show ((readMembers number fuel (34 :: t ++ 125 :: r)).map _) = _
  rw [hread]
  rfl

theorem ValuesRead.succ {fuel : Nat} (hitems : ItemsRead number fuel) (hmembers : MembersRead number fuel) :
    ValuesRead number (fuel + 1) := by
  intro v r h hr hfuel
  cases v with
  | null => exact readValue_word hfuel (.inl ⟨rfl, rfl, rfl⟩)
  | bool b =>
    cases b with
    | false => exact readValue_word hfuel (.inr (.inr ⟨rfl, rfl, rfl⟩))
    | true => exact readValue_word hfuel (.inr (.inl ⟨rfl, rfl, rfl⟩))
  | int n => exact readValue_number h hr hfuel
  | real printed => exact readValue_number h hr hfuel
  | str s =>
    have htext : stringify (.str s) ++ r = 34 :: (escapeAll s ++ 34 :: r) := by simp [stringify, quote]
    rw [htext, readValue, if_pos rfl, readString_escapeAll]
    rfl
  | arr items =>
    cases items with
    | nil => rfl
    | cons item items =>
      have hlength : (stringify (.arr (item :: items))).length = (stringifyItems (item :: items)).length + 2 := by
        simp [stringify, text, unitsOf]
      exact readValue_arr h (hitems item items r h (by omega))
  | obj members =>
    cases members with
    | nil => rfl
    | cons member members =>
      obtain ⟨name, value⟩ := member
      have hlength : (stringify (.obj ((name, value) :: members))).length =
          (stringifyMembers ((name, value) :: members)).length + 2 := by
        simp [stringify, text, unitsOf]
      exact readValue_obj (hmembers name value members r h (by omega))

theorem ItemsRead.succ {fuel : Nat} (hvalues : ValuesRead number fuel) (hitems : ItemsRead number fuel) :
    ItemsRead number (fuel + 1) := by
  intro item items r h hfuel
  cases items with
  | nil =>
    have hlength : (stringifyItems [item]).length = (stringify item).length := rfl
    exact readItems_last (hvalues item _ h.1 (ends_cons rfl) (by omega))
  | cons next items =>
    have hlength : (stringifyItems (item :: next :: items)).length =
        (stringify item).length + 1 + (stringifyItems (next :: items)).length := by
      rw [stringifyItems.eq_3 _ _ (List.cons_ne_nil _ _), List.length_append, List.length_cons]
      omega
    obtain ⟨u, t, heq, hblank, -⟩ := @stringifyItems_head number next items h.2.1
    apply readItems_next
    · exact hvalues item _ h.1 (ends_cons rfl) (by omega)
    · rw [heq]
      exact skip_cons hblank
    · exact hitems next items r h.2 (by omega)

theorem MembersRead.succ {fuel : Nat} (hvalues : ValuesRead number fuel) (hmembers : MembersRead number fuel) :
    MembersRead number (fuel + 1) := by
  intro name value members r h hfuel
  cases members with
  | nil =>
    have htext : stringifyMembers [(name, value)] ++ 125 :: r = quote name ++ 58 :: (stringify value ++ 125 :: r) := by
      simp [stringifyMembers]
    have hlength : (stringifyMembers [(name, value)]).length = (quote name).length + 1 + (stringify value).length := by
      simp [stringifyMembers]
      omega
    have hvalue := hvalues value (125 :: r) h.1 (ends_cons rfl) (by omega)
    rw [htext, readMembers_name h.1 hvalue]
    rfl
  | cons next members =>
    obtain ⟨name', value'⟩ := next
    have htext : stringifyMembers ((name, value) :: (name', value') :: members) ++ 125 :: r =
        quote name ++ 58 :: (stringify value ++ 44 :: (stringifyMembers ((name', value') :: members) ++ 125 :: r)) := by
      rw [stringifyMembers.eq_3 _ _ _ (List.cons_ne_nil _ _)]
      simp
    have hlength : (stringifyMembers ((name, value) :: (name', value') :: members)).length =
        (quote name).length + 2 + (stringify value).length + (stringifyMembers ((name', value') :: members)).length := by
      rw [stringifyMembers.eq_3 _ _ _ (List.cons_ne_nil _ _)]
      simp
      omega
    have hvalue := hvalues value (44 :: (stringifyMembers ((name', value') :: members) ++ 125 :: r)) h.1 (ends_cons rfl)
      (by omega)
    have hrest := hmembers name' value' members r h.2 (by omega)
    obtain ⟨t, heq⟩ := stringifyMembers_head name' value' members
    rw [htext, readMembers_name h.1 hvalue]
    rw [heq] at hrest ⊢
    show ((readMembers number fuel (34 :: t ++ 125 :: r)).map _) = _
    rw [hrest]
    rfl

/-- **Values, elements and members are read back**, with fuel for their texts. -/
theorem reads (fuel : Nat) : ValuesRead number fuel ∧ ItemsRead number fuel ∧ MembersRead number fuel := by
  induction fuel with
  | zero =>
    refine ⟨fun v r h _ hfuel => ?_, fun _ _ _ _ hfuel => (by omega), fun _ _ _ _ _ hfuel => (by omega)⟩
    obtain ⟨u, t, heq, -⟩ := stringify_head h
    rw [heq] at hfuel
    cases hfuel
  | succ fuel ih =>
    obtain ⟨hvalues, hitems, hmembers⟩ := ih
    exact ⟨ValuesRead.succ hitems hmembers, ItemsRead.succ hvalues hitems, MembersRead.succ hvalues hmembers⟩

/-- **A value is what its text is parsed as.** -/
theorem parse_stringify {v : Json} (h : ReadsBack number v) : parse number (stringify v) = some v := by
  have hskip := skip_stringify h []
  have hread := (reads (stringify v).length).1 v [] h (by rintro u ⟨⟩) le_rfl
  rw [List.append_nil] at hskip hread
  unfold parse
  rw [hskip, hread]
  rfl

theorem stringify_inj {v w : Json} (hv : ReadsBack number v) (hw : ReadsBack number w) (h : stringify v = stringify w) :
    v = w := by
  have hparse := parse_stringify hv
  rw [h, parse_stringify hw] at hparse
  exact (Option.some.inj hparse).symm

end

/-! ## Numbers in plain digits -/

def isDigitUnit (u : Nat) : Bool := 48 ≤ u && u ≤ 57

/-- The number of a text of plain digits, with a sign or without. -/
def decimal? : Text → Option Int
  | 45 :: t => if t ≠ [] ∧ t.all isDigitUnit then some (-(Decimal.natOf (t.map Char.ofNat) : Int)) else none
  | t => if t ≠ [] ∧ t.all isDigitUnit then some (Decimal.natOf (t.map Char.ofNat)) else none

/-- Plain digits stand for an integer, every other text for a number that prints as it. -/
def plainNumber (t : Text) : Option Json := some ((decimal? t).elim (.real t) .int)

def digitUnits (n : Nat) : Text := (Nat.toDigits 10 n).map Char.toNat

theorem digitUnits_all (n : Nat) : (digitUnits n).all isDigitUnit = true := by
  unfold digitUnits
  rw [List.all_map, List.all_eq_true]
  intro c hc
  have hdigit := Nat.isDigit_of_mem_toDigits (by decide) (by decide) hc
  simpa [Char.isDigit, isDigitUnit, UInt32.le_iff_toNat_le] using hdigit

theorem digitUnits_ne_nil (n : Nat) : digitUnits n ≠ [] := by
  unfold digitUnits
  rw [Ne, List.map_eq_nil_iff]
  exact Nat.toDigits_ne_nil

theorem natOf_digitUnits (n : Nat) : Decimal.natOf ((digitUnits n).map Char.ofNat) = n := by
  unfold digitUnits
  rw [List.map_map]
  have hid : Char.ofNat ∘ Char.toNat = id := funext Char.ofNat_toNat
  rw [hid, List.map_id, Decimal.natOf_toDigits]

theorem text_repr (n : Nat) : text (Nat.repr n) = digitUnits n := by
  have hdigits : (Nat.repr n).toList = Nat.toDigits 10 n := by simp [Nat.repr]
  have hunits : ∀ c ∈ Nat.toDigits 10 n, unitsOf c = [c.toNat] := by
    intro c hc
    have hdigit := List.all_eq_true.1 (digitUnits_all n) _ (List.mem_map_of_mem hc)
    simp only [isDigitUnit, Bool.and_eq_true, decide_eq_true_eq] at hdigit
    exact if_pos (by omega)
  unfold text digitUnits
  rw [hdigits, List.flatMap_congr hunits, List.map_eq_flatMap]

theorem text_int (n : Int) : text (toString n) = match n with
    | .ofNat m => digitUnits m
    | .negSucc m => 45 :: digitUnits (m + 1) := by
  cases n with
  | ofNat m => exact text_repr m
  | negSucc m =>
    show text ("-" ++ Nat.repr (m + 1)) = 45 :: digitUnits (m + 1)
    rw [← text_repr]
    simp [text, unitsOf]

theorem decimal?_text (n : Int) : decimal? (text (toString n)) = some n := by
  rw [text_int]
  cases n with
  | ofNat m =>
    have hhead : ∀ t, digitUnits m = 45 :: t → False := by
      intro t heq
      have hall := digitUnits_all m
      rw [heq] at hall
      cases hall
    show decimal? (digitUnits m) = _
    rw [decimal?.eq_2 _ hhead, if_pos ⟨digitUnits_ne_nil m, digitUnits_all m⟩, natOf_digitUnits]
    rfl
  | negSucc m =>
    show decimal? (45 :: digitUnits (m + 1)) = _
    rw [decimal?, if_pos ⟨digitUnits_ne_nil _, digitUnits_all _⟩, natOf_digitUnits]
    rfl

theorem readsAs_int (n : Int) : ReadsAs plainNumber (text (toString n)) (.int n) := by
  refine ⟨?_, ?_, ?_⟩
  · intro h
    have hread := decimal?_text n
    rw [h] at hread
    cases hread
  · intro u hu
    have hdigits : ∀ m, ∀ u ∈ digitUnits m, isNumberUnit u = true := by
      intro m u hu
      have hdigit := List.all_eq_true.1 (digitUnits_all m) u hu
      unfold isDigitUnit at hdigit
      unfold isNumberUnit
      rw [hdigit, Bool.true_or]
    rw [text_int] at hu
    cases n with
    | ofNat m => exact hdigits m u hu
    | negSucc m =>
      rcases List.mem_cons.1 hu with rfl | hu
      · rfl
      · exact hdigits (m + 1) u hu
  · unfold plainNumber
    rw [decimal?_text]
    rfl

end Js.Reading
