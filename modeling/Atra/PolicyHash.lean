import Atra.JsonText
import Atra.Registry
import Atra.Utf16
import Mathlib.Data.List.Sort
/-!
# PolicyHash — the hash of a policy is that of its value

A policy is hashed as JSON whose keys are sorted at every level.  The sorted entries become an object again, and an object keeps
names that are array indices before all others, whatever order they were inserted in (`fromEntries`).  What a value means is
its members by name (`meaning`): the canonical text is a function of the meaning, because sorting forgets the order of the
members, and the meaning can be read off the text, because reordering loses none of them.
-/
namespace Js

/-! ## Values -/

/-- A value that came from JSON; a member of an object may hold `undefined`. -/
inductive Value where
  | null
  | bool (b : Bool)
  | num (n : Int)
  /-- A number that is not printed in plain digits. -/
  | real (printed : Text)
  | str (s : Text)
  | arr (items : List Value)
  | obj (members : List (Text × Option Value))

/-- A property of values holds when it passes from the elements and the members to the whole. -/
theorem Value.ind {P : Value → Prop} (null : P .null) (bool : ∀ b, P (.bool b)) (num : ∀ n, P (.num n))
    (real : ∀ t, P (.real t)) (str : ∀ s, P (.str s)) (arr : ∀ items, (∀ v ∈ items, P v) → P (.arr items))
    (obj : ∀ members, (∀ name v, (name, some v) ∈ members → P v) → P (.obj members)) (v : Value) : P v := by
  refine @Value.rec P (fun items => ∀ v ∈ items, P v) (fun members => ∀ name v, (name, some v) ∈ members → P v)
    (fun member => ∀ v, member.2 = some v → P v) (fun o => ∀ v, o = some v → P v)
    null bool num real str arr obj ?_ ?_ ?_ ?_ ?_ ?_ ?_ v
  · intro v hv
    cases hv
  · intro head tail hhead htail v hv
    rcases List.mem_cons.1 hv with rfl | hv
    · exact hhead
    · exact htail v hv
  · intro name v hv
    cases hv
  · intro head tail hhead htail name v hv
    rcases List.mem_cons.1 hv with rfl | hv
    · exact hhead v rfl
    · exact htail name v hv
  · intro name value hvalue v hv
    exact hvalue v hv
  · intro v hv
    cases hv
  · intro value hvalue v hv
    exact Option.some.inj hv ▸ hvalue

def IsUnits (s : Text) : Prop := ∀ u ∈ s, u < 0x10000

/-- What every value is: its strings are code units, and no object has a name twice. -/
inductive Proper : Value → Prop
  | null : Proper .null
  | bool (b : Bool) : Proper (.bool b)
  | num (n : Int) : Proper (.num n)
  | real {t : Text} (h : Reading.ReadsAs Reading.plainNumber t (.real t)) : Proper (.real t)
  | str {s : Text} (h : IsUnits s) : Proper (.str s)
  | arr {items : List Value} (h : ∀ v ∈ items, Proper v) : Proper (.arr items)
  | obj {members : List (Text × Option Value)} (hnames : (members.map Prod.fst).Nodup)
      (hunits : ∀ m ∈ members, IsUnits m.1) (h : ∀ name v, (name, some v) ∈ members → Proper v) : Proper (.obj members)

/-! ## The canonical text -/

/-- The number of a name that is an array index: digits without a leading zero, below `2^32 - 1`. -/
def arrayIndex (name : Text) : Option Nat :=
  let digits := name.map Char.ofNat
  if Decimal.isInteger digits ∧ Decimal.natOf digits < 4294967295 then some (Decimal.natOf digits) else none

abbrev Entry := Text × Json

/-- By code units, as strings are compared. -/
abbrev ByName (a b : Entry) : Prop := a.1 ≤ b.1

abbrev ByIndex (a b : Entry) : Prop := (arrayIndex a.1).getD 0 ≤ (arrayIndex b.1).getD 0

/-- `Object.fromEntries`, of entries whose names differ: array indices come first and in their order, the others as they are
inserted. -/
def fromEntries (entries : List Entry) : List Entry :=
  (entries.filter fun e => (arrayIndex e.1).isSome).insertionSort ByIndex ++
    entries.filter fun e => !(arrayIndex e.1).isSome

mutual

def sortKeys : Value → Json
  | .null => .null
  | .bool b => .bool b
  | .num n => .int n
  | .real printed => .real printed
  | .str s => .str s
  | .arr items => .arr (sortItems items)
  | .obj members => .obj (fromEntries ((sortMembers members).insertionSort ByName))

def sortItems : List Value → List Json
  | [] => []
  | item :: items => sortKeys item :: sortItems items

/-- The entries that are not `undefined`; the sort looks at their names only. -/
def sortMembers : List (Text × Option Value) → List Entry
  | [] => []
  | (name, some value) :: members => (name, sortKeys value) :: sortMembers members
  | (_, none) :: members => sortMembers members

end

def canonicalJson (value : Value) : Text := stringify (sortKeys value)

/-! ## What a value means -/

/-- A value without the order of its members: an object is what it holds under each name. -/
inductive Meaning where
  | null
  | bool (b : Bool)
  | num (n : Int)
  | real (printed : Text)
  | str (s : Text)
  | arr (items : List Meaning)
  | obj (get : Text → Option Meaning)

mutual

def meaning : Value → Meaning
  | .null => .null
  | .bool b => .bool b
  | .num n => .num n
  | .real printed => .real printed
  | .str s => .str s
  | .arr items => .arr (meaningItems items)
  | .obj members => .obj (meaningMember members)

def meaningItems : List Value → List Meaning
  | [] => []
  | item :: items => meaning item :: meaningItems items

/-- A name that holds `undefined` holds nothing. -/
def meaningMember : List (Text × Option Value) → Text → Option Meaning
  | [], _ => none
  | (name, some value) :: members, wanted => if name = wanted then some (meaning value) else meaningMember members wanted
  | (name, none) :: members, wanted => if name = wanted then none else meaningMember members wanted

end

mutual

/-- The value a JSON text stands for. -/
def reading : Json → Meaning
  | .null => .null
  | .bool b => .bool b
  | .int n => .num n
  | .real printed => .real printed
  | .str s => .str s
  | .arr items => .arr (readingItems items)
  | .obj members => .obj (readingMember members)

def readingItems : List Json → List Meaning
  | [] => []
  | item :: items => reading item :: readingItems items

def readingMember : List Entry → Text → Option Meaning
  | [], _ => none
  | (name, value) :: members, wanted => if name = wanted then some (reading value) else readingMember members wanted

end

/-! ## Sorting and rebuilding lose no entry -/

theorem perm_fromEntries (entries : List Entry) : (fromEntries entries).Perm entries :=
  ((List.perm_insertionSort ByIndex _).append_right _).trans (List.filter_append_perm _ entries)

theorem sortItems_eq (items : List Value) : sortItems items = items.map sortKeys := by
  induction items with
  | nil => rfl
  | cons item items ih => rw [sortItems, ih, List.map_cons]

theorem mem_sortMembers {members : List (Text × Option Value)} {name : Text} {value : Json} :
    (name, value) ∈ sortMembers members ↔ ∃ v, (name, some v) ∈ members ∧ sortKeys v = value := by
  induction members with
  | nil => simp [sortMembers]
  | cons member members ih =>
    obtain ⟨name', value'⟩ := member
    cases value' with
    | none =>
      rw [sortMembers, ih]
      simp
    | some v =>
      rw [sortMembers, List.mem_cons, ih]
      constructor
      · rintro (heq | ⟨w, hw, hvalue⟩)
        · obtain ⟨rfl, rfl⟩ := Prod.mk.inj heq
          exact ⟨v, List.mem_cons_self, rfl⟩
        · exact ⟨w, List.mem_cons_of_mem _ hw, hvalue⟩
      · rintro ⟨w, hw, hvalue⟩
        rcases List.mem_cons.1 hw with heq | hw
        · obtain ⟨rfl, hsame⟩ := Prod.mk.inj heq
          rw [← hvalue, Option.some.inj hsame]
          exact .inl rfl
        · exact .inr ⟨w, hw, hvalue⟩

theorem sortMembers_names (members : List (Text × Option Value)) :
    ((sortMembers members).map Prod.fst).Sublist (members.map Prod.fst) := by
  induction members with
  | nil => exact .refl _
  | cons member members ih =>
    obtain ⟨name, value⟩ := member
    cases value with
    | none => exact ih.cons name
    | some v => exact ih.cons_cons name

/-- The members of an object in the order of its canonical text. -/
def canonicalMembers (members : List (Text × Option Value)) : List Entry :=
  fromEntries ((sortMembers members).insertionSort ByName)

theorem perm_canonicalMembers (members : List (Text × Option Value)) :
    (canonicalMembers members).Perm (sortMembers members) :=
  (perm_fromEntries _).trans (List.perm_insertionSort ByName _)

theorem mem_canonicalMembers {members : List (Text × Option Value)} {name : Text} {value : Json} :
    (name, value) ∈ canonicalMembers members ↔ ∃ v, (name, some v) ∈ members ∧ sortKeys v = value :=
  (perm_canonicalMembers members).mem_iff.trans mem_sortMembers

theorem canonicalMembers_names {members : List (Text × Option Value)} (h : (members.map Prod.fst).Nodup) :
    ((canonicalMembers members).map Prod.fst).Nodup :=
  ((perm_canonicalMembers members).map Prod.fst).nodup_iff.2 ((sortMembers_names members).nodup h)

/-- **The order of the members is forgotten**: the same entries are sorted into the same list. -/
theorem canonicalMembers_congr {members others : List (Text × Option Value)} (hnames : (members.map Prod.fst).Nodup)
    (h : (sortMembers members).Perm (sortMembers others)) : canonicalMembers members = canonicalMembers others := by
  have hdistinct : ((sortMembers members).map Prod.fst).Nodup := (sortMembers_names members).nodup hnames
  have hperm : ((sortMembers members).insertionSort ByName).Perm ((sortMembers others).insertionSort ByName) :=
    (List.perm_insertionSort ByName _).trans (h.trans (List.perm_insertionSort ByName _).symm)
  have hsorted : (sortMembers members).insertionSort ByName = (sortMembers others).insertionSort ByName := by
    refine hperm.eq_of_pairwise (fun a b ha hb hab hba => ?_) (List.pairwise_insertionSort ByName _)
      (List.pairwise_insertionSort ByName _)
    have ha' := (List.perm_insertionSort ByName _).mem_iff.1 ha
    have hb' := h.mem_iff.2 ((List.perm_insertionSort ByName _).mem_iff.1 hb)
    exact List.inj_on_of_nodup_map hdistinct ha' hb' (le_antisymm hab hba)
  unfold canonicalMembers
  rw [hsorted]

/-! ## The meaning is in the members -/

theorem meaningItems_eq (items : List Value) : meaningItems items = items.map meaning := by
  induction items with
  | nil => rfl
  | cons item items ih => rw [meaningItems, ih, List.map_cons]

theorem readingItems_eq (items : List Json) : readingItems items = items.map reading := by
  induction items with
  | nil => rfl
  | cons item items ih => rw [readingItems, ih, List.map_cons]

/-- A name that stands first is nowhere else. -/
theorem not_mem_of_nodup {α : Type} {name : Text} {value : α} {members : List (Text × α)}
    (h : (((name, value) :: members).map Prod.fst).Nodup) (other : α) : (name, other) ∉ members := by
  rw [List.map_cons, List.nodup_cons] at h
  exact fun hmem => h.1 (List.mem_map.2 ⟨_, hmem, rfl⟩)

theorem meaningMember_eq_some {members : List (Text × Option Value)} (hnames : (members.map Prod.fst).Nodup) {name : Text}
    {m : Meaning} : meaningMember members name = some m ↔ ∃ v, (name, some v) ∈ members ∧ meaning v = m := by
  induction members with
  | nil => simp [meaningMember]
  | cons member members ih =>
    obtain ⟨name', value⟩ := member
    have hrest := ih (List.nodup_cons.1 hnames).2
    by_cases hname : name' = name
    · subst hname
      have hnot := not_mem_of_nodup hnames
      cases value with
      | none => simp [meaningMember, hnot]
      | some v => simp [meaningMember, hnot]
    · have hother : name ≠ name' := fun h => hname h.symm
      cases value with
      | none => simp [meaningMember, hname, hother, hrest]
      | some v => simp [meaningMember, hname, hother, hrest]

theorem readingMember_eq_some {members : List Entry} (hnames : (members.map Prod.fst).Nodup) {name : Text}
    {m : Meaning} : readingMember members name = some m ↔ ∃ v, (name, v) ∈ members ∧ reading v = m := by
  induction members with
  | nil => simp [readingMember]
  | cons member members ih =>
    obtain ⟨name', value⟩ := member
    have hrest := ih (List.nodup_cons.1 hnames).2
    by_cases hname : name' = name
    · subst hname
      simp [readingMember, not_mem_of_nodup hnames]
    · have hother : name ≠ name' := fun h => hname h.symm
      simp [readingMember, hname, hother, hrest]

/-- **The meaning of a value can be read off its canonical form.** -/
theorem reading_sortKeys {v : Value} (h : Proper v) : reading (sortKeys v) = meaning v := by
  induction v using Value.ind with
  | null => rfl
  | bool b => rfl
  | num n => rfl
  | real t => rfl
  | str s => rfl
  | arr items ih =>
    cases h with
    | arr hitems =>
      rw [sortKeys, reading, meaning, sortItems_eq, readingItems_eq, meaningItems_eq, List.map_map]
      congr 1
      exact List.map_congr_left fun v hv => ih v hv (hitems v hv)
  | obj members ih =>
    cases h with
    | obj hnames hunits hmembers =>
      rw [sortKeys, reading, meaning]
      congr 1
      funext name
      refine Option.ext fun m => ?_
      show readingMember (canonicalMembers members) name = some m ↔ meaningMember members name = some m
      rw [readingMember_eq_some (canonicalMembers_names hnames), meaningMember_eq_some hnames]
      constructor
      · rintro ⟨j, hj, hm⟩
        obtain ⟨v, hv, rfl⟩ := mem_canonicalMembers.1 hj
        exact ⟨v, hv, (ih name v hv (hmembers name v hv)).symm.trans hm⟩
      · rintro ⟨v, hv, hm⟩
        exact ⟨_, mem_canonicalMembers.2 ⟨v, hv, rfl⟩, (ih name v hv (hmembers name v hv)).trans hm⟩

theorem map_congr_of_map {α β γ : Type} {f : α → β} {g : α → γ} {xs ys : List α} (h : xs.map f = ys.map f)
    (hfg : ∀ x ∈ xs, ∀ y ∈ ys, f x = f y → g x = g y) : xs.map g = ys.map g := by
  induction xs generalizing ys with
  | nil =>
    obtain rfl := List.map_eq_nil_iff.1 h.symm
    rfl
  | cons x xs ih =>
    cases ys with
    | nil => cases h
    | cons y ys =>
      obtain ⟨hhead, htail⟩ := List.cons.inj h
      rw [List.map_cons, List.map_cons, hfg x List.mem_cons_self y List.mem_cons_self hhead,
        ih htail fun x hx y hy => hfg x (List.mem_cons_of_mem _ hx) y (List.mem_cons_of_mem _ hy)]

/-- **What means the same has the same canonical form**: by induction on one of the two. -/
theorem sortKeys_congr {v w : Value} (hv : Proper v) (hw : Proper w) (h : meaning v = meaning w) : sortKeys v = sortKeys w := by
  induction v using Value.ind generalizing w with
  | null => cases w <;> cases h; rfl
  | bool b => cases w <;> cases h; rfl
  | num n => cases w <;> cases h; rfl
  | real t => cases w <;> cases h; rfl
  | str s => cases w <;> cases h; rfl
  | arr items ih =>
    cases w with
    | arr others =>
      cases hv with
      | arr hitems =>
        cases hw with
        | arr hothers =>
          rw [meaning, meaning, meaningItems_eq, meaningItems_eq] at h
          rw [sortKeys, sortKeys, sortItems_eq, sortItems_eq, map_congr_of_map (Meaning.arr.inj h)
            fun v hv w hw => ih v hv (hitems v hv) (hothers w hw)]
    | null | bool | num | real | str | obj => cases h
  | obj members ih =>
    cases w with
    | obj others =>
      cases hv with
      | obj hnames hunits hmembers =>
        cases hw with
        | obj hnames' hunits' hothers =>
          have hget : meaningMember members = meaningMember others := Meaning.obj.inj h
          have hperm : (sortMembers members).Perm (sortMembers others) := by
            have hdistinct := ((sortMembers_names members).nodup hnames).of_map
            have hdistinct' := ((sortMembers_names others).nodup hnames').of_map
            refine (List.perm_ext_iff_of_nodup hdistinct hdistinct').2 fun entry => ?_
            rw [mem_sortMembers, mem_sortMembers]
            constructor
            · rintro ⟨v, hv, hvalue⟩
              have hsome := (meaningMember_eq_some hnames).2 ⟨v, hv, rfl⟩
              rw [hget] at hsome
              obtain ⟨w, hw, hsame⟩ := (meaningMember_eq_some hnames').1 hsome
              exact ⟨w, hw, (ih _ v hv (hmembers _ v hv) (hothers _ w hw) hsame.symm).symm.trans hvalue⟩
            · rintro ⟨w, hw, hvalue⟩
              have hsome := (meaningMember_eq_some hnames').2 ⟨w, hw, rfl⟩
              rw [← hget] at hsome
              obtain ⟨v, hv, hsame⟩ := (meaningMember_eq_some hnames).1 hsome
              exact ⟨v, hv, (ih _ v hv (hmembers _ v hv) (hothers _ w hw) hsame).trans hvalue⟩
          exact congrArg Json.obj (canonicalMembers_congr hnames hperm)
    | null | bool | num | real | str | arr => cases h

/-! ## The canonical text -/

theorem itemsReadBack_iff {items : List Json} : Reading.ItemsReadBack Reading.plainNumber items ↔
    ∀ v ∈ items, Reading.ReadsBack Reading.plainNumber v := by
  induction items with
  | nil => simp [Reading.ItemsReadBack]
  | cons item items ih => simp [Reading.ItemsReadBack, ih]

theorem membersReadBack_iff {members : List Entry} : Reading.MembersReadBack Reading.plainNumber members ↔
    ∀ m ∈ members, Reading.ReadsBack Reading.plainNumber m.2 := by
  induction members with
  | nil => simp [Reading.MembersReadBack]
  | cons member members ih =>
    obtain ⟨name, value⟩ := member
    simp [Reading.MembersReadBack, ih]

theorem readsBack_sortKeys {v : Value} (h : Proper v) : Reading.ReadsBack Reading.plainNumber (sortKeys v) := by
  induction v using Value.ind with
  | null | bool | str => trivial
  | num n => exact Reading.readsAs_int n
  | real t =>
    cases h with
    | real hreads => exact hreads
  | arr items ih =>
    cases h with
    | arr hitems =>
      rw [sortKeys, Reading.ReadsBack, sortItems_eq, itemsReadBack_iff]
      intro j hj
      obtain ⟨v, hv, rfl⟩ := List.mem_map.1 hj
      exact ih v hv (hitems v hv)
  | obj members ih =>
    cases h with
    | obj hnames hunits hmembers =>
      rw [sortKeys, Reading.ReadsBack, membersReadBack_iff]
      rintro ⟨name, j⟩ hj
      obtain ⟨v, hv, rfl⟩ := mem_canonicalMembers.1 hj
      exact ih name v hv (hmembers name v hv)

theorem isText_stringifyItems {items : List Json} (h : ∀ v ∈ items, IsText (stringify v)) : IsText (stringifyItems items) := by
  induction items with
  | nil => exact isText_nil
  | cons item items ih =>
    have hitem := h item List.mem_cons_self
    cases items with
    | nil => exact hitem
    | cons next items =>
      rw [stringifyItems]
      · exact hitem.append ((ih fun v hv => h v (List.mem_cons_of_mem _ hv)).cons (by decide))
      · exact List.cons_ne_nil _ _

theorem isText_stringifyMembers {members : List Entry} (h : ∀ m ∈ members, IsUnits m.1 ∧ IsText (stringify m.2)) :
    IsText (stringifyMembers members) := by
  induction members with
  | nil => exact isText_nil
  | cons member members ih =>
    obtain ⟨name, value⟩ := member
    obtain ⟨hname, hvalue⟩ := h _ List.mem_cons_self
    cases members with
    | nil => exact (isText_quote hname).append (hvalue.cons (by decide))
    | cons next members =>
      rw [stringifyMembers]
      · have hrest := ih fun m hm => h m (List.mem_cons_of_mem _ hm)
        exact (isText_quote hname).append ((hvalue.append (hrest.cons (by decide))).cons (by decide))
      · exact List.cons_ne_nil _ _

theorem isText_canonicalJson {v : Value} (h : Proper v) : IsText (canonicalJson v) := by
  unfold canonicalJson
  induction v using Value.ind with
  | null => exact isText_text "null"
  | bool b => cases b with
    | true => exact isText_text "true"
    | false => exact isText_text "false"
  | num n => exact isText_text (toString n)
  | real t =>
    cases h with
    | real hreads =>
      refine isText_of_lt fun u hu => ?_
      have hunit := Reading.numberUnit_cases (hreads.units u hu)
      omega
  | str s =>
    cases h with
    | str hunits => exact isText_quote hunits
  | arr items ih =>
    cases h with
    | arr hitems =>
      rw [sortKeys, stringify, sortItems_eq]
      refine ((isText_text "[").append (isText_stringifyItems fun j hj => ?_)).append (isText_text "]")
      obtain ⟨v, hv, rfl⟩ := List.mem_map.1 hj
      exact ih v hv (hitems v hv)
  | obj members ih =>
    cases h with
    | obj hnames hunits hmembers =>
      rw [sortKeys, stringify]
      refine ((isText_text "\x7b").append (isText_stringifyMembers ?_)).append (isText_text "\x7d")
      rintro ⟨name, j⟩ hj
      obtain ⟨v, hv, rfl⟩ := mem_canonicalMembers.1 hj
      exact ⟨hunits _ hv, ih name v hv (hmembers name v hv)⟩

/-- **Two values have one canonical text exactly when they mean the same.** -/
theorem canonicalJson_inj {v w : Value} (hv : Proper v) (hw : Proper w) :
    canonicalJson v = canonicalJson w ↔ meaning v = meaning w := by
  constructor
  · intro h
    rw [← reading_sortKeys hv, ← reading_sortKeys hw,
      Reading.stringify_inj (readsBack_sortKeys hv) (readsBack_sortKeys hw) h]
  · intro h
    unfold canonicalJson
    rw [sortKeys_congr hv hw h]

end Js

namespace Atra

open Js

/-- The digest of the UTF-8 of a policy's canonical text. -/
def policyHash (host : Host) (policy : Value) : String := host.sha256 (decodeString (canonicalJson policy))

/-- **The hash of a policy identifies the policy**: whatever order the keys of its objects are in, array indices among them, two
policies have one hash exactly when they hold the same under every key. -/
theorem policyHash_identifies {host : Host} (hsha : Function.Injective host.sha256) {p q : Value} (hp : Proper p)
    (hq : Proper q) : policyHash host p = policyHash host q ↔ meaning p = meaning q := by
  rw [← canonicalJson_inj hp hq]
  constructor
  · intro h
    exact decodeString_inj (isText_canonicalJson hp) (isText_canonicalJson hq) (hsha h)
  · intro h
    unfold policyHash
    rw [h]

/-! ### Two protocols, one of them named like a number -/

def protocols (names : List (String × Option Value)) : Value := .obj (names.map fun entry => (text entry.1, entry.2))

theorem proper_protocols {names : List (String × Option Value)} (hnames : (names.map fun entry => text entry.1).Nodup)
    (hunits : names.all (fun entry => (text entry.1).all (· < 0x10000)) = true)
    (h : ∀ name v, (name, some v) ∈ names → Proper v) : Proper (protocols names) := by
  refine .obj (by simpa [Function.comp_def] using hnames) ?_ ?_
  · intro m hm u hu
    obtain ⟨entry, hentry, rfl⟩ := List.mem_map.1 hm
    simpa using List.all_eq_true.1 (List.all_eq_true.1 hunits entry hentry) u hu
  · intro name v hv
    obtain ⟨entry, hentry, heq⟩ := List.mem_map.1 hv
    have hvalue : entry.2 = some v := (Prod.mk.inj heq).2
    exact h entry.1 v (hvalue ▸ hentry)

/-- The digest of one text is the one SHA-256 has for it; that text and its digest are exchanged. -/
def digestOf (text digest : String) : Host := ⟨Equiv.swap text digest, asciiLower⟩

theorem policyHash_identifies_reordered :
    policyHash (digestOf "\x7b\"42\":1,\"aerodrome\":[]\x7d" "5a7857a9c3d9b7912e9e73ee261d9ac188c5572b51821f158e14fbb9482f9e89")
        (protocols [("aerodrome", some (.arr [])), ("7", none), ("42", some (.num 1))]) =
      policyHash (digestOf "\x7b\"42\":1,\"aerodrome\":[]\x7d"
        "5a7857a9c3d9b7912e9e73ee261d9ac188c5572b51821f158e14fbb9482f9e89")
        (protocols [("42", some (.num 1)), ("aerodrome", some (.arr []))]) ∧
    canonicalJson (protocols [("aerodrome", some (.arr [])), ("7", none), ("42", some (.num 1))]) =
      text "\x7b\"42\":1,\"aerodrome\":[]\x7d" := by
  refine ⟨(policyHash_identifies (Equiv.injective _) (proper_protocols (by decide +kernel) (by decide +kernel) ?_)
    (proper_protocols (by decide +kernel) (by decide +kernel) ?_)).2 ?_, by decide +kernel⟩
  · intro name v hv
    simp only [List.mem_cons, Prod.mk.injEq, Option.some.injEq, List.not_mem_nil, or_false] at hv
    rcases hv with ⟨-, rfl⟩ | ⟨-, h⟩ | ⟨-, rfl⟩
    · exact .arr (by simp)
    · cases h
    · exact .num 1
  · intro name v hv
    simp only [List.mem_cons, Prod.mk.injEq, Option.some.injEq, List.not_mem_nil, or_false] at hv
    rcases hv with ⟨-, rfl⟩ | ⟨-, rfl⟩
    · exact .num 1
    · exact .arr (by simp)
  · show Meaning.obj _ = Meaning.obj _
    congr 1
    funext name
    have hne : text "aerodrome" ≠ text "42" ∧ text "7" ≠ text "42" ∧ text "aerodrome" ≠ text "7" := by decide +kernel
    simp only [List.map_cons, List.map_nil, meaningMember]
    by_cases h1 : text "aerodrome" = name
    · subst h1
      simp [hne.1.symm]
    · by_cases h2 : text "42" = name
      · subst h2
        simp [hne.1, hne.2.1]
      · simp [h1, h2]

end Atra
