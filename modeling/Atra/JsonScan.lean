import Atra.JsonText
/-!
# JsonScan — the braces of a text, counted outside strings

A scan counts the braces of a text from its first, and stops at the brace that closes the outermost object.  It knows nothing of
JSON but strings and backslashes; over the text of a JSON value it comes out at the depth it went in (`Spans`), so a text that is
read as an object is what the scan finds, whatever stands behind it.
-/
namespace Js

/-! ## A scan over braces -/

/-- Where the scan stands: how many braces are open, whether in a string, whether behind a backslash. -/
structure Scan where
  depth : Nat
  inString : Bool
  escaped : Bool

def Scan.next (s : Scan) (u : Nat) : Scan :=
  if s.escaped then { s with escaped := false }
  else if u = 92 then { s with escaped := true }
  else if u = 34 then { s with inString := !s.inString }
  else if s.inString then s
  else if u = 123 then { s with depth := s.depth + 1 }
  else if u = 125 then { s with depth := s.depth - 1 }
  else s

/-- The brace that closes the outermost object. -/
def Scan.closes (s : Scan) (u : Nat) : Bool := !s.escaped && u != 92 && u != 34 && !s.inString && u == 125 && s.depth == 1

/-- The text up to the brace that closes the outermost object. -/
def upToClosing : Scan → Text → Option Text
  | _, [] => none
  | s, u :: t => if s.closes u then some [u] else (upToClosing (s.next u) t).map (u :: ·)

def outside (depth : Nat) : Scan := ⟨depth, false, false⟩

def inside (depth : Nat) : Scan := ⟨depth, true, false⟩

/-- What a scan leaves out is the text behind: it starts as the text does and ends with the brace. -/
theorem upToClosing_some {s : Scan} {t object : Text} (h : upToClosing s t = some object) :
    object <+: t ∧ object.getLast? = some 125 := by
  induction t generalizing s object with
  | nil => cases h
  | cons u t ih =>
    unfold upToClosing at h
    split at h
    · rename_i hu
      obtain rfl := Option.some.inj h
      simp only [Scan.closes, Bool.and_eq_true, beq_iff_eq] at hu
      exact ⟨⟨t, rfl⟩, by rw [hu.1.2]; rfl⟩
    · obtain ⟨rest, hrest, rfl⟩ := Option.map_eq_some_iff.1 h
      obtain ⟨hpre, hlast⟩ := ih hrest
      refine ⟨List.cons_prefix_cons.2 ⟨rfl, hpre⟩, ?_⟩
      rw [List.getLast?_cons, hlast]
      rfl

/-- A text without closing braces behind changes nothing. -/
theorem upToClosing_append {s : Scan} {t tail : Text} (h : ∀ u ∈ tail, u ≠ 125) :
    upToClosing s (t ++ tail) = upToClosing s t := by
  induction t generalizing s with
  | nil =>
    cases hc : upToClosing s tail with
    | none => rw [List.nil_append, hc]; rfl
    | some object =>
      obtain ⟨hpre, hlast⟩ := upToClosing_some hc
      exact absurd rfl (h 125 (hpre.subset (List.mem_of_getLast? hlast)))
  | cons u t ih => rw [List.cons_append, upToClosing, upToClosing, ih]

/-- From one state of the scan to another, over a text that closes nothing. -/
def Passes (s : Scan) (used : Text) (s' : Scan) : Prop :=
  ∀ r, upToClosing s (used ++ r) = (upToClosing s' r).map (used ++ ·)

section
variable {s s' s'' : Scan} {a b t rest : Text} {u d : Nat}

theorem Passes.nil : Passes s [] s := fun r => by simp

theorem Passes.append (ha : Passes s a s') (hb : Passes s' b s'') : Passes s (a ++ b) s'' := by
  intro r
  rw [List.append_assoc, ha, hb, Option.map_map]
  congr 1
  funext x
  simp

theorem Passes.cons (hu : s.closes u = false) (h : Passes (s.next u) t s') : Passes s (u :: t) s' := by
  intro r
  rw [List.cons_append, upToClosing, hu, if_neg Bool.false_ne_true, h, Option.map_map]
  rfl

/-- A unit that is no brace, no quotation mark and no backslash. -/
def isPlain (u : Nat) : Bool := u != 34 && u != 92 && u != 123 && u != 125

theorem passes_plain (h : ∀ u ∈ t, isPlain u = true) : Passes (outside d) t (outside d) := by
  induction t with
  | nil => exact .nil
  | cons u t ih =>
    have hu := h u List.mem_cons_self
    simp only [isPlain, Bool.and_eq_true, bne_iff_ne] at hu
    have hnext : (outside d).next u = outside d := by simp [Scan.next, outside, hu]
    refine .cons (by simp [Scan.closes, outside, hu]) ?_
    rw [hnext]
    exact ih fun v hv => h v (List.mem_cons_of_mem _ hv)

/-- Inside a string every unit is passed but the quotation mark and the backslash. -/
theorem passes_inside (h : u ≠ 34 ∧ u ≠ 92) (ht : Passes (inside d) t s') : Passes (inside d) (u :: t) s' := by
  have hnext : (inside d).next u = inside d := by simp [Scan.next, inside, h]
  exact .cons (by simp [Scan.closes, inside]) (by rwa [hnext])

/-- A backslash takes the unit behind it along. -/
theorem passes_escape (ht : Passes (inside d) t s') : Passes (inside d) (92 :: u :: t) s' :=
  .cons (by simp [Scan.closes, inside]) (.cons (by simp [Scan.closes, Scan.next, inside]) ht)

/-! ## The scan over a JSON value -/

/-- What stands before the rest of a text, and is passed at any depth within an object. -/
def Spans (t rest : Text) : Prop := ∃ used, t = used ++ rest ∧ ∀ d, 1 ≤ d → Passes (outside d) used (outside d)

theorem Spans.refl (t : Text) : Spans t t := ⟨[], rfl, fun _ _ => .nil⟩

theorem Spans.trans {t u v : Text} (h : Spans t u) (h' : Spans u v) : Spans t v := by
  obtain ⟨a, rfl, ha⟩ := h
  obtain ⟨b, rfl, hb⟩ := h'
  exact ⟨a ++ b, (List.append_assoc ..).symm, fun d hd => (ha d hd).append (hb d hd)⟩

theorem spans_plain (a rest : Text) (h : ∀ u ∈ a, isPlain u = true) : Spans (a ++ rest) rest :=
  ⟨a, rfl, fun _ _ => passes_plain h⟩

theorem Spans.cons (hu : isPlain u = true) (h : Spans t rest) : Spans (u :: t) rest :=
  (spans_plain [u] t (by simpa using hu)).trans h

namespace Reading

theorem spans_skip (t : Text) : Spans t (skip t) := by
  have h := spans_plain (t.takeWhile isBlank) (skip t) fun u hu => by
    have hblank := List.mem_takeWhile_imp hu
    simp only [isBlank, Bool.or_eq_true, decide_eq_true_eq] at hblank
    simp only [isPlain, Bool.and_eq_true, bne_iff_ne]
    omega
  rwa [skip, List.takeWhile_append_dropWhile] at h

theorem hexValue_inside {u v : Nat} (h : hexValue u = some v) : u ≠ 34 ∧ u ≠ 92 := by
  unfold hexValue at h
  split_ifs at h <;> omega

/-- **A string is passed to its closing quotation mark.** -/
theorem readString_passes {t s rest : Text} (h : readString t = some (s, rest)) :
    ∃ used, t = used ++ rest ∧ ∀ d, Passes (inside d) used (outside d) := by
  induction t using readString.induct generalizing s rest with
  | case1 => cases h
  | case2 a b c d t ih =>
    rw [readString] at h
    obtain ⟨u, hu, h⟩ := Option.bind_eq_some_iff.1 h
    obtain ⟨⟨s', rest'⟩, hs, h⟩ := Option.bind_eq_some_iff.1 h
    obtain ⟨-, rfl⟩ := Prod.mk.inj (Option.some.inj h)
    obtain ⟨used, rfl, hused⟩ := ih hs
    unfold readHex at hu
    simp only [Option.bind_eq_bind, Option.bind_eq_some_iff] at hu
    obtain ⟨_, ha, _, hb, _, hc, _, hd, -⟩ := hu
    refine ⟨92 :: 117 :: a :: b :: c :: d :: used, rfl, fun n => passes_escape ?_⟩
    exact passes_inside (hexValue_inside ha) (passes_inside (hexValue_inside hb)
      (passes_inside (hexValue_inside hc) (passes_inside (hexValue_inside hd) (hused n))))
  | case3 e t hne ih =>
    rw [readString.eq_3 _ _ hne] at h
    obtain ⟨u, -, h⟩ := Option.bind_eq_some_iff.1 h
    obtain ⟨⟨s', rest'⟩, hs, h⟩ := Option.bind_eq_some_iff.1 h
    obtain ⟨-, rfl⟩ := Prod.mk.inj (Option.some.inj h)
    obtain ⟨used, rfl, hused⟩ := ih hs
    exact ⟨92 :: e :: used, rfl, fun n => passes_escape (hused n)⟩
  | case4 t hlong hne =>
    rw [readString.eq_4 _ _ hlong hne, if_pos rfl] at h
    obtain ⟨-, rfl⟩ := Prod.mk.inj (Option.some.inj h)
    exact ⟨[34], rfl, fun n => .cons (by simp [Scan.closes, inside]) .nil⟩
  | case5 u t hlong hne hquote hbad =>
    rw [readString.eq_4 _ _ hlong hne, if_neg hquote, if_pos hbad] at h
    cases h
  | case6 u t hlong hne hquote hbad ih =>
    rw [readString.eq_4 _ _ hlong hne, if_neg hquote, if_neg hbad] at h
    obtain ⟨⟨s', rest'⟩, hs, h⟩ := Option.map_eq_some_iff.1 h
    obtain ⟨-, rfl⟩ := Prod.mk.inj h
    obtain ⟨used, rfl, hused⟩ := ih hs
    exact ⟨u :: used, rfl, fun n => passes_inside ⟨hquote, fun hc => hbad (.inr hc)⟩ (hused n)⟩

theorem spans_string {t s rest : Text} (h : readString t = some (s, rest)) : Spans (34 :: t) rest := by
  obtain ⟨used, rfl, hused⟩ := readString_passes h
  refine ⟨34 :: used, rfl, fun d _ => .cons (by simp [Scan.closes, outside]) ?_⟩
  exact hused d

theorem spans_braces {t rest : Text} (h : Spans t (125 :: rest)) : Spans (123 :: t) rest := by
  obtain ⟨used, rfl, hused⟩ := h
  refine ⟨123 :: (used ++ [125]), by simp, fun d hd => .cons (by simp [Scan.closes, outside]) ?_⟩
  refine (hused (d + 1) (Nat.succ_pos d)).append (.cons ?_ .nil)
  simp [Scan.closes, outside]
  omega

theorem behind_eq {word t rest : Text} (h : behind word t = some rest) : t = word ++ rest := by
  unfold behind at h
  split_ifs at h with hp
  obtain ⟨tail, rfl⟩ := List.isPrefixOf_iff_prefix.1 hp
  rw [List.drop_left] at h
  rw [Option.some.inj h]

theorem spans_word {u : Nat} {word t rest : Text} (hword : ∀ v ∈ u :: word, isPlain v = true)
    (h : behind word t = some rest) : Spans (u :: t) rest := by
  rw [behind_eq h, ← List.cons_append]
  exact spans_plain _ _ hword

section
variable (number : Text → Option Json)

theorem spans_number {t rest : Text} {v : Json} (h : readNumber number t = some (v, rest)) : Spans t rest := by
  unfold readNumber at h
  obtain ⟨_, -, h⟩ := Option.map_eq_some_iff.1 h
  obtain ⟨-, rfl⟩ := Prod.mk.inj h
  have hspans := spans_plain (t.takeWhile isNumberUnit) (t.dropWhile isNumberUnit) fun u hu => by
    have hunit := numberUnit_cases (List.mem_takeWhile_imp hu)
    simp only [isPlain, Bool.and_eq_true, bne_iff_ne]
    omega
  rwa [List.takeWhile_append_dropWhile] at hspans

/-- With so much fuel, what is read of a text is spanned. -/
structure Spanned (fuel : Nat) : Prop where
  value : ∀ {t v rest}, readValue number fuel t = some (v, rest) → Spans t rest
  items : ∀ {t items rest}, readItems number fuel t = some (items, rest) → Spans t rest
  members : ∀ {t members rest}, readMembers number fuel t = some (members, rest) → Spans t (125 :: rest)

variable {number} {fuel : Nat} {t rest : Text}

/-- Behind the brace an object opens with, what is read of it is spanned to the brace it ends with. -/
theorem spans_object (hs : Spanned number fuel) {v : Json} (h : readValue number (fuel + 1) (123 :: t) = some (v, rest)) :
    Spans t (125 :: rest) := by
  rw [readValue, if_neg (by decide), if_neg (by decide), if_pos rfl] at h
  split at h
  · rename_i hempty
    obtain ⟨-, rfl⟩ := Prod.mk.inj (Option.some.inj h)
    exact hempty ▸ spans_skip t
  · obtain ⟨⟨members, rest'⟩, hm, h⟩ := Option.map_eq_some_iff.1 h
    obtain ⟨-, rfl⟩ := Prod.mk.inj h
    exact (spans_skip t).trans (hs.members hm)

theorem spans_value (hs : Spanned number fuel) {v : Json} (h : readValue number (fuel + 1) t = some (v, rest)) :
    Spans t rest := by
  cases t with
  | nil => cases h
  | cons u t =>
    by_cases h123 : u = 123
    · subst h123
      exact spans_braces (spans_object hs h)
    rw [readValue] at h
    split_ifs at h with h34 h91 hn ht hf
    · obtain ⟨⟨s, rest'⟩, hread, h⟩ := Option.map_eq_some_iff.1 h
      obtain ⟨-, rfl⟩ := Prod.mk.inj h
      exact h34 ▸ spans_string hread
    · refine Spans.cons (by rw [h91]; rfl) ?_
      split at h
      · rename_i hempty
        obtain ⟨-, rfl⟩ := Prod.mk.inj (Option.some.inj h)
        have hskip := spans_skip t
        rw [hempty] at hskip
        exact hskip.trans (.cons rfl (.refl _))
      · obtain ⟨⟨items, rest'⟩, hitems, h⟩ := Option.map_eq_some_iff.1 h
        obtain ⟨-, rfl⟩ := Prod.mk.inj h
        exact (spans_skip t).trans (hs.items hitems)
    · obtain ⟨_, hrest, h⟩ := Option.map_eq_some_iff.1 h
      obtain ⟨-, rfl⟩ := Prod.mk.inj h
      exact hn ▸ spans_word (by decide) hrest
    · obtain ⟨_, hrest, h⟩ := Option.map_eq_some_iff.1 h
      obtain ⟨-, rfl⟩ := Prod.mk.inj h
      exact ht ▸ spans_word (by decide) hrest
    · obtain ⟨_, hrest, h⟩ := Option.map_eq_some_iff.1 h
      obtain ⟨-, rfl⟩ := Prod.mk.inj h
      exact hf ▸ spans_word (by decide) hrest
    · exact spans_number number h

theorem spans_items (hs : Spanned number fuel) {items : List Json} (h : readItems number (fuel + 1) t = some (items, rest)) :
    Spans t rest := by
  rw [readItems] at h
  split at h
  · cases h
  · rename_i item t' hvalue
    refine (hs.value hvalue).trans ((spans_skip t').trans ?_)
    split at h
    · rename_i hskip
      obtain ⟨-, rfl⟩ := Prod.mk.inj (Option.some.inj h)
      rw [hskip]
      exact .cons rfl (.refl _)
    · rename_i t'' hskip
      obtain ⟨⟨items', rest'⟩, hitems, h⟩ := Option.map_eq_some_iff.1 h
      obtain ⟨-, rfl⟩ := Prod.mk.inj h
      rw [hskip]
      exact .cons rfl ((spans_skip t'').trans (hs.items hitems))
    · cases h

theorem spans_members (hs : Spanned number fuel) {members : List (Text × Json)}
    (h : readMembers number (fuel + 1) t = some (members, rest)) : Spans t (125 :: rest) := by
  rw [readMembers] at h
  split at h
  · cases h
  · rename_i t₁ hquote
    rw [behind_eq hquote]
    split at h
    · cases h
    · rename_i name t₂ hname
      refine (spans_string hname).trans ((spans_skip t₂).trans ?_)
      split at h
      · rename_i t₃ hcolon
        rw [hcolon]
        refine .cons rfl ((spans_skip t₃).trans ?_)
        split at h
        · cases h
        · rename_i value t₄ hvalue
          refine (hs.value hvalue).trans ((spans_skip t₄).trans ?_)
          split at h
          · rename_i hskip
            obtain ⟨-, rfl⟩ := Prod.mk.inj (Option.some.inj h)
            rw [hskip]
            exact .refl _
          · rename_i t₅ hskip
            obtain ⟨⟨members', rest'⟩, hmembers, h⟩ := Option.map_eq_some_iff.1 h
            obtain ⟨-, rfl⟩ := Prod.mk.inj h
            rw [hskip]
            exact .cons rfl ((spans_skip t₅).trans (hs.members hmembers))
          · cases h
      · cases h

/-- **Whatever is read of a text is spanned**, by induction on the fuel of the reader. -/
theorem spanned (fuel : Nat) : Spanned number fuel := by
  induction fuel with
  | zero =>
    refine { value := ?_, items := ?_, members := ?_ }
    · intro t v rest h
      cases t with
      | nil => cases h
      | cons u t => cases h
    · intro t items rest h
      cases h
    · intro t members rest h
      cases h
  | succ fuel ih => exact ⟨spans_value ih, spans_items ih, spans_members ih⟩

/-- **An object is what the scan finds first**: of a text that is read as one, and whatever stands behind it. -/
theorem upToClosing_parsed {object after : Text} {v : Json} (h : parse number (123 :: object) = some v)
    (hlast : (123 :: object).getLast? = some 125) :
    upToClosing (outside 0) (123 :: object ++ after) = some (123 :: object) := by
  unfold parse at h
  obtain ⟨⟨v', rest⟩, hread, -⟩ := Option.map_eq_some_iff.1 h
  obtain ⟨hread, hblank⟩ := Option.filter_eq_some_iff.1 hread
  rw [skip_cons rfl] at hread
  obtain ⟨used, hused, hpasses⟩ := spans_object (spanned _) hread
  have hrest : rest = [] := by
    rcases List.eq_nil_or_concat' rest with rfl | ⟨init, u, rfl⟩
    · rfl
    · have hall := List.dropWhile_eq_nil_iff.1 (List.isEmpty_iff.1 hblank) u (by simp)
      rw [hused, ← List.cons_append, List.getLast?_append] at hlast
      rw [List.getLast?_cons] at hlast
      simp only [List.getLast?_append, List.getLast?_singleton, Option.some_or, Option.getD_some, Option.some.injEq] at hlast
      rw [hlast] at hall
      cases hall
  subst hrest
  have hopen : (outside 0).closes 123 = false := rfl
  have hnext : (outside 0).next 123 = outside 1 := rfl
  rw [hused, List.cons_append, upToClosing, hopen, if_neg Bool.false_ne_true, hnext, List.append_assoc, hpasses 1 le_rfl]
  rfl
end

end Reading
end
end Js
