import Atra.Json
/-!
# Utf16 — texts of code units as strings of characters

What leaves JavaScript as bytes is encoded from characters: a surrogate pair is one of them, and a surrogate that is alone becomes
U+FFFD.  A text without lone surrogates (`IsText`) survives that, and the text of a JSON string is one, whatever the string.
-/
namespace Js

/-- The character of a surrogate pair. -/
def pairChar (u v : Nat) : Char := Char.ofNat (0x10000 + (u - 0xD800) * 0x400 + (v - 0xDC00))

/-- The character of a code unit that is not part of a pair. -/
def unitChar (u : Nat) : Char := if isHigh u || isLow u then Char.ofNat 0xFFFD else Char.ofNat u

/-- The characters a text is encoded from. -/
def decode : Text → List Char
  | [] => []
  | [u] => [unitChar u]
  | u :: v :: rest => if isHigh u && isLow v then pairChar u v :: decode rest else unitChar u :: decode (v :: rest)

def decodeString (t : Text) : String := String.ofList (decode t)

/-- The text is that of a string: its surrogates are in pairs. -/
def IsText (t : Text) : Prop := ∃ s : String, text s = t

theorem isHigh_iff {u : Nat} : isHigh u = true ↔ 0xD800 ≤ u ∧ u < 0xDC00 := by simp [isHigh]

theorem isLow_iff {u : Nat} : isLow u = true ↔ 0xDC00 ≤ u ∧ u < 0xE000 := by simp [isLow]

/-! ## The text of a string is decoded to it -/

theorem toNat_lt (c : Char) : c.toNat < 0xD800 ∨ 0xE000 ≤ c.toNat ∧ c.toNat < 0x110000 := by
  rcases c.valid with h | h
  · exact .inl h
  · exact .inr ⟨Nat.le_of_lt_succ (Nat.succ_lt_succ h.1), h.2⟩

theorem unitChar_toNat (c : Char) : unitChar c.toNat = c := by
  have hplain : (isHigh c.toNat || isLow c.toNat) = false := by
    have := toNat_lt c
    rw [Bool.eq_false_iff, Ne, Bool.or_eq_true, isHigh_iff, isLow_iff]
    omega
  unfold unitChar
  rw [hplain]
  exact Char.ofNat_toNat c

theorem pairChar_unitsOf {c : Char} (h : ¬ c.toNat < 0x10000) :
    pairChar (0xD800 + (c.toNat - 0x10000) / 0x400) (0xDC00 + (c.toNat - 0x10000) % 0x400) = c := by
  unfold pairChar
  have hsum : 0x10000 + (0xD800 + (c.toNat - 0x10000) / 0x400 - 0xD800) * 0x400 +
      (0xDC00 + (c.toNat - 0x10000) % 0x400 - 0xDC00) = c.toNat := by omega
  rw [hsum]
  exact Char.ofNat_toNat c

/-- A code unit that does not begin a pair is decoded on its own. -/
theorem decode_cons {u : Nat} (h : isHigh u = false) (rest : Text) : decode (u :: rest) = unitChar u :: decode rest := by
  cases rest with
  | nil => rfl
  | cons v rest =>
    rw [decode, h, Bool.false_and]
    rfl

theorem decode_unitsOf (c : Char) (rest : Text) : decode (unitsOf c ++ rest) = c :: decode rest := by
  have hrange := toNat_lt c
  unfold unitsOf
  by_cases h : c.toNat < 0x10000
  · rw [if_pos h, List.singleton_append, decode_cons, unitChar_toNat]
    rw [Bool.eq_false_iff, Ne, isHigh_iff]
    omega
  · have hhigh : isHigh (0xD800 + (c.toNat - 0x10000) / 0x400) = true := isHigh_iff.2 (by omega)
    have hlow : isLow (0xDC00 + (c.toNat - 0x10000) % 0x400) = true := isLow_iff.2 (by omega)
    rw [if_neg h, List.cons_append, List.singleton_append, decode, hhigh, hlow, Bool.true_and, if_pos rfl, pairChar_unitsOf h]

/-- **The text of a string is decoded to the string.** -/
theorem decodeString_text (s : String) : decodeString (text s) = s := by
  have hdecode (cs : List Char) : decode (cs.flatMap unitsOf) = cs := by
    induction cs with
    | nil => rfl
    | cons c cs ih => rw [List.flatMap_cons, decode_unitsOf, ih]
  unfold decodeString text
  rw [hdecode, String.ofList_toList]

theorem decodeString_inj {s t : Text} (hs : IsText s) (ht : IsText t) (h : decodeString s = decodeString t) : s = t := by
  obtain ⟨s, rfl⟩ := hs
  obtain ⟨t, rfl⟩ := ht
  rw [decodeString_text, decodeString_text] at h
  rw [h]

/-! ## Texts of strings -/

theorem isText_text (s : String) : IsText (text s) := ⟨s, rfl⟩

theorem isText_nil : IsText [] := ⟨"", rfl⟩

theorem IsText.append {s t : Text} (hs : IsText s) (ht : IsText t) : IsText (s ++ t) := by
  obtain ⟨s, rfl⟩ := hs
  obtain ⟨t, rfl⟩ := ht
  exact ⟨s ++ t, by simp [text]⟩

theorem isText_unitsOf (c : Char) : IsText (unitsOf c) := ⟨String.ofList [c], by simp [text]⟩

theorem ofNat_valid {n : Nat} (h : n.isValidChar) : (Char.ofNat n).toNat = n := by
  unfold Char.ofNat
  rw [dif_pos h]
  rfl

theorem isText_unit {u : Nat} (h : u < 0x10000) (hhigh : isHigh u = false) (hlow : isLow u = false) : IsText [u] := by
  rw [Bool.eq_false_iff, Ne, isHigh_iff] at hhigh
  rw [Bool.eq_false_iff, Ne, isLow_iff] at hlow
  have hvalid : u.isValidChar := by
    rcases Nat.lt_or_ge u 0xD800 with hlt | hge
    · exact .inl hlt
    · exact .inr ⟨by omega, by omega⟩
  have hunits := isText_unitsOf (Char.ofNat u)
  unfold unitsOf at hunits
  rwa [ofNat_valid hvalid, if_pos h] at hunits

theorem IsText.cons {u : Nat} {t : Text} (ht : IsText t) (h : u < 0xD800) : IsText (u :: t) := by
  have hhigh : isHigh u = false := by
    rw [Bool.eq_false_iff, Ne, isHigh_iff]
    omega
  have hlow : isLow u = false := by
    rw [Bool.eq_false_iff, Ne, isLow_iff]
    omega
  exact (isText_unit (by omega) hhigh hlow).append ht

/-- ASCII, and what lies below the surrogates. -/
theorem isText_of_lt {t : Text} (h : ∀ u ∈ t, u < 0xD800) : IsText t := by
  induction t with
  | nil => exact isText_nil
  | cons u t ih =>
    exact (ih fun v hv => h v (List.mem_cons_of_mem u hv)).cons (h u List.mem_cons_self)

theorem hexDigit_lt (n : Nat) : hexDigit (n % 16) < 0xD800 := by
  unfold hexDigit
  split <;> omega

theorem isText_unicodeEscape (u : Nat) : IsText (unicodeEscape u) := by
  refine isText_of_lt fun v hv => ?_
  simp only [unicodeEscape, List.mem_cons, List.not_mem_nil, or_false] at hv
  rcases hv with rfl | rfl | rfl | rfl | rfl | rfl
  · decide
  · decide
  · exact hexDigit_lt _
  · exact hexDigit_lt _
  · exact hexDigit_lt _
  · exact hexDigit_lt _

/-- What stands for a code unit in a JSON string is a text, also where the unit is a surrogate. -/
theorem isText_escape {u : Nat} (h : u < 0x10000) : IsText (escape u) := by
  have hletter (v : Nat) (hv : v < 0xD800) : IsText [92, v] := (isText_nil.cons hv).cons (by decide)
  unfold escape
  split
  · exact hletter 34 (by decide)
  split
  · exact hletter 92 (by decide)
  split
  · exact hletter 98 (by decide)
  split
  · exact hletter 102 (by decide)
  split
  · exact hletter 110 (by decide)
  split
  · exact hletter 114 (by decide)
  split
  · exact hletter 116 (by decide)
  split
  · exact isText_unicodeEscape u
  · rename_i hplain
    simp only [Bool.or_eq_true, not_or, Bool.not_eq_true] at hplain
    exact isText_unit h hplain.1.2 hplain.2

theorem isText_pair {u v : Nat} (hu : isHigh u = true) (hv : isLow v = true) : IsText [u, v] := by
  rw [isHigh_iff] at hu
  rw [isLow_iff] at hv
  have hvalid : (0x10000 + (u - 0xD800) * 0x400 + (v - 0xDC00)).isValidChar := .inr ⟨by omega, by omega⟩
  have hunits := isText_unitsOf (pairChar u v)
  unfold unitsOf pairChar at hunits
  rw [ofNat_valid hvalid, if_neg (by omega)] at hunits
  have hfirst : 0xD800 + (0x10000 + (u - 0xD800) * 0x400 + (v - 0xDC00) - 0x10000) / 0x400 = u := by omega
  have hsecond : 0xDC00 + (0x10000 + (u - 0xD800) * 0x400 + (v - 0xDC00) - 0x10000) % 0x400 = v := by omega
  rwa [hfirst, hsecond] at hunits

/-- **The content of a JSON string is a text**, whatever code units the string has. -/
theorem isText_escapeAll (s : Text) (h : ∀ u ∈ s, u < 0x10000) : IsText (escapeAll s) := by
  fun_induction escapeAll s with
  | case1 => exact isText_nil
  | case2 u => exact isText_escape (h u List.mem_cons_self)
  | case3 u v rest hpair ih =>
    rw [Bool.and_eq_true] at hpair
    exact (isText_pair hpair.1 hpair.2).append
      (ih fun w hw => h w (List.mem_cons_of_mem u (List.mem_cons_of_mem v hw)))
  | case4 u v rest hpair ih =>
    exact (isText_escape (h u List.mem_cons_self)).append (ih fun w hw => h w (List.mem_cons_of_mem u hw))

theorem isText_quote {s : Text} (h : ∀ u ∈ s, u < 0x10000) : IsText (quote s) :=
  ((isText_escapeAll s h).append (isText_nil.cons (by decide))).cons (by decide)

end Js
