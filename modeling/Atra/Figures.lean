import Atra.Decimal
import Mathlib.Data.Rat.Floor
import Mathlib.Tactic.Linarith
/-!
# Figures — plain numbers in a text, and every other way of writing one

A run is what a search for digits with an optional fraction finds; its normal form drops the zeros at its end.  Runs without a
superfluous zero in front have one normal form for each value (`normal_eq_iff`).  A numeral is a number as it can be written for a
reader: digits of any script, groups of thousands, an exponent, a magnitude behind it (`numeralAt`).
-/
namespace Figures

/-! ## Runs -/

/-- Digits, and the digits behind a point if there is one. -/
structure Run where
  whole : List Char
  frac : List Char
  whole_ok : whole.all Char.isDigit = true
  whole_ne : whole ≠ []
  frac_ok : frac.all Char.isDigit = true

namespace Run

variable (r : Run)

def text : List Char := r.whole ++ if r.frac = [] then [] else '.' :: r.frac

def value : ℚ := Decimal.natOf r.whole + Decimal.natOf r.frac / 10 ^ r.frac.length

/-- The run without the zeros at the end of its fraction. -/
def normal : List Char :=
  r.whole ++ if Decimal.stripZeros r.frac = [] then [] else '.' :: Decimal.stripZeros r.frac

/-- No zero stands in front without need. -/
def Plain : Prop := Decimal.isInteger r.whole = true

instance : Decidable r.Plain := inferInstanceAs (Decidable (_ = true))

end Run

/-- The integer of a text of digits. -/
def ofNat (n : Nat) : Run := ⟨Nat.toDigits 10 n, [], Decimal.toDigits_all_isDigit n, Nat.toDigits_ne_nil, rfl⟩

@[simp] theorem normal_ofNat (n : Nat) : (ofNat n).normal = Nat.toDigits 10 n := List.append_nil _

@[simp] theorem value_ofNat (n : Nat) : (ofNat n).value = n := by
  simp [Run.value, ofNat, Decimal.natOf]

theorem plain_ofNat (n : Nat) : (ofNat n).Plain := Decimal.isInteger_toDigits n

/-- The two parts of a normal form. -/
theorem parts_of_normal {r r' : Run} (h : r.normal = r'.normal) :
    r.whole = r'.whole ∧ Decimal.stripZeros r.frac = Decimal.stripZeros r'.frac := by
  have htake (r : Run) : r.normal.takeWhile Char.isDigit = r.whole ∧
      r.normal.dropWhile Char.isDigit =
        if Decimal.stripZeros r.frac = [] then [] else '.' :: Decimal.stripZeros r.frac := by
    have hall := List.all_eq_true.1 r.whole_ok
    unfold Run.normal
    rw [List.takeWhile_append_of_pos hall, List.dropWhile_append_of_pos hall]
    have hpoint : ('.').isDigit = false := by decide
    by_cases hnone : Decimal.stripZeros r.frac = []
    · simp [hnone]
    · simp [hnone, hpoint]
  have hwhole := (htake r).1
  have hrest := (htake r).2
  rw [h, (htake r').1] at hwhole
  rw [h, (htake r').2] at hrest
  refine ⟨hwhole.symm, ?_⟩
  by_cases hnone : Decimal.stripZeros r.frac = []
  · by_cases hnone' : Decimal.stripZeros r'.frac = []
    · rw [hnone, hnone']
    · rw [if_pos hnone, if_neg hnone'] at hrest
      cases hrest
  · by_cases hnone' : Decimal.stripZeros r'.frac = []
    · rw [if_neg hnone, if_pos hnone'] at hrest
      cases hrest
    · rw [if_neg hnone, if_neg hnone'] at hrest
      exact (List.cons.inj hrest).2.symm

/-- **A normal form has one value.** -/
theorem value_of_normal {r r' : Run} (h : r.normal = r'.normal) : r.value = r'.value := by
  obtain ⟨hwhole, hfrac⟩ := parts_of_normal h
  unfold Run.value
  rw [hwhole, ← Decimal.frac_stripZeros r.frac, hfrac, Decimal.frac_stripZeros]

/-- A run whose normal form is that of a plain run is plain. -/
theorem plain_of_normal {r r' : Run} (h : r.normal = r'.normal) (hr : r.Plain) : r'.Plain := by
  unfold Run.Plain at hr ⊢
  rwa [← (parts_of_normal h).1]

theorem floor_value (r : Run) : ⌊r.value⌋ = Decimal.natOf r.whole := by
  have hlt := Decimal.frac_lt_one r.frac_ok
  have hnonneg : (0 : ℚ) ≤ (Decimal.natOf r.frac : ℚ) / 10 ^ r.frac.length := by positivity
  rw [Int.floor_eq_iff]
  unfold Run.value
  push_cast
  exact ⟨by linarith, by linarith⟩

/-- **A value has one normal form among plain runs.** -/
theorem normal_of_value {r r' : Run} (hr : r.Plain) (hr' : r'.Plain) (h : r.value = r'.value) : r.normal = r'.normal := by
  have hnat : Decimal.natOf r.whole = Decimal.natOf r'.whole := by
    have hfloor := floor_value r
    rw [h, floor_value r'] at hfloor
    exact_mod_cast hfloor.symm
  have hwhole : r.whole = r'.whole := by
    rw [← Decimal.toDigits_natOf hr, ← Decimal.toDigits_natOf hr', hnat]
  have hfrac : Decimal.stripZeros r.frac = Decimal.stripZeros r'.frac := by
    refine Decimal.frac_inj (Decimal.stripZeros_all r.frac_ok) (Decimal.stripZeros_all r'.frac_ok)
      (Decimal.stripZeros_getLast r.frac) (Decimal.stripZeros_getLast r'.frac) ?_
    rw [Decimal.frac_stripZeros, Decimal.frac_stripZeros]
    unfold Run.value at h
    rw [hnat] at h
    exact add_left_cancel h
  unfold Run.normal
  rw [hwhole, hfrac]

theorem normal_eq_iff {r r' : Run} (hr : r.Plain) (hr' : r'.Plain) : r.normal = r'.normal ↔ r.value = r'.value :=
  ⟨value_of_normal, normal_of_value hr hr'⟩

/-! ## Searching a text -/

section
variable {α β : Type}

/-- What a reader finds in a text, from left to right: where it finds nothing the text goes on behind the next unit. -/
def scan (read : List α → Option (β × List α)) : Nat → List α → List β
  | 0, _ => []
  | _, [] => []
  | fuel + 1, c :: cs => match read (c :: cs) with
    | some (x, rest) => x :: scan read fuel rest
    | none => scan read fuel cs

end

/-! ## Numerals -/

/-- The decimal digits of all scripts, with their numbers. -/
structure DigitTable where
  number : Char → Option Nat
  ascii : ∀ c : Char, c.isDigit = true → number c = some (c.toNat - 48)

section
variable (table : DigitTable)

def digitsAt : List Char → List Nat × List Char
  | [] => ([], [])
  | c :: cs => match table.number c with
    | some d => (d :: (digitsAt cs).1, (digitsAt cs).2)
    | none => ([], c :: cs)

def numberOf (digits : List Nat) : Nat := digits.foldl (fun n d => 10 * n + d) 0

/-- Groups of three digits, each behind a comma. -/
def groupsAt : Nat → List Char → List Nat × List Char
  | fuel + 1, ',' :: cs =>
    if (digitsAt table cs).1.length = 3 then
      ((digitsAt table cs).1 ++ (groupsAt fuel (digitsAt table cs).2).1, (groupsAt fuel (digitsAt table cs).2).2)
    else ([], ',' :: cs)
  | _, cs => ([], cs)

/-- The digits in front of the point; the first of several groups has at most three. -/
def wholeAt (cs : List Char) : List Nat × List Char :=
  let first := digitsAt table cs
  if first.1 ≠ [] ∧ first.1.length ≤ 3 then
    let groups := groupsAt table first.2.length first.2
    (first.1 ++ groups.1, groups.2)
  else first

def fractionAt : List Char → List Nat × List Char
  | '.' :: cs => if (digitsAt table cs).1 = [] then ([], '.' :: cs) else digitsAt table cs
  | cs => ([], cs)

def signAt : List Char → Bool × List Char
  | '-' :: cs => (true, cs)
  | '+' :: cs => (false, cs)
  | cs => (false, cs)

def exponentAt : List Char → Int × List Char
  | [] => (0, [])
  | c :: cs =>
    let signed := signAt cs
    let digits := digitsAt table signed.2
    if (c = 'e' ∨ c = 'E') ∧ digits.1 ≠ [] then
      (if signed.1 then -(numberOf digits.1 : Int) else numberOf digits.1, digits.2)
    else (0, c :: cs)

end

/-- The power of ten of a magnitude's letter. -/
def magnitude : Char → Option Nat
  | 'k' | 'K' => some 3
  | 'm' | 'M' => some 6
  | 'b' | 'B' => some 9
  | 't' | 'T' => some 12
  | _ => none

/-- A magnitude is a letter of its own, not the beginning of a word. -/
def suffixAt : List Char → Nat × List Char
  | [] => (0, [])
  | c :: cs => match magnitude c with
    | some power => if cs.head?.any Char.isAlphanum then (0, c :: cs) else (power, cs)
    | none => (0, c :: cs)

def scaleBy (x : ℚ) (power : Int) : ℚ := if 0 ≤ power then x * 10 ^ power.toNat else x / 10 ^ (-power).toNat

/-- The longest numeral at the start of a text, and what is behind it. -/
def numeralAt (table : DigitTable) (cs : List Char) : Option (ℚ × List Char) :=
  let whole := wholeAt table cs
  let fraction := fractionAt table whole.2
  if whole.1 = [] ∧ fraction.1 = [] then none
  else
    let exponent := exponentAt table fraction.2
    let suffix := suffixAt exponent.2
    some (scaleBy (numberOf whole.1 + numberOf fraction.1 / 10 ^ fraction.1.length) (exponent.1 + suffix.1), suffix.2)

/-- The values of the numerals of a text, their signs ignored. -/
def numerals (table : DigitTable) (cs : List Char) : List ℚ := scan (numeralAt table) cs.length cs

/-- The digits of ASCII and of the Arabic script. -/
def someDigits : DigitTable where
  number c := if c.isDigit then some (c.toNat - 48)
    else if 0x660 ≤ c.toNat ∧ c.toNat ≤ 0x669 then some (c.toNat - 0x660) else none
  ascii _ h := if_pos h

example : numerals someDigits "about 1,234.50 in 5e-1, 2k or ٣, .5".toList = [2469 / 2, 1 / 2, 2000, 3, 1 / 2] := by
  decide +kernel

end Figures
