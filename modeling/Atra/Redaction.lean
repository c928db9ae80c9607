import Mathlib.Data.List.Infix
/-!
# Redaction — a word replaced in a text, and a word among fixed wordings

`replaceAll word marker` puts a marker where a word stands, leftmost first and without overlaps.  A word that does not clash
with the marker, which is that no stretch of one can be laid over the other, is gone afterwards and no other absent word
appears.  A template is fixed wording around quoted texts: a word that clashes with none of the wording stands in the
written template only where a quoted text has it.
-/
namespace Redaction

variable {α : Type}

/-- Some end of `v` agrees with the beginning of `r`, as far as both go. -/
def Overlaps (v r : List α) : Prop := ∃ x ∈ v.tails, x ≠ [] ∧ (x <+: r ∨ r <+: x)

def Clash (v r : List α) : Prop := Overlaps v r ∨ Overlaps r v

section
variable [DecidableEq α]

instance decidableOverlaps (v r : List α) : Decidable (Overlaps v r) :=
  inferInstanceAs (Decidable (∃ x ∈ v.tails, x ≠ [] ∧ (x <+: r ∨ r <+: x)))

instance decidableClash (v r : List α) : Decidable (Clash v r) :=
  inferInstanceAs (Decidable (Overlaps v r ∨ Overlaps r v))

/-- Put a character in front of the first piece. -/
def consHead (c : α) : List (List α) → List (List α)
  | [] => [[c]]
  | p :: ps => (c :: p) :: ps

/-- `text.split(word)`, with `k` characters of an occurrence still to skip. -/
def splitFrom (word : List α) : Nat → List α → List (List α)
  | _, [] => [[]]
  | k + 1, _ :: cs => splitFrom word k cs
  | 0, c :: cs => if word <+: c :: cs then [] :: splitFrom word (word.length - 1) cs else consHead c (splitFrom word 0 cs)

/-- `text.split(word).join(marker)`. -/
def replaceAll (word marker text : List α) : List α := marker.intercalate (splitFrom word 0 text)

variable {word marker text v : List α}

end

/-- Fixed wording around quoted texts. -/
structure Template (α : Type) where
  opening : List α
  /-- A quoted text, and the wording up to the next. -/
  quotes : List (List α × List α)

/-- A stretch of fixed wording, or a quoted text. -/
inductive Piece (α : Type) where
  | own (words : List α)
  | quoted (words : List α)

/-- The template of pieces in their order; neighbouring wording is one stretch. -/
def compose : List (Piece α) → Template α
  | [] => ⟨[], []⟩
  | .own words :: ps => ⟨words ++ (compose ps).opening, (compose ps).quotes⟩
  | .quoted words :: ps => ⟨[], (words, (compose ps).opening) :: (compose ps).quotes⟩

def Template.text (t : Template α) : List α := t.opening ++ t.quotes.flatMap fun q => q.1 ++ q.2

def Template.quoted (t : Template α) : List (List α) := t.quotes.map Prod.fst

end Redaction
