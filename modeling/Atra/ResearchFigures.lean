import Atra.Research
/-!
# ResearchFigures — which statements the check for invented numbers judges rightly

The check cuts a statement into runs of ASCII digits and looks each up among the normal forms of the evidence.  That is a check
of values for plain runs (`Figures.normal_eq_iff`), and a number can be written so that it is not one run: its runs may all be
allowed (`Composed`), a run of the facts may be a piece of a longer number (`PieceOnly`), and a value may be cited in the facts in
another notation only (`CitedOtherwise`).  Apart from these three the check does what it is for (`none_survives_iff`).
-/
namespace Atra
namespace Research

open Js Figures

/-! ## The normal form the code computes -/

theorem stripZeros_append_cons (xs : List Char) {c : Char} (h : c ≠ '0') (ys : List Char) :
    Decimal.stripZeros (xs ++ c :: ys) = xs ++ c :: Decimal.stripZeros ys := by
  unfold Decimal.stripZeros
  rw [List.reverse_append, List.reverse_cons, List.append_assoc, List.singleton_append, List.dropWhile_append]
  by_cases hempty : (ys.reverse.dropWhile (· = '0')).isEmpty = true
  · rw [if_pos hempty, List.isEmpty_iff.1 hempty, List.dropWhile_cons_of_neg (by simpa using h)]
    simp
  · rw [if_neg hempty]
    simp

theorem point_notMem {cs : List Char} (h : cs.all Char.isDigit = true) : '.' ∉ cs :=
  fun hmem => absurd (List.all_eq_true.1 h _ hmem) (by decide)

/-- **`normalizeNumber` computes the normal form of a run.** -/
theorem normalizeNumber_text (r : Run) : normalizeNumber r.text = r.normal := by
  have hwhole := point_notMem r.whole_ok
  unfold normalizeNumber Run.text Run.normal
  by_cases hfrac : r.frac = []
  · have hstrip : Decimal.stripZeros [] = [] := rfl
    rw [hfrac, if_pos rfl, List.append_nil, if_neg hwhole, hstrip, if_pos rfl, List.append_nil]
  · rw [if_neg hfrac, if_pos (List.mem_append.2 (.inr List.mem_cons_self)), stripZeros_append_cons _ (by decide)]
    dsimp only
    by_cases hnone : Decimal.stripZeros r.frac = []
    · rw [hnone, if_pos rfl, if_pos (List.getLast?_concat ..), List.dropLast_concat, List.append_nil]
    · have hlast : (r.whole ++ '.' :: Decimal.stripZeros r.frac).getLast? ≠ some '.' := by
        rw [List.getLast?_append_cons, List.getLast?_cons_of_ne_nil hnone]
        intro h
        exact point_notMem (Decimal.stripZeros_all r.frac_ok) (List.mem_of_getLast? h)
      rw [if_neg hlast, if_neg hnone]

/-! ## What is allowed -/

section
variable (table : DigitTable) (facts : List ResearchFact) (statement : Text)

/-- The runs whose normal forms are allowed. -/
inductive Source : Run → Prop
  | age (f : ResearchFact) (hf : f ∈ facts) : Source (ofNat f.ageSeconds)
  | figure (f : ResearchFact) (hf : f ∈ facts) (hnumeric : isNumeric f = true) (r : Run) (hr : r ∈ digitRuns f.value) : Source r
  | small (i : Nat) (hi : i ≤ 24) : Source (ofNat i)

theorem normalizeNumber_toDigits (n : Nat) : normalizeNumber (Nat.toDigits 10 n) = (ofNat n).normal :=
  (congrArg normalizeNumber (List.append_nil _)).symm.trans (normalizeNumber_text (ofNat n))

theorem mem_allowedNumbers {n : List Char} : n ∈ allowedNumbers facts ↔ ∃ r, Source facts r ∧ r.normal = n := by
  unfold allowedNumbers
  rw [List.mem_append, List.mem_flatMap]
  constructor
  · rintro (⟨f, hf, hn⟩ | hn)
    · rcases List.mem_cons.1 hn with rfl | hn
      · exact ⟨_, .age f hf, (normalizeNumber_toDigits _).symm⟩
      · by_cases hnumeric : isNumeric f = true
        · rw [if_pos hnumeric] at hn
          obtain ⟨r, hr, rfl⟩ := List.mem_map.1 hn
          exact ⟨r, .figure f hf hnumeric r hr, (normalizeNumber_text r).symm⟩
        · rw [if_neg hnumeric] at hn
          cases hn
    · obtain ⟨i, hi, rfl⟩ := List.mem_map.1 hn
      exact ⟨_, .small i (Nat.le_of_lt_succ (List.mem_range.1 hi)), normal_ofNat i⟩
  · rintro ⟨r, hr, rfl⟩
    cases hr with
    | age f hf => exact .inl ⟨f, hf, List.mem_cons.2 (.inl (normalizeNumber_toDigits _).symm)⟩
    | figure f hf hnumeric r hr =>
      refine .inl ⟨f, hf, List.mem_cons_of_mem _ ?_⟩
      rw [if_pos hnumeric]
      exact List.mem_map.2 ⟨r, hr, normalizeNumber_text r⟩
    | small i hi => exact .inr (List.mem_map.2 ⟨i, List.mem_range.2 (Nat.lt_succ_of_le hi), (normal_ofNat i).symm⟩)

/-- Every run of the statement is allowed. -/
def Allowed : Prop := ∀ r ∈ digitRuns statement, normalizeNumber r.text ∈ allowedNumbers facts

def judged : Checked := checkForInventedNumbers statement (allowedNumbers facts)

variable {facts statement} in
/-- **A statement stands exactly when its runs are all allowed.** -/
theorem judged_of_allowed (h : Allowed facts statement) : judged facts statement = ⟨statement, []⟩ := by
  unfold judged checkForInventedNumbers
  refine if_pos (List.filter_eq_nil_iff.2 fun run hrun => ?_)
  obtain ⟨r, hr, rfl⟩ := List.mem_map.1 hrun
  simpa using h r hr

variable {facts statement} in
theorem judged_of_not_allowed (h : ¬ Allowed facts statement) :
    (judged facts statement).text = REMOVED ∧ (judged facts statement).invented ≠ [] := by
  have hinvented : ((digitRuns statement).map (·.text)).filter
      (fun run => !(allowedNumbers facts).contains (normalizeNumber run)) ≠ [] := by
    intro hnil
    refine h fun r hr => ?_
    have hnot := List.filter_eq_nil_iff.1 hnil r.text (List.mem_map_of_mem hr)
    simpa using hnot
  unfold judged checkForInventedNumbers
  dsimp only
  rw [if_neg hinvented]
  exact ⟨rfl, hinvented⟩

/-! ## What may be cited -/

/-- A numeral of a measured fact. -/
def Cited (v : ℚ) : Prop := ∃ f ∈ facts, isNumeric f = true ∧ v ∈ numerals table (decode f.value)

/-- A fact's age in seconds, or a small integer. -/
def Known (v : ℚ) : Prop := (∃ f ∈ facts, v = f.ageSeconds) ∨ ∃ i ≤ 24, v = (i : Nat)

def Citable (v : ℚ) : Prop := Cited table facts v ∨ Known facts v

/-- **What the check is for**: a statement with any other numeral is replaced and reported, and one whose runs are all plain and
may be cited stands. -/
structure NoneSurvives : Prop where
  removed : (∃ v ∈ numerals table (decode statement), ¬ Citable table facts v) →
    (judged facts statement).text = REMOVED ∧ (judged facts statement).invented ≠ []
  kept : (∀ r ∈ digitRuns statement, r.Plain ∧ Citable table facts r.value) → judged facts statement = ⟨statement, []⟩

/-- A number that no run of the statement spells: it has an exponent, groups, a magnitude, or other digits. -/
def Composed (v : ℚ) : Prop := ∀ r ∈ digitRuns statement, r.value ≠ v

/-- A run of a measured fact that is only a piece of the fact's number. -/
def PieceOnly (v : ℚ) : Prop :=
  ¬ Citable table facts v ∧ ∃ f ∈ facts, isNumeric f = true ∧ ∃ r ∈ digitRuns f.value, r.value = v

/-- A number that no measured fact writes as a plain run. -/
def CitedOtherwise (v : ℚ) : Prop :=
  Cited table facts v ∧ ¬ Known facts v ∧
    ∀ f ∈ facts, isNumeric f = true → ∀ r ∈ digitRuns f.value, r.Plain → r.value ≠ v

/-- None of the three ways in which runs and numbers come apart. -/
structure Untrapped : Prop where
  composed : Allowed facts statement → ∀ v ∈ numerals table (decode statement), Composed statement v → Citable table facts v
  pieces : Allowed facts statement → ∀ v ∈ numerals table (decode statement), ¬ PieceOnly table facts v
  notations : (∀ r ∈ digitRuns statement, r.Plain ∧ Citable table facts r.value) →
    ∀ r ∈ digitRuns statement, ¬ CitedOtherwise table facts r.value

variable {facts} in
theorem known_of_source {r : Run} (h : Source facts r) :
    Known facts r.value ∨ ∃ f ∈ facts, isNumeric f = true ∧ r ∈ digitRuns f.value := by
  cases h with
  | age f hf => exact .inl (.inl ⟨f, hf, value_ofNat _⟩)
  | figure f hf hnumeric r hr => exact .inr ⟨f, hf, hnumeric, hr⟩
  | small i hi => exact .inl (.inr ⟨i, hi, value_ofNat i⟩)

variable {facts} in
theorem source_of_known {v : ℚ} (h : Known facts v) : ∃ r, Source facts r ∧ r.Plain ∧ r.value = v := by
  rcases h with ⟨f, hf, rfl⟩ | ⟨i, hi, rfl⟩
  · exact ⟨_, .age f hf, plain_ofNat _, value_ofNat _⟩
  · exact ⟨_, .small i hi, plain_ofNat i, value_ofNat i⟩

/-- **The check does what it is for exactly on the statements that none of the three traps is in.** -/
theorem none_survives_iff : NoneSurvives table facts statement ↔ Untrapped table facts statement := by
  constructor
  · intro h
    have hcitable : Allowed facts statement → ∀ v ∈ numerals table (decode statement), Citable table facts v := by
      intro hallowed v hv
      by_contra hnot
      have hremoved := (h.removed ⟨v, hv, hnot⟩).2
      rw [judged_of_allowed hallowed] at hremoved
      exact hremoved rfl
    refine ⟨fun hallowed v hv _ => hcitable hallowed v hv, fun hallowed v hv hpiece => hpiece.1 (hcitable hallowed v hv), ?_⟩
    rintro hruns r hr ⟨-, hunknown, hplain⟩
    -- the run stands, so its normal form is that of an allowed run, which is plain as well
    have hallowed : Allowed facts statement := by
      by_contra hnot
      have hinvented := (judged_of_not_allowed hnot).2
      rw [h.kept hruns] at hinvented
      exact hinvented rfl
    obtain ⟨r', hsource, hnormal⟩ := (mem_allowedNumbers facts).1 (hallowed r hr)
    rw [normalizeNumber_text] at hnormal
    rcases known_of_source hsource with hknown | ⟨f, hf, hnumeric, hr'⟩
    · exact hunknown (value_of_normal hnormal ▸ hknown)
    · exact hplain f hf hnumeric r' hr' (plain_of_normal hnormal.symm (hruns r hr).1) (value_of_normal hnormal)
  · intro h
    constructor
    · rintro ⟨v, hv, hnot⟩
      refine judged_of_not_allowed fun hallowed => ?_
      by_cases hcomposed : Composed statement v
      · exact hnot (h.composed hallowed v hv hcomposed)
      · unfold Composed at hcomposed
        push Not at hcomposed
        obtain ⟨r, hr, rfl⟩ := hcomposed
        obtain ⟨r', hsource, hnormal⟩ := (mem_allowedNumbers facts).1 (hallowed r hr)
        rw [normalizeNumber_text] at hnormal
        have hvalue := value_of_normal hnormal
        rcases known_of_source hsource with hknown | ⟨f, hf, hnumeric, hr'⟩
        · exact hnot (.inr (hvalue ▸ hknown))
        · exact h.pieces hallowed _ hv ⟨hnot, f, hf, hnumeric, r', hr', hvalue⟩
    · intro hruns
      refine judged_of_allowed fun r hr => (mem_allowedNumbers facts).2 ?_
      rw [normalizeNumber_text]
      obtain ⟨hplain, hcitable⟩ := hruns r hr
      by_cases hknown : Known facts r.value
      · obtain ⟨r', hsource, hplain', hvalue⟩ := source_of_known hknown
        exact ⟨r', hsource, (normal_eq_iff hplain' hplain).2 hvalue⟩
      · have hcited := hcitable.resolve_right hknown
        have hsome : ∃ f ∈ facts, isNumeric f = true ∧ ∃ r' ∈ digitRuns f.value, r'.Plain ∧ r'.value = r.value := by
          by_contra hnone
          push Not at hnone
          exact h.notations hruns r hr ⟨hcited, hknown, hnone⟩
        obtain ⟨f, hf, hnumeric, r', hr', hplain', hvalue⟩ := hsome
        exact ⟨r', .figure f hf hnumeric r' hr', (normal_eq_iff hplain' hplain).2 hvalue⟩

end

/-- Two small integers around an exponent. -/
theorem exponent_survives : ¬ NoneSurvives someDigits [] (text "The market could grow to 5e9 dollars.") := by
  intro h
  have hremoved := (h.removed ⟨5000000000, by decide +kernel, ?_⟩).2
  · revert hremoved
    decide +kernel
  · rintro (⟨f, hf, -⟩ | ⟨f, hf, -⟩ | ⟨i, hi, heq⟩)
    · cases hf
    · cases hf
    · have hvalue : (5000000000 : ℕ) = i := by exact_mod_cast heq
      omega

end Research
end Atra
