import Mathlib.Algebra.Group.Nat.Defs
import Mathlib.Data.List.Induction
/-!
# History — runs of a step function, and what has held since

`after step s es` is the state once the events `es`, oldest first, were taken from `s`, and `tally` what a run adds up.  An event is good or bad where it is
taken; `Since` says that a good one was taken and no bad one after it.  It is proved event by event: the last event is good
itself, or it is not bad and the property held before it.
-/
namespace History

section
variable {α : Type} {as pre post : List α} {a b : α}

/-- An element of a list with one more is the last, or one before it. -/
theorem snoc_split (h : as ++ [a] = pre ++ b :: post) :
    (pre = as ∧ b = a) ∨ ∃ rest, as = pre ++ b :: rest := by
  rcases List.eq_nil_or_concat post with rfl | ⟨rest, x, rfl⟩
  · obtain ⟨hpre, hb⟩ := List.append_inj' h rfl
    exact .inl ⟨hpre.symm, (List.cons.inj hb).1.symm⟩
  · have hinit : as ++ [a] = (pre ++ b :: rest) ++ [x] := by
      rw [h]
      simp
    exact .inr ⟨rest, (List.append_inj' hinit rfl).1⟩

theorem forall_split_snoc {P : List α → α → Prop} (h : ∀ pre b post, as = pre ++ b :: post → P pre b)
    (ha : P as a) : ∀ pre b post, as ++ [a] = pre ++ b :: post → P pre b := by
  intro pre b post heq
  rcases snoc_split heq with ⟨rfl, rfl⟩ | ⟨rest, rfl⟩
  · exact ha
  · exact h pre b rest rfl

end

variable {S E : Type} (step : S → E → S)

/-- The state after a run. -/
def after (s : S) (es : List E) : S := es.foldl step s

variable {step} {s : S} {es : List E} {e : E}

@[simp] theorem after_nil : after step s [] = s := rfl

theorem after_snoc : after step s (es ++ [e]) = step (after step s es) e := by
  unfold after
  rw [List.foldl_append]
  rfl

/-- **What every step keeps holds after every run.** -/
theorem invariant {P : S → Prop} (h0 : P s) (hstep : ∀ s e, P s → P (step s e)) (es : List E) : P (after step s es) := by
  induction es using List.reverseRecOn with
  | nil => exact h0
  | append_singleton es e ih =>
    rw [after_snoc]
    exact hstep _ e ih

section
variable {M : Type} [AddMonoid M] {f : S → E → M}

/-- What a run adds up: a figure of each event in the state it meets. -/
def tally (step : S → E → S) (f : S → E → M) (s : S) : List E → M
  | [] => 0
  | e :: es => f s e + tally step f (step s e) es

theorem tally_snoc : tally step f s (es ++ [e]) = tally step f s es + f (after step s es) e := by
  induction es generalizing s with
  | nil =>
    show f s e + 0 = 0 + f s e
    rw [add_zero, zero_add]
  | cons e' es ih =>
    show f s e' + tally step f (step s e') (es ++ [e]) = f s e' + tally step f (step s e') es + _
    rw [ih, add_assoc]
    rfl

/-- Every event of a run meets a condition in the state it is taken in. -/
def Along (step : S → E → S) (C : S → E → Prop) (s : S) : List E → Prop
  | [] => True
  | e :: es => C s e ∧ Along step C (step s e) es

theorem along_snoc {C : S → E → Prop} : Along step C s (es ++ [e]) ↔ Along step C s es ∧ C (after step s es) e := by
  induction es generalizing s with
  | nil => exact ⟨fun h => ⟨trivial, h.1⟩, fun h => ⟨h.2, trivial⟩⟩
  | cons e' es ih =>
    show C s e' ∧ Along step C (step s e') (es ++ [e]) ↔ (C s e' ∧ Along step C (step s e') es) ∧ _
    rw [ih, and_assoc]
    rfl

/-- A run adds up to nothing when none of its steps adds anything. -/
theorem tally_eq_zero {f : S → E → Nat} : tally step f s es = 0 ↔ Along step (fun s e => f s e = 0) s es := by
  induction es generalizing s with
  | nil => exact ⟨fun _ => trivial, fun _ => rfl⟩
  | cons e es ih =>
    show f s e + tally step f (step s e) es = 0 ↔ f s e = 0 ∧ Along step _ (step s e) es
    rw [Nat.add_eq_zero_iff, ih]

/-- A condition is met along a run when it is met after each of its beginnings. -/
theorem along_iff {C : S → E → Prop} :
    Along step C s es ↔ ∀ pre e post, es = pre ++ e :: post → C (after step s pre) e := by
  induction es generalizing s with
  | nil => exact ⟨fun _ _ _ _ h => (List.append_ne_nil_of_right_ne_nil _ (List.cons_ne_nil _ _) h.symm).elim, fun _ => trivial⟩
  | cons e' es ih =>
    show C s e' ∧ Along step C (step s e') es ↔ _
    rw [ih]
    constructor
    · rintro ⟨h, hrest⟩ pre e post heq
      cases pre with
      | nil =>
        obtain ⟨rfl, rfl⟩ := List.cons.inj heq
        exact h
      | cons x pre =>
        obtain ⟨rfl, hes⟩ := List.cons.inj heq
        exact hrest pre e post hes
    · intro h
      exact ⟨h [] e' es rfl, fun pre e post heq => h (e' :: pre) e post (by rw [heq]; rfl)⟩

/-- **What every step that meets a condition keeps** of a state and a running total holds after every run whose steps all
meet it, of its total. -/
theorem tally_along {P : S → M → Prop} {C : S → E → Prop} (h0 : P s 0)
    (hstep : ∀ s m e, C s e → P s m → P (step s e) (m + f s e)) (hC : Along step C s es) :
    P (after step s es) (tally step f s es) := by
  induction es using List.reverseRecOn with
  | nil => exact h0
  | append_singleton es e ih =>
    obtain ⟨hpre, he⟩ := along_snoc.1 hC
    rw [after_snoc, tally_snoc]
    exact hstep _ _ e he (ih hpre)

/-- **What every step keeps of a state and a running total** holds after every run, of its total. -/
theorem invariant_tally {P : S → M → Prop} (h0 : P s 0) (hstep : ∀ s m e, P s m → P (step s e) (m + f s e))
    (es : List E) : P (after step s es) (tally step f s es) := by
  induction es using List.reverseRecOn with
  | nil => exact h0
  | append_singleton es e ih =>
    rw [after_snoc, tally_snoc]
    exact hstep _ _ e ih

end

/-- What the events of a run leave behind, oldest first. -/
def collect {A : Type} (step : S → E → S) (f : S → E → List A) (s : S) : List E → List A
  | [] => []
  | e :: es => f s e ++ collect step f (step s e) es

theorem collect_snoc {A : Type} {f : S → E → List A} :
    collect step f s (es ++ [e]) = collect step f s es ++ f (after step s es) e := by
  induction es generalizing s with
  | nil => simp [collect]
  | cons e' es ih =>
    show f s e' ++ collect step f (step s e') (es ++ [e]) = f s e' ++ collect step f (step s e') es ++ _
    rw [ih, List.append_assoc]
    rfl

/-- Some event was good after the run that led to it, and no later one was bad in the state it met. -/
def Since (step : S → E → S) (good : List E → E → Prop) (bad : S → E → Prop) (s : S) (es : List E) : Prop :=
  ∃ pre e post, es = pre ++ e :: post ∧ good pre e ∧
    ∀ p e' q, post = p ++ e' :: q → ¬ bad (after step s (pre ++ e :: p)) e'

variable {good : List E → E → Prop} {bad : S → E → Prop}

theorem since_now (h : good es e) : Since step good bad s (es ++ [e]) :=
  ⟨es, e, [], rfl, h, fun p e' q hp => by cases p <;> cases hp⟩

theorem since_later (h : Since step good bad s es) (hb : ¬ bad (after step s es) e) : Since step good bad s (es ++ [e]) := by
  obtain ⟨pre, e₀, post, rfl, hgood, hpost⟩ := h
  exact ⟨pre, e₀, post ++ [e], by simp, hgood, forall_split_snoc hpost hb⟩

/-- The last event was good, or it was not bad and a good one came before it. -/
theorem since_snoc : Since step good bad s (es ++ [e]) ↔ good es e ∨ Since step good bad s es ∧ ¬ bad (after step s es) e := by
  constructor
  · rintro ⟨pre, e₀, post, heq, hgood, hpost⟩
    rcases snoc_split heq with ⟨rfl, rfl⟩ | ⟨rest, rfl⟩
    · exact .inl hgood
    · rw [List.append_assoc, List.append_cancel_left_eq, List.cons_append, List.cons.injEq] at heq
      obtain rfl := heq.2
      refine .inr ⟨⟨pre, e₀, rest, rfl, hgood, fun p e' q hp => ?_⟩, hpost rest e [] rfl⟩
      exact hpost p e' (q ++ [e]) (by rw [hp]; simp)
  · rintro (hgood | ⟨hsince, hbad⟩)
    · exact since_now hgood
    · exact since_later hsince hbad

/-- **A property that a good event brings about and a bad one ends** holds after a run just where a good event was taken and no
bad one since, in the runs that end in `Q`. -/
theorem since_iff {P Q : S → Prop} (h0 : ¬ P s) (hQ : ∀ s e, Q (step s e) → Q s)
    (hstep : ∀ pre e, Q (step (after step s pre) e) →
      (P (step (after step s pre) e) ↔ good pre e ∨ P (after step s pre) ∧ ¬ bad (after step s pre) e)) :
    Q (after step s es) → (P (after step s es) ↔ Since step good bad s es) := by
  induction es using List.reverseRecOn with
  | nil =>
    intro _
    constructor
    · exact fun h => absurd h h0
    · rintro ⟨pre, e, post, heq, -⟩
      exact (List.append_ne_nil_of_right_ne_nil _ (List.cons_ne_nil _ _) heq.symm).elim
  | append_singleton es e ih =>
    intro hq
    rw [after_snoc] at hq ⊢
    rw [hstep es e hq, ih (hQ _ _ hq), since_snoc]

theorem Since.imp {good' : List E → E → Prop} (h : Since step good bad s es)
    (hg : ∀ pre e, e ∈ es → good pre e → good' pre e) : Since step good' bad s es := by
  obtain ⟨pre, e₀, post, rfl, hgood, hpost⟩ := h
  exact ⟨pre, e₀, post, rfl, hg pre e₀ (by simp) hgood, hpost⟩

end History
