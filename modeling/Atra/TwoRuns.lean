/-!
# TwoRuns — two computations that may throw, side by side

Two runs are alike when they throw the same error or return related values.  The rule for a sequence lets two programs be
compared step by step, each step's results being related to what the next step reads.
-/

/-- Two runs that throw the same, or return values related by `R`. -/
inductive Alike {ε α β : Type} (R : α → β → Prop) : Except ε α → Except ε β → Prop
  | ok {a : α} {b : β} (h : R a b) : Alike R (.ok a) (.ok b)
  | error (e : ε) : Alike R (.error e) (.error e)

namespace Alike

variable {ε α β γ δ : Type} {R : α → β → Prop} {Q : γ → δ → Prop}

theorem refl (x : Except ε α) : Alike (· = ·) x x := by
  cases x with
  | error e => exact .error e
  | ok a => exact .ok rfl

/-- **Sequences are alike step by step.** -/
theorem bind {x : Except ε α} {y : Except ε β} {f : α → Except ε γ} {g : β → Except ε δ} (h : Alike R x y)
    (hfg : ∀ a b, R a b → Alike Q (f a) (g b)) : Alike Q (x >>= f) (y >>= g) := by
  cases h with
  | ok h => exact hfg _ _ h
  | error e => exact .error e

theorem bind_same {x : Except ε α} {f : α → Except ε γ} {g : α → Except ε δ} (h : ∀ a, Alike Q (f a) (g a)) :
    Alike Q (x >>= f) (x >>= g) :=
  (refl x).bind fun a _ he => he ▸ h a

/-- A step of the first run that cannot throw and has no part in the rest. -/
theorem skip_left {x : Except ε α} {a : α} {f : α → Except ε γ} {y : Except ε δ} (hx : x = .ok a) (h : Alike Q (f a) y) :
    Alike Q (x >>= f) y := by
  rw [hx]
  exact h

theorem skip_right {x : Except ε γ} {y : Except ε β} {b : β} {g : β → Except ε δ} (hy : y = .ok b) (h : Alike Q x (g b)) :
    Alike Q x (y >>= g) := by
  rw [hy]
  exact h

theorem trans {x y : Except ε α} {z : Except ε γ} {S : α → γ → Prop} {P : α → α → Prop} {T : α → γ → Prop}
    (hxy : Alike P x y) (hyz : Alike S y z) (h : ∀ a b c, P a b → S b c → T a c) : Alike T x z := by
  cases hxy with
  | ok hp =>
    cases hyz with
    | ok hs => exact .ok (h _ _ _ hp hs)
  | error e =>
    cases hyz with
    | error => exact .error e

theorem symm {x : Except ε α} {y : Except ε β} (h : Alike R x y) : Alike (fun b a => R a b) y x := by
  cases h with
  | ok h => exact .ok h
  | error e => exact .error e

end Alike
