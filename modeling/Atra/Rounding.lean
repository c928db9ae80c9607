import Mathlib.Algebra.Order.Field.Rat
import Mathlib.Tactic.FieldSimp
import Mathlib.Tactic.Linarith
import Mathlib.Tactic.Positivity
/-!
# Rounding — integer division with a stated direction

`up a b` is the least integer at or above `a / b` and `down a b` the greatest at or below it, for a positive `b`.  Each is
its adjunction (`up_le_iff`, `le_down_iff`); every bound a caller needs is one of the two read at a point, and the
comparisons with the exact quotient (`div_le_up`, `down_le_div`) are the same bounds over `ℚ`.
-/
namespace Rounding

/-- The quotient rounded towards `+∞`. -/
def up (a b : Int) : Int := -((-a) / b)

/-- The quotient rounded towards `-∞`. -/
def down (a b : Int) : Int := a / b

/-- **Rounding up is the lower adjoint of scaling.** -/
theorem up_le_iff {a b k : Int} (hb : 0 < b) : up a b ≤ k ↔ a ≤ k * b := by
  unfold up
  have h : -k ≤ (-a) / b ↔ -k * b ≤ -a := Int.le_ediv_iff_mul_le hb
  have e : -k * b = -(k * b) := Int.neg_mul k b
  constructor
  · intro hk
    have := h.1 (by omega)
    omega
  · intro hk
    have := h.2 (by omega)
    omega

/-- **Rounding down is the upper adjoint of scaling.** -/
theorem le_down_iff {a b k : Int} (hb : 0 < b) : k ≤ down a b ↔ k * b ≤ a := Int.le_ediv_iff_mul_le hb

theorem le_up_mul (a : Int) {b : Int} (hb : 0 < b) : a ≤ up a b * b := (up_le_iff hb).1 (Int.le_refl _)

theorem up_mul_lt (a : Int) {b : Int} (hb : 0 < b) : up a b * b < a + b := by
  have h : ¬ up a b ≤ up a b - 1 := by omega
  rw [up_le_iff hb, Int.sub_mul, Int.one_mul] at h
  omega

theorem down_mul_le (a : Int) {b : Int} (hb : 0 < b) : down a b * b ≤ a := (le_down_iff hb).1 (Int.le_refl _)

theorem lt_down_mul (a : Int) {b : Int} (hb : 0 < b) : a < down a b * b + b := by
  have h : ¬ down a b + 1 ≤ down a b := by omega
  rw [le_down_iff hb, Int.add_mul, Int.one_mul] at h
  omega

theorem up_mono {a a' b : Int} (hb : 0 < b) (h : a ≤ a') : up a b ≤ up a' b :=
  (up_le_iff hb).2 (Int.le_trans h (le_up_mul a' hb))

theorem down_mono {a a' b : Int} (hb : 0 < b) (h : a ≤ a') : down a b ≤ down a' b :=
  (le_down_iff hb).2 (Int.le_trans (down_mul_le a hb) h)

/-- The two roundings enclose the quotient. -/
theorem down_le_up (a : Int) {b : Int} (hb : 0 < b) : down a b ≤ up a b :=
  Int.le_of_mul_le_mul_right (Int.le_trans (down_mul_le a hb) (le_up_mul a hb)) hb

theorem up_nonneg {a b : Int} (hb : 0 < b) (h : 0 ≤ a) : 0 ≤ up a b := by
  have := up_mono hb h
  simpa [up] using this

theorem down_nonneg {a b : Int} (hb : 0 < b) (h : 0 ≤ a) : 0 ≤ down a b :=
  (le_down_iff hb).2 (by simpa using h)

theorem up_mul_cancel (k : Int) {b : Int} (hb : 0 < b) : up (k * b) b = k := by
  unfold up
  rw [← Int.neg_mul, Int.mul_ediv_cancel _ (by omega), Int.neg_neg]

theorem down_mul_cancel (k : Int) {b : Int} (hb : 0 < b) : down (k * b) b = k :=
  Int.mul_ediv_cancel _ (by omega)

/-- **A rounded-up quotient meets a bound of the exact quotient exactly when nothing was rounded.** -/
theorem up_mul_le_iff_dvd {a b : Int} (hb : 0 < b) : up a b * b ≤ a ↔ b ∣ a := by
  have hle := le_up_mul a hb
  constructor
  · intro h
    exact ⟨up a b, by rw [Int.mul_comm]; omega⟩
  · rintro ⟨k, rfl⟩
    rw [Int.mul_comm b k, up_mul_cancel k hb]

/-- A part of a whole, rounded up, is at most the whole. -/
theorem up_part_le {w p q : Int} (hq : 0 < q) (hw : 0 ≤ w) (hp : p ≤ q) : up (w * p) q ≤ w :=
  (up_le_iff hq).2 (Int.mul_le_mul_of_nonneg_left hp hw)

/-! ## Against the exact quotient -/

theorem div_le_up (a : Int) {b : Int} (hb : 0 < b) : (a : ℚ) / b ≤ up a b := by
  have hb' : (0 : ℚ) < b := by exact_mod_cast hb
  rw [div_le_iff₀ hb']
  exact_mod_cast le_up_mul a hb

theorem down_le_div (a : Int) {b : Int} (hb : 0 < b) : (down a b : ℚ) ≤ (a : ℚ) / b := by
  have hb' : (0 : ℚ) < b := by exact_mod_cast hb
  rw [le_div_iff₀ hb']
  exact_mod_cast down_mul_le a hb

/-! ## Truncating division

The division of the languages that round towards zero, for the signs where it is one of the two above. -/

theorem tdiv_eq_down {a b : Int} (ha : 0 ≤ a) : Int.tdiv a b = down a b := Int.tdiv_eq_ediv_of_nonneg ha

theorem tdiv_eq_up {a b : Int} (ha : a ≤ 0) : Int.tdiv a b = up a b := by
  unfold up
  rw [← Int.tdiv_eq_ediv_of_nonneg (show (0 : Int) ≤ -a by omega), Int.neg_tdiv, Int.neg_neg]

/-- The usual spelling of a ceiling by a truncating division. -/
theorem tdiv_add_eq_up {a b : Int} (ha : 0 ≤ a) (hb : 0 < b) : Int.tdiv (a + b - 1) b = up a b := by
  rw [tdiv_eq_down (by omega)]
  apply Int.le_antisymm
  · have h1 := down_mul_le (a + b - 1) hb
    have h2 := le_up_mul a hb
    have h3 : down (a + b - 1) b * b < (up a b + 1) * b := by rw [Int.add_mul]; omega
    exact Int.lt_add_one_iff.1 (Int.lt_of_mul_lt_mul_right h3 (by omega))
  · exact (le_down_iff hb).2 (by have := up_mul_lt a hb; omega)

end Rounding
