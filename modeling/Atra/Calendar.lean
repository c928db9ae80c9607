import Mathlib.Order.Monotone.Basic
import Mathlib.Tactic.SplitIfs
/-!
# Calendar — the months of the Gregorian calendar

Days are counted from 1 January 1970, months from January of the year 0.  Every day lies in one month, found by climbing at
most three years of months (`monthOfDay_spec`), and a day that lies between two month starts is of that month.
-/
namespace Calendar

def dayFromYear (y : Int) : Int := 365 * (y - 1970) + (y - 1969) / 4 - (y - 1901) / 100 + (y - 1601) / 400

def isLeap (y : Int) : Bool := y % 4 = 0 && (y % 100 ≠ 0 || y % 400 = 0)

/-- The days of a common year before a month of it. -/
def daysBefore : Nat → Int
  | 0 => 0
  | 1 => 31
  | 2 => 59
  | 3 => 90
  | 4 => 120
  | 5 => 151
  | 6 => 181
  | 7 => 212
  | 8 => 243
  | 9 => 273
  | 10 => 304
  | _ => 334

def monthDay (k : Int) : Int :=
  dayFromYear (k / 12) + daysBefore (k % 12).toNat + (if 2 ≤ k % 12 ∧ isLeap (k / 12) then 1 else 0)

/-- The month of a day, climbing from a month that is not after it. -/
def climb (d k : Int) : Nat → Int
  | 0 => k
  | n + 1 => if d < monthDay (k + 1) then k else climb d (k + 1) n

def monthOfDay (d : Int) : Int := climb d (12 * (1969 + 400 * d / 146097)) 36

/-- The month of an instant in milliseconds. -/
def monthOf (t : Int) : Int := monthOfDay (t / 86400000)

/-- The first instant of a month. -/
def monthStart (k : Int) : Int := 86400000 * monthDay k

def yearMonth (k : Int) : Int × Int := (k / 12, k % 12)

variable {d k k' : Int}

theorem dayFromYear_succ (y : Int) : dayFromYear y + 365 ≤ dayFromYear (y + 1) := by
  unfold dayFromYear
  omega

theorem monthDay_january (y : Int) : monthDay (12 * y) = dayFromYear y := by
  unfold monthDay
  have hdiv : 12 * y / 12 = y := by omega
  have hmod : 12 * y % 12 = 0 := by omega
  rw [hdiv, hmod, if_neg (by omega)]
  show dayFromYear y + 0 + 0 = dayFromYear y
  omega

theorem daysBefore_succ : ∀ m < 11, daysBefore m + 28 ≤ daysBefore (m + 1) := by decide

/-- **Months follow one another.** -/
theorem monthDay_lt_succ (k : Int) : monthDay k < monthDay (k + 1) := by
  obtain ⟨m, hm⟩ : ∃ m : Nat, k % 12 = m := ⟨(k % 12).toNat, by omega⟩
  by_cases hlast : m = 11
  · have hdiv : (k + 1) / 12 = k / 12 + 1 := by omega
    have hmod : (k + 1) % 12 = 0 := by omega
    have hyear := dayFromYear_succ (k / 12)
    unfold monthDay
    rw [hdiv, hmod, hm, hlast]
    show dayFromYear (k / 12) + 334 + _ < dayFromYear (k / 12 + 1) + 0 + _
    split_ifs
    all_goals omega
  · have hdiv : (k + 1) / 12 = k / 12 := by omega
    have hmod : (k + 1) % 12 = ((m + 1 : Nat) : Int) := by omega
    have hdays := daysBefore_succ m (by omega)
    unfold monthDay
    rw [hdiv, hmod, hm, Int.toNat_natCast, Int.toNat_natCast]
    split_ifs with h h'
    · omega
    · exact absurd ⟨by omega, h.2⟩ h'
    · omega
    · omega

theorem monthDay_lt_iff {j : Int} : monthDay j < monthDay k ↔ j < k :=
  (strictMono_int_of_lt_succ monthDay_lt_succ).lt_iff_lt

/-! ## The month of a day -/

theorem climb_spec {n : Nat} (hlow : monthDay k ≤ d) (hhigh : d < monthDay (k + n + 1)) :
    monthDay (climb d k n) ≤ d ∧ d < monthDay (climb d k n + 1) := by
  induction n generalizing k with
  | zero => exact ⟨hlow, by simpa [climb] using hhigh⟩
  | succ n ih =>
    unfold climb
    by_cases h : d < monthDay (k + 1)
    · rw [if_pos h]
      exact ⟨hlow, h⟩
    · rw [if_neg h]
      apply ih (Int.not_lt.1 h)
      have hk : k + 1 + (n : Int) + 1 = k + ((n + 1 : Nat) : Int) + 1 := by omega
      rw [hk]
      exact hhigh

theorem monthOfDay_spec (d : Int) : monthDay (monthOfDay d) ≤ d ∧ d < monthDay (monthOfDay d + 1) := by
  unfold monthOfDay
  apply climb_spec
  · rw [monthDay_january]
    unfold dayFromYear
    omega
  · have hyear : 12 * (1969 + 400 * d / 146097) + ((36 : Nat) : Int) + 1 = 12 * (1972 + 400 * d / 146097) + 1 := by omega
    rw [hyear]
    have hjanuary := monthDay_lt_succ (12 * (1972 + 400 * d / 146097))
    rw [monthDay_january] at hjanuary
    refine lt_trans ?_ hjanuary
    unfold dayFromYear
    omega

/-- **A day is of the month it lies in**, and of no other. -/
theorem monthOfDay_eq : monthOfDay d = k ↔ monthDay k ≤ d ∧ d < monthDay (k + 1) := by
  obtain ⟨hlow, hhigh⟩ := monthOfDay_spec d
  constructor
  · rintro rfl
    exact ⟨hlow, hhigh⟩
  · intro ⟨hk, hk'⟩
    have h := monthDay_lt_iff.1 (lt_of_le_of_lt hlow hk')
    have h' := monthDay_lt_iff.1 (lt_of_le_of_lt hk hhigh)
    omega

/-- **An instant is of the month it lies in**, and of no other. -/
theorem monthOf_eq {t : Int} : monthOf t = k ↔ monthStart k ≤ t ∧ t < monthStart (k + 1) := by
  unfold monthOf monthStart
  rw [monthOfDay_eq]
  constructor
  · rintro ⟨hlow, hhigh⟩
    constructor <;> omega
  · rintro ⟨hlow, hhigh⟩
    constructor <;> omega

theorem monthOf_mono {t t' : Int} (h : t ≤ t') : monthOf t ≤ monthOf t' := by
  have hlow := (monthOf_eq.1 (rfl : monthOf t = monthOf t)).1
  have hhigh := (monthOf_eq.1 (rfl : monthOf t' = monthOf t')).2
  have hdays : monthDay (monthOf t) < monthDay (monthOf t' + 1) := by
    unfold monthStart at hlow hhigh
    omega
  have := monthDay_lt_iff.1 hdays
  omega

/-- The 29 February 2024 is of the second month of its year. -/
example : yearMonth (monthOfDay 19782) = (2024, 1) := by decide

end Calendar
