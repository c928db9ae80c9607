import Atra.Rounding
import Mathlib.Tactic.Ring
/-!
# ProRata — shares of a reserve

`worth k r s` is what `k` of `s` shares return of a reserve `r`, rounded down.  Shares issued for at most their part of a
deposit return no more than it (`worth_issued_le`), nobody's worth falls when the reserve per share does not (`worth_mono`), and
redeeming in parts returns no more than redeeming at once (`redeem_le`).
-/
namespace ProRata

def worth (shares reserve supply : Int) : Int := Rounding.down (shares * reserve) supply

variable {k k' a l r r' s s' : Int}

/-- **The rounded share is the greatest amount within the exact one.** -/
theorem le_worth_iff (hs : 0 < s) : a ≤ worth k r s ↔ a * s ≤ k * r := Rounding.le_down_iff hs

theorem worth_mul_le (hs : 0 < s) : worth k r s * s ≤ k * r := (le_worth_iff hs).1 (Int.le_refl _)

theorem worth_nonneg (hk : 0 ≤ k) (hr : 0 ≤ r) (hs : 0 < s) : 0 ≤ worth k r s :=
  Rounding.down_nonneg hs (Int.mul_nonneg hk hr)

theorem worth_le_reserve (hr : 0 ≤ r) (hs : 0 < s) (hks : k ≤ s) : worth k r s ≤ r := by
  have h1 := worth_mul_le (k := k) (r := r) hs
  have h2 : k * r ≤ r * s := by
    rw [Int.mul_comm r s]
    exact Int.mul_le_mul_of_nonneg_right hks hr
  exact Int.le_of_mul_le_mul_right (Int.le_trans h1 h2) hs

@[simp] theorem worth_zero (r s : Int) : worth 0 r s = 0 := by simp [worth, Rounding.down]

theorem left_nonneg (hr : 0 ≤ r) (hk : 0 ≤ k) (hks : k ≤ s) : 0 ≤ r - worth k r s := by
  rcases hk.eq_or_lt with rfl | hpos
  · rw [worth_zero]
    omega
  · have := worth_le_reserve hr (show 0 < s by omega) hks
    omega

/-- Shares issued for at most their part of a deposit return at most the deposit. -/
theorem worth_issued_le (hs : 0 < s) (hl : 0 ≤ l) (h : l * r ≤ a * s) : worth l (r + a) (s + l) ≤ a := by
  have hpos : 0 < s + l := by omega
  have h1 := worth_mul_le (k := l) (r := r + a) hpos
  have h2 : l * (r + a) ≤ a * (s + l) := by
    rw [Int.mul_add, Int.mul_add, Int.mul_comm l a]
    omega
  exact Int.le_of_mul_le_mul_right (Int.le_trans h1 h2) hpos

/-- **Nobody's worth falls when the reserve per share does not.** -/
theorem worth_mono (hk : 0 ≤ k) (hs : 0 < s) (hs' : 0 < s') (h : r * s' ≤ r' * s) : worth k r s ≤ worth k r' s' := by
  rw [le_worth_iff hs']
  have h1 := Int.mul_le_mul_of_nonneg_right (worth_mul_le (k := k) (r := r) hs) hs'.le
  have h2 := Int.mul_le_mul_of_nonneg_left h hk
  apply Int.le_of_mul_le_mul_right _ hs
  calc worth k r s * s' * s = worth k r s * s * s' := by ring
    _ ≤ k * r * s' := h1
    _ = k * (r * s') := by ring
    _ ≤ k * (r' * s) := h2
    _ = k * r' * s := by ring

/-- The reserve per share does not fall when shares are issued for at most their part of a deposit. -/
theorem issued_ratio (h : l * r ≤ a * s) : r * (s + l) ≤ (r + a) * s := by
  rw [Int.mul_add, Int.add_mul, Int.mul_comm r l]
  omega

/-- The reserve per share does not fall when shares are redeemed: what they leave behind is rounded up. -/
theorem redeemed_ratio (hs : 0 < s) : r * (s - k) ≤ (r - worth k r s) * s := by
  have h := worth_mul_le (k := k) (r := r) hs
  rw [Int.mul_sub, Int.sub_mul, Int.mul_comm r k]
  omega

theorem worth_add_le (hs : 0 < s) (hk : k < s) (hkk : k + k' ≤ s) :
    worth k r s + worth k' (r - worth k r s) (s - k) ≤ worth (k + k') r s := by
  rw [le_worth_iff hs]
  have hpos : 0 < s - k := by omega
  have hfirst := worth_mul_le (k := k) (r := r) hs
  have hsecond := worth_mul_le (k := k') (r := r - worth k r s) hpos
  generalize worth k r s = x at *
  generalize worth k' (r - x) (s - k) = y at *
  -- what the first redemption left behind is shared by all that remain, and `k'` of them are redeemed
  have hleft : 0 ≤ (k * r - x * s) * (s - k - k') := Int.mul_nonneg (by omega) (by omega)
  have hscaled := Int.mul_le_mul_of_nonneg_right hsecond hs.le
  apply Int.le_of_mul_le_mul_right _ hpos
  have e1 : (x + y) * s * (s - k) = x * s * (s - k) + y * (s - k) * s := by ring
  have e2 : (k + k') * r * (s - k) = x * s * (s - k) + k' * (r - x) * s + (k * r - x * s) * (s - k - k') := by ring
  omega

/-! ## Redeeming in parts -/

/-- What redeeming shares one after the other returns, each at the reserve and supply the last one left. -/
def redeem : List Int → Int → Int → Int
  | [], _, _ => 0
  | k :: ks, r, s => worth k r s + redeem ks (r - worth k r s) (s - k)

theorem redeem_all_zero {ks : List Int} (h : ∀ k ∈ ks, k = 0) (r s : Int) : redeem ks r s = 0 := by
  induction ks generalizing r s with
  | nil => rfl
  | cons k ks ih =>
    rw [List.forall_mem_cons] at h
    obtain ⟨rfl, h⟩ := h
    rw [redeem, ih h, worth_zero, Int.add_zero]

/-- **Redeeming in parts returns no more than redeeming at once.** -/
theorem redeem_le {ks : List Int} (hks : ∀ k ∈ ks, 0 ≤ k) (hs : 0 < s) (hsum : ks.sum ≤ s) (hr : 0 ≤ r) :
    redeem ks r s ≤ worth ks.sum r s := by
  induction ks generalizing r s with
  | nil => simp [redeem]
  | cons k ks ih =>
    rw [List.forall_mem_cons] at hks
    rw [List.sum_cons] at hsum ⊢
    have hrest : 0 ≤ ks.sum := List.sum_nonneg hks.2
    rw [redeem]
    rcases lt_or_ge k s with hlt | hge
    · have hleft := left_nonneg hr hks.1 (show k ≤ s by omega)
      have hle := ih (r := r - worth k r s) hks.2 (show 0 < s - k by omega) (by omega) hleft
      have htwo := worth_add_le (r := r) hs hlt hsum
      omega
    · -- the first part is the whole supply, and the other parts are empty
      have hzero : ∀ x ∈ ks, x = 0 := by
        intro x hx
        have h1 := List.single_le_sum hks.2 x hx
        have h2 := hks.2 x hx
        omega
      have hnone : ks.sum = 0 := by omega
      rw [redeem_all_zero hzero, hnone, Int.add_zero, Int.add_zero]

end ProRata
