import Mathlib.Data.List.Basic
import Mathlib.Algebra.Order.Group.Int
import Mathlib.Algebra.Order.Group.Nat
import Mathlib.Tactic.Push
/-!
# Lockout — a sliding count of charges that locks at its limit

The charges of the last `window` are kept; the charge that takes them to `limit` sets a lock of `lock` and starts the count
anew.  As long as charges come at the present time and none while a lock stands, every half-open stretch of `lock` holds at
most `limit` of them, and every half-open stretch of `window` that holds `limit` of them holds a lock.  `Tracked` is what is
known on the way: the charges fall into old ones, behind a lock that has passed, and new ones, which are still counted.
-/
namespace Lockout

structure Policy where
  limit : Nat
  window : Int
  lock : Int
  limit_pos : 0 < limit
  lock_nonneg : 0 ≤ lock
  lock_le : lock ≤ window

def stretch (times : List Int) (start length : Int) : List Int := times.filter fun a => start ≤ a && a < start + length

theorem stretch_snoc (times : List Int) (now start length : Int) :
    stretch (times ++ [now]) start length =
      stretch times start length ++ if start ≤ now && now < start + length then [now] else [] := by
  unfold stretch
  rw [List.filter_append, List.filter_cons, List.filter_nil]

/-- The charges that are still counted. -/
def recent (p : Policy) (times : List Int) (now : Int) : List Int := times.filter fun a => now - a < p.window

/-- What is known of the charges and the locks so far, where the next charge comes at or after `barrier`. -/
structure Tracked (p : Policy) (failures : List Int) (barrier now : Int) (charges locks : List Int) : Prop where
  few : failures.length < p.limit
  past : ∀ a ∈ charges, a ≤ now
  kept : ∃ old new, charges = old ++ new ∧ (∀ a ∈ old, ∃ s ∈ locks, a ≤ s ∧ s + p.lock ≤ barrier) ∧
    (recent p new now).Sublist failures
  bounded : ∀ start, (stretch charges start p.lock).length ≤ p.limit
  locked : ∀ start, p.limit ≤ (stretch charges start p.window).length → ∃ s ∈ locks, start ≤ s ∧ s < start + p.window

variable {p : Policy} {failures charges locks : List Int} {barrier now : Int}

theorem tracked_start (h : failures.length < p.limit) : Tracked p failures barrier now [] [] where
  few := h
  past := fun _ h => absurd h List.not_mem_nil
  kept := ⟨[], [], rfl, fun _ h => absurd h List.not_mem_nil, List.nil_sublist _⟩
  bounded := fun _ => Nat.zero_le _
  locked := fun _ h => absurd (lt_of_lt_of_le p.limit_pos h) (lt_irrefl 0)

/-- Charges drop out of the count, and none comes back. -/
theorem recent_recent {now' : Int} (hnow : now ≤ now') (times : List Int) :
    recent p (recent p times now) now' = recent p times now' := by
  unfold recent
  rw [List.filter_filter]
  apply List.filter_congr
  intro a _
  rw [Bool.eq_iff_iff]
  simp only [Bool.and_eq_true, decide_eq_true_eq]
  omega

theorem recent_sublist {now' : Int} (hnow : now ≤ now') {times : List Int} (h : (recent p times now).Sublist failures) :
    (recent p times now').Sublist (recent p failures now') := by
  rw [← recent_recent hnow]
  exact h.filter _

theorem Tracked.later (h : Tracked p failures barrier now charges locks) {barrier' now' : Int} (hb : barrier ≤ barrier')
    (hnow : now ≤ now') : Tracked p failures barrier' now' charges locks := by
  obtain ⟨old, new, heq, hold, hnew⟩ := h.kept
  refine ⟨h.few, fun a ha => (h.past a ha).trans hnow, ⟨old, new, heq, fun a ha => ?_, ?_⟩, h.bounded, h.locked⟩
  · obtain ⟨s, hs, has, hsb⟩ := hold a ha
    exact ⟨s, hs, has, hsb.trans hb⟩
  · exact (recent_sublist hnow hnew).trans List.filter_sublist

/-- **A stretch that ends now** holds the new charges only, and those are counted. -/
theorem Tracked.stretch_le (h : Tracked p failures barrier now charges locks) (hb : barrier ≤ now) {start length : Int}
    (hlength : length ≤ p.window) (hstart : now < start + length)
    (hlocks : ∀ s ∈ locks, s + p.lock ≤ now → s < start) :
    (stretch charges start length).length ≤ (recent p failures now).length := by
  obtain ⟨old, new, rfl, hold, hnew⟩ := h.kept
  have hnone : stretch old start length = [] := by
    apply List.filter_eq_nil_iff.2
    intro a ha hin
    obtain ⟨s, hs, has, hsb⟩ := hold a ha
    have hlt := hlocks s hs (hsb.trans hb)
    simp only [Bool.and_eq_true, decide_eq_true_eq] at hin
    omega
  have hcounted : (stretch new start length).Sublist (recent p new now) := by
    apply List.monotone_filter_right
    intro a ha
    simp only [Bool.and_eq_true, decide_eq_true_eq] at ha ⊢
    omega
  have happ : stretch (old ++ new) start length = stretch new start length := by
    have hfilter : stretch (old ++ new) start length = stretch old start length ++ stretch new start length :=
      List.filter_append _ _
    rw [hfilter, hnone, List.nil_append]
  rw [happ]
  exact (hcounted.trans (recent_sublist (le_refl now) hnew)).length_le

theorem Tracked.bounded_snoc (h : Tracked p failures barrier now charges locks) (hb : barrier ≤ now) (start : Int) :
    (stretch (charges ++ [now]) start p.lock).length ≤ p.limit := by
  rw [stretch_snoc, List.length_append]
  by_cases hin : (start ≤ now && now < start + p.lock) = true
  · rw [if_pos hin]
    simp only [Bool.and_eq_true, decide_eq_true_eq] at hin
    have hle := h.stretch_le hb p.lock_le hin.2 fun s _ hs => by omega
    have hfew := h.few
    have hrecent : (recent p failures now).length ≤ failures.length := List.length_filter_le _ _
    rw [List.length_singleton]
    omega
  · rw [if_neg hin]
    exact h.bounded start

/-- **A charge below the limit** is counted. -/
theorem Tracked.charge (h : Tracked p failures barrier now charges locks) (hb : barrier ≤ now)
    (hfew : (recent p failures now).length + 1 < p.limit) :
    Tracked p (recent p failures now ++ [now]) barrier now (charges ++ [now]) locks where
  few := by rwa [List.length_append, List.length_singleton]
  past := by
    intro a ha
    rcases List.mem_append.1 ha with ha | ha
    · exact h.past a ha
    · exact (List.mem_singleton.1 ha).le
  kept := by
    obtain ⟨old, new, heq, hold, hnew⟩ := h.kept
    refine ⟨old, new ++ [now], by rw [heq, List.append_assoc], hold, ?_⟩
    have hsub := recent_sublist (le_refl now) hnew
    have happ : recent p (new ++ [now]) now = recent p new now ++ recent p [now] now := List.filter_append _ _
    rw [happ]
    exact hsub.append List.filter_sublist
  bounded := h.bounded_snoc hb
  locked := by
    intro start hfull
    rw [stretch_snoc, List.length_append] at hfull
    by_cases hin : (start ≤ now && now < start + p.window) = true
    · rw [if_pos hin, List.length_singleton] at hfull
      simp only [Bool.and_eq_true, decide_eq_true_eq] at hin
      by_contra hno
      push Not at hno
      have hnonneg := p.lock_nonneg
      have hle := h.stretch_le hb (le_refl _) hin.2 fun s hs hsn => by
        by_contra hge
        exact absurd (hno s hs (by omega)) (by omega)
      omega
    · rw [if_neg hin] at hfull
      exact h.locked start hfull

/-- **A charge at the limit** locks, whether or not it goes on itself. -/
theorem Tracked.lock (h : Tracked p failures barrier now charges locks) (hb : barrier ≤ now) {more : List Int}
    (hmore : more = [] ∨ more = [now]) : Tracked p [] (now + p.lock) now (charges ++ more) (locks ++ [now]) where
  few := p.limit_pos
  past := by
    intro a ha
    rcases List.mem_append.1 ha with ha | ha
    · exact h.past a ha
    · rcases hmore with rfl | rfl
      · cases ha
      · exact (List.mem_singleton.1 ha).le
  kept := by
    refine ⟨charges ++ more, [], (List.append_nil _).symm, fun a ha => ⟨now, by simp, ?_, le_refl _⟩, List.nil_sublist _⟩
    rcases List.mem_append.1 ha with ha | ha
    · exact h.past a ha
    · rcases hmore with rfl | rfl
      · cases ha
      · exact (List.mem_singleton.1 ha).le
  bounded := by
    intro start
    rcases hmore with rfl | rfl
    · rw [List.append_nil]
      exact h.bounded start
    · exact h.bounded_snoc hb start
  locked := by
    intro start hfull
    by_cases hin : (start ≤ now && now < start + p.window) = true
    · simp only [Bool.and_eq_true, decide_eq_true_eq] at hin
      exact ⟨now, by simp, hin⟩
    · have hsame : stretch (charges ++ more) start p.window = stretch charges start p.window := by
        rcases hmore with rfl | rfl
        · rw [List.append_nil]
        · rw [stretch_snoc, if_neg hin, List.append_nil]
      rw [hsame] at hfull
      obtain ⟨s, hs, hwhere⟩ := h.locked start hfull
      exact ⟨s, List.mem_append_left _ hs, hwhere⟩

end Lockout
