import Mathlib.Logic.Function.Basic
import Atra.History
/-!
# SlidingWindow — so many hits in any while, and no more refusals than that

A caller's stored hits are the allowed ones past some cutoff that no later call looks behind.  So a call finds exactly the
allowed hits of its own window, and is refused when those are as many as the limit.  A window that ends between two calls
holds no more than the one that ends at the last call in it.
-/
namespace Atra

/-- A counter of hits in the last while, keyed by caller. -/
structure SlidingWindow (K : Type) where
  hits : K → List Int
  denials : K → Nat

namespace SlidingWindow

open History

variable {K : Type}

def fresh : SlidingWindow K := ⟨fun _ => [], fun _ => 0⟩

/-- The hits of a caller that still count. -/
def recent (w : SlidingWindow K) (windowMs : Int) (key : K) (now : Int) : List Int :=
  (w.hits key).filter fun t => now - windowMs < t

variable [DecidableEq K]

/-- Take a hit: whether it is allowed, and if not, how many were denied in a row. -/
def take (w : SlidingWindow K) (limit : Nat) (windowMs : Int) (key : K) (now : Int) : SlidingWindow K × Bool × Nat :=
  let hits := w.recent windowMs key now
  if hits.length < limit then
    (⟨Function.update w.hits key (hits ++ [now]), Function.update w.denials key 0⟩, true, 0)
  else
    (⟨Function.update w.hits key hits, Function.update w.denials key (w.denials key + 1)⟩, false, w.denials key + 1)

/-! ## Calls and their answers -/

structure Hit (K : Type) where
  key : K
  now : Int

/-- A call as it was answered. -/
structure Answer (K : Type) where
  key : K
  now : Int
  allowed : Bool
  denials : Nat

variable (limit : Nat) (windowMs : Int)

def takeStep (w : SlidingWindow K) (h : Hit K) : SlidingWindow K := (w.take limit windowMs h.key h.now).1

def answerOf (w : SlidingWindow K) (h : Hit K) : Answer K :=
  ⟨h.key, h.now, (w.take limit windowMs h.key h.now).2.1, (w.take limit windowMs h.key h.now).2.2⟩

/-- The answers of a run of calls, from a fresh limiter. -/
def answers (hs : List (Hit K)) : List (Answer K) :=
  collect (takeStep limit windowMs) (fun w h => [answerOf limit windowMs w h]) fresh hs

/-- The times of a caller's allowed calls. -/
def allowedTimes (key : K) (as : List (Answer K)) : List Int :=
  (as.filter fun a => a.key = key && a.allowed).map Answer.now

/-- The allowed calls of a caller in `(t - windowMs, t]`. -/
def allowedWithin (key : K) (t : Int) (as : List (Answer K)) : Nat :=
  ((allowedTimes key as).filter fun at' => t - windowMs < at' && at' ≤ t).length

/-- A caller's denied calls since its last allowed one. -/
def deniedInARow (key : K) (as : List (Answer K)) : Nat :=
  ((as.filter fun a => a.key = key).reverse.takeWhile fun a => !a.allowed).length

/-- What a limiter promises of the answers it gave. -/
structure Limits (as : List (Answer K)) : Prop where
  /-- No window of a caller has more allowed calls than the limit. -/
  bounded : ∀ key t, allowedWithin windowMs key t as ≤ limit
  /-- A call is denied exactly when the window that ends at it is full. -/
  exact : ∀ pre a post, as = pre ++ a :: post → (a.allowed = false ↔ allowedWithin windowMs a.key a.now pre = limit)
  counted : ∀ pre a post, as = pre ++ a :: post → a.denials = deniedInARow a.key (pre ++ [a])

/-! ## What is stored -/

variable {limit windowMs} {w : SlidingWindow K} {as : List (Answer K)} {a : Answer K} {key : K}

theorem allowedTimes_snoc : allowedTimes key (as ++ [a]) =
    allowedTimes key as ++ if a.key = key ∧ a.allowed = true then [a.now] else [] := by
  unfold allowedTimes
  rw [List.filter_append, List.map_append]
  by_cases h : a.key = key ∧ a.allowed = true
  · simp [h]
  · by_cases hkey : a.key = key
    · simp [hkey, Bool.eq_false_iff.2 fun ha => h ⟨hkey, ha⟩]
    · simp [hkey]

theorem allowedTimes_le {now : Int} (h : ∀ a ∈ as, a.now ≤ now) : ∀ t ∈ allowedTimes key as, t ≤ now := by
  intro t ht
  obtain ⟨a, ha, rfl⟩ := List.mem_map.1 ht
  exact h a (List.mem_filter.1 ha).1

theorem deniedInARow_snoc : deniedInARow key (as ++ [a]) =
    if a.key = key then if a.allowed then 0 else deniedInARow key as + 1 else deniedInARow key as := by
  unfold deniedInARow
  rw [List.filter_append]
  by_cases hkey : a.key = key
  · by_cases ha : a.allowed = true
    · simp [hkey, ha]
    · simp [hkey, ha]
  · simp [hkey]

variable (limit windowMs) in
/-- What a limiter has stored after the answers it gave: from any later time on, the allowed calls of each caller's window, and
the denials in a row. -/
structure Stored (as : List (Answer K)) (w : SlidingWindow K) : Prop where
  recent : ∀ key now, (∀ a ∈ as, a.now ≤ now) →
    w.recent windowMs key now = (allowedTimes key as).filter fun t => now - windowMs < t
  denials : ∀ key, w.denials key = deniedInARow key as

theorem stored_fresh : Stored windowMs [] (fresh : SlidingWindow K) := ⟨fun _ _ _ => rfl, fun _ => rfl⟩

/-- A call finds the allowed calls of its window. -/
theorem Stored.found (h : Stored windowMs as w) {now : Int} (hlast : ∀ a ∈ as, a.now ≤ now) :
    (w.recent windowMs key now).length = allowedWithin windowMs key now as := by
  rw [h.recent key now hlast]
  unfold allowedWithin
  congr 1
  refine List.filter_congr fun t ht => ?_
  simp [allowedTimes_le hlast t ht]

/-- Looking back from later on drops what an earlier look dropped. -/
theorem filter_recent {ts : List Int} {now now' : Int} (h : now ≤ now') :
    (ts.filter fun t => now - windowMs < t).filter (fun t => now' - windowMs < t) =
      ts.filter fun t => now' - windowMs < t := by
  rw [List.filter_filter]
  refine List.filter_congr fun t _ => ?_
  by_cases ht : now' - windowMs < t
  · simp [ht, (by omega : now - windowMs < t)]
  · simp [ht]

variable (windowMs w a) in
/-- A limiter that has stored an answer. -/
def store : SlidingWindow K :=
  ⟨Function.update w.hits a.key (w.recent windowMs a.key a.now ++ if a.allowed then [a.now] else []),
    Function.update w.denials a.key (if a.allowed then 0 else w.denials a.key + 1)⟩

theorem takeStep_eq (hit : Hit K) :
    takeStep limit windowMs w hit = w.store windowMs (answerOf limit windowMs w hit) := by
  unfold takeStep answerOf take store
  by_cases hroom : (w.recent windowMs hit.key hit.now).length < limit
  · simp [hroom]
  · simp [hroom]

/-- **An answer** leaves the store of the answers with it. -/
theorem Stored.store (h : Stored windowMs as w) (hlast : ∀ b ∈ as, b.now ≤ a.now) :
    Stored windowMs (as ++ [a]) (w.store windowMs a) := by
  constructor
  · intro key now hlater
    have hnow : a.now ≤ now := hlater a (List.mem_append_right _ List.mem_cons_self)
    have hbefore : ∀ b ∈ as, b.now ≤ now := fun b hb => Int.le_trans (hlast b hb) hnow
    rw [allowedTimes_snoc]
    by_cases hkey : a.key = key
    · subst hkey
      unfold SlidingWindow.store
      simp only [SlidingWindow.recent, Function.update_self, List.filter_append, filter_recent hnow]
      rw [← SlidingWindow.recent, h.recent a.key now hbefore]
      simp
    · rw [if_neg fun hc => hkey hc.1, List.append_nil, ← h.recent key now hbefore]
      unfold SlidingWindow.store
      simp only [SlidingWindow.recent, Function.update_of_ne (Ne.symm hkey)]
  · intro key
    rw [deniedInARow_snoc, ← h.denials key]
    unfold SlidingWindow.store
    by_cases hkey : a.key = key
    · subst hkey
      simp
    · simp [hkey, Function.update_of_ne (Ne.symm hkey)]

/-! ## Runs of calls -/

theorem answers_snoc (hs : List (Hit K)) (hit : Hit K) : answers limit windowMs (hs ++ [hit]) =
    answers limit windowMs hs ++ [answerOf limit windowMs (after (takeStep limit windowMs) fresh hs) hit] := by
  unfold answers
  rw [collect_snoc]

theorem now_of_mem_answers {hs : List (Hit K)} (h : a ∈ answers limit windowMs hs) : ∃ hit ∈ hs, hit.now = a.now := by
  induction hs using List.reverseRecOn with
  | nil => cases h
  | append_singleton hs hit ih =>
    rw [answers_snoc, List.mem_append, List.mem_singleton] at h
    rcases h with h | rfl
    · obtain ⟨hit', hmem, hnow⟩ := ih h
      exact ⟨hit', List.mem_append_left _ hmem, hnow⟩
    · exact ⟨hit, List.mem_append_right _ List.mem_cons_self, rfl⟩

/-- The calls are made in the order of their times. -/
def InOrder (hs : List (Hit K)) : Prop := hs.Pairwise fun a b => a.now ≤ b.now

theorem stored_answers {hs : List (Hit K)} (h : InOrder hs) :
    Stored windowMs (answers limit windowMs hs) (after (takeStep limit windowMs) fresh hs) := by
  induction hs using List.reverseRecOn with
  | nil => exact stored_fresh
  | append_singleton hs hit ih =>
    obtain ⟨hbefore, -, hlast⟩ := List.pairwise_append.1 h
    rw [answers_snoc, after_snoc, takeStep_eq]
    refine (ih hbefore).store fun a ha => ?_
    obtain ⟨hit', hmem, hnow⟩ := now_of_mem_answers ha
    rw [← hnow]
    exact hlast hit' hmem hit List.mem_cons_self

theorem allowedWithin_snoc (t : Int) : allowedWithin windowMs key t (as ++ [a]) = allowedWithin windowMs key t as +
    if a.key = key ∧ a.allowed = true ∧ t - windowMs < a.now ∧ a.now ≤ t then 1 else 0 := by
  unfold allowedWithin
  rw [allowedTimes_snoc, List.filter_append, List.length_append]
  congr 1
  by_cases h : a.key = key ∧ a.allowed = true
  · by_cases ht : t - windowMs < a.now ∧ a.now ≤ t
    · simp [h, ht]
    · rw [if_pos h, if_neg fun hc => ht hc.2.2]
      simpa using ht
  · rw [if_neg h, if_neg fun hc => h ⟨hc.1, hc.2.1⟩]
    rfl

/-- A window that ends later holds no more of what was there by then. -/
theorem allowedWithin_mono {now t : Int} (hlast : ∀ a ∈ as, a.now ≤ now) (h : now ≤ t) :
    allowedWithin windowMs key t as ≤ allowedWithin windowMs key now as := by
  unfold allowedWithin
  rw [← List.countP_eq_length_filter, ← List.countP_eq_length_filter]
  refine List.countP_mono_left fun at' hmem hat => ?_
  have hle := allowedTimes_le hlast at' hmem
  simp only [Bool.and_eq_true, decide_eq_true_eq] at hat ⊢
  omega

/-- **One more answer** within the limits. -/
theorem Limits.step (h : Limits limit windowMs as) (hs : Stored windowMs as w) {hit : Hit K}
    (hlast : ∀ a ∈ as, a.now ≤ hit.now) : Limits limit windowMs (as ++ [answerOf limit windowMs w hit]) := by
  have hfound : (w.recent windowMs hit.key hit.now).length = allowedWithin windowMs hit.key hit.now as := hs.found hlast
  have hroom : (answerOf limit windowMs w hit).allowed = true ↔ allowedWithin windowMs hit.key hit.now as < limit := by
    rw [← hfound]
    unfold answerOf take
    by_cases hlt : (w.recent windowMs hit.key hit.now).length < limit
    · simp [hlt]
    · simp [hlt]
  refine ⟨fun key t => ?_, forall_split_snoc h.exact ?_, forall_split_snoc h.counted ?_⟩
  · rw [allowedWithin_snoc]
    have hbefore := h.bounded key t
    split
    · rename_i hnew
      obtain ⟨hkey, hallowed, -, hle⟩ := hnew
      have hnow := @allowedWithin_mono K _ windowMs _ key _ _ hlast hle
      rw [← hkey] at hnow
      have := hroom.1 hallowed
      rw [← hkey]
      show allowedWithin windowMs hit.key t as + 1 ≤ limit
      exact Nat.lt_of_le_of_lt hnow this
    · exact hbefore
  · rw [Bool.eq_false_iff, Ne, hroom, Nat.not_lt]
    exact ⟨fun hge => Nat.le_antisymm (h.bounded _ _) hge, fun heq => Nat.le_of_eq heq.symm⟩
  · rw [deniedInARow_snoc, if_pos rfl, ← hs.denials]
    unfold answerOf take
    by_cases hlt : (w.recent windowMs hit.key hit.now).length < limit
    · simp [hlt]
    · simp [hlt]

/-- **A limiter keeps to its limit** in every window, refuses no more than that asks for, and counts its refusals. -/
theorem answers_limited (hs : List (Hit K)) (h : InOrder hs) : Limits limit windowMs (answers limit windowMs hs) := by
  induction hs using List.reverseRecOn with
  | nil =>
    exact ⟨fun _ _ => Nat.zero_le _, fun pre _ _ heq => absurd heq (by simp [answers, collect]),
      fun pre _ _ heq => absurd heq (by simp [answers, collect])⟩
  | append_singleton hs hit ih =>
    obtain ⟨hbefore, -, hlast⟩ := List.pairwise_append.1 h
    rw [answers_snoc]
    refine (ih hbefore).step (stored_answers hbefore) fun a ha => ?_
    obtain ⟨hit', hmem, hnow⟩ := now_of_mem_answers ha
    rw [← hnow]
    exact hlast hit' hmem hit List.mem_cons_self

theorem answers_limited_twice : Limits 1 60000 (answers 1 60000 [⟨"7", 0⟩, ⟨"7", 1⟩, ⟨"8", 1⟩, ⟨"7", 60000⟩]) :=
  answers_limited [⟨"7", 0⟩, ⟨"7", 1⟩, ⟨"8", 1⟩, ⟨"7", 60000⟩] (by unfold InOrder; decide)

end SlidingWindow
end Atra
