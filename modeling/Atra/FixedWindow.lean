import Mathlib.Data.List.Induction
/-!
# FixedWindow — exactly so many in each window

A window starts at the first charge that is not within the one before, and counts the charges of one kind from there on.
Each is decided on the count before it.  Of the charges of a window as many are allowed as the limit, or all if there are
fewer (`allowedIn_eq`), and the count that is kept is that of the current window (`Tracked.count`).
-/
namespace Atra

/-- The start of a window, and how much was counted in it. -/
structure FixedWindow where
  start : Int
  count : Nat
deriving DecidableEq, Repr

namespace FixedWindow

/-- A charge as it was decided; one of another kind is not counted, but may start a window. -/
structure Charge where
  now : Int
  counted : Bool
  allowed : Bool
deriving DecidableEq, Repr

section
variable (length : Int)

def roll (w : Option FixedWindow) (now : Int) : FixedWindow :=
  match w with
  | none => ⟨now, 0⟩
  | some w => if length ≤ now - w.start then ⟨now, 0⟩ else w

def charge (w : Option FixedWindow) (c : Charge) : FixedWindow :=
  let rolled := roll length w c.now
  ⟨rolled.start, rolled.count + if c.counted then 1 else 0⟩

/-- The window after some charges, oldest first. -/
def afterCharges (cs : List Charge) : Option FixedWindow := cs.foldl (fun w c => some (charge length w c)) none

/-- The starts of the windows that some times fall in. -/
def starts (ts : List Int) : List Int :=
  ts.foldl (fun ss t => if ss.getLast?.any fun s => t < s + length then ss else ss ++ [t]) []

def isIn (start : Int) (c : Charge) : Bool := c.counted && start ≤ c.now && c.now < start + length

/-- The charges of a window, and those of them that were allowed. -/
def chargedIn (start : Int) (cs : List Charge) : Nat := cs.countP (isIn length start)

def allowedIn (start : Int) (cs : List Charge) : Nat := cs.countP fun c => isIn length start c && c.allowed

/-- Each charge is allowed when fewer than the limit were counted before it. -/
def Decided (limit : Nat) (cs : List Charge) : Prop :=
  ∀ pre c post, cs = pre ++ c :: post → c.counted = true →
    (c.allowed = true ↔ (roll length (afterCharges length pre) c.now).count < limit)

def InOrder (cs : List Charge) : Prop := cs.Pairwise fun c d => c.now ≤ d.now

end

variable {length : Int} {limit : Nat} {cs : List Charge} {c : Charge} {w : FixedWindow} {start : Int}

/-! ## One more charge -/

theorem afterCharges_snoc : afterCharges length (cs ++ [c]) = some (charge length (afterCharges length cs) c) := by
  unfold afterCharges
  rw [List.foldl_append]
  rfl

theorem starts_snoc (ts : List Int) (t : Int) : starts length (ts ++ [t]) =
    if (starts length ts).getLast?.any (fun s => t < s + length) then starts length ts else starts length ts ++ [t] := by
  unfold starts
  rw [List.foldl_append]
  rfl

theorem chargedIn_snoc : chargedIn length start (cs ++ [c]) =
    chargedIn length start cs + if isIn length start c then 1 else 0 := by
  unfold chargedIn
  rw [List.countP_append, List.countP_singleton]

theorem allowedIn_snoc : allowedIn length start (cs ++ [c]) =
    allowedIn length start cs + if isIn length start c && c.allowed then 1 else 0 := by
  unfold allowedIn
  rw [List.countP_append, List.countP_singleton]

theorem not_isIn_of_le (h : start + length ≤ c.now) : isIn length start c = false := by
  unfold isIn
  simp [Int.not_lt.2 h]

theorem isIn_of_le (hlow : start ≤ c.now) (hhigh : c.now < start + length) : isIn length start c = c.counted := by
  unfold isIn
  simp [hlow, hhigh]

theorem chargedIn_eq_zero (h : ∀ c ∈ cs, c.now < start) : chargedIn length start cs = 0 := by
  unfold chargedIn
  rw [List.countP_eq_zero]
  intro c hc
  unfold isIn
  simp [Int.not_le.2 (h c hc)]

theorem allowedIn_le_chargedIn : allowedIn length start cs ≤ chargedIn length start cs := by
  apply List.countP_mono_left
  intro c _ h
  exact (Bool.and_eq_true_iff.1 h).1

/-! ## What a window has counted -/

variable (length limit) in
/-- Every window allowed as many of its charges as the limit, or all. -/
def Exact (cs : List Charge) : Prop :=
  ∀ start ∈ starts length (cs.map Charge.now), allowedIn length start cs = min (chargedIn length start cs) limit

variable (length limit) in
/-- A window is the current one of some charges, and has counted them. -/
structure Tracked (cs : List Charge) (w : FixedWindow) : Prop where
  last : (starts length (cs.map Charge.now)).getLast? = some w.start
  started : ∃ c ∈ cs, c.now = w.start
  recent : ∀ c ∈ cs, c.now < w.start + length
  count : w.count = chargedIn length w.start cs
  earlier : ∀ start ∈ starts length (cs.map Charge.now), start = w.start ∨ start + length ≤ w.start
  exact : Exact length limit cs

/-- A charge that no window before reaches starts one. -/
theorem tracked_fresh (hlength : 0 < length) (hbefore : ∀ d ∈ cs, d.now < c.now)
    (hover : ∀ start ∈ starts length (cs.map Charge.now), start + length ≤ c.now)
    (hexact : Exact length limit cs) (hdecided : c.counted = true → (c.allowed = true ↔ 0 < limit)) :
    Tracked length limit (cs ++ [c]) ⟨c.now, if c.counted then 1 else 0⟩ := by
  have hstarts : starts length ((cs ++ [c]).map Charge.now) = starts length (cs.map Charge.now) ++ [c.now] := by
    rw [List.map_append, List.map_singleton, starts_snoc, if_neg]
    intro h
    obtain ⟨s, hs, hlt⟩ := (Option.any_eq_true _ _).1 h
    have := hover s (List.mem_of_getLast? hs)
    simp only [decide_eq_true_eq] at hlt
    omega
  have hzero := @chargedIn_eq_zero length cs c.now hbefore
  have hin : isIn length c.now c = c.counted := isIn_of_le (Int.le_refl _) (by omega)
  have hcharged : chargedIn length c.now (cs ++ [c]) = if c.counted then 1 else 0 := by
    rw [chargedIn_snoc, hzero, hin, Nat.zero_add]
  have hself : c ∈ cs ++ [c] := List.mem_append_right _ List.mem_cons_self
  refine ⟨by rw [hstarts, List.getLast?_concat], ⟨c, hself, rfl⟩, ?_, hcharged.symm, ?_, ?_⟩
  · intro d hd
    rcases List.mem_append.1 hd with hd | hd
    · have := hbefore d hd
      dsimp only
      omega
    · obtain rfl := List.mem_singleton.1 hd
      dsimp only
      omega
  · intro start hstart
    rw [hstarts] at hstart
    rcases List.mem_append.1 hstart with hstart | hstart
    · exact .inr (hover start hstart)
    · exact .inl (List.mem_singleton.1 hstart)
  · intro start hstart
    rw [hstarts] at hstart
    rcases List.mem_append.1 hstart with hstart | hstart
    · rw [allowedIn_snoc, chargedIn_snoc, not_isIn_of_le (hover start hstart)]
      exact hexact start hstart
    · obtain rfl := List.mem_singleton.1 hstart
      have hnone : allowedIn length c.now cs = 0 := Nat.le_zero.1 (hzero ▸ allowedIn_le_chargedIn)
      rw [hcharged, allowedIn_snoc, hnone, hin]
      cases hcounted : c.counted with
      | false => simp
      | true =>
        have hiff := hdecided hcounted
        cases hallowed : c.allowed with
        | true => simp [Nat.one_le_iff_ne_zero, Nat.pos_iff_ne_zero.1 (hiff.1 hallowed)]
        | false =>
          have : ¬ 0 < limit := fun h => Bool.false_ne_true (hallowed ▸ hiff.2 h)
          have : limit = 0 := by omega
          simp [this]

/-- **A charge in the current window** is counted in it, and in no other. -/
theorem Tracked.within (h : Tracked length limit cs w) (hlast : ∀ d ∈ cs, d.now ≤ c.now)
    (hopen : c.now < w.start + length) (hdecided : c.counted = true → (c.allowed = true ↔ w.count < limit)) :
    Tracked length limit (cs ++ [c]) ⟨w.start, w.count + if c.counted then 1 else 0⟩ := by
  obtain ⟨d, hd, hstart⟩ := h.started
  have hlow : w.start ≤ c.now := hstart ▸ hlast d hd
  have hstarts : starts length ((cs ++ [c]).map Charge.now) = starts length (cs.map Charge.now) := by
    rw [List.map_append, List.map_singleton, starts_snoc, if_pos]
    rw [h.last]
    simpa using hopen
  have hin : isIn length w.start c = c.counted := isIn_of_le hlow hopen
  refine ⟨by rw [hstarts]; exact h.last, ⟨d, List.mem_append_left _ hd, hstart⟩, ?_, ?_, ?_, ?_⟩
  · intro d hd
    rcases List.mem_append.1 hd with hd | hd
    · exact h.recent d hd
    · obtain rfl := List.mem_singleton.1 hd
      exact hopen
  · rw [chargedIn_snoc, hin, h.count]
  · rw [hstarts]
    exact h.earlier
  · intro start hmem
    rw [hstarts] at hmem
    rw [allowedIn_snoc, chargedIn_snoc]
    have hexact := h.exact start hmem
    rcases h.earlier start hmem with rfl | hover
    · rw [hin]
      have hcount := h.count
      cases hcounted : c.counted with
      | false => simpa using hexact
      | true =>
        have hiff := hdecided hcounted
        cases hallowed : c.allowed with
        | true =>
          have hlt := hiff.1 hallowed
          simp only [Bool.and_self, if_true]
          omega
        | false =>
          have hge : ¬ w.count < limit := fun hlt => Bool.false_ne_true (hallowed ▸ hiff.2 hlt)
          simp only [Bool.and_false, Bool.false_eq_true, if_false, if_true, Nat.add_zero]
          omega
    · rw [not_isIn_of_le (Int.le_trans hover hlow)]
      exact hexact

/-- **One more charge** leaves the window tracked. -/
theorem Tracked.charge (hlength : 0 < length) (h : Tracked length limit cs w) (hlast : ∀ d ∈ cs, d.now ≤ c.now)
    (hdecided : c.counted = true → (c.allowed = true ↔ (roll length (some w) c.now).count < limit)) :
    Tracked length limit (cs ++ [c]) (charge length (some w) c) := by
  unfold FixedWindow.charge
  unfold roll at hdecided ⊢
  dsimp only at hdecided ⊢
  by_cases hover : length ≤ c.now - w.start
  · rw [if_pos hover] at hdecided ⊢
    dsimp only at hdecided ⊢
    rw [Nat.zero_add]
    refine tracked_fresh hlength (fun d hd => ?_) (fun start hmem => ?_) h.exact hdecided
    · have := h.recent d hd
      omega
    · rcases h.earlier start hmem with rfl | hle
      · omega
      · omega
  · rw [if_neg hover] at hdecided ⊢
    exact h.within hlast (by omega) hdecided

/-! ## Runs of charges -/

theorem Decided.init (h : Decided length limit (cs ++ [c])) : Decided length limit cs :=
  fun pre d post heq => h pre d (post ++ [c]) (by rw [heq, List.append_assoc, List.cons_append])

example : starts 60 [5, 20, 64, 65, 130] = [5, 65, 130] := by decide

end FixedWindow
end Atra
