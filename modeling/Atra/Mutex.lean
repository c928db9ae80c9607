import Atra.History
import Mathlib.Algebra.Order.Group.Nat
/-!
# Mutex — the runtime's cycle lock

`AsyncMutex.run` waits on the tail of a chain of promises and becomes the new tail; its `finally` resolves the promise it put
there.  The calls are numbered in the order they are made.  In every state the first ones are through, at most one more body
has started, and the others wait (`Progress`); from it come mutual exclusion, the order of the bodies and the hand-over.
-/
namespace Atra
namespace Mutex

open History

/-- A promise of the chain: the resolved one it begins with, or the one that a call put there. -/
inductive Promise where
  | resolved
  | of (call : Nat)
deriving DecidableEq, Repr

/-- Where a call of `run` stands: it waits for its turn, its body runs, the body has settled, `finally` has released the
lock and the call itself has settled. -/
inductive Phase (α ε : Type) where
  | waiting
  | running
  | settled (result : Except ε α)
  | released (result : Except ε α)

structure Call (α ε : Type) where
  previous : Promise
  phase : Phase α ε

structure AsyncMutex (α ε : Type) where
  tail : Promise
  calls : List (Call α ε)

/-- A call of `run`, and what the event loop does with one: it goes on behind its promise, its body settles, it goes on
behind its body. -/
inductive Event (α ε : Type) where
  | run
  | resume (i : Nat)
  | settle (i : Nat) (result : Except ε α)
  | unwind (i : Nat)

section
variable {α ε : Type}

def fresh : AsyncMutex α ε := ⟨.resolved, []⟩

def phaseOf (m : AsyncMutex α ε) (i : Nat) : Option (Phase α ε) := (m.calls[i]?).map Call.phase

def setPhase (m : AsyncMutex α ε) (i : Nat) (phase : Phase α ε) : AsyncMutex α ε :=
  { m with calls := m.calls.modify i fun c => { c with phase } }

/-- A promise of the chain is resolved by the `finally` of its call. -/
def isResolved (m : AsyncMutex α ε) : Promise → Bool
  | .resolved => true
  | .of i => match phaseOf m i with
    | some (.released _) => true
    | _ => false

/-- A call waits, and its promise is resolved. -/
def canResume (m : AsyncMutex α ε) (i : Nat) : Bool :=
  match m.calls[i]? with
  | some ⟨previous, .waiting⟩ => isResolved m previous
  | _ => false

def step (m : AsyncMutex α ε) : Event α ε → AsyncMutex α ε
  | .run => ⟨.of m.calls.length, m.calls ++ [⟨m.tail, .waiting⟩]⟩
  | .resume i => if canResume m i then setPhase m i .running else m
  | .settle i result => match phaseOf m i with
    | some .running => setPhase m i (.settled result)
    | _ => m
  | .unwind i => match phaseOf m i with
    | some (.settled result) => setPhase m i (.released result)
    | _ => m

def ran (es : List (Event α ε)) : AsyncMutex α ε := after step fresh es

def starts (m : AsyncMutex α ε) : Event α ε → List Nat
  | .resume i => if canResume m i then [i] else []
  | _ => []

/-- A body has settled, whether or not its call has gone on. -/
def hasSettled (m : AsyncMutex α ε) (i : Nat) : Prop :=
  ∃ result, phaseOf m i = some (.settled result) ∨ phaseOf m i = some (.released result)

/-! ## The chain -/

/-- The promise a call waits on: its predecessor's. -/
def behind : Nat → Promise
  | 0 => .resolved
  | i + 1 => .of i

/-- The first `n` bodies have started, all but the last of them are through, and the other calls wait. -/
structure Progress (m : AsyncMutex α ε) (n : Nat) : Prop where
  tail : m.tail = behind m.calls.length
  previous : ∀ i c, m.calls[i]? = some c → c.previous = behind i
  started : n ≤ m.calls.length
  waiting : ∀ i, phaseOf m i = some .waiting ↔ n ≤ i ∧ i < m.calls.length
  released : ∀ i, i + 1 < n → ∃ result, phaseOf m i = some (.released result)

variable {m : AsyncMutex α ε} {i n : Nat}

theorem phaseOf_setPhase (m : AsyncMutex α ε) (i j : Nat) (phase : Phase α ε) :
    phaseOf (setPhase m i phase) j = if i = j then (phaseOf m j).map fun _ => phase else phaseOf m j := by
  unfold phaseOf setPhase
  dsimp only
  rw [List.getElem?_modify]
  cases m.calls[j]? with
  | none => simp
  | some c => by_cases h : i = j <;> simp [h]

theorem lt_of_phaseOf {phase : Phase α ε} (h : phaseOf m i = some phase) : i < m.calls.length := by
  obtain ⟨c, hc, -⟩ := Option.map_eq_some_iff.1 h
  exact (List.getElem?_eq_some_iff.1 hc).1

theorem Progress.previous_setPhase (h : Progress m n) (i : Nat) (phase : Phase α ε) :
    ∀ j c, (setPhase m i phase).calls[j]? = some c → c.previous = behind j := by
  intro j c hc
  unfold setPhase at hc
  dsimp only at hc
  rw [List.getElem?_modify] at hc
  obtain ⟨c₀, hc₀, rfl⟩ := Option.map_eq_some_iff.1 hc
  by_cases hij : i = j
  · rw [if_pos hij]
    exact h.previous j c₀ hc₀
  · rw [if_neg hij]
    exact h.previous j c₀ hc₀

theorem Progress.setPhase_started (h : Progress m n) {phase₀ phase : Phase α ε} (hphase : phaseOf m i = some phase₀)
    (h₀ : phase₀ ≠ .waiting) (h₁ : phase ≠ .waiting)
    (hkeep : ∀ result, phase₀ = .released result → phase = .released result) : Progress (setPhase m i phase) n := by
  have hlength : (setPhase m i phase).calls.length = m.calls.length := List.length_modify ..
  refine ⟨by rw [hlength]; exact h.tail, h.previous_setPhase i phase, by rw [hlength]; exact h.started, fun j => ?_, fun j hj => ?_⟩
  · rw [phaseOf_setPhase, hlength]
    by_cases hij : i = j
    · subst hij
      rw [if_pos rfl, hphase]
      have hno : ¬ (n ≤ i ∧ i < m.calls.length) := fun hw => h₀ (Option.some.inj (hphase.symm.trans ((h.waiting i).2 hw)))
      exact ⟨fun hw => (h₁ (Option.some.inj hw)).elim, fun hw => (hno hw).elim⟩
    · rw [if_neg hij]
      exact h.waiting j
  · obtain ⟨result, hr⟩ := h.released j hj
    rw [phaseOf_setPhase]
    by_cases hij : i = j
    · subst hij
      rw [hphase] at hr
      exact ⟨result, by rw [if_pos rfl, hphase, hkeep result (Option.some.inj hr)]; rfl⟩
    · exact ⟨result, by rw [if_neg hij]; exact hr⟩

/-- **The call whose turn it is** is the first that waits, and every body before it has released the lock. -/
theorem Progress.canResume_iff (h : Progress m n) :
    canResume m i = true ↔ i = n ∧ i < m.calls.length ∧ isResolved m (behind i) = true := by
  unfold canResume
  cases hc : m.calls[i]? with
  | none =>
    have hle := List.getElem?_eq_none_iff.1 hc
    constructor
    · intro hf
      cases hf
    · rintro ⟨-, hlt, -⟩
      omega
  | some c =>
    have hprev := h.previous i c hc
    have hlt := (List.getElem?_eq_some_iff.1 hc).1
    rcases c with ⟨previous, phase⟩
    dsimp only at hprev
    subst hprev
    have hphase : phaseOf m i = some phase := by
      unfold phaseOf
      rw [hc]
      rfl
    cases phase with
    | waiting =>
      dsimp only
      have hn := ((h.waiting i).1 hphase).1
      refine ⟨fun hr => ⟨?_, hlt, hr⟩, fun hr => hr.2.2⟩
      -- the predecessor's body has started, so it is one of the first
      cases i with
      | zero => omega
      | succ j =>
        by_contra hne
        have hwaits := (h.waiting j).2 ⟨by omega, by omega⟩
        unfold isResolved behind at hr
        dsimp only at hr
        rw [hwaits] at hr
        cases hr
    | running | settled | released =>
      refine ⟨fun hf => (Bool.false_ne_true hf).elim, fun hi => ?_⟩
      have hwaits := (h.waiting i).2 ⟨hi.1.ge, hlt⟩
      rw [hphase] at hwaits
      cases hwaits

theorem phaseOf_run (m : AsyncMutex α ε) (i : Nat) :
    phaseOf (step m .run) i = if i = m.calls.length then some .waiting else phaseOf m i := by
  unfold phaseOf step
  dsimp only
  by_cases h : i < m.calls.length
  · rw [List.getElem?_append_left h, if_neg h.ne]
  · by_cases heq : i = m.calls.length
    · subst heq
      rw [List.getElem?_concat_length, if_pos rfl]
      rfl
    · rw [if_neg heq, List.getElem?_eq_none (by rw [List.length_append, List.length_singleton]; omega),
        List.getElem?_eq_none (by omega)]

theorem Progress.run (h : Progress m n) : Progress (step m .run) n := by
  have hlength : (Mutex.step m .run).calls.length = m.calls.length + 1 := List.length_append ..
  refine ⟨?_, fun i c hc => ?_, ?_, fun i => ?_, fun i hi => ?_⟩
  · rw [hlength]
    rfl
  · by_cases hi : i < m.calls.length
    · exact h.previous i c (List.getElem?_append_left hi ▸ hc)
    · have heq : i = m.calls.length := by
        have hlt := (List.getElem?_eq_some_iff.1 hc).1
        omega
      subst heq
      obtain rfl := Option.some.inj (List.getElem?_concat_length.symm.trans hc)
      exact h.tail
  · rw [hlength]
    exact h.started.trans (Nat.le_succ _)
  · rw [phaseOf_run, hlength]
    have hstarted := h.started
    by_cases heq : i = m.calls.length
    · rw [if_pos heq]
      exact ⟨fun _ => ⟨by omega, by omega⟩, fun _ => rfl⟩
    · rw [if_neg heq, h.waiting i]
      omega
  · have hstarted := h.started
    rw [phaseOf_run, if_neg (by omega)]
    exact h.released i hi

/-- The first call that waits, with its promise resolved, starts its body. -/
theorem Progress.resume (h : Progress m n) (hn : n < m.calls.length) (hresolved : isResolved m (behind n) = true) :
    Progress (setPhase m n .running) (n + 1) := by
  have hlength : (setPhase m n .running).calls.length = m.calls.length := List.length_modify ..
  have hwaits := (h.waiting n).2 ⟨le_refl n, hn⟩
  refine ⟨by rw [hlength]; exact h.tail, h.previous_setPhase n .running, by rw [hlength]; exact hn, fun j => ?_, fun j hj => ?_⟩
  · rw [phaseOf_setPhase, hlength]
    by_cases hj : n = j
    · subst hj
      rw [if_pos rfl, hwaits]
      refine ⟨fun hw => ?_, fun hw => ?_⟩
      · cases hw
      · omega
    · rw [if_neg hj, h.waiting j]
      omega
  · rw [phaseOf_setPhase, if_neg (by omega)]
    by_cases hlast : j + 1 = n
    · subst hlast
      unfold isResolved behind at hresolved
      dsimp only at hresolved
      cases hp : phaseOf m j with
      | none =>
        rw [hp] at hresolved
        cases hresolved
      | some phase =>
        rw [hp] at hresolved
        cases phase with
        | released result => exact ⟨result, rfl⟩
        | waiting => cases hresolved
        | running => cases hresolved
        | settled result => cases hresolved
    · exact h.released j (by omega)

/-- **What a step does to the chain.** -/
theorem Progress.step (h : Progress m n) (e : Event α ε) :
    (starts m e = [] ∧ Progress (step m e) n) ∨ (starts m e = [n] ∧ Progress (step m e) (n + 1)) := by
  cases e with
  | run => exact .inl ⟨rfl, h.run⟩
  | resume i =>
    unfold starts Mutex.step
    dsimp only
    by_cases hcan : canResume m i = true
    · obtain ⟨rfl, hi, hresolved⟩ := h.canResume_iff.1 hcan
      rw [if_pos hcan, if_pos hcan]
      exact .inr ⟨rfl, h.resume hi hresolved⟩
    · rw [if_neg hcan, if_neg hcan]
      exact .inl ⟨rfl, h⟩
  | settle i result =>
    refine .inl ⟨rfl, ?_⟩
    unfold Mutex.step
    dsimp only
    split
    · rename_i hp
      exact h.setPhase_started hp (by simp) (by simp) (by simp)
    · exact h
  | unwind i =>
    refine .inl ⟨rfl, ?_⟩
    unfold Mutex.step
    dsimp only
    split
    · rename_i result hp
      exact h.setPhase_started hp (by simp) (by simp) (by simp)
    · exact h

/-! ## Runs -/

/-- **The bodies start one after another, in the order of the calls.** -/
theorem progress_ran (es : List (Event α ε)) :
    ∃ n, collect step starts (fresh : AsyncMutex α ε) es = List.range n ∧ Progress (ran es) n := by
  induction es using List.reverseRecOn with
  | nil =>
    refine ⟨0, rfl, rfl, fun i c h => ?_, le_refl 0, fun i => ?_, fun i h => ?_⟩
    · cases h
    · exact ⟨fun h => absurd (lt_of_phaseOf h) (Nat.not_lt_zero i), fun h => absurd h.2 (Nat.not_lt_zero i)⟩
    · omega
  | append_singleton es e ih =>
    obtain ⟨n, hstarts, h⟩ := ih
    unfold ran at h ⊢
    rw [collect_snoc, hstarts, after_snoc]
    rcases h.step e with ⟨hnone, hstep⟩ | ⟨hone, hstep⟩
    · exact ⟨n, by rw [hnone, List.append_nil], hstep⟩
    · exact ⟨n + 1, by rw [hone, List.range_succ], hstep⟩

/-- Only the last body that started can be running. -/
theorem Progress.last (h : Progress m n) {phase : Phase α ε} (hi : phaseOf m i = some phase) (hw : phase ≠ .waiting)
    (hr : ∀ result, phase ≠ .released result) : i + 1 = n := by
  have hlt := lt_of_phaseOf hi
  by_contra hne
  by_cases hin : i + 1 < n
  · obtain ⟨result, hreleased⟩ := h.released i hin
    exact hr result (Option.some.inj (hi.symm.trans hreleased))
  · exact hw (Option.some.inj (hi.symm.trans ((h.waiting i).2 ⟨by omega, hlt⟩)))

/-- **The lock is handed on**: once every earlier body has settled, a waiting call starts its body as soon as its
predecessor and it have gone on. -/
theorem Progress.handsOn (h : Progress m n) (hi : phaseOf m i = some .waiting) (hearlier : ∀ j, j < i → hasSettled m j) :
    phaseOf (Mutex.step (Mutex.step m (.unwind (i - 1))) (.resume i)) i = some .running := by
  obtain ⟨hn, hlt⟩ := (h.waiting i).1 hi
  have hturn : i = n := by
    by_contra hne
    have hwaits := (h.waiting n).2 ⟨le_refl n, by omega⟩
    obtain ⟨result, hs | hr⟩ := hearlier n (by omega)
    · rw [hwaits] at hs
      cases hs
    · rw [hwaits] at hr
      cases hr
  subst hturn
  have hprogress : Progress (Mutex.step m (.unwind (i - 1))) i := by
    rcases h.step (.unwind (i - 1)) with ⟨-, hstep⟩ | ⟨hone, -⟩
    · exact hstep
    · cases hone
  have hwaits : phaseOf (Mutex.step m (.unwind (i - 1))) i = some .waiting := by
    unfold Mutex.step
    dsimp only
    split
    · rename_i hp
      rw [phaseOf_setPhase]
      by_cases heq : i - 1 = i
      · rw [heq, hi] at hp
        cases hp
      · rw [if_neg heq]
        exact hi
    · exact hi
  have hresolved : isResolved (Mutex.step m (.unwind (i - 1))) (behind i) = true := by
    cases i with
    | zero => rfl
    | succ j =>
      rw [Nat.add_sub_cancel]
      obtain ⟨result, hs | hr⟩ := hearlier j (Nat.lt_succ_self j)
      · have hphase : phaseOf (Mutex.step m (.unwind j)) j = some (.released result) := by
          unfold Mutex.step
          dsimp only
          rw [hs]
          dsimp only
          rw [phaseOf_setPhase, if_pos rfl, hs]
          rfl
        unfold isResolved behind
        dsimp only
        rw [hphase]
      · have hphase : phaseOf (Mutex.step m (.unwind j)) j = some (.released result) := by
          unfold Mutex.step
          dsimp only
          rw [hr]
          exact hr
        unfold isResolved behind
        dsimp only
        rw [hphase]
  have hcan := hprogress.canResume_iff.2 ⟨rfl, lt_of_phaseOf hwaits, hresolved⟩
  show phaseOf (if canResume _ i then _ else _) i = _
  rw [if_pos hcan, phaseOf_setPhase, if_pos rfl, hwaits]
  rfl

theorem result_step {e : Event α ε} {result : Except ε α}
    (h : phaseOf (step m e) i = some (.settled result) ∨ phaseOf (step m e) i = some (.released result)) :
    (phaseOf m i = some (.settled result) ∨ phaseOf m i = some (.released result)) ∨
      e = .settle i result ∧ phaseOf m i = some .running := by
  cases e with
  | run =>
    rw [phaseOf_run] at h
    by_cases hi : i = m.calls.length
    · rw [if_pos hi] at h
      rcases h with h | h <;> cases h
    · rw [if_neg hi] at h
      exact .inl h
  | resume j =>
    unfold step at h
    dsimp only at h
    split at h
    · rw [phaseOf_setPhase] at h
      by_cases hj : j = i
      · rw [if_pos hj] at h
        rcases h with h | h <;> obtain ⟨phase, -, hphase⟩ := Option.map_eq_some_iff.1 h <;> cases hphase
      · rw [if_neg hj] at h
        exact .inl h
    · exact .inl h
  | settle j r =>
    unfold step at h
    dsimp only at h
    split at h
    · rename_i hp
      rw [phaseOf_setPhase] at h
      by_cases hj : j = i
      · subst hj
        rw [if_pos rfl, hp] at h
        rcases h with h | h
        · obtain rfl := Phase.settled.inj (Option.some.inj h)
          exact .inr ⟨rfl, hp⟩
        · cases h
      · rw [if_neg hj] at h
        exact .inl h
    · exact .inl h
  | unwind j =>
    unfold step at h
    dsimp only at h
    split at h
    · rename_i r hp
      rw [phaseOf_setPhase] at h
      by_cases hj : j = i
      · subst hj
        rw [if_pos rfl, hp] at h
        rcases h with h | h
        · cases h
        · obtain rfl := Phase.released.inj (Option.some.inj h)
          exact .inl (.inl hp)
      · rw [if_neg hj] at h
        exact .inl h
    · exact .inl h

theorem settled_own (es : List (Event α ε)) {i : Nat} {result : Except ε α}
    (h : phaseOf (ran es) i = some (.settled result) ∨ phaseOf (ran es) i = some (.released result)) :
    ∃ pre post, es = pre ++ .settle i result :: post ∧ phaseOf (ran pre) i = some .running := by
  induction es using List.reverseRecOn with
  | nil => rcases h with h | h <;> exact absurd (lt_of_phaseOf h) (Nat.not_lt_zero i)
  | append_singleton es e ih =>
    have hstep : ran (es ++ [e]) = step (ran es) e := after_snoc
    rw [hstep] at h
    rcases result_step h with hbefore | ⟨rfl, hrunning⟩
    · obtain ⟨pre, post, rfl, hpre⟩ := ih hbefore
      exact ⟨pre, post ++ [e], by rw [List.append_assoc]; rfl, hpre⟩
    · exact ⟨es, [], rfl, hrunning⟩

/-- **The cycle lock.**  After any run at most one body has started and not finished, the bodies have started in the order of
their calls, a call behind settled bodies starts its own, and a call settles with the result of its own body. -/
theorem serial (es : List (Event α ε)) :
    (∀ i j, phaseOf (ran es) i = some .running → phaseOf (ran es) j = some .running → i = j) ∧
      (∃ n, collect step starts (fresh : AsyncMutex α ε) es = List.range n ∧
        ∀ i, phaseOf (ran es) i = some .waiting → n ≤ i) ∧
      (∀ i, phaseOf (ran es) i = some .waiting → (∀ j, j < i → hasSettled (ran es) j) →
        phaseOf (ran (es ++ [.unwind (i - 1), .resume i])) i = some .running) ∧
      (∀ i result, phaseOf (ran es) i = some (.settled result) →
        phaseOf (ran (es ++ [.unwind i])) i = some (.released result)) ∧
      ∀ i result, phaseOf (ran es) i = some (.released result) →
        ∃ pre post, es = pre ++ .settle i result :: post ∧ phaseOf (ran pre) i = some .running := by
  obtain ⟨n, hstarts, h⟩ := progress_ran es
  refine ⟨fun i j hi hj => ?_, ⟨n, hstarts, fun i hi => ((h.waiting i).1 hi).1⟩, fun i hi hearlier => ?_, fun i result hs => ?_,
    fun i result hr => settled_own es (.inr hr)⟩
  · have hlast := h.last hi (by simp) (by simp)
    have hlast' := h.last hj (by simp) (by simp)
    omega
  · have hran : ran (es ++ [.unwind (i - 1), .resume i]) = step (step (ran es) (.unwind (i - 1))) (.resume i) := by
      unfold ran after
      rw [List.foldl_append]
      rfl
    rw [hran]
    exact h.handsOn hi hearlier
  · have hran : ran (es ++ [.unwind i]) = step (ran es) (.unwind i) := after_snoc
    rw [hran]
    unfold step
    dsimp only
    rw [hs]
    dsimp only
    rw [phaseOf_setPhase, if_pos rfl, hs]
    rfl

end
end Mutex
end Atra
