import Atra.EmergencyStop
import Atra.Mutex
import Mathlib.Logic.Function.Basic
/-!
# Automation — two schedules, two pipelines and one lock

Each scheduler walks its entries and asks its pipeline for a cycle at a time; the operator asks for single cycles; a pipeline
refuses what comes while it runs, and both wait behind one lock.  The events are taken in any order: the checks of the switches,
the turns of the lock and the returns are steps of their own, with the operator between any two.
-/
namespace Atra.Automation

open Emergency (Scheduler)
open Mutex (AsyncMutex Phase phaseOf Progress canResume)

/-- A cycle behind the lock: whose it is, what it was asked for, and whether its `runCycle` has returned. -/
structure Cycle (E : Type) where
  pipeline : Scheduler
  request : E
  returned : Bool

/-- A pass under way: the entries it has come to, each with the number of its cycle behind the lock (none where the pipeline was
running already), and the entries it has still to come to. -/
structure Pass (E : Type) where
  entries : List E
  asked : List (E × Option Nat)
  todo : List E
  whole : asked.map Prod.fst ++ todo = entries

structure Runtime (α ε E : Type) where
  controls : Controls
  lock : AsyncMutex α ε
  cycles : List (Cycle E)
  running : Scheduler → Bool
  passes : Scheduler → Option (Pass E)

inductive Event (α ε E : Type) where
  | operator (e : StateStore.Event)
  /-- A tick, or a pass that is asked for, with the entries it reads. -/
  | runOnce (k : Scheduler) (entries : List E)
  /-- One cycle now. -/
  | run (k : Scheduler) (request : E)
  | resume (i : Nat)
  | settle (i : Nat) (result : Except ε α)
  | unwind (i : Nat)
  /-- `runCycle` goes on behind the lock. -/
  | comesBack (i : Nat)
  /-- A pass goes on behind its cycle; what it writes down of a failed one can fail. -/
  | proceed (k : Scheduler) (survives : Bool)

section
variable {α ε E : Type}

def fresh : Runtime α ε E := ⟨StateStore.fresh, Mutex.fresh, [], fun _ => false, fun _ => none⟩

/-- Either switch is set. -/
def stopped (s : Runtime α ε E) : Bool := s.controls.runtimeState.emergencyStop || s.controls.runtimeState.globalPause

def setPass (s : Runtime α ε E) (k : Scheduler) (pass : Option (Pass E)) : Runtime α ε E :=
  { s with passes := Function.update s.passes k pass }

/-- `runCycle`: the answer that the pipeline is running, or the number of the call of the lock. -/
def runCycle (s : Runtime α ε E) (k : Scheduler) (request : E) : Runtime α ε E × Option Nat :=
  if s.running k then (s, none)
  else
    ({ s with
        running := Function.update s.running k true
        lock := Mutex.step s.lock .run
        cycles := s.cycles ++ [⟨k, request, false⟩] }, some s.cycles.length)

/-- The head of a pass's loop: the next entry, behind the switches. -/
def loop (s : Runtime α ε E) (k : Scheduler) (p : Pass E) : Runtime α ε E :=
  match h : p.todo with
  | [] => setPass s k none
  | entry :: todo =>
    if stopped s then setPass s k none
    else
      let called := runCycle s k entry
      setPass called.1 k (some ⟨p.entries, p.asked ++ [(entry, called.2)], todo, by rw [← p.whole, h]; simp⟩)

def runOnce (s : Runtime α ε E) (k : Scheduler) (entries : List E) : Runtime α ε E :=
  if (s.passes k).isSome then s else if stopped s then s else loop s k ⟨entries, [], entries, rfl⟩

/-- `POST /run` of either pipeline; the liquidity service also looks at its scheduler. -/
def run (s : Runtime α ε E) (k : Scheduler) (request : E) : Runtime α ε E :=
  if stopped s || s.running k || (k == .liquidity && (s.passes k).isSome) then s else (runCycle s k request).1

def comesBack (s : Runtime α ε E) (i : Nat) : Runtime α ε E :=
  match s.cycles[i]?, phaseOf s.lock i with
  | some c, some (.released _) =>
    if c.returned then s
    else
      { s with
        running := Function.update s.running c.pipeline false
        cycles := s.cycles.modify i fun c => { c with returned := true } }
  | _, _ => s

/-- An entry was answered: its cycle has returned, or was not begun. -/
def answered (s : Runtime α ε E) : E × Option Nat → Bool
  | (_, none) => true
  | (_, some i) => ((s.cycles[i]?).map (·.returned)).getD false

def proceed (s : Runtime α ε E) (k : Scheduler) (survives : Bool) : Runtime α ε E :=
  match s.passes k with
  | none => s
  | some p =>
    if p.asked.getLast?.all (answered s) then
      if survives then loop s k p else setPass s k none
    else s

def step (s : Runtime α ε E) : Event α ε E → Runtime α ε E
  | .operator e =>
    let controls := StateStore.step s.controls e
    match e.operation with
    | .restart => { fresh with controls }
    | _ => { s with controls }
  | .runOnce k entries => runOnce s k entries
  | .run k request => run s k request
  | .resume i => { s with lock := Mutex.step s.lock (.resume i) }
  | .settle i result => { s with lock := Mutex.step s.lock (.settle i result) }
  | .unwind i => { s with lock := Mutex.step s.lock (.unwind i) }
  | .comesBack i => comesBack s i
  | .proceed k survives => proceed s k survives

def ran (es : List (Event α ε E)) : Runtime α ε E := History.after step fresh es

/-! ## The cycles behind the lock -/

/-- The pipelines whose cycle has not returned. -/
def pending (s : Runtime α ε E) : List Scheduler := (s.cycles.filter fun c => !c.returned).map (·.pipeline)

/-- The flags say which pipelines have a cycle under way, and none has two. -/
structure Serial (s : Runtime α ε E) : Prop where
  lock : ∃ n, Progress s.lock n
  numbered : s.cycles.length = s.lock.calls.length
  returned : ∀ i c, s.cycles[i]? = some c → c.returned = true → ∃ r, phaseOf s.lock i = some (.released r)
  single : (pending s).Nodup
  running : ∀ k, s.running k = true ↔ k ∈ pending s

variable {s : Runtime α ε E} {k : Scheduler} {i n : Nat} {request : E}

theorem waiting_of_canResume {m : AsyncMutex α ε} (h : canResume m i = true) : phaseOf m i = some .waiting := by
  unfold canResume at h
  split at h
  · rename_i hi
    unfold phaseOf
    rw [hi]
    rfl
  · cases h

/-- What was released stays so. -/
theorem released_step {m : AsyncMutex α ε} {r : Except ε α} (h : phaseOf m i = some (.released r)) (e : Mutex.Event α ε) :
    phaseOf (Mutex.step m e) i = some (.released r) := by
  have hset : ∀ {j : Nat} {phase₀ phase : Phase α ε}, phaseOf m j = some phase₀ → (∀ r, phase₀ ≠ .released r) →
      phaseOf (Mutex.setPhase m j phase) i = some (.released r) := by
    intro j phase₀ phase hj hne
    have hij : j ≠ i := by
      rintro rfl
      exact hne r (Option.some.inj (hj.symm.trans h))
    rw [Mutex.phaseOf_setPhase, if_neg hij]
    exact h
  cases e with
  | run =>
    rw [Mutex.phaseOf_run, if_neg (Mutex.lt_of_phaseOf h).ne]
    exact h
  | resume j =>
    unfold Mutex.step
    dsimp only
    split
    · rename_i hcan
      exact hset (waiting_of_canResume hcan) nofun
    · exact h
  | settle j result =>
    unfold Mutex.step
    dsimp only
    split
    · rename_i hj
      exact hset hj nofun
    · exact h
  | unwind j =>
    unfold Mutex.step
    dsimp only
    split
    · rename_i hj
      exact hset hj nofun
    · exact h

theorem calls_resume (m : AsyncMutex α ε) (i : Nat) : (Mutex.step m (.resume i)).calls.length = m.calls.length := by
  unfold Mutex.step
  dsimp only
  split
  · exact List.length_modify ..
  · rfl

theorem calls_settle (m : AsyncMutex α ε) (i : Nat) (result : Except ε α) :
    (Mutex.step m (.settle i result)).calls.length = m.calls.length := by
  unfold Mutex.step
  dsimp only
  split
  · exact List.length_modify ..
  · rfl

theorem calls_unwind (m : AsyncMutex α ε) (i : Nat) : (Mutex.step m (.unwind i)).calls.length = m.calls.length := by
  unfold Mutex.step
  dsimp only
  split
  · exact List.length_modify ..
  · rfl

/-- A turn of the lock. -/
theorem Serial.turn (h : Serial s) {e : Mutex.Event α ε} (hcalls : (Mutex.step s.lock e).calls.length = s.lock.calls.length) :
    Serial { s with lock := Mutex.step s.lock e } := by
  obtain ⟨n, hn⟩ := h.lock
  refine ⟨?_, h.numbered.trans hcalls.symm, fun i c hc hr => ?_, h.single, h.running⟩
  · rcases hn.step e with ⟨-, hn⟩ | ⟨-, hn⟩
    · exact ⟨n, hn⟩
    · exact ⟨n + 1, hn⟩
  · obtain ⟨r, hr⟩ := h.returned i c hc hr
    exact ⟨r, released_step hr e⟩

/-- A cycle that is begun. -/
theorem Serial.runCycle (h : Serial s) : Serial (Automation.runCycle s k request).1 := by
  unfold Automation.runCycle
  split
  · exact h
  · rename_i hk
    obtain ⟨n, hn⟩ := h.lock
    have hpending : pending (E := E) (α := α) (ε := ε) ⟨s.controls, Mutex.step s.lock .run, s.cycles ++ [⟨k, request, false⟩],
        Function.update s.running k true, s.passes⟩ = pending s ++ [k] := by
      unfold pending
      dsimp only
      rw [List.filter_append, List.map_append]
      rfl
    have hnew : k ∉ pending s := fun hmem => hk ((h.running k).2 hmem)
    refine ⟨⟨n, hn.run⟩, ?_, fun i c hc hr => ?_, ?_, fun k' => ?_⟩
    · show (s.cycles ++ [_]).length = (s.lock.calls ++ [_]).length
      rw [List.length_append, List.length_append, h.numbered]
      rfl
    · replace hc : (s.cycles ++ [⟨k, request, false⟩])[i]? = some c := hc
      by_cases hi : i < s.cycles.length
      · obtain ⟨r, hr⟩ := h.returned i c (List.getElem?_append_left hi ▸ hc) hr
        exact ⟨r, released_step hr .run⟩
      · have heq : i = s.cycles.length := by
          have hlt := (List.getElem?_eq_some_iff.1 hc).1
          rw [List.length_append, List.length_singleton] at hlt
          omega
        subst heq
        obtain rfl := Option.some.inj (List.getElem?_concat_length.symm.trans hc)
        cases hr
    · rw [hpending, List.nodup_append]
      refine ⟨h.single, List.nodup_singleton k, fun a ha b hb => ?_⟩
      rw [List.mem_singleton.1 hb]
      exact fun heq => hnew (heq ▸ ha)
    · rw [hpending, List.mem_append, List.mem_singleton]
      show Function.update s.running k true k' = true ↔ _
      by_cases hk' : k' = k
      · rw [hk', Function.update_self]
        exact ⟨fun _ => .inr rfl, fun _ => rfl⟩
      · rw [Function.update_of_ne hk', h.running k']
        exact ⟨.inl, fun hor => hor.resolve_right hk'⟩

/-- A cycle that returns. -/
theorem Serial.comesBack (h : Serial s) (i : Nat) : Serial (Automation.comesBack s i) := by
  unfold Automation.comesBack
  split
  · rename_i c r hc hphase
    split
    · exact h
    · rename_i hret
      obtain ⟨hlt, hget⟩ := List.getElem?_eq_some_iff.1 hc
      have hsplit : s.cycles = s.cycles.take i ++ c :: s.cycles.drop (i + 1) := by
        rw [← hget, List.getElem_cons_drop, List.take_append_drop]
      have hbefore : pending s = ((s.cycles.take i).filter fun c => !c.returned).map (·.pipeline) ++
          c.pipeline :: ((s.cycles.drop (i + 1)).filter fun c => !c.returned).map (·.pipeline) := by
        unfold pending
        conv_lhs => rw [hsplit]
        rw [List.filter_append, List.filter_cons, if_pos (by simpa using hret), List.map_append, List.map_cons]
      have hafter : pending (E := E) (α := α) (ε := ε) ⟨s.controls, s.lock, s.cycles.modify i fun c => { c with returned := true },
          Function.update s.running c.pipeline false, s.passes⟩ =
          ((s.cycles.take i).filter fun c => !c.returned).map (·.pipeline) ++
            ((s.cycles.drop (i + 1)).filter fun c => !c.returned).map (·.pipeline) := by
        unfold pending
        dsimp only
        rw [List.modify_eq_take_cons_drop hlt, hget, List.filter_append, List.filter_cons, if_neg (by simp), List.map_append]
      have hnodup := h.single
      rw [hbefore] at hnodup
      have hsub := List.nodup_middle.1 hnodup
      refine ⟨h.lock, ?_, fun j d hd hr => ?_, ?_, fun k' => ?_⟩
      · show (s.cycles.modify i _).length = _
        rw [List.length_modify]
        exact h.numbered
      · replace hd : (s.cycles.modify i fun c => { c with returned := true })[j]? = some d := hd
        rw [List.getElem?_modify] at hd
        obtain ⟨d₀, hd₀, rfl⟩ := Option.map_eq_some_iff.1 hd
        by_cases hij : i = j
        · exact hij ▸ ⟨r, hphase⟩
        · rw [if_neg hij] at hr
          exact h.returned j d₀ hd₀ hr
      · rw [hafter]
        exact (List.nodup_cons.1 hsub).2
      · rw [hafter]
        have hgone := (List.nodup_cons.1 hsub).1
        show Function.update s.running c.pipeline false k' = true ↔ _
        by_cases hk' : k' = c.pipeline
        · rw [hk', Function.update_self]
          exact ⟨nofun, fun hmem => absurd hmem hgone⟩
        · rw [Function.update_of_ne hk', h.running k', hbefore, List.mem_append, List.mem_append, List.mem_cons]
          exact ⟨fun hor => hor.imp_right fun hor => hor.resolve_left hk', fun hor => hor.imp_right .inr⟩
  · exact h

/-! ## The passes -/

/-- A pass asks for its entries in their order, each one once the one before is answered. -/
structure InOrder (s : Runtime α ε E) (k : Scheduler) (p : Pass E) : Prop where
  own : ∀ entry i, (entry, some i) ∈ p.asked → ∃ c, s.cycles[i]? = some c ∧ c.pipeline = k ∧ c.request = entry
  rising : (p.asked.filterMap Prod.snd).Pairwise (· < ·)
  answered : ∀ a ∈ p.asked.dropLast, answered s a = true

structure Sound (s : Runtime α ε E) : Prop where
  serial : Serial s
  passes : ∀ k p, s.passes k = some p → InOrder s k p

/-- Cycles are added and return; nothing else becomes of them. -/
def Grows (s s' : Runtime α ε E) : Prop :=
  ∀ (i : Nat) (c : Cycle E), s.cycles[i]? = some c → ∃ c', s'.cycles[i]? = some c' ∧ c'.pipeline = c.pipeline ∧ c'.request = c.request ∧
    (c.returned = true → c'.returned = true)

variable {s' : Runtime α ε E} {p : Pass E} {entries : List E} {survives : Bool}

theorem answered_grows (h : Grows s s') {a : E × Option Nat} (ha : answered s a = true) : answered s' a = true := by
  rcases a with ⟨entry, _ | i⟩
  · rfl
  · unfold answered at ha ⊢
    dsimp only at ha ⊢
    cases hc : s.cycles[i]? with
    | none =>
      rw [hc] at ha
      cases ha
    | some c =>
      rw [hc] at ha
      obtain ⟨c', hc', -, -, hr⟩ := h i c hc
      rw [hc']
      exact hr ha

theorem InOrder.grows (hp : InOrder s k p) (h : Grows s s') : InOrder s' k p where
  own := by
    intro entry i hmem
    obtain ⟨c, hc, hk, he⟩ := hp.own entry i hmem
    obtain ⟨c', hc', hk', he', -⟩ := h i c hc
    exact ⟨c', hc', hk'.trans hk, he'.trans he⟩
  rising := hp.rising
  answered := fun a ha => answered_grows h (hp.answered a ha)

theorem grows_runCycle : Grows s (runCycle s k request).1 := by
  intro i c hc
  unfold runCycle
  split
  · exact ⟨c, hc, rfl, rfl, id⟩
  · exact ⟨c, (List.getElem?_append_left (List.getElem?_eq_some_iff.1 hc).1).trans hc, rfl, rfl, id⟩

theorem grows_comesBack : Grows s (comesBack s i) := by
  intro j d hd
  unfold comesBack
  split
  · split
    · exact ⟨d, hd, rfl, rfl, id⟩
    · dsimp only
      rw [List.getElem?_modify, hd]
      show ∃ c', some (if i = j then { d with returned := true } else d) = some c' ∧ _
      by_cases hij : i = j
      · rw [if_pos hij]
        exact ⟨_, rfl, rfl, rfl, fun _ => rfl⟩
      · rw [if_neg hij]
        exact ⟨d, rfl, rfl, rfl, id⟩
  · exact ⟨d, hd, rfl, rfl, id⟩

/-! ### What a step can do -/

/-- **The head of the loop** ends the pass, or asks for the next entry behind the switches. -/
theorem loop_cases (s : Runtime α ε E) (k : Scheduler) (p : Pass E) :
    (loop s k p = setPass s k none ∧ (p.todo = [] ∨ stopped s = true)) ∨
      ∃ entry p', p.todo = entry :: p'.todo ∧ stopped s = false ∧ p'.entries = p.entries ∧
        p'.asked = p.asked ++ [(entry, (runCycle s k entry).2)] ∧ loop s k p = setPass (runCycle s k entry).1 k (some p') := by
  unfold loop
  split
  · rename_i h
    exact .inl ⟨rfl, .inl h⟩
  · rename_i entry todo h
    split
    · rename_i hstop
      exact .inl ⟨rfl, .inr hstop⟩
    · rename_i hstop
      exact .inr ⟨entry, ⟨_, _, todo, _⟩, h, by simpa using hstop, rfl, rfl, rfl⟩

theorem runOnce_cases (s : Runtime α ε E) (k : Scheduler) (entries : List E) : runOnce s k entries = s ∨
    s.passes k = none ∧ stopped s = false ∧ runOnce s k entries = loop s k ⟨entries, [], entries, rfl⟩ := by
  unfold runOnce
  split
  · exact .inl rfl
  · rename_i hnone
    split
    · exact .inl rfl
    · rename_i hstop
      exact .inr ⟨Option.not_isSome_iff_eq_none.1 hnone, by simpa using hstop, rfl⟩

theorem proceed_cases (s : Runtime α ε E) (k : Scheduler) (survives : Bool) : proceed s k survives = s ∨
    ∃ p, s.passes k = some p ∧ p.asked.getLast?.all (answered s) = true ∧
      (proceed s k survives = loop s k p ∨ proceed s k survives = setPass s k none ∧ survives = false) := by
  unfold proceed
  cases hp : s.passes k with
  | none => exact .inl rfl
  | some p =>
    dsimp only
    split
    · rename_i hlast
      cases survives with
      | true => exact .inr ⟨p, rfl, hlast, .inl rfl⟩
      | false => exact .inr ⟨p, rfl, hlast, .inr ⟨rfl, rfl⟩⟩
    · exact .inl rfl

theorem run_cases (s : Runtime α ε E) (k : Scheduler) (request : E) :
    run s k request = s ∨ stopped s = false ∧ run s k request = (runCycle s k request).1 := by
  unfold run
  split
  · exact .inl rfl
  · rename_i h
    simp only [Bool.or_eq_true, not_or, Bool.not_eq_true] at h
    exact .inr ⟨h.1.1, rfl⟩

theorem passes_runCycle : (runCycle s k request).1.passes = s.passes := by
  unfold runCycle
  split
  · rfl
  · rfl

theorem passes_comesBack : (comesBack s i).passes = s.passes := by
  unfold comesBack
  split
  · split
    · rfl
    · rfl
  · rfl

/-! ### What every step keeps -/

theorem Serial.setPass (h : Serial s) (pass : Option (Pass E)) : Serial (Automation.setPass s k pass) :=
  ⟨h.lock, h.numbered, h.returned, h.single, h.running⟩

theorem Sound.dropPass (h : Sound s) : Sound (setPass s k none) := by
  refine ⟨h.serial.setPass none, fun k' p' hp' => ?_⟩
  by_cases hk : k' = k
  · subst hk
    exact absurd (hp'.symm.trans (Function.update_self ..)) nofun
  · exact (h.passes k' p' ((Function.update_of_ne hk ..).symm.trans hp')).grows fun _ c hc => ⟨c, hc, rfl, rfl, id⟩

/-- A pass whose last entry is answered, or that has come to none, goes on in order. -/
theorem Sound.loop (h : Sound s) (hp : InOrder s k p) (hlast : p.asked.getLast?.all (answered s) = true) :
    Sound (loop s k p) := by
  rcases loop_cases s k p with ⟨heq, -⟩ | ⟨entry, p', -, -, -, hasked, heq⟩
  · rw [heq]
    exact h.dropPass
  · rw [heq]
    refine ⟨h.serial.runCycle.setPass _, fun k' p'' hp'' => ?_⟩
    replace hp'' : Function.update (runCycle s k entry).1.passes k (some p') k' = some p'' := hp''
    by_cases hk : k' = k
    · subst hk
      rw [Function.update_self] at hp''
      obtain rfl := Option.some.inj hp''
      have hgrows : Grows s (runCycle s k' entry).1 := grows_runCycle
      refine ⟨fun e i hmem => ?_, ?_, fun a ha => ?_⟩
      · rw [hasked] at hmem
        rcases List.mem_append.1 hmem with hmem | hmem
        · exact (hp.grows hgrows).own e i hmem
        · obtain ⟨rfl, hi⟩ := Prod.mk.inj (List.mem_singleton.1 hmem)
          show ∃ c, (runCycle s k' e).1.cycles[i]? = some c ∧ _
          unfold runCycle at hi ⊢
          split at hi
          · cases hi
          · rename_i hfree
            obtain rfl := Option.some.inj hi
            rw [if_neg hfree]
            exact ⟨_, List.getElem?_concat_length, rfl, rfl⟩
      · rw [hasked, List.filterMap_append]
        refine List.pairwise_append.2 ⟨hp.rising, ?_, fun i hi j hj => ?_⟩
        · cases (runCycle s k' entry).2 with
          | none => exact List.Pairwise.nil
          | some j => exact List.pairwise_singleton ..
        · have hlt : i < s.cycles.length := by
            obtain ⟨⟨e, _⟩, hmem, rfl⟩ := List.mem_filterMap.1 hi
            obtain ⟨c, hc, -⟩ := hp.own e i hmem
            exact (List.getElem?_eq_some_iff.1 hc).1
          unfold runCycle at hj
          split at hj
          · exact absurd hj List.not_mem_nil
          · obtain rfl := List.mem_singleton.1 hj
            exact hlt
      · rw [hasked, List.dropLast_concat] at ha
        have hold : answered s a = true := by
          rcases List.eq_nil_or_concat p.asked with hnil | ⟨init, last, hcat⟩
          · rw [hnil] at ha
            exact absurd ha List.not_mem_nil
          · rw [List.concat_eq_append] at hcat
            have hinit := hp.answered
            rw [hcat, List.dropLast_concat] at hinit
            rw [hcat] at hlast ha
            rcases List.mem_append.1 ha with ha | ha
            · exact hinit a ha
            · rw [List.mem_singleton.1 ha]
              simpa using hlast
        exact answered_grows hgrows hold
    · rw [Function.update_of_ne hk, passes_runCycle] at hp''
      exact (h.passes k' p'' hp'').grows fun i c hc => grows_runCycle i c hc

theorem Sound.turn (h : Sound s) {e : Mutex.Event α ε} (hcalls : (Mutex.step s.lock e).calls.length = s.lock.calls.length) :
    Sound { s with lock := Mutex.step s.lock e } :=
  ⟨h.serial.turn hcalls, fun k p hp => (h.passes k p hp).grows fun _ c hc => ⟨c, hc, rfl, rfl, id⟩⟩

theorem sound_restarted (controls : Controls) : Sound ({ fresh with controls } : Runtime α ε E) := by
  obtain ⟨n, -, hn⟩ := Mutex.progress_ran ([] : List (Mutex.Event α ε))
  exact ⟨⟨⟨n, hn⟩, rfl, fun _ _ => nofun, List.nodup_nil, fun k => ⟨nofun, nofun⟩⟩, nofun⟩

/-- **Every event keeps the order.** -/
theorem Sound.step (h : Sound s) (e : Event α ε E) : Sound (step s e) := by
  cases e with
  | operator e =>
    unfold Automation.step
    dsimp only
    split
    · exact sound_restarted _
    · exact ⟨⟨h.serial.lock, h.serial.numbered, h.serial.returned, h.serial.single, h.serial.running⟩,
        fun k p hp => (h.passes k p hp).grows fun _ c hc => ⟨c, hc, rfl, rfl, id⟩⟩
  | runOnce k entries =>
    show Sound (runOnce s k entries)
    rcases runOnce_cases s k entries with heq | ⟨-, -, heq⟩
    · rw [heq]
      exact h
    · rw [heq]
      exact h.loop ⟨nofun, List.Pairwise.nil, nofun⟩ rfl
  | run k request =>
    show Sound (run s k request)
    rcases run_cases s k request with heq | ⟨-, heq⟩
    · rw [heq]
      exact h
    · rw [heq]
      exact ⟨h.serial.runCycle, fun k' p hp => (h.passes k' p (passes_runCycle ▸ hp)).grows grows_runCycle⟩
  | resume i => exact h.turn (calls_resume s.lock i)
  | settle i result => exact h.turn (calls_settle s.lock i result)
  | unwind i => exact h.turn (calls_unwind s.lock i)
  | comesBack i =>
    show Sound (comesBack s i)
    exact ⟨h.serial.comesBack i, fun k p hp => (h.passes k p (passes_comesBack ▸ hp)).grows grows_comesBack⟩
  | proceed k survives =>
    show Sound (proceed s k survives)
    rcases proceed_cases s k survives with heq | ⟨p, hp, hlast, heq | ⟨heq, -⟩⟩
    · rw [heq]
      exact h
    · rw [heq]
      exact h.loop (h.passes k p hp) hlast
    · rw [heq]
      exact h.dropPass

theorem sound_ran (es : List (Event α ε E)) : Sound (ran es) :=
  History.invariant (sound_restarted StateStore.fresh) (fun _ e h => h.step e) es

/-! ## Runs -/

/-- The body of a cycle has started, and its lock is not released. -/
def InBody (m : AsyncMutex α ε) (i : Nat) : Prop := phaseOf m i = some .running ∨ ∃ r, phaseOf m i = some (.settled r)

/-- The cycles an event begins. -/
def begun (s : Runtime α ε E) (e : Event α ε E) : List (Cycle E) := (step s e).cycles.drop s.cycles.length

/-- A cycle runs, or its next step can be taken. -/
def Moves (s : Runtime α ε E) (i : Nat) : Prop :=
  InBody s.lock i ∨ canResume s.lock i = true ∨
    ∃ r c, phaseOf s.lock i = some (.released r) ∧ s.cycles[i]? = some c ∧ c.returned = false

/-- What becomes of a pass under way: it is kept, or ends at the end of its entries, at a switch, where its failure cannot be
written down, or with the process. -/
def Carried (s : Runtime α ε E) (e : Event α ε E) (k : Scheduler) (p : Pass E) : Prop :=
  (∃ p', (step s e).passes k = some p' ∧ p'.entries = p.entries ∧ p.asked <+: p'.asked) ∨
    (step s e).passes k = none ∧
      (p.todo = [] ∨ stopped s = true ∨ e = .proceed k false ∨ ∃ time, e = .operator ⟨time, .restart⟩)

/-- One cycle at a time, at most one of each pipeline under way, each begun with both switches off; a pass asks for its entries in
their order and one by one, and none waits for nothing. -/
structure Orderly (es : List (Event α ε E)) : Prop where
  exclusive : ∀ i j, InBody (ran es).lock i → InBody (ran es).lock j → i = j
  two : (pending (ran es)).Nodup ∧ (pending (ran es)).length ≤ 2
  off : ∀ pre e post, es = pre ++ e :: post → begun (ran pre) e ≠ [] → stopped (ran pre) = false
  passes : ∀ k p, (ran es).passes k = some p → InOrder (ran es) k p
  carried : ∀ pre e post k p, es = pre ++ e :: post → (ran pre).passes k = some p → Carried (ran pre) e k p
  moves : ∀ (i : Nat) (c : Cycle E), (ran es).cycles[i]? = some c → c.returned = false → ∃ j ≤ i, Moves (ran es) j

theorem begun_loop (h : (loop s k p).cycles.drop s.cycles.length ≠ []) : stopped s = false := by
  rcases loop_cases s k p with ⟨heq, -⟩ | ⟨entry, p', -, hstop, -⟩
  · rw [heq] at h
    exact absurd List.drop_length h
  · exact hstop

/-- **A cycle is begun with both switches off.** -/
theorem begun_off {e : Event α ε E} (h : begun s e ≠ []) : stopped s = false := by
  have hnone : s.cycles.drop s.cycles.length = [] := List.drop_length
  unfold begun at h
  cases e with
  | operator e =>
    exfalso
    apply h
    unfold step
    dsimp only
    split
    · exact List.drop_nil
    · exact hnone
  | runOnce k entries =>
    rcases runOnce_cases s k entries with heq | ⟨-, hstop, -⟩
    · exact absurd ((congrArg (fun t => t.cycles.drop s.cycles.length) heq).trans hnone) h
    · exact hstop
  | run k request =>
    rcases run_cases s k request with heq | ⟨hstop, -⟩
    · exact absurd ((congrArg (fun t => t.cycles.drop s.cycles.length) heq).trans hnone) h
    · exact hstop
  | resume i => exact absurd hnone h
  | settle i result => exact absurd hnone h
  | unwind i => exact absurd hnone h
  | comesBack i =>
    exfalso
    apply h
    show (comesBack s i).cycles.drop _ = []
    unfold comesBack
    split
    · split
      · exact hnone
      · exact List.drop_eq_nil_of_le (by rw [List.length_modify])
    · exact hnone
  | proceed k survives =>
    rcases proceed_cases s k survives with heq | ⟨p, -, -, heq | ⟨heq, -⟩⟩
    · exact absurd ((congrArg (fun t => t.cycles.drop s.cycles.length) heq).trans hnone) h
    · exact begun_loop (by rw [← heq]; exact h)
    · exact absurd ((congrArg (fun t => t.cycles.drop s.cycles.length) heq).trans hnone) h

/-- **What a pass comes to next.** -/
theorem carried_step (hp : s.passes k = some p) (e : Event α ε E) : Carried s e k p := by
  have hkept : ∀ {t : Runtime α ε E}, step s e = t → t.passes k = s.passes k → Carried s e k p := fun ht hpass =>
    .inl ⟨p, (congrArg (fun t => t.passes k) ht).trans (hpass.trans hp), rfl, List.prefix_rfl⟩
  have hother : ∀ {k' : Scheduler} {p' : Pass E}, step s e = loop s k' p' → k' ≠ k → Carried s e k p := by
    intro k' p' ht hne
    refine hkept ht ?_
    rcases loop_cases s k' p' with ⟨heq, -⟩ | ⟨entry, p'', -, -, -, -, heq⟩
    · rw [heq]
      exact Function.update_of_ne hne.symm ..
    · rw [heq]
      exact (Function.update_of_ne hne.symm ..).trans (by rw [passes_runCycle])
  cases e with
  | operator e =>
    rcases e with ⟨time, operation⟩
    cases operation with
    | restart => exact .inr ⟨rfl, .inr (.inr (.inr ⟨time, rfl⟩))⟩
    | _ => exact hkept rfl rfl
  | runOnce k' entries =>
    rcases runOnce_cases s k' entries with heq | ⟨hnone, -, heq⟩
    · exact hkept heq rfl
    · refine hother heq ?_
      rintro rfl
      rw [hp] at hnone
      cases hnone
  | run k' request =>
    rcases run_cases s k' request with heq | ⟨-, heq⟩
    · exact hkept heq rfl
    · exact hkept heq (by rw [passes_runCycle])
  | resume i => exact hkept rfl rfl
  | settle i result => exact hkept rfl rfl
  | unwind i => exact hkept rfl rfl
  | comesBack i => exact hkept (t := comesBack s i) rfl (by rw [passes_comesBack])
  | proceed k' survives =>
    by_cases hk : k' = k
    · subst hk
      rcases proceed_cases s k' survives with heq | ⟨p₀, hp₀, -, heq | ⟨heq, rfl⟩⟩
      · exact hkept heq rfl
      · obtain rfl := Option.some.inj (hp₀.symm.trans hp)
        rcases loop_cases s k' p₀ with ⟨hloop, hend⟩ | ⟨entry, p', -, -, hentries, hasked, hloop⟩
        · refine .inr ⟨(congrArg (fun t => t.passes k') (heq.trans hloop)).trans (Function.update_self ..), ?_⟩
          exact hend.imp_right .inl
        · refine .inl ⟨p', (congrArg (fun t => t.passes k') (heq.trans hloop)).trans (Function.update_self ..), hentries, ?_⟩
          rw [hasked]
          exact List.prefix_append ..
      · exact .inr ⟨(congrArg (fun t => t.passes k') heq).trans (Function.update_self ..), .inr (.inr (.inl rfl))⟩
    · rcases proceed_cases s k' survives with heq | ⟨p₀, -, -, heq | ⟨heq, -⟩⟩
      · exact hkept heq rfl
      · exact hother heq hk
      · exact hkept heq (Function.update_of_ne (Ne.symm hk) ..)

/-- Where a cycle has not returned, it or one before it can go on. -/
theorem Serial.moves (h : Serial s) {c : Cycle E} (hc : s.cycles[i]? = some c) (hret : c.returned = false) :
    ∃ j ≤ i, Moves s j := by
  obtain ⟨n, hn⟩ := h.lock
  have hlt : i < s.lock.calls.length := h.numbered ▸ (List.getElem?_eq_some_iff.1 hc).1
  have hphase : phaseOf s.lock i = some s.lock.calls[i].phase := by
    unfold phaseOf
    rw [List.getElem?_eq_getElem hlt]
    rfl
  cases hp : s.lock.calls[i].phase with
  | running => exact ⟨i, le_refl i, .inl (.inl (hphase.trans (congrArg some hp)))⟩
  | settled r => exact ⟨i, le_refl i, .inl (.inr ⟨r, hphase.trans (congrArg some hp)⟩)⟩
  | released r => exact ⟨i, le_refl i, .inr (.inr ⟨r, c, hphase.trans (congrArg some hp), hc, hret⟩)⟩
  | waiting =>
    have hni := ((hn.waiting i).1 (hphase.trans (congrArg some hp))).1
    cases n with
    | zero => exact ⟨0, Nat.zero_le i, .inr (.inl (hn.canResume_iff.2 ⟨rfl, by omega, rfl⟩))⟩
    | succ m =>
      -- the cycle before the first that waits runs still, or has handed the lock on
      have hm : m < s.lock.calls.length := by omega
      have hphase' : phaseOf s.lock m = some s.lock.calls[m].phase := by
        unfold phaseOf
        rw [List.getElem?_eq_getElem hm]
        rfl
      cases hp' : s.lock.calls[m].phase with
      | running => exact ⟨m, by omega, .inl (.inl (hphase'.trans (congrArg some hp')))⟩
      | settled r => exact ⟨m, by omega, .inl (.inr ⟨r, hphase'.trans (congrArg some hp')⟩)⟩
      | released r =>
        refine ⟨m + 1, hni, .inr (.inl (hn.canResume_iff.2 ⟨rfl, by omega, ?_⟩))⟩
        unfold Mutex.behind Mutex.isResolved
        dsimp only
        rw [hphase', hp']
      | waiting =>
        have hwaits := (hn.waiting m).1 (hphase'.trans (congrArg some hp'))
        omega

/-- **Two schedules, two pipelines and one lock.**  Whatever the order of ticks, requests, turns of the lock and switches: one body
runs at a time, at most two cycles are under way and never two of one pipeline; a cycle is begun only while neither switch is set;
a pass asks for its entries in their order and one by one, is never replaced by another, and ends early at a switch, at a failure it
cannot write down or with the process alone; and as long as a cycle has not returned, it or one before it runs or can go on. -/
theorem automation_orderly (es : List (Event α ε E)) : Orderly es where
  exclusive := by
    intro i j hi hj
    obtain ⟨n, hn⟩ := (sound_ran es).serial.lock
    have hlast : ∀ {i : Nat}, InBody (ran es).lock i → i + 1 = n := by
      rintro i (h | ⟨r, h⟩)
      · exact hn.last h nofun nofun
      · exact hn.last h nofun nofun
    have := hlast hi
    have := hlast hj
    omega
  two := by
    have hnodup := (sound_ran es).serial.single
    have hsub : pending (ran es) ⊆ Scheduler.all := by
      intro k _
      cases k with
      | trade => exact List.mem_cons_self
      | liquidity => exact List.mem_cons_of_mem _ List.mem_cons_self
    exact ⟨hnodup, (List.subperm_of_subset hnodup hsub).length_le⟩
  off := fun _ _ _ _ h => begun_off h
  passes := (sound_ran es).passes
  carried := fun _ e _ _ _ _ hp => carried_step hp e
  moves := fun _ _ hc hret => (sound_ran es).serial.moves hc hret

end
end Atra.Automation
