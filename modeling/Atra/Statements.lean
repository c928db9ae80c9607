import Atra.History
/-!
# Statements — calls that run one statement at a time, and a crash between any two

A call puts its list of statements on a machine that has none left to run; a crash drops what is left of a list, keeps what
the statements so far have stored and puts the boot's list in its place.  What a machine will hold when its list has been run
(`finish`) changes with calls and crashes only, so a property of the idle machine is proved call by call (`finish_along`);
what every single statement keeps holds between the statements too (`each_along`).
-/
namespace Statements

/-- A store and the statements still to be run on it. -/
structure Machine (S W : Type) where
  store : S
  pending : List W

inductive Event (C : Type) where
  | call (c : C)
  | statement
  | crash
deriving DecidableEq

/-- What a statement does, the statements of a call and of a boot, and what a crash leaves of the store. -/
structure Program (S W C : Type) where
  exec : S → W → S
  script : S → C → List W
  volatile : S → S
  boot : S → List W

variable {S W C : Type} (program : Program S W C)

def Program.run (s : S) (ws : List W) : S := ws.foldl program.exec s

def Program.step (m : Machine S W) : Event C → Machine S W
  | .call c =>
    match m.pending with
    | [] => ⟨m.store, program.script m.store c⟩
    | _ :: _ => m
  | .statement =>
    match m.pending with
    | [] => m
    | w :: ws => ⟨program.exec m.store w, ws⟩
  | .crash => ⟨program.volatile m.store, program.boot (program.volatile m.store)⟩

/-- What the store holds once the machine is idle. -/
def Program.finish (m : Machine S W) : S := program.run m.store m.pending

variable {program} {m : Machine S W} {es : List (Event C)}

theorem finish_idle (h : m.pending = []) : program.finish m = m.store := by
  unfold Program.finish
  rw [h]
  rfl

theorem finish_statement : program.finish (program.step m .statement) = program.finish m := by
  rcases m with ⟨s, _ | ⟨w, ws⟩⟩
  · rfl
  · rfl

theorem finish_call (c : C) : program.finish (program.step m (.call c)) = program.finish m ∨
    program.finish (program.step m (.call c)) = program.run (program.finish m) (program.script (program.finish m) c) := by
  rcases m with ⟨s, _ | ⟨w, ws⟩⟩
  · exact .inr rfl
  · exact .inl rfl

/-- As many statements as are left make the machine idle. -/
theorem after_statements (s : S) (ws : List W) :
    History.after program.step ⟨s, ws⟩ (List.replicate ws.length .statement) = ⟨program.run s ws, []⟩ := by
  induction ws generalizing s with
  | nil => rfl
  | cons w ws ih => exact ih (program.exec s w)

/-- **What every call and every crash establishes of the idle store** holds of it after every run that meets a condition. -/
theorem finish_along {P : S → Prop} {Q : Machine S W → Event C → Prop} (hcall : ∀ s c, P s → P (program.run s (program.script s c)))
    (hcrash : ∀ m, Q m .crash → P (program.finish (program.step m .crash))) (h0 : P (program.finish m))
    (hQ : History.Along program.step Q m es) : P (program.finish (History.after program.step m es)) := by
  induction es using List.reverseRecOn with
  | nil => exact h0
  | append_singleton es e ih =>
    obtain ⟨hpre, he⟩ := History.along_snoc.1 hQ
    rw [History.after_snoc]
    cases e with
    | call c =>
      rcases @finish_call _ _ _ program (History.after program.step m es) c with h | h
      · rw [h]
        exact ih hpre
      · rw [h]
        exact hcall _ c (ih hpre)
    | statement =>
      rw [finish_statement]
      exact ih hpre
    | crash => exact hcrash _ he

/-- A property of the store, and of every statement that is still to be run on it. -/
def Each (P : S → Prop) (A : W → Prop) (m : Machine S W) : Prop := P m.store ∧ ∀ w ∈ m.pending, A w

/-- **What every allowed statement keeps** holds after every run whose calls and boots have only such statements. -/
theorem each_along {P : S → Prop} {A : W → Prop} {Q : Machine S W → Event C → Prop}
    (hexec : ∀ s w, A w → P s → P (program.exec s w)) (hvolatile : ∀ s, P s → P (program.volatile s))
    (hboot : ∀ s, P s → ∀ w ∈ program.boot s, A w)
    (hcall : ∀ s c, Q ⟨s, []⟩ (.call c) → P s → ∀ w ∈ program.script s c, A w)
    (h0 : Each P A m) (hQ : History.Along program.step Q m es) : Each P A (History.after program.step m es) := by
  induction es using List.reverseRecOn with
  | nil => exact h0
  | append_singleton es e ih =>
    obtain ⟨hpre, he⟩ := History.along_snoc.1 hQ
    rw [History.after_snoc]
    obtain ⟨hs, hw⟩ := ih hpre
    generalize History.after program.step m es = m' at *
    rcases m' with ⟨s, ws⟩
    cases e with
    | call c =>
      cases ws with
      | nil => exact ⟨hs, hcall s c he hs⟩
      | cons w ws => exact ⟨hs, hw⟩
    | statement =>
      cases ws with
      | nil => exact ⟨hs, hw⟩
      | cons w ws => exact ⟨hexec s w (hw w List.mem_cons_self) hs, fun w' h => hw w' (List.mem_cons_of_mem w h)⟩
    | crash => exact ⟨hvolatile s hs, hboot _ (hvolatile s hs)⟩

end Statements
