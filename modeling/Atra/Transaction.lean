/-!
# Transaction — scripts over a store, and what is left of it when they throw

A script reads and writes a store and may throw; what it wrote before it threw stays, unless it ran in a `transaction`.  A
script `Reads` when it writes nothing, and is `Atomic` when it throws only out of the store it was given: a transaction is,
and so is what reads first and then runs one.
-/

/-- A computation over a store that may throw. -/
abbrev Script (S ε : Type) := ExceptT ε (StateM S)

namespace Script

variable {S ε α β : Type}

/-- What a script returns or throws from a store, and the store it leaves. -/
def exec (x : Script S ε α) (s : S) : Except ε α × S := StateT.run (ExceptT.run x) s

/-- An outcome with the store put back where it is a throw. -/
def restored (s : S) : Except ε α × S → Except ε α × S
  | (.ok a, t) => (.ok a, t)
  | (.error e, _) => (.error e, s)

/-- Run a script, and put the store back if it throws. -/
def transaction (x : Script S ε α) : Script S ε α := ExceptT.mk fun s => restored s (x.exec s)

/-- Run a script, and go on with what it returned or threw. -/
def attempt (x : Script S ε α) : Script S ε (Except ε α) := ExceptT.mk fun s => (.ok (x.exec s).1, (x.exec s).2)

/-! ## Executions -/

variable {x : Script S ε α} {f : α → Script S ε β} {s t : S}

theorem exec_bind (x : Script S ε α) (f : α → Script S ε β) (s : S) : (x >>= f).exec s =
    match x.exec s with
    | (.ok a, t) => (f a).exec t
    | (.error e, t) => (.error e, t) := by
  show StateT.run (ExceptT.run x >>= ExceptT.bindCont f) s = _
  unfold exec
  rw [StateT.run_bind]
  cases StateT.run (ExceptT.run x) s with
  | mk r t =>
    cases r with
    | ok a => rfl
    | error e => rfl

/-- **A sequence succeeds** when its first part does and the rest does from the store that left. -/
theorem exec_bind_ok {b : β} :
    (x >>= f).exec s = (.ok b, t) ↔ ∃ a u, x.exec s = (.ok a, u) ∧ (f a).exec u = (.ok b, t) := by
  rw [exec_bind]
  rcases x.exec s with ⟨_ | a, u⟩
  · simp
  · constructor
    · intro h
      exact ⟨a, u, rfl, h⟩
    · rintro ⟨_, _, he, h⟩
      cases he
      exact h

@[simp] theorem exec_pure (a : α) : (pure a : Script S ε α).exec s = (.ok a, s) := rfl

@[simp] theorem exec_throw (e : ε) : (throw e : Script S ε α).exec s = (.error e, s) := rfl

@[simp] theorem exec_get : (get : Script S ε S).exec s = (.ok s, s) := rfl

@[simp] theorem exec_modify (g : S → S) : (modify g : Script S ε Unit).exec s = (.ok (), g s) := rfl

@[simp] theorem exec_lift (r : Except ε α) : (liftM r : Script S ε α).exec s = (r, s) := rfl

@[simp] theorem exec_get_bind (f : S → Script S ε β) : (get >>= f).exec s = (f s).exec s := rfl

@[simp] theorem exec_modify_bind (g : S → S) (f : Unit → Script S ε β) :
    (modify g >>= f).exec s = (f ()).exec (g s) := rfl

@[simp] theorem exec_set_bind (u : S) (f : PUnit → Script S ε β) : (set u >>= f).exec s = (f ⟨⟩).exec u := rfl

@[simp] theorem exec_lift_bind_ok {r : Except ε α} {b : β} :
    ((liftM r : Script S ε α) >>= f).exec s = (.ok b, t) ↔ ∃ a, r = .ok a ∧ (f a).exec s = (.ok b, t) := by
  rw [exec_bind_ok]
  constructor
  · rintro ⟨a, u, hr, h⟩
    obtain ⟨rfl, rfl⟩ := Prod.mk.inj hr
    exact ⟨a, rfl, h⟩
  · rintro ⟨a, rfl, h⟩
    exact ⟨a, s, rfl, h⟩

theorem exec_map_ok {g : α → β} {b : β} :
    (g <$> x).exec s = (.ok b, t) ↔ ∃ a, x.exec s = (.ok a, t) ∧ g a = b := by
  rw [map_eq_pure_bind, exec_bind_ok]
  constructor
  · rintro ⟨a, u, hx, h⟩
    obtain ⟨hb, rfl⟩ := Prod.mk.inj h
    exact ⟨a, hx, Except.ok.inj hb⟩
  · rintro ⟨a, hx, rfl⟩
    exact ⟨a, t, hx, rfl⟩

@[simp] theorem exec_attempt : (attempt x).exec s = (.ok (x.exec s).1, (x.exec s).2) := rfl

theorem exec_attempt_bind (g : Except ε α → Script S ε β) :
    (attempt x >>= g).exec s = (g (x.exec s).1).exec (x.exec s).2 := rfl

theorem exec_tryCatch (h : ε → Script S ε α) : (tryCatch x h).exec s =
    match x.exec s with
    | (.ok a, t) => (.ok a, t)
    | (.error e, t) => (h e).exec t := by
  show StateT.run (ExceptT.run (ExceptT.tryCatch x h)) s = _
  unfold ExceptT.tryCatch exec
  rw [ExceptT.run_mk, StateT.run_bind]
  unfold ExceptT.run
  rcases StateT.run x s with ⟨_ | a, t⟩
  · rfl
  · rfl

theorem exec_transaction : (transaction x).exec s = restored s (x.exec s) := rfl

theorem exec_transaction_ok {a : α} : (transaction x).exec s = (.ok a, t) ↔ x.exec s = (.ok a, t) := by
  rw [exec_transaction]
  rcases x.exec s with ⟨_ | b, u⟩
  · simp [restored]
  · rfl

/-! ## What a throw leaves -/

/-- A script that leaves the store as it was. -/
def Reads (x : Script S ε α) : Prop := ∀ s, (x.exec s).2 = s

/-- A script that throws only out of the store it was given. -/
def Atomic (x : Script S ε α) : Prop := ∀ s e t, x.exec s = (.error e, t) → t = s

theorem reads_lift (r : Except ε α) : Reads (liftM r : Script S ε α) := fun _ => rfl

theorem atomic_transaction (x : Script S ε α) : Atomic (transaction x) := by
  intro s e t h
  rw [exec_transaction] at h
  rcases hr : x.exec s with ⟨_ | b, u⟩
  · rw [hr] at h
    exact (Prod.mk.inj h).2.symm
  · rw [hr] at h
    cases h

/-- **What reads first and is atomic after is atomic.** -/
theorem Reads.bind (hx : Reads x) (hf : ∀ a, Atomic (f a)) : Atomic (x >>= f) := by
  intro s e t h
  rw [exec_bind] at h
  have hs := hx s
  rcases hr : x.exec s with ⟨_ | a, u⟩
  · rw [hr] at h hs
    exact (Prod.mk.inj h).2.symm.trans hs
  · rw [hr] at h hs
    obtain rfl : u = s := hs
    exact hf a u e t h

/-- What only follows an atomic script with a value of its own. -/
theorem Atomic.map (hx : Atomic x) (g : α → β) : Atomic (g <$> x) := by
  intro s e t h
  rw [map_eq_pure_bind, exec_bind] at h
  rcases hr : x.exec s with ⟨e' | a, u⟩
  · rw [hr] at h
    obtain rfl := (Prod.mk.inj h).2
    exact hx s e' u hr
  · rw [hr] at h
    cases h

end Script
