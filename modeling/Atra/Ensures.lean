import Atra.Transaction
/-!
# Ensures — what a script establishes, whether it returns or throws

`Ensures x s ok err` says of the run of `x` from `s` that what it returns satisfies `ok` with the store it leaves, and what it
throws `err`.  A sequence is taken apart by `ensures_bind`, a caught computation by `ensures_attempt`, and what every step of a
script preserves, the script preserves (`Keeps.bind`).
-/
namespace Script

variable {S ε α β : Type}

/-- What a run establishes. -/
def Ensures (x : Script S ε α) (s : S) (ok : α → S → Prop) (err : ε → S → Prop) : Prop :=
  match x.exec s with
  | (.ok a, t) => ok a t
  | (.error e, t) => err e t

variable {x : Script S ε α} {f : α → Script S ε β} {s t : S} {ok ok' : α → S → Prop} {err err' : ε → S → Prop}
  {okb : β → S → Prop}

/-- **A sequence** establishes what its second part does from where the first returns. -/
@[simp] theorem ensures_bind : Ensures (x >>= f) s okb err ↔ Ensures x s (fun a t => Ensures (f a) t okb err) err := by
  unfold Ensures
  rw [exec_bind]
  rcases x.exec s with ⟨_ | a, t⟩
  · rfl
  · rfl

@[simp] theorem ensures_pure (a : α) : Ensures (pure a) s ok err ↔ ok a s := Iff.rfl

@[simp] theorem ensures_throw (e : ε) : Ensures (throw e) s ok err ↔ err e s := Iff.rfl

@[simp] theorem ensures_get {ok : S → S → Prop} : Ensures get s ok err ↔ ok s s := Iff.rfl

@[simp] theorem ensures_set {ok : PUnit → S → Prop} : Ensures (set t) s ok err ↔ ok ⟨⟩ t := Iff.rfl

@[simp] theorem ensures_modify {ok : Unit → S → Prop} (g : S → S) : Ensures (modify g) s ok err ↔ ok () (g s) := Iff.rfl

theorem ensures_lift (r : Except ε α) : Ensures (liftM r) s ok err ↔
    (∀ a, r = .ok a → ok a s) ∧ ∀ e, r = .error e → err e s := by
  cases r with
  | error e => simp [Ensures]
  | ok a => simp [Ensures]

/-- **A caught computation** establishes for what comes after it whatever it returned or threw. -/
@[simp] theorem ensures_attempt {ok : Except ε α → S → Prop} :
    Ensures (attempt x) s ok err ↔ Ensures x s (fun a t => ok (.ok a) t) fun e t => ok (.error e) t := by
  unfold Ensures
  rw [exec_attempt]
  rcases x.exec s with ⟨_ | a, t⟩
  · rfl
  · rfl

theorem Ensures.mono (h : Ensures x s ok err) (hok : ∀ a t, ok a t → ok' a t) (herr : ∀ e t, err e t → err' e t) :
    Ensures x s ok' err' := by
  unfold Ensures at h ⊢
  rcases hx : x.exec s with ⟨_ | a, t⟩
  · rw [hx] at h
    exact herr _ _ h
  · rw [hx] at h
    exact hok _ _ h

/-- What a run establishes in two ways, it establishes together. -/
theorem Ensures.and (h : Ensures x s ok err) (h' : Ensures x s ok' err') :
    Ensures x s (fun a t => ok a t ∧ ok' a t) fun e t => err e t ∧ err' e t := by
  unfold Ensures at h h' ⊢
  rcases hx : x.exec s with ⟨_ | a, t⟩
  · rw [hx] at h h'
    exact ⟨h, h'⟩
  · rw [hx] at h h'
    exact ⟨h, h'⟩

theorem Ensures.returned {a : α} (h : Ensures x s ok err) (hx : x.exec s = (.ok a, t)) : ok a t := by
  unfold Ensures at h
  rw [hx] at h
  exact h

theorem Ensures.total (h : Ensures x s ok fun _ _ => False) : ∃ a t, x.exec s = (.ok a, t) ∧ ok a t := by
  unfold Ensures at h
  rcases hx : x.exec s with ⟨_ | a, t⟩
  · rw [hx] at h
    exact h.elim
  · rw [hx] at h
    exact ⟨a, t, rfl, h⟩

theorem Ensures.final {P : S → Prop} (h : Ensures x s (fun _ t => P t) fun _ t => P t) : P (x.exec s).2 := by
  unfold Ensures at h
  rcases hx : x.exec s with ⟨_ | a, t⟩
  · rw [hx] at h
    exact h
  · rw [hx] at h
    exact h

/-! ## What a script preserves -/

/-- Every run of a script relates the store it is given to the one it leaves. -/
def Keeps (R : S → S → Prop) (x : Script S ε α) : Prop := ∀ s, R s (x.exec s).2

variable {R : S → S → Prop}

theorem Keeps.ensures (h : Keeps R x) (s : S) : Ensures x s (fun _ t => R s t) fun _ t => R s t := by
  have hs := h s
  unfold Ensures
  rcases hx : x.exec s with ⟨_ | a, t⟩
  · rw [hx] at hs
    exact hs
  · rw [hx] at hs
    exact hs

theorem keeps_of_ensures (h : ∀ s, Ensures x s (fun _ t => R s t) fun _ t => R s t) : Keeps R x := fun s => (h s).final

theorem keeps_lift (hr : ∀ s, R s s) (r : Except ε α) : Keeps R (liftM r : Script S ε α) := fun s => hr s

theorem keeps_pure (hr : ∀ s, R s s) (a : α) : Keeps R (pure a : Script S ε α) := fun s => hr s

theorem keeps_throw (hr : ∀ s, R s s) (e : ε) : Keeps R (throw e : Script S ε α) := fun s => hr s

theorem keeps_get (hr : ∀ s, R s s) : Keeps R (get : Script S ε S) := fun s => hr s

/-- **A sequence relates** what its parts do, one after the other. -/
theorem Keeps.bind {R' R'' : S → S → Prop} (ht : ∀ {a b c}, R a b → R' b c → R'' a c) (he : ∀ {a b}, R a b → R'' a b)
    (hx : Keeps R x) (hf : ∀ a, Keeps R' (f a)) : Keeps R'' (x >>= f) := by
  intro s
  have h := hx s
  rw [exec_bind]
  rcases hr : x.exec s with ⟨_ | a, t⟩
  · rw [hr] at h
    exact he h
  · rw [hr] at h
    exact ht h (hf a t)

theorem Keeps.attempt (hx : Keeps R x) : Keeps R (attempt x) := hx

end Script
