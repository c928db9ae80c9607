import Mathlib.Data.List.Basic
import Mathlib.Data.List.Forall2
/-!
# ByteReader — reading bytes at a cursor

A reader moves a cursor over bytes it does not change, and may throw.  A reader `Parses` an encoding when it reads it back
wherever it stands; it is `Stable` when what it read it would also have read before more bytes, and `Ends` inside the bytes
it was given when it succeeds.  Encodings compose as readers do (`Parses.bind`), and a stable reader that ends inside its
bytes reads no strict prefix of what it parses (`Parses.truncated`).
-/

/-- A computation that reads at a cursor. -/
abbrev ByteReader (ε α : Type) := ReaderT (List UInt8) (StateT Nat (Except ε)) α

namespace ByteReader

variable {ε α β : Type}

/-- What a reader returns from a cursor, and where it leaves it. -/
def exec (r : ByteReader ε α) (bytes : List UInt8) (offset : Nat) : Except ε (α × Nat) :=
  StateT.run (ReaderT.run r bytes) offset

/-! ## Primitives -/

def peek (e : ε) : ByteReader ε UInt8 := fun bytes offset => bytes[offset]?.elim (.error e) fun b => .ok (b, offset)

/-- The byte at the cursor, which moves past it. -/
def byte (e : ε) : ByteReader ε UInt8 := fun bytes offset => bytes[offset]?.elim (.error e) fun b => .ok (b, offset + 1)

/-- Throw unless so many bytes are left. -/
def need (n : Nat) (e : ε) : ByteReader ε Unit := fun bytes offset =>
  if bytes.length < offset + n then .error e else .ok ((), offset)

/-- Move the cursor, past the end if need be. -/
def skip (n : Nat) : ByteReader ε Unit := fun _ offset => .ok ((), offset + n)

/-- So many bytes, which must be there. -/
def take (n : Nat) (e : ε) : ByteReader ε (List UInt8) := fun bytes offset =>
  if bytes.length < offset + n then .error e else .ok ((bytes.drop offset).take n, offset + n)

/-- One reader after another, so many times. -/
def times (r : ByteReader ε α) : Nat → ByteReader ε (List α)
  | 0 => pure []
  | n + 1 => do
    let a ← r
    let rest ← times r n
    return a :: rest

/-! ## Executions -/

variable {r : ByteReader ε α} {f : α → ByteReader ε β} {bytes : List UInt8} {offset : Nat}

theorem exec_bind : (r >>= f).exec bytes offset =
    match r.exec bytes offset with
    | .ok (a, o) => (f a).exec bytes o
    | .error e => .error e := by
  show StateT.run (ReaderT.run r bytes >>= fun a => ReaderT.run (f a) bytes) offset = _
  rw [StateT.run_bind]
  unfold exec
  cases StateT.run (ReaderT.run r bytes) offset with
  | error e => rfl
  | ok p => rfl

/-- **A sequence reads** what its first part reads and then what the rest reads from there. -/
theorem exec_bind_ok {b : β} {o' : Nat} : (r >>= f).exec bytes offset = .ok (b, o') ↔
    ∃ a o, r.exec bytes offset = .ok (a, o) ∧ (f a).exec bytes o = .ok (b, o') := by
  rw [exec_bind]
  rcases r.exec bytes offset with e | ⟨a, o⟩
  · simp
  · constructor
    · intro h
      exact ⟨a, o, rfl, h⟩
    · rintro ⟨_, _, he, h⟩
      cases he
      exact h

@[simp] theorem exec_pure (a : α) : (pure a : ByteReader ε α).exec bytes offset = .ok (a, offset) := rfl

@[simp] theorem exec_throw (e : ε) : (throw e : ByteReader ε α).exec bytes offset = .error e := rfl

@[simp] theorem exec_lift (x : Except ε α) :
    (liftM x : ByteReader ε α).exec bytes offset = x.map fun a => (a, offset) := by
  cases x with
  | error e => rfl
  | ok a => rfl

/-! ## Encodings -/

/-- A reader that reads an encoding back, whatever stands before and after it. -/
def Parses (r : ByteReader ε α) (out : List UInt8) (a : α) : Prop := ∀ before after,
  r.exec (before ++ out ++ after) before.length = .ok (a, before.length + out.length)

theorem Parses.pure (a : α) : Parses (pure a : ByteReader ε α) [] a := fun _ _ => rfl

/-- **Encodings compose as readers do.** -/
theorem Parses.bind {out out' : List UInt8} {a : α} {b : β} (hr : Parses r out a) (hf : Parses (f a) out' b) :
    Parses (r >>= f) (out ++ out') b := by
  intro before after
  have h := hr before (out' ++ after)
  have h' := hf (before ++ out) after
  rw [List.length_append] at h'
  rw [exec_bind_ok]
  refine ⟨a, before.length + out.length, ?_, ?_⟩
  · rw [← h, List.append_assoc, List.append_assoc, List.append_assoc]
  · rw [List.length_append, ← Nat.add_assoc, ← h', List.append_assoc before out out']

/-- What is returned at the end adds nothing to the encoding. -/
theorem Parses.bind_pure {out : List UInt8} {a : α} (hr : Parses r out a) (g : α → β) :
    Parses (r >>= fun a => Pure.pure (g a)) out (g a) := by
  have h : Parses (r >>= fun a => Pure.pure (g a)) (out ++ []) (g a) := hr.bind (.pure (g a))
  rwa [List.append_nil] at h

theorem parses_lift_bind {x : Except ε α} {a : α} {out : List UInt8} {b : β} (h : x = .ok a)
    (hf : Parses (f a) out b) : Parses ((liftM x : ByteReader ε α) >>= f) out b := by
  have hx : Parses (liftM x : ByteReader ε α) [] a := by
    intro before after
    rw [exec_lift, h]
    rfl
  exact hx.bind hf

theorem getElem?_middle (before after : List UInt8) (b : UInt8) : (before ++ [b] ++ after)[before.length]? = some b := by
  rw [List.append_assoc, List.getElem?_append_right (Nat.le_refl _), Nat.sub_self]
  rfl

theorem parses_byte (b : UInt8) (e : ε) : Parses (byte e) [b] b := by
  intro before after
  show (before ++ [b] ++ after)[before.length]?.elim _ _ = _
  rw [getElem?_middle]
  rfl

theorem parses_skip (out : List UInt8) : Parses (skip out.length : ByteReader ε Unit) out () := fun _ _ => rfl

theorem parses_need (e : ε) : Parses (need 0 e) [] () := by
  intro before after
  exact if_neg (by simp)

theorem parses_take (out : List UInt8) (e : ε) : Parses (take out.length e) out out := by
  intro before after
  have hlen : ¬ (before ++ out ++ after).length < before.length + out.length := by
    rw [List.length_append, List.length_append]
    omega
  have htake : ((before ++ out ++ after).drop before.length).take out.length = out := by
    rw [List.append_assoc, List.drop_left, List.take_left]
  show (if _ then _ else Except.ok (((before ++ out ++ after).drop before.length).take out.length, _)) = _
  rw [if_neg hlen, htake]

/-- A run of encodings is read by as many reads. -/
theorem parses_times {outs : List (List UInt8)} {values : List α} (h : List.Forall₂ (Parses r) outs values) :
    Parses (times r values.length) outs.flatten values := by
  induction h with
  | nil => exact .pure []
  | cons hr _ ih => exact hr.bind (ih.bind_pure _)

/-! ## Prefixes -/

/-- A reader that would have read the same before more bytes. -/
def Stable (r : ByteReader ε α) : Prop := ∀ bytes more offset out,
  r.exec bytes offset = .ok out → r.exec (bytes ++ more) offset = .ok out

/-- A reader that leaves its cursor inside the bytes. -/
def Ends (r : ByteReader ε α) : Prop := ∀ bytes offset a o, r.exec bytes offset = .ok (a, o) → o ≤ bytes.length

/-- A reader that does so when it started there. -/
def Stays (r : ByteReader ε α) : Prop := ∀ bytes offset a o,
  offset ≤ bytes.length → r.exec bytes offset = .ok (a, o) → o ≤ bytes.length

theorem Stable.pure (a : α) : Stable (pure a : ByteReader ε α) := fun _ _ _ _ h => h

theorem stable_lift (x : Except ε α) : Stable (liftM x : ByteReader ε α) := by
  intro bytes more offset out h
  rw [exec_lift] at h ⊢
  exact h

theorem Stable.bind (hr : Stable r) (hf : ∀ a, Stable (f a)) : Stable (r >>= f) := by
  intro bytes more offset ⟨b, o'⟩ h
  obtain ⟨a, o, ha, hb⟩ := exec_bind_ok.1 h
  exact exec_bind_ok.2 ⟨a, o, hr bytes more offset _ ha, hf a bytes more o _ hb⟩

theorem getElem?_longer {b : UInt8} {more : List UInt8} (h : bytes[offset]? = some b) :
    (bytes ++ more)[offset]? = some b := by
  rw [List.getElem?_append_left (List.getElem?_eq_some_iff.1 h).1, h]

theorem exec_byte_ok {e : ε} {b : UInt8} {o : Nat} :
    (byte e).exec bytes offset = .ok (b, o) ↔ bytes[offset]? = some b ∧ o = offset + 1 := by
  show bytes[offset]?.elim (.error e) (fun b => Except.ok (b, offset + 1)) = _ ↔ _
  cases bytes[offset]? with
  | none => simp
  | some c =>
    simp only [Option.elim_some, Except.ok.injEq, Prod.mk.injEq, Option.some.injEq]
    exact ⟨fun h => ⟨h.1, h.2.symm⟩, fun h => ⟨h.1, h.2.symm⟩⟩

theorem exec_take_ok {n : Nat} {e : ε} {out : List UInt8} {o : Nat} : (take n e).exec bytes offset = .ok (out, o) ↔
    offset + n ≤ bytes.length ∧ out = (bytes.drop offset).take n ∧ o = offset + n := by
  show (if bytes.length < offset + n then .error e else Except.ok ((bytes.drop offset).take n, offset + n)) = _ ↔ _
  by_cases hn : bytes.length < offset + n
  · rw [if_pos hn]
    exact ⟨fun h => (by cases h), fun h => absurd h.1 (by omega)⟩
  · rw [if_neg hn, Except.ok.injEq, Prod.mk.injEq]
    exact ⟨fun h => ⟨by omega, h.1.symm, h.2.symm⟩, fun h => ⟨h.2.1.symm, h.2.2.symm⟩⟩

theorem exec_need_ok {n : Nat} {e : ε} {u : Unit} {o : Nat} : (need n e).exec bytes offset = .ok (u, o) ↔
    offset + n ≤ bytes.length ∧ o = offset := by
  show (if bytes.length < offset + n then .error e else Except.ok ((), offset)) = _ ↔ _
  by_cases hn : bytes.length < offset + n
  · rw [if_pos hn]
    exact ⟨fun h => (by cases h), fun h => absurd h.1 (by omega)⟩
  · rw [if_neg hn, Except.ok.injEq, Prod.mk.injEq]
    exact ⟨fun h => ⟨by omega, h.2.symm⟩, fun h => ⟨rfl, h.2.symm⟩⟩

theorem stable_byte (e : ε) : Stable (byte e) := by
  intro bytes more offset ⟨b, o⟩ h
  obtain ⟨hb, ho⟩ := exec_byte_ok.1 h
  exact exec_byte_ok.2 ⟨getElem?_longer hb, ho⟩

theorem stable_skip (n : Nat) : Stable (skip n : ByteReader ε Unit) := fun _ _ _ _ h => h

theorem stable_need (n : Nat) (e : ε) : Stable (need n e) := by
  intro bytes more offset ⟨u, o⟩ h
  obtain ⟨hn, ho⟩ := exec_need_ok.1 h
  exact exec_need_ok.2 ⟨by rw [List.length_append]; omega, ho⟩

theorem stable_take (n : Nat) (e : ε) : Stable (take n e) := by
  intro bytes more offset ⟨out, o⟩ h
  obtain ⟨hn, rfl, ho⟩ := exec_take_ok.1 h
  refine exec_take_ok.2 ⟨by rw [List.length_append]; omega, ?_, ho⟩
  rw [List.drop_append_of_le_length (by omega), List.take_append_of_le_length (by rw [List.length_drop]; omega)]

theorem stable_times (hr : Stable r) : ∀ n, Stable (times r n)
  | 0 => .pure _
  | n + 1 => hr.bind fun _ => (stable_times hr n).bind fun _ => .pure _

theorem ends_byte (e : ε) : Ends (byte e) := by
  intro bytes offset b o h
  obtain ⟨hb, rfl⟩ := exec_byte_ok.1 h
  exact (List.getElem?_eq_some_iff.1 hb).1

theorem ends_need (n : Nat) (e : ε) : Ends (need n e) := by
  intro bytes offset u o h
  obtain ⟨hn, rfl⟩ := exec_need_ok.1 h
  omega

theorem ends_bind (hf : ∀ a, Ends (f a)) : Ends (r >>= f) := by
  intro bytes offset b o' h
  obtain ⟨a, o, -, hb⟩ := exec_bind_ok.1 h
  exact hf a bytes o b o' hb

theorem Ends.stays (hr : Ends r) : Stays r := fun bytes offset a o _ h => hr bytes offset a o h

theorem Ends.bind (hr : Ends r) (hf : ∀ a, Stays (f a)) : Ends (r >>= f) := by
  intro bytes offset b o' h
  obtain ⟨a, o, ha, hb⟩ := exec_bind_ok.1 h
  exact hf a bytes o b o' (hr bytes offset a o ha) hb

theorem Stays.pure (a : α) : Stays (pure a : ByteReader ε α) := by
  intro bytes offset _ o ho h
  rw [exec_pure] at h
  cases h
  exact ho

theorem Stays.bind (hr : Stays r) (hf : ∀ a, Stays (f a)) : Stays (r >>= f) := by
  intro bytes offset b o' ho h
  obtain ⟨a, o, ha, hb⟩ := exec_bind_ok.1 h
  exact hf a bytes o b o' (hr bytes offset a o ho ha) hb

theorem stays_times (hr : Stays r) : ∀ n, Stays (times r n)
  | 0 => .pure _
  | n + 1 => hr.bind fun _ => (stays_times hr n).bind fun _ => .pure _

/-- **A strict prefix of what a stable reader parses is not read**: read, it would have ended before the end of the whole. -/
theorem Parses.truncated {out : List UInt8} {a : α} (hp : Parses r out a) (hs : Stable r) (he : Ends r) {n : Nat}
    (hn : n < out.length) : ∃ e, r.exec (out.take n) 0 = .error e := by
  cases hr : r.exec (out.take n) 0 with
  | error e => exact ⟨e, rfl⟩
  | ok p =>
    obtain ⟨b, o⟩ := p
    have hend := he _ _ _ _ hr
    have hwhole := hs _ (out.drop n) _ _ hr
    rw [List.take_append_drop] at hwhole
    have hread := hp [] []
    rw [List.nil_append, List.append_nil, List.length_nil, hwhole] at hread
    obtain ⟨-, ho⟩ := Prod.mk.inj (Except.ok.inj hread)
    rw [List.length_take] at hend
    omega

end ByteReader
