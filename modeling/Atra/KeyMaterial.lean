import Mathlib.Data.List.Basic
import Mathlib.Order.Nat
/-!
# KeyMaterial — buffers that are wiped, and boxes that only their key opens

A heap holds buffers under the numbers they were allocated at.  A step keeps what it does not wipe (`Kept`); so a buffer that
nobody else owns still holds what was put in it.  A sealed box opens under the key, nonce and associated data it was sealed
under, and an ideal cipher has no other boxes (`Aead`).
-/

namespace Buffers

/-- Buffers, in the order they were allocated. -/
abbrev Heap (α : Type) := List (List α)

section
variable {α : Type}

def read (h : Heap α) (b : Nat) : List α := h.getD b []

/-- A new buffer, and its number. -/
def alloc (h : Heap α) (bytes : List α) : Heap α × Nat := (h ++ [bytes], h.length)

/-- Overwrite a buffer in place. -/
def wipe [Zero α] (h : Heap α) (b : Nat) : Heap α := h.set b ((read h b).map fun _ => 0)

/-- No buffer is lost, and those not in `wiped` hold what they held. -/
structure Kept (wiped : Nat → Prop) (h h' : Heap α) : Prop where
  length_le : h.length ≤ h'.length
  read_eq : ∀ b < h.length, ¬ wiped b → read h' b = read h b

variable {h h' h'' : Heap α} {wiped wiped' : Nat → Prop} {bytes : List α} {b : Nat}

theorem Kept.refl (h : Heap α) : Kept wiped h h := ⟨le_refl _, fun _ _ _ => rfl⟩

theorem Kept.trans (h1 : Kept wiped h h') (h2 : Kept wiped' h' h'') : Kept (fun b => wiped b ∨ wiped' b) h h'' := by
  refine ⟨h1.length_le.trans h2.length_le, fun b hb hno => ?_⟩
  obtain ⟨hw, hw'⟩ := not_or.1 hno
  rw [h2.read_eq b (hb.trans_le h1.length_le) hw', h1.read_eq b hb hw]

theorem Kept.mono (hk : Kept wiped h h') (hsub : ∀ b < h.length, wiped b → wiped' b) : Kept wiped' h h' :=
  ⟨hk.length_le, fun b hb hno => hk.read_eq b hb fun hw => hno (hsub b hb hw)⟩

@[simp] theorem alloc_snd (h : Heap α) (bytes : List α) : (alloc h bytes).2 = h.length := rfl

@[simp] theorem length_alloc (h : Heap α) (bytes : List α) : (alloc h bytes).1.length = h.length + 1 := by
  unfold alloc
  rw [List.length_append, List.length_singleton]

@[simp] theorem read_alloc (h : Heap α) (bytes : List α) : read (alloc h bytes).1 h.length = bytes := by
  unfold read alloc
  simp

theorem alloc_kept (h : Heap α) (bytes : List α) : Kept (fun _ => False) h (alloc h bytes).1 := by
  refine ⟨by rw [length_alloc]; omega, fun b hb _ => ?_⟩
  unfold read alloc
  simp [List.getElem?_append_left hb]

section
variable [Zero α]

@[simp] theorem length_wipe (h : Heap α) (b : Nat) : (wipe h b).length = h.length := by
  unfold wipe
  rw [List.length_set]

theorem wipe_kept (h : Heap α) (b : Nat) : Kept (· = b) h (wipe h b) := by
  refine ⟨(length_wipe h b).ge, fun b' _ hno => ?_⟩
  unfold read wipe
  simp [List.getElem?_set_ne (Ne.symm hno)]

end
end
end Buffers

/-- An ideal cipher: what a key opens was sealed under it, with the associated data it is opened with. -/
structure Aead (K N A P C : Type) where
  encrypt : K → N → A → P → C
  decrypt : K → N → A → C → Option P
  /-- The key and the nonce have the cipher's lengths. -/
  fits : K → N → Prop
  decrypt_encrypt : ∀ {k n} (a : A) (p : P), fits k n → decrypt k n a (encrypt k n a p) = some p
  encrypt_of_decrypt : ∀ {k n a c p}, decrypt k n a c = some p → c = encrypt k n a p
  key_of_encrypt : ∀ {k k' n a p p'}, fits k n → fits k' n → encrypt k n a p = encrypt k' n a p' → k = k'

namespace Aead

variable {K N A P C : Type} (cipher : Aead K N A P C) {k k' : K} {n : N} {a : A} {p p' : P}

/-- **A box opens to what was sealed in it.** -/
theorem plaintext_eq (hk : cipher.fits k n) (h : cipher.decrypt k n a (cipher.encrypt k n a p) = some p') : p' = p := by
  rw [cipher.decrypt_encrypt a p hk] at h
  exact (Option.some.inj h).symm

/-- **A box opens under its own key alone.** -/
theorem decrypt_isSome_iff (hk : cipher.fits k n) (hk' : cipher.fits k' n) :
    (cipher.decrypt k' n a (cipher.encrypt k n a p)).isSome = true ↔ k' = k := by
  constructor
  · intro h
    obtain ⟨p', hp⟩ := Option.isSome_iff_exists.1 h
    exact (cipher.key_of_encrypt hk hk' (cipher.encrypt_of_decrypt hp)).symm
  · rintro rfl
    rw [cipher.decrypt_encrypt a p hk]
    rfl

end Aead
