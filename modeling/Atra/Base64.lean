import Mathlib.Data.List.Basic
import Mathlib.Tactic.Common
/-!
# Base64 — bytes as text

Three bytes are four digits of six bits; a short last group is padded with `=`.  Decoding takes the padding at the end only
and reads back every encoding (`decode_encode`).
-/
namespace Base64

def ALPHABET : List Char := "ABCDEFGHIJKLMNOPQRSTUVWXYZabcdefghijklmnopqrstuvwxyz0123456789+/".toList

/-- The character of six bits. -/
def digit (n : Nat) : Char := ALPHABET.getD n '='

/-- The six bits of a character. -/
def value (c : Char) : Option Nat := ALPHABET.idxOf? c

def encodeList : List UInt8 → List Char
  | [] => []
  | [a] => [digit (a.toNat / 4), digit (a.toNat % 4 * 16), '=', '=']
  | [a, b] => [digit (a.toNat / 4), digit (a.toNat % 4 * 16 + b.toNat / 16), digit (b.toNat % 16 * 4), '=']
  | a :: b :: c :: rest =>
    digit (a.toNat / 4) :: digit (a.toNat % 4 * 16 + b.toNat / 16) :: digit (b.toNat % 16 * 4 + c.toNat / 64) ::
      digit (c.toNat % 64) :: encodeList rest

def encode (bytes : List UInt8) : String := String.ofList (encodeList bytes)

/-- The bytes of one full group. -/
def group (w x y z : Nat) : List UInt8 :=
  [UInt8.ofNat (w * 4 + x / 16), UInt8.ofNat (x % 16 * 16 + y / 4), UInt8.ofNat (y % 4 * 64 + z)]

/-- The bytes of a last group, which may be padded. -/
def lastGroup (w x : Nat) (y z : Char) : Option (List UInt8) :=
  if y = '=' ∧ z = '=' then some [UInt8.ofNat (w * 4 + x / 16)]
  else if z = '=' then (value y).map fun y => [UInt8.ofNat (w * 4 + x / 16), UInt8.ofNat (x % 16 * 16 + y / 4)]
  else do
    let y ← value y
    let z ← value z
    return group w x y z

def decodeList : List Char → Option (List UInt8)
  | [] => some []
  | [w, x, y, z] => do
    let w ← value w
    let x ← value x
    lastGroup w x y z
  | w :: x :: y :: z :: rest => do
    let w ← value w
    let x ← value x
    let y ← value y
    let z ← value z
    let bytes ← decodeList rest
    return group w x y z ++ bytes
  | _ => none

def decode (text : String) : Option (List UInt8) := decodeList text.toList

/-! ## Round trip -/

/-- **Every six bits are the value of their character.** -/
theorem value_digit {n : Nat} (h : n < 64) : value (digit n) = some n := by
  have hall : (List.range 64).all (fun n => value (digit n) == some n) = true := by decide +kernel
  exact beq_iff_eq.1 (List.all_eq_true.1 hall n (List.mem_range.2 h))

theorem digit_ne_pad {n : Nat} (h : n < 64) : digit n ≠ '=' := by
  intro he
  have hv := value_digit h
  rw [he] at hv
  exact absurd hv (by rw [show value '=' = none by decide +kernel]; exact (by simp))

theorem ofNat_eq {a : UInt8} {n : Nat} (h : n = a.toNat) : UInt8.ofNat n = a := by
  rw [h, UInt8.ofNat_toNat]

theorem group_digits (a b c : UInt8) :
    group (a.toNat / 4) (a.toNat % 4 * 16 + b.toNat / 16) (b.toNat % 16 * 4 + c.toNat / 64) (c.toNat % 64) =
      [a, b, c] := by
  have hb := b.toNat_lt
  have hc := c.toNat_lt
  unfold group
  rw [ofNat_eq (a := a) (by omega), ofNat_eq (a := b) (by omega), ofNat_eq (a := c) (by omega)]

theorem encodeList_ne_nil {b : UInt8} {rest : List UInt8} : encodeList (b :: rest) ≠ [] := by
  rcases rest with _ | ⟨c, _ | ⟨d, rest⟩⟩
  · simp [encodeList]
  · simp [encodeList]
  · simp [encodeList]

theorem decodeList_encodeList (bytes : List UInt8) : decodeList (encodeList bytes) = some bytes := by
  fun_induction encodeList bytes with
  | case1 => rfl
  | case2 a =>
    have ha := a.toNat_lt
    simp only [decodeList, value_digit (show a.toNat / 4 < 64 by omega),
      value_digit (show a.toNat % 4 * 16 < 64 by omega), Option.bind_eq_bind, Option.bind_some]
    show some [UInt8.ofNat _] = _
    rw [ofNat_eq (a := a) (by omega)]
  | case3 a b =>
    have ha := a.toNat_lt
    have hb := b.toNat_lt
    have hy : b.toNat % 16 * 4 < 64 := by omega
    simp only [decodeList, value_digit (show a.toNat / 4 < 64 by omega),
      value_digit (show a.toNat % 4 * 16 + b.toNat / 16 < 64 by omega), Option.bind_eq_bind, Option.bind_some]
    unfold lastGroup
    rw [if_neg (fun h => digit_ne_pad hy h.1), if_pos rfl, value_digit hy, Option.map_some,
      ofNat_eq (a := a) (by omega), ofNat_eq (a := b) (by omega)]
  | case4 a b c rest ih =>
    have ha := a.toNat_lt
    have hb := b.toNat_lt
    have hc := c.toNat_lt
    have hw := value_digit (show a.toNat / 4 < 64 by omega)
    have hx := value_digit (show a.toNat % 4 * 16 + b.toNat / 16 < 64 by omega)
    have hy := value_digit (show b.toNat % 16 * 4 + c.toNat / 64 < 64 by omega)
    have hz : c.toNat % 64 < 64 := by omega
    cases hrest : encodeList rest with
    | nil =>
      obtain rfl : rest = [] := by
        cases rest with
        | nil => rfl
        | cons d rest => exact absurd hrest encodeList_ne_nil
      simp only [decodeList, hw, hx, Option.bind_eq_bind, Option.bind_some]
      unfold lastGroup
      rw [if_neg (fun h => digit_ne_pad hz h.2), if_neg (digit_ne_pad hz), hy, value_digit hz]
      exact congrArg some (group_digits a b c)
    | cons t ts =>
      rw [hrest] at ih
      simp only [decodeList, hw, hx, hy, value_digit hz, ih, Option.bind_eq_bind, Option.bind_some]
      exact congrArg some (congrArg (· ++ rest) (group_digits a b c))

theorem decode_encode (bytes : List UInt8) : decode (encode bytes) = some bytes := by
  unfold decode encode
  rw [String.toList_ofList, decodeList_encodeList]

end Base64
