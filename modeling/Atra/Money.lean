import Atra.Decimal
import Atra.Rounding
/-!
# Money — fixed-scale amounts and their directed conversions

Every value is an integer of a fixed scale: micro-USD, atto-USD prices, base-unit amounts.  A malformed text is an error
rather than a coerced number.  Each conversion has its equation in terms of `Rounding`, and each text its exact rational
(`exactUsd`, `exactPrice`), so that a check on micros can be read as a statement about dollars.
-/
namespace Atra

/-- The error codes the modelled components raise. -/
inductive ErrorCode where
  | schemaInvalid | notFound | conflict | alreadyInitialized | modePaperOnly | liveActivationIncomplete | adapterUnavailable
  | chainUnsupported | vaultAlreadyExists | vaultNotFound | vaultCorrupt | vaultLocked | upstreamUnavailable | dataStale
  | telegramAlreadyPaired | rateLimited | invalidCredentials | setupRequired | internal
deriving DecidableEq, Repr

structure AppError where
  code : ErrorCode
  message : String
deriving DecidableEq, Repr

/-- A function of the runtime that may throw. -/
abbrev Result := Except AppError

section
variable {ε α β : Type}

/-- A sequence succeeds when its first part does and the rest does on what that returned. -/
theorem bind_ok {x : Except ε α} {f : α → Except ε β} {b : β} : (x >>= f) = .ok b ↔ ∃ a, x = .ok a ∧ f a = .ok b := by
  cases x with
  | error e => simp [bind, Except.bind]
  | ok a => simp [bind, Except.bind]

theorem pure_ok {a b : α} : (pure a : Except ε α) = .ok b ↔ a = b := by simp [pure, Except.pure]

/-- A computation over a list succeeds with what it returns of each member. -/
theorem mapM_ok {f : α → Except ε β} {xs : List α} {ys : List β} :
    xs.mapM f = .ok ys ↔ List.Forall₂ (fun x y => f x = .ok y) xs ys := by
  induction xs generalizing ys with
  | nil =>
    rw [List.mapM_nil, pure_ok, List.forall₂_nil_left_iff]
    exact eq_comm
  | cons x xs ih =>
    simp only [List.mapM_cons, bind_ok, pure_ok, List.forall₂_cons_left_iff, ih]
    constructor
    · rintro ⟨y, hy, ys', hys, rfl⟩
      exact ⟨y, ys', hy, hys, rfl⟩
    · rintro ⟨y, ys', hy, hys, rfl⟩
      exact ⟨y, hy, ys', hys, rfl⟩

/-- What a computation that may throw returns, tested. -/
instance decidableExistsOk {x : Except ε α} {P : α → Prop} [DecidablePred P] : Decidable (∃ a, x = .ok a ∧ P a) :=
  match x with
  | .ok a => decidable_of_iff (P a) (by simp)
  | .error _ => isFalse (by simp)

instance decidableExistsSome {x : Option α} {P : α → Prop} [DecidablePred P] : Decidable (∃ a, x = some a ∧ P a) :=
  match x with
  | some a => decidable_of_iff (P a) (by simp)
  | none => isFalse (by simp)

end

/-- Throw where a condition holds. -/
def refuseWhen (c : Prop) [Decidable c] (e : AppError) : Result Unit := if c then throw e else pure ()

theorem refuseWhen_ok {c : Prop} [Decidable c] {e : AppError} {u : Unit} : refuseWhen c e = .ok u ↔ ¬ c := by
  unfold refuseWhen
  by_cases h : c
  · rw [if_pos h]
    simp [throw, throwThe, MonadExceptOf.throw, h]
  · rw [if_neg h]
    simp [pure, Except.pure, h]

def Throws {α : Type} (code : ErrorCode) (x : Result α) : Prop := ∀ e, x = .error e → e.code = code

section
variable {α β : Type} {code : ErrorCode} {x : Result α} {f : α → Result β}

theorem Throws.pure (a : α) : Throws code (pure a : Result α) := fun _ h => by cases h

theorem Throws.refuseWhen {c : Prop} [Decidable c] (message : String) : Throws code (refuseWhen c ⟨code, message⟩) := by
  intro e h
  unfold Atra.refuseWhen at h
  by_cases hc : c
  · rw [if_pos hc] at h
    obtain rfl := Except.error.inj h
    rfl
  · rw [if_neg hc] at h
    cases h

/-- The rest of a sequence runs only on what its first part returned. -/
theorem Throws.bind_ok (hx : Throws code x) (hf : ∀ a, x = .ok a → Throws code (f a)) : Throws code (x >>= f) := by
  intro e h
  cases hr : x with
  | error e' =>
    rw [hr] at h
    obtain rfl : e' = e := Except.error.inj h
    exact hx e' hr
  | ok a =>
    rw [hr] at h
    exact hf a hr e h

theorem Throws.bind (hx : Throws code x) (hf : ∀ a, Throws code (f a)) : Throws code (x >>= f) :=
  hx.bind_ok fun a _ => hf a

theorem Throws.map (hx : Throws code x) (g : α → β) : Throws code (g <$> x) := by
  rw [map_eq_pure_bind]
  exact hx.bind fun a => .pure (g a)

theorem Throws.ite {c : Prop} [Decidable c] {y : Result α} (hx : Throws code x) (hy : Throws code y) :
    Throws code (if c then x else y) := by
  by_cases hc : c
  · rw [if_pos hc]
    exact hx
  · rw [if_neg hc]
    exact hy

end

/-- A computation that does not throw. -/
def Returns {ε α : Type} (x : Except ε α) : Prop := ∃ a, x = .ok a

section
variable {ε α β : Type} {x : Except ε α} {f : α → Except ε β} {P Q : Prop}

@[simp] theorem returns_ok (a : α) : Returns (.ok a : Except ε α) := ⟨a, rfl⟩

@[simp] theorem returns_pure (a : α) : Returns (pure a : Except ε α) := ⟨a, rfl⟩

/-- A sequence returns when its first part does and the rest then does, whatever the first part returned. -/
theorem returns_bind (hx : Returns x ↔ P) (hf : ∀ a, x = .ok a → (Returns (f a) ↔ Q)) : Returns (x >>= f) ↔ P ∧ Q := by
  rw [← hx]
  constructor
  · rintro ⟨b, h⟩
    obtain ⟨a, ha, hb⟩ := bind_ok.1 h
    exact ⟨⟨a, ha⟩, (hf a ha).1 ⟨b, hb⟩⟩
  · rintro ⟨⟨a, ha⟩, hq⟩
    obtain ⟨b, hb⟩ := (hf a ha).2 hq
    exact ⟨b, bind_ok.2 ⟨a, ha, hb⟩⟩

theorem Returns.bind (hx : Returns x) (hf : ∀ a, x = .ok a → Returns (f a)) : Returns (x >>= f) := by
  obtain ⟨a, ha⟩ := hx
  obtain ⟨b, hb⟩ := hf a ha
  exact ⟨b, bind_ok.2 ⟨a, ha, hb⟩⟩

theorem returns_bind_of (hx : Returns x) (hf : ∀ a, x = .ok a → (Returns (f a) ↔ Q)) : Returns (x >>= f) ↔ Q := by
  rw [returns_bind (iff_true_intro hx) hf, true_and]

theorem returns_bind_iff (hx : Returns x ↔ P) (hf : ∀ a, x = .ok a → Returns (f a)) : Returns (x >>= f) ↔ P := by
  rw [returns_bind hx fun a ha => iff_true_intro (hf a ha), and_true]

end

def jsonEscape (c : Char) : String :=
  match c.toNat with
  | 8 => "\\b"
  | 9 => "\\t"
  | 10 => "\\n"
  | 12 => "\\f"
  | 13 => "\\r"
  | 34 => "\\\""
  | 92 => "\\\\"
  | n => if n < 32 then "\\u00" ++ String.ofList [(n / 16).digitChar, (n % 16).digitChar] else String.ofList [c]

/-- `JSON.stringify` of a string. -/
def jsonStringify (s : String) : String := "\"" ++ String.join (s.toList.map jsonEscape) ++ "\""

namespace Money

def USD_SCALE : Int := 1000000
def PRICE_SCALE : Int := 1000000000000000000
def BPS_DENOM : Int := 10000

def moneyFormatError (message : String) : AppError := ⟨.schemaInvalid, message⟩

def splitSign : List Char → Bool × List Char
  | '-' :: cs => (true, cs)
  | cs => (false, cs)

def usdToMicros (value : String) : Result Int :=
  match Decimal.read 6 (splitSign value.toList).2 with
  | none => throw (moneyFormatError ("Malformed USD value: " ++ jsonStringify value))
  | some n => pure (if (splitSign value.toList).1 then -(n.scaled : Int) else n.scaled)

def padStart (s : String) (width : Nat) : String := String.ofList (Decimal.padLeft width s.toList)

def microsToUsd (micros : Int) : String :=
  (if micros < 0 then "-" else "") ++ toString (micros.natAbs / 1000000) ++ "." ++
    padStart (toString (micros.natAbs % 1000000)) 6

def priceToAtto (value : String) : Result Int :=
  match Decimal.read 18 value.toList with
  | none => throw (moneyFormatError ("Malformed price: " ++ jsonStringify value))
  | some n => pure n.scaled

def amountToBigint (value : String) : Result Int :=
  if Decimal.isInteger value.toList then pure (Decimal.natOf value.toList)
  else throw (moneyFormatError ("Malformed amount: " ++ jsonStringify value))

def ceilDiv (a b : Int) : Result Int :=
  if b ≤ 0 then throw (moneyFormatError "Division by a non-positive denominator")
  else if a ≤ 0 then pure (a.tdiv b)
  else pure ((a + b - 1).tdiv b)

def floorDiv (a b : Int) : Result Int :=
  if b ≤ 0 then throw (moneyFormatError "Division by a non-positive denominator") else pure (a.tdiv b)

inductive Direction where
  | ceil | floor
deriving DecidableEq, Repr

def nativeToUsdMicros (amount : Int) (decimals : Nat) (priceAtto : Int) (rounding : Direction) : Result Int :=
  if decimals > 36 then throw (moneyFormatError ("Unsupported token decimals: " ++ toString decimals))
  else if priceAtto ≤ 0 then throw (moneyFormatError "Cannot value an amount at a non-positive price")
  else match rounding with
    | .ceil => ceilDiv (amount * priceAtto) (10 ^ decimals * (PRICE_SCALE.tdiv USD_SCALE))
    | .floor => floorDiv (amount * priceAtto) (10 ^ decimals * (PRICE_SCALE.tdiv USD_SCALE))

def impliedSlippageBps (expectedOut minOut : Int) : Result Int :=
  if expectedOut ≤ 0 then throw (moneyFormatError "Quote has a non-positive expected output")
  else if minOut < 0 then throw (moneyFormatError "Quote has a negative minimum output")
  else if expectedOut < minOut then throw (moneyFormatError "Quote minimum exceeds expected output")
  else ceilDiv ((expectedOut - minOut) * BPS_DENOM) expectedOut

def bpsOf (value : Int) (bps : Nat) : Result Int :=
  if bps > 10000 then throw (moneyFormatError ("Basis points out of range: " ++ toString bps))
  else ceilDiv (value * bps) BPS_DENOM

def maxBigint (a b : Int) : Int := if a > b then a else b

/-! ## Texts and their exact values -/

/-- The exact rational a USD text stands for. -/
def exactUsd (value : String) : Option ℚ :=
  (Decimal.read 6 (splitSign value.toList).2).map fun n => if (splitSign value.toList).1 then -n.value else n.value

/-- The exact rational a price text stands for. -/
def exactPrice (value : String) : Option ℚ := (Decimal.read 18 value.toList).map Decimal.Numeral.value

theorem cast_signed (neg : Bool) (a : Nat) (v : ℚ) (h : (a : ℚ) = v * 10 ^ 6) :
    ((if neg then -(a : Int) else a : Int) : ℚ) = (if neg then -v else v) * 10 ^ 6 := by
  cases neg
  · simpa using h
  · simp [h]

/-- **Micro-USD are exact**: a USD text parses exactly when it stands for a rational, and to a million times it. -/
theorem usdToMicros_ok {value : String} {m : Int} :
    usdToMicros value = .ok m ↔ ∃ v, exactUsd value = some v ∧ (m : ℚ) = v * 10 ^ 6 := by
  unfold usdToMicros exactUsd
  cases hr : Decimal.read 6 (splitSign value.toList).2 with
  | none =>
    constructor
    · intro h
      cases h
    · rintro ⟨v, hv, -⟩
      cases hv
  | some n =>
    have hn := cast_signed (splitSign value.toList).1 n.scaled n.value n.scaled_eq
    simp only [Option.map_some, Option.some.injEq, exists_eq_left']
    rw [← hn]
    constructor
    · intro h
      exact congrArg Int.cast (Except.ok.inj h).symm
    · intro h
      exact congrArg Except.ok (Int.cast_injective h).symm

theorem priceToAtto_ok {value : String} {a : Int} :
    priceToAtto value = .ok a ↔ ∃ p, exactPrice value = some p ∧ (a : ℚ) = p * 10 ^ 18 := by
  unfold priceToAtto exactPrice
  cases hr : Decimal.read 18 value.toList with
  | none =>
    constructor
    · intro h
      cases h
    · rintro ⟨p, hp, -⟩
      cases hp
  | some n =>
    have hn : ((n.scaled : Int) : ℚ) = n.value * 10 ^ 18 := n.scaled_eq
    simp only [Option.map_some, Option.some.injEq, exists_eq_left']
    rw [← hn]
    constructor
    · intro h
      exact congrArg Int.cast (Except.ok.inj h).symm
    · intro h
      exact congrArg Except.ok (Int.cast_injective h).symm

theorem amountToBigint_ok {value : String} {a : Int} :
    amountToBigint value = .ok a ↔ Decimal.isInteger value.toList = true ∧ a = Decimal.natOf value.toList := by
  unfold amountToBigint
  split
  · rename_i hi
    constructor
    · intro h
      cases h
      exact ⟨hi, rfl⟩
    · rintro ⟨-, rfl⟩
      rfl
  · rename_i hi
    constructor
    · intro h
      cases h
    · rintro ⟨h, -⟩
      exact absurd h hi

theorem amountToBigint_nonneg {value : String} {a : Int} (h : amountToBigint value = .ok a) : 0 ≤ a := by
  obtain ⟨-, rfl⟩ := amountToBigint_ok.1 h
  omega

/-- **Every amount the runtime prints is one it reads back.** -/
theorem amountToBigint_toString (n : Nat) : amountToBigint (toString n) = .ok (n : Int) := by
  have hl : (toString n).toList = Nat.toDigits 10 n := Nat.toList_repr
  rw [amountToBigint_ok, hl, Decimal.natOf_toDigits]
  exact ⟨Decimal.isInteger_toDigits n, rfl⟩

theorem amountToBigint_intToString {z : Int} (h : 0 ≤ z) : amountToBigint (toString z) = .ok z := by
  obtain ⟨n, rfl⟩ := Int.eq_ofNat_of_zero_le h
  exact amountToBigint_toString n

/-- A printed integer that reads back is the one that was printed. -/
theorem eq_of_amountToBigint_intToString {z a : Int} (h : amountToBigint (toString z) = .ok a) : a = z := by
  cases z with
  | ofNat n => exact Except.ok.inj (h.symm.trans (amountToBigint_toString n))
  | negSucc n =>
    have hl : (toString (Int.negSucc n)).toList = '-' :: (toString (n + 1)).toList := by
      rw [show toString (Int.negSucc n) = "-" ++ toString (n + 1) from rfl, String.toList_append]
      rfl
    have hi := (amountToBigint_ok.1 h).1
    rw [hl] at hi
    simp [Decimal.isInteger, show ('-').isDigit = false from by decide] at hi

theorem intToString_inj {a b : Int} (h : toString a = toString b) : a = b := by
  cases a with
  | ofNat n => exact eq_of_amountToBigint_intToString (h ▸ amountToBigint_toString n)
  | negSucc n =>
    cases b with
    | ofNat m => exact (eq_of_amountToBigint_intToString (h ▸ amountToBigint_toString m)).symm
    | negSucc m =>
      have hminus (k : Nat) : toString (Int.negSucc k) = "-" ++ toString (k + 1) := rfl
      rw [hminus, hminus, String.append_right_inj] at h
      have hread := amountToBigint_toString (n + 1)
      rw [h, amountToBigint_toString] at hread
      have hsucc : (m + 1 : Nat) = (n + 1 : Nat) := Int.ofNat.inj (Except.ok.inj hread)
      rw [Nat.succ.inj hsucc]

theorem splitSign_digits {cs : List Char} (h : ∀ c, cs.head? = some c → c ≠ '-') : splitSign cs = (false, cs) := by
  unfold splitSign
  split
  · rename_i cs'
    exact absurd rfl (h '-' rfl)
  · rfl

theorem render_head (m : Nat) (c : Char) (h : (Decimal.render 6 m).head? = some c) : c ≠ '-' := by
  unfold Decimal.render at h
  cases hd : Nat.toDigits 10 (m / 10 ^ 6) with
  | nil => exact absurd hd Nat.toDigits_ne_nil
  | cons d ds =>
    have hall := Decimal.toDigits_all_isDigit (m / 10 ^ 6)
    rw [hd] at h hall
    obtain rfl := Option.some.inj h
    rintro rfl
    exact absurd hall (by simp [show ('-').isDigit = false from by decide])

theorem microsToUsd_toList (m : Int) :
    (microsToUsd m).toList = (if m < 0 then ['-'] else []) ++ Decimal.render 6 m.natAbs := by
  have hp (a : Nat) : (toString a).toList = Nat.toDigits 10 a := Nat.toList_repr
  unfold microsToUsd padStart Decimal.render
  rw [String.toList_append, String.toList_append, String.toList_append, String.toList_ofList, hp, hp]
  split <;> simp

/-- **Round trip of USD texts**: what is rendered parses back to the same number of micros. -/
theorem usdToMicros_microsToUsd (m : Int) : usdToMicros (microsToUsd m) = .ok m := by
  obtain ⟨n, hn, hs⟩ := Decimal.read_render (k := 6) (by decide) m.natAbs
  unfold usdToMicros
  rw [microsToUsd_toList]
  by_cases hm : m < 0
  · rw [if_pos hm, List.singleton_append]
    simp only [splitSign, hn, hs, if_true]
    exact congrArg Except.ok (by omega)
  · rw [if_neg hm, List.nil_append, splitSign_digits (render_head m.natAbs)]
    simp only [hn, hs]
    exact congrArg Except.ok (by simp; omega)

/-! ## Directed conversions -/

theorem ceilDiv_throws (a b : Int) : Throws .schemaInvalid (ceilDiv a b) := by
  intro e h
  unfold ceilDiv at h
  by_cases hb : b ≤ 0
  · rw [if_pos hb] at h
    obtain rfl := Except.error.inj h
    rfl
  · rw [if_neg hb] at h
    exact Throws.ite (.pure _) (.pure _) e h

theorem floorDiv_throws (a b : Int) : Throws .schemaInvalid (floorDiv a b) := by
  intro e h
  unfold floorDiv at h
  by_cases hb : b ≤ 0
  · rw [if_pos hb] at h
    obtain rfl := Except.error.inj h
    rfl
  · rw [if_neg hb] at h
    cases h

theorem ceilDiv_eq {a b : Int} (hb : 0 < b) : ceilDiv a b = .ok (Rounding.up a b) := by
  unfold ceilDiv
  rw [if_neg (by omega)]
  split
  · rename_i ha
    rw [Rounding.tdiv_eq_up ha]; rfl
  · rw [Rounding.tdiv_add_eq_up (by omega) hb]; rfl

theorem floorDiv_eq {a b : Int} (hb : 0 < b) (ha : 0 ≤ a) : floorDiv a b = .ok (Rounding.down a b) := by
  unfold floorDiv
  rw [if_neg (by omega), Rounding.tdiv_eq_down ha]
  rfl

/-- The denominator of a valuation: base units times atto-USD per micro-USD. -/
def usdUnit (decimals : Nat) : Int := 10 ^ decimals * 1000000000000

theorem usdUnit_pos (decimals : Nat) : 0 < usdUnit decimals :=
  Int.mul_pos (Int.pow_pos (by decide)) (by decide)

theorem usdUnit_eq (decimals : Nat) : 10 ^ decimals * (PRICE_SCALE.tdiv USD_SCALE) = usdUnit decimals := by
  have h : PRICE_SCALE.tdiv USD_SCALE = 1000000000000 := by decide
  rw [h, usdUnit]

/-- **A valuation rounded up** is the ceiling of amount times price over the unit. -/
theorem nativeToUsdMicros_ceil {amount priceAtto : Int} {decimals : Nat} (hd : decimals ≤ 36) (hp : 0 < priceAtto) :
    nativeToUsdMicros amount decimals priceAtto .ceil = .ok (Rounding.up (amount * priceAtto) (usdUnit decimals)) := by
  unfold nativeToUsdMicros
  rw [if_neg (by omega), if_neg (by omega)]
  simp only [usdUnit_eq]
  exact ceilDiv_eq (usdUnit_pos decimals)

theorem nativeToUsdMicros_floor {amount priceAtto : Int} {decimals : Nat} (hd : decimals ≤ 36) (hp : 0 < priceAtto)
    (ha : 0 ≤ amount) :
    nativeToUsdMicros amount decimals priceAtto .floor =
      .ok (Rounding.down (amount * priceAtto) (usdUnit decimals)) := by
  unfold nativeToUsdMicros
  rw [if_neg (by omega), if_neg (by omega)]
  simp only [usdUnit_eq]
  exact floorDiv_eq (usdUnit_pos decimals) (Int.mul_nonneg ha hp.le)

theorem nativeToUsdMicros_guards {amount priceAtto value : Int} {decimals : Nat} {rounding : Direction}
    (h : nativeToUsdMicros amount decimals priceAtto rounding = .ok value) : decimals ≤ 36 ∧ 0 < priceAtto := by
  unfold nativeToUsdMicros at h
  split at h
  · cases h
  · split at h
    · cases h
    · exact ⟨by omega, by omega⟩

theorem nativeToUsdMicros_nonneg {amount priceAtto value : Int} {decimals : Nat} {rounding : Direction} (ha : 0 ≤ amount)
    (h : nativeToUsdMicros amount decimals priceAtto rounding = .ok value) : 0 ≤ value := by
  obtain ⟨hd, hp⟩ := nativeToUsdMicros_guards h
  have hv : 0 ≤ amount * priceAtto := Int.mul_nonneg ha hp.le
  cases rounding with
  | ceil =>
    rw [nativeToUsdMicros_ceil hd hp] at h
    obtain rfl := Except.ok.inj h
    exact Rounding.up_nonneg (usdUnit_pos decimals) hv
  | floor =>
    rw [nativeToUsdMicros_floor hd hp ha] at h
    obtain rfl := Except.ok.inj h
    exact Rounding.down_nonneg (usdUnit_pos decimals) hv

/-- The exact USD value of a base-unit amount at an atto-USD price. -/
def exactValue (amount : Int) (decimals : Nat) (priceAtto : Int) : ℚ :=
  (amount : ℚ) / 10 ^ decimals * ((priceAtto : ℚ) / 10 ^ 18)

theorem exactValue_eq (amount : Int) (decimals : Nat) (priceAtto : Int) :
    exactValue amount decimals priceAtto * 10 ^ 6 = ((amount * priceAtto : Int) : ℚ) / (usdUnit decimals : Int) := by
  have h10 : (10 : ℚ) ^ decimals ≠ 0 := by positivity
  unfold exactValue usdUnit
  push_cast
  field_simp
  norm_num

theorem exactValue_le_up (amount : Int) (decimals : Nat) (priceAtto : Int) :
    exactValue amount decimals priceAtto * 10 ^ 6 ≤ Rounding.up (amount * priceAtto) (usdUnit decimals) := by
  rw [exactValue_eq]
  exact Rounding.div_le_up _ (usdUnit_pos decimals)

theorem down_le_exactValue (amount : Int) (decimals : Nat) (priceAtto : Int) :
    (Rounding.down (amount * priceAtto) (usdUnit decimals) : ℚ) ≤ exactValue amount decimals priceAtto * 10 ^ 6 := by
  rw [exactValue_eq]
  exact Rounding.down_le_div _ (usdUnit_pos decimals)

theorem bpsOf_eq {value : Int} {bps : Nat} (h : bps ≤ 10000) : bpsOf value bps = .ok (Rounding.up (value * bps) 10000) := by
  unfold bpsOf
  rw [if_neg (by omega)]
  exact ceilDiv_eq (by decide)

/-- **The implied slippage of a well-formed quote**, rounded up. -/
theorem impliedSlippageBps_eq {expectedOut minOut : Int} (he : 0 < expectedOut) (h0 : 0 ≤ minOut)
    (hle : minOut ≤ expectedOut) :
    impliedSlippageBps expectedOut minOut = .ok (Rounding.up ((expectedOut - minOut) * 10000) expectedOut) := by
  unfold impliedSlippageBps
  rw [if_neg (by omega), if_neg (by omega), if_neg (by omega)]
  exact ceilDiv_eq he

theorem le_maxBigint_left (a b : Int) : a ≤ maxBigint a b := by
  unfold maxBigint
  split <;> omega

theorem le_maxBigint_right (a b : Int) : b ≤ maxBigint a b := by
  unfold maxBigint
  split <;> omega

end Money
end Atra
