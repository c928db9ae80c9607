import Atra.Composition
import Atra.LpProposal
import Atra.TickMath
import Atra.Withdrawal
/-!
# MoneyText — money as text, in both directions

Four writers and four readers carry every stored amount.  A writer's text reads back as the number it was written from, and
what a reader accepts is written back in one canonical form.  USD and prices go through the numerals of `Decimal`; the amounts of
a withdrawal have a grammar of their own, which takes leading zeros and is trimmed first (`Amount`).
-/
namespace Atra
namespace MoneyText

open Money TickMath Wallet LpProposalBuilder

/-! ## USD -/

/-- The sign a text carries, and the numeral behind it. -/
theorem splitSign_toList (cs : List Char) : cs = (if (splitSign cs).1 then ['-'] else []) ++ (splitSign cs).2 := by
  unfold splitSign
  split <;> simp

/-- **What `usdToMicros` accepts is written back with its six digits**; only `-0` loses its sign. -/
theorem microsToUsd_usdToMicros {s : String} {m : Int} (h : usdToMicros s = .ok m) :
    ∃ (n : Decimal.Numeral 6) (neg : Bool), s.toList = (if neg then ['-'] else []) ++ n.spelled ∧
      (microsToUsd m).toList = (if neg = true ∧ n.scaled ≠ 0 then ['-'] else []) ++ n.text := by
  unfold usdToMicros at h
  cases hread : Decimal.read 6 (splitSign s.toList).2 with
  | none => rw [hread] at h; cases h
  | some n =>
    rw [hread] at h
    have hm := Except.ok.inj h
    have habs : m.natAbs = n.scaled := by
      rw [← hm]
      split <;> simp
    have hsign : m < 0 ↔ (splitSign s.toList).1 = true ∧ n.scaled ≠ 0 := by
      rw [← hm]
      split
      · rename_i hneg
        simp only [hneg, true_and]
        omega
      · rename_i hneg
        simp only [hneg, Bool.false_eq_true, false_and, iff_false]
        omega
    refine ⟨n, (splitSign s.toList).1, ?_, ?_⟩
    · rw [Decimal.spelled_of_read hread]
      exact splitSign_toList s.toList
    · rw [microsToUsd_toList, habs, Decimal.render_scaled (by decide) n]
      by_cases hlt : m < 0
      · rw [if_pos hlt, if_pos (hsign.1 hlt)]
      · rw [if_neg hlt, if_neg fun hs => hlt (hsign.2 hs)]

/-! ## Prices -/

theorem toList_natCast (n : Nat) : (toString (n : Int)).toList = Nat.toDigits 10 n := Nat.toList_repr

theorem attoToPrice_toList {a : Int} (h : 0 ≤ a) : (attoToPrice a).toList = Decimal.render 18 a.toNat := by
  obtain ⟨n, rfl⟩ := Int.eq_ofNat_of_zero_le h
  have hdiv : (n : Int).tdiv PRICE_SCALE = (n / 10 ^ 18 : Nat) := Int.ofNat_tdiv n (10 ^ 18)
  have hmod : (n : Int).tmod PRICE_SCALE = (n % 10 ^ 18 : Nat) := Int.ofNat_tmod n (10 ^ 18)
  unfold attoToPrice
  rw [hdiv, hmod]
  unfold padStart Decimal.render
  rw [String.toList_append, String.toList_append, String.toList_ofList, toList_natCast, toList_natCast, Int.toNat_natCast]
  simp

theorem priceToAtto_of_render {s : String} {m : Nat} (h : s.toList = Decimal.render 18 m) : priceToAtto s = .ok m := by
  obtain ⟨n, hn, hscaled⟩ := Decimal.read_render (k := 18) (by decide) m
  unfold priceToAtto
  rw [h, hn]
  exact congrArg (fun k : Nat => (Except.ok (k : Int) : Result Int)) hscaled

/-- **A price that is written reads back.** -/
theorem priceToAtto_attoToPrice {a : Int} (h : 0 ≤ a) : priceToAtto (attoToPrice a) = .ok a := by
  rw [priceToAtto_of_render (attoToPrice_toList h), Int.toNat_of_nonneg h]

/-- The exact price of a pool: one whole token0 in whole token1. -/
def exactPoolPrice (sqrtPriceX96 : Nat) (decimals0 decimals1 : Int) : ℚ :=
  ((sqrtPriceX96 : ℚ) / 2 ^ 96) ^ 2 * (10 ^ decimals0.toNat / 10 ^ decimals1.toNat)

theorem priceFromSqrtPriceX96_eq {p : Nat} {d0 d1 : Int} (hp : MIN_SQRT_RATIO ≤ p ∧ p < MAX_SQRT_RATIO)
    (h0 : 0 ≤ d0 ∧ d0 ≤ 36) (h1 : 0 ≤ d1 ∧ d1 ≤ 36) :
    ∃ text, priceFromSqrtPriceX96 p d0 d1 = .ok text ∧
      priceToAtto text = .ok (Rounding.down (p * p * 10 ^ d0.toNat * PRICE_SCALE) (Q96 * Q96 * 10 ^ d1.toNat)) := by
  have hratio : assertSqrtRatio p = .ok () := refuseWhen_ok.2 (by omega)
  have hd0 : assertDecimals d0 "decimals0" = .ok () := refuseWhen_ok.2 (by unfold MAX_DECIMALS; omega)
  have hd1 : assertDecimals d1 "decimals1" = .ok () := refuseWhen_ok.2 (by unfold MAX_DECIMALS; omega)
  have hden : (0 : Int) < Q96 * Q96 * 10 ^ d1.toNat := by
    have hq : (0 : Int) < Q96 := by decide
    positivity
  have hnum : (0 : Int) ≤ p * p * 10 ^ d0.toNat * PRICE_SCALE := by
    have hscale : (0 : Int) ≤ PRICE_SCALE := by decide
    positivity
  have hnonneg := Rounding.down_nonneg hden hnum
  refine ⟨attoToPrice (Rounding.down _ _), ?_, priceToAtto_attoToPrice hnonneg⟩
  unfold priceFromSqrtPriceX96
  rw [hratio, hd0, hd1, floorDiv_eq hden hnum]
  rfl

/-- **The price of a pool reads back as the floor of the exact one, in units of `10^-18`.** -/
theorem down_eq_price (p : Nat) (d0 d1 : Int) :
    Rounding.down (p * p * 10 ^ d0.toNat * PRICE_SCALE) (Q96 * Q96 * 10 ^ d1.toNat) = ⌊exactPoolPrice p d0 d1 * 10 ^ 18⌋ := by
  have hq : (0 : Int) < Q96 := by decide
  have hden : (0 : Int) < Q96 * Q96 * 10 ^ d1.toNat := by positivity
  have hq96 : Q96 = 2 ^ 96 := by decide
  have hscale : (PRICE_SCALE : ℚ) = 10 ^ 18 := by norm_num [PRICE_SCALE]
  rw [Rounding.down_eq_floor _ hden]
  congr 1
  unfold exactPoolPrice
  rw [hq96]
  push_cast
  rw [hscale]
  have h10 : (10 : ℚ) ^ d1.toNat ≠ 0 := by positivity
  field_simp
  norm_num

/-! ## Amounts -/

/-- A text of digits, alone or with a point and further digits behind it. -/
structure Spells (cs whole frac : List Char) : Prop where
  text : cs = whole ++ if frac = [] then [] else '.' :: frac
  whole_digits : whole.all Char.isDigit = true
  frac_digits : frac.all Char.isDigit = true
  whole_ne : whole ≠ []

theorem takeWhile_digits {whole rest : List Char} (h : whole.all Char.isDigit = true)
    (hrest : ∀ c, rest.head? = some c → c.isDigit = false) :
    (whole ++ rest).takeWhile Char.isDigit = whole ∧ (whole ++ rest).dropWhile Char.isDigit = rest := by
  have hall := List.all_eq_true.1 h
  rw [List.takeWhile_append_of_pos hall, List.dropWhile_append_of_pos hall]
  cases rest with
  | nil => simp
  | cons c cs => simp [hrest c rfl]

/-- **The two groups of an amount are the digits on either side of its point.** -/
theorem decimalParts_iff {cs whole frac : List Char} : decimalParts cs = some (whole, frac) ↔ Spells cs whole frac := by
  unfold decimalParts
  dsimp only
  constructor
  · intro h
    have hsplit := List.takeWhile_append_dropWhile (p := Char.isDigit) (l := cs)
    have hdigits : (cs.takeWhile Char.isDigit).all Char.isDigit = true :=
      List.all_eq_true.2 fun c hc => List.mem_takeWhile_imp hc
    by_cases hempty : cs.takeWhile Char.isDigit = []
    · rw [if_pos hempty] at h
      cases h
    · rw [if_neg hempty] at h
      split at h
      · rename_i hdrop
        obtain ⟨rfl, rfl⟩ := Prod.mk.inj (Option.some.inj h)
        rw [hdrop] at hsplit
        exact ⟨hsplit.symm, hdigits, rfl, hempty⟩
      · rename_i c rest hdrop
        by_cases hfrac : c = '.' ∧ rest ≠ [] ∧ rest.all Char.isDigit = true
        · rw [if_pos hfrac] at h
          obtain ⟨rfl, rfl⟩ := Prod.mk.inj (Option.some.inj h)
          obtain ⟨rfl, hne, hall⟩ := hfrac
          rw [hdrop] at hsplit
          exact ⟨by rw [if_neg hne]; exact hsplit.symm, hdigits, hall, hempty⟩
        · rw [if_neg hfrac] at h
          cases h
  · rintro ⟨htext, hwhole, hfrac, hne⟩
    subst htext
    by_cases hnone : frac = []
    · subst hnone
      rw [if_pos rfl, (takeWhile_digits hwhole (by simp)).1, (takeWhile_digits hwhole (by simp)).2, if_neg hne]
    · have hpoint : ∀ c, ('.' :: frac).head? = some c → c.isDigit = false := by
        intro c hc
        obtain rfl := Option.some.inj hc
        decide
      rw [if_neg hnone, (takeWhile_digits hwhole hpoint).1, (takeWhile_digits hwhole hpoint).2, if_neg hne]
      exact if_pos ⟨rfl, hnone, hfrac⟩

/-- The number of base units that an amount's two groups stand for. -/
def unitsOf (whole frac : List Char) (decimals : Nat) : Nat :=
  Decimal.natOf whole * 10 ^ decimals + Decimal.natOf (frac ++ List.replicate (decimals - frac.length) '0')

theorem parseDecimalAmount_of_spells {s : String} {whole frac : List Char} {d : Nat}
    (h : Spells (Live.jsTrim s.toList) whole frac) (hd : frac.length ≤ d) :
    parseDecimalAmount s d = .ok (unitsOf whole frac d) := by
  unfold parseDecimalAmount
  rw [decimalParts_iff.2 h]
  exact if_neg (by omega)

/-- **An amount is accepted exactly when the trimmed text is a decimal with at most `d` digits behind its point.** -/
theorem parseDecimalAmount_returns {s : String} {d : Nat} :
    Returns (parseDecimalAmount s d) ↔ ∃ whole frac, Spells (Live.jsTrim s.toList) whole frac ∧ frac.length ≤ d := by
  constructor
  · rintro ⟨x, h⟩
    unfold parseDecimalAmount at h
    cases hparts : decimalParts (Live.jsTrim s.toList) with
    | none => rw [hparts] at h; cases h
    | some parts =>
      rw [hparts] at h
      refine ⟨parts.1, parts.2, decimalParts_iff.1 hparts, Nat.le_of_not_lt fun hlt => ?_⟩
      dsimp only at h
      rw [if_pos hlt] at h
      cases h
  · rintro ⟨whole, frac, hs, hle⟩
    exact ⟨_, parseDecimalAmount_of_spells hs hle⟩

/-! ### What `formatUnits` writes -/

theorem not_isJsSpace {c : Char} (h : c.isDigit = true ∨ c = '.') : Live.isJsSpace c = false := by
  rcases h with h | rfl
  · simp only [Char.isDigit, Bool.and_eq_true, decide_eq_true_eq] at h
    have hmin : 48 ≤ c.toNat := h.1
    have hmax : c.toNat ≤ 57 := h.2
    simp [Live.isJsSpace]
    omega
  · decide

theorem jsTrim_of_plain {cs : List Char} (h : ∀ c ∈ cs, Live.isJsSpace c = false) : Live.jsTrim cs = cs := by
  have hdrop (l : List Char) (hl : ∀ c ∈ l, Live.isJsSpace c = false) : l.dropWhile Live.isJsSpace = l := by
    cases l with
    | nil => rfl
    | cons c cs => simp [hl c List.mem_cons_self]
  unfold Live.jsTrim
  rw [hdrop cs h, hdrop cs.reverse fun c hc => h c (List.mem_reverse.1 hc), List.reverse_reverse]

/-- The digits that are written behind the point. -/
def keptOf (d m : Nat) : List Char := Decimal.stripZeros (Decimal.padLeft d (Nat.toDigits 10 (m % 10 ^ d)))

/-- They stand for the rest, padded to the token's decimals. -/
theorem keptOf_value (d m : Nat) : (keptOf d m).all Char.isDigit = true ∧ (keptOf d m).length ≤ d ∧
    Decimal.natOf (keptOf d m ++ List.replicate (d - (keptOf d m).length) '0') = m % 10 ^ d := by
  obtain ⟨j, hsplit⟩ := Decimal.stripZeros_append (Decimal.padLeft d (Nat.toDigits 10 (m % 10 ^ d)))
  replace hsplit : Decimal.padLeft d (Nat.toDigits 10 (m % 10 ^ d)) = keptOf d m ++ List.replicate j '0' := hsplit
  refine ⟨Decimal.stripZeros_all (Decimal.padLeft_all_isDigit d _), ?_⟩
  rcases Nat.eq_zero_or_pos d with rfl | hd
  -- without decimals nothing is left behind the point
  · have hnone : keptOf 0 m = [] := by
      unfold keptOf
      rw [Nat.pow_zero, Nat.mod_one]
      rfl
    rw [hnone, Nat.pow_zero, Nat.mod_one]
    exact ⟨Nat.le_refl _, rfl⟩
  · have hlength := congrArg List.length hsplit
    rw [Decimal.length_padLeft (Decimal.length_toDigits_mod_le m hd), List.length_append, List.length_replicate] at hlength
    have hj : d - (keptOf d m).length = j := by omega
    rw [hj, ← hsplit, Decimal.padLeft, Decimal.natOf_zeros_append, Decimal.natOf_toDigits]
    exact ⟨by omega, rfl⟩

/-- **Round trip of amounts**: what is written of a token's base units reads back, whatever the token's decimals. -/
theorem parseDecimalAmount_formatUnits {x : Int} (h : 0 ≤ x) (d : Nat) : parseDecimalAmount (formatUnits x d) d = .ok x := by
  obtain ⟨n, rfl⟩ := Int.eq_ofNat_of_zero_le h
  obtain ⟨hdigits, hle, hvalue⟩ := keptOf_value d n
  generalize hkept : keptOf d n = kept at hdigits hle hvalue
  unfold keptOf Decimal.stripZeros at hkept
  have hp (a : Nat) : (toString a).toList = Nat.toDigits 10 a := Nat.toList_repr
  have htext : (formatUnits n d).toList = Nat.toDigits 10 (n / 10 ^ d) ++ if kept = [] then [] else '.' :: kept := by
    unfold formatUnits padStart
    dsimp only
    rw [if_neg (by omega), Int.natAbs_natCast, String.toList_ofList, hp, String.toList_append, String.toList_append, hp]
    by_cases hnone : kept = []
    · rw [if_pos hnone, if_pos (by rw [← List.reverse_eq_nil_iff, hkept, hnone])]
      simp
    · rw [if_neg hnone, if_neg fun hc => hnone (by rw [← hkept, hc]; rfl), hkept, String.toList_append, String.toList_ofList]
      simp
  have hwhole := Decimal.toDigits_all_isDigit (n / 10 ^ d)
  have hspells : Spells (formatUnits n d).toList (Nat.toDigits 10 (n / 10 ^ d)) kept :=
    ⟨htext, hwhole, hdigits, Nat.toDigits_ne_nil⟩
  have htrim : Live.jsTrim (formatUnits n d).toList = (formatUnits n d).toList := by
    refine jsTrim_of_plain fun c hc => not_isJsSpace ?_
    rw [htext, List.mem_append] at hc
    rcases hc with hc | hc
    · exact .inl (List.all_eq_true.1 hwhole c hc)
    · by_cases hnone : kept = []
      · rw [if_pos hnone] at hc
        cases hc
      · rw [if_neg hnone, List.mem_cons] at hc
        exact hc.elim .inr fun hc => .inl (List.all_eq_true.1 hdigits c hc)
  rw [parseDecimalAmount_of_spells (htrim ▸ hspells) hle]
  unfold unitsOf
  rw [hvalue, Decimal.natOf_toDigits, Nat.div_add_mod']

/-! ## All of them -/

/-- **Money survives its texts.**  USD, prices and amounts read back as what was written; a USD text that is accepted is written
back canonically; a pool's price is readable and is the floor of the exact one; and an amount is accepted exactly when it is,
once trimmed, a decimal with no more digits than the token has. -/
theorem money_texts :
    (∀ m, usdToMicros (microsToUsd m) = .ok m) ∧
    (∀ s m, usdToMicros s = .ok m → ∃ (n : Decimal.Numeral 6) (neg : Bool),
      s.toList = (if neg then ['-'] else []) ++ n.spelled ∧
      (microsToUsd m).toList = (if neg = true ∧ n.scaled ≠ 0 then ['-'] else []) ++ n.text) ∧
    (∀ a, 0 ≤ a → priceToAtto (attoToPrice a) = .ok a) ∧
    (∀ (p : Nat) (d0 d1 : Int), MIN_SQRT_RATIO ≤ p ∧ p < MAX_SQRT_RATIO → 0 ≤ d0 ∧ d0 ≤ 36 → 0 ≤ d1 ∧ d1 ≤ 36 →
      ∃ text, priceFromSqrtPriceX96 p d0 d1 = .ok text ∧ priceToAtto text = .ok ⌊exactPoolPrice p d0 d1 * 10 ^ 18⌋) ∧
    (∀ x, 0 ≤ x → ∀ d, parseDecimalAmount (formatUnits x d) d = .ok x) ∧
    (∀ s d, Returns (parseDecimalAmount s d) ↔
      ∃ whole frac, Spells (Live.jsTrim s.toList) whole frac ∧ frac.length ≤ d) := by
  refine ⟨usdToMicros_microsToUsd, fun s m h => microsToUsd_usdToMicros h, fun a h => priceToAtto_attoToPrice h, ?_,
    fun x h d => parseDecimalAmount_formatUnits h d, fun s d => parseDecimalAmount_returns⟩
  intro p d0 d1 hp h0 h1
  obtain ⟨text, htext, hread⟩ := priceFromSqrtPriceX96_eq hp h0 h1
  exact ⟨text, htext, by rw [hread, down_eq_price]⟩

/-- A blank in front of an amount is taken, although no decimal starts with one. -/
theorem blank_accepted :
    parseDecimalAmount " 5" 0 = .ok 5 ∧ ¬ ∃ whole frac, Spells (" 5").toList whole frac ∧ frac.length ≤ 0 := by
  refine ⟨by decide +kernel, ?_⟩
  rintro ⟨whole, frac, hs, -⟩
  have hnone : decimalParts (" 5").toList = none := by decide +kernel
  exact absurd (hnone.symm.trans (decimalParts_iff.2 hs)) (by simp)

end MoneyText
end Atra
