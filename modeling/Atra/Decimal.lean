import Mathlib.Algebra.Order.Field.Rat
import Mathlib.Data.List.TakeWhile
import Mathlib.Tactic.FieldSimp
import Mathlib.Tactic.Positivity
import Mathlib.Tactic.Ring
/-!
# Decimal — canonical decimal text as scaled integers

A numeral is `0` or a digit string with no leading zero, with an optional point and up to `k` further digits.  `read k`
accepts exactly those texts, `Numeral.scaled` is the number of `10^-k` units and `Numeral.value` the exact rational, and
`render k` writes the canonical text with all `k` digits, which `read k` takes back to the same number (`read_render`).
-/
namespace Decimal

/-- `0`, or digits with no leading zero. -/
def isInteger : List Char → Bool
  | [] => false
  | c :: cs => c.isDigit && cs.all Char.isDigit && (c != '0' || cs.isEmpty)

/-- A numeral with at most `k` digits after the point; the point itself is present when `frac` is not empty. -/
structure Numeral (k : Nat) where
  whole : List Char
  frac : List Char
  whole_ok : isInteger whole = true
  frac_ok : frac.all Char.isDigit = true
  frac_le : frac.length ≤ k

variable {k : Nat}

/-- The digits of an integer numeral as a number. -/
def natOf (cs : List Char) : Nat := Nat.ofDigitChars 10 cs 0

/-- The numeral of a whole part and a fraction, when they make one. -/
def ofParts (k : Nat) (whole frac : List Char) : Option (Numeral k) :=
  if h : isInteger whole = true ∧ frac.all Char.isDigit = true ∧ frac.length ≤ k then
    some ⟨whole, frac, h.1, h.2.1, h.2.2⟩
  else none

/-- The numeral a text spells, if it spells one. -/
def read (k : Nat) (cs : List Char) : Option (Numeral k) :=
  match cs.dropWhile (· != '.') with
  | [] => ofParts k cs []
  | _ :: frac => if frac.isEmpty then none else ofParts k (cs.takeWhile (· != '.')) frac

/-- The number of `10^-k` units: the fraction is padded with zeros on the right. -/
def Numeral.scaled (n : Numeral k) : Nat :=
  natOf n.whole * 10 ^ k + natOf (n.frac ++ List.replicate (k - n.frac.length) '0')

/-- The exact rational a numeral stands for. -/
def Numeral.value (n : Numeral k) : ℚ := natOf n.whole + natOf n.frac / 10 ^ n.frac.length

theorem natOf_append_zeros (cs : List Char) (j : Nat) : natOf (cs ++ List.replicate j '0') = 10 ^ j * natOf cs := by
  unfold natOf
  rw [Nat.ofDigitChars_append, Nat.ofDigitChars_replicate_zero]

theorem natOf_zeros_append (cs : List Char) (j : Nat) : natOf (List.replicate j '0' ++ cs) = natOf cs := by
  unfold natOf
  rw [Nat.ofDigitChars_append, Nat.ofDigitChars_replicate_zero, Nat.mul_zero]

@[simp] theorem natOf_toDigits (n : Nat) : natOf (Nat.toDigits 10 n) = n := Nat.ofDigitChars_ten_toDigits

/-- An integer text other than `0` is positive. -/
theorem natOf_pos {cs : List Char} (h : isInteger cs = true) (h0 : cs ≠ ['0']) : 0 < natOf cs := by
  cases cs with
  | nil => exact absurd h (by simp [isInteger])
  | cons c cs =>
    simp only [isInteger, Bool.and_eq_true, Bool.or_eq_true, bne_iff_ne, List.isEmpty_iff] at h
    have hc : c ≠ '0' := by
      rintro rfl
      rcases h.2 with h | rfl
      · exact h rfl
      · exact h0 rfl
    have hd : 48 ≤ c.toNat := by
      have := h.1.1
      simp only [Char.isDigit, Bool.and_eq_true, decide_eq_true_eq] at this
      exact this.1
    have hne : c.toNat ≠ 48 := fun he => hc (Char.toNat_inj.1 he)
    unfold natOf
    rw [Nat.ofDigitChars_cons, Nat.ofDigitChars_eq_ofDigitChars_zero]
    have hpos : 0 < 10 ^ cs.length * (10 * 0 + (c.toNat - '0'.toNat)) :=
      Nat.mul_pos (Nat.pow_pos (by decide)) (by have : ('0').toNat = 48 := rfl; omega)
    omega

/-- **Scaling loses nothing**: the units of a numeral are its exact value times `10^k`. -/
theorem Numeral.scaled_eq (n : Numeral k) : (n.scaled : ℚ) = n.value * 10 ^ k := by
  have hk : (10 : ℚ) ^ k = 10 ^ (k - n.frac.length) * 10 ^ n.frac.length := by
    rw [← pow_add, Nat.sub_add_cancel n.frac_le]
  have hpos : (10 : ℚ) ^ n.frac.length ≠ 0 := by positivity
  unfold Numeral.scaled Numeral.value
  rw [natOf_append_zeros]
  push_cast
  rw [hk]
  field_simp

/-! ## Rendering -/

/-- Digits padded with zeros on the left to width `k`. -/
def padLeft (k : Nat) (cs : List Char) : List Char := List.replicate (k - cs.length) '0' ++ cs

/-- The canonical text of `m` units of `10^-k`. -/
def render (k m : Nat) : List Char := Nat.toDigits 10 (m / 10 ^ k) ++ '.' :: padLeft k (Nat.toDigits 10 (m % 10 ^ k))

theorem toDigits_all_isDigit (n : Nat) : (Nat.toDigits 10 n).all Char.isDigit = true :=
  List.all_eq_true.2 fun _ hc => Nat.isDigit_of_mem_toDigits (by decide) (by decide) hc

theorem toDigits_head_ne_zero {n : Nat} (hn : 0 < n) : ∀ c cs, Nat.toDigits 10 n = c :: cs → c ≠ '0' := by
  induction n using Nat.strongRecOn with
  | _ n ih =>
    intro c cs h
    rw [Nat.toDigits_eq_if (by decide)] at h
    split at h
    · obtain ⟨rfl, -⟩ := List.cons.inj h
      simpa using Nat.pos_iff_ne_zero.1 hn
    · have hlt : n / 10 < n := Nat.div_lt_self hn (by decide)
      cases hd : Nat.toDigits 10 (n / 10) with
      | nil => exact absurd hd Nat.toDigits_ne_nil
      | cons c' cs' =>
        rw [hd, List.cons_append] at h
        obtain ⟨rfl, -⟩ := List.cons.inj h
        exact ih (n / 10) hlt (by omega) c' cs' hd

/-- **Every natural number prints as a canonical integer.** -/
theorem isInteger_toDigits (n : Nat) : isInteger (Nat.toDigits 10 n) = true := by
  cases hd : Nat.toDigits 10 n with
  | nil => exact absurd hd Nat.toDigits_ne_nil
  | cons c cs =>
    have hall := toDigits_all_isDigit n
    rw [hd, List.all_cons, Bool.and_eq_true] at hall
    rw [isInteger, hall.1, hall.2]
    rcases Nat.eq_zero_or_pos n with rfl | hn
    · rw [Nat.toDigits_zero] at hd
      obtain ⟨rfl, rfl⟩ := List.cons.inj hd
      rfl
    · simp [toDigits_head_ne_zero hn c cs hd]

theorem padLeft_all_isDigit (k n : Nat) : (padLeft k (Nat.toDigits 10 n)).all Char.isDigit = true := by
  unfold padLeft
  rw [List.all_append, toDigits_all_isDigit, Bool.and_true, List.all_replicate]
  simp

theorem length_padLeft {k : Nat} {cs : List Char} (h : cs.length ≤ k) : (padLeft k cs).length = k := by
  unfold padLeft
  rw [List.length_append, List.length_replicate]
  omega

theorem length_toDigits_mod_le (m : Nat) (hk : 0 < k) : (Nat.toDigits 10 (m % 10 ^ k)).length ≤ k :=
  (Nat.length_toDigits_le_iff (by decide) hk).2 (Nat.mod_lt _ (Nat.pow_pos (by decide)))

theorem isDigit_ne_point {c : Char} (h : c.isDigit = true) : (c != '.') = true := by
  rw [bne_iff_ne]
  rintro rfl
  exact absurd h (by decide)

theorem takeWhile_point {ds rest : List Char} (h : ds.all Char.isDigit = true) :
    (ds ++ '.' :: rest).takeWhile (· != '.') = ds := by
  rw [List.takeWhile_append_of_pos fun c hc => isDigit_ne_point (List.all_eq_true.1 h c hc)]
  simp

theorem dropWhile_point {ds rest : List Char} (h : ds.all Char.isDigit = true) :
    (ds ++ '.' :: rest).dropWhile (· != '.') = '.' :: rest := by
  rw [List.dropWhile_append_of_pos fun c hc => isDigit_ne_point (List.all_eq_true.1 h c hc)]
  simp

theorem ofParts_eq {whole frac : List Char} (hw : isInteger whole = true) (hf : frac.all Char.isDigit = true)
    (hl : frac.length ≤ k) : ofParts k whole frac = some ⟨whole, frac, hw, hf, hl⟩ :=
  dif_pos ⟨hw, hf, hl⟩

/-- **Round trip**: a rendered number reads back as a numeral of exactly that many units. -/
theorem read_render (hk : 0 < k) (m : Nat) : ∃ n : Numeral k, read k (render k m) = some n ∧ n.scaled = m := by
  have hw := toDigits_all_isDigit (m / 10 ^ k)
  have hlen : (padLeft k (Nat.toDigits 10 (m % 10 ^ k))).length = k := length_padLeft (length_toDigits_mod_le m hk)
  have hdig := padLeft_all_isDigit k (m % 10 ^ k)
  have hval : natOf (padLeft k (Nat.toDigits 10 (m % 10 ^ k))) = m % 10 ^ k := by
    rw [padLeft, natOf_zeros_append, natOf_toDigits]
  have hread : read k (render k m) =
      ofParts k (Nat.toDigits 10 (m / 10 ^ k)) (padLeft k (Nat.toDigits 10 (m % 10 ^ k))) := by
    rw [read, render, dropWhile_point hw, takeWhile_point hw]
    cases hf : padLeft k (Nat.toDigits 10 (m % 10 ^ k)) with
    | nil => rw [hf] at hlen; exact absurd hlen hk.ne
    | cons c cs => rfl
  refine ⟨_, hread.trans (ofParts_eq (isInteger_toDigits _) hdig hlen.le), ?_⟩
  unfold Numeral.scaled
  rw [natOf_append_zeros, natOf_toDigits, hval, hlen, Nat.sub_self, Nat.pow_zero, Nat.one_mul]
  exact Nat.div_add_mod' m (10 ^ k)

/-! ## The text of a numeral -/

theorem digitChar_sub {c : Char} (h : c.isDigit = true) : Nat.digitChar (c.toNat - 48) = c ∧ c.toNat - 48 < 10 := by
  simp only [Char.isDigit, Bool.and_eq_true, decide_eq_true_eq] at h
  have hmin : 48 ≤ c.toNat := h.1
  have hmax : c.toNat ≤ 57 := h.2
  refine ⟨Char.toNat_inj.1 ?_, by omega⟩
  rw [Nat.toNat_digitChar_of_lt_ten (by omega)]
  omega

/-- Digits behind a number that is not zero are the number's further digits. -/
theorem toDigits_append_digits {cs : List Char} (h : cs.all Char.isDigit = true) {acc : Nat} (hacc : 0 < acc) :
    Nat.toDigits 10 (Nat.ofDigitChars 10 cs acc) = Nat.toDigits 10 acc ++ cs := by
  induction cs generalizing acc with
  | nil => rw [Nat.ofDigitChars_nil, List.append_nil]
  | cons c cs ih =>
    rw [List.all_cons, Bool.and_eq_true] at h
    obtain ⟨hchar, hlt⟩ := digitChar_sub h.1
    have hnext := Nat.toDigits_append_toDigits (b := 10) (by decide) hacc hlt
    rw [Nat.toDigits_of_lt_base hlt, hchar] at hnext
    rw [Nat.ofDigitChars_cons, ih h.2 (by omega)]
    show Nat.toDigits 10 (10 * acc + (c.toNat - 48)) ++ cs = _
    rw [← hnext, List.append_assoc]
    rfl

/-- **An integer text is the one its number prints as.** -/
theorem toDigits_natOf {cs : List Char} (h : isInteger cs = true) : Nat.toDigits 10 (natOf cs) = cs := by
  cases cs with
  | nil => cases h
  | cons c cs =>
    simp only [isInteger, Bool.and_eq_true, Bool.or_eq_true, bne_iff_ne, List.isEmpty_iff] at h
    obtain ⟨⟨hc, hcs⟩, hzero⟩ := h
    obtain ⟨hchar, hlt⟩ := digitChar_sub hc
    by_cases h0 : c = '0'
    · obtain rfl := hzero.resolve_left (not_not.2 h0)
      rw [h0]
      rfl
    · have hpos : 0 < c.toNat - 48 := by
        by_contra hnot
        rw [Nat.eq_zero_of_not_pos hnot] at hchar
        exact h0 hchar.symm
      have hof : natOf (c :: cs) = Nat.ofDigitChars 10 cs (c.toNat - 48) := by
        unfold natOf
        rw [Nat.ofDigitChars_cons, Nat.mul_zero, Nat.zero_add]
        rfl
      rw [hof, toDigits_append_digits hcs hpos, Nat.toDigits_of_lt_base hlt, hchar]
      rfl

theorem natOf_zero_cons (cs : List Char) : natOf ('0' :: cs) = natOf cs := natOf_zeros_append cs 1

/-- **Digits of a width are the padded text of their number.** -/
theorem padLeft_natOf {cs : List Char} (h : cs.all Char.isDigit = true) (hne : cs ≠ []) :
    padLeft cs.length (Nat.toDigits 10 (natOf cs)) = cs := by
  induction cs with
  | nil => exact absurd rfl hne
  | cons c cs ih =>
    have hparts := h
    rw [List.all_cons, Bool.and_eq_true] at hparts
    by_cases h0 : c = '0'
    · subst h0
      rw [natOf_zero_cons]
      cases cs with
      | nil => rfl
      | cons c' cs' =>
        have hrest := ih hparts.2 (List.cons_ne_nil _ _)
        have hlength : (Nat.toDigits 10 (natOf (c' :: cs'))).length ≤ (c' :: cs').length := by
          have hsum := congrArg List.length hrest
          unfold padLeft at hsum
          rw [List.length_append] at hsum
          omega
        unfold padLeft at hrest ⊢
        have hmore : ('0' :: c' :: cs').length - (Nat.toDigits 10 (natOf (c' :: cs'))).length =
            (c' :: cs').length - (Nat.toDigits 10 (natOf (c' :: cs'))).length + 1 := Nat.succ_sub hlength
        rw [hmore, List.replicate_succ, List.cons_append, hrest]
    · have hinteger : isInteger (c :: cs) = true := by
        simp [isInteger, hparts.1, hparts.2, h0]
      rw [toDigits_natOf hinteger]
      unfold padLeft
      rw [Nat.sub_self]
      rfl

/-- A numeral as it was written. -/
def Numeral.spelled (n : Numeral k) : List Char := n.whole ++ if n.frac = [] then [] else '.' :: n.frac

theorem ofParts_some {whole frac : List Char} {n : Numeral k} (h : ofParts k whole frac = some n) :
    n.whole = whole ∧ n.frac = frac := by
  unfold ofParts at h
  split at h
  · obtain rfl := Option.some.inj h
    exact ⟨rfl, rfl⟩
  · cases h

/-- **A text reads as the numeral it spells.** -/
theorem spelled_of_read {cs : List Char} {n : Numeral k} (h : read k cs = some n) : n.spelled = cs := by
  unfold read at h
  unfold Numeral.spelled
  split at h
  · obtain ⟨hw, hf⟩ := ofParts_some h
    rw [hw, if_pos hf, List.append_nil]
  · rename_i c frac hdrop
    by_cases hempty : frac.isEmpty = true
    · rw [if_pos hempty] at h
      cases h
    · rw [if_neg hempty] at h
      obtain ⟨hw, hf⟩ := ofParts_some h
      have hpoint : c = '.' := by
        have hhead := List.head?_dropWhile_not (· != '.') cs
        rw [hdrop] at hhead
        simpa using hhead
      subst hpoint
      rw [hw, hf, if_neg (by simpa using hempty), ← hdrop, List.takeWhile_append_dropWhile]

/-- A numeral with all its digits after the point. -/
def Numeral.text (n : Numeral k) : List Char := n.whole ++ '.' :: (n.frac ++ List.replicate (k - n.frac.length) '0')

theorem natOf_lt {cs : List Char} (h : cs.all Char.isDigit = true) (hne : cs ≠ []) : natOf cs < 10 ^ cs.length := by
  have hlength := congrArg List.length (padLeft_natOf h hne)
  unfold padLeft at hlength
  rw [List.length_append] at hlength
  exact (Nat.length_toDigits_le_iff (by decide) (List.length_pos_of_ne_nil hne)).1 (by omega)

/-- **The units of a numeral render as its text.** -/
theorem render_scaled (hk : 0 < k) (n : Numeral k) : render k n.scaled = n.text := by
  have hle := n.frac_le
  have hlength : (n.frac ++ List.replicate (k - n.frac.length) '0').length = k := by
    rw [List.length_append, List.length_replicate]
    omega
  have hdigits : (n.frac ++ List.replicate (k - n.frac.length) '0').all Char.isDigit = true := by
    rw [List.all_append, n.frac_ok, Bool.true_and, List.all_replicate]
    simp
  have hne : n.frac ++ List.replicate (k - n.frac.length) '0' ≠ [] := by
    intro h
    rw [h] at hlength
    exact hk.ne hlength
  have hlt := natOf_lt hdigits hne
  have hpad := padLeft_natOf hdigits hne
  rw [hlength] at hlt hpad
  unfold render Numeral.scaled Numeral.text
  rw [Nat.mul_comm, Nat.mul_add_div (Nat.pow_pos (by decide)), Nat.div_eq_of_lt hlt, Nat.add_zero, toDigits_natOf n.whole_ok,
    Nat.mul_add_mod, Nat.mod_eq_of_lt hlt, hpad]

/-! ## Zeros at the end -/

def stripZeros (cs : List Char) : List Char := (cs.reverse.dropWhile (· = '0')).reverse

/-- Digits are what is left without the zeros at their end, and those zeros. -/
theorem stripZeros_append (cs : List Char) : ∃ j, cs = stripZeros cs ++ List.replicate j '0' := by
  refine ⟨(cs.reverse.takeWhile (· = '0')).length, ?_⟩
  have hzeros : cs.reverse.takeWhile (· = '0') = List.replicate (cs.reverse.takeWhile (· = '0')).length '0' :=
    List.eq_replicate_of_mem fun c hc => by simpa using List.mem_takeWhile_imp hc
  have hsplit := congrArg List.reverse (List.takeWhile_append_dropWhile (p := (· = '0')) (l := cs.reverse))
  rw [List.reverse_append, List.reverse_reverse, hzeros, List.reverse_replicate] at hsplit
  exact hsplit.symm

theorem stripZeros_all {cs : List Char} (h : cs.all Char.isDigit = true) : (stripZeros cs).all Char.isDigit = true := by
  obtain ⟨j, hj⟩ := stripZeros_append cs
  rw [hj, List.all_append, Bool.and_eq_true] at h
  exact h.1

/-- No zero is left at the end. -/
theorem stripZeros_getLast (cs : List Char) : (stripZeros cs).getLast? ≠ some '0' := by
  unfold stripZeros
  rw [List.getLast?_reverse]
  intro h
  have hnot := List.head?_dropWhile_not (· = '0') cs.reverse
  rw [h] at hnot
  simp at hnot

/-- Digits of one width are determined by their number. -/
theorem natOf_inj {cs ds : List Char} (hc : cs.all Char.isDigit = true) (hd : ds.all Char.isDigit = true)
    (hlength : cs.length = ds.length) (h : natOf cs = natOf ds) : cs = ds := by
  cases cs with
  | nil => exact (List.length_eq_zero_iff.1 hlength.symm).symm
  | cons c cs =>
    have hne : ds ≠ [] := List.ne_nil_of_length_pos (by rw [← hlength]; exact Nat.succ_pos _)
    rw [← padLeft_natOf hc (List.cons_ne_nil c cs), ← padLeft_natOf hd hne, hlength, h]

/-- **A fraction without zeros at its end is determined by its value.** -/
theorem frac_inj {cs ds : List Char} (hc : cs.all Char.isDigit = true) (hd : ds.all Char.isDigit = true)
    (hcend : cs.getLast? ≠ some '0') (hdend : ds.getLast? ≠ some '0')
    (h : (natOf cs : ℚ) / 10 ^ cs.length = natOf ds / 10 ^ ds.length) : cs = ds := by
  wlog hle : cs.length ≤ ds.length generalizing cs ds
  · exact (this hd hc hdend hcend h.symm (Nat.le_of_not_le hle)).symm
  have hpad : ds = cs ++ List.replicate (ds.length - cs.length) '0' := by
    refine natOf_inj hd ?_ ?_ ?_
    · rw [List.all_append, hc, Bool.true_and, List.all_replicate]
      simp
    · rw [List.length_append, List.length_replicate]
      omega
    · have hpow : (10 : ℚ) ^ ds.length = 10 ^ cs.length * 10 ^ (ds.length - cs.length) := by
        rw [← pow_add, Nat.add_sub_cancel' hle]
      have hpos : (10 : ℚ) ^ cs.length ≠ 0 ∧ (10 : ℚ) ^ (ds.length - cs.length) ≠ 0 := ⟨by positivity, by positivity⟩
      rw [hpow, div_eq_div_iff hpos.1 (mul_ne_zero hpos.1 hpos.2)] at h
      have hscaled : (natOf ds : ℚ) = 10 ^ (ds.length - cs.length) * natOf cs :=
        mul_left_cancel₀ hpos.1 (by rw [mul_comm _ (natOf ds : ℚ), ← h]; ring)
      rw [natOf_append_zeros]
      exact_mod_cast hscaled
  cases hdiff : ds.length - cs.length with
  | zero => rw [hpad, hdiff, List.replicate_zero, List.append_nil]
  | succ j =>
    rw [hdiff, List.replicate_succ', ← List.append_assoc] at hpad
    rw [hpad] at hdend
    exact absurd (List.getLast?_concat ..) hdend

theorem frac_stripZeros (cs : List Char) :
    (natOf (stripZeros cs) : ℚ) / 10 ^ (stripZeros cs).length = natOf cs / 10 ^ cs.length := by
  obtain ⟨j, hj⟩ := stripZeros_append cs
  have hvalue : (natOf cs : ℚ) = 10 ^ j * natOf (stripZeros cs) := by
    rw [hj, natOf_append_zeros, ← hj]
    push_cast
    rfl
  have hlength : cs.length = (stripZeros cs).length + j := by
    rw [hj, List.length_append, List.length_replicate, ← hj]
  rw [hvalue, hlength, pow_add]
  have hpos : (10 : ℚ) ^ j ≠ 0 := by positivity
  field_simp

/-- A fraction is less than one. -/
theorem frac_lt_one {cs : List Char} (h : cs.all Char.isDigit = true) : (natOf cs : ℚ) / 10 ^ cs.length < 1 := by
  rw [div_lt_one (by positivity)]
  cases cs with
  | nil => simp [natOf]
  | cons c cs => exact_mod_cast natOf_lt h (List.cons_ne_nil c cs)

end Decimal
