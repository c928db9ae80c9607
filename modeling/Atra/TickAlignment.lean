import Atra.RangePlan
import Atra.TickInversion
/-!
# TickAlignment — the bounds a pool accepts

A pool takes a tick as a bound only if it is a multiple of the pool's spacing inside the tick range.  Alignment moves a tick to
such a multiple (`alignDown`, `alignUp`) and at most one spacing back inside the range (`intoRange`).  A width in basis points
becomes ticks by a binary search over the pool's own boundary prices, which is right because those prices increase.
-/
namespace Atra

structure TickRange where
  tickLower : Int
  tickUpper : Int
deriving DecidableEq, Repr

inductive RangeRounding where
  | outward | inward
deriving DecidableEq, Repr

namespace RangePlan

open Money TickMath

/-- The whole tick range. -/
def MAX_HALF_WIDTH_TICKS : Int := MAX_TICK - MIN_TICK

def MAX_WIDTH_BPS : Int := 1000000

def Q192 : Nat := Q96 * Q96

/-! ## Alignment -/

/-- The greatest multiple of a spacing at or below a value: the quotient truncates, and is one too high where it is negative
and inexact. -/
def alignDown (value spacing : Int) : Int :=
  (if value.tmod spacing = 0 ∨ 0 ≤ value then value.tdiv spacing else value.tdiv spacing - 1) * spacing

/-- The least multiple of a spacing at or above a value. -/
def alignUp (value spacing : Int) : Int :=
  (if value.tmod spacing = 0 ∨ value ≤ 0 then value.tdiv spacing else value.tdiv spacing + 1) * spacing

/-- An aligned tick pulled back inside the tick range, by one spacing. -/
def intoRange (aligned spacing : Int) : Int :=
  if aligned < MIN_TICK then aligned + spacing
  else if MAX_TICK < aligned then aligned - spacing
  else aligned

def clamp (tick : Int) : Int := if tick < MIN_TICK then MIN_TICK else if MAX_TICK < tick then MAX_TICK else tick

def alignTickDown (tick tickSpacing : Int) : Result Int := do
  let spacing ← assertTickSpacing tickSpacing
  assertTick tick "tick"
  return intoRange (alignDown tick spacing) spacing

def alignTickUp (tick tickSpacing : Int) : Result Int := do
  let spacing ← assertTickSpacing tickSpacing
  assertTick tick "tick"
  return intoRange (alignUp tick spacing) spacing

/-- The doubled fraction is exact for an odd spacing too. -/
def nearestUsableTick (tick tickSpacing : Int) : Result Int := do
  let spacing ← assertTickSpacing tickSpacing
  assertTick tick "tick"
  return intoRange ((alignDown (tick * 2 + spacing) (spacing * 2)).tdiv 2) spacing

/-- The lower bound of a range, before it is pulled back. -/
def lowerBound (rounding : RangeRounding) (value spacing : Int) : Int :=
  if rounding = .outward then alignDown value spacing else alignUp value spacing

def upperBound (rounding : RangeRounding) (value spacing : Int) : Int :=
  if rounding = .outward then alignUp value spacing else alignDown value spacing

/-- A range a half-width around a tick; one that is empty once it is aligned is refused. -/
def rangeFromHalfWidth (currentTick halfWidthTicks tickSpacing : Int) (rounding : RangeRounding) : Result TickRange := do
  let spacing ← assertTickSpacing tickSpacing
  assertTick currentTick "currentTick"
  refuseWhen (halfWidthTicks < 0 ∨ MAX_HALF_WIDTH_TICKS < halfWidthTicks)
    ⟨.schemaInvalid, "Range half-width is not a usable tick count"⟩
  let tickLower := intoRange (lowerBound rounding (clamp (currentTick - halfWidthTicks)) spacing) spacing
  let tickUpper := intoRange (upperBound rounding (clamp (currentTick + halfWidthTicks)) spacing) spacing
  refuseWhen (tickUpper ≤ tickLower) ⟨.schemaInvalid, "Range collapses to zero width at this tick spacing"⟩
  return ⟨tickLower, tickUpper⟩

/-! ## Widths -/

/-- The search for the greatest tick whose boundary price is within a ceiling. -/
def searchWidth (ceilingX192 : Int) (low high : Nat) : Result Nat :=
  if low < high then do
    let mid := (low + high + 1) / 2
    let boundary ← getSqrtRatioAtTick mid
    if boundary * boundary * BPS_DENOM ≤ ceilingX192 then searchWidth ceilingX192 mid high
    else searchWidth ceilingX192 low (mid - 1)
  else return low
termination_by high - low

/-- How many ticks a move of some basis points spans, rounded down. -/
def halfWidthTicksForBps (bps : Int) : Result Int := do
  refuseWhen (bps < 0 ∨ MAX_WIDTH_BPS < bps) ⟨.schemaInvalid, "Range width in basis points is out of range"⟩
  let width ← searchWidth ((BPS_DENOM + bps) * Q192) 0 MAX_TICK.toNat
  return width

/-! ## Multiples -/

variable {value spacing tick : Int}

theorem multiple_le {a b : Int} (ha : spacing ∣ a) (hb : spacing ∣ b) (h : b < a + spacing) : b ≤ a := by
  by_contra hc
  have := Int.le_of_dvd (by omega) (dvd_sub hb ha)
  omega

theorem tdiv_mul_of_tmod (h : value.tmod spacing = 0) : value.tdiv spacing * spacing = value :=
  Int.tdiv_mul_cancel_of_tmod_eq_zero h

/-- **Aligning down is a floor**, for negative values too. -/
theorem alignDown_spec (value : Int) (hs : 0 < spacing) :
    spacing ∣ alignDown value spacing ∧ alignDown value spacing ≤ value ∧ value < alignDown value spacing + spacing := by
  refine ⟨Dvd.intro_left _ rfl, ?_⟩
  unfold alignDown
  by_cases hz : value.tmod spacing = 0
  · rw [if_pos (.inl hz), tdiv_mul_of_tmod hz]
    omega
  · by_cases hv : 0 ≤ value
    · rw [if_pos (.inr hv), Rounding.tdiv_eq_down hv]
      exact ⟨Rounding.down_mul_le value hs, Rounding.lt_down_mul value hs⟩
    · rw [if_neg (by omega), Rounding.tdiv_eq_up (by omega), Int.sub_mul, Int.one_mul]
      have h1 := Rounding.up_mul_lt value hs
      have h2 := Rounding.le_up_mul value hs
      -- an exact quotient was excluded, so the quotient rounded up lies strictly above
      have h3 : ¬ Rounding.up value spacing * spacing ≤ value := by
        rw [Rounding.up_mul_le_iff_dvd hs, Int.dvd_iff_tmod_eq_zero]
        exact hz
      omega

theorem alignUp_spec (value : Int) (hs : 0 < spacing) :
    spacing ∣ alignUp value spacing ∧ value ≤ alignUp value spacing ∧ alignUp value spacing < value + spacing := by
  refine ⟨Dvd.intro_left _ rfl, ?_⟩
  unfold alignUp
  by_cases hz : value.tmod spacing = 0
  · rw [if_pos (.inl hz), tdiv_mul_of_tmod hz]
    omega
  · by_cases hv : value ≤ 0
    · rw [if_pos (.inr hv), Rounding.tdiv_eq_up hv]
      exact ⟨Rounding.le_up_mul value hs, Rounding.up_mul_lt value hs⟩
    · rw [if_neg (by omega), Rounding.tdiv_eq_down (by omega), Int.add_mul, Int.one_mul]
      have h1 := Rounding.down_mul_le value hs
      have h2 := Rounding.lt_down_mul value hs
      have h3 : Rounding.down value spacing * spacing ≠ value := by
        intro h
        apply hz
        rw [← Int.dvd_iff_tmod_eq_zero]
        exact Dvd.intro_left _ h
      omega

/-! ## Usable ticks -/

/-- A tick the pool takes as a bound. -/
def Usable (spacing tick : Int) : Prop := isUsableTick tick spacing = .ok true

/-- The spacings a pool can report. -/
def IsSpacing (spacing : Int) : Prop := 1 ≤ spacing ∧ spacing ≤ MAX_TICK_SPACING

theorem assertTickSpacing_ok {s : Int} : assertTickSpacing spacing = .ok s ↔ IsSpacing spacing ∧ s = spacing := by
  unfold assertTickSpacing IsSpacing
  simp only [bind_ok, pure_ok, refuseWhen_ok, not_or, not_le, not_lt]
  constructor
  · rintro ⟨_, h, rfl⟩
    exact ⟨by omega, rfl⟩
  · rintro ⟨h, rfl⟩
    exact ⟨(), by omega, rfl⟩

theorem assertTick_ok {field : String} {u : Unit} : assertTick tick field = .ok u ↔ MIN_TICK ≤ tick ∧ tick ≤ MAX_TICK := by
  unfold assertTick
  rw [refuseWhen_ok]
  omega

theorem usable_iff (hs : IsSpacing spacing) : Usable spacing tick ↔ (MIN_TICK ≤ tick ∧ tick ≤ MAX_TICK) ∧ spacing ∣ tick := by
  unfold Usable isUsableTick
  rw [assertTickSpacing_ok.2 ⟨hs, rfl⟩, Int.dvd_iff_tmod_eq_zero]
  show (.ok (decide _) : Result Bool) = .ok true ↔ _
  rw [Except.ok.injEq, decide_eq_true_eq]
  omega

/-- **One step back is enough**: a multiple less than a spacing outside the range becomes a usable tick. -/
theorem intoRange_usable {aligned : Int} (hs : IsSpacing spacing) (hd : spacing ∣ aligned)
    (h : MIN_TICK - spacing ≤ aligned ∧ aligned ≤ MAX_TICK + spacing) : Usable spacing (intoRange aligned spacing) := by
  rw [usable_iff hs]
  unfold IsSpacing MAX_TICK_SPACING at hs
  unfold MIN_TICK MAX_TICK at h
  unfold intoRange MIN_TICK MAX_TICK
  split_ifs
  · exact ⟨by omega, dvd_add hd dvd_rfl⟩
  · exact ⟨by omega, dvd_sub hd dvd_rfl⟩
  · exact ⟨by omega, hd⟩

/-- **Aligned down and pulled back**: the greatest usable tick at or below, or the least one where none is below. -/
theorem intoRange_alignDown {u : Int} (hs : IsSpacing spacing) (ht : MIN_TICK ≤ tick ∧ tick ≤ MAX_TICK)
    (hu : Usable spacing u) :
    (u ≤ tick → u ≤ intoRange (alignDown tick spacing) spacing ∧ intoRange (alignDown tick spacing) spacing ≤ tick) ∧
      (intoRange (alignDown tick spacing) spacing ≤ tick ∨ intoRange (alignDown tick spacing) spacing ≤ u) := by
  obtain ⟨hrange, hdvd⟩ := (usable_iff hs).1 hu
  obtain ⟨hd, hle, hlt⟩ := alignDown_spec tick (show 0 < spacing from hs.1)
  have hbelow : u < alignDown tick spacing + spacing → u ≤ alignDown tick spacing := multiple_le hd hdvd
  have habove : alignDown tick spacing < u → alignDown tick spacing + spacing ≤ u := by
    intro h
    exact multiple_le hdvd (dvd_add hd dvd_rfl) (by omega)
  unfold intoRange
  split_ifs
  · omega
  · omega
  · omega

/-- **Aligned up and pulled back**: the least usable tick at or above, or the greatest one where none is above. -/
theorem intoRange_alignUp {u : Int} (hs : IsSpacing spacing) (ht : MIN_TICK ≤ tick ∧ tick ≤ MAX_TICK)
    (hu : Usable spacing u) :
    (tick ≤ u → intoRange (alignUp tick spacing) spacing ≤ u ∧ tick ≤ intoRange (alignUp tick spacing) spacing) ∧
      (tick ≤ intoRange (alignUp tick spacing) spacing ∨ u ≤ intoRange (alignUp tick spacing) spacing) := by
  obtain ⟨hrange, hdvd⟩ := (usable_iff hs).1 hu
  obtain ⟨hd, hle, hlt⟩ := alignUp_spec tick (show 0 < spacing from hs.1)
  have habove : alignUp tick spacing < u + spacing → alignUp tick spacing ≤ u := multiple_le hdvd hd
  have hbelow : u < alignUp tick spacing → u + spacing ≤ alignUp tick spacing := by
    intro h
    exact multiple_le hd (dvd_add hdvd dvd_rfl) (by omega)
  unfold intoRange
  split_ifs
  · omega
  · omega
  · omega

theorem alignDown_usable (hs : IsSpacing spacing) (ht : MIN_TICK ≤ tick ∧ tick ≤ MAX_TICK) :
    Usable spacing (intoRange (alignDown tick spacing) spacing) := by
  obtain ⟨hd, hle, hlt⟩ := alignDown_spec tick (show 0 < spacing from hs.1)
  have := hs.1
  exact intoRange_usable hs hd (by omega)

theorem alignUp_usable (hs : IsSpacing spacing) (ht : MIN_TICK ≤ tick ∧ tick ≤ MAX_TICK) :
    Usable spacing (intoRange (alignUp tick spacing) spacing) := by
  obtain ⟨hd, hle, hlt⟩ := alignUp_spec tick (show 0 < spacing from hs.1)
  have := hs.1
  exact intoRange_usable hs hd (by omega)

/-! ## The nearest usable tick -/

/-- Half of the doubled alignment is the multiple within half a spacing. -/
theorem rounded_spec (tick : Int) (hs : 0 < spacing) : ∃ rounded,
    (alignDown (tick * 2 + spacing) (spacing * 2)).tdiv 2 = rounded ∧ spacing ∣ rounded ∧
      rounded * 2 ≤ tick * 2 + spacing ∧ tick * 2 < rounded * 2 + spacing := by
  obtain ⟨⟨k, hk⟩, hle, hlt⟩ := alignDown_spec (tick * 2 + spacing) (show 0 < spacing * 2 by omega)
  have hk' : alignDown (tick * 2 + spacing) (spacing * 2) = spacing * k * 2 := by
    rw [hk]
    ring
  rw [hk'] at hle hlt ⊢
  refine ⟨spacing * k, Int.mul_tdiv_cancel _ (by decide), Dvd.intro _ rfl, hle, ?_⟩
  omega

/-- No usable tick is strictly closer to a tick. -/
def Nearest (spacing tick nearest : Int) : Prop :=
  Usable spacing nearest ∧ ∀ u, Usable spacing u → (nearest - tick).natAbs ≤ (u - tick).natAbs

theorem nearest_spec (hs : IsSpacing spacing) (ht : MIN_TICK ≤ tick ∧ tick ≤ MAX_TICK) :
    Nearest spacing tick (intoRange ((alignDown (tick * 2 + spacing) (spacing * 2)).tdiv 2) spacing) := by
  have hpos := hs.1
  obtain ⟨rounded, hr, hd, hle, hlt⟩ := rounded_spec tick (show 0 < spacing from hs.1)
  rw [hr]
  refine ⟨intoRange_usable hs hd (by omega), fun u hu => ?_⟩
  obtain ⟨hrange, hdvd⟩ := (usable_iff hs).1 hu
  have hbelow : u < rounded → u + spacing ≤ rounded := fun h => multiple_le hd (dvd_add hdvd dvd_rfl) (by omega)
  have habove : rounded < u → rounded + spacing ≤ u := fun h => multiple_le hdvd (dvd_add hd dvd_rfl) (by omega)
  unfold intoRange
  split_ifs
  · omega
  · omega
  · omega

/-! ## Ranges -/

theorem clamp_spec (v : Int) : (MIN_TICK ≤ clamp v ∧ clamp v ≤ MAX_TICK) ∧
    (v ≤ MAX_TICK → v ≤ clamp v) ∧ (MIN_TICK ≤ v → clamp v ≤ v) ∧
      ∀ t, MIN_TICK ≤ t ∧ t ≤ MAX_TICK → (v ≤ t → clamp v ≤ t) ∧ (t ≤ v → t ≤ clamp v) := by
  unfold clamp MIN_TICK MAX_TICK
  split_ifs <;> refine ⟨by omega, by omega, by omega, fun t ht => by omega⟩

def WithinHalfWidth (currentTick halfWidthTicks tick : Int) : Prop :=
  currentTick - halfWidthTicks ≤ tick ∧ tick ≤ currentTick + halfWidthTicks

/-- **A range from a width** has usable bounds in order; rounded outward it reaches every usable tick within the half-width,
rounded inward it stays within it. -/
structure Planned (currentTick halfWidthTicks spacing : Int) (rounding : RangeRounding) (r : TickRange) : Prop where
  lower : Usable spacing r.tickLower
  upper : Usable spacing r.tickUpper
  inOrder : r.tickLower < r.tickUpper
  outward : rounding = .outward →
    ∀ u, Usable spacing u → WithinHalfWidth currentTick halfWidthTicks u → r.tickLower ≤ u ∧ u ≤ r.tickUpper
  inward : rounding = .inward →
    ∀ t, r.tickLower ≤ t ∧ t ≤ r.tickUpper → WithinHalfWidth currentTick halfWidthTicks t

theorem rangeFromHalfWidth_ok {currentTick half : Int} {rounding : RangeRounding} {r : TickRange}
    (h : rangeFromHalfWidth currentTick half spacing rounding = .ok r) : Planned currentTick half spacing rounding r := by
  unfold rangeFromHalfWidth at h
  simp only [bind_ok, pure_ok, refuseWhen_ok, assertTickSpacing_ok, assertTick_ok, not_or, not_lt] at h
  obtain ⟨_, ⟨hs, rfl⟩, _, hcur, _, hhalf, _, hlt, rfl⟩ := h
  rw [not_le] at hlt
  obtain ⟨hrl, hl, -, hlt'⟩ := clamp_spec (currentTick - half)
  obtain ⟨hru, -, hu, hut'⟩ := clamp_spec (currentTick + half)
  generalize clamp (currentTick - half) = desiredLower at *
  generalize clamp (currentTick + half) = desiredUpper at *
  unfold lowerBound upperBound at *
  cases rounding with
  | outward =>
    refine ⟨alignDown_usable hs hrl, alignUp_usable hs hru, hlt, fun _ u hus hw => ?_, fun hr => by cases hr⟩
    have hr := ((usable_iff hs).1 hus).1
    have hlow := (intoRange_alignDown hs hrl hus).2
    have hhigh := (intoRange_alignUp hs hru hus).2
    have h1 := (hlt' u hr).1 hw.1
    have h2 := (hut' u hr).2 hw.2
    simp only [if_true]
    omega
  | inward =>
    have hlow := alignUp_usable hs hrl
    have hhigh := alignDown_usable hs hru
    refine ⟨hlow, hhigh, hlt, fun hr => (by cases hr), fun _ t ht => ?_⟩
    -- a bound pulled back past its own desired tick would have met the other bound
    have h1 := (intoRange_alignUp hs hrl hhigh).2
    have h2 := (intoRange_alignDown hs hru hlow).2
    simp only [reduceCtorEq, if_false] at hlt ht
    unfold WithinHalfWidth
    omega

/-! ## The search -/

/-- The boundary price of a tick is within a ceiling. -/
def Fits (ceilingX192 : Int) (t : Nat) : Prop := (sqrtRatio t * sqrtRatio t : Int) * BPS_DENOM ≤ ceilingX192

theorem sqrtRatio_mono {t t' : Nat} (h : t ≤ t') (ht' : t' ≤ 887272) : sqrtRatio t ≤ sqrtRatio t' := by
  rw [sqrtRatio_le_iff (by unfold MIN_TICK MAX_TICK; omega) (by unfold MIN_TICK MAX_TICK; omega)]
  omega

theorem Fits.down {c : Int} {t t' : Nat} (h : Fits c t') (hle : t ≤ t') (ht' : t' ≤ 887272) : Fits c t := by
  have hm := sqrtRatio_mono hle ht'
  have hsq : (sqrtRatio t * sqrtRatio t : Int) ≤ sqrtRatio t' * sqrtRatio t' := by exact_mod_cast Nat.mul_le_mul hm hm
  unfold Fits BPS_DENOM at *
  omega

/-- **The search ends at the greatest tick that fits**: the lower end always fits, nothing above the upper end does. -/
theorem searchWidth_spec {c : Int} {low high : Nat} (hle : low ≤ high) (hmax : high ≤ 887272) (hlow : Fits c low)
    (hhigh : ∀ t, high < t → t ≤ 887272 → ¬ Fits c t) :
    ∃ t, searchWidth c low high = .ok t ∧ t ≤ 887272 ∧ Fits c t ∧ ∀ t', t < t' → t' ≤ 887272 → ¬ Fits c t' := by
  induction hn : high - low using Nat.strong_induction_on generalizing low high with
  | _ n ih =>
    unfold searchWidth
    by_cases hlt : low < high
    · rw [if_pos hlt]
      have hmid : low < (low + high + 1) / 2 ∧ (low + high + 1) / 2 ≤ high := by omega
      generalize (low + high + 1) / 2 = mid at hmid
      have hok : getSqrtRatioAtTick mid = .ok (sqrtRatio mid) :=
        getSqrtRatioAtTick_ok.2 ⟨by unfold MIN_TICK MAX_TICK; omega, rfl⟩
      simp only [hok, bind, Except.bind]
      by_cases hfit : (sqrtRatio mid * sqrtRatio mid : Int) * BPS_DENOM ≤ c
      · rw [if_pos hfit]
        exact ih _ (by omega) (by omega) hmax hfit hhigh rfl
      · rw [if_neg hfit]
        refine ih _ (by omega) (by omega) (by omega) hlow (fun t ht htm ht' => hfit ?_) rfl
        exact ht'.down (by omega) htm
    · rw [if_neg hlt]
      exact ⟨low, rfl, by omega, hlow, fun t ht htm => hhigh t (by omega) htm⟩

theorem Q192_eq : (Q192 : Int) = 2 ^ 192 := by decide

theorem sqrtRatio_zero : sqrtRatio 0 = 2 ^ 96 := by decide +kernel

/-- The price of a tick, on the pool's ladder, is within `1 + bps / 10000`. -/
def PriceWithin (bps t : Int) : Prop :=
  ∃ ratio, getSqrtRatioAtTick t = .ok ratio ∧ (ratio : ℚ) ^ 2 / 2 ^ 192 ≤ 1 + (bps : ℚ) / 10000

theorem priceWithin_iff {bps : Int} {t : Nat} (ht : t ≤ 887272) : PriceWithin bps t ↔ Fits ((BPS_DENOM + bps) * Q192) t := by
  have hok : ∀ ratio, getSqrtRatioAtTick (t : Int) = .ok ratio ↔ ratio = sqrtRatio t := by
    intro ratio
    rw [getSqrtRatioAtTick_ok, and_iff_right (by unfold MIN_TICK MAX_TICK; omega)]
  unfold PriceWithin Fits BPS_DENOM
  simp only [hok, exists_eq_left, Q192_eq]
  generalize sqrtRatio t = ratio
  have hsplit : (1 : ℚ) + (bps : ℚ) / 10000 = (10000 + bps) / 10000 := by
    rw [add_div, div_self (by norm_num)]
  rw [hsplit, div_le_div_iff₀ (by norm_num) (by norm_num), sq]
  exact_mod_cast Iff.rfl

/-- The widest half-width that stays within a price move. -/
def Widest (bps t : Int) : Prop :=
  (0 ≤ t ∧ t ≤ MAX_TICK) ∧ PriceWithin bps t ∧ ∀ t', 0 ≤ t' ∧ t' ≤ MAX_TICK → PriceWithin bps t' → t' ≤ t

theorem halfWidthTicksForBps_ok {bps : Int} (h : 0 ≤ bps ∧ bps ≤ MAX_WIDTH_BPS) :
    ∃ t, halfWidthTicksForBps bps = .ok t ∧ Widest bps t := by
  have hzero : Fits ((BPS_DENOM + bps) * Q192) 0 := by
    unfold Fits BPS_DENOM
    rw [Q192_eq, Nat.cast_zero, sqrtRatio_zero]
    norm_num only
    omega
  obtain ⟨t, hsearch, hmax, hfits, habove⟩ := searchWidth_spec (Nat.zero_le _) (Nat.le_refl _) hzero fun t h1 h2 => by omega
  refine ⟨t, ?_, ⟨by omega, by unfold MAX_TICK; omega⟩, (priceWithin_iff hmax).2 hfits, fun t' ht' hprice => ?_⟩
  · unfold halfWidthTicksForBps
    rw [(refuseWhen_ok (u := ())).2 (by omega)]
    show (searchWidth _ 0 887272 >>= fun width => pure (width : Int)) = _
    rw [hsearch]
    rfl
  · obtain ⟨n, rfl⟩ := Int.eq_ofNat_of_zero_le ht'.1
    have hn : n ≤ 887272 := by
      unfold MAX_TICK at ht'
      omega
    by_contra hc
    exact habove n (by omega) hn ((priceWithin_iff hn).1 hprice)

/-! ## The laws -/

/-- The greatest usable tick at or below a tick; where none is below it, the least usable one. -/
structure AlignedDown (spacing tick down : Int) : Prop where
  usable : Usable spacing down
  greatest : ∀ u, Usable spacing u → u ≤ tick → u ≤ down ∧ down ≤ tick
  atTheEnd : (∀ u, Usable spacing u → tick < u) → ∀ u, Usable spacing u → down ≤ u

/-- The least usable tick at or above a tick; where none is above it, the greatest usable one. -/
structure AlignedUp (spacing tick up : Int) : Prop where
  usable : Usable spacing up
  least : ∀ u, Usable spacing u → tick ≤ u → up ≤ u ∧ tick ≤ up
  atTheEnd : (∀ u, Usable spacing u → u < tick) → ∀ u, Usable spacing u → u ≤ up

/-- What alignment and widths promise of a tick and a spacing. -/
structure AlignmentLaws (tick spacing : Int) : Prop where
  down : ∃ down, alignTickDown tick spacing = .ok down ∧ AlignedDown spacing tick down
  up : ∃ up, alignTickUp tick spacing = .ok up ∧ AlignedUp spacing tick up
  nearest : ∃ nearest, nearestUsableTick tick spacing = .ok nearest ∧ Nearest spacing tick nearest
  range : ∀ half rounding r, rangeFromHalfWidth tick half spacing rounding = .ok r → Planned tick half spacing rounding r
  width : ∀ bps, 0 ≤ bps ∧ bps ≤ MAX_WIDTH_BPS → ∃ t, halfWidthTicksForBps bps = .ok t ∧ Widest bps t
  tooWide : ∀ bps, ¬ (0 ≤ bps ∧ bps ≤ MAX_WIDTH_BPS) → ∀ t, halfWidthTicksForBps bps ≠ .ok t

theorem alignedDown (hs : IsSpacing spacing) (ht : MIN_TICK ≤ tick ∧ tick ≤ MAX_TICK) :
    AlignedDown spacing tick (intoRange (alignDown tick spacing) spacing) where
  usable := alignDown_usable hs ht
  greatest := fun _ hu => (intoRange_alignDown hs ht hu).1
  atTheEnd := by
    intro hnone u hu
    have hself := hnone _ (alignDown_usable hs ht)
    exact (intoRange_alignDown hs ht hu).2.resolve_left (by omega)

theorem alignedUp (hs : IsSpacing spacing) (ht : MIN_TICK ≤ tick ∧ tick ≤ MAX_TICK) :
    AlignedUp spacing tick (intoRange (alignUp tick spacing) spacing) where
  usable := alignUp_usable hs ht
  least := fun _ hu => (intoRange_alignUp hs ht hu).1
  atTheEnd := by
    intro hnone u hu
    have hself := hnone _ (alignUp_usable hs ht)
    exact (intoRange_alignUp hs ht hu).2.resolve_left (by omega)

theorem checked {α : Type} {field : String} {f : Int → α} (hs : IsSpacing spacing) (ht : MIN_TICK ≤ tick ∧ tick ≤ MAX_TICK) :
    (do
      let s ← assertTickSpacing spacing
      assertTick tick field
      return f s : Result α) = .ok (f spacing) := by
  rw [assertTickSpacing_ok.2 ⟨hs, rfl⟩, (assertTick_ok (u := ())).2 ht]
  rfl

/-- **Alignment finds the usable ticks around a tick**, a range from a width keeps its rounding's promise, and a width in basis
points is the widest that stays within the move. -/
theorem alignment_laws (ht : MIN_TICK ≤ tick ∧ tick ≤ MAX_TICK) (hs : 1 ≤ spacing ∧ spacing ≤ MAX_TICK_SPACING) :
    AlignmentLaws tick spacing where
  down := ⟨_, checked hs ht, alignedDown hs ht⟩
  up := ⟨_, checked hs ht, alignedUp hs ht⟩
  nearest := ⟨_, checked hs ht, nearest_spec hs ht⟩
  range := fun _ _ _ => rangeFromHalfWidth_ok
  width := fun _ => halfWidthTicksForBps_ok
  tooWide := by
    intro bps hbps t h
    unfold halfWidthTicksForBps at h
    simp only [bind_ok, refuseWhen_ok] at h
    obtain ⟨_, hr, -⟩ := h
    omega

theorem alignment_laws_below_par : AlignmentLaws (-7) 10 := alignment_laws (by decide) (by decide)

end RangePlan
end Atra
