import Atra.Rounding
/-!
# AverageCost — a holding at average cost

A lot is an amount with the cost it was bought at.  A sale releases its share of the cost, rounded up, and the rest keeps the
remainder.  Whatever is bought in between, the cost that is left is what was paid less what was released (`run_basis`), so a
lot that is sold off has released exactly what was paid for it, however the sales cut it (`released_of_sold_off`).
-/
namespace AverageCost

/-- The cost of a part of a holding, rounded up. -/
def release (basis : Int) (sold held : Nat) : Int := Rounding.up (basis * sold) held

theorem release_nonneg {basis : Int} {sold held : Nat} (hb : 0 ≤ basis) (hh : 0 < held) : 0 ≤ release basis sold held :=
  Rounding.up_nonneg (by exact_mod_cast hh) (Int.mul_nonneg hb (Int.natCast_nonneg _))

theorem release_le {basis : Int} {sold held : Nat} (hb : 0 ≤ basis) (hh : 0 < held) (h : sold ≤ held) :
    release basis sold held ≤ basis :=
  Rounding.up_part_le (by exact_mod_cast hh) hb (by exact_mod_cast h)

theorem release_empty (basis : Int) (sold : Nat) : release basis sold 0 = 0 := by
  unfold release Rounding.up
  rw [Int.natCast_zero, Int.ediv_zero, Int.neg_zero]

theorem release_all {basis : Int} {held : Nat} (hh : 0 < held) : release basis held held = basis :=
  Rounding.up_mul_cancel basis (by exact_mod_cast hh)

/-- The usual spelling of a release by a truncating division. -/
theorem tdiv_eq_release {basis : Int} {sold held : Nat} (hb : 0 ≤ basis) (hh : 0 < held) :
    (basis * sold + held - 1).tdiv held = release basis sold held :=
  Rounding.tdiv_add_eq_up (Int.mul_nonneg hb (Int.natCast_nonneg _)) (by exact_mod_cast hh)

/-- An amount and its cost; nothing costs nothing. -/
structure Lot where
  amount : Nat
  basis : Int
  nonneg : 0 ≤ basis
  empty : amount = 0 → basis = 0

theorem Lot.ext {l l' : Lot} (ha : l.amount = l'.amount) (hb : l.basis = l'.basis) : l = l' := by
  cases l
  cases l'
  simp only at ha hb
  subst ha hb
  rfl

/-- A positive amount is bought at a cost, or up to an amount is sold. -/
inductive Move where
  | buy (amount : Nat) (cost : Int) (h : 0 < amount ∧ 0 ≤ cost)
  | sell (amount : Nat)

namespace Move

def paid : Move → Int
  | .buy _ cost _ => cost
  | .sell _ => 0

end Move

namespace Lot

/-- Nothing held. -/
def none : Lot := ⟨0, 0, Int.le_refl 0, fun _ => rfl⟩

/-- The cost a move releases; a sale sells no more than is held. -/
def released (l : Lot) : Move → Int
  | .buy .. => 0
  | .sell amount => release l.basis (min amount l.amount) l.amount

theorem released_nonneg (l : Lot) (m : Move) : 0 ≤ l.released m := by
  cases m with
  | buy amount cost h => exact Int.le_refl 0
  | sell amount =>
    by_cases hh : 0 < l.amount
    · exact release_nonneg l.nonneg hh
    · have hz : l.amount = 0 := by omega
      show 0 ≤ release l.basis (min amount l.amount) l.amount
      rw [hz, release_empty]

theorem released_le (l : Lot) (m : Move) : l.released m ≤ l.basis := by
  cases m with
  | buy amount cost h => exact l.nonneg
  | sell amount =>
    by_cases hh : 0 < l.amount
    · exact release_le l.nonneg hh (Nat.min_le_right _ _)
    · have hz : l.amount = 0 := by omega
      show release l.basis (min amount l.amount) l.amount ≤ l.basis
      rw [hz, release_empty]
      exact l.nonneg

def move (l : Lot) : Move → Lot
  | .buy amount cost h => ⟨l.amount + amount, l.basis + cost, Int.add_nonneg l.nonneg h.2, fun hz => by omega⟩
  | .sell amount => ⟨l.amount - amount, l.basis - l.released (.sell amount), by
      have := l.released_le (.sell amount)
      omega, fun hz => by
      by_cases hh : 0 < l.amount
      · show l.basis - release l.basis (min amount l.amount) l.amount = 0
        rw [Nat.min_eq_right (by omega), release_all hh]
        omega
      · have hb := l.empty (by omega)
        have h1 := l.released_nonneg (.sell amount)
        have h2 := l.released_le (.sell amount)
        omega⟩

/-- **A move changes the cost by what it pays in less what it releases.** -/
theorem move_basis (l : Lot) (m : Move) : (l.move m).basis = l.basis + m.paid - l.released m := by
  cases m with
  | buy amount cost h => exact (Int.sub_zero _).symm
  | sell amount =>
    show l.basis - l.released (.sell amount) = l.basis + 0 - l.released (.sell amount)
    omega

/-! ## Runs -/

def run (l : Lot) : List Move → Lot
  | [] => l
  | m :: ms => (l.move m).run ms

/-- The cost a run releases. -/
def releasedBy (l : Lot) : List Move → Int
  | [] => 0
  | m :: ms => l.released m + (l.move m).releasedBy ms

/-- **Conservation**: the cost that is left is what was paid less what was released. -/
theorem run_basis (l : Lot) (ms : List Move) :
    (l.run ms).basis = l.basis + (ms.map Move.paid).sum - l.releasedBy ms := by
  induction ms generalizing l with
  | nil => simp [run, releasedBy]
  | cons m ms ih =>
    unfold run releasedBy
    rw [ih, l.move_basis, List.map_cons, List.sum_cons]
    omega

theorem run_append (l : Lot) (ms ms' : List Move) : l.run (ms ++ ms') = (l.run ms).run ms' := by
  induction ms generalizing l with
  | nil => rfl
  | cons m ms ih => exact ih (l.move m)

/-- **A run that ends with nothing held has released all that was paid.** -/
theorem releasedBy_of_empty {l : Lot} {ms : List Move} (h : (l.run ms).amount = 0) :
    l.releasedBy ms = l.basis + (ms.map Move.paid).sum := by
  have hb := l.run_basis ms
  rw [(l.run ms).empty h] at hb
  omega

theorem amount_run_sells (l : Lot) (ns : List Nat) : (l.run (ns.map .sell)).amount = l.amount - ns.sum := by
  induction ns generalizing l with
  | nil => rfl
  | cons n ns ih =>
    rw [List.map_cons, List.sum_cons, Nat.sub_add_eq]
    exact ih (l.move (.sell n))

/-- **Sales that cut a whole lot release its whole cost**, whatever the cut. -/
theorem released_of_sold_off {l : Lot} {ns : List Nat} (h : l.amount ≤ ns.sum) :
    l.releasedBy (ns.map .sell) = l.basis := by
  rw [releasedBy_of_empty (by rw [amount_run_sells]; omega), List.map_map]
  have hz : (ns.map (Move.paid ∘ Move.sell)).sum = 0 := List.sum_eq_zero fun x hx => by
    obtain ⟨n, -, rfl⟩ := List.mem_map.1 hx
    rfl
  rw [hz]
  omega

end Lot
end AverageCost
