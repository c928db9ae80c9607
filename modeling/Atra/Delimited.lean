import Mathlib.Data.String.Basic
/-!
# Delimited — joined texts taken apart again

Texts joined by a separator are determined by the join when no part holds the separator; where only the first part is free of
it, the first part and the rest are.
-/
namespace Delimited

/-- What stands before the first separator, and what stands after it. -/
theorem append_inj {A : Type} {c : A} {x y u v : List A} (hx : c ∉ x) (hy : c ∉ y) (h : x ++ c :: u = y ++ c :: v) :
    x = y ∧ u = v := by
  induction x generalizing y with
  | nil =>
    cases y with
    | nil => exact ⟨rfl, (List.cons.inj h).2⟩
    | cons b y => exact absurd ((List.cons.inj h).1 ▸ List.mem_cons_self) hy
  | cons a x ih =>
    cases y with
    | nil => exact absurd ((List.cons.inj h).1 ▸ List.mem_cons_self) hx
    | cons b y =>
      obtain ⟨rfl, htail⟩ := List.cons.inj h
      obtain ⟨rfl, rfl⟩ := ih (fun hc => hx (List.mem_cons_of_mem _ hc)) (fun hc => hy (List.mem_cons_of_mem _ hc)) htail
      exact ⟨rfl, rfl⟩

theorem string_inj {c : Char} {x y u v : String} (hx : c ∉ x.toList) (hy : c ∉ y.toList)
    (h : x ++ String.singleton c ++ u = y ++ String.singleton c ++ v) : x = y ∧ u = v := by
  have hlists : x.toList ++ c :: u.toList = y.toList ++ c :: v.toList := by
    simpa [String.toList_append] using congrArg String.toList h
  obtain ⟨hfirst, hrest⟩ := append_inj hx hy hlists
  exact ⟨String.toList_inj.1 hfirst, String.toList_inj.1 hrest⟩

theorem intercalate_injective {c : Char} {xs ys : List String} (hxs : ∀ s ∈ xs, c ∉ s.toList)
    (hys : ∀ s ∈ ys, c ∉ s.toList) (hx : xs ≠ []) (hy : ys ≠ [])
    (h : String.intercalate (String.singleton c) xs = String.intercalate (String.singleton c) ys) : xs = ys := by
  have hsplit : ∀ zs : List String, (∀ s ∈ zs, c ∉ s.toList) → zs ≠ [] →
      (String.intercalate (String.singleton c) zs).toList.splitOn c = zs.map String.toList := by
    intro zs hzs hz
    rw [String.toList_intercalate, String.toList_singleton, List.splitOn_intercalate]
    · intro l hl
      obtain ⟨s, hs, rfl⟩ := List.mem_map.1 hl
      exact hzs s hs
    · simpa using hz
  have hlists : xs.map String.toList = ys.map String.toList := by rw [← hsplit xs hxs hx, ← hsplit ys hys hy, h]
  exact List.map_injective_iff.2 (fun _ _ => String.toList_inj.1) hlists

end Delimited
