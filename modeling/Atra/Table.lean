import Mathlib.Algebra.BigOperators.Group.List.Basic
import Mathlib.Data.List.Nodup
import Mathlib.Data.List.Sort
import Mathlib.Tactic.Linarith
/-!
# Table — rows with a unique key

A table is a list of rows in the order they were inserted, no two with the same key.  `get` is a lookup by key, `put` an
insert that replaces in place on conflict, `delete` a removal.  Their rules are those of a finite map (`get_put`,
`get_delete`), and the total of a column over the rows changes by what was replaced and what was put (`total_put`,
`total_delete`).
-/

/-- Rows of `R`, no two with the same key. -/
structure Table {R K : Type} (key : R → K) where
  rows : List R
  keyed : (rows.map key).Nodup

namespace Table

variable {R K : Type} [DecidableEq K] {key : R → K}

def empty : Table key := ⟨[], List.nodup_nil⟩

def get (t : Table key) (k : K) : Option R := t.rows.find? fun r => key r = k

/-- The rows of a list with the one of the same key replaced. -/
def replace (key : R → K) (r : R) (rows : List R) : List R := rows.map fun x => if key x = key r then r else x

theorem map_key_replace (r : R) (rows : List R) : (replace key r rows).map key = rows.map key := by
  unfold replace
  rw [List.map_map]
  apply List.map_congr_left
  intro x _
  by_cases h : key x = key r
  · simp [h]
  · simp [h]

/-- Insert a row, or replace the one with its key in place. -/
def put (t : Table key) (r : R) : Table key :=
  if h : key r ∈ t.rows.map key then ⟨replace key r t.rows, by rw [map_key_replace]; exact t.keyed⟩
  else ⟨t.rows ++ [r], by rw [List.map_append, List.map_singleton, ← List.concat_eq_append]; exact t.keyed.concat h⟩

/-- Remove the row with a key. -/
def delete (t : Table key) (k : K) : Table key :=
  ⟨t.rows.filter fun r => key r ≠ k, (List.filter_sublist.map key).nodup t.keyed⟩

/-- The rows that pass a test. -/
def keep (p : R → Bool) (t : Table key) : Table key := ⟨t.rows.filter p, (List.filter_sublist.map key).nodup t.keyed⟩

/-- Rewrite every row, keys apart. -/
def update (f : R → R) (hf : ∀ r, key (f r) = key r) (t : Table key) : Table key :=
  ⟨t.rows.map f, by rw [List.map_map, show key ∘ f = key from funext hf]; exact t.keyed⟩

def total (v : R → Int) (t : Table key) : Int := (t.rows.map v).sum

/-! ## Lookups -/

theorem get_eq_none {t : Table key} {k : K} : t.get k = none ↔ k ∉ t.rows.map key := by
  unfold get
  rw [List.find?_eq_none]
  simp

theorem key_of_get {t : Table key} {k : K} {r : R} (h : t.get k = some r) : key r = k := by
  simpa using List.find?_some h

theorem mem_of_get {t : Table key} {k : K} {r : R} (h : t.get k = some r) : r ∈ t.rows := List.mem_of_find?_eq_some h

theorem get_key_of_mem {t : Table key} {r : R} (h : r ∈ t.rows) : t.get (key r) = some r := by
  obtain ⟨rows, keyed⟩ := t
  unfold get
  dsimp only at h ⊢
  induction rows with
  | nil => cases h
  | cons x xs ih =>
    rw [List.map_cons, List.nodup_cons] at keyed
    rcases List.mem_cons.1 h with rfl | hr
    · exact List.find?_cons_of_pos (by simp)
    · have hne : key x ≠ key r := fun he => keyed.1 (List.mem_map.2 ⟨r, hr, he.symm⟩)
      rw [List.find?_cons_of_neg (by simpa using hne)]
      exact ih keyed.2 hr

/-- What holds of every row holds of what is found at every key, and the other way. -/
theorem forall_rows {t : Table key} {P : R → Prop} : (∀ r ∈ t.rows, P r) ↔ ∀ k r, t.get k = some r → P r :=
  ⟨fun h _ _ hg => h _ (mem_of_get hg), fun h _ hr => h _ _ (get_key_of_mem hr)⟩

theorem find?_replace (r : R) (k : K) (rows : List R) : (replace key r rows).find? (fun x => key x = k) =
    if k = key r ∧ k ∈ rows.map key then some r else rows.find? fun x => key x = k := by
  induction rows with
  | nil => simp [replace]
  | cons x xs ih =>
    unfold replace at ih ⊢
    rw [List.map_cons, List.find?_cons, List.find?_cons, ih]
    by_cases hx : key x = key r
    · by_cases hk : k = key r
      · simp [hx, hk]
      · simp [hx, Ne.symm hk, hk]
    · by_cases hk : key x = k
      · simp [hk, show k ≠ key r by rw [← hk]; exact hx]
      · simp [hx, hk, Ne.symm hk]

/-- **What a put leaves at each key.** -/
theorem get_put (t : Table key) (r : R) (k : K) : (t.put r).get k = if k = key r then some r else t.get k := by
  unfold put
  by_cases h : key r ∈ t.rows.map key
  · rw [dif_pos h]
    unfold get
    rw [find?_replace]
    by_cases hk : k = key r
    · rw [if_pos ⟨hk, hk ▸ h⟩, if_pos hk]
    · rw [if_neg (fun hc => hk hc.1), if_neg hk]
  · rw [dif_neg h]
    unfold get
    rw [List.find?_append, List.find?_singleton]
    by_cases hk : k = key r
    · have hn : t.rows.find? (fun x => key x = k) = none := get_eq_none.2 (hk ▸ h)
      rw [hn]
      simp [hk]
    · simp [hk, Ne.symm hk]

theorem mem_put {t : Table key} {r x : R} (h : x ∈ (t.put r).rows) : x = r ∨ x ∈ t.rows := by
  have hget := get_key_of_mem h
  rw [get_put] at hget
  split at hget
  · exact .inl (Option.some.inj hget).symm
  · exact .inr (mem_of_get hget)

theorem mem_keys_put (t : Table key) (r : R) (k : K) :
    k ∈ (t.put r).rows.map key ↔ k ∈ t.rows.map key ∨ k = key r := by
  unfold put
  by_cases h : key r ∈ t.rows.map key
  · rw [dif_pos h]
    show k ∈ (replace key r t.rows).map key ↔ _
    rw [map_key_replace]
    constructor
    · exact .inl
    · rintro (hk | rfl)
      · exact hk
      · exact h
  · rw [dif_neg h, List.map_append, List.mem_append, List.map_singleton, List.mem_singleton]

/-- **What a delete leaves at each key.** -/
theorem get_delete (t : Table key) (k k' : K) : (t.delete k).get k' = if k' = k then none else t.get k' := by
  unfold delete get
  rw [List.find?_filter]
  by_cases hk : k' = k
  · rw [if_pos hk, List.find?_eq_none]
    intro r _
    simp [hk]
  · rw [if_neg hk]
    congr 1
    funext r
    by_cases hr : key r = k'
    · simp [hr, hk]
    · simp [hr]

/-- **What is kept at each key.** -/
theorem get_keep (t : Table key) (p : R → Bool) (k : K) : (t.keep p).get k = (t.get k).filter p := by
  cases hg : t.get k with
  | none =>
    rw [get_eq_none] at hg
    refine get_eq_none.2 fun hk => hg ?_
    exact (List.filter_sublist.map key).subset hk
  | some r =>
    obtain rfl := key_of_get hg
    by_cases hp : p r = true
    · rw [Option.filter_some, if_pos hp]
      exact get_key_of_mem (List.mem_filter.2 ⟨mem_of_get hg, hp⟩)
    · rw [Option.filter_some, if_neg hp]
      refine get_eq_none.2 fun hk => hp ?_
      obtain ⟨r', hr', hkey⟩ := List.mem_map.1 hk
      obtain ⟨hm, hp'⟩ := List.mem_filter.1 hr'
      have hg' := get_key_of_mem hm
      rw [hkey, hg] at hg'
      rw [Option.some.inj hg']
      exact hp'

/-- **What an update leaves at each key.** -/
theorem get_update (t : Table key) (f : R → R) (hf : ∀ r, key (f r) = key r) (k : K) :
    (t.update f hf).get k = (t.get k).map f := by
  unfold update get
  rw [List.find?_map]
  congr 2
  funext r
  rw [Function.comp_apply, hf]

theorem filter_replace_of {r : R} {p : R → Bool} (hr : p r = false) (rows : List R)
    (h : ∀ x ∈ rows, key x = key r → p x = false) : (replace key r rows).filter p = rows.filter p := by
  unfold replace
  induction rows with
  | nil => rfl
  | cons x xs ih =>
    have hxs := ih fun y hy => h y (List.mem_cons_of_mem _ hy)
    rw [List.map_cons, List.filter_cons, List.filter_cons, hxs]
    by_cases hx : key x = key r
    · rw [if_pos hx, hr, h x List.mem_cons_self hx, if_neg Bool.false_ne_true, if_neg Bool.false_ne_true]
    · rw [if_neg hx]

/-- Putting a row leaves the rows that pass a test, when neither it nor the row it replaces does. -/
theorem filter_put {t : Table key} {r : R} {p : R → Bool} (hr : p r = false) (h : ∀ x, t.get (key r) = some x → p x = false) :
    (t.put r).rows.filter p = t.rows.filter p := by
  unfold put
  by_cases hk : key r ∈ t.rows.map key
  · rw [dif_pos hk]
    exact filter_replace_of hr t.rows fun x hx hkey => h x (by rw [← hkey]; exact get_key_of_mem hx)
  · rw [dif_neg hk, List.filter_append, List.filter_cons_of_neg (by simp [hr])]
    exact List.append_nil _

/-! ## Column totals -/

theorem sum_split (v : R → Int) (k : K) (rows : List R) (h : (rows.map key).Nodup) :
    (rows.map v).sum = ((rows.filter fun r => key r ≠ k).map v).sum +
      ((rows.find? fun r => key r = k).map v).getD 0 := by
  induction rows with
  | nil => simp
  | cons x xs ih =>
    rw [List.map_cons, List.nodup_cons] at h
    by_cases hx : key x = k
    · have hrest : xs.filter (fun r => key r ≠ k) = xs := by
        rw [List.filter_eq_self]
        intro r hr
        have : key r ≠ k := fun hrk => h.1 (List.mem_map.2 ⟨r, hr, by rw [hrk, hx]⟩)
        simpa using this
      rw [List.filter_cons_of_neg (by simp [hx]), hrest, List.find?_cons_of_pos (by simp [hx])]
      simp
      omega
    · rw [List.filter_cons_of_pos (by simp [hx]), List.find?_cons_of_neg (by simp [hx]), List.map_cons, List.sum_cons,
        List.map_cons, List.sum_cons, ih h.2]
      omega

omit [DecidableEq K] in
theorem sum_filter (v : R → Int) (t : Table key) (p : R → Prop) [DecidablePred p] :
    ((t.rows.filter p).map v).sum = t.total fun r => if p r then v r else 0 := by
  unfold total
  induction t.rows with
  | nil => rfl
  | cons x xs ih =>
    by_cases hx : p x
    · rw [List.filter_cons_of_pos (by simpa using hx), List.map_cons, List.sum_cons, ih, List.map_cons, List.sum_cons,
        if_pos hx]
    · rw [List.filter_cons_of_neg (by simpa using hx), ih, List.map_cons, List.sum_cons, if_neg hx, Int.zero_add]

omit [DecidableEq K] in
/-- The order of the rows does not matter to a total over some of them. -/
theorem sum_sorted_filter (v : R → Int) (t : Table key) (p : R → Prop) [DecidablePred p] (le : R → R → Prop)
    [DecidableRel le] : (((t.rows.filter p).insertionSort le).map v).sum = t.total fun r => if p r then v r else 0 := by
  rw [((List.perm_insertionSort le (t.rows.filter p)).map v).sum_eq, sum_filter]

omit [DecidableEq K] in
theorem total_congr {v v' : R → Int} {t : Table key} (h : ∀ r ∈ t.rows, v r = v' r) : t.total v = t.total v' := by
  unfold total
  rw [List.map_congr_left h]

/-- What a column holds at a key; nothing where there is no row. -/
def share (v : R → Int) (t : Table key) (k : K) : Int := ((t.get k).map v).getD 0

theorem share_some {v : R → Int} {t : Table key} {k : K} {r : R} (h : t.get k = some r) : t.share v k = v r := by
  unfold share
  rw [h]
  rfl

theorem share_none {v : R → Int} {t : Table key} {k : K} (h : t.get k = none) : t.share v k = 0 := by
  unfold share
  rw [h]
  rfl

theorem share_congr {v : R → Int} {t t' : Table key} {k : K} (h : t'.get k = t.get k) : t'.share v k = t.share v k := by
  unfold share
  rw [h]

theorem total_at {v : R → Int} {t : Table key} {k : K} (h : ∀ r ∈ t.rows, key r ≠ k → v r = 0) :
    t.total v = t.share v k := by
  have hs := sum_split v k t.rows t.keyed
  have hz : ((t.rows.filter fun r => key r ≠ k).map v).sum = 0 := by
    refine List.sum_eq_zero fun x hx => ?_
    obtain ⟨r, hr, rfl⟩ := List.mem_map.1 hx
    obtain ⟨hm, hk⟩ := List.mem_filter.1 hr
    exact h r hm (by simpa using hk)
  unfold total share get
  rw [hs, hz, Int.zero_add]

theorem filter_replace (r : R) (rows : List R) :
    (replace key r rows).filter (fun x => key x ≠ key r) = rows.filter fun x => key x ≠ key r := by
  unfold replace
  induction rows with
  | nil => rfl
  | cons x xs ih =>
    rw [List.map_cons]
    by_cases hx : key x = key r
    · rw [if_pos hx, List.filter_cons_of_neg (by simp), List.filter_cons_of_neg (by simp [hx]), ih]
    · rw [if_neg hx, List.filter_cons_of_pos (by simp [hx]), List.filter_cons_of_pos (by simp [hx]), ih]

/-- **Putting a row adds its share**, less that of the row it replaces. -/
theorem total_put (v : R → Int) (t : Table key) (r : R) :
    (t.put r).total v = t.total v - t.share v (key r) + v r := by
  by_cases h : key r ∈ t.rows.map key
  · have hg : (t.put r).get (key r) = some r := by rw [get_put, if_pos rfl]
    have hs := sum_split v (key r) (t.put r).rows (t.put r).keyed
    have hs' := sum_split v (key r) t.rows t.keyed
    have hf : (t.put r).rows.filter (fun x => key x ≠ key r) = t.rows.filter fun x => key x ≠ key r := by
      unfold put
      rw [dif_pos h]
      exact filter_replace r t.rows
    unfold get at hg
    rw [hg, hf] at hs
    unfold total share get
    rw [hs, hs']
    simp
  · have hn : t.get (key r) = none := get_eq_none.2 h
    unfold total share put
    rw [dif_neg h, hn]
    simp

/-- **What changed at one key changes the total by its share**, whatever the operation. -/
theorem total_frame (v : R → Int) {t t' : Table key} {k : K} (h : ∀ k', k' ≠ k → t'.get k' = t.get k') :
    t'.total v = t.total v - t.share v k + t'.share v k := by
  have hmem : ∀ r, r ∈ t'.rows.filter (fun r => key r ≠ k) ↔ r ∈ t.rows.filter (fun r => key r ≠ k) := by
    intro r
    rw [List.mem_filter, List.mem_filter]
    refine and_congr_left fun hk => ?_
    have hne : key r ≠ k := by simpa using hk
    constructor
    · intro hr
      have hg := get_key_of_mem hr
      rw [h _ hne] at hg
      exact mem_of_get hg
    · intro hr
      have hg := get_key_of_mem hr
      rw [← h _ hne] at hg
      exact mem_of_get hg
  have hperm : (t'.rows.filter fun r => key r ≠ k).Perm (t.rows.filter fun r => key r ≠ k) :=
    (List.perm_ext_iff_of_nodup (t'.keyed.of_map.filter _) (t.keyed.of_map.filter _)).2 hmem
  have hs := sum_split v k t.rows t.keyed
  have hs' := sum_split v k t'.rows t'.keyed
  rw [(hperm.map v).sum_eq] at hs'
  unfold total share get
  omega

/-- The total of a column over the rows whose key is picked. -/
def totalOver (p : K → Bool) (v : R → Int) (t : Table key) : Int := t.total fun r => if p (key r) then v r else 0

theorem share_over (p : K → Bool) (v : R → Int) (t : Table key) (k : K) :
    t.share (fun r => if p (key r) then v r else 0) k = if p k then t.share v k else 0 := by
  unfold share
  cases hg : t.get k with
  | none =>
    rw [Option.map_none, Option.map_none, Option.getD_none]
    split
    · rfl
    · rfl
  | some r =>
    rw [Option.map_some, Option.map_some, Option.getD_some, Option.getD_some, key_of_get hg]

/-- **What changed at one key changes a picked total by its share there**, where the key is picked. -/
theorem totalOver_frame (p : K → Bool) (v : R → Int) {t t' : Table key} {k : K} (h : ∀ k', k' ≠ k → t'.get k' = t.get k') :
    t'.totalOver p v = t.totalOver p v + if p k then t'.share v k - t.share v k else 0 := by
  unfold totalOver
  rw [total_frame _ h, share_over, share_over]
  split
  · omega
  · omega

end Table
