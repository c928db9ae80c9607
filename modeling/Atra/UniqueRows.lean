import Mathlib.Data.List.Nodup
/-!
# UniqueRows — rows with a primary key and a second unique column

What a relational table with a primary key and one `UNIQUE` column offers: an insert fails on a row that agrees with a stored
one in either column (`insert_eq_some`), a row is found by its second column (`find_eq_some`), rows are dropped or rewritten
under a test.  Everything is stated by membership: the order of the rows plays no part.
-/

/-- Rows of `R`, no two with the same key and no two with the same mark. -/
structure UniqueRows {R K M : Type} (key : R → K) (mark : R → M) where
  rows : List R
  keyed : (rows.map key).Nodup
  marked : (rows.map mark).Nodup

namespace UniqueRows

variable {R K M : Type} {key : R → K} {mark : R → M} {t t' : UniqueRows key mark} {r x : R}

def empty : UniqueRows key mark := ⟨[], List.nodup_nil, List.nodup_nil⟩

/-- The rows that pass a test. -/
def keep (p : R → Bool) (t : UniqueRows key mark) : UniqueRows key mark :=
  ⟨t.rows.filter p, (List.filter_sublist.map key).nodup t.keyed, (List.filter_sublist.map mark).nodup t.marked⟩

/-- Every row rewritten, keys and marks apart. -/
def update (f : R → R) (hk : ∀ r, key (f r) = key r) (hm : ∀ r, mark (f r) = mark r) (t : UniqueRows key mark) :
    UniqueRows key mark :=
  ⟨t.rows.map f, by rw [List.map_map, show key ∘ f = key from funext hk]; exact t.keyed,
    by rw [List.map_map, show mark ∘ f = mark from funext hm]; exact t.marked⟩

section
variable [DecidableEq M]

def find (t : UniqueRows key mark) (m : M) : Option R := t.rows.find? fun r => mark r = m

theorem find_eq_some {m : M} : t.find m = some r ↔ r ∈ t.rows ∧ mark r = m := by
  unfold find
  constructor
  · intro h
    exact ⟨List.mem_of_find?_eq_some h, by simpa using List.find?_some h⟩
  · rintro ⟨hr, hm⟩
    cases hf : t.rows.find? fun r => mark r = m with
    | none => exact absurd hm (by simpa using List.find?_eq_none.1 hf r hr)
    | some x =>
      have hx : mark x = m := by simpa using List.find?_some hf
      exact congrArg some (List.inj_on_of_nodup_map t.marked (List.mem_of_find?_eq_some hf) hr (hx.trans hm.symm))

variable [DecidableEq K]

/-- A new row; none where its key or its mark is taken. -/
def insert (t : UniqueRows key mark) (r : R) : Option (UniqueRows key mark) :=
  if h : key r ∉ t.rows.map key ∧ mark r ∉ t.rows.map mark then
    some ⟨t.rows ++ [r],
      by rw [List.map_append, List.map_singleton, ← List.concat_eq_append]; exact t.keyed.concat h.1,
      by rw [List.map_append, List.map_singleton, ← List.concat_eq_append]; exact t.marked.concat h.2⟩
  else none

theorem insert_eq_some (h : t.insert r = some t') :
    key r ∉ t.rows.map key ∧ mark r ∉ t.rows.map mark ∧ t'.rows = t.rows ++ [r] := by
  unfold insert at h
  split at h
  · rename_i hfree
    obtain rfl := Option.some.inj h
    exact ⟨hfree.1, hfree.2, rfl⟩
  · cases h

end

theorem eq_of_key (hr : r ∈ t.rows) (hx : x ∈ t.rows) (h : key r = key x) : r = x :=
  List.inj_on_of_nodup_map t.keyed hr hx h

theorem eq_of_mark (hr : r ∈ t.rows) (hx : x ∈ t.rows) (h : mark r = mark x) : r = x :=
  List.inj_on_of_nodup_map t.marked hr hx h

@[simp] theorem mem_keep {p : R → Bool} : r ∈ (t.keep p).rows ↔ r ∈ t.rows ∧ p r = true := List.mem_filter

@[simp] theorem mem_update {f : R → R} (hk : ∀ r, key (f r) = key r) (hm : ∀ r, mark (f r) = mark r) :
    r ∈ (t.update f hk hm).rows ↔ ∃ x ∈ t.rows, f x = r := List.mem_map

/-! ## Counting rows -/

/-- Rewriting rows so that none comes to pass a test counts no more of them. -/
theorem countP_update_le {p : R → Bool} {f : R → R} (rows : List R) (hp : ∀ x, p (f x) = true → p x = true) :
    (rows.map f).countP p ≤ rows.countP p := by
  rw [List.countP_map]
  exact List.countP_mono_left fun x _ => hp x

/-- One fewer, where a row passed the test and does so no longer. -/
theorem countP_update_lt {p : R → Bool} {f : R → R} {rows : List R} (hp : ∀ x, p (f x) = true → p x = true)
    (hr : r ∈ rows) (hbefore : p r = true) (hafter : p (f r) = false) : (rows.map f).countP p < rows.countP p := by
  induction rows with
  | nil => cases hr
  | cons x rows ih =>
    rw [List.map_cons, List.countP_cons, List.countP_cons]
    rcases List.mem_cons.1 hr with rfl | hr
    · have := countP_update_le rows hp
      rw [if_pos hbefore, if_neg (by simp [hafter])]
      omega
    · have := ih hr
      by_cases hx : p (f x) = true
      · rw [if_pos hx, if_pos (hp x hx)]
        omega
      · rw [if_neg hx]
        omega

end UniqueRows
