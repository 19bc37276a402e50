import Synxed.Lib.Table

/-!
The first row of every key, and the tables that a list of rows is inserted into.

* `rows_insertEach`: a table gains the first row of each key that it does not have.
* `sum_firsts_iff`: the amounts of these rows add up to those of all of them exactly
  when every row that is left out has none.
* `sum_by_key`: amounts may be added up key by key.
-/

namespace Synxed.Lib

variable {α κ : Type} [DecidableEq κ] {key : α → κ} {seen old : List κ} {rows : List α}

/-- The first row of each key that was not seen. -/
def firsts (key : α → κ) : List κ → List α → List α
  | _, [] => []
  | seen, row :: rest =>
      if key row ∈ seen then firsts key seen rest else row :: firsts key (seen ++ [key row]) rest

theorem firsts_cons_of_mem {row : α} (mem : key row ∈ seen) :
    firsts key seen (row :: rows) = firsts key seen rows := by
  rw [firsts, if_pos mem]

theorem firsts_cons_of_notMem {row : α} (new : key row ∉ seen) :
    firsts key seen (row :: rows) = row :: firsts key (seen ++ [key row]) rows := by
  rw [firsts, if_neg new]

theorem firsts_subset (seen : List κ) (rows : List α) : firsts key seen rows ⊆ rows := by
  induction rows generalizing seen with
  | nil => exact List.Subset.refl _
  | cons row rest ih =>
      by_cases mem : key row ∈ seen
      · rw [firsts_cons_of_mem mem]
        exact List.subset_cons_of_subset _ (ih _)
      · rw [firsts_cons_of_notMem mem]
        exact List.cons_subset_cons _ (ih _)

/-- Keys that no row has make no difference. -/
theorem firsts_append_of_fresh (fresh : ∀ row ∈ rows, key row ∉ old) :
    firsts key (old ++ seen) rows = firsts key seen rows := by
  induction rows generalizing seen with
  | nil => rfl
  | cons row rest ih =>
      obtain ⟨here, later⟩ := List.forall_mem_cons.mp fresh
      by_cases mem : key row ∈ seen
      · rw [firsts_cons_of_mem mem, firsts_cons_of_mem (List.mem_append_right _ mem), ih later]
      · have new : key row ∉ old ++ seen := by
          intro either
          exact (List.mem_append.mp either).elim here mem
        rw [firsts_cons_of_notMem mem, firsts_cons_of_notMem new, List.append_assoc, ih later]

theorem firsts_of_fresh (fresh : ∀ row ∈ rows, key row ∉ old) :
    firsts key old rows = firsts key [] rows := by
  have same : firsts key (old ++ []) rows = firsts key [] rows := firsts_append_of_fresh fresh
  rwa [List.append_nil] at same

/-- Rows with different keys are all kept. -/
theorem firsts_of_nodup (distinct : (rows.map key).Nodup) (fresh : ∀ row ∈ rows, key row ∉ seen) :
    firsts key seen rows = rows := by
  induction rows generalizing seen with
  | nil => rfl
  | cons row rest ih =>
      obtain ⟨here, later⟩ := List.forall_mem_cons.mp fresh
      obtain ⟨only, distinct⟩ := List.nodup_cons.mp distinct
      rw [firsts_cons_of_notMem here, ih distinct]
      intro other mem inside
      rcases List.mem_append.mp inside with before | same
      · exact later other mem before
      · exact only (List.mem_singleton.mp same ▸ List.mem_map_of_mem mem)

/-! ### Amounts -/

section Amounts

variable (amount : α → Nat)

theorem sum_firsts_le (seen : List κ) (rows : List α) :
    ((firsts key seen rows).map amount).sum ≤ (rows.map amount).sum := by
  induction rows generalizing seen with
  | nil => exact le_refl _
  | cons row rest ih =>
      rw [List.map_cons, List.sum_cons]
      by_cases mem : key row ∈ seen
      · rw [firsts_cons_of_mem mem]
        exact (ih seen).trans (Nat.le_add_left _ _)
      · rw [firsts_cons_of_notMem mem, List.map_cons, List.sum_cons]
        exact Nat.add_le_add_left (ih _) _

/-- Nothing is lost exactly when every row that is left out has no amount. -/
theorem sum_firsts_iff_of_seen (seen : List κ) (rows : List α) :
    ((firsts key seen rows).map amount).sum = (rows.map amount).sum ↔
      (∀ row ∈ rows, key row ∈ seen → amount row = 0) ∧
        rows.Pairwise fun row later => key row = key later → amount later = 0 := by
  induction rows generalizing seen with
  | nil => exact ⟨fun _ => ⟨fun _ mem => absurd mem List.not_mem_nil, .nil⟩, fun _ => rfl⟩
  | cons row rest ih =>
      rw [List.map_cons, List.sum_cons, List.forall_mem_cons, List.pairwise_cons]
      by_cases mem : key row ∈ seen
      · rw [firsts_cons_of_mem mem]
        have below : ((firsts key seen rest).map amount).sum ≤ _ := sum_firsts_le amount seen rest
        constructor
        · intro same
          have none : amount row = 0 := by omega
          obtain ⟨left, pairs⟩ := (ih seen).mp (by omega)
          refine ⟨⟨fun _ => none, left⟩, fun later inRest sameKey => ?_, pairs⟩
          exact left later inRest (sameKey ▸ mem)
        · rintro ⟨⟨none, left⟩, _, pairs⟩
          have same := (ih seen).mpr ⟨left, pairs⟩
          have zero := none mem
          omega
      · rw [firsts_cons_of_notMem mem, List.map_cons, List.sum_cons, Nat.add_left_cancel_iff, ih]
        constructor
        · rintro ⟨left, pairs⟩
          refine ⟨⟨fun inside => absurd inside mem, fun later inRest inside => ?_⟩,
            fun later inRest sameKey => ?_, pairs⟩
          · exact left later inRest (List.mem_append_left _ inside)
          · exact left later inRest (List.mem_append_right _ (List.mem_singleton.mpr sameKey.symm))
        · rintro ⟨⟨_, left⟩, first, pairs⟩
          refine ⟨fun later inRest inside => ?_, pairs⟩
          rcases List.mem_append.mp inside with before | same
          · exact left later inRest before
          · exact first later inRest (List.mem_singleton.mp same).symm

theorem sum_firsts_iff (rows : List α) :
    ((firsts key [] rows).map amount).sum = (rows.map amount).sum ↔
      rows.Pairwise fun row later => key row = key later → amount later = 0 := by
  rw [sum_firsts_iff_of_seen, and_iff_right]
  intro row _ mem
  exact absurd mem List.not_mem_nil

/-- Amounts may be added up key by key. -/
theorem sum_by_key {keys : List κ} (distinct : keys.Nodup) {rows : List α}
    (all : ∀ row ∈ rows, key row ∈ keys) :
    (keys.map fun k => ((rows.filter fun row => key row = k).map amount).sum).sum =
      (rows.map amount).sum := by
  induction keys generalizing rows with
  | nil =>
      cases rows with
      | nil => rfl
      | cons row rest => exact absurd (all row List.mem_cons_self) List.not_mem_nil
  | cons k keys ih =>
      obtain ⟨new, distinct⟩ := List.nodup_cons.mp distinct
      have others : ∀ row ∈ rows.filter (fun row => ¬ key row = k), key row ∈ keys := by
        intro row mem
        obtain ⟨inRows, different⟩ := List.mem_filter.mp mem
        exact (List.mem_cons.mp (all row inRows)).resolve_left (of_decide_eq_true different)
      have elsewhere : (keys.map fun k' => ((rows.filter fun row => key row = k').map amount).sum) =
          keys.map fun k' => (((rows.filter fun row => ¬ key row = k).filter
            fun row => key row = k').map amount).sum := by
        refine List.map_congr_left fun k' mem => ?_
        rw [List.filter_filter]
        congr 2
        refine List.filter_congr fun row _ => ?_
        by_cases here : key row = k'
        · have different : k' ≠ k := fun same => new (same ▸ mem)
          simp [here, different]
        · simp [here]
      rw [List.map_cons, List.sum_cons, elsewhere, ih distinct others, ← List.sum_append,
        ← List.map_append]
      refine ((List.Perm.map _ ?_).sum_eq)
      have split := List.filter_append_perm (fun row => decide (key row = k)) rows
      simpa using split

end Amounts

/-! ### Inserting into a table -/

namespace Table

/-- Add rows in order, each unless its key is taken. -/
def insertEach (table : Table α key) (rows : List α) : Table α key :=
  rows.foldl (fun table row => table.insertOrIgnore row fun _ => false) table

theorem insertEach_cons (table : Table α key) (row : α) (rows : List α) :
    table.insertEach (row :: rows) =
      (table.insertOrIgnore row fun _ => false).insertEach rows := rfl

/-- A row whose key is free and that conflicts with none is added at the end. -/
theorem rows_insertOrIgnore {table : Table α key} {row : α} {conflicts : α → Bool}
    (free : ∀ old ∈ table.rows, key old ≠ key row) (agrees : ∀ old ∈ table.rows, conflicts old = false) :
    (table.insertOrIgnore row conflicts).rows = table.rows ++ [row] := by
  have absent : table.get? (key row) = none := get?_eq_none.mpr free
  have added : row ∈ (table.insertOrIgnore row conflicts).rows :=
    mem_insertOrIgnore.mpr (.inr ⟨rfl, absent, agrees⟩)
  rcases table.insertOrIgnore_cases row conflicts with same | appended
  · rw [same] at added
    exact absurd rfl (free row added)
  · exact appended

/-- A table gains the first row of each key that it does not have. -/
theorem rows_insertEach (table : Table α key) (rows : List α) :
    (table.insertEach rows).rows = table.rows ++ firsts key (table.rows.map key) rows := by
  induction rows generalizing table with
  | nil => exact (List.append_nil _).symm
  | cons row rest ih =>
      rw [insertEach_cons, ih]
      by_cases mem : key row ∈ table.rows.map key
      · obtain ⟨old, inRows, same⟩ := List.mem_map.mp mem
        have taken : (table.get? (key row)).isSome :=
          Option.isSome_iff_exists.mpr ⟨old, get?_eq_some.mpr ⟨inRows, same⟩⟩
        rw [insertOrIgnore_refused (.inl taken), firsts_cons_of_mem mem]
      · have free : ∀ old ∈ table.rows, key old ≠ key row := by
          intro old inRows same
          exact mem (same ▸ List.mem_map_of_mem inRows)
        rw [rows_insertOrIgnore free fun _ _ => rfl, firsts_cons_of_notMem mem, List.map_append,
          List.map_singleton, List.append_assoc, List.singleton_append]

end Table

end Synxed.Lib
