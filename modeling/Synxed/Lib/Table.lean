import Mathlib.Data.List.Nodup
import Mathlib.Tactic

/-!
Tables with a primary key, kept in insertion order.

A `Table` carries the uniqueness of its keys, so looking a key up finds the one
row that has it: `get?_eq_some`, `get?_insertOrIgnore`, `get?_modify`.
-/

namespace Synxed.Lib

structure Table (α : Type) {κ : Type} (key : α → κ) where
  rows : List α
  unique : (rows.map key).Nodup

namespace Table

variable {α κ : Type} [DecidableEq κ] {key : α → κ}

def empty : Table α key := ⟨[], List.nodup_nil⟩

/-- The row with this key. -/
def get? (table : Table α key) (k : κ) : Option α := table.rows.find? fun row => key row = k

/-- Add a row, unless its key is taken or it conflicts with a row otherwise. -/
def insertOrIgnore (table : Table α key) (row : α) (conflicts : α → Bool) : Table α key :=
  if h : (table.get? (key row)).isSome ∨ table.rows.any conflicts then table
  else
    { rows := table.rows ++ [row]
      unique := by
        have absent : key row ∉ table.rows.map key := by
          intro mem
          obtain ⟨old, inRows, same⟩ := List.mem_map.mp mem
          refine h (.inl ?_)
          rw [get?, List.find?_isSome]
          exact ⟨old, inRows, by simpa using same⟩
        rw [List.map_append, List.map_singleton]
        exact List.nodup_append.mpr ⟨table.unique, List.nodup_singleton _, fun a mem b single => by
          rw [List.mem_singleton.mp single]
          rintro rfl
          exact absent mem⟩ }

/-- Change the row with this key, which keeps its key. -/
def modify (table : Table α key) (k : κ) (f : α → α) (keeps : ∀ row, key (f row) = key row) :
    Table α key where
  rows := table.rows.map fun row => if key row = k then f row else row
  unique := by
    have same : key ∘ (fun row => if key row = k then f row else row) = key := by
      funext row
      simp only [Function.comp_apply]
      split
      · exact keeps row
      · rfl
    rw [List.map_map, same]
    exact table.unique

theorem get?_eq_some {table : Table α key} {k : κ} {row : α} :
    table.get? k = some row ↔ row ∈ table.rows ∧ key row = k := by
  constructor
  · intro found
    exact ⟨List.mem_of_find?_eq_some found, by simpa using List.find?_some found⟩
  · rintro ⟨mem, rfl⟩
    have some : (table.get? (key row)).isSome := by
      rw [get?, List.find?_isSome]
      exact ⟨row, mem, by simp⟩
    obtain ⟨found, isFound⟩ := Option.isSome_iff_exists.mp some
    have sameKey : key found = key row := by simpa using List.find?_some isFound
    rw [isFound, List.inj_on_of_nodup_map table.unique (List.mem_of_find?_eq_some isFound) mem sameKey]

theorem get?_eq_none {table : Table α key} {k : κ} :
    table.get? k = none ↔ ∀ row ∈ table.rows, key row ≠ k := by
  simp [get?]

/-- A row that is refused was refused for a reason. -/
theorem mem_insertOrIgnore {table : Table α key} {row : α} {conflicts : α → Bool} {other : α} :
    other ∈ (table.insertOrIgnore row conflicts).rows ↔
      other ∈ table.rows ∨ other = row ∧ table.get? (key row) = none ∧
        ∀ old ∈ table.rows, conflicts old = false := by
  unfold insertOrIgnore
  split
  · next refused =>
      refine ⟨.inl, ?_⟩
      rintro (old | ⟨rfl, absent, free⟩)
      · exact old
      · rcases refused with taken | conflict
        · rw [absent] at taken
          cases taken
        · obtain ⟨old, mem, conflict⟩ := List.any_eq_true.mp conflict
          rw [free old mem] at conflict
          cases conflict
  · next accepted =>
      simp only [not_or, Bool.not_eq_true, Option.isSome_eq_false_iff, Option.isNone_iff_eq_none,
        List.any_eq_false] at accepted
      rw [List.mem_append, List.mem_singleton]
      exact or_congr_right (iff_self_and.mpr fun _ => accepted)

/-- A row whose key is taken, or that conflicts, changes nothing. -/
theorem insertOrIgnore_refused {table : Table α key} {row : α} {conflicts : α → Bool}
    (refused : (table.get? (key row)).isSome ∨ table.rows.any conflicts) :
    table.insertOrIgnore row conflicts = table := dif_pos refused

/-- An insertion adds its row at the end, or nothing. -/
theorem insertOrIgnore_cases (table : Table α key) (row : α) (conflicts : α → Bool) :
    table.insertOrIgnore row conflicts = table ∨
      (table.insertOrIgnore row conflicts).rows = table.rows ++ [row] := by
  unfold insertOrIgnore
  split
  · exact .inl rfl
  · exact .inr rfl

/-- After an insertion the key is taken, or the row conflicted. -/
theorem taken_insertOrIgnore (table : Table α key) (row : α) (conflicts : α → Bool) :
    ((table.insertOrIgnore row conflicts).get? (key row)).isSome ∨
      (table.insertOrIgnore row conflicts).rows.any conflicts := by
  unfold insertOrIgnore
  split
  · next refused => exact refused
  · refine .inl ?_
    rw [get?, List.find?_isSome]
    exact ⟨row, List.mem_append_right _ List.mem_cons_self, by simp⟩

/-- A key that is taken stays taken while rows are added. -/
theorem isSome_get?_of_subset {table table' : Table α key} {k : κ} (kept : table.rows ⊆ table'.rows)
    (taken : (table.get? k).isSome) : (table'.get? k).isSome := by
  obtain ⟨row, found⟩ := Option.isSome_iff_exists.mp taken
  obtain ⟨mem, same⟩ := get?_eq_some.mp found
  exact Option.isSome_iff_exists.mpr ⟨row, get?_eq_some.mpr ⟨kept mem, same⟩⟩

theorem subset_insertOrIgnore (table : Table α key) (row : α) (conflicts : α → Bool) :
    table.rows ⊆ (table.insertOrIgnore row conflicts).rows := by
  rcases table.insertOrIgnore_cases row conflicts with same | added
  · rw [same]
    exact List.Subset.refl _
  · rw [added]
    exact List.subset_append_left _ _

/-- A row of a changed table is an old one, or the one that was changed. -/
theorem mem_changed {rows : List α} {k : κ} {f : α → α} {row : α} :
    row ∈ (rows.map fun row => if key row = k then f row else row) ↔
      (row ∈ rows ∧ key row ≠ k) ∨ ∃ old ∈ rows, key old = k ∧ row = f old := by
  rw [List.mem_map]
  constructor
  · rintro ⟨old, mem, rfl⟩
    by_cases here : key old = k
    · exact .inr ⟨old, mem, here, by rw [if_pos here]⟩
    · exact .inl (by rw [if_neg here]; exact ⟨mem, here⟩)
  · rintro (⟨mem, elsewhere⟩ | ⟨old, mem, here, rfl⟩)
    · exact ⟨row, mem, if_neg elsewhere⟩
    · exact ⟨old, mem, if_pos here⟩

theorem mem_modify {table : Table α key} {k : κ} {f : α → α} {keeps : ∀ row, key (f row) = key row}
    {row : α} :
    row ∈ (table.modify k f keeps).rows ↔
      (row ∈ table.rows ∧ key row ≠ k) ∨ ∃ old ∈ table.rows, key old = k ∧ row = f old :=
  mem_changed

theorem get?_modify {table : Table α key} {k k' : κ} {f : α → α}
    {keeps : ∀ row, key (f row) = key row} :
    (table.modify k f keeps).get? k' = if k' = k then (table.get? k).map f else table.get? k' := by
  cases found : table.get? k' with
  | none =>
      have absent := get?_eq_none.mp found
      rw [ite_eq_right_iff.mpr (fun same => by rw [← same, found]; rfl), get?_eq_none]
      intro row mem
      rcases mem_modify.mp mem with ⟨old, _⟩ | ⟨old, inRows, _, rfl⟩
      · exact absent row old
      · rw [keeps]
        exact absent old inRows
  | some row =>
      obtain ⟨mem, rfl⟩ := get?_eq_some.mp found
      by_cases here : key row = k
      · subst here
        rw [if_pos rfl, found, Option.map_some, get?_eq_some, keeps]
        exact ⟨mem_modify.mpr (.inr ⟨row, mem, rfl, rfl⟩), rfl⟩
      · rw [if_neg here, get?_eq_some]
        exact ⟨mem_modify.mpr (.inl ⟨mem, here⟩), rfl⟩

/-- A change adds no row and loses none. -/
@[simp] theorem isSome_get?_modify {table : Table α key} {k k' : κ} {f : α → α}
    {keeps : ∀ row, key (f row) = key row} :
    ((table.modify k f keeps).get? k').isSome = (table.get? k').isSome := by
  rw [get?_modify]
  split
  · next same => rw [Option.isSome_map, same]
  · rfl

/-- An insertion finds the new row, if it was added, and else what was there. -/
theorem get?_insertOrIgnore {table : Table α key} {row : α} {conflicts : α → Bool} {k : κ}
    (other : k ≠ key row) : (table.insertOrIgnore row conflicts).get? k = table.get? k := by
  cases found : table.get? k with
  | none =>
      refine get?_eq_none.mpr fun old mem => ?_
      rcases mem_insertOrIgnore.mp mem with inRows | ⟨rfl, _⟩
      · exact get?_eq_none.mp found old inRows
      · exact other.symm
  | some old =>
      obtain ⟨mem, rfl⟩ := get?_eq_some.mp found
      exact get?_eq_some.mpr ⟨mem_insertOrIgnore.mpr (.inl mem), rfl⟩

end Table

end Synxed.Lib
