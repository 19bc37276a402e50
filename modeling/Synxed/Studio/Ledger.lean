import Synxed.Studio.Store

/-!
The ledger tables of the worker's database under repeated recording.

* `recordPaid_again`: recording what is written already changes no ledger table.
* `recordPaid_written`: after a recording its rows are there.
* `recordPaid_other`: a recording leaves the rows of other events alone.
-/

namespace Synxed.Studio.Store

open Synxed.Lib Synxed.Program Synxed.Sdk

variable {store store' : Store} {eventId other : JsString}

/-- What the tables hold of the payment of one event. -/
structure EventLedger where
  settlement : Option SettlementRecord
  entries : List LedgerEntryRow
  payouts : List PoolPayoutRow

def ledgerOf (store : Store) (eventId : JsString) : EventLedger :=
  ⟨store.settlement eventId, store.entriesOf eventId, store.payoutsOf eventId⟩

/-- Nothing was written of the payment of an event. -/
def EventLedger.empty : EventLedger := ⟨none, [], []⟩

/-- Rows with these keys are in the tables, or conflict with ones that are. -/
structure Written (store : Store) (eventId signature : JsString) (directEntries : List LedgerEntry)
    (poolPayouts : List PayoutLine) : Prop where
  settlement : (store.settlements.get? (column eventId)).isSome ∨
    store.settlements.rows.any fun row => row.signature = column signature
  entries : ∀ entry ∈ directEntries, (bound entry.beneficiaryId).isSome ∧
    (store.ledgerRows.get? (column entry.entryId)).isSome
  payouts : ∀ payout ∈ poolPayouts,
    (store.poolRows.get? (column eventId, column payout.role)).isSome

/-- Rows are only added to the ledger tables. -/
structure Extends (store store' : Store) : Prop where
  settlements : store.settlements.rows ⊆ store'.settlements.rows
  ledgerRows : store.ledgerRows.rows ⊆ store'.ledgerRows.rows
  poolRows : store.poolRows.rows ⊆ store'.poolRows.rows

theorem Written.mono {signature : JsString} {directEntries : List LedgerEntry}
    {poolPayouts : List PayoutLine} (written : store.Written eventId signature directEntries poolPayouts)
    (added : Extends store store') : store'.Written eventId signature directEntries poolPayouts where
  settlement := by
    rcases written.settlement with taken | conflict
    · exact .inl (Table.isSome_get?_of_subset added.settlements taken)
    · obtain ⟨row, mem, same⟩ := List.any_eq_true.mp conflict
      exact .inr (List.any_eq_true.mpr ⟨row, added.settlements mem, same⟩)
  entries entry mem :=
    ⟨(written.entries entry mem).1, Table.isSome_get?_of_subset added.ledgerRows (written.entries entry mem).2⟩
  payouts payout mem := Table.isSome_get?_of_subset added.poolRows (written.payouts payout mem)

/-- A column's text names the same rows. -/
theorem written_column {signature : JsString} {directEntries : List LedgerEntry}
    {poolPayouts : List PayoutLine} :
    store.Written (column eventId) signature directEntries poolPayouts ↔
      store.Written eventId signature directEntries poolPayouts := by
  constructor
  · rintro ⟨settlement, entries, payouts⟩
    rw [column_column] at settlement payouts
    exact ⟨settlement, entries, payouts⟩
  · rintro ⟨settlement, entries, payouts⟩
    rw [← column_column eventId] at settlement payouts
    exact ⟨settlement, entries, payouts⟩

/-! ### Entries -/

section Entries

variable {entries : List LedgerEntry} {rows rows' : Table LedgerEntryRow LedgerEntryRow.entryId}

theorem insertEntries_cons {entry : LedgerEntry} :
    insertEntries eventId (entry :: entries) rows = .ok rows' ↔
      ∃ beneficiaryId, bound entry.beneficiaryId = some beneficiaryId ∧
        insertEntries eventId entries (rows.insertOrIgnore
          ⟨column entry.entryId, column eventId, beneficiaryId, column entry.amountOnChain, entry⟩
          fun _ => false) = .ok rows' := by
  rw [insertEntries]
  cases bound entry.beneficiaryId <;> simp

theorem insertEntries_subset (h : insertEntries eventId entries rows = .ok rows') :
    rows.rows ⊆ rows'.rows := by
  induction entries generalizing rows with
  | nil =>
      cases h
      exact List.Subset.refl _
  | cons entry rest ih =>
      obtain ⟨beneficiaryId, _, h⟩ := insertEntries_cons.mp h
      exact List.Subset.trans (Table.subset_insertOrIgnore _ _ _) (ih h)

theorem insertEntries_written (h : insertEntries eventId entries rows = .ok rows') :
    ∀ entry ∈ entries, (bound entry.beneficiaryId).isSome ∧
      (rows'.get? (column entry.entryId)).isSome := by
  induction entries generalizing rows with
  | nil => exact fun _ mem => absurd mem List.not_mem_nil
  | cons entry rest ih =>
      obtain ⟨beneficiaryId, isBound, h⟩ := insertEntries_cons.mp h
      intro inserted mem
      rcases List.mem_cons.mp mem with rfl | later
      · refine ⟨Option.isSome_iff_exists.mpr ⟨_, isBound⟩,
          Table.isSome_get?_of_subset (insertEntries_subset h) ?_⟩
        exact (Table.taken_insertOrIgnore rows _ fun _ => false).resolve_right (by simp)
      · exact ih h inserted later

theorem insertEntries_again (written : ∀ entry ∈ entries, (bound entry.beneficiaryId).isSome ∧
    (rows.get? (column entry.entryId)).isSome) : insertEntries eventId entries rows = .ok rows := by
  induction entries with
  | nil => rfl
  | cons entry rest ih =>
      obtain ⟨isBound, taken⟩ := written entry List.mem_cons_self
      obtain ⟨beneficiaryId, isBound⟩ := Option.isSome_iff_exists.mp isBound
      refine insertEntries_cons.mpr ⟨beneficiaryId, isBound, ?_⟩
      rw [Table.insertOrIgnore_refused (.inl taken)]
      exact ih fun inserted mem => written inserted (List.mem_cons_of_mem _ mem)

/-- Every row added is of the event. -/
theorem mem_insertEntries (h : insertEntries eventId entries rows = .ok rows') {row : LedgerEntryRow}
    (mem : row ∈ rows'.rows) : row ∈ rows.rows ∨ row.eventId = column eventId := by
  induction entries generalizing rows with
  | nil =>
      cases h
      exact .inl mem
  | cons entry rest ih =>
      obtain ⟨beneficiaryId, _, h⟩ := insertEntries_cons.mp h
      rcases ih h with before | ours
      · rcases Table.mem_insertOrIgnore.mp before with old | ⟨rfl, _⟩
        · exact .inl old
        · exact .inr rfl
      · exact .inr ours

theorem insertEntries_other (h : insertEntries eventId entries rows = .ok rows')
    (different : column other ≠ column eventId) :
    (rows'.rows.filter fun row => row.eventId = column other) =
      rows.rows.filter fun row => row.eventId = column other := by
  induction entries generalizing rows with
  | nil =>
      cases h
      rfl
  | cons entry rest ih =>
      obtain ⟨beneficiaryId, _, h⟩ := insertEntries_cons.mp h
      rw [ih h]
      rcases rows.insertOrIgnore_cases _ _ with same | added
      · rw [same]
      · rw [added, List.filter_append, List.filter_cons_of_neg (by simpa using different.symm),
          List.filter_nil, List.append_nil]

end Entries

/-! ### Payouts -/

section Payouts

variable {payouts : List PayoutLine} {rows : Table PoolPayoutRow fun row => (row.eventId, row.role)}

theorem insertPayouts_cons {payout : PayoutLine} :
    insertPayouts eventId (payout :: payouts) rows = insertPayouts eventId payouts
      (rows.insertOrIgnore ⟨column eventId, column payout.role, payout⟩ fun _ => false) := rfl

theorem insertPayouts_subset : rows.rows ⊆ (insertPayouts eventId payouts rows).rows := by
  induction payouts generalizing rows with
  | nil => exact List.Subset.refl _
  | cons payout rest ih => exact List.Subset.trans (Table.subset_insertOrIgnore _ _ _) ih

theorem insertPayouts_written : ∀ payout ∈ payouts,
    ((insertPayouts eventId payouts rows).get? (column eventId, column payout.role)).isSome := by
  induction payouts generalizing rows with
  | nil => exact fun _ mem => absurd mem List.not_mem_nil
  | cons payout rest ih =>
      intro inserted mem
      rcases List.mem_cons.mp mem with rfl | later
      · have here := Table.taken_insertOrIgnore rows
          ⟨column eventId, column inserted.role, inserted⟩ fun _ => false
        have taken := here.resolve_right (by simp)
        rw [insertPayouts_cons]
        exact Table.isSome_get?_of_subset insertPayouts_subset taken
      · exact ih inserted later

theorem insertPayouts_again (written : ∀ payout ∈ payouts,
    (rows.get? (column eventId, column payout.role)).isSome) :
    insertPayouts eventId payouts rows = rows := by
  induction payouts with
  | nil => rfl
  | cons payout rest ih =>
      have taken := written payout List.mem_cons_self
      rw [insertPayouts_cons, Table.insertOrIgnore_refused (.inl taken)]
      exact ih fun inserted mem => written inserted (List.mem_cons_of_mem _ mem)

theorem mem_insertPayouts {row : PoolPayoutRow}
    (mem : row ∈ (insertPayouts eventId payouts rows).rows) :
    row ∈ rows.rows ∨ row.eventId = column eventId := by
  induction payouts generalizing rows with
  | nil => exact .inl mem
  | cons payout rest ih =>
      rcases ih mem with before | ours
      · rcases Table.mem_insertOrIgnore.mp before with old | ⟨rfl, _⟩
        · exact .inl old
        · exact .inr rfl
      · exact .inr ours

theorem insertPayouts_other (different : column other ≠ column eventId) :
    ((insertPayouts eventId payouts rows).rows.filter fun row => row.eventId = column other) =
      rows.rows.filter fun row => row.eventId = column other := by
  induction payouts generalizing rows with
  | nil => rfl
  | cons payout rest ih =>
      rw [insertPayouts_cons, ih]
      rcases rows.insertOrIgnore_cases ⟨column eventId, column payout.role, payout⟩ _ with same | added
      · rw [same]
      · rw [added, List.filter_append, List.filter_cons_of_neg (by simpa using different.symm),
          List.filter_nil, List.append_nil]

end Payouts

/-! ### Recording -/

variable {attempt : Option Nat} {record : SettlementRecord} {directEntries : List LedgerEntry}
  {poolPayouts : List PayoutLine}

theorem recordPaid_extends
    (h : store.recordPaid eventId attempt record directEntries poolPayouts = .ok store') :
    Extends store store' := by
  obtain ⟨ledgerRows, _, inserted, rfl⟩ := recordPaid_eq_ok h
  exact ⟨Table.subset_insertOrIgnore _ _ _, insertEntries_subset inserted, insertPayouts_subset⟩

/-- After a recording its rows are there. -/
theorem recordPaid_written
    (h : store.recordPaid eventId attempt record directEntries poolPayouts = .ok store') :
    store'.Written eventId record.signature directEntries poolPayouts := by
  obtain ⟨ledgerRows, _, inserted, rfl⟩ := recordPaid_eq_ok h
  exact ⟨Table.taken_insertOrIgnore _ _ _, insertEntries_written inserted, insertPayouts_written⟩

/-- Recording what is written already changes no ledger table. -/
theorem recordPaid_again
    (h : store.recordPaid eventId attempt record directEntries poolPayouts = .ok store')
    (written : store.Written eventId record.signature directEntries poolPayouts) :
    store'.settlements = store.settlements ∧ store'.ledgerRows = store.ledgerRows ∧
      store'.poolRows = store.poolRows := by
  obtain ⟨ledgerRows, _, inserted, rfl⟩ := recordPaid_eq_ok h
  rw [insertEntries_again written.entries, Except.ok.injEq] at inserted
  exact ⟨Table.insertOrIgnore_refused written.settlement, inserted.symm,
    insertPayouts_again written.payouts⟩

/-- A recording leaves the rows of other events alone. -/
theorem recordPaid_other
    (h : store.recordPaid eventId attempt record directEntries poolPayouts = .ok store')
    (different : column other ≠ column eventId) : store'.ledgerOf other = store.ledgerOf other := by
  obtain ⟨ledgerRows, _, inserted, rfl⟩ := recordPaid_eq_ok h
  have settlement : (store.settlements.insertOrIgnore ⟨column eventId, column record.signature, record⟩
      fun row => row.signature = column record.signature).get? (column other) =
        store.settlements.get? (column other) := Table.get?_insertOrIgnore different
  simp only [ledgerOf, Store.settlement, entriesOf, payoutsOf]
  rw [settlement, insertEntries_other inserted different, insertPayouts_other different]

/-- Nothing is written of an event that no row names. -/
theorem ledgerOf_eq_empty (settlements : ∀ row ∈ store.settlements.rows, row.eventId ≠ column eventId)
    (entries : ∀ row ∈ store.ledgerRows.rows, row.eventId ≠ column eventId)
    (payouts : ∀ row ∈ store.poolRows.rows, row.eventId ≠ column eventId) :
    store.ledgerOf eventId = .empty := by
  have none : store.settlements.get? (column eventId) = none := Table.get?_eq_none.mpr settlements
  rw [ledgerOf, Store.settlement, none, entriesOf, payoutsOf,
    List.filter_eq_nil_iff.mpr fun row mem => by simpa using entries row mem,
    List.filter_eq_nil_iff.mpr fun row mem => by simpa using payouts row mem]
  rfl

/-- The ledger tables are the same. -/
structure SameLedger (store store' : Store) : Prop where
  settlements : store'.settlements = store.settlements
  ledgerRows : store'.ledgerRows = store.ledgerRows
  poolRows : store'.poolRows = store.poolRows

namespace SameLedger

theorem toExtends (same : store.SameLedger store') : Extends store store' := by
  constructor
  · rw [same.settlements]
    exact List.Subset.refl _
  · rw [same.ledgerRows]
    exact List.Subset.refl _
  · rw [same.poolRows]
    exact List.Subset.refl _

theorem ledgerOf (same : store.SameLedger store') (eventId : JsString) :
    store'.ledgerOf eventId = store.ledgerOf eventId := by
  simp only [Store.ledgerOf, Store.settlement, Store.entriesOf, Store.payoutsOf, same.settlements,
    same.ledgerRows, same.poolRows]

end SameLedger

end Synxed.Studio.Store
