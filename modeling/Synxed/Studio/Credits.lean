import Synxed.Lib.Firsts
import Synxed.Sdk.Credited
import Synxed.Studio.Verdicts

/-!
What the ledger tables hold of one settlement.

* `recordPaid_first`: the rows that the first recording of an event writes.
* `Backing.tallied`: they add up to what was settled exactly when no share that was paid
  something clashes with one before it.
* `sum_balances`: the balances add up to the direct rows.
-/

namespace Synxed.Studio

open Synxed.Lib Synxed.Program Synxed.Sdk

variable {D : Deployment} {H : Host} {ns : Pubkey} {net : Network} {store store' : Store}
  {cluster cluster' : Cluster D} {eventId : JsString} {record : SettlementRecord}
  {directEntries : List LedgerEntry} {poolPayouts : List PayoutLine}

/-! ### The rows of a recording -/

namespace Store

/-- The row of a direct entry that can be bound. -/
def entryRow (eventId : JsString) (entry : LedgerEntry) : LedgerEntryRow :=
  ⟨column entry.entryId, column eventId, (bound entry.beneficiaryId).getD [],
    column entry.amountOnChain, entry⟩

def payoutRow (eventId : JsString) (payout : PayoutLine) : PoolPayoutRow :=
  ⟨column eventId, column payout.role, payout⟩

/-- The first rows of an event; of direct entries with one id the first is written. -/
def EventLedger.written (eventId : JsString) (rows : SettlementReconciliation) : EventLedger where
  settlement := some rows.record
  entries := firsts LedgerEntryRow.entryId [] (rows.directEntries.map (entryRow eventId))
  payouts := firsts (fun row => (row.eventId, row.role)) [] (rows.poolPayouts.map (payoutRow eventId))

/-- A column's text names the same rows. -/
theorem ledgerOf_column (store : Store) (eventId : JsString) :
    store.ledgerOf (column eventId) = store.ledgerOf eventId := by
  simp only [ledgerOf, Store.settlement, entriesOf, payoutsOf, column_column]

theorem EventLedger.written_column (eventId : JsString) (rows : SettlementReconciliation) :
    EventLedger.written (column eventId) rows = .written eventId rows := by
  have entry (own : LedgerEntry) : entryRow (column eventId) own = entryRow eventId own := by
    rw [entryRow, entryRow, column_column]
  have payout (own : PayoutLine) : payoutRow (column eventId) own = payoutRow eventId own := by
    rw [payoutRow, payoutRow, column_column]
  rw [written, written, funext entry, funext payout]

theorem insertEntries_eq {rows rows' : Table LedgerEntryRow LedgerEntryRow.entryId}
    (h : insertEntries eventId directEntries rows = .ok rows') :
    rows' = rows.insertEach (directEntries.map (entryRow eventId)) := by
  induction directEntries generalizing rows with
  | nil =>
      cases h
      rfl
  | cons entry rest ih =>
      obtain ⟨beneficiaryId, isBound, h⟩ := insertEntries_cons.mp h
      rw [ih h, List.map_cons, Table.insertEach_cons, entryRow, isBound]
      rfl

theorem insertPayouts_eq {rows : Table PoolPayoutRow fun row => (row.eventId, row.role)} :
    insertPayouts eventId poolPayouts rows =
      rows.insertEach (poolPayouts.map (payoutRow eventId)) := by
  rw [insertPayouts, Table.insertEach, List.foldl_map]
  rfl

/-- The rows of the first recording of an event, where no other has its signature or
its entry ids. -/
theorem recordPaid_first {attempt : Option Nat}
    (h : store.recordPaid eventId attempt record directEntries poolPayouts = .ok store')
    (settlements : ∀ row ∈ store.settlements.rows,
      row.eventId ≠ column eventId ∧ row.signature ≠ column record.signature)
    (entries : ∀ row ∈ store.ledgerRows.rows,
      row.eventId ≠ column eventId ∧ ∀ entry ∈ directEntries, row.entryId ≠ column entry.entryId)
    (payouts : ∀ row ∈ store.poolRows.rows, row.eventId ≠ column eventId) :
    store'.ledgerOf eventId = .written eventId ⟨record, directEntries, poolPayouts⟩ := by
  obtain ⟨ledgerRows, _, inserted, rfl⟩ := recordPaid_eq_ok h
  have settled : (store.settlements.insertOrIgnore ⟨column eventId, column record.signature, record⟩
      fun row => row.signature = column record.signature).get? (column eventId) =
        some ⟨column eventId, column record.signature, record⟩ := by
    refine Table.get?_eq_some.mpr ⟨Table.mem_insertOrIgnore.mpr (.inr ⟨rfl, ?_, ?_⟩), rfl⟩
    · exact Table.get?_eq_none.mpr fun row mem => (settlements row mem).1
    · exact fun row mem => decide_eq_false (settlements row mem).2
  have ofEvent {α : Type} {old new : List α} {p : α → Bool} (before : ∀ row ∈ old, p row = false)
      (after : ∀ row ∈ new, p row = true) : (old ++ new).filter p = new := by
    rw [List.filter_append, List.filter_eq_nil_iff.mpr fun row mem => by simp [before row mem],
      List.filter_eq_self.mpr after, List.nil_append]
  have direct : ledgerRows.rows.filter (fun row => row.eventId = column eventId) =
      firsts LedgerEntryRow.entryId [] (directEntries.map (entryRow eventId)) := by
    rw [insertEntries_eq inserted, Table.rows_insertEach, firsts_of_fresh]
    · refine ofEvent (fun row mem => decide_eq_false (entries row mem).1) fun row mem => ?_
      obtain ⟨_, _, rfl⟩ := List.mem_map.mp (firsts_subset _ _ mem)
      exact decide_eq_true rfl
    · intro row mem taken
      obtain ⟨entry, inside, rfl⟩ := List.mem_map.mp mem
      obtain ⟨old, inRows, same⟩ := List.mem_map.mp taken
      exact (entries old inRows).2 entry inside same
  have pooled : (insertPayouts eventId poolPayouts store.poolRows).rows.filter
      (fun row => row.eventId = column eventId) =
        firsts (fun row => (row.eventId, row.role)) [] (poolPayouts.map (payoutRow eventId)) := by
    rw [insertPayouts_eq, Table.rows_insertEach, firsts_of_fresh]
    · refine ofEvent (fun row mem => decide_eq_false (payouts row mem)) fun row mem => ?_
      obtain ⟨_, _, rfl⟩ := List.mem_map.mp (firsts_subset _ _ mem)
      exact decide_eq_true rfl
    · intro row mem taken
      obtain ⟨payout, _, rfl⟩ := List.mem_map.mp mem
      obtain ⟨old, inRows, same⟩ := List.mem_map.mp taken
      exact payouts old inRows (congrArg Prod.fst same)
  simp only [ledgerOf, Store.settlement, entriesOf, payoutsOf, settled, direct, pooled]
  rfl

/-- What the direct rows of an event pay. -/
def EventLedger.direct (ledger : EventLedger) : Nat :=
  (ledger.entries.map fun row => amountOf row.amountOnChain).sum

/-- What an event leaves in the pool. -/
def EventLedger.pooled (ledger : EventLedger) : Nat :=
  (ledger.payouts.map fun row => amountOf row.payout.amountOnChain).sum

end Store

/-! ### What backs them -/

/-- What was stored to settle an event: what one of its attempts was made for, or what a
worker is configured with. -/
def StoredAs (configured : WorkerOptions → Prop) (store : Store) (event : EventRow)
    (stored : StoredRequest) : Prop :=
  (∃ attempt ∈ store.attemptRows.rows, attempt.eventId = event.eventId ∧
      WorkerOptions.storedRequest attempt = stored) ∨
    ∃ options, configured options ∧ stored = ⟨event.request, options.params⟩

variable (H ns) in
/-- Rows that a finalized transaction gives what was stored for the event. -/
def Backed (cluster : Cluster D) (event : EventRow) (stored : StoredRequest)
    (rows : SettlementReconciliation) : Prop :=
  ∃ landing ∈ cluster.finalizedLedger, landing.transaction.id = rows.record.signature ∧
    ∃ (options : WorkerOptions) (given : SettlementReconciliation), stored.request = event.request ∧
      reconcileTransaction H (options.matchOptions D ns rows.record.signature event stored)
        landing.shown = .ok given ∧
      rows.directEntries = given.directEntries ∧ rows.poolPayouts = given.poolPayouts ∧
      rows.record.amountAtomic = given.record.amountAtomic ∧
      rows.record.unitsPerAtomicUnit = given.record.unitsPerAtomicUnit

variable (H) in
/-- The texts that the entry ids of a store's events hash, whichever transaction settled
them. -/
def creditTexts (store : Store) (cluster : Cluster D) : List Bytes :=
  store.events.rows.flatMap fun event => cluster.finalizedLedger.flatMap fun landing =>
    event.request.shares.filterMap fun share =>
      (beneficiaryOf [js "rewards_pool"] event.beneficiaryIds share).map fun id =>
        Credit.hashed landing.transaction.id ⟨share.label, propertyText H id⟩

theorem mem_creditTexts {text : Bytes} :
    text ∈ creditTexts H store cluster ↔
      ∃ event ∈ store.events.rows, ∃ landing ∈ cluster.finalizedLedger,
        ∃ share ∈ event.request.shares, ∃ id,
          beneficiaryOf [js "rewards_pool"] event.beneficiaryIds share = some id ∧
            Credit.hashed landing.transaction.id ⟨share.label, propertyText H id⟩ = text := by
  simp only [creditTexts, List.mem_flatMap, List.mem_filterMap, Option.map_eq_some_iff]

variable (H) in
/-- The hash does not collide on the texts of the entry ids. -/
def EntryIdsApart (store : Store) (cluster : Cluster D) : Prop :=
  Set.InjOn H.sha256 {text | text ∈ creditTexts H store cluster}

theorem EntryIdsApart.earlier (apart : EntryIdsApart H store' cluster') (keeps : store.Keeps store')
    (later : Cluster.Later net cluster cluster') : EntryIdsApart H store cluster := by
  refine Set.InjOn.mono (fun text mem => ?_) apart
  obtain ⟨event, inRows, landing, finalized, share, isShare, id, held, same⟩ := mem_creditTexts.mp mem
  obtain ⟨event', inRows', sameEvent⟩ := keeps event inRows
  refine mem_creditTexts.mpr ⟨event', inRows', landing, later.mem_finalizedLedger finalized, share, ?_,
    id, ?_, same⟩
  · rwa [sameEvent.request]
  · rwa [sameEvent.beneficiaryIds]

variable (H ns) in
/-- What the ledger tables hold of an event that was settled as `stored`: the record of
a finalized transaction that settled it, and rows that add up to the amount exactly when
no share that was paid something clashes with one before it. -/
def Tallied (cluster : Cluster D) (event : EventRow) (stored : StoredRequest)
    (ledger : Store.EventLedger) : Prop :=
  ∃ record landing seed amount bps recipients,
    ledger.settlement = some record ∧
    record.amountAtomic = bigintText event.request.amountAtomic ∧
    record.unitsPerAtomicUnit = bigintText stored.params.lamportsPerAtomicUnit ∧
    landing ∈ cluster.finalizedLedger ∧ landing.transaction.id = record.signature ∧
    eventIdSeed H event.request.eventId = .ok seed ∧
    landing.SettledAs ns stored seed amount bps recipients ∧
    ledger.direct + ledger.pooled ≤ amount.toNat ∧
    (ledger.direct + ledger.pooled = amount.toNat ↔
      Lossless (creditedShares H (beneficiaryOf [js "rewards_pool"] event.beneficiaryIds)
        event.request.shares (payoutsOf amount bps)))

variable (H ns) in
/-- What the transaction that backs rows says of them. -/
structure Backing (cluster : Cluster D) (event : EventRow) (stored : StoredRequest)
    (rows : SettlementReconciliation) (landing : Landing D) (seed : Bytes32) (amount : UInt64)
    (bps : List UInt16) (recipients : List Pubkey) : Prop where
  finalized : landing ∈ cluster.finalizedLedger
  signature : rows.record.signature = base58Encode landing.transaction.signature
  seeded : eventIdSeed H event.request.eventId = .ok seed
  settled : landing.SettledAs ns stored seed amount bps recipients
  credited : rows.directEntries.map LedgerEntry.credited =
    (creditedShares H (beneficiaryOf [js "rewards_pool"] event.beneficiaryIds) event.request.shares
      (payoutsOf amount bps)).map fun paid => (paid.1.entryId H rows.record.signature, paid.2)
  plain : ∀ entry ∈ rows.directEntries, column entry.entryId = entry.entryId ∧
    column entry.amountOnChain = entry.amountOnChain
  roles : (rows.poolPayouts.map fun payout => column payout.role).Nodup
  paid : rows.paid = amount.toNat
  atomic : rows.record.amountAtomic = bigintText event.request.amountAtomic
  units : rows.record.unitsPerAtomicUnit = bigintText stored.params.lamportsPerAtomicUnit

theorem mem_creditedShares {beneficiary : ShareInput → Option PropertyValue}
    {shares : List ShareInput} {amounts : List Nat} {paid : Credit × Nat}
    (mem : paid ∈ creditedShares H beneficiary shares amounts) :
    ∃ share ∈ shares, ∃ id, beneficiary share = some id ∧
      paid.1 = ⟨share.label, propertyText H id⟩ := by
  obtain ⟨⟨share, amount⟩, inside, credited⟩ := List.mem_filterMap.mp mem
  obtain ⟨id, held, rfl⟩ := Option.map_eq_some_iff.mp credited
  exact ⟨share, (List.of_mem_zip inside).1, id, held, rfl⟩

theorem StoredAs.keeps {configured : WorkerOptions → Prop} {event event' : EventRow}
    {stored : StoredRequest} (storedAs : StoredAs configured store event stored)
    (same : SameEvent event event')
    (attempts : ∀ attempt ∈ store.attemptRows.rows,
      ∃ attempt' ∈ store'.attemptRows.rows, SameAttempt attempt attempt') :
    StoredAs configured store' event' stored := by
  rcases storedAs with ⟨attempt, mem, id, rfl⟩ | ⟨options, allowed, rfl⟩
  · obtain ⟨attempt', mem', sameAttempt⟩ := attempts attempt mem
    refine .inl ⟨attempt', mem', ?_, ?_⟩
    · rw [sameAttempt.eventId, id, same.eventId]
    · simp only [WorkerOptions.storedRequest, sameAttempt.request, sameAttempt.params]
  · exact .inr ⟨options, allowed, by rw [same.request]⟩

namespace Backed

variable {event event' : EventRow} {stored stored' : StoredRequest}
  {rows rows' : SettlementReconciliation} (backed : Backed H ns cluster event stored rows)

include backed

theorem later (later : Cluster.Later net cluster cluster') : Backed H ns cluster' event stored rows := by
  obtain ⟨landing, mem, rest⟩ := backed
  exact ⟨landing, later.mem_finalizedLedger mem, rest⟩

theorem keeps (same : SameEvent event event') : Backed H ns cluster event' stored rows := by
  obtain ⟨landing, mem, id, options, given, request, reconciled, rest⟩ := backed
  refine ⟨landing, mem, id, options, given, request.trans same.request.symm, ?_, rest⟩
  rw [WorkerOptions.matchOptions, same.beneficiaryIds]
  exact reconciled

theorem settledBy : SettledBy H ns cluster event.request event.beneficiaryIds rows.record.signature
    rows.directEntries rows.poolPayouts := by
  obtain ⟨landing, mem, id, options, given, request, reconciled, direct, pool, _⟩ := backed
  exact ⟨landing, mem, id, _, given, rfl, rfl, rfl, request, rfl, rfl, reconciled, direct.symm,
    pool.symm⟩

theorem backing : ∃ landing seed amount bps recipients,
    Backing H ns cluster event stored rows landing seed amount bps recipients := by
  obtain ⟨landing, mem, id, options, given, request, reconciled, direct, pool, atomic, units⟩ := backed
  obtain ⟨seed, amount, bps, recipients, seeded, settled, accounts⟩ :=
    Landing.settledAs_of_reconciled reconciled
  obtain ⟨observation, observed, compared⟩ := bind_eq_ok.mp reconciled
  obtain ⟨_, _, _, _, _, _, _, _, signature, _⟩ := observeProgramSettlement_ok observed
  have credited := directEntries_of_reconciled compared settled.total settled.bps
  obtain ⟨_, _, _, _, same⟩ := reconcileObservedSettlementN_eq_ok.mp compared
  have asked : (options.matchOptions D ns rows.record.signature event stored).request =
    event.request := request
  refine ⟨landing, seed, amount, bps, recipients, mem, id.symm, ?_, settled, ?_, ?_, ?_, ?_, ?_, ?_⟩
  · rw [← request]
    exact seeded
  · rw [direct, credited, signature, asked]
    rfl
  · rw [direct]
    exact plain_directEntries compared
  · rw [pool]
    exact nodup_poolPayouts rfl compared
  · rw [SettlementReconciliation.paid, direct, pool]
    exact accounts.sum_rows
  · rw [atomic, same]
    exact congrArg (fun request => bigintText request.amountAtomic) request
  · rw [units, same]
    rfl

/-- One transaction settles one event: its memo names it. -/
theorem eventId_of_signature (backed' : Backed H ns cluster event' stored' rows')
    (grown : cluster.Grown net) (same : rows.record.signature = rows'.record.signature) :
    event.request.eventId = event'.request.eventId := by
  obtain ⟨landing, mem, id, options, given, request, reconciled, _⟩ := backed
  obtain ⟨landing', mem', id', options', given', request', reconciled', _⟩ := backed'
  obtain rfl := grown.landing_of_signature (Cluster.mem_of_mem_finalizedLedger mem)
    (Cluster.mem_of_mem_finalizedLedger mem') (id.trans (same.trans id'.symm))
  obtain ⟨observation, observed, compared⟩ := bind_eq_ok.mp reconciled
  obtain ⟨observation', observed', compared'⟩ := bind_eq_ok.mp reconciled'
  change observeProgramSettlement H landing.shown rows.record.signature D.programId = _ at observed
  change observeProgramSettlement H landing.shown rows'.record.signature D.programId = _ at observed'
  rw [same, observed', Except.ok.injEq] at observed
  subst observed
  obtain ⟨_, _, found, _⟩ := reconcileObservedSettlementN_eq_ok.mp compared
  obtain ⟨_, _, found', _⟩ := reconcileObservedSettlementN_eq_ok.mp compared'
  have named := found.memo.1.2.1
  have named' := found'.memo.1.2.1
  change observation'.memo.hasText (js "event") stored.request.eventId = true at named
  change observation'.memo.hasText (js "event") stored'.request.eventId = true at named'
  rw [← request, ← request']
  exact hasText_unique named named'

end Backed

namespace Backing

variable {event : EventRow} {stored : StoredRequest} {rows : SettlementReconciliation}
  {landing : Landing D} {seed : Bytes32} {amount : UInt64} {bps : List UInt16}
  {recipients : List Pubkey}
  (backing : Backing H ns cluster event stored rows landing seed amount bps recipients)

include backing

/-- What the ids of the entries hash is among the texts of the store. -/
theorem hashed_mem (inRows : event ∈ store.events.rows) : ∀ paid ∈ creditedShares H
    (beneficiaryOf [js "rewards_pool"] event.beneficiaryIds) event.request.shares (payoutsOf amount bps),
      paid.1.hashed (base58Encode landing.transaction.signature) ∈ creditTexts H store cluster := by
  intro paid mem
  obtain ⟨share, isShare, id, held, credit⟩ := mem_creditedShares mem
  rw [credit]
  exact mem_creditTexts.mpr ⟨event, inRows, landing, backing.finalized, share, isShare, id, held, rfl⟩

/-- The id of an entry is that of a credit. -/
theorem credit_of_mem (inRows : event ∈ store.events.rows) {entry : LedgerEntry}
    (mem : entry ∈ rows.directEntries) : ∃ credit : Credit,
      column entry.entryId = credit.entryId H (base58Encode landing.transaction.signature) ∧
        credit.hashed (base58Encode landing.transaction.signature) ∈ creditTexts H store cluster := by
  have said : entry.credited ∈ rows.directEntries.map LedgerEntry.credited := List.mem_map_of_mem mem
  rw [backing.credited, backing.signature] at said
  obtain ⟨paid, isPaid, same⟩ := List.mem_map.mp said
  refine ⟨paid.1, ?_, backing.hashed_mem inRows paid isPaid⟩
  rw [(backing.plain entry mem).1]
  exact (congrArg Prod.fst same).symm

theorem direct_written : (Store.EventLedger.written event.eventId rows).direct ≤
      (rows.directEntries.map fun entry => amountOf entry.amountOnChain).sum ∧
    ((Store.EventLedger.written event.eventId rows).direct =
        (rows.directEntries.map fun entry => amountOf entry.amountOnChain).sum ↔
      rows.directEntries.Pairwise fun entry later =>
        entry.entryId = later.entryId → amountOf later.amountOnChain = 0) := by
  have amounts : ((rows.directEntries.map (Store.entryRow event.eventId)).map
      fun row => amountOf row.amountOnChain) =
        rows.directEntries.map fun entry => amountOf entry.amountOnChain := by
    rw [List.map_map]
    refine List.map_congr_left fun entry mem => ?_
    exact congrArg amountOf (backing.plain entry mem).2
  have below : (Store.EventLedger.written event.eventId rows).direct ≤ _ :=
    sum_firsts_le (fun row : LedgerEntryRow => amountOf row.amountOnChain) []
      (rows.directEntries.map (Store.entryRow event.eventId))
  have same : (Store.EventLedger.written event.eventId rows).direct = _ ↔ _ :=
    sum_firsts_iff (fun row : LedgerEntryRow => amountOf row.amountOnChain)
      (rows.directEntries.map (Store.entryRow event.eventId))
  rw [amounts] at below same
  refine ⟨below, same.trans ?_⟩
  rw [List.pairwise_map]
  refine List.Pairwise.iff_of_mem fun {entry later} mem mem' => ?_
  change column entry.entryId = column later.entryId → amountOf (column later.amountOnChain) = 0 ↔ _
  rw [(backing.plain entry mem).1, (backing.plain later mem').1, (backing.plain later mem').2]

theorem pooled_written : (Store.EventLedger.written event.eventId rows).pooled =
    (rows.poolPayouts.map fun payout => amountOf payout.amountOnChain).sum := by
  have distinct : ((rows.poolPayouts.map (Store.payoutRow event.eventId)).map
      fun row => (row.eventId, row.role)).Nodup := by
    refine List.Nodup.of_map Prod.snd ?_
    rw [List.map_map, List.map_map]
    exact backing.roles
  rw [Store.EventLedger.pooled, Store.EventLedger.written, firsts_of_nodup distinct
    fun _ _ => List.not_mem_nil, List.map_map]
  rfl

/-- What was recorded first adds up to what was settled exactly when no share that was
paid something clashes with one before it. -/
theorem tallied (apart : EntryIdsApart H store cluster)
    (inRows : event ∈ store.events.rows) :
    Tallied H ns cluster event stored (.written event.eventId rows) := by
  obtain ⟨below, same⟩ := backing.direct_written
  have own := backing.credited
  rw [backing.signature] at own
  have total : (rows.directEntries.map fun entry => amountOf entry.amountOnChain).sum +
      (rows.poolPayouts.map fun payout => amountOf payout.amountOnChain).sum = amount.toNat :=
    backing.paid
  refine ⟨rows.record, landing, seed, amount, bps, recipients, rfl, backing.atomic, backing.units,
    backing.finalized, backing.signature.symm, backing.seeded, backing.settled, ?_, ?_⟩
  · rw [backing.pooled_written, ← total]
    exact Nat.add_le_add_right below _
  · rw [backing.pooled_written, ← total, Nat.add_right_cancel_iff, same]
    exact pairwise_entries_iff apart own (backing.hashed_mem inRows)

end Backing

/-! ### Balances -/

namespace Store

/-- What `totals` has for one beneficiary. -/
def totalFor (totals : List (JsString × Nat)) (beneficiaryId : JsString) : Nat :=
  ((totals.filter fun total => total.1 = beneficiaryId).map Prod.snd).sum

theorem totalFor_addTotal (totals : List (JsString × Nat)) (beneficiaryId other : JsString)
    (amount : Nat) :
    totalFor (addTotal totals beneficiaryId amount) other =
      totalFor totals other + if beneficiaryId = other then amount else 0 := by
  induction totals with
  | nil =>
      rw [addTotal]
      by_cases same : beneficiaryId = other <;> simp [totalFor, same]
  | cons total rest ih =>
      rw [addTotal]
      split
      · next here =>
        by_cases same : total.1 = other
        · simp only [totalFor, same, here ▸ same, decide_true, List.filter_cons_of_pos, List.map_cons,
            List.sum_cons, if_true]
          omega
        · simp [totalFor, same, here ▸ same]
      · by_cases same : total.1 = other
        · simp only [totalFor, same, decide_true, List.filter_cons_of_pos, List.map_cons,
            List.sum_cons] at ih ⊢
          omega
        · simpa [totalFor, same] using ih

theorem nodup_addTotal {totals : List (JsString × Nat)} (distinct : (totals.map Prod.fst).Nodup)
    (beneficiaryId : JsString) (amount : Nat) :
    ((addTotal totals beneficiaryId amount).map Prod.fst).Nodup ∧
      ∀ id ∈ (addTotal totals beneficiaryId amount).map Prod.fst,
        id = beneficiaryId ∨ id ∈ totals.map Prod.fst := by
  induction totals with
  | nil => exact ⟨List.nodup_singleton _, fun id mem => .inl (List.mem_singleton.mp mem)⟩
  | cons total rest ih =>
      obtain ⟨new, distinct⟩ := List.nodup_cons.mp distinct
      obtain ⟨later, ids⟩ := ih distinct
      rw [addTotal]
      split
      · exact ⟨List.nodup_cons.mpr ⟨new, distinct⟩, fun id mem => .inr mem⟩
      · next different =>
        refine ⟨List.nodup_cons.mpr ⟨fun mem => ?_, later⟩, fun id mem => ?_⟩
        · exact (ids _ mem).elim different new
        · rcases List.mem_cons.mp mem with rfl | inside
          · exact .inr List.mem_cons_self
          · exact (ids id inside).imp_right (List.mem_cons_of_mem _)

/-- The totals of the ledger rows, before they are ordered. -/
def totals (rows : List LedgerEntryRow) : List (JsString × Nat) :=
  rows.foldl (fun totals row => addTotal totals row.beneficiaryId (amountOf row.amountOnChain)) []

theorem nodup_totals (rows : List LedgerEntryRow) : ((totals rows).map Prod.fst).Nodup := by
  let kept (totals : List (JsString × Nat)) : Prop := (totals.map Prod.fst).Nodup
  refine List.foldlRecOn rows _ (motive := kept) List.nodup_nil ?_
  intro totals distinct row _
  exact (nodup_addTotal distinct _ _).1

theorem totalFor_totals (rows : List LedgerEntryRow) (beneficiaryId : JsString) :
    totalFor (totals rows) beneficiaryId =
      ((rows.filter fun row => row.beneficiaryId = beneficiaryId).map
        fun row => amountOf row.amountOnChain).sum := by
  have all (start : List (JsString × Nat)) : totalFor (rows.foldl (fun totals row =>
      addTotal totals row.beneficiaryId (amountOf row.amountOnChain)) start) beneficiaryId =
        totalFor start beneficiaryId +
          ((rows.filter fun row => row.beneficiaryId = beneficiaryId).map
            fun row => amountOf row.amountOnChain).sum := by
    induction rows generalizing start with
    | nil => rfl
    | cons row rest ih =>
        rw [List.foldl_cons, ih, totalFor_addTotal]
        by_cases same : row.beneficiaryId = beneficiaryId
        · simp only [same, if_true, decide_true, List.filter_cons_of_pos, List.map_cons, List.sum_cons]
          omega
        · simp [same]
  have here := all []
  rwa [show totalFor [] beneficiaryId = 0 from rfl, Nat.zero_add] at here

/-- Each beneficiary has one balance, the sum of its rows. -/
theorem balances_eq (localeLe : JsString → JsString → Bool) (store : Store) :
    ((store.balances localeLe).map Prod.fst).Nodup ∧ ∀ beneficiaryId,
      (((store.balances localeLe).filter fun balance => balance.1 = beneficiaryId).map
        fun balance => amountOf balance.2).sum =
          ((store.ledgerRows.rows.filter fun row => row.beneficiaryId = beneficiaryId).map
            fun row => amountOf row.amountOnChain).sum := by
  have perm := List.mergeSort_perm (totals store.ledgerRows.rows) fun a b => localeLe a.1 b.1
  have ids : (store.balances localeLe).map Prod.fst =
      ((totals store.ledgerRows.rows).mergeSort fun a b => localeLe a.1 b.1).map Prod.fst := by
    rw [balances, List.map_map]
    rfl
  refine ⟨?_, fun beneficiaryId => ?_⟩
  · rw [ids]
    exact (perm.map Prod.fst).nodup_iff.mpr (nodup_totals _)
  · rw [← totalFor_totals, totalFor]
    refine Eq.trans ?_ (((perm.filter fun total => total.1 = beneficiaryId).map Prod.snd).sum_eq)
    rw [balances, List.filter_map, List.map_map]
    refine congrArg List.sum (List.map_congr_left fun total _ => ?_)
    exact digitsValue_decimalText total.2

end Store

end Synxed.Studio
