import Synxed.Lib.Table
import Synxed.Sdk.Reconcile

/-!
The worker's durable state (`store.ts`).

A TEXT column holds the well-formed form of a string (`column`). Requests,
beneficiaries, parameters and reconciled rows are stored as JSON that reads
back as it was written, so the rows here hold the values themselves. Every
method is one database transaction: it succeeds as a whole or changes nothing.
-/

namespace Synxed.Studio

open Synxed.Lib Synxed.Program Synxed.Sdk

/-- - `pending`: no attempt can still land; the worker may send one.
- `inFlight`: an attempt was prepared and may have landed; only the chain
  decides what happened.
- `paid`: reconciled against finalized evidence; ledger rows are written.
- `incident`: the event's record exists but matches no stored request.
- `needsAttention`: the worker gave up; a person decides. -/
inductive EventStatus where
  | pending
  | inFlight
  | paid
  | incident
  | needsAttention
  deriving DecidableEq

/-- - `prepared`: written before signing; nothing was sent.
- `signed`: the signature and signed bytes are stored; it may have been sent.
- `failed`: known not to have created the record.
- `expired`: its blockhash expired and no record exists.
- `landed`: the transaction that created the event's record. -/
inductive AttemptStatus where
  | prepared
  | signed
  | failed
  | expired
  | landed
  deriving DecidableEq

/-- What the event is settled as. Fixed when the event is enqueued. -/
structure StoredEvent where
  eventId : JsString
  request : SettlementRequestN
  /-- Stable ledger identities by share label; pooled labels have none. -/
  beneficiaryIds : List (JsString × JsString)
  status : EventStatus
  attempts : Nat
  note : Option JsString
  deriving DecidableEq

/-- The parameters an attempt was built with, kept to reconcile it later. -/
structure AttemptParams where
  programId : JsString
  ns : JsString
  lamportsPerAtomicUnit : Int
  payer : JsString
  authority : JsString
  deriving DecidableEq

structure StoredAttempt where
  eventId : JsString
  attempt : Nat
  request : SettlementRequestN
  params : AttemptParams
  /-- Not unique: an attempt built from the same request and blockhash as an
  earlier one is the same transaction, with the same signature. -/
  signature : Option JsString
  /-- The signed transaction, base64, resent unchanged until it expires. -/
  rawTransaction : Option JsString
  lastValidBlockHeight : Option Nat
  status : AttemptStatus
  deriving DecidableEq

/-! ### Rows -/

/-- The text a TEXT column holds. -/
def column (text : JsString) : JsString := toWellFormed text

structure EventRow extends StoredEvent where
  createdAt : JsString
  deriving DecidableEq

structure SettlementRow where
  eventId : JsString
  signature : JsString
  record : SettlementRecord

structure LedgerEntryRow where
  entryId : JsString
  eventId : JsString
  beneficiaryId : JsString
  amountOnChain : JsString
  entry : LedgerEntry

structure PoolPayoutRow where
  eventId : JsString
  role : JsString
  payout : PayoutLine

structure Store where
  events : Table EventRow fun row => row.eventId
  attemptRows : Table StoredAttempt fun row => (row.eventId, row.attempt)
  settlements : Table SettlementRow SettlementRow.eventId
  ledgerRows : Table LedgerEntryRow LedgerEntryRow.entryId
  poolRows : Table PoolPayoutRow fun row => (row.eventId, row.role)

namespace Store

/-- A new database. -/
def empty : Store := ⟨.empty, .empty, .empty, .empty, .empty⟩

/-! ### Events -/

inductive Enqueued where
  | added
  | unchanged
  deriving DecidableEq

/-- Add an event. Enqueuing the same event again is a no-op; the same event id
with a different request or beneficiaries is refused. -/
def enqueue (store : Store) (request : SettlementRequestN)
    (beneficiaryIds : List (JsString × JsString)) (now : JsString) :
    Except Thrown (Enqueued × Store) :=
  let row : EventRow :=
    { eventId := column request.eventId, request := request, beneficiaryIds := beneficiaryIds
      status := .pending, attempts := 0, note := none, createdAt := now }
  match store.events.get? (column request.eventId) with
  | some existing => do
      ensure (existing.request = request ∧ existing.beneficiaryIds = beneficiaryIds)
        (.other (js "Error: event " ++ request.eventId ++
          js " is already stored with a different request"))
      .ok (.unchanged, store)
  | none => .ok (.added, { store with events := store.events.insertOrIgnore row fun _ => false })

def event (store : Store) (eventId : JsString) : Option StoredEvent :=
  (store.events.get? (column eventId)).map EventRow.toStoredEvent

/-- `ORDER BY created_at, event_id`: text is compared by its bytes. -/
def rowLe (a b : EventRow) : Bool :=
  let bytes (text : JsString) := (textEncode text).map UInt8.toNat
  if a.createdAt = b.createdAt then decide (bytes a.eventId ≤ bytes b.eventId)
  else decide (bytes a.createdAt ≤ bytes b.createdAt)

/-- `limit` is `none` for the SQL limit `-1`. -/
def eventsWithStatus (store : Store) (status : EventStatus) (limit : Option Nat) :
    List StoredEvent :=
  let rows := (store.events.rows.filter fun row => row.status = status).insertionSort (rowLe · ·)
  let chosen := match limit with
    | none => rows
    | some count => rows.take count
  chosen.map EventRow.toStoredEvent

def attempts (store : Store) (eventId : JsString) : List StoredAttempt :=
  (store.attemptRows.rows.filter fun row => row.eventId = column eventId).insertionSort
    (fun a b => a.attempt ≤ b.attempt)

/-- Set an event's status; only `recordPaid` makes it paid. -/
def setEventStatus (store : Store) (eventId : JsString)
    (status : { status : EventStatus // status ≠ .paid }) (note : Option JsString) : Store :=
  { store with
    events := store.events.modify (column eventId)
      (fun row => { row with status := status.val, note := note }) fun _ => rfl }

/-! ### Attempts -/

/-- Record a new attempt before anything is signed, and mark the event in
flight. The attempt stores the exact request and parameters it will be built
with. -/
def beginAttempt (store : Store) (eventId : JsString) (request : SettlementRequestN)
    (params : AttemptParams) : Except Thrown (Nat × Store) :=
  match store.event eventId with
  | none => .error (.other (js "Error: event " ++ eventId ++ js " is not pending"))
  | some event => do
      ensure (event.status = .pending)
        (.other (js "Error: event " ++ eventId ++ js " is not pending"))
      let attempt := event.attempts + 1
      let row : StoredAttempt :=
        { eventId := column eventId, attempt := attempt, request := request, params := params
          signature := none, rawTransaction := none, lastValidBlockHeight := none
          status := .prepared }
      ensure (store.attemptRows.get? (column eventId, attempt) = none)
        (.other (js "SQLiteError: UNIQUE constraint failed: attempts.event_id, attempts.attempt"))
      .ok (attempt,
        { store with
          attemptRows := store.attemptRows.insertOrIgnore row fun _ => false
          events := store.events.modify (column eventId)
            (fun row => { row with status := .inFlight, attempts := attempt, note := none })
            fun _ => rfl })

/-- Store the signature and the signed bytes, before they are sent. -/
def recordSigned (store : Store) (eventId : JsString) (attempt : Nat)
    (signature rawTransaction : JsString) (lastValidBlockHeight : Nat) : Store :=
  { store with
    attemptRows := store.attemptRows.modify (column eventId, attempt)
      (fun row =>
        if row.status = .prepared then
          { row with
            signature := some (column signature)
            rawTransaction := some (column rawTransaction)
            lastValidBlockHeight := some lastValidBlockHeight
            status := .signed }
        else row)
      fun row => by split <;> rfl }

/-- Set an attempt's status; only `recordPaid` makes it landed. -/
def setAttemptStatus (store : Store) (eventId : JsString) (attempt : Nat)
    (status : { status : AttemptStatus // status ≠ .landed }) : Store :=
  { store with
    attemptRows := store.attemptRows.modify (column eventId, attempt)
      (fun row => { row with status := status.val }) fun _ => rfl }

/-! ### The ledger -/

/-- The text a value is bound as; only strings can be. -/
def bound : PropertyValue → Option JsString
  | .text value => some (column value)
  | .inherited _ => none

/-- Add the direct entries in order; one that cannot be bound undoes the whole
transaction. -/
def insertEntries (eventId : JsString) : List LedgerEntry →
    Table LedgerEntryRow LedgerEntryRow.entryId →
    Except Thrown (Table LedgerEntryRow LedgerEntryRow.entryId)
  | [], rows => .ok rows
  | entry :: rest, rows =>
      match bound entry.beneficiaryId with
      | none => .error (.other (js "TypeError: Binding expected string, TypedArray, " ++
          js "boolean, number, bigint or null"))
      | some beneficiaryId =>
          insertEntries eventId rest
            (rows.insertOrIgnore
              ⟨column entry.entryId, column eventId, beneficiaryId, column entry.amountOnChain, entry⟩
              fun _ => false)

def insertPayouts (eventId : JsString) (payouts : List PayoutLine)
    (rows : Table PoolPayoutRow fun row => (row.eventId, row.role)) :
    Table PoolPayoutRow fun row => (row.eventId, row.role) :=
  payouts.foldl (fun rows payout =>
    rows.insertOrIgnore ⟨column eventId, column payout.role, payout⟩ fun _ => false) rows

/-- The attempts after the creating one, if it is known, is marked landed. -/
def markLanded (store : Store) (eventId : JsString) :
    Option Nat → Table StoredAttempt fun row => (row.eventId, row.attempt)
  | none => store.attemptRows
  | some attempt => store.attemptRows.modify (column eventId, attempt)
      (fun row => { row with status := .landed }) fun _ => rfl

/-- Write the reconciled settlement and its ledger rows, and mark the event paid
and the creating attempt landed. -/
def recordPaid (store : Store) (eventId : JsString) (attempt : Option Nat)
    (record : SettlementRecord) (directEntries : List LedgerEntry)
    (poolPayouts : List PayoutLine) : Except Thrown Store := do
  -- every row refers to the event
  ensure (store.event eventId ≠ none) (.other (js "SQLiteError: FOREIGN KEY constraint failed"))
  let settlements := store.settlements.insertOrIgnore
    ⟨column eventId, column record.signature, record⟩
    fun row => row.signature = column record.signature
  let ledgerRows ← insertEntries eventId directEntries store.ledgerRows
  let poolRows := insertPayouts eventId poolPayouts store.poolRows
  .ok
    { events := store.events.modify (column eventId)
        (fun row => { row with status := .paid, note := none }) fun _ => rfl
      attemptRows := store.markLanded eventId attempt
      settlements := settlements
      ledgerRows := ledgerRows
      poolRows := poolRows }

/-! ### Reading the ledger -/

def settlement (store : Store) (eventId : JsString) : Option SettlementRecord :=
  (store.settlements.get? (column eventId)).map SettlementRow.record

/-- The rows that `ledgerEntries(eventId)` reads. -/
def entriesOf (store : Store) (eventId : JsString) : List LedgerEntryRow :=
  store.ledgerRows.rows.filter fun row => row.eventId = column eventId

/-- The rows that `poolPayouts(eventId)` reads. -/
def payoutsOf (store : Store) (eventId : JsString) : List PoolPayoutRow :=
  store.poolRows.rows.filter fun row => row.eventId = column eventId

/-- `totals.set(id, (totals.get(id) ?? 0n) + amount)`. -/
def addTotal (totals : List (JsString × Nat)) (beneficiaryId : JsString) (amount : Nat) :
    List (JsString × Nat) :=
  match totals with
  | [] => [(beneficiaryId, amount)]
  | total :: rest =>
      if total.1 = beneficiaryId then (total.1, total.2 + amount) :: rest
      else total :: addTotal rest beneficiaryId amount

/-- Paid on-chain amounts per beneficiary, ordered by `localeCompare`. -/
def balances (localeLe : JsString → JsString → Bool) (store : Store) : List (JsString × JsString) :=
  let totals := store.ledgerRows.rows.foldl
    (fun totals row => addTotal totals row.beneficiaryId (amountOf row.amountOnChain)) []
  (totals.mergeSort fun a b => localeLe a.1 b.1).map fun total => (total.1, decimalText total.2)

/-! ### What the methods read and write -/

variable {store store' : Store} {eventId : JsString}

theorem event_eq_some {event : StoredEvent} :
    store.event eventId = some event ↔
      ∃ row ∈ store.events.rows, row.eventId = column eventId ∧ row.toStoredEvent = event := by
  rw [Store.event, Option.map_eq_some_iff]
  constructor
  · rintro ⟨row, found, rfl⟩
    obtain ⟨mem, id⟩ := Table.get?_eq_some.mp found
    exact ⟨row, mem, id, rfl⟩
  · rintro ⟨row, mem, id, rfl⟩
    exact ⟨row, Table.get?_eq_some.mpr ⟨mem, id⟩, rfl⟩

theorem mem_attempts {attempt : StoredAttempt} :
    attempt ∈ store.attempts eventId ↔
      attempt ∈ store.attemptRows.rows ∧ attempt.eventId = column eventId := by
  rw [attempts, List.mem_insertionSort, List.mem_filter, decide_eq_true_eq]

theorem nodup_attempts (store : Store) (eventId : JsString) :
    ((store.attempts eventId).map StoredAttempt.attempt).Nodup := by
  have all : ((store.attemptRows.rows.filter fun row => row.eventId = column eventId).map
      StoredAttempt.attempt).Nodup := by
    have keys := store.attemptRows.unique.sublist
      ((List.filter_sublist (p := fun row => row.eventId = column eventId)).map
        fun row : StoredAttempt => (row.eventId, row.attempt))
    refine List.Nodup.of_map (fun n => (column eventId, n)) ?_
    rw [List.map_map]
    refine (List.map_congr_left fun attempt mem => ?_) ▸ keys
    rw [List.mem_filter, decide_eq_true_eq] at mem
    simp only [Function.comp_apply, mem.2]
  exact ((List.perm_insertionSort _ _).map _).nodup_iff.mpr all

theorem sorted_attempts (store : Store) (eventId : JsString) :
    ((store.attempts eventId).map StoredAttempt.attempt).Pairwise (· ≤ ·) := by
  have : Std.Total fun a b : StoredAttempt => a.attempt ≤ b.attempt := ⟨fun a b => Nat.le_total _ _⟩
  have : IsTrans StoredAttempt fun a b => a.attempt ≤ b.attempt := ⟨fun _ _ _ => Nat.le_trans⟩
  exact List.pairwise_map.mpr (List.pairwise_insertionSort _ _)

theorem mem_eventsWithStatus {status : EventStatus} {limit : Option Nat} {event : StoredEvent}
    (mem : event ∈ store.eventsWithStatus status limit) :
    ∃ row ∈ store.events.rows, row.toStoredEvent = event ∧ row.status = status := by
  obtain ⟨row, chosen, rfl⟩ := List.mem_map.mp mem
  have inside : row ∈ (store.events.rows.filter fun row => row.status = status).insertionSort
      (rowLe · ·) := by
    cases limit with
    | none => exact chosen
    | some count => exact List.mem_of_mem_take chosen
  rw [List.mem_insertionSort, List.mem_filter, decide_eq_true_eq] at inside
  exact ⟨row, inside.1, rfl, inside.2⟩

theorem nodup_eventsWithStatus (store : Store) (status : EventStatus) (limit : Option Nat) :
    ((store.eventsWithStatus status limit).map StoredEvent.eventId).Nodup := by
  have all : (((store.events.rows.filter fun row => row.status = status).insertionSort
      (rowLe · ·)).map fun row => row.eventId).Nodup :=
    ((List.perm_insertionSort _ _).map _).nodup_iff.mpr
      (store.events.unique.sublist (List.filter_sublist.map _))
  unfold eventsWithStatus
  rw [List.map_map]
  cases limit with
  | none => exact all
  | some count => exact all.sublist ((List.take_sublist count _).map _)

/-- Enqueuing adds a pending event under a new id, or changes nothing. -/
theorem enqueue_eq_ok {request : SettlementRequestN} {beneficiaryIds : List (JsString × JsString)}
    {now : JsString} {answer : Enqueued}
    (h : store.enqueue request beneficiaryIds now = .ok (answer, store')) :
    store' = store ∨ store.events.get? (column request.eventId) = none ∧
      store' = { store with
        events := store.events.insertOrIgnore
          { eventId := column request.eventId, request := request, beneficiaryIds := beneficiaryIds
            status := .pending, attempts := 0, note := none, createdAt := now } fun _ => false } := by
  unfold enqueue at h
  split at h
  · obtain ⟨_, h⟩ := ensure_bind_eq_ok.mp h
    cases h
    exact .inl rfl
  · next absent =>
      cases h
      exact .inr ⟨absent, rfl⟩

/-- An attempt begins with the event pending, under a number that is free. -/
theorem beginAttempt_eq_ok {request : SettlementRequestN} {params : AttemptParams} {attempt : Nat}
    (h : store.beginAttempt eventId request params = .ok (attempt, store')) :
    ∃ event, store.event eventId = some event ∧ event.status = .pending ∧
      attempt = event.attempts + 1 ∧ store.attemptRows.get? (column eventId, attempt) = none ∧
      store' = { store with
        attemptRows := store.attemptRows.insertOrIgnore
          { eventId := column eventId, attempt := attempt, request := request, params := params
            signature := none, rawTransaction := none, lastValidBlockHeight := none
            status := .prepared } fun _ => false
        events := store.events.modify (column eventId)
          (fun row => { row with status := .inFlight, attempts := attempt, note := none })
          fun _ => rfl } := by
  unfold beginAttempt at h
  split at h
  · cases h
  · next event found =>
      obtain ⟨pending, h⟩ := ensure_bind_eq_ok.mp h
      obtain ⟨free, h⟩ := ensure_bind_eq_ok.mp h
      cases h
      exact ⟨event, found, pending, rfl, free, rfl⟩

theorem recordPaid_eq_ok {attempt : Option Nat} {record : SettlementRecord}
    {directEntries : List LedgerEntry} {poolPayouts : List PayoutLine}
    (h : store.recordPaid eventId attempt record directEntries poolPayouts = .ok store') :
    ∃ ledgerRows, store.event eventId ≠ none ∧
      insertEntries eventId directEntries store.ledgerRows = .ok ledgerRows ∧
      store' =
        { events := store.events.modify (column eventId)
            (fun row => { row with status := .paid, note := none }) fun _ => rfl
          attemptRows := store.markLanded eventId attempt
          settlements := store.settlements.insertOrIgnore
            ⟨column eventId, column record.signature, record⟩
            fun row => row.signature = column record.signature
          ledgerRows := ledgerRows
          poolRows := insertPayouts eventId poolPayouts store.poolRows } := by
  unfold recordPaid at h
  obtain ⟨known, h⟩ := ensure_bind_eq_ok.mp h
  obtain ⟨ledgerRows, inserted, h⟩ := bind_eq_ok.mp h
  cases h
  exact ⟨ledgerRows, known, inserted, rfl⟩

end Store

/-- A column's text stays as it is. -/
@[simp] theorem column_column (text : JsString) : column (column text) = column text :=
  toWellFormed_flatMap_utf16 _

/-- Texts that a column does not tell apart name the same event on chain. -/
theorem eventIdSeed_of_column {H : Host} {eventId other : JsString}
    (same : column eventId = column other) : eventIdSeed H eventId = eventIdSeed H other := by
  have encoded : textEncode eventId = textEncode other := textEncode_inj.mpr same
  have empty : eventId ≠ [] ↔ other ≠ [] := by
    rw [ne_eq, ne_eq, ← textEncode_eq_nil, ← textEncode_eq_nil, encoded]
  simp only [eventIdSeed, empty, encoded]

end Synxed.Studio
