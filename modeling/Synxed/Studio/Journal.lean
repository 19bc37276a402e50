import Synxed.Studio.Books
import Synxed.Studio.Uses

/-!
The attempts of an event, as the store keeps them.

* `Journal`: attempts are numbered, only the last one is open, and a pending
  event has none that is.
* `Method.Owes`: what the worker owes an event when it calls a method.
* `Journal.of_apply`, `Journal.queues`: then the journal is kept.
-/

namespace Synxed.Studio

open Synxed.Lib Synxed.Program Synxed.Sdk

/-- It may still be signed, sent or land. -/
def StoredAttempt.Open (attempt : StoredAttempt) : Prop :=
  attempt.status = .prepared ∨ attempt.status = .signed

variable {store store' store'' : Store} {e : JsString} {limit : Nat} {mine : AttemptParams → Prop}
  {method : Method}

namespace Store

/-- No attempt of the event is open. -/
def Closed (store : Store) (e : JsString) : Prop :=
  ∀ attempt ∈ store.attemptRows.rows, attempt.eventId = e → ¬ attempt.Open

/-- Every attempt of the event was made with such parameters. -/
def Within (mine : AttemptParams → Prop) (store : Store) (e : JsString) : Prop :=
  ∀ attempt ∈ store.attemptRows.rows, attempt.eventId = e → mine attempt.params

/-- The event is stored, with this status. -/
def Standing (store : Store) (e : JsString) (status : EventStatus) : Prop :=
  ∃ row ∈ store.events.rows, row.eventId = e ∧ row.status = status

/-- A signed attempt of the event has these bytes. -/
def HasSigned (store : Store) (e : JsString) (raw : Bytes) : Prop :=
  ∃ attempt ∈ store.attemptRows.rows, attempt.eventId = e ∧ attempt.status = .signed ∧
    ∃ text, attempt.rawTransaction = some text ∧ base64Decode text = raw

theorem event_of_standing {eventId : JsString} {status : EventStatus}
    (standing : store.Standing (column eventId) status) :
    (store.event eventId).map StoredEvent.status = some status := by
  obtain ⟨row, mem, id, rfl⟩ := standing
  rw [event_eq_some.mpr ⟨row, mem, id, rfl⟩]
  rfl

/-! ### Enqueuing -/

/-- Only events may have been enqueued. -/
structure Queues (store store' : Store) : Prop where
  attempts : store'.attemptRows = store.attemptRows
  events : ∀ row ∈ store.events.rows, row ∈ store'.events.rows
  added : ∀ row ∈ store'.events.rows, row ∈ store.events.rows ∨
    row.status = .pending ∧ row.attempts = 0 ∧ column row.eventId = row.eventId ∧
      ∀ old ∈ store.events.rows, old.eventId ≠ row.eventId

namespace Queues

theorem refl (store : Store) : store.Queues store := ⟨rfl, fun _ mem => mem, fun _ mem => .inl mem⟩

theorem trans (first : store.Queues store') (second : store'.Queues store'') :
    store.Queues store'' where
  attempts := second.attempts.trans first.attempts
  events row mem := second.events row (first.events row mem)
  added row mem := by
    rcases second.added row mem with old | ⟨pending, none, named, fresh⟩
    · exact first.added row old
    · exact .inr ⟨pending, none, named, fun old mem => fresh old (first.events old mem)⟩

theorem of_enqueues {isDate : JsString → Bool} (enqueued : Enqueues isDate store store') :
    store.Queues store' := by
  induction enqueued with
  | refl => exact .refl store
  | tail _ last ih =>
      obtain ⟨_, _, _, _, _, added⟩ := last
      refine ih.trans ?_
      rcases enqueue_eq_ok added with rfl | ⟨absent, rfl⟩
      · exact .refl _
      · refine ⟨rfl, fun row mem => Table.mem_insertOrIgnore.mpr (.inl mem), fun row mem => ?_⟩
        rcases Table.mem_insertOrIgnore.mp mem with old | ⟨rfl, _⟩
        · exact .inl old
        · exact .inr ⟨rfl, rfl, column_column _, Table.get?_eq_none.mp absent⟩

variable (queues : store.Queues store')

include queues

theorem closed (closed : store.Closed e) : store'.Closed e := by
  unfold Closed
  rw [queues.attempts]
  exact closed

theorem within (within : store.Within mine e) : store'.Within mine e := by
  unfold Within
  rw [queues.attempts]
  exact within

theorem standing {status : EventStatus} (standing : store.Standing e status) :
    store'.Standing e status := by
  obtain ⟨row, mem, same⟩ := standing
  exact ⟨row, queues.events row mem, same⟩

theorem hasSigned {raw : Bytes} (signed : store.HasSigned e raw) : store'.HasSigned e raw := by
  unfold HasSigned
  rw [queues.attempts]
  exact signed

end Queues

end Store

/-! ### Where attempts come from, and where they go -/

/-- How an attempt came into the store that a method leaves. -/
inductive Method.Leaves (store : Store) : Method → StoredAttempt → Prop where
  | kept {method : Method} {attempt : StoredAttempt} (mem : attempt ∈ store.attemptRows.rows) :
      Leaves store method attempt
  | begun {eventId : JsString} {n : Nat} {request : SettlementRequestN} {params : AttemptParams} :
      Leaves store (.beginAttempt eventId request params)
        ⟨column eventId, n, request, params, none, none, none, .prepared⟩
  | signed {eventId signature raw : JsString} {n lastValid : Nat} {old : StoredAttempt}
      (mem : old ∈ store.attemptRows.rows) (key : (old.eventId, old.attempt) = (column eventId, n))
      (prepared : old.status = .prepared) :
      Leaves store (.recordSigned eventId n signature raw lastValid)
        { old with
          signature := some (column signature)
          rawTransaction := some (column raw)
          lastValidBlockHeight := some lastValid
          status := .signed }
  | marked {eventId : JsString} {n : Nat} {status : DeadStatus} {old : StoredAttempt}
      (mem : old ∈ store.attemptRows.rows) (key : (old.eventId, old.attempt) = (column eventId, n)) :
      Leaves store (.setAttemptStatus eventId n status) { old with status := status.val }
  | landed {eventId : JsString} {n : Nat} {record : SettlementRecord}
      {directEntries : List LedgerEntry} {poolPayouts : List PayoutLine} {old : StoredAttempt}
      (mem : old ∈ store.attemptRows.rows) (key : (old.eventId, old.attempt) = (column eventId, n)) :
      Leaves store (.recordPaid eventId (some n) record directEntries poolPayouts)
        { old with status := .landed }

theorem Method.leaves {attempt : StoredAttempt}
    (mem : attempt ∈ (method.apply store).2.attemptRows.rows) : method.Leaves store attempt := by
  cases method with
  | beginAttempt eventId request params =>
      cases began : store.beginAttempt eventId request params with
      | error error =>
          simp only [Method.apply, began] at mem
          exact .kept mem
      | ok result =>
          obtain ⟨number, store'⟩ := result
          simp only [Method.apply, began] at mem
          obtain ⟨_, _, _, _, _, rfl⟩ := Store.beginAttempt_eq_ok began
          rcases Table.mem_insertOrIgnore.mp mem with old | ⟨rfl, _⟩
          · exact .kept old
          · exact .begun
  | recordSigned eventId number signature raw lastValid =>
      rcases Table.mem_changed.mp mem with ⟨old, _⟩ | ⟨old, inRows, key, rfl⟩
      · exact .kept old
      · split
        · next prepared => exact .signed inRows key prepared
        · exact .kept inRows
  | setAttemptStatus eventId number status =>
      rcases Table.mem_changed.mp mem with ⟨old, _⟩ | ⟨old, inRows, key, rfl⟩
      · exact .kept old
      · exact .marked inRows key
  | recordPaid eventId number record directEntries poolPayouts =>
      cases wrote : store.recordPaid eventId number record directEntries poolPayouts with
      | error error =>
          simp only [Method.apply, wrote] at mem
          exact .kept mem
      | ok store' =>
          simp only [Method.apply, wrote] at mem
          obtain ⟨_, _, _, rfl⟩ := Store.recordPaid_eq_ok wrote
          cases number with
          | none => exact .kept mem
          | some n =>
              rcases Table.mem_changed.mp mem with ⟨old, _⟩ | ⟨old, inRows, key, rfl⟩
              · exact .kept old
              · exact .landed inRows key
  | _ => exact .kept mem

/-- What a method makes of an attempt that is stored. -/
inductive Method.Turns : Method → StoredAttempt → StoredAttempt → Prop where
  | kept {method : Method} {attempt : StoredAttempt} : Turns method attempt attempt
  | signed {eventId signature raw : JsString} {n lastValid : Nat} {old : StoredAttempt}
      (key : (old.eventId, old.attempt) = (column eventId, n)) (prepared : old.status = .prepared) :
      Turns (.recordSigned eventId n signature raw lastValid) old
        { old with
          signature := some (column signature)
          rawTransaction := some (column raw)
          lastValidBlockHeight := some lastValid
          status := .signed }
  | marked {eventId : JsString} {n : Nat} {status : DeadStatus} {old : StoredAttempt}
      (key : (old.eventId, old.attempt) = (column eventId, n)) :
      Turns (.setAttemptStatus eventId n status) old { old with status := status.val }
  | landed {eventId : JsString} {n : Nat} {record : SettlementRecord}
      {directEntries : List LedgerEntry} {poolPayouts : List PayoutLine} {old : StoredAttempt}
      (key : (old.eventId, old.attempt) = (column eventId, n)) :
      Turns (.recordPaid eventId (some n) record directEntries poolPayouts) old
        { old with status := .landed }

/-- No attempt is lost. -/
theorem Method.turns (method : Method) {attempt : StoredAttempt} (mem : attempt ∈ store.attemptRows.rows) :
    ∃ attempt' ∈ (method.apply store).2.attemptRows.rows, method.Turns attempt attempt' := by
  cases method with
  | beginAttempt eventId request params =>
      cases began : store.beginAttempt eventId request params with
      | error error =>
          simp only [Method.apply, began]
          exact ⟨attempt, mem, .kept⟩
      | ok result =>
          obtain ⟨number, store'⟩ := result
          simp only [Method.apply, began]
          obtain ⟨_, _, _, _, _, rfl⟩ := Store.beginAttempt_eq_ok began
          exact ⟨attempt, Table.mem_insertOrIgnore.mpr (.inl mem), .kept⟩
  | recordSigned eventId number signature raw lastValid =>
      by_cases key : (attempt.eventId, attempt.attempt) = (column eventId, number)
      · refine ⟨_, Table.mem_changed.mpr (.inr ⟨attempt, mem, key, rfl⟩), ?_⟩
        split
        · next prepared => exact .signed key prepared
        · exact .kept
      · exact ⟨attempt, Table.mem_changed.mpr (.inl ⟨mem, key⟩), .kept⟩
  | setAttemptStatus eventId number status =>
      by_cases key : (attempt.eventId, attempt.attempt) = (column eventId, number)
      · exact ⟨_, Table.mem_changed.mpr (.inr ⟨attempt, mem, key, rfl⟩), .marked key⟩
      · exact ⟨attempt, Table.mem_changed.mpr (.inl ⟨mem, key⟩), .kept⟩
  | recordPaid eventId number record directEntries poolPayouts =>
      cases wrote : store.recordPaid eventId number record directEntries poolPayouts with
      | error error =>
          simp only [Method.apply, wrote]
          exact ⟨attempt, mem, .kept⟩
      | ok store' =>
          simp only [Method.apply, wrote]
          obtain ⟨_, _, _, rfl⟩ := Store.recordPaid_eq_ok wrote
          cases number with
          | none => exact ⟨attempt, mem, .kept⟩
          | some n =>
              by_cases key : (attempt.eventId, attempt.attempt) = (column eventId, n)
              · exact ⟨_, Table.mem_changed.mpr (.inr ⟨attempt, mem, key, rfl⟩), .landed key⟩
              · exact ⟨attempt, Table.mem_changed.mpr (.inl ⟨mem, key⟩), .kept⟩
  | _ => exact ⟨attempt, mem, .kept⟩

/-! ### The journal -/

/-- What holds of the attempts in the store. -/
structure Journal (store : Store) : Prop where
  named : ∀ row ∈ store.events.rows, column row.eventId = row.eventId
  owned : ∀ attempt ∈ store.attemptRows.rows,
    ∃ row ∈ store.events.rows, row.eventId = attempt.eventId
  numbered : ∀ row ∈ store.events.rows, ∀ n,
    (∃ attempt ∈ store.attemptRows.rows, attempt.eventId = row.eventId ∧ attempt.attempt = n) ↔
      1 ≤ n ∧ n ≤ row.attempts
  last : ∀ row ∈ store.events.rows, ∀ attempt ∈ store.attemptRows.rows,
    attempt.eventId = row.eventId → attempt.Open →
      row.status ≠ .pending ∧ attempt.attempt = row.attempts
  unsigned : ∀ attempt ∈ store.attemptRows.rows, attempt.status = .prepared →
    attempt.signature = none

/-- What the worker owes the event `e` when it calls a method. -/
def Method.Owes (limit : Nat) (mine : AttemptParams → Prop) (e : JsString) (store : Store) :
    Method → Prop
  | beginAttempt eventId request params =>
      column eventId = e ∧ mine params ∧ store.Within mine e ∧
        (∀ row ∈ store.events.rows, row.eventId = e → row.attempts < limit) ∧
        ∃ row ∈ store.events.rows, row.eventId = e ∧ row.request = request
  | recordSigned eventId _ _ _ _ => column eventId = e ∧ store.Within mine e
  | setAttemptStatus eventId _ status =>
      column eventId = e ∧ (status = .failed ∨ status = .expired)
  | setEventStatus eventId status _ =>
      column eventId = e ∧ (status = .pending → store.Closed e)
  | recordPaid eventId attempt record _ _ =>
      column eventId = e ∧ ∀ n, attempt = some n → ∃ row ∈ store.attemptRows.rows,
        row.eventId = e ∧ row.attempt = n ∧ row.signature = some record.signature
  | _ => True

/-- One attempt, before and after a method was called. -/
structure Advances (attempt attempt' : StoredAttempt) : Prop extends
    SameAttempt attempt attempt' where
  number : attempt'.attempt = attempt.attempt
  opens : attempt'.Open → attempt.Open
  prepared : attempt'.status = .prepared → attempt' = attempt
  signature : attempt.status ≠ .prepared → attempt'.signature = attempt.signature

theorem Advances.refl (attempt : StoredAttempt) : Advances attempt attempt :=
  ⟨.refl attempt, rfl, fun opens => opens, fun _ => rfl, fun _ => rfl⟩

/-- A status that an attempt does not leave again. -/
theorem Advances.of_closed {attempt : StoredAttempt} {status : AttemptStatus}
    (closed : ¬ ({ attempt with status := status } : StoredAttempt).Open) :
    Advances attempt { attempt with status := status } :=
  ⟨⟨rfl, rfl, rfl⟩, rfl, fun opens => absurd opens closed,
    fun prepared => absurd (.inl prepared) closed, fun _ => rfl⟩

namespace Journal

theorem empty : Journal .empty where
  named _ mem := by cases mem
  owned _ mem := by cases mem
  numbered _ mem := by cases mem
  last _ mem := by cases mem
  unsigned _ mem := by cases mem

variable (journal : Journal store)

include journal

/-- A pending event has no open attempt. -/
theorem closed_of_pending (standing : store.Standing e .pending) : store.Closed e := by
  obtain ⟨row, mem, rfl, pending⟩ := standing
  exact fun attempt inRows id opens => (journal.last row mem attempt inRows id opens).1 pending

/-- Attempts that advance. -/
theorem of_attempts (g : StoredAttempt → StoredAttempt) (events : store'.events = store.events)
    (attempts : store'.attemptRows.rows = store.attemptRows.rows.map g)
    (advances : ∀ attempt ∈ store.attemptRows.rows, Advances attempt (g attempt)) :
    Journal store' where
  named := by
    rw [events]
    exact journal.named
  owned attempt' mem := by
    rw [attempts] at mem
    obtain ⟨attempt, inRows, rfl⟩ := List.mem_map.mp mem
    rw [events, (advances attempt inRows).eventId]
    exact journal.owned attempt inRows
  numbered row mem n := by
    rw [events] at mem
    rw [← journal.numbered row mem n, attempts]
    constructor
    · rintro ⟨attempt', inRows', id, number⟩
      obtain ⟨attempt, inRows, rfl⟩ := List.mem_map.mp inRows'
      have advance := advances attempt inRows
      exact ⟨attempt, inRows, advance.eventId.symm.trans id, advance.number.symm.trans number⟩
    · rintro ⟨attempt, inRows, id, number⟩
      have advance := advances attempt inRows
      exact ⟨g attempt, List.mem_map_of_mem inRows, advance.eventId.trans id,
        advance.number.trans number⟩
  last row mem attempt' inRows' id opens := by
    rw [events] at mem
    rw [attempts] at inRows'
    obtain ⟨attempt, inRows, rfl⟩ := List.mem_map.mp inRows'
    have advance := advances attempt inRows
    rw [advance.number]
    exact journal.last row mem attempt inRows (advance.eventId.symm.trans id) (advance.opens opens)
  unsigned attempt' mem prepared := by
    rw [attempts] at mem
    obtain ⟨attempt, inRows, rfl⟩ := List.mem_map.mp mem
    have same := (advances attempt inRows).prepared prepared
    rw [same] at prepared ⊢
    exact journal.unsigned attempt inRows prepared

/-- Events that change their status, and are pending only where no attempt is
open. -/
theorem of_events (g : EventRow → EventRow) (attempts : store'.attemptRows = store.attemptRows)
    (events : store'.events.rows = store.events.rows.map g)
    (same : ∀ row, (g row).eventId = row.eventId ∧ (g row).attempts = row.attempts)
    (pending : ∀ row ∈ store.events.rows, (g row).status = .pending →
      row.status = .pending ∨ store.Closed row.eventId) : Journal store' where
  named row' mem := by
    rw [events] at mem
    obtain ⟨row, inRows, rfl⟩ := List.mem_map.mp mem
    rw [(same row).1]
    exact journal.named row inRows
  owned attempt mem := by
    rw [attempts] at mem
    obtain ⟨row, inRows, id⟩ := journal.owned attempt mem
    refine ⟨g row, ?_, (same row).1.trans id⟩
    rw [events]
    exact List.mem_map_of_mem inRows
  numbered row' mem n := by
    rw [events] at mem
    obtain ⟨row, inRows, rfl⟩ := List.mem_map.mp mem
    rw [attempts, (same row).1, (same row).2]
    exact journal.numbered row inRows n
  last row' mem attempt inRows' id opens := by
    rw [events] at mem
    obtain ⟨row, inRows, rfl⟩ := List.mem_map.mp mem
    rw [attempts] at inRows'
    rw [(same row).1] at id
    rw [(same row).2]
    obtain ⟨notPending, number⟩ := journal.last row inRows attempt inRows' id opens
    refine ⟨fun isPending => ?_, number⟩
    rcases pending row inRows isPending with before | closed
    · exact notPending before
    · exact closed attempt inRows' id opens
  unsigned := by
    rw [attempts]
    exact journal.unsigned

/-- An attempt begins with the event pending, and is the only open one. -/
theorem beginAttempt {eventId : JsString} {request : SettlementRequestN} {params : AttemptParams}
    {attempt : Nat} (h : store.beginAttempt eventId request params = .ok (attempt, store')) :
    Journal store' := by
  obtain ⟨event, found, pending, rfl, free, rfl⟩ := Store.beginAttempt_eq_ok h
  obtain ⟨row, mem, id, rfl⟩ := Store.event_eq_some.mp found
  have closed : store.Closed (column eventId) := journal.closed_of_pending ⟨row, mem, id, pending⟩
  have only {other : EventRow} (inRows : other ∈ store.events.rows)
      (here : other.eventId = column eventId) : other = row :=
    List.inj_on_of_nodup_map store.events.unique inRows mem (here.trans id.symm)
  refine ⟨fun row' mem' => ?_, fun attempt' mem' => ?_, fun row' mem' n => ?_,
    fun row' mem' attempt' inRows' id' opens => ?_, fun attempt' mem' prepared => ?_⟩
  · rcases Table.mem_changed.mp mem' with ⟨old, _⟩ | ⟨old, inRows, _, rfl⟩
    · exact journal.named row' old
    · exact journal.named old inRows
  · have owner : ∃ old ∈ store.events.rows, old.eventId = attempt'.eventId := by
      rcases Table.mem_insertOrIgnore.mp mem' with inRows | ⟨rfl, _⟩
      · exact journal.owned attempt' inRows
      · exact ⟨row, mem, id⟩
    obtain ⟨old, inRows, same⟩ := owner
    by_cases here : old.eventId = column eventId
    · exact ⟨_, Table.mem_changed.mpr (.inr ⟨old, inRows, here, rfl⟩), same⟩
    · exact ⟨old, Table.mem_changed.mpr (.inl ⟨inRows, here⟩), same⟩
  · rcases Table.mem_changed.mp mem' with ⟨inRows, elsewhere⟩ | ⟨old, inRows, here, rfl⟩
    · rw [← journal.numbered row' inRows n]
      constructor
      · rintro ⟨attempt', inTable, sameId, number⟩
        rcases Table.mem_insertOrIgnore.mp inTable with before | ⟨rfl, _⟩
        · exact ⟨attempt', before, sameId, number⟩
        · exact absurd sameId.symm elsewhere
      · rintro ⟨attempt', before, sameId, number⟩
        exact ⟨attempt', Table.mem_insertOrIgnore.mpr (.inl before), sameId, number⟩
    · obtain rfl := only inRows here
      have numbers := journal.numbered old inRows n
      change _ ↔ 1 ≤ n ∧ n ≤ old.attempts + 1
      constructor
      · rintro ⟨attempt', inTable, sameId, number⟩
        rcases Table.mem_insertOrIgnore.mp inTable with before | ⟨rfl, _⟩
        · have := numbers.mp ⟨attempt', before, sameId, number⟩
          omega
        · change old.attempts + 1 = n at number
          omega
      · rintro ⟨low, high⟩
        by_cases new : n = old.attempts + 1
        · exact ⟨_, Table.mem_insertOrIgnore.mpr (.inr ⟨rfl, free, fun _ _ => rfl⟩), here.symm,
            new.symm⟩
        · obtain ⟨attempt', before, sameId, number⟩ := numbers.mpr ⟨low, by omega⟩
          exact ⟨attempt', Table.mem_insertOrIgnore.mpr (.inl before), sameId, number⟩
  · rcases Table.mem_changed.mp mem' with ⟨inRows, elsewhere⟩ | ⟨old, inRows, here, rfl⟩
    · rcases Table.mem_insertOrIgnore.mp inRows' with before | ⟨rfl, _⟩
      · exact journal.last row' inRows attempt' before id' opens
      · exact absurd id'.symm elsewhere
    · obtain rfl := only inRows here
      rcases Table.mem_insertOrIgnore.mp inRows' with before | ⟨rfl, _⟩
      · exact absurd opens (closed attempt' before (id'.trans here))
      · exact ⟨(nomatch ·), rfl⟩
  · rcases Table.mem_insertOrIgnore.mp mem' with before | ⟨rfl, _⟩
    · exact journal.unsigned attempt' before prepared
    · rfl

theorem queues (queues : store.Queues store') : Journal store' where
  named row mem := by
    rcases queues.added row mem with old | ⟨_, _, named, _⟩
    · exact journal.named row old
    · exact named
  owned attempt mem := by
    rw [queues.attempts] at mem
    obtain ⟨row, inRows, id⟩ := journal.owned attempt mem
    exact ⟨row, queues.events row inRows, id⟩
  numbered row mem n := by
    rw [queues.attempts]
    rcases queues.added row mem with old | ⟨_, none, _, fresh⟩
    · exact journal.numbered row old n
    · rw [none]
      constructor
      · rintro ⟨attempt, inRows, id, _⟩
        obtain ⟨owner, inEvents, same⟩ := journal.owned attempt inRows
        exact absurd (same.trans id) (fresh owner inEvents)
      · omega
  last row mem attempt inRows id opens := by
    rw [queues.attempts] at inRows
    rcases queues.added row mem with old | ⟨_, _, _, fresh⟩
    · exact journal.last row old attempt inRows id opens
    · obtain ⟨owner, inEvents, same⟩ := journal.owned attempt inRows
      exact absurd (same.trans id) (fresh owner inEvents)
  unsigned := by
    rw [queues.attempts]
    exact journal.unsigned

end Journal

/-- How one attempt is signed. -/
theorem advances_signed (attempt : StoredAttempt) (signature raw : JsString) (lastValid : Nat) :
    Advances attempt (if attempt.status = .prepared then
      { attempt with
        signature := some (column signature)
        rawTransaction := some (column raw)
        lastValidBlockHeight := some lastValid
        status := .signed }
      else attempt) := by
  split
  · next prepared =>
      exact ⟨⟨rfl, rfl, rfl⟩, rfl, fun _ => .inl prepared, (nomatch ·),
        fun other => absurd prepared other⟩
  · exact .refl attempt

/-- Changing one row of a table, or none. -/
theorem advances_changed {k : JsString × Nat} {f : StoredAttempt → StoredAttempt}
    (advances : ∀ attempt, Advances attempt (f attempt)) (attempt : StoredAttempt) :
    Advances attempt (if (attempt.eventId, attempt.attempt) = k then f attempt else attempt) := by
  split
  · exact advances attempt
  · exact .refl attempt

theorem not_open_of_dead {attempt : StoredAttempt} {status : DeadStatus}
    (dead : status = .failed ∨ status = .expired) :
    ¬ ({ attempt with status := status.val } : StoredAttempt).Open := by
  rcases dead with rfl | rfl <;> rintro (opens | opens) <;> cases opens

/-- What the worker owes keeps the journal. -/
theorem Journal.of_apply (journal : Journal store) (owes : method.Owes limit mine e store) :
    Journal (method.apply store).2 := by
  cases method with
  | beginAttempt eventId request params =>
      cases began : store.beginAttempt eventId request params with
      | error error =>
          simp only [Method.apply, began]
          exact journal
      | ok result =>
          simp only [Method.apply, began]
          exact journal.beginAttempt began
  | recordSigned eventId attempt signature raw lastValid =>
      exact journal.of_attempts _ rfl rfl fun attempt _ =>
        advances_changed (fun attempt => advances_signed attempt signature raw lastValid) attempt
  | setAttemptStatus eventId attempt status =>
      exact journal.of_attempts _ rfl rfl fun attempt _ =>
        advances_changed (fun _ => .of_closed (not_open_of_dead owes.2)) attempt
  | setEventStatus eventId status note =>
      refine journal.of_events _ rfl rfl (fun row => ?_) fun row mem pending => ?_
      · split <;> exact ⟨rfl, rfl⟩
      · by_cases here : row.eventId = column eventId
        · rw [if_pos here] at pending
          rw [here, owes.1]
          exact .inr (owes.2 (Subtype.ext pending))
        · rw [if_neg here] at pending
          exact .inl pending
  | recordPaid eventId attempt record directEntries poolPayouts =>
      cases wrote : store.recordPaid eventId attempt record directEntries poolPayouts with
      | error error =>
          simp only [Method.apply, wrote]
          exact journal
      | ok store' =>
          simp only [Method.apply, wrote]
          obtain ⟨ledgerRows, _, _, rfl⟩ := Store.recordPaid_eq_ok wrote
          have marked : Journal { store with attemptRows := store.markLanded eventId attempt } := by
            cases attempt with
            | none => exact journal
            | some n =>
                refine journal.of_attempts _ rfl rfl fun attempt _ =>
                  advances_changed (fun _ => .of_closed ?_) attempt
                rintro (opens | opens) <;> cases opens
          refine marked.of_events _ rfl rfl (fun row => ?_) fun row mem pending => ?_
          · split <;> exact ⟨rfl, rfl⟩
          · by_cases here : row.eventId = column eventId
            · rw [if_pos here] at pending
              cases pending
            · rw [if_neg here] at pending
              exact .inl pending
  | _ => exact journal

/-! ### Other events -/

namespace Store

/-- An event has one status. -/
theorem Standing.unique {status status' : EventStatus} (first : store.Standing e status)
    (second : store.Standing e status') : status = status' := by
  obtain ⟨row, mem, id, rfl⟩ := first
  obtain ⟨row', mem', id', rfl⟩ := second
  rw [List.inj_on_of_nodup_map store.events.unique mem mem' (id.trans id'.symm)]

end Store

namespace Method.Owes

variable (owes : method.Owes limit mine e store)

include owes

/-- An event is left alone, or it is the one worked on. -/
theorem mem_events {row' : EventRow} (mem : row' ∈ (method.apply store).2.events.rows) :
    row' ∈ store.events.rows ∨ row'.eventId = e := by
  cases method with
  | beginAttempt eventId request params =>
      cases began : store.beginAttempt eventId request params with
      | error error =>
          simp only [Method.apply, began] at mem
          exact .inl mem
      | ok result =>
          simp only [Method.apply, began] at mem
          obtain ⟨_, _, _, _, _, same⟩ := Store.beginAttempt_eq_ok began
          rw [same] at mem
          rcases Table.mem_changed.mp mem with ⟨old, _⟩ | ⟨old, _, id, rfl⟩
          · exact .inl old
          · exact .inr (id.trans owes.1)
  | setEventStatus eventId status note =>
      rcases Table.mem_changed.mp mem with ⟨old, _⟩ | ⟨old, _, id, rfl⟩
      · exact .inl old
      · exact .inr (id.trans owes.1)
  | recordPaid eventId attempt record directEntries poolPayouts =>
      cases wrote : store.recordPaid eventId attempt record directEntries poolPayouts with
      | error error =>
          simp only [Method.apply, wrote] at mem
          exact .inl mem
      | ok store' =>
          simp only [Method.apply, wrote] at mem
          obtain ⟨_, _, _, rfl⟩ := Store.recordPaid_eq_ok wrote
          rcases Table.mem_changed.mp mem with ⟨old, _⟩ | ⟨old, _, id, rfl⟩
          · exact .inl old
          · exact .inr (id.trans owes.1)
  | _ => exact .inl mem

/-- Other events stay as they are. -/
theorem elsewhere {row : EventRow} (mem : row ∈ store.events.rows) (other : row.eventId ≠ e) :
    row ∈ (method.apply store).2.events.rows := by
  obtain ⟨row', mem', same⟩ := method.keeps store row mem
  rcases owes.mem_events mem' with old | here
  · obtain rfl := List.inj_on_of_nodup_map store.events.unique mem old same.eventId.symm
    exact mem'
  · exact absurd (same.eventId.symm.trans here) other

theorem within {f : JsString} (within : store.Within mine f) :
    (method.apply store).2.Within mine f := by
  intro attempt' mem id
  rcases Method.mem_attemptRows mem with ⟨attempt, inRows, same⟩ | ⟨_, _, _, rfl, _, _, rfl⟩
  · rw [same.params]
    exact within attempt inRows (same.eventId.symm.trans id)
  · exact owes.2.1

end Method.Owes

/-! ### Events on their way -/

section OnTheWay

variable {eventId : JsString} {rest attempts : List StoredAttempt} {attempt : StoredAttempt}
  {event : StoredEvent} {number : Nat}

/-- An event being decided. -/
structure Resolving (mine : AttemptParams → Prop) (e : JsString) (store : Store) : Prop where
  standing : store.Standing e .inFlight
  within : store.Within mine e

theorem Resolving.queues (resolving : Resolving mine e store)
    (queues : store.Queues store') : Resolving mine e store' :=
  ⟨queues.standing resolving.standing, queues.within resolving.within⟩

/-- An attempt that is changed keeps what it was made with. -/
theorem Resolving.setAttemptStatus (resolving : Resolving mine e store)
    (number : Nat) (status : DeadStatus) :
    Resolving mine e (store.setAttemptStatus eventId number status) := by
  refine ⟨resolving.standing, fun attempt mem id => ?_⟩
  rcases Table.mem_changed.mp mem with ⟨old, _⟩ | ⟨old, inRows, _, rfl⟩
  · exact resolving.within attempt old id
  · exact resolving.within old inRows id

/-- The attempts still to be looked at: among them are all that are prepared. -/
structure InHand (mine : AttemptParams → Prop) (e : JsString) (rest : List StoredAttempt)
    (store : Store) : Prop extends Resolving mine e store where
  stored : ∀ attempt ∈ rest, attempt ∈ store.attemptRows.rows ∧ attempt.eventId = e
  distinct : (rest.map StoredAttempt.attempt).Nodup
  prepared : ∀ attempt ∈ store.attemptRows.rows, attempt.eventId = e →
    attempt.status = .prepared → attempt ∈ rest

namespace InHand

theorem queues (inHand : InHand mine e rest store) (queues : store.Queues store') :
    InHand mine e rest store' := by
  refine ⟨inHand.toResolving.queues queues, ?_, inHand.distinct, ?_⟩
  · rw [queues.attempts]
    exact inHand.stored
  · rw [queues.attempts]
    exact inHand.prepared

/-- One that is not prepared is done with. -/
theorem tail (inHand : InHand mine e (attempt :: rest) store) (other : attempt.status ≠ .prepared) :
    InHand mine e rest store := by
  refine ⟨inHand.toResolving, fun later mem => inHand.stored later (List.mem_cons_of_mem _ mem),
    (List.nodup_cons.mp inHand.distinct).2, fun later mem id prepared => ?_⟩
  rcases List.mem_cons.mp (inHand.prepared later mem id prepared) with rfl | inRest
  · exact absurd prepared other
  · exact inRest

/-- One that failed is done with. -/
theorem failed (inHand : InHand mine e (attempt :: rest) store) (named : column e = e) :
    InHand mine e rest (store.setAttemptStatus attempt.eventId attempt.attempt DeadStatus.failed) := by
  obtain ⟨_, id⟩ := inHand.stored attempt List.mem_cons_self
  have key : column attempt.eventId = e := by rw [id, named]
  refine ⟨inHand.toResolving.setAttemptStatus _ _, fun later mem => ?_,
    (List.nodup_cons.mp inHand.distinct).2, fun later mem laterId prepared => ?_⟩
  · obtain ⟨inRows, laterId⟩ := inHand.stored later (List.mem_cons_of_mem _ mem)
    refine ⟨Table.mem_changed.mpr (.inl ⟨inRows, fun same => ?_⟩), laterId⟩
    exact (List.nodup_cons.mp inHand.distinct).1 ((Prod.mk.inj same).2 ▸ List.mem_map_of_mem mem)
  · rcases Table.mem_changed.mp mem with ⟨inRows, elsewhere⟩ | ⟨old, _, _, rfl⟩
    · rcases List.mem_cons.mp (inHand.prepared later inRows laterId prepared) with rfl | inRest
      · exact absurd (by rw [key, id]) elsewhere
      · exact inRest
    · cases prepared

end InHand

/-- The attempts still to expire: among them are all that are open. -/
structure Expiring (mine : AttemptParams → Prop) (e : JsString) (rest : List StoredAttempt)
    (store : Store) : Prop extends Resolving mine e store where
  signed : ∀ attempt ∈ store.attemptRows.rows, attempt.eventId = e → attempt.Open →
    attempt ∈ rest ∧ attempt.status = .signed

theorem Expiring.queues (expiring : Expiring mine e rest store) (queues : store.Queues store') :
    Expiring mine e rest store' := by
  refine ⟨expiring.toResolving.queues queues, ?_⟩
  rw [queues.attempts]
  exact expiring.signed

theorem Expiring.closed (expiring : Expiring mine e [] store) : store.Closed e :=
  fun attempt mem id opens => nomatch (expiring.signed attempt mem id opens).1

/-- The attempts of an event as they were read. -/
def ReadBack (e : JsString) (attempts : List StoredAttempt) (store : Store) : Prop :=
  ∀ attempt ∈ attempts, attempt ∈ store.attemptRows.rows ∧ attempt.eventId = e

theorem ReadBack.queues (readBack : ReadBack e attempts store) (queues : store.Queues store') :
    ReadBack e attempts store' := by
  unfold ReadBack
  rw [queues.attempts]
  exact readBack

theorem landedAttempt_eq_some {signature : JsString} {n : Nat}
    (landed : WorkerOptions.landedAttempt attempts signature = some n) :
    ∃ attempt ∈ attempts, attempt.attempt = n ∧ attempt.signature = some signature := by
  obtain ⟨attempt, found, rfl⟩ := Option.map_eq_some_iff.mp landed
  exact ⟨attempt, List.mem_reverse.mp (List.mem_of_find?_eq_some found), rfl,
    by simpa using List.find?_some found⟩

/-- An event whose attempt was begun: no other is open. -/
structure Begun (mine : AttemptParams → Prop) (e : JsString) (attempt : Nat) (store : Store) : Prop
    extends Resolving mine e store where
  only : ∀ other ∈ store.attemptRows.rows, other.eventId = e → other.Open → other.attempt = attempt

theorem Begun.queues (begun : Begun mine e number store)
    (queues : store.Queues store') : Begun mine e number store' := by
  refine ⟨begun.toResolving.queues queues, ?_⟩
  rw [queues.attempts]
  exact begun.only

/-- An event as it is stored. -/
def Listed (event : StoredEvent) (store : Store) : Prop :=
  ∃ row ∈ store.events.rows, row.toStoredEvent = event

theorem Listed.queues (listed : Listed event store)
    (queues : store.Queues store') : Listed event store' := by
  obtain ⟨row, mem, same⟩ := listed
  exact ⟨row, queues.events row mem, same⟩

theorem Listed.standing (listed : Listed event store) :
    store.Standing event.eventId event.status := by
  obtain ⟨row, mem, rfl⟩ := listed
  exact ⟨row, mem, rfl, rfl⟩

theorem Listed.named (listed : Listed event store)
    (journal : Journal store) : column event.eventId = event.eventId := by
  obtain ⟨row, mem, rfl⟩ := listed
  exact journal.named row mem

/-- The event is in flight with a new attempt, which is prepared. -/
theorem begun_of_beginAttempt {request : SettlementRequestN} {params : AttemptParams}
    (began : store.beginAttempt eventId request params = .ok (number, store'))
    (journal : Journal store) (named : column eventId = e) (within : store.Within mine e)
    (own : mine params) :
    Begun mine e number store' ∧ ∃ row ∈ store'.attemptRows.rows, row.eventId = e ∧
      row.attempt = number ∧ row.status = .prepared := by
  have after := journal.beginAttempt began
  obtain ⟨event, found, pending, rfl, free, rfl⟩ := Store.beginAttempt_eq_ok began
  obtain ⟨row, mem, id, rfl⟩ := Store.event_eq_some.mp found
  obtain ⟨row', inFlight, sameId, status, attempts⟩ : ∃ row' ∈ (store.events.modify (column eventId)
      (fun old => { old with status := .inFlight, attempts := row.attempts + 1, note := none })
      fun _ => rfl).rows, row'.eventId = e ∧ row'.status = .inFlight ∧
        row'.attempts = row.attempts + 1 :=
    ⟨_, Table.mem_changed.mpr (.inr ⟨row, mem, id, rfl⟩), id.trans named, rfl, rfl⟩
  refine ⟨⟨⟨⟨row', inFlight, sameId, status⟩, fun other inRows otherId => ?_⟩,
    fun other inRows otherId opens => ?_⟩, ?_⟩
  · rcases Table.mem_insertOrIgnore.mp inRows with old | ⟨rfl, _⟩
    · exact within other old otherId
    · exact own
  · exact ((after.last row' inFlight other inRows (otherId.trans sameId.symm) opens).2).trans attempts
  · exact ⟨_, Table.mem_insertOrIgnore.mpr (.inr ⟨rfl, free, fun _ _ => rfl⟩), named, rfl, rfl⟩

/-- A prepared attempt is signed with these bytes. -/
theorem signed_of_recordSigned {signature : JsString} {raw : Bytes} {lastValid : Nat}
    (begun : Begun mine e number store) (named : column eventId = e)
    (prepared : ∃ row ∈ store.attemptRows.rows, row.eventId = e ∧ row.attempt = number ∧
      row.status = .prepared) :
    Begun mine e number (store.recordSigned eventId number signature (base64Encode raw) lastValid) ∧
      (store.recordSigned eventId number signature (base64Encode raw) lastValid).HasSigned e raw := by
  have advances (old : StoredAttempt) := advances_signed old signature (base64Encode raw) lastValid
  refine ⟨⟨⟨begun.standing, fun other mem id => ?_⟩, fun other mem id opens => ?_⟩, ?_⟩
  · rcases Table.mem_changed.mp mem with ⟨old, _⟩ | ⟨old, inRows, _, rfl⟩
    · exact begun.within other old id
    · rw [(advances old).params]
      exact begun.within old inRows ((advances old).eventId.symm.trans id)
  · rcases Table.mem_changed.mp mem with ⟨old, _⟩ | ⟨old, inRows, key, rfl⟩
    · exact begun.only other old id opens
    · rw [(advances old).number]
      exact (Prod.mk.inj key).2
  · obtain ⟨row, mem, id, sameNumber, isPrepared⟩ := prepared
    refine ⟨_, Table.mem_changed.mpr (.inr ⟨row, mem, by rw [id, sameNumber, named], rfl⟩), ?_⟩
    rw [if_pos isPrepared]
    refine ⟨id, rfl, _, rfl, ?_⟩
    rw [column, toWellFormed_base64Encode, base64Decode_encode]

end OnTheWay

/-! ### What gives an event its status -/

section Status

variable {D : Deployment} {env : Environment D} {w w' : World D env.net} {status : EventStatus}

/-- The operation gives the event this status. -/
def Op.Marks (e : JsString) (status : EventStatus) : Op → Prop
  | .store (.beginAttempt eventId _ _) => column eventId = e ∧ status = .inFlight
  | .store (.setEventStatus eventId given _) => column eventId = e ∧ status = given.val
  | .store (.recordPaid eventId _ _ _ _) => column eventId = e ∧ status = .paid
  | _ => False

theorem Method.standing_of_apply {method : Method} {store : Store}
    (after : (method.apply store).2.Standing e status) :
    store.Standing e status ∨ (Op.store method).Marks e status := by
  obtain ⟨row, mem, id, rfl⟩ := after
  cases method with
  | beginAttempt eventId request params =>
      cases began : store.beginAttempt eventId request params with
      | error error =>
          simp only [Method.apply, began] at mem
          exact .inl ⟨row, mem, id, rfl⟩
      | ok result =>
          obtain ⟨attempt, store'⟩ := result
          simp only [Method.apply, began] at mem
          obtain ⟨_, _, _, _, _, rfl⟩ := Store.beginAttempt_eq_ok began
          rcases Table.mem_changed.mp mem with ⟨old, _⟩ | ⟨old, _, here, rfl⟩
          · exact .inl ⟨row, old, id, rfl⟩
          · exact .inr ⟨here.symm.trans id, rfl⟩
  | setEventStatus eventId given note =>
      rcases Table.mem_changed.mp mem with ⟨old, _⟩ | ⟨old, _, here, rfl⟩
      · exact .inl ⟨row, old, id, rfl⟩
      · exact .inr ⟨here.symm.trans id, rfl⟩
  | recordPaid eventId attempt record directEntries poolPayouts =>
      cases wrote : store.recordPaid eventId attempt record directEntries poolPayouts with
      | error error =>
          simp only [Method.apply, wrote] at mem
          exact .inl ⟨row, mem, id, rfl⟩
      | ok store' =>
          simp only [Method.apply, wrote] at mem
          obtain ⟨_, _, _, rfl⟩ := Store.recordPaid_eq_ok wrote
          rcases Table.mem_changed.mp mem with ⟨old, _⟩ | ⟨old, _, here, rfl⟩
          · exact .inl ⟨row, old, id, rfl⟩
          · exact .inr ⟨here.symm.trans id, rfl⟩
  | _ => exact .inl ⟨row, mem, id, rfl⟩

/-- Time makes events pending only. -/
theorem Passes.standing {net : Network} {isDate : JsString → Bool} {w w' : World D net}
    (passes : Passes isDate w w') (after : w'.store.Standing e status) (settled : status ≠ .pending) :
    w.store.Standing e status := by
  obtain ⟨row, mem, id, rfl⟩ := after
  rcases (Store.Queues.of_enqueues passes.store).added row mem with old | ⟨pending, _⟩
  · exact ⟨row, old, id, rfl⟩
  · exact absurd pending settled

/-- An event that was not pending keeps its status until an operation gives it
another. -/
theorem step.standing {op : Op} {reply : Except Thrown op.Reply} (moved : step env w op reply w')
    (after : w'.store.Standing e status) (settled : status ≠ .pending) :
    w.store.Standing e status ∨ op.Marks e status := by
  obtain ⟨middle, replies, passes⟩ := moved
  have before := passes.standing after settled
  cases op with
  | store method =>
      obtain ⟨_, rfl⟩ := replies
      exact Method.standing_of_apply before
  | rpc provider call =>
      cases reply with
      | ok answer =>
          obtain ⟨_, given, _, rfl⟩ := replies
          exact .inl before
      | error error =>
          obtain ⟨_, given, _, rfl⟩ := replies
          exact .inl before
  | polls =>
      obtain ⟨_, rfl⟩ := replies
      exact .inl before
  | _ =>
      cases replies
      exact .inl before

/-- Between two commands an event becomes pending or needs attention, and nothing
else. -/
theorem outside.standing (acted : outside env w w') (after : w'.store.Standing e status)
    (settled : status ≠ .pending) (unflagged : status ≠ .needsAttention) :
    w.store.Standing e status := by
  rcases acted with passes | ⟨eventId, note, passes⟩
  · exact passes.standing after settled
  · obtain ⟨row, mem, id, rfl⟩ := passes.standing after settled
    rcases Table.mem_changed.mp mem with ⟨old, _⟩ | ⟨old, _, _, rfl⟩
    · exact ⟨row, old, id, rfl⟩
    · exact absurd rfl unflagged

theorem status_eq_some {net : Network} {w : World D net} {eventId : JsString} :
    w.status eventId = some status ↔ w.store.Standing (column eventId) status := by
  refine ⟨fun stands => ?_, Store.event_of_standing⟩
  obtain ⟨event, found, rfl⟩ := Option.map_eq_some_iff.mp stands
  obtain ⟨row, mem, id, rfl⟩ := Store.event_eq_some.mp found
  exact ⟨row, mem, id, rfl⟩

end Status

end Synxed.Studio
