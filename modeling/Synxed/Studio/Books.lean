import Synxed.Studio.Ledger
import Synxed.Studio.Settled

/-!
What the worker's database says, and what the chain confirms of it.

The database is `Filed` when every event stands under its id and every attempt
was made for an event, in the worker's namespace. The `Books` are right when
what it says of a paid event is what the event's creating transaction says.

* `FiledBy.of_apply`, `Books.of_apply`: what a method must know to keep this.
* `FiledBy.enqueues`, `Books.enqueues`: enqueuing keeps it.
-/

namespace Synxed.Studio

open Synxed.Lib Synxed.Program Synxed.Sdk

variable {D : Deployment} {H : Host} {ns : Pubkey} {net : Network} {store store' : Store}
  {cluster cluster' : Cluster D} {recorded : List JsString} {eventId : JsString} {method : Method}
  {mine : JsString → AttemptParams → Prop}

/-! ### Events and attempts -/

/-- The row of one event, at two moments. -/
structure SameEvent (row row' : EventRow) : Prop where
  eventId : row'.eventId = row.eventId
  request : row'.request = row.request
  beneficiaryIds : row'.beneficiaryIds = row.beneficiaryIds

theorem SameEvent.refl (row : EventRow) : SameEvent row row := ⟨rfl, rfl, rfl⟩

theorem SameEvent.trans {row row' row'' : EventRow} (first : SameEvent row row')
    (second : SameEvent row' row'') : SameEvent row row'' :=
  ⟨second.eventId.trans first.eventId, second.request.trans first.request,
    second.beneficiaryIds.trans first.beneficiaryIds⟩

/-- The row of one attempt, at two moments. -/
structure SameAttempt (attempt attempt' : StoredAttempt) : Prop where
  eventId : attempt'.eventId = attempt.eventId
  request : attempt'.request = attempt.request
  params : attempt'.params = attempt.params

theorem SameAttempt.refl (attempt : StoredAttempt) : SameAttempt attempt attempt := ⟨rfl, rfl, rfl⟩

/-- Every event stays, with its request. -/
def Store.Keeps (store store' : Store) : Prop :=
  ∀ row ∈ store.events.rows, ∃ row' ∈ store'.events.rows, SameEvent row row'

theorem Store.Keeps.refl (store : Store) : store.Keeps store := fun row mem => ⟨row, mem, .refl row⟩

theorem Store.Keeps.trans {store store' store'' : Store} (first : store.Keeps store')
    (second : store'.Keeps store'') : store.Keeps store'' := by
  intro row mem
  obtain ⟨row', mem', same⟩ := first row mem
  obtain ⟨row'', mem'', same'⟩ := second row' mem'
  exact ⟨row'', mem'', same.trans same'⟩

/-- A changed events table whose rows keep their events. -/
theorem Store.Keeps.of_modify {f : EventRow → EventRow} {k : JsString}
    (rows : store'.events.rows =
      store.events.rows.map fun row => if row.eventId = k then f row else row)
    (same : ∀ row, SameEvent row (f row)) : store.Keeps store' := by
  intro row mem
  refine ⟨if row.eventId = k then f row else row, ?_, ?_⟩
  · rw [rows]
    exact List.mem_map_of_mem mem
  · split
    · exact same row
    · exact .refl row

theorem Method.keeps (store : Store) (method : Method) : store.Keeps (method.apply store).2 := by
  cases method with
  | beginAttempt eventId request params =>
      cases began : store.beginAttempt eventId request params with
      | error error =>
          simp only [Method.apply, began]
          exact .refl store
      | ok result =>
          obtain ⟨attempt, store'⟩ := result
          simp only [Method.apply, began]
          obtain ⟨_, _, _, _, _, rfl⟩ := Store.beginAttempt_eq_ok began
          exact .of_modify rfl fun row => ⟨rfl, rfl, rfl⟩
  | setEventStatus eventId status note => exact .of_modify rfl fun row => ⟨rfl, rfl, rfl⟩
  | recordPaid eventId attempt record directEntries poolPayouts =>
      cases wrote : store.recordPaid eventId attempt record directEntries poolPayouts with
      | error error =>
          simp only [Method.apply, wrote]
          exact .refl store
      | ok store' =>
          simp only [Method.apply, wrote]
          obtain ⟨_, _, _, rfl⟩ := Store.recordPaid_eq_ok wrote
          exact .of_modify rfl fun row => ⟨rfl, rfl, rfl⟩
  | _ => exact .refl store

/-- No method adds an event, and only a recording makes one paid. -/
theorem Method.mem_events {row' : EventRow} (mem : row' ∈ (method.apply store).2.events.rows) :
    ∃ row ∈ store.events.rows, SameEvent row row' ∧
      (row'.status = .paid → row.status = .paid ∨ row.eventId ∈ method.records store) := by
  cases method with
  | beginAttempt eventId request params =>
      cases began : store.beginAttempt eventId request params with
      | error error =>
          simp only [Method.apply, began] at mem
          exact ⟨row', mem, .refl row', .inl⟩
      | ok result =>
          obtain ⟨attempt, store'⟩ := result
          simp only [Method.apply, began] at mem
          obtain ⟨_, _, _, _, _, rfl⟩ := Store.beginAttempt_eq_ok began
          rcases Table.mem_changed.mp mem with ⟨old, _⟩ | ⟨old, inRows, _, rfl⟩
          · exact ⟨row', old, .refl row', .inl⟩
          · exact ⟨old, inRows, ⟨rfl, rfl, rfl⟩, fun paid => by cases paid⟩
  | setEventStatus eventId status note =>
      rcases Table.mem_changed.mp mem with ⟨old, _⟩ | ⟨old, inRows, _, rfl⟩
      · exact ⟨row', old, .refl row', .inl⟩
      · exact ⟨old, inRows, ⟨rfl, rfl, rfl⟩, fun paid => absurd paid status.property⟩
  | recordPaid eventId attempt record directEntries poolPayouts =>
      cases wrote : store.recordPaid eventId attempt record directEntries poolPayouts with
      | error error =>
          simp only [Method.apply, wrote] at mem
          exact ⟨row', mem, .refl row', .inl⟩
      | ok store' =>
          simp only [Method.apply, wrote] at mem
          obtain ⟨_, _, _, rfl⟩ := Store.recordPaid_eq_ok wrote
          rcases Table.mem_changed.mp mem with ⟨old, _⟩ | ⟨old, inRows, here, rfl⟩
          · exact ⟨row', old, .refl row', .inl⟩
          · refine ⟨old, inRows, ⟨rfl, rfl, rfl⟩, fun _ => .inr ?_⟩
            simp only [Method.records, wrote, here, List.mem_singleton]
  | _ => exact ⟨row', mem, .refl row', .inl⟩

/-- Every attempt stays, for what it was made. -/
theorem Method.keeps_attempts (store : Store) (method : Method) :
    ∀ attempt ∈ store.attemptRows.rows,
      ∃ attempt' ∈ (method.apply store).2.attemptRows.rows, SameAttempt attempt attempt' := by
  intro attempt mem
  have changed {f : StoredAttempt → StoredAttempt} {k : JsString × Nat}
      (same : ∀ row, SameAttempt row (f row)) :
      ∃ attempt' ∈ store.attemptRows.rows.map fun row =>
        if (row.eventId, row.attempt) = k then f row else row, SameAttempt attempt attempt' := by
    refine ⟨_, List.mem_map_of_mem mem, ?_⟩
    split
    · exact same attempt
    · exact .refl attempt
  cases method with
  | beginAttempt eventId request params =>
      cases began : store.beginAttempt eventId request params with
      | error error =>
          simp only [Method.apply, began]
          exact ⟨attempt, mem, .refl attempt⟩
      | ok result =>
          obtain ⟨number, store'⟩ := result
          obtain ⟨_, _, _, _, _, rfl⟩ := Store.beginAttempt_eq_ok began
          simp only [Method.apply, began]
          exact ⟨attempt, Table.mem_insertOrIgnore.mpr (.inl mem), .refl attempt⟩
  | recordSigned eventId number signature raw lastValid =>
      refine changed fun row => ?_
      split <;> exact ⟨rfl, rfl, rfl⟩
  | setAttemptStatus eventId number status => exact changed fun row => ⟨rfl, rfl, rfl⟩
  | recordPaid eventId number record directEntries poolPayouts =>
      cases wrote : store.recordPaid eventId number record directEntries poolPayouts with
      | error error =>
          simp only [Method.apply, wrote]
          exact ⟨attempt, mem, .refl attempt⟩
      | ok store' =>
          obtain ⟨_, _, _, rfl⟩ := Store.recordPaid_eq_ok wrote
          simp only [Method.apply, wrote]
          cases number with
          | none => exact ⟨attempt, mem, .refl attempt⟩
          | some number => exact changed fun row => ⟨rfl, rfl, rfl⟩
  | _ => exact ⟨attempt, mem, .refl attempt⟩

/-- Only the beginning of an attempt adds one. -/
theorem Method.mem_attemptRows {attempt' : StoredAttempt}
    (mem : attempt' ∈ (method.apply store).2.attemptRows.rows) :
    (∃ attempt ∈ store.attemptRows.rows, SameAttempt attempt attempt') ∨
      ∃ eventId request params, method = .beginAttempt eventId request params ∧
        attempt'.eventId = column eventId ∧ attempt'.request = request ∧ attempt'.params = params := by
  cases method with
  | beginAttempt eventId request params =>
      cases began : store.beginAttempt eventId request params with
      | error error =>
          simp only [Method.apply, began] at mem
          exact .inl ⟨attempt', mem, .refl attempt'⟩
      | ok result =>
          obtain ⟨attempt, store'⟩ := result
          simp only [Method.apply, began] at mem
          obtain ⟨_, _, _, _, _, rfl⟩ := Store.beginAttempt_eq_ok began
          rcases Table.mem_insertOrIgnore.mp mem with old | ⟨rfl, _⟩
          · exact .inl ⟨attempt', old, .refl attempt'⟩
          · exact .inr ⟨eventId, request, params, rfl, rfl, rfl, rfl⟩
  | recordSigned eventId attempt signature raw lastValid =>
      rcases Table.mem_changed.mp mem with ⟨old, _⟩ | ⟨old, inRows, _, rfl⟩
      · exact .inl ⟨attempt', old, .refl attempt'⟩
      · refine .inl ⟨old, inRows, ?_⟩
        split <;> exact ⟨rfl, rfl, rfl⟩
  | setAttemptStatus eventId attempt status =>
      rcases Table.mem_changed.mp mem with ⟨old, _⟩ | ⟨old, inRows, _, rfl⟩
      · exact .inl ⟨attempt', old, .refl attempt'⟩
      · exact .inl ⟨old, inRows, rfl, rfl, rfl⟩
  | recordPaid eventId attempt record directEntries poolPayouts =>
      cases wrote : store.recordPaid eventId attempt record directEntries poolPayouts with
      | error error =>
          simp only [Method.apply, wrote] at mem
          exact .inl ⟨attempt', mem, .refl attempt'⟩
      | ok store' =>
          simp only [Method.apply, wrote] at mem
          obtain ⟨_, _, _, rfl⟩ := Store.recordPaid_eq_ok wrote
          cases attempt with
          | none => exact .inl ⟨attempt', mem, .refl attempt'⟩
          | some attempt =>
              rcases Table.mem_changed.mp mem with ⟨old, _⟩ | ⟨old, inRows, _, rfl⟩
              · exact .inl ⟨attempt', old, .refl attempt'⟩
              · exact .inl ⟨old, inRows, rfl, rfl, rfl⟩
  | _ => exact .inl ⟨attempt', mem, .refl attempt'⟩

/-! ### The files -/

/-- An attempt for the request of its event, with parameters that are `mine` for it. -/
def OwnAttempt (mine : JsString → AttemptParams → Prop) (store : Store) (attempt : StoredAttempt) :
    Prop :=
  mine attempt.eventId attempt.params ∧
    ∃ row ∈ store.events.rows, row.eventId = attempt.eventId ∧ row.request = attempt.request

theorem OwnAttempt.keeps {attempt attempt' : StoredAttempt} (own : OwnAttempt mine store attempt)
    (same : SameAttempt attempt attempt') (keeps : store.Keeps store') :
    OwnAttempt mine store' attempt' := by
  obtain ⟨made, row, mem, id, request⟩ := own
  obtain ⟨row', mem', sameEvent⟩ := keeps row mem
  refine ⟨by rwa [same.params, same.eventId], row', mem', ?_, ?_⟩
  · rw [sameEvent.eventId, id, same.eventId]
  · rw [sameEvent.request, request, same.request]

/-- Events stand under their ids, and attempts are for the requests of their events. -/
structure FiledBy (mine : JsString → AttemptParams → Prop) (store : Store) : Prop where
  named : ∀ row ∈ store.events.rows, row.eventId = column row.request.eventId
  attempts : ∀ attempt ∈ store.attemptRows.rows, OwnAttempt mine store attempt

/-- An attempt begins for the request of its event. -/
def Method.BeginsBy (mine : JsString → AttemptParams → Prop) (store : Store) : Method → Prop
  | beginAttempt eventId request params =>
      mine (column eventId) params ∧
        ∃ row ∈ store.events.rows, row.eventId = column eventId ∧ row.request = request
  | _ => True

section MadeIn

variable (D ns)

/-- Made by a worker of the deployed program, in the namespace. -/
def MadeIn (params : AttemptParams) : Prop :=
  params.programId = toBase58 D.programId ∧ params.ns = toBase58 ns

/-- The attempts are the worker's own. -/
abbrev Filed : Store → Prop := FiledBy fun _ => MadeIn D ns

/-- The attempts of this event are. -/
abbrev FiledFor (e : JsString) : Store → Prop := FiledBy fun other params => other = e → MadeIn D ns params

/-- An attempt begins in the worker's namespace. -/
abbrev Method.BeginsOwn (store : Store) (method : Method) : Prop :=
  method.BeginsBy (fun _ => MadeIn D ns) store

end MadeIn

theorem FiledBy.empty : FiledBy mine .empty where
  named _ mem := by cases mem
  attempts _ mem := by cases mem

theorem FiledBy.of_apply (filed : FiledBy mine store) (begins : method.BeginsBy mine store) :
    FiledBy mine (method.apply store).2 where
  named row' mem := by
    obtain ⟨row, inRows, same, _⟩ := Method.mem_events mem
    rw [same.eventId, same.request]
    exact filed.named row inRows
  attempts attempt' mem := by
    rcases Method.mem_attemptRows mem with ⟨attempt, inRows, same⟩ |
      ⟨eventId, request, params, rfl, id, rfl, rfl⟩
    · exact (filed.attempts attempt inRows).keeps same (method.keeps store)
    · obtain ⟨made, row, inRows, sameId, sameRequest⟩ := begins
      obtain ⟨row', inRows', same⟩ := Method.keeps store (.beginAttempt eventId _ _) row inRows
      exact ⟨id ▸ made, row', inRows', by rw [same.eventId, sameId, id],
        by rw [same.request, sameRequest]⟩

theorem FiledBy.mono {mine' : JsString → AttemptParams → Prop} (filed : FiledBy mine store)
    (weaker : ∀ attempt ∈ store.attemptRows.rows, mine attempt.eventId attempt.params →
      mine' attempt.eventId attempt.params) : FiledBy mine' store where
  named := filed.named
  attempts attempt mem := (filed.attempts attempt mem).imp (weaker attempt mem) fun row => row

theorem Filed.for (filed : Filed D ns store) (e : JsString) : FiledFor D ns e store :=
  filed.mono fun _ _ made _ => made

/-- Enqueuing adds a pending event that nothing names yet. -/
theorem Store.enqueue_keeps {request : SettlementRequestN} {beneficiaryIds : List (JsString × JsString)}
    {now : JsString} {answer : Store.Enqueued}
    (h : store.enqueue request beneficiaryIds now = .ok (answer, store')) :
    store.Keeps store' ∧ store'.attemptRows = store.attemptRows ∧
      ∀ row ∈ store'.events.rows, row ∈ store.events.rows ∨
        row.eventId = column row.request.eventId ∧ row.status = .pending ∧
          ∀ old ∈ store.events.rows, old.eventId ≠ row.eventId := by
  rcases Store.enqueue_eq_ok h with rfl | ⟨absent, rfl⟩
  · exact ⟨.refl _, rfl, fun row mem => .inl mem⟩
  · refine ⟨fun row mem => ⟨row, Table.mem_insertOrIgnore.mpr (.inl mem), .refl row⟩, rfl,
      fun row mem => ?_⟩
    rcases Table.mem_insertOrIgnore.mp mem with old | ⟨rfl, _⟩
    · exact .inl old
    · exact .inr ⟨rfl, rfl, Table.get?_eq_none.mp absent⟩

theorem FiledBy.enqueue (filed : FiledBy mine store) {request : SettlementRequestN}
    {beneficiaryIds : List (JsString × JsString)} {now : JsString} {answer : Store.Enqueued}
    (h : store.enqueue request beneficiaryIds now = .ok (answer, store')) : FiledBy mine store' := by
  obtain ⟨keeps, attempts, added⟩ := Store.enqueue_keeps h
  refine ⟨fun row mem => ?_, fun attempt mem => ?_⟩
  · rcases added row mem with old | ⟨named, _⟩
    · exact filed.named row old
    · exact named
  · rw [attempts] at mem
    exact (filed.attempts attempt mem).keeps (.refl attempt) keeps

theorem Store.keeps_of_enqueues {isDate : JsString → Bool} (enqueued : Enqueues isDate store store') :
    store.Keeps store' ∧ store'.attemptRows = store.attemptRows := by
  induction enqueued with
  | refl => exact ⟨.refl store, rfl⟩
  | tail _ last ih =>
      obtain ⟨_, _, _, _, _, added⟩ := last
      obtain ⟨keeps, attempts, _⟩ := Store.enqueue_keeps added
      exact ⟨ih.1.trans keeps, attempts.trans ih.2⟩

theorem FiledBy.enqueues {isDate : JsString → Bool} (filed : FiledBy mine store)
    (enqueued : Enqueues isDate store store') : FiledBy mine store' := by
  induction enqueued with
  | refl => exact filed
  | tail _ last ih =>
      obtain ⟨_, _, _, _, _, added⟩ := last
      exact ih.enqueue added

/-- No step loses an event. -/
theorem step.keeps {env : Environment D} {w w' : World D env.net} {op : Op} {reply : Except Thrown op.Reply} (moved : step env w op reply w') :
    w.store.Keeps w'.store := by
  obtain ⟨middle, replies, passes⟩ := moved
  refine Store.Keeps.trans ?_ (Store.keeps_of_enqueues passes.store).1
  cases op with
  | store method =>
      obtain ⟨_, rfl⟩ := replies
      exact method.keeps w.store
  | rpc provider call =>
      cases reply with
      | ok answer =>
          obtain ⟨_, given, _, rfl⟩ := replies
          exact .refl _
      | error error =>
          obtain ⟨_, given, _, rfl⟩ := replies
          exact .refl _
  | polls =>
      obtain ⟨_, rfl⟩ := replies
      exact .refl _
  | _ =>
      cases replies
      exact .refl _

/-! ### What was read -/

/-- An event as it was read. -/
structure Snapshot (event : StoredEvent) (w : World D net) : Prop where
  named : event.eventId = column event.request.eventId
  stored : ∃ row ∈ w.store.events.rows, row.eventId = event.eventId ∧ row.request = event.request ∧
    row.beneficiaryIds = event.beneficiaryIds

theorem Snapshot.keeps {event : StoredEvent} {w w' : World D net} (snapshot : Snapshot event w)
    (keeps : w.store.Keeps w'.store) : Snapshot event w' := by
  obtain ⟨named, row, mem, id, request, ids⟩ := snapshot
  obtain ⟨row', mem', same⟩ := keeps row mem
  exact ⟨named, row', mem', same.eventId.trans id, same.request.trans request,
    same.beneficiaryIds.trans ids⟩

/-- The id of an event is what its column holds. -/
theorem Snapshot.column_eventId {event : StoredEvent} {w : World D net}
    (snapshot : Snapshot event w) : column event.eventId = event.eventId := by
  rw [snapshot.named, column_column]

variable (D ns) in
/-- What was stored to be reconciled: the event's request, in this namespace. -/
structure Stored (event : StoredEvent) (stored : StoredRequest) : Prop where
  request : stored.request = event.request
  programId : stored.params.programId = toBase58 D.programId
  ns : stored.params.ns = toBase58 ns

theorem FiledBy.snapshot {w : World D net} (filed : FiledBy mine w.store) {row : EventRow}
    (mem : row ∈ w.store.events.rows) : Snapshot row.toStoredEvent w :=
  ⟨filed.named row mem, row, mem, rfl, rfl, rfl⟩

/-- The attempts of an event are for its own request. -/
theorem FiledFor.stored_of_mem_attempts {w : World D net}
    (filed : FiledFor D ns (column eventId) w.store) {event : StoredEvent} {attempt : StoredAttempt}
    (snapshot : Snapshot event w) (sameId : event.eventId = column eventId)
    (mem : attempt ∈ w.store.attempts eventId) :
    Stored D ns event (WorkerOptions.storedRequest attempt) := by
  obtain ⟨inRows, ofEvent⟩ := Store.mem_attempts.mp mem
  obtain ⟨made, row, inEvents, id, request⟩ := filed.attempts attempt inRows
  obtain ⟨row', inEvents', id', request', _⟩ := snapshot.stored
  obtain rfl : row = row' := List.inj_on_of_nodup_map w.store.events.unique inEvents inEvents'
    (by rw [id, id', ofEvent, sameId])
  obtain ⟨programId, sameNs⟩ := made ofEvent
  exact ⟨request.symm.trans request', programId, sameNs⟩

/-- Each stored request is kept once. -/
theorem mem_distinctRequests {stored : StoredRequest} {requests : List StoredRequest} :
    stored ∈ distinctRequests requests ↔ stored ∈ requests := by
  have all (requests seen : List StoredRequest) : stored ∈ requests.foldl (fun seen stored =>
      if stored ∈ seen then seen else seen ++ [stored]) seen ↔ stored ∈ seen ∨ stored ∈ requests := by
    induction requests generalizing seen with
    | nil => simp
    | cons request rest ih =>
        rw [List.foldl_cons, ih, List.mem_cons]
        split
        · next old =>
            constructor
            · rintro (here | later)
              · exact .inl here
              · exact .inr (.inr later)
            · rintro (here | rfl | later)
              · exact .inl here
              · exact .inl old
              · exact .inr later
        · rw [List.mem_append, List.mem_singleton, or_assoc]
  rw [distinctRequests, all, or_iff_right List.not_mem_nil]

/-- The requests of an event are its own, whatever the scale. -/
theorem stored_of_mem_requestsOf {options : WorkerOptions} (program : options.programId = D.programId)
    (sameNs : options.ns = ns) {event : StoredEvent} {attempts : List StoredAttempt}
    (own : ∀ attempt ∈ attempts, Stored D ns event (WorkerOptions.storedRequest attempt))
    {stored : StoredRequest} (mem : stored ∈ options.requestsOf event attempts) :
    Stored D ns event stored := by
  unfold WorkerOptions.requestsOf at mem
  split at mem
  · rw [List.mem_singleton.mp mem]
    exact ⟨rfl, congrArg toBase58 program, congrArg toBase58 sameNs⟩
  · obtain ⟨attempt, inside, rfl⟩ := List.mem_map.mp (mem_distinctRequests.mp mem)
    exact own attempt inside

/-! ### The books -/

variable (H ns) in
/-- The event was settled on chain, and the rows its creating transaction gives
it are written. -/
def Booked (store : Store) (cluster : Cluster D) (eventId : JsString) : Prop :=
  ∃ row ∈ store.events.rows, row.eventId = eventId ∧ ∃ signature directEntries poolPayouts,
    SettledBy H ns cluster row.request row.beneficiaryIds signature directEntries poolPayouts ∧
      store.Written eventId signature directEntries poolPayouts

theorem Booked.keeps (booked : Booked H ns store cluster eventId) (keeps : store.Keeps store')
    (added : Store.Extends store store') : Booked H ns store' cluster eventId := by
  obtain ⟨row, mem, id, signature, directEntries, poolPayouts, settled, written⟩ := booked
  obtain ⟨row', mem', same⟩ := keeps row mem
  refine ⟨row', mem', same.eventId.trans id, signature, directEntries, poolPayouts, ?_,
    written.mono added⟩
  rw [same.request, same.beneficiaryIds]
  exact settled

theorem Booked.later (booked : Booked H ns store cluster eventId)
    (later : Cluster.Later net cluster cluster') : Booked H ns store cluster' eventId := by
  obtain ⟨row, mem, id, signature, directEntries, poolPayouts, settled, written⟩ := booked
  exact ⟨row, mem, id, signature, directEntries, poolPayouts, settled.later later, written⟩

variable (H ns) in
/-- What the database says of paid events is what the chain says. -/
structure Books (store : Store) (cluster : Cluster D) (recorded : List JsString) : Prop extends
    toFiled : Filed D ns store where
  paid : ∀ row ∈ store.events.rows, row.status = .paid → row.eventId ∈ recorded
  booked : ∀ eventId ∈ recorded, Booked H ns store cluster eventId
  settlementRows : ∀ row ∈ store.settlements.rows, row.eventId ∈ recorded
  ledgerRows : ∀ row ∈ store.ledgerRows.rows, row.eventId ∈ recorded
  poolRows : ∀ row ∈ store.poolRows.rows, row.eventId ∈ recorded

variable (H ns) in
/-- A recording writes what the event's creating transaction says. -/
def Method.Proves (store : Store) (cluster : Cluster D) : Method → Prop
  | recordPaid eventId _ record directEntries poolPayouts =>
      ∃ row ∈ store.events.rows, row.eventId = column eventId ∧
        SettledBy H ns cluster row.request row.beneficiaryIds record.signature directEntries
          poolPayouts
  | _ => True

namespace Books

theorem empty : Books H ns .empty cluster [] where
  toFiled := .empty
  paid _ mem := by cases mem
  booked _ mem := by cases mem
  settlementRows _ mem := by cases mem
  ledgerRows _ mem := by cases mem
  poolRows _ mem := by cases mem

variable (books : Books H ns store cluster recorded)

include books

theorem later (later : Cluster.Later net cluster cluster') : Books H ns store cluster' recorded :=
  { books with booked := fun eventId mem => (books.booked eventId mem).later later }

/-- A change that leaves the ledger alone. -/
theorem of_events (filed : Filed D ns store') (same : store.SameLedger store')
    (keeps : store.Keeps store')
    (paid : ∀ row ∈ store'.events.rows, row.status = .paid → row.eventId ∈ recorded) :
    Books H ns store' cluster recorded where
  toFiled := filed
  paid := paid
  booked eventId mem := (books.booked eventId mem).keeps keeps same.toExtends
  settlementRows := by
    rw [same.settlements]
    exact books.settlementRows
  ledgerRows := by
    rw [same.ledgerRows]
    exact books.ledgerRows
  poolRows := by
    rw [same.poolRows]
    exact books.poolRows

theorem enqueue {request : SettlementRequestN} {beneficiaryIds : List (JsString × JsString)}
    {now : JsString} {answer : Store.Enqueued}
    (h : store.enqueue request beneficiaryIds now = .ok (answer, store')) :
    Books H ns store' cluster recorded ∧ store.SameLedger store' := by
  obtain ⟨keeps, _, added⟩ := Store.enqueue_keeps h
  have same : store.SameLedger store' := by
    rcases Store.enqueue_eq_ok h with rfl | ⟨_, rfl⟩ <;> exact ⟨rfl, rfl, rfl⟩
  refine ⟨books.of_events (books.toFiled.enqueue h) same keeps fun row mem paid => ?_, same⟩
  rcases added row mem with old | ⟨_, pending, _⟩
  · exact books.paid row old paid
  · rw [pending] at paid
    cases paid

theorem enqueues {isDate : JsString → Bool} (enqueued : Enqueues isDate store store') :
    Books H ns store' cluster recorded ∧ store.SameLedger store' := by
  induction enqueued with
  | refl => exact ⟨books, rfl, rfl, rfl⟩
  | tail _ last ih =>
      obtain ⟨_, _, _, _, _, added⟩ := last
      obtain ⟨before, same⟩ := ih
      obtain ⟨after, same'⟩ := before.enqueue added
      exact ⟨after, same'.settlements.trans same.settlements,
        same'.ledgerRows.trans same.ledgerRows, same'.poolRows.trans same.poolRows⟩

/-- An event is recorded from what its creating transaction says; recording it
again writes nothing. -/
theorem recordPaid (grown : cluster.Grown net) {attempt : Option Nat} {record : SettlementRecord}
    {directEntries : List LedgerEntry} {poolPayouts : List PayoutLine}
    (h : store.recordPaid eventId attempt record directEntries poolPayouts = .ok store')
    (filed : Filed D ns store') (keeps : store.Keeps store')
    (paid : ∀ row ∈ store'.events.rows, row.status = .paid → row.eventId ∈ recorded ++ [column eventId])
    (proves : (Method.recordPaid eventId attempt record directEntries poolPayouts).Proves H ns store
      cluster) :
    Books H ns store' cluster (recorded ++ [column eventId]) ∧
      ∀ other, column other ∈ recorded → store'.ledgerOf other = store.ledgerOf other := by
  obtain ⟨event, inRows, id, settled⟩ := proves
  obtain ⟨ledgerRows, _, inserted, same⟩ := Store.recordPaid_eq_ok h
  have written := Store.recordPaid_written h
  refine ⟨⟨filed, paid, fun other mem => ?_, fun row mem => ?_, fun row mem => ?_, fun row mem => ?_⟩,
    fun other mem => ?_⟩
  · rcases List.mem_append.mp mem with before | now
    · exact (books.booked other before).keeps keeps (Store.recordPaid_extends h)
    · obtain rfl := List.mem_singleton.mp now
      obtain ⟨event', inRows', sameEvent⟩ := keeps event inRows
      refine ⟨event', inRows', sameEvent.eventId.trans id, record.signature, directEntries,
        poolPayouts, ?_, Store.written_column.mpr written⟩
      rw [sameEvent.request, sameEvent.beneficiaryIds]
      exact settled
  · rw [same] at mem
    rcases Table.mem_insertOrIgnore.mp mem with old | ⟨rfl, _⟩
    · exact List.mem_append_left _ (books.settlementRows row old)
    · exact List.mem_append_right _ (List.mem_singleton.mpr rfl)
  · rw [same] at mem
    rcases Store.mem_insertEntries inserted mem with old | ours
    · exact List.mem_append_left _ (books.ledgerRows row old)
    · exact List.mem_append_right _ (List.mem_singleton.mpr ours)
  · rw [same] at mem
    rcases Store.mem_insertPayouts mem with old | ours
    · exact List.mem_append_left _ (books.poolRows row old)
    · exact List.mem_append_right _ (List.mem_singleton.mpr ours)
  · by_cases here : column other = column eventId
    · -- the event was recorded before, from the same transaction
      obtain ⟨event', inRows', id', signature, directEntries', poolPayouts', settled', written'⟩ :=
        books.booked _ mem
      obtain rfl : event' = event := List.inj_on_of_nodup_map store.events.unique inRows' inRows
        (id'.trans (here.trans id.symm))
      obtain ⟨rfl, rfl, rfl⟩ := settled'.unique settled grown
      rw [here] at written'
      obtain ⟨settlements, ledger, pools⟩ := Store.recordPaid_again h (Store.written_column.mp written')
      exact Store.SameLedger.ledgerOf ⟨settlements, ledger, pools⟩ other
    · exact Store.recordPaid_other h here

/-- What a method must know to keep the books. -/
theorem of_apply (grown : cluster.Grown net) (begins : method.BeginsOwn D ns store)
    (proves : method.Proves H ns store cluster) :
    Books H ns (method.apply store).2 cluster (recorded ++ method.records store) ∧
      ∀ other, column other ∈ recorded →
        (method.apply store).2.ledgerOf other = store.ledgerOf other := by
  have filed := books.toFiled.of_apply begins
  have paid : ∀ row ∈ (method.apply store).2.events.rows, row.status = .paid →
      row.eventId ∈ recorded ++ method.records store := by
    intro row' mem isPaid
    obtain ⟨row, inRows, same, only⟩ := Method.mem_events mem
    rw [same.eventId]
    rcases only isPaid with before | now
    · exact List.mem_append_left _ (books.paid row inRows before)
    · exact List.mem_append_right _ now
  have unrecorded (silent : method.records store = [])
      (same : store.SameLedger (method.apply store).2) :
      Books H ns (method.apply store).2 cluster (recorded ++ method.records store) ∧
        ∀ other, column other ∈ recorded →
          (method.apply store).2.ledgerOf other = store.ledgerOf other := by
    rw [silent, List.append_nil] at paid ⊢
    exact ⟨books.of_events filed same (method.keeps store) paid, fun other _ => same.ledgerOf other⟩
  cases method with
  | recordPaid eventId attempt record directEntries poolPayouts =>
      cases wrote : store.recordPaid eventId attempt record directEntries poolPayouts with
      | error error =>
          refine unrecorded ?_ ?_
          · simp only [Method.records, wrote]
          · simp only [Method.apply, wrote]
            exact ⟨rfl, rfl, rfl⟩
      | ok store' =>
          have keeps := Method.keeps store (.recordPaid eventId attempt record directEntries poolPayouts)
          simp only [Method.apply, Method.records, wrote] at filed paid keeps ⊢
          exact books.recordPaid grown wrote filed keeps paid proves
  | beginAttempt eventId request params =>
      refine unrecorded rfl ?_
      cases began : store.beginAttempt eventId request params with
      | error error =>
          simp only [Method.apply, began]
          exact ⟨rfl, rfl, rfl⟩
      | ok result =>
          obtain ⟨attempt, store'⟩ := result
          obtain ⟨_, _, _, _, _, rfl⟩ := Store.beginAttempt_eq_ok began
          simp only [Method.apply, began]
          exact ⟨rfl, rfl, rfl⟩
  | _ => exact unrecorded rfl ⟨rfl, rfl, rfl⟩

end Books

end Synxed.Studio
