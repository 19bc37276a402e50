import Synxed.Studio.Credits

/-!
The ledger over whole runs of a studio.

A studio is trusted when each of its workers hears the truth from its primary provider
or confirms with a second one that tells it.

* `Balanced.of_apply`: a recording that a finalized transaction backs keeps what the
  ledger tables hold of every event.
* `Deciding.backs`: a trusted worker records nothing else.
* `ledger_conserved_iff`: so the tables account for what was settled, as long as no share
  that was paid something clashes with one before it.
-/

namespace Synxed.Studio

open Synxed.Lib Synxed.Program Synxed.Sdk

variable {D : Deployment} {env : Environment D} {H : Host} {ns : Pubkey} {net : Network}
  {store store' : Store}
  {cluster cluster' : Cluster D} {recorded : List JsString} {method : Method}
  {configured : WorkerOptions → Prop}

/-! ### The invariant -/

variable (H ns configured) in
/-- The tables hold of every recorded event what its first recording wrote, and the
transaction that settled it backs this. -/
structure Balanced (store : Store) (cluster : Cluster D) (recorded : List JsString) : Prop extends
    Books H ns store cluster recorded where
  signed : ∀ row ∈ store.settlements.rows, row.signature = column row.record.signature
  written : ∀ eventId ∈ recorded, ∃ event ∈ store.events.rows, event.eventId = eventId ∧
    ∃ stored rows, StoredAs configured store event stored ∧ Backed H ns cluster event stored rows ∧
      store.ledgerOf eventId = .written eventId rows

variable (H ns configured) in
/-- A recording is of rows that a finalized transaction backs. -/
def Method.Backs (store : Store) (cluster : Cluster D) : Method → Prop
  | recordPaid eventId _ record directEntries poolPayouts =>
      ∃ event ∈ store.events.rows, event.eventId = column eventId ∧ ∃ stored,
        StoredAs configured store event stored ∧
          Backed H ns cluster event stored ⟨record, directEntries, poolPayouts⟩
  | _ => True

theorem Method.Backs.proves (backs : method.Backs H ns configured store cluster) :
    method.Proves H ns store cluster := by
  cases method with
  | recordPaid eventId attempt record directEntries poolPayouts =>
      obtain ⟨event, mem, id, stored, _, backed⟩ := backs
      exact ⟨event, mem, id, backed.settledBy⟩
  | _ => trivial

/-- Only a recording adds a settlement. -/
theorem Method.mem_settlements {row : SettlementRow}
    (mem : row ∈ (method.apply store).2.settlements.rows) :
    row ∈ store.settlements.rows ∨ row.signature = column row.record.signature := by
  cases method with
  | beginAttempt eventId request params =>
      cases began : store.beginAttempt eventId request params with
      | error error =>
          simp only [Method.apply, began] at mem
          exact .inl mem
      | ok result =>
          obtain ⟨attempt, store'⟩ := result
          obtain ⟨_, _, _, _, _, rfl⟩ := Store.beginAttempt_eq_ok began
          simp only [Method.apply, began] at mem
          exact .inl mem
  | recordPaid eventId attempt record directEntries poolPayouts =>
      cases wrote : store.recordPaid eventId attempt record directEntries poolPayouts with
      | error error =>
          simp only [Method.apply, wrote] at mem
          exact .inl mem
      | ok store' =>
          obtain ⟨_, _, _, rfl⟩ := Store.recordPaid_eq_ok wrote
          simp only [Method.apply, wrote] at mem
          rcases Table.mem_insertOrIgnore.mp mem with old | ⟨rfl, _⟩
          · exact .inl old
          · exact .inr rfl
  | _ => exact .inl mem

namespace Balanced

theorem empty : Balanced H ns configured .empty cluster [] where
  toBooks := .empty
  signed _ mem := by cases mem
  written _ mem := by cases mem

variable (balanced : Balanced H ns configured store cluster recorded)

include balanced

theorem later (later : Cluster.Later net cluster cluster') :
    Balanced H ns configured store cluster' recorded where
  toBooks := balanced.toBooks.later later
  signed := balanced.signed
  written eventId mem := by
    obtain ⟨event, inRows, id, stored, rows, storedAs, backed, same⟩ := balanced.written eventId mem
    exact ⟨event, inRows, id, stored, rows, storedAs, backed.later later, same⟩

/-- What is written stays, where the ledger of every recorded event does. -/
theorem written_of_keeps (keeps : store.Keeps store')
    (attempts : ∀ attempt ∈ store.attemptRows.rows,
      ∃ attempt' ∈ store'.attemptRows.rows, SameAttempt attempt attempt')
    (ledger : ∀ eventId, column eventId ∈ recorded → store'.ledgerOf eventId = store.ledgerOf eventId) :
    ∀ eventId ∈ recorded, ∃ event ∈ store'.events.rows, event.eventId = eventId ∧
      ∃ stored rows, StoredAs configured store' event stored ∧ Backed H ns cluster event stored rows ∧
        store'.ledgerOf eventId = .written eventId rows := by
  intro eventId mem
  obtain ⟨event, inRows, id, stored, rows, storedAs, backed, same⟩ := balanced.written eventId mem
  obtain ⟨event', inRows', sameEvent⟩ := keeps event inRows
  have columned : column eventId = eventId := by
    rw [← id, balanced.named event inRows, column_column]
  refine ⟨event', inRows', sameEvent.eventId.trans id, stored, rows, storedAs.keeps sameEvent attempts,
    backed.keeps sameEvent, ?_⟩
  rw [ledger eventId (by rwa [columned]), same]

theorem enqueues {isDate : JsString → Bool} (enqueued : Enqueues isDate store store') :
    Balanced H ns configured store' cluster recorded := by
  obtain ⟨books, same⟩ := balanced.toBooks.enqueues enqueued
  obtain ⟨keeps, attempts⟩ := Store.keeps_of_enqueues enqueued
  refine ⟨books, ?_, balanced.written_of_keeps keeps (fun attempt mem => ?_) fun other _ =>
    same.ledgerOf other⟩
  · rw [same.settlements]
    exact balanced.signed
  · exact ⟨attempt, attempts ▸ mem, .refl attempt⟩

/-- The first recording of an event writes all of its rows: no other event has its
signature or its entry ids. -/
theorem recordPaid_new (grown : cluster.Grown net)
    (apart : EntryIdsApart H store cluster) {eventId : JsString}
    {attempt : Option Nat} {rows : SettlementReconciliation} {event : EventRow} {stored : StoredRequest}
    (h : store.recordPaid eventId attempt rows.record rows.directEntries rows.poolPayouts = .ok store')
    (inRows : event ∈ store.events.rows) (id : event.eventId = column eventId)
    (backed : Backed H ns cluster event stored rows) (new : column eventId ∉ recorded) :
    store'.ledgerOf eventId = .written eventId rows := by
  -- another recorded event was settled by another transaction
  have elsewhere {other : EventRow} {stored' : StoredRequest} {rows' : SettlementReconciliation}
      (inRows' : other ∈ store.events.rows) (backed' : Backed H ns cluster other stored' rows')
      (mem : other.eventId ∈ recorded) : rows'.record.signature ≠ rows.record.signature := by
    intro same
    have request := backed'.eventId_of_signature backed grown same
    refine new ?_
    rwa [← id, balanced.named event inRows, ← request, ← balanced.named other inRows']
  obtain ⟨landing, seed, amount, bps, recipients, backing⟩ := backed.backing
  refine Store.recordPaid_first h (fun row mem => ⟨?_, ?_⟩) (fun row mem => ⟨?_, ?_⟩) fun row mem => ?_
  · intro same
    exact new (same ▸ balanced.settlementRows row mem)
  · intro same
    have inside := balanced.settlementRows row mem
    obtain ⟨other, inRows', id', stored', rows', _, backed', ledger⟩ := balanced.written _ inside
    obtain ⟨landing', seed', amount', bps', recipients', backing'⟩ := backed'.backing
    have columned : column row.eventId = row.eventId := by
      rw [← id', balanced.named other inRows', column_column]
    have own : store.settlement row.eventId = some row.record := by
      rw [Store.settlement, columned, Table.get?_eq_some.mpr ⟨mem, rfl⟩]
      rfl
    have recordSame : row.record = rows'.record := by
      have settled := congrArg Store.EventLedger.settlement ledger
      change store.settlement row.eventId = some rows'.record at settled
      exact Option.some.inj (own.symm.trans settled)
    rw [balanced.signed row mem, recordSame, backing'.signature, backing.signature, column, column,
      toWellFormed_base58Encode, toWellFormed_base58Encode, ← backing'.signature,
      ← backing.signature] at same
    exact elsewhere inRows' backed' (id' ▸ inside) same
  · intro same
    exact new (same ▸ balanced.ledgerRows row mem)
  · intro entry isEntry same
    have inside := balanced.ledgerRows row mem
    obtain ⟨other, inRows', id', stored', rows', _, backed', ledger⟩ := balanced.written _ inside
    obtain ⟨landing', seed', amount', bps', recipients', backing'⟩ := backed'.backing
    have columned : column row.eventId = row.eventId := by
      rw [← id', balanced.named other inRows', column_column]
    have own : row ∈ store.entriesOf row.eventId :=
      List.mem_filter.mpr ⟨mem, decide_eq_true columned.symm⟩
    have entries := congrArg Store.EventLedger.entries ledger
    change store.entriesOf row.eventId = _ at entries
    rw [entries] at own
    obtain ⟨entry', isEntry', isRow⟩ := List.mem_map.mp (firsts_subset _ _ own)
    obtain ⟨credit, idText, hashed⟩ := backing.credit_of_mem inRows isEntry
    obtain ⟨credit', idText', hashed'⟩ := backing'.credit_of_mem inRows' isEntry'
    rw [← isRow] at same
    change column entry'.entryId = column entry.entryId at same
    rw [idText, idText'] at same
    have signatures := ((Credit.entryId_inj apart hashed' hashed).mp same).1
    rw [← backing'.signature, ← backing.signature] at signatures
    exact elsewhere inRows' backed' (id' ▸ inside) signatures
  · intro same
    exact new (same ▸ balanced.poolRows row mem)

/-- What a method must know to keep the balance. -/
theorem of_apply (grown : cluster.Grown net)
    (apart : EntryIdsApart H store cluster) (begins : method.BeginsOwn D ns store)
    (backs : method.Backs H ns configured store cluster) :
    Balanced H ns configured (method.apply store).2 cluster (recorded ++ method.records store) := by
  obtain ⟨books, ledger⟩ := balanced.toBooks.of_apply grown begins backs.proves
  have keeps := method.keeps store
  have attempts := method.keeps_attempts store
  refine ⟨books, fun row mem => (Method.mem_settlements mem).elim (balanced.signed row) id,
    fun eventId mem => ?_⟩
  by_cases old : eventId ∈ recorded
  · exact balanced.written_of_keeps keeps attempts ledger eventId old
  · have now := (List.mem_append.mp mem).resolve_left old
    cases method with
    | recordPaid other attempt record directEntries poolPayouts =>
        cases wrote : store.recordPaid other attempt record directEntries poolPayouts with
        | error error =>
            simp only [Method.records, wrote] at now
            cases now
        | ok store' =>
            simp only [Method.records, wrote] at now
            obtain rfl := List.mem_singleton.mp now
            obtain ⟨event, inRows, id, stored, storedAs, backed⟩ := backs
            obtain ⟨event', inRows', same⟩ := keeps event inRows
            have rows := balanced.recordPaid_new grown apart wrote inRows id backed old
            simp only [Method.apply, wrote] at inRows' attempts ⊢
            refine ⟨event', inRows', same.eventId.trans id, stored, _, storedAs.keeps same attempts,
              backed.keeps same, ?_⟩
            rw [Store.ledgerOf_column, Store.EventLedger.written_column, rows]
    | _ => cases now

/-- The balance of a beneficiary is the sum of its direct rows, event by event. -/
theorem sum_balances (localeLe : JsString → JsString → Bool) (beneficiaryId : JsString) :
    (((store.balances localeLe).filter fun balance => balance.1 = beneficiaryId).map
        fun balance => amountOf balance.2).sum =
      (store.events.rows.map fun event => (((store.ledgerOf event.eventId).entries.filter
        fun row => row.beneficiaryId = beneficiaryId).map fun row => amountOf row.amountOnChain).sum).sum := by
  rw [(store.balances_eq localeLe).2 beneficiaryId]
  have all : ∀ row ∈ store.ledgerRows.rows.filter (fun row => row.beneficiaryId = beneficiaryId),
      row.eventId ∈ store.events.rows.map fun event => event.eventId := by
    intro row mem
    have inside := balanced.ledgerRows row (List.mem_filter.mp mem).1
    obtain ⟨event, inRows, id, _⟩ := balanced.written _ inside
    exact List.mem_map.mpr ⟨event, inRows, id⟩
  have parts := sum_by_key (fun row : LedgerEntryRow => amountOf row.amountOnChain)
    store.events.unique all
  rw [← parts, List.map_map]
  refine congrArg List.sum (List.map_congr_left fun event mem => ?_)
  have columned : column event.eventId = event.eventId := by
    rw [balanced.named event mem, column_column]
  simp only [Function.comp_apply, Store.ledgerOf, Store.entriesOf, List.filter_filter, columned,
    Bool.and_comm]

/-- What the tables hold of a recorded event is tallied. -/
theorem tallied (apart : EntryIdsApart H store cluster) {event : EventRow}
    (inRows : event ∈ store.events.rows) (mem : event.eventId ∈ recorded) :
    ∃ stored, StoredAs configured store event stored ∧
      Tallied H ns cluster event stored (store.ledgerOf event.eventId) := by
  obtain ⟨event', inRows', id, stored, rows, storedAs, backed, same⟩ := balanced.written _ mem
  obtain rfl : event' = event := List.inj_on_of_nodup_map store.events.unique inRows' inRows id
  obtain ⟨landing, seed, amount, bps, recipients, backing⟩ := backed.backing
  refine ⟨stored, storedAs, ?_⟩
  rw [same]
  exact backing.tallied apart inRows

end Balanced

/-! ### Recording -/

variable {w w' : World D env.net} {options : WorkerOptions}

variable (env ns) in
/-- A worker of the namespace that hears the truth from its primary provider, or confirms
with a second one that tells it. -/
structure Trusted (options : WorkerOptions) : Prop where
  programId : options.programId = D.programId
  ns : options.ns = ns
  honest : (∀ call, env.honest .primary call) ∨
    options.secondConnection = true ∧ ∀ call, env.honest .second call

variable (env ns configured) in
/-- An attempt begins for its event, and only what a finalized transaction backs is
recorded. -/
def Op.Backs (w : World D env.net) : Op → Prop
  | .store method => method.BeginsOwn D ns w.store ∧
      method.Backs env.host ns configured w.store w.cluster
  | _ => True

theorem Op.Silent.backs {op : Op} (silent : op.Silent) : op.Backs env ns configured w := by
  cases op with
  | store method => cases method <;> first | exact ⟨trivial, trivial⟩ | exact silent.elim
  | _ => trivial

/-- What is stored for an event of a configured worker. -/
theorem StoredFor.storedAs {event : EventRow} {stored : StoredRequest}
    (allowed : configured options) (storedFor : StoredFor options event stored store) :
    StoredAs configured store event stored := by
  rcases storedFor with attempt | ⟨_, rfl⟩
  · exact .inl attempt
  · exact .inr ⟨options, allowed, rfl⟩

/-- What a worker matched with its second provider is backed. -/
theorem Op.Confirmed.backs (allowed : configured options) {op : Op}
    (confirmed : op.Confirmed env ns options w) : op.Backs env ns configured w := by
  cases op with
  | store method =>
      cases method with
      | beginAttempt eventId request params => exact ⟨confirmed, trivial⟩
      | recordPaid eventId attempt record directEntries poolPayouts =>
          obtain ⟨event, stored, copy, honest, given, matched⟩ := confirmed
          obtain ⟨direct, pool, same, _⟩ := reconciled_copies matched.primary matched.second
          obtain ⟨landing, mem, id, rfl⟩ := matched.confirmed
          refine ⟨trivial, event, matched.event.1, matched.event.2, stored,
            matched.keptFor.storedAs allowed, landing, (w.behind .second).mem_finalizedLedger mem, id,
            options, given, matched.request, matched.second, direct, pool, ?_, ?_⟩
          · exact (congrArg SettlementRecord.amountAtomic same :)
          · exact (congrArg SettlementRecord.unitsPerAtomicUnit same :)
      | _ => exact ⟨trivial, trivial⟩
  | _ => trivial

/-- A finalized transaction with this signature. -/
def Finalized (signature : JsString) (transaction : ParsedTransaction) (w : World D net) : Prop :=
  ∃ landing ∈ w.cluster.finalizedLedger,
    landing.transaction.id = signature ∧ landing.shown = transaction

/-- What an honest primary shows is finalized. -/
theorem step.shows_finalized (honest : ∀ call, env.honest .primary call) {signature : JsString}
    {found : Option ParsedTransaction}
    (moved : step env w (.rpc .primary (.getParsedTransaction signature)) (.ok found) w') :
    ∀ transaction, found = some transaction → Finalized signature transaction w' := by
  rintro transaction rfl
  obtain ⟨view, _, later, landing, mem, id, shown⟩ := moved.heard.truth moved.onward (honest _)
  exact ⟨landing, (w'.behind .primary).mem_finalizedLedger (later.mem_finalizedLedger mem), id,
    shown.symm⟩

variable (env ns configured) in
/-- A part of the worker records only what a finalized transaction backs. -/
abbrev Vouching {α : Type} (program : Work α) (post : α → World D env.net → Prop)
    (fail : Thrown → World D env.net → Prop) (w : World D env.net) : Prop :=
  Alone env ns (fun w op => op.Backs env ns configured w) program post fail w

theorem vouching_silent {α : Type} {program : Work α} (uses : program.Uses Op.Silent) :
    Vouching env ns configured program (fun _ _ => True) (fun _ _ => True) w :=
  Interaction.Safe.of_uses uses (fun _ _ silent _ => silent.backs)
    (fun _ _ _ _ _ _ _ => trivial) trivial

theorem vouching_kept {α : Type} {program : Work α} {kept : World D env.net → Prop}
    (uses : program.Uses Op.Plain) (unmoved : Unmoved env kept) (holds : kept w) :
    Vouching env ns configured program (fun _ => kept) (fun _ _ => True) w := by
  have both : Vouching env ns configured program (fun _ => kept) (fun _ => kept) w :=
    Interaction.Safe.of_uses uses (fun _ _ plain _ => plain.silent.backs)
      (fun _ _ _ _ plain holds moved => unmoved _ _ _ _ plain holds moved.2.1) holds
  exact both.mono (fun _ _ holds => holds) fun _ _ _ => trivial

/-- A worker with an honest primary records only what a finalized transaction backs. -/
theorem Deciding.backs_of_primary (honest : ∀ call, env.honest .primary call)
    (allowed : configured options) (program : options.programId = D.programId)
    (sameNs : options.ns = ns) :
    Deciding env ns options (fun w op => op.Backs env ns configured w) fun _ _ _ => True where
  plain _ _ plain := plain.silent.backs
  begins _ _ _ _ own := ⟨own, trivial⟩
  search _ _ := vouching_silent (silent_notes.toLooks.uses_findSettlementTransaction _ _ _ _ _)
  unmoved _ _ _ _ _ _ _ _ := trivial
  matched w event attempts created stored known _ _ mem := by
    have own := stored_of_mem_requestsOf program sameNs known.own mem
    rw [WorkerOptions.recordMatch_eq]
    have asked : Vouching env ns configured (options.confirmMatch env.host created.signature stored)
        (fun _ => Known ns event attempts) (fun _ _ => True) w :=
      vouching_kept (plain_looks.uses_confirmMatch _ _) (.known event attempts) known
    refine Interaction.Safe.bind asked fun confirmed w known => ?_
    split
    swap
    · exact vouching_silent (silent_notes.uses_unresolved _ _)
    unfold WorkerOptions.writeMatch
    let program := options.reconcile env.host .primary created.signature stored
      (some event.beneficiaryIds)
    have reconciled : Vouching env ns configured program
        (Tells env.host (Finalized created.signature)
          (options.reconcileOptions created.signature stored D.programId ns
            (some event.beneficiaryIds))) (fun _ _ => True) w :=
      alone_reconcile (fun _ _ plain => plain.silent.backs) own.programId own.ns _
        (fun _ _ _ moved => moved.shows_finalized honest) w
    have kept : Vouching env ns configured program (fun _ => Known ns event attempts)
        (fun _ _ => True) w :=
      vouching_kept (plain_looks.uses_reconcile _ _ _ _) (.known event attempts) known
    refine Interaction.Safe.bind ((reconciled.and kept).mono (fun _ _ both => both)
      fun _ _ _ => trivial) fun result w both => ?_
    obtain ⟨told, known⟩ := both
    cases result with
    | refused mismatch error => exact vouching_silent (silent_notes.uses_unresolved _ _)
    | matched rows =>
        obtain ⟨shown, ⟨landing, mem', id, rfl⟩, same⟩ := told.1 rows rfl
        obtain ⟨row, inRows, rowId, request, ids⟩ := known.stored
        have signature : rows.record.signature = created.signature := reconciled_signature same
        have backed : Backed env.host ns w.cluster row stored rows := by
          refine ⟨landing, mem', id.trans signature.symm, options, rows,
            own.request.trans request.symm, ?_, rfl, rfl, rfl, rfl⟩
          rw [signature, WorkerOptions.matchOptions, ids]
          exact same
        have backs : Op.Backs env ns configured w (.store (.recordPaid event.eventId
            (WorkerOptions.landedAttempt attempts created.signature) rows.record rows.directEntries
            rows.poolPayouts)) :=
          ⟨trivial, row, inRows, rowId.trans known.column_eventId.symm, stored,
            (known.storedFor rowId request mem).storedAs allowed, backed⟩
        refine Interaction.Safe.bind (Interaction.safe_perform.mpr
          ⟨backs, fun _ _ _ => trivial, fun _ _ _ => trivial⟩) fun _ w (_ : True) => ?_
        exact vouching_silent (Interaction.uses_bind (silent_notes.uses_log _) fun _ => trivial)
  mismatched w event attempts created primary _ _ _ := by
    rw [WorkerOptions.recordMismatch_eq]
    refine Interaction.Safe.bind (vouching_silent (silent_notes.toLooks.uses_confirmMismatch _ _ _))
      fun confirmed w _ => ?_
    split
    · exact vouching_silent (Interaction.uses_bind (uses_call trivial) fun _ =>
        Interaction.uses_bind (silent_notes.uses_log _) fun _ => trivial)
    · exact vouching_silent (silent_notes.uses_unresolved _ _)

/-! ### Every run -/

variable (env ns configured) in
/-- The files are in order and, unless entry ids collide, the tables are balanced. -/
structure Balancing (w : World D env.net) : Prop where
  filed : Filed D ns w.store
  balanced : EntryIdsApart env.host w.store w.cluster →
    Balanced env.host ns configured w.store w.cluster w.recorded

namespace Balancing

theorem initial (initial : w.Initial) : Balancing env ns configured w := by
  refine ⟨?_, fun _ => ?_⟩
  · rw [initial.store]
    exact .empty
  · rw [initial.store, initial.recorded]
    exact .empty

variable (balancing : Balancing env ns configured w)

include balancing

theorem passes (passes : Passes env.isDate w w') : Balancing env ns configured w' := by
  refine ⟨balancing.filed.enqueues passes.store, fun apart => ?_⟩
  have before := apart.earlier (Store.keeps_of_enqueues passes.store).1 passes.cluster
  rw [passes.recorded]
  exact ((balancing.balanced before).enqueues passes.store).later passes.cluster

theorem of_method {method : Method} (begins : method.BeginsOwn D ns w.store)
    (backs : method.Backs env.host ns configured w.store w.cluster) :
    Balancing env ns configured { w with
      store := (method.apply w.store).2
      recorded := w.recorded ++ method.records w.store } := by
  refine ⟨balancing.filed.of_apply begins, fun apart => ?_⟩
  have same : Cluster.Later env.net w.cluster w.cluster := .refl
  have before : EntryIdsApart env.host w.store w.cluster := apart.earlier (method.keeps w.store) same
  exact (balancing.balanced before).of_apply w.cluster_grown before begins backs

theorem of_step {op : Op} {reply : Except Thrown op.Reply} (backs : op.Backs env ns configured w)
    (moved : step env w op reply w') : Balancing env ns configured w' := by
  obtain ⟨middle, replies, passes⟩ := moved
  refine Balancing.passes ?_ passes
  cases op with
  | store method =>
      obtain ⟨_, rfl⟩ := replies
      exact balancing.of_method backs.1 backs.2
  | rpc provider call =>
      cases reply with
      | ok answer =>
          obtain ⟨_, given, _, rfl⟩ := replies
          exact ⟨balancing.filed, balancing.balanced⟩
      | error error =>
          obtain ⟨_, given, _, rfl⟩ := replies
          exact ⟨balancing.filed, balancing.balanced⟩
  | polls =>
      obtain ⟨_, rfl⟩ := replies
      exact balancing
  | _ =>
      cases replies
      exact balancing

theorem outside (acted : outside env w w') : Balancing env ns configured w' := by
  rcases acted with passes | ⟨eventId, note, passes⟩
  · exact balancing.passes passes
  · have flagged : Balancing env ns configured { w with
        store := w.store.setEventStatus eventId OpenStatus.needsAttention note
        recorded := w.recorded ++ [] } := by
      have own : (Method.setEventStatus eventId .needsAttention note).BeginsOwn D ns w.store := trivial
      exact balancing.of_method own trivial
    rw [List.append_nil] at flagged
    exact flagged.passes passes

end Balancing

section Runs

variable (trusted : ∀ options, configured options → Trusted env ns options)

include trusted

/-- Every process of a trusted studio records only what a finalized transaction backs. -/
theorem vouching_process (process : Process configured) (w : World D env.net) :
    Vouching env ns configured (process.val.work env.host env.net.sign) (fun _ _ => True)
      (fun _ _ => True) w := by
  have allowed := process.property
  obtain ⟨program, sameNs, honest⟩ := trusted _ allowed
  rcases honest with primary | ⟨confirms, second⟩
  · exact (Deciding.backs_of_primary primary allowed program sameNs).work program sameNs env.net.sign
      process.val.action w
  · exact ((Deciding.confirmed second confirms program sameNs).work program sameNs env.net.sign
      process.val.action w).guard_mono fun _ _ confirmed => confirmed.backs allowed

/-- So it keeps the balance. -/
theorem balancing_process (process : Process configured) (balancing : Balancing env ns configured w) :
    Interaction.Safe (step env) (fun w op => op.Backs env ns configured w ∧ Balancing env ns configured w)
      (process.val.work env.host env.net.sign) (fun _ => Balancing env ns configured)
      (fun _ => Balancing env ns configured) w := by
  have filing := (vouching_process trusted process w).step_mono fun _ _ _ _
    (moved : Balancing env ns configured _ ∧ step env _ _ _ _ ∧ Balancing env ns configured _) =>
      ⟨moved.1.filed, moved.2.1, moved.2.2.filed⟩
  exact (Interaction.Safe.within filing (fun _ _ _ _ backs balancing moved =>
    balancing.of_step backs moved) balancing).mono (fun _ _ both => both.2) fun _ _ both => both.2

theorem Run.balancing {start : World D env.net} (initial : start.Initial)
    (reached : Run env configured start w) : Balancing env ns configured w :=
  reached.invariant (.initial initial) (fun _ _ balancing acted => balancing.outside acted)
    (fun _ _ (guarded : _ ∧ Balancing env ns configured _) => guarded.2)
    fun process _ balancing => balancing_process trusted process balancing

end Runs

/-- **The ledger accounts for what was settled.** In every run of a trusted studio, one
process after the other and each stopped anywhere, as long as the hash does not collide on
the entry ids: a paid event was recorded, and an event that was not has no row in the
ledger tables. A recorded event has one settlement, of a finalized transaction that settled
what was stored for it. Its direct rows and pool payouts never add up to more than the
amount, and to all of it exactly when no share that was paid something clashes with one
before it. The balance of a beneficiary is the sum of its direct rows. -/
theorem ledger_conserved_iff (env : Environment D) (ns : Pubkey) (configured : WorkerOptions → Prop)
    (trusted : ∀ options, configured options → Trusted env ns options) {start w : World D env.net}
    (initial : start.Initial) (reached : Run env configured start w)
    (apart : EntryIdsApart env.host w.store w.cluster) :
    (∀ eventId, w.status eventId = some .paid → column eventId ∈ w.recorded) ∧
    (∀ eventId, column eventId ∉ w.recorded → w.store.ledgerOf eventId = .empty) ∧
    (∀ event ∈ w.store.events.rows, event.eventId ∈ w.recorded →
      ∃ stored, StoredAs configured w.store event stored ∧
        Tallied env.host ns w.cluster event stored (w.store.ledgerOf event.eventId)) ∧
    ∀ localeLe, ((w.store.balances localeLe).map Prod.fst).Nodup ∧ ∀ beneficiaryId,
      (((w.store.balances localeLe).filter fun balance => balance.1 = beneficiaryId).map
          fun balance => amountOf balance.2).sum =
        (w.store.events.rows.map fun event => (((w.store.ledgerOf event.eventId).entries.filter
          fun row => row.beneficiaryId = beneficiaryId).map
            fun row => amountOf row.amountOnChain).sum).sum := by
  have balanced := (Run.balancing trusted initial reached).balanced apart
  refine ⟨fun eventId paid => ?_, fun eventId unrecorded => ?_,
    fun event inRows mem => balanced.tallied apart inRows mem, fun localeLe => ?_⟩
  · obtain ⟨event, found, isPaid⟩ := Option.map_eq_some_iff.mp paid
    obtain ⟨row, mem, id, rfl⟩ := Store.event_eq_some.mp found
    exact id ▸ balanced.paid row mem isPaid
  · refine Store.ledgerOf_eq_empty (fun row mem same => ?_) (fun row mem same => ?_)
      fun row mem same => ?_
    · exact unrecorded (same ▸ balanced.settlementRows row mem)
    · exact unrecorded (same ▸ balanced.ledgerRows row mem)
    · exact unrecorded (same ▸ balanced.poolRows row mem)
  · exact ⟨(w.store.balances_eq localeLe).1, balanced.sum_balances localeLe⟩

/-! ### A sample run

The run whose primary shows the settlement in another slot, to its end. -/

/-- Long texts are told apart by their ends. -/
def sampleEndHost : Host :=
  { sampleHost with sha256 := fun bytes =>
      sampleHost.sha256 (if bytes.length ≤ 32 then bytes else bytes.drop (bytes.length - 32)) }

def sampleEndDoubted : Environment sampleDeployment :=
  { sampleDoubted with host := sampleEndHost, addresses := rfl }

theorem sampleEndDoubted_step {w w' : World sampleDeployment sampleNetwork} {op : Op}
    {reply : Except Thrown op.Reply} (moved : step sampleDoubted w op reply w') :
    step sampleEndDoubted w op reply w' := by
  obtain ⟨middle, replies, passes⟩ := moved
  refine ⟨middle, ?_, passes⟩
  cases op with
  | rpc provider call => cases reply <;> exact replies
  | _ => exact replies

@[irreducible] def sampleMisledPaid : Work Unit × World sampleDeployment sampleNetwork :=
  Interaction.play (fun w op => some (misledRespond w op)) 60
    (sampleCautiously.val.work sampleEndHost sampleNetwork.sign, sampleQueued)

theorem sampleMisledPaid_rows :
    (sampleMisledPaid.2.store.events.rows.any fun event =>
      event.eventId ∈ sampleMisledPaid.2.recorded ∧
        (sampleMisledPaid.2.store.ledgerOf event.eventId).direct = 1001) = true ∧
    ∀ text ∈ creditTexts sampleEndHost sampleMisledPaid.2.store sampleMisledPaid.2.cluster,
      ∀ text' ∈ creditTexts sampleEndHost sampleMisledPaid.2.store sampleMisledPaid.2.cluster,
        sampleEndHost.sha256 text = sampleEndHost.sha256 text' → text = text' := by
  decide +kernel

theorem sampleMisledPaid_steps : Interaction.Steps (step sampleEndDoubted)
    (sampleCautiously.val.work sampleEndHost sampleNetwork.sign, sampleQueued) sampleMisledPaid := by
  unfold sampleMisledPaid
  refine (Interaction.steps_play (fun w op reply w' (sample : SampleWorld w) answered => ?_) 60
    (_, sampleQueued) ⟨.inl rfl, fun _ => rfl⟩).1
  obtain ⟨rfl, rfl⟩ := Prod.ext_iff.mp (Option.some.inj answered)
  obtain ⟨moved, sample'⟩ := misledRespond_step sample op
  exact ⟨sampleEndDoubted_step moved, sample'⟩

/-- The sample run ends with a ledger that accounts for the settlement. -/
theorem ledger_conserved_iff_sample : ∃ (w : World sampleDeployment sampleNetwork) (event : EventRow)
    (stored : StoredRequest),
      Run sampleEndDoubted (Confirms sampleDeployment sampleNamespace) sampleStart w ∧
      event ∈ w.store.events.rows ∧ (w.store.ledgerOf event.eventId).direct = 1001 ∧
      Tallied sampleEndHost sampleNamespace w.cluster event stored (w.store.ledgerOf event.eventId) := by
  have queued : outside sampleEndDoubted sampleStart sampleQueued := .inl sampleQueued_passes
  obtain ⟨ledger, apart⟩ := sampleMisledPaid_rows
  obtain ⟨event, inRows, has⟩ := List.any_eq_true.mp ledger
  obtain ⟨mem, total⟩ := of_decide_eq_true has
  have ran := sampleMisledPaid_steps
  rw [← Prod.eta sampleMisledPaid] at ran
  have reached : Run sampleEndDoubted (Confirms sampleDeployment sampleNamespace) sampleStart
      sampleMisledPaid.2 := .command (.outside .start queued) sampleCautiously _ ran
  have conserved := ledger_conserved_iff sampleEndDoubted sampleNamespace
    (Confirms sampleDeployment sampleNamespace)
    (fun _ confirms => ⟨confirms.programId, confirms.ns, .inr ⟨confirms.second, fun _ => rfl⟩⟩)
    sampleStart_initial reached fun text mem text' mem' same => apart text mem text' mem' same
  obtain ⟨stored, _, tallied⟩ := conserved.2.2.1 event inRows mem
  exact ⟨_, event, stored, reached, inRows, total, tallied⟩

end Synxed.Studio
