import Synxed.Studio.Prompt
import Synxed.Studio.Verdicts

/-!
An event whose attempts are at rest is decided, as soon as the providers can be asked.

* `Run.labelled`: no beneficiary of a stored event is blank.
* `Creditable`: an event whose rows can be written.
* `settled_by_built`: what was built for a stored request, and landed, settled the event and
  reconciles with the request.
* `own_settlement_no_incident`: so an event that one of its attempts settled does not become
  an incident.
* `decided_at_rest`: and it is paid, if it is creditable.
-/

namespace Synxed.Studio

open Synxed.Lib Synxed.Program Synxed.Sdk

variable {D : Deployment}

/-! ### Beneficiaries of stored events -/

/-- No beneficiary is blank. -/
def Labelled (beneficiaryIds : List (JsString × JsString)) : Prop :=
  ∀ own ∈ beneficiaryIds, trim own.2 ≠ []

theorem Labelled.assign {beneficiaryIds : List (JsString × JsString)} {name value : JsString}
    (labelled : Labelled beneficiaryIds) (named : trim value ≠ []) :
    Labelled (assign beneficiaryIds name value) := by
  intro own mem
  unfold Studio.assign at mem
  split at mem
  · exact labelled own mem
  · split at mem
    · obtain ⟨old, inside, rfl⟩ := List.mem_map.mp mem
      split
      · exact named
      · exact labelled old inside
    · rcases List.mem_append.mp mem with old | new
      · exact labelled own old
      · rw [List.mem_singleton.mp new]
        exact named

theorem prepareShare_labelled {eventId : JsString} {index : Nat} {share : Json} {input : ShareInput}
    {beneficiaryId : JsString}
    (prepared : prepareShare eventId index share = .ok (input, some beneficiaryId)) :
    trim beneficiaryId ≠ [] := by
  unfold prepareShare at prepared
  obtain ⟨_, prepared⟩ := ensure_bind_eq_ok.mp prepared
  split at prepared
  · obtain ⟨_, prepared⟩ := ensure_bind_eq_ok.mp prepared
    split at prepared
    · cases prepared
    · obtain ⟨named, prepared⟩ := ensure_bind_eq_ok.mp prepared
      cases prepared
      exact named
    · cases prepared
  · cases prepared

theorem prepareShares_labelled {eventId : JsString} {index : Nat} {shares : List Json}
    {beneficiaryIds beneficiaryIds' : List (JsString × JsString)} {inputs : List ShareInput}
    (prepared : prepareShares eventId index shares beneficiaryIds = .ok (inputs, beneficiaryIds'))
    (labelled : Labelled beneficiaryIds) : Labelled beneficiaryIds' := by
  induction shares generalizing index beneficiaryIds inputs with
  | nil =>
      cases prepared
      exact labelled
  | cons share rest ih =>
      obtain ⟨⟨input, beneficiaryId⟩, one, prepared⟩ := bind_eq_ok.mp prepared
      obtain ⟨⟨others, last⟩, later, prepared⟩ := bind_eq_ok.mp prepared
      cases prepared
      refine ih later ?_
      cases beneficiaryId with
      | none => exact labelled
      | some beneficiaryId => exact labelled.assign (prepareShare_labelled one)

theorem prepareEvent_labelled {isDate : JsString → Bool} {event : Json} {prepared : PreparedEvent}
    (h : prepareEvent isDate event = .ok prepared) : Labelled prepared.beneficiaryIds := by
  unfold prepareEvent at h
  obtain ⟨_, h⟩ := ensure_bind_eq_ok.mp h
  split at h
  · obtain ⟨_, h⟩ := ensure_bind_eq_ok.mp h
    split at h
    · obtain ⟨_, h⟩ := ensure_bind_eq_ok.mp h
      split at h
      · obtain ⟨_, h⟩ := ensure_bind_eq_ok.mp h
        split at h
        · obtain ⟨⟨shares, beneficiaryIds⟩, all, h⟩ := bind_eq_ok.mp h
          obtain ⟨result, _, h⟩ := bind_eq_ok.mp h
          cases h
          exact prepareShares_labelled all fun _ mem => absurd mem List.not_mem_nil
        · cases h
        · cases h
      · cases h
    · cases h
  · cases h

/-- No beneficiary of a stored event is blank. -/
def Store.Labelled (store : Store) : Prop :=
  ∀ row ∈ store.events.rows, Studio.Labelled row.beneficiaryIds

theorem Store.Labelled.enqueues {isDate : JsString → Bool} {store store' : Store}
    (labelled : store.Labelled) (enqueued : Enqueues isDate store store') : store'.Labelled := by
  induction enqueued with
  | refl => exact labelled
  | tail _ last ih =>
      obtain ⟨event, prepared, now, answer, isEvent, added⟩ := last
      rcases Store.enqueue_eq_ok added with rfl | ⟨_, rfl⟩
      · exact ih
      · intro row mem
        rcases Table.mem_insertOrIgnore.mp mem with old | ⟨rfl, _⟩
        · exact ih row old
        · exact prepareEvent_labelled isEvent

theorem Store.Labelled.apply {store : Store} (labelled : store.Labelled) (method : Method) :
    (method.apply store).2.Labelled := by
  intro row mem
  obtain ⟨old, inside, same, _⟩ := Method.mem_events mem
  rw [same.beneficiaryIds]
  exact labelled old inside

section Labelled

variable {env : Environment D} {w w' : World D env.net}

theorem step.labelled {op : Op} {reply : Except Thrown op.Reply} (moved : step env w op reply w')
    (labelled : w.store.Labelled) : w'.store.Labelled := by
  obtain ⟨middle, replies, passes⟩ := moved
  refine Store.Labelled.enqueues ?_ passes.store
  cases op with
  | store method =>
      obtain ⟨_, rfl⟩ := replies
      exact labelled.apply method
  | rpc provider call =>
      cases reply with
      | ok answer =>
          obtain ⟨_, given, _, rfl⟩ := replies
          exact labelled
      | error error =>
          obtain ⟨_, given, _, rfl⟩ := replies
          exact labelled
  | polls =>
      obtain ⟨_, rfl⟩ := replies
      exact labelled
  | _ =>
      cases replies
      exact labelled

theorem Run.labelled {configured : WorkerOptions → Prop} {start : World D env.net}
    (initial : start.Initial) (reached : Run env configured start w) : w.store.Labelled := by
  have begins : start.store.Labelled := by
    rw [initial.store]
    exact fun row mem => absurd mem List.not_mem_nil
  have acts (w w' : World D env.net) (labelled : w.store.Labelled) (acted : outside env w w') :
      w'.store.Labelled := by
    rcases acted with passes | ⟨eventId, note, passes⟩
    · exact labelled.enqueues passes.store
    · exact (labelled.apply (.setEventStatus eventId .needsAttention note)).enqueues passes.store
  have safe (process : Process configured) (w : World D env.net) (labelled : w.store.Labelled) :
      Interaction.Safe (step env) (fun w _ => w.store.Labelled) (process.val.work env.host env.net.sign)
        (fun _ w' => w'.store.Labelled) (fun _ w' => w'.store.Labelled) w :=
    Interaction.Safe.of_keeps (fun _ _ _ _ labelled moved => moved.labelled labelled) labelled
  exact reached.invariant begins acts (fun _ _ labelled => labelled) safe

end Labelled

/-! ### Writing the rows -/

theorem Store.insertEntries_ok {eventId : JsString} {entries : List LedgerEntry}
    (texts : ∀ entry ∈ entries, (Store.bound entry.beneficiaryId).isSome)
    (rows : Table LedgerEntryRow LedgerEntryRow.entryId) :
    ∃ rows', Store.insertEntries eventId entries rows = .ok rows' := by
  induction entries generalizing rows with
  | nil => exact ⟨rows, rfl⟩
  | cons entry rest ih =>
      obtain ⟨beneficiaryId, text⟩ := Option.isSome_iff_exists.mp (texts entry List.mem_cons_self)
      unfold Store.insertEntries
      rw [text]
      exact ih (fun other mem => texts other (List.mem_cons_of_mem _ mem)) _

/-- Rows whose beneficiaries are texts are written for a stored event. -/
theorem Store.recordPaid_ok {store : Store} {eventId : JsString} (there : store.event eventId ≠ none)
    {directEntries : List LedgerEntry}
    (texts : ∀ entry ∈ directEntries, (Store.bound entry.beneficiaryId).isSome) (attempt : Option Nat)
    (record : SettlementRecord) (poolPayouts : List PayoutLine) :
    ∃ store', store.recordPaid eventId attempt record directEntries poolPayouts = .ok store' := by
  obtain ⟨rows, inserted⟩ : ∃ rows, insertEntries eventId directEntries store.ledgerRows = .ok rows :=
    insertEntries_ok texts _
  unfold Store.recordPaid
  rw [ensure_bind_of_pos there, inserted]
  exact ⟨_, rfl⟩

/-- A row without a text for its beneficiary cannot be written. -/
theorem Store.insertEntries_error {eventId : JsString} {entries : List LedgerEntry} {entry : LedgerEntry}
    (mem : entry ∈ entries) (none_ : Store.bound entry.beneficiaryId = none)
    (rows : Table LedgerEntryRow LedgerEntryRow.entryId) :
    ∃ error, Store.insertEntries eventId entries rows = .error error := by
  induction entries generalizing rows with
  | nil => cases mem
  | cons first rest ih =>
      unfold Store.insertEntries
      cases text : Store.bound first.beneficiaryId with
      | none => exact ⟨_, rfl⟩
      | some beneficiaryId =>
          rcases List.mem_cons.mp mem with rfl | later
          · cases none_.symm.trans text
          · exact ih later _

theorem Store.recordPaid_error {store : Store} {eventId : JsString} {directEntries : List LedgerEntry}
    {entry : LedgerEntry} (mem : entry ∈ directEntries) (none_ : Store.bound entry.beneficiaryId = none)
    (attempt : Option Nat) (record : SettlementRecord) (poolPayouts : List PayoutLine) :
    ∃ error, store.recordPaid eventId attempt record directEntries poolPayouts = .error error := by
  cases wrote : store.recordPaid eventId attempt record directEntries poolPayouts with
  | error error => exact ⟨error, rfl⟩
  | ok store' =>
      obtain ⟨rows, _, inserted, _⟩ := Store.recordPaid_eq_ok wrote
      obtain ⟨error, refused⟩ : ∃ error, insertEntries eventId directEntries store.ledgerRows =
          .error error := insertEntries_error mem none_ _
      cases refused.symm.trans inserted

/-- Every share that is not pooled is credited to a text. A share without a beneficiary
id is, unless its label names a property that every object has. -/
def Creditable (event : StoredEvent) : Prop :=
  ∀ share ∈ event.request.shares, ∀ name,
    beneficiaryOf [js "rewards_pool"] event.beneficiaryIds share ≠ some (.inherited name)

theorem Creditable.of_labels {event : StoredEvent}
    (named : ∀ share ∈ event.request.shares, share.label ∉ inheritedNames) : Creditable event := by
  intro share mem name credited
  unfold beneficiaryOf property at credited
  split at credited
  · cases credited
  · split at credited
    · cases credited
    · rw [if_neg (named share mem)] at credited
      cases credited

section Recording

variable {env : Environment D} {archive : Provider → Archive} {ns : Pubkey} {e : JsString}
  {w w' : World D env.net} {options : WorkerOptions} {event : StoredEvent} {stored : StoredRequest}
  {shown : ParsedTransaction}

theorem Snapshot.there (snapshot : Snapshot event w) : w.store.event event.eventId ≠ none := by
  obtain ⟨row, mem, id, _⟩ := snapshot.stored
  have found : w.store.event event.eventId = some row.toStoredEvent :=
    Store.event_eq_some.mpr ⟨row, mem, id.trans snapshot.column_eventId.symm, rfl⟩
  rw [found]
  exact Option.some_ne_none _

/-- The rows of a creditable event can be written. -/
theorem Creditable.texts (creditable : Creditable event) (own : Stored D ns event stored)
    {signature : JsString} {reconciliation : SettlementReconciliation}
    (reconciled : reconcileTransaction env.host (options.reconcileOptions signature stored D.programId ns
      (some event.beneficiaryIds)) shown = .ok reconciliation) :
    ∀ entry ∈ reconciliation.directEntries, (Store.bound entry.beneficiaryId).isSome := by
  intro entry mem
  obtain ⟨share, inside, credited⟩ := beneficiary_of_directEntries reconciled mem
  have ofEvent : share ∈ event.request.shares := own.request ▸ inside
  cases kind : entry.beneficiaryId with
  | text value => rfl
  | inherited name =>
      rw [kind] at credited
      exact absurd credited (creditable share ofEvent name)

/-- The rows of another cannot. -/
theorem Creditable.of_recorded (own : Stored D ns event stored)
    {signature : JsString} {reconciliation : SettlementReconciliation}
    (reconciled : reconcileTransaction env.host (options.reconcileOptions signature stored D.programId ns
      (some event.beneficiaryIds)) shown = .ok reconciliation) {store store' : Store}
    {attempt : Option Nat} (wrote : store.recordPaid event.eventId attempt reconciliation.record
      reconciliation.directEntries reconciliation.poolPayouts = .ok store') : Creditable event := by
  intro share mem name credited
  have ofRequest : share ∈ stored.request.shares := own.request.symm ▸ mem
  obtain ⟨entry, inside, same⟩ := exists_directEntry reconciled ofRequest credited
  have none_ : Store.bound entry.beneficiaryId = none := by
    rw [same]
    rfl
  obtain ⟨error, refused⟩ := Store.recordPaid_error inside none_ attempt reconciliation.record
    reconciliation.poolPayouts
  cases refused.symm.trans wrote

/-- A match that every provider shows is recorded, if the event is creditable. -/
theorem prompted_recordMatch {attempts : List StoredAttempt} {created : SettlementTransaction}
    (own : Stored D ns event stored) (snapshot : Snapshot event w)
    (labelled : Labelled event.beneficiaryIds)
    (timed : 0 < options.finalityTimeoutMs.getD 60000 ∧ 0 < options.pollIntervalMs.getD 1000)
    (served : ∀ provider, (archive provider).transaction created.signature = some shown)
    {reconciliation : SettlementReconciliation}
    (reconciled : reconcileTransaction env.host
      (options.reconcileOptions created.signature stored D.programId ns none) shown =
        .ok reconciliation) :
    PromptedOr env archive (options.cluster.getD .devnet) ns e
      (options.recordMatch env.host event attempts created stored)
      (fun outcome _ => outcome = .paid ∧ Creditable event) (¬ Creditable event) w := by
  have tells (provider : Provider) (ids : Option (List (JsString × JsString))) (w : World D env.net) :
      Prompted env archive (options.cluster.getD .devnet) ns e
        (options.reconcile env.host provider created.signature stored ids)
        (fun result _ => Tallies env.host
          (options.reconcileOptions created.signature stored D.programId ns ids) shown result) w :=
    prompted_reconcile own.programId own.ns ids timed rfl (served provider) w
  let asked := options.reconcileOptions created.signature stored D.programId ns
    (some event.beneficiaryIds)
  have relabelled : asked = { options.reconcileOptions created.signature stored D.programId ns none with
      beneficiaryIds := asked.beneficiaryIds } := rfl
  obtain ⟨rows, named⟩ := reconcileTransaction_named reconciled relabelled labelled
  rw [WorkerOptions.recordMatch_eq]
  have confirmed : Prompted env archive (options.cluster.getD .devnet) ns e
      (options.confirmMatch env.host created.signature stored) (fun told _ => told = true) w := by
    unfold WorkerOptions.confirmMatch
    split
    · refine Interaction.Safe.bind (tells .second none w) fun result w' told => ?_
      rw [(told _).mpr reconciled]
      exact rfl
    · exact rfl
  refine (confirmed.kept (plain_looks.uses_confirmMatch _ _) (.snapshot event) snapshot).then
    fun told w' both => ?_
  obtain ⟨rfl, snapshot, _⟩ := both
  rw [if_pos rfl]
  unfold WorkerOptions.writeMatch
  refine ((tells .primary (some event.beneficiaryIds) w').kept (plain_looks.uses_reconcile _ _ _ _)
    (.snapshot event) snapshot).then fun result w'' both => ?_
  obtain ⟨told, snapshot, _⟩ := both
  rw [(told rows).mpr named]
  have recorded : PromptedOr env archive (options.cluster.getD .devnet) ns e (Studio.call
      (.recordPaid event.eventId (WorkerOptions.landedAttempt attempts created.signature) rows.record
        rows.directEntries rows.poolPayouts)) (fun _ _ => Creditable event) (¬ Creditable event) w'' := by
    refine Interaction.safe_perform.mpr ⟨trivial, ?_, ?_⟩
    · rintro answer w₃ ⟨_, prompt, _⟩
      obtain ⟨middle, ⟨reply, _⟩, _⟩ := prompt.moved
      cases wrote : w''.store.recordPaid event.eventId
          (WorkerOptions.landedAttempt attempts created.signature) rows.record rows.directEntries
          rows.poolPayouts with
      | ok store' => exact .of_recorded own named wrote
      | error error =>
          simp only [Method.apply, wrote] at reply
          cases reply
    · rintro error w₃ ⟨_, prompt, _⟩ creditable
      obtain ⟨middle, ⟨reply, _⟩, _⟩ := prompt.moved
      obtain ⟨store', wrote⟩ := Store.recordPaid_ok snapshot.there (creditable.texts own named)
        (WorkerOptions.landedAttempt attempts created.signature) rows.record rows.poolPayouts
      simp only [Method.apply, wrote] at reply
      cases reply
  refine Interaction.Safe.bind recorded fun _ w₃ creditable => ?_
  exact prompted_log.then fun _ _ _ => ⟨rfl, creditable⟩

/-- Of requests of which one matches, one that matches is found. -/
theorem exists_match {H : Host} {asked : StoredRequest → ReconcileSettlementNOptions}
    {requests : List StoredRequest} {results : List ReconcileResult}
    (told : List.Forall₂ (fun stored => Tallies H (asked stored) shown) requests results)
    (mem : stored ∈ requests) {reconciliation : SettlementReconciliation}
    (reconciled : reconcileTransaction H (asked stored) shown = .ok reconciliation) :
    ∃ found result reconciliation', (requests.zip results).find? (fun one => one.2.isMatch) =
      some (found, result) ∧ found ∈ requests ∧
        reconcileTransaction H (asked found) shown = .ok reconciliation' := by
  induction told with
  | nil => cases mem
  | @cons first result requests results here later ih =>
      rw [List.zip_cons_cons, List.find?_cons]
      cases result with
      | matched rows => exact ⟨first, _, rows, rfl, List.mem_cons_self, (here rows).mp rfl⟩
      | refused mismatch error =>
          rcases List.mem_cons.mp mem with rfl | mem
          · cases (here reconciliation).mpr reconciled
          · obtain ⟨found, result, rows, isFound, inside, same⟩ := ih mem
            exact ⟨found, result, rows, isFound, List.mem_cons_of_mem _ inside, same⟩

/-- A record that a stored request settled is resolved to its settlement. -/
theorem prompted_resolveRecord {attempts : List StoredAttempt} {seed : Bytes32} {landing : Landing D}
    {history : List (Landing D)} (program : options.programId = D.programId) (sameNs : options.ns = ns)
    (known : Known ns event attempts w) (labelled : Labelled event.beneficiaryIds)
    (timed : 0 < options.finalityTimeoutMs.getD 60000 ∧ 0 < options.pollIntervalMs.getD 1000)
    (seeded : eventIdSeed env.host event.eventId = .ok seed)
    (evident : Evident archive (w.view .primary) ns seed landing history)
    (settles : landing.SettlesTopLevel ns seed) (mem : stored ∈ options.requestsOf event attempts)
    {reconciliation : SettlementReconciliation}
    (reconciled : reconcileTransaction env.host
      (options.reconcileOptions landing.transaction.id stored D.programId ns none) landing.shown =
        .ok reconciliation) :
    PromptedOr env archive (options.cluster.getD .devnet) ns e
      (options.resolveRecord env.host event attempts)
      (fun outcome _ => outcome = .paid ∧ Creditable event) (¬ Creditable event) w := by
  have searched : Prompted env archive (options.cluster.getD .devnet) ns e
      (findSettlementTransaction env.host (connectionTo .primary) D.programId ns event.eventId)
      (fun created _ => created.signature = landing.transaction.id ∧ created.topLevel = true) w :=
    prompted_search seeded evident settles
  unfold WorkerOptions.resolveRecord
  rw [program, sameNs]
  have ended : Prompted env archive (options.cluster.getD .devnet) ns e (Interaction.result
      (findSettlementTransaction env.host (connectionTo .primary) D.programId ns event.eventId))
      (fun result w' => ∃ created, result = .ok created ∧
        created.signature = landing.transaction.id ∧ created.topLevel = true ∧
        Known ns event attempts w') w := by
    refine (searched.kept (plain_looks.uses_findSettlementTransaction _ _ _ _ _)
      (.known event attempts) known).result ?_ fun _ _ failed => failed.elim
    rintro created w' ⟨⟨signature, topLevel⟩, known, _⟩
    exact ⟨created, rfl, signature, topLevel, known⟩
  refine ended.then fun result w' told => ?_
  obtain ⟨created, rfl, signature, topLevel, known⟩ := told
  dsimp only
  rw [if_pos topLevel, signature]
  have own (stored : StoredRequest) (mem : stored ∈ options.requestsOf event attempts) :
      Stored D ns event stored := stored_of_mem_requestsOf program sameNs known.own mem
  have each : Prompted env archive (options.cluster.getD .devnet) ns e (Interaction.each
      (fun stored => options.reconcile env.host .primary landing.transaction.id stored none)
      (options.requestsOf event attempts)) (fun results _ => List.Forall₂ (fun stored =>
        Tallies env.host (options.reconcileOptions landing.transaction.id stored D.programId ns none)
          landing.shown) (options.requestsOf event attempts) results) w' := by
    refine Interaction.safe_each_forall₂ fun stored mem w => ?_
    exact prompted_reconcile (own stored mem).programId (own stored mem).ns none timed rfl
      (evident.shown .primary) w
  have uses : (Interaction.each (fun stored => options.reconcile env.host .primary
      landing.transaction.id stored none) (options.requestsOf event attempts)).Uses Op.Plain :=
    Interaction.uses_each (fun _ => plain_looks.uses_reconcile _ _ _ _) _
  refine (each.kept uses (.known event attempts) known).then fun results w'' told => ?_
  obtain ⟨told, known, _⟩ := told
  obtain ⟨found, result, rows, isFound, inside, same⟩ := exists_match told mem reconciled
  rw [isFound]
  have served (provider : Provider) :
      (archive provider).transaction created.signature = some landing.shown := by
    rw [signature]
    exact evident.shown provider
  rw [← signature] at same
  exact prompted_recordMatch (own found inside) known.toSnapshot labelled timed served same

end Recording

/-! ### Resolving -/

section Resolving

variable {env : Environment D} {archive : Provider → Archive} {ns : Pubkey} {w w' : World D env.net}
  {cluster : LedgerCluster} {options : WorkerOptions} {event : StoredEvent} {eventId : JsString}
  (program : options.programId = D.programId) (sameNs : options.ns = ns)

include program sameNs

/-- No attempt of the event was made elsewhere. -/
theorem FiledFor.no_elsewhere (filed : FiledFor D ns (column eventId) w.store)
    (snapshot : Snapshot event w)
    (sameId : event.eventId = column eventId) :
    ((w.store.attempts eventId).find? fun attempt =>
      attempt.params.programId ≠ toBase58 options.programId ∨
        attempt.params.ns ≠ toBase58 options.ns) = none := by
  rw [List.find?_eq_none]
  intro attempt mem
  have own := filed.stored_of_mem_attempts snapshot sameId mem
  have here : attempt.params.programId = toBase58 options.programId ∧
      attempt.params.ns = toBase58 options.ns := by
    rw [program, sameNs]
    exact ⟨own.programId, own.ns⟩
  simp [here]

/-- While nothing is waited for, a resolve comes to what the record says. -/
theorem prompted_resolve {post : Outcome → World D env.net → Prop} {thrown : Prop}
    {kept : World D env.net → Prop}
    (stored : w.store.event eventId = some event) (inFlight : event.status = .inFlight)
    (atRest : ∀ attempt ∈ w.store.attempts eventId, attempt.AtRest (w.view .primary))
    (unmoved : Unmoved env kept) (holds : kept w)
    (decided : ∀ w', Snapshot event w' → kept w' → w'.view = w.view →
      PromptedOr env archive cluster ns (column eventId) (options.decide env.host eventId event) post thrown w') :
    PromptedOr env archive cluster ns (column eventId) (options.resolve env.host eventId) post thrown w := by
  obtain ⟨row, mem, sameId, isEvent⟩ := Store.event_eq_some.mp stored
  have sameId : event.eventId = column eventId := isEvent ▸ sameId
  unfold WorkerOptions.resolve
  have told : Prompted env archive cluster ns (column eventId) (Studio.call (.event eventId)) (fun told w' =>
      told = some event ∧ Snapshot event w' ∧ kept w' ∧ w'.view = w.view ∧
        w'.store.attempts eventId = w.store.attempts eventId) w := by
    refine prompted_call ?_ fun error same => nomatch same
    intro told w' filed read moved still
    obtain rfl := Except.ok.inj read
    have snapshot : Snapshot event w := isEvent ▸ filed.snapshot mem
    have plain : (Op.store (.event eventId)).Plain := trivial
    refine ⟨stored, snapshot.keeps moved.keeps, unmoved _ _ _ _ plain holds moved, still, ?_⟩
    unfold Store.attempts
    rw [(moved.rests trivial).rows]
  refine told.then fun told w₁ known => ?_
  obtain ⟨rfl, snapshot, holds, still, same⟩ := known
  dsimp only
  rw [if_neg (by simp [inFlight])]
  have read : Prompted env archive cluster ns (column eventId) (Studio.call (.attempts eventId)) (fun attempts w' =>
      attempts = w.store.attempts eventId ∧ (attempts.find? fun attempt =>
        attempt.params.programId ≠ toBase58 options.programId ∨
          attempt.params.ns ≠ toBase58 options.ns) = none ∧
        Snapshot event w' ∧ kept w' ∧ w'.view = w.view) w₁ := by
    refine prompted_call ?_ fun error same => nomatch same
    intro attempts w' filed read moved stays
    obtain rfl := Except.ok.inj read
    have plain : (Op.store (.attempts eventId)).Plain := trivial
    exact ⟨same, filed.no_elsewhere program sameNs snapshot sameId, snapshot.keeps moved.keeps,
      unmoved _ _ _ _ plain holds moved, stays.trans still⟩
  refine read.then fun attempts w₂ known => ?_
  obtain ⟨rfl, here, snapshot, holds, still⟩ := known
  rw [here]
  have waits : Prompted env archive cluster ns (column eventId)
      (WorkerOptions.mayStillLand false none (w.store.attempts eventId))
      (fun waiting _ => waiting = false) w₂ :=
    prompted_mayStillLand none _ w₂ (congrFun still .primary) (fun _ same => nomatch same) atRest
  have landed : Prompted env archive cluster ns (column eventId) (Interaction.result
      (WorkerOptions.mayStillLand false none (w.store.attempts eventId))) (fun result w' =>
        result = .ok false ∧ Snapshot event w' ∧ kept w' ∧ w'.view = w₂.view) w₂ := by
    refine (waits.kept (plain_looks.uses_mayStillLand (fun _ => trivial) (fun _ _ => trivial) _ _ _)
      ((Unmoved.snapshot event).and unmoved) ⟨snapshot, holds⟩).result ?_ fun _ _ failed => failed.elim
    rintro waiting w' ⟨rfl, ⟨snapshot, holds⟩, stays⟩
    exact ⟨rfl, snapshot, holds, stays⟩
  refine landed.then fun result w₃ known => ?_
  obtain ⟨rfl, snapshot, holds, stays⟩ := known
  exact decided w₃ snapshot holds (stays.trans still)

/-- An event that a stored request settled is paid. -/
theorem prompted_decide_settled {stored : StoredRequest} {seed : Bytes32} {landing : Landing D}
    {history : List (Landing D)} (seeded : eventIdSeed env.host eventId = .ok seed)
    (snapshot : Snapshot event w) (sameId : event.eventId = column eventId)
    (labelled : Labelled event.beneficiaryIds)
    (timed : 0 < options.finalityTimeoutMs.getD 60000 ∧ 0 < options.pollIntervalMs.getD 1000)
    (evident : Evident archive (w.view .primary) ns seed landing history)
    (settles : landing.SettlesTopLevel ns seed)
    (made : ∃ attempt ∈ w.store.attemptRows.rows, attempt.eventId = column eventId ∧
      WorkerOptions.storedRequest attempt = stored)
    {reconciliation : SettlementReconciliation}
    (reconciled : reconcileTransaction env.host
      (options.reconcileOptions landing.transaction.id stored D.programId ns none) landing.shown =
        .ok reconciliation) :
    PromptedOr env archive (options.cluster.getD .devnet) ns (column eventId) (options.decide env.host eventId event)
      (fun outcome _ => outcome = .paid ∧ Creditable event) (¬ Creditable event) w := by
  let kept (w' : World D env.net) : Prop := Snapshot event w' ∧ ∃ attempt ∈ w'.store.attemptRows.rows,
    attempt.eventId = column eventId ∧ WorkerOptions.storedRequest attempt = stored
  have unmoved : Unmoved env kept := (Unmoved.snapshot event).and fun w op reply w' plain made moved =>
    (moved.attempts plain _ _).mpr made
  obtain ⟨account, read⟩ := evident.record (w.grown .primary) settles
  unfold WorkerOptions.decide
  rw [seeded, called_ok]
  refine ((prompted_readRecord_present program sameNs read).kept (plain_looks.uses_readRecord seed)
    unmoved ⟨snapshot, made⟩).then fun told w₁ known => ?_
  obtain ⟨rfl, ⟨snapshot, made⟩, still⟩ := known
  have told : Prompted env archive (options.cluster.getD .devnet) ns (column eventId) (Studio.call (.attempts eventId))
      (fun attempts w' => Known ns event attempts w' ∧ stored ∈ attempts.map WorkerOptions.storedRequest ∧
        w'.view = w.view) w₁ := by
    refine prompted_call ?_ fun error same => nomatch same
    intro attempts w' filed read moved stays
    obtain rfl := Except.ok.inj read
    refine ⟨⟨snapshot.keeps moved.keeps, fun attempt mem =>
      filed.stored_of_mem_attempts snapshot sameId mem, fun stored => ?_⟩, ?_, stays.trans still⟩
    · rw [moved.attempts trivial, sameId, List.mem_map]
      simp only [Store.mem_attempts, and_assoc]
    · obtain ⟨attempt, mem, id, same⟩ := made
      exact List.mem_map.mpr ⟨attempt, Store.mem_attempts.mpr ⟨mem, id⟩, same⟩
  refine told.then fun attempts w₂ known => ?_
  obtain ⟨known, mem, still⟩ := known
  have inside : stored ∈ options.requestsOf event attempts := by
    unfold WorkerOptions.requestsOf
    split
    · next none =>
      rw [none] at mem
      cases mem
    · exact mem_distinctRequests.mpr mem
  have sameSeed : eventIdSeed env.host event.eventId = .ok seed := by
    rw [eventIdSeed_of_column (known.column_eventId.trans sameId)]
    exact seeded
  rw [← still] at evident
  exact prompted_resolveRecord program sameNs known labelled timed sameSeed evident settles
    inside reconciled

/-- An event without a record is tried again, or given up. -/
theorem prompted_decide_unsettled {seed : Bytes32} (seeded : eventIdSeed env.host eventId = .ok seed)
    (absent : ∀ provider, readSettlementRecord D.programId (recordAddress D ns seed)
      (existing ((w.view provider).accounts (recordAddress D ns seed))) seed = .ok none) :
    Prompted env archive cluster ns (column eventId) (options.decide env.host eventId event)
      (fun outcome _ => outcome = if event.attempts ≥ options.attemptLimit then .needsAttention else .retry)
      w := by
  have done {method : Method} (succeeds : ∀ store error, (method.apply store).1 ≠ .error error)
      (w : World D env.net) : Prompted env archive cluster ns (column eventId) (Studio.call method) (fun _ _ => True) w :=
    prompted_call (fun _ _ _ _ _ _ => trivial) (succeeds w.store)
  have expired (attempts : List StoredAttempt) (w : World D env.net) : Prompted env archive cluster ns (column eventId)
      (WorkerOptions.expireSigned eventId attempts) (fun _ _ => True) w := by
    induction attempts generalizing w with
    | nil => exact trivial
    | cons attempt rest ih =>
        unfold WorkerOptions.expireSigned
        dsimp only
        split
        · exact Interaction.Safe.bind (done (by intro _ _ same; cases same) w) fun _ w' _ => ih w'
        · exact ih w
  unfold WorkerOptions.decide
  rw [seeded, called_ok]
  refine Interaction.Safe.bind (prompted_readRecord_absent program sameNs absent) fun told w₁ same => ?_
  subst same
  refine Interaction.Safe.bind (done (by intro _ _ same; cases same) w₁) fun attempts w₂ _ => ?_
  refine Interaction.Safe.bind (expired attempts w₂) fun _ w₃ _ => ?_
  unfold WorkerOptions.retryOrGiveUp
  split
  · exact Interaction.Safe.bind (done (by intro _ _ same; cases same) w₃) fun _ _ _ => rfl
  · exact Interaction.Safe.bind (done (by intro _ _ same; cases same) w₃) fun _ _ _ => rfl

end Resolving

/-! ### The settlement of an attempt -/

/-- A transaction that succeeded, of amounts that a node can show as numbers, in a block
with a date. -/
structure Showable (landing : Landing D) : Prop where
  succeeded : landing.error = none
  signed : landing.transaction.id ∈ landing.shown.signatures
  fits : MovesFit landing.executed
  dated : Dated landing.shown

section Own

variable {env : Environment D} {ns : Pubkey} {w w' : World D env.net} {archive : Provider → Archive}
  {landing : Landing D} {eventId : JsString} {seed : Bytes32} {history : List (Landing D)}

theorem Evident.showable {view : Cluster D}
    (evident : Evident archive view ns seed landing history) : Showable landing where
  succeeded := evident.succeeded
  signed := (evident.truthful.transactions landing evident.inside evident.succeeded).2
  fits := evident.fits
  dated := evident.dated

theorem FiledBy.seeded {mine : JsString → AttemptParams → Prop} (filed : FiledBy mine w.store)
    {attempt : StoredAttempt} (mem : attempt ∈ w.store.attemptRows.rows)
    (id : attempt.eventId = column eventId) (seeded : eventIdSeed env.host eventId = .ok seed) :
    eventIdSeed env.host attempt.request.eventId = .ok seed := by
  obtain ⟨_, row, inRows, sameId, request⟩ := filed.attempts attempt mem
  have same : column attempt.request.eventId = column eventId := by
    rw [← request, ← filed.named row inRows, sameId, id]
  rw [eventIdSeed_of_column same, seeded]

/-- What was sent for an event was built for one of its attempts. -/
theorem Ready.built_of_sentFor (ready : Ready env ns w) {transaction : SignedTransaction}
    (sentFor : SentFor env (column eventId) transaction w) :
    ∃ attempt ∈ w.store.attemptRows.rows, attempt.eventId = column eventId ∧
      BuiltFor D env.host ns (WorkerOptions.storedRequest attempt) transaction := by
  obtain ⟨attempt, mem, raw, _, id, carries, parsed⟩ := sentFor
  obtain ⟨other, bears⟩ := ready.bears mem carries
  obtain rfl := Option.some.inj (bears.parsed.symm.trans parsed)
  exact ⟨attempt, mem, id, bears.built⟩

/-- The instructions of a message ran as they were compiled. -/
theorem runs_of_ran {instructions : List TransactionInstruction} {executed : List (TopLevel D)}
    (ran : List.Forall₂ RanAs (instructions.map compile) executed) :
    List.Forall₂ Runs instructions executed := by
  refine (List.forall₂_map_left_iff.mp ran).imp ?_
  intro instruction top same
  cases top with
  | other programId data different => exact ⟨same.1.symm, same.2.symm⟩
  | program accounts data before after ran => exact ⟨same.1, same.2.1.symm, same.2.2.symm⟩

/-- A settlement that was built for a stored request settled it, and reconciles with it. -/
theorem settled_by_built {stored : StoredRequest}
    (built : BuiltFor D env.host ns stored landing.transaction)
    (seeded : eventIdSeed env.host stored.request.eventId = .ok seed)
    (showable : Showable landing) (options : WorkerOptions) :
    landing.SettlesTopLevel ns seed ∧ ∃ reconciliation, reconcileTransaction env.host
      (options.reconcileOptions landing.transaction.id stored D.programId ns none) landing.shown =
        .ok reconciliation := by
  obtain ⟨maker, prepared, program, sameNs, params, built, compiled⟩ := built
  rw [WorkerOptions.build, protocolCall_eq_ok] at built
  have runs : List.Forall₂ Runs prepared.transaction landing.executed :=
    runs_of_ran (compiled ▸ landing.ran showable.succeeded)
  have inNs : some maker.ns = some ns := congrArg some sameNs
  have inProgram : some maker.programId = some D.programId := congrArg some program
  constructor
  · obtain ⟨seed', amount, accounts, data, before, after, ran, seeded', inside, settled⟩ :=
      settles_of_runs inNs inProgram built runs
    obtain rfl := Except.ok.inj (seeded'.symm.trans seeded)
    exact ⟨_, inside, amount, settled⟩
  · have scale : stored.params.lamportsPerAtomicUnit = maker.lamportsPerAtomicUnit := by
      rw [← params]
      rfl
    exact reconcileTransaction_own env.addresses.symm inNs inProgram built runs showable.fits
      (landing.truthful showable.succeeded) showable.dated showable.signed rfl rfl rfl scale
      fun own mem => absurd mem List.not_mem_nil

end Own

/-! ### Progress -/

section Progress

variable {env : Environment D} {archive : Provider → Archive} {cluster : LedgerCluster}
  {ns : Pubkey} {w w' : World D env.net} {options : WorkerOptions} {eventId : JsString}

/-- What an archive shows is finalized. -/
def Faithful (archive : Archive) (view : Cluster D) : Prop :=
  ∀ signature transaction, archive.transaction signature = some transaction →
    ∃ landing ∈ view.finalizedLedger,
      landing.transaction.id = signature ∧ transaction = landing.shown

theorem Cluster.statusOf_true (view : Cluster D) (signature : JsString) :
    TrueStatus view signature (view.statusOf signature) := by
  unfold Cluster.statusOf
  split
  · next landing found =>
    refine fun _ => ⟨landing, Cluster.mem_of_mem_finalizedLedger (List.mem_of_find?_eq_some found), ?_, rfl⟩
    simpa using List.find?_some found
  · cases found : view.ledger.find? fun landing => landing.transaction.id = signature with
    | none => exact fun landing mem => by simpa using List.find?_eq_none.mp found landing mem
    | some landing =>
        exact fun _ => ⟨landing, List.mem_of_find?_eq_some found, by simpa using List.find?_some found, rfl⟩

/-- An endpoint that is served from a faithful archive has an answer to everything. -/
theorem exists_served (net : Network) (cluster : LedgerCluster) {archive : Archive} {view : Cluster D}
    (faithful : Faithful archive view) (call : Rpc) : ∃ reply, Served archive cluster view call reply ∧
      (∀ answer, reply = .ok answer → Truth net view call answer) ∧
      ∀ error, reply = .error error → ∃ text, error = .other text := by
  cases call with
  | getGenesisHash =>
      exact ⟨.ok (GENESIS_HASHES cluster), rfl, fun _ _ => trivial, fun _ same => by cases same⟩
  | getAccountInfo address =>
      refine ⟨.ok (existing (view.accounts address)), rfl, ?_, fun _ same => by cases same⟩
      intro answer same
      exact (Except.ok.inj same).symm
  | getBlockHeight =>
      refine ⟨.ok view.height, rfl, ?_, fun _ same => by cases same⟩
      intro answer same
      exact (Except.ok.inj same).symm
  | getSignatureStatuses signature =>
      refine ⟨.ok (view.statusOf signature), rfl, ?_, fun _ same => by cases same⟩
      rintro answer same
      obtain rfl := Except.ok.inj same
      exact view.statusOf_true signature
  | getParsedTransaction signature =>
      refine ⟨.ok (archive.transaction signature), rfl, ?_, fun _ same => by cases same⟩
      rintro answer same
      obtain rfl := Except.ok.inj same
      cases shown : archive.transaction signature with
      | none => exact trivial
      | some transaction => exact faithful signature transaction shown
  | getSignaturesForAddress address limit before =>
      exact ⟨.ok (archive.page address limit before), rfl, fun _ _ => trivial, fun _ same => by cases same⟩
  | getParsedTransactions signatures =>
      exact ⟨.error (.other (js "refused")), (fun _ same => by cases same), (fun _ same => by cases same),
        fun _ same => ⟨_, (Except.error.inj same).symm⟩⟩
  | getLatestBlockhash =>
      exact ⟨.error (.other (js "refused")), trivial, (fun _ same => by cases same),
        fun _ same => ⟨_, (Except.error.inj same).symm⟩⟩
  | sendRawTransaction raw skipPreflight =>
      exact ⟨.error (.other (js "refused")), trivial, (fun _ same => by cases same),
        fun _ same => ⟨_, (Except.error.inj same).symm⟩⟩

/-- In a quiet moment every operation has an answer. -/
theorem exists_prompt (faithful : ∀ provider, Faithful (archive provider) (w.view provider)) (op : Op) :
    ∃ reply w', Prompt env archive cluster w op reply w' := by
  cases op with
  | store method => exact ⟨_, _, ⟨_, ⟨rfl, rfl⟩, .refl _⟩, trivial, rfl⟩
  | polls => exact ⟨.ok 0, w, ⟨w, ⟨⟨0, rfl⟩, rfl⟩, .refl w⟩, trivial, rfl⟩
  | log line => exact ⟨.ok (), w, ⟨w, rfl, .refl w⟩, rfl, rfl⟩
  | beforeSend eventId signature => exact ⟨.ok (), w, ⟨w, rfl, .refl w⟩, trivial, rfl⟩
  | rpc provider call =>
      obtain ⟨reply, served, truth, failed⟩ := exists_served env.net cluster (faithful provider) call
      cases reply with
      | ok answer =>
          exact ⟨.ok answer, _, ⟨_, ⟨fun _ => truth answer rfl, [], .inl rfl, rfl⟩, .refl _⟩, served, rfl⟩
      | error error =>
          exact ⟨.error error, _, ⟨_, ⟨failed error rfl, [], .inl rfl, rfl⟩, .refl _⟩, served, rfl⟩

/-- It begins no attempt. -/
def Op.BeginsNothing : Op → Prop
  | .store (.beginAttempt _ _ _) => False
  | _ => True

theorem beginsNothing_decides : Decides Op.BeginsNothing where
  lookup _ _ _ := trivial
  polls := trivial
  log _ := trivial
  event _ := trivial
  note _ _ := trivial
  incident _ _ := trivial
  records _ _ _ _ _ := trivial
  attempts _ := trivial
  resends _ := trivial
  marks _ _ _ := trivial
  sets _ _ _ := trivial

variable (env archive) in
/-- In a quiet moment a resolve of the event ends in one way, with the status that goes
with it. -/
structure Decided (options : WorkerOptions) (eventId : JsString) (w : World D env.net)
    (outcome : Outcome) : Prop where
  returns : Interaction.Returns (Prompt env archive (options.cluster.getD .devnet))
    (options.resolve env.host eventId) w
  ends : ∃ w', Interaction.Steps (Prompt env archive (options.cluster.getD .devnet))
    (options.resolve env.host eventId, w) (.pure outcome, w')
  only : ∀ told w', Interaction.Steps (Prompt env archive (options.cluster.getD .devnet))
    (options.resolve env.host eventId, w) (.pure told, w') →
      told = outcome ∧ w'.status eventId = some outcome.status

/-- What a resolve comes to with the files in order, it comes to. -/
theorem decided_iff {outcome : Outcome} {possible : Prop}
    (filed : FiledFor D ns (column eventId) w.store) (journal : Journal w.store)
    (faithful : ∀ provider, Faithful (archive provider) (w.view provider))
    (prompted : PromptedOr env archive (options.cluster.getD .devnet) ns (column eventId)
      (options.resolve env.host eventId) (fun told _ => told = outcome ∧ possible) (¬ possible) w) :
    Decided env archive options eventId w outcome ↔ possible := by
  let quiet := Prompt env archive (options.cluster.getD .devnet)
  let inv (w : World D env.net) : Prop := FiledFor D ns (column eventId) w.store
  have guarded : Interaction.Safe (Promptly env archive (options.cluster.getD .devnet) ns (column eventId))
      (fun _ op => op.BeginsNothing) (options.resolve env.host eventId)
      (fun told _ => told = outcome ∧ possible) (fun _ _ => ¬ possible) w :=
    prompted.guard_of_uses (beginsNothing_decides.uses_resolve eventId) fun _ _ nothing _ => nothing
  have keeps (w : World D env.net) (op : Op) (reply : Except Thrown op.Reply) (w' : World D env.net)
      (nothing : op.BeginsNothing) (filed : inv w) (moved : quiet w op reply w') : inv w' := by
    refine filed.of_step ?_ moved.moved
    cases op with
    | store method =>
        cases method with
        | beginAttempt eventId request params => exact nothing.elim
        | _ => exact trivial
    | _ => exact trivial
  have safe : Interaction.Safe quiet (fun w op => op.BeginsNothing ∧ inv w)
      (options.resolve env.host eventId) (fun told w' => (told = outcome ∧ possible) ∧ inv w')
      (fun _ w' => ¬ possible ∧ inv w') w := Interaction.Safe.within guarded keeps filed
  constructor
  · rintro ⟨_, ⟨w', ran⟩, _⟩
    exact (safe.returned ran).1.2
  intro holds
  have returns : Interaction.Returns quiet (options.resolve env.host eventId) w :=
    (safe.mono (fun _ _ both => both) fun _ _ both => both.1 holds).returns
  have only (told : Outcome) (w' : World D env.net) (ran : Interaction.Steps quiet
      (options.resolve env.host eventId, w) (.pure told, w')) : told = outcome :=
    (safe.returned ran).1.1
  let kept (w : World D env.net) : Prop := ∀ provider, Faithful (archive provider) (w.view provider)
  have answers (w : World D env.net) (op : Op) (faithful : kept w) :
      ∃ reply w', quiet w op reply w' := exists_prompt faithful op
  have stays (w : World D env.net) (op : Op) (reply : Except Thrown op.Reply) (w' : World D env.net)
      (faithful : kept w) (moved : quiet w op reply w') : kept w' := by
    intro provider
    rw [moved.still]
    exact faithful provider
  obtain ⟨ended, last, ran⟩ := Interaction.exists_steps_kept answers stays
    (options.resolve env.host eventId) w faithful
  refine ⟨returns, ?_, ?_⟩
  · cases ended with
    | error error => exact absurd ran (returns.returns error last)
    | ok told =>
        obtain rfl := only told last ran
        exact ⟨last, ran⟩
  · intro told w' ran
    obtain rfl := only told w' ran
    refine ⟨rfl, ?_⟩
    have here (params : AttemptParams) (_ : options.Made params) : True := trivial
    have careful : Careful env options.attemptLimit (fun _ => True) (column eventId)
        (options.resolve env.host eventId) (Reports (column eventId)) (fun _ _ => True) w :=
      careful_resolve here rfl w
    have safe := Interaction.Safe.within careful
      (fun w op reply w' owes journal moved => owes.journal journal moved) journal
    have moved : Interaction.Steps (step env) (options.resolve env.host eventId, w) (.pure told, w') :=
      ran.mono fun _ _ _ _ prompt => prompt.moved
    exact Store.event_of_standing (safe.returned moved).1

/-- An event that one of its attempts settled is decided in a quiet moment, as paid, if it
is creditable. -/
theorem decided_paid_iff (filed : FiledFor D ns (column eventId) w.store) (journal : Journal w.store)
    (labelled : w.store.Labelled) (program : options.programId = D.programId)
    (sameNs : options.ns = ns)
    (timed : 0 < options.finalityTimeoutMs.getD 60000 ∧ 0 < options.pollIntervalMs.getD 1000)
    (faithful : ∀ provider, Faithful (archive provider) (w.view provider)) {event : StoredEvent}
    (stored : w.store.event eventId = some event) (inFlight : event.status = .inFlight)
    (atRest : ∀ attempt ∈ w.store.attempts eventId, attempt.AtRest (w.view .primary))
    {seed : Bytes32} (seeded : eventIdSeed env.host eventId = .ok seed) {landing : Landing D}
    {history : List (Landing D)} {attempt : StoredAttempt} (mem : attempt ∈ w.store.attempts eventId)
    (built : BuiltFor D env.host ns (WorkerOptions.storedRequest attempt) landing.transaction)
    (evident : Evident archive (w.view .primary) ns seed landing history) :
    Decided env archive options eventId w .paid ↔ Creditable event := by
  obtain ⟨row, inEvents, sameId, isEvent⟩ := Store.event_eq_some.mp stored
  obtain ⟨inRows, id⟩ := Store.mem_attempts.mp mem
  obtain ⟨settles, reconciliation, reconciled⟩ :=
    settled_by_built built (filed.seeded inRows id seeded) evident.showable options
  have named : Labelled event.beneficiaryIds := isEvent ▸ labelled row inEvents
  have unmoved : Unmoved env fun w' => ∃ other ∈ w'.store.attemptRows.rows,
      other.eventId = column eventId ∧
        WorkerOptions.storedRequest other = WorkerOptions.storedRequest attempt :=
    fun w op reply w' plain made moved => (moved.attempts plain _ _).mpr made
  refine decided_iff filed journal faithful
    (prompted_resolve program sameNs stored inFlight atRest unmoved ⟨attempt, inRows, id, rfl⟩ ?_)
  intro w' snapshot made still
  rw [← still] at evident
  exact prompted_decide_settled program sameNs seeded snapshot (isEvent ▸ sameId) named timed evident
    settles made reconciled

end Progress

/-- An event that one of its attempts settled, with amounts that a node can show, does not
become an incident. -/
theorem own_settlement_no_incident (env : Environment D) (ns : Pubkey)
    (honest : ∀ call, env.honest .second call) {start w w' : World D env.net}
    (initial : start.Initial) {process : Process (Confirms D ns)} {op : Op}
    {reply : Except Thrown op.Reply} {eventId : JsString} (asks : Asking env ns start process w op)
    (moved : step env w op reply w') (faithful : FaithfulOn env ns eventId w) {landing : Landing D}
    (finalized : landing ∈ w.cluster.finalizedLedger) (showable : Showable landing)
    {attempt : StoredAttempt} (mem : attempt ∈ w.store.attempts eventId)
    (built : BuiltFor D env.host ns (WorkerOptions.storedRequest attempt) landing.transaction)
    (before : w.status eventId ≠ some .incident) : w'.status eventId ≠ some .incident := by
  intro raised
  obtain ⟨row, _, named, seed, amount, seeded, _, creator, onChain, settles, contradicts⟩ :=
    contradicted_of_incident honest initial asks moved raised before faithful
  have filed : Filed D ns w.store := (Deciding.asks
    (fun process : Process (Confirms D ns) => .judged honest process.property.second
      process.property.programId process.property.ns) (fun _ _ _ judged => judged.beginsOwn)
    (fun _ confirms => ⟨confirms.programId, confirms.ns⟩) initial asks).2
  obtain ⟨inRows, id⟩ := Store.mem_attempts.mp mem
  obtain ⟨topLevel, reconciliation, reconciled⟩ :=
    settled_by_built built (filed.seeded inRows id seeded) showable process.val.options
  -- one landing created the record, so it is the attempt's, and it reconciles
  have landed := Cluster.mem_of_mem_finalizedLedger finalized
  obtain rfl : creator = landing := w.cluster_grown.landing_unique
    (Cluster.mem_of_mem_finalizedLedger onChain) landed settles
    (w.cluster_grown.settles_of_topLevel landed showable.succeeded topLevel)
  obtain ⟨error, _, refused⟩ := contradicts _ (.inl ⟨attempt, inRows, id.trans named.symm, rfl⟩)
  cases refused.symm.trans reconciled

/-- **At rest, decided.** Whatever happened before in a studio whose primary provider is
honest: take an event in flight whose attempts are at rest, and a quiet moment, in which
every provider answers at once and stands still. If a transaction that was sent for the
event settled it and is `Evident` (in a short history without another settlement of the
event, shown by every provider in a block with a date, each amount below `2 ^ 53`), and
the worker's timeouts are positive, a resolve can be carried out, ends, and ends in one
way, the event paid, if and only if every share that is not pooled is credited to a
text. If no provider sees a record, it ends with the event pending again, or given up
after its last attempt. -/
theorem decided_at_rest (env : Environment D) (ns : Pubkey)
    (honest : ∀ call, env.honest .primary call) (configured : WorkerOptions → Prop)
    (here : ∀ options, configured options → options.programId = D.programId ∧ options.ns = ns)
    {start w : World D env.net} (initial : start.Initial) (reached : Run env configured start w)
    (options : WorkerOptions) (allowed : configured options) (archive : Provider → Archive)
    (faithful : ∀ provider, Faithful (archive provider) (w.view provider)) (eventId : JsString)
    (event : StoredEvent) (stored : w.store.event eventId = some event)
    (inFlight : event.status = .inFlight)
    (atRest : ∀ attempt ∈ w.store.attempts eventId, attempt.AtRest (w.view .primary))
    (seed : Bytes32) (seeded : eventIdSeed env.host eventId = .ok seed) :
    (∀ landing history,
      0 < options.finalityTimeoutMs.getD 60000 ∧ 0 < options.pollIntervalMs.getD 1000 →
      SentFor env (column eventId) landing.transaction w →
      Evident archive (w.view .primary) ns seed landing history →
      (Decided env archive options eventId w .paid ↔ Creditable event)) ∧
    ((∀ provider, readSettlementRecord D.programId (recordAddress D ns seed)
        (existing ((w.view provider).accounts (recordAddress D ns seed))) seed = .ok none) →
      Decided env archive options eventId w
        (if event.attempts ≥ options.attemptLimit then .needsAttention else .retry)) := by
  have ready : Ready env ns w := Run.ready honest here initial reached
  obtain ⟨program, sameNs⟩ := here options allowed
  obtain ⟨row, mem, sameId, isEvent⟩ := Store.event_eq_some.mp stored
  constructor
  · intro landing history timed sentFor evident
    obtain ⟨attempt, inRows, id, built⟩ := ready.built_of_sentFor sentFor
    exact decided_paid_iff (ready.filed.for _) ready.journal (Run.labelled initial reached) program sameNs
      timed faithful stored inFlight atRest seeded (Store.mem_attempts.mpr ⟨inRows, id⟩) built evident
  · intro absent
    have resolved : PromptedOr env archive (options.cluster.getD .devnet) ns (column eventId)
        (options.resolve env.host eventId) (fun told _ => told = (if event.attempts ≥
          options.attemptLimit then .needsAttention else .retry) ∧ True) (¬ True) w := by
      refine prompted_resolve program sameNs stored inFlight atRest .true trivial ?_
      intro w' snapshot _ still
      rw [← still] at absent
      exact (prompted_decide_unsettled program sameNs seeded absent).mono
        (fun _ _ same => ⟨same, trivial⟩) fun _ _ failed => failed.elim
    exact (decided_iff (ready.filed.for _) ready.journal faithful resolved).mpr trivial

/-! ### Sample decisions

The sample transaction is sent, and nobody looks for a while. It lands meanwhile, or its
blockhash gets too old. -/

/-- It landed. -/
def sampleLanded : World sampleDeployment sampleNetwork :=
  sampleAt sampleSettled sampleSettled_grown sampleIdle.2

/-- A node that has no history. -/
def emptyArchive : Archive := ⟨fun _ _ _ => [], fun _ => none⟩

theorem sampleIdle_waits : sampleRaw ∈ sampleIdle.2.forwarded ∧
    (sampleIdle.2.store.event (js "event-1")).any (fun event => event.status = .inFlight ∧
      event.attempts = 1 ∧ ∀ share ∈ event.request.shares, share.label ∉ inheritedNames) = true ∧
    (∃ attempt ∈ sampleIdle.2.store.attemptRows.rows, attempt.eventId = js "event-1" ∧
      attempt.rawTransaction = some (base64Encode sampleRaw)) ∧
    ∀ attempt ∈ sampleIdle.2.store.attempts (js "event-1"),
      attempt.signature = some sampleSigned.id ∧ attempt.lastValidBlockHeight = some 100 := by
  decide +kernel

/-- The amounts and the date that are shown of the settlement, and no record without it. -/
theorem sampleLanding_shows : (∀ cpi ∈ sampleAfter.inner, FitsNumber cpi) ∧
    (settledAt 1767225600).isOk ∧
    (existing (sampleAged.cluster.accounts sampleRecordAddress)).isNone = true := by
  decide +kernel

theorem sampleLanding_fits : MovesFit sampleLanding.executed := by
  intro accounts data before after ran mem
  rcases List.mem_cons.mp mem with same | mem
  · cases same
  · cases List.mem_singleton.mp mem
    exact sampleLanding_shows.1

theorem sampleLanding_evident :
    Evident (fun _ => settledArchive) sampleSettled sampleNamespace
      (sampleHost.sha256 (textEncode sampleRequest.eventId)) sampleLanding [sampleLanding] where
  truthful := sampleHistory
  inside := List.mem_singleton_self _
  succeeded := rfl
  few := by decide
  only other mem _ := List.mem_singleton.mp mem
  shown _ := (sampleHistory.transactions sampleLanding (List.mem_singleton_self _) rfl).1
  fits := sampleLanding_fits
  dated := ⟨_, _, rfl, eq_ok_of_isOk [] sampleLanding_shows.2.1⟩

theorem settledArchive_faithful : Faithful settledArchive sampleSettled := by
  intro signature transaction shown
  dsimp only [settledArchive] at shown
  split at shown
  · next same =>
    exact ⟨sampleLanding, List.mem_singleton_self _, same.symm, (Option.some.inj shown).symm⟩
  · cases shown

theorem decided_at_rest_sample :
    Decided sampleEnvironment (fun _ => settledArchive) sampleWorker (js "event-1") sampleLanded .paid ∧
      Decided sampleEnvironment (fun _ => emptyArchive) sampleWorker (js "event-1") sampleAged .retry := by
  let configured (options : WorkerOptions) : Prop := options = sampleWorker
  have here (options : WorkerOptions) (same : configured options) :
      options.programId = sampleDeployment.programId ∧ options.ns = sampleNamespace := by
    rw [same]
    exact ⟨rfl, rfl⟩
  let process : Process configured := ⟨⟨sampleWorker, .run none⟩, rfl⟩
  have queued : outside sampleEnvironment sampleStart sampleQueued := .inl sampleQueued_passes
  have idle : Run sampleEnvironment configured sampleStart sampleIdle.2 :=
    .command (.outside .start queued) process _ sampleIdle_steps.1
  have landed : outside sampleEnvironment sampleIdle.2 sampleLanded :=
    outside_sampleAt sampleSettled_grown sampleIdle_steps.2 sampleSettled_later
  have aged : outside sampleEnvironment sampleIdle.2 sampleAged :=
    outside_sampleAt sampleOld_grown sampleIdle_steps.2 sampleOld_later
  obtain ⟨sent, waiting, ⟨attempt, mem, id, carries⟩, signed⟩ := sampleIdle_waits
  obtain ⟨event, stored, known⟩ := (Option.any_eq_true _ _).mp waiting
  obtain ⟨inFlight, once, named⟩ := of_decide_eq_true known
  have seeded : eventIdSeed sampleHost (js "event-1") =
      .ok (sampleHost.sha256 (textEncode sampleRequest.eventId)) :=
    eventIdSeed_eq_ok.mpr ⟨by decide, rfl⟩
  constructor
  · have sentFor : SentFor sampleEnvironment (column (js "event-1")) sampleLanding.transaction
        sampleLanded := ⟨attempt, mem, sampleRaw, sent, id, carries, rfl⟩
    exact ((decided_at_rest sampleEnvironment sampleNamespace (fun _ => trivial) configured here
      sampleStart_initial (.outside idle landed) sampleWorker rfl (fun _ => settledArchive)
      (fun _ => settledArchive_faithful) (js "event-1") event stored inFlight
      (fun attempt mem _ signature isSigned => .inl ⟨sampleLanding, List.mem_singleton_self _,
        Option.some.inj ((signed attempt mem).1.symm.trans isSigned)⟩) _ seeded).1 sampleLanding
      [sampleLanding] (by decide) sentFor sampleLanding_evident).mpr (.of_labels named)
  · have absent : readSettlementRecord sampleDeployment.programId sampleRecordAddress
        (existing (sampleAged.cluster.accounts sampleRecordAddress))
        (sampleHost.sha256 (textEncode sampleRequest.eventId)) = .ok none := by
      rw [Option.isNone_iff_eq_none.mp sampleLanding_shows.2.2]
      rfl
    have decided := (decided_at_rest sampleEnvironment sampleNamespace (fun _ => trivial) configured here
      sampleStart_initial (.outside idle aged) sampleWorker rfl (fun _ => emptyArchive)
      (fun _ signature transaction shown => by cases shown) (js "event-1") event stored inFlight
      (fun attempt mem _ signature isSigned => .inr ⟨fun landing old => absurd old List.not_mem_nil,
        fun lastValid last => by
          obtain rfl := Option.some.inj ((signed attempt mem).2.symm.trans last)
          decide⟩) _ seeded).2 fun _ => absent
    rwa [once] at decided

end Synxed.Studio
