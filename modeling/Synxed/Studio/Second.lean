import Synxed.Sdk.Copies
import Synxed.Studio.Alone

/-!
A worker with an honest second provider and a primary one that may answer
anything.

An event is recorded paid from the copy that the primary shows last, after the
second provider confirmed the match. `Matched` is what such a worker knows.

* `Deciding.matched`: the worker records only what it matched.
* `recorded_iff`: what it records is what reconciling with the second provider
  gives exactly when the two copies agree in slot, date, payer and authority; the
  ledger rows are the same anyway.
-/

namespace Synxed.Studio

open Synxed.Lib Synxed.Program Synxed.Sdk

variable {D : Deployment} {net : Network}

/-! ### What was shown -/

/-- The last answer of all is this transaction, shown by the primary when it was
asked for the signature. -/
def ShownLast (signature : JsString) (transaction : ParsedTransaction) (w : World D net) : Prop :=
  ∃ view, w.answers.getLast? =
    some ⟨.primary, .getParsedTransaction signature, some transaction, view⟩

/-- The finalized transaction with this signature, as the second provider sees
the chain. -/
def TrueCopy (signature : JsString) (transaction : ParsedTransaction) (w : World D net) : Prop :=
  ∃ landing ∈ (w.view .second).finalizedLedger,
    landing.transaction.id = signature ∧ landing.shown = transaction

variable {env : Environment D} {ns : Pubkey} {w w' : World D env.net} {signature : JsString}
  {transaction transaction' : ParsedTransaction}

theorem TrueCopy.onward (copy : TrueCopy signature transaction w) (onward : Onward w w') :
    TrueCopy signature transaction w' := by
  obtain ⟨landing, mem, same⟩ := copy
  exact ⟨landing, (onward.view .second).mem_finalizedLedger mem, same⟩

/-- There is one true copy. -/
theorem TrueCopy.unique (copy : TrueCopy signature transaction w)
    (copy' : TrueCopy signature transaction' w) : transaction = transaction' := by
  obtain ⟨landing, mem, id, rfl⟩ := copy
  obtain ⟨landing', mem', id', rfl⟩ := copy'
  rw [(w.grown .second).landing_of_signature (Cluster.mem_of_mem_finalizedLedger mem)
    (Cluster.mem_of_mem_finalizedLedger mem') (id.trans id'.symm)]

theorem step.shownLast {found : Option ParsedTransaction}
    (moved : step env w (.rpc .primary (.getParsedTransaction signature)) (.ok found) w') :
    ∀ transaction, found = some transaction → ShownLast signature transaction w' := by
  rintro transaction rfl
  obtain ⟨middle, ⟨_, given, _, rfl⟩, passes⟩ := moved
  exact ⟨w.view .primary, by rw [passes.answers]; exact List.getLast?_concat⟩

/-- An honest second provider shows true copies. -/
theorem step.trueCopy (honest : ∀ call, env.honest .second call) {found : Option ParsedTransaction}
    (moved : step env w (.rpc .second (.getParsedTransaction signature)) (.ok found) w') :
    ∀ transaction, found = some transaction → TrueCopy signature transaction w' := by
  rintro transaction rfl
  obtain ⟨view, _, later, landing, mem, id, shown⟩ := moved.heard.truth moved.onward (honest _)
  exact ⟨landing, later.mem_finalizedLedger mem, id, shown.symm⟩

/-! ### Matching -/

/-- A request stored for an event: one of its attempts', or its own at the worker's
parameters when it has none. -/
def StoredFor (options : WorkerOptions) (row : EventRow) (stored : StoredRequest) (store : Store) :
    Prop :=
  (∃ attempt ∈ store.attemptRows.rows, attempt.eventId = row.eventId ∧
      WorkerOptions.storedRequest attempt = stored) ∨
    (∀ attempt ∈ store.attemptRows.rows, attempt.eventId ≠ row.eventId) ∧
      stored = ⟨row.request, options.params⟩

/-- What the worker reconciles a row's request with. -/
def WorkerOptions.matchOptions (options : WorkerOptions) (D : Deployment) (ns : Pubkey)
    (signature : JsString) (row : EventRow) (stored : StoredRequest) : ReconcileSettlementNOptions :=
  options.reconcileOptions signature stored D.programId ns (some row.beneficiaryIds)

/-- A reconciliation has time. -/
abbrev Timed (asked : ReconcileSettlementNOptions) : Prop :=
  0 < asked.finalityTimeoutMs.getD 60000 ∧ 0 < asked.pollIntervalMs.getD 1000

variable (env ns) in
/-- What a worker that records a paid event knows: the copy that the primary showed
last and the true copy both reconcile with a request stored for the event, and the
first gives what is recorded. -/
structure Matched (options : WorkerOptions) (eventId : JsString) (rows : SettlementReconciliation)
    (row : EventRow) (stored : StoredRequest) (copy honest : ParsedTransaction)
    (rows' : SettlementReconciliation) (w : World D env.net) : Prop where
  event : row ∈ w.store.events.rows ∧ row.eventId = column eventId
  keptFor : StoredFor options row stored w.store
  request : stored.request = row.request
  timed : Timed (options.matchOptions D ns rows.record.signature row stored)
  shown : ShownLast rows.record.signature copy w
  confirmed : TrueCopy rows.record.signature honest w
  primary : reconcileTransaction env.host
    (options.matchOptions D ns rows.record.signature row stored) copy = .ok rows
  second : reconcileTransaction env.host
    (options.matchOptions D ns rows.record.signature row stored) honest = .ok rows'

/-- Beneficiary ids only label rows: where one copy reconciles with them, another
that reconciles without them reconciles with them too. -/
theorem reconciled_labelled {H : Host} {options : WorkerOptions} {stored : StoredRequest}
    {programId ns : Pubkey} {ids : List (JsString × JsString)} {copy honest : ParsedTransaction}
    {rows plain : SettlementReconciliation}
    (labelled : reconcileTransaction H (options.reconcileOptions signature stored programId ns
      (some ids)) copy = .ok rows)
    (reconciled : reconcileTransaction H (options.reconcileOptions signature stored programId ns none)
      honest = .ok plain) :
    ∃ rows', reconcileTransaction H (options.reconcileOptions signature stored programId ns
      (some ids)) honest = .ok rows' := by
  obtain ⟨_, _, compared⟩ := bind_eq_ok.mp labelled
  obtain ⟨_, _, found, _, _⟩ := reconcileObservedSettlementN_eq_ok.mp compared
  obtain ⟨observation', observed', compared'⟩ := bind_eq_ok.mp reconciled
  obtain ⟨amounts, date, found', dated, _⟩ := reconcileObservedSettlementN_eq_ok.mp compared'
  refine ⟨_, bind_eq_ok.mpr ⟨observation', observed',
    reconcileObservedSettlementN_eq_ok.mpr ⟨amounts, date, ?_, dated, rfl⟩⟩⟩
  exact { found' with beneficiaries := found.beneficiaries }

/-- A stored request is one of those stored for the event. -/
theorem Known.storedFor {options : WorkerOptions} {event : StoredEvent} {attempts : List StoredAttempt}
    {stored : StoredRequest} {row : EventRow} (known : Known ns event attempts w)
    (id : row.eventId = event.eventId) (request : row.request = event.request)
    (mem : stored ∈ options.requestsOf event attempts) : StoredFor options row stored w.store := by
  unfold WorkerOptions.requestsOf at mem
  split at mem
  · next none =>
      refine .inr ⟨fun attempt inRows same => ?_, ?_⟩
      · have inside := (known.all (WorkerOptions.storedRequest attempt)).mpr
          ⟨attempt, inRows, same.trans id, rfl⟩
        rw [none] at inside
        cases inside
      · rw [List.mem_singleton.mp mem, request]
  · obtain ⟨attempt, inRows, same, is⟩ := (known.all stored).mp (mem_distinctRequests.mp mem)
    exact .inl ⟨attempt, inRows, same.trans id.symm, is⟩

variable {options : WorkerOptions}

section Matching

variable {guard : World D env.net → Op → Prop} (plain : ∀ w op, op.Plain → guard w op)

include plain

/-- Asking a provider is plain. -/
theorem alone_request {provider : Provider} {call : Rpc} {post : call.Answer → World D env.net → Prop}
    (ended : ∀ answer w', step env w (.rpc provider call) (.ok answer) w' → post answer w') :
    Alone env ns guard ((connectionTo provider).request call) post
      (fun error _ => ∃ text, error = .other text) w := by
  refine Interaction.safe_perform.mpr ⟨plain w _ trivial, ?_, ?_⟩
  · rintro answer w' ⟨_, moved, _⟩
    exact ended answer w' moved
  · rintro error w' ⟨_, ⟨middle, ⟨text, _⟩, _⟩, _⟩
    exact text

theorem alone_reconcile {provider : Provider} {stored : StoredRequest}
    {good : ParsedTransaction → World D env.net → Prop}
    (program : stored.params.programId = toBase58 D.programId) (sameNs : stored.params.ns = toBase58 ns)
    (ids : Option (List (JsString × JsString)))
    (told : ∀ w found w', step env w (.rpc provider (.getParsedTransaction signature)) (.ok found) w' →
      ∀ transaction, found = some transaction → good transaction w') (w : World D env.net) :
    Alone env ns guard (options.reconcile env.host provider signature stored ids)
      (Tells env.host good (options.reconcileOptions signature stored D.programId ns ids))
      (fun _ _ => True) w := by
  refine safe_reconcile program sameNs ids (fun w => ?_) (fun w => ?_) (fun w => ?_) w
  · exact alone_request plain fun found w' moved => told w found w' moved
  · exact alone_request plain fun _ _ _ => trivial
  · refine Interaction.safe_perform.mpr ⟨plain w _ trivial, fun _ _ _ => trivial, ?_⟩
    rintro error w' ⟨_, ⟨middle, ⟨⟨_, same⟩, _⟩, _⟩, _⟩
    cases same

end Matching

/-- Without a positive timeout nothing is asked, and nothing matches. -/
theorem reconcile_untimed {H : Host} {provider : Provider} {stored : StoredRequest}
    (program : stored.params.programId = toBase58 D.programId) (sameNs : stored.params.ns = toBase58 ns)
    (ids : Option (List (JsString × JsString)))
    (untimed : ¬ Timed (options.reconcileOptions signature stored D.programId ns ids)) :
    ∃ text, options.reconcile H provider signature stored ids = pure (.refused false text) := by
  have refused : reconcileSettlementN H (connectionTo provider)
      (options.reconcileOptions signature stored D.programId ns ids) =
        throw (.ledger ⟨.TX_NOT_FOUND, js "finality timeout and poll interval must be positive"⟩) := by
    unfold reconcileSettlementN
    rw [ensure, if_neg untimed]
    rfl
  unfold WorkerOptions.reconcile
  rw [program, sameNs, parseKey_toBase58, parseKey_toBase58]
  have tried : (Interaction.ofExcept (.ok D.programId) >>= fun programId =>
      Interaction.ofExcept (.ok ns) >>= fun ns => reconcileSettlementN H (connectionTo provider)
        (options.reconcileOptions signature stored programId ns ids)) =
      throw (.ledger ⟨.TX_NOT_FOUND, js "finality timeout and poll interval must be positive"⟩) :=
    refused
  rw [tried]
  exact ⟨_, rfl⟩

/-! ### What may be recorded -/

variable (env ns) in
/-- An attempt begins for its event, and only what was matched is recorded. -/
def Op.Confirmed (options : WorkerOptions) (w : World D env.net) : Op → Prop
  | .store (.beginAttempt eventId request params) =>
      (Method.beginAttempt eventId request params).BeginsOwn D ns w.store
  | .store (.recordPaid eventId _ record directEntries poolPayouts) =>
      ∃ row stored copy honest rows', Matched env ns options eventId
        ⟨record, directEntries, poolPayouts⟩ row stored copy honest rows' w
  | _ => True

/-- An operation that begins nothing and records nothing. -/
def Op.Silent : Op → Prop
  | .store (.beginAttempt _ _ _) => False
  | .store (.recordPaid _ _ _ _ _) => False
  | _ => True

theorem silent_notes : Notes Op.Silent where
  lookup _ _ _ := trivial
  polls := trivial
  log _ := trivial
  event _ := trivial
  note _ _ := trivial

theorem Op.Silent.confirmed {options : WorkerOptions} {op : Op} (silent : op.Silent) :
    op.Confirmed env ns options w := by
  cases op with
  | store method => cases method <;> first | exact trivial | exact silent.elim
  | _ => trivial

theorem Op.Plain.silent {op : Op} (plain : op.Plain) : op.Silent := by
  cases op with
  | store method => cases method <;> first | exact trivial | exact plain.elim
  | _ => trivial

variable (env ns) in
/-- A part of the worker records only what it matched. -/
abbrev Confirming {α : Type} (options : WorkerOptions) (program : Work α)
    (post : α → World D env.net → Prop) (fail : Thrown → World D env.net → Prop)
    (w : World D env.net) : Prop :=
  Alone env ns (fun w op => op.Confirmed env ns options w) program post fail w

/-- Parts that are silent are free. -/
theorem alone_silent {α : Type} {program : Work α} (uses : program.Uses Op.Silent) :
    Confirming env ns options program (fun _ _ => True) (fun _ _ => True) w :=
  Interaction.Safe.of_uses uses (fun _ _ silent _ => silent.confirmed) (fun _ _ _ _ _ _ _ => trivial)
    trivial

/-- What stays with plain operations stays with the confirmed ones that a search
or a reconciliation asks. -/
theorem alone_kept {α : Type} {program : Work α} {kept : World D env.net → Prop}
    (uses : program.Uses Op.Plain) (unmoved : Unmoved env kept) (holds : kept w) :
    Confirming env ns options program (fun _ => kept) (fun _ => kept) w :=
  Interaction.Safe.of_uses uses (fun _ _ plain _ => plain.silent.confirmed)
    (fun _ _ _ _ plain holds moved => unmoved _ _ _ _ plain holds moved.2.1) holds

theorem Unmoved.trueCopy (signature : JsString) (honest : ParsedTransaction) :
    Unmoved env (TrueCopy signature honest) :=
  fun _ _ _ _ _ copy moved => copy.onward moved.onward

/-- A match that the second provider confirmed. -/
theorem alone_confirmMatch (honest : ∀ call, env.honest .second call)
    (second : options.secondConnection = true) {event : StoredEvent} {stored : StoredRequest}
    (own : Stored D ns event stored) (w : World D env.net) :
    Confirming env ns options (options.confirmMatch env.host signature stored)
      (fun confirmed w' => confirmed = true → ∃ honest plain, TrueCopy signature honest w' ∧
        reconcileTransaction env.host (options.reconcileOptions signature stored D.programId ns none)
          honest = .ok plain) (fun _ _ => True) w := by
  unfold WorkerOptions.confirmMatch
  rw [if_pos second]
  have reconciled : Confirming env ns options (options.reconcile env.host .second signature stored none)
      (Tells env.host (TrueCopy signature)
        (options.reconcileOptions signature stored D.programId ns none)) (fun _ _ => True) w :=
    alone_reconcile (fun _ _ plain => plain.silent.confirmed) own.programId own.ns none
      (fun _ _ _ moved => moved.trueCopy honest) w
  refine Interaction.Safe.bind reconciled fun result w' told isMatch => ?_
  match result with
  | .matched plain =>
      obtain ⟨honest, copy, same⟩ := told.1 plain rfl
      exact ⟨honest, plain, copy, same⟩
  | .refused _ _ => cases isMatch

/-- The rows of a match that the second provider confirmed. -/
theorem alone_writeMatch {event : StoredEvent} {attempts : List StoredAttempt}
    {created : SettlementTransaction} {stored : StoredRequest} {honest : ParsedTransaction}
    {plain : SettlementReconciliation} (own : Stored D ns event stored)
    (mem : stored ∈ options.requestsOf event attempts)
    (known : Known ns event attempts w) (copy : TrueCopy created.signature honest w)
    (reconciled : reconcileTransaction env.host
      (options.reconcileOptions created.signature stored D.programId ns none) honest = .ok plain) :
    Confirming env ns options (options.writeMatch env.host event attempts created stored)
      (fun _ _ => True) (fun _ _ => True) w := by
  unfold WorkerOptions.writeMatch
  by_cases timed : Timed (options.reconcileOptions created.signature stored D.programId ns
    (some event.beneficiaryIds))
  swap
  · obtain ⟨text, refused⟩ := reconcile_untimed (H := env.host) own.programId own.ns
      (some event.beneficiaryIds) timed
    rw [refused]
    exact alone_silent (silent_notes.uses_unresolved _ _)
  let program := options.reconcile env.host .primary created.signature stored (some event.beneficiaryIds)
  have told : Confirming env ns options program (Tells env.host (ShownLast created.signature)
      (options.reconcileOptions created.signature stored D.programId ns (some event.beneficiaryIds)))
      (fun _ _ => True) w :=
    alone_reconcile (fun _ _ plain => plain.silent.confirmed) own.programId own.ns
      (some event.beneficiaryIds) (fun _ _ _ moved => moved.shownLast) w
  have kept : Confirming env ns options program
      (fun _ w => Known ns event attempts w ∧ TrueCopy created.signature honest w)
      (fun _ w => Known ns event attempts w ∧ TrueCopy created.signature honest w) w :=
    alone_kept (plain_looks.uses_reconcile _ _ _ _)
      ((Unmoved.known event attempts).and (.trueCopy created.signature honest)) ⟨known, copy⟩
  refine Interaction.Safe.bind ((told.and kept).mono (fun _ _ both => both) fun _ _ _ => trivial)
    fun result w' both => ?_
  obtain ⟨told, known, copy⟩ := both
  match result with
  | .refused _ error => exact alone_silent (silent_notes.uses_unresolved _ _)
  | .matched rows =>
      obtain ⟨shown, last, same⟩ := told.1 rows rfl
      obtain ⟨rows', same'⟩ := reconciled_labelled same reconciled
      obtain ⟨row, inRows, id, request, ids⟩ := known.stored
      have signature := reconciled_signature same
      change rows.record.signature = created.signature at signature
      have matched : Matched env ns options event.eventId rows row stored shown honest rows' w' := by
        refine ⟨⟨inRows, id.trans known.column_eventId.symm⟩, known.storedFor id request mem,
          own.request.trans request.symm, timed, ?_, ?_, ?_, ?_⟩
        · rw [signature]
          exact last
        · rw [signature]
          exact copy
        · rw [signature, WorkerOptions.matchOptions, ids]
          exact same
        · rw [signature, WorkerOptions.matchOptions, ids]
          exact same'
      refine Interaction.Safe.bind (Interaction.safe_perform.mpr
        ⟨⟨row, stored, shown, honest, rows', matched⟩, fun _ _ _ => trivial, fun _ _ _ => trivial⟩)
        fun _ w _ => ?_
      exact alone_silent (Interaction.uses_bind (silent_notes.uses_log _) fun _ => trivial)

/-- A worker with an honest second provider records only what it matched. -/
theorem Deciding.confirmed (honest : ∀ call, env.honest .second call)
    (second : options.secondConnection = true) (program : options.programId = D.programId)
    (sameNs : options.ns = ns) :
    Deciding env ns options (fun w op => op.Confirmed env ns options w) fun _ _ _ => True where
  plain _ _ plain := plain.silent.confirmed
  begins _ _ _ _ own := own
  search _ _ := alone_silent (silent_notes.toLooks.uses_findSettlementTransaction _ _ _ _ _)
  unmoved _ _ _ _ _ _ _ _ := trivial
  matched w event attempts created stored known _ _ mem := by
    have own := stored_of_mem_requestsOf program sameNs known.own mem
    rw [WorkerOptions.recordMatch_eq]
    have kept : Confirming env ns options (options.confirmMatch env.host created.signature stored)
        (fun _ => Known ns event attempts) (fun _ => Known ns event attempts) w :=
      alone_kept (plain_looks.uses_confirmMatch _ _) (.known event attempts) known
    refine Interaction.Safe.bind (((alone_confirmMatch honest second own w).and kept).mono
      (fun _ _ both => both) fun _ _ _ => trivial) fun confirmed w both => ?_
    obtain ⟨told, known⟩ := both
    split
    · next isMatch =>
        obtain ⟨honest, plain, copy, reconciled⟩ := told isMatch
        exact alone_writeMatch own mem known copy reconciled
    · exact alone_silent (silent_notes.uses_unresolved _ _)
  mismatched w event attempts created primary _ _ _ := by
    rw [WorkerOptions.recordMismatch_eq]
    refine Interaction.Safe.bind (alone_silent (silent_notes.toLooks.uses_confirmMismatch _ _ _))
      fun confirmed w _ => ?_
    split
    · exact alone_silent (Interaction.uses_bind (uses_call trivial) fun _ =>
        Interaction.uses_bind (silent_notes.uses_log _) fun _ => trivial)
    · exact alone_silent (silent_notes.uses_unresolved _ _)

/-! ### What the second provider gives -/

/-- A reconciliation with an honest second provider is of the true copy. -/
theorem second_reconciled (honest : ∀ call, env.honest .second call)
    {asked : ReconcileSettlementNOptions} {rows : SettlementReconciliation}
    (ran : Interaction.Steps (step env)
      (reconcileSettlementN env.host (connectionTo .second) asked, w) (.pure rows, w')) :
    ∃ copy, TrueCopy asked.signature copy w' ∧ reconcileTransaction env.host asked copy = .ok rows := by
  have told (w : World D env.net) : Interaction.Safe (step env) (fun _ _ => True)
      ((connectionTo .second).request (.getParsedTransaction asked.signature))
      (fun found w' => ∀ transaction, found = some transaction →
        TrueCopy asked.signature transaction w') (fun _ _ => True) w :=
    Interaction.safe_perform.mpr ⟨trivial, fun _ _ moved => moved.trueCopy honest, fun _ _ _ => trivial⟩
  exact (safe_reconcileSettlementN told
    (fun w => Interaction.safe_perform.mpr ⟨trivial, fun _ _ _ => trivial, fun _ _ _ => trivial⟩)
    (fun w => Interaction.safe_perform.mpr ⟨trivial, fun _ _ _ => trivial, fun _ _ _ => trivial⟩)
    w).returned ran

/-- A second provider may answer truly at once. -/
theorem second_reconciles {asked : ReconcileSettlementNOptions} {rows : SettlementReconciliation}
    {copy : ParsedTransaction} (timed : Timed asked) (true_ : TrueCopy asked.signature copy w)
    (reconciled : reconcileTransaction env.host asked copy = .ok rows) :
    ∃ w', Interaction.Steps (step env)
      (reconcileSettlementN env.host (connectionTo .second) asked, w) (.pure rows, w') := by
  obtain ⟨landing, mem, id, rfl⟩ := true_
  let heard (w : World D env.net) (call : Rpc) (answer : call.Answer) : World D env.net :=
    { w with
      forwarded := w.forwarded ++ []
      answers := w.answers ++ [⟨.second, call, answer, w.view .second⟩] }
  have hears (w : World D env.net) (call : Rpc) (answer : call.Answer)
      (truth : Truth env.net (w.view .second) call answer) :
      step env w (.rpc .second call) (.ok answer) (heard w call answer) :=
    ⟨_, ⟨fun _ => truth, [], .inl rfl, rfl⟩, .refl _⟩
  have cluster := hears w .getGenesisHash (GENESIS_HASHES asked.cluster) trivial
  let w₁ := heard w .getGenesisHash (GENESIS_HASHES asked.cluster)
  have shown := hears w₁ (.getParsedTransaction asked.signature) (some landing.shown)
    ⟨landing, mem, id, rfl⟩
  have polled : step env w₁ .polls (.ok 0) w₁ := ⟨w₁, ⟨⟨0, rfl⟩, rfl⟩, .refl w₁⟩
  refine ⟨heard w₁ (.getParsedTransaction asked.signature) (some landing.shown), ?_⟩
  have asserted : Interaction.Steps (step env)
      (assertLedgerCluster (connectionTo .second) asked.cluster, w) (.pure (), w₁) := by
    refine (Interaction.Steps.bind (.perform cluster)).trans ?_
    rw [ensure, if_pos rfl]
    exact .refl
  have awaited : Interaction.Steps (step env)
      (awaitTransaction (connectionTo .second) asked.signature 0, w₁)
      (.pure (some landing.shown), heard w₁ (.getParsedTransaction asked.signature) _) :=
    .perform shown
  unfold reconcileSettlementN
  rw [ensure, if_pos timed]
  refine (Interaction.Steps.bind asserted).trans ?_
  refine (Interaction.Steps.bind (.perform polled)).trans ?_
  refine (Interaction.Steps.bind awaited).trans ?_
  dsimp only
  rw [reconciled]
  exact .refl

/-! ### Runs -/

theorem Op.Confirmed.beginsOwn {op : Op} (confirmed : op.Confirmed env ns options w) :
    op.BeginsOwn D ns w.store := by
  cases op with
  | store method => cases method <;> first | exact trivial | exact confirmed
  | _ => trivial

/-- Whether a studio's workers share a namespace and confirm with a second provider. -/
structure Confirms (D : Deployment) (ns : Pubkey) (options : WorkerOptions) : Prop where
  second : options.secondConnection = true
  programId : options.programId = D.programId
  ns : options.ns = ns

/-- What a worker of the studio records was matched. -/
theorem matched_of_asks (honest : ∀ call, env.honest .second call)
    {start : World D env.net} (initial : start.Initial) {process : Process (Confirms D ns)}
    {eventId : JsString} {attempt : Option Nat} {record : SettlementRecord}
    {directEntries : List LedgerEntry} {poolPayouts : List PayoutLine}
    (asks : Interaction.AsksEach (fun _ => step env)
      (fun process : Process (Confirms D ns) => process.val.work env.host env.net.sign) (outside env)
      start process w (.store (.recordPaid eventId attempt record directEntries poolPayouts))) :
    ∃ row stored copy honest rows', Matched env ns process.val.options eventId
      ⟨record, directEntries, poolPayouts⟩ row stored copy honest rows' w :=
  (Deciding.asks (fun process => .confirmed honest process.property.second process.property.programId
    process.property.ns) (fun _ _ _ confirmed => confirmed.beginsOwn)
    (fun _ confirms => ⟨confirms.programId, confirms.ns⟩) initial asks).1

variable (env) in
/-- Reconciling with the second provider gives these rows: it may, and gives no
others. -/
def GivenBySecond (asked : ReconcileSettlementNOptions) (rows : SettlementReconciliation)
    (w : World D env.net) : Prop :=
  (∃ w', Interaction.Steps (step env)
    (reconcileSettlementN env.host (connectionTo .second) asked, w) (.pure rows, w')) ∧
  ∀ other w', Interaction.Steps (step env)
    (reconcileSettlementN env.host (connectionTo .second) asked, w) (.pure other, w') → other = rows

theorem givenBySecond (honest : ∀ call, env.honest .second call) {asked : ReconcileSettlementNOptions}
    {rows : SettlementReconciliation} {copy : ParsedTransaction} (timed : Timed asked)
    (shown : TrueCopy asked.signature copy w)
    (reconciled : reconcileTransaction env.host asked copy = .ok rows) :
    GivenBySecond env asked rows w := by
  refine ⟨second_reconciles timed shown reconciled, fun other w' ran => ?_⟩
  obtain ⟨copy', shown', reconciled'⟩ := second_reconciled honest ran
  have onward : Onward w w' := (safe_onward _ w).returned ran
  obtain rfl := (shown.onward onward).unique shown'
  exact Except.ok.inj (reconciled'.symm.trans reconciled)

theorem GivenBySecond.unique {asked : ReconcileSettlementNOptions} {rows rows' : SettlementReconciliation}
    (given : GivenBySecond env asked rows w) (given' : GivenBySecond env asked rows' w) :
    rows = rows' := by
  obtain ⟨w', ran⟩ := given.1
  exact given'.2 rows w' ran

/-- **What is recorded of a paid event.** In every run of a studio whose workers
confirm with an honest second provider, whatever the primary answers: what a worker
records of an event is what reconciling the same signature and request with the
second provider gives, if and only if the copy that the primary showed last agrees
with the finalized transaction in slot, date, payer and authority. The ledger rows,
and the rest of the record, are the second provider's anyway. -/
theorem recorded_iff (env : Environment D) (ns : Pubkey) (honest : ∀ call, env.honest .second call)
    {start w : World D env.net} (initial : start.Initial) {process : Process (Confirms D ns)}
    {eventId : JsString} {attempt : Option Nat} {record : SettlementRecord}
    {directEntries : List LedgerEntry} {poolPayouts : List PayoutLine}
    (asks : Interaction.AsksEach (fun _ => step env)
      (fun process : Process (Confirms D ns) => process.val.work env.host env.net.sign) (outside env)
      start process w (.store (.recordPaid eventId attempt record directEntries poolPayouts))) :
    ∃ row ∈ w.store.events.rows, ∃ stored copy honest rows, row.eventId = column eventId ∧
      stored.request = row.request ∧ StoredFor process.val.options row stored w.store ∧
      ShownLast record.signature copy w ∧ TrueCopy record.signature honest w ∧
      (GivenBySecond env (process.val.options.matchOptions D ns record.signature row stored)
          ⟨record, directEntries, poolPayouts⟩ w ↔ Agree D.programId copy honest) ∧
      GivenBySecond env (process.val.options.matchOptions D ns record.signature row stored) rows w ∧
      directEntries = rows.directEntries ∧ poolPayouts = rows.poolPayouts ∧
      record = { rows.record with
        slot := record.slot
        payer := record.payer
        authority := record.authority
        settledAt := record.settledAt } := by
  obtain ⟨row, stored, copy, true_, rows, matched⟩ := matched_of_asks honest initial asks
  obtain ⟨direct, pool, rest, agree⟩ := reconciled_copies matched.primary matched.second
  have given := givenBySecond honest matched.timed matched.confirmed matched.second
  refine ⟨row, matched.event.1, stored, copy, true_, rows, matched.event.2, matched.request,
    matched.keptFor, matched.shown, matched.confirmed, Iff.trans ?_ agree, given, direct, pool, rest⟩
  constructor
  · exact fun given' => given'.unique given
  · intro same
    rw [same]
    exact given

/-! ### A sample run

The primary shows the settlement in another slot than it landed in. -/

/-- The second provider is honest. -/
def sampleDoubted : Environment sampleDeployment :=
  { sampleEnvironment with honest := fun provider _ => provider = .second }

/-- A worker that confirms with the second provider. -/
def sampleCautious : WorkerOptions := { sampleWorker with secondConnection := true }

/-- What the primary makes of a true answer. -/
def sampleLie : (call : Rpc) → call.Answer → call.Answer
  | .getParsedTransaction _, some transaction => some { transaction with slot := 8 }
  | _, answer => answer

/-- The surroundings answer at once, and the primary lies. -/
def misledRespond (w : World sampleDeployment sampleNetwork) :
    (op : Op) → Except Thrown op.Reply × World sampleDeployment sampleNetwork
  | .rpc .primary call =>
      match sampleAnswer w.cluster call with
      | .error error => (.error error, w)
      | .ok answer =>
          let answered := { w with
            forwarded := w.forwarded ++ handed call
            answers := w.answers ++ [⟨.primary, call, sampleLie call answer, w.view .primary⟩] }
          (.ok (sampleLie call answer), if handed call = [] then answered else settledWorld answered)
  | op => sampleRespond w op

theorem sampleDoubted_replies {w w' : World sampleDeployment sampleNetwork} {op : Op}
    {reply : Except Thrown op.Reply} (replies : Replies sampleEnvironment w op reply w') :
    Replies sampleDoubted w op reply w' := by
  cases op with
  | rpc provider call =>
      cases reply with
      | ok answer =>
          obtain ⟨truth, given, sent, same⟩ := replies
          refine ⟨fun _ => truth trivial, given, sent.imp id fun ⟨all, accepted⟩ => ⟨all, ?_⟩, same⟩
          rintro ⟨_, refused⟩
          exact accepted ⟨trivial, refused⟩
      | error error => exact replies
  | _ => exact replies

theorem misledRespond_step {w : World sampleDeployment sampleNetwork} (sample : SampleWorld w)
    (op : Op) :
    step sampleDoubted w op (misledRespond w op).1 (misledRespond w op).2 ∧
      SampleWorld (misledRespond w op).2 := by
  have honestly : step sampleDoubted w op (sampleRespond w op).1 (sampleRespond w op).2 ∧
      SampleWorld (sampleRespond w op).2 := by
    obtain ⟨⟨middle, replies, passes⟩, sample⟩ := sampleRespond_step sample op
    exact ⟨⟨middle, sampleDoubted_replies replies, passes⟩, sample⟩
  cases op with
  | rpc provider call =>
      cases provider with
      | second => exact honestly
      | primary =>
          cases answered : sampleAnswer w.cluster call with
          | error error =>
              simp only [misledRespond, sampleRespond, answered] at honestly ⊢
              exact honestly
          | ok answer =>
              have lied : Replies sampleDoubted w (.rpc .primary call) (.ok (sampleLie call answer)) { w with
                  forwarded := w.forwarded ++ handed call
                  answers := w.answers ++ [⟨.primary, call, sampleLie call answer, w.view .primary⟩] } := by
                refine ⟨fun honest => (by cases honest), handed call, .inr ⟨rfl, ?_⟩, rfl⟩
                rintro ⟨honest, _⟩
                cases honest
              simp only [misledRespond, answered]
              split
              · exact ⟨⟨_, lied, .refl _⟩, sample.chain, sample.current⟩
              · exact ⟨⟨_, lied, settledWorld_passes ⟨sample.chain, sample.current⟩⟩, .inr rfl,
                  fun _ => rfl⟩
  | _ => exact honestly

/-- The run up to the recording, which is of the settlement in another slot. -/
def Op.recordsElsewhere : Op → Bool
  | .store (.recordPaid _ _ record _ _) => record.signature = sampleSigned.id ∧ record.slot = 8
  | _ => false

/-- A run that is misled, up to the recording. -/
@[irreducible] def sampleMisled : Work Unit × World sampleDeployment sampleNetwork :=
  Interaction.play (fun w op => if op.recordsElsewhere then none else some (misledRespond w op)) 60
    (sampleRunOf sampleCautious, sampleQueued)

theorem sampleMisled_records : sampleMisled.1.asked.any Op.recordsElsewhere = true ∧
    sampleMisled.2.cluster.ledger.length = 1 := by
  decide +kernel

theorem sampleMisled_steps : Interaction.Steps (step sampleDoubted)
    (sampleRunOf sampleCautious, sampleQueued) sampleMisled ∧ SampleWorld sampleMisled.2 := by
  unfold sampleMisled
  refine Interaction.steps_play (fun w op reply w' (sample : SampleWorld w) answered => ?_) 60
    (sampleRunOf sampleCautious, sampleQueued) ⟨.inl rfl, fun _ => rfl⟩
  split at answered
  · cases answered
  · obtain ⟨rfl, rfl⟩ := Prod.ext_iff.mp (Option.some.inj answered)
    exact misledRespond_step sample op

def sampleCautiously : Process (Confirms sampleDeployment sampleNamespace) :=
  ⟨⟨sampleCautious, .run none⟩, rfl, rfl, rfl⟩

theorem sampleMisled_asks : ∃ eventId attempt record directEntries poolPayouts,
    record.signature = sampleSigned.id ∧ record.slot = 8 ∧
    Interaction.AsksEach (fun _ => step sampleDoubted)
      (fun process : Process (Confirms sampleDeployment sampleNamespace) =>
        process.val.work sampleDoubted.host sampleDoubted.net.sign) (outside sampleDoubted) sampleStart
      sampleCautiously sampleMisled.2
      (.store (.recordPaid eventId attempt record directEntries poolPayouts)) := by
  have queued : outside sampleDoubted sampleStart sampleQueued := .inl sampleQueued_passes
  obtain ⟨op, asked, elsewhere⟩ := (Option.any_eq_true _ _).mp sampleMisled_records.1
  obtain ⟨next, asks⟩ := Interaction.asked_eq_some.mp asked
  have ran := sampleMisled_steps.1
  rw [← Prod.eta sampleMisled, asks] at ran
  have asking : Interaction.AsksEach (fun _ => step sampleDoubted)
      (fun process : Process (Confirms sampleDeployment sampleNamespace) =>
        process.val.work sampleDoubted.host sampleDoubted.net.sign) (outside sampleDoubted) sampleStart
      sampleCautiously sampleMisled.2 op := ⟨_, next, .outside .start queued, ran⟩
  cases op with
  | store method =>
      cases method with
      | recordPaid eventId attempt record directEntries poolPayouts =>
          obtain ⟨signature, slot⟩ := of_decide_eq_true elsewhere
          exact ⟨eventId, attempt, record, directEntries, poolPayouts, signature, slot, asking⟩
      | _ => cases elsewhere
  | _ => cases elsewhere

theorem recorded_iff_sample : ∃ (w : World sampleDeployment sampleNetwork) (record : SettlementRecord)
    (copy honest : ParsedTransaction), record.slot = 8 ∧ ShownLast record.signature copy w ∧
      TrueCopy record.signature honest w := by
  obtain ⟨eventId, attempt, record, directEntries, poolPayouts, _, slot, asks⟩ := sampleMisled_asks
  obtain ⟨row, _, stored, copy, honest, rows, _, _, _, shown, confirmed, _⟩ :=
    recorded_iff sampleDoubted sampleNamespace (fun _ => rfl) sampleStart_initial asks
  exact ⟨_, record, copy, honest, slot, shown, confirmed⟩

/-- A worker records the slot that the primary shows, where the second provider
shows another. -/
theorem not_always_given_by_second :
    ¬ ∀ process w eventId attempt record directEntries poolPayouts,
      Interaction.AsksEach (fun _ => step sampleDoubted)
        (fun process : Process (Confirms sampleDeployment sampleNamespace) =>
          process.val.work sampleDoubted.host sampleDoubted.net.sign) (outside sampleDoubted) sampleStart
        process w (.store (.recordPaid eventId attempt record directEntries poolPayouts)) →
      ∃ row stored, GivenBySecond sampleDoubted
        (process.val.options.matchOptions sampleDeployment sampleNamespace record.signature row stored)
        ⟨record, directEntries, poolPayouts⟩ w := by
  intro always
  obtain ⟨eventId, attempt, record, directEntries, poolPayouts, signature, slot, asks⟩ := sampleMisled_asks
  obtain ⟨row, stored, ⟨w', ran⟩, _⟩ := always _ _ eventId attempt record directEntries poolPayouts asks
  obtain ⟨copy, shown, reconciled⟩ := second_reconciled (fun _ => rfl) ran
  -- the settlement is finalized, in its own slot
  have settled : sampleMisled.2.view .second = sampleSettled := by
    rw [sampleMisled_steps.2.current]
    rcases sampleMisled_steps.2.chain with before | after
    · have landed := sampleMisled_records.2
      rw [before] at landed
      cases landed
    · exact after
  have honest : TrueCopy sampleSigned.id sampleLanding.shown sampleMisled.2 :=
    ⟨sampleLanding, by rw [settled]; exact List.mem_singleton_self _, rfl, rfl⟩
  have onward : Onward sampleMisled.2 w' := (safe_onward _ _).returned ran
  have same : copy = sampleLanding.shown := by
    change TrueCopy record.signature copy w' at shown
    rw [signature] at shown
    exact shown.unique (honest.onward onward)
  have shownSlot := reconciled_slot reconciled
  rw [same] at shownSlot
  cases slot.symm.trans shownSlot

end Synxed.Studio
