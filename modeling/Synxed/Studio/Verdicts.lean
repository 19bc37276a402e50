import Synxed.Studio.Journal
import Synxed.Studio.Second

/-!
What a verdict on an event proves of the chain, when the second provider is
honest and the primary may answer anything.

* `paid_only_if_settled`: an event becomes paid only when a finalized transaction
  settled a request stored for it, and the rows are what that transaction paid.
* `incident_only_if_contradicted`: where the primary gave no finalized transaction a
  settlement that it did not make, an event becomes an incident only when its record
  was created for none of the requests stored for it.
-/

namespace Synxed.Studio

open Synxed.Lib Synxed.Program Synxed.Sdk

variable {D : Deployment} {env : Environment D} {ns : Pubkey} {w w' : World D env.net} {e : JsString}
  {status : EventStatus}

/-! ### What a landing settled -/

/-- The landing settled what was stored: its only settlement is of the request's
event in the namespace, for its amount at the stored scale, by its basis points and
to its recipients. -/
structure Landing.SettledAs (ns : Pubkey) (stored : StoredRequest) (seed : Bytes32)
    (amount : UInt64) (bps : List UInt16) (recipients : List Pubkey) (landing : Landing D) : Prop where
  succeeded : landing.error = none
  settled : ∃ top, landing.executed.filter TopLevel.isSettlement = [top] ∧
    SettledNative top ns seed amount bps recipients
  total : (amount.toNat : Int) = stored.request.amountAtomic * stored.params.lamportsPerAtomicUnit
  bps : stored.request.shares.map ShareInput.bps = bps.map shareNumber
  recipients : stored.request.shares.map ShareInput.recipient = recipients.map toBase58

/-- A landing that reconciles with what was stored settled it, and the rows account
for what it paid. -/
theorem Landing.settledAs_of_reconciled {H : Host} {landing : Landing D} {options : WorkerOptions}
    {signature : JsString} {stored : StoredRequest} {ids : Option (List (JsString × JsString))}
    {rows : SettlementReconciliation}
    (reconciled : reconcileTransaction H (options.reconcileOptions signature stored D.programId ns ids)
      landing.shown = .ok rows) :
    ∃ seed amount bps recipients, eventIdSeed H stored.request.eventId = .ok seed ∧
      landing.SettledAs ns stored seed amount bps recipients ∧
      AccountsFor rows stored.request amount bps := by
  obtain ⟨observation, observed, compared⟩ := bind_eq_ok.mp reconciled
  have succeeded := Landing.succeeded_of_observed observed
  obtain ⟨top, seed, amount, bps, recipients, only, seeded, total, sameBps, sameRecipients, settled,
    accounts⟩ := (reconciliation_sound H D landing.executed landing.shown signature
      (landing.truthful succeeded)).1 observation _ rows observed compared
  exact ⟨seed, amount, bps, recipients, seeded,
    ⟨succeeded, ⟨top, only, settled⟩, total, sameBps, sameRecipients⟩, accounts⟩

/-! ### Paid -/

variable (env ns) in
/-- In a run of the studio this process is about to ask an operation. -/
abbrev Asking (start : World D env.net) (process : Process (Confirms D ns)) (w : World D env.net)
    (op : Op) : Prop :=
  Interaction.AsksEach (fun _ => step env)
    (fun process : Process (Confirms D ns) => process.val.work env.host env.net.sign) (outside env) start
    process w op

variable (env ns) in
/-- A finalized transaction settled a request stored for the event, and the rows are
what it paid. -/
def SettledOnChain (options : WorkerOptions) (eventId : JsString) (rows : SettlementReconciliation)
    (w : World D env.net) : Prop :=
  ∃ row ∈ w.store.events.rows, row.eventId = column eventId ∧
    ∃ stored, stored.request = row.request ∧ StoredFor options row stored w.store ∧
    ∃ landing ∈ w.cluster.finalizedLedger, landing.transaction.id = rows.record.signature ∧
    ∃ seed amount bps recipients, eventIdSeed env.host eventId = .ok seed ∧
      landing.SettledAs ns stored seed amount bps recipients ∧
      AccountsFor rows stored.request amount bps

/-- What was matched was settled: the second provider's copy is of a finalized
transaction, and the primary's copy gives the same rows. -/
theorem Matched.settledOnChain {options : WorkerOptions} {eventId : JsString}
    {rows rows' : SettlementReconciliation} {row : EventRow} {stored : StoredRequest}
    {copy honest : ParsedTransaction} (filed : Filed D ns w.store)
    (matched : Matched env ns options eventId rows row stored copy honest rows' w) :
    SettledOnChain env ns options eventId rows w := by
  obtain ⟨inRows, id⟩ := matched.event
  obtain ⟨direct, pool, rest, _⟩ := reconciled_copies matched.primary matched.second
  obtain ⟨landing, mem, signature, rfl⟩ := matched.confirmed
  obtain ⟨seed, amount, bps, recipients, seeded, settled, accounts⟩ :=
    Landing.settledAs_of_reconciled matched.second
  refine ⟨row, inRows, id, stored, matched.request, matched.keptFor, landing,
    (w.behind .second).mem_finalizedLedger mem, signature, seed, amount, bps, recipients, ?_, settled,
    accounts.copied direct pool (by rw [rest])⟩
  have named : column stored.request.eventId = column eventId := by
    rw [matched.request, ← filed.named row inRows, id]
  rw [← eventIdSeed_of_column named]
  exact seeded

theorem SettledOnChain.of_column {options : WorkerOptions} {eventId other : JsString}
    {rows : SettlementReconciliation} (settled : SettledOnChain env ns options eventId rows w)
    (same : column eventId = column other) : SettledOnChain env ns options other rows w := by
  unfold SettledOnChain at settled ⊢
  rw [← same, ← eventIdSeed_of_column same]
  exact settled

/-- What is recorded paid was settled. -/
theorem settledOnChain_of_asks (honest : ∀ call, env.honest .second call) {start : World D env.net}
    (initial : start.Initial) {process : Process (Confirms D ns)} {eventId : JsString}
    {attempt : Option Nat} {record : SettlementRecord} {directEntries : List LedgerEntry}
    {poolPayouts : List PayoutLine}
    (asks : Asking env ns start process w
      (.store (.recordPaid eventId attempt record directEntries poolPayouts))) :
    SettledOnChain env ns process.val.options eventId ⟨record, directEntries, poolPayouts⟩ w := by
  obtain ⟨⟨row, stored, copy, honest, rows', matched⟩, filed⟩ := Deciding.asks
    (fun process : Process (Confirms D ns) => .confirmed honest process.property.second
      process.property.programId process.property.ns)
    (fun _ _ _ confirmed => confirmed.beginsOwn)
    (fun _ confirms => ⟨confirms.programId, confirms.ns⟩) initial asks
  exact matched.settledOnChain filed

/-- **Paid is never wrong.** In every run of a studio whose workers confirm with an
honest second provider, whatever the primary answers: no event is paid at the start or
becomes paid between two commands, and a worker makes one paid only by recording it
when a finalized transaction that succeeded settled a request stored for it, of its
event in the namespace, for its amount at the stored scale, by its basis points and to
its recipients. Whatever a worker records, its rows are what that transaction paid to
each recipient. -/
theorem paid_only_if_settled (env : Environment D) (ns : Pubkey)
    (honest : ∀ call, env.honest .second call) {start : World D env.net} (initial : start.Initial) :
    (∀ eventId, start.status eventId ≠ some .paid) ∧
    (∀ w w' eventId, outside env w w' → w'.status eventId = some .paid →
      w.status eventId = some .paid) ∧
    (∀ process w op reply w' eventId, Asking env ns start process w op → step env w op reply w' →
      w'.status eventId = some .paid → w.status eventId ≠ some .paid →
      ∃ id attempt record directEntries poolPayouts, column id = column eventId ∧
        op = .store (.recordPaid id attempt record directEntries poolPayouts) ∧
        SettledOnChain env ns process.val.options eventId ⟨record, directEntries, poolPayouts⟩ w) ∧
    ∀ process w eventId attempt record directEntries poolPayouts,
      Asking env ns start process w
        (.store (.recordPaid eventId attempt record directEntries poolPayouts)) →
      SettledOnChain env ns process.val.options eventId ⟨record, directEntries, poolPayouts⟩ w := by
  refine ⟨fun eventId paid => ?_, fun w w' eventId acted paid => ?_,
    fun process w op reply w' eventId asks moved paid before => ?_,
    fun process w eventId attempt record directEntries poolPayouts asks =>
      settledOnChain_of_asks honest initial asks⟩
  · obtain ⟨row, mem, _⟩ := status_eq_some.mp paid
    rw [initial.store] at mem
    cases mem
  · exact status_eq_some.mpr (acted.standing (status_eq_some.mp paid) (nomatch ·) (nomatch ·))
  · rcases moved.standing (status_eq_some.mp paid) (nomatch ·) with already | marks
    · exact absurd (status_eq_some.mpr already) before
    · cases op with
      | store method =>
          cases method with
          | recordPaid id attempt record directEntries poolPayouts =>
              exact ⟨id, attempt, record, directEntries, poolPayouts, marks.1, rfl,
                (settledOnChain_of_asks honest initial asks).of_column marks.1⟩
          | beginAttempt id request params => cases marks.2
          | setEventStatus id given note => exact absurd marks.2.symm given.property
          | _ => exact marks.elim
      | _ => exact marks.elim

/-- The run whose primary shows another slot records what the settlement paid. -/
theorem paid_only_if_settled_sample :
    ∃ (w : World sampleDeployment sampleNetwork) (eventId : JsString) (rows : SettlementReconciliation),
      rows.record.slot = 8 ∧
      SettledOnChain sampleDoubted sampleNamespace sampleCautious eventId rows w := by
  obtain ⟨eventId, attempt, record, directEntries, poolPayouts, _, slot, asks⟩ := sampleMisled_asks
  exact ⟨_, eventId, ⟨record, directEntries, poolPayouts⟩, slot,
    (paid_only_if_settled sampleDoubted sampleNamespace (fun _ => rfl) sampleStart_initial).2.2.2
      _ _ _ _ _ _ _ asks⟩

/-! ### Incidents -/

/-- The primary showed the transaction. -/
def ShownByPrimary (transaction : ParsedTransaction) (w : World D env.net) : Prop :=
  ∃ given ∈ w.answers, given.provider = .primary ∧ transaction ∈ given.call.shown given.answer

theorem ShownByPrimary.onward {transaction : ParsedTransaction}
    (shown : ShownByPrimary transaction w) (onward : Onward w w') : ShownByPrimary transaction w' := by
  obtain ⟨given, mem, rest⟩ := shown
  obtain ⟨more, answers, _⟩ := onward.answers
  exact ⟨given, by rw [answers]; exact List.mem_append_left _ mem, rest⟩

theorem step.shownByPrimary {call : Rpc} {answer : call.Answer}
    (moved : step env w (.rpc .primary call) (.ok answer) w') :
    ∀ transaction ∈ call.shown answer, ShownByPrimary transaction w' := by
  intro transaction mem
  obtain ⟨more, view, answers, inside⟩ := moved.heard
  exact ⟨_, by rw [answers]; exact List.mem_append_right _ inside, rfl, mem⟩

variable (env ns) in
/-- The primary showed a transaction that settles the event, under this signature. -/
def FoundBy (event : StoredEvent) (created : SettlementTransaction) (w : World D env.net) : Prop :=
  ∃ seed transaction, eventIdSeed env.host event.eventId = .ok seed ∧
    ShownByPrimary transaction w ∧ CreatedBy D.programId (settlesEvent ns seed) created transaction

variable (env ns) in
/-- What is finalized under this signature contradicts every request stored for the
row. -/
def Contradicts (options : WorkerOptions) (row : EventRow) (landing : Landing D)
    (w : World D env.net) : Prop :=
  ∀ stored, StoredFor options row stored w.store → ∃ error : LedgerError,
    error.code ∈ MISMATCH_CODES ∧
    reconcileTransaction env.host (options.reconcileOptions landing.transaction.id stored D.programId ns
      none) landing.shown = .error (.ledger error)

variable (env ns) in
/-- An attempt begins for its event, and an incident is what the second provider
confirmed of the transaction that the primary named. -/
def Op.Judged (options : WorkerOptions) (w : World D env.net) : Op → Prop
  | .store (.beginAttempt eventId request params) =>
      (Method.beginAttempt eventId request params).BeginsOwn D ns w.store
  | .store (.setEventStatus eventId status _) => status = .incident →
      ∃ row ∈ w.store.events.rows, row.eventId = column eventId ∧
        ∃ created, FoundBy env ns row.toStoredEvent created w ∧ created.topLevel = true ∧
          ∃ landing ∈ (w.view .second).finalizedLedger,
            landing.transaction.id = created.signature ∧ Contradicts env ns options row landing w
  | _ => True

/-- An operation that begins nothing and raises no incident. -/
def Op.Calm : Op → Prop
  | .store (.beginAttempt _ _ _) => False
  | .store (.setEventStatus _ status _) => status ≠ .incident
  | _ => True

theorem calm_notes : Notes Op.Calm where
  lookup _ _ _ := trivial
  polls := trivial
  log _ := trivial
  event _ := trivial
  note _ _ := by
    intro same
    cases same

variable {options : WorkerOptions}

theorem Op.Calm.judged {op : Op} (calm : op.Calm) : op.Judged env ns options w := by
  cases op with
  | store method =>
      cases method with
      | setEventStatus eventId status note => exact fun incident => absurd incident calm
      | beginAttempt eventId request params => exact calm.elim
      | _ => trivial
  | _ => trivial

theorem Op.Plain.calm {op : Op} (plain : op.Plain) : op.Calm := by
  cases op with
  | store method => cases method <;> first | exact trivial | exact plain.elim
  | _ => trivial

variable (env ns) in
/-- A part of the worker raises only incidents that are confirmed. -/
abbrev Judging {α : Type} (options : WorkerOptions) (program : Work α)
    (post : α → World D env.net → Prop) (w : World D env.net) : Prop :=
  Alone env ns (fun w op => op.Judged env ns options w) program post (fun _ _ => True) w

theorem judging_calm {α : Type} {program : Work α} (uses : program.Uses Op.Calm) :
    Judging env ns options program (fun _ _ => True) w :=
  Interaction.Safe.of_uses uses (fun _ _ calm _ => calm.judged) (fun _ _ _ _ _ _ _ => trivial) trivial

theorem judging_kept {α : Type} {program : Work α} {kept : World D env.net → Prop}
    (uses : program.Uses Op.Plain) (unmoved : Unmoved env kept) (holds : kept w) :
    Judging env ns options program (fun _ => kept) w := by
  have safe : Alone env ns (fun w op => op.Judged env ns options w) program (fun _ => kept)
      (fun _ => kept) w :=
    Interaction.Safe.of_uses uses (fun _ _ plain _ => plain.calm.judged)
      (fun _ _ _ _ plain holds moved => unmoved _ _ _ _ plain holds moved.2.1) holds
  exact safe.mono (fun _ _ kept => kept) fun _ _ _ => trivial

/-- What the search finds was shown by the primary. -/
theorem judging_search (program : options.programId = D.programId) (sameNs : options.ns = ns)
    (event : StoredEvent) (w : World D env.net) :
    Judging env ns options (findSettlementTransaction env.host (connectionTo .primary) options.programId
      options.ns event.eventId) (FoundBy env ns event) w := by
  rw [program, sameNs]
  have told (call : Rpc) (lookup : call.IsLookup) (w : World D env.net) :
      Judging env ns options ((connectionTo .primary).request call)
        (fun answer w' => ∀ transaction ∈ call.shown answer, ShownByPrimary transaction w') w := by
    have free : Op.Plain (.rpc .primary call) := plain_looks.lookup _ _ lookup
    refine Interaction.safe_perform.mpr ⟨free.calm.judged, ?_, fun _ _ _ => trivial⟩
    rintro answer w' ⟨_, moved, _⟩
    exact moved.shownByPrimary
  exact safe_findSettlementTransaction told
    (fun _ _ _ _ _ _ shown moved => shown.onward moved.2.1.onward) D.programId ns event.eventId 5000 w

theorem FoundBy.onward {event : StoredEvent} {created : SettlementTransaction}
    (found : FoundBy env ns event created w) (onward : Onward w w') :
    FoundBy env ns event created w' := by
  obtain ⟨seed, transaction, seeded, shown, creates⟩ := found
  exact ⟨seed, transaction, seeded, shown.onward onward, creates⟩

/-- A request that is stored for the event is among those that are reconciled. -/
theorem Known.mem_requestsOf {event : StoredEvent} {attempts : List StoredAttempt}
    {stored : StoredRequest} {row : EventRow} (known : Known ns event attempts w)
    (id : row.eventId = event.eventId) (request : row.request = event.request)
    (kept : StoredFor options row stored w.store) : stored ∈ options.requestsOf event attempts := by
  unfold WorkerOptions.requestsOf
  rcases kept with ⟨attempt, mem, own, rfl⟩ | ⟨none, rfl⟩
  · have inside := (known.all _).mpr ⟨attempt, mem, own.trans id, rfl⟩
    rw [if_neg (by rintro rfl; cases inside)]
    exact mem_distinctRequests.mpr inside
  · have empty : attempts = [] := by
      refine List.eq_nil_iff_forall_not_mem.mpr fun attempt inside => ?_
      obtain ⟨other, mem, own, _⟩ := (known.all _).mp (List.mem_map_of_mem inside)
      exact none other mem (own.trans id.symm)
    rw [if_pos empty, request]
    exact List.mem_singleton_self _

theorem exists_mem_requestsOf {event : StoredEvent} {attempts : List StoredAttempt} :
    ∃ stored, stored ∈ options.requestsOf event attempts := by
  unfold WorkerOptions.requestsOf
  split
  · exact ⟨_, List.mem_singleton_self _⟩
  · next some =>
      obtain ⟨attempt, mem⟩ := List.exists_mem_of_ne_nil _ some
      exact ⟨_, mem_distinctRequests.mpr (List.mem_map_of_mem mem)⟩

/-- Every request that is reconciled contradicts the true copy. -/
def AllContradicted (env : Environment D) (ns : Pubkey) (options : WorkerOptions) (signature : JsString)
    (requests : List StoredRequest) (w : World D env.net) : Prop :=
  ∀ stored ∈ requests, ∃ honest, TrueCopy signature honest w ∧ ∃ error : LedgerError,
    error.code ∈ MISMATCH_CODES ∧ reconcileTransaction env.host
      (options.reconcileOptions signature stored D.programId ns none) honest = .error (.ledger error)

theorem exists_of_forall₂ {α β : Type} {R : α → β → Prop} {xs : List α} {ys : List β}
    (all : List.Forall₂ R xs ys) {x : α} (mem : x ∈ xs) : ∃ y ∈ ys, R x y := by
  induction all with
  | nil => cases mem
  | cons here _ ih =>
      rcases List.mem_cons.mp mem with rfl | later
      · exact ⟨_, List.mem_cons_self, here⟩
      · obtain ⟨y, inside, related⟩ := ih later
        exact ⟨y, List.mem_cons_of_mem _ inside, related⟩

/-- A mismatch that the second provider confirmed. -/
theorem judging_confirmMismatch (honest : ∀ call, env.honest .second call)
    (second : options.secondConnection = true) {signature : JsString} {requests : List StoredRequest}
    (own : ∀ stored ∈ requests, stored.params.programId = toBase58 D.programId ∧
      stored.params.ns = toBase58 ns) (primary : List ReconcileResult) (w : World D env.net) :
    Judging env ns options (options.confirmMismatch env.host signature requests primary)
      (fun confirmed w' => confirmed = true → AllContradicted env ns options signature requests w') w := by
  unfold WorkerOptions.confirmMismatch
  rw [if_pos second]
  split
  swap
  · exact fun confirmed => by cases confirmed
  let good (stored : StoredRequest) (result : ReconcileResult) (w : World D env.net) : Prop :=
    stored ∈ requests → Tells env.host (TrueCopy signature)
      (options.reconcileOptions signature stored D.programId ns none) result w
  have one (stored : StoredRequest) (w : World D env.net) :
      Judging env ns options (options.reconcile env.host .second signature stored none)
        (good stored) w := by
    by_cases mem : stored ∈ requests
    · exact (alone_reconcile (fun _ _ plain => plain.calm.judged) (own stored mem).1 (own stored mem).2
        none (fun _ _ _ moved => moved.trueCopy honest) w).mono (fun _ _ told _ => told)
          fun _ _ _ => trivial
    · exact (judging_calm (calm_notes.toLooks.uses_reconcile _ _ _ _)).mono
        (fun _ _ _ inside => absurd inside mem) fun _ _ _ => trivial
  have keeps (stored : StoredRequest) (result : ReconcileResult) (w : World D env.net) (op : Op)
      (reply : Except Thrown op.Reply) (w' : World D env.net) (_ : op.Judged env ns options w)
      (told : good stored result w) (moved : Filing env ns w op reply w') : good stored result w' := by
    intro mem
    obtain ⟨matched, mismatch⟩ := told mem
    refine ⟨fun reconciliation same => ?_, fun same => ?_⟩
    · obtain ⟨transaction, copy, compared⟩ := matched reconciliation same
      exact ⟨transaction, copy.onward moved.2.1.onward, compared⟩
    · obtain ⟨error, code, transaction, copy, compared⟩ := mismatch same
      exact ⟨error, code, transaction, copy.onward moved.2.1.onward, compared⟩
  refine Interaction.Safe.bind (Interaction.safe_each_values one keeps requests w)
    fun results w' told => ?_
  intro all stored mem
  obtain ⟨result, inResults, told⟩ := exists_of_forall₂ told mem
  obtain ⟨error, code, transaction, copy, compared⟩ :=
    (told mem).2 (List.all_eq_true.mp all result inResults)
  exact ⟨transaction, copy, error, code, compared⟩

/-- A worker with an honest second provider raises only incidents that are
confirmed. -/
theorem Deciding.judged (honest : ∀ call, env.honest .second call)
    (second : options.secondConnection = true) (program : options.programId = D.programId)
    (sameNs : options.ns = ns) :
    Deciding env ns options (fun w op => op.Judged env ns options w) (FoundBy env ns) where
  plain _ _ plain := plain.calm.judged
  begins _ _ _ _ own := own
  search w event := judging_search program sameNs event w
  unmoved _ _ _ _ _ _ found moved := found.onward moved.onward
  matched w event attempts created stored _ _ _ _ := by
    rw [WorkerOptions.recordMatch_eq]
    refine judging_calm (Interaction.uses_bind (calm_notes.toLooks.uses_confirmMatch _ _)
      fun confirmed => ?_)
    split
    · refine Interaction.uses_bind (calm_notes.toLooks.uses_reconcile _ _ _ _) fun rows => ?_
      cases rows with
      | refused mismatch error => exact calm_notes.uses_unresolved _ _
      | matched rows =>
          exact Interaction.uses_bind (uses_call trivial) fun _ =>
            Interaction.uses_bind (calm_notes.uses_log _) fun _ => Interaction.uses_pure
    · exact calm_notes.uses_unresolved _ _
  mismatched w event attempts created primary known found topLevel := by
    rw [WorkerOptions.recordMismatch_eq]
    have own (stored : StoredRequest) (mem : stored ∈ options.requestsOf event attempts) :
        stored.params.programId = toBase58 D.programId ∧ stored.params.ns = toBase58 ns := by
      have own := stored_of_mem_requestsOf program sameNs known.own mem
      exact ⟨own.programId, own.ns⟩
    have kept : Judging env ns options (options.confirmMismatch env.host created.signature
        (options.requestsOf event attempts) primary)
        (fun _ w => Known ns event attempts w ∧ FoundBy env ns event created w) w :=
      judging_kept (plain_looks.uses_confirmMismatch _ _ _)
        ((Unmoved.known event attempts).and fun _ _ _ _ _ found moved => found.onward moved.onward)
        ⟨known, found⟩
    refine Interaction.Safe.bind (((judging_confirmMismatch honest second own primary w).and kept).mono
      (fun _ _ both => both) fun _ _ _ => trivial) fun confirmed w both => ?_
    obtain ⟨told, known, found⟩ := both
    split
    · next isMismatch =>
        have told := told isMismatch
        obtain ⟨row, inRows, id, request, _⟩ := known.stored
        obtain ⟨stored, mem⟩ : ∃ stored, stored ∈ options.requestsOf event attempts :=
          exists_mem_requestsOf
        obtain ⟨_, ⟨landing, finalized, signature, rfl⟩, _⟩ := told stored mem
        have raised : Judging env ns options (Studio.call (.setEventStatus event.eventId .incident
            (some (created.signature ++ js " matches no stored request")))) (fun _ _ => True) w := by
          refine Interaction.safe_perform.mpr ⟨fun _ => ⟨row, inRows,
            id.trans known.column_eventId.symm, created, ?_, topLevel, landing, finalized, signature,
            fun other kept => ?_⟩, fun _ _ _ => trivial, fun _ _ _ => trivial⟩
          · obtain ⟨seed, transaction, seeded, rest⟩ := found
            exact ⟨seed, transaction, by rw [← seeded]; exact congrArg _ id, rest⟩
          · obtain ⟨honest, copy, error, code, compared⟩ := told other (known.mem_requestsOf id request kept)
            have own : TrueCopy created.signature landing.shown w := ⟨landing, finalized, signature, rfl⟩
            rw [signature, own.unique copy]
            exact ⟨error, code, compared⟩
        refine Interaction.Safe.bind raised fun _ w _ => ?_
        exact judging_calm (Interaction.uses_bind (calm_notes.uses_log _) fun _ => Interaction.uses_pure)
    · exact judging_calm (calm_notes.uses_unresolved _ _)

theorem Op.Judged.beginsOwn {op : Op} (judged : op.Judged env ns options w) :
    op.BeginsOwn D ns w.store := by
  cases op with
  | store method => cases method <;> first | exact trivial | exact judged
  | _ => trivial

/-- No answer of the primary gives a finalized transaction a settlement of the event
that it did not make. -/
def FaithfulOn (env : Environment D) (ns : Pubkey) (eventId : JsString) (w : World D env.net) : Prop :=
  ∀ seed, eventIdSeed env.host eventId = .ok seed → ∀ transaction, ShownByPrimary transaction w →
    settlementIn transaction D.programId (settlesEvent ns seed) = some true →
    ∀ landing ∈ w.cluster.finalizedLedger, landing.transaction.id ∈ transaction.signatures →
      landing.Settles ns seed

/-- The event has its record, and the finalized transaction that created it contradicts
every request stored for the event. -/
def ContradictedOnChain (env : Environment D) (ns : Pubkey) (options : WorkerOptions)
    (eventId : JsString) (w : World D env.net) : Prop :=
  ∃ row ∈ w.store.events.rows, row.eventId = column eventId ∧
    ∃ seed amount, eventIdSeed env.host eventId = .ok seed ∧ w.cluster.Holds ns seed amount ∧
    ∃ landing ∈ w.cluster.finalizedLedger, landing.Settles ns seed ∧
      Contradicts env ns options row landing w

/-- An event becomes an incident only where the chain contradicts it. -/
theorem contradicted_of_incident (honest : ∀ call, env.honest .second call) {start : World D env.net}
    (initial : start.Initial) {process : Process (Confirms D ns)} {op : Op}
    {reply : Except Thrown op.Reply} {eventId : JsString} (asks : Asking env ns start process w op)
    (moved : step env w op reply w') (raised : w'.status eventId = some .incident)
    (before : w.status eventId ≠ some .incident) (faithful : FaithfulOn env ns eventId w) :
    ContradictedOnChain env ns process.val.options eventId w := by
  have judged : op.Judged env ns process.val.options w := (Deciding.asks
    (fun process : Process (Confirms D ns) => .judged honest process.property.second
      process.property.programId process.property.ns) (fun _ _ _ judged => judged.beginsOwn)
    (fun _ confirms => ⟨confirms.programId, confirms.ns⟩) initial asks).1
  rcases moved.standing (status_eq_some.mp raised) (nomatch ·) with already | marks
  · exact absurd (status_eq_some.mpr already) before
  · cases op with
    | store method =>
        cases method with
        | setEventStatus id status note =>
            have incident : status = OpenStatus.incident := Subtype.ext marks.2.symm
            obtain ⟨row, inRows, here, created, found, topLevel, landing, finalized, signature,
              contradicts⟩ := judged incident
            obtain ⟨seed, transaction, seeded, shown, creates⟩ := found
            have named : column row.eventId = column eventId := by
              rw [here, column_column]
              exact marks.1
            rw [eventIdSeed_of_column named] at seeded
            have onChain := (w.behind .second).mem_finalizedLedger finalized
            have settles : landing.Settles ns seed := by
              refine faithful seed seeded transaction shown ?_ landing onChain ?_
              · rw [creates.settles, topLevel]
              · rw [signature]
                exact creates.signed
            obtain ⟨amount, holds⟩ := (w.grown .second).recorded
              (Cluster.mem_of_mem_finalizedLedger finalized) settles
            exact ⟨row, inRows, here.trans marks.1, seed, amount, seeded, (w.behind .second).holds holds,
              landing, onChain, settles, contradicts⟩
        | beginAttempt id request params => cases marks.2
        | recordPaid id attempt record directEntries poolPayouts => cases marks.2
        | _ => exact marks.elim
    | _ => exact marks.elim

/-- **When an incident is right.** In every run of a studio whose workers confirm with
an honest second provider: no event is an incident at the start or becomes one between
two commands, and where no answer of the primary gave a finalized transaction a
settlement of the event that it did not make, a worker makes the event an incident only
when its record exists and the finalized transaction that created it contradicts every
request stored for the event. -/
theorem incident_only_if_contradicted (env : Environment D) (ns : Pubkey)
    (honest : ∀ call, env.honest .second call) {start : World D env.net} (initial : start.Initial) :
    (∀ eventId, start.status eventId ≠ some .incident) ∧
    (∀ w w' eventId, outside env w w' → w'.status eventId = some .incident →
      w.status eventId = some .incident) ∧
    ∀ process w op reply w' eventId, Asking env ns start process w op → step env w op reply w' →
      w'.status eventId = some .incident → w.status eventId ≠ some .incident →
      FaithfulOn env ns eventId w →
      ContradictedOnChain env ns process.val.options eventId w := by
  refine ⟨fun eventId raised => ?_, fun w w' eventId acted raised => ?_,
    fun process w op reply w' eventId asks moved raised before faithful => ?_⟩
  · obtain ⟨row, mem, _⟩ := status_eq_some.mp raised
    rw [initial.store] at mem
    cases mem
  · exact status_eq_some.mpr (acted.standing (status_eq_some.mp raised) (nomatch ·) (nomatch ·))
  · exact contradicted_of_incident honest initial asks moved raised before faithful

/-! ### Sample verdicts

The sample settlement is finalized. A person rechecks an event of which the primary
names it as the settlement. -/

/-- The sample event under an id and with an amount. -/
def variantEvent (eventId amount : JsString) : Json :=
  match sampleEvent with
  | .object (_ :: occurredAt :: _ :: rest) =>
      .object ((js "eventId", .string eventId) :: occurredAt :: (js "amountAtomic", .string amount) :: rest)
  | other => other

def variantPrepared (eventId amount : JsString) : PreparedEvent :=
  (prepareEvent sampleDoubted.isDate (variantEvent eventId amount)).toOption.getD ⟨sampleRequest, []⟩

def variantQueue (eventId amount : JsString) : Store.Enqueued × Store :=
  let prepared := variantPrepared eventId amount
  (Store.empty.enqueue prepared.request prepared.beneficiaryIds
    (js "2026-01-02T00:00:00.000Z")).toOption.getD (.unchanged, .empty)

/-- The event is pending and the sample settlement finalized. -/
def variantQueued (eventId amount : JsString) : World sampleDeployment sampleNetwork :=
  { settledWorld sampleStart with store := (variantQueue eventId amount).2 }

/-- The chain is the settled one, and every endpoint sees it. -/
def OnSettled (w : World sampleDeployment sampleNetwork) : Prop :=
  w.cluster = sampleSettled ∧ ∀ provider, w.view provider = sampleSettled

/-- The primary answers as `script` tells and the second provider truly, and nothing
that is sent reaches the cluster. -/
def doubtedRespond (script : (call : Rpc) → Except Thrown call.Answer)
    (w : World sampleDeployment sampleNetwork) :
    (op : Op) → Except Thrown op.Reply × World sampleDeployment sampleNetwork
  | .rpc .primary call =>
      match script call with
      | .error error => (.error error, w)
      | .ok answer =>
          (.ok answer, { w with answers := w.answers ++ [⟨.primary, call, answer, w.view .primary⟩] })
  | .rpc .second call =>
      match sampleAnswer sampleSettled call with
      | .error error => (.error error, w)
      | .ok answer =>
          (.ok answer, { w with answers := w.answers ++ [⟨.second, call, answer, w.view .second⟩] })
  | op => scriptedRespond (fun _ => .error []) w op

/-- The script fails as a transport does, with a text. -/
def FailsInTexts (script : (call : Rpc) → Except Thrown call.Answer) : Prop :=
  ∀ call error, script call = .error error → ∃ text, error = .other text

theorem doubtedRespond_step {script : (call : Rpc) → Except Thrown call.Answer}
    (texts : FailsInTexts script) {w : World sampleDeployment sampleNetwork} (settled : OnSettled w)
    (op : Op) : step sampleDoubted w op (doubtedRespond script w op).1 (doubtedRespond script w op).2 ∧
      OnSettled (doubtedRespond script w op).2 := by
  have asked (provider : Provider) (call : Rpc) (answer : call.Answer)
      (truth : provider = .second → Truth sampleNetwork (w.view provider) call answer) :
      step sampleDoubted w (.rpc provider call) (.ok answer)
        { w with answers := w.answers ++ [⟨provider, call, answer, w.view provider⟩] } :=
    ⟨_, ⟨truth, [], .inl rfl, by simp only [List.append_nil]⟩, .refl _⟩
  have failed (provider : Provider) (call : Rpc) (error : Thrown) (other : ∃ text, error = .other text) :
      step sampleDoubted w (.rpc provider call) (.error error) w :=
    ⟨_, ⟨other, [], .inl rfl, by simp only [List.append_nil]; rfl⟩, .refl _⟩
  cases op with
  | rpc provider call =>
      cases provider with
      | primary =>
          cases said : script call with
          | error error =>
              simp only [doubtedRespond, said]
              exact ⟨failed _ _ _ (texts call error said), settled⟩
          | ok answer =>
              simp only [doubtedRespond, said]
              exact ⟨asked _ _ _ fun same => (by cases same), settled⟩
      | second =>
          cases said : sampleAnswer sampleSettled call with
          | error error =>
              simp only [doubtedRespond, said]
              exact ⟨failed _ _ _ (sampleAnswer_error said), settled⟩
          | ok answer =>
              simp only [doubtedRespond, said]
              refine ⟨asked _ _ _ fun _ => ?_, settled⟩
              rw [settled.2]
              exact sampleAnswer_truth said
  | store method => exact ⟨⟨_, ⟨rfl, rfl⟩, .refl _⟩, settled⟩
  | polls => exact ⟨⟨w, ⟨⟨_, rfl⟩, rfl⟩, .refl w⟩, settled⟩
  | log line => exact ⟨⟨w, rfl, .refl w⟩, settled⟩
  | beforeSend eventId signature => exact ⟨⟨w, rfl, .refl w⟩, settled⟩

/-- The operation raises an incident. -/
def Op.raises : Op → Bool
  | .store (.setEventStatus _ status _) => status = OpenStatus.incident
  | _ => false

/-- A recheck of the event, up to an incident. -/
def recheckPlay (script : (call : Rpc) → Except Thrown call.Answer) (eventId amount : JsString) :
    Work Unit × World sampleDeployment sampleNetwork :=
  Interaction.play (fun w op => if op.raises then none else some (doubtedRespond script w op)) 60
    (Command.work sampleDoubted.host sampleDoubted.net.sign ⟨sampleCautious, .recheck eventId⟩,
      variantQueued eventId amount)

/-- What raised it gives the event the status of an incident. -/
def Raised (script : (call : Rpc) → Except Thrown call.Answer) (eventId amount : JsString) : Bool :=
  let played := recheckPlay script eventId amount
  played.2.status eventId ≠ some .incident && played.1.asked.any fun op =>
    (doubtedRespond script played.2 op).2.status eventId = some .incident

def rechecking (eventId : JsString) : Process (Confirms sampleDeployment sampleNamespace) :=
  ⟨⟨sampleCautious, .recheck eventId⟩, rfl, rfl, rfl⟩

theorem Raised.asks {script : (call : Rpc) → Except Thrown call.Answer} (texts : FailsInTexts script)
    {eventId amount : JsString}
    (prepares : (prepareEvent sampleDoubted.isDate (variantEvent eventId amount)).isOk)
    (raised : Raised script eventId amount = true) :
    ∃ w op reply w', Asking sampleDoubted sampleNamespace sampleStart (rechecking eventId) w op ∧
      step sampleDoubted w op reply w' ∧ w'.status eventId = some .incident ∧
      w.status eventId ≠ some .incident ∧ OnSettled w := by
  have enqueued : Enqueues sampleDoubted.isDate .empty (variantQueue eventId amount).2 :=
    .single ⟨variantEvent eventId amount, variantPrepared eventId amount, _, _,
      eq_ok_of_isOk _ prepares, eq_ok_of_isOk (.unchanged, .empty) rfl⟩
  have queued : outside sampleDoubted sampleStart (variantQueued eventId amount) := by
    have settled := settledWorld_passes (w := sampleStart) ⟨.inl rfl, fun _ => rfl⟩
    exact .inl ⟨enqueued, settled.cluster, settled.view, rfl, rfl, rfl⟩
  have ran : Interaction.Steps (step sampleDoubted)
      ((rechecking eventId).val.work sampleDoubted.host sampleDoubted.net.sign, variantQueued eventId amount)
      (recheckPlay script eventId amount) ∧ OnSettled (recheckPlay script eventId amount).2 := by
    refine Interaction.steps_play (fun w op reply w' (settled : OnSettled w) answered => ?_) 60 _
      ⟨rfl, fun _ => rfl⟩
    split at answered
    · cases answered
    · obtain ⟨rfl, rfl⟩ := Prod.ext_iff.mp (Option.some.inj answered)
      exact doubtedRespond_step texts settled op
  obtain ⟨steps, settled⟩ := ran
  obtain ⟨before, raised⟩ := (Bool.and_eq_true _ _).mp raised
  obtain ⟨op, asked, incident⟩ := (Option.any_eq_true _ _).mp raised
  obtain ⟨next, asks⟩ := Interaction.asked_eq_some.mp asked
  rw [← Prod.eta (recheckPlay script eventId amount), asks] at steps
  refine ⟨_, op, _, _, ⟨_, next, .outside .start queued, steps⟩,
    (doubtedRespond_step texts settled op).1, of_decide_eq_true incident, of_decide_eq_true before,
    settled⟩

/-- The event is of another amount than the settlement. -/
theorem sampleIncident_raised :
    Raised (sampleAnswer sampleSettled) (js "event-1") (js "1002") = true ∧
      (prepareEvent sampleDoubted.isDate (variantEvent (js "event-1") (js "1002"))).isOk := by
  decide +kernel

theorem incident_only_if_contradicted_sample : ∃ w, ContradictedOnChain sampleDoubted sampleNamespace
    sampleCautious (js "event-1") w := by
  obtain ⟨w, op, reply, w', asks, moved, raised, before, settled⟩ :=
    Raised.asks (fun _ _ => sampleAnswer_error) sampleIncident_raised.2 sampleIncident_raised.1
  refine ⟨w, (incident_only_if_contradicted sampleDoubted sampleNamespace (fun _ => rfl)
    sampleStart_initial).2.2 _ w op reply w' _ asks moved raised before ?_⟩
  intro seed seeded transaction _ _ landing mem _
  rw [settled.1] at mem
  obtain rfl := List.mem_singleton.mp mem
  obtain rfl : sampleHost.sha256 (textEncode (js "event-1")) = seed := Except.ok.inj seeded
  exact sampleLanding_settles

/-! ### A misattributed settlement -/

def otherSeed : Bytes32 := sampleHost.sha256 (textEncode (js "event-2"))

/-- The sample settlement as the primary shows it: a settlement of another event. -/
def misattributed : ParsedTransaction :=
  { sampleLanding.shown with
    instructions := [{
      programId := sampleDeployment.programId
      accounts := some (sampleSettle.keys.map (·.key))
      data := some (base58Encode (SettlementInstruction.settleN otherSeed 1001 [7000, 3000]).pack) }] }

/-- The primary makes up a record of the other event and shows the sample settlement
as what created it. -/
def sampleMisattribution : (call : Rpc) → Except Thrown call.Answer
  | .getAccountInfo _ => .ok (some ⟨1, sampleDeployment.programId, recordData otherSeed 1001⟩)
  | .getParsedTransactions signatures => .ok (signatures.map fun _ => some misattributed)
  | call => sampleAnswer sampleSettled call

theorem sampleMisattribution_texts : FailsInTexts sampleMisattribution := by
  intro call error failed
  cases call with
  | getAccountInfo address => cases failed
  | getParsedTransactions signatures => cases failed
  | _ =>
      simp only [sampleMisattribution] at failed
      exact sampleAnswer_error failed

theorem sampleMisattribution_raised :
    Raised sampleMisattribution (js "event-2") (js "1001") = true ∧
      (prepareEvent sampleDoubted.isDate (variantEvent (js "event-2") (js "1001"))).isOk ∧
      otherSeed ≠ sampleHost.sha256 (textEncode sampleRequest.eventId) := by
  decide +kernel

/-- The sample settlement is of its own event only. -/
theorem sampleLanding_settles_only {ns : Pubkey} {seed : Bytes32} (settles : sampleLanding.Settles ns seed) :
    seed = sampleHost.sha256 (textEncode sampleRequest.eventId) := by
  obtain ⟨_, item, mem, amount, settled⟩ := settles
  obtain rfl := List.mem_singleton.mp mem
  rw [sampleSettle_item.1] at settled
  cases settled
  rfl

/-- An event becomes an incident on a true settlement of another event, of which the
primary alone said that it created the record. -/
theorem not_incident_only_if_contradicted :
    ¬ ∀ process w op reply w' eventId, Asking sampleDoubted sampleNamespace sampleStart process w op →
      step sampleDoubted w op reply w' → w'.status eventId = some .incident →
      w.status eventId ≠ some .incident →
      ContradictedOnChain sampleDoubted sampleNamespace process.val.options eventId w := by
  intro always
  obtain ⟨raises, prepares, other⟩ := sampleMisattribution_raised
  obtain ⟨w, op, reply, w', asks, moved, raised, before, settled⟩ :=
    Raised.asks sampleMisattribution_texts prepares raises
  obtain ⟨row, _, _, seed, amount, seeded, _, landing, mem, settles, _⟩ :=
    always _ w op reply w' _ asks moved raised before
  rw [settled.1] at mem
  obtain rfl := List.mem_singleton.mp mem
  obtain rfl : otherSeed = seed := Except.ok.inj seeded
  exact other (sampleLanding_settles_only settles)

end Synxed.Studio
