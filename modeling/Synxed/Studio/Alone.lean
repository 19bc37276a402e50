import Synxed.Studio.Books
import Synxed.Studio.Uses

/-!
The worker on its own.

Of its operations only three say something that must be so: an attempt begins,
an event is recorded paid, an event becomes an incident. The rest of the worker
is followed here once; what an event's creating transaction must prove is left
to the two parts that decide by it.

* `Deciding`: what the two parts owe.
* `Deciding.work`: then every command asks only what it may.
-/

namespace Synxed.Studio

open Synxed.Lib Synxed.Program Synxed.Sdk

variable {D : Deployment}

/-- An operation that claims nothing. -/
def Op.Plain : Op → Prop
  | .store (.beginAttempt _ _ _) => False
  | .store (.recordPaid _ _ _ _ _) => False
  | .store (.setEventStatus _ status _) => status ≠ .incident
  | _ => True

variable (env : Environment D) (ns : Pubkey)

/-- An operation, with the files in order before and after it. -/
def Filing (w : World D env.net) (op : Op) (reply : Except Thrown op.Reply) (w' : World D env.net) :
    Prop :=
  Filed D ns w.store ∧ step env w op reply w' ∧ Filed D ns w'.store

/-- A part of the worker asks only what it may. -/
abbrev Alone {α : Type} (guard : World D env.net → Op → Prop) (program : Work α)
    (post : α → World D env.net → Prop) (fail : Thrown → World D env.net → Prop)
    (w : World D env.net) : Prop :=
  Interaction.Safe (Filing env ns) guard program post fail w

/-- An event with its attempts, as they were read. -/
structure Known {net : Network} (event : StoredEvent) (attempts : List StoredAttempt)
    (w : World D net) : Prop extends Snapshot event w where
  own : ∀ attempt ∈ attempts, Stored D ns event (WorkerOptions.storedRequest attempt)
  all : ∀ stored, stored ∈ attempts.map WorkerOptions.storedRequest ↔
    ∃ attempt ∈ w.store.attemptRows.rows, attempt.eventId = event.eventId ∧
      WorkerOptions.storedRequest attempt = stored

/-- What the deciding parts owe. `found` is what the search for the creating
transaction tells of it. -/
structure Deciding (options : WorkerOptions) (guard : World D env.net → Op → Prop)
    (found : StoredEvent → SettlementTransaction → World D env.net → Prop) : Prop where
  plain : ∀ w op, op.Plain → guard w op
  begins : ∀ w eventId request params,
    (Method.beginAttempt eventId request params).BeginsOwn D ns w.store →
      guard w (.store (.beginAttempt eventId request params))
  search : ∀ w event, Alone env ns guard
    (findSettlementTransaction env.host (connectionTo .primary) options.programId options.ns
      event.eventId) (found event) (fun _ _ => True) w
  unmoved : ∀ event created w op reply w', found event created w → step env w op reply w' →
    found event created w'
  matched : ∀ w event attempts created stored, Known ns event attempts w → found event created w →
    created.topLevel → stored ∈ options.requestsOf event attempts →
      Alone env ns guard (options.recordMatch env.host event attempts created stored)
        (fun _ _ => True) (fun _ _ => True) w
  mismatched : ∀ w event attempts created primary, Known ns event attempts w →
    found event created w → created.topLevel →
      Alone env ns guard (options.recordMismatch env.host event created
        (options.requestsOf event attempts) primary) (fun _ _ => True) (fun _ _ => True) w

variable {env ns} {α : Type} {w w' : World D env.net} {guard : World D env.net → Op → Prop}

/-! ### What stays -/

variable (env) in
/-- Plain operations keep it. -/
def Unmoved (kept : World D env.net → Prop) : Prop :=
  ∀ w op reply w', op.Plain → kept w → step env w op reply w' → kept w'

theorem Unmoved.snapshot (event : StoredEvent) : Unmoved env (Snapshot event) :=
  fun _ _ _ _ _ snapshot moved => snapshot.keeps moved.keeps

theorem Unmoved.and {kept kept' : World D env.net → Prop} (first : Unmoved env kept)
    (second : Unmoved env kept') : Unmoved env fun w => kept w ∧ kept' w :=
  fun w op reply w' plain holds moved =>
    ⟨first w op reply w' plain holds.1 moved, second w op reply w' plain holds.2 moved⟩

theorem Unmoved.true : Unmoved env fun _ => True := fun _ _ _ _ _ _ _ => trivial

/-- Plain operations leave the attempts with what they were made for. -/
theorem step.attempts {op : Op} {reply : Except Thrown op.Reply}
    (moved : step env w op reply w') (plain : op.Plain) (eventId : JsString) (stored : StoredRequest) :
    (∃ attempt ∈ w'.store.attemptRows.rows, attempt.eventId = eventId ∧
      WorkerOptions.storedRequest attempt = stored) ↔
    ∃ attempt ∈ w.store.attemptRows.rows, attempt.eventId = eventId ∧
      WorkerOptions.storedRequest attempt = stored := by
  obtain ⟨middle, replies, passes⟩ := moved
  rw [(Store.keeps_of_enqueues passes.store).2]
  cases op with
  | store method =>
      obtain ⟨_, rfl⟩ := replies
      constructor
      · rintro ⟨attempt', mem, rfl, rfl⟩
        rcases Method.mem_attemptRows mem with ⟨attempt, inRows, same⟩ | ⟨_, _, _, rfl, _⟩
        · refine ⟨attempt, inRows, same.eventId.symm, ?_⟩
          simp only [WorkerOptions.storedRequest, same.request, same.params]
        · exact plain.elim
      · rintro ⟨attempt, mem, rfl, rfl⟩
        obtain ⟨attempt', mem', same⟩ := method.keeps_attempts w.store attempt mem
        refine ⟨attempt', mem', same.eventId, ?_⟩
        simp only [WorkerOptions.storedRequest, same.request, same.params]
  | rpc provider call =>
      cases reply with
      | ok answer =>
          obtain ⟨_, given, _, rfl⟩ := replies
          exact Iff.rfl
      | error error =>
          obtain ⟨_, given, _, rfl⟩ := replies
          exact Iff.rfl
  | polls =>
      obtain ⟨_, rfl⟩ := replies
      exact Iff.rfl
  | _ =>
      cases replies
      exact Iff.rfl

theorem Unmoved.known (event : StoredEvent) (attempts : List StoredAttempt) :
    Unmoved env (Known ns event attempts) := by
  intro w op reply w' plain known moved
  refine ⟨known.toSnapshot.keeps moved.keeps, known.own, fun stored => ?_⟩
  rw [known.all, moved.attempts plain]

/-! ### Rules -/

theorem plain_notes : Notes Op.Plain where
  lookup _ _ _ := trivial
  polls := trivial
  log _ := trivial
  event _ := trivial
  note _ _ := by
    intro same
    cases same

theorem plain_looks : Looks Op.Plain := plain_notes.toLooks

namespace Deciding

variable {options : WorkerOptions}
  {found : StoredEvent → SettlementTransaction → World D env.net → Prop}
  (deciding : Deciding env ns options guard found)

include deciding

/-- Parts that ask plain operations keep what these keep. -/
theorem always {program : Work α} {kept : World D env.net → Prop} (uses : program.Uses Op.Plain)
    (unmoved : Unmoved env kept) (holds : kept w) :
    Alone env ns guard program (fun _ => kept) (fun _ => kept) w :=
  Interaction.Safe.of_uses uses (fun w op plain _ => deciding.plain w op plain)
    (fun _ _ _ _ plain holds moved => unmoved _ _ _ _ plain holds moved.2.1) holds

theorem frame {program : Work α} {kept : World D env.net → Prop} (uses : program.Uses Op.Plain)
    (unmoved : Unmoved env kept) (holds : kept w) :
    Alone env ns guard program (fun _ => kept) (fun _ _ => True) w :=
  (deciding.always uses unmoved holds).mono (fun _ _ kept => kept) fun _ _ _ => trivial

theorem any {program : Work α} (uses : program.Uses Op.Plain) :
    Alone env ns guard program (fun _ _ => True) (fun _ _ => True) w :=
  deciding.frame uses .true trivial

/-- A method that is plain answers from the store it finds. -/
theorem call {method : Method} {post : method.Answer → World D env.net → Prop}
    (plain : (Op.store method).Plain)
    (ended : ∀ answer w', Filed D ns w.store → (method.apply w.store).1 = .ok answer →
      step env w (.store method) (.ok answer) w' → post answer w') :
    Alone env ns guard (Studio.call method) post (fun _ _ => True) w := by
  refine Interaction.safe_perform.mpr ⟨deciding.plain w _ plain, ?_, fun _ _ _ => trivial⟩
  rintro answer w' ⟨filed, moved, _⟩
  have ⟨middle, ⟨reply, _⟩, _⟩ := moved
  exact ended answer w' filed reply.symm moved

/-! ### Deciding -/

theorem resolveRecord {event : StoredEvent} {attempts : List StoredAttempt}
    (known : Known ns event attempts w) :
    Alone env ns guard (options.resolveRecord env.host event attempts) (fun _ _ => True)
      (fun _ _ => True) w := by
  unfold WorkerOptions.resolveRecord
  have both : Alone env ns guard (Interaction.result (findSettlementTransaction env.host
      (connectionTo .primary) options.programId options.ns event.eventId))
      (fun result w' => Known ns event attempts w' ∧ ∀ created, result = .ok created →
        found event created w') (fun _ _ => True) w := by
    refine Interaction.Safe.result ((deciding.search w event).and (deciding.always
      (plain_looks.uses_findSettlementTransaction _ _ _ _ _) (.known event attempts) known)) ?_ ?_
    · rintro created w' ⟨shown, known⟩
      exact ⟨known, fun _ same => Except.ok.inj same ▸ shown⟩
    · rintro error w' ⟨_, known⟩
      exact ⟨known, fun _ same => nomatch same⟩
  refine Interaction.Safe.bind both fun created w known => ?_
  match created with
  | .error error => exact deciding.any (plain_notes.uses_unresolved _ _)
  | .ok created =>
      obtain ⟨known, shown⟩ := known
      have shown := shown created rfl
      dsimp only
      split
      · next topLevel =>
        refine Interaction.Safe.bind (deciding.frame (Interaction.uses_each
          (fun _ => plain_looks.uses_reconcile _ _ _ _) _)
          ((Unmoved.known event attempts).and fun _ _ _ _ _ => deciding.unmoved event created _ _ _ _)
          ⟨known, shown⟩) fun primary w known => ?_
        split
        · next stored _ found =>
            have mem := List.of_mem_zip (List.mem_of_find?_eq_some found)
            exact deciding.matched w event attempts created stored known.1 known.2 topLevel mem.1
        · exact deciding.mismatched w event attempts created primary known.1 known.2 topLevel
      · exact deciding.any (plain_notes.uses_unresolved _ _)

theorem decide {eventId : JsString} {event : StoredEvent} (snapshot : Snapshot event w)
    (sameId : event.eventId = column eventId) :
    Alone env ns guard (options.decide env.host eventId event) (fun _ _ => True)
      (fun _ _ => True) w := by
  unfold WorkerOptions.decide
  refine Interaction.Safe.bind (deciding.frame Interaction.uses_ofExcept (.snapshot event) snapshot)
    fun seed w snapshot => ?_
  refine Interaction.Safe.bind (deciding.frame (plain_looks.uses_readRecord seed) (.snapshot event)
    snapshot) fun read w snapshot => ?_
  match read with
  | .failed error => exact deciding.any (plain_notes.uses_unresolved _ _)
  | .disagree => exact deciding.any (plain_notes.uses_unresolved _ _)
  | .absent =>
      refine deciding.any (Interaction.uses_bind (uses_call trivial) fun attempts => ?_)
      exact Interaction.uses_bind (uses_expireSigned (fun _ _ => trivial) _ attempts) fun _ =>
        uses_retryOrGiveUp (fun _ same => nomatch same) (fun _ _ same => nomatch same) _ _
  | .present =>
      have told : Alone env ns guard (Studio.call (.attempts eventId))
          (fun attempts => Known ns event attempts) (fun _ _ => True) w := by
        refine deciding.call trivial fun attempts w' filed read moved => ?_
        obtain rfl := Except.ok.inj read
        refine ⟨snapshot.keeps moved.keeps, fun attempt mem =>
          (filed.for _).stored_of_mem_attempts snapshot sameId mem, fun stored => ?_⟩
        rw [moved.attempts trivial, sameId, List.mem_map]
        simp only [Store.mem_attempts, and_assoc]
      exact Interaction.Safe.bind told fun attempts w known => deciding.resolveRecord known

theorem resolve (eventId : JsString) (w : World D env.net) :
    Alone env ns guard (options.resolve env.host eventId) (fun _ _ => True) (fun _ _ => True) w := by
  unfold WorkerOptions.resolve
  have told : Alone env ns guard (Studio.call (.event eventId)) (fun stored w' => ∀ event,
      stored = some event → Snapshot event w' ∧ event.eventId = column eventId)
      (fun _ _ => True) w := by
    refine deciding.call trivial fun stored w' filed read moved => ?_
    rintro event rfl
    obtain ⟨row, mem, id, rfl⟩ := Store.event_eq_some.mp (Except.ok.inj read)
    exact ⟨(filed.snapshot mem).keeps moved.keeps, id⟩
  refine Interaction.Safe.bind told fun stored w known => ?_
  cases stored with
  | none => exact trivial
  | some event =>
      obtain ⟨snapshot, sameId⟩ := known event rfl
      dsimp only
      split
      · exact trivial
      · refine Interaction.Safe.bind (deciding.frame (uses_call trivial) (.snapshot event) snapshot)
          fun attempts w snapshot => ?_
        split
        · exact deciding.any (Interaction.uses_bind (uses_call (fun same => nomatch same))
            fun _ => trivial)
        · refine Interaction.Safe.bind (deciding.frame (Interaction.uses_result
            (plain_looks.uses_mayStillLand (fun _ => trivial) (fun _ _ => trivial) _ _ _))
            (.snapshot event) snapshot) fun landing w snapshot => ?_
          match landing with
          | .error error => exact deciding.any (plain_notes.uses_unresolved _ _)
          | .ok true => exact trivial
          | .ok false => exact deciding.decide snapshot sameId

theorem recheck (eventId : JsString) (w : World D env.net) :
    Alone env ns guard (options.recheck env.host eventId) (fun _ _ => True) (fun _ _ => True) w := by
  unfold WorkerOptions.recheck
  refine Interaction.Safe.bind (deciding.any (uses_call trivial)) fun stored w _ => ?_
  cases stored with
  | none => exact trivial
  | some event =>
      dsimp only
      split
      · exact trivial
      · split
        · exact Interaction.Safe.bind (deciding.any (uses_call (plain_notes.note _ _)))
            fun _ w _ => deciding.resolve eventId w
        · exact deciding.resolve eventId w

/-! ### Settling -/

theorem awaitOutcome (eventId : JsString) (polls : Nat) (w : World D env.net) :
    Alone env ns guard (options.awaitOutcome env.host eventId polls) (fun _ _ => True)
      (fun _ _ => True) w := by
  induction polls generalizing w with
  | zero => exact deciding.resolve eventId w
  | succ polls ih =>
      refine Interaction.Safe.bind (deciding.resolve eventId w) fun outcome w _ => ?_
      split
      · exact trivial
      · exact ih w

theorem follow (eventId : JsString) (w : World D env.net) :
    Alone env ns guard (options.follow env.host eventId) (fun _ _ => True) (fun _ _ => True) w :=
  Interaction.Safe.bind (deciding.any (uses_ask trivial))
    fun polls w _ => deciding.awaitOutcome eventId polls w

theorem settleRefused (event : StoredEvent) (attempt : Nat) (reason : JsString)
    (w : World D env.net) :
    Alone env ns guard (options.settleRefused env.host event attempt reason) (fun _ _ => True)
      (fun _ _ => True) w := by
  unfold WorkerOptions.settleRefused
  refine Interaction.Safe.bind (deciding.any (uses_call trivial)) fun _ w _ => ?_
  refine Interaction.Safe.bind (deciding.any Interaction.uses_ofExcept) fun seed w _ => ?_
  refine Interaction.Safe.bind (deciding.any (plain_looks.uses_readRecord seed)) fun read w _ => ?_
  match read with
  | .failed error => exact deciding.any (plain_notes.uses_unresolved _ _)
  | .disagree => exact deciding.any (plain_notes.uses_unresolved _ _)
  | .absent =>
      refine deciding.any (Interaction.uses_bind (uses_call (fun same => nomatch same)) fun _ => ?_)
      exact Interaction.uses_bind (plain_looks.uses_log _) fun _ => trivial
  | .present =>
      exact Interaction.Safe.bind (deciding.any (plain_looks.uses_log _))
        fun _ w _ => deciding.follow event.eventId w

theorem send (event : StoredEvent) (attempt : Nat) (raw : Bytes) (w : World D env.net) :
    Alone env ns guard (options.send env.host event attempt raw) (fun _ _ => True)
      (fun _ _ => True) w := by
  unfold WorkerOptions.send
  refine Interaction.Safe.bind (deciding.any (Interaction.uses_result (uses_ask trivial)))
    fun sent w _ => ?_
  match sent with
  | .ok (.refused reason) => exact deciding.settleRefused event attempt reason w
  | .ok (.accepted _) => exact deciding.follow event.eventId w
  | .error error =>
      exact Interaction.Safe.bind (deciding.any (plain_looks.uses_log _))
        fun _ w _ => deciding.follow event.eventId w

variable (program : options.programId = D.programId) (sameNs : options.ns = ns)

include program sameNs

theorem settle (sign : Signer) {event : StoredEvent} (snapshot : Snapshot event w) :
    Alone env ns guard (options.settle env.host sign event) (fun _ _ => True) (fun _ _ => True) w := by
  have giveUp (attempt : Nat) (note : JsString) :
      (WorkerOptions.giveUp event.eventId attempt note).Uses Op.Plain := by
    refine Interaction.uses_bind (uses_call trivial) fun _ => ?_
    refine Interaction.uses_bind (uses_call (fun same => nomatch same)) fun _ => ?_
    exact Interaction.uses_bind (plain_looks.uses_log _) fun _ => trivial
  unfold WorkerOptions.settle
  split
  · exact deciding.any (Interaction.uses_bind (uses_call (fun same => nomatch same))
      fun _ => trivial)
  refine Interaction.Safe.bind (deciding.frame (Interaction.uses_result
    (plain_looks.uses_request _ _ trivial)) (.snapshot event) snapshot) fun latest w snapshot => ?_
  match latest with
  | .error error =>
      refine deciding.any (Interaction.uses_bind (uses_call (fun same => nomatch same)) fun _ => ?_)
      exact Interaction.uses_bind (plain_looks.uses_log _) fun _ => trivial
  | .ok latest =>
      have began : Alone env ns guard
          (Studio.call (.beginAttempt event.eventId event.request options.params))
          (fun _ _ => True) (fun _ _ => True) w := by
        obtain ⟨row, mem, id, request, _⟩ := snapshot.stored
        refine Interaction.safe_perform.mpr ⟨deciding.begins w _ _ _ ?_, fun _ _ _ => trivial,
          fun _ _ _ => trivial⟩
        exact ⟨⟨congrArg toBase58 program, congrArg toBase58 sameNs⟩, row, mem,
          id.trans snapshot.column_eventId.symm, request⟩
      refine Interaction.Safe.bind began fun attempt w _ => ?_
      split
      · exact deciding.any (giveUp _ _)
      · split
        · exact deciding.any (giveUp _ _)
        · refine Interaction.Safe.bind (deciding.any (uses_call trivial)) fun _ w _ => ?_
          refine Interaction.Safe.bind (deciding.any (uses_ask trivial))
            fun _ w _ => ?_
          refine Interaction.Safe.bind (deciding.any (plain_looks.uses_log _)) fun _ w _ => ?_
          exact deciding.send event attempt _ w

/-! ### Commands -/

omit program sameNs in
/-- One event after the other, each as it was read. -/
theorem batch {name : JsString} {decide : StoredEvent → Work Outcome} {events : List StoredEvent}
    (one : ∀ event w, Snapshot event w → Alone env ns guard (decide event) (fun _ _ => True)
      (fun _ _ => True) w)
    (snapshots : ∀ event ∈ events, Snapshot event w) :
    Alone env ns guard (WorkerOptions.batch name decide events) (fun _ _ => True)
      (fun _ _ => True) w := by
  unfold WorkerOptions.batch
  let inv (rest : List StoredEvent) (w : World D env.net) : Prop := ∀ event ∈ rest, Snapshot event w
  have start : inv events w := snapshots
  refine Interaction.Safe.bind (Interaction.safe_each ?_ start) fun _ _ _ => trivial
  intro event rest w snapshots
  have decided : Alone env ns guard
      (tryCatch (decide event) fun error =>
        WorkerOptions.contain event.eventId (name ++ js " failed: " ++ error.text))
      (fun _ _ => True) (fun _ _ => True) w :=
    Interaction.Safe.tryCatch (one event w (snapshots event List.mem_cons_self))
      fun error w _ => deciding.any (plain_notes.uses_contain _ _)
  have keeps (w : World D env.net) (op : Op) (reply : Except Thrown op.Reply) (w' : World D env.net)
      (_ : guard w op) (snapshots : inv rest w) (moved : Filing env ns w op reply w') : inv rest w' :=
    fun event mem => (snapshots event mem).keeps moved.2.1.keeps
  have kept := Interaction.Safe.keeps decided keeps
    fun event mem => snapshots event (List.mem_cons_of_mem _ mem)
  refine Interaction.Safe.bind ((kept.guard_mono fun _ _ both => both.1).mono
    (fun _ _ both => both.2) fun _ _ _ => trivial) fun outcome w snapshots => snapshots

omit program sameNs in
theorem eventsWithStatus (status : EventStatus) (limit : Option Nat) (w : World D env.net) :
    Alone env ns guard (Studio.call (.eventsWithStatus status limit))
      (fun events w' => ∀ event ∈ events, Snapshot event w') (fun _ _ => True) w := by
  refine deciding.call trivial fun events w' filed read moved event mem => ?_
  rw [← Except.ok.inj read] at mem
  obtain ⟨row, inRows, rfl, _⟩ := Store.mem_eventsWithStatus mem
  exact (filed.snapshot inRows).keeps moved.keeps

theorem run (sign : Signer) (limit : Option Nat) (w : World D env.net) :
    Alone env ns guard (options.run env.host sign limit) (fun _ _ => True) (fun _ _ => True) w := by
  unfold WorkerOptions.run
  refine Interaction.Safe.bind (deciding.eventsWithStatus _ _ w) fun inFlight w snapshots => ?_
  refine Interaction.Safe.bind (deciding.batch (fun event w _ =>
    deciding.resolve event.eventId w) snapshots) fun _ w _ => ?_
  refine Interaction.Safe.bind (deciding.eventsWithStatus _ _ w) fun pending w snapshots => ?_
  exact Interaction.Safe.bind (deciding.batch (fun event w snapshot =>
    deciding.settle program sameNs sign snapshot) snapshots) fun _ _ _ => trivial

/-- Every command asks only what it may. -/
theorem work (sign : Signer) (action : Action) (w : World D env.net) :
    Alone env ns guard (Command.work env.host sign ⟨options, action⟩) (fun _ _ => True)
      (fun _ _ => True) w := by
  cases action with
  | run limit =>
      exact Interaction.Safe.bind (deciding.run program sameNs sign limit w) fun _ _ _ => trivial
  | resolve eventId =>
      exact Interaction.Safe.bind (deciding.resolve eventId w) fun _ _ _ => trivial
  | recheck eventId =>
      exact Interaction.Safe.bind (deciding.recheck eventId w) fun _ _ _ => trivial

end Deciding

/-! ### Runs -/

/-- An attempt begins for the request of its event. -/
def Op.BeginsBy (mine : JsString → AttemptParams → Prop) (store : Store) : Op → Prop
  | .store method => method.BeginsBy mine store
  | _ => True

variable (D ns) in
/-- An attempt begins in the worker's namespace. -/
abbrev Op.BeginsOwn (store : Store) (op : Op) : Prop := op.BeginsBy (fun _ => MadeIn D ns) store

theorem FiledBy.of_step {mine : JsString → AttemptParams → Prop} {op : Op}
    {reply : Except Thrown op.Reply} (filed : FiledBy mine w.store) (own : op.BeginsBy mine w.store)
    (moved : step env w op reply w') : FiledBy mine w'.store := by
  obtain ⟨middle, replies, passes⟩ := moved
  refine FiledBy.enqueues ?_ passes.store
  cases op with
  | store method =>
      obtain ⟨_, rfl⟩ := replies
      exact filed.of_apply own
  | rpc provider call =>
      cases reply with
      | ok answer =>
          obtain ⟨_, given, _, rfl⟩ := replies
          exact filed
      | error error =>
          obtain ⟨_, given, _, rfl⟩ := replies
          exact filed
  | polls =>
      obtain ⟨_, rfl⟩ := replies
      exact filed
  | _ =>
      cases replies
      exact filed

theorem FiledBy.outside {mine : JsString → AttemptParams → Prop} (filed : FiledBy mine w.store)
    (acted : outside env w w') : FiledBy mine w'.store := by
  rcases acted with passes | ⟨eventId, note, passes⟩
  · exact filed.enqueues passes.store
  · have flags : (Method.setEventStatus eventId .needsAttention note).BeginsBy mine w.store := trivial
    exact (filed.of_apply flags).enqueues passes.store

section Runs

variable {configured : WorkerOptions → Prop} {ask : Process configured → World D env.net → Op → Prop}
  {found : StoredEvent → SettlementTransaction → World D env.net → Prop}
  (each : ∀ process, Deciding env ns process.val.options (ask process) found)
  (own : ∀ process w op, ask process w op → op.BeginsOwn D ns w.store)
  (program : ∀ options, configured options → options.programId = D.programId ∧ options.ns = ns)

include each own program

theorem Deciding.safe_process (process : Process configured) (filed : Filed D ns w.store) :
    Interaction.Safe (step env) (fun w op => ask process w op ∧ Filed D ns w.store)
      (process.val.work env.host env.net.sign) (fun _ w => Filed D ns w.store)
      (fun _ w => Filed D ns w.store) w := by
  obtain ⟨programId, sameNs⟩ := program _ process.property
  have worked := (each process).work programId sameNs env.net.sign process.val.action w
  exact (Interaction.Safe.within worked (fun w op reply w' asks filed moved =>
    filed.of_step (own process w op asks) moved) filed).mono (fun _ _ both => both.2)
      fun _ _ both => both.2

/-- In every run the files stay in order, and every operation is one that may be
asked. -/
theorem Deciding.asks {start : World D env.net} (initial : start.Initial)
    {process : Process configured} {op : Op} (asks : Interaction.AsksEach (fun _ => step env)
      (fun process : Process configured => process.val.work env.host env.net.sign) (outside env) start
      process w op) : ask process w op ∧ Filed D ns w.store := by
  let inv (w : World D env.net) : Prop := Filed D ns w.store
  let guard (process : Process configured) (w : World D env.net) (op : Op) : Prop :=
    ask process w op ∧ inv w
  have begins : inv start := by
    change Filed D ns start.store
    rw [initial.store]
    exact .empty
  have acts (w w' : World D env.net) (filed : inv w) (acted : Studio.outside env w w') : inv w' :=
    FiledBy.outside filed acted
  have kept : guard process w op := asks.guarded begins acts
    (fun _ _ _ (guarded : guard _ _ _) => guarded.2) fun process w filed =>
      Deciding.safe_process each own program process filed
  exact kept

end Runs

end Synxed.Studio
