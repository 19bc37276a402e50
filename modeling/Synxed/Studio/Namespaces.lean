import Synxed.Studio.Signing
import Synxed.Studio.Progress

/-!
One program and namespace for each event.

The configuration of the worker may change between two runs. `resolve` gives an
event up that was attempted elsewhere; `settle` does not look.

* `Placed`: while no run is handed such an event to settle, the attempts of an
  event share its request and its namespace.
* `Placed.stillPays`: so an event that an own attempt settled is decided as paid.
* `one_namespace`: the same for every run, with what `settle` then does not do.
* `not_always_one_namespace`: a second run, configured anew, attempts an event
  elsewhere.
-/

namespace Synxed.Studio

open Synxed.Lib Synxed.Program Synxed.Sdk

variable {D : Deployment} {env : Environment D} {configured : WorkerOptions → Prop}
  {options : WorkerOptions} {eventId : JsString} {w w' : World D env.net}

/-- An event is attempted, signed for and sent only where it was attempted
before. -/
def Op.StaysHere {net : Network} (options : WorkerOptions) (w : World D net) : Op → Prop
  | .store (.beginAttempt eventId _ params) =>
      options.Made params ∧ w.store.Within options.Made (column eventId)
  | .store (.recordSigned eventId _ _ _ _) => w.store.Within options.Made (column eventId)
  | .rpc _ (.sendRawTransaction raw _) =>
      ∃ e, w.store.HasSigned e raw ∧ w.store.Within options.Made e
  | _ => True

/-- The attempts of an event were made under one program and namespace. -/
def Store.OneNamespace (store : Store) : Prop :=
  ∀ first ∈ store.attemptRows.rows, ∀ second ∈ store.attemptRows.rows,
    first.eventId = second.eventId →
      first.params.programId = second.params.programId ∧ first.params.ns = second.params.ns

/-- The worker resolves an event as its record decides, once nothing can land
for it. -/
def Resolves (env : Environment D) (options : WorkerOptions) (eventId : JsString)
    (event : StoredEvent) (w : World D env.net) : Prop :=
  ∀ outcome middle w',
    Interaction.Steps (step env) (WorkerOptions.mayStillLand false none (w.store.attempts eventId), w)
      (.pure false, middle) →
    Interaction.Steps (step env) (options.decide env.host eventId event, middle) (.pure outcome, w') →
    Interaction.Steps (step env) (options.resolve env.host eventId, w) (.pure outcome, w')

/-- The worker decides the event as paid, if its rows can be written: once one of its
stored transactions settled it in the worker's namespace and nothing can land for it, in
every quiet moment in which the providers show what is finalized. -/
def StillPays (env : Environment D) (options : WorkerOptions) (eventId : JsString)
    (event : StoredEvent) (w : World D env.net) : Prop :=
  ∀ archive seed landing history raw,
    options.programId = D.programId →
    0 < options.finalityTimeoutMs.getD 60000 ∧ 0 < options.pollIntervalMs.getD 1000 →
    eventIdSeed env.host eventId = .ok seed →
    (∃ attempt ∈ w.store.attempts eventId, attempt.Carries raw) →
    env.net.parse raw = some landing.transaction →
    Evident archive (w.view .primary) options.ns seed landing history →
    (∀ provider, Faithful (archive provider) (w.view provider)) →
    (∀ attempt ∈ w.store.attempts eventId, attempt.AtRest (w.view .primary)) →
    (Decided env archive options eventId w .paid ↔ Creditable event)

/-- The worker gives an event up to a person. -/
def GivesUp (env : Environment D) (options : WorkerOptions) (eventId : JsString)
    (w : World D env.net) : Prop :=
  ∀ outcome w', Interaction.Steps (step env) (options.resolve env.host eventId, w) (.pure outcome, w') →
    outcome = .needsAttention ∧ w'.status eventId = some .needsAttention

/-! ### Resolving -/

theorem Store.within_iff {store : Store} {mine : AttemptParams → Prop} :
    store.Within mine (column eventId) ↔ ∀ attempt ∈ store.attempts eventId, mine attempt.params := by
  simp only [Within, mem_attempts, and_imp]

/-- Reading the store takes no time. -/
theorem step_reads {method : Method} (reads : (method.apply w.store).2 = w.store)
    (records : method.records w.store = []) {answer : method.Answer}
    (told : (method.apply w.store).1 = .ok answer) : step env w (.store method) (.ok answer) w := by
  refine ⟨w, ⟨told.symm, ?_⟩, .refl w⟩
  rw [reads, records, List.append_nil]

/-- An event that was attempted nowhere else is resolved. -/
theorem resolves_of_within {event : StoredEvent} (found : w.store.event eventId = some event)
    (inFlight : event.status = .inFlight) (within : w.store.Within options.Made (column eventId)) :
    Resolves env options eventId event w := by
  intro outcome middle w' lands decides
  have here : (w.store.attempts eventId).find? (fun attempt =>
      attempt.params.programId ≠ toBase58 options.programId ∨
        attempt.params.ns ≠ toBase58 options.ns) = none := by
    rw [List.find?_eq_none]
    intro attempt mem
    obtain ⟨program, ns⟩ := Store.within_iff.mp within attempt mem
    simp [program, ns]
  unfold WorkerOptions.resolve
  refine (Interaction.Steps.bind (Interaction.Steps.perform (step_reads rfl rfl rfl))).trans ?_
  rw [found]
  simp only [ne_eq, inFlight, not_true_eq_false, if_false]
  refine (Interaction.Steps.bind (Interaction.Steps.perform (step_reads rfl rfl rfl))).trans ?_
  rw [here]
  exact (Interaction.Steps.bind (Interaction.Steps.result lands)).trans decides

/-- An event that was attempted elsewhere is given up. -/
theorem givesUp_of_not_within {event : StoredEvent} (journal : Journal w.store)
    (found : w.store.event eventId = some event) (inFlight : event.status = .inFlight)
    (elsewhere : ¬ w.store.Within options.Made (column eventId)) :
    GivesUp env options eventId w := by
  intro outcome w' ran
  have gives : Careful env 0 (fun _ => True) (column eventId) (options.resolve env.host eventId)
      (fun outcome w' => outcome = .needsAttention ∧
        w'.store.Standing (column eventId) .needsAttention) (fun _ _ => False) w := by
    unfold WorkerOptions.resolve
    have told : Careful env 0 (fun _ => True) (column eventId) (call (.event eventId))
        (fun stored w' => stored = w.store.event eventId ∧ w.store.Queues w'.store)
        (fun _ _ => False) w :=
      careful_call trivial (fun _ _ _ read queues _ => ⟨(Except.ok.inj read).symm, queues⟩)
        fun _ _ failed => nomatch failed
    refine Interaction.Safe.bind told fun stored w' told => ?_
    obtain ⟨rfl, queues⟩ := told
    obtain ⟨row, mem, id, rfl⟩ := Store.event_eq_some.mp found
    rw [found]
    simp only [ne_eq, inFlight, not_true_eq_false, if_false]
    refine Interaction.Safe.bind (careful_attempts rfl) fun attempts w'' told => ?_
    obtain ⟨queues', _, read, _⟩ := told
    have standing : w''.store.Standing (column eventId) .inFlight :=
      queues'.standing (queues.standing ⟨row, mem, id, inFlight⟩)
    split
    · exact Interaction.Safe.bind (careful_setEventStatus rfl standing (nomatch ·))
        fun _ _ standing => ⟨rfl, standing⟩
    · next nowhere =>
      refine absurd (fun attempt inRows id => ?_) elsewhere
      rw [← queues.attempts, ← queues'.attempts] at inRows
      have made := List.find?_eq_none.mp nowhere attempt ((read attempt).mpr ⟨inRows, id⟩)
      simp only [decide_eq_true_eq, not_or, not_not] at made
      exact made
  have safe := Interaction.Safe.within gives
    (fun w op reply w' owes journal moved => owes.journal journal moved) journal
  obtain ⟨⟨same, standing⟩, _⟩ := safe.returned ran
  exact ⟨same, Store.event_of_standing standing⟩

/-! ### What a step keeps -/

theorem WorkerOptions.Made.same {params params' : AttemptParams} (made : options.Made params)
    (made' : options.Made params') :
    params.programId = params'.programId ∧ params.ns = params'.ns :=
  ⟨made.1.trans made'.1.symm, made.2.trans made'.2.symm⟩

namespace Store.OneNamespace

variable {store store' : Store}

theorem of_eq (one : store.OneNamespace) (same : store'.attemptRows = store.attemptRows) :
    store'.OneNamespace := by
  unfold Store.OneNamespace
  rw [same]
  exact one

theorem of_apply {method : Method} {limit : Nat} {e : JsString} (one : store.OneNamespace)
    (owes : method.Owes limit options.Made e store) : (method.apply store).2.OneNamespace := by
  -- a new attempt is made where the others of its event were
  have began {attempt other : StoredAttempt} (mem : attempt ∈ (method.apply store).2.attemptRows.rows)
      (mem' : other ∈ (method.apply store).2.attemptRows.rows) (same : attempt.eventId = other.eventId)
      {eventId : JsString} {request : SettlementRequestN} {params : AttemptParams}
      (begins : method = .beginAttempt eventId request params)
      (here : attempt.eventId = column eventId) :
      attempt.params.programId = other.params.programId ∧ attempt.params.ns = other.params.ns := by
    subst begins
    have after := Method.Owes.within owes owes.2.2.1
    have named := here.trans owes.1
    exact (after attempt mem named).same (after other mem' (same.symm.trans named))
  intro first mem second mem' same
  rcases Method.mem_attemptRows mem with ⟨old, inRows, kept⟩ | ⟨_, _, _, begins, here, _⟩
  · rcases Method.mem_attemptRows mem' with ⟨old', inRows', kept'⟩ | ⟨_, _, _, begins, here, _⟩
    · rw [kept.params, kept'.params]
      exact one old inRows old' inRows' (by rw [← kept.eventId, ← kept'.eventId, same])
    · obtain ⟨program, ns⟩ := began mem' mem same.symm begins here
      exact ⟨program.symm, ns.symm⟩
  · exact began mem mem' same begins here

/-- The attempts of an event with one of the worker's are all the worker's. -/
theorem within (one : store.OneNamespace) {attempt : StoredAttempt}
    (mem : attempt ∈ store.attempts eventId) (made : options.Made attempt.params) :
    store.Within options.Made (column eventId) := by
  intro other inRows id
  obtain ⟨inRows', id'⟩ := Store.mem_attempts.mp mem
  obtain ⟨program, ns⟩ := one attempt inRows' other inRows (id'.trans id.symm)
  exact ⟨program.symm.trans made.1, ns.symm.trans made.2⟩

end Store.OneNamespace

/-- What is known of a store whose events stay in one namespace. -/
structure Placed (store : Store) : Prop where
  journal : Journal store
  one : store.OneNamespace
  filed : FiledBy (fun _ _ => True) store

namespace Placed

theorem empty : Placed .empty where
  journal := .empty
  one _ mem := by cases mem
  filed := .empty

theorem of_step {op : Op} {reply : Except Thrown op.Reply} {limit : Nat} {e : JsString}
    (placed : Placed w.store) (owes : op.Owes limit options.Made e w)
    (moved : step env w op reply w') : Placed w'.store where
  journal := owes.journal placed.journal moved
  one := by
    refine Store.OneNamespace.of_eq ?_ moved.queues.attempts
    cases op with
    | store method => exact placed.one.of_apply owes
    | _ => exact placed.one
  filed := by
    refine placed.filed.of_step ?_ moved
    cases op with
    | store method =>
        cases method with
        | beginAttempt eventId request params =>
            obtain ⟨rfl, _, _, _, row⟩ := owes
            exact ⟨trivial, row⟩
        | _ => exact trivial
    | _ => exact trivial

theorem outside (placed : Placed w.store) (acted : outside env w w') : Placed w'.store where
  journal := placed.journal.outside acted
  one := by
    rcases outside.cases acted with queues | ⟨eventId, note, queues⟩
    · exact placed.one.of_eq queues.attempts
    · exact placed.one.of_eq queues.attempts
  filed := placed.filed.outside acted

/-- The attempts of an event with one of the worker's are filed in its namespace. -/
theorem filedFor {store : Store} (placed : Placed store) (program : options.programId = D.programId)
    (within : store.Within options.Made (column eventId)) :
    FiledFor D options.ns (column eventId) store := by
  refine placed.filed.mono fun attempt mem _ id => ?_
  obtain ⟨made, here⟩ := within attempt mem id
  exact ⟨program ▸ made, here⟩

/-- An event that an own attempt settled is decided as paid. -/
theorem stillPays (placed : Placed w.store) (borne : Borne env w) (labelled : w.store.Labelled)
    {event : StoredEvent} (found : w.store.event eventId = some event)
    (inFlight : event.status = .inFlight) (within : w.store.Within options.Made (column eventId)) :
    StillPays env options eventId event w := by
  intro archive seed landing history raw program timed seeded own parsed evident faithful atRest
  obtain ⟨attempt, mem, carries⟩ := own
  obtain ⟨inRows, id⟩ := Store.mem_attempts.mp mem
  have built : BuiltFor D env.host options.ns (WorkerOptions.storedRequest attempt) landing.transaction :=
    borne.builtFor inRows (within attempt inRows id) program carries parsed
  exact decided_paid_iff (placed.filedFor program within) placed.journal labelled program rfl timed
    faithful found inFlight atRest seeded mem built evident

end Placed

theorem Op.Owes.staysHere {op : Op} {limit : Nat} {e : JsString}
    (owes : op.Owes limit options.Made e w) : op.StaysHere options w := by
  cases op with
  | store method =>
      cases method with
      | beginAttempt eventId request params =>
          obtain ⟨rfl, made, within, _⟩ := owes
          exact ⟨made, within⟩
      | recordSigned eventId attempt signature raw lastValid =>
          obtain ⟨rfl, within⟩ := owes
          exact within
      | _ => trivial
  | rpc provider call =>
      cases call with
      | sendRawTransaction raw skipPreflight =>
          obtain ⟨within, signed⟩ := owes raw (List.mem_singleton_self raw)
          exact ⟨e, signed, within⟩
      | _ => trivial
  | _ => trivial

/-! ### Every run -/

/-- The steps of a run that is handed no event attempted elsewhere to settle. -/
abbrev handedOwn (env : Environment D) (configured : WorkerOptions → Prop)
    (process : Process configured) :
    World D env.net → (op : Op) → Except Thrown op.Reply → World D env.net → Prop :=
  Minded env process.val.options.attemptLimit process.val.options.Made

/-- **One namespace for each event.** In every run of a studio, one worker at a
time and each configured as it likes, whatever the providers answer, in which no
run of the worker is handed an event to settle that was attempted under another
program or namespace: an event is attempted, signed for and sent only where it
was attempted before; one in flight that was attempted here is resolved as its
record decides, so as paid where an own attempt settled it, and one that was
attempted elsewhere is given up. -/
theorem one_namespace (env : Environment D) (configured : WorkerOptions → Prop)
    {start : World D env.net} (initial : start.Initial) :
    (∀ process w op, Interaction.AsksEach (handedOwn env configured)
        (fun process : Process configured => process.val.work env.host env.net.sign) (outside env)
        start process w op → op.StaysHere process.val.options w) ∧
      ∀ w, Interaction.ReachableEach (handedOwn env configured)
          (fun process : Process configured => process.val.work env.host env.net.sign) (outside env)
          start w →
        w.store.OneNamespace ∧ ∀ options eventId event, w.store.event eventId = some event →
          event.status = .inFlight →
          ((∃ attempt ∈ w.store.attempts eventId, options.Made attempt.params) →
            Resolves env options eventId event w ∧ StillPays env options eventId event w) ∧
          ((∃ attempt ∈ w.store.attempts eventId, ¬ options.Made attempt.params) →
            GivesUp env options eventId w) := by
  let inv (w : World D env.net) : Prop := Placed w.store
  let guard (process : Process configured) (w : World D env.net) (op : Op) : Prop :=
    op.StaysHere process.val.options w ∧ inv w
  have begins : inv start := by
    change Placed start.store
    rw [initial.store]
    exact .empty
  have acts (w w' : World D env.net) (placed : inv w) (acted : outside env w w') : inv w' :=
    Placed.outside placed acted
  have safe (process : Process configured) (w : World D env.net) (placed : inv w) :
      Interaction.Safe (handedOwn env configured process) (guard process)
        (process.val.work env.host env.net.sign) (fun _ => inv) (fun _ => inv) w := by
    have here (params : AttemptParams) (made : process.val.options.Made params) := made
    have worked := minded_work here env.net.sign process.val.action placed.journal
    have kept := Interaction.Safe.keeps worked (fun w op reply w' owes (placed : Placed w.store)
      (moved : handedOwn env configured process w op reply w') =>
        owes.1.elim fun _ owes => placed.of_step owes moved.1) placed
    exact (kept.guard_mono fun w op both =>
      ⟨both.1.1.elim fun _ owes => owes.staysHere, both.2⟩).mono (fun _ _ both => both.2)
        fun _ _ both => both.2
  constructor
  · intro process w op asks
    have kept : guard process w op :=
      asks.guarded begins acts (fun _ _ _ (guarded : guard _ _ _) => guarded.2) safe
    exact kept.1
  intro w reached
  have placed : Placed w.store :=
    reached.invariant begins acts (fun _ _ _ (guarded : guard _ _ _) => guarded.2) safe
  have ran : Run env configured start w := reached.reachable fun _ _ _ _ _ moved => moved.1
  refine ⟨placed.one, fun options eventId event found inFlight => ⟨?_, ?_⟩⟩
  · rintro ⟨attempt, mem, made⟩
    have within : w.store.Within options.Made (column eventId) := placed.one.within mem made
    exact ⟨resolves_of_within found inFlight within,
      placed.stillPays (Run.borne initial ran) (Run.labelled initial ran) found inFlight within⟩
  · rintro ⟨attempt, mem, other⟩
    exact givesUp_of_not_within placed.journal found inFlight fun within =>
      other (Store.within_iff.mp within attempt mem)

/-! ### Sample runs

The sample worker sends its transaction, which lands, or gets too old. If it gets too
old, the worker tries again and is stopped before it sends, and a worker of another
namespace gives the event up. -/

instance (params : AttemptParams) : Decidable (options.Made params) :=
  inferInstanceAs (Decidable (_ ∧ _))

/-- Whatever is listed to be settled was attempted only with the worker's options. -/
def Op.handsOwn (options : WorkerOptions) (store : Store) : Op → Bool
  | .store (.eventsWithStatus .pending count) =>
      (store.eventsWithStatus .pending count).all fun event =>
        store.attemptRows.rows.all fun attempt =>
          decide (attempt.eventId = event.eventId → options.Made attempt.params)
  | _ => true

theorem minds_of_handsOwn {net : Network} {w : World D net} {op : Op} {limit : Nat} (own : op.handsOwn options w.store) :
    Minds limit options.Made w op := by
  rintro count rfl event listed _ attempt mem id
  have all := List.all_eq_true.mp own event listed
  exact of_decide_eq_true (List.all_eq_true.mp all attempt mem) id

/-- A worker runs, as long as it is handed only such events. -/
def handedPlay (fuel : Nat) (options : WorkerOptions) (w : World sampleDeployment sampleNetwork) :
    Work Unit × World sampleDeployment sampleNetwork :=
  Interaction.play (fun w op =>
    if op.handsOwn options w.store then some (idleRespond w op) else none) fuel (sampleRunOf options, w)

/-- A run of a worker of any options. -/
abbrev sampleRunner (options : WorkerOptions) : Process fun _ => True := ⟨⟨options, .run none⟩, trivial⟩

theorem handedPlay_steps {chain : Cluster sampleDeployment} {w : World sampleDeployment sampleNetwork}
    (still : Standstill chain w) (fuel : Nat) (options : WorkerOptions) :
    Interaction.Steps (handedOwn sampleEnvironment (fun _ => True) (sampleRunner options))
      (sampleRunOf options, w) (handedPlay fuel options w) ∧
        Standstill chain (handedPlay fuel options w).2 := by
  refine Interaction.steps_play (fun w op reply w' (still : Standstill chain w) answered => ?_) fuel
    (sampleRunOf options, w) still
  split at answered
  · next own =>
    obtain ⟨rfl, rfl⟩ := Prod.ext_iff.mp (Option.some.inj answered)
    obtain ⟨moved, after⟩ := idleRespond_step still op
    have minds : Minds options.attemptLimit options.Made w op := minds_of_handsOwn own
    exact ⟨⟨moved, minds⟩, after⟩
  · cases answered

/-- A worker of another namespace. -/
def sampleMoved : WorkerOptions := { sampleWorker with ns := Bytes32.fill 10 }

@[irreducible] def sampleFirst : Work Unit × World sampleDeployment sampleNetwork :=
  handedPlay 40 sampleWorker sampleQueued

@[irreducible] def sampleSecond : Work Unit × World sampleDeployment sampleNetwork :=
  handedPlay 15 sampleWorker (sampleAt sampleOld sampleOld_grown sampleFirst.2)

@[irreducible] def sampleThird : Work Unit × World sampleDeployment sampleNetwork :=
  handedPlay 40 sampleMoved sampleSecond.2

/-- It sends a transaction. -/
def Op.sends : Op → Bool
  | .rpc _ (.sendRawTransaction _ _) => true
  | _ => false

/-- What the three runs leave. -/
theorem sampleRuns :
    (sampleFirst.2.store.event (js "event-1")).any (fun event => event.status = .inFlight ∧
      ∀ share ∈ event.request.shares, share.label ∉ inheritedNames) = true ∧
    (∃ attempt ∈ sampleFirst.2.store.attempts (js "event-1"), sampleWorker.Made attempt.params ∧
      attempt.rawTransaction = some (base64Encode sampleRaw)) ∧
    (∀ attempt ∈ sampleFirst.2.store.attempts (js "event-1"),
      attempt.signature = some sampleSigned.id) ∧
    sampleSecond.1.asked.any Op.sends = true ∧
    (sampleSecond.2.store.attempts (js "event-1")).length = 2 ∧
    (sampleSecond.2.store.event (js "event-1")).any (fun event => event.status = .inFlight) = true ∧
    (∃ attempt ∈ sampleSecond.2.store.attempts (js "event-1"), ¬ sampleMoved.Made attempt.params) ∧
    sampleThird.2.status (js "event-1") = some .needsAttention := by
  decide +kernel

/-- A world that the sample studio reaches while each run is handed what it may settle. -/
abbrev SampleReached : World sampleDeployment sampleNetwork → Prop :=
  Interaction.ReachableEach (handedOwn sampleEnvironment fun _ => True)
    (fun process : Process fun _ => True =>
      process.val.work sampleEnvironment.host sampleEnvironment.net.sign)
    (outside sampleEnvironment) sampleStart

theorem sampleFirst_steps :
    Interaction.Steps (handedOwn sampleEnvironment (fun _ => True) (sampleRunner sampleWorker))
      (sampleRunOf sampleWorker, sampleQueued) sampleFirst ∧ Standstill sampleOpen sampleFirst.2 := by
  unfold sampleFirst
  exact handedPlay_steps ⟨rfl, fun _ => rfl⟩ 40 sampleWorker

theorem sampleSecond_steps :
    Interaction.Steps (handedOwn sampleEnvironment (fun _ => True) (sampleRunner sampleWorker))
      (sampleRunOf sampleWorker, sampleAt sampleOld sampleOld_grown sampleFirst.2) sampleSecond ∧
        Standstill sampleOld sampleSecond.2 := by
  unfold sampleSecond
  exact handedPlay_steps (standstill_sampleAt sampleOld_grown _) 15 sampleWorker

theorem sampleThird_steps :
    Interaction.Steps (handedOwn sampleEnvironment (fun _ => True) (sampleRunner sampleMoved))
      (sampleRunOf sampleMoved, sampleSecond.2) sampleThird := by
  unfold sampleThird
  exact (handedPlay_steps sampleSecond_steps.2 40 sampleMoved).1

theorem one_namespace_sample :
    Decided sampleEnvironment (fun _ => settledArchive) sampleWorker (js "event-1")
        (sampleAt sampleSettled sampleSettled_grown sampleFirst.2) .paid ∧
      (∃ op, sampleSecond.1.asked = some op ∧ op.sends ∧ op.StaysHere sampleWorker sampleSecond.2) ∧
      (sampleSecond.2.store.attempts (js "event-1")).length = 2 ∧
      GivesUp sampleEnvironment sampleMoved (js "event-1") sampleSecond.2 ∧
      sampleThird.2.store.OneNamespace ∧
      sampleThird.2.status (js "event-1") = some .needsAttention := by
  have queued : outside sampleEnvironment sampleStart sampleQueued := .inl sampleQueued_passes
  obtain ⟨asks, reaches⟩ := one_namespace sampleEnvironment (fun _ => True) sampleStart_initial
  obtain ⟨ran, still⟩ := sampleFirst_steps
  have first : SampleReached sampleFirst.2 :=
    .command (.outside .start queued) (sampleRunner sampleWorker) sampleFirst.1 ran
  have aged : SampleReached (sampleAt sampleOld sampleOld_grown sampleFirst.2) :=
    .outside first (outside_sampleAt sampleOld_grown still sampleOld_later)
  obtain ⟨waiting, ⟨attempt, mem, made, carries⟩, signed, sends, twice, retried, elsewhere, givenUp⟩ :=
    sampleRuns
  have second : SampleReached sampleSecond.2 :=
    .command aged (sampleRunner sampleWorker) sampleSecond.1 sampleSecond_steps.1
  have third : SampleReached sampleThird.2 :=
    .command second (sampleRunner sampleMoved) sampleThird.1 sampleThird_steps
  refine ⟨?_, ?_, twice, ?_, (reaches _ third).1, givenUp⟩
  · obtain ⟨event, found, known⟩ := (Option.any_eq_true _ _).mp waiting
    obtain ⟨inFlight, named⟩ := of_decide_eq_true known
    have seeded : eventIdSeed sampleHost (js "event-1") =
        .ok (sampleHost.sha256 (textEncode sampleRequest.eventId)) :=
      eventIdSeed_eq_ok.mpr ⟨by decide, rfl⟩
    have landed : SampleReached (sampleAt sampleSettled sampleSettled_grown sampleFirst.2) :=
      .outside first (outside_sampleAt sampleSettled_grown still sampleSettled_later)
    have pays := (((reaches _ landed).2 sampleWorker (js "event-1") event found inFlight).1
      ⟨attempt, mem, made⟩).2
    exact (pays (fun _ => settledArchive) _ sampleLanding [sampleLanding] sampleRaw rfl (by decide) seeded
      ⟨attempt, mem, carries⟩ rfl sampleLanding_evident (fun _ => settledArchive_faithful)
      fun other mem _ signature isSigned => .inl ⟨sampleLanding, List.mem_singleton_self _,
        Option.some.inj ((signed other mem).symm.trans isSigned)⟩).mpr (.of_labels named)
  · obtain ⟨op, asked, isSend⟩ := (Option.any_eq_true _ _).mp sends
    obtain ⟨next, is⟩ := Interaction.asked_eq_some.mp asked
    have moves := sampleSecond_steps.1
    rw [← Prod.eta sampleSecond, is] at moves
    exact ⟨op, asked, isSend, asks (sampleRunner sampleWorker) _ op ⟨_, next, aged, moves⟩⟩
  · obtain ⟨event, found, inFlight⟩ := (Option.any_eq_true _ _).mp retried
    exact ((reaches _ second).2 sampleMoved (js "event-1") event found (of_decide_eq_true inFlight)).2
      elsewhere

/-- The sample worker was refused. -/
@[irreducible] def sampleRefused : Work Unit × World sampleDeployment sampleNetwork :=
  scriptedPlay sampleRefusals 40 (sampleRunOf sampleWorker) sampleQueued

/-- A worker of another namespace read the pending event and a blockhash. -/
@[irreducible] def sampleElsewhere : Work Unit × World sampleDeployment sampleNetwork :=
  scriptedPlay sampleRefusals 3 (sampleRunOf sampleMoved) sampleRefused.2

/-- An operation that begins an attempt of an event that has one elsewhere. -/
def Op.beginsElsewhere (options : WorkerOptions) (store : Store) : Op → Bool
  | .store (.beginAttempt eventId _ _) =>
      (store.attempts eventId).any fun attempt => attempt.params.ns ≠ toBase58 options.ns
  | _ => false

theorem Op.not_staysHere {op : Op} {w : World D env.net}
    (elsewhere : op.beginsElsewhere options w.store) : ¬ op.StaysHere options w := by
  cases op with
  | store method =>
      cases method with
      | beginAttempt eventId request params =>
          obtain ⟨attempt, mem, other⟩ := List.any_eq_true.mp elsewhere
          rintro ⟨_, within⟩
          exact of_decide_eq_true other (Store.within_iff.mp within attempt mem).2
      | _ => cases elsewhere
  | _ => cases elsewhere

theorem sampleElsewhere_begins :
    sampleElsewhere.1.asked.any (Op.beginsElsewhere sampleMoved sampleElsewhere.2.store) = true := by
  decide +kernel

/-- A worker of another namespace begins an attempt of the event. -/
theorem not_always_one_namespace :
    ¬ ∀ process w op, Interaction.AsksEach (fun _ => step sampleLiar)
      (fun process : Process fun _ => True => process.val.work sampleLiar.host sampleLiar.net.sign)
      (outside sampleLiar) sampleStart process w op → op.StaysHere process.val.options w := by
  intro always
  have queued : outside sampleLiar sampleStart sampleQueued := .inl sampleQueued_passes
  have refused : Interaction.Steps (step sampleLiar) (sampleRunOf sampleWorker, sampleQueued)
      sampleRefused := by
    unfold sampleRefused
    exact scriptedPlay_steps _ _ _ _
  have moves : Interaction.Steps (step sampleLiar) (sampleRunOf sampleMoved, sampleRefused.2)
      sampleElsewhere := by
    unfold sampleElsewhere
    exact scriptedPlay_steps _ _ _ _
  obtain ⟨op, asked, elsewhere⟩ := (Option.any_eq_true _ _).mp sampleElsewhere_begins
  obtain ⟨next, asks⟩ := Interaction.asked_eq_some.mp asked
  rw [← Prod.eta sampleElsewhere, asks] at moves
  exact Op.not_staysHere elsewhere (always ⟨⟨sampleMoved, .run none⟩, trivial⟩ _ op
    ⟨_, next, .command (.outside .start queued) ⟨⟨sampleWorker, .run none⟩, trivial⟩ _ refused, moves⟩)

end Synxed.Studio
