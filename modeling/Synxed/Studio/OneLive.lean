import Synxed.Studio.Heeding
import Synxed.Studio.Second

/-!
One live attempt: a worker whose primary provider is honest begins an attempt only
when no transaction of an earlier one can still land or has settled the event.

* `Deciding.pays`: the worker records only what landed.
* `sound_work`: every command keeps the accounts.
* `one_live_attempt`: then whatever an earlier attempt sent is dead.
-/

namespace Synxed.Studio

open Synxed.Lib Synxed.Program Synxed.Sdk

variable {D : Deployment} {env : Environment D} {ns : Pubkey} {w w' : World D env.net} {e : JsString}

/-! ### Recording -/

section Paying

variable {options : WorkerOptions}

theorem Op.Silent.pays {op : Op} (silent : op.Silent) : op.Pays env ns w := by
  cases op with
  | store method => cases method <;> first | exact trivial | exact silent.elim
  | _ => trivial

theorem paying_silent {α : Type} {program : Work α} (uses : program.Uses Op.Silent) :
    Alone env ns (fun w op => op.Pays env ns w) program (fun _ _ => True) (fun _ _ => True) w :=
  Interaction.Safe.of_uses uses (fun _ _ silent _ => silent.pays) (fun _ _ _ _ _ _ _ => trivial) trivial

/-- What an honest primary shows has landed. -/
theorem step.landed (honest : ∀ call, env.honest .primary call) {signature : JsString}
    {found : Option ParsedTransaction}
    (moved : step env w (.rpc .primary (.getParsedTransaction signature)) (.ok found) w') :
    ∀ transaction, found = some transaction → Landed signature w' := by
  rintro transaction rfl
  obtain ⟨view, _, later, landing, mem, id, _⟩ := moved.heard.truth moved.onward (honest _)
  exact ⟨landing, later.mem_ledger (Cluster.mem_of_mem_finalizedLedger mem), id⟩

/-- A worker with an honest primary records only what landed. -/
theorem Deciding.pays (honest : ∀ call, env.honest .primary call)
    (program : options.programId = D.programId) (sameNs : options.ns = ns) :
    Deciding env ns options (fun w op => op.Pays env ns w) fun _ _ _ => True where
  plain _ _ plain := plain.silent.pays
  begins _ _ _ _ own := own
  search _ _ := paying_silent (silent_notes.toLooks.uses_findSettlementTransaction _ _ _ _ _)
  unmoved _ _ _ _ _ _ _ _ := trivial
  matched w event attempts created stored known _ _ mem := by
    have own := stored_of_mem_requestsOf program sameNs known.own mem
    rw [WorkerOptions.recordMatch_eq]
    refine Interaction.Safe.bind (paying_silent (silent_notes.toLooks.uses_confirmMatch _ _))
      fun confirmed w _ => ?_
    split
    swap
    · exact paying_silent (silent_notes.uses_unresolved _ _)
    unfold WorkerOptions.writeMatch
    have reconciled : Alone env ns (fun w op => op.Pays env ns w)
        (options.reconcile env.host .primary created.signature stored (some event.beneficiaryIds))
        (Tells env.host (fun _ w => Landed created.signature w)
          (options.reconcileOptions created.signature stored D.programId ns (some event.beneficiaryIds)))
        (fun _ _ => True) w :=
      alone_reconcile (fun _ _ plain => plain.silent.pays) own.programId own.ns _
        (fun _ _ _ moved => moved.landed honest) w
    refine Interaction.Safe.bind reconciled fun rows w told => ?_
    cases rows with
    | refused mismatch error => exact paying_silent (silent_notes.uses_unresolved _ _)
    | matched rows =>
        obtain ⟨shown, landed, same⟩ := told.1 rows rfl
        have signature : rows.record.signature = created.signature := reconciled_signature same
        rw [← signature] at landed
        refine Interaction.Safe.bind (Interaction.safe_perform.mpr
          ⟨landed, fun _ _ _ => trivial, fun _ _ _ => trivial⟩) fun _ w (_ : True) => ?_
        exact paying_silent (Interaction.uses_bind (silent_notes.uses_log _) fun _ => trivial)
  mismatched w event attempts created primary _ _ _ := by
    rw [WorkerOptions.recordMismatch_eq]
    refine Interaction.Safe.bind (paying_silent (silent_notes.toLooks.uses_confirmMismatch _ _ _))
      fun confirmed w _ => ?_
    split
    · exact paying_silent (Interaction.uses_bind (uses_call trivial) fun _ =>
        Interaction.uses_bind (silent_notes.uses_log _) fun _ => trivial)
    · exact paying_silent (silent_notes.uses_unresolved _ _)

end Paying

/-! ### Commands -/

section Commands

variable {options : WorkerOptions} (honest : ∀ call, env.honest .primary call)
  (program : options.programId = D.programId) (sameNs : options.ns = ns)

variable (env ns) in
/-- The worker owes the event what it asks, and heeds the chain. -/
def Op.Minds (limit : Nat) (e : JsString) (w : World D env.net) (op : Op) : Prop :=
  op.Owes limit (fun _ => True) e w ∧ op.Heeds env ns w

theorem minds_notes (limit : Nat) (e : JsString) :
    Notes fun op => ∀ w : World D env.net, op.Owes limit (fun _ => True) e w →
      op.Minds env ns limit e w where
  lookup _ _ _ := fun _ owes => ⟨owes, trivial⟩
  polls := fun _ owes => ⟨owes, trivial⟩
  log _ := fun _ owes => ⟨owes, trivial⟩
  event _ := fun _ owes => ⟨owes, trivial⟩
  note _ _ := fun _ owes => ⟨owes, fun same => (by cases same)⟩

variable (env ns) in
/-- A command minds the events it works on. -/
abbrev Minding {α : Type} (limit : Nat) (program : Work α) (post : α → World D env.net → Prop)
    (w : World D env.net) : Prop :=
  Interaction.Safe (Accounting env ns) (fun w op => ∃ e, op.Minds env ns limit e w) program post
    (fun _ _ => True) w

/-- A part that owes what it asks and heeds the chain minds its event. -/
theorem minding {α : Type} {limit : Nat} {work : Work α} {post post' : α → World D env.net → Prop}
    {fail : Thrown → World D env.net → Prop}
    (careful : Careful env limit (fun _ => True) e work post fail w) (heeding : Heeding env ns work post' w) :
    Interaction.Safe (Accounting env ns) (fun w op => op.Minds env ns limit e w) work post
      (fun _ _ => True) w :=
  ((careful.step_mono fun _ _ _ _ (moved : Accounting env ns _ _ _ _) => moved.orderly).both
    heeding).mono (fun _ _ both => both.1) fun _ _ _ => trivial

theorem minding_eventsWithStatus {limit : Nat} (status : EventStatus) (count : Option Nat)
    (ready : Ready env ns w) :
    Minding env ns limit (call (.eventsWithStatus status count)) (fun events w' =>
      (events.map StoredEvent.eventId).Nodup ∧ (∀ event ∈ events, Listed event w'.store ∧
        event.status = status) ∧ Ready env ns w') w := by
  have read : Interaction.Safe (Accounting env ns) (fun w op => ∃ e, op.Owes limit (fun _ => True) e w)
      (call (.eventsWithStatus status count)) _ _ w :=
    (careful_eventsWithStatus status count w).step_mono fun _ _ _ _ moved => moved.orderly
  have uses : (call (.eventsWithStatus status count)).Uses Op.Reads := uses_call trivial
  have heeds := heeding_reads uses ready
  refine ((read.both heeds).guard_mono fun _ _ both => ?_).mono (fun _ _ both => ?_) fun _ _ _ => trivial
  · obtain ⟨⟨e, owes⟩, heeds⟩ := both
    exact ⟨e, owes, heeds⟩
  · exact ⟨both.1.2.2.1, both.1.2.2.2, both.2.2⟩

include honest program sameNs

theorem minding_run (count : Option Nat) (ready : Ready env ns w) :
    Minding env ns options.attemptLimit (options.run env.host env.net.sign count)
      (fun _ _ => True) w := by
  have here (params : AttemptParams) (_ : options.Made params) : True := trivial
  have begins {events : List StoredEvent} {w : World D env.net} (ready : Ready env ns w)
      (listed : ∀ event ∈ events, Listed event w.store) :
      Batch (fun _ _ => True) (Ready env ns) [] events w :=
    ⟨ready.journal, ready, fun _ mem => absurd mem List.not_mem_nil,
      fun event mem => ⟨listed event mem, trivial⟩⟩
  unfold WorkerOptions.run
  refine Interaction.Safe.bind (minding_eventsWithStatus .inFlight none ready) fun inFlight w told => ?_
  obtain ⟨distinct, listed, ready⟩ := told
  have resolved : Minding env ns options.attemptLimit (WorkerOptions.batch (js "resolve")
      (fun event => options.resolve env.host event.eventId) inFlight) (fun _ => Ready env ns) w := by
    refine (asking_batch (fun _ _ _ _ moved => moved.orderly) (fun _ _ _ minds => minds.1) distinct
      stays_true (fun _ _ _ _ _ _ _ _ moved => moved.2.2) (minds_notes options.attemptLimit)
      (fun event mem w journal ready listed _ => ?_)
      (begins ready fun event mem => (listed event mem).1)).mono (fun _ _ told => told.2.1)
      fun _ _ _ => trivial
    exact minding (careful_resolve here (listed.named journal) w)
      (heeding_resolve honest program sameNs event.eventId ready)
  refine Interaction.Safe.bind resolved fun resolved w ready => ?_
  refine Interaction.Safe.bind (minding_eventsWithStatus .pending count ready) fun pending w told => ?_
  obtain ⟨distinct, listed, ready⟩ := told
  have settled : Minding env ns options.attemptLimit (WorkerOptions.batch (js "settle")
      (options.settle env.host env.net.sign) pending) (fun _ _ => True) w := by
    refine (asking_batch (fun _ _ _ _ moved => moved.orderly) (fun _ _ _ minds => minds.1) distinct
      stays_true (fun _ _ _ _ _ _ _ _ moved => moved.2.2) (minds_notes options.attemptLimit)
      (fun event mem w journal ready listed' _ => ?_)
      (begins ready fun event mem => (listed event mem).1)).mono (fun _ _ _ => trivial)
      fun _ _ _ => trivial
    have isPending := (listed event mem).2
    have standing := listed'.standing
    rw [isPending] at standing
    exact minding (careful_settle here env.net.sign journal listed' isPending fun _ _ _ _ => trivial)
      (heeding_settle honest program sameNs ready (listed'.named journal) standing)
  exact Interaction.Safe.bind settled fun _ _ _ => trivial

theorem minding_work (action : Action) (ready : Ready env ns w) :
    Minding env ns options.attemptLimit (Command.work env.host env.net.sign ⟨options, action⟩)
      (fun _ _ => True) w := by
  have here (params : AttemptParams) (_ : options.Made params) : True := trivial
  cases action with
  | run count =>
      exact Interaction.Safe.bind (minding_run honest program sameNs count ready) fun _ _ _ => trivial
  | resolve eventId =>
      have careful : Careful env options.attemptLimit (fun _ => True) (column eventId)
          (options.resolve env.host eventId) (Reports (column eventId)) (fun _ _ => True) w :=
        careful_resolve here rfl w
      have minds := minding careful (heeding_resolve honest program sameNs eventId ready)
      exact Interaction.Safe.bind (minds.guard_mono fun _ _ minds => ⟨_, minds⟩) fun _ _ _ => trivial
  | recheck eventId =>
      have careful : Careful env options.attemptLimit (fun _ => True) (column eventId)
          (options.recheck env.host eventId) (Reports (column eventId)) (fun _ _ => True) w :=
        careful_recheck here rfl w
      have minds := minding careful (heeding_recheck honest program sameNs eventId ready)
      exact Interaction.Safe.bind (minds.guard_mono fun _ _ minds => ⟨_, minds⟩) fun _ _ _ => trivial

/-- The same with nothing taken for granted on the way. -/
theorem sound_work (action : Action) (ready : Ready env ns w) :
    Interaction.Safe (step env) (fun w op => ((∃ e, op.Minds env ns options.attemptLimit e w) ∧
        op.Pays env ns w) ∧ Ready env ns w)
      (Command.work env.host env.net.sign ⟨options, action⟩) (fun _ => Ready env ns)
      (fun _ => Ready env ns) w := by
  have pays := ((Deciding.pays honest program sameNs).work program sameNs env.net.sign action w).step_mono
    fun _ _ _ _ (moved : Accounting env ns _ _ _ _) => ⟨moved.1.filed, moved.2.1, moved.2.2.filed⟩
  refine (Interaction.Safe.within ((minding_work honest program sameNs action ready).both pays)
    (fun w op reply w' guards ready moved => ?_) ready).mono (fun _ _ both => both.2)
    fun _ _ both => both.2
  obtain ⟨⟨e, owes, heeds⟩, pays⟩ := guards
  exact ready.of_step owes heeds pays moved

end Commands

/-! ### Every run -/

section Runs

variable {configured : WorkerOptions → Prop} {start : World D env.net}
  (honest : ∀ call, env.honest .primary call)
  (here : ∀ options, configured options → options.programId = D.programId ∧ options.ns = ns)

variable (env ns) in
/-- What holds when a process of the studio asks an operation. -/
def Op.Sound (w : World D env.net) (op : Op) : Prop :=
  (∃ limit e, op.Minds env ns limit e w) ∧ Ready env ns w

include honest here

theorem sound_process (process : Process configured) (ready : Ready env ns w) :
    Interaction.Safe (step env) (fun w op => op.Sound env ns w) (process.val.work env.host env.net.sign)
      (fun _ => Ready env ns) (fun _ => Ready env ns) w := by
  obtain ⟨program, sameNs⟩ := here _ process.property
  refine (sound_work honest program sameNs process.val.action ready).guard_mono ?_
  rintro w op ⟨⟨⟨e, minds⟩, _⟩, ready⟩
  exact ⟨⟨_, e, minds⟩, ready⟩

theorem Run.ready (initial : start.Initial) (reached : Run env configured start w) : Ready env ns w :=
  reached.invariant (.initial initial) (fun _ _ ready acted => Ready.outside ready acted)
    (fun _ _ (sound : Op.Sound env ns _ _) => sound.2) fun process _ ready =>
      sound_process honest here process ready

theorem AboutTo.sound (initial : start.Initial) {op : Op} (about : AboutTo env configured start w op) :
    op.Sound env ns w :=
  about.guarded (.initial initial) (fun _ _ ready acted => Ready.outside ready acted)
    (fun _ _ (sound : Op.Sound env ns _ _) => sound.2) fun process _ ready =>
      sound_process honest here process ready

end Runs

/-- **One live attempt.** One worker after the other runs on one database and one
namespace, each stopped anywhere; requests may fail, be lost or have their answer lost,
and what the primary answers is true of the chain it then sees. When an attempt begins,
no transaction that an earlier attempt of the event handed to the cluster can land any
more, or has settled the event. Every transaction that was handed over, or is about to
be, stands byte for byte in the row of an attempt of the event it was built for, with
its signature and its last valid block height. -/
theorem one_live_attempt (env : Environment D) (ns : Pubkey)
    (honest : ∀ call, env.honest .primary call) (configured : WorkerOptions → Prop)
    (here : ∀ options, configured options → options.programId = D.programId ∧ options.ns = ns)
    {start : World D env.net} (initial : start.Initial) :
    (∀ w eventId request params n store',
      AboutTo env configured start w (.store (.beginAttempt eventId request params)) →
      w.store.beginAttempt eventId request params = .ok (n, store') →
      ∀ transaction, SentFor env (column eventId) transaction w →
        ¬ Cluster.MayLand env.net transaction w.cluster ∧
          ∀ seed, eventIdSeed env.host eventId = .ok seed →
            ¬ Cluster.SettledWith ns seed transaction w.cluster) ∧
    (∀ w, Run env configured start w → ∀ raw ∈ w.forwarded,
      ∃ attempt ∈ w.store.attemptRows.rows, attempt.eventId = column attempt.request.eventId ∧
        ∃ transaction, attempt.Bears env.net env.host D ns raw transaction) ∧
    ∀ w provider call, AboutTo env configured start w (.rpc provider call) → ∀ raw ∈ handed call,
      ∃ attempt ∈ w.store.attemptRows.rows, attempt.eventId = column attempt.request.eventId ∧
        attempt.status = .signed ∧ ∃ transaction, attempt.Bears env.net env.host D ns raw transaction := by
  refine ⟨fun w eventId request params n store' about began transaction sentFor => ?_,
    fun w reached raw sent => ?_, fun w provider call about raw mem => ?_⟩
  · obtain ⟨_, ready⟩ := AboutTo.sound honest here initial about
    obtain ⟨event, found, pending, _⟩ := Store.beginAttempt_eq_ok began
    obtain ⟨row, mem, id, rfl⟩ := Store.event_eq_some.mp found
    have clear := ready.clear ⟨row, mem, id, pending⟩
    refine ⟨((clear.stopped transaction sentFor).later (w.behind .primary)).not_mayLand,
      fun seed seeded => clear.unsettled transaction sentFor seed ?_⟩
    rwa [eventIdSeed_of_column (column_column eventId)]
  · have ready := Run.ready honest here initial reached
    obtain ⟨attempt, mem, carries⟩ := ready.accounted.held raw sent
    exact ⟨attempt, mem, ready.named mem, ready.bears mem carries⟩
  · obtain ⟨⟨limit, e, owes, _⟩, ready⟩ := AboutTo.sound honest here initial about
    obtain ⟨attempt, inRows, _, isSigned, carries⟩ := ready.carried (owes raw mem).2
    exact ⟨attempt, inRows, ready.named inRows, isSigned, ready.bears inRows carries⟩

/-! ### A sample retry

The sample transaction is sent and never lands. Once its blockhash is too old, the
worker begins another attempt. -/

/-- The surroundings answer truly at once, and nothing lands. -/
def idleRespond (w : World sampleDeployment sampleNetwork) :
    (op : Op) → Except Thrown op.Reply × World sampleDeployment sampleNetwork
  | .store method =>
      ((method.apply w.store).1, { w with
        store := (method.apply w.store).2
        recorded := w.recorded ++ method.records w.store })
  | .rpc provider call =>
      match sampleAnswer w.cluster call with
      | .error error => (.error error, w)
      | .ok answer => (.ok answer, { w with
          forwarded := w.forwarded ++ handed call
          answers := w.answers ++ [⟨provider, call, answer, w.view provider⟩] })
  | .polls => (.ok 0, w)
  | .log _ => (.ok (), w)
  | .beforeSend _ _ => (.ok (), w)

/-- The chain stands still, and every endpoint is up to date. -/
structure Standstill (chain : Cluster sampleDeployment) (w : World sampleDeployment sampleNetwork) :
    Prop where
  cluster : w.cluster = chain
  current : ∀ provider, w.view provider = chain

/-- The same store, with every endpoint up to date with a later chain. -/
def sampleAt (chain : Cluster sampleDeployment) (grown : chain.Grown sampleNetwork)
    (w : World sampleDeployment sampleNetwork) : World sampleDeployment sampleNetwork :=
  { w with
    cluster := chain
    view := fun _ => chain
    grown := fun _ => grown
    behind := fun _ => .refl }

theorem outside_sampleAt {chain chain' : Cluster sampleDeployment} (grown : chain'.Grown sampleNetwork)
    {w : World sampleDeployment sampleNetwork} (still : Standstill chain w)
    (later : Cluster.Later sampleNetwork chain chain') :
    outside sampleEnvironment w (sampleAt chain' grown w) := by
  refine .inl ⟨.refl, ?_, fun provider => ?_, rfl, rfl, rfl⟩
  · rwa [still.cluster]
  · rwa [still.current provider]

theorem standstill_sampleAt {chain : Cluster sampleDeployment} (grown : chain.Grown sampleNetwork)
    (w : World sampleDeployment sampleNetwork) : Standstill chain (sampleAt chain grown w) :=
  ⟨rfl, fun _ => rfl⟩

theorem idleRespond_step {chain : Cluster sampleDeployment}
    {w : World sampleDeployment sampleNetwork} (still : Standstill chain w) (op : Op) :
    step sampleEnvironment w op (idleRespond w op).1 (idleRespond w op).2 ∧
      Standstill chain (idleRespond w op).2 := by
  cases op with
  | store method => exact ⟨⟨_, ⟨rfl, rfl⟩, .refl _⟩, still.cluster, still.current⟩
  | polls => exact ⟨⟨w, ⟨⟨_, rfl⟩, rfl⟩, .refl w⟩, still⟩
  | log line => exact ⟨⟨w, rfl, .refl w⟩, still⟩
  | beforeSend eventId signature => exact ⟨⟨w, rfl, .refl w⟩, still⟩
  | rpc provider call =>
      cases answered : sampleAnswer w.cluster call with
      | error error =>
          simp only [idleRespond, answered]
          refine ⟨⟨w, ⟨sampleAnswer_error answered, [], .inl rfl, ?_⟩, .refl w⟩, still⟩
          simp only [List.append_nil]
          rfl
      | ok answer =>
          have told : Truth sampleNetwork (w.view provider) call answer := by
            rw [still.current provider, ← still.cluster]
            exact sampleAnswer_truth answered
          have accepted : ¬ (True ∧ RefusedBy call answer) := by
            rintro ⟨_, refused⟩
            cases call with
            | sendRawTransaction raw skipPreflight => cases answered; exact refused
            | _ => exact refused
          simp only [idleRespond, answered]
          exact ⟨⟨_, ⟨fun _ => told, handed call, .inr ⟨rfl, accepted⟩, rfl⟩, .refl _⟩,
            still.cluster, still.current⟩

/-- Some blocks pass. -/
theorem Cluster.later_blocks {net : Network} (cluster : Cluster D) (blocks : Nat) :
    Cluster.Later net cluster { cluster with height := cluster.height + blocks } := by
  induction blocks with
  | zero => exact .refl
  | succ blocks ih => exact ih.tail .block

/-- The sample worker sends its transaction, and waits. -/
@[irreducible] def sampleIdle : Work Unit × World sampleDeployment sampleNetwork :=
  Interaction.play (fun w op => some (idleRespond w op)) 40 (sampleRunOf sampleWorker, sampleQueued)

/-- The sample blockhash is too old. -/
def sampleOld : Cluster sampleDeployment := { sampleOpen with height := 101 }

theorem sampleOld_later : Cluster.Later sampleNetwork sampleOpen sampleOld :=
  Cluster.later_blocks sampleOpen 101

theorem sampleOld_grown : sampleOld.Grown sampleNetwork := ⟨sampleOpen, rfl, sampleOld_later⟩

/-- The sample transaction's blockhash is too old by now. -/
def sampleAged : World sampleDeployment sampleNetwork :=
  sampleAt sampleOld sampleOld_grown sampleIdle.2

/-- The operation begins an attempt of the sample event, if it can. -/
def Op.retries (store : Store) : Op → Bool
  | .store (.beginAttempt eventId request params) =>
      eventId = js "event-1" && (store.beginAttempt eventId request params).isOk
  | _ => false

/-- The worker runs again, up to the beginning of another attempt. -/
@[irreducible] def sampleRetrying : Work Unit × World sampleDeployment sampleNetwork :=
  Interaction.play (fun w op => if op.retries w.store then none else some (idleRespond w op)) 40
    (sampleRunOf sampleWorker, sampleAged)

theorem sampleRetrying_retries :
    sampleRetrying.1.asked.any (Op.retries sampleRetrying.2.store) = true ∧
      sampleRaw ∈ sampleRetrying.2.forwarded ∧
      ∃ attempt ∈ sampleRetrying.2.store.attemptRows.rows, attempt.eventId = js "event-1" ∧
        attempt.rawTransaction = some (base64Encode sampleRaw) := by
  decide +kernel

theorem sampleIdle_steps :
    Interaction.Steps (step sampleEnvironment) (sampleRunOf sampleWorker, sampleQueued) sampleIdle ∧
      Standstill sampleOpen sampleIdle.2 := by
  unfold sampleIdle
  refine Interaction.steps_play (fun w op reply w' (still : Standstill sampleOpen w) answered => ?_) 40
    (sampleRunOf sampleWorker, sampleQueued) ⟨rfl, fun _ => rfl⟩
  obtain ⟨rfl, rfl⟩ := Prod.ext_iff.mp (Option.some.inj answered)
  exact idleRespond_step still op

theorem sampleRetrying_steps :
    Interaction.Steps (step sampleEnvironment) (sampleRunOf sampleWorker, sampleAged) sampleRetrying := by
  unfold sampleRetrying
  refine (Interaction.steps_play (fun w op reply w' (still : Standstill sampleOld w) answered => ?_)
    40 (sampleRunOf sampleWorker, sampleAged) (standstill_sampleAt sampleOld_grown _)).1
  split at answered
  · cases answered
  · obtain ⟨rfl, rfl⟩ := Prod.ext_iff.mp (Option.some.inj answered)
    exact idleRespond_step still op

theorem one_live_attempt_sample : ∃ w : World sampleDeployment sampleNetwork,
    SentFor sampleEnvironment (column (js "event-1")) sampleSigned w ∧
      ¬ Cluster.MayLand sampleNetwork sampleSigned w.cluster := by
  let configured (options : WorkerOptions) : Prop := options = sampleWorker
  have here (options : WorkerOptions) (same : configured options) :
      options.programId = sampleDeployment.programId ∧ options.ns = sampleNamespace := by
    rw [same]
    exact ⟨rfl, rfl⟩
  let process : Process configured := ⟨⟨sampleWorker, .run none⟩, rfl⟩
  have queued : outside sampleEnvironment sampleStart sampleQueued := .inl sampleQueued_passes
  have aged : outside sampleEnvironment sampleIdle.2 sampleAged :=
    outside_sampleAt sampleOld_grown sampleIdle_steps.2 sampleOld_later
  obtain ⟨begins, sent, attempt, mem, id, carries⟩ := sampleRetrying_retries
  obtain ⟨op, asked, retries⟩ := (Option.any_eq_true _ _).mp begins
  obtain ⟨next, asks⟩ := Interaction.asked_eq_some.mp asked
  have moves := sampleRetrying_steps
  rw [← Prod.eta sampleRetrying, asks] at moves
  have about : AboutTo sampleEnvironment configured sampleStart sampleRetrying.2 op :=
    ⟨_, process, next, .outside (.command (.outside .start queued) process _ sampleIdle_steps.1) aged,
      moves⟩
  cases op with
  | store method =>
      cases method with
      | beginAttempt eventId request params =>
          obtain ⟨named, ok⟩ := Bool.and_eq_true_iff.mp retries
          obtain rfl := of_decide_eq_true named
          have sentFor : SentFor sampleEnvironment (column (js "event-1")) sampleSigned sampleRetrying.2 :=
            ⟨attempt, mem, sampleRaw, sent, id, carries, rfl⟩
          exact ⟨_, sentFor, ((one_live_attempt sampleEnvironment sampleNamespace (fun _ => trivial)
            configured here sampleStart_initial).1 _ _ request params _ _ about
            (eq_ok_of_isOk (0, .empty) ok) _ sentFor).1⟩
      | _ => cases retries
  | _ => cases retries

end Synxed.Studio
