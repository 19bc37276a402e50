import Synxed.Studio.Conserved

/-!
The dry run: it only looks, and what it shows is what is paid.

A dry run builds what `settle` would build and lets a node simulate it. Its
figures are the client's own split of a request that never changes, so where every
worker of a studio is configured with one scale they are also what the program pays
when the event is settled, however much later.

* `Foretelling`: every attempt is made at the scale, and every recorded event was
  settled by a transaction that a request at the scale matches.
* `TaskRun.foretelling`: dry runs between the processes of a studio disturb none of it.
* `dry_run_foretells`: what was shown is what is paid.
-/

namespace Synxed.Studio

open Synxed.Lib Synxed.Program Synxed.Sdk

variable {D : Deployment} {env : Environment D} {H : Host} {ns : Pubkey} {net : Network}
  {configured : WorkerOptions → Prop} {w w' : World D env.net} {store store' : Store}
  {cluster cluster' : Cluster D} {recorded : List JsString} {method : Method} {scale : Int}

/-! ### The dry run -/

/-- What a node makes of a transaction it simulates. -/
structure Simulation where
  err : Option Json
  logs : Option (List JsString)

structure DryRunResult where
  eventId : JsString
  lamportsTotal : Int
  lamportsByShare : List Int
  /-- The simulation's error, or null when it succeeded. -/
  error : Option Json
  logs : List JsString

/-- Compiling a message and `simulateTransaction`, from the instructions, the
payer and the blockhash. -/
abbrev Simulate := List TransactionInstruction → Pubkey → JsString → Work Simulation

namespace WorkerOptions

variable (H : Host) (simulate : Simulate) (options : WorkerOptions)

/-- Build and simulate one pending event. -/
def rehearse (event : StoredEvent) : Work DryRunResult := do
  let prepared ← .ofExcept (options.build H event.request)
  let latest ← (connectionTo .primary).request .getLatestBlockhash
  let simulated ← simulate prepared.transaction options.payer latest.blockhash
  pure
    { eventId := event.eventId
      lamportsTotal := prepared.lamportsTotal
      lamportsByShare := prepared.lamportsByShare
      error := simulated.err
      logs := simulated.logs.getD [] }

/-- Build and simulate pending events without signing, sending, or writing. -/
def dryRun (limit : Option Nat) : Work (List DryRunResult) := do
  let pending ← call (.eventsWithStatus .pending limit)
  Interaction.each (options.rehearse H simulate) pending

end WorkerOptions

/-- It lists events, or looks something up. -/
def Op.ReadsOnly : Op → Prop
  | .store (.eventsWithStatus _ _) => True
  | .rpc _ call => call.IsLookup
  | _ => False

/-- A simulation changes nothing. -/
def Simulate.Looks (simulate : Simulate) : Prop :=
  ∀ transaction payer blockhash, (simulate transaction payer blockhash).Uses Op.ReadsOnly

/-- Nothing was written or sent since: events may have been enqueued. -/
structure Unwritten (w w' : World D env.net) : Prop where
  enqueued : Enqueues env.isDate w.store w'.store
  forwarded : w'.forwarded = w.forwarded
  recorded : w'.recorded = w.recorded

namespace Unwritten

theorem refl (w : World D env.net) : Unwritten w w := ⟨.refl, rfl, rfl⟩

theorem trans {w'' : World D env.net} (first : Unwritten w w') (second : Unwritten w' w'') :
    Unwritten w w'' :=
  ⟨first.enqueued.trans second.enqueued, second.forwarded.trans first.forwarded,
    second.recorded.trans first.recorded⟩

/-- A request that looks something up leaves everything as it is. -/
theorem of_replies {op : Op} {reply : Except Thrown op.Reply} (reads : op.ReadsOnly)
    (replies : Replies env w op reply w') :
    w'.store = w.store ∧ w'.forwarded = w.forwarded ∧ w'.recorded = w.recorded := by
  cases op with
  | store method =>
      obtain ⟨_, rfl⟩ := replies
      cases method with
      | eventsWithStatus status limit => exact ⟨rfl, rfl, List.append_nil _⟩
      | _ => exact reads.elim
  | rpc provider call =>
      have nothing : handed call = [] := by
        cases call with
        | sendRawTransaction raw skipPreflight => exact reads.elim
        | _ => rfl
      cases reply with
      | ok answer =>
          obtain ⟨_, given, of, rfl⟩ := replies
          have empty : given = [] := of.elim id fun handed => handed.1.trans nothing
          rw [empty]
          exact ⟨rfl, List.append_nil _, rfl⟩
      | error error =>
          obtain ⟨_, given, of, rfl⟩ := replies
          have empty : given = [] := of.elim id fun handed => handed.trans nothing
          rw [empty]
          exact ⟨rfl, List.append_nil _, rfl⟩
  | _ => exact reads.elim

theorem of_step {op : Op} {reply : Except Thrown op.Reply} (reads : op.ReadsOnly)
    (moved : step env w op reply w') : Unwritten w w' := by
  obtain ⟨middle, replies, passes⟩ := moved
  obtain ⟨stores, forwarded, recorded⟩ := of_replies reads replies
  constructor
  · rw [← stores]
    exact passes.store
  · rw [passes.forwarded, forwarded]
  · rw [passes.recorded, recorded]

end Unwritten

section Rehearsals

variable {simulate : Simulate} {options : WorkerOptions}

theorem uses_rehearse (looks : simulate.Looks) (event : StoredEvent) :
    (options.rehearse H simulate event).Uses Op.ReadsOnly := by
  refine Interaction.uses_bind Interaction.uses_ofExcept fun prepared => ?_
  refine Interaction.uses_bind (Interaction.uses_perform.mpr trivial) fun latest => ?_
  exact Interaction.uses_bind (looks _ _ _) fun simulated => Interaction.uses_pure

theorem uses_dryRun (looks : simulate.Looks) (limit : Option Nat) :
    (options.dryRun H simulate limit).Uses Op.ReadsOnly := by
  refine Interaction.uses_bind (Interaction.uses_perform.mpr trivial) fun pending => ?_
  exact Interaction.uses_each (fun event => uses_rehearse looks event) pending

variable (H options) in
/-- The figures of an event. -/
structure Shows (event : StoredEvent) (result : DryRunResult) : Prop where
  eventId : result.eventId = event.eventId
  built : ∃ prepared, options.build H event.request = .ok prepared ∧
    result.lamportsTotal = prepared.lamportsTotal ∧
    result.lamportsByShare = prepared.lamportsByShare

theorem safe_rehearse (event : StoredEvent) (w : World D env.net) :
    Interaction.Safe (step env) (fun _ _ => True) (options.rehearse H simulate event)
      (fun result _ => Shows H options event result) (fun _ _ => True) w := by
  have any {α : Type} (program : Work α) (w : World D env.net) :
      Interaction.Safe (step env) (fun _ _ => True) program (fun _ _ => True) (fun _ _ => True) w :=
    (safe_onward program w).mono (fun _ _ _ => trivial) fun _ _ _ => trivial
  refine Interaction.safe_bind.mpr (Interaction.safe_ofExcept.mpr ⟨?_, fun _ _ => trivial⟩)
  intro prepared built
  refine Interaction.Safe.bind (any _ w) fun latest w _ => ?_
  refine Interaction.Safe.bind (any _ w) fun simulated w _ => ?_
  exact ⟨rfl, prepared, built, rfl, rfl⟩

/-- One result for every pending event that was listed, in order, and nothing is
written or sent wherever it stops. -/
theorem safe_dryRun (looks : simulate.Looks) (limit : Option Nat) (w : World D env.net) :
    Interaction.Safe (step env) (fun w' _ => Unwritten w w') (options.dryRun H simulate limit)
      (fun results w' => Unwritten w w' ∧
        List.Forall₂ (Shows H options) (w.store.eventsWithStatus .pending limit) results)
      (fun _ w' => Unwritten w w') w := by
  have still : Interaction.Safe (step env) (fun w' _ => Unwritten w w')
      (options.dryRun H simulate limit) (fun _ => Unwritten w) (fun _ => Unwritten w) w :=
    Interaction.Safe.of_uses (uses_dryRun looks limit) (fun _ _ _ unwritten => unwritten)
      (fun _ _ _ _ reads unwritten moved => unwritten.trans (.of_step reads moved)) (.refl w)
  have shows : Interaction.Safe (step env) (fun _ _ => True) (options.dryRun H simulate limit)
      (fun results _ => List.Forall₂ (Shows H options) (w.store.eventsWithStatus .pending limit) results)
      (fun _ _ => True) w := by
    have listed : Interaction.Safe (step env) (fun _ _ => True)
        (call (.eventsWithStatus .pending limit))
        (fun pending _ => pending = w.store.eventsWithStatus .pending limit) (fun _ _ => True) w := by
      refine Interaction.safe_perform.mpr ⟨trivial, ?_, fun _ _ _ => trivial⟩
      rintro pending w' ⟨middle, ⟨answer, _⟩, _⟩
      exact Except.ok.inj answer
    refine Interaction.Safe.bind listed fun pending w' same => ?_
    subst same
    exact Interaction.safe_each_forall₂ fun event _ w => safe_rehearse event w
  exact ((still.both shows).guard_mono fun _ _ both => both.1).mono (fun _ _ both => both)
    fun _ _ both => both.1

end Rehearsals

/-! ### At one scale -/

variable (H ns scale) in
/-- The files are in order, every attempt is made at the scale, and every recorded event
was settled by a finalized transaction that its request matches at the scale. -/
structure Foretelling (store : Store) (cluster : Cluster D) (recorded : List JsString) : Prop extends
    Books H ns store cluster recorded where
  made : ∀ attempt ∈ store.attemptRows.rows, attempt.params.lamportsPerAtomicUnit = scale
  backed : ∀ eventId ∈ recorded, ∃ event ∈ store.events.rows, event.eventId = eventId ∧
    ∃ stored rows, stored.params.lamportsPerAtomicUnit = scale ∧ Backed H ns cluster event stored rows

variable (scale) in
/-- An attempt begins at the scale. -/
def Method.BeginsAt : Method → Prop
  | beginAttempt _ _ params => params.lamportsPerAtomicUnit = scale
  | _ => True

variable (scale) in
def Op.BeginsAt : Op → Prop
  | .store method => method.BeginsAt scale
  | _ => True

namespace Foretelling

theorem empty : Foretelling H ns scale .empty cluster [] where
  toBooks := .empty
  made _ mem := by cases mem
  backed _ mem := by cases mem

variable (foretelling : Foretelling H ns scale store cluster recorded)

include foretelling

theorem later (later : Cluster.Later net cluster cluster') :
    Foretelling H ns scale store cluster' recorded where
  toBooks := foretelling.toBooks.later later
  made := foretelling.made
  backed eventId mem := by
    obtain ⟨event, inRows, id, stored, rows, same, backed⟩ := foretelling.backed eventId mem
    exact ⟨event, inRows, id, stored, rows, same, backed.later later⟩

/-- What backs a recorded event stays, where the events do. -/
theorem backed_of_keeps (keeps : store.Keeps store') : ∀ eventId ∈ recorded,
    ∃ event ∈ store'.events.rows, event.eventId = eventId ∧ ∃ stored rows,
      stored.params.lamportsPerAtomicUnit = scale ∧ Backed H ns cluster event stored rows := by
  intro eventId mem
  obtain ⟨event, inRows, id, stored, rows, same, backed⟩ := foretelling.backed eventId mem
  obtain ⟨event', inRows', sameEvent⟩ := keeps event inRows
  exact ⟨event', inRows', sameEvent.eventId.trans id, stored, rows, same, backed.keeps sameEvent⟩

theorem enqueues {isDate : JsString → Bool} (enqueued : Enqueues isDate store store') :
    Foretelling H ns scale store' cluster recorded := by
  obtain ⟨keeps, attempts⟩ := Store.keeps_of_enqueues enqueued
  refine ⟨(foretelling.toBooks.enqueues enqueued).1, ?_, foretelling.backed_of_keeps keeps⟩
  rw [attempts]
  exact foretelling.made

/-- What was stored for an event was stored at the scale. -/
theorem storedAs {event : EventRow} {stored : StoredRequest}
    (one : ∀ options, configured options → options.lamportsPerAtomicUnit = scale)
    (storedAs : StoredAs configured store event stored) :
    stored.params.lamportsPerAtomicUnit = scale := by
  rcases storedAs with ⟨attempt, mem, _, rfl⟩ | ⟨options, allowed, rfl⟩
  · exact foretelling.made attempt mem
  · exact one options allowed

theorem of_apply (one : ∀ options, configured options → options.lamportsPerAtomicUnit = scale)
    (grown : cluster.Grown net) (begins : method.BeginsOwn D ns store) (scaled : method.BeginsAt scale)
    (backs : method.Backs H ns configured store cluster) :
    Foretelling H ns scale (method.apply store).2 cluster (recorded ++ method.records store) where
  toBooks := (foretelling.toBooks.of_apply grown begins backs.proves).1
  made attempt' mem := by
    rcases Method.mem_attemptRows mem with ⟨attempt, inRows, same⟩ |
      ⟨eventId, request, params, rfl, _, _, made⟩
    · rw [same.params]
      exact foretelling.made attempt inRows
    · rw [made]
      exact scaled
  backed eventId mem := by
    have keeps := method.keeps store
    rcases List.mem_append.mp mem with old | now
    · exact foretelling.backed_of_keeps keeps eventId old
    · cases method with
      | recordPaid other attempt record directEntries poolPayouts =>
          obtain ⟨event, inRows, id, stored, storedAs, backed⟩ := backs
          obtain ⟨event', inRows', same⟩ := keeps event inRows
          have here : eventId = column other := by
            cases wrote : store.recordPaid other attempt record directEntries poolPayouts with
            | error error =>
                simp only [Method.records, wrote] at now
                cases now
            | ok store' =>
                simp only [Method.records, wrote] at now
                exact List.mem_singleton.mp now
          exact ⟨event', inRows', by rw [same.eventId, id, here], stored, _,
            foretelling.storedAs one storedAs, backed.keeps same⟩
      | _ => cases now

end Foretelling

/-! ### Every run -/

variable (env ns scale) in
/-- What holds of a world. -/
abbrev Foretells (w : World D env.net) : Prop :=
  Foretelling env.host ns scale w.store w.cluster w.recorded

theorem Foretelling.of_step
    (one : ∀ options, configured options → options.lamportsPerAtomicUnit = scale) {op : Op}
    {reply : Except Thrown op.Reply} (foretells : Foretells env ns scale w)
    (backs : op.Backs env ns configured w) (scaled : op.BeginsAt scale)
    (moved : step env w op reply w') : Foretells env ns scale w' := by
  obtain ⟨middle, replies, passes⟩ := moved
  have between : Foretells env ns scale middle := by
    cases op with
    | store method =>
        obtain ⟨_, rfl⟩ := replies
        exact foretells.of_apply one w.cluster_grown backs.1 scaled backs.2
    | rpc provider call =>
        cases reply with
        | ok answer =>
            obtain ⟨_, given, _, rfl⟩ := replies
            exact foretells
        | error error =>
            obtain ⟨_, given, _, rfl⟩ := replies
            exact foretells
    | polls =>
        obtain ⟨_, rfl⟩ := replies
        exact foretells
    | _ =>
        cases replies
        exact foretells
  have later := (between.enqueues passes.store).later passes.cluster
  rw [← passes.recorded] at later
  exact later

theorem Foretelling.outside
    (one : ∀ options, configured options → options.lamportsPerAtomicUnit = scale)
    (foretells : Foretells env ns scale w) (acted : outside env w w') : Foretells env ns scale w' := by
  rcases acted with passes | ⟨eventId, note, passes⟩
  · have later := (foretells.enqueues passes.store).later passes.cluster
    rwa [← passes.recorded] at later
  · have flagged : Foretelling env.host ns scale
        (w.store.setEventStatus eventId OpenStatus.needsAttention note) w.cluster (w.recorded ++ []) := by
      have own : (Method.setEventStatus eventId .needsAttention note).BeginsOwn D ns w.store := trivial
      have backs : (Method.setEventStatus eventId .needsAttention note).Backs env.host ns configured
          w.store w.cluster := trivial
      exact foretells.of_apply one w.cluster_grown own trivial backs
    have later := (flagged.enqueues passes.store).later passes.cluster
    rwa [List.append_nil, ← passes.recorded] at later

variable (env ns scale) in
/-- What holds of a world, and that the events of an earlier one stayed. -/
abbrev ForetellsSince (w₀ w : World D env.net) : Prop :=
  Foretells env ns scale w ∧ w₀.store.Keeps w.store

theorem outside.keeps (acted : outside env w w') : w.store.Keeps w'.store := by
  rcases acted with passes | ⟨eventId, note, passes⟩
  · exact (Store.keeps_of_enqueues passes.store).1
  · have flags := (Method.setEventStatus eventId OpenStatus.needsAttention note).keeps w.store
    exact flags.trans (Store.keeps_of_enqueues passes.store).1

section Tasks

variable {simulate : Simulate}

/-- A process of the studio, or a dry run of one of its workers. -/
inductive Task (configured : WorkerOptions → Prop) where
  | command (process : Process configured)
  | rehearsal (options : { options // configured options }) (limit : Option Nat)

def Task.work (H : Host) (sign : Signer) (simulate : Simulate) : Task configured → Work Unit
  | command process => process.val.work H sign
  | rehearsal options limit => do
      let _ ← options.val.dryRun H simulate limit
      pure ()

variable (env configured simulate) in
/-- The worlds of a studio that also makes dry runs: one task after the other, each
stopped anywhere. -/
abbrev TaskRun (start : World D env.net) : World D env.net → Prop :=
  Interaction.Reachable (step env)
    (fun task : Task configured => task.work env.host env.net.sign simulate) (outside env) start

/-- A worker begins attempts at its own scale. -/
theorem beginsAt_operates {options : WorkerOptions} (same : options.lamportsPerAtomicUnit = scale) :
    Operates options (Op.BeginsAt scale) where
  lookup _ _ _ := trivial
  polls := trivial
  log _ := trivial
  event _ := trivial
  note _ _ := trivial
  incident _ _ := trivial
  records _ _ _ _ _ := trivial
  attempts _ := trivial
  resends _ := trivial
  marks _ _ _ := trivial
  sets _ _ _ := trivial
  lists _ _ := trivial
  begins _ _ := same
  signs _ _ _ _ _ := trivial
  announces _ _ := trivial
  sends _ := trivial

theorem Operates.uses_work {command : Command} {ops : Op → Prop}
    (operates : Operates command.options ops) (sign : Signer) : (command.work H sign).Uses ops := by
  unfold Command.work
  cases command.action with
  | run limit => exact Interaction.uses_bind (operates.uses_run sign limit) fun _ => Interaction.uses_pure
  | resolve eventId =>
      exact Interaction.uses_bind (operates.uses_resolve eventId) fun _ => Interaction.uses_pure
  | recheck eventId =>
      exact Interaction.uses_bind (operates.uses_recheck eventId) fun _ => Interaction.uses_pure

theorem Op.ReadsOnly.silent {op : Op} (reads : op.ReadsOnly) : op.Silent := by
  cases op with
  | store method =>
      cases method with
      | recordPaid eventId attempt record directEntries poolPayouts => exact reads.elim
      | beginAttempt eventId request params => exact reads.elim
      | _ => trivial
  | _ => trivial

variable (trusted : ∀ options, configured options → Trusted env ns options)
  (one : ∀ options, configured options → options.lamportsPerAtomicUnit = scale)
  (looks : simulate.Looks)

include trusted one looks

/-- A task keeps what holds, and every event. -/
theorem foretelling_task (task : Task configured) {w₀ : World D env.net}
    (since : ForetellsSince env ns scale w₀ w) :
    Interaction.Safe (step env) (fun w _ => ForetellsSince env ns scale w₀ w)
      (task.work env.host env.net.sign simulate) (fun _ => ForetellsSince env ns scale w₀)
      (fun _ => ForetellsSince env ns scale w₀) w := by
  cases task with
  | command process =>
      have uses : (process.val.work env.host env.net.sign).Uses (Op.BeginsAt scale) :=
        (beginsAt_operates (one _ process.property)).uses_work env.net.sign
      have vouches : Interaction.Safe (Filing env ns)
          (fun w op => op.Backs env ns configured w ∧ op.BeginsAt scale)
          (process.val.work env.host env.net.sign) (fun _ _ => True) (fun _ _ => True) w :=
        (vouching_process trusted process w).guard_of_uses uses fun _ _ begins backs => ⟨backs, begins⟩
      have filing := vouches.step_mono fun w _ _ w' (moved : ForetellsSince env ns scale w₀ w ∧
        step env w _ _ w' ∧ ForetellsSince env ns scale w₀ w') =>
          ⟨moved.1.1.toFiled, moved.2.1, moved.2.2.1.toFiled⟩
      have within := Interaction.Safe.within filing (fun _ _ _ _ asked since moved =>
        ⟨since.1.of_step one asked.1 asked.2 moved, since.2.trans moved.keeps⟩) since
      exact (within.guard_mono fun _ _ both => both.2).mono (fun _ _ both => both.2)
        fun _ _ both => both.2
  | rehearsal options limit =>
      have uses : ((Task.rehearsal options limit).work env.host env.net.sign simulate).Uses
          Op.ReadsOnly :=
        Interaction.uses_bind (uses_dryRun looks limit) fun _ => Interaction.uses_pure
      refine Interaction.Safe.of_uses uses (fun _ _ _ since => since) ?_ since
      intro w op reply w' reads since moved
      have scaled : op.BeginsAt scale := by
        cases op with
        | store method =>
            cases method with
            | beginAttempt eventId request params => exact reads.elim
            | _ => trivial
        | _ => trivial
      exact ⟨since.1.of_step one reads.silent.backs scaled moved, since.2.trans moved.keeps⟩

/-- What holds of a world holds of every later one, and every event stays. -/
theorem TaskRun.foretelling {w₀ : World D env.net} (foretells : Foretells env ns scale w₀)
    (reached : TaskRun env configured simulate w₀ w) : ForetellsSince env ns scale w₀ w :=
  reached.invariant ⟨foretells, .refl _⟩
    (fun _ _ since acted => ⟨since.1.outside one acted, since.2.trans acted.keeps⟩)
    (fun _ _ since => since) fun task _ since => foretelling_task trusted one looks task since

end Tasks

/-! ### What was shown is what is paid -/

variable (H ns) in
/-- The event was settled by a finalized transaction, for the figures that were shown. -/
def PaidAsShown (cluster : Cluster D) (event : StoredEvent) (result : DryRunResult) : Prop :=
  ∃ landing ∈ cluster.finalizedLedger, ∃ stored seed amount bps recipients,
    stored.request = event.request ∧ eventIdSeed H event.request.eventId = .ok seed ∧
    landing.SettledAs ns stored seed amount bps recipients ∧
    result.lamportsTotal = amount.toNat ∧
    result.lamportsByShare = (payoutsOf amount bps).map Int.ofNat

theorem shareNumber_injective : Function.Injective shareNumber := by
  intro share share' same
  have values := congrArg bigintOf same
  rw [bigintOf_shareNumber, bigintOf_shareNumber] at values
  exact UInt16.toNat_inj.mp (Int.ofNat.inj values)

/-- The figures are those of any settlement of the request at the scale. -/
theorem Shows.settledAs {options : WorkerOptions} {event : StoredEvent} {result : DryRunResult}
    (shows : Shows H options event result) {landing : Landing D} {stored : StoredRequest} {seed : Bytes32}
    {amount : UInt64} {bps : List UInt16} {recipients : List Pubkey}
    (settled : landing.SettledAs ns stored seed amount bps recipients)
    (request : stored.request = event.request)
    (same : stored.params.lamportsPerAtomicUnit = options.lamportsPerAtomicUnit) :
    result.lamportsTotal = amount.toNat ∧
      result.lamportsByShare = (payoutsOf amount bps).map Int.ofNat := by
  obtain ⟨prepared, built, total, byShare⟩ := shows.built
  rw [WorkerOptions.build, protocolCall_eq_ok] at built
  obtain ⟨shown, shownBps, _, _, _, _, build, _⟩ := buildSettlementNTransaction_program rfl built
  have scaled : event.request.amountAtomic * options.lamportsPerAtomicUnit = shown.toNat := build.scaled
  have paid := settled.total
  rw [request, same, scaled] at paid
  obtain rfl : amount = shown := UInt64.toNat_inj.mp (Int.ofNat.inj paid)
  have shares : event.request.shares.map ShareInput.bps = shownBps.map shareNumber := build.shares
  have sharesPaid := settled.bps
  rw [request, shares] at sharesPaid
  obtain rfl : shownBps = bps := shareNumber_injective.list_map sharesPaid
  exact ⟨total.trans build.lamportsTotal, byShare.trans build.lamportsByShare⟩

/-- The shares that are shown sum to the total that is shown. -/
theorem Shows.sum {options : WorkerOptions} {event : StoredEvent} {result : DryRunResult}
    (shows : Shows H options event result) : result.lamportsByShare.sum = result.lamportsTotal := by
  obtain ⟨prepared, built, total, byShare⟩ := shows.built
  rw [WorkerOptions.build, protocolCall_eq_ok] at built
  obtain ⟨shown, bps, _, _, _, _, build, _⟩ := buildSettlementNTransaction_program rfl built
  rw [total, byShare, build.lamportsTotal, build.lamportsByShare, ← sum_payoutsOf build.valid]
  exact (Nat.cast_list_sum _).symm

/-- An event that was shown, and is paid, was paid as it was shown. -/
theorem Foretelling.paidAsShown {w₀ : World D env.net} {options : WorkerOptions} {event : StoredEvent}
    {result : DryRunResult} (since : ForetellsSince env ns scale w₀ w)
    (filed : Filed D ns w₀.store) (same : options.lamportsPerAtomicUnit = scale)
    (listed : ∃ row ∈ w₀.store.events.rows, row.toStoredEvent = event)
    (shows : Shows env.host options event result) (paid : w.status event.eventId = some .paid) :
    PaidAsShown env.host ns w.cluster event result := by
  obtain ⟨foretells, keeps⟩ := since
  obtain ⟨row, inRows, rfl⟩ := listed
  obtain ⟨row', inRows', stays⟩ := keeps row inRows
  -- the row that is paid is the row that was shown
  obtain ⟨event, found, isPaid⟩ := Option.map_eq_some_iff.mp paid
  obtain ⟨row'', inRows'', id, rfl⟩ := Store.event_eq_some.mp found
  have columned : column row.eventId = row.eventId := by
    rw [filed.named row inRows, column_column]
  obtain rfl : row'' = row' := List.inj_on_of_nodup_map w.store.events.unique inRows'' inRows'
    (id.trans (columned.trans stays.eventId.symm))
  obtain ⟨other, inRows', id', stored, rows, scaled, backed⟩ := foretells.backed _
    (foretells.paid row'' inRows'' isPaid)
  obtain rfl : other = row'' := List.inj_on_of_nodup_map w.store.events.unique inRows' inRows'' id'
  obtain ⟨landing, seed, amount, bps, recipients, backing⟩ := backed.backing
  obtain ⟨_, _, _, _, _, asked, _⟩ := backed
  have request : stored.request = row.request := asked.trans stays.request
  obtain ⟨total, byShare⟩ := shows.settledAs backing.settled request (scaled.trans same.symm)
  refine ⟨landing, backing.finalized, stored, seed, amount, bps, recipients, request, ?_,
    backing.settled, total, byShare⟩
  rw [← stays.request]
  exact backing.seeded

/-- **What a dry run shows is what is paid.** In every run of a trusted studio whose workers
are configured with one scale, dry runs among its processes and each stopped anywhere: a dry
run writes and sends nothing, wherever it is stopped, and one that returns shows every
pending event that was listed, in order, with shares that sum to the total. Whatever becomes
of the studio afterwards, an event that it shows and that is paid was settled by a finalized
transaction, for that total and those shares. -/
theorem dry_run_foretells (env : Environment D) (ns : Pubkey) (configured : WorkerOptions → Prop)
    (trusted : ∀ options, configured options → Trusted env ns options) (scale : Int)
    (one : ∀ options, configured options → options.lamportsPerAtomicUnit = scale)
    (simulate : Simulate) (looks : simulate.Looks) {start w : World D env.net}
    (initial : start.Initial) (reached : TaskRun env configured simulate start w)
    {options : WorkerOptions} (allowed : configured options) (limit : Option Nat) :
    (∀ rest w', Interaction.Steps (step env) (options.dryRun env.host simulate limit, w) (rest, w') →
      Unwritten w w') ∧
    ∀ results w', Interaction.Steps (step env) (options.dryRun env.host simulate limit, w)
        (pure results, w') →
      List.Forall₂ (fun event result => result.eventId = event.eventId ∧
          result.lamportsByShare.sum = result.lamportsTotal ∧
          ∀ w'', TaskRun env configured simulate w' w'' → w''.status event.eventId = some .paid →
            PaidAsShown env.host ns w''.cluster event result)
        (w.store.eventsWithStatus .pending limit) results := by
  have atStart : Foretells env ns scale start := by
    rw [Foretells, initial.store, initial.recorded]
    exact .empty
  have foretells := (reached.foretelling trusted one looks atStart).1
  have safe : Interaction.Safe (step env) (fun w' _ => Unwritten w w')
      (options.dryRun env.host simulate limit)
      (fun results w' => Unwritten w w' ∧
        List.Forall₂ (Shows env.host options) (w.store.eventsWithStatus .pending limit) results)
      (fun _ w' => Unwritten w w') w := safe_dryRun looks limit w
  refine ⟨fun rest w' ran => ?_, fun results w' ran => ?_⟩
  · have on := safe.steps ran
    cases rest with
    | pure value => exact on.1
    | throw error => exact on
    | ask op next => exact on.1
  · obtain ⟨unwritten, shown⟩ := safe.returned ran
    have task : Interaction.Steps (step env)
        ((Task.rehearsal ⟨options, allowed⟩ limit).work env.host env.net.sign simulate, w) (pure (), w') :=
      Interaction.Steps.bind ran
    have after : TaskRun env configured simulate w w' :=
      .command .start (Task.rehearsal ⟨options, allowed⟩ limit) _ task
    have rehearsed := after.foretelling trusted one looks foretells
    have listed : ∀ event ∈ w.store.eventsWithStatus .pending limit,
        ∃ row ∈ w.store.events.rows, row.toStoredEvent = event := by
      intro event mem
      obtain ⟨row, inRows, same, _⟩ := Store.mem_eventsWithStatus mem
      exact ⟨row, inRows, same⟩
    refine ((List.forall₂_and_left _ _).mpr ⟨listed, shown⟩).imp fun event result both => ?_
    refine ⟨both.2.eventId, both.2.sum, fun w'' later paid => ?_⟩
    obtain ⟨holds, keeps⟩ := later.foretelling trusted one looks rehearsed.1
    exact Foretelling.paidAsShown ⟨holds, rehearsed.2.trans keeps⟩ foretells.toFiled (one _ allowed)
      both.1 both.2 paid

/-! ### A sample dry run

The sample event is shown, and then settled. -/

/-- A node that finds nothing wrong. -/
def sampleSimulate : Simulate := fun _ _ _ => pure ⟨none, some []⟩

@[irreducible] def sampleRehearsed : Work (List DryRunResult) × World sampleDeployment sampleNetwork :=
  Interaction.play (fun w op => some (sampleRespond w op)) 10
    (sampleWorker.dryRun sampleHost sampleSimulate (some 10), sampleQueued)

@[irreducible] def sampleRehearsedPaid : Work Unit × World sampleDeployment sampleNetwork :=
  Interaction.play (fun w op => some (sampleRespond w op)) 60
    (sampleRunOf sampleWorker, sampleRehearsed.2)

theorem sampleRehearsed_shows :
    sampleRehearsed.1.returned.map (fun results => results.map fun result =>
      (result.eventId, result.lamportsTotal, result.lamportsByShare)) =
        some [(js "event-1", 1001, [700, 301])] ∧
    (sampleQueued.store.eventsWithStatus .pending (some 10)).map StoredEvent.eventId =
      [js "event-1"] ∧
    sampleRehearsedPaid.2.status (js "event-1") = some .paid := by
  decide +kernel

theorem sampleRespond_steps {α : Type} (fuel : Nat) (program : Work α)
    {w : World sampleDeployment sampleNetwork} (sample : SampleWorld w) :
    Interaction.Steps (step sampleEnvironment) (program, w)
      (Interaction.play (fun w op => some (sampleRespond w op)) fuel (program, w)) ∧
    SampleWorld (Interaction.play (fun w op => some (sampleRespond w op)) fuel (program, w)).2 := by
  refine Interaction.steps_play (fun w op reply w' (sample : SampleWorld w) answered => ?_) fuel
    (program, w) sample
  obtain ⟨rfl, rfl⟩ := Prod.ext_iff.mp (Option.some.inj answered)
  exact sampleRespond_step sample op

theorem sampleRehearsed_steps : Interaction.Steps (step sampleEnvironment)
    (sampleWorker.dryRun sampleHost sampleSimulate (some 10), sampleQueued) sampleRehearsed ∧
    SampleWorld sampleRehearsed.2 := by
  have here : SampleWorld sampleQueued := ⟨.inl rfl, fun _ => rfl⟩
  unfold sampleRehearsed
  exact sampleRespond_steps 10 _ here

theorem sampleRehearsedPaid_steps : Interaction.Steps (step sampleEnvironment)
    (sampleRunOf sampleWorker, sampleRehearsed.2) sampleRehearsedPaid := by
  unfold sampleRehearsedPaid
  exact (sampleRespond_steps 60 _ sampleRehearsed_steps.2).1

/-- The sample event is paid as it was shown. -/
theorem dry_run_foretells_sample : ∃ (w : World sampleDeployment sampleNetwork) (event : StoredEvent)
    (result : DryRunResult),
      TaskRun sampleEnvironment (fun options => options = sampleWorker) sampleSimulate sampleStart w ∧
      event.eventId = js "event-1" ∧ result.lamportsTotal = 1001 ∧
      result.lamportsByShare = [700, 301] ∧ w.status (js "event-1") = some .paid ∧
      PaidAsShown sampleHost sampleNamespace w.cluster event result := by
  let configured (options : WorkerOptions) : Prop := options = sampleWorker
  obtain ⟨shown, named, paid⟩ := sampleRehearsed_shows
  obtain ⟨results, returned, figures⟩ := Option.map_eq_some_iff.mp shown
  have rehearsed := sampleRehearsed_steps.1
  rw [← Prod.eta sampleRehearsed, Interaction.returned_eq_some.mp returned] at rehearsed
  have settled := sampleRehearsedPaid_steps
  rw [← Prod.eta sampleRehearsedPaid] at settled
  have queued : outside sampleEnvironment sampleStart sampleQueued := .inl sampleQueued_passes
  have before : TaskRun sampleEnvironment configured sampleSimulate sampleStart sampleQueued :=
    .outside .start queued
  have trusted (options : WorkerOptions) (same : configured options) :
      Trusted sampleEnvironment sampleNamespace options := by
    rw [same]
    exact ⟨rfl, rfl, .inl fun _ => trivial⟩
  have one (options : WorkerOptions) (same : configured options) : options.lamportsPerAtomicUnit = 1 := by
    rw [same]
    rfl
  have foretold := (dry_run_foretells sampleEnvironment sampleNamespace configured trusted 1 one
    sampleSimulate (fun _ _ _ => trivial) sampleStart_initial before rfl (some 10)).2 results _ rehearsed
  have task : Interaction.Steps (step sampleEnvironment)
      ((Task.rehearsal (⟨sampleWorker, rfl⟩ : { options // configured options }) (some 10)).work sampleHost
        sampleNetwork.sign sampleSimulate, sampleQueued) (pure (), sampleRehearsed.2) :=
    Interaction.Steps.bind rehearsed
  let process : Task configured := Task.command ⟨⟨sampleWorker, .run none⟩, rfl⟩
  have reached : TaskRun sampleEnvironment configured sampleSimulate sampleStart sampleRehearsedPaid.2 :=
    .command (.command before _ _ task) process _ settled
  -- one event was listed, and one result was shown
  obtain ⟨event, listed, id⟩ := List.map_eq_singleton_iff.mp named
  obtain ⟨result, only, figure⟩ := List.map_eq_singleton_iff.mp figures
  obtain ⟨_, total, byShare⟩ : result.eventId = js "event-1" ∧ result.lamportsTotal = 1001 ∧
      result.lamportsByShare = [700, 301] := by
    simpa only [Prod.mk.injEq] using figure
  rw [listed, only] at foretold
  obtain ⟨⟨_, _, ending⟩, _⟩ := List.forall₂_cons.mp foretold
  refine ⟨_, event, result, reached, id, total, byShare, paid, ?_⟩
  refine ending _ (.command .start process _ settled) ?_
  rw [id]
  exact paid

end Synxed.Studio
