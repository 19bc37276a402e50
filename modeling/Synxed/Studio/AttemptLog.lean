import Synxed.Studio.Careful

/-!
The attempts of every event, over all runs of one worker at a time.

* `attempts_logged`: in every database reached they are numbered from one, only
  the last may be open, and one that landed was recorded paid.
-/

namespace Synxed.Studio

open Synxed.Lib Synxed.Program Synxed.Sdk

variable {D : Deployment} {env : Environment D} {configured : WorkerOptions → Prop} {limit : Nat}
  {store : Store}

/-- The recording an operation made: the event, and the signature it was paid
by. -/
def paidWith : (op : Op) → Except Thrown op.Reply → List (JsString × JsString)
  | .store (.recordPaid eventId _ record _ _), .ok _ => [(column eventId, record.signature)]
  | _, _ => []

/-- A studio's runs, one worker at a time, with what was recorded paid. -/
abbrev PaidRun (env : Environment D) (configured : WorkerOptions → Prop) (start : World D env.net) :
    World D env.net × List (JsString × JsString) → Prop :=
  Interaction.Reachable (Interaction.recording (step env) paidWith)
    (fun process : Process configured => process.val.work env.host env.net.sign)
    (fun w w' => outside env w.1 w'.1 ∧ w'.2 = w.2) (start, [])

/-- The attempts that the store holds, of every event. -/
structure AttemptLog (limit : Nat) (store : Store) (paid : List (JsString × JsString)) : Prop where
  numbered : ∀ row ∈ store.events.rows,
    (store.attempts row.eventId).map StoredAttempt.attempt = List.range' 1 row.attempts
  limited : ∀ row ∈ store.events.rows, row.attempts ≤ limit
  last : ∀ row ∈ store.events.rows, ∀ attempt ∈ store.attempts row.eventId, attempt.Open →
    (store.attempts row.eventId).getLast? = some attempt
  pending : ∀ row ∈ store.events.rows, row.status = .pending →
    ∀ attempt ∈ store.attempts row.eventId, ¬ attempt.Open
  landed : ∀ attempt ∈ store.attemptRows.rows, attempt.status = .landed →
    ∃ signature, attempt.signature = some signature ∧ (attempt.eventId, signature) ∈ paid

/-! ### From the journal -/

namespace Journal

variable (journal : Journal store) {row : EventRow} (mem : row ∈ store.events.rows)

include journal mem

theorem mem_attempts {attempt : StoredAttempt} : attempt ∈ store.attempts row.eventId ↔
    attempt ∈ store.attemptRows.rows ∧ attempt.eventId = row.eventId := by
  rw [Store.mem_attempts, journal.named row mem]

theorem attempts_eq :
    (store.attempts row.eventId).map StoredAttempt.attempt = List.range' 1 row.attempts := by
  refine List.Perm.eq_of_pairwise' (r := (· ≤ ·)) (store.sorted_attempts row.eventId)
    ((List.pairwise_lt_range' 1).imp Nat.le_of_lt) ?_
  rw [List.perm_ext_iff_of_nodup (store.nodup_attempts row.eventId) List.nodup_range']
  intro n
  rw [List.mem_range'_1, List.mem_map]
  have numbers := journal.numbered row mem n
  simp only [← journal.mem_attempts mem, ← and_assoc] at numbers
  rw [numbers]
  omega

/-- The open attempt is the last. -/
theorem getLast?_eq {attempt : StoredAttempt} (inside : attempt ∈ store.attempts row.eventId)
    (opens : attempt.Open) : (store.attempts row.eventId).getLast? = some attempt := by
  obtain ⟨inRows, id⟩ := (journal.mem_attempts mem).mp inside
  obtain ⟨_, number⟩ := journal.last row mem attempt inRows id opens
  obtain ⟨some, most⟩ := (journal.numbered row mem attempt.attempt).mp ⟨attempt, inRows, id, rfl⟩
  have lastNumber := congrArg List.getLast? (journal.attempts_eq mem)
  rw [List.getLast?_map, List.getLast?_range', if_neg (by omega)] at lastNumber
  obtain ⟨last, isLast, same⟩ := Option.map_eq_some_iff.mp lastNumber
  rw [isLast, List.inj_on_of_nodup_map (store.nodup_attempts row.eventId)
    (List.mem_of_getLast? isLast) inside (by omega)]

end Journal

/-! ### What a step keeps -/

/-- What is kept of the attempts beside the journal. -/
structure Counted (limit : Nat) (store : Store) (paid : List (JsString × JsString)) : Prop where
  limited : ∀ row ∈ store.events.rows, row.attempts ≤ limit
  landed : ∀ attempt ∈ store.attemptRows.rows, attempt.status = .landed →
    ∃ signature, attempt.signature = some signature ∧ (attempt.eventId, signature) ∈ paid

theorem Counted.queues {store' : Store} {paid : List (JsString × JsString)}
    (counted : Counted limit store paid) (queues : store.Queues store') :
    Counted limit store' paid := by
  refine ⟨fun row mem => ?_, ?_⟩
  · rcases queues.added row mem with old | ⟨_, none, _⟩
    · exact counted.limited row old
    · rw [none]
      exact Nat.zero_le limit
  · rw [queues.attempts]
    exact counted.landed

/-- An attempt begins below the limit, and one lands as it is recorded paid. -/
theorem Counted.of_apply {method : Method} {most : Nat} {mine : AttemptParams → Prop} {e : JsString}
    {paid : List (JsString × JsString)} (counted : Counted limit store paid) (within : most ≤ limit)
    (owes : method.Owes most mine e store) :
    Counted limit (method.apply store).2 (paid ++ paidWith (.store method) (method.apply store).1) := by
  have statuses {f : EventRow → EventRow} {k : JsString}
      (same : ∀ row, (f row).attempts = row.attempts) :
      ∀ row' ∈ store.events.rows.map fun row => if row.eventId = k then f row else row,
        row'.attempts ≤ limit := by
    intro row' mem
    rcases Table.mem_changed.mp mem with ⟨old, _⟩ | ⟨old, inRows, _, rfl⟩
    · exact counted.limited row' old
    · rw [same]
      exact counted.limited old inRows
  cases method with
  | beginAttempt eventId request params =>
      cases began : store.beginAttempt eventId request params with
      | error error =>
          simp only [Method.apply, began, paidWith, List.append_nil]
          exact counted
      | ok result =>
          obtain ⟨number, store'⟩ := result
          simp only [Method.apply, began, paidWith, List.append_nil]
          obtain ⟨event, found, _, rfl, _, rfl⟩ := Store.beginAttempt_eq_ok began
          obtain ⟨row, inRows, id, rfl⟩ := Store.event_eq_some.mp found
          have below := owes.2.2.2.1 row inRows (id.trans owes.1)
          refine ⟨fun row' mem => ?_, fun attempt mem landed => ?_⟩
          · rcases Table.mem_changed.mp mem with ⟨old, _⟩ | ⟨old, _, _, rfl⟩
            · exact counted.limited row' old
            · exact Nat.le_trans below within
          · rcases Table.mem_insertOrIgnore.mp mem with old | ⟨rfl, _⟩
            · exact counted.landed attempt old landed
            · cases landed
  | recordSigned eventId number signature raw lastValid =>
      simp only [paidWith, List.append_nil]
      refine ⟨counted.limited, fun attempt mem landed => ?_⟩
      rcases Table.mem_changed.mp mem with ⟨old, _⟩ | ⟨old, inRows, _, rfl⟩
      · exact counted.landed attempt old landed
      · split at landed
        · cases landed
        · next other =>
            rw [if_neg other]
            exact counted.landed old inRows landed
  | setAttemptStatus eventId number status =>
      simp only [paidWith, List.append_nil]
      refine ⟨counted.limited, fun attempt mem landed => ?_⟩
      rcases Table.mem_changed.mp mem with ⟨old, _⟩ | ⟨old, _, _, rfl⟩
      · exact counted.landed attempt old landed
      · exact absurd landed status.property
  | setEventStatus eventId status note =>
      simp only [paidWith, List.append_nil]
      exact ⟨statuses fun _ => rfl, counted.landed⟩
  | recordPaid eventId number record directEntries poolPayouts =>
      cases wrote : store.recordPaid eventId number record directEntries poolPayouts with
      | error error =>
          simp only [Method.apply, wrote, paidWith, List.append_nil]
          exact counted
      | ok store' =>
          simp only [Method.apply, wrote, paidWith]
          obtain ⟨_, _, _, rfl⟩ := Store.recordPaid_eq_ok wrote
          have before {attempt : StoredAttempt} (old : attempt ∈ store.attemptRows.rows)
              (landed : attempt.status = .landed) : ∃ signature, attempt.signature = some signature ∧
                (attempt.eventId, signature) ∈ paid ++ [(column eventId, record.signature)] := by
            obtain ⟨signature, signed, recorded⟩ := counted.landed attempt old landed
            exact ⟨signature, signed, List.mem_append_left _ recorded⟩
          refine ⟨statuses fun _ => rfl, fun attempt mem landed => ?_⟩
          cases number with
          | none => exact before mem landed
          | some n =>
              rcases Table.mem_changed.mp mem with ⟨old, _⟩ | ⟨old, inRows, key, rfl⟩
              · exact before old landed
              · obtain ⟨row, inTable, id, number, signed⟩ := owes.2 n rfl
                obtain rfl : old = row := List.inj_on_of_nodup_map store.attemptRows.unique inRows
                  inTable (key.trans (by rw [id, number, owes.1]))
                refine ⟨record.signature, signed, List.mem_append_right _ ?_⟩
                rw [List.mem_singleton, ← (Prod.mk.inj key).1]
  | _ =>
      simp only [paidWith, List.append_nil]
      exact counted

theorem Counted.of_step {w w' : World D env.net} {op : Op} {reply : Except Thrown op.Reply}
    {most : Nat} {mine : AttemptParams → Prop} {e : JsString} {paid : List (JsString × JsString)}
    (counted : Counted limit w.store paid) (within : most ≤ limit) (owes : op.Owes most mine e w)
    (moved : step env w op reply w') : Counted limit w'.store (paid ++ paidWith op reply) := by
  have queues := moved.queues
  cases op with
  | store method =>
      obtain ⟨middle, ⟨rfl, _⟩, _⟩ := moved
      exact (counted.of_apply within owes).queues queues
  | _ =>
      simp only [paidWith, List.append_nil]
      exact counted.queues queues

/-! ### Every run -/

/-- **The attempts of every event.** For one worker at a time, whatever the
providers answer and wherever it is stopped: they are numbered from one up to
the event's count, which stays within the limit; only the last may be open, and
none is while the event is pending; one that landed bears a signature that the
event was recorded paid by. -/
theorem attempts_logged (env : Environment D) (configured : WorkerOptions → Prop) (limit : Nat)
    (bounded : ∀ options, configured options → options.attemptLimit ≤ limit)
    {start w : World D env.net} {paid : List (JsString × JsString)} (initial : start.Initial)
    (reached : PaidRun env configured start (w, paid)) : AttemptLog limit w.store paid := by
  let inv (w : World D env.net × List (JsString × JsString)) : Prop :=
    Journal w.1.store ∧ Counted limit w.1.store w.2
  have begins : inv (start, []) := by
    refine ⟨?_, ?_, ?_⟩ <;> rw [initial.store]
    · exact .empty
    · exact fun _ mem => nomatch mem
    · exact fun _ mem => nomatch mem
  have acts (w w' : World D env.net × List (JsString × JsString)) (holds : inv w)
      (acted : outside env w.1 w'.1 ∧ w'.2 = w.2) : inv w' := by
    obtain ⟨journal, counted⟩ := holds
    refine ⟨journal.outside acted.1, ?_⟩
    rw [acted.2]
    rcases outside.cases acted.1 with queues | ⟨eventId, note, queues⟩
    · exact counted.queues queues
    · have flags : (Method.setEventStatus eventId .needsAttention note).Owes 0 (fun _ => True)
          (column eventId) w.1.store := ⟨rfl, (nomatch ·)⟩
      have after := counted.of_apply (Nat.zero_le limit) flags
      simp only [paidWith, List.append_nil] at after
      exact after.queues queues
  have safe (process : Process configured) (w : World D env.net × List (JsString × JsString))
      (holds : inv w) : Interaction.Safe (Interaction.recording (step env) paidWith)
        (fun w _ => inv w) (process.val.work env.host env.net.sign) (fun _ => inv) (fun _ => inv) w := by
    obtain ⟨w, paid⟩ := w
    have worked := safe_work process.val.options env.net.sign process.val.action holds.1
    have counts (w : World D env.net × List (JsString × JsString)) (op : Op)
        (reply : Except Thrown op.Reply) (w' : World D env.net × List (JsString × JsString))
        (owes : (∃ e, op.Owes process.val.options.attemptLimit (fun _ => True) e w.1) ∧
          Journal w.1.store) (counted : Counted limit w.1.store w.2)
        (moved : Interaction.recording (step env) paidWith w op reply w') :
        Counted limit w'.1.store w'.2 := by
      obtain ⟨⟨e, owes⟩, _⟩ := owes
      rw [moved.2]
      exact counted.of_step (bounded _ process.property) owes moved.1
    exact ((Interaction.Safe.keeps (worked.recording paid) counts holds.2).guard_mono
      fun _ _ both => ⟨both.1.2, both.2⟩).mono (fun _ _ both => both) fun _ _ both => both
  have kept : inv (w, paid) := reached.invariant begins acts (fun _ _ held => held) safe
  obtain ⟨journal, counted⟩ := kept
  exact
    { numbered := fun row mem => journal.attempts_eq mem
      limited := counted.limited
      last := fun row mem attempt inside opens => journal.getLast?_eq mem inside opens
      pending := fun row mem pending attempt inside => by
        obtain ⟨inRows, id⟩ := (journal.mem_attempts mem).mp inside
        exact journal.closed_of_pending ⟨row, mem, rfl, pending⟩ attempt inRows id
      landed := counted.landed }

/-! ### A sample run -/

/-- Run a worker for some operations on the sample chain. -/
def sampleLog (fuel : Nat) (program : Work Unit) (w : World sampleDeployment sampleNetwork) :
    Work Unit × World sampleDeployment sampleNetwork × List (JsString × JsString) :=
  Interaction.play (fun w op => some ((sampleRespond w.1 op).1, (sampleRespond w.1 op).2,
    w.2 ++ paidWith op (sampleRespond w.1 op).1)) fuel (program, w, [])

theorem sampleLog_steps (fuel : Nat) (program : Work Unit)
    {w : World sampleDeployment sampleNetwork} (sample : SampleWorld w) :
    Interaction.Steps (Interaction.recording (step sampleEnvironment) paidWith)
      (program, w, []) (sampleLog fuel program w) := by
  let kept (w : World sampleDeployment sampleNetwork × List (JsString × JsString)) : Prop :=
    SampleWorld w.1
  refine (Interaction.steps_play (fun w op reply w' (sample : kept w) answered => ?_) fuel
    (program, w, []) sample).1
  obtain ⟨moved, sample'⟩ := sampleRespond_step sample op
  obtain ⟨rfl, rfl⟩ := Prod.ext_iff.mp (Option.some.inj answered)
  exact ⟨⟨moved, rfl⟩, sample'⟩

/-- The sample worker settles the sample event. -/
@[irreducible] def sampleLogged :
    Work Unit × World sampleDeployment sampleNetwork × List (JsString × JsString) :=
  sampleLog 40 (sampleRunOf sampleWorker) sampleQueued

theorem sampleLogged_paid : sampleLogged.2.1.status (js "event-1") = some .paid := by
  decide +kernel

theorem sampleLogged_steps : Interaction.Steps
    (Interaction.recording (step sampleEnvironment) paidWith)
    (sampleRunOf sampleWorker, sampleQueued, []) sampleLogged := by
  unfold sampleLogged
  exact sampleLog_steps 40 _ ⟨.inl rfl, fun _ => rfl⟩

theorem attempts_logged_sample : ∃ w paid,
    PaidRun sampleEnvironment (·.attemptLimit ≤ 5) sampleStart (w, paid) ∧
      w.status (js "event-1") = some .paid ∧ AttemptLog 5 w.store paid := by
  have queued : PaidRun sampleEnvironment (·.attemptLimit ≤ 5) sampleStart (sampleQueued, []) :=
    .outside .start ⟨.inl sampleQueued_passes, rfl⟩
  let process : Process (·.attemptLimit ≤ 5) := ⟨⟨sampleWorker, .run none⟩, by decide⟩
  have reached : PaidRun sampleEnvironment (·.attemptLimit ≤ 5) sampleStart sampleLogged.2 :=
    .command queued process sampleLogged.1 sampleLogged_steps
  exact ⟨sampleLogged.2.1, sampleLogged.2.2, reached, sampleLogged_paid,
    attempts_logged sampleEnvironment _ 5 (fun _ most => most) sampleStart_initial reached⟩

end Synxed.Studio
