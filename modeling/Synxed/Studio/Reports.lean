import Synxed.Studio.Careful

/-!
What a run of the worker reports.

* `reported_iff`: whatever throws, a run returns, and the last outcome it
  reports of every listed event agrees with the event's status, exactly when no
  listed event is named `__proto__`.
* `not_always_reported`: a run that lists such an event.
-/

namespace Synxed.Studio

open Synxed.Lib Synxed.Program Synxed.Sdk

variable {D : Deployment} {env : Environment D}

/-- An outcome and the status of its event tell the same. -/
structure Outcome.AgreesWith (outcome : Outcome) (status : EventStatus) : Prop where
  paid : outcome = .paid ↔ status = .paid
  incident : outcome = .incident ↔ status = .incident
  needsAttention : outcome = .needsAttention ↔ status = .needsAttention
  pending : outcome = .retry ∨ outcome = .failed → status = .pending
  inFlight : outcome = .waiting ∨ outcome = .unresolved → status = .inFlight

theorem Outcome.agreesWith_status (outcome : Outcome) : outcome.AgreesWith outcome.status := by
  cases outcome <;> constructor <;> simp [Outcome.status]

/-- Every event has a last outcome, which agrees with its status. -/
def Reported (events : List StoredEvent) (summary : WorkerOptions.RunSummary)
    (w : World D env.net) : Prop :=
  ∀ event ∈ events, ∃ outcome status, summary.last event.eventId = some outcome ∧
    w.status event.eventId = some status ∧ outcome.AgreesWith status

/-- A run that listed the events ends with the summary. -/
def Lists (env : Environment D) (options : WorkerOptions) (count : Option Nat) (w : World D env.net)
    (events : List StoredEvent) (summary : WorkerOptions.RunSummary) (w' : World D env.net) : Prop :=
  ∃ inFlight pending, events = inFlight ++ pending ∧
    Interaction.Steps (step env) (options.runListing env.host env.net.sign count, w)
      (.pure (inFlight, pending, summary), w')

/-- The journal is kept in every world of a studio. -/
theorem Run.journal {configured : WorkerOptions → Prop} {start w : World D env.net}
    (initial : start.Initial) (reached : Run env configured start w) : Journal w.store := by
  let kept (_ : Store) : Prop := True
  have both : Journal w.store ∧ kept w.store :=
    Run.keeps trivial (fun _ _ _ _ => trivial) (fun _ _ _ _ _ _ => trivial) initial reached
  exact both.1

section Journaled

variable {w w' : World D env.net} {options : WorkerOptions} (journal : Journal w.store)

include journal

theorem status_of_reports {eventId : JsString} {outcome : Outcome}
    (reports : Reports eventId outcome w) : w.status eventId = some outcome.status := by
  have standing := reports
  obtain ⟨row, mem, rfl, _⟩ := reports
  rw [Reports, ← journal.named row mem] at standing
  exact Store.event_of_standing standing

theorem safe_runListing (count : Option Nat) :
    Interaction.Safe (step env)
      (fun w op => (∃ e, op.Owes options.attemptLimit (fun _ => True) e w) ∧ Journal w.store)
      (options.runListing env.host env.net.sign count)
      (fun told w' => Summarized told.1 told.2.1 told.2.2 w' ∧ Journal w'.store)
      (fun _ _ => False) w := by
  have here (params : AttemptParams) (_ : options.Made params) : True := trivial
  have safe := Interaction.Safe.within (diligent_runListing here env.net.sign count w)
    (fun w op reply w' owes journal moved => owes.elim fun _ owes => owes.journal journal moved.1)
    journal
  exact (safe.step_mono fun _ _ _ _ => minded_of_step).mono (fun _ _ both => both)
    fun _ _ both => both.1

theorem run_returns (count : Option Nat) :
    Interaction.Returns (step env) (options.run env.host env.net.sign count) w := by
  have ran : Interaction.Safe (step env) (fun _ _ => True) (options.run env.host env.net.sign count)
      (fun _ _ => True) (fun _ _ => False) w := by
    rw [WorkerOptions.run_eq]
    exact Interaction.Safe.bind ((safe_runListing journal count).guard_mono fun _ _ _ => trivial)
      fun _ _ _ => trivial
  exact ran.returns

/-- Handling a throw keeps the status, and reports it. -/
theorem contain_keeps {eventId note : JsString} {outcome : Outcome} {status : EventStatus}
    (known : w.status eventId = some status)
    (ran : Interaction.Steps (step env) (WorkerOptions.contain eventId note, w) (.pure outcome, w')) :
    w'.status eventId = some status ∧ outcome.AgreesWith status := by
  obtain ⟨event, found, rfl⟩ := Option.map_eq_some_iff.mp known
  obtain ⟨row, mem, id, rfl⟩ := Store.event_eq_some.mp found
  have contained : Careful env 0 (fun _ => True) (column eventId) _ _ _ w :=
    careful_contain rfl note ⟨row, mem, id, rfl⟩
  have safe := Interaction.Safe.within contained
    (fun w op reply w' owes journal moved => owes.journal journal moved) journal
  obtain ⟨⟨standing, same⟩, _⟩ := safe.returned ran
  refine ⟨Store.event_of_standing standing, ?_⟩
  rw [← same]
  exact outcome.agreesWith_status

end Journaled

/-- **What a run reports.** In every world of a studio, whatever the providers
answer and whatever throws: a run returns, and the last outcome it reports of
every event it listed agrees with the status of the event, if and only if no
listed event is named `__proto__`; handling a throw keeps the status that the
event then has. -/
theorem reported_iff (env : Environment D) (configured : WorkerOptions → Prop)
    {start w : World D env.net} (initial : start.Initial) (reached : Run env configured start w)
    (options : WorkerOptions) (count : Option Nat) :
    Interaction.Returns (step env) (options.run env.host env.net.sign count) w ∧
      (∀ events summary w', Lists env options count w events summary w' →
        (Reported events summary w' ↔ ∀ event ∈ events, event.eventId ≠ js "__proto__")) ∧
      ∀ eventId note outcome status w', w.status eventId = some status →
        Interaction.Steps (step env) (WorkerOptions.contain eventId note, w) (.pure outcome, w') →
        w'.status eventId = some status ∧ outcome.AgreesWith status := by
  have journal := Run.journal initial reached
  refine ⟨run_returns journal count, fun events summary w' listed => ?_,
    fun eventId note outcome status w' known ran => contain_keeps journal known ran⟩
  obtain ⟨inFlight, pending, rfl, ran⟩ := listed
  obtain ⟨summarized, journal'⟩ := (safe_runListing journal count).returned ran
  refine ⟨fun reported event mem proto => ?_, fun unnamed event mem => ?_⟩
  · obtain ⟨outcome, status, last, _⟩ := reported event mem
    rw [proto, summarized.proto] at last
    cases last
  · obtain ⟨outcome, last, reports⟩ := summarized.each event mem (unnamed event mem)
    exact ⟨outcome, outcome.status, last, status_of_reports journal' reports,
      outcome.agreesWith_status⟩

/-! ### Sample runs

No request is answered, so a pending event stays pending, to be tried again. -/

/-- No request is answered. -/
def sampleOutage (call : Rpc) : Except JsString call.Answer := .error (js "Error: fetch failed")

/-- The sample worker runs while no request is answered. -/
def sampleListing (w : World sampleDeployment sampleNetwork) :
    Work (List StoredEvent × List StoredEvent × WorkerOptions.RunSummary) ×
      World sampleDeployment sampleNetwork :=
  scriptedPlay sampleOutage 20
    (sampleWorker.runListing sampleLiar.host sampleLiar.net.sign none) w

/-- The events it listed, and the last outcome it reported of one. -/
def sampleListing.report (w : World sampleDeployment sampleNetwork) (eventId : JsString) :
    Option (List JsString × Option Outcome) :=
  (sampleListing w).1.returned.map fun told =>
    ((told.1 ++ told.2.1).map StoredEvent.eventId, told.2.2.last eventId)

theorem lists_of_report {w : World sampleDeployment sampleNetwork} {eventId : JsString}
    {ids : List JsString} {last : Option Outcome}
    (report : sampleListing.report w eventId = some (ids, last)) :
    ∃ events summary, Lists sampleLiar sampleWorker none w events summary (sampleListing w).2 ∧
      events.map StoredEvent.eventId = ids ∧ summary.last eventId = last := by
  obtain ⟨⟨inFlight, pending, summary⟩, returned, told⟩ := Option.map_eq_some_iff.mp report
  obtain ⟨rfl, rfl⟩ := Prod.ext_iff.mp told
  have ran := scriptedPlay_steps sampleOutage 20
    (sampleWorker.runListing sampleLiar.host sampleLiar.net.sign none) w
  rw [← sampleListing, ← Prod.eta (sampleListing w), Interaction.returned_eq_some.mp returned] at ran
  exact ⟨_, summary, ⟨inFlight, pending, rfl, ran⟩, rfl, rfl⟩

theorem reported_iff_sample : ∃ events summary w',
    Lists sampleLiar sampleWorker none sampleQueued events summary w' ∧
      events.map StoredEvent.eventId = [js "event-1"] ∧ Reported events summary w' := by
  have report : sampleListing.report sampleQueued (js "event-1") =
      some ([js "event-1"], some .retry) := by decide +kernel
  obtain ⟨events, summary, lists, ids, _⟩ := lists_of_report report
  have queued : Run sampleLiar (fun _ => True) sampleStart sampleQueued :=
    .outside .start (.inl sampleQueued_passes)
  have told := reported_iff sampleLiar _ sampleStart_initial queued sampleWorker none
  refine ⟨events, summary, _, lists, ids, (told.2.1 _ _ _ lists).mpr fun event mem => ?_⟩
  have named : event.eventId ∈ [js "event-1"] := ids ▸ List.mem_map_of_mem mem
  rw [List.mem_singleton.mp named]
  decide

/-- The sample event under another name. -/
def protoEvent : Json :=
  match sampleEvent with
  | .object (_ :: fields) => .object ((js "eventId", .string (js "__proto__")) :: fields)
  | other => other

def protoPrepared : PreparedEvent :=
  (prepareEvent sampleLiar.isDate protoEvent).toOption.getD ⟨sampleRequest, []⟩

def protoQueue : Store.Enqueued × Store :=
  (Store.empty.enqueue protoPrepared.request protoPrepared.beneficiaryIds
    (js "2026-01-02T00:00:00.000Z")).toOption.getD (.unchanged, .empty)

def protoQueued : World sampleDeployment sampleNetwork := { sampleStart with store := protoQueue.2 }

theorem protoEvent_listed : (prepareEvent sampleLiar.isDate protoEvent).isOk ∧
    sampleListing.report protoQueued (js "__proto__") = some ([js "__proto__"], none) := by
  decide +kernel

/-- A run lists the event `__proto__`, and reports nothing of it. -/
theorem not_always_reported :
    ¬ ∀ w, Run sampleLiar (fun _ => True) sampleStart w →
      ∀ options count events summary w', Lists sampleLiar options count w events summary w' →
        Reported events summary w' := by
  intro always
  obtain ⟨prepares, report⟩ := protoEvent_listed
  obtain ⟨events, summary, lists, ids, last⟩ := lists_of_report report
  have enqueued : Enqueues sampleLiar.isDate .empty protoQueue.2 :=
    .single ⟨protoEvent, protoPrepared, _, _, eq_ok_of_isOk _ prepares,
      eq_ok_of_isOk (.unchanged, .empty) rfl⟩
  have queued : Run sampleLiar (fun _ => True) sampleStart protoQueued :=
    .outside .start (.inl ⟨enqueued, .refl, fun _ => .refl, rfl, rfl, rfl⟩)
  have listed : js "__proto__" ∈ events.map StoredEvent.eventId := by
    rw [ids]
    exact List.mem_singleton_self _
  obtain ⟨event, mem, named⟩ := List.mem_map.mp listed
  obtain ⟨outcome, _, reported, _⟩ := always _ queued _ _ _ _ _ lists event mem
  rw [named, last] at reported
  cases reported

end Synxed.Studio
