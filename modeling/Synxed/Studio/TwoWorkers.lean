import Synxed.Studio.Beside

/-!
Two overlapping workers against an honest cluster.

* `overlapping_workers_as_documented`: whatever the interleaving, an event is
  settled at most once and its ledger rows are written once; and a paid event
  reads as paid or in flight in every run in which no status is written, on what
  was read before a wait, over an event that was recorded paid.
* `overlapping_workers_not_as_documented`: a run with such a write.
-/

namespace Synxed.Studio

open Synxed.Lib Synxed.Program Synxed.Sdk

variable {D : Deployment} {env : Environment D} {ns : Pubkey}

/-- The workers run well together. -/
theorem workers_together (honest : ∀ provider call, env.honest provider call)
    (meets : World D env.net → Op → Prop) :
    Together Op.Awaits (Overlap.step env meets)
      (fun command : Sharing D ns => command.val.work env.host env.net.sign) (Overlap.outside env)
      (Overlap.Inv env.host ns meets) Forward (Owes env ns meets) where
  refl := .refl
  trans := fun _ _ _ => .trans
  keeps := by
    rintro w op reply w' inv owed ⟨met, ⟨middle, replies, passes⟩, current⟩
    obtain ⟨consistent, forward⟩ := inv.consistent.of_replies (owed met) replies
    obtain ⟨consistent', forward'⟩ := consistent.of_passes passes
    exact ⟨⟨current, consistent'⟩, forward.trans forward'⟩
  acts := by
    rintro w w' inv ⟨passes, current⟩
    obtain ⟨consistent, forward⟩ := inv.consistent.of_passes passes
    exact ⟨⟨current, consistent⟩, forward⟩
  stable := by
    intro w w' op awaits owed _ _
    cases op with
    | rpc provider call => exact quiet_rpc provider call w'
    | polls => exact quiet_polls w'
    | log line => exact awaits.elim
    | beforeSend eventId signature => exact awaits.elim
    | store method =>
        cases method with
        | event eventId => exact quiet_event eventId w'
        | eventsWithStatus status limit => exact fun _ => trivial
        | _ => exact awaits.elim
  safe command w _ := work_beside honest command w

namespace Overlap

variable {meets : World D env.net → Op → Prop}

/-- Nothing was stored, and no worker runs. -/
theorem kept_idle {start : World D env.net} (initial : start.Initial) (current : start.Current) :
    Together.Kept Op.Awaits (step env meets) (Inv env.host ns meets) Forward (Owes env ns meets)
      (idle env start) where
  holds := by
    refine ⟨current, ?_⟩
    rw [idle, initial.store, initial.recorded]
    exact ⟨.empty, fun _ _ mem => nomatch mem⟩
  safe _ _ left := nomatch left

/-- What is kept in every run. -/
theorem Run.kept (honest : ∀ provider call, env.honest provider call) {start : World D env.net}
    (initial : start.Initial) (current : start.Current) {workers : Workers env}
    (run : Run env ns meets (idle env start) workers) :
    Together.Kept Op.Awaits (step env meets) (Inv env.host ns meets) Forward (Owes env ns meets)
      workers :=
  ((workers_together honest meets).moves (kept_idle initial current) run).1

end Overlap

end Synxed.Studio
