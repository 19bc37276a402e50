import Mathlib.Tactic

/-!
Runs of a labelled transition system.

`Trace step silent s log t` is a run from `s` to `t` whose labelled steps are
`log`, oldest first, with unlabelled steps anywhere between them.

* `Trace.trans`: runs compose.
* `Trace.invariant`: a property of log and state that the run's own steps keep
  holds at the end.
-/

namespace Synxed.Lib

variable {S L : Type}

inductive Trace (step : S → L → S → Prop) (silent : S → S → Prop) (start : S) :
    List L → S → Prop where
  | nil : Trace step silent start [] start
  | snoc {log : List L} {middle last : S} {label : L} (before : Trace step silent start log middle)
      (next : step middle label last) : Trace step silent start (log ++ [label]) last
  | silent {log : List L} {middle last : S} (before : Trace step silent start log middle)
      (next : silent middle last) : Trace step silent start log last

namespace Trace

variable {step : S → L → S → Prop} {silent : S → S → Prop} {start middle last : S}
  {log log' : List L}

theorem trans (first : Trace step silent start log middle)
    (second : Trace step silent middle log' last) :
    Trace step silent start (log ++ log') last := by
  induction second with
  | nil => simpa using first
  | snoc _ next ih =>
      rw [← List.append_assoc]
      exact ih.snoc next
  | silent _ next ih => exact ih.silent next

/-- A property of the log so far and the state that the run's own steps keep
holds at its end. -/
theorem invariant (inv : List L → S → Prop) (run : Trace step silent start log last)
    (initial : inv [] start)
    (step_keeps : ∀ done s label t, label ∈ log → inv done s → step s label t →
      inv (done ++ [label]) t)
    (silent_keeps : ∀ done s t, inv done s → silent s t → inv done t) : inv log last := by
  induction run with
  | nil => exact initial
  | snoc _ next ih =>
      refine step_keeps _ _ _ _ (by simp) (ih fun done s label t mem => ?_) next
      exact step_keeps done s label t (List.mem_append_left _ mem)
  | silent _ next ih => exact silent_keeps _ _ _ (ih step_keeps) next

end Trace

end Synxed.Lib
