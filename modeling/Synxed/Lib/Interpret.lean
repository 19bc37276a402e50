import Synxed.Lib.Interaction

/-!
Programs whose operations are carried out by other programs.

`interpret` replaces every operation that a program asks by a program over other
operations: a client over a wire, a wire over a socket.

* `interpret_bind`, `interpret_tryCatch`, `interpret_each`: it follows the program.
* `Safe.interpret`: what a program does however its operations end, its
  interpretation does if they end so.
-/

namespace Synxed.Lib.Interaction

variable {Op Op' : Type} {Reply : Op → Type} {Reply' : Op' → Type} {ε α β : Type}

/-- A program that looks at how another ended, and goes on as it did. -/
theorem result_bind_ofExcept (program : Interaction Op Reply ε α) :
    program.result >>= ofExcept = program := by
  change program.result.bind ofExcept = program
  induction program with
  | pure value => rfl
  | throw error => rfl
  | ask op next ih =>
      simp only [result, bind]
      exact congrArg (ask op) (funext fun reply => ih reply)

/-- What is caught after a program has ended is not thrown by it. -/
theorem tryCatch_result_bind (program : Interaction Op Reply ε α)
    (next : Except ε α → Interaction Op Reply ε β) (handler : ε → Interaction Op Reply ε β) :
    (program.result.bind next).tryCatch handler =
      program.result.bind fun reply => (next reply).tryCatch handler := by
  induction program with
  | pure value => rfl
  | throw error => rfl
  | ask op rest ih =>
      simp only [result, bind, tryCatch]
      exact congrArg (ask op) (funext fun reply => ih reply)

section Interpret

variable (carryOut : (op : Op) → Interaction Op' Reply' ε (Reply op))

/-- Carry every operation out by a program. -/
def interpret : Interaction Op Reply ε α → Interaction Op' Reply' ε α
  | pure value => pure value
  | throw error => throw error
  | ask op next => (carryOut op).result.bind fun reply => (next reply).interpret

@[simp] theorem interpret_ofExcept (outcome : Except ε α) :
    (ofExcept outcome : Interaction Op Reply ε α).interpret carryOut = ofExcept outcome := by
  cases outcome with
  | ok value => rfl
  | error error => rfl

@[simp] theorem interpret_perform (op : Op) :
    (perform op : Interaction Op Reply ε (Reply op)).interpret carryOut = carryOut op := by
  have last (reply : Except ε (Reply op)) :
      (ofExcept reply : Interaction Op Reply ε (Reply op)).interpret carryOut = ofExcept reply :=
    interpret_ofExcept carryOut reply
  change ((carryOut op).result.bind fun reply => (ofExcept reply).interpret carryOut) = carryOut op
  rw [funext last]
  exact result_bind_ofExcept (carryOut op)

theorem interpret_bind (program : Interaction Op Reply ε α) (rest : α → Interaction Op Reply ε β) :
    (program >>= rest).interpret carryOut =
      program.interpret carryOut >>= fun value => (rest value).interpret carryOut := by
  change (program.bind rest).interpret carryOut = (program.interpret carryOut).bind _
  induction program with
  | pure value => rfl
  | throw error => rfl
  | ask op next ih =>
      have after : ((carryOut op).result.bind fun reply => (next reply).interpret carryOut).bind
          (fun value => (rest value).interpret carryOut) =
            (carryOut op).result.bind fun reply => ((next reply).interpret carryOut).bind
              fun value => (rest value).interpret carryOut := bind_assoc _ _ _
      simp only [bind, interpret]
      rw [after]
      exact congrArg _ (funext fun reply => ih reply)

theorem interpret_tryCatch (program : Interaction Op Reply ε α)
    (handler : ε → Interaction Op Reply ε α) :
    (MonadExcept.tryCatch program handler).interpret carryOut =
      MonadExcept.tryCatch (program.interpret carryOut) fun error =>
        (handler error).interpret carryOut := by
  change (program.tryCatch handler).interpret carryOut = (program.interpret carryOut).tryCatch _
  induction program with
  | pure value => rfl
  | throw error => rfl
  | ask op next ih =>
      simp only [tryCatch, interpret]
      rw [tryCatch_result_bind]
      exact congrArg _ (funext fun reply => ih reply)

theorem interpret_each (f : β → Interaction Op Reply ε α) (items : List β) :
    (each f items).interpret carryOut = each (fun item => (f item).interpret carryOut) items := by
  induction items with
  | nil => rfl
  | cons item rest ih =>
      simp only [each, interpret_bind, ih]
      rfl

end Interpret

variable {W : Type} {step : W → (op : Op') → Except ε (Reply' op) → W → Prop}
  {guard : W → Op' → Prop} {carryOut : (op : Op) → Interaction Op' Reply' ε (Reply op)}
  {answers : (op : Op) → Except ε (Reply op) → Prop} {inv : W → Prop}

/-- However its operations end, if they are carried out to end so. -/
theorem Safe.interpret {program : Interaction Op Reply ε α} {post : α → Prop} {fail : ε → Prop}
    (safe : Safe (fun (_ : Unit) op reply _ => answers op reply) (fun _ _ => True) program
      (fun value _ => post value) (fun error _ => fail error) ())
    (carried : ∀ op w, inv w → Safe step guard (carryOut op)
      (fun value w' => answers op (.ok value) ∧ inv w')
      (fun error w' => answers op (.error error) ∧ inv w') w)
    {w : W} (holds : inv w) :
    Safe step guard (program.interpret carryOut) (fun value w' => post value ∧ inv w')
      (fun error w' => fail error ∧ inv w') w := by
  induction program generalizing w with
  | pure value => exact ⟨safe, holds⟩
  | throw error => exact ⟨safe, holds⟩
  | ask op next ih =>
      have ended : Safe step guard (carryOut op).result (fun reply w' => answers op reply ∧ inv w')
          (fun error w' => fail error ∧ inv w') w :=
        (carried op w holds).result (fun _ _ both => both) fun _ _ both => both
      exact ended.bind fun reply w' both => ih reply (safe.2 reply () both.1) both.2

end Synxed.Lib.Interaction
