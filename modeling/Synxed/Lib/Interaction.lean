import Synxed.Lib.Outcome
import Mathlib.Logic.Relation
import Mathlib.Tactic

/-!
Programs that ask their surroundings, and what holds while they run.

An `Interaction` is a program that may throw and that reaches a store, a network
or a clock only by asking operations. What the operations do is given apart, as
a step relation on worlds, so one program can be run against honest and against
hostile surroundings, and stopped between any two operations.

* `Safe`: every operation the program asks is guarded, and it ends well. The
  rules `Safe.bind`, `Safe.tryCatch`, `safe_each` follow the program.
* `Safe.keeps`: what guarded steps keep is kept throughout.
* `runWith`, `steps_play`: a run in surroundings that a function describes, as a
  value.
* `Fixed`: the surroundings may answer in many ways, but the program ends in one.
  `Fixed.bind`, `fixed_each` follow the program, and `Fixed.existsUnique` is the
  statement about two runs.
* `Safe.of_uses`: the frame rule. A program keeps whatever the operations it
  uses keep.
* `Safe.returns`: a program that is safe from throwing returns.
* `Reachable.invariant`, `Reachable.guarded`: what safe programs keep holds in
  every world reached by running them one after the other, stopped anywhere.
-/

namespace Synxed.Lib

/-- A program with result `α` that asks operations, each answered by its reply
or by an error, and may throw. -/
inductive Interaction (Op : Type) (Reply : Op → Type) (ε α : Type) : Type where
  | pure (value : α)
  | throw (error : ε)
  | ask (op : Op) (next : Except ε (Reply op) → Interaction Op Reply ε α)

namespace Interaction

variable {Op : Type} {Reply : Op → Type} {ε α β : Type}

/-! ### Programs -/

def bind : Interaction Op Reply ε α → (α → Interaction Op Reply ε β) → Interaction Op Reply ε β
  | pure value, rest => rest value
  | throw error, _ => throw error
  | ask op next, rest => ask op fun reply => (next reply).bind rest

/-- Run `handler` where the program throws. -/
def tryCatch : Interaction Op Reply ε α → (ε → Interaction Op Reply ε α) → Interaction Op Reply ε α
  | pure value, _ => pure value
  | throw error, handler => handler error
  | ask op next, handler => ask op fun reply => (next reply).tryCatch handler

instance : Monad (Interaction Op Reply ε) where
  pure := pure
  bind := bind

instance : MonadExcept ε (Interaction Op Reply ε) where
  throw := throw
  tryCatch := tryCatch

/-- A computation that asks nothing. -/
def ofExcept : Except ε α → Interaction Op Reply ε α
  | .ok value => pure value
  | .error error => throw error

/-- Ask one operation; its error is thrown. -/
def perform (op : Op) : Interaction Op Reply ε (Reply op) := ask op ofExcept

/-- How a program ended, as a value. -/
def result : Interaction Op Reply ε α → Interaction Op Reply ε (Except ε α)
  | pure value => pure (.ok value)
  | throw error => pure (.error error)
  | ask op next => ask op fun reply => (next reply).result

/-- Run `f` on every element in turn and collect the results. -/
def each (f : β → Interaction Op Reply ε α) : List β → Interaction Op Reply ε (List α)
  | [] => pure []
  | item :: rest => do
      let value ← f item
      let values ← each f rest
      pure (value :: values)

theorem bind_assoc {γ : Type} (program : Interaction Op Reply ε α)
    (next : α → Interaction Op Reply ε β) (last : β → Interaction Op Reply ε γ) :
    program >>= next >>= last = program >>= fun value => next value >>= last := by
  change (program.bind next).bind last = program.bind fun value => (next value).bind last
  induction program with
  | pure value => rfl
  | throw error => rfl
  | ask op rest ih =>
      simp only [bind]
      exact congrArg (ask op) (funext fun reply => ih reply)

/-! ### Running -/

section Steps

variable {W : Type} (step : W → (op : Op) → Except ε (Reply op) → W → Prop)

/-- One operation of a running program is answered. -/
inductive Step : Interaction Op Reply ε α × W → Interaction Op Reply ε α × W → Prop where
  | answered {op : Op} {next : Except ε (Reply op) → Interaction Op Reply ε α}
      {reply : Except ε (Reply op)} {w w' : W} (moved : step w op reply w') :
      Step (ask op next, w) (next reply, w')

/-- A program on its way. -/
abbrev Steps : Interaction Op Reply ε α × W → Interaction Op Reply ε α × W → Prop :=
  Relation.ReflTransGen (Step step)

/-- Every operation the program asks finds its guard true, and the program ends
in `post`, or in `fail` when it throws. -/
def Safe (guard : W → Op → Prop) :
    Interaction Op Reply ε α → (α → W → Prop) → (ε → W → Prop) → W → Prop
  | pure value, post, _, w => post value w
  | throw error, _, fail, w => fail error w
  | ask op next, post, fail, w =>
      guard w op ∧ ∀ reply w', step w op reply w' → Safe guard (next reply) post fail w'

end Steps

variable {W : Type} {step : W → (op : Op) → Except ε (Reply op) → W → Prop}
  {guard : W → Op → Prop} {post post' : α → W → Prop} {fail fail' : ε → W → Prop}
  {program : Interaction Op Reply ε α} {w w' : W}

/-! ### Rules -/

@[simp] theorem safe_pure {value : α} :
    Safe step guard (Pure.pure value : Interaction Op Reply ε α) post fail w ↔ post value w := Iff.rfl

@[simp] theorem safe_throw {error : ε} :
    Safe step guard (MonadExcept.throw error : Interaction Op Reply ε α) post fail w ↔ fail error w := Iff.rfl

theorem safe_bind {rest : α → Interaction Op Reply ε β} {post : β → W → Prop} :
    Safe step guard (program >>= rest) post fail w ↔
      Safe step guard program (fun value w => Safe step guard (rest value) post fail w) fail w := by
  change Safe step guard (program.bind rest) post fail w ↔ _
  induction program generalizing w with
  | pure value => exact Iff.rfl
  | throw error => exact Iff.rfl
  | ask op next ih =>
      simp only [bind, Safe]
      exact and_congr_right fun _ => forall₃_congr fun reply w' _ => ih reply

theorem safe_tryCatch {handler : ε → Interaction Op Reply ε α} :
    Safe step guard (MonadExcept.tryCatch program handler) post fail w ↔
      Safe step guard program post
        (fun error w => Safe step guard (handler error) post fail w) w := by
  change Safe step guard (program.tryCatch handler) post fail w ↔ _
  induction program generalizing w with
  | pure value => exact Iff.rfl
  | throw error => exact Iff.rfl
  | ask op next ih =>
      simp only [tryCatch, Safe]
      exact and_congr_right fun _ => forall₃_congr fun reply w' _ => ih reply

theorem safe_result {post : Except ε α → W → Prop} :
    Safe step guard program.result post fail w ↔
      Safe step guard program (fun value => post (.ok value)) (fun error => post (.error error)) w := by
  induction program generalizing w with
  | pure value => exact Iff.rfl
  | throw error => exact Iff.rfl
  | ask op next ih =>
      simp only [result, Safe]
      exact and_congr_right fun _ => forall₃_congr fun reply w' _ => ih reply

theorem safe_ofExcept {result : Except ε α} :
    Safe step guard (ofExcept result) post fail w ↔
      (∀ value, result = .ok value → post value w) ∧
        ∀ error, result = .error error → fail error w := by
  cases result with
  | ok value => simp [ofExcept, Safe]
  | error error => simp [ofExcept, Safe]

theorem safe_perform {op : Op} {post : Reply op → W → Prop} :
    Safe step guard (perform op) post fail w ↔
      guard w op ∧ (∀ value w', step w op (.ok value) w' → post value w') ∧
        ∀ error w', step w op (.error error) w' → fail error w' := by
  simp only [perform, Safe, safe_ofExcept]
  refine and_congr_right fun _ => ⟨fun h => ⟨?_, ?_⟩, ?_⟩
  · intro value w' moved
    exact (h _ _ moved).1 value rfl
  · intro error w' moved
    exact (h _ _ moved).2 error rfl
  · rintro ⟨ended, failed⟩ reply w' moved
    refine ⟨?_, ?_⟩
    · rintro value rfl
      exact ended value w' moved
    · rintro error rfl
      exact failed error w' moved

theorem Safe.mono (safe : Safe step guard program post fail w)
    (ended : ∀ value w, post value w → post' value w)
    (failed : ∀ error w, fail error w → fail' error w) :
    Safe step guard program post' fail' w := by
  induction program generalizing w with
  | pure value => exact ended value w safe
  | throw error => exact failed error w safe
  | ask op next ih => exact ⟨safe.1, fun reply w' moved => ih reply (safe.2 reply w' moved)⟩

theorem Safe.and (first : Safe step guard program post fail w)
    (second : Safe step guard program post' fail' w) :
    Safe step guard program (fun value w => post value w ∧ post' value w)
      (fun error w => fail error w ∧ fail' error w) w := by
  induction program generalizing w with
  | pure value => exact ⟨first, second⟩
  | throw error => exact ⟨first, second⟩
  | ask op next ih =>
      refine ⟨first.1, fun reply w' moved => ?_⟩
      exact ih reply (first.2 reply w' moved) (second.2 reply w' moved)

/-- Two guards at once. -/
theorem Safe.both {guard' : W → Op → Prop} (first : Safe step guard program post fail w)
    (second : Safe step guard' program post' fail' w) :
    Safe step (fun w op => guard w op ∧ guard' w op) program (fun value w => post value w ∧ post' value w)
      (fun error w => fail error w ∧ fail' error w) w := by
  induction program generalizing w with
  | pure value => exact ⟨first, second⟩
  | throw error => exact ⟨first, second⟩
  | ask op next ih =>
      exact ⟨⟨first.1, second.1⟩, fun reply w' moved => ih reply (first.2 reply w' moved)
        (second.2 reply w' moved)⟩

/-- Run on every element, keeping an invariant of what is left to do. -/
theorem safe_each {f : β → Interaction Op Reply ε α} {inv : List β → W → Prop}
    (one : ∀ item rest w, inv (item :: rest) w → Safe step guard (f item) (fun _ => inv rest) fail w) :
    ∀ {items : List β} {w : W}, inv items w →
      Safe step guard (each f items) (fun _ => inv []) fail w
  | [], _, holds => holds
  | item :: rest, w, holds => by
      rw [each, safe_bind]
      refine (one item rest w holds).mono (fun value w' kept => ?_) fun _ _ failed => failed
      rw [safe_bind]
      exact (safe_each one kept).mono (fun _ _ done => done) fun _ _ failed => failed

/-- Run on every element, keeping an invariant. -/
theorem safe_each_keeps {f : β → Interaction Op Reply ε α} {inv : W → Prop}
    (one : ∀ item w, inv w → Safe step guard (f item) (fun _ => inv) fail w) (items : List β)
    (holds : inv w) : Safe step guard (each f items) (fun _ => inv) fail w := by
  have all : ∀ {items : List β} {w : W}, inv w →
      Safe step guard (each f items) (fun _ => (fun _ => inv) ([] : List β)) fail w :=
    safe_each fun item _ w holds => one item w holds
  exact all holds

/-! The rules in the direction a proof follows a program. -/

theorem Safe.bind {rest : α → Interaction Op Reply ε β} {post : β → W → Prop}
    {middle : α → W → Prop} (first : Safe step guard program middle fail w)
    (second : ∀ value w', middle value w' → Safe step guard (rest value) post fail w') :
    Safe step guard (program >>= rest) post fail w :=
  safe_bind.mpr (first.mono second fun _ _ failed => failed)

theorem Safe.result {middle : α → W → Prop} {failed : ε → W → Prop}
    {post : Except ε α → W → Prop} (first : Safe step guard program middle failed w)
    (ended : ∀ value w', middle value w' → post (.ok value) w')
    (threw : ∀ error w', failed error w' → post (.error error) w') :
    Safe step guard program.result post fail w :=
  safe_result.mpr (first.mono ended threw)

/-- A program that threw says nothing of its value. -/
theorem Safe.result_ok (first : Safe step guard program post (fun _ _ => True) w) :
    Safe step guard program.result
      (fun result w' => ∀ value, result = .ok value → post value w') fail w :=
  first.result (fun _ _ ended _ same => Except.ok.inj same ▸ ended) fun _ _ _ _ failed => nomatch failed

theorem Safe.tryCatch {handler : ε → Interaction Op Reply ε α} {failed : ε → W → Prop}
    (first : Safe step guard program post failed w)
    (second : ∀ error w', failed error w' → Safe step guard (handler error) post fail w') :
    Safe step guard (MonadExcept.tryCatch program handler) post fail w :=
  safe_tryCatch.mpr (first.mono (fun _ _ ended => ended) second)

/-- What guarded steps keep is kept beside whatever else is proved of a program,
also while it runs. -/
theorem Safe.keeps {kept : W → Prop} (safe : Safe step guard program post fail w)
    (keeps : ∀ w op reply w', guard w op → kept w → step w op reply w' → kept w') (holds : kept w) :
    Safe step (fun w op => guard w op ∧ kept w) program (fun value w' => post value w' ∧ kept w')
      (fun error w' => fail error w' ∧ kept w') w := by
  induction program generalizing w with
  | pure value => exact ⟨safe, holds⟩
  | throw error => exact ⟨safe, holds⟩
  | ask op next ih =>
      refine ⟨⟨safe.1, holds⟩, fun reply w' moved => ?_⟩
      exact ih reply (safe.2 reply w' moved) (keeps w op reply w' safe.1 holds moved)

/-- An invariant may be taken for granted on the way, where guarded steps keep
it. -/
theorem Safe.within {inv : W → Prop}
    (safe : Safe (fun w op reply w' => inv w ∧ step w op reply w' ∧ inv w') guard program post fail w)
    (keeps : ∀ w op reply w', guard w op → inv w → step w op reply w' → inv w') (holds : inv w) :
    Safe step (fun w op => guard w op ∧ inv w) program (fun value w' => post value w' ∧ inv w')
      (fun error w' => fail error w' ∧ inv w') w := by
  induction program generalizing w with
  | pure value => exact ⟨safe, holds⟩
  | throw error => exact ⟨safe, holds⟩
  | ask op next ih =>
      refine ⟨⟨safe.1, holds⟩, fun reply w' moved => ?_⟩
      have after := keeps w op reply w' safe.1 holds moved
      exact ih reply (safe.2 reply w' ⟨holds, moved, after⟩) after

theorem Safe.guard_mono {guard' : W → Op → Prop} (safe : Safe step guard program post fail w)
    (weaker : ∀ w op, guard w op → guard' w op) : Safe step guard' program post fail w := by
  induction program generalizing w with
  | pure value => exact safe
  | throw error => exact safe
  | ask op next ih =>
      exact ⟨weaker w op safe.1, fun reply w' moved => ih reply (safe.2 reply w' moved)⟩

/-- Fewer steps are safe where more were. -/
theorem Safe.step_mono {step' : W → (op : Op) → Except ε (Reply op) → W → Prop}
    (safe : Safe step guard program post fail w)
    (fewer : ∀ w op reply w', step' w op reply w' → step w op reply w') :
    Safe step' guard program post fail w := by
  induction program generalizing w with
  | pure value => exact safe
  | throw error => exact safe
  | ask op next ih =>
      exact ⟨safe.1, fun reply w' moved => ih reply (safe.2 reply w' (fewer _ _ _ _ moved))⟩

/-- Run on every element, for a value that each run tells something of. -/
theorem safe_each_values {f : β → Interaction Op Reply ε α} {good : β → α → W → Prop}
    (one : ∀ item w, Safe step guard (f item) (good item) fail w)
    (keeps : ∀ item value w op reply w', guard w op → good item value w → step w op reply w' →
      good item value w') :
    ∀ (items : List β) (w : W), Safe step guard (each f items)
      (fun values w' => List.Forall₂ (fun item value => good item value w') items values) fail w
  | [], _ => .nil
  | item :: rest, w => by
      refine Safe.bind (one item w) fun value w' told => ?_
      have later := Safe.keeps (safe_each_values one keeps rest w') (keeps item value) told
      refine Safe.bind ((later.guard_mono fun _ _ both => both.1).mono (fun _ _ both => both)
        fun _ _ both => both.1) fun values w'' both => ?_
      exact .cons both.2 both.1

/-- Run on every element, for a value that only the element decides. -/
theorem safe_each_forall₂ {f : β → Interaction Op Reply ε α} {good : β → α → Prop} {items : List β}
    (one : ∀ item ∈ items, ∀ w, Safe step guard (f item) (fun value _ => good item value) fail w) :
    Safe step guard (each f items) (fun values _ => List.Forall₂ good items values) fail w := by
  induction items generalizing w with
  | nil => exact .nil
  | cons item rest ih =>
      have later (other : β) (mem : other ∈ rest) (w : W) :
          Safe step guard (f other) (fun value _ => good other value) fail w :=
        one other (List.mem_cons_of_mem _ mem) w
      refine Safe.bind (one item List.mem_cons_self w) fun value w' told => ?_
      exact Safe.bind (ih later) fun values w'' all => .cons told all

/-- Run on every element, keeping an invariant of what is done and of what is
left. -/
theorem safe_each_done {f : β → Interaction Op Reply ε α} {inv : List (β × α) → List β → W → Prop}
    (one : ∀ done item rest w, inv done (item :: rest) w →
      Safe step guard (f item) (fun value => inv (done ++ [(item, value)]) rest) fail w) :
    ∀ {items : List β} {done : List (β × α)} {w : W}, inv done items w →
      Safe step guard (each f items)
        (fun values w' => ∃ told : List (β × α), told.map Prod.fst = items ∧
          told.map Prod.snd = values ∧ inv (done ++ told) [] w') fail w
  | [], done, w, holds => ⟨[], rfl, rfl, by rwa [List.append_nil]⟩
  | item :: rest, done, w, holds => by
      refine Safe.bind (one done item rest w holds) fun value w' kept => ?_
      refine Safe.bind (safe_each_done one kept) fun values w'' ended => ?_
      obtain ⟨told, rfl, rfl, kept⟩ := ended
      rw [List.append_assoc] at kept
      exact ⟨(item, value) :: told, rfl, rfl, kept⟩

/-! ### The operations a program uses -/

/-- Every operation the program may ask is one of `ops`. -/
def Uses (ops : Op → Prop) : Interaction Op Reply ε α → Prop
  | pure _ => True
  | throw _ => True
  | ask op next => ops op ∧ ∀ reply, (next reply).Uses ops

section Uses

variable {ops : Op → Prop}

@[simp] theorem uses_pure {value : α} :
    (Pure.pure value : Interaction Op Reply ε α).Uses ops := trivial

@[simp] theorem uses_throw {error : ε} :
    (MonadExcept.throw error : Interaction Op Reply ε α).Uses ops := trivial

@[simp] theorem uses_ofExcept {result : Except ε α} :
    (ofExcept result : Interaction Op Reply ε α).Uses ops := by
  cases result <;> trivial

@[simp] theorem uses_perform {op : Op} :
    (perform op : Interaction Op Reply ε (Reply op)).Uses ops ↔ ops op :=
  ⟨fun h => h.1, fun h => ⟨h, fun _ => uses_ofExcept⟩⟩

theorem uses_bind {rest : α → Interaction Op Reply ε β} (first : program.Uses ops)
    (second : ∀ value, (rest value).Uses ops) : (program >>= rest).Uses ops := by
  change (program.bind rest).Uses ops
  induction program with
  | pure value => exact second value
  | throw error => trivial
  | ask op next ih => exact ⟨first.1, fun reply => ih reply (first.2 reply)⟩

theorem uses_tryCatch {handler : ε → Interaction Op Reply ε α} (first : program.Uses ops)
    (second : ∀ error, (handler error).Uses ops) : (MonadExcept.tryCatch program handler).Uses ops := by
  change (program.tryCatch handler).Uses ops
  induction program with
  | pure value => trivial
  | throw error => exact second error
  | ask op next ih => exact ⟨first.1, fun reply => ih reply (first.2 reply)⟩

theorem uses_result (uses : program.Uses ops) : program.result.Uses ops := by
  induction program with
  | pure value => trivial
  | throw error => trivial
  | ask op next ih => exact ⟨uses.1, fun reply => ih reply (uses.2 reply)⟩

theorem uses_each {f : β → Interaction Op Reply ε α} (one : ∀ item, (f item).Uses ops) :
    ∀ items : List β, (each f items).Uses ops
  | [] => trivial
  | item :: rest => uses_bind (one item) fun _ => uses_bind (uses_each one rest) fun _ => trivial

/-- A guard that is stronger for the operations in use. -/
theorem Safe.guard_of_uses {guard' : W → Op → Prop} (safe : Safe step guard program post fail w)
    (uses : program.Uses ops) (asks : ∀ w op, ops op → guard w op → guard' w op) :
    Safe step guard' program post fail w := by
  induction program generalizing w with
  | pure value => exact safe
  | throw error => exact safe
  | ask op next ih =>
      exact ⟨asks w op uses.1 safe.1, fun reply w' moved => ih reply (safe.2 reply w' moved) (uses.2 reply)⟩

/-- The frame rule: what every operation in use keeps, the program keeps. -/
theorem Safe.of_uses {kept : W → Prop} (uses : program.Uses ops)
    (guarded : ∀ w op, ops op → kept w → guard w op)
    (keeps : ∀ w op reply w', ops op → kept w → step w op reply w' → kept w') (holds : kept w) :
    Safe step guard program (fun _ => kept) (fun _ => kept) w := by
  induction program generalizing w with
  | pure value => exact holds
  | throw error => exact holds
  | ask op next ih =>
      refine ⟨guarded w op uses.1 holds, fun reply w' moved => ?_⟩
      exact ih reply (uses.2 reply) (keeps w op reply w' uses.1 holds moved)

/-- What every operation keeps, every program keeps. -/
theorem Safe.of_keeps {kept : W → Prop}
    (keeps : ∀ w op reply w', kept w → step w op reply w' → kept w') (holds : kept w) :
    Safe step (fun w _ => kept w) program (fun _ => kept) (fun _ => kept) w := by
  induction program generalizing w with
  | pure value => exact holds
  | throw error => exact holds
  | ask op next ih => exact ⟨holds, fun reply w' moved => ih reply (keeps w op reply w' holds moved)⟩

end Uses

/-! ### Fixed surroundings -/

/-- Run a program whose operations are all answered by one function. -/
def runWith (answer : (op : Op) → Except ε (Reply op)) : Interaction Op Reply ε α → Except ε α
  | pure value => .ok value
  | throw error => .error error
  | ask op next => (next (answer op)).runWith answer

section RunWith

variable {answer : (op : Op) → Except ε (Reply op)}

@[simp] theorem runWith_pure (value : α) :
    (Pure.pure value : Interaction Op Reply ε α).runWith answer = .ok value := rfl

@[simp] theorem runWith_ofExcept (result : Except ε α) :
    (ofExcept result : Interaction Op Reply ε α).runWith answer = result := by
  cases result <;> rfl

@[simp] theorem runWith_perform (op : Op) :
    (perform op : Interaction Op Reply ε (Reply op)).runWith answer = answer op :=
  runWith_ofExcept _

@[simp] theorem runWith_bind (rest : α → Interaction Op Reply ε β) :
    (program >>= rest).runWith answer =
      program.runWith answer >>= fun value => (rest value).runWith answer := by
  change (program.bind rest).runWith answer = _
  induction program with
  | pure value => rfl
  | throw error => rfl
  | ask op next ih => exact ih (answer op)

theorem runWith_each {f : β → Interaction Op Reply ε α} {g : β → α} {items : List β}
    (one : ∀ item ∈ items, (f item).runWith answer = .ok (g item)) :
    (each f items).runWith answer = .ok (items.map g) := by
  induction items with
  | nil => rfl
  | cons item rest ih =>
      change (f item >>= fun value => each f rest >>= fun values =>
        Pure.pure (value :: values)).runWith answer = _
      rw [runWith_bind, one item List.mem_cons_self, ok_bind, runWith_bind,
        ih fun other mem => one other (List.mem_cons_of_mem _ mem)]
      rfl

@[simp] theorem runWith_result :
    (program.result : Interaction Op Reply ε (Except ε α)).runWith answer =
      .ok (program.runWith answer) := by
  induction program with
  | pure value => rfl
  | throw error => rfl
  | ask op next ih => exact ih (answer op)

end RunWith

/-- A run in fixed surroundings is one of the runs that a proof of safety speaks
of. -/
theorem Safe.runWith {answer : (op : Op) → Except ε (Reply op)}
    (safe : Safe step guard program post fail w)
    (answers : ∀ w op, ∃ w', step w op (answer op) w') :
    (∀ value, program.runWith answer = .ok value → ∃ w', post value w') ∧
      ∀ error, program.runWith answer = .error error → ∃ w', fail error w' := by
  induction program generalizing w with
  | pure value =>
      refine ⟨fun other same => ?_, fun _ same => (nomatch same)⟩
      cases same
      exact ⟨w, safe⟩
  | throw error =>
      refine ⟨fun _ same => (nomatch same), fun other same => ?_⟩
      cases same
      exact ⟨w, safe⟩
  | ask op next ih =>
      obtain ⟨w', moved⟩ := answers w op
      exact ih (answer op) (safe.2 _ w' moved)

/-- The value a program ended with. -/
def returned : Interaction Op Reply ε α → Option α
  | pure value => some value
  | _ => none

theorem returned_eq_some {value : α} : program.returned = some value ↔ program = pure value := by
  cases program <;> simp [returned]

/-- Answer up to `fuel` operations of a program, in surroundings that a function
describes, and stop where it does not answer. -/
def play (respond : W → (op : Op) → Option (Except ε (Reply op) × W)) :
    Nat → Interaction Op Reply ε α × W → Interaction Op Reply ε α × W
  | fuel + 1, (ask op next, w) =>
      match respond w op with
      | some (reply, w') => play respond fuel (next reply, w')
      | none => (ask op next, w)
  | _, config => config

/-- What is played is a run, while the function answers as the surroundings
may. -/
theorem steps_play {respond : W → (op : Op) → Option (Except ε (Reply op) × W)} {kept : W → Prop}
    (answers : ∀ w op reply w', kept w → respond w op = some (reply, w') →
      step w op reply w' ∧ kept w')
    (fuel : Nat) (config : Interaction Op Reply ε α × W) (holds : kept config.2) :
    Steps step config (play respond fuel config) ∧ kept (play respond fuel config).2 := by
  induction fuel generalizing config with
  | zero => exact ⟨.refl, holds⟩
  | succ fuel ih =>
      obtain ⟨program, w⟩ := config
      cases program with
      | pure value => exact ⟨.refl, holds⟩
      | throw error => exact ⟨.refl, holds⟩
      | ask op next =>
          cases answered : respond w op with
          | none =>
              simp only [play, answered]
              exact ⟨.refl, holds⟩
          | some answer =>
              obtain ⟨reply, w'⟩ := answer
              obtain ⟨moved, holds'⟩ := answers w op reply w' holds answered
              obtain ⟨later, kept'⟩ := ih (next reply, w') holds'
              simp only [play, answered]
              exact ⟨.head (.answered moved) later, kept'⟩

/-- The operation a program is about to ask. -/
def asked : Interaction Op Reply ε α → Option Op
  | ask op _ => some op
  | _ => none

theorem asked_eq_some {op : Op} : program.asked = some op ↔ ∃ next, program = ask op next := by
  cases program with
  | pure value => simp [asked]
  | throw error => simp [asked]
  | ask other next =>
      refine ⟨fun same => ?_, fun ⟨_, same⟩ => congrArg asked same⟩
      obtain rfl := Option.some.inj same
      exact ⟨next, rfl⟩

/-! ### Runs of parts -/

theorem Steps.bind {rest : α → Interaction Op Reply ε β} {value : α}
    (first : Steps step (program, w) (pure value, w')) :
    Steps step (program >>= rest, w) (rest value, w') := by
  let on (config : Interaction Op Reply ε α × W) := (config.1 >>= rest, config.2)
  refine Relation.ReflTransGen.lift on ?_ _ _ first
  rintro _ _ ⟨moved⟩
  exact .answered moved

/-- A run with fewer steps is a run with more. -/
theorem Steps.mono {step' : W → (op : Op) → Except ε (Reply op) → W → Prop}
    {config config' : Interaction Op Reply ε α × W} (ran : Steps step' config config')
    (more : ∀ w op reply w', step' w op reply w' → step w op reply w') : Steps step config config' := by
  refine Relation.ReflTransGen.mono ?_ _ _ ran
  rintro _ _ ⟨moved⟩
  exact .answered (more _ _ _ _ moved)

theorem Steps.result {value : α} (first : Steps step (program, w) (pure value, w')) :
    Steps step (program.result, w) (pure (.ok value), w') := by
  let on (config : Interaction Op Reply ε α × W) := (config.1.result, config.2)
  refine Relation.ReflTransGen.lift on ?_ _ _ first
  rintro _ _ ⟨moved⟩
  exact .answered moved

theorem Steps.perform {op : Op} {value : Reply op} (moved : step w op (.ok value) w') :
    Steps step (perform op, w) (pure value, w') :=
  .single (.answered moved)

/-! ### Histories -/

/-- A step that also writes down what `tells` says of it. -/
def recording {τ : Type} (step : W → (op : Op) → Except ε (Reply op) → W → Prop)
    (tells : (op : Op) → Except ε (Reply op) → List τ) :
    W × List τ → (op : Op) → Except ε (Reply op) → W × List τ → Prop :=
  fun w op reply w' => step w.1 op reply w'.1 ∧ w'.2 = w.2 ++ tells op reply

/-- Writing a history changes nothing else. -/
theorem Safe.recording {τ : Type} {tells : (op : Op) → Except ε (Reply op) → List τ}
    (safe : Safe step guard program post fail w) (history : List τ) :
    Safe (Interaction.recording step tells) (fun w op => guard w.1 op) program
      (fun value w => post value w.1) (fun error w => fail error w.1) (w, history) := by
  induction program generalizing w history with
  | pure value => exact safe
  | throw error => exact safe
  | ask op next ih =>
      refine ⟨safe.1, ?_⟩
      rintro reply ⟨w', history'⟩ ⟨moved, _⟩
      exact ih reply (safe.2 reply w' moved) history'

/-! ### Running one program after the other -/

/-- A safe program is safe on its way. -/
theorem Safe.steps {config : Interaction Op Reply ε α × W}
    (safe : Safe step guard program post fail w) (ran : Steps step (program, w) config) :
    Safe step guard config.1 post fail config.2 := by
  induction ran with
  | refl => exact safe
  | tail _ last ih =>
      cases last with
      | answered moved => exact ih.2 _ _ moved

/-- What a safe program returns with. -/
theorem Safe.returned {value : α} (safe : Safe step guard program post fail w)
    (ran : Steps step (program, w) (pure value, w')) : post value w' :=
  safe.steps ran

variable (step) in
/-- However a program is answered, it ends, and it does not throw. -/
structure Returns (program : Interaction Op Reply ε α) (w : W) : Prop where
  ends : Acc (fun later earlier => Step step earlier later) (program, w)
  returns : ∀ error w', ¬ Steps step (program, w) (throw error, w')

theorem acc_step (program : Interaction Op Reply ε α) (w : W) :
    Acc (fun later earlier => Step step earlier later) (program, w) := by
  induction program generalizing w with
  | pure value => exact ⟨_, fun _ moved => nomatch moved⟩
  | throw error => exact ⟨_, fun _ moved => nomatch moved⟩
  | ask op next ih =>
      refine ⟨_, fun later moved => ?_⟩
      cases moved with
      | answered => exact ih _ _

theorem Safe.returns (safe : Safe step guard program post (fun _ _ => False) w) :
    Returns step program w :=
  ⟨acc_step program w, fun _ _ ran => safe.steps ran⟩

/-! ### Surroundings that make no difference -/

section Fixed

variable {answer : (op : Op) → Except ε (Reply op)}

variable (step answer) in
/-- However the surroundings answer, the program ends as it does where `answer`
alone replies. -/
def Fixed (program : Interaction Op Reply ε α) (w : W) : Prop :=
  Safe step (fun _ _ => True) program (fun value _ => program.runWith answer = .ok value)
    (fun error _ => program.runWith answer = .error error) w

theorem fixed_pure {value : α} : Fixed step answer (Pure.pure value) w :=
  runWith_pure value

theorem fixed_throw {error : ε} :
    Fixed step answer (MonadExcept.throw error : Interaction Op Reply ε α) w := by
  unfold Fixed
  exact safe_throw.mpr rfl

theorem fixed_ofExcept {result : Except ε α} : Fixed step answer (ofExcept result) w := by
  unfold Fixed
  rw [runWith_ofExcept]
  exact safe_ofExcept.mpr ⟨fun _ same => same, fun _ same => same⟩

/-- An operation with one possible reply. -/
theorem fixed_perform {op : Op} (only : ∀ reply w', step w op reply w' → reply = answer op) :
    Fixed step answer (perform op) w := by
  unfold Fixed
  rw [runWith_perform]
  refine safe_perform.mpr ⟨trivial, fun value w' moved => ?_, fun error w' moved => ?_⟩
  · exact (only _ w' moved).symm
  · exact (only _ w' moved).symm

theorem Fixed.bind {rest : α → Interaction Op Reply ε β} (first : Fixed step answer program w)
    (second : ∀ value w', program.runWith answer = .ok value → Fixed step answer (rest value) w') :
    Fixed step answer (program >>= rest) w := by
  unfold Fixed
  rw [runWith_bind]
  refine safe_bind.mpr (first.mono (fun value w' ended => ?_) fun error w' threw => ?_)
  · rw [ended]
    exact second value w' ended
  · rw [threw]
    rfl

theorem fixed_each {f : β → Interaction Op Reply ε α} {items : List β}
    (one : ∀ item ∈ items, ∀ w, Fixed step answer (f item) w) :
    Fixed step answer (each f items) w := by
  induction items generalizing w with
  | nil => exact fixed_pure
  | cons item rest ih =>
      refine (one item List.mem_cons_self w).bind fun value w' _ => ?_
      refine (ih fun item mem => one item (List.mem_cons_of_mem _ mem)).bind fun values _ _ => ?_
      exact fixed_pure

theorem Fixed.outcome {outcome : Except ε α} (fixed : Fixed step answer program w)
    (ran : Steps step (program, w) (ofExcept outcome, w')) : outcome = program.runWith answer := by
  have ended := fixed.steps ran
  cases outcome with
  | ok value => exact ended.symm
  | error error => exact ended.symm

/-- A program that is always answered ends. -/
theorem exists_steps (answers : ∀ w op, ∃ reply w', step w op reply w')
    (program : Interaction Op Reply ε α) (w : W) :
    ∃ outcome w', Steps step (program, w) (ofExcept outcome, w') := by
  induction program generalizing w with
  | pure value => exact ⟨.ok value, w, .refl⟩
  | throw error => exact ⟨.error error, w, .refl⟩
  | ask op next ih =>
      obtain ⟨reply, w', moved⟩ := answers w op
      obtain ⟨outcome, last, later⟩ := ih reply w'
      exact ⟨outcome, last, .head (.answered moved) later⟩

/-- The same where an invariant is needed to be answered. -/
theorem exists_steps_kept {kept : W → Prop} (answers : ∀ w op, kept w → ∃ reply w', step w op reply w')
    (keeps : ∀ w op reply w', kept w → step w op reply w' → kept w')
    (program : Interaction Op Reply ε α) (w : W) (holds : kept w) :
    ∃ outcome w', Steps step (program, w) (ofExcept outcome, w') := by
  induction program generalizing w with
  | pure value => exact ⟨.ok value, w, .refl⟩
  | throw error => exact ⟨.error error, w, .refl⟩
  | ask op next ih =>
      obtain ⟨reply, w', moved⟩ := answers w op holds
      obtain ⟨outcome, last, later⟩ := ih reply w' (keeps w op reply w' holds moved)
      exact ⟨outcome, last, .head (.answered moved) later⟩

/-- Any two runs end in the same way. -/
theorem Fixed.existsUnique (fixed : Fixed step answer program w)
    (answers : ∀ w op, ∃ reply w', step w op reply w') :
    ∃! outcome, ∃ w', Steps step (program, w) (ofExcept outcome, w') := by
  obtain ⟨outcome, w', ran⟩ := exists_steps answers program w
  refine ⟨outcome, ⟨w', ran⟩, ?_⟩
  rintro other ⟨w'', ran'⟩
  rw [fixed.outcome ran, fixed.outcome ran']

end Fixed

section Reachable

variable {C : Type}

section Each

variable (steps : C → W → (op : Op) → Except ε (Reply op) → W → Prop)
  (command : C → Interaction Op Reply ε α) (outside : W → W → Prop) (start : W)

/-- The worlds reached by running commands one after the other, each with steps
of its own. A command may stop anywhere, as a process that is killed does;
`outside` may act between two commands. -/
inductive ReachableEach : W → Prop where
  | start : ReachableEach start
  | outside {w w' : W} (before : ReachableEach w) (acted : outside w w') : ReachableEach w'
  | command {w w' : W} (before : ReachableEach w) (c : C) (rest : Interaction Op Reply ε α)
      (ran : Steps (steps c) (command c, w) (rest, w')) : ReachableEach w'

/-- A command is about to ask `op` in a world on its way. -/
def AsksEach (c : C) (w : W) (op : Op) : Prop :=
  ∃ before next, ReachableEach steps command outside start before ∧
    Steps (steps c) (command c, before) (ask op next, w)

variable {steps command outside start} {guard : C → W → Op → Prop} {inv : W → Prop}

/-- What the commands and the outside keep holds in every world reached. -/
theorem ReachableEach.invariant (reached : ReachableEach steps command outside start w)
    (initial : inv start) (acts : ∀ w w', inv w → outside w w' → inv w')
    (guarded : ∀ c w op, guard c w op → inv w)
    (safe : ∀ c w, inv w → Safe (steps c) (guard c) (command c) (fun _ => inv) (fun _ => inv) w) :
    inv w := by
  induction reached with
  | start => exact initial
  | outside _ acted ih => exact acts _ _ ih acted
  | command _ c rest ran ih =>
      have on := (safe c _ ih).steps ran
      cases rest with
      | pure value => exact on
      | throw error => exact on
      | ask op next => exact guarded c _ op on.1

/-- Every operation a command asks finds its guard true. -/
theorem AsksEach.guarded {c : C} {op : Op} (asks : AsksEach steps command outside start c w op)
    (initial : inv start) (acts : ∀ w w', inv w → outside w w' → inv w')
    (guarded : ∀ c w op, guard c w op → inv w)
    (safe : ∀ c w, inv w → Safe (steps c) (guard c) (command c) (fun _ => inv) (fun _ => inv) w) :
    guard c w op := by
  obtain ⟨before, next, reached, ran⟩ := asks
  exact ((safe c before (reached.invariant initial acts guarded safe)).steps ran).1

end Each

variable (step) (command : C → Interaction Op Reply ε α) (outside : W → W → Prop)

variable (start : W)

/-- The worlds reached by running commands one after the other. A command may
stop anywhere, as a process that is killed does; `outside` may act between two
commands. -/
inductive Reachable : W → Prop where
  | start : Reachable start
  | outside {w w' : W} (before : Reachable w) (acted : outside w w') : Reachable w'
  | command {w w' : W} (before : Reachable w) (c : C) (rest : Interaction Op Reply ε α)
      (ran : Steps step (command c, w) (rest, w')) : Reachable w'

/-- A command is about to ask `op` in a world on its way. -/
def AboutTo (w : W) (op : Op) : Prop :=
  ∃ before c next, Reachable step command outside start before ∧
    Steps step (command c, before) (ask op next, w)

variable {step command outside start}

theorem Reachable.each (reached : Reachable step command outside start w) :
    ReachableEach (fun _ => step) command outside start w := by
  induction reached with
  | start => exact .start
  | outside _ acted ih => exact .outside ih acted
  | command _ c rest ran ih => exact .command ih c rest ran

/-- Fewer steps reach no more. -/
theorem ReachableEach.reachable {steps : C → W → (op : Op) → Except ε (Reply op) → W → Prop}
    (reached : ReachableEach steps command outside start w)
    (fewer : ∀ c w op reply w', steps c w op reply w' → step w op reply w') :
    Reachable step command outside start w := by
  induction reached with
  | start => exact .start
  | outside _ acted ih => exact .outside ih acted
  | command _ c rest ran ih => exact .command ih c rest (ran.mono (fewer c))

/-- What the commands and the outside keep holds in every world reached. -/
theorem Reachable.invariant {inv : W → Prop} (reached : Reachable step command outside start w)
    (initial : inv start) (acts : ∀ w w', inv w → outside w w' → inv w')
    (guarded : ∀ w op, guard w op → inv w)
    (safe : ∀ c w, inv w → Safe step guard (command c) (fun _ => inv) (fun _ => inv) w) : inv w :=
  reached.each.invariant initial acts (fun _ => guarded) safe

/-- Every operation a command asks finds its guard true. -/
theorem AboutTo.guarded {inv : W → Prop} {op : Op} (about : AboutTo step command outside start w op)
    (initial : inv start) (acts : ∀ w w', inv w → outside w w' → inv w')
    (guarded : ∀ w op, guard w op → inv w)
    (safe : ∀ c w, inv w → Safe step guard (command c) (fun _ => inv) (fun _ => inv) w) :
    guard w op := by
  obtain ⟨before, c, next, reached, ran⟩ := about
  exact ((safe c before (reached.invariant initial acts guarded safe)).steps ran).1

end Reachable

end Interaction

end Synxed.Lib
