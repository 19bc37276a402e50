import Mathlib.Logic.Function.Basic
import Synxed.Lib.Interaction

/-!
Programs that run at the same time, over one world.

A thread runs until it waits for an operation; then any thread may run. The
operation is answered at some moment while no thread runs, and its answer takes
time to arrive: others may run before it is computed and again before the thread
goes on. What the others may do meanwhile is told by a relation on worlds that
every guarded operation keeps to, so a thread is proved on its own:

* `Interferes`: an operation as one thread sees it, with what the others did
  while it waited and while its answer was on its way.
* `Together.moves`: when every command is `Safe` against this, what guarded
  operations keep holds in every world, and any two worlds of a run are related.
-/

namespace Synxed.Lib

open Interaction

variable {Op : Type} {Reply : Op → Type} {ε α ι W C : Type}

/-- The program is about to wait, or has ended. -/
def Interaction.Waits (waits : Op → Prop) : Interaction Op Reply ε α → Prop
  | .pure _ => True
  | .throw _ => True
  | .ask op _ => waits op

instance Interaction.decidableWaits {waits : Op → Prop} [DecidablePred waits]
    (program : Interaction Op Reply ε α) : Decidable (program.Waits waits) :=
  match program with
  | .pure _ => .isTrue trivial
  | .throw _ => .isTrue trivial
  | .ask op _ => inferInstanceAs (Decidable (waits op))

variable (Op Reply ε α ι W) in
structure Threads where
  /-- What each thread has left to do; an idle one has nothing. -/
  program : ι → Option (Interaction Op Reply ε α)
  world : W
  /-- The thread that runs; any other one waits, or its answer is on its way. -/
  running : Option ι

namespace Threads

variable [DecidableEq ι] (waits : Op → Prop) (step : W → (op : Op) → Except ε (Reply op) → W → Prop)
  (command : C → Interaction Op Reply ε α) (outside : W → W → Prop)

/-- One move of a run: a thread that is idle starts a command, the running thread
does an operation at once or waits for one, an operation that was waited for is
answered, a thread goes on with its answer, a thread ends or is killed, or
something else happens while no thread runs. -/
inductive Move : Threads Op Reply ε α ι W → Threads Op Reply ε α ι W → Prop where
  | starts {t : Threads Op Reply ε α ι W} (i : ι) (c : C) (free : t.running = none)
      (idle : t.program i = none) :
      Move t { t with program := Function.update t.program i (some (command c)), running := some i }
  | answered {t : Threads Op Reply ε α ι W} {i : ι} {op : Op}
      {next : Except ε (Reply op) → Interaction Op Reply ε α} {reply : Except ε (Reply op)} {w' : W}
      (turn : t.running = some i) (asks : t.program i = some (.ask op next)) (atOnce : ¬ waits op)
      (moved : step t.world op reply w') :
      Move t ⟨Function.update t.program i (some (next reply)), w', some i⟩
  | waits {t : Threads Op Reply ε α ι W} {i : ι} {program : Interaction Op Reply ε α}
      (turn : t.running = some i) (left : t.program i = some program)
      (atWait : program.Waits waits) : Move t { t with running := none }
  | replied {t : Threads Op Reply ε α ι W} {i : ι} {op : Op}
      {next : Except ε (Reply op) → Interaction Op Reply ε α} {reply : Except ε (Reply op)} {w' : W}
      (free : t.running = none) (asks : t.program i = some (.ask op next)) (waited : waits op)
      (moved : step t.world op reply w') :
      Move t ⟨Function.update t.program i (some (next reply)), w', none⟩
  | arrives {t : Threads Op Reply ε α ι W} {i : ι} {program : Interaction Op Reply ε α}
      (free : t.running = none) (left : t.program i = some program) :
      Move t { t with running := some i }
  | stops {t : Threads Op Reply ε α ι W} (i : ι) (turn : t.running = none ∨ t.running = some i) :
      Move t { t with program := Function.update t.program i none, running := none }
  | outside {t : Threads Op Reply ε α ι W} {w' : W} (free : t.running = none)
      (acted : outside t.world w') : Move t { t with world := w' }

/-- A run. -/
abbrev Moves : Threads Op Reply ε α ι W → Threads Op Reply ε α ι W → Prop :=
  Relation.ReflTransGen (Move waits step command outside)

end Threads

namespace Threads

variable [DecidableEq ι] {waits : Op → Prop}
  {step : W → (op : Op) → Except ε (Reply op) → W → Prop}
  {command : C → Interaction Op Reply ε α} {outside : W → W → Prop}

/-- The running thread may do its next operation, whether it waits for it or not. -/
theorem Moves.of_step {programs : ι → Option (Interaction Op Reply ε α)} {i : ι} {op : Op}
    {next : Except ε (Reply op) → Interaction Op Reply ε α} {reply : Except ε (Reply op)} {w w' : W}
    (moved : step w op reply w') :
    Moves waits step command outside ⟨Function.update programs i (some (.ask op next)), w, some i⟩
      ⟨Function.update programs i (some (next reply)), w', some i⟩ := by
  have asks : Function.update programs i (some (.ask op next)) i = some (.ask op next) :=
    Function.update_self i _ programs
  by_cases waited : waits op
  · have replied : Move waits step command outside
        ⟨Function.update programs i (some (.ask op next)), w, none⟩ ⟨_, w', none⟩ :=
      .replied rfl asks waited moved
    rw [Function.update_idem] at replied
    have arrives : Move waits step command outside
        ⟨Function.update programs i (some (next reply)), w', none⟩ ⟨_, w', some i⟩ :=
      .arrives rfl (Function.update_self i _ programs)
    exact .head (.waits rfl asks waited) (.head replied (.single arrives))
  · have answered : Move waits step command outside
        ⟨Function.update programs i (some (.ask op next)), w, some i⟩ ⟨_, w', some i⟩ :=
      .answered rfl asks waited moved
    rw [Function.update_idem] at answered
    exact .single answered

/-- A thread whose turn it is may run on its own. -/
theorem Moves.of_steps {t : Threads Op Reply ε α ι W} {i : ι} {program : Interaction Op Reply ε α}
    {config : Interaction Op Reply ε α × W} (turn : t.running = some i)
    (left : t.program i = some program) (ran : Interaction.Steps step (program, t.world) config) :
    Moves waits step command outside t
      ⟨Function.update t.program i (some config.1), config.2, some i⟩ := by
  induction ran with
  | refl =>
      have same : Function.update t.program i (some program) = t.program := by
        rw [← left, Function.update_eq_self]
      rw [same, ← turn]
  | tail _ last ih =>
      cases last with
      | answered moved => exact ih.trans (Moves.of_step moved)

/-- An idle thread starts a command and runs it up to a wait. -/
theorem Moves.started {t : Threads Op Reply ε α ι W} (i : ι) (c : C) (free : t.running = none)
    (idle : t.program i = none) {config : Interaction Op Reply ε α × W}
    (ran : Interaction.Steps step (command c, t.world) config) (atWait : config.1.Waits waits) :
    Moves waits step command outside t
      ⟨Function.update t.program i (some config.1), config.2, none⟩ := by
  have on : Moves waits step command outside
      ⟨Function.update t.program i (some (command c)), t.world, some i⟩
      ⟨Function.update (Function.update t.program i (some (command c))) i (some config.1), config.2,
        some i⟩ :=
    .of_steps rfl (Function.update_self i _ t.program) ran
  rw [Function.update_idem] at on
  exact (Relation.ReflTransGen.head (.starts i c free idle) on).tail
    (.waits rfl (Function.update_self i _ t.program) atWait)

/-- A run in narrower surroundings is a run. -/
theorem Moves.mono {step' : W → (op : Op) → Except ε (Reply op) → W → Prop}
    {t t' : Threads Op Reply ε α ι W} (run : Moves waits step command outside t t')
    (wider : ∀ w op reply w', step w op reply w' → step' w op reply w') :
    Moves waits step' command outside t t' := by
  refine Relation.ReflTransGen.mono (fun t t' moved => ?_) t t' run
  cases moved with
  | starts i c free idle => exact .starts i c free idle
  | answered turn asks atOnce moved => exact .answered turn asks atOnce (wider _ _ _ _ moved)
  | waits turn left atWait => exact .waits turn left atWait
  | replied free asks waited moved => exact .replied free asks waited (wider _ _ _ _ moved)
  | arrives free left => exact .arrives free left
  | stops i turn => exact .stops i turn
  | outside free acted => exact .outside free acted

end Threads

/-! ### One thread among others -/

/-- What the others did around an operation: nothing, unless it is waited for. -/
def Meanwhile (waits : Op → Prop) (inv : W → Prop) (onward : W → W → Prop) (op : Op) (w w' : W) :
    Prop :=
  onward w w' ∧ inv w' ∧ (¬ waits op → w' = w)

/-- An operation as one thread sees it: the others acted before it, and again
while its answer was on its way. -/
def Interferes (waits : Op → Prop) (step : W → (op : Op) → Except ε (Reply op) → W → Prop)
    (inv : W → Prop) (onward : W → W → Prop) (w : W) (op : Op) (reply : Except ε (Reply op))
    (w' : W) : Prop :=
  ∃ before after, Meanwhile waits inv onward op w before ∧ step before op reply after ∧
    onward before after ∧ inv after ∧ Meanwhile waits inv onward op after w'

section Together

variable (waits : Op → Prop) (step : W → (op : Op) → Except ε (Reply op) → W → Prop)
  (command : C → Interaction Op Reply ε α) (outside : W → W → Prop)
  (inv : W → Prop) (onward : W → W → Prop) (guard : W → Op → Prop)

/-- Commands that run well beside each other. -/
structure Together : Prop where
  refl : ∀ w, onward w w
  trans : ∀ w w' w'', onward w w' → onward w' w'' → onward w w''
  /-- Every guarded operation keeps the invariant, and to what others expect. -/
  keeps : ∀ w op reply w', inv w → guard w op → step w op reply w' → inv w' ∧ onward w w'
  acts : ∀ w w', inv w → outside w w' → inv w' ∧ onward w w'
  /-- A guard is still true after a wait. -/
  stable : ∀ w w' op, waits op → guard w op → onward w w' → inv w' → guard w' op
  safe : ∀ c w, inv w → Safe (Interferes waits step inv onward) guard (command c)
    (fun _ _ => True) (fun _ _ => True) w

/-- What holds of threads throughout a run. -/
structure Together.Kept (t : Threads Op Reply ε α ι W) : Prop where
  holds : inv t.world
  /-- The thread that runs is safe as things are, any other one in whatever the
  others make of them until it goes on. -/
  safe : ∀ i program, t.program i = some program → ∀ w, onward t.world w → inv w →
    (t.running = some i → w = t.world) →
      Safe (Interferes waits step inv onward) guard program (fun _ _ => True) (fun _ _ => True) w

variable {waits step command outside inv onward guard}

namespace Together

variable (together : Together waits step command outside inv onward guard)
  {t t' : Threads Op Reply ε α ι W}

include together

/-- A thread is safe as things are. -/
theorem now (kept : Kept waits step inv onward guard t) {i : ι}
    {program : Interaction Op Reply ε α} (left : t.program i = some program) :
    Safe (Interferes waits step inv onward) guard program (fun _ _ => True) (fun _ _ => True)
      t.world :=
  kept.safe i program left t.world (together.refl _) kept.holds fun _ => rfl

/-- A thread that waits is still safe after what the others did. -/
theorem interfered {program : Interaction Op Reply ε α} {w w' : W} (atWait : program.Waits waits)
    (safe : Safe (Interferes waits step inv onward) guard program (fun _ _ => True)
      (fun _ _ => True) w) (did : onward w w') (holds : inv w') :
    Safe (Interferes waits step inv onward) guard program (fun _ _ => True) (fun _ _ => True) w' := by
  cases program with
  | pure value => trivial
  | throw error => trivial
  | ask op next =>
      refine ⟨together.stable w w' op atWait safe.1 did holds, ?_⟩
      rintro reply w'' ⟨before, after, ⟨meanwhile, kept, _⟩, rest⟩
      exact safe.2 reply w'' ⟨before, after,
        ⟨together.trans _ _ _ did meanwhile, kept, fun atOnce => absurd atWait atOnce⟩, rest⟩

/-- An operation is answered: its thread is safe with the answer, when it goes on. -/
theorem replied (kept : Kept waits step inv onward guard t) {i : ι} {op : Op}
    {next : Except ε (Reply op) → Interaction Op Reply ε α} {reply : Except ε (Reply op)} {w' : W}
    (asks : t.program i = some (.ask op next)) (moved : step t.world op reply w') :
    inv w' ∧ onward t.world w' ∧ ∀ w, onward w' w → inv w → (¬ waits op → w = w') →
      Safe (Interferes waits step inv onward) guard (next reply) (fun _ _ => True)
        (fun _ _ => True) w := by
  obtain ⟨guarded, next⟩ := together.now kept asks
  obtain ⟨holds, did⟩ := together.keeps _ op reply w' kept.holds guarded moved
  refine ⟨holds, did, fun w later holds' atOnce => ?_⟩
  exact next reply w ⟨t.world, w', ⟨together.refl _, kept.holds, fun _ => rfl⟩, moved, did, holds,
    later, holds', atOnce⟩

variable [DecidableEq ι]

theorem move (kept : Kept waits step inv onward guard t)
    (moved : Threads.Move waits step command outside t t') :
    Kept waits step inv onward guard t' ∧ onward t.world t'.world := by
  have split {programs : ι → Option (Interaction Op Reply ε α)} {i j : ι}
      {new : Option (Interaction Op Reply ε α)} {program : Interaction Op Reply ε α}
      (left : Function.update programs i new j = some program) :
      j = i ∧ new = some program ∨ j ≠ i ∧ programs j = some program := by
    rcases eq_or_ne j i with rfl | other
    · exact .inl ⟨rfl, by rwa [Function.update_self] at left⟩
    · exact .inr ⟨other, by rwa [Function.update_of_ne other] at left⟩
  -- a thread that does not run is safe in every later world, so also after a move of another
  have rests {j : ι} {program : Interaction Op Reply ε α} (left : t.program j = some program)
      (off : t.running ≠ some j) {w : W} (did : onward t.world w) (holds : inv w) :
      Safe (Interferes waits step inv onward) guard program (fun _ _ => True) (fun _ _ => True) w :=
    kept.safe j program left w did holds fun on => absurd on off
  have free_ne (free : t.running = none) (j : ι) : t.running ≠ some j := by simp [free]
  have turn_ne {i : ι} (turn : t.running = some i) {j : ι} (other : j ≠ i) : t.running ≠ some j := by
    simp [turn, other.symm]
  cases moved with
  | starts i c free idle =>
      refine ⟨⟨kept.holds, fun j program left w did holds now => ?_⟩, together.refl _⟩
      rcases split left with ⟨_, same⟩ | ⟨_, left⟩
      · exact Option.some.inj same ▸ together.safe c w holds
      · exact rests left (free_ne free j) did holds
  | @answered i op next reply w' turn asks atOnce step =>
      obtain ⟨holds, did, goesOn⟩ := together.replied kept asks step
      refine ⟨⟨holds, fun j program left w later holds' now => ?_⟩, did⟩
      rcases split left with ⟨rfl, same⟩ | ⟨other, left⟩
      · exact Option.some.inj same ▸ goesOn w later holds' fun _ => now rfl
      · exact rests left (turn_ne turn other) (together.trans _ _ _ did later) holds'
  | @waits i program turn left atWait =>
      refine ⟨⟨kept.holds, fun j program' left' w did holds _ => ?_⟩, together.refl _⟩
      rcases eq_or_ne j i with rfl | other
      · obtain rfl : program = program' := Option.some.inj (left.symm.trans left')
        exact together.interfered atWait (together.now kept left) did holds
      · exact rests left' (turn_ne turn other) did holds
  | @replied i op next reply w' free asks waited step =>
      obtain ⟨holds, did, goesOn⟩ := together.replied kept asks step
      refine ⟨⟨holds, fun j program left w later holds' _ => ?_⟩, did⟩
      rcases split left with ⟨_, same⟩ | ⟨_, left⟩
      · exact Option.some.inj same ▸ goesOn w later holds' fun atOnce => absurd waited atOnce
      · exact rests left (free_ne free j) (together.trans _ _ _ did later) holds'
  | arrives free left =>
      refine ⟨⟨kept.holds, fun j program left' w did holds _ => ?_⟩, together.refl _⟩
      exact rests left' (free_ne free j) did holds
  | stops i turn =>
      refine ⟨⟨kept.holds, fun j program left w did holds _ => ?_⟩, together.refl _⟩
      rcases split left with ⟨_, none⟩ | ⟨other, left⟩
      · cases none
      · refine rests left ?_ did holds
        rcases turn with free | turn
        · exact free_ne free j
        · exact turn_ne turn other
  | @outside w' free acted =>
      obtain ⟨holds, did⟩ := together.acts _ w' kept.holds acted
      refine ⟨⟨holds, fun j program left w later holds' _ => ?_⟩, did⟩
      exact rests left (free_ne free j) (together.trans _ _ _ did later) holds'

/-- What guarded operations keep holds throughout a run. -/
theorem moves (kept : Kept waits step inv onward guard t)
    (run : Threads.Moves waits step command outside t t') :
    Kept waits step inv onward guard t' ∧ onward t.world t'.world := by
  induction run with
  | refl => exact ⟨kept, together.refl _⟩
  | tail _ last ih =>
      obtain ⟨kept', did⟩ := together.move ih.1 last
      exact ⟨kept', together.trans _ _ _ ih.2 did⟩

end Together

end Together

end Synxed.Lib
