import Mathlib.Logic.Function.Basic
import Synxed.Lib.Interaction

/-!
Programs that run at the same time over one world, each holding something of its
own.

Any thread may take its next operation at any time. What a thread holds follows
from the answers it got (`after`); while it holds `g` the others do no more to the
world than `spares g` allows, so a thread is proved on its own:

* `Holds`: an operation as one thread sees it, with what the others did before.
* `Apart.moves`: when every command is `Safe` against this, its guards hold at every
  operation any thread is about to ask, and the invariant in every world.
-/

namespace Synxed.Lib

open Interaction

variable {Op : Type} {Reply : Op → Type} {ε α ι W C G : Type}

variable (Op Reply ε α ι W G) in
structure Holders where
  /-- What each thread has left to do; an idle one has nothing. -/
  program : ι → Option (Interaction Op Reply ε α)
  held : ι → G
  world : W

namespace Holders

variable [DecidableEq ι] (step : W → (op : Op) → Except ε (Reply op) → W → Prop)
  (command : C → Interaction Op Reply ε α) (outside : W → W → Prop) (free : G)
  (after : G → (op : Op) → Except ε (Reply op) → G) (may : (ι → G) → ι → Op → Prop)

/-- One move of a run: an idle thread starts a command, an operation that may be
asked is answered, a thread ends or is killed, or something else happens. -/
inductive Move : Holders Op Reply ε α ι W G → Holders Op Reply ε α ι W G → Prop where
  | starts {t : Holders Op Reply ε α ι W G} (i : ι) (c : C) (idle : t.program i = none) :
      Move t ⟨Function.update t.program i (some (command c)), Function.update t.held i free, t.world⟩
  | answered {t : Holders Op Reply ε α ι W G} {i : ι} {op : Op}
      {next : Except ε (Reply op) → Interaction Op Reply ε α} {reply : Except ε (Reply op)} {w' : W}
      (asks : t.program i = some (.ask op next)) (allowed : may t.held i op)
      (moved : step t.world op reply w') :
      Move t ⟨Function.update t.program i (some (next reply)),
        Function.update t.held i (after (t.held i) op reply), w'⟩
  | stops {t : Holders Op Reply ε α ι W G} (i : ι) :
      Move t ⟨Function.update t.program i none, Function.update t.held i free, t.world⟩
  | outside {t : Holders Op Reply ε α ι W G} {w' : W} (acted : outside t.world w') :
      Move t { t with world := w' }

/-- A run. -/
abbrev Moves : Holders Op Reply ε α ι W G → Holders Op Reply ε α ι W G → Prop :=
  Relation.ReflTransGen (Move step command outside free after may)

variable {step command outside free after may}

/-- A run goes on by one thread alone, as long as it asks what it may. -/
theorem Moves.goOn_of {s t : Holders Op Reply ε α ι W G} (ops : Op → Prop)
    (before : Moves step command outside free after may s t) {i : ι}
    {program : Interaction Op Reply ε α} {config : Interaction Op Reply ε α × W}
    (left : t.program i = some program)
    (allowed : ∀ g op, ops op → may (Function.update t.held i g) i op)
    (ran : Steps (fun w op reply w' => ops op ∧ step w op reply w') (program, t.world) config) : ∃ g,
    Moves step command outside free after may s
      ⟨Function.update t.program i (some config.1), Function.update t.held i g, config.2⟩ := by
  induction ran with
  | refl =>
      refine ⟨t.held i, ?_⟩
      rw [← left, Function.update_eq_self, Function.update_eq_self]
      exact before
  | tail _ last ih =>
      obtain ⟨g, before⟩ := ih
      cases last with
      | @answered op next reply w w' moved =>
          obtain ⟨one, moved⟩ := moved
          have answered : Move step command outside free after may
              ⟨Function.update t.program i (some (.ask op next)), Function.update t.held i g, w⟩
              ⟨_, _, w'⟩ :=
            .answered (Function.update_self i _ t.program) (allowed g op one) moved
          rw [Function.update_idem, Function.update_idem] at answered
          exact ⟨_, before.tail answered⟩

theorem Moves.goOn {s t : Holders Op Reply ε α ι W G}
    (before : Moves step command outside free after may s t) {i : ι}
    {program : Interaction Op Reply ε α} {config : Interaction Op Reply ε α × W}
    (left : t.program i = some program) (allowed : ∀ g op, may (Function.update t.held i g) i op)
    (ran : Steps step (program, t.world) config) : ∃ g,
    Moves step command outside free after may s
      ⟨Function.update t.program i (some config.1), Function.update t.held i g, config.2⟩ :=
  before.goOn_of (fun _ => True) left (fun g op _ => allowed g op)
    (ran.mono fun _ _ _ _ moved => ⟨trivial, moved⟩)

end Holders

/-! ### One thread among others -/

/-- An operation as a thread sees it that holds something: the others spared it. -/
def Holds (step : W → (op : Op) → Except ε (Reply op) → W → Prop)
    (after : G → (op : Op) → Except ε (Reply op) → G) (spares : G → W → W → Prop)
    (at_ : W × G) (op : Op) (reply : Except ε (Reply op)) (at' : W × G) : Prop :=
  ∃ middle, spares at_.2 at_.1 middle ∧ step middle op reply at'.1 ∧ at'.2 = after at_.2 op reply

section Apart

variable [DecidableEq ι] (step : W → (op : Op) → Except ε (Reply op) → W → Prop)
  (command : C → Interaction Op Reply ε α) (outside : W → W → Prop) (free : G)
  (after : G → (op : Op) → Except ε (Reply op) → G) (may : (ι → G) → ι → Op → Prop)
  (spares : G → W → W → Prop) (inv : (ι → G) → W → Prop) (guard : W × G → Op → Prop)

/-- Commands that leave alone what others hold. -/
structure Apart : Prop where
  refl : ∀ g w, spares g w w
  trans : ∀ g w w' w'', spares g w w' → spares g w' w'' → spares g w w''
  /-- A guard is still true after what the others did. -/
  stable : ∀ g w w' op, guard (w, g) op → spares g w w' → guard (w', g) op
  keeps : ∀ held i w op reply w', inv held w → guard (w, held i) op → may held i op →
    step w op reply w' → inv (Function.update held i (after (held i) op reply)) w' ∧
      ∀ j, j ≠ i → spares (held j) w w'
  stops : ∀ held i w, inv held w → inv (Function.update held i free) w
  acts : ∀ held w w', inv held w → outside w w' → inv held w' ∧ ∀ i, spares (held i) w w'
  safe : ∀ c w, Safe (Holds step after spares) guard (command c) (fun _ _ => True)
    (fun _ _ => True) (w, free)

/-- What holds of threads throughout a run. -/
structure Apart.Kept (t : Holders Op Reply ε α ι W G) : Prop where
  holds : inv t.held t.world
  safe : ∀ i program, t.program i = some program →
    Safe (Holds step after spares) guard program (fun _ _ => True) (fun _ _ => True)
      (t.world, t.held i)

variable {step command outside free after may spares inv guard}

omit [DecidableEq ι] in
/-- What a thread is about to ask finds its guard true. -/
theorem Apart.Kept.guarded {t : Holders Op Reply ε α ι W G}
    (kept : Apart.Kept step after spares inv guard t) {i : ι} {op : Op}
    {next : Except ε (Reply op) → Interaction Op Reply ε α} (asks : t.program i = some (.ask op next)) :
    guard (t.world, t.held i) op := (kept.safe i _ asks).1

namespace Apart

variable (apart : Apart step command outside free after may spares inv guard)
  {t t' : Holders Op Reply ε α ι W G}

include apart

/-- A thread is still safe after what the others did. -/
theorem spared {program : Interaction Op Reply ε α} {g : G} {w w' : W}
    (safe : Safe (Holds step after spares) guard program (fun _ _ => True) (fun _ _ => True) (w, g))
    (did : spares g w w') :
    Safe (Holds step after spares) guard program (fun _ _ => True) (fun _ _ => True) (w', g) := by
  cases program with
  | pure value => trivial
  | throw error => trivial
  | ask op next =>
      refine ⟨apart.stable g w w' op safe.1 did, ?_⟩
      rintro reply at' ⟨middle, meanwhile, rest⟩
      exact safe.2 reply at' ⟨middle, apart.trans g w w' middle did meanwhile, rest⟩

theorem move (kept : Kept step after spares inv guard t)
    (moved : Holders.Move step command outside free after may t t') :
    Kept step after spares inv guard t' := by
  have split {programs : ι → Option (Interaction Op Reply ε α)} {i j : ι}
      {new : Option (Interaction Op Reply ε α)} {program : Interaction Op Reply ε α}
      (left : Function.update programs i new j = some program) :
      j = i ∧ new = some program ∨ j ≠ i ∧ programs j = some program := by
    rcases eq_or_ne j i with rfl | other
    · exact .inl ⟨rfl, by rwa [Function.update_self] at left⟩
    · exact .inr ⟨other, by rwa [Function.update_of_ne other] at left⟩
  cases moved with
  | starts i c idle =>
      refine ⟨apart.stops t.held i t.world kept.holds, fun j program left => ?_⟩
      rcases split left with ⟨rfl, same⟩ | ⟨other, left⟩
      · dsimp only
        rw [← Option.some.inj same, Function.update_self]
        exact apart.safe c t.world
      · dsimp only
        rw [Function.update_of_ne other]
        exact kept.safe j program left
  | @answered i op next reply w' asks allowed step =>
      obtain ⟨guarded, next⟩ := kept.safe i _ asks
      obtain ⟨holds, did⟩ := apart.keeps t.held i t.world op reply w' kept.holds guarded allowed step
      refine ⟨holds, fun j program left => ?_⟩
      rcases split left with ⟨rfl, same⟩ | ⟨other, left⟩
      · dsimp only
        rw [← Option.some.inj same, Function.update_self]
        exact next reply (w', _) ⟨t.world, apart.refl _ _, step, rfl⟩
      · dsimp only
        rw [Function.update_of_ne other]
        exact apart.spared (kept.safe j program left) (did j other)
  | stops i =>
      refine ⟨apart.stops t.held i t.world kept.holds, fun j program left => ?_⟩
      rcases split left with ⟨_, none⟩ | ⟨other, left⟩
      · cases none
      · dsimp only
        rw [Function.update_of_ne other]
        exact kept.safe j program left
  | @outside w' acted =>
      obtain ⟨holds, did⟩ := apart.acts t.held t.world w' kept.holds acted
      exact ⟨holds, fun j program left => apart.spared (kept.safe j program left) (did j)⟩

/-- What is kept by every move is kept throughout a run. -/
theorem moves (kept : Kept step after spares inv guard t)
    (run : Holders.Moves step command outside free after may t t') :
    Kept step after spares inv guard t' := by
  induction run with
  | refl => exact kept
  | tail _ last ih => exact apart.move ih last

end Apart

end Apart

end Synxed.Lib
