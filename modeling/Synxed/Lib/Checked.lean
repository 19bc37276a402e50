import Synxed.Lib.Bytes

/-!
Code that may panic.

A program runs on a state and on cells, each with a borrow flag: any number of
readers, or one writer. It stops with an error it returns, with a call that
failed, or with a panic: out of range, an overflow, an `unwrap` of nothing, or a
borrow that another one excludes.

A model without cells and flags says what such a program computes:

* `Reads`: the program leaves the memory as it is, and its outcome is the model's.
* `Does`: it leaves the state the model leaves, and every flag as it is.

Both are proved statement by statement (`Reads.bind`, `Reads.before`, `Does.bind`).
A borrow asks for the flag of its cell (`reads_reading`, `does_writing`).
-/

namespace Synxed.Lib

variable {K S ε δ α β : Type}

/-! ### How code stops -/

inductive Panic where
  /-- A slice or an index out of range, or a copy between different lengths. -/
  | bounds
  /-- A result that does not fit its integer type. -/
  | overflow
  /-- An `unwrap` of nothing. -/
  | unwrap
  /-- A borrow of a cell that another borrow excludes. -/
  | borrowed
  deriving DecidableEq, Repr

inductive Stop (ε : Type) where
  | error (error : ε)
  /-- A call out of the code that failed. -/
  | call
  | panic (kind : Panic)
  deriving DecidableEq, Repr

def Stop.IsPanic : Stop ε → Prop
  | error _ => False
  | call => False
  | panic _ => True

theorem mapError_bind (stop : δ → ε) (x : Except δ α) (f : α → Except δ β) :
    (x >>= f).mapError stop = x.mapError stop >>= fun a => (f a).mapError stop := by
  cases x <;> rfl

theorem mapError_ensure (stop : δ → ε) (c : Prop) [Decidable c] (error : δ) :
    (ensure c error).mapError stop = ensure c (stop error) := by
  unfold ensure
  split <;> rfl

/-! ### Values that are checked -/

/-- `a + b` in an unsigned integer of `bits` bits. -/
def checkedAdd (bits a b : Nat) : Except (Stop ε) Nat :=
  if a + b < 2 ^ bits then .ok (a + b) else .error (.panic .overflow)

/-- `a * b` in an unsigned integer of `bits` bits. -/
def checkedMul (bits a b : Nat) : Except (Stop ε) Nat :=
  if a * b < 2 ^ bits then .ok (a * b) else .error (.panic .overflow)

/-- `xs[i]`. -/
def elementAt (xs : List α) (i : Nat) : Except (Stop ε) α :=
  match xs[i]? with
  | some x => .ok x
  | none => .error (.panic .bounds)

/-- `&xs[lo..hi]`. -/
def sliceOf (xs : List α) (lo hi : Nat) : Except (Stop ε) (List α) :=
  if lo ≤ hi ∧ hi ≤ xs.length then .ok ((xs.take hi).drop lo) else .error (.panic .bounds)

/-- `xs[i] = x`. -/
def assignAt (xs : List α) (i : Nat) (x : α) : Except (Stop ε) (List α) :=
  if i < xs.length then .ok (xs.set i x) else .error (.panic .bounds)

theorem checkedAdd_of_fits {bits a b : Nat} (fits : a + b < 2 ^ bits) :
    (checkedAdd bits a b : Except (Stop ε) Nat) = .ok (a + b) := if_pos fits

theorem checkedMul_of_fits {bits a b : Nat} (fits : a * b < 2 ^ bits) :
    (checkedMul bits a b : Except (Stop ε) Nat) = .ok (a * b) := if_pos fits

theorem sliceOf_of_inside {xs : List α} {lo hi : Nat} (order : lo ≤ hi) (inside : hi ≤ xs.length) :
    (sliceOf xs lo hi : Except (Stop ε) (List α)) = .ok ((xs.take hi).drop lo) :=
  if_pos ⟨order, inside⟩

theorem assignAt_of_inside {xs : List α} {i : Nat} {x : α} (inside : i < xs.length) :
    (assignAt xs i x : Except (Stop ε) (List α)) = .ok (xs.set i x) := if_pos inside

theorem elementAt_of_some {xs : List α} {i : Nat} {x : α} (there : xs[i]? = some x) :
    (elementAt xs i : Except (Stop ε) α) = .ok x := by
  rw [elementAt, there]

/-- What is written just after what is kept. -/
theorem take_set_succ {xs : List α} {i : Nat} (inside : i < xs.length) (x : α) :
    (xs.set i x).take (i + 1) = xs.take i ++ [x] := by
  rw [List.take_set, List.take_succ_eq_append_getElem inside]
  have length : (xs.take i).length = i := List.length_take_of_le inside.le
  rw [List.set_append_right _ _ length.le, length, Nat.sub_self]
  rfl

/-! ### Cells -/

/-- The borrow flag of a cell. -/
structure Borrow where
  readers : Nat
  writing : Bool
  deriving DecidableEq, Repr

namespace Borrow

def free : Borrow := ⟨0, false⟩

/-- One reader more. -/
def taken (flag : Borrow) : Borrow := { flag with readers := flag.readers + 1 }

/-- One reader less. -/
def freed (flag : Borrow) : Borrow := { flag with readers := flag.readers - 1 }

theorem freed_taken (flag : Borrow) : flag.taken.freed = flag := rfl

end Borrow

structure Memory (K S : Type) where
  state : S
  flags : K → Borrow

/-- A state of which nothing is borrowed. -/
def Memory.idle (state : S) : Memory K S := ⟨state, fun _ => .free⟩

section Mark

variable [DecidableEq K]

/-- Set the flag of a cell. -/
def Memory.mark (memory : Memory K S) (cell : K) (flag : Borrow) : Memory K S :=
  { memory with flags := Function.update memory.flags cell flag }

theorem Memory.flags_mark (memory : Memory K S) (cell : K) (flag : Borrow) :
    (memory.mark cell flag).flags cell = flag := Function.update_self ..

/-- What is marked and then marked back has its flags as they were. -/
theorem Memory.mark_mark (memory : Memory K S) (state : S) (cell : K) (flag : Borrow) :
    Memory.mark { memory.mark cell flag with state := state } cell (memory.flags cell) =
      { memory with state := state } := by
  simp [mark]

end Mark

abbrev Checked (K S ε : Type) : Type → Type := StateT (Memory K S) (Except (Stop ε))

namespace Checked

def ofOutcome (outcome : Except (Stop ε) α) : Checked K S ε α := fun memory =>
  outcome.map (·, memory)

def view (f : S → α) : Checked K S ε α := fun memory => .ok (f memory.state, memory)

def act (f : S → Except (Stop ε) S) : Checked K S ε Unit := fun memory =>
  (f memory.state).map fun next => ((), { memory with state := next })

/-! ### Programs and their models -/

section Models

variable (stop : δ → Stop ε)

/-- The program looks, and its outcome is this one. -/
def Reads (program : Checked K S ε α) (memory : Memory K S) (outcome : Except δ α) : Prop :=
  program memory = (outcome.mapError stop).map (·, memory)

/-- The program leaves the state of this outcome, and the flags as they are. -/
def Does (program : Checked K S ε Unit) (memory : Memory K S) (outcome : Except δ S) : Prop :=
  program memory = (outcome.mapError stop).map fun next => ((), { memory with state := next })

end Models

section Rules

variable {stop : δ → Stop ε} {memory : Memory K S}

theorem reads_pure {value : α} : Reads stop (pure value) memory (.ok value) := rfl

theorem reads_view {f : S → α} : Reads stop (view f) memory (.ok (f memory.state)) := rfl

theorem reads_ofOutcome {outcome : Except (Stop ε) α} {model : Except δ α}
    (same : outcome = model.mapError stop) : Reads stop (ofOutcome outcome) memory model := by
  rw [same]
  rfl

theorem does_pure : Does stop (pure ()) memory (.ok memory.state) := rfl

theorem does_act {f : S → Except (Stop ε) S} {model : Except δ S}
    (same : f memory.state = model.mapError stop) : Does stop (act f) memory model := by
  rw [Does, act, same]

theorem Reads.bind {program : Checked K S ε α} {next : α → Checked K S ε β} {outcome : Except δ α}
    {later : α → Except δ β} (first : Reads stop program memory outcome)
    (rest : ∀ value, outcome = .ok value → Reads stop (next value) memory (later value)) :
    Reads stop (program >>= next) memory (outcome >>= later) := by
  change (program memory >>= fun ended => next ended.1 ended.2) = _
  rw [first]
  cases outcome with
  | error error => rfl
  | ok value => exact rest value rfl

/-- Look, then do. -/
theorem Reads.before {program : Checked K S ε α} {next : α → Checked K S ε Unit}
    {outcome : Except δ α} {later : α → Except δ S} (first : Reads stop program memory outcome)
    (rest : ∀ value, outcome = .ok value → Does stop (next value) memory (later value)) :
    Does stop (program >>= next) memory (outcome >>= later) := by
  change (program memory >>= fun ended => next ended.1 ended.2) = _
  rw [first]
  cases outcome with
  | error error => rfl
  | ok value => exact rest value rfl

theorem Does.bind {program : Checked K S ε Unit} {next : Unit → Checked K S ε Unit}
    {outcome : Except δ S} {later : S → Except δ S} (first : Does stop program memory outcome)
    (rest : ∀ state, outcome = .ok state →
      Does stop (next ()) { memory with state := state } (later state)) :
    Does stop (program >>= next) memory (outcome >>= later) := by
  change (program memory >>= fun ended => next ended.1 ended.2) = _
  rw [first]
  cases outcome with
  | error error => rfl
  | ok state => exact rest state rfl

/-- A step that the model does not have: it only finds a value. -/
theorem Reads.skip {program : Checked K S ε α} {next : α → Checked K S ε β} {value : α}
    {outcome : Except δ β} (first : Reads stop program memory (.ok value))
    (rest : Reads stop (next value) memory outcome) :
    Reads stop (program >>= next) memory outcome := by
  have both : Reads stop (program >>= next) memory ((.ok value : Except δ α) >>= fun _ => outcome) :=
    first.bind fun _ same => by
      cases same
      exact rest
  exact both

theorem Reads.skipBefore {program : Checked K S ε α} {next : α → Checked K S ε Unit} {value : α}
    {outcome : Except δ S} (first : Reads stop program memory (.ok value))
    (rest : Does stop (next value) memory outcome) :
    Does stop (program >>= next) memory outcome := by
  have both : Does stop (program >>= next) memory ((.ok value : Except δ α) >>= fun _ => outcome) :=
    first.before fun _ same => by
      cases same
      exact rest
  exact both

/-- A step that leaves the state as it is. -/
theorem Does.skip {program : Checked K S ε Unit} {next : Unit → Checked K S ε Unit}
    {outcome : Except δ S} (first : Does stop program memory (.ok memory.state))
    (rest : Does stop (next ()) memory outcome) : Does stop (program >>= next) memory outcome := by
  have both : Does stop (program >>= next) memory
      ((.ok memory.state : Except δ S) >>= fun _ => outcome) :=
    first.bind fun _ same => by
      cases same
      exact rest
  exact both

end Rules

/-! ### Borrows -/

section Borrows

variable [DecidableEq K]

/-- A shared borrow: nobody may be writing. -/
def borrow (cell : K) : Checked K S ε Unit := fun memory =>
  if (memory.flags cell).writing then .error (.panic .borrowed)
  else .ok ((), memory.mark cell (memory.flags cell).taken)

def release (cell : K) : Checked K S ε Unit := fun memory =>
  .ok ((), memory.mark cell (memory.flags cell).freed)

/-- An exclusive borrow: nobody else may hold the cell. -/
def borrowMut (cell : K) : Checked K S ε Unit := fun memory =>
  if memory.flags cell = .free then .ok ((), memory.mark cell ⟨0, true⟩)
  else .error (.panic .borrowed)

def releaseMut (cell : K) : Checked K S ε Unit := fun memory =>
  .ok ((), memory.mark cell .free)

/-- `body` under a shared borrow of the cell. -/
def reading (cell : K) (body : Checked K S ε α) : Checked K S ε α := do
  borrow cell
  let value ← body
  release cell
  pure value

/-- `body` under an exclusive borrow of the cell. -/
def writing (cell : K) (body : Checked K S ε Unit) : Checked K S ε Unit := do
  borrowMut cell
  body
  releaseMut cell

variable {stop : δ → Stop ε} {memory : Memory K S} {cell : K}

/-- A cell that nobody writes may be read. -/
theorem reads_reading {body : Checked K S ε α} {outcome : Except δ α}
    (unwritten : ¬ (memory.flags cell).writing)
    (inside : Reads stop body (memory.mark cell (memory.flags cell).taken) outcome) :
    Reads stop (reading cell body) memory outcome := by
  have marked : (borrow cell : Checked K S ε Unit) memory =
      .ok ((), memory.mark cell (memory.flags cell).taken) := if_neg unwritten
  change ((borrow cell : Checked K S ε Unit) memory >>= fun held => body held.2 >>= fun ended =>
    (release cell : Checked K S ε Unit) ended.2 >>= fun freed => .ok (ended.1, freed.2)) = _
  rw [marked, ok_bind, inside]
  cases outcome with
  | error error => rfl
  | ok value =>
      have restored := memory.mark_mark memory.state cell (memory.flags cell).taken
      change Except.ok (value, Memory.mark _ cell (Borrow.freed _)) = Except.ok (value, memory)
      rw [Memory.flags_mark, Borrow.freed_taken]
      exact congrArg (fun memory => Except.ok (value, memory)) restored

/-- A cell that nobody holds may be written. -/
theorem does_writing {body : Checked K S ε Unit} {outcome : Except δ S}
    (free : memory.flags cell = .free)
    (inside : Does stop body (memory.mark cell ⟨0, true⟩) outcome) :
    Does stop (writing cell body) memory outcome := by
  have marked : (borrowMut cell : Checked K S ε Unit) memory = .ok ((), memory.mark cell ⟨0, true⟩) :=
    if_pos free
  change ((borrowMut cell : Checked K S ε Unit) memory >>= fun held => body held.2 >>= fun ended =>
    (releaseMut cell : Checked K S ε Unit) ended.2) = _
  rw [marked, ok_bind, inside]
  cases outcome with
  | error error => rfl
  | ok state =>
      have restored := memory.mark_mark state cell ⟨0, true⟩
      rw [free] at restored
      exact congrArg (fun memory => Except.ok ((), memory)) restored

end Borrows

end Checked

end Synxed.Lib
