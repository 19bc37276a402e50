import Mathlib.Tactic

/-!
Checked computations in `Except`.

`ensure` is the early return of a validator (`if !condition { return Err(e) }`),
and the lemmas here turn the success of a chain of checks into the facts the
checks established. Every inversion lemma of the development starts from
`bind_eq_ok` and `ensure_eq_ok`.
-/

namespace Synxed.Lib

variable {ε α β : Type}

/-- Go on when `condition` holds, stop with `error` otherwise. -/
def ensure (condition : Prop) [Decidable condition] (error : ε) : Except ε Unit :=
  if condition then .ok () else .error error

theorem bind_eq_ok {x : Except ε α} {f : α → Except ε β} {b : β} :
    (x >>= f) = .ok b ↔ ∃ a, x = .ok a ∧ f a = .ok b := by
  cases x with
  | error e => simp [bind, Except.bind]
  | ok a => simp [bind, Except.bind]

theorem bind_eq_error {x : Except ε α} {f : α → Except ε β} {e : ε} :
    (x >>= f) = .error e ↔ x = .error e ∨ ∃ a, x = .ok a ∧ f a = .error e := by
  cases x with
  | error e => simp [bind, Except.bind]
  | ok a => simp [bind, Except.bind]

@[simp] theorem ok_bind {a : α} {f : α → Except ε β} : ((Except.ok a : Except ε α) >>= f) = f a := rfl

@[simp] theorem error_bind {e : ε} {f : α → Except ε β} :
    ((Except.error e : Except ε α) >>= f) = .error e := rfl

@[simp] theorem ensure_eq_ok {c : Prop} [Decidable c] {e : ε} {u : Unit} :
    ensure c e = .ok u ↔ c := by
  unfold ensure
  split <;> simp_all

@[simp] theorem ensure_eq_error {c : Prop} [Decidable c] {e e' : ε} :
    ensure c e = .error e' ↔ ¬ c ∧ e = e' := by
  unfold ensure
  split <;> simp_all

/-- A passed check disappears from the chain it starts. -/
theorem ensure_bind_of_pos {c : Prop} [Decidable c] {e : ε} {f : Unit → Except ε β} (h : c) :
    (ensure c e >>= f) = f () := by
  simp [ensure, h]

/-- A failed check ends the chain it starts. -/
theorem ensure_bind_of_neg {c : Prop} [Decidable c] {e : ε} {f : Unit → Except ε β} (h : ¬ c) :
    (ensure c e >>= f) = .error e := by
  simp [ensure, h]

/-- A chain that starts with a check succeeds when the check holds and the
rest succeeds. -/
theorem ensure_bind_eq_ok {c : Prop} [Decidable c] {e : ε} {f : Unit → Except ε β} {b : β} :
    (ensure c e >>= f) = .ok b ↔ c ∧ f () = .ok b := by
  rw [bind_eq_ok]
  constructor
  · rintro ⟨u, passed, rest⟩
    exact ⟨ensure_eq_ok.mp passed, rest⟩
  · rintro ⟨passed, rest⟩
    exact ⟨(), ensure_eq_ok.mpr passed, rest⟩

@[simp] theorem ensure_true {e : ε} : ensure True e = .ok () := rfl

/-- The value of a computation that succeeds. -/
theorem eq_ok_of_isOk {x : Except ε α} (fallback : α) (succeeds : x.isOk) :
    x = .ok (x.toOption.getD fallback) := by
  cases x with
  | error e => cases succeeds
  | ok a => rfl

theorem exists_ok_of_isOk {x : Except ε α} (succeeds : x.isOk) : ∃ a, x = .ok a := by
  cases x with
  | error e => cases succeeds
  | ok a => exact ⟨a, rfl⟩

theorem eq_error_of_map {x : Except ε α} {e : ε} (fails : x.map (fun _ => ()) = .error e) :
    x = .error e := by
  cases x with
  | error e' =>
      cases fails
      rfl
  | ok a => cases fails

end Synxed.Lib
