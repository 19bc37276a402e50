import Mathlib.Tactic
import Mathlib.Algebra.Order.Floor.Div

/-!
Dividing a whole into proportional parts with integer arithmetic.

Every part but the last is a floor, and the last takes what is left. The floors
of the earlier parts never use more than the whole (`sum_floors_le`), so
nothing is lost and nothing is created (`sum_splitFrom`), and what the last
part gets beyond its own floor is less than the number of parts
(`total_lt_sum_floors`).
-/

namespace Synxed.Lib

/-- Divide `total` among `parts` of `denominator`, with `allocated` already
given out: floors first, the remainder to the last part. -/
def splitFrom (total denominator : Nat) : Nat → List Nat → List Nat
  | _, [] => []
  | allocated, [_] => [total - allocated]
  | allocated, part :: next :: rest =>
      total * part / denominator ::
        splitFrom total denominator (allocated + total * part / denominator) (next :: rest)

@[simp] theorem length_splitFrom (total denominator allocated : Nat) (parts : List Nat) :
    (splitFrom total denominator allocated parts).length = parts.length := by
  induction parts generalizing allocated with
  | nil => rfl
  | cons part rest ih =>
      cases rest with
      | nil => rfl
      | cons next rest => simp [splitFrom, ih]

/-- The floors of several parts are at most the floor of their sum. -/
theorem sum_floors_le (total denominator : Nat) (parts : List Nat) :
    (parts.map fun part => total * part / denominator).sum ≤ total * parts.sum / denominator := by
  induction parts with
  | nil => simp
  | cons part rest ih =>
      simp only [List.map_cons, List.sum_cons]
      calc total * part / denominator + (rest.map fun part => total * part / denominator).sum
          ≤ total * part / denominator + total * rest.sum / denominator := Nat.add_le_add_left ih _
        _ ≤ (total * part + total * rest.sum) / denominator := Nat.div_add_div_le_add_div
        _ = total * (part + rest.sum) / denominator := by rw [Nat.mul_add]

/-- Parts that sum to at most the denominator never use more than the total. -/
theorem sum_floors_le_total (total : Nat) {denominator : Nat} {parts : List Nat}
    (within : parts.sum ≤ denominator) :
    (parts.map fun part => total * part / denominator).sum ≤ total := by
  refine (sum_floors_le total denominator parts).trans ?_
  rcases Nat.eq_zero_or_pos denominator with zero | positive
  · simp [zero]
  · exact Nat.div_le_of_le_mul (by rw [Nat.mul_comm denominator]; exact Nat.mul_le_mul_left _ within)

/-- What a split pays and what was allocated before it make up the total. -/
theorem sum_splitFrom {total denominator : Nat} : ∀ {allocated : Nat} {parts : List Nat},
    parts ≠ [] →
    allocated + (parts.map fun part => total * part / denominator).sum ≤ total →
    allocated + (splitFrom total denominator allocated parts).sum = total
  | _, [], nonempty, _ => absurd rfl nonempty
  | allocated, [part], _, room => by
      have allocatedLe : allocated ≤ total := (Nat.le_add_right _ _).trans room
      simp only [splitFrom, List.sum_cons, List.sum_nil]
      omega
  | allocated, part :: next :: rest, _, room => by
      simp only [splitFrom, List.sum_cons]
      rw [← Nat.add_assoc]
      refine sum_splitFrom (List.cons_ne_nil _ _) ?_
      rwa [List.map_cons, List.sum_cons, ← Nat.add_assoc] at room

/-- The floors of parts of the whole lose less than one unit each. -/
theorem total_lt_sum_floors (total : Nat) {denominator : Nat} {parts : List Nat}
    (whole : parts.sum = denominator) (positive : 0 < denominator) :
    total < (parts.map fun part => total * part / denominator).sum + parts.length := by
  have loss (parts : List Nat) : total * parts.sum + parts.length ≤
      denominator * ((parts.map fun part => total * part / denominator).sum + parts.length) := by
    induction parts with
    | nil => simp
    | cons part rest ih =>
        have here : total * part + 1 ≤ denominator * (total * part / denominator + 1) :=
          Nat.lt_mul_div_succ _ positive
        simp only [List.map_cons, List.sum_cons, List.length_cons]
        calc total * (part + rest.sum) + (rest.length + 1)
            = (total * part + 1) + (total * rest.sum + rest.length) := by ring
          _ ≤ _ := Nat.add_le_add here ih
          _ = _ := by ring
  have nonempty : 0 < parts.length := by
    rw [List.length_pos_iff]
    rintro rfl
    exact positive.ne whole
  have bound := loss parts
  rw [whole, Nat.mul_comm total] at bound
  exact Nat.lt_of_mul_lt_mul_left ((Nat.lt_add_of_pos_right nonempty).trans_le bound)

/-- A split pays every part but the last its floor. -/
theorem splitFrom_append (total denominator allocated : Nat) (front : List Nat) (last : Nat) :
    splitFrom total denominator allocated (front ++ [last]) =
      (front.map fun part => total * part / denominator) ++
        [total - (allocated + (front.map fun part => total * part / denominator).sum)] := by
  induction front generalizing allocated with
  | nil => rfl
  | cons part rest ih =>
      obtain ⟨next, tail, more⟩ := List.exists_cons_of_ne_nil (l := rest ++ [last]) (by simp)
      rw [List.cons_append, more, splitFrom, ← more, ih]
      simp only [List.map_cons, List.sum_cons, List.cons_append, Nat.add_assoc]

end Synxed.Lib
