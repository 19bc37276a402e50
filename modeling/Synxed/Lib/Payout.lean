import Mathlib.Tactic
import Mathlib.Algebra.BigOperators.Group.Finset.Piecewise

/-!
Payouts out of one account.

`Paid source payouts before after` relates the balances before and after
`source` made a list of payouts, to any accounts: the same one twice, or the
source itself. Payouts compose (`Paid.append`), leave everything else alone
(`Paid.eq_of_not_mem`) and neither create nor destroy anything
(`Paid.sum_eq`).
-/

namespace Synxed.Lib

variable {K : Type}

/-- What a list of payouts costs. -/
def totalPaid (payouts : List (K × Nat)) : Nat := (payouts.map Prod.snd).sum

theorem totalPaid_append (first second : List (K × Nat)) :
    totalPaid (first ++ second) = totalPaid first + totalPaid second := by
  simp [totalPaid]

/-- What bounds every sum of balances bounds every balance. -/
theorem le_of_sum_le {balances : K → Nat} {bound : Nat}
    (total : ∀ s : Finset K, ∑ k ∈ s, balances k ≤ bound) (k : K) : balances k ≤ bound := by
  simpa using total {k}

variable [DecidableEq K]

/-- What a list of payouts brings the account `k`. -/
def paidTo (payouts : List (K × Nat)) (k : K) : Nat :=
  ((payouts.filter fun payout => payout.1 = k).map Prod.snd).sum

@[simp] theorem paidTo_nil (k : K) : paidTo [] k = 0 := rfl

theorem paidTo_cons (payout : K × Nat) (rest : List (K × Nat)) (k : K) :
    paidTo (payout :: rest) k = (if payout.1 = k then payout.2 else 0) + paidTo rest k := by
  by_cases here : payout.1 = k
  · simp [paidTo, here]
  · simp [paidTo, here]

theorem paidTo_append (first second : List (K × Nat)) (k : K) :
    paidTo (first ++ second) k = paidTo first k + paidTo second k := by
  simp [paidTo]

theorem paidTo_eq_zero {payouts : List (K × Nat)} {k : K} (h : ∀ payout ∈ payouts, payout.1 ≠ k) :
    paidTo payouts k = 0 := by
  rw [paidTo, List.filter_eq_nil_iff.mpr fun payout mem => by simpa using h payout mem]
  rfl

/-- The payouts to the accounts of a set that has all of them are all payouts. -/
theorem sum_paidTo {payouts : List (K × Nat)} {s : Finset K}
    (inside : ∀ payout ∈ payouts, payout.1 ∈ s) :
    ∑ k ∈ s, paidTo payouts k = totalPaid payouts := by
  induction payouts with
  | nil => simp [totalPaid]
  | cons payout rest ih =>
      have here : payout.1 ∈ s := inside payout (by simp)
      have later := ih fun payout mem => inside payout (by simp [mem])
      simp only [paidTo_cons, Finset.sum_add_distrib, later, Finset.sum_ite_eq, here, if_true]
      rfl

/-- `source` made the payouts, and nothing else changed a balance. -/
def Paid (source : K) (payouts : List (K × Nat)) (before after : K → Nat) : Prop :=
  ∀ k, after k + (if k = source then totalPaid payouts else 0) = before k + paidTo payouts k

namespace Paid

variable {source : K} {payouts payouts' : List (K × Nat)} {before middle after : K → Nat}

theorem nil : Paid source [] before before := by
  intro k
  simp [totalPaid]

/-- A payout of nothing. -/
theorem zero (k : K) : Paid source [(k, 0)] before before := by
  intro k'
  simp [paidTo_cons, totalPaid]

/-- Payouts one after the other. -/
theorem append (first : Paid source payouts before middle)
    (second : Paid source payouts' middle after) :
    Paid source (payouts ++ payouts') before after := by
  intro k
  have one := first k
  have two := second k
  rw [paidTo_append, totalPaid_append]
  split_ifs at one two ⊢ <;> omega

/-- An account that neither pays nor is paid keeps its balance. -/
theorem eq_of_not_mem (paid : Paid source payouts before after) {k : K} (notSource : k ≠ source)
    (unpaid : ∀ payout ∈ payouts, payout.1 ≠ k) : after k = before k := by
  have balance := paid k
  rwa [if_neg notSource, paidTo_eq_zero unpaid] at balance

/-- Nothing is created and nothing is lost. -/
theorem sum_eq (paid : Paid source payouts before after) {s : Finset K} (hasSource : source ∈ s)
    (inside : ∀ payout ∈ payouts, payout.1 ∈ s) : ∑ k ∈ s, after k = ∑ k ∈ s, before k := by
  have balances : ∑ k ∈ s, (after k + if k = source then totalPaid payouts else 0) =
      ∑ k ∈ s, (before k + paidTo payouts k) := Finset.sum_congr rfl fun k _ => paid k
  rw [Finset.sum_add_distrib, Finset.sum_add_distrib, sum_paidTo inside, Finset.sum_ite_eq',
    if_pos hasSource] at balances
  exact Nat.add_right_cancel balances

/-- No set of accounts ever holds more than all accounts did. -/
theorem bounded (paid : Paid source payouts before after) {bound : Nat}
    (total : ∀ s : Finset K, ∑ k ∈ s, before k ≤ bound) (s : Finset K) :
    ∑ k ∈ s, after k ≤ bound := by
  set everyone := insert source (s ∪ (payouts.map Prod.fst).toFinset) with hEveryone
  calc ∑ k ∈ s, after k ≤ ∑ k ∈ everyone, after k :=
        Finset.sum_le_sum_of_subset fun k mem =>
          Finset.mem_insert_of_mem (Finset.mem_union_left _ mem)
    _ = ∑ k ∈ everyone, before k :=
        paid.sum_eq (Finset.mem_insert_self _ _) fun payout mem =>
          Finset.mem_insert_of_mem (Finset.mem_union_right _
            (List.mem_toFinset.mpr (List.mem_map_of_mem mem)))
    _ ≤ bound := total everyone

end Paid

end Synxed.Lib
