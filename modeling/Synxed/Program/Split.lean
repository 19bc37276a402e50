import Synxed.Lib.Outcome
import Synxed.Lib.Proportion

/-!
The on-chain split math (`split.rs`).

`splitShares` is the program's function, with its 64-bit amounts, its 128-bit
product, the truncating cast and the two saturating or checked operations.
`splitShares_eq_ok` says what it computes: the proportional split of
`Synxed.Lib.splitFrom`, in which none of the guarded operations ever engages.
-/

namespace Synxed.Program

open Synxed.Lib

def bpsDenominator : Nat := 10000

/-- Upper bound on shares per settlement. -/
def maxShares : Nat := 8

inductive SplitError where
  | bpsSumNotDenominator
  | bpsOutOfRange
  | zeroAmount
  | shareCount
  deriving DecidableEq, Repr

def SplitError.message : SplitError → String
  | .bpsSumNotDenominator => "split basis points must sum to 10000"
  | .bpsOutOfRange => "each share bps must be in 0..=10000"
  | .zeroAmount => "amount must be greater than zero"
  | .shareCount => "share count must be in 1..=8"

/-! ### Machine arithmetic -/

def u64Max : Nat := 2 ^ 64 - 1

def u128Max : Nat := 2 ^ 128 - 1

/-- `u128::saturating_mul`. -/
def saturatingMul128 (a b : Nat) : Nat := min (a * b) u128Max

/-- `u64::saturating_add`. -/
def saturatingAdd64 (a b : UInt64) : UInt64 := UInt64.ofNat (min (a.toNat + b.toNat) u64Max)

/-- `u64::checked_sub`. -/
def checkedSub64 (a b : UInt64) : Option UInt64 := if b ≤ a then some (a - b) else none

theorem toNat_le_u64Max (a : UInt64) : a.toNat ≤ u64Max := Nat.le_pred_of_lt a.toNat_lt

/-- The product of a 64-bit amount and a 16-bit share never saturates. -/
theorem saturatingMul128_eq (amount : UInt64) (share : UInt16) :
    saturatingMul128 amount.toNat share.toNat = amount.toNat * share.toNat := by
  refine Nat.min_eq_left ?_
  have amountLt := amount.toNat_lt
  have shareLt := share.toNat_lt
  calc amount.toNat * share.toNat ≤ 2 ^ 64 * 2 ^ 16 :=
        Nat.mul_le_mul amountLt.le shareLt.le
    _ ≤ u128Max := by decide

theorem saturatingAdd64_toNat {a b : UInt64} (room : a.toNat + b.toNat ≤ u64Max) :
    (saturatingAdd64 a b).toNat = a.toNat + b.toNat := by
  have small : a.toNat + b.toNat < 2 ^ 64 := Nat.lt_of_le_of_lt room (by decide)
  simp only [saturatingAdd64, Nat.min_eq_left room]
  simpa using Nat.mod_eq_of_lt small

/-! ### The split -/

/-- The validation loop: every share in range, and their sum. The sum is a
`u32` of at most eight values of at most 10000, so it never wraps. -/
def sumBps : Nat → List UInt16 → Except SplitError Nat
  | sum, [] => .ok sum
  | sum, share :: rest => do
      ensure (share.toNat ≤ bpsDenominator) .bpsOutOfRange
      sumBps (sum + share.toNat) rest

/-- The payout loop, with the amount allocated so far. -/
def splitLoop (amount : UInt64) : UInt64 → List UInt16 → Except SplitError (List UInt64)
  | _, [] => .ok []
  | allocated, [_] =>
      match checkedSub64 amount allocated with
      | none => .error .zeroAmount
      | some last => .ok [last]
  | allocated, share :: next :: rest => do
      -- `part as u64` keeps the low 64 bits
      let out := UInt64.ofNat (saturatingMul128 amount.toNat share.toNat / bpsDenominator)
      let tail ← splitLoop amount (saturatingAdd64 allocated out) (next :: rest)
      .ok (out :: tail)

/-- `split_shares`: validate and split `amount` across the shares, into an
output slice of `outLength` entries. -/
def splitShares (amount : UInt64) (bps : List UInt16) (outLength : Nat) :
    Except SplitError (List UInt64) := do
  ensure (bps.length ≠ 0 ∧ bps.length ≤ maxShares ∧ outLength = bps.length) .shareCount
  ensure (amount ≠ 0) .zeroAmount
  let sum ← sumBps 0 bps
  ensure (sum = bpsDenominator) .bpsSumNotDenominator
  splitLoop amount 0 bps

/-! ### What the split computes -/

theorem sumBps_eq_ok {sum total : Nat} {bps : List UInt16} :
    sumBps sum bps = .ok total ↔
      (∀ share ∈ bps, share.toNat ≤ bpsDenominator) ∧ sum + (bps.map UInt16.toNat).sum = total := by
  induction bps generalizing sum with
  | nil => simp [sumBps]
  | cons share rest ih =>
      rw [sumBps, ensure_bind_eq_ok, ih]
      simp only [List.mem_cons, forall_eq_or_imp, List.map_cons, List.sum_cons, Nat.add_assoc]
      tauto

/-- The payout loop computes the proportional split: while the floors still
fit in the amount, no cast truncates, no sum saturates and the last
subtraction succeeds. -/
theorem splitLoop_eq (amount : UInt64) : ∀ (allocated : UInt64) (bps : List UInt16),
    allocated.toNat + ((bps.map UInt16.toNat).map fun part =>
        amount.toNat * part / bpsDenominator).sum ≤ amount.toNat →
    ∃ out, splitLoop amount allocated bps = .ok out ∧
      out.map UInt64.toNat =
        splitFrom amount.toNat bpsDenominator allocated.toNat (bps.map UInt16.toNat)
  | _, [], _ => ⟨[], rfl, rfl⟩
  | allocated, [share], room => by
      have enough : allocated ≤ amount := by
        rw [UInt64.le_iff_toNat_le]
        omega
      refine ⟨[amount - allocated], by simp [splitLoop, checkedSub64, enough], ?_⟩
      simp [splitFrom, UInt64.toNat_sub_of_le _ _ enough]
  | allocated, share :: next :: rest, room => by
      have amountLt := amount.toNat_lt
      set part := amount.toNat * share.toNat / bpsDenominator with hpart
      rw [List.map_cons, List.map_cons, List.sum_cons] at room
      have partLe : part ≤ amount.toNat := by omega
      have cast : (UInt64.ofNat part).toNat = part := by
        simpa using Nat.mod_eq_of_lt (show part < 2 ^ 64 by omega)
      have noSaturation : (saturatingAdd64 allocated (UInt64.ofNat part)).toNat =
          allocated.toNat + part := by
        rw [saturatingAdd64_toNat, cast]
        rw [cast]
        have := toNat_le_u64Max amount
        omega
      obtain ⟨tail, tailOk, tailEq⟩ :=
        splitLoop_eq amount (saturatingAdd64 allocated (UInt64.ofNat part)) (next :: rest)
          (by rw [noSaturation]; omega)
      refine ⟨UInt64.ofNat part :: tail, ?_, ?_⟩
      · rw [splitLoop, saturatingMul128_eq, ← hpart, tailOk]
        rfl
      · rw [List.map_cons, cast, tailEq, noSaturation]
        rfl

/-- The conditions `split_shares` checks, in one place. -/
structure ValidSplit (amount : UInt64) (bps : List UInt16) : Prop where
  count : bps.length ≠ 0 ∧ bps.length ≤ maxShares
  positive : amount ≠ 0
  inRange : ∀ share ∈ bps, share.toNat ≤ bpsDenominator
  sum : (bps.map UInt16.toNat).sum = bpsDenominator

/-- The payouts a valid split makes. -/
def payoutsOf (amount : UInt64) (bps : List UInt16) : List Nat :=
  splitFrom amount.toNat bpsDenominator 0 (bps.map UInt16.toNat)

/-- `split_shares` succeeds exactly on valid splits into a slice of the right
length, and then computes the proportional payouts. -/
theorem splitShares_eq_ok {amount : UInt64} {bps : List UInt16} {outLength : Nat}
    {out : List UInt64} :
    splitShares amount bps outLength = .ok out ↔
      ValidSplit amount bps ∧ outLength = bps.length ∧
        out.map UInt64.toNat = payoutsOf amount bps := by
  have within (sum : (bps.map UInt16.toNat).sum = bpsDenominator) :
      ((0 : UInt64).toNat + ((bps.map UInt16.toNat).map fun part =>
        amount.toNat * part / bpsDenominator).sum) ≤ amount.toNat := by
    rw [UInt64.toNat_zero, Nat.zero_add]
    exact sum_floors_le_total _ sum.le
  unfold splitShares
  simp only [ensure_bind_eq_ok, bind_eq_ok (x := sumBps 0 bps), sumBps_eq_ok, Nat.zero_add]
  constructor
  · rintro ⟨⟨nonzero, small, length⟩, positive, _, ⟨inRange, rfl⟩, sum, loop⟩
    obtain ⟨out', outOk, outEq⟩ := splitLoop_eq _ _ _ (within sum)
    rw [loop] at outOk
    cases outOk
    exact ⟨⟨⟨nonzero, small⟩, positive, inRange, sum⟩, length, outEq⟩
  · rintro ⟨⟨⟨nonzero, small⟩, positive, inRange, sum⟩, length, outEq⟩
    refine ⟨⟨nonzero, small, length⟩, positive, _, ⟨inRange, rfl⟩, sum, ?_⟩
    obtain ⟨out', outOk, outEq'⟩ := splitLoop_eq _ _ _ (within sum)
    rw [outOk, (List.map_injective_iff.mpr fun a b => UInt64.toNat_inj.mp) (outEq.trans outEq'.symm)]

/-- A valid split has payouts. -/
theorem ValidSplit.exists_payouts {amount : UInt64} {bps : List UInt16}
    (valid : ValidSplit amount bps) :
    ∃ out : List UInt64, out.map UInt64.toNat = payoutsOf amount bps := by
  have within : (0 : UInt64).toNat + ((bps.map UInt16.toNat).map fun part =>
      amount.toNat * part / bpsDenominator).sum ≤ amount.toNat := by
    rw [UInt64.toNat_zero, Nat.zero_add]
    exact sum_floors_le_total _ valid.sum.le
  obtain ⟨out, _, values⟩ := splitLoop_eq amount 0 bps within
  exact ⟨out, values⟩

/-- The payouts of a valid split sum to the amount. -/
theorem sum_payoutsOf {amount : UInt64} {bps : List UInt16} (valid : ValidSplit amount bps) :
    (payoutsOf amount bps).sum = amount.toNat := by
  have nonempty : bps.map UInt16.toNat ≠ [] := by
    intro empty
    exact valid.count.1 (by simpa using congrArg List.length empty)
  have whole : 0 + (splitFrom amount.toNat bpsDenominator 0 (bps.map UInt16.toNat)).sum =
      amount.toNat := sum_splitFrom nonempty (by rw [Nat.zero_add]; exact sum_floors_le_total _ valid.sum.le)
  rwa [Nat.zero_add] at whole

@[simp] theorem length_payoutsOf (amount : UInt64) (bps : List UInt16) :
    (payoutsOf amount bps).length = bps.length := by
  simp [payoutsOf]

/-! ### The loop, share by share -/

/-- What the loop writes for a share that is not the last. -/
def floorPayout (amount : UInt64) (share : UInt16) : UInt64 :=
  UInt64.ofNat (saturatingMul128 amount.toNat share.toNat / bpsDenominator)

/-- `allocated` after the loop went through `front`. -/
def allocatedAfter (amount allocated : UInt64) (front : List UInt16) : UInt64 :=
  front.foldl (fun allocated share => saturatingAdd64 allocated (floorPayout amount share)) allocated

/-- The loop reaches the share after `front` with what `front` was given
allocated. -/
theorem splitLoop_append (amount allocated : UInt64) (front : List UInt16) (share : UInt16)
    (rest : List UInt16) :
    splitLoop amount allocated (front ++ share :: rest) =
      (splitLoop amount (allocatedAfter amount allocated front) (share :: rest)).map
        (front.map (floorPayout amount) ++ ·) := by
  induction front generalizing allocated with
  | nil =>
      change splitLoop amount allocated (share :: rest) =
        (splitLoop amount allocated (share :: rest)).map ([] ++ ·)
      cases splitLoop amount allocated (share :: rest) <;> rfl
  | cons first front ih =>
      obtain ⟨next, tail, more⟩ := List.exists_cons_of_ne_nil (l := front ++ share :: rest) (by simp)
      have later := ih (saturatingAdd64 allocated (floorPayout amount first))
      rw [List.cons_append, more, splitLoop, ← more, ← floorPayout, later]
      rw [show allocatedAfter amount allocated (first :: front) = allocatedAfter amount
        (saturatingAdd64 allocated (floorPayout amount first)) front from rfl]
      cases splitLoop amount (allocatedAfter amount
        (saturatingAdd64 allocated (floorPayout amount first)) front) (share :: rest) <;> rfl

/-- A share of at most the whole is paid its exact floor. -/
theorem floorPayout_toNat (amount : UInt64) {share : UInt16} (small : share.toNat ≤ bpsDenominator) :
    (floorPayout amount share).toNat = amount.toNat * share.toNat / bpsDenominator ∧
      amount.toNat * share.toNat / bpsDenominator ≤ amount.toNat := by
  have within : amount.toNat * share.toNat / bpsDenominator ≤ amount.toNat :=
    Nat.div_le_of_le_mul (by rw [Nat.mul_comm bpsDenominator]; exact Nat.mul_le_mul_left _ small)
  refine ⟨?_, within⟩
  rw [floorPayout, saturatingMul128_eq]
  simpa using Nat.mod_eq_of_lt (within.trans_lt amount.toNat_lt)

theorem allocatedAfter_toNat {amount allocated : UInt64} {front : List UInt16}
    (inRange : ∀ share ∈ front, share.toNat ≤ bpsDenominator)
    (room : allocated.toNat + ((front.map UInt16.toNat).map fun part =>
      amount.toNat * part / bpsDenominator).sum ≤ amount.toNat) :
    (allocatedAfter amount allocated front).toNat =
      allocated.toNat + ((front.map UInt16.toNat).map fun part =>
        amount.toNat * part / bpsDenominator).sum := by
  induction front generalizing allocated with
  | nil => rfl
  | cons share rest ih =>
      obtain ⟨part, _⟩ := floorPayout_toNat amount (inRange share (by simp))
      rw [List.map_cons, List.map_cons, List.sum_cons] at room ⊢
      have sum : (saturatingAdd64 allocated (floorPayout amount share)).toNat =
          allocated.toNat + amount.toNat * share.toNat / bpsDenominator := by
        rw [saturatingAdd64_toNat, part]
        rw [part]
        have := toNat_le_u64Max amount
        omega
      have later := @ih (saturatingAdd64 allocated (floorPayout amount share))
        (fun share mem => inRange share (by simp [mem])) (by rw [sum]; omega)
      rw [sum, Nat.add_assoc] at later
      exact later

/-- No guard of the loop ever engages on a valid split: not the saturating
product, the cast or the saturating sum on the way, and not the checked
subtraction at the end. -/
theorem ValidSplit.guards {amount : UInt64} {bps : List UInt16} (valid : ValidSplit amount bps)
    {front rest : List UInt16} {share : UInt16} (here : bps = front ++ share :: rest) :
    amount.toNat * share.toNat ≤ u128Max ∧
    amount.toNat * share.toNat / bpsDenominator ≤ u64Max ∧
    (allocatedAfter amount 0 front).toNat + (floorPayout amount share).toNat ≤ u64Max ∧
    checkedSub64 amount (allocatedAfter amount 0 front) =
      some (amount - allocatedAfter amount 0 front) := by
  have inRange := valid.inRange share (by simp [here])
  obtain ⟨part, within⟩ := floorPayout_toNat amount inRange
  have total : ((bps.map UInt16.toNat).map fun part =>
      amount.toNat * part / bpsDenominator).sum ≤ amount.toNat :=
    sum_floors_le_total _ valid.sum.le
  rw [here] at total
  simp only [List.map_append, List.sum_append, List.map_cons, List.sum_cons] at total
  have allocated : (allocatedAfter amount 0 front).toNat = ((front.map UInt16.toNat).map fun part =>
      amount.toNat * part / bpsDenominator).sum := by
    rw [allocatedAfter_toNat (fun share mem => valid.inRange share (by simp [here, mem])),
      UInt64.toNat_zero, Nat.zero_add]
    rw [UInt64.toNat_zero, Nat.zero_add]
    omega
  have small := toNat_le_u64Max amount
  refine ⟨?_, within.trans small, by omega, ?_⟩
  · calc amount.toNat * share.toNat ≤ 2 ^ 64 * 2 ^ 16 :=
          Nat.mul_le_mul amount.toNat_lt.le share.toNat_lt.le
      _ ≤ u128Max := by decide
  · rw [checkedSub64, if_pos]
    rw [UInt64.le_iff_toNat_le]
    omega

/-- The payouts of a valid split are floors, but for a last one that also gets
what the floors left, at most one unit for each share before it. -/
theorem ValidSplit.payouts {amount : UInt64} {front : List UInt16} {last : UInt16}
    (valid : ValidSplit amount (front ++ [last])) :
    ∃ dust ≤ front.length, payoutsOf amount (front ++ [last]) =
      (front.map fun share => amount.toNat * share.toNat / bpsDenominator) ++
        [amount.toNat * last.toNat / bpsDenominator + dust] := by
  have below : ((front ++ [last]).map UInt16.toNat |>.map fun part =>
      amount.toNat * part / bpsDenominator).sum ≤ amount.toNat :=
    sum_floors_le_total _ valid.sum.le
  have above := total_lt_sum_floors amount.toNat valid.sum (by decide)
  simp only [List.map_append, List.map_cons, List.map_nil, List.sum_append, List.sum_cons,
    List.sum_nil, List.length_append, List.length_map, List.length_singleton, List.map_map,
    Nat.add_zero, Function.comp_def] at below above
  generalize amount.toNat * last.toNat / bpsDenominator = floor at below above ⊢
  refine ⟨amount.toNat - ((front.map fun share =>
    amount.toNat * share.toNat / bpsDenominator).sum + floor), by omega, ?_⟩
  rw [payoutsOf, List.map_append, List.map_singleton, splitFrom_append, List.map_map]
  simp only [Function.comp_def]
  congr 2
  omega

end Synxed.Program
