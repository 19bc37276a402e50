import Synxed.Program.Split
import Synxed.Sdk.Types

/-!
The client's split math (`split.ts`).

`splitAmountAtomicShares` works on bigints and JavaScript numbers;
`splitAmountAtomicShares_eq_splitShares` says it is the program's
`splitShares` on every 64-bit amount and every list of 16-bit shares, errors
and their order included.
-/

namespace Synxed.Sdk

open Synxed.Lib Synxed.Program

/-- The integer a share is. -/
def assertBps (bps : JsNumber) : Except ProtocolError Int :=
  match bps.toInt? with
  | none => .error ⟨.BPS_INTEGER, js "each share bps must be an integer"⟩
  | some value => do
      ensure (0 ≤ value ∧ value ≤ BPS_DENOMINATOR)
        ⟨.BPS_RANGE, js "each share bps must be in 0..=10000"⟩
      .ok value

/-- The loop of `assertBpsShares`. -/
def sumShares : Int → List JsNumber → Except ProtocolError Int
  | sum, [] => .ok sum
  | sum, share :: rest => do
      let value ← assertBps share
      sumShares (sum + value) rest

/-- The check on the share count, which the two functions below both make. -/
def assertShareCount (bps : List JsNumber) : Except ProtocolError Unit :=
  ensure (bps.length ≠ 0 ∧ bps.length ≤ MAX_SHARES)
    ⟨.SHARE_COUNT, js "share count must be in 1..=8, got " ++ decimalText bps.length⟩

/-- Validate an N-way bps configuration. -/
def assertBpsShares (bps : List JsNumber) : Except ProtocolError Unit := do
  assertShareCount bps
  let sum ← sumShares 0 bps
  ensure (sum = BPS_DENOMINATOR)
    ⟨.BPS_SUM, js "split basis points must sum to 10000, got " ++ bigintText sum⟩

/-- `BigInt(bps)` of a number that `assertBps` accepts. -/
def bigintOf (bps : JsNumber) : Int := bps.toInt?.getD 0

/-- The payout loop of `splitAmountAtomicShares`. -/
def payoutLoop (amount : Int) : Int → List JsNumber → List Int
  | _, [] => []
  | allocated, [_] => [amount - allocated]
  | allocated, share :: next :: rest =>
      let part := (amount * bigintOf share).tdiv BPS_DENOMINATOR
      part :: payoutLoop amount (allocated + part) (next :: rest)

/-- Split `amount` across N BPS shares. -/
def splitAmountAtomicShares (amount : Int) (bps : List JsNumber) :
    Except ProtocolError (List Int) := do
  assertShareCount bps
  ensure (¬ amount ≤ 0) ⟨.ZERO_AMOUNT, js "amount must be greater than zero"⟩
  assertBpsShares bps
  .ok (payoutLoop amount 0 bps)

/-- The label checks of `computeSettlementN`, from share `i` on. -/
def checkLabels : Nat → List JsString → List ShareInput → Except ProtocolError Unit
  | _, _, [] => .ok ()
  | i, labels, share :: rest => do
      let label := trim share.label
      ensure (label ≠ [])
        ⟨.LABEL_EMPTY, js "shares[" ++ decimalText i ++ js "] label must not be empty"⟩
      ensure (label ∉ labels)
        ⟨.LABEL_DUPLICATE,
          js "shares[" ++ decimalText i ++ js "] duplicates label \"" ++ label ++ js "\""⟩
      checkLabels (i + 1) (label :: labels) rest

/-- Compute the payouts of an N-way settlement request. -/
def computeSettlementN (request : SettlementRequestN) : Except ProtocolError SplitResultN := do
  checkLabels 0 [] request.shares
  let amounts ← splitAmountAtomicShares request.amountAtomic
    (request.shares.map ShareInput.bps)
  .ok
    { request := request
      payouts := (request.shares.zip amounts).map fun payout =>
        ⟨payout.1.label, payout.1.recipient, payout.1.bps, payout.2⟩
      totalAtomic := request.amountAtomic }

/-! ### What the split computes -/

theorem assertBps_eq_ok {bps : JsNumber} {value : Int} :
    assertBps bps = .ok value ↔ bps = .ofInt value ∧ 0 ≤ value ∧ value ≤ BPS_DENOMINATOR := by
  unfold assertBps
  rw [← JsNumber.toInt?_eq_some]
  cases bps.toInt? with
  | none => simp
  | some found =>
      simp only [ensure_bind_eq_ok, Except.ok.injEq, Option.some.injEq]
      constructor
      · rintro ⟨range, rfl⟩
        exact ⟨rfl, range⟩
      · rintro ⟨rfl, range⟩
        exact ⟨range, rfl⟩

theorem sumShares_eq_ok {sum total : Int} {bps : List JsNumber} :
    sumShares sum bps = .ok total ↔
      (∀ share ∈ bps, share = .ofInt (bigintOf share) ∧ 0 ≤ bigintOf share ∧
        bigintOf share ≤ BPS_DENOMINATOR) ∧ sum + (bps.map bigintOf).sum = total := by
  induction bps generalizing sum with
  | nil => simp [sumShares]
  | cons share rest ih =>
      simp only [sumShares, bind_eq_ok, assertBps_eq_ok, ih, List.mem_cons, forall_eq_or_imp,
        List.map_cons, List.sum_cons]
      constructor
      · rintro ⟨value, ⟨rfl, range⟩, restOk, rfl⟩
        have here : bigintOf (.ofInt value) = value := by simp [bigintOf]
        rw [here]
        exact ⟨⟨⟨rfl, range⟩, restOk⟩, by ring⟩
      · rintro ⟨⟨here, restOk⟩, rfl⟩
        exact ⟨_, here, restOk, by ring⟩

/-- The configurations `assertBpsShares` accepts. -/
structure ValidBps (bps : List JsNumber) : Prop where
  count : bps.length ≠ 0 ∧ bps.length ≤ MAX_SHARES
  inRange : ∀ share ∈ bps, share = .ofInt (bigintOf share) ∧ 0 ≤ bigintOf share ∧
    bigintOf share ≤ BPS_DENOMINATOR
  sum : (bps.map bigintOf).sum = BPS_DENOMINATOR

theorem assertBpsShares_eq_ok {bps : List JsNumber} {u : Unit} :
    assertBpsShares bps = .ok u ↔ ValidBps bps := by
  simp only [assertBpsShares, assertShareCount, bind_eq_ok, sumShares_eq_ok, ensure_eq_ok,
    exists_const, zero_add]
  constructor
  · rintro ⟨count, _, ⟨inRange, rfl⟩, sum⟩
    exact ⟨count, inRange, sum⟩
  · rintro ⟨count, inRange, sum⟩
    exact ⟨count, _, ⟨inRange, rfl⟩, sum⟩

theorem splitAmountAtomicShares_eq_ok {amount : Int} {bps : List JsNumber} {payouts : List Int} :
    splitAmountAtomicShares amount bps = .ok payouts ↔
      ValidBps bps ∧ 0 < amount ∧ payouts = payoutLoop amount 0 bps := by
  simp only [splitAmountAtomicShares, assertShareCount, bind_eq_ok, ensure_eq_ok,
    assertBpsShares_eq_ok, exists_const, Except.ok.injEq, not_le]
  constructor
  · rintro ⟨_, positive, valid, rfl⟩
    exact ⟨valid, positive, rfl⟩
  · rintro ⟨valid, positive, rfl⟩
    exact ⟨valid.count, positive, valid, rfl⟩

/-- The number a 16-bit share is. -/
def shareNumber (share : UInt16) : JsNumber := .ofInt share.toNat

@[simp] theorem bigintOf_shareNumber (share : UInt16) : bigintOf (shareNumber share) = share.toNat := by
  simp [bigintOf, shareNumber]

/-- A configuration is the numbers of some 16-bit shares. -/
theorem ValidBps.exists_shares {bps : List JsNumber} (valid : ValidBps bps) :
    ∃ shares : List UInt16, bps = shares.map shareNumber := by
  have each : ∀ share ∈ bps, shareNumber (UInt16.ofNat (bigintOf share).toNat) = share := by
    intro share mem
    obtain ⟨whole, low, high⟩ := valid.inRange share mem
    have small : (bigintOf share).toNat < 2 ^ 16 := by
      unfold BPS_DENOMINATOR at high
      omega
    rw [shareNumber, ofNat_toNat16 small, Int.toNat_of_nonneg low, ← whole]
  refine ⟨bps.map fun share => UInt16.ofNat (bigintOf share).toNat, ?_⟩
  rw [List.map_map]
  exact ((List.map_congr_left each).trans (List.map_id _)).symm

/-- The payout loop on bigints is the proportional split. -/
theorem payoutLoop_eq_splitFrom (amount : Nat) : ∀ (allocated : Nat) (bps : List UInt16),
    allocated + ((bps.map UInt16.toNat).map fun part =>
      amount * part / bpsDenominator).sum ≤ amount →
    payoutLoop amount allocated (bps.map shareNumber) =
      (splitFrom amount bpsDenominator allocated (bps.map UInt16.toNat)).map Int.ofNat
  | _, [], _ => rfl
  | allocated, [share], room => by
      have enough : allocated ≤ amount := (Nat.le_add_right _ _).trans room
      simp [payoutLoop, splitFrom, Nat.cast_sub enough]
  | allocated, share :: next :: rest, room => by
      have part : ((amount : Int) * bigintOf (shareNumber share)).tdiv BPS_DENOMINATOR =
          ((amount * share.toNat / bpsDenominator : Nat) : Int) := by
        rw [bigintOf_shareNumber]
        rfl
      rw [List.map_cons, List.map_cons, List.sum_cons, ← Nat.add_assoc] at room
      have tail := payoutLoop_eq_splitFrom amount (allocated + amount * share.toNat / bpsDenominator)
        (next :: rest) room
      rw [Nat.cast_add] at tail
      simp only [List.map_cons, payoutLoop, splitFrom, part] at tail ⊢
      rw [tail]
      rfl

theorem checkLabels_eq_ok {i : Nat} {labels : List JsString} {shares : List ShareInput} {u : Unit} :
    checkLabels i labels shares = .ok u ↔
      (∀ share ∈ shares, trim share.label ≠ [] ∧ trim share.label ∉ labels) ∧
        (shares.map fun share => trim share.label).Nodup := by
  induction shares generalizing i labels with
  | nil => simp [checkLabels]
  | cons share rest ih =>
      simp only [checkLabels, bind_eq_ok, ensure_eq_ok, exists_const, ih, List.mem_cons, not_or,
        forall_eq_or_imp, List.map_cons, List.nodup_cons, List.mem_map, not_exists, not_and]
      constructor
      · rintro ⟨named, fresh, later, distinct⟩
        exact ⟨⟨⟨named, fresh⟩, fun other mem => ⟨(later other mem).1, (later other mem).2.2⟩⟩,
          fun other mem => (later other mem).2.1, distinct⟩
      · rintro ⟨⟨⟨named, fresh⟩, later⟩, apart, distinct⟩
        exact ⟨named, fresh, fun other mem => ⟨(later other mem).1, apart other mem,
          (later other mem).2⟩, distinct⟩

/-- The labels of a request that is computed are distinct. -/
theorem labels_nodup {request : SettlementRequestN} {result : SplitResultN}
    (h : computeSettlementN request = .ok result) : (request.shares.map ShareInput.label).Nodup := by
  obtain ⟨_, checked, _⟩ := bind_eq_ok.mp h
  have trimmed := (checkLabels_eq_ok.mp checked).2
  rw [← Function.comp_def trim ShareInput.label, ← List.map_map] at trimmed
  exact trimmed.of_map _

theorem length_payoutLoop (amount : Int) : ∀ (allocated : Int) (bps : List JsNumber),
    (payoutLoop amount allocated bps).length = bps.length
  | _, [] => rfl
  | _, [_] => rfl
  | allocated, _ :: next :: rest => by
      rw [payoutLoop, List.length_cons, length_payoutLoop amount _ (next :: rest)]
      rfl

/-! ### The program's split -/

theorem BPS_DENOMINATOR_eq : BPS_DENOMINATOR = (bpsDenominator : Int) := rfl

/-- The client's code for each of the program's split errors. -/
def splitErrorCode : SplitError → ProtocolErrorCode
  | .shareCount => .SHARE_COUNT
  | .zeroAmount => .ZERO_AMOUNT
  | .bpsOutOfRange => .BPS_RANGE
  | .bpsSumNotDenominator => .BPS_SUM

/-- The two validation loops stop at the same share with the same error, and
sum alike. -/
theorem sumShares_eq_sumBps (bps : List UInt16) : ∀ sum : Nat,
    (sumShares sum (bps.map shareNumber)).mapError ProtocolError.code =
      ((sumBps sum bps).mapError splitErrorCode).map Int.ofNat := by
  induction bps with
  | nil => intro sum; rfl
  | cons share rest ih =>
      intro sum
      by_cases range : share.toNat ≤ bpsDenominator
      · have one : assertBps (shareNumber share) = .ok share.toNat := by
          rw [assertBps_eq_ok]
          rw [BPS_DENOMINATOR_eq]
          exact ⟨rfl, by omega, by exact_mod_cast range⟩
        rw [List.map_cons, sumShares, one, ok_bind, sumBps, ensure_bind_of_pos range]
        exact_mod_cast ih (sum + share.toNat)
      · have one : assertBps (shareNumber share) =
            .error ⟨.BPS_RANGE, js "each share bps must be in 0..=10000"⟩ := by
          unfold assertBps shareNumber
          rw [JsNumber.toInt?_ofInt]
          refine ensure_bind_of_neg fun h => range ?_
          rw [BPS_DENOMINATOR_eq] at h
          exact_mod_cast h.2
        rw [List.map_cons, sumShares, one, error_bind, sumBps, ensure_bind_of_neg range]
        rfl

/-- **The client splits as the program does**: the same payouts, or the
corresponding error for the same first reason. -/
theorem splitAmountAtomicShares_eq_splitShares (amount : UInt64) (bps : List UInt16) :
    (splitAmountAtomicShares amount.toNat (bps.map shareNumber)).mapError ProtocolError.code =
      ((splitShares amount bps bps.length).mapError splitErrorCode).map
        fun payouts => payouts.map fun payout => (payout.toNat : Int) := by
  by_cases count : bps.length ≠ 0 ∧ bps.length ≤ maxShares
  swap
  · rw [splitAmountAtomicShares, assertShareCount, splitShares,
      ensure_bind_of_neg (by rw [List.length_map]; exact count),
      ensure_bind_of_neg fun h => count ⟨h.1, h.2.1⟩]
    rfl
  by_cases zero : amount = 0
  · subst zero
    rw [splitAmountAtomicShares, assertShareCount, splitShares,
      ensure_bind_of_pos (by rw [List.length_map]; exact count), ensure_bind_of_neg (by decide),
      ensure_bind_of_pos ⟨count.1, count.2, rfl⟩, ensure_bind_of_neg (by decide)]
    rfl
  have positive : ¬ ((amount.toNat : Int) ≤ 0) := by
    have nonzero : amount.toNat ≠ 0 := fun h => zero (UInt64.toNat_inj.mp h)
    omega
  have sums := sumShares_eq_sumBps bps 0
  rw [splitAmountAtomicShares, assertShareCount, splitShares,
    ensure_bind_of_pos (by rw [List.length_map]; exact count), ensure_bind_of_pos positive,
    ensure_bind_of_pos ⟨count.1, count.2, rfl⟩, ensure_bind_of_pos zero, assertBpsShares,
    assertShareCount, ensure_bind_of_pos (by rw [List.length_map]; exact count)]
  cases programSum : sumBps 0 bps with
  | error e =>
      rw [programSum] at sums
      cases clientSum : sumShares (0 : Nat) (bps.map shareNumber) with
      | error f =>
          rw [clientSum] at sums
          exact congrArg Except.error (Except.error.inj sums)
      | ok _ =>
          rw [clientSum] at sums
          cases sums
  | ok total =>
      rw [programSum] at sums
      cases clientSum : sumShares (0 : Nat) (bps.map shareNumber) with
      | error f =>
          rw [clientSum] at sums
          cases sums
      | ok clientTotal =>
          rw [clientSum] at sums
          obtain rfl : clientTotal = (total : Int) := Except.ok.inj sums
          rw [ok_bind, ok_bind]
          by_cases whole : total = bpsDenominator
          · have valid : ValidSplit amount bps := by
              obtain ⟨inRange, rfl⟩ := sumBps_eq_ok.mp programSum
              exact ⟨count, zero, inRange, by simpa using whole⟩
            obtain ⟨out, outOk, outEq⟩ := splitLoop_eq amount 0 bps (by
                rw [UInt64.toNat_zero, Nat.zero_add]
                exact sum_floors_le_total _ valid.sum.le)
            have client := payoutLoop_eq_splitFrom amount.toNat 0 bps (by
              rw [Nat.zero_add]
              exact sum_floors_le_total _ valid.sum.le)
            rw [ensure_bind_of_pos whole, outOk, ensure,
              if_pos (show (total : Int) = BPS_DENOMINATOR by rw [whole]; rfl), ok_bind]
            rw [UInt64.toNat_zero] at outEq
            refine congrArg Except.ok ?_
            calc payoutLoop amount.toNat 0 (bps.map shareNumber)
                = (splitFrom amount.toNat bpsDenominator 0 (bps.map UInt16.toNat)).map Int.ofNat :=
                  client
              _ = out.map fun payout => (payout.toNat : Int) := by
                rw [← outEq, List.map_map]
                rfl
          · rw [ensure_bind_of_neg whole, ensure,
              if_neg (fun h : (total : Int) = BPS_DENOMINATOR => whole (by
                unfold BPS_DENOMINATOR at h; exact_mod_cast h))]
            rfl

end Synxed.Sdk
