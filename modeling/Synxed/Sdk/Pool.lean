import Synxed.Sdk.Client
import Synxed.Sdk.Reconcile

/-!
Allocating a pooled payout (`allocatePoolPayout`), and the ids of ledger
entries.

An entry's id hashes its signature, its role and its beneficiary, joined by NUL
characters. Labels and beneficiary ids are free text, and the label `synxed` is
booked under the role `platform`.

* `allocatePoolPayout_eq_ok`: exactly when an allocation is accepted, and its
  entries.
* `allocation_conserves_iff`: the entries conserve the payout exactly when UTF-8
  keeps the beneficiary ids apart.
* `map_entryId_entries`: the ids of a settlement's entries, from its shares and
  allocations alone.
* `entry_ids_distinct_iff`: the ids of any settlements are distinct exactly when
  no two credits of one settlement clash.
* `not_clash_of_plain`: credits under plain labels do not clash.
-/

namespace Synxed.Sdk

open Synxed.Lib Synxed.Program

structure PoolAllocation where
  beneficiaryId : JsString
  wallet : Option JsString := none
  amountOnChain : Int
  deriving DecidableEq

/-- The loop of `allocatePoolPayout`: the total of the allocations, whose ids
are none of `ids`. -/
def allocationTotal : List JsString → Int → List PoolAllocation → Except Thrown Int
  | _, total, [] => .ok total
  | ids, total, allocation :: rest => do
      ensure (¬ (trim allocation.beneficiaryId = [] ∨ allocation.amountOnChain ≤ 0 ∨
          allocation.beneficiaryId ∈ ids))
        (.ledger ⟨.POOL_ALLOCATION,
          js "beneficiary IDs must be unique and amounts must be positive"⟩)
      allocationTotal (allocation.beneficiaryId :: ids) (total + allocation.amountOnChain) rest

/-- `BigInt(text)`. -/
def toBigint (text : JsString) : Except Thrown Int :=
  match parseBigint text with
  | some value => .ok value
  | none => .error (.other (js "SyntaxError"))

theorem toBigint_eq_ok {text : JsString} {value : Int} :
    toBigint text = .ok value ↔ parseBigint text = some value := by
  unfold toBigint
  cases parseBigint text <;> simp

variable (H : Host)

/-- The accrued ledger row of one allocation. -/
def accruedEntry (payout : PayoutLine) (sourceSignature : JsString) (allocation : PoolAllocation) :
    LedgerEntry where
  entryId := ledgerEntryId H sourceSignature payout.role (.text allocation.beneficiaryId)
  beneficiaryId := .text allocation.beneficiaryId
  wallet := allocation.wallet
  role := payout.role
  pool := some payout.recipient
  amountOnChain := bigintText allocation.amountOnChain
  sourceSignature := sourceSignature
  state := js "accrued"
  paidSignature := none

/-- Turn one pooled payout into conserved, idempotent accrued ledger entries. -/
def allocatePoolPayout (payout : PayoutLine) (sourceSignature : JsString)
    (allocations : List PoolAllocation) : Except Thrown (List LedgerEntry) := do
  ensure (¬ (payout.beneficiaryId ≠ none ∨ allocations.length = 0))
    (.ledger ⟨.POOL_ALLOCATION,
      js "pool allocation requires a pooled payout and at least one beneficiary"⟩)
  let total ← allocationTotal [] 0 allocations
  let expected ← toBigint payout.amountOnChain
  ensure (total = expected)
    (.ledger ⟨.POOL_ALLOCATION, js "pool allocations total " ++ bigintText total ++
      js ", expected " ++ payout.amountOnChain⟩)
  .ok (allocations.map (accruedEntry H payout sourceSignature))

theorem allocationTotal_eq_ok {ids : List JsString} {start total : Int}
    {allocations : List PoolAllocation} :
    allocationTotal ids start allocations = .ok total ↔
      (∀ allocation ∈ allocations, trim allocation.beneficiaryId ≠ [] ∧
        0 < allocation.amountOnChain ∧ allocation.beneficiaryId ∉ ids) ∧
      (allocations.map PoolAllocation.beneficiaryId).Nodup ∧
      start + (allocations.map PoolAllocation.amountOnChain).sum = total := by
  induction allocations generalizing ids start with
  | nil => simp [allocationTotal]
  | cons allocation rest ih =>
      simp only [allocationTotal, bind_eq_ok, ensure_eq_ok, exists_const, ih, not_or, not_le,
        List.mem_cons, forall_eq_or_imp, List.map_cons, List.nodup_cons, List.sum_cons]
      constructor
      · rintro ⟨here, later, distinct, sum⟩
        refine ⟨⟨here, fun other mem => ?_⟩, ⟨fun mem => ?_, distinct⟩, by rw [← sum]; ring⟩
        · obtain ⟨named, positive, fresh, old⟩ := later other mem
          exact ⟨named, positive, old⟩
        · obtain ⟨other, inside, same⟩ := List.mem_map.mp mem
          exact (later other inside).2.2.1 same
      · rintro ⟨⟨here, later⟩, ⟨fresh, distinct⟩, sum⟩
        refine ⟨here, fun other mem => ?_, distinct, by rw [← sum]; ring⟩
        obtain ⟨named, positive, old⟩ := later other mem
        exact ⟨named, positive, fun same => fresh (same ▸ List.mem_map_of_mem mem), old⟩

variable {H}

/-- An allocation is accepted exactly when the payout is pooled, every id is not
blank and different from the others, every amount is positive, and the amounts
add up to the payout's. -/
theorem allocatePoolPayout_eq_ok {payout : PayoutLine} {sourceSignature : JsString}
    {allocations : List PoolAllocation} {entries : List LedgerEntry} :
    allocatePoolPayout H payout sourceSignature allocations = .ok entries ↔
      payout.beneficiaryId = none ∧ allocations ≠ [] ∧
      (∀ allocation ∈ allocations, trim allocation.beneficiaryId ≠ [] ∧
        0 < allocation.amountOnChain) ∧
      (allocations.map PoolAllocation.beneficiaryId).Nodup ∧
      parseBigint payout.amountOnChain =
        some (allocations.map PoolAllocation.amountOnChain).sum ∧
      entries = allocations.map (accruedEntry H payout sourceSignature) := by
  simp only [allocatePoolPayout, bind_eq_ok, ensure_eq_ok, exists_const, allocationTotal_eq_ok,
    toBigint_eq_ok, Except.ok.injEq, not_or, not_not, List.length_eq_zero_iff, List.not_mem_nil, not_false_eq_true,
    and_true, zero_add]
  constructor
  · rintro ⟨⟨pooled, some⟩, total, ⟨named, distinct, rfl⟩, expected, sum, rfl, rfl⟩
    exact ⟨pooled, some, named, distinct, sum, rfl⟩
  · rintro ⟨pooled, some, named, distinct, sum, rfl⟩
    exact ⟨⟨pooled, some⟩, _, ⟨named, distinct, rfl⟩, _, sum, rfl, rfl⟩

/-! ### What an allocation conserves -/

/-- An allocation that may be made: of a pooled payout, to one or more different
beneficiaries with names, in positive amounts that add up to the payout's. -/
structure Allocable (payout : PayoutLine) (allocations : List PoolAllocation) : Prop where
  pooled : payout.beneficiaryId = none
  nonempty : allocations ≠ []
  named : ∀ allocation ∈ allocations, trim allocation.beneficiaryId ≠ []
  distinct : (allocations.map PoolAllocation.beneficiaryId).Nodup
  positive : ∀ allocation ∈ allocations, 0 < allocation.amountOnChain
  sum : parseBigint payout.amountOnChain =
    some (allocations.map PoolAllocation.amountOnChain).sum

/-- One accrued entry, with the allocation's beneficiary, wallet and amount. -/
structure Accrues (payout : PayoutLine) (sourceSignature : JsString) (allocation : PoolAllocation)
    (entry : LedgerEntry) : Prop where
  beneficiaryId : entry.beneficiaryId = .text allocation.beneficiaryId
  wallet : entry.wallet = allocation.wallet
  amount : parseBigint entry.amountOnChain = some allocation.amountOnChain
  role : entry.role = payout.role
  pool : entry.pool = some payout.recipient
  sourceSignature : entry.sourceSignature = sourceSignature
  state : entry.state = js "accrued"
  paidSignature : entry.paidSignature = none

/-- Entries for these allocations in their order, with different ids, whose
amounts add up to the payout's. -/
structure Conserves (payout : PayoutLine) (sourceSignature : JsString)
    (allocations : List PoolAllocation) (entries : List LedgerEntry) : Prop where
  inOrder : List.Forall₂ (Accrues payout sourceSignature) allocations entries
  sum : (entries.mapM fun entry => parseBigint entry.amountOnChain).map List.sum =
    parseBigint payout.amountOnChain
  ids : (entries.map LedgerEntry.entryId).Nodup

variable (H) in
/-- The call succeeds exactly when the allocation may be made, and its entries
conserve the payout. -/
def AllocationConserves (payout : PayoutLine) (sourceSignature : JsString)
    (allocations : List PoolAllocation) : Prop :=
  ((∃ entries, allocatePoolPayout H payout sourceSignature allocations = .ok entries) ↔
    Allocable payout allocations) ∧
  ∀ entries, allocatePoolPayout H payout sourceSignature allocations = .ok entries →
    Conserves payout sourceSignature allocations entries

/-- The bytes that the id of an allocation's entry hashes. -/
def PoolAllocation.hashed (payout : PayoutLine) (sourceSignature : JsString)
    (allocation : PoolAllocation) : Bytes :=
  textEncode (sourceSignature ++ 0 :: (payout.role ++ 0 :: allocation.beneficiaryId))

/-- Whatever the signature and the role, an allocation's bytes tell its
beneficiary as UTF-8 keeps it. -/
theorem PoolAllocation.hashed_inj {payout : PayoutLine} {sourceSignature : JsString}
    {allocation other : PoolAllocation} :
    allocation.hashed payout sourceSignature = other.hashed payout sourceSignature ↔
      toWellFormed allocation.beneficiaryId = toWellFormed other.beneficiaryId := by
  rw [hashed, hashed, textEncode_inj, toWellFormed_append_nul, toWellFormed_append_nul,
    toWellFormed_append_nul, toWellFormed_append_nul, List.append_cancel_left_eq, List.cons_inj_right,
    List.append_cancel_left_eq, List.cons_inj_right]

/-- An allocation is accepted exactly when it may be made. -/
theorem allocatePoolPayout_iff_allocable {payout : PayoutLine} {sourceSignature : JsString}
    {allocations : List PoolAllocation} {entries : List LedgerEntry} :
    allocatePoolPayout H payout sourceSignature allocations = .ok entries ↔
      Allocable payout allocations ∧
        entries = allocations.map (accruedEntry H payout sourceSignature) := by
  rw [allocatePoolPayout_eq_ok]
  constructor
  · rintro ⟨pooled, nonempty, named, distinct, sum, rfl⟩
    exact ⟨⟨pooled, nonempty, fun allocation mem => (named allocation mem).1, distinct,
      fun allocation mem => (named allocation mem).2, sum⟩, rfl⟩
  · rintro ⟨may, rfl⟩
    exact ⟨may.pooled, may.nonempty, fun allocation mem =>
      ⟨may.named allocation mem, may.positive allocation mem⟩, may.distinct, may.sum, rfl⟩

/-- The amounts of accrued entries are read back in their order. -/
theorem mapM_parseBigint_accrued (payout : PayoutLine) (sourceSignature : JsString)
    (allocations : List PoolAllocation) :
    ((allocations.map (accruedEntry H payout sourceSignature)).mapM
      fun entry => parseBigint entry.amountOnChain) =
        some (allocations.map PoolAllocation.amountOnChain) := by
  induction allocations with
  | nil => rfl
  | cons allocation rest ih =>
      have here : parseBigint (accruedEntry H payout sourceSignature allocation).amountOnChain =
          some allocation.amountOnChain := parseBigint_bigintText _
      rw [List.map_cons, List.mapM_cons, here, ih]
      rfl

/-- Where the hash does not collide, accrued entries have different ids exactly
when UTF-8 keeps the beneficiaries apart. -/
theorem accrued_ids_nodup_iff {payout : PayoutLine} {sourceSignature : JsString}
    {allocations : List PoolAllocation}
    (hashes : Set.InjOn H.sha256
      {bytes | bytes ∈ allocations.map (PoolAllocation.hashed payout sourceSignature)}) :
    ((allocations.map (accruedEntry H payout sourceSignature)).map LedgerEntry.entryId).Nodup ↔
      (allocations.map fun allocation => toWellFormed allocation.beneficiaryId).Nodup := by
  simp only [List.Nodup, List.pairwise_map]
  refine List.Pairwise.iff_of_mem fun {allocation other} mem mem' => not_congr ?_
  have told : allocation.hashed payout sourceSignature = other.hashed payout sourceSignature ↔
      toWellFormed allocation.beneficiaryId = toWellFormed other.beneficiaryId :=
    PoolAllocation.hashed_inj
  rw [← told]
  constructor
  · intro same
    exact hashes (List.mem_map_of_mem mem) (List.mem_map_of_mem mem')
      (Subtype.ext (hexText_injective same))
  · intro same
    exact congrArg (fun bytes => hexText (H.sha256 bytes).val) same

/-- **Pool allocation conserves.** For every payout, signature and allocations
whose hashed texts do not collide: a call that may be made succeeds, any other
returns no entries, and the entries are the allocations in order, adding up to
the payout and with different ids, exactly when no two beneficiary ids of a call
that may be made differ in unpaired surrogates only. -/
theorem allocation_conserves_iff (H : Host) (payout : PayoutLine) (sourceSignature : JsString)
    (allocations : List PoolAllocation)
    (hashes : Set.InjOn H.sha256
      {bytes | bytes ∈ allocations.map (PoolAllocation.hashed payout sourceSignature)}) :
    AllocationConserves H payout sourceSignature allocations ↔
      (Allocable payout allocations →
        (allocations.map fun allocation => toWellFormed allocation.beneficiaryId).Nodup) := by
  constructor
  · rintro ⟨_, conserves⟩ may
    have kept := conserves _ (allocatePoolPayout_iff_allocable.mpr ⟨may, rfl⟩)
    exact (accrued_ids_nodup_iff hashes).mp kept.ids
  · intro apart
    refine ⟨⟨?_, fun may => ⟨_, allocatePoolPayout_iff_allocable.mpr ⟨may, rfl⟩⟩⟩, ?_⟩
    · rintro ⟨entries, accepted⟩
      exact (allocatePoolPayout_iff_allocable.mp accepted).1
    · intro entries accepted
      obtain ⟨may, rfl⟩ := allocatePoolPayout_iff_allocable.mp accepted
      refine ⟨?_, ?_, (accrued_ids_nodup_iff hashes).mpr (apart may)⟩
      · rw [List.forall₂_map_right_iff, List.forall₂_same]
        exact fun allocation _ =>
          ⟨rfl, rfl, parseBigint_bigintText _, rfl, rfl, rfl, rfl, rfl⟩
      · rw [mapM_parseBigint_accrued, may.sum]
        rfl

/-- A pooled line of the sample settlement. -/
def samplePoolPayout : PayoutLine where
  role := js "rewards_pool"
  recipient := js "pool"
  bps := .ofInt 3000
  amountOnChain := js "301"
  beneficiaryId := none
  destinationAccount := js "pool"

/-- Two listeners' allocations of the sample payout make two accrued entries. -/
theorem allocation_conserves_iff_sample :
    AllocationConserves sampleHost samplePoolPayout (js "sent")
      [⟨js "listener:1", none, 200⟩, ⟨js "listener:2", none, 101⟩] := by
  refine (allocation_conserves_iff sampleHost samplePoolPayout (js "sent") _ ?_).mpr
    fun _ => by decide +kernel
  have apart : ∀ bytes ∈ [(⟨js "listener:1", none, 200⟩ : PoolAllocation),
        ⟨js "listener:2", none, 101⟩].map (PoolAllocation.hashed samplePoolPayout (js "sent")),
      ∀ bytes' ∈ [(⟨js "listener:1", none, 200⟩ : PoolAllocation),
        ⟨js "listener:2", none, 101⟩].map (PoolAllocation.hashed samplePoolPayout (js "sent")),
      sampleHost.sha256 bytes = sampleHost.sha256 bytes' → bytes = bytes' := by decide +kernel
  exact fun bytes mem bytes' mem' => apart bytes mem bytes' mem'

/-- Two ids that end in different unpaired surrogates are accepted as different,
and their entries get one id. -/
theorem not_allocation_conserves :
    ¬ ∀ (H : Host) (payout : PayoutLine) (sourceSignature : JsString)
      (allocations : List PoolAllocation),
      Set.InjOn H.sha256
        {bytes | bytes ∈ allocations.map (PoolAllocation.hashed payout sourceSignature)} →
      AllocationConserves H payout sourceSignature allocations := by
  intro conserves
  let allocations : List PoolAllocation :=
    [⟨js "listener-" ++ [0xD800], none, 200⟩, ⟨js "listener-" ++ [0xD801], none, 101⟩]
  have one : ∃ bytes, allocations.map (PoolAllocation.hashed samplePoolPayout (js "sent")) =
      [bytes, bytes] := ⟨_, rfl⟩
  obtain ⟨bytes, hashed⟩ := one
  have kept := conserves sampleHost samplePoolPayout (js "sent") allocations (by
    rw [hashed]
    intro left mem right mem' _
    simp only [List.mem_cons, List.not_mem_nil, or_false, or_self, Set.mem_ofPred_eq] at mem mem'
    rw [mem, mem'])
  obtain ⟨entries, accepted⟩ := exists_ok_of_isOk
    (show (allocatePoolPayout sampleHost samplePoolPayout (js "sent") allocations).isOk by
      decide +kernel)
  have ids := (kept.2 entries accepted).ids
  rw [(allocatePoolPayout_iff_allocable.mp accepted).2] at ids
  exact absurd ids (by decide +kernel)

/-! ### Settlements with their allocations -/

/-- The evidence of one settlement and the options to reconcile it with. -/
inductive Evidence where
  | native (observation : ProgramSettlementObservation)
      (options : ReconcileObservedSettlementNOptions)
  | token (observation : ProgramTokenSettlementObservation)
      (options : ReconcileObservedTokenSettlementNOptions)

namespace Evidence

def signature : Evidence → JsString
  | native observation _ => observation.signature
  | token observation _ => observation.signature

def request : Evidence → SettlementRequestN
  | native _ options => options.request
  | token _ options => options.request

/-- Who a share is credited to; `none` for a pooled share. -/
def beneficiary : Evidence → ShareInput → Option PropertyValue
  | native _ options => beneficiaryOf options.pooledLabels options.beneficiaryIds
  | token _ options => beneficiaryOf options.pooledLabels options.beneficiaryIds

variable (H) in
def reconcile : Evidence → Except Thrown SettlementReconciliation
  | native observation options => reconcileObservedSettlementN H observation options
  | token observation options => reconcileObservedTokenSettlementN H observation options

/-- A reconciled settlement has one payout line for each share. -/
theorem reconcile_ok {evidence : Evidence} {reconciliation : SettlementReconciliation}
    (h : evidence.reconcile H = .ok reconciliation) :
    ∃ record, reconciliation = reconciliationOf H record ∧ record.signature = evidence.signature ∧
      (∃ result, computeSettlementN evidence.request = .ok result) ∧
      record.payouts.map (fun line => (line.role, line.beneficiaryId)) =
        evidence.request.shares.map fun share =>
          (canonicalRole share.label, evidence.beneficiary share) := by
  have lines {shares : List ShareInput} {total : Int} {amounts : List Int}
      {destinations : List JsString} (beneficiary : ShareInput → Option PropertyValue)
      (split : splitAmountAtomicShares total (shares.map ShareInput.bps) = .ok amounts)
      (count : destinations.length = shares.length) :
      (payoutLines shares amounts destinations beneficiary).map
          (fun line => (line.role, line.beneficiaryId)) =
        shares.map fun share => (canonicalRole share.label, beneficiary share) := by
    obtain ⟨_, _, rfl⟩ := splitAmountAtomicShares_eq_ok.mp split
    have enough : shares.length ≤ ((payoutLoop total 0 (shares.map ShareInput.bps)).zip
        destinations).length := by
      rw [List.length_zip, length_payoutLoop, List.length_map, count, min_self]
    rw [payoutLines, List.map_map]
    calc ((shares.zip _).map fun payout => (canonicalRole payout.1.label, beneficiary payout.1))
        = ((shares.zip _).map Prod.fst).map fun share =>
            (canonicalRole share.label, beneficiary share) := by rw [List.map_map]; rfl
      _ = shares.map fun share => (canonicalRole share.label, beneficiary share) := by
        rw [List.map_fst_zip enough]
  cases evidence with
  | native observation options =>
      obtain ⟨amounts, time, found, _, rfl⟩ := reconcileObservedSettlementN_eq_ok.mp h
      exact ⟨_, rfl, rfl, found.computed, lines _ found.split (List.length_map _)⟩
  | token observation options =>
      obtain ⟨payer, wallets, amounts, time, found, _, rfl⟩ :=
        reconcileObservedTokenSettlementN_eq_ok.mp h
      refine ⟨_, rfl, rfl, found.computed, lines _ found.split ?_⟩
      simpa using congrArg List.length found.walletTexts

end Evidence

variable (H) in
/-- Allocate a payout; an empty allocation leaves it in the pool. -/
def allocateUnlessHeld (signature : JsString) (payout : PayoutLine)
    (allocation : List PoolAllocation) : Except Thrown (List LedgerEntry) :=
  if allocation.length = 0 then .ok [] else allocatePoolPayout H payout signature allocation

variable (H) in
/-- Allocate each payout as `allocations` has it. -/
def allocateAll (signature : JsString) :
    List PayoutLine → List (List PoolAllocation) → Except Thrown (List LedgerEntry)
  | payout :: payouts, allocation :: allocations => do
      let entries ← allocateUnlessHeld H signature payout allocation
      let later ← allocateAll signature payouts allocations
      .ok (entries ++ later)
  | _, _ => .ok []

/-- A settlement with the allocations of its pool payouts, in their order. -/
structure Booking where
  evidence : Evidence
  allocations : List (List PoolAllocation)

/-- An amount credited to a beneficiary under a share's label. -/
structure Credit where
  label : JsString
  beneficiaryId : JsString
  deriving DecidableEq

namespace Booking

variable (H) in
/-- The direct and the accrued entries of a settlement. -/
def entries (booking : Booking) : Except Thrown (List LedgerEntry) := do
  let reconciliation ← booking.evidence.reconcile H
  let accrued ← allocateAll H reconciliation.record.signature reconciliation.poolPayouts
    booking.allocations
  .ok (reconciliation.directEntries ++ accrued)

variable (H) in
/-- The credits of the shares that are not pooled. -/
def directCredits (booking : Booking) : List Credit :=
  booking.evidence.request.shares.filterMap fun share =>
    (booking.evidence.beneficiary share).map fun id => ⟨share.label, propertyText H id⟩

/-- The pooled shares, each with its allocation. -/
def pooledShares (booking : Booking) : List (ShareInput × List PoolAllocation) :=
  (booking.evidence.request.shares.filter fun share =>
    (booking.evidence.beneficiary share).isNone).zip booking.allocations

/-- The credits of the allocations. -/
def accruedCredits (booking : Booking) : List Credit :=
  booking.pooledShares.flatMap fun pooled =>
    pooled.2.map fun allocation => ⟨pooled.1.label, allocation.beneficiaryId⟩

variable (H) in
def credits (booking : Booking) : List Credit :=
  booking.directCredits H ++ booking.accruedCredits

end Booking

theorem map_entryId_allocateAll {signature : JsString} {payouts : List PayoutLine}
    {allocations : List (List PoolAllocation)} {entries : List LedgerEntry}
    (h : allocateAll H signature payouts allocations = .ok entries) :
    entries.map LedgerEntry.entryId =
      ((payouts.map PayoutLine.role).zip allocations).flatMap fun pooled =>
        pooled.2.map fun allocation =>
          ledgerEntryId H signature pooled.1 (.text allocation.beneficiaryId) := by
  induction payouts generalizing allocations entries with
  | nil =>
      cases h
      rfl
  | cons payout payouts ih =>
      cases allocations with
      | nil =>
          cases h
          rfl
      | cons allocation allocations =>
          simp only [allocateAll, bind_eq_ok, Except.ok.injEq] at h
          obtain ⟨here, allocated, later, rest, rfl⟩ := h
          have ids : here.map LedgerEntry.entryId = allocation.map fun allocation =>
              ledgerEntryId H signature payout.role (.text allocation.beneficiaryId) := by
            unfold allocateUnlessHeld at allocated
            split at allocated
            · next empty =>
                cases allocated
                rw [List.length_eq_zero_iff.mp empty]
                rfl
            · obtain ⟨_, _, _, _, _, rfl⟩ := allocatePoolPayout_eq_ok.mp allocated
              rw [List.map_map]
              rfl
          rw [List.map_append, ids, ih rest]
          rfl

/-- The pool payouts are the pooled shares, in their order. -/
theorem pooled_roles {record : SettlementRecord} {shares : List ShareInput}
    {beneficiary : ShareInput → Option PropertyValue}
    (lines : record.payouts.map (fun line => (line.role, line.beneficiaryId)) =
      shares.map fun share => (canonicalRole share.label, beneficiary share)) :
    (reconciliationOf H record).poolPayouts.map PayoutLine.role =
      (shares.filter fun share => (beneficiary share).isNone).map fun share =>
        canonicalRole share.label := by
  calc (record.payouts.filter fun payout => payout.beneficiaryId.isNone).map PayoutLine.role
      = ((record.payouts.map fun line => (line.role, line.beneficiaryId)).filter
          fun line => line.2.isNone).map Prod.fst := by
        rw [List.filter_map, List.map_map]
        rfl
    _ = (shares.filter fun share => (beneficiary share).isNone).map fun share =>
          canonicalRole share.label := by
        rw [lines, List.filter_map, List.map_map]
        rfl

variable (H) in
/-- The id of a credit in the settlement `signature`. -/
def Credit.entryId (signature : JsString) (credit : Credit) : JsString :=
  ledgerEntryId H signature (canonicalRole credit.label) (.text credit.beneficiaryId)

/-- The ids of a settlement's entries are those of its credits. -/
theorem map_entryId_entries {booking : Booking} {entries : List LedgerEntry}
    (h : booking.entries H = .ok entries) :
    entries.map LedgerEntry.entryId =
      (booking.credits H).map (Credit.entryId H booking.evidence.signature) := by
  simp only [Booking.entries, bind_eq_ok, Except.ok.injEq] at h
  obtain ⟨reconciliation, reconciled, accrued, allocated, rfl⟩ := h
  obtain ⟨record, rfl, signature, _, lines⟩ := Evidence.reconcile_ok reconciled
  have direct : (reconciliationOf H record).directEntries.map LedgerEntry.entryId =
      (booking.directCredits H).map (Credit.entryId H booking.evidence.signature) := by
    have paired (own : List PayoutLine) :
        (own.filterMap (directEntry H record.signature)).map LedgerEntry.entryId =
          (own.map fun line => (line.role, line.beneficiaryId)).filterMap fun line =>
            line.2.map fun id => ledgerEntryId H record.signature line.1 id := by
      rw [List.map_filterMap, List.filterMap_map]
      refine List.filterMap_congr fun line _ => ?_
      simp only [Function.comp_apply, directEntry, Option.map_map]
      rfl
    rw [reconciliationOf, paired, lines, List.filterMap_map, Booking.directCredits,
      List.map_filterMap]
    refine List.filterMap_congr fun share _ => ?_
    simp only [Function.comp_apply, Option.map_map]
    rw [signature]
    rfl
  rw [List.map_append, direct, map_entryId_allocateAll allocated, pooled_roles lines, Booking.credits,
    List.map_append, Booking.accruedCredits, Booking.pooledShares, List.zip_map_left,
    List.flatMap_map, List.map_flatMap]
  refine congrArg _ (List.flatMap_congr fun shared _ => ?_)
  rw [List.map_map, show (reconciliationOf H record).record.signature = booking.evidence.signature
    from signature]
  rfl

/-! ### Clashing credits -/

namespace Credit

/-- The role and the beneficiary as UTF-8 keeps them. -/
def role (credit : Credit) : JsString := toWellFormed (canonicalRole credit.label)

def beneficiary (credit : Credit) : JsString := toWellFormed credit.beneficiaryId

/-- The role ends where the other's has a NUL, and the beneficiary continues as
the other's role does. -/
def RunsInto (credit other : Credit) : Prop :=
  ∃ middle, other.role = credit.role ++ 0 :: middle ∧
    credit.beneficiary = middle ++ 0 :: other.beneficiary

/-- The two credits of one settlement get one entry id: they agree in role and
beneficiary, or a NUL in one's role passes for the end of the other's. -/
def Clash (credit other : Credit) : Prop :=
  (credit.role = other.role ∧ credit.beneficiary = other.beneficiary) ∨
    credit.RunsInto other ∨ other.RunsInto credit

theorem joined_eq_iff {credit other : Credit} :
    credit.role ++ 0 :: credit.beneficiary = other.role ++ 0 :: other.beneficiary ↔
      credit.Clash other := by
  rw [List.append_eq_append_iff]
  constructor
  · rintro (⟨middle, role, rest⟩ | ⟨middle, role, rest⟩)
    · cases middle with
      | nil =>
          rw [List.append_nil] at role
          exact .inl ⟨role.symm, (List.cons.inj rest).2⟩
      | cons unit middle =>
          obtain ⟨rfl, continued⟩ := List.cons.inj rest
          exact .inr (.inl ⟨middle, role, continued⟩)
    · cases middle with
      | nil =>
          rw [List.append_nil] at role
          exact .inl ⟨role, (List.cons.inj rest).2.symm⟩
      | cons unit middle =>
          obtain ⟨rfl, continued⟩ := List.cons.inj rest
          exact .inr (.inr ⟨middle, role, continued⟩)
  · rintro (⟨role, beneficiary⟩ | ⟨middle, role, rest⟩ | ⟨middle, role, rest⟩)
    · exact .inl ⟨[], by rw [List.append_nil, role], by rw [beneficiary]; rfl⟩
    · exact .inl ⟨0 :: middle, role, by rw [rest]; rfl⟩
    · exact .inr ⟨0 :: middle, role, by rw [rest]; rfl⟩

instance : DecidableRel Clash := fun _ _ => decidable_of_iff _ joined_eq_iff

/-- The bytes that the id of a credit hashes. -/
def hashed (signature : JsString) (credit : Credit) : Bytes :=
  textEncode (signature ++ 0 :: (canonicalRole credit.label ++ 0 :: credit.beneficiaryId))

/-- Under base58 signatures, two credits hash the same bytes exactly when they
clash in one settlement. -/
theorem hashed_inj {bytes bytes' : Bytes} {credit other : Credit} :
    credit.hashed (base58Encode bytes) = other.hashed (base58Encode bytes') ↔
      base58Encode bytes = base58Encode bytes' ∧ credit.Clash other := by
  rw [hashed, hashed, textEncode_inj, toWellFormed_append_nul, toWellFormed_append_nul,
    toWellFormed_append_nul, toWellFormed_append_nul, toWellFormed_base58Encode,
    toWellFormed_base58Encode, append_nul_inj (nul_notMem_base58Encode bytes)
      (nul_notMem_base58Encode bytes'), ← joined_eq_iff]
  rfl

end Credit

variable (H) in
/-- The bytes that the ids of these settlements' entries hash. -/
def hashedBytes (bookings : List Booking) : List Bytes :=
  bookings.flatMap fun booking =>
    (booking.credits H).map (Credit.hashed booking.evidence.signature)

variable (H) in
/-- The signatures of the settlements are different base58 texts, and no two of
the texts that their entry ids hash collide. -/
structure SignedApart (bookings : List Booking) : Prop where
  base58 : ∀ booking ∈ bookings, ∃ bytes, booking.evidence.signature = base58Encode bytes
  different : (bookings.map fun booking => booking.evidence.signature).Nodup
  hashes : Set.InjOn H.sha256 {bytes | bytes ∈ hashedBytes H bookings}

/-- Two entries of such settlements have one id exactly when they are of one
settlement and clash. -/
theorem SignedApart.entryId_inj {bookings : List Booking} (apart : SignedApart H bookings)
    {booking booking' : Booking} (mem : booking ∈ bookings) (mem' : booking' ∈ bookings)
    {credit credit' : Credit} (own : credit ∈ booking.credits H)
    (own' : credit' ∈ booking'.credits H) :
    credit.entryId H booking.evidence.signature = credit'.entryId H booking'.evidence.signature ↔
      booking.evidence.signature = booking'.evidence.signature ∧ credit.Clash credit' := by
  have inside {booking : Booking} (mem : booking ∈ bookings) {credit : Credit}
      (own : credit ∈ booking.credits H) :
      credit.hashed booking.evidence.signature ∈ hashedBytes H bookings :=
    List.mem_flatMap.mpr ⟨booking, mem, List.mem_map_of_mem own⟩
  obtain ⟨bytes, spelled⟩ := apart.base58 booking mem
  obtain ⟨bytes', spelled'⟩ := apart.base58 booking' mem'
  have hashed : credit.hashed (base58Encode bytes) = credit'.hashed (base58Encode bytes') ↔
      base58Encode bytes = base58Encode bytes' ∧ credit.Clash credit' := Credit.hashed_inj
  rw [← spelled, ← spelled'] at hashed
  rw [← hashed]
  constructor
  · intro same
    exact apart.hashes (inside mem own) (inside mem' own') (Subtype.ext (hexText_injective same))
  · intro same
    exact congrArg (fun bytes => hexText (H.sha256 bytes).val) same

/-- **When entry ids are distinct.** For settlements with different base58
signatures, where the hash does not collide on them, the ids of all direct and
accrued entries together are distinct exactly when no two credits of one
settlement clash. -/
theorem entry_ids_distinct_iff (H : Host) (bookings : List Booking)
    (entries : List (List LedgerEntry))
    (booked : List.Forall₂ (fun booking own => booking.entries H = .ok own) bookings entries)
    (apart : SignedApart H bookings) :
    (entries.flatten.map LedgerEntry.entryId).Nodup ↔
      ∀ booking ∈ bookings, (booking.credits H).Pairwise fun credit other =>
        ¬ credit.Clash other := by
  have ids : entries.flatten.map LedgerEntry.entryId = bookings.flatMap fun booking =>
      (booking.credits H).map (Credit.entryId H booking.evidence.signature) := by
    clear apart
    induction booked with
    | nil => rfl
    | cons here _ ih =>
        rw [List.flatten_cons, List.map_append, map_entryId_entries here, ih, List.flatMap_cons]
  have within (booking : Booking) (mem : booking ∈ bookings) :
      ((booking.credits H).map (Credit.entryId H booking.evidence.signature)).Nodup ↔
        (booking.credits H).Pairwise fun credit other => ¬ credit.Clash other := by
    rw [List.Nodup, List.pairwise_map]
    refine List.Pairwise.iff_of_mem fun own own' => not_congr ?_
    rw [apart.entryId_inj mem mem own own', and_iff_right rfl]
  have across : bookings.Pairwise (Function.onFun List.Disjoint fun booking =>
      (booking.credits H).map (Credit.entryId H booking.evidence.signature)) := by
    refine (List.pairwise_map.mp apart.different).imp_of_mem fun mem mem' different => ?_
    intro id left right
    obtain ⟨credit, own, rfl⟩ := List.mem_map.mp left
    obtain ⟨credit', own', same⟩ := List.mem_map.mp right
    exact different ((apart.entryId_inj mem mem' own own').mp same.symm).1
  rw [ids, List.nodup_flatMap, and_iff_left across]
  exact forall₂_congr within

/-- The ids of entries are distinct for all settlements and allocations. -/
def EntryIdsDistinct : Prop :=
  ∀ (H : Host) (bookings : List Booking) (entries : List (List LedgerEntry)),
    List.Forall₂ (fun booking own => booking.entries H = .ok own) bookings entries →
    SignedApart H bookings → (entries.flatten.map LedgerEntry.entryId).Nodup

/-- What a finalized settlement of the sample request shows. -/
def sampleObservation : ProgramSettlementObservation where
  signature := js "sent"
  slot := 7
  blockTime := 1767225600
  programId := toBase58 sampleDeployment.programId
  payer := toBase58 samplePayer
  authority := toBase58 sampleAuthority
  ns := toBase58 sampleNamespace
  record := js "record"
  eventSeedHex := hexText (sampleHost.sha256 (textEncode sampleRequest.eventId)).val
  amountOnChain := 1001
  bps := [.ofInt 7000, .ofInt 3000]
  recipients := sampleRequest.shares.map ShareInput.recipient
  transfers :=
    [⟨toBase58 samplePayer, toBase58 sampleRecipient, 700⟩,
      ⟨toBase58 samplePayer, toBase58 samplePayer, 301⟩]
  memo := .object ((memoMembers sampleRequest 1001).map fun member => (member.1, .string member.2))

theorem sampleObservation_base58 :
    sampleObservation.signature = base58Encode ((base58Decode (js "sent")).getD []) := by
  decide +kernel

/-- The sample settlement with its shares under these labels. -/
def sampleBooking (labels : List JsString) (beneficiaryIds : List (JsString × JsString))
    (allocations : List (List PoolAllocation)) : Booking where
  evidence := .native sampleObservation
    { request := { sampleRequest with shares := (sampleRequest.shares.zip labels).map fun named =>
        { named.1 with label := named.2 } }
      ns := sampleNamespace
      unitsPerAtomicUnit := 1
      beneficiaryIds := beneficiaryIds }
  allocations := allocations

/-- A creator's share and a pooled share that two listeners are allocated. -/
def samplePooled : Booking :=
  sampleBooking [js "creator", js "rewards_pool"] []
    [[⟨js "listener:1", none, 200⟩, ⟨js "listener:2", none, 101⟩]]

/-- The sample's entries have distinct ids. -/
theorem entry_ids_distinct_iff_sample : ∃ entries, samplePooled.entries sampleHost = .ok entries ∧
    (entries.map LedgerEntry.entryId).Nodup := by
  obtain ⟨entries, own⟩ := exists_ok_of_isOk
    (show (samplePooled.entries sampleHost).isOk by decide +kernel)
  have hashes : ∀ bytes ∈ hashedBytes sampleHost [samplePooled],
      ∀ bytes' ∈ hashedBytes sampleHost [samplePooled],
      sampleHost.sha256 bytes = sampleHost.sha256 bytes' → bytes = bytes' := by decide +kernel
  have distinct := (entry_ids_distinct_iff sampleHost [samplePooled] [entries] (.cons own .nil)
    ⟨List.forall_mem_singleton.mpr ⟨_, sampleObservation_base58⟩, List.nodup_singleton _,
      fun bytes mem bytes' mem' => hashes bytes mem bytes' mem'⟩).mpr
    (List.forall_mem_singleton.mpr (by decide +kernel))
  rw [List.flatten_cons, List.flatten_nil, List.append_nil] at distinct
  exact ⟨entries, own, distinct⟩

/-- The labels `synxed` and `platform` are booked under one role, so two shares
for one organisation have one id. -/
theorem not_entry_ids_distinct : ¬ EntryIdsDistinct := by
  intro distinct
  let booking := sampleBooking [js "synxed", js "platform"]
    [(js "synxed", js "org:1"), (js "platform", js "org:1")] []
  obtain ⟨entries, own⟩ := exists_ok_of_isOk
    (show (booking.entries sampleHost).isOk by decide +kernel)
  have one : ∃ bytes, hashedBytes sampleHost [booking] = [bytes, bytes] := ⟨_, rfl⟩
  obtain ⟨bytes, hashed⟩ := one
  have apart := distinct sampleHost [booking] [entries] (.cons own .nil)
    ⟨List.forall_mem_singleton.mpr ⟨_, sampleObservation_base58⟩, List.nodup_singleton _, by
      rw [hashed]
      intro left mem right mem' _
      simp only [List.mem_cons, List.not_mem_nil, or_false, or_self, Set.mem_ofPred_eq] at mem mem'
      rw [mem, mem']⟩
  rw [List.flatten_cons, List.flatten_nil, List.append_nil, map_entryId_entries own] at apart
  exact absurd apart (by decide +kernel)

/-! ### Plain labels -/

/-- The ids of each allocation are distinct. -/
theorem nodup_of_allocateAll {signature : JsString} {payouts : List PayoutLine}
    {allocations : List (List PoolAllocation)} {entries : List LedgerEntry}
    (h : allocateAll H signature payouts allocations = .ok entries) :
    ∀ allocation ∈ allocations.take payouts.length,
      (allocation.map PoolAllocation.beneficiaryId).Nodup := by
  induction payouts generalizing allocations entries with
  | nil => exact fun _ mem => nomatch mem
  | cons payout payouts ih =>
      cases allocations with
      | nil => exact fun _ mem => nomatch mem
      | cons allocation allocations =>
          simp only [allocateAll, bind_eq_ok] at h
          obtain ⟨here, allocated, later, rest, _⟩ := h
          rw [List.length_cons, List.take_succ_cons, List.forall_mem_cons]
          refine ⟨?_, ih rest⟩
          unfold allocateUnlessHeld at allocated
          split at allocated
          · next empty =>
              rw [List.length_eq_zero_iff.mp empty]
              exact List.nodup_nil
          · exact (allocatePoolPayout_eq_ok.mp allocated).2.2.2.1

/-- No settlement has two equal credits. -/
theorem nodup_credits {booking : Booking} {entries : List LedgerEntry}
    (h : booking.entries H = .ok entries) : (booking.credits H).Nodup := by
  simp only [Booking.entries, bind_eq_ok] at h
  obtain ⟨reconciliation, reconciled, accrued, allocated, _⟩ := h
  obtain ⟨record, rfl, _, ⟨result, computed⟩, lines⟩ := Evidence.reconcile_ok reconciled
  have labels := labels_nodup computed
  have same {share other : ShareInput} (mem : share ∈ booking.evidence.request.shares)
      (mem' : other ∈ booking.evidence.request.shares) (label : share.label = other.label) :
      share = other := List.inj_on_of_nodup_map labels mem mem' label
  have pooledCount : (reconciliationOf H record).poolPayouts.length =
      (booking.evidence.request.shares.filter fun share =>
        (booking.evidence.beneficiary share).isNone).length := by
    simpa using congrArg List.length (pooled_roles (H := H) lines)
  have ids := nodup_of_allocateAll allocated
  rw [pooledCount] at ids
  have pooled {shared : ShareInput × List PoolAllocation} (mem : shared ∈ booking.pooledShares) :
      shared.1 ∈ booking.evidence.request.shares ∧ booking.evidence.beneficiary shared.1 = none := by
    have inside := List.mem_filter.mp (List.of_mem_zip (a := shared.1) (b := shared.2) mem).1
    exact ⟨inside.1, Option.isNone_iff_eq_none.mp inside.2⟩
  have direct : (booking.directCredits H).Nodup := by
    refine List.Nodup.of_map Credit.label ?_
    have own : (booking.directCredits H).map Credit.label =
        (booking.evidence.request.shares.filter fun share =>
          (booking.evidence.beneficiary share).isSome).map ShareInput.label := by
      rw [Booking.directCredits, List.map_filterMap, ← List.filterMap_eq_filter, List.map_filterMap]
      refine List.filterMap_congr fun share _ => ?_
      cases held : booking.evidence.beneficiary share <;> simp [Option.guard, held]
    rw [own]
    exact labels.sublist (List.filter_sublist.map _)
  have accrued : booking.accruedCredits.Nodup := by
    have paired := @List.zip_eq_zip_take_min _ _ (booking.evidence.request.shares.filter
      fun share => (booking.evidence.beneficiary share).isNone) booking.allocations
    refine List.nodup_flatMap.mpr ⟨fun shared mem => ?_, ?_⟩
    · refine List.Nodup.of_map Credit.beneficiaryId ?_
      rw [List.map_map]
      rw [Booking.pooledShares, paired] at mem
      exact ids shared.2 ((List.take_sublist_take_left (min_le_left _ _)).subset
        (List.of_mem_zip (a := shared.1) (b := shared.2) mem).2)
    · have apart : (booking.pooledShares.map fun shared => shared.1.label).Nodup := by
        rw [← Function.comp_def ShareInput.label Prod.fst, ← List.map_map, Booking.pooledShares,
          paired, List.map_fst_zip (by simp)]
        exact labels.sublist (((List.take_sublist _ _).trans List.filter_sublist).map _)
      refine (List.pairwise_map.mp apart).imp fun different => ?_
      intro credit own own'
      obtain ⟨_, _, rfl⟩ := List.mem_map.mp own
      obtain ⟨_, _, same⟩ := List.mem_map.mp own'
      exact different (congrArg Credit.label same).symm
  refine List.nodup_append.mpr ⟨direct, accrued, fun credit own other own' equal => ?_⟩
  obtain ⟨share, mem, credited⟩ := List.mem_filterMap.mp own
  obtain ⟨id, held, rfl⟩ := Option.map_eq_some_iff.mp credited
  obtain ⟨shared, mem', own'⟩ := List.mem_flatMap.mp own'
  obtain ⟨allocation, _, rfl⟩ := List.mem_map.mp own'
  have label := congrArg Credit.label equal
  rw [same mem (pooled mem').1 label, (pooled mem').2] at held
  cases held

/-- Labels without NUL characters and unpaired surrogates, not both `synxed` and
`platform`, and beneficiary ids without unpaired surrogates. -/
structure Booking.Plain (H : Host) (booking : Booking) : Prop where
  labels : ∀ share ∈ booking.evidence.request.shares,
    0 ∉ share.label ∧ toWellFormed share.label = share.label
  ids : ∀ credit ∈ booking.credits H, toWellFormed credit.beneficiaryId = credit.beneficiaryId
  platform : ¬ (js "synxed" ∈ booking.evidence.request.shares.map ShareInput.label ∧
    js "platform" ∈ booking.evidence.request.shares.map ShareInput.label)

/-- Credits under plain labels do not clash. -/
theorem not_clash_of_plain {booking : Booking} {entries : List LedgerEntry}
    (h : booking.entries H = .ok entries) (plain : booking.Plain H) :
    (booking.credits H).Pairwise fun credit other => ¬ credit.Clash other := by
  have labelled {credit : Credit} (own : credit ∈ booking.credits H) :
      ∃ share ∈ booking.evidence.request.shares, share.label = credit.label := by
    rcases List.mem_append.mp own with direct | accrued
    · obtain ⟨share, mem, credited⟩ := List.mem_filterMap.mp direct
      obtain ⟨_, _, rfl⟩ := Option.map_eq_some_iff.mp credited
      exact ⟨share, mem, rfl⟩
    · obtain ⟨shared, mem, inside⟩ := List.mem_flatMap.mp accrued
      obtain ⟨_, _, rfl⟩ := List.mem_map.mp inside
      exact ⟨shared.1, (List.mem_filter.mp
        (List.of_mem_zip (a := shared.1) (b := shared.2) mem).1).1, rfl⟩
  have role {credit : Credit} (own : credit ∈ booking.credits H) :
      credit.role = canonicalRole credit.label ∧ 0 ∉ credit.role := by
    obtain ⟨share, mem, label⟩ := labelled own
    have plainLabel := plain.labels share mem
    rw [label] at plainLabel
    unfold Credit.role canonicalRole
    split
    · exact ⟨by decide, by decide⟩
    · rw [plainLabel.2]
      exact ⟨rfl, plainLabel.1⟩
  refine (nodup_credits h).imp_of_mem fun {credit other} own own' different clash => ?_
  rcases clash with ⟨roles, beneficiaries⟩ | ⟨middle, runs, _⟩ | ⟨middle, runs, _⟩
  · rw [(role own).1, (role own').1] at roles
    have ids : credit.beneficiaryId = other.beneficiaryId := by
      rw [← plain.ids credit own, ← plain.ids other own']
      exact beneficiaries
    have label : credit.label = other.label := by
      obtain ⟨share, mem, named⟩ := labelled own
      obtain ⟨share', mem', named'⟩ := labelled own'
      have both : ¬ (credit.label = js "synxed" ∧ other.label = js "platform") ∧
          ¬ (credit.label = js "platform" ∧ other.label = js "synxed") := by
        constructor
        · rintro ⟨synxed, platform⟩
          exact plain.platform ⟨List.mem_map.mpr ⟨share, mem, named.trans synxed⟩,
            List.mem_map.mpr ⟨share', mem', named'.trans platform⟩⟩
        · rintro ⟨platform, synxed⟩
          exact plain.platform ⟨List.mem_map.mpr ⟨share', mem', named'.trans synxed⟩,
            List.mem_map.mpr ⟨share, mem, named.trans platform⟩⟩
      unfold canonicalRole at roles
      split at roles <;> split at roles
      · next here there => exact here.trans there.symm
      · next here _ => exact absurd ⟨here, roles.symm⟩ both.1
      · next _ there => exact absurd ⟨roles, there⟩ both.2
      · exact roles
    cases credit
    cases other
    exact different (Credit.mk.injEq .. ▸ ⟨label, ids⟩)
  · exact (role own').2 (by rw [runs]; simp)
  · exact (role own).2 (by rw [runs]; simp)

end Synxed.Sdk
