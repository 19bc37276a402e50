import Synxed.Sdk.Readers
import Synxed.Studio.World

/-!
What the evidence of a landing proves on the chain it came from.

* `Grown.settles_of_reconciled`: a landing that reconciles with a request
  settled the request's event.
* `SettledBy.unique`: the rows that an event's creating transaction gives a
  request are the same whenever they are made.
-/

namespace Synxed.Studio

open Synxed.Lib Synxed.Program Synxed.Sdk

variable {D : Deployment} {H : Host} {net : Network} {cluster cluster' : Cluster D}

/-- What is observed of a landing is of one that succeeded. -/
theorem Landing.succeeded_of_observed {landing : Landing D} {signature : JsString}
    {programId : Pubkey} {observation : ProgramSettlementObservation}
    (observed : observeProgramSettlement H landing.shown signature programId = .ok observation) :
    landing.error = none := by
  cases failed : landing.error with
  | none => rfl
  | some error =>
      obtain ⟨metadata, shown, err⟩ := landing.failed error failed
      obtain ⟨⟨metadata', blockTime⟩, succeeded, _⟩ := bind_eq_ok.mp observed
      obtain ⟨shown', noError, _⟩ := assertSucceeded_eq_ok.mp succeeded
      rw [shown, Option.some.injEq] at shown'
      rw [← shown', err] at noError
      cases noError

namespace Cluster

/-- A landing that reconciles with a request settled the request's event, in
the namespace it was compared with. -/
theorem Grown.settles_of_reconciled (grown : Grown net cluster) {landing : Landing D}
    (mem : landing ∈ cluster.ledger) {options : ReconcileSettlementNOptions}
    (program : options.programId = D.programId) {reconciliation : SettlementReconciliation}
    (reconciled : reconcileTransaction H options landing.shown = .ok reconciliation) :
    ∃ seed, eventIdSeed H options.request.eventId = .ok seed ∧ landing.Settles options.ns seed := by
  obtain ⟨observation, observed, compared⟩ := bind_eq_ok.mp reconciled
  rw [program] at observed
  have succeeded := Landing.succeeded_of_observed observed
  obtain ⟨top, seed, amount, bps, recipients, only, seeded, _, _, _, settled, _⟩ :=
    (reconciliation_sound H D landing.executed landing.shown options.signature
      (landing.truthful succeeded)).1 observation _ reconciliation observed compared
  obtain ⟨accounts, before, after, ran, payer, record, rfl, _, nsAt, _, _, _, valid, _⟩ := settled
  have inside : TopLevel.program accounts (SettlementInstruction.settleN seed amount bps).pack before
      after ran ∈ landing.executed := List.mem_of_mem_filter (only ▸ List.mem_singleton_self _)
  obtain ⟨_, _, unfolds⟩ := grown.unfolds mem succeeded
  refine ⟨seed, seeded, succeeded, _, unfolds.mem_items inside, amount, ?_⟩
  have decoded := SettlementInstruction.unpack_pack
    (show (SettlementInstruction.settleN seed amount bps).WellFormed from valid.count)
  simp only [Item.settlement, decoded, nsAt, SettlementInstruction.settlement, Option.map_some]

/-- A settled event's record is read. -/
theorem Holds.read {ns : Pubkey} {seed : Bytes32} {amount : UInt64}
    (holds : cluster.Holds ns seed amount) :
    readSettlementRecord D.programId (recordAddress D ns seed)
        (existing (cluster.accounts (recordAddress D ns seed))) seed =
      .ok (some ⟨recordAddress D ns seed, amount.toNat⟩) :=
  readSettlementRecord_owned holds

end Cluster

/-! ### The rows of a settled event -/

variable (H) in
/-- The rows that the finalized transaction with this signature gives a request,
whatever the scale and the cluster's label it is reconciled with. -/
def SettledBy (ns : Pubkey) (cluster : Cluster D) (request : SettlementRequestN)
    (beneficiaryIds : List (JsString × JsString)) (signature : JsString)
    (directEntries : List LedgerEntry) (poolPayouts : List PayoutLine) : Prop :=
  ∃ landing ∈ cluster.finalizedLedger, landing.transaction.id = signature ∧
    ∃ (options : ReconcileSettlementNOptions) (reconciliation : SettlementReconciliation),
      options.signature = signature ∧ options.programId = D.programId ∧ options.ns = ns ∧
      options.request = request ∧ options.beneficiaryIds = beneficiaryIds ∧
      options.pooledLabels = [js "rewards_pool"] ∧
      reconcileTransaction H options landing.shown = .ok reconciliation ∧
      reconciliation.directEntries = directEntries ∧ reconciliation.poolPayouts = poolPayouts

/-- What a reconciled landing gives a request: its rows do not depend on the
scale or the label. -/
theorem reconciled_rows {transaction : ParsedTransaction} {options options' : ReconcileSettlementNOptions}
    {reconciliation reconciliation' : SettlementReconciliation}
    (signature : options.signature = options'.signature)
    (program : options.programId = options'.programId) (request : options.request = options'.request)
    (beneficiaryIds : options.beneficiaryIds = options'.beneficiaryIds)
    (pooled : options.pooledLabels = options'.pooledLabels)
    (reconciled : reconcileTransaction H options transaction = .ok reconciliation)
    (reconciled' : reconcileTransaction H options' transaction = .ok reconciliation') :
    reconciliation.directEntries = reconciliation'.directEntries ∧
      reconciliation.poolPayouts = reconciliation'.poolPayouts := by
  obtain ⟨observation, observed, compared⟩ := bind_eq_ok.mp reconciled
  obtain ⟨observation', observed', compared'⟩ := bind_eq_ok.mp reconciled'
  rw [signature, program, observed', Except.ok.injEq] at observed
  subst observed
  obtain ⟨amounts, time, found, _, rfl⟩ := reconcileObservedSettlementN_eq_ok.mp compared
  obtain ⟨amounts', time', found', _, rfl⟩ := reconcileObservedSettlementN_eq_ok.mp compared'
  -- both split the amount on chain
  have total := found.amount.symm.trans found'.amount
  have split := found.split
  rw [total, request, found'.split, Except.ok.injEq] at split
  subst split
  have payouts : (nativeRecord observation' options.toReconcileObservedSettlementNOptions amounts'
      time).payouts = (nativeRecord observation' options'.toReconcileObservedSettlementNOptions
      amounts' time').payouts := by
    simp only [nativeRecord, request, beneficiaryIds, pooled]
  constructor
  · simp only [reconciliationOf, payouts]
    rfl
  · simp only [reconciliationOf, payouts]

/-- A reconciliation is of the signature that was asked for. -/
theorem reconciled_signature {transaction : ParsedTransaction} {options : ReconcileSettlementNOptions}
    {reconciliation : SettlementReconciliation}
    (reconciled : reconcileTransaction H options transaction = .ok reconciliation) :
    reconciliation.record.signature = options.signature := by
  obtain ⟨observation, observed, compared⟩ := bind_eq_ok.mp reconciled
  obtain ⟨amounts, time, _, _, rfl⟩ := reconcileObservedSettlementN_eq_ok.mp compared
  simp only [observeProgramSettlement, bind_eq_ok, ensure_eq_ok, exists_const, Prod.exists,
    Except.ok.injEq] at observed
  obtain ⟨_, _, _, _, _, _, _, _, _, _, _, _, _, _, _, _, _, _, _, rfl⟩ := observed
  rfl

namespace SettledBy

variable {ns : Pubkey} {request : SettlementRequestN} {beneficiaryIds : List (JsString × JsString)}
  {signature signature' : JsString} {directEntries directEntries' : List LedgerEntry}
  {poolPayouts poolPayouts' : List PayoutLine}

theorem later (settled : SettledBy H ns cluster request beneficiaryIds signature directEntries
    poolPayouts) (later : Cluster.Later net cluster cluster') :
    SettledBy H ns cluster' request beneficiaryIds signature directEntries poolPayouts := by
  obtain ⟨landing, mem, rest⟩ := settled
  exact ⟨landing, later.mem_finalizedLedger mem, rest⟩

/-- The event was settled, so its record is there. -/
theorem holds (settled : SettledBy H ns cluster request beneficiaryIds signature directEntries
    poolPayouts) (grown : cluster.Grown net) :
    ∃ seed amount, eventIdSeed H request.eventId = .ok seed ∧ cluster.Holds ns seed amount := by
  obtain ⟨landing, mem, _, options, reconciliation, _, program, rfl, rfl, _, _, reconciled, _⟩ := settled
  have inLedger := Cluster.mem_of_mem_finalizedLedger mem
  obtain ⟨seed, seeded, settles⟩ := grown.settles_of_reconciled inLedger program reconciled
  obtain ⟨amount, holds⟩ := grown.recorded inLedger settles
  exact ⟨seed, amount, seeded, holds⟩

/-- One transaction settles the event, and it gives the request the same rows
every time. -/
theorem unique (settled : SettledBy H ns cluster request beneficiaryIds signature directEntries
    poolPayouts) (settled' : SettledBy H ns cluster request beneficiaryIds signature' directEntries'
    poolPayouts') (grown : cluster.Grown net) :
    signature = signature' ∧ directEntries = directEntries' ∧ poolPayouts = poolPayouts' := by
  obtain ⟨landing, mem, id, options, reconciliation, sameSignature, program, sameNs, sameRequest,
    sameIds, pooled, reconciled, rfl, rfl⟩ := settled
  obtain ⟨landing', mem', id', options', reconciliation', sameSignature', program', sameNs',
    sameRequest', sameIds', pooled', reconciled', rfl, rfl⟩ := settled'
  have inLedger := Cluster.mem_of_mem_finalizedLedger mem
  have inLedger' := Cluster.mem_of_mem_finalizedLedger mem'
  obtain ⟨seed, seeded, settles⟩ := grown.settles_of_reconciled inLedger program reconciled
  obtain ⟨seed', seeded', settles'⟩ := grown.settles_of_reconciled inLedger' program' reconciled'
  rw [sameRequest] at seeded
  rw [sameRequest', seeded, Except.ok.injEq] at seeded'
  rw [sameNs] at settles
  rw [sameNs', ← seeded'] at settles'
  obtain rfl := grown.landing_unique inLedger inLedger' settles settles'
  have same : signature = signature' := id.symm.trans id'
  refine ⟨same, ?_⟩
  exact reconciled_rows (by rw [sameSignature, sameSignature', same]) (program.trans program'.symm)
    (sameRequest.trans sameRequest'.symm) (sameIds.trans sameIds'.symm) (pooled.trans pooled'.symm)
    reconciled reconciled'

end SettledBy

end Synxed.Studio
