import Synxed.Sdk.History
import Synxed.Sdk.Evidence

/-!
Two copies of one transaction, as two endpoints show it.

* `reconciled_copies`: copies that reconcile with one request give the same rows,
  and records that differ in what reconciling does not compare.
-/

namespace Synxed.Sdk

open Synxed.Lib Synxed.Program

variable {H : Host}

/-- The first accounts of the settlement instruction: its payer and the namespace
authority. -/
def settlementSigners (programId : Pubkey) (transaction : ParsedTransaction) : List Pubkey :=
  match findSettlementInstruction transaction programId with
  | .ok found => found.2.accounts.take 2
  | .error _ => []

/-- The date a transaction is booked at. -/
def settlementDate (transaction : ParsedTransaction) : Option JsString :=
  transaction.blockTime.bind fun blockTime => toISOString (blockTime * 1000)

/-- Two copies agree in what a reconciliation reads and does not compare. -/
structure Agree (programId : Pubkey) (copy copy' : ParsedTransaction) : Prop where
  slot : copy.slot = copy'.slot
  date : settlementDate copy = settlementDate copy'
  signers : settlementSigners programId copy = settlementSigners programId copy'

/-- Where an observation comes from. -/
theorem observeProgramSettlement_ok {transaction : ParsedTransaction} {signature : JsString}
    {programId : Pubkey} {observation : ProgramSettlementObservation}
    (observed : observeProgramSettlement H transaction signature programId = .ok observation) :
    ∃ payer authority ns eventSeed derived,
      settlementSigners programId transaction = [payer, authority] ∧
      findSettlementRecordPda H programId ns eventSeed = .ok derived ∧
      transaction.blockTime = some observation.blockTime ∧
      observation.signature = signature ∧ observation.slot = transaction.slot ∧
      observation.programId = toBase58 programId ∧ observation.payer = toBase58 payer ∧
      observation.authority = toBase58 authority ∧ observation.ns = toBase58 ns ∧
      observation.record = toBase58 derived.1 ∧ observation.eventSeedHex = hexText eventSeed := by
  simp only [observeProgramSettlement, bind_eq_ok, ensure_eq_ok, exists_const, Prod.exists,
    protocolCall_eq_ok, Except.ok.injEq] at observed
  obtain ⟨metadata, blockTime, succeeded, index, settlement, found, decoded, read, count, record, bump,
    derived, ⟨atRecord, _⟩, _, _, _, _, _, _, rfl⟩ := observed
  obtain ⟨_, _, _, time⟩ := assertSucceeded_eq_ok.mp succeeded
  have signers : settlementSigners programId transaction =
      [accountAt settlement.accounts 0, accountAt settlement.accounts 1] := by
    rw [settlementSigners, found]
    change settlement.accounts.take 2 = _
    match accounts : settlement.accounts with
    | payer :: authority :: rest => rfl
    | [] => simp [accounts] at count
    | [payer] => simp [accounts] at count
  exact ⟨_, _, _, _, _, signers, derived, time, rfl, rfl, rfl, rfl, rfl, rfl,
    congrArg toBase58 atRecord, rfl⟩

/-- A reconciliation is of the slot that was shown. -/
theorem reconciled_slot {options : ReconcileSettlementNOptions} {transaction : ParsedTransaction}
    {rows : SettlementReconciliation} (reconciled : reconcileTransaction H options transaction = .ok rows) :
    rows.record.slot = transaction.slot := by
  obtain ⟨observation, observed, compared⟩ := bind_eq_ok.mp reconciled
  obtain ⟨_, _, _, _, rfl⟩ := reconcileObservedSettlementN_eq_ok.mp compared
  obtain ⟨_, _, _, _, _, _, _, _, _, slot, _⟩ := observeProgramSettlement_ok observed
  exact slot

/-- Copies that reconcile with one request give the same rows. Their records
differ only in slot, payer, authority and date, and not at all exactly when the
copies agree in these. -/
theorem reconciled_copies {options : ReconcileSettlementNOptions} {copy copy' : ParsedTransaction}
    {rows rows' : SettlementReconciliation}
    (reconciled : reconcileTransaction H options copy = .ok rows)
    (reconciled' : reconcileTransaction H options copy' = .ok rows') :
    rows.directEntries = rows'.directEntries ∧ rows.poolPayouts = rows'.poolPayouts ∧
      rows.record = { rows'.record with
        slot := rows.record.slot
        payer := rows.record.payer
        authority := rows.record.authority
        settledAt := rows.record.settledAt } ∧
      (rows = rows' ↔ Agree options.programId copy copy') := by
  obtain ⟨observation, observed, compared⟩ := bind_eq_ok.mp reconciled
  obtain ⟨observation', observed', compared'⟩ := bind_eq_ok.mp reconciled'
  obtain ⟨amounts, date, found, dated, rfl⟩ := reconcileObservedSettlementN_eq_ok.mp compared
  obtain ⟨amounts', date', found', dated', rfl⟩ := reconcileObservedSettlementN_eq_ok.mp compared'
  obtain ⟨payer, authority, ns, seed, derived, signers, find, time, signature, slot, program, payerText,
    authorityText, nsText, record, seedText⟩ := observeProgramSettlement_ok observed
  obtain ⟨payer', authority', ns', seed', derived', signers', find', time', signature', slot', program',
    payerText', authorityText', nsText', record', seedText'⟩ := observeProgramSettlement_ok observed'
  obtain rfl : amounts = amounts' := Except.ok.inj (found.split.symm.trans found'.split)
  -- one event in one namespace has one record
  have sameNs : ns = ns' := toBase58_injective
    (nsText.symm.trans (found.ns.trans (found'.ns.symm.trans nsText')))
  have sameSeed : seed = seed' := by
    obtain ⟨eventSeed, seeded, hex⟩ := found.event
    obtain ⟨eventSeed', seeded', hex'⟩ := found'.event
    obtain rfl := Except.ok.inj (seeded.symm.trans seeded')
    exact hexText_injective (seedText.symm.trans (hex.trans (hex'.symm.trans seedText')))
  subst sameNs sameSeed
  obtain rfl := Except.ok.inj (find.symm.trans find')
  have sameRecord := record.trans record'.symm
  have payouts : (nativeRecord observation options.toReconcileObservedSettlementNOptions amounts
      date).payouts = (nativeRecord observation' options.toReconcileObservedSettlementNOptions amounts
      date').payouts := rfl
  have sameSignature := signature.trans signature'.symm
  refine ⟨?_, ?_, ?_, ?_⟩
  · simp only [reconciliationOf, payouts]
    rw [show (nativeRecord observation options.toReconcileObservedSettlementNOptions amounts
      date).signature = observation'.signature from sameSignature]
    rfl
  · simp only [reconciliationOf, payouts]
  · simp only [reconciliationOf, nativeRecord, sameSignature, sameRecord, program, program', nsText,
      nsText']
  · have date_eq : settlementDate copy = some date := by rw [settlementDate, time]; exact dated
    have date_eq' : settlementDate copy' = some date' := by rw [settlementDate, time']; exact dated'
    constructor
    · intro same
      have records : nativeRecord observation _ amounts date = nativeRecord observation' _ amounts date' :=
        congrArg SettlementReconciliation.record same
      simp only [nativeRecord, SettlementRecord.mk.injEq] at records
      obtain ⟨_, _, sameSlot, _, _, _, sameAuthority, samePayer, _, _, _, _, _, _, _, _, _, sameDate⟩ :=
        records
      refine ⟨slot.symm.trans (sameSlot.trans slot'), ?_, ?_⟩
      · rw [date_eq, date_eq', sameDate]
      · rw [signers, signers',
          toBase58_injective (payerText.symm.trans (samePayer.trans payerText')),
          toBase58_injective (authorityText.symm.trans (sameAuthority.trans authorityText'))]
    · rintro ⟨sameSlot, sameDate, sameSigners⟩
      rw [date_eq, date_eq', Option.some.injEq] at sameDate
      rw [signers, signers', List.cons.injEq, List.cons.injEq] at sameSigners
      obtain ⟨rfl, rfl, _⟩ := sameSigners
      refine congrArg (reconciliationOf H) ?_
      simp only [nativeRecord, sameSignature, sameRecord, program, program', nsText, nsText', slot, slot',
        sameSlot, sameDate, payerText, payerText', authorityText, authorityText']

/-- Rows with the same entries and payouts account for the same. -/
theorem AccountsFor.copied {rows rows' : SettlementReconciliation} {request : SettlementRequestN}
    {amount : UInt64} {bps : List UInt16} (accounts : AccountsFor rows' request amount bps)
    (direct : rows.directEntries = rows'.directEntries) (pool : rows.poolPayouts = rows'.poolPayouts)
    (payouts : rows.record.payouts = rows'.record.payouts) : AccountsFor rows request amount bps where
  partition := by
    rw [Partitions, direct, pool, payouts]
    exact accounts.partition
  lines := by
    rw [paidBy, payouts]
    exact accounts.lines
  total := by
    rw [paidBy, payouts]
    exact accounts.total

end Synxed.Sdk
