import Synxed.Sdk.Completeness
import Synxed.Sdk.History

/-!
The client's own settlements as a reader finds them.

* `reconcileTransaction_own`: a transaction that the client built reconciles, with
  its own request, namespace and scale, if what it moved can be shown.
* `reconcileTransaction_named`: beneficiary ids only label rows.
* `beneficiary_of_directEntries`, `exists_directEntry`: the beneficiaries of its rows are
  those of its shares.
-/

namespace Synxed.Sdk

open Synxed.Lib Synxed.Program

variable {D : Deployment} {H : Host}

/-! ### Evidence that can be shown -/

/-- Every amount that the program moved fits a JSON number. -/
def MovesFit (executed : List (TopLevel D)) : Prop :=
  ∀ accounts data before after (ran : processInstruction D accounts data before = .ok after),
    TopLevel.program accounts data before after ran ∈ executed → ∀ cpi ∈ after.inner, FitsNumber cpi

/-- The block has a time, which is a date. -/
def Dated (transaction : ParsedTransaction) : Prop :=
  ∃ blockTime time, transaction.blockTime = some blockTime ∧ settledAt blockTime = .ok time

/-! ### What a build comes to -/

section Built

variable {options : BuildSettlementNOptions} {prepared : PreparedSettlementN} {ns : Pubkey}
  {executed : List (TopLevel D)} {transaction : ParsedTransaction}

/-- The settlement of a build ran at top level, in its namespace and for its event. -/
theorem settles_of_runs (inNs : options.ns = some ns) (program : options.programId = some D.programId)
    (built : buildSettlementNTransaction H options = .ok prepared)
    (runs : List.Forall₂ Runs prepared.transaction executed) :
    ∃ seed amount accounts data before after ran, eventIdSeed H options.request.eventId = .ok seed ∧
      TopLevel.program accounts data before after ran ∈ executed ∧
      (Item.instruction accounts data).settlement = some (ns, seed, amount) := by
  obtain ⟨total, bps, recipients, seed, accounts, before, after, ran, index, native, seeded, _, on,
    builtRan⟩ := ranBuilt_of_runs inNs program built runs
  have inside := List.mem_of_getElem? builtRan.executed_index
  refine ⟨seed, total, accounts, _, before, after, ran, seeded, inside, ?_⟩
  have count : bps.length ≠ 0 ∧ bps.length ≤ maxShares := native.valid.count
  have decoded := SettlementInstruction.unpack_pack
    (show (SettlementInstruction.settleN seed total bps).WellFormed from count)
  have nsAt : keyAt accounts 2 = some ns := by
    rw [keyAt, ← List.getElem?_map, on, settleNInstruction_keys]
    rfl
  simp only [Item.settlement, decoded, nsAt, SettlementInstruction.settlement, Option.map_some]

/-- A built settlement that ran reconciles with its own request. -/
theorem reconcileTransaction_own (sameAddresses : D.addresses = H.addresses)
    (inNs : options.ns = some ns) (program : options.programId = some D.programId)
    (built : buildSettlementNTransaction H options = .ok prepared)
    (runs : List.Forall₂ Runs prepared.transaction executed) (fits : MovesFit executed)
    (truthful : Truthful executed transaction) (dated : Dated transaction)
    {given : ReconcileSettlementNOptions} (signed : given.signature ∈ transaction.signatures)
    (sameProgram : given.programId = D.programId) (sameNs : given.ns = ns)
    (sameRequest : given.request = options.request)
    (sameScale : given.unitsPerAtomicUnit = options.lamportsPerAtomicUnit.getD 1)
    (named : ∀ own ∈ given.beneficiaryIds, trim own.2 ≠ []) :
    ∃ reconciliation, reconcileTransaction H given transaction = .ok reconciliation := by
  obtain ⟨total, bps, recipients, seed, accounts, before, after, ran, index, native, seeded,
    distinct, on, builtRan⟩ := ranBuilt_of_runs inNs program built runs
  obtain ⟨blockTime, time, hasTime, date⟩ := dated
  subst sameNs
  have count : recipients.length = bps.length := by
    have keyCount := congrArg List.length native.keys
    have shareCount := congrArg List.length native.shares
    simp only [List.length_map] at keyCount shareCount
    rw [keyCount, shareCount]
  have inner := settleNInstruction_inner (D := D) ⟨D.programId, options.payer,
    options.authority.getD options.payer, given.ns, recipients⟩ count native.valid.count
    (by rw [sameAddresses]; exact on) ran
  have observed := observeProgramSettlement_built
    ⟨D.programId, options.payer, options.authority.getD options.payer, given.ns, recipients⟩
    (memoMembers options.request prepared.lamportsTotal)
    on sameAddresses rfl count native.valid.count builtRan (by simp [memoMembers])
    truthful signed hasTime
  rw [if_pos (fits _ _ _ _ ran (List.mem_of_getElem? builtRan.executed_index)), ← sameAddresses]
    at observed
  rw [← sameAddresses] at distinct
  have here := (congrArg (observeProgramSettlement H transaction given.signature) sameProgram).trans
    observed
  exact ⟨_, bind_eq_ok.mpr ⟨_, here, reconcileObservedSettlementN_eq_ok.mpr
    ⟨prepared.lamportsByShare, time,
      nativeMatch_built native seeded inner distinct sameRequest sameScale named,
      settledAt_eq_ok.mp date, rfl⟩⟩⟩

end Built

/-! ### Beneficiary ids -/

/-- Whether a settlement reconciles does not depend on the beneficiary ids, if none is
blank. -/
theorem reconcileTransaction_named {given given' : ReconcileSettlementNOptions}
    {transaction : ParsedTransaction} {reconciliation : SettlementReconciliation}
    (reconciled : reconcileTransaction H given transaction = .ok reconciliation)
    (same : given' = { given with beneficiaryIds := given'.beneficiaryIds })
    (named : ∀ own ∈ given'.beneficiaryIds, trim own.2 ≠ []) :
    ∃ reconciliation', reconcileTransaction H given' transaction = .ok reconciliation' := by
  obtain ⟨observation, observed, compared⟩ := bind_eq_ok.mp reconciled
  obtain ⟨amounts, time, found, date, _⟩ := reconcileObservedSettlementN_eq_ok.mp compared
  have found' : NativeMatch H observation
      { given.toReconcileObservedSettlementNOptions with beneficiaryIds := given'.beneficiaryIds }
      amounts := { found with beneficiaries := named }
  rw [same]
  exact ⟨_, bind_eq_ok.mpr ⟨observation, observed,
    reconcileObservedSettlementN_eq_ok.mpr ⟨amounts, time, found', date, rfl⟩⟩⟩

/-- The direct entries of a reconciliation have the beneficiaries of its request's
shares. -/
theorem beneficiary_of_directEntries {given : ReconcileSettlementNOptions}
    {transaction : ParsedTransaction} {reconciliation : SettlementReconciliation}
    (reconciled : reconcileTransaction H given transaction = .ok reconciliation)
    {entry : LedgerEntry} (mem : entry ∈ reconciliation.directEntries) :
    ∃ share ∈ given.request.shares,
      beneficiaryOf given.pooledLabels given.beneficiaryIds share = some entry.beneficiaryId := by
  obtain ⟨observation, _, compared⟩ := bind_eq_ok.mp reconciled
  obtain ⟨amounts, time, _, _, rfl⟩ := reconcileObservedSettlementN_eq_ok.mp compared
  obtain ⟨line, inLines, isEntry⟩ := List.mem_filterMap.mp mem
  obtain ⟨id, isId, rfl⟩ := Option.map_eq_some_iff.mp isEntry
  obtain ⟨paid, inside, rfl⟩ := List.mem_map.mp inLines
  exact ⟨paid.1, (List.of_mem_zip inside).1, isId⟩

/-- Every share that is not pooled has its entry. -/
theorem exists_directEntry {given : ReconcileSettlementNOptions}
    {transaction : ParsedTransaction} {reconciliation : SettlementReconciliation}
    (reconciled : reconcileTransaction H given transaction = .ok reconciliation) {share : ShareInput}
    (mem : share ∈ given.request.shares) {id : PropertyValue}
    (credited : beneficiaryOf given.pooledLabels given.beneficiaryIds share = some id) :
    ∃ entry ∈ reconciliation.directEntries, entry.beneficiaryId = id := by
  obtain ⟨observation, _, compared⟩ := bind_eq_ok.mp reconciled
  obtain ⟨amounts, time, found, _, rfl⟩ := reconcileObservedSettlementN_eq_ok.mp compared
  have enough : amounts.length = given.request.shares.length := by
    obtain ⟨_, _, rfl⟩ := splitAmountAtomicShares_eq_ok.mp found.split
    rw [length_payoutLoop, List.length_map]
  obtain ⟨i, inside, rfl⟩ := List.mem_iff_getElem.mp mem
  let line := (given.request.shares[i], amounts[i], given.request.shares[i].recipient)
  have paid : line ∈ given.request.shares.zip
      (amounts.zip (given.request.shares.map ShareInput.recipient)) := by
    refine List.mem_iff_getElem.mpr ⟨i, ?_, ?_⟩
    · simp [enough, inside]
    · simp [line]
  have isEntry (signature : JsString) (payout : PayoutLine) (same : payout.beneficiaryId = some id) :
      ∃ entry, directEntry H signature payout = some entry ∧ entry.beneficiaryId = id := by
    unfold directEntry
    rw [same]
    exact ⟨_, rfl, rfl⟩
  obtain ⟨entry, made, same⟩ := isEntry observation.signature
    { role := canonicalRole line.1.label, recipient := line.1.recipient, bps := line.1.bps
      amountOnChain := bigintText line.2.1
      beneficiaryId := beneficiaryOf given.pooledLabels given.beneficiaryIds line.1
      destinationAccount := line.2.2 } credited
  exact ⟨entry, List.mem_filterMap.mpr ⟨_, List.mem_map_of_mem paid, made⟩, same⟩

end Synxed.Sdk
