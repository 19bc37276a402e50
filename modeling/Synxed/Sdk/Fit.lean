import Synxed.Program.OnChain
import Synxed.Sdk.TokenCompleteness

/-!
What the client builds fits the program.

* `FitsSettleN`, `FitsSettleTokenN`: the program reads the instruction as it was
  asked for, and of its checks only those that read the accounts are left.
* `built_settlements_fit`: every settlement instruction the client builds fits,
  alone and in a transaction.
-/

namespace Synxed.Sdk

open Synxed.Lib Synxed.Program

variable {D : Deployment} {H : Host}

/-! ### Handing over accounts -/

/-- An account is handed to the program with at least the flags it is asked
with. -/
structure Handed (asked info : AccountInfo) : Prop where
  key : info.key = asked.key
  signer : asked.isSigner → info.isSigner
  writable : asked.isWritable → info.isWritable

/-- The accounts the program is given for an instruction, in order. -/
abbrev HandedOver (instruction : TransactionInstruction) (infos : List AccountInfo) : Prop :=
  List.Forall₂ Handed instruction.keys infos

theorem exists_append_of_handed {back : List AccountInfo} : ∀ {front infos : List AccountInfo},
    List.Forall₂ Handed (front ++ back) infos → ∃ first second, infos = first ++ second ∧
      List.Forall₂ Handed front first ∧ List.Forall₂ Handed back second
  | [], infos, handed => ⟨[], infos, rfl, .nil, handed⟩
  | _ :: _, _ :: _, .cons here rest => by
      obtain ⟨first, second, rfl, front, back⟩ := exists_append_of_handed rest
      exact ⟨_ :: first, second, rfl, .cons here front, back⟩

/-- The recipients, as they are handed over. -/
theorem handed_recipients {keys : List Pubkey} {infos : List AccountInfo}
    (handed : List.Forall₂ Handed (keys.map fun key => ⟨key, false, true⟩) infos) :
    infos.map (·.key) = keys ∧ ∀ info ∈ infos, info.isWritable ∧ info.key ∈ keys := by
  induction keys generalizing infos with
  | nil =>
      cases handed
      exact ⟨rfl, fun _ mem => nomatch mem⟩
  | cons key rest ih =>
      cases handed with
      | cons here later =>
          obtain ⟨same, each⟩ := ih later
          refine ⟨by rw [List.map_cons, here.key, same], List.forall_mem_cons.mpr ⟨?_, ?_⟩⟩
          · exact ⟨here.writable rfl, here.key ▸ List.mem_cons_self⟩
          · exact fun info mem => ⟨(each info mem).1, List.mem_cons_of_mem _ (each info mem).2⟩

/-! ### Fitting -/

/-- A built `SettleN`: the program reads what was asked for, splits it, and finds
the account list in order; what is left to check is on chain. -/
structure FitsSettleN (D : Deployment) (accounts : SettleNAccounts) (params : SettleNParams)
    (instruction : TransactionInstruction) (eventId : Bytes32) (amount : UInt64)
    (bps : List UInt16) (payouts : List UInt64) : Prop where
  asked : params = ⟨eventId.val, amount.toNat, bps.map shareNumber⟩
  program : instruction.programId = D.programId
  unpacked : SettlementInstruction.unpack instruction.data = .ok (.settleN eventId amount bps)
  split : splitShares amount bps bps.length = .ok payouts
  length : instruction.keys.length = bps.length + 5
  keys : instruction.keys = settleAccounts ⟨accounts.payer, true, true⟩
    ⟨accounts.authority, true, false⟩ ⟨accounts.ns, false, false⟩
    (accounts.recipients.map fun key => ⟨key, false, true⟩)
    ⟨(settlementPda D.addresses D.programId accounts.ns eventId).1, false, true⟩
    ⟨systemProgramId, false, false⟩
  onChain : ∀ infos state, HandedOver instruction infos →
    processInstruction D infos instruction.data state =
      OnChain.settle D accounts.payer accounts.authority accounts.ns accounts.recipients eventId
        amount payouts ⟨state, []⟩

/-- The same of a built `SettleTokenN`. -/
structure FitsSettleTokenN (D : Deployment) (accounts : SettleTokenNAccounts)
    (params : SettleTokenNParams) (instruction : TransactionInstruction) (eventId : Bytes32)
    (amount : UInt64) (decimals : UInt8) (bps : List UInt16) (payouts : List UInt64) : Prop where
  asked : params = ⟨⟨eventId.val, amount.toNat, bps.map shareNumber⟩, .ofInt decimals.toNat⟩
  program : instruction.programId = D.programId
  unpacked : SettlementInstruction.unpack instruction.data =
    .ok (.settleTokenN eventId amount decimals bps)
  split : splitShares amount bps bps.length = .ok payouts
  length : instruction.keys.length = bps.length + 8
  keys : instruction.keys = tokenSettleAccounts ⟨accounts.payer, true, true⟩
    ⟨accounts.authority, true, false⟩ ⟨accounts.ns, false, false⟩
    ⟨accounts.sourceTokenAccount, false, true⟩
    (accounts.recipientTokenAccounts.map fun key => ⟨key, false, true⟩)
    ⟨accounts.mint, false, false⟩
    ⟨(settlementPda D.addresses D.programId accounts.ns eventId).1, false, true⟩
    ⟨systemProgramId, false, false⟩ ⟨tokenProgramId, false, false⟩
  onChain : ∀ infos state, HandedOver instruction infos →
    processInstruction D infos instruction.data state =
      OnChain.settleToken D accounts.payer accounts.authority accounts.ns
        accounts.sourceTokenAccount accounts.recipientTokenAccounts accounts.mint eventId amount
        decimals payouts ⟨state, []⟩

/-- A valid split is made. -/
theorem exists_splitShares {amount : UInt64} {bps : List UInt16} (valid : ValidSplit amount bps) :
    ∃ payouts, splitShares amount bps bps.length = .ok payouts ∧
      splitPayouts amount bps = .ok payouts ∧ payouts.length = bps.length := by
  obtain ⟨payouts, values⟩ := valid.exists_payouts
  refine ⟨payouts, splitShares_eq_ok.mpr ⟨valid, rfl, values⟩,
    splitPayouts_eq_ok.mpr ⟨valid, values⟩, ?_⟩
  rw [← length_payoutsOf amount bps, ← values, List.length_map]

theorem fits_settleN {accounts : SettleNAccounts} {params : SettleNParams}
    {instruction : TransactionInstruction} (same : H.addresses = D.addresses)
    (program : accounts.programId = D.programId)
    (built : buildSettleNInstruction H accounts params = .ok instruction) :
    ∃ eventId amount bps payouts,
      FitsSettleN D accounts params instruction eventId amount bps payouts := by
  obtain ⟨eventId, amount, bps, asked, nonzero, valid, count, distinct, rfl⟩ :=
    buildSettleNInstruction_eq_ok.mp built
  rw [same, program] at distinct
  have split := valid.validSplit nonzero
  obtain ⟨payouts, shares, paid, length⟩ := exists_splitShares split
  have decoded : SettlementInstruction.unpack (SettlementInstruction.settleN eventId amount bps).pack =
      .ok (.settleN eventId amount bps) := SettlementInstruction.unpack_pack split.count
  refine ⟨eventId, amount, bps, payouts, asked, program, decoded, shares, ?_, ?_, ?_⟩
  · simp [settleNInstruction, count]
  · rw [settleNInstruction, same, program]
    rfl
  · intro infos state handed
    rw [HandedOver, settleNInstruction, same, program] at handed
    obtain ⟨payer, _, isPayer, rest₁, rfl⟩ := List.forall₂_cons_left_iff.mp handed
    obtain ⟨authority, _, isAuthority, rest₂, rfl⟩ := List.forall₂_cons_left_iff.mp rest₁
    obtain ⟨ns, _, isNs, rest₃, rfl⟩ := List.forall₂_cons_left_iff.mp rest₂
    obtain ⟨recipients, _, rfl, areRecipients, last₁⟩ := exists_append_of_handed rest₃
    obtain ⟨record, _, isRecord, last₂, rfl⟩ := List.forall₂_cons_left_iff.mp last₁
    obtain ⟨systemProgram, _, isSystem, last₃, rfl⟩ := List.forall₂_cons_left_iff.mp last₂
    obtain rfl := List.forall₂_nil_left_iff.mp last₃
    obtain ⟨keys, each⟩ := handed_recipients areRecipients
    have flags : SettleFlags D payer authority ns record systemProgram eventId :=
      ⟨⟨isPayer.signer rfl, isPayer.writable rfl⟩, isAuthority.signer rfl, isRecord.writable rfl,
        by rw [isRecord.key, isNs.key], isSystem.key⟩
    have given : recipients.length = payouts.length := by
      rw [length, ← count, ← keys, List.length_map]
    have payable : ∀ recipient ∈ recipients, recipient.isWritable ∧ recipient.key ≠ record.key := by
      intro recipient mem
      rw [isRecord.key]
      exact ⟨(each recipient mem).1, (distinct _ (each recipient mem).2).1⟩
    change processInstruction D (settleAccounts payer authority ns recipients record systemProgram)
      (SettlementInstruction.settleN eventId amount bps).pack state = _
    rw [processInstruction, decoded, ok_bind]
    change (splitPayouts amount bps >>= _) = _
    rw [paid, ok_bind, settle_eq_onChain given flags payable, isPayer.key, isAuthority.key, isNs.key,
      keys]

theorem fits_settleTokenN {accounts : SettleTokenNAccounts} {params : SettleTokenNParams}
    {instruction : TransactionInstruction} (same : H.addresses = D.addresses)
    (program : accounts.programId = D.programId)
    (built : buildSettleTokenNInstruction H accounts params = .ok instruction) :
    ∃ eventId amount decimals bps payouts,
      FitsSettleTokenN D accounts params instruction eventId amount decimals bps payouts := by
  obtain ⟨eventId, amount, decimals, bps, asked, nonzero, valid, count, _, distinct, notSource, rfl⟩ :=
    buildSettleTokenNInstruction_eq_ok.mp built
  rw [same, program] at distinct
  have split := valid.validSplit nonzero
  obtain ⟨payouts, shares, paid, length⟩ := exists_splitShares split
  have decoded : SettlementInstruction.unpack
      (SettlementInstruction.settleTokenN eventId amount decimals bps).pack =
        .ok (.settleTokenN eventId amount decimals bps) :=
    SettlementInstruction.unpack_pack split.count
  refine ⟨eventId, amount, decimals, bps, payouts, asked, program, decoded, shares, ?_, ?_, ?_⟩
  · simp [settleTokenNInstruction, count]
  · rw [settleTokenNInstruction, same, program]
    rfl
  · intro infos state handed
    rw [HandedOver, settleTokenNInstruction, same, program] at handed
    obtain ⟨payer, _, isPayer, rest₁, rfl⟩ := List.forall₂_cons_left_iff.mp handed
    obtain ⟨authority, _, isAuthority, rest₂, rfl⟩ := List.forall₂_cons_left_iff.mp rest₁
    obtain ⟨ns, _, isNs, rest₃, rfl⟩ := List.forall₂_cons_left_iff.mp rest₂
    obtain ⟨source, _, isSource, rest₄, rfl⟩ := List.forall₂_cons_left_iff.mp rest₃
    obtain ⟨recipients, _, rfl, areRecipients, last₁⟩ := exists_append_of_handed rest₄
    obtain ⟨mint, _, isMint, last₂, rfl⟩ := List.forall₂_cons_left_iff.mp last₁
    obtain ⟨record, _, isRecord, last₃, rfl⟩ := List.forall₂_cons_left_iff.mp last₂
    obtain ⟨systemProgram, _, isSystem, last₄, rfl⟩ := List.forall₂_cons_left_iff.mp last₃
    obtain ⟨tokenProgram, _, isToken, last₅, rfl⟩ := List.forall₂_cons_left_iff.mp last₄
    obtain rfl := List.forall₂_nil_left_iff.mp last₅
    obtain ⟨keys, each⟩ := handed_recipients areRecipients
    have flags : SettleFlags D payer authority ns record systemProgram eventId :=
      ⟨⟨isPayer.signer rfl, isPayer.writable rfl⟩, isAuthority.signer rfl, isRecord.writable rfl,
        by rw [isRecord.key, isNs.key], isSystem.key⟩
    have given : recipients.length = payouts.length := by
      rw [length, ← count, ← keys, List.length_map]
    have payable : ∀ recipient ∈ recipients, recipient.isWritable ∧ recipient.key ≠ source.key ∧
        recipient.key ≠ record.key := by
      intro recipient mem
      obtain ⟨writable, known⟩ := each recipient mem
      rw [isRecord.key, isSource.key]
      refine ⟨writable, fun here : recipient.key = accounts.sourceTokenAccount => notSource ?_,
        (distinct _ known).1⟩
      rwa [← here]
    change processInstruction D (tokenSettleAccounts payer authority ns source recipients mint record
      systemProgram tokenProgram) (SettlementInstruction.settleTokenN eventId amount decimals bps).pack
        state = _
    rw [processInstruction, decoded, ok_bind]
    change (splitPayouts amount bps >>= _) = _
    rw [paid, ok_bind, settleToken_eq_onChain given flags (isSource.writable rfl) isToken.key payable,
      isPayer.key, isAuthority.key, isNs.key, isSource.key, isMint.key, keys]

/-! ### Transactions -/

/-- A transaction in program mode ends with the instruction its request builds. -/
theorem exists_settleN_of_transaction {options : BuildSettlementNOptions}
    {prepared : PreparedSettlementN} {programId : Pubkey} (program : options.programId = some programId)
    (built : buildSettlementNTransaction H options = .ok prepared) :
    ∃ opening ns seed recipients instruction, openingInstructions H options = .ok opening ∧
      options.ns = some ns ∧ eventIdSeed H options.request.eventId = .ok seed ∧
      recipients.map toBase58 = options.request.shares.map ShareInput.recipient ∧
      buildSettleNInstruction H
        ⟨programId, options.payer, options.authority.getD options.payer, ns, recipients⟩
        ⟨seed.val, prepared.lamportsTotal, options.request.shares.map ShareInput.bps⟩ =
          .ok instruction ∧
      prepared.transaction.getLast? = some instruction := by
  simp only [buildSettlementNTransaction, assertNativeAsset, bind_eq_ok, ensure_eq_ok,
    exists_const, parseRecipients_eq_ok, program, Except.ok.injEq] at built
  obtain ⟨_, total, _, _, _, _, _, recipients, keys, _, _, opening, opened, ns, hasNs, seed, seeded,
    instruction, single, rfl⟩ := built
  refine ⟨opening, ns, seed, recipients, instruction, opened, ?_, seeded, keys, single, ?_⟩
  · unfold requireNamespace at hasNs
    cases known : options.ns with
    | none => simp [known] at hasNs
    | some key =>
        rw [known] at hasNs
        exact congrArg some (Except.ok.inj hasNs)
  · simp

/-- A namespace that is opened in the same transaction is the program's. -/
theorem namespace_of_opening {options : BuildSettlementNOptions} {programId : Pubkey}
    {namespaceId : Bytes} {opening : List TransactionInstruction}
    (program : options.programId = some programId)
    (opens : options.createNamespaceId = some namespaceId)
    (opened : openingInstructions H options = .ok opening) :
    ∃ id : Bytes32, namespaceId = id.val ∧
      options.ns = some (namespacePda H.addresses programId options.payer id).1 := by
  simp only [openingInstructions, opens, program, bind_eq_ok, ensure_eq_ok, exists_const,
    findNamespacePda_eq_ok] at opened
  obtain ⟨_, ⟨id, same, rfl⟩, address, _⟩ := opened
  exact ⟨id, same, address⟩

/-- A token transaction ends with the instruction its request builds. -/
theorem exists_settleTokenN_of_transaction {H : ClientHost} {options : BuildTokenSettlementNOptions}
    {prepared : PreparedTokenSettlementN}
    (built : buildTokenSettlementNTransaction H options = .ok prepared) :
    ∃ seed wallets instruction, eventIdSeed H.toHost options.request.eventId = .ok seed ∧
      wallets.map toBase58 = options.request.shares.map ShareInput.recipient ∧
      buildSettleTokenNInstruction H.toHost (settleTokenAccounts H.toHost options wallets)
        ⟨⟨seed.val, prepared.tokenAmountTotal, options.request.shares.map ShareInput.bps⟩,
          options.decimals⟩ = .ok instruction ∧
      prepared.transaction.getLast? = some instruction := by
  simp only [buildTokenSettlementNTransaction, bind_eq_ok, ensure_eq_ok, exists_const,
    protocolCall_eq_ok, parseRecipients_eq_ok, getAssociatedTokenAddressSync,
    Except.ok.injEq] at built
  obtain ⟨_, _, _, total, _, _, _, wallets, keys, _, ⟨_, rfl⟩, seed, seeded, instruction, single, _,
    _, rfl⟩ := built
  exact ⟨seed, wallets, instruction, seeded, keys, single, by simp [List.getLast?_cons]⟩

/-! ### Every build -/

/-- **What the client builds fits the program.** Whatever the options, each
settlement instruction that is built, alone or in a transaction, is read by the
program as it was asked for, splits, and has the account list that the program
demands, with the addresses it derives; the program then checks the accounts on
chain and nothing else. -/
theorem built_settlements_fit (H : ClientHost) (D : Deployment) (same : H.addresses = D.addresses) :
    (∀ accounts params instruction, accounts.programId = D.programId →
      buildSettleNInstruction H.toHost accounts params = .ok instruction →
        ∃ eventId amount bps payouts,
          FitsSettleN D accounts params instruction eventId amount bps payouts) ∧
    (∀ accounts params instruction, accounts.programId = D.programId →
      buildSettleTokenNInstruction H.toHost accounts params = .ok instruction →
        ∃ eventId amount decimals bps payouts,
          FitsSettleTokenN D accounts params instruction eventId amount decimals bps payouts) ∧
    (∀ options prepared, options.programId = some D.programId →
      buildSettlementNTransaction H.toHost options = .ok prepared →
        ∃ ns recipients instruction eventId amount bps payouts,
          prepared.transaction.getLast? = some instruction ∧ options.ns = some ns ∧
          recipients.map toBase58 = options.request.shares.map ShareInput.recipient ∧
          eventIdSeed H.toHost options.request.eventId = .ok eventId ∧
          FitsSettleN D
            ⟨D.programId, options.payer, options.authority.getD options.payer, ns, recipients⟩
            ⟨eventId.val, prepared.lamportsTotal, options.request.shares.map ShareInput.bps⟩
            instruction eventId amount bps payouts ∧
          ∀ namespaceId, options.createNamespaceId = some namespaceId →
            ∃ id : Bytes32, namespaceId = id.val ∧
              ns = (namespacePda D.addresses D.programId options.payer id).1) ∧
    ∀ options prepared, options.programId = D.programId →
      buildTokenSettlementNTransaction H options = .ok prepared →
        ∃ wallets instruction eventId amount decimals bps payouts,
          prepared.transaction.getLast? = some instruction ∧
          wallets.map toBase58 = options.request.shares.map ShareInput.recipient ∧
          eventIdSeed H.toHost options.request.eventId = .ok eventId ∧
          FitsSettleTokenN D (settleTokenAccounts H.toHost options wallets)
            ⟨⟨eventId.val, prepared.tokenAmountTotal, options.request.shares.map ShareInput.bps⟩,
              options.decimals⟩
            instruction eventId amount decimals bps payouts := by
  refine ⟨fun _ _ _ program built => fits_settleN same program built,
    fun _ _ _ program built => fits_settleTokenN same program built, ?_, ?_⟩
  · intro options prepared program built
    obtain ⟨opening, ns, seed, recipients, instruction, opened, hasNs, seeded, keys, single, last⟩ :=
      exists_settleN_of_transaction program built
    obtain ⟨eventId, amount, bps, payouts, fits⟩ := fits_settleN same rfl single
    obtain rfl : seed = eventId := Subtype.ext (congrArg SettleNParams.eventSeed fits.asked)
    refine ⟨ns, recipients, instruction, seed, amount, bps, payouts, last, hasNs, keys, seeded, fits,
      fun namespaceId opens => ?_⟩
    obtain ⟨id, sameId, address⟩ := namespace_of_opening program opens opened
    refine ⟨id, sameId, ?_⟩
    rw [hasNs, same] at address
    exact Option.some.inj address
  · intro options prepared program built
    obtain ⟨seed, wallets, instruction, seeded, keys, single, last⟩ :=
      exists_settleTokenN_of_transaction built
    obtain ⟨eventId, amount, decimals, bps, payouts, fits⟩ := fits_settleTokenN same program single
    obtain rfl : seed = eventId :=
      Subtype.ext (congrArg (fun params => params.toSettleNParams.eventSeed) fits.asked)
    exact ⟨wallets, instruction, seed, amount, decimals, bps, payouts, last, keys, seeded, fits⟩

/-- The sample settlement and the sample token settlement fit. -/
theorem built_settlements_fit_sample :
    (∃ prepared instruction eventId amount bps payouts,
      buildSettlementNTransaction sampleClientHost.toHost
        { payer := samplePayer, request := sampleRequest, programId := some sampleDeployment.programId
          ns := some sampleNamespace, authority := some sampleAuthority } = .ok prepared ∧
      prepared.transaction.getLast? = some instruction ∧
      SettlementInstruction.unpack instruction.data = .ok (.settleN eventId amount bps) ∧
      splitShares amount bps bps.length = .ok payouts) ∧
    ∃ prepared instruction eventId amount decimals bps payouts,
      buildTokenSettlementNTransaction sampleClientHost sampleTokenOptions = .ok prepared ∧
      prepared.transaction.getLast? = some instruction ∧
      SettlementInstruction.unpack instruction.data =
        .ok (.settleTokenN eventId amount decimals bps) ∧
      splitShares amount bps bps.length = .ok payouts := by
  have native : (buildSettlementNTransaction sampleClientHost.toHost
      { payer := samplePayer, request := sampleRequest, programId := some sampleDeployment.programId
        ns := some sampleNamespace, authority := some sampleAuthority }).isOk := by decide +kernel
  have token : (buildTokenSettlementNTransaction sampleClientHost sampleTokenOptions).isOk := by
    decide +kernel
  obtain ⟨prepared, built⟩ := exists_ok_of_isOk native
  obtain ⟨prepared', built'⟩ := exists_ok_of_isOk token
  obtain ⟨_, _, ofTransaction, ofTokenTransaction⟩ :=
    built_settlements_fit sampleClientHost sampleDeployment rfl
  obtain ⟨_, _, instruction, eventId, amount, bps, payouts, last, _, _, _, fits, _⟩ :=
    ofTransaction _ _ rfl built
  obtain ⟨_, instruction', eventId', amount', decimals, bps', payouts', last', _, _, fits'⟩ :=
    ofTokenTransaction _ _ rfl built'
  exact ⟨⟨_, _, _, _, _, _, built, last, fits.unpacked, fits.split⟩,
    _, _, _, _, _, _, _, built', last', fits'.unpacked, fits'.split⟩

end Synxed.Sdk
