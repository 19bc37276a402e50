import Synxed.Program.Registry
import Synxed.Sdk.History

/-!
The SDK's readers against the program's state.

Whatever was committed since the program had legacy records only, and whatever
lamports were sent anywhere, `fetchSettlementRecord` and `fetchNamespace` report
what the committed instructions did and nothing else: `readers_report_the_run`.
-/

namespace Synxed.Sdk

open Synxed.Lib Synxed.Program

variable {D : Deployment}

/-- A node that answers reads of accounts, and nothing else, from one state. -/
def nodeAt (accounts : Accounts) : (call : Rpc) → Except Thrown call.Answer
  | .getAccountInfo address => .ok (existing (accounts address))
  | _ => .error (.other (js "unavailable"))

/-- Requests go to the node as they are. -/
def nodeConnection : Connection Rpc Rpc.Answer where
  request call := .perform call
  polls := pure 0

/-- The concatenated seeds of the addresses a run uses: the legacy records it
starts with, and what its items make. -/
def runSeeds (D : Deployment) (start : Accounts) (log : List Item) : Set Bytes :=
  {bytes | ∃ eventId, bytes = (legacySeeds eventId).flatten ∧
    (start (D.addresses.find D.programId (legacySeeds eventId)).1).owner = D.programId} ∪
  derivedSeeds log

/-- An address whose seeds are not a legacy record's starts without an account
of the program. -/
theorem fresh_of_legacy {start : Accounts} {log : List Item} {seeds : List Bytes}
    (legacy : OnlyLegacyRecords D start)
    (free : CollisionFree D (insert seeds.flatten (runSeeds D start log)))
    (different : ∀ eventId, (legacySeeds eventId).flatten ≠ seeds.flatten) :
    (start (D.addresses.find D.programId seeds).1).owner ≠ D.programId := by
  intro owned
  obtain ⟨⟨eventId, address⟩, _⟩ := legacy _ owned
  refine different eventId (free _ _ (.inr (.inl ⟨eventId, rfl, ?_⟩)) (.inl rfl) address.symm)
  rwa [← address]

/-- Lamports alone read as no account at all. -/
theorem read_plain {account : Account} (plain : Plain account) :
    existing account = none ∨ ∃ there, existing account = some there ∧ isPlainSystemAccount there := by
  unfold existing
  by_cases empty : account.lamports = 0
  · exact .inl (if_pos empty)
  · exact .inr ⟨account, if_neg empty, by simp [isPlainSystemAccount, plain.1, plain.2]⟩

theorem readSettlementRecord_plain {programId address : Pubkey} {account : Account}
    {eventId : Bytes32} (plain : Plain account) :
    readSettlementRecord programId address (existing account) eventId = .ok none := by
  rcases read_plain plain with gone | ⟨there, here, isPlain⟩
  · rw [gone]
    rfl
  · rw [here, readSettlementRecord, if_pos isPlain]

theorem readNamespace_plain {programId address : Pubkey} {account : Account} (plain : Plain account) :
    readNamespace programId address (existing account) = .ok none := by
  rcases read_plain plain with gone | ⟨there, here, isPlain⟩
  · rw [gone]
    rfl
  · rw [here, readNamespace, if_pos isPlain]

theorem existing_owned {accounts : Accounts} {k : Pubkey} {data : Bytes}
    (owned : Owned D accounts k data 1) : existing (accounts k) = some (accounts k) :=
  if_neg (Nat.one_le_iff_ne_zero.mp owned.2.2)

theorem readSettlementRecord_owned {accounts : Accounts} {address : Pubkey} {eventId : Bytes32}
    {amount : UInt64} (owned : Owned D accounts address (recordData eventId amount) 1) :
    readSettlementRecord D.programId address (existing (accounts address)) eventId =
      .ok (some ⟨address, amount.toNat⟩) := by
  rw [existing_owned owned]
  exact readSettlementRecord_recordData D.notSystem owned.1 owned.2.1

theorem readNamespace_owned {accounts : Accounts} {address : Pubkey} {bump : UInt8}
    {creator : Pubkey} {namespaceId : Bytes32} {authority : Pubkey}
    (owned : Owned D accounts address (namespaceData bump creator namespaceId authority) 1) :
    readNamespace D.programId address (existing (accounts address)) =
      .ok (some ⟨⟨bump, creator, namespaceId, authority⟩, address⟩) := by
  rw [existing_owned owned]
  exact readNamespace_namespaceData D.notSystem owned.1 owned.2.1

/-! ### Reading -/

theorem runWith_fetchSettlementRecord (H : Host) (programId ns : Pubkey) (eventId : Bytes32)
    (accounts : Accounts) :
    (fetchSettlementRecord H nodeConnection programId ns eventId).runWith (nodeAt accounts) =
      protocolCall (readSettlementRecord programId (settlementPda H.addresses programId ns eventId).1
        (existing (accounts (settlementPda H.addresses programId ns eventId).1)) eventId) := by
  simp only [fetchSettlementRecord, nodeConnection, Interaction.runWith_bind,
    Interaction.runWith_ofExcept, Interaction.runWith_perform, findSettlementRecordPda_eq, nodeAt]
  rfl

theorem runWith_fetchNamespace (programId address : Pubkey) (accounts : Accounts) :
    (fetchNamespace nodeConnection programId address).runWith (nodeAt accounts) =
      protocolCall (readNamespace programId address (existing (accounts address))) := by
  simp only [fetchNamespace, nodeConnection, Interaction.runWith_bind,
    Interaction.runWith_ofExcept, Interaction.runWith_perform, nodeAt]
  rfl

/-- A record tells whether its event was settled, and for how much. -/
theorem fetchSettlementRecord_reports {H : Host} (addresses : D.addresses = H.addresses)
    {start last : Accounts} {log : List Item} {ns : Pubkey} {eventId : Bytes32}
    (own : OnlyOwnAccounts D start) (legacy : OnlyLegacyRecords D start)
    (steps : Trace (ItemStep D) PurgeStep start log last)
    (free : CollisionFree D (insert (settlementSeeds ns eventId).flatten (runSeeds D start log))) :
    ∃ settled : Option UInt64, settlementsOf ns eventId log = settled.toList ∧
      (fetchSettlementRecord H nodeConnection D.programId ns eventId).runWith (nodeAt last) =
        .ok (settled.map fun amount => ⟨recordAddress D ns eventId, amount.toNat⟩) := by
  obtain ⟨settled, one, tells⟩ := recordTells_of_trace steps
    (fresh_of_legacy legacy free fun _ => legacySeeds_ne_settlementSeeds _ _ _) free (.inl rfl)
    fun _ made => .inr (.inr made)
  refine ⟨settled, one, ?_⟩
  rw [runWith_fetchSettlementRecord, ← addresses]
  cases settled with
  | none =>
      have plain := ((own (settlementSeeds ns eventId)).of_trace steps).resolve_left tells
      exact congrArg protocolCall (readSettlementRecord_plain plain)
  | some amount =>
      have there : Owned D _ (recordAddress D ns eventId) _ 1 := tells
      exact congrArg protocolCall (readSettlementRecord_owned there)

/-- **The readers report the run.** After every run from a state with legacy
records only: reading the record of an event returns the gross amount if a
settlement of that event in that namespace was committed, and nothing if none
was; reading a namespace returns its creator, id, bump and the authority last
written if it was opened, and nothing if it was not. Neither read throws.
Address derivation is collision free on the seeds of the run and of the read. -/
theorem readers_report_the_run (H : Host) (addresses : D.addresses = H.addresses)
    (start : ChainState) (own : OnlyOwnAccounts D start.accounts)
    (legacy : OnlyLegacyRecords D start.accounts) (transactions : List Transaction) :
    (∀ (ns : Pubkey) (eventId : Bytes32),
      CollisionFree D (insert (settlementSeeds ns eventId).flatten
        (runSeeds D start.accounts (start.executed D transactions))) →
      ∃ settled : Option UInt64,
        settlementsOf ns eventId (start.executed D transactions) = settled.toList ∧
        (fetchSettlementRecord H nodeConnection D.programId ns eventId).runWith
            (nodeAt (start.run D transactions).accounts) =
          .ok (settled.map fun amount => ⟨recordAddress D ns eventId, amount.toNat⟩)) ∧
    ∀ (creator : Pubkey) (namespaceId : Bytes32),
      CollisionFree D (insert (namespaceSeeds creator namespaceId).flatten
        (runSeeds D start.accounts (start.executed D transactions))) →
      (fetchNamespace nodeConnection D.programId (namespaceAddress D creator namespaceId)).runWith
          (nodeAt (start.run D transactions).accounts) =
        .ok ((authoritiesOf D creator namespaceId (start.executed D transactions)).getLast?.map
          fun authority =>
            ⟨⟨(namespacePda D.addresses D.programId creator namespaceId).2, creator, namespaceId,
              authority⟩, namespaceAddress D creator namespaceId⟩) := by
  have steps := start.run_trace (D := D) transactions
  have derived (seeds : Bytes) : derivedSeeds (start.executed D transactions) ⊆
      insert seeds (runSeeds D start.accounts (start.executed D transactions)) :=
    fun _ made => .inr (.inr made)
  refine ⟨?_, ?_⟩
  · intro ns eventId free
    exact fetchSettlementRecord_reports addresses own legacy steps free
  · intro creator namespaceId free
    have tells := namespaceTells_of_trace steps
      (fresh_of_legacy legacy free fun _ => legacySeeds_ne_namespaceSeeds _ _ _) free (.inl rfl)
      (derived _)
    rw [runWith_fetchNamespace]
    cases held : (authoritiesOf D creator namespaceId (start.executed D transactions)).getLast? with
    | none =>
        rw [held] at tells
        have plain := ((own (namespaceSeeds creator namespaceId)).of_trace steps).resolve_left tells
        exact congrArg protocolCall (readNamespace_plain plain)
    | some authority =>
        rw [held] at tells
        have there : Owned D _ (namespaceAddress D creator namespaceId) _ 1 := tells
        exact congrArg protocolCall (readNamespace_owned there)

/-- Open a namespace, settle an event in it, and send its record some lamports. -/
def sampleRun : List Transaction :=
  [[sampleOpening],
    [.instruction
      [⟨samplePayer, true, true⟩, ⟨sampleAuthority, true, false⟩, ⟨sampleNamespacePda, false, false⟩,
        ⟨sampleRecipient, false, true⟩,
        ⟨recordAddress sampleDeployment sampleNamespacePda (Bytes32.fill 4), false, true⟩,
        ⟨systemProgramId, false, false⟩]
      (SettlementInstruction.settleN (Bytes32.fill 4) 1000 [10000]).pack],
    [.move samplePayer (recordAddress sampleDeployment sampleNamespacePda (Bytes32.fill 4)) 5]]

theorem sampleRun_derived : derivedSeeds (freshState.executed sampleDeployment sampleRun) ⊆
    {(namespaceSeeds samplePayer (Bytes32.fill 5)).flatten,
      (settlementSeeds sampleNamespacePda (Bytes32.fill 4)).flatten} := by
  rintro bytes ⟨item, mem, made⟩
  have seeds : (freshState.executed sampleDeployment sampleRun).map Item.seeds =
      [some (namespaceSeeds samplePayer (Bytes32.fill 5)).flatten,
        some (settlementSeeds sampleNamespacePda (Bytes32.fill 4)).flatten, none] := by
    decide +kernel
  have here := List.mem_map_of_mem (f := Item.seeds) mem
  rw [made, seeds] at here
  simpa using here

theorem sampleRun_free : CollisionFree sampleDeployment
    {(namespaceSeeds samplePayer (Bytes32.fill 5)).flatten,
      (settlementSeeds sampleNamespacePda (Bytes32.fill 4)).flatten} := by
  have differ : sampleAddress (namespaceSeeds samplePayer (Bytes32.fill 5)).flatten ≠
      sampleAddress (settlementSeeds sampleNamespacePda (Bytes32.fill 4)).flatten := by
    decide +kernel
  exact collisionFree_pair (fun _ => rfl) differ

/-- The event reads as settled for its gross amount, and the namespace as opened
by the payer for the sample authority. -/
theorem readers_report_the_run_sample :
    (fetchSettlementRecord sampleHost nodeConnection sampleDeployment.programId sampleNamespacePda
        (Bytes32.fill 4)).runWith (nodeAt (freshState.run sampleDeployment sampleRun).accounts) =
      .ok (some ⟨recordAddress sampleDeployment sampleNamespacePda (Bytes32.fill 4), 1000⟩) ∧
    (fetchNamespace nodeConnection sampleDeployment.programId sampleNamespacePda).runWith
        (nodeAt (freshState.run sampleDeployment sampleRun).accounts) =
      .ok (some ⟨⟨255, samplePayer, Bytes32.fill 5, sampleAuthority⟩, sampleNamespacePda⟩) := by
  have plain (k : Pubkey) : Plain (freshState.accounts k) := by
    constructor <;> simp only [freshState, ChainState.commit, purge, Account.empty] <;>
      split_ifs <;> rfl
  have seeds : runSeeds sampleDeployment freshState.accounts
      (freshState.executed sampleDeployment sampleRun) ⊆
        {(namespaceSeeds samplePayer (Bytes32.fill 5)).flatten,
          (settlementSeeds sampleNamespacePda (Bytes32.fill 4)).flatten} := by
    rintro bytes (⟨_, _, owned⟩ | made)
    · exact absurd owned (freshState_not_owned _)
    · exact sampleRun_derived made
  obtain ⟨records, namespaces⟩ := readers_report_the_run (D := sampleDeployment) sampleHost rfl
    freshState (fun _ => .inr (plain _)) (fun k owned => absurd owned (freshState_not_owned k))
    sampleRun
  obtain ⟨settled, one, reads⟩ := records sampleNamespacePda (Bytes32.fill 4)
    (sampleRun_free.mono (Set.insert_subset (.inr rfl) seeds))
  have opened := namespaces samplePayer (Bytes32.fill 5)
    (sampleRun_free.mono (Set.insert_subset (.inl rfl) seeds))
  have amounts : settlementsOf sampleNamespacePda (Bytes32.fill 4)
      (freshState.executed sampleDeployment sampleRun) = [1000] := by decide +kernel
  have authorities : authoritiesOf sampleDeployment samplePayer (Bytes32.fill 5)
      (freshState.executed sampleDeployment sampleRun) = [sampleAuthority] := by decide +kernel
  rw [authorities] at opened
  rw [amounts] at one
  cases settled with
  | none => cases one
  | some amount =>
      cases one
      exact ⟨reads, opened⟩

end Synxed.Sdk
