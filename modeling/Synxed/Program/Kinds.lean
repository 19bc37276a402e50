import Synxed.Program.Payouts
import Synxed.Program.Safety

/-!
The kinds of accounts the program owns.

`IsLegacyRecord`, `IsNamespace` and `IsRecord` say what an account of each kind
holds and where it is. One lemma for each kind says that a committed item keeps
it, and `kind_of_made` that an item makes accounts of the last two kinds only.
`accounts_well_formed` puts them together over whole runs.
-/

namespace Synxed.Program

open Synxed.Lib

variable {D : Deployment}

/-! ### The kinds -/

/-- Seeds of the record a retired instruction made for `eventId`. -/
def legacySeeds (eventId : Bytes32) : List Bytes := [settlementSeed, eventId.val]

/-- A record from before namespaces, as `start` had it. -/
structure IsLegacyRecord (D : Deployment) (start accounts : Accounts) (k : Pubkey) : Prop where
  original : (start k).owner = D.programId
  address : ∃ eventId, k = (D.addresses.find D.programId (legacySeeds eventId)).1
  size : (start k).data.length = settlementRecordSize
  untouched : Owned D accounts k (start k).data 1

/-- A namespace, at the address and with the bump its own contents derive. -/
def IsNamespace (D : Deployment) (accounts : Accounts) (k : Pubkey) : Prop :=
  ∃ bump creator namespaceId authority,
    namespacePda D.addresses D.programId creator namespaceId = (k, bump) ∧
    authority ≠ defaultPubkey ∧
    Owned D accounts k (namespaceData bump creator namespaceId authority)
      (D.minimumBalance namespaceSize)

/-- A record of an event in an existing namespace. -/
def IsRecord (D : Deployment) (accounts : Accounts) (k : Pubkey) : Prop :=
  ∃ ns eventId amount, k = recordAddress D ns eventId ∧ amount ≠ 0 ∧ IsNamespace D accounts ns ∧
    Owned D accounts k (recordData eventId amount) (D.minimumBalance settlementRecordSize)

/-- Every account the program owns is of some kind. -/
def AllKinds (D : Deployment) (start accounts : Accounts) : Prop :=
  ∀ k, (accounts k).owner = D.programId →
    IsLegacyRecord D start accounts k ∨ IsNamespace D accounts k ∨ IsRecord D accounts k

theorem IsLegacyRecord.length {start accounts : Accounts} {k : Pubkey}
    (legacy : IsLegacyRecord D start accounts k) :
    (accounts k).data.length = settlementRecordSize := by
  rw [legacy.untouched.2.1, legacy.size]

theorem IsNamespace.length {accounts : Accounts} {k : Pubkey} (isNs : IsNamespace D accounts k) :
    (accounts k).data.length = namespaceSize := by
  obtain ⟨bump, creator, namespaceId, authority, _, _, owned⟩ := isNs
  rw [owned.2.1, length_namespaceData]

theorem IsRecord.length {accounts : Accounts} {k : Pubkey} (record : IsRecord D accounts k) :
    (accounts k).data.length = settlementRecordSize := by
  obtain ⟨ns, eventId, amount, _, _, _, owned⟩ := record
  rw [owned.2.1, length_recordData]

/-- An account with an authority is a namespace: the other kinds are too short. -/
theorem AllKinds.isNamespace {start accounts : Accounts} {ns authority : Pubkey}
    (kinds : AllKinds D start accounts) (current : HasAuthority D accounts ns authority) :
    IsNamespace D accounts ns := by
  have length := (namespaceAuthority_eq_ok.mp current.2).1.1
  rcases kinds ns current.1 with legacy | isNs | record
  · exact absurd (length.symm.trans legacy.length) (by decide)
  · exact isNs
  · exact absurd (length.symm.trans record.length) (by decide)

/-! ### What an item keeps -/

theorem rotatedData_namespaceData (bump : UInt8) (creator : Pubkey) (namespaceId : Bytes32)
    (authority newAuthority : Pubkey) :
    rotatedData (namespaceData bump creator namespaceId authority) newAuthority =
      namespaceData bump creator namespaceId newAuthority := by
  have front (authority : Pubkey) : namespaceData bump creator namespaceId authority =
      (namespaceDiscriminator :: bump :: (creator.val ++ namespaceId.val)) ++ authority.val := by
    simp [namespaceData]
  rw [rotatedData, front, front, List.take_left' (by
    simp [creator.property, namespaceId.property, namespaceAuthorityOffset])]

/-- A rotation names a nonzero authority. -/
theorem rotation_nonzero {before after : Accounts} {accounts : List AccountInfo} {data : Bytes}
    {newAuthority : Pubkey} (next : ItemStep D before (.instruction accounts data) after)
    (decoded : SettlementInstruction.unpack data = .ok (.setNamespaceAuthority newAuthority)) :
    newAuthority ≠ defaultPubkey := by
  obtain ⟨m, processed, _⟩ := bind_eq_ok.mp next
  rw [processInstruction, decoded, ok_bind] at processed
  obtain ⟨_, _, _, _, _, _, _, nonzero, _⟩ := setNamespaceAuthority_eq_ok.mp processed
  exact nonzero

section Step

variable {start before after : Accounts} {item : Item} {k : Pubkey}

/-- Only a namespace can be rotated. -/
theorem Owned.of_itemStep_short {data : Bytes} {floor : Nat} (owned : Owned D before k data floor)
    (short : data.length ≠ namespaceSize) (next : ItemStep D before item after) :
    Owned D after k data floor := by
  rcases owned.of_itemStep next with kept | ⟨_, _, authority, _, _, _, current, _⟩
  · exact kept
  · refine absurd current.2 (namespaceAuthority_ne_ok_of_length ?_ authority)
    rwa [owned.2.1]

theorem IsLegacyRecord.of_itemStep (legacy : IsLegacyRecord D start before k)
    (next : ItemStep D before item after) : IsLegacyRecord D start after k where
  original := legacy.original
  address := legacy.address
  size := legacy.size
  untouched := legacy.untouched.of_itemStep_short (by rw [legacy.size]; decide) next

theorem IsNamespace.of_itemStep (isNs : IsNamespace D before k)
    (next : ItemStep D before item after) : IsNamespace D after k := by
  obtain ⟨bump, creator, namespaceId, authority, address, nonzero, owned⟩ := isNs
  rcases owned.of_itemStep next with
    kept | ⟨accounts, bytes, _, newAuthority, rfl, decoded, _, _, _, changed⟩
  · exact ⟨bump, creator, namespaceId, authority, address, nonzero, kept⟩
  · refine ⟨bump, creator, namespaceId, newAuthority, address, rotation_nonzero next decoded, ?_⟩
    rw [changed, Owned, Function.update_self, owned.2.1, rotatedData_namespaceData]
    exact ⟨owned.1, rfl, owned.2.2⟩

theorem IsRecord.of_itemStep (record : IsRecord D before k) (next : ItemStep D before item after) :
    IsRecord D after k := by
  obtain ⟨ns, eventId, amount, address, nonzero, isNs, owned⟩ := record
  exact ⟨ns, eventId, amount, address, nonzero, isNs.of_itemStep next,
    owned.of_itemStep_short (by rw [length_recordData]; decide) next⟩

end Step

section Purge

variable {start accounts : Accounts} {k : Pubkey}

theorem IsLegacyRecord.of_purge (legacy : IsLegacyRecord D start accounts k) :
    IsLegacyRecord D start (purge accounts) k where
  original := legacy.original
  address := legacy.address
  size := legacy.size
  untouched := legacy.untouched.of_purge Nat.one_pos

theorem IsNamespace.of_purge (isNs : IsNamespace D accounts k) :
    IsNamespace D (purge accounts) k := by
  obtain ⟨bump, creator, namespaceId, authority, address, nonzero, owned⟩ := isNs
  exact ⟨bump, creator, namespaceId, authority, address, nonzero,
    owned.of_purge (D.minimumBalance_pos _)⟩

theorem IsRecord.of_purge (record : IsRecord D accounts k) : IsRecord D (purge accounts) k := by
  obtain ⟨ns, eventId, amount, address, nonzero, isNs, owned⟩ := record
  exact ⟨ns, eventId, amount, address, nonzero, isNs.of_purge,
    owned.of_purge (D.minimumBalance_pos _)⟩

end Purge

/-! ### What an item makes -/

/-- A new account of the program is rent exempt, unless it paid for itself. -/
theorem created_floor {accounts : Accounts} {payer account : Pubkey} {size : Nat} {data : Bytes}
    (other : payer ≠ account) : D.minimumBalance size ≤
      (created D accounts payer account (shortfallOf D accounts account size) data account).lamports := by
  have held : (created D accounts payer account (shortfallOf D accounts account size) data
      account).lamports = (accounts account).lamports + shortfallOf D accounts account size := by
    simp [created, moveLamports_lamports, other.symm]
  rw [held, shortfallOf]
  omega

theorem createRecord_floor {payer record systemProgram : AccountInfo} {ns : Pubkey}
    {eventId : Bytes32} {amount : UInt64} {m m' : Machine}
    (h : createRecord D payer ns record systemProgram eventId amount m = .ok m')
    (unsigned : payer.isSigner → payer.key ≠ record.key) :
    (m'.accounts record.key).owner = D.programId ∧
      D.minimumBalance settlementRecordSize ≤ (m'.accounts record.key).lamports := by
  obtain ⟨_, ⟨signed, _⟩, _, _, rfl⟩ := createRecord_eq_ok.mp h
  exact ⟨created_owner _ _ _ _ _, created_floor (unsigned signed)⟩

/-- The record of a settlement is rent exempt: the payouts take nothing from it. -/
theorem settle_floor {accounts : List AccountInfo} {eventId : Bytes32} {amount : UInt64}
    {payouts : List UInt64} {m m' : Machine} {ns : Pubkey}
    (h : settle D accounts eventId amount payouts m = .ok m') (nsAt : keyAt accounts 2 = some ns)
    (unsigned : ¬ Signed accounts (recordAddress D ns eventId)) :
    D.minimumBalance settlementRecordSize ≤
      (m'.accounts (recordAddress D ns eventId)).lamports := by
  simp only [settle, bind_eq_ok, ensure_eq_ok, exists_const, indexAt_eq_ok, authorize_eq_ok] at h
  obtain ⟨_, payer, atPayer, _, _, nsInfo, atNs, record, _, _, _, _, _, _, made, recorded, paid⟩ := h
  obtain rfl : nsInfo.key = ns := by
    rw [keyAt, atNs] at nsAt
    exact Option.some.inj nsAt
  obtain ⟨address, _⟩ := createRecord_eq_ok.mp recorded
  obtain ⟨owner, floor⟩ := createRecord_floor recorded fun signed same =>
    unsigned ⟨payer, List.mem_of_getElem? atPayer, same.trans address, signed⟩
  have kept := (payRecipients_ok (D := D) paid).1.lamports _ owner
  rw [address] at floor kept
  exact floor.trans kept

theorem settleToken_floor {accounts : List AccountInfo} {eventId : Bytes32} {amount : UInt64}
    {decimals : UInt8} {payouts : List UInt64} {m m' : Machine} {ns : Pubkey}
    (h : settleToken D accounts eventId amount decimals payouts m = .ok m')
    (nsAt : keyAt accounts 2 = some ns)
    (unsigned : ¬ Signed accounts (recordAddress D ns eventId)) :
    D.minimumBalance settlementRecordSize ≤
      (m'.accounts (recordAddress D ns eventId)).lamports := by
  simp only [settleToken, bind_eq_ok, ensure_eq_ok, exists_const, indexAt_eq_ok,
    authorize_eq_ok] at h
  obtain ⟨_, payer, atPayer, _, _, nsInfo, atNs, _, _, _, _, record, _, _, _, _, _, _, _, _, _, _,
    _, _, _, _, _, _, _, made, recorded, paid⟩ := h
  obtain rfl : nsInfo.key = ns := by
    rw [keyAt, atNs] at nsAt
    exact Option.some.inj nsAt
  obtain ⟨address, _⟩ := createRecord_eq_ok.mp recorded
  obtain ⟨owner, floor⟩ := createRecord_floor recorded fun signed same =>
    unsigned ⟨payer, List.mem_of_getElem? atPayer, same.trans address, signed⟩
  have kept := (payDestinations_ok (D := D) paid).1.lamports _ owner
  rw [address] at floor kept
  exact floor.trans kept

theorem createNamespace_floor {accounts : List AccountInfo} {namespaceId : Bytes32}
    {authority creator : Pubkey} {m m' : Machine}
    (h : createNamespace D accounts namespaceId authority m = .ok m')
    (creatorAt : keyAt accounts 1 = some creator)
    (unsigned : ¬ Signed accounts (namespacePda D.addresses D.programId creator namespaceId).1) :
    authority ≠ defaultPubkey ∧ D.minimumBalance namespaceSize ≤
      (m'.accounts (namespacePda D.addresses D.programId creator namespaceId).1).lamports := by
  obtain ⟨payer, creatorInfo, ns, systemProgram, rfl, _, nonzero, address, ⟨signed, _⟩, _, _, rfl⟩ :=
    createNamespace_eq_ok.mp h
  cases creatorAt
  refine ⟨nonzero, ?_⟩
  rw [← address]
  refine created_floor fun same => unsigned ⟨payer, by simp, ?_, signed⟩
  rw [same, address]

/-- The address an item makes an account at does not sign it: nobody holds a key
for a derived address, and only the deriving program signs for it. -/
def CreatesUnsigned (D : Deployment) (item : Item) : Prop :=
  ∀ seeds : List Bytes, item.seeds = some seeds.flatten →
    ¬ item.SignedBy (D.addresses.find D.programId seeds).1

/-- An item makes namespaces and records, and nothing else. -/
theorem kind_of_made {start before after : Accounts} {item : Item} {k : Pubkey}
    (kinds : AllKinds D start before) (unsigned : CreatesUnsigned D item)
    (next : ItemStep D before item after) (fresh : (before k).owner ≠ D.programId)
    (owned : (after k).owner = D.programId) : IsNamespace D after k ∨ IsRecord D after k := by
  cases item with
  | move source destination lamports =>
      obtain ⟨_, same⟩ := ensure_bind_eq_ok.mp next
      cases same
      exact absurd ((moveLamports_owner _ _ _ _ _).symm.trans owned) fresh
  | instruction accounts data =>
      obtain ⟨m, processed, same⟩ := bind_eq_ok.mp next
      cases same
      obtain ⟨v, decoded, effect⟩ := processInstruction_effect processed
      have run := processed
      rw [processInstruction, decoded, ok_bind] at run
      have seeds (seeds : List Bytes) (here : (Item.instruction accounts data).seeds =
          some seeds.flatten) : ¬ Signed accounts (D.addresses.find D.programId seeds).1 :=
        unsigned seeds here
      simp only [Item.seeds, decoded] at seeds
      cases effect with
      | opens creator namespaceId authority creatorAt signed creates =>
          obtain rfl : k = (namespacePda D.addresses D.programId creator namespaceId).1 := by
            by_contra other
            exact fresh ((creates.owner k other).symm.trans owned)
          obtain ⟨nonzero, floor⟩ := createNamespace_floor run creatorAt
            (seeds (namespaceSeeds creator namespaceId) (by simp only [creatorAt, Option.map_some]))
          exact .inl ⟨_, creator, namespaceId, authority, rfl, nonzero, creates.made.1,
            creates.made.2, floor⟩
      | rotates ns authority newAuthority authorityAt nsAt current signed signedNew changed =>
          refine absurd ?_ fresh
          by_cases here : k = ns
          · rw [here]
            exact current.1
          · rwa [changed, Function.update_of_ne here] at owned
      | settles v ns authority eventId amount settlement authorityAt nsAt current signed creates =>
          obtain rfl : k = recordAddress D ns eventId := by
            by_contra other
            exact fresh ((creates.owner k other).symm.trans owned)
          have isNs := (kinds.isNamespace current).of_itemStep next
          refine .inr ⟨ns, eventId, amount, rfl, ?_⟩
          cases v with
          | createNamespace _ _ => cases settlement
          | setNamespaceAuthority _ => cases settlement
          | settleN eventId' amount' bps =>
              cases settlement
              obtain ⟨payouts, split, settled⟩ := bind_eq_ok.mp run
              refine ⟨(splitPayouts_eq_ok.mp split).1.positive, isNs, creates.made.1,
                creates.made.2, settle_floor settled nsAt ?_⟩
              exact seeds (settlementSeeds ns eventId) (by simp only [nsAt, Option.map_some])
          | settleTokenN eventId' amount' decimals bps =>
              cases settlement
              obtain ⟨payouts, split, settled⟩ := bind_eq_ok.mp run
              refine ⟨(splitPayouts_eq_ok.mp split).1.positive, isNs, creates.made.1,
                creates.made.2, settleToken_floor settled nsAt ?_⟩
              exact seeds (settlementSeeds ns eventId) (by simp only [nsAt, Option.map_some])

/-! ### Whole runs -/

theorem AllKinds.of_itemStep {start before after : Accounts} {item : Item}
    (kinds : AllKinds D start before) (unsigned : CreatesUnsigned D item)
    (next : ItemStep D before item after) : AllKinds D start after := by
  intro k owned
  by_cases earlier : (before k).owner = D.programId
  · rcases kinds k earlier with legacy | isNs | record
    · exact .inl (legacy.of_itemStep next)
    · exact .inr (.inl (isNs.of_itemStep next))
    · exact .inr (.inr (record.of_itemStep next))
  · exact .inr (kind_of_made kinds unsigned next earlier owned)

theorem AllKinds.of_purge {start accounts : Accounts} (kinds : AllKinds D start accounts) :
    AllKinds D start (purge accounts) := by
  intro k owned
  have earlier : (accounts k).owner = D.programId := by
    by_cases empty : (accounts k).lamports = 0
    · rw [purge, if_pos empty] at owned
      exact absurd owned.symm D.notSystem
    · rwa [purge, if_neg empty] at owned
  rcases kinds k earlier with legacy | isNs | record
  · exact .inl legacy.of_purge
  · exact .inr (.inl isNs.of_purge)
  · exact .inr (.inr record.of_purge)

/-- A chain state from before namespaces: the program's accounts are records of
41 bytes at legacy addresses. -/
def OnlyLegacyRecords (D : Deployment) (start : Accounts) : Prop :=
  ∀ k, (start k).owner = D.programId →
    (∃ eventId, k = (D.addresses.find D.programId (legacySeeds eventId)).1) ∧
      (start k).data.length = 41

theorem OnlyLegacyRecords.allKinds {start : ChainState}
    (legacy : OnlyLegacyRecords D start.accounts) : AllKinds D start.accounts start.accounts := by
  intro k owned
  obtain ⟨address, size⟩ := legacy k owned
  refine .inl ⟨owned, address, size, owned, rfl, Nat.one_le_iff_ne_zero.mpr fun empty => ?_⟩
  rw [start.purged k empty] at owned
  exact D.notSystem owned.symm

theorem allKinds_of_trace {start before last : Accounts} {log : List Item}
    (kinds : AllKinds D start before) (steps : Trace (ItemStep D) PurgeStep before log last)
    (unsigned : ∀ item ∈ log, CreatesUnsigned D item) : AllKinds D start last := by
  refine steps.invariant (fun _ => AllKinds D start) kinds ?_ ?_
  · intro _ _ item _ mem kinds next
    exact kinds.of_itemStep (unsigned item mem) next
  · rintro _ accounts _ kinds rfl
    exact kinds.of_purge

/-- The concatenated seeds of the legacy addresses that `start`'s accounts are
at, and of the addresses of `state`'s records. -/
def recordSeeds (D : Deployment) (start state : Accounts) : Set Bytes :=
  {bytes | ∃ eventId, bytes = (legacySeeds eventId).flatten ∧
    (start (D.addresses.find D.programId (legacySeeds eventId)).1).owner = D.programId} ∪
  {bytes | ∃ ns eventId amount, bytes = (settlementSeeds ns eventId).flatten ∧
    IsNamespace D state ns ∧ Owned D state (recordAddress D ns eventId) (recordData eventId amount) 1}

theorem legacySeeds_ne_settlementSeeds (eventId eventId' : Bytes32) (ns : Pubkey) :
    (legacySeeds eventId).flatten ≠ (settlementSeeds ns eventId').flatten := by
  intro same
  have lengths := congrArg List.length same
  simp [legacySeeds, settlementSeeds, settlementSeed, ns.property, eventId.property,
    eventId'.property] at lengths

theorem legacySeeds_ne_namespaceSeeds (eventId namespaceId : Bytes32) (creator : Pubkey) :
    (legacySeeds eventId).flatten ≠ (namespaceSeeds creator namespaceId).flatten := by
  intro same
  have lengths := congrArg List.length same
  simp [legacySeeds, namespaceSeeds, settlementSeed, namespaceSeed, creator.property,
    eventId.property, namespaceId.property] at lengths

/-- Where addresses are collision free, no record is a legacy record. -/
theorem IsLegacyRecord.not_record {start accounts : Accounts} {k : Pubkey}
    (legacy : IsLegacyRecord D start accounts k)
    (free : CollisionFree D (recordSeeds D start accounts)) : ¬ IsRecord D accounts k := by
  rintro ⟨ns, eventId', amount, address', _, isNs, owned⟩
  obtain ⟨eventId, address⟩ := legacy.address
  have here : (legacySeeds eventId).flatten ∈ recordSeeds D start accounts :=
    .inl ⟨eventId, rfl, by rw [← address]; exact legacy.original⟩
  have there : (settlementSeeds ns eventId').flatten ∈ recordSeeds D start accounts := by
    refine .inr ⟨ns, eventId', amount, rfl, isNs, ?_⟩
    rw [← address']
    exact ⟨owned.1, owned.2.1, (D.minimumBalance_pos _).trans_le owned.2.2⟩
  exact legacySeeds_ne_settlementSeeds _ _ _ (free _ _ here there (address.symm.trans address'))

/-- **Well-formed accounts.** Start where the program owns legacy records only.
In every state a run passes through, every account of the program is an
untouched legacy record, a namespace or a record, and of one kind only;
namespaces and records are rent exempt; and whatever runs from there, none
changes its kind or its size or goes away. Seeds of the three kinds never
collide either. The assumptions: address derivation is collision free on
concatenated seeds, and no address signs the item that makes an account there. -/
theorem accounts_well_formed (start : ChainState) (legacy : OnlyLegacyRecords D start.accounts)
    (transactions : List Transaction) (items : List Item) (state : Accounts)
    (reached : execItems D items (start.run D transactions).accounts = .ok state)
    (unsigned : ∀ item ∈ start.executed D transactions ++ items, CreatesUnsigned D item)
    (free : CollisionFree D (recordSeeds D start.accounts state)) :
    (∀ k, (state k).owner = D.programId →
      (IsLegacyRecord D start.accounts state k ∧ ¬ IsNamespace D state k ∧ ¬ IsRecord D state k) ∨
      (¬ IsLegacyRecord D start.accounts state k ∧ IsNamespace D state k ∧ ¬ IsRecord D state k) ∨
      (¬ IsLegacyRecord D start.accounts state k ∧ ¬ IsNamespace D state k ∧ IsRecord D state k)) ∧
    (∀ k, IsLegacyRecord D start.accounts state k → (start.accounts k).owner = D.programId ∧
      (state k).data = (start.accounts k).data ∧ (state k).data.length = 41) ∧
    (∀ k, IsNamespace D state k → (state k).data.length = 98 ∧ (state k).data[0]? = some 2 ∧
      D.minimumBalance 98 ≤ (state k).lamports) ∧
    (∀ k, IsRecord D state k → (state k).data.length = 41 ∧ (state k).data[0]? = some 1 ∧
      D.minimumBalance 41 ≤ (state k).lamports) ∧
    (∀ log later, Trace (ItemStep D) PurgeStep state log later → ∀ k,
      (state k).owner = D.programId → (later k).owner = D.programId ∧
        (later k).data.length = (state k).data.length ∧
        (IsLegacyRecord D start.accounts state k → IsLegacyRecord D start.accounts later k) ∧
        (IsNamespace D state k → IsNamespace D later k) ∧
        (IsRecord D state k → IsRecord D later k)) ∧
    ∀ domain, CollisionFree D domain → ∀ creator namespaceId ns eventId eventId',
      (namespaceSeeds creator namespaceId).flatten ∈ domain →
      (settlementSeeds ns eventId).flatten ∈ domain → (legacySeeds eventId').flatten ∈ domain →
      (namespacePda D.addresses D.programId creator namespaceId).1 ≠ recordAddress D ns eventId ∧
      (D.addresses.find D.programId (legacySeeds eventId')).1 ≠ recordAddress D ns eventId ∧
      (D.addresses.find D.programId (legacySeeds eventId')).1 ≠
        (namespacePda D.addresses D.programId creator namespaceId).1 := by
  have steps := (start.run_trace (D := D) transactions).trans (execItems_trace reached)
  have kinds := allKinds_of_trace legacy.allKinds steps unsigned
  have differ : settlementRecordSize ≠ namespaceSize := by decide
  refine ⟨fun k owned => ?_,
    fun k isLegacy => ⟨isLegacy.original, isLegacy.untouched.2.1, isLegacy.length⟩, fun k isNs => ?_,
    fun k record => ?_, fun log later steps k owned => ?_, ?_⟩
  · rcases kinds k owned with isLegacy | isNs | record
    · exact .inl ⟨isLegacy, fun isNs => differ (isLegacy.length.symm.trans isNs.length),
        isLegacy.not_record free⟩
    · exact .inr (.inl ⟨fun isLegacy => differ (isLegacy.length.symm.trans isNs.length), isNs,
        fun record => differ (record.length.symm.trans isNs.length)⟩)
    · exact .inr (.inr ⟨fun isLegacy => isLegacy.not_record free record,
        fun isNs => differ (record.length.symm.trans isNs.length), record⟩)
  · obtain ⟨bump, creator, namespaceId, authority, _, _, owned⟩ := isNs
    refine ⟨?_, ?_, owned.2.2⟩
    · rw [owned.2.1, length_namespaceData]
      rfl
    · rw [owned.2.1]
      rfl
  · obtain ⟨ns, eventId, amount, _, _, _, owned⟩ := record
    refine ⟨?_, ?_, owned.2.2⟩
    · rw [owned.2.1, length_recordData]
      rfl
    · rw [owned.2.1]
      rfl
  · have keepsLegacy (isLegacy : IsLegacyRecord D start.accounts state k) :
        IsLegacyRecord D start.accounts later k :=
      steps.invariant (fun _ accounts => IsLegacyRecord D start.accounts accounts k) isLegacy
        (fun _ _ _ _ _ isLegacy next => isLegacy.of_itemStep next) (by
          rintro _ _ _ isLegacy rfl
          exact isLegacy.of_purge)
    have keepsNamespace (isNs : IsNamespace D state k) : IsNamespace D later k :=
      steps.invariant (fun _ accounts => IsNamespace D accounts k) isNs
        (fun _ _ _ _ _ isNs next => isNs.of_itemStep next) (by
          rintro _ _ _ isNs rfl
          exact isNs.of_purge)
    have keepsRecord (record : IsRecord D state k) : IsRecord D later k :=
      steps.invariant (fun _ accounts => IsRecord D accounts k) record
        (fun _ _ _ _ _ record next => record.of_itemStep next) (by
          rintro _ _ _ record rfl
          exact record.of_purge)
    have same : (later k).owner = D.programId ∧
        (later k).data.length = (state k).data.length := by
      rcases kinds k owned with isLegacy | isNs | record
      · exact ⟨(keepsLegacy isLegacy).untouched.1,
          (keepsLegacy isLegacy).length.trans isLegacy.length.symm⟩
      · obtain ⟨_, _, _, _, _, _, kept⟩ := keepsNamespace isNs
        exact ⟨kept.1, (keepsNamespace isNs).length.trans isNs.length.symm⟩
      · obtain ⟨_, _, _, _, _, _, kept⟩ := keepsRecord record
        exact ⟨kept.1, (keepsRecord record).length.trans record.length.symm⟩
    exact ⟨same.1, same.2, keepsLegacy, keepsNamespace, keepsRecord⟩
  · intro domain free creator namespaceId ns eventId eventId' atNs atRecord atLegacy
    refine ⟨fun same => ?_, fun same => ?_, fun same => ?_⟩
    · exact settlementSeeds_ne_namespaceSeeds _ _ _ _ (free _ _ atNs atRecord same).symm
    · exact legacySeeds_ne_settlementSeeds _ _ _ (free _ _ atLegacy atRecord same)
    · exact legacySeeds_ne_namespaceSeeds _ _ _ (free _ _ atLegacy atNs same)

/-- A chain with nothing but a funded payer. -/
def freshState : ChainState := ChainState.commit fun k =>
  if k = samplePayer then ⟨10 ^ 9, systemProgramId, []⟩ else Account.empty

theorem freshState_not_owned (k : Pubkey) :
    (freshState.accounts k).owner ≠ sampleDeployment.programId := by
  have system : (freshState.accounts k).owner = systemProgramId := by
    simp only [freshState, ChainState.commit, purge, Account.empty]
    split_ifs <;> rfl
  rw [system]
  exact sampleDeployment.notSystem.symm

/-! ### A sample chain from before namespaces

Its derivation gives a legacy record the id of its event for an address. -/

def legacyAddress (bytes : Bytes) : Pubkey :=
  if legacy : bytes.length = 42 then ⟨bytes.drop 10, by rw [List.length_drop, legacy]⟩
  else sampleAddress bytes

def legacyDeployment : Deployment :=
  { sampleDeployment with
    addresses :=
      { find := fun _ seeds => (legacyAddress seeds.flatten, 255)
        create := fun _ seeds => some (legacyAddress seeds.dropLast.flatten)
        create_find := by
          intro _ seeds
          rw [List.dropLast_concat] } }

/-- The event that a retired instruction settled. -/
def legacyEvent : Bytes32 := Bytes32.fill 6

def legacyState : ChainState := ChainState.commit fun k =>
  if k = samplePayer then ⟨10 ^ 9, systemProgramId, []⟩
  else if k = legacyEvent then ⟨10 ^ 7, legacyDeployment.programId, recordData legacyEvent 1000⟩
  else Account.empty

def sampleRecordPda : Pubkey := recordAddress legacyDeployment sampleNamespacePda (Bytes32.fill 4)

/-- An event is settled in the namespace that was opened. -/
def sampleSettling : Item :=
  .instruction
    [⟨samplePayer, true, true⟩, ⟨sampleAuthority, true, false⟩, ⟨sampleNamespacePda, false, false⟩,
      ⟨sampleRecipient, false, true⟩, ⟨sampleRecordPda, false, true⟩, ⟨systemProgramId, false, false⟩]
    (SettlementInstruction.settleN (Bytes32.fill 4) 1000 [10000]).pack

/-- What the program owns then. -/
def sampleKinds : Accounts :=
  (execItems legacyDeployment [sampleSettling]
    (legacyState.run legacyDeployment [[sampleOpening]]).accounts).toOption.getD fun _ => Account.empty

/-- What the two instructions do, and derive. -/
theorem sampleKinds_items :
    (execItems legacyDeployment [sampleSettling]
        (legacyState.run legacyDeployment [[sampleOpening]]).accounts).isOk ∧
      legacyState.executed legacyDeployment [[sampleOpening]] = [sampleOpening] ∧
      sampleOpening.seeds = some (namespaceSeeds samplePayer (Bytes32.fill 5)).flatten ∧
      ¬ sampleOpening.SignedBy sampleNamespacePda ∧
      sampleSettling.seeds = some (settlementSeeds sampleNamespacePda (Bytes32.fill 4)).flatten ∧
      ¬ sampleSettling.SignedBy sampleRecordPda := by
  decide +kernel

/-- What the three accounts hold. -/
theorem sampleKinds_accounts :
    legacyState.accounts legacyEvent =
        ⟨10 ^ 7, legacyDeployment.programId, recordData legacyEvent 1000⟩ ∧
      sampleKinds legacyEvent =
        ⟨10 ^ 7, legacyDeployment.programId, recordData legacyEvent 1000⟩ ∧
      (sampleKinds sampleNamespacePda).owner = legacyDeployment.programId ∧
      (sampleKinds sampleNamespacePda).data.length = 98 ∧
      (sampleKinds sampleRecordPda).owner = legacyDeployment.programId ∧
      (sampleKinds sampleRecordPda).data = recordData (Bytes32.fill 4) 1000 ∧
      sampleRecordPda ≠ legacyEvent ∧
      recordAddress legacyDeployment sampleNamespacePda legacyEvent ≠ legacyEvent := by
  decide +kernel

theorem sampleKinds_reached : execItems legacyDeployment [sampleSettling]
    (legacyState.run legacyDeployment [[sampleOpening]]).accounts = .ok sampleKinds :=
  eq_ok_of_isOk _ sampleKinds_items.1

theorem sampleKinds_log : legacyState.executed legacyDeployment [[sampleOpening]] ++ [sampleSettling] =
    [sampleOpening, sampleSettling] := by
  rw [sampleKinds_items.2.1, List.singleton_append]

theorem legacyState_owned {k : Pubkey} (owned : (legacyState.accounts k).owner = legacyDeployment.programId) :
    k = legacyEvent := by
  simp only [legacyState, ChainState.commit, purge, Account.empty] at owned
  by_contra other
  split_ifs at owned <;> exact absurd owned (by decide)

theorem createsUnsigned_of_seeds {item : Item} {bytes : Bytes} (derives : item.seeds = some bytes)
    (unsigned : ¬ item.SignedBy (legacyAddress bytes)) : CreatesUnsigned legacyDeployment item := by
  intro seeds here
  obtain rfl := Option.some.inj (derives.symm.trans here)
  exact unsigned

theorem legacyAddress_namespaceSeeds :
    legacyAddress (namespaceSeeds samplePayer (Bytes32.fill 5)).flatten = sampleNamespacePda := by
  have length : (namespaceSeeds samplePayer (Bytes32.fill 5)).flatten.length ≠ 42 := by
    simp [namespaceSeeds, namespaceSeed, samplePayer.property, (Bytes32.fill 5).property]
  exact dif_neg length

theorem sampleKinds_unsigned :
    ∀ item ∈ legacyState.executed legacyDeployment [[sampleOpening]] ++ [sampleSettling],
      CreatesUnsigned legacyDeployment item := by
  obtain ⟨_, _, openingSeeds, opensUnsigned, settlingSeeds, settlesUnsigned⟩ := sampleKinds_items
  rw [sampleKinds_log]
  intro item mem
  rcases List.mem_pair.mp mem with rfl | rfl
  · refine createsUnsigned_of_seeds openingSeeds ?_
    rw [legacyAddress_namespaceSeeds]
    exact opensUnsigned
  · exact createsUnsigned_of_seeds settlingSeeds settlesUnsigned

/-- The program owns the legacy record, the namespace and the new record. -/
theorem sampleKinds_owned {k : Pubkey} (owned : (sampleKinds k).owner = legacyDeployment.programId) :
    k = legacyEvent ∨ k = sampleNamespacePda ∨ k = sampleRecordPda := by
  obtain ⟨_, _, openingSeeds, _, settlingSeeds, _⟩ := sampleKinds_items
  have steps := (legacyState.run_trace (D := legacyDeployment) [[sampleOpening]]).trans
    (execItems_trace sampleKinds_reached)
  rw [sampleKinds_log] at steps
  rcases derived_of_trace steps owned with before | ⟨item, mem, seeds, made, here⟩
  · exact .inl (legacyState_owned before)
  · have address : k = legacyAddress seeds.flatten := here
    rcases List.mem_pair.mp mem with rfl | rfl
    · obtain same := Option.some.inj (openingSeeds.symm.trans made)
      rw [address, ← same, legacyAddress_namespaceSeeds]
      exact .inr (.inl rfl)
    · obtain same := Option.some.inj (settlingSeeds.symm.trans made)
      rw [address, ← same]
      exact .inr (.inr rfl)

theorem eventId_of_recordData {eventId eventId' : Bytes32} {amount amount' : UInt64}
    (same : recordData eventId amount = recordData eventId' amount') : eventId = eventId' := by
  have lengths : eventId.val.length = eventId'.val.length := by
    rw [eventId.property, eventId'.property]
  exact Subtype.ext (List.append_inj_left (List.cons.inj same).2 lengths)

theorem legacyAddress_legacySeeds (eventId : Bytes32) :
    legacyAddress (legacySeeds eventId).flatten = eventId := by
  have length : (legacySeeds eventId).flatten.length = 42 := by
    simp [legacySeeds, settlementSeed, eventId.property]
  rw [legacyAddress, dif_pos length]
  refine Subtype.ext ?_
  simp [legacySeeds, settlementSeed]

/-- The seeds of the legacy record and of the new one are all there are. -/
theorem sampleKinds_seeds : recordSeeds legacyDeployment legacyState.accounts sampleKinds ⊆
    {(legacySeeds legacyEvent).flatten, (settlementSeeds sampleNamespacePda (Bytes32.fill 4)).flatten} := by
  obtain ⟨_, legacy, _, nsLength, _, recorded, _, elsewhere⟩ := sampleKinds_accounts
  have legacyData := congrArg Account.data legacy
  rintro bytes (⟨eventId, rfl, owned⟩ | ⟨ns, eventId, amount, rfl, isNs, owned⟩)
  · have here : legacyAddress (legacySeeds eventId).flatten = legacyEvent := legacyState_owned owned
    rw [legacyAddress_legacySeeds] at here
    rw [here]
    exact .inl rfl
  have length := isNs.length
  obtain ⟨_, _, _, _, _, _, ownedNs, _⟩ := isNs
  obtain rfl : ns = sampleNamespacePda := by
    rcases sampleKinds_owned ownedNs with rfl | rfl | rfl
    · rw [legacyData, length_recordData] at length
      cases length
    · rfl
    · rw [recorded, length_recordData] at length
      cases length
  obtain ⟨ownedRecord, data, _⟩ := owned
  rcases sampleKinds_owned ownedRecord with here | here | here
  · rw [here, legacyData] at data
    obtain rfl := eventId_of_recordData data
    exact absurd here elsewhere
  · have same := congrArg List.length data
    rw [here, nsLength, length_recordData] at same
    cases same
  · rw [here, recorded] at data
    obtain rfl := eventId_of_recordData data
    exact .inr rfl

/-- A legacy record, a namespace and a record, each of its own kind and the record with its
rent. -/
theorem accounts_well_formed_sample :
    IsLegacyRecord legacyDeployment legacyState.accounts sampleKinds legacyEvent ∧
      ¬ IsRecord legacyDeployment sampleKinds legacyEvent ∧
      IsNamespace legacyDeployment sampleKinds sampleNamespacePda ∧
      IsRecord legacyDeployment sampleKinds sampleRecordPda ∧
      legacyDeployment.minimumBalance 41 ≤ (sampleKinds sampleRecordPda).lamports := by
  obtain ⟨original, legacy, nsOwner, nsLength, owner, recorded, differ, _⟩ := sampleKinds_accounts
  have address : legacyEvent = legacyAddress (legacySeeds legacyEvent).flatten :=
    (legacyAddress_legacySeeds legacyEvent).symm
  have only : OnlyLegacyRecords legacyDeployment legacyState.accounts := by
    intro k owned
    rw [legacyState_owned owned]
    refine ⟨⟨legacyEvent, address⟩, ?_⟩
    rw [original]
    exact length_recordData _ _
  have apart : legacyAddress (legacySeeds legacyEvent).flatten ≠
      legacyAddress (settlementSeeds sampleNamespacePda (Bytes32.fill 4)).flatten := by
    rw [← address]
    exact differ.symm
  obtain ⟨kinds, _, _, rent, _⟩ := accounts_well_formed legacyState only [[sampleOpening]]
    [sampleSettling] sampleKinds sampleKinds_reached sampleKinds_unsigned
    ((collisionFree_pair (fun _ => rfl) apart).mono sampleKinds_seeds)
  have isLegacy : IsLegacyRecord legacyDeployment legacyState.accounts sampleKinds legacyEvent := by
    refine ⟨?_, ⟨legacyEvent, address⟩, ?_, ?_⟩
    · rw [original]
    · rw [original]
      exact length_recordData _ _
    · rw [Owned, original, legacy]
      exact ⟨rfl, rfl, by norm_num⟩
  have isNs : IsNamespace legacyDeployment sampleKinds sampleNamespacePda := by
    rcases kinds sampleNamespacePda nsOwner with ⟨legacy, _⟩ | ⟨_, isNs, _⟩ | ⟨_, _, record⟩
    · exact absurd (legacy.length.symm.trans nsLength) (by decide)
    · exact isNs
    · exact absurd (record.length.symm.trans nsLength) (by decide)
  have isRecord : IsRecord legacyDeployment sampleKinds sampleRecordPda := by
    rcases kinds sampleRecordPda owner with ⟨legacy, _⟩ | ⟨_, isNs, _⟩ | ⟨_, _, record⟩
    · exact absurd (legacyState_owned legacy.original) differ
    · have length := isNs.length
      rw [recorded, length_recordData] at length
      cases length
    · exact record
  refine ⟨isLegacy, ?_, isNs, isRecord, (rent _ isRecord).2.2⟩
  rcases kinds legacyEvent (congrArg Account.owner legacy) with ⟨_, _, none⟩ | ⟨other, _⟩ | ⟨other, _⟩
  · exact none
  · exact absurd isLegacy other
  · exact absurd isLegacy other

end Synxed.Program
