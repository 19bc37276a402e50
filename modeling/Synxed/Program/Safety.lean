import Synxed.Program.Chain

/-!
Safety of the settlement program over whole runs.

* `settled_at_most_once`: an event is settled at most once in a namespace, and
  its record stays as the settlement wrote it.
* `namespace_authority_safety`: without its authority's signature a namespace
  neither changes nor settles, and only a rotation both authorities sign
  changes who that is.
-/

namespace Synxed.Program

open Synxed.Lib

variable {D : Deployment}

/-! ### Records -/

/-- The address of an event's record. -/
def recordAddress (D : Deployment) (ns : Pubkey) (eventId : Bytes32) : Pubkey :=
  (settlementPda D.addresses D.programId ns eventId).1

/-- The program's record of a settlement of `eventId` in `ns`. -/
def Recorded (D : Deployment) (accounts : Accounts) (ns : Pubkey) (eventId : Bytes32)
    (amount : UInt64) : Prop :=
  Owned D accounts (recordAddress D ns eventId) (recordData eventId amount) 1

/-- A record is not a namespace, so nothing rotates it. -/
theorem Recorded.of_itemStep {before after : Accounts} {item : Item} {ns : Pubkey}
    {eventId : Bytes32} {amount : UInt64} (recorded : Recorded D before ns eventId amount)
    (next : ItemStep D before item after) : Recorded D after ns eventId amount := by
  rcases Owned.of_itemStep recorded next with kept | ⟨_, _, authority, _, _, _, current, _⟩
  · exact kept
  · refine absurd current.2 (namespaceAuthority_ne_ok_of_length ?_ authority)
    rw [recorded.2.1, length_recordData]
    decide

/-- The item that settles an event finds no record and leaves one. -/
theorem settlement_step {before after : Accounts} {item : Item} {ns : Pubkey} {eventId : Bytes32}
    {amount : UInt64} (next : ItemStep D before item after)
    (settles : item.settlement = some (ns, eventId, amount)) :
    (before (recordAddress D ns eventId)).owner ≠ D.programId ∧
      Recorded D after ns eventId amount := by
  rcases itemStep_cases next with ⟨accounts, data, v, rfl, decoded, effect⟩ | ⟨_, _, _, rfl, _⟩
  · simp only [Item.settlement, decoded] at settles
    cases effect with
    | opens creator namespaceId authority creatorAt signed creates =>
        cases slot : keyAt accounts 2 <;> simp [slot, SettlementInstruction.settlement] at settles
    | rotates ns authority newAuthority authorityAt nsAt current signed signedNew changed =>
        cases slot : keyAt accounts 2 <;> simp [slot, SettlementInstruction.settlement] at settles
    | settles v ns' authority eventId' amount' settlement authorityAt nsAt current signed creates =>
        simp only [nsAt, settlement, Option.map_some] at settles
        cases settles
        exact ⟨creates.not_owned, creates.made.1, creates.made.2, creates.funded⟩
  · cases settles

/-- The gross amounts of the settlements of one event in a list of items. -/
def settlementsOf (ns : Pubkey) (eventId : Bytes32) (log : List Item) : List UInt64 :=
  log.filterMap (Item.settles ns eventId)

/-- Either nobody settled the event, or one item did and its record is there. -/
def SettledOnce (D : Deployment) (ns : Pubkey) (eventId : Bytes32) (log : List Item)
    (accounts : Accounts) : Prop :=
  settlementsOf ns eventId log = [] ∨
    ∃ amount, settlementsOf ns eventId log = [amount] ∧ Recorded D accounts ns eventId amount

theorem SettledOnce.of_itemStep {log : List Item} {before after : Accounts} {item : Item}
    {ns : Pubkey} {eventId : Bytes32} (settled : SettledOnce D ns eventId log before)
    (next : ItemStep D before item after) : SettledOnce D ns eventId (log ++ [item]) after := by
  have extend : settlementsOf ns eventId (log ++ [item]) =
      settlementsOf ns eventId log ++ (item.settles ns eventId).toList := by
    cases here : item.settles ns eventId <;>
      simp [settlementsOf, List.filterMap_append, here]
  unfold SettledOnce
  rw [extend]
  cases here : item.settles ns eventId with
  | none =>
      rcases settled with nothing | ⟨amount, one, recorded⟩
      · exact .inl (by simpa using nothing)
      · exact .inr ⟨amount, by simpa using one, recorded.of_itemStep next⟩
  | some amount =>
      obtain ⟨absent, recorded⟩ := settlement_step next (Item.settles_eq_some.mp here)
      rcases settled with nothing | ⟨_, _, earlier⟩
      · exact .inr ⟨amount, by simp [nothing], recorded⟩
      · exact absurd earlier.1 absent

theorem settledOnce_of_trace {log : List Item} {start last : Accounts} (ns : Pubkey)
    (eventId : Bytes32) (steps : Trace (ItemStep D) PurgeStep start log last) :
    SettledOnce D ns eventId log last := by
  refine steps.invariant (SettledOnce D ns eventId) (.inl rfl)
    (fun _ _ _ _ _ settled next => settled.of_itemStep next) ?_
  rintro log before _ (nothing | ⟨amount, one, recorded⟩) rfl
  · exact .inl nothing
  · exact .inr ⟨amount, one, recorded.of_purge Nat.one_pos⟩

/-- **At most one settlement.** In every state a run of transactions passes
through, also between the items of its last transaction, at most one settlement
of an event in a namespace was committed, and if one was, its record is an
account of the program with exactly the bytes that settlement wrote. -/
theorem settled_at_most_once (start : ChainState) (transactions : List Transaction)
    (items : List Item) (ns : Pubkey) (eventId : Bytes32) (state : Accounts)
    (reached : execItems D items (start.run D transactions).accounts = .ok state) :
    (settlementsOf ns eventId (start.executed D transactions ++ items)).length ≤ 1 ∧
      ∀ amount ∈ settlementsOf ns eventId (start.executed D transactions ++ items),
        (state (recordAddress D ns eventId)).owner = D.programId ∧
        (state (recordAddress D ns eventId)).data =
          1 :: (eventId.val ++ leBytes 8 amount.toNat) ∧
        (state (recordAddress D ns eventId)).data.length = 41 ∧
        0 < (state (recordAddress D ns eventId)).lamports := by
  have steps := (start.run_trace (D := D) transactions).trans (execItems_trace reached)
  rcases settledOnce_of_trace ns eventId steps with
    nothing | ⟨amount, one, owner, data, funded⟩
  · simp [nothing]
  · simp only [one, List.length_singleton, le_refl, List.mem_singleton, forall_eq, true_and]
    exact ⟨owner, data, by rw [data, length_recordData]; rfl, funded⟩

/-- A settlement, a second one of the same event after a rotation, and one of
another event: the first and the last are committed. -/
theorem settled_at_most_once_sample :
    settlementsOf sampleNamespace (Bytes32.fill 4)
        (sampleState.executed sampleDeployment
          [[sampleSettlement sampleAuthority (Bytes32.fill 4) 1000],
            [sampleRotation sampleAuthority sampleRecipient,
              sampleSettlement sampleRecipient (Bytes32.fill 4) 2000],
            [sampleSettlement sampleAuthority (Bytes32.fill 6) 3000]] ++ []) = [1000] ∧
      ((sampleState.run sampleDeployment
          [[sampleSettlement sampleAuthority (Bytes32.fill 4) 1000],
            [sampleRotation sampleAuthority sampleRecipient,
              sampleSettlement sampleRecipient (Bytes32.fill 4) 2000],
            [sampleSettlement sampleAuthority (Bytes32.fill 6) 3000]]).accounts
        (recordAddress sampleDeployment sampleNamespace (Bytes32.fill 4))).data.length = 41 := by
  have once : settlementsOf sampleNamespace (Bytes32.fill 4)
      (sampleState.executed sampleDeployment
        [[sampleSettlement sampleAuthority (Bytes32.fill 4) 1000],
          [sampleRotation sampleAuthority sampleRecipient,
            sampleSettlement sampleRecipient (Bytes32.fill 4) 2000],
          [sampleSettlement sampleAuthority (Bytes32.fill 6) 3000]] ++ []) = [1000] := by
    decide +kernel
  refine ⟨once, ?_⟩
  have settled := (settled_at_most_once (D := sampleDeployment) sampleState
    [[sampleSettlement sampleAuthority (Bytes32.fill 4) 1000],
      [sampleRotation sampleAuthority sampleRecipient,
        sampleSettlement sampleRecipient (Bytes32.fill 4) 2000],
      [sampleSettlement sampleAuthority (Bytes32.fill 6) 3000]] [] sampleNamespace (Bytes32.fill 4)
    _ rfl).2 1000
  rw [once] at settled
  exact (settled (List.mem_singleton_self _)).2.2.1

/-! ### Namespaces -/

/-- `find_program_address` gives different addresses for different concatenated
seeds, as far as they lie in `domain`. -/
def CollisionFree (D : Deployment) (domain : Set Bytes) : Prop :=
  ∀ seeds seeds' : List Bytes, seeds.flatten ∈ domain → seeds'.flatten ∈ domain →
    (D.addresses.find D.programId seeds).1 = (D.addresses.find D.programId seeds').1 →
    seeds.flatten = seeds'.flatten

theorem CollisionFree.mono {domain domain' : Set Bytes} (free : CollisionFree D domain')
    (subset : domain ⊆ domain') : CollisionFree D domain :=
  fun seeds seeds' here here' same => free seeds seeds' (subset here) (subset here') same

theorem collisionFree_pair {address : Bytes → Pubkey} {seeds seeds' : Bytes}
    (derives : ∀ seeds : List Bytes, (D.addresses.find D.programId seeds).1 = address seeds.flatten)
    (differ : address seeds ≠ address seeds') : CollisionFree D {seeds, seeds'} := by
  intro one other here there same
  rw [derives, derives] at same
  rcases here with first | first <;> rcases there with second | second <;>
    rw [first, second] at same ⊢
  · exact absurd same differ
  · exact absurd same.symm differ

/-- The seeds of every address a list of items creates. -/
def derivedSeeds (log : List Item) : Set Bytes := {bytes | ∃ item ∈ log, item.seeds = some bytes}

/-- An item that changes who the authority is rotates the namespace: both keys
sign, and nothing but the authority's bytes changes. -/
theorem authority_changes {before after : Accounts} {item : Item} {ns authority : Pubkey}
    (current : HasAuthority D before ns authority) (next : ItemStep D before item after)
    (changed : ¬ HasAuthority D after ns authority) :
    ∃ accounts data newAuthority, item = .instruction accounts data ∧
      SettlementInstruction.unpack data = .ok (.setNamespaceAuthority newAuthority) ∧
      Signed accounts authority ∧ Signed accounts newAuthority ∧
      after = Function.update before ns
        { before ns with data := rotatedData (before ns).data newAuthority } := by
  have owned : Owned D before ns (before ns).data 0 := ⟨current.1, rfl, Nat.zero_le _⟩
  rcases owned.of_itemStep next with
    still | ⟨accounts, data, authority', newAuthority, rfl, decoded, held, signed, signedNew, same⟩
  · refine absurd ⟨still.1, ?_⟩ changed
    rw [still.2.1]
    exact current.2
  · cases current.unique held
    exact ⟨accounts, data, newAuthority, rfl, decoded, signed, signedNew, same⟩

/-- A rotated namespace names its new authority. -/
theorem HasAuthority.of_rotated {before : Accounts} {ns authority : Pubkey} (newAuthority : Pubkey)
    (current : HasAuthority D before ns authority) :
    HasAuthority D (Function.update before ns
      { before ns with data := rotatedData (before ns).data newAuthority }) ns newAuthority := by
  obtain ⟨⟨length, discriminator⟩, _⟩ := namespaceAuthority_eq_ok.mp current.2
  have front : ((before ns).data.take namespaceAuthorityOffset).length =
      namespaceAuthorityOffset := by
    rw [List.length_take, length]
    rfl
  refine ⟨by simpa using current.1, ?_⟩
  rw [Function.update_self, namespaceAuthority_eq_ok]
  refine ⟨⟨?_, ?_⟩, List.drop_left' front⟩
  · simp only [rotatedData, List.length_append, front, newAuthority.property]
    rfl
  · rw [rotatedData, List.getElem?_append_left (by rw [front]; decide),
      List.getElem?_take_of_lt (by decide), discriminator]

/-- Whoever settles in a namespace or rotates it is its authority and signs. -/
theorem actsOn_authority {before after : Accounts} {item : Item} {ns claimed authority : Pubkey}
    (next : ItemStep D before item after) (acts : item.actsOn = some (ns, claimed))
    (current : HasAuthority D before ns authority) :
    claimed = authority ∧ item.SignedBy authority := by
  rcases itemStep_cases next with ⟨accounts, data, v, rfl, decoded, effect⟩ | ⟨_, _, _, rfl, _⟩
  · simp only [Item.actsOn, decoded] at acts
    cases effect with
    | opens creator namespaceId authority creatorAt signed creates => cases acts
    | rotates ns' authority' newAuthority authorityAt nsAt held signed signedNew changed =>
        simp only [nsAt, authorityAt, Option.bind_some, Option.map_some] at acts
        cases acts
        cases held.unique current
        exact ⟨rfl, signed⟩
    | settles v ns' authority' eventId amount settlement authorityAt nsAt held signed creates =>
        cases v with
        | createNamespace _ _ => cases settlement
        | setNamespaceAuthority _ => cases settlement
        | settleN _ _ _ =>
            simp only [nsAt, authorityAt, Option.bind_some, Option.map_some] at acts
            cases acts
            cases held.unique current
            exact ⟨rfl, signed⟩
        | settleTokenN _ _ _ _ =>
            simp only [nsAt, authorityAt, Option.bind_some, Option.map_some] at acts
            cases acts
            cases held.unique current
            exact ⟨rfl, signed⟩
  · cases acts

theorem not_owned_of_purge {accounts : Accounts} {k : Pubkey}
    (fresh : (accounts k).owner ≠ D.programId) : (purge accounts k).owner ≠ D.programId := by
  by_cases empty : (accounts k).lamports = 0
  · rw [purge, if_pos empty]
    exact D.notSystem.symm
  · rwa [purge, if_neg empty]

/-- An item makes accounts at the address it derives and nowhere else. -/
theorem derived_of_made {before after : Accounts} {item : Item} {k : Pubkey}
    (next : ItemStep D before item after) (fresh : (before k).owner ≠ D.programId)
    (owned : (after k).owner = D.programId) : ∃ seeds : List Bytes,
    item.seeds = some seeds.flatten ∧ k = (D.addresses.find D.programId seeds).1 := by
  have target {seeds : List Bytes} {data : Bytes}
      (creates : Creates D before after (D.addresses.find D.programId seeds).1 data)
      (made : item.seeds = some seeds.flatten) : ∃ seeds : List Bytes,
        item.seeds = some seeds.flatten ∧ k = (D.addresses.find D.programId seeds).1 := by
    refine ⟨seeds, made, ?_⟩
    by_contra other
    exact fresh ((creates.owner k other).symm.trans owned)
  rcases itemStep_cases next with ⟨accounts, data, v, rfl, decoded, effect⟩ | ⟨_, _, _, _, quiet⟩
  · cases effect with
    | opens creator namespaceId authority creatorAt signed creates =>
        refine target creates ?_
        simp only [Item.seeds, decoded, creatorAt, Option.map_some]
    | rotates ns authority newAuthority authorityAt nsAt held signed signedNew changed =>
        rw [changed] at owned
        by_cases same : k = ns
        · exact absurd (same ▸ held.1) fresh
        · rw [Function.update_of_ne same] at owned
          exact absurd owned fresh
    | settles v ns authority eventId amount settlement authorityAt nsAt held signed creates =>
        refine target creates ?_
        cases v <;> cases settlement <;>
          simp only [Item.seeds, decoded, nsAt, Option.map_some]
  · rw [quiet.owner] at owned
    exact absurd owned fresh

theorem derived_of_trace {log : List Item} {start last : Accounts} {k : Pubkey}
    (steps : Trace (ItemStep D) PurgeStep start log last) (owned : (last k).owner = D.programId) :
    (start k).owner = D.programId ∨ ∃ item ∈ log, ∃ seeds : List Bytes,
      item.seeds = some seeds.flatten ∧ k = (D.addresses.find D.programId seeds).1 := by
  refine steps.invariant (fun done accounts => (accounts k).owner = D.programId →
    (start k).owner = D.programId ∨ ∃ item ∈ log, ∃ seeds : List Bytes,
      item.seeds = some seeds.flatten ∧ k = (D.addresses.find D.programId seeds).1) .inl ?_ ?_ owned
  · intro _ before item after mem ih next owned
    by_cases fresh : (before k).owner = D.programId
    · exact ih fresh
    · exact .inr ⟨item, mem, derived_of_made next fresh owned⟩
  · rintro _ accounts _ ih rfl owned
    refine ih ?_
    by_contra fresh
    exact not_owned_of_purge fresh owned

/-- Where derivation is collision free, it derives an address from its own seeds. -/
theorem seeds_of_made {before after : Accounts} {item : Item} {seeds : List Bytes}
    {domain : Set Bytes} (free : CollisionFree D domain) (here : seeds.flatten ∈ domain)
    (derived : ∀ bytes, item.seeds = some bytes → bytes ∈ domain)
    (next : ItemStep D before item after)
    (fresh : (before (D.addresses.find D.programId seeds).1).owner ≠ D.programId)
    (owned : (after (D.addresses.find D.programId seeds).1).owner = D.programId) :
    item.seeds = some seeds.flatten := by
  obtain ⟨seeds', made, same⟩ := derived_of_made next fresh owned
  rw [made, free _ _ here (derived _ made) same]

/-- Only a settlement of the event derives the address of its record. -/
theorem settlement_of_seeds {item : Item} {ns : Pubkey} {eventId : Bytes32}
    (made : item.seeds = some (settlementSeeds ns eventId).flatten) :
    ∃ amount, item.settlement = some (ns, eventId, amount) := by
  cases item with
  | move _ _ _ => cases made
  | instruction accounts data =>
      cases decoded : SettlementInstruction.unpack data with
      | error _ =>
          rw [Item.seeds, decoded] at made
          cases made
      | ok v =>
          simp only [Item.seeds, decoded] at made
          simp only [Item.settlement, decoded]
          cases v with
          | createNamespace namespaceId _ =>
              obtain ⟨creator, _, same⟩ := Option.map_eq_some_iff.mp made
              exact absurd same.symm (settlementSeeds_ne_namespaceSeeds _ _ _ _)
          | setNamespaceAuthority _ => cases made
          | settleN eventId' amount _ =>
              obtain ⟨ns', nsAt, same⟩ := Option.map_eq_some_iff.mp made
              obtain ⟨rfl, rfl⟩ := settlementSeeds_injective same
              rw [nsAt]
              exact ⟨amount, rfl⟩
          | settleTokenN eventId' amount _ _ =>
              obtain ⟨ns', nsAt, same⟩ := Option.map_eq_some_iff.mp made
              obtain ⟨rfl, rfl⟩ := settlementSeeds_injective same
              rw [nsAt]
              exact ⟨amount, rfl⟩

/-- The authority of a namespace signs every settlement in it. -/
theorem settlement_signed {before after : Accounts} {item : Item} {ns authority : Pubkey}
    {eventId : Bytes32} {amount : UInt64} (current : HasAuthority D before ns authority)
    (next : ItemStep D before item after)
    (settles : item.settlement = some (ns, eventId, amount)) : item.SignedBy authority := by
  rcases itemStep_cases next with ⟨accounts, data, v, rfl, decoded, effect⟩ | ⟨_, _, _, rfl, _⟩
  · simp only [Item.settlement, decoded] at settles
    cases effect with
    | opens creator namespaceId authority creatorAt signed creates =>
        cases slot : keyAt accounts 2 <;> simp [slot, SettlementInstruction.settlement] at settles
    | rotates ns authority newAuthority authorityAt nsAt held signed signedNew changed =>
        cases slot : keyAt accounts 2 <;> simp [slot, SettlementInstruction.settlement] at settles
    | settles v ns' authority' eventId' amount' settlement authorityAt nsAt held signed creates =>
        simp only [nsAt, settlement, Option.map_some] at settles
        cases settles
        cases held.unique current
        exact signed
  · cases settles

/-- A record address that an item makes an account of the program belongs to an
event of a namespace whose authority signed that item. -/
theorem record_step {before after : Accounts} {item : Item} {ns authority : Pubkey}
    {eventId : Bytes32} {domain : Set Bytes} (current : HasAuthority D before ns authority)
    (unsigned : ¬ item.SignedBy authority) (free : CollisionFree D domain)
    (here : (settlementSeeds ns eventId).flatten ∈ domain)
    (derived : ∀ bytes, item.seeds = some bytes → bytes ∈ domain)
    (next : ItemStep D before item after)
    (owned : (after (recordAddress D ns eventId)).owner = D.programId) :
    (before (recordAddress D ns eventId)).owner = D.programId := by
  by_contra fresh
  obtain ⟨amount, settles⟩ :=
    settlement_of_seeds (seeds_of_made free here derived next fresh owned)
  exact unsigned (settlement_signed current next settles)

/-- What stays of a namespace while its authority does not sign. -/
structure Untouched (D : Deployment) (start : Accounts) (ns authority : Pubkey)
    (accounts : Accounts) : Prop where
  current : HasAuthority D accounts ns authority
  owned : Owned D accounts ns (start ns).data 1

theorem Untouched.of_owned {start before after : Accounts} {ns authority : Pubkey}
    (untouched : Untouched D start ns authority before) (owned : Owned D after ns (start ns).data 1) :
    Untouched D start ns authority after := by
  refine ⟨⟨owned.1, ?_⟩, owned⟩
  rw [owned.2.1, ← untouched.owned.2.1]
  exact untouched.current.2

theorem Untouched.of_itemStep {start before after : Accounts} {item : Item} {ns authority : Pubkey}
    (untouched : Untouched D start ns authority before) (next : ItemStep D before item after)
    (unsigned : ¬ item.SignedBy authority) : Untouched D start ns authority after := by
  refine untouched.of_owned ?_
  rcases untouched.owned.of_itemStep next with
    still | ⟨accounts, data, authority', newAuthority, rfl, decoded, held, signed, _⟩
  · exact still
  · cases held.unique untouched.current
    exact absurd signed unsigned

/-- What a run does to a namespace none of whose items its authority signed. -/
structure Unsigned (D : Deployment) (start : Accounts) (ns authority : Pubkey) (all : List Item)
    (done : List Item) (accounts : Accounts) : Prop where
  untouched : Untouched D start ns authority accounts
  idle : ∀ item ∈ done, ∀ claimed, item.actsOn ≠ some (ns, claimed)
  records : ∀ eventId,
    CollisionFree D (insert (settlementSeeds ns eventId).flatten (derivedSeeds all)) →
    (accounts (recordAddress D ns eventId)).owner = D.programId →
    (start (recordAddress D ns eventId)).owner = D.programId

theorem unsigned_of_trace {log : List Item} {start last : Accounts} {ns authority : Pubkey}
    (current : HasAuthority D start ns authority) (funded : 0 < (start ns).lamports)
    (steps : Trace (ItemStep D) PurgeStep start log last)
    (unsigned : ∀ item ∈ log, ¬ item.SignedBy authority) :
    Unsigned D start ns authority log log last := by
  refine steps.invariant (Unsigned D start ns authority log)
    ⟨⟨current, current.1, rfl, funded⟩, by simp, fun _ _ owned => owned⟩ ?_ ?_
  · intro done before item after mem so_far next
    refine ⟨so_far.untouched.of_itemStep next (unsigned item mem), ?_, ?_⟩
    · intro item' mem' claimed acts
      rcases List.mem_append.mp mem' with earlier | now
      · exact so_far.idle item' earlier claimed acts
      · cases List.mem_singleton.mp now
        exact unsigned item mem (actsOn_authority next acts so_far.untouched.current).2
    · intro eventId free owned
      refine so_far.records eventId free (record_step so_far.untouched.current (unsigned item mem)
        free (Set.mem_insert _ _) (fun bytes seeds => ?_) next owned)
      exact Set.mem_insert_of_mem _ ⟨item, mem, seeds⟩
  · rintro done before _ so_far rfl
    refine ⟨so_far.untouched.of_owned (so_far.untouched.owned.of_purge Nat.one_pos), so_far.idle,
      fun eventId free owned => so_far.records eventId free ?_⟩
    by_contra fresh
    exact not_owned_of_purge fresh owned

/-- **Namespace authority safety.** Take any chain state with a namespace `ns`
whose authority is `authority`, and any state a run of transactions passes
through from there. If the authority signed none of the items committed so far,
the namespace holds the bytes it held, nobody settled in it or rotated it, and
no record address of it became an account of the program (as far as address
derivation is collision-free on this run's seeds). And from that state, an item
changes who the authority is only as a rotation that both the old and the new
authority signed; it rewrites bytes 66..98 of that one account, and after it
every settlement or rotation names the new authority and carries its signature. -/
theorem namespace_authority_safety (start : ChainState) (ns authority : Pubkey)
    (current : HasAuthority D start.accounts ns authority) (transactions : List Transaction)
    (items : List Item) (state : Accounts)
    (reached : execItems D items (start.run D transactions).accounts = .ok state) :
    ((∀ item ∈ start.executed D transactions ++ items, ¬ item.SignedBy authority) →
      (state ns).data = (start.accounts ns).data ∧ (state ns).owner = D.programId ∧
      (∀ item ∈ start.executed D transactions ++ items, ∀ claimed,
        item.actsOn ≠ some (ns, claimed)) ∧
      ∀ eventId,
        CollisionFree D (insert (settlementSeeds ns eventId).flatten
          (derivedSeeds (start.executed D transactions ++ items))) →
        (start.accounts (recordAddress D ns eventId)).owner ≠ D.programId →
        (state (recordAddress D ns eventId)).owner ≠ D.programId) ∧
    ∀ (old : Pubkey) (item : Item) (after : Accounts), HasAuthority D state ns old →
      item.exec D state = .ok after → ¬ HasAuthority D after ns old →
      ∃ accounts data newAuthority, item = .instruction accounts data ∧
        SettlementInstruction.unpack data = .ok (.setNamespaceAuthority newAuthority) ∧
        Signed accounts old ∧ Signed accounts newAuthority ∧
        HasAuthority D after ns newAuthority ∧
        after ns = { state ns with data := (state ns).data.take 66 ++ newAuthority.val } ∧
        (∀ k, k ≠ ns → after k = state k) ∧
        ∀ (item' : Item) (claimed : Pubkey) (later : Accounts), item'.exec D after = .ok later →
          item'.actsOn = some (ns, claimed) →
          claimed = newAuthority ∧ item'.SignedBy newAuthority := by
  have funded : 0 < (start.accounts ns).lamports := by
    refine Nat.pos_of_ne_zero fun empty => ?_
    have owner := current.1
    rw [start.purged ns empty] at owner
    exact D.notSystem owner.symm
  have steps := (start.run_trace (D := D) transactions).trans (execItems_trace reached)
  refine ⟨fun unsigned => ?_, ?_⟩
  · have kept := unsigned_of_trace current funded steps unsigned
    exact ⟨kept.untouched.owned.2.1, kept.untouched.owned.1, kept.idle,
      fun eventId free fresh owned => fresh (kept.records eventId free owned)⟩
  · intro old item after held next changed
    obtain ⟨accounts, data, newAuthority, rfl, decoded, signed, signedNew, rfl⟩ :=
      authority_changes held next changed
    have rotated := held.of_rotated newAuthority
    refine ⟨accounts, data, newAuthority, rfl, decoded, signed, signedNew, rotated, ?_,
      fun k other => Function.update_of_ne other _ _, ?_⟩
    · rw [Function.update_self]
      rfl
    · intro item' claimed later next' acts
      exact actsOn_authority next' acts rotated

/-- Others open a namespace of their own and move lamports, and an outsider's settlement in
the sample namespace is refused. -/
def sampleOthers : List Transaction :=
  [[sampleSettlement sampleRecipient (Bytes32.fill 4) 1000],
    [sampleOpening, .move samplePayer sampleRecipient 5000]]

/-- What the others commit, sign and derive. -/
theorem sampleOthers_items :
    sampleState.executed sampleDeployment sampleOthers =
        [sampleOpening, .move samplePayer sampleRecipient 5000] ∧
      (∀ item ∈ [sampleOpening, .move samplePayer sampleRecipient 5000],
        ¬ item.SignedBy sampleAuthority) ∧
      [sampleOpening, .move samplePayer sampleRecipient 5000].map Item.seeds =
        [some (namespaceSeeds samplePayer (Bytes32.fill 5)).flatten, none] ∧
      sampleAddress (settlementSeeds sampleNamespace (Bytes32.fill 4)).flatten ≠
        sampleAddress (namespaceSeeds samplePayer (Bytes32.fill 5)).flatten := by
  decide +kernel

theorem sampleOthers_unsigned : ∀ item ∈ sampleState.executed sampleDeployment sampleOthers ++ [],
    ¬ item.SignedBy sampleAuthority := by
  obtain ⟨executed, unsigned, _⟩ := sampleOthers_items
  rw [executed]
  exact unsigned

theorem sampleOthers_free : CollisionFree sampleDeployment
    (insert (settlementSeeds sampleNamespace (Bytes32.fill 4)).flatten
      (derivedSeeds (sampleState.executed sampleDeployment sampleOthers ++ []))) := by
  obtain ⟨executed, _, seeds, differ⟩ := sampleOthers_items
  refine (collisionFree_pair (fun _ => rfl) differ).mono (Set.insert_subset_insert ?_)
  rintro bytes ⟨item, mem, made⟩
  rw [executed, List.append_nil] at mem
  have here := List.mem_map_of_mem (f := Item.seeds) mem
  rw [made, seeds] at here
  simpa using here

/-- Then the authority hands the namespace over. -/
def sampleHandedOver : Accounts :=
  ((sampleRotation sampleAuthority sampleRecipient).exec sampleDeployment
    (sampleState.run sampleDeployment sampleOthers).accounts).toOption.getD fun _ => Account.empty

/-- The sample authority may settle before that, and not after. -/
theorem sampleHandedOver_accounts :
    (sampleState.accounts sampleNamespace).owner = sampleDeployment.programId ∧
      namespaceAuthority (sampleState.accounts sampleNamespace).data = .ok sampleAuthority ∧
      (sampleState.accounts (recordAddress sampleDeployment sampleNamespace (Bytes32.fill 4))).owner ≠
        sampleDeployment.programId ∧
      ((sampleRotation sampleAuthority sampleRecipient).exec sampleDeployment
        (sampleState.run sampleDeployment sampleOthers).accounts).isOk ∧
      namespaceAuthority (sampleHandedOver sampleNamespace).data ≠ .ok sampleAuthority ∧
      (sampleSettlement sampleAuthority (Bytes32.fill 4) 1000).actsOn =
        some (sampleNamespace, sampleAuthority) := by
  decide +kernel

/-- What others commit leaves the namespace as it was. Then the authority hands it over, and
can settle in it no more. -/
theorem namespace_authority_safety_sample :
    ((sampleState.run sampleDeployment sampleOthers).accounts sampleNamespace).data =
        (sampleState.accounts sampleNamespace).data ∧
      ((sampleState.run sampleDeployment sampleOthers).accounts
        (recordAddress sampleDeployment sampleNamespace (Bytes32.fill 4))).owner ≠
          sampleDeployment.programId ∧
      ∃ after, (sampleRotation sampleAuthority sampleRecipient).exec sampleDeployment
          (sampleState.run sampleDeployment sampleOthers).accounts = .ok after ∧
        HasAuthority sampleDeployment after sampleNamespace sampleRecipient ∧
        ∀ later, (sampleSettlement sampleAuthority (Bytes32.fill 4) 1000).exec sampleDeployment after ≠
          .ok later := by
  obtain ⟨owned, authority, unrecorded, rotates, handedOver, names⟩ := sampleHandedOver_accounts
  have current : HasAuthority sampleDeployment sampleState.accounts sampleNamespace
      sampleAuthority := ⟨owned, authority⟩
  obtain ⟨kept, rotation⟩ := namespace_authority_safety sampleState sampleNamespace sampleAuthority
    current sampleOthers [] _ rfl
  obtain ⟨sameData, owner, _, fresh⟩ := kept sampleOthers_unsigned
  refine ⟨sameData, fresh _ sampleOthers_free unrecorded, ?_⟩
  have held : HasAuthority sampleDeployment (sampleState.run sampleDeployment sampleOthers).accounts
      sampleNamespace sampleAuthority := ⟨owner, by rw [sameData]; exact current.2⟩
  have next : (sampleRotation sampleAuthority sampleRecipient).exec sampleDeployment
      (sampleState.run sampleDeployment sampleOthers).accounts = .ok sampleHandedOver :=
    eq_ok_of_isOk _ rotates
  have changed : ¬ HasAuthority sampleDeployment sampleHandedOver sampleNamespace sampleAuthority :=
    fun still => handedOver still.2
  obtain ⟨_, _, newAuthority, same, decoded, _, _, current', _, _, out⟩ :=
    rotation sampleAuthority _ _ held next changed
  cases same
  have isRotation : SettlementInstruction.unpack
      (SettlementInstruction.setNamespaceAuthority sampleRecipient).pack =
        .ok (.setNamespaceAuthority sampleRecipient) :=
    SettlementInstruction.unpack_eq_ok.mpr ⟨rfl, trivial⟩
  cases isRotation.symm.trans decoded
  refine ⟨_, next, current', fun later settles => ?_⟩
  exact absurd (out _ _ later settles names).1 (by decide)

end Synxed.Program
