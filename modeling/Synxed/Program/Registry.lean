import Synxed.Program.Enabled

/-!
What the program's accounts tell of the run so far.

A record's account tells whether its event was settled and for how much
(`RecordTells`), a namespace's account who opened it and who settles in it now
(`NamespaceTells`). Both say what the committed items say, in every state of
every run: `recordTells_of_trace`, `namespaceTells_of_trace`.
-/

namespace Synxed.Program

open Synxed.Lib

variable {D : Deployment}

/-- The address of the namespace `creator` opened under `namespaceId`. -/
def namespaceAddress (D : Deployment) (creator : Pubkey) (namespaceId : Bytes32) : Pubkey :=
  (namespacePda D.addresses D.programId creator namespaceId).1

/-- The authority an item writes into a namespace, when it opens or rotates it. -/
def Item.authorityWritten (D : Deployment) (creator : Pubkey) (namespaceId : Bytes32) :
    Item → Option Pubkey
  | .instruction accounts data =>
      match SettlementInstruction.unpack data with
      | .ok (.createNamespace namespaceId' authority) =>
          if keyAt accounts 1 = some creator ∧ namespaceId' = namespaceId then some authority
          else none
      | .ok (.setNamespaceAuthority newAuthority) =>
          if keyAt accounts 1 = some (namespaceAddress D creator namespaceId) then
            some newAuthority
          else none
      | _ => none
  | .move _ _ _ => none

/-- The authorities a namespace had, oldest first. -/
def authoritiesOf (D : Deployment) (creator : Pubkey) (namespaceId : Bytes32) (log : List Item) :
    List Pubkey :=
  log.filterMap (Item.authorityWritten D creator namespaceId)

/-! ### What accounts tell -/

/-- The account at an event's record address tells that it was settled for this
gross amount, or that it was not. -/
def RecordTells (D : Deployment) (accounts : Accounts) (ns : Pubkey) (eventId : Bytes32) :
    Option UInt64 → Prop
  | none => (accounts (recordAddress D ns eventId)).owner ≠ D.programId
  | some amount => Recorded D accounts ns eventId amount

/-- The account at a namespace's address tells that this is its authority, or
that it is not open. -/
def NamespaceTells (D : Deployment) (accounts : Accounts) (creator : Pubkey) (namespaceId : Bytes32) :
    Option Pubkey → Prop
  | none => (accounts (namespaceAddress D creator namespaceId)).owner ≠ D.programId
  | some authority => Owned D accounts (namespaceAddress D creator namespaceId)
      (namespaceData (namespacePda D.addresses D.programId creator namespaceId).2 creator namespaceId
        authority) 1

theorem RecordTells.of_purge {accounts : Accounts} {ns : Pubkey} {eventId : Bytes32}
    {settled : Option UInt64} (tells : RecordTells D accounts ns eventId settled) :
    RecordTells D (purge accounts) ns eventId settled := by
  cases settled with
  | none => exact not_owned_of_purge tells
  | some amount => exact Owned.of_purge tells Nat.one_pos

theorem NamespaceTells.of_purge {accounts : Accounts} {creator : Pubkey} {namespaceId : Bytes32}
    {authority : Option Pubkey} (tells : NamespaceTells D accounts creator namespaceId authority) :
    NamespaceTells D (purge accounts) creator namespaceId authority := by
  cases authority with
  | none => exact not_owned_of_purge tells
  | some authority => exact Owned.of_purge tells Nat.one_pos

section Step

variable {before after : Accounts} {item : Item} {domain : Set Bytes}

/-- An item that does not settle the event leaves its record; one that does
finds none and makes it. -/
theorem RecordTells.of_itemStep {ns : Pubkey} {eventId : Bytes32} {settled : Option UInt64}
    (tells : RecordTells D before ns eventId settled) (free : CollisionFree D domain)
    (here : (settlementSeeds ns eventId).flatten ∈ domain)
    (derived : ∀ bytes, item.seeds = some bytes → bytes ∈ domain)
    (next : ItemStep D before item after) :
    RecordTells D after ns eventId ((item.settles ns eventId).or settled) := by
  cases settles : item.settles ns eventId with
  | some amount => exact (settlement_step next (Item.settles_eq_some.mp settles)).2
  | none =>
      cases settled with
      | some amount => exact Recorded.of_itemStep tells next
      | none =>
          intro owned
          obtain ⟨amount, settlement⟩ :=
            settlement_of_seeds (seeds_of_made free here derived next tells owned)
          cases settles.symm.trans (Item.settles_eq_some.mpr settlement)

/-- Only an opening of the namespace derives its address. -/
theorem authorityWritten_of_seeds {creator : Pubkey} {namespaceId : Bytes32}
    (made : item.seeds = some (namespaceSeeds creator namespaceId).flatten) :
    ∃ authority, item.authorityWritten D creator namespaceId = some authority := by
  cases item with
  | move _ _ _ => cases made
  | instruction accounts data =>
      cases decoded : SettlementInstruction.unpack data with
      | error _ =>
          rw [Item.seeds, decoded] at made
          cases made
      | ok v =>
          simp only [Item.seeds, decoded] at made
          cases v with
          | createNamespace namespaceId' authority =>
              obtain ⟨creator', creatorAt, same⟩ := Option.map_eq_some_iff.mp made
              obtain ⟨rfl, rfl⟩ := namespaceSeeds_injective same
              exact ⟨authority, by simp only [Item.authorityWritten, decoded, creatorAt, and_self, if_true]⟩
          | setNamespaceAuthority _ => cases made
          | settleN eventId _ _ =>
              obtain ⟨_, _, same⟩ := Option.map_eq_some_iff.mp made
              exact absurd same (settlementSeeds_ne_namespaceSeeds _ _ _ _)
          | settleTokenN eventId _ _ _ =>
              obtain ⟨_, _, same⟩ := Option.map_eq_some_iff.mp made
              exact absurd same (settlementSeeds_ne_namespaceSeeds _ _ _ _)

/-- An item that writes the namespace's authority leaves the namespace with it. -/
theorem NamespaceTells.of_written {creator authority : Pubkey} {namespaceId : Bytes32}
    {held : Option Pubkey} (tells : NamespaceTells D before creator namespaceId held)
    (next : ItemStep D before item after)
    (written : item.authorityWritten D creator namespaceId = some authority) :
    NamespaceTells D after creator namespaceId (some authority) := by
  rcases itemStep_cases next with ⟨accounts, data, v, rfl, decoded, effect⟩ | ⟨_, _, _, rfl, _⟩
  · simp only [Item.authorityWritten, decoded] at written
    cases effect with
    | opens creator' namespaceId' authority' creatorAt signed creates =>
        obtain ⟨⟨sameCreator, rfl⟩, same⟩ := Option.ite_none_right_eq_some.mp written
        cases same
        cases creatorAt.symm.trans sameCreator
        exact ⟨creates.made.1, creates.made.2, creates.funded⟩
    | rotates ns authority' newAuthority authorityAt nsAt current signed signedNew changed =>
        obtain ⟨sameNs, same⟩ := Option.ite_none_right_eq_some.mp written
        cases same
        cases nsAt.symm.trans sameNs
        cases held with
        | none => exact absurd current.1 tells
        | some old =>
            rw [NamespaceTells, changed, Owned, Function.update_self, tells.2.1,
              rotatedData_namespaceData]
            exact ⟨tells.1, rfl, tells.2.2⟩
    | settles v ns authority' eventId amount settlement authorityAt nsAt current signed creates =>
        cases v <;> cases settlement <;> cases written
  · cases written

/-- An item that does not write it leaves the namespace as it was. -/
theorem NamespaceTells.of_unwritten {creator : Pubkey} {namespaceId : Bytes32}
    {held : Option Pubkey} (tells : NamespaceTells D before creator namespaceId held)
    (free : CollisionFree D domain) (here : (namespaceSeeds creator namespaceId).flatten ∈ domain)
    (derived : ∀ bytes, item.seeds = some bytes → bytes ∈ domain)
    (next : ItemStep D before item after)
    (unwritten : item.authorityWritten D creator namespaceId = none) :
    NamespaceTells D after creator namespaceId held := by
  cases held with
  | none =>
      intro owned
      obtain ⟨authority, written⟩ :=
        authorityWritten_of_seeds (seeds_of_made free here derived next tells owned)
      cases unwritten.symm.trans written
  | some authority =>
      rcases itemStep_cases next with ⟨accounts, data, v, rfl, decoded, effect⟩ | ⟨_, _, _, _, quiet⟩
      · cases effect with
        | opens creator' namespaceId' authority' creatorAt signed creates =>
            exact Owned.of_creates tells creates
        | rotates ns authority' newAuthority authorityAt nsAt current signed signedNew changed =>
            by_cases same : namespaceAddress D creator namespaceId = ns
            · simp only [Item.authorityWritten, decoded, nsAt, same, if_true] at unwritten
              cases unwritten
            · rw [NamespaceTells, Owned, changed, Function.update_of_ne same]
              exact tells
        | settles v ns authority' eventId amount settlement authorityAt nsAt current signed creates =>
            exact Owned.of_creates tells creates
      · exact Owned.of_quiet tells quiet

end Step

/-! ### Whole runs -/

/-- What the last item adds is the latest. -/
theorem getLast?_filterMap_concat {α β : Type} (f : α → Option β) (l : List α) (a : α) :
    ((l ++ [a]).filterMap f).getLast? = (f a).or (l.filterMap f).getLast? := by
  rw [List.filterMap_append, List.getLast?_append]
  cases here : f a with
  | none => rw [List.filterMap_cons, here]; rfl
  | some b => rw [List.filterMap_cons, here]; rfl

section Run

variable {start last : Accounts} {log : List Item} {domain : Set Bytes}

/-- The records say which events the committed items settled, and for how much. -/
theorem recordTells_of_trace {ns : Pubkey} {eventId : Bytes32}
    (steps : Trace (ItemStep D) PurgeStep start log last)
    (fresh : (start (recordAddress D ns eventId)).owner ≠ D.programId)
    (free : CollisionFree D domain) (here : (settlementSeeds ns eventId).flatten ∈ domain)
    (derived : derivedSeeds log ⊆ domain) :
    ∃ settled : Option UInt64, settlementsOf ns eventId log = settled.toList ∧
      RecordTells D last ns eventId settled := by
  have once := settledOnce_of_trace ns eventId steps
  have tells := steps.invariant
    (fun log accounts => RecordTells D accounts ns eventId (settlementsOf ns eventId log).getLast?)
    fresh ?_ (by
      rintro _ _ _ tells rfl
      exact tells.of_purge)
  · rcases once with nothing | ⟨amount, one, _⟩
    · rw [nothing] at tells
      exact ⟨none, nothing, tells⟩
    · rw [one] at tells
      exact ⟨some amount, one, tells⟩
  · intro done before item after mem tells next
    have step := tells.of_itemStep free here (fun bytes made => derived ⟨item, mem, made⟩) next
    rw [settlementsOf, getLast?_filterMap_concat]
    exact step

/-- The namespaces say who opened them and which authority was written last. -/
theorem namespaceTells_of_trace {creator : Pubkey} {namespaceId : Bytes32}
    (steps : Trace (ItemStep D) PurgeStep start log last)
    (fresh : (start (namespaceAddress D creator namespaceId)).owner ≠ D.programId)
    (free : CollisionFree D domain) (here : (namespaceSeeds creator namespaceId).flatten ∈ domain)
    (derived : derivedSeeds log ⊆ domain) :
    NamespaceTells D last creator namespaceId
      (authoritiesOf D creator namespaceId log).getLast? := by
  refine steps.invariant (fun log accounts => NamespaceTells D accounts creator namespaceId
    (authoritiesOf D creator namespaceId log).getLast?) fresh ?_ ?_
  · intro done before item after mem tells next
    rw [authoritiesOf, getLast?_filterMap_concat]
    cases written : item.authorityWritten D creator namespaceId with
    | some authority => exact tells.of_written next written
    | none =>
        exact tells.of_unwritten free here (fun bytes made => derived ⟨item, mem, made⟩) next written
  · rintro _ _ _ tells rfl
    exact tells.of_purge

end Run

end Synxed.Program
