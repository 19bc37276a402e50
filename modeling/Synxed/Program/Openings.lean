import Synxed.Program.Registry

/-!
A namespace is opened at most once.

Only `CreateNamespace` writes a namespace where there is none, and its account is
never given up, so of all the instructions that open one namespace at most one
is ever committed (`openedOnce_of_trace`). No assumption on the derivation of
addresses is needed: whatever else lies at the address keeps a namespace from
being opened there.
-/

namespace Synxed.Program

open Synxed.Lib

variable {D : Deployment} {creator : Pubkey} {namespaceId : Bytes32}

/-- The authority with which an instruction opens the namespace. -/
def Item.opening (creator : Pubkey) (namespaceId : Bytes32) : Item → Option Pubkey
  | .instruction accounts data =>
      match SettlementInstruction.unpack data with
      | .ok (.createNamespace namespaceId' authority) =>
          if keyAt accounts 1 = some creator ∧ namespaceId' = namespaceId then some authority
          else none
      | _ => none
  | .move _ _ _ => none

/-- The authorities with which a namespace was opened. -/
def openingsOf (creator : Pubkey) (namespaceId : Bytes32) (log : List Item) : List Pubkey :=
  log.filterMap (Item.opening creator namespaceId)

/-- The instruction that opens it. -/
theorem Item.opening_eq_some {accounts : List AccountInfo} {data : Bytes} {authority : Pubkey}
    (decoded : SettlementInstruction.unpack data = .ok (.createNamespace namespaceId authority))
    (creatorAt : keyAt accounts 1 = some creator) :
    (Item.instruction accounts data).opening creator namespaceId = some authority := by
  simp only [Item.opening, decoded, creatorAt, and_self, if_true]

section Step

variable {before after : Accounts} {item : Item}

/-- An account of the program stays one, with its lamports. -/
theorem Owned.still {key : Pubkey} {data : Bytes} (owned : Owned D before key data 1)
    (next : ItemStep D before item after) : ∃ data', Owned D after key data' 1 := by
  rcases owned.of_itemStep next with
    still | ⟨_, _, _, newAuthority, _, _, _, _, _, changed⟩
  · exact ⟨data, still⟩
  · refine ⟨rotatedData (before key).data newAuthority, ?_⟩
    rw [changed, Owned, Function.update_self]
    exact ⟨owned.1, rfl, owned.2.2⟩

/-- The instruction that opens a namespace finds no account of the program there,
and leaves one. -/
theorem opening_step {authority : Pubkey} (next : ItemStep D before item after)
    (opens : item.opening creator namespaceId = some authority) :
    (before (namespaceAddress D creator namespaceId)).owner ≠ D.programId ∧
      ∃ data, Owned D after (namespaceAddress D creator namespaceId) data 1 := by
  rcases itemStep_cases next with ⟨accounts, data, v, rfl, decoded, effect⟩ | ⟨_, _, _, rfl, _⟩
  · simp only [Item.opening, decoded] at opens
    cases effect with
    | opens creator' namespaceId' authority' creatorAt signed creates =>
        obtain ⟨⟨sameCreator, rfl⟩, _⟩ := Option.ite_none_right_eq_some.mp opens
        cases creatorAt.symm.trans sameCreator
        exact ⟨creates.not_owned, _, creates.made.1, creates.made.2, creates.funded⟩
    | rotates => cases opens
    | settles v ns authority' eventId amount settlement =>
        cases v <;> cases settlement <;> cases opens
  · cases opens

end Step

/-- Either nobody opened the namespace, or one instruction did and the program
has an account there. -/
def OpenedOnce (D : Deployment) (creator : Pubkey) (namespaceId : Bytes32) (log : List Item)
    (accounts : Accounts) : Prop :=
  openingsOf creator namespaceId log = [] ∨
    ∃ authority data, openingsOf creator namespaceId log = [authority] ∧
      Owned D accounts (namespaceAddress D creator namespaceId) data 1

theorem OpenedOnce.of_itemStep {log : List Item} {before after : Accounts} {item : Item}
    (opened : OpenedOnce D creator namespaceId log before) (next : ItemStep D before item after) :
    OpenedOnce D creator namespaceId (log ++ [item]) after := by
  have extend : openingsOf creator namespaceId (log ++ [item]) =
      openingsOf creator namespaceId log ++ (item.opening creator namespaceId).toList := by
    cases here : item.opening creator namespaceId <;>
      simp [openingsOf, List.filterMap_append, here]
  unfold OpenedOnce
  rw [extend]
  cases here : item.opening creator namespaceId with
  | none =>
      rcases opened with nothing | ⟨authority, data, one, owned⟩
      · exact .inl (by simpa using nothing)
      · obtain ⟨data', still⟩ := owned.still next
        exact .inr ⟨authority, data', by simpa using one, still⟩
  | some authority =>
      obtain ⟨absent, data, made⟩ := opening_step next here
      rcases opened with nothing | ⟨_, _, _, owned⟩
      · exact .inr ⟨authority, data, by simp [nothing], made⟩
      · exact absurd owned.1 absent

/-- **At most one opening**, in every state of every run. -/
theorem openedOnce_of_trace {log : List Item} {start last : Accounts}
    (steps : Trace (ItemStep D) PurgeStep start log last) :
    OpenedOnce D creator namespaceId log last := by
  refine steps.invariant (OpenedOnce D creator namespaceId) (.inl rfl) ?_ ?_
  · intro _ _ _ _ _ opened next
    exact opened.of_itemStep next
  · rintro log before _ (nothing | ⟨authority, data, one, owned⟩) rfl
    · exact .inl nothing
    · exact .inr ⟨authority, data, one, owned.of_purge Nat.one_pos⟩

end Synxed.Program
