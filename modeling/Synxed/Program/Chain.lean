import Synxed.Lib.Trace
import Synxed.Program.Effects

/-!
Transactions against the settlement program.

A transaction is a list of items: invocations of the settlement program, with
any account list and any signers, and moves of lamports that anything else may
make between them. It is committed as a whole or not at all. Between
transactions the runtime drops every account without lamports, so a
`ChainState` has none.

`run_trace` and `execItems_trace` turn the executable `run` into a `Trace` of
committed items, on which the safety theorems are proved.
-/

namespace Synxed.Program

open Synxed.Lib

/-! ### Items -/

inductive Item where
  /-- An invocation of the settlement program. -/
  | instruction (accounts : List AccountInfo) (data : Bytes)
  /-- Anything outside the program, as far as it moves lamports. -/
  | move (source destination : Pubkey) (lamports : Nat)
  deriving DecidableEq

namespace Item

/-- Run one item. Only the program itself may take lamports from its accounts. -/
def exec (D : Deployment) : Item → Accounts → Except Fault Accounts
  | .instruction accounts data, state => do
      let m ← processInstruction D accounts data state
      .ok m.accounts
  | .move source destination lamports, state => do
      ensure ((state source).owner ≠ D.programId ∧ lamports ≤ (state source).lamports) .invoke
      .ok (moveLamports state source destination lamports)

/-- `key` signed this invocation of the program. -/
def SignedBy (key : Pubkey) : Item → Prop
  | .instruction accounts _ => Signed accounts key
  | .move _ _ _ => False

instance (key : Pubkey) : (item : Item) → Decidable (item.SignedBy key)
  | .instruction accounts _ => inferInstanceAs (Decidable (Signed accounts key))
  | .move _ _ _ => inferInstanceAs (Decidable False)

/-- The namespace, event and gross amount a settlement instruction names. -/
def settlement : Item → Option (Pubkey × Bytes32 × UInt64)
  | .instruction accounts data =>
      match SettlementInstruction.unpack data, keyAt accounts 2 with
      | .ok v, some ns => v.settlement.map fun settled => (ns, settled.1, settled.2)
      | _, _ => none
  | .move _ _ _ => none

/-- The settlements of one event in one namespace, by gross amount. -/
def settles (ns : Pubkey) (eventId : Bytes32) (item : Item) : Option UInt64 :=
  match item.settlement with
  | some (ns', eventId', amount) => if ns' = ns ∧ eventId' = eventId then some amount else none
  | none => none

theorem settles_eq_some {ns : Pubkey} {eventId : Bytes32} {item : Item} {amount : UInt64} :
    item.settles ns eventId = some amount ↔ item.settlement = some (ns, eventId, amount) := by
  unfold settles
  cases item.settlement with
  | none => simp
  | some settled =>
      obtain ⟨ns', eventId', amount'⟩ := settled
      by_cases same : ns' = ns ∧ eventId' = eventId
      · simp [same]
      · simp only [same, if_false, Option.some.injEq, Prod.mk.injEq, reduceCtorEq, false_iff]
        rintro ⟨rfl, rfl, _⟩
        exact same ⟨rfl, rfl⟩

/-- The namespace an instruction settles in or rotates, and the account it names
as that namespace's authority. -/
def actsOn : Item → Option (Pubkey × Pubkey)
  | .instruction accounts data =>
      match SettlementInstruction.unpack data with
      | .ok (.setNamespaceAuthority _) =>
          (keyAt accounts 1).bind fun ns => (keyAt accounts 0).map fun authority => (ns, authority)
      | .ok (.settleN _ _ _) | .ok (.settleTokenN _ _ _ _) =>
          (keyAt accounts 2).bind fun ns => (keyAt accounts 1).map fun authority => (ns, authority)
      | _ => none
  | .move _ _ _ => none

/-- The concatenated seeds of the address an instruction creates. -/
def seeds : Item → Option Bytes
  | .instruction accounts data =>
      match SettlementInstruction.unpack data with
      | .ok (.createNamespace namespaceId _) =>
          (keyAt accounts 1).map fun creator => (namespaceSeeds creator namespaceId).flatten
      | .ok (.settleN eventId _ _) | .ok (.settleTokenN eventId _ _ _) =>
          (keyAt accounts 2).map fun ns => (settlementSeeds ns eventId).flatten
      | _ => none
  | .move _ _ _ => none

end Item

/-! ### Chain states and transactions -/

/-- The accounts between two transactions: an account without lamports does
not exist. -/
structure ChainState where
  accounts : Accounts
  purged : ∀ k, (accounts k).lamports = 0 → accounts k = Account.empty

/-- Drop every account without lamports. -/
def purge (accounts : Accounts) : Accounts := fun k =>
  if (accounts k).lamports = 0 then Account.empty else accounts k

abbrev Transaction := List Item

/-- Run the items of a transaction; the first failure stops it. -/
def execItems (D : Deployment) : List Item → Accounts → Except Fault Accounts
  | [], state => .ok state
  | item :: rest, state => do
      let next ← item.exec D state
      execItems D rest next

namespace ChainState

def commit (accounts : Accounts) : ChainState where
  accounts := purge accounts
  purged k := by
    by_cases zero : (accounts k).lamports = 0
    · simp [purge, zero]
    · simp [purge, zero]

/-- Run one transaction: a failed one leaves no trace. -/
def step (D : Deployment) (state : ChainState) (transaction : Transaction) : ChainState :=
  match execItems D transaction state.accounts with
  | .ok accounts => commit accounts
  | .error _ => state

/-- The items of `transaction` that were committed. -/
def committed (D : Deployment) (state : ChainState) (transaction : Transaction) : List Item :=
  match execItems D transaction state.accounts with
  | .ok _ => transaction
  | .error _ => []

/-- Run transactions one after the other. -/
def run (D : Deployment) : ChainState → List Transaction → ChainState
  | state, [] => state
  | state, transaction :: rest => run D (state.step D transaction) rest

/-- Every item a run commits, in order. -/
def executed (D : Deployment) : ChainState → List Transaction → List Item
  | _, [] => []
  | state, transaction :: rest =>
      state.committed D transaction ++ executed D (state.step D transaction) rest

end ChainState

/-! ### Runs as traces -/

/-- The committed item `item` led from one state to the next. -/
def ItemStep (D : Deployment) (before : Accounts) (item : Item) (after : Accounts) : Prop :=
  item.exec D before = .ok after

/-- The end of a transaction. -/
def PurgeStep (before after : Accounts) : Prop := after = purge before

variable {D : Deployment}

theorem execItems_trace {items : List Item} {before after : Accounts}
    (h : execItems D items before = .ok after) :
    Trace (ItemStep D) PurgeStep before items after := by
  induction items generalizing before with
  | nil =>
      cases h
      exact .nil
  | cons item rest ih =>
      obtain ⟨next, first, h⟩ := bind_eq_ok.mp h
      exact (Trace.nil.snoc first).trans (ih h)

theorem ChainState.step_trace (state : ChainState) (transaction : Transaction) :
    Trace (ItemStep D) PurgeStep state.accounts (state.committed D transaction)
      (state.step D transaction).accounts := by
  unfold ChainState.committed ChainState.step
  cases ran : execItems D transaction state.accounts with
  | ok accounts => exact (execItems_trace ran).silent rfl
  | error _ => exact .nil

theorem ChainState.run_trace (state : ChainState) (transactions : List Transaction) :
    Trace (ItemStep D) PurgeStep state.accounts (state.executed D transactions)
      (state.run D transactions).accounts := by
  induction transactions generalizing state with
  | nil => exact .nil
  | cons transaction rest ih => exact (state.step_trace transaction).trans (ih _)

/-! ### What an item does -/

/-- A committed item either has its instruction's effect or moved lamports that
were not the program's. -/
theorem itemStep_cases {before after : Accounts} {item : Item} (h : ItemStep D before item after) :
    (∃ accounts data v, item = .instruction accounts data ∧
      SettlementInstruction.unpack data = .ok v ∧ Effect D accounts before after v) ∨
    (∃ source destination lamports, item = .move source destination lamports ∧
      Quiet D before after) := by
  cases item with
  | instruction accounts data =>
      obtain ⟨m, processed, same⟩ := bind_eq_ok.mp h
      cases same
      obtain ⟨v, decoded, effect⟩ := processInstruction_effect processed
      exact .inl ⟨accounts, data, v, rfl, decoded, effect⟩
  | move source destination lamports =>
      obtain ⟨⟨outside, _⟩, same⟩ := ensure_bind_eq_ok.mp h
      cases same
      exact .inr ⟨source, destination, lamports, rfl, Quiet.moveLamports lamports outside⟩

/-- `key` is an account of the program that holds `data` and at least `floor`
lamports. -/
def Owned (D : Deployment) (accounts : Accounts) (key : Pubkey) (data : Bytes) (floor : Nat) :
    Prop :=
  (accounts key).owner = D.programId ∧ (accounts key).data = data ∧ floor ≤ (accounts key).lamports

section Owned

variable {before after : Accounts} {key : Pubkey} {data : Bytes} {floor : Nat}

theorem Owned.of_quiet (owned : Owned D before key data floor) (quiet : Quiet D before after) :
    Owned D after key data floor :=
  ⟨(quiet.owner key).trans owned.1, (quiet.data key owned.1).trans owned.2.1,
    owned.2.2.trans (quiet.lamports key owned.1)⟩

theorem Owned.of_creates {target : Pubkey} {data' : Bytes} (owned : Owned D before key data floor)
    (creates : Creates D before after target data') : Owned D after key data floor := by
  have other : key ≠ target := fun same => creates.not_owned (same ▸ owned.1)
  exact ⟨(creates.owner key other).trans owned.1, (creates.data key owned.1).trans owned.2.1,
    owned.2.2.trans (creates.lamports key owned.1)⟩

/-- An account with lamports outlives the transaction. -/
theorem Owned.of_purge (owned : Owned D before key data floor) (positive : 0 < floor) :
    Owned D (purge before) key data floor := by
  have same : purge before key = before key := if_neg (positive.trans_le owned.2.2).ne'
  unfold Owned
  rw [same]
  exact owned

/-- Only a rotation of the account itself can change an account of the
program. -/
theorem Owned.of_itemStep {item : Item} (owned : Owned D before key data floor)
    (next : ItemStep D before item after) :
    Owned D after key data floor ∨
      ∃ accounts bytes authority newAuthority, item = .instruction accounts bytes ∧
        SettlementInstruction.unpack bytes = .ok (.setNamespaceAuthority newAuthority) ∧
        HasAuthority D before key authority ∧ Signed accounts authority ∧
        Signed accounts newAuthority ∧
        after = Function.update before key
          { before key with data := rotatedData (before key).data newAuthority } := by
  rcases itemStep_cases next with ⟨accounts, bytes, v, rfl, decoded, effect⟩ | ⟨_, _, _, _, quiet⟩
  · cases effect with
    | opens creator namespaceId authority creatorAt signed creates =>
        exact .inl (owned.of_creates creates)
    | rotates ns authority newAuthority authorityAt nsAt current signed signedNew changed =>
        by_cases same : key = ns
        · subst same
          exact .inr ⟨accounts, bytes, authority, newAuthority, rfl, decoded, current, signed,
            signedNew, changed⟩
        · refine .inl ?_
          unfold Owned
          rw [changed, Function.update_of_ne same]
          exact owned
    | settles v ns authority eventId amount settlement authorityAt nsAt current signed creates =>
        exact .inl (owned.of_creates creates)
  · exact .inl (owned.of_quiet quiet)

end Owned

/-! ### A sample chain

A deployment whose address derivation can be evaluated, and a state with one
funded payer and one open namespace. -/

def sampleAddress (bytes : Bytes) : Pubkey :=
  ⟨leBytes 32 (leValue bytes % (2 ^ 255 - 19)), length_leBytes _ _⟩

/-- Sample addresses tell apart what differs in the last 32 bytes only, unless the
difference is one of a multiple of the modulus. -/
theorem sampleAddress_ne {front last last' : Bytes}
    (differ : 256 ^ front.length * leValue last % (2 ^ 255 - 19) ≠
      256 ^ front.length * leValue last' % (2 ^ 255 - 19)) :
    sampleAddress (front ++ last) ≠ sampleAddress (front ++ last') := by
  intro same
  have values := leBytes_injective (lt_trans (Nat.mod_lt _ (by norm_num)) (by norm_num))
    (lt_trans (Nat.mod_lt _ (by norm_num)) (by norm_num)) (congrArg Subtype.val same)
  rw [leValue_append, leValue_append] at values
  exact differ (Nat.ModEq.add_left_cancel' _ values)

def sampleDeployment : Deployment where
  addresses :=
    { find := fun _ seeds => (sampleAddress seeds.flatten, 255)
      create := fun _ seeds => some (sampleAddress seeds.dropLast.flatten)
      create_find := by
        intro _ seeds
        rw [List.dropLast_concat] }
  programId := Bytes32.fill 7
  minimumBalance size := 6960 * (128 + size)
  minimumBalance_pos size := by omega
  notSystem := by decide
  notToken := by decide

def samplePayer : Pubkey := Bytes32.fill 1
def sampleAuthority : Pubkey := Bytes32.fill 2
def sampleRecipient : Pubkey := Bytes32.fill 3
def sampleNamespace : Pubkey := Bytes32.fill 9

def sampleState : ChainState := ChainState.commit fun k =>
  if k = samplePayer then ⟨10 ^ 9, systemProgramId, []⟩
  else if k = sampleNamespace then
    ⟨10 ^ 7, sampleDeployment.programId,
      namespaceData 255 sampleAuthority (Bytes32.fill 5) sampleAuthority⟩
  else Account.empty

/-- Settle `eventId` in the sample namespace, signed by `authority`, with
everything paid to one recipient. -/
def sampleSettlement (authority : Pubkey) (eventId : Bytes32) (amount : UInt64) : Item :=
  .instruction
    [⟨samplePayer, true, true⟩, ⟨authority, true, false⟩, ⟨sampleNamespace, false, false⟩,
      ⟨sampleRecipient, false, true⟩,
      ⟨(settlementPda sampleDeployment.addresses sampleDeployment.programId sampleNamespace
        eventId).1, false, true⟩,
      ⟨systemProgramId, false, false⟩]
    (SettlementInstruction.settleN eventId amount [10000]).pack

/-- Hand the sample namespace over. -/
def sampleRotation (authority newAuthority : Pubkey) : Item :=
  .instruction
    [⟨authority, true, false⟩, ⟨sampleNamespace, false, true⟩, ⟨newAuthority, true, false⟩]
    (SettlementInstruction.setNamespaceAuthority newAuthority).pack

def sampleNamespacePda : Pubkey :=
  (namespacePda sampleDeployment.addresses sampleDeployment.programId samplePayer
    (Bytes32.fill 5)).1

/-- The payer opens a namespace for the sample authority. -/
def sampleOpening : Item :=
  .instruction
    [⟨samplePayer, true, true⟩, ⟨samplePayer, true, true⟩, ⟨sampleNamespacePda, false, true⟩,
      ⟨systemProgramId, false, false⟩]
    (SettlementInstruction.createNamespace (Bytes32.fill 5) sampleAuthority).pack

end Synxed.Program
