import Synxed.Program.Instruction

/-!
The Solana runtime the program runs on: accounts, the account list of an
instruction, derived addresses, rent, and the System program's three
instructions the program invokes.

A successful instruction also leaves the list of its inner instructions
(`Machine.inner`), in the order it invoked them: this is what an RPC node
reports for the transaction.
-/

namespace Synxed.Program

open Synxed.Lib

def systemProgramId : Pubkey := defaultPubkey

/-- The classic SPL Token program's id
(`TokenkegQfeZyiNwAJbNbGKPFXCWuBvf9Ss623VQ5DA`). -/
def tokenProgramId : Pubkey :=
  ⟨[6, 221, 246, 225, 215, 101, 161, 147, 217, 203, 225, 70, 206, 235, 121, 172, 28, 180, 133, 237,
    95, 91, 55, 145, 58, 140, 245, 133, 126, 255, 0, 169], rfl⟩

/-! ### Accounts -/

structure Account where
  lamports : Nat
  owner : Pubkey
  data : Bytes
  deriving DecidableEq

/-- Every address has an account; one nobody created holds nothing and
belongs to the System program. -/
abbrev Accounts := Pubkey → Account

def Account.empty : Account := ⟨0, systemProgramId, []⟩

/-- One entry of an instruction's account list. Its owner, lamports and data
are read from the accounts, so entries with the same key share them. -/
structure AccountInfo where
  key : Pubkey
  isSigner : Bool
  isWritable : Bool
  deriving DecidableEq

/-- A cross-program invocation the program makes. -/
inductive Cpi where
  | transfer (source destination : Pubkey) (lamports : Nat)
  | allocate (account : Pubkey) (space : Nat)
  | assign (account owner : Pubkey)
  | transferChecked (source mint destination authority : Pubkey) (amount : UInt64)
      (decimals : UInt8)
  deriving DecidableEq

/-- The state an instruction runs on. -/
structure Machine where
  accounts : Accounts
  inner : List Cpi

namespace Machine

/-- Replace one account and record the invocation that did it. -/
def put (m : Machine) (key : Pubkey) (account : Account) (cpi : Cpi) : Machine :=
  ⟨Function.update m.accounts key account, m.inner ++ [cpi]⟩

/-- Replace the data of one account, as the owning program may. -/
def write (m : Machine) (key : Pubkey) (data : Bytes) : Machine :=
  { m with accounts := Function.update m.accounts key { m.accounts key with data := data } }

@[simp] theorem write_same (m : Machine) (key : Pubkey) (data : Bytes) :
    (m.write key data).accounts key = { m.accounts key with data := data } := by
  simp [write]

theorem write_other (m : Machine) {key other : Pubkey} (data : Bytes) (h : other ≠ key) :
    (m.write key data).accounts other = m.accounts other := by
  simp [write, h]

@[simp] theorem put_same (m : Machine) (key : Pubkey) (account : Account) (cpi : Cpi) :
    (m.put key account cpi).accounts key = account := by
  simp [put]

end Machine

/-! ### Moving lamports -/

/-- Take lamports from one account and give them to another, one after the
other: moving lamports from an account to itself changes nothing. -/
def moveLamports (accounts : Accounts) (source destination : Pubkey) (lamports : Nat) : Accounts :=
  let debited := Function.update accounts source
    { accounts source with lamports := (accounts source).lamports - lamports }
  Function.update debited destination
    { debited destination with lamports := (debited destination).lamports + lamports }

section MoveLamports

variable (accounts : Accounts) (source destination : Pubkey) (lamports : Nat) (k : Pubkey)

@[simp] theorem moveLamports_owner :
    (moveLamports accounts source destination lamports k).owner = (accounts k).owner := by
  by_cases toDestination : k = destination <;> by_cases fromSource : k = source <;>
    simp_all [moveLamports, Function.update_apply]

@[simp] theorem moveLamports_data :
    (moveLamports accounts source destination lamports k).data = (accounts k).data := by
  by_cases toDestination : k = destination <;> by_cases fromSource : k = source <;>
    simp_all [moveLamports, Function.update_apply]

theorem moveLamports_lamports :
    (moveLamports accounts source destination lamports k).lamports =
      (if k = source then (accounts k).lamports - lamports else (accounts k).lamports) +
        (if k = destination then lamports else 0) := by
  by_cases toDestination : k = destination <;> by_cases fromSource : k = source <;>
    simp_all [moveLamports, Function.update_apply]

/-- Only the source can lose lamports. -/
theorem le_moveLamports (h : k ≠ source) :
    (accounts k).lamports ≤ (moveLamports accounts source destination lamports k).lamports := by
  rw [moveLamports_lamports, if_neg h]
  omega

end MoveLamports

/-! ### Derived addresses and the deployment -/

/-- `find_program_address` and `create_program_address`, by program id. The
bump `find` returns makes `create` derive the same address. -/
structure ProgramAddresses where
  find : Pubkey → List Bytes → Pubkey × UInt8
  create : Pubkey → List Bytes → Option Pubkey
  create_find : ∀ programId seeds,
    create programId (seeds ++ [[(find programId seeds).2]]) = some (find programId seeds).1

/-- The settlement program as deployed on a cluster. -/
structure Deployment where
  addresses : ProgramAddresses
  programId : Pubkey
  /-- `Rent::minimum_balance`, in lamports by data size. -/
  minimumBalance : Nat → Nat
  minimumBalance_pos : ∀ size, 0 < minimumBalance size
  notSystem : programId ≠ systemProgramId
  notToken : programId ≠ tokenProgramId

/-! ### System program -/

/-- `system_instruction::transfer`. The source signs, and must be a System
account without data that holds the lamports. -/
def systemTransfer (source destination : AccountInfo) (lamports : Nat) (m : Machine) :
    Except Fault Machine := do
  ensure (source.isSigner ∧ source.isWritable ∧ destination.isWritable) .invoke
  ensure ((m.accounts source.key).owner = systemProgramId ∧ (m.accounts source.key).data = [] ∧
    lamports ≤ (m.accounts source.key).lamports) .invoke
  let moved := moveLamports m.accounts source.key destination.key lamports
  ensure ((moved destination.key).lamports ≤ u64Max) .invoke
  .ok ⟨moved, m.inner ++ [.transfer source.key destination.key lamports]⟩

/-- `system_instruction::allocate`, signed for by `seeds`: an empty System
account gets `space` zero bytes. -/
def systemAllocate (D : Deployment) (account : AccountInfo) (space : Nat) (seeds : List Bytes)
    (m : Machine) : Except Fault Machine := do
  ensure (account.isWritable ∧
    (account.isSigner ∨ D.addresses.create D.programId seeds = some account.key)) .invoke
  ensure ((m.accounts account.key).owner = systemProgramId ∧
    (m.accounts account.key).data = []) .invoke
  .ok (m.put account.key
    { m.accounts account.key with data := List.replicate space 0 } (.allocate account.key space))

/-- `system_instruction::assign`, signed for by `seeds`: a System account gets
a new owner. -/
def systemAssign (D : Deployment) (account : AccountInfo) (owner : Pubkey) (seeds : List Bytes)
    (m : Machine) : Except Fault Machine := do
  ensure (account.isWritable ∧
    (account.isSigner ∨ D.addresses.create D.programId seeds = some account.key)) .invoke
  ensure ((m.accounts account.key).owner = systemProgramId) .invoke
  .ok (m.put account.key { m.accounts account.key with owner := owner } (.assign account.key owner))

theorem systemTransfer_eq_ok {source destination : AccountInfo} {lamports : Nat}
    {m m' : Machine} :
    systemTransfer source destination lamports m = .ok m' ↔
      (source.isSigner ∧ source.isWritable ∧ destination.isWritable) ∧
      ((m.accounts source.key).owner = systemProgramId ∧ (m.accounts source.key).data = [] ∧
        lamports ≤ (m.accounts source.key).lamports) ∧
      (moveLamports m.accounts source.key destination.key lamports destination.key).lamports ≤
        u64Max ∧
      m' = ⟨moveLamports m.accounts source.key destination.key lamports,
        m.inner ++ [.transfer source.key destination.key lamports]⟩ := by
  simp only [systemTransfer, ensure_bind_eq_ok, Except.ok.injEq, eq_comm (a := m')]

theorem systemAllocate_eq_ok {D : Deployment} {account : AccountInfo} {space : Nat}
    {seeds : List Bytes} {m m' : Machine} :
    systemAllocate D account space seeds m = .ok m' ↔
      (account.isWritable ∧
        (account.isSigner ∨ D.addresses.create D.programId seeds = some account.key)) ∧
      ((m.accounts account.key).owner = systemProgramId ∧ (m.accounts account.key).data = []) ∧
      m' = m.put account.key { m.accounts account.key with data := List.replicate space 0 }
        (.allocate account.key space) := by
  simp only [systemAllocate, ensure_bind_eq_ok, Except.ok.injEq, eq_comm (a := m')]

theorem systemAssign_eq_ok {D : Deployment} {account : AccountInfo} {owner : Pubkey}
    {seeds : List Bytes} {m m' : Machine} :
    systemAssign D account owner seeds m = .ok m' ↔
      (account.isWritable ∧
        (account.isSigner ∨ D.addresses.create D.programId seeds = some account.key)) ∧
      (m.accounts account.key).owner = systemProgramId ∧
      m' = m.put account.key { m.accounts account.key with owner := owner }
        (.assign account.key owner) := by
  simp only [systemAssign, ensure_bind_eq_ok, Except.ok.injEq, eq_comm (a := m')]

end Synxed.Program
