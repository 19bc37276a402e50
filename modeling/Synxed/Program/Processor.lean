import Synxed.Program.State
import Synxed.Program.Token

/-!
The settlement instruction processor (`processor.rs`).

Every data borrow of the source ends before the next statement that touches an
account, so a borrow is modelled by the value it reads or writes.
-/

namespace Synxed.Program

open Synxed.Lib

variable (D : Deployment)

/-- Check that `ns` is a namespace of this program and that `authority` is its
current authority and signed. -/
def authorize (authority ns : AccountInfo) (m : Machine) : Except Fault Unit := do
  ensure authority.isSigner (.program .missingRequiredSignature)
  ensure ((m.accounts ns.key).owner = D.programId) (.program .illegalOwner)
  let current ← namespaceAuthority (m.accounts ns.key).data
  ensure (current = authority.key) (.program .incorrectAuthority)

/-- The payer's part of an account's rent: nothing when the account already
holds enough. -/
def topUp (payer account : AccountInfo) (shortfall : Nat) (m : Machine) : Except Fault Machine :=
  if shortfall > 0 then systemTransfer payer account shortfall m else .ok m

/-- Turn the PDA `account` (signed for by `seeds`) into a rent-exempt,
program-owned account of `size` bytes, funded by `payer`. -/
def createProgramAccount (payer account systemProgram : AccountInfo) (seeds : List Bytes)
    (size : Nat) (m : Machine) : Except Fault Machine := do
  ensure payer.isSigner (.program .missingRequiredSignature)
  ensure (payer.isWritable ∧ account.isWritable) (.program .invalidAccountData)
  ensure (systemProgram.key = systemProgramId) (.program .incorrectProgramId)
  ensure (¬ ((m.accounts account.key).owner = D.programId ∨ (m.accounts account.key).data ≠ []))
    (.program .accountAlreadyInitialized)
  ensure ((m.accounts account.key).owner = systemProgramId) (.program .invalidAccountData)
  let shortfall := D.minimumBalance size - (m.accounts account.key).lamports
  let m ← topUp payer account shortfall m
  let m ← systemAllocate D account size seeds m
  systemAssign D account D.programId seeds m

/-- Open the namespace `creator` controls under `namespaceId`. -/
def createNamespace (accounts : List AccountInfo) (namespaceId : Bytes32) (authority : Pubkey)
    (m : Machine) : Except Fault Machine :=
  match accounts with
  | [payer, creator, ns, systemProgram] => do
      ensure creator.isSigner (.program .missingRequiredSignature)
      ensure (authority ≠ defaultPubkey) (.program .invalidArgument)
      let pda := namespacePda D.addresses D.programId creator.key namespaceId
      ensure (ns.key = pda.1) (.program .invalidSeeds)
      let m ← createProgramAccount D payer ns systemProgram
        (namespaceSeeds creator.key namespaceId ++ [[pda.2]]) namespaceSize m
      let data ← writeNamespace (m.accounts ns.key).data pda.2 creator.key namespaceId authority
      .ok (m.write ns.key data)
  | _ => .error (.program .notEnoughAccountKeys)

/-- Replace a namespace's authority. The current and the new authority both
sign. -/
def setNamespaceAuthority (accounts : List AccountInfo) (newAuthority : Pubkey) (m : Machine) :
    Except Fault Machine :=
  match accounts with
  | [authority, ns, newAuthorityAccount] => do
      ensure ns.isWritable (.program .invalidAccountData)
      authorize D authority ns m
      ensure (¬ (newAuthority = defaultPubkey ∨ newAuthorityAccount.key ≠ newAuthority))
        (.program .invalidArgument)
      ensure newAuthorityAccount.isSigner (.program .missingRequiredSignature)
      let data ← copyInto (m.accounts ns.key).data namespaceAuthorityOffset namespaceSize
        newAuthority.val
      .ok (m.write ns.key data)
  | _ => .error (.program .notEnoughAccountKeys)

/-- Create the record that marks `eventId` as settled in `ns`. -/
def createRecord (payer : AccountInfo) (ns : Pubkey) (record systemProgram : AccountInfo)
    (eventId : Bytes32) (amount : UInt64) (m : Machine) : Except Fault Machine := do
  let pda := settlementPda D.addresses D.programId ns eventId
  ensure (record.key = pda.1) (.program .invalidSeeds)
  let m ← createProgramAccount D payer record systemProgram
    (settlementSeeds ns eventId ++ [[pda.2]]) settlementRecordSize m
  let data ← writeRecord (m.accounts record.key).data eventId amount
  .ok (m.write record.key data)

def transfer (source destination : AccountInfo) (lamports : UInt64) (m : Machine) :
    Except Fault Machine :=
  if lamports = 0 then .ok m else systemTransfer source destination lamports.toNat m

/-- The payout loop of `settle`. -/
def payRecipients (payer : AccountInfo) : List (AccountInfo × UInt64) → Machine →
    Except Fault Machine
  | [], m => .ok m
  | (recipient, lamports) :: rest, m => do
      let m ← transfer payer recipient lamports m
      payRecipients payer rest m

/-- Native settlement. -/
def settle (accounts : List AccountInfo) (eventId : Bytes32) (amount : UInt64)
    (payouts : List UInt64) (m : Machine) : Except Fault Machine := do
  let count := payouts.length
  ensure (accounts.length = count + 5) (.program .notEnoughAccountKeys)
  let payer ← indexAt accounts 0
  let authority ← indexAt accounts 1
  let ns ← indexAt accounts 2
  let recipients := (accounts.drop 3).take count
  let record ← indexAt accounts (3 + count)
  let systemProgram ← indexAt accounts (4 + count)
  authorize D authority ns m
  ensure (∀ recipient ∈ recipients, recipient.isWritable) (.program .invalidAccountData)
  -- a payout to a program-owned account could never be recovered
  ensure (∀ recipient ∈ recipients, ¬ (recipient.key = record.key ∨
    (m.accounts recipient.key).owner = D.programId)) (.program .invalidArgument)
  let m ← createRecord D payer ns.key record systemProgram eventId amount m
  payRecipients payer (recipients.zip payouts) m

/-- The checks of `settle_token` on each destination. -/
def checkDestinations (source record mint : AccountInfo) (m : Machine) :
    List AccountInfo → Except Fault Unit
  | [] => .ok ()
  | recipient :: rest => do
      ensure (¬ (recipient.key = source.key ∨ recipient.key = record.key))
        (.program .invalidArgument)
      let recipientState ← TokenAccount.unpack (m.accounts recipient.key).data
      ensure (recipientState.mint = mint.key) (.program .invalidAccountData)
      checkDestinations source record mint m rest

/-- One payout of `settle_token`; a zero share makes no invocation. -/
def payDestination (source mint authority recipient : AccountInfo) (tokens : UInt64)
    (decimals : UInt8) (m : Machine) : Except Fault Machine :=
  if tokens = 0 then .ok m
  else tokenTransferChecked source mint recipient authority tokens decimals m

/-- The payout loop of `settle_token`. -/
def payDestinations (source mint authority : AccountInfo) (decimals : UInt8) :
    List (AccountInfo × UInt64) → Machine → Except Fault Machine
  | [], m => .ok m
  | (recipient, tokens) :: rest, m => do
      let m ← payDestination source mint authority recipient tokens decimals m
      payDestinations source mint authority decimals rest m

/-- Classic SPL Token settlement via `TransferChecked`. -/
def settleToken (accounts : List AccountInfo) (eventId : Bytes32) (amount : UInt64)
    (decimals : UInt8) (payouts : List UInt64) (m : Machine) : Except Fault Machine := do
  let count := payouts.length
  ensure (accounts.length = count + 8) (.program .notEnoughAccountKeys)
  let payer ← indexAt accounts 0
  let authority ← indexAt accounts 1
  let ns ← indexAt accounts 2
  let source ← indexAt accounts 3
  let recipients := (accounts.drop 4).take count
  let mint ← indexAt accounts (4 + count)
  let record ← indexAt accounts (5 + count)
  let systemProgram ← indexAt accounts (6 + count)
  let tokenProgram ← indexAt accounts (7 + count)
  ensure (tokenProgram.key = tokenProgramId) (.program .incorrectProgramId)
  authorize D authority ns m
  ensure (source.isWritable ∧ ∀ recipient ∈ recipients, recipient.isWritable)
    (.program .invalidAccountData)
  ensure ((m.accounts source.key).owner = tokenProgram.key ∧
    (m.accounts mint.key).owner = tokenProgram.key ∧
    ∀ recipient ∈ recipients, (m.accounts recipient.key).owner = tokenProgram.key)
    (.program .illegalOwner)
  let mintState ← TokenMint.unpack (m.accounts mint.key).data
  ensure (mintState.isInitialized ∧ mintState.decimals = decimals) (.program .invalidAccountData)
  let sourceState ← TokenAccount.unpack (m.accounts source.key).data
  ensure (sourceState.mint = mint.key ∧ sourceState.owner = payer.key)
    (.program .invalidAccountData)
  checkDestinations source record mint m recipients
  let m ← createRecord D payer ns.key record systemProgram eventId amount m
  payDestinations source mint payer decimals (recipients.zip payouts) m

/-- The split of a settlement instruction, before any account is looked at. -/
def splitPayouts (amount : UInt64) (bps : List UInt16) : Except Fault (List UInt64) := do
  ensure (¬ (bps.length = 0 ∨ bps.length > maxShares)) (.program .invalidInstructionData)
  match splitShares amount bps bps.length with
  | .ok payouts => .ok payouts
  | .error _ => .error (.program .invalidArgument)

/-- Run one instruction of the program on the accounts. -/
def processInstruction (accounts : List AccountInfo) (data : Bytes) (state : Accounts) :
    Except Fault Machine := do
  match ← SettlementInstruction.unpack data with
  | .createNamespace namespaceId authority =>
      createNamespace D accounts namespaceId authority ⟨state, []⟩
  | .setNamespaceAuthority newAuthority => setNamespaceAuthority D accounts newAuthority ⟨state, []⟩
  | .settleN eventId amount bps => do
      let payouts ← splitPayouts amount bps
      settle D accounts eventId amount payouts ⟨state, []⟩
  | .settleTokenN eventId amount decimals bps => do
      let payouts ← splitPayouts amount bps
      settleToken D accounts eventId amount decimals payouts ⟨state, []⟩

end Synxed.Program
