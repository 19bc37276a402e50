import Synxed.Lib.Checked
import Synxed.Program.Processor

/-!
The settlement program with everything that could panic in it.

The functions are those of `instruction.rs`, `split.rs` and `processor.rs` once
more, now with the borrows they take of an account's data and lamports, the
integer types they count in (`overflow-checks` is on in release builds), and the
search for a program address, which is unwrapped. Entries of the account list
with one key share one cell for their data and one for their lamports.

A borrow that fails panics here, also where the source would turn it into an
error (`try_borrow_data`, and `invoke`, which tries to borrow what it passes on):
that no run panics says that no borrow ever fails.
-/

namespace Synxed.Program

open Synxed.Lib

/-- How code stops on a fault. -/
def Fault.stop : Fault → Stop ProgramError
  | .program error => .error error
  | .invoke => .call
  | .panic => .panic .bounds

namespace Checked

open Synxed.Lib.Checked

/-! ### Decoding and splitting -/

/-- What code without arithmetic comes to. -/
def plain {α : Type} (outcome : Except Fault α) : Except (Stop ProgramError) α :=
  outcome.mapError Fault.stop

/-- The rest of the loop of `read_bps`, from share `i` on. -/
def readBpsFrom (bytes : Bytes) (i : Nat) : Nat → Except (Stop ProgramError) (List UInt16)
  | 0 => .ok []
  | remaining + 1 => do
      let start ← checkedMul 64 2 i
      let two ← plain (sliceAt bytes start (← checkedAdd 64 start 2))
      ensure (two.length = 2) (.error .invalidInstructionData)
      let rest ← readBpsFrom bytes (i + 1) remaining
      .ok (UInt16.ofNat (leValue two) :: rest)

def readBps (bytes : Bytes) (count : Nat) : Except (Stop ProgramError) (List UInt16) :=
  readBpsFrom bytes 0 count

/-- `header + 2 * count`. -/
def payloadLen (header count : Nat) : Except (Stop ProgramError) Nat := do
  checkedAdd 64 header (← checkedMul 64 2 count)

/-- The check of a share count against the length of its payload. `||` does not
compute the length for a count out of range. -/
def checkCount (header count length : Nat) : Except (Stop ProgramError) Unit := do
  ensure (¬ (count = 0 ∨ count > maxShares)) (.error .invalidInstructionData)
  ensure (length = (← payloadLen header count)) (.error .invalidInstructionData)

def unpack : Bytes → Except (Stop ProgramError) SettlementInstruction
  | [] => .error (.error .invalidInstructionData)
  | tag :: rest =>
      if tag ∈ retiredTags then .error (.error .invalidInstructionData)
      else if tag = createNamespaceTag then do
        ensure (rest.length = createNamespaceLen) (.error .invalidInstructionData)
        let namespaceId ← plain (read32 (← plain (sliceAt rest 0 32)))
        let authority ← plain (read32 (← plain (sliceAt rest 32 64)))
        .ok (.createNamespace namespaceId authority)
      else if tag = setNamespaceAuthorityTag then do
        ensure (rest.length = setNamespaceAuthorityLen) (.error .invalidInstructionData)
        let newAuthority ← plain (read32 rest)
        .ok (.setNamespaceAuthority newAuthority)
      else if tag = settleNTag then do
        ensure (¬ rest.length < settleNHeaderLen) (.error .invalidInstructionData)
        let countByte ← elementAt rest 40
        checkCount settleNHeaderLen countByte.toNat rest.length
        let eventId ← plain (read32 (← plain (sliceAt rest 0 32)))
        let amount ← plain (readU64 (← plain (sliceAt rest 32 40)))
        let bps ← readBps (← plain (sliceAt rest settleNHeaderLen rest.length)) countByte.toNat
        .ok (.settleN eventId amount bps)
      else if tag = settleTokenNTag then do
        ensure (¬ rest.length < settleTokenNHeaderLen) (.error .invalidInstructionData)
        let countByte ← elementAt rest 41
        checkCount settleTokenNHeaderLen countByte.toNat rest.length
        let eventId ← plain (read32 (← plain (sliceAt rest 0 32)))
        let amount ← plain (readU64 (← plain (sliceAt rest 32 40)))
        let decimals ← elementAt rest 40
        let bps ← readBps (← plain (sliceAt rest settleTokenNHeaderLen rest.length)) countByte.toNat
        .ok (.settleTokenN eventId amount decimals bps)
      else .error (.error .invalidInstructionData)

/-- The validation loop of `split_shares`, with its `u32` sum. -/
def sumBps : Nat → List UInt16 → Except (Stop SplitError) Nat
  | sum, [] => .ok sum
  | sum, share :: rest => do
      ensure (share.toNat ≤ bpsDenominator) (.error .bpsOutOfRange)
      let sum ← checkedAdd 32 sum share.toNat
      sumBps sum rest

/-- The payout loop of `split_shares`, from share `i` on, with the amount
allocated so far and the output slice. -/
def splitFrom (amount : UInt64) (bps : List UInt16) :
    Nat → Nat → UInt64 → List UInt64 → Except (Stop SplitError) (List UInt64)
  | 0, _, _, out => .ok out
  | remaining + 1, i, allocated, out => do
      let next ← checkedAdd 64 i 1
      if next = bps.length then
        match checkedSub64 amount allocated with
        | none => .error (.error .zeroAmount)
        | some last => do
            let out ← assignAt out i last
            splitFrom amount bps remaining next allocated out
      else do
        let share ← elementAt bps i
        let part := saturatingMul128 amount.toNat share.toNat / bpsDenominator
        let out ← assignAt out i (UInt64.ofNat part)
        let paid ← elementAt out i
        splitFrom amount bps remaining next (saturatingAdd64 allocated paid) out

def splitShares (amount : UInt64) (bps : List UInt16) (out : List UInt64) :
    Except (Stop SplitError) (List UInt64) := do
  ensure (bps.length ≠ 0 ∧ bps.length ≤ maxShares ∧ out.length = bps.length) (.error .shareCount)
  ensure (amount ≠ 0) (.error .zeroAmount)
  let sum ← sumBps 0 bps
  ensure (sum = bpsDenominator) (.error .bpsSumNotDenominator)
  splitFrom amount bps bps.length 0 0 out

/-- `map_err(|_| ProgramError::InvalidArgument)`. -/
def invalidArgument : Stop SplitError → Stop ProgramError
  | .error _ => .error .invalidArgument
  | .call => .call
  | .panic kind => .panic kind

/-- The split of a settlement instruction, into the first `count` of eight
payouts. -/
def splitPayouts (amount : UInt64) (bps : List UInt16) :
    Except (Stop ProgramError) (List UInt64) := do
  let count := bps.length
  ensure (¬ (count = 0 ∨ count > maxShares)) (.error .invalidInstructionData)
  let payouts := List.replicate maxShares (0 : UInt64)
  let out ← (splitShares amount bps (← sliceOf payouts 0 count)).mapError invalidArgument
  sliceOf (out ++ payouts.drop count) 0 count

/-! ### Accounts -/

/-- The data and the lamports of an account. -/
inductive Cell where
  | data (key : Pubkey)
  | lamports (key : Pubkey)
  deriving DecidableEq

/-- Code of the program. -/
abbrev Code : Type → Type := Checked Cell Machine ProgramError

/-- `if !condition { return Err(error) }`. -/
def check (condition : Prop) [Decidable condition] (error : ProgramError) : Code Unit :=
  ofOutcome (ensure condition (.error error))

def ownerOf (account : AccountInfo) : Code Pubkey := view fun m => (m.accounts account.key).owner

/-- The data behind a borrow. -/
def dataOf (account : AccountInfo) : Code Bytes := view fun m => (m.accounts account.key).data

/-- `read(&account.try_borrow_data()?)?`, with a borrow to the end of the
statement. -/
def readData {α : Type} (account : AccountInfo) (read : Bytes → Except Fault α) : Code α :=
  reading (.data account.key) do
    let data ← dataOf account
    ofOutcome (plain (read data))

/-- `let mut data = account.try_borrow_mut_data()?`, with writes to the end of the
function. -/
def writeData (account : AccountInfo) (write : Bytes → Except Fault Bytes) : Code Unit :=
  writing (.data account.key) do
    let data ← dataOf account
    let data ← ofOutcome (plain (write data))
    act fun m => .ok (m.write account.key data)

/-- `account.data_is_empty()`. -/
def dataIsEmpty (account : AccountInfo) : Code Bool :=
  reading (.data account.key) do
    let data ← dataOf account
    pure data.isEmpty

/-- `account.lamports()`. -/
def lamportsOf (account : AccountInfo) : Code Nat :=
  reading (.lamports account.key) (view fun m => (m.accounts account.key).lamports)

/-- An account of an invocation, and whether it is passed on as writable. -/
structure Meta where
  key : Pubkey
  writable : Bool

/-- `invoke` tries to borrow what it passes on, exclusively where it is
writable. -/
def tryBorrow (passed : Meta) : Code Unit :=
  if passed.writable then do
    writing (.lamports passed.key) (pure ())
    writing (.data passed.key) (pure ())
  else do
    reading (.lamports passed.key) (pure ())
    reading (.data passed.key) (pure ())

def tryBorrowAll : List Meta → Code Unit
  | [] => pure ()
  | passed :: rest => do
      tryBorrow passed
      tryBorrowAll rest

/-- `invoke` and `invoke_signed`. -/
def invoke (passed : List Meta) (call : Machine → Except Fault Machine) : Code Unit := do
  tryBorrowAll passed
  act fun m => plain (call m)

variable (D : Deployment)

/-- `Pubkey::find_program_address`: with its bump, at most sixteen seeds of at
most 32 bytes. -/
def findProgramAddress (seeds : List Bytes) : Except (Stop ProgramError) (Pubkey × UInt8) :=
  if seeds.length < 16 ∧ ∀ seed ∈ seeds, seed.length ≤ 32 then
    .ok (D.addresses.find D.programId seeds)
  else .error (.panic .unwrap)

/-! ### Instructions -/

def authorize (authority ns : AccountInfo) : Code Unit := do
  check authority.isSigner .missingRequiredSignature
  let owner ← ownerOf ns
  check (owner = D.programId) .illegalOwner
  let current ← readData ns namespaceAuthority
  check (current = authority.key) .incorrectAuthority

/-- Whether the program made the account before. `||` does not look at the data
of an account that the program owns. -/
def isInitialized (account : AccountInfo) : Code Bool := do
  let owner ← ownerOf account
  if owner = D.programId then pure true
  else do
    let empty ← dataIsEmpty account
    pure (!empty)

def topUp (payer account : AccountInfo) (shortfall : Nat) : Code Unit :=
  if shortfall > 0 then
    invoke [⟨payer.key, true⟩, ⟨account.key, true⟩] (systemTransfer payer account shortfall)
  else pure ()

def createProgramAccount (payer account systemProgram : AccountInfo) (seeds : List Bytes)
    (size : Nat) : Code Unit := do
  check payer.isSigner .missingRequiredSignature
  check (payer.isWritable ∧ account.isWritable) .invalidAccountData
  check (systemProgram.key = systemProgramId) .incorrectProgramId
  let initialized ← isInitialized D account
  check (¬ initialized) .accountAlreadyInitialized
  let owner ← ownerOf account
  check (owner = systemProgramId) .invalidAccountData
  let lamports ← lamportsOf account
  -- `saturating_sub`
  topUp payer account (D.minimumBalance size - lamports)
  invoke [⟨account.key, true⟩] (systemAllocate D account size seeds)
  invoke [⟨account.key, true⟩] (systemAssign D account D.programId seeds)

def createNamespace (accounts : List AccountInfo) (namespaceId : Bytes32) (authority : Pubkey) :
    Code Unit :=
  match accounts with
  | [payer, creator, ns, systemProgram] => do
      check creator.isSigner .missingRequiredSignature
      check (authority ≠ defaultPubkey) .invalidArgument
      let pda ← ofOutcome (findProgramAddress D (namespaceSeeds creator.key namespaceId))
      check (ns.key = pda.1) .invalidSeeds
      createProgramAccount D payer ns systemProgram
        (namespaceSeeds creator.key namespaceId ++ [[pda.2]]) namespaceSize
      writeData ns fun data => writeNamespace data pda.2 creator.key namespaceId authority
  | _ => ofOutcome (.error (.error .notEnoughAccountKeys))

def setNamespaceAuthority (accounts : List AccountInfo) (newAuthority : Pubkey) : Code Unit :=
  match accounts with
  | [authority, ns, newAuthorityAccount] => do
      check ns.isWritable .invalidAccountData
      authorize D authority ns
      check (¬ (newAuthority = defaultPubkey ∨ newAuthorityAccount.key ≠ newAuthority))
        .invalidArgument
      check newAuthorityAccount.isSigner .missingRequiredSignature
      writeData ns fun data =>
        copyInto data namespaceAuthorityOffset namespaceSize newAuthority.val
  | _ => ofOutcome (.error (.error .notEnoughAccountKeys))

def createRecord (payer : AccountInfo) (ns : Pubkey) (record systemProgram : AccountInfo)
    (eventId : Bytes32) (amount : UInt64) : Code Unit := do
  let pda ← ofOutcome (findProgramAddress D (settlementSeeds ns eventId))
  check (record.key = pda.1) .invalidSeeds
  createProgramAccount D payer record systemProgram (settlementSeeds ns eventId ++ [[pda.2]])
    settlementRecordSize
  writeData record fun data => writeRecord data eventId amount

def transfer (source destination : AccountInfo) (lamports : UInt64) : Code Unit :=
  if lamports = 0 then pure ()
  else invoke [⟨source.key, true⟩, ⟨destination.key, true⟩]
    (systemTransfer source destination lamports.toNat)

/-- The payout loop of `settle`. -/
def payRecipients (payer : AccountInfo) : List (AccountInfo × UInt64) → Code Unit
  | [] => pure ()
  | (recipient, lamports) :: rest => do
      transfer payer recipient lamports
      payRecipients payer rest

def settle (accounts : List AccountInfo) (eventId : Bytes32) (amount : UInt64)
    (payouts : List UInt64) : Code Unit := do
  let count := payouts.length
  let needed ← ofOutcome (checkedAdd 64 count 5)
  check (accounts.length = needed) .notEnoughAccountKeys
  let payer ← ofOutcome (elementAt accounts 0)
  let authority ← ofOutcome (elementAt accounts 1)
  let ns ← ofOutcome (elementAt accounts 2)
  let recipients ← ofOutcome (do sliceOf accounts 3 (← checkedAdd 64 3 count))
  let record ← ofOutcome (do elementAt accounts (← checkedAdd 64 3 count))
  let systemProgram ← ofOutcome (do elementAt accounts (← checkedAdd 64 4 count))
  authorize D authority ns
  check (∀ recipient ∈ recipients, recipient.isWritable) .invalidAccountData
  let unrecoverable ← view fun m => recipients.any fun recipient =>
    recipient.key = record.key ∨ (m.accounts recipient.key).owner = D.programId
  check (¬ unrecoverable) .invalidArgument
  createRecord D payer ns.key record systemProgram eventId amount
  payRecipients payer (recipients.zip payouts)

/-- The checks of `settle_token` on each destination. -/
def checkDestinations (source record mint : AccountInfo) : List AccountInfo → Code Unit
  | [] => pure ()
  | recipient :: rest => do
      check (¬ (recipient.key = source.key ∨ recipient.key = record.key)) .invalidArgument
      let recipientState ← readData recipient TokenAccount.unpack
      check (recipientState.mint = mint.key) .invalidAccountData
      checkDestinations source record mint rest

/-- One payout of `settle_token`; `transfer_checked` refuses a foreign token
program. -/
def payDestination (source mint authority tokenProgram recipient : AccountInfo) (tokens : UInt64)
    (decimals : UInt8) : Code Unit :=
  if tokens = 0 then pure ()
  else do
    check (tokenProgram.key = tokenProgramId) .incorrectProgramId
    invoke [⟨source.key, true⟩, ⟨mint.key, false⟩, ⟨recipient.key, true⟩, ⟨authority.key, false⟩]
      (tokenTransferChecked source mint recipient authority tokens decimals)

/-- The payout loop of `settle_token`. -/
def payDestinations (source mint authority tokenProgram : AccountInfo) (decimals : UInt8) :
    List (AccountInfo × UInt64) → Code Unit
  | [] => pure ()
  | (recipient, tokens) :: rest => do
      payDestination source mint authority tokenProgram recipient tokens decimals
      payDestinations source mint authority tokenProgram decimals rest

def settleToken (accounts : List AccountInfo) (eventId : Bytes32) (amount : UInt64)
    (decimals : UInt8) (payouts : List UInt64) : Code Unit := do
  let count := payouts.length
  let needed ← ofOutcome (checkedAdd 64 count 8)
  check (accounts.length = needed) .notEnoughAccountKeys
  let payer ← ofOutcome (elementAt accounts 0)
  let authority ← ofOutcome (elementAt accounts 1)
  let ns ← ofOutcome (elementAt accounts 2)
  let source ← ofOutcome (elementAt accounts 3)
  let recipients ← ofOutcome (do sliceOf accounts 4 (← checkedAdd 64 4 count))
  let mint ← ofOutcome (do elementAt accounts (← checkedAdd 64 4 count))
  let record ← ofOutcome (do elementAt accounts (← checkedAdd 64 5 count))
  let systemProgram ← ofOutcome (do elementAt accounts (← checkedAdd 64 6 count))
  let tokenProgram ← ofOutcome (do elementAt accounts (← checkedAdd 64 7 count))
  check (tokenProgram.key = tokenProgramId) .incorrectProgramId
  authorize D authority ns
  check (source.isWritable ∧ ∀ recipient ∈ recipients, recipient.isWritable) .invalidAccountData
  let owned ← view fun m => decide ((m.accounts source.key).owner = tokenProgram.key ∧
    (m.accounts mint.key).owner = tokenProgram.key ∧
    ∀ recipient ∈ recipients, (m.accounts recipient.key).owner = tokenProgram.key)
  check owned .illegalOwner
  let mintState ← readData mint TokenMint.unpack
  check (mintState.isInitialized ∧ mintState.decimals = decimals) .invalidAccountData
  let sourceState ← readData source TokenAccount.unpack
  check (sourceState.mint = mint.key ∧ sourceState.owner = payer.key) .invalidAccountData
  checkDestinations source record mint recipients
  createRecord D payer ns.key record systemProgram eventId amount
  payDestinations source mint payer tokenProgram decimals (recipients.zip payouts)

/-- Run one instruction of the program. -/
def processInstruction (accounts : List AccountInfo) (data : Bytes) : Code Unit := do
  match ← ofOutcome (unpack data) with
  | .createNamespace namespaceId authority => createNamespace D accounts namespaceId authority
  | .setNamespaceAuthority newAuthority => setNamespaceAuthority D accounts newAuthority
  | .settleN eventId amount bps => do
      let payouts ← ofOutcome (splitPayouts amount bps)
      settle D accounts eventId amount payouts
  | .settleTokenN eventId amount decimals bps => do
      let payouts ← ofOutcome (splitPayouts amount bps)
      settleToken D accounts eventId amount decimals payouts

end Checked

end Synxed.Program
