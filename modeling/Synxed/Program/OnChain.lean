import Synxed.Program.Enabled

/-!
What a settlement still checks once its instruction fits.

`OnChain` is the program on keys instead of account lists: of each check only
what reads the accounts is left. `settle_eq_onChain` and
`settleToken_eq_onChain` say that an account list in order, with the flags the
program demands, leaves no other check.
-/

namespace Synxed.Program

open Synxed.Lib

variable (D : Deployment)

/-! ### The checks that read the accounts -/

namespace OnChain

def authorize (authority ns : Pubkey) (m : Machine) : Except Fault Unit := do
  ensure ((m.accounts ns).owner = D.programId) (.program .illegalOwner)
  let current ← namespaceAuthority (m.accounts ns).data
  ensure (current = authority) (.program .incorrectAuthority)

def systemTransfer (source destination : Pubkey) (lamports : Nat) (m : Machine) :
    Except Fault Machine := do
  ensure ((m.accounts source).owner = systemProgramId ∧ (m.accounts source).data = [] ∧
    lamports ≤ (m.accounts source).lamports) .invoke
  let moved := moveLamports m.accounts source destination lamports
  ensure ((moved destination).lamports ≤ u64Max) .invoke
  .ok ⟨moved, m.inner ++ [.transfer source destination lamports]⟩

def systemAllocate (account : Pubkey) (space : Nat) (m : Machine) : Except Fault Machine := do
  ensure ((m.accounts account).owner = systemProgramId ∧ (m.accounts account).data = []) .invoke
  .ok (m.put account { m.accounts account with data := List.replicate space 0 }
    (.allocate account space))

def systemAssign (account owner : Pubkey) (m : Machine) : Except Fault Machine := do
  ensure ((m.accounts account).owner = systemProgramId) .invoke
  .ok (m.put account { m.accounts account with owner := owner } (.assign account owner))

def topUp (payer account : Pubkey) (shortfall : Nat) (m : Machine) : Except Fault Machine :=
  if shortfall > 0 then systemTransfer payer account shortfall m else .ok m

def createProgramAccount (payer account : Pubkey) (size : Nat) (m : Machine) :
    Except Fault Machine := do
  ensure (¬ ((m.accounts account).owner = D.programId ∨ (m.accounts account).data ≠ []))
    (.program .accountAlreadyInitialized)
  ensure ((m.accounts account).owner = systemProgramId) (.program .invalidAccountData)
  let shortfall := D.minimumBalance size - (m.accounts account).lamports
  let m ← topUp payer account shortfall m
  let m ← systemAllocate account size m
  systemAssign account D.programId m

def createRecord (payer record : Pubkey) (eventId : Bytes32) (amount : UInt64) (m : Machine) :
    Except Fault Machine := do
  let m ← createProgramAccount D payer record settlementRecordSize m
  let data ← writeRecord (m.accounts record).data eventId amount
  .ok (m.write record data)

def transfer (source destination : Pubkey) (lamports : UInt64) (m : Machine) :
    Except Fault Machine :=
  if lamports = 0 then .ok m else systemTransfer source destination lamports.toNat m

def payRecipients (payer : Pubkey) : List (Pubkey × UInt64) → Machine → Except Fault Machine
  | [], m => .ok m
  | (recipient, lamports) :: rest, m => do
      let m ← transfer payer recipient lamports m
      payRecipients payer rest m

/-- Native settlement. -/
def settle (payer authority ns : Pubkey) (recipients : List Pubkey) (eventId : Bytes32)
    (amount : UInt64) (payouts : List UInt64) (m : Machine) : Except Fault Machine := do
  let record := (settlementPda D.addresses D.programId ns eventId).1
  authorize D authority ns m
  ensure (∀ recipient ∈ recipients, (m.accounts recipient).owner ≠ D.programId)
    (.program .invalidArgument)
  let m ← createRecord D payer record eventId amount m
  payRecipients payer (recipients.zip payouts) m

def checkDestinations (mint : Pubkey) (m : Machine) : List Pubkey → Except Fault Unit
  | [] => .ok ()
  | recipient :: rest => do
      let recipientState ← TokenAccount.unpack (m.accounts recipient).data
      ensure (recipientState.mint = mint) (.program .invalidAccountData)
      checkDestinations mint m rest

/-- `TransferChecked` between two different accounts. -/
def tokenTransferChecked (source mint destination authority : Pubkey) (amount : UInt64)
    (decimals : UInt8) (m : Machine) : Except Fault Machine := do
  ensure ((m.accounts source).owner = tokenProgramId ∧
    (m.accounts destination).owner = tokenProgramId) .invoke
  let sourceState ← invoking (TokenAccount.unpack (m.accounts source).data)
  let destinationState ← invoking (TokenAccount.unpack (m.accounts destination).data)
  ensure (¬ sourceState.isFrozen ∧ ¬ destinationState.isFrozen) .invoke
  ensure (amount ≤ sourceState.amount) .invoke
  ensure (sourceState.mint = destinationState.mint ∧ mint = sourceState.mint) .invoke
  let mintState ← invoking (TokenMint.unpack (m.accounts mint).data)
  ensure (decimals = mintState.decimals) .invoke
  let byDelegate : Bool := sourceState.delegate = some authority
  ensure (byDelegate ∨ sourceState.owner = authority) .invoke
  ensure (byDelegate → amount ≤ sourceState.delegatedAmount) .invoke
  ensure (¬ ((m.accounts authority).owner = tokenProgramId ∧
    (m.accounts authority).data.length = 355)) .invoke
  ensure (destinationState.amount.toNat + amount.toNat ≤ u64Max) .invoke
  let moved := moveTokens m.accounts source destination sourceState destinationState byDelegate
    amount
  ensure (sourceState.isNative.isSome → amount.toNat ≤ (m.accounts source).lamports ∧
    (moved destination).lamports ≤ u64Max) .invoke
  .ok ⟨moved, m.inner ++ [.transferChecked source mint destination authority amount decimals]⟩

def payDestination (source mint authority recipient : Pubkey) (tokens : UInt64) (decimals : UInt8)
    (m : Machine) : Except Fault Machine :=
  if tokens = 0 then .ok m
  else tokenTransferChecked source mint recipient authority tokens decimals m

def payDestinations (source mint authority : Pubkey) (decimals : UInt8) :
    List (Pubkey × UInt64) → Machine → Except Fault Machine
  | [], m => .ok m
  | (recipient, tokens) :: rest, m => do
      let m ← payDestination source mint authority recipient tokens decimals m
      payDestinations source mint authority decimals rest m

/-- Token settlement. -/
def settleToken (payer authority ns source : Pubkey) (recipients : List Pubkey) (mint : Pubkey)
    (eventId : Bytes32) (amount : UInt64) (decimals : UInt8) (payouts : List UInt64) (m : Machine) :
    Except Fault Machine := do
  let record := (settlementPda D.addresses D.programId ns eventId).1
  authorize D authority ns m
  ensure ((m.accounts source).owner = tokenProgramId ∧ (m.accounts mint).owner = tokenProgramId ∧
    ∀ recipient ∈ recipients, (m.accounts recipient).owner = tokenProgramId)
    (.program .illegalOwner)
  let mintState ← TokenMint.unpack (m.accounts mint).data
  ensure (mintState.isInitialized ∧ mintState.decimals = decimals) (.program .invalidAccountData)
  let sourceState ← TokenAccount.unpack (m.accounts source).data
  ensure (sourceState.mint = mint ∧ sourceState.owner = payer) (.program .invalidAccountData)
  checkDestinations mint m recipients
  let m ← createRecord D payer record eventId amount m
  payDestinations source mint payer decimals (recipients.zip payouts) m

end OnChain

/-! ### What is left of a check with its flags set -/

variable {D}

theorem authorize_eq_onChain {authority ns : AccountInfo} (signed : authority.isSigner)
    (m : Machine) : authorize D authority ns m = OnChain.authorize D authority.key ns.key m := by
  rw [authorize, ensure_bind_of_pos signed, OnChain.authorize]

theorem systemTransfer_eq_onChain {source destination : AccountInfo}
    (flags : source.isSigner ∧ source.isWritable ∧ destination.isWritable) (lamports : Nat)
    (m : Machine) : systemTransfer source destination lamports m =
      OnChain.systemTransfer source.key destination.key lamports m := by
  rw [systemTransfer, ensure_bind_of_pos flags, OnChain.systemTransfer]

theorem systemAllocate_eq_onChain {account : AccountInfo} {seeds : List Bytes}
    (flags : account.isWritable ∧
      (account.isSigner ∨ D.addresses.create D.programId seeds = some account.key)) (space : Nat)
    (m : Machine) : systemAllocate D account space seeds m =
      OnChain.systemAllocate account.key space m := by
  rw [systemAllocate, ensure_bind_of_pos flags, OnChain.systemAllocate]

theorem systemAssign_eq_onChain {account : AccountInfo} {seeds : List Bytes}
    (flags : account.isWritable ∧
      (account.isSigner ∨ D.addresses.create D.programId seeds = some account.key)) (owner : Pubkey)
    (m : Machine) : systemAssign D account owner seeds m =
      OnChain.systemAssign account.key owner m := by
  rw [systemAssign, ensure_bind_of_pos flags, OnChain.systemAssign]

theorem createRecord_eq_onChain {payer record systemProgram : AccountInfo} {ns : Pubkey}
    {eventId : Bytes32} (address : record.key = (settlementPda D.addresses D.programId ns eventId).1)
    (payerFlags : payer.isSigner ∧ payer.isWritable) (writable : record.isWritable)
    (isSystem : systemProgram.key = systemProgramId) (amount : UInt64) (m : Machine) :
    createRecord D payer ns record systemProgram eventId amount m =
      OnChain.createRecord D payer.key record.key eventId amount m := by
  have signedFor : record.isWritable ∧ (record.isSigner ∨ D.addresses.create D.programId
      (settlementSeeds ns eventId ++ [[(settlementPda D.addresses D.programId ns eventId).2]]) =
        some record.key) := by
    refine ⟨writable, .inr ?_⟩
    rw [address]
    exact D.addresses.create_find _ _
  have topped (shortfall : Nat) (m : Machine) : topUp payer record shortfall m =
      OnChain.topUp payer.key record.key shortfall m := by
    rw [topUp, systemTransfer_eq_onChain ⟨payerFlags.1, payerFlags.2, writable⟩, OnChain.topUp]
  rw [createRecord, ensure_bind_of_pos address, createProgramAccount,
    ensure_bind_of_pos payerFlags.1, ensure_bind_of_pos ⟨payerFlags.2, writable⟩,
    ensure_bind_of_pos isSystem, OnChain.createRecord, OnChain.createProgramAccount]
  simp only [topped, systemAllocate_eq_onChain signedFor, systemAssign_eq_onChain signedFor]

theorem payRecipients_eq_onChain {payer : AccountInfo} {payouts : List (AccountInfo × UInt64)}
    (flags : payer.isSigner ∧ payer.isWritable) (writable : ∀ payout ∈ payouts, payout.1.isWritable)
    (m : Machine) : payRecipients payer payouts m =
      OnChain.payRecipients payer.key (payouts.map fun payout => (payout.1.key, payout.2)) m := by
  induction payouts generalizing m with
  | nil => rfl
  | cons payout rest ih =>
      obtain ⟨recipient, lamports⟩ := payout
      obtain ⟨here, later⟩ := List.forall_mem_cons.mp writable
      have first : transfer payer recipient lamports m =
          OnChain.transfer payer.key recipient.key lamports m := by
        rw [transfer, systemTransfer_eq_onChain ⟨flags.1, flags.2, here⟩, OnChain.transfer]
      simp only [payRecipients, first, ih later, List.map_cons, OnChain.payRecipients]

theorem checkDestinations_eq_onChain {source record mint : AccountInfo}
    {recipients : List AccountInfo} (distinct : ∀ recipient ∈ recipients,
      recipient.key ≠ source.key ∧ recipient.key ≠ record.key) (m : Machine) :
    checkDestinations source record mint m recipients =
      OnChain.checkDestinations mint.key m (recipients.map (·.key)) := by
  induction recipients with
  | nil => rfl
  | cons recipient rest ih =>
      obtain ⟨here, later⟩ := List.forall_mem_cons.mp distinct
      rw [checkDestinations, ensure_bind_of_pos (not_or.mpr here)]
      simp only [ih later, List.map_cons, OnChain.checkDestinations]

theorem tokenTransferChecked_eq_onChain {source mint destination authority : AccountInfo}
    (flags : source.isWritable ∧ destination.isWritable ∧ authority.isSigner)
    (different : source.key ≠ destination.key) (amount : UInt64) (decimals : UInt8) (m : Machine) :
    tokenTransferChecked source mint destination authority amount decimals m =
      OnChain.tokenTransferChecked source.key mint.key destination.key authority.key amount decimals
        m := by
  rw [tokenTransferChecked, ensure_bind_of_pos flags]
  simp only [if_neg different]
  rfl

theorem payDestinations_eq_onChain {source mint authority : AccountInfo} {decimals : UInt8}
    {payouts : List (AccountInfo × UInt64)} (flags : source.isWritable ∧ authority.isSigner)
    (payable : ∀ payout ∈ payouts, payout.1.isWritable ∧ source.key ≠ payout.1.key) (m : Machine) :
    payDestinations source mint authority decimals payouts m =
      OnChain.payDestinations source.key mint.key authority.key decimals
        (payouts.map fun payout => (payout.1.key, payout.2)) m := by
  induction payouts generalizing m with
  | nil => rfl
  | cons payout rest ih =>
      obtain ⟨recipient, tokens⟩ := payout
      obtain ⟨⟨writable, different⟩, later⟩ := List.forall_mem_cons.mp payable
      have first : payDestination source mint authority recipient tokens decimals m =
          OnChain.payDestination source.key mint.key authority.key recipient.key tokens decimals m := by
        rw [payDestination, tokenTransferChecked_eq_onChain ⟨flags.1, writable, flags.2⟩ different,
          OnChain.payDestination]
      simp only [payDestinations, first, ih later, List.map_cons, OnChain.payDestinations]

/-! ### Settlements -/

/-- A payer, a namespace authority and a record with the flags that a settlement
demands of them, and the System program. -/
structure SettleFlags (D : Deployment) (payer authority ns record systemProgram : AccountInfo)
    (eventId : Bytes32) : Prop where
  paying : payer.isSigner ∧ payer.isWritable
  signed : authority.isSigner
  writable : record.isWritable
  address : record.key = (settlementPda D.addresses D.programId ns.key eventId).1
  isSystem : systemProgram.key = systemProgramId

theorem zip_keys (infos : List AccountInfo) (payouts : List UInt64) :
    (infos.zip payouts).map (fun payout => (payout.1.key, payout.2)) =
      (infos.map (·.key)).zip payouts := by
  rw [List.zip_map_left]
  rfl

/-- A native settlement whose account list fits checks the accounts only. -/
theorem settle_eq_onChain {payer authority ns record systemProgram : AccountInfo}
    {recipients : List AccountInfo} {eventId : Bytes32} {amount : UInt64} {payouts : List UInt64}
    (count : recipients.length = payouts.length)
    (flags : SettleFlags D payer authority ns record systemProgram eventId)
    (payable : ∀ recipient ∈ recipients, recipient.isWritable ∧ recipient.key ≠ record.key)
    (m : Machine) :
    settle D (settleAccounts payer authority ns recipients record systemProgram) eventId amount
        payouts m = OnChain.settle D payer.key authority.key ns.key (recipients.map (·.key)) eventId
          amount payouts m := by
  have middle : ((settleAccounts payer authority ns recipients record systemProgram).drop 3).take
      payouts.length = recipients := List.take_left' count
  have atRecord : indexAt (settleAccounts payer authority ns recipients record systemProgram)
      (3 + payouts.length) = .ok record := by
    rw [indexAt_eq_ok, settleAccounts, ← count, Nat.add_comm]
    simp
  have atSystem : indexAt (settleAccounts payer authority ns recipients record systemProgram)
      (4 + payouts.length) = .ok systemProgram := by
    rw [indexAt_eq_ok, settleAccounts, ← count,
      show 4 + recipients.length = recipients.length + 1 + 3 by omega]
    simp
  have length : (settleAccounts payer authority ns recipients record systemProgram).length =
      payouts.length + 5 := by
    simp [settleAccounts, count]
  have writable : ∀ recipient ∈ recipients, recipient.isWritable := fun recipient mem =>
    (payable recipient mem).1
  have outside : (∀ recipient ∈ recipients, ¬ (recipient.key = record.key ∨
      (m.accounts recipient.key).owner = D.programId)) ↔
      ∀ recipient ∈ recipients.map (·.key), (m.accounts recipient).owner ≠ D.programId := by
    rw [List.forall_mem_map]
    exact forall₂_congr fun recipient mem => by simp [(payable recipient mem).2]
  have paid (m : Machine) : payRecipients payer (recipients.zip payouts) m =
      OnChain.payRecipients payer.key ((recipients.map (·.key)).zip payouts) m := by
    rw [payRecipients_eq_onChain flags.paying fun payout mem =>
      writable payout.1 (List.of_mem_zip mem).1, zip_keys]
  have atPayer : indexAt (settleAccounts payer authority ns recipients record systemProgram) 0 =
      .ok payer := rfl
  have atAuthority : indexAt (settleAccounts payer authority ns recipients record systemProgram) 1 =
      .ok authority := rfl
  have atNs : indexAt (settleAccounts payer authority ns recipients record systemProgram) 2 =
      .ok ns := rfl
  rw [settle, ensure_bind_of_pos length]
  simp only [atPayer, atAuthority, atNs, atRecord, atSystem, ok_bind, middle,
    authorize_eq_onChain flags.signed, ensure_bind_of_pos writable, outside,
    createRecord_eq_onChain flags.address flags.paying flags.writable flags.isSystem, paid,
    OnChain.settle, ← flags.address]

/-- The account list of a `SettleTokenN`. -/
def tokenSettleAccounts (payer authority ns source : AccountInfo) (recipients : List AccountInfo)
    (mint record systemProgram tokenProgram : AccountInfo) : List AccountInfo :=
  payer :: authority :: ns :: source ::
    (recipients ++ [mint, record, systemProgram, tokenProgram])

/-- A token settlement whose account list fits checks the accounts only. -/
theorem settleToken_eq_onChain
    {payer authority ns source mint record systemProgram tokenProgram : AccountInfo}
    {recipients : List AccountInfo} {eventId : Bytes32} {amount : UInt64} {decimals : UInt8}
    {payouts : List UInt64} (count : recipients.length = payouts.length)
    (flags : SettleFlags D payer authority ns record systemProgram eventId)
    (sourceWritable : source.isWritable) (isToken : tokenProgram.key = tokenProgramId)
    (payable : ∀ recipient ∈ recipients, recipient.isWritable ∧ recipient.key ≠ source.key ∧
      recipient.key ≠ record.key) (m : Machine) :
    settleToken D (tokenSettleAccounts payer authority ns source recipients mint record systemProgram
        tokenProgram) eventId amount decimals payouts m =
      OnChain.settleToken D payer.key authority.key ns.key source.key (recipients.map (·.key))
        mint.key eventId amount decimals payouts m := by
  set accounts := tokenSettleAccounts payer authority ns source recipients mint record systemProgram
    tokenProgram with list
  have middle : (accounts.drop 4).take payouts.length = recipients := List.take_left' count
  have after (i : Nat) (info : AccountInfo)
      (at_ : [mint, record, systemProgram, tokenProgram][i]? = some info) :
      indexAt accounts (4 + i + payouts.length) = .ok info := by
    rw [indexAt_eq_ok, list, tokenSettleAccounts, ← count,
      show 4 + i + recipients.length = recipients.length + i + 4 by omega]
    simpa [List.getElem?_append_right] using at_
  have length : accounts.length = payouts.length + 8 := by
    simp [list, tokenSettleAccounts, count]
  have atPayer : indexAt accounts 0 = .ok payer := rfl
  have atAuthority : indexAt accounts 1 = .ok authority := rfl
  have atNs : indexAt accounts 2 = .ok ns := rfl
  have atSource : indexAt accounts 3 = .ok source := rfl
  have atMint : indexAt accounts (4 + payouts.length) = .ok mint := after 0 mint rfl
  have atRecord : indexAt accounts (5 + payouts.length) = .ok record := after 1 record rfl
  have atSystem : indexAt accounts (6 + payouts.length) = .ok systemProgram :=
    after 2 systemProgram rfl
  have atToken : indexAt accounts (7 + payouts.length) = .ok tokenProgram := after 3 tokenProgram rfl
  have writable : source.isWritable ∧ ∀ recipient ∈ recipients, recipient.isWritable :=
    ⟨sourceWritable, fun recipient mem => (payable recipient mem).1⟩
  have owners : (∀ recipient ∈ recipients, (m.accounts recipient.key).owner = tokenProgramId) ↔
      ∀ recipient ∈ recipients.map (·.key), (m.accounts recipient).owner = tokenProgramId := by
    rw [List.forall_mem_map]
  have checked : checkDestinations source record mint m recipients =
      OnChain.checkDestinations mint.key m (recipients.map (·.key)) :=
    checkDestinations_eq_onChain (fun recipient mem => (payable recipient mem).2) m
  have paid (m : Machine) : payDestinations source mint payer decimals (recipients.zip payouts) m =
      OnChain.payDestinations source.key mint.key payer.key decimals
        ((recipients.map (·.key)).zip payouts) m := by
    rw [payDestinations_eq_onChain ⟨sourceWritable, flags.paying.1⟩ fun payout mem => ?_, zip_keys]
    obtain ⟨here, different, _⟩ := payable payout.1 (List.of_mem_zip mem).1
    exact ⟨here, different.symm⟩
  rw [settleToken, ensure_bind_of_pos length]
  simp only [atPayer, atAuthority, atNs, atSource, atMint, atRecord, atSystem, atToken, ok_bind,
    middle, isToken, ensure_bind_of_pos trivial, authorize_eq_onChain flags.signed,
    ensure_bind_of_pos writable, owners, checked,
    createRecord_eq_onChain flags.address flags.paying flags.writable flags.isSystem, paid,
    OnChain.settleToken, ← flags.address]

end Synxed.Program
