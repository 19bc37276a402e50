import Synxed.Program.Kinds
import Synxed.Program.TokenPayouts

/-!
When instructions succeed.

At an address derived from the program's id there is an account of the program,
or at most lamports somebody sent (`PlainOrOwned`), in every state of every run.
So nothing anyone does beforehand can keep a namespace's authority from settling
an event, or a creator from opening a namespace:
`settlement_cannot_be_blocked`.
-/

namespace Synxed.Program

open Synxed.Lib

variable {D : Deployment}

/-! ### Derived addresses -/

/-- Nothing but lamports. -/
def Plain (account : Account) : Prop := account.owner = systemProgramId ∧ account.data = []

/-- An account of the program, or nothing but lamports. -/
def PlainOrOwned (D : Deployment) (accounts : Accounts) (k : Pubkey) : Prop :=
  (accounts k).owner = D.programId ∨ Plain (accounts k)

/-- Nobody else has made an account at an address derived from the program's id:
making one takes a signature that only the program can give. -/
def OnlyOwnAccounts (D : Deployment) (accounts : Accounts) : Prop :=
  ∀ seeds, PlainOrOwned D accounts (D.addresses.find D.programId seeds).1

/-- An instruction takes over plain accounts for the program or leaves them
plain. -/
theorem PlainOrOwned.of_instruction {accounts : List AccountInfo} {data : Bytes} {state : Accounts}
    {m : Machine} {k : Pubkey} (here : PlainOrOwned D state k)
    (h : processInstruction D accounts data state = .ok m) : PlainOrOwned D m.accounts k := by
  have system : systemProgramId ≠ tokenProgramId := by decide
  simp only [processInstruction, bind_eq_ok] at h
  obtain ⟨v, _, h⟩ := h
  cases v with
  | createNamespace namespaceId authority =>
      obtain ⟨payer, creator, ns, systemProgram, _, _, _, _, _, _, payable, rfl⟩ :=
        createNamespace_eq_ok.mp h
      by_cases target : k = ns.key
      · rw [target]
        exact .inl (created_owner _ _ _ _ _)
      · obtain ⟨_, other⟩ := created_paid D
          (namespaceData (namespacePda D.addresses D.programId creator.key namespaceId).2
            creator.key namespaceId authority) payable
        unfold PlainOrOwned Plain
        rw [(other k target).1, (other k target).2]
        exact here
  | setNamespaceAuthority newAuthority =>
      obtain ⟨authority, ns, newAccount, _, _, _, current, _, _, _, rfl⟩ :=
        setNamespaceAuthority_eq_ok.mp h
      by_cases target : k = ns.key
      · rw [target]
        exact .inl (by simpa using current.1)
      · unfold PlainOrOwned
        rw [Machine.write_other _ _ target]
        exact here
  | settleN eventId amount bps =>
      obtain ⟨payouts, _, h⟩ := bind_eq_ok.mp h
      obtain ⟨payer, authority, ns, recipients, record, systemProgram, _, _, _, settled⟩ :=
        settle_settled h
      by_cases target : k = record.key
      · rw [target]
        exact .inl settled.recordMade.1
      · unfold PlainOrOwned Plain
        rw [(settled.other k target).1, (settled.other k target).2]
        exact here
  | settleTokenN eventId amount decimals bps =>
      obtain ⟨payouts, _, h⟩ := bind_eq_ok.mp h
      obtain ⟨_, _, _, _, _, _, record, _, _, _, _, _, _, _, _, settled⟩ := settleToken_settled h
      by_cases target : k = record.key
      · rw [target]
        exact .inl settled.recordMade
      · obtain ⟨owner, data⟩ := settled.other k target
        rcases here with owned | ⟨plainOwner, plainData⟩
        · exact .inl (owner.trans owned)
        · exact .inr ⟨owner.trans plainOwner, (data (by rw [plainOwner]; exact system)).trans plainData⟩

theorem PlainOrOwned.of_itemStep {before after : Accounts} {item : Item} {k : Pubkey}
    (here : PlainOrOwned D before k) (next : ItemStep D before item after) :
    PlainOrOwned D after k := by
  cases item with
  | instruction accounts data =>
      obtain ⟨m, processed, same⟩ := bind_eq_ok.mp next
      cases same
      exact here.of_instruction processed
  | move source destination lamports =>
      obtain ⟨_, same⟩ := ensure_bind_eq_ok.mp next
      cases same
      unfold PlainOrOwned Plain
      rw [moveLamports_owner, moveLamports_data]
      exact here

theorem PlainOrOwned.of_trace {start last : Accounts} {log : List Item} {k : Pubkey}
    (here : PlainOrOwned D start k) (steps : Trace (ItemStep D) PurgeStep start log last) :
    PlainOrOwned D last k := by
  refine steps.invariant (fun _ accounts => PlainOrOwned D accounts k) here
    (fun _ _ _ _ _ here next => here.of_itemStep next) ?_
  rintro _ accounts _ here rfl
  by_cases empty : (accounts k).lamports = 0
  · refine .inr ?_
    rw [purge, if_pos empty]
    exact ⟨rfl, rfl⟩
  · unfold PlainOrOwned
    rw [purge, if_neg empty]
    exact here

/-! ### Paying out succeeds -/

/-- The lamports of any accounts together fit in a `u64`. -/
def SupplyFits (accounts : Accounts) : Prop :=
  ∀ s : Finset Pubkey, ∑ k ∈ s, lamportsIn accounts k ≤ u64Max

theorem SupplyFits.of_paid {before after : Accounts} {source : Pubkey} {payouts : List (Pubkey × Nat)}
    (fits : SupplyFits before) (paid : Paid source payouts (lamportsIn before) (lamportsIn after)) :
    SupplyFits after :=
  paid.bounded fits

/-- A System transfer out of an account that can pay it succeeds. -/
theorem systemTransfer_succeeds {source destination : AccountInfo} {lamports : Nat} {m : Machine}
    (flags : source.isSigner ∧ source.isWritable ∧ destination.isWritable)
    (plain : Plain (m.accounts source.key)) (enough : lamports ≤ (m.accounts source.key).lamports)
    (fits : SupplyFits m.accounts) :
    systemTransfer source destination lamports m =
      .ok ⟨moveLamports m.accounts source.key destination.key lamports,
        m.inner ++ [.transfer source.key destination.key lamports]⟩ := by
  refine systemTransfer_eq_ok.mpr ⟨flags, ⟨plain.1, plain.2, enough⟩, ?_, rfl⟩
  exact le_of_sum_le (fits.of_paid (moveLamports_paid destination.key enough)) destination.key

theorem transfer_succeeds {payer recipient : AccountInfo} {lamports : UInt64} {m : Machine}
    (flags : payer.isSigner ∧ payer.isWritable ∧ recipient.isWritable)
    (plain : Plain (m.accounts payer.key))
    (enough : lamports.toNat ≤ (m.accounts payer.key).lamports) (fits : SupplyFits m.accounts) :
    ∃ m', transfer payer recipient lamports m = .ok m' := by
  by_cases zero : lamports = 0
  · exact ⟨m, by rw [transfer, if_pos zero]⟩
  · rw [transfer, if_neg zero]
    exact ⟨_, systemTransfer_succeeds flags plain enough fits⟩

/-- The payout loop runs to its end: what is left with the payer covers what is
left to pay, also when the payer pays itself. -/
theorem payRecipients_succeeds {payer : AccountInfo} {payouts : List (AccountInfo × UInt64)}
    (signed : payer.isSigner ∧ payer.isWritable)
    (writable : ∀ payout ∈ payouts, payout.1.isWritable) : ∀ {m : Machine},
    Plain (m.accounts payer.key) → totalPaid (payoutsTo payouts) ≤ (m.accounts payer.key).lamports →
    SupplyFits m.accounts → ∃ m', payRecipients payer payouts m = .ok m' := by
  induction payouts with
  | nil => exact fun _ _ _ => ⟨_, rfl⟩
  | cons payout rest ih =>
      intro m plain enough fits
      have total : totalPaid (payoutsTo (payout :: rest)) =
          payout.2.toNat + totalPaid (payoutsTo rest) := rfl
      rw [total] at enough
      have covered : payout.2.toNat ≤ (m.accounts payer.key).lamports := by omega
      obtain ⟨middle, first⟩ := transfer_succeeds
        ⟨signed.1, signed.2, writable payout (by simp)⟩ plain covered fits
      obtain ⟨paid, only, _⟩ := transfer_paid first
      have left : totalPaid (payoutsTo rest) ≤ (middle.accounts payer.key).lamports := by
        have balance := paid payer.key
        rw [if_pos rfl] at balance
        simp only [lamportsIn, totalPaid, List.map_cons, List.map_nil, List.sum_cons,
          List.sum_nil, Nat.add_zero] at balance
        omega
      obtain ⟨last, later⟩ := ih (fun payout mem => writable payout (by simp [mem]))
        ⟨(only.owner _).trans plain.1, (only.data _).trans plain.2⟩ left (fits.of_paid paid)
      exact ⟨last, by rw [payRecipients, first, ok_bind, later]⟩

/-! ### Settling and opening succeed -/

/-- The account list of a `SettleN`. -/
def settleAccounts (payer authority ns : AccountInfo) (recipients : List AccountInfo)
    (record systemProgram : AccountInfo) : List AccountInfo :=
  payer :: authority :: ns :: (recipients ++ [record, systemProgram])

theorem settle_succeeds {payer authority ns record systemProgram : AccountInfo}
    {recipients : List AccountInfo} {eventId : Bytes32} {amount : UInt64} {payouts : List UInt64}
    {m made m' : Machine} (count : recipients.length = payouts.length)
    (authorized : authority.isSigner ∧ HasAuthority D m.accounts ns.key authority.key)
    (writable : ∀ recipient ∈ recipients, recipient.isWritable)
    (outside : ∀ recipient ∈ recipients,
      recipient.key ≠ record.key ∧ (m.accounts recipient.key).owner ≠ D.programId)
    (recorded : createRecord D payer ns.key record systemProgram eventId amount m = .ok made)
    (paid : payRecipients payer (recipients.zip payouts) made = .ok m') :
    settle D (settleAccounts payer authority ns recipients record systemProgram) eventId amount
      payouts m = .ok m' := by
  have middle : ((settleAccounts payer authority ns recipients record systemProgram).drop 3).take
      payouts.length = recipients := List.take_left' count
  have atRecord : (settleAccounts payer authority ns recipients record systemProgram)[
      3 + payouts.length]? = some record := by
    rw [settleAccounts, ← count, Nat.add_comm]
    simp
  have atSystem : (settleAccounts payer authority ns recipients record systemProgram)[
      4 + payouts.length]? = some systemProgram := by
    rw [settleAccounts, ← count, show 4 + recipients.length = recipients.length + 1 + 3 by omega]
    simp
  simp only [settle, bind_eq_ok, ensure_eq_ok, exists_const, indexAt_eq_ok, authorize_eq_ok, not_or,
    middle]
  exact ⟨by simp [settleAccounts, count], payer, rfl, authority, rfl, ns, rfl, record, atRecord,
    systemProgram, atSystem, authorized, writable, outside, made, recorded, paid⟩

/-- A plain account with the missing rent can pay it. -/
theorem canPay_of_funds {state : Accounts} {payer account : Pubkey} {size : Nat}
    (plain : Plain (state payer)) (enough : shortfallOf D state account size ≤ (state payer).lamports)
    (fits : SupplyFits state) : CanPay state payer account (shortfallOf D state account size) :=
  fun _ => ⟨plain.1, plain.2, enough,
    le_of_sum_le (fits.of_paid (moveLamports_paid account enough)) account⟩

/-- A `SettleN` that its namespace's authority and a payer with enough lamports
sign, for an event without a record. -/
structure SettleOffer (D : Deployment) (state : Accounts) (payer authority ns : AccountInfo)
    (recipients : List AccountInfo) (record systemProgram : AccountInfo) (eventId : Bytes32)
    (amount : UInt64) (bps : List UInt16) : Prop where
  current : HasAuthority D state ns.key authority.key
  address : record.key = recordAddress D ns.key eventId
  unsettled : (state record.key).owner ≠ D.programId
  isSystem : systemProgram.key = systemProgramId
  valid : ValidSplit amount bps
  count : recipients.length = bps.length
  authoritySigned : authority.isSigner
  payerSigned : payer.isSigner ∧ payer.isWritable
  payerPlain : Plain (state payer.key)
  recordWritable : record.isWritable
  funds : amount.toNat + (D.minimumBalance 41 - (state record.key).lamports) ≤
    (state payer.key).lamports
  payable : ∀ recipient ∈ recipients, recipient.isWritable ∧
    (state recipient.key).owner ≠ D.programId ∧ recipient.key ≠ record.key

theorem SettleOffer.succeeds {state : Accounts} {payer authority ns record systemProgram : AccountInfo}
    {recipients : List AccountInfo} {eventId : Bytes32} {amount : UInt64} {bps : List UInt16}
    (offer : SettleOffer D state payer authority ns recipients record systemProgram eventId amount bps)
    (plain : Plain (state record.key)) (different : payer.key ≠ record.key)
    (fits : SupplyFits state) :
    ∃ m, processInstruction D (settleAccounts payer authority ns recipients record systemProgram)
        (SettlementInstruction.settleN eventId amount bps).pack state = .ok m ∧
      Recorded D m.accounts ns.key eventId amount ∧
      (m.accounts record.key).lamports = max (D.minimumBalance 41) (state record.key).lamports := by
  set shortfall := shortfallOf D state record.key settlementRecordSize with hshortfall
  have payable : CanPay state payer.key record.key shortfall :=
    canPay_of_funds offer.payerPlain ((Nat.le_add_left _ _).trans offer.funds) fits
  obtain ⟨rent, other⟩ := created_paid D (recordData eventId amount) payable
  set made : Machine := ⟨created D state payer.key record.key shortfall (recordData eventId amount),
    [] ++ creationCpis D payer.key record.key shortfall settlementRecordSize⟩ with hmade
  have recorded : createRecord D payer ns.key record systemProgram eventId amount ⟨state, []⟩ =
      .ok made :=
    createRecord_eq_ok.mpr ⟨offer.address, ⟨offer.payerSigned.1, offer.payerSigned.2,
      offer.recordWritable, offer.isSystem⟩, plain, payable, rfl⟩
  obtain ⟨payouts, values⟩ := offer.valid.exists_payouts
  have count : recipients.length = payouts.length := by
    rw [offer.count, ← length_payoutsOf amount bps, ← values, List.length_map]
  have total : totalPaid (payoutsTo (recipients.zip payouts)) = amount.toNat := by
    rw [totalPaid_zip count, values, sum_payoutsOf offer.valid]
  have left : totalPaid (payoutsTo (recipients.zip payouts)) ≤
      (made.accounts payer.key).lamports := by
    have balance := rent payer.key
    simp only [if_true, lamportsIn, paidTo_cons, paidTo_nil, if_neg different.symm, totalPaid,
      List.map_cons, List.map_nil, List.sum_cons, List.sum_nil, Nat.add_zero] at balance
    have funds := offer.funds
    rw [total]
    change amount.toNat ≤ (created D state payer.key record.key shortfall
      (recordData eventId amount) payer.key).lamports
    rw [show D.minimumBalance 41 - (state record.key).lamports = shortfall from rfl] at funds
    omega
  obtain ⟨m, paid⟩ := payRecipients_succeeds offer.payerSigned
    (fun payout mem => (offer.payable payout.1 (List.of_mem_zip mem).1).1)
    ⟨(other _ different).1.trans offer.payerPlain.1, (other _ different).2.trans offer.payerPlain.2⟩
    left (fits.of_paid rent)
  obtain ⟨payments, only, _⟩ := payRecipients_paid paid
  have kept : (m.accounts record.key).lamports = (made.accounts record.key).lamports := by
    refine payments.eq_of_not_mem different.symm fun payout mem => ?_
    obtain ⟨recipient, inZip, rfl⟩ := List.mem_map.mp mem
    exact (offer.payable recipient.1 (List.of_mem_zip inZip).1).2.2
  have lamports : (m.accounts record.key).lamports =
      max (D.minimumBalance 41) (state record.key).lamports := by
    have balance := rent record.key
    rw [if_neg different.symm, paidTo_cons, if_pos rfl, paidTo_nil] at balance
    simp only [lamportsIn, Nat.add_zero] at balance
    rw [kept, hmade, balance, hshortfall, shortfallOf, show settlementRecordSize = 41 from rfl]
    omega
  refine ⟨m, ?_, ⟨?_, ?_, ?_⟩, lamports⟩
  · have decoded : SettlementInstruction.unpack
        (SettlementInstruction.settleN eventId amount bps).pack =
          .ok (.settleN eventId amount bps) := SettlementInstruction.unpack_pack offer.valid.count
    rw [processInstruction, decoded, ok_bind]
    change (splitPayouts amount bps >>= _) = _
    rw [splitPayouts_eq_ok.mpr ⟨offer.valid, values⟩, ok_bind]
    exact settle_succeeds count ⟨offer.authoritySigned, offer.current⟩
      (fun recipient mem => (offer.payable recipient mem).1)
      (fun recipient mem => ⟨(offer.payable recipient mem).2.2, (offer.payable recipient mem).2.1⟩)
      recorded paid
  · rw [← offer.address, only.owner]
    exact created_owner _ _ _ _ _
  · rw [← offer.address, only.data]
    exact created_data _ _ _ _ _
  · rw [← offer.address, lamports]
    exact (D.minimumBalance_pos 41).trans_le (le_max_left _ _)

/-- A `CreateNamespace` at an address nothing was opened at, signed by its
creator and a payer with enough lamports. -/
structure OpeningOffer (D : Deployment) (state : Accounts)
    (payer creator ns systemProgram : AccountInfo) (namespaceId : Bytes32) (authority : Pubkey) :
    Prop where
  address : ns.key = (namespacePda D.addresses D.programId creator.key namespaceId).1
  unopened : (state ns.key).owner ≠ D.programId
  isSystem : systemProgram.key = systemProgramId
  nonzero : authority ≠ defaultPubkey
  creatorSigned : creator.isSigner
  payerSigned : payer.isSigner ∧ payer.isWritable
  payerPlain : Plain (state payer.key)
  nsWritable : ns.isWritable
  funds : D.minimumBalance 98 - (state ns.key).lamports ≤ (state payer.key).lamports

theorem OpeningOffer.succeeds {state : Accounts} {payer creator ns systemProgram : AccountInfo}
    {namespaceId : Bytes32} {authority : Pubkey}
    (offer : OpeningOffer D state payer creator ns systemProgram namespaceId authority)
    (plain : Plain (state ns.key)) (different : payer.key ≠ ns.key) (fits : SupplyFits state) :
    ∃ m, processInstruction D [payer, creator, ns, systemProgram]
        (SettlementInstruction.createNamespace namespaceId authority).pack state = .ok m ∧
      HasAuthority D m.accounts ns.key authority ∧
      (m.accounts ns.key).lamports = max (D.minimumBalance 98) (state ns.key).lamports := by
  have payable : CanPay state payer.key ns.key (shortfallOf D state ns.key namespaceSize) :=
    canPay_of_funds offer.payerPlain offer.funds fits
  have decoded : SettlementInstruction.unpack
      (SettlementInstruction.createNamespace namespaceId authority).pack =
        .ok (.createNamespace namespaceId authority) := SettlementInstruction.unpack_pack trivial
  set bump := (namespacePda D.addresses D.programId creator.key namespaceId).2
  set shortfall := shortfallOf D state ns.key namespaceSize with hshortfall
  set made : Machine := ⟨created D state payer.key ns.key shortfall
      (namespaceData bump creator.key namespaceId authority),
    [] ++ creationCpis D payer.key ns.key shortfall namespaceSize⟩
  have opened : createNamespace D [payer, creator, ns, systemProgram] namespaceId authority
      ⟨state, []⟩ = .ok made :=
    createNamespace_eq_ok.mpr ⟨payer, creator, ns, systemProgram, rfl, offer.creatorSigned,
      offer.nonzero, offer.address,
      ⟨offer.payerSigned.1, offer.payerSigned.2, offer.nsWritable, offer.isSystem⟩, plain, payable, rfl⟩
  refine ⟨made, ?_, ⟨created_owner _ _ _ _ _, ?_⟩, ?_⟩
  · rw [processInstruction, decoded, ok_bind]
    exact opened
  · rw [created_data]
    exact namespaceAuthority_namespaceData _ _ _ _
  · obtain ⟨rent, _⟩ := created_paid D (namespaceData bump creator.key namespaceId authority) payable
    have balance := rent ns.key
    rw [if_neg different.symm, paidTo_cons, if_pos rfl, paidTo_nil] at balance
    simp only [lamportsIn, Nat.add_zero] at balance
    rw [balance, hshortfall, shortfallOf, show namespaceSize = 98 from rfl]
    omega

/-- **Nobody can block a settlement.** In every state a run passes through: an
offer to settle an event without a record, or to open a namespace that is not
open, succeeds whatever was sent to the address beforehand, and leaves the new
account with its rent or with what was sent if that is more. The runtime's part:
lamports fit in a `u64` altogether, and no derived address signs for itself. -/
theorem settlement_cannot_be_blocked (start : ChainState)
    (own : OnlyOwnAccounts D start.accounts) (transactions : List Transaction)
    (items : List Item) (state : Accounts)
    (reached : execItems D items (start.run D transactions).accounts = .ok state)
    (fits : SupplyFits state) :
    (∀ (payer authority ns : AccountInfo) (recipients : List AccountInfo)
      (record systemProgram : AccountInfo) (eventId : Bytes32) (amount : UInt64) (bps : List UInt16),
      SettleOffer D state payer authority ns recipients record systemProgram eventId amount bps →
      CreatesUnsigned D (.instruction
        (settleAccounts payer authority ns recipients record systemProgram)
        (SettlementInstruction.settleN eventId amount bps).pack) →
      ∃ m, processInstruction D (settleAccounts payer authority ns recipients record systemProgram)
          (SettlementInstruction.settleN eventId amount bps).pack state = .ok m ∧
        Recorded D m.accounts ns.key eventId amount ∧
        (m.accounts record.key).lamports = max (D.minimumBalance 41) (state record.key).lamports) ∧
    ∀ (payer creator ns systemProgram : AccountInfo) (namespaceId : Bytes32) (authority : Pubkey),
      OpeningOffer D state payer creator ns systemProgram namespaceId authority →
      CreatesUnsigned D (.instruction [payer, creator, ns, systemProgram]
        (SettlementInstruction.createNamespace namespaceId authority).pack) →
      ∃ m, processInstruction D [payer, creator, ns, systemProgram]
          (SettlementInstruction.createNamespace namespaceId authority).pack state = .ok m ∧
        HasAuthority D m.accounts ns.key authority ∧
        (m.accounts ns.key).lamports = max (D.minimumBalance 98) (state ns.key).lamports := by
  have steps := (start.run_trace (D := D) transactions).trans (execItems_trace reached)
  have plain (seeds : List Bytes) (free : (state (D.addresses.find D.programId seeds).1).owner ≠
      D.programId) : Plain (state (D.addresses.find D.programId seeds).1) :=
    ((own seeds).of_trace steps).resolve_left free
  refine ⟨?_, ?_⟩
  · intro payer authority ns recipients record systemProgram eventId amount bps offer unsigned
    have atRecord : record.key = (D.addresses.find D.programId (settlementSeeds ns.key eventId)).1 :=
      offer.address
    refine offer.succeeds ?_ (fun same => ?_) fits
    · have free := offer.unsettled
      rw [atRecord] at free ⊢
      exact plain _ free
    · refine unsigned (settlementSeeds ns.key eventId) ?_ ⟨payer, List.mem_cons_self, ?_, offer.payerSigned.1⟩
      · have decoded : SettlementInstruction.unpack
            (SettlementInstruction.settleN eventId amount bps).pack =
              .ok (.settleN eventId amount bps) :=
          SettlementInstruction.unpack_pack offer.valid.count
        simp only [Item.seeds, decoded]
        rfl
      · exact same.trans atRecord
  · intro payer creator ns systemProgram namespaceId authority offer unsigned
    have atNs : ns.key = (D.addresses.find D.programId (namespaceSeeds creator.key namespaceId)).1 :=
      offer.address
    refine offer.succeeds ?_ (fun same => ?_) fits
    · have free := offer.unopened
      rw [atNs] at free ⊢
      exact plain _ free
    · refine unsigned (namespaceSeeds creator.key namespaceId) ?_
        ⟨payer, List.mem_cons_self, same.trans atNs, offer.payerSigned.1⟩
      have decoded : SettlementInstruction.unpack
          (SettlementInstruction.createNamespace namespaceId authority).pack =
            .ok (.createNamespace namespaceId authority) := SettlementInstruction.unpack_pack trivial
      simp only [Item.seeds, decoded]
      rfl

theorem sampleState_plain (k : Pubkey) : PlainOrOwned sampleDeployment sampleState.accounts k := by
  by_cases isNs : k = sampleNamespace
  · exact .inl (isNs ▸ by decide +kernel)
  · refine .inr ⟨?_, ?_⟩ <;>
      simp only [sampleState, ChainState.commit, purge, isNs, if_false] <;>
      split_ifs <;> rfl

theorem sampleState_fits : SupplyFits sampleState.accounts := by
  intro s
  have only (k : Pubkey) (lamports : lamportsIn sampleState.accounts k ≠ 0) :
      k ∈ ({samplePayer, sampleNamespace} : Finset Pubkey) := by
    by_contra other
    simp only [Finset.mem_insert, Finset.mem_singleton, not_or] at other
    refine lamports ?_
    simp only [lamportsIn, sampleState, ChainState.commit, purge, other.1, other.2, if_false]
    rfl
  calc ∑ k ∈ s, lamportsIn sampleState.accounts k
      ≤ ∑ k ∈ ({samplePayer, sampleNamespace} : Finset Pubkey), lamportsIn sampleState.accounts k :=
        Finset.sum_le_sum_of_ne_zero fun k _ lamports => only k lamports
    _ ≤ u64Max := by decide +kernel

/-- The shared settlement, after somebody sent a few lamports to its record. -/
theorem settlement_cannot_be_blocked_sample :
    ∃ state m, (Item.move samplePayer
        (recordAddress sampleDeployment sampleNamespace (Bytes32.fill 4)) 100).exec
          sampleDeployment sampleState.accounts = .ok state ∧
      processInstruction sampleDeployment sampleSharedSettlement
        (SettlementInstruction.settleN (Bytes32.fill 4) 1001 [3333, 3333, 3334]).pack state = .ok m ∧
      Recorded sampleDeployment m.accounts sampleNamespace (Bytes32.fill 4) 1001 := by
  have enough : 100 ≤ (sampleState.accounts samplePayer).lamports := by decide +kernel
  set record := recordAddress sampleDeployment sampleNamespace (Bytes32.fill 4)
  have moved : (Item.move samplePayer record 100).exec sampleDeployment sampleState.accounts =
      .ok (moveLamports sampleState.accounts samplePayer record 100) :=
    ensure_bind_eq_ok.mpr ⟨⟨by decide +kernel, enough⟩, rfl⟩
  have reached : execItems sampleDeployment [.move samplePayer record 100]
      (sampleState.run sampleDeployment []).accounts =
        .ok (moveLamports sampleState.accounts samplePayer record 100) := by
    change (Item.move samplePayer record 100).exec sampleDeployment sampleState.accounts >>= _ = _
    rw [moved, ok_bind]
    rfl
  have unsigned : CreatesUnsigned sampleDeployment (.instruction sampleSharedSettlement
      (SettlementInstruction.settleN (Bytes32.fill 4) 1001 [3333, 3333, 3334]).pack) := by
    intro seeds here
    have bytes : (Item.instruction sampleSharedSettlement
        (SettlementInstruction.settleN (Bytes32.fill 4) 1001 [3333, 3333, 3334]).pack).seeds =
          some (settlementSeeds sampleNamespace (Bytes32.fill 4)).flatten := by decide +kernel
    have same : sampleAddress seeds.flatten = record :=
      congrArg sampleAddress (Option.some.inj (here.symm.trans bytes))
    change ¬ Signed _ (sampleAddress seeds.flatten)
    rw [same]
    unfold Signed
    decide +kernel
  obtain ⟨settles, _⟩ := settlement_cannot_be_blocked (D := sampleDeployment) sampleState
    (fun _ => sampleState_plain _) [] [.move samplePayer record 100] _ reached
    (sampleState_fits.of_paid (moveLamports_paid record enough))
  obtain ⟨m, executes, recorded, _⟩ := settles ⟨samplePayer, true, true⟩
    ⟨sampleAuthority, true, false⟩ ⟨sampleNamespace, false, false⟩
    [⟨sampleRecipient, false, true⟩, ⟨samplePayer, true, true⟩, ⟨sampleRecipient, false, true⟩]
    ⟨record, false, true⟩ ⟨systemProgramId, false, false⟩ (Bytes32.fill 4) 1001 [3333, 3333, 3334]
    { current := ⟨by decide +kernel, by decide +kernel⟩
      address := by decide +kernel
      unsettled := by decide +kernel
      isSystem := rfl
      valid := ⟨by decide, by decide, by simp [bpsDenominator], by decide⟩
      count := rfl
      authoritySigned := rfl
      payerSigned := ⟨rfl, rfl⟩
      payerPlain := ⟨by decide +kernel, by decide +kernel⟩
      recordWritable := rfl
      funds := by decide +kernel
      payable := by decide +kernel } unsigned
  exact ⟨_, m, moved, executes, recorded⟩

end Synxed.Program
