import Synxed.Program.Processor

/-!
What a successful instruction does.

Each function of the processor has one lemma that says when it succeeds and
what it leaves behind; `processInstruction_effect` puts them together: a
successful instruction opens a namespace, rotates one, or creates a settlement
record, and does nothing else to any account of the program.
-/

namespace Synxed.Program

open Synxed.Lib

variable {D : Deployment}

/-! ### Authorization -/

/-- `ns` is a namespace account of the program whose current authority is
`authority`. -/
def HasAuthority (D : Deployment) (accounts : Accounts) (ns authority : Pubkey) : Prop :=
  (accounts ns).owner = D.programId ∧ namespaceAuthority (accounts ns).data = .ok authority

theorem HasAuthority.unique {accounts : Accounts} {ns a b : Pubkey}
    (ha : HasAuthority D accounts ns a) (hb : HasAuthority D accounts ns b) : a = b := by
  have same := ha.2.symm.trans hb.2
  cases same
  rfl

theorem authorize_eq_ok {authority ns : AccountInfo} {m : Machine} {u : Unit} :
    authorize D authority ns m = .ok u ↔
      authority.isSigner ∧ HasAuthority D m.accounts ns.key authority.key := by
  simp only [authorize, HasAuthority, bind_eq_ok, ensure_eq_ok, exists_const]
  constructor
  · rintro ⟨signed, owner, current, read, rfl⟩
    exact ⟨signed, owner, read⟩
  · rintro ⟨signed, owner, read⟩
    exact ⟨signed, owner, authority.key, read, rfl⟩

/-! ### Creating an account -/

/-- The accounts after `payer` funded `account` with `shortfall` lamports and
the program took it over with `data` in it. -/
def created (D : Deployment) (accounts : Accounts) (payer account : Pubkey) (shortfall : Nat)
    (data : Bytes) : Accounts :=
  Function.update (moveLamports accounts payer account shortfall) account
    ⟨(moveLamports accounts payer account shortfall account).lamports, D.programId, data⟩

/-- The invocations that create an account. -/
def creationCpis (D : Deployment) (payer account : Pubkey) (shortfall size : Nat) : List Cpi :=
  (if shortfall > 0 then [.transfer payer account shortfall] else []) ++
    [.allocate account size, .assign account D.programId]

/-- The lamports `account` lacks to be rent exempt at `size` bytes. -/
def shortfallOf (D : Deployment) (accounts : Accounts) (account : Pubkey) (size : Nat) : Nat :=
  D.minimumBalance size - (accounts account).lamports

/-- The account that pays, when it pays anything. -/
def CanPay (accounts : Accounts) (payer account : Pubkey) (shortfall : Nat) : Prop :=
  shortfall > 0 →
    (accounts payer).owner = systemProgramId ∧ (accounts payer).data = [] ∧
      shortfall ≤ (accounts payer).lamports ∧
      (moveLamports accounts payer account shortfall account).lamports ≤ u64Max

theorem moveLamports_zero (accounts : Accounts) (a b : Pubkey) :
    moveLamports accounts a b 0 = accounts := by
  funext k
  by_cases toB : k = b <;> by_cases fromA : k = a <;>
    simp_all [moveLamports, Function.update_apply]

/-- Taking an account over and then filling its data. -/
theorem created_write (accounts : Accounts) (payer account : Pubkey) (shortfall : Nat)
    (data data' : Bytes) (inner : List Cpi) :
    (Machine.write ⟨created D accounts payer account shortfall data, inner⟩ account data') =
      ⟨created D accounts payer account shortfall data', inner⟩ := by
  simp [Machine.write, created]

@[simp] theorem created_data (accounts : Accounts) (payer account : Pubkey) (shortfall : Nat)
    (data : Bytes) : (created D accounts payer account shortfall data account).data = data := by
  simp [created]

@[simp] theorem created_owner (accounts : Accounts) (payer account : Pubkey) (shortfall : Nat)
    (data : Bytes) :
    (created D accounts payer account shortfall data account).owner = D.programId := by
  simp [created]

/-- When `create_program_account` succeeds, and what it leaves. -/
theorem createProgramAccount_eq_ok {payer account systemProgram : AccountInfo} {seeds : List Bytes}
    {size : Nat} {m m' : Machine}
    (derived : D.addresses.create D.programId seeds = some account.key) :
    createProgramAccount D payer account systemProgram seeds size m = .ok m' ↔
      (payer.isSigner ∧ payer.isWritable ∧ account.isWritable ∧
        systemProgram.key = systemProgramId) ∧
      ((m.accounts account.key).owner = systemProgramId ∧ (m.accounts account.key).data = []) ∧
      (shortfallOf D m.accounts account.key size > 0 →
        (m.accounts payer.key).owner = systemProgramId ∧ (m.accounts payer.key).data = [] ∧
          shortfallOf D m.accounts account.key size ≤ (m.accounts payer.key).lamports ∧
          (moveLamports m.accounts payer.key account.key
            (shortfallOf D m.accounts account.key size) account.key).lamports ≤ u64Max) ∧
      m' = ⟨created D m.accounts payer.key account.key (shortfallOf D m.accounts account.key size)
          (List.replicate size 0),
        m.inner ++ creationCpis D payer.key account.key
          (shortfallOf D m.accounts account.key size) size⟩ := by
  have notProgram : systemProgramId ≠ D.programId := D.notSystem.symm
  simp only [createProgramAccount, shortfallOf, bind_eq_ok, ensure_eq_ok, exists_const,
    systemAllocate_eq_ok, systemAssign_eq_ok, derived, not_or, not_not, or_true, and_true]
  generalize D.minimumBalance size - (m.accounts account.key).lamports = shortfall
  -- allocate and assign after the top-up, whose result is `funded`
  have finish (funded : Machine) (accounts : funded.accounts =
      moveLamports m.accounts payer.key account.key shortfall) :
      ((funded.put account.key { funded.accounts account.key with data := List.replicate size 0 }
          (.allocate account.key size)).put account.key
        { (funded.put account.key { funded.accounts account.key with data := List.replicate size 0 }
          (.allocate account.key size)).accounts account.key with owner := D.programId }
        (.assign account.key D.programId)) =
      ⟨created D m.accounts payer.key account.key shortfall (List.replicate size 0),
        funded.inner ++ [.allocate account.key size, .assign account.key D.programId]⟩ := by
    simp [Machine.put, created, accounts]
  constructor
  · rintro ⟨signed, ⟨payerWritable, writable⟩, system, ⟨_, empty⟩, owner, funded, paid,
      allocated, ⟨_, _, rfl⟩, _, _, rfl⟩
    refine ⟨⟨signed, payerWritable, writable, system⟩, ⟨owner, empty⟩, ?_⟩
    by_cases short : shortfall > 0
    · rw [topUp, if_pos short, systemTransfer_eq_ok] at paid
      obtain ⟨_, ⟨payerOwner, payerData, enough⟩, fits, rfl⟩ := paid
      refine ⟨fun _ => ⟨payerOwner, payerData, enough, fits⟩, ?_⟩
      rw [finish _ rfl]
      simp [creationCpis, short]
    · rw [topUp, if_neg short] at paid
      cases paid
      refine ⟨fun h => absurd h short, ?_⟩
      obtain rfl : shortfall = 0 := by omega
      rw [finish _ (moveLamports_zero _ _ _).symm]
      simp [creationCpis]
  · rintro ⟨⟨signed, payerWritable, writable, system⟩, ⟨owner, empty⟩, payable, rfl⟩
    refine ⟨signed, ⟨payerWritable, writable⟩, system, ⟨by rw [owner]; exact notProgram, empty⟩,
      owner, ?_⟩
    by_cases short : shortfall > 0
    · obtain ⟨payerOwner, payerData, enough, fits⟩ := payable short
      refine ⟨⟨moveLamports m.accounts payer.key account.key shortfall,
        m.inner ++ [.transfer payer.key account.key shortfall]⟩, ?_, _,
        ⟨writable, ⟨by simpa using owner, by simpa using empty⟩, rfl⟩, writable,
        by simpa using owner, ?_⟩
      · rw [topUp, if_pos short, systemTransfer_eq_ok]
        exact ⟨⟨signed, payerWritable, writable⟩, ⟨payerOwner, payerData, enough⟩, fits, rfl⟩
      · rw [finish _ rfl]
        simp [creationCpis, short]
    · obtain rfl : shortfall = 0 := by omega
      refine ⟨m, by rw [topUp, if_neg short], _, ⟨writable, ⟨owner, empty⟩, rfl⟩, writable,
        by simpa using owner, ?_⟩
      rw [finish _ (moveLamports_zero _ _ _).symm]
      simp [creationCpis]

/-! ### Changes that leave the program's accounts alone -/

/-- No owner changes, and no account of the program changes its data or loses
lamports. -/
structure Quiet (D : Deployment) (before after : Accounts) : Prop where
  owner : ∀ k, (after k).owner = (before k).owner
  data : ∀ k, (before k).owner = D.programId → (after k).data = (before k).data
  lamports : ∀ k, (before k).owner = D.programId → (before k).lamports ≤ (after k).lamports

namespace Quiet

theorem refl (accounts : Accounts) : Quiet D accounts accounts :=
  ⟨fun _ => rfl, fun _ _ => rfl, fun _ _ => le_rfl⟩

theorem trans {a b c : Accounts} (first : Quiet D a b) (second : Quiet D b c) : Quiet D a c where
  owner k := (second.owner k).trans (first.owner k)
  data k owned := (second.data k ((first.owner k).trans owned)).trans (first.data k owned)
  lamports k owned :=
    (first.lamports k owned).trans (second.lamports k ((first.owner k).trans owned))

/-- Lamports taken from an account the program does not own. -/
theorem moveLamports {accounts : Accounts} {source destination : Pubkey} (lamports : Nat)
    (outside : (accounts source).owner ≠ D.programId) :
    Quiet D accounts (moveLamports accounts source destination lamports) where
  owner k := moveLamports_owner accounts source destination lamports k
  data k _ := moveLamports_data accounts source destination lamports k
  lamports k owned := le_moveLamports accounts source destination lamports k (by
    rintro rfl
    exact outside owned)

theorem tokenTransfer {source mint destination authority : AccountInfo} {amount : UInt64}
    {decimals : UInt8} {m m' : Machine}
    (h : tokenTransferChecked source mint destination authority amount decimals m = .ok m') :
    Quiet D m.accounts m'.accounts := by
  obtain ⟨owner, other, _⟩ := tokenTransferChecked_frame h
  have same (k : Pubkey) (owned : (m.accounts k).owner = D.programId) :
      m'.accounts k = m.accounts k :=
    other k (by rw [owned]; exact D.notToken)
  exact ⟨owner, fun k owned => by rw [same k owned], fun k owned => by rw [same k owned]⟩

end Quiet

/-- One account of the program comes into being at `target`, holding `data`;
every other account of the program is left alone. -/
structure Creates (D : Deployment) (before after : Accounts) (target : Pubkey) (data : Bytes) :
    Prop where
  fresh : (before target).owner = systemProgramId ∧ (before target).data = []
  made : (after target).owner = D.programId ∧ (after target).data = data
  funded : 0 < (after target).lamports
  owner : ∀ k, k ≠ target → (after k).owner = (before k).owner
  data : ∀ k, (before k).owner = D.programId → (after k).data = (before k).data
  lamports : ∀ k, (before k).owner = D.programId → (before k).lamports ≤ (after k).lamports

namespace Creates

variable {before middle after : Accounts} {target : Pubkey} {data : Bytes}

/-- The account at `target` is new. -/
theorem not_owned (creates : Creates D before after target data) :
    (before target).owner ≠ D.programId := by
  rw [creates.fresh.1]
  exact D.notSystem.symm

theorem then_quiet (creates : Creates D before middle target data) (quiet : Quiet D middle after) :
    Creates D before after target data where
  fresh := creates.fresh
  made := ⟨(quiet.owner target).trans creates.made.1,
    (quiet.data target creates.made.1).trans creates.made.2⟩
  funded := creates.funded.trans_le (quiet.lamports target creates.made.1)
  owner k other := (quiet.owner k).trans (creates.owner k other)
  data k owned := by
    have other : k ≠ target := fun same => creates.not_owned (same ▸ owned)
    exact (quiet.data k ((creates.owner k other).trans owned)).trans (creates.data k owned)
  lamports k owned := by
    have other : k ≠ target := fun same => creates.not_owned (same ▸ owned)
    exact (creates.lamports k owned).trans
      (quiet.lamports k ((creates.owner k other).trans owned))

/-- What `created` does: the payer is outside the program whenever it pays, and
the new account holds at least what was paid. -/
theorem of_created {payer : Pubkey} {size : Nat}
    (fresh : (before target).owner = systemProgramId ∧ (before target).data = [])
    (payable : CanPay before payer target (shortfallOf D before target size)) :
    Creates D before (created D before payer target (shortfallOf D before target size) data) target
      data := by
  have positive := D.minimumBalance_pos size
  have split : shortfallOf D before target size =
    D.minimumBalance size - (before target).lamports := rfl
  generalize shortfallOf D before target size = shortfall at payable split ⊢
  have quiet : Quiet D before (moveLamports before payer target shortfall) := by
    by_cases short : shortfall > 0
    · exact Quiet.moveLamports shortfall (by rw [(payable short).1]; exact D.notSystem.symm)
    · obtain rfl : shortfall = 0 := by omega
      rw [moveLamports_zero]
      exact Quiet.refl before
  have notOwned : (before target).owner ≠ D.programId := by
    rw [fresh.1]
    exact D.notSystem.symm
  have other {k : Pubkey} (h : k ≠ target) : created D before payer target shortfall data k =
      moveLamports before payer target shortfall k := by
    simp [created, h]
  refine ⟨fresh, by simp [created], ?_, ?_, ?_, ?_⟩
  · -- what is missing was paid, or an account that funds itself holds what it pays
    have held : (created D before payer target shortfall data target).lamports =
        (moveLamports before payer target shortfall target).lamports := by simp [created]
    rw [held, moveLamports_lamports, if_pos rfl]
    by_cases short : shortfall > 0
    · omega
    · split_ifs <;> omega
  · intro k h
    rw [other h]
    exact quiet.owner k
  · intro k owned
    rw [other fun same => notOwned (same ▸ owned)]
    exact quiet.data k owned
  · intro k owned
    rw [other fun same => notOwned (same ▸ owned)]
    exact quiet.lamports k owned

end Creates

/-! ### Records and namespaces -/

/-- The flags and the System program entry that creating an account needs. -/
def CreationFlags (payer account systemProgram : AccountInfo) : Prop :=
  payer.isSigner ∧ payer.isWritable ∧ account.isWritable ∧ systemProgram.key = systemProgramId

theorem createRecord_eq_ok {payer record systemProgram : AccountInfo} {ns : Pubkey}
    {eventId : Bytes32} {amount : UInt64} {m m' : Machine} :
    createRecord D payer ns record systemProgram eventId amount m = .ok m' ↔
      record.key = (settlementPda D.addresses D.programId ns eventId).1 ∧
      CreationFlags payer record systemProgram ∧
      ((m.accounts record.key).owner = systemProgramId ∧ (m.accounts record.key).data = []) ∧
      CanPay m.accounts payer.key record.key
        (shortfallOf D m.accounts record.key settlementRecordSize) ∧
      m' = ⟨created D m.accounts payer.key record.key
          (shortfallOf D m.accounts record.key settlementRecordSize) (recordData eventId amount),
        m.inner ++ creationCpis D payer.key record.key
          (shortfallOf D m.accounts record.key settlementRecordSize) settlementRecordSize⟩ := by
  simp only [createRecord, ensure_bind_eq_ok]
  refine and_congr_right fun address => ?_
  have derived : D.addresses.create D.programId (settlementSeeds ns eventId ++
      [[(settlementPda D.addresses D.programId ns eventId).2]]) = some record.key := by
    rw [address]
    exact D.addresses.create_find D.programId (settlementSeeds ns eventId)
  simp only [bind_eq_ok, createProgramAccount_eq_ok derived, CreationFlags, CanPay,
    Except.ok.injEq]
  constructor
  · rintro ⟨_, ⟨flags, fresh, payable, rfl⟩, data, written, rfl⟩
    rw [created_data, writeRecord_replicate] at written
    cases written
    exact ⟨flags, fresh, payable, created_write _ _ _ _ _ _ _⟩
  · rintro ⟨flags, fresh, payable, rfl⟩
    refine ⟨_, ⟨flags, fresh, payable, rfl⟩, recordData eventId amount, ?_,
      created_write _ _ _ _ _ _ _⟩
    rw [created_data, writeRecord_replicate]

theorem createNamespace_eq_ok {accounts : List AccountInfo} {namespaceId : Bytes32}
    {authority : Pubkey} {m m' : Machine} :
    createNamespace D accounts namespaceId authority m = .ok m' ↔
      ∃ payer creator ns systemProgram, accounts = [payer, creator, ns, systemProgram] ∧
        creator.isSigner ∧ authority ≠ defaultPubkey ∧
        ns.key = (namespacePda D.addresses D.programId creator.key namespaceId).1 ∧
        CreationFlags payer ns systemProgram ∧
        ((m.accounts ns.key).owner = systemProgramId ∧ (m.accounts ns.key).data = []) ∧
        CanPay m.accounts payer.key ns.key (shortfallOf D m.accounts ns.key namespaceSize) ∧
        m' = ⟨created D m.accounts payer.key ns.key (shortfallOf D m.accounts ns.key namespaceSize)
            (namespaceData (namespacePda D.addresses D.programId creator.key namespaceId).2
              creator.key namespaceId authority),
          m.inner ++ creationCpis D payer.key ns.key
            (shortfallOf D m.accounts ns.key namespaceSize) namespaceSize⟩ := by
  match accounts with
  | [payer, creator, ns, systemProgram] =>
      simp only [createNamespace, ensure_bind_eq_ok, List.cons.injEq, and_true, ↓existsAndEq,
        exists_eq_left']
      refine and_congr_right fun _ => and_congr_right fun _ => and_congr_right fun address => ?_
      have derived : D.addresses.create D.programId (namespaceSeeds creator.key namespaceId ++
          [[(namespacePda D.addresses D.programId creator.key namespaceId).2]]) = some ns.key := by
        rw [address]
        exact D.addresses.create_find D.programId (namespaceSeeds creator.key namespaceId)
      simp only [bind_eq_ok, createProgramAccount_eq_ok derived, CreationFlags, CanPay,
        Except.ok.injEq]
      constructor
      · rintro ⟨_, ⟨flags, fresh, payable, rfl⟩, data, written, rfl⟩
        rw [writeNamespace_eq_ok] at written
        obtain ⟨_, rfl⟩ := written
        exact ⟨flags, fresh, payable, created_write _ _ _ _ _ _ _⟩
      · rintro ⟨flags, fresh, payable, rfl⟩
        refine ⟨_, ⟨flags, fresh, payable, rfl⟩, _, ?_, created_write _ _ _ _ _ _ _⟩
        rw [created_data, writeNamespace_eq_ok]
        exact ⟨List.length_replicate, rfl⟩
  | [] => simp [createNamespace]
  | [_] => simp [createNamespace]
  | [_, _] => simp [createNamespace]
  | [_, _, _] => simp [createNamespace]
  | _ :: _ :: _ :: _ :: _ :: _ => simp [createNamespace]

/-- A namespace's bytes with another authority in them. -/
def rotatedData (data : Bytes) (newAuthority : Pubkey) : Bytes :=
  data.take namespaceAuthorityOffset ++ newAuthority.val

theorem setNamespaceAuthority_eq_ok {accounts : List AccountInfo} {newAuthority : Pubkey}
    {m m' : Machine} :
    setNamespaceAuthority D accounts newAuthority m = .ok m' ↔
      ∃ authority ns newAccount, accounts = [authority, ns, newAccount] ∧
        ns.isWritable ∧ authority.isSigner ∧ HasAuthority D m.accounts ns.key authority.key ∧
        newAuthority ≠ defaultPubkey ∧ newAccount.key = newAuthority ∧ newAccount.isSigner ∧
        m' = m.write ns.key (rotatedData (m.accounts ns.key).data newAuthority) := by
  match accounts with
  | [authority, ns, newAccount] =>
      simp only [setNamespaceAuthority, bind_eq_ok, ensure_eq_ok, exists_const, authorize_eq_ok,
        List.cons.injEq, and_true, true_and, ↓existsAndEq, exists_eq_left', not_or, not_not, and_assoc]
      refine and_congr_right fun _ => and_congr_right fun _ => and_congr_right fun current =>
        and_congr_right fun _ => and_congr_right fun _ => and_congr_right fun _ => ?_
      have length := (namespaceAuthority_eq_ok.mp current.2).1.1
      have copied : copyInto (m.accounts ns.key).data namespaceAuthorityOffset namespaceSize
          newAuthority.val = .ok (rotatedData (m.accounts ns.key).data newAuthority) := by
        rw [copyInto_eq_ok, copySlice_eq_some]
        refine ⟨⟨by decide, length.ge, newAuthority.property⟩, ?_⟩
        rw [List.drop_eq_nil_of_le length.le, List.append_nil, rotatedData]
      simp only [copied, Except.ok.injEq, exists_eq_left', eq_comm (a := m')]
  | [] => simp [setNamespaceAuthority]
  | [_] => simp [setNamespaceAuthority]
  | [_, _] => simp [setNamespaceAuthority]
  | _ :: _ :: _ :: _ :: _ => simp [setNamespaceAuthority]

/-! ### Payouts -/

/-- The System transfers of a native settlement's payouts: zero shares make
none. -/
def payoutCpis (payer : Pubkey) (payouts : List (AccountInfo × UInt64)) : List Cpi :=
  (payouts.filter fun payout => payout.2 ≠ 0).map fun payout =>
    .transfer payer payout.1.key payout.2.toNat

/-- The token transfers of a token settlement's payouts. -/
def tokenPayoutCpis (source mint authority : Pubkey) (decimals : UInt8)
    (payouts : List (AccountInfo × UInt64)) : List Cpi :=
  (payouts.filter fun payout => payout.2 ≠ 0).map fun payout =>
    .transferChecked source mint payout.1.key authority payout.2 decimals

theorem transfer_ok {source destination : AccountInfo} {lamports : UInt64} {m m' : Machine}
    (h : transfer source destination lamports m = .ok m') :
    Quiet D m.accounts m'.accounts ∧
      m'.inner = m.inner ++ payoutCpis source.key [(destination, lamports)] := by
  by_cases zero : lamports = 0
  · rw [transfer, if_pos zero] at h
    cases h
    exact ⟨Quiet.refl _, by simp [payoutCpis, zero]⟩
  · rw [transfer, if_neg zero, systemTransfer_eq_ok] at h
    obtain ⟨_, ⟨owner, _, _⟩, _, rfl⟩ := h
    exact ⟨Quiet.moveLamports _ (by rw [owner]; exact D.notSystem.symm), by simp [payoutCpis, zero]⟩

theorem payRecipients_ok {payer : AccountInfo} {payouts : List (AccountInfo × UInt64)} :
    ∀ {m m' : Machine}, payRecipients payer payouts m = .ok m' →
      Quiet D m.accounts m'.accounts ∧ m'.inner = m.inner ++ payoutCpis payer.key payouts := by
  induction payouts with
  | nil =>
      intro m m' h
      cases h
      exact ⟨Quiet.refl _, by simp [payoutCpis]⟩
  | cons payout rest ih =>
      intro m m' h
      simp only [payRecipients, bind_eq_ok] at h
      obtain ⟨paid, first, h⟩ := h
      obtain ⟨quiet, inner⟩ := transfer_ok (D := D) first
      obtain ⟨quiet', inner'⟩ := ih h
      refine ⟨quiet.trans quiet', ?_⟩
      rw [inner', inner, List.append_assoc, payoutCpis, payoutCpis, ← List.map_append,
        ← List.filter_append]
      rfl

theorem payDestination_ok {source mint authority recipient : AccountInfo} {tokens : UInt64}
    {decimals : UInt8} {m m' : Machine}
    (h : payDestination source mint authority recipient tokens decimals m = .ok m') :
    Quiet D m.accounts m'.accounts ∧ m'.inner = m.inner ++
      tokenPayoutCpis source.key mint.key authority.key decimals [(recipient, tokens)] := by
  by_cases zero : tokens = 0
  · rw [payDestination, if_pos zero] at h
    cases h
    exact ⟨Quiet.refl _, by simp [tokenPayoutCpis, zero]⟩
  · rw [payDestination, if_neg zero] at h
    refine ⟨Quiet.tokenTransfer h, ?_⟩
    rw [(tokenTransferChecked_frame h).2.2]
    simp [tokenPayoutCpis, zero]

theorem payDestinations_ok {source mint authority : AccountInfo} {decimals : UInt8}
    {payouts : List (AccountInfo × UInt64)} :
    ∀ {m m' : Machine}, payDestinations source mint authority decimals payouts m = .ok m' →
      Quiet D m.accounts m'.accounts ∧ m'.inner = m.inner ++
        tokenPayoutCpis source.key mint.key authority.key decimals payouts := by
  induction payouts with
  | nil =>
      intro m m' h
      cases h
      exact ⟨Quiet.refl _, by simp [tokenPayoutCpis]⟩
  | cons payout rest ih =>
      intro m m' h
      simp only [payDestinations, bind_eq_ok] at h
      obtain ⟨paid, first, h⟩ := h
      obtain ⟨quiet, inner⟩ := payDestination_ok (D := D) first
      obtain ⟨quiet', inner'⟩ := ih h
      refine ⟨quiet.trans quiet', ?_⟩
      rw [inner', inner, List.append_assoc, tokenPayoutCpis, tokenPayoutCpis, ← List.map_append,
        ← List.filter_append]
      rfl

/-! ### Settlements -/

theorem createRecord_creates {payer record systemProgram : AccountInfo} {ns : Pubkey}
    {eventId : Bytes32} {amount : UInt64} {m m' : Machine}
    (h : createRecord D payer ns record systemProgram eventId amount m = .ok m') :
    record.key = (settlementPda D.addresses D.programId ns eventId).1 ∧
      Creates D m.accounts m'.accounts record.key (recordData eventId amount) ∧
      m'.inner = m.inner ++ creationCpis D payer.key record.key
        (shortfallOf D m.accounts record.key settlementRecordSize) settlementRecordSize := by
  obtain ⟨address, _, fresh, payable, rfl⟩ := createRecord_eq_ok.mp h
  exact ⟨address, Creates.of_created fresh payable, rfl⟩

/-- An account list cut after the third account and before the last two. -/
theorem settleAccounts_eq {accounts : List AccountInfo} {count : Nat}
    {payer authority ns record systemProgram : AccountInfo} (length : accounts.length = count + 5)
    (atPayer : accounts[0]? = some payer) (atAuthority : accounts[1]? = some authority)
    (atNs : accounts[2]? = some ns) (atRecord : accounts[3 + count]? = some record)
    (atSystem : accounts[4 + count]? = some systemProgram) :
    accounts = payer :: authority :: ns ::
      ((accounts.drop 3).take count ++ [record, systemProgram]) := by
  have tail : accounts.drop (3 + count) = [record, systemProgram] := by
    have nothing : accounts.drop (4 + count + 1) = [] := List.drop_eq_nil_of_le (by omega)
    rw [drop_eq_cons atRecord, show 3 + count + 1 = 4 + count by omega, drop_eq_cons atSystem,
      nothing]
  calc accounts = accounts.drop 0 := rfl
    _ = payer :: authority :: ns :: accounts.drop 3 := by
      rw [drop_eq_cons atPayer, drop_eq_cons atAuthority, drop_eq_cons atNs]
    _ = payer :: authority :: ns :: ((accounts.drop 3).take count ++ [record, systemProgram]) := by
      rw [← tail, ← List.drop_drop, List.take_append_drop]

/-- What a successful native settlement checked and did. -/
theorem settle_ok {accounts : List AccountInfo} {eventId : Bytes32} {amount : UInt64}
    {payouts : List UInt64} {m m' : Machine}
    (h : settle D accounts eventId amount payouts m = .ok m') :
    ∃ payer authority ns recipients record systemProgram,
      accounts = payer :: authority :: ns :: (recipients ++ [record, systemProgram]) ∧
      recipients.length = payouts.length ∧
      authority.isSigner ∧ HasAuthority D m.accounts ns.key authority.key ∧
      (∀ recipient ∈ recipients, recipient.key ≠ record.key) ∧
      record.key = (settlementPda D.addresses D.programId ns.key eventId).1 ∧
      Creates D m.accounts m'.accounts record.key (recordData eventId amount) ∧
      m'.inner = m.inner ++ creationCpis D payer.key record.key
          (shortfallOf D m.accounts record.key settlementRecordSize) settlementRecordSize ++
        payoutCpis payer.key (recipients.zip payouts) := by
  simp only [settle, bind_eq_ok, ensure_eq_ok, exists_const, indexAt_eq_ok, authorize_eq_ok,
    not_or] at h
  obtain ⟨length, payer, atPayer, authority, atAuthority, ns, atNs, record, atRecord,
    systemProgram, atSystem, ⟨signed, current⟩, _, distinct, opened, recorded, paid⟩ := h
  obtain ⟨address, creates, inner⟩ := createRecord_creates recorded
  obtain ⟨quiet, inner'⟩ := payRecipients_ok (D := D) paid
  refine ⟨payer, authority, ns, _, record, systemProgram,
    settleAccounts_eq length atPayer atAuthority atNs atRecord atSystem, ?_, signed, current,
    fun recipient mem => (distinct recipient mem).1, address, creates.then_quiet quiet, ?_⟩
  · rw [List.length_take, List.length_drop]
    omega
  · rw [inner', inner]

/-- An account list cut after the fourth account and before the last four. -/
theorem settleTokenAccounts_eq {accounts : List AccountInfo} {count : Nat}
    {payer authority ns source mint record systemProgram tokenProgram : AccountInfo}
    (length : accounts.length = count + 8)
    (atPayer : accounts[0]? = some payer) (atAuthority : accounts[1]? = some authority)
    (atNs : accounts[2]? = some ns) (atSource : accounts[3]? = some source)
    (atMint : accounts[4 + count]? = some mint) (atRecord : accounts[5 + count]? = some record)
    (atSystem : accounts[6 + count]? = some systemProgram)
    (atToken : accounts[7 + count]? = some tokenProgram) :
    accounts = payer :: authority :: ns :: source ::
      ((accounts.drop 4).take count ++ [mint, record, systemProgram, tokenProgram]) := by
  have tail : accounts.drop (4 + count) = [mint, record, systemProgram, tokenProgram] := by
    have nothing : accounts.drop (7 + count + 1) = [] := List.drop_eq_nil_of_le (by omega)
    rw [drop_eq_cons atMint, show 4 + count + 1 = 5 + count by omega, drop_eq_cons atRecord,
      show 5 + count + 1 = 6 + count by omega, drop_eq_cons atSystem,
      show 6 + count + 1 = 7 + count by omega, drop_eq_cons atToken, nothing]
  calc accounts = accounts.drop 0 := rfl
    _ = payer :: authority :: ns :: source :: accounts.drop 4 := by
      rw [drop_eq_cons atPayer, drop_eq_cons atAuthority, drop_eq_cons atNs, drop_eq_cons atSource]
    _ = payer :: authority :: ns :: source ::
        ((accounts.drop 4).take count ++ [mint, record, systemProgram, tokenProgram]) := by
      rw [← tail, ← List.drop_drop, List.take_append_drop]

/-- What a successful token settlement checked and did. -/
theorem settleToken_ok {accounts : List AccountInfo} {eventId : Bytes32} {amount : UInt64}
    {decimals : UInt8} {payouts : List UInt64} {m m' : Machine}
    (h : settleToken D accounts eventId amount decimals payouts m = .ok m') :
    ∃ payer authority ns source recipients mint record systemProgram tokenProgram,
      accounts = payer :: authority :: ns :: source ::
        (recipients ++ [mint, record, systemProgram, tokenProgram]) ∧
      recipients.length = payouts.length ∧
      authority.isSigner ∧ HasAuthority D m.accounts ns.key authority.key ∧
      record.key = (settlementPda D.addresses D.programId ns.key eventId).1 ∧
      Creates D m.accounts m'.accounts record.key (recordData eventId amount) ∧
      m'.inner = m.inner ++ creationCpis D payer.key record.key
          (shortfallOf D m.accounts record.key settlementRecordSize) settlementRecordSize ++
        tokenPayoutCpis source.key mint.key payer.key decimals (recipients.zip payouts) := by
  simp only [settleToken, bind_eq_ok, ensure_eq_ok, exists_const, indexAt_eq_ok,
    authorize_eq_ok] at h
  obtain ⟨length, payer, atPayer, authority, atAuthority, ns, atNs, source, atSource, mint, atMint,
    record, atRecord, systemProgram, atSystem, tokenProgram, atToken, _, ⟨signed, current⟩, _, _,
    _, _, _, _, _, _, _, _, opened, recorded, paid⟩ := h
  obtain ⟨address, creates, inner⟩ := createRecord_creates recorded
  obtain ⟨quiet, inner'⟩ := payDestinations_ok (D := D) paid
  refine ⟨payer, authority, ns, source, _, mint, record, systemProgram, tokenProgram,
    settleTokenAccounts_eq length atPayer atAuthority atNs atSource atMint atRecord atSystem
      atToken, ?_, signed, current, address, creates.then_quiet quiet, ?_⟩
  · rw [List.length_take, List.length_drop]
    omega
  · rw [inner', inner]

/-- The split an instruction makes before it looks at any account. -/
theorem splitPayouts_eq_ok {amount : UInt64} {bps : List UInt16} {payouts : List UInt64} :
    splitPayouts amount bps = .ok payouts ↔
      ValidSplit amount bps ∧ payouts.map UInt64.toNat = payoutsOf amount bps := by
  rw [splitPayouts, ensure_bind_eq_ok]
  constructor
  · rintro ⟨_, h⟩
    cases split : splitShares amount bps bps.length with
    | error e => simp [split] at h
    | ok out =>
        rw [split] at h
        cases h
        obtain ⟨valid, _, out⟩ := splitShares_eq_ok.mp split
        exact ⟨valid, out⟩
  · rintro ⟨valid, out⟩
    rw [splitShares_eq_ok.mpr ⟨valid, rfl, out⟩]
    exact ⟨by simp only [not_or, not_lt]; exact valid.count, rfl⟩

/-- Running an encoded `SettleN` is splitting and settling. -/
theorem processInstruction_settleN {accounts : List AccountInfo} {eventId : Bytes32}
    {amount : UInt64} {bps : List UInt16} {state : Accounts} {m : Machine}
    (count : bps.length ≠ 0 ∧ bps.length ≤ maxShares)
    (h : processInstruction D accounts (SettlementInstruction.settleN eventId amount bps).pack state =
      .ok m) :
    ∃ payouts, ValidSplit amount bps ∧ payouts.map UInt64.toNat = payoutsOf amount bps ∧
      settle D accounts eventId amount payouts ⟨state, []⟩ = .ok m := by
  have decoded : SettlementInstruction.unpack (SettlementInstruction.settleN eventId amount bps).pack
      = .ok (.settleN eventId amount bps) := SettlementInstruction.unpack_pack count
  rw [processInstruction, decoded, ok_bind] at h
  obtain ⟨payouts, split, h⟩ := bind_eq_ok.mp h
  obtain ⟨valid, out⟩ := splitPayouts_eq_ok.mp split
  exact ⟨payouts, valid, out, h⟩

/-- Running an encoded `SettleTokenN` is splitting and settling. -/
theorem processInstruction_settleTokenN {accounts : List AccountInfo} {eventId : Bytes32}
    {amount : UInt64} {decimals : UInt8} {bps : List UInt16} {state : Accounts} {m : Machine}
    (count : bps.length ≠ 0 ∧ bps.length ≤ maxShares)
    (h : processInstruction D accounts
      (SettlementInstruction.settleTokenN eventId amount decimals bps).pack state = .ok m) :
    ∃ payouts, ValidSplit amount bps ∧ payouts.map UInt64.toNat = payoutsOf amount bps ∧
      settleToken D accounts eventId amount decimals payouts ⟨state, []⟩ = .ok m := by
  have decoded : SettlementInstruction.unpack
      (SettlementInstruction.settleTokenN eventId amount decimals bps).pack
      = .ok (.settleTokenN eventId amount decimals bps) := SettlementInstruction.unpack_pack count
  rw [processInstruction, decoded, ok_bind] at h
  obtain ⟨payouts, split, h⟩ := bind_eq_ok.mp h
  obtain ⟨valid, out⟩ := splitPayouts_eq_ok.mp split
  exact ⟨payouts, valid, out, h⟩

/-! ### Any instruction -/

/-- `key` signed the instruction with this account list. -/
def Signed (accounts : List AccountInfo) (key : Pubkey) : Prop :=
  ∃ account ∈ accounts, account.key = key ∧ account.isSigner

instance (accounts : List AccountInfo) (key : Pubkey) : Decidable (Signed accounts key) :=
  inferInstanceAs (Decidable (∃ account ∈ accounts, _ ∧ _))

/-- The key in a position of an account list. -/
def keyAt (accounts : List AccountInfo) (i : Nat) : Option Pubkey := (accounts[i]?).map (·.key)

/-- What one successful instruction does to the accounts. -/
inductive Effect (D : Deployment) (accounts : List AccountInfo) (before after : Accounts) :
    SettlementInstruction → Prop where
  | opens (creator : Pubkey) (namespaceId : Bytes32) (authority : Pubkey)
      (creatorAt : keyAt accounts 1 = some creator) (signed : Signed accounts creator)
      (creates : Creates D before after (namespacePda D.addresses D.programId creator namespaceId).1
        (namespaceData (namespacePda D.addresses D.programId creator namespaceId).2 creator
          namespaceId authority)) :
      Effect D accounts before after (.createNamespace namespaceId authority)
  | rotates (ns authority newAuthority : Pubkey) (authorityAt : keyAt accounts 0 = some authority)
      (nsAt : keyAt accounts 1 = some ns) (current : HasAuthority D before ns authority)
      (signed : Signed accounts authority) (signedNew : Signed accounts newAuthority)
      (changed : after = Function.update before ns
        { before ns with data := rotatedData (before ns).data newAuthority }) :
      Effect D accounts before after (.setNamespaceAuthority newAuthority)
  | settles (v : SettlementInstruction) (ns authority : Pubkey) (eventId : Bytes32)
      (amount : UInt64) (settlement : v.settlement = some (eventId, amount))
      (authorityAt : keyAt accounts 1 = some authority) (nsAt : keyAt accounts 2 = some ns)
      (current : HasAuthority D before ns authority) (signed : Signed accounts authority)
      (creates : Creates D before after (settlementPda D.addresses D.programId ns eventId).1
        (recordData eventId amount)) :
      Effect D accounts before after v

theorem Signed.of_mem {accounts : List AccountInfo} {account : AccountInfo}
    (mem : account ∈ accounts) (signed : account.isSigner) : Signed accounts account.key :=
  ⟨account, mem, rfl, signed⟩

/-- **The instructions' effects.** A successful instruction decodes and has the
effect of what it decodes to. -/
theorem processInstruction_effect {accounts : List AccountInfo} {data : Bytes} {state : Accounts}
    {m : Machine} (h : processInstruction D accounts data state = .ok m) :
    ∃ v, SettlementInstruction.unpack data = .ok v ∧ Effect D accounts state m.accounts v := by
  simp only [processInstruction, bind_eq_ok] at h
  obtain ⟨v, decoded, h⟩ := h
  refine ⟨v, decoded, ?_⟩
  cases v with
  | createNamespace namespaceId authority =>
      obtain ⟨payer, creator, ns, systemProgram, rfl, signed, _, address, _, fresh, payable, rfl⟩ :=
        createNamespace_eq_ok.mp h
      refine .opens creator.key namespaceId authority rfl (Signed.of_mem (by simp) signed) ?_
      rw [← address]
      exact Creates.of_created fresh payable
  | setNamespaceAuthority newAuthority =>
      obtain ⟨authority, ns, newAccount, rfl, _, signed, current, _, rfl, signedNew, rfl⟩ :=
        setNamespaceAuthority_eq_ok.mp h
      exact .rotates ns.key authority.key newAccount.key rfl rfl current (Signed.of_mem (by simp) signed)
        (Signed.of_mem (by simp) signedNew) rfl
  | settleN eventId amount bps =>
      simp only [bind_eq_ok] at h
      obtain ⟨payouts, _, h⟩ := h
      obtain ⟨payer, authority, ns, recipients, record, systemProgram, rfl, _, signed, current, _,
        address, creates, _⟩ := settle_ok h
      rw [address] at creates
      exact .settles _ ns.key authority.key eventId amount rfl rfl rfl current
        (Signed.of_mem (by simp) signed) creates
  | settleTokenN eventId amount decimals bps =>
      simp only [bind_eq_ok] at h
      obtain ⟨payouts, _, h⟩ := h
      obtain ⟨payer, authority, ns, source, recipients, mint, record, systemProgram, tokenProgram,
        rfl, _, signed, current, address, creates, _⟩ := settleToken_ok h
      rw [address] at creates
      exact .settles _ ns.key authority.key eventId amount rfl rfl rfl current
        (Signed.of_mem (by simp) signed) creates

end Synxed.Program
