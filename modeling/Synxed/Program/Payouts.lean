import Synxed.Lib.Payout
import Synxed.Program.Chain

/-!
What a native settlement moves.

* `split_shares_exact`: the split is exact, and none of its guards engages.
* `settleN_moves_exactly_the_split`: the record's missing rent and the split
  leave the payer, and nothing else changes hands.
-/

namespace Synxed.Program

open Synxed.Lib

variable {D : Deployment}

/-! ### The split -/

/-- **Exact split.** `split_shares` succeeds exactly on 1 to 8 shares of at most
10000 each that sum to 10000, a positive amount and an output slice of as many
entries. Then the product and the sum never saturate, the cast never truncates
and the last subtraction never fails, wherever the loop is; the payouts sum to
the amount, and each is its floor, but for a last one that may get one unit more
for every other share. And where the split fails, both settlement instructions
fail with it, whatever accounts they name: before any invocation. -/
theorem split_shares_exact (amount : UInt64) (bps : List UInt16) :
    (∀ outLength, (∃ out, splitShares amount bps outLength = .ok out) ↔
      (1 ≤ bps.length ∧ bps.length ≤ 8 ∧ outLength = bps.length) ∧ 0 < amount ∧
        (∀ share ∈ bps, share.toNat ≤ 10000) ∧ (bps.map UInt16.toNat).sum = 10000) ∧
    (∀ outLength out, splitShares amount bps outLength = .ok out →
      (∀ front share rest, bps = front ++ share :: rest →
        -- the loop is at `share`, with this much allocated
        splitLoop amount 0 bps =
          (splitLoop amount (allocatedAfter amount 0 front) (share :: rest)).map
            (front.map (floorPayout amount) ++ ·) ∧
        amount.toNat * share.toNat ≤ u128Max ∧
        amount.toNat * share.toNat / 10000 ≤ u64Max ∧
        (allocatedAfter amount 0 front).toNat + (floorPayout amount share).toNat ≤ u64Max ∧
        (checkedSub64 amount (allocatedAfter amount 0 front)).isSome) ∧
      (out.map UInt64.toNat).sum = amount.toNat ∧
      ∃ front last dust, bps = front ++ [last] ∧ dust ≤ bps.length - 1 ∧
        out.map UInt64.toNat = (front.map fun share => amount.toNat * share.toNat / 10000) ++
          [amount.toNat * last.toNat / 10000 + dust]) ∧
    ∀ error, splitShares amount bps bps.length = .error error →
      ∀ (D : Deployment) (accounts : List AccountInfo) (data : Bytes) (state : Accounts)
        (eventId : Bytes32) (decimals : UInt8),
        SettlementInstruction.unpack data = .ok (.settleN eventId amount bps) ∨
          SettlementInstruction.unpack data = .ok (.settleTokenN eventId amount decimals bps) →
        processInstruction D accounts data state = .error (.program .invalidArgument) := by
  refine ⟨fun outLength => ?_, fun outLength out ok => ?_, ?_⟩
  · constructor
    · rintro ⟨out, ok⟩
      obtain ⟨valid, length, _⟩ := splitShares_eq_ok.mp ok
      exact ⟨⟨Nat.one_le_iff_ne_zero.mpr valid.count.1, valid.count.2, length⟩,
        UInt64.pos_iff_ne_zero.mpr valid.positive, valid.inRange, valid.sum⟩
    · rintro ⟨⟨some, few, length⟩, positive, inRange, sum⟩
      have valid : ValidSplit amount bps :=
        ⟨⟨Nat.one_le_iff_ne_zero.mp some, few⟩, UInt64.pos_iff_ne_zero.mp positive, inRange, sum⟩
      obtain ⟨out, values⟩ := valid.exists_payouts
      exact ⟨out, splitShares_eq_ok.mpr ⟨valid, length, values⟩⟩
  · obtain ⟨valid, _, values⟩ := splitShares_eq_ok.mp ok
    refine ⟨fun front share rest here => ?_, by rw [values, sum_payoutsOf valid], ?_⟩
    · obtain ⟨product, cast, sum, enough⟩ := valid.guards here
      refine ⟨?_, product, cast, sum, by rw [enough]; rfl⟩
      rw [here, splitLoop_append]
    · have nonempty : bps ≠ [] := by
        rintro rfl
        exact valid.count.1 rfl
      obtain ⟨front, last, rfl⟩ : ∃ front last, bps = front ++ [last] :=
        ⟨_, _, (List.dropLast_append_getLast nonempty).symm⟩
      obtain ⟨dust, small, payouts⟩ := valid.payouts
      exact ⟨front, last, dust, rfl, by simpa using small, values.trans payouts⟩
  · intro error failed D accounts data state eventId decimals decoded
    have refused (few : ¬ (bps.length = 0 ∨ bps.length > maxShares)) :
        splitPayouts amount bps = .error (.program .invalidArgument) := by
      rw [splitPayouts, ensure_bind_of_pos few, failed]
    rcases decoded with decoded | decoded
    · obtain ⟨_, nonzero, few⟩ := SettlementInstruction.unpack_sound decoded
      rw [processInstruction, decoded, ok_bind]
      change (splitPayouts amount bps >>= _) = _
      rw [refused (by simpa [nonzero] using few)]
      rfl
    · obtain ⟨_, nonzero, few⟩ := SettlementInstruction.unpack_sound decoded
      rw [processInstruction, decoded, ok_bind]
      change (splitPayouts amount bps >>= _) = _
      rw [refused (by simpa [nonzero] using few)]
      rfl

/-! ### Lamports that move -/

/-- The lamports of every account. -/
def lamportsIn (accounts : Accounts) (k : Pubkey) : Nat := (accounts k).lamports

/-- Payouts by recipient. -/
def payoutsTo (payouts : List (AccountInfo × UInt64)) : List (Pubkey × Nat) :=
  payouts.map fun payout => (payout.1.key, payout.2.toNat)

theorem moveLamports_paid {accounts : Accounts} {source : Pubkey} (destination : Pubkey)
    {lamports : Nat} (enough : lamports ≤ (accounts source).lamports) :
    Paid source [(destination, lamports)] (lamportsIn accounts)
      (lamportsIn (moveLamports accounts source destination lamports)) := by
  intro k
  simp only [lamportsIn, moveLamports_lamports, paidTo_cons, paidTo_nil, totalPaid, List.map_cons,
    List.map_nil, List.sum_cons, List.sum_nil, Nat.add_zero, eq_comm (a := destination)]
  by_cases fromSource : k = source
  · subst fromSource
    rw [if_pos rfl, if_pos rfl]
    omega
  · rw [if_neg fromSource, if_neg fromSource, Nat.add_zero]

/-- What a run of payouts leaves of everything but lamports. -/
structure OnlyLamports (before after : Accounts) : Prop where
  owner : ∀ k, (after k).owner = (before k).owner
  data : ∀ k, (after k).data = (before k).data

theorem OnlyLamports.refl (accounts : Accounts) : OnlyLamports accounts accounts :=
  ⟨fun _ => rfl, fun _ => rfl⟩

theorem OnlyLamports.trans {a b c : Accounts} (first : OnlyLamports a b)
    (second : OnlyLamports b c) : OnlyLamports a c :=
  ⟨fun k => (second.owner k).trans (first.owner k), fun k => (second.data k).trans (first.data k)⟩

theorem OnlyLamports.moveLamports (accounts : Accounts) (source destination : Pubkey)
    (lamports : Nat) : OnlyLamports accounts (moveLamports accounts source destination lamports) :=
  ⟨fun k => moveLamports_owner accounts source destination lamports k,
    fun k => moveLamports_data accounts source destination lamports k⟩

/-- One payout. A payer that pays anything is a System account. -/
theorem transfer_paid {payer recipient : AccountInfo} {lamports : UInt64} {m m' : Machine}
    (h : transfer payer recipient lamports m = .ok m') :
    Paid payer.key [(recipient.key, lamports.toNat)] (lamportsIn m.accounts)
        (lamportsIn m'.accounts) ∧ OnlyLamports m.accounts m'.accounts ∧
      (lamports ≠ 0 → (m.accounts payer.key).owner = systemProgramId) := by
  by_cases zero : lamports = 0
  · rw [transfer, if_pos zero] at h
    cases h
    refine ⟨?_, OnlyLamports.refl _, fun nonzero => absurd zero nonzero⟩
    rw [zero, UInt64.toNat_zero]
    exact Paid.zero _
  · rw [transfer, if_neg zero, systemTransfer_eq_ok] at h
    obtain ⟨_, ⟨owner, _, enough⟩, _, rfl⟩ := h
    exact ⟨moveLamports_paid _ enough, OnlyLamports.moveLamports _ _ _ _, fun _ => owner⟩

/-- The payout loop, whatever accounts it names and however often. -/
theorem payRecipients_paid {payer : AccountInfo} {payouts : List (AccountInfo × UInt64)} :
    ∀ {m m' : Machine}, payRecipients payer payouts m = .ok m' →
      Paid payer.key (payoutsTo payouts) (lamportsIn m.accounts) (lamportsIn m'.accounts) ∧
        OnlyLamports m.accounts m'.accounts ∧
        ((∃ payout ∈ payouts, payout.2 ≠ 0) →
          (m.accounts payer.key).owner = systemProgramId) := by
  induction payouts with
  | nil =>
      intro m m' h
      cases h
      exact ⟨Paid.nil, OnlyLamports.refl _, by simp⟩
  | cons payout rest ih =>
      intro m m' h
      simp only [payRecipients, bind_eq_ok] at h
      obtain ⟨middle, first, h⟩ := h
      obtain ⟨paid, only, owner⟩ := transfer_paid first
      obtain ⟨paid', only', owner'⟩ := ih h
      refine ⟨paid.append paid', only.trans only', ?_⟩
      rintro ⟨payout', mem, nonzero⟩
      rcases List.mem_cons.mp mem with rfl | later
      · exact owner nonzero
      · rw [← only.owner payer.key]
        exact owner' ⟨payout', later, nonzero⟩

/-- Making the record moves the rent it lacks, and changes nothing else but the
record. -/
theorem created_paid (D : Deployment) (data : Bytes) {accounts : Accounts} {payer account : Pubkey}
    {shortfall : Nat} (payable : CanPay accounts payer account shortfall) :
    Paid payer [(account, shortfall)] (lamportsIn accounts)
        (lamportsIn (created D accounts payer account shortfall data)) ∧
      ∀ k, k ≠ account →
        (created D accounts payer account shortfall data k).owner = (accounts k).owner ∧
        (created D accounts payer account shortfall data k).data = (accounts k).data := by
  have enough : shortfall ≤ (accounts payer).lamports := by
    by_cases short : shortfall > 0
    · exact (payable short).2.2.1
    · omega
  have lamports : lamportsIn (created D accounts payer account shortfall data) =
      lamportsIn (moveLamports accounts payer account shortfall) := by
    funext k
    by_cases here : k = account
    · subst here
      simp [lamportsIn, created]
    · simp [lamportsIn, created, here]
  refine ⟨by rw [lamports]; exact moveLamports_paid _ enough, fun k other => ?_⟩
  rw [created, Function.update_of_ne other]
  exact ⟨moveLamports_owner _ _ _ _ _, moveLamports_data _ _ _ _ _⟩

/-! ### A native settlement -/

/-- What a successful native settlement moved. -/
structure Settled (D : Deployment) (before after : Accounts) (payer record : Pubkey)
    (payouts : List (AccountInfo × UInt64)) (data : Bytes) : Prop where
  paid : Paid payer ((record, shortfallOf D before record settlementRecordSize) :: payoutsTo payouts)
    (lamportsIn before) (lamportsIn after)
  other : ∀ k, k ≠ record → (after k).owner = (before k).owner ∧ (after k).data = (before k).data
  recordMade : (after record).owner = D.programId ∧ (after record).data = data
  recordFresh : (before record).owner = systemProgramId ∧ (before record).data = []
  outside : ∀ payout ∈ payouts, payout.1.key ≠ record ∧ (before payout.1.key).owner ≠ D.programId
  payer : (∃ payout ∈ payouts, payout.2 ≠ 0) →
    payer ≠ record ∧ (before payer).owner = systemProgramId

theorem settle_settled {accounts : List AccountInfo} {eventId : Bytes32} {amount : UInt64}
    {payouts : List UInt64} {m m' : Machine}
    (h : settle D accounts eventId amount payouts m = .ok m') :
    ∃ payer authority ns recipients record systemProgram,
      accounts = payer :: authority :: ns :: (recipients ++ [record, systemProgram]) ∧
      recipients.length = payouts.length ∧
      record.key = (settlementPda D.addresses D.programId ns.key eventId).1 ∧
      Settled D m.accounts m'.accounts payer.key record.key (recipients.zip payouts)
        (recordData eventId amount) := by
  simp only [settle, bind_eq_ok, ensure_eq_ok, exists_const, indexAt_eq_ok, authorize_eq_ok,
    not_or] at h
  obtain ⟨length, payer, atPayer, authority, atAuthority, ns, atNs, record, atRecord,
    systemProgram, atSystem, _, _, distinct, opened, recorded, paid⟩ := h
  obtain ⟨address, _, fresh, payable, rfl⟩ := createRecord_eq_ok.mp recorded
  obtain ⟨rent, others⟩ := created_paid D (recordData eventId amount) payable
  obtain ⟨payments, only, payerOwner⟩ := payRecipients_paid paid
  refine ⟨payer, authority, ns, _, record, systemProgram,
    settleAccounts_eq length atPayer atAuthority atNs atRecord atSystem, ?_, address,
    rent.append payments, fun k other => ?_, ?_, fresh, fun payout mem => ?_, fun pays => ?_⟩
  · rw [List.length_take, List.length_drop]
    omega
  · rw [only.owner, only.data]
    exact others k other
  · rw [only.owner, only.data]
    exact ⟨created_owner _ _ _ _ _, created_data _ _ _ _ _⟩
  · exact distinct payout.1 (List.of_mem_zip mem).1
  · -- once the record is made the program owns it, and only a System account pays
    have owner := payerOwner pays
    have different : payer.key ≠ record.key := by
      intro same
      rw [same] at owner
      exact D.notSystem ((created_owner _ _ _ _ _).symm.trans owner)
    exact ⟨different, by rwa [(others _ different).1] at owner⟩

/-- The payouts of a list of recipients as long are all the payouts. -/
theorem totalPaid_zip {recipients : List AccountInfo} {payouts : List UInt64}
    (length : recipients.length = payouts.length) :
    totalPaid (payoutsTo (recipients.zip payouts)) = (payouts.map UInt64.toNat).sum := by
  have amounts : (payoutsTo (recipients.zip payouts)).map Prod.snd = payouts.map UInt64.toNat := by
    rw [payoutsTo, List.map_map]
    calc (recipients.zip payouts).map (Prod.snd ∘ fun payout => (payout.1.key, payout.2.toNat))
        = ((recipients.zip payouts).map Prod.snd).map UInt64.toNat := by
          rw [List.map_map]
          rfl
      _ = payouts.map UInt64.toNat := by rw [List.map_snd_zip length.ge]
  rw [totalPaid, amounts]

/-- Payouts that sum to something pay something. -/
theorem exists_nonzero_payout {recipients : List AccountInfo} {payouts : List UInt64}
    (length : recipients.length = payouts.length) (sum : (payouts.map UInt64.toNat).sum ≠ 0) :
    ∃ payout ∈ recipients.zip payouts, payout.2 ≠ 0 := by
  by_contra nothing
  push Not at nothing
  refine sum ?_
  rw [← totalPaid_zip length, totalPaid, payoutsTo, List.map_map]
  refine List.sum_eq_zero fun value paid => ?_
  obtain ⟨payout, mem, rfl⟩ := List.mem_map.mp paid
  simp [nothing payout mem]

/-- **Native settlements move exactly the split.** Whatever accounts a
successful `SettleN` names, and however often: every account's lamports change
by the payouts to it, by the rent the record lacked if it is the record, and by
the amount and that rent if it is the payer. Nothing is created or lost, only
the record changes its data or owner, and no account the program owns, before or
after, receives anything but the record its rent. -/
theorem settleN_moves_exactly_the_split {accounts : List AccountInfo} {data : Bytes}
    {eventId : Bytes32} {amount : UInt64} {bps : List UInt16} {state : Accounts} {m : Machine}
    (decoded : SettlementInstruction.unpack data = .ok (.settleN eventId amount bps))
    (settled : processInstruction D accounts data state = .ok m) :
    ∃ payer authority ns recipients record systemProgram payouts,
      accounts = payer :: authority :: ns :: (recipients ++ [record, systemProgram]) ∧
      splitShares amount bps bps.length = .ok payouts ∧ recipients.length = payouts.length ∧
      record.key = (settlementPda D.addresses D.programId ns.key eventId).1 ∧
      (∀ x, ((m.accounts x).lamports : Int) - (state x).lamports =
        paidTo (payoutsTo (recipients.zip payouts)) x +
          (if x = record.key then
            ((D.minimumBalance 41 - (state record.key).lamports : Nat) : Int) else 0) -
          (if x = payer.key then
            amount.toNat + ((D.minimumBalance 41 - (state record.key).lamports : Nat) : Int)
            else 0)) ∧
      (∀ everyone : Finset Pubkey, (∀ account ∈ accounts, account.key ∈ everyone) →
        ∑ x ∈ everyone, (m.accounts x).lamports = ∑ x ∈ everyone, (state x).lamports) ∧
      (∀ x, x ≠ record.key →
        (m.accounts x).data = (state x).data ∧ (m.accounts x).owner = (state x).owner) ∧
      ∀ x, (state x).owner = D.programId ∨ (m.accounts x).owner = D.programId →
        (m.accounts x).lamports = (state x).lamports +
          (if x = record.key then D.minimumBalance 41 - (state record.key).lamports else 0) := by
  rw [processInstruction, decoded, ok_bind] at settled
  obtain ⟨payouts, split, settled⟩ := bind_eq_ok.mp settled
  obtain ⟨valid, values⟩ := splitPayouts_eq_ok.mp split
  obtain ⟨payer, authority, ns, recipients, record, systemProgram, rfl, length, address, moved⟩ :=
    settle_settled settled
  have sum : (payouts.map UInt64.toNat).sum = amount.toNat := by rw [values, sum_payoutsOf valid]
  have positive : amount.toNat ≠ 0 := fun zero => valid.positive (UInt64.toNat_inj.mp zero)
  obtain ⟨payerNotRecord, payerOwner⟩ :=
    moved.payer (exists_nonzero_payout length (by rw [sum]; exact positive))
  have balance (x : Pubkey) := moved.paid x
  simp only [lamportsIn, paidTo_cons, totalPaid, List.map_cons, List.sum_cons, shortfallOf] at balance
  rw [← totalPaid, totalPaid_zip length, sum] at balance
  refine ⟨payer, authority, ns, recipients, record, systemProgram, payouts, rfl,
    splitShares_eq_ok.mpr ⟨valid, rfl, values⟩, length, address, fun x => ?_, fun everyone all => ?_,
    fun x other => ⟨(moved.other x other).2, (moved.other x other).1⟩, fun x owned => ?_⟩
  · have here := balance x
    rw [show settlementRecordSize = 41 from rfl] at here
    simp only [eq_comm (a := record.key)] at here
    split_ifs at here ⊢ <;> omega
  · refine moved.paid.sum_eq (all payer (by simp)) fun payout mem => ?_
    rcases List.mem_cons.mp mem with rfl | paid
    · exact all record (by simp)
    · obtain ⟨recipient, mem', rfl⟩ := List.mem_map.mp paid
      exact all _ (by simp [(List.of_mem_zip mem').1])
  · by_cases isRecord : x = record.key
    · -- the record is neither the payer nor a recipient
      subst isRecord
      have unpaid : paidTo (payoutsTo (recipients.zip payouts)) record.key = 0 := by
        refine paidTo_eq_zero fun payout mem => ?_
        obtain ⟨recipient, mem', rfl⟩ := List.mem_map.mp mem
        exact (moved.outside recipient mem').1
      have here := balance record.key
      rw [if_neg payerNotRecord.symm, if_pos rfl, unpaid] at here
      rw [if_pos rfl]
      exact here
    · rw [if_neg isRecord, Nat.add_zero]
      have before : (state x).owner = D.programId :=
        owned.elim id fun after => (moved.other x isRecord).1.symm.trans after
      refine moved.paid.eq_of_not_mem ?_ fun payout mem => ?_
      · rintro rfl
        exact D.notSystem (before.symm.trans payerOwner)
      · rcases List.mem_cons.mp mem with rfl | paid
        · exact fun same => isRecord same.symm
        · obtain ⟨recipient, mem', rfl⟩ := List.mem_map.mp paid
          rintro rfl
          exact (moved.outside recipient mem').2 before

/-- A settlement that names one recipient twice and pays its own payer too. -/
def sampleSharedSettlement : List AccountInfo :=
  [⟨samplePayer, true, true⟩, ⟨sampleAuthority, true, false⟩, ⟨sampleNamespace, false, false⟩,
    ⟨sampleRecipient, false, true⟩, ⟨samplePayer, true, true⟩, ⟨sampleRecipient, false, true⟩,
    ⟨(settlementPda sampleDeployment.addresses sampleDeployment.programId sampleNamespace
      (Bytes32.fill 4)).1, false, true⟩, ⟨systemProgramId, false, false⟩]

/-- It executes, and moves lamports only among the accounts it names. -/
theorem settleN_moves_exactly_the_split_sample :
    ∃ m, processInstruction sampleDeployment sampleSharedSettlement
        (SettlementInstruction.settleN (Bytes32.fill 4) 1001 [3333, 3333, 3334]).pack
        sampleState.accounts = .ok m ∧
      (m.accounts sampleRecipient).lamports = 668 ∧
      ∑ x ∈ (sampleSharedSettlement.map (·.key)).toFinset, (m.accounts x).lamports =
        ∑ x ∈ (sampleSharedSettlement.map (·.key)).toFinset, (sampleState.accounts x).lamports := by
  have executes : (processInstruction sampleDeployment sampleSharedSettlement
      (SettlementInstruction.settleN (Bytes32.fill 4) 1001 [3333, 3333, 3334]).pack
      sampleState.accounts).toOption.map (fun m => (m.accounts sampleRecipient).lamports) =
        some 668 := by decide +kernel
  cases ran : processInstruction sampleDeployment sampleSharedSettlement
      (SettlementInstruction.settleN (Bytes32.fill 4) 1001 [3333, 3333, 3334]).pack
      sampleState.accounts with
  | error fault =>
      rw [ran] at executes
      cases executes
  | ok m =>
      rw [ran] at executes
      obtain ⟨_, _, _, _, _, _, _, _, _, _, _, _, conserved, _⟩ :=
        settleN_moves_exactly_the_split (SettlementInstruction.unpack_pack (by decide)) ran
      refine ⟨m, rfl, Option.some.inj executes, conserved _ fun account mem => ?_⟩
      exact List.mem_toFinset.mpr (List.mem_map_of_mem mem)

end Synxed.Program
