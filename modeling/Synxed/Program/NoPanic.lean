import Synxed.Program.Checked
import Synxed.Program.Effects

/-!
The settlement program never panics.

* `processInstruction_does`: with nothing borrowed, the program with everything
  that could panic in it does what `processInstruction` says. So no operation
  overflows, no address search fails and no borrow is refused, in any run.
* `processInstruction_calm`: `processInstruction` never slices, indexes or copies
  out of range.
* `never_panics`: so every run returns, and leaves nothing borrowed.
-/

namespace Synxed.Program.Checked

open Synxed.Lib Synxed.Lib.Checked

/-! ### Decoding -/

section Plain

variable {α β : Type}

theorem plain_ok (a : α) : plain (.ok a) = .ok a := rfl

theorem plain_bind (x : Except Fault α) (f : α → Except Fault β) :
    plain (x >>= f) = plain x >>= fun a => plain (f a) := mapError_bind ..

theorem plain_ensure (c : Prop) [Decidable c] (error : ProgramError) :
    plain (ensure c (.program error)) = ensure c (.error error) := mapError_ensure ..

theorem plain_ite (c : Prop) [Decidable c] (x y : Except Fault α) :
    plain (if c then x else y) = if c then plain x else plain y := by
  split <;> rfl

theorem elementAt_eq (xs : List α) (i : Nat) : elementAt xs i = plain (indexAt xs i) := by
  unfold elementAt indexAt
  cases xs[i]? <;> rfl

end Plain

/-- Shares are read at offsets that fit. -/
theorem readBpsFrom_eq {bytes : Bytes} {remaining i : Nat}
    (fits : 2 * (i + remaining) < 2 ^ 64) :
    readBpsFrom bytes i remaining = plain (Program.readBpsFrom bytes i remaining) := by
  induction remaining generalizing i with
  | zero => rfl
  | succ remaining ih =>
      have start : (checkedMul 64 2 i : Except (Stop ProgramError) Nat) = .ok (2 * i) :=
        checkedMul_of_fits (by omega)
      have stop : (checkedAdd 64 (2 * i) 2 : Except (Stop ProgramError) Nat) = .ok (2 * i + 2) :=
        checkedAdd_of_fits (by omega)
      rw [readBpsFrom, start, ok_bind, stop, ok_bind, Program.readBpsFrom, plain_bind]
      refine congrArg _ (funext fun two => ?_)
      rw [plain_bind, plain_ensure, plain_bind, ih (by omega)]
      rfl

theorem readBps_eq {bytes : Bytes} {count : Nat} (fits : 2 * count < 2 ^ 64) :
    readBps bytes count = plain (Program.readBps bytes count) :=
  readBpsFrom_eq (by rwa [Nat.zero_add])

/-- The two checks of a share count are one. -/
theorem checkCount_eq {header count length : Nat} (fits : header + 2 * count < 2 ^ 64) :
    checkCount header count length =
      plain (ensure (¬ (count = 0 ∨ count > maxShares ∨ length ≠ header + 2 * count))
        (.program .invalidInstructionData)) := by
  have product : (checkedMul 64 2 count : Except (Stop ProgramError) Nat) = .ok (2 * count) :=
    checkedMul_of_fits (by omega)
  have sum : (checkedAdd 64 header (2 * count) : Except (Stop ProgramError) Nat) =
      .ok (header + 2 * count) := checkedAdd_of_fits fits
  rw [checkCount, payloadLen, product, ok_bind, sum, ok_bind, plain_ensure]
  by_cases counted : count = 0 ∨ count > maxShares
  · rw [ensure_bind_of_neg (not_not.mpr counted), ensure, if_neg]
    rcases counted with zero | many
    · exact not_not.mpr (.inl zero)
    · exact not_not.mpr (.inr (.inl many))
  · rw [ensure_bind_of_pos counted]
    unfold ensure
    refine if_congr ?_ rfl rfl
    rw [not_or] at counted
    simp [counted]

/-- Decoding overflows nowhere. -/
theorem unpack_eq (data : Bytes) : unpack data = plain (SettlementInstruction.unpack data) := by
  have small (count : UInt8) : count.toNat < 256 := count.toNat_lt
  have native (count : UInt8) (length : Nat) : checkCount settleNHeaderLen count.toNat length =
      plain (ensure (¬ (count.toNat = 0 ∨ count.toNat > maxShares ∨
        length ≠ settleNHeaderLen + 2 * count.toNat)) (.program .invalidInstructionData)) :=
    checkCount_eq (by have := small count; simp only [settleNHeaderLen]; omega)
  have token (count : UInt8) (length : Nat) : checkCount settleTokenNHeaderLen count.toNat length =
      plain (ensure (¬ (count.toNat = 0 ∨ count.toNat > maxShares ∨
        length ≠ settleTokenNHeaderLen + 2 * count.toNat)) (.program .invalidInstructionData)) :=
    checkCount_eq (by have := small count; simp only [settleTokenNHeaderLen]; omega)
  have shares (bytes : Bytes) (count : UInt8) :
      readBps bytes count.toNat = plain (Program.readBps bytes count.toNat) :=
    readBps_eq (by have := small count; omega)
  cases data with
  | nil => rfl
  | cons tag rest =>
      unfold unpack SettlementInstruction.unpack
      simp only [plain_ite, plain_bind, native, token, shares, elementAt_eq, plain_ensure, plain_ok]
      rfl

/-! ### Splitting -/

theorem sumBps_eq {sum : Nat} {bps : List UInt16} (fits : sum + 65536 * bps.length < 2 ^ 32) :
    sumBps sum bps = (Program.sumBps sum bps).mapError .error := by
  induction bps generalizing sum with
  | nil => rfl
  | cons share rest ih =>
      rw [List.length_cons] at fits
      have small : share.toNat < 65536 := share.toNat_lt
      have next : (checkedAdd 32 sum share.toNat : Except (Stop SplitError) Nat) =
          .ok (sum + share.toNat) := checkedAdd_of_fits (by omega)
      rw [sumBps, Program.sumBps, next, ok_bind, ih (by omega)]
      by_cases inRange : share.toNat ≤ bpsDenominator
      · rw [ensure_bind_of_pos inRange, ensure_bind_of_pos inRange]
      · rw [ensure_bind_of_neg inRange, ensure_bind_of_neg inRange]
        rfl

/-- The output slice is filled share by share. -/
theorem splitFrom_eq {amount : UInt64} {bps : List UInt16} {remaining i : Nat} {allocated : UInt64}
    {out : List UInt64} (rest : i + remaining = bps.length) (same : out.length = bps.length)
    (fits : bps.length < 2 ^ 64) :
    splitFrom amount bps remaining i allocated out =
      ((Program.splitLoop amount allocated (bps.drop i)).map (out.take i ++ ·)).mapError .error := by
  induction remaining generalizing i allocated out with
  | zero =>
      rw [List.drop_eq_nil_of_le (by omega), List.take_of_length_le (by omega), splitFrom,
        Program.splitLoop]
      simp [Except.map, Except.mapError]
  | succ remaining ih =>
      have inside : i < out.length := by omega
      have next : (checkedAdd 64 i 1 : Except (Stop SplitError) Nat) = .ok (i + 1) :=
        checkedAdd_of_fits (by omega)
      have share : bps.drop i = bps[i] :: bps.drop (i + 1) := List.drop_eq_getElem_cons (by omega)
      rw [splitFrom, next, ok_bind, share]
      by_cases last : i + 1 = bps.length
      · rw [if_pos last, List.drop_eq_nil_of_le last.ge, Program.splitLoop]
        cases checkedSub64 amount allocated with
        | none => rfl
        | some value =>
            obtain rfl : remaining = 0 := by omega
            have filled : out.set i value = out.take i ++ [value] := by
              rw [← take_set_succ inside, List.take_of_length_le (by rw [List.length_set]; omega)]
            change (assignAt out i value >>= fun out => splitFrom amount bps 0 (i + 1) allocated out) = _
            rw [assignAt_of_inside inside, ok_bind, filled]
            rfl
      · rw [if_neg last, elementAt_of_some (List.getElem?_eq_getElem (by omega)), ok_bind]
        dsimp only
        set paid := UInt64.ofNat (saturatingMul128 amount.toNat bps[i].toNat / bpsDenominator)
        have written : (out.set i paid)[i]? = some paid := by simp [inside]
        rw [assignAt_of_inside inside, ok_bind, elementAt_of_some written, ok_bind,
          ih (by omega) (by rw [List.length_set, same]), take_set_succ inside]
        obtain ⟨following, later, more⟩ : ∃ following later, bps.drop (i + 1) = following :: later :=
          ⟨_, _, List.drop_eq_getElem_cons (by omega)⟩
        rw [more, Program.splitLoop]
        cases Program.splitLoop amount (saturatingAdd64 allocated paid) (following :: later) with
        | error error => rfl
        | ok tail =>
            change Except.ok (out.take i ++ [paid] ++ tail) = Except.ok (out.take i ++ (paid :: tail))
            rw [List.append_assoc]
            rfl

theorem splitShares_eq {amount : UInt64} {bps : List UInt16} {out : List UInt64} :
    splitShares amount bps out =
      (Program.splitShares amount bps out.length).mapError .error := by
  unfold splitShares Program.splitShares
  by_cases counted : bps.length ≠ 0 ∧ bps.length ≤ maxShares ∧ out.length = bps.length
  · have few : bps.length ≤ 8 := counted.2.1
    rw [ensure_bind_of_pos counted, ensure_bind_of_pos counted, sumBps_eq (by omega),
      splitFrom_eq (by omega) counted.2.2 (by omega), List.drop_zero]
    simp only [mapError_bind, mapError_ensure, List.take_zero, List.nil_append]
    cases Program.splitLoop amount 0 bps <;> rfl
  · rw [ensure_bind_of_neg counted, ensure_bind_of_neg counted]
    rfl

/-- Splitting overflows nowhere and stays in the eight payouts. -/
theorem splitPayouts_eq (amount : UInt64) (bps : List UInt16) :
    splitPayouts amount bps = plain (Program.splitPayouts amount bps) := by
  unfold splitPayouts Program.splitPayouts
  by_cases counted : ¬ (bps.length = 0 ∨ bps.length > maxShares)
  · have few : bps.length ≤ 8 := by
      rw [not_or, not_lt] at counted
      exact counted.2
    have room : bps.length ≤ (List.replicate maxShares (0 : UInt64)).length := by
      rw [List.length_replicate]
      exact few
    dsimp only
    rw [ensure_bind_of_pos counted, ensure_bind_of_pos counted,
      sliceOf_of_inside (Nat.zero_le _) room, ok_bind, List.drop_zero, splitShares_eq,
      List.length_take_of_le room]
    cases split : Program.splitShares amount bps bps.length with
    | error error => rfl
    | ok payouts =>
        obtain ⟨_, _, same⟩ := splitShares_eq_ok.mp split
        have length : payouts.length = bps.length := by
          rw [← List.length_map UInt64.toNat, same, length_payoutsOf]
        change sliceOf (payouts ++ _) 0 bps.length = .ok payouts
        rw [sliceOf_of_inside (Nat.zero_le _) (by rw [List.length_append]; omega), List.drop_zero,
          ← length, List.take_left]
  · dsimp only
    rw [ensure_bind_of_neg counted, ensure_bind_of_neg counted]
    rfl

/-! ### Accounts -/

section Accounts

variable {D : Deployment} {m : Machine}

theorem reads_check {c : Prop} [Decidable c] {error : ProgramError} :
    Reads Fault.stop (check c error) (.idle m) (ensure c (.program error)) :=
  reads_ofOutcome (plain_ensure c error).symm

/-- A check of a value that was found before. -/
theorem reads_check_iff {c c' : Prop} [Decidable c] [Decidable c'] {error : ProgramError}
    (same : c ↔ c') : Reads Fault.stop (check c error) (.idle m) (ensure c' (.program error)) := by
  have equal : (ensure c' (.program error) : Except Fault Unit) = ensure c (.program error) :=
    if_congr same.symm rfl rfl
  rw [equal]
  exact reads_check

theorem reads_ownerOf {account : AccountInfo} :
    Reads Fault.stop (ownerOf account) (.idle m) (.ok (m.accounts account.key).owner) := rfl

theorem reads_readData {α : Type} {account : AccountInfo} {read : Bytes → Except Fault α} :
    Reads Fault.stop (readData account read) (.idle m) (read (m.accounts account.key).data) :=
  reads_reading Bool.false_ne_true (reads_view.skip (reads_ofOutcome rfl))

theorem does_writeData {account : AccountInfo} {write : Bytes → Except Fault Bytes} :
    Does Fault.stop (writeData account write) (.idle m)
      (write (m.accounts account.key).data >>= fun data => .ok (m.write account.key data)) :=
  does_writing rfl (reads_view.skipBefore (Reads.before (reads_ofOutcome rfl)
    fun _ _ => does_act rfl))

theorem reads_dataIsEmpty {account : AccountInfo} :
    Reads Fault.stop (dataIsEmpty account) (.idle m)
      (.ok (m.accounts account.key).data.isEmpty) :=
  reads_reading Bool.false_ne_true (reads_view.skip reads_pure)

theorem reads_lamportsOf {account : AccountInfo} :
    Reads Fault.stop (lamportsOf account) (.idle m) (.ok (m.accounts account.key).lamports) :=
  reads_reading Bool.false_ne_true reads_view

/-- With nothing borrowed, everything can be passed on. -/
theorem does_tryBorrow (passed : Meta) : Does Fault.stop (tryBorrow passed) (.idle m) (.ok m) := by
  have read (cell : Cell) : Reads Fault.stop (reading cell (pure ()) : Code Unit) (.idle m) (.ok ()) :=
    reads_reading Bool.false_ne_true reads_pure
  unfold tryBorrow
  split
  · exact (does_writing rfl does_pure).skip (does_writing rfl does_pure)
  · exact (read (.lamports passed.key)).skipBefore (read (.data passed.key))

theorem does_tryBorrowAll (passed : List Meta) :
    Does Fault.stop (tryBorrowAll passed) (.idle m) (.ok m) := by
  induction passed with
  | nil => exact does_pure
  | cons first rest ih =>
      exact (does_tryBorrow first).skip ih

/-- Nothing is borrowed during an invocation. -/
theorem does_invoke {passed : List Meta} {call : Machine → Except Fault Machine} :
    Does Fault.stop (invoke passed call) (.idle m) (call m) :=
  (does_tryBorrowAll passed).skip (does_act rfl)

theorem reads_findProgramAddress {seeds : List Bytes} (few : seeds.length < 16)
    (short : ∀ seed ∈ seeds, seed.length ≤ 32) :
    Reads Fault.stop (ofOutcome (findProgramAddress D seeds) : Code (Pubkey × UInt8)) (.idle m)
      (.ok (D.addresses.find D.programId seeds)) :=
  reads_ofOutcome (if_pos ⟨few, short⟩)

theorem reads_namespacePda {creator : Pubkey} {namespaceId : Bytes32} :
    Reads Fault.stop (ofOutcome (findProgramAddress D (namespaceSeeds creator namespaceId)) :
      Code (Pubkey × UInt8)) (.idle m)
        (.ok (namespacePda D.addresses D.programId creator namespaceId)) :=
  reads_findProgramAddress (by simp [namespaceSeeds])
    (by simp [namespaceSeeds, namespaceSeed, creator.property, namespaceId.property])

theorem reads_settlementPda {ns : Pubkey} {eventId : Bytes32} :
    Reads Fault.stop (ofOutcome (findProgramAddress D (settlementSeeds ns eventId)) :
      Code (Pubkey × UInt8)) (.idle m) (.ok (settlementPda D.addresses D.programId ns eventId)) :=
  reads_findProgramAddress (by simp [settlementSeeds])
    (by simp [settlementSeeds, settlementSeed, ns.property, eventId.property])

/-! ### Instructions -/

theorem reads_authorize {authority ns : AccountInfo} :
    Reads Fault.stop (authorize D authority ns) (.idle m) (Program.authorize D authority ns m) := by
  unfold authorize Program.authorize
  refine reads_check.bind fun _ _ => ?_
  refine reads_ownerOf.skip (reads_check.bind fun _ _ => ?_)
  exact reads_readData.bind fun _ _ => reads_check

theorem reads_isInitialized {account : AccountInfo} :
    Reads Fault.stop (isInitialized D account) (.idle m) (.ok (decide
      ((m.accounts account.key).owner = D.programId ∨ (m.accounts account.key).data ≠ []))) := by
  unfold isInitialized
  refine reads_ownerOf.skip ?_
  split
  · next owned => simp only [owned, true_or, decide_true, reads_pure]
  · next other =>
    have nonempty : decide ((m.accounts account.key).owner = D.programId ∨
        (m.accounts account.key).data ≠ []) = !(m.accounts account.key).data.isEmpty := by
      cases (m.accounts account.key).data <;> simp [other]
    rw [nonempty]
    exact reads_dataIsEmpty.skip reads_pure

theorem does_topUp {payer account : AccountInfo} {shortfall : Nat} :
    Does Fault.stop (topUp payer account shortfall) (.idle m)
      (Program.topUp payer account shortfall m) := by
  unfold topUp Program.topUp
  split
  · exact does_invoke
  · exact does_pure

theorem does_createProgramAccount {payer account systemProgram : AccountInfo} {seeds : List Bytes}
    {size : Nat} :
    Does Fault.stop (createProgramAccount D payer account systemProgram seeds size) (.idle m)
      (Program.createProgramAccount D payer account systemProgram seeds size m) := by
  unfold createProgramAccount Program.createProgramAccount
  refine reads_check.before fun _ _ => ?_
  refine reads_check.before fun _ _ => ?_
  refine reads_check.before fun _ _ => ?_
  refine reads_isInitialized.skipBefore ?_
  refine (reads_check_iff (not_congr decide_eq_true_iff)).before fun _ _ => ?_
  refine reads_ownerOf.skipBefore (reads_check.before fun _ _ => ?_)
  refine reads_lamportsOf.skipBefore (does_topUp.bind fun _ _ => ?_)
  exact does_invoke.bind fun _ _ => does_invoke

theorem does_createNamespace {accounts : List AccountInfo} {namespaceId : Bytes32}
    {authority : Pubkey} :
    Does Fault.stop (createNamespace D accounts namespaceId authority) (.idle m)
      (Program.createNamespace D accounts namespaceId authority m) := by
  unfold createNamespace
  split
  · unfold Program.createNamespace
    refine reads_check.before fun _ _ => ?_
    refine reads_check.before fun _ _ => ?_
    refine reads_namespacePda.skipBefore (reads_check.before fun _ _ => ?_)
    exact does_createProgramAccount.bind fun _ _ => does_writeData
  · next other =>
    unfold Program.createNamespace
    split
    · exact (other _ _ _ _ rfl).elim
    · rfl

theorem does_setNamespaceAuthority {accounts : List AccountInfo} {newAuthority : Pubkey} :
    Does Fault.stop (setNamespaceAuthority D accounts newAuthority) (.idle m)
      (Program.setNamespaceAuthority D accounts newAuthority m) := by
  unfold setNamespaceAuthority
  split
  · unfold Program.setNamespaceAuthority
    refine reads_check.before fun _ _ => ?_
    refine reads_authorize.before fun _ _ => ?_
    refine reads_check.before fun _ _ => ?_
    exact reads_check.before fun _ _ => does_writeData
  · next other =>
    unfold Program.setNamespaceAuthority
    split
    · exact (other _ _ _ rfl).elim
    · rfl

theorem does_createRecord {payer record systemProgram : AccountInfo} {ns : Pubkey}
    {eventId : Bytes32} {amount : UInt64} :
    Does Fault.stop (createRecord D payer ns record systemProgram eventId amount) (.idle m)
      (Program.createRecord D payer ns record systemProgram eventId amount m) := by
  unfold createRecord Program.createRecord
  refine reads_settlementPda.skipBefore (reads_check.before fun _ _ => ?_)
  exact does_createProgramAccount.bind fun _ _ => does_writeData

theorem does_transfer {source destination : AccountInfo} {lamports : UInt64} :
    Does Fault.stop (transfer source destination lamports) (.idle m)
      (Program.transfer source destination lamports m) := by
  unfold transfer Program.transfer
  split
  · exact does_pure
  · exact does_invoke

theorem does_payRecipients {payer : AccountInfo} {payouts : List (AccountInfo × UInt64)} :
    Does Fault.stop (payRecipients payer payouts) (.idle m)
      (Program.payRecipients payer payouts m) := by
  induction payouts generalizing m with
  | nil => exact does_pure
  | cons first rest ih => exact does_transfer.bind fun _ _ => ih

theorem reads_elementAt {accounts : List AccountInfo} {i : Nat} :
    Reads Fault.stop (ofOutcome (elementAt accounts i) : Code AccountInfo) (.idle m)
      (indexAt accounts i) :=
  reads_ofOutcome (elementAt_eq accounts i)

/-- An index that is a sum. -/
theorem reads_elementAt_add {accounts : List AccountInfo} {i j : Nat} (fits : i + j < 2 ^ 64) :
    Reads Fault.stop (ofOutcome (checkedAdd 64 i j >>= elementAt accounts) : Code AccountInfo)
      (.idle m) (indexAt accounts (i + j)) := by
  rw [checkedAdd_of_fits fits, ok_bind]
  exact reads_elementAt

/-- The recipients stand in the account list. -/
theorem reads_recipients {accounts : List AccountInfo} {front count : Nat}
    (inside : front + count ≤ accounts.length) (fits : front + count < 2 ^ 64) :
    Reads Fault.stop (ofOutcome (checkedAdd 64 front count >>= sliceOf accounts front) :
      Code (List AccountInfo)) (.idle m) (.ok ((accounts.drop front).take count)) := by
  rw [checkedAdd_of_fits fits, ok_bind, sliceOf_of_inside (Nat.le_add_right _ _) inside,
    List.drop_take, Nat.add_sub_cancel_left]
  exact reads_ofOutcome rfl

theorem does_settle {accounts : List AccountInfo} {eventId : Bytes32} {amount : UInt64}
    {payouts : List UInt64} (few : payouts.length ≤ maxShares) :
    Does Fault.stop (settle D accounts eventId amount payouts) (.idle m)
      (Program.settle D accounts eventId amount payouts m) := by
  have small : payouts.length ≤ 8 := few
  have needed : (checkedAdd 64 payouts.length 5 : Except (Stop ProgramError) Nat) =
      .ok (payouts.length + 5) := checkedAdd_of_fits (by omega)
  unfold settle Program.settle
  dsimp only
  rw [needed]
  refine Reads.skipBefore (reads_ofOutcome rfl) (reads_check.before fun _ length => ?_)
  have length := ensure_eq_ok.mp length
  refine reads_elementAt.before fun payer _ => ?_
  refine reads_elementAt.before fun authority _ => ?_
  refine reads_elementAt.before fun ns _ => ?_
  refine (reads_recipients (by omega) (by omega)).skipBefore ?_
  refine (reads_elementAt_add (by omega)).before fun record _ => ?_
  refine (reads_elementAt_add (by omega)).before fun systemProgram _ => ?_
  refine reads_authorize.before fun _ _ => ?_
  refine reads_check.before fun _ _ => ?_
  refine reads_view.skipBefore ((reads_check_iff ?_).before fun _ _ => ?_)
  · rw [List.any_eq_true]
    constructor
    · exact fun none recipient mem bad => none ⟨recipient, mem, decide_eq_true bad⟩
    · rintro all ⟨recipient, mem, found⟩
      exact all recipient mem (of_decide_eq_true found)
  · exact does_createRecord.bind fun _ _ => does_payRecipients

theorem reads_checkDestinations {source record mint : AccountInfo} {recipients : List AccountInfo} :
    Reads Fault.stop (checkDestinations source record mint recipients) (.idle m)
      (Program.checkDestinations source record mint m recipients) := by
  induction recipients with
  | nil => exact reads_pure
  | cons recipient rest ih =>
      refine reads_check.bind fun _ _ => ?_
      exact reads_readData.bind fun _ _ => reads_check.bind fun _ _ => ih

theorem does_payDestinations {source mint authority tokenProgram : AccountInfo} {decimals : UInt8}
    (classic : tokenProgram.key = tokenProgramId) {payouts : List (AccountInfo × UInt64)} :
    Does Fault.stop (payDestinations source mint authority tokenProgram decimals payouts) (.idle m)
      (Program.payDestinations source mint authority decimals payouts m) := by
  induction payouts generalizing m with
  | nil => exact does_pure
  | cons first rest ih =>
      have paid : Does Fault.stop
          (payDestination source mint authority tokenProgram first.1 first.2 decimals) (.idle m)
          (Program.payDestination source mint authority first.1 first.2 decimals m) := by
        unfold payDestination Program.payDestination
        split
        · exact does_pure
        · have known : Reads Fault.stop (check (tokenProgram.key = tokenProgramId)
              .incorrectProgramId) (.idle m) (.ok ()) := by
            rw [check, ensure, if_pos classic]
            rfl
          exact known.skipBefore does_invoke
      exact paid.bind fun _ _ => ih

theorem does_settleToken {accounts : List AccountInfo} {eventId : Bytes32} {amount : UInt64}
    {decimals : UInt8} {payouts : List UInt64} (few : payouts.length ≤ maxShares) :
    Does Fault.stop (settleToken D accounts eventId amount decimals payouts) (.idle m)
      (Program.settleToken D accounts eventId amount decimals payouts m) := by
  have small : payouts.length ≤ 8 := few
  have needed : (checkedAdd 64 payouts.length 8 : Except (Stop ProgramError) Nat) =
      .ok (payouts.length + 8) := checkedAdd_of_fits (by omega)
  unfold settleToken Program.settleToken
  dsimp only
  rw [needed]
  refine Reads.skipBefore (reads_ofOutcome rfl) (reads_check.before fun _ length => ?_)
  have length := ensure_eq_ok.mp length
  refine reads_elementAt.before fun payer _ => ?_
  refine reads_elementAt.before fun authority _ => ?_
  refine reads_elementAt.before fun ns _ => ?_
  refine reads_elementAt.before fun source _ => ?_
  refine (reads_recipients (by omega) (by omega)).skipBefore ?_
  refine (reads_elementAt_add (by omega)).before fun mint _ => ?_
  refine (reads_elementAt_add (by omega)).before fun record _ => ?_
  refine (reads_elementAt_add (by omega)).before fun systemProgram _ => ?_
  refine (reads_elementAt_add (by omega)).before fun tokenProgram _ => ?_
  refine reads_check.before fun _ classic => ?_
  have classic := ensure_eq_ok.mp classic
  refine reads_authorize.before fun _ _ => ?_
  refine reads_check.before fun _ _ => ?_
  refine reads_view.skipBefore ((reads_check_iff decide_eq_true_iff).before fun _ _ => ?_)
  refine reads_readData.before fun mintState _ => reads_check.before fun _ _ => ?_
  refine reads_readData.before fun sourceState _ => reads_check.before fun _ _ => ?_
  refine reads_checkDestinations.before fun _ _ => ?_
  exact does_createRecord.bind fun _ _ => does_payDestinations classic

/-- **Nothing but bounds.** The program with everything that could panic in it
does what `processInstruction` says, and leaves nothing borrowed. -/
theorem processInstruction_does (accounts : List AccountInfo) (data : Bytes) (state : Accounts) :
    Does Fault.stop (processInstruction D accounts data) (.idle ⟨state, []⟩)
      (Program.processInstruction D accounts data state) := by
  unfold processInstruction Program.processInstruction
  refine (reads_ofOutcome (unpack_eq data)).before fun v decoded => ?_
  have split (amount : UInt64) (bps : List UInt16) : Reads Fault.stop
      (ofOutcome (splitPayouts amount bps) : Code (List UInt64)) (.idle ⟨state, []⟩)
        (Program.splitPayouts amount bps) := reads_ofOutcome (splitPayouts_eq amount bps)
  have few {amount : UInt64} {bps : List UInt16} {payouts : List UInt64}
      (made : Program.splitPayouts amount bps = .ok payouts) : payouts.length ≤ maxShares := by
    obtain ⟨valid, same⟩ := splitPayouts_eq_ok.mp made
    rw [← List.length_map UInt64.toNat, same, length_payoutsOf]
    exact valid.count.2
  cases v with
  | createNamespace namespaceId authority => exact does_createNamespace
  | setNamespaceAuthority newAuthority => exact does_setNamespaceAuthority
  | settleN eventId amount bps => exact (split amount bps).before fun _ made => does_settle (few made)
  | settleTokenN eventId amount decimals bps =>
      exact (split amount bps).before fun _ made => does_settleToken (few made)

end Accounts

end Synxed.Program.Checked

namespace Synxed.Program

open Synxed.Lib

/-! ### Nothing is out of range -/

/-- The outcome is no panic. -/
def Calm {α : Type} (outcome : Except Fault α) : Prop := outcome ≠ .error .panic

section Calm

variable {α β : Type}

theorem calm_ok (a : α) : Calm (.ok a) := nofun

theorem calm_program (error : ProgramError) : Calm (.error (.program error) : Except Fault α) := nofun

theorem calm_ensure {c : Prop} [Decidable c] {error : ProgramError} :
    Calm (ensure c (.program error)) := fun panics => nomatch (ensure_eq_error.mp panics).2

theorem calm_ensure_invoke {c : Prop} [Decidable c] : Calm (ensure c Fault.invoke) :=
  fun panics => nomatch (ensure_eq_error.mp panics).2

theorem Calm.bind {x : Except Fault α} {f : α → Except Fault β} (first : Calm x)
    (rest : ∀ a, x = .ok a → Calm (f a)) : Calm (x >>= f) := by
  intro panics
  rcases bind_eq_error.mp panics with here | ⟨a, found, later⟩
  · exact first here
  · exact rest a found later

theorem calm_indexAt {xs : List α} {i : Nat} (inside : i < xs.length) : Calm (indexAt xs i) := by
  rw [indexAt_eq_ok.mpr (List.getElem?_eq_getElem inside)]
  exact calm_ok _

/-- A slice inside its bytes has its length. -/
theorem calm_sliceAt {data : Bytes} {lo hi : Nat} (order : lo ≤ hi) (inside : hi ≤ data.length) :
    Calm (sliceAt data lo hi) := by
  rw [sliceAt_eq_ok.mpr (slice_eq_some.mpr ⟨⟨order, inside⟩, rfl⟩)]
  exact calm_ok _

theorem length_of_sliceAt {data out : Bytes} {lo hi : Nat} (cut : sliceAt data lo hi = .ok out) :
    out.length = hi - lo := length_of_slice (sliceAt_eq_ok.mp cut)

theorem calm_read32 {bytes : Bytes} (long : 32 ≤ bytes.length) : Calm (read32 bytes) := by
  have read : read32 bytes = .ok ⟨bytes.take 32, by simpa using long⟩ :=
    read32_eq_ok.mpr ⟨long, rfl⟩
  rw [read]
  exact calm_ok _

theorem calm_readU64 (bytes : Bytes) : Calm (readU64 bytes) :=
  calm_ensure.bind fun _ _ => calm_ok _

theorem calm_copyInto {data src : Bytes} {lo hi : Nat} (order : lo ≤ hi) (inside : hi ≤ data.length)
    (fills : src.length = hi - lo) : Calm (copyInto data lo hi src) := by
  rw [copyInto_eq_ok.mpr (copySlice_eq_some.mpr ⟨⟨order, inside, fills⟩, rfl⟩)]
  exact calm_ok _

end Calm

/-! ### Decoding and layouts -/

theorem calm_unpack (data : Bytes) : Calm (SettlementInstruction.unpack data) := by
  by_cases encoded : ∃ v : SettlementInstruction, v.WellFormed ∧ data = v.pack
  · obtain ⟨v, wellFormed, rfl⟩ := encoded
    rw [SettlementInstruction.unpack_eq_ok.mpr ⟨rfl, wellFormed⟩]
    exact calm_ok v
  · rw [SettlementInstruction.unpack_refuses fun v wellFormed same =>
      encoded ⟨v, wellFormed, same⟩]
    exact calm_program _

theorem calm_splitPayouts (amount : UInt64) (bps : List UInt16) : Calm (splitPayouts amount bps) := by
  refine calm_ensure.bind fun _ _ => ?_
  cases splitShares amount bps bps.length with
  | ok payouts => exact calm_ok payouts
  | error error => exact calm_program _

theorem calm_namespaceAuthority (data : Bytes) : Calm (namespaceAuthority data) := by
  refine calm_ensure.bind fun _ valid => ?_
  have length := (ensure_eq_ok.mp valid).1
  refine (calm_sliceAt (by decide) length.ge).bind fun out cut => ?_
  exact calm_read32 (by rw [length_of_sliceAt cut]; decide)

theorem calm_writeNamespace {data : Bytes} {bump : UInt8} {creator authority : Pubkey}
    {namespaceId : Bytes32} : Calm (writeNamespace data bump creator namespaceId authority) := by
  by_cases length : data.length = namespaceSize
  · rw [writeNamespace_eq_ok.mpr ⟨length, rfl⟩]
    exact calm_ok _
  · rw [writeNamespace, ensure_bind_of_neg length]
    exact calm_program _

theorem calm_unpackOption {α : Type} {read : Bytes → Except Fault α} {bytes : Bytes}
    (long : 4 ≤ bytes.length)
    (reads : ∀ body : Bytes, body.length = bytes.length - 4 → Calm (read body)) :
    Calm (unpackOption read bytes) := by
  refine (calm_sliceAt (Nat.zero_le _) long).bind fun tag _ => ?_
  refine (calm_sliceAt long le_rfl).bind fun body cut => ?_
  split
  · exact calm_ok none
  · split
    · exact (reads body (length_of_sliceAt cut)).bind fun _ _ => calm_ok _
    · exact calm_program _

/-- A key that may be missing, in 36 bytes. -/
theorem calm_unpackOption_read32 {bytes : Bytes} (length : bytes.length = 36) :
    Calm (unpackOption read32 bytes) :=
  calm_unpackOption (by omega) fun _ body => calm_read32 (by omega)

theorem calm_unpackMint (data : Bytes) : Calm (TokenMint.unpack data) := by
  refine calm_ensure.bind fun _ valid => ?_
  have length := ensure_eq_ok.mp valid
  refine (calm_sliceAt (by decide) (by omega)).bind fun out cut => ?_
  refine (calm_unpackOption_read32 (length_of_sliceAt cut)).bind fun _ _ => ?_
  refine (calm_indexAt (by omega)).bind fun _ _ => ?_
  refine (calm_indexAt (by omega)).bind fun _ _ => ?_
  refine calm_ensure.bind fun _ _ => ?_
  refine (calm_sliceAt (by decide) (by omega)).bind fun out cut => ?_
  refine (calm_unpackOption_read32 (length_of_sliceAt cut)).bind fun _ _ => ?_
  exact calm_ensure.bind fun _ _ => calm_ok _

theorem calm_unpackAccount (data : Bytes) : Calm (TokenAccount.unpack data) := by
  refine calm_ensure.bind fun _ valid => ?_
  have length := ensure_eq_ok.mp valid
  refine (calm_sliceAt (by decide) (by omega)).bind fun out cut => ?_
  refine (calm_read32 (length_of_sliceAt cut).ge).bind fun _ _ => ?_
  refine (calm_sliceAt (by decide) (by omega)).bind fun out cut => ?_
  refine (calm_read32 (length_of_sliceAt cut).ge).bind fun _ _ => ?_
  refine (calm_sliceAt (by decide) (by omega)).bind fun out _ => ?_
  refine (calm_readU64 out).bind fun _ _ => ?_
  refine (calm_sliceAt (by decide) (by omega)).bind fun out cut => ?_
  refine (calm_unpackOption_read32 (length_of_sliceAt cut)).bind fun _ _ => ?_
  refine (calm_indexAt (by omega)).bind fun _ _ => ?_
  refine calm_ensure.bind fun _ _ => ?_
  refine (calm_sliceAt (by decide) (by omega)).bind fun out cut => ?_
  have twelve := length_of_sliceAt cut
  refine (calm_unpackOption (by omega) fun body _ => calm_readU64 body).bind fun _ _ => ?_
  refine (calm_sliceAt (by decide) (by omega)).bind fun out _ => ?_
  refine (calm_readU64 out).bind fun _ _ => ?_
  refine (calm_sliceAt (by decide) (by omega)).bind fun out cut => ?_
  refine (calm_unpackOption_read32 (length_of_sliceAt cut)).bind fun _ _ => ?_
  exact calm_ensure.bind fun _ _ => calm_ok _

/-! ### Instructions -/

section Instructions

variable {D : Deployment} {m : Machine}

theorem calm_authorize {authority ns : AccountInfo} : Calm (authorize D authority ns m) := by
  refine calm_ensure.bind fun _ _ => ?_
  refine calm_ensure.bind fun _ _ => ?_
  exact (calm_namespaceAuthority _).bind fun _ _ => calm_ensure

theorem calm_systemTransfer {source destination : AccountInfo} {lamports : Nat} :
    Calm (systemTransfer source destination lamports m) := by
  refine calm_ensure_invoke.bind fun _ _ => ?_
  refine calm_ensure_invoke.bind fun _ _ => ?_
  exact calm_ensure_invoke.bind fun _ _ => calm_ok _

theorem calm_invoking {α : Type} {x : Except Fault α} : Calm (invoking x) := by
  cases x <;> exact nofun

theorem calm_tokenTransferChecked {source mint destination authority : AccountInfo}
    {amount : UInt64} {decimals : UInt8} :
    Calm (tokenTransferChecked source mint destination authority amount decimals m) := by
  refine calm_ensure_invoke.bind fun _ _ => ?_
  refine calm_ensure_invoke.bind fun _ _ => ?_
  refine calm_invoking.bind fun _ _ => calm_invoking.bind fun _ _ => ?_
  refine calm_ensure_invoke.bind fun _ _ => ?_
  refine calm_ensure_invoke.bind fun _ _ => ?_
  refine calm_ensure_invoke.bind fun _ _ => calm_invoking.bind fun _ _ => ?_
  refine calm_ensure_invoke.bind fun _ _ => ?_
  refine calm_ensure_invoke.bind fun _ _ => ?_
  refine calm_ensure_invoke.bind fun _ _ => ?_
  refine calm_ensure_invoke.bind fun _ _ => ?_
  split
  · exact calm_ok _
  · refine calm_ensure_invoke.bind fun _ _ => ?_
    exact calm_ensure_invoke.bind fun _ _ => calm_ok _

theorem calm_createProgramAccount {payer account systemProgram : AccountInfo} {seeds : List Bytes}
    {size : Nat} : Calm (createProgramAccount D payer account systemProgram seeds size m) := by
  refine calm_ensure.bind fun _ _ => ?_
  refine calm_ensure.bind fun _ _ => ?_
  refine calm_ensure.bind fun _ _ => ?_
  refine calm_ensure.bind fun _ _ => ?_
  refine calm_ensure.bind fun _ _ => ?_
  have funded {shortfall : Nat} : Calm (topUp payer account shortfall m) := by
    unfold topUp
    split
    · exact calm_systemTransfer
    · exact calm_ok m
  refine funded.bind fun m _ => ?_
  have allocated : Calm (systemAllocate D account size seeds m) :=
    calm_ensure_invoke.bind fun _ _ => calm_ensure_invoke.bind fun _ _ => calm_ok _
  refine allocated.bind fun m _ => ?_
  exact calm_ensure_invoke.bind fun _ _ => calm_ensure_invoke.bind fun _ _ => calm_ok _

theorem calm_createNamespace {accounts : List AccountInfo} {namespaceId : Bytes32}
    {authority : Pubkey} : Calm (createNamespace D accounts namespaceId authority m) := by
  unfold createNamespace
  split
  · refine calm_ensure.bind fun _ _ => ?_
    refine calm_ensure.bind fun _ _ => ?_
    refine calm_ensure.bind fun _ _ => ?_
    refine calm_createProgramAccount.bind fun m _ => ?_
    exact calm_writeNamespace.bind fun _ _ => calm_ok _
  · exact calm_program _

/-- The authority is copied over the last 32 bytes of a namespace. -/
theorem calm_setNamespaceAuthority {accounts : List AccountInfo} {newAuthority : Pubkey} :
    Calm (setNamespaceAuthority D accounts newAuthority m) := by
  unfold setNamespaceAuthority
  split
  · refine calm_ensure.bind fun _ _ => ?_
    refine calm_authorize.bind fun _ authorized => ?_
    refine calm_ensure.bind fun _ _ => ?_
    refine calm_ensure.bind fun _ _ => ?_
    have current := (authorize_eq_ok.mp authorized).2.2
    have length := (namespaceAuthority_eq_ok.mp current).1.1
    refine (calm_copyInto (by decide) length.ge ?_).bind fun _ _ => calm_ok _
    rw [newAuthority.property]
    rfl
  · exact calm_program _

/-- The record is written over the 41 bytes just allocated. -/
theorem calm_createRecord {payer record systemProgram : AccountInfo} {ns : Pubkey}
    {eventId : Bytes32} {amount : UInt64} :
    Calm (createRecord D payer ns record systemProgram eventId amount m) := by
  refine calm_ensure.bind fun _ address => ?_
  refine calm_createProgramAccount.bind fun m' made => ?_
  have derived : D.addresses.create D.programId (settlementSeeds ns eventId ++
      [[(settlementPda D.addresses D.programId ns eventId).2]]) = some record.key := by
    rw [ensure_eq_ok.mp address]
    exact D.addresses.create_find _ _
  obtain ⟨_, _, _, rfl⟩ := (createProgramAccount_eq_ok derived).mp made
  have fresh : (created D m.accounts payer.key record.key
      (shortfallOf D m.accounts record.key settlementRecordSize)
      (List.replicate settlementRecordSize 0) record.key).data =
        List.replicate settlementRecordSize 0 := by
    simp [created]
  rw [fresh, writeRecord_replicate]
  exact calm_ok _

theorem calm_payRecipients {payer : AccountInfo} {payouts : List (AccountInfo × UInt64)} :
    Calm (payRecipients payer payouts m) := by
  induction payouts generalizing m with
  | nil => exact calm_ok m
  | cons first rest ih =>
      have paid : Calm (transfer payer first.1 first.2 m) := by
        unfold transfer
        split
        · exact calm_ok m
        · exact calm_systemTransfer
      exact paid.bind fun _ _ => ih

theorem calm_settle {accounts : List AccountInfo} {eventId : Bytes32} {amount : UInt64}
    {payouts : List UInt64} : Calm (settle D accounts eventId amount payouts m) := by
  refine calm_ensure.bind fun _ length => ?_
  have length := ensure_eq_ok.mp length
  refine (calm_indexAt (by omega)).bind fun payer _ => ?_
  refine (calm_indexAt (by omega)).bind fun authority _ => ?_
  refine (calm_indexAt (by omega)).bind fun ns _ => ?_
  refine (calm_indexAt (by omega)).bind fun record _ => ?_
  refine (calm_indexAt (by omega)).bind fun systemProgram _ => ?_
  refine calm_authorize.bind fun _ _ => ?_
  refine calm_ensure.bind fun _ _ => ?_
  refine calm_ensure.bind fun _ _ => ?_
  exact calm_createRecord.bind fun _ _ => calm_payRecipients

theorem calm_checkDestinations {source record mint : AccountInfo} {recipients : List AccountInfo} :
    Calm (checkDestinations source record mint m recipients) := by
  induction recipients with
  | nil => exact calm_ok ()
  | cons recipient rest ih =>
      refine calm_ensure.bind fun _ _ => ?_
      refine (calm_unpackAccount _).bind fun _ _ => ?_
      exact calm_ensure.bind fun _ _ => ih

theorem calm_payDestinations {source mint authority : AccountInfo} {decimals : UInt8}
    {payouts : List (AccountInfo × UInt64)} :
    Calm (payDestinations source mint authority decimals payouts m) := by
  induction payouts generalizing m with
  | nil => exact calm_ok m
  | cons first rest ih =>
      have paid : Calm (payDestination source mint authority first.1 first.2 decimals m) := by
        unfold payDestination
        split
        · exact calm_ok m
        · exact calm_tokenTransferChecked
      exact paid.bind fun _ _ => ih

theorem calm_settleToken {accounts : List AccountInfo} {eventId : Bytes32} {amount : UInt64}
    {decimals : UInt8} {payouts : List UInt64} :
    Calm (settleToken D accounts eventId amount decimals payouts m) := by
  refine calm_ensure.bind fun _ length => ?_
  have length := ensure_eq_ok.mp length
  refine (calm_indexAt (by omega)).bind fun payer _ => ?_
  refine (calm_indexAt (by omega)).bind fun authority _ => ?_
  refine (calm_indexAt (by omega)).bind fun ns _ => ?_
  refine (calm_indexAt (by omega)).bind fun source _ => ?_
  refine (calm_indexAt (by omega)).bind fun mint _ => ?_
  refine (calm_indexAt (by omega)).bind fun record _ => ?_
  refine (calm_indexAt (by omega)).bind fun systemProgram _ => ?_
  refine (calm_indexAt (by omega)).bind fun tokenProgram _ => ?_
  refine calm_ensure.bind fun _ _ => calm_authorize.bind fun _ _ => ?_
  refine calm_ensure.bind fun _ _ => ?_
  refine calm_ensure.bind fun _ _ => ?_
  refine (calm_unpackMint _).bind fun _ _ => calm_ensure.bind fun _ _ => ?_
  refine (calm_unpackAccount _).bind fun _ _ => calm_ensure.bind fun _ _ => ?_
  refine calm_checkDestinations.bind fun _ _ => ?_
  exact calm_createRecord.bind fun _ _ => calm_payDestinations

/-- No slice, index or copy of the program is out of range. -/
theorem processInstruction_calm (accounts : List AccountInfo) (data : Bytes) (state : Accounts) :
    Calm (processInstruction D accounts data state) := by
  refine (calm_unpack data).bind fun v _ => ?_
  cases v with
  | createNamespace namespaceId authority => exact calm_createNamespace
  | setNamespaceAuthority newAuthority => exact calm_setNamespaceAuthority
  | settleN eventId amount bps => exact (calm_splitPayouts amount bps).bind fun _ _ => calm_settle
  | settleTokenN eventId amount decimals bps =>
      exact (calm_splitPayouts amount bps).bind fun _ _ => calm_settleToken

end Instructions

/-! ### Every run returns -/

/-- A run came back: with success and nothing still borrowed, or with an error of
the program or of a program it invoked. -/
def Returned : Except (Stop ProgramError) (Unit × Memory Checked.Cell Machine) → Prop
  | .ok (_, memory) => ∀ cell, memory.flags cell = .free
  | .error stop => ¬ stop.IsPanic

/-- **The program never panics.** For every instruction data and every account
list, on any accounts, the program returns: nothing is sliced, indexed or copied
out of range, nothing overflows, and no data or lamports are borrowed twice or
during an invocation. -/
theorem never_panics (D : Deployment) (accounts : List AccountInfo) (data : Bytes)
    (state : Accounts) :
    Returned ((Checked.processInstruction D accounts data).run (.idle ⟨state, []⟩)) := by
  have does := Checked.processInstruction_does (D := D) accounts data state
  have calm := processInstruction_calm (D := D) accounts data state
  change Returned (Checked.processInstruction D accounts data (.idle ⟨state, []⟩))
  rw [does]
  cases ended : processInstruction D accounts data state with
  | ok after => exact fun _ => rfl
  | error fault =>
      cases fault with
      | program error => exact id
      | invoke => exact id
      | panic => exact absurd ended calm

end Synxed.Program
