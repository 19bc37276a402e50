import Synxed.Sdk.Client
import Synxed.Sdk.Reconcile

/-!
What chain evidence proves. A transaction is the list of its top-level
instructions as they ran; a node shows it truthfully when the instructions,
and what they invoked, are the ones that ran.

* `reconciliation_sound`: evidence that reconciles with a request is a
  settlement of that request, and nothing else.
-/

namespace Synxed.Sdk

open Synxed.Lib Synxed.Program

/-! ### Transactions as they ran -/

/-- A top-level instruction of a transaction that succeeded. Nothing is known
of an instruction for another program but its id and data: it may do anything,
also invoke this program. -/
inductive TopLevel (D : Deployment) where
  | program (accounts : List AccountInfo) (data : Bytes) (before : Accounts) (after : Machine)
      (ran : processInstruction D accounts data before = .ok after)
  | other (programId : Pubkey) (data : Bytes) (different : programId ≠ D.programId)

variable {D : Deployment}

namespace TopLevel

def programId : TopLevel D → Pubkey
  | program _ _ _ _ _ => D.programId
  | other programId _ _ => programId

/-- The program's own instructions that are no `CreateNamespace`. -/
def isSettlement : TopLevel D → Bool
  | program _ data _ _ _ => data[0]? ≠ some createNamespaceTag
  | other _ _ _ => false

end TopLevel

/-! ### Truthful answers -/

/-- A parsed instruction of this program and kind. -/
structure ShownAs (instruction : RpcInstruction) (programId : Pubkey) (program kind : JsString)
    (info : Json) : Prop where
  programId : instruction.programId = programId
  program : instruction.program = some program
  notRaw : instruction.raw? = none
  parsed : ∃ parsed, instruction.parsed = some parsed ∧ parsed.isRecord ∧
    parsed.get (js "type") = some (.string kind) ∧ parsed.get (js "info") = some info
  info : info.isRecord

/-- How a node shows an invocation. Amounts of lamports are JSON numbers,
amounts of tokens are text. -/
def ShowsCpi : Cpi → RpcInstruction → Prop
  | .transfer source destination lamports, instruction =>
      ∃ info, ShownAs instruction systemProgramId (js "system") (js "transfer") info ∧
        info.get (js "source") = some (.string (toBase58 source)) ∧
        info.get (js "destination") = some (.string (toBase58 destination)) ∧
        info.get (js "lamports") = some (.number (toDouble lamports))
  | .allocate account space, instruction =>
      ∃ info, ShownAs instruction systemProgramId (js "system") (js "allocate") info ∧
        info.get (js "account") = some (.string (toBase58 account)) ∧
        info.get (js "space") = some (.number (toDouble space))
  | .assign account owner, instruction =>
      ∃ info, ShownAs instruction systemProgramId (js "system") (js "assign") info ∧
        info.get (js "account") = some (.string (toBase58 account)) ∧
        info.get (js "owner") = some (.string (toBase58 owner))
  | .transferChecked source mint destination authority amount decimals, instruction =>
      ∃ info tokenAmount,
        ShownAs instruction tokenProgramId (js "spl-token") (js "transferChecked") info ∧
        info.get (js "source") = some (.string (toBase58 source)) ∧
        info.get (js "mint") = some (.string (toBase58 mint)) ∧
        info.get (js "destination") = some (.string (toBase58 destination)) ∧
        info.get (js "authority") = some (.string (toBase58 authority)) ∧
        info.get (js "tokenAmount") = some tokenAmount ∧ tokenAmount.isRecord ∧
        tokenAmount.get (js "amount") = some (.string (decimalText amount.toNat)) ∧
        tokenAmount.get (js "decimals") = some (.number (.ofInt decimals.toNat))

/-- How a node shows a top-level instruction: it has no parser for this
program, and shows a memo as its text. -/
def ShowsTopLevel : TopLevel D → RpcInstruction → Prop
  | .program accounts data _ _ _, instruction =>
      instruction.programId = D.programId ∧
        instruction.raw? = some ⟨D.programId, accounts.map (·.key), base58Encode data⟩
  | .other programId data _, instruction =>
      instruction.programId = programId ∧
        (programId = MEMO_PROGRAM_ID → instruction.parsed = (utf8Text data).map .string)

/-- A truthful answer about a transaction that succeeded: its instructions in
order, and with each instruction of the program that invoked anything the
invocations it made. -/
structure Truthful (executed : List (TopLevel D)) (transaction : ParsedTransaction) : Prop where
  instructions : List.Forall₂ ShowsTopLevel executed transaction.instructions
  succeeded : ∃ metadata, transaction.metadata = some metadata ∧ metadata.err = none ∧
    ∀ index accounts data before after ran,
      executed[index]? = some (.program accounts data before after ran) → after.inner ≠ [] →
      ∃ group, (metadata.innerInstructions.getD []).find? (fun group => group.index = index) =
          some group ∧ List.Forall₂ ShowsCpi after.inner group.instructions

/-! ### An answer that is truthful -/

/-- A parsed instruction with these members of its `info`. -/
def parsedInstruction (programId : Pubkey) (program kind : JsString)
    (info : List (JsString × Json)) : RpcInstruction where
  programId := programId
  program := some program
  parsed := some (.object [(js "info", .object info), (js "type", .string kind)])

def shownCpi : Cpi → RpcInstruction
  | .transfer source destination lamports =>
      parsedInstruction systemProgramId (js "system") (js "transfer")
        [(js "destination", .string (toBase58 destination)),
          (js "lamports", .number (toDouble lamports)), (js "source", .string (toBase58 source))]
  | .allocate account space =>
      parsedInstruction systemProgramId (js "system") (js "allocate")
        [(js "account", .string (toBase58 account)), (js "space", .number (toDouble space))]
  | .assign account owner =>
      parsedInstruction systemProgramId (js "system") (js "assign")
        [(js "account", .string (toBase58 account)), (js "owner", .string (toBase58 owner))]
  | .transferChecked source mint destination authority amount decimals =>
      parsedInstruction tokenProgramId (js "spl-token") (js "transferChecked")
        [(js "authority", .string (toBase58 authority)),
          (js "destination", .string (toBase58 destination)), (js "mint", .string (toBase58 mint)),
          (js "source", .string (toBase58 source)),
          (js "tokenAmount", .object [(js "amount", .string (decimalText amount.toNat)),
            (js "decimals", .number (.ofInt decimals.toNat))])]

def shownTopLevel : TopLevel D → RpcInstruction
  | .program accounts data _ _ _ =>
      { programId := D.programId, accounts := some (accounts.map (·.key))
        data := some (base58Encode data) }
  | .other programId data _ =>
      { programId := programId, program := some (js "spl-memo"), parsed := (utf8Text data).map .string }

/-- What one top-level instruction invoked, under its index. -/
def shownInner : TopLevel D × Nat → InnerInstructions
  | (.program _ _ _ after _, index) => ⟨index, after.inner.map shownCpi⟩
  | (.other _ _ _, index) => ⟨index, []⟩

/-- The answer of a node that shows everything. -/
def shownTransaction (executed : List (TopLevel D)) (signature : JsString) (slot : Nat)
    (blockTime : Int) : ParsedTransaction where
  slot := slot
  blockTime := some blockTime
  metadata := some ⟨none, some (executed.zipIdx.map shownInner)⟩
  signatures := [signature]
  instructions := executed.map shownTopLevel

theorem showsCpi_shownCpi (cpi : Cpi) : ShowsCpi cpi (shownCpi cpi) := by
  have shownAs (programId : Pubkey) (program kind : JsString) (info : List (JsString × Json)) :
      ShownAs (parsedInstruction programId program kind info) programId program kind (.object info) :=
    ⟨rfl, rfl, rfl, ⟨_, rfl, rfl, rfl, rfl⟩, rfl⟩
  cases cpi with
  | transfer source destination lamports => exact ⟨_, shownAs _ _ _ _, rfl, rfl, rfl⟩
  | allocate account space => exact ⟨_, shownAs _ _ _ _, rfl, rfl⟩
  | assign account owner => exact ⟨_, shownAs _ _ _ _, rfl, rfl⟩
  | transferChecked source mint destination authority amount decimals =>
      exact ⟨_, _, shownAs _ _ _ _, rfl, rfl, rfl, rfl, rfl, rfl, rfl, rfl⟩

/-- Every transaction has a truthful answer. -/
theorem truthful_shownTransaction (executed : List (TopLevel D)) (signature : JsString) (slot : Nat)
    (blockTime : Int) : Truthful executed (shownTransaction executed signature slot blockTime) where
  instructions := by
    refine List.forall₂_map_right_iff.mpr (List.forall₂_same.mpr fun top _ => ?_)
    cases top with
    | program accounts data before after ran => exact ⟨rfl, rfl⟩
    | other programId data different => exact ⟨rfl, fun _ => rfl⟩
  succeeded := by
    refine ⟨_, rfl, rfl, fun index accounts data before after ran here _ => ?_⟩
    refine ⟨⟨index, after.inner.map shownCpi⟩, ?_, ?_⟩
    · have inside := (List.getElem?_eq_some_iff.mp here).1
      rw [Option.getD_some, List.find?_eq_some_iff_getElem]
      refine ⟨by simp, index, by simpa using inside, ?_, fun j before => ?_⟩
      · have atIndex : executed[index] = .program accounts data before after ran :=
          (List.getElem?_eq_some_iff.mp here).2
        simp [atIndex, shownInner]
      · have earlier : j < executed.length := before.trans inside
        have other : (shownInner (executed[j], j)).index = j := by
          cases executed[j] <;> rfl
        simp [other, before.ne]
    · exact List.forall₂_map_right_iff.mpr (List.forall₂_same.mpr fun cpi _ => showsCpi_shownCpi cpi)

/-! ### Settlements -/

/-- The top-level instruction settled `eventId` in `ns`: of `amount`, it paid
each of `recipients` its part by `bps`, and invoked nothing else but what
creates the record. -/
def SettledNative (top : TopLevel D) (ns : Pubkey) (eventId : Bytes32) (amount : UInt64)
    (bps : List UInt16) (recipients : List Pubkey) : Prop :=
  ∃ accounts before after ran payer record,
    top = .program accounts (SettlementInstruction.settleN eventId amount bps).pack before after ran ∧
    keyAt accounts 0 = some payer ∧ keyAt accounts 2 = some ns ∧
    record = (settlementPda D.addresses D.programId ns eventId).1 ∧
    (after.accounts record).owner = D.programId ∧
    (after.accounts record).data = recordData eventId amount ∧
    ValidSplit amount bps ∧ recipients.length = bps.length ∧
    after.inner = creationCpis D payer record (shortfallOf D before record settlementRecordSize)
        settlementRecordSize ++
      (nonzeroPayouts recipients ((payoutsOf amount bps).map Int.ofNat)).map fun payout =>
        .transfer payer payout.1 payout.2.toNat

/-- The same for tokens of `mint`, from the token account `source` of `payer`
to token accounts. -/
def SettledToken (top : TopLevel D) (ns payer source mint : Pubkey) (eventId : Bytes32)
    (amount : UInt64) (decimals : UInt8) (bps : List UInt16) (destinations : List Pubkey) : Prop :=
  ∃ accounts before after ran record,
    top = .program accounts (SettlementInstruction.settleTokenN eventId amount decimals bps).pack
      before after ran ∧
    keyAt accounts 0 = some payer ∧ keyAt accounts 2 = some ns ∧
    record = (settlementPda D.addresses D.programId ns eventId).1 ∧
    (after.accounts record).owner = D.programId ∧
    (after.accounts record).data = recordData eventId amount ∧
    ValidSplit amount bps ∧ destinations.length = bps.length ∧
    after.inner = creationCpis D payer record (shortfallOf D before record settlementRecordSize)
        settlementRecordSize ++
      (nonzeroPayouts destinations ((payoutsOf amount bps).map Int.ofNat)).map fun payout =>
        .transferChecked source mint payout.1 payer (UInt64.ofNat payout.2.toNat) decimals

/-- A raw instruction shows an instruction of the program. -/
def ShowsRaw : TopLevel D → Nat × RawInstruction → Prop
  | .program accounts data _ _ _, found =>
      found.2.accounts = accounts.map (·.key) ∧ found.2.data = base58Encode data
  | .other _ _ _, _ => False

/-- The raw instructions of a truthful transaction are the program's
instructions that ran. -/
theorem shows_rawInstructions {executed : List (TopLevel D)} {instructions : List RpcInstruction}
    {raw : List (Nat × RawInstruction)} (shown : List.Forall₂ ShowsTopLevel executed instructions)
    (shapes : List.Forall₂ (fun instruction found => instruction.raw? = some found.2)
      (instructions.filter fun instruction => instruction.programId = D.programId) raw) :
    List.Forall₂ ShowsRaw (executed.filter fun top => top.programId = D.programId) raw := by
  induction shown generalizing raw with
  | nil =>
      cases shapes
      exact .nil
  | @cons top instruction tops instructions here later ih =>
      cases top with
      | program accounts data before after ran =>
          obtain ⟨id, shape⟩ := here
          rw [List.filter_cons_of_pos (by simpa using id)] at shapes
          rw [List.filter_cons_of_pos (by simp [TopLevel.programId])]
          obtain ⟨found, raw, first, rest, rfl⟩ := List.forall₂_cons_left_iff.mp shapes
          rw [shape, Option.some.injEq] at first
          refine .cons ?_ (ih rest)
          rw [ShowsRaw, ← first]
          exact ⟨rfl, rfl⟩
      | other programId data different =>
          have notOurs : instruction.programId ≠ D.programId := here.1 ▸ different
          rw [List.filter_cons_of_neg (by simpa using notOurs)] at shapes
          rw [List.filter_cons_of_neg (by simp [TopLevel.programId, different])]
          exact ih shapes

/-- The one instruction that `findSettlementInstruction` finds is the one
settlement that ran. -/
theorem findSettlementInstruction_truthful {executed : List (TopLevel D)}
    {transaction : ParsedTransaction} {settlement : Nat × RawInstruction}
    (truthful : Truthful executed transaction)
    (found : findSettlementInstruction transaction D.programId = .ok settlement) :
    ∃ accounts data before after ran,
      executed.filter TopLevel.isSettlement = [.program accounts data before after ran] ∧
      settlement.2.accounts = accounts.map (·.key) ∧ settlement.2.data = base58Encode data := by
  obtain ⟨raw, shapes, single⟩ := findSettlementInstruction_ok found
  have ours := shows_rawInstructions truthful.instructions shapes
  have sameTag : Relator.LiftFun ShowsRaw (· ↔ ·) (fun top : TopLevel D => top.isSettlement)
      (fun found => decide (instructionTag found.2.data ≠ some CREATE_NAMESPACE_TAG)) := by
    rintro top found shows
    cases top with
    | other _ _ _ => exact shows.elim
    | program accounts data before after ran =>
        have tag : instructionTag found.2.data = data[0]? := by
          rw [instructionTag, decodeData, shows.2, base58Decode_encode, Option.getD_some]
        simp only [tag]
        exact Iff.rfl
  have settles := List.rel_filter sameTag ours
  have restrict : (executed.filter fun top => top.programId = D.programId).filter
      TopLevel.isSettlement = executed.filter TopLevel.isSettlement := by
    rw [List.filter_filter]
    refine List.filter_congr fun top _ => ?_
    cases top <;> simp [TopLevel.isSettlement, TopLevel.programId]
  rw [restrict, single] at settles
  obtain ⟨top, tops, shows, none, only⟩ := List.forall₂_cons_right_iff.mp settles
  cases List.forall₂_nil_right_iff.mp none
  cases top with
  | other _ _ _ => exact shows.elim
  | program accounts data before after ran => exact ⟨accounts, data, before, after, ran, only, shows⟩

/-- A `SettleN` that ran settled its event, for the accounts it lists. -/
theorem settledNative_of_ran {accounts : List AccountInfo} {eventId : Bytes32} {amount : UInt64}
    {bps : List UInt16} {before : Accounts} {after : Machine}
    (count : bps.length ≠ 0 ∧ bps.length ≤ maxShares)
    (ran : processInstruction D accounts (SettlementInstruction.settleN eventId amount bps).pack
      before = .ok after) :
    ∃ payer authority ns recipients record systemProgram,
      accounts.map (·.key) = payer :: authority :: ns :: (recipients ++ [record, systemProgram]) ∧
      SettledNative (.program accounts _ before after ran) ns eventId amount bps recipients := by
  obtain ⟨payouts, valid, out, settled⟩ := processInstruction_settleN count ran
  obtain ⟨payer, authority, ns, recipients, record, systemProgram, rfl, length, _, _, _, address,
    creates, inner⟩ := settle_ok settled
  have outLength := congrArg List.length out
  rw [List.length_map, length_payoutsOf] at outLength
  refine ⟨payer.key, authority.key, ns.key, recipients.map (·.key), record.key, systemProgram.key,
    by simp, _, before, after, ran, payer.key, record.key, rfl, rfl, rfl, address, creates.made.1,
    creates.made.2, valid, by rw [List.length_map, length, outLength], ?_⟩
  rw [inner, payoutCpis_eq, ← out, List.map_map, List.nil_append]
  rfl

/-- A `SettleTokenN` that ran settled its event, for the accounts it lists. -/
theorem settledToken_of_ran {accounts : List AccountInfo} {eventId : Bytes32} {amount : UInt64}
    {decimals : UInt8} {bps : List UInt16} {before : Accounts} {after : Machine}
    (count : bps.length ≠ 0 ∧ bps.length ≤ maxShares)
    (ran : processInstruction D accounts
      (SettlementInstruction.settleTokenN eventId amount decimals bps).pack before = .ok after) :
    ∃ payer authority ns source recipients mint record systemProgram tokenProgram,
      accounts.map (·.key) = payer :: authority :: ns :: source ::
        (recipients ++ [mint, record, systemProgram, tokenProgram]) ∧
      SettledToken (.program accounts _ before after ran) ns payer source mint eventId amount decimals
        bps recipients := by
  obtain ⟨payouts, valid, out, settled⟩ := processInstruction_settleTokenN count ran
  obtain ⟨payer, authority, ns, source, recipients, mint, record, systemProgram, tokenProgram, rfl,
    length, _, _, address, creates, inner⟩ := settleToken_ok settled
  have outLength := congrArg List.length out
  rw [List.length_map, length_payoutsOf] at outLength
  refine ⟨payer.key, authority.key, ns.key, source.key, recipients.map (·.key), mint.key,
    record.key, systemProgram.key, tokenProgram.key, by simp, _, before, after, ran, record.key, rfl,
    rfl, rfl, address, creates.made.1, creates.made.2, valid,
    by rw [List.length_map, length, outLength], ?_⟩
  rw [inner, tokenPayoutCpis_eq, ← out, List.map_map, List.nil_append]
  rfl

/-! ### Soundness -/

/-- The recipients in an observed account list. -/
theorem observed_recipients (front : List Pubkey) {recipients back : List Pubkey} {count : Nat}
    (length : recipients.length = count) :
    ((front ++ (recipients ++ back)).drop front.length).take count = recipients := by
  rw [List.drop_left, List.take_left' length]

/-- A split that the client and the program both made is one split. -/
theorem payouts_of_request {amount : UInt64} {bps : List UInt16} {total : Int}
    {shares : List JsNumber} {amounts : List Int} (same : (amount.toNat : Int) = total)
    (sameBps : sameNumbers (bps.map shareNumber) shares)
    (split : splitAmountAtomicShares total shares = .ok amounts) :
    shares = bps.map shareNumber ∧ amounts = (payoutsOf amount bps).map Int.ofNat := by
  have sharesEq : bps.map shareNumber = shares := by
    simp only [sameNumbers, decide_eq_true_eq] at sameBps
    exact sameBps.1
  subst sharesEq
  have small : total ≤ U64_MAX := by
    have := amount.toNat_lt
    unfold U64_MAX
    omega
  obtain ⟨amount', bps', totalEq, bpsEq, _, rfl⟩ := split_total small split
  have sameAmount : amount = amount' := UInt64.toNat_inj.mp (by exact_mod_cast same.trans totalEq)
  have sameShares : bps = bps' := by
    refine (List.map_injective_iff.mpr fun a b eq => ?_) bpsEq
    exact UInt16.toNat_inj.mp (by exact_mod_cast JsNumber.ofInt_injective eq)
  rw [sameAmount, sameShares]
  exact ⟨rfl, rfl⟩

/-- What a native reconciliation of a truthful transaction proves. -/
theorem observed_native {H : Host} {executed : List (TopLevel D)} {transaction : ParsedTransaction}
    {signature : JsString} {observation : ProgramSettlementObservation}
    (truthful : Truthful executed transaction)
    (observed : observeProgramSettlement H transaction signature D.programId = .ok observation) :
    ∃ top ns seed amount bps recipients, executed.filter TopLevel.isSettlement = [top] ∧
      SettledNative top ns seed amount bps recipients ∧
      observation.ns = toBase58 ns ∧ observation.eventSeedHex = hexText seed.val ∧
      observation.amountOnChain = amount.toNat ∧ observation.bps = bps.map shareNumber ∧
      observation.recipients = recipients.map toBase58 := by
  simp only [observeProgramSettlement, bind_eq_ok, ensure_eq_ok, exists_const, Prod.exists,
    decodeSettleNData_eq_ok, Except.ok.injEq] at observed
  obtain ⟨_, _, _, index, settlement, found, decoded, ⟨seed, amount, bps, nonzero, few, encoded, rfl⟩,
    _, _, _, _, _, _, _, _, _, _, _, rfl⟩ := observed
  obtain ⟨accounts, data, before, after, ran, only, keys, dataText⟩ :=
    findSettlementInstruction_truthful truthful found
  rw [dataText, base58Decode_encode, Option.some.injEq] at encoded
  subst encoded
  obtain ⟨payer, authority, ns, recipients, record, systemProgram, split, settled⟩ :=
    settledNative_of_ran ⟨nonzero, few⟩ ran
  have length : recipients.length = bps.length := by
    obtain ⟨_, _, _, _, _, _, _, _, _, _, _, _, _, length, _⟩ := settled
    exact length
  refine ⟨_, ns, seed, amount, bps, recipients, only, settled, ?_, rfl, rfl, rfl, ?_⟩
  · rw [keys, split]
    rfl
  · rw [keys, split, List.length_map]
    exact congrArg (List.map toBase58)
      (observed_recipients [payer, authority, ns] length)

/-- What a token reconciliation of a truthful transaction proves. -/
theorem observed_token {H : Host} {executed : List (TopLevel D)} {transaction : ParsedTransaction}
    {signature : JsString} {observation : ProgramTokenSettlementObservation}
    (truthful : Truthful executed transaction)
    (observed : observeProgramTokenSettlement H transaction signature D.programId =
      .ok observation) :
    ∃ top ns payer source mint seed amount decimals bps destinations,
      executed.filter TopLevel.isSettlement = [top] ∧
      SettledToken top ns payer source mint seed amount decimals bps destinations ∧
      observation.ns = toBase58 ns ∧ observation.payer = toBase58 payer ∧
      observation.sourceTokenAccount = toBase58 source ∧ observation.mint = toBase58 mint ∧
      observation.eventSeedHex = hexText seed.val ∧ observation.amountOnChain = amount.toNat ∧
      observation.decimals = decimals.toNat ∧ observation.bps = bps.map shareNumber ∧
      observation.recipientTokenAccounts = destinations.map toBase58 := by
  simp only [observeProgramTokenSettlement, bind_eq_ok, ensure_eq_ok, exists_const, Prod.exists,
    decodeSettleTokenNData_eq_ok, Except.ok.injEq] at observed
  obtain ⟨_, _, _, index, settlement, found, decoded, ⟨seed, amount, decimals, bps, nonzero, few,
    encoded, rfl⟩, _, _, _, _, _, _, _, _, _, _, _, rfl⟩ := observed
  obtain ⟨accounts, data, before, after, ran, only, keys, dataText⟩ :=
    findSettlementInstruction_truthful truthful found
  rw [dataText, base58Decode_encode, Option.some.injEq] at encoded
  subst encoded
  obtain ⟨payer, authority, ns, source, destinations, mint, record, systemProgram, tokenProgram, split,
    settled⟩ := settledToken_of_ran ⟨nonzero, few⟩ ran
  have length : destinations.length = bps.length := by
    obtain ⟨_, _, _, _, _, _, _, _, _, _, _, _, length, _⟩ := settled
    exact length
  refine ⟨_, ns, payer, source, mint, seed, amount, decimals, bps, destinations, only, settled,
    ?_, ?_, ?_, ?_, rfl, rfl, rfl, rfl, ?_⟩
  · rw [keys, split]
    rfl
  · rw [keys, split]
    rfl
  · rw [keys, split]
    rfl
  · have mintAt : accountAt (payer :: authority :: ns :: source ::
        (destinations ++ [mint, record, systemProgram, tokenProgram])) (4 + bps.length) = mint := by
      rw [accountAt, ← length, Nat.add_comm]
      simp
    rw [keys, split, List.length_map]
    exact congrArg toBase58 mintAt
  · rw [keys, split, List.length_map]
    exact congrArg (List.map toBase58)
      (observed_recipients [payer, authority, ns, source] length)

/-- The lines, direct entries and pool payouts account for a gross amount:
share by share they carry what the split pays its recipient. -/
structure AccountsFor (reconciliation : SettlementReconciliation) (request : SettlementRequestN)
    (amount : UInt64) (bps : List UInt16) : Prop where
  partition : Partitions reconciliation
  lines : paidBy reconciliation.record =
    (request.shares.map ShareInput.recipient).zip (payoutsOf amount bps)
  total : ((paidBy reconciliation.record).map Prod.snd).sum = amount.toNat

theorem accountsFor_of_payouts {H : Host} {record : SettlementRecord}
    {request : SettlementRequestN} {amount : UInt64} {bps : List UInt16}
    {destinations : List JsString} {beneficiary : ShareInput → Option PropertyValue}
    (valid : ValidSplit amount bps) (shares : request.shares.length = bps.length)
    (enough : destinations.length = request.shares.length)
    (payouts : record.payouts = payoutLines request.shares
      ((payoutsOf amount bps).map Int.ofNat) destinations beneficiary) :
    AccountsFor (reconciliationOf H record) request amount bps := by
  have lines : paidBy record =
      (request.shares.map ShareInput.recipient).zip (payoutsOf amount bps) := by
    rw [paidBy, payouts, paid_payoutLines enough]
  refine ⟨partitions_reconciliationOf record, lines, ?_⟩
  have amounts : (paidBy record).map Prod.snd = payoutsOf amount bps := by
    rw [lines, List.map_snd_zip (by rw [List.length_map, length_payoutsOf, shares])]
  rw [← sum_payoutsOf valid, ← amounts]
  rfl

/-- **Reconciliation is sound.** Whoever composed a transaction that
succeeded, and whatever else it holds: when the truthful evidence of it
reconciles with a request, exactly one top-level instruction settled anything
in the program, and it settled the request's event in the given namespace, for
the request's amount at the given scale, paying each share's recipient its
part and nobody anything else. The rows are exactly these payouts. -/
theorem reconciliation_sound (H : Host) (D : Deployment) (executed : List (TopLevel D))
    (transaction : ParsedTransaction) (signature : JsString)
    (truthful : Truthful executed transaction) :
    (∀ observation options reconciliation,
      observeProgramSettlement H transaction signature D.programId = .ok observation →
      reconcileObservedSettlementN H observation options = .ok reconciliation →
      ∃ (top : TopLevel D) (seed : Bytes32) (amount : UInt64) (bps : List UInt16)
          (recipients : List Pubkey),
        executed.filter TopLevel.isSettlement = [top] ∧
        eventIdSeed H options.request.eventId = .ok seed ∧
        (amount.toNat : Int) = options.request.amountAtomic * options.unitsPerAtomicUnit ∧
        options.request.shares.map ShareInput.bps = bps.map shareNumber ∧
        options.request.shares.map ShareInput.recipient = recipients.map toBase58 ∧
        SettledNative top options.ns seed amount bps recipients ∧
        AccountsFor reconciliation options.request amount bps) ∧
    (∀ observation options reconciliation,
      observeProgramTokenSettlement H transaction signature D.programId = .ok observation →
      reconcileObservedTokenSettlementN H observation options = .ok reconciliation →
      ∃ (top : TopLevel D) (payer : Pubkey) (wallets : List Pubkey) (seed : Bytes32)
          (amount : UInt64) (decimals : UInt8) (bps : List UInt16),
        executed.filter TopLevel.isSettlement = [top] ∧
        eventIdSeed H options.request.eventId = .ok seed ∧
        (amount.toNat : Int) =
          options.request.amountAtomic * options.tokenBaseUnitsPerAtomicUnit ∧
        options.decimals = .ofInt decimals.toNat ∧
        options.request.shares.map ShareInput.bps = bps.map shareNumber ∧
        options.request.shares.map ShareInput.recipient = wallets.map toBase58 ∧
        SettledToken top options.ns payer (associatedTokenAddress H options.mint payer) options.mint
          seed amount decimals bps (wallets.map (associatedTokenAddress H options.mint)) ∧
        AccountsFor reconciliation options.request amount bps) := by
  constructor
  · intro observation options reconciliation observed reconciled
    obtain ⟨amounts, time, found, _, rfl⟩ := reconcileObservedSettlementN_eq_ok.mp reconciled
    obtain ⟨top, ns, seed, amount, bps, recipients, only, settled, nsText, seedHex, amountOnChain,
      bpsRead, recipientTexts⟩ := observed_native truthful observed
    obtain ⟨eventSeed, seeded, hex⟩ := found.event
    have sameSeed : seed = eventSeed := Subtype.ext (hexText_injective (seedHex.symm.trans hex))
    have sameNs : ns = options.ns := toBase58_injective (nsText.symm.trans found.ns)
    have total := found.amount
    rw [amountOnChain] at total
    have bpsSame := found.bps
    rw [bpsRead] at bpsSame
    obtain ⟨shares, rfl⟩ := payouts_of_request total bpsSame found.split
    have keys : options.request.shares.map ShareInput.recipient = recipients.map toBase58 :=
      found.recipients.symm.trans recipientTexts
    have valid : ValidSplit amount bps := by
      obtain ⟨_, _, _, _, _, _, _, _, _, _, _, _, valid, _⟩ := settled
      exact valid
    have count : options.request.shares.length = bps.length := by
      simpa using congrArg List.length shares
    subst sameSeed sameNs
    exact ⟨top, seed, amount, bps, recipients, only, seeded, total, shares, keys, settled,
      accountsFor_of_payouts valid count (by simp) rfl⟩
  · intro observation options reconciliation observed reconciled
    obtain ⟨payer, wallets, amounts, time, found, rfl⟩ := reconcileObservedTokenSettlementN_ok reconciled
    obtain ⟨top, ns, payerKey, source, mint, seed, amount, decimals, bps, destinations, only, settled,
      nsText, payerText, sourceText, mintText, seedHex, amountOnChain, decimalsRead, bpsRead,
      destinationTexts⟩ := observed_token truthful observed
    obtain ⟨eventSeed, seeded, hex⟩ := found.event
    have sameSeed : seed = eventSeed := Subtype.ext (hexText_injective (seedHex.symm.trans hex))
    have sameNs : ns = options.ns := toBase58_injective (nsText.symm.trans found.ns)
    have samePayer : payerKey = payer :=
      toBase58_injective (payerText.symm.trans found.payerText.symm)
    have sameMint : mint = options.mint := toBase58_injective (mintText.symm.trans found.mint)
    have sameSource : source = associatedTokenAddress H options.mint payer :=
      toBase58_injective (sourceText.symm.trans found.source)
    have sameDestinations : destinations = wallets.map (associatedTokenAddress H options.mint) := by
      refine List.map_injective_iff.mpr (fun _ _ => toBase58_injective) ?_
      rw [← destinationTexts, found.destinations, List.map_map]
      rfl
    have total := found.amount
    rw [amountOnChain] at total
    have bpsSame := found.bps
    rw [bpsRead] at bpsSame
    obtain ⟨shares, rfl⟩ := payouts_of_request total bpsSame found.split
    have sameDecimals : options.decimals = .ofInt decimals.toNat := by
      rw [← found.decimals, decimalsRead]
    have valid : ValidSplit amount bps := by
      obtain ⟨_, _, _, _, _, _, _, _, _, _, _, valid, _⟩ := settled
      exact valid
    have count : options.request.shares.length = bps.length := by
      simpa using congrArg List.length shares
    have walletCount : wallets.length = options.request.shares.length := by
      simpa using congrArg List.length found.walletTexts
    subst sameSeed sameNs samePayer sameMint sameSource sameDestinations
    exact ⟨top, payerKey, wallets, seed, amount, decimals, bps, only, seeded, total, sameDecimals,
      shares, found.walletTexts.symm, settled,
      accountsFor_of_payouts valid count (by rw [List.length_map, walletCount]) rfl⟩

/-- The `SettleN` of the sample request, in the sample namespace. -/
def sampleSettle : TransactionInstruction :=
  settleNInstruction sampleDeployment.addresses
    ⟨sampleDeployment.programId, samplePayer, sampleAuthority, sampleNamespace,
      [sampleRecipient, samplePayer]⟩
    (sampleHost.sha256 (textEncode sampleRequest.eventId)) 1001 [7000, 3000]

def sampleAfter : Machine :=
  (processInstruction sampleDeployment sampleSettle.keys sampleSettle.data
    sampleState.accounts).toOption.getD ⟨sampleState.accounts, []⟩

theorem sampleSettle_ran : processInstruction sampleDeployment sampleSettle.keys sampleSettle.data
    sampleState.accounts = .ok sampleAfter :=
  eq_ok_of_isOk _ (by decide +kernel)

theorem sample_memo_ne : MEMO_PROGRAM_ID ≠ sampleDeployment.programId := by decide

/-- The memo and the settlement of the sample request. -/
def sampleExecuted : List (TopLevel sampleDeployment) :=
  [.other MEMO_PROGRAM_ID (memoInstruction sampleRequest 1001).data sample_memo_ne,
    .program sampleSettle.keys sampleSettle.data sampleState.accounts sampleAfter sampleSettle_ran]

def sampleTransaction : ParsedTransaction := shownTransaction sampleExecuted (js "sent") 7 1767225600

/-- The sample settlement reconciles with its request, and its rows are what it
paid. -/
theorem reconciliation_sound_sample :
    ∃ observation reconciliation,
      observeProgramSettlement sampleHost sampleTransaction (js "sent")
        sampleDeployment.programId = .ok observation ∧
      reconcileObservedSettlementN sampleHost observation
        { request := sampleRequest, ns := sampleNamespace, unitsPerAtomicUnit := 1 } =
          .ok reconciliation ∧
      ∃ amount bps, (amount.toNat : Int) = 1001 * 1 ∧
        AccountsFor reconciliation sampleRequest amount bps := by
  have reconciles : (observeProgramSettlement sampleHost sampleTransaction (js "sent")
      sampleDeployment.programId >>= fun observation =>
        reconcileObservedSettlementN sampleHost observation
          { request := sampleRequest, ns := sampleNamespace, unitsPerAtomicUnit := 1 }).isOk := by
    decide +kernel
  obtain ⟨reconciliation, both⟩ := exists_ok_of_isOk reconciles
  obtain ⟨observation, observed, reconciled⟩ := bind_eq_ok.mp both
  obtain ⟨top, seed, amount, bps, recipients, _, _, total, _, _, _, accounts⟩ :=
    (reconciliation_sound sampleHost sampleDeployment sampleExecuted sampleTransaction (js "sent")
      (truthful_shownTransaction _ _ _ _)).1 _ _ _ observed reconciled
  exact ⟨observation, reconciliation, observed, reconciled, amount, bps, total, accounts⟩

end Synxed.Sdk
