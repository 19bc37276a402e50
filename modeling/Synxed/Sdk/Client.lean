import Synxed.Lib.Json
import Synxed.Program.Chain
import Synxed.Sdk.Instruction

/-!
Building native settlements (`client.ts`): the transaction a request becomes, in
program mode and as plain System transfers, and reading a settlement record.

* `buildSettlementNTransaction_program`, `buildSettlementNTransaction_transfer`:
  what a successful build checked and built, in each mode.
* `settlement_amounts_agree`: the two modes and the program pay the same shares.
-/

namespace Synxed.Sdk

open Synxed.Lib Synxed.Program

inductive SettlementMode where
  | program
  | systemTransfer
  deriving DecidableEq

/-- `BuildSettlementNOptions`: without `programId` system transfers, with it
`SettleN` in `ns`. The types of the source tie the last three fields to a
`programId`; a caller in plain JavaScript can pass any combination. -/
structure BuildSettlementNOptions where
  payer : Pubkey
  request : SettlementRequestN
  lamportsPerAtomicUnit : Option Int := none
  programId : Option Pubkey := none
  ns : Option Pubkey := none
  authority : Option Pubkey := none
  createNamespaceId : Option Bytes := none

structure PreparedSettlementN where
  transaction : List TransactionInstruction
  mode : SettlementMode
  lamportsTotal : Int
  lamportsByShare : List Int
  deriving DecidableEq

/-! ### Checks -/

def assertNativeAsset (asset : SettlementAsset) : Except ProtocolError Unit :=
  ensure (asset = .solLamportsStandin)
    ⟨.ASSET_MODE, js "native settlement requires SOL_LAMPORTS_STANDIN"⟩

def scaledTotal (amountAtomic : Int) (scale : Option Int) : Except ProtocolError Int := do
  let factor := scale.getD 1
  ensure (¬ factor ≤ 0) ⟨.SCALE_RANGE, js "lamportsPerAtomicUnit must be a positive bigint"⟩
  let total := amountAtomic * factor
  ensure (¬ total > U64_MAX)
    ⟨.AMOUNT_U64, js "scaled total " ++ bigintText total ++ js " lamports exceeds u64"⟩
  .ok total

def parseRecipient (share : ShareInput) : Except ProtocolError Pubkey :=
  match publicKey share.recipient with
  | some key => .ok key
  | none => .error ⟨.RECIPIENT_PUBKEY,
      js "recipient for \"" ++ share.label ++ js "\" is not a valid base58 pubkey"⟩

/-- `request.shares.map(parseRecipient)`, up to the first share it refuses. -/
def parseRecipients : List ShareInput → Except ProtocolError (List Pubkey)
  | [] => .ok []
  | share :: rest => do
      let key ← parseRecipient share
      let keys ← parseRecipients rest
      .ok (key :: keys)

/-- Program options without a program would settle by plain transfers, which no
record guards against repeating. -/
def refuseProgramOptionsWithoutProgram (options : BuildSettlementNOptions) :
    Except ProtocolError Unit :=
  ensure (¬ (options.programId = none ∧
      (options.ns ≠ none ∨ options.authority ≠ none ∨ options.createNamespaceId ≠ none)))
    ⟨.PROGRAM_ID_REQUIRED,
      js "namespace, authority and createNamespaceId apply only with a programId"⟩

def requireNamespace (ns : Option Pubkey) : Except ProtocolError Pubkey :=
  match ns with
  | some key => .ok key
  | none => .error ⟨.NAMESPACE_REQUIRED,
      js "program mode settles in a namespace: pass its address as namespace"⟩

/-! ### Instructions -/

/-- `SystemProgram.transfer`: tag 2 and the lamports. -/
def systemTransferInstruction (fromPubkey toPubkey : Pubkey) (lamports : Int) :
    TransactionInstruction where
  programId := systemProgramId
  keys := [⟨fromPubkey, true, true⟩, ⟨toPubkey, false, true⟩]
  data := leBytes 4 2 ++ leBytes 8 lamports.toNat

/-- One transfer per share that is not zero. -/
def addTransfers (payer : Pubkey) (recipients : List Pubkey) (lamports : List Int) :
    List TransactionInstruction :=
  ((recipients.zip lamports).filter fun payout => 0 < payout.2).map fun payout =>
    systemTransferInstruction payer payout.1 payout.2

/-- The members of a settlement memo. -/
def memoMembers (request : SettlementRequestN) (lamportsTotal : Int) :
    List (JsString × JsString) :=
  [(js "protocol", js "synxed-settlement"), (js "event", request.eventId),
    (js "occurredAt", request.occurredAt), (js "kind", request.kind.text),
    (js "asset", request.asset.text), (js "lamports", bigintText lamportsTotal),
    (js "memo", request.memo)]

def memoText (request : SettlementRequestN) (lamportsTotal : Int) : JsString :=
  objectText ((memoMembers request lamportsTotal).map fun member => (member.1, quote member.2))

def memoInstruction (request : SettlementRequestN) (lamportsTotal : Int) :
    TransactionInstruction where
  programId := MEMO_PROGRAM_ID
  keys := []
  data := textEncode (memoText request lamportsTotal)

variable (H : Host)

/-- The instruction that opens the namespace in the same transaction, when the
caller asked for it. -/
def openingInstructions (options : BuildSettlementNOptions) :
    Except ProtocolError (List TransactionInstruction) :=
  match options.createNamespaceId, options.programId with
  | some namespaceId, some programId => do
      let authority := options.authority.getD options.payer
      let derived ← findNamespacePda H programId options.payer namespaceId
      ensure (options.ns = some derived.1)
        ⟨.NAMESPACE_ADDRESS,
          js "namespace must be the address createNamespaceId derives for the payer"⟩
      let instruction ← buildCreateNamespaceInstruction H
        ⟨programId, options.payer, options.payer⟩ ⟨namespaceId, authority⟩
      .ok [instruction]
  | _, _ => .ok []

/-- Build an unsigned N-way transaction. -/
def buildSettlementNTransaction (options : BuildSettlementNOptions) :
    Except ProtocolError PreparedSettlementN := do
  let request := options.request
  assertNativeAsset request.asset
  let lamportsTotal ← scaledTotal request.amountAtomic options.lamportsPerAtomicUnit
  let _ ← computeSettlementN request
  let bps := request.shares.map ShareInput.bps
  let lamportsByShare ← splitAmountAtomicShares lamportsTotal bps
  let recipients ← parseRecipients request.shares
  refuseProgramOptionsWithoutProgram options
  let opening ← openingInstructions H options
  match options.programId with
  | none =>
      .ok { transaction := opening ++ memoInstruction request lamportsTotal ::
              addTransfers options.payer recipients lamportsByShare
            mode := .systemTransfer
            lamportsTotal := lamportsTotal
            lamportsByShare := lamportsByShare }
  | some programId => do
      let ns ← requireNamespace options.ns
      let seed ← eventIdSeed H request.eventId
      let instruction ← buildSettleNInstruction H
        ⟨programId, options.payer, options.authority.getD options.payer, ns, recipients⟩
        ⟨seed.val, lamportsTotal, bps⟩
      .ok { transaction := opening ++ [memoInstruction request lamportsTotal, instruction]
            mode := .program
            lamportsTotal := lamportsTotal
            lamportsByShare := lamportsByShare }

structure SettlementSubmissionN where
  signature : JsString
  mode : SettlementMode
  lamportsTotal : Int
  /-- Lamports per share, in `request.shares` order. -/
  lamportsByShare : List Int
  deriving DecidableEq

/-- Settle an N-way request. `send` signs the transaction, sends it and waits
for its signature. -/
def submitSettlementN (send : List TransactionInstruction → Except ProtocolError JsString)
    (options : BuildSettlementNOptions) : Except ProtocolError SettlementSubmissionN := do
  let prepared ← buildSettlementNTransaction H { options with createNamespaceId := none }
  let signature ← send prepared.transaction
  .ok ⟨signature, prepared.mode, prepared.lamportsTotal, prepared.lamportsByShare⟩

/-! ### Accounts of the program -/

structure SettlementRecordAccount where
  address : Pubkey
  /-- The gross amount the record stores, in on-chain units. -/
  amount : Nat

structure FetchedNamespace extends NamespaceAccount where
  address : Pubkey

/-- Lamports sent to an address leave a system-owned account with no data. -/
def isPlainSystemAccount (account : Account) : Bool :=
  account.owner = systemProgramId ∧ account.data.length = 0

/-- What `readSettlementRecord` makes of the account it read. -/
def readSettlementRecord (programId address : Pubkey) (account : Option Account) (seed : Bytes32) :
    Except ProtocolError (Option SettlementRecordAccount) :=
  match account with
  | none => .ok none
  | some account =>
      if isPlainSystemAccount account then .ok none
      else do
        ensure (account.owner = programId ∧ account.data.length = SETTLEMENT_RECORD_SIZE ∧
            account.data[0]? = some SETTLEMENT_RECORD_DISCRIMINATOR ∧
            (account.data.take 33).drop 1 = seed.val)
          ⟨.SETTLEMENT_RECORD,
            toBase58 address ++ js " holds something other than this event's settlement record"⟩
        .ok (some ⟨address, leValue ((account.data.take 41).drop 33)⟩)

/-- What `fetchNamespace` makes of the account it read. -/
def readNamespace (programId address : Pubkey) (account : Option Account) :
    Except ProtocolError (Option FetchedNamespace) :=
  match account with
  | none => .ok none
  | some account =>
      if isPlainSystemAccount account then .ok none
      else do
        ensure (account.owner = programId)
          ⟨.NAMESPACE_ACCOUNT,
            toBase58 address ++ js " is not owned by the settlement program"⟩
        let decoded ← decodeNamespaceAccount account.data
        .ok (some { decoded with address := address })

/-- The client reads a record as the program writes it. -/
theorem readSettlementRecord_recordData {programId address : Pubkey} {account : Account}
    {eventId : Bytes32} {amount : UInt64} (notSystem : programId ≠ systemProgramId)
    (owner : account.owner = programId) (data : account.data = recordData eventId amount) :
    readSettlementRecord programId address (some account) eventId =
      .ok (some ⟨address, amount.toNat⟩) := by
  have atEvent : ((recordData eventId amount).take 33).drop 1 = eventId.val :=
    (slice_eq_some.mp (slice_middle [settlementRecordDiscriminator] rfl
      (by rw [eventId.property]; rfl))).2
  have atAmount : ((recordData eventId amount).take 41).drop 33 = u64Bytes amount := by
    refine (congrArg (List.drop 33) (List.take_of_length_le ?_)).trans ?_
    · exact (length_recordData _ _).le
    · have front : recordData eventId amount =
          (settlementRecordDiscriminator :: eventId.val) ++ u64Bytes amount := rfl
      rw [front]
      exact List.drop_left' (by simp [eventId.property])
  have notPlain : isPlainSystemAccount account = false := by
    simp [isPlainSystemAccount, owner, notSystem]
  have value : leValue (u64Bytes amount) = amount.toNat := by
    rw [u64Bytes, leValue_leBytes]
    exact Nat.mod_eq_of_lt amount.toNat_lt
  have sameEvent : account.owner = programId ∧ account.data.length = SETTLEMENT_RECORD_SIZE ∧
      account.data[0]? = some SETTLEMENT_RECORD_DISCRIMINATOR ∧
      (account.data.take 33).drop 1 = eventId.val := by
    rw [data]
    exact ⟨owner, length_recordData _ _, rfl, atEvent⟩
  simp only [readSettlementRecord, notPlain]
  rw [if_neg Bool.false_ne_true, ensure_bind_of_pos sameEvent, data, atAmount, value]

/-- The client reads a namespace as the program writes it. -/
theorem readNamespace_namespaceData {programId address : Pubkey} {account : Account}
    {bump : UInt8} {creator : Pubkey} {namespaceId : Bytes32} {authority : Pubkey}
    (notSystem : programId ≠ systemProgramId) (owner : account.owner = programId)
    (data : account.data = namespaceData bump creator namespaceId authority) :
    readNamespace programId address (some account) =
      .ok (some ⟨⟨bump, creator, namespaceId, authority⟩, address⟩) := by
  have notPlain : isPlainSystemAccount account = false := by
    simp [isPlainSystemAccount, owner, notSystem]
  simp only [readNamespace, notPlain]
  rw [if_neg Bool.false_ne_true, ensure_bind_of_pos owner, data,
    decodeNamespaceAccount_namespaceData, ok_bind]

/-! ### What a build built -/

variable {H}

theorem parseRecipients_eq_ok {shares : List ShareInput} : ∀ {keys : List Pubkey},
    parseRecipients shares = .ok keys ↔ keys.map toBase58 = shares.map ShareInput.recipient := by
  induction shares with
  | nil =>
      intro keys
      cases keys <;> simp [parseRecipients]
  | cons share rest ih =>
      intro keys
      have one (key : Pubkey) : parseRecipient share = .ok key ↔ toBase58 key = share.recipient := by
        rw [← publicKey_eq_some, parseRecipient]
        cases publicKey share.recipient <;> simp
      simp only [parseRecipients, bind_eq_ok, one, ih, Except.ok.injEq]
      constructor
      · rintro ⟨key, here, tail, later, rfl⟩
        rw [List.map_cons, List.map_cons, here, later]
      · intro same
        cases keys with
        | nil => cases same
        | cons key tail =>
            obtain ⟨here, later⟩ := List.cons.inj same
            exact ⟨key, here, tail, later, rfl⟩

theorem scaledTotal_eq_ok {amountAtomic : Int} {scale : Option Int} {total : Int} :
    scaledTotal amountAtomic scale = .ok total ↔
      0 < scale.getD 1 ∧ total ≤ U64_MAX ∧ total = amountAtomic * scale.getD 1 := by
  simp only [scaledTotal, bind_eq_ok, ensure_eq_ok, exists_const, not_le, not_lt, Except.ok.injEq]
  constructor
  · rintro ⟨positive, small, rfl⟩
    exact ⟨positive, small, rfl⟩
  · rintro ⟨positive, small, rfl⟩
    exact ⟨positive, small, rfl⟩

/-- What both modes check and compute before they differ. -/
structure NativeBuild (options : BuildSettlementNOptions) (prepared : PreparedSettlementN)
    (total : UInt64) (bps : List UInt16) (recipients : List Pubkey) : Prop where
  asset : options.request.asset = .solLamportsStandin
  scale : 0 < options.lamportsPerAtomicUnit.getD 1
  scaled : options.request.amountAtomic * options.lamportsPerAtomicUnit.getD 1 = total.toNat
  computed : ∃ result, computeSettlementN options.request = .ok result
  shares : options.request.shares.map ShareInput.bps = bps.map shareNumber
  valid : ValidSplit total bps
  keys : recipients.map toBase58 = options.request.shares.map ShareInput.recipient
  lamportsTotal : prepared.lamportsTotal = total.toNat
  lamportsByShare : prepared.lamportsByShare = (payoutsOf total bps).map Int.ofNat
  split : splitAmountAtomicShares
    (options.request.amountAtomic * options.lamportsPerAtomicUnit.getD 1)
    (options.request.shares.map ShareInput.bps) = .ok prepared.lamportsByShare

/-- The client's checks are the program's. -/
theorem ValidBps.validSplit {amount : UInt64} {bps : List UInt16}
    (valid : ValidBps (bps.map shareNumber)) (positive : amount ≠ 0) : ValidSplit amount bps where
  count := by simpa [MAX_SHARES, maxShares] using valid.count
  positive := positive
  inRange share mem := by
    have range := (valid.inRange (shareNumber share) (List.mem_map_of_mem mem)).2.2
    rw [bigintOf_shareNumber, BPS_DENOMINATOR_eq] at range
    exact_mod_cast range
  sum := by
    have sum := valid.sum
    rw [List.map_map, BPS_DENOMINATOR_eq] at sum
    have cast : ((bps.map UInt16.toNat).sum : Int) =
        (bps.map (bigintOf ∘ shareNumber)).sum := by
      rw [Nat.cast_list_sum, List.map_map]
      exact congrArg List.sum (List.map_congr_left fun share _ => (bigintOf_shareNumber share).symm)
    rw [← cast] at sum
    exact_mod_cast sum

/-- A positive total that fits is a 64-bit amount, and splits as the program
splits it. -/
theorem split_total {total : Int} {bps : List JsNumber} {amounts : List Int}
    (small : total ≤ U64_MAX) (split : splitAmountAtomicShares total bps = .ok amounts) :
    ∃ (amount : UInt64) (shares : List UInt16), total = amount.toNat ∧
      bps = shares.map shareNumber ∧ ValidSplit amount shares ∧
      amounts = (payoutsOf amount shares).map Int.ofNat := by
  obtain ⟨valid, positive, rfl⟩ := splitAmountAtomicShares_eq_ok.mp split
  obtain ⟨shares, rfl⟩ := valid.exists_shares
  have fits : total.toNat < 2 ^ 64 := by
    unfold U64_MAX at small
    omega
  have amount : (UInt64.ofNat total.toNat).toNat = total.toNat := by
    simpa using Nat.mod_eq_of_lt fits
  have nonzero : UInt64.ofNat total.toNat ≠ 0 := by
    intro zero
    rw [zero] at amount
    simp at amount
    omega
  have split := valid.validSplit nonzero
  refine ⟨UInt64.ofNat total.toNat, shares, by rw [amount]; omega, rfl, split, ?_⟩
  have room := sum_floors_le_total total.toNat split.sum.le
  have loop := payoutLoop_eq_splitFrom total.toNat 0 shares (by rwa [Nat.zero_add])
  rw [payoutsOf, amount, ← loop, Int.toNat_of_nonneg positive.le]
  rfl

/-- A build in transfer mode is the memo and one transfer per nonzero share. -/
theorem buildSettlementNTransaction_transfer {options : BuildSettlementNOptions}
    {prepared : PreparedSettlementN} (noProgram : options.programId = none)
    (built : buildSettlementNTransaction H options = .ok prepared) :
    ∃ total bps recipients, NativeBuild options prepared total bps recipients ∧
      prepared.transaction = memoInstruction options.request prepared.lamportsTotal ::
        addTransfers options.payer recipients prepared.lamportsByShare := by
  simp only [buildSettlementNTransaction, assertNativeAsset, bind_eq_ok, ensure_eq_ok,
    exists_const, scaledTotal_eq_ok, parseRecipients_eq_ok, noProgram, openingInstructions,
    Except.ok.injEq] at built
  obtain ⟨asset, total, ⟨scale, small, rfl⟩, result, computed, amounts, split, recipients, keys, _,
    _, opening, emptyOpening, rfl⟩ := built
  obtain ⟨amount, shares, totalEq, bpsEq, valid, rfl⟩ := split_total small split
  have nothing : opening = [] := by
    cases h : options.createNamespaceId <;> simp [h] at emptyOpening <;> exact emptyOpening
  exact ⟨amount, shares, recipients,
    ⟨asset, scale, totalEq, ⟨result, computed⟩, bpsEq, valid, keys, totalEq, rfl, split⟩,
    by rw [nothing, List.nil_append]⟩

/-- A build in program mode is the memo and the `SettleN` instruction, after
the instruction that opens the namespace when that was asked for. -/
theorem buildSettlementNTransaction_program {options : BuildSettlementNOptions}
    {prepared : PreparedSettlementN} {programId : Pubkey}
    (program : options.programId = some programId)
    (built : buildSettlementNTransaction H options = .ok prepared) :
    ∃ total bps recipients ns seed opening, NativeBuild options prepared total bps recipients ∧
      options.ns = some ns ∧ eventIdSeed H options.request.eventId = .ok seed ∧
      openingInstructions H options = .ok opening ∧
      (∀ key ∈ recipients, key ≠ (settlementPda H.addresses programId ns seed).1) ∧
      prepared.transaction = opening ++ [memoInstruction options.request prepared.lamportsTotal,
        settleNInstruction H.addresses
          ⟨programId, options.payer, options.authority.getD options.payer, ns, recipients⟩ seed
          total bps] := by
  simp only [buildSettlementNTransaction, assertNativeAsset, bind_eq_ok, ensure_eq_ok,
    exists_const, scaledTotal_eq_ok, parseRecipients_eq_ok, program, buildSettleNInstruction_eq_ok,
    Except.ok.injEq] at built
  obtain ⟨asset, total, ⟨scale, small, rfl⟩, result, computed, amounts, split, recipients, keys, _,
    _, opening, opened, ns, hasNs, seed, seeded, instruction, ⟨eventId, amount', bps', params, _, _, _,
      distinct, rfl⟩, rfl⟩ := built
  obtain ⟨amount, shares, totalEq, bpsEq, valid, rfl⟩ := split_total small split
  simp only [SettleNParams.mk.injEq] at params
  obtain ⟨sameSeed, sameAmount, sameBps⟩ := params
  cases Subtype.ext sameSeed
  have amountEq : amount = amount' := by
    rw [totalEq] at sameAmount
    exact UInt64.toNat_inj.mp (by exact_mod_cast sameAmount)
  have bpsSame : shares = bps' := by
    rw [bpsEq] at sameBps
    refine (List.map_injective_iff.mpr fun a b same => ?_) sameBps
    exact UInt16.toNat_inj.mp (by exact_mod_cast JsNumber.ofInt_injective same)
  subst amountEq bpsSame
  have namespaceKey : options.ns = some ns := by
    unfold requireNamespace at hasNs
    cases h : options.ns with
    | none => simp [h] at hasNs
    | some key =>
        rw [h] at hasNs
        cases hasNs
        rfl
  exact ⟨amount, shares, recipients, ns, seed, opening,
    ⟨asset, scale, totalEq, ⟨result, computed⟩, bpsEq, valid, keys, totalEq, rfl, split⟩, namespaceKey,
    seeded, opened, fun key mem => (distinct key mem).1, rfl⟩

/-- A memo names its event. -/
theorem eventId_of_memo {request request' : SettlementRequestN} {total total' : Int}
    (same : (memoInstruction request total).data = (memoInstruction request' total').data) :
    request.eventId = request'.eventId := by
  have read := congrArg utf8Text same
  simp only [memoInstruction, memoText, utf8Text_stringsText, Option.some.injEq] at read
  have members := congrArg parse read
  rw [parse_stringsText (by simp [memoMembers]), parse_stringsText (by simp [memoMembers])] at members
  simp only [memoMembers, List.map_cons, Option.some.injEq, Json.object.injEq, List.cons.injEq,
    Prod.mk.injEq, Json.string.injEq] at members
  exact members.2.1.2

/-! ### The payouts of a settlement -/

/-- The payouts that move something, share by share. -/
def nonzeroPayouts (recipients : List Pubkey) (amounts : List Int) : List (Pubkey × Int) :=
  (recipients.zip amounts).filter fun payout => 0 < payout.2

theorem addTransfers_eq (payer : Pubkey) (recipients : List Pubkey) (amounts : List Int) :
    addTransfers payer recipients amounts =
      (nonzeroPayouts recipients amounts).map fun payout =>
        systemTransferInstruction payer payout.1 payout.2 := rfl

/-- The program and the client leave out the same payouts. -/
theorem nonzeroPayouts_keys (infos : List AccountInfo) (payouts : List UInt64) :
    ((infos.zip payouts).filter fun payout => payout.2 ≠ 0).map
        (fun payout => (payout.1.key, payout.2)) =
      (nonzeroPayouts (infos.map (·.key)) (payouts.map fun payout => (payout.toNat : Int))).map
        fun payout => (payout.1, UInt64.ofNat payout.2.toNat) := by
  induction infos generalizing payouts with
  | nil => rfl
  | cons info rest ih =>
      cases payouts with
      | nil => rfl
      | cons payout payouts =>
          have tail := ih payouts
          simp only [nonzeroPayouts] at tail
          simp only [nonzeroPayouts, List.map_cons, List.zip_cons_cons]
          by_cases zero : payout = 0
          · subst zero
            rw [List.filter_cons_of_neg (by simp), List.filter_cons_of_neg (by simp), tail]
          · have positive : (0 : Int) < payout.toNat := by
              have nonzero : payout.toNat ≠ 0 := fun h => zero (UInt64.toNat_inj.mp h)
              omega
            rw [List.filter_cons_of_pos (by simpa using zero),
              List.filter_cons_of_pos (by simpa using positive), List.map_cons, List.map_cons, tail,
              Int.toNat_natCast, UInt64.ofNat_toNat]

/-- A payout of a 64-bit split is a 64-bit amount. -/
theorem toNat_of_mem_nonzeroPayouts {recipients : List Pubkey} {payouts : List UInt64}
    {payout : Pubkey × Int}
    (mem : payout ∈ nonzeroPayouts recipients (payouts.map fun payout => (payout.toNat : Int))) :
    (UInt64.ofNat payout.2.toNat).toNat = payout.2.toNat := by
  obtain ⟨amount, _, same⟩ := List.mem_map.mp (List.of_mem_zip (List.mem_filter.mp mem).1).2
  rw [← same, Int.toNat_natCast, UInt64.ofNat_toNat]

/-- The program's payout transfers, as payouts of the client. -/
theorem payoutCpis_eq (payer : Pubkey) (infos : List AccountInfo) (payouts : List UInt64) :
    payoutCpis payer (infos.zip payouts) =
      (nonzeroPayouts (infos.map (·.key)) (payouts.map fun payout => (payout.toNat : Int))).map
        fun payout => .transfer payer payout.1 payout.2.toNat := by
  have keys := congrArg (List.map fun payout : Pubkey × UInt64 =>
    Cpi.transfer payer payout.1 payout.2.toNat) (nonzeroPayouts_keys infos payouts)
  rw [List.map_map, List.map_map] at keys
  refine keys.trans (List.map_congr_left fun payout mem => ?_)
  rw [Function.comp_apply, toNat_of_mem_nonzeroPayouts mem]

/-- The program's token payouts, as payouts of the client. -/
theorem tokenPayoutCpis_eq (source mint authority : Pubkey) (decimals : UInt8)
    (infos : List AccountInfo) (payouts : List UInt64) :
    tokenPayoutCpis source mint authority decimals (infos.zip payouts) =
      (nonzeroPayouts (infos.map (·.key)) (payouts.map fun payout => (payout.toNat : Int))).map
        fun payout => .transferChecked source mint payout.1 authority
          (UInt64.ofNat payout.2.toNat) decimals := by
  have keys := congrArg (List.map fun payout : Pubkey × UInt64 =>
    Cpi.transferChecked source mint payout.1 authority payout.2 decimals)
      (nonzeroPayouts_keys infos payouts)
  rw [List.map_map, List.map_map] at keys
  exact keys

/-- The accounts of an instruction as it ran. A compiled transaction has one
entry for each key, so a key keeps its place but takes the strongest flags that
any instruction gives it. -/
def RunsOn (instruction : TransactionInstruction) (accounts : List AccountInfo) : Prop :=
  accounts.map (·.key) = instruction.keys.map (·.key)

@[simp] theorem settleNInstruction_keys (A : ProgramAddresses) (accounts : SettleNAccounts)
    (eventId : Bytes32) (amount : UInt64) (bps : List UInt16) :
    (settleNInstruction A accounts eventId amount bps).keys.map (·.key) =
      accounts.payer :: accounts.authority :: accounts.ns :: (accounts.recipients ++
        [(settlementPda A accounts.programId accounts.ns eventId).1, systemProgramId]) := by
  simp [settleNInstruction, Function.comp_def]

/-- What the program invokes when it executes the `SettleN` instruction the
client builds: the record's creation, then the payouts. -/
theorem settleNInstruction_inner {D : Deployment} (accounts : SettleNAccounts) {eventId : Bytes32}
    {amount : UInt64} {bps : List UInt16} {infos : List AccountInfo} {state : Accounts} {m : Machine}
    (count : accounts.recipients.length = bps.length)
    (small : bps.length ≠ 0 ∧ bps.length ≤ maxShares)
    (on : RunsOn (settleNInstruction D.addresses accounts eventId amount bps) infos)
    (h : processInstruction D infos
      (settleNInstruction D.addresses accounts eventId amount bps).data state = .ok m) :
    m.inner = creationCpis D accounts.payer
        (settlementPda D.addresses D.programId accounts.ns eventId).1
        (shortfallOf D state (settlementPda D.addresses D.programId accounts.ns eventId).1
          settlementRecordSize) settlementRecordSize ++
      (nonzeroPayouts accounts.recipients ((payoutsOf amount bps).map Int.ofNat)).map fun payout =>
        .transfer accounts.payer payout.1 payout.2.toNat := by
  obtain ⟨payouts, _, out, settled⟩ := processInstruction_settleN small h
  obtain ⟨payer, authority, ns, recipients, record, systemProgram, rfl, length, _, _, _, address,
    _, inner⟩ := settle_ok settled
  rw [RunsOn, settleNInstruction_keys] at on
  simp only [List.map_cons, List.map_append, List.map_nil, List.cons.injEq] at on
  obtain ⟨samePayer, _, sameNs, on⟩ := on
  have lengths : (recipients.map (·.key)).length = accounts.recipients.length := by
    have outLength := congrArg List.length out
    rw [List.length_map, length_payoutsOf] at outLength
    rw [List.length_map, count, length, outLength]
  obtain ⟨keys, _⟩ := List.append_inj on lengths
  rw [inner, payoutCpis_eq, keys, address, samePayer, sameNs, ← out, List.map_map, List.nil_append]
  rfl

/-! ### One split -/

/-- A host over the sample deployment, with a hash that can be evaluated. -/
def sampleHost : Host where
  sha256 bytes := ⟨leBytes 32 (leValue bytes), length_leBytes _ _⟩
  addresses := sampleDeployment.addresses
  isOnCurve _ := false
  inheritedText name := name

/-- Two shares of one thousand and one units. -/
def sampleRequest : SettlementRequestN where
  eventId := js "event-1"
  occurredAt := js "2026-01-01T00:00:00.000Z"
  kind := .audioAdImpression
  amountAtomic := 1001
  asset := .solLamportsStandin
  shares :=
    [⟨js "creator", toBase58 sampleRecipient, .ofInt 7000⟩,
      ⟨js "platform", toBase58 samplePayer, .ofInt 3000⟩]
  memo := js "sample"

/-- **The split is one split.** The client and the program split alike on every
64-bit amount and every list of 16-bit shares. So for one request, the amounts
that a submission reports in either mode, the transfers of the System-transfer
mode and the payouts the program makes for the `SettleN` instruction of program
mode are the same, share by share. -/
theorem settlement_amounts_agree (H : Host) :
    (∀ (amount : UInt64) (bps : List UInt16),
      (splitAmountAtomicShares amount.toNat (bps.map shareNumber)).mapError ProtocolError.code =
        ((splitShares amount bps bps.length).mapError splitErrorCode).map
          fun payouts => payouts.map fun payout => (payout.toNat : Int)) ∧
    ∀ (D : Deployment) (payer ns : Pubkey) (authority : Option Pubkey)
      (request : SettlementRequestN) (scale : Option Int)
      (send send' : List TransactionInstruction → Except ProtocolError JsString)
      (byTransfers byProgram : SettlementSubmissionN), D.addresses = H.addresses →
      submitSettlementN H send
        { payer := payer, request := request, lamportsPerAtomicUnit := scale } = .ok byTransfers →
      submitSettlementN H send'
        { payer := payer, request := request, lamportsPerAtomicUnit := scale
          programId := some D.programId, ns := some ns, authority := authority } = .ok byProgram →
      byTransfers.lamportsByShare = byProgram.lamportsByShare ∧
      ∃ (recipients : List Pubkey) (transfers settlement : PreparedSettlementN)
        (settle : TransactionInstruction),
        recipients.map toBase58 = request.shares.map ShareInput.recipient ∧
        recipients.length = byProgram.lamportsByShare.length ∧
        buildSettlementNTransaction H
          { payer := payer, request := request, lamportsPerAtomicUnit := scale } = .ok transfers ∧
        transfers.transaction.drop 1 =
          (nonzeroPayouts recipients byProgram.lamportsByShare).map (fun payout =>
            systemTransferInstruction payer payout.1 payout.2) ∧
        buildSettlementNTransaction H
          { payer := payer, request := request, lamportsPerAtomicUnit := scale
            programId := some D.programId, ns := some ns, authority := authority } =
              .ok settlement ∧
        settlement.transaction.drop 1 = [settle] ∧ settle.programId = D.programId ∧
        ∀ (accounts : List AccountInfo) (state : Accounts) (m : Machine), RunsOn settle accounts →
          processInstruction D accounts settle.data state = .ok m →
          ∃ record, m.inner =
            creationCpis D payer record (shortfallOf D state record settlementRecordSize)
              settlementRecordSize ++
            (nonzeroPayouts recipients byProgram.lamportsByShare).map fun payout =>
              .transfer payer payout.1 payout.2.toNat := by
  refine ⟨splitAmountAtomicShares_eq_splitShares, ?_⟩
  intro D payer ns authority request scale send send' byTransfers byProgram sameAddresses
    transferred settled
  obtain ⟨transfers, builtTransfers, transferred⟩ := bind_eq_ok.mp transferred
  obtain ⟨_, _, reported⟩ := bind_eq_ok.mp transferred
  obtain ⟨settlement, builtSettlement, settled⟩ := bind_eq_ok.mp settled
  obtain ⟨_, _, reported'⟩ := bind_eq_ok.mp settled
  cases reported
  cases reported'
  obtain ⟨total, bps, recipients, native, transferList⟩ :=
    buildSettlementNTransaction_transfer rfl builtTransfers
  obtain ⟨total', bps', recipients', ns', seed, opening, native', sameNs, _, opened, _, settleList⟩ :=
    buildSettlementNTransaction_program rfl builtSettlement
  -- both modes read the same request
  have totals : total = total' :=
    UInt64.toNat_inj.mp (by exact_mod_cast native.scaled.symm.trans native'.scaled)
  have shares : bps = bps' := by
    refine (List.map_injective_iff.mpr fun a b same => ?_) (native.shares.symm.trans native'.shares)
    exact UInt16.toNat_inj.mp (by exact_mod_cast JsNumber.ofInt_injective same)
  have keys : recipients = recipients' :=
    (List.map_injective_iff.mpr fun _ _ => toBase58_injective) (native.keys.trans native'.keys.symm)
  subst totals shares keys
  cases sameNs
  cases opened
  have amounts : transfers.lamportsByShare = settlement.lamportsByShare :=
    native.lamportsByShare.trans native'.lamportsByShare.symm
  have count : recipients.length = bps.length := by
    have keyCount := congrArg List.length native.keys
    have shareCount := congrArg List.length native.shares
    simp only [List.length_map] at keyCount shareCount
    rw [keyCount, shareCount]
  refine ⟨amounts, recipients, transfers, settlement, _, native.keys, ?_, builtTransfers, ?_,
    builtSettlement, by rw [settleList]; rfl, rfl, ?_⟩
  · rw [native'.lamportsByShare, List.length_map, length_payoutsOf, count]
  · rw [transferList, List.drop_one, List.tail_cons, addTransfers_eq, amounts]
  · intro accounts state m on executed
    rw [← sameAddresses] at on executed
    have inner := settleNInstruction_inner
      ⟨D.programId, payer, authority.getD payer, ns, recipients⟩ count
      native.valid.count on executed
    rw [native'.lamportsByShare]
    exact ⟨_, inner⟩

/-- Both modes report the same two amounts for the sample request. -/
theorem settlement_amounts_agree_sample :
    ∃ byTransfers byProgram,
      submitSettlementN sampleHost (fun _ => .ok (js "sent"))
        { payer := samplePayer, request := sampleRequest } = .ok byTransfers ∧
      submitSettlementN sampleHost (fun _ => .ok (js "sent"))
        { payer := samplePayer, request := sampleRequest, programId := some sampleDeployment.programId
          ns := some sampleNamespace, authority := some sampleAuthority } = .ok byProgram ∧
      byTransfers.lamportsByShare = byProgram.lamportsByShare := by
  have byTransfers : submitSettlementN sampleHost (fun _ => .ok (js "sent"))
      { payer := samplePayer, request := sampleRequest } =
        .ok ⟨js "sent", .systemTransfer, 1001, [700, 301]⟩ := by decide +kernel
  have byProgram : submitSettlementN sampleHost (fun _ => .ok (js "sent"))
      { payer := samplePayer, request := sampleRequest, programId := some sampleDeployment.programId
        ns := some sampleNamespace, authority := some sampleAuthority } =
        .ok ⟨js "sent", .program, 1001, [700, 301]⟩ := by decide +kernel
  exact ⟨_, _, byTransfers, byProgram, ((settlement_amounts_agree sampleHost).2 sampleDeployment
    samplePayer sampleNamespace (some sampleAuthority) sampleRequest none _ _ _ _ rfl byTransfers
    byProgram).1⟩

end Synxed.Sdk
