import Synxed.Program.TokenPayouts
import Synxed.Sdk.Completeness
import Synxed.Sdk.TokenClient

/-!
Completeness of token reconciliation: every token settlement that the SDK builds
and the program executes reconciles again from truthful evidence
(`own_token_settlement_reconciles`). A node writes token amounts as text, so
nothing depends on their size.
-/

namespace Synxed.Sdk

open Synxed.Lib Synxed.Program

variable {D : Deployment}

/-! ### What the transfer parser reads -/

/-- The transfer a token transfer is observed as. -/
def observedTokenTransfer : Cpi → Option ObservedTokenTransfer
  | .transferChecked source mint destination _ amount decimals =>
      some ⟨⟨toBase58 source, toBase58 destination, amount.toNat⟩, toBase58 mint, decimals.toNat⟩
  | _ => none

theorem decimalText_isDigits (n : Nat) : (decimalText n).all isDigit = true :=
  List.all_eq_true.mpr fun _ mem => isDigit_of_mem_decimalText mem

/-- The parser on a truthful instruction: it reads checked transfers and passes
over what the System program did. -/
theorem parseTokenTransfer_shown {cpi : Cpi} {instruction : RpcInstruction}
    (shows : ShowsCpi cpi instruction) :
    parseTokenTransfer instruction = .ok (observedTokenTransfer cpi) := by
  have system {kind : JsString} {info : Json}
      (shown : ShownAs instruction systemProgramId (js "system") kind info) :
      parseTokenTransfer instruction = .ok none := by
    have other : js "system" ≠ js "spl-token" := by decide
    rw [parseTokenTransfer, shown.notRaw, shown.program]
    simp [other]
  cases cpi with
  | transfer source destination lamports =>
      obtain ⟨info, shown, _⟩ := shows
      exact system shown
  | allocate account space =>
      obtain ⟨info, shown, _⟩ := shows
      exact system shown
  | assign account owner =>
      obtain ⟨info, shown, _⟩ := shows
      exact system shown
  | transferChecked source mint destination authority amount decimals =>
      obtain ⟨info, tokenAmount, shown, sourceText, mintText, destinationText, _, tokenAmountAt,
        isRecord, amountText, decimalsNumber⟩ := shows
      obtain ⟨parsed, isParsed, record, kindText, infoAt⟩ := shown.parsed
      have right : parsed.hasText (js "type") (js "transferChecked") = true := by
        rw [Json.hasText, kindText]
        exact decide_eq_true rfl
      have amountRecord : ((info.get (js "tokenAmount")).map Json.isRecord) = some true := by
        rw [tokenAmountAt, Option.map_some, isRecord]
      have fields : tokenTransferFields info =
          some ⟨⟨toBase58 source, toBase58 destination, amount.toNat⟩, toBase58 mint,
            decimals.toNat⟩ := by
        simp only [tokenTransferFields, sourceText, destinationText, mintText, tokenAmountAt,
          amountText, decimalsNumber, JsNumber.toInt?_ofInt, digitsValue_decimalText]
        rw [if_pos ⟨decimalText_ne_nil _, decimalText_isDigits _⟩]
      rw [parseTokenTransfer, shown.notRaw, shown.program, isParsed]
      simp only [Option.isSome_none, Bool.false_eq_true, if_false, ne_eq, not_true_eq_false]
      rw [ensure_bind_of_pos ⟨record, right⟩]
      simp only [infoAt]
      rw [ensure_bind_of_pos ⟨shown.info, amountRecord⟩, fields]
      rfl

theorem collect_parseTokenTransfer {cpis : List Cpi} {instructions : List RpcInstruction}
    (shown : List.Forall₂ ShowsCpi cpis instructions) :
    collect parseTokenTransfer instructions = .ok (cpis.filterMap observedTokenTransfer) := by
  induction shown with
  | nil => rfl
  | @cons cpi instruction cpis instructions here later ih =>
      rw [collect, parseTokenTransfer_shown here, ok_bind, ih, ok_bind]
      cases found : observedTokenTransfer cpi <;> simp [found]

/-! ### The transaction of a build -/

/-- An instruction of another program that is no memo. -/
def IsForeign (top : TopLevel D) : Prop :=
  ∃ programId data different, top = .other programId data different ∧ programId ≠ MEMO_PROGRAM_ID

/-- What ran for a token build: the memo, what made the recipients' accounts,
and the settlement. -/
theorem ranTokenBuilt_of_runs {memo settle : TransactionInstruction}
    {creations : List TransactionInstruction} {payer mint : Pubkey} {executed : List (TopLevel D)}
    {members : List (JsString × JsString)} (isMemo : memo.data = textEncode (objectText members))
    (created : ∀ instruction ∈ creations, ∃ tokenAccount owner, instruction =
      createAssociatedTokenAccountIdempotentInstruction payer tokenAccount owner mint)
    (ours : settle.programId = D.programId)
    (runs : List.Forall₂ Runs (memo :: (creations ++ [settle])) executed) :
    ∃ different others accounts before after ran, (∀ top ∈ others, IsForeign top) ∧
      RunsOn settle accounts ∧
      executed = .other memo.programId memo.data different ::
        (others ++ [.program accounts settle.data before after ran]) := by
  rcases runs with _ | ⟨memoRuns, rest⟩
  obtain ⟨different, rfl⟩ := runs_other (isMemo ▸ unpack_objectText members) memoRuns
  suffices tail : ∀ executed, List.Forall₂ Runs (creations ++ [settle]) executed →
      ∃ others accounts before after ran, (∀ top ∈ others, IsForeign top) ∧
        RunsOn settle accounts ∧
        executed = others ++ [.program (D := D) accounts settle.data before after ran] by
    obtain ⟨others, accounts, before, after, ran, foreign, on, rfl⟩ := tail _ rest
    exact ⟨different, others, accounts, before, after, ran, foreign, on, rfl⟩
  clear rest memoRuns
  induction creations with
  | nil =>
      intro executed runs
      rcases runs with _ | ⟨settleRuns, _ | _⟩
      obtain ⟨accounts, before, after, ran, on, rfl⟩ := runs_program ours settleRuns
      exact ⟨[], accounts, before, after, ran, by simp, on, rfl⟩
  | cons creation rest ih =>
      intro executed runs
      rcases runs with _ | ⟨creationRuns, later⟩
      obtain ⟨tokenAccount, owner, rfl⟩ := created creation List.mem_cons_self
      obtain ⟨elsewhere, rfl⟩ := runs_other (by rfl) creationRuns
      obtain ⟨others, accounts, before, after, ran, foreign, on, rfl⟩ :=
        ih (fun instruction mem => created instruction (List.mem_cons_of_mem _ mem)) _ later
      refine ⟨_ :: others, accounts, before, after, ran, ?_, on, rfl⟩
      intro top mem
      rcases List.mem_cons.mp mem with rfl | mem
      · exact ⟨_, _, elsewhere, rfl, show ASSOCIATED_TOKEN_PROGRAM_ID ≠ MEMO_PROGRAM_ID by decide⟩
      · exact foreign top mem

/-! ### The evidence of a build -/

section Evidence

variable {accounts : List AccountInfo} {data : Bytes} {before : Accounts} {after : Machine}
  {ran : processInstruction D accounts data before = .ok after} {others : List (TopLevel D)}

/-- Behind other programs' instructions, the settlement is the one raw
instruction. -/
theorem rawInstructions_settlement (elsewhere : ∀ top ∈ others, top.programId ≠ D.programId) :
    ∀ {index : Nat} {instructions : List RpcInstruction},
    List.Forall₂ ShowsTopLevel (others ++ [.program accounts data before after ran]) instructions →
      rawInstructions D.programId index instructions =
        .ok [(index + others.length, ⟨D.programId, accounts.map (·.key), base58Encode data⟩)] := by
  induction others with
  | nil =>
      intro index instructions shown
      rcases shown with _ | ⟨⟨id, raw⟩, _ | _⟩
      rw [rawInstructions, if_pos id, raw]
      rfl
  | cons top rest ih =>
      intro index instructions shown
      rcases shown with _ | ⟨here, later⟩
      have notOurs := elsewhere top List.mem_cons_self
      cases top with
      | program _ _ _ _ _ => exact absurd rfl notOurs
      | other programId data different =>
          rw [rawInstructions, if_neg (here.1 ▸ different),
            ih (fun top mem => elsewhere top (List.mem_cons_of_mem _ mem)) later, List.length_cons,
            Nat.add_assoc, Nat.add_comm 1]

/-- No foreign instruction is shown as a memo, and no settlement either. -/
theorem no_memo_shown (foreign : ∀ top ∈ others, IsForeign top)
    (different : MEMO_PROGRAM_ID ≠ D.programId) : ∀ {instructions : List RpcInstruction},
    List.Forall₂ ShowsTopLevel (others ++ [.program accounts data before after ran]) instructions →
      (instructions.filter fun instruction => instruction.programId = MEMO_PROGRAM_ID) = [] := by
  induction others with
  | nil =>
      intro instructions shown
      rcases shown with _ | ⟨⟨id, _⟩, _ | _⟩
      rw [List.filter_cons_of_neg (by simpa [id] using different.symm), List.filter_nil]
  | cons top rest ih =>
      intro instructions shown
      rcases shown with _ | ⟨here, later⟩
      obtain ⟨programId, data, _, rfl, notMemo⟩ := foreign top List.mem_cons_self
      rw [List.filter_cons_of_neg (by simpa [here.1] using notMemo),
        ih (fun top mem => foreign top (List.mem_cons_of_mem _ mem)) later]

variable {transaction : ParsedTransaction} {members : List (JsString × JsString)}
  {values : List (JsString × Json)} {different : MEMO_PROGRAM_ID ≠ D.programId}

theorem findSettlementInstruction_token (foreign : ∀ top ∈ others, IsForeign top) {memo : Bytes}
    (tag : data[0]? = some SETTLE_TOKEN_N_TAG)
    (shown : List.Forall₂ ShowsTopLevel (.other MEMO_PROGRAM_ID memo different ::
      (others ++ [.program accounts data before after ran])) transaction.instructions) :
    findSettlementInstruction transaction D.programId =
      .ok (others.length + 1, ⟨D.programId, accounts.map (·.key), base58Encode data⟩) := by
  have elsewhere : ∀ top ∈ TopLevel.other MEMO_PROGRAM_ID memo different :: others,
      top.programId ≠ D.programId := by
    intro top mem
    rcases List.mem_cons.mp mem with rfl | mem
    · exact different
    · obtain ⟨_, _, notOurs, rfl, _⟩ := foreign top mem
      exact notOurs
  have raws : rawInstructions D.programId 0 transaction.instructions = _ :=
    rawInstructions_settlement elsewhere shown
  have settleTag : instructionTag (base58Encode data) = some SETTLE_TOKEN_N_TAG := by
    rw [instructionTag, decodeData, base58Decode_encode, Option.getD_some, tag]
  rw [findSettlementInstruction, raws, ok_bind]
  simp [settleTag, SETTLE_TOKEN_N_TAG, CREATE_NAMESPACE_TAG]

theorem extractMemo_token (foreign : ∀ top ∈ others, IsForeign top)
    (text : utf8Text (textEncode (objectText members)) = some (objectText members))
    (parsed : parse (objectText members) = some (.object values))
    (shown : List.Forall₂ ShowsTopLevel
      (.other MEMO_PROGRAM_ID (textEncode (objectText members)) different ::
        (others ++ [.program accounts data before after ran])) transaction.instructions) :
    extractMemo transaction = .ok (.object values) := by
  rw [extractMemo]
  generalize transaction.instructions = instructions at shown
  rcases shown with _ | ⟨⟨memoId, memoText⟩, rest⟩
  rw [List.filter_cons_of_pos (by simpa using memoId), no_memo_shown foreign different rest]
  simp only [memoText rfl, text, Option.map_some, parsed, Json.isRecord]
  rfl

end Evidence

/-! ### The memo of a build -/

/-- What a token memo says. -/
def tokenMemoValues (request : SettlementRequestN) (tokenAmount : Int) (mint : Pubkey)
    (decimals : JsNumber) : List (JsString × Json) :=
  [(js "protocol", .string (js "synxed-settlement")), (js "event", .string request.eventId),
    (js "occurredAt", .string request.occurredAt), (js "kind", .string request.kind.text),
    (js "asset", .string request.asset.text), (js "tokenAmount", .string (bigintText tokenAmount)),
    (js "mint", .string (toBase58 mint)), (js "decimals", .number decimals),
    (js "memo", .string request.memo)]

theorem numberText_byte (H : ClientHost) (byte : UInt8) :
    numberText H (.ofInt byte.toNat) = decimalText byte.toNat := by
  have small := byte.toNat_lt
  have whole : ((byte.toNat : Int) : ℚ).den = 1 := Rat.den_intCast _
  have few : (byte.toNat : Int).natAbs < 10 ^ 21 := by
    rw [Int.natAbs_natCast]
    omega
  rw [JsNumber.ofInt, numberText, if_pos whole, Rat.num_intCast, integerText, if_pos few,
    bigintText, if_neg (by omega), Int.natAbs_natCast]

/-- A token memo survives UTF-8 and is read back. -/
theorem tokenMemo_read (H : ClientHost) (request : SettlementRequestN) (tokenAmount : Int)
    (mint : Pubkey) (decimals : UInt8) :
    utf8Text (textEncode (objectText
        (tokenMemoMembers H request tokenAmount mint (.ofInt decimals.toNat)))) =
      some (objectText (tokenMemoMembers H request tokenAmount mint (.ofInt decimals.toNat))) ∧
    parse (objectText (tokenMemoMembers H request tokenAmount mint (.ofInt decimals.toNat))) =
      some (.object (tokenMemoValues request tokenAmount mint (.ofInt decimals.toNat))) := by
  have small : decimals.toNat < 2 ^ 53 := decimals.toNat_lt.trans (by decide)
  have read (text : JsString) : IsText (quote text) ∧ Parses (quote text) (.string text) :=
    ⟨isText_quote text, quote_parses text⟩
  constructor
  · refine utf8Text_objectText ?_
    simp [tokenMemoMembers, numberText_byte, read, isText_decimalText]
  · refine parse_objectText ?_ (by simp [tokenMemoMembers])
    simp [tokenMemoMembers, tokenMemoValues, numberText_byte, read, decimalText_parses small]

/-- The memo of a build matches its request. -/
theorem tokenMemoMatches_values (request : SettlementRequestN) (total : Int) (mint : Pubkey)
    (decimals : UInt8) :
    TokenMemoMatches (.object (tokenMemoValues request total mint (.ofInt decimals.toNat))) request
      total mint (.ofInt decimals.toNat) := by
  refine ⟨?_, ?_, ?_, ?_, ?_, ?_, ?_, ?_, ?_⟩
  case refine_8 =>
    have found : (Json.object (tokenMemoValues request total mint (.ofInt decimals.toNat))).get
        (js "decimals") = some (.number (.ofInt decimals.toNat)) := rfl
    rw [hasNumber, found]
    simp [JsNumber.ofInt]
  all_goals exact Json.hasText_of_get rfl

/-! ### The observation of a build -/

variable {H : ClientHost}

@[simp] theorem settleTokenNInstruction_keys (A : ProgramAddresses) (accounts : SettleTokenNAccounts)
    (eventId : Bytes32) (amount : UInt64) (decimals : UInt8) (bps : List UInt16) :
    (settleTokenNInstruction A accounts eventId amount decimals bps).keys.map (·.key) =
      accounts.payer :: accounts.authority :: accounts.ns :: accounts.sourceTokenAccount ::
        (accounts.recipientTokenAccounts ++ [accounts.mint,
          (settlementPda A accounts.programId accounts.ns eventId).1, systemProgramId,
          tokenProgramId]) := by
  simp [settleTokenNInstruction, Function.comp_def]

/-- What the program invokes when it executes the `SettleTokenN` instruction the
client builds: the record's creation, then the token payouts. -/
theorem settleTokenNInstruction_inner (settle : SettleTokenNAccounts) {eventId : Bytes32}
    {amount : UInt64} {decimals : UInt8} {bps : List UInt16} {infos : List AccountInfo}
    {before : Accounts} {after : Machine}
    (count : settle.recipientTokenAccounts.length = bps.length)
    (small : bps.length ≠ 0 ∧ bps.length ≤ maxShares)
    (on : RunsOn (settleTokenNInstruction D.addresses settle eventId amount decimals bps) infos)
    (ran : processInstruction D infos
      (SettlementInstruction.settleTokenN eventId amount decimals bps).pack before = .ok after) :
    ∃ shortfall, after.inner = creationCpis D settle.payer
        (settlementPda D.addresses D.programId settle.ns eventId).1 shortfall settlementRecordSize ++
      (nonzeroPayouts settle.recipientTokenAccounts ((payoutsOf amount bps).map Int.ofNat)).map
        fun payout => .transferChecked settle.sourceTokenAccount settle.mint payout.1 settle.payer
          (UInt64.ofNat payout.2.toNat) decimals := by
  obtain ⟨payer, authority, ns, source, destinations, mint, record, systemProgram, tokenProgram, keys,
    settled⟩ := settledToken_of_ran small ran
  obtain ⟨_, _, _, _, _, same, payerAt, nsAt, address, _, _, _, length, inner⟩ := settled
  rw [TopLevel.program.injEq] at same
  obtain ⟨rfl, _, rfl, rfl⟩ := same
  rw [RunsOn, settleTokenNInstruction_keys, keys] at on
  simp only [List.cons.injEq] at on
  obtain ⟨rfl, rfl, rfl, rfl, rest⟩ := on
  obtain ⟨rfl, last⟩ := List.append_inj rest (length.trans count.symm)
  obtain ⟨rfl, _⟩ := List.cons.inj last
  rw [address] at inner
  exact ⟨_, inner⟩

/-- What the evidence of a built token settlement says. -/
def builtTokenObservation (A : ProgramAddresses) (settle : SettleTokenNAccounts) (seed : Bytes32)
    (amount : UInt64) (decimals : UInt8) (bps : List UInt16) (signature : JsString) (slot : Nat)
    (blockTime : Int) (inner : List Cpi) (memo : Json) : ProgramTokenSettlementObservation where
  signature := signature
  slot := slot
  blockTime := blockTime
  programId := toBase58 settle.programId
  payer := toBase58 settle.payer
  authority := toBase58 settle.authority
  ns := toBase58 settle.ns
  sourceTokenAccount := toBase58 settle.sourceTokenAccount
  recipientTokenAccounts := settle.recipientTokenAccounts.map toBase58
  mint := toBase58 settle.mint
  record := toBase58 (settlementPda A settle.programId settle.ns seed).1
  eventSeedHex := hexText seed.val
  amountOnChain := amount.toNat
  decimals := decimals.toNat
  bps := bps.map shareNumber
  transfers := inner.filterMap observedTokenTransfer
  memo := memo

/-- Truthful evidence of a built token settlement is accepted. -/
theorem observeProgramTokenSettlement_built (settle : SettleTokenNAccounts) {seed : Bytes32}
    {amount : UInt64} {decimals : UInt8} {bps : List UInt16} {signature : JsString}
    {blockTime : Int} {members : List (JsString × JsString)} {values : List (JsString × Json)}
    {accounts : List AccountInfo} {before : Accounts} {after : Machine}
    {ran : processInstruction D accounts
      (SettlementInstruction.settleTokenN seed amount decimals bps).pack before = .ok after}
    {others executed : List (TopLevel D)} {different : MEMO_PROGRAM_ID ≠ D.programId}
    {transaction : ParsedTransaction}
    (on : RunsOn (settleTokenNInstruction H.addresses settle seed amount decimals bps) accounts)
    (program : settle.programId = D.programId)
    (count : settle.recipientTokenAccounts.length = bps.length)
    (small : bps.length ≠ 0 ∧ bps.length ≤ maxShares) (invoked : after.inner ≠ [])
    (foreign : ∀ top ∈ others, IsForeign top)
    (text : utf8Text (textEncode (objectText members)) = some (objectText members))
    (parsed : parse (objectText members) = some (.object values))
    (isExecuted : executed = .other MEMO_PROGRAM_ID (textEncode (objectText members)) different ::
      (others ++ [.program accounts _ before after ran]))
    (truthful : Truthful executed transaction) (signed : signature ∈ transaction.signatures)
    (timed : transaction.blockTime = some blockTime) :
    observeProgramTokenSettlement H.toHost transaction signature D.programId =
      .ok (builtTokenObservation H.addresses settle seed amount decimals bps signature
        transaction.slot blockTime after.inner (.object values)) := by
  subst isExecuted
  obtain ⟨metadata, hasMetadata, noError, groups⟩ := truthful.succeeded
  have succeeded : assertSucceeded transaction signature = .ok (metadata, blockTime) :=
    assertSucceeded_eq_ok.mpr ⟨hasMetadata, noError, signed, timed⟩
  have keys : accounts.map (·.key) = settle.payer :: settle.authority :: settle.ns ::
      settle.sourceTokenAccount :: (settle.recipientTokenAccounts ++ [settle.mint,
        (settlementPda H.addresses settle.programId settle.ns seed).1, systemProgramId,
        tokenProgramId]) :=
    on.trans (settleTokenNInstruction_keys _ _ _ _ _ _)
  have found := findSettlementInstruction_token foreign rfl truthful.instructions
  have decoded : decodeSettleTokenNData
      (base58Encode (SettlementInstruction.settleTokenN seed amount decimals bps).pack) =
        .ok ⟨seed.val, amount.toNat, [decimals], bps.map shareNumber⟩ :=
    decodeSettleTokenNData_eq_ok.mpr
      ⟨seed, amount, decimals, bps, small.1, small.2, base58Decode_encode _, rfl⟩
  have memo := extractMemo_token foreign text parsed truthful.instructions
  have derived : findSettlementRecordPda H.toHost D.programId settle.ns seed.val =
      .ok (settlementPda H.addresses settle.programId settle.ns seed) := by
    rw [findSettlementRecordPda_eq, program]
  have atIndex : (TopLevel.other MEMO_PROGRAM_ID (textEncode (objectText members)) different ::
      (others ++ [.program accounts _ before after ran]))[others.length + 1]? =
        some (.program accounts _ before after ran) := by
    simp
  obtain ⟨group, groupAt, shown⟩ := groups _ _ _ _ _ ran atIndex invoked
  have inner : innerInstructionsOf metadata (others.length + 1)
      (js "token settlement instruction has no recorded inner instructions") =
        .ok group.instructions := by
    rw [innerInstructionsOf, groupAt]
  -- the accounts behind the recipients
  have behind (i : Nat) : accountAt (settle.payer :: settle.authority :: settle.ns ::
      settle.sourceTokenAccount :: (settle.recipientTokenAccounts ++ [settle.mint,
        (settlementPda H.addresses settle.programId settle.ns seed).1, systemProgramId,
        tokenProgramId])) (4 + i + bps.length) =
      accountAt [settle.mint, (settlementPda H.addresses settle.programId settle.ns seed).1,
        systemProgramId, tokenProgramId] i := by
    rw [accountAt, accountAt, ← count,
      show 4 + i + settle.recipientTokenAccounts.length =
        settle.recipientTokenAccounts.length + i + 4 by omega]
    simp [List.getElem?_append_right]
  have length : (settle.payer :: settle.authority :: settle.ns ::
      settle.sourceTokenAccount :: (settle.recipientTokenAccounts ++ [settle.mint,
        (settlementPda H.addresses settle.programId settle.ns seed).1, systemProgramId,
        tokenProgramId])).length = bps.length + 8 := by
    simp [count]
  have recipients : ((settle.payer :: settle.authority :: settle.ns ::
      settle.sourceTokenAccount :: (settle.recipientTokenAccounts ++ [settle.mint,
        (settlementPda H.addresses settle.programId settle.ns seed).1, systemProgramId,
        tokenProgramId])).drop 4).take bps.length = settle.recipientTokenAccounts :=
    observed_recipients [settle.payer, settle.authority, settle.ns, settle.sourceTokenAccount] count
  have nsAt : accountAt (settle.payer :: settle.authority :: settle.ns ::
      settle.sourceTokenAccount :: (settle.recipientTokenAccounts ++ [settle.mint,
        (settlementPda H.addresses settle.programId settle.ns seed).1, systemProgramId,
        tokenProgramId])) 2 = settle.ns := rfl
  rw [observeProgramTokenSettlement, succeeded, ok_bind]
  simp only [found, ok_bind, decoded, keys, List.length_map]
  rw [ensure_bind_of_pos length, nsAt, derived, protocolCall]
  simp only [Except.mapError, ok_bind, memo, inner, collect_parseTokenTransfer shown, recipients,
    behind 0, behind 1, behind 2, behind 3]
  rw [ensure_bind_of_pos (by simp [accountAt])]
  simp only [builtTokenObservation, program]
  rfl

/-! ### A build reconciles -/

theorem sameNumbers_shareNumber (bps : List UInt16) :
    sameNumbers (bps.map shareNumber) (bps.map shareNumber) := by
  simp only [sameNumbers, decide_eq_true_eq, true_and]
  intro value mem
  obtain ⟨share, _, rfl⟩ := List.mem_map.mp mem
  exact JsNumber.noConfusion

/-- The observed payouts of a built settlement are the expected ones, also for
recipients that occur more than once. -/
theorem token_observed_eq_expected {payer record source mint authority : Pubkey}
    {shortfall size : Nat} {decimals : UInt8} {destinations : List Pubkey} {payouts : List UInt64} :
    expectedTransfers (fun destination amount => tokenTransferKey (toBase58 source) destination
        (toBase58 mint) amount decimals.toNat) (destinations.map toBase58)
        (payouts.map fun payout => (payout.toNat : Int)) =
      ((creationCpis D payer record shortfall size ++
          (nonzeroPayouts destinations (payouts.map fun payout => (payout.toNat : Int))).map
            fun payout => Cpi.transferChecked source mint payout.1 authority
              (UInt64.ofNat payout.2.toNat) decimals).filterMap observedTokenTransfer).map
        fun transfer => tokenTransferKey transfer.source transfer.destination transfer.mint
          transfer.amountOnChain transfer.decimals := by
  have creation : (creationCpis D payer record shortfall size).filterMap observedTokenTransfer =
      [] := by
    by_cases missing : shortfall > 0 <;> simp [creationCpis, missing, observedTokenTransfer]
  rw [List.filterMap_append, creation, List.nil_append]
  induction destinations generalizing payouts with
  | nil => simp [expectedTransfers, nonzeroPayouts]
  | cons destination rest ih =>
      cases payouts with
      | nil => rfl
      | cons payout payouts =>
          have tail := @ih payouts
          simp only [expectedTransfers, nonzeroPayouts] at tail
          simp only [expectedTransfers, nonzeroPayouts, List.map_cons, List.zip_cons_cons]
          by_cases zero : payout = 0
          · rw [List.filter_cons_of_neg (by simp [zero]), List.filter_cons_of_neg (by simp [zero]),
              tail]
          · have nonzero : payout.toNat ≠ 0 := fun h => zero (UInt64.toNat_inj.mp h)
            have positive : (0 : Int) < payout.toNat := by omega
            have shown : observedTokenTransfer (.transferChecked source mint destination authority
                (UInt64.ofNat (payout.toNat : Int).toNat) decimals) =
                  some ⟨⟨toBase58 source, toBase58 destination, payout.toNat⟩, toBase58 mint,
                    decimals.toNat⟩ := by
              rw [Int.toNat_natCast, UInt64.ofNat_toNat, observedTokenTransfer]
            rw [List.filter_cons_of_pos (by simpa using nonzero),
              List.filter_cons_of_pos (by simpa using positive), List.map_cons, List.map_cons,
              List.filterMap_cons_some shown, List.map_cons, tail]

/-- **Completeness of token reconciliation.** Take any transaction that
`buildTokenSettlementNTransaction` returns, any execution of it that succeeds,
and truthful evidence of it with a block time that is a date. Reconciling it
with its own request, mint, decimals, namespace and scale succeeds. -/
theorem own_token_settlement_reconciles (H : ClientHost) (D : Deployment)
    (sameAddresses : D.addresses = H.addresses) (options : BuildTokenSettlementNOptions)
    (prepared : PreparedTokenSettlementN) (program : options.programId = D.programId)
    (built : buildTokenSettlementNTransaction H options = .ok prepared)
    (executed : List (TopLevel D)) (runs : List.Forall₂ Runs prepared.transaction executed)
    (transaction : ParsedTransaction) (truthful : Truthful executed transaction)
    (signature : JsString) (signed : signature ∈ transaction.signatures) (blockTime : Int)
    (timed : transaction.blockTime = some blockTime)
    (date : (toISOString (blockTime * 1000)).isSome)
    (given : ReconcileObservedTokenSettlementNOptions) (sameRequest : given.request = options.request)
    (sameMint : given.mint = options.mint) (sameDecimals : given.decimals = options.decimals)
    (sameNs : given.ns = options.ns)
    (sameScale : given.tokenBaseUnitsPerAtomicUnit = options.tokenBaseUnitsPerAtomicUnit.getD 1)
    (named : ∀ own ∈ given.beneficiaryIds, trim own.2 ≠ []) :
    ∃ observation reconciliation,
      observeProgramTokenSettlement H.toHost transaction signature D.programId = .ok observation ∧
      reconcileObservedTokenSettlementN H.toHost observation given = .ok reconciliation := by
  obtain ⟨seed, total, decimals, bps, wallets, build⟩ := buildTokenSettlementNTransaction_ok built
  obtain ⟨creations, created, isTransaction⟩ := build.transaction
  rw [isTransaction] at runs
  obtain ⟨different, others, accounts, before, after, ran, foreign, on, isExecuted⟩ :=
    ranTokenBuilt_of_runs (by rfl) created program runs
  have count : (settleTokenAccounts H.toHost options wallets).recipientTokenAccounts.length =
      bps.length := by
    have keyCount := congrArg List.length build.keys
    have shareCount := congrArg List.length build.shares
    simp only [List.length_map] at keyCount shareCount
    rw [settleTokenAccounts, List.length_map, keyCount, shareCount]
  obtain ⟨text, parsed⟩ := tokenMemo_read H options.request total.toNat options.mint decimals
  rw [build.exponent] at isExecuted
  rw [← sameAddresses] at on
  obtain ⟨shortfall, inner⟩ := settleTokenNInstruction_inner (D := D) _ count build.valid.count on ran
  rw [sameAddresses] at on
  have observed := observeProgramTokenSettlement_built _ on program count build.valid.count
    (by rw [inner]; simp [creationCpis]) foreign text parsed isExecuted truthful signed timed
  obtain ⟨time, isDate⟩ := Option.isSome_iff_exists.mp date
  obtain ⟨payouts, values⟩ := build.valid.exists_payouts
  refine ⟨_, _, observed, reconcileObservedTokenSettlementN_eq_ok.mpr ⟨options.payer, wallets,
    (payoutsOf total bps).map Int.ofNat, time, ?_, isDate, rfl⟩⟩
  exact
    { scale := by rw [sameScale]; exact build.scale
      ns := by rw [sameNs]; rfl
      event := ⟨seed, by rw [sameRequest]; exact build.seeded, rfl⟩
      amount := by
        rw [sameRequest, sameScale, build.scaled]
        rfl
      mint := by rw [sameMint]; rfl
      decimals := by
        rw [sameDecimals, build.exponent]
        rfl
      bps := by
        rw [sameRequest, build.shares]
        exact sameNumbers_shareNumber bps
      payerText := rfl
      walletTexts := by rw [sameRequest]; exact build.keys
      source := by rw [sameMint]; rfl
      destinations := by
        rw [sameMint]
        simp [builtTokenObservation, settleTokenAccounts, Function.comp_def]
      split := by rw [sameRequest, sameScale]; exact build.split
      computed := by rw [sameRequest]; exact build.computed
      asset := by rw [sameRequest]; exact build.asset
      payerOnCurve := build.payerOnCurve
      memo := by
        rw [sameRequest, sameScale, sameMint, sameDecimals, build.scaled, build.exponent]
        exact tokenMemoMatches_values _ _ _ _
      transfers := by
        have value : bigintOf (.ofInt decimals.toNat) = decimals.toNat := by
          rw [bigintOf, JsNumber.toInt?_ofInt, Option.getD_some]
        have casts : (payoutsOf total bps).map Int.ofNat =
            payouts.map fun payout => (payout.toNat : Int) := by
          rw [← values, List.map_map]
          rfl
        have texts : (wallets.map fun owner =>
            toBase58 (associatedTokenAddress H.toHost options.mint owner)) =
              (settleTokenAccounts H.toHost options wallets).recipientTokenAccounts.map toBase58 := by
          rw [settleTokenAccounts, List.map_map]
          rfl
        rw [sameMint, sameDecimals, build.exponent, value, texts, casts]
        simp only [builtTokenObservation, inner, casts]
        exact .of_eq token_observed_eq_expected
      beneficiaries := named }

/-! ### A sample token settlement -/

/-- The bytes of a length below 2^14. -/
def lengthSize (n : Nat) : Nat := if n < 128 then 1 else 2

/-- The size of a legacy message: a header, its keys, a blockhash, and its
instructions. -/
def sampleCompile (payer : Pubkey) (instructions : List TransactionInstruction) :
    Except CompileError (Nat × Nat) :=
  let metas := instructions.flatMap (·.keys)
  let keys := (payer :: (metas.map (·.key) ++ instructions.map (·.programId))).dedup
  let signers := (payer :: (metas.filter (·.isSigner)).map (·.key)).dedup
  let sizes := instructions.map fun instruction =>
    1 + lengthSize instruction.keys.length + instruction.keys.length +
      lengthSize instruction.data.length + instruction.data.length
  .ok (3 + lengthSize keys.length + 32 * keys.length + 32 + lengthSize instructions.length +
    sizes.sum, signers.length)

def sampleClientHost : ClientHost where
  toHost := { sampleHost with isOnCurve := fun _ => true }
  fractionText _ := []
  compileMessage := sampleCompile

/-- Both shares go to one wallet. -/
def sampleTokenRequest : SettlementRequestN :=
  { sampleRequest with
    asset := .usdc
    shares :=
      [⟨js "creator", toBase58 sampleRecipient, .ofInt 7000⟩,
        ⟨js "studio", toBase58 sampleRecipient, .ofInt 3000⟩] }

def sampleTokenOptions : BuildTokenSettlementNOptions where
  payer := samplePayer
  request := sampleTokenRequest
  mint := sampleMint
  decimals := .ofInt 9
  programId := sampleDeployment.programId
  ns := sampleNamespace
  authority := some sampleAuthority

def sampleAssociated (owner : Pubkey) : Pubkey :=
  associatedTokenAddress sampleClientHost.toHost sampleMint owner

def sampleTokenSettle : TransactionInstruction :=
  settleTokenNInstruction sampleDeployment.addresses
    (settleTokenAccounts sampleClientHost.toHost sampleTokenOptions [sampleRecipient, sampleRecipient])
    (sampleHost.sha256 (textEncode sampleTokenRequest.eventId)) 1001 9 [7000, 3000]

def sampleTokenMemo : TransactionInstruction :=
  tokenMemoInstruction sampleClientHost sampleTokenRequest 1001 sampleMint (.ofInt 9)

/-- The sample chain with a mint and the associated accounts. -/
def sampleAssociatedState : Accounts := fun k =>
  if k = sampleMint then ⟨10 ^ 7, tokenProgramId, mintBytes 9⟩
  else if k = sampleAssociated samplePayer then sampleTokenAccount sampleMint samplePayer 5000 none
  else if k = sampleAssociated sampleRecipient then
    sampleTokenAccount sampleMint sampleRecipient 7 none
  else sampleState.accounts k

def sampleTokenAfter : Machine :=
  (processInstruction sampleDeployment sampleTokenSettle.keys sampleTokenSettle.data
    sampleAssociatedState).toOption.getD ⟨sampleAssociatedState, []⟩

theorem sampleTokenSettle_ran : processInstruction sampleDeployment sampleTokenSettle.keys
    sampleTokenSettle.data sampleAssociatedState = .ok sampleTokenAfter :=
  eq_ok_of_isOk _ (by decide +kernel)

def sampleTokenExecuted : List (TopLevel sampleDeployment) :=
  [.other MEMO_PROGRAM_ID sampleTokenMemo.data sample_memo_ne,
    .other ASSOCIATED_TOKEN_PROGRAM_ID [1] (by decide),
    .program sampleTokenSettle.keys sampleTokenSettle.data sampleAssociatedState sampleTokenAfter
      sampleTokenSettle_ran]

/-- The sample token settlement reconciles. -/
theorem own_token_settlement_reconciles_sample :
    ∃ observation reconciliation,
      observeProgramTokenSettlement sampleClientHost.toHost
        (shownTransaction sampleTokenExecuted (js "sent") 7 1767225600) (js "sent")
        sampleDeployment.programId = .ok observation ∧
      reconcileObservedTokenSettlementN sampleClientHost.toHost observation
        { request := sampleTokenRequest, ns := sampleNamespace, tokenBaseUnitsPerAtomicUnit := 1
          mint := sampleMint, decimals := .ofInt 9 } = .ok reconciliation := by
  have built : buildTokenSettlementNTransaction sampleClientHost sampleTokenOptions =
      .ok ⟨[sampleTokenMemo, createAssociatedTokenAccountIdempotentInstruction samplePayer
        (sampleAssociated sampleRecipient) sampleRecipient sampleMint, sampleTokenSettle],
        js "program-token", 1001, [700, 301], sampleAssociated samplePayer,
        [sampleAssociated sampleRecipient, sampleAssociated sampleRecipient]⟩ := by
    decide +kernel
  exact own_token_settlement_reconciles sampleClientHost sampleDeployment rfl sampleTokenOptions _ rfl
    built sampleTokenExecuted (.cons ⟨rfl, rfl⟩ (.cons ⟨rfl, rfl⟩ (.cons ⟨rfl, rfl, rfl⟩ .nil)))
    _ (truthful_shownTransaction _ _ _ _) (js "sent") (by decide) 1767225600 rfl (by decide +kernel)
    { request := sampleTokenRequest, ns := sampleNamespace, tokenBaseUnitsPerAtomicUnit := 1
      mint := sampleMint, decimals := .ofInt 9 } rfl rfl rfl rfl rfl (by simp)

end Synxed.Sdk
