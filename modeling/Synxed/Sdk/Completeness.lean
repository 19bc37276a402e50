import Mathlib.Data.UInt
import Synxed.Sdk.Evidence

/-!
Completeness of native reconciliation: which settlements the SDK builds can be
reconciled again from truthful evidence.

A node writes lamports as JSON numbers, and `parseSystemTransfer` refuses what
is not a safe integer, so a transfer of 2^53 lamports or more is refused
(`parseSystemTransfer_shown`). Nothing else stands in the way of the SDK's own
settlements (`own_settlement_reconciles_iff`).
-/

namespace Synxed.Sdk

open Synxed.Lib Synxed.Program

variable {D : Deployment} {H : Host}

/-! ### What the transfer parser reads -/

/-- A transfer whose amount a double holds exactly; anything else has none. -/
def FitsNumber : Cpi → Prop
  | .transfer _ _ lamports => lamports < 2 ^ 53
  | _ => True

instance : DecidablePred FitsNumber := fun cpi => by
  cases cpi <;> unfold FitsNumber <;> infer_instance

/-- The transfer a System transfer is observed as. -/
def observedTransfer : Cpi → Option ObservedTransfer
  | .transfer source destination lamports =>
      some ⟨toBase58 source, toBase58 destination, lamports⟩
  | _ => none

theorem safeAmount_toDouble (n : Nat) :
    safeAmount (toDouble n) = if n < 2 ^ 53 then some n else none := by
  split
  · next small =>
      rw [toDouble_natCast small, safeAmount, JsNumber.toInt?_ofInt]
      simp only [Nat.cast_nonneg, true_and, Int.toNat_natCast]
      rw [if_pos (by exact_mod_cast small)]
  · next large =>
      rcases toDouble_large (not_lt.mp large) with infinite | ⟨q, finite, atLeast⟩
      · rw [infinite]
        rfl
      · rw [finite, safeAmount]
        cases whole : (JsNumber.finite q).toInt? with
        | none => rfl
        | some k =>
            have value := JsNumber.toInt?_eq_some.mp whole
            simp only [JsNumber.ofInt, JsNumber.finite.injEq] at value
            subst value
            have big : (2 : Int) ^ 53 ≤ k := by exact_mod_cast atLeast
            simp only
            rw [if_neg (by omega)]

/-- The parser on a truthful instruction: it reads System transfers, refuses
those that do not fit a number, and passes over the rest. -/
theorem parseSystemTransfer_shown {cpi : Cpi} {instruction : RpcInstruction}
    (shows : ShowsCpi cpi instruction) :
    parseSystemTransfer instruction =
      if FitsNumber cpi then .ok (observedTransfer cpi)
      else .error (.ledger ⟨.TRANSFER_MISMATCH, js "system transfer fields are malformed"⟩) := by
  have notTransfer (kind : JsString) (other : kind ≠ js "transfer") (info : Json)
      (shown : ShownAs instruction systemProgramId (js "system") kind info) :
      parseSystemTransfer instruction = .ok none := by
    obtain ⟨parsed, isParsed, _, kindText, _⟩ := shown.parsed
    have wrong : parsed.hasText (js "type") (js "transfer") = false := by
      rw [Json.hasText, kindText]
      exact decide_eq_false other
    rw [parseSystemTransfer, isParsed]
    simp [shown.program, wrong]
  cases cpi with
  | transfer source destination lamports =>
      obtain ⟨info, shown, sourceText, destinationText, lamportsNumber⟩ := shows
      obtain ⟨parsed, isParsed, record, kindText, infoAt⟩ := shown.parsed
      have right : parsed.hasText (js "type") (js "transfer") = true := by
        rw [Json.hasText, kindText]
        exact decide_eq_true rfl
      have fields : transferFields info = (safeAmount (toDouble lamports)).map fun amount =>
          ⟨toBase58 source, toBase58 destination, amount⟩ := by
        rw [transferFields, sourceText, destinationText, lamportsNumber]
      rw [parseSystemTransfer, isParsed]
      simp only [shown.program, record, right, infoAt, ensure_bind_of_pos shown.info, fields,
        safeAmount_toDouble, observedTransfer]
      rw [if_neg (by simp), if_neg (by simp)]
      by_cases fits : lamports < 2 ^ 53
      · rw [if_pos fits, if_pos (show FitsNumber (.transfer source destination lamports) from fits),
          Option.map_some]
      · rw [if_neg fits, if_neg (show ¬ FitsNumber (.transfer source destination lamports) from fits),
          Option.map_none]
  | allocate account space =>
      obtain ⟨info, shown, _⟩ := shows
      rw [notTransfer _ (by decide) info shown]
      rfl
  | assign account owner =>
      obtain ⟨info, shown, _⟩ := shows
      rw [notTransfer _ (by decide) info shown]
      rfl
  | transferChecked source mint destination authority amount decimals =>
      obtain ⟨info, _, shown, _⟩ := shows
      obtain ⟨parsed, isParsed, _, _, _⟩ := shown.parsed
      have token : js "spl-token" ≠ js "system" := by decide
      rw [parseSystemTransfer, isParsed]
      simp [shown.program, token, FitsNumber, observedTransfer]

theorem collect_parseSystemTransfer {cpis : List Cpi} {instructions : List RpcInstruction}
    (shown : List.Forall₂ ShowsCpi cpis instructions) :
    collect parseSystemTransfer instructions =
      if ∀ cpi ∈ cpis, FitsNumber cpi then .ok (cpis.filterMap observedTransfer)
      else .error (.ledger ⟨.TRANSFER_MISMATCH, js "system transfer fields are malformed"⟩) := by
  induction shown with
  | nil => simp [collect]
  | @cons cpi instruction cpis instructions here later ih =>
      rw [collect, parseSystemTransfer_shown here]
      by_cases fits : FitsNumber cpi
      · rw [if_pos fits, ok_bind, ih]
        by_cases rest : ∀ cpi ∈ cpis, FitsNumber cpi
        · rw [if_pos rest, ok_bind, if_pos (by simpa [fits] using rest)]
          cases found : observedTransfer cpi <;> simp [found]
        · rw [if_neg rest, error_bind, if_neg (by simpa [fits] using rest)]
      · rw [if_neg fits, error_bind, if_neg (by simp [fits])]

/-! ### The transaction of a build -/

/-- The instruction as it ran. -/
def Runs (instruction : TransactionInstruction) : TopLevel D → Prop
  | .program accounts data _ _ _ =>
      instruction.programId = D.programId ∧ RunsOn instruction accounts ∧ data = instruction.data
  | .other programId data _ => programId = instruction.programId ∧ data = instruction.data

/-- An object's text starts with a brace, also in UTF-8. -/
theorem textEncode_objectText (members : List (JsString × JsString)) :
    ∃ rest, textEncode (objectText members) = 123 :: rest := by
  have brace : objectText members = utf16 '{' ++ (membersText members ++ [125]) := by
    have unit : utf16 '{' = [123] := by decide
    rw [unit]
    rfl
  have byte : String.utf8EncodeChar '{' = [123] := by decide
  refine ⟨(scalars (membersText members ++ [125])).flatMap String.utf8EncodeChar, ?_⟩
  rw [textEncode, brace, scalars_utf16_append, List.flatMap_cons, byte]
  rfl

/-- An instruction that the program cannot decode ran as another program's. -/
theorem runs_other {instruction : TransactionInstruction} {fault : Fault} {top : TopLevel D}
    (refused : SettlementInstruction.unpack instruction.data = .error fault)
    (runs : Runs instruction top) :
    ∃ different, top = .other instruction.programId instruction.data different := by
  cases top with
  | other programId data different =>
      obtain ⟨rfl, rfl⟩ := runs
      exact ⟨different, rfl⟩
  | program accounts data before after ran =>
      obtain ⟨_, _, rfl⟩ := runs
      rw [processInstruction, refused] at ran
      cases ran

/-- A memo is no instruction of the settlement program. -/
theorem unpack_objectText (members : List (JsString × JsString)) :
    SettlementInstruction.unpack (textEncode (objectText members)) =
      .error (.program .invalidInstructionData) := by
  obtain ⟨rest, text⟩ := textEncode_objectText members
  rw [text, SettlementInstruction.unpack, if_neg (by decide), if_neg (by decide), if_neg (by decide),
    if_neg (by decide), if_neg (by decide)]

theorem runs_memo {request : SettlementRequestN} {total : Int} {top : TopLevel D}
    (runs : Runs (memoInstruction request total) top) :
    ∃ different, top = .other MEMO_PROGRAM_ID (textEncode (memoText request total)) different :=
  runs_other (unpack_objectText _) runs

/-- An instruction of the program ran as one. -/
theorem runs_program {instruction : TransactionInstruction} {top : TopLevel D}
    (ours : instruction.programId = D.programId) (runs : Runs instruction top) :
    ∃ accounts before after ran, RunsOn instruction accounts ∧
      top = .program accounts instruction.data before after ran := by
  cases top with
  | other programId data different => exact absurd (runs.1.trans ours) different
  | program accounts data before after ran =>
      obtain ⟨_, on, rfl⟩ := runs
      exact ⟨accounts, before, after, ran, on, rfl⟩

/-- What opens the namespace in the settlement's transaction, if anything does. -/
theorem openingInstructions_ok {options : BuildSettlementNOptions} {ns programId : Pubkey}
    {opening : List TransactionInstruction} (inNs : options.ns = some ns)
    (program : options.programId = some programId)
    (opened : openingInstructions H options = .ok opening) :
    opening = [] ∨ ∃ first second last data,
      opening = [⟨programId, [first, second, ⟨ns, false, true⟩, last], data⟩] ∧
        data[0]? = some CREATE_NAMESPACE_TAG := by
  unfold openingInstructions at opened
  rw [program] at opened
  cases asked : options.createNamespaceId with
  | none =>
      rw [asked] at opened
      cases opened
      exact .inl rfl
  | some namespaceId =>
      rw [asked] at opened
      simp only [bind_eq_ok, ensure_eq_ok, exists_const, inNs, Option.some.injEq,
        buildCreateNamespaceInstruction, encodeCreateNamespaceData, Except.ok.injEq] at opened
      obtain ⟨derived, found, rfl, instruction, ⟨data, ⟨_, _, _, _, rfl⟩, pda, found', rfl⟩, rfl⟩ :=
        opened
      rw [found] at found'
      cases found'
      exact .inr ⟨_, _, _, _, rfl, rfl⟩

/-- What ran for a build: the memo and then the settlement, after at most one
`CreateNamespace` for the settlement's namespace. -/
inductive RanBuilt (ns : Pubkey) (memo : Bytes) (settle : TopLevel D) : List (TopLevel D) → Nat → Prop
  | plain (different : MEMO_PROGRAM_ID ≠ D.programId) :
      RanBuilt ns memo settle [.other MEMO_PROGRAM_ID memo different, settle] 1
  | opening (different : MEMO_PROGRAM_ID ≠ D.programId) (accounts : List AccountInfo)
      (data : Bytes) (before : Accounts) (after : Machine)
      (ran : processInstruction D accounts data before = .ok after)
      (four : ∃ first second last, accounts.map (·.key) = [first, second, ns, last])
      (tag : data[0]? = some CREATE_NAMESPACE_TAG) :
      RanBuilt ns memo settle
        [.program accounts data before after ran,
          .other MEMO_PROGRAM_ID memo different, settle] 2

/-- The transaction of a program-mode build, as it ran. -/
theorem ranBuilt_of_runs {options : BuildSettlementNOptions} {prepared : PreparedSettlementN}
    {ns : Pubkey} {executed : List (TopLevel D)} (inNs : options.ns = some ns)
    (program : options.programId = some D.programId)
    (built : buildSettlementNTransaction H options = .ok prepared)
    (runs : List.Forall₂ Runs prepared.transaction executed) :
    ∃ total bps recipients seed accounts before after ran index,
      NativeBuild options prepared total bps recipients ∧
      eventIdSeed H options.request.eventId = .ok seed ∧
      (∀ key ∈ recipients, key ≠ (settlementPda H.addresses D.programId ns seed).1) ∧
      RunsOn (settleNInstruction H.addresses
        ⟨D.programId, options.payer, options.authority.getD options.payer, ns, recipients⟩ seed
        total bps) accounts ∧
      RanBuilt ns (textEncode (memoText options.request prepared.lamportsTotal))
        (.program accounts (SettlementInstruction.settleN seed total bps).pack before after ran)
        executed index := by
  obtain ⟨total, bps, recipients, ns', seed, opening, native, sameNs, seeded, opened, distinct,
    transaction⟩ :=
    buildSettlementNTransaction_program program built
  rw [inNs, Option.some.injEq] at sameNs
  subst sameNs
  rw [transaction] at runs
  rcases openingInstructions_ok inNs program opened with rfl | ⟨first, second, last, data, rfl, tag⟩
  · rw [List.nil_append] at runs
    rcases runs with _ | ⟨memoRuns, _ | ⟨settleRuns, _ | _⟩⟩
    obtain ⟨different, rfl⟩ := runs_memo memoRuns
    obtain ⟨accounts, before, after, ran, on, rfl⟩ := runs_program rfl settleRuns
    exact ⟨total, bps, recipients, seed, accounts, before, after, ran, 1, native, seeded, distinct,
      on, .plain different⟩
  · rw [List.singleton_append] at runs
    rcases runs with _ | ⟨openRuns, _ | ⟨memoRuns, _ | ⟨settleRuns, _ | _⟩⟩⟩
    obtain ⟨different, rfl⟩ := runs_memo memoRuns
    obtain ⟨accounts, before, after, ran, on, rfl⟩ := runs_program rfl settleRuns
    obtain ⟨accounts', before', after', ran', on', rfl⟩ := runs_program rfl openRuns
    exact ⟨total, bps, recipients, seed, accounts, before, after, ran, 2, native, seeded, distinct,
      on, .opening different _ _ _ _ ran' ⟨_, _, _, on'⟩ tag⟩

/-! ### The evidence of a build -/

variable {ns : Pubkey} {memo : Bytes} {accounts : List AccountInfo} {data : Bytes}
  {before : Accounts} {after : Machine} {ran : processInstruction D accounts data before = .ok after}
  {executed : List (TopLevel D)} {index : Nat} {transaction : ParsedTransaction}

theorem RanBuilt.executed_index
    (built : RanBuilt ns memo (.program accounts data before after ran) executed index) :
    executed[index]? = some (.program accounts data before after ran) := by
  cases built <;> rfl

/-- The settlement is found under its index. -/
theorem RanBuilt.findSettlementInstruction
    (built : RanBuilt ns memo (.program accounts data before after ran) executed index)
    (tag : data[0]? = some SETTLE_N_TAG) (nsAt : keyAt accounts 2 = some ns)
    (shown : List.Forall₂ ShowsTopLevel executed transaction.instructions) :
    Sdk.findSettlementInstruction transaction D.programId =
      .ok (index, ⟨D.programId, accounts.map (·.key), base58Encode data⟩) := by
  have settleTag : instructionTag (base58Encode data) = some SETTLE_N_TAG := by
    rw [instructionTag, decodeData, base58Decode_encode, Option.getD_some, tag]
  have nsKey : (accounts.map (·.key))[2]? = some ns := by
    rw [List.getElem?_map]
    exact nsAt
  cases built with
  | plain different =>
      generalize list : transaction.instructions = instructions at shown
      rcases shown with _ | ⟨⟨memoId, _⟩, _ | ⟨⟨settleId, settleRaw⟩, _ | _⟩⟩
      have raws : rawInstructions D.programId 0 transaction.instructions =
          .ok [(1, ⟨D.programId, accounts.map (·.key), base58Encode data⟩)] := by
        rw [list, rawInstructions, if_neg (memoId ▸ different), rawInstructions, if_pos settleId,
          settleRaw]
        rfl
      rw [Sdk.findSettlementInstruction, raws, ok_bind]
      simp [settleTag, SETTLE_N_TAG, CREATE_NAMESPACE_TAG]
  | opening different openAccounts openData before' after' ran' four openTag =>
      obtain ⟨first, second, last, four⟩ := four
      generalize list : transaction.instructions = instructions at shown
      rcases shown with _ | ⟨⟨openId, openRaw⟩, _ | ⟨⟨memoId, _⟩, _ | ⟨⟨settleId, settleRaw⟩, _ | _⟩⟩⟩
      have opensTag : instructionTag (base58Encode openData) = some CREATE_NAMESPACE_TAG := by
        rw [instructionTag, decodeData, base58Decode_encode, Option.getD_some, openTag]
      have raws : rawInstructions D.programId 0 transaction.instructions =
          .ok [(0, ⟨D.programId, [first, second, ns, last], base58Encode openData⟩),
            (2, ⟨D.programId, accounts.map (·.key), base58Encode data⟩)] := by
        rw [list, rawInstructions, if_pos openId, openRaw, rawInstructions,
          if_neg (memoId ▸ different), rawInstructions, if_pos settleId, settleRaw, four]
        rfl
      rw [Sdk.findSettlementInstruction, raws, ok_bind]
      simp [settleTag, opensTag, nsKey, SETTLE_N_TAG, CREATE_NAMESPACE_TAG]

/-- The memo is found and read back. -/
theorem RanBuilt.extractMemo {top : TopLevel D} {members : List (JsString × JsString)}
    (built : RanBuilt ns (textEncode (objectText (members.map fun member => (member.1, quote member.2))))
      top executed index) (nonempty : members ≠ []) (ours : top.programId = D.programId)
    (shown : List.Forall₂ ShowsTopLevel executed transaction.instructions) :
    Sdk.extractMemo transaction = .ok (.object (members.map fun member => (member.1, .string member.2))) := by
  have text := utf8Text_stringsText members
  have parsed := parse_stringsText nonempty
  have other {instruction : RpcInstruction} (different : MEMO_PROGRAM_ID ≠ D.programId)
      (id : instruction.programId = D.programId) : instruction.programId ≠ MEMO_PROGRAM_ID := by
    rw [id]
    exact different.symm
  have settleId {instruction : RpcInstruction} (shows : ShowsTopLevel top instruction) :
      instruction.programId = D.programId := by
    cases top with
    | program _ _ _ _ _ => exact shows.1
    | other programId data different => exact absurd ours different
  have only : ∃ instruction, (transaction.instructions.filter fun instruction =>
      instruction.programId = MEMO_PROGRAM_ID) = [instruction] ∧ instruction.parsed =
        some (.string (objectText (members.map fun member => (member.1, quote member.2)))) := by
    generalize transaction.instructions = instructions at shown
    cases built with
    | plain different =>
        rcases shown with _ | ⟨⟨memoId, memoText⟩, _ | ⟨settleShows, _ | _⟩⟩
        refine ⟨_, ?_, by rw [memoText rfl, text]; rfl⟩
        rw [List.filter_cons_of_pos (by simpa using memoId),
          List.filter_cons_of_neg (by simpa using other different (settleId settleShows)),
          List.filter_nil]
    | opening different openAccounts openData before' after' ran' four openTag =>
        rcases shown with _ | ⟨⟨openId, _⟩, _ | ⟨⟨memoId, memoText⟩, _ | ⟨settleShows, _ | _⟩⟩⟩
        refine ⟨_, ?_, by rw [memoText rfl, text]; rfl⟩
        rw [List.filter_cons_of_neg (by simpa using other different openId),
          List.filter_cons_of_pos (by simpa using memoId),
          List.filter_cons_of_neg (by simpa using other different (settleId settleShows)),
          List.filter_nil]
  obtain ⟨instruction, single, isText⟩ := only
  rw [Sdk.extractMemo, single]
  simp only [isText, parsed, Json.isRecord]
  rfl

/-- The memo of a build matches its request. -/
theorem memoMatches_memoMembers (request : SettlementRequestN) (total : Int)
    (allowLegacyMemo : Bool) :
    MemoMatches (.object ((memoMembers request total).map fun member => (member.1, .string member.2)))
      request total allowLegacyMemo := by
  refine ⟨⟨?_, ?_, ?_, ?_, ?_⟩, .inr ?_, .inr ?_⟩ <;> exact Json.hasText_of_get rfl

/-- What the evidence of a built settlement says. -/
def builtObservation (A : ProgramAddresses) (settle : SettleNAccounts) (seed : Bytes32)
    (amount : UInt64) (bps : List UInt16) (signature : JsString) (slot : Nat) (blockTime : Int)
    (inner : List Cpi) (memo : Json) : ProgramSettlementObservation where
  signature := signature
  slot := slot
  blockTime := blockTime
  programId := toBase58 settle.programId
  payer := toBase58 settle.payer
  authority := toBase58 settle.authority
  ns := toBase58 settle.ns
  record := toBase58 (settlementPda A settle.programId settle.ns seed).1
  eventSeedHex := hexText seed.val
  amountOnChain := amount.toNat
  bps := bps.map shareNumber
  recipients := settle.recipients.map toBase58
  transfers := inner.filterMap observedTransfer
  memo := memo

/-- Evidence of a built settlement is refused exactly for a transfer that does
not fit a JSON number. -/
theorem observeProgramSettlement_built (settle : SettleNAccounts) {seed : Bytes32} {amount : UInt64}
    {bps : List UInt16} {signature : JsString} {blockTime : Int}
    (members : List (JsString × JsString))
    {ran : processInstruction D accounts (SettlementInstruction.settleN seed amount bps).pack before =
      .ok after}
    (on : RunsOn (settleNInstruction H.addresses settle seed amount bps) accounts)
    (sameAddresses : D.addresses = H.addresses) (program : settle.programId = D.programId)
    (count : settle.recipients.length = bps.length)
    (small : bps.length ≠ 0 ∧ bps.length ≤ maxShares)
    (built : RanBuilt settle.ns
      (textEncode (objectText (members.map fun member => (member.1, quote member.2))))
      (.program _ _ before after ran) executed index) (nonempty : members ≠ [])
    (truthful : Truthful executed transaction) (signed : signature ∈ transaction.signatures)
    (timed : transaction.blockTime = some blockTime) :
    observeProgramSettlement H transaction signature D.programId =
      if ∀ cpi ∈ after.inner, FitsNumber cpi then
        .ok (builtObservation H.addresses settle seed amount bps signature transaction.slot blockTime
          after.inner (.object (members.map fun member => (member.1, .string member.2))))
      else .error (.ledger ⟨.TRANSFER_MISMATCH, js "system transfer fields are malformed"⟩) := by
  obtain ⟨metadata, hasMetadata, noError, groups⟩ := truthful.succeeded
  have succeeded : assertSucceeded transaction signature = .ok (metadata, blockTime) :=
    assertSucceeded_eq_ok.mpr ⟨hasMetadata, noError, signed, timed⟩
  have keys : accounts.map (·.key) =
      settle.payer :: settle.authority :: settle.ns :: (settle.recipients ++
        [(settlementPda H.addresses settle.programId settle.ns seed).1, systemProgramId]) :=
    on.trans (settleNInstruction_keys _ _ _ _ _)
  have nsKey : keyAt accounts 2 = some settle.ns := by
    rw [keyAt, ← List.getElem?_map, keys]
    rfl
  have found := built.findSettlementInstruction rfl nsKey truthful.instructions
  have decoded : decodeSettleNData
      (base58Encode (SettlementInstruction.settleN seed amount bps).pack) =
        .ok ⟨seed.val, amount.toNat, [], bps.map shareNumber⟩ :=
    decodeSettleNData_eq_ok.mpr
      ⟨seed, amount, bps, small.1, small.2, base58Decode_encode _, rfl⟩
  have recordAt : accountAt (settle.payer :: settle.authority :: settle.ns :: (settle.recipients ++
      [(settlementPda H.addresses settle.programId settle.ns seed).1, systemProgramId]))
        (3 + bps.length) = (settlementPda H.addresses settle.programId settle.ns seed).1 := by
    rw [accountAt, ← count, Nat.add_comm]
    simp
  have systemAt : accountAt (settle.payer :: settle.authority :: settle.ns :: (settle.recipients ++
      [(settlementPda H.addresses settle.programId settle.ns seed).1, systemProgramId]))
        (4 + bps.length) = systemProgramId := by
    rw [accountAt, ← count, show 4 + settle.recipients.length = settle.recipients.length + 1 + 3 by
      omega]
    simp
  have invoked : after.inner ≠ [] := by
    rw [settleNInstruction_inner (D := D) settle count small (by rw [sameAddresses]; exact on) ran]
    simp [creationCpis]
  obtain ⟨group, groupAt, shown⟩ := groups _ _ _ _ _ ran built.executed_index invoked
  have inner : innerInstructionsOf metadata index
      (js "settlement instruction has no recorded inner instructions") = .ok group.instructions := by
    rw [innerInstructionsOf, groupAt]
  have memo := built.extractMemo nonempty rfl truthful.instructions
  have derived : findSettlementRecordPda H D.programId settle.ns seed.val =
      .ok (settlementPda H.addresses settle.programId settle.ns seed) := by
    rw [findSettlementRecordPda_eq, program]
  rw [observeProgramSettlement, succeeded, ok_bind]
  simp only [found, ok_bind, decoded, keys, List.length_map, recordAt, systemAt]
  have length : (settle.payer :: settle.authority :: settle.ns :: (settle.recipients ++
      [(settlementPda H.addresses settle.programId settle.ns seed).1, systemProgramId])).length =
        bps.length + 5 := by
    simp [count]
  have nsAt : accountAt (settle.payer :: settle.authority :: settle.ns :: (settle.recipients ++
      [(settlementPda H.addresses settle.programId settle.ns seed).1, systemProgramId])) 2 =
        settle.ns := rfl
  have recipients : ((settle.payer :: settle.authority :: settle.ns :: (settle.recipients ++
      [(settlementPda H.addresses settle.programId settle.ns seed).1, systemProgramId])).drop 3).take
        bps.length = settle.recipients :=
    observed_recipients [settle.payer, settle.authority, settle.ns] count
  rw [ensure_bind_of_pos length, nsAt, derived, protocolCall]
  simp only [Except.mapError, ok_bind, memo, inner, collect_parseSystemTransfer shown, recipients]
  rw [ensure_bind_of_pos (by simp)]
  split
  · simp only [ok_bind, builtObservation, program]
    rfl
  · rfl

/-! ### When a build reconciles -/

/-- Every payout of the request at this scale fits a JSON number. -/
def PayoutsFit (options : BuildSettlementNOptions) : Prop :=
  ∀ amounts, splitAmountAtomicShares
      (options.request.amountAtomic * options.lamportsPerAtomicUnit.getD 1)
      (options.request.shares.map ShareInput.bps) = .ok amounts →
    ∀ amount ∈ amounts, amount < 2 ^ 53

/-- The transfers of a settlement fit when its payouts and the record's missing
rent do. -/
theorem fits_inner {payer record : Pubkey} {shortfall size : Nat} {recipients : List Pubkey}
    {amounts : List Nat} (count : recipients.length = amounts.length) :
    (∀ cpi ∈ creationCpis D payer record shortfall size ++
        (nonzeroPayouts recipients (amounts.map Int.ofNat)).map (fun payout =>
          .transfer payer payout.1 payout.2.toNat), FitsNumber cpi) ↔
      shortfall < 2 ^ 53 ∧ ∀ amount ∈ amounts, amount < 2 ^ 53 := by
  have creation : (∀ cpi ∈ creationCpis D payer record shortfall size, FitsNumber cpi) ↔
      shortfall < 2 ^ 53 := by
    by_cases missing : shortfall > 0
    · simp [creationCpis, missing, FitsNumber]
    · simp only [creationCpis, if_neg missing, FitsNumber, List.nil_append, List.mem_cons,
        List.not_mem_nil, or_false, forall_eq_or_imp, forall_eq, true_and, true_iff]
      omega
  have payouts : (∀ cpi ∈ (nonzeroPayouts recipients (amounts.map Int.ofNat)).map (fun payout =>
      Cpi.transfer payer payout.1 payout.2.toNat), FitsNumber cpi) ↔
        ∀ amount ∈ amounts, amount < 2 ^ 53 := by
    induction recipients generalizing amounts with
    | nil =>
        rw [List.eq_nil_of_length_eq_zero count.symm]
        simp [nonzeroPayouts]
    | cons recipient rest ih =>
        cases amounts with
        | nil => cases count
        | cons amount amounts =>
            have tail := @ih amounts (by simpa using count)
            simp only [nonzeroPayouts] at tail
            by_cases zero : amount = 0
            · simp only [nonzeroPayouts, List.map_cons, List.zip_cons_cons]
              rw [List.filter_cons_of_neg (by simp [zero]), tail]
              simp [zero]
            · have positive : (0 : Int) < Int.ofNat amount := by
                simp only [Int.ofNat_eq_natCast]
                omega
              simp only [nonzeroPayouts, List.map_cons, List.zip_cons_cons]
              rw [List.filter_cons_of_pos (by simpa using positive), List.map_cons, List.forall_mem_cons,
                tail, List.forall_mem_cons]
              exact Iff.rfl
  rw [List.forall_mem_append, creation, payouts]

/-- The observed payouts of a built settlement are the expected ones: what it
transferred to the record is left out. -/
theorem observed_eq_expected {payer record : Pubkey} {shortfall size : Nat}
    {recipients : List Pubkey} {amounts : List Nat} (distinct : ∀ key ∈ recipients, key ≠ record) :
    expectedTransfers (transferKey (toBase58 payer)) (recipients.map toBase58) (amounts.map Int.ofNat) =
      (((creationCpis D payer record shortfall size ++
          (nonzeroPayouts recipients (amounts.map Int.ofNat)).map fun payout =>
            Cpi.transfer payer payout.1 payout.2.toNat).filterMap observedTransfer).filter
        fun transfer => transfer.destination ≠ toBase58 record).map
          fun transfer => transferKey transfer.source transfer.destination transfer.amountOnChain := by
  have creation : ((creationCpis D payer record shortfall size).filterMap observedTransfer).filter
      (fun transfer => transfer.destination ≠ toBase58 record) = [] := by
    by_cases missing : shortfall > 0 <;> simp [creationCpis, missing, observedTransfer]
  rw [List.filterMap_append, List.filter_append, creation, List.nil_append]
  induction recipients generalizing amounts with
  | nil => simp [expectedTransfers, nonzeroPayouts]
  | cons recipient rest ih =>
      cases amounts with
      | nil => rfl
      | cons amount amounts =>
          have tail := @ih amounts fun key mem => distinct key (List.mem_cons_of_mem _ mem)
          simp only [expectedTransfers, nonzeroPayouts] at tail
          simp only [expectedTransfers, nonzeroPayouts, List.map_cons, List.zip_cons_cons]
          by_cases zero : amount = 0
          · rw [List.filter_cons_of_neg (by simp [zero]), List.filter_cons_of_neg (by simp [zero]), tail]
          · have positive : (0 : Int) < Int.ofNat amount := by
              simp only [Int.ofNat_eq_natCast]
              omega
            have elsewhere : toBase58 recipient ≠ toBase58 record := fun same =>
              distinct recipient List.mem_cons_self (toBase58_injective same)
            have shown : observedTransfer (.transfer payer recipient (Int.ofNat amount).toNat) =
                some ⟨toBase58 payer, toBase58 recipient, amount⟩ := rfl
            rw [List.filter_cons_of_pos (by simpa using zero),
              List.filter_cons_of_pos (by simpa using positive), List.map_cons, List.map_cons,
              List.filterMap_cons_some shown, List.filter_cons_of_pos (by simpa using elsewhere),
              List.map_cons, tail]
            rfl

/-- The evidence of a built settlement matches its own request. -/
theorem nativeMatch_built {options : BuildSettlementNOptions} {prepared : PreparedSettlementN}
    {total : UInt64} {bps : List UInt16} {recipients : List Pubkey} {seed : Bytes32}
    {given : ReconcileObservedSettlementNOptions} {authority : Pubkey} {signature : JsString}
    {slot : Nat} {blockTime : Int} {shortfall : Nat} {inner : List Cpi}
    (native : NativeBuild options prepared total bps recipients)
    (seeded : eventIdSeed H options.request.eventId = .ok seed)
    (invoked : inner = creationCpis D options.payer
        (settlementPda D.addresses D.programId given.ns seed).1 shortfall settlementRecordSize ++
      (nonzeroPayouts recipients ((payoutsOf total bps).map Int.ofNat)).map fun payout =>
        .transfer options.payer payout.1 payout.2.toNat)
    (distinct : ∀ key ∈ recipients, key ≠ (settlementPda D.addresses D.programId given.ns seed).1)
    (sameRequest : given.request = options.request)
    (sameScale : given.unitsPerAtomicUnit = options.lamportsPerAtomicUnit.getD 1)
    (named : ∀ own ∈ given.beneficiaryIds, trim own.2 ≠ []) :
    NativeMatch H
      (builtObservation D.addresses ⟨D.programId, options.payer, authority, given.ns, recipients⟩ seed
        total bps signature slot blockTime inner
        (.object ((memoMembers options.request prepared.lamportsTotal).map fun member =>
          (member.1, .string member.2)))) given prepared.lamportsByShare where
  computed := by rw [sameRequest]; exact native.computed
  scale := by rw [sameScale]; exact native.scale
  ns := rfl
  event := ⟨seed, by rw [sameRequest]; exact seeded, rfl⟩
  amount := by
    rw [sameRequest, sameScale, native.scaled]
    rfl
  asset := by rw [sameRequest]; exact native.asset
  bps := by
    rw [sameRequest, native.shares]
    simp only [builtObservation, sameNumbers, decide_eq_true_eq, true_and]
    intro value mem
    obtain ⟨share, _, rfl⟩ := List.mem_map.mp mem
    exact JsNumber.noConfusion
  recipients := by rw [sameRequest]; exact native.keys
  memo := by
    rw [sameRequest, sameScale, native.scaled, ← native.lamportsTotal]
    exact memoMatches_memoMembers _ _ _
  split := by rw [sameRequest, sameScale]; exact native.split
  transfers := by
    rw [sameRequest, ← native.keys, native.lamportsByShare]
    simp only [builtObservation, invoked]
    rw [observed_eq_expected distinct]
  beneficiaries := named

/-- **Completeness of native reconciliation.** Take any program-mode
transaction that `buildSettlementNTransaction` returns, any execution of it
that succeeds, and truthful evidence of it with a block time. Reconciling it
with its own request, namespace and scale succeeds exactly when every payout,
and the rent the record account lacked, is below 2^53 lamports, and the block
time is a date. -/
theorem own_settlement_reconciles_iff (H : Host) (D : Deployment)
    (sameAddresses : D.addresses = H.addresses) (options : BuildSettlementNOptions)
    (prepared : PreparedSettlementN) (ns : Pubkey) (seed : Bytes32)
    (program : options.programId = some D.programId) (inNs : options.ns = some ns)
    (seeded : eventIdSeed H options.request.eventId = .ok seed)
    (built : buildSettlementNTransaction H options = .ok prepared)
    (executed : List (TopLevel D)) (runs : List.Forall₂ Runs prepared.transaction executed)
    (accounts : List AccountInfo) (data : Bytes) (before : Accounts) (after : Machine)
    (ran : processInstruction D accounts data before = .ok after)
    (settles : executed.getLast? = some (.program accounts data before after ran))
    (transaction : ParsedTransaction) (truthful : Truthful executed transaction)
    (signature : JsString) (signed : signature ∈ transaction.signatures) (blockTime : Int)
    (timed : transaction.blockTime = some blockTime)
    (given : ReconcileObservedSettlementNOptions) (sameRequest : given.request = options.request)
    (sameNs : given.ns = ns)
    (sameScale : given.unitsPerAtomicUnit = options.lamportsPerAtomicUnit.getD 1)
    (named : ∀ own ∈ given.beneficiaryIds, trim own.2 ≠ []) :
    (∃ observation reconciliation,
      observeProgramSettlement H transaction signature D.programId = .ok observation ∧
      reconcileObservedSettlementN H observation given = .ok reconciliation) ↔
    PayoutsFit options ∧
      shortfallOf D before (settlementPda D.addresses D.programId ns seed).1 settlementRecordSize <
        2 ^ 53 ∧
      (toISOString (blockTime * 1000)).isSome := by
  obtain ⟨total, bps, recipients, seed', accounts', before', after', ran', index, native, seeded',
    distinct, on, builtRan⟩ := ranBuilt_of_runs inNs program built runs
  cases seeded.symm.trans seeded'
  have last : executed.getLast? = some (.program _ _ before' after' ran') := by
    cases builtRan <;> rfl
  rw [last, Option.some.injEq, TopLevel.program.injEq] at settles
  obtain ⟨_, _, rfl, rfl⟩ := settles
  have count : recipients.length = bps.length := by
    have keyCount := congrArg List.length native.keys
    have shareCount := congrArg List.length native.shares
    simp only [List.length_map] at keyCount shareCount
    rw [keyCount, shareCount]
  have inner := settleNInstruction_inner (D := D) ⟨D.programId, options.payer,
    options.authority.getD options.payer, ns, recipients⟩ count native.valid.count
    (by rw [sameAddresses]; exact on) ran'
  have observes := observeProgramSettlement_built
    ⟨D.programId, options.payer, options.authority.getD options.payer, ns, recipients⟩
    (memoMembers options.request prepared.lamportsTotal)
    on sameAddresses rfl count native.valid.count builtRan (by simp [memoMembers])
    truthful signed timed
  have fits : (∀ cpi ∈ after'.inner, FitsNumber cpi) ↔
      PayoutsFit options ∧ shortfallOf D before'
        (settlementPda D.addresses D.programId ns seed).1 settlementRecordSize < 2 ^ 53 := by
    rw [inner, fits_inner (by rw [length_payoutsOf, count]), and_comm]
    refine and_congr_left fun _ => ?_
    simp only [PayoutsFit, native.split, native.lamportsByShare, Except.ok.injEq, forall_eq',
      List.forall_mem_map]
    refine forall₂_congr fun amount _ => ?_
    simp only [Int.ofNat_eq_natCast]
    omega
  constructor
  · rintro ⟨observation, reconciliation, observed, reconciled⟩
    rw [observes] at observed
    split at observed
    · next all =>
        cases observed
        obtain ⟨amounts, time, _, date, _⟩ := reconcileObservedSettlementN_eq_ok.mp reconciled
        obtain ⟨payoutsFit, rentFits⟩ := fits.mp all
        exact ⟨payoutsFit, rentFits, Option.isSome_iff_exists.mpr ⟨time, date⟩⟩
    · cases observed
  · rintro ⟨payoutsFit, rentFits, date⟩
    obtain ⟨time, date⟩ := Option.isSome_iff_exists.mp date
    subst sameNs
    rw [← sameAddresses] at distinct observes
    exact ⟨_, _, observes.trans (if_pos (fits.mpr ⟨payoutsFit, rentFits⟩)),
      reconcileObservedSettlementN_eq_ok.mpr ⟨prepared.lamportsByShare, time,
        nativeMatch_built native seeded inner distinct sameRequest sameScale named, date, rfl⟩⟩

/-- The program-mode options of a request in the sample namespace. -/
def sampleOptions (request : SettlementRequestN) : BuildSettlementNOptions where
  payer := samplePayer
  request := request
  programId := some sampleDeployment.programId
  ns := some sampleNamespace
  authority := some sampleAuthority

/-- The sample settlement reconciles. -/
theorem own_settlement_reconciles_iff_sample :
    ∃ observation reconciliation,
      observeProgramSettlement sampleHost sampleTransaction (js "sent")
        sampleDeployment.programId = .ok observation ∧
      reconcileObservedSettlementN sampleHost observation
        { request := sampleRequest, ns := sampleNamespace, unitsPerAtomicUnit := 1 } =
          .ok reconciliation := by
  have built : buildSettlementNTransaction sampleHost (sampleOptions sampleRequest) =
      .ok ⟨[memoInstruction sampleRequest 1001, sampleSettle], .program, 1001, [700, 301]⟩ := by
    decide +kernel
  have split : splitAmountAtomicShares
      ((sampleOptions sampleRequest).request.amountAtomic *
        (sampleOptions sampleRequest).lamportsPerAtomicUnit.getD 1)
      ((sampleOptions sampleRequest).request.shares.map ShareInput.bps) = .ok [700, 301] := by
    decide +kernel
  refine (own_settlement_reconciles_iff sampleHost sampleDeployment rfl (sampleOptions sampleRequest)
    _ sampleNamespace _ rfl rfl rfl built sampleExecuted
    (.cons ⟨rfl, rfl⟩ (.cons ⟨rfl, rfl, rfl⟩ .nil)) _ _ _ _ sampleSettle_ran rfl sampleTransaction
    (truthful_shownTransaction _ _ _ _) (js "sent") (by decide) 1767225600 rfl
    { request := sampleRequest, ns := sampleNamespace, unitsPerAtomicUnit := 1 } rfl rfl rfl
    (by simp)).mpr ⟨?_, by decide +kernel, by decide +kernel⟩
  intro amounts same amount mem
  rw [split, Except.ok.injEq] at same
  subst same
  revert amount
  decide

/-! ### A payout that does not fit -/

/-- One share of 2^53 lamports. -/
def largeRequest : SettlementRequestN :=
  { sampleRequest with
    amountAtomic := 2 ^ 53
    shares := [⟨js "creator", toBase58 sampleRecipient, .ofInt 10000⟩] }

def largeSettle : TransactionInstruction :=
  settleNInstruction sampleDeployment.addresses
    ⟨sampleDeployment.programId, samplePayer, sampleAuthority, sampleNamespace, [sampleRecipient]⟩
    (sampleHost.sha256 (textEncode largeRequest.eventId)) (2 ^ 53) [10000]

/-- The sample state with a payer that can pay it. -/
def largeState : Accounts :=
  Function.update sampleState.accounts samplePayer ⟨2 ^ 54, systemProgramId, []⟩

def largeAfter : Machine :=
  (processInstruction sampleDeployment largeSettle.keys largeSettle.data largeState).toOption.getD
    ⟨largeState, []⟩

theorem largeSettle_ran : processInstruction sampleDeployment largeSettle.keys largeSettle.data
    largeState = .ok largeAfter :=
  eq_ok_of_isOk _ (by decide +kernel)

def largeExecuted : List (TopLevel sampleDeployment) :=
  [.other MEMO_PROGRAM_ID (memoInstruction largeRequest (2 ^ 53)).data sample_memo_ne,
    .program largeSettle.keys largeSettle.data largeState largeAfter largeSettle_ran]

/-- A settlement the SDK built and the program executed, of 2^53 lamports to
one recipient: its truthful evidence is refused as a mismatch. -/
theorem large_settlement_refused :
    (∃ prepared, buildSettlementNTransaction sampleHost (sampleOptions largeRequest) = .ok prepared ∧
      List.Forall₂ Runs prepared.transaction largeExecuted) ∧
    Truthful largeExecuted (shownTransaction largeExecuted (js "sent") 7 1767225600) ∧
    observeProgramSettlement sampleHost (shownTransaction largeExecuted (js "sent") 7 1767225600)
        (js "sent") sampleDeployment.programId =
      .error (.ledger ⟨.TRANSFER_MISMATCH, js "system transfer fields are malformed"⟩) := by
  have built : buildSettlementNTransaction sampleHost (sampleOptions largeRequest) =
      .ok ⟨[memoInstruction largeRequest (2 ^ 53), largeSettle], .program, 2 ^ 53, [2 ^ 53]⟩ := by
    decide +kernel
  exact ⟨⟨_, built, .cons ⟨rfl, rfl⟩ (.cons ⟨rfl, rfl, rfl⟩ .nil)⟩,
    truthful_shownTransaction _ _ _ _, eq_error_of_map (by decide +kernel)⟩

end Synxed.Sdk
