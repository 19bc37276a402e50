import Synxed.Lib.Json
import Synxed.Sdk.Instruction

/-!
Chain evidence (`ledger.ts`): reading a finalized settlement transaction from
the form an RPC node shows it in.

* `decodeSettleNData_eq_ok`, `decodeSettleTokenNData_eq_ok`: the decoders accept
  exactly the program's own encodings.
* `findSettlementInstruction_ok`: the one settlement a transaction holds.
-/

namespace Synxed.Sdk

open Synxed.Lib Synxed.Program

inductive LedgerErrorCode where
  | TX_NOT_FOUND
  | TX_FAILED
  | TX_SIGNATURE
  | CLUSTER_MISMATCH
  | NAMESPACE_MISMATCH
  | BLOCK_TIME_MISSING
  | PROGRAM_INSTRUCTION
  | INSTRUCTION_DATA
  | ACCOUNT_LAYOUT
  | MEMO_MISSING
  | MEMO_MISMATCH
  | ASSET_MISMATCH
  | EVENT_MISMATCH
  | AMOUNT_MISMATCH
  | SHARES_MISMATCH
  | RECIPIENT_MISMATCH
  | TRANSFER_MISMATCH
  | SCALE_RANGE
  | POOL_ALLOCATION
  | RECORD_HISTORY
  deriving DecidableEq, Repr

structure LedgerError where
  code : LedgerErrorCode
  message : JsString
  deriving DecidableEq

/-- What a call can throw. A value that `String` cannot convert (one whose `toString`
throws, or that has none) is left out: every thrown value here has a text. -/
inductive Thrown where
  | ledger (error : LedgerError)
  | protocol (error : ProtocolError)
  /-- An error of the language or of a library. -/
  | other (message : JsString)
  deriving DecidableEq

/-- A call into code that throws protocol errors. -/
def protocolCall {α : Type} (x : Except ProtocolError α) : Except Thrown α := x.mapError .protocol

@[simp] theorem protocolCall_eq_ok {α : Type} {x : Except ProtocolError α} {a : α} :
    protocolCall x = .ok a ↔ x = .ok a := by
  cases x <;> simp [protocolCall, Except.mapError]

/-! ### Transactions as an RPC node shows them -/

/-- An instruction: parsed, with `program` and `parsed`, or raw, with
`accounts` and base58 `data`. Nothing forces a node to send one or the other. -/
structure RpcInstruction where
  programId : Pubkey
  program : Option JsString := none
  parsed : Option Json := none
  accounts : Option (List Pubkey) := none
  data : Option JsString := none

/-- `PartiallyDecodedInstruction`. -/
structure RawInstruction where
  programId : Pubkey
  accounts : List Pubkey
  data : JsString

/-- The raw instruction, when `isPartiallyDecoded` says it is one. -/
def RpcInstruction.raw? (instruction : RpcInstruction) : Option RawInstruction :=
  match instruction.accounts, instruction.data with
  | some accounts, some data => some ⟨instruction.programId, accounts, data⟩
  | _, _ => none

/-- The inner instructions of the top-level instruction at `index`. -/
structure InnerInstructions where
  index : Nat
  instructions : List RpcInstruction

structure TransactionMeta where
  err : Option Json
  innerInstructions : Option (List InnerInstructions)

/-- `ParsedTransactionWithMeta`. -/
structure ParsedTransaction where
  slot : Nat
  blockTime : Option Int
  metadata : Option TransactionMeta
  signatures : List JsString
  instructions : List RpcInstruction

/-! ### Instruction data -/

/-- Data that is not valid base58 decodes to nothing. -/
def decodeData (data : JsString) : Bytes := (base58Decode data).getD []

def instructionTag (data : JsString) : Option UInt8 := (decodeData data)[0]?

structure DecodedSettlement where
  eventSeed : Bytes
  amount : Nat
  /-- The bytes between the amount and the share count. -/
  extra : Bytes
  bps : List JsNumber

/-- `count` little-endian 16-bit numbers. -/
def readShares (bytes : Bytes) (count : Nat) : List JsNumber :=
  (List.range count).map fun i => .ofInt (leValue ((bytes.drop (2 * i)).take 2))

/-- Decode settlement data with this tag and header length. -/
def decodeSettlement (name : JsString) (tag : UInt8) (header : Nat) (data : JsString) :
    Except Thrown DecodedSettlement :=
  match base58Decode data with
  | none => .error (.ledger ⟨.INSTRUCTION_DATA, name ++ js " data is not valid base58"⟩)
  | some bytes => do
      ensure (¬ (bytes.length < header ∨ bytes[0]? ≠ some tag))
        (.ledger ⟨.INSTRUCTION_DATA, js "instruction is not " ++ name⟩)
      let count := ((bytes[header - 1]?).getD 0).toNat
      ensure (¬ (count = 0 ∨ count > MAX_SHARES ∨ bytes.length ≠ header + 2 * count))
        (.ledger ⟨.INSTRUCTION_DATA, name ++ js " share count or length is invalid"⟩)
      .ok
        { eventSeed := (bytes.take 33).drop 1
          amount := leValue ((bytes.take 41).drop 33)
          extra := (bytes.take (header - 1)).drop 41
          bps := readShares (bytes.drop header) count }

def decodeSettleNData (data : JsString) : Except Thrown DecodedSettlement :=
  decodeSettlement (js "SettleN") SETTLE_N_TAG SETTLE_N_HEADER_LENGTH data

/-- The byte of `extra` is the decimals. -/
def decodeSettleTokenNData (data : JsString) : Except Thrown DecodedSettlement :=
  decodeSettlement (js "SettleTokenN") SETTLE_TOKEN_N_TAG SETTLE_TOKEN_N_HEADER_LENGTH data

/-! ### The settlement instruction -/

/-- The instructions for `programId` with their indices. One that is not raw
refuses the transaction. -/
def rawInstructions (programId : Pubkey) :
    Nat → List RpcInstruction → Except Thrown (List (Nat × RawInstruction))
  | _, [] => .ok []
  | index, instruction :: rest =>
      if instruction.programId = programId then
        match instruction.raw? with
        | none => .error (.ledger ⟨.PROGRAM_INSTRUCTION,
            js "expected raw instructions for program " ++ toBase58 programId⟩)
        | some raw => do
            let later ← rawInstructions programId (index + 1) rest
            .ok ((index, raw) :: later)
      else rawInstructions programId (index + 1) rest

/-- The one top-level settlement for `programId`. A `CreateNamespace` for the
settlement's namespace may sit beside it, anything else fails closed. -/
def findSettlementInstruction (transaction : ParsedTransaction) (programId : Pubkey) :
    Except Thrown (Nat × RawInstruction) := do
  let raw ← rawInstructions programId 0 transaction.instructions
  let settlements := raw.filter fun found =>
    instructionTag found.2.data ≠ some CREATE_NAMESPACE_TAG
  ensure (¬ raw.length - settlements.length > 1)
    (.ledger ⟨.PROGRAM_INSTRUCTION,
      js "expected at most one CreateNamespace beside the settlement for program " ++
        toBase58 programId⟩)
  match settlements with
  | [settlement] => do
      let ns := settlement.2.accounts[2]?
      ensure (∀ found ∈ raw, found.1 ≠ settlement.1 →
          found.2.accounts.length = 4 ∧ ns ≠ none ∧ found.2.accounts[2]? = ns)
        (.ledger ⟨.PROGRAM_INSTRUCTION, js "the instruction beside the settlement is not a " ++
          js "CreateNamespace for the settlement's namespace"⟩)
      .ok settlement
  | _ => .error (.ledger ⟨.PROGRAM_INSTRUCTION,
      js "expected exactly one settlement instruction for program " ++ toBase58 programId ++
        js ", besides any CreateNamespace"⟩)

/-! ### The memo -/

/-- The object in the transaction's one parsed memo. -/
def extractMemo (transaction : ParsedTransaction) : Except Thrown Json :=
  match transaction.instructions.filter fun instruction =>
      instruction.programId = MEMO_PROGRAM_ID with
  | [memo] =>
      match memo.parsed with
      | none => .error (.ledger ⟨.MEMO_MISSING, js "expected exactly one parsed memo instruction"⟩)
      | some (.string text) =>
          match parse text with
          | none => .error (.ledger ⟨.MEMO_MISSING, js "settlement memo is not valid JSON"⟩)
          | some value => do
              ensure value.isRecord
                (.ledger ⟨.MEMO_MISSING, js "settlement memo is not valid JSON"⟩)
              .ok value
      | some _ => .error (.ledger ⟨.MEMO_MISSING, js "settlement memo is not text"⟩)
  | _ => .error (.ledger ⟨.MEMO_MISSING, js "expected exactly one parsed memo instruction"⟩)

/-! ### Transfers -/

structure ObservedTransfer where
  source : JsString
  destination : JsString
  amountOnChain : Nat

structure ObservedTokenTransfer extends ObservedTransfer where
  mint : JsString
  decimals : Int

/-- A number that `Number.isSafeInteger` accepts and that is not negative. -/
def safeAmount (value : JsNumber) : Option Nat :=
  match value.toInt? with
  | some n => if 0 ≤ n ∧ n < 2 ^ 53 then some n.toNat else none
  | none => none

/-- The fields of a parsed System transfer. -/
def transferFields (info : Json) : Option ObservedTransfer :=
  match info.get (js "source"), info.get (js "destination"), info.get (js "lamports") with
  | some (.string source), some (.string destination), some (.number lamports) =>
      (safeAmount lamports).map fun amount => ⟨source, destination, amount⟩
  | _, _, _ => none

def parseSystemTransfer (instruction : RpcInstruction) : Except Thrown (Option ObservedTransfer) :=
  match instruction.parsed with
  | none => .ok none
  | some parsed =>
      if instruction.program ≠ some (js "system") then .ok none
      else if ¬ (parsed.isRecord ∧ parsed.hasText (js "type") (js "transfer")) then .ok none
      else
        match parsed.get (js "info") with
        | none => .error (.ledger ⟨.TRANSFER_MISMATCH, js "system transfer info is malformed"⟩)
        | some info => do
            ensure info.isRecord
              (.ledger ⟨.TRANSFER_MISMATCH, js "system transfer info is malformed"⟩)
            match transferFields info with
            | some transfer => .ok (some transfer)
            | none => .error (.ledger ⟨.TRANSFER_MISMATCH,
                js "system transfer fields are malformed"⟩)

/-- The fields of a parsed `transferChecked`. -/
def tokenTransferFields (info : Json) : Option ObservedTokenTransfer :=
  match info.get (js "source"), info.get (js "destination"), info.get (js "mint"),
      info.get (js "tokenAmount") with
  | some (.string source), some (.string destination), some (.string mint), some tokenAmount =>
      match tokenAmount.get (js "amount"), tokenAmount.get (js "decimals") with
      | some (.string amount), some (.number decimals) =>
          match decimals.toInt? with
          | some decimals =>
              if amount ≠ [] ∧ amount.all isDigit then
                some ⟨⟨source, destination, digitsValue amount⟩, mint, decimals⟩
              else none
          | none => none
      | _, _ => none
  | _, _, _, _ => none

def parseTokenTransfer (instruction : RpcInstruction) :
    Except Thrown (Option ObservedTokenTransfer) :=
  if instruction.raw?.isSome then
    if instruction.programId = tokenProgramId then
      .error (.ledger ⟨.TRANSFER_MISMATCH, js "classic SPL Token inner instruction is not parsed"⟩)
    else .ok none
  else if instruction.program ≠ some (js "spl-token") then .ok none
  else
    match instruction.parsed with
    | none => .error (.ledger ⟨.TRANSFER_MISMATCH, js "unexpected classic SPL Token inner instruction"⟩)
    | some parsed => do
        ensure (parsed.isRecord ∧ parsed.hasText (js "type") (js "transferChecked"))
          (.ledger ⟨.TRANSFER_MISMATCH, js "unexpected classic SPL Token inner instruction"⟩)
        match parsed.get (js "info") with
        | none => .error (.ledger ⟨.TRANSFER_MISMATCH, js "token transfer info is malformed"⟩)
        | some info => do
            ensure (info.isRecord ∧ ((info.get (js "tokenAmount")).map Json.isRecord) = some true)
              (.ledger ⟨.TRANSFER_MISMATCH, js "token transfer info is malformed"⟩)
            match tokenTransferFields info with
            | some transfer => .ok (some transfer)
            | none => .error (.ledger ⟨.TRANSFER_MISMATCH, js "token transfer fields are malformed"⟩)

/-- Apply a parser to every instruction and keep what it finds. -/
def collect {α : Type} (read : RpcInstruction → Except Thrown (Option α)) :
    List RpcInstruction → Except Thrown (List α)
  | [] => .ok []
  | instruction :: rest => do
      let found ← read instruction
      let later ← collect read rest
      .ok (found.toList ++ later)

/-! ### Observations -/

/-- Chain-only evidence of a settlement; a native one has no mint. -/
structure ProgramSettlementObservation where
  signature : JsString
  slot : Nat
  blockTime : Int
  programId : JsString
  payer : JsString
  /-- The namespace authority that signed. -/
  authority : JsString
  ns : JsString
  record : JsString
  eventSeedHex : JsString
  amountOnChain : Nat
  bps : List JsNumber
  recipients : List JsString
  transfers : List ObservedTransfer
  memo : Json

structure ProgramTokenSettlementObservation where
  signature : JsString
  slot : Nat
  blockTime : Int
  programId : JsString
  payer : JsString
  /-- The namespace authority that signed. -/
  authority : JsString
  ns : JsString
  sourceTokenAccount : JsString
  recipientTokenAccounts : List JsString
  mint : JsString
  record : JsString
  eventSeedHex : JsString
  amountOnChain : Nat
  decimals : Nat
  bps : List JsNumber
  transfers : List ObservedTokenTransfer
  memo : Json

/-- The checks both observers start with, and the block time they read. -/
def assertSucceeded (transaction : ParsedTransaction) (signature : JsString) :
    Except Thrown (TransactionMeta × Int) :=
  match transaction.metadata with
  | none => .error (.ledger ⟨.TX_FAILED, js "transaction " ++ signature ++ js " did not succeed"⟩)
  | some metadata => do
      ensure metadata.err.isNone
        (.ledger ⟨.TX_FAILED, js "transaction " ++ signature ++ js " did not succeed"⟩)
      ensure (signature ∈ transaction.signatures)
        (.ledger ⟨.TX_SIGNATURE, js "RPC response does not contain requested signature " ++ signature⟩)
      match transaction.blockTime with
      | none => .error (.ledger ⟨.BLOCK_TIME_MISSING,
          js "transaction " ++ signature ++ js " has no block time"⟩)
      | some blockTime => .ok (metadata, blockTime)

/-- The inner instructions recorded for the instruction at `index`. -/
def innerInstructionsOf (metadata : TransactionMeta) (index : Nat) (message : JsString) :
    Except Thrown (List RpcInstruction) :=
  match (metadata.innerInstructions.getD []).find? fun group => group.index = index with
  | none => .error (.ledger ⟨.TRANSFER_MISMATCH, message⟩)
  | some group => .ok group.instructions

/-- `accounts[i]` of a list whose length was checked. -/
def accountAt (accounts : List Pubkey) (i : Nat) : Pubkey := accounts[i]?.getD defaultPubkey

variable (H : Host)

/-- Extract fail-closed evidence from the RPC's parsed transaction shape. -/
def observeProgramSettlement (transaction : ParsedTransaction) (signature : JsString)
    (programId : Pubkey) : Except Thrown ProgramSettlementObservation := do
  let (metadata, blockTime) ← assertSucceeded transaction signature
  let (index, settlement) ← findSettlementInstruction transaction programId
  let decoded ← decodeSettleNData settlement.data
  let count := decoded.bps.length
  let accounts := settlement.accounts
  ensure (accounts.length = count + 5)
    (.ledger ⟨.ACCOUNT_LAYOUT, js "SettleN expected " ++ decimalText (count + 5) ++
      js " accounts, got " ++ decimalText accounts.length⟩)
  let ns := accountAt accounts 2
  let record := accountAt accounts (3 + count)
  let derived ← protocolCall (findSettlementRecordPda H programId ns decoded.eventSeed)
  ensure (record = derived.1 ∧ accountAt accounts (4 + count) = systemProgramId)
    (.ledger ⟨.ACCOUNT_LAYOUT,
      js "settlement record or system-program account does not match SettleN"⟩)
  let memo ← extractMemo transaction
  let inner ← innerInstructionsOf metadata index
    (js "settlement instruction has no recorded inner instructions")
  let transfers ← collect parseSystemTransfer inner
  .ok
    { signature := signature
      slot := transaction.slot
      blockTime := blockTime
      programId := toBase58 programId
      payer := toBase58 (accountAt accounts 0)
      authority := toBase58 (accountAt accounts 1)
      ns := toBase58 ns
      record := toBase58 record
      eventSeedHex := hexText decoded.eventSeed
      amountOnChain := decoded.amount
      bps := decoded.bps
      recipients := ((accounts.drop 3).take count).map toBase58
      transfers := transfers
      memo := memo }

def observeProgramTokenSettlement (transaction : ParsedTransaction) (signature : JsString)
    (programId : Pubkey) : Except Thrown ProgramTokenSettlementObservation := do
  let (metadata, blockTime) ← assertSucceeded transaction signature
  let (index, settlement) ← findSettlementInstruction transaction programId
  let decoded ← decodeSettleTokenNData settlement.data
  let count := decoded.bps.length
  let accounts := settlement.accounts
  ensure (accounts.length = count + 8)
    (.ledger ⟨.ACCOUNT_LAYOUT, js "SettleTokenN expected " ++ decimalText (count + 8) ++
      js " accounts, got " ++ decimalText accounts.length⟩)
  let ns := accountAt accounts 2
  let record := accountAt accounts (5 + count)
  let derived ← protocolCall (findSettlementRecordPda H programId ns decoded.eventSeed)
  ensure (record = derived.1 ∧ accountAt accounts (6 + count) = systemProgramId ∧
      accountAt accounts (7 + count) = tokenProgramId)
    (.ledger ⟨.ACCOUNT_LAYOUT, js "mint, settlement record, system program, or token " ++
      js "program does not match SettleTokenN"⟩)
  let inner ← innerInstructionsOf metadata index
    (js "token settlement instruction has no recorded inner instructions")
  let transfers ← collect parseTokenTransfer inner
  let memo ← extractMemo transaction
  .ok
    { signature := signature
      slot := transaction.slot
      blockTime := blockTime
      programId := toBase58 programId
      payer := toBase58 (accountAt accounts 0)
      authority := toBase58 (accountAt accounts 1)
      ns := toBase58 ns
      sourceTokenAccount := toBase58 (accountAt accounts 3)
      recipientTokenAccounts := ((accounts.drop 4).take count).map toBase58
      mint := toBase58 (accountAt accounts (4 + count))
      record := toBase58 record
      eventSeedHex := hexText decoded.eventSeed
      amountOnChain := decoded.amount
      decimals := (decoded.extra[0]?.getD 0).toNat
      bps := decoded.bps
      transfers := transfers
      memo := memo }

/-! ### What the decoders accept -/

theorem readShares_bpsBytes (bps : List UInt16) :
    readShares (bpsBytes bps) bps.length = bps.map shareNumber := by
  induction bps with
  | nil => rfl
  | cons share rest ih =>
      have cut : bpsBytes (share :: rest) = leBytes 2 share.toNat ++ bpsBytes rest := rfl
      have value : leValue (leBytes 2 share.toNat) = share.toNat := by
        rw [leValue_leBytes, Nat.mod_eq_of_lt (show share.toNat < 256 ^ 2 from share.toNat_lt)]
      have head : ((bpsBytes (share :: rest)).drop (2 * 0)).take 2 = leBytes 2 share.toNat := by
        rw [cut, Nat.mul_zero, List.drop_zero, List.take_left' (length_leBytes 2 _)]
      have tail (i : Nat) :
          (bpsBytes (share :: rest)).drop (2 * (i + 1)) = (bpsBytes rest).drop (2 * i) := by
        rw [cut, Nat.mul_add, Nat.mul_one, Nat.add_comm, ← List.drop_drop,
          List.drop_left' (length_leBytes 2 _)]
      rw [List.map_cons, ← ih, List.length_cons, readShares, List.range_succ_eq_map, List.map_cons,
        head, value, List.map_map, readShares]
      refine congrArg _ (List.map_congr_left fun i _ => ?_)
      rw [Function.comp_apply, Nat.succ_eq_add_one, tail]

/-- Settlement data: `extra` is what the format puts before the share count. -/
def settlementData (tag : UInt8) (eventId : Bytes32) (amount : UInt64) (extra : Bytes)
    (bps : List UInt16) : Bytes :=
  tag :: (eventId.val ++ (u64Bytes amount ++ (extra ++ (UInt8.ofNat bps.length :: bpsBytes bps))))

/-- A byte string with a valid header is settlement data. -/
theorem exists_settlementData {bytes : Bytes} {tag : UInt8} {k count : Nat}
    (tagged : bytes[0]? = some tag) (counted : (bytes[41 + k]?).map UInt8.toNat = some count)
    (length : bytes.length = 42 + k + 2 * count) :
    ∃ eventId amount extra bps, extra.length = k ∧ bps.length = count ∧
      bytes = settlementData tag eventId amount extra bps := by
  have grow (lo hi : Nat) (le : lo ≤ hi) :
      bytes.take hi = bytes.take lo ++ (bytes.take hi).drop lo := by
    conv_lhs => rw [← List.take_append_drop lo (bytes.take hi)]
    rw [List.take_take, Nat.min_eq_left le]
  have part (lo hi : Nat) (le : lo ≤ hi) (inside : hi ≤ bytes.length) :
      ((bytes.take hi).drop lo).length = hi - lo := by
    rw [List.length_drop, List.length_take, Nat.min_eq_left inside]
  obtain ⟨countByte, atCount, rfl⟩ := Option.map_eq_some_iff.mp counted
  obtain ⟨bps, bpsLength, tail⟩ := SettlementInstruction.exists_bpsBytes countByte.toNat
    (bytes.drop (42 + k))
    (by rw [List.length_drop]; omega)
  have amountBytes : u64Bytes (UInt64.ofNat (leValue ((bytes.take 41).drop 33))) =
      (bytes.take 41).drop 33 := by
    have eight := part 33 41 (by omega) (by omega)
    exact (readU64_eq_ok.mp (by rw [readU64, ensure_bind_of_pos eight])).symm
  have one : bytes.take 1 = [tag] := by
    cases bytes with
    | nil => cases tagged
    | cons b rest =>
        cases tagged
        rfl
  have last : bytes.drop (41 + k) = countByte :: bytes.drop (42 + k) := by
    rw [drop_eq_cons atCount, show 41 + k + 1 = 42 + k by omega]
  refine ⟨⟨(bytes.take 33).drop 1, by rw [part 1 33 (by omega) (by omega)]⟩,
    UInt64.ofNat (leValue ((bytes.take 41).drop 33)), (bytes.take (41 + k)).drop 41, bps,
    by rw [part 41 (41 + k) (by omega) (by omega)]; omega, bpsLength, ?_⟩
  rw [settlementData, amountBytes, bpsLength, UInt8.ofNat_toNat, ← tail, ← last]
  calc bytes = bytes.take (41 + k) ++ bytes.drop (41 + k) := (List.take_append_drop _ _).symm
    _ = (((bytes.take 1 ++ (bytes.take 33).drop 1) ++ (bytes.take 41).drop 33) ++
          (bytes.take (41 + k)).drop 41) ++ bytes.drop (41 + k) := by
        rw [← grow 1 33 (by omega), ← grow 33 41 (by omega), ← grow 41 (41 + k) (by omega)]
    _ = _ := by
        rw [one]
        simp only [List.append_assoc, List.cons_append, List.nil_append]

/-- The decoder accepts settlement data with this tag and header, and nothing
else, and reads back what was put in. -/
theorem decodeSettlement_eq_ok {name data : JsString} {tag : UInt8} {k : Nat}
    {decoded : DecodedSettlement} :
    decodeSettlement name tag (42 + k) data = .ok decoded ↔
      ∃ eventId amount extra bps, extra.length = k ∧ bps.length ≠ 0 ∧ bps.length ≤ maxShares ∧
        base58Decode data = some (settlementData tag eventId amount extra bps) ∧
        decoded = ⟨eventId.val, amount.toNat, extra, bps.map shareNumber⟩ := by
  unfold decodeSettlement
  cases decodes : base58Decode data with
  | none => simp
  | some bytes =>
      have fields (eventId : Bytes32) (amount : UInt64) (extra : Bytes) (bps : List UInt16)
          (extraLength : extra.length = k) (small : bps.length ≤ maxShares)
          (same : bytes = settlementData tag eventId amount extra bps) :
          bytes.length = 42 + k + 2 * bps.length ∧ bytes[0]? = some tag ∧
          ((bytes[42 + k - 1]?).getD 0).toNat = bps.length ∧
          (bytes.take 33).drop 1 = eventId.val ∧
          leValue ((bytes.take 41).drop 33) = amount.toNat ∧
          (bytes.take (42 + k - 1)).drop 41 = extra ∧
          bytes.drop (42 + k) = bpsBytes bps := by
        have count : (UInt8.ofNat bps.length).toNat = bps.length := by
          simpa using Nat.mod_eq_of_lt (show bps.length < 256 from small.trans_lt (by decide))
        have id := eventId.property
        have eight := length_u64Bytes amount
        have value : leValue (u64Bytes amount) = amount.toNat := by
          rw [u64Bytes, leValue_leBytes,
            Nat.mod_eq_of_lt (show amount.toNat < 256 ^ 8 from amount.toNat_lt)]
        have cut : 42 + k - 1 = 41 + k := by omega
        subst same
        refine ⟨?_, rfl, ?_, ?_, ?_, ?_, ?_⟩
        · simp only [settlementData, List.length_cons, List.length_append, id, eight, extraLength,
            length_bpsBytes]
          omega
        · rw [cut, settlementData, show 41 + k = (32 + (8 + k)) + 1 by omega, List.getElem?_cons_succ,
            List.getElem?_append_right (by omega), id, Nat.add_sub_cancel_left,
            List.getElem?_append_right (by omega), eight, Nat.add_sub_cancel_left,
            List.getElem?_append_right (by omega), extraLength, Nat.sub_self,
            List.getElem?_cons_zero, Option.getD_some, count]
        · rw [settlementData, List.take_succ_cons, List.drop_one, List.tail_cons, List.take_left' id]
        · rw [settlementData, List.take_succ_cons, List.drop_succ_cons, ← List.append_assoc,
            List.take_left' (by rw [List.length_append, id, eight]), List.drop_left' id, value]
        · rw [cut, settlementData, show 41 + k = (40 + k) + 1 by omega, List.take_succ_cons,
            List.drop_succ_cons, ← List.append_assoc, ← List.append_assoc,
            List.take_left' (by rw [List.length_append, List.length_append, id, eight, extraLength]),
            List.drop_left' (by rw [List.length_append, id, eight])]
        · rw [settlementData, show 42 + k = (41 + k) + 1 by omega, List.drop_succ_cons,
            ← List.singleton_append, ← List.append_assoc, ← List.append_assoc, ← List.append_assoc]
          refine List.drop_left' ?_
          simp only [List.length_append, id, eight, extraLength, List.length_singleton]
          omega
      simp only [bind_eq_ok, ensure_eq_ok, exists_const, Except.ok.injEq, not_or, not_not, not_lt,
        Option.some.injEq]
      constructor
      · rintro ⟨⟨atLeast, tagged⟩, ⟨nonzero, small, length⟩, rfl⟩
        have counted : (bytes[41 + k]?).map UInt8.toNat =
            some ((bytes[42 + k - 1]?).getD 0).toNat := by
          rw [show 42 + k - 1 = 41 + k by omega, List.getElem?_eq_getElem (by omega)]
          rfl
        obtain ⟨eventId, amount, extra, bps, extraLength, bpsLength, same⟩ :=
          exists_settlementData tagged counted length
        have few : bps.length ≤ maxShares := by
          rw [bpsLength]
          exact small
        obtain ⟨_, _, count, seed, value, extraEq, tail⟩ :=
          fields eventId amount extra bps extraLength few same
        refine ⟨eventId, amount, extra, bps, extraLength, by rw [bpsLength]; exact nonzero, few,
          same, ?_⟩
        rw [seed, value, extraEq, tail, count, readShares_bpsBytes]
      · rintro ⟨eventId, amount, extra, bps, extraLength, nonzero, few, same, rfl⟩
        obtain ⟨length, tagged, count, seed, value, extraEq, tail⟩ :=
          fields eventId amount extra bps extraLength few same
        rw [count, length]
        refine ⟨⟨by omega, tagged⟩, ⟨nonzero, few, rfl⟩, ?_⟩
        rw [seed, value, extraEq, tail, readShares_bpsBytes]

/-- The native decoder reads exactly the program's encodings of `SettleN`. -/
theorem decodeSettleNData_eq_ok {data : JsString} {decoded : DecodedSettlement} :
    decodeSettleNData data = .ok decoded ↔
      ∃ eventId amount bps, bps.length ≠ 0 ∧ bps.length ≤ maxShares ∧
        base58Decode data = some (SettlementInstruction.settleN eventId amount bps).pack ∧
        decoded = ⟨eventId.val, amount.toNat, [], bps.map shareNumber⟩ := by
  rw [decodeSettleNData, show SETTLE_N_HEADER_LENGTH = 42 + 0 from rfl, decodeSettlement_eq_ok]
  constructor
  · rintro ⟨eventId, amount, extra, bps, none, nonzero, few, encoded, rfl⟩
    cases List.eq_nil_of_length_eq_zero none
    exact ⟨eventId, amount, bps, nonzero, few, encoded, rfl⟩
  · rintro ⟨eventId, amount, bps, nonzero, few, encoded, rfl⟩
    exact ⟨eventId, amount, [], bps, rfl, nonzero, few, encoded, rfl⟩

/-- The token decoder reads exactly the program's encodings of
`SettleTokenN`. -/
theorem decodeSettleTokenNData_eq_ok {data : JsString} {decoded : DecodedSettlement} :
    decodeSettleTokenNData data = .ok decoded ↔
      ∃ eventId amount decimals bps, bps.length ≠ 0 ∧ bps.length ≤ maxShares ∧
        base58Decode data =
          some (SettlementInstruction.settleTokenN eventId amount decimals bps).pack ∧
        decoded = ⟨eventId.val, amount.toNat, [decimals], bps.map shareNumber⟩ := by
  rw [decodeSettleTokenNData, show SETTLE_TOKEN_N_HEADER_LENGTH = 42 + 1 from rfl,
    decodeSettlement_eq_ok]
  constructor
  · rintro ⟨eventId, amount, extra, bps, one, nonzero, few, encoded, rfl⟩
    obtain ⟨decimals, rfl⟩ := List.length_eq_one_iff.mp one
    exact ⟨eventId, amount, decimals, bps, nonzero, few, encoded, rfl⟩
  · rintro ⟨eventId, amount, decimals, bps, nonzero, few, encoded, rfl⟩
    exact ⟨eventId, amount, [decimals], bps, rfl, nonzero, few, encoded, rfl⟩

/-- **One format.** What the four encoders write is the program's encoding of
what they were given, and the program decodes it to exactly that; and the two
ledger decoders accept exactly the bytes the program decodes to a `SettleN` or a
`SettleTokenN`, and read the same fields. -/
theorem codecs_agree :
    (∀ params data, encodeSettleNData params = .ok data →
      ∃ eventId amount bps, params.eventSeed = eventId.val ∧ params.amount = amount.toNat ∧
        params.bps = bps.map shareNumber ∧
        data = (SettlementInstruction.settleN eventId amount bps).pack ∧
        SettlementInstruction.unpack data = .ok (.settleN eventId amount bps)) ∧
    (∀ params data, encodeSettleTokenNData params = .ok data →
      ∃ eventId amount decimals bps, params.eventSeed = eventId.val ∧
        params.amount = amount.toNat ∧ params.decimals = .ofInt decimals.toNat ∧
        params.bps = bps.map shareNumber ∧
        data = (SettlementInstruction.settleTokenN eventId amount decimals bps).pack ∧
        SettlementInstruction.unpack data = .ok (.settleTokenN eventId amount decimals bps)) ∧
    (∀ params data, encodeCreateNamespaceData params = .ok data →
      ∃ namespaceId, params.namespaceId = namespaceId.val ∧
        data = (SettlementInstruction.createNamespace namespaceId params.authority).pack ∧
        SettlementInstruction.unpack data = .ok (.createNamespace namespaceId params.authority)) ∧
    (∀ newAuthority data, encodeSetNamespaceAuthorityData newAuthority = .ok data →
      data = (SettlementInstruction.setNamespaceAuthority newAuthority).pack ∧
        SettlementInstruction.unpack data = .ok (.setNamespaceAuthority newAuthority)) ∧
    (∀ bytes decoded, decodeSettleNData (base58Encode bytes) = .ok decoded ↔
      ∃ eventId amount bps, SettlementInstruction.unpack bytes = .ok (.settleN eventId amount bps) ∧
        decoded = ⟨eventId.val, amount.toNat, [], bps.map shareNumber⟩) ∧
    ∀ bytes decoded, decodeSettleTokenNData (base58Encode bytes) = .ok decoded ↔
      ∃ eventId amount decimals bps,
        SettlementInstruction.unpack bytes = .ok (.settleTokenN eventId amount decimals bps) ∧
        decoded = ⟨eventId.val, amount.toNat, [decimals], bps.map shareNumber⟩ := by
  have count {bps : List UInt16} (valid : ValidBps (bps.map shareNumber)) :
      bps.length ≠ 0 ∧ bps.length ≤ maxShares := by
    have counted := valid.count
    rwa [List.length_map] at counted
  refine ⟨?_, ?_, ?_, ?_, ?_, ?_⟩
  · intro params data ok
    obtain ⟨eventId, amount, bps, rfl, _, valid, rfl⟩ := encodeSettleNData_eq_ok.mp ok
    exact ⟨eventId, amount, bps, rfl, rfl, rfl, rfl,
      SettlementInstruction.unpack_pack (count valid)⟩
  · intro params data ok
    obtain ⟨eventId, amount, decimals, bps, rfl, _, valid, rfl⟩ :=
      encodeSettleTokenNData_eq_ok.mp ok
    exact ⟨eventId, amount, decimals, bps, rfl, rfl, rfl, rfl, rfl,
      SettlementInstruction.unpack_pack (count valid)⟩
  · intro params data ok
    obtain ⟨namespaceId, same, _, rfl⟩ := encodeCreateNamespaceData_eq_ok.mp ok
    exact ⟨namespaceId, same, rfl, SettlementInstruction.unpack_pack trivial⟩
  · intro newAuthority data ok
    obtain ⟨_, rfl⟩ := encodeSetNamespaceAuthorityData_eq_ok.mp ok
    exact ⟨rfl, SettlementInstruction.unpack_pack trivial⟩
  · intro bytes decoded
    simp only [decodeSettleNData_eq_ok, base58Decode_encode, Option.some.injEq,
      SettlementInstruction.unpack_eq_ok, SettlementInstruction.WellFormed]
    constructor
    · rintro ⟨eventId, amount, bps, nonzero, few, rfl, rfl⟩
      exact ⟨eventId, amount, bps, ⟨rfl, nonzero, few⟩, rfl⟩
    · rintro ⟨eventId, amount, bps, ⟨rfl, nonzero, few⟩, rfl⟩
      exact ⟨eventId, amount, bps, nonzero, few, rfl, rfl⟩
  · intro bytes decoded
    simp only [decodeSettleTokenNData_eq_ok, base58Decode_encode, Option.some.injEq,
      SettlementInstruction.unpack_eq_ok, SettlementInstruction.WellFormed]
    constructor
    · rintro ⟨eventId, amount, decimals, bps, nonzero, few, rfl, rfl⟩
      exact ⟨eventId, amount, decimals, bps, ⟨rfl, nonzero, few⟩, rfl⟩
    · rintro ⟨eventId, amount, decimals, bps, ⟨rfl, nonzero, few⟩, rfl⟩
      exact ⟨eventId, amount, decimals, bps, nonzero, few, rfl, rfl⟩

/-! ### What the observers read -/

theorem assertSucceeded_eq_ok {transaction : ParsedTransaction} {signature : JsString}
    {metadata : TransactionMeta} {blockTime : Int} :
    assertSucceeded transaction signature = .ok (metadata, blockTime) ↔
      transaction.metadata = some metadata ∧ metadata.err = none ∧
        signature ∈ transaction.signatures ∧ transaction.blockTime = some blockTime := by
  unfold assertSucceeded
  cases transaction.metadata with
  | none => simp
  | some found =>
      cases transaction.blockTime with
      | none => simp [bind_eq_ok]
      | some time =>
          simp only [bind_eq_ok, ensure_eq_ok, exists_const, Except.ok.injEq, Prod.mk.injEq,
            Option.some.injEq, Option.isNone_iff_eq_none]
          constructor
          · rintro ⟨succeeded, signed, rfl, rfl⟩
            exact ⟨rfl, succeeded, signed, rfl⟩
          · rintro ⟨rfl, succeeded, signed, rfl⟩
            exact ⟨succeeded, signed, rfl, rfl⟩

/-- The raw instructions found are the program's, in order. -/
theorem rawInstructions_ok {programId : Pubkey} {instructions : List RpcInstruction} :
    ∀ {index : Nat} {raw : List (Nat × RawInstruction)},
    rawInstructions programId index instructions = .ok raw →
      List.Forall₂ (fun instruction found => instruction.raw? = some found.2)
        (instructions.filter fun instruction => instruction.programId = programId) raw := by
  induction instructions with
  | nil =>
      intro index raw h
      cases h
      exact .nil
  | cons instruction rest ih =>
      intro index raw h
      rw [rawInstructions] at h
      by_cases ours : instruction.programId = programId
      · rw [if_pos ours] at h
        rw [List.filter_cons_of_pos (by simpa using ours)]
        cases shape : instruction.raw? with
        | none => simp [shape] at h
        | some here =>
            rw [shape] at h
            obtain ⟨later, found, h⟩ := bind_eq_ok.mp h
            cases h
            exact .cons shape (ih found)
      · rw [if_neg ours] at h
        rw [List.filter_cons_of_neg (by simpa using ours)]
        exact ih h

/-- Of the program's instructions, exactly one is no `CreateNamespace`. -/
theorem findSettlementInstruction_ok {transaction : ParsedTransaction} {programId : Pubkey}
    {settlement : Nat × RawInstruction}
    (h : findSettlementInstruction transaction programId = .ok settlement) :
    ∃ raw, List.Forall₂ (fun instruction found => instruction.raw? = some found.2)
        (transaction.instructions.filter fun instruction => instruction.programId = programId) raw ∧
      (raw.filter fun found => instructionTag found.2.data ≠ some CREATE_NAMESPACE_TAG) =
        [settlement] := by
  rw [findSettlementInstruction] at h
  obtain ⟨raw, read, h⟩ := bind_eq_ok.mp h
  obtain ⟨_, _, h⟩ := bind_eq_ok.mp h
  refine ⟨raw, rawInstructions_ok read, ?_⟩
  split at h
  · next only single =>
      obtain ⟨_, _, h⟩ := bind_eq_ok.mp h
      cases h
      exact single
  · cases h

end Synxed.Sdk
