import Synxed.Lib.Interaction
import Synxed.Sdk.Client
import Synxed.Sdk.Reconcile

/-!
What the SDK asks an RPC node (`client.ts`, `ledger.ts`): reading a namespace or
a settlement record, fetching and reconciling a finalized settlement, and
searching a record's history for the transaction that created it.

The functions take a `Connection`, and only ever read through it.
-/

namespace Synxed.Sdk

open Synxed.Lib Synxed.Program

/-! ### Connections -/

structure LatestBlockhash where
  blockhash : JsString
  lastValidBlockHeight : Nat

/-- The answer to a send. A refusal is a `SendTransactionError` whose message
starts with "Simulation failed", with the reason it gives; any other error is
thrown. -/
inductive SendAnswer where
  | accepted (signature : JsString)
  | refused (reason : JsString)

inductive ConfirmationStatus where
  | processed
  | confirmed
  | finalized
  deriving DecidableEq

structure SignatureStatus where
  confirmationStatus : Option ConfirmationStatus
  err : Option Json

/-- `ConfirmedSignatureInfo`. -/
structure SignatureInfo where
  signature : JsString
  err : Option Json

/-- The requests that the SDK and the worker make. -/
inductive Rpc where
  /-- At confirmed commitment. -/
  | getLatestBlockhash
  | sendRawTransaction (raw : Bytes) (skipPreflight : Bool)
  /-- At confirmed commitment. -/
  | getAccountInfo (address : Pubkey)
  /-- Of one signature, searching the transaction history. -/
  | getSignatureStatuses (signature : JsString)
  /-- At confirmed commitment. -/
  | getBlockHeight
  | getGenesisHash
  /-- Finalized. -/
  | getParsedTransaction (signature : JsString)
  /-- Finalized. -/
  | getParsedTransactions (signatures : List JsString)
  /-- Finalized. -/
  | getSignaturesForAddress (address : Pubkey) (limit : Nat) (before : Option JsString)
  deriving DecidableEq

abbrev Rpc.Answer : Rpc → Type
  | getLatestBlockhash => LatestBlockhash
  | sendRawTransaction _ _ => SendAnswer
  | getAccountInfo _ => Option Account
  | getSignatureStatuses _ => Option SignatureStatus
  | getBlockHeight => Nat
  | getGenesisHash => JsString
  | getParsedTransaction _ => Option ParsedTransaction
  | getParsedTransactions _ => List (Option ParsedTransaction)
  | getSignaturesForAddress _ _ _ => List SignatureInfo

/-- A request that only looks something up. -/
def Rpc.IsLookup : Rpc → Prop
  | sendRawTransaction _ _ => False
  | _ => True

/-- The account a node returns; one without lamports does not exist. -/
def existing (account : Account) : Option Account :=
  if account.lamports = 0 then none else some account

/-- How a program makes requests, and how many more times a loop that waits for
a deadline polls before it passes. -/
structure Connection (Op : Type) (Reply : Op → Type) where
  request (call : Rpc) : Interaction Op Reply Thrown call.Answer
  polls : Interaction Op Reply Thrown Nat

/-! ### Errors as text -/

/-- `String(error)`. -/
def Thrown.text : Thrown → JsString
  | ledger error => js "LedgerError: " ++ error.message
  | protocol error => js "ProtocolError: " ++ error.message
  | other text => text

/-- `error.message`. -/
def Thrown.message : Thrown → JsString
  | ledger error => error.message
  | protocol error => error.message
  | other text => text

def LedgerErrorCode.text : LedgerErrorCode → JsString
  | .TX_NOT_FOUND => js "TX_NOT_FOUND"
  | .TX_FAILED => js "TX_FAILED"
  | .TX_SIGNATURE => js "TX_SIGNATURE"
  | .CLUSTER_MISMATCH => js "CLUSTER_MISMATCH"
  | .NAMESPACE_MISMATCH => js "NAMESPACE_MISMATCH"
  | .BLOCK_TIME_MISSING => js "BLOCK_TIME_MISSING"
  | .PROGRAM_INSTRUCTION => js "PROGRAM_INSTRUCTION"
  | .INSTRUCTION_DATA => js "INSTRUCTION_DATA"
  | .ACCOUNT_LAYOUT => js "ACCOUNT_LAYOUT"
  | .MEMO_MISSING => js "MEMO_MISSING"
  | .MEMO_MISMATCH => js "MEMO_MISMATCH"
  | .ASSET_MISMATCH => js "ASSET_MISMATCH"
  | .EVENT_MISMATCH => js "EVENT_MISMATCH"
  | .AMOUNT_MISMATCH => js "AMOUNT_MISMATCH"
  | .SHARES_MISMATCH => js "SHARES_MISMATCH"
  | .RECIPIENT_MISMATCH => js "RECIPIENT_MISMATCH"
  | .TRANSFER_MISMATCH => js "TRANSFER_MISMATCH"
  | .SCALE_RANGE => js "SCALE_RANGE"
  | .POOL_ALLOCATION => js "POOL_ALLOCATION"
  | .RECORD_HISTORY => js "RECORD_HISTORY"

variable {Op : Type} {Reply : Op → Type} (H : Host) (connection : Connection Op Reply)

/-! ### Accounts of the program -/

/-- Read a namespace account; `none` when the namespace does not exist. -/
def fetchNamespace (programId address : Pubkey) :
    Interaction Op Reply Thrown (Option FetchedNamespace) := do
  let account ← connection.request (.getAccountInfo address)
  .ofExcept (protocolCall (readNamespace programId address account))

/-- The record that marks `eventSeed` as settled in `ns`, or `none` when the
event is not settled there. -/
def fetchSettlementRecord (programId ns : Pubkey) (eventSeed : Bytes32) :
    Interaction Op Reply Thrown (Option SettlementRecordAccount) := do
  let (address, _) ← .ofExcept (protocolCall (findSettlementRecordPda H programId ns eventSeed.val))
  let account ← connection.request (.getAccountInfo address)
  .ofExcept (protocolCall (readSettlementRecord programId address account eventSeed))

/-! ### Finalized settlements -/

def GENESIS_HASHES : LedgerCluster → JsString
  | .devnet => js "EtWTRABZaYq6iMfeYKouRu166VU2xqa1wcaWoxPkrZBG"
  | .mainnetBeta => js "5eykt4UsFv8P8NJdTREpY1vzqKqZKvdpKuc147dw2N9d"

def LedgerCluster.text : LedgerCluster → JsString
  | .devnet => js "devnet"
  | .mainnetBeta => js "mainnet-beta"

def assertLedgerCluster (cluster : LedgerCluster) : Interaction Op Reply Thrown Unit := do
  let genesisHash ← connection.request .getGenesisHash
  .ofExcept (ensure (genesisHash = GENESIS_HASHES cluster)
    (.ledger ⟨.CLUSTER_MISMATCH,
      js "RPC genesis hash does not identify " ++ cluster.text⟩))

structure ReconcileSettlementNOptions extends ReconcileObservedSettlementNOptions where
  signature : JsString
  programId : Pubkey
  finalityTimeoutMs : Option Int := none
  pollIntervalMs : Option Int := none

/-- Ask for the finalized transaction until it is there, at most `polls` more
times. -/
def awaitTransaction (signature : JsString) :
    Nat → Interaction Op Reply Thrown (Option ParsedTransaction)
  | 0 => connection.request (.getParsedTransaction signature)
  | polls + 1 => do
      let transaction ← connection.request (.getParsedTransaction signature)
      match transaction with
      | some transaction => pure (some transaction)
      | none => awaitTransaction signature polls

/-- What `reconcileSettlementN` makes of the transaction it fetched. -/
def reconcileTransaction (options : ReconcileSettlementNOptions) (transaction : ParsedTransaction) :
    Except Thrown SettlementReconciliation := do
  let observation ← observeProgramSettlement H transaction options.signature options.programId
  reconcileObservedSettlementN H observation options.toReconcileObservedSettlementNOptions

/-- Fetch and reconcile a finalized program-mode `SettleN` transaction. -/
def reconcileSettlementN (options : ReconcileSettlementNOptions) :
    Interaction Op Reply Thrown SettlementReconciliation := do
  .ofExcept (ensure
    (0 < options.finalityTimeoutMs.getD 60000 ∧ 0 < options.pollIntervalMs.getD 1000)
    (.ledger ⟨.TX_NOT_FOUND, js "finality timeout and poll interval must be positive"⟩))
  assertLedgerCluster connection options.cluster
  let polls ← connection.polls
  let transaction ← awaitTransaction connection options.signature polls
  match transaction with
  | none => throw (.ledger ⟨.TX_NOT_FOUND,
      js "finalized transaction " ++ options.signature ++ js " was not found"⟩)
  | some transaction => .ofExcept (reconcileTransaction H options transaction)

/-! ### The history of a record -/

/-- The finalized transaction that created a settlement record. -/
structure SettlementTransaction where
  signature : JsString
  slot : Nat
  /-- False when another program invoked the settlement, or left a decoy. -/
  topLevel : Bool
  deriving DecidableEq

/-- Transactions fetched per request while reading a record's history. -/
def HISTORY_BATCH : Nat := 100

/-- A transaction under every signature it carries; the latest entry comes
first. -/
def addFound (found : List (JsString × ParsedTransaction)) (transaction : ParsedTransaction) :
    List (JsString × ParsedTransaction) :=
  transaction.signatures.foldl (fun found signature => (signature, transaction) :: found) found

def foundAt (found : List (JsString × ParsedTransaction)) (signature : JsString) :
    Option ParsedTransaction :=
  (found.find? fun entry => entry.1 = signature).map (·.2)

/-- Fetch on their own the transactions that the batch did not answer. -/
def fetchMissing : List JsString → List (JsString × ParsedTransaction) →
    Interaction Op Reply Thrown (List (JsString × ParsedTransaction))
  | [], found => pure found
  | signature :: rest, found =>
      if (foundAt found signature).isSome then fetchMissing rest found
      else do
        let transaction ←
          try connection.request (.getParsedTransaction signature)
          catch error => throw (.ledger ⟨.RECORD_HISTORY,
            js "could not read finalized transaction " ++ signature ++
              js " from the record's history: " ++ error.message⟩)
        match transaction with
        | some transaction =>
            fetchMissing rest
              (if signature ∈ transaction.signatures then (signature, transaction) :: found
              else found)
        | none => fetchMissing rest found

/-- The finalized transactions for `signatures`, by signature. A batch that the
endpoint refuses is fetched one by one. -/
def fetchFinalized (signatures : List JsString) :
    Interaction Op Reply Thrown (List (JsString × ParsedTransaction)) := do
  let batch ←
    try connection.request (.getParsedTransactions signatures)
    catch _ => pure []
  fetchMissing connection signatures ((batch.filterMap id).foldl addFound [])

/-- Whether an instruction of the program settles the event; the data is
decoded. -/
abbrev SettlesEvent := RawInstruction → Bytes → Bool

/-- The settling instruction, top-level or invoked by another program. -/
def settlementIn (transaction : ParsedTransaction) (programId : Pubkey) (settles : SettlesEvent) :
    Option Bool :=
  let matching (instruction : RpcInstruction) : Bool :=
    match instruction.raw? with
    | some raw => raw.programId = programId && settles raw (decodeData raw.data)
    | none => false
  let inner := (transaction.metadata.bind TransactionMeta.innerInstructions).getD []
  if transaction.instructions.any matching then some true
  else if inner.any fun group => group.instructions.any matching then some false
  else none

/-- The settlements among the transactions of a batch, in the order of their
signatures. -/
def settlementsIn (programId : Pubkey) (settles : SettlesEvent)
    (found : List (JsString × ParsedTransaction)) :
    List JsString → Except Thrown (List SettlementTransaction)
  | [] => .ok []
  | signature :: rest =>
      match foundAt found signature with
      | none => .error (.ledger ⟨.RECORD_HISTORY, js "finalized transaction " ++ signature ++
          js " from the record's history was not found"⟩)
      | some transaction => do
          let later ← settlementsIn programId settles found rest
          match transaction.metadata with
          | none => .ok later
          | some metadata =>
              if metadata.err.isSome then .ok later
              else
                match settlementIn transaction programId settles with
                | some topLevel => .ok (⟨signature, transaction.slot, topLevel⟩ :: later)
                | none => .ok later

/-- The settlements of one page, batch by batch. -/
def settlementsOfPage (programId : Pubkey) (settles : SettlesEvent) (signatures : List JsString) :
    Interaction Op Reply Thrown (List SettlementTransaction) := do
  let batches ← Interaction.each (fun batch => do
    let found ← fetchFinalized connection batch
    .ofExcept (settlementsIn programId settles found batch)) (signatures.toChunks HISTORY_BATCH)
  pure batches.flatten

/-- Read the history page by page. Every page that is followed by another has
at least one entry, so `maxSignatures` pages are enough. -/
def readHistory (record programId : Pubkey) (settles : SettlesEvent) (maxSignatures : Nat) :
    Nat → Nat → Option JsString → Interaction Op Reply Thrown (List SettlementTransaction)
  | 0, _, _ => throw (.ledger ⟨.RECORD_HISTORY, js "record " ++ toBase58 record ++ js " has " ++
      decimalText maxSignatures ++ js " or more signatures; raise maxSignatures"⟩)
  | pages + 1, read, before => do
      let limit := min 1000 (maxSignatures - read)
      let page ← connection.request (.getSignaturesForAddress record limit before)
      let succeeded := (page.filter fun entry => entry.err.isNone).map SignatureInfo.signature
      let found ← settlementsOfPage connection programId settles succeeded
      if page.length < limit then pure found
      else if read + page.length ≥ maxSignatures then
        throw (.ledger ⟨.RECORD_HISTORY, js "record " ++ toBase58 record ++ js " has " ++
          decimalText maxSignatures ++ js " or more signatures; raise maxSignatures"⟩)
      else do
        let later ← readHistory record programId settles maxSignatures pages (read + page.length)
          (page.getLast?.map SignatureInfo.signature)
        pure (found ++ later)

def findCreatingTransaction (record programId : Pubkey) (settles : SettlesEvent)
    (maxSignatures : Nat) : Interaction Op Reply Thrown SettlementTransaction := do
  .ofExcept (ensure (0 < maxSignatures ∧ maxSignatures < 2 ^ 53)
    (.ledger ⟨.RECORD_HISTORY, js "maxSignatures must be a positive integer"⟩))
  let found ← readHistory connection record programId settles maxSignatures maxSignatures 0 none
  match found with
  | [settlement] => pure settlement
  | _ => throw (.ledger ⟨.RECORD_HISTORY,
      js "expected exactly one successful settlement in record " ++ toBase58 record ++
        js "'s history, found " ++ decimalText found.length⟩)

def hasEventSeed (data : Bytes) (eventSeed : Bytes32) : Bool :=
  33 ≤ data.length ∧ (data.take 33).drop 1 = eventSeed.val

/-- The settlements of an event in a namespace. -/
def settlesEvent (ns : Pubkey) (eventSeed : Bytes32) : SettlesEvent := fun instruction data =>
  (data[0]? = some SETTLE_N_TAG ∨ data[0]? = some SETTLE_TOKEN_N_TAG) ∧
    instruction.accounts[2]? = some ns ∧ hasEventSeed data eventSeed

/-- The finalized transaction that settled `eventId` in `ns` and so created its
record. -/
def findSettlementTransaction (programId ns : Pubkey) (eventId : JsString)
    (maxSignatures : Nat := 5000) : Interaction Op Reply Thrown SettlementTransaction := do
  let eventSeed ← .ofExcept (protocolCall (eventIdSeed H eventId))
  let (record, _) ← .ofExcept (protocolCall (findSettlementRecordPda H programId ns eventSeed.val))
  findCreatingTransaction connection record programId (settlesEvent ns eventSeed) maxSignatures

/-- The retired settlements of an event, before namespaces. -/
def settlesLegacyEvent (record : Pubkey) (eventSeed : Bytes32) : SettlesEvent :=
  fun instruction data =>
    RETIRED_TAGS.any (fun tag => some tag = data[0]?) ∧
      instruction.accounts.any (fun account => account = record) ∧ hasEventSeed data eventSeed

/-- The finalized transaction that created an event's record with a retired
instruction. -/
def findLegacySettlementTransaction (programId : Pubkey) (eventId : JsString)
    (maxSignatures : Nat := 5000) : Interaction Op Reply Thrown SettlementTransaction := do
  let eventSeed ← .ofExcept (protocolCall (eventIdSeed H eventId))
  let (record, _) ← .ofExcept (protocolCall (findLegacySettlementRecordPda H programId eventSeed.val))
  findCreatingTransaction connection record programId (settlesLegacyEvent record eventSeed)
    maxSignatures

/-! ### What the search finds -/

/-- The transactions that an answer shows. -/
def Rpc.shown : (call : Rpc) → call.Answer → List ParsedTransaction
  | .getParsedTransaction _, transaction => transaction.toList
  | .getParsedTransactions _, transactions => transactions.filterMap id
  | _, _ => []

/-- A transaction under this signature, that succeeded, settles the event. -/
structure CreatedBy (programId : Pubkey) (settles : SettlesEvent) (created : SettlementTransaction)
    (transaction : ParsedTransaction) : Prop where
  signed : created.signature ∈ transaction.signatures
  succeeded : ∃ metadata, transaction.metadata = some metadata ∧ metadata.err = none
  settles : settlementIn transaction programId settles = some created.topLevel

/-- Every transaction stands under a signature it carries. -/
def Carries (shown : ParsedTransaction → Prop) (found : List (JsString × ParsedTransaction)) : Prop :=
  ∀ entry ∈ found, entry.1 ∈ entry.2.signatures ∧ shown entry.2

theorem Carries.addFound {shown : ParsedTransaction → Prop}
    {found : List (JsString × ParsedTransaction)} {transaction : ParsedTransaction}
    (carries : Carries shown found) (here : shown transaction) :
    Carries shown (addFound found transaction) := by
  have all (signatures : List JsString) (found : List (JsString × ParsedTransaction))
      (carries : Carries shown found) (inside : ∀ signature ∈ signatures, signature ∈ transaction.signatures) :
      Carries shown (signatures.foldl (fun found signature => (signature, transaction) :: found) found) := by
    induction signatures generalizing found with
    | nil => exact carries
    | cons signature rest ih =>
        refine ih _ (fun entry mem => ?_) fun other mem => inside other (List.mem_cons_of_mem _ mem)
        rcases List.mem_cons.mp mem with rfl | old
        · exact ⟨inside signature List.mem_cons_self, here⟩
        · exact carries entry old
  exact all _ found carries fun _ mem => mem

/-- What is found of a batch was shown. -/
theorem createdBy_of_mem_settlementsIn {shown : ParsedTransaction → Prop} {programId : Pubkey}
    {settles : SettlesEvent} {found : List (JsString × ParsedTransaction)}
    (carries : Carries shown found) :
    ∀ {signatures : List JsString} {settlements : List SettlementTransaction},
      settlementsIn programId settles found signatures = .ok settlements →
        ∀ created ∈ settlements, ∃ transaction, shown transaction ∧
          CreatedBy programId settles created transaction
  | [], _, ended => by
      cases ended
      exact fun _ mem => nomatch mem
  | signature :: rest, settlements, ended => by
      unfold settlementsIn at ended
      split at ended
      · cases ended
      · next transaction at_ =>
          obtain ⟨later, rest_, ended⟩ := bind_eq_ok.mp ended
          have before := createdBy_of_mem_settlementsIn carries rest_
          split at ended
          · cases ended
            exact before
          · next metadata read =>
              split at ended
              · cases ended
                exact before
              · next succeeded =>
                  split at ended
                  · next topLevel settled =>
                      cases ended
                      intro created mem
                      rcases List.mem_cons.mp mem with rfl | old
                      · obtain ⟨entry, stands, rfl⟩ := Option.map_eq_some_iff.mp at_
                        obtain ⟨signed, here⟩ := carries entry (List.mem_of_find?_eq_some stands)
                        rw [show entry.1 = signature by simpa using List.find?_some stands] at signed
                        refine ⟨entry.2, here, signed, ⟨metadata, read, ?_⟩, settled⟩
                        simpa using succeeded
                      · exact before created old
                  · cases ended
                    exact before

section Finds

variable {H connection} {W : Type} {step : W → (op : Op) → Except Thrown (Reply op) → W → Prop}
  {guard : W → Op → Prop} {shown : ParsedTransaction → W → Prop}
  (told : ∀ call : Rpc, call.IsLookup → ∀ w, Interaction.Safe step guard (connection.request call)
    (fun answer w' => ∀ transaction ∈ call.shown answer, shown transaction w') (fun _ _ => True) w)
  (keeps : ∀ transaction w op reply w', guard w op → shown transaction w → step w op reply w' →
    shown transaction w')

include told keeps

theorem safe_fetchMissing : ∀ (signatures : List JsString) (found : List (JsString × ParsedTransaction))
    (w : W), Carries (shown · w) found → Interaction.Safe step guard
      (fetchMissing connection signatures found) (fun found w' => Carries (shown · w') found)
      (fun _ _ => True) w
  | [], _, _, carries => carries
  | signature :: rest, found, w, carries => by
      unfold fetchMissing
      split
      · exact safe_fetchMissing rest found w carries
      · have kept (w : W) (op : Op) (reply : Except Thrown (Reply op)) (w' : W) (guarded : guard w op)
            (carries : Carries (shown · w) found) (moved : step w op reply w') :
            Carries (shown · w') found :=
          fun entry mem => ⟨(carries entry mem).1,
            keeps _ w op reply w' guarded (carries entry mem).2 moved⟩
        have asked := (Interaction.Safe.keeps (told (.getParsedTransaction signature) trivial w) kept
          carries).guard_mono fun _ _ both => both.1
        refine Interaction.Safe.bind (Interaction.Safe.tryCatch asked fun _ _ _ => trivial)
          fun transaction w' both => ?_
        obtain ⟨answer, carries⟩ := both
        cases transaction with
        | none => exact safe_fetchMissing rest found w' carries
        | some transaction =>
            refine safe_fetchMissing rest _ w' ?_
            split
            · next signed =>
              intro entry mem
              rcases List.mem_cons.mp mem with rfl | old
              · exact ⟨signed, answer _ (by simp [Rpc.shown])⟩
              · exact carries entry old
            · exact carries

theorem safe_fetchFinalized (signatures : List JsString) (w : W) : Interaction.Safe step guard
    (fetchFinalized connection signatures) (fun found w' => Carries (shown · w') found)
    (fun _ _ => True) w := by
  have batch : Interaction.Safe step guard
      (tryCatch (connection.request (.getParsedTransactions signatures)) fun _ => pure [])
      (fun batch w' => ∀ transaction ∈ batch.filterMap id, shown transaction w') (fun _ _ => True) w :=
    Interaction.Safe.tryCatch (told (.getParsedTransactions signatures) trivial w)
      fun _ _ _ => fun _ mem => nomatch mem
  refine Interaction.Safe.bind batch fun batch w' answered => ?_
  refine safe_fetchMissing told keeps signatures _ w' ?_
  have all (transactions : List ParsedTransaction) (found : List (JsString × ParsedTransaction))
      (carries : Carries (shown · w') found)
      (answered : ∀ transaction ∈ transactions, shown transaction w') :
      Carries (shown · w') (transactions.foldl addFound found) := by
    induction transactions generalizing found with
    | nil => exact carries
    | cons transaction rest ih =>
        exact ih _ (carries.addFound (answered transaction List.mem_cons_self))
          fun other mem => answered other (List.mem_cons_of_mem _ mem)
  exact all _ [] (fun _ mem => nomatch mem) answered

/-- What the settlements found are: each was shown. -/
def Shows (shown : ParsedTransaction → W → Prop) (programId : Pubkey) (settles : SettlesEvent)
    (settlements : List SettlementTransaction) (w : W) : Prop :=
  ∀ created ∈ settlements, ∃ transaction, shown transaction w ∧
    CreatedBy programId settles created transaction

omit told in
theorem Shows.moved {programId : Pubkey} {settles : SettlesEvent}
    {settlements : List SettlementTransaction} {w w' : W} {op : Op} {reply : Except Thrown (Reply op)}
    (guarded : guard w op) (shows : Shows shown programId settles settlements w)
    (moved : step w op reply w') : Shows shown programId settles settlements w' := by
  intro created mem
  obtain ⟨transaction, here, creates⟩ := shows created mem
  exact ⟨transaction, keeps transaction w op reply w' guarded here moved, creates⟩

theorem safe_settlementsOfPage (programId : Pubkey) (settles : SettlesEvent)
    (signatures : List JsString) (w : W) : Interaction.Safe step guard
      (settlementsOfPage connection programId settles signatures) (Shows shown programId settles)
      (fun _ _ => True) w := by
  have one (batch : List JsString) (w : W) : Interaction.Safe step guard (do
      let found ← fetchFinalized connection batch
      .ofExcept (settlementsIn programId settles found batch))
      (Shows shown programId settles) (fun _ _ => True) w := by
    refine Interaction.Safe.bind (safe_fetchFinalized told keeps batch w) fun found w' carries => ?_
    exact Interaction.safe_ofExcept.mpr
      ⟨fun settlements ended => createdBy_of_mem_settlementsIn carries ended, fun _ _ => trivial⟩
  refine Interaction.Safe.bind (Interaction.safe_each_values one
    (fun _ _ _ _ _ _ guarded shows moved => Shows.moved keeps guarded shows moved) _ w)
    fun batches w' each => ?_
  intro created mem
  generalize signatures.toChunks HISTORY_BATCH = chunks at each
  induction each with
  | nil => cases mem
  | cons here _ ih =>
      rcases List.mem_append.mp mem with first | later
      · exact here created first
      · exact ih later

theorem safe_readHistory (record programId : Pubkey) (settles : SettlesEvent) (maxSignatures : Nat)
    (pages read : Nat) (before : Option JsString) (w : W) : Interaction.Safe step guard
      (readHistory connection record programId settles maxSignatures pages read before)
      (Shows shown programId settles) (fun _ _ => True) w := by
  induction pages generalizing read before w with
  | zero => exact trivial
  | succ pages ih =>
      refine Interaction.Safe.bind (told (.getSignaturesForAddress _ _ _) trivial w)
        fun page w _ => ?_
      refine Interaction.Safe.bind (safe_settlementsOfPage told keeps programId settles _ w)
        fun found w shows => ?_
      split
      · exact shows
      · split
        · exact trivial
        · have later := (Interaction.Safe.keeps (ih (read + page.length)
              (page.getLast?.map SignatureInfo.signature) w)
            (fun w op reply w' guarded shows moved => Shows.moved keeps guarded shows moved)
            shows).guard_mono fun _ _ both => both.1
          refine Interaction.Safe.bind (later.mono (fun _ _ both => both) fun _ _ _ => trivial)
            fun later w both => ?_
          intro created mem
          rcases List.mem_append.mp mem with early | late
          · exact both.2 created early
          · exact both.1 created late

/-- The creating transaction was shown to settle the event. -/
theorem safe_findSettlementTransaction (programId ns : Pubkey) (eventId : JsString)
    (maxSignatures : Nat) (w : W) : Interaction.Safe step guard
      (findSettlementTransaction H connection programId ns eventId maxSignatures)
      (fun created w' => ∃ seed transaction, eventIdSeed H eventId = .ok seed ∧
        shown transaction w' ∧ CreatedBy programId (settlesEvent ns seed) created transaction)
      (fun _ _ => True) w := by
  unfold findSettlementTransaction
  have seeded : Interaction.Safe step guard
      (.ofExcept (protocolCall (eventIdSeed H eventId)) : Interaction Op Reply Thrown Bytes32)
      (fun seed _ => eventIdSeed H eventId = .ok seed) (fun _ _ => True) w :=
    Interaction.safe_ofExcept.mpr ⟨fun _ ended => protocolCall_eq_ok.mp ended, fun _ _ => trivial⟩
  refine Interaction.Safe.bind seeded fun seed w same => ?_
  have any {α : Type} (x : Except Thrown α) (w : W) : Interaction.Safe step guard
      (.ofExcept x : Interaction Op Reply Thrown α) (fun _ _ => True) (fun _ _ => True) w :=
    Interaction.safe_ofExcept.mpr ⟨fun _ _ => trivial, fun _ _ => trivial⟩
  refine Interaction.Safe.bind (any _ w) fun record w _ => ?_
  refine Interaction.Safe.bind (any _ w) fun _ w _ => ?_
  refine Interaction.Safe.bind (safe_readHistory told keeps _ programId _ maxSignatures _ _ _ w)
    fun found w shows => ?_
  split
  · next created =>
    obtain ⟨transaction, here, creates⟩ := shows created List.mem_cons_self
    exact ⟨seed, transaction, same, here, creates⟩
  · exact trivial

end Finds

/-! ### What a reconciliation tells -/

section Reconciles

variable {H connection} {W : Type} {step : W → (op : Op) → Except Thrown (Reply op) → W → Prop}
  {guard : W → Op → Prop} {good : ParsedTransaction → W → Prop} {failed : Thrown → W → Prop}

/-- What an endpoint showed of the signature, compared with the request. -/
def Compared (good : ParsedTransaction → W → Prop) (options : ReconcileSettlementNOptions)
    (result : Except Thrown SettlementReconciliation) (w : W) : Prop :=
  ∃ transaction, good transaction w ∧ reconcileTransaction H options transaction = result

theorem safe_awaitTransaction {signature : JsString}
    (told : ∀ w, Interaction.Safe step guard (connection.request (.getParsedTransaction signature))
      (fun found w' => ∀ transaction, found = some transaction → good transaction w') failed w)
    (polls : Nat) (w : W) : Interaction.Safe step guard (awaitTransaction connection signature polls)
      (fun found w' => ∀ transaction, found = some transaction → good transaction w') failed w := by
  induction polls generalizing w with
  | zero => exact told w
  | succ polls ih =>
      refine Interaction.Safe.bind (told w) fun found w' known => ?_
      cases found with
      | some transaction => exact known
      | none => exact ih w'

/-- A settlement reconciles only with a transaction the endpoint showed, and
unless that transaction contradicts the request only the cluster, the endpoint
or its silence fails it. -/
theorem safe_reconcileSettlementN {options : ReconcileSettlementNOptions}
    (told : ∀ w, Interaction.Safe step guard
      (connection.request (.getParsedTransaction options.signature))
      (fun found w' => ∀ transaction, found = some transaction → good transaction w') failed w)
    (genesis : ∀ w, Interaction.Safe step guard (connection.request .getGenesisHash)
      (fun _ _ => True) failed w)
    (polls : ∀ w, Interaction.Safe step guard connection.polls (fun _ _ => True) failed w) (w : W) :
    Interaction.Safe step guard (reconcileSettlementN H connection options)
      (fun reconciliation w' => Compared (H := H) good options (.ok reconciliation) w')
      (fun error w' => failed error w' ∨ Compared (H := H) good options (.error error) w' ∨
        ∃ ledger, error = .ledger ledger ∧
          (ledger.code = .TX_NOT_FOUND ∨ ledger.code = .CLUSTER_MISMATCH)) w := by
  unfold reconcileSettlementN
  have failing {α : Type} {program : Interaction Op Reply Thrown α} {post : α → W → Prop} {w : W}
      (safe : Interaction.Safe step guard program post failed w) : Interaction.Safe step guard program
        post (fun error w' => failed error w' ∨ Compared (H := H) good options (.error error) w' ∨
          ∃ ledger, error = .ledger ledger ∧
            (ledger.code = .TX_NOT_FOUND ∨ ledger.code = .CLUSTER_MISMATCH)) w :=
    safe.mono (fun _ _ ended => ended) fun _ _ failed => .inl failed
  -- a check fails with one of its own errors
  have checks {result : Except Thrown Unit} {w : W} (refused : ∀ error, result = .error error →
      ∃ ledger, error = .ledger ledger ∧
        (ledger.code = .TX_NOT_FOUND ∨ ledger.code = .CLUSTER_MISMATCH)) :
      Interaction.Safe step guard (.ofExcept result) (fun _ _ => True)
        (fun error w' => failed error w' ∨ Compared (H := H) good options (.error error) w' ∨
          ∃ ledger, error = .ledger ledger ∧
            (ledger.code = .TX_NOT_FOUND ∨ ledger.code = .CLUSTER_MISMATCH)) w :=
    Interaction.safe_ofExcept.mpr
      ⟨fun _ _ => trivial, fun error threw => .inr (.inr (refused error threw))⟩
  refine Interaction.Safe.bind (checks fun error refused => ?_) fun _ w _ => ?_
  · exact ⟨_, (ensure_eq_error.mp refused).2.symm, .inl rfl⟩
  refine Interaction.Safe.bind (Interaction.Safe.bind (failing (genesis w))
    fun hash w _ => checks fun error refused => ?_) fun _ w _ => ?_
  · exact ⟨_, (ensure_eq_error.mp refused).2.symm, .inr rfl⟩
  refine Interaction.Safe.bind (failing (polls w)) fun polls w _ => ?_
  refine Interaction.Safe.bind (failing (safe_awaitTransaction told polls w)) fun found w known => ?_
  cases found with
  | none => exact .inr (.inr ⟨_, rfl, .inl rfl⟩)
  | some transaction =>
      have here := known transaction rfl
      exact Interaction.safe_ofExcept.mpr ⟨fun reconciliation reconciled => ⟨transaction, here, reconciled⟩,
        fun error refused => .inr (.inl ⟨transaction, here, refused⟩)⟩

end Reconciles

/-! ### What the search asks -/

section Uses

variable {H connection} {ops : Op → Prop}

section Batches

variable (single : ∀ signature, (connection.request (.getParsedTransaction signature)).Uses ops)
  (batch : ∀ signatures, (connection.request (.getParsedTransactions signatures)).Uses ops)

include single

theorem uses_fetchMissing : ∀ (signatures : List JsString) (found : List (JsString × ParsedTransaction)),
    (fetchMissing connection signatures found).Uses ops
  | [], _ => Interaction.uses_pure
  | signature :: rest, found => by
      unfold fetchMissing
      split
      · exact uses_fetchMissing rest found
      · refine Interaction.uses_bind (Interaction.uses_tryCatch (single _) fun _ => trivial)
          fun transaction => ?_
        cases transaction with
        | some transaction => exact uses_fetchMissing rest _
        | none => exact uses_fetchMissing rest found

include batch

theorem uses_fetchFinalized (signatures : List JsString) :
    (fetchFinalized connection signatures).Uses ops :=
  Interaction.uses_bind (Interaction.uses_tryCatch (batch _) fun _ => Interaction.uses_pure)
    fun _ => uses_fetchMissing single _ _

/-- Reading the transactions of a page asks for transactions only. -/
theorem uses_settlementsOfPage (programId : Pubkey) (settles : SettlesEvent)
    (signatures : List JsString) :
    (settlementsOfPage connection programId settles signatures).Uses ops := by
  refine Interaction.uses_bind (Interaction.uses_each (fun signatures => ?_) _)
    fun _ => Interaction.uses_pure
  exact Interaction.uses_bind (uses_fetchFinalized single batch signatures)
    fun _ => Interaction.uses_ofExcept

end Batches

/-- Searching a record's history only looks things up. -/
theorem uses_readHistory (requests : ∀ call, call.IsLookup → (connection.request call).Uses ops)
    (record programId : Pubkey) (settles : SettlesEvent) (maxSignatures : Nat) :
    ∀ (pages read : Nat) (before : Option JsString),
      (readHistory connection record programId settles maxSignatures pages read before).Uses ops
  | 0, _, _ => Interaction.uses_throw
  | pages + 1, read, before => by
      refine Interaction.uses_bind (requests _ trivial) fun page => ?_
      refine Interaction.uses_bind (uses_settlementsOfPage (fun _ => requests _ trivial)
        (fun _ => requests _ trivial) programId settles _) fun found => ?_
      split
      · exact Interaction.uses_pure
      · split
        · exact Interaction.uses_throw
        · exact Interaction.uses_bind
            (uses_readHistory requests record programId settles maxSignatures pages _ _)
            fun _ => Interaction.uses_pure

theorem uses_findCreatingTransaction
    (requests : ∀ call, call.IsLookup → (connection.request call).Uses ops)
    (record programId : Pubkey) (settles : SettlesEvent) (maxSignatures : Nat) :
    (findCreatingTransaction connection record programId settles maxSignatures).Uses ops := by
  refine Interaction.uses_bind Interaction.uses_ofExcept fun _ => ?_
  refine Interaction.uses_bind (uses_readHistory requests _ _ _ _ _ _ _) fun found => ?_
  split
  · exact Interaction.uses_pure
  · exact Interaction.uses_throw

theorem uses_findSettlementTransaction
    (requests : ∀ call, call.IsLookup → (connection.request call).Uses ops)
    (programId ns : Pubkey) (eventId : JsString) (maxSignatures : Nat) :
    (findSettlementTransaction H connection programId ns eventId maxSignatures).Uses ops := by
  refine Interaction.uses_bind Interaction.uses_ofExcept fun seed => ?_
  refine Interaction.uses_bind Interaction.uses_ofExcept fun record => ?_
  exact uses_findCreatingTransaction requests _ _ _ _

end Uses

end Synxed.Sdk
