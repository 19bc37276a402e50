import Synxed.Sdk.Ledger

/-!
Comparing chain evidence with the request it should settle (`ledger.ts`), and
the ledger rows that follow from a match.

* `reconcileObservedSettlementN_eq_ok`, `reconcileObservedTokenSettlementN_eq_ok`:
  exactly when evidence and request match, and the rows a match gives.
* `partitions_reconciliationOf`: direct entries and pool payouts divide the
  payout lines.
* `paid_payoutLines`: what the payout lines say each share was paid.
-/

namespace Synxed.Sdk

open Synxed.Lib Synxed.Program

/-! ### Ledger rows -/

inductive LedgerCluster where
  | devnet
  | mainnetBeta
  deriving DecidableEq

/-- What looking a name up in a plain object finds: a string it holds, or
something it inherits from `Object.prototype`. -/
inductive PropertyValue where
  | text (value : JsString)
  | inherited (name : JsString)
  deriving DecidableEq

/-- The properties of `Object.prototype`. -/
def inheritedNames : List JsString :=
  [js "constructor", js "hasOwnProperty", js "isPrototypeOf", js "propertyIsEnumerable",
    js "toLocaleString", js "toString", js "valueOf", js "__proto__", js "__defineGetter__",
    js "__defineSetter__", js "__lookupGetter__", js "__lookupSetter__"]

/-- `object[name]` of an object with these own properties; `none` when it is
`undefined`. -/
def property (object : List (JsString × JsString)) (name : JsString) : Option PropertyValue :=
  match object.find? fun own => own.1 = name with
  | some own => some (.text own.2)
  | none => if name ∈ inheritedNames then some (.inherited name) else none

structure PayoutLine where
  role : JsString
  recipient : JsString
  bps : JsNumber
  amountOnChain : JsString
  /-- `none` for a pooled share. -/
  beneficiaryId : Option PropertyValue
  /-- Token account for SPL payouts; recipient wallet for native payouts. -/
  destinationAccount : JsString

structure SettlementRecord where
  eventId : JsString
  signature : JsString
  slot : Nat
  cluster : LedgerCluster
  programId : JsString
  ns : JsString
  authority : JsString
  payer : JsString
  settlementRecord : JsString
  mode : JsString
  asset : SettlementAsset
  mint : Option JsString
  decimals : Option JsNumber
  amountAtomic : JsString
  unitsPerAtomicUnit : JsString
  payouts : List PayoutLine
  occurredAt : JsString
  settledAt : JsString

structure LedgerEntry where
  entryId : JsString
  beneficiaryId : PropertyValue
  wallet : Option JsString
  role : JsString
  pool : Option JsString
  amountOnChain : JsString
  sourceSignature : JsString
  state : JsString
  paidSignature : Option JsString

structure SettlementReconciliation where
  record : SettlementRecord
  /-- Direct payouts are already paid. -/
  directEntries : List LedgerEntry
  /-- Pool shares, to be allocated off chain. -/
  poolPayouts : List PayoutLine

def canonicalRole (label : JsString) : JsString :=
  if label = js "synxed" then js "platform" else label

def sameNumbers (left right : List JsNumber) : Bool :=
  left = right ∧ ∀ value ∈ left, value ≠ .nan

variable (H : Host)

/-- `String(value)`. -/
def propertyText : PropertyValue → JsString
  | .text value => value
  | .inherited name => H.inheritedText name

def ledgerEntryId (signature role : JsString) (beneficiaryId : PropertyValue) : JsString :=
  hexText (H.sha256 (textEncode (signature ++ 0 :: (role ++ 0 :: propertyText H beneficiaryId)))).val

/-! ### Checks -/

def assertNamespace (observed : JsString) (expected : Pubkey) : Except Thrown Unit :=
  ensure (observed = toBase58 expected)
    (.ledger ⟨.NAMESPACE_MISMATCH,
      js "settled in namespace " ++ observed ++ js ", not " ++ toBase58 expected⟩)

def assertEvent (eventSeedHex eventId : JsString) : Except Thrown Unit := do
  let seed ← protocolCall (eventIdSeed H eventId)
  ensure (eventSeedHex = hexText seed.val)
    (.ledger ⟨.EVENT_MISMATCH, js "event id does not match the on-chain seed"⟩)

def assertMemo (memo : Json) (request : SettlementRequestN) (expectedTotal : Int)
    (allowLegacyMemo : Bool) : Except Thrown Unit := do
  ensure (memo.hasText (js "protocol") (js "synxed-settlement") ∧
      memo.hasText (js "event") request.eventId ∧ memo.hasText (js "kind") request.kind.text ∧
      memo.hasText (js "lamports") (bigintText expectedTotal) ∧
      memo.hasText (js "memo") request.memo)
    (.ledger ⟨.MEMO_MISMATCH,
      js "memo protocol, event, kind, or amount does not match the request"⟩)
  ensure ((allowLegacyMemo ∧ (memo.get (js "occurredAt")).isNone) ∨
      memo.hasText (js "occurredAt") request.occurredAt)
    (.ledger ⟨.MEMO_MISMATCH, js "memo occurredAt does not match the request"⟩)
  ensure ((allowLegacyMemo ∧ (memo.get (js "asset")).isNone) ∨
      memo.hasText (js "asset") request.asset.text)
    (.ledger ⟨.MEMO_MISMATCH, js "memo asset does not match the request"⟩)

def hasNumber (value : Json) (key : JsString) (number : JsNumber) : Bool :=
  match value.get key with
  | some (.number found) => found = number ∧ found ≠ .nan
  | _ => false

def assertTokenMemo (memo : Json) (request : SettlementRequestN) (expectedTotal : Int)
    (mint : Pubkey) (decimals : JsNumber) : Except Thrown Unit :=
  ensure (memo.hasText (js "protocol") (js "synxed-settlement") ∧
      memo.hasText (js "event") request.eventId ∧
      memo.hasText (js "occurredAt") request.occurredAt ∧
      memo.hasText (js "kind") request.kind.text ∧ memo.hasText (js "asset") request.asset.text ∧
      memo.hasText (js "tokenAmount") (bigintText expectedTotal) ∧
      memo.hasText (js "mint") (toBase58 mint) ∧ hasNumber memo (js "decimals") decimals ∧
      memo.hasText (js "memo") request.memo)
    (.ledger ⟨.MEMO_MISMATCH, js "token memo does not exactly match the settlement request"⟩)

def transferKey (source destination : JsString) (amount : Int) : JsString :=
  source ++ 0 :: (destination ++ 0 :: bigintText amount)

def tokenTransferKey (source destination mint : JsString) (amount decimals : Int) : JsString :=
  source ++ 0 :: (destination ++ 0 :: (mint ++ 0 :: (bigintText amount ++ 0 :: integerText decimals)))

/-- The keys of the payouts that move something. -/
def expectedTransfers (key : JsString → Int → JsString) (destinations : List JsString)
    (amounts : List Int) : List JsString :=
  ((destinations.zip amounts).filter fun payout => payout.2 ≠ 0).map fun payout =>
    key payout.1 payout.2

def assertBeneficiaries : List (JsString × JsString) → Except Thrown Unit
  | [] => .ok ()
  | (label, beneficiaryId) :: rest => do
      ensure (trim beneficiaryId ≠ [])
        (.ledger ⟨.RECIPIENT_MISMATCH,
          js "beneficiary id for \"" ++ label ++ js "\" must not be empty"⟩)
      assertBeneficiaries rest

/-! ### Payouts -/

/-- Who a share is credited to; a pooled share is held for later. -/
def beneficiaryOf (pooledLabels : List JsString) (beneficiaryIds : List (JsString × JsString))
    (share : ShareInput) : Option PropertyValue :=
  if share.label ∈ pooledLabels then none
  else some ((property beneficiaryIds share.label).getD (.text (js "wallet:" ++ share.recipient)))

/-- One line per share, with its amount and destination. -/
def payoutLines (shares : List ShareInput) (amounts : List Int) (destinations : List JsString)
    (beneficiary : ShareInput → Option PropertyValue) : List PayoutLine :=
  (shares.zip (amounts.zip destinations)).map fun payout =>
    { role := canonicalRole payout.1.label
      recipient := payout.1.recipient
      bps := payout.1.bps
      amountOnChain := bigintText payout.2.1
      beneficiaryId := beneficiary payout.1
      destinationAccount := payout.2.2 }

/-- The ledger row of a direct payout. -/
def directEntry (signature : JsString) (payout : PayoutLine) : Option LedgerEntry :=
  payout.beneficiaryId.map fun beneficiaryId =>
    { entryId := ledgerEntryId H signature payout.role beneficiaryId
      beneficiaryId := beneficiaryId
      wallet := some payout.recipient
      role := payout.role
      pool := none
      amountOnChain := payout.amountOnChain
      sourceSignature := signature
      state := js "paid"
      paidSignature := some signature }

def settledAt (blockTime : Int) : Except Thrown JsString :=
  match toISOString (blockTime * 1000) with
  | some text => .ok text
  | none => .error (.other (js "Invalid Date"))

/-- The result that every reconciliation ends with. -/
def reconciliationOf (record : SettlementRecord) : SettlementReconciliation where
  record := record
  directEntries := record.payouts.filterMap (directEntry H record.signature)
  poolPayouts := record.payouts.filter fun payout => payout.beneficiaryId.isNone

/-! ### Native settlements -/

structure ReconcileObservedSettlementNOptions where
  request : SettlementRequestN
  /-- Your settlement namespace; evidence from any other is refused. -/
  ns : Pubkey
  unitsPerAtomicUnit : Int
  cluster : LedgerCluster := .devnet
  /-- Stable platform IDs by share label. Wallet-derived IDs are the fallback. -/
  beneficiaryIds : List (JsString × JsString) := []
  /-- Labels whose payout is held for later beneficiary allocation. -/
  pooledLabels : List JsString := [js "rewards_pool"]
  allowLegacyMemo : Bool := false

/-- The record of a native settlement that matches. -/
def nativeRecord (observation : ProgramSettlementObservation)
    (options : ReconcileObservedSettlementNOptions) (amounts : List Int) (settledAt : JsString) :
    SettlementRecord where
  eventId := options.request.eventId
  signature := observation.signature
  slot := observation.slot
  cluster := options.cluster
  programId := observation.programId
  ns := observation.ns
  authority := observation.authority
  payer := observation.payer
  settlementRecord := observation.record
  mode := js "program"
  asset := options.request.asset
  mint := none
  decimals := none
  amountAtomic := bigintText options.request.amountAtomic
  unitsPerAtomicUnit := bigintText options.unitsPerAtomicUnit
  payouts := payoutLines options.request.shares amounts
    (options.request.shares.map ShareInput.recipient)
    (beneficiaryOf options.pooledLabels options.beneficiaryIds)
  occurredAt := options.request.occurredAt
  settledAt := settledAt

/-- Compare caller context with chain evidence and build derivable ledger rows. -/
def reconcileObservedSettlementN (observation : ProgramSettlementObservation)
    (options : ReconcileObservedSettlementNOptions) : Except Thrown SettlementReconciliation := do
  let request := options.request
  let _ ← protocolCall (computeSettlementN request)
  ensure (¬ options.unitsPerAtomicUnit ≤ 0)
    (.ledger ⟨.SCALE_RANGE, js "unitsPerAtomicUnit must be a positive bigint"⟩)
  assertNamespace observation.ns options.ns
  assertEvent H observation.eventSeedHex request.eventId
  let expectedTotal := request.amountAtomic * options.unitsPerAtomicUnit
  ensure (observation.amountOnChain = expectedTotal)
    (.ledger ⟨.AMOUNT_MISMATCH, js "expected " ++ bigintText expectedTotal ++
      js " on-chain units, observed " ++ decimalText observation.amountOnChain⟩)
  ensure (request.asset = .solLamportsStandin)
    (.ledger ⟨.ASSET_MISMATCH,
      js "native SettleN evidence can only reconcile SOL_LAMPORTS_STANDIN"⟩)
  let expectedBps := request.shares.map ShareInput.bps
  ensure (sameNumbers observation.bps expectedBps)
    (.ledger ⟨.SHARES_MISMATCH, js "share bps do not match chain evidence"⟩)
  let expectedRecipients := request.shares.map ShareInput.recipient
  ensure (observation.recipients = expectedRecipients)
    (.ledger ⟨.RECIPIENT_MISMATCH, js "share recipients do not match chain evidence"⟩)
  assertMemo observation.memo request expectedTotal options.allowLegacyMemo
  let amounts ← protocolCall (splitAmountAtomicShares expectedTotal expectedBps)
  let expected := expectedTransfers (transferKey observation.payer) expectedRecipients amounts
  let observed := (observation.transfers.filter fun transfer =>
    transfer.destination ≠ observation.record).map fun transfer =>
      transferKey transfer.source transfer.destination transfer.amountOnChain
  ensure (sorted expected = sorted observed)
    (.ledger ⟨.TRANSFER_MISMATCH,
      js "inner system transfers do not exactly match the configured payouts"⟩)
  assertBeneficiaries options.beneficiaryIds
  let settledAt ← settledAt observation.blockTime
  .ok (reconciliationOf H (nativeRecord observation options amounts settledAt))

/-! ### Token settlements -/

/-- `ATokenGPvbdGVxr1b2hvZbsiqW5xWH25efTNsLJA8knL`. -/
def ASSOCIATED_TOKEN_PROGRAM_ID : Pubkey :=
  ⟨[140, 151, 37, 143, 78, 36, 137, 241, 187, 61, 16, 41, 20, 142, 13, 131, 11, 90, 19, 153, 218,
    255, 16, 132, 4, 142, 123, 216, 219, 233, 248, 89], rfl⟩

/-- The address of `owner`'s associated token account for `mint`. -/
def associatedTokenAddress (mint owner : Pubkey) : Pubkey :=
  (H.addresses.find ASSOCIATED_TOKEN_PROGRAM_ID [owner.val, tokenProgramId.val, mint.val]).1

/-- `getAssociatedTokenAddressSync`: a wallet must be a point of the curve,
unless any owner is allowed. -/
def getAssociatedTokenAddressSync (mint owner : Pubkey) (allowOwnerOffCurve : Bool) :
    Except Thrown Pubkey := do
  ensure (allowOwnerOffCurve ∨ H.isOnCurve owner) (.other (js "TokenOwnerOffCurveError"))
  .ok (associatedTokenAddress H mint owner)

structure ReconcileObservedTokenSettlementNOptions where
  request : SettlementRequestN
  /-- Your settlement namespace; evidence from any other is refused. -/
  ns : Pubkey
  tokenBaseUnitsPerAtomicUnit : Int
  mint : Pubkey
  decimals : JsNumber
  cluster : LedgerCluster := .devnet
  beneficiaryIds : List (JsString × JsString) := []
  pooledLabels : List JsString := [js "rewards_pool"]

/-- The record of a token settlement that matches. -/
def tokenRecord (observation : ProgramTokenSettlementObservation)
    (options : ReconcileObservedTokenSettlementNOptions) (amounts : List Int)
    (tokenAccounts : List JsString) (settledAt : JsString) : SettlementRecord where
  eventId := options.request.eventId
  signature := observation.signature
  slot := observation.slot
  cluster := options.cluster
  programId := observation.programId
  ns := observation.ns
  authority := observation.authority
  payer := observation.payer
  settlementRecord := observation.record
  mode := js "program-token"
  asset := options.request.asset
  mint := some (toBase58 options.mint)
  decimals := some options.decimals
  amountAtomic := bigintText options.request.amountAtomic
  unitsPerAtomicUnit := bigintText options.tokenBaseUnitsPerAtomicUnit
  payouts := payoutLines options.request.shares amounts tokenAccounts
    (beneficiaryOf options.pooledLabels options.beneficiaryIds)
  occurredAt := options.request.occurredAt
  settledAt := settledAt

/-- The payer and the recipients' wallets as keys. -/
def parseWallets (payer : JsString) (recipients : List JsString) :
    Except Thrown (Pubkey × List Pubkey) :=
  match publicKey payer, recipients.mapM publicKey with
  | some payer, some wallets => .ok (payer, wallets)
  | _, _ => .error (.ledger ⟨.RECIPIENT_MISMATCH, js "payer or recipient wallet is invalid"⟩)

def reconcileObservedTokenSettlementN (observation : ProgramTokenSettlementObservation)
    (options : ReconcileObservedTokenSettlementNOptions) :
    Except Thrown SettlementReconciliation := do
  let request := options.request
  let _ ← protocolCall (computeSettlementN request)
  ensure (request.asset = .splStablecoin ∨ request.asset = .usdc)
    (.ledger ⟨.ASSET_MISMATCH, js "token evidence requires an SPL_STABLECOIN or USDC request"⟩)
  ensure (¬ options.tokenBaseUnitsPerAtomicUnit ≤ 0)
    (.ledger ⟨.SCALE_RANGE, js "tokenBaseUnitsPerAtomicUnit must be positive"⟩)
  let expectedTotal := request.amountAtomic * options.tokenBaseUnitsPerAtomicUnit
  assertNamespace observation.ns options.ns
  assertEvent H observation.eventSeedHex request.eventId
  ensure (observation.amountOnChain = expectedTotal)
    (.ledger ⟨.AMOUNT_MISMATCH, js "token amount does not match chain evidence"⟩)
  ensure (observation.mint = toBase58 options.mint ∧ .ofInt observation.decimals = options.decimals)
    (.ledger ⟨.ASSET_MISMATCH, js "token mint or decimals do not match"⟩)
  let expectedBps := request.shares.map ShareInput.bps
  ensure (sameNumbers observation.bps expectedBps)
    (.ledger ⟨.SHARES_MISMATCH, js "share bps do not match chain evidence"⟩)
  let (payer, recipientWallets) ←
    parseWallets observation.payer (request.shares.map ShareInput.recipient)
  let expectedSource ← getAssociatedTokenAddressSync H options.mint payer false
  ensure (observation.sourceTokenAccount = toBase58 expectedSource)
    (.ledger ⟨.RECIPIENT_MISMATCH,
      js "source token account is not the payer's associated token account"⟩)
  -- any owner is allowed here, so deriving cannot throw
  let expectedTokenAccounts := recipientWallets.map fun owner =>
    toBase58 (associatedTokenAddress H options.mint owner)
  ensure (observation.recipientTokenAccounts = expectedTokenAccounts)
    (.ledger ⟨.RECIPIENT_MISMATCH,
      js "recipient token accounts do not match the configured wallet ATAs"⟩)
  assertTokenMemo observation.memo request expectedTotal options.mint options.decimals
  let amounts ← protocolCall (splitAmountAtomicShares expectedTotal expectedBps)
  let expected := expectedTransfers
    (fun destination amount => tokenTransferKey observation.sourceTokenAccount destination
      (toBase58 options.mint) amount (bigintOf options.decimals)) expectedTokenAccounts amounts
  let observed := observation.transfers.map fun transfer =>
    tokenTransferKey transfer.source transfer.destination transfer.mint transfer.amountOnChain
      transfer.decimals
  ensure (sorted expected = sorted observed)
    (.ledger ⟨.TRANSFER_MISMATCH,
      js "inner token transfers do not exactly match the configured payouts"⟩)
  assertBeneficiaries options.beneficiaryIds
  let settledAt ← settledAt observation.blockTime
  .ok (reconciliationOf H (tokenRecord observation options amounts expectedTokenAccounts settledAt))

/-! ### What a match says -/

/-- The memo names the request and the total. -/
def MemoMatches (memo : Json) (request : SettlementRequestN) (total : Int) (allowLegacyMemo : Bool) :
    Prop :=
  (memo.hasText (js "protocol") (js "synxed-settlement") ∧
    memo.hasText (js "event") request.eventId ∧ memo.hasText (js "kind") request.kind.text ∧
    memo.hasText (js "lamports") (bigintText total) ∧ memo.hasText (js "memo") request.memo) ∧
  ((allowLegacyMemo ∧ (memo.get (js "occurredAt")).isNone) ∨
    memo.hasText (js "occurredAt") request.occurredAt) ∧
  ((allowLegacyMemo ∧ (memo.get (js "asset")).isNone) ∨
    memo.hasText (js "asset") request.asset.text)

theorem assertMemo_eq_ok {memo : Json} {request : SettlementRequestN} {total : Int}
    {allowLegacyMemo : Bool} {u : Unit} :
    assertMemo memo request total allowLegacyMemo = .ok u ↔
      MemoMatches memo request total allowLegacyMemo := by
  simp only [assertMemo, MemoMatches, bind_eq_ok, ensure_eq_ok, exists_const]

/-- The token memo names the request, the total and the mint. -/
def TokenMemoMatches (memo : Json) (request : SettlementRequestN) (total : Int) (mint : Pubkey)
    (decimals : JsNumber) : Prop :=
  memo.hasText (js "protocol") (js "synxed-settlement") ∧
    memo.hasText (js "event") request.eventId ∧
    memo.hasText (js "occurredAt") request.occurredAt ∧
    memo.hasText (js "kind") request.kind.text ∧ memo.hasText (js "asset") request.asset.text ∧
    memo.hasText (js "tokenAmount") (bigintText total) ∧
    memo.hasText (js "mint") (toBase58 mint) ∧ hasNumber memo (js "decimals") decimals ∧
    memo.hasText (js "memo") request.memo

theorem assertTokenMemo_eq_ok {memo : Json} {request : SettlementRequestN} {total : Int}
    {mint : Pubkey} {decimals : JsNumber} {u : Unit} :
    assertTokenMemo memo request total mint decimals = .ok u ↔
      TokenMemoMatches memo request total mint decimals := by
  rw [assertTokenMemo, ensure_eq_ok, TokenMemoMatches]

theorem assertBeneficiaries_eq_ok {beneficiaryIds : List (JsString × JsString)} {u : Unit} :
    assertBeneficiaries beneficiaryIds = .ok u ↔ ∀ own ∈ beneficiaryIds, trim own.2 ≠ [] := by
  induction beneficiaryIds with
  | nil => simp [assertBeneficiaries]
  | cons own rest ih =>
      simp only [assertBeneficiaries, bind_eq_ok, ensure_eq_ok, exists_const, ih, List.mem_cons,
        forall_eq_or_imp]

variable {H}

theorem assertEvent_eq_ok {eventSeedHex eventId : JsString} {u : Unit} :
    assertEvent H eventSeedHex eventId = .ok u ↔
      ∃ seed, eventIdSeed H eventId = .ok seed ∧ eventSeedHex = hexText seed.val := by
  simp only [assertEvent, bind_eq_ok, ensure_eq_ok, protocolCall_eq_ok]

variable (H) in
/-- Everything a successful native reconciliation compared. -/
structure NativeMatch (observation : ProgramSettlementObservation)
    (options : ReconcileObservedSettlementNOptions) (amounts : List Int) : Prop where
  computed : ∃ result, computeSettlementN options.request = .ok result
  scale : 0 < options.unitsPerAtomicUnit
  ns : observation.ns = toBase58 options.ns
  event : ∃ seed, eventIdSeed H options.request.eventId = .ok seed ∧
    observation.eventSeedHex = hexText seed.val
  amount : observation.amountOnChain = options.request.amountAtomic * options.unitsPerAtomicUnit
  asset : options.request.asset = .solLamportsStandin
  bps : sameNumbers observation.bps (options.request.shares.map ShareInput.bps)
  recipients : observation.recipients = options.request.shares.map ShareInput.recipient
  memo : MemoMatches observation.memo options.request
    (options.request.amountAtomic * options.unitsPerAtomicUnit) options.allowLegacyMemo
  split : splitAmountAtomicShares (options.request.amountAtomic * options.unitsPerAtomicUnit)
    (options.request.shares.map ShareInput.bps) = .ok amounts
  transfers : (expectedTransfers (transferKey observation.payer)
      (options.request.shares.map ShareInput.recipient) amounts).Perm
    ((observation.transfers.filter fun transfer => transfer.destination ≠ observation.record).map
      fun transfer => transferKey transfer.source transfer.destination transfer.amountOnChain)
  beneficiaries : ∀ own ∈ options.beneficiaryIds, trim own.2 ≠ []

theorem settledAt_eq_ok {blockTime : Int} {text : JsString} :
    settledAt blockTime = .ok text ↔ toISOString (blockTime * 1000) = some text := by
  unfold settledAt
  cases toISOString (blockTime * 1000) <;> simp

/-- A native reconciliation succeeds exactly on a match, at a block time that
is a date. -/
theorem reconcileObservedSettlementN_eq_ok {observation : ProgramSettlementObservation}
    {options : ReconcileObservedSettlementNOptions} {reconciliation : SettlementReconciliation} :
    reconcileObservedSettlementN H observation options = .ok reconciliation ↔
      ∃ amounts time, NativeMatch H observation options amounts ∧
        toISOString (observation.blockTime * 1000) = some time ∧
        reconciliation =
          reconciliationOf H (nativeRecord observation options amounts time) := by
  simp only [reconcileObservedSettlementN, assertNamespace, bind_eq_ok, ensure_eq_ok, exists_const,
    protocolCall_eq_ok, assertEvent_eq_ok, assertMemo_eq_ok, assertBeneficiaries_eq_ok,
    settledAt_eq_ok, sorted_eq_iff_perm, not_le, Except.ok.injEq]
  constructor
  · rintro ⟨result, computed, scale, ns, event, amount, asset, bps, recipients, memo, amounts, split,
      transfers, beneficiaries, time, date, rfl⟩
    exact ⟨amounts, time, ⟨⟨result, computed⟩, scale, ns, event, amount, asset, bps, recipients, memo,
      split, transfers, beneficiaries⟩, date, rfl⟩
  · rintro ⟨amounts, time, ⟨⟨result, computed⟩, scale, ns, event, amount, asset, bps, recipients,
      memo, split, transfers, beneficiaries⟩, date, rfl⟩
    exact ⟨result, computed, scale, ns, event, amount, asset, bps, recipients, memo, amounts, split,
      transfers, beneficiaries, time, date, rfl⟩

theorem parseWallets_eq_ok {payer : JsString} {recipients : List JsString} {key : Pubkey}
    {wallets : List Pubkey} :
    parseWallets payer recipients = .ok (key, wallets) ↔
      toBase58 key = payer ∧ wallets.map toBase58 = recipients := by
  have all : recipients.mapM publicKey = some wallets ↔ wallets.map toBase58 = recipients := by
    induction recipients generalizing wallets with
    | nil => cases wallets <;> simp
    | cons recipient rest ih =>
        simp only [List.mapM_cons, Option.bind_eq_bind, Option.bind_eq_some_iff, Option.pure_def,
          Option.some.injEq, publicKey_eq_some, ih]
        constructor
        · rintro ⟨wallet, here, tail, later, rfl⟩
          rw [List.map_cons, here, later]
        · intro same
          cases wallets with
          | nil => cases same
          | cons wallet tail =>
              obtain ⟨here, later⟩ := List.cons.inj same
              exact ⟨wallet, here, tail, later, rfl⟩
  rw [← publicKey_eq_some, ← all, parseWallets]
  cases publicKey payer <;> cases recipients.mapM publicKey <;> simp

variable (H) in
/-- What a successful token reconciliation compared about amounts and
accounts. -/
structure TokenMatch (observation : ProgramTokenSettlementObservation)
    (options : ReconcileObservedTokenSettlementNOptions) (payer : Pubkey) (wallets : List Pubkey)
    (amounts : List Int) : Prop where
  scale : 0 < options.tokenBaseUnitsPerAtomicUnit
  ns : observation.ns = toBase58 options.ns
  event : ∃ seed, eventIdSeed H options.request.eventId = .ok seed ∧
    observation.eventSeedHex = hexText seed.val
  amount : observation.amountOnChain =
    options.request.amountAtomic * options.tokenBaseUnitsPerAtomicUnit
  mint : observation.mint = toBase58 options.mint
  decimals : .ofInt observation.decimals = options.decimals
  bps : sameNumbers observation.bps (options.request.shares.map ShareInput.bps)
  payerText : toBase58 payer = observation.payer
  walletTexts : wallets.map toBase58 = options.request.shares.map ShareInput.recipient
  source : observation.sourceTokenAccount = toBase58 (associatedTokenAddress H options.mint payer)
  destinations : observation.recipientTokenAccounts =
    wallets.map fun owner => toBase58 (associatedTokenAddress H options.mint owner)
  split : splitAmountAtomicShares
    (options.request.amountAtomic * options.tokenBaseUnitsPerAtomicUnit)
    (options.request.shares.map ShareInput.bps) = .ok amounts

variable (H) in
/-- Everything a successful token reconciliation compared. -/
structure TokenAccepts (observation : ProgramTokenSettlementObservation)
    (options : ReconcileObservedTokenSettlementNOptions) (payer : Pubkey) (wallets : List Pubkey)
    (amounts : List Int) : Prop extends TokenMatch H observation options payer wallets amounts where
  computed : ∃ result, computeSettlementN options.request = .ok result
  asset : options.request.asset = .splStablecoin ∨ options.request.asset = .usdc
  payerOnCurve : H.isOnCurve payer
  memo : TokenMemoMatches observation.memo options.request
    (options.request.amountAtomic * options.tokenBaseUnitsPerAtomicUnit) options.mint options.decimals
  transfers : (expectedTransfers (fun destination amount =>
      tokenTransferKey observation.sourceTokenAccount destination (toBase58 options.mint) amount
        (bigintOf options.decimals))
      (wallets.map fun owner => toBase58 (associatedTokenAddress H options.mint owner)) amounts).Perm
    (observation.transfers.map fun transfer => tokenTransferKey transfer.source transfer.destination
      transfer.mint transfer.amountOnChain transfer.decimals)
  beneficiaries : ∀ own ∈ options.beneficiaryIds, trim own.2 ≠ []

/-- A token reconciliation succeeds exactly on a match, at a block time that is
a date. -/
theorem reconcileObservedTokenSettlementN_eq_ok {observation : ProgramTokenSettlementObservation}
    {options : ReconcileObservedTokenSettlementNOptions}
    {reconciliation : SettlementReconciliation} :
    reconcileObservedTokenSettlementN H observation options = .ok reconciliation ↔
      ∃ payer wallets amounts time, TokenAccepts H observation options payer wallets amounts ∧
        toISOString (observation.blockTime * 1000) = some time ∧
        reconciliation = reconciliationOf H (tokenRecord observation options amounts
          (wallets.map fun owner => toBase58 (associatedTokenAddress H options.mint owner)) time) := by
  simp only [reconcileObservedTokenSettlementN, assertNamespace, bind_eq_ok, ensure_eq_ok,
    exists_const, protocolCall_eq_ok, assertEvent_eq_ok, getAssociatedTokenAddressSync,
    assertTokenMemo_eq_ok, assertBeneficiaries_eq_ok, settledAt_eq_ok, sorted_eq_iff_perm,
    Prod.exists, parseWallets_eq_ok, not_le, Except.ok.injEq]
  constructor
  · rintro ⟨result, computed, asset, scale, ns, event, amount, ⟨mint, decimals⟩, bps, payer, wallets,
      ⟨payerText, walletTexts⟩, source, ⟨onCurve, rfl⟩, sourceText, destinations, memo, amounts, split,
      transfers, beneficiaries, time, date, rfl⟩
    exact ⟨payer, wallets, amounts, time, ⟨⟨scale, ns, event, amount, mint, decimals, bps, payerText,
      walletTexts, sourceText, destinations, split⟩, ⟨result, computed⟩, asset,
      onCurve.resolve_left Bool.false_ne_true, memo, transfers, beneficiaries⟩, date, rfl⟩
  · rintro ⟨payer, wallets, amounts, time, ⟨⟨scale, ns, event, amount, mint, decimals, bps, payerText,
      walletTexts, sourceText, destinations, split⟩, ⟨result, computed⟩, asset, onCurve, memo,
      transfers, beneficiaries⟩, date, rfl⟩
    exact ⟨result, computed, asset, scale, ns, event, amount, ⟨mint, decimals⟩, bps, payer, wallets,
      ⟨payerText, walletTexts⟩, _, ⟨.inr onCurve, rfl⟩, sourceText, destinations, memo, amounts, split,
      transfers, beneficiaries, time, date, rfl⟩

/-- What a successful token reconciliation returns. -/
theorem reconcileObservedTokenSettlementN_ok {observation : ProgramTokenSettlementObservation}
    {options : ReconcileObservedTokenSettlementNOptions}
    {reconciliation : SettlementReconciliation}
    (h : reconcileObservedTokenSettlementN H observation options = .ok reconciliation) :
    ∃ payer wallets amounts time, TokenMatch H observation options payer wallets amounts ∧
      reconciliation = reconciliationOf H (tokenRecord observation options amounts
        (wallets.map fun owner => toBase58 (associatedTokenAddress H options.mint owner)) time) := by
  obtain ⟨payer, wallets, amounts, time, accepts, _, same⟩ :=
    reconcileObservedTokenSettlementN_eq_ok.mp h
  exact ⟨payer, wallets, amounts, time, accepts.toTokenMatch, same⟩

/-! ### The rows of a match -/

/-- `BigInt(text)` of an amount. -/
def amountOf (text : JsString) : Nat := digitsValue text

theorem amountOf_bigintText (n : Nat) : amountOf (bigintText n) = n := by
  have notNegative : ¬ ((n : Int) < 0) := by omega
  rw [amountOf, bigintText, if_neg notNegative, Int.natAbs_natCast, digitsValue_decimalText]

/-- What the payout lines pay to whom, share by share. -/
def paidBy (record : SettlementRecord) : List (JsString × Nat) :=
  record.payouts.map fun line => (line.recipient, amountOf line.amountOnChain)

theorem paid_payoutLines {shares : List ShareInput} {amounts : List Nat}
    {destinations : List JsString} {beneficiary : ShareInput → Option PropertyValue}
    (enough : destinations.length = shares.length) :
    (payoutLines shares (amounts.map Int.ofNat) destinations beneficiary).map
        (fun line => (line.recipient, amountOf line.amountOnChain)) =
      (shares.map ShareInput.recipient).zip amounts := by
  induction shares generalizing amounts destinations with
  | nil => rfl
  | cons share rest ih =>
      cases amounts with
      | nil => rfl
      | cons amount amounts =>
          cases destinations with
          | nil => cases enough
          | cons destination destinations =>
              have tail := @ih amounts destinations
                (by simpa using enough)
              simp only [payoutLines, List.map_cons, List.zip_cons_cons] at tail ⊢
              rw [tail, show amountOf (bigintText (Int.ofNat amount)) = amount from
                amountOf_bigintText amount]

/-- Direct entries and pool payouts are the payout lines, divided: each line is
a pool payout or has one direct entry with its role, wallet and amount. -/
def Partitions (reconciliation : SettlementReconciliation) : Prop :=
  ∃ direct, (direct ++ reconciliation.poolPayouts).Perm reconciliation.record.payouts ∧
    List.Forall₂ (fun (entry : LedgerEntry) (line : PayoutLine) =>
        line.beneficiaryId = some entry.beneficiaryId ∧ entry.role = line.role ∧
          entry.wallet = some line.recipient ∧ entry.amountOnChain = line.amountOnChain)
      reconciliation.directEntries direct ∧
    ∀ line ∈ reconciliation.poolPayouts, line.beneficiaryId = none

theorem partitions_reconciliationOf (record : SettlementRecord) :
    Partitions (reconciliationOf H record) := by
  refine ⟨record.payouts.filter fun line => line.beneficiaryId.isSome, ?_, ?_, ?_⟩
  · have perm := List.filter_append_perm (fun line : PayoutLine => line.beneficiaryId.isSome)
      record.payouts
    simpa [reconciliationOf] using perm
  · simp only [reconciliationOf]
    induction record.payouts with
    | nil => exact .nil
    | cons line rest ih =>
        cases pooled : line.beneficiaryId with
        | none => simpa [directEntry, pooled] using ih
        | some beneficiaryId => simpa [directEntry, pooled] using ih
  · intro line mem
    simpa [reconciliationOf] using (List.mem_filter.mp mem).2

end Synxed.Sdk
