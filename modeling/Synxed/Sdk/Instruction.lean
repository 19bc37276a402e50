import Synxed.Lib.Base58
import Synxed.Program.State
import Synxed.Sdk.Split

/-!
The client-side codec and instruction builders (`instruction.ts`).

`encodeSettleNData_eq_ok` and `encodeCreateNamespaceData_eq_ok` say that what the
encoders write is the program's own encoding, and `buildSettleNInstruction_eq_ok`
which account list goes with it.
-/

namespace Synxed.Sdk

open Synxed.Lib Synxed.Program

/-- What the SDK runs on: the hash, the derivation of program addresses, which
keys are points of the curve, and how the engine prints the properties of
`Object.prototype`. -/
structure Host where
  sha256 : Bytes → Bytes32
  addresses : ProgramAddresses
  isOnCurve : Pubkey → Bool
  inheritedText : JsString → JsString

/-! ### Public keys -/

/-- `key.toBase58()`. -/
def toBase58 (key : Pubkey) : JsString := base58Encode key.val

/-- `new PublicKey(text)`; `none` where it throws. -/
def publicKey (text : JsString) : Option Pubkey := (base58Decode text).bind Bytes32.ofBytes?

@[simp] theorem publicKey_toBase58 (key : Pubkey) : publicKey (toBase58 key) = some key := by
  simp [publicKey, toBase58]

theorem publicKey_eq_some {text : JsString} {key : Pubkey} :
    publicKey text = some key ↔ toBase58 key = text := by
  constructor
  · intro h
    obtain ⟨bytes, decoded, h⟩ := Option.bind_eq_some_iff.mp h
    rw [toBase58, ← Bytes32.ofBytes?_eq_some.mp h, base58Encode_decode decoded]
  · rintro rfl
    exact publicKey_toBase58 key

theorem toBase58_injective {a b : Pubkey} (same : toBase58 a = toBase58 b) : a = b :=
  Subtype.ext (base58Encode_injective same)

/-! ### Layout -/

def CREATE_NAMESPACE_TAG : UInt8 := 3
def SET_NAMESPACE_AUTHORITY_TAG : UInt8 := 4
def SETTLE_N_TAG : UInt8 := 5
def SETTLE_TOKEN_N_TAG : UInt8 := 6
def RETIRED_TAGS : List UInt8 := [0, 1, 2]
def SETTLEMENT_SEED : JsString := js "settlement"
def NAMESPACE_SEED : JsString := js "namespace"
def EVENT_SEED_LENGTH : Nat := 32
def NAMESPACE_ID_LENGTH : Nat := 32
/-- `SettleN` bytes before the bps list: tag + event id + amount + count. -/
def SETTLE_N_HEADER_LENGTH : Nat := 1 + 32 + 8 + 1
def SETTLE_TOKEN_N_HEADER_LENGTH : Nat := 1 + 32 + 8 + 1 + 1
def SETTLEMENT_RECORD_SIZE : Nat := 1 + 32 + 8
def SETTLEMENT_RECORD_DISCRIMINATOR : UInt8 := 1
def NAMESPACE_ACCOUNT_SIZE : Nat := 1 + 1 + 32 + 32 + 32
def NAMESPACE_DISCRIMINATOR : UInt8 := 2

/-- `MemoSq4gqABAXKb96qnH8TysNcWxMyWCqXgDLGmfcHr`. -/
def MEMO_PROGRAM_ID : Pubkey :=
  ⟨[5, 74, 83, 90, 153, 41, 33, 6, 77, 36, 232, 113, 96, 218, 56, 124, 124, 53, 181, 221, 188, 146,
    187, 129, 228, 31, 168, 64, 65, 5, 68, 141], rfl⟩

def U64_MAX : Int := 0xffffffffffffffff

def assertAmountU64 (amount : Int) : Except ProtocolError Unit :=
  ensure (¬ (amount ≤ 0 ∨ amount > U64_MAX))
    ⟨.AMOUNT_U64, js "amount must be a positive u64 (1..=2^64-1)"⟩

def assertSeed (seed : Bytes) : Except ProtocolError Unit :=
  ensure (seed.length = EVENT_SEED_LENGTH) ⟨.SEED_LENGTH, js "event seed must be exactly 32 bytes"⟩

def assertNamespaceId (namespaceId : Bytes) : Except ProtocolError Unit :=
  ensure (namespaceId.length = NAMESPACE_ID_LENGTH)
    ⟨.NAMESPACE_ID, js "namespace id must be exactly 32 bytes"⟩

/-- The all-zero key is the system program's id. Nobody can sign for it. -/
def assertAuthority (authority : Pubkey) : Except ProtocolError Unit :=
  ensure (authority ≠ defaultPubkey)
    ⟨.NAMESPACE_AUTHORITY, js "namespace authority must not be the all-zero key"⟩

variable (H : Host)

/-- The fixed-size on-chain event id of an application event id. -/
def eventIdSeed (eventId : JsString) : Except ProtocolError Bytes32 := do
  ensure (eventId ≠ []) ⟨.EVENT_ID_EMPTY, js "eventId must not be empty"⟩
  .ok (H.sha256 (textEncode eventId))

/-- Address of the namespace `creator` opened under `namespaceId`. -/
def findNamespacePda (programId creator : Pubkey) (namespaceId : Bytes) :
    Except ProtocolError (Pubkey × UInt8) := do
  assertNamespaceId namespaceId
  .ok (H.addresses.find programId [textEncode NAMESPACE_SEED, creator.val, namespaceId])

/-- PDA of the record that marks an event id as settled in `ns`. -/
def findSettlementRecordPda (programId ns : Pubkey) (seed : Bytes) :
    Except ProtocolError (Pubkey × UInt8) := do
  assertSeed seed
  .ok (H.addresses.find programId [textEncode SETTLEMENT_SEED, ns.val, seed])

/-- Address of the record a retired instruction created for an event id. -/
def findLegacySettlementRecordPda (programId : Pubkey) (seed : Bytes) :
    Except ProtocolError (Pubkey × UInt8) := do
  assertSeed seed
  .ok (H.addresses.find programId [textEncode SETTLEMENT_SEED, seed])

/-- A namespace account's contents, as stored on chain. -/
structure NamespaceAccount where
  bump : UInt8
  creator : Pubkey
  namespaceId : Bytes32
  authority : Pubkey
  deriving DecidableEq

/-- Decode a namespace account's data. -/
def decodeNamespaceAccount (data : Bytes) : Except ProtocolError NamespaceAccount :=
  if here : data.length = NAMESPACE_ACCOUNT_SIZE ∧ data[0]? = some NAMESPACE_DISCRIMINATOR then
    .ok
      { bump := data.get ⟨1, by rw [here.1]; decide⟩
        creator := ⟨(data.take 34).drop 2, by simp [here.1, NAMESPACE_ACCOUNT_SIZE]⟩
        namespaceId := ⟨(data.take 66).drop 34, by simp [here.1, NAMESPACE_ACCOUNT_SIZE]⟩
        authority := ⟨(data.take 98).drop 66, by simp [here.1, NAMESPACE_ACCOUNT_SIZE]⟩ }
  else .error ⟨.NAMESPACE_ACCOUNT, js "account data is not a settlement namespace"⟩

/-- The client reads a namespace as the program writes it. -/
theorem decodeNamespaceAccount_namespaceData (bump : UInt8) (creator : Pubkey)
    (namespaceId : Bytes32) (authority : Pubkey) :
    decodeNamespaceAccount (namespaceData bump creator namespaceId authority) =
      .ok ⟨bump, creator, namespaceId, authority⟩ := by
  have atCreator : ((namespaceData bump creator namespaceId authority).take 34).drop 2 =
      creator.val :=
    (slice_eq_some.mp (slice_middle [namespaceDiscriminator, bump] rfl
      (by rw [creator.property]; rfl))).2
  have atId : ((namespaceData bump creator namespaceId authority).take 66).drop 34 =
      namespaceId.val :=
    (slice_eq_some.mp (slice_middle ([namespaceDiscriminator, bump] ++ creator.val)
      (by rw [List.length_append, creator.property]; rfl) (by rw [namespaceId.property]))).2
  have atAuthority : ((namespaceData bump creator namespaceId authority).take 98).drop 66 =
      authority.val := by
    refine (congrArg (List.drop 66) (List.take_of_length_le ?_)).trans ?_
    · exact (length_namespaceData _ _ _ _).le
    · exact (namespaceAuthority_eq_ok.mp (namespaceAuthority_namespaceData _ _ _ _)).2
  refine (dif_pos ⟨length_namespaceData _ _ _ _, rfl⟩).trans (congrArg Except.ok ?_)
  rw [NamespaceAccount.mk.injEq]
  exact ⟨rfl, Subtype.ext atCreator, Subtype.ext atId, Subtype.ext atAuthority⟩

/-! ### Encoders -/

structure CreateNamespaceParams where
  namespaceId : Bytes
  /-- The only key that can settle in, or rotate, the namespace. -/
  authority : Pubkey

def encodeCreateNamespaceData (params : CreateNamespaceParams) : Except ProtocolError Bytes := do
  assertNamespaceId params.namespaceId
  assertAuthority params.authority
  .ok (CREATE_NAMESPACE_TAG :: (params.namespaceId ++ params.authority.val))

def encodeSetNamespaceAuthorityData (newAuthority : Pubkey) : Except ProtocolError Bytes := do
  assertAuthority newAuthority
  .ok (SET_NAMESPACE_AUTHORITY_TAG :: newAuthority.val)

structure SettleNParams where
  eventSeed : Bytes
  amount : Int
  /-- One entry per share, in recipient order. -/
  bps : List JsNumber

/-- `setUint16(share, true)` for each share. -/
def sharesBytes (bps : List JsNumber) : Bytes :=
  bps.flatMap fun share => leBytes 2 (bigintOf share).toNat

def encodeSettleNData (params : SettleNParams) : Except ProtocolError Bytes := do
  assertSeed params.eventSeed
  assertAmountU64 params.amount
  assertBpsShares params.bps
  .ok (SETTLE_N_TAG :: (params.eventSeed ++ (leBytes 8 params.amount.toNat ++
    (UInt8.ofNat params.bps.length :: sharesBytes params.bps))))

structure SettleTokenNParams extends SettleNParams where
  decimals : JsNumber

/-- `Number.isInteger(decimals)`, in 0..=255. -/
def isTokenDecimals (decimals : JsNumber) : Bool :=
  match decimals.toInt? with
  | some value => 0 ≤ value ∧ value ≤ 255
  | none => false

def encodeSettleTokenNData (params : SettleTokenNParams) : Except ProtocolError Bytes := do
  assertSeed params.eventSeed
  assertAmountU64 params.amount
  assertBpsShares params.bps
  ensure (isTokenDecimals params.decimals)
    ⟨.TOKEN_DECIMALS, js "token decimals must be an integer in 0..=255"⟩
  .ok (SETTLE_TOKEN_N_TAG :: (params.eventSeed ++ (leBytes 8 params.amount.toNat ++
    (UInt8.ofNat (bigintOf params.decimals).toNat :: UInt8.ofNat params.bps.length ::
      sharesBytes params.bps))))

/-! ### Builders -/

structure TransactionInstruction where
  programId : Pubkey
  keys : List AccountInfo
  data : Bytes
  deriving DecidableEq

structure CreateNamespaceAccounts where
  programId : Pubkey
  /-- Funds the namespace account's rent. -/
  payer : Pubkey
  /-- Signs, and is part of the namespace address. -/
  creator : Pubkey

/-- Build `CreateNamespace`. -/
def buildCreateNamespaceInstruction (accounts : CreateNamespaceAccounts)
    (params : CreateNamespaceParams) : Except ProtocolError TransactionInstruction := do
  let data ← encodeCreateNamespaceData params
  let pda ← findNamespacePda H accounts.programId accounts.creator params.namespaceId
  .ok
    { programId := accounts.programId
      keys := [⟨accounts.payer, true, true⟩, ⟨accounts.creator, true, false⟩,
        ⟨pda.1, false, true⟩, ⟨systemProgramId, false, false⟩]
      data := data }

structure SettleNAccounts where
  programId : Pubkey
  payer : Pubkey
  /-- The namespace's current authority, which signs. -/
  authority : Pubkey
  ns : Pubkey
  /-- One writable recipient per share, in the same order as `bps`. -/
  recipients : List Pubkey

/-- The program refuses any recipient it owns; the client can name two of them,
this event's record and the namespace. -/
def assertNoProgramAccountRecipient (record ns : Pubkey) :
    Nat → List Pubkey → Except ProtocolError Unit
  | _, [] => .ok ()
  | i, key :: rest => do
      ensure (key ≠ record)
        ⟨.RECIPIENT_IS_RECORD, js "shares[" ++ decimalText i ++
          js "] recipient must not be the settlement record account"⟩
      ensure (key ≠ ns)
        ⟨.RECIPIENT_IS_NAMESPACE, js "shares[" ++ decimalText i ++
          js "] recipient must not be the settlement namespace account"⟩
      assertNoProgramAccountRecipient record ns (i + 1) rest

/-- Build `SettleN`. -/
def buildSettleNInstruction (accounts : SettleNAccounts) (params : SettleNParams) :
    Except ProtocolError TransactionInstruction := do
  ensure (accounts.recipients.length = params.bps.length)
    ⟨.RECIPIENT_COUNT, js "expected " ++ decimalText params.bps.length ++ js " recipients, got " ++
      decimalText accounts.recipients.length⟩
  let data ← encodeSettleNData params
  let pda ← findSettlementRecordPda H accounts.programId accounts.ns params.eventSeed
  assertNoProgramAccountRecipient pda.1 accounts.ns 0 accounts.recipients
  .ok
    { programId := accounts.programId
      keys := ⟨accounts.payer, true, true⟩ :: ⟨accounts.authority, true, false⟩ ::
        ⟨accounts.ns, false, false⟩ ::
          (accounts.recipients.map (fun key => (⟨key, false, true⟩ : AccountInfo)) ++
            [⟨pda.1, false, true⟩, ⟨systemProgramId, false, false⟩])
      data := data }

structure SettleTokenNAccounts where
  programId : Pubkey
  /-- Pays rent and owns the source token account. -/
  payer : Pubkey
  /-- The namespace's current authority, which signs. -/
  authority : Pubkey
  ns : Pubkey
  sourceTokenAccount : Pubkey
  recipientTokenAccounts : List Pubkey
  mint : Pubkey
  tokenProgramId : Option Pubkey := none

/-- Build `SettleTokenN`. -/
def buildSettleTokenNInstruction (accounts : SettleTokenNAccounts) (params : SettleTokenNParams) :
    Except ProtocolError TransactionInstruction := do
  ensure (accounts.recipientTokenAccounts.length = params.bps.length)
    ⟨.RECIPIENT_COUNT, js "expected " ++ decimalText params.bps.length ++
      js " token recipients, got " ++ decimalText accounts.recipientTokenAccounts.length⟩
  let tokenProgram := accounts.tokenProgramId.getD tokenProgramId
  ensure (tokenProgram = tokenProgramId)
    ⟨.TOKEN_PROGRAM, js "SettleTokenN currently supports only the classic SPL Token program"⟩
  let data ← encodeSettleTokenNData params
  let pda ← findSettlementRecordPda H accounts.programId accounts.ns params.eventSeed
  assertNoProgramAccountRecipient pda.1 accounts.ns 0 accounts.recipientTokenAccounts
  ensure (accounts.sourceTokenAccount ∉ accounts.recipientTokenAccounts)
    ⟨.TOKEN_SOURCE_RECIPIENT,
      js "source token account cannot also be a settlement recipient"⟩
  .ok
    { programId := accounts.programId
      keys := ⟨accounts.payer, true, true⟩ :: ⟨accounts.authority, true, false⟩ ::
        ⟨accounts.ns, false, false⟩ :: ⟨accounts.sourceTokenAccount, false, true⟩ ::
          (accounts.recipientTokenAccounts.map (fun key => (⟨key, false, true⟩ : AccountInfo)) ++
            [⟨accounts.mint, false, false⟩, ⟨pda.1, false, true⟩, ⟨systemProgramId, false, false⟩,
              ⟨tokenProgram, false, false⟩])
      data := data }

/-! ### What the builders build -/

variable {H}

theorem eventIdSeed_eq_ok {eventId : JsString} {seed : Bytes32} :
    eventIdSeed H eventId = .ok seed ↔ eventId ≠ [] ∧ H.sha256 (textEncode eventId) = seed := by
  simp only [eventIdSeed, ensure_bind_eq_ok, Except.ok.injEq]

/-- The seeds of a record are the program's. -/
theorem findSettlementRecordPda_eq (programId ns : Pubkey) (seed : Bytes32) :
    findSettlementRecordPda H programId ns seed.val =
      .ok (settlementPda H.addresses programId ns seed) := by
  have prefixBytes : textEncode SETTLEMENT_SEED = settlementSeed := by decide +kernel
  have length : seed.val.length = EVENT_SEED_LENGTH := seed.property
  rw [findSettlementRecordPda, assertSeed, ensure_bind_of_pos length, prefixBytes]
  rfl

theorem findNamespacePda_eq_ok {programId creator : Pubkey} {namespaceId : Bytes}
    {pda : Pubkey × UInt8} :
    findNamespacePda H programId creator namespaceId = .ok pda ↔
      ∃ id : Bytes32, namespaceId = id.val ∧
        pda = namespacePda H.addresses programId creator id := by
  have prefixBytes : textEncode NAMESPACE_SEED = namespaceSeed := by decide +kernel
  simp only [findNamespacePda, assertNamespaceId, ensure_bind_eq_ok, prefixBytes, Except.ok.injEq]
  constructor
  · rintro ⟨length, rfl⟩
    exact ⟨⟨namespaceId, length⟩, rfl, rfl⟩
  · rintro ⟨id, rfl, rfl⟩
    exact ⟨id.property, rfl⟩

theorem encodeCreateNamespaceData_eq_ok {params : CreateNamespaceParams} {data : Bytes} :
    encodeCreateNamespaceData params = .ok data ↔
      ∃ id : Bytes32, params.namespaceId = id.val ∧ params.authority ≠ defaultPubkey ∧
        data = (SettlementInstruction.createNamespace id params.authority).pack := by
  simp only [encodeCreateNamespaceData, assertNamespaceId, assertAuthority, bind_eq_ok,
    ensure_eq_ok, exists_const, Except.ok.injEq]
  constructor
  · rintro ⟨length, authority, rfl⟩
    exact ⟨⟨params.namespaceId, length⟩, rfl, authority, rfl⟩
  · rintro ⟨id, same, authority, rfl⟩
    refine ⟨by rw [same]; exact id.property, authority, ?_⟩
    rw [same]
    rfl

theorem sharesBytes_map (bps : List UInt16) : sharesBytes (bps.map shareNumber) = bpsBytes bps := by
  simp [sharesBytes, bpsBytes, List.flatMap_map]

theorem encodeSetNamespaceAuthorityData_eq_ok {newAuthority : Pubkey} {data : Bytes} :
    encodeSetNamespaceAuthorityData newAuthority = .ok data ↔
      newAuthority ≠ defaultPubkey ∧
        data = (SettlementInstruction.setNamespaceAuthority newAuthority).pack := by
  simp only [encodeSetNamespaceAuthorityData, assertAuthority, ensure_bind_eq_ok, Except.ok.injEq,
    eq_comm (b := data)]
  rfl

/-- The fields both settlement encoders check are those an instruction can
carry. -/
theorem settlementFields_iff {params : SettleNParams} :
    (params.eventSeed.length = EVENT_SEED_LENGTH ∧
      ¬ (params.amount ≤ 0 ∨ params.amount > U64_MAX) ∧ ValidBps params.bps) ↔
      ∃ (eventId : Bytes32) (amount : UInt64) (bps : List UInt16),
        params = ⟨eventId.val, amount.toNat, bps.map shareNumber⟩ ∧ amount ≠ 0 ∧
        ValidBps (bps.map shareNumber) := by
  rw [not_or, not_le, not_lt]
  constructor
  · rintro ⟨length, ⟨positive, small⟩, valid⟩
    obtain ⟨shares, sharesEq⟩ := valid.exists_shares
    have fits : params.amount.toNat < 2 ^ 64 := by
      unfold U64_MAX at small
      omega
    have amount : (UInt64.ofNat params.amount.toNat).toNat = params.amount.toNat := by
      simpa using Nat.mod_eq_of_lt fits
    refine ⟨⟨params.eventSeed, length⟩, UInt64.ofNat params.amount.toNat, shares, ?_, ?_,
      by rw [← sharesEq]; exact valid⟩
    · rw [amount, Int.toNat_of_nonneg positive.le, ← sharesEq]
    · intro zero
      rw [zero] at amount
      simp at amount
      omega
  · rintro ⟨eventId, amount, bps, rfl, nonzero, valid⟩
    have small := amount.toNat_lt
    have positive : amount.toNat ≠ 0 := fun h => nonzero (UInt64.toNat_inj.mp h)
    have range : (0 : Int) < amount.toNat ∧ (amount.toNat : Int) ≤ U64_MAX := by
      unfold U64_MAX
      omega
    exact ⟨eventId.property, range, valid⟩

/-- The encoder accepts exactly the parameters an instruction can carry and
writes the program's encoding of them. -/
theorem encodeSettleNData_eq_ok {params : SettleNParams} {data : Bytes} :
    encodeSettleNData params = .ok data ↔
      ∃ (eventId : Bytes32) (amount : UInt64) (bps : List UInt16),
        params = ⟨eventId.val, amount.toNat, bps.map shareNumber⟩ ∧ amount ≠ 0 ∧
        ValidBps (bps.map shareNumber) ∧
        data = (SettlementInstruction.settleN eventId amount bps).pack := by
  have encoded (eventId : Bytes32) (amount : UInt64) (bps : List UInt16) :
      SETTLE_N_TAG :: (eventId.val ++ (leBytes 8 (amount.toNat : Int).toNat ++
        (UInt8.ofNat (bps.map shareNumber).length :: sharesBytes (bps.map shareNumber)))) =
      (SettlementInstruction.settleN eventId amount bps).pack := by
    rw [sharesBytes_map, SettlementInstruction.pack, u64Bytes, List.length_map, Int.toNat_natCast]
    rfl
  simp only [encodeSettleNData, assertSeed, assertAmountU64, bind_eq_ok, ensure_eq_ok,
    exists_const, assertBpsShares_eq_ok, Except.ok.injEq]
  constructor
  · rintro ⟨seed, range, valid, rfl⟩
    obtain ⟨eventId, amount, bps, rfl, nonzero, valid⟩ :=
      settlementFields_iff.mp ⟨seed, range, valid⟩
    exact ⟨eventId, amount, bps, rfl, nonzero, valid, encoded eventId amount bps⟩
  · rintro ⟨eventId, amount, bps, same, nonzero, valid, rfl⟩
    obtain ⟨seed, range, valid⟩ := settlementFields_iff.mpr ⟨eventId, amount, bps, same, nonzero, valid⟩
    refine ⟨seed, range, valid, ?_⟩
    rw [same]
    exact encoded eventId amount bps

theorem isTokenDecimals_iff {decimals : JsNumber} :
    isTokenDecimals decimals ↔ ∃ byte : UInt8, decimals = .ofInt byte.toNat := by
  unfold isTokenDecimals
  constructor
  · intro h
    cases value : decimals.toInt? with
    | none => simp [value] at h
    | some n =>
        have range : 0 ≤ n ∧ n ≤ 255 := by simpa [value] using h
        have byte : (UInt8.ofNat n.toNat).toNat = n.toNat := by
          simpa using Nat.mod_eq_of_lt (show n.toNat < 256 by omega)
        refine ⟨UInt8.ofNat n.toNat, ?_⟩
        rw [byte, Int.toNat_of_nonneg range.1]
        exact JsNumber.toInt?_eq_some.mp value
  · rintro ⟨byte, rfl⟩
    rw [JsNumber.toInt?_eq_some.mpr rfl]
    have := byte.toNat_lt
    simp
    omega

theorem encodeSettleTokenNData_eq_ok {params : SettleTokenNParams} {data : Bytes} :
    encodeSettleTokenNData params = .ok data ↔
      ∃ (eventId : Bytes32) (amount : UInt64) (decimals : UInt8) (bps : List UInt16),
        params = ⟨⟨eventId.val, amount.toNat, bps.map shareNumber⟩, .ofInt decimals.toNat⟩ ∧
        amount ≠ 0 ∧ ValidBps (bps.map shareNumber) ∧
        data = (SettlementInstruction.settleTokenN eventId amount decimals bps).pack := by
  have encoded (eventId : Bytes32) (amount : UInt64) (decimals : UInt8) (bps : List UInt16) :
      SETTLE_TOKEN_N_TAG :: (eventId.val ++ (leBytes 8 (amount.toNat : Int).toNat ++
        (UInt8.ofNat (bigintOf (.ofInt decimals.toNat)).toNat ::
          UInt8.ofNat (bps.map shareNumber).length :: sharesBytes (bps.map shareNumber)))) =
      (SettlementInstruction.settleTokenN eventId amount decimals bps).pack := by
    have value : bigintOf (.ofInt decimals.toNat) = decimals.toNat := by
      rw [bigintOf, JsNumber.toInt?_eq_some.mpr rfl, Option.getD_some]
    rw [sharesBytes_map, SettlementInstruction.pack, u64Bytes, List.length_map, Int.toNat_natCast,
      value, Int.toNat_natCast, UInt8.ofNat_toNat]
    rfl
  obtain ⟨fields, decimals⟩ := params
  simp only [encodeSettleTokenNData, assertSeed, assertAmountU64, bind_eq_ok, ensure_eq_ok,
    exists_const, assertBpsShares_eq_ok, Except.ok.injEq, isTokenDecimals_iff]
  constructor
  · rintro ⟨seed, range, valid, ⟨byte, rfl⟩, rfl⟩
    obtain ⟨eventId, amount, bps, rfl, nonzero, valid⟩ :=
      settlementFields_iff.mp ⟨seed, range, valid⟩
    exact ⟨eventId, amount, byte, bps, rfl, nonzero, valid, encoded eventId amount byte bps⟩
  · rintro ⟨eventId, amount, byte, bps, same, nonzero, valid, rfl⟩
    cases same
    obtain ⟨seed, range, valid⟩ := settlementFields_iff.mpr ⟨eventId, amount, bps, rfl, nonzero, valid⟩
    exact ⟨seed, range, valid, ⟨byte, rfl⟩, encoded eventId amount byte bps⟩

theorem assertNoProgramAccountRecipient_eq_ok {record ns : Pubkey} {recipients : List Pubkey}
    {u : Unit} : ∀ {i : Nat},
    assertNoProgramAccountRecipient record ns i recipients = .ok u ↔
      ∀ key ∈ recipients, key ≠ record ∧ key ≠ ns := by
  induction recipients with
  | nil => simp [assertNoProgramAccountRecipient]
  | cons key rest ih =>
      intro i
      simp only [assertNoProgramAccountRecipient, bind_eq_ok, ensure_eq_ok, exists_const, ih,
        List.mem_cons, forall_eq_or_imp, and_assoc]

/-- The `SettleN` instruction of one settlement. -/
def settleNInstruction (A : ProgramAddresses) (accounts : SettleNAccounts) (eventId : Bytes32)
    (amount : UInt64) (bps : List UInt16) : TransactionInstruction where
  programId := accounts.programId
  keys := ⟨accounts.payer, true, true⟩ :: ⟨accounts.authority, true, false⟩ ::
    ⟨accounts.ns, false, false⟩ ::
      (accounts.recipients.map (fun key => (⟨key, false, true⟩ : AccountInfo)) ++
        [⟨(settlementPda A accounts.programId accounts.ns eventId).1, false, true⟩,
          ⟨systemProgramId, false, false⟩])
  data := (SettlementInstruction.settleN eventId amount bps).pack

/-- When `buildSettleNInstruction` succeeds, and what it builds. -/
theorem buildSettleNInstruction_eq_ok {accounts : SettleNAccounts} {params : SettleNParams}
    {instruction : TransactionInstruction} :
    buildSettleNInstruction H accounts params = .ok instruction ↔
      ∃ (eventId : Bytes32) (amount : UInt64) (bps : List UInt16),
        params = ⟨eventId.val, amount.toNat, bps.map shareNumber⟩ ∧ amount ≠ 0 ∧
        ValidBps (bps.map shareNumber) ∧ accounts.recipients.length = bps.length ∧
        (∀ key ∈ accounts.recipients,
          key ≠ (settlementPda H.addresses accounts.programId accounts.ns eventId).1 ∧
            key ≠ accounts.ns) ∧
        instruction = settleNInstruction H.addresses accounts eventId amount bps := by
  simp only [buildSettleNInstruction, bind_eq_ok, ensure_eq_ok, exists_const,
    encodeSettleNData_eq_ok, assertNoProgramAccountRecipient_eq_ok, Except.ok.injEq]
  constructor
  · rintro ⟨count, _, ⟨eventId, amount, bps, rfl, nonzero, valid, rfl⟩, pda, derived, distinct, rfl⟩
    rw [findSettlementRecordPda_eq] at derived
    cases derived
    exact ⟨eventId, amount, bps, rfl, nonzero, valid, by simpa using count, distinct, rfl⟩
  · rintro ⟨eventId, amount, bps, rfl, nonzero, valid, count, distinct, rfl⟩
    exact ⟨by simpa using count, _, ⟨eventId, amount, bps, rfl, nonzero, valid, rfl⟩, _,
      findSettlementRecordPda_eq _ _ _, distinct, rfl⟩

/-- The `SettleTokenN` instruction of one settlement. -/
def settleTokenNInstruction (A : ProgramAddresses) (accounts : SettleTokenNAccounts)
    (eventId : Bytes32) (amount : UInt64) (decimals : UInt8) (bps : List UInt16) :
    TransactionInstruction where
  programId := accounts.programId
  keys := ⟨accounts.payer, true, true⟩ :: ⟨accounts.authority, true, false⟩ ::
    ⟨accounts.ns, false, false⟩ :: ⟨accounts.sourceTokenAccount, false, true⟩ ::
      (accounts.recipientTokenAccounts.map (fun key => (⟨key, false, true⟩ : AccountInfo)) ++
        [⟨accounts.mint, false, false⟩,
          ⟨(settlementPda A accounts.programId accounts.ns eventId).1, false, true⟩,
          ⟨systemProgramId, false, false⟩, ⟨tokenProgramId, false, false⟩])
  data := (SettlementInstruction.settleTokenN eventId amount decimals bps).pack

/-- When `buildSettleTokenNInstruction` succeeds, and what it builds. -/
theorem buildSettleTokenNInstruction_eq_ok {accounts : SettleTokenNAccounts}
    {params : SettleTokenNParams} {instruction : TransactionInstruction} :
    buildSettleTokenNInstruction H accounts params = .ok instruction ↔
      ∃ (eventId : Bytes32) (amount : UInt64) (decimals : UInt8) (bps : List UInt16),
        params = ⟨⟨eventId.val, amount.toNat, bps.map shareNumber⟩, .ofInt decimals.toNat⟩ ∧
        amount ≠ 0 ∧ ValidBps (bps.map shareNumber) ∧
        accounts.recipientTokenAccounts.length = bps.length ∧
        accounts.tokenProgramId.getD tokenProgramId = tokenProgramId ∧
        (∀ key ∈ accounts.recipientTokenAccounts,
          key ≠ (settlementPda H.addresses accounts.programId accounts.ns eventId).1 ∧
            key ≠ accounts.ns) ∧
        accounts.sourceTokenAccount ∉ accounts.recipientTokenAccounts ∧
        instruction = settleTokenNInstruction H.addresses accounts eventId amount decimals bps := by
  simp only [buildSettleTokenNInstruction, bind_eq_ok, ensure_eq_ok, exists_const,
    encodeSettleTokenNData_eq_ok, assertNoProgramAccountRecipient_eq_ok, Except.ok.injEq]
  constructor
  · rintro ⟨count, classic, _, ⟨eventId, amount, decimals, bps, rfl, nonzero, valid, rfl⟩, pda,
      derived, distinct, notSource, rfl⟩
    rw [findSettlementRecordPda_eq] at derived
    cases derived
    refine ⟨eventId, amount, decimals, bps, rfl, nonzero, valid, by simpa using count, classic,
      distinct, notSource, ?_⟩
    rw [settleTokenNInstruction, classic]
  · rintro ⟨eventId, amount, decimals, bps, rfl, nonzero, valid, count, classic, distinct, notSource,
      rfl⟩
    refine ⟨by simpa using count, classic, _,
      ⟨eventId, amount, decimals, bps, rfl, nonzero, valid, rfl⟩, _,
      findSettlementRecordPda_eq _ _ _, distinct, notSource, ?_⟩
    rw [settleTokenNInstruction, classic]

end Synxed.Sdk
