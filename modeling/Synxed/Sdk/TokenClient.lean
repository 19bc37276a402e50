import Synxed.Sdk.Client
import Synxed.Sdk.Reconcile

/-!
Building token settlements (`client.ts`): the memo, the accounts that recipients
lack, and the `SettleTokenN` of one request.

* `buildTokenSettlementNTransaction_ok`: what a successful build checked and
  built.
-/

namespace Synxed.Sdk

open Synxed.Lib Synxed.Program

/-! ### The platform -/

inductive CompileError where
  /-- A `RangeError`: the message does not fit its buffer. -/
  | range
  | other (message : JsString)

/-- A host that compiles transactions, too. -/
structure ClientHost extends Host where
  /-- `String(value)` of a number that is no integer. -/
  fractionText : ℚ → JsString
  /-- The length of the message a fee payer's transaction compiles to, and the
  signatures it requires. -/
  compileMessage : Pubkey → List TransactionInstruction → Except CompileError (Nat × Nat)

def PACKET_DATA_SIZE : Nat := 1232

/-! ### Options -/

structure BuildTokenSettlementNOptions where
  payer : Pubkey
  request : SettlementRequestN
  mint : Pubkey
  decimals : JsNumber
  programId : Pubkey
  ns : Pubkey
  /-- The namespace's authority; the payer when there is none. -/
  authority : Option Pubkey := none
  tokenBaseUnitsPerAtomicUnit : Option Int := none
  createRecipientAccounts : Option Bool := none

structure PreparedTokenSettlementN where
  transaction : List TransactionInstruction
  mode : JsString
  tokenAmountTotal : Int
  tokenAmountsByShare : List Int
  sourceTokenAccount : Pubkey
  recipientTokenAccounts : List Pubkey
  deriving DecidableEq

/-! ### Checks -/

def isTokenAsset (asset : SettlementAsset) : Bool :=
  asset = .splStablecoin ∨ asset = .usdc

def scaledTokenTotal (amountAtomic : Int) (scale : Option Int) : Except ProtocolError Int := do
  let factor := scale.getD 1
  ensure (¬ factor ≤ 0)
    ⟨.SCALE_RANGE, js "tokenBaseUnitsPerAtomicUnit must be a positive bigint"⟩
  let total := amountAtomic * factor
  ensure (¬ total > U64_MAX)
    ⟨.AMOUNT_U64, js "scaled total " ++ bigintText total ++ js " token base units exceeds u64"⟩
  .ok total

variable (H : ClientHost)

/-- What both size errors end with. -/
def tooLargeAdvice : JsString :=
  decimalText PACKET_DATA_SIZE ++ js "-byte transaction limit; use fewer shares, set " ++
    js "createRecipientAccounts: false, or shorten the event id or memo"

/-- One byte for the number of signatures, 64 for each, and the message. -/
def assertTransactionSize (payer : Pubkey) (transaction : List TransactionInstruction) :
    Except Thrown Unit :=
  match H.compileMessage payer transaction with
  | .error .range => .error (.protocol ⟨.TRANSACTION_TOO_LARGE,
      js "token settlement exceeds the " ++ tooLargeAdvice⟩)
  | .error (.other message) => .error (.other message)
  | .ok (length, signatures) =>
      let size := length + 1 + signatures * 64
      ensure (¬ size > PACKET_DATA_SIZE) (.protocol ⟨.TRANSACTION_TOO_LARGE,
        js "token settlement is " ++ decimalText size ++ js " bytes, over the " ++ tooLargeAdvice⟩)

/-! ### Instructions -/

/-- `JSON.stringify` of a number. -/
def numberText : JsNumber → JsString
  | .finite value => if value.den = 1 then integerText value.num else H.fractionText value
  | .nan => js "null"
  | .infinite _ => js "null"

/-- The members of a token memo, with their values as JSON texts. -/
def tokenMemoMembers (request : SettlementRequestN) (tokenAmount : Int) (mint : Pubkey)
    (decimals : JsNumber) : List (JsString × JsString) :=
  [(js "protocol", quote (js "synxed-settlement")), (js "event", quote request.eventId),
    (js "occurredAt", quote request.occurredAt), (js "kind", quote request.kind.text),
    (js "asset", quote request.asset.text), (js "tokenAmount", quote (bigintText tokenAmount)),
    (js "mint", quote (toBase58 mint)), (js "decimals", numberText H decimals),
    (js "memo", quote request.memo)]

def tokenMemoInstruction (request : SettlementRequestN) (tokenAmount : Int) (mint : Pubkey)
    (decimals : JsNumber) : TransactionInstruction where
  programId := MEMO_PROGRAM_ID
  keys := []
  data := textEncode (objectText (tokenMemoMembers H request tokenAmount mint decimals))

/-- The Associated Token Account program's instruction that makes the account
unless it is there. -/
def createAssociatedTokenAccountIdempotentInstruction (payer tokenAccount owner mint : Pubkey) :
    TransactionInstruction where
  programId := ASSOCIATED_TOKEN_PROGRAM_ID
  keys := [⟨payer, true, true⟩, ⟨tokenAccount, false, true⟩, ⟨owner, false, false⟩,
    ⟨mint, false, false⟩, ⟨systemProgramId, false, false⟩, ⟨tokenProgramId, false, false⟩]
  data := [1]

/-- One such instruction for each different account. -/
def creationInstructions (payer mint : Pubkey) :
    List Pubkey → List (Pubkey × Pubkey) → List TransactionInstruction
  | _, [] => []
  | seen, (tokenAccount, owner) :: rest =>
      if tokenAccount ∈ seen then creationInstructions payer mint seen rest
      else createAssociatedTokenAccountIdempotentInstruction payer tokenAccount owner mint ::
        creationInstructions payer mint (tokenAccount :: seen) rest

/-- Build an unsigned classic SPL Token settlement. -/
def buildTokenSettlementNTransaction (options : BuildTokenSettlementNOptions) :
    Except Thrown PreparedTokenSettlementN := do
  let request := options.request
  protocolCall (ensure (isTokenAsset request.asset)
    ⟨.TOKEN_ASSET, js "SettleTokenN requires SPL_STABLECOIN or USDC; mint identity is " ++
      js "verified separately"⟩)
  let _ ← protocolCall (computeSettlementN request)
  let tokenAmountTotal ←
    protocolCall (scaledTokenTotal request.amountAtomic options.tokenBaseUnitsPerAtomicUnit)
  let bps := request.shares.map ShareInput.bps
  let tokenAmountsByShare ← protocolCall (splitAmountAtomicShares tokenAmountTotal bps)
  let recipientWallets ← protocolCall (parseRecipients request.shares)
  let sourceTokenAccount ←
    getAssociatedTokenAddressSync H.toHost options.mint options.payer false
  -- any owner is allowed here, so deriving cannot throw
  let recipientTokenAccounts :=
    recipientWallets.map (associatedTokenAddress H.toHost options.mint)
  let memo := tokenMemoInstruction H request tokenAmountTotal options.mint options.decimals
  let creations :=
    if options.createRecipientAccounts.getD true then
      creationInstructions options.payer options.mint []
        (recipientTokenAccounts.zip recipientWallets)
    else []
  let eventSeed ← protocolCall (eventIdSeed H.toHost request.eventId)
  let settle ← protocolCall (buildSettleTokenNInstruction H.toHost
    { programId := options.programId, payer := options.payer
      authority := options.authority.getD options.payer, ns := options.ns
      sourceTokenAccount := sourceTokenAccount
      recipientTokenAccounts := recipientTokenAccounts, mint := options.mint }
    { eventSeed := eventSeed.val, amount := tokenAmountTotal, decimals := options.decimals
      bps := bps })
  let transaction := memo :: (creations ++ [settle])
  assertTransactionSize H options.payer transaction
  .ok
    { transaction := transaction
      mode := js "program-token"
      tokenAmountTotal := tokenAmountTotal
      tokenAmountsByShare := tokenAmountsByShare
      sourceTokenAccount := sourceTokenAccount
      recipientTokenAccounts := recipientTokenAccounts }

/-! ### What a build built -/

variable {H}

theorem scaledTokenTotal_eq_ok {amountAtomic : Int} {scale : Option Int} {total : Int} :
    scaledTokenTotal amountAtomic scale = .ok total ↔
      0 < scale.getD 1 ∧ total ≤ U64_MAX ∧ total = amountAtomic * scale.getD 1 := by
  simp only [scaledTokenTotal, bind_eq_ok, ensure_eq_ok, exists_const, not_le, not_lt,
    Except.ok.injEq]
  constructor
  · rintro ⟨positive, small, rfl⟩
    exact ⟨positive, small, rfl⟩
  · rintro ⟨positive, small, rfl⟩
    exact ⟨positive, small, rfl⟩

theorem mem_creationInstructions {payer mint : Pubkey} {instruction : TransactionInstruction}
    {accounts : List (Pubkey × Pubkey)} : ∀ {seen : List Pubkey},
    instruction ∈ creationInstructions payer mint seen accounts →
      ∃ tokenAccount owner, instruction =
        createAssociatedTokenAccountIdempotentInstruction payer tokenAccount owner mint := by
  induction accounts with
  | nil => exact fun mem => absurd mem List.not_mem_nil
  | cons account rest ih =>
      obtain ⟨tokenAccount, owner⟩ := account
      intro seen mem
      rw [creationInstructions] at mem
      split at mem
      · exact ih mem
      · rcases List.mem_cons.mp mem with rfl | later
        · exact ⟨tokenAccount, owner, rfl⟩
        · exact ih later

/-- The accounts of the `SettleTokenN` that a build ends with. -/
def settleTokenAccounts (H : Host) (options : BuildTokenSettlementNOptions) (wallets : List Pubkey) :
    SettleTokenNAccounts where
  programId := options.programId
  payer := options.payer
  authority := options.authority.getD options.payer
  ns := options.ns
  sourceTokenAccount := associatedTokenAddress H options.mint options.payer
  recipientTokenAccounts := wallets.map (associatedTokenAddress H options.mint)
  mint := options.mint

/-- What a successful token build checked and built. -/
structure TokenBuild (H : ClientHost) (options : BuildTokenSettlementNOptions)
    (prepared : PreparedTokenSettlementN) (seed : Bytes32) (total : UInt64) (decimals : UInt8)
    (bps : List UInt16) (wallets : List Pubkey) : Prop where
  asset : options.request.asset = .splStablecoin ∨ options.request.asset = .usdc
  scale : 0 < options.tokenBaseUnitsPerAtomicUnit.getD 1
  scaled : options.request.amountAtomic * options.tokenBaseUnitsPerAtomicUnit.getD 1 = total.toNat
  computed : ∃ result, computeSettlementN options.request = .ok result
  seeded : eventIdSeed H.toHost options.request.eventId = .ok seed
  exponent : options.decimals = .ofInt decimals.toNat
  shares : options.request.shares.map ShareInput.bps = bps.map shareNumber
  valid : ValidSplit total bps
  keys : wallets.map toBase58 = options.request.shares.map ShareInput.recipient
  payerOnCurve : H.isOnCurve options.payer
  split : splitAmountAtomicShares
    (options.request.amountAtomic * options.tokenBaseUnitsPerAtomicUnit.getD 1)
    (options.request.shares.map ShareInput.bps) = .ok ((payoutsOf total bps).map Int.ofNat)
  transaction : ∃ creations, (∀ instruction ∈ creations, ∃ tokenAccount owner, instruction =
      createAssociatedTokenAccountIdempotentInstruction options.payer tokenAccount owner
        options.mint) ∧
    prepared.transaction =
      tokenMemoInstruction H options.request total.toNat options.mint options.decimals ::
        (creations ++ [settleTokenNInstruction H.addresses
          (settleTokenAccounts H.toHost options wallets) seed total decimals bps])

theorem buildTokenSettlementNTransaction_ok {options : BuildTokenSettlementNOptions}
    {prepared : PreparedTokenSettlementN}
    (built : buildTokenSettlementNTransaction H options = .ok prepared) :
    ∃ seed total decimals bps wallets,
      TokenBuild H options prepared seed total decimals bps wallets := by
  simp only [buildTokenSettlementNTransaction, bind_eq_ok, ensure_eq_ok, exists_const,
    protocolCall_eq_ok, scaledTokenTotal_eq_ok, parseRecipients_eq_ok,
    getAssociatedTokenAddressSync, buildSettleTokenNInstruction_eq_ok, Except.ok.injEq] at built
  obtain ⟨asset, result, computed, total, ⟨scale, small, rfl⟩, amounts, split, wallets, keys, source,
    ⟨onCurve, rfl⟩, seed, seeded, settle, ⟨eventId, amount, decimals, bps, params, nonzero, _, _, _,
      _, _, rfl⟩, _, _, rfl⟩ := built
  obtain ⟨total, shares, totalEq, bpsEq, valid, rfl⟩ := split_total small split
  -- what the builder was given is what it encoded
  simp only [SettleTokenNParams.mk.injEq, SettleNParams.mk.injEq] at params
  obtain ⟨⟨sameSeed, sameAmount, sameBps⟩, exponent⟩ := params
  have seedEq : seed = eventId := Subtype.ext sameSeed
  have amountEq : total = amount := by
    rw [totalEq] at sameAmount
    exact UInt64.toNat_inj.mp (by exact_mod_cast sameAmount)
  have bpsSame : shares = bps := by
    rw [bpsEq] at sameBps
    refine (List.map_injective_iff.mpr fun a b same => ?_) sameBps
    exact UInt16.toNat_inj.mp (by exact_mod_cast JsNumber.ofInt_injective same)
  subst seedEq amountEq bpsSame
  refine ⟨seed, total, decimals, shares, wallets, ?_⟩
  exact
    { asset := by simpa [isTokenAsset] using asset
      scale := scale
      scaled := totalEq
      computed := ⟨result, computed⟩
      seeded := seeded
      exponent := exponent
      shares := bpsEq
      valid := valid
      keys := keys
      payerOnCurve := onCurve.resolve_left Bool.false_ne_true
      split := split
      transaction := by
        refine ⟨_, fun instruction mem => ?_, by rw [totalEq]; rfl⟩
        split at mem
        · exact mem_creationInstructions mem
        · cases mem }

end Synxed.Sdk
