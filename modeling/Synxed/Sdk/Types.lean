import Synxed.Lib.Script

/-!
Requests and errors of the SDK (`types.ts`).
-/

namespace Synxed.Sdk

open Synxed.Lib

def BPS_DENOMINATOR : Int := 10000

/-- Upper bound on shares per settlement. Mirrors the program's `maxShares`. -/
def MAX_SHARES : Nat := 8

inductive ProtocolErrorCode where
  | BPS_SUM
  | BPS_RANGE
  | BPS_INTEGER
  | ZERO_AMOUNT
  | SHARE_COUNT
  | LABEL_EMPTY
  | LABEL_DUPLICATE
  | RECIPIENT_COUNT
  | EVENT_ID_EMPTY
  | SEED_LENGTH
  | AMOUNT_U64
  | SCALE_RANGE
  | RECIPIENT_PUBKEY
  | RECIPIENT_IS_RECORD
  | RECIPIENT_IS_NAMESPACE
  | NAMESPACE_ID
  | NAMESPACE_ACCOUNT
  | NAMESPACE_AUTHORITY
  | NAMESPACE_REQUIRED
  | PROGRAM_ID_REQUIRED
  | NAMESPACE_ADDRESS
  | SETTLEMENT_RECORD
  | TOKEN_DECIMALS
  | TOKEN_PROGRAM
  | TOKEN_SOURCE_RECIPIENT
  | TOKEN_ASSET
  | TRANSACTION_TOO_LARGE
  | ASSET_MODE
  deriving DecidableEq, Repr

structure ProtocolError where
  code : ProtocolErrorCode
  message : JsString
  deriving DecidableEq

inductive SettlementKind where
  | audioAdImpression
  deriving DecidableEq

def SettlementKind.text : SettlementKind → JsString
  | .audioAdImpression => js "audio_ad_impression"

inductive SettlementAsset where
  | solLamportsStandin
  | splStablecoin
  | usdc
  deriving DecidableEq

def SettlementAsset.text : SettlementAsset → JsString
  | .solLamportsStandin => js "SOL_LAMPORTS_STANDIN"
  | .splStablecoin => js "SPL_STABLECOIN"
  | .usdc => js "USDC"

/-- One share of an N-way settlement. -/
structure ShareInput where
  label : JsString
  /-- Base58 Solana pubkey. -/
  recipient : JsString
  /-- Integer basis points. 10000 = 100%. -/
  bps : JsNumber
  deriving DecidableEq

/-- An N-way settlement request. -/
structure SettlementRequestN where
  eventId : JsString
  occurredAt : JsString
  kind : SettlementKind
  amountAtomic : Int
  asset : SettlementAsset
  shares : List ShareInput
  memo : JsString
  deriving DecidableEq

structure ComputedPayoutN where
  label : JsString
  recipient : JsString
  bps : JsNumber
  amountAtomic : Int

structure SplitResultN where
  request : SettlementRequestN
  payouts : List ComputedPayoutN
  totalAtomic : Int

end Synxed.Sdk
