import Synxed.Sdk.History

/-!
Opening a namespace, or checking the one that is there (`ensureNamespace`).

The call reads the namespace's account, and sends a transaction only if nothing
is there, nothing is pinned elsewhere and the payer may open it. Another run may
open it in between: a send that fails is followed by one more read.
-/

namespace Synxed.Sdk

open Synxed.Lib Synxed.Program

/-! ### What a client asks -/

/-- A request to the node, or `sendAndConfirmTransaction`: sign, send, and wait
until the transaction is confirmed. -/
inductive ClientOp where
  | rpc (call : Rpc)
  | sendAndConfirm (instructions : List TransactionInstruction) (signers : List Pubkey)
  deriving DecidableEq

/-- A transaction that is confirmed is answered by its signature. -/
abbrev ClientOp.Reply : ClientOp → Type
  | rpc call => call.Answer
  | sendAndConfirm _ _ => JsString

abbrev ClientWork (α : Type) := Interaction ClientOp ClientOp.Reply Thrown α

def clientConnection : Connection ClientOp ClientOp.Reply where
  request call := .perform (ClientOp.rpc call)
  polls := pure 0

/-- Sign with the payer, and with the namespace authority when it differs. -/
def send (payer : Pubkey) (transaction : List TransactionInstruction) (authority : Option Pubkey) :
    ClientWork JsString :=
  .perform (ClientOp.sendAndConfirm transaction
    (if authority = none ∨ authority = some payer then [payer] else payer :: authority.toList))

/-! ### Namespaces -/

variable (H : Host)

structure EnsureNamespaceOptions where
  /-- Pays the rent and signs. -/
  payer : Pubkey
  programId : Pubkey
  namespaceId : Bytes
  /-- The key allowed to settle in the namespace. Defaults to the payer. -/
  authority : Option Pubkey := none
  /-- Open the namespace when it does not exist, unless this is false. -/
  create : Option Bool := none
  /-- The namespace's creator, when it is not this payer. -/
  creator : Option Pubkey := none
  /-- The pinned namespace address. -/
  expectedAddress : Option Pubkey := none

namespace EnsureNamespaceOptions

variable (options : EnsureNamespaceOptions)

def authorityKey : Pubkey := options.authority.getD options.payer

def creatorKey : Pubkey := options.creator.getD options.payer

end EnsureNamespaceOptions

structure EnsuredNamespace where
  address : Pubkey
  authority : Pubkey
  /-- This call's transaction opened the namespace. -/
  created : Bool
  signature : Option JsString
  deriving DecidableEq

/-- The `ProtocolError` of code `NAMESPACE_MISSING`. Nothing that
`ensureNamespace` runs catches it. -/
structure NamespaceMissing where
  message : JsString
  deriving DecidableEq

/-- The derived address must be the pinned one, when one is pinned. -/
def assertPinned (address : Pubkey) (expectedAddress : Option Pubkey) : Except ProtocolError Unit :=
  match expectedAddress with
  | none => .ok ()
  | some pinned =>
      ensure (pinned = address)
        ⟨.NAMESPACE_ADDRESS, js "the namespace derives to " ++ toBase58 address ++
          js ", not the pinned " ++ toBase58 pinned⟩

def expectAuthority (address authority : Pubkey) (found : FetchedNamespace) :
    Except ProtocolError Pubkey := do
  ensure (found.authority = authority)
    ⟨.NAMESPACE_AUTHORITY, js "namespace " ++ toBase58 address ++ js " has authority " ++
      toBase58 found.authority ++ js ", not " ++ toBase58 authority⟩
  .ok found.authority

/-- A namespace that is there already, if its authority is the expected one. -/
def settleFor (address authority : Pubkey) (found : FetchedNamespace) :
    ClientWork (Except NamespaceMissing EnsuredNamespace) := do
  let held ← .ofExcept (protocolCall (expectAuthority address authority found))
  pure (.ok ⟨address, held, false, none⟩)

/-- Send the transaction that opens the namespace. Another run may have opened it
first; that is fine if it matches. Otherwise the send error is the one worth
reporting. -/
def openNamespace (options : EnsureNamespaceOptions) (address : Pubkey) :
    ClientWork (Except NamespaceMissing EnsuredNamespace) := do
  let instruction ← .ofExcept (protocolCall (buildCreateNamespaceInstruction H
    ⟨options.programId, options.payer, options.payer⟩ ⟨options.namespaceId, options.authorityKey⟩))
  let sent ← (send options.payer [instruction] none).result
  match sent with
  | .ok signature => pure (.ok ⟨address, options.authorityKey, true, some signature⟩)
  | .error error => do
      let raced ← (fetchNamespace clientConnection options.programId address).result
      match raced with
      | .error _ | .ok none => throw error
      | .ok (some raced) => settleFor address options.authorityKey raced

/-- Find the namespace that `creator` opened under `namespaceId`, check it is at
`expectedAddress` when one is pinned, and that its authority is the expected one.
When it does not exist, open it if `create` allows and the payer is its creator. -/
def ensureNamespace (options : EnsureNamespaceOptions) :
    ClientWork (Except NamespaceMissing EnsuredNamespace) := do
  let derived ← .ofExcept (protocolCall
    (findNamespacePda H options.programId options.creatorKey options.namespaceId))
  let address := derived.1
  .ofExcept (protocolCall (assertPinned address options.expectedAddress))
  let existing ← fetchNamespace clientConnection options.programId address
  match existing with
  | some found => settleFor address options.authorityKey found
  | none =>
      if options.create = some false then
        pure (.error ⟨js "namespace " ++ toBase58 address ++
          js " does not exist, and create is false"⟩)
      else if options.creatorKey ≠ options.payer then
        pure (.error ⟨js "namespace " ++ toBase58 address ++
          js " does not exist, and only its creator can open it"⟩)
      else openNamespace H options address

/-! ### What is built and read -/

variable {H}

theorem protocolCall_eq_error {α : Type} {x : Except ProtocolError α} {error : Thrown} :
    protocolCall x = .error error ↔ ∃ thrown, x = .error thrown ∧ error = .protocol thrown := by
  cases x with
  | error thrown => simp [protocolCall, Except.mapError, eq_comm]
  | ok a => simp [protocolCall, Except.mapError]

theorem buildCreateNamespaceInstruction_eq_ok {accounts : CreateNamespaceAccounts}
    {params : CreateNamespaceParams} {instruction : TransactionInstruction}
    (built : buildCreateNamespaceInstruction H accounts params = .ok instruction) :
    ∃ id : Bytes32, params.namespaceId = id.val ∧ instruction.programId = accounts.programId ∧
      instruction.keys = [⟨accounts.payer, true, true⟩, ⟨accounts.creator, true, false⟩,
        ⟨(namespacePda H.addresses accounts.programId accounts.creator id).1, false, true⟩,
        ⟨systemProgramId, false, false⟩] ∧
      instruction.data = (SettlementInstruction.createNamespace id params.authority).pack := by
  obtain ⟨data, encoded, built⟩ := bind_eq_ok.mp built
  obtain ⟨pda, derived, built⟩ := bind_eq_ok.mp built
  cases built
  obtain ⟨id, bytes, _, rfl⟩ := encodeCreateNamespaceData_eq_ok.mp encoded
  obtain ⟨id', bytes', rfl⟩ := findNamespacePda_eq_ok.mp derived
  obtain rfl : id = id' := Subtype.ext (bytes.symm.trans bytes')
  exact ⟨id, bytes, rfl, rfl, rfl⟩

/-- Only an account of the program is read as a namespace. -/
theorem owner_of_readNamespace {programId address : Pubkey} {account : Account}
    {found : FetchedNamespace}
    (read : readNamespace programId address (existing account) = .ok (some found)) :
    account.owner = programId := by
  unfold existing at read
  split at read
  · cases read
  · simp only [readNamespace] at read
    split at read
    · cases read
    · exact (ensure_bind_eq_ok.mp read).1

end Synxed.Sdk
