import Synxed.Lib.Base64
import Synxed.Sdk.History
import Synxed.Studio.Store

/-!
The settlement worker (`worker.ts`): it settles pending events one transaction
each, and decides every uncertain outcome from the chain.

The worker is an `Interaction`: between any two of its operations on the store,
the network or its callbacks the process may be killed, and what the operations
answer is left to the surroundings.
-/

namespace Synxed.Studio

open Synxed.Lib Synxed.Program Synxed.Sdk

/-! ### Operations -/

/-- The RPC providers: a paid event, an incident and a missing record before a
new attempt are confirmed on the second one. -/
inductive Provider where
  | primary
  | second
  deriving DecidableEq

/-- A status the worker sets itself. -/
abbrev OpenStatus := { status : EventStatus // status ≠ .paid }

/-- The status of an attempt that did not land. -/
abbrev DeadStatus := { status : AttemptStatus // status ≠ .landed }

namespace OpenStatus

def pending : OpenStatus := ⟨.pending, by decide⟩
def inFlight : OpenStatus := ⟨.inFlight, by decide⟩
def incident : OpenStatus := ⟨.incident, by decide⟩
def needsAttention : OpenStatus := ⟨.needsAttention, by decide⟩

end OpenStatus

namespace DeadStatus

def failed : DeadStatus := ⟨.failed, by decide⟩
def expired : DeadStatus := ⟨.expired, by decide⟩

end DeadStatus

/-- The methods of the store that the worker calls. -/
inductive Method where
  | event (eventId : JsString)
  | eventsWithStatus (status : EventStatus) (limit : Option Nat)
  | attempts (eventId : JsString)
  | beginAttempt (eventId : JsString) (request : SettlementRequestN) (params : AttemptParams)
  | recordSigned (eventId : JsString) (attempt : Nat) (signature rawTransaction : JsString)
      (lastValidBlockHeight : Nat)
  | setAttemptStatus (eventId : JsString) (attempt : Nat) (status : DeadStatus)
  | setEventStatus (eventId : JsString) (status : OpenStatus) (note : Option JsString)
  | recordPaid (eventId : JsString) (attempt : Option Nat) (record : SettlementRecord)
      (directEntries : List LedgerEntry) (poolPayouts : List PayoutLine)

namespace Method

abbrev Answer : Method → Type
  | event _ => Option StoredEvent
  | eventsWithStatus _ _ => List StoredEvent
  | attempts _ => List StoredAttempt
  | beginAttempt _ _ _ => Nat
  | _ => Unit

/-- The answer of a method and the store after it. -/
def apply (store : Store) : (method : Method) → Except Thrown method.Answer × Store
  | event eventId => (.ok (store.event eventId), store)
  | eventsWithStatus status limit => (.ok (store.eventsWithStatus status limit), store)
  | attempts eventId => (.ok (store.attempts eventId), store)
  | beginAttempt eventId request params =>
      match store.beginAttempt eventId request params with
      | .ok (attempt, store') => (.ok attempt, store')
      | .error error => (.error error, store)
  | recordSigned eventId attempt signature rawTransaction lastValidBlockHeight =>
      (.ok (), store.recordSigned eventId attempt signature rawTransaction lastValidBlockHeight)
  | setAttemptStatus eventId attempt status => (.ok (), store.setAttemptStatus eventId attempt status)
  | setEventStatus eventId status note => (.ok (), store.setEventStatus eventId status note)
  | recordPaid eventId attempt record directEntries poolPayouts =>
      match store.recordPaid eventId attempt record directEntries poolPayouts with
      | .ok store' => (.ok (), store')
      | .error error => (.error error, store)

end Method

inductive Op where
  | store (method : Method)
  | rpc (provider : Provider) (call : Rpc)
  /-- How many more times a loop polls before its deadline. -/
  | polls
  | log (line : JsString)
  /-- Runs after an attempt's signature is stored, before it is sent. -/
  | beforeSend (eventId signature : JsString)

abbrev Op.Reply : Op → Type
  | store method => method.Answer
  | rpc _ call => call.Answer
  | polls => Nat
  | log _ => Unit
  | beforeSend _ _ => Unit

/-- A part of the worker. -/
abbrev Work (α : Type) := Interaction Op Op.Reply Thrown α

/-- Call a method of the store. -/
def call (method : Method) : Work method.Answer := .perform (Op.store method)

def log (line : JsString) : Work Unit := .perform (Op.log line)

/-- The connection to a provider. -/
def connectionTo (provider : Provider) : Connection Op Op.Reply where
  request call := .perform (Op.rpc provider call)
  polls := .perform Op.polls

/-! ### The worker -/

structure WorkerOptions where
  /-- Whether a second, independent provider is configured. -/
  secondConnection : Bool
  payer : Pubkey
  /-- The namespace authority, when it is not the payer. -/
  authority : Option Pubkey := none
  programId : Pubkey
  /-- The pinned settlement namespace; it must exist already. -/
  ns : Pubkey
  lamportsPerAtomicUnit : Int
  cluster : Option LedgerCluster := none
  /-- Attempts per event before a person must look. -/
  maxAttempts : Option Nat := none
  /-- How long to wait for finality when reconciling. -/
  finalityTimeoutMs : Option Int := none
  pollIntervalMs : Option Int := none

/-- - `paid`: reconciled and written to the ledger.
- `waiting`: an attempt may still land; resolve it again later.
- `retry`: no attempt can land and no record exists; the event is pending.
- `failed`: this attempt was refused; the event is pending again.
- `incident`: the record matches no stored request.
- `unresolved`: the evidence is incomplete or the providers disagree.
- `needsAttention`: the worker gave up on the event. -/
inductive Outcome where
  | paid
  | waiting
  | retry
  | failed
  | incident
  | unresolved
  | needsAttention
  deriving DecidableEq

/-- Signing and serializing a transaction: its signature, if it has one, and its
bytes. -/
abbrev Signer := List TransactionInstruction → Pubkey → JsString → List Pubkey →
  Except Thrown (Option Bytes × Bytes)

/-- Ledger errors that mean the evidence contradicts the request. -/
def MISMATCH_CODES : List LedgerErrorCode :=
  [.NAMESPACE_MISMATCH, .EVENT_MISMATCH, .AMOUNT_MISMATCH, .ASSET_MISMATCH, .SHARES_MISMATCH,
    .RECIPIENT_MISMATCH, .TRANSFER_MISMATCH, .MEMO_MISMATCH, .MEMO_MISSING]

/-- A request with the parameters it is reconciled at. -/
structure StoredRequest where
  request : SettlementRequestN
  params : AttemptParams
  deriving DecidableEq

inductive ReconcileResult where
  | matched (reconciliation : SettlementReconciliation)
  | refused (mismatch : Bool) (error : JsString)

def ReconcileResult.isMatch : ReconcileResult → Bool
  | matched _ => true
  | refused _ _ => false

def ReconcileResult.isMismatch : ReconcileResult → Bool
  | matched _ => false
  | refused mismatch _ => mismatch

/-- One entry per distinct stored request, keeping the first attempt's
parameters. -/
def distinctRequests (requests : List StoredRequest) : List StoredRequest :=
  requests.foldl (fun seen stored => if stored ∈ seen then seen else seen ++ [stored]) []

/-- `reasons.join("; ")`. -/
def joined : List JsString → JsString
  | [] => []
  | [reason] => reason
  | reason :: rest => reason ++ js "; " ++ joined rest

namespace WorkerOptions

variable (H : Host) (sign : Signer) (options : WorkerOptions)

def authorityKey : Pubkey := options.authority.getD options.payer

def attemptLimit : Nat := options.maxAttempts.getD 5

def params : AttemptParams where
  programId := toBase58 options.programId
  ns := toBase58 options.ns
  lamportsPerAtomicUnit := options.lamportsPerAtomicUnit
  payer := toBase58 options.payer
  authority := toBase58 options.authorityKey

def signers : List Pubkey :=
  if options.authorityKey = options.payer then [options.payer]
  else [options.payer, options.authorityKey]

def build (request : SettlementRequestN) : Except Thrown PreparedSettlementN :=
  protocolCall (buildSettlementNTransaction H
    { payer := options.payer
      request := request
      lamportsPerAtomicUnit := some options.lamportsPerAtomicUnit
      programId := some options.programId
      ns := some options.ns
      authority := some options.authorityKey })

/-- Sign a built transaction: its signature and its bytes. -/
def signed (prepared : PreparedSettlementN) (blockhash : JsString) :
    Except Thrown (JsString × Bytes) := do
  let (signature, raw) ← sign prepared.transaction options.payer blockhash options.signers
  match signature with
  | none => .error (.other (js "Error: the transaction was not signed"))
  | some signature => .ok (base58Encode signature, raw)

/-! ### Reconciling -/

/-- The options a stored request is reconciled with. -/
def reconcileOptions (signature : JsString) (stored : StoredRequest) (programId ns : Pubkey)
    (beneficiaryIds : Option (List (JsString × JsString))) : ReconcileSettlementNOptions where
  request := stored.request
  ns := ns
  unitsPerAtomicUnit := stored.params.lamportsPerAtomicUnit
  cluster := options.cluster.getD .devnet
  beneficiaryIds := beneficiaryIds.getD []
  signature := signature
  programId := programId
  finalityTimeoutMs := options.finalityTimeoutMs
  pollIntervalMs := options.pollIntervalMs

/-- A key of the stored parameters. -/
def parseKey (text : JsString) : Except Thrown Pubkey :=
  match publicKey text with
  | some key => .ok key
  | none => .error (.other (js "Error: Invalid public key input"))

def reconcile (provider : Provider) (signature : JsString) (stored : StoredRequest)
    (beneficiaryIds : Option (List (JsString × JsString))) : Work ReconcileResult := do
  let result ← Interaction.result (do
    let programId ← .ofExcept (parseKey stored.params.programId)
    let ns ← .ofExcept (parseKey stored.params.ns)
    reconcileSettlementN H (connectionTo provider)
      (options.reconcileOptions signature stored programId ns beneficiaryIds))
  match result with
  | .ok reconciliation => pure (.matched reconciliation)
  | .error (.ledger error) =>
      pure (.refused (error.code ∈ MISMATCH_CODES) (error.code.text ++ js ": " ++ error.message))
  | .error error => pure (.refused false error.text)

/-! ### Deciding -/

/-- Whether any signed attempt could still land. A signed attempt the cluster
has not seen is resent unchanged while its blockhash is valid. The block height
is read once, for the first such attempt. -/
def mayStillLand : Bool → Option Nat → List StoredAttempt → Work Bool
  | waiting, _, [] => pure waiting
  | waiting, height, attempt :: rest =>
      if attempt.status = .prepared then do
        -- never signed, so it can never land
        call (.setAttemptStatus attempt.eventId attempt.attempt .failed)
        mayStillLand waiting height rest
      else
        match attempt.status, attempt.signature with
        | .signed, some signature => do
            let status ← (connectionTo .primary).request (.getSignatureStatuses signature)
            match status with
            | some status =>
                if status.confirmationStatus ≠ some .finalized ∧
                    status.confirmationStatus ≠ some .confirmed then
                  mayStillLand true height rest
                else if status.err = none then mayStillLand waiting height rest
                else if status.confirmationStatus = some .finalized then do
                  call (.setAttemptStatus attempt.eventId attempt.attempt .failed)
                  mayStillLand waiting height rest
                else mayStillLand true height rest
            | none => do
                let height ← match height with
                  | some height => pure height
                  | none => (connectionTo .primary).request .getBlockHeight
                match attempt.lastValidBlockHeight, attempt.rawTransaction with
                | some lastValid, some raw =>
                    if height ≤ lastValid then do
                      let _ ← Interaction.result ((connectionTo .primary).request
                        (.sendRawTransaction (base64Decode raw) true))
                      mayStillLand true (some height) rest
                    else mayStillLand waiting (some height) rest
                | _, _ => mayStillLand waiting (some height) rest
        | _, _ => mayStillLand waiting height rest

/-- What the record read says of an event nothing can land for. -/
inductive RecordRead where
  | present
  | absent
  | disagree
  | failed (error : Thrown)

/-- Read the record, and confirm a missing one on the second provider. -/
def readRecord (eventSeed : Bytes32) : Work RecordRead := do
  let record ← Interaction.result
    (fetchSettlementRecord H (connectionTo .primary) options.programId options.ns eventSeed)
  match record with
  | .error error => pure (.failed error)
  | .ok (some _) => pure .present
  | .ok none =>
      if options.secondConnection then do
        -- a second provider may already see the record the primary has not
        let confirmed ← Interaction.result
          (fetchSettlementRecord H (connectionTo .second) options.programId options.ns eventSeed)
        match confirmed with
        | .error error => pure (.failed error)
        | .ok (some _) => pure .disagree
        | .ok none => pure .absent
      else pure .absent

/-- What a stored attempt asks to reconcile. -/
def storedRequest (attempt : StoredAttempt) : StoredRequest := ⟨attempt.request, attempt.params⟩

/-- Every request stored for an event; one that has no attempt is reconciled at
the worker's own parameters. -/
def requestsOf (event : StoredEvent) (attempts : List StoredAttempt) : List StoredRequest :=
  if attempts = [] then [⟨event.request, options.params⟩]
  else distinctRequests (attempts.map storedRequest)

/-- The attempt whose transaction created the record, the latest first. -/
def landedAttempt (attempts : List StoredAttempt) (signature : JsString) : Option Nat :=
  (attempts.reverse.find? fun attempt => attempt.signature = some signature).map
    StoredAttempt.attempt

/-- Leave an event in flight with a note. -/
def unresolved (eventId note : JsString) : Work Outcome := do
  call (.setEventStatus eventId .inFlight (some note))
  pure .unresolved

/-- A request matched on the primary: confirm it on the second provider, then
write the rows. -/
def recordMatch (event : StoredEvent) (attempts : List StoredAttempt)
    (created : SettlementTransaction) (stored : StoredRequest) : Work Outcome := do
  let confirmed ←
    if options.secondConnection then do
      let second ← options.reconcile H .second created.signature stored none
      pure second.isMatch
    else pure true
  if confirmed then do
    -- the decision was made without beneficiary ids, which only label rows
    let rows ← options.reconcile H .primary created.signature stored (some event.beneficiaryIds)
    match rows with
    | .refused _ error => unresolved event.eventId error
    | .matched reconciliation => do
        call (.recordPaid event.eventId (landedAttempt attempts created.signature)
          reconciliation.record reconciliation.directEntries reconciliation.poolPayouts)
        log (event.eventId ++ js ": paid by " ++ created.signature)
        pure .paid
  else unresolved event.eventId (js "the providers disagree on the creating transaction")

/-- No request matched on the primary: when all contradict the evidence on every
provider, the namespace's authority settled something nobody recorded. -/
def recordMismatch (event : StoredEvent) (created : SettlementTransaction)
    (requests : List StoredRequest) (primary : List ReconcileResult) : Work Outcome := do
  let confirmed ←
    if primary.all ReconcileResult.isMismatch then
      if options.secondConnection then do
        let second ← Interaction.each
          (fun stored => options.reconcile H .second created.signature stored none) requests
        pure (second.all ReconcileResult.isMismatch)
      else pure true
    else pure false
  if confirmed then do
    call (.setEventStatus event.eventId .incident
      (some (created.signature ++ js " matches no stored request")))
    log (event.eventId ++ js ": INCIDENT, " ++ created.signature ++
      js " matches no stored request")
    pure .incident
  else
    unresolved event.eventId (joined (primary.filterMap fun result =>
      match result with
      | .matched _ => none
      | .refused _ error => some error))

/-- The record exists: find the transaction that created it and reconcile it
against every request stored for the event. The reconciliations of one provider
only read, so they are made one after the other. -/
def resolveRecord (event : StoredEvent) (attempts : List StoredAttempt) : Work Outcome := do
  let created ← Interaction.result (findSettlementTransaction H (connectionTo .primary)
    options.programId options.ns event.eventId)
  match created with
  | .error error => unresolved event.eventId (js "creating transaction not found: " ++ error.text)
  | .ok created =>
      if created.topLevel then do
        let requests := options.requestsOf event attempts
        let primary ← Interaction.each
          (fun stored => options.reconcile H .primary created.signature stored none) requests
        match (requests.zip primary).find? fun reconciled => reconciled.2.isMatch with
        | some (stored, _) => options.recordMatch H event attempts created stored
        | none => options.recordMismatch H event created requests primary
      else
        unresolved event.eventId (created.signature ++
          js " settled through another program; compare it by hand")

/-- The signed attempts of an event whose record does not exist cannot land any
more. An attempt that landed with an error is failed already. -/
def expireSigned (eventId : JsString) : List StoredAttempt → Work Unit
  | [] => pure ()
  | attempt :: rest => do
      if attempt.status = .signed then
        call (.setAttemptStatus eventId attempt.attempt .expired)
      expireSigned eventId rest

/-- No attempt landed: the event is pending again, or a person must look. -/
def retryOrGiveUp (eventId : JsString) (attempts : Nat) : Work Outcome := do
  if attempts ≥ options.attemptLimit then do
    call (.setEventStatus eventId .needsAttention
      (some (decimalText attempts ++ js " attempts did not land")))
    pure .needsAttention
  else do
    call (.setEventStatus eventId .pending (some (js "no attempt landed")))
    pure .retry

/-- Decide an in-flight event that nothing can land for any more: its record
decides. -/
def decide (eventId : JsString) (event : StoredEvent) : Work Outcome := do
  let seed ← .ofExcept (protocolCall (eventIdSeed H eventId))
  let record ← options.readRecord H seed
  match record with
  | .failed error => unresolved eventId (js "record read failed: " ++ error.text)
  | .disagree => unresolved eventId (js "the providers disagree on the record")
  | .absent => do
      let attempts ← call (.attempts eventId)
      expireSigned eventId attempts
      options.retryOrGiveUp eventId event.attempts
  | .present => do
      let attempts ← call (.attempts eventId)
      options.resolveRecord H event attempts

/-- Decide an in-flight event from the chain: wait for any attempt that may
still land, then let the event's settlement record decide. -/
def resolve (eventId : JsString) : Work Outcome := do
  let stored ← call (.event eventId)
  match stored with
  | none => throw (.other (js "Error: event " ++ eventId ++ js " is not in flight"))
  | some event =>
      if event.status ≠ .inFlight then
        throw (.other (js "Error: event " ++ eventId ++ js " is not in flight"))
      else do
        let attempts ← call (.attempts eventId)
        let elsewhere := attempts.find? fun attempt =>
          attempt.params.programId ≠ toBase58 options.programId ∨
            attempt.params.ns ≠ toBase58 options.ns
        match elsewhere with
        | some elsewhere => do
            -- its record lives in another namespace, which this worker does not read
            call (.setEventStatus eventId .needsAttention
              (some (js "attempt " ++ decimalText elsewhere.attempt ++
                js " was made in another namespace")))
            pure .needsAttention
        | none => do
            let landing ← Interaction.result (mayStillLand false none attempts)
            match landing with
            | .error error => unresolved eventId (js "cannot read the attempts: " ++ error.text)
            | .ok true => pure .waiting
            | .ok false => options.decide H eventId event

/-- Decide an event a person asked to look at again, from the chain. A paid
event is left alone. -/
def recheck (eventId : JsString) : Work Outcome := do
  let stored ← call (.event eventId)
  match stored with
  | none => throw (.other (js "Error: unknown event " ++ eventId))
  | some event =>
      if event.status = .paid then pure .paid
      else do
        if event.status ≠ .inFlight then
          call (.setEventStatus eventId .inFlight (some (js "manual recheck")))
        options.resolve H eventId

/-! ### Settling -/

/-- Resolve until the outcome is known, polling at most `polls` more times. -/
def awaitOutcome (eventId : JsString) : Nat → Work Outcome
  | 0 => options.resolve H eventId
  | polls + 1 => do
      let outcome ← options.resolve H eventId
      if outcome ≠ .waiting then pure outcome else awaitOutcome eventId polls

/-- Give an event up to a person, after its attempt failed before it was signed. -/
def giveUp (eventId : JsString) (attempt : Nat) (note : JsString) : Work Outcome := do
  call (.setAttemptStatus eventId attempt .failed)
  call (.setEventStatus eventId .needsAttention (some note))
  log (eventId ++ js ": " ++ note)
  pure .needsAttention

/-- Wait for the outcome of an attempt that was sent. -/
def follow (eventId : JsString) : Work Outcome := do
  let polls ← Interaction.perform Op.polls
  options.awaitOutcome H eventId polls

/-- With preflight on, a simulation failure means the node did not forward the
transaction, so the attempt cannot land. A refusal because the event is settled
already is told apart by the record itself. -/
def settleRefused (event : StoredEvent) (attempt : Nat) (reason : JsString) : Work Outcome := do
  call (.setAttemptStatus event.eventId attempt .failed)
  let seed ← .ofExcept (protocolCall (eventIdSeed H event.eventId))
  let record ← options.readRecord H seed
  match record with
  | .failed error => unresolved event.eventId (js "record read failed: " ++ error.text)
  | .disagree => unresolved event.eventId (js "the providers disagree on the record")
  | .absent => do
      call (.setEventStatus event.eventId .pending (some reason))
      log (event.eventId ++ js ": attempt " ++ decimalText attempt ++ js " refused: " ++ reason)
      pure .failed
  | .present => do
      log (event.eventId ++ js ": already settled in this namespace")
      options.follow H event.eventId

/-- Send a signed attempt and follow it to an outcome. -/
def send (event : StoredEvent) (attempt : Nat) (raw : Bytes) : Work Outcome := do
  let sent ← Interaction.result
    ((connectionTo .primary).request (.sendRawTransaction raw false))
  match sent with
  | .ok (.refused reason) => options.settleRefused H event attempt reason
  | .ok (.accepted _) => options.follow H event.eventId
  | .error error => do
      -- anything else leaves it unknown whether the cluster has it
      log (event.eventId ++ js ": send outcome unknown: " ++ error.text)
      options.follow H event.eventId

/-- Send one attempt for a pending event and follow it to an outcome. The
request is stored before signing and the signature before sending. -/
def settle (event : StoredEvent) : Work Outcome := do
  if event.attempts ≥ options.attemptLimit then do
    call (.setEventStatus event.eventId .needsAttention
      (some (decimalText event.attempts ++ js " attempts failed")))
    pure .needsAttention
  else do
    -- a transient RPC fault must not use up an attempt
    let latest ← Interaction.result ((connectionTo .primary).request .getLatestBlockhash)
    match latest with
    | .error error => do
        let note := js "could not read a blockhash: " ++ error.text
        call (.setEventStatus event.eventId .pending (some note))
        log (event.eventId ++ js ": " ++ note)
        pure .retry
    | .ok latest => do
        let attempt ← call (.beginAttempt event.eventId event.request options.params)
        match options.build H event.request with
        | .error error =>
            giveUp event.eventId attempt (js "cannot build the settlement: " ++ error.text)
        | .ok prepared =>
            match options.signed sign prepared latest.blockhash with
            | .error error =>
                giveUp event.eventId attempt (js "cannot sign the settlement: " ++ error.text)
            | .ok (signature, raw) => do
                call (.recordSigned event.eventId attempt signature (base64Encode raw)
                  latest.lastValidBlockHeight)
                .perform (Op.beforeSend event.eventId signature)
                log (event.eventId ++ js ": attempt " ++ decimalText attempt ++ js " sent as " ++
                  signature)
                options.send H event attempt raw

/-! ### Running -/

/-- After a throw, keep any decision the store already holds: only an event
still in flight gets the note, and the outcome reported is the one stored. -/
def contain (eventId note : JsString) : Work Outcome := do
  let status ←
    try
      let event ← call (.event eventId)
      pure (event.map StoredEvent.status)
    catch _ => pure none
  try
    if status = some .inFlight then
      call (.setEventStatus eventId .inFlight (some note))
  catch _ => pure ()
  try log (eventId ++ js ": " ++ note)
  catch _ => pure ()
  match status with
  | none | some .inFlight => pure .unresolved
  | some .pending => pure .retry
  | some .paid => pure .paid
  | some .incident => pure .incident
  | some .needsAttention => pure .needsAttention

/-- `summary[eventId] = outcome`. Storing a string under `__proto__` does
nothing. -/
def report (summary : List (JsString × Outcome)) (eventId : JsString) (outcome : Outcome) :
    List (JsString × Outcome) :=
  if eventId = js "__proto__" then summary
  else summary.filter (fun reported => reported.1 ≠ eventId) ++ [(eventId, outcome)]

structure RunSummary where
  resolved : List (JsString × Outcome)
  settled : List (JsString × Outcome)

/-- Decide every event of a list. One that cannot be read or built does not stop
the rest. -/
def batch (name : JsString) (decide : StoredEvent → Work Outcome) (events : List StoredEvent) :
    Work (List (JsString × Outcome)) := do
  let outcomes ← Interaction.each (fun event => do
    let outcome ←
      try decide event
      catch error => contain event.eventId (name ++ js " failed: " ++ error.text)
    pure (event.eventId, outcome)) events
  pure (outcomes.foldl (fun summary reported => report summary reported.1 reported.2) [])

/-- Resolve every in-flight event first, then settle up to `limit` pending
ones. -/
def run (limit : Option Nat) : Work RunSummary := do
  let inFlight ← call (.eventsWithStatus .inFlight none)
  let resolved ← batch (js "resolve") (fun event => options.resolve H event.eventId) inFlight
  let pending ← call (.eventsWithStatus .pending limit)
  let settled ← batch (js "settle") (options.settle H sign) pending
  pure ⟨resolved, settled⟩

end WorkerOptions

end Synxed.Studio
