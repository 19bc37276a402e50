import Synxed.Studio.Worker

/-!
The operations that each part of the worker uses.

Reconciling, reading a record and searching its history only look things up;
`unresolved` and `contain` also leave a note on an event; `mayStillLand` also
resends attempts and fails some of them; deciding an event marks its attempts and
sets its status; settling one also begins an attempt, signs it and sends it.
-/

namespace Synxed.Studio

open Synxed.Lib Synxed.Program Synxed.Sdk

/-! ### Two parts of a decision

Asking the second provider comes before acting on what it said. -/

namespace WorkerOptions

variable (H : Host) (options : WorkerOptions)

/-- Whether the second provider, if there is one, sees the match too. -/
def confirmMatch (signature : JsString) (stored : StoredRequest) : Work Bool :=
  if options.secondConnection then do
    let second ← options.reconcile H .second signature stored none
    pure second.isMatch
  else pure true

/-- Write the rows of a confirmed match. -/
def writeMatch (event : StoredEvent) (attempts : List StoredAttempt)
    (created : SettlementTransaction) (stored : StoredRequest) : Work Outcome := do
  let rows ← options.reconcile H .primary created.signature stored (some event.beneficiaryIds)
  match rows with
  | .refused _ error => unresolved event.eventId error
  | .matched reconciliation => do
      call (.recordPaid event.eventId (landedAttempt attempts created.signature)
        reconciliation.record reconciliation.directEntries reconciliation.poolPayouts)
      log (event.eventId ++ js ": paid by " ++ created.signature)
      pure .paid

theorem recordMatch_eq (event : StoredEvent) (attempts : List StoredAttempt)
    (created : SettlementTransaction) (stored : StoredRequest) :
    options.recordMatch H event attempts created stored =
      options.confirmMatch H created.signature stored >>= fun confirmed =>
        if confirmed then options.writeMatch H event attempts created stored
        else unresolved event.eventId (js "the providers disagree on the creating transaction") := by
  unfold recordMatch confirmMatch
  dsimp only
  split
  · rw [Interaction.bind_assoc]
    rfl
  · rfl

/-- Whether every provider contradicts every request. -/
def confirmMismatch (signature : JsString) (requests : List StoredRequest)
    (primary : List ReconcileResult) : Work Bool :=
  if primary.all ReconcileResult.isMismatch then
    if options.secondConnection then do
      let second ← Interaction.each
        (fun stored => options.reconcile H .second signature stored none) requests
      pure (second.all ReconcileResult.isMismatch)
    else pure true
  else pure false

/-- Flag an event whose creating transaction nobody recorded. -/
def flag (event : StoredEvent) (created : SettlementTransaction) : Work Outcome := do
  call (.setEventStatus event.eventId .incident
    (some (created.signature ++ js " matches no stored request")))
  log (event.eventId ++ js ": INCIDENT, " ++ created.signature ++ js " matches no stored request")
  pure .incident

theorem recordMismatch_eq (event : StoredEvent) (created : SettlementTransaction)
    (requests : List StoredRequest) (primary : List ReconcileResult) :
    options.recordMismatch H event created requests primary =
      options.confirmMismatch H created.signature requests primary >>= fun confirmed =>
        if confirmed then flag event created
        else unresolved event.eventId (joined (primary.filterMap fun result =>
          match result with
          | .matched _ => none
          | .refused _ error => some error)) := by
  unfold recordMismatch confirmMismatch
  dsimp only
  split
  · split
    · rw [Interaction.bind_assoc]
      rfl
    · rfl
  · rfl

/-- What becomes of an attempt that the chain does not know, at this height. -/
def resend (waiting : Bool) (attempt : StoredAttempt) (rest : List StoredAttempt) (height : Nat) :
    Work Bool :=
  match attempt.lastValidBlockHeight, attempt.rawTransaction with
  | some lastValid, some raw =>
      if height ≤ lastValid then do
        let _ ← Interaction.result ((connectionTo .primary).request
          (.sendRawTransaction (base64Decode raw) true))
        mayStillLand true (some height) rest
      else mayStillLand waiting (some height) rest
  | _, _ => mayStillLand waiting (some height) rest

end WorkerOptions

/-! ### What is free -/

/-- Looking things up is free. -/
structure Looks (ops : Op → Prop) : Prop where
  lookup : ∀ provider call, call.IsLookup → ops (.rpc provider call)
  polls : ops .polls
  log : ∀ line, ops (.log line)

/-- So is leaving a note on an event. -/
structure Notes (ops : Op → Prop) : Prop extends Looks ops where
  event : ∀ eventId, ops (.store (.event eventId))
  note : ∀ eventId note, ops (.store (.setEventStatus eventId .inFlight note))

variable {H : Host} {options : WorkerOptions} {ops : Op → Prop}

theorem uses_ask {op : Op} (free : ops op) :
    (Interaction.perform op : Work op.Reply).Uses ops := Interaction.uses_perform.mpr free

theorem uses_call {method : Method} (free : ops (.store method)) : (call method).Uses ops :=
  Interaction.uses_perform.mpr free

namespace Looks

variable (looks : Looks ops)

include looks

theorem uses_request (provider : Provider) (call : Rpc) (lookup : call.IsLookup) :
    ((connectionTo provider).request call).Uses ops :=
  Interaction.uses_perform.mpr (looks.lookup provider call lookup)

theorem uses_log (line : JsString) : (Studio.log line).Uses ops :=
  Interaction.uses_perform.mpr (looks.log line)

theorem uses_awaitTransaction (provider : Provider) (signature : JsString) : ∀ polls : Nat,
    (awaitTransaction (connectionTo provider) signature polls).Uses ops
  | 0 => looks.uses_request _ _ trivial
  | polls + 1 => by
      refine Interaction.uses_bind (looks.uses_request _ _ trivial) fun found => ?_
      cases found with
      | some transaction => exact Interaction.uses_pure
      | none => exact uses_awaitTransaction provider signature polls

theorem uses_reconcile (provider : Provider) (signature : JsString) (stored : StoredRequest)
    (beneficiaryIds : Option (List (JsString × JsString))) :
    (options.reconcile H provider signature stored beneficiaryIds).Uses ops := by
  refine Interaction.uses_bind (Interaction.uses_result ?_) fun result => ?_
  · refine Interaction.uses_bind Interaction.uses_ofExcept fun programId => ?_
    refine Interaction.uses_bind Interaction.uses_ofExcept fun _ => ?_
    refine Interaction.uses_bind Interaction.uses_ofExcept fun _ => ?_
    refine Interaction.uses_bind ?_ fun _ => ?_
    · exact Interaction.uses_bind (looks.uses_request _ _ trivial) fun _ => Interaction.uses_ofExcept
    refine Interaction.uses_bind (Interaction.uses_perform.mpr looks.polls) fun polls => ?_
    refine Interaction.uses_bind (looks.uses_awaitTransaction _ _ polls) fun found => ?_
    cases found with
    | some transaction => exact Interaction.uses_ofExcept
    | none => exact Interaction.uses_throw
  · match result with
    | .ok reconciliation => exact Interaction.uses_pure
    | .error (.ledger error) => exact Interaction.uses_pure
    | .error (.protocol error) => exact Interaction.uses_pure
    | .error (.other text) => exact Interaction.uses_pure

theorem uses_fetchSettlementRecord (provider : Provider) (programId ns : Pubkey) (seed : Bytes32) :
    (fetchSettlementRecord H (connectionTo provider) programId ns seed).Uses ops := by
  refine Interaction.uses_bind Interaction.uses_ofExcept fun record => ?_
  exact Interaction.uses_bind (looks.uses_request _ _ trivial) fun _ => Interaction.uses_ofExcept

theorem uses_readRecord (seed : Bytes32) : (options.readRecord H seed).Uses ops := by
  refine Interaction.uses_bind (Interaction.uses_result
    (looks.uses_fetchSettlementRecord _ _ _ seed)) fun record => ?_
  match record with
  | .error error => exact Interaction.uses_pure
  | .ok (some _) => exact Interaction.uses_pure
  | .ok none =>
      dsimp only
      split
      · refine Interaction.uses_bind (Interaction.uses_result
          (looks.uses_fetchSettlementRecord _ _ _ seed)) fun confirmed => ?_
        match confirmed with
        | .error error => exact Interaction.uses_pure
        | .ok (some _) => exact Interaction.uses_pure
        | .ok none => exact Interaction.uses_pure
      · exact Interaction.uses_pure

/-- The search for the creating transaction. -/
theorem uses_findSettlementTransaction (provider : Provider) (programId ns : Pubkey)
    (eventId : JsString) (maxSignatures : Nat) :
    (findSettlementTransaction H (connectionTo provider) programId ns eventId maxSignatures).Uses ops :=
  Sdk.uses_findSettlementTransaction (fun call lookup => looks.uses_request provider call lookup)
    programId ns eventId maxSignatures

theorem uses_confirmMatch (signature : JsString) (stored : StoredRequest) :
    (options.confirmMatch H signature stored).Uses ops := by
  unfold WorkerOptions.confirmMatch
  split
  · exact Interaction.uses_bind (looks.uses_reconcile _ _ _ _) fun _ => Interaction.uses_pure
  · exact Interaction.uses_pure

theorem uses_confirmMismatch (signature : JsString) (requests : List StoredRequest)
    (primary : List ReconcileResult) :
    (options.confirmMismatch H signature requests primary).Uses ops := by
  unfold WorkerOptions.confirmMismatch
  split
  · split
    · exact Interaction.uses_bind (Interaction.uses_each (fun _ => looks.uses_reconcile _ _ _ _) _)
        fun _ => Interaction.uses_pure
    · exact Interaction.uses_pure
  · exact Interaction.uses_pure

/-- Looking at the attempts resends and fails some of them, and no more. -/
theorem uses_mayStillLand
    (sends : ∀ raw, ops (.rpc .primary (.sendRawTransaction raw true)))
    (fails : ∀ eventId attempt, ops (.store (.setAttemptStatus eventId attempt .failed))) :
    ∀ (waiting : Bool) (height : Option Nat) (attempts : List StoredAttempt),
      (WorkerOptions.mayStillLand waiting height attempts).Uses ops
  | _, _, [] => Interaction.uses_pure
  | waiting, height, attempt :: rest => by
      have later (waiting : Bool) (height : Option Nat) :=
        uses_mayStillLand sends fails waiting height rest
      unfold WorkerOptions.mayStillLand
      split
      · exact Interaction.uses_bind (uses_call (fails _ _)) fun _ => later waiting height
      · split
        · refine Interaction.uses_bind (looks.uses_request _ _ trivial) fun status => ?_
          cases status with
          | some status =>
              dsimp only
              split
              · exact later true height
              · split
                · exact later waiting height
                · split
                  · exact Interaction.uses_bind (uses_call (fails _ _))
                      fun _ => later waiting height
                  · exact later true height
          | none =>
              have known (height : Nat) : (WorkerOptions.resend waiting attempt rest height).Uses ops := by
                unfold WorkerOptions.resend
                split
                · split
                  · exact Interaction.uses_bind (Interaction.uses_result
                      (Interaction.uses_perform.mpr (sends _))) fun _ => later true (some height)
                  · exact later waiting (some height)
                · exact later waiting (some height)
              cases height with
              | some height => exact Interaction.uses_bind Interaction.uses_pure known
              | none => exact Interaction.uses_bind (looks.uses_request _ _ trivial) known
        · exact later waiting height

end Looks

namespace Notes

variable (notes : Notes ops)

include notes

theorem uses_unresolved (eventId note : JsString) :
    (WorkerOptions.unresolved eventId note).Uses ops :=
  Interaction.uses_bind (uses_call (notes.note _ _)) fun _ => Interaction.uses_pure

theorem uses_contain (eventId note : JsString) : (WorkerOptions.contain eventId note).Uses ops := by
  refine Interaction.uses_bind (Interaction.uses_tryCatch (Interaction.uses_bind
    (uses_call (notes.event eventId)) fun _ => Interaction.uses_pure) fun _ => Interaction.uses_pure)
    fun status => ?_
  refine Interaction.uses_bind (Interaction.uses_tryCatch ?_ fun _ => Interaction.uses_pure)
    fun _ => ?_
  · split
    · exact uses_call (notes.note _ _)
    · exact Interaction.uses_pure
  refine Interaction.uses_bind (Interaction.uses_tryCatch (notes.uses_log _)
    fun _ => Interaction.uses_pure) fun _ => ?_
  split <;> exact Interaction.uses_pure

end Notes

/-- And so is judging the transaction that settled an event. -/
structure Judges (ops : Op → Prop) : Prop extends Notes ops where
  incident : ∀ eventId note, ops (.store (.setEventStatus eventId .incident note))
  records : ∀ eventId attempt record directEntries poolPayouts,
    ops (.store (.recordPaid eventId attempt record directEntries poolPayouts))

namespace Judges

variable (judges : Judges ops)

include judges

theorem uses_recordMatch (event : StoredEvent) (attempts : List StoredAttempt)
    (created : SettlementTransaction) (stored : StoredRequest) :
    (options.recordMatch H event attempts created stored).Uses ops := by
  rw [WorkerOptions.recordMatch_eq]
  refine Interaction.uses_bind (judges.uses_confirmMatch _ _) fun confirmed => ?_
  split
  · refine Interaction.uses_bind (judges.uses_reconcile _ _ _ _) fun rows => ?_
    match rows with
    | .refused _ error => exact judges.uses_unresolved _ _
    | .matched rows =>
        exact Interaction.uses_bind (uses_call (judges.records _ _ _ _ _)) fun _ =>
          Interaction.uses_bind (judges.uses_log _) fun _ => Interaction.uses_pure
  · exact judges.uses_unresolved _ _

theorem uses_recordMismatch (event : StoredEvent) (created : SettlementTransaction)
    (requests : List StoredRequest) (primary : List ReconcileResult) :
    (options.recordMismatch H event created requests primary).Uses ops := by
  rw [WorkerOptions.recordMismatch_eq]
  refine Interaction.uses_bind (judges.uses_confirmMismatch _ _ _) fun confirmed => ?_
  split
  · exact Interaction.uses_bind (uses_call (judges.incident _ _)) fun _ =>
      Interaction.uses_bind (judges.uses_log _) fun _ => Interaction.uses_pure
  · exact judges.uses_unresolved _ _

theorem uses_resolveRecord (event : StoredEvent) (attempts : List StoredAttempt) :
    (options.resolveRecord H event attempts).Uses ops := by
  refine Interaction.uses_bind (Interaction.uses_result
    (judges.uses_findSettlementTransaction _ _ _ _ _)) fun created => ?_
  match created with
  | .error error => exact judges.uses_unresolved _ _
  | .ok created =>
      dsimp only
      split
      · refine Interaction.uses_bind (Interaction.uses_each
          (fun _ => judges.uses_reconcile _ _ _ _) _) fun primary => ?_
        split
        · exact judges.uses_recordMatch _ _ _ _
        · exact judges.uses_recordMismatch _ _ _ _
      · exact judges.uses_unresolved _ _

end Judges

theorem uses_expireSigned
    (marks : ∀ eventId attempt, ops (.store (.setAttemptStatus eventId attempt .expired)))
    (eventId : JsString) : ∀ attempts : List StoredAttempt,
    (WorkerOptions.expireSigned eventId attempts).Uses ops
  | [] => trivial
  | attempt :: rest => by
      unfold WorkerOptions.expireSigned
      dsimp only
      split
      · exact Interaction.uses_bind (uses_call (marks _ _)) fun _ => uses_expireSigned marks eventId rest
      · exact uses_expireSigned marks eventId rest

/-- An event without a record is pending again or out of attempts. -/
theorem uses_retryOrGiveUp
    (reopens : ∀ eventId,
      ops (.store (.setEventStatus eventId .pending (some (js "no attempt landed")))))
    (exhausts : ∀ eventId attempts, ops (.store (.setEventStatus eventId .needsAttention
      (some (decimalText attempts ++ js " attempts did not land")))))
    (eventId : JsString) (attempts : Nat) : (options.retryOrGiveUp eventId attempts).Uses ops := by
  unfold WorkerOptions.retryOrGiveUp
  split
  · exact Interaction.uses_bind (uses_call (exhausts _ _)) fun _ => Interaction.uses_pure
  · exact Interaction.uses_bind (uses_call (reopens _)) fun _ => Interaction.uses_pure

/-- And so is deciding an event: marking its attempts and setting its status. -/
structure Decides (ops : Op → Prop) : Prop extends Judges ops where
  attempts : ∀ eventId, ops (.store (.attempts eventId))
  resends : ∀ raw, ops (.rpc .primary (.sendRawTransaction raw true))
  marks : ∀ eventId attempt status, ops (.store (.setAttemptStatus eventId attempt status))
  sets : ∀ eventId status note, ops (.store (.setEventStatus eventId status note))

namespace Decides

variable (decides : Decides ops)

include decides

theorem uses_decide (eventId : JsString) (event : StoredEvent) :
    (options.decide H eventId event).Uses ops := by
  refine Interaction.uses_bind Interaction.uses_ofExcept fun seed => ?_
  refine Interaction.uses_bind (decides.uses_readRecord seed) fun read => ?_
  match read with
  | .failed error => exact decides.uses_unresolved _ _
  | .disagree => exact decides.uses_unresolved _ _
  | .absent =>
      refine Interaction.uses_bind (uses_call (decides.attempts _)) fun attempts => ?_
      exact Interaction.uses_bind (uses_expireSigned (fun _ _ => decides.marks _ _ _) _ attempts)
        fun _ =>
          uses_retryOrGiveUp (fun _ => decides.sets _ _ _) (fun _ _ => decides.sets _ _ _) _ _
  | .present =>
      exact Interaction.uses_bind (uses_call (decides.attempts _))
        fun attempts => decides.uses_resolveRecord _ attempts

theorem uses_resolve (eventId : JsString) : (options.resolve H eventId).Uses ops := by
  refine Interaction.uses_bind (uses_call (decides.event _)) fun stored => ?_
  match stored with
  | none => exact Interaction.uses_throw
  | some event =>
      dsimp only
      split
      · exact Interaction.uses_throw
      · refine Interaction.uses_bind (uses_call (decides.attempts _)) fun attempts => ?_
        split
        · exact Interaction.uses_bind (uses_call (decides.sets _ _ _)) fun _ => Interaction.uses_pure
        · refine Interaction.uses_bind (Interaction.uses_result (decides.uses_mayStillLand
            decides.resends (fun _ _ => decides.marks _ _ _) _ _ _)) fun landing => ?_
          match landing with
          | .error error => exact decides.uses_unresolved _ _
          | .ok true => exact Interaction.uses_pure
          | .ok false => exact decides.uses_decide _ _

theorem uses_recheck (eventId : JsString) : (options.recheck H eventId).Uses ops := by
  refine Interaction.uses_bind (uses_call (decides.event _)) fun stored => ?_
  match stored with
  | none => exact Interaction.uses_throw
  | some event =>
      dsimp only
      split
      · exact Interaction.uses_pure
      · split
        · exact Interaction.uses_bind (uses_call (decides.note _ _))
            fun _ => decides.uses_resolve eventId
        · exact decides.uses_resolve eventId

theorem uses_awaitOutcome (eventId : JsString) : ∀ polls : Nat,
    (options.awaitOutcome H eventId polls).Uses ops
  | 0 => decides.uses_resolve eventId
  | polls + 1 => by
      refine Interaction.uses_bind (decides.uses_resolve eventId) fun outcome => ?_
      split
      · exact Interaction.uses_pure
      · exact uses_awaitOutcome eventId polls

theorem uses_follow (eventId : JsString) : (options.follow H eventId).Uses ops :=
  Interaction.uses_bind (uses_ask decides.polls) fun polls => decides.uses_awaitOutcome eventId polls

theorem uses_settleRefused (event : StoredEvent) (attempt : Nat) (reason : JsString) :
    (options.settleRefused H event attempt reason).Uses ops := by
  refine Interaction.uses_bind (uses_call (decides.marks _ _ _)) fun _ => ?_
  refine Interaction.uses_bind Interaction.uses_ofExcept fun seed => ?_
  refine Interaction.uses_bind (decides.uses_readRecord seed) fun read => ?_
  match read with
  | .failed error => exact decides.uses_unresolved _ _
  | .disagree => exact decides.uses_unresolved _ _
  | .absent =>
      exact Interaction.uses_bind (uses_call (decides.sets _ _ _)) fun _ =>
        Interaction.uses_bind (decides.uses_log _) fun _ => Interaction.uses_pure
  | .present =>
      exact Interaction.uses_bind (decides.uses_log _) fun _ => decides.uses_follow event.eventId

theorem uses_giveUp (eventId : JsString) (attempt : Nat) (note : JsString) :
    (WorkerOptions.giveUp eventId attempt note).Uses ops :=
  Interaction.uses_bind (uses_call (decides.marks _ _ _)) fun _ =>
    Interaction.uses_bind (uses_call (decides.sets _ _ _)) fun _ =>
      Interaction.uses_bind (decides.uses_log _) fun _ => Interaction.uses_pure

end Decides

/-- And sending what was signed. -/
structure Sends (ops : Op → Prop) : Prop extends Decides ops where
  sends : ∀ raw, ops (.rpc .primary (.sendRawTransaction raw false))

theorem Sends.uses_send (sends : Sends ops) (event : StoredEvent) (attempt : Nat) (raw : Bytes) :
    (options.send H event attempt raw).Uses ops := by
  refine Interaction.uses_bind (Interaction.uses_result (uses_ask (sends.sends raw)))
    fun sent => ?_
  match sent with
  | .ok (.refused reason) => exact sends.uses_settleRefused event attempt reason
  | .ok (.accepted _) => exact sends.uses_follow event.eventId
  | .error error =>
      exact Interaction.uses_bind (sends.uses_log _) fun _ => sends.uses_follow event.eventId

variable (options) in
/-- And so is settling one: beginning an attempt with the worker's own parameters, and
signing it. -/
structure Operates (ops : Op → Prop) : Prop extends Sends ops where
  lists : ∀ status limit, ops (.store (.eventsWithStatus status limit))
  begins : ∀ eventId request, ops (.store (.beginAttempt eventId request options.params))
  signs : ∀ eventId attempt signature raw lastValid,
    ops (.store (.recordSigned eventId attempt signature raw lastValid))
  announces : ∀ eventId signature, ops (.beforeSend eventId signature)

namespace Operates

variable (operates : Operates options ops)

include operates

theorem uses_settle (sign : Signer) (event : StoredEvent) :
    (options.settle H sign event).Uses ops := by
  unfold WorkerOptions.settle
  split
  · exact Interaction.uses_bind (uses_call (operates.sets _ _ _)) fun _ => Interaction.uses_pure
  refine Interaction.uses_bind (Interaction.uses_result (operates.uses_request _ _ trivial))
    fun latest => ?_
  match latest with
  | .error error =>
      exact Interaction.uses_bind (uses_call (operates.sets _ _ _)) fun _ =>
        Interaction.uses_bind (operates.uses_log _) fun _ => Interaction.uses_pure
  | .ok latest =>
      refine Interaction.uses_bind (uses_call (operates.begins _ _)) fun attempt => ?_
      cases options.build H event.request with
      | error error => exact operates.uses_giveUp _ _ _
      | ok prepared =>
          dsimp only
          cases options.signed sign prepared latest.blockhash with
          | error error => exact operates.uses_giveUp _ _ _
          | ok signed =>
              obtain ⟨signature, raw⟩ := signed
              refine Interaction.uses_bind (uses_call (operates.signs _ _ _ _ _)) fun _ => ?_
              refine Interaction.uses_bind (uses_ask (operates.announces _ _)) fun _ => ?_
              exact Interaction.uses_bind (operates.uses_log _) fun _ =>
                operates.uses_send event attempt raw

theorem uses_batch {name : JsString} {decide : StoredEvent → Work Outcome}
    (one : ∀ event, (decide event).Uses ops) (events : List StoredEvent) :
    (WorkerOptions.batch name decide events).Uses ops := by
  refine Interaction.uses_bind (Interaction.uses_each (fun event => ?_) events) fun _ =>
    Interaction.uses_pure
  exact Interaction.uses_bind (Interaction.uses_tryCatch (one event) fun error =>
    operates.uses_contain _ _) fun _ => Interaction.uses_pure

/-- A whole run uses no more. -/
theorem uses_run (sign : Signer) (limit : Option Nat) : (options.run H sign limit).Uses ops := by
  refine Interaction.uses_bind (uses_call (operates.lists _ _)) fun inFlight => ?_
  refine Interaction.uses_bind (operates.uses_batch (fun event =>
    operates.uses_resolve event.eventId) inFlight) fun resolved => ?_
  refine Interaction.uses_bind (uses_call (operates.lists _ _)) fun pending => ?_
  exact Interaction.uses_bind (operates.uses_batch (operates.uses_settle sign) pending) fun _ =>
    Interaction.uses_pure

end Operates

/-! ### What a reconciliation says -/

/-- A transaction that the provider showed when it was asked for the signature,
compared with a stored request. -/
def Tells {W : Type} (H : Host) (good : ParsedTransaction → W → Prop)
    (options : ReconcileSettlementNOptions) (result : ReconcileResult) (w : W) : Prop :=
  (∀ reconciliation, result = .matched reconciliation →
    Compared (H := H) good options (.ok reconciliation) w) ∧
  (result.isMismatch → ∃ error : LedgerError, error.code ∈ MISMATCH_CODES ∧
    Compared (H := H) good options (.error (.ledger error)) w)

theorem parseKey_toBase58 (key : Pubkey) : WorkerOptions.parseKey (toBase58 key) = .ok key := by
  rw [WorkerOptions.parseKey, publicKey_toBase58]

/-- A reconciliation matches or contradicts only a transaction that the provider
showed. -/
theorem safe_reconcile {W : Type} {step : W → (op : Op) → Except Thrown op.Reply → W → Prop}
    {guard : W → Op → Prop} {good : ParsedTransaction → W → Prop} {fail : Thrown → W → Prop}
    {provider : Provider} {signature : JsString} {stored : StoredRequest} {programId ns : Pubkey}
    (program : stored.params.programId = toBase58 programId)
    (sameNs : stored.params.ns = toBase58 ns)
    (beneficiaryIds : Option (List (JsString × JsString)))
    (told : ∀ w, Interaction.Safe step guard
      ((connectionTo provider).request (.getParsedTransaction signature))
      (fun found w' => ∀ transaction, found = some transaction → good transaction w')
      (fun error _ => ∃ text, error = .other text) w)
    (genesis : ∀ w, Interaction.Safe step guard ((connectionTo provider).request .getGenesisHash)
      (fun _ _ => True) (fun error _ => ∃ text, error = .other text) w)
    (polls : ∀ w, Interaction.Safe step guard (connectionTo provider).polls (fun _ _ => True)
      (fun error _ => ∃ text, error = .other text) w) (w : W) :
    Interaction.Safe step guard (options.reconcile H provider signature stored beneficiaryIds)
      (Tells H good (options.reconcileOptions signature stored programId ns beneficiaryIds)) fail w := by
  unfold WorkerOptions.reconcile
  rw [program, sameNs, parseKey_toBase58, parseKey_toBase58]
  let asked := options.reconcileOptions signature stored programId ns beneficiaryIds
  have reconciled : Interaction.Safe step guard (reconcileSettlementN H (connectionTo provider) asked)
      (fun reconciliation w' => Compared (H := H) good asked (.ok reconciliation) w') _ w :=
    safe_reconcileSettlementN told genesis polls w
  have ended : Interaction.Safe step guard
      (reconcileSettlementN H (connectionTo provider) asked).result
      (fun result w' =>
        (∀ reconciliation, result = .ok reconciliation →
          Compared (H := H) good asked (.ok reconciliation) w') ∧
        ∀ error : LedgerError, result = .error (.ledger error) → error.code ∈ MISMATCH_CODES →
          Compared (H := H) good asked (.error (.ledger error)) w') fail w := by
    refine reconciled.result ?_ ?_
    · intro reconciliation w' compared
      exact ⟨fun _ same => Except.ok.inj same ▸ compared, fun _ same => (nomatch same)⟩
    · rintro error w' (⟨text, rfl⟩ | compared | ⟨ledger, rfl, code⟩)
      · exact ⟨fun _ same => (nomatch same), fun _ same => (nomatch same)⟩
      · exact ⟨fun _ same => (nomatch same), fun other same _ => Except.error.inj same ▸ compared⟩
      · refine ⟨fun _ same => (nomatch same), fun other same mismatch => ?_⟩
        obtain rfl := Thrown.ledger.inj (Except.error.inj same)
        rcases code with code | code
        · exact absurd (code ▸ mismatch) (by decide)
        · exact absurd (code ▸ mismatch) (by decide)
  refine Interaction.Safe.bind ended fun result w known => ?_
  match result with
  | .ok reconciliation =>
      refine ⟨fun _ same => ?_, fun mismatch => nomatch mismatch⟩
      cases same
      exact known.1 reconciliation rfl
  | .error (.ledger error) =>
      refine ⟨fun _ same => (nomatch same), fun mismatch => ⟨error, ?_, ?_⟩⟩
      · exact of_decide_eq_true mismatch
      · exact known.2 error rfl (of_decide_eq_true mismatch)
  | .error (.protocol error) => exact ⟨fun _ same => (nomatch same), fun same => (nomatch same)⟩
  | .error (.other text) => exact ⟨fun _ same => (nomatch same), fun same => (nomatch same)⟩

end Synxed.Studio
