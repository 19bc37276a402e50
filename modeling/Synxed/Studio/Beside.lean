import Synxed.Studio.Overlap
import Synxed.Studio.Uses

/-!
The worker beside another one: every operation of its commands is permitted.
What a status is written on may be old by then, so an event that was recorded
paid keeps its status only where the condition of `Synxed.Studio.Overlap` holds.

* `reconcile_beside`: what a reconciliation tells of the chain, also when its
  answers were overtaken.
* `decide_beside`, `resolve_beside`, `settle_beside`: the parts that write.
* `work_beside`: a whole command.
-/

namespace Synxed.Studio

open Synxed.Lib Synxed.Program Synxed.Sdk

variable {D : Deployment}

/-! ### Rules -/

variable (env : Environment D) (ns : Pubkey) (meets : World D env.net → Op → Prop)

/-- An operation, as one of the workers sees it. -/
abbrev Beside : World D env.net → (op : Op) → Except Thrown op.Reply → World D env.net → Prop :=
  Interferes Op.Awaits (Overlap.step env meets) (Overlap.Inv env.host ns meets) Forward

/-- What a worker owes for an operation. -/
def Owes (w : World D env.net) (op : Op) : Prop :=
  meets w op → Permitted env.host ns (AllFresh meets) w op

/-- A part of the worker works well beside the other worker. -/
abbrev Works {α : Type} (program : Work α) (post : α → World D env.net → Prop)
    (fail : Thrown → World D env.net → Prop) (w : World D env.net) : Prop :=
  Interaction.Safe (Beside env ns meets) (Owes env ns meets) program post fail w

/-- The other worker does not undo it. -/
def Stable (kept : World D env.net → Prop) : Prop := ∀ w w', kept w → Forward w w' → kept w'

/-- An operation that needs nothing. -/
def Quiet (op : Op) : Prop := ∀ w : World D env.net, Owes env ns meets w op

variable {env ns meets} {α : Type} {w w' : World D env.net}

theorem Beside.forward {op : Op} {reply : Except Thrown op.Reply} (moved : Beside env ns meets w op reply w') :
    Forward w w' := by
  obtain ⟨_, _, ⟨before, _⟩, _, did, _, ⟨later, _⟩⟩ := moved
  exact (before.trans did).trans later

/-- What is stable is kept beside what else holds. -/
theorem Works.keep {program : Work α} {post : α → World D env.net → Prop}
    {fail : Thrown → World D env.net → Prop} {kept : World D env.net → Prop}
    (works : Works env ns meets program post fail w) (stable : Stable env kept) (holds : kept w) :
    Works env ns meets program (fun value w' => post value w' ∧ kept w')
      (fun error w' => fail error w' ∧ kept w') w :=
  (Interaction.Safe.keeps works (fun _ _ _ _ _ holds moved => stable _ _ holds (Beside.forward moved))
    holds).guard_mono fun _ _ both => both.1

/-- The frame rule for parts that only read. -/
theorem Works.of_quiet {program : Work α} {kept : World D env.net → Prop}
    (uses : program.Uses (Quiet env ns meets)) (stable : Stable env kept) (holds : kept w) :
    Works env ns meets program (fun _ => kept) (fun _ => kept) w :=
  Interaction.Safe.of_uses uses (fun _ _ quiet _ => quiet _)
    (fun _ _ _ _ _ holds moved => stable _ _ holds (Beside.forward moved)) holds

/-- A method that does not wait acts on the store it finds. -/
theorem Works.call {method : Method} {post : method.Answer → World D env.net → Prop}
    {fail : Thrown → World D env.net → Prop} (now : ¬ (Op.store method).Awaits)
    (owed : Owes env ns meets w (.store method))
    (ended : ∀ answer w', Overlap.Inv env.host ns meets w → Forward w w' →
      w'.recorded = w.recorded ++ method.records w.store → (method.apply w.store).1 = .ok answer →
      post answer w')
    (failed : ∀ error w', Forward w w' → fail error w') :
    Works env ns meets (Studio.call method) post fail w := by
  refine Interaction.safe_perform.mpr ⟨owed, ?_, fun error w' moved => failed error w' moved.forward⟩
  rintro answer w' ⟨before, after, ⟨_, holds, still⟩, ⟨_, ⟨next, ⟨reply, rfl⟩, passes⟩, _⟩, did, _,
    ⟨_, _, still'⟩⟩
  obtain rfl := still now
  obtain rfl := still' now
  exact ended answer w' holds did passes.recorded reply.symm

/-- A method that waits reads the store it finds after the wait, and its answer
may be overtaken. -/
theorem Works.read {method : Method} {post : method.Answer → World D env.net → Prop}
    {fail : Thrown → World D env.net → Prop} (owed : Owes env ns meets w (.store method))
    (ended : ∀ middle answer w', Overlap.Inv env.host ns meets middle → Forward middle w' →
      (method.apply middle.store).1 = .ok answer → post answer w')
    (failed : ∀ error w', Forward w w' → fail error w') :
    Works env ns meets (Studio.call method) post fail w := by
  refine Interaction.safe_perform.mpr ⟨owed, ?_, fun error w' moved => failed error w' moved.forward⟩
  rintro answer w' ⟨before, after, ⟨_, holds, _⟩, ⟨_, ⟨next, ⟨reply, rfl⟩, passes⟩, _⟩, did, _,
    ⟨later, _⟩⟩
  exact ended before answer w' holds (did.trans later) reply.symm

/-- An honest answer tells of the chain, as it was before the answer arrived. -/
theorem Works.request (honest : ∀ provider call, env.honest provider call) {provider : Provider}
    {call : Rpc} {post : call.Answer → World D env.net → Prop}
    {fail : Thrown → World D env.net → Prop}
    (ended : ∀ middle answer w', Truth env.net middle.cluster call answer → Forward middle w' →
      post answer w')
    (failed : ∀ error w', Forward w w' → fail error w') :
    Works env ns meets ((connectionTo provider).request call) post fail w := by
  refine Interaction.safe_perform.mpr ⟨fun _ => trivial, ?_,
    fun error w' moved => failed error w' moved.forward⟩
  rintro answer w' ⟨before, after, ⟨_, holds, _⟩, ⟨_, ⟨next, ⟨truth, given, _, rfl⟩, passes⟩, _⟩, did,
    _, ⟨later, _⟩⟩
  refine ended before answer w' ?_ (did.trans later)
  rw [← holds.current provider]
  exact truth (honest provider call)

/-- A computation that asks nothing. -/
theorem Works.ofExcept (result : Except Thrown α) (w : World D env.net) :
    Works env ns meets (.ofExcept result) (fun value _ => result = .ok value) (fun _ _ => True) w :=
  Interaction.safe_ofExcept.mpr ⟨fun _ ended => ended, fun _ _ => trivial⟩

/-! ### What stays -/

theorem Snapshot.stable (event : StoredEvent) : Stable env (Snapshot event) :=
  fun _ _ snapshot forward => snapshot.keeps forward.keeps

/-- What was found of a signature is a transaction finalized on the honest
chain. -/
def Found (signature : JsString) (found : Option ParsedTransaction) (w : World D env.net) : Prop :=
  ∀ transaction, found = some transaction →
    ∃ landing ∈ w.cluster.finalizedLedger,
      landing.transaction.id = signature ∧ transaction = landing.shown

/-- A transaction that reconciles with a stored request, on the honest chain. -/
def Reconciled (options : ReconcileSettlementNOptions) (reconciliation : SettlementReconciliation)
    (w : World D env.net) : Prop :=
  ∃ landing ∈ w.cluster.finalizedLedger, landing.transaction.id = options.signature ∧
    reconcileTransaction env.host options landing.shown = .ok reconciliation

theorem Stable.true : Stable env fun _ => True := fun _ _ _ _ => trivial

/-! ### Parts that only read -/

theorem quiet_rpc (provider : Provider) (call : Rpc) : Quiet env ns meets (.rpc provider call) :=
  fun _ _ => trivial

theorem quiet_polls : Quiet env ns meets .polls := fun _ _ => trivial

theorem quiet_log (line : JsString) : Quiet env ns meets (.log line) := fun _ _ => trivial

theorem quiet_inFlight (eventId : JsString) (note : Option JsString) :
    Quiet env ns meets (.store (.setEventStatus eventId .inFlight note)) := fun _ _ _ => .inl rfl

theorem quiet_unchecked {eventId : JsString} {status : OpenStatus} {note : Option JsString}
    (unchecked : Unchecked status note) :
    Quiet env ns meets (.store (.setEventStatus eventId status note)) :=
  fun w may allFresh => .inr (allFresh w _ may unchecked)

theorem quiet_event (eventId : JsString) : Quiet env ns meets (.store (.event eventId)) := fun _ _ => trivial

theorem quiet_attempts (eventId : JsString) : Quiet env ns meets (.store (.attempts eventId)) :=
  fun _ _ => trivial

theorem quiet_setAttemptStatus (eventId : JsString) (attempt : Nat) (status : DeadStatus) :
    Quiet env ns meets (.store (.setAttemptStatus eventId attempt status)) := fun _ _ => trivial

theorem quiet_recordSigned (eventId : JsString) (attempt : Nat) (signature raw : JsString)
    (lastValid : Nat) :
    Quiet env ns meets (.store (.recordSigned eventId attempt signature raw lastValid)) :=
  fun _ _ => trivial

theorem quiet_beforeSend (eventId signature : JsString) :
    Quiet env ns meets (.beforeSend eventId signature) := fun _ _ => trivial

theorem quiet_notes : Notes (Quiet env ns meets) where
  lookup provider call _ := quiet_rpc provider call
  polls := quiet_polls
  log := quiet_log
  event := quiet_event
  note := quiet_inFlight

theorem quiet_looks : Looks (Quiet env ns meets) := quiet_notes.toLooks

section Reading

variable (honest : ∀ provider call, env.honest provider call)

include honest

theorem awaitTransaction_beside (provider : Provider) (signature : JsString) (polls : Nat)
    (w : World D env.net) :
    Works env ns meets (awaitTransaction (connectionTo provider) signature polls) (Found signature)
      (fun _ _ => True) w := by
  have told (w : World D env.net) :
      Works env ns meets ((connectionTo provider).request (.getParsedTransaction signature))
        (Found signature) (fun _ _ => True) w := by
    refine .request honest (fun middle found w' truth after => ?_) fun _ _ _ => trivial
    rintro transaction rfl
    obtain ⟨landing, mem, id, shown⟩ := truth
    exact ⟨landing, after.cluster.mem_finalizedLedger mem, id, shown⟩
  induction polls generalizing w with
  | zero => exact told w
  | succ polls ih =>
      refine Interaction.Safe.bind (told w) fun found w' known => ?_
      cases found with
      | some transaction => exact known
      | none => exact ih w'

theorem reconcileSettlementN_beside (provider : Provider) (options : ReconcileSettlementNOptions)
    (w : World D env.net) :
    Works env ns meets (reconcileSettlementN env.host (connectionTo provider) options)
      (Reconciled options) (fun _ _ => True) w := by
  have cluster (w : World D env.net) : Works env ns meets
      (assertLedgerCluster (connectionTo provider) options.cluster) (fun _ _ => True)
      (fun _ _ => True) w :=
    .of_quiet (Interaction.uses_bind (quiet_looks.uses_request _ _ trivial) fun _ => Interaction.uses_ofExcept) .true
      trivial
  have polls (w : World D env.net) : Works env ns meets (connectionTo provider).polls (fun _ _ => True)
      (fun _ _ => True) w :=
    .of_quiet (Interaction.uses_perform.mpr quiet_polls) .true trivial
  refine Interaction.Safe.bind (Works.ofExcept _ w) fun _ w _ => ?_
  refine Interaction.Safe.bind (cluster w) fun _ w _ => ?_
  refine Interaction.Safe.bind (polls w) fun polls w _ => ?_
  refine Interaction.Safe.bind (awaitTransaction_beside honest provider options.signature polls w)
    fun found w' known => ?_
  cases found with
  | none => exact trivial
  | some transaction =>
      obtain ⟨landing, mem, id, rfl⟩ := known transaction rfl
      exact Interaction.safe_ofExcept.mpr
        ⟨fun reconciliation reconciled => ⟨landing, mem, id, reconciled⟩, fun _ _ => trivial⟩

/-- A match on an endpoint is a match with the honest chain. -/
theorem reconcile_beside (options : WorkerOptions) (provider : Provider) (signature : JsString)
    (stored : StoredRequest) (beneficiaryIds : Option (List (JsString × JsString)))
    (programId : stored.params.programId = toBase58 D.programId)
    (sameNs : stored.params.ns = toBase58 ns) (w : World D env.net) :
    Works env ns meets (options.reconcile env.host provider signature stored beneficiaryIds)
      (fun result w' => ∀ reconciliation, result = .matched reconciliation →
        Reconciled (options.reconcileOptions signature stored D.programId ns beneficiaryIds)
          reconciliation w')
      (fun _ _ => True) w := by
  have parsed (key : Pubkey) : WorkerOptions.parseKey (toBase58 key) = .ok key := by
    rw [WorkerOptions.parseKey, publicKey_toBase58]
  have body : Works env ns meets (do
      let programId ← .ofExcept (WorkerOptions.parseKey stored.params.programId)
      let ns ← .ofExcept (WorkerOptions.parseKey stored.params.ns)
      reconcileSettlementN env.host (connectionTo provider)
        (options.reconcileOptions signature stored programId ns beneficiaryIds))
      (Reconciled (options.reconcileOptions signature stored D.programId ns beneficiaryIds))
      (fun _ _ => True) w := by
    rw [programId, sameNs, parsed, parsed]
    exact reconcileSettlementN_beside honest provider _ w
  unfold WorkerOptions.reconcile
  refine Interaction.Safe.bind (Interaction.Safe.result_ok body) fun result w' known => ?_
  cases result with
  | ok reconciliation =>
      intro _ matched
      exact ReconcileResult.matched.inj matched ▸ known reconciliation rfl
  | error error =>
      -- an error of any kind is a refusal
      cases error with
      | ledger error => exact fun _ matched => by cases matched
      | protocol error => exact fun _ matched => by cases matched
      | other text => exact fun _ matched => by cases matched

end Reading

/-! ### Parts that write -/

/-- Nothing is asked of a part that only reads. -/
theorem Works.any {program : Work α} (uses : program.Uses (Quiet env ns meets)) (w : World D env.net) :
    Works env ns meets program (fun _ _ => True) (fun _ _ => True) w := .of_quiet uses .true trivial

/-- The frame rule, whatever is thrown. -/
theorem Works.frame {program : Work α} {kept : World D env.net → Prop}
    (uses : program.Uses (Quiet env ns meets)) (stable : Stable env kept) (holds : kept w) :
    Works env ns meets program (fun _ => kept) (fun _ _ => True) w :=
  (Works.of_quiet uses stable holds).mono (fun _ _ kept => kept) fun _ _ _ => trivial

section Writing

variable {options : WorkerOptions} (honest : ∀ provider call, env.honest provider call)
  (program : options.programId = D.programId) (sameNs : options.ns = ns) {event : StoredEvent}

include honest in
/-- The rows that are written are those of the creating transaction. -/
theorem recordMatch_beside {attempts : List StoredAttempt} {created : SettlementTransaction}
    {stored : StoredRequest} (own : Stored D ns event stored) (snapshot : Snapshot event w) :
    Works env ns meets (options.recordMatch env.host event attempts created stored) (fun _ _ => True)
      (fun _ _ => True) w := by
  rw [WorkerOptions.recordMatch_eq]
  refine Interaction.Safe.bind (Works.frame (quiet_looks.uses_confirmMatch _ _) (Snapshot.stable event)
    snapshot) fun confirmed w snapshot => ?_
  split
  · refine Interaction.Safe.bind ((reconcile_beside honest options .primary created.signature stored
      (some event.beneficiaryIds) own.programId own.ns w).keep (Snapshot.stable event) snapshot
      |>.mono (fun _ _ both => both) fun _ _ _ => trivial) fun rows w' known => ?_
    obtain ⟨known, snapshot⟩ := known
    match rows with
    | .refused _ error => exact Works.any (quiet_notes.uses_unresolved _ _) w'
    | .matched reconciliation =>
        obtain ⟨landing, mem, id, reconciled⟩ := known reconciliation rfl
        obtain ⟨row, inRows, sameId, request, ids⟩ := snapshot.stored
        have signature := reconciled_signature reconciled
        have permitted : Permitted env.host ns (AllFresh meets) w' (.store (.recordPaid event.eventId
            (WorkerOptions.landedAttempt attempts created.signature) reconciliation.record
            reconciliation.directEntries reconciliation.poolPayouts)) :=
          ⟨row, inRows, sameId.trans snapshot.column_eventId.symm, landing, mem,
            id.trans signature.symm, _, reconciliation, signature.symm, rfl, rfl,
            own.request.trans request.symm, ids.symm, rfl, reconciled, rfl, rfl⟩
        have wrote : Works env ns meets (Studio.call (.recordPaid event.eventId
            (WorkerOptions.landedAttempt attempts created.signature) reconciliation.record
            reconciliation.directEntries reconciliation.poolPayouts)) (fun _ _ => True)
            (fun _ _ => True) w' :=
          .call (by simp [Op.Awaits]) (fun _ => permitted) (fun _ _ _ _ _ _ => trivial)
            fun _ _ _ => trivial
        refine Interaction.Safe.bind wrote fun _ w _ => ?_
        exact Works.any (Interaction.uses_bind (quiet_looks.uses_log _) fun _ => Interaction.uses_pure) w
  · exact Works.any (quiet_notes.uses_unresolved _ _) w

theorem recordMismatch_beside (created : SettlementTransaction) (requests : List StoredRequest)
    (primary : List ReconcileResult) (w : World D env.net) :
    Works env ns meets (options.recordMismatch env.host event created requests primary) (fun _ _ => True)
      (fun _ _ => True) w := by
  refine Works.any ?_ w
  rw [WorkerOptions.recordMismatch_eq]
  refine Interaction.uses_bind (quiet_looks.uses_confirmMismatch _ _ _) fun confirmed => ?_
  split
  · refine Interaction.uses_bind (uses_call (quiet_unchecked (.inr (.inl rfl)))) fun _ => ?_
    exact Interaction.uses_bind (quiet_looks.uses_log _) fun _ => Interaction.uses_pure
  · exact quiet_notes.uses_unresolved _ _

include honest program sameNs in
theorem resolveRecord_beside {attempts : List StoredAttempt}
    (own : ∀ attempt ∈ attempts, Stored D ns event (WorkerOptions.storedRequest attempt))
    (snapshot : Snapshot event w) :
    Works env ns meets (options.resolveRecord env.host event attempts) (fun _ _ => True)
      (fun _ _ => True) w := by
  unfold WorkerOptions.resolveRecord
  refine Interaction.Safe.bind (Works.frame (Interaction.uses_result
    (quiet_looks.uses_findSettlementTransaction _ _ _ _ _))
    (Snapshot.stable event) snapshot) fun created w' snapshot => ?_
  match created with
  | .error error => exact Works.any (quiet_notes.uses_unresolved _ _) w'
  | .ok created =>
      dsimp only
      split
      · refine Interaction.Safe.bind (Works.frame (Interaction.uses_each
          (fun _ => quiet_looks.uses_reconcile _ _ _ _) _) (Snapshot.stable event) snapshot)
          fun primary w'' snapshot => ?_
        split
        · next stored _ found =>
            have mem := List.of_mem_zip (List.mem_of_find?_eq_some found)
            exact recordMatch_beside honest
              (stored_of_mem_requestsOf program sameNs own mem.1) snapshot
        · exact recordMismatch_beside _ _ _ w''
      · exact Works.any (quiet_notes.uses_unresolved _ _) w'

/-! ### Deciding -/

/-- A method that records nothing leaves an event unrecorded. -/
theorem Works.unrecorded {method : Method} {id : JsString} (now : ¬ (Op.store method).Awaits)
    (owed : Owes env ns meets w (.store method)) (silent : method.records w.store = [])
    (unrecorded : AllFresh meets → id ∉ w.recorded) :
    Works env ns meets (Studio.call method) (fun _ w' => AllFresh meets → id ∉ w'.recorded)
      (fun _ _ => True) w := by
  refine Works.call now owed (fun answer w' _ _ recorded _ => ?_) fun _ _ _ => trivial
  rw [recorded, silent, List.append_nil]
  exact unrecorded

/-- The attempts of an event that was read are its own. -/
theorem attempts_beside {eventId : JsString} (snapshot : Snapshot event w)
    (sameId : event.eventId = column eventId) :
    Works env ns meets (Studio.call (.attempts eventId))
      (fun attempts w' => (∀ attempt ∈ attempts,
        Stored D ns event (WorkerOptions.storedRequest attempt)) ∧ Snapshot event w')
      (fun _ _ => True) w := by
  refine Works.call (by simp [Op.Awaits]) (fun _ => trivial) (fun attempts w' inv forward _ read => ?_)
    fun _ _ _ => trivial
  refine ⟨fun attempt mem => ?_, Snapshot.stable event _ _ snapshot forward⟩
  rw [← Except.ok.inj read] at mem
  exact (Filed.for inv.consistent.toFiled _).stored_of_mem_attempts snapshot sameId mem

include honest program sameNs

theorem decide_beside {eventId : JsString} (snapshot : Snapshot event w)
    (sameId : event.eventId = column eventId) :
    Works env ns meets (options.decide env.host eventId event) (fun _ _ => True) (fun _ _ => True) w := by
  unfold WorkerOptions.decide
  refine Interaction.Safe.bind (Works.frame Interaction.uses_ofExcept (Snapshot.stable event) snapshot)
    fun seed w' snapshot => ?_
  refine Interaction.Safe.bind (Works.frame (quiet_looks.uses_readRecord seed) (Snapshot.stable event)
    snapshot) fun read w'' snapshot => ?_
  match read with
  | .failed error => exact Works.any (quiet_notes.uses_unresolved _ _) w''
  | .disagree => exact Works.any (quiet_notes.uses_unresolved _ _) w''
  | .absent =>
      -- the answer may be old by now, so what is written rests on the condition
      refine Works.any (Interaction.uses_bind (uses_call (quiet_attempts _)) fun attempts => ?_) w''
      exact Interaction.uses_bind (uses_expireSigned (fun _ _ => quiet_setAttemptStatus _ _ _) _ attempts)
        fun _ =>
          uses_retryOrGiveUp (fun _ => quiet_unchecked (.inl rfl))
            (fun _ _ => quiet_unchecked (.inr (.inr ⟨rfl, _, .inr rfl⟩))) _ _
  | .present =>
      refine Interaction.Safe.bind (attempts_beside snapshot sameId) fun attempts w known => ?_
      exact resolveRecord_beside honest program sameNs known.1 known.2

/-- No attempt of these workers was made elsewhere, so only the chain decides. -/
theorem resolve_beside (eventId : JsString) (w : World D env.net) :
    Works env ns meets (options.resolve env.host eventId) (fun _ _ => True) (fun _ _ => True) w := by
  unfold WorkerOptions.resolve
  have told : Works env ns meets (Studio.call (.event eventId)) (fun stored w' => ∀ event,
      stored = some event → Snapshot event w' ∧ event.eventId = column eventId)
      (fun _ _ => True) w := by
    refine .read (fun _ => trivial) (fun middle stored w' inv after read => ?_) fun _ _ _ => trivial
    rintro event rfl
    obtain ⟨row, mem, id, rfl⟩ := Store.event_eq_some.mp (Except.ok.inj read)
    exact ⟨Snapshot.stable _ _ _ (inv.consistent.toFiled.snapshot mem) after, id⟩
  refine Interaction.Safe.bind told fun stored w' known => ?_
  cases stored with
  | none => exact trivial
  | some event =>
      obtain ⟨snapshot, sameId⟩ := known event rfl
      dsimp only
      split
      · exact trivial
      · refine Interaction.Safe.bind (attempts_beside snapshot sameId) fun attempts w known => ?_
        obtain ⟨own, snapshot⟩ := known
        have none : (attempts.find? fun attempt => attempt.params.programId ≠ toBase58 options.programId ∨
            attempt.params.ns ≠ toBase58 options.ns) = none := by
          refine List.find?_eq_none.mpr fun attempt mem => ?_
          have ours := own attempt mem
          simp [← ours.programId, ← ours.ns, program, sameNs, WorkerOptions.storedRequest]
        rw [none]
        dsimp only
        refine Interaction.Safe.bind (Works.frame (Interaction.uses_result (quiet_looks.uses_mayStillLand (fun _ => quiet_rpc _ _)
          (fun _ _ => quiet_setAttemptStatus _ _ _) _ _ _))
          (Snapshot.stable event) snapshot) fun landing w' snapshot => ?_
        match landing with
        | .error error => exact Works.any (quiet_notes.uses_unresolved _ _) w'
        | .ok true => exact trivial
        | .ok false => exact decide_beside honest program sameNs snapshot sameId

theorem recheck_beside (eventId : JsString) (w : World D env.net) :
    Works env ns meets (options.recheck env.host eventId) (fun _ _ => True) (fun _ _ => True) w := by
  unfold WorkerOptions.recheck
  refine Interaction.Safe.bind (Works.any (uses_call (quiet_event eventId)) w) fun stored w' _ => ?_
  cases stored with
  | none => exact trivial
  | some event =>
      dsimp only
      split
      · exact trivial
      · split
        · exact Interaction.Safe.bind (Works.any (uses_call (quiet_inFlight _ _)) w')
            fun _ w _ => resolve_beside honest program sameNs eventId w
        · exact resolve_beside honest program sameNs eventId w'

/-! ### Settling -/

theorem awaitOutcome_beside (eventId : JsString) (polls : Nat) (w : World D env.net) :
    Works env ns meets (options.awaitOutcome env.host eventId polls) (fun _ _ => True) (fun _ _ => True)
      w := by
  induction polls generalizing w with
  | zero => exact resolve_beside honest program sameNs eventId w
  | succ polls ih =>
      refine Interaction.Safe.bind (resolve_beside honest program sameNs eventId w)
        fun outcome w' _ => ?_
      split
      · exact trivial
      · exact ih w'

theorem follow_beside (eventId : JsString) (w : World D env.net) :
    Works env ns meets (options.follow env.host eventId) (fun _ _ => True) (fun _ _ => True) w :=
  Interaction.Safe.bind (Works.any (Interaction.uses_perform.mpr quiet_polls) w)
    fun polls w' _ => awaitOutcome_beside honest program sameNs eventId polls w'

omit honest program sameNs in
theorem giveUp_beside {eventId : JsString} {attempt : Nat} {note : JsString}
    (unrecorded : AllFresh meets → column eventId ∉ w.recorded) :
    Works env ns meets (WorkerOptions.giveUp eventId attempt note) (fun _ _ => True) (fun _ _ => True) w := by
  unfold WorkerOptions.giveUp
  refine Interaction.Safe.bind (Works.unrecorded (by simp [Op.Awaits])
    (quiet_setAttemptStatus _ _ _ w) rfl unrecorded) fun _ w unrecorded => ?_
  refine Interaction.Safe.bind (Works.unrecorded (by simp [Op.Awaits])
    (fun _ allFresh => .inr (unrecorded allFresh)) rfl unrecorded) fun _ w _ => ?_
  exact Works.any (Interaction.uses_bind (quiet_looks.uses_log _) fun _ => Interaction.uses_pure) w

/-- A refused event goes back when it reads as not settled. -/
theorem settleRefused_beside {attempt : Nat} {reason : JsString} (w : World D env.net) :
    Works env ns meets (options.settleRefused env.host event attempt reason) (fun _ _ => True)
      (fun _ _ => True) w := by
  unfold WorkerOptions.settleRefused
  refine Interaction.Safe.bind (Works.any (uses_call (quiet_setAttemptStatus _ _ _)) w) fun _ w _ => ?_
  refine Interaction.Safe.bind (Works.any Interaction.uses_ofExcept w) fun seed w' _ => ?_
  refine Interaction.Safe.bind (Works.any (quiet_looks.uses_readRecord seed) w') fun read w'' _ => ?_
  match read with
  | .failed error => exact Works.any (quiet_notes.uses_unresolved _ _) w''
  | .disagree => exact Works.any (quiet_notes.uses_unresolved _ _) w''
  | .absent =>
      refine Works.any (Interaction.uses_bind (uses_call (quiet_unchecked (.inl rfl))) fun _ => ?_) w''
      exact Interaction.uses_bind (quiet_looks.uses_log _) fun _ => Interaction.uses_pure
  | .present =>
      exact Interaction.Safe.bind (Works.any (quiet_looks.uses_log _) w'')
        fun _ w _ => follow_beside honest program sameNs event.eventId w

theorem send_beside {attempt : Nat} {raw : Bytes} (w : World D env.net) :
    Works env ns meets (options.send env.host event attempt raw) (fun _ _ => True) (fun _ _ => True) w := by
  unfold WorkerOptions.send
  refine Interaction.Safe.bind (Works.any (Interaction.uses_result
    (Interaction.uses_perform.mpr (quiet_rpc _ _))) w) fun sent w' _ => ?_
  match sent with
  | .ok (.refused reason) => exact settleRefused_beside honest program sameNs w'
  | .ok (.accepted _) => exact follow_beside honest program sameNs event.eventId w'
  | .error error =>
      exact Interaction.Safe.bind (Works.any (quiet_looks.uses_log _) w')
        fun _ w _ => follow_beside honest program sameNs event.eventId w

theorem settle_beside (sign : Signer) (snapshot : Snapshot event w) :
    Works env ns meets (options.settle env.host sign event) (fun _ _ => True) (fun _ _ => True) w := by
  unfold WorkerOptions.settle
  split
  · exact Works.any (Interaction.uses_bind (uses_call (quiet_unchecked (.inr (.inr ⟨rfl, _, .inl rfl⟩))))
      fun _ => Interaction.uses_pure) w
  refine Interaction.Safe.bind (Works.frame (Interaction.uses_result (quiet_looks.uses_request _ _ trivial))
    (Snapshot.stable event) snapshot) fun latest w' snapshot => ?_
  match latest with
  | .error error =>
      refine Works.any ?_ w'
      refine Interaction.uses_bind (uses_call (quiet_unchecked (.inl rfl))) fun _ => ?_
      exact Interaction.uses_bind (quiet_looks.uses_log _) fun _ => Interaction.uses_pure
  | .ok latest =>
      -- an attempt begins only for an event that is pending, so not recorded paid
      have owed : Owes env ns meets w' (.store (.beginAttempt event.eventId event.request options.params)) := by
        obtain ⟨row, mem, id, request, _⟩ := snapshot.stored
        exact fun _ => ⟨⟨congrArg toBase58 program, congrArg toBase58 sameNs⟩, row, mem,
          id.trans snapshot.column_eventId.symm, request⟩
      have began : Works env ns meets
          (Studio.call (.beginAttempt event.eventId event.request options.params))
          (fun _ w => AllFresh meets → column event.eventId ∉ w.recorded) (fun _ _ => True) w' := by
        refine .call (by simp [Op.Awaits]) owed (fun attempt w inv _ recorded began allFresh => ?_)
          fun _ _ _ => trivial
        rw [recorded]
        simp only [Method.records, List.append_nil]
        simp only [Method.apply] at began
        split at began
        · next store' began' =>
            exact inv.consistent.unrecorded_of_began began' allFresh
        · cases began
      refine Interaction.Safe.bind began fun attempt w unrecorded => ?_
      split
      · exact giveUp_beside unrecorded
      · split
        · exact giveUp_beside unrecorded
        · refine Interaction.Safe.bind (Works.any (uses_call (quiet_recordSigned _ _ _ _ _)) w)
            fun _ w _ => ?_
          refine Interaction.Safe.bind (Works.any (uses_ask (quiet_beforeSend _ _)) w) fun _ w _ => ?_
          refine Interaction.Safe.bind (Works.any (quiet_looks.uses_log _) w) fun _ w _ => ?_
          exact send_beside honest program sameNs w

/-! ### Commands -/

omit honest program sameNs in
/-- One event after the other, each as it was read. -/
theorem batch_beside {name : JsString} {decide : StoredEvent → Work Outcome}
    {events : List StoredEvent} {w : World D env.net}
    (one : ∀ event w, Snapshot event w → Works env ns meets (decide event) (fun _ _ => True)
      (fun _ _ => True) w)
    (snapshots : ∀ event ∈ events, Snapshot event w) :
    Works env ns meets (WorkerOptions.batch name decide events) (fun _ _ => True) (fun _ _ => True) w := by
  unfold WorkerOptions.batch
  let inv (rest : List StoredEvent) (w : World D env.net) : Prop := ∀ event ∈ rest, Snapshot event w
  have start : inv events w := snapshots
  refine Interaction.Safe.bind (Interaction.safe_each ?_ start) fun _ _ _ => trivial
  intro event rest w snapshots
  have stable : Stable env fun w => ∀ event ∈ rest, Snapshot event w :=
    fun w w' all forward event mem => Snapshot.stable event w w' (all event mem) forward
  have decided : Works env ns meets
      (tryCatch (decide event) fun error =>
        WorkerOptions.contain event.eventId (name ++ js " failed: " ++ error.text))
      (fun _ _ => True) (fun _ _ => True) w :=
    Interaction.Safe.tryCatch (one event w (snapshots event List.mem_cons_self))
      fun error w' _ => Works.any (quiet_notes.uses_contain _ _) w'
  refine Interaction.Safe.bind ((decided.keep stable fun event mem =>
    snapshots event (List.mem_cons_of_mem _ mem)).mono (fun _ _ both => both.2) fun _ _ _ => trivial)
    fun outcome w' kept => kept

omit honest program sameNs in
theorem eventsWithStatus_beside (status : EventStatus) (limit : Option Nat) (w : World D env.net) :
    Works env ns meets (Studio.call (.eventsWithStatus status limit))
      (fun events w' => ∀ event ∈ events, Snapshot event w') (fun _ _ => True) w := by
  refine Works.read (fun _ => trivial) (fun middle events w' inv after read event mem => ?_)
    fun _ _ _ => trivial
  rw [← Except.ok.inj read] at mem
  obtain ⟨row, inRows, rfl, _⟩ := Store.mem_eventsWithStatus mem
  exact Snapshot.stable _ _ _ (inv.consistent.toFiled.snapshot inRows) after

theorem run_beside (sign : Signer) (limit : Option Nat) (w : World D env.net) :
    Works env ns meets (options.run env.host sign limit) (fun _ _ => True) (fun _ _ => True) w := by
  unfold WorkerOptions.run
  refine Interaction.Safe.bind (eventsWithStatus_beside _ _ w) fun inFlight w snapshots => ?_
  refine Interaction.Safe.bind (batch_beside (fun event w _ =>
    resolve_beside honest program sameNs event.eventId w) snapshots) fun _ w _ => ?_
  refine Interaction.Safe.bind (eventsWithStatus_beside _ _ w) fun pending w snapshots => ?_
  exact Interaction.Safe.bind (batch_beside (fun event w snapshot =>
    settle_beside honest program sameNs sign snapshot) snapshots) fun _ _ _ => trivial

end Writing

/-- Every command of a worker runs well beside the other one. -/
theorem work_beside (honest : ∀ provider call, env.honest provider call) (command : Sharing D ns)
    (w : World D env.net) :
    Works env ns meets (command.val.work env.host env.net.sign) (fun _ _ => True) (fun _ _ => True) w := by
  obtain ⟨⟨options, action⟩, program, sameNs⟩ := command
  cases action with
  | run limit =>
      exact Interaction.Safe.bind (run_beside honest program sameNs env.net.sign limit w)
        fun _ _ _ => trivial
  | resolve eventId =>
      exact Interaction.Safe.bind (resolve_beside honest program sameNs eventId w)
        fun _ _ _ => trivial
  | recheck eventId =>
      exact Interaction.Safe.bind (recheck_beside honest program sameNs eventId w)
        fun _ _ _ => trivial

end Synxed.Studio
