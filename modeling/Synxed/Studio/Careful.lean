import Synxed.Studio.Journal

/-!
What the worker owes each event it works on, part by part.

A part works on one event `e`: every method it calls and every transaction it
sends concerns that event (`Op.Owes`), and what it ends with agrees with the
status the event then has (`Outcome.status`). `mine` is what is known of the
parameters of its attempts.

* `careful_resolve`, `careful_settle`: the two ways to decide an event.
* `diligent_work`: every command owes what it asks.
-/

namespace Synxed.Studio

open Synxed.Lib Synxed.Program Synxed.Sdk

variable {D : Deployment}

/-- The status an outcome reports. -/
def Outcome.status : Outcome → EventStatus
  | paid => .paid
  | waiting => .inFlight
  | retry => .pending
  | failed => .pending
  | incident => .incident
  | unresolved => .inFlight
  | needsAttention => .needsAttention

/-- What the worker owes the event `e` when it asks an operation. -/
def Op.Owes {net : Network} (limit : Nat) (mine : AttemptParams → Prop) (e : JsString)
    (w : World D net) : Op → Prop
  | .store method => method.Owes limit mine e w.store
  | .rpc _ call => ∀ raw ∈ handed call, w.store.Within mine e ∧ w.store.HasSigned e raw
  | _ => True

/-- An operation, with the journal kept before and after it. -/
def Orderly (env : Environment D) (w : World D env.net) (op : Op) (reply : Except Thrown op.Reply)
    (w' : World D env.net) : Prop :=
  Journal w.store ∧ step env w op reply w' ∧ Journal w'.store

/-- A part of the worker that works on the event `e`. -/
abbrev Careful (env : Environment D) (limit : Nat) (mine : AttemptParams → Prop) (e : JsString)
    {α : Type} (program : Work α) (post : α → World D env.net → Prop)
    (fail : Thrown → World D env.net → Prop) (w : World D env.net) : Prop :=
  Interaction.Safe (Orderly env) (Op.Owes limit mine e) program post fail w

/-- It only looks things up. -/
def Op.Reads : Op → Prop
  | .store (.event _) => True
  | .store (.eventsWithStatus _ _) => True
  | .store (.attempts _) => True
  | .store _ => False
  | .rpc _ call => call.IsLookup
  | _ => True

theorem reads_looks : Looks Op.Reads where
  lookup _ _ lookup := lookup
  polls := trivial
  log _ := trivial

/-- The store right after an operation. -/
def Op.after (store : Store) : Op → Store
  | .store method => (method.apply store).2
  | _ => store

variable {env : Environment D} {limit : Nat} {mine : AttemptParams → Prop} {e eventId : JsString}
  {α : Type} {w w' : World D env.net} {fail : Thrown → World D env.net → Prop}

theorem step.queues {op : Op} {reply : Except Thrown op.Reply} (moved : step env w op reply w') :
    (op.after w.store).Queues w'.store := by
  obtain ⟨middle, replies, passes⟩ := moved
  refine Store.Queues.trans ?_ (.of_enqueues passes.store)
  cases op with
  | store method =>
      obtain ⟨_, rfl⟩ := replies
      exact .refl _
  | rpc provider call =>
      cases reply with
      | ok answer =>
          obtain ⟨_, given, _, rfl⟩ := replies
          exact .refl _
      | error error =>
          obtain ⟨_, given, _, rfl⟩ := replies
          exact .refl _
  | polls =>
      obtain ⟨_, rfl⟩ := replies
      exact .refl _
  | _ =>
      cases replies
      exact .refl _

theorem handed_of_lookup {call : Rpc} (lookup : call.IsLookup) : handed call = [] := by
  cases call with
  | sendRawTransaction raw skipPreflight => exact lookup.elim
  | _ => rfl

theorem Op.owes_of_reads {op : Op} (reads : op.Reads) : op.Owes limit mine e w := by
  cases op with
  | store method =>
      cases method with
      | event eventId => trivial
      | eventsWithStatus status limit => trivial
      | attempts eventId => trivial
      | _ => exact reads.elim
  | rpc provider call =>
      change ∀ raw ∈ handed call, _
      rw [handed_of_lookup reads]
      exact fun _ mem => nomatch mem
  | _ => trivial

theorem Op.after_of_reads {op : Op} (reads : op.Reads) (store : Store) : op.after store = store := by
  cases op with
  | store method =>
      cases method with
      | event eventId => rfl
      | eventsWithStatus status limit => rfl
      | attempts eventId => rfl
      | _ => exact reads.elim
  | _ => rfl

/-! ### Rules -/

/-- A part that only looks things up leaves the store to those who enqueue. -/
theorem careful_reads {program : Work α} (uses : program.Uses Op.Reads) :
    Careful env limit mine e program (fun _ w' => w.store.Queues w'.store)
      (fun _ w' => w.store.Queues w'.store) w := by
  refine Interaction.Safe.of_uses uses (fun _ _ reads _ => Op.owes_of_reads reads) ?_ (.refl _)
  rintro middle op reply w' reads queued ⟨_, moved, _⟩
  have queues := moved.queues
  rw [Op.after_of_reads reads] at queues
  exact queued.trans queues

/-- Call a method of the store. -/
theorem careful_call {method : Method} {post : method.Answer → World D env.net → Prop}
    (owes : method.Owes limit mine e w.store)
    (ended : ∀ answer w', Journal w.store → (method.apply w.store).1 = .ok answer →
      (method.apply w.store).2.Queues w'.store → Journal w'.store → post answer w')
    (failed : ∀ error w', (method.apply w.store).1 = .error error → fail error w') :
    Careful env limit mine e (call method) post fail w := by
  refine Interaction.safe_perform.mpr ⟨owes, ?_, ?_⟩
  · rintro answer w' ⟨before, moved, after⟩
    have ⟨middle, ⟨reply, _⟩, _⟩ := moved
    exact ended answer w' before reply.symm moved.queues after
  · rintro error w' ⟨_, ⟨middle, ⟨reply, _⟩, _⟩, _⟩
    exact failed error w' reply.symm

/-- Send the bytes of a signed attempt. -/
theorem careful_send {provider : Provider} {raw : Bytes} {skipPreflight : Bool}
    (within : w.store.Within mine e) (signed : w.store.HasSigned e raw) :
    Careful env limit mine e
      ((connectionTo provider).request (.sendRawTransaction raw skipPreflight))
      (fun _ w' => w.store.Queues w'.store) (fun _ w' => w.store.Queues w'.store) w := by
  refine Interaction.safe_perform.mpr ⟨fun bytes mem => ?_, ?_, ?_⟩
  · obtain rfl := List.mem_singleton.mp mem
    exact ⟨within, signed⟩
  · rintro answer w' ⟨_, moved, _⟩
    exact moved.queues
  · rintro error w' ⟨_, moved, _⟩
    exact moved.queues

/-- Whoever sets a status finds it set. -/
theorem careful_setEventStatus (named : column eventId = e) {status : OpenStatus}
    {note : Option JsString} {before : EventStatus} (standing : w.store.Standing e before)
    (pending : status = .pending → w.store.Closed e) :
    Careful env limit mine e (call (.setEventStatus eventId status note))
      (fun _ w' => w'.store.Standing e status.val) fail w := by
  refine careful_call ⟨named, pending⟩ (fun _ w' _ _ queues _ => queues.standing ?_)
    fun _ _ failed => nomatch failed
  obtain ⟨row, mem, id, _⟩ := standing
  exact ⟨_, Table.mem_changed.mpr (.inr ⟨row, mem, id.trans named.symm, rfl⟩), id, rfl⟩

/-- A line in the log, after what is settled. -/
theorem careful_log {kept : Store → Prop} (line : JsString) (holds : kept w.store)
    (keeps : ∀ store store', store.Queues store' → kept store → kept store') :
    Careful env limit mine e (log line) (fun _ w' => kept w'.store) (fun _ _ => True) w :=
  (careful_reads (reads_looks.uses_log line)).mono
    (fun _ _ queues => keeps _ _ queues holds) fun _ _ _ => trivial

/-! ### Looking at the attempts -/

theorem careful_mayStillLand (named : column e = e) :
    ∀ (waiting : Bool) (height : Option Nat) (rest : List StoredAttempt) (w : World D env.net),
      InHand mine e rest w.store → Careful env limit mine e
        (WorkerOptions.mayStillLand waiting height rest) (fun _ w' => InHand mine e [] w'.store)
        (fun _ w' => w'.store.Standing e .inFlight) w
  | _, _, [], _, inHand => inHand
  | waiting, height, attempt :: rest, w, inHand => by
      have later (waiting : Bool) (height : Option Nat) (w : World D env.net) :=
        careful_mayStillLand named waiting height rest w
      obtain ⟨inRows, id⟩ := inHand.stored attempt List.mem_cons_self
      have fails {w : World D env.net} (inHand : InHand mine e (attempt :: rest) w.store) :
          Careful env limit mine e (call (.setAttemptStatus attempt.eventId attempt.attempt .failed))
            (fun _ w' => InHand mine e rest w'.store)
            (fun _ w' => w'.store.Standing e .inFlight) w :=
        careful_call ⟨by rw [id, named], .inl rfl⟩
          (fun _ w' _ _ queues _ => (inHand.failed named).queues queues)
          fun _ _ failed => nomatch failed
      have looks (call : Rpc) (lookup : call.IsLookup) (w : World D env.net)
          (inHand : InHand mine e (attempt :: rest) w.store) :
          Careful env limit mine e ((connectionTo .primary).request call)
            (fun _ w' => InHand mine e (attempt :: rest) w'.store)
            (fun _ w' => w'.store.Standing e .inFlight) w :=
        (careful_reads (reads_looks.uses_request _ _ lookup)).mono
          (fun _ _ queues => inHand.queues queues)
          fun _ _ queues => queues.standing inHand.standing
      unfold WorkerOptions.mayStillLand
      split
      · exact Interaction.Safe.bind (fails inHand) fun _ w inHand => later waiting height w inHand
      next other =>
      split
      · next signature signed _ =>
        refine Interaction.Safe.bind (looks (.getSignatureStatuses signature) trivial w inHand) fun status w inHand => ?_
        cases status with
        | some status =>
            dsimp only
            split
            · exact later true height w (inHand.tail other)
            · split
              · exact later waiting height w (inHand.tail other)
              · split
                · exact Interaction.Safe.bind (fails inHand)
                    fun _ w inHand => later waiting height w inHand
                · exact later true height w (inHand.tail other)
        | none =>
            have known (height : Nat) (w : World D env.net)
                (inHand : InHand mine e (attempt :: rest) w.store) :
                Careful env limit mine e (WorkerOptions.resend waiting attempt rest height)
                (fun _ w' => InHand mine e [] w'.store)
                (fun _ w' => w'.store.Standing e .inFlight) w := by
              unfold WorkerOptions.resend
              split
              · next raw _ bytes =>
                split
                · have sent : w.store.HasSigned e (base64Decode raw) :=
                    ⟨attempt, (inHand.stored attempt List.mem_cons_self).1, id, signed, raw, bytes, rfl⟩
                  have resent : Careful env limit mine e (Interaction.result ((connectionTo .primary).request
                      (.sendRawTransaction (base64Decode raw) true)))
                      (fun _ w' => InHand mine e (attempt :: rest) w'.store)
                      (fun _ w' => w'.store.Standing e .inFlight) w :=
                    Interaction.Safe.result (careful_send inHand.within sent)
                      (fun _ _ queues => inHand.queues queues) fun _ _ queues => inHand.queues queues
                  exact Interaction.Safe.bind resent
                    fun _ w inHand => later true (some height) w (inHand.tail other)
                · exact later waiting (some height) w (inHand.tail other)
              · exact later waiting (some height) w (inHand.tail other)
            cases height with
            | some height => exact known height w inHand
            | none =>
                exact Interaction.Safe.bind (looks .getBlockHeight trivial w inHand)
                  fun height w inHand => known height w inHand
      · exact later waiting height w (inHand.tail other)

/-! ### Deciding -/

/-- What a part ends with agrees with the status of its event. -/
abbrev Reports (e : JsString) (outcome : Outcome) (w : World D env.net) : Prop :=
  w.store.Standing e outcome.status

theorem careful_unresolved (named : column eventId = e) (note : JsString)
    (standing : w.store.Standing e .inFlight) :
    Careful env limit mine e (WorkerOptions.unresolved eventId note) (Reports e)
      (fun _ _ => True) w :=
  Interaction.Safe.bind (careful_setEventStatus named standing (nomatch ·))
    fun _ _ standing => standing

theorem careful_expireSigned (named : column eventId = e) :
    ∀ (rest : List StoredAttempt) (w : World D env.net), Expiring mine e rest w.store →
      Careful env limit mine e (WorkerOptions.expireSigned eventId rest)
        (fun _ w' => Expiring mine e [] w'.store) (fun _ _ => True) w
  | [], _, expiring => expiring
  | attempt :: rest, w, expiring => by
      unfold WorkerOptions.expireSigned
      dsimp only
      split
      · have expired : Expiring mine e rest
            (w.store.setAttemptStatus eventId attempt.attempt DeadStatus.expired) := by
          refine ⟨expiring.toResolving.setAttemptStatus _ _, fun later mem id opens => ?_⟩
          rcases Table.mem_changed.mp mem with ⟨inRows, elsewhere⟩ | ⟨old, _, _, rfl⟩
          · obtain ⟨inside, signed⟩ := expiring.signed later inRows id opens
            rcases List.mem_cons.mp inside with rfl | inRest
            · exact absurd (by rw [named, id]) elsewhere
            · exact ⟨inRest, signed⟩
          · rcases opens with opens | opens <;> cases opens
        refine Interaction.Safe.bind (careful_call ⟨named, .inr rfl⟩
          (fun _ w' _ _ queues _ => expired.queues queues) fun _ _ failed => by cases failed)
          fun _ w expiring => ?_
        exact careful_expireSigned named rest w expiring
      · next notSigned =>
        refine careful_expireSigned named rest w
          ⟨expiring.toResolving, fun later mem id opens => ?_⟩
        obtain ⟨inside, signed⟩ := expiring.signed later mem id opens
        rcases List.mem_cons.mp inside with rfl | inRest
        · exact absurd signed notSigned
        · exact ⟨inRest, signed⟩

variable {options : WorkerOptions}

theorem careful_retryOrGiveUp (named : column eventId = e) (attempts : Nat)
    (resolving : Resolving mine e w.store) (closed : w.store.Closed e) :
    Careful env limit mine e (options.retryOrGiveUp eventId attempts) (Reports e)
      (fun _ _ => True) w := by
  unfold WorkerOptions.retryOrGiveUp
  split
  · exact Interaction.Safe.bind (careful_setEventStatus named resolving.standing (nomatch ·))
      fun _ _ standing => standing
  · exact Interaction.Safe.bind
      (careful_setEventStatus named resolving.standing fun _ => closed)
      fun _ _ standing => standing

/-- A reconciliation is of the signature that was asked for. -/
theorem careful_reconcile (provider : Provider) (signature : JsString) (stored : StoredRequest)
    (beneficiaryIds : Option (List (JsString × JsString))) (w : World D env.net) :
    Careful env limit mine e (options.reconcile env.host provider signature stored beneficiaryIds)
      (fun result w' => w.store.Queues w'.store ∧ ∀ reconciliation, result = .matched reconciliation →
        reconciliation.record.signature = signature)
      (fun _ _ => True) w := by
  have reads (call : Rpc) (lookup : call.IsLookup) (w : World D env.net) :
      Careful env limit mine e ((connectionTo provider).request call) (fun _ _ => True)
        (fun _ _ => True) w :=
    (careful_reads (reads_looks.uses_request _ _ lookup)).mono (fun _ _ _ => trivial)
      fun _ _ _ => trivial
  have signed : Careful env limit mine e
      (options.reconcile env.host provider signature stored beneficiaryIds)
      (fun result _ => ∀ reconciliation, result = .matched reconciliation →
        reconciliation.record.signature = signature) (fun _ _ => True) w := by
    unfold WorkerOptions.reconcile
    have told : Careful env limit mine e (Interaction.result (do
        let programId ← .ofExcept (WorkerOptions.parseKey stored.params.programId)
        let ns ← .ofExcept (WorkerOptions.parseKey stored.params.ns)
        reconcileSettlementN env.host (connectionTo provider)
          (options.reconcileOptions signature stored programId ns beneficiaryIds)))
        (fun result _ => ∀ reconciliation, result = .ok reconciliation →
          reconciliation.record.signature = signature) (fun _ _ => True) w := by
      refine Interaction.Safe.result_ok ?_
      refine Interaction.Safe.bind (Interaction.safe_ofExcept.mpr
        ⟨fun _ _ => trivial, fun _ _ => trivial⟩) fun programId w (_ : True) => ?_
      refine Interaction.Safe.bind (Interaction.safe_ofExcept.mpr
        ⟨fun _ _ => trivial, fun _ _ => trivial⟩) fun ns w (_ : True) => ?_
      have shown (w : World D env.net) : Careful env limit mine e
          ((connectionTo provider).request (.getParsedTransaction signature))
          (fun found _ => ∀ transaction, found = some transaction → True) (fun _ _ => True) w :=
        (reads (.getParsedTransaction signature) trivial w).mono (fun _ _ _ _ _ => trivial)
          fun _ _ _ => trivial
      refine (safe_reconcileSettlementN shown (reads .getGenesisHash trivial) (fun w => ?_) w).mono
        ?_ fun _ _ _ => trivial
      · exact Interaction.safe_perform.mpr ⟨trivial, fun _ _ _ => trivial, fun _ _ _ => trivial⟩
      · rintro reconciliation _ ⟨transaction, _, reconciled⟩
        exact reconciled_signature reconciled
    refine Interaction.Safe.bind told fun result w known => ?_
    match result with
    | .ok reconciliation =>
        rintro _ ⟨⟩
        exact known reconciliation rfl
    | .error (.ledger error) => exact fun _ same => nomatch same
    | .error (.protocol error) => exact fun _ same => nomatch same
    | .error (.other text) => exact fun _ same => nomatch same
  exact ((careful_reads (reads_looks.uses_reconcile provider signature stored beneficiaryIds)).and
    signed).mono (fun _ _ both => both) fun _ _ _ => trivial

section ResolveRecord

variable {event : StoredEvent} {attempts : List StoredAttempt} {created : SettlementTransaction}
  (named : column event.eventId = e) (standing : w.store.Standing e .inFlight)

include named standing

theorem careful_recordMatch (readBack : ReadBack e attempts w.store) (stored : StoredRequest) :
    Careful env limit mine e (options.recordMatch env.host event attempts created stored)
      (Reports e) (fun _ _ => True) w := by
  rw [WorkerOptions.recordMatch_eq]
  refine Interaction.Safe.bind ((careful_reads (reads_looks.uses_confirmMatch _ _)).mono
    (fun _ _ queues => queues) fun _ _ _ => trivial) fun confirmed w queues => ?_
  have standing := queues.standing standing
  have readBack := readBack.queues queues
  split
  · refine Interaction.Safe.bind (careful_reconcile _ _ _ _ w) fun rows w told => ?_
    obtain ⟨queues, signed⟩ := told
    have standing := queues.standing standing
    have readBack := readBack.queues queues
    match rows with
    | .refused mismatch error => exact careful_unresolved named error standing
    | .matched reconciliation =>
        have recorded : Careful env limit mine e (call (.recordPaid event.eventId
            (WorkerOptions.landedAttempt attempts created.signature) reconciliation.record
            reconciliation.directEntries reconciliation.poolPayouts))
            (fun _ w' => w'.store.Standing e .paid) (fun _ _ => True) w := by
          refine careful_call ⟨named, fun n landed => ?_⟩ (fun _ w' _ wrote queues _ => ?_)
            fun _ _ _ => trivial
          · obtain ⟨attempt, mem, number, signature⟩ := landedAttempt_eq_some landed
            obtain ⟨inRows, id⟩ := readBack attempt mem
            exact ⟨attempt, inRows, id, number, by rw [signature, signed reconciliation rfl]⟩
          · refine queues.standing ?_
            cases done : w.store.recordPaid event.eventId
                (WorkerOptions.landedAttempt attempts created.signature) reconciliation.record
                reconciliation.directEntries reconciliation.poolPayouts with
            | error error => simp [Method.apply, done] at wrote
            | ok store' =>
                simp only [Method.apply, done]
                obtain ⟨_, _, _, rfl⟩ := Store.recordPaid_eq_ok done
                obtain ⟨row, mem, id, _⟩ := standing
                exact ⟨_, Table.mem_changed.mpr (.inr ⟨row, mem, id.trans named.symm, rfl⟩), id, rfl⟩
        refine Interaction.Safe.bind recorded fun _ w paid => ?_
        exact Interaction.Safe.bind (careful_log _ paid fun _ _ queues => queues.standing)
          fun _ _ paid => paid
  · exact careful_unresolved named _ standing

theorem careful_recordMismatch (requests : List StoredRequest) (primary : List ReconcileResult) :
    Careful env limit mine e (options.recordMismatch env.host event created requests primary)
      (Reports e) (fun _ _ => True) w := by
  rw [WorkerOptions.recordMismatch_eq]
  refine Interaction.Safe.bind ((careful_reads (reads_looks.uses_confirmMismatch _ _ _)).mono
    (fun _ _ queues => queues) fun _ _ _ => trivial) fun confirmed w queues => ?_
  have standing := queues.standing standing
  split
  · refine Interaction.Safe.bind (careful_setEventStatus named standing (nomatch ·))
      fun _ w incident => ?_
    exact Interaction.Safe.bind (careful_log _ incident fun _ _ queues => queues.standing)
      fun _ _ incident => incident
  · exact careful_unresolved named _ standing

theorem careful_resolveRecord (readBack : ReadBack e attempts w.store) :
    Careful env limit mine e (options.resolveRecord env.host event attempts) (Reports e)
      (fun _ _ => True) w := by
  unfold WorkerOptions.resolveRecord
  have search : Careful env limit mine e (Interaction.result (findSettlementTransaction env.host
      (connectionTo .primary) options.programId options.ns event.eventId))
      (fun _ w' => w.store.Queues w'.store) (fun _ _ => True) w :=
    (careful_reads (Interaction.uses_result
      (reads_looks.uses_findSettlementTransaction _ _ _ _ _))).mono (fun _ _ queues => queues)
      fun _ _ _ => trivial
  refine Interaction.Safe.bind search fun created w queues => ?_
  have standing := queues.standing standing
  have readBack := readBack.queues queues
  match created with
  | .error error => exact careful_unresolved named _ standing
  | .ok created =>
      dsimp only
      split
      · have primary : Careful env limit mine e (Interaction.each (fun stored => options.reconcile
            env.host .primary created.signature stored none) (options.requestsOf event attempts))
            (fun _ w' => w.store.Queues w'.store) (fun _ _ => True) w :=
          (careful_reads (Interaction.uses_each (fun _ => reads_looks.uses_reconcile _ _ _ _) _)).mono
            (fun _ _ queues => queues) fun _ _ _ => trivial
        refine Interaction.Safe.bind primary fun primary w queues => ?_
        split
        · next stored _ _ =>
            exact careful_recordMatch named (queues.standing standing) (readBack.queues queues) stored
        · exact careful_recordMismatch named (queues.standing standing) _ primary
      · exact careful_unresolved named _ standing

end ResolveRecord

/-- Read the attempts of an event. -/
theorem careful_attempts (named : column eventId = e) :
    Careful env limit mine e (call (.attempts eventId))
      (fun attempts w' => w.store.Queues w'.store ∧ Journal w'.store ∧
        (∀ attempt, attempt ∈ attempts ↔ attempt ∈ w'.store.attemptRows.rows ∧ attempt.eventId = e) ∧
        (attempts.map StoredAttempt.attempt).Nodup) fail w := by
  refine careful_call trivial (fun attempts w' _ read queues journal => ?_)
    fun _ _ failed => nomatch failed
  obtain rfl := Except.ok.inj read
  refine ⟨queues, journal, fun attempt => ?_, w.store.nodup_attempts eventId⟩
  rw [Store.mem_attempts, queues.attempts, named]
  rfl

theorem careful_decide {event : StoredEvent} (named : column eventId = e) (sameId : event.eventId = e)
    (inHand : InHand mine e [] w.store) :
    Careful env limit mine e (options.decide env.host eventId event) (Reports e)
      (fun _ _ => True) w := by
  unfold WorkerOptions.decide
  refine Interaction.Safe.bind ((careful_reads Interaction.uses_ofExcept).mono
    (fun _ _ queues => inHand.queues queues) fun _ _ _ => trivial) fun seed w inHand => ?_
  refine Interaction.Safe.bind ((careful_reads (reads_looks.uses_readRecord seed)).mono
    (fun _ _ queues => inHand.queues queues) fun _ _ _ => trivial) fun read w inHand => ?_
  match read with
  | .failed error => exact careful_unresolved named _ inHand.standing
  | .disagree => exact careful_unresolved named _ inHand.standing
  | .absent =>
      refine Interaction.Safe.bind (careful_attempts named) fun attempts w told => ?_
      obtain ⟨queues, _, read, _⟩ := told
      have inHand := inHand.queues queues
      have expiring : Expiring mine e attempts w.store := by
        refine ⟨inHand.toResolving, fun attempt mem id opens => ⟨(read attempt).mpr ⟨mem, id⟩, ?_⟩⟩
        exact opens.resolve_left fun prepared => nomatch inHand.prepared attempt mem id prepared
      refine Interaction.Safe.bind (careful_expireSigned named attempts w expiring)
        fun _ w expired => ?_
      exact careful_retryOrGiveUp named _ expired.toResolving expired.closed
  | .present =>
      refine Interaction.Safe.bind (careful_attempts named) fun attempts w told => ?_
      obtain ⟨queues, _, read, _⟩ := told
      have sameName : column event.eventId = e := by rw [sameId, ← named, column_column]
      exact careful_resolveRecord sameName (inHand.queues queues).standing
        fun attempt mem => (read attempt).mp mem

/-- An attempt made under the worker's program and namespace. -/
def WorkerOptions.Made (options : WorkerOptions) (params : AttemptParams) : Prop :=
  params.programId = toBase58 options.programId ∧ params.ns = toBase58 options.ns

variable (here : ∀ params, options.Made params → mine params)

include here

/-- An event is resolved from any state, for attempts made here. -/
theorem careful_resolve (named : column eventId = e) (w : World D env.net) :
    Careful env limit mine e (options.resolve env.host eventId) (Reports e) (fun _ _ => True) w := by
  unfold WorkerOptions.resolve
  have told : Careful env limit mine e (call (.event eventId)) (fun stored w' => ∀ event,
      stored = some event → w'.store.Standing e event.status ∧ event.eventId = e)
      (fun _ _ => True) w := by
    refine careful_call trivial (fun stored w' _ read queues _ => ?_) fun _ _ failed => nomatch failed
    rintro event rfl
    obtain ⟨row, mem, id, rfl⟩ := Store.event_eq_some.mp (Except.ok.inj read)
    exact ⟨queues.standing ⟨row, mem, id.trans named, rfl⟩, id.trans named⟩
  refine Interaction.Safe.bind told fun stored w known => ?_
  cases stored with
  | none => exact trivial
  | some event =>
      obtain ⟨standing, sameId⟩ := known event rfl
      dsimp only
      split
      · exact trivial
      next inFlight =>
      rw [not_not] at inFlight
      rw [inFlight] at standing
      refine Interaction.Safe.bind (careful_attempts named) fun attempts w told => ?_
      obtain ⟨queues, _, read, distinct⟩ := told
      have standing := queues.standing standing
      split
      · exact Interaction.Safe.bind (careful_setEventStatus named standing (nomatch ·))
          fun _ _ standing => standing
      · next nowhere =>
        have within : w.store.Within mine e := by
          intro attempt mem id
          have made := List.find?_eq_none.mp nowhere attempt ((read attempt).mpr ⟨mem, id⟩)
          simp only [decide_eq_true_eq, not_or, not_not] at made
          exact here _ made
        have inHand : InHand mine e attempts w.store :=
          ⟨⟨standing, within⟩, fun attempt mem => (read attempt).mp mem, distinct,
            fun attempt mem id _ => (read attempt).mpr ⟨mem, id⟩⟩
        have looked : Careful env limit mine e
            (Interaction.result (WorkerOptions.mayStillLand false none attempts))
            (fun landing w' => w'.store.Standing e .inFlight ∧
              ∀ waiting, landing = .ok waiting → InHand mine e [] w'.store) (fun _ _ => True) w := by
          refine Interaction.Safe.result (careful_mayStillLand (by rw [← named, column_column])
            false none attempts w inHand) (fun _ _ inHand => ⟨inHand.standing, fun _ _ => inHand⟩)
            fun _ _ standing => ⟨standing, fun _ same => nomatch same⟩
        refine Interaction.Safe.bind looked fun landing w told => ?_
        match landing with
        | .error error => exact careful_unresolved named _ told.1
        | .ok true => exact told.1
        | .ok false => exact careful_decide named sameId (told.2 false rfl)

theorem careful_recheck (named : column eventId = e) (w : World D env.net) :
    Careful env limit mine e (options.recheck env.host eventId) (Reports e) (fun _ _ => True) w := by
  unfold WorkerOptions.recheck
  have told : Careful env limit mine e (call (.event eventId)) (fun stored w' => ∀ event,
      stored = some event → w'.store.Standing e event.status) (fun _ _ => True) w := by
    refine careful_call trivial (fun stored w' _ read queues _ => ?_) fun _ _ failed => nomatch failed
    rintro event rfl
    obtain ⟨row, mem, id, rfl⟩ := Store.event_eq_some.mp (Except.ok.inj read)
    exact queues.standing ⟨row, mem, id.trans named, rfl⟩
  refine Interaction.Safe.bind told fun stored w known => ?_
  cases stored with
  | none => exact trivial
  | some event =>
      have standing := known event rfl
      dsimp only
      split
      · next paid =>
        rw [paid] at standing
        exact standing
      · split
        · exact Interaction.Safe.bind (careful_setEventStatus named standing (nomatch ·))
            fun _ w _ => careful_resolve here named w
        · exact careful_resolve here named w

/-! ### Settling -/

theorem careful_awaitOutcome (named : column eventId = e) (polls : Nat) (w : World D env.net) :
    Careful env limit mine e (options.awaitOutcome env.host eventId polls) (Reports e)
      (fun _ _ => True) w := by
  induction polls generalizing w with
  | zero => exact careful_resolve here named w
  | succ polls ih =>
      refine Interaction.Safe.bind (careful_resolve here named w) fun outcome w told => ?_
      split
      · exact told
      · exact ih w

theorem careful_follow (named : column eventId = e) (w : World D env.net) :
    Careful env limit mine e (options.follow env.host eventId) (Reports e) (fun _ _ => True) w :=
  Interaction.Safe.bind ((careful_reads (Interaction.uses_perform.mpr reads_looks.polls)).mono
    (fun _ _ _ => trivial) fun _ _ _ => trivial)
    fun polls w (_ : True) => careful_awaitOutcome here named polls w

theorem careful_settleRefused {event : StoredEvent} {attempt : Nat} (reason : JsString)
    (named : column event.eventId = e) (begun : Begun mine e attempt w.store) :
    Careful env limit mine e (options.settleRefused env.host event attempt reason) (Reports e)
      (fun _ _ => True) w := by
  unfold WorkerOptions.settleRefused
  have failed : Careful env limit mine e (call (.setAttemptStatus event.eventId attempt .failed))
      (fun _ w' => Resolving mine e w'.store ∧ w'.store.Closed e) (fun _ _ => True) w := by
    refine careful_call ⟨named, .inl rfl⟩ (fun _ w' _ _ queues _ => ?_) fun _ _ failed => nomatch failed
    refine ⟨(begun.toResolving.setAttemptStatus attempt DeadStatus.failed).queues queues,
      queues.closed fun other mem id opens => ?_⟩
    rcases Table.mem_changed.mp mem with ⟨inRows, elsewhere⟩ | ⟨old, _, _, rfl⟩
    · exact elsewhere (by rw [named, id, begun.only other inRows id opens])
    · rcases opens with opens | opens <;> cases opens
  refine Interaction.Safe.bind failed fun _ w told => ?_
  refine Interaction.Safe.bind ((careful_reads Interaction.uses_ofExcept).mono
    (fun _ _ queues => ⟨told.1.queues queues, queues.closed told.2⟩) fun _ _ _ => trivial)
    fun seed w (told : Resolving mine e w.store ∧ w.store.Closed e) => ?_
  refine Interaction.Safe.bind ((careful_reads (reads_looks.uses_readRecord seed)).mono
    (fun _ _ queues => ⟨told.1.queues queues, queues.closed told.2⟩) fun _ _ _ => trivial)
    fun read w (told : Resolving mine e w.store ∧ w.store.Closed e) => ?_
  obtain ⟨resolving, closed⟩ := told
  match read with
  | .failed error => exact careful_unresolved named _ resolving.standing
  | .disagree => exact careful_unresolved named _ resolving.standing
  | .absent =>
      refine Interaction.Safe.bind (careful_setEventStatus named resolving.standing
        fun _ => closed) fun _ w pending => ?_
      exact Interaction.Safe.bind (careful_log _ pending fun _ _ queues => queues.standing)
        fun _ _ pending => pending
  | .present =>
      exact Interaction.Safe.bind ((careful_reads (reads_looks.uses_log _)).mono
        (fun _ _ _ => trivial) fun _ _ _ => trivial)
        fun _ w (_ : True) => careful_follow here named w

theorem careful_sendAttempt {event : StoredEvent} {attempt : Nat} {raw : Bytes}
    (named : column event.eventId = e) (begun : Begun mine e attempt w.store)
    (signed : w.store.HasSigned e raw) :
    Careful env limit mine e (options.send env.host event attempt raw) (Reports e)
      (fun _ _ => True) w := by
  unfold WorkerOptions.send
  have sent : Careful env limit mine e (Interaction.result ((connectionTo .primary).request
      (.sendRawTransaction raw false))) (fun _ w' => Begun mine e attempt w'.store)
      (fun _ _ => True) w :=
    Interaction.Safe.result (careful_send begun.within signed)
      (fun _ _ queues => begun.queues queues) fun _ _ queues => begun.queues queues
  refine Interaction.Safe.bind sent fun sent w begun => ?_
  match sent with
  | .ok (.refused reason) => exact careful_settleRefused here reason named begun
  | .ok (.accepted _) => exact careful_follow here named w
  | .error error =>
      exact Interaction.Safe.bind ((careful_reads (reads_looks.uses_log _)).mono
        (fun _ _ _ => trivial) fun _ _ _ => trivial)
        fun _ w (_ : True) => careful_follow here named w

omit here in
theorem careful_giveUp (named : column eventId = e) (attempt : Nat) (note : JsString)
    (resolving : Resolving mine e w.store) :
    Careful env limit mine e (WorkerOptions.giveUp eventId attempt note) (Reports e)
      (fun _ _ => True) w := by
  refine Interaction.Safe.bind (careful_call ⟨named, .inl rfl⟩ (fun _ w' _ _ queues _ =>
    (resolving.setAttemptStatus attempt DeadStatus.failed).queues queues)
    fun _ _ failed => nomatch failed) fun _ w (resolving : Resolving mine e w.store) => ?_
  refine Interaction.Safe.bind (careful_setEventStatus named resolving.standing (nomatch ·))
    fun _ w standing => ?_
  exact Interaction.Safe.bind (careful_log _ standing fun _ _ queues => queues.standing)
    fun _ _ standing => standing

/-- A pending event is settled, for attempts made here. -/
theorem careful_settle (sign : Signer) {event : StoredEvent} (journal : Journal w.store)
    (listed : Listed event w.store) (pending : event.status = .pending)
    (within : event.attempts < options.attemptLimit → w.store.Within mine event.eventId) :
    Careful env options.attemptLimit mine event.eventId (options.settle env.host sign event)
      (Reports event.eventId) (fun _ _ => True) w := by
  have named := listed.named journal
  unfold WorkerOptions.settle
  split
  · exact Interaction.Safe.bind (careful_setEventStatus named listed.standing (nomatch ·))
      fun _ _ standing => standing
  next more =>
  have asked : Careful env options.attemptLimit mine event.eventId
      (Interaction.result ((connectionTo .primary).request .getLatestBlockhash))
      (fun _ w' => w.store.Queues w'.store) (fun _ _ => True) w :=
    (careful_reads (Interaction.uses_result
      (reads_looks.uses_request .primary .getLatestBlockhash trivial))).mono
      (fun _ _ queues => queues) fun _ _ _ => trivial
  refine Interaction.Safe.bind asked fun latest w queues => ?_
  have journal := journal.queues queues
  have listed := listed.queues queues
  have within := queues.within (within (Nat.lt_of_not_le more))
  match latest with
  | .error error =>
      have standing := listed.standing
      rw [pending] at standing
      refine Interaction.Safe.bind (careful_setEventStatus named standing
        fun _ => journal.closed_of_pending standing) fun _ w standing => ?_
      exact Interaction.Safe.bind (careful_log _ standing fun _ _ queues => queues.standing)
        fun _ _ standing => standing
  | .ok latest =>
      have own : mine options.params := here _ ⟨rfl, rfl⟩
      have began : Careful env options.attemptLimit mine event.eventId
          (call (.beginAttempt event.eventId event.request options.params))
          (fun attempt w' => Begun mine event.eventId attempt w'.store ∧
            ∃ row ∈ w'.store.attemptRows.rows, row.eventId = event.eventId ∧
              row.attempt = attempt ∧ row.status = .prepared) (fun _ _ => True) w := by
        obtain ⟨stored, inRows, isEvent⟩ := listed
        refine careful_call ⟨named, own, within, fun row mem id => ?_, stored, inRows, ?_⟩
          (fun attempt w' journal wrote queues _ => ?_) fun _ _ _ => trivial
        · subst isEvent
          obtain rfl := List.inj_on_of_nodup_map w.store.events.unique mem inRows id
          exact Nat.lt_of_not_le more
        · subst isEvent
          exact ⟨rfl, rfl⟩
        · cases done : w.store.beginAttempt event.eventId event.request options.params with
          | error error => simp [Method.apply, done] at wrote
          | ok result =>
              obtain ⟨number, store'⟩ := result
              simp only [Method.apply, done, Except.ok.injEq] at wrote queues
              subst wrote
              obtain ⟨begun, row, mem, prepared⟩ := begun_of_beginAttempt done journal named within own
              refine ⟨begun.queues queues, row, ?_, prepared⟩
              rwa [queues.attempts]
      refine Interaction.Safe.bind began fun attempt w told => ?_
      obtain ⟨begun, prepared⟩ := told
      split
      · exact careful_giveUp named attempt _ begun.toResolving
      · split
        · exact careful_giveUp named attempt _ begun.toResolving
        · next signature raw _ =>
          have signed : Careful env options.attemptLimit mine event.eventId
              (call (.recordSigned event.eventId attempt signature (base64Encode raw)
                latest.lastValidBlockHeight))
              (fun _ w' => Begun mine event.eventId attempt w'.store ∧
                w'.store.HasSigned event.eventId raw) (fun _ _ => True) w := by
            refine careful_call ⟨named, begun.within⟩ (fun _ w' _ _ queues _ => ?_)
              fun _ _ failed => by cases failed
            obtain ⟨begun, signed⟩ := signed_of_recordSigned begun named prepared
            exact ⟨begun.queues queues, queues.hasSigned signed⟩
          refine Interaction.Safe.bind signed fun _ w told => ?_
          have free : (Op.beforeSend event.eventId signature).Reads := trivial
          refine Interaction.Safe.bind ((careful_reads (uses_ask free)).mono
            (fun _ _ queues => ⟨told.1.queues queues, queues.hasSigned told.2⟩) fun _ _ _ => trivial)
            fun _ w (told : Begun mine event.eventId attempt w.store ∧
              w.store.HasSigned event.eventId raw) => ?_
          refine Interaction.Safe.bind ((careful_reads (reads_looks.uses_log _)).mono
            (fun _ _ queues => ⟨told.1.queues queues, queues.hasSigned told.2⟩) fun _ _ _ => trivial)
            fun _ w (told : Begun mine event.eventId attempt w.store ∧
              w.store.HasSigned event.eventId raw) => ?_
          exact careful_sendAttempt here named told.1 told.2

/-! ### Other events -/

section Others

omit here

variable {op : Op} {reply : Except Thrown op.Reply} (owes : op.Owes limit mine e w)
  (moved : step env w op reply w')

include owes moved

theorem Op.Owes.elsewhere {row : EventRow} (mem : row ∈ w.store.events.rows)
    (other : row.eventId ≠ e) : row ∈ w'.store.events.rows := by
  refine moved.queues.events row ?_
  cases op with
  | store method => exact Method.Owes.elsewhere owes mem other
  | _ => exact mem

theorem Op.Owes.within {f : JsString} (within : w.store.Within mine f) : w'.store.Within mine f := by
  refine moved.queues.within ?_
  cases op with
  | store method => exact Method.Owes.within owes within
  | _ => exact within

end Others

/-! ### Running -/

omit here

/-- After a throw an event keeps its status, and the outcome reports it. -/
theorem careful_contain (named : column eventId = e) (note : JsString) {status : EventStatus}
    (standing : w.store.Standing e status) :
    Careful env limit mine e (WorkerOptions.contain eventId note)
      (fun outcome w' => w'.store.Standing e status ∧ outcome.status = status)
      (fun _ _ => False) w := by
  unfold WorkerOptions.contain
  have read : Careful env limit mine e (tryCatch (do
      let event ← call (.event eventId)
      pure (event.map StoredEvent.status)) fun _ => pure none)
      (fun read w' => read = some status ∧ w'.store.Standing e status) (fun _ _ => False) w := by
    refine Interaction.Safe.tryCatch (Interaction.Safe.bind (careful_call trivial
      (fun event w' _ read queues _ => ?_) fun _ _ failed => nomatch failed)
      fun event w' known => known) fun _ _ (never : False) => never.elim
    obtain rfl := Except.ok.inj read
    rw [← named] at standing ⊢
    exact ⟨Store.event_of_standing standing, queues.standing standing⟩
  refine Interaction.Safe.bind read fun read w told => ?_
  obtain ⟨rfl, standing⟩ := told
  have noted : Careful env limit mine e (tryCatch (if some status = some .inFlight then
      call (.setEventStatus eventId .inFlight (some note)) else pure ()) fun _ => pure ())
      (fun _ w' => w'.store.Standing e status) (fun _ _ => False) w := by
    refine Interaction.Safe.tryCatch ?_ fun _ _ (never : False) => never.elim
    split
    · next inFlight =>
        rw [Option.some.inj inFlight]
        exact careful_setEventStatus named standing (nomatch ·)
    · exact standing
  refine Interaction.Safe.bind noted fun _ w standing => ?_
  have logged : Careful env limit mine e (tryCatch (log (eventId ++ js ": " ++ note)) fun _ => pure ())
      (fun _ w' => w'.store.Standing e status) (fun _ _ => False) w :=
    Interaction.Safe.tryCatch ((careful_reads (reads_looks.uses_log _)).mono
      (fun _ _ queues => queues.standing standing) fun _ _ queues => queues.standing standing)
      fun _ _ standing => standing
  refine Interaction.Safe.bind logged fun _ w standing => ?_
  cases status <;> exact ⟨standing, rfl⟩

section Decided

variable {moves : World D env.net → (op : Op) → Except Thrown op.Reply → World D env.net → Prop}
  {asks : World D env.net → Op → Prop} {decide : StoredEvent → Work Outcome} {event : StoredEvent}

/-- One event of a list is decided, or the throw is contained. -/
theorem asking_decided
    (orderly : ∀ w op reply w', moves w op reply w' → Orderly env w op reply w')
    (notes : Notes fun op => ∀ w, op.Owes limit mine event.eventId w → asks w op)
    (name : JsString) (named : column event.eventId = event.eventId) (listed : Listed event w.store)
    (decided : Interaction.Safe moves asks (decide event) (Reports event.eventId)
      (fun _ _ => True) w) :
    Interaction.Safe moves asks (tryCatch (decide event) fun error =>
      WorkerOptions.contain event.eventId (name ++ js " failed: " ++ error.text))
      (Reports event.eventId) (fun _ _ => False) w := by
  have stays (w : World D env.net) (op : Op) (reply : Except Thrown op.Reply) (w' : World D env.net)
      (_ : asks w op)
      (known : ∃ row ∈ w.store.events.rows, row.eventId = event.eventId)
      (moved : moves w op reply w') :
      ∃ row ∈ w'.store.events.rows, row.eventId = event.eventId := by
    obtain ⟨row, mem, id⟩ := known
    obtain ⟨row', mem', same⟩ := (orderly _ _ _ _ moved).2.1.keeps row mem
    exact ⟨row', mem', same.eventId.trans id⟩
  obtain ⟨row, mem, same⟩ := listed
  have kept := Interaction.Safe.keeps decided stays ⟨row, mem, by rw [← same]⟩
  refine Interaction.Safe.tryCatch ((kept.guard_mono fun _ _ both => both.1).mono
    (fun _ _ both => both.1) fun _ _ both => both.2) fun error w known => ?_
  obtain ⟨row, mem, id⟩ := known
  have contained : Careful env limit mine event.eventId (WorkerOptions.contain event.eventId
      (name ++ js " failed: " ++ error.text))
      (fun outcome w' => w'.store.Standing event.eventId row.status ∧ outcome.status = row.status)
      (fun _ _ => False) w := careful_contain named _ ⟨row, mem, id, rfl⟩
  refine ((contained.step_mono orderly).guard_of_uses (notes.uses_contain _ _) fun w op free owes => free w owes).mono
    (fun outcome w' told => ?_) fun _ _ never => never
  rw [Reports, told.2]
  exact told.1

end Decided

/-! ### Reports -/

theorem report_of_ne {summary : List (JsString × Outcome)} {outcome : Outcome}
    (other : eventId ≠ js "__proto__") (fresh : ∀ entry ∈ summary, entry.1 ≠ eventId) :
    WorkerOptions.report summary eventId outcome = summary ++ [(eventId, outcome)] := by
  rw [WorkerOptions.report, if_neg other, List.filter_eq_self.mpr]
  exact fun entry mem => by simpa using fresh entry mem

/-- Reporting each event once reports all but `__proto__`. -/
theorem foldl_report : ∀ (entries summary : List (JsString × Outcome)),
    ((summary ++ entries).map Prod.fst).Nodup →
      entries.foldl (fun summary reported => WorkerOptions.report summary reported.1 reported.2) summary =
        summary ++ entries.filter fun entry => entry.1 ≠ js "__proto__"
  | [], summary, _ => (List.append_nil _).symm
  | entry :: rest, summary, distinct => by
      rw [List.foldl_cons]
      have parts := distinct
      rw [List.map_append, List.map_cons, List.nodup_append] at parts
      obtain ⟨_, _, apart⟩ := parts
      have fresh : ∀ old ∈ summary, old.1 ≠ entry.1 := fun old mem =>
        apart old.1 (List.mem_map_of_mem mem) entry.1 List.mem_cons_self
      by_cases proto : entry.1 = js "__proto__"
      · rw [WorkerOptions.report, if_pos proto, List.filter_cons_of_neg (by simpa using proto)]
        refine foldl_report rest summary (distinct.sublist (List.Sublist.map _ ?_))
        exact List.Sublist.append_left (List.sublist_cons_self _ _) _
      · rw [report_of_ne proto fresh, List.filter_cons_of_pos (by simpa using proto),
          foldl_report rest _ (by rwa [List.append_assoc]), List.append_assoc]
        rfl

/-- A summary reports each event of a list, but `__proto__`, as it stands. -/
structure Summarizes (events : List StoredEvent) (summary : List (JsString × Outcome))
    (w : World D env.net) : Prop where
  each : summary.map Prod.fst = (events.map StoredEvent.eventId).filter fun id => id ≠ js "__proto__"
  agrees : ∀ entry ∈ summary, Reports entry.1 entry.2 w

/-! ### Commands -/

/-- What each event still to be decided is known to be. -/
def Stays (env : Environment D) (limit : Nat) (mine : AttemptParams → Prop)
    (known : StoredEvent → Store → Prop) : Prop :=
  ∀ e event (w : World D env.net) op reply w', op.Owes limit mine e w → event.eventId ≠ e →
    step env w op reply w' → known event w.store → known event w'.store

theorem stays_listed : Stays env limit mine Listed := by
  rintro e event w op reply w' owes other moved ⟨row, mem, rfl⟩
  exact ⟨row, owes.elsewhere moved mem other, rfl⟩

theorem stays_true : Stays env limit mine fun _ _ => True := fun _ _ _ _ _ _ _ _ _ _ => trivial

theorem stays_within : Stays env limit mine fun event store =>
    event.attempts < limit → store.Within mine event.eventId :=
  fun _ _ _ _ _ _ owes _ moved within more => owes.within moved (within more)

/-- The events of a list: those decided, and those that are left. -/
structure Batch (known : StoredEvent → Store → Prop) (kept : World D env.net → Prop)
    (done : List (StoredEvent × JsString × Outcome)) (rest : List StoredEvent)
    (w : World D env.net) : Prop where
  journal : Journal w.store
  kept : kept w
  done : ∀ entry ∈ done, entry.2.1 = entry.1.eventId ∧ Reports entry.1.eventId entry.2.2 w
  rest : ∀ event ∈ rest, Listed event w.store ∧ known event w.store

section Batch

variable {moves : World D env.net → (op : Op) → Except Thrown op.Reply → World D env.net → Prop}
  {asks : JsString → World D env.net → Op → Prop}
  {name : JsString} {decide : StoredEvent → Work Outcome} {events : List StoredEvent}
  {known : StoredEvent → Store → Prop} {kept : World D env.net → Prop}
  (orderly : ∀ w op reply w', moves w op reply w' → Orderly env w op reply w')
  (owes : ∀ e w op, asks e w op → op.Owes limit mine e w)
  (distinct : (events.map StoredEvent.eventId).Nodup) (stays : Stays env limit mine known)
  (keeps : ∀ event ∈ events, ∀ w op reply w', asks event.eventId w op → kept w →
    moves w op reply w' → kept w')

include orderly owes distinct stays keeps

/-- Work on one event leaves the others as they are. -/
theorem Batch.step {done : List (StoredEvent × JsString × Outcome)} {event : StoredEvent}
    {rest : List StoredEvent} {op : Op} {reply : Except Thrown op.Reply}
    (batch : Batch known kept done rest w) (whole : done.map Prod.fst ++ event :: rest = events)
    (asked : asks event.eventId w op) (moved : moves w op reply w') :
    Batch known kept done rest w' := by
  have ids : ((done.map Prod.fst).map StoredEvent.eventId ++
      event.eventId :: rest.map StoredEvent.eventId).Nodup := by
    rw [← List.map_cons, ← List.map_append, whole]
    exact distinct
  obtain ⟨_, later, apart⟩ := List.nodup_append.mp ids
  have owing := owes _ _ _ asked
  have stepped := orderly _ _ _ _ moved
  refine ⟨stepped.2.2, keeps event ?_ w op reply w' asked batch.kept moved, fun entry mem => ?_,
    fun other mem => ?_⟩
  · rw [← whole]
    exact List.mem_append_right _ List.mem_cons_self
  · obtain ⟨named, row, inRows, id, status⟩ := batch.done entry mem
    have here : entry.1.eventId ≠ event.eventId := apart _
      (List.mem_map_of_mem (List.mem_map_of_mem mem)) _ List.mem_cons_self
    exact ⟨named, row, owing.elsewhere stepped.2.1 inRows (id ▸ here), id, status⟩
  · obtain ⟨listed, knows⟩ := batch.rest other mem
    have here : other.eventId ≠ event.eventId := fun same =>
      (List.nodup_cons.mp later).1 (same ▸ List.mem_map_of_mem mem)
    exact ⟨stays_listed _ other w op reply w' owing here stepped.2.1 listed,
      stays _ other w op reply w' owing here stepped.2.1 knows⟩

/-- One event after the other is decided and reported. -/
theorem asking_batch
    (notes : ∀ e, Notes fun op => ∀ w, op.Owes limit mine e w → asks e w op)
    (one : ∀ event ∈ events, ∀ w : World D env.net, Journal w.store → kept w → Listed event w.store →
      known event w.store → Interaction.Safe moves (asks event.eventId) (decide event)
        (Reports event.eventId) (fun _ _ => True) w)
    (start : Batch known kept [] events w) :
    Interaction.Safe moves (fun w op => ∃ e, asks e w op)
      (WorkerOptions.batch name decide events)
      (fun summary w' => Journal w'.store ∧ kept w' ∧ Summarizes events summary w')
      (fun _ _ => False) w := by
  unfold WorkerOptions.batch
  let inv (done : List (StoredEvent × JsString × Outcome)) (rest : List StoredEvent)
      (w : World D env.net) : Prop :=
    done.map Prod.fst ++ rest = events ∧ Batch known kept done rest w
  have begins : inv [] events w := ⟨rfl, start⟩
  refine Interaction.Safe.bind (Interaction.safe_each_done ?_ begins) fun outcomes w told => ?_
  · rintro done event rest w ⟨whole, batch⟩
    have mem : event ∈ events := by
      rw [← whole]
      exact List.mem_append_right _ List.mem_cons_self
    obtain ⟨listed, knows⟩ := batch.rest event List.mem_cons_self
    have aside : Batch known kept done rest w :=
      ⟨batch.journal, batch.kept, batch.done, fun other inRest =>
        batch.rest other (List.mem_cons_of_mem _ inRest)⟩
    have decided := asking_decided orderly (notes event.eventId) name
      (listed.named batch.journal) listed (one event mem w batch.journal batch.kept listed knows)
    have both := Interaction.Safe.keeps decided (fun w op reply w' asked (aside : Batch known kept done
      rest w) moved => aside.step orderly owes distinct stays keeps whole asked moved) aside
    refine Interaction.Safe.bind ((both.guard_mono fun _ _ asked => ⟨_, asked.1⟩).mono
      (fun _ _ both => both) fun _ _ never => never.1) fun outcome w told => ?_
    obtain ⟨reports, aside⟩ := told
    refine ⟨by rw [List.map_append, List.append_assoc]; exact whole, aside.journal, aside.kept,
      fun entry inDone => ?_, aside.rest⟩
    rcases List.mem_append.mp inDone with before | now
    · exact aside.done entry before
    · rw [List.mem_singleton.mp now]
      exact ⟨rfl, reports⟩
  · obtain ⟨told, rfl, rfl, whole, ended⟩ := told
    have ids : (told.map Prod.snd).map Prod.fst = (told.map Prod.fst).map StoredEvent.eventId := by
      rw [List.map_map, List.map_map]
      exact List.map_congr_left fun entry mem => (ended.done entry mem).1
    have all : (told.map Prod.snd).foldl (fun summary reported =>
        WorkerOptions.report summary reported.1 reported.2) [] =
          (told.map Prod.snd).filter fun entry => entry.1 ≠ js "__proto__" := by
      rw [foldl_report _ [] (by rw [List.nil_append, ids]; exact distinct), List.nil_append]
    refine ⟨ended.journal, ended.kept, ?_, ?_⟩
    · rw [all, ← ids]
      simp only [List.filter_map]
      rfl
    · rw [all]
      intro entry mem
      obtain ⟨source, inTold, rfl⟩ := List.mem_map.mp (List.mem_filter.mp mem).1
      obtain ⟨same, reports⟩ := ended.done source inTold
      rwa [same]

omit orderly owes keeps in
/-- The same of parts that only owe what they ask. -/
theorem careful_batch
    (keeps : ∀ event ∈ events, ∀ w op reply w', op.Owes limit mine event.eventId w → kept w →
      Orderly env w op reply w' → kept w')
    (one : ∀ event ∈ events, ∀ w : World D env.net, Journal w.store → Listed event w.store →
      known event w.store → Careful env limit mine event.eventId (decide event)
        (Reports event.eventId) (fun _ _ => True) w)
    (start : Batch known kept [] events w) :
    Interaction.Safe (Orderly env) (fun w op => ∃ e, op.Owes limit mine e w)
      (WorkerOptions.batch name decide events)
      (fun summary w' => Journal w'.store ∧ kept w' ∧ Summarizes events summary w')
      (fun _ _ => False) w := by
  have notes (e : JsString) : Notes fun op =>
      ∀ w : World D env.net, op.Owes limit mine e w → op.Owes limit mine e w :=
    ⟨⟨fun _ _ _ _ owes => owes, fun _ owes => owes, fun _ _ owes => owes⟩, fun _ _ owes => owes,
      fun _ _ _ owes => owes⟩
  exact asking_batch (fun _ _ _ _ moved => moved) (fun _ _ _ owes => owes) distinct stays keeps notes
    (fun event mem w journal _ listed knows => one event mem w journal listed knows) start

end Batch

/-- Read the events of a status. -/
theorem careful_eventsWithStatus (status : EventStatus) (count : Option Nat) (w : World D env.net) :
    Interaction.Safe (Orderly env) (fun w op => ∃ e, op.Owes limit mine e w)
      (call (.eventsWithStatus status count))
      (fun events w' => w.store.Queues w'.store ∧ Journal w'.store ∧
        (events.map StoredEvent.eventId).Nodup ∧
        ∀ event ∈ events, Listed event w'.store ∧ event.status = status) (fun _ _ => False) w := by
  have read : Careful env limit mine [] (call (.eventsWithStatus status count))
      (fun events w' => w.store.Queues w'.store ∧ Journal w'.store ∧
        (events.map StoredEvent.eventId).Nodup ∧
        ∀ event ∈ events, Listed event w'.store ∧ event.status = status) (fun _ _ => False) w := by
    refine careful_call trivial (fun events w' _ read queues journal => ?_)
      fun _ _ failed => nomatch failed
    obtain rfl := Except.ok.inj read
    refine ⟨queues, journal, Store.nodup_eventsWithStatus _ _ _, fun event mem => ?_⟩
    obtain ⟨row, inRows, same, isStatus⟩ := Store.mem_eventsWithStatus mem
    refine ⟨⟨row, queues.events row inRows, same⟩, ?_⟩
    rw [← same]
    exact isStatus
  exact read.guard_mono fun _ _ owes => ⟨_, owes⟩

/-- The last outcome reported of an event. -/
def WorkerOptions.RunSummary.last (summary : WorkerOptions.RunSummary) (eventId : JsString) : Option Outcome :=
  ((summary.settled ++ summary.resolved).find? fun reported => reported.1 = eventId).map Prod.snd

/-- The last outcome of every listed event, but `__proto__`, is the one the store
holds. -/
structure Summarized (inFlight pending : List StoredEvent) (summary : WorkerOptions.RunSummary)
    (w : World D env.net) : Prop where
  each : ∀ event ∈ inFlight ++ pending, event.eventId ≠ js "__proto__" →
    ∃ outcome, summary.last event.eventId = some outcome ∧ Reports event.eventId outcome w
  proto : summary.last (js "__proto__") = none

theorem Summarizes.mem_iff {events : List StoredEvent} {summary : List (JsString × Outcome)}
    (summarizes : Summarizes events summary w) {id : JsString} :
    (∃ outcome, (id, outcome) ∈ summary) ↔ id ∈ events.map StoredEvent.eventId ∧ id ≠ js "__proto__" := by
  have ids : id ∈ summary.map Prod.fst ↔ ∃ outcome, (id, outcome) ∈ summary := by simp
  rw [← ids, summarizes.each, List.mem_filter, decide_eq_true_eq]

/-- An event settled last is reported by its settling, any other by its
resolving. -/
theorem summarized_of_batches {inFlight pending : List StoredEvent}
    {resolved settled : List (JsString × Outcome)} {before : World D env.net}
    (first : Summarizes inFlight resolved before) (second : Summarizes pending settled w)
    (kept : ∀ entry ∈ resolved, entry.1 ∉ pending.map StoredEvent.eventId → Reports entry.1 entry.2 w) :
    Summarized inFlight pending ⟨resolved, settled⟩ w := by
  refine ⟨fun event mem other => ?_, ?_⟩
  · have reported : ∃ entry ∈ settled ++ resolved, entry.1 = event.eventId := by
      rcases List.mem_append.mp mem with inFirst | inSecond
      · obtain ⟨outcome, inside⟩ := first.mem_iff.mpr ⟨List.mem_map_of_mem inFirst, other⟩
        exact ⟨_, List.mem_append_right _ inside, rfl⟩
      · obtain ⟨outcome, inside⟩ := second.mem_iff.mpr ⟨List.mem_map_of_mem inSecond, other⟩
        exact ⟨_, List.mem_append_left _ inside, rfl⟩
    obtain ⟨entry, found⟩ := Option.isSome_iff_exists.mp (List.find?_isSome.mpr
      (by simpa using reported : ∃ entry ∈ settled ++ resolved,
        decide (entry.1 = event.eventId) = true))
    have here : entry.1 = event.eventId := by simpa using List.find?_some found
    refine ⟨entry.2, by rw [WorkerOptions.RunSummary.last, found]; rfl, ?_⟩
    rw [← here]
    by_cases settledLast : event.eventId ∈ pending.map StoredEvent.eventId
    · obtain ⟨outcome, inside⟩ := second.mem_iff.mpr ⟨settledLast, other⟩
      have front : (settled.find? fun reported => reported.1 = event.eventId).isSome := by
        rw [List.find?_isSome]
        exact ⟨_, inside, by simp⟩
      rw [List.find?_append, Option.or_of_isSome front] at found
      exact second.agrees entry (List.mem_of_find?_eq_some found)
    · rcases List.mem_append.mp (List.mem_of_find?_eq_some found) with inSettled | inResolved
      · exact second.agrees entry inSettled
      · exact kept entry inResolved (here ▸ settledLast)
  · rw [WorkerOptions.RunSummary.last, Option.map_eq_none_iff, List.find?_eq_none]
    intro entry mem
    have other : entry.1 ≠ js "__proto__" := by
      rcases List.mem_append.mp mem with inside | inside
      · exact (second.mem_iff.mp ⟨entry.2, inside⟩).2
      · exact (first.mem_iff.mp ⟨entry.2, inside⟩).2
    simpa using other

/-- A run that also tells which events it listed. -/
def WorkerOptions.runListing (H : Host) (sign : Signer) (options : WorkerOptions) (count : Option Nat) :
    Work (List StoredEvent × List StoredEvent × RunSummary) := do
  let inFlight ← call (.eventsWithStatus .inFlight none)
  let resolved ← batch (js "resolve") (fun event => options.resolve H event.eventId) inFlight
  let pending ← call (.eventsWithStatus .pending count)
  let settled ← batch (js "settle") (options.settle H sign) pending
  pure (inFlight, pending, ⟨resolved, settled⟩)

theorem WorkerOptions.run_eq (H : Host) (sign : Signer) (count : Option Nat) :
    options.run H sign count = options.runListing H sign count >>= fun told => pure told.2.2 := by
  simp only [run, runListing, Interaction.bind_assoc]
  rfl

/-- The events listed to be settled, where they may be attempted again, were
attempted only so. -/
def Minds {net : Network} (limit : Nat) (mine : AttemptParams → Prop) (w : World D net) (op : Op) :
    Prop :=
  ∀ count, op = .store (.eventsWithStatus .pending count) →
    ∀ event ∈ w.store.eventsWithStatus .pending count, event.attempts < limit →
      w.store.Within mine event.eventId

/-- A step of a worker that is handed only such events. -/
def Minded (env : Environment D) (limit : Nat) (mine : AttemptParams → Prop) (w : World D env.net)
    (op : Op) (reply : Except Thrown op.Reply) (w' : World D env.net) : Prop :=
  step env w op reply w' ∧ Minds limit mine w op

/-- A step of such a worker, with the journal kept before and after it. -/
def Diligent (env : Environment D) (limit : Nat) (mine : AttemptParams → Prop) (w : World D env.net)
    (op : Op) (reply : Except Thrown op.Reply) (w' : World D env.net) : Prop :=
  Journal w.store ∧ Minded env limit mine w op reply w' ∧ Journal w'.store

theorem Diligent.orderly {op : Op} {reply : Except Thrown op.Reply}
    (diligent : Diligent env limit mine w op reply w') : Orderly env w op reply w' :=
  ⟨diligent.1, diligent.2.1.1, diligent.2.2⟩

/-- Read the events to be settled. -/
theorem diligent_pending (count : Option Nat) (w : World D env.net) :
    Interaction.Safe (Diligent env limit mine) (fun w op => ∃ e, op.Owes limit mine e w)
      (call (.eventsWithStatus .pending count))
      (fun events w' => (w.store.Queues w'.store ∧ Journal w'.store ∧
        (events.map StoredEvent.eventId).Nodup ∧
        ∀ event ∈ events, Listed event w'.store ∧ event.status = .pending) ∧
        ∀ event ∈ events, event.attempts < limit → w.store.Within mine event.eventId)
      (fun _ _ => False) w := by
  have owes : (Op.store (.eventsWithStatus .pending count)).Owes limit mine [] w := trivial
  have minds : Interaction.Safe (Diligent env limit mine) (fun w op => ∃ e, op.Owes limit mine e w)
      (call (.eventsWithStatus .pending count)) (fun events _ =>
        ∀ event ∈ events, event.attempts < limit → w.store.Within mine event.eventId)
      (fun _ _ => True) w := by
    refine Interaction.safe_perform.mpr ⟨⟨_, owes⟩, fun events w' moved => ?_, fun _ _ _ => trivial⟩
    obtain ⟨_, ⟨⟨_, ⟨read, _⟩, _⟩, minds⟩, _⟩ := moved
    obtain rfl := Except.ok.inj read
    exact minds count rfl
  refine (Interaction.Safe.and ((careful_eventsWithStatus .pending count w).step_mono ?_) minds).mono
    (fun _ _ both => both) fun _ _ both => both.1
  exact fun _ _ _ _ diligent => diligent.orderly

include here in
theorem diligent_runListing (sign : Signer) (count : Option Nat) (w : World D env.net) :
    Interaction.Safe (Diligent env options.attemptLimit mine)
      (fun w op => ∃ e, op.Owes options.attemptLimit mine e w)
      (options.runListing env.host sign count)
      (fun told w' => Summarized told.1 told.2.1 told.2.2 w') (fun _ _ => False) w := by
  have orderly (w : World D env.net) (op : Op) (reply : Except Thrown op.Reply) (w' : World D env.net)
      (diligent : Diligent env options.attemptLimit mine w op reply w') : Orderly env w op reply w' :=
    diligent.orderly
  unfold WorkerOptions.runListing
  refine Interaction.Safe.bind ((careful_eventsWithStatus .inFlight none w).step_mono orderly)
    fun inFlight w' told => ?_
  obtain ⟨_, journal', distinct, listed⟩ := told
  have start : Batch (fun _ _ => True) (fun _ : World D env.net => True) [] inFlight w' :=
    ⟨journal', trivial, (fun _ mem => nomatch mem), fun event mem => ⟨(listed event mem).1, trivial⟩⟩
  refine Interaction.Safe.bind ((careful_batch distinct stays_true (fun _ _ _ _ _ _ _ _ _ => trivial)
    (fun event _ w journal listed _ => careful_resolve here (listed.named journal) w)
    start).step_mono orderly) fun resolved w told => ?_
  obtain ⟨_, _, first⟩ := told
  refine Interaction.Safe.bind (diligent_pending count w) fun pending w' told => ?_
  obtain ⟨⟨queues, journal', distinct, listed⟩, within⟩ := told
  have start : Batch (fun event store => event.attempts < options.attemptLimit →
        store.Within mine event.eventId)
      (fun w : World D env.net => ∀ entry ∈ resolved, entry.1 ∉ pending.map StoredEvent.eventId →
        Reports entry.1 entry.2 w) [] pending w' :=
    ⟨journal', fun entry mem _ => queues.standing (first.agrees entry mem),
      (fun _ mem => nomatch mem),
      fun event mem => ⟨(listed event mem).1, fun more => queues.within (within event mem more)⟩⟩
  refine Interaction.Safe.bind ((careful_batch distinct stays_within
    (fun event mem w op reply w' owes kept moved entry inResolved apart => ?_)
    (fun event mem w journal listed' within =>
      careful_settle here sign journal listed' (listed event mem).2 within) start).step_mono orderly)
    fun settled w told => ?_
  · obtain ⟨row, inRows, id, status⟩ := kept entry inResolved apart
    refine ⟨row, owes.elsewhere moved.2.1 inRows fun same => apart ?_, id, status⟩
    rw [← id, same]
    exact List.mem_map_of_mem mem
  · exact summarized_of_batches first told.2.2 told.2.1

include here in
/-- Every command owes the events it works on. -/
theorem diligent_work (sign : Signer) (action : Action) (w : World D env.net) :
    Interaction.Safe (Diligent env options.attemptLimit mine)
      (fun w op => ∃ e, op.Owes options.attemptLimit mine e w)
      (Command.work env.host sign ⟨options, action⟩) (fun _ _ => True) (fun _ _ => True) w := by
  have careful {α : Type} {program : Work α} {e : JsString}
      (safe : Careful env options.attemptLimit mine e program (fun _ _ => True) (fun _ _ => True) w) :
      Interaction.Safe (Diligent env options.attemptLimit mine)
        (fun w op => ∃ e, op.Owes options.attemptLimit mine e w) program (fun _ _ => True)
        (fun _ _ => True) w :=
    (safe.step_mono fun _ _ _ _ diligent => Diligent.orderly diligent).guard_mono
      fun _ _ owes => ⟨_, owes⟩
  cases action with
  | run count =>
      have ran : Interaction.Safe (Diligent env options.attemptLimit mine)
          (fun w op => ∃ e, op.Owes options.attemptLimit mine e w)
          (options.run env.host sign count) (fun _ _ => True) (fun _ _ => True) w := by
        rw [WorkerOptions.run_eq]
        exact Interaction.Safe.bind ((diligent_runListing here sign count w).mono
          (fun _ _ told => told) fun _ _ never => never.elim) fun _ _ _ => trivial
      exact Interaction.Safe.bind ran fun _ _ _ => trivial
  | resolve eventId =>
      exact Interaction.Safe.bind (careful ((careful_resolve here rfl w).mono (fun _ _ _ => trivial)
        fun _ _ _ => trivial)) fun _ _ _ => trivial
  | recheck eventId =>
      exact Interaction.Safe.bind (careful ((careful_recheck here rfl w).mono (fun _ _ _ => trivial)
        fun _ _ _ => trivial)) fun _ _ _ => trivial

theorem Op.Owes.journal {op : Op} {reply : Except Thrown op.Reply} (owes : op.Owes limit mine e w)
    (journal : Journal w.store) (moved : step env w op reply w') : Journal w'.store := by
  refine Journal.queues ?_ moved.queues
  cases op with
  | store method => exact journal.of_apply owes
  | _ => exact journal

include here in
/-- The same, with the journal kept on the way. -/
theorem minded_work (sign : Signer) (action : Action) (journal : Journal w.store) :
    Interaction.Safe (Minded env options.attemptLimit mine)
      (fun w op => (∃ e, op.Owes options.attemptLimit mine e w) ∧ Journal w.store)
      (Command.work env.host sign ⟨options, action⟩) (fun _ w' => Journal w'.store)
      (fun _ w' => Journal w'.store) w := by
  refine (Interaction.Safe.within (diligent_work here sign action w)
    (fun w op reply w' owes journal moved => ?_) journal).mono
    (fun _ _ both => both.2) fun _ _ both => both.2
  obtain ⟨e, owes⟩ := owes
  exact owes.journal journal moved.1

theorem minded_of_step {op : Op} {reply : Except Thrown op.Reply} (moved : step env w op reply w') :
    Minded env limit (fun _ => True) w op reply w' :=
  ⟨moved, fun _ _ _ _ _ _ _ _ => trivial⟩

/-- Whatever the attempts were made with. -/
theorem safe_work (options : WorkerOptions) (sign : Signer) (action : Action)
    (journal : Journal w.store) :
    Interaction.Safe (step env)
      (fun w op => (∃ e, op.Owes options.attemptLimit (fun _ => True) e w) ∧ Journal w.store)
      (Command.work env.host sign ⟨options, action⟩) (fun _ w' => Journal w'.store)
      (fun _ w' => Journal w'.store) w := by
  have here (params : AttemptParams) (_ : options.Made params) : True := trivial
  exact (minded_work here sign action journal).step_mono fun _ _ _ _ => minded_of_step

theorem outside.cases (acted : outside env w w') : w.store.Queues w'.store ∨ ∃ eventId note,
    ((Method.setEventStatus eventId .needsAttention note).apply w.store).2.Queues w'.store := by
  rcases acted with passes | ⟨eventId, note, passes⟩
  · exact .inl (.of_enqueues passes.store)
  · exact .inr ⟨eventId, note, .of_enqueues passes.store⟩

theorem Journal.outside (journal : Journal w.store) (acted : outside env w w') : Journal w'.store := by
  rcases outside.cases acted with queues | ⟨eventId, note, queues⟩
  · exact journal.queues queues
  · have flags : (Method.setEventStatus eventId .needsAttention note).Owes 0 (fun _ => True)
        (column eventId) w.store := ⟨rfl, (nomatch ·)⟩
    exact (journal.of_apply flags).queues queues

/-! ### Every run -/

/-- What enqueuing keeps, and every method that is owed, holds in every store of a run,
beside the journal. -/
theorem Run.keeps {configured : WorkerOptions → Prop} {kept : Store → Prop}
    {start : World D env.net}
    (empty : kept .empty) (queues : ∀ store store', store.Queues store' → kept store → kept store')
    (applies : ∀ limit e store (method : Method), method.Owes limit (fun _ => True) e store →
      kept store → kept (method.apply store).2)
    (initial : start.Initial) (reached : Run env configured start w) :
    Journal w.store ∧ kept w.store := by
  let inv (w : World D env.net) : Prop := Journal w.store ∧ kept w.store
  have begins : inv start := by
    change Journal start.store ∧ kept start.store
    rw [initial.store]
    exact ⟨.empty, empty⟩
  have acts (w w' : World D env.net) (holds : inv w) (acted : outside env w w') : inv w' := by
    refine ⟨holds.1.outside acted, ?_⟩
    rcases outside.cases acted with queued | ⟨eventId, note, queued⟩
    · exact queues _ _ queued holds.2
    · have flags : (Method.setEventStatus eventId .needsAttention note).Owes 0 (fun _ => True)
          (column eventId) w.store := ⟨rfl, fun same => by cases same⟩
      exact queues _ _ queued (applies _ _ _ _ flags holds.2)
  have safe (process : Process configured) (w : World D env.net) (holds : inv w) :
      Interaction.Safe (step env) (fun w _ => inv w) (process.val.work env.host env.net.sign)
        (fun _ => inv) (fun _ => inv) w := by
    have worked := safe_work process.val.options env.net.sign process.val.action holds.1
    refine ((Interaction.Safe.keeps worked (fun w op reply w' owes holds moved => ?_) holds.2).guard_mono
      fun _ _ both => ⟨both.1.2, both.2⟩).mono (fun _ _ both => both) fun _ _ both => both
    obtain ⟨⟨e, owes⟩, _⟩ := owes
    refine queues _ _ (step.queues moved) ?_
    cases op with
    | store method => exact applies _ _ _ _ owes holds
    | _ => exact holds
  exact reached.invariant begins acts (fun _ _ held => held) safe

end Synxed.Studio
