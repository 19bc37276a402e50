import Synxed.Studio.Heeding

/-!
What an attempt was signed with was built for it.

This holds in every run, however the workers are configured and whatever the providers
answer.

* `Sends.uses_send`, `signing_settle`: a worker signs what it built for the attempt that it
  began.
* `Run.borne`: so every stored transaction was built for the attempt that carries it.
* `Borne.builtFor`: and a worker of the attempt's namespace knows it for its own.
-/

namespace Synxed.Studio

open Synxed.Lib Synxed.Program Synxed.Sdk

variable {D : Deployment} {env : Environment D} {w w' : World D env.net} {options : WorkerOptions}

/-- A worker with the parameters of the attempt builds the transaction for its request. -/
def StoredAttempt.Builds (H : Host) (attempt : StoredAttempt) (transaction : SignedTransaction) :
    Prop :=
  ∃ (options : WorkerOptions) (prepared : PreparedSettlementN), options.params = attempt.params ∧
    options.build H attempt.request = .ok prepared ∧
    transaction.instructions = prepared.transaction.map compile

/-- Every stored transaction was built for the attempt that carries it. -/
def Borne (env : Environment D) (w : World D env.net) : Prop :=
  ∀ attempt ∈ w.store.attemptRows.rows, ∀ text, attempt.rawTransaction = some text →
    ∃ raw transaction, text = base64Encode raw ∧ env.net.parse raw = some transaction ∧
      attempt.Builds env.host transaction

/-- An attempt is signed with what was built for it. -/
def Op.SignsBuilt (env : Environment D) (w : World D env.net) : Op → Prop
  | .store (.recordSigned eventId n _ text _) =>
      ∃ raw transaction, text = base64Encode raw ∧ env.net.parse raw = some transaction ∧
        ∀ attempt ∈ w.store.attemptRows.rows, (attempt.eventId, attempt.attempt) = (column eventId, n) →
          attempt.Builds env.host transaction
  | _ => True

/-! ### One step -/

namespace Borne

theorem apply {method : Method} (borne : Borne env w) (signs : (Op.store method).SignsBuilt env w) :
    ∀ attempt ∈ (method.apply w.store).2.attemptRows.rows, ∀ text,
      attempt.rawTransaction = some text → ∃ raw transaction, text = base64Encode raw ∧
        env.net.parse raw = some transaction ∧ attempt.Builds env.host transaction := by
  intro attempt mem text is
  cases Method.leaves mem with
  | kept old => exact borne attempt old text is
  | begun => cases is
  | signed old key prepared =>
      obtain ⟨raw, transaction, rfl, parsed, built⟩ := signs
      have built := built _ old key
      refine ⟨raw, transaction, ?_, parsed, built⟩
      exact (Option.some.inj is).symm.trans (toWellFormed_base64Encode raw)
  | marked old key => exact borne _ old text is
  | landed old key => exact borne _ old text is

theorem of_step {op : Op} {reply : Except Thrown op.Reply} (borne : Borne env w)
    (signs : op.SignsBuilt env w) (moved : step env w op reply w') : Borne env w' := by
  intro attempt mem
  rw [moved.queues.attempts] at mem
  cases op with
  | store method => exact borne.apply signs attempt mem
  | _ => exact borne attempt mem

theorem outside (borne : Borne env w) (acted : outside env w w') : Borne env w' := by
  intro attempt mem
  rcases outside.cases acted with queues | ⟨eventId, note, queues⟩
  · rw [queues.attempts] at mem
    exact borne attempt mem
  · rw [queues.attempts] at mem
    have signs : (Op.store (.setEventStatus eventId .needsAttention note)).SignsBuilt env w := trivial
    exact borne.apply signs attempt mem

/-- A worker of the attempt's namespace takes what it carries for a settlement of its own. -/
theorem builtFor (borne : Borne env w) {attempt : StoredAttempt}
    (mem : attempt ∈ w.store.attemptRows.rows) (made : options.Made attempt.params)
    (program : options.programId = D.programId) {raw : Bytes} (carries : attempt.Carries raw)
    {transaction : SignedTransaction} (parsed : env.net.parse raw = some transaction) :
    BuiltFor D env.host options.ns (WorkerOptions.storedRequest attempt) transaction := by
  obtain ⟨raw', transaction', same, parsed', maker, prepared, params, built, compiled⟩ :=
    borne attempt mem _ carries
  have carries' : attempt.Carries raw' := carries.trans (congrArg some same)
  obtain rfl := carries.unique carries'
  obtain rfl := Option.some.inj (parsed'.symm.trans parsed)
  obtain ⟨programText, nsText⟩ := made
  rw [← params] at programText nsText
  exact ⟨maker, prepared, (toBase58_injective programText).trans program, toBase58_injective nsText,
    params, built, compiled⟩

end Borne

/-! ### Settling -/

/-- A part of the worker signs what it built. -/
abbrev Signing {α : Type} (env : Environment D) (program : Work α) (post : α → World D env.net → Prop)
    (w : World D env.net) : Prop :=
  Interaction.Safe (step env) (fun w op => op.SignsBuilt env w) program post (fun _ _ => True) w

theorem signing_nothing {α : Type} {program : Work α} (uses : program.Uses Op.SignsNothing) :
    Signing env program (fun _ _ => True) w := by
  refine Interaction.Safe.of_uses uses (fun w op nothing _ => ?_) (fun _ _ _ _ _ _ _ => trivial) trivial
  cases op with
  | store method =>
      cases method with
      | recordSigned eventId attempt signature raw lastValid => exact nothing.elim
      | _ => trivial
  | _ => trivial

theorem signsNothing_sends : Sends Op.SignsNothing where
  toDecides := signsNothing_decides
  sends _ := trivial

/-- A new attempt is of the worker's own making. -/
theorem signing_beginAttempt {eventId : JsString} {request : SettlementRequestN} :
    Signing env (call (.beginAttempt eventId request options.params))
      (fun n w' => ∀ attempt ∈ w'.store.attemptRows.rows,
        (attempt.eventId, attempt.attempt) = (column eventId, n) →
          WorkerOptions.storedRequest attempt = ⟨request, options.params⟩) w := by
  refine Interaction.safe_perform.mpr ⟨trivial, fun n w' moved attempt mem key => ?_, fun _ _ _ => trivial⟩
  have sameRows := moved.queues.attempts
  obtain ⟨middle, ⟨wrote, _⟩, _⟩ := moved
  cases done : w.store.beginAttempt eventId request options.params with
  | error error => simp [Method.apply, done] at wrote
  | ok result =>
      obtain ⟨number, store'⟩ := result
      simp only [Method.apply, done, Except.ok.injEq] at wrote
      subst wrote
      obtain ⟨row, inRows, id, number, same, made, _⟩ := prepared_of_beginAttempt done
      have inLater : row ∈ w'.store.attemptRows.rows := by
        rw [sameRows]
        simpa only [Op.after, Method.apply, done] using inRows
      obtain rfl : attempt = row :=
        List.inj_on_of_nodup_map w'.store.attemptRows.unique mem inLater (by rw [key, id, number])
      rw [WorkerOptions.storedRequest, same, made]

theorem signing_settle (event : StoredEvent) :
    Signing env (options.settle env.host env.net.sign event) (fun _ _ => True) w := by
  unfold WorkerOptions.settle
  split
  · exact signing_nothing (Interaction.uses_bind (uses_call trivial) fun _ => Interaction.uses_pure)
  have latest : Signing env (Interaction.result ((connectionTo .primary).request .getLatestBlockhash))
      (fun _ _ => True) w :=
    signing_nothing (Interaction.uses_result (signsNothing_decides.uses_request _ _ trivial))
  refine Interaction.Safe.bind latest fun latest w _ => ?_
  cases latest with
  | error error =>
      exact signing_nothing (Interaction.uses_bind (uses_call trivial) fun _ =>
        Interaction.uses_bind (signsNothing_decides.uses_log _) fun _ => Interaction.uses_pure)
  | ok latest =>
      refine Interaction.Safe.bind signing_beginAttempt fun n w own => ?_
      split
      · exact signing_nothing (signsNothing_decides.uses_giveUp _ _ _)
      next prepared built =>
      split
      · exact signing_nothing (signsNothing_decides.uses_giveUp _ _ _)
      next signature raw signs =>
      obtain ⟨transaction, parsed, _, _, instructions⟩ := WorkerOptions.signed_parses signs
      have signed : Signing env (call (.recordSigned event.eventId n signature (base64Encode raw)
          latest.lastValidBlockHeight)) (fun _ _ => True) w := by
        refine Interaction.safe_perform.mpr ⟨⟨raw, transaction, rfl, parsed, fun attempt mem key => ?_⟩,
          fun _ _ _ => trivial, fun _ _ _ => trivial⟩
        have stored := own attempt mem key
        have request : attempt.request = event.request := congrArg StoredRequest.request stored
        have params : attempt.params = options.params := congrArg StoredRequest.params stored
        exact ⟨options, prepared, params.symm, request ▸ built, instructions⟩
      refine Interaction.Safe.bind signed fun _ w _ => ?_
      exact signing_nothing (Interaction.uses_bind (uses_ask trivial) fun _ =>
        Interaction.uses_bind (signsNothing_decides.uses_log _) fun _ =>
          signsNothing_sends.uses_send event n raw)

theorem signing_batch {name : JsString} {decide : StoredEvent → Work Outcome}
    (one : ∀ event w, Signing env (decide event) (fun _ _ => True) w) (events : List StoredEvent) :
    Signing env (WorkerOptions.batch name decide events) (fun _ _ => True) w := by
  have each : Signing env (Interaction.each (fun event => do
      let outcome ← try decide event
        catch error => WorkerOptions.contain event.eventId (name ++ js " failed: " ++ error.text)
      pure (event.eventId, outcome)) events) (fun _ _ => True) w := by
    refine Interaction.safe_each_keeps (fun event w _ => ?_) events trivial
    refine Interaction.Safe.bind (Interaction.Safe.tryCatch (one event w) fun error w _ => ?_)
      fun _ _ (_ : True) => trivial
    exact signing_nothing (signsNothing_decides.uses_contain _ _)
  exact Interaction.Safe.bind each fun _ _ _ => trivial

theorem signing_run (count : Option Nat) :
    Signing env (options.run env.host env.net.sign count) (fun _ _ => True) w := by
  unfold WorkerOptions.run
  refine Interaction.Safe.bind (signing_nothing (uses_call trivial)) fun inFlight w _ => ?_
  refine Interaction.Safe.bind (signing_batch (fun event w =>
    signing_nothing (signsNothing_decides.uses_resolve event.eventId)) inFlight) fun _ w _ => ?_
  refine Interaction.Safe.bind (signing_nothing (uses_call trivial)) fun pending w _ => ?_
  exact Interaction.Safe.bind (signing_batch (fun event _ => signing_settle event) pending)
    fun _ _ _ => trivial

theorem signing_work (action : Action) :
    Signing env (Command.work env.host env.net.sign ⟨options, action⟩) (fun _ _ => True) w := by
  cases action with
  | run count => exact Interaction.Safe.bind (signing_run count) fun _ _ _ => trivial
  | resolve eventId =>
      exact Interaction.Safe.bind (signing_nothing (signsNothing_decides.uses_resolve eventId))
        fun _ _ _ => trivial
  | recheck eventId =>
      exact Interaction.Safe.bind (signing_nothing (signsNothing_decides.uses_recheck eventId))
        fun _ _ _ => trivial

/-! ### Every run -/

theorem Run.borne {configured : WorkerOptions → Prop} {start : World D env.net}
    (initial : start.Initial) (reached : Run env configured start w) : Borne env w := by
  have begins : Borne env start := by
    unfold Borne
    rw [initial.store]
    exact fun attempt mem => absurd mem List.not_mem_nil
  have safe (process : Process configured) (w : World D env.net) (borne : Borne env w) :
      Interaction.Safe (step env) (fun w _ => Borne env w) (process.val.work env.host env.net.sign)
        (fun _ => Borne env) (fun _ => Borne env) w := by
    have signs : Signing env (process.val.work env.host env.net.sign) (fun _ _ => True) w :=
      signing_work process.val.action
    exact ((Interaction.Safe.keeps signs (fun _ _ _ _ signs borne moved => borne.of_step signs moved)
      borne).guard_mono fun _ _ both => both.2).mono (fun _ _ both => both.2) fun _ _ both => both.2
  exact reached.invariant begins (fun _ _ borne acted => borne.outside acted)
    (fun _ _ borne => borne) safe

end Synxed.Studio
