import Synxed.Sdk.Endpoint
import Synxed.Sdk.OwnSettlement
import Synxed.Studio.Creation
import Synxed.Studio.OneLive
import Synxed.Studio.Second

/-!
A quiet moment: the providers stand still, and answer at once with all they have.

Safety never needs such a moment. Progress does: an event is decided once its
attempts have come to rest and the providers can be asked.

* `Prompt`: a step in a quiet moment.
* `StoredAttempt.AtRest`: an attempt that is not waited for.
* `Evident`: a settlement that can be shown.
* `prompted_mayStillLand`, `prompted_search`, `prompted_reconcile`: what the parts of
  the worker come to.
-/

namespace Synxed.Studio

open Synxed.Lib Synxed.Program Synxed.Sdk

variable {D : Deployment}

/-! ### Quiet moments -/

namespace Cluster

/-- What an endpoint that is up to date says of a signature. -/
def statusOf (view : Cluster D) (signature : JsString) : Option SignatureStatus :=
  match view.finalizedLedger.find? fun landing => landing.transaction.id = signature with
  | some landing => some ⟨some .finalized, landing.error⟩
  | none => (view.ledger.find? fun landing => landing.transaction.id = signature).map
      fun landing => ⟨some .confirmed, landing.error⟩

end Cluster

/-- There is nothing to wait for: its transaction is finalized, or it never landed and its
blockhash is too old. -/
def StoredAttempt.AtRest (attempt : StoredAttempt) (view : Cluster D) : Prop :=
  attempt.status = .signed → ∀ signature, attempt.signature = some signature →
    (∃ landing ∈ view.finalizedLedger, landing.transaction.id = signature) ∨
      (∀ landing ∈ view.ledger, landing.transaction.id ≠ signature) ∧
        ∀ lastValid, attempt.lastValidBlockHeight = some lastValid → lastValid < view.height

/-- An endpoint answers from the chain it sees, and the rest from an archive. -/
def Served (archive : Archive) (cluster : LedgerCluster) (view : Cluster D) :
    (call : Rpc) → Except Thrown call.Answer → Prop
  | .getGenesisHash, reply => reply = .ok (GENESIS_HASHES cluster)
  | .getAccountInfo address, reply => reply = .ok (existing (view.accounts address))
  | .getBlockHeight, reply => reply = .ok view.height
  | .getSignatureStatuses signature, reply => reply = .ok (view.statusOf signature)
  | call, reply => archive.Answers call reply

/-- Every provider answers at once, and the log does not throw. -/
def AtOnce {net : Network} (archive : Provider → Archive) (cluster : LedgerCluster)
    (w : World D net) : (op : Op) → Except Thrown op.Reply → Prop
  | .rpc provider call, reply => Served (archive provider) cluster (w.view provider) call reply
  | .log _, reply => reply = .ok ()
  | _, _ => True

section Prompt

variable (env : Environment D) (archive : Provider → Archive) (cluster : LedgerCluster)

/-- A step in a quiet moment. -/
structure Prompt (w : World D env.net) (op : Op) (reply : Except Thrown op.Reply)
    (w' : World D env.net) : Prop where
  moved : step env w op reply w'
  atOnce : AtOnce archive cluster w op reply
  still : w'.view = w.view

/-- A step in a quiet moment, with the files of the event `e` in order before and after it. -/
def Promptly (ns : Pubkey) (e : JsString) (w : World D env.net) (op : Op)
    (reply : Except Thrown op.Reply) (w' : World D env.net) : Prop :=
  FiledFor D ns e w.store ∧ Prompt env archive cluster w op reply w' ∧ FiledFor D ns e w'.store

/-- A part of the worker in a quiet moment. It throws only if `thrown`. -/
abbrev PromptedOr (ns : Pubkey) (e : JsString) {α : Type} (program : Work α) (post : α → World D env.net → Prop)
    (thrown : Prop) (w : World D env.net) : Prop :=
  Interaction.Safe (Promptly env archive cluster ns e) (fun _ _ => True) program post (fun _ _ => thrown) w

/-- The same, where it does not throw. -/
abbrev Prompted (ns : Pubkey) (e : JsString) {α : Type} (program : Work α) (post : α → World D env.net → Prop)
    (w : World D env.net) : Prop :=
  PromptedOr env archive cluster ns e program post False w

end Prompt

variable {env : Environment D} {archive : Provider → Archive} {cluster : LedgerCluster} {ns : Pubkey}
  {e : JsString} {w w' : World D env.net} {α : Type}

/-! ### Rules -/

/-- After a part that does not throw, only the rest may. -/
theorem Prompted.then {β : Type} {program : Work α} {rest : α → Work β}
    {middle : α → World D env.net → Prop} {post : β → World D env.net → Prop} {thrown : Prop}
    (first : Prompted env archive cluster ns e program middle w)
    (second : ∀ value w', middle value w' →
      PromptedOr env archive cluster ns e (rest value) post thrown w') :
    PromptedOr env archive cluster ns e (program >>= rest) post thrown w :=
  Interaction.Safe.bind (first.mono (fun _ _ ended => ended) fun _ _ failed => failed.elim) second

/-- What plain operations keep is kept beside what a part comes to, and the views are. -/
theorem Prompted.kept {program : Work α} {post : α → World D env.net → Prop}
    {kept : World D env.net → Prop} (safe : Prompted env archive cluster ns e program post w)
    (uses : program.Uses Op.Plain) (unmoved : Unmoved env kept) (holds : kept w) :
    Prompted env archive cluster ns e program
      (fun value w' => post value w' ∧ kept w' ∧ w'.view = w.view) w := by
  have stays : Interaction.Safe (Promptly env archive cluster ns e) (fun _ _ => True) program
      (fun _ w' => kept w' ∧ w'.view = w.view) (fun _ w' => kept w' ∧ w'.view = w.view) w := by
    refine Interaction.Safe.of_uses uses (fun _ _ _ _ => trivial) ?_ ⟨holds, rfl⟩
    rintro middle op reply after plain ⟨held, still⟩ ⟨_, prompt, _⟩
    exact ⟨unmoved _ _ _ _ plain held prompt.moved, prompt.still.trans still⟩
  exact (safe.and stays).mono (fun _ _ both => both) fun _ _ both => both.1

/-- Ask a provider, where what it answers is known. -/
theorem prompted_request {provider : Provider} {call : Rpc} {answer : call.Answer}
    (served : ∀ reply, Served (archive provider) cluster (w.view provider) call reply →
      reply = .ok answer) :
    Prompted env archive cluster ns e ((connectionTo provider).request call)
      (fun told w' => told = answer ∧ w'.view = w.view) w := by
  refine Interaction.safe_perform.mpr ⟨trivial, ?_, ?_⟩
  · rintro told w' ⟨_, prompt, _⟩
    exact ⟨Except.ok.inj (served _ prompt.atOnce), prompt.still⟩
  · rintro error w' ⟨_, prompt, _⟩
    cases served _ prompt.atOnce

/-- Call a method of the store. -/
theorem prompted_call {method : Method} {post : method.Answer → World D env.net → Prop}
    (ended : ∀ answer w', FiledFor D ns e w.store → (method.apply w.store).1 = .ok answer →
      step env w (.store method) (.ok answer) w' → w'.view = w.view → post answer w')
    (succeeds : ∀ error, (method.apply w.store).1 ≠ .error error) :
    Prompted env archive cluster ns e (Studio.call method) post w := by
  refine Interaction.safe_perform.mpr ⟨trivial, ?_, ?_⟩
  · rintro answer w' ⟨filed, prompt, _⟩
    have ⟨middle, ⟨reply, _⟩, _⟩ := prompt.moved
    exact ended answer w' filed reply.symm prompt.moved prompt.still
  · rintro error w' ⟨_, prompt, _⟩
    have ⟨middle, ⟨reply, _⟩, _⟩ := prompt.moved
    exact absurd reply.symm (succeeds error)

theorem prompted_log {line : JsString} :
    Prompted env archive cluster ns e (Studio.log line) (fun _ _ => True) w := by
  refine Interaction.safe_perform.mpr ⟨trivial, fun _ _ _ => trivial, ?_⟩
  rintro error w' ⟨_, prompt, _⟩
  cases prompt.atOnce

/-! ### Reading the record -/

/-- What an endpoint shows of the record is what its chain holds. -/
theorem prompted_fetchSettlementRecord {provider : Provider} {seed : Bytes32}
    {found : Option SettlementRecordAccount}
    (read : readSettlementRecord D.programId (recordAddress D ns seed)
      (existing ((w.view provider).accounts (recordAddress D ns seed))) seed = .ok found) :
    Prompted env archive cluster ns e
      (fetchSettlementRecord env.host (connectionTo provider) D.programId ns seed)
      (fun told w' => told = found ∧ w'.view = w.view) w := by
  have derived : findSettlementRecordPda env.host D.programId ns seed.val =
      .ok (settlementPda env.host.addresses D.programId ns seed) :=
    findSettlementRecordPda_eq D.programId ns seed
  unfold fetchSettlementRecord
  rw [derived, called_ok, env.addresses]
  refine Interaction.Safe.bind (prompted_request fun _ served => served) fun account w' told => ?_
  obtain ⟨rfl, still⟩ := told
  change Prompted env archive cluster ns e (Interaction.ofExcept (protocolCall
    (readSettlementRecord D.programId (recordAddress D ns seed)
      (existing ((w.view provider).accounts (recordAddress D ns seed))) seed))) _ w'
  rw [read]
  exact ⟨rfl, still⟩

section ReadRecord

variable {options : WorkerOptions} (program : options.programId = D.programId)
  (sameNs : options.ns = ns) {seed : Bytes32}

include program sameNs

/-- A record that the primary sees is read. -/
theorem prompted_readRecord_present {account : SettlementRecordAccount}
    (read : readSettlementRecord D.programId (recordAddress D ns seed)
      (existing ((w.view .primary).accounts (recordAddress D ns seed))) seed = .ok (some account)) :
    Prompted env archive cluster ns e (options.readRecord env.host seed)
      (fun told _ => told = .present) w := by
  have asked : Prompted env archive cluster ns e (Interaction.result
      (fetchSettlementRecord env.host (connectionTo .primary) D.programId ns seed))
      (fun result _ => result = .ok (some account)) w := by
    refine Interaction.Safe.result (prompted_fetchSettlementRecord read) ?_ fun _ _ failed => failed.elim
    intro told w' both
    rw [both.1]
  unfold WorkerOptions.readRecord
  rw [program, sameNs]
  refine Interaction.Safe.bind asked fun result w' told => ?_
  subst told
  exact rfl

/-- A record that no provider sees is missing. -/
theorem prompted_readRecord_absent
    (read : ∀ provider, readSettlementRecord D.programId (recordAddress D ns seed)
      (existing ((w.view provider).accounts (recordAddress D ns seed))) seed = .ok none) :
    Prompted env archive cluster ns e (options.readRecord env.host seed)
      (fun told _ => told = .absent) w := by
  have asked (provider : Provider) (w' : World D env.net) (still : w'.view = w.view) :
      Prompted env archive cluster ns e (Interaction.result
        (fetchSettlementRecord env.host (connectionTo provider) D.programId ns seed))
        (fun result w'' => result = .ok none ∧ w''.view = w.view) w' := by
    have here := read provider
    rw [← still] at here
    refine Interaction.Safe.result (prompted_fetchSettlementRecord here) ?_ fun _ _ failed => failed.elim
    rintro _ w'' ⟨rfl, later⟩
    exact ⟨rfl, later.trans still⟩
  unfold WorkerOptions.readRecord
  rw [program, sameNs]
  refine Interaction.Safe.bind (asked .primary w rfl) fun result w' told => ?_
  obtain ⟨rfl, still⟩ := told
  dsimp only
  split
  · refine Interaction.Safe.bind (asked .second w' still) fun result w'' told => ?_
    obtain ⟨rfl, _⟩ := told
    exact rfl
  · exact rfl

end ReadRecord

/-! ### Attempts at rest -/

/-- An endpoint that is up to date knows a finalized transaction. -/
theorem Cluster.statusOf_finalized {view : Cluster D} {signature : JsString}
    (there : ∃ landing ∈ view.finalizedLedger, landing.transaction.id = signature) :
    ∃ landing ∈ view.finalizedLedger, landing.transaction.id = signature ∧
      view.statusOf signature = some ⟨some .finalized, landing.error⟩ := by
  unfold Cluster.statusOf
  cases found : view.finalizedLedger.find? fun landing => landing.transaction.id = signature with
  | none =>
      obtain ⟨landing, mem, id⟩ := there
      exact absurd id (by simpa using List.find?_eq_none.mp found landing mem)
  | some landing =>
      exact ⟨landing, List.mem_of_find?_eq_some found, by simpa using List.find?_some found, rfl⟩

theorem Cluster.statusOf_absent {view : Cluster D} {signature : JsString}
    (absent : ∀ landing ∈ view.ledger, landing.transaction.id ≠ signature) :
    view.statusOf signature = none := by
  have nowhere (ledger : List (Landing D)) (inside : ∀ landing ∈ ledger, landing ∈ view.ledger) :
      ledger.find? (fun landing => landing.transaction.id = signature) = none :=
    List.find?_eq_none.mpr fun landing mem => by simpa using absent landing (inside landing mem)
  unfold Cluster.statusOf
  rw [nowhere _ fun landing mem => Cluster.mem_of_mem_finalizedLedger mem,
    nowhere _ fun landing mem => mem]
  rfl

/-- Attempts at rest are not waited for. -/
theorem prompted_mayStillLand {view : Cluster D} :
    ∀ (height : Option Nat) (attempts : List StoredAttempt) (w : World D env.net),
      w.view .primary = view → (∀ read, height = some read → read = view.height) →
      (∀ attempt ∈ attempts, attempt.AtRest view) →
        Prompted env archive cluster ns e (WorkerOptions.mayStillLand false height attempts)
          (fun waiting _ => waiting = false) w
  | _, [], _, _, _, _ => rfl
  | height, attempt :: rest, w, sees, known, atRest => by
      have later (height : Option Nat) (w' : World D env.net) (still : w'.view = w.view)
          (known : ∀ read, height = some read → read = view.height) :=
        prompted_mayStillLand height rest w' (by rw [still, sees]) known
          fun other mem => atRest other (List.mem_cons_of_mem _ mem)
      have failed (w' : World D env.net) (still : w'.view = w.view) :
          Prompted env archive cluster ns e (do
            call (.setAttemptStatus attempt.eventId attempt.attempt .failed)
            WorkerOptions.mayStillLand false height rest) (fun waiting _ => waiting = false) w' := by
        have marked : Prompted env archive cluster ns e
            (Studio.call (.setAttemptStatus attempt.eventId attempt.attempt .failed))
            (fun _ w'' => w''.view = w.view) w' := by
          refine prompted_call ?_ ?_
          · intro _ w'' _ _ _ stays
            exact stays.trans still
          · intro error same
            cases same
        exact Interaction.Safe.bind marked fun _ w'' stays => later height w'' stays known
      unfold WorkerOptions.mayStillLand
      split
      · exact failed w rfl
      split
      · next signature isSigned signed =>
        refine Interaction.Safe.bind (prompted_request fun _ served => served) fun status w' told => ?_
        obtain ⟨rfl, still⟩ := told
        rw [sees]
        rcases atRest attempt List.mem_cons_self isSigned signature signed with final | ⟨absent, past⟩
        · obtain ⟨landing, _, _, status⟩ := Cluster.statusOf_finalized final
          rw [status]
          dsimp only
          rw [if_neg (by simp)]
          split
          · exact later height w' still known
          · rw [if_pos rfl]
            exact failed w' still
        · rw [Cluster.statusOf_absent absent]
          dsimp only
          have old (w' : World D env.net) (still : w'.view = w.view) :
              Prompted env archive cluster ns e (WorkerOptions.resend false attempt rest view.height)
                (fun waiting _ => waiting = false) w' := by
            have now (read : Nat) (same : some view.height = some read) : read = view.height :=
              (Option.some.inj same).symm
            unfold WorkerOptions.resend
            split
            · next lastValid raw last _ =>
              rw [if_neg (Nat.not_le.mpr (past lastValid last))]
              exact later (some view.height) w' still now
            · exact later (some view.height) w' still now
          cases height with
          | some read =>
              obtain rfl := known read rfl
              exact old w' still
          | none =>
              refine Interaction.Safe.bind (prompted_request fun _ served => served)
                fun read w'' told => ?_
              obtain ⟨rfl, stays⟩ := told
              rw [still, sees]
              exact old w'' (stays.trans still)
      · exact later height w rfl known

/-! ### Finding the creating transaction -/

/-- An endpoint that is served from an archive answers as the archive does. -/
theorem Served.answers {archive : Archive} {view : Cluster D} {call : Rpc}
    {reply : Except Thrown call.Answer} (served : Served archive cluster view call reply) :
    archive.Answers call reply := by
  cases call with
  | getSignaturesForAddress address limit before => exact served
  | getParsedTransaction signature => exact served
  | getParsedTransactions signatures => exact served
  | _ => exact trivial

/-- The event's settlement can be shown: the history of its record that the primary
serves has no other, and every provider shows the transaction. -/
structure Evident (archive : Provider → Archive) (view : Cluster D) (ns : Pubkey) (seed : Bytes32)
    (landing : Landing D) (history : List (Landing D)) : Prop where
  truthful : TruthfulHistory view (recordAddress D ns seed) (archive .primary) history
  inside : landing ∈ history
  succeeded : landing.error = none
  few : history.length < 5000
  only : ∀ other ∈ history, other.Contains ns seed → other = landing
  shown : ∀ provider, (archive provider).transaction landing.transaction.id = some landing.shown
  fits : MovesFit landing.executed
  dated : Dated landing.shown

namespace Evident

variable {view : Cluster D} {seed : Bytes32} {landing : Landing D} {history : List (Landing D)}

/-- The search for the creating transaction finds it. -/
theorem search (evident : Evident archive view ns seed landing history) (grown : view.Grown env.net)
    (settles : landing.SettlesTopLevel ns seed) :
    ∃ created, created.signature = landing.transaction.id ∧ created.topLevel = true ∧
      (findCreatingTransaction nodeConnection (recordAddress D ns seed) D.programId
        (settlesEvent ns seed) 5000).runWith (archive .primary).plain = .ok created := by
  obtain ⟨top, ran, settled⟩ := settles
  have contained : landing.Contains ns seed := by
    obtain ⟨instruction, mem, matching⟩ :=
      (Landing.settlesTopLevel_iff evident.succeeded).mp ⟨top, ran, settled⟩
    exact ⟨evident.succeeded, instruction, List.mem_append_left _ mem, matching⟩
  obtain ⟨created, found⟩ := Option.isSome_iff_exists.mp (Landing.isSome_found.mpr contained)
  obtain ⟨signature, _, topLevel⟩ := Landing.of_found found
  refine ⟨created, signature, ?_, ?_⟩
  · exact topLevel.mpr ((Landing.settlesTopLevel_iff evident.succeeded).mp ⟨top, ran, settled⟩)
  · rw [runWith_findCreatingTransaction (evident.truthful.complete_archive grown),
      evident.truthful.settlements_eq,
      filterMap_eq_singleton (evident.truthful.ids_nodup grown).of_map, List.length_map]
    refine ⟨by omega, evident.few, landing, evident.inside, found, ?_⟩
    intro other mem own
    exact evident.only other mem (Landing.isSome_found.mp own)

/-- Its record is there. -/
theorem record (evident : Evident archive view ns seed landing history) (grown : view.Grown env.net)
    (settles : landing.SettlesTopLevel ns seed) :
    ∃ account, readSettlementRecord D.programId (recordAddress D ns seed)
      (existing (view.accounts (recordAddress D ns seed))) seed = .ok (some account) := by
  have mem := Cluster.mem_of_mem_finalizedLedger (evident.truthful.mem_finalizedLedger evident.inside)
  obtain ⟨amount, holds⟩ :=
    grown.recorded mem (grown.settles_of_topLevel mem evident.succeeded settles)
  exact ⟨_, holds.read⟩

end Evident

/-- The search ends with the settlement that can be shown. -/
theorem prompted_search {eventId : JsString} {seed : Bytes32} {landing : Landing D}
    {history : List (Landing D)} (seeded : eventIdSeed env.host eventId = .ok seed)
    (evident : Evident archive (w.view .primary) ns seed landing history)
    (settles : landing.SettlesTopLevel ns seed) :
    Prompted env archive cluster ns e
      (findSettlementTransaction env.host (connectionTo .primary) D.programId ns eventId)
      (fun created _ => created.signature = landing.transaction.id ∧ created.topLevel = true) w := by
  obtain ⟨named, rfl⟩ := eventIdSeed_eq_ok.mp seeded
  obtain ⟨created, signature, topLevel, ended⟩ := evident.search (w.grown .primary) settles
  rw [findSettlementTransaction_eq named, env.addresses]
  let anywhere (_ : World D env.net) : Prop := True
  have served (call : Rpc) (w : World D env.net) (_ : anywhere w) :
      Interaction.Safe (Promptly env archive cluster ns e) (fun _ _ => True)
        ((connectionTo .primary).request call)
        (fun answer w' => (archive .primary).Answers call (.ok answer) ∧ anywhere w')
        (fun error w' => (archive .primary).Answers call (.error error) ∧ anywhere w') w := by
    refine Interaction.safe_perform.mpr ⟨trivial, ?_, ?_⟩
    · rintro answer w' ⟨_, prompt, _⟩
      exact ⟨Served.answers prompt.atOnce, trivial⟩
    · rintro error w' ⟨_, prompt, _⟩
      exact ⟨Served.answers prompt.atOnce, trivial⟩
  refine (safe_search served _ D.programId (settlesEvent ns (env.host.sha256 (textEncode eventId)))
    5000 trivial).mono ?_ ?_
  · rintro told w' ⟨same, _⟩
    obtain rfl := Except.ok.inj (same.symm.trans ended)
    exact ⟨signature, topLevel⟩
  · rintro error w' ⟨same, _⟩
    cases same.symm.trans ended

/-! ### Reconciling -/

/-- The result is what comparing the shown transaction comes to. -/
def Tallies (H : Host) (asked : ReconcileSettlementNOptions) (shown : ParsedTransaction)
    (result : ReconcileResult) : Prop :=
  ∀ reconciliation, result = .matched reconciliation ↔
    reconcileTransaction H asked shown = .ok reconciliation

/-- Reconciling in a quiet moment is reconciling what the endpoint shows. -/
theorem prompted_reconcile {options : WorkerOptions} {provider : Provider} {signature : JsString}
    {stored : StoredRequest} {shown : ParsedTransaction}
    (program : stored.params.programId = toBase58 D.programId)
    (sameNs : stored.params.ns = toBase58 ns) (ids : Option (List (JsString × JsString)))
    (timed : Timed (options.reconcileOptions signature stored D.programId ns ids))
    (named : options.cluster.getD .devnet = cluster)
    (served : (archive provider).transaction signature = some shown) (w : World D env.net) :
    Prompted env archive cluster ns e (options.reconcile env.host provider signature stored ids)
      (fun result _ => Tallies env.host
        (options.reconcileOptions signature stored D.programId ns ids) shown result) w := by
  let anywhere (_ : World D env.net) : Prop := True
  have genesis (w : World D env.net) (_ : anywhere w) : Prompted env archive cluster ns e
      ((connectionTo provider).request .getGenesisHash)
      (fun hash w' => hash = GENESIS_HASHES (options.cluster.getD .devnet) ∧ anywhere w') w := by
    have told : Prompted env archive cluster ns e ((connectionTo provider).request .getGenesisHash)
        (fun told w' => told = GENESIS_HASHES cluster ∧ w'.view = w.view) w :=
      prompted_request fun _ served => served
    rw [named]
    exact told.mono (fun _ _ both => ⟨both.1, trivial⟩) fun _ _ failed => failed
  have polls (w : World D env.net) (_ : anywhere w) : Prompted env archive cluster ns e
      (connectionTo provider).polls (fun _ => anywhere) w := by
    refine Interaction.safe_perform.mpr ⟨trivial, fun _ _ _ => trivial, ?_⟩
    rintro error w' ⟨_, prompt, _⟩
    obtain ⟨middle, ⟨⟨polls, same⟩, _⟩, _⟩ := prompt.moved
    cases same
  have told (w : World D env.net) (_ : anywhere w) : Prompted env archive cluster ns e
      ((connectionTo provider).request (.getParsedTransaction signature))
      (fun found w' => found = some shown ∧ anywhere w') w := by
    have told : Prompted env archive cluster ns e
        ((connectionTo provider).request (.getParsedTransaction signature))
        (fun told w' => told = some shown ∧ w'.view = w.view) w :=
      prompted_request fun _ told => told.answers.trans (congrArg Except.ok served)
    exact told.mono (fun _ _ both => ⟨both.1, trivial⟩) fun _ _ failed => failed
  have asked : Prompted env archive cluster ns e (Interaction.result (reconcileSettlementN env.host
      (connectionTo provider) (options.reconcileOptions signature stored D.programId ns ids)))
      (fun result _ => result = reconcileTransaction env.host
        (options.reconcileOptions signature stored D.programId ns ids) shown) w :=
    (safe_reconcileShown timed genesis polls told trivial).result (fun _ _ both => both.1.symm)
      fun _ _ both => both.1.symm
  unfold WorkerOptions.reconcile
  rw [program, sameNs, parseKey_toBase58, parseKey_toBase58]
  refine Interaction.Safe.bind asked fun result w' told => ?_
  subst told
  split
  · next reconciliation same =>
    intro other
    rw [same]
    simp
  · next same =>
    intro other
    simp [same]
  · next same =>
    intro other
    simp [same]

end Synxed.Studio
