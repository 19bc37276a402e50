import Synxed.Studio.Cluster
import Synxed.Studio.Events

/-!
The worker in its surroundings: a store, an honest chain, and providers that may
or may not tell the truth about it.

Every operation may be followed by any amount of time, in which the chain grows,
providers catch up with it and events are enqueued. The answers given, the
transactions handed to the cluster and the events recorded paid are kept, so
that the rest of the development can speak of them.

`Onward` is what every step does: `Heard` tells what was answered in between,
and `Heard.truth` that an honest answer was true of a chain seen in between.
-/

namespace Synxed.Studio

open Synxed.Lib Synxed.Program Synxed.Sdk

variable {D : Deployment}

/-! ### Truth -/

/-- A true answer about a signature. A transaction that was only processed may
still be dropped, so its status tells nothing. -/
def TrueStatus (view : Cluster D) (signature : JsString) : Option SignatureStatus → Prop
  | none => ∀ landing ∈ view.ledger, landing.transaction.id ≠ signature
  | some status =>
      (status.confirmationStatus = some .confirmed ∨ status.confirmationStatus = some .finalized) →
        ∃ landing ∈ view.ledger, landing.transaction.id = signature ∧ landing.error = status.err

/-- A true answer about a chain. An honest node may have pruned a transaction,
and nothing is asked here of its histories. -/
def Truth (net : Network) (view : Cluster D) : (call : Rpc) → call.Answer → Prop
  | .getLatestBlockhash, latest => latest.lastValidBlockHeight = net.lastValid latest.blockhash
  | .getAccountInfo address, account => account = existing (view.accounts address)
  | .getSignatureStatuses signature, status => TrueStatus view signature status
  | .getBlockHeight, height => height = view.height
  | .getParsedTransaction signature, some transaction =>
      ∃ landing ∈ view.finalizedLedger,
        landing.transaction.id = signature ∧ transaction = landing.shown
  | _, _ => True

/-! ### Worlds -/

variable (D) in
/-- An answer that was given, with the chain as its provider saw it. -/
structure Answered where
  provider : Provider
  call : Rpc
  answer : call.Answer
  view : Cluster D

variable (D) in
/-- What the worker runs in, and which answers are truthful. -/
structure Environment where
  host : Host
  addresses : host.addresses = D.addresses
  net : Network
  /-- The texts that `Date.parse` reads. -/
  isDate : JsString → Bool
  honest : Provider → Rpc → Prop

variable (D) in
structure World (net : Network) where
  store : Store
  cluster : Cluster D
  /-- The chain as a provider sees it. -/
  view : Provider → Cluster D
  /-- The transactions handed to the cluster. -/
  forwarded : List Bytes
  answers : List (Answered D)
  /-- The events that `recordPaid` recorded, in order. -/
  recorded : List JsString
  grown : ∀ provider, (view provider).Grown net
  behind : ∀ provider, Cluster.Later net (view provider) cluster

namespace World

variable {net : Network}

/-- Nothing was stored, asked or sent yet. -/
structure Initial (w : World D net) : Prop where
  store : w.store = .empty
  forwarded : w.forwarded = []
  answers : w.answers = []
  recorded : w.recorded = []

theorem cluster_grown (w : World D net) : w.cluster.Grown net := by
  obtain ⟨start, empty, later⟩ := w.grown .primary
  exact ⟨start, empty, later.trans (w.behind .primary)⟩

/-- The status of an event. -/
def status (w : World D net) (eventId : JsString) : Option EventStatus :=
  (w.store.event eventId).map StoredEvent.status

end World

/-! ### Steps -/

/-- Prepared events were enqueued. -/
abbrev Enqueues (isDate : JsString → Bool) : Store → Store → Prop :=
  Relation.ReflTransGen fun store store' => ∃ event prepared now answer,
    prepareEvent isDate event = .ok prepared ∧
      store.enqueue prepared.request prepared.beneficiaryIds now = .ok (answer, store')

/-- Time passes. -/
structure Passes (isDate : JsString → Bool) {net : Network} (w w' : World D net) : Prop where
  store : Enqueues isDate w.store w'.store
  cluster : Cluster.Later net w.cluster w'.cluster
  view : ∀ provider, Cluster.Later net (w.view provider) (w'.view provider)
  forwarded : w'.forwarded = w.forwarded
  answers : w'.answers = w.answers
  recorded : w'.recorded = w.recorded

theorem Passes.refl {isDate : JsString → Bool} {net : Network} (w : World D net) :
    Passes isDate w w := ⟨.refl, .refl, fun _ => .refl, rfl, rfl, rfl⟩

/-- The event a method records paid, if it succeeds. -/
def Method.records (store : Store) : Method → List JsString
  | recordPaid eventId attempt record directEntries poolPayouts =>
      match store.recordPaid eventId attempt record directEntries poolPayouts with
      | .ok _ => [column eventId]
      | .error _ => []
  | _ => []

/-- The transaction a request hands over, and whether the answer tells that the
node did not forward it. -/
def handed : Rpc → List Bytes
  | .sendRawTransaction raw _ => [raw]
  | _ => []

def RefusedBy : (call : Rpc) → call.Answer → Prop
  | .sendRawTransaction _ _, .refused _ => True
  | _, _ => False

variable (env : Environment D)

/-- An operation is answered, at once. A request may be lost, or its answer; a
node that refuses a transaction did not forward it. A clock does not fail. -/
def Replies (w : World D env.net) : (op : Op) → Except Thrown op.Reply → World D env.net → Prop
  | .store method, reply, w' =>
      reply = (method.apply w.store).1 ∧
        w' = { w with
          store := (method.apply w.store).2
          recorded := w.recorded ++ method.records w.store }
  | .rpc provider call, .ok answer, w' =>
      (env.honest provider call → Truth env.net (w.view provider) call answer) ∧
      ∃ given : List Bytes,
        (given = [] ∨ given = handed call ∧ ¬ (env.honest provider call ∧ RefusedBy call answer)) ∧
        w' = { w with
          forwarded := w.forwarded ++ given
          answers := w.answers ++ [⟨provider, call, answer, w.view provider⟩] }
  | .rpc _ call, .error error, w' =>
      (∃ text, error = .other text) ∧ ∃ given : List Bytes, (given = [] ∨ given = handed call) ∧
        w' = { w with forwarded := w.forwarded ++ given }
  | .polls, reply, w' => (∃ polls, reply = .ok polls) ∧ w' = w
  | _, _, w' => w' = w

/-- An operation is answered, and time passes. -/
def step (w : World D env.net) (op : Op) (reply : Except Thrown op.Reply) (w' : World D env.net) :
    Prop :=
  ∃ middle, Replies env w op reply middle ∧ Passes env.isDate middle w'

/-- Between two commands a person may flag an event. -/
def outside (w w' : World D env.net) : Prop :=
  Passes env.isDate w w' ∨ ∃ eventId note,
    Passes env.isDate { w with store := w.store.setEventStatus eventId OpenStatus.needsAttention note } w'

/-! ### Commands -/

inductive Action where
  | run (limit : Option Nat)
  | resolve (eventId : JsString)
  | recheck (eventId : JsString)

/-- How a process of the worker is configured, and what it is asked. -/
structure Command where
  options : WorkerOptions
  action : Action

def Command.work (H : Host) (sign : Signer) (command : Command) : Work Unit :=
  match command.action with
  | .run limit => do
      let _ ← command.options.run H sign limit
      pure ()
  | .resolve eventId => do
      let _ ← command.options.resolve H eventId
      pure ()
  | .recheck eventId => do
      let _ ← command.options.recheck H eventId
      pure ()

/-- The processes that are configured as a studio allows. -/
abbrev Process (configured : WorkerOptions → Prop) := { command : Command // configured command.options }

variable (configured : WorkerOptions → Prop)

/-- The worlds of a studio: one process after the other, each stopped anywhere. -/
abbrev Run (start : World D env.net) : World D env.net → Prop :=
  Interaction.Reachable (step env)
    (fun process : Process configured => process.val.work env.host env.net.sign) (outside env) start

/-- In a world of a studio a process is about to ask an operation. -/
abbrev AboutTo (start : World D env.net) : World D env.net → Op → Prop :=
  Interaction.AboutTo (step env)
    (fun process : Process configured => process.val.work env.host env.net.sign) (outside env) start

/-! ### Onward -/

variable {env}

/-- What every step does: the chain grows, providers catch up, and what honest
providers answer is true of what they then see. -/
structure Onward (w w' : World D env.net) : Prop where
  cluster : Cluster.Later env.net w.cluster w'.cluster
  view : ∀ provider, Cluster.Later env.net (w.view provider) (w'.view provider)
  answers : ∃ more, w'.answers = w.answers ++ more ∧ ∀ given ∈ more,
    Cluster.Later env.net (w.view given.provider) given.view ∧
      Cluster.Later env.net given.view (w'.view given.provider) ∧
      (env.honest given.provider given.call → Truth env.net given.view given.call given.answer)

namespace Onward

variable {w w' w'' : World D env.net}

theorem refl (w : World D env.net) : Onward w w :=
  ⟨.refl, fun _ => .refl, [], by simp, by simp⟩

theorem trans (first : Onward w w') (second : Onward w' w'') : Onward w w'' := by
  obtain ⟨more, answers, told⟩ := first.answers
  obtain ⟨more', answers', told'⟩ := second.answers
  refine ⟨first.cluster.trans second.cluster, fun p => (first.view p).trans (second.view p),
    more ++ more', by rw [answers', answers, List.append_assoc], fun given mem => ?_⟩
  rcases List.mem_append.mp mem with early | late
  · obtain ⟨after, before, truth⟩ := told given early
    exact ⟨after, before.trans (second.view _), truth⟩
  · obtain ⟨after, before, truth⟩ := told' given late
    exact ⟨(first.view _).trans after, before, truth⟩

end Onward

theorem Passes.onward {w w' : World D env.net} (passes : Passes env.isDate w w') : Onward w w' :=
  ⟨passes.cluster, passes.view, [], by simp [passes.answers], by simp⟩

theorem Replies.onward {w w' : World D env.net} {op : Op} {reply : Except Thrown op.Reply}
    (replies : Replies env w op reply w') : Onward w w' := by
  cases op with
  | store method =>
      obtain ⟨_, rfl⟩ := replies
      exact ⟨.refl, fun _ => .refl, [], by simp, by simp⟩
  | rpc provider call =>
      cases reply with
      | ok answer =>
          obtain ⟨truth, given, _, rfl⟩ := replies
          refine ⟨.refl, fun _ => .refl, [_], rfl, fun given mem => ?_⟩
          rw [List.mem_singleton.mp mem]
          exact ⟨.refl, .refl, truth⟩
      | error error =>
          obtain ⟨_, given, _, rfl⟩ := replies
          exact ⟨.refl, fun _ => .refl, [], by simp, by simp⟩
  | polls =>
      obtain ⟨_, rfl⟩ := replies
      exact .refl _
  | log line =>
      cases replies
      exact .refl w
  | beforeSend eventId signature =>
      cases replies
      exact .refl w

theorem step.onward {w w' : World D env.net} {op : Op} {reply : Except Thrown op.Reply}
    (moved : step env w op reply w') : Onward w w' := by
  obtain ⟨middle, replies, passes⟩ := moved
  exact replies.onward.trans passes.onward

theorem safe_onward {α : Type} (program : Work α) (w : World D env.net) :
    Interaction.Safe (step env) (fun _ _ => True) program (fun _ w' => Onward w w')
      (fun _ w' => Onward w w') w := by
  have uses : program.Uses fun _ => True := by
    induction program with
    | pure value => trivial
    | throw error => trivial
    | ask op next ih => exact ⟨trivial, fun reply => ih reply⟩
  exact Interaction.Safe.of_uses uses (fun _ _ _ _ => trivial)
    (fun _ _ _ _ _ onward moved => onward.trans moved.onward) (.refl w)

/-- The answer was given between two worlds. -/
def Heard (w w' : World D env.net) (provider : Provider) (call : Rpc) (answer : call.Answer) :
    Prop :=
  ∃ more view, w'.answers = w.answers ++ more ∧ ⟨provider, call, answer, view⟩ ∈ more

namespace Heard

variable {w w' w'' : World D env.net} {provider : Provider} {call : Rpc} {answer : call.Answer}

theorem later (heard : Heard w w' provider call answer) (onward : Onward w' w'') :
    Heard w w'' provider call answer := by
  obtain ⟨more, view, answers, mem⟩ := heard
  obtain ⟨more', answers', _⟩ := onward.answers
  exact ⟨more ++ more', view, by rw [answers', answers, List.append_assoc],
    List.mem_append_left _ mem⟩

theorem earlier (onward : Onward w w') (heard : Heard w' w'' provider call answer) :
    Heard w w'' provider call answer := by
  obtain ⟨more, answers, _⟩ := onward.answers
  obtain ⟨more', view, answers', mem⟩ := heard
  exact ⟨more ++ more', view, by rw [answers', answers, List.append_assoc],
    List.mem_append_right _ mem⟩

/-- An honest answer was true of a chain its provider saw in between. -/
theorem truth (heard : Heard w w' provider call answer) (onward : Onward w w')
    (honest : env.honest provider call) :
    ∃ view, Cluster.Later env.net (w.view provider) view ∧
      Cluster.Later env.net view (w'.view provider) ∧ Truth env.net view call answer := by
  obtain ⟨more, view, answers, mem⟩ := heard
  obtain ⟨more', answers', told⟩ := onward.answers
  obtain rfl : more = more' := List.append_cancel_left (answers.symm.trans answers')
  obtain ⟨after, before, truth⟩ := told _ mem
  exact ⟨view, after, before, truth honest⟩

end Heard

/-- An answer that was just given was heard. -/
theorem step.heard {w w' : World D env.net} {provider : Provider} {call : Rpc}
    {answer : call.Answer} (moved : step env w (.rpc provider call) (.ok answer) w') :
    Heard w w' provider call answer := by
  obtain ⟨middle, ⟨_, given, _, rfl⟩, passes⟩ := moved
  exact ⟨[_], w.view provider, passes.answers, List.mem_singleton.mpr rfl⟩

/-! ### A sample node -/

/-- Every answer is honest. -/
def sampleEnvironment : Environment sampleDeployment where
  host := sampleHost
  addresses := rfl
  net := sampleNetwork
  isDate _ := true
  honest _ _ := True

/-- What a node answers about a chain; once something landed it is too busy for
a blockhash. -/
def sampleAnswer (cluster : Cluster sampleDeployment) : (call : Rpc) → Except Thrown call.Answer
  | .getLatestBlockhash =>
      if cluster.ledger.isEmpty then .ok ⟨sampleBlockhash, 100⟩
      else .error (.other (js "Error: 429 Too Many Requests"))
  | .sendRawTransaction _ _ => .ok (.accepted sampleSigned.id)
  | .getAccountInfo address => .ok (existing (cluster.accounts address))
  | .getSignatureStatuses signature =>
      .ok ((cluster.ledger.find? (·.transaction.id = signature)).map
        fun landing => ⟨some .finalized, landing.error⟩)
  | .getBlockHeight => .ok cluster.height
  | .getGenesisHash => .ok (GENESIS_HASHES .devnet)
  | .getParsedTransaction signature =>
      .ok ((cluster.finalizedLedger.find? (·.transaction.id = signature)).map Landing.shown)
  | .getParsedTransactions signatures =>
      .ok (signatures.map fun signature =>
        (cluster.finalizedLedger.find? (·.transaction.id = signature)).map Landing.shown)
  | .getSignaturesForAddress _ _ _ =>
      .ok (cluster.finalizedLedger.map fun landing => ⟨landing.transaction.id, landing.error⟩)

theorem sampleAnswer_truth {cluster : Cluster sampleDeployment} {call : Rpc} {answer : call.Answer}
    (answered : sampleAnswer cluster call = .ok answer) :
    Truth sampleNetwork cluster call answer := by
  cases call with
  | getLatestBlockhash =>
      cases empty : cluster.ledger.isEmpty with
      | true =>
          simp only [sampleAnswer, empty, if_true, Except.ok.injEq] at answered
          subst answered
          rfl
      | false => simp [sampleAnswer, empty] at answered
  | getAccountInfo address => exact (Except.ok.inj answered).symm
  | getBlockHeight => exact (Except.ok.inj answered).symm
  | getSignatureStatuses signature =>
      obtain rfl := Except.ok.inj answered
      cases found : cluster.ledger.find? (·.transaction.id = signature) with
      | none => exact fun landing mem => by simpa using List.find?_eq_none.mp found landing mem
      | some landing =>
          exact fun _ => ⟨landing, List.mem_of_find?_eq_some found,
            by simpa using List.find?_some found, rfl⟩
  | getParsedTransaction signature =>
      obtain rfl := Except.ok.inj answered
      cases found : cluster.finalizedLedger.find? (·.transaction.id = signature) with
      | none => trivial
      | some landing =>
          exact ⟨landing, List.mem_of_find?_eq_some found, by simpa using List.find?_some found, rfl⟩
  | _ => trivial

theorem sampleAnswer_error {cluster : Cluster sampleDeployment} {call : Rpc} {error : Thrown}
    (answered : sampleAnswer cluster call = .error error) : ∃ text, error = .other text := by
  cases call with
  | getLatestBlockhash =>
      cases empty : cluster.ledger.isEmpty with
      | true => simp [sampleAnswer, empty] at answered
      | false =>
          simp only [sampleAnswer, empty, Bool.false_eq_true, if_false, Except.error.injEq] at answered
          exact ⟨_, answered.symm⟩
  | _ => cases answered

/-- A world on the sample chain, of which every endpoint is up to date. -/
structure SampleWorld (w : World sampleDeployment sampleNetwork) : Prop where
  chain : w.cluster = sampleOpen ∨ w.cluster = sampleSettled
  current : ∀ provider, w.view provider = w.cluster

/-- The settlement lands, and every endpoint sees it. -/
def settledWorld (w : World sampleDeployment sampleNetwork) : World sampleDeployment sampleNetwork :=
  { w with
    cluster := sampleSettled
    view := fun _ => sampleSettled
    grown := fun _ => ⟨sampleOpen, rfl, sampleSettled_later⟩
    behind := fun _ => .refl }

theorem settledWorld_passes {w : World sampleDeployment sampleNetwork} (sample : SampleWorld w) :
    Passes sampleEnvironment.isDate w (settledWorld w) := by
  have later : Cluster.Later sampleNetwork w.cluster sampleSettled := by
    rcases sample.chain with before | after
    · rw [before]
      exact sampleSettled_later
    · rw [after]
  refine ⟨.refl, later, fun provider => ?_, rfl, rfl, rfl⟩
  rw [sample.current provider]
  exact later

/-- The surroundings answer at once, and a transaction that is sent lands. -/
def sampleRespond (w : World sampleDeployment sampleNetwork) :
    (op : Op) → Except Thrown op.Reply × World sampleDeployment sampleNetwork
  | .store method =>
      ((method.apply w.store).1, { w with
        store := (method.apply w.store).2
        recorded := w.recorded ++ method.records w.store })
  | .rpc provider call =>
      match sampleAnswer w.cluster call with
      | .error error => (.error error, w)
      | .ok answer =>
          let answered := { w with
            forwarded := w.forwarded ++ handed call
            answers := w.answers ++ [⟨provider, call, answer, w.view provider⟩] }
          (.ok answer, if handed call = [] then answered else settledWorld answered)
  | .polls => (.ok 0, w)
  | .log _ => (.ok (), w)
  | .beforeSend _ _ => (.ok (), w)

theorem sampleRespond_step {w : World sampleDeployment sampleNetwork} (sample : SampleWorld w)
    (op : Op) :
    step sampleEnvironment w op (sampleRespond w op).1 (sampleRespond w op).2 ∧
      SampleWorld (sampleRespond w op).2 := by
  cases op with
  | store method => exact ⟨⟨_, ⟨rfl, rfl⟩, .refl _⟩, sample.chain, sample.current⟩
  | polls => exact ⟨⟨w, ⟨⟨_, rfl⟩, rfl⟩, .refl w⟩, sample⟩
  | log line => exact ⟨⟨w, rfl, .refl w⟩, sample⟩
  | beforeSend eventId signature => exact ⟨⟨w, rfl, .refl w⟩, sample⟩
  | rpc provider call =>
      cases answered : sampleAnswer w.cluster call with
      | error error =>
          simp only [sampleRespond, answered]
          refine ⟨⟨w, ⟨sampleAnswer_error answered, [], .inl rfl, ?_⟩, .refl w⟩, sample⟩
          simp only [List.append_nil]
          rfl
      | ok answer =>
          have told : Truth sampleNetwork (w.view provider) call answer := by
            rw [sample.current provider]
            exact sampleAnswer_truth answered
          have accepted : ¬ (True ∧ RefusedBy call answer) := by
            rintro ⟨_, refused⟩
            cases call with
            | sendRawTransaction raw skipPreflight => cases answered; exact refused
            | _ => exact refused
          have replies : Replies sampleEnvironment w (.rpc provider call) (.ok answer) { w with
              forwarded := w.forwarded ++ handed call
              answers := w.answers ++ [⟨provider, call, answer, w.view provider⟩] } :=
            ⟨fun _ => told, handed call, .inr ⟨rfl, accepted⟩, rfl⟩
          simp only [sampleRespond, answered]
          split
          · exact ⟨⟨_, replies, .refl _⟩, sample.chain, sample.current⟩
          · exact ⟨⟨_, replies, settledWorld_passes ⟨sample.chain, sample.current⟩⟩, .inr rfl,
              fun _ => rfl⟩

/-! ### A sample studio -/

def sampleEvent : Json := .object
  [(js "eventId", .string (js "event-1")),
    (js "occurredAt", .string (js "2026-01-01T00:00:00.000Z")),
    (js "amountAtomic", .string (js "1001")), (js "memo", .string (js "sample")),
    (js "shares", .array
      [.object [(js "label", .string (js "creator")),
          (js "recipient", .string (toBase58 sampleRecipient)), (js "bps", .number (.ofInt 7000))],
        .object [(js "label", .string (js "platform")),
          (js "recipient", .string (toBase58 samplePayer)), (js "bps", .number (.ofInt 3000))]])]

def samplePrepared : PreparedEvent :=
  (prepareEvent sampleEnvironment.isDate sampleEvent).toOption.getD ⟨sampleRequest, []⟩

def sampleQueue : Store.Enqueued × Store :=
  (Store.empty.enqueue samplePrepared.request samplePrepared.beneficiaryIds
    (js "2026-01-02T00:00:00.000Z")).toOption.getD (.unchanged, .empty)

/-- Nothing happened yet on the sample chain. -/
def sampleStart : World sampleDeployment sampleNetwork where
  store := .empty
  cluster := sampleOpen
  view _ := sampleOpen
  forwarded := []
  answers := []
  recorded := []
  grown _ := ⟨sampleOpen, rfl, .refl⟩
  behind _ := .refl

/-- The sample event is pending. -/
def sampleQueued : World sampleDeployment sampleNetwork := { sampleStart with store := sampleQueue.2 }

theorem sampleEvent_enqueued : Enqueues sampleEnvironment.isDate .empty sampleQueue.2 :=
  .single ⟨sampleEvent, samplePrepared, _, _, eq_ok_of_isOk _ (by decide +kernel),
    eq_ok_of_isOk (.unchanged, .empty) rfl⟩

theorem sampleQueued_passes : Passes sampleEnvironment.isDate sampleStart sampleQueued :=
  ⟨sampleEvent_enqueued, .refl, fun _ => .refl, rfl, rfl, rfl⟩

theorem sampleStart_initial : sampleStart.Initial := ⟨rfl, rfl, rfl, rfl⟩

/-- A worker of the sample namespace. -/
def sampleWorker : WorkerOptions where
  secondConnection := false
  payer := samplePayer
  authority := some sampleAuthority
  programId := sampleDeployment.programId
  ns := sampleNamespace
  lamportsPerAtomicUnit := 1

/-- A worker runs once. -/
def sampleRunOf (options : WorkerOptions) : Work Unit :=
  Command.work sampleEnvironment.host sampleEnvironment.net.sign ⟨options, .run none⟩

/-- No answer is honest. -/
def sampleLiar : Environment sampleDeployment :=
  { sampleEnvironment with honest := fun _ _ => False }

/-- The surroundings answer every request as `script` tells, and nothing that is
sent reaches the cluster. -/
def scriptedRespond (script : (call : Rpc) → Except JsString call.Answer)
    (w : World sampleDeployment sampleNetwork) :
    (op : Op) → Except Thrown op.Reply × World sampleDeployment sampleNetwork
  | .store method =>
      ((method.apply w.store).1, { w with
        store := (method.apply w.store).2
        recorded := w.recorded ++ method.records w.store })
  | .rpc provider call =>
      match script call with
      | .error text => (.error (.other text), w)
      | .ok answer =>
          (.ok answer, { w with answers := w.answers ++ [⟨provider, call, answer, w.view provider⟩] })
  | .polls => (.ok 0, w)
  | .log _ => (.ok (), w)
  | .beforeSend _ _ => (.ok (), w)

theorem scriptedRespond_step (script : (call : Rpc) → Except JsString call.Answer)
    (w : World sampleDeployment sampleNetwork) (op : Op) :
    step sampleLiar w op (scriptedRespond script w op).1 (scriptedRespond script w op).2 := by
  refine ⟨_, ?_, .refl _⟩
  cases op with
  | store method => exact ⟨rfl, rfl⟩
  | rpc provider call =>
      cases said : script call with
      | error text =>
          simp only [scriptedRespond, said]
          refine ⟨⟨text, rfl⟩, [], .inl rfl, ?_⟩
          simp only [List.append_nil]
          rfl
      | ok answer =>
          simp only [scriptedRespond, said]
          refine ⟨fun honest => honest.elim, [], .inl rfl, ?_⟩
          simp only [List.append_nil]
          rfl
  | polls => exact ⟨⟨_, rfl⟩, rfl⟩
  | log line => rfl
  | beforeSend eventId signature => rfl

/-- Run a worker for some operations against a script. -/
def scriptedPlay {α : Type} (script : (call : Rpc) → Except JsString call.Answer) (fuel : Nat)
    (program : Work α) (w : World sampleDeployment sampleNetwork) :
    Work α × World sampleDeployment sampleNetwork :=
  Interaction.play (fun w op => some (scriptedRespond script w op)) fuel (program, w)

theorem scriptedPlay_steps {α : Type} (script : (call : Rpc) → Except JsString call.Answer)
    (fuel : Nat) (program : Work α) (w : World sampleDeployment sampleNetwork) :
    Interaction.Steps (step sampleLiar) (program, w) (scriptedPlay script fuel program w) := by
  let kept (_ : World sampleDeployment sampleNetwork) : Prop := True
  refine (Interaction.steps_play (fun w op reply w' (_ : kept w) answered => ?_) fuel (program, w)
    (trivial : kept w)).1
  obtain ⟨rfl, rfl⟩ := Prod.ext_iff.mp (Option.some.inj answered)
  exact ⟨scriptedRespond_step script w op, trivial⟩

/-- There is a blockhash and no record, and what is sent is refused. -/
def sampleRefusals : (call : Rpc) → Except JsString call.Answer
  | .getLatestBlockhash => .ok ⟨sampleBlockhash, 100⟩
  | .getAccountInfo _ => .ok none
  | .sendRawTransaction _ _ => .ok (.refused (js "Simulation failed"))
  | _ => .error (js "Error: fetch failed")

end Synxed.Studio
