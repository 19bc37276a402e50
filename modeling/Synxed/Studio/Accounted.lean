import Synxed.Studio.Expiry

/-!
What was handed to the cluster is accounted for.

`Accounted` is an invariant of a studio whose primary provider is honest: what was
handed over stands in the row of an attempt that is still signed, or cannot land any
more, and a pending event was settled by none of its attempts.

* `Cluster.Stopped`: a transaction that landed, or whose blockhash is too old, never
  lands again.
* `Op.Heeds`, `Op.Pays`: what a worker knows of the chain when it asks an operation.
* `Ready.of_step`: then the invariant is kept.
-/

namespace Synxed.Studio

open Synxed.Lib Synxed.Program Synxed.Sdk

variable {D : Deployment}

/-! ### Transactions that cannot land -/

namespace Cluster

variable {net : Network} {cluster cluster' : Cluster D} {transaction : SignedTransaction}

variable (net) in
/-- It landed already, or its blockhash is not valid any more. -/
def Stopped (transaction : SignedTransaction) (cluster : Cluster D) : Prop :=
  (∃ landing ∈ cluster.ledger, landing.transaction.signature = transaction.signature) ∨
    net.lastValid transaction.blockhash ≤ cluster.height

variable (net) in
/-- It may land later. -/
def MayLand (transaction : SignedTransaction) (cluster : Cluster D) : Prop :=
  ∃ later landing, Later net cluster later ∧ landing ∈ later.ledger ∧ landing ∉ cluster.ledger ∧
    landing.transaction = transaction

/-- A landing of it settled the event. -/
def SettledWith (ns : Pubkey) (seed : Bytes32) (transaction : SignedTransaction) (cluster : Cluster D) :
    Prop :=
  ∃ landing ∈ cluster.ledger, landing.transaction = transaction ∧ landing.Settles ns seed

theorem Stopped.later (stopped : Stopped net transaction cluster) (later : Later net cluster cluster') :
    Stopped net transaction cluster' := by
  rcases stopped with ⟨landing, mem, same⟩ | past
  · exact .inl ⟨landing, later.mem_ledger mem, same⟩
  · exact .inr (past.trans later.height_le)

/-- Whatever of it is in the ledger was there when it was stopped. -/
theorem Stopped.mem (stopped : Stopped net transaction cluster) (later : Later net cluster cluster')
    {landing : Landing D} (mem : landing ∈ cluster'.ledger) (same : landing.transaction = transaction) :
    landing ∈ cluster.ledger := by
  obtain ⟨more, ledger, all⟩ := later.exists_more
  rw [ledger] at mem
  rcases List.mem_append.mp mem with old | new
  · exact old
  · obtain ⟨valid, fresh⟩ := all landing new
    subst same
    rcases stopped with ⟨old, before, signature⟩ | past
    · exact absurd signature (fresh old before)
    · omega

theorem Stopped.not_mayLand (stopped : Stopped net transaction cluster) :
    ¬ MayLand net transaction cluster := by
  rintro ⟨later, landing, grows, mem, new, same⟩
  exact new (stopped.mem grows mem same)

theorem SettledWith.earlier {ns : Pubkey} {seed : Bytes32}
    (settled : SettledWith ns seed transaction cluster') (stopped : Stopped net transaction cluster)
    (later : Later net cluster cluster') : SettledWith ns seed transaction cluster := by
  obtain ⟨landing, mem, same, settles⟩ := settled
  exact ⟨landing, stopped.mem later mem same, same, settles⟩

/-- Where there is no record, nothing settled the event. -/
theorem Grown.not_settledWith {ns : Pubkey} {seed : Bytes32} (grown : cluster.Grown net)
    (absent : readSettlementRecord D.programId (recordAddress D ns seed)
      (existing (cluster.accounts (recordAddress D ns seed))) seed = .ok none) :
    ¬ SettledWith ns seed transaction cluster := by
  rintro ⟨landing, mem, _, settles⟩
  obtain ⟨amount, holds⟩ := grown.recorded mem settles
  rw [holds.read] at absent
  cases absent

end Cluster

/-! ### What an attempt bears -/

variable (D) in
/-- The transaction is the settlement of the request in the namespace, as a worker with
these parameters builds it. -/
def BuiltFor (H : Host) (ns : Pubkey) (stored : StoredRequest) (transaction : SignedTransaction) :
    Prop :=
  ∃ (options : WorkerOptions) (prepared : PreparedSettlementN), options.programId = D.programId ∧
    options.ns = ns ∧ options.params = stored.params ∧
    options.build H stored.request = .ok prepared ∧
    transaction.instructions = prepared.transaction.map compile

/-- A transaction is built for one event. -/
theorem BuiltFor.eventId {H : Host} {ns : Pubkey} {stored stored' : StoredRequest}
    {transaction : SignedTransaction} (built : BuiltFor D H ns stored transaction)
    (built' : BuiltFor D H ns stored' transaction) :
    stored.request.eventId = stored'.request.eventId := by
  have memo {stored : StoredRequest} (built : BuiltFor D H ns stored transaction) :
      ∃ total, (transaction.instructions.head?).map CompiledInstruction.data =
        some (memoInstruction stored.request total).data := by
    obtain ⟨options, prepared, _, _, _, built, same⟩ := built
    rw [WorkerOptions.build, protocolCall_eq_ok] at built
    obtain ⟨_, _, _, _, _, opening, _, _, _, opened, _, instructions⟩ :=
      buildSettlementNTransaction_program rfl built
    cases opened
    rw [same, instructions]
    exact ⟨prepared.lamportsTotal, rfl⟩
  obtain ⟨total, first⟩ := memo built
  obtain ⟨total', second⟩ := memo built'
  exact eventId_of_memo (Option.some.inj (first.symm.trans second))

namespace StoredAttempt

/-- It was signed with these bytes. -/
def Carries (attempt : StoredAttempt) (raw : Bytes) : Prop :=
  attempt.rawTransaction = some (base64Encode raw)

/-- What is stored beside the bytes is what they say. -/
structure Bears (net : Network) (H : Host) (D : Deployment) (ns : Pubkey) (attempt : StoredAttempt)
    (raw : Bytes) (transaction : SignedTransaction) : Prop where
  carries : attempt.Carries raw
  parsed : net.parse raw = some transaction
  signature : attempt.signature = some transaction.id
  height : attempt.lastValidBlockHeight = some (net.lastValid transaction.blockhash)
  built : BuiltFor D H ns (WorkerOptions.storedRequest attempt) transaction

theorem Carries.unique {attempt : StoredAttempt} {raw raw' : Bytes} (carries : attempt.Carries raw)
    (carries' : attempt.Carries raw') : raw = raw' := by
  have same := congrArg base64Decode (Option.some.inj (carries.symm.trans carries'))
  rwa [base64Decode_encode, base64Decode_encode] at same

end StoredAttempt

/-! ### The invariant -/

section Invariant

variable (env : Environment D) (ns : Pubkey)

/-- An attempt of the event carries the transaction, which was handed to the cluster. -/
def SentFor (e : JsString) (transaction : SignedTransaction) (w : World D env.net) : Prop :=
  ∃ attempt ∈ w.store.attemptRows.rows, ∃ raw ∈ w.forwarded, attempt.eventId = e ∧
    attempt.Carries raw ∧ env.net.parse raw = some transaction

/-- None of the event's transactions can land any more, as the primary sees the chain. -/
def AllStopped (e : JsString) (w : World D env.net) : Prop :=
  ∀ transaction, SentFor env e transaction w → Cluster.Stopped env.net transaction (w.view .primary)

/-- None of the event's transactions settled it. -/
def NoneSettled (e : JsString) (w : World D env.net) : Prop :=
  ∀ transaction, SentFor env e transaction w → ∀ seed, eventIdSeed env.host e = .ok seed →
    ¬ Cluster.SettledWith ns seed transaction w.cluster

/-- Another attempt may begin. -/
structure Clear (e : JsString) (w : World D env.net) : Prop where
  stopped : AllStopped env e w
  unsettled : NoneSettled env ns e w

/-- What was handed to the cluster is accounted for. -/
structure Accounted (w : World D env.net) : Prop where
  borne : ∀ attempt ∈ w.store.attemptRows.rows, ∀ text, attempt.rawTransaction = some text →
    ∃ raw transaction, attempt.Bears env.net env.host D ns raw transaction
  unsigned : ∀ attempt ∈ w.store.attemptRows.rows, attempt.status = .prepared →
    attempt.rawTransaction = none
  held : ∀ raw ∈ w.forwarded, ∃ attempt ∈ w.store.attemptRows.rows, attempt.Carries raw
  stopped : ∀ raw ∈ w.forwarded, ∀ transaction, env.net.parse raw = some transaction →
    (∃ attempt ∈ w.store.attemptRows.rows, attempt.status = .signed ∧ attempt.Carries raw) ∨
      Cluster.Stopped env.net transaction (w.view .primary)
  pending : ∀ e, w.store.Standing e .pending → NoneSettled env ns e w

/-- What is known of a world between two operations. -/
structure Ready (w : World D env.net) : Prop where
  journal : Journal w.store
  filed : Filed D ns w.store
  whole : w.store.Whole
  accounted : Accounted env ns w

/-- A transaction with this signature landed, as the primary sees the chain. -/
def Landed {net : Network} (signature : JsString) (w : World D net) : Prop :=
  ∃ landing ∈ (w.view .primary).ledger, landing.transaction.id = signature

/-- What the worker knows of the chain when it asks an operation. -/
def Op.Heeds (w : World D env.net) : Op → Prop
  | .store (.recordSigned eventId n signature text lastValid) =>
      ∃ raw transaction, text = base64Encode raw ∧ env.net.parse raw = some transaction ∧
        signature = transaction.id ∧ lastValid = env.net.lastValid transaction.blockhash ∧
        ∀ attempt ∈ w.store.attemptRows.rows, (attempt.eventId, attempt.attempt) = (column eventId, n) →
          BuiltFor D env.host ns (WorkerOptions.storedRequest attempt) transaction
  | .store (.setAttemptStatus eventId n _) =>
      ∀ attempt ∈ w.store.attemptRows.rows, (attempt.eventId, attempt.attempt) = (column eventId, n) →
        ∀ raw ∈ w.forwarded, attempt.Carries raw → ∀ transaction, env.net.parse raw = some transaction →
          Cluster.Stopped env.net transaction (w.view .primary)
  | .store (.setEventStatus eventId status _) =>
      status = .pending → NoneSettled env ns (column eventId) w
  | _ => True

/-- An attempt begins for its event, and what is recorded landed. -/
def Op.Pays (w : World D env.net) : Op → Prop
  | .store (.recordPaid _ _ record _ _) => Landed record.signature w
  | .store (.beginAttempt eventId request params) =>
      (Method.beginAttempt eventId request params).BeginsOwn D ns w.store
  | _ => True

end Invariant

variable {env : Environment D} {ns : Pubkey} {w w' : World D env.net} {e : JsString}

/-! ### What stays -/

theorem settled_before {seed : Bytes32} {transaction : SignedTransaction}
    (stopped : Cluster.Stopped env.net transaction (w.view .primary))
    (later : Cluster.Later env.net w.cluster w'.cluster)
    (settled : Cluster.SettledWith ns seed transaction w'.cluster) :
    Cluster.SettledWith ns seed transaction w.cluster :=
  settled.earlier (stopped.later (w.behind .primary)) later

/-- What is clear stays clear while no more is sent. -/
theorem Clear.onward (clear : Clear env ns e w) (onward : Onward w w')
    (sent : ∀ transaction, SentFor env e transaction w' → SentFor env e transaction w) :
    Clear env ns e w' where
  stopped transaction sentFor := (clear.stopped transaction (sent _ sentFor)).later (onward.view .primary)
  unsettled transaction sentFor seed seeded settled :=
    clear.unsettled transaction (sent _ sentFor) seed seeded
      (settled_before (clear.stopped _ (sent _ sentFor)) onward.cluster settled)

theorem SentFor.of_eq {transaction : SignedTransaction} (sentFor : SentFor env e transaction w')
    (rows : w'.store.attemptRows = w.store.attemptRows) (sent : w'.forwarded = w.forwarded) :
    SentFor env e transaction w := by
  unfold SentFor at sentFor ⊢
  rw [← rows, ← sent]
  exact sentFor

theorem Clear.rests (clear : Clear env ns e w) (rests : Rests w w') : Clear env ns e w' :=
  clear.onward rests.onward fun _ sentFor => sentFor.of_eq rests.rows rests.sent

namespace Ready

variable (ready : Ready env ns w)

include ready

theorem bears {attempt : StoredAttempt} {raw : Bytes} (mem : attempt ∈ w.store.attemptRows.rows)
    (carries : attempt.Carries raw) :
    ∃ transaction, attempt.Bears env.net env.host D ns raw transaction := by
  obtain ⟨raw', transaction, bears⟩ := ready.accounted.borne attempt mem _ carries
  obtain rfl := carries.unique bears.carries
  exact ⟨transaction, bears⟩

theorem named {attempt : StoredAttempt} (mem : attempt ∈ w.store.attemptRows.rows) :
    attempt.eventId = column attempt.request.eventId := by
  obtain ⟨_, row, inRows, id, request⟩ := ready.filed.attempts attempt mem
  rw [← id, ← request]
  exact ready.filed.named row inRows

/-- The attempts that carry one transaction are of one event, also in two worlds. -/
theorem same_event (ready' : Ready env ns w') {first second : StoredAttempt}
    (mem : first ∈ w.store.attemptRows.rows) (mem' : second ∈ w'.store.attemptRows.rows) {raw : Bytes}
    (carries : first.Carries raw) (carries' : second.Carries raw) : first.eventId = second.eventId := by
  obtain ⟨transaction, bears⟩ := ready.bears mem carries
  obtain ⟨transaction', bears'⟩ := ready'.bears mem' carries'
  obtain rfl := Option.some.inj (bears.parsed.symm.trans bears'.parsed)
  have same : first.request.eventId = second.request.eventId := bears.built.eventId bears'.built
  rw [ready.named mem, ready'.named mem', same]

/-- Where no attempt is open, nothing can land. -/
theorem allStopped (closed : w.store.Closed e) : AllStopped env e w := by
  rintro transaction ⟨attempt, mem, raw, sent, rfl, carries, parsed⟩
  rcases ready.accounted.stopped raw sent transaction parsed with ⟨signed, inRows, isSigned, carries'⟩ | stopped
  · have same := ready.same_event ready inRows mem carries' carries
    exact absurd (.inr isSigned) (closed signed inRows same)
  · exact stopped

theorem clear (standing : w.store.Standing e .pending) : Clear env ns e w :=
  ⟨ready.allStopped (ready.journal.closed_of_pending standing), ready.accounted.pending e standing⟩

/-! ### One step -/

/-- What a method makes of the attempts is accounted for. -/
theorem apply {limit : Nat} {mine : AttemptParams → Prop} {method : Method}
    (owes : method.Owes limit mine e w.store) (heeds : (Op.store method).Heeds env ns w)
    (pays : (Op.store method).Pays env ns w) :
    Accounted env ns { w with
      store := (method.apply w.store).2
      recorded := w.recorded ++ method.records w.store } where
  borne attempt mem text is := by
    cases Method.leaves mem with
    | kept old => exact ready.accounted.borne attempt old text is
    | begun => cases is
    | signed old key prepared =>
        obtain ⟨raw, transaction, rfl, parsed, rfl, rfl, built⟩ := heeds
        have built := built _ old key
        exact ⟨raw, transaction, congrArg some (toWellFormed_base64Encode raw), parsed,
          congrArg some (toWellFormed_base58Encode _), rfl, built⟩
    | marked old key =>
        obtain ⟨raw, transaction, bears⟩ := ready.accounted.borne _ old text is
        exact ⟨raw, transaction, bears.carries, bears.parsed, bears.signature, bears.height, bears.built⟩
    | landed old key =>
        obtain ⟨raw, transaction, bears⟩ := ready.accounted.borne _ old text is
        exact ⟨raw, transaction, bears.carries, bears.parsed, bears.signature, bears.height, bears.built⟩
  unsigned attempt mem prepared := by
    cases Method.leaves mem with
    | kept old => exact ready.accounted.unsigned attempt old prepared
    | begun => rfl
    | signed => cases prepared
    | marked => rcases owes.2 with rfl | rfl <;> cases prepared
    | landed => cases prepared
  held raw sent := by
    obtain ⟨attempt, mem, carries⟩ := ready.accounted.held raw sent
    obtain ⟨attempt', mem', turns⟩ := method.turns mem
    refine ⟨attempt', mem', ?_⟩
    cases turns with
    | kept => exact carries
    | signed key prepared =>
        have none := ready.accounted.unsigned attempt mem prepared
        cases none.symm.trans carries
    | marked key => exact carries
    | landed key => exact carries
  stopped raw sent transaction parsed := by
    rcases ready.accounted.stopped raw sent transaction parsed with ⟨attempt, mem, signed, carries⟩ | stopped
    swap
    · exact .inr stopped
    obtain ⟨attempt', mem', turns⟩ := method.turns mem
    cases turns with
    | kept => exact .inl ⟨attempt, mem', signed, carries⟩
    | signed key prepared =>
        rw [prepared] at signed
        cases signed
    | marked key => exact .inr (heeds attempt mem key raw sent carries transaction parsed)
    | landed key =>
        -- the landing that was reconciled has the signature of this attempt
        obtain ⟨row, inRows, id, number, signature⟩ := owes.2 _ rfl
        obtain rfl : row = attempt := List.inj_on_of_nodup_map w.store.attemptRows.unique inRows mem
          (by rw [key, id, number, owes.1])
        obtain ⟨transaction', bears⟩ := ready.bears mem carries
        obtain rfl := Option.some.inj (bears.parsed.symm.trans parsed)
        obtain ⟨landing, inLedger, landed⟩ := pays
        have same := Option.some.inj (signature.symm.trans bears.signature)
        exact .inr (.inl ⟨landing, inLedger, base58Encode_injective (landed.trans same)⟩)
  pending e' standing := by
    rcases Method.standing_of_apply standing with before | marks
    · rintro transaction ⟨attempt, mem, raw, sent, rfl, carries, parsed⟩
      refine (ready.clear before).unsettled transaction ?_
      cases Method.leaves mem with
      | kept old => exact ⟨attempt, old, raw, sent, rfl, carries, parsed⟩
      | begun => cases carries
      | signed old key prepared =>
          exact absurd (.inl prepared) (ready.journal.closed_of_pending before _ old rfl)
      | marked old key => exact ⟨_, old, raw, sent, rfl, carries, parsed⟩
      | landed old key => exact ⟨_, old, raw, sent, rfl, carries, parsed⟩
    · cases method with
      | setEventStatus eventId status note =>
          obtain ⟨rfl, same⟩ := marks
          exact heeds (Subtype.ext same.symm)
      | beginAttempt eventId request params => cases marks.2
      | recordPaid eventId attempt record directEntries poolPayouts => cases marks.2
      | _ => exact marks.elim

theorem carried {raw : Bytes} (signed : w.store.HasSigned e raw) :
    ∃ attempt ∈ w.store.attemptRows.rows,
      attempt.eventId = e ∧ attempt.status = .signed ∧ attempt.Carries raw := by
  obtain ⟨attempt, inRows, id, isSigned, text, is, rfl⟩ := signed
  obtain ⟨raw, transaction, bears⟩ := ready.accounted.borne attempt inRows text is
  obtain rfl := Option.some.inj (is.symm.trans bears.carries)
  rw [base64Decode_encode]
  exact ⟨attempt, inRows, id, isSigned, bears.carries⟩

/-- What is sent is carried by a signed attempt. -/
theorem sends {given : List Bytes} {answers : List (Answered D)}
    (signed : ∀ raw ∈ given, w.store.HasSigned e raw) :
    Accounted env ns { w with forwarded := w.forwarded ++ given, answers := answers } := by
  refine ⟨ready.accounted.borne, ready.accounted.unsigned, fun raw sent => ?_,
    fun raw sent transaction parsed => ?_, fun e' standing transaction sentFor => ?_⟩
  · rcases List.mem_append.mp sent with before | now
    · exact ready.accounted.held raw before
    · obtain ⟨attempt, inRows, _, _, carries⟩ := ready.carried (signed raw now)
      exact ⟨attempt, inRows, carries⟩
  · rcases List.mem_append.mp sent with before | now
    · exact ready.accounted.stopped raw before transaction parsed
    · obtain ⟨attempt, inRows, _, isSigned, carries⟩ := ready.carried (signed raw now)
      exact .inl ⟨attempt, inRows, isSigned, carries⟩
  · obtain ⟨attempt, mem, raw, sent, rfl, carries, parsed⟩ := sentFor
    rcases List.mem_append.mp sent with before | now
    · exact ready.accounted.pending _ standing transaction
        ⟨attempt, mem, raw, before, rfl, carries, parsed⟩
    · -- a signed attempt of the event would be open
      obtain ⟨other, inRows, _, isSigned, carries'⟩ := ready.carried (signed raw now)
      have same := ready.same_event ready inRows mem carries' carries
      exact absurd (.inr isSigned) (ready.journal.closed_of_pending standing other inRows same)

theorem passes (passes : Passes env.isDate w w') : Ready env ns w' := by
  have queues := Store.Queues.of_enqueues passes.store
  have journal := ready.journal.queues queues
  have before {e : JsString} {transaction : SignedTransaction} (sentFor : SentFor env e transaction w') :
      SentFor env e transaction w := sentFor.of_eq queues.attempts passes.forwarded
  refine ⟨journal, ready.filed.enqueues passes.store, ?_, ?_⟩
  · unfold Store.Whole
    rw [queues.attempts]
    exact ready.whole
  refine ⟨?_, ?_, ?_, ?_, fun e standing transaction sentFor => ?_⟩
  · rw [queues.attempts]
    exact ready.accounted.borne
  · rw [queues.attempts]
    exact ready.accounted.unsigned
  · rw [queues.attempts, passes.forwarded]
    exact ready.accounted.held
  · rw [queues.attempts, passes.forwarded]
    intro raw sent transaction parsed
    rcases ready.accounted.stopped raw sent transaction parsed with signed | stopped
    · exact .inl signed
    · exact .inr (stopped.later (passes.view .primary))
  · obtain ⟨row, mem, id, pending⟩ := standing
    rcases queues.added row mem with old | ⟨_, _, _, fresh⟩
    · exact ((ready.clear ⟨row, old, id, pending⟩).onward passes.onward fun _ => before).unsettled
        transaction sentFor
    · -- a new event has no attempt
      obtain ⟨attempt, inRows, _, _, ofEvent, _⟩ := before sentFor
      obtain ⟨owner, inEvents, same⟩ := ready.journal.owned attempt inRows
      exact absurd (same.trans (ofEvent.trans id.symm)) (fresh owner inEvents)

theorem replies {limit : Nat} {mine : AttemptParams → Prop} {op : Op} {reply : Except Thrown op.Reply}
    (owes : op.Owes limit mine e w) (heeds : op.Heeds env ns w) (pays : op.Pays env ns w)
    (replies : Replies env w op reply w') : Ready env ns w' := by
  cases op with
  | store method =>
      obtain ⟨_, rfl⟩ := replies
      have begins : method.BeginsOwn D ns w.store := by
        cases method with
        | beginAttempt eventId request params => exact pays
        | _ => trivial
      exact ⟨ready.journal.of_apply owes, ready.filed.of_apply begins, ready.whole.of_apply owes,
        ready.apply owes heeds pays⟩
  | rpc provider call =>
      have signed {given : List Bytes} (of : given = [] ∨ given = handed call) :
          ∀ raw ∈ given, w.store.HasSigned e raw := by
        rcases of with rfl | rfl
        · exact fun raw mem => absurd mem List.not_mem_nil
        · exact fun raw mem => (owes raw mem).2
      cases reply with
      | ok answer =>
          obtain ⟨_, given, sent, rfl⟩ := replies
          exact ⟨ready.journal, ready.filed, ready.whole, ready.sends (signed (sent.imp_right And.left))⟩
      | error error =>
          obtain ⟨_, given, sent, rfl⟩ := replies
          exact ⟨ready.journal, ready.filed, ready.whole, ready.sends (signed sent)⟩
  | polls =>
      obtain ⟨_, rfl⟩ := replies
      exact ready
  | _ =>
      cases replies
      exact ready

/-- Operations that owe what they ask, heed the chain and record what landed keep it. -/
theorem of_step {limit : Nat} {mine : AttemptParams → Prop} {op : Op} {reply : Except Thrown op.Reply}
    (owes : op.Owes limit mine e w) (heeds : op.Heeds env ns w) (pays : op.Pays env ns w)
    (moved : step env w op reply w') : Ready env ns w' := by
  obtain ⟨middle, replied, later⟩ := moved
  exact (ready.replies owes heeds pays replied).passes later

theorem outside (acted : outside env w w') : Ready env ns w' := by
  rcases acted with passes | ⟨eventId, note, passes⟩
  · exact ready.passes passes
  · let flag := Method.setEventStatus eventId .needsAttention note
    have owes : flag.Owes 0 (fun _ => True) (column eventId) w.store := ⟨rfl, fun same => by cases same⟩
    have heeds : (Op.store flag).Heeds env ns w := fun same => by cases same
    have pays : (Op.store flag).Pays env ns w := trivial
    have begins : flag.BeginsOwn D ns w.store := trivial
    have flagged := ready.apply owes heeds pays
    have middle : Ready env ns
        { w with store := w.store.setEventStatus eventId OpenStatus.needsAttention note } :=
      ⟨ready.journal.of_apply owes, ready.filed.of_apply begins,
        ready.whole.of_apply owes, flagged.borne, flagged.unsigned, flagged.held, flagged.stopped,
        flagged.pending⟩
    exact middle.passes passes

end Ready

theorem Ready.initial (initial : w.Initial) : Ready env ns w := by
  obtain ⟨store, forwarded, _, _⟩ := initial
  refine ⟨store ▸ .empty, store ▸ .empty, ?_, ?_, ?_, ?_, ?_, fun e _ transaction sentFor => ?_⟩
  · rw [store]
    exact fun attempt mem => absurd mem List.not_mem_nil
  · rw [store]
    exact fun attempt mem => absurd mem List.not_mem_nil
  · rw [store]
    exact fun attempt mem => absurd mem List.not_mem_nil
  · rw [forwarded]
    exact fun raw mem => absurd mem List.not_mem_nil
  · rw [forwarded]
    exact fun raw mem => absurd mem List.not_mem_nil
  · obtain ⟨_, _, _, sent, _⟩ := sentFor
    rw [forwarded] at sent
    cases sent

end Synxed.Studio
