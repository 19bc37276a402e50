import Synxed.Studio.Accounted

/-!
The worker heeds the chain.

An attempt is marked, and an event made pending, only when its transactions have
stopped. A resolve knows that from what it heard (`Since.heeds`); settling knows it from
the pending event it begins with (`Ready.clear`), and loses it only by sending.

* `heeding_resolve`, `heeding_settle`: the two ways to decide an event.
-/

namespace Synxed.Studio

open Synxed.Lib Synxed.Program Synxed.Sdk

variable {D : Deployment} {env : Environment D} {ns : Pubkey} {w w' : World D env.net} {e : JsString}

/-! ### What a resolve heard -/

/-- It signs no attempt. -/
def Op.SignsNothing : Op → Prop
  | .store (.recordSigned _ _ _ _ _) => False
  | _ => True

theorem signsNothing_decides : Decides Op.SignsNothing where
  lookup _ _ _ := trivial
  polls := trivial
  log _ := trivial
  event _ := trivial
  note _ _ := trivial
  incident _ _ := trivial
  records _ _ _ _ _ := trivial
  attempts _ := trivial
  resends _ := trivial
  marks _ _ _ := trivial
  sets _ _ _ := trivial

variable (env ns) in
/-- In a resolve of the event that began in `w₀`, only attempts that were signed then
are signed, and are sent again. -/
structure Since (w₀ : World D env.net) (e : JsString) (w : World D env.net) : Prop where
  onward : Onward w₀ w
  ready : Ready env ns w
  signed : ∀ attempt ∈ w.store.attemptRows.rows, attempt.status = .signed →
    attempt ∈ w₀.store.attemptRows.rows
  sent : ∀ raw ∈ w.forwarded, raw ∈ w₀.forwarded ∨ ∃ attempt ∈ w₀.store.attemptRows.rows,
    attempt.eventId = e ∧ attempt.status = .signed ∧ attempt.Carries raw

namespace Since

variable {w₀ : World D env.net} {limit : Nat} {mine : AttemptParams → Prop} {op : Op}
  {reply : Except Thrown op.Reply}

theorem start (ready : Ready env ns w) : Since env ns w e w :=
  ⟨.refl w, ready, fun _ mem _ => mem, fun _ sent => .inl sent⟩

theorem step (since : Since env ns w₀ e w) (owes : op.Owes limit mine e w) (free : op.SignsNothing)
    (moved : step env w op reply w') (ready : Ready env ns w') : Since env ns w₀ e w' := by
  refine ⟨since.onward.trans moved.onward, ready, fun attempt mem isSigned => ?_, fun raw sent => ?_⟩
  · rw [moved.queues.attempts] at mem
    cases op with
    | store method =>
        cases Method.leaves mem with
        | kept old => exact since.signed attempt old isSigned
        | begun => cases isSigned
        | signed => exact free.elim
        | marked => rcases owes.2 with rfl | rfl <;> cases isSigned
        | landed => cases isSigned
    | _ => exact since.signed attempt mem isSigned
  · have given : raw ∈ w.forwarded ∨ w.store.HasSigned e raw := by
      obtain ⟨middle, replies, passes⟩ := moved
      rw [passes.forwarded] at sent
      cases op with
      | store method =>
          obtain ⟨_, rfl⟩ := replies
          exact .inl sent
      | rpc provider call =>
          cases reply with
          | ok answer =>
              obtain ⟨_, given, of, rfl⟩ := replies
              rcases List.mem_append.mp sent with before | now
              · exact .inl before
              · rcases of with rfl | ⟨rfl, _⟩
                · cases now
                · exact .inr (owes raw now).2
          | error error =>
              obtain ⟨_, given, of, rfl⟩ := replies
              rcases List.mem_append.mp sent with before | now
              · exact .inl before
              · rcases of with rfl | rfl
                · cases now
                · exact .inr (owes raw now).2
      | polls =>
          obtain ⟨_, rfl⟩ := replies
          exact .inl sent
      | _ =>
          cases replies
          exact .inl sent
    rcases given with before | signed
    · exact since.sent raw before
    · obtain ⟨attempt, mem, id, isSigned, carries⟩ := since.ready.carried signed
      exact .inr ⟨attempt, since.signed attempt mem isSigned, id, isSigned, carries⟩

end Since

section Evidence

variable (honest : ∀ call, env.honest .primary call) {w₀ : World D env.net} {attempt : StoredAttempt}
  {raw : Bytes} {transaction : SignedTransaction}
  (bears : attempt.Bears env.net env.host D ns raw transaction) (onward : Onward w₀ w)

include honest bears onward

/-- A transaction that an honest node reports confirmed landed. -/
theorem stopped_of_told {status : SignatureStatus} (told : attempt.Told w₀ w (some status))
    (confirmed : status.confirmationStatus = some .confirmed ∨
      status.confirmationStatus = some .finalized) :
    Cluster.Stopped env.net transaction (w.view .primary) := by
  obtain ⟨signature, signed, heard⟩ := told
  obtain ⟨view, _, later, truth⟩ := heard.truth onward (honest _)
  obtain ⟨landing, mem, id, _⟩ := truth confirmed
  have same := Option.some.inj (signed.symm.trans bears.signature)
  have landed : Cluster.Stopped env.net transaction view :=
    .inl ⟨landing, mem, base58Encode_injective (id.trans same)⟩
  exact landed.later later

/-- An attempt that was answered for cannot land any more. -/
theorem stopped_of_answered (answered : attempt.Gone w₀ w ∨ attempt.ReportedLanded w₀ w ∨
    attempt.ReportedFailed w₀ w) : Cluster.Stopped env.net transaction (w.view .primary) := by
  rcases answered with gone | ⟨status, told, _, confirmed⟩ | ⟨status, told, _, finalized⟩
  · obtain ⟨lastValid, height, last, above, heard⟩ := gone.past
    obtain ⟨view, _, later, truth⟩ := heard.truth onward (honest _)
    have same := Option.some.inj (last.symm.trans bears.height)
    have past : Cluster.Stopped env.net transaction view := by
      refine .inr ?_
      rw [← same, ← show height = view.height from truth]
      exact above.le
    exact past.later later
  · exact stopped_of_told honest bears onward told confirmed
  · exact stopped_of_told honest bears onward told (.inr finalized)

end Evidence

section Resolving

variable {options : WorkerOptions} {eventId : JsString} {w₀ : World D env.net}
  (honest : ∀ call, env.honest .primary call) (program : options.programId = D.programId)
  (sameNs : options.ns = ns)

include honest

/-- What was sent for the event had stopped when the resolve had looked at its
attempts. -/
theorem Since.stopped {w₁ : World D env.net} (since : Since env ns w₀ (column eventId) w)
    (ready : Ready env ns w₀) (before : Onward w₀ w₁)
    (answered : ∀ attempt ∈ w₀.store.attempts eventId, attempt.status = .signed →
      attempt.Gone w₀ w₁ ∨ attempt.ReportedLanded w₀ w₁ ∨ attempt.ReportedFailed w₀ w₁)
    {transaction : SignedTransaction} (sentFor : SentFor env (column eventId) transaction w) :
    Cluster.Stopped env.net transaction (w₁.view .primary) := by
  obtain ⟨attempt, mem, raw, sent, id, carries, parsed⟩ := sentFor
  have signed {other : StoredAttempt} (inRows : other ∈ w₀.store.attemptRows.rows)
      (isSigned : other.status = .signed) (carries' : other.Carries raw) :
      Cluster.Stopped env.net transaction (w₁.view .primary) := by
    have same := (ready.same_event since.ready inRows mem carries' carries).trans id
    obtain ⟨transaction', bears⟩ := ready.bears inRows carries'
    obtain rfl := Option.some.inj (bears.parsed.symm.trans parsed)
    exact stopped_of_answered honest bears before
      (answered other (Store.mem_attempts.mpr ⟨inRows, same⟩) isSigned)
  rcases since.sent raw sent with old | ⟨other, inRows, _, isSigned, carries'⟩
  · rcases ready.accounted.stopped raw old transaction parsed with ⟨other, inRows, isSigned, carries'⟩ |
      stopped
    · exact signed inRows isSigned carries'
    · exact stopped.later (before.view .primary)
  · exact signed inRows isSigned carries'

include program sameNs in
/-- An event that is abandoned was settled by none of its transactions. -/
theorem Since.noneSettled (since : Since env ns w₀ (column eventId) w) (ready : Ready env ns w₀)
    (abandoned : Abandoned env options eventId w₀ w) : NoneSettled env ns (column eventId) w := by
  obtain ⟨w₁, before, after, _, answered, seed', address, bump, account, seeded', found, heard, read⟩ :=
    abandoned
  intro transaction sentFor seed seeded settled
  have stopped := since.stopped honest ready before answered sentFor
  rw [eventIdSeed_of_column (column_column eventId), seeded'] at seeded
  obtain rfl := Except.ok.inj seeded
  obtain ⟨view, later, behind, truth⟩ := heard.truth after (honest _)
  have grown : view.Grown env.net := by
    obtain ⟨start, empty, grows⟩ := w₁.grown .primary
    exact ⟨start, empty, grows.trans later⟩
  rw [program, sameNs, findSettlementRecordPda_eq, env.addresses, Except.ok.injEq] at found
  obtain rfl : recordAddress D ns seed' = address := congrArg Prod.fst found
  rw [show account = _ from truth, program] at read
  exact grown.not_settledWith read
    (settled.earlier (stopped.later later) (behind.trans (w.behind .primary)))

include program sameNs in
/-- What a resolve does on what it heard heeds the chain. -/
theorem Since.heeds {limit : Nat} {mine : AttemptParams → Prop} {op : Op}
    (since : Since env ns w₀ (column eventId) w) (ready : Ready env ns w₀)
    (founded : op.Founded env options eventId w₀ w) (owes : op.Owes limit mine (column eventId) w)
    (free : op.SignsNothing) : op.Heeds env ns w := by
  cases op with
  | store method =>
      cases method with
      | recordSigned eventId n signature text lastValid => exact free.elim
      | setEventStatus id status note =>
          intro pending
          obtain ⟨same, abandoned⟩ := founded pending
          rw [same]
          exact since.noneSettled honest program sameNs ready abandoned
      | setAttemptStatus id n status =>
          obtain ⟨attempt, mem, sameId, number, failed, expired⟩ := founded
          intro other inRows key raw sent carries transaction parsed
          obtain rfl : other = attempt := List.inj_on_of_nodup_map w.store.attemptRows.unique inRows mem
            (by rw [key, sameId, number])
          obtain ⟨transaction', bears⟩ := since.ready.bears mem carries
          obtain rfl := Option.some.inj (bears.parsed.symm.trans parsed)
          refine stopped_of_answered honest bears since.onward ?_
          rcases owes.2 with isFailed | isExpired
          · rcases failed isFailed with prepared | ⟨_, reported⟩
            · have none := since.ready.accounted.unsigned other mem prepared
              cases none.symm.trans carries
            · exact .inr (.inr reported)
          · obtain ⟨_, _, gone | landed⟩ := expired isExpired
            · exact .inl gone
            · exact .inr (.inl landed)
      | _ => trivial
  | _ => trivial

end Resolving

/-! ### Signing -/

/-- What is signed parses as what was built, and bears the signature that is told. -/
theorem WorkerOptions.signed_parses {options : WorkerOptions} {net : Network}
    {prepared : PreparedSettlementN} {blockhash signature : JsString} {raw : Bytes}
    (signed : options.signed net.sign prepared blockhash = .ok (signature, raw)) :
    ∃ transaction, net.parse raw = some transaction ∧ signature = transaction.id ∧
      transaction.blockhash = blockhash ∧
      transaction.instructions = prepared.transaction.map compile := by
  obtain ⟨⟨bytes, raw'⟩, signs, ended⟩ := bind_eq_ok.mp signed
  cases bytes with
  | none => cases ended
  | some bytes =>
      cases ended
      exact ⟨_, net.parse_sign signs, rfl, rfl, rfl⟩

theorem prepared_of_beginAttempt {store store' : Store} {eventId : JsString} {n : Nat}
    {request : SettlementRequestN} {params : AttemptParams}
    (began : store.beginAttempt eventId request params = .ok (n, store')) :
    ∃ row ∈ store'.attemptRows.rows, row.eventId = column eventId ∧ row.attempt = n ∧
      row.request = request ∧ row.params = params ∧ row.status = .prepared := by
  obtain ⟨_, _, _, rfl, free, rfl⟩ := Store.beginAttempt_eq_ok began
  exact ⟨_, Table.mem_insertOrIgnore.mpr (.inr ⟨rfl, free, fun _ _ => rfl⟩), rfl, rfl, rfl, rfl, rfl⟩

/-! ### Heeding -/

variable (env ns) in
/-- An operation, with what is known of the world before it and after it. -/
def Accounting (w : World D env.net) (op : Op) (reply : Except Thrown op.Reply) (w' : World D env.net) :
    Prop :=
  Ready env ns w ∧ step env w op reply w' ∧ Ready env ns w'

variable (env ns) in
/-- A part of the worker heeds the chain. -/
abbrev Heeding {α : Type} (program : Work α) (post : α → World D env.net → Prop) (w : World D env.net) :
    Prop :=
  Interaction.Safe (Accounting env ns) (fun w op => op.Heeds env ns w) program
    (fun value w' => post value w' ∧ Ready env ns w') (fun _ w' => Ready env ns w') w

theorem Accounting.orderly {op : Op} {reply : Except Thrown op.Reply}
    (moved : Accounting env ns w op reply w') : Orderly env w op reply w' :=
  ⟨moved.1.journal, moved.2.1, moved.2.2.journal⟩

section Rules

variable {α : Type}

theorem Op.heeds_of_reads {op : Op} (reads : op.Reads) : op.Heeds env ns w := by
  cases op with
  | store method => cases method <;> first | exact trivial | exact reads.elim
  | _ => trivial

theorem heeding_reads {program : Work α} (uses : program.Uses Op.Reads) (ready : Ready env ns w) :
    Heeding env ns program (fun _ w' => Rests w w') w := by
  let kept (w' : World D env.net) : Prop := Rests w w' ∧ Ready env ns w'
  have start : kept w := ⟨.refl w, ready⟩
  exact (Interaction.Safe.of_uses uses (fun _ _ reads _ => Op.heeds_of_reads reads)
    (fun middle _ _ _ reads (rests : kept middle) moved =>
      ⟨rests.1.trans (moved.2.1.rests reads), moved.2.2⟩) start).mono (fun _ _ both => both)
    fun _ _ both => both.2

theorem heeding_call {method : Method} {post : method.Answer → World D env.net → Prop}
    (heeds : (Op.store method).Heeds env ns w)
    (ended : ∀ answer w', Accounting env ns w (.store method) (.ok answer) w' → post answer w') :
    Heeding env ns (call method) post w :=
  Interaction.safe_perform.mpr ⟨heeds, fun answer w' moved => ⟨ended answer w' moved, moved.2.2⟩,
    fun _ _ moved => moved.2.2⟩

/-- A method sends nothing, and what it signs was sent for the same event before. -/
theorem Accounting.sentFor {method : Method} {reply : Except Thrown method.Answer}
    {transaction : SignedTransaction} (moved : Accounting env ns w (.store method) reply w')
    (sentFor : SentFor env e transaction w') : SentFor env e transaction w := by
  obtain ⟨ready, stepped, ready'⟩ := moved
  obtain ⟨attempt, mem, raw, sent, rfl, carries, parsed⟩ := sentFor
  have sameRows := stepped.queues.attempts
  obtain ⟨middle, ⟨_, rfl⟩, passes⟩ := stepped
  rw [passes.forwarded] at sent
  obtain ⟨older, inRows, carries'⟩ := ready.accounted.held raw sent
  obtain ⟨older', inRows', turns⟩ := method.turns inRows
  have kept : older'.eventId = older.eventId ∧ older'.Carries raw := by
    cases turns with
    | kept => exact ⟨rfl, carries'⟩
    | signed key prepared =>
        have none := ready.accounted.unsigned older inRows prepared
        cases none.symm.trans carries'
    | marked key => exact ⟨rfl, carries'⟩
    | landed key => exact ⟨rfl, carries'⟩
  have here : older' ∈ w'.store.attemptRows.rows := by
    rw [sameRows]
    exact inRows'
  exact ⟨older, inRows, raw, sent, kept.1.symm.trans (ready'.same_event ready' here mem kept.2 carries),
    carries', parsed⟩

theorem Clear.called {method : Method} {reply : Except Thrown method.Answer} (clear : Clear env ns e w)
    (moved : Accounting env ns w (.store method) reply w') : Clear env ns e w' :=
  clear.onward moved.2.1.onward fun _ sentFor => moved.sentFor sentFor

/-- What an event that is clear marks heeds the chain. -/
theorem Clear.marks {eventId : JsString} (clear : Clear env ns (column eventId) w) (n : Nat)
    (status : DeadStatus) : (Op.store (.setAttemptStatus eventId n status)).Heeds env ns w :=
  fun attempt mem key raw sent carries transaction parsed => clear.stopped transaction
    ⟨attempt, mem, raw, sent, (Prod.mk.inj key).1, carries, parsed⟩

end Rules

section Resolve

variable {options : WorkerOptions} (honest : ∀ call, env.honest .primary call)
  (program : options.programId = D.programId) (sameNs : options.ns = ns)

include honest program sameNs

theorem heeding_resolve (eventId : JsString) (ready : Ready env ns w) :
    Heeding env ns (options.resolve env.host eventId) (fun _ _ => True) w := by
  have here (params : AttemptParams) (_ : options.Made params) : True := trivial
  have founded : Founding env options eventId w (options.resolve env.host eventId) _ w :=
    founded_resolve ready.whole
  have careful : Careful env options.attemptLimit (fun _ => True) (column eventId)
      (options.resolve env.host eventId) _ (fun _ _ => True) w := careful_resolve here rfl w
  have free : Interaction.Safe (Accounting env ns) (fun _ op => op.SignsNothing)
      (options.resolve env.host eventId) (fun _ _ => True) (fun _ _ => True) w :=
    Interaction.Safe.of_uses (signsNothing_decides.uses_resolve eventId) (fun _ _ free _ => free)
      (fun _ _ _ _ _ _ _ => trivial) trivial
  have all := ((founded.step_mono fun _ _ _ _ (moved : Accounting env ns _ _ _ _) => moved.2.1).both
    (careful.step_mono fun _ _ _ _ (moved : Accounting env ns _ _ _ _) => moved.orderly)).both free
  have kept := Interaction.Safe.keeps all (fun middle op reply w' guards
    (since : Since env ns w (column eventId) middle) moved =>
      since.step guards.1.2 guards.2 moved.2.1 moved.2.2) (.start ready)
  refine (kept.guard_mono fun middle op guards => ?_).mono (fun _ _ both => ⟨trivial, both.2.ready⟩)
    fun _ _ both => both.2.ready
  obtain ⟨⟨⟨founded, owes⟩, free⟩, since⟩ := guards
  exact since.heeds honest program sameNs ready founded owes free

theorem heeding_recheck (eventId : JsString) (ready : Ready env ns w) :
    Heeding env ns (options.recheck env.host eventId) (fun _ _ => True) w := by
  unfold WorkerOptions.recheck
  refine Interaction.Safe.bind (heeding_reads (uses_call trivial) ready) fun stored w told => ?_
  obtain ⟨_, ready⟩ := told
  cases stored with
  | none => exact ready
  | some event =>
      dsimp only
      split
      · exact ⟨trivial, ready⟩
      · split
        · have flagged : Heeding env ns (call (.setEventStatus eventId .inFlight
              (some (js "manual recheck")))) (fun _ _ => True) w :=
            heeding_call (fun same => by cases same) fun _ _ _ => trivial
          exact Interaction.Safe.bind flagged fun _ w told =>
            heeding_resolve honest program sameNs eventId told.2
        · exact heeding_resolve honest program sameNs eventId ready

theorem heeding_awaitOutcome (eventId : JsString) (polls : Nat) (ready : Ready env ns w) :
    Heeding env ns (options.awaitOutcome env.host eventId polls) (fun _ _ => True) w := by
  induction polls generalizing w with
  | zero => exact heeding_resolve honest program sameNs eventId ready
  | succ polls ih =>
      refine Interaction.Safe.bind (heeding_resolve honest program sameNs eventId ready)
        fun outcome w told => ?_
      split
      · exact told
      · exact ih told.2

theorem heeding_follow (eventId : JsString) (ready : Ready env ns w) :
    Heeding env ns (options.follow env.host eventId) (fun _ _ => True) w :=
  Interaction.Safe.bind (heeding_reads (Interaction.uses_perform.mpr reads_looks.polls) ready)
    fun polls _ told => heeding_awaitOutcome honest program sameNs eventId polls told.2

/-- A refused attempt left the event clear. -/
theorem heeding_settleRefused {event : StoredEvent} (attempt : Nat) (reason : JsString)
    (clear : Clear env ns (column event.eventId) w) :
    Heeding env ns (options.settleRefused env.host event attempt reason) (fun _ _ => True) w := by
  unfold WorkerOptions.settleRefused
  have failed : Heeding env ns (call (.setAttemptStatus event.eventId attempt .failed))
      (fun _ w' => Clear env ns (column event.eventId) w') w :=
    heeding_call (clear.marks attempt .failed) fun _ _ moved => clear.called moved
  refine Interaction.Safe.bind failed fun _ w told => ?_
  obtain ⟨clear, ready⟩ := told
  refine Interaction.Safe.bind (heeding_reads Interaction.uses_ofExcept ready) fun seed w told => ?_
  have clear := clear.rests told.1
  refine Interaction.Safe.bind (heeding_reads (reads_looks.uses_readRecord seed) told.2)
    fun read w told => ?_
  have clear := clear.rests told.1
  have noted (note : JsString) : Heeding env ns (WorkerOptions.unresolved event.eventId note)
      (fun _ _ => True) w :=
    Interaction.Safe.bind (heeding_call (fun same => by cases same) fun _ _ _ => trivial)
      fun _ _ told => told
  cases read with
  | failed error => exact noted _
  | disagree => exact noted _
  | absent =>
      have pending : Heeding env ns (call (.setEventStatus event.eventId .pending (some reason)))
          (fun _ _ => True) w := heeding_call (fun _ => clear.unsettled) fun _ _ _ => trivial
      refine Interaction.Safe.bind pending fun _ w told => ?_
      exact Interaction.Safe.bind (heeding_reads (reads_looks.uses_log _) told.2)
        fun _ _ told => ⟨trivial, told.2⟩
  | present =>
      exact Interaction.Safe.bind (heeding_reads (reads_looks.uses_log _) told.2)
        fun _ _ told => heeding_follow honest program sameNs event.eventId told.2

theorem heeding_send {event : StoredEvent} (attempt : Nat) (raw : Bytes)
    (clear : Clear env ns (column event.eventId) w) :
    Heeding env ns (options.send env.host event attempt raw) (fun _ _ => True) w := by
  unfold WorkerOptions.send
  have sent : Heeding env ns (Interaction.result ((connectionTo .primary).request
      (.sendRawTransaction raw false))) (fun sent w' => ∀ reason, sent = .ok (.refused reason) →
        Clear env ns (column event.eventId) w') w := by
    have asked : Heeding env ns ((connectionTo .primary).request (.sendRawTransaction raw false))
        (fun answer w' => ∀ reason, answer = .refused reason → Clear env ns (column event.eventId) w')
        w := by
      refine Interaction.safe_perform.mpr
        ⟨trivial, fun answer w' moved => ⟨?_, moved.2.2⟩, fun _ _ moved => moved.2.2⟩
      rintro reason rfl
      -- an honest node that refuses a transaction did not forward it
      have sameRows := moved.2.1.queues.attempts
      have forwarded : w'.forwarded = w.forwarded := by
        obtain ⟨middle, ⟨_, given, none | ⟨_, forwarded⟩, rfl⟩, passes⟩ := moved.2.1
        · rw [passes.forwarded, none, List.append_nil]
        · exact absurd ⟨honest _, trivial⟩ forwarded
      exact clear.onward moved.2.1.onward fun _ sentFor => sentFor.of_eq sameRows forwarded
    exact asked.result (fun _ _ told => ⟨fun reason same => told.1 reason (Except.ok.inj same), told.2⟩)
      fun _ _ ready => ⟨fun _ same => (by cases same), ready⟩
  refine Interaction.Safe.bind sent fun sent w told => ?_
  obtain ⟨clear, ready⟩ := told
  rcases sent with error | accepted | reason
  · exact Interaction.Safe.bind (heeding_reads (reads_looks.uses_log _) ready)
      fun _ _ told => heeding_follow honest program sameNs event.eventId told.2
  · exact heeding_follow honest program sameNs event.eventId ready
  · exact heeding_settleRefused honest program sameNs attempt reason (clear reason rfl)

omit honest program sameNs in
/-- A prepared attempt was never sent. -/
theorem heeding_giveUp {eventId : JsString} {n : Nat} (note : JsString) {row : StoredAttempt}
    (mem : row ∈ w.store.attemptRows.rows) (key : (row.eventId, row.attempt) = (column eventId, n))
    (prepared : row.status = .prepared) (ready : Ready env ns w) :
    Heeding env ns (WorkerOptions.giveUp eventId n note) (fun _ _ => True) w := by
  have failed : Heeding env ns (call (.setAttemptStatus eventId n .failed)) (fun _ _ => True) w := by
    refine heeding_call (fun attempt inRows sameKey raw sent carries => ?_) fun _ _ _ => trivial
    obtain rfl : attempt = row :=
      List.inj_on_of_nodup_map w.store.attemptRows.unique inRows mem (sameKey.trans key.symm)
    have none := ready.accounted.unsigned attempt mem prepared
    cases none.symm.trans carries
  refine Interaction.Safe.bind failed fun _ w told => ?_
  have flagged : Heeding env ns (call (.setEventStatus eventId .needsAttention (some note)))
      (fun _ _ => True) w := heeding_call (fun same => by cases same) fun _ _ _ => trivial
  refine Interaction.Safe.bind flagged fun _ w told => ?_
  exact Interaction.Safe.bind (heeding_reads (reads_looks.uses_log _) told.2)
    fun _ _ told => ⟨trivial, told.2⟩

/-- A pending event is settled from a clear start. -/
theorem heeding_settle {event : StoredEvent} (ready : Ready env ns w)
    (named : column event.eventId = event.eventId)
    (standing : w.store.Standing event.eventId .pending) :
    Heeding env ns (options.settle env.host env.net.sign event) (fun _ _ => True) w := by
  have clear := ready.clear standing
  rw [← named] at clear
  unfold WorkerOptions.settle
  split
  · exact Interaction.Safe.bind (heeding_call (fun same => by cases same) fun _ _ _ => trivial)
      fun _ _ told => told
  have latest : Heeding env ns (Interaction.result ((connectionTo .primary).request .getLatestBlockhash))
      (fun latest w' => Rests w w' ∧ ∀ read, latest = .ok read →
        read.lastValidBlockHeight = env.net.lastValid read.blockhash) w := by
    have asked : Interaction.Safe (Accounting env ns) (fun w op => op.Heeds env ns w)
        ((connectionTo .primary).request .getLatestBlockhash)
        (fun read _ => read.lastValidBlockHeight = env.net.lastValid read.blockhash)
        (fun _ _ => True) w := by
      refine Interaction.safe_perform.mpr ⟨trivial, fun read w' moved => ?_, fun _ _ _ => trivial⟩
      obtain ⟨_, _, _, truth⟩ := moved.2.1.heard.truth moved.2.1.onward (honest _)
      exact truth
    have reads := heeding_reads (Interaction.uses_result
      (reads_looks.uses_request .primary .getLatestBlockhash trivial)) ready
    have told : Interaction.Safe (Accounting env ns) (fun w op => op.Heeds env ns w)
        (Interaction.result ((connectionTo .primary).request .getLatestBlockhash))
        (fun latest _ => ∀ read, latest = .ok read →
          read.lastValidBlockHeight = env.net.lastValid read.blockhash) (fun _ _ => True) w :=
      Interaction.Safe.result_ok asked
    exact (reads.and told).mono (fun _ _ both => ⟨⟨both.1.1, both.2⟩, both.1.2⟩)
      fun _ _ both => both.1
  refine Interaction.Safe.bind latest fun latest w told => ?_
  obtain ⟨⟨rests, lasts⟩, ready⟩ := told
  have clear := clear.rests rests
  cases latest with
  | error error =>
      dsimp only
      have pending : Heeding env ns (call (.setEventStatus event.eventId .pending
          (some (js "could not read a blockhash: " ++ error.text)))) (fun _ _ => True) w :=
        heeding_call (fun _ => clear.unsettled) fun _ _ _ => trivial
      refine Interaction.Safe.bind pending fun _ w told => ?_
      exact Interaction.Safe.bind (heeding_reads (reads_looks.uses_log _) told.2)
        fun _ _ told => ⟨trivial, told.2⟩
  | ok latest =>
      have lasts := lasts latest rfl
      have began : Heeding env ns (call (.beginAttempt event.eventId event.request options.params))
          (fun n w' => Clear env ns (column event.eventId) w' ∧ ∃ row ∈ w'.store.attemptRows.rows,
            (row.eventId, row.attempt) = (column event.eventId, n) ∧
              WorkerOptions.storedRequest row = ⟨event.request, options.params⟩ ∧
              row.status = .prepared) w := by
        refine heeding_call trivial fun n w' moved => ⟨clear.called moved, ?_⟩
        have sameRows := moved.2.1.queues.attempts
        obtain ⟨middle, ⟨wrote, _⟩, _⟩ := moved.2.1
        cases done : w.store.beginAttempt event.eventId event.request options.params with
        | error error => simp [Method.apply, done] at wrote
        | ok result =>
            obtain ⟨number, store'⟩ := result
            simp only [Method.apply, done, Except.ok.injEq] at wrote
            subst wrote
            obtain ⟨row, mem, id, number, request, params, prepared⟩ := prepared_of_beginAttempt done
            refine ⟨row, ?_, by rw [id, number], ?_, prepared⟩
            swap
            · rw [WorkerOptions.storedRequest, request, params]
            rw [sameRows]
            simpa only [Op.after, Method.apply, done] using mem
      refine Interaction.Safe.bind began fun n w told => ?_
      obtain ⟨⟨clear, row, mem, key, stored, prepared⟩, ready⟩ := told
      split
      · exact heeding_giveUp _ mem key prepared ready
      next prepared' built =>
      split
      · exact heeding_giveUp _ mem key prepared ready
      next signature raw signs =>
      obtain ⟨transaction, parsed, rfl, sameHash, instructions⟩ := WorkerOptions.signed_parses signs
      have signed : Heeding env ns (call (.recordSigned event.eventId n transaction.id
          (base64Encode raw) latest.lastValidBlockHeight))
          (fun _ w' => Clear env ns (column event.eventId) w') w := by
        refine heeding_call ⟨raw, transaction, rfl, parsed, rfl, by rw [lasts, sameHash],
          fun attempt inRows sameKey => ?_⟩ fun _ _ moved => clear.called moved
        obtain rfl : attempt = row :=
          List.inj_on_of_nodup_map w.store.attemptRows.unique inRows mem (sameKey.trans key.symm)
        rw [stored]
        exact ⟨options, prepared', program, sameNs, rfl, built, instructions⟩
      refine Interaction.Safe.bind signed fun _ w told => ?_
      have free : (Op.beforeSend event.eventId transaction.id).Reads := trivial
      refine Interaction.Safe.bind (heeding_reads (uses_ask free) told.2) fun _ w' told' => ?_
      have clear := told.1.rests told'.1
      refine Interaction.Safe.bind (heeding_reads (reads_looks.uses_log _) told'.2) fun _ w' told' => ?_
      exact heeding_send honest program sameNs n raw (clear.rests told'.1)

end Resolve

end Synxed.Studio
