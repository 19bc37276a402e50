import Synxed.Studio.Careful

/-!
What the worker heard of the attempts that it expires.

A resolve asks for the status of every signed attempt and for one block height,
then for the record.

* `looks_mayStillLand`: when nothing may still land, every signed attempt is
  answered for.
* `founded_resolve`: a resolve marks attempts, and makes its event pending, on
  what it heard of them before.
* `gone_of_expiring`, `dead_of_retrying`: what it heard is evidence that they are
  dead, unless it heard that they landed.
* `expired_iff`: so it is such evidence exactly when none was reported to have landed.
-/

namespace Synxed.Studio

open Synxed.Lib Synxed.Program Synxed.Sdk

variable {D : Deployment} {env : Environment D} {w₀ w₁ w w' : World D env.net} {eventId : JsString}

/-! ### What was heard of an attempt -/

namespace StoredAttempt

/-- Since `w₀` the primary gave this status of the attempt. -/
def Told (attempt : StoredAttempt) (w₀ w : World D env.net) (status : Option SignatureStatus) : Prop :=
  ∃ signature, attempt.signature = some signature ∧
    Heard w₀ w .primary (.getSignatureStatuses signature) status

/-- It had no status, and a block height above its last valid one was read. -/
structure Gone (attempt : StoredAttempt) (w₀ w : World D env.net) : Prop where
  unknown : attempt.Told w₀ w none
  past : ∃ lastValid height, attempt.lastValidBlockHeight = some lastValid ∧ lastValid < height ∧
    Heard w₀ w .primary .getBlockHeight height

/-- It was reported confirmed or finalized, without an error. -/
def ReportedLanded (attempt : StoredAttempt) (w₀ w : World D env.net) : Prop :=
  ∃ status, attempt.Told w₀ w (some status) ∧ status.err = none ∧
    (status.confirmationStatus = some .confirmed ∨ status.confirmationStatus = some .finalized)

/-- It was reported finalized, with an error. -/
def ReportedFailed (attempt : StoredAttempt) (w₀ w : World D env.net) : Prop :=
  ∃ status, attempt.Told w₀ w (some status) ∧ status.err ≠ none ∧
    status.confirmationStatus = some .finalized

/-- It was signed, and what is needed to resend it was stored. -/
def Whole (attempt : StoredAttempt) : Prop :=
  ∃ signature raw lastValid, attempt.signature = some signature ∧
    attempt.rawTransaction = some raw ∧ attempt.lastValidBlockHeight = some lastValid

variable {attempt : StoredAttempt}

theorem Told.later {status : Option SignatureStatus} (told : attempt.Told w₀ w status)
    (onward : Onward w w') : attempt.Told w₀ w' status := by
  obtain ⟨signature, signed, heard⟩ := told
  exact ⟨signature, signed, heard.later onward⟩

theorem Gone.later (gone : attempt.Gone w₀ w) (onward : Onward w w') : attempt.Gone w₀ w' := by
  obtain ⟨unknown, lastValid, height, last, above, heard⟩ := gone
  exact ⟨unknown.later onward, lastValid, height, last, above, heard.later onward⟩

theorem ReportedLanded.later (landed : attempt.ReportedLanded w₀ w) (onward : Onward w w') :
    attempt.ReportedLanded w₀ w' := by
  obtain ⟨status, told, rest⟩ := landed
  exact ⟨status, told.later onward, rest⟩

theorem ReportedFailed.later (failed : attempt.ReportedFailed w₀ w) (onward : Onward w w') :
    attempt.ReportedFailed w₀ w' := by
  obtain ⟨status, told, rest⟩ := failed
  exact ⟨status, told.later onward, rest⟩

end StoredAttempt

/-- Every signed attempt is whole. -/
def Store.Whole (store : Store) : Prop :=
  ∀ attempt ∈ store.attemptRows.rows, attempt.status = .signed → attempt.Whole

/-! ### Looking at the attempts -/

/-- Things were looked up: no attempt changed, and nothing was sent. -/
structure Rests (w w' : World D env.net) : Prop where
  onward : Onward w w'
  rows : w'.store.attemptRows = w.store.attemptRows
  sent : w'.forwarded = w.forwarded

theorem Rests.refl (w : World D env.net) : Rests w w := ⟨.refl w, rfl, rfl⟩

theorem Rests.trans (first : Rests w₀ w) (second : Rests w w') : Rests w₀ w' :=
  ⟨first.onward.trans second.onward, second.rows.trans first.rows, second.sent.trans first.sent⟩

theorem step.rests {op : Op} {reply : Except Thrown op.Reply} (moved : step env w op reply w')
    (reads : op.Reads) : Rests w w' := by
  have queues := moved.queues
  rw [Op.after_of_reads reads] at queues
  refine ⟨moved.onward, queues.attempts, ?_⟩
  obtain ⟨middle, replies, passes⟩ := moved
  rw [passes.forwarded]
  cases op with
  | rpc provider call =>
      have none : handed call = [] := handed_of_lookup reads
      cases reply with
      | ok answer =>
          obtain ⟨_, given, sent, rfl⟩ := replies
          rcases sent with rfl | ⟨rfl, _⟩
          · exact List.append_nil _
          · rw [none, List.append_nil]
      | error error =>
          obtain ⟨_, given, sent, rfl⟩ := replies
          rcases sent with rfl | rfl
          · exact List.append_nil _
          · rw [none, List.append_nil]
  | store method =>
      obtain ⟨_, rfl⟩ := replies
      rfl
  | polls =>
      obtain ⟨_, rfl⟩ := replies
      rfl
  | _ =>
      cases replies
      rfl

/-- The worker looks at the attempts that the event had in `w₀`, of which `rest` is
left. -/
structure Looking (w₀ : World D env.net) (eventId : JsString) (rest : List StoredAttempt)
    (waiting : Bool) (height : Option Nat) (w : World D env.net) : Prop where
  onward : Onward w₀ w
  height : ∀ read, height = some read → Heard w₀ w .primary .getBlockHeight read
  left : ∀ attempt ∈ rest, attempt ∈ w.store.attemptRows.rows ∧ attempt.eventId = column eventId
  distinct : (rest.map StoredAttempt.attempt).Nodup
  signed : ∀ attempt ∈ w.store.attemptRows.rows, attempt.status = .signed →
    attempt ∈ w₀.store.attemptRows.rows
  unsent : waiting = false → w.forwarded = w₀.forwarded
  answered : waiting = false → ∀ attempt ∈ w₀.store.attempts eventId, attempt.status = .signed →
    attempt ∈ rest ∨ attempt.Gone w₀ w ∨ attempt.ReportedLanded w₀ w ∨
      attempt.ReportedFailed w₀ w ∧ attempt ∉ w.store.attemptRows.rows

namespace Looking

variable {rest : List StoredAttempt} {waiting : Bool} {height : Option Nat} {attempt : StoredAttempt}

theorem rests (looking : Looking w₀ eventId rest waiting height w) (rests : Rests w w') :
    Looking w₀ eventId rest waiting height w' where
  onward := looking.onward.trans rests.onward
  height read same := (looking.height read same).later rests.onward
  left := by
    rw [rests.rows]
    exact looking.left
  distinct := looking.distinct
  signed := by
    rw [rests.rows]
    exact looking.signed
  unsent still := rests.sent.trans (looking.unsent still)
  answered still attempt mem isSigned := by
    rw [rests.rows]
    rcases looking.answered still attempt mem isSigned with left | gone | landed | ⟨failed, away⟩
    · exact .inl left
    · exact .inr (.inl (gone.later rests.onward))
    · exact .inr (.inr (.inl (landed.later rests.onward)))
    · exact .inr (.inr (.inr ⟨failed.later rests.onward, away⟩))

/-- The worker waits for an attempt, which it may have sent again. -/
theorem waits (looking : Looking w₀ eventId (attempt :: rest) waiting height w) (onward : Onward w w')
    (rows : w'.store.attemptRows = w.store.attemptRows) :
    Looking w₀ eventId rest true height w' where
  onward := looking.onward.trans onward
  height read same := (looking.height read same).later onward
  left later mem := by
    rw [rows]
    exact looking.left later (List.mem_cons_of_mem _ mem)
  distinct := (List.nodup_cons.mp looking.distinct).2
  signed := by
    rw [rows]
    exact looking.signed
  unsent still := by cases still
  answered still := by cases still

/-- An attempt is done with. -/
theorem tail (looking : Looking w₀ eventId (attempt :: rest) waiting height w)
    (told : attempt.status = .signed → attempt.Gone w₀ w ∨ attempt.ReportedLanded w₀ w) :
    Looking w₀ eventId rest waiting height w where
  onward := looking.onward
  height := looking.height
  left later mem := looking.left later (List.mem_cons_of_mem _ mem)
  distinct := (List.nodup_cons.mp looking.distinct).2
  signed := looking.signed
  unsent := looking.unsent
  answered still other mem isSigned := by
    rcases looking.answered still other mem isSigned with left | evidence
    · rcases List.mem_cons.mp left with rfl | inRest
      · rcases told isSigned with gone | landed
        · exact .inr (.inl gone)
        · exact .inr (.inr (.inl landed))
      · exact .inl inRest
    · exact .inr evidence

/-- A height was read. -/
theorem reads {read : Nat} (looking : Looking w₀ eventId rest waiting height w)
    (heard : Heard w₀ w .primary .getBlockHeight read) :
    Looking w₀ eventId rest waiting (some read) w where
  onward := looking.onward
  height other same := by
    obtain rfl := Option.some.inj same
    exact heard
  left := looking.left
  distinct := looking.distinct
  signed := looking.signed
  unsent := looking.unsent
  answered := looking.answered

/-- An attempt failed. -/
theorem fails (looking : Looking w₀ eventId (attempt :: rest) waiting height w)
    (told : attempt.status = .signed → attempt.ReportedFailed w₀ w) (onward : Onward w w')
    (rows : w'.store.attemptRows =
      (w.store.setAttemptStatus attempt.eventId attempt.attempt DeadStatus.failed).attemptRows)
    (sent : w'.forwarded = w.forwarded) : Looking w₀ eventId rest waiting height w' := by
  obtain ⟨here, id⟩ := looking.left attempt List.mem_cons_self
  have key : column attempt.eventId = attempt.eventId := by rw [id, column_column]
  -- the row that changed is not signed any more
  have old (other : StoredAttempt) (mem : other ∈ w'.store.attemptRows.rows)
      (isSigned : other.status = .signed) :
      other ∈ w.store.attemptRows.rows ∧ (other.eventId, other.attempt) ≠ (attempt.eventId, attempt.attempt) := by
    rw [rows] at mem
    rcases Table.mem_changed.mp mem with ⟨inRows, elsewhere⟩ | ⟨before, _, _, rfl⟩
    · rw [key] at elsewhere
      exact ⟨inRows, elsewhere⟩
    · cases isSigned
  refine ⟨looking.onward.trans onward, fun read same => (looking.height read same).later onward,
    fun later mem => ?_, (List.nodup_cons.mp looking.distinct).2,
    fun other mem isSigned => looking.signed other (old other mem isSigned).1 isSigned,
    fun still => sent.trans (looking.unsent still), fun still other mem isSigned => ?_⟩
  · obtain ⟨inRows, laterId⟩ := looking.left later (List.mem_cons_of_mem _ mem)
    refine ⟨?_, laterId⟩
    rw [rows]
    refine Table.mem_changed.mpr (.inl ⟨inRows, fun same => ?_⟩)
    exact (List.nodup_cons.mp looking.distinct).1 ((Prod.mk.inj same).2 ▸ List.mem_map_of_mem mem)
  · rcases looking.answered still other mem isSigned with left | gone | landed | ⟨failed, away⟩
    · rcases List.mem_cons.mp left with rfl | inRest
      · exact .inr (.inr (.inr ⟨(told isSigned).later onward,
          fun stays => (old other stays isSigned).2 rfl⟩))
      · exact .inl inRest
    · exact .inr (.inl (gone.later onward))
    · exact .inr (.inr (.inl (landed.later onward)))
    · exact .inr (.inr (.inr ⟨failed.later onward, fun stays => away (old other stays isSigned).1⟩))

end Looking

/-! ### What the worker acts on -/

variable (env) in
/-- Since `w₁` the primary showed no record of the event. -/
def RecordAbsent (options : WorkerOptions) (eventId : JsString) (w₁ w : World D env.net) : Prop :=
  ∃ seed address bump account, eventIdSeed env.host eventId = .ok seed ∧
    findSettlementRecordPda env.host options.programId options.ns seed.val = .ok (address, bump) ∧
    Heard w₁ w .primary (.getAccountInfo address) account ∧
    readSettlementRecord options.programId address account seed = .ok none

variable (env) in
/-- In a resolve that began in `w₀`, every signed attempt was answered for, nothing was
sent again, and then the primary showed no record. -/
def Abandoned (options : WorkerOptions) (eventId : JsString) (w₀ w : World D env.net) : Prop :=
  ∃ w₁, Onward w₀ w₁ ∧ Onward w₁ w ∧ w₁.forwarded = w₀.forwarded ∧
    (∀ attempt ∈ w₀.store.attempts eventId, attempt.status = .signed →
      attempt.Gone w₀ w₁ ∨ attempt.ReportedLanded w₀ w₁ ∨ attempt.ReportedFailed w₀ w₁) ∧
    RecordAbsent env options eventId w₁ w

variable (env) in
/-- What a resolve of the event that began in `w₀` heard before it asks an operation:
an attempt that failed was never signed or is finalized with an error, one that expires
was answered for, and the event is pending again once it is abandoned. -/
def Op.Founded (options : WorkerOptions) (eventId : JsString) (w₀ w : World D env.net) : Op → Prop
  | .store (.setAttemptStatus id n status) =>
      ∃ attempt ∈ w.store.attemptRows.rows, attempt.eventId = column id ∧ attempt.attempt = n ∧
        (status = .failed → attempt.status = .prepared ∨
          attempt.status = .signed ∧ attempt.ReportedFailed w₀ w) ∧
        (status = .expired → attempt ∈ w₀.store.attempts eventId ∧ attempt.status = .signed ∧
          (attempt.Gone w₀ w ∨ attempt.ReportedLanded w₀ w))
  | .store (.setEventStatus id status _) => status = .pending →
      column id = column eventId ∧ Abandoned env options eventId w₀ w
  | _ => True

variable {options : WorkerOptions} {α : Type}

variable (env) in
/-- A part of a resolve that began in `w₀`. -/
abbrev Founding (options : WorkerOptions) (eventId : JsString) (w₀ : World D env.net)
    (program : Work α) (post : α → World D env.net → Prop) (w : World D env.net) : Prop :=
  Interaction.Safe (step env) (Op.Founded env options eventId w₀) program post (fun _ _ => True) w

theorem Op.founded_of_reads {op : Op} (reads : op.Reads) : op.Founded env options eventId w₀ w := by
  cases op with
  | store method => cases method <;> first | exact trivial | exact reads.elim
  | _ => trivial

theorem founding_reads {program : Work α} (uses : program.Uses Op.Reads) :
    Founding env options eventId w₀ program (fun _ w' => Rests w w') w :=
  (Interaction.Safe.of_uses uses (fun _ _ reads _ => Op.founded_of_reads reads)
    (fun _ _ _ _ reads rests moved => rests.trans (step.rests moved reads)) (.refl w)).mono
    (fun _ _ rests => rests) fun _ _ _ => trivial

/-- What is only looked up leaves the attempts alone, whatever else it tells. -/
theorem founding_rests {program : Work α} {post : α → World D env.net → Prop}
    (uses : program.Uses Op.Reads) (told : Founding env options eventId w₀ program post w) :
    Founding env options eventId w₀ program (fun value w' => post value w' ∧ Rests w w') w :=
  (Interaction.Safe.and told (founding_reads uses)).mono (fun _ _ both => both) fun _ _ _ => trivial

/-- Ask the primary. -/
theorem founding_request {call : Rpc} (lookup : call.IsLookup) :
    Founding env options eventId w₀ ((connectionTo .primary).request call)
      (fun answer w' => Rests w w' ∧ Heard w w' .primary call answer) w :=
  Interaction.safe_perform.mpr ⟨trivial,
    fun _ _ moved => ⟨step.rests moved lookup, step.heard moved⟩, fun _ _ _ => trivial⟩

/-- Looking at the attempts answers for all that are signed, or waits. -/
theorem looks_mayStillLand
    (whole : w₀.store.Whole) :
    ∀ (waiting : Bool) (height : Option Nat) (rest : List StoredAttempt) (w : World D env.net),
      Looking w₀ eventId rest waiting height w → Founding env options eventId w₀
        (WorkerOptions.mayStillLand waiting height rest)
        (fun waiting' w' => ∃ height', Looking w₀ eventId [] waiting' height' w') w
  | _, height, [], _, looking => ⟨height, looking⟩
  | waiting, height, attempt :: rest, w, looking => by
      have later (waiting : Bool) (height : Option Nat) (w : World D env.net) :=
        looks_mayStillLand whole waiting height rest w
      have fails {w : World D env.net} {height : Option Nat}
          (looking : Looking w₀ eventId (attempt :: rest) waiting height w)
          (reason : attempt.status = .prepared ∨
            attempt.status = .signed ∧ attempt.ReportedFailed w₀ w) :
          Founding env options eventId w₀
            (call (.setAttemptStatus attempt.eventId attempt.attempt .failed))
            (fun _ w' => Looking w₀ eventId rest waiting height w') w := by
        obtain ⟨here, id⟩ := looking.left attempt List.mem_cons_self
        have key : column attempt.eventId = attempt.eventId := by rw [id, column_column]
        refine Interaction.safe_perform.mpr ⟨⟨attempt, here, key.symm, rfl, fun _ => reason,
          fun same => by cases same⟩, fun _ w' moved => ?_, fun _ _ _ => trivial⟩
        have sent : w'.forwarded = w.forwarded := by
          obtain ⟨middle, ⟨_, rfl⟩, passes⟩ := moved
          exact passes.forwarded
        refine looking.fails (fun isSigned => ?_) (step.onward moved) (step.queues moved).attempts sent
        rcases reason with prepared | ⟨_, failed⟩
        · rw [prepared] at isSigned
          cases isSigned
        · exact failed
      unfold WorkerOptions.mayStillLand
      split
      · next prepared =>
        exact Interaction.Safe.bind (fails looking (.inl prepared))
          fun _ w looking => later waiting height w looking
      split
      · next signature isSigned signed =>
        refine Interaction.Safe.bind (founding_request trivial) fun status w' told => ?_
        obtain ⟨rests, heard⟩ := told
        have told : attempt.Told w₀ w' status := ⟨signature, signed, heard.earlier looking.onward⟩
        have looking := looking.rests rests
        cases status with
        | some status =>
            dsimp only
            split
            · exact later true height w' (looking.waits (.refl w') rfl)
            · next settled =>
              have confirmed : status.confirmationStatus = some .confirmed ∨
                  status.confirmationStatus = some .finalized := by
                rw [not_and_or, not_not, not_not] at settled
                exact settled.symm
              split
              · next clean =>
                exact later waiting height w' (looking.tail fun _ => .inr ⟨status, told, clean, confirmed⟩)
              · next error =>
                split
                · next finalized =>
                  exact Interaction.Safe.bind
                    (fails looking (.inr ⟨isSigned, status, told, error, finalized⟩))
                    fun _ w looking => later waiting height w looking
                · exact later true height w' (looking.waits (.refl w') rfl)
        | none =>
            have known (read : Nat) (w : World D env.net) (told : attempt.Told w₀ w none)
                (looking : Looking w₀ eventId (attempt :: rest) waiting (some read) w) :
                Founding env options eventId w₀ (WorkerOptions.resend waiting attempt rest read)
                  (fun waiting' w' => ∃ height', Looking w₀ eventId [] waiting' height' w') w := by
              obtain ⟨here, _⟩ := looking.left attempt List.mem_cons_self
              obtain ⟨_, raw, lastValid, _, bytes, last⟩ :=
                whole attempt (looking.signed attempt here isSigned) isSigned
              unfold WorkerOptions.resend
              rw [bytes, last]
              dsimp only
              split
              · -- it is sent again, and the worker waits
                have sent : Founding env options eventId w₀ (Interaction.result
                    ((connectionTo .primary).request (.sendRawTransaction (base64Decode raw) true)))
                    (fun _ w' => Looking w₀ eventId rest true (some read) w') w :=
                  Interaction.Safe.result (Interaction.safe_perform.mpr ⟨trivial,
                    fun _ _ moved => looking.waits (step.onward moved) (step.queues moved).attempts,
                    fun _ _ moved => looking.waits (step.onward moved) (step.queues moved).attempts⟩)
                    (fun _ _ looking => looking) fun _ _ looking => looking
                exact Interaction.Safe.bind sent fun _ w looking => later true (some read) w looking
              · next above =>
                exact later waiting (some read) w (looking.tail fun _ => .inl
                  ⟨told, lastValid, read, last, Nat.lt_of_not_le above, looking.height read rfl⟩)
            cases height with
            | some read => exact known read w' told looking
            | none =>
                refine Interaction.Safe.bind (founding_request trivial) fun read w told' => ?_
                obtain ⟨rests, heard⟩ := told'
                exact known read w (told.later rests.onward)
                  ((looking.rests rests).reads (heard.earlier looking.onward))
      · next other =>
        refine later waiting height w (looking.tail fun isSigned => ?_)
        obtain ⟨here, _⟩ := looking.left attempt List.mem_cons_self
        obtain ⟨signature, _, _, signed, _⟩ :=
          whole attempt (looking.signed attempt here isSigned) isSigned
        exact absurd signed (other signature isSigned)

/-! ### Deciding -/

/-- A computation that asks nothing. -/
theorem founding_ofExcept (result : Except Thrown α) :
    Founding env options eventId w₀ (.ofExcept result) (fun value w' => result = .ok value ∧ w' = w) w :=
  Interaction.safe_ofExcept.mpr ⟨fun _ ended => ⟨ended, rfl⟩, fun _ _ => trivial⟩

theorem founding_fetchSettlementRecord {seed : Bytes32}
    (seeded : eventIdSeed env.host eventId = .ok seed) :
    Founding env options eventId w₀
      (fetchSettlementRecord env.host (connectionTo .primary) options.programId options.ns seed)
      (fun record w' => record = none → RecordAbsent env options eventId w w') w := by
  unfold fetchSettlementRecord
  refine Interaction.Safe.bind (founding_ofExcept _) ?_
  rintro ⟨address, bump⟩ w ⟨found, rfl⟩
  rw [protocolCall_eq_ok] at found
  refine Interaction.Safe.bind (founding_request trivial) fun account w' told => ?_
  refine Interaction.safe_ofExcept.mpr ⟨fun record ended absent => ?_, fun _ _ => trivial⟩
  subst absent
  rw [protocolCall_eq_ok] at ended
  exact ⟨seed, address, bump, account, seeded, found, told.2, ended⟩

theorem RecordAbsent.later (absent : RecordAbsent env options eventId w₁ w) (onward : Onward w w') :
    RecordAbsent env options eventId w₁ w' := by
  obtain ⟨seed, address, bump, account, seeded, found, heard, read⟩ := absent
  exact ⟨seed, address, bump, account, seeded, found, heard.later onward, read⟩

/-- A record is missing only where the primary showed none. -/
theorem founding_readRecord {seed : Bytes32} (seeded : eventIdSeed env.host eventId = .ok seed) :
    Founding env options eventId w₀ (options.readRecord env.host seed)
      (fun read w' => Rests w w' ∧ (read = .absent → RecordAbsent env options eventId w w')) w := by
  unfold WorkerOptions.readRecord
  have told : Founding env options eventId w₀ (Interaction.result
      (fetchSettlementRecord env.host (connectionTo .primary) options.programId options.ns seed))
      (fun record w' => ∀ value, record = .ok value → value = none →
        RecordAbsent env options eventId w w') w :=
    Interaction.Safe.result_ok (founding_fetchSettlementRecord seeded)
  refine Interaction.Safe.bind (founding_rests (Interaction.uses_result
    (reads_looks.uses_fetchSettlementRecord _ _ _ _)) told) fun record w' both => ?_
  obtain ⟨absent, rests⟩ := both
  rcases record with error | _ | found
  · exact ⟨rests, fun same => by cases same⟩
  · dsimp only
    split
    · refine Interaction.Safe.bind (founding_reads (Interaction.uses_result
        (reads_looks.uses_fetchSettlementRecord _ _ _ _))) fun confirmed w'' later => ?_
      rcases confirmed with error | _ | found
      · exact ⟨rests.trans later, fun same => by cases same⟩
      · exact ⟨rests.trans later, fun _ => (absent none rfl rfl).later later.onward⟩
      · exact ⟨rests.trans later, fun same => by cases same⟩
    · exact ⟨rests, fun _ => absent none rfl rfl⟩
  · exact ⟨rests, fun same => by cases same⟩

/-- The attempts still to expire: those that are signed were answered for. -/
structure Leaving (w₀ : World D env.net) (eventId : JsString) (rest : List StoredAttempt)
    (w : World D env.net) : Prop where
  left : ∀ attempt ∈ rest, attempt ∈ w.store.attemptRows.rows ∧ attempt.eventId = column eventId
  distinct : (rest.map StoredAttempt.attempt).Nodup
  answered : ∀ attempt ∈ rest, attempt.status = .signed → attempt ∈ w₀.store.attempts eventId ∧
    (attempt.Gone w₀ w ∨ attempt.ReportedLanded w₀ w)

theorem Leaving.tail {rest : List StoredAttempt} {attempt : StoredAttempt}
    (leaving : Leaving w₀ eventId (attempt :: rest) w) (onward : Onward w w')
    (rows : ∀ later ∈ w.store.attemptRows.rows, later.attempt ≠ attempt.attempt →
      later ∈ w'.store.attemptRows.rows) : Leaving w₀ eventId rest w' := by
  refine ⟨fun later mem => ?_, (List.nodup_cons.mp leaving.distinct).2, fun later mem isSigned => ?_⟩
  · obtain ⟨inRows, id⟩ := leaving.left later (List.mem_cons_of_mem _ mem)
    refine ⟨rows later inRows fun same => ?_, id⟩
    exact (List.nodup_cons.mp leaving.distinct).1 (same ▸ List.mem_map_of_mem mem)
  · obtain ⟨old, gone | landed⟩ := leaving.answered later (List.mem_cons_of_mem _ mem) isSigned
    · exact ⟨old, .inl (gone.later onward)⟩
    · exact ⟨old, .inr (landed.later onward)⟩

theorem founding_expireSigned : ∀ (rest : List StoredAttempt) (w : World D env.net),
    Leaving w₀ eventId rest w → Founding env options eventId w₀
      (WorkerOptions.expireSigned eventId rest) (fun _ w' => Onward w w') w
  | [], w, _ => .refl w
  | attempt :: rest, w, leaving => by
      unfold WorkerOptions.expireSigned
      dsimp only
      split
      · next isSigned =>
        obtain ⟨inRows, id⟩ := leaving.left attempt List.mem_cons_self
        obtain ⟨old, evidence⟩ := leaving.answered attempt List.mem_cons_self isSigned
        have expired : Founding env options eventId w₀
            (call (.setAttemptStatus eventId attempt.attempt .expired))
            (fun _ w' => Leaving w₀ eventId rest w' ∧ Onward w w') w := by
          refine Interaction.safe_perform.mpr ⟨⟨attempt, inRows, id, rfl, (fun same => by cases same),
            fun _ => ⟨old, isSigned, evidence⟩⟩, fun _ w' moved => ?_, fun _ _ _ => trivial⟩
          refine ⟨leaving.tail (step.onward moved) fun later mem other => ?_, step.onward moved⟩
          rw [(step.queues moved).attempts]
          exact Table.mem_changed.mpr (.inl ⟨mem, fun same => other (Prod.mk.inj same).2⟩)
        refine Interaction.Safe.bind expired fun _ w' told => ?_
        exact (founding_expireSigned rest w' told.1).mono (fun _ _ later => told.2.trans later)
          fun _ _ _ => trivial
      · exact founding_expireSigned rest w (leaving.tail (.refl w) fun _ mem _ => mem)

/-- Judging a record marks nothing and makes nothing pending. -/
theorem founded_judges :
    Judges fun op => ∀ w₀ w : World D env.net, Op.Founded env options eventId w₀ w op where
  lookup _ _ _ := fun _ _ => trivial
  polls := fun _ _ => trivial
  log _ := fun _ _ => trivial
  event _ := fun _ _ => trivial
  note _ _ := fun _ _ same => by cases same
  incident _ _ := fun _ _ same => by cases same
  records _ _ _ _ _ := fun _ _ => trivial

/-- Set another status. -/
theorem founding_sets {status : OpenStatus} (other : status ≠ .pending) (id : JsString)
    (note : Option JsString) :
    Founding env options eventId w₀ (call (.setEventStatus id status note)) (fun _ _ => True) w :=
  Interaction.safe_perform.mpr ⟨fun same => absurd same other, fun _ _ _ => trivial, fun _ _ _ => trivial⟩

/-- An event is retried only once it is abandoned. -/
abbrev RetriesAbandoned (env : Environment D) (options : WorkerOptions) (eventId : JsString)
    (w₀ : World D env.net) (outcome : Outcome) (w : World D env.net) : Prop :=
  outcome = .retry → Abandoned env options eventId w₀ w

theorem founding_unresolved (note : JsString) (id : JsString) :
    Founding env options eventId w₀ (WorkerOptions.unresolved id note)
      (RetriesAbandoned env options eventId w₀) w := by
  refine Interaction.Safe.bind (founding_sets ?_ _ _) fun _ _ _ => ?_
  · intro same
    cases same
  · intro same
    cases same

theorem Abandoned.later (abandoned : Abandoned env options eventId w₀ w) (onward : Onward w w') :
    Abandoned env options eventId w₀ w' := by
  obtain ⟨w₁, before, after, unsent, answered, absent⟩ := abandoned
  exact ⟨w₁, before, after.trans onward, unsent, answered, absent.later onward⟩

theorem founding_retryOrGiveUp (attempts : Nat) (abandoned : Abandoned env options eventId w₀ w) :
    Founding env options eventId w₀ (options.retryOrGiveUp eventId attempts)
      (RetriesAbandoned env options eventId w₀) w := by
  unfold WorkerOptions.retryOrGiveUp
  split
  · refine Interaction.Safe.bind (founding_sets ?_ _ _) fun _ _ _ => ?_
    · intro same
      cases same
    · intro same
      cases same
  · have pending : Founding env options eventId w₀
        (call (.setEventStatus eventId .pending (some (js "no attempt landed"))))
        (fun _ w' => Abandoned env options eventId w₀ w') w :=
      Interaction.safe_perform.mpr ⟨fun _ => ⟨rfl, abandoned⟩,
        fun _ _ moved => abandoned.later (step.onward moved), fun _ _ _ => trivial⟩
    exact Interaction.Safe.bind pending fun _ _ abandoned _ => abandoned

section ResolveRecord

variable {event : StoredEvent} {attempts : List StoredAttempt} {created : SettlementTransaction}

theorem founding_judges {program : Work α}
    (uses : program.Uses fun op => ∀ w₀ w : World D env.net, Op.Founded env options eventId w₀ w op) :
    Founding env options eventId w₀ program (fun _ _ => True) w :=
  Interaction.Safe.of_uses uses (fun _ _ free _ => free _ _) (fun _ _ _ _ _ _ _ => trivial) trivial

theorem founding_recordMatch (stored : StoredRequest) :
    Founding env options eventId w₀ (options.recordMatch env.host event attempts created stored)
      (RetriesAbandoned env options eventId w₀) w := by
  rw [WorkerOptions.recordMatch_eq]
  refine Interaction.Safe.bind (founding_judges (founded_judges.uses_confirmMatch _ _))
    fun confirmed w _ => ?_
  split
  · refine Interaction.Safe.bind (founding_judges (founded_judges.uses_reconcile _ _ _ _))
      fun rows w _ => ?_
    cases rows with
    | refused mismatch error => exact founding_unresolved _ _
    | matched rows =>
        refine Interaction.Safe.bind (founding_judges (uses_call (founded_judges.records _ _ _ _ _)))
          fun _ w _ => ?_
        refine Interaction.Safe.bind (founding_judges (founded_judges.uses_log _)) fun _ w _ => ?_
        intro same
        cases same
  · exact founding_unresolved _ _

theorem founding_recordMismatch (requests : List StoredRequest) (primary : List ReconcileResult) :
    Founding env options eventId w₀
      (options.recordMismatch env.host event created requests primary)
      (RetriesAbandoned env options eventId w₀) w := by
  rw [WorkerOptions.recordMismatch_eq]
  refine Interaction.Safe.bind (founding_judges (founded_judges.uses_confirmMismatch _ _ _))
    fun confirmed w _ => ?_
  split
  · refine Interaction.Safe.bind (founding_judges (uses_call (founded_judges.incident _ _)))
      fun _ w _ => ?_
    refine Interaction.Safe.bind (founding_judges (founded_judges.uses_log _)) fun _ w _ => ?_
    intro same
    cases same
  · exact founding_unresolved _ _

theorem founding_resolveRecord :
    Founding env options eventId w₀ (options.resolveRecord env.host event attempts)
      (RetriesAbandoned env options eventId w₀) w := by
  unfold WorkerOptions.resolveRecord
  refine Interaction.Safe.bind (founding_judges (Interaction.uses_result
    (founded_judges.uses_findSettlementTransaction _ _ _ _ _))) fun created w _ => ?_
  cases created with
  | error error => exact founding_unresolved _ _
  | ok created =>
      dsimp only
      split
      · refine Interaction.Safe.bind (founding_judges (Interaction.uses_each
          (fun _ => founded_judges.uses_reconcile _ _ _ _) _)) fun primary w _ => ?_
        split
        · exact founding_recordMatch _
        · exact founding_recordMismatch _ _
      · exact founding_unresolved _ _

end ResolveRecord

/-- The attempts that are still signed were answered for. -/
theorem Looking.leaving {height : Option Nat} (looking : Looking w₀ eventId [] false height w) :
    Leaving w₀ eventId (w.store.attempts eventId) w := by
  refine ⟨fun attempt mem => Store.mem_attempts.mp mem, w.store.nodup_attempts eventId,
    fun attempt mem isSigned => ?_⟩
  obtain ⟨inRows, id⟩ := Store.mem_attempts.mp mem
  have old : attempt ∈ w₀.store.attempts eventId :=
    Store.mem_attempts.mpr ⟨looking.signed attempt inRows isSigned, id⟩
  rcases looking.answered rfl attempt old isSigned with left | gone | landed | ⟨_, away⟩
  · cases left
  · exact ⟨old, .inl gone⟩
  · exact ⟨old, .inr landed⟩
  · exact absurd inRows away

/-- Nothing may land any more: the record decides. -/
theorem founding_decide {event : StoredEvent} {height : Option Nat}
    (looking : Looking w₀ eventId [] false height w) :
    Founding env options eventId w₀ (options.decide env.host eventId event)
      (RetriesAbandoned env options eventId w₀) w := by
  unfold WorkerOptions.decide
  refine Interaction.Safe.bind (founding_ofExcept _) fun seed w' told => ?_
  obtain ⟨seeded, rfl⟩ := told
  rw [protocolCall_eq_ok] at seeded
  refine Interaction.Safe.bind (founding_readRecord seeded) fun read w told => ?_
  obtain ⟨rests, absent⟩ := told
  cases read with
  | failed error => exact founding_unresolved _ _
  | disagree => exact founding_unresolved _ _
  | absent =>
      have abandoned : Abandoned env options eventId w₀ w := by
        refine ⟨w', looking.onward, rests.onward, looking.unsent rfl, fun attempt mem isSigned => ?_,
          absent rfl⟩
        rcases looking.answered rfl attempt mem isSigned with left | gone | landed | ⟨failed, _⟩
        · cases left
        · exact .inl gone
        · exact .inr (.inl landed)
        · exact .inr (.inr failed)
      have looking := looking.rests rests
      have read : Founding env options eventId w₀ (call (.attempts eventId))
          (fun attempts w' => Leaving w₀ eventId attempts w' ∧ Onward w w') w := by
        refine Interaction.safe_perform.mpr ⟨trivial, fun attempts w' moved => ?_, fun _ _ _ => trivial⟩
        have rests := step.rests moved trivial
        have looking := looking.rests rests
        have same : w'.store.attempts eventId = w.store.attempts eventId := by
          rw [Store.attempts, Store.attempts, rests.rows]
        obtain ⟨middle, ⟨read, _⟩, _⟩ := moved
        obtain rfl := Except.ok.inj read
        exact ⟨same ▸ looking.leaving, rests.onward⟩
      refine Interaction.Safe.bind read fun attempts w' told => ?_
      obtain ⟨leaving, onward⟩ := told
      refine Interaction.Safe.bind (founding_expireSigned attempts w' leaving) fun _ w later => ?_
      exact founding_retryOrGiveUp _ (abandoned.later (onward.trans later))
  | present =>
      exact Interaction.Safe.bind (founding_reads (uses_call trivial))
        fun attempts w _ => founding_resolveRecord

/-- A resolve marks attempts, and makes its event pending, on what it heard of them
before. -/
theorem founded_resolve
    (whole : w₀.store.Whole) :
    Founding env options eventId w₀ (options.resolve env.host eventId)
      (RetriesAbandoned env options eventId w₀) w₀ := by
  unfold WorkerOptions.resolve
  refine Interaction.Safe.bind (founding_reads (uses_call trivial)) fun stored w first => ?_
  cases stored with
  | none => exact trivial
  | some event =>
      dsimp only
      split
      · exact trivial
      have read : Founding env options eventId w₀ (call (.attempts eventId))
          (fun attempts w' => Looking w₀ eventId attempts false none w') w := by
        refine Interaction.safe_perform.mpr ⟨trivial, fun attempts w' moved => ?_, fun _ _ _ => trivial⟩
        have rests := first.trans (step.rests moved trivial)
        obtain ⟨middle, ⟨read, _⟩, _⟩ := moved
        obtain rfl := Except.ok.inj read
        have same : w.store.attempts eventId = w₀.store.attempts eventId := by
          rw [Store.attempts, Store.attempts, first.rows]
        rw [same]
        refine ⟨rests.onward, (fun read none => by cases none), fun attempt mem => ?_,
          w₀.store.nodup_attempts eventId, fun attempt mem _ => ?_, fun _ => rests.sent,
          fun _ attempt mem _ => .inl mem⟩
        · rw [rests.rows]
          exact Store.mem_attempts.mp mem
        · rw [← rests.rows]
          exact mem
      refine Interaction.Safe.bind read fun attempts w looking => ?_
      split
      · refine Interaction.Safe.bind (founding_sets ?_ _ _) fun _ _ _ => ?_
        · intro same
          cases same
        · intro same
          cases same
      · have looked : Founding env options eventId w₀
            (Interaction.result (WorkerOptions.mayStillLand false none attempts))
            (fun landing w' => ∀ waiting, landing = .ok waiting →
              ∃ height, Looking w₀ eventId [] waiting height w') w :=
          Interaction.Safe.result_ok (looks_mayStillLand whole false none attempts w looking)
        refine Interaction.Safe.bind looked fun landing w told => ?_
        rcases landing with error | _ | _
        · exact founding_unresolved _ _
        · obtain ⟨height, looking⟩ := told false rfl
          exact founding_decide looking
        · intro same
          cases same

/-! ### Every run -/

theorem Store.Whole.of_apply {store : Store} {limit : Nat} {mine : AttemptParams → Prop} {e : JsString}
    {method : Method} (whole : store.Whole) (owes : method.Owes limit mine e store) :
    (method.apply store).2.Whole := by
  intro attempt mem isSigned
  cases Method.leaves mem with
  | kept mem => exact whole attempt mem isSigned
  | begun => cases isSigned
  | signed mem key prepared => exact ⟨_, _, _, rfl, rfl, rfl⟩
  | marked mem key => rcases owes.2 with rfl | rfl <;> cases isSigned
  | landed mem key => cases isSigned

theorem Run.whole {configured : WorkerOptions → Prop} {start : World D env.net}
    (initial : start.Initial) (reached : Run env configured start w) : w.store.Whole := by
  refine (Run.keeps (fun attempt mem => by cases mem) (fun store store' queues whole => ?_)
    (fun limit e store method owes whole => Store.Whole.of_apply whole owes) initial reached).2
  intro attempt mem
  rw [queues.attempts] at mem
  exact whole attempt mem

section

variable {configured : WorkerOptions → Prop} {start : World D env.net} {rest : Work Outcome}

/-- An attempt that a resolve expires was signed when the resolve began, and is gone
unless it was reported to have landed. -/
theorem gone_of_expiring (initial : start.Initial) (reached : Run env configured start w₀)
    (ran : Interaction.Steps (step env) (options.resolve env.host eventId, w₀) (rest, w))
    {id : JsString} {n : Nat} {next : Except Thrown Unit → Work Outcome}
    (asks : rest = .ask (.store (.setAttemptStatus id n .expired)) next) :
    column id = column eventId ∧ ∃ attempt ∈ w₀.store.attempts eventId, attempt.attempt = n ∧
      attempt.status = .signed ∧ (¬ attempt.ReportedLanded w₀ w → attempt.Gone w₀ w) := by
  have safe : Founding env options eventId w₀ (options.resolve env.host eventId)
      (RetriesAbandoned env options eventId w₀) w₀ := founded_resolve (Run.whole initial reached)
  have founded := safe.steps ran
  subst asks
  obtain ⟨attempt, _, sameId, number, _, expired⟩ := founded.1
  obtain ⟨old, isSigned, evidence⟩ := expired rfl
  have same : column id = column eventId := sameId.symm.trans (Store.mem_attempts.mp old).2
  exact ⟨same, attempt, old, number, isSigned, evidence.resolve_right⟩

/-- Where a resolve makes its event pending, or reports it to be retried, every signed
attempt is gone or failed unless it was reported to have landed. -/
theorem dead_of_retrying (initial : start.Initial) (reached : Run env configured start w₀)
    (ran : Interaction.Steps (step env) (options.resolve env.host eventId, w₀) (rest, w))
    (retries : (∃ id note next, rest = .ask (.store (.setEventStatus id .pending note)) next) ∨
      rest = .pure .retry) :
    ∀ attempt ∈ w₀.store.attempts eventId, attempt.status = .signed →
      ¬ attempt.ReportedLanded w₀ w → attempt.Gone w₀ w ∨ attempt.ReportedFailed w₀ w := by
  have safe : Founding env options eventId w₀ (options.resolve env.host eventId)
      (RetriesAbandoned env options eventId w₀) w₀ := founded_resolve (Run.whole initial reached)
  have founded := safe.steps ran
  have abandoned : Abandoned env options eventId w₀ w := by
    rcases retries with ⟨id, note, next, rfl⟩ | rfl
    · exact (founded.1 rfl).2
    · exact founded rfl
  intro attempt mem isSigned unlanded
  obtain ⟨w₁, _, onward, _, answered, _⟩ := abandoned
  rcases answered attempt mem isSigned with gone | landed | failed
  · exact .inl (gone.later onward)
  · exact absurd (landed.later onward) unlanded
  · exact .inr (failed.later onward)

/-- Conversely, a resolve whose signed attempts are all dead heard of none that it
landed. -/
theorem unlanded_of_dead
    (dead : ∀ attempt ∈ w₀.store.attempts eventId, attempt.status = .signed →
      (attempt.Gone w₀ w ∨ attempt.ReportedFailed w₀ w) ∧ ¬ attempt.ReportedLanded w₀ w) :
    ∀ attempt ∈ w₀.store.attempts eventId, attempt.status = .signed →
      ¬ attempt.ReportedLanded w₀ w :=
  fun attempt mem isSigned => (dead attempt mem isSigned).2

end

/-- **What a retry rests on.** In every resolve of an event, from every world of a
studio and whatever the providers answer, an attempt is marked expired only if it was
signed when the resolve began; and then in this resolve it had no status and a block
height above its last valid one was read, and was not reported to have landed, exactly
when it was not reported to have landed. The event is made pending, or reported to be
retried, on such evidence for every signed attempt, or on its being finalized with an
error, exactly when none was reported to have landed. -/
theorem expired_iff (env : Environment D) (configured : WorkerOptions → Prop)
    {start w₀ w : World D env.net} (initial : start.Initial) (reached : Run env configured start w₀)
    (options : WorkerOptions) (eventId : JsString) {rest : Work Outcome}
    (ran : Interaction.Steps (step env) (options.resolve env.host eventId, w₀) (rest, w)) :
    (∀ id n next, rest = .ask (.store (.setAttemptStatus id n .expired)) next →
      column id = column eventId ∧ ∃ attempt ∈ w₀.store.attempts eventId, attempt.attempt = n ∧
        attempt.status = .signed ∧
        (attempt.Gone w₀ w ∧ ¬ attempt.ReportedLanded w₀ w ↔ ¬ attempt.ReportedLanded w₀ w)) ∧
    (∀ id note next, rest = .ask (.store (.setEventStatus id .pending note)) next ∨
        rest = .pure .retry →
      ((∀ attempt ∈ w₀.store.attempts eventId, attempt.status = .signed →
          (attempt.Gone w₀ w ∨ attempt.ReportedFailed w₀ w) ∧ ¬ attempt.ReportedLanded w₀ w) ↔
        ∀ attempt ∈ w₀.store.attempts eventId, attempt.status = .signed →
          ¬ attempt.ReportedLanded w₀ w)) := by
  constructor
  · intro id n next asks
    obtain ⟨same, attempt, old, number, isSigned, gone⟩ :=
      gone_of_expiring initial reached ran asks
    refine ⟨same, attempt, old, number, isSigned, ?_⟩
    constructor
    · intro dead
      exact dead.2
    · intro unlanded
      exact ⟨gone unlanded, unlanded⟩
  · intro id note next retries
    have dead := dead_of_retrying initial reached ran
      (retries.imp_left fun asks => ⟨id, note, next, asks⟩)
    constructor
    · exact unlanded_of_dead
    · intro none attempt mem isSigned
      have unlanded := none attempt mem isSigned
      exact ⟨dead attempt mem isSigned unlanded, unlanded⟩

/-! ### A sample resolve

The sample worker is stopped before it sends its transaction. Then the primary reports
the transaction finalized and shows no record. -/

/-- The transaction is finalized, and there is no record. -/
def sampleLagging : (call : Rpc) → Except JsString call.Answer
  | .getSignatureStatuses _ => .ok (some ⟨some .finalized, none⟩)
  | call => sampleRefusals call

@[irreducible] def sampleStopped : Work Unit × World sampleDeployment sampleNetwork :=
  scriptedPlay sampleLagging 5 (sampleRunOf sampleWorker) sampleQueued

/-- A resolve up to the expiry of the attempt. -/
@[irreducible] def sampleExpiring : Work Outcome × World sampleDeployment sampleNetwork :=
  scriptedPlay sampleLagging 5 (sampleWorker.resolve sampleLiar.host (js "event-1")) sampleStopped.2

/-- The operation expires an attempt. -/
def Op.expires : Op → Bool
  | .store (.setAttemptStatus _ _ status) => status = DeadStatus.expired
  | _ => false

/-- The request reads a block height. -/
def readsHeight : Rpc → Bool
  | .getBlockHeight => true
  | _ => false

theorem sampleExpiring_expires : sampleExpiring.1.asked.any Op.expires = true ∧
    sampleExpiring.2.answers.all (fun given => !readsHeight given.call) = true := by
  decide +kernel

theorem sampleStopped_reached : Run sampleLiar (fun _ => True) sampleStart sampleStopped.2 := by
  have queued : outside sampleLiar sampleStart sampleQueued := .inl sampleQueued_passes
  have stopped : Interaction.Steps (step sampleLiar) (sampleRunOf sampleWorker, sampleQueued)
      sampleStopped := by
    unfold sampleStopped
    exact scriptedPlay_steps _ _ _ _
  exact .command (.outside .start queued) ⟨⟨sampleWorker, .run none⟩, trivial⟩ _ stopped

theorem sampleExpiring_asks : ∃ id n next, Interaction.Steps (step sampleLiar)
    (sampleWorker.resolve sampleLiar.host (js "event-1"), sampleStopped.2)
    (.ask (.store (.setAttemptStatus id n .expired)) next, sampleExpiring.2) := by
  have ran : Interaction.Steps (step sampleLiar)
      (sampleWorker.resolve sampleLiar.host (js "event-1"), sampleStopped.2) sampleExpiring := by
    unfold sampleExpiring
    exact scriptedPlay_steps _ _ _ _
  obtain ⟨op, asked, expires⟩ := (Option.any_eq_true _ _).mp sampleExpiring_expires.1
  obtain ⟨next, asks⟩ := Interaction.asked_eq_some.mp asked
  rw [← Prod.eta sampleExpiring, asks] at ran
  cases op with
  | store method =>
      cases method with
      | setAttemptStatus id n status =>
          obtain rfl := of_decide_eq_true expires
          exact ⟨id, n, next, ran⟩
      | _ => cases expires
  | _ => cases expires

theorem expired_iff_sample : ∃ (w₀ w : World sampleDeployment sampleLiar.net),
    ∃ attempt ∈ w₀.store.attempts (js "event-1"), attempt.status = .signed ∧
      (attempt.Gone w₀ w ∧ ¬ attempt.ReportedLanded w₀ w ↔ ¬ attempt.ReportedLanded w₀ w) := by
  obtain ⟨id, n, next, ran⟩ := sampleExpiring_asks
  obtain ⟨_, attempt, mem, _, isSigned, iff⟩ := (expired_iff sampleLiar (fun _ => True)
    sampleStart_initial sampleStopped_reached sampleWorker (js "event-1") ran).1 id n next rfl
  exact ⟨_, _, attempt, mem, isSigned, iff⟩

/-- A resolve expires an attempt without any block height. -/
theorem not_always_gone :
    ¬ ∀ (w₀ w : World sampleDeployment sampleLiar.net) options eventId id n next,
      Run sampleLiar (fun _ => True) sampleStart w₀ →
      Interaction.Steps (step sampleLiar) (WorkerOptions.resolve sampleLiar.host options eventId, w₀)
        (.ask (.store (.setAttemptStatus id n .expired)) next, w) →
      ∃ attempt ∈ w₀.store.attempts eventId, attempt.attempt = n ∧ attempt.Gone w₀ w := by
  intro always
  obtain ⟨id, n, next, ran⟩ := sampleExpiring_asks
  obtain ⟨attempt, _, _, gone⟩ := always _ _ _ _ id n next sampleStopped_reached ran
  obtain ⟨_, height, _, _, more, view, answers, mem⟩ := gone.past
  have unread := List.all_eq_true.mp sampleExpiring_expires.2
  rw [answers] at unread
  cases unread _ (List.mem_append_right _ mem)

end Synxed.Studio
