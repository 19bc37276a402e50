import Synxed.Lib.Holders
import Synxed.Studio.Overlap
import Synxed.Studio.Uses

/-!
Two workers at once, as two processes on one database: any of them may take its
next operation at any time.

A worker has an attempt in hand from the moment it begins it until it hands the
signed transaction over. `Op.MarksRow` are the operations that write the row of an
attempt without having begun it.

* `written_ahead`: in every run in which no worker marks an attempt that another
  has in hand, a transaction that is handed over stands signed in its attempt's
  row, byte for byte.
* `not_written_ahead`: a run in which one does.
-/

namespace Synxed.Studio

open Synxed.Lib Synxed.Program Synxed.Sdk

variable {D : Deployment}

/-! ### Rows of attempts -/

/-- The method marks the attempt, whatever its row says. -/
def Method.MarksRow (key : JsString × Nat) : Method → Prop
  | setAttemptStatus eventId attempt _ => (column eventId, attempt) = key
  | recordPaid eventId (some attempt) _ _ _ => (column eventId, attempt) = key
  | _ => False

/-- The method stores a signature for the attempt. -/
def Method.SignsRow (key : JsString × Nat) : Method → Prop
  | recordSigned eventId attempt _ _ _ => (column eventId, attempt) = key
  | _ => False

theorem Method.get?_attemptRows {store : Store} {method : Method} {key : JsString × Nat}
    {row : StoredAttempt} (there : store.attemptRows.get? key = some row) (unmarked : ¬ method.MarksRow key)
    (unsigned : ¬ method.SignsRow key) : (method.apply store).2.attemptRows.get? key = some row := by
  cases method with
  | beginAttempt eventId request params =>
      cases began : store.beginAttempt eventId request params with
      | error error =>
          simp only [Method.apply, began]
          exact there
      | ok result =>
          obtain ⟨number, store'⟩ := result
          obtain ⟨_, _, _, _, absent, rfl⟩ := Store.beginAttempt_eq_ok began
          simp only [Method.apply, began]
          rw [Table.get?_insertOrIgnore, there]
          rintro rfl
          cases there.symm.trans absent
  | recordSigned eventId number signature raw lastValid =>
      have other : key ≠ (column eventId, number) := fun same => unsigned same.symm
      simp only [Method.apply, Store.recordSigned]
      rw [Table.get?_modify, if_neg other, there]
  | setAttemptStatus eventId number status =>
      have other : key ≠ (column eventId, number) := fun same => unmarked same.symm
      simp only [Method.apply, Store.setAttemptStatus]
      rw [Table.get?_modify, if_neg other, there]
  | recordPaid eventId number record directEntries poolPayouts =>
      cases wrote : store.recordPaid eventId number record directEntries poolPayouts with
      | error error =>
          simp only [Method.apply, wrote]
          exact there
      | ok store' =>
          obtain ⟨_, _, _, rfl⟩ := Store.recordPaid_eq_ok wrote
          simp only [Method.apply, wrote]
          cases number with
          | none => exact there
          | some number =>
              have other : key ≠ (column eventId, number) := fun same => unmarked same.symm
              simp only [Store.markLanded]
              rw [Table.get?_modify, if_neg other, there]
  | _ => exact there

/-- No row of an attempt is lost. -/
theorem Method.isSome_attemptRows {store : Store} {method : Method} {key : JsString × Nat}
    (there : (store.attemptRows.get? key).isSome) :
    ((method.apply store).2.attemptRows.get? key).isSome := by
  obtain ⟨row, found⟩ := Option.isSome_iff_exists.mp there
  cases method with
  | recordSigned eventId number signature raw lastValid =>
      simpa only [Method.apply, Store.recordSigned, Table.isSome_get?_modify] using there
  | setAttemptStatus eventId number status =>
      simpa only [Method.apply, Store.setAttemptStatus, Table.isSome_get?_modify] using there
  | recordPaid eventId number record directEntries poolPayouts =>
      cases wrote : store.recordPaid eventId number record directEntries poolPayouts with
      | error error =>
          simp only [Method.apply, wrote]
          exact there
      | ok store' =>
          obtain ⟨_, _, _, rfl⟩ := Store.recordPaid_eq_ok wrote
          simp only [Method.apply, wrote]
          cases number with
          | none => exact there
          | some number => simpa only [Store.markLanded, Table.isSome_get?_modify] using there
  | _ => exact Option.isSome_iff_exists.mpr ⟨row, get?_attemptRows found id id⟩

/-! ### What a worker has in hand -/

/-- The attempt that a worker began and has not handed over yet. -/
abbrev Hand := Option (JsString × Nat)

/-- An attempt is put down when it is handed over, marked, or something throws. -/
def Hand.after (hand : Hand) : (op : Op) → Except Thrown op.Reply → Hand
  | .store (.beginAttempt eventId _ _), .ok attempt => some (column eventId, attempt)
  | .store (.setAttemptStatus _ _ _), _ => none
  | .rpc _ (.sendRawTransaction _ _), _ => none
  | _, .ok _ => hand
  | _, .error _ => none

def Op.MarksRow (key : JsString × Nat) : Op → Prop
  | .store method => method.MarksRow key
  | _ => False

/-- A worker marks no attempt that the other has in hand. -/
def LeavesAlone (held : Peer → Hand) (i : Peer) (op : Op) : Prop :=
  ∀ j, j ≠ i → ∀ key, held j = some key → ¬ op.MarksRow key

/-- The transaction that is handed over stands signed in the row of the attempt: its
signature, its bytes and the last valid height that its blockhash came with. -/
def WrittenAhead {net : Network} (key : JsString × Nat) (raw : Bytes) (w : World D net) : Prop :=
  ∃ row transaction lastValid view, w.store.attemptRows.get? key = some row ∧
    net.parse raw = some transaction ∧ row.status = .signed ∧
    row.signature = some transaction.id ∧ row.rawTransaction = some (base64Encode raw) ∧
    row.lastValidBlockHeight = some lastValid ∧
    ⟨.primary, .getLatestBlockhash, ⟨transaction.blockhash, lastValid⟩, view⟩ ∈ w.answers

/-- An attempt is signed while its row says so, and handed over once it is written
ahead. -/
def Ahead {net : Network} (at_ : World D net × Hand) : Op → Prop
  | .store (.recordSigned eventId attempt _ _ _) =>
      at_.2 = some (column eventId, attempt) ∧
        ∃ row, at_.1.store.attemptRows.get? (column eventId, attempt) = some row ∧
          row.status = .prepared
  | .rpc _ (.sendRawTransaction raw false) => ∃ key, at_.2 = some key ∧ WrittenAhead key raw at_.1
  | _ => True

/-- The others leave alone the row of an attempt in hand. -/
structure Spares {net : Network} (hand : Hand) (w w' : World D net) : Prop where
  row : ∀ key row, hand = some key → w.store.attemptRows.get? key = some row →
    w'.store.attemptRows.get? key = some row
  answers : w.answers ⊆ w'.answers

/-- Each attempt in hand has its row, and one worker. -/
structure InHands {net : Network} (held : Peer → Hand) (w : World D net) : Prop where
  there : ∀ i key, held i = some key → (w.store.attemptRows.get? key).isSome
  single : ∀ i j key, held i = some key → held j = some key → i = j

variable {env : Environment D} {w w' : World D env.net} {hand : Hand}

theorem WrittenAhead.spared {key : JsString × Nat} {raw : Bytes} (ahead : WrittenAhead key raw w)
    (spares : Spares (some key) w w') : WrittenAhead key raw w' := by
  obtain ⟨row, transaction, lastValid, view, there, parsed, signed, signature, bytes, height, told⟩ :=
    ahead
  exact ⟨row, transaction, lastValid, view, spares.row key row rfl there, parsed, signed, signature,
    bytes, height, spares.answers told⟩

theorem Ahead.spared {op : Op} (ahead : Ahead (w, hand) op) (spares : Spares hand w w') :
    Ahead (w', hand) op := by
  cases op with
  | store method =>
      cases method with
      | recordSigned eventId attempt signature raw lastValid =>
          obtain ⟨same, row, there, prepared⟩ := ahead
          exact ⟨same, row, spares.row _ row same there, prepared⟩
      | _ => trivial
  | rpc provider call =>
      cases call with
      | sendRawTransaction raw skipPreflight =>
          cases skipPreflight with
          | true => trivial
          | false =>
              obtain ⟨key, rfl, ahead⟩ := ahead
              exact ⟨key, rfl, ahead.spared spares⟩
      | _ => trivial
  | _ => trivial

namespace InHands

variable {held : Peer → Hand} (inHands : InHands held w) (i : Peer)

include inHands

theorem of_rows (kept : ∀ key, (w.store.attemptRows.get? key).isSome →
    (w'.store.attemptRows.get? key).isSome) : InHands held w' :=
  ⟨fun j key has => kept key (inHands.there j key has), inHands.single⟩

theorem putDown : InHands (Function.update held i none) w := by
  have has {j : Peer} {key : JsString × Nat} (after : Function.update held i none j = some key) :
      held j = some key := by
    rcases eq_or_ne j i with rfl | other
    · rw [Function.update_self] at after
      cases after
    · rwa [Function.update_of_ne other] at after
  exact ⟨fun j key after => inHands.there j key (has after),
    fun j k key first second => inHands.single j k key (has first) (has second)⟩

theorem same : InHands (Function.update held i (held i)) w := by
  rw [Function.update_eq_self]
  exact inHands

/-- A new attempt is in the hand of the worker that began it. -/
theorem pickUp {key : JsString × Nat} (absent : w.store.attemptRows.get? key = none)
    (there : (w'.store.attemptRows.get? key).isSome)
    (kept : ∀ key, (w.store.attemptRows.get? key).isSome → (w'.store.attemptRows.get? key).isSome) :
    InHands (Function.update held i (some key)) w' := by
  have cases_ {j : Peer} {other : JsString × Nat}
      (after : Function.update held i (some key) j = some other) :
      j = i ∧ other = key ∨ other ≠ key ∧ held j = some other := by
    rcases eq_or_ne j i with rfl | elsewhere
    · rw [Function.update_self] at after
      exact .inl ⟨rfl, (Option.some.inj after).symm⟩
    · rw [Function.update_of_ne elsewhere] at after
      refine .inr ⟨?_, after⟩
      rintro rfl
      have taken := inHands.there j other after
      rw [absent] at taken
      cases taken
  constructor
  · intro j other after
    rcases cases_ after with ⟨_, rfl⟩ | ⟨_, has⟩
    · exact there
    · exact kept other (inHands.there j other has)
  · intro j k other first second
    rcases cases_ first with ⟨rfl, same⟩ | ⟨new, has⟩ <;> rcases cases_ second with ⟨rfl, same'⟩ | ⟨new', has'⟩
    · rfl
    · exact absurd same new'
    · exact absurd same' new
    · exact inHands.single j k other has has'

end InHands

/-! ### Moves -/

theorem Passes.attempts {isDate : JsString → Bool} (passes : Passes isDate w w') :
    w'.store.attemptRows = w.store.attemptRows := (Store.keeps_of_enqueues passes.store).2

theorem Passes.spares {isDate : JsString → Bool} (passes : Passes isDate w w') (hand : Hand) :
    Spares hand w w' := by
  refine ⟨fun key row _ there => ?_, ?_⟩
  · rwa [passes.attempts]
  · rw [passes.answers]
    exact List.Subset.refl _

theorem Spares.refl {net : Network} (hand : Hand) (w : World D net) : Spares hand w w :=
  ⟨fun _ _ _ there => there, List.Subset.refl _⟩

theorem Spares.trans {net : Network} {w w' w'' : World D net} (first : Spares hand w w')
    (second : Spares hand w' w'') : Spares hand w w'' :=
  ⟨fun key row has there => second.row key row has (first.row key row has there),
    List.Subset.trans first.answers second.answers⟩

/-- Only the beginning of an attempt puts one in hand. -/
theorem Hand.after_eq (hand : Hand) {op : Op} (begins : ∀ eventId request params,
    op ≠ .store (.beginAttempt eventId request params)) (reply : Except Thrown op.Reply) :
    hand.after op reply = hand ∨ hand.after op reply = none := by
  cases op with
  | store method =>
      cases method with
      | beginAttempt eventId request params => exact absurd rfl (begins eventId request params)
      | setAttemptStatus eventId attempt status => exact .inr rfl
      | _ =>
          cases reply with
          | ok answer => exact .inl rfl
          | error error => exact .inr rfl
  | rpc provider call =>
      cases call with
      | sendRawTransaction raw skipPreflight => exact .inr rfl
      | _ =>
          cases reply with
          | ok answer => exact .inl rfl
          | error error => exact .inr rfl
  | _ =>
      cases reply with
      | ok answer => exact .inl rfl
      | error error => exact .inr rfl

/-- The rows after an operation. -/
theorem Replies.rows {op : Op} {reply : Except Thrown op.Reply} (replies : Replies env w op reply w') :
    (∃ method, op = .store method ∧ w'.store.attemptRows = (method.apply w.store).2.attemptRows ∧
      w'.answers = w.answers) ∨
      w'.store.attemptRows = w.store.attemptRows ∧ w.answers ⊆ w'.answers := by
  cases op with
  | store method =>
      obtain ⟨_, rfl⟩ := replies
      exact .inl ⟨method, rfl, rfl, rfl⟩
  | rpc provider call =>
      cases reply with
      | ok answer =>
          obtain ⟨_, given, _, rfl⟩ := replies
          exact .inr ⟨rfl, List.subset_append_left _ _⟩
      | error error =>
          obtain ⟨_, given, _, rfl⟩ := replies
          exact .inr ⟨rfl, List.Subset.refl _⟩
  | polls =>
      obtain ⟨_, rfl⟩ := replies
      exact .inr ⟨rfl, List.Subset.refl _⟩
  | _ =>
      cases replies
      exact .inr ⟨rfl, List.Subset.refl _⟩

theorem Replies.keeps_rows {op : Op} {reply : Except Thrown op.Reply}
    (replies : Replies env w op reply w') {key : JsString × Nat}
    (there : (w.store.attemptRows.get? key).isSome) : (w'.store.attemptRows.get? key).isSome := by
  rcases replies.rows with ⟨method, _, rows, _⟩ | ⟨rows, _⟩
  · rw [rows]
    exact Method.isSome_attemptRows there
  · rwa [rows]

/-- A worker spares what the other has in hand. -/
theorem Replies.spares {held : Peer → Hand} {i j : Peer} {op : Op} {reply : Except Thrown op.Reply}
    (inHands : InHands held w) (ahead : Ahead (w, held i) op) (alone : LeavesAlone held i op)
    (other : j ≠ i) (replies : Replies env w op reply w') : Spares (held j) w w' := by
  rcases replies.rows with ⟨method, rfl, rows, answers⟩ | ⟨rows, answers⟩
  · refine ⟨fun key row has there => ?_, ?_⟩
    · rw [rows]
      refine Method.get?_attemptRows there (alone j other key has) fun signs => ?_
      cases method with
      | recordSigned eventId attempt signature raw lastValid =>
          obtain rfl : (column eventId, attempt) = key := signs
          exact other (inHands.single j i _ has ahead.1)
      | _ => exact signs.elim
    · rw [answers]
      exact List.Subset.refl _
  · exact ⟨fun key row _ there => by rwa [rows], answers⟩

/-- What is in hand after an operation. -/
theorem InHands.of_replies {held : Peer → Hand} {i : Peer} {op : Op} {reply : Except Thrown op.Reply}
    (inHands : InHands held w) (replies : Replies env w op reply w') :
    InHands (Function.update held i ((held i).after op reply)) w' := by
  have kept (key : JsString × Nat) (there : (w.store.attemptRows.get? key).isSome) :
      (w'.store.attemptRows.get? key).isSome := replies.keeps_rows there
  by_cases begins : ∃ eventId request params, op = .store (.beginAttempt eventId request params)
  · obtain ⟨eventId, request, params, rfl⟩ := begins
    obtain ⟨rfl, rfl⟩ := replies
    cases began : w.store.beginAttempt eventId request params with
    | error error =>
        simp only [Method.apply, began] at kept ⊢
        exact (inHands.putDown i).of_rows kept
    | ok result =>
        obtain ⟨attempt, store'⟩ := result
        obtain ⟨_, _, _, _, absent, rfl⟩ := Store.beginAttempt_eq_ok began
        simp only [Method.apply, began] at kept ⊢
        refine inHands.pickUp i absent ?_ kept
        exact Option.isSome_iff_exists.mpr ⟨_, Table.get?_eq_some.mpr
          ⟨Table.mem_insertOrIgnore.mpr (.inr ⟨rfl, absent, fun _ _ => rfl⟩), rfl⟩⟩
  · rcases (held i).after_eq (fun eventId request params same =>
        begins ⟨eventId, request, params, same⟩) reply with same | none
    · rw [same]
      exact (inHands.same i).of_rows kept
    · rw [none]
      exact (inHands.putDown i).of_rows kept

/-! ### One worker -/

/-- An operation that signs nothing and hands nothing over. -/
def Op.Routine : Op → Prop
  | .store (.recordSigned _ _ _ _ _) => False
  | .rpc _ (.sendRawTransaction _ false) => False
  | _ => True

theorem routine_decides : Decides Op.Routine where
  lookup _ call lookup := by
    cases call with
    | sendRawTransaction raw skipPreflight => exact lookup.elim
    | _ => trivial
  polls := trivial
  log _ := trivial
  event _ := trivial
  note _ _ := trivial
  incident _ _ := trivial
  attempts _ := trivial
  resends _ := trivial
  marks _ _ _ := trivial
  sets _ _ _ := trivial
  records _ _ _ _ _ := trivial

theorem Op.Routine.ahead {op : Op} {at_ : World D env.net × Hand} (routine : op.Routine) :
    Ahead at_ op := by
  cases op with
  | store method => cases method <;> first | exact trivial | exact routine.elim
  | rpc provider call =>
      cases call with
      | sendRawTransaction raw skipPreflight =>
          cases skipPreflight with
          | true => trivial
          | false => exact routine.elim
      | _ => trivial
  | _ => trivial

variable (env) in
/-- A part of the worker writes ahead. -/
abbrev Writing {α : Type} (program : Work α) (post : α → World D env.net × Hand → Prop)
    (at_ : World D env.net × Hand) : Prop :=
  Interaction.Safe (Holds (step env) Hand.after Spares) Ahead program post (fun _ _ => True) at_

theorem writing_routine {α : Type} {program : Work α} (uses : program.Uses Op.Routine)
    (at_ : World D env.net × Hand) : Writing env program (fun _ _ => True) at_ :=
  Interaction.Safe.of_uses uses (fun _ _ routine _ => routine.ahead) (fun _ _ _ _ _ _ _ => trivial)
    trivial

/-- A callback leaves in hand what was written ahead. -/
theorem writing_kept {op : Op} {key : JsString × Nat} {raw : Bytes} (routine : op.Routine)
    (silent : ∀ method, op ≠ .store method) (keeps : ∀ answer, Hand.after (some key) op (.ok answer) =
      some key) {at_ : World D env.net × Hand} (has : at_.2 = some key ∧ WrittenAhead key raw at_.1) :
    Writing env (.perform op) (fun _ at' => at'.2 = some key ∧ WrittenAhead key raw at'.1) at_ := by
  obtain ⟨w, hand⟩ := at_
  obtain ⟨rfl, ahead⟩ := has
  refine Interaction.safe_perform.mpr ⟨routine.ahead, ?_, fun _ _ _ => trivial⟩
  rintro answer ⟨w', hand'⟩ ⟨middle, spares, ⟨later, replies, passes⟩, after⟩
  refine ⟨after.trans (keeps answer), (ahead.spared spares).spared ?_⟩
  refine Spares.trans ?_ (passes.spares (some key))
  rcases replies.rows with ⟨method, same, _⟩ | ⟨rows, answers⟩
  · exact absurd same (silent method)
  · exact ⟨fun _ _ _ there => by rwa [rows], answers⟩

/-- The row of an attempt that was signed. -/
theorem Store.get?_recordSigned (signature raw : JsString) (lastValid : Nat) {store : Store}
    {eventId : JsString} {attempt : Nat} {row : StoredAttempt} (there : store.attemptRows.get? (column eventId, attempt) = some row)
    (prepared : row.status = .prepared) :
    (store.recordSigned eventId attempt signature raw lastValid).attemptRows.get?
        (column eventId, attempt) = some { row with
      signature := some (column signature)
      rawTransaction := some (column raw)
      lastValidBlockHeight := some lastValid
      status := .signed } := by
  rw [Store.recordSigned, Table.get?_modify, if_pos rfl, there, Option.map_some, if_pos prepared]

/-- What signing gives. -/
theorem WorkerOptions.parse_signed {options : WorkerOptions} {net : Network}
    {prepared : PreparedSettlementN} {blockhash signature : JsString} {raw : Bytes}
    (signed : options.signed net.sign prepared blockhash = .ok (signature, raw)) :
    ∃ transaction, net.parse raw = some transaction ∧ transaction.id = signature ∧
      transaction.blockhash = blockhash := by
  obtain ⟨⟨signature', raw'⟩, signs, rest⟩ := bind_eq_ok.mp signed
  cases signature' with
  | none => cases rest
  | some bytes =>
      cases rest
      exact ⟨_, net.parse_sign signs, rfl, rfl⟩

section Worker

variable {options : WorkerOptions}

/-- An attempt that was signed is written ahead. -/
theorem writing_recordSigned {eventId : JsString} {attempt : Nat} {latest : LatestBlockhash}
    {view : Cluster D} {prepared : PreparedSettlementN} {signature : JsString} {raw : Bytes}
    (signed : options.signed env.net.sign prepared latest.blockhash = .ok (signature, raw))
    {at_ : World D env.net × Hand}
    (told : ⟨.primary, .getLatestBlockhash, latest, view⟩ ∈ at_.1.answers)
    (hand : at_.2 = some (column eventId, attempt))
    (row : ∃ row, at_.1.store.attemptRows.get? (column eventId, attempt) = some row ∧
      row.status = .prepared) :
    Writing env (call (.recordSigned eventId attempt signature (base64Encode raw)
        latest.lastValidBlockHeight))
      (fun _ at' => at'.2 = some (column eventId, attempt) ∧
        WrittenAhead (column eventId, attempt) raw at'.1) at_ := by
  obtain ⟨w, _⟩ := at_
  obtain rfl := hand
  refine Interaction.safe_perform.mpr ⟨⟨rfl, row⟩, ?_, fun _ _ _ => trivial⟩
  rintro answer ⟨w', hand'⟩ ⟨middle, spares, ⟨later, ⟨_, rfl⟩, passes⟩, after⟩
  obtain ⟨row, there, isPrepared⟩ := row
  obtain ⟨transaction, parsed, rfl, sameHash⟩ := WorkerOptions.parse_signed signed
  have stored := (congrArg (Table.get? · (column eventId, attempt)) passes.attempts).trans
    (Store.get?_recordSigned transaction.id (base64Encode raw) latest.lastValidBlockHeight
      (spares.row _ row rfl there) isPrepared)
  refine ⟨after, _, transaction, latest.lastValidBlockHeight, view, stored, parsed, rfl, ?_, ?_, rfl,
    ?_⟩
  · exact congrArg some (toWellFormed_base58Encode _)
  · exact congrArg some (toWellFormed_base64Encode raw)
  · rw [sameHash, passes.answers]
    exact spares.answers told

theorem writing_send (event : StoredEvent) (attempt : Nat) {key : JsString × Nat} {raw : Bytes}
    {at_ : World D env.net × Hand} (has : at_.2 = some key ∧ WrittenAhead key raw at_.1) :
    Writing env (options.send env.host event attempt raw) (fun _ _ => True) at_ := by
  have handed : Writing env (Interaction.result
      ((connectionTo .primary).request (.sendRawTransaction raw false))) (fun _ _ => True) at_ :=
    Interaction.Safe.result (Interaction.safe_perform.mpr
      ⟨⟨key, has.1, has.2⟩, fun _ _ _ => trivial, fun _ _ _ => trivial⟩)
      (fun _ _ _ => trivial) fun _ _ _ => trivial
  refine Interaction.Safe.bind handed fun sent at_ _ => ?_
  match sent with
  | .ok (.refused reason) => exact writing_routine (routine_decides.uses_settleRefused _ _ _) at_
  | .ok (.accepted _) => exact writing_routine (routine_decides.uses_follow _) at_
  | .error error =>
      exact writing_routine (Interaction.uses_bind (routine_decides.uses_log _)
        fun _ => routine_decides.uses_follow _) at_

theorem writing_settle (event : StoredEvent) (at_ : World D env.net × Hand) :
    Writing env (options.settle env.host env.net.sign event) (fun _ _ => True) at_ := by
  unfold WorkerOptions.settle
  split
  · exact writing_routine (Interaction.uses_bind (uses_call (routine_decides.sets _ _ _))
      fun _ => Interaction.uses_pure) at_
  have heard : Writing env (Interaction.result ((connectionTo .primary).request .getLatestBlockhash))
      (fun result at' => ∀ latest, result = .ok latest →
        ∃ view, ⟨.primary, .getLatestBlockhash, latest, view⟩ ∈ at'.1.answers) at_ := by
    refine Interaction.Safe.result_ok (Interaction.safe_perform.mpr ⟨trivial, ?_, fun _ _ _ => trivial⟩)
    rintro latest ⟨w', hand'⟩ ⟨middle, _, moved, _⟩
    obtain ⟨more, view, answers, mem⟩ := moved.heard
    exact ⟨view, by rw [answers]; exact List.mem_append_right _ mem⟩
  refine Interaction.Safe.bind heard fun latest at_ told => ?_
  match latest with
  | .error error =>
      exact writing_routine (Interaction.uses_bind (uses_call (routine_decides.sets _ _ _)) fun _ =>
        Interaction.uses_bind (routine_decides.uses_log _) fun _ => Interaction.uses_pure) at_
  | .ok latest =>
      obtain ⟨view, told⟩ := told latest rfl
      have began : Writing env (call (.beginAttempt event.eventId event.request options.params))
          (fun attempt at' => at'.2 = some (column event.eventId, attempt) ∧
            (∃ row, at'.1.store.attemptRows.get? (column event.eventId, attempt) = some row ∧
              row.status = .prepared) ∧
            ⟨.primary, .getLatestBlockhash, latest, view⟩ ∈ at'.1.answers) at_ := by
        refine Interaction.safe_perform.mpr ⟨trivial, ?_, fun _ _ _ => trivial⟩
        rintro attempt ⟨w', hand'⟩ ⟨middle, spares, ⟨later, ⟨reply, rfl⟩, passes⟩, after⟩
        refine ⟨after, ?_, by rw [passes.answers]; exact spares.answers told⟩
        rw [passes.attempts]
        cases began : middle.store.beginAttempt event.eventId event.request options.params with
        | error error => simp [Method.apply, began] at reply
        | ok result =>
            obtain ⟨number, store'⟩ := result
            obtain ⟨_, _, _, _, absent, rfl⟩ := Store.beginAttempt_eq_ok began
            simp only [Method.apply, began, Except.ok.injEq] at reply ⊢
            subst reply
            exact ⟨_, Table.get?_eq_some.mpr
              ⟨Table.mem_insertOrIgnore.mpr (.inr ⟨rfl, absent, fun _ _ => rfl⟩), rfl⟩, rfl⟩
      refine Interaction.Safe.bind began fun attempt at_ known => ?_
      obtain ⟨hand, row, told⟩ := known
      split
      · exact writing_routine (routine_decides.uses_giveUp _ _ _) at_
      · split
        · exact writing_routine (routine_decides.uses_giveUp _ _ _) at_
        · next signed =>
            refine Interaction.Safe.bind (writing_recordSigned signed told hand row) fun _ at_ has => ?_
            have free (signature : JsString) : (Op.beforeSend event.eventId signature).Routine := trivial
            refine Interaction.Safe.bind (writing_kept (free _) (fun _ same => by cases same)
              (fun _ => rfl) has) fun _ at_ has => ?_
            have logs (line : JsString) : (Op.log line).Routine := trivial
            refine Interaction.Safe.bind (writing_kept (logs _) (fun _ same => by cases same)
              (fun _ => rfl) has) fun _ at_ has => ?_
            exact writing_send event attempt has

theorem writing_batch {name : JsString} {decide : StoredEvent → Work Outcome}
    (one : ∀ event at_, Writing env (decide event) (fun _ _ => True) at_)
    (events : List StoredEvent) (at_ : World D env.net × Hand) :
    Writing env (WorkerOptions.batch name decide events) (fun _ _ => True) at_ := by
  let inv (_ : List StoredEvent) (_ : World D env.net × Hand) : Prop := True
  have holds : inv events at_ := trivial
  refine Interaction.Safe.bind (Interaction.safe_each (fun event rest at_ (_ : inv _ _) => ?_) holds)
    fun _ _ _ => trivial
  have decided : Writing env (tryCatch (decide event) fun error =>
      WorkerOptions.contain event.eventId (name ++ js " failed: " ++ error.text)) (fun _ _ => True) at_ :=
    Interaction.Safe.tryCatch (one event at_) fun error at_ _ =>
      writing_routine (routine_decides.uses_contain _ _) at_
  exact Interaction.Safe.bind decided fun _ _ _ => trivial

/-- Every command writes ahead. -/
theorem writing_work (command : Command) (at_ : World D env.net × Hand) :
    Writing env (command.work env.host env.net.sign) (fun _ _ => True) at_ := by
  obtain ⟨options, action⟩ := command
  cases action with
  | run limit =>
      have lists (status : EventStatus) (limit : Option Nat) :
          (call (.eventsWithStatus status limit)).Uses Op.Routine := uses_call trivial
      have ran : Writing env (options.run env.host env.net.sign limit) (fun _ _ => True) at_ := by
        refine Interaction.Safe.bind (writing_routine (lists _ _) at_) fun inFlight at_ _ => ?_
        refine Interaction.Safe.bind (writing_batch (fun event => writing_routine
          (routine_decides.uses_resolve event.eventId)) inFlight at_) fun _ at_ _ => ?_
        refine Interaction.Safe.bind (writing_routine (lists _ _) at_) fun pending at_ _ => ?_
        exact Interaction.Safe.bind (writing_batch writing_settle pending at_) fun _ _ _ => trivial
      exact Interaction.Safe.bind ran fun _ _ _ => trivial
  | resolve eventId =>
      exact writing_routine (Interaction.uses_bind (routine_decides.uses_resolve eventId)
        fun _ => Interaction.uses_pure) at_
  | recheck eventId =>
      exact writing_routine (Interaction.uses_bind (routine_decides.uses_recheck eventId)
        fun _ => Interaction.uses_pure) at_

end Worker

/-! ### Runs -/

variable (env) in
/-- Two workers on one database, with what each has left to do and has in hand. -/
abbrev Processes := Holders Op Op.Reply Thrown Unit Peer (World D env.net) Hand

namespace Processes

variable (env) (configured : WorkerOptions → Prop)

/-- No worker runs. -/
def idle (w : World D env.net) : Processes env := ⟨fun _ => none, fun _ => none, w⟩

/-- The runs of two workers, whose operations are interleaved in any order. -/
abbrev Run (may : (Peer → Hand) → Peer → Op → Prop) : Processes env → Processes env → Prop :=
  Holders.Moves (step env) (fun process : Process configured => process.val.work env.host env.net.sign)
    (outside env) none Hand.after may

/-- A transaction that a worker hands over stands signed in the row of the attempt it
has in hand, and a signature that a worker stores is stored. -/
structure WritesAhead {env : Environment D} (t : Processes env) : Prop where
  sent : ∀ i raw next, t.program i = some (.ask (.rpc .primary (.sendRawTransaction raw false)) next) →
    ∃ key, t.held i = some key ∧ WrittenAhead key raw t.world
  stored : ∀ i eventId attempt signature raw lastValid next,
    t.program i = some (.ask (.store (.recordSigned eventId attempt signature raw lastValid)) next) →
    ∃ row, (t.world.store.recordSigned eventId attempt signature raw lastValid).attemptRows.get?
        (column eventId, attempt) = some row ∧ row.status = .signed ∧
      row.signature = some (column signature) ∧ row.rawTransaction = some (column raw) ∧
      row.lastValidBlockHeight = some lastValid

variable {configured}

theorem apart : Apart (step env)
    (fun process : Process configured => process.val.work env.host env.net.sign) (outside env) none
    Hand.after LeavesAlone Spares InHands Ahead where
  refl := Spares.refl
  trans _ _ _ _ := Spares.trans
  stable _ _ _ _ ahead spares := ahead.spared spares
  keeps := by
    rintro held i w op reply w' inHands ahead alone ⟨middle, replies, passes⟩
    refine ⟨(inHands.of_replies replies).of_rows fun key there => ?_, fun j other => ?_⟩
    · rwa [passes.attempts]
    · exact (replies.spares inHands ahead alone other).trans (passes.spares _)
  stops held i w inHands := inHands.putDown i
  acts := by
    rintro held w w' inHands (passes | ⟨eventId, note, passes⟩)
    · exact ⟨inHands.of_rows fun key there => by rwa [passes.attempts], fun i => passes.spares _⟩
    · refine ⟨inHands.of_rows fun key there => ?_, fun i => ⟨fun key row _ there => ?_, ?_⟩⟩
      · rwa [passes.attempts]
      · rwa [passes.attempts]
      · rw [passes.answers]
        exact List.Subset.refl _
  safe process w := writing_work process.val (w, none)

end Processes

/-- **Write-ahead.** In every interleaving of the operations of two workers on one
database, whatever the providers answer and wherever a worker is killed, in which no
worker marks an attempt that the other began and has not handed over yet: a freshly
signed transaction that is handed over stands signed in its attempt's row, with its
signature, its bytes and the last valid height of its blockhash; and a signature that
is stored is stored as it is. -/
theorem written_ahead (env : Environment D) (configured : WorkerOptions → Prop)
    (start : World D env.net) (t : Processes env)
    (run : Processes.Run env configured LeavesAlone (Processes.idle env start) t) : t.WritesAhead := by
  have idle : Apart.Kept (step env) Hand.after Spares InHands Ahead (Processes.idle env start) :=
    ⟨⟨fun _ _ has => (nomatch has), fun _ _ _ has => (nomatch has)⟩, fun _ _ left => (nomatch left)⟩
  have kept := (Processes.apart env).moves idle run
  constructor
  · intro i raw next asks
    exact kept.guarded asks
  · intro i eventId attempt signature raw lastValid next asks
    obtain ⟨_, row, there, prepared⟩ := kept.guarded asks
    exact ⟨_, Store.get?_recordSigned signature raw lastValid there prepared, rfl, rfl, rfl, rfl⟩

/-! ### Sample runs

The first worker began an attempt and has not signed it. The second one finds it
prepared and marks it failed, unless it leaves the attempt alone. -/

/-- A sample run of one of the workers. -/
def sampleProcess : Process fun _ => True := ⟨⟨sampleWorker, .run none⟩, trivial⟩

/-- The first worker began an attempt. -/
@[irreducible] def sampleBeginning : Work Unit × World sampleDeployment sampleNetwork :=
  scriptedPlay sampleRefusals 4 (sampleRunOf sampleWorker) sampleQueued

/-- It marks an attempt. -/
def Op.marks : Op → Bool
  | .store (.setAttemptStatus _ _ _) => true
  | .store (.recordPaid _ _ _ _ _) => true
  | _ => false

/-- A freshly signed transaction is about to be handed over. -/
def Op.handsOver : Op → Bool
  | .rpc .primary (.sendRawTransaction _ false) => true
  | _ => false

/-- A worker runs up to marking an attempt or handing a transaction over. -/
def sparingPlay (program : Work Unit) (w : World sampleDeployment sampleNetwork) :
    Work Unit × World sampleDeployment sampleNetwork :=
  Interaction.play (fun w op =>
    if op.marks || op.handsOver then none else some (scriptedRespond sampleRefusals w op)) 40 (program, w)

/-- The second worker runs beside the first, and would mark its attempt. -/
@[irreducible] def sampleReading : Work Unit × World sampleDeployment sampleNetwork :=
  sparingPlay (sampleRunOf sampleWorker) sampleBeginning.2

/-- Meanwhile the first one signs the attempt. -/
@[irreducible] def sampleHanding : Work Unit × World sampleDeployment sampleNetwork :=
  sparingPlay sampleBeginning.1 sampleReading.2

/-- The second worker marks the attempt. -/
@[irreducible] def sampleMarking : Work Unit × World sampleDeployment sampleNetwork :=
  scriptedPlay sampleRefusals 4 (sampleRunOf sampleWorker) sampleBeginning.2

/-- The first worker goes on. -/
@[irreducible] def sampleUnwritten : Work Unit × World sampleDeployment sampleNetwork :=
  scriptedPlay sampleRefusals 3 sampleBeginning.1 sampleMarking.2

theorem Op.handsOver_iff {op : Op} : op.handsOver = true ↔
    ∃ raw, op = .rpc .primary (.sendRawTransaction raw false) := by
  constructor
  · intro hands
    cases op with
    | rpc provider call =>
        cases provider <;> cases call <;> first | cases hands | skip
        next raw skipPreflight =>
          cases skipPreflight with
          | false => exact ⟨raw, rfl⟩
          | true => cases hands
    | _ => cases hands
  · rintro ⟨raw, rfl⟩
    rfl

theorem Op.marks_of_marksRow {op : Op} {key : JsString × Nat} (row : op.MarksRow key) :
    op.marks = true := by
  cases op with
  | store method =>
      cases method with
      | setAttemptStatus eventId attempt status => rfl
      | recordPaid eventId attempt record directEntries poolPayouts => rfl
      | _ => exact row.elim
  | _ => exact row.elim

theorem sparingPlay_steps (program : Work Unit) (w : World sampleDeployment sampleNetwork) :
    Interaction.Steps (fun w op reply w' => op.marks = false ∧ step sampleLiar w op reply w')
      (program, w) (sparingPlay program w) := by
  let kept (_ : World sampleDeployment sampleNetwork) : Prop := True
  refine (Interaction.steps_play (fun w op reply w' (_ : kept w) answered => ?_) 40 (program, w)
    (trivial : kept w)).1
  split at answered
  · cases answered
  · next spares =>
    obtain ⟨rfl, rfl⟩ := Prod.ext_iff.mp (Option.some.inj answered)
    simp only [Bool.or_eq_true, not_or, Bool.not_eq_true] at spares
    exact ⟨⟨spares.1, scriptedRespond_step sampleRefusals w op⟩, trivial⟩

theorem leavesAlone_of_marks {held : Peer → Hand} {i : Peer} {op : Op} (spares : op.marks = false) :
    LeavesAlone held i op := by
  intro j _ key _ row
  cases (Op.marks_of_marksRow row).symm.trans spares

theorem sampleHanding_asks :
    sampleHanding.1.asked.any Op.handsOver = true ∧ sampleReading.1.asked.any Op.marks = true := by
  decide +kernel

theorem sampleUnwritten_asks : sampleUnwritten.1.asked.any Op.handsOver = true ∧
    ∀ row ∈ sampleUnwritten.2.store.attemptRows.rows, row.status ≠ .signed := by
  decide +kernel

/-- The first worker begins an attempt. -/
theorem sampleBeginning_run (may : (Peer → Hand) → Peer → Op → Prop)
    (allowed : ∀ g op, may (Function.update (fun _ => none) Peer.first g) Peer.first op) : ∃ g,
    Processes.Run sampleLiar (fun _ => True) may (Processes.idle sampleLiar sampleStart)
      ⟨Function.update (fun _ => none) Peer.first (some sampleBeginning.1),
        Function.update (fun _ => none) Peer.first g, sampleBeginning.2⟩ := by
  have queued : Processes.Run sampleLiar (fun _ => True) may (Processes.idle sampleLiar sampleStart)
      (Processes.idle sampleLiar sampleQueued) :=
    .single (.outside (.inl sampleQueued_passes))
  have started : Processes.Run sampleLiar (fun _ => True) may (Processes.idle sampleLiar sampleQueued)
      ⟨Function.update (fun _ => none) Peer.first (some (sampleRunOf sampleWorker)),
        Function.update (fun _ => none) Peer.first none, sampleQueued⟩ :=
    .single (.starts Peer.first sampleProcess rfl)
  have begins : Interaction.Steps (step sampleLiar) (sampleRunOf sampleWorker, sampleQueued)
      sampleBeginning := by
    unfold sampleBeginning
    exact scriptedPlay_steps _ _ _ _
  have run := queued.trans started
  obtain ⟨g, ran⟩ := Holders.Moves.goOn run rfl (fun g op => by
    rw [Function.update_idem]
    exact allowed g op) begins
  rw [Function.update_idem, Function.update_idem] at ran
  exact ⟨g, ran⟩

/-- The first worker hands over what stands in its row, while the second is about to mark an
attempt. -/
theorem written_ahead_sample : ∃ (t : Processes sampleLiar) (raw : Bytes) (key : JsString × Nat),
    t.held .first = some key ∧ WrittenAhead key raw t.world ∧
      ∃ program, t.program .second = some program ∧ program.asked.any Op.marks = true := by
  obtain ⟨g, began⟩ := sampleBeginning_run LeavesAlone fun g op j other key has => by
    rw [Function.update_of_ne other] at has
    cases has
  have reads : Interaction.Steps (fun w op reply w' => op.marks = false ∧ step sampleLiar w op reply w')
      (sampleRunOf sampleWorker, sampleBeginning.2) sampleReading := by
    unfold sampleReading
    exact sparingPlay_steps _ _
  have signs : Interaction.Steps (fun w op reply w' => op.marks = false ∧ step sampleLiar w op reply w')
      (sampleBeginning.1, sampleReading.2) sampleHanding := by
    unfold sampleHanding
    exact sparingPlay_steps _ _
  have joins := began.tail (.starts Peer.second sampleProcess rfl)
  obtain ⟨g', beside⟩ := Holders.Moves.goOn_of (i := .second) _ joins rfl
    (fun _ _ => leavesAlone_of_marks) reads
  obtain ⟨g'', ran⟩ := Holders.Moves.goOn_of (i := .first) _ beside rfl
    (fun _ _ => leavesAlone_of_marks) signs
  obtain ⟨handing, marks⟩ := sampleHanding_asks
  obtain ⟨op, asked, hands⟩ := (Option.any_eq_true _ _).mp handing
  obtain ⟨raw, rfl⟩ := Op.handsOver_iff.mp hands
  obtain ⟨next, asks⟩ := Interaction.asked_eq_some.mp asked
  have ahead := written_ahead sampleLiar (fun _ => True) sampleStart _ ran
  obtain ⟨key, has, written⟩ := ahead.sent .first raw next (congrArg some asks)
  exact ⟨_, raw, key, has, written, sampleReading.1, rfl, marks⟩

/-- A worker hands over a transaction that no row holds. -/
theorem not_written_ahead :
    ¬ ∀ t, Processes.Run sampleLiar (fun _ => True) (fun _ _ _ => True)
      (Processes.idle sampleLiar sampleStart) t → t.WritesAhead := by
  intro always
  obtain ⟨g, began⟩ := sampleBeginning_run (fun _ _ _ => True) fun _ _ => trivial
  have marks : Interaction.Steps (step sampleLiar) (sampleRunOf sampleWorker, sampleBeginning.2)
      sampleMarking := by
    unfold sampleMarking
    exact scriptedPlay_steps _ _ _ _
  have continues : Interaction.Steps (step sampleLiar) (sampleBeginning.1, sampleMarking.2)
      sampleUnwritten := by
    unfold sampleUnwritten
    exact scriptedPlay_steps _ _ _ _
  have joins := began.tail (.starts Peer.second sampleProcess rfl)
  obtain ⟨g', marked⟩ := Holders.Moves.goOn (i := .second) joins rfl (fun _ _ => trivial) marks
  obtain ⟨g'', ends⟩ := Holders.Moves.goOn (i := .first) marked rfl (fun _ _ => trivial) continues
  obtain ⟨asked, unsigned⟩ := sampleUnwritten_asks
  obtain ⟨op, asked, hands⟩ := (Option.any_eq_true _ _).mp asked
  obtain ⟨raw, rfl⟩ := Op.handsOver_iff.mp hands
  obtain ⟨next, asks⟩ := Interaction.asked_eq_some.mp asked
  have ahead := always _ ends
  obtain ⟨key, _, row, _, _, _, there, _, signed, _⟩ := ahead.sent .first raw next (congrArg some asks)
  exact unsigned row (Table.get?_eq_some.mp there).1 signed

end Synxed.Studio
