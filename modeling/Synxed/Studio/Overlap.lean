import Synxed.Lib.Threads
import Synxed.Studio.Books

/-!
Two workers at once, on one database and one namespace, against an honest
cluster.

The invariant of a run is `Consistent`: what the database says of an event that
was recorded paid is what the event's creating transaction says, and, in a run
that takes no `Unchecked` branch for such an event, its status is paid or in
flight. `Permitted` is what an operation must know for this to stay so, and
`Forward` is all that a worker may rely on while it waits.

* `Consistent.of_replies`: permitted operations keep the invariant.
* `Consistent.of_passes`: so does time.
-/

namespace Synxed.Studio

open Synxed.Lib Synxed.Program Synxed.Sdk

variable {D : Deployment}

/-! ### The condition -/

/-- The branches that write a status on what was read before a wait. `settle`
gives up after too many attempts, or finds no blockhash; `settleRefused` and
`decide` read that there is no record, so that the event is pending again or out
of attempts; and `resolve` finds that no stored request matches the creating
transaction. -/
def Unchecked (status : OpenStatus) (note : Option JsString) : Prop :=
  status = .pending ∨ status = .incident ∨
    status = .needsAttention ∧ ∃ attempts, note = some (decimalText attempts ++ js " attempts failed") ∨
      note = some (decimalText attempts ++ js " attempts did not land")

/-- No such branch is taken for an event that was recorded paid. -/
def Fresh {net : Network} (w : World D net) : Op → Prop
  | .store (.setEventStatus eventId status note) =>
      Unchecked status note → column eventId ∉ w.recorded
  | _ => True

/-- None of the steps that `meets` describes takes such a branch. -/
def AllFresh {net : Network} (meets : World D net → Op → Prop) : Prop :=
  ∀ w op, meets w op → Fresh w op

/-! ### Runs -/

/-- The two workers. -/
inductive Peer where
  | first
  | second
  deriving DecidableEq

/-- Where a worker awaits, so that the other may run before it is answered and
before it goes on: at a request and between two polls, and also, as two processes
may, where it reads an event. -/
def Op.Awaits : Op → Prop
  | .rpc _ _ => True
  | .polls => True
  | .store (.event _) => True
  | .store (.eventsWithStatus _ _) => True
  | _ => False

instance : DecidablePred Op.Awaits
  | .rpc _ _ => .isTrue trivial
  | .polls => .isTrue trivial
  | .log _ => .isFalse id
  | .beforeSend _ _ => .isFalse id
  | .store (.event _) => .isTrue trivial
  | .store (.eventsWithStatus _ _) => .isTrue trivial
  | .store (.attempts _) => .isFalse id
  | .store (.beginAttempt _ _ _) => .isFalse id
  | .store (.recordSigned _ _ _ _ _) => .isFalse id
  | .store (.setAttemptStatus _ _ _) => .isFalse id
  | .store (.setEventStatus _ _ _) => .isFalse id
  | .store (.recordPaid _ _ _ _ _) => .isFalse id

/-- Every endpoint answers from what the cluster has confirmed. -/
def World.Current {net : Network} (w : World D net) : Prop :=
  ∀ provider, w.view provider = w.cluster

/-- A worker on the deployed program and one namespace. -/
abbrev Sharing (D : Deployment) (ns : Pubkey) :=
  { command : Command // command.options.programId = D.programId ∧ command.options.ns = ns }

namespace Overlap

variable (env : Environment D) (ns : Pubkey) (meets : World D env.net → Op → Prop)

/-- An operation of a worker is answered in an honest cluster; `meets` is what
the steps of a run have in common. -/
def step (w : World D env.net) (op : Op) (reply : Except Thrown op.Reply) (w' : World D env.net) :
    Prop :=
  meets w op ∧ Studio.step env w op reply w' ∧ w'.Current

/-- Time passes while both workers wait. -/
def outside (w w' : World D env.net) : Prop := Passes env.isDate w w' ∧ w'.Current

/-- The workers, with what each has left to do. -/
abbrev Workers := Threads Op Op.Reply Thrown Unit Peer (World D env.net)

/-- No worker runs. -/
def idle (w : World D env.net) : Workers env := ⟨fun _ => none, w, none⟩

abbrev Run : Workers env → Workers env → Prop :=
  Threads.Moves Op.Awaits (step env meets)
    (fun command : Sharing D ns => command.val.work env.host env.net.sign) (outside env)

end Overlap

/-! ### The invariant -/

variable (H : Host) (ns : Pubkey) (fresh : Prop)

/-- What the database says and the chain confirms; where no status was written
unchecked, a recorded event is paid or in flight. -/
structure Consistent (store : Store) (cluster : Cluster D) (recorded : List JsString) : Prop extends
    Books H ns store cluster recorded where
  settled : fresh → ∀ row ∈ store.events.rows, row.eventId ∈ recorded →
    row.status = .paid ∨ row.status = .inFlight

/-- What an operation must know. -/
def Permitted {net : Network} (w : World D net) : Op → Prop
  | .store (.beginAttempt eventId request params) =>
      (Method.beginAttempt eventId request params).BeginsOwn D ns w.store
  | .store (.setEventStatus eventId status _) =>
      fresh → status = .inFlight ∨ column eventId ∉ w.recorded
  | .store (.recordPaid eventId _ record directEntries poolPayouts) =>
      ∃ row ∈ w.store.events.rows, row.eventId = column eventId ∧
        SettledBy H ns w.cluster row.request row.beneficiaryIds record.signature directEntries
          poolPayouts
  | _ => True

/-- What a worker relies on while it waits. -/
structure Forward {net : Network} (w w' : World D net) : Prop where
  cluster : Cluster.Later net w.cluster w'.cluster
  keeps : w.store.Keeps w'.store
  recorded : w.recorded ⊆ w'.recorded
  ledger : ∀ eventId, column eventId ∈ w.recorded → w'.store.ledgerOf eventId = w.store.ledgerOf eventId

namespace Forward

variable {net : Network} {w w' w'' : World D net}

theorem refl (w : World D net) : Forward w w :=
  ⟨.refl, .refl _, List.Subset.refl _, fun _ _ => rfl⟩

theorem trans (first : Forward w w') (second : Forward w' w'') : Forward w w'' where
  cluster := first.cluster.trans second.cluster
  keeps := first.keeps.trans second.keeps
  recorded := List.Subset.trans first.recorded second.recorded
  ledger eventId mem :=
    (second.ledger eventId (first.recorded mem)).trans (first.ledger eventId mem)

end Forward

/-! ### Steps -/

variable {H ns fresh} {net : Network} {store store' : Store} {cluster cluster' : Cluster D}
  {recorded : List JsString} {eventId : JsString} {method : Method}

/-- A status other than paid, of an event that was not recorded, or in
flight. -/
def Method.Marks (recorded : List JsString) : Method → Prop
  | setEventStatus eventId status _ => status = .inFlight ∨ column eventId ∉ recorded
  | _ => True

theorem Permitted.parts {w : World D net} (permitted : Permitted H ns fresh w (.store method)) :
    method.BeginsOwn D ns w.store ∧ method.Proves H ns w.store w.cluster ∧
      (fresh → method.Marks w.recorded) := by
  cases method with
  | beginAttempt eventId request params => exact ⟨permitted, trivial, fun _ => trivial⟩
  | setEventStatus eventId status note => exact ⟨trivial, trivial, permitted⟩
  | recordPaid eventId attempt record directEntries poolPayouts =>
      exact ⟨trivial, permitted, fun _ => trivial⟩
  | _ => exact ⟨trivial, trivial, fun _ => trivial⟩

namespace Consistent

variable (consistent : Consistent H ns fresh store cluster recorded)

include consistent

theorem later (later : Cluster.Later net cluster cluster') :
    Consistent H ns fresh store cluster' recorded :=
  ⟨consistent.toBooks.later later, consistent.settled⟩

/-- An attempt begins for an event that was not recorded. -/
theorem unrecorded_of_began {request : SettlementRequestN} {params : AttemptParams} {attempt : Nat}
    (h : store.beginAttempt eventId request params = .ok (attempt, store')) (isFresh : fresh) :
    column eventId ∉ recorded := by
  intro mem
  obtain ⟨event, found, pending, _⟩ := Store.beginAttempt_eq_ok h
  obtain ⟨row, inRows, id, rfl⟩ := Store.event_eq_some.mp found
  rcases consistent.settled isFresh row inRows (id ▸ mem) with paid | inFlight
  · exact absurd (pending.symm.trans paid) (by decide)
  · exact absurd (pending.symm.trans inFlight) (by decide)

/-- Enqueuing adds a pending event that nothing names yet. -/
theorem enqueue {request : SettlementRequestN} {beneficiaryIds : List (JsString × JsString)}
    {now : JsString} {answer : Store.Enqueued}
    (h : store.enqueue request beneficiaryIds now = .ok (answer, store')) :
    Consistent H ns fresh store' cluster recorded := by
  obtain ⟨_, _, added⟩ := Store.enqueue_keeps h
  refine ⟨(consistent.toBooks.enqueue h).1, fun isFresh row mem inside => ?_⟩
  rcases added row mem with old | ⟨_, _, free⟩
  · exact consistent.settled isFresh row old inside
  · obtain ⟨booked, inRows, id, _⟩ := consistent.booked _ inside
    exact absurd id (free booked inRows)

theorem enqueues {isDate : JsString → Bool} (enqueued : Enqueues isDate store store') :
    Consistent H ns fresh store' cluster recorded ∧ store.Keeps store' ∧ store.SameLedger store' := by
  refine ⟨?_, ?_, (consistent.toBooks.enqueues enqueued).2⟩
  · induction enqueued with
    | refl => exact consistent
    | tail _ last ih =>
        obtain ⟨_, _, _, _, _, added⟩ := last
        exact ih.enqueue added
  · exact (Store.keeps_of_enqueues enqueued).1

/-- The status of a recorded event after a method that marks none. -/
theorem settled_of_apply (isFresh : fresh) (marks : method.Marks recorded) {row' : EventRow}
    (mem : row' ∈ (method.apply store).2.events.rows)
    (inside : row'.eventId ∈ recorded ++ method.records store) :
    row'.status = .paid ∨ row'.status = .inFlight := by
  have unrecorded (silent : method.records store = []) (old : row' ∈ store.events.rows) :
      row'.status = .paid ∨ row'.status = .inFlight := by
    rw [silent, List.append_nil] at inside
    exact consistent.settled isFresh row' old inside
  cases method with
  | beginAttempt eventId request params =>
      cases began : store.beginAttempt eventId request params with
      | error error =>
          simp only [Method.apply, began] at mem
          exact unrecorded rfl mem
      | ok result =>
          obtain ⟨attempt, store'⟩ := result
          simp only [Method.apply, began] at mem
          obtain ⟨_, _, _, _, _, rfl⟩ := Store.beginAttempt_eq_ok began
          rcases Table.mem_changed.mp mem with ⟨old, _⟩ | ⟨old, _, _, rfl⟩
          · exact unrecorded rfl old
          · exact .inr rfl
  | setEventStatus eventId status note =>
      rcases Table.mem_changed.mp mem with ⟨old, _⟩ | ⟨old, _, here, rfl⟩
      · exact unrecorded rfl old
      · rcases marks with rfl | unmarked
        · exact .inr rfl
        · simp only [Method.records, List.append_nil] at inside
          exact absurd (here ▸ inside) unmarked
  | recordPaid eventId attempt record directEntries poolPayouts =>
      cases wrote : store.recordPaid eventId attempt record directEntries poolPayouts with
      | error error =>
          simp only [Method.apply, wrote] at mem
          exact unrecorded (by simp only [Method.records, wrote]) mem
      | ok store' =>
          simp only [Method.apply, wrote] at mem
          simp only [Method.records, wrote] at inside
          obtain ⟨_, _, _, rfl⟩ := Store.recordPaid_eq_ok wrote
          rcases Table.mem_changed.mp mem with ⟨old, elsewhere⟩ | ⟨old, _, _, rfl⟩
          · rcases List.mem_append.mp inside with before | now
            · exact consistent.settled isFresh row' old before
            · exact absurd (List.mem_singleton.mp now) elsewhere
          · exact .inl rfl
  | _ => exact unrecorded rfl mem

/-- What a method must know to keep what the database says. -/
theorem of_apply (grown : cluster.Grown net) (begins : method.BeginsOwn D ns store)
    (proves : method.Proves H ns store cluster) (marks : fresh → method.Marks recorded) :
    Consistent H ns fresh (method.apply store).2 cluster (recorded ++ method.records store) ∧
      ∀ other, column other ∈ recorded →
        (method.apply store).2.ledgerOf other = store.ledgerOf other := by
  obtain ⟨books, ledger⟩ := consistent.toBooks.of_apply grown begins proves
  exact ⟨⟨books, fun isFresh row mem => consistent.settled_of_apply isFresh (marks isFresh) mem⟩,
    ledger⟩

end Consistent

/-- The invariant of a run. -/
structure Overlap.Inv (H : Host) (ns : Pubkey) (meets : World D net → Op → Prop) (w : World D net) :
    Prop where
  current : w.Current
  consistent : Consistent H ns (AllFresh meets) w.store w.cluster w.recorded

/-- Time keeps what the database says. -/
theorem Consistent.of_passes {isDate : JsString → Bool} {w w' : World D net}
    (consistent : Consistent H ns fresh w.store w.cluster w.recorded) (passes : Passes isDate w w') :
    Consistent H ns fresh w'.store w'.cluster w'.recorded ∧ Forward w w' := by
  obtain ⟨after, keeps, same⟩ := consistent.enqueues passes.store
  rw [passes.recorded]
  refine ⟨after.later passes.cluster, passes.cluster, keeps, ?_, fun other _ => same.ledgerOf other⟩
  rw [passes.recorded]
  exact List.Subset.refl _

variable {env : Environment D}

/-- Permitted operations keep what the database says. -/
theorem Consistent.of_replies {w w' : World D env.net} {op : Op} {reply : Except Thrown op.Reply}
    (consistent : Consistent H ns fresh w.store w.cluster w.recorded) (permitted : Permitted H ns fresh w op)
    (replies : Replies env w op reply w') :
    Consistent H ns fresh w'.store w'.cluster w'.recorded ∧ Forward w w' := by
  have unchanged {w' : World D env.net} (store : w'.store = w.store) (cluster : w'.cluster = w.cluster)
      (recorded : w'.recorded = w.recorded) :
      Consistent H ns fresh w'.store w'.cluster w'.recorded ∧ Forward w w' := by
    rw [store, cluster, recorded]
    refine ⟨consistent, ?_, ?_, ?_, fun other _ => ?_⟩
    · rw [cluster]
    · rw [store]
      exact .refl _
    · rw [recorded]
      exact List.Subset.refl _
    · rw [store]
  cases op with
  | polls =>
      obtain ⟨_, rfl⟩ := replies
      exact unchanged rfl rfl rfl
  | log line =>
      cases replies
      exact unchanged rfl rfl rfl
  | beforeSend id signature =>
      cases replies
      exact unchanged rfl rfl rfl
  | rpc provider call =>
      cases reply with
      | ok answer =>
          obtain ⟨_, given, _, rfl⟩ := replies
          exact unchanged rfl rfl rfl
      | error error =>
          obtain ⟨_, given, _, rfl⟩ := replies
          exact unchanged rfl rfl rfl
  | store method =>
      obtain ⟨_, rfl⟩ := replies
      obtain ⟨begins, proves, marks⟩ := Permitted.parts permitted
      obtain ⟨after, ledger⟩ := consistent.of_apply w.cluster_grown begins proves marks
      exact ⟨after, .refl, method.keeps w.store, List.subset_append_left _ _, ledger⟩

end Synxed.Studio
