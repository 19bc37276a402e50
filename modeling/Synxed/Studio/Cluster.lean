import Synxed.Program.Safety
import Synxed.Sdk.Evidence
import Synxed.Studio.Worker

/-!
The honest chain: what a cluster has confirmed, and how it grows.

A transaction lands at most once, in a block not above the last valid height of
its blockhash, and leaves on the accounts of the settlement program what its
instructions did. A provider sees the chain as it was at some earlier moment.

* `Later.exists_more`: what landed later landed above the height that was seen.
* `Grown.recorded`: a settlement that landed left its record.
* `Grown.landing_unique`: one landing settles an event in a namespace.
-/

namespace Synxed.Studio

open Synxed.Lib Synxed.Program Synxed.Sdk

/-! ### Signed transactions -/

structure CompiledInstruction where
  programId : Pubkey
  keys : List Pubkey
  data : Bytes
  deriving DecidableEq

/-- Compiling a message keeps the keys of an instruction in order; flags of one
key are merged over the transaction. -/
def compile (instruction : TransactionInstruction) : CompiledInstruction :=
  ⟨instruction.programId, instruction.keys.map (·.key), instruction.data⟩

structure SignedTransaction where
  signature : Bytes
  blockhash : JsString
  instructions : List CompiledInstruction
  deriving DecidableEq

/-- The signature as the RPC methods write it. -/
def SignedTransaction.id (transaction : SignedTransaction) : JsString :=
  base58Encode transaction.signature

/-- What clients and the cluster agree on: how a transaction is signed and
serialized, and how long a blockhash is valid. -/
structure Network where
  sign : Signer
  parse : Bytes → Option SignedTransaction
  parse_sign : ∀ {instructions payer blockhash signers signature raw},
    sign instructions payer blockhash signers = .ok (some signature, raw) →
      parse raw = some ⟨signature, blockhash, instructions.map compile⟩
  /-- The last block height at which a transaction with this blockhash can
  land. -/
  lastValid : JsString → Nat

/-! ### Landings -/

variable {D : Deployment}

/-- The top-level instruction ran as the message names it. -/
def RanAs (compiled : CompiledInstruction) : TopLevel D → Prop
  | .program accounts data _ _ _ =>
      compiled.programId = D.programId ∧ compiled.keys = accounts.map (·.key) ∧
        compiled.data = data
  | .other programId data _ => compiled.programId = programId ∧ compiled.data = data

variable (D) in
/-- A transaction in a block. One that failed only moved lamports, for its
fee. -/
structure Landing where
  transaction : SignedTransaction
  height : Nat
  error : Option Json
  /-- The top-level instructions, when it succeeded. -/
  executed : List (TopLevel D)
  /-- The invocations of the settlement program at any depth, and the moves of
  lamports, in order. -/
  items : List Item
  /-- How a node shows it once it is finalized. -/
  shown : ParsedTransaction
  ran : error = none → List.Forall₂ RanAs transaction.instructions executed
  truthful : error = none → Truthful executed shown
  failed : ∀ e, error = some e → ∃ metadata, shown.metadata = some metadata ∧ metadata.err = some e

/-- The items that top-level instructions come to, from one state of the
accounts to another. Another program may do anything, and fees and rent may move
lamports at any time. -/
inductive Unfolds : List (TopLevel D) → List Item → Accounts → Accounts → Prop where
  | done {state : Accounts} : Unfolds [] [] state state
  | moves {tops : List (TopLevel D)} {items : List Item} {state next last : Accounts}
      {source destination : Pubkey} {lamports : Nat}
      (ran : (Item.move source destination lamports).exec D state = .ok next)
      (rest : Unfolds tops items next last) :
      Unfolds tops (.move source destination lamports :: items) state last
  | program {tops : List (TopLevel D)} {items : List Item} {accounts : List AccountInfo}
      {data : Bytes} {before last : Accounts} {after : Machine}
      {ran : processInstruction D accounts data before = .ok after}
      (rest : Unfolds tops items after.accounts last) :
      Unfolds (.program accounts data before after ran :: tops) (.instruction accounts data :: items)
        before last
  | other {tops : List (TopLevel D)} {items inner : List Item} {programId : Pubkey} {data : Bytes}
      {different : programId ≠ D.programId} {state next last : Accounts}
      (ran : execItems D inner state = .ok next) (rest : Unfolds tops items next last) :
      Unfolds (.other programId data different :: tops) (inner ++ items) state last

theorem execItems_append {first second : List Item} {state next last : Accounts}
    (ran : execItems D first state = .ok next) (then_ : execItems D second next = .ok last) :
    execItems D (first ++ second) state = .ok last := by
  induction first generalizing state with
  | nil =>
      cases ran
      exact then_
  | cons item rest ih =>
      obtain ⟨middle, here, later⟩ := bind_eq_ok.mp ran
      exact bind_eq_ok.mpr ⟨middle, here, ih later⟩

theorem Unfolds.exec {tops : List (TopLevel D)} {items : List Item} {state last : Accounts}
    (unfolds : Unfolds tops items state last) : execItems D items state = .ok last := by
  induction unfolds with
  | done => rfl
  | moves ran _ ih => exact bind_eq_ok.mpr ⟨_, ran, ih⟩
  | @program tops items accounts data before last after ran rest ih =>
      exact bind_eq_ok.mpr ⟨after.accounts, bind_eq_ok.mpr ⟨after, ran, rfl⟩, ih⟩
  | other ran _ ih => exact execItems_append ran ih

/-- A top-level instruction of the program is among the items. -/
theorem Unfolds.mem_items {tops : List (TopLevel D)} {items : List Item} {state last : Accounts}
    {accounts : List AccountInfo} {data : Bytes} {before : Accounts} {after : Machine}
    {ran : processInstruction D accounts data before = .ok after}
    (unfolds : Unfolds tops items state last) (mem : .program accounts data before after ran ∈ tops) :
    .instruction accounts data ∈ items := by
  induction unfolds with
  | done => cases mem
  | moves _ _ ih => exact List.mem_cons_of_mem _ (ih mem)
  | program _ ih =>
      rcases List.mem_cons.mp mem with same | later
      · cases same
        exact List.mem_cons_self
      · exact List.mem_cons_of_mem _ (ih later)
  | other _ _ ih =>
      rcases List.mem_cons.mp mem with same | later
      · cases same
      · exact List.mem_append_right _ (ih later)

/-- The items of a landing ran on these accounts. -/
def Landing.RunsOn (landing : Landing D) (accounts : Accounts) : Prop :=
  match landing.error with
  | none => ∃ after, Unfolds landing.executed landing.items accounts after
  | some _ => ∀ item ∈ landing.items, ∃ source destination lamports,
      item = .move source destination lamports

/-- The landing settled the event, at any depth. -/
def Landing.Settles (landing : Landing D) (ns : Pubkey) (eventId : Bytes32) : Prop :=
  landing.error = none ∧ ∃ item ∈ landing.items, ∃ amount,
    item.settlement = some (ns, eventId, amount)

/-! ### The chain -/

variable (D) in
/-- What a cluster has confirmed. -/
structure Cluster where
  genesis : ChainState
  /-- The transactions that landed, oldest first. -/
  ledger : List (Landing D)
  /-- Of the last full block. -/
  height : Nat
  /-- How many of the landings are finalized. -/
  finalized : Nat

namespace Cluster

def state (cluster : Cluster D) : ChainState :=
  cluster.genesis.run D (cluster.ledger.map Landing.items)

def accounts (cluster : Cluster D) : Accounts := cluster.state.accounts

/-- Every item that was committed. -/
def log (cluster : Cluster D) : List Item :=
  cluster.genesis.executed D (cluster.ledger.map Landing.items)

def finalizedLedger (cluster : Cluster D) : List (Landing D) :=
  cluster.ledger.take cluster.finalized

/-- The event has its record, with this gross amount. -/
def Holds (cluster : Cluster D) (ns : Pubkey) (eventId : Bytes32) (amount : UInt64) : Prop :=
  Recorded D cluster.accounts ns eventId amount

/-- One step of an honest chain. -/
inductive Next (net : Network) : Cluster D → Cluster D → Prop where
  | lands {cluster : Cluster D} (landing : Landing D) (height : landing.height = cluster.height + 1)
      (valid : landing.height ≤ net.lastValid landing.transaction.blockhash)
      (fresh : ∀ old ∈ cluster.ledger, old.transaction.signature ≠ landing.transaction.signature)
      (runs : landing.RunsOn cluster.accounts) :
      Next net cluster { cluster with ledger := cluster.ledger ++ [landing] }
  | block {cluster : Cluster D} : Next net cluster { cluster with height := cluster.height + 1 }
  | finalizes {cluster : Cluster D} (more : cluster.finalized < cluster.ledger.length) :
      Next net cluster { cluster with finalized := cluster.finalized + 1 }

/-- The chain at a later moment. -/
abbrev Later (net : Network) : Cluster D → Cluster D → Prop := Relation.ReflTransGen (Next net)

/-- A chain that grew from its genesis. -/
def Grown (net : Network) (cluster : Cluster D) : Prop :=
  ∃ start : Cluster D, start.ledger = [] ∧ Later net start cluster

/-! ### Growing -/

variable {net : Network} {cluster cluster' : Cluster D}

theorem Later.height_le (later : Later net cluster cluster') : cluster.height ≤ cluster'.height := by
  induction later with
  | refl => exact le_refl _
  | tail _ next ih =>
      cases next with
      | lands => exact ih
      | block => exact Nat.le_succ_of_le ih
      | finalizes => exact ih

/-- What landed later landed above the height that was seen, while it was still
valid, and was not there before. -/
theorem Later.exists_more (later : Later net cluster cluster') :
    ∃ more, cluster'.ledger = cluster.ledger ++ more ∧ ∀ landing ∈ more,
      cluster.height < net.lastValid landing.transaction.blockhash ∧
        ∀ old ∈ cluster.ledger, old.transaction.signature ≠ landing.transaction.signature := by
  induction later with
  | refl => exact ⟨[], by simp, by simp⟩
  | @tail middle last before next ih =>
      obtain ⟨more, ledger, all⟩ := ih
      cases next with
      | lands landing height valid fresh runs =>
          refine ⟨more ++ [landing], by simp [ledger], fun new mem => ?_⟩
          rcases List.mem_append.mp mem with earlier | single
          · exact all new earlier
          · rw [List.mem_singleton.mp single]
            refine ⟨?_, fun old mem => fresh old ?_⟩
            · have := Later.height_le before
              omega
            · rw [ledger]
              exact List.mem_append_left _ mem
      | block => exact ⟨more, ledger, all⟩
      | finalizes => exact ⟨more, ledger, all⟩

theorem Later.mem_ledger (later : Later net cluster cluster') {landing : Landing D}
    (mem : landing ∈ cluster.ledger) : landing ∈ cluster'.ledger := by
  obtain ⟨more, ledger, _⟩ := later.exists_more
  rw [ledger]
  exact List.mem_append_left _ mem

theorem mem_of_mem_finalizedLedger {landing : Landing D} (mem : landing ∈ cluster.finalizedLedger) :
    landing ∈ cluster.ledger := List.mem_of_mem_take mem

theorem Later.mem_finalizedLedger (later : Later net cluster cluster') {landing : Landing D}
    (mem : landing ∈ cluster.finalizedLedger) : landing ∈ cluster'.finalizedLedger := by
  induction later with
  | refl => exact mem
  | @tail middle last _ next ih =>
      cases next with
      | lands landing' =>
          rw [finalizedLedger, List.take_append]
          exact List.mem_append_left _ ih
      | block => exact ih
      | finalizes =>
          exact List.mem_of_mem_take (i := middle.finalized) (by
            rw [finalizedLedger, List.take_take, Nat.min_eq_left (Nat.le_succ _)]
            exact ih)

/-! ### Records on the chain -/

end Cluster

theorem ChainState.run_append (state : ChainState) (first second : List Transaction) :
    state.run D (first ++ second) = (state.run D first).run D second := by
  induction first generalizing state with
  | nil => rfl
  | cons transaction rest ih => exact ih _

theorem ChainState.executed_append (state : ChainState) (first second : List Transaction) :
    state.executed D (first ++ second) =
      state.executed D first ++ (state.run D first).executed D second := by
  induction first generalizing state with
  | nil => rfl
  | cons transaction rest ih =>
      rw [List.cons_append, ChainState.executed, ih, ← List.append_assoc]
      rfl

namespace Cluster

variable {net : Network} {cluster cluster' : Cluster D}

theorem log_lands (landing : Landing D) :
    ({ cluster with ledger := cluster.ledger ++ [landing] } : Cluster D).log =
      cluster.log ++ cluster.state.committed D landing.items := by
  simp only [log, state, List.map_append, List.map_singleton, ChainState.executed_append,
    ChainState.executed, List.append_nil]

theorem committed_of_runsOn {landing : Landing D} (runs : landing.RunsOn cluster.accounts)
    (succeeded : landing.error = none) :
    cluster.state.committed D landing.items = landing.items := by
  rw [Landing.RunsOn, succeeded] at runs
  obtain ⟨after, unfolds⟩ := runs
  have ran : execItems D landing.items cluster.state.accounts = .ok after := unfolds.exec
  rw [ChainState.committed, ran]

theorem settledOnce (cluster : Cluster D) (ns : Pubkey) (eventId : Bytes32) :
    SettledOnce D ns eventId cluster.log cluster.accounts :=
  settledOnce_of_trace ns eventId (cluster.genesis.run_trace _)

/-- What a landing that succeeded did is in the log, after what others did. -/
theorem Grown.mem_log (grown : Grown net cluster) {landing : Landing D}
    (mem : landing ∈ cluster.ledger) (succeeded : landing.error = none) {item : Item}
    (inside : item ∈ landing.items) : item ∈ cluster.log := by
  obtain ⟨start, empty, later⟩ := grown
  induction later with
  | refl =>
      rw [empty] at mem
      cases mem
  | @tail middle last _ next ih =>
      cases next with
      | lands landing' height valid fresh runs =>
          rw [log_lands]
          rcases List.mem_append.mp mem with earlier | single
          · exact List.mem_append_left _ (ih earlier)
          · cases List.mem_singleton.mp single
            rw [committed_of_runsOn runs succeeded]
            exact List.mem_append_right _ inside
      | block => exact ih mem
      | finalizes => exact ih mem

/-- A landing that succeeded ran from some state of the accounts. -/
theorem Grown.unfolds (grown : Grown net cluster) {landing : Landing D}
    (mem : landing ∈ cluster.ledger) (succeeded : landing.error = none) :
    ∃ before after, Unfolds landing.executed landing.items before after := by
  obtain ⟨start, empty, later⟩ := grown
  induction later with
  | refl =>
      rw [empty] at mem
      cases mem
  | tail _ next ih =>
      cases next with
      | lands landing' height valid fresh runs =>
          rcases List.mem_append.mp mem with earlier | single
          · exact ih earlier
          · cases List.mem_singleton.mp single
            rw [Landing.RunsOn, succeeded] at runs
            exact ⟨_, runs⟩
      | block => exact ih mem
      | finalizes => exact ih mem

/-- Two landings with one signature are one. -/
theorem Grown.landing_of_signature (grown : Grown net cluster) {first second : Landing D}
    (mem : first ∈ cluster.ledger) (mem' : second ∈ cluster.ledger)
    (same : first.transaction.id = second.transaction.id) : first = second := by
  have bytes : first.transaction.signature = second.transaction.signature :=
    base58Encode_injective same
  obtain ⟨start, empty, later⟩ := grown
  induction later generalizing first second with
  | refl =>
      rw [empty] at mem
      cases mem
  | tail _ next ih =>
      cases next with
      | block => exact ih mem mem' same bytes
      | finalizes => exact ih mem mem' same bytes
      | lands landing height valid fresh runs =>
          rcases List.mem_append.mp mem with old | new <;>
            rcases List.mem_append.mp mem' with old' | new'
          · exact ih old old' same bytes
          · cases List.mem_singleton.mp new'
            exact absurd bytes (fresh first old)
          · cases List.mem_singleton.mp new
            exact absurd bytes.symm (fresh second old')
          · rw [List.mem_singleton.mp new, List.mem_singleton.mp new']

theorem mem_settlementsOf {ns : Pubkey} {eventId : Bytes32} {amount : UInt64} {log : List Item}
    {item : Item} (mem : item ∈ log) (settles : item.settlement = some (ns, eventId, amount)) :
    amount ∈ settlementsOf ns eventId log :=
  List.mem_filterMap.mpr ⟨item, mem, Item.settles_eq_some.mpr settles⟩

/-- A settlement that landed left its record. -/
theorem Grown.recorded (grown : Grown net cluster) {landing : Landing D} {ns : Pubkey}
    {eventId : Bytes32} (mem : landing ∈ cluster.ledger) (settles : landing.Settles ns eventId) :
    ∃ amount, cluster.Holds ns eventId amount := by
  obtain ⟨succeeded, item, inside, amount, settled⟩ := settles
  have here := mem_settlementsOf (grown.mem_log mem succeeded inside) settled
  rcases cluster.settledOnce ns eventId with nothing | ⟨only, _, recorded⟩
  · rw [nothing] at here
    cases here
  · exact ⟨only, recorded⟩

/-- One landing settles an event in a namespace. -/
theorem Grown.landing_unique (grown : Grown net cluster) {ns : Pubkey} {eventId : Bytes32}
    {first second : Landing D} (mem : first ∈ cluster.ledger) (mem' : second ∈ cluster.ledger)
    (settles : first.Settles ns eventId) (settles' : second.Settles ns eventId) : first = second := by
  obtain ⟨start, empty, later⟩ := grown
  induction later generalizing first second with
  | refl =>
      rw [empty] at mem
      cases mem
  | @tail middle last before next ih =>
      cases next with
      | block => exact ih mem mem' settles settles'
      | finalizes => exact ih mem mem' settles settles'
      | lands landing height valid fresh runs =>
          -- the log would hold two settlements of the event
          have twice {old : Landing D} (mem : old ∈ middle.ledger) (settles : old.Settles ns eventId)
              (settles' : landing.Settles ns eventId) : False := by
            obtain ⟨succeeded, item, inside, amount, settled⟩ := settles
            obtain ⟨succeeded', item', inside', amount', settled'⟩ := settles'
            have early := mem_settlementsOf
              (Grown.mem_log ⟨start, empty, before⟩ mem succeeded inside) settled
            have late := mem_settlementsOf inside' settled'
            have all := ({ middle with ledger := middle.ledger ++ [landing] } :
              Cluster D).settledOnce ns eventId
            rw [log_lands, committed_of_runsOn runs succeeded', SettledOnce, settlementsOf,
              List.filterMap_append, ← settlementsOf, ← settlementsOf] at all
            have some := List.length_pos_of_mem early
            have more := List.length_pos_of_mem late
            rcases all with nothing | ⟨_, one, _⟩
            · have := congrArg List.length nothing
              simp only [List.length_append, List.length_nil] at this
              omega
            · have := congrArg List.length one
              simp only [List.length_append, List.length_singleton] at this
              omega
          rcases List.mem_append.mp mem with old | new <;>
            rcases List.mem_append.mp mem' with old' | new'
          · exact ih old old' settles settles'
          · cases List.mem_singleton.mp new'
            exact (twice old settles settles').elim
          · cases List.mem_singleton.mp new
            exact (twice old' settles' settles).elim
          · rw [List.mem_singleton.mp new, List.mem_singleton.mp new']

/-- A record stays. -/
theorem Later.holds (later : Later net cluster cluster') {ns : Pubkey} {eventId : Bytes32}
    {amount : UInt64} (holds : cluster.Holds ns eventId amount) :
    cluster'.Holds ns eventId amount := by
  induction later with
  | refl => exact holds
  | @tail middle last _ next ih =>
      cases next with
      | block => exact ih
      | finalizes => exact ih
      | lands landing height valid fresh runs =>
          have run := middle.state.step_trace (D := D) landing.items
          have same : ({ middle with ledger := middle.ledger ++ [landing] } : Cluster D).accounts =
              (middle.state.step D landing.items).accounts := by
            simp only [accounts, state, List.map_append, List.map_singleton, ChainState.run_append,
              ChainState.run]
          rw [Holds, same]
          refine run.invariant (fun _ accounts => Recorded D accounts ns eventId amount) ih
            (fun _ _ _ _ _ recorded step => recorded.of_itemStep step) ?_
          rintro _ _ _ recorded rfl
          exact recorded.of_purge Nat.one_pos

end Cluster

/-! ### A sample chain

The sample settlement, signed, lands on the sample state. -/

def sampleBlockhash : JsString := js "blockhash"

def sampleSigned : SignedTransaction where
  signature := List.replicate 64 7
  blockhash := sampleBlockhash
  instructions := [compile (memoInstruction sampleRequest 1001), compile sampleSettle]

/-- The serialized transaction, as far as its first signature. -/
def sampleRaw : Bytes := 2 :: sampleSigned.signature

/-- Clients that sign the sample settlement. -/
def sampleNetwork : Network where
  sign instructions _ blockhash _ :=
    if instructions = [memoInstruction sampleRequest 1001, sampleSettle] ∧
        blockhash = sampleBlockhash then
      .ok (some sampleSigned.signature, sampleRaw)
    else .error (.other (js "Error: unknown signer"))
  parse raw := if raw = sampleRaw then some sampleSigned else none
  parse_sign := by
    intro instructions payer blockhash signers signature raw signed
    split at signed
    · next known =>
        obtain ⟨rfl, rfl⟩ := known
        cases signed
        rfl
    · cases signed
  lastValid _ := 100

def sampleLanding : Landing sampleDeployment where
  transaction := sampleSigned
  height := 1
  error := none
  executed := sampleExecuted
  items := [.instruction sampleSettle.keys sampleSettle.data]
  shown := shownTransaction sampleExecuted sampleSigned.id 7 1767225600
  ran _ := .cons ⟨rfl, rfl⟩ (.cons ⟨rfl, rfl, rfl⟩ .nil)
  truthful _ := truthful_shownTransaction _ _ _ _
  failed _ e := nomatch e

/-- What the sample settlement settles and derives; its record was not there before. -/
theorem sampleSettle_item :
    (Item.instruction sampleSettle.keys sampleSettle.data).settlement =
        some (sampleNamespace, sampleHost.sha256 (textEncode sampleRequest.eventId), 1001) ∧
      (Item.instruction sampleSettle.keys sampleSettle.data).seeds =
        some (settlementSeeds sampleNamespace
          (sampleHost.sha256 (textEncode sampleRequest.eventId))).flatten ∧
      (sampleState.accounts (recordAddress sampleDeployment sampleNamespace
        (sampleHost.sha256 (textEncode sampleRequest.eventId)))).owner ≠ sampleDeployment.programId := by
  decide +kernel

theorem sampleLanding_settles :
    sampleLanding.Settles sampleNamespace (sampleHost.sha256 (textEncode sampleRequest.eventId)) :=
  ⟨rfl, _, List.mem_singleton_self _, 1001, sampleSettle_item.1⟩

/-- The chain before the settlement. -/
def sampleOpen : Cluster sampleDeployment := ⟨sampleState, [], 0, 0⟩

/-- The chain once the settlement is finalized. -/
def sampleSettled : Cluster sampleDeployment := ⟨sampleState, [sampleLanding], 1, 1⟩

theorem sampleSettled_later : Cluster.Later sampleNetwork sampleOpen sampleSettled := by
  have unfolds : Unfolds sampleExecuted ([] ++ sampleLanding.items) sampleOpen.accounts
      sampleAfter.accounts := .other rfl (.program .done)
  have landed : Cluster.Next sampleNetwork sampleOpen ⟨sampleState, [sampleLanding], 0, 0⟩ :=
    .lands sampleLanding rfl (by decide) (fun _ old => nomatch old) ⟨_, unfolds⟩
  exact ((Relation.ReflTransGen.single landed).tail .block).tail (.finalizes Nat.one_pos)

end Synxed.Studio
