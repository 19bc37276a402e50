import Synxed.Sdk.Readers
import Synxed.Studio.Worker
import Synxed.Studio.Events

/-!
The ids of events, as texts and on chain.

The chain knows an event by the hash of its UTF-8 text, in which every unpaired
surrogate is the replacement character.

* `events_kept_apart_iff`: two events have records of their own exactly when
  their ids differ as well-formed texts.
* `events_not_kept_apart`: two prepared events with one record.
-/

namespace Synxed.Studio

open Synxed.Lib Synxed.Program Synxed.Sdk

variable {D : Deployment} {H : Host} {eventId other : JsString}

/-- A node that answers the worker's requests from one state. -/
def nodeAnswer (accounts : Accounts) : (op : Op) → Except Thrown op.Reply
  | .rpc _ call => nodeAt accounts call
  | .store _ => .error (.other (js "unavailable"))
  | .polls => .error (.other (js "unavailable"))
  | .log _ => .error (.other (js "unavailable"))
  | .beforeSend _ _ => .error (.other (js "unavailable"))

variable (D H) in
/-- In every run that settles only the event `eventId` in a namespace, the event
`other` reads as not settled there, and the worker finds no record to decide it
by. -/
def Unaffected (ns : Pubkey) (seed otherSeed : Bytes32) : Prop :=
  ∀ (start : ChainState) (transactions : List Transaction),
    OnlyOwnAccounts D start.accounts → OnlyLegacyRecords D start.accounts →
    CollisionFree D (insert (settlementSeeds ns otherSeed).flatten
      (runSeeds D start.accounts (start.executed D transactions))) →
    (∀ item ∈ start.executed D transactions, ∀ eventId amount,
      item.settlement = some (ns, eventId, amount) → eventId = seed) →
    (fetchSettlementRecord H nodeConnection D.programId ns otherSeed).runWith
        (nodeAt (start.run D transactions).accounts) = .ok none ∧
      ∀ options : WorkerOptions, options.programId = D.programId → options.ns = ns →
        (options.readRecord H otherSeed).runWith (nodeAnswer (start.run D transactions).accounts) =
          .ok .absent

variable (D H) in
/-- Two events have seeds and, in every namespace, records of their own, and
settling one does not settle the other. -/
def KeptApart (eventId other : JsString) : Prop :=
  ∃ seed otherSeed, eventIdSeed H eventId = .ok seed ∧ eventIdSeed H other = .ok otherSeed ∧
    seed ≠ otherSeed ∧ ∀ ns, recordAddress D ns seed ≠ recordAddress D ns otherSeed ∧
      Unaffected D H ns seed otherSeed ∧ Unaffected D H ns otherSeed seed

variable (D H) in
/-- No two of the texts that these ids are hashed and derived from collide. -/
structure NoCollision (eventId other : JsString) : Prop where
  hashes : H.sha256 (textEncode eventId) = H.sha256 (textEncode other) →
    textEncode eventId = textEncode other
  addresses : ∀ ns, CollisionFree D
    {(settlementSeeds ns (H.sha256 (textEncode eventId))).flatten,
      (settlementSeeds ns (H.sha256 (textEncode other))).flatten}

/-! ### Reading -/

theorem readRecord_absent {options : WorkerOptions} {seed : Bytes32} {accounts : Accounts}
    (read : (fetchSettlementRecord H nodeConnection options.programId options.ns seed).runWith
      (nodeAt accounts) = .ok none) :
    (options.readRecord H seed).runWith (nodeAnswer accounts) = .ok .absent := by
  have fetched (provider : Provider) : (Interaction.result (fetchSettlementRecord H
      (connectionTo provider) options.programId options.ns seed)).runWith (nodeAnswer accounts) =
        .ok (.ok none) := by
    rw [Interaction.runWith_result, ← read]
    simp only [fetchSettlementRecord, connectionTo, nodeConnection, Interaction.runWith_bind,
      Interaction.runWith_ofExcept, Interaction.runWith_perform, nodeAnswer]
  simp only [WorkerOptions.readRecord, Interaction.runWith_bind, fetched, ok_bind]
  split
  · simp only [Interaction.runWith_bind, fetched, ok_bind, Interaction.runWith_pure]
  · rfl

/-- An event whose seed nobody settled is not affected. -/
theorem unaffected_of_ne (addresses : D.addresses = H.addresses) {ns : Pubkey}
    {seed otherSeed : Bytes32} (different : seed ≠ otherSeed) :
    Unaffected D H ns seed otherSeed := by
  intro start transactions own legacy free only
  obtain ⟨settled, one, reads⟩ := fetchSettlementRecord_reports addresses own legacy
    (start.run_trace transactions) free
  have nothing : settlementsOf ns otherSeed (start.executed D transactions) = [] := by
    refine List.filterMap_eq_nil_iff.mpr fun item mem => ?_
    by_contra settles
    obtain ⟨amount, settles⟩ := Option.ne_none_iff_exists'.mp settles
    exact different (only item mem otherSeed amount (Item.settles_eq_some.mp settles)).symm
  rw [nothing] at one
  cases settled with
  | some amount => cases one
  | none =>
      refine ⟨reads, fun options program sameNs => readRecord_absent ?_⟩
      rw [program, sameNs]
      exact reads

/-! ### When events are kept apart -/

/-- Any two prepared events with different ids are kept apart, where nothing
collides. -/
def EventsKeptApart : Prop :=
  ∀ (H : Host) (D : Deployment), D.addresses = H.addresses →
    ∀ (isDate : JsString → Bool) (event event' : Json) (prepared prepared' : PreparedEvent),
      prepareEvent isDate event = .ok prepared → prepareEvent isDate event' = .ok prepared' →
      prepared.request.eventId ≠ prepared'.request.eventId →
      NoCollision D H prepared.request.eventId prepared'.request.eventId →
      KeptApart D H prepared.request.eventId prepared'.request.eventId

/-- **One record for each event.** Where neither the hash nor the derivation of
addresses collides on them, two events are kept apart on chain exactly when
their ids still differ once every unpaired surrogate is replaced. -/
theorem events_kept_apart_iff (H : Host) (D : Deployment) (addresses : D.addresses = H.addresses)
    (eventId other : JsString) (named : eventId ≠ []) (otherNamed : other ≠ [])
    (free : NoCollision D H eventId other) :
    KeptApart D H eventId other ↔ toWellFormed eventId ≠ toWellFormed other := by
  have seeded : eventIdSeed H eventId = .ok (H.sha256 (textEncode eventId)) :=
    eventIdSeed_eq_ok.mpr ⟨named, rfl⟩
  have otherSeeded : eventIdSeed H other = .ok (H.sha256 (textEncode other)) :=
    eventIdSeed_eq_ok.mpr ⟨otherNamed, rfl⟩
  constructor
  · rintro ⟨seed, otherSeed, here, there, different, _⟩ same
    rw [seeded, Except.ok.injEq] at here
    rw [otherSeeded, Except.ok.injEq] at there
    exact different (by rw [← here, ← there, textEncode_inj.mpr same])
  · intro different
    have hashes : H.sha256 (textEncode eventId) ≠ H.sha256 (textEncode other) := fun same =>
      different (textEncode_inj.mp (free.hashes same))
    refine ⟨_, _, seeded, otherSeeded, hashes, fun ns => ⟨fun same => ?_,
      unaffected_of_ne addresses hashes, unaffected_of_ne addresses hashes.symm⟩⟩
    have seeds := free.addresses ns (settlementSeeds ns _) (settlementSeeds ns _) (.inl rfl) (.inr rfl)
      same
    exact hashes (settlementSeeds_injective seeds).2

/-- Two sample ids are kept apart. -/
theorem events_kept_apart_iff_sample :
    KeptApart sampleDeployment sampleHost (js "event-1") (js "event-2") := by
  refine (events_kept_apart_iff sampleHost sampleDeployment rfl (js "event-1") (js "event-2")
    (by decide) (by decide) ⟨fun same => ?_, fun ns => ?_⟩).mpr (by decide)
  · exact absurd same (by decide +kernel)
  · have front : (settlementSeed ++ ns.val).length = 42 := by simp [settlementSeed, ns.property]
    have differ :
        sampleAddress (settlementSeeds ns (sampleHost.sha256 (textEncode (js "event-1")))).flatten ≠
        sampleAddress (settlementSeeds ns (sampleHost.sha256 (textEncode (js "event-2")))).flatten := by
      simp only [settlementSeeds, List.flatten_cons, List.flatten_nil, List.append_nil,
        ← List.append_assoc]
      refine sampleAddress_ne ?_
      rw [front]
      decide +kernel
    exact collisionFree_pair (fun _ => rfl) differ

/-- A studio event under an id. -/
def sampleEventNamed (eventId : JsString) : Json := .object
  [(js "eventId", .string eventId), (js "occurredAt", .string (js "2026-01-01T00:00:00.000Z")),
    (js "amountAtomic", .string (js "1001")), (js "memo", .string (js "sample")),
    (js "shares", .array
      [.object [(js "label", .string (js "creator")),
        (js "recipient", .string (toBase58 sampleRecipient)), (js "bps", .number (.ofInt 10000))]])]

/-- Two ids that end in unpaired surrogates have one record. -/
theorem events_not_kept_apart : ¬ EventsKeptApart := by
  intro apart
  have prepares (unit : UInt16) (h : unit = 0xD800 ∨ unit = 0xD801) : ∃ prepared,
      prepareEvent (fun _ => true) (sampleEventNamed (js "event-" ++ [unit])) = .ok prepared ∧
        prepared.request.eventId = js "event-" ++ [unit] := by
    have named : ((prepareEvent (fun _ => true) (sampleEventNamed (js "event-" ++ [unit]))).map
        fun prepared => prepared.request.eventId).toOption = some (js "event-" ++ [unit]) := by
      rcases h with rfl | rfl <;> decide +kernel
    cases prepared : prepareEvent (fun _ => true) (sampleEventNamed (js "event-" ++ [unit])) with
    | error thrown =>
        rw [prepared] at named
        cases named
    | ok prepared' =>
        rw [prepared] at named
        exact ⟨prepared', rfl, Option.some.inj named⟩
  obtain ⟨prepared, ok, id⟩ := prepares 0xD800 (.inl rfl)
  obtain ⟨prepared', ok', id'⟩ := prepares 0xD801 (.inr rfl)
  have wellFormed : toWellFormed (js "event-" ++ [0xD800]) = toWellFormed (js "event-" ++ [0xD801]) := by
    decide
  have encoded := textEncode_inj.mpr wellFormed
  have kept := apart sampleHost sampleDeployment rfl _ _ _ prepared prepared' ok ok'
  rw [id, id'] at kept
  obtain ⟨seed, otherSeed, here, there, different, _⟩ := kept (by decide) ⟨fun _ => encoded, by
    intro ns seeds seeds' inside inside' _
    rw [encoded, Set.pair_eq_singleton] at inside inside'
    exact inside.trans inside'.symm⟩
  rw [eventIdSeed_eq_ok] at here there
  exact different (by rw [← here.2, ← there.2, encoded])

end Synxed.Studio
