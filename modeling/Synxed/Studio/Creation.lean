import Synxed.Sdk.Search
import Synxed.Studio.Cluster

/-!
The transaction that created a record, and what the search for it finds.

Anyone can add to the history of a record: failed transactions, deposits,
settlements of other events, and decoys, transactions that succeeded and show an
invocation of the program that did nothing.

* `Cluster.Creates.settles`: the transaction that made the record an account of
  the program settled the record's event.
* `TruthfulHistory`: a history as an archive serves it, with whatever others
  added.
* `creator_found`: the search finds the creator exactly when the history is short
  enough and nothing else in it shows a settlement of the event.
-/

namespace Synxed.Studio

open Synxed.Lib Synxed.Program Synxed.Sdk

variable {D : Deployment} {net : Network} {ns : Pubkey} {eventId : Bytes32}

/-! ### Creating a record -/

namespace Cluster

variable {cluster : Cluster D}

/-- The accounts once these transactions landed. -/
def after (cluster : Cluster D) (ledger : List (Landing D)) : Accounts :=
  (cluster.genesis.run D (ledger.map Landing.items)).accounts

/-- Every item that is finalized. -/
def finalizedLog (cluster : Cluster D) : List Item :=
  cluster.genesis.executed D (cluster.finalizedLedger.map Landing.items)

/-- The finalized landing made the address an account of the program. -/
def Creates (cluster : Cluster D) (landing : Landing D) (record : Pubkey) : Prop :=
  ∃ early late, cluster.finalizedLedger = early ++ landing :: late ∧
    (cluster.after early record).owner ≠ D.programId ∧
    (cluster.after (early ++ [landing]) record).owner = D.programId

/-- An account of the program that was none at the start was created. -/
theorem exists_creates {record : Pubkey}
    (fresh : (cluster.genesis.accounts record).owner ≠ D.programId)
    (there : (cluster.after cluster.finalizedLedger record).owner = D.programId) :
    ∃ landing, cluster.Creates landing record := by
  have from_ (late early : List (Landing D)) (cut : cluster.finalizedLedger = early ++ late)
      (fresh : (cluster.after early record).owner ≠ D.programId) :
      ∃ landing, cluster.Creates landing record := by
    induction late generalizing early with
    | nil =>
        rw [cut, List.append_nil] at there
        exact absurd there fresh
    | cons landing late ih =>
        by_cases now : (cluster.after (early ++ [landing]) record).owner = D.programId
        · exact ⟨landing, early, late, cut, fresh, now⟩
        · exact ih (early ++ [landing]) (by rw [cut, List.append_assoc]; rfl) now
  exact from_ cluster.finalizedLedger [] rfl fresh

/-- A landing that failed only moved lamports. -/
theorem Grown.moves_of_failed (grown : Grown net cluster) {landing : Landing D}
    (mem : landing ∈ cluster.ledger) {error : Json} (failed : landing.error = some error) :
    ∀ item ∈ landing.items, ∃ source destination lamports,
      item = .move source destination lamports := by
  obtain ⟨start, empty, later⟩ := grown
  induction later with
  | refl =>
      rw [empty] at mem
      cases mem
  | tail _ next ih =>
      cases next with
      | lands landing' height valid fresh runs =>
          rcases List.mem_append.mp mem with earlier | single
          · exact ih earlier
          · cases List.mem_singleton.mp single
            rw [Landing.RunsOn, failed] at runs
            exact runs
      | block => exact ih mem
      | finalizes => exact ih mem

theorem Creates.mem {landing : Landing D} {record : Pubkey}
    (creates : cluster.Creates landing record) : landing ∈ cluster.finalizedLedger := by
  obtain ⟨early, late, cut, _⟩ := creates
  rw [cut]
  exact List.mem_append_right _ List.mem_cons_self

/-- The event was settled at the address, or the address is no account of the
program. -/
def MadeBySettling (D : Deployment) (ns : Pubkey) (eventId : Bytes32) (done : List Item)
    (accounts : Accounts) : Prop :=
  (accounts (recordAddress D ns eventId)).owner = D.programId →
    ∃ item ∈ done, ∃ amount, item.settlement = some (ns, eventId, amount)

/-- Only a settlement of the event creates its record. -/
theorem Creates.settles (grown : Grown net cluster) {landing : Landing D}
    (free : CollisionFree D
      (insert (settlementSeeds ns eventId).flatten (derivedSeeds cluster.finalizedLog)))
    (creates : cluster.Creates landing (recordAddress D ns eventId)) :
    landing.Settles ns eventId := by
  have mem := mem_of_mem_finalizedLedger creates.mem
  obtain ⟨early, late, cut, fresh, now⟩ := creates
  set before := cluster.genesis.run D (early.map Landing.items) with hbefore
  have stepped : cluster.after (early ++ [landing]) = (before.step D landing.items).accounts := by
    rw [after, List.map_append, ChainState.run_append]
    rfl
  have logged : ∀ item ∈ before.committed D landing.items, item ∈ cluster.finalizedLog := by
    intro item own
    rw [finalizedLog, cut, List.map_append, ChainState.executed_append]
    exact List.mem_append_right _ (List.mem_append_left _ own)
  -- the item that made the account derives its address
  have made : MadeBySettling D ns eventId (before.committed D landing.items)
      (before.step D landing.items).accounts := by
    refine (before.step_trace (D := D) landing.items).invariant (MadeBySettling D ns eventId) ?_ ?_ ?_
    · exact fun owned => absurd owned fresh
    · intro done accounts item accounts' own earlier next owned
      by_cases old : (accounts (recordAddress D ns eventId)).owner = D.programId
      · obtain ⟨settled, inside, amount, settles⟩ := earlier old
        exact ⟨settled, List.mem_append_left _ inside, amount, settles⟩
      · have seeds := seeds_of_made free (Set.mem_insert _ _) (fun bytes derived =>
          Set.mem_insert_of_mem _ ⟨item, logged item own, derived⟩) next old owned
        exact ⟨item, List.mem_append_right _ (List.mem_singleton_self _), settlement_of_seeds seeds⟩
    · rintro done accounts accounts' earlier rfl owned
      refine earlier ?_
      by_cases empty : (accounts (recordAddress D ns eventId)).lamports = 0
      · rw [purge, if_pos empty] at owned
        exact absurd owned.symm D.notSystem
      · rwa [purge, if_neg empty] at owned
  rw [stepped] at now
  obtain ⟨item, own, amount, settles⟩ := made now
  have inside : item ∈ landing.items := by
    unfold ChainState.committed at own
    split at own
    · exact own
    · cases own
  refine ⟨?_, item, inside, amount, settles⟩
  cases failed : landing.error with
  | none => rfl
  | some error =>
      obtain ⟨_, _, _, rfl⟩ := grown.moves_of_failed mem failed item inside
      cases settles

/-- Landings have different signatures. -/
theorem Grown.ids_nodup (grown : Grown net cluster) :
    (cluster.ledger.map fun landing => landing.transaction.id).Nodup := by
  obtain ⟨start, empty, later⟩ := grown
  induction later with
  | refl =>
      rw [empty]
      exact List.nodup_nil
  | tail _ next ih =>
      cases next with
      | block => exact ih
      | finalizes => exact ih
      | lands landing height valid fresh runs =>
          rw [List.map_append, List.map_singleton]
          refine ih.append (List.nodup_singleton _) ?_
          intro id old new
          obtain ⟨earlier, mem, same⟩ := List.mem_map.mp old
          rw [List.mem_singleton.mp new] at same
          exact fresh earlier mem (base58Encode_injective same)

end Cluster

/-! ### Settlements that a transaction shows -/

/-- The search knows a settlement of the event by its instruction: its tag, its
event id and its third account. -/
theorem settlesEvent_iff {accounts : List AccountInfo} {data : Bytes} {v : SettlementInstruction}
    {raw : RawInstruction} (decoded : SettlementInstruction.unpack data = .ok v)
    (keys : raw.accounts = accounts.map (·.key)) :
    settlesEvent ns eventId raw data = true ↔
      ∃ amount, (Item.instruction accounts data).settlement = some (ns, eventId, amount) := by
  have named : raw.accounts[2]? = some ns ↔ keyAt accounts 2 = some ns := by
    rw [keys, List.getElem?_map, keyAt]
  have seeded (eventId' : Bytes32) (rest : Bytes) (tag : UInt8) :
      hasEventSeed (tag :: (eventId'.val ++ rest)) eventId = true ↔ eventId' = eventId := by
    have length : eventId'.val.length = 32 := eventId'.property
    simp [hasEventSeed, length, Subtype.ext_iff]
  obtain ⟨rfl, _⟩ := SettlementInstruction.unpack_eq_ok.mp decoded
  rw [settlesEvent, decide_eq_true_iff, named, Item.settlement, decoded]
  cases v with
  | createNamespace namespaceId authority =>
      refine iff_of_false (fun found => absurd found.1 (by simp [SettlementInstruction.pack]; decide)) ?_
      cases keyAt accounts 2 <;> simp [SettlementInstruction.settlement]
  | setNamespaceAuthority newAuthority =>
      refine iff_of_false (fun found => absurd found.1 (by simp [SettlementInstruction.pack]; decide)) ?_
      cases keyAt accounts 2 <;> simp [SettlementInstruction.settlement]
  | settleN eventId' amount bps =>
      rw [SettlementInstruction.pack, seeded]
      refine (and_iff_right (Or.inl rfl)).trans ?_
      cases keyAt accounts 2 <;> simp [SettlementInstruction.settlement]
  | settleTokenN eventId' amount decimals bps =>
      rw [SettlementInstruction.pack, seeded]
      refine (and_iff_right (Or.inr rfl)).trans ?_
      cases keyAt accounts 2 <;> simp [SettlementInstruction.settlement]

/-- The top-level instruction settled the event. -/
def RunsSettlement (ns : Pubkey) (eventId : Bytes32) : TopLevel D → Prop
  | .program accounts data _ _ _ =>
      ∃ amount, (Item.instruction accounts data).settlement = some (ns, eventId, amount)
  | .other _ _ _ => False

/-- The landing settled the event at top level. -/
def Landing.SettlesTopLevel (landing : Landing D) (ns : Pubkey) (eventId : Bytes32) : Prop :=
  ∃ top ∈ landing.executed, RunsSettlement ns eventId top

theorem Cluster.Grown.settles_of_topLevel {cluster : Cluster D} (grown : cluster.Grown net)
    {landing : Landing D} (mem : landing ∈ cluster.ledger) (succeeded : landing.error = none)
    (settles : landing.SettlesTopLevel ns eventId) : landing.Settles ns eventId := by
  obtain ⟨_, _, unfolds⟩ := grown.unfolds mem succeeded
  obtain ⟨top, ran, settlement⟩ := settles
  cases top with
  | other programId data different => exact settlement.elim
  | program accounts data before after =>
      obtain ⟨amount, settlement⟩ := settlement
      exact ⟨succeeded, _, unfolds.mem_items ran, amount, settlement⟩

theorem programId_of_raw {instruction : RpcInstruction} {raw : RawInstruction}
    (shape : instruction.raw? = some raw) : raw.programId = instruction.programId := by
  unfold RpcInstruction.raw? at shape
  split at shape
  · cases shape
    rfl
  · cases shape

/-- A node shows an instruction that settled the event as one that matches, and
no other. -/
theorem runsSettlement_iff {top : TopLevel D} {instruction : RpcInstruction}
    (shows : ShowsTopLevel top instruction) :
    RunsSettlement ns eventId top ↔ instruction.Matches D.programId (settlesEvent ns eventId) := by
  cases top with
  | other programId data different =>
      refine iff_of_false id ?_
      rintro ⟨raw, shape, own, _⟩
      exact different (shows.1.symm.trans ((programId_of_raw shape).symm.trans own))
  | program accounts data before after ran =>
      obtain ⟨v, decoded, _⟩ := bind_eq_ok.mp ran
      have meant : settlesEvent ns eventId ⟨D.programId, accounts.map (·.key), base58Encode data⟩
          data = true ↔ RunsSettlement ns eventId (.program accounts data before after ran) :=
        settlesEvent_iff decoded rfl
      rw [← meant, RpcInstruction.Matches]
      simp [shows.2, decodeData]

/-- A truthful answer shows a matching top-level instruction exactly when the
landing settled the event at top level. -/
theorem Landing.settlesTopLevel_iff {landing : Landing D} (succeeded : landing.error = none) :
    landing.SettlesTopLevel ns eventId ↔ ∃ instruction ∈ landing.shown.instructions,
      instruction.Matches D.programId (settlesEvent ns eventId) := by
  have all {tops : List (TopLevel D)} {instructions : List RpcInstruction}
      (shown : List.Forall₂ ShowsTopLevel tops instructions) :
      (∃ top ∈ tops, RunsSettlement ns eventId top) ↔ ∃ instruction ∈ instructions,
        instruction.Matches D.programId (settlesEvent ns eventId) := by
    induction shown with
    | nil => simp
    | cons here _ ih => simp only [List.exists_mem_cons_iff, runsSettlement_iff here, ih]
  exact all (landing.truthful succeeded).instructions

/-! ### A truthful history -/

/-- The entry of a landing in a history. -/
def Landing.entry (landing : Landing D) : SignatureInfo := ⟨landing.transaction.id, landing.error⟩

/-- A finalized history of the address, newest first, that an archive serves. It
has every landing that changed the account, and may have any others: failed
transactions, deposits, settlements of other events, and transactions that show
invocations of the program that they did not make. -/
structure TruthfulHistory (cluster : Cluster D) (address : Pubkey) (archive : Archive)
    (history : List (Landing D)) : Prop where
  finalized : history.reverse.Sublist cluster.finalizedLedger
  complete : ∀ early landing late, cluster.finalizedLedger = early ++ landing :: late →
    cluster.after (early ++ [landing]) address ≠ cluster.after early address → landing ∈ history
  pages : ∀ limit before,
    archive.page address limit before = pageOf (history.map Landing.entry) limit before
  transactions : ∀ landing ∈ history, landing.error = none →
    archive.transaction landing.transaction.id = some landing.shown ∧
      landing.transaction.id ∈ landing.shown.signatures
  /-- What the program was made to do is shown. -/
  invocations : ∀ landing ∈ history, landing.error = none →
    ∀ accounts data, .instruction accounts data ∈ landing.items →
      ∃ instruction ∈ landing.shown.invocations,
        instruction.raw? = some ⟨D.programId, accounts.map (·.key), base58Encode data⟩

/-- A landing that succeeded and contains a matching instruction of the program. -/
def Landing.Contains (landing : Landing D) (ns : Pubkey) (eventId : Bytes32) : Prop :=
  landing.error = none ∧
    landing.shown.ContainsSettlement D.programId (settlesEvent ns eventId)

/-- The settlement that the search takes from a landing. -/
def Landing.found (ns : Pubkey) (eventId : Bytes32) (landing : Landing D) :
    Option SettlementTransaction :=
  if landing.error.isNone then
    (settlementIn landing.shown D.programId (settlesEvent ns eventId)).map fun topLevel =>
      ⟨landing.transaction.id, landing.shown.slot, topLevel⟩
  else none

theorem Landing.isSome_found {landing : Landing D} :
    (landing.found ns eventId).isSome ↔ landing.Contains ns eventId := by
  unfold Landing.found Landing.Contains
  rw [← settlementIn_eq.2]
  split
  · next succeeded => simp [Option.isNone_iff_eq_none.mp succeeded]
  · next failed => simp [← Option.isNone_iff_eq_none, failed]

theorem Landing.of_found {landing : Landing D} {created : SettlementTransaction}
    (found : landing.found ns eventId = some created) :
    created.signature = landing.transaction.id ∧ created.slot = landing.shown.slot ∧
      (created.topLevel = true ↔ ∃ instruction ∈ landing.shown.instructions,
        instruction.Matches D.programId (settlesEvent ns eventId)) := by
  unfold Landing.found at found
  split at found
  · obtain ⟨topLevel, shown, rfl⟩ := Option.map_eq_some_iff.mp found
    refine ⟨rfl, rfl, ?_⟩
    rw [← settlementIn_eq.1, shown, Option.some_inj]
  · cases found

namespace TruthfulHistory

variable {cluster : Cluster D} {address : Pubkey} {archive : Archive} {history : List (Landing D)}

theorem mem_finalizedLedger (truthful : TruthfulHistory cluster address archive history)
    {landing : Landing D} (mem : landing ∈ history) : landing ∈ cluster.finalizedLedger :=
  truthful.finalized.subset (List.mem_reverse.mpr mem)

theorem ids_nodup (truthful : TruthfulHistory cluster address archive history)
    (grown : cluster.Grown net) : (history.map fun landing => landing.transaction.id).Nodup := by
  have all := grown.ids_nodup.sublist
    ((truthful.finalized.trans (List.take_sublist _ _)).map fun landing => landing.transaction.id)
  rwa [List.map_reverse, List.nodup_reverse] at all

theorem complete_archive (truthful : TruthfulHistory cluster address archive history)
    (grown : cluster.Grown net) : archive.Complete address (history.map Landing.entry) where
  pages := truthful.pages
  transactions := by
    intro entry mem succeeded
    obtain ⟨landing, own, rfl⟩ := List.mem_map.mp mem
    exact Option.isSome_iff_exists.mpr ⟨_, Archive.carried_eq_some.mpr
      (truthful.transactions landing own succeeded)⟩
  distinct := by
    rw [List.map_map]
    exact truthful.ids_nodup grown

/-- The search takes from the archive what the landings show. -/
theorem settlements_eq (truthful : TruthfulHistory cluster address archive history) :
    archive.settlements D.programId (settlesEvent ns eventId) (history.map Landing.entry) =
      history.filterMap (Landing.found ns eventId) := by
  rw [Archive.settlements, List.filterMap_map, List.filterMap_filter, List.filterMap_map]
  refine List.filterMap_congr fun landing mem => ?_
  change (if landing.error.isNone then archive.settlementAt D.programId (settlesEvent ns eventId)
    landing.transaction.id else none) = landing.found ns eventId
  unfold Landing.found
  by_cases succeeded : landing.error.isNone
  · rw [if_pos succeeded, if_pos succeeded]
    have shown := truthful.transactions landing mem (Option.isNone_iff_eq_none.mp succeeded)
    obtain ⟨metadata, read, fine, _⟩ :=
      (landing.truthful (Option.isNone_iff_eq_none.mp succeeded)).succeeded
    rw [Archive.settlementAt, Archive.carried_eq_some.mpr shown, Option.bind_some, read,
      Option.bind_some, fine]
    rfl
  · rw [if_neg succeeded, if_neg succeeded]

/-- A landing that settled the event contains a matching instruction. -/
theorem contains_of_settles (truthful : TruthfulHistory cluster address archive history)
    {landing : Landing D} (mem : landing ∈ history)
    (settles : landing.Settles ns eventId) : landing.Contains ns eventId := by
  obtain ⟨succeeded, item, inside, amount, settled⟩ := settles
  cases item with
  | move source destination lamports => cases settled
  | instruction accounts data =>
      obtain ⟨instruction, own, shape⟩ :=
        truthful.invocations landing mem succeeded accounts data inside
      obtain ⟨v, decoded⟩ : ∃ v, SettlementInstruction.unpack data = .ok v := by
        cases decoded : SettlementInstruction.unpack data with
        | ok v => exact ⟨v, rfl⟩
        | error fault =>
            rw [Item.settlement, decoded] at settled
            cases settled
      refine ⟨succeeded, instruction, own, _, shape, rfl, ?_⟩
      rw [decodeData, base58Decode_encode, Option.getD_some]
      exact (settlesEvent_iff decoded rfl).mpr ⟨amount, settled⟩

end TruthfulHistory

/-- What the search for the creator of a record comes to. -/
structure FindsCreator (H : Host) (cluster : Cluster D) (ns : Pubkey) (eventId : JsString)
    (archive : Archive) (history : List (Landing D)) (maxSignatures : Nat) : Prop where
  /-- It ends. -/
  ends : ∃ outcome w', Interaction.Steps archive.Serves
    (findSettlementTransaction H nodeConnection D.programId ns eventId maxSignatures, ())
    (.ofExcept outcome, w')
  /-- It returns a result exactly when the history has fewer than `maxSignatures`
  entries and exactly one landing in it contains a matching instruction. -/
  found : ∀ outcome w', Interaction.Steps archive.Serves
    (findSettlementTransaction H nodeConnection D.programId ns eventId maxSignatures, ())
    (.ofExcept outcome, w') →
      ((∃ created, outcome = .ok created) ↔ history.length < maxSignatures ∧
        ∃! landing, landing ∈ history ∧
          landing.Contains ns (H.sha256 (textEncode eventId)))
  /-- The result is the landing that created the record. -/
  creator : ∀ created w', Interaction.Steps archive.Serves
    (findSettlementTransaction H nodeConnection D.programId ns eventId maxSignatures, ())
    (.pure created, w') →
      ∃ landing ∈ history,
        cluster.Creates landing (recordAddress D ns (H.sha256 (textEncode eventId))) ∧
        created.signature = landing.transaction.id ∧ created.slot = landing.shown.slot ∧
        (created.topLevel = true ↔ landing.SettlesTopLevel ns (H.sha256 (textEncode eventId)))
  /-- In every other case it throws `RECORD_HISTORY`. -/
  otherwise : ∀ error w', Interaction.Steps archive.Serves
    (findSettlementTransaction H nodeConnection D.programId ns eventId maxSignatures, ())
    (.throw error, w') → Unresolved error
  /-- Whatever a node answers, few pages are read. -/
  pages : ∀ fuel rest pages, Interaction.Steps PageCount
    (readHistory nodeConnection (recordAddress D ns (H.sha256 (textEncode eventId))) D.programId
      (settlesEvent ns (H.sha256 (textEncode eventId))) maxSignatures fuel 0 none, 0) (rest, pages) →
      pages ≤ (maxSignatures + 999) / 1000

/-- **The search finds the creator or nothing.** For every finalized history of a
record that exists, served truthfully, and every `maxSignatures` that is a
positive safe integer, the search returns a result exactly when the history has
fewer entries than that and one successful transaction in it contains a matching
instruction, and the result is the transaction that created the record.
Otherwise it throws `RECORD_HISTORY`, as it does for every greater
`maxSignatures`. -/
theorem creator_found (H : Host) (addresses : H.addresses = D.addresses) (cluster : Cluster D)
    (grown : cluster.Grown net) (ns : Pubkey) (eventId : JsString) (named : eventId ≠ [])
    (fresh : (cluster.genesis.accounts
      (recordAddress D ns (H.sha256 (textEncode eventId)))).owner ≠ D.programId)
    (there : (cluster.after cluster.finalizedLedger
      (recordAddress D ns (H.sha256 (textEncode eventId)))).owner = D.programId)
    (free : CollisionFree D (insert (settlementSeeds ns (H.sha256 (textEncode eventId))).flatten
      (derivedSeeds cluster.finalizedLog)))
    (archive : Archive) (history : List (Landing D))
    (truthful : TruthfulHistory cluster (recordAddress D ns (H.sha256 (textEncode eventId)))
      archive history)
    (maxSignatures : Nat) (positive : 0 < maxSignatures) :
    (maxSignatures < 2 ^ 53 → FindsCreator H cluster ns eventId archive history maxSignatures) ∧
    (2 ^ 53 ≤ maxSignatures → ∀ outcome w', Interaction.Steps archive.Serves
      (findSettlementTransaction H nodeConnection D.programId ns eventId maxSignatures, ())
      (.ofExcept outcome, w') → ∃ error, outcome = .error error ∧ Unresolved error) := by
  set seed := H.sha256 (textEncode eventId) with hseed
  have decides := (search_unmoved_by_batches H archive D.programId ns eventId maxSignatures named).1
  have search : findSettlementTransaction H nodeConnection D.programId ns eventId maxSignatures =
      findCreatingTransaction nodeConnection (recordAddress D ns seed) D.programId
        (settlesEvent ns seed) maxSignatures := by
    rw [findSettlementTransaction_eq named, addresses]
    rfl
  -- every run ends as the run against the plain node does
  have result {outcome : Except Thrown SettlementTransaction} {w' : Unit}
      (ran : Interaction.Steps archive.Serves
        (findSettlementTransaction H nodeConnection D.programId ns eventId maxSignatures, ())
        (.ofExcept outcome, w')) (created : SettlementTransaction) :
      outcome = .ok created ↔ maxSignatures < 2 ^ 53 ∧ history.length < maxSignatures ∧
        ∃ landing ∈ history, landing.found ns seed = some created ∧
          ∀ other ∈ history, (other.found ns seed).isSome → other = landing := by
    rw [search] at ran
    rw [(fixed_findCreatingTransaction _ _ _ _).outcome ran,
      runWith_findCreatingTransaction (truthful.complete_archive grown), truthful.settlements_eq,
      filterMap_eq_singleton (truthful.ids_nodup grown).of_map, List.length_map,
      and_iff_right positive]
  obtain ⟨maker, made⟩ := Cluster.exists_creates fresh there
  have settled : maker.Settles ns seed := made.settles grown free
  have inside : maker ∈ history := by
    obtain ⟨early, late, cut, before, after⟩ := made
    exact truthful.complete early maker late cut fun same => before (same ▸ after)
  have contained : (maker.found ns seed).isSome :=
    Landing.isSome_found.mpr (truthful.contains_of_settles inside settled)
  refine ⟨fun safe => ⟨?_, ?_, ?_, ?_, fun _ _ _ ran => pages_le positive ran⟩, ?_⟩
  · obtain ⟨outcome, ⟨w', ran⟩, _⟩ := decides.same
    exact ⟨outcome, w', ran⟩
  · intro outcome w' ran
    simp only [result ran, Landing.isSome_found, and_iff_right safe]
    constructor
    · rintro ⟨created, few, landing, mem, found, only⟩
      have own := Landing.isSome_found.mp (Option.isSome_of_eq_some found)
      exact ⟨few, landing, ⟨mem, own⟩, fun other both => only other both.1 both.2⟩
    · rintro ⟨few, landing, ⟨mem, own⟩, only⟩
      obtain ⟨created, found⟩ := Option.isSome_iff_exists.mp (Landing.isSome_found.mpr own)
      exact ⟨created, few, landing, mem, found, fun other inside own => only other ⟨inside, own⟩⟩
  · intro created w' ran
    have ended : Interaction.Steps archive.Serves
        (findSettlementTransaction H nodeConnection D.programId ns eventId maxSignatures, ())
        (.ofExcept (.ok created), w') := ran
    obtain ⟨_, _, landing, mem, found, only⟩ := (result ended created).mp rfl
    cases only maker inside contained
    obtain ⟨same, slot, top⟩ := Landing.of_found found
    exact ⟨maker, mem, made, same, slot, top.trans (Landing.settlesTopLevel_iff settled.1).symm⟩
  · intro error w' ran
    rcases decides.ends (.error error) w' ran with ⟨created, wrong⟩ | ⟨_, same, unresolved⟩
    · cases wrong
    · cases same
      exact unresolved
  · intro large outcome w' ran
    refine (decides.ends outcome w' ran).resolve_left ?_
    rintro ⟨created, ok⟩
    have safe := ((result ran created).mp ok).1
    omega

/-! ### The sample's creator -/

/-- A node that serves the history of the sample's record: its one landing. -/
def settledArchive : Archive where
  page _ limit before := pageOf [sampleLanding.entry] limit before
  transaction signature :=
    if signature = sampleSigned.id then some sampleLanding.shown else none

/-- The address of the sample's record. -/
def sampleRecordAddress : Pubkey :=
  recordAddress sampleDeployment sampleNamespace (sampleHost.sha256 (textEncode sampleRequest.eventId))

theorem sampleSettled_grown : sampleSettled.Grown sampleNetwork :=
  ⟨sampleOpen, rfl, sampleSettled_later⟩

theorem sampleHistory :
    TruthfulHistory sampleSettled sampleRecordAddress settledArchive [sampleLanding] where
  finalized := List.Sublist.refl _
  complete := by
    intro early landing late cut _
    have mem : landing ∈ [sampleLanding] := by
      rw [show [sampleLanding] = early ++ landing :: late from cut]
      exact List.mem_append_right _ List.mem_cons_self
    exact mem
  pages _ _ := rfl
  transactions := by
    intro landing mem _
    rw [List.mem_singleton.mp mem]
    have served : settledArchive.transaction sampleSigned.id = some sampleLanding.shown := by
      dsimp only [settledArchive]
      rw [if_pos rfl]
    exact ⟨served, List.mem_singleton_self _⟩
  invocations := by
    intro landing mem _ accounts data inside
    rw [List.mem_singleton.mp mem] at inside ⊢
    cases List.mem_singleton.mp inside
    exact ⟨shownTopLevel (.program sampleSettle.keys sampleSettle.data sampleState.accounts sampleAfter
      sampleSettle_ran), List.mem_append_left _ (List.mem_cons_of_mem _ List.mem_cons_self), rfl⟩

theorem sampleRecord_there {cluster : Cluster sampleDeployment} (grown : cluster.Grown sampleNetwork)
    (landed : sampleLanding ∈ cluster.ledger) (whole : cluster.finalizedLedger = cluster.ledger) :
    (cluster.after cluster.finalizedLedger sampleRecordAddress).owner = sampleDeployment.programId := by
  obtain ⟨amount, recorded⟩ := grown.recorded landed sampleLanding_settles
  rw [whole]
  exact recorded.1

theorem sampleRecord_free {log : List Item}
    (logged : ∀ seeds ∈ log.map Item.seeds, seeds = none ∨ seeds =
      some (settlementSeeds sampleNamespace (sampleHost.sha256 (textEncode sampleRequest.eventId))).flatten) :
    CollisionFree sampleDeployment (insert (settlementSeeds sampleNamespace
      (sampleHost.sha256 (textEncode sampleRequest.eventId))).flatten (derivedSeeds log)) := by
  have only : derivedSeeds log ⊆ {(settlementSeeds sampleNamespace
      (sampleHost.sha256 (textEncode sampleRequest.eventId))).flatten} := by
    rintro bytes ⟨item, mem, made⟩
    rcases logged _ (List.mem_map_of_mem mem) with none | own
    · cases made.symm.trans none
    · exact Option.some.inj (made.symm.trans own)
  have alone : CollisionFree sampleDeployment {(settlementSeeds sampleNamespace
      (sampleHost.sha256 (textEncode sampleRequest.eventId))).flatten} :=
    fun _ _ here here' _ => here.trans here'.symm
  exact alone.mono (Set.insert_subset rfl only)

/-! The sample settlement lands, the same is sent again and fails, and somebody sends the
record a few lamports. -/

def sampleRepeat : Landing sampleDeployment where
  transaction := { sampleSigned with signature := List.replicate 64 8 }
  height := 1
  error := some (.string (js "AccountAlreadyInitialized"))
  executed := []
  items := []
  shown := { sampleLanding.shown with
    metadata := some ⟨some (.string (js "AccountAlreadyInitialized")), none⟩
    signatures := [base58Encode (List.replicate 64 8)] }
  ran succeeded := by cases succeeded
  truthful succeeded := by cases succeeded
  failed _ same := ⟨_, rfl, same⟩

/-- The first bytes of a transfer of the System program, and five lamports. -/
def depositData : Bytes := [2, 0, 0, 0, 5, 0, 0, 0, 0, 0, 0, 0]

def depositTransaction : SignedTransaction where
  signature := List.replicate 64 9
  blockhash := sampleBlockhash
  instructions := [⟨systemProgramId, [samplePayer, sampleRecordAddress], depositData⟩]

def sampleDeposit : Landing sampleDeployment where
  transaction := depositTransaction
  height := 1
  error := none
  executed := [.other systemProgramId depositData sampleDeployment.notSystem.symm]
  items := [.move samplePayer sampleRecordAddress 5]
  shown := shownTransaction [.other systemProgramId depositData sampleDeployment.notSystem.symm]
    depositTransaction.id 7 1767225600
  ran _ := .cons ⟨rfl, rfl⟩ .nil
  truthful _ := truthful_shownTransaction _ _ _ _
  failed _ same := by cases same

def sampleVisited : Cluster sampleDeployment :=
  ⟨sampleState, [sampleLanding, sampleRepeat, sampleDeposit], 0, 3⟩

/-- What is committed without and with the visit, and that the lamports can be sent. -/
theorem visited_items :
    sampleSettled.finalizedLog = [.instruction sampleSettle.keys sampleSettle.data] ∧
      sampleVisited.finalizedLog =
        [.instruction sampleSettle.keys sampleSettle.data, .move samplePayer sampleRecordAddress 5] ∧
      (execItems sampleDeployment [.move samplePayer sampleRecordAddress 5]
        (⟨sampleState, [sampleLanding, sampleRepeat], 0, 0⟩ : Cluster sampleDeployment).accounts).isOk := by
  decide +kernel

/-- All three land in the first block, one after the other. -/
theorem sampleVisited_grown : sampleVisited.Grown sampleNetwork := by
  have settles : Unfolds sampleExecuted ([] ++ sampleLanding.items) sampleOpen.accounts
      sampleAfter.accounts := .other rfl (.program .done)
  have first : Cluster.Next sampleNetwork sampleOpen ⟨sampleState, [sampleLanding], 0, 0⟩ :=
    .lands sampleLanding rfl (by decide) (fun _ old => by cases old) ⟨_, settles⟩
  have second : Cluster.Next sampleNetwork ⟨sampleState, [sampleLanding], 0, 0⟩
      ⟨sampleState, [sampleLanding, sampleRepeat], 0, 0⟩ :=
    .lands sampleRepeat rfl (by decide) (fun old mem => by
      rw [List.mem_singleton.mp mem]
      decide) fun _ mem => by cases mem
  have pays : execItems sampleDeployment [.move samplePayer sampleRecordAddress 5]
      (⟨sampleState, [sampleLanding, sampleRepeat], 0, 0⟩ : Cluster sampleDeployment).accounts =
        .ok _ := eq_ok_of_isOk (fun _ => Account.empty) visited_items.2.2
  have third : Cluster.Next sampleNetwork ⟨sampleState, [sampleLanding, sampleRepeat], 0, 0⟩
      ⟨sampleState, [sampleLanding, sampleRepeat, sampleDeposit], 0, 0⟩ :=
    .lands sampleDeposit rfl (by decide) (fun old mem => by
      rcases List.mem_pair.mp mem with rfl | rfl <;> decide) ⟨_, .other pays .done⟩
  have finalizes (n : Nat) (more : n < 3) : Cluster.Next sampleNetwork
      ⟨sampleState, [sampleLanding, sampleRepeat, sampleDeposit], 0, n⟩
      ⟨sampleState, [sampleLanding, sampleRepeat, sampleDeposit], 0, n + 1⟩ := .finalizes more
  refine ⟨sampleOpen, rfl, ?_⟩
  exact (((((Relation.ReflTransGen.single first).tail second).tail third).tail
    (finalizes 0 (by decide))).tail (finalizes 1 (by decide))).tail (finalizes 2 (by decide))

/-- A node that serves all three. -/
def visitedArchive : Archive where
  page _ limit before :=
    pageOf ([sampleDeposit, sampleRepeat, sampleLanding].map Landing.entry) limit before
  transaction signature :=
    if signature = sampleSigned.id then some sampleLanding.shown
    else if signature = depositTransaction.id then some sampleDeposit.shown
    else none

theorem visitedHistory : TruthfulHistory sampleVisited sampleRecordAddress visitedArchive
    [sampleDeposit, sampleRepeat, sampleLanding] where
  finalized := List.Sublist.refl _
  complete := by
    intro early landing late cut _
    have mem : landing ∈ [sampleLanding, sampleRepeat, sampleDeposit] := by
      rw [show [sampleLanding, sampleRepeat, sampleDeposit] = early ++ landing :: late from cut]
      exact List.mem_append_right _ List.mem_cons_self
    simp only [List.mem_cons, List.not_mem_nil, or_false] at mem ⊢
    tauto
  pages _ _ := rfl
  transactions := by
    have other : depositTransaction.id ≠ sampleSigned.id := fun same =>
      absurd (base58Encode_injective same) (by decide)
    intro landing mem succeeded
    simp only [List.mem_cons, List.not_mem_nil, or_false] at mem
    rcases mem with rfl | rfl | rfl
    · have served : visitedArchive.transaction depositTransaction.id = some sampleDeposit.shown := by
        dsimp only [visitedArchive]
        rw [if_neg other, if_pos rfl]
      exact ⟨served, List.mem_singleton_self _⟩
    · cases succeeded
    · have served : visitedArchive.transaction sampleSigned.id = some sampleLanding.shown := by
        dsimp only [visitedArchive]
        rw [if_pos rfl]
      exact ⟨served, List.mem_singleton_self _⟩
  invocations := by
    intro landing mem succeeded accounts data inside
    simp only [List.mem_cons, List.not_mem_nil, or_false] at mem
    rcases mem with rfl | rfl | rfl
    · cases List.mem_singleton.mp inside
    · cases succeeded
    · exact sampleHistory.invocations sampleLanding (List.mem_singleton_self _) rfl accounts data inside

/-- However that history is served, the settlement is found. -/
theorem creator_found_sample :
    FindsCreator sampleHost sampleVisited sampleNamespace sampleRequest.eventId visitedArchive
      [sampleDeposit, sampleRepeat, sampleLanding] 5000 := by
  obtain ⟨_, derives, fresh⟩ := sampleSettle_item
  obtain ⟨_, logged, _⟩ := visited_items
  refine (creator_found sampleHost rfl sampleVisited sampleVisited_grown sampleNamespace
    sampleRequest.eventId (by decide) fresh
    (sampleRecord_there sampleVisited_grown List.mem_cons_self rfl) (sampleRecord_free ?_)
    visitedArchive _ visitedHistory 5000 (by decide)).1 (by decide)
  rw [logged]
  intro seeds mem
  rcases List.mem_pair.mp mem with rfl | rfl
  · exact .inr derives
  · exact .inl rfl

/-- A `maxSignatures` that is no safe integer is refused, however short the
history is. -/
theorem not_creator_found :
    ¬ ∀ (D : Deployment) (net : Network) (H : Host) (_ : H.addresses = D.addresses)
      (cluster : Cluster D) (_ : cluster.Grown net) (ns : Pubkey) (eventId : JsString) (_ : eventId ≠ [])
      (_ : (cluster.genesis.accounts
        (recordAddress D ns (H.sha256 (textEncode eventId)))).owner ≠ D.programId)
      (_ : (cluster.after cluster.finalizedLedger
        (recordAddress D ns (H.sha256 (textEncode eventId)))).owner = D.programId)
      (_ : CollisionFree D (insert (settlementSeeds ns (H.sha256 (textEncode eventId))).flatten
        (derivedSeeds cluster.finalizedLog)))
      (archive : Archive) (history : List (Landing D))
      (_ : TruthfulHistory cluster (recordAddress D ns (H.sha256 (textEncode eventId))) archive
        history)
      (maxSignatures : Nat) (_ : 0 < maxSignatures),
      FindsCreator H cluster ns eventId archive history maxSignatures := by
  intro finds
  obtain ⟨_, derives, fresh⟩ := sampleSettle_item
  obtain ⟨logged, _⟩ := visited_items
  have derived : ∀ seeds ∈ sampleSettled.finalizedLog.map Item.seeds, seeds = none ∨ seeds =
      some (settlementSeeds sampleNamespace
        (sampleHost.sha256 (textEncode sampleRequest.eventId))).flatten := by
    rw [logged]
    intro seeds mem
    exact .inr ((List.mem_singleton.mp mem).trans derives)
  have wrong := finds sampleDeployment sampleNetwork sampleHost rfl sampleSettled sampleSettled_grown
    sampleNamespace sampleRequest.eventId (by decide) fresh
    (sampleRecord_there sampleSettled_grown (List.mem_singleton_self _) rfl)
    (sampleRecord_free derived) settledArchive [sampleLanding] sampleHistory (2 ^ 53) (by decide)
  obtain ⟨outcome, w', ran⟩ := wrong.ends
  have one : ∃! landing, landing ∈ [sampleLanding] ∧
      landing.Contains sampleNamespace (sampleHost.sha256 (textEncode sampleRequest.eventId)) :=
    ⟨sampleLanding, ⟨List.mem_singleton_self _,
      sampleHistory.contains_of_settles (List.mem_singleton_self _) sampleLanding_settles⟩,
      fun other both => List.mem_singleton.mp both.1⟩
  obtain ⟨created, rfl⟩ := (wrong.found outcome w' ran).mpr ⟨by decide, one⟩
  have search : findSettlementTransaction sampleHost nodeConnection sampleDeployment.programId
      sampleNamespace sampleRequest.eventId (2 ^ 53) =
        findCreatingTransaction nodeConnection sampleRecordAddress sampleDeployment.programId
          (settlesEvent sampleNamespace (sampleHost.sha256 (textEncode sampleRequest.eventId)))
          (2 ^ 53) :=
    findSettlementTransaction_eq (by decide)
  rw [search] at ran
  have same := ((fixed_findCreatingTransaction _ _ _ _).outcome ran).symm
  rw [runWith_findCreatingTransaction (sampleHistory.complete_archive sampleSettled_grown)] at same
  exact absurd same.1.2 (by decide)

end Synxed.Studio
