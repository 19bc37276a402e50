import Synxed.Sdk.Evidence
import Synxed.Sdk.Readers

/-!
The search of a record's history against any node.

`findCreatingTransaction` reads a history page by page and fetches its
transactions in batches, which a node may answer in any order, in part or not at
all.

* `search_unmoved_by_batches`: how a node answers the batches does not change
  what the search ends with, and a transaction that could not be fetched ends it
  with `RECORD_HISTORY`.
* `pages_le`: whatever is answered, a history is read in at most
  ⌈`maxSignatures` / 1000⌉ pages, so the fuel of `readHistory` never runs out
  (`readHistory_enough`).
-/

namespace Synxed.Sdk

open Synxed.Lib Synxed.Program

/-! ### Nodes -/

/-- What a node has of the finalized chain. -/
structure Archive where
  /-- The history of an address: so many entries at most, before a signature. -/
  page : Pubkey → Nat → Option JsString → List SignatureInfo
  /-- The transaction under a signature. -/
  transaction : JsString → Option ParsedTransaction

namespace Archive

variable (archive : Archive)

/-- The signature stands in the history of some address. -/
def Lists (signature : JsString) : Prop :=
  ∃ address limit before, ∃ entry ∈ archive.page address limit before,
    entry.signature = signature

/-- A true transaction: every listed signature that it carries is its own. -/
def Has (transaction : ParsedTransaction) : Prop :=
  ∀ signature ∈ transaction.signatures, archive.Lists signature →
    archive.transaction signature = some transaction

/-- The pages and the single fetches are the archive's. A batch may be refused,
and its answers may be any true transactions, in any order, with holes. -/
def Answers : (call : Rpc) → Except Thrown call.Answer → Prop
  | .getSignaturesForAddress address limit before, reply =>
      reply = .ok (archive.page address limit before)
  | .getParsedTransaction signature, reply => reply = .ok (archive.transaction signature)
  | .getParsedTransactions _, reply =>
      ∀ transactions, reply = .ok transactions →
        ∀ transaction, some transaction ∈ transactions → archive.Has transaction
  | _, _ => True

/-- A node that serves the archive. -/
abbrev Serves (_ : Unit) (call : Rpc) (reply : Except Thrown call.Answer) (_ : Unit) : Prop :=
  archive.Answers call reply

/-- The node that serves the archive and refuses every batch. -/
def plain : (call : Rpc) → Except Thrown call.Answer
  | .getSignaturesForAddress address limit before => .ok (archive.page address limit before)
  | .getParsedTransaction signature => .ok (archive.transaction signature)
  | _ => .error (.other (js "refused"))

theorem answers_plain (call : Rpc) : archive.Answers call (archive.plain call) := by
  cases call <;> simp [Answers, plain]

/-- The transaction that the search may use for a signature. -/
def carried (signature : JsString) : Option ParsedTransaction :=
  (archive.transaction signature).filter fun transaction => signature ∈ transaction.signatures

variable {archive}

theorem carried_eq_some {signature : JsString} {transaction : ParsedTransaction} :
    archive.carried signature = some transaction ↔
      archive.transaction signature = some transaction ∧ signature ∈ transaction.signatures := by
  simp [carried, Option.filter_eq_some_iff]

end Archive

/-! ### What is found of a batch -/

theorem foundAt_cons (found : List (JsString × ParsedTransaction)) (signature other : JsString)
    (transaction : ParsedTransaction) :
    foundAt ((signature, transaction) :: found) other =
      if signature = other then some transaction else foundAt found other := by
  by_cases same : signature = other
  · simp [foundAt, same]
  · simp [foundAt, same]

theorem foundAt_addFound (found : List (JsString × ParsedTransaction)) (signature : JsString)
    (transaction : ParsedTransaction) :
    foundAt (addFound found transaction) signature =
      if signature ∈ transaction.signatures then some transaction else foundAt found signature := by
  have all (signatures : List JsString) (found : List (JsString × ParsedTransaction)) :
      foundAt (signatures.foldl (fun found other => (other, transaction) :: found) found) signature =
        if signature ∈ signatures then some transaction else foundAt found signature := by
    induction signatures generalizing found with
    | nil => rfl
    | cons other rest ih =>
        rw [List.foldl_cons, ih, foundAt_cons]
        by_cases later : signature ∈ rest
        · simp [later]
        · simp [later, eq_comm]
  exact all _ found

/-- What was found is true. -/
def Exact (archive : Archive) (found : List (JsString × ParsedTransaction)) : Prop :=
  ∀ signature transaction, archive.Lists signature →
    foundAt found signature = some transaction → archive.carried signature = some transaction

theorem Exact.addFound {archive : Archive} {found : List (JsString × ParsedTransaction)}
    {transaction : ParsedTransaction} (exact_ : Exact archive found)
    (has : archive.Has transaction) : Exact archive (addFound found transaction) := by
  intro signature other listed at_
  rw [foundAt_addFound] at at_
  split at at_
  · next signed =>
    cases at_
    exact Archive.carried_eq_some.mpr ⟨has signature signed listed, signed⟩
  · exact exact_ signature other listed at_

/-- Everything the archive has for the signatures, and nothing else for them. -/
def FoundAll (archive : Archive) (signatures : List JsString)
    (found : List (JsString × ParsedTransaction)) : Prop :=
  ∀ signature ∈ signatures, foundAt found signature = archive.carried signature

/-- Settlements are read from the transactions of the signatures asked for, and
from nothing else that was found. -/
theorem settlementsIn_congr {programId : Pubkey} {settles : SettlesEvent}
    {found found' : List (JsString × ParsedTransaction)} {signatures : List JsString}
    (same : ∀ signature ∈ signatures, foundAt found signature = foundAt found' signature) :
    settlementsIn programId settles found signatures =
      settlementsIn programId settles found' signatures := by
  induction signatures with
  | nil => rfl
  | cons signature rest ih =>
      rw [settlementsIn, settlementsIn, same signature List.mem_cons_self,
        ih fun other mem => same other (List.mem_cons_of_mem _ mem)]

/-- The chunks of a list make up the list. -/
theorem flatten_toChunks {α : Type} (size : Nat) (items : List α) :
    (items.toChunks size).flatten = items := by
  have go (items : List α) (last : Array α) (done : Array (List α)) :
      (List.toChunks.go size items last done).flatten =
        done.toList.flatten ++ last.toList ++ items := by
    induction items generalizing last done with
    | nil => simp [List.toChunks.go]
    | cons item rest ih =>
        unfold List.toChunks.go
        split
        · simp [ih]
        · simp [ih]
  cases items with
  | nil => simp [List.toChunks]
  | cons item rest =>
      cases size with
      | zero => simp [List.toChunks]
      | succ size => simp [List.toChunks, go]

section Fetching

variable {archive : Archive}

/-- A single fetch completes what the batch left out. -/
theorem safe_fetchMissing_all : ∀ (signatures : List JsString)
    (found : List (JsString × ParsedTransaction)), (∀ signature ∈ signatures, archive.Lists signature) →
      Exact archive found → Interaction.Safe archive.Serves (fun _ _ => True)
        (fetchMissing nodeConnection signatures found)
        (fun found' _ => Exact archive found' ∧
          (∀ signature, (foundAt found signature).isSome → (foundAt found' signature).isSome) ∧
          ∀ signature ∈ signatures, (archive.carried signature).isSome →
            (foundAt found' signature).isSome)
        (fun _ _ => False) ()
  | [], _, _, exact_ => ⟨exact_, fun _ here => here, fun _ mem => nomatch mem⟩
  | signature :: rest, found, listed, exact_ => by
      have below := fun other mem => listed other (List.mem_cons_of_mem _ mem)
      unfold fetchMissing
      split
      · next here =>
        refine (safe_fetchMissing_all rest found below exact_).mono
          (fun found' _ ended => ⟨ended.1, ended.2.1, ?_⟩) fun _ _ failed => failed
        intro other mem carried
        rcases List.mem_cons.mp mem with rfl | later
        · exact ended.2.1 other here
        · exact ended.2.2 other later carried
      · have asked : Interaction.Safe archive.Serves (fun _ _ => True)
            (nodeConnection.request (.getParsedTransaction signature))
            (fun answer _ => answer = archive.transaction signature) (fun _ _ => False) () :=
          Interaction.safe_perform.mpr ⟨trivial, fun _ _ moved => Except.ok.inj moved,
            fun _ _ moved => by cases moved⟩
        refine Interaction.Safe.bind (Interaction.Safe.tryCatch asked fun _ _ failed => failed.elim)
          fun answer _ same => ?_
        subst same
        -- what the single fetch adds to what was found
        cases fetched : archive.transaction signature with
        | none =>
            refine (safe_fetchMissing_all rest found below exact_).mono
              (fun found' _ ended => ⟨ended.1, ended.2.1, ?_⟩) fun _ _ failed => failed
            intro other mem carried
            rcases List.mem_cons.mp mem with rfl | later
            · simp [Archive.carried, fetched] at carried
            · exact ended.2.2 other later carried
        | some transaction =>
            by_cases signed : signature ∈ transaction.signatures
            · simp only [if_pos signed]
              have more : Exact archive ((signature, transaction) :: found) := by
                intro other transaction' listed' at_
                rw [foundAt_cons] at at_
                split at at_
                · next same =>
                  cases at_
                  subst same
                  exact Archive.carried_eq_some.mpr ⟨fetched, signed⟩
                · exact exact_ other transaction' listed' at_
              refine (safe_fetchMissing_all rest _ below more).mono
                (fun found' _ ended => ⟨ended.1, fun other here => ?_, ?_⟩) fun _ _ failed => failed
              · refine ended.2.1 other ?_
                rw [foundAt_cons]
                split
                · rfl
                · exact here
              · intro other mem carried
                rcases List.mem_cons.mp mem with rfl | later
                · refine ended.2.1 other ?_
                  rw [foundAt_cons, if_pos rfl]
                  rfl
                · exact ended.2.2 other later carried
            · simp only [if_neg signed]
              refine (safe_fetchMissing_all rest found below exact_).mono
                (fun found' _ ended => ⟨ended.1, ended.2.1, ?_⟩) fun _ _ failed => failed
              intro other mem carried
              rcases List.mem_cons.mp mem with rfl | later
              · simp [Archive.carried, fetched, signed, Option.filter] at carried
              · exact ended.2.2 other later carried

theorem safe_fetchFinalized_all {signatures : List JsString}
    (listed : ∀ signature ∈ signatures, archive.Lists signature) :
    Interaction.Safe archive.Serves (fun _ _ => True) (fetchFinalized nodeConnection signatures)
      (fun found _ => FoundAll archive signatures found) (fun _ _ => False) () := by
  have batch : Interaction.Safe archive.Serves (fun _ _ => True)
      (tryCatch (nodeConnection.request (.getParsedTransactions signatures)) fun _ => pure [])
      (fun batch _ => ∀ transaction ∈ batch.filterMap id, archive.Has transaction)
      (fun _ _ => False) () := by
    have asked : Interaction.Safe archive.Serves (fun _ _ => True)
        (nodeConnection.request (.getParsedTransactions signatures))
        (fun batch _ => ∀ transaction ∈ batch.filterMap id, archive.Has transaction)
        (fun _ _ => True) () := by
      refine Interaction.safe_perform.mpr ⟨trivial, fun answer _ moved => ?_, fun _ _ _ => trivial⟩
      intro transaction mem
      exact moved answer rfl transaction (by simpa using mem)
    exact asked.tryCatch fun _ _ _ => fun _ mem => nomatch mem
  refine Interaction.Safe.bind batch fun batch _ answered => ?_
  have all (transactions : List ParsedTransaction) (found : List (JsString × ParsedTransaction))
      (exact_ : Exact archive found)
      (answered : ∀ transaction ∈ transactions, archive.Has transaction) :
      Exact archive (transactions.foldl addFound found) := by
    induction transactions generalizing found with
    | nil => exact exact_
    | cons transaction rest ih =>
        exact ih _ (exact_.addFound (answered transaction List.mem_cons_self))
          fun other mem => answered other (List.mem_cons_of_mem _ mem)
  refine (safe_fetchMissing_all signatures _ listed
    (all _ [] (fun _ _ _ at_ => nomatch at_) answered)).mono ?_ fun _ _ failed => failed
  rintro found _ ⟨exact_, _, complete⟩ signature mem
  cases here : foundAt found signature with
  | some transaction => exact (exact_ signature transaction (listed signature mem) here).symm
  | none =>
      cases carried : archive.carried signature with
      | none => rfl
      | some transaction =>
          have := complete signature mem (by rw [carried]; rfl)
          rw [here] at this
          cases this

/-- However a batch is answered, its settlements are the same. -/
theorem fixed_batch (programId : Pubkey) (settles : SettlesEvent) {signatures : List JsString}
    (listed : ∀ signature ∈ signatures, archive.Lists signature) :
    Interaction.Fixed archive.Serves archive.plain (do
      let found ← fetchFinalized nodeConnection signatures
      .ofExcept (settlementsIn programId settles found signatures)) () := by
  have all := safe_fetchFinalized_all listed
  -- what the plain node leads to
  have one := all.runWith fun _ call => ⟨(), archive.answers_plain call⟩
  cases ran : (fetchFinalized nodeConnection signatures).runWith archive.plain with
  | error error => exact (one.2 error ran).elim fun _ failed => failed.elim
  | ok plainFound =>
      obtain ⟨_, plainAll⟩ := one.1 plainFound ran
      unfold Interaction.Fixed
      rw [Interaction.runWith_bind, ran, ok_bind, Interaction.runWith_ofExcept]
      refine Interaction.Safe.bind (all.mono (fun _ _ ended => ended) fun _ _ failed => failed.elim)
        fun found _ foundAll => ?_
      rw [settlementsIn_congr fun signature mem =>
        (foundAll signature mem).trans (plainAll signature mem).symm]
      exact Interaction.safe_ofExcept.mpr ⟨fun _ same => same, fun _ same => same⟩

theorem fixed_settlementsOfPage (programId : Pubkey) (settles : SettlesEvent)
    {signatures : List JsString} (listed : ∀ signature ∈ signatures, archive.Lists signature) :
    Interaction.Fixed archive.Serves archive.plain
      (settlementsOfPage nodeConnection programId settles signatures) () := by
  refine Interaction.Fixed.bind (Interaction.fixed_each fun batch inside _ => ?_)
    fun _ _ _ => Interaction.fixed_pure
  refine fixed_batch programId settles fun signature mem => listed signature ?_
  rw [← flatten_toChunks HISTORY_BATCH signatures]
  exact List.mem_flatten_of_mem inside mem

theorem fixed_readHistory (record programId : Pubkey) (settles : SettlesEvent) (maxSignatures : Nat)
    (pages read : Nat) (before : Option JsString) :
    Interaction.Fixed archive.Serves archive.plain
      (readHistory nodeConnection record programId settles maxSignatures pages read before) () := by
  induction pages generalizing read before with
  | zero => exact Interaction.fixed_throw
  | succ pages ih =>
      refine Interaction.Fixed.bind (Interaction.fixed_perform fun _ _ moved => moved)
        fun page _ asked => ?_
      have same : archive.page record (min 1000 (maxSignatures - read)) before = page :=
        Except.ok.inj asked
      refine Interaction.Fixed.bind (fixed_settlementsOfPage programId settles fun signature mem => ?_)
        fun found _ _ => ?_
      · obtain ⟨entry, inside, named⟩ := List.mem_map.mp mem
        exact ⟨record, _, before, entry, same ▸ (List.mem_filter.mp inside).1, named⟩
      split
      · exact Interaction.fixed_pure
      · split
        · exact Interaction.fixed_throw
        · exact Interaction.Fixed.bind (ih _ _) fun _ _ _ => Interaction.fixed_pure

/-- The search ends as it does on the plain node. -/
theorem fixed_findCreatingTransaction (record programId : Pubkey) (settles : SettlesEvent)
    (maxSignatures : Nat) : Interaction.Fixed archive.Serves archive.plain
      (findCreatingTransaction nodeConnection record programId settles maxSignatures) () := by
  refine Interaction.Fixed.bind Interaction.fixed_ofExcept fun _ _ _ => ?_
  refine Interaction.Fixed.bind (fixed_readHistory record programId settles maxSignatures _ _ _)
    fun found _ _ => ?_
  split
  · exact Interaction.fixed_pure
  · exact Interaction.fixed_throw

end Fetching

/-! ### Histories that stay unresolved -/

/-- The search reports that the history does not decide. -/
def Unresolved (error : Thrown) : Prop := ∃ message, error = .ledger ⟨.RECORD_HISTORY, message⟩

theorem unresolved_of_ensure {condition : Prop} [Decidable condition] {message : JsString}
    {error : Thrown} (refused : ensure condition (.ledger ⟨.RECORD_HISTORY, message⟩) = .error error) :
    Unresolved error :=
  ⟨message, (ensure_eq_error.mp refused).2.symm⟩

theorem unresolved_of_settlementsIn {programId : Pubkey} {settles : SettlesEvent}
    {found : List (JsString × ParsedTransaction)} {signatures : List JsString} {error : Thrown}
    (refused : settlementsIn programId settles found signatures = .error error) :
    Unresolved error := by
  induction signatures with
  | nil => cases refused
  | cons signature rest ih =>
      unfold settlementsIn at refused
      split at refused
      · cases refused
        exact ⟨_, rfl⟩
      · rcases bind_eq_error.mp refused with later | ⟨later, _, refused⟩
        · exact ih later
        · split at refused
          · cases refused
          · split at refused
            · cases refused
            · split at refused <;> cases refused

section Unresolved

variable {Op : Type} {Reply : Op → Type} {connection : Connection Op Reply} {W : Type}
  {step : W → (op : Op) → Except Thrown (Reply op) → W → Prop} {inv : W → Prop}
  {failed : Thrown → W → Prop}
  (single : ∀ signature w, inv w → Interaction.Safe step (fun _ _ => True)
    (connection.request (.getParsedTransaction signature)) (fun _ => inv) (fun _ _ => True) w)
  (batched : ∀ signatures w, inv w → Interaction.Safe step (fun _ _ => True)
    (connection.request (.getParsedTransactions signatures)) (fun _ => inv) (fun _ => inv) w)
  (paged : ∀ address limit before w, inv w → Interaction.Safe step (fun _ _ => True)
    (connection.request (.getSignaturesForAddress address limit before)) (fun _ => inv) failed w)

include single

/-- A transaction that cannot be fetched leaves the history unresolved. -/
theorem unresolved_fetchMissing : ∀ (signatures : List JsString)
    (found : List (JsString × ParsedTransaction)) (w : W), inv w →
      Interaction.Safe step (fun _ _ => True) (fetchMissing connection signatures found)
        (fun _ => inv) (fun error w' => failed error w' ∨ Unresolved error) w
  | [], _, _, holds => holds
  | signature :: rest, found, w, holds => by
      unfold fetchMissing
      split
      · exact unresolved_fetchMissing rest found w holds
      · refine Interaction.Safe.bind ((single signature w holds).tryCatch fun _ _ _ => ?_)
          fun transaction w' holds => ?_
        · exact .inr ⟨_, rfl⟩
        cases transaction with
        | some transaction => exact unresolved_fetchMissing rest _ w' holds
        | none => exact unresolved_fetchMissing rest found w' holds

include batched

theorem unresolved_settlementsOfPage (programId : Pubkey) (settles : SettlesEvent)
    (signatures : List JsString) (w : W) (holds : inv w) : Interaction.Safe step (fun _ _ => True)
      (settlementsOfPage connection programId settles signatures) (fun _ => inv)
      (fun error w' => failed error w' ∨ Unresolved error) w := by
  refine Interaction.Safe.bind (Interaction.safe_each_keeps (fun batch w holds => ?_) _
    holds) fun _ _ holds => holds
  have answers : Interaction.Safe step (fun _ _ => True)
      (tryCatch (connection.request (.getParsedTransactions batch)) fun _ => pure []) (fun _ => inv)
      (fun error w' => failed error w' ∨ Unresolved error) w :=
    (batched batch w holds).tryCatch fun _ _ holds => holds
  refine Interaction.Safe.bind (Interaction.Safe.bind answers fun batch w holds =>
    unresolved_fetchMissing single _ _ w holds) fun found w holds => ?_
  exact Interaction.safe_ofExcept.mpr
    ⟨fun _ _ => holds, fun error refused => .inr (unresolved_of_settlementsIn refused)⟩

include paged

theorem unresolved_readHistory (record programId : Pubkey) (settles : SettlesEvent)
    (maxSignatures pages read : Nat) (before : Option JsString) (w : W) (holds : inv w) :
    Interaction.Safe step (fun _ _ => True)
      (readHistory connection record programId settles maxSignatures pages read before)
      (fun _ => inv) (fun error w' => failed error w' ∨ Unresolved error) w := by
  induction pages generalizing read before w with
  | zero => exact .inr ⟨_, rfl⟩
  | succ pages ih =>
      refine Interaction.Safe.bind ((paged _ _ _ w holds).mono (fun _ _ holds => holds)
        fun _ _ failed => .inl failed) fun page w holds => ?_
      refine Interaction.Safe.bind (unresolved_settlementsOfPage single batched programId settles _ w
        holds) fun found w holds => ?_
      split
      · exact holds
      · split
        · exact .inr ⟨_, rfl⟩
        · exact Interaction.Safe.bind (ih _ _ w holds) fun _ _ holds => holds

/-- The search fails with `RECORD_HISTORY` alone, where only its pages fail in
another way. -/
theorem unresolved_findCreatingTransaction (record programId : Pubkey) (settles : SettlesEvent)
    (maxSignatures : Nat) (w : W) (holds : inv w) : Interaction.Safe step (fun _ _ => True)
      (findCreatingTransaction connection record programId settles maxSignatures) (fun _ => inv)
      (fun error w' => failed error w' ∨ Unresolved error) w := by
  have checked : Interaction.Safe step (fun _ _ => True) (.ofExcept (ensure
      (0 < maxSignatures ∧ maxSignatures < 2 ^ 53)
      (.ledger ⟨.RECORD_HISTORY, js "maxSignatures must be a positive integer"⟩)) :
        Interaction Op Reply Thrown Unit)
      (fun _ => inv) (fun error w' => failed error w' ∨ Unresolved error) w :=
    Interaction.safe_ofExcept.mpr
      ⟨fun _ _ => holds, fun _ refused => .inr (unresolved_of_ensure refused)⟩
  refine Interaction.Safe.bind checked fun _ w holds => ?_
  refine Interaction.Safe.bind (unresolved_readHistory single batched paged record programId settles
    maxSignatures _ _ _ w holds) fun found w holds => ?_
  split
  · exact holds
  · exact .inr ⟨_, rfl⟩

end Unresolved

/-! ### Both searches -/

section Searches

variable {Op : Type} {Reply : Op → Type} {H : Host} {connection : Connection Op Reply}
  {programId ns : Pubkey} {eventId : JsString} {maxSignatures : Nat}

theorem called_ok {α β : Type} (value : α) (next : α → Interaction Op Reply Thrown β) :
    (Interaction.ofExcept (protocolCall (.ok value)) >>= next) = next value := rfl

/-- An event id that is not empty names a record. -/
theorem findSettlementTransaction_eq (named : eventId ≠ []) :
    findSettlementTransaction H connection programId ns eventId maxSignatures =
      findCreatingTransaction connection
        (settlementPda H.addresses programId ns (H.sha256 (textEncode eventId))).1 programId
        (settlesEvent ns (H.sha256 (textEncode eventId))) maxSignatures := by
  have seeded : eventIdSeed H eventId = .ok (H.sha256 (textEncode eventId)) :=
    eventIdSeed_eq_ok.mpr ⟨named, rfl⟩
  have derived : findSettlementRecordPda H programId ns (H.sha256 (textEncode eventId)).val =
      .ok (settlementPda H.addresses programId ns (H.sha256 (textEncode eventId))) :=
    findSettlementRecordPda_eq programId ns _
  rw [findSettlementTransaction, seeded, called_ok, derived, called_ok]

theorem findLegacySettlementTransaction_eq (named : eventId ≠ []) :
    ∃ record, findLegacySettlementTransaction H connection programId eventId maxSignatures =
      findCreatingTransaction connection record programId
        (settlesLegacyEvent record (H.sha256 (textEncode eventId))) maxSignatures := by
  have seeded : eventIdSeed H eventId = .ok (H.sha256 (textEncode eventId)) :=
    eventIdSeed_eq_ok.mpr ⟨named, rfl⟩
  have derived : findLegacySettlementRecordPda H programId (H.sha256 (textEncode eventId)).val =
      .ok (H.addresses.find programId
        [textEncode SETTLEMENT_SEED, (H.sha256 (textEncode eventId)).val]) := by
    have sized : (H.sha256 (textEncode eventId)).val.length = EVENT_SEED_LENGTH :=
      (H.sha256 _).property
    rw [findLegacySettlementRecordPda, assertSeed, ensure_bind_of_pos sized]
  refine ⟨(H.addresses.find programId
    [textEncode SETTLEMENT_SEED, (H.sha256 (textEncode eventId)).val]).1, ?_⟩
  rw [findLegacySettlementTransaction, seeded, called_ok, derived, called_ok]

end Searches

/-- Any node at all, with a flag that a single fetch threw. -/
def AnyNode : Bool → (call : Rpc) → Except Thrown call.Answer → Bool → Prop
  | threw, .getParsedTransaction _, reply, threw' => threw' = (threw || !reply.isOk)
  | threw, _, _, threw' => threw' = threw

/-- What a search of an archive comes to. -/
structure Archive.Decides (archive : Archive)
    (search : Interaction Rpc Rpc.Answer Thrown SettlementTransaction) : Prop where
  /-- However the batches are answered, the search ends, and always in one way. -/
  same : ∃! outcome, ∃ w', Interaction.Steps archive.Serves (search, ()) (.ofExcept outcome, w')
  /-- With a result, or with `RECORD_HISTORY`. -/
  ends : ∀ outcome w', Interaction.Steps archive.Serves (search, ()) (.ofExcept outcome, w') →
    (∃ created, outcome = .ok created) ∨ ∃ error, outcome = .error error ∧ Unresolved error
  /-- Whatever a node answers, a single fetch that throws leaves the history
  unresolved. -/
  whole : ∀ outcome, Interaction.Steps AnyNode (search, false) (.ofExcept outcome, true) →
    ∃ error, outcome = .error error ∧ Unresolved error

theorem decides_findCreatingTransaction (archive : Archive) (record programId : Pubkey)
    (settles : SettlesEvent) (maxSignatures : Nat) :
    archive.Decides (findCreatingTransaction nodeConnection record programId settles maxSignatures)
      where
  same := (fixed_findCreatingTransaction record programId settles maxSignatures).existsUnique
    fun _ call => ⟨_, (), archive.answers_plain call⟩
  ends := by
    intro outcome w' ran
    have safe : Interaction.Safe archive.Serves (fun _ _ => True)
        (findCreatingTransaction nodeConnection record programId settles maxSignatures)
        (fun _ _ => True) (fun error _ => False ∨ Unresolved error) () :=
      unresolved_findCreatingTransaction
      (fun _ _ _ => Interaction.safe_perform.mpr
        ⟨trivial, fun _ _ _ => trivial, fun _ _ _ => trivial⟩)
      (fun _ _ _ => Interaction.safe_perform.mpr
        ⟨trivial, fun _ _ _ => trivial, fun _ _ _ => trivial⟩)
      (fun _ _ _ _ _ => Interaction.safe_perform.mpr
        ⟨trivial, fun _ _ _ => trivial, fun _ _ moved => nomatch moved⟩)
      record programId settles maxSignatures () trivial
    have ended := safe.steps ran
    cases outcome with
    | ok created => exact .inl ⟨created, rfl⟩
    | error error => exact .inr ⟨error, rfl, ended.resolve_left id⟩
  whole := by
    intro outcome ran
    have kept {call : Rpc} (other : ∀ signature, call ≠ .getParsedTransaction signature)
        {threw : Bool} {reply : Except Thrown call.Answer} {threw' : Bool} (holds : threw = false)
        (moved : AnyNode threw call reply threw') : threw' = false := by
      cases call with
      | getParsedTransaction signature => exact absurd rfl (other signature)
      | _ => exact moved.trans holds
    have safe : Interaction.Safe AnyNode (fun _ _ => True)
        (findCreatingTransaction nodeConnection record programId settles maxSignatures)
        (fun _ threw => threw = false) (fun error threw => threw = false ∨ Unresolved error) false :=
      unresolved_findCreatingTransaction
      (fun _ _ holds => Interaction.safe_perform.mpr ⟨trivial, fun _ _ moved => by
        rw [moved, holds]
        rfl, fun _ _ _ => trivial⟩)
      (fun _ _ holds => Interaction.safe_perform.mpr
        ⟨trivial, fun _ _ moved => kept (by simp) holds moved,
          fun _ _ moved => kept (by simp) holds moved⟩)
      (fun _ _ _ _ holds => Interaction.safe_perform.mpr
        ⟨trivial, fun _ _ moved => kept (by simp) holds moved,
          fun _ _ moved => kept (by simp) holds moved⟩)
      record programId settles maxSignatures false rfl
    have ended := safe.steps ran
    cases outcome with
    | ok created => cases ended
    | error error => exact ⟨error, rfl, ended.resolve_left Bool.noConfusion⟩

/-- **How batches are answered makes no difference.** Take what any node has of
a record's history. Whatever it answers to the batches (in any order, with
holes, with other true transactions, or refusing them), the search for an
event's settlement ends, always with the same result or the same
`RECORD_HISTORY` failure; and where a single fetch throws, on any node, the
search ends with `RECORD_HISTORY`. The same holds for records of the retired
instructions. -/
theorem search_unmoved_by_batches (H : Host) (archive : Archive) (programId ns : Pubkey)
    (eventId : JsString) (maxSignatures : Nat) (named : eventId ≠ []) :
    archive.Decides (findSettlementTransaction H nodeConnection programId ns eventId maxSignatures) ∧
    archive.Decides (findLegacySettlementTransaction H nodeConnection programId eventId
      maxSignatures) := by
  have legacy : ∃ record, findLegacySettlementTransaction H nodeConnection programId eventId
      maxSignatures = findCreatingTransaction nodeConnection record programId
        (settlesLegacyEvent record (H.sha256 (textEncode eventId))) maxSignatures :=
    findLegacySettlementTransaction_eq named
  obtain ⟨record, legacy⟩ := legacy
  rw [findSettlementTransaction_eq named, legacy]
  exact ⟨decides_findCreatingTransaction archive _ _ _ _,
    decides_findCreatingTransaction archive _ _ _ _⟩

/-- A node with the sample settlement in the history of every address. -/
def sampleArchive : Archive where
  page _ limit before := if before = none then [SignatureInfo.mk (js "sent") none].take limit else []
  transaction signature := if signature = js "sent" then some sampleTransaction else none

/-- The sample settlement is found, however the batches are answered. -/
theorem search_unmoved_by_batches_sample :
    ((findSettlementTransaction sampleHost nodeConnection sampleDeployment.programId sampleNamespace
      sampleRequest.eventId 5000).runWith sampleArchive.plain).toOption = some ⟨js "sent", 7, true⟩ ∧
    sampleArchive.Decides (findSettlementTransaction sampleHost nodeConnection
      sampleDeployment.programId sampleNamespace sampleRequest.eventId 5000) :=
  ⟨by decide +kernel, (search_unmoved_by_batches sampleHost sampleArchive _ _ _ _ (by decide)).1⟩

/-! ### Pages -/

/-- Counts the pages that a program asks for, whatever they hold. -/
def PageCount : Nat → (call : Rpc) → Except Thrown call.Answer → Nat → Prop
  | pages, .getSignaturesForAddress _ _ _, _, pages' => pages' = pages + 1
  | pages, _, _, pages' => pages' = pages

/-- A page that another follows takes a thousand entries off what is left. -/
theorem pages_left {maxSignatures read entries : Nat} (full : min 1000 (maxSignatures - read) ≤ entries)
    (more : read + entries < maxSignatures) :
    (maxSignatures - (read + entries) + 999) / 1000 + 1 ≤ (maxSignatures - read + 999) / 1000 := by
  omega

theorem safe_readHistory_pages {record programId : Pubkey} {settles : SettlesEvent}
    {maxSignatures most : Nat} (fuel : Nat) {read : Nat} {before : Option JsString} {pages : Nat}
    (rest : read < maxSignatures) (few : pages + (maxSignatures - read + 999) / 1000 ≤ most) :
    Interaction.Safe PageCount (fun pages _ => pages ≤ most)
      (readHistory nodeConnection record programId settles maxSignatures fuel read before)
      (fun _ pages => pages ≤ most) (fun _ pages => pages ≤ most) pages := by
  induction fuel generalizing read before pages with
  | zero => exact (Nat.le_add_right _ _).trans few
  | succ fuel ih =>
      have next : pages + 1 ≤ most := by omega
      refine Interaction.Safe.bind (Interaction.safe_perform.mpr
        (⟨by omega, fun _ _ moved => moved, fun _ _ moved => moved.trans_le next⟩ :
          _ ∧ (∀ _ pages', _ → pages' = pages + 1) ∧ _)) fun page _ counted => ?_
      subst counted
      -- the transactions of a page cost no page
      have batches : Interaction.Safe PageCount (fun pages _ => pages ≤ most)
          (settlementsOfPage nodeConnection programId settles
            ((page.filter fun entry => entry.err.isNone).map SignatureInfo.signature))
          (fun _ pages' => pages' = pages + 1) (fun _ pages' => pages' = pages + 1) (pages + 1) := by
        have uses : (settlementsOfPage nodeConnection programId settles
            ((page.filter fun entry => entry.err.isNone).map SignatureInfo.signature)).Uses
              fun call => ∀ address limit before, call ≠ .getSignaturesForAddress address limit before :=
          uses_settlementsOfPage (fun _ => Interaction.uses_perform.mpr fun _ _ _ => by simp)
            (fun _ => Interaction.uses_perform.mpr fun _ _ _ => by simp) _ _ _
        refine Interaction.Safe.of_uses uses ?_ ?_ rfl
        · exact fun _ _ _ same => same.trans_le next
        · intro pages' call reply pages'' other same moved
          cases call with
          | getSignaturesForAddress address limit before => exact absurd rfl (other address limit before)
          | _ => exact moved.trans same
      refine Interaction.Safe.bind (batches.mono (fun _ _ same => same)
        fun _ _ same => same.trans_le next) fun found _ same => ?_
      subst same
      split
      · exact next
      · next full =>
        split
        · exact next
        · next more =>
          have left := pages_left (Nat.le_of_not_lt full) (Nat.lt_of_not_le more)
          exact Interaction.Safe.bind (ih (Nat.lt_of_not_le more) (by omega)) fun _ _ few => few

/-- **A history is read in few pages.** Whatever a node answers, the loop that
reads a history asks for ⌈`maxSignatures` / 1000⌉ pages at most, with any fuel. -/
theorem pages_le {record programId : Pubkey} {settles : SettlesEvent} {maxSignatures fuel pages : Nat}
    {rest : Interaction Rpc Rpc.Answer Thrown (List SettlementTransaction)}
    (positive : 0 < maxSignatures)
    (ran : Interaction.Steps PageCount (readHistory nodeConnection record programId settles
      maxSignatures fuel 0 none, 0) (rest, pages)) : pages ≤ (maxSignatures + 999) / 1000 := by
  have safe : Interaction.Safe PageCount (fun pages _ => pages ≤ (maxSignatures + 999) / 1000)
      (readHistory nodeConnection record programId settles maxSignatures fuel 0 none)
      (fun _ pages => pages ≤ (maxSignatures + 999) / 1000)
      (fun _ pages => pages ≤ (maxSignatures + 999) / 1000) 0 :=
    safe_readHistory_pages fuel positive (by rw [Nat.zero_add, Nat.sub_zero])
  have on := safe.steps ran
  cases rest with
  | pure value => exact on
  | throw error => exact on
  | ask op next => exact on.1

/-- More fuel than that changes nothing: the loop of the source has none, and ends
by itself. -/
theorem readHistory_enough {Op : Type} {Reply : Op → Type} (connection : Connection Op Reply)
    (record programId : Pubkey) (settles : SettlesEvent) {maxSignatures fuel read : Nat} (extra : Nat)
    (before : Option JsString) (rest : read < maxSignatures)
    (enough : maxSignatures - read ≤ 1000 * fuel) :
    readHistory connection record programId settles maxSignatures (fuel + extra) read before =
      readHistory connection record programId settles maxSignatures fuel read before := by
  induction fuel generalizing read before with
  | zero => omega
  | succ fuel ih =>
      rw [Nat.add_right_comm, readHistory, readHistory]
      refine congrArg (bind _) (funext fun page => congrArg (bind _) (funext fun found => ?_))
      split
      · rfl
      · next full =>
        split
        · rfl
        · next more =>
          rw [ih _ (Nat.lt_of_not_le more) (by omega)]

/-! ### Complete histories -/

/-- The entries of a history, newest first, before a signature and so many at
most. -/
def pageOf (entries : List SignatureInfo) (limit : Nat) (before : Option JsString) :
    List SignatureInfo :=
  (match before with
  | none => entries
  | some signature =>
      (entries.dropWhile fun entry : SignatureInfo => entry.signature ≠ signature).tail).take limit

/-- The archive serves this history of the record, with a transaction for every
entry that succeeded. -/
structure Archive.Complete (archive : Archive) (record : Pubkey) (entries : List SignatureInfo) :
    Prop where
  pages : ∀ limit before, archive.page record limit before = pageOf entries limit before
  transactions : ∀ entry ∈ entries, entry.err = none → (archive.carried entry.signature).isSome
  distinct : (entries.map SignatureInfo.signature).Nodup

/-- The settlement that the transaction of a signature shows, if it succeeded. -/
def Archive.settlementAt (archive : Archive) (programId : Pubkey) (settles : SettlesEvent)
    (signature : JsString) : Option SettlementTransaction :=
  (archive.carried signature).bind fun transaction =>
    transaction.metadata.bind fun metadata =>
      if metadata.err.isSome then none
      else (settlementIn transaction programId settles).map fun topLevel =>
        ⟨signature, transaction.slot, topLevel⟩

/-- The settlements of a history, in its order. -/
def Archive.settlements (archive : Archive) (programId : Pubkey) (settles : SettlesEvent)
    (entries : List SignatureInfo) : List SettlementTransaction :=
  ((entries.filter fun entry => entry.err.isNone).map SignatureInfo.signature).filterMap
    (archive.settlementAt programId settles)

section Complete

variable {archive : Archive} {record programId : Pubkey} {settles : SettlesEvent}
  {entries : List SignatureInfo} {maxSignatures : Nat}

theorem settlementsIn_complete {found : List (JsString × ParsedTransaction)}
    {signatures : List JsString} (all : FoundAll archive signatures found)
    (there : ∀ signature ∈ signatures, (archive.carried signature).isSome) :
    settlementsIn programId settles found signatures =
      .ok (signatures.filterMap (archive.settlementAt programId settles)) := by
  induction signatures with
  | nil => rfl
  | cons signature rest ih =>
      obtain ⟨transaction, carried⟩ := Option.isSome_iff_exists.mp
        (there signature List.mem_cons_self)
      have later := ih (fun other mem => all other (List.mem_cons_of_mem _ mem))
        fun other mem => there other (List.mem_cons_of_mem _ mem)
      rw [settlementsIn, all signature List.mem_cons_self, carried, later, List.filterMap_cons,
        Archive.settlementAt, carried]
      simp only [ok_bind, Option.bind_some]
      cases metadata : transaction.metadata with
      | none => rfl
      | some metadata =>
          simp only [Option.bind_some]
          split
          · rfl
          · cases settlementIn transaction programId settles <;> rfl

theorem runWith_settlementsOfPage {signatures : List JsString}
    (listed : ∀ signature ∈ signatures, archive.Lists signature)
    (there : ∀ signature ∈ signatures, (archive.carried signature).isSome) :
    (settlementsOfPage nodeConnection programId settles signatures).runWith archive.plain =
      .ok (signatures.filterMap (archive.settlementAt programId settles)) := by
  have inside {batch : List JsString} (mem : batch ∈ signatures.toChunks HISTORY_BATCH) :
      ∀ signature ∈ batch, signature ∈ signatures := by
    intro signature own
    rw [← flatten_toChunks HISTORY_BATCH signatures]
    exact List.mem_flatten_of_mem mem own
  unfold settlementsOfPage
  rw [Interaction.runWith_bind, Interaction.runWith_each fun batch mem => ?_]
  · change Except.ok (List.flatten _) = _
    rw [← List.filterMap_flatten, flatten_toChunks]
  · have ended := (safe_fetchFinalized_all fun signature own =>
      listed signature (inside mem signature own)).runWith fun _ call =>
        ⟨(), archive.answers_plain call⟩
    rw [Interaction.runWith_bind]
    cases ran : (fetchFinalized nodeConnection batch).runWith archive.plain with
    | error error => exact (ended.2 error ran).elim fun _ failed => failed.elim
    | ok found =>
        obtain ⟨_, all⟩ := ended.1 found ran
        rw [ok_bind, Interaction.runWith_ofExcept]
        exact settlementsIn_complete all fun signature own =>
          there signature (inside mem signature own)

/-- After an entry, a page goes on with the next. -/
theorem pageOf_after {front back : List SignatureInfo} {entry : SignatureInfo}
    (distinct : ((front ++ entry :: back).map SignatureInfo.signature).Nodup) (limit : Nat) :
    pageOf (front ++ entry :: back) limit (some entry.signature) = back.take limit := by
  rw [List.map_append, List.map_cons] at distinct
  have fresh : ∀ other ∈ front, other.signature ≠ entry.signature := by
    intro other mem same
    exact (List.nodup_append.mp distinct).2.2 _ (List.mem_map_of_mem mem) _ List.mem_cons_self same
  have skipped : (front ++ entry :: back).dropWhile
      (fun other => other.signature ≠ entry.signature) = entry :: back := by
    rw [List.dropWhile_append_of_pos fun other mem => by simpa using fresh other mem]
    simp
  rw [pageOf, skipped, List.tail_cons]

/-- A complete history is read to its end, unless it has `maxSignatures` entries. -/
theorem runWith_readHistory (complete : archive.Complete record entries) (fuel : Nat) {read : Nat}
    {before : Option JsString} (rest : read < maxSignatures)
    (enough : maxSignatures - read ≤ 1000 * fuel) (inside : read ≤ entries.length)
    (cursor : ∀ limit, archive.page record limit before = (entries.drop read).take limit) :
    (entries.length < maxSignatures →
      (readHistory nodeConnection record programId settles maxSignatures fuel read before).runWith
        archive.plain = .ok (archive.settlements programId settles (entries.drop read))) ∧
    (maxSignatures ≤ entries.length → ∃ error,
      (readHistory nodeConnection record programId settles maxSignatures fuel read before).runWith
        archive.plain = .error error) := by
  induction fuel generalizing read before with
  | zero => omega
  | succ fuel ih =>
      set limit := min 1000 (maxSignatures - read) with hlimit
      set page := (entries.drop read).take limit with hpage
      have length : page.length = min limit (entries.length - read) := by
        rw [hpage, List.length_take, List.length_drop]
      have asked : (nodeConnection.request (.getSignaturesForAddress record limit before)).runWith
          archive.plain = .ok page :=
        (Interaction.runWith_perform _).trans (congrArg Except.ok (cursor limit))
      have mem {entry : SignatureInfo} (own : entry ∈ page) : entry ∈ entries :=
        List.mem_of_mem_drop (List.mem_of_mem_take own)
      have found : (settlementsOfPage nodeConnection programId settles
          ((page.filter fun entry => entry.err.isNone).map SignatureInfo.signature)).runWith
            archive.plain = .ok (archive.settlements programId settles page) := by
        refine runWith_settlementsOfPage ?_ ?_
        · intro signature own
          obtain ⟨entry, kept, rfl⟩ := List.mem_map.mp own
          exact ⟨record, limit, before, entry, cursor limit ▸ (List.mem_filter.mp kept).1, rfl⟩
        · intro signature own
          obtain ⟨entry, kept, rfl⟩ := List.mem_map.mp own
          obtain ⟨own, succeeded⟩ := List.mem_filter.mp kept
          exact complete.transactions entry (mem own) (Option.isNone_iff_eq_none.mp succeeded)
      rw [readHistory, Interaction.runWith_bind, asked, ok_bind, Interaction.runWith_bind, found,
        ok_bind]
      by_cases short : page.length < limit
      · rw [if_pos short]
        have last : page = entries.drop read := by
          rw [hpage, List.take_of_length_le]
          rw [List.length_drop]
          omega
        rw [last]
        exact ⟨fun _ => rfl, fun many => by omega⟩
      · rw [if_neg short]
        by_cases full : read + page.length ≥ maxSignatures
        · rw [if_pos full]
          exact ⟨fun few => by omega, fun _ => ⟨_, rfl⟩⟩
        · rw [if_neg full]
          -- the next page starts after the last entry of this one
          have split : entries.drop read = page ++ entries.drop (read + page.length) := by
            rw [← List.drop_drop]
            have : page = (entries.drop read).take page.length := by
              rw [length, hpage, ← List.length_drop, List.take_eq_take_min]
            conv_lhs => rw [← List.take_append_drop page.length (entries.drop read), ← this]
          obtain ⟨front, entry, last⟩ : ∃ front entry, page = front ++ [entry] := by
            refine (List.eq_nil_or_concat' page).resolve_left fun empty => ?_
            rw [empty, List.length_nil] at short full
            omega
          have whole : entries = (entries.take read ++ front) ++
              entry :: entries.drop (read + page.length) := by
            calc entries = entries.take read ++ entries.drop read :=
                  (List.take_append_drop read entries).symm
              _ = entries.take read ++ (page ++ entries.drop (read + page.length)) :=
                  congrArg _ split
              _ = _ := by
                generalize entries.drop (read + page.length) = later
                rw [last]
                simp
          have lastEntry : page.getLast? = some entry := by rw [last, List.getLast?_concat]
          have follows (limit : Nat) : archive.page record limit
              (page.getLast?.map SignatureInfo.signature) =
                (entries.drop (read + page.length)).take limit := by
            have after := pageOf_after (whole ▸ complete.distinct) limit
            rw [← whole] at after
            rw [complete.pages, lastEntry, Option.map_some, after]
          have next := ih (Nat.lt_of_not_le full) (by omega) (by omega) follows
          have joined : archive.settlements programId settles (entries.drop read) =
              archive.settlements programId settles page ++
                archive.settlements programId settles (entries.drop (read + page.length)) := by
            rw [split]
            simp only [Archive.settlements, List.filter_append, List.map_append,
              List.filterMap_append]
          refine ⟨fun few => ?_, fun many => ?_⟩
          · rw [Interaction.runWith_bind, next.1 few, joined]
            rfl
          · obtain ⟨error, ended⟩ := next.2 many
            exact ⟨error, by rw [Interaction.runWith_bind, ended]; rfl⟩

/-- The search of a complete history returns its one settlement, if the history
has fewer than `maxSignatures` entries. -/
theorem runWith_findCreatingTransaction (complete : archive.Complete record entries)
    (created : SettlementTransaction) :
    (findCreatingTransaction nodeConnection record programId settles maxSignatures).runWith
        archive.plain = .ok created ↔
      (0 < maxSignatures ∧ maxSignatures < 2 ^ 53) ∧ entries.length < maxSignatures ∧
        archive.settlements programId settles entries = [created] := by
  unfold findCreatingTransaction
  rw [Interaction.runWith_bind, Interaction.runWith_ofExcept, ensure_bind_eq_ok]
  refine and_congr_right fun valid => ?_
  rw [Interaction.runWith_bind]
  have read : (entries.length < maxSignatures →
      (readHistory nodeConnection record programId settles maxSignatures maxSignatures 0 none).runWith
        archive.plain = .ok (archive.settlements programId settles entries)) ∧
      (maxSignatures ≤ entries.length → ∃ error,
        (readHistory nodeConnection record programId settles maxSignatures maxSignatures 0
          none).runWith archive.plain = .error error) :=
    runWith_readHistory complete maxSignatures valid.1 (by omega) (Nat.zero_le _)
      fun limit => complete.pages limit none
  by_cases few : entries.length < maxSignatures
  · rw [read.1 few, ok_bind, and_iff_right few]
    split
    · next settlement one => simp [one]
    · next several =>
      exact ⟨fun same => (nomatch same), fun one => absurd one (several created)⟩
  · obtain ⟨error, ended⟩ := read.2 (Nat.le_of_not_lt few)
    rw [ended]
    exact ⟨fun same => (nomatch same), fun both => absurd both.1 few⟩

end Complete

/-! ### What a transaction shows -/

/-- A raw instruction of the program that settles the event. -/
def RpcInstruction.Matches (programId : Pubkey) (settles : SettlesEvent)
    (instruction : RpcInstruction) : Prop :=
  ∃ raw, instruction.raw? = some raw ∧ raw.programId = programId ∧ settles raw (decodeData raw.data)

/-- The instructions of a transaction, top-level or inner. -/
def ParsedTransaction.invocations (transaction : ParsedTransaction) : List RpcInstruction :=
  transaction.instructions ++
    ((transaction.metadata.bind TransactionMeta.innerInstructions).getD []).flatMap
      InnerInstructions.instructions

/-- The transaction contains a matching instruction of the program. -/
def ParsedTransaction.ContainsSettlement (programId : Pubkey) (settles : SettlesEvent)
    (transaction : ParsedTransaction) : Prop :=
  ∃ instruction ∈ transaction.invocations, instruction.Matches programId settles

section Shows

variable {programId : Pubkey} {settles : SettlesEvent} {transaction : ParsedTransaction}

theorem settlementIn_eq :
    (settlementIn transaction programId settles = some true ↔
      ∃ instruction ∈ transaction.instructions, instruction.Matches programId settles) ∧
    ((settlementIn transaction programId settles).isSome ↔
      transaction.ContainsSettlement programId settles) := by
  obtain ⟨matching, meant, search⟩ : ∃ matching : RpcInstruction → Bool,
      (∀ instruction, matching instruction = true ↔ instruction.Matches programId settles) ∧
      settlementIn transaction programId settles =
        if transaction.instructions.any matching then some true
        else if ((transaction.metadata.bind TransactionMeta.innerInstructions).getD []).any
          fun group => group.instructions.any matching then some false
        else none := by
    refine ⟨_, fun instruction => ?_, rfl⟩
    unfold RpcInstruction.Matches
    cases instruction.raw? <;> simp
  have topLevel : transaction.instructions.any matching = true ↔
      ∃ instruction ∈ transaction.instructions, instruction.Matches programId settles := by
    simp only [List.any_eq_true, meant]
  have inner : (((transaction.metadata.bind TransactionMeta.innerInstructions).getD []).any
        fun group => group.instructions.any matching) = true ↔
      ∃ instruction ∈ ((transaction.metadata.bind TransactionMeta.innerInstructions).getD []).flatMap
        InnerInstructions.instructions, instruction.Matches programId settles := by
    simp only [List.any_eq_true, meant, List.mem_flatMap]
    exact ⟨fun ⟨group, inside, instruction, mem, found⟩ => ⟨instruction, ⟨group, inside, mem⟩, found⟩,
      fun ⟨instruction, ⟨group, inside, mem⟩, found⟩ => ⟨group, inside, instruction, mem, found⟩⟩
  have either : transaction.ContainsSettlement programId settles ↔
      (∃ instruction ∈ transaction.instructions, instruction.Matches programId settles) ∨
      ∃ instruction ∈ ((transaction.metadata.bind TransactionMeta.innerInstructions).getD []).flatMap
        InnerInstructions.instructions, instruction.Matches programId settles := by
    simp only [ParsedTransaction.ContainsSettlement, ParsedTransaction.invocations, List.mem_append,
      or_and_right, exists_or]
  rw [search, either, ← topLevel, ← inner]
  constructor
  · split
    · next top => simp [top]
    · next other => split <;> simp [other]
  · split
    · next top => simp [top]
    · split <;> simp [*]

end Shows

/-- What is found of a list without duplicates is one value exactly when it comes
from one of its members and nothing comes from the others. -/
theorem filterMap_eq_singleton {α β : Type} {f : α → Option β} {xs : List α} {y : β}
    (distinct : xs.Nodup) :
    xs.filterMap f = [y] ↔ ∃ x ∈ xs, f x = some y ∧ ∀ other ∈ xs, (f other).isSome → other = x := by
  constructor
  · intro one
    obtain ⟨front, x, back, rfl, before, here, after⟩ := List.filterMap_eq_cons_iff.mp one
    refine ⟨x, List.mem_append_right _ List.mem_cons_self, here, fun other mem found => ?_⟩
    rcases List.mem_append.mp mem with early | late
    · rw [before other early] at found
      cases found
    · rcases List.mem_cons.mp late with same | late
      · exact same
      · rw [List.filterMap_eq_nil_iff.mp after other late] at found
        cases found
  · rintro ⟨x, mem, here, only⟩
    obtain ⟨front, back, rfl⟩ := List.append_of_mem mem
    have apart := List.nodup_append.mp distinct
    have nothing {other : α} (own : other ∈ front ++ x :: back) (different : other ≠ x) :
        f other = none :=
      Option.not_isSome_iff_eq_none.mp fun found => different (only other own found)
    refine List.filterMap_eq_cons_iff.mpr ⟨front, x, back, rfl, fun other early => ?_, here,
      List.filterMap_eq_nil_iff.mpr fun other late => ?_⟩
    · exact nothing (List.mem_append_left _ early)
        (apart.2.2 other early x List.mem_cons_self)
    · refine nothing (List.mem_append_right _ (List.mem_cons_of_mem _ late)) ?_
      rintro rfl
      exact (List.nodup_cons.mp apart.2.1).1 late

end Synxed.Sdk
