import Synxed.Lib.Interpret
import Synxed.Sdk.Search

/-!
An endpoint that serves an archive, behind any connection.

* `findCreatingTransaction_interpret`: the search for a record's creator asks a
  connection what it asks a node.
* `safe_search`: so it ends as it does on the archive's plain node.
* `safe_reconcileShown`: a settlement that the endpoint shows reconciles as the shown
  transaction does.
-/

namespace Synxed.Sdk

open Synxed.Lib Synxed.Program

variable {Op : Type} {Reply : Op → Type} {H : Host} {connection : Connection Op Reply}

/-! ### The search, operation by operation -/

/-- Every request of a node is made over the connection. -/
abbrev Connection.over (connection : Connection Op Reply) {α : Type}
    (program : Interaction Rpc Rpc.Answer Thrown α) : Interaction Op Reply Thrown α :=
  program.interpret connection.request

theorem fetchMissing_interpret : ∀ (signatures : List JsString)
    (found : List (JsString × ParsedTransaction)),
    fetchMissing connection signatures found =
      connection.over (fetchMissing nodeConnection signatures found)
  | [], _ => rfl
  | signature :: rest, found => by
      have later := fetchMissing_interpret rest
      unfold fetchMissing
      split
      · exact later found
      · have single : (try connection.request (.getParsedTransaction signature)
            catch error => throw (.ledger ⟨.RECORD_HISTORY,
              js "could not read finalized transaction " ++ signature ++
                js " from the record's history: " ++ error.message⟩)) =
            connection.over (try nodeConnection.request (.getParsedTransaction signature)
              catch error => throw (.ledger ⟨.RECORD_HISTORY,
                js "could not read finalized transaction " ++ signature ++
                  js " from the record's history: " ++ error.message⟩)) := by
          rw [Connection.over, Interaction.interpret_tryCatch]
          exact congrArg (fun asked => MonadExcept.tryCatch asked _)
            (Interaction.interpret_perform connection.request _).symm
        rw [Connection.over, Interaction.interpret_bind, single]
        refine congrArg (_ >>= ·) (funext fun transaction => ?_)
        cases transaction with
        | some transaction => exact later _
        | none => exact later found

theorem fetchFinalized_interpret (signatures : List JsString) :
    fetchFinalized connection signatures = connection.over (fetchFinalized nodeConnection signatures) := by
  have batch : (try connection.request (.getParsedTransactions signatures) catch _ => pure []) =
      connection.over (try nodeConnection.request (.getParsedTransactions signatures)
        catch _ => pure []) := by
    rw [Connection.over, Interaction.interpret_tryCatch]
    exact congrArg (fun asked => MonadExcept.tryCatch asked _)
      (Interaction.interpret_perform connection.request _).symm
  unfold fetchFinalized
  rw [Connection.over, Interaction.interpret_bind, batch]
  exact congrArg (_ >>= ·) (funext fun found => fetchMissing_interpret _ _)

theorem settlementsOfPage_interpret (programId : Pubkey) (settles : SettlesEvent)
    (signatures : List JsString) :
    settlementsOfPage connection programId settles signatures =
      connection.over (settlementsOfPage nodeConnection programId settles signatures) := by
  unfold settlementsOfPage
  rw [Connection.over, Interaction.interpret_bind, Interaction.interpret_each]
  have one (batch : List JsString) : (do
      let found ← fetchFinalized connection batch
      Interaction.ofExcept (settlementsIn programId settles found batch)) =
        connection.over (do
          let found ← fetchFinalized nodeConnection batch
          Interaction.ofExcept (settlementsIn programId settles found batch)) := by
    rw [Connection.over, Interaction.interpret_bind, fetchFinalized_interpret]
    exact congrArg (_ >>= ·) (funext fun _ => (Interaction.interpret_ofExcept _ _).symm)
  rw [funext one]
  rfl

theorem readHistory_interpret (record programId : Pubkey) (settles : SettlesEvent)
    (maxSignatures pages read : Nat) (before : Option JsString) :
    readHistory connection record programId settles maxSignatures pages read before =
      connection.over (readHistory nodeConnection record programId settles maxSignatures pages read
        before) := by
  induction pages generalizing read before with
  | zero => rfl
  | succ pages ih =>
      have asked : connection.request
          (.getSignaturesForAddress record (min 1000 (maxSignatures - read)) before) =
            connection.over (nodeConnection.request
              (.getSignaturesForAddress record (min 1000 (maxSignatures - read)) before)) :=
        (Interaction.interpret_perform connection.request _).symm
      unfold readHistory
      dsimp only
      rw [Connection.over, Interaction.interpret_bind, asked]
      refine congrArg (_ >>= ·) (funext fun page => ?_)
      rw [Interaction.interpret_bind, settlementsOfPage_interpret]
      refine congrArg (_ >>= ·) (funext fun found => ?_)
      split
      · rfl
      · split
        · rfl
        · rw [Interaction.interpret_bind, ih]
          rfl

theorem findCreatingTransaction_interpret (record programId : Pubkey) (settles : SettlesEvent)
    (maxSignatures : Nat) :
    findCreatingTransaction connection record programId settles maxSignatures =
      connection.over (findCreatingTransaction nodeConnection record programId settles maxSignatures) := by
  unfold findCreatingTransaction
  rw [Connection.over, Interaction.interpret_bind, Interaction.interpret_ofExcept]
  refine congrArg (_ >>= ·) (funext fun _ => ?_)
  rw [Interaction.interpret_bind, readHistory_interpret]
  refine congrArg (_ >>= ·) (funext fun found => ?_)
  split <;> rfl

/-! ### An endpoint that serves an archive -/

section Serves

variable {W : Type} {step : W → (op : Op) → Except Thrown (Reply op) → W → Prop}
  {guard : W → Op → Prop} {archive : Archive} {inv : W → Prop} {w : W}

/-- The search ends as it does on the plain node. -/
theorem safe_search
    (served : ∀ call w, inv w → Interaction.Safe step guard (connection.request call)
      (fun answer w' => archive.Answers call (.ok answer) ∧ inv w')
      (fun error w' => archive.Answers call (.error error) ∧ inv w') w)
    (record programId : Pubkey) (settles : SettlesEvent) (maxSignatures : Nat) (holds : inv w) :
    Interaction.Safe step guard
      (findCreatingTransaction connection record programId settles maxSignatures)
      (fun created w' => (findCreatingTransaction nodeConnection record programId settles
        maxSignatures).runWith archive.plain = .ok created ∧ inv w')
      (fun error w' => (findCreatingTransaction nodeConnection record programId settles
        maxSignatures).runWith archive.plain = .error error ∧ inv w') w := by
  rw [findCreatingTransaction_interpret]
  exact Interaction.Safe.interpret
    (fixed_findCreatingTransaction record programId settles maxSignatures) served holds

variable {options : ReconcileSettlementNOptions} {shown : ParsedTransaction}

/-- A settlement reconciles as the transaction that the endpoint shows for it. -/
theorem safe_reconcileShown
    (timed : 0 < options.finalityTimeoutMs.getD 60000 ∧ 0 < options.pollIntervalMs.getD 1000)
    (genesis : ∀ w, inv w → Interaction.Safe step guard (connection.request .getGenesisHash)
      (fun hash w' => hash = GENESIS_HASHES options.cluster ∧ inv w') (fun _ _ => False) w)
    (polls : ∀ w, inv w → Interaction.Safe step guard connection.polls (fun _ => inv)
      (fun _ _ => False) w)
    (told : ∀ w, inv w → Interaction.Safe step guard
      (connection.request (.getParsedTransaction options.signature))
      (fun found w' => found = some shown ∧ inv w') (fun _ _ => False) w)
    (holds : inv w) :
    Interaction.Safe step guard (reconcileSettlementN H connection options)
      (fun reconciliation w' => reconcileTransaction H options shown = .ok reconciliation ∧ inv w')
      (fun error w' => reconcileTransaction H options shown = .error error ∧ inv w') w := by
  have failing {α : Type} {program : Interaction Op Reply Thrown α} {post : α → W → Prop} {w : W}
      (safe : Interaction.Safe step guard program post (fun _ _ => False) w) :
      Interaction.Safe step guard program post
        (fun error w' => reconcileTransaction H options shown = .error error ∧ inv w') w :=
    safe.mono (fun _ _ ended => ended) fun _ _ failed => failed.elim
  have awaited (polls : Nat) {w : W} (holds : inv w) : Interaction.Safe step guard
      (awaitTransaction connection options.signature polls)
      (fun found w' => found = some shown ∧ inv w') (fun _ _ => False) w := by
    cases polls with
    | zero => exact told w holds
    | succ polls =>
        refine Interaction.Safe.bind (told w holds) fun found w' both => ?_
        obtain ⟨rfl, holds⟩ := both
        exact ⟨rfl, holds⟩
  unfold reconcileSettlementN
  rw [ensure, if_pos timed]
  have checked : Interaction.Safe step guard (.ofExcept (.ok ())) (fun _ => inv)
      (fun error w' => reconcileTransaction H options shown = .error error ∧ inv w') w := holds
  refine Interaction.Safe.bind checked fun _ w holds => ?_
  have named : Interaction.Safe step guard (assertLedgerCluster connection options.cluster)
      (fun _ => inv)
      (fun error w' => reconcileTransaction H options shown = .error error ∧ inv w') w := by
    refine Interaction.Safe.bind (failing (genesis w holds)) fun hash w both => ?_
    rw [ensure, if_pos both.1]
    exact both.2
  refine Interaction.Safe.bind named fun _ w holds => ?_
  refine Interaction.Safe.bind (failing (polls w holds)) fun polls w holds => ?_
  refine Interaction.Safe.bind (failing (awaited polls holds)) fun found w both => ?_
  obtain ⟨rfl, holds⟩ := both
  exact Interaction.safe_ofExcept.mpr ⟨fun _ same => ⟨same, holds⟩, fun _ same => ⟨same, holds⟩⟩

end Serves

end Synxed.Sdk
