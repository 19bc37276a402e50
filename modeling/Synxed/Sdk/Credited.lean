import Synxed.Sdk.Copies
import Synxed.Sdk.Pool

/-!
What the rows of one reconciled settlement say that its shares were paid.

* `creditedShares`: the shares that are credited at once, each with what it is paid.
* `directEntries_of_reconciled`: the direct entries are theirs.
* `AccountsFor.sum_rows`: direct entries and pool payouts add up to the amount on chain.
* `pairwise_entries_iff`: entries with the id of one before them have no amount exactly
  when no share that was paid something clashes with one before it.
-/

namespace Synxed.Sdk

open Synxed.Lib Synxed.Program

variable {H : Host} {observation observation' : ProgramSettlementObservation}
  {options options' : ReconcileObservedSettlementNOptions} {rows rows' : SettlementReconciliation}
  {amount : UInt64} {bps : List UInt16}

/-! ### The texts of rows -/

theorem toWellFormed_bigintText (n : Int) : toWellFormed (bigintText n) = bigintText n := by
  refine toWellFormed_of_lt fun u mem => ?_
  unfold bigintText at mem
  split at mem
  · rcases List.mem_cons.mp mem with rfl | digit
    · decide
    · have := (mem_decimalText digit).2
      omega
  · have := (mem_decimalText mem).2
    omega

theorem toWellFormed_hexText (bytes : Bytes) : toWellFormed (hexText bytes) = hexText bytes := by
  have small (n : Nat) (digit : n < 16) : (hexDigit n).toNat < 0xD800 := by
    unfold hexDigit
    rw [UInt16.toNat_ofNat']
    split <;> omega
  refine toWellFormed_of_lt fun u mem => ?_
  obtain ⟨byte, _, inside⟩ := List.mem_flatMap.mp mem
  have := byte.toNat_lt
  rcases List.mem_cons.mp inside with rfl | later
  · exact small _ (by omega)
  · rw [List.mem_singleton.mp later]
    exact small _ (by omega)

/-- A member has one text. -/
theorem hasText_unique {value : Json} {key text text' : JsString} (has : value.hasText key text)
    (has' : value.hasText key text') : text = text' := by
  unfold Json.hasText at has has'
  split at has
  · next found read =>
      rw [read] at has'
      exact (of_decide_eq_true has).symm.trans (of_decide_eq_true has')
  · cases has

/-! ### Credits -/

variable (H) in
/-- The shares that are credited at once, each with what it is paid of `amounts`. -/
def creditedShares (beneficiary : ShareInput → Option PropertyValue) (shares : List ShareInput)
    (amounts : List Nat) : List (Credit × Nat) :=
  (shares.zip amounts).filterMap fun paid =>
    (beneficiary paid.1).map fun id => (⟨paid.1.label, propertyText H id⟩, paid.2)

/-- What a ledger row says: its id and its amount. -/
def LedgerEntry.credited (entry : LedgerEntry) : JsString × Nat :=
  (entry.entryId, amountOf entry.amountOnChain)

theorem directEntries_payoutLines {shares : List ShareInput} {amounts : List Nat}
    {destinations : List JsString} {beneficiary : ShareInput → Option PropertyValue}
    {signature : JsString} (enough : destinations.length = shares.length) :
    ((payoutLines shares (amounts.map Int.ofNat) destinations beneficiary).filterMap
        (directEntry H signature)).map LedgerEntry.credited =
      (creditedShares H beneficiary shares amounts).map fun paid =>
        (paid.1.entryId H signature, paid.2) := by
  induction shares generalizing amounts destinations with
  | nil => rfl
  | cons share rest ih =>
      cases amounts with
      | nil => rfl
      | cons amount amounts =>
          cases destinations with
          | nil => cases enough
          | cons destination destinations =>
              have tail := @ih amounts destinations (by simpa using enough)
              simp only [payoutLines, creditedShares, List.map_cons, List.zip_cons_cons] at tail ⊢
              cases id : beneficiary share with
              | none =>
                  rw [List.filterMap_cons_none (by rfl), List.filterMap_cons_none (by simp only [id]; rfl)]
                  exact tail
              | some id' =>
                  rw [List.filterMap_cons_some (by rfl), List.filterMap_cons_some (by simp only [id]; rfl),
                    List.map_cons, List.map_cons, tail]
                  refine congrArg (· :: _) (Prod.ext rfl ?_)
                  exact amountOf_bigintText amount

/-- The direct entries of a settlement are those of its shares. -/
theorem directEntries_of_reconciled
    (reconciled : reconcileObservedSettlementN H observation options = .ok rows)
    (total : (amount.toNat : Int) = options.request.amountAtomic * options.unitsPerAtomicUnit)
    (sameBps : options.request.shares.map ShareInput.bps = bps.map shareNumber) :
    rows.directEntries.map LedgerEntry.credited =
      (creditedShares H (beneficiaryOf options.pooledLabels options.beneficiaryIds)
        options.request.shares (payoutsOf amount bps)).map fun paid =>
          (paid.1.entryId H observation.signature, paid.2) := by
  obtain ⟨amounts, time, found, _, rfl⟩ := reconcileObservedSettlementN_eq_ok.mp reconciled
  have numbers := found.bps
  simp only [sameNumbers, decide_eq_true_eq] at numbers
  have compared : sameNumbers (bps.map shareNumber) (options.request.shares.map ShareInput.bps) := by
    rw [← sameBps, ← numbers.1]
    exact decide_eq_true ⟨rfl, numbers.2⟩
  obtain ⟨_, rfl⟩ := payouts_of_request total compared found.split
  exact directEntries_payoutLines (List.length_map _)

/-- The texts of direct entries are plain. -/
theorem plain_directEntries
    (reconciled : reconcileObservedSettlementN H observation options = .ok rows) :
    ∀ entry ∈ rows.directEntries, toWellFormed entry.entryId = entry.entryId ∧
      toWellFormed entry.amountOnChain = entry.amountOnChain := by
  obtain ⟨amounts, time, _, _, rfl⟩ := reconcileObservedSettlementN_eq_ok.mp reconciled
  intro entry mem
  obtain ⟨line, inLines, isEntry⟩ := List.mem_filterMap.mp mem
  obtain ⟨id, _, rfl⟩ := Option.map_eq_some_iff.mp isEntry
  obtain ⟨paid, _, rfl⟩ := List.mem_map.mp inLines
  exact ⟨toWellFormed_hexText _, toWellFormed_bigintText _⟩

/-- Two pooled shares have different roles, where one label is pooled. -/
theorem nodup_poolPayouts {label : JsString} (pooled : options.pooledLabels = [label])
    (reconciled : reconcileObservedSettlementN H observation options = .ok rows) :
    (rows.poolPayouts.map fun payout => toWellFormed payout.role).Nodup := by
  have evidence : (Evidence.native observation options).reconcile H = .ok rows := reconciled
  obtain ⟨record, rfl, _, ⟨result, computed⟩, lines⟩ := Evidence.reconcile_ok evidence
  have labels : (options.request.shares.map ShareInput.label).Nodup := labels_nodup computed
  have one : ((options.request.shares.filter fun share =>
      ((Evidence.native observation options).beneficiary share).isNone).map ShareInput.label).Nodup :=
    labels.sublist (List.filter_sublist.map _)
  have all : ∀ named ∈ (options.request.shares.filter fun share =>
      ((Evidence.native observation options).beneficiary share).isNone).map ShareInput.label,
        named = label := by
    intro named mem
    obtain ⟨share, inside, rfl⟩ := List.mem_map.mp mem
    have isPooled := (List.mem_filter.mp inside).2
    change (beneficiaryOf options.pooledLabels options.beneficiaryIds share).isNone at isPooled
    unfold beneficiaryOf at isPooled
    split at isPooled
    · next held =>
        rw [pooled] at held
        exact List.mem_singleton.mp held
    · cases isPooled
  have short : (reconciliationOf H record).poolPayouts.length ≤ 1 := by
    have roles := congrArg List.length (pooled_roles (H := H) lines)
    rw [List.length_map, List.length_map, ← List.length_map (f := ShareInput.label)] at roles
    have only := one.subperm fun named mem => List.mem_singleton.mpr (all named mem)
    rw [roles]
    exact only.length_le
  cases payouts : (reconciliationOf H record).poolPayouts with
  | nil => exact List.nodup_nil
  | cons payout rest =>
      rw [payouts, List.length_cons] at short
      rw [List.length_eq_zero_iff.mp (by omega : rest.length = 0)]
      exact List.nodup_singleton _

/-! ### Totals -/

/-- What direct entries and pool payouts pay, in all. -/
def SettlementReconciliation.paid (rows : SettlementReconciliation) : Nat :=
  (rows.directEntries.map fun entry => amountOf entry.amountOnChain).sum +
    (rows.poolPayouts.map fun payout => amountOf payout.amountOnChain).sum

/-- Direct entries and pool payouts add up to the amount on chain. -/
theorem AccountsFor.sum_rows {request : SettlementRequestN}
    (accounts : AccountsFor rows request amount bps) : rows.paid = amount.toNat := by
  obtain ⟨direct, perm, entries, _⟩ := accounts.partition
  have texts : rows.directEntries.map LedgerEntry.amountOnChain =
      direct.map PayoutLine.amountOnChain := by
    rw [← List.forall₂_eq_eq_eq, List.forall₂_map_left_iff, List.forall₂_map_right_iff]
    exact entries.imp fun _ _ agree => agree.2.2.2
  have same : (rows.directEntries.map fun entry => amountOf entry.amountOnChain) =
      direct.map fun line => amountOf line.amountOnChain := by
    have amounts := congrArg (List.map amountOf) texts
    rwa [List.map_map, List.map_map] at amounts
  calc rows.paid
      = ((direct ++ rows.poolPayouts).map fun line => amountOf line.amountOnChain).sum := by
        rw [SettlementReconciliation.paid, same, List.map_append, List.sum_append]
    _ = (rows.record.payouts.map fun line => amountOf line.amountOnChain).sum :=
        (perm.map _).sum_eq
    _ = amount.toNat := by
        rw [← accounts.total, paidBy, List.map_map]
        rfl

/-! ### What may be lost -/

/-- Under base58 signatures, two credits have one entry id exactly when they clash in one
settlement, where the hash does not collide on them. -/
theorem Credit.entryId_inj {texts : Set Bytes} (hashes : Set.InjOn H.sha256 texts)
    {bytes bytes' : Bytes} {credit other : Credit} (mem : credit.hashed (base58Encode bytes) ∈ texts)
    (mem' : other.hashed (base58Encode bytes') ∈ texts) :
    credit.entryId H (base58Encode bytes) = other.entryId H (base58Encode bytes') ↔
      base58Encode bytes = base58Encode bytes' ∧ credit.Clash other := by
  rw [← Credit.hashed_inj]
  constructor
  · intro same
    exact hashes mem mem' (Subtype.ext (hexText_injective same))
  · intro same
    exact congrArg (fun bytes => hexText (H.sha256 bytes).val) same

/-- No share that was paid something clashes with one before it. -/
def Lossless (credited : List (Credit × Nat)) : Prop :=
  credited.Pairwise fun paid later => paid.1.Clash later.1 → later.2 = 0

instance : DecidablePred Lossless := fun _ => inferInstanceAs (Decidable (List.Pairwise _ _))

/-- The labels `synxed` and `platform` are booked under one role. -/
example : ¬ Lossless [(⟨js "synxed", js "org:1"⟩, 500), (⟨js "platform", js "org:1"⟩, 501)] := by
  decide +kernel

/-- Entries with the id of one before them have no amount exactly when no share that was
paid something clashes with one before it. -/
theorem pairwise_entries_iff {texts : Set Bytes} (hashes : Set.InjOn H.sha256 texts) {bytes : Bytes}
    {entries : List LedgerEntry} {credited : List (Credit × Nat)}
    (same : entries.map LedgerEntry.credited =
      credited.map fun paid => (paid.1.entryId H (base58Encode bytes), paid.2))
    (inside : ∀ paid ∈ credited, paid.1.hashed (base58Encode bytes) ∈ texts) :
    (entries.Pairwise fun entry later =>
        entry.entryId = later.entryId → amountOf later.amountOnChain = 0) ↔ Lossless credited := by
  have told : (entries.map LedgerEntry.credited).Pairwise (fun paid later =>
      paid.1 = later.1 → later.2 = 0) ↔ Lossless credited := by
    rw [same, List.pairwise_map, Lossless]
    refine List.Pairwise.iff_of_mem fun {paid later} mem mem' => ?_
    have ids := Credit.entryId_inj hashes (inside paid mem) (inside later mem')
    rw [and_iff_right rfl] at ids
    rw [ids]
  rwa [List.pairwise_map] at told

end Synxed.Sdk
