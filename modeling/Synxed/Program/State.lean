import Synxed.Program.Runtime

/-!
Program-owned accounts: settlement namespaces and settlement records
(`state.rs`).

`writeNamespace_eq_ok` and `namespaceAuthority_eq_ok` are the two layouts'
specifications: what a fresh namespace holds, and when a byte string names an
authority.
-/

namespace Synxed.Program

open Synxed.Lib

/-- `b"settlement"`. -/
def settlementSeed : Bytes := [115, 101, 116, 116, 108, 101, 109, 101, 110, 116]

/-- `b"namespace"`. -/
def namespaceSeed : Bytes := [110, 97, 109, 101, 115, 112, 97, 99, 101]

/-- Settlement record layout: discriminator, event id, amount. -/
def settlementRecordSize : Nat := 1 + 32 + 8
def settlementRecordDiscriminator : UInt8 := 1

/-- Namespace layout: discriminator, bump, creator, namespace id, current
authority. -/
def namespaceSize : Nat := 1 + 1 + 32 + 32 + 32
def namespaceDiscriminator : UInt8 := 2
def namespaceAuthorityOffset : Nat := 66

/-! ### Addresses -/

def settlementSeeds (ns : Pubkey) (eventId : Bytes32) : List Bytes :=
  [settlementSeed, ns.val, eventId.val]

def namespaceSeeds (creator : Pubkey) (namespaceId : Bytes32) : List Bytes :=
  [namespaceSeed, creator.val, namespaceId.val]

/-- Address of the record that marks `eventId` as settled in `ns`. -/
def settlementPda (A : ProgramAddresses) (programId ns : Pubkey) (eventId : Bytes32) :
    Pubkey × UInt8 :=
  A.find programId (settlementSeeds ns eventId)

/-- Address of the namespace `creator` opened under `namespaceId`. -/
def namespacePda (A : ProgramAddresses) (programId creator : Pubkey) (namespaceId : Bytes32) :
    Pubkey × UInt8 :=
  A.find programId (namespaceSeeds creator namespaceId)

/-- The concatenated seeds of a record and of a namespace differ in length, so
they are never the same bytes. -/
theorem settlementSeeds_ne_namespaceSeeds (ns creator : Pubkey) (eventId id : Bytes32) :
    (settlementSeeds ns eventId).flatten ≠ (namespaceSeeds creator id).flatten := by
  intro same
  have lengths := congrArg List.length same
  simp [settlementSeeds, namespaceSeeds, settlementSeed, namespaceSeed, ns.property,
    creator.property, eventId.property, id.property] at lengths

/-- Two records with the same concatenated seeds are the same event in the
same namespace. -/
theorem settlementSeeds_injective {ns ns' : Pubkey} {eventId eventId' : Bytes32}
    (same : (settlementSeeds ns eventId).flatten = (settlementSeeds ns' eventId').flatten) :
    ns = ns' ∧ eventId = eventId' := by
  simp only [settlementSeeds, List.flatten_cons, List.flatten_nil, List.append_nil,
    List.append_cancel_left_eq] at same
  obtain ⟨sameNs, sameEvent⟩ :=
    List.append_inj same (by rw [ns.property, ns'.property])
  exact ⟨Subtype.ext sameNs, Subtype.ext sameEvent⟩

/-- Two namespaces with the same concatenated seeds have the same creator and
id. -/
theorem namespaceSeeds_injective {creator creator' : Pubkey} {namespaceId namespaceId' : Bytes32}
    (same : (namespaceSeeds creator namespaceId).flatten =
      (namespaceSeeds creator' namespaceId').flatten) :
    creator = creator' ∧ namespaceId = namespaceId' := by
  simp only [namespaceSeeds, List.flatten_cons, List.flatten_nil, List.append_nil,
    List.append_cancel_left_eq] at same
  obtain ⟨sameCreator, sameId⟩ :=
    List.append_inj same (by rw [creator.property, creator'.property])
  exact ⟨Subtype.ext sameCreator, Subtype.ext sameId⟩

/-! ### Layouts -/

/-- `data[i] = byte`. -/
def setAt (data : Bytes) (i : Nat) (byte : UInt8) : Except Fault Bytes :=
  if i < data.length then .ok (data.set i byte) else .error .panic

/-- A namespace account's 98 bytes. -/
def namespaceData (bump : UInt8) (creator : Pubkey) (namespaceId : Bytes32)
    (authority : Pubkey) : Bytes :=
  namespaceDiscriminator :: bump :: (creator.val ++ (namespaceId.val ++ authority.val))

/-- A settlement record's 41 bytes. -/
def recordData (eventId : Bytes32) (amount : UInt64) : Bytes :=
  settlementRecordDiscriminator :: (eventId.val ++ u64Bytes amount)

@[simp] theorem length_recordData (eventId : Bytes32) (amount : UInt64) :
    (recordData eventId amount).length = settlementRecordSize := by
  simp [recordData, settlementRecordSize, eventId.property]

@[simp] theorem length_namespaceData (bump : UInt8) (creator : Pubkey) (namespaceId : Bytes32)
    (authority : Pubkey) :
    (namespaceData bump creator namespaceId authority).length = namespaceSize := by
  simp [namespaceData, namespaceSize, creator.property, namespaceId.property, authority.property]

/-- Serialize a new namespace account. -/
def writeNamespace (data : Bytes) (bump : UInt8) (creator : Pubkey) (namespaceId : Bytes32)
    (authority : Pubkey) : Except Fault Bytes := do
  ensure (data.length = namespaceSize) (.program .invalidAccountData)
  let data ← setAt data 0 namespaceDiscriminator
  let data ← setAt data 1 bump
  let data ← copyInto data 2 34 creator.val
  let data ← copyInto data 34 66 namespaceId.val
  copyInto data namespaceAuthorityOffset namespaceSize authority.val

/-- Fill a fresh record account (the last lines of `create_record`). -/
def writeRecord (data : Bytes) (eventId : Bytes32) (amount : UInt64) : Except Fault Bytes := do
  let data ← setAt data 0 settlementRecordDiscriminator
  let data ← copyInto data 1 33 eventId.val
  copyInto data 33 41 (u64Bytes amount)

/-- The current authority stored in a namespace account's data. -/
def namespaceAuthority (data : Bytes) : Except Fault Pubkey := do
  ensure (data.length = namespaceSize ∧ data[0]? = some namespaceDiscriminator)
    (.program .invalidAccountData)
  read32 (← sliceAt data namespaceAuthorityOffset namespaceSize)

/-- Copying over the middle of a byte string of known parts. -/
theorem copyInto_middle (front old back src : Bytes) (lo hi : Nat) (hlo : front.length = lo)
    (hhi : lo + old.length = hi) (fills : src.length = old.length) :
    copyInto (front ++ (old ++ back)) lo hi src = .ok (front ++ (src ++ back)) := by
  subst hlo hhi
  rw [copyInto_eq_ok, copySlice_eq_some]
  refine ⟨⟨by omega, by simp, by omega⟩, ?_⟩
  have tail : (front ++ (old ++ back)).drop (front.length + old.length) = back := by
    rw [← List.append_assoc]
    exact List.drop_left' (by simp)
  rw [List.take_left' rfl, tail]

theorem writeNamespace_eq_ok {data out : Bytes} {bump : UInt8} {creator : Pubkey}
    {namespaceId : Bytes32} {authority : Pubkey} :
    writeNamespace data bump creator namespaceId authority = .ok out ↔
      data.length = namespaceSize ∧ out = namespaceData bump creator namespaceId authority := by
  unfold writeNamespace
  rw [ensure_bind_eq_ok]
  refine and_congr_right fun length => ?_
  match data, length with
  | b0 :: b1 :: rest, length =>
      have restLength : rest.length = 96 := by simpa [namespaceSize] using length
      obtain ⟨a, tail, rfl, aLength, tailLength⟩ :=
        exists_append_of_le rest 32 (by omega)
      obtain ⟨b, c, rfl, bLength, cLength⟩ :=
        exists_append_of_le tail 32 (by omega)
      have one := copyInto_middle [namespaceDiscriminator, bump] a (b ++ c) creator.val 2 34 rfl (by omega)
        (by rw [creator.property, aLength])
      have two := copyInto_middle ([namespaceDiscriminator, bump] ++ creator.val) b c
        namespaceId.val 34 66
        (by simp [creator.property]) (by omega) (by rw [namespaceId.property, bLength])
      have three := copyInto_middle
        ([namespaceDiscriminator, bump] ++ (creator.val ++ namespaceId.val)) c []
        authority.val namespaceAuthorityOffset namespaceSize
        (by simp [creator.property, namespaceId.property, namespaceAuthorityOffset])
        (by simp only [namespaceAuthorityOffset, namespaceSize]; omega)
        (by rw [authority.property]; omega)
      simp only [setAt, List.set_cons_zero, List.set_cons_succ, List.length_cons, Nat.zero_lt_succ,
        Nat.succ_lt_succ_iff, if_true, ok_bind]
      simp only [List.cons_append, List.nil_append, List.append_assoc, List.append_nil] at one two three
      rw [one, ok_bind, two, ok_bind, three]
      simp only [namespaceData, Except.ok.injEq, eq_comm]

theorem writeRecord_replicate (eventId : Bytes32) (amount : UInt64) :
    writeRecord (List.replicate settlementRecordSize 0) eventId amount =
      .ok (recordData eventId amount) := by
  have one := copyInto_middle [settlementRecordDiscriminator] (List.replicate 32 0)
    (List.replicate 8 0) eventId.val 1 33 rfl (by simp) (by simp [eventId.property])
  have two := copyInto_middle ([settlementRecordDiscriminator] ++ eventId.val)
    (List.replicate 8 0) [] (u64Bytes amount) 33 41
    (by simp [eventId.property]) (by simp) (by simp)
  have start : setAt (List.replicate settlementRecordSize 0) 0 settlementRecordDiscriminator =
      .ok ([settlementRecordDiscriminator] ++ (List.replicate 32 0 ++ List.replicate 8 0)) := rfl
  simp only [List.cons_append, List.nil_append, List.append_nil] at one two start
  rw [writeRecord, start, ok_bind, one, ok_bind, two, recordData]

theorem namespaceAuthority_eq_ok {data : Bytes} {authority : Pubkey} :
    namespaceAuthority data = .ok authority ↔
      (data.length = namespaceSize ∧ data[0]? = some namespaceDiscriminator) ∧
        data.drop namespaceAuthorityOffset = authority.val := by
  unfold namespaceAuthority
  rw [ensure_bind_eq_ok]
  refine and_congr_right fun ⟨length, _⟩ => ?_
  have sliced : slice data namespaceAuthorityOffset namespaceSize =
      some (data.drop namespaceAuthorityOffset) := by
    rw [slice_eq_some, List.take_of_length_le length.le]
    exact ⟨⟨by decide, length.ge⟩, rfl⟩
  have tailLength : (data.drop namespaceAuthorityOffset).length = 32 := by
    rw [List.length_drop, length]
    rfl
  simp only [bind_eq_ok, sliceAt_eq_ok, sliced, Option.some.injEq, exists_eq_left', read32_eq_ok,
    List.take_of_length_le tailLength.le, tailLength, le_refl, true_and]

@[simp] theorem namespaceAuthority_namespaceData (bump : UInt8) (creator : Pubkey)
    (namespaceId : Bytes32) (authority : Pubkey) :
    namespaceAuthority (namespaceData bump creator namespaceId authority) = .ok authority := by
  rw [namespaceAuthority_eq_ok]
  refine ⟨⟨length_namespaceData _ _ _ _, rfl⟩, ?_⟩
  have front : namespaceData bump creator namespaceId authority =
      (namespaceDiscriminator :: bump :: (creator.val ++ namespaceId.val)) ++ authority.val := by
    simp [namespaceData]
  rw [front]
  exact List.drop_left' (by
    simp [creator.property, namespaceId.property, namespaceAuthorityOffset])

/-- A record never reads as a namespace. -/
theorem namespaceAuthority_ne_ok_of_length {data : Bytes} (h : data.length ≠ namespaceSize)
    (authority : Pubkey) : namespaceAuthority data ≠ .ok authority := fun ok =>
  h (namespaceAuthority_eq_ok.mp ok).1.1

end Synxed.Program
