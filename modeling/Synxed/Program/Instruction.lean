import Synxed.Lib.Bytes
import Synxed.Program.Split

/-!
The program's instructions and their byte format (`instruction.rs`).

`pack` and `unpack` follow the source, slice by slice. `unpack_eq_ok` is their
specification: a byte string decodes to an instruction exactly when it is that
instruction's encoding and the instruction carries between 1 and `maxShares`
shares (if it is a settlement at all).
-/

namespace Synxed.Program

open Synxed.Lib

/-- A public key: 32 bytes. -/
abbrev Pubkey := Bytes32

/-- `Pubkey::default()`, also the system program's id. -/
def defaultPubkey : Pubkey := Bytes32.fill 0

/-- The `ProgramError` variants the program and its parsers return. -/
inductive ProgramError where
  | invalidInstructionData
  | invalidArgument
  | invalidAccountData
  | invalidSeeds
  | incorrectProgramId
  | incorrectAuthority
  | illegalOwner
  | missingRequiredSignature
  | notEnoughAccountKeys
  | accountAlreadyInitialized
  | uninitializedAccount
  deriving DecidableEq, Repr

/-- How an instruction can fail to succeed: an error it returns, a failed
cross-program invocation (which aborts the transaction), or a panic. -/
inductive Fault where
  | program (error : ProgramError)
  | invoke
  | panic
  deriving DecidableEq, Repr

/-! ### Indexing that panics out of range -/

/-- `&data[lo..hi]`. -/
def sliceAt (data : Bytes) (lo hi : Nat) : Except Fault Bytes :=
  match slice data lo hi with
  | some out => .ok out
  | none => .error .panic

/-- `xs[i]`. -/
def indexAt {α : Type} (xs : List α) (i : Nat) : Except Fault α :=
  match xs[i]? with
  | some x => .ok x
  | none => .error .panic

/-- `data[lo..hi].copy_from_slice(src)`. -/
def copyInto (data : Bytes) (lo hi : Nat) (src : Bytes) : Except Fault Bytes :=
  match copySlice data lo hi src with
  | some out => .ok out
  | none => .error .panic

theorem sliceAt_eq_ok {data out : Bytes} {lo hi : Nat} :
    sliceAt data lo hi = .ok out ↔ slice data lo hi = some out := by
  unfold sliceAt
  cases slice data lo hi <;> simp

theorem indexAt_eq_ok {α : Type} {xs : List α} {i : Nat} {x : α} :
    indexAt xs i = .ok x ↔ xs[i]? = some x := by
  unfold indexAt
  cases xs[i]? <;> simp

theorem copyInto_eq_ok {data src out : Bytes} {lo hi : Nat} :
    copyInto data lo hi src = .ok out ↔ copySlice data lo hi src = some out := by
  unfold copyInto
  cases copySlice data lo hi src <;> simp

/-! ### Instructions -/

/-- Retired tags: the original `Settle`, `SettleN`, and `SettleTokenN`. -/
def retiredTags : List UInt8 := [0, 1, 2]
def createNamespaceTag : UInt8 := 3
def setNamespaceAuthorityTag : UInt8 := 4
def settleNTag : UInt8 := 5
def settleTokenNTag : UInt8 := 6

def createNamespaceLen : Nat := 32 + 32
def setNamespaceAuthorityLen : Nat := 32
/-- `SettleN` payload before the bps list: event_id + amount + share count. -/
def settleNHeaderLen : Nat := 32 + 8 + 1
/-- `SettleTokenN` payload before the bps list: event_id + amount + decimals +
share count. -/
def settleTokenNHeaderLen : Nat := 32 + 8 + 1 + 1

inductive SettlementInstruction where
  | createNamespace (namespaceId : Bytes32) (authority : Pubkey)
  | setNamespaceAuthority (newAuthority : Pubkey)
  | settleN (eventId : Bytes32) (amount : UInt64) (bps : List UInt16)
  | settleTokenN (eventId : Bytes32) (amount : UInt64) (decimals : UInt8) (bps : List UInt16)
  deriving DecidableEq

/-- `u64::to_le_bytes`. -/
def u64Bytes (n : UInt64) : Bytes := leBytes 8 n.toNat

/-- `u16::to_le_bytes`, for each share. -/
def bpsBytes (bps : List UInt16) : Bytes := bps.flatMap fun share => leBytes 2 share.toNat

@[simp] theorem length_u64Bytes (n : UInt64) : (u64Bytes n).length = 8 := by simp [u64Bytes]

@[simp] theorem length_bpsBytes (bps : List UInt16) : (bpsBytes bps).length = 2 * bps.length := by
  induction bps with
  | nil => rfl
  | cons share rest ih =>
      simp only [bpsBytes, List.flatMap_cons, List.length_append, length_leBytes,
        List.length_cons] at ih ⊢
      omega

namespace SettlementInstruction

def pack : SettlementInstruction → Bytes
  | createNamespace namespaceId authority =>
      createNamespaceTag :: (namespaceId.val ++ authority.val)
  | setNamespaceAuthority newAuthority => setNamespaceAuthorityTag :: newAuthority.val
  | settleN eventId amount bps =>
      -- `bps.len() as u8` keeps the low byte of the count
      settleNTag :: (eventId.val ++ (u64Bytes amount ++ (UInt8.ofNat bps.length :: bpsBytes bps)))
  | settleTokenN eventId amount decimals bps =>
      settleTokenNTag ::
        (eventId.val ++ (u64Bytes amount ++
          (decimals :: UInt8.ofNat bps.length :: bpsBytes bps)))

end SettlementInstruction

/-- Copy 32 bytes; callers have already checked the length. -/
def read32 (bytes : Bytes) : Except Fault Bytes32 := do
  let first ← sliceAt bytes 0 32
  match Bytes32.ofBytes? first with
  | some out => .ok out
  | none => .error .panic

def readU64 (bytes : Bytes) : Except Fault UInt64 := do
  ensure (bytes.length = 8) (.program .invalidInstructionData)
  .ok (UInt64.ofNat (leValue bytes))

/-- The rest of the loop of `read_bps`, from share `i` on. -/
def readBpsFrom (bytes : Bytes) (i : Nat) : Nat → Except Fault (List UInt16)
  | 0 => .ok []
  | remaining + 1 => do
      let two ← sliceAt bytes (2 * i) (2 * i + 2)
      ensure (two.length = 2) (.program .invalidInstructionData)
      let rest ← readBpsFrom bytes (i + 1) remaining
      .ok (UInt16.ofNat (leValue two) :: rest)

def readBps (bytes : Bytes) (count : Nat) : Except Fault (List UInt16) := readBpsFrom bytes 0 count

namespace SettlementInstruction

def unpack : Bytes → Except Fault SettlementInstruction
  | [] => .error (.program .invalidInstructionData)
  | tag :: rest =>
      if tag ∈ retiredTags then .error (.program .invalidInstructionData)
      else if tag = createNamespaceTag then do
        ensure (rest.length = createNamespaceLen) (.program .invalidInstructionData)
        let namespaceId ← read32 (← sliceAt rest 0 32)
        let authority ← read32 (← sliceAt rest 32 64)
        .ok (createNamespace namespaceId authority)
      else if tag = setNamespaceAuthorityTag then do
        ensure (rest.length = setNamespaceAuthorityLen) (.program .invalidInstructionData)
        let newAuthority ← read32 rest
        .ok (setNamespaceAuthority newAuthority)
      else if tag = settleNTag then do
        ensure (¬ rest.length < settleNHeaderLen) (.program .invalidInstructionData)
        let countByte ← indexAt rest 40
        let count := countByte.toNat
        ensure (¬ (count = 0 ∨ count > maxShares ∨ rest.length ≠ settleNHeaderLen + 2 * count))
          (.program .invalidInstructionData)
        let eventId ← read32 (← sliceAt rest 0 32)
        let amount ← readU64 (← sliceAt rest 32 40)
        let bps ← readBps (← sliceAt rest settleNHeaderLen rest.length) count
        .ok (settleN eventId amount bps)
      else if tag = settleTokenNTag then do
        ensure (¬ rest.length < settleTokenNHeaderLen) (.program .invalidInstructionData)
        let countByte ← indexAt rest 41
        let count := countByte.toNat
        ensure (¬ (count = 0 ∨ count > maxShares ∨
          rest.length ≠ settleTokenNHeaderLen + 2 * count)) (.program .invalidInstructionData)
        let eventId ← read32 (← sliceAt rest 0 32)
        let amount ← readU64 (← sliceAt rest 32 40)
        let decimals ← indexAt rest 40
        let bps ← readBps (← sliceAt rest settleTokenNHeaderLen rest.length) count
        .ok (settleTokenN eventId amount decimals bps)
      else .error (.program .invalidInstructionData)

/-- The event an instruction settles and its gross amount, when it settles
one. -/
def settlement : SettlementInstruction → Option (Bytes32 × UInt64)
  | createNamespace _ _ => none
  | setNamespaceAuthority _ => none
  | settleN eventId amount _ => some (eventId, amount)
  | settleTokenN eventId amount _ _ => some (eventId, amount)

/-- The share counts the format can carry. -/
def WellFormed : SettlementInstruction → Prop
  | createNamespace _ _ => True
  | setNamespaceAuthority _ => True
  | settleN _ _ bps => bps.length ≠ 0 ∧ bps.length ≤ maxShares
  | settleTokenN _ _ _ bps => bps.length ≠ 0 ∧ bps.length ≤ maxShares

instance (v : SettlementInstruction) : Decidable v.WellFormed := by
  cases v <;> unfold WellFormed <;> infer_instance

end SettlementInstruction

/-! ### Readers -/

theorem read32_eq_ok {bytes : Bytes} {out : Bytes32} :
    read32 bytes = .ok out ↔ 32 ≤ bytes.length ∧ bytes.take 32 = out.val := by
  unfold read32
  rw [bind_eq_ok]
  constructor
  · rintro ⟨first, sliced, h⟩
    obtain ⟨⟨_, inside⟩, rfl⟩ := slice_eq_some.mp (sliceAt_eq_ok.mp sliced)
    cases h' : Bytes32.ofBytes? ((bytes.take 32).drop 0) with
    | none => rw [h'] at h; cases h
    | some b =>
        rw [h'] at h
        cases h
        exact ⟨inside, Bytes32.ofBytes?_eq_some.mp h'⟩
  · rintro ⟨inside, head⟩
    refine ⟨bytes.take 32, ?_, ?_⟩
    · rw [sliceAt_eq_ok, slice_eq_some]
      exact ⟨⟨by omega, inside⟩, rfl⟩
    · rw [head, Bytes32.ofBytes?_val]

theorem readU64_eq_ok {bytes : Bytes} {n : UInt64} :
    readU64 bytes = .ok n ↔ bytes = u64Bytes n := by
  unfold readU64
  rw [ensure_bind_eq_ok]
  constructor
  · rintro ⟨length, h⟩
    cases h
    have small : leValue bytes < 2 ^ 64 := by
      have := leValue_lt bytes
      rw [length] at this
      exact this
    have toNat : (UInt64.ofNat (leValue bytes)).toNat = leValue bytes := by
      simpa using Nat.mod_eq_of_lt small
    rw [u64Bytes, toNat, ← length, leBytes_leValue]
  · rintro rfl
    refine ⟨length_u64Bytes n, ?_⟩
    rw [u64Bytes, leValue_leBytes, Nat.mod_eq_of_lt (show n.toNat < 256 ^ 8 from n.toNat_lt),
      UInt64.ofNat_toNat]

/-- Two bytes and the `u16` they denote. -/
theorem u16_of_two_bytes {two : Bytes} (length : two.length = 2) :
    leBytes 2 (UInt16.ofNat (leValue two)).toNat = two := by
  have small : leValue two < 2 ^ 16 := by
    have := leValue_lt two
    rw [length] at this
    exact this
  have toNat : (UInt16.ofNat (leValue two)).toNat = leValue two := by
    simpa using Nat.mod_eq_of_lt small
  rw [toNat, ← length, leBytes_leValue]

theorem readBpsFrom_eq_ok {bytes : Bytes} {n : Nat} : ∀ {i : Nat} {bps : List UInt16},
    2 * (i + n) = bytes.length →
    (readBpsFrom bytes i n = .ok bps ↔ bps.length = n ∧ bytes.drop (2 * i) = bpsBytes bps) := by
  induction n with
  | zero =>
      intro i bps length
      have nothing : bytes.drop (2 * i) = [] := List.drop_eq_nil_of_le (by omega)
      simp only [readBpsFrom, Except.ok.injEq, nothing]
      constructor
      · rintro rfl
        exact ⟨rfl, rfl⟩
      · rintro ⟨empty, _⟩
        exact (List.eq_nil_of_length_eq_zero empty).symm
  | succ n ih =>
      intro i bps length
      have rest : 2 * (i + 1 + n) = bytes.length := by omega
      have cut : bytes.drop (2 * i) = (bytes.drop (2 * i)).take 2 ++ bytes.drop (2 * (i + 1)) := by
        rw [Nat.mul_add, Nat.mul_one, ← List.drop_drop, List.take_append_drop]
      have twoLength : ((bytes.drop (2 * i)).take 2).length = 2 := by
        rw [List.length_take, List.length_drop]
        omega
      have sliced : slice bytes (2 * i) (2 * i + 2) = some ((bytes.drop (2 * i)).take 2) := by
        rw [slice_eq_some, List.drop_take]
        exact ⟨⟨by omega, by omega⟩, by rw [Nat.add_sub_cancel_left]⟩
      simp only [readBpsFrom, bind_eq_ok, sliceAt_eq_ok, sliced, Option.some.injEq,
        exists_eq_left', twoLength, ensure_eq_ok, true_and, exists_const, ih rest,
        Except.ok.injEq]
      constructor
      · rintro ⟨tail, ⟨tailLength, tailBytes⟩, rfl⟩
        refine ⟨by simp [tailLength], ?_⟩
        simp only [bpsBytes, List.flatMap_cons, u16_of_two_bytes twoLength]
        rwa [tailBytes, bpsBytes] at cut
      · rintro ⟨bpsLength, bpsEq⟩
        cases bps with
        | nil => simp at bpsLength
        | cons share tail =>
            have head : (bytes.drop (2 * i)).take 2 = leBytes 2 share.toNat := by
              rw [bpsEq, bpsBytes, List.flatMap_cons, List.take_append_of_le_length (by simp),
                List.take_of_length_le (by simp)]
            rw [head, bpsEq, bpsBytes, List.flatMap_cons] at cut
            refine ⟨tail, ⟨by simpa using bpsLength, (List.append_cancel_left cut).symm⟩, ?_⟩
            rw [head]
            have value : leValue (leBytes 2 share.toNat) = share.toNat := by
              rw [leValue_leBytes, Nat.mod_eq_of_lt (show share.toNat < 256 ^ 2 from share.toNat_lt)]
            rw [value, UInt16.ofNat_toNat]

theorem readBps_eq_ok {bytes : Bytes} {count : Nat} {bps : List UInt16}
    (length : bytes.length = 2 * count) :
    readBps bytes count = .ok bps ↔ bps.length = count ∧ bytes = bpsBytes bps := by
  have := @readBpsFrom_eq_ok bytes count 0 bps (by omega)
  simpa [readBps] using this

/-! ### Decoding inverts encoding -/

/-- Reading 32 bytes out of a slice of 32 bytes reads exactly that slice. -/
theorem read32_slice_eq_ok {data : Bytes} {lo : Nat} {out : Bytes32} :
    (∃ part, sliceAt data lo (lo + 32) = .ok part ∧ read32 part = .ok out) ↔
      slice data lo (lo + 32) = some out.val := by
  constructor
  · rintro ⟨part, sliced, read⟩
    rw [sliceAt_eq_ok] at sliced
    have length := length_of_slice sliced
    rw [read32_eq_ok, List.take_of_length_le (by omega)] at read
    rw [sliced, read.2]
  · intro sliced
    refine ⟨out.val, sliceAt_eq_ok.mpr sliced, read32_eq_ok.mpr ⟨out.property.ge, ?_⟩⟩
    exact List.take_of_length_le out.property.le

theorem readU64_slice_eq_ok {data : Bytes} {lo hi : Nat} {n : UInt64} :
    (∃ part, sliceAt data lo hi = .ok part ∧ readU64 part = .ok n) ↔
      slice data lo hi = some (u64Bytes n) := by
  simp only [sliceAt_eq_ok, readU64_eq_ok, exists_eq_right]

/-- Reading the tail of a payload as `count` shares. -/
theorem readBps_slice_eq_ok {data : Bytes} {header count : Nat} {bps : List UInt16}
    (length : data.length = header + 2 * count) :
    (∃ part, sliceAt data header data.length = .ok part ∧ readBps part count = .ok bps) ↔
      bps.length = count ∧ data.drop header = bpsBytes bps := by
  have sliced : slice data header data.length = some (data.drop header) := by
    rw [slice_eq_some]
    exact ⟨⟨by omega, le_rfl⟩, by rw [List.take_length]⟩
  simp only [sliceAt_eq_ok, sliced, Option.some.injEq, exists_eq_left']
  exact readBps_eq_ok (by rw [List.length_drop]; omega)

/-- A payload is its first 32 bytes, the next eight, and the rest. -/
theorem payload_split {data : Bytes} {id amount : Bytes} (hid : slice data 0 32 = some id)
    (hamount : slice data 32 40 = some amount) : data = id ++ (amount ++ data.drop 40) := by
  obtain ⟨⟨_, _⟩, rfl⟩ := slice_eq_some.mp hid
  obtain ⟨⟨_, long⟩, rfl⟩ := slice_eq_some.mp hamount
  have first : data.take 32 = (data.take 40).take 32 := by rw [List.take_take]; rfl
  rw [List.drop_zero, first, ← List.append_assoc, List.take_append_drop, List.take_append_drop]

theorem drop_eq_cons {α : Type} {data : List α} {i : Nat} {b : α} (h : data[i]? = some b) :
    data.drop i = b :: data.drop (i + 1) := by
  obtain ⟨inside, rfl⟩ := List.getElem?_eq_some_iff.mp h
  exact List.drop_eq_getElem_cons inside

namespace SettlementInstruction

/-- What `unpack` accepts is the encoding of what it returns. -/
theorem unpack_sound {data : Bytes} {v : SettlementInstruction} (h : unpack data = .ok v) :
    v.pack = data ∧ v.WellFormed := by
  cases data with
  | nil => cases h
  | cons tag rest =>
      simp only [unpack] at h
      split at h
      · cases h
      split at h
      case isTrue isCreate =>
        simp only [bind_eq_ok, ensure_eq_ok, exists_const, Except.ok.injEq] at h
        obtain ⟨length, part, slicedId, id, readId, part', slicedKey, authority, readKey, rfl⟩ := h
        have idEq := read32_slice_eq_ok.mp ⟨part, slicedId, readId⟩
        have keyEq := read32_slice_eq_ok.mp ⟨part', slicedKey, readKey⟩
        have idEq : rest.take 32 = id.val := (slice_eq_some.mp idEq).2
        have keyEq := (slice_eq_some.mp keyEq).2
        rw [List.take_of_length_le (show rest.length ≤ 32 + 32 from length.le)] at keyEq
        exact ⟨by rw [pack, isCreate, ← idEq, ← keyEq, List.take_append_drop], trivial⟩
      split at h
      case isTrue isRotate =>
        simp only [bind_eq_ok, ensure_eq_ok, exists_const, Except.ok.injEq] at h
        obtain ⟨length, key, read, rfl⟩ := h
        rw [read32_eq_ok, List.take_of_length_le (show rest.length ≤ 32 from length.le)] at read
        exact ⟨by rw [pack, isRotate, read.2], trivial⟩
      split at h
      case isTrue isSettle =>
        simp only [bind_eq_ok, ensure_eq_ok, exists_const, Except.ok.injEq, indexAt_eq_ok,
          not_or, not_not] at h
        obtain ⟨_, countByte, atCount, ⟨nonzero, small, length⟩, part, slicedId, id, readId,
          part', slicedAmount, amount, readAmount, part'', slicedBps, bps, readBps, rfl⟩ := h
        have idEq := read32_slice_eq_ok.mp ⟨part, slicedId, readId⟩
        have amountEq := readU64_slice_eq_ok.mp ⟨part', slicedAmount, readAmount⟩
        obtain ⟨bpsLength, bpsEq⟩ :=
          (readBps_slice_eq_ok length).mp ⟨part'', slicedBps, readBps⟩
        refine ⟨?_, by rw [bpsLength]; exact nonzero, by rw [bpsLength]; omega⟩
        have whole := payload_split idEq amountEq
        rw [drop_eq_cons atCount, show 40 + 1 = settleNHeaderLen from rfl, bpsEq] at whole
        rw [pack, isSettle, bpsLength, UInt8.ofNat_toNat, ← whole]
      split at h
      case isTrue isSettleToken =>
        simp only [bind_eq_ok, ensure_eq_ok, exists_const, Except.ok.injEq, indexAt_eq_ok,
          not_or, not_not] at h
        obtain ⟨_, countByte, atCount, ⟨nonzero, small, length⟩, part, slicedId, id, readId,
          part', slicedAmount, amount, readAmount, decimals, atDecimals, part'', slicedBps, bps,
          readBps, rfl⟩ := h
        have idEq := read32_slice_eq_ok.mp ⟨part, slicedId, readId⟩
        have amountEq := readU64_slice_eq_ok.mp ⟨part', slicedAmount, readAmount⟩
        obtain ⟨bpsLength, bpsEq⟩ :=
          (readBps_slice_eq_ok length).mp ⟨part'', slicedBps, readBps⟩
        refine ⟨?_, by rw [bpsLength]; exact nonzero, by rw [bpsLength]; omega⟩
        have whole := payload_split idEq amountEq
        rw [drop_eq_cons atDecimals, drop_eq_cons atCount,
          show 41 + 1 = settleTokenNHeaderLen from rfl, bpsEq] at whole
        rw [pack, isSettleToken, bpsLength, UInt8.ofNat_toNat, ← whole]
      · cases h

/-- Decoding an encoding gives the instruction back. -/
theorem unpack_pack {v : SettlementInstruction} (wellFormed : v.WellFormed) :
    unpack v.pack = .ok v := by
  cases v with
  | createNamespace namespaceId authority =>
      have first : slice (namespaceId.val ++ authority.val) 0 (0 + 32) = some namespaceId.val :=
        slice_middle [] rfl (by simp [namespaceId.property])
      have second : slice (namespaceId.val ++ authority.val) 32 (32 + 32) = some authority.val := by
        have := @slice_middle namespaceId.val authority.val [] 32 (32 + 32)
          namespaceId.property (by rw [authority.property])
        rwa [List.append_nil] at this
      obtain ⟨part, slicedId, readId⟩ := read32_slice_eq_ok.mpr first
      obtain ⟨part', slicedKey, readKey⟩ := read32_slice_eq_ok.mpr second
      have length : (namespaceId.val ++ authority.val).length = createNamespaceLen := by
        rw [List.length_append, namespaceId.property, authority.property]
        rfl
      rw [pack, unpack, if_neg (by decide), if_pos rfl]
      simp only [bind_eq_ok, ensure_eq_ok, exists_const, Except.ok.injEq]
      exact ⟨length, part, slicedId, _, readId, part', slicedKey, _, readKey, rfl⟩
  | setNamespaceAuthority newAuthority =>
      have read : read32 newAuthority.val = .ok newAuthority :=
        read32_eq_ok.mpr ⟨newAuthority.property.ge, List.take_of_length_le newAuthority.property.le⟩
      rw [pack, unpack, if_neg (by decide), if_neg (by decide), if_pos rfl,
        ensure_bind_of_pos (show newAuthority.val.length = setNamespaceAuthorityLen from
          newAuthority.property), read, ok_bind]
  | settleN eventId amount bps =>
      obtain ⟨nonzero, small⟩ := wellFormed
      set rest := eventId.val ++ (u64Bytes amount ++ (UInt8.ofNat bps.length :: bpsBytes bps))
        with hrest
      have count : (UInt8.ofNat bps.length).toNat = bps.length := by
        simpa using Nat.mod_eq_of_lt (show bps.length < 256 from small.trans_lt (by decide))
      have length : rest.length = settleNHeaderLen + 2 * bps.length := by
        simp only [hrest, List.length_append, eventId.property, length_u64Bytes, List.length_cons,
          length_bpsBytes, settleNHeaderLen]
        omega
      have first : slice rest 0 (0 + 32) = some eventId.val :=
        slice_middle [] rfl (by simp [eventId.property])
      have second : slice rest 32 40 = some (u64Bytes amount) :=
        slice_middle _ eventId.property (by simp)
      have atCount : rest[40]? = some (UInt8.ofNat bps.length) := by
        rw [hrest, List.getElem?_append_right (by rw [eventId.property]; decide),
          List.getElem?_append_right (by rw [eventId.property, length_u64Bytes])]
        simp [eventId.property]
      have tail : rest.drop settleNHeaderLen = bpsBytes bps := by
        rw [hrest, ← List.append_assoc, ← List.singleton_append, ← List.append_assoc]
        exact List.drop_left' (by simp [eventId.property, settleNHeaderLen])
      obtain ⟨part, slicedId, readId⟩ := read32_slice_eq_ok.mpr first
      obtain ⟨part', slicedAmount, readAmount⟩ := readU64_slice_eq_ok.mpr second
      obtain ⟨part'', slicedBps, readBps⟩ := (readBps_slice_eq_ok length).mpr ⟨rfl, tail⟩
      rw [pack, ← hrest, unpack, if_neg (by decide), if_neg (by decide), if_neg (by decide),
        if_pos rfl]
      simp only [bind_eq_ok, ensure_eq_ok, exists_const, Except.ok.injEq, indexAt_eq_ok, not_or,
        not_not]
      refine ⟨by rw [length]; omega, _, atCount, ⟨by rw [count]; exact nonzero,
        by rw [count]; omega, by rw [count]; exact length⟩, part, slicedId, _, readId, part',
        slicedAmount, _, readAmount, part'', slicedBps, _, by rw [count]; exact readBps, rfl⟩
  | settleTokenN eventId amount decimals bps =>
      obtain ⟨nonzero, small⟩ := wellFormed
      set rest := eventId.val ++ (u64Bytes amount ++
        (decimals :: UInt8.ofNat bps.length :: bpsBytes bps)) with hrest
      have count : (UInt8.ofNat bps.length).toNat = bps.length := by
        simpa using Nat.mod_eq_of_lt (show bps.length < 256 from small.trans_lt (by decide))
      have length : rest.length = settleTokenNHeaderLen + 2 * bps.length := by
        simp only [hrest, List.length_append, eventId.property, length_u64Bytes, List.length_cons,
          length_bpsBytes, settleTokenNHeaderLen]
        omega
      have first : slice rest 0 (0 + 32) = some eventId.val :=
        slice_middle [] rfl (by simp [eventId.property])
      have second : slice rest 32 40 = some (u64Bytes amount) :=
        slice_middle _ eventId.property (by simp)
      have atDecimals : rest[40]? = some decimals := by
        rw [hrest, List.getElem?_append_right (by rw [eventId.property]; decide),
          List.getElem?_append_right (by rw [eventId.property, length_u64Bytes])]
        simp [eventId.property]
      have atCount : rest[41]? = some (UInt8.ofNat bps.length) := by
        rw [hrest, List.getElem?_append_right (by rw [eventId.property]; decide),
          List.getElem?_append_right (by rw [eventId.property, length_u64Bytes]; decide)]
        simp [eventId.property]
      have tail : rest.drop settleTokenNHeaderLen = bpsBytes bps := by
        have : rest = (eventId.val ++ (u64Bytes amount ++ [decimals, UInt8.ofNat bps.length])) ++
            bpsBytes bps := by simp [hrest]
        rw [this]
        exact List.drop_left' (by simp [eventId.property, settleTokenNHeaderLen])
      obtain ⟨part, slicedId, readId⟩ := read32_slice_eq_ok.mpr first
      obtain ⟨part', slicedAmount, readAmount⟩ := readU64_slice_eq_ok.mpr second
      obtain ⟨part'', slicedBps, readBps⟩ := (readBps_slice_eq_ok length).mpr ⟨rfl, tail⟩
      rw [pack, ← hrest, unpack, if_neg (by decide), if_neg (by decide), if_neg (by decide),
        if_neg (by decide), if_pos rfl]
      simp only [bind_eq_ok, ensure_eq_ok, exists_const, Except.ok.injEq, indexAt_eq_ok, not_or,
        not_not]
      refine ⟨by rw [length]; omega, _, atCount, ⟨by rw [count]; exact nonzero,
        by rw [count]; omega, by rw [count]; exact length⟩, part, slicedId, _, readId, part',
        slicedAmount, _, readAmount, _, atDecimals, part'', slicedBps, _,
        by rw [count]; exact readBps, rfl⟩

/-- **The format.** A byte string decodes to `v` exactly when it is `v`'s
encoding and `v`'s share count fits the format. -/
theorem unpack_eq_ok {data : Bytes} {v : SettlementInstruction} :
    unpack data = .ok v ↔ v.pack = data ∧ v.WellFormed := by
  constructor
  · exact unpack_sound
  · rintro ⟨rfl, wellFormed⟩
    exact unpack_pack wellFormed

/-! ### What is refused -/

/-- Any bytes of an even length are some shares. -/
theorem exists_bpsBytes : ∀ (count : Nat) (bytes : Bytes), bytes.length = 2 * count →
    ∃ bps : List UInt16, bps.length = count ∧ bytes = bpsBytes bps
  | 0, bytes, length => ⟨[], rfl, List.eq_nil_of_length_eq_zero length⟩
  | count + 1, bytes, length => by
      obtain ⟨bps, bpsLength, later⟩ := exists_bpsBytes count (bytes.drop 2)
        (by rw [List.length_drop]; omega)
      have two : (bytes.take 2).length = 2 := by rw [List.length_take]; omega
      refine ⟨UInt16.ofNat (leValue (bytes.take 2)) :: bps, by rw [List.length_cons, bpsLength], ?_⟩
      rw [bpsBytes, List.flatMap_cons, u16_of_two_bytes two, ← bpsBytes, ← later,
        List.take_append_drop]

/-- Any 32 bytes or more start with a `[u8; 32]`. -/
theorem exists_bytes32 (bytes : Bytes) (long : 32 ≤ bytes.length) :
    ∃ (out : Bytes32) (tail : Bytes), bytes = out.val ++ tail ∧ tail.length = bytes.length - 32 :=
  ⟨⟨bytes.take 32, by simpa using long⟩, bytes.drop 32, (List.take_append_drop 32 bytes).symm,
    List.length_drop⟩

/-- Any 8 bytes or more start with a `u64`. -/
theorem exists_u64Bytes (bytes : Bytes) (long : 8 ≤ bytes.length) :
    ∃ (n : UInt64) (tail : Bytes), bytes = u64Bytes n ++ tail ∧ tail.length = bytes.length - 8 := by
  have eight : (bytes.take 8).length = 8 := by simpa using long
  have read : readU64 (bytes.take 8) = .ok (UInt64.ofNat (leValue (bytes.take 8))) := by
    rw [readU64, ensure_bind_of_pos eight]
  refine ⟨UInt64.ofNat (leValue (bytes.take 8)), bytes.drop 8, ?_, List.length_drop⟩
  rw [← readU64_eq_ok.mp read, List.take_append_drop]

/-- A payload long enough for the fixed fields and as long as its count byte
says carries an event, an amount and that many shares. -/
theorem exists_settleN {rest : Bytes} {countByte : UInt8} (atCount : rest[40]? = some countByte)
    (length : rest.length = settleNHeaderLen + 2 * countByte.toNat) :
    ∃ eventId amount bps, bps.length = countByte.toNat ∧
      settleNTag :: rest = (settleN eventId amount bps).pack := by
  simp only [settleNHeaderLen] at length
  obtain ⟨eventId, tail, rfl, tailLength⟩ := exists_bytes32 rest (by omega)
  obtain ⟨amount, counted, rfl, countedLength⟩ := exists_u64Bytes tail (by omega)
  rw [List.getElem?_append_right (by rw [eventId.property]; decide),
    List.getElem?_append_right (by rw [eventId.property, length_u64Bytes])] at atCount
  simp only [eventId.property, length_u64Bytes] at atCount
  have cut := drop_eq_cons atCount
  simp only [Nat.sub_self, List.drop_zero, Nat.reduceSub, Nat.zero_add] at cut
  obtain ⟨bps, bpsLength, isBps⟩ := exists_bpsBytes countByte.toNat (counted.drop 1)
    (by rw [List.length_drop]; omega)
  refine ⟨eventId, amount, bps, bpsLength, ?_⟩
  rw [pack, bpsLength, UInt8.ofNat_toNat, ← isBps, ← cut]

theorem exists_settleTokenN {rest : Bytes} {countByte : UInt8}
    (atCount : rest[41]? = some countByte)
    (length : rest.length = settleTokenNHeaderLen + 2 * countByte.toNat) :
    ∃ eventId amount decimals bps, bps.length = countByte.toNat ∧
      settleTokenNTag :: rest = (settleTokenN eventId amount decimals bps).pack := by
  simp only [settleTokenNHeaderLen] at length
  obtain ⟨eventId, tail, rfl, tailLength⟩ := exists_bytes32 rest (by omega)
  obtain ⟨amount, counted, rfl, countedLength⟩ := exists_u64Bytes tail (by omega)
  rw [List.getElem?_append_right (by rw [eventId.property]; decide),
    List.getElem?_append_right (by rw [eventId.property, length_u64Bytes]; decide)] at atCount
  simp only [eventId.property, length_u64Bytes, Nat.reduceSub] at atCount
  have cut := drop_eq_cons atCount
  match counted, cut with
  | decimals :: counted, cut =>
      simp only [List.drop_succ_cons, List.drop_zero] at cut
      obtain ⟨bps, bpsLength, isBps⟩ := exists_bpsBytes countByte.toNat (counted.drop 1)
        (by simp only [List.length_append, List.length_cons, List.length_drop] at *; omega)
      refine ⟨eventId, amount, decimals, bps, bpsLength, ?_⟩
      rw [pack, bpsLength, UInt8.ofNat_toNat, ← isBps, ← cut]

/-- What is not an encoding is refused, and with that error: no slice or index
of `unpack` leaves the payload. -/
theorem unpack_refuses {data : Bytes} (foreign : ∀ v : SettlementInstruction, v.WellFormed →
    data ≠ v.pack) : unpack data = .error (.program .invalidInstructionData) := by
  cases data with
  | nil => rfl
  | cons tag rest =>
      rw [unpack]
      split
      · rfl
      split
      case isTrue isCreate =>
        refine ensure_bind_of_neg fun length => ?_
        simp only [createNamespaceLen] at length
        obtain ⟨namespaceId, tail, rfl, tailLength⟩ := exists_bytes32 rest (by omega)
        refine foreign (createNamespace namespaceId ⟨tail, by omega⟩) trivial ?_
        rw [pack, isCreate]
      split
      case isTrue isRotate =>
        refine ensure_bind_of_neg fun length => ?_
        refine foreign (setNamespaceAuthority ⟨rest, length⟩) trivial ?_
        rw [pack, isRotate]
      split
      case isTrue isSettle =>
        by_cases short : rest.length < settleNHeaderLen
        · exact ensure_bind_of_neg (not_not.mpr short)
        rw [ensure_bind_of_pos short]
        have inside : 40 < rest.length := by
          simp only [settleNHeaderLen] at short
          omega
        have atCount : rest[40]? = some rest[40] := List.getElem?_eq_getElem inside
        rw [indexAt_eq_ok.mpr atCount, ok_bind]
        refine ensure_bind_of_neg fun counted => ?_
        simp only [not_or, not_not] at counted
        obtain ⟨nonzero, small, length⟩ := counted
        obtain ⟨eventId, amount, bps, bpsLength, encoded⟩ := exists_settleN atCount length
        refine foreign (settleN eventId amount bps) ⟨?_, ?_⟩ (by rw [isSettle, encoded])
        · rwa [bpsLength]
        · rw [bpsLength]
          exact Nat.le_of_not_lt small
      split
      case isTrue isSettleToken =>
        by_cases short : rest.length < settleTokenNHeaderLen
        · exact ensure_bind_of_neg (not_not.mpr short)
        rw [ensure_bind_of_pos short]
        have inside : 41 < rest.length := by
          simp only [settleTokenNHeaderLen] at short
          omega
        have atCount : rest[41]? = some rest[41] := List.getElem?_eq_getElem inside
        rw [indexAt_eq_ok.mpr atCount, ok_bind]
        refine ensure_bind_of_neg fun counted => ?_
        simp only [not_or, not_not] at counted
        obtain ⟨nonzero, small, length⟩ := counted
        obtain ⟨eventId, amount, decimals, bps, bpsLength, encoded⟩ :=
          exists_settleTokenN atCount length
        refine foreign (settleTokenN eventId amount decimals bps) ⟨?_, ?_⟩
          (by rw [isSettleToken, encoded])
        · rwa [bpsLength]
        · rw [bpsLength]
          exact Nat.le_of_not_lt small
      · rfl

/-- An instruction whose share count does not fit the format shares its
encoding with none that fits: the count byte may wrap, the length does not. -/
theorem WellFormed.of_pack_eq {v u : SettlementInstruction} (same : v.pack = u.pack)
    (wellFormed : u.WellFormed) : v.WellFormed := by
  cases v with
  | createNamespace _ _ => trivial
  | setNamespaceAuthority _ => trivial
  | settleN eventId amount bps =>
      cases u with
      | settleN eventId' amount' bps' =>
          have lengths := congrArg List.length same
          simp only [pack, List.length_cons, List.length_append, eventId.property,
            eventId'.property, length_u64Bytes, length_bpsBytes] at lengths
          have count : bps.length = bps'.length := by omega
          simpa only [WellFormed, count] using wellFormed
      | createNamespace _ _ => cases same
      | setNamespaceAuthority _ => cases same
      | settleTokenN _ _ _ _ => cases same
  | settleTokenN eventId amount decimals bps =>
      cases u with
      | settleTokenN eventId' amount' decimals' bps' =>
          have lengths := congrArg List.length same
          simp only [pack, List.length_cons, List.length_append, eventId.property,
            eventId'.property, length_u64Bytes, length_bpsBytes] at lengths
          have count : bps.length = bps'.length := by omega
          simpa only [WellFormed, count] using wellFormed
      | createNamespace _ _ => cases same
      | setNamespaceAuthority _ => cases same
      | settleN _ _ _ => cases same

/-- The first byte of an encoding is one of the four tags in use. -/
theorem exists_pack_eq_cons (v : SettlementInstruction) :
    ∃ tag ∈ [createNamespaceTag, setNamespaceAuthorityTag, settleNTag, settleTokenNTag],
      ∃ rest, v.pack = tag :: rest := by
  cases v with
  | createNamespace _ _ => exact ⟨createNamespaceTag, by simp, _, rfl⟩
  | setNamespaceAuthority _ => exact ⟨setNamespaceAuthorityTag, by simp, _, rfl⟩
  | settleN _ _ _ => exact ⟨settleNTag, by simp, _, rfl⟩
  | settleTokenN _ _ _ _ => exact ⟨settleTokenNTag, by simp, _, rfl⟩

/-- **Exactly the format.** A byte string decodes to `v` exactly when `v` fits
the format and the bytes are its encoding. So decoding and encoding undo each
other, no two byte strings decode to the same instruction, and whatever is no
encoding is refused as invalid instruction data: encodings of other share
counts, and every tag but 3 to 6. -/
theorem instruction_format (data : Bytes) (v : SettlementInstruction) :
    (unpack data = .ok v ↔ v.WellFormed ∧ data = v.pack) ∧
    (v.WellFormed → unpack v.pack = .ok v) ∧
    (unpack data = .ok v → v.pack = data) ∧
    (∀ data', unpack data = .ok v → unpack data' = .ok v → data = data') ∧
    ((∀ u : SettlementInstruction, u.WellFormed → data ≠ u.pack) →
      unpack data = .error (.program .invalidInstructionData)) ∧
    (¬ v.WellFormed → unpack v.pack = .error (.program .invalidInstructionData)) ∧
    (∀ tag rest, tag < 3 ∨ 6 < tag →
      unpack (tag :: rest) = .error (.program .invalidInstructionData)) := by
  refine ⟨?_, unpack_pack, fun ok => (unpack_eq_ok.mp ok).1, ?_, unpack_refuses, ?_, ?_⟩
  · rw [unpack_eq_ok, and_comm, eq_comm]
  · intro data' ok ok'
    exact (unpack_eq_ok.mp ok).1.symm.trans (unpack_eq_ok.mp ok').1
  · intro illFormed
    apply unpack_refuses
    intro u wellFormed same
    exact illFormed (wellFormed.of_pack_eq same)
  · intro tag rest unknown
    apply unpack_refuses
    intro u _ same
    obtain ⟨tag', known, rest', encoded⟩ := u.exists_pack_eq_cons
    rw [encoded] at same
    cases same
    fin_cases known
    all_goals exact absurd unknown (by decide)

end SettlementInstruction

end Synxed.Program
