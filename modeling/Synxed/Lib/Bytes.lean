import Synxed.Lib.Outcome

/-!
Byte strings: little-endian integers, slices and in-place writes.

A slice that leaves its byte string is `none`, so a caller that slices out of
range (a panic in the modelled languages) is visible in its model.

* `leValue_leBytes`, `leBytes_leValue`: the two little-endian conversions undo
  each other at a fixed width.
* `slice_append_*`, `length_of_slice`: where a slice of a concatenation falls.
-/

namespace Synxed.Lib

abbrev Bytes := List UInt8

/-! ### Little-endian integers -/

/-- The `width` low bytes of `n`, lowest first. -/
def leBytes : Nat → Nat → Bytes
  | 0, _ => []
  | width + 1, n => UInt8.ofNat (n % 256) :: leBytes width (n / 256)

/-- The integer a byte string denotes, lowest byte first. -/
def leValue : Bytes → Nat
  | [] => 0
  | b :: bs => b.toNat + 256 * leValue bs

@[simp] theorem length_leBytes (width n : Nat) : (leBytes width n).length = width := by
  induction width generalizing n with
  | zero => rfl
  | succ width ih => simp [leBytes, ih]

theorem leValue_leBytes (width n : Nat) : leValue (leBytes width n) = n % 256 ^ width := by
  induction width generalizing n with
  | zero => simp [leBytes, leValue, Nat.mod_one]
  | succ width ih =>
      have low : (UInt8.ofNat (n % 256)).toNat = n % 256 := by simp
      simp only [leBytes, leValue, ih, low]
      rw [Nat.pow_succ', Nat.mod_mul]

theorem leBytes_leValue (bs : Bytes) : leBytes bs.length (leValue bs) = bs := by
  induction bs with
  | nil => rfl
  | cons b bs ih =>
      have small : b.toNat < 256 := b.toNat_lt
      have head : (b.toNat + 256 * leValue bs) % 256 = b.toNat := by omega
      have tail : (b.toNat + 256 * leValue bs) / 256 = leValue bs := by omega
      simp only [List.length_cons, leBytes, leValue, head, tail, ih, UInt8.ofNat_toNat]

theorem leValue_lt (bs : Bytes) : leValue bs < 256 ^ bs.length := by
  induction bs with
  | nil => simp [leValue]
  | cons b bs ih =>
      have small : b.toNat < 256 := b.toNat_lt
      simp only [leValue, List.length_cons, Nat.pow_succ]
      omega

theorem leValue_append (front back : Bytes) :
    leValue (front ++ back) = leValue front + 256 ^ front.length * leValue back := by
  induction front with
  | nil => simp [leValue]
  | cons b front ih =>
      simp only [List.cons_append, leValue, ih, List.length_cons, Nat.pow_succ]
      ring

/-- Values below `256 ^ width` have different encodings. -/
theorem leBytes_injective {width m n : Nat} (hm : m < 256 ^ width) (hn : n < 256 ^ width)
    (same : leBytes width m = leBytes width n) : m = n := by
  have values := congrArg leValue same
  rwa [leValue_leBytes, leValue_leBytes, Nat.mod_eq_of_lt hm, Nat.mod_eq_of_lt hn] at values

/-! ### Slices and writes -/

/-- `data[lo..hi]`, when the range lies inside `data`. -/
def slice (data : Bytes) (lo hi : Nat) : Option Bytes :=
  if lo ≤ hi ∧ hi ≤ data.length then some ((data.take hi).drop lo) else none

theorem slice_eq_some {data out : Bytes} {lo hi : Nat} :
    slice data lo hi = some out ↔ (lo ≤ hi ∧ hi ≤ data.length) ∧ (data.take hi).drop lo = out := by
  simp [slice]

theorem length_of_slice {data out : Bytes} {lo hi : Nat} (h : slice data lo hi = some out) :
    out.length = hi - lo := by
  obtain ⟨⟨_, inside⟩, rfl⟩ := slice_eq_some.mp h
  simp [Nat.min_eq_left inside]

/-- The slice between two prefixes of a concatenation is the middle part. -/
theorem slice_middle (front : Bytes) {middle back : Bytes} {lo hi : Nat} (hlo : front.length = lo)
    (hhi : lo + middle.length = hi) : slice (front ++ (middle ++ back)) lo hi = some middle := by
  subst hlo hhi
  rw [slice_eq_some]
  refine ⟨⟨by omega, by simp⟩, ?_⟩
  rw [← List.append_assoc, List.take_append_of_le_length (by simp)]
  rw [List.take_of_length_le (by simp)]
  simp

/-- `data[lo..hi].copy_from_slice(src)`, when the range lies inside `data` and
`src` fills it. -/
def copySlice (data : Bytes) (lo hi : Nat) (src : Bytes) : Option Bytes :=
  if lo ≤ hi ∧ hi ≤ data.length ∧ src.length = hi - lo then
    some (data.take lo ++ (src ++ data.drop hi))
  else none

theorem copySlice_eq_some {data src out : Bytes} {lo hi : Nat} :
    copySlice data lo hi src = some out ↔
      (lo ≤ hi ∧ hi ≤ data.length ∧ src.length = hi - lo) ∧
        data.take lo ++ (src ++ data.drop hi) = out := by
  simp [copySlice]

/-- A byte string cut into parts of given lengths. -/
theorem exists_append_of_le (data : Bytes) (n : Nat) (h : n ≤ data.length) :
    ∃ front back, data = front ++ back ∧ front.length = n ∧ back.length = data.length - n :=
  ⟨data.take n, data.drop n, (List.take_append_drop n data).symm, by simp [h], by simp⟩

/-! ### Fixed-length byte strings -/

/-- `[u8; 32]`: a byte string that carries its length. -/
abbrev Bytes32 := { bytes : Bytes // bytes.length = 32 }

instance : LawfulBEq Bytes32 := inferInstance

namespace Bytes32

/-- The `[u8; 32]` with these bytes, when there are 32 of them. -/
def ofBytes? (bytes : Bytes) : Option Bytes32 :=
  if h : bytes.length = 32 then some ⟨bytes, h⟩ else none

@[simp] theorem ofBytes?_val (b : Bytes32) : ofBytes? b.val = some b := by
  simp [ofBytes?, b.property]

theorem ofBytes?_eq_some {bytes : Bytes} {b : Bytes32} :
    ofBytes? bytes = some b ↔ bytes = b.val := by
  constructor
  · intro h
    unfold ofBytes? at h
    split at h
    · cases h; rfl
    · cases h
  · rintro rfl
    exact ofBytes?_val b

/-- All 32 bytes equal: the all-zero key is `fill 0`. -/
def fill (byte : UInt8) : Bytes32 := ⟨List.replicate 32 byte, by simp⟩

end Bytes32

end Synxed.Lib
