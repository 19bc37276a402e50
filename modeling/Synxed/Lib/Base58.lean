import Mathlib.Data.List.TakeWhile
import Mathlib.Data.List.GetD
import Synxed.Lib.Script

/-!
Base58, the text form of keys, signatures and instruction data.

`convert` changes the base of a digit string and keeps its leading zeros;
`convert_convert` says nothing is lost, and gives both directions of the codec
(`base58Decode_encode`, `base58Encode_decode`).
-/

namespace Synxed.Lib

/-! ### Changing the base -/

/-- The number a digit string denotes, most significant digit first. -/
def digitsNat (base : Nat) (digits : List Nat) : Nat := Nat.ofDigits base digits.reverse

/-- The same number in another base, with as many leading zeros. -/
def convert (source target : Nat) (digits : List Nat) : List Nat :=
  List.replicate (digits.takeWhile (· = 0)).length 0 ++
    (Nat.digits target (digitsNat source digits)).reverse

theorem digitsNat_zeros (base k : Nat) (digits : List Nat) :
    digitsNat base (List.replicate k 0 ++ digits) = digitsNat base digits := by
  rw [digitsNat, List.reverse_append, List.reverse_replicate, Nat.ofDigits_append,
    Nat.ofDigits_replicate_zero, Nat.mul_zero, Nat.add_zero, digitsNat]

/-- A digit string is its leading zeros and a rest that does not start with
zero. -/
theorem zeros_append (digits : List Nat) :
    ∃ rest, digits = List.replicate (digits.takeWhile (· = 0)).length 0 ++ rest ∧
      rest.head? ≠ some 0 := by
  refine ⟨digits.dropWhile (· = 0), ?_, ?_⟩
  · have zeros : digits.takeWhile (· = 0) =
        List.replicate (digits.takeWhile (· = 0)).length 0 := by
      rw [List.eq_replicate_iff]
      exact ⟨rfl, fun d mem => by simpa using List.mem_takeWhile_imp mem⟩
    rw [← zeros, List.takeWhile_append_dropWhile]
  · intro head
    have stays := List.head?_dropWhile_not (· = 0) digits
    rw [head] at stays
    simp at stays

theorem takeWhile_zeros (k : Nat) {rest : List Nat} (head : rest.head? ≠ some 0) :
    ((List.replicate k 0 ++ rest).takeWhile (· = 0)).length = k := by
  have none : rest.takeWhile (· = 0) = [] := by
    cases rest with
    | nil => rfl
    | cons d tail =>
        have nonzero : d ≠ 0 := by simpa using head
        simp [nonzero]
  rw [List.takeWhile_append_of_pos (by simp), none, List.append_nil, List.length_replicate]

/-- Digits in the right range whose most significant one is not zero are the
digits of their number. -/
theorem digits_digitsNat {base : Nat} (large : 1 < base) {rest : List Nat}
    (range : ∀ d ∈ rest, d < base) (head : rest.head? ≠ some 0) :
    (Nat.digits base (digitsNat base rest)).reverse = rest := by
  rw [digitsNat, Nat.digits_ofDigits base large, List.reverse_reverse]
  · intro d mem
    exact range d (List.mem_reverse.mp mem)
  · intro nonempty zero
    rw [List.getLast_reverse] at zero
    exact head (by rw [List.head?_eq_some_head (by simpa using nonempty), zero])

theorem head_digits {base : Nat} (n : Nat) :
    (Nat.digits base n).reverse.head? ≠ some 0 := by
  rw [List.head?_reverse]
  rcases Nat.eq_zero_or_pos n with rfl | positive
  · simp
  · intro last
    have nonempty : Nat.digits base n ≠ [] := Nat.digits_ne_nil_iff_ne_zero.mpr positive.ne'
    rw [List.getLast?_eq_some_getLast nonempty, Option.some.injEq] at last
    exact Nat.getLast_digit_ne_zero base positive.ne' last

/-- **No digit is lost.** Converting there and back is the identity. -/
theorem convert_convert {source target : Nat} (hs : 1 < source)
    {digits : List Nat} (range : ∀ d ∈ digits, d < source) :
    convert target source (convert source target digits) = digits := by
  obtain ⟨rest, split, head⟩ := zeros_append digits
  generalize (digits.takeWhile (· = 0)).length = k at split
  subst split
  have inRange : ∀ d ∈ rest, d < source := fun d mem => range d (List.mem_append_right _ mem)
  have there : convert source target (List.replicate k 0 ++ rest) =
      List.replicate k 0 ++ (Nat.digits target (digitsNat source rest)).reverse := by
    rw [convert, takeWhile_zeros k head, digitsNat_zeros]
  have value : digitsNat target (Nat.digits target (digitsNat source rest)).reverse =
      digitsNat source rest := by
    rw [digitsNat, List.reverse_reverse, Nat.ofDigits_digits]
  rw [there, convert, takeWhile_zeros k (head_digits _), digitsNat_zeros, value,
    digits_digitsNat hs inRange head]

theorem mem_convert {source target d : Nat} {digits : List Nat} (ht : 1 < target)
    (mem : d ∈ convert source target digits) : d < target := by
  rcases List.mem_append.mp mem with zero | digit
  · rw [List.eq_of_mem_replicate zero]
    omega
  · exact Nat.digits_lt_base ht (List.mem_reverse.mp digit)

/-! ### Base58 -/

/-- `123456789ABCDEFGHJKLMNPQRSTUVWXYZabcdefghijkmnopqrstuvwxyz`. -/
def base58Alphabet : List UInt16 :=
  js "123456789ABCDEFGHJKLMNPQRSTUVWXYZabcdefghijkmnopqrstuvwxyz"

def base58Digit (d : Nat) : UInt16 := base58Alphabet.getD d 0

def base58Value (u : UInt16) : Option Nat :=
  let index := base58Alphabet.idxOf u
  if index < 58 then some index else none

/-- `bs58.encode`. -/
def base58Encode (bytes : Bytes) : JsString :=
  (convert 256 58 (bytes.map UInt8.toNat)).map base58Digit

/-- `bs58.decode`; `none` where it throws. -/
def base58Decode (s : JsString) : Option Bytes :=
  (s.mapM base58Value).map fun digits => (convert 58 256 digits).map UInt8.ofNat

theorem base58Value_digit : ∀ d < 58, base58Value (base58Digit d) = some d := by
  decide +kernel

theorem base58Digit_value {u : UInt16} {d : Nat} (h : base58Value u = some d) :
    base58Digit d = u ∧ d < 58 := by
  unfold base58Value at h
  simp only at h
  split at h
  · next small =>
      cases h
      have inside : base58Alphabet.idxOf u < base58Alphabet.length := by
        rw [show base58Alphabet.length = 58 by decide +kernel]
        exact small
      rw [base58Digit, List.getD_eq_getElem _ _ inside]
      exact ⟨List.getElem_idxOf inside, small⟩
  · cases h

theorem mapM_base58Value {digits : List Nat} (range : ∀ d ∈ digits, d < 58) :
    (digits.map base58Digit).mapM base58Value = some digits := by
  induction digits with
  | nil => rfl
  | cons d rest ih =>
      rw [List.map_cons, List.mapM_cons, base58Value_digit d (range d List.mem_cons_self),
        ih fun e mem => range e (List.mem_cons_of_mem _ mem)]
      rfl

theorem map_base58Digit {s : JsString} {digits : List Nat}
    (h : s.mapM base58Value = some digits) :
    digits.map base58Digit = s ∧ ∀ d ∈ digits, d < 58 := by
  induction s generalizing digits with
  | nil =>
      cases h
      simp
  | cons u rest ih =>
      simp only [List.mapM_cons, Option.bind_eq_bind, Option.bind_eq_some_iff, Option.pure_def,
        Option.some.injEq] at h
      obtain ⟨d, here, tail, restOk, rfl⟩ := h
      obtain ⟨digit, small⟩ := base58Digit_value here
      obtain ⟨restEq, restSmall⟩ := ih restOk
      refine ⟨by rw [List.map_cons, digit, restEq], ?_⟩
      intro e mem
      rcases List.mem_cons.mp mem with rfl | later
      · exact small
      · exact restSmall e later

/-- Decoding undoes encoding. -/
@[simp] theorem base58Decode_encode (bytes : Bytes) :
    base58Decode (base58Encode bytes) = some bytes := by
  have range : ∀ d ∈ bytes.map UInt8.toNat, d < 256 := by
    intro d mem
    obtain ⟨b, _, rfl⟩ := List.mem_map.mp mem
    exact b.toNat_lt
  rw [base58Decode, base58Encode, mapM_base58Value fun d mem => mem_convert (by decide) mem,
    Option.map_some, convert_convert (by decide) range, List.map_map]
  exact congrArg some ((List.map_congr_left fun b _ => UInt8.ofNat_toNat).trans (List.map_id _))

/-- Encoding undoes decoding: a text has one spelling. -/
theorem base58Encode_decode {s : JsString} {bytes : Bytes} (h : base58Decode s = some bytes) :
    base58Encode bytes = s := by
  obtain ⟨digits, read, rfl⟩ := Option.map_eq_some_iff.mp h
  obtain ⟨spelled, range⟩ := map_base58Digit read
  have exact256 : ((convert 58 256 digits).map UInt8.ofNat).map UInt8.toNat =
      convert 58 256 digits := by
    rw [List.map_map]
    refine (List.map_congr_left fun d mem => ?_).trans (List.map_id _)
    have small : d < 256 := mem_convert (by decide) mem
    simpa using Nat.mod_eq_of_lt small
  rw [base58Encode, exact256, convert_convert (by decide) range, spelled]

theorem base58Encode_injective {xs ys : Bytes} (same : base58Encode xs = base58Encode ys) :
    xs = ys := by
  have decoded := congrArg base58Decode same
  simpa using decoded

/-- A base58 text is printable ASCII. -/
theorem mem_base58Encode {bytes : Bytes} {u : UInt16} (mem : u ∈ base58Encode bytes) :
    0 < u.toNat ∧ u.toNat < 128 := by
  obtain ⟨d, digit, rfl⟩ := List.mem_map.mp mem
  have small : d < 58 := mem_convert (by decide) digit
  have all : ∀ d < 58, 0 < (base58Digit d).toNat ∧ (base58Digit d).toNat < 128 := by
    decide +kernel
  exact all d small

theorem nul_notMem_base58Encode (bytes : Bytes) : 0 ∉ base58Encode bytes := fun mem =>
  absurd (mem_base58Encode mem).1 (by decide)

@[simp] theorem toWellFormed_base58Encode (bytes : Bytes) :
    toWellFormed (base58Encode bytes) = base58Encode bytes :=
  toWellFormed_of_lt fun _ mem => lt_trans (mem_base58Encode mem).2 (by decide)

end Synxed.Lib
