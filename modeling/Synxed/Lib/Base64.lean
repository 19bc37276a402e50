import Synxed.Lib.Script

/-!
Base64, as Node's `Buffer` writes and reads it.

Reading takes both alphabets, passes over characters of neither and stops at
the padding. `base64Decode_encode`: what was written is read back.
-/

namespace Synxed.Lib

/-- The character of a 6-bit group. -/
def base64Digit (n : Nat) : UInt16 :=
  UInt16.ofNat (if n < 26 then 65 + n else if n < 52 then 71 + n else if n < 62 then n - 4
    else if n = 62 then 43 else 47)

def base64Value (u : UInt16) : Option Nat :=
  let n := u.toNat
  if 65 ≤ n ∧ n < 91 then some (n - 65)
  else if 97 ≤ n ∧ n < 123 then some (n - 71)
  else if 48 ≤ n ∧ n < 58 then some (n + 4)
  else if n = 43 ∨ n = 45 then some 62
  else if n = 47 ∨ n = 95 then some 63
  else none

/-- `buffer.toString("base64")`. -/
def base64Encode : Bytes → JsString
  | a :: b :: c :: rest =>
      base64Digit (a.toNat / 4) :: base64Digit (a.toNat % 4 * 16 + b.toNat / 16) ::
        base64Digit (b.toNat % 16 * 4 + c.toNat / 64) :: base64Digit (c.toNat % 64) ::
          base64Encode rest
  | [a, b] =>
      [base64Digit (a.toNat / 4), base64Digit (a.toNat % 4 * 16 + b.toNat / 16),
        base64Digit (b.toNat % 16 * 4), 61]
  | [a] => [base64Digit (a.toNat / 4), base64Digit (a.toNat % 4 * 16), 61, 61]
  | [] => []

/-- The groups of a text, up to its padding. -/
def base64Groups (text : JsString) : List Nat :=
  (text.takeWhile fun u => u ≠ 61).filterMap base64Value

def base64Bytes : List Nat → Bytes
  | a :: b :: c :: d :: rest =>
      UInt8.ofNat (a * 4 + b / 16) :: UInt8.ofNat (b % 16 * 16 + c / 4) ::
        UInt8.ofNat (c % 4 * 64 + d) :: base64Bytes rest
  | [a, b, c] => [UInt8.ofNat (a * 4 + b / 16), UInt8.ofNat (b % 16 * 16 + c / 4)]
  | [a, b] => [UInt8.ofNat (a * 4 + b / 16)]
  | [_] => []
  | [] => []

/-- `Buffer.from(text, "base64")`. -/
def base64Decode (text : JsString) : Bytes := base64Bytes (base64Groups text)

theorem base64Value_digit {n : Nat} (small : n < 64) : base64Value (base64Digit n) = some n := by
  have value : (base64Digit n).toNat = if n < 26 then 65 + n else if n < 52 then 71 + n
      else if n < 62 then n - 4 else if n = 62 then 43 else 47 := by
    rw [base64Digit, ofNat_toNat16 (by split_ifs <;> omega)]
  simp only [base64Value, value]
  split_ifs <;> first | rfl | omega | (congr 1; omega)

theorem base64Digit_ne_padding {n : Nat} (small : n < 64) : base64Digit n ≠ 61 := by
  intro padding
  have value := base64Value_digit small
  rw [padding] at value
  cases value

theorem base64Groups_digit {n : Nat} (small : n < 64) (rest : JsString) :
    base64Groups (base64Digit n :: rest) = n :: base64Groups rest := by
  rw [base64Groups, List.takeWhile_cons_of_pos (by simpa using base64Digit_ne_padding small),
    List.filterMap_cons_some (base64Value_digit small), base64Groups]

theorem base64Groups_padding (rest : JsString) : base64Groups (61 :: rest) = [] := rfl

/-- What is written is ASCII. -/
theorem base64Encode_lt (bytes : Bytes) : ∀ u ∈ base64Encode bytes, u.toNat < 128 := by
  have digit {n : Nat} (small : n < 64) : (base64Digit n).toNat < 128 := by
    rw [base64Digit, ofNat_toNat16 (by split_ifs <;> omega)]
    split_ifs <;> omega
  have padding : (61 : UInt16).toNat < 128 := by decide
  fun_induction base64Encode bytes with
  | case1 a b c rest ih =>
      have ha := a.toNat_lt
      have hb := b.toNat_lt
      have hc := c.toNat_lt
      simp only [List.forall_mem_cons]
      exact ⟨digit (by omega), digit (by omega), digit (by omega), digit (by omega), ih⟩
  | case2 a b =>
      have ha := a.toNat_lt
      have hb := b.toNat_lt
      simp only [List.forall_mem_cons]
      exact ⟨digit (by omega), digit (by omega), digit (by omega), padding, fun _ mem => nomatch mem⟩
  | case3 a =>
      have ha := a.toNat_lt
      simp only [List.forall_mem_cons]
      exact ⟨digit (by omega), digit (by omega), padding, padding, fun _ mem => nomatch mem⟩
  | case4 => exact fun _ mem => nomatch mem

@[simp] theorem toWellFormed_base64Encode (bytes : Bytes) :
    toWellFormed (base64Encode bytes) = base64Encode bytes :=
  toWellFormed_of_lt fun u mem => lt_trans (base64Encode_lt bytes u mem) (by decide)

theorem base64Decode_encode (bytes : Bytes) : base64Decode (base64Encode bytes) = bytes := by
  have same {n : Nat} {byte : UInt8} (h : n = byte.toNat) : UInt8.ofNat n = byte := by
    rw [h, UInt8.ofNat_toNat]
  unfold base64Decode
  fun_induction base64Encode bytes with
  | case1 a b c rest ih =>
      have ha := a.toNat_lt
      have hb := b.toNat_lt
      have hc := c.toNat_lt
      rw [base64Groups_digit (by omega), base64Groups_digit (by omega),
        base64Groups_digit (by omega), base64Groups_digit (by omega), base64Bytes, ih,
        same (show _ = a.toNat by omega), same (show _ = b.toNat by omega), same (show _ = c.toNat by omega)]
  | case2 a b =>
      have ha := a.toNat_lt
      have hb := b.toNat_lt
      rw [base64Groups_digit (by omega), base64Groups_digit (by omega),
        base64Groups_digit (by omega), base64Groups_padding, base64Bytes,
        same (show _ = a.toNat by omega), same (show _ = b.toNat by omega)]
  | case3 a =>
      have ha := a.toNat_lt
      rw [base64Groups_digit (by omega), base64Groups_digit (by omega), base64Groups_padding,
        base64Bytes, same (show _ = a.toNat by omega)]
  | case4 => rfl

end Synxed.Lib
