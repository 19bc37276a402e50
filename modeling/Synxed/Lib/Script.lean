import Synxed.Lib.Bytes

/-!
JavaScript strings and numbers.

A string is a list of UTF-16 code units, as the language has it: comparing,
sorting and trimming look at code units, and a string may hold surrogates that
pair with nothing, which `TextEncoder` replaces.

* `utf8Text_textEncode`: UTF-8 keeps a string up to its lone surrogates.
* `append_nul_inj`: a text before the first NUL is read off.
* `sorted_eq_iff_perm`: two sorted lists are equal exactly when one list is a
  permutation of the other.
-/

namespace Synxed.Lib

abbrev JsString := List UInt16

instance : LawfulBEq JsString := inferInstance

/-- The UTF-16 code units of a character. -/
def utf16 (c : Char) : JsString :=
  if c.toNat < 0x10000 then [UInt16.ofNat c.toNat]
  else [UInt16.ofNat (0xD800 + (c.toNat - 0x10000) / 0x400),
    UInt16.ofNat (0xDC00 + (c.toNat - 0x10000) % 0x400)]

/-- A literal. -/
def js (literal : String) : JsString := literal.toList.flatMap utf16

/-! ### Surrogates and UTF-8 -/

def isHighSurrogate (u : UInt16) : Bool := 0xD800 ≤ u.toNat && u.toNat < 0xDC00
def isLowSurrogate (u : UInt16) : Bool := 0xDC00 ≤ u.toNat && u.toNat < 0xE000

/-- The character of a code unit that stands alone: a lone surrogate becomes
U+FFFD. -/
def loneChar (u : UInt16) : Char :=
  if isHighSurrogate u || isLowSurrogate u then Char.ofNat 0xFFFD else Char.ofNat u.toNat

/-- The character of a surrogate pair. -/
def pairChar (u v : UInt16) : Char :=
  Char.ofNat (0x10000 + (u.toNat - 0xD800) * 0x400 + (v.toNat - 0xDC00))

/-- The characters of a string, with U+FFFD for every lone surrogate. -/
def scalars : JsString → List Char
  | [] => []
  | [u] => [loneChar u]
  | u :: v :: rest =>
      if isHighSurrogate u && isLowSurrogate v then pairChar u v :: scalars rest
      else loneChar u :: scalars (v :: rest)

/-- `String.prototype.toWellFormed`. -/
def toWellFormed (s : JsString) : JsString := (scalars s).flatMap utf16

/-- `new TextEncoder().encode(s)`. -/
def textEncode (s : JsString) : Bytes := (scalars s).flatMap String.utf8EncodeChar

/-- The string a byte string encodes, when it is valid UTF-8. -/
def utf8Text (bytes : Bytes) : Option JsString :=
  bytes.toByteArray.utf8Decode?.map fun chars => chars.toList.flatMap utf16

/-- Only the empty string has no characters. -/
theorem scalars_eq_nil {s : JsString} : scalars s = [] ↔ s = [] := by
  constructor
  · intro none
    match s with
    | [] => rfl
    | [u] => cases none
    | u :: v :: rest =>
        rw [scalars] at none
        split at none <;> cases none
  · rintro rfl
    rfl

theorem ofNat_toNat16 {n : Nat} (small : n < 0x10000) : (UInt16.ofNat n).toNat = n := by
  simpa using Nat.mod_eq_of_lt small

theorem toNat_ofNat {n : Nat} (valid : n.isValidChar) : (Char.ofNat n).toNat = n := by
  rw [Char.ofNat, dif_pos valid]
  rfl

theorem toNat_pairChar {u v : UInt16} (pair : (isHighSurrogate u && isLowSurrogate v) = true) :
    (pairChar u v).toNat = 0x10000 + (u.toNat - 0xD800) * 0x400 + (v.toNat - 0xDC00) := by
  simp only [isHighSurrogate, isLowSurrogate, Bool.and_eq_true, decide_eq_true_eq] at pair
  refine toNat_ofNat ?_
  unfold Nat.isValidChar
  omega

/-- A character is not a surrogate and lies below 0x110000. -/
theorem char_range (c : Char) :
    c.toNat < 0xD800 ∨ (0xE000 ≤ c.toNat ∧ c.toNat < 0x110000) := by
  have range : c.toNat.isValidChar := c.valid
  rcases range with small | large
  · exact .inl small
  · exact .inr ⟨Nat.succ_le_of_lt large.1, large.2⟩

theorem scalars_utf16_append (c : Char) (s : JsString) :
    scalars (utf16 c ++ s) = c :: scalars s := by
  have range := char_range c
  by_cases small : c.toNat < 0x10000
  · have value : (UInt16.ofNat c.toNat).toNat = c.toNat := ofNat_toNat16 small
    have notHigh : isHighSurrogate (UInt16.ofNat c.toNat) = false := by
      simp only [isHighSurrogate, value, Bool.and_eq_false_iff, decide_eq_false_iff_not]
      omega
    have notLow : isLowSurrogate (UInt16.ofNat c.toNat) = false := by
      simp only [isLowSurrogate, value, Bool.and_eq_false_iff, decide_eq_false_iff_not]
      omega
    have lone : loneChar (UInt16.ofNat c.toNat) = c := by
      simp only [loneChar, notHigh, notLow, Bool.or_self, Bool.false_eq_true, if_false, value,
        Char.ofNat_toNat]
    rw [utf16, if_pos small]
    cases s with
    | nil => simp [scalars, lone]
    | cons v rest => simp [scalars, notHigh, lone]
  · have high : (UInt16.ofNat (0xD800 + (c.toNat - 0x10000) / 0x400)).toNat =
        0xD800 + (c.toNat - 0x10000) / 0x400 := ofNat_toNat16 (by omega)
    have low : (UInt16.ofNat (0xDC00 + (c.toNat - 0x10000) % 0x400)).toNat =
        0xDC00 + (c.toNat - 0x10000) % 0x400 := ofNat_toNat16 (by omega)
    have isHigh : isHighSurrogate (UInt16.ofNat (0xD800 + (c.toNat - 0x10000) / 0x400)) = true := by
      simp only [isHighSurrogate, high, Bool.and_eq_true, decide_eq_true_eq]
      omega
    have isLow : isLowSurrogate (UInt16.ofNat (0xDC00 + (c.toNat - 0x10000) % 0x400)) = true := by
      simp only [isLowSurrogate, low, Bool.and_eq_true, decide_eq_true_eq]
      omega
    rw [utf16, if_neg small]
    simp only [List.cons_append, List.nil_append, scalars, isHigh, isLow, Bool.and_self, if_true,
      List.cons.injEq, and_true, pairChar, high, low]
    have value : 0x10000 + (0xD800 + (c.toNat - 0x10000) / 0x400 - 0xD800) * 0x400 +
        (0xDC00 + (c.toNat - 0x10000) % 0x400 - 0xDC00) = c.toNat := by omega
    rw [value, Char.ofNat_toNat]

/-- A string of characters has exactly these characters. -/
@[simp] theorem scalars_flatMap_utf16 (chars : List Char) :
    scalars (chars.flatMap utf16) = chars := by
  induction chars with
  | nil => rfl
  | cons c rest ih => rw [List.flatMap_cons, scalars_utf16_append, ih]

/-- UTF-8 and back replaces lone surrogates and keeps everything else. -/
theorem utf8Text_textEncode (s : JsString) : utf8Text (textEncode s) = some (toWellFormed s) := by
  have encoded : (textEncode s).toByteArray = (scalars s).utf8Encode := rfl
  rw [utf8Text, encoded, List.utf8Decode?_utf8Encode]
  rfl

/-- A string of characters is well formed. -/
theorem toWellFormed_flatMap_utf16 (chars : List Char) :
    toWellFormed (chars.flatMap utf16) = chars.flatMap utf16 := by
  rw [toWellFormed, scalars_flatMap_utf16]

/-- A string without surrogates is well formed. -/
theorem toWellFormed_of_lt {s : JsString} (plain : ∀ u ∈ s, u.toNat < 0xD800) :
    toWellFormed s = s := by
  have chars : (s.map fun u => Char.ofNat u.toNat).flatMap utf16 = s := by
    induction s with
    | nil => rfl
    | cons u rest ih =>
        have small := plain u List.mem_cons_self
        have value : (Char.ofNat u.toNat).toNat = u.toNat := toNat_ofNat (.inl small)
        have unit : utf16 (Char.ofNat u.toNat) = [u] := by
          rw [utf16, value, if_pos (by omega), UInt16.ofNat_toNat]
        rw [List.map_cons, List.flatMap_cons, unit,
          ih fun v mem => plain v (List.mem_cons_of_mem _ mem), List.singleton_append]
  rw [← chars, toWellFormed_flatMap_utf16]

theorem textEncode_eq_nil {s : JsString} : textEncode s = [] ↔ s = [] := by
  rw [← scalars_eq_nil, textEncode, List.flatMap_eq_nil_iff]
  constructor
  · intro none
    refine List.eq_nil_iff_forall_not_mem.mpr fun c mem => ?_
    have := String.length_utf8EncodeChar c
    rw [none c mem] at this
    have positive := c.utf8Size_pos
    simp at this
    omega
  · rintro empty
    rw [empty]
    exact fun _ mem => nomatch mem

/-- UTF-8 tells strings apart up to their lone surrogates, and no further. -/
theorem textEncode_inj {s t : JsString} : textEncode s = textEncode t ↔ toWellFormed s = toWellFormed t := by
  constructor
  · intro same
    have decoded := utf8Text_textEncode s
    rw [same, utf8Text_textEncode] at decoded
    exact (Option.some.inj decoded).symm
  · intro same
    have inside := congrArg scalars same
    rw [toWellFormed, toWellFormed, scalars_flatMap_utf16, scalars_flatMap_utf16] at inside
    rw [textEncode, textEncode, inside]

/-! ### Texts joined by a NUL -/

/-- A NUL pairs with nothing: what stands before it and after it are read apart. -/
theorem scalars_append_nul (s t : JsString) :
    scalars (s ++ 0 :: t) = scalars s ++ loneChar 0 :: scalars t := by
  have nul (t : JsString) : scalars (0 :: t) = loneChar 0 :: scalars t := by
    cases t with
    | nil => rfl
    | cons v rest => exact if_neg (by simp [isHighSurrogate])
  induction s using scalars.induct with
  | case1 => exact nul t
  | case2 u =>
      have alone : ¬ (isHighSurrogate u && isLowSurrogate 0) = true := by
        rw [show isLowSurrogate 0 = false from rfl, Bool.and_false]
        exact Bool.false_ne_true
      calc scalars (u :: 0 :: t) = loneChar u :: scalars (0 :: t) := if_neg alone
        _ = scalars [u] ++ loneChar 0 :: scalars t := by rw [nul]; rfl
  | case3 u v rest pair ih =>
      rw [List.cons_append, List.cons_append, scalars, if_pos pair, ih, scalars, if_pos pair,
        List.cons_append]
  | case4 u v rest alone ih =>
      rw [List.cons_append, List.cons_append, scalars, if_neg alone, ← List.cons_append, ih, scalars,
        if_neg alone, List.cons_append]

theorem toWellFormed_append_nul (s t : JsString) :
    toWellFormed (s ++ 0 :: t) = toWellFormed s ++ 0 :: toWellFormed t := by
  have nul : utf16 (loneChar 0) = [0] := by decide
  rw [toWellFormed, scalars_append_nul, List.flatMap_append, List.flatMap_cons, nul,
    List.singleton_append]
  rfl

/-- A text before the first NUL is read off. -/
theorem append_nul_inj {s s' t t' : JsString} (plain : 0 ∉ s) (plain' : 0 ∉ s') :
    s ++ 0 :: t = s' ++ 0 :: t' ↔ s = s' ∧ t = t' := by
  constructor
  · intro same
    induction s generalizing s' with
    | nil =>
        cases s' with
        | nil => exact ⟨rfl, (List.cons.inj same).2⟩
        | cons u rest => exact absurd ((List.cons.inj same).1 ▸ List.mem_cons_self) plain'
    | cons u rest ih =>
        cases s' with
        | nil => exact absurd ((List.cons.inj same).1 ▸ List.mem_cons_self) plain
        | cons v rest₁ =>
            obtain ⟨rfl, same⟩ := List.cons.inj same
            obtain ⟨rfl, tails⟩ := ih (fun mem => plain (List.mem_cons_of_mem _ mem))
              (fun mem => plain' (List.mem_cons_of_mem _ mem)) (List.cons.inj same).2
            exact ⟨rfl, tails⟩
  · rintro ⟨rfl, rfl⟩
    rfl

/-! ### Trimming -/

/-- White space and line terminators. -/
def isSpace (u : UInt16) : Bool :=
  u ∈ ([0x9, 0xA, 0xB, 0xC, 0xD, 0x20, 0xA0, 0x1680, 0x2000, 0x2001, 0x2002, 0x2003, 0x2004, 0x2005,
    0x2006, 0x2007, 0x2008, 0x2009, 0x200A, 0x2028, 0x2029, 0x202F, 0x205F, 0x3000, 0xFEFF] :
    List UInt16)

/-- `String.prototype.trim`. -/
def trim (s : JsString) : JsString := (((s.dropWhile isSpace).reverse).dropWhile isSpace).reverse

/-! ### Numbers as text -/

/-- `String(n)` of a bigint that is not negative. -/
def decimalText (n : Nat) : JsString :=
  if n = 0 then [48] else (Nat.digits 10 n).reverse.map fun digit => UInt16.ofNat (48 + digit)

/-- `String(n)` of a bigint. -/
def bigintText (n : Int) : JsString :=
  if n < 0 then 45 :: decimalText n.natAbs else decimalText n.natAbs

/-- The digits of a decimal text are characters `0` to `9`. -/
theorem mem_decimalText {n : Nat} {u : UInt16} (mem : u ∈ decimalText n) :
    48 ≤ u.toNat ∧ u.toNat < 58 := by
  unfold decimalText at mem
  split at mem
  · cases List.mem_singleton.mp mem
    decide
  · obtain ⟨digit, digitMem, rfl⟩ := List.mem_map.mp mem
    have small := Nat.digits_lt_base (by decide) (List.mem_reverse.mp digitMem)
    rw [ofNat_toNat16 (by omega)]
    omega

theorem decimalText_ne_nil (n : Nat) : decimalText n ≠ [] := by
  unfold decimalText
  split
  · simp
  · next nonzero => simp [Nat.digits_ne_nil_iff_ne_zero.mpr nonzero]

/-- A lower-case hexadecimal digit. -/
def hexDigit (n : Nat) : UInt16 := UInt16.ofNat (if n < 10 then 48 + n else 87 + n)

/-- Two digits for every byte. -/
def hexText (bytes : Bytes) : JsString :=
  bytes.flatMap fun b => [hexDigit (b.toNat / 16), hexDigit (b.toNat % 16)]

theorem hexDigit_injective {m n : Nat} (hm : m < 16) (hn : n < 16)
    (same : hexDigit m = hexDigit n) : m = n := by
  have values := congrArg UInt16.toNat same
  unfold hexDigit at values
  rw [ofNat_toNat16 (by split <;> omega), ofNat_toNat16 (by split <;> omega)] at values
  split at values <;> split at values <;> omega

theorem hexText_injective {xs ys : Bytes} (same : hexText xs = hexText ys) : xs = ys := by
  induction xs generalizing ys with
  | nil =>
      cases ys with
      | nil => rfl
      | cons y ys => simp [hexText] at same
  | cons x xs ih =>
      cases ys with
      | nil => simp [hexText] at same
      | cons y ys =>
          simp only [hexText, List.flatMap_cons, List.cons_append, List.nil_append,
            List.cons.injEq] at same
          obtain ⟨high, low, rest⟩ := same
          have hx := x.toNat_lt
          have hy := y.toNat_lt
          have highEq := hexDigit_injective (by omega) (by omega) high
          have lowEq := hexDigit_injective (by omega) (by omega) low
          have byteEq : x = y := UInt8.toNat_inj.mp (by omega)
          rw [byteEq, ih rest]

/-! ### Dates -/

/-- `n` in at least `width` digits. -/
def padded (width n : Nat) : JsString :=
  List.replicate (width - (decimalText n).length) 48 ++ decimalText n

/-- Year, month and day of a day counted from 1970-01-01. Years start in March
in the computation, so that the leap day is a year's last. -/
def civilDate (day : Int) : Int × Nat × Nat :=
  let shifted := day + 719468
  let era := shifted / 146097
  let dayOfEra := (shifted % 146097).toNat
  let yearOfEra := (dayOfEra - dayOfEra / 1460 + dayOfEra / 36524 - dayOfEra / 146096) / 365
  let dayOfYear := dayOfEra - (365 * yearOfEra + yearOfEra / 4 - yearOfEra / 100)
  let month := (5 * dayOfYear + 2) / 153
  let year := yearOfEra + era * 400
  if month < 10 then (year, month + 3, dayOfYear - (153 * month + 2) / 5 + 1)
  else (year + 1, month - 9, dayOfYear - (153 * month + 2) / 5 + 1)

/-- `new Date(milliseconds).toISOString()`; `none` where it throws. -/
def toISOString (milliseconds : Int) : Option JsString :=
  if 8640000000000000 < milliseconds.natAbs then none
  else
    let day := milliseconds / 86400000
    let ofDay := (milliseconds % 86400000).toNat
    let (year, month, date) := civilDate day
    let yearText := if 0 ≤ year ∧ year < 10000 then padded 4 year.toNat
      else (if year < 0 then 45 else 43) :: padded 6 year.natAbs
    some (yearText ++ (45 :: padded 2 month) ++ (45 :: padded 2 date) ++
      (84 :: padded 2 (ofDay / 3600000)) ++ (58 :: padded 2 (ofDay / 60000 % 60)) ++
      (58 :: padded 2 (ofDay / 1000 % 60)) ++ (46 :: padded 3 (ofDay % 1000)) ++ [90])

/-! ### Sorting -/

/-- The order of strings: by code units, a prefix first. -/
def unitsLe (a b : JsString) : Prop := a.map UInt16.toNat ≤ b.map UInt16.toNat

instance : DecidableRel unitsLe := fun a b =>
  inferInstanceAs (Decidable (a.map UInt16.toNat ≤ b.map UInt16.toNat))

/-- `[...values].sort()`. -/
def sorted (values : List JsString) : List JsString := values.insertionSort unitsLe

instance : Std.Total unitsLe := ⟨fun a b => le_total (a.map UInt16.toNat) (b.map UInt16.toNat)⟩

instance : IsTrans JsString unitsLe := ⟨fun _ _ _ => le_trans⟩

instance : Std.Antisymm unitsLe := ⟨fun _ _ ab ba =>
  List.map_injective_iff.mpr (fun _ _ => UInt16.toNat_inj.mp) (le_antisymm ab ba)⟩

theorem sorted_eq_iff_perm {xs ys : List JsString} : sorted xs = sorted ys ↔ xs.Perm ys := by
  constructor
  · intro same
    have left := List.perm_insertionSort unitsLe xs
    have right := List.perm_insertionSort unitsLe ys
    unfold sorted at same
    rw [same] at left
    exact left.symm.trans right
  · intro perm
    refine List.Perm.eq_of_pairwise' (r := unitsLe) (List.pairwise_insertionSort _ _)
      (List.pairwise_insertionSort _ _) ?_
    exact ((List.perm_insertionSort unitsLe xs).trans perm).trans
      (List.perm_insertionSort unitsLe ys).symm

/-! ### Numbers -/

/-- A number: a double that is a rational value, or one of the others. The two
zeros are one value, as every comparison and conversion used here sees them. -/
inductive JsNumber where
  | finite (value : ℚ)
  | nan
  | infinite (negative : Bool)
  deriving DecidableEq

namespace JsNumber

def ofInt (n : Int) : JsNumber := finite n

/-- The integer a number is, when `Number.isInteger` says it is one. -/
def toInt? : JsNumber → Option Int
  | finite value => if value.den = 1 then some value.num else none
  | nan => none
  | infinite _ => none

@[simp] theorem toInt?_ofInt (n : Int) : (ofInt n).toInt? = some n := by
  simp [ofInt, toInt?]

theorem toInt?_eq_some {x : JsNumber} {n : Int} : x.toInt? = some n ↔ x = ofInt n := by
  constructor
  · intro h
    cases x with
    | finite value =>
        simp only [toInt?] at h
        split at h
        · next whole =>
            cases h
            simp only [ofInt, finite.injEq]
            exact (Rat.den_eq_one_iff value).mp whole |>.symm
        · cases h
    | nan => cases h
    | infinite negative => cases h
  · rintro rfl
    exact toInt?_ofInt n

theorem ofInt_injective {m n : Int} (same : ofInt m = ofInt n) : m = n := by
  simpa [ofInt] using same

end JsNumber

end Synxed.Lib
