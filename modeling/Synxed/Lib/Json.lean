import Mathlib.Data.Int.Log
import Synxed.Lib.Script

/-!
JSON text: `JSON.stringify` of an object of strings, and `JSON.parse`.

`parse_objectText` is the round trip: parsing what `JSON.stringify` writes gives
the members back, for every string. What it writes never holds a lone
surrogate, so it survives UTF-8 (`utf8Text_objectText`). A JSON number is read
as the nearest double: exact below 2^53 (`toDouble_natCast`), never a safe
integer from there on (`toDouble_large`).
-/

namespace Synxed.Lib

/-! ### Doubles -/

/-- The nearest integer, ties to even. -/
def roundHalfEven (q : ℚ) : Int :=
  let low := ⌊q⌋
  if q - low < 1 / 2 then low
  else if 1 / 2 < q - low then low + 1
  else if low % 2 = 0 then low else low + 1

/-- The double nearest to a rational that is not negative. -/
def toDouble (q : ℚ) : JsNumber :=
  if q = 0 then .finite 0
  else
    let exponent := max (Int.log 2 q - 52) (-1074)
    let value := roundHalfEven (q / 2 ^ exponent) * (2 : ℚ) ^ exponent
    if value < 2 ^ 1024 then .finite value else .infinite false

theorem roundHalfEven_intCast (n : Int) : roundHalfEven (n : ℚ) = n := by
  simp [roundHalfEven]

theorem floor_le_roundHalfEven (q : ℚ) : ⌊q⌋ ≤ roundHalfEven q := by
  simp only [roundHalfEven]
  split_ifs <;> omega

/-- Integers below 2^53 are doubles. -/
theorem toDouble_natCast {n : Nat} (small : n < 2 ^ 53) : toDouble n = .ofInt n := by
  rcases Nat.eq_zero_or_pos n with rfl | positive
  · rfl
  have nonzero : (n : ℚ) ≠ 0 := by exact_mod_cast positive.ne'
  have logLe : Nat.log 2 n ≤ 52 := Nat.lt_succ_iff.mp (Nat.log_lt_of_lt_pow positive.ne' small)
  obtain ⟨k, hk⟩ := Nat.exists_eq_add_of_le logLe
  have exponent : max (Int.log 2 (n : ℚ) - 52) (-1074) = -(k : Int) := by
    rw [Int.log_natCast]
    omega
  have scaled : (n : ℚ) / 2 ^ (-(k : Int)) = ((n * 2 ^ k : Nat) : Int) := by
    rw [zpow_neg, zpow_natCast, div_inv_eq_mul]
    push_cast
    rfl
  have value : (roundHalfEven ((n : ℚ) / 2 ^ (-(k : Int))) : ℚ) * 2 ^ (-(k : Int)) = n := by
    rw [scaled, roundHalfEven_intCast, ← scaled, div_mul_cancel₀ _ (by positivity)]
  have finite : (n : ℚ) < 2 ^ 1024 := by
    calc (n : ℚ) < 2 ^ 53 := by exact_mod_cast small
      _ ≤ 2 ^ 1024 := by gcongr <;> norm_num
  simp only [toDouble, nonzero, if_false, exponent, value, finite, if_true, JsNumber.ofInt,
    Int.cast_natCast]

/-- An integer from 2^53 on does not become a safe integer. -/
theorem toDouble_large {n : Nat} (large : 2 ^ 53 ≤ n) :
    toDouble n = .infinite false ∨ ∃ q : ℚ, toDouble n = .finite q ∧ 2 ^ 53 ≤ q := by
  have positive : 0 < n := lt_of_lt_of_le (by norm_num) large
  have nonzero : (n : ℚ) ≠ 0 := by exact_mod_cast positive.ne'
  have logGe : 53 ≤ Nat.log 2 n := Nat.le_log_of_pow_le (by decide) large
  obtain ⟨k, hk⟩ := Nat.exists_eq_add_of_le logGe
  have exponent : max (Int.log 2 (n : ℚ) - 52) (-1074) = ((k + 1 : Nat) : Int) := by
    rw [Int.log_natCast]
    omega
  have enough : ((2 ^ 52 : Int) : ℚ) ≤ (n : ℚ) / 2 ^ ((k + 1 : Nat) : Int) := by
    rw [le_div_iff₀ (by positivity), zpow_natCast]
    have power := Nat.pow_log_le_self 2 positive.ne'
    rw [hk, show 53 + k = 52 + (k + 1) by omega, pow_add] at power
    exact_mod_cast power
  have rounded : (2 ^ 52 : Int) ≤ roundHalfEven ((n : ℚ) / 2 ^ ((k + 1 : Nat) : Int)) :=
    (Int.le_floor.mpr enough).trans (floor_le_roundHalfEven _)
  have value : (2 ^ 53 : ℚ) ≤
      roundHalfEven ((n : ℚ) / 2 ^ ((k + 1 : Nat) : Int)) * 2 ^ ((k + 1 : Nat) : Int) := by
    have two : (2 : ℚ) ≤ 2 ^ ((k + 1 : Nat) : Int) := by
      rw [zpow_natCast, pow_succ]
      have := one_le_pow₀ (n := k) (show (1 : ℚ) ≤ 2 by norm_num)
      linarith
    have castRounded : (2 ^ 52 : ℚ) ≤ roundHalfEven ((n : ℚ) / 2 ^ ((k + 1 : Nat) : Int)) := by
      exact_mod_cast rounded
    calc (2 ^ 53 : ℚ) = 2 ^ 52 * 2 := by norm_num
      _ ≤ _ := by gcongr
  simp only [toDouble, nonzero, if_false, exponent]
  split
  · exact .inr ⟨_, rfl, value⟩
  · exact .inl rfl

/-- The first numbers `low * 10 ^ k`, `(low + 1) * 10 ^ k` that read back as the
double `n`, over the numbers `k` of digits left out, most first. -/
def shortestDecimal (n : Nat) : Nat → Nat
  | 0 => n
  | k + 1 =>
      let low := n / 10 ^ (k + 1) * 10 ^ (k + 1)
      let high := low + 10 ^ (k + 1)
      let lowReads := toDouble low = .ofInt n
      let highReads := toDouble high = .ofInt n
      if lowReads ∧ (¬ highReads ∨ n - low ≤ high - n) then low
      else if highReads then high
      else shortestDecimal n k

/-- `String(n)` of a number that is an integer: scientific from 10^21 on. -/
def integerText (n : Int) : JsString :=
  if n.natAbs < 10 ^ 21 then bigintText n
  else
    let digits := decimalText (shortestDecimal n.natAbs (Nat.log 10 n.natAbs))
    let significant := (digits.reverse.dropWhile fun u => u = 48).reverse
    (if n < 0 then [45] else []) ++ significant.take 1 ++
      (if 1 < significant.length then 46 :: significant.drop 1 else []) ++
      ([101, 43] ++ decimalText (digits.length - 1))

def JsNumber.neg : JsNumber → JsNumber
  | .finite value => .finite (-value)
  | .nan => .nan
  | .infinite negative => .infinite (!negative)

/-! ### Values -/

inductive Json where
  | null
  | bool (value : Bool)
  | number (value : JsNumber)
  | string (value : JsString)
  | array (items : List Json)
  | object (members : List (JsString × Json))

namespace Json

/-- `typeof value === "object" && value !== null`. -/
def isRecord : Json → Bool
  | array _ => true
  | object _ => true
  | _ => false

/-- `value[key]`, `none` when it is `undefined`. Of two members with one name
the later counts. No key the program looks up is a property of an array or of
`Object.prototype`. -/
def get (value : Json) (key : JsString) : Option Json :=
  match value with
  | object members => (members.reverse.find? fun member => member.1 = key).map (·.2)
  | _ => none

/-- `value[key] === text`. -/
def hasText (value : Json) (key text : JsString) : Bool :=
  match value.get key with
  | some (string found) => found = text
  | _ => false

theorem hasText_of_get {value : Json} {key text : JsString}
    (found : value.get key = some (string text)) : value.hasText key text := by
  rw [hasText, found]
  exact decide_eq_true rfl

end Json

/-! ### Writing -/

/-- `\uXXXX`. -/
def unicodeEscape (u : UInt16) : JsString :=
  [92, 117, hexDigit (u.toNat / 4096), hexDigit (u.toNat / 256 % 16), hexDigit (u.toNat / 16 % 16),
    hexDigit (u.toNat % 16)]

/-- A code unit inside a JSON string that is not half of a surrogate pair. -/
def quoteUnit (u : UInt16) : JsString :=
  if u = 34 then [92, 34]
  else if u = 92 then [92, 92]
  else if u = 8 then [92, 98]
  else if u = 12 then [92, 102]
  else if u = 10 then [92, 110]
  else if u = 13 then [92, 114]
  else if u = 9 then [92, 116]
  else if u.toNat < 32 || isHighSurrogate u || isLowSurrogate u then unicodeEscape u
  else [u]

/-- The inside of a JSON string. -/
def quoteUnits : JsString → JsString
  | [] => []
  | [u] => quoteUnit u
  | u :: v :: rest =>
      if isHighSurrogate u && isLowSurrogate v then u :: v :: quoteUnits rest
      else quoteUnit u ++ quoteUnits (v :: rest)

/-- `JSON.stringify` of a string. -/
def quote (s : JsString) : JsString := 34 :: (quoteUnits s ++ [34])

/-- The members of an object, each with the text of its value, between commas. -/
def membersText : List (JsString × JsString) → JsString
  | [] => []
  | [(key, value)] => quote key ++ 58 :: value
  | (key, value) :: next :: rest => quote key ++ 58 :: (value ++ 44 :: membersText (next :: rest))

/-- `JSON.stringify` of an object whose members have these texts. -/
def objectText (members : List (JsString × JsString)) : JsString := 123 :: (membersText members ++ [125])

/-! ### Reading -/

def isJsonSpace (u : UInt16) : Bool := u = 32 || u = 9 || u = 10 || u = 13

def skipSpace (s : JsString) : JsString := s.dropWhile isJsonSpace

/-- The value of a hexadecimal digit of either case. -/
def hexValue (u : UInt16) : Option Nat :=
  if 48 ≤ u.toNat ∧ u.toNat < 58 then some (u.toNat - 48)
  else if 97 ≤ u.toNat ∧ u.toNat < 103 then some (u.toNat - 87)
  else if 65 ≤ u.toNat ∧ u.toNat < 71 then some (u.toNat - 55)
  else none

/-- The four digits after `\u`. -/
def hexFour (a b c d : UInt16) : Option UInt16 := do
  let a ← hexValue a
  let b ← hexValue b
  let c ← hexValue c
  let d ← hexValue d
  some (UInt16.ofNat (a * 4096 + b * 256 + c * 16 + d))

/-- The code unit of a one-character escape. -/
def simpleEscape (u : UInt16) : Option UInt16 :=
  if u = 34 ∨ u = 92 ∨ u = 47 then some u
  else if u = 98 then some 8
  else if u = 102 then some 12
  else if u = 110 then some 10
  else if u = 114 then some 13
  else if u = 116 then some 9
  else none

/-- The rest of a string after its opening quote, and what follows it. -/
def parseString : Nat → JsString → Option (JsString × JsString)
  | 0, _ => none
  | _ + 1, [] => none
  | fuel + 1, u :: rest =>
      if u = 34 then some ([], rest)
      else if u = 92 then
        match rest with
        | [] => none
        | e :: tail =>
            if e = 117 then
              match tail with
              | a :: b :: c :: d :: after => do
                  let unit ← hexFour a b c d
                  let (text, left) ← parseString fuel after
                  some (unit :: text, left)
              | _ => none
            else do
              let unit ← simpleEscape e
              let (text, left) ← parseString fuel tail
              some (unit :: text, left)
      else if u.toNat < 32 then none
      else do
        let (text, left) ← parseString fuel rest
        some (u :: text, left)

def isDigit (u : UInt16) : Bool := 48 ≤ u.toNat && u.toNat < 58

/-- The value of a run of digits. -/
def digitsValue (digits : JsString) : Nat :=
  digits.foldl (fun value u => value * 10 + (u.toNat - 48)) 0

/-- `BigInt(String(n))` is `n`. -/
theorem digitsValue_decimalText (n : Nat) : digitsValue (decimalText n) = n := by
  unfold decimalText
  split
  · next zero => rw [zero]; rfl
  · have fold (digits : List Nat) (small : ∀ digit ∈ digits, digit < 10) :
        digitsValue (digits.reverse.map fun digit => UInt16.ofNat (48 + digit)) =
          Nat.ofDigits 10 digits := by
      rw [digitsValue, List.foldl_map, List.foldl_reverse, Nat.ofDigits_eq_foldr]
      induction digits with
      | nil => rfl
      | cons digit rest ih =>
          have here := small digit List.mem_cons_self
          rw [List.foldr_cons, List.foldr_cons,
            ih fun later mem => small later (List.mem_cons_of_mem _ mem), ofNat_toNat16 (by omega)]
          simp only [Nat.cast_id]
          omega
    rw [fold _ fun digit mem => Nat.digits_lt_base (by decide) mem, Nat.ofDigits_digits]

/-! ### Integers in other spellings -/

/-- The value of a digit in any radix up to 36. -/
def radixDigit (u : UInt16) : Nat :=
  if isDigit u then u.toNat - 48
  else if 97 ≤ u.toNat ∧ u.toNat < 123 then u.toNat - 87
  else if 65 ≤ u.toNat ∧ u.toNat < 91 then u.toNat - 55
  else 36

/-- The value of a run of digits in this radix. -/
def radixValue (radix : Nat) (digits : JsString) : Option Nat :=
  if digits ≠ [] ∧ digits.all fun u => radixDigit u < radix then
    some (digits.foldl (fun value u => value * radix + radixDigit u) 0)
  else none

/-- The radix that the text `0x`, `0o` or `0b` names. -/
def radixOf (mark : JsString) : Option Nat :=
  if mark = js "0x" ∨ mark = js "0X" then some 16
  else if mark = js "0o" ∨ mark = js "0O" then some 8
  else if mark = js "0b" ∨ mark = js "0B" then some 2
  else none

/-- `BigInt(text)`; `none` where it throws. Only decimals take a sign. -/
def parseBigint (text : JsString) : Option Int :=
  let literal := trim text
  if literal = [] then some 0
  else if literal.head? = some 45 then (radixValue 10 (literal.drop 1)).map fun value : Nat => -(value : Int)
  else if literal.head? = some 43 then (radixValue 10 (literal.drop 1)).map Int.ofNat
  else
    match radixOf (literal.take 2) with
    | some radix => (radixValue radix (literal.drop 2)).map Int.ofNat
    | none => (radixValue 10 literal).map Int.ofNat

theorem radixValue_decimalText (n : Nat) : radixValue 10 (decimalText n) = some n := by
  have digit : ∀ u ∈ decimalText n, radixDigit u = u.toNat - 48 := by
    intro u mem
    have range := mem_decimalText mem
    rw [radixDigit, if_pos (by simp only [isDigit, Bool.and_eq_true, decide_eq_true_eq]; omega)]
  have spelled : (decimalText n).all fun u => radixDigit u < 10 := by
    refine List.all_eq_true.mpr fun u mem => ?_
    have range := mem_decimalText mem
    rw [decide_eq_true_eq, digit u mem]
    omega
  rw [radixValue, if_pos ⟨decimalText_ne_nil n, spelled⟩]
  refine congrArg some ?_
  calc (decimalText n).foldl (fun value u => value * 10 + radixDigit u) 0
      = digitsValue (decimalText n) := List.foldl_ext _ _ _ fun value u mem => by rw [digit u mem]
    _ = n := digitsValue_decimalText n

/-- A text that neither starts nor ends with white space is trimmed already. -/
theorem trim_of_ends {s : JsString} (front : ∀ u ∈ s.head?, isSpace u = false)
    (back : ∀ u ∈ s.getLast?, isSpace u = false) : trim s = s := by
  have keep {s : JsString} (front : ∀ u ∈ s.head?, isSpace u = false) : s.dropWhile isSpace = s := by
    cases s with
    | nil => rfl
    | cons u rest => rw [List.dropWhile_cons_of_neg (by rw [front u rfl]; exact Bool.false_ne_true)]
  rw [trim, keep front, keep (by rwa [List.head?_reverse]), List.reverse_reverse]

/-- `BigInt(String(n))` is `n`. -/
theorem parseBigint_bigintText (n : Int) : parseBigint (bigintText n) = some n := by
  have solid : ∀ u ∈ bigintText n, u = 45 ∨ (48 ≤ u.toNat ∧ u.toNat < 58) := by
    intro u mem
    unfold bigintText at mem
    split at mem
    · rcases List.mem_cons.mp mem with rfl | mem
      · exact .inl rfl
      · exact .inr (mem_decimalText mem)
    · exact .inr (mem_decimalText mem)
  have notSpace : ∀ u ∈ bigintText n, isSpace u = false := by
    intro u mem
    have digits : ∀ n < 58, 48 ≤ n → isSpace (UInt16.ofNat n) = false := by decide
    rcases solid u mem with rfl | range
    · rfl
    · rw [← digits u.toNat range.2 range.1, UInt16.ofNat_toNat]
  have trimmed : trim (bigintText n) = bigintText n :=
    trim_of_ends (fun u mem => notSpace u (List.mem_of_mem_head? mem))
      (fun u mem => notSpace u (List.mem_of_mem_getLast? mem))
  have present : bigintText n ≠ [] := by
    unfold bigintText
    split
    · exact List.cons_ne_nil _ _
    · exact decimalText_ne_nil _
  simp only [parseBigint, trimmed, if_neg present]
  by_cases negative : n < 0
  · have spelled : bigintText n = 45 :: decimalText n.natAbs := if_pos negative
    rw [spelled, List.head?_cons, if_pos rfl, List.drop_one, List.tail_cons, radixValue_decimalText,
      Option.map_some]
    exact congrArg some (by omega)
  · have spelled : bigintText n = decimalText n.natAbs := if_neg negative
    have digit : ∀ u ∈ decimalText n.natAbs, 48 ≤ u.toNat ∧ u.toNat < 58 := fun _ => mem_decimalText
    have unsigned (sign : UInt16) (low : sign.toNat < 48) :
        (decimalText n.natAbs).head? ≠ some sign := by
      intro head
      have := digit sign (List.mem_of_mem_head? head)
      omega
    have unmarked (mark : UInt16) (high : 58 ≤ mark.toNat) :
        (decimalText n.natAbs).take 2 ≠ [48, mark] := by
      intro front
      have := digit mark (List.mem_of_mem_take (by rw [front]; simp))
      omega
    have decimal : radixOf ((decimalText n.natAbs).take 2) = none := by
      simp only [radixOf, show js "0x" = [48, 120] from rfl, show js "0X" = [48, 88] from rfl,
        show js "0o" = [48, 111] from rfl, show js "0O" = [48, 79] from rfl,
        show js "0b" = [48, 98] from rfl, show js "0B" = [48, 66] from rfl,
        unmarked 120 (by decide), unmarked 88 (by decide), unmarked 111 (by decide),
        unmarked 79 (by decide), unmarked 98 (by decide), unmarked 66 (by decide), or_self, if_false]
    rw [spelled, if_neg (unsigned 45 (by decide)), if_neg (unsigned 43 (by decide)), decimal,
      radixValue_decimalText]
    exact congrArg some (by simp; omega)

/-- The digits in front of a text; there must be one. -/
def takeDigits (s : JsString) : Option (JsString × JsString) :=
  let digits := s.takeWhile isDigit
  if digits = [] then none else some (digits, s.drop digits.length)

/-- An integer part: no leading zero. -/
def takeInteger (s : JsString) : Option (JsString × JsString) := do
  let (digits, rest) ← takeDigits s
  if digits.head? = some 48 ∧ digits.length ≠ 1 then some ([48], s.drop 1) else some (digits, rest)

/-- A fraction, when there is a point. -/
def takeFraction (s : JsString) : Option (JsString × JsString) :=
  if s.head? = some 46 then takeDigits (s.drop 1) else some ([], s)

/-- An exponent, when there is an `e`. -/
def takeExponent (s : JsString) : Option (Int × JsString) :=
  if s.head? = some 101 ∨ s.head? = some 69 then
    let signed := s.drop 1
    if signed.head? = some 45 then
      (takeDigits (signed.drop 1)).map fun read => (-(digitsValue read.1 : Int), read.2)
    else if signed.head? = some 43 then
      (takeDigits (signed.drop 1)).map fun read => ((digitsValue read.1 : Int), read.2)
    else (takeDigits signed).map fun read => ((digitsValue read.1 : Int), read.2)
  else some (0, s)

/-- A number without its sign. -/
def parseUnsigned (s : JsString) : Option (JsNumber × JsString) := do
  let (whole, rest) ← takeInteger s
  let (fraction, rest) ← takeFraction rest
  let (exponent, rest) ← takeExponent rest
  let value := (digitsValue (whole ++ fraction) : ℚ) * (10 : ℚ) ^ (exponent - fraction.length)
  some (toDouble value, rest)

def parseNumber (s : JsString) : Option (JsNumber × JsString) :=
  if s.head? = some 45 then (parseUnsigned (s.drop 1)).map fun read => (read.1.neg, read.2)
  else parseUnsigned s

/-- A literal name in front of a text. -/
def takeLiteral (name s : JsString) (value : Json) : Option (Json × JsString) :=
  if s.take name.length = name then some (value, s.drop name.length) else none

mutual

/-- A value and what follows it. Every step takes at least one code unit, so
`fuel` never needs to exceed the length of the text. -/
def parseValue : Nat → JsString → Option (Json × JsString)
  | 0, _ => none
  | fuel + 1, s =>
      match skipSpace s with
      | [] => none
      | u :: rest =>
          if u = 34 then (parseString fuel rest).map fun read => (.string read.1, read.2)
          else if u = 123 then
            if (skipSpace rest).head? = some 125 then some (.object [], (skipSpace rest).drop 1)
            else (parseMembers fuel rest).map fun read => (.object read.1, read.2)
          else if u = 91 then
            if (skipSpace rest).head? = some 93 then some (.array [], (skipSpace rest).drop 1)
            else (parseItems fuel rest).map fun read => (.array read.1, read.2)
          else if u = 116 then takeLiteral [116, 114, 117, 101] (u :: rest) (.bool true)
          else if u = 102 then takeLiteral [102, 97, 108, 115, 101] (u :: rest) (.bool false)
          else if u = 110 then takeLiteral [110, 117, 108, 108] (u :: rest) .null
          else (parseNumber (u :: rest)).map fun read => (.number read.1, read.2)

/-- The members of an object, up to its closing brace. -/
def parseMembers : Nat → JsString → Option (List (JsString × Json) × JsString)
  | 0, _ => none
  | fuel + 1, s =>
      match skipSpace s with
      | [] => none
      | u :: rest =>
          if u = 34 then
            match parseString fuel rest with
            | none => none
            | some (key, afterKey) =>
                match skipSpace afterKey with
                | [] => none
                | colon :: afterColon =>
                    if colon = 58 then
                      match parseValue fuel afterColon with
                      | none => none
                      | some (value, afterValue) =>
                          match skipSpace afterValue with
                          | [] => none
                          | next :: left =>
                              if next = 125 then some ([(key, value)], left)
                              else if next = 44 then
                                (parseMembers fuel left).map fun read =>
                                  ((key, value) :: read.1, read.2)
                              else none
                    else none
          else none

/-- The items of an array, up to its closing bracket. -/
def parseItems : Nat → JsString → Option (List Json × JsString)
  | 0, _ => none
  | fuel + 1, s =>
      match parseValue fuel s with
      | none => none
      | some (value, afterValue) =>
          match skipSpace afterValue with
          | [] => none
          | next :: left =>
              if next = 93 then some ([value], left)
              else if next = 44 then
                (parseItems fuel left).map fun read => (value :: read.1, read.2)
              else none

end

/-- `JSON.parse`; `none` where it throws. -/
def parse (s : JsString) : Option Json :=
  match parseValue (2 * s.length + 2) s with
  | none => none
  | some (value, rest) => if skipSpace rest = [] then some value else none

/-! ### Reading what was written -/

theorem hexValue_hexDigit {n : Nat} (small : n < 16) : hexValue (hexDigit n) = some n := by
  unfold hexDigit hexValue
  split
  · rw [ofNat_toNat16 (by omega), if_pos (by omega)]
    simp
  · rw [ofNat_toNat16 (by omega), if_neg (by omega), if_pos (by omega)]
    simp

theorem hexFour_unicodeEscape (u : UInt16) :
    hexFour (hexDigit (u.toNat / 4096)) (hexDigit (u.toNat / 256 % 16))
      (hexDigit (u.toNat / 16 % 16)) (hexDigit (u.toNat % 16)) = some u := by
  have small := u.toNat_lt
  rw [hexFour, hexValue_hexDigit (by omega), hexValue_hexDigit (by omega),
    hexValue_hexDigit (by omega), hexValue_hexDigit (by omega)]
  have value : u.toNat / 4096 * 4096 + u.toNat / 256 % 16 * 256 + u.toNat / 16 % 16 * 16 +
      u.toNat % 16 = u.toNat := by omega
  simp only [Option.bind_eq_bind, Option.bind_some, value, UInt16.ofNat_toNat]

/-- A code unit that is neither a quote, a backslash nor a control is read as it is. -/
theorem parseString_raw {fuel : Nat} {u : UInt16} {tail : JsString} (notQuote : u ≠ 34)
    (notBackslash : u ≠ 92) (notControl : ¬ u.toNat < 32) :
    parseString (fuel + 1) (u :: tail) =
      (parseString fuel tail).map fun read => (u :: read.1, read.2) := by
  rw [parseString.eq_def]
  simp only [notQuote, notBackslash, notControl, if_false]
  cases parseString fuel tail <;> rfl

theorem parseString_quoteUnit (fuel : Nat) (u : UInt16) (tail : JsString) :
    parseString (fuel + 1) (quoteUnit u ++ tail) =
      (parseString fuel tail).map fun read => (u :: read.1, read.2) := by
  have simple (e : UInt16) (notU : e ≠ 117) (unit : simpleEscape e = some u) :
      parseString (fuel + 1) (92 :: e :: tail) =
        (parseString fuel tail).map fun read => (u :: read.1, read.2) := by
    rw [parseString.eq_def]
    simp only [show ¬ ((92 : UInt16) = 34) by decide, if_true, notU, if_false, unit,
      Option.bind_eq_bind, Option.bind_some]
    cases parseString fuel tail <;> rfl
  unfold quoteUnit
  split_ifs with h34 h92 h8 h12 h10 h13 h9 hescape
  · exact simple 34 (by decide) (by subst h34; rfl)
  · exact simple 92 (by decide) (by subst h92; rfl)
  · exact simple 98 (by decide) (by subst h8; rfl)
  · exact simple 102 (by decide) (by subst h12; rfl)
  · exact simple 110 (by decide) (by subst h10; rfl)
  · exact simple 114 (by decide) (by subst h13; rfl)
  · exact simple 116 (by decide) (by subst h9; rfl)
  · rw [unicodeEscape, parseString.eq_def]
    simp only [List.cons_append, List.nil_append, if_true, hexFour_unicodeEscape,
      Option.bind_eq_bind, Option.bind_some, show ¬ ((92 : UInt16) = 34) by decide, if_false]
    cases parseString fuel tail <;> rfl
  · simp only [Bool.or_eq_true, decide_eq_true_eq, not_or] at hescape
    exact parseString_raw h34 h92 hescape.1.1

/-- A surrogate is neither a quote, a backslash nor a control. -/
theorem surrogate_raw {u : UInt16} (h : isHighSurrogate u = true ∨ isLowSurrogate u = true) :
    u ≠ 34 ∧ u ≠ 92 ∧ ¬ u.toNat < 32 := by
  have large : 0xD800 ≤ u.toNat := by
    rcases h with high | low
    · simp only [isHighSurrogate, Bool.and_eq_true, decide_eq_true_eq] at high
      exact high.1
    · simp only [isLowSurrogate, Bool.and_eq_true, decide_eq_true_eq] at low
      omega
  refine ⟨?_, ?_, by omega⟩
  · rintro rfl
    revert large
    decide
  · rintro rfl
    revert large
    decide

theorem parseString_quoteUnits (s rest : JsString) : ∀ fuel, s.length < fuel →
    parseString fuel (quoteUnits s ++ 34 :: rest) = some (s, rest) := by
  have close (fuel : Nat) : parseString (fuel + 1) (34 :: rest) = some ([], rest) := by
    rw [parseString.eq_def]
    simp only [if_true]
  fun_induction quoteUnits s with
  | case1 =>
      intro fuel enough
      obtain ⟨fuel, rfl⟩ := Nat.exists_eq_add_of_lt enough
      exact close _
  | case2 u =>
      intro fuel enough
      obtain ⟨fuel, rfl⟩ : ∃ k, fuel = k + 1 + 1 := ⟨fuel - 2, by simp at enough; omega⟩
      rw [parseString_quoteUnit, close]
      rfl
  | case3 u v s pair ih =>
      intro fuel enough
      obtain ⟨fuel, rfl⟩ : ∃ k, fuel = k + 1 + 1 := ⟨fuel - 2, by simp at enough; omega⟩
      simp only [Bool.and_eq_true] at pair
      obtain ⟨hu34, hu92, huc⟩ := surrogate_raw (.inl pair.1)
      obtain ⟨hv34, hv92, hvc⟩ := surrogate_raw (.inr pair.2)
      rw [List.cons_append, List.cons_append, parseString_raw hu34 hu92 huc,
        parseString_raw hv34 hv92 hvc, ih fuel (by simp at enough; omega)]
      rfl
  | case4 u v s notPair ih =>
      intro fuel enough
      obtain ⟨fuel, rfl⟩ : ∃ k, fuel = k + 1 := ⟨fuel - 1, by omega⟩
      rw [List.append_assoc, parseString_quoteUnit, ih fuel (by simp at enough ⊢; omega)]
      rfl

/-- `text` is a JSON text of `value`, wherever an object holds it. -/
def Parses (text : JsString) (value : Json) : Prop :=
  ∀ fuel next rest, next = 44 ∨ next = 125 → text.length < fuel →
    parseValue fuel (text ++ next :: rest) = some (value, next :: rest)

theorem skipSpace_cons {u : UInt16} {rest : JsString} (h : isJsonSpace u = false) :
    skipSpace (u :: rest) = u :: rest := by
  rw [skipSpace, List.dropWhile_cons, h]
  rfl

theorem length_le_quoteUnits (s : JsString) : s.length ≤ (quoteUnits s).length := by
  have one (u : UInt16) : 1 ≤ (quoteUnit u).length := by
    unfold quoteUnit
    split_ifs <;> simp [unicodeEscape]
  fun_induction quoteUnits s with
  | case1 => simp
  | case2 u => simpa using one u
  | case3 u v s pair ih => simpa using ih
  | case4 u v s notPair ih =>
      have := one u
      simp only [List.length_cons, List.length_append] at ih ⊢
      omega

theorem quote_parses (s : JsString) : Parses (quote s) (.string s) := by
  intro fuel next rest _ enough
  have long := length_le_quoteUnits s
  simp only [quote, List.length_cons, List.length_append, List.length_nil] at enough
  obtain ⟨fuel, rfl⟩ : ∃ k, fuel = k + 1 := ⟨fuel - 1, by omega⟩
  rw [quote, List.cons_append, parseValue, skipSpace_cons (by decide)]
  simp only [if_true]
  rw [List.append_assoc, List.singleton_append,
    parseString_quoteUnits s (next :: rest) fuel (by omega)]
  rfl

theorem isDigit_of_mem_decimalText {n : Nat} {u : UInt16} (mem : u ∈ decimalText n) :
    isDigit u = true := by
  obtain ⟨low, high⟩ := mem_decimalText mem
  simp [isDigit, low, high]

/-- Only zero is written with a leading zero. -/
theorem head?_decimalText {n : Nat} (nonzero : n ≠ 0) : (decimalText n).head? ≠ some 48 := by
  rw [decimalText, if_neg nonzero, List.head?_map, List.head?_reverse]
  have digits : Nat.digits 10 n ≠ [] := Nat.digits_ne_nil_iff_ne_zero.mpr nonzero
  have last := Nat.getLast_digit_ne_zero 10 nonzero
  have small := Nat.digits_lt_base (by decide) (List.getLast_mem digits)
  rw [List.getLast?_eq_some_getLast digits, Option.map_some, ne_eq, Option.some.injEq,
    ← UInt16.toNat_inj, ofNat_toNat16 (by omega)]
  intro same
  change 48 + _ = 48 at same
  omega

theorem takeInteger_decimalText (n : Nat) {next : UInt16} (ends : isDigit next = false)
    (rest : JsString) :
    takeInteger (decimalText n ++ next :: rest) = some (decimalText n, next :: rest) := by
  have digits : (decimalText n ++ next :: rest).takeWhile isDigit = decimalText n := by
    rw [List.takeWhile_append_of_pos fun u mem => isDigit_of_mem_decimalText mem,
      List.takeWhile_cons_of_neg (by simp [ends]), List.append_nil]
  have lead : ¬ ((decimalText n).head? = some 48 ∧ (decimalText n).length ≠ 1) := by
    rintro ⟨zero, long⟩
    by_cases isZero : n = 0
    · rw [isZero] at long
      exact long rfl
    · exact head?_decimalText isZero zero
  rw [takeInteger, takeDigits, digits, if_neg (decimalText_ne_nil n), List.drop_left]
  simp only [Option.bind_eq_bind, Option.bind_some, if_neg lead]

/-- A natural number that a double holds exactly is written and read back. -/
theorem decimalText_parses {n : Nat} (small : n < 2 ^ 53) :
    Parses (decimalText n) (.number (.ofInt n)) := by
  intro fuel next rest ends enough
  obtain ⟨fuel, rfl⟩ : ∃ k, fuel = k + 1 := ⟨fuel - 1, by omega⟩
  have notDigit : isDigit next = false := by
    rcases ends with rfl | rfl <;> decide
  have plain : next ≠ 46 ∧ next ≠ 101 ∧ next ≠ 69 := by
    rcases ends with rfl | rfl <;> decide
  have unsigned : parseUnsigned (decimalText n ++ next :: rest) = some (.ofInt n, next :: rest) := by
    simp only [parseUnsigned, takeInteger_decimalText n notDigit, takeFraction, takeExponent,
      List.head?_cons, Option.some.injEq, plain, if_false, or_self, Option.bind_eq_bind,
      Option.bind_some, List.append_nil, digitsValue_decimalText, List.length_nil]
    rw [Int.ofNat_zero, sub_zero, zpow_zero, mul_one, toDouble_natCast small]
  obtain ⟨u, tail, text⟩ := List.exists_cons_of_ne_nil (decimalText_ne_nil n)
  have digit : 48 ≤ u.toNat ∧ u.toNat < 58 :=
    mem_decimalText (by rw [text]; exact List.mem_cons_self)
  have other (v : UInt16) (notDigit : v.toNat < 48 ∨ 58 ≤ v.toNat) : u ≠ v := by
    rintro rfl
    omega
  have space : isJsonSpace u = false := by
    simp [isJsonSpace, other 32 (by decide), other 9 (by decide), other 10 (by decide),
      other 13 (by decide)]
  rw [text] at unsigned ⊢
  rw [List.cons_append] at unsigned ⊢
  rw [parseValue, skipSpace_cons space]
  simp only [if_neg (other 34 (by decide)), if_neg (other 123 (by decide)),
    if_neg (other 91 (by decide)), if_neg (other 116 (by decide)), if_neg (other 102 (by decide)),
    if_neg (other 110 (by decide)), parseNumber, List.head?_cons, Option.some.injEq,
    if_neg (other 45 (by decide)), unsigned, Option.map_some]

/-- One member is read, up to what follows its value. -/
theorem parseMembers_member {fuel : Nat} {key text : JsString} {value : Json}
    (parses : Parses text value) {next : UInt16} (rest : JsString) (ends : next = 44 ∨ next = 125)
    (enough : key.length < fuel ∧ text.length < fuel) :
    parseMembers (fuel + 1) (quote key ++ 58 :: (text ++ next :: rest)) =
      if next = 125 then some ([(key, value)], rest)
      else (parseMembers fuel rest).map fun read => ((key, value) :: read.1, read.2) := by
  have notSpace : isJsonSpace next = false := by
    rcases ends with rfl | rfl <;> rfl
  rw [parseMembers, quote, List.cons_append, skipSpace_cons (by decide)]
  simp only [if_true]
  rw [List.append_assoc, List.singleton_append, parseString_quoteUnits key _ fuel enough.1]
  simp only [skipSpace_cons (show isJsonSpace 58 = false by decide), if_true]
  rw [parses fuel next rest ends enough.2]
  simp only [skipSpace_cons notSpace]
  rcases ends with rfl | rfl
  · simp
  · simp

/-- The members of an object read back, given that the values do. -/
theorem parseMembers_membersText {members : List (JsString × JsString)}
    {values : List (JsString × Json)}
    (each : List.Forall₂ (fun member value => member.1 = value.1 ∧ Parses member.2 value.2)
      members values) (nonempty : members ≠ []) (rest : JsString) :
    ∀ fuel, (membersText members).length < fuel →
      parseMembers fuel (membersText members ++ 125 :: rest) = some (values, rest) := by
  induction each with
  | nil => exact absurd rfl nonempty
  | @cons member value members values head tail ih =>
      obtain ⟨key, text⟩ := member
      obtain ⟨key', value⟩ := value
      obtain ⟨rfl, parses⟩ := head
      intro fuel enough
      have long := length_le_quoteUnits key
      cases tail with
      | nil =>
          simp only [membersText, quote, List.length_append, List.length_cons,
            List.length_nil] at enough
          obtain ⟨fuel, rfl⟩ : ∃ k, fuel = k + 1 := ⟨fuel - 1, by omega⟩
          have fits : key.length < fuel ∧ text.length < fuel := by omega
          simp only [membersText, List.append_assoc, List.cons_append]
          rw [parseMembers_member parses rest (.inr rfl) fits, if_pos rfl]
      | @cons next nextValue more moreValues nextHead nextTail =>
          simp only [membersText, quote, List.length_append, List.length_cons,
            List.length_nil] at enough
          obtain ⟨fuel, rfl⟩ : ∃ k, fuel = k + 1 := ⟨fuel - 1, by omega⟩
          have fits : key.length < fuel ∧ text.length < fuel := by omega
          simp only [membersText, List.append_assoc, List.cons_append]
          rw [parseMembers_member parses _ (.inl rfl) fits, if_neg (by decide),
            ih (by simp) fuel (by omega)]
          rfl

/-- **The round trip.** Parsing the text of an object gives its members. -/
theorem parse_objectText {members : List (JsString × JsString)} {values : List (JsString × Json)}
    (each : List.Forall₂ (fun member value => member.1 = value.1 ∧ Parses member.2 value.2)
      members values) (nonempty : members ≠ []) :
    parse (objectText members) = some (.object values) := by
  have opens : ∃ tail, membersText members ++ [125] = 34 :: tail := by
    match members, nonempty with
    | [(key, text)], _ => exact ⟨_, rfl⟩
    | (key, text) :: next :: rest, _ => exact ⟨_, rfl⟩
  obtain ⟨tail, first⟩ := opens
  have notEmpty : (skipSpace (membersText members ++ [125])).head? ≠ some 125 := by
    rw [first, skipSpace_cons (by decide)]
    simp
  rw [parse, objectText, List.length_cons, Nat.mul_succ, Nat.add_assoc, parseValue,
    skipSpace_cons (by decide)]
  simp only [show ¬ ((123 : UInt16) = 34) by decide, if_false, if_true, notEmpty]
  rw [parseMembers_membersText each nonempty [] _ (by
    simp only [List.length_append, List.length_singleton]; omega)]
  rfl

/-! ### What is written is well formed -/

/-- The text is the code units of some characters. -/
def IsText (s : JsString) : Prop := ∃ chars : List Char, s = chars.flatMap utf16

theorem IsText.nil : IsText [] := ⟨[], rfl⟩

theorem IsText.append {s t : JsString} (hs : IsText s) (ht : IsText t) : IsText (s ++ t) := by
  obtain ⟨chars, rfl⟩ := hs
  obtain ⟨chars', rfl⟩ := ht
  exact ⟨chars ++ chars', by rw [List.flatMap_append]⟩

/-- A code unit that is no surrogate is a character. -/
theorem IsText.unit {u : UInt16} (h : isHighSurrogate u = false) (l : isLowSurrogate u = false) :
    IsText [u] := by
  simp only [isHighSurrogate, isLowSurrogate, Bool.and_eq_false_iff, decide_eq_false_iff_not] at h l
  have small := u.toNat_lt
  have valid : u.toNat.isValidChar := by
    rw [Nat.isValidChar]
    omega
  have value : (Char.ofNat u.toNat).toNat = u.toNat := toNat_ofNat valid
  refine ⟨[Char.ofNat u.toNat], ?_⟩
  rw [List.flatMap_cons, List.flatMap_nil, List.append_nil, utf16, value, if_pos (by omega),
    UInt16.ofNat_toNat]

/-- A surrogate pair is a character. -/
theorem IsText.pair {u v : UInt16} (h : isHighSurrogate u = true) (l : isLowSurrogate v = true) :
    IsText [u, v] := by
  have value := toNat_pairChar (u := u) (v := v) (by rw [h, l]; rfl)
  simp only [isHighSurrogate, isLowSurrogate, Bool.and_eq_true, decide_eq_true_eq] at h l
  refine ⟨[pairChar u v], ?_⟩
  have high : 0xD800 + (0x10000 + (u.toNat - 0xD800) * 0x400 + (v.toNat - 0xDC00) - 0x10000) /
      0x400 = u.toNat := by omega
  have low : 0xDC00 + (0x10000 + (u.toNat - 0xD800) * 0x400 + (v.toNat - 0xDC00) - 0x10000) %
      0x400 = v.toNat := by omega
  rw [List.flatMap_cons, List.flatMap_nil, List.append_nil, utf16, value, if_neg (by omega), high,
    low, UInt16.ofNat_toNat, UInt16.ofNat_toNat]

/-- A text of ASCII code units. -/
theorem IsText.ascii {s : JsString} (small : ∀ u ∈ s, u.toNat < 128) : IsText s := by
  induction s with
  | nil => exact IsText.nil
  | cons u rest ih =>
      have here := small u List.mem_cons_self
      refine IsText.append (s := [u]) (IsText.unit ?_ ?_) (ih fun v mem => small v (by simp [mem]))
      · simp only [isHighSurrogate, Bool.and_eq_false_iff, decide_eq_false_iff_not]
        omega
      · simp only [isLowSurrogate, Bool.and_eq_false_iff, decide_eq_false_iff_not]
        omega

theorem hexDigit_small {n : Nat} (small : n < 16) : (hexDigit n).toNat < 128 := by
  rw [hexDigit, ofNat_toNat16 (by split <;> omega)]
  split <;> omega

theorem isText_quoteUnit (u : UInt16) : IsText (quoteUnit u) := by
  have small := u.toNat_lt
  unfold quoteUnit
  split_ifs with h34 h92 h8 h12 h10 h13 h9 hescape
  iterate 7 exact IsText.ascii (by simp)
  · refine IsText.ascii fun v mem => ?_
    simp only [unicodeEscape, List.mem_cons, List.not_mem_nil, or_false] at mem
    rcases mem with rfl | rfl | rfl | rfl | rfl | rfl
    · decide
    · decide
    all_goals exact hexDigit_small (by omega)
  · simp only [Bool.or_eq_true, decide_eq_true_eq, not_or, Bool.not_eq_true] at hescape
    exact IsText.unit hescape.1.2 hescape.2

theorem isText_quoteUnits (s : JsString) : IsText (quoteUnits s) := by
  fun_induction quoteUnits s with
  | case1 => exact IsText.nil
  | case2 u => exact isText_quoteUnit u
  | case3 u v s pair ih =>
      simp only [Bool.and_eq_true] at pair
      exact IsText.append (s := [u, v]) (IsText.pair pair.1 pair.2) ih
  | case4 u v s notPair ih => exact (isText_quoteUnit u).append ih

theorem isText_quote (s : JsString) : IsText (quote s) :=
  IsText.append (s := [34]) (IsText.ascii (by simp))
    ((isText_quoteUnits s).append (IsText.ascii (by simp)))

theorem isText_decimalText (n : Nat) : IsText (decimalText n) := by
  refine IsText.ascii fun u mem => ?_
  have := mem_decimalText mem
  omega
theorem isText_objectText {members : List (JsString × JsString)}
    (values : ∀ member ∈ members, IsText member.2) : IsText (objectText members) := by
  have inside : IsText (membersText members) := by
    fun_induction membersText members with
    | case1 => exact IsText.nil
    | case2 key value =>
        exact (isText_quote key).append (IsText.append (s := [58]) (IsText.ascii (by simp))
          (values _ List.mem_cons_self))
    | case3 key value next rest ih =>
        refine (isText_quote key).append (IsText.append (s := [58]) (IsText.ascii (by simp)) ?_)
        exact (values _ List.mem_cons_self).append (IsText.append (s := [44])
          (IsText.ascii (by simp)) (ih fun member mem => values member (by simp [mem])))
  exact IsText.append (s := [123]) (IsText.ascii (by simp))
    (inside.append (IsText.ascii (by simp)))

/-- An object's text survives UTF-8. -/
theorem utf8Text_objectText {members : List (JsString × JsString)}
    (values : ∀ member ∈ members, IsText member.2) :
    utf8Text (textEncode (objectText members)) = some (objectText members) := by
  obtain ⟨chars, text⟩ := isText_objectText values
  rw [utf8Text_textEncode, text, toWellFormed_flatMap_utf16]

/-- An object of strings survives UTF-8 and is read back. -/
theorem utf8Text_stringsText (members : List (JsString × JsString)) :
    utf8Text (textEncode (objectText (members.map fun member => (member.1, quote member.2)))) =
      some (objectText (members.map fun member => (member.1, quote member.2))) := by
  refine utf8Text_objectText fun member mem => ?_
  obtain ⟨own, _, rfl⟩ := List.mem_map.mp mem
  exact isText_quote own.2

theorem parse_stringsText {members : List (JsString × JsString)} (nonempty : members ≠ []) :
    parse (objectText (members.map fun member => (member.1, quote member.2))) =
      some (.object (members.map fun member => (member.1, .string member.2))) := by
  refine parse_objectText (List.forall₂_map_left_iff.mpr (List.forall₂_map_right_iff.mpr
    (List.forall₂_same.mpr fun member _ => ⟨rfl, quote_parses member.2⟩))) ?_
  simpa using nonempty

end Synxed.Lib
