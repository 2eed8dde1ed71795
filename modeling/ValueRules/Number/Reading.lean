import ValueRules.Number.Rounding

/-!
Decimal texts and the numbers they stand for. Integers are ASCII digits after an optional sign; the
texts of doubles add a point, an exponent and the names of the infinities and of what is no number.
-/

namespace ValueRules.Number

/-- The number that a text of decimal digits stands for; `none` if it holds anything else or
nothing. -/
def natOfDigits? (digits : List Char) : Option Nat :=
  if digits ≠ [] ∧ digits.all Char.isDigit then some (Nat.ofDigitChars 10 digits 0) else none

/-- Whether a text begins with a minus sign, and what follows an optional sign. -/
def afterSign : List Char → Bool × List Char
  | '-' :: rest => (true, rest)
  | '+' :: rest => (false, rest)
  | text => (false, text)

/-- An optional sign and decimal digits. -/
def intOfText? (text : List Char) : Option Int :=
  let (negative, digits) := afterSign text
  (natOfDigits? digits).map fun (n : Nat) => if negative then -(n : Int) else n

/-- An optional plus sign and decimal digits. -/
def natOfText? : List Char → Option Nat
  | '+' :: digits => natOfDigits? digits
  | digits => natOfDigits? digits

/-- The integers of 64 bits with a sign, from `-2 ^ 63` up to `2 ^ 63`. -/
def IsInt64 (n : Int) : Prop := -0x8000000000000000 ≤ n ∧ n < 0x8000000000000000

instance (n : Int) : Decidable (IsInt64 n) := inferInstanceAs (Decidable (_ ∧ _))

/-- The signed 64-bit integer nearest to `n`. -/
def saturate (n : Int) : { n : Int // IsInt64 n } :=
  ⟨max (-0x8000000000000000) (min n 0x7fffffffffffffff), by constructor <;> omega⟩

/-- The signed 64-bit integer that a text stands for. -/
def int64? (text : String) : Option { n : Int // IsInt64 n } :=
  (intOfText? text.toList).bind fun n => if h : IsInt64 n then some ⟨n, h⟩ else none

/-- The natural number below `2 ^ 64` that a text stands for. -/
def uint64? (text : String) : Option Nat :=
  (natOfText? text.toList).filter fun n => n < 0x10000000000000000

/-- The power of ten after the digits: nothing, or `e`, an optional sign and digits. -/
def exponent? : List Char → Option Int
  | [] => some 0
  | c :: rest => if c = 'e' ∨ c = 'E' then intOfText? rest else none

/-- Digits with at most one point among them and at least one digit, then an exponent: the number of
the digits and the power of ten it is multiplied by. -/
def decimal? (text : List Char) : Option (Nat × Int) :=
  let whole := text.takeWhile Char.isDigit
  let rest := text.dropWhile Char.isDigit
  let (fraction, rest) : List Char × List Char :=
    match rest with
    | '.' :: rest => (rest.takeWhile Char.isDigit, rest.dropWhile Char.isDigit)
    | rest => ([], rest)
  match natOfDigits? (whole ++ fraction), exponent? rest with
  | some digits, some exponent => some (digits, exponent - fraction.length)
  | _, _ => none

def magnitude? (negative : Bool) (text : List Char) : Option Extended :=
  (decimal? text).map fun (digits, exponent) => .ofDecimal negative digits exponent

/-- The names of numbers that no digits write, in any case of the letters. -/
def named? (negative : Bool) (text : List Char) : Option Extended :=
  match String.ofList (text.map Char.toLower) with
  | "inf" | "infinity" => some (.infinite negative)
  | "nan" => some .nan
  | _ => none

def unsigned? (negative : Bool) (text : List Char) : Option Extended :=
  (magnitude? negative text).or (named? negative text)

/-- The double nearest to the number that a text stands for. -/
def extended? (text : String) : Option Extended :=
  let (negative, magnitude) := afterSign text.toList
  unsigned? negative magnitude

end ValueRules.Number
