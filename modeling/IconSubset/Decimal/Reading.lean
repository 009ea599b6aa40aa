import IconSubset.Decimal.Binary64
import IconSubset.Text.Digits

/-!
# Reading numbers

The value of a whole number, and of a decimal number with or without a point and an exponent.
-/

namespace IconSubset.Decimal

/-- A sign, if there is one, and whether it is a minus. -/
def takeSign : List Char → Bool × List Char
  | '-' :: cs => (true, cs)
  | '+' :: cs => (false, cs)
  | cs => (false, cs)

/-- A whole number with an optional sign. -/
def readInteger? (cs : List Char) : Option Int :=
  let (negative, digits) := takeSign cs
  (Text.number? Text.decimalDigit? 10 digits).map fun n => if negative then -(n : Int) else n

/-- A natural number with an optional plus sign. -/
def readNatural? (cs : List Char) : Option Nat :=
  let digits := match cs with
    | '+' :: rest => rest
    | _ => cs
  Text.number? Text.decimalDigit? 10 digits

/-- An exponent, as it follows the digits of a number; there may be none. -/
def readExponent? : List Char → Option Int
  | [] => some 0
  | c :: cs => if c = 'e' ∨ c = 'E' then readInteger? cs else none

/-- A decimal number: an optional sign, digits with at most one point among them or at either end,
and an optional exponent. -/
def readDecimal? (cs : List Char) : Option Binary64 :=
  let (negative, cs) := takeSign cs
  let whole := cs.takeWhile Text.isDigit
  let rest := cs.dropWhile Text.isDigit
  let (fraction, rest) := match rest with
    | '.' :: more => (more.takeWhile Text.isDigit, more.dropWhile Text.isDigit)
    | _ => ([], rest)
  (Text.number? Text.decimalDigit? 10 (whole ++ fraction)).bind fun digits =>
    (readExponent? rest).map fun e => .ofDecimal negative digits (e - fraction.length)

end IconSubset.Decimal
