import IconSubset.Decimal.Shortest

/-!
# How numbers are written

Two notations of the fewest digits. The plain one never uses an exponent and writes whole numbers
without a point; of two decimals as near it writes the greater, and settings are kept in it. The one
of JSON always shows that the number need not be whole, uses an exponent for great and small
numbers, and of two decimals as near writes the even one.
-/

namespace IconSubset.Decimal

/-- The decimal digits of a natural number. -/
def natDigits (n : Nat) : List Char := Nat.toDigits 10 n

/-- Digits with zeros after them or a point among them, as the exponent says. -/
def positional (d : Digits) : List Char :=
  let ds := natDigits d.digits
  if 0 ≤ d.exponent then ds ++ List.replicate d.exponent.toNat '0'
  else
    let places := (-d.exponent).toNat
    let padded := List.replicate (places + 1 - ds.length) '0' ++ ds
    padded.take (padded.length - places) ++ '.' :: padded.drop (padded.length - places)

/-- The power of ten of the first digit. -/
def Digits.leading (d : Digits) : Int := d.exponent + (natDigits d.digits).length - 1

/-- One digit, a point and the others, and an exponent with its sign. -/
def scientific (d : Digits) : List Char :=
  let ds := natDigits d.digits
  let fraction := if ds.length ≤ 1 then [] else '.' :: ds.drop 1
  let e := d.leading
  ds.take 1 ++ fraction ++ 'e' :: (if e < 0 then '-' else '+') :: natDigits e.natAbs

namespace Binary64

private def sign (negative : Bool) : List Char := if negative then ['-'] else []

/-- A number in plain notation. -/
def plain : Binary64 → String
  | notANumber => "NaN"
  | infinite negative => String.ofList (sign negative ++ "inf".toList)
  | finite negative m e => String.ofList (sign negative ++ positional (shortest .up m e))

/-- A number in the notation of JSON, which has none for what is not finite. -/
def json : Binary64 → String
  | notANumber | infinite _ => "null"
  | finite negative m e =>
    let d := shortest .toEven m e
    if m = 0 then String.ofList (sign negative ++ "0.0".toList)
    else if -5 ≤ d.leading ∧ d.leading ≤ 15 then
      String.ofList (sign negative ++ positional d ++
        (if 0 ≤ d.exponent then ['.', '0'] else []))
    else String.ofList (sign negative ++ scientific d)

end Binary64

end IconSubset.Decimal
