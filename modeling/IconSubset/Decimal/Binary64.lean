/-!
# Numbers of binary64

The numbers that a configuration may hold beside integers: those of the 64-bit binary format, with
signed zeros, infinities and one value that is no number. A decimal is read as the nearest of them,
and one that lies halfway between two as the one whose mantissa is even. Everything is computed with
natural numbers.
-/

namespace IconSubset.Decimal

/-- A number of the 64-bit binary format. -/
inductive Binary64 where
  /-- `mantissa * 2 ^ exponent`, with a sign of its own. -/
  | finite (negative : Bool) (mantissa : Nat) (exponent : Int)
  | infinite (negative : Bool)
  | notANumber
deriving DecidableEq, Repr, Inhabited

/-- The number of bits of a mantissa. -/
def precision : Nat := 53

/-- The exponent of the least steps. -/
def leastExponent : Int := -1074

/-- The exponent of the greatest steps. -/
def greatestExponent : Int := 971

/-- A quotient rounded to the nearest natural number, a half to the even one. -/
def roundQuotient (n d : Nat) : Nat :=
  let q := n / d
  let r := n % d
  if 2 * r < d then q
  else if d < 2 * r then q + 1
  else if q % 2 = 0 then q else q + 1

/-- The quotient `n / d * base ^ e` as numerator and denominator. -/
def scaled (n d base : Nat) (e : Int) : Nat × Nat :=
  if 0 ≤ e then (n * base.pow e.toNat, d) else (n, d * base.pow (-e).toNat)

namespace Binary64

/-- The greatest exponent at which a positive quotient has a mantissa of full length, or the least
exponent of all. -/
def exponentFor (n d : Nat) : Int :=
  let estimate : Int := (n.log2 : Int) - (d.log2 : Int) - (precision : Int) + 1
  let (n', d') := scaled n d 2 (-estimate)
  let exact := if n' < d' <<< (precision - 1) then estimate - 1 else estimate
  max exact leastExponent

/-- The number nearest to a quotient; `d` is not zero. -/
def ofQuotient (negative : Bool) (n d : Nat) : Binary64 :=
  if n = 0 then .finite negative 0 leastExponent
  else
    let e := exponentFor n d
    let (n', d') := scaled n d 2 (-e)
    let m := roundQuotient n' d'
    let (m, e) := if m = 1 <<< precision then (1 <<< (precision - 1), e + 1) else (m, e)
    if greatestExponent < e then .infinite negative else .finite negative m e

/-- The number of decimal digits of a natural number. -/
def digitCount (n : Nat) : Nat := (Nat.toDigits 10 n).length

/-- The number nearest to `digits * 10 ^ exponent`. Exponents far out of range are settled without
computing powers. -/
def ofDecimal (negative : Bool) (digits : Nat) (exponent : Int) : Binary64 :=
  if digits = 0 then .finite negative 0 leastExponent
  else
    let magnitude := (digitCount digits : Int) + exponent
    if magnitude > 400 then .infinite negative
    else if magnitude < -400 then .finite negative 0 leastExponent
    else
      let (n, d) := scaled digits 1 10 exponent
      ofQuotient negative n d

end Binary64

end IconSubset.Decimal
