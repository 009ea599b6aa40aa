import IconSubset.Decimal.Binary64

/-!
# The fewest digits that read back

A number is written with the fewest decimal digits from which it can be read back, and with those
nearest to it when there is a choice; which of two that are as near is for the notation to say. The
digits are found on ever finer decimal grids: on each the
two neighbours of the number are tested, and the first grid on which one of them reads back wins.
-/

namespace IconSubset.Decimal

/-- The decimal `digits * 10 ^ exponent`. -/
structure Digits where
  /-- The digits as a natural number, without zeros at the end. -/
  digits : Nat
  /-- The power of ten of the last digit. -/
  exponent : Int
deriving DecidableEq, Repr, Inhabited

/-- Moves zeros at the end of the digits into the exponent. `fuel` bounds their number. -/
def Digits.strip : (fuel : Nat) → Digits → Digits
  | 0, d => d
  | fuel + 1, d =>
    if d.digits ≠ 0 ∧ d.digits % 10 = 0 then strip fuel ⟨d.digits / 10, d.exponent + 1⟩ else d

/-- Whether `a / b ≤ c / d`, or only `a / b < c / d` when the ends do not count. -/
def quotientBelow (closed : Bool) (a b c d : Nat) : Bool :=
  if closed then decide (a * d ≤ c * b) else decide (a * d < c * b)

/-- Whether `t * 10 ^ g` is read as `mantissa * 2 ^ exponent`: it lies between the points halfway to
the neighbours, and on one of them only when the mantissa is even. -/
def readsBack (mantissa : Nat) (exponent : Int) (t : Nat) (g : Int) : Bool :=
  let closed := mantissa % 2 = 0
  let narrow := mantissa = 1 <<< (precision - 1) ∧ leastExponent < exponent
  let (lowN, lowD) := scaled (if narrow then 4 * mantissa - 1 else 4 * mantissa - 2) 4 2 exponent
  let (highN, highD) := scaled (4 * mantissa + 2) 4 2 exponent
  let (n, d) := scaled t 1 10 g
  quotientBelow closed lowN lowD n d && quotientBelow closed n d highN highD

/-- The power of ten of the first digit of a positive quotient. -/
def leadingPower (n d : Nat) : Int :=
  let estimate := (Binary64.digitCount n : Int) - (Binary64.digitCount d : Int)
  let (n', d') := scaled n d 10 (-estimate)
  if n' < d' then estimate - 1 else estimate

/-- Which way a number goes that lies halfway between two decimals. -/
inductive Tie where
  /-- To the greater one. -/
  | up
  /-- To the one whose last digit is even. -/
  | toEven
deriving DecidableEq, Repr

/-- Whether the lower one of `t` and `t + 1` is taken when both are as near. -/
def Tie.takesBelow : Tie → Nat → Bool
  | up, _ => false
  | toEven, t => t % 2 = 0

/-- The neighbour of a number on a decimal grid that reads back; of two, the nearer one, or the one
that the tie names. -/
def onGrid (tie : Tie) (mantissa : Nat) (exponent : Int) (g : Int) : Option Digits :=
  let (vn, vd) := scaled mantissa 1 2 exponent
  let (n, d) := scaled vn vd 10 (-g)
  let t := n / d
  let below := t ≠ 0 && readsBack mantissa exponent t g
  let above := readsBack mantissa exponent (t + 1) g
  let belowIsNearer := 2 * n < (2 * t + 1) * d ∨ (2 * n = (2 * t + 1) * d ∧ tie.takesBelow t)
  if below && (!above || belowIsNearer) then some ⟨t, g⟩
  else if above then some ⟨t + 1, g⟩
  else none

/-- Tries grids of one digit more each time. `grids` bounds their number; the last resort is all
digits of a long expansion. -/
def onGrids (tie : Tie) (mantissa : Nat) (exponent first : Int) :
    (grids : Nat) → (count : Nat) → Digits
  | 0, count => (onGrid tie mantissa exponent (first - (count : Int))).getD ⟨mantissa, exponent⟩
  | grids + 1, count =>
    match onGrid tie mantissa exponent (first - (count : Int)) with
    | some d => d
    | none => onGrids tie mantissa exponent first grids (count + 1)

/-- The fewest digits from which `mantissa * 2 ^ exponent` is read back. -/
def shortest (tie : Tie) (mantissa : Nat) (exponent : Int) : Digits :=
  if mantissa = 0 then ⟨0, 0⟩
  else
    let (n, d) := scaled mantissa 1 2 exponent
    (onGrids tie mantissa exponent (leadingPower n d) 17 0).strip 400

end IconSubset.Decimal
