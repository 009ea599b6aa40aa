/-!
# Digits and the numbers they write

The values of digits in different bases, the number that digits write, and the character of a
number.
-/

namespace IconSubset.Text

/-- The value of a decimal digit. -/
def decimalDigit? (c : Char) : Option Nat :=
  if '0' ≤ c ∧ c ≤ '9' then some (c.toNat - '0'.toNat) else none

/-- The value of a hexadecimal digit, in either case. -/
def hexDigit? (c : Char) : Option Nat :=
  if '0' ≤ c ∧ c ≤ '9' then some (c.toNat - '0'.toNat)
  else if 'a' ≤ c ∧ c ≤ 'f' then some (c.toNat - 'a'.toNat + 10)
  else if 'A' ≤ c ∧ c ≤ 'F' then some (c.toNat - 'A'.toNat + 10)
  else none

/-- The value of an octal digit. -/
def octalDigit? (c : Char) : Option Nat :=
  if '0' ≤ c ∧ c ≤ '7' then some (c.toNat - '0'.toNat) else none

/-- The value of a binary digit. -/
def binaryDigit? (c : Char) : Option Nat :=
  if c = '0' then some 0 else if c = '1' then some 1 else none

/-- Whether a character is a decimal digit. -/
def isDigit (c : Char) : Bool := (decimalDigit? c).isSome

/-- The number that digits write in a base, most significant first; none when there is no digit or
one that is no digit of the base. -/
def number? (digit? : Char → Option Nat) (base : Nat) : List Char → Option Nat
  | [] => none
  | cs => cs.foldl (fun n c => n.bind fun n => (digit? c).map fun d => base * n + d) (some 0)

/-- The character of a number. -/
def character? (n : Nat) : Option Char := if n.isValidChar then some (Char.ofNat n) else none

/-- The character that a number of hexadecimal digits stands for, and what follows them. -/
def hexEscape? (length : Nat) (cs : List Char) : Option (Char × List Char) :=
  if cs.length < length then none
  else
    ((number? hexDigit? 16 (cs.take length)).bind character?).map fun c => (c, cs.drop length)

end IconSubset.Text
