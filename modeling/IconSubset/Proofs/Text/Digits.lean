import IconSubset.Text.Digits
import Mathlib.Data.Nat.Digits.Defs
import Mathlib.Tactic.Ring

/-!
# Numbers that are written with digits

A number may be written with digits in many ways: with zeros in front, and in hexadecimal with
letters of either case. `numeral` is the number that digits write, and reading the characters of the
digits gives it (`number?_map`).
-/

namespace IconSubset.Text

/-- The number that digits write in a base, the most significant one first. -/
def numeral (base : Nat) (digits : List Nat) : Nat := Nat.ofDigits base digits.reverse

/-- A digit in front counts for as many places as follow it. -/
theorem numeral_cons (base d : Nat) (digits : List Nat) :
    numeral base (d :: digits) = base ^ digits.length * d + numeral base digits := by
  unfold numeral
  rw [Nat.ofDigits_reverse_cons, Nat.add_comm]

/-- A decimal digit. -/
structure DecimalDigit where
  /-- The value. -/
  value : Fin 10
deriving DecidableEq, Repr

/-- How a decimal digit is written. -/
def DecimalDigit.char (d : DecimalDigit) : Char := Nat.digitChar d.value

/-- A hexadecimal digit. -/
structure HexDigit where
  /-- The value. -/
  value : Fin 16
  /-- Whether a letter is written in upper case. -/
  upper : Bool
deriving DecidableEq, Repr

/-- How a hexadecimal digit is written. -/
def HexDigit.char (d : HexDigit) : Char :=
  if d.upper then (Nat.digitChar d.value).toUpper else Nat.digitChar d.value

/-- The number that decimal digits write. -/
def decimal (digits : List DecimalDigit) : Nat := numeral 10 (digits.map fun d => d.value)

/-- The number that hexadecimal digits write. -/
def hexadecimal (digits : List HexDigit) : Nat := numeral 16 (digits.map fun d => d.value)

/-- A decimal digit is read as its value. -/
theorem decimalDigit?_char (d : DecimalDigit) : decimalDigit? d.char = some d.value.val :=
  (by decide : ∀ n : Fin 10, decimalDigit? (Nat.digitChar n) = some n.val) d.value

/-- A hexadecimal digit is read as its value, in either case. -/
theorem hexDigit?_char (d : HexDigit) : hexDigit? d.char = some d.value.val := by
  have hall : ∀ (n : Fin 16) (upper : Bool), hexDigit? (HexDigit.char ⟨n, upper⟩) = some n.val := by
    decide
  exact hall d.value d.upper

section Reading

variable {α : Type} {base : Nat} {digit? : Char → Option Nat} {char : α → Char} {value : α → Nat}

variable (base) in
/-- Digits go on writing the number that those in front of them began. -/
theorem foldl_digits (h : ∀ d, digit? (char d) = some (value d)) (digits : List α) (start : Nat) :
    (digits.map char).foldl
        (fun n c => n.bind fun n => (digit? c).map fun d => base * n + d) (some start) =
      some (base ^ digits.length * start + numeral base (digits.map value)) := by
  induction digits generalizing start with
  | nil => rw [List.map_nil, List.foldl_nil, List.length_nil, pow_zero, one_mul]; rfl
  | cons d digits ih =>
    rw [List.map_cons, List.foldl_cons, Option.bind_some, h, Option.map_some, ih, List.map_cons,
      numeral_cons, List.length_map, List.length_cons]
    congr 1
    ring

/-- Reading the characters of digits gives the number that the digits write. -/
theorem number?_map (h : ∀ d, digit? (char d) = some (value d)) {digits : List α}
    (hne : digits ≠ []) :
    number? digit? base (digits.map char) = some (numeral base (digits.map value)) := by
  have hfold := foldl_digits base h digits 0
  rw [mul_zero, zero_add] at hfold
  obtain ⟨d, rest, rfl⟩ := List.exists_cons_of_ne_nil hne
  exact hfold

end Reading

/-- The number of a character stands for it. -/
theorem character?_toNat (c : Char) : character? c.toNat = some c := by
  have hvalid : c.toNat.isValidChar := c.valid
  unfold character?
  rw [if_pos hvalid, Char.ofNat_toNat]

end IconSubset.Text
