import IconSubset.Config.Value
import IconSubset.Decimal.Reading
import IconSubset.Toml.Text

/-!
# Numbers and dates in TOML

Whole numbers in four bases, numbers with a fraction or an exponent, and dates and times.
Underscores may stand between digits. A date or a time is given as a table that holds its text under
a name that no one would write.
-/

namespace IconSubset.Toml

open Config (Value)

/-- Digits that follow a digit, each perhaps after an underscore: without the underscores, and what
follows. -/
def moreDigits (digit? : Char → Option Nat) : List Char → List Char × List Char
  | [] => ([], [])
  | ['_'] => ([], ['_'])
  | '_' :: d :: cs =>
    if (digit? d).isSome then prepend d (moreDigits digit? cs) else ([], '_' :: d :: cs)
  | c :: cs => if (digit? c).isSome then prepend c (moreDigits digit? cs) else ([], c :: cs)

/-- Digits, perhaps with underscores between them: without the underscores, and what follows. -/
def digits? (digit? : Char → Option Nat) : List Char → Option (List Char × List Char)
  | [] => none
  | c :: cs => if (digit? c).isSome then some (prepend c (moreDigits digit? cs)) else none

/-- Digits without a zero at the front, unless it is the only one. -/
def wholeDigits? (cs : List Char) : Option (List Char × List Char) :=
  match cs with
  | '0' :: rest => some (['0'], rest)
  | _ => digits? Text.decimalDigit? cs

/-- A whole number in range. -/
def inRange? (n : Int) : Option Value :=
  if Int64.minValue.toInt ≤ n ∧ n ≤ Int64.maxValue.toInt then some (.signed n) else none

/-- A whole number in a base other than ten, after the mark of the base. -/
def based? (digit? : Char → Option Nat) (base : Nat) (cs : List Char) :
    Option (Value × List Char) :=
  (digits? digit? cs).bind fun (digits, rest) =>
    ((Text.number? digit? base digits).bind fun n => inRange? n).map fun v => (v, rest)

/-- The fraction of a number with its point; it may be missing. -/
def fraction? : List Char → Option (List Char × List Char)
  | '.' :: cs => (digits? Text.decimalDigit? cs).map (prepend '.')
  | cs => some ([], cs)

/-- The exponent of a number with its mark; it may be missing. -/
def exponent? (cs : List Char) : Option (List Char × List Char) :=
  match cs with
  | e :: rest =>
    if e = 'e' ∨ e = 'E' then
      let (sign, rest) := match rest with
        | '+' :: more => (['+'], more)
        | '-' :: more => (['-'], more)
        | _ => ([], rest)
      (digits? Text.decimalDigit? rest).map fun (digits, rest) => ('e' :: sign ++ digits, rest)
    else some ([], cs)
  | [] => some ([], [])

/-- A decimal number after its sign. A positive number must not be too great to be finite. -/
def decimal? (negative : Bool) (cs : List Char) : Option (Value × List Char) :=
  (wholeDigits? cs).bind fun (whole, rest) =>
    (fraction? rest).bind fun (fraction, rest) =>
      (exponent? rest).bind fun (exponent, rest) =>
        if fraction = [] ∧ exponent = [] then
          ((Text.number? Text.decimalDigit? 10 whole).bind fun n =>
            inRange? (if negative then -(n : Int) else n)).map fun v => (v, rest)
        else
          let sign := if negative then ['-'] else []
          match Decimal.readDecimal? (sign ++ whole ++ fraction ++ exponent) with
          | some x => if x = .infinite false then none else some (.float x, rest)
          | none => none

/-- A number. -/
def number? (cs : List Char) : Option (Value × List Char) :=
  match cs with
  | '0' :: 'x' :: rest => based? Text.hexDigit? 16 rest
  | '0' :: 'o' :: rest => based? Text.octalDigit? 8 rest
  | '0' :: 'b' :: rest => based? Text.binaryDigit? 2 rest
  | _ =>
    let (negative, unsigned) := Decimal.takeSign cs
    match unsigned with
    | 'i' :: 'n' :: 'f' :: rest => some (.float (.infinite negative), rest)
    | 'n' :: 'a' :: 'n' :: rest => some (.float .notANumber, rest)
    | _ => decimal? negative unsigned

/-- A number of exactly so many digits within bounds, and what follows. -/
def fixed? (length least greatest : Nat) (cs : List Char) : Option (Nat × List Char) :=
  if cs.length < length then none
  else
    (Text.number? Text.decimalDigit? 10 (cs.take length)).bind fun n =>
      if least ≤ n ∧ n ≤ greatest then some (n, cs.drop length) else none

/-- What follows a character that must stand here. -/
def after? (c : Char) : List Char → Option (List Char)
  | [] => none
  | d :: cs => if c = d then some cs else none

/-- How many days a month has. -/
def daysOf (year month : Nat) : Nat :=
  if month = 2 then
    if year % 4 = 0 ∧ (year % 100 ≠ 0 ∨ year % 400 = 0) then 29 else 28
  else if month ∈ [4, 6, 9, 11] then 30
  else 31

/-- What follows a date. -/
def afterDate? (cs : List Char) : Option (List Char) := do
  let (year, cs) ← fixed? 4 0 9999 cs
  let cs ← after? '-' cs
  let (month, cs) ← fixed? 2 1 12 cs
  let cs ← after? '-' cs
  let (_, cs) ← fixed? 2 1 (daysOf year month) cs
  return cs

/-- What follows a time of day. -/
def afterTime? (cs : List Char) : Option (List Char) := do
  let (_, cs) ← fixed? 2 0 23 cs
  let cs ← after? ':' cs
  let (_, cs) ← fixed? 2 0 59 cs
  let cs ← after? ':' cs
  let (_, cs) ← fixed? 2 0 60 cs
  match cs with
  | '.' :: rest =>
    if rest.takeWhile Text.isDigit = [] then none else some (rest.dropWhile Text.isDigit)
  | _ => some cs

/-- What follows the distance from universal time; it may be missing. -/
def afterOffset? (cs : List Char) : Option (List Char) :=
  match cs with
  | 'Z' :: rest | 'z' :: rest => some rest
  | '+' :: rest | '-' :: rest => do
    let (_, rest) ← fixed? 2 0 23 rest
    let rest ← after? ':' rest
    let (_, rest) ← fixed? 2 0 59 rest
    return rest
  | _ => some cs

/-- What follows a date, a time or both. -/
def afterDateTime? (cs : List Char) : Option (List Char) :=
  match afterDate? cs with
  | none => afterTime? cs
  | some rest =>
    match rest with
    | c :: time =>
      if c = 'T' ∨ c = 't' ∨ c = ' ' then
        match afterTime? time with
        | some rest => afterOffset? rest
        | none => some rest
      else some rest
    | [] => some rest

/-- The name under which a date or a time holds its text. -/
def dateField : String := "$__toml_private_datetime"

/-- A date, a time or both. -/
def dateTime? (cs : List Char) : Option (Value × List Char) :=
  (afterDateTime? cs).map fun rest =>
    (.table [(dateField, .string (String.ofList (cs.take (cs.length - rest.length))))], rest)

/-- Whether what stands here can only be a date or a time. -/
def startsDateTime (cs : List Char) : Bool :=
  let run := (cs.takeWhile Text.isDigit).length
  let next := (cs.drop run).head?
  (run == 4 && next == some '-') || (run == 2 && next == some ':')

/-- A truth value, a number, a date or a time. -/
def scalar? (cs : List Char) : Option (Value × List Char) :=
  match cs with
  | 't' :: 'r' :: 'u' :: 'e' :: rest => some (.bool true, rest)
  | 'f' :: 'a' :: 'l' :: 's' :: 'e' :: rest => some (.bool false, rest)
  | _ => if startsDateTime cs then dateTime? cs else number? cs

end IconSubset.Toml
