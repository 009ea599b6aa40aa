import IconSubset.Config.Reading
import IconSubset.Config.Variable
import IconSubset.Proofs.Decimal.Notation
import IconSubset.Proofs.Text.Trimming

/-!
# Numbers in environment variables

A variable may hold a number, and where a text is asked for the number stands for the way in which
it is written. The text that arrives is `Numeral.stored`: a whole number is written anew when it is
in range, and stays as it is otherwise; a number with a point is always written anew. It is the text
that was given exactly when one of the rules of `Numeral.Kept` applies (`stored_eq_text_iff`).
-/

namespace IconSubset.Config

open Decimal (chars natDigits NoLeadingZero IsShortest Binary64)
open Text (DecimalDigit)

/-- The sign in front of a number. -/
inductive Sign where
  /-- No sign. -/
  | none
  | plus
  | minus
deriving DecidableEq, Repr

/-- How a sign is written. -/
def Sign.chars : Sign → List Char
  | none => []
  | plus => ['+']
  | minus => ['-']

/-- A number as it is written: a sign or none, digits, and digits after a point or no point. -/
structure Numeral where
  /-- The sign. -/
  sign : Sign
  /-- The digits before the point. -/
  whole : List DecimalDigit
  /-- The digits after the point; there is no point without them. -/
  fraction : List DecimalDigit
  /-- There are digits before the point. -/
  whole_ne_nil : whole ≠ []
deriving DecidableEq, Repr

namespace Numeral

variable (n : Numeral)

/-- The characters of a number. -/
def chars : List Char :=
  n.sign.chars ++ (Decimal.chars n.whole ++
    if n.fraction = [] then [] else '.' :: Decimal.chars n.fraction)

/-- The text of a number. -/
def text : String := String.ofList n.chars

/-- The number that all digits write. -/
def magnitude : Nat := Text.decimal (n.whole ++ n.fraction)

/-- Whether a whole number is in the range of 64 bits: the one with a sign after a minus, and else
the one without. -/
def InRange : Prop := n.magnitude < if n.sign = .minus then 2 ^ 63 + 1 else 2 ^ 64

instance : Decidable n.InRange := inferInstanceAs (Decidable (_ < _))

/-- The text that a number in a variable arrives as. -/
def stored : String :=
  if n.fraction = [] then
    if n.InRange then
      String.ofList ((if n.sign = .minus ∧ n.magnitude ≠ 0 then ['-'] else []) ++
        natDigits n.magnitude)
    else n.text
  else (Binary64.ofDecimal (n.sign == .minus) n.magnitude (-(n.fraction.length : Int))).plain

/-- The numbers that arrive as they are written. -/
inductive Kept : Numeral → Prop
  /-- Whole numbers out of range are left alone, whatever they look like. -/
  | outOfRange {n : Numeral} (whole : n.fraction = []) (range : ¬n.InRange) : Kept n
  /-- Other whole numbers have no plus sign and no zero in front that could be left out, and zero
  has no minus sign. -/
  | whole {n : Numeral} (whole : n.fraction = []) (sign : n.sign ≠ .plus)
      (zeros : NoLeadingZero n.whole) (zero : n.sign = .minus → n.magnitude ≠ 0) : Kept n
  /-- Numbers with a point have no plus sign and no zero in front that could be left out, and their
  digits are those with which the number of binary64 is written that is nearest. -/
  | point {n : Numeral} (point : n.fraction ≠ []) (sign : n.sign ≠ .plus)
      (zeros : NoLeadingZero n.whole)
      (shortest : IsShortest (n.sign == .minus) n.magnitude (-(n.fraction.length : Int))) : Kept n

/-! ## What comes back -/

section Kept

variable {n : Numeral}

/-- Characters that do not begin with a sign. -/
def NoSign (cs : List Char) : Prop := ∀ c ∈ cs.head?, c ≠ '+' ∧ c ≠ '-'

/-- The digits of a natural number do not begin with a sign. -/
theorem noSign_natDigits (t : Nat) : NoSign (natDigits t) := by
  intro c hc
  have hdigit := Nat.isDigit_of_mem_toDigits (by decide) (by decide) (List.mem_of_mem_head? hc)
  constructor
  · rintro rfl
    exact absurd hdigit (by decide)
  · rintro rfl
    exact absurd hdigit (by decide)

/-- Digits do not begin with a sign. -/
theorem noSign_chars {ds : List DecimalDigit} (hne : ds ≠ []) (rest : List Char) :
    NoSign (Decimal.chars ds ++ rest) := by
  obtain ⟨d, ds, rfl⟩ := List.exists_cons_of_ne_nil hne
  intro c hc
  obtain rfl : d.char = c := Option.some.inj hc
  exact (by decide : ∀ v : Fin 10, Nat.digitChar v ≠ '+' ∧ Nat.digitChar v ≠ '-') d.value

/-- A sign and what follows it are told apart. -/
theorem append_sign_eq_iff (negative : Bool) (sign : Sign) {cs cs' : List Char} (h : NoSign cs)
    (h' : NoSign cs') : (if negative then ['-'] else []) ++ cs = sign.chars ++ cs' ↔
      sign = (if negative then .minus else .none) ∧ cs = cs' := by
  have hplus : ∀ {cs}, NoSign cs → ∀ rest, cs ≠ '+' :: rest := by
    rintro cs hcs rest rfl
    exact (hcs '+' rfl).1 rfl
  have hminus : ∀ {cs}, NoSign cs → ∀ rest, cs ≠ '-' :: rest := by
    rintro cs hcs rest rfl
    exact (hcs '-' rfl).2 rfl
  cases negative with
  | false => cases sign <;> simp [Sign.chars, hplus h, hminus h]
  | true => cases sign <;> simp [Sign.chars, (hminus h' _).symm]

/-- A whole number in range comes back when nothing in it can be left out. -/
theorem stored_whole_eq_text_iff (hwhole : n.fraction = []) (hrange : n.InRange) :
    n.stored = n.text ↔
      n.sign ≠ .plus ∧ NoLeadingZero n.whole ∧ (n.sign = .minus → n.magnitude ≠ 0) := by
  have hmagnitude : n.magnitude = Text.decimal n.whole := by
    rw [magnitude, hwhole, List.append_nil]
  have hchars : n.chars = n.sign.chars ++ Decimal.chars n.whole := by
    rw [chars, if_pos hwhole, List.append_nil]
  have hnoSign := noSign_chars n.whole_ne_nil []
  rw [List.append_nil] at hnoSign
  have hsplit := append_sign_eq_iff (decide (n.sign = .minus ∧ n.magnitude ≠ 0)) n.sign
    (noSign_natDigits n.magnitude) hnoSign
  simp only [decide_eq_true_eq] at hsplit
  rw [stored, if_pos hwhole, if_pos hrange, text, String.ofList_inj, hchars, hsplit, hmagnitude,
    Decimal.natDigits_decimal_eq_iff n.whole_ne_nil]
  cases n.sign <;> simp [and_comm]

/-- A number with a point comes back when nothing in front can be left out and its digits are those
with which the nearest number is written. -/
theorem stored_point_eq_text_iff (hpoint : n.fraction ≠ []) :
    n.stored = n.text ↔ n.sign ≠ .plus ∧ NoLeadingZero n.whole ∧
      IsShortest (n.sign == .minus) n.magnitude (-(n.fraction.length : Int)) := by
  have hchars : n.chars = n.sign.chars ++
      (Decimal.chars n.whole ++ '.' :: Decimal.chars n.fraction) := by
    rw [chars, if_neg hpoint]
  have hplain := Decimal.plain_ofDecimal_eq_iff (n.sign == .minus) n.whole_ne_nil hpoint
  have hnoSign := noSign_chars n.whole_ne_nil ('.' :: Decimal.chars n.fraction)
  rw [stored, if_neg hpoint, text, hchars]
  by_cases hplus : n.sign = .plus
  · -- A plus sign is never written.
    refine iff_of_false (fun heq => ?_) fun h => h.1 hplus
    have hmem : '+' ∈ n.stored.toList := by
      rw [stored, if_neg hpoint, heq, hplus, String.toList_ofList]
      exact List.mem_cons_self
    rw [stored, if_neg hpoint] at hmem
    exact Decimal.plus_notMem_plain _ hmem
  · have hsign : n.sign.chars = if n.sign == .minus then ['-'] else [] := by
      cases hn : n.sign with
      | plus => exact absurd hn hplus
      | none | minus => rfl
    rw [hsign, magnitude, hplain]
    exact (and_iff_right hplus).symm

/-- A number arrives as it is written exactly when one of the rules applies. -/
theorem stored_eq_text_iff : n.stored = n.text ↔ n.Kept := by
  by_cases hwhole : n.fraction = []
  · by_cases hrange : n.InRange
    · rw [stored_whole_eq_text_iff hwhole hrange]
      constructor
      · rintro ⟨hsign, hzeros, hzero⟩
        exact .whole hwhole hsign hzeros hzero
      · intro h
        cases h with
        | outOfRange _ hrange' => exact absurd hrange hrange'
        | whole _ hsign hzeros hzero => exact ⟨hsign, hzeros, hzero⟩
        | point hpoint => exact absurd hwhole hpoint
    · refine iff_of_true ?_ (.outOfRange hwhole hrange)
      rw [stored, if_pos hwhole, if_neg hrange]
  · rw [stored_point_eq_text_iff hwhole]
    constructor
    · rintro ⟨hsign, hzeros, hshortest⟩
      exact .point hwhole hsign hzeros hshortest
    · intro h
      cases h with
      | outOfRange hwhole' => exact absurd hwhole' hwhole
      | whole hwhole' => exact absurd hwhole' hwhole
      | point _ hsign hzeros hshortest => exact ⟨hsign, hzeros, hshortest⟩

/-- Of the numbers with a point those of fifteen digits at most arrive as they are written when they
have no plus sign, no zero in front that could be left out, and none at the end. -/
theorem kept_iff_of_length_le (hpoint : n.fraction ≠ [])
    (hlength : n.whole.length + n.fraction.length ≤ 15) :
    n.Kept ↔ n.sign ≠ .plus ∧ NoLeadingZero n.whole ∧ n.magnitude % 10 ≠ 0 := by
  constructor
  · intro h
    cases h with
    | outOfRange hwhole => exact absurd hwhole hpoint
    | whole hwhole => exact absurd hwhole hpoint
    | point _ hsign hzeros hshortest => exact ⟨hsign, hzeros, hshortest.last⟩
  · rintro ⟨hsign, hzeros, hlast⟩
    have hsize : n.magnitude < 10 ^ 15 := by
      refine lt_of_lt_of_le (Decimal.decimal_lt _) (Nat.pow_le_pow_right (by norm_num) ?_)
      rwa [List.length_append]
    exact .point hpoint hsign hzeros
      (Decimal.isShortest_of_lt _ hsize hlast (by omega) (by omega))

end Kept

/-! ## Reading -/

section Reading

variable (n : Numeral)

/-- A character of a number. -/
def IsNumeralChar (c : Char) : Prop :=
  c = '+' ∨ c = '-' ∨ c = '.' ∨ ∃ v : Fin 10, c = Nat.digitChar v

/-- What is decided for signs, the point and the ten digits holds of the characters of numbers. -/
theorem IsNumeralChar.elim {p : Char → Bool} (hplus : p '+' = true) (hminus : p '-' = true)
    (hpoint : p '.' = true) (hdigit : ∀ v : Fin 10, p (Nat.digitChar v) = true) {c : Char}
    (h : IsNumeralChar c) : p c = true := by
  obtain rfl | rfl | rfl | ⟨v, rfl⟩ := h
  · exact hplus
  · exact hminus
  · exact hpoint
  · exact hdigit v

/-- A number has such characters only. -/
theorem isNumeralChar {c : Char} (h : c ∈ n.chars) : IsNumeralChar c := by
  have hdigits : ∀ ds : List DecimalDigit, c ∈ Decimal.chars ds → IsNumeralChar c := by
    intro ds h
    obtain ⟨d, -, rfl⟩ := List.mem_map.1 h
    exact .inr (.inr (.inr ⟨d.value, rfl⟩))
  rw [chars, List.mem_append, List.mem_append] at h
  rcases h with h | h | h
  · cases hsign : n.sign with
    | none => rw [hsign] at h; cases h
    | plus =>
      rw [hsign] at h
      exact .inl (List.mem_singleton.1 h)
    | minus =>
      rw [hsign] at h
      exact .inr (.inl (List.mem_singleton.1 h))
  · exact hdigits n.whole h
  · split_ifs at h with hpoint
    · cases h
    · rcases List.mem_cons.1 h with h | h
      · exact .inr (.inr (.inl h))
      · exact hdigits n.fraction h

/-- A number has characters. -/
theorem chars_ne_nil : n.chars ≠ [] := by
  intro hnil
  rw [chars, List.append_eq_nil_iff, List.append_eq_nil_iff] at hnil
  exact n.whole_ne_nil (List.map_eq_nil_iff.1 hnil.2.1)

/-- Trimming takes away the blanks after characters that are none. -/
theorem trimChars_append {cs right : List Char} (hcs : ∀ c ∈ cs, Text.isBlank c = false)
    (hright : ∀ c ∈ right, Text.isBlank c = true) : Text.trimChars (cs ++ right) = cs := by
  rcases List.eq_nil_or_concat' cs with rfl | ⟨front, last, rfl⟩
  · have hnil : right.dropWhile Text.isBlank = [] := List.dropWhile_eq_nil_iff.2 hright
    rw [Text.trimChars, List.nil_append, hnil]
    rfl
  · have hhead : ∀ c ∈ ((front ++ [last]) ++ right).head?, Text.isBlank c = false := by
      intro c hc
      rw [List.head?_append_of_ne_nil _ (by simp)] at hc
      exact hcs c (List.mem_of_mem_head? hc)
    have hlast : Text.isBlank last = false := hcs last (by simp)
    have hright' : ∀ c ∈ right.reverse, Text.isBlank c = true :=
      fun c hc => hright c (List.mem_reverse.1 hc)
    rw [Text.trimChars, Text.dropWhile_eq_self hhead, Text.trimEnd, List.reverse_append,
      List.dropWhile_append_of_pos hright', List.reverse_append, List.reverse_singleton,
      List.singleton_append, List.dropWhile_cons, if_neg (Bool.eq_false_iff.1 hlast)]
    simp

/-- The digits of a number are read as the number that they write. -/
theorem number?_chars {ds : List DecimalDigit} (hne : ds ≠ []) :
    Text.number? Text.decimalDigit? 10 (Decimal.chars ds) = some (Text.decimal ds) :=
  Text.number?_map Text.decimalDigit?_char hne

/-- No number begins with a minus sign when none is asked for. -/
theorem number?_minus (cs : List Char) :
    Text.number? Text.decimalDigit? 10 ('-' :: cs) = none := by
  have hnone : ∀ cs : List Char, cs.foldl (fun n c => n.bind fun n =>
      (Text.decimalDigit? c).map fun d => 10 * n + d) none = none := by
    intro cs
    induction cs with
    | nil => rfl
    | cons c cs ih => exact ih
  exact hnone cs

/-- A sign is taken off what does not begin with one itself. -/
theorem takeSign_append {cs : List Char} (h : NoSign cs) (sign : Sign) :
    Decimal.takeSign (sign.chars ++ cs) = (sign == .minus, cs) := by
  cases sign with
  | plus | minus => rfl
  | none =>
    cases cs with
    | nil => rfl
    | cons c cs =>
      obtain ⟨hplus, hminus⟩ := h c rfl
      show Decimal.takeSign (c :: cs) = (false, c :: cs)
      unfold Decimal.takeSign
      split
      · next heq => exact absurd (List.cons.inj heq).1 hminus
      · next heq => exact absurd (List.cons.inj heq).1 hplus
      · rfl

/-- A whole number is read without a sign, unless it has a minus. -/
theorem readNatural?_append {cs : List Char} (h : NoSign cs) (sign : Sign) :
    Decimal.readNatural? (sign.chars ++ cs) =
      if sign = .minus then none else Text.number? Text.decimalDigit? 10 cs := by
  cases sign with
  | plus => rfl
  | minus => exact number?_minus cs
  | none =>
    show Decimal.readNatural? cs = Text.number? Text.decimalDigit? 10 cs
    unfold Decimal.readNatural?
    split
    · next rest => exact absurd rfl (h '+' rfl).1
    · rfl

/-- A whole number in range is kept with a sign after a minus, and else without. -/
theorem integer?_chars (hwhole : n.fraction = []) :
    Variable.integer? n.chars =
      if n.InRange then
        some (if n.sign = .minus then .signed (-(n.magnitude : Int)) else .unsigned n.magnitude)
      else none := by
  have hmagnitude : n.magnitude = Text.decimal n.whole := by
    rw [magnitude, hwhole, List.append_nil]
  have hchars : n.chars = n.sign.chars ++ Decimal.chars n.whole := by
    rw [chars, if_pos hwhole, List.append_nil]
  have hnumber := number?_chars n.whole_ne_nil
  have hnoSign := noSign_chars n.whole_ne_nil []
  rw [List.append_nil] at hnoSign
  rw [← hmagnitude] at hnumber
  unfold Variable.integer?
  rw [hchars, readNatural?_append hnoSign, hnumber]
  by_cases hsign : n.sign = .minus
  · have hleast : Int64.minValue.toInt = -2 ^ 63 := by decide
    have hgreatest : Int64.maxValue.toInt = 2 ^ 63 - 1 := by decide
    have hrange : Variable.inSignedRange (-(n.magnitude : Int)) = true ↔ n.InRange := by
      unfold Variable.inSignedRange InRange
      rw [hleast, hgreatest, if_pos hsign, Bool.and_eq_true, decide_eq_true_eq, decide_eq_true_eq]
      omega
    have hinteger : Decimal.readInteger? (n.sign.chars ++ Decimal.chars n.whole) =
        some (-(n.magnitude : Int)) := by
      rw [Decimal.readInteger?, takeSign_append hnoSign, hsign]
      dsimp only
      rw [hnumber]
      rfl
    rw [if_pos hsign, if_pos hsign, hinteger]
    simp only [hrange]
  · have hrange : n.magnitude ≤ Variable.greatestUnsigned ↔ n.InRange := by
      have hsize : Variable.greatestUnsigned = 2 ^ 64 - 1 := rfl
      rw [hsize, InRange, if_neg hsign]
      omega
    rw [if_neg hsign, if_neg hsign]
    simp only [hrange]

/-- A number with a point is read as the nearest one of binary64. -/
theorem readDecimal?_chars (hpoint : n.fraction ≠ []) :
    Decimal.readDecimal? n.chars =
      some (.ofDecimal (n.sign == .minus) n.magnitude (-(n.fraction.length : Int))) := by
  have hchars : n.chars = n.sign.chars ++
      (Decimal.chars n.whole ++ '.' :: Decimal.chars n.fraction) := by
    rw [chars, if_neg hpoint]
  have hnumber := number?_chars (show n.whole ++ n.fraction ≠ [] by simp [n.whole_ne_nil])
  have hdigit : ∀ (ds : List DecimalDigit), ∀ c ∈ Decimal.chars ds, Text.isDigit c = true := by
    intro ds c hc
    obtain ⟨d, -, rfl⟩ := List.mem_map.1 hc
    rw [Text.isDigit, Text.decimalDigit?_char]
    rfl
  have hstop : Text.isDigit '.' = false := by decide
  rw [Decimal.chars_append] at hnumber
  unfold Decimal.readDecimal?
  rw [hchars, takeSign_append (noSign_chars n.whole_ne_nil _)]
  dsimp only
  rw [List.takeWhile_append_of_pos (hdigit _), List.dropWhile_append_of_pos (hdigit _)]
  have hall : (Decimal.chars n.fraction).takeWhile Text.isDigit = Decimal.chars n.fraction :=
    List.takeWhile_eq_self_iff.2 (hdigit _)
  have hrest : (Decimal.chars n.fraction).dropWhile Text.isDigit = [] :=
    List.dropWhile_eq_nil_iff.2 (hdigit _)
  simp [hstop, hall, hrest, hnumber, Decimal.readExponent?, magnitude]

/-- What a number stands for in a variable, with blanks after it, is its text. -/
theorem scalarText?_plain {right : List Char} (hright : ∀ c ∈ right, Text.isBlank c = true) :
    (Variable.plain (n.chars ++ right)).scalarText? = some n.stored := by
  have hblank : ∀ c ∈ n.chars, Text.isBlank c = false := by
    intro c hc
    have hnot := (n.isNumeralChar hc).elim (p := fun c => !Text.isBlank c) (by decide) (by decide)
      (by decide) (by decide)
    simpa using hnot
  unfold Variable.plain
  rw [trimChars_append hblank hright]
  by_cases hwhole : n.fraction = []
  · have hpoint : n.chars.contains '.' = false := by
      have hsign : '.' ∉ n.sign.chars := by cases n.sign <;> decide
      simp [chars, hwhole, hsign, Decimal.point_notMem_chars]
    simp only [hpoint, Bool.false_eq_true, if_false, n.integer?_chars hwhole, stored, hwhole,
      if_true]
    by_cases hrange : n.InRange
    · rw [if_pos hrange, if_pos hrange, Option.getD_some]
      by_cases hsign : n.sign = .minus
      · have hnegative : -(n.magnitude : Int) < 0 ↔ n.magnitude ≠ 0 := by omega
        simp only [hsign, if_true, Value.scalarText?, hnegative, Int.natAbs_neg, Int.natAbs_natCast,
          true_and]
      · simp only [hsign, if_false, false_and, Value.scalarText?, List.nil_append]
    · rw [if_neg hrange, if_neg hrange]
      rfl
  · have hpoint : n.chars.contains '.' = true := by simp [chars, hwhole]
    simp only [hpoint, if_true, n.readDecimal?_chars hwhole, Value.scalarText?, stored, hwhole,
      if_false]

end Reading

end Numeral

end IconSubset.Config
