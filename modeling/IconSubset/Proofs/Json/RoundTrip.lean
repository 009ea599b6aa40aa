import IconSubset.Json.Printer
import IconSubset.Proofs.Text.Digits
import Mathlib.Data.List.Infix

/-!
# Reading what is printed on one line

An answer on one line is meant for other programs, so what it says is what a reader of JSON makes of
it. The reader here follows the grammar of JSON, for texts without blanks between their tokens and
for whole numbers, whose leading zeros it lets pass. It gives every value back that has no other
numbers (`read?_compact`), so two values that are printed alike are the same value.

A number ends where its digits do, so a value is read back in front of everything but a digit
(`ReadsBack`). That is what the induction on values carries: items and fields end in a comma or a
bracket.
-/

namespace IconSubset.Json

open Text (isDigit number? decimalDigit? hexDigit? character?_toNat)

/-! ## The reader -/

/-- What a character after a backslash stands for. -/
def escaped? : Char → Option Char
  | '"' => some '"'
  | '\\' => some '\\'
  | '/' => some '/'
  | 'b' => some '\x08'
  | 'f' => some '\x0c'
  | 'n' => some '\n'
  | 'r' => some '\r'
  | 't' => some '\t'
  | _ => none

/-- The text up to a closing quote, and what follows that. -/
def readText : List Char → Option (List Char × List Char)
  | [] => none
  | '"' :: rest => some ([], rest)
  | '\\' :: 'u' :: a :: b :: c :: d :: rest =>
    ((number? hexDigit? 16 [a, b, c, d]).bind Text.character?).bind fun x =>
      (readText rest).map fun (text, rest) => (x :: text, rest)
  | '\\' :: c :: rest =>
    (escaped? c).bind fun x => (readText rest).map fun (text, rest) => (x :: text, rest)
  | c :: rest =>
    if c.toNat < 0x20 then none else (readText rest).map fun (text, rest) => (c :: text, rest)

/-- The whole number at the start, and what follows it. -/
def readNumber (cs : List Char) : Option (Nat × List Char) :=
  (number? decimalDigit? 10 (cs.takeWhile isDigit)).map fun n => (n, cs.dropWhile isDigit)

mutual

/-- The value at the start, and what follows it. `fuel` bounds its depth and its length. -/
def readValue : (fuel : Nat) → List Char → Option (Value × List Char)
  | 0, _ => none
  | fuel + 1, cs =>
    match cs with
    | 'n' :: 'u' :: 'l' :: 'l' :: rest => some (.null, rest)
    | 't' :: 'r' :: 'u' :: 'e' :: rest => some (.bool true, rest)
    | 'f' :: 'a' :: 'l' :: 's' :: 'e' :: rest => some (.bool false, rest)
    | '"' :: rest => (readText rest).map fun (text, rest) => (.string (String.ofList text), rest)
    | '[' :: ']' :: rest => some (.array [], rest)
    | '[' :: rest => (readItems fuel rest).map fun (items, rest) => (.array items, rest)
    | '{' :: '}' :: rest => some (.object [], rest)
    | '{' :: rest => (readFields fuel rest).map fun (fields, rest) => (.object fields, rest)
    | '-' :: rest => (readNumber rest).map fun (n, rest) => (.integer (-n), rest)
    | rest => (readNumber rest).map fun (n, rest) => (.integer n, rest)

/-- Items up to the bracket that closes an array. -/
def readItems : (fuel : Nat) → List Char → Option (List Value × List Char)
  | 0, _ => none
  | fuel + 1, cs =>
    match readValue fuel cs with
    | some (v, ',' :: rest) => (readItems fuel rest).map fun (items, rest) => (v :: items, rest)
    | some (v, ']' :: rest) => some ([v], rest)
    | _ => none

/-- A field, its name without the first quote, and the fields up to the brace that closes an
object. -/
def readFields : (fuel : Nat) → List Char → Option (List (String × Value) × List Char)
  | fuel + 1, '"' :: cs =>
    match readText cs with
    | some (name, ':' :: rest) =>
      match readValue fuel rest with
      | some (v, ',' :: rest) =>
        (readFields fuel rest).map fun (fields, rest) => ((String.ofList name, v) :: fields, rest)
      | some (v, '}' :: rest) => some ([(String.ofList name, v)], rest)
      | _ => none
    | _ => none
  | _, _ => none

end

/-- The value that a line of JSON stands for. -/
def read? (line : String) : Option Value :=
  match readValue (line.length + 1) line.toList with
  | some (v, []) | some (v, ['\n']) => some v
  | _ => none

/-- The value of a field of an object. -/
def Value.field? (name : String) : Value → Option Value
  | .object fields => (fields.find? (·.1 == name)).map (·.2)
  | _ => none

/-- The value of a field of the object that a line of JSON stands for. -/
def fieldIn? (line name : String) : Option Value := (read? line).bind (Value.field? name)

/-! ## Numbers -/

/-- A list of characters does not begin with a digit. -/
def NoDigit (cs : List Char) : Prop := ∀ c ∈ cs.head?, isDigit c = false

/-- The value of a decimal digit. -/
theorem decimalDigit?_of_isDigit {c : Char} (h : c.isDigit = true) :
    decimalDigit? c = some (c.toNat - '0'.toNat) := by
  unfold decimalDigit?
  rw [if_pos]
  simpa [Char.isDigit, Char.le_def] using h

/-- Digits write a number on from the one before them. -/
theorem foldl_decimalDigit? {cs : List Char} (h : ∀ c ∈ cs, c.isDigit = true) (start : Nat) :
    cs.foldl (fun n c => n.bind fun n => (decimalDigit? c).map fun d => 10 * n + d) (some start) =
      some (Nat.ofDigitChars 10 cs start) := by
  induction cs generalizing start with
  | nil => rw [List.foldl_nil, Nat.ofDigitChars_nil]
  | cons c cs ih =>
    have hc := decimalDigit?_of_isDigit (h c List.mem_cons_self)
    rw [List.foldl_cons, Option.bind_some, hc, Option.map_some, Nat.ofDigitChars_cons]
    exact ih (fun d hd => h d (List.mem_cons_of_mem c hd)) _

/-- A number is written with digits. -/
theorem isDigit_of_mem_natDigits {n : Nat} {c : Char} (h : c ∈ Decimal.natDigits n) :
    c.isDigit = true :=
  Nat.isDigit_of_mem_toDigits (by decide) (by decide) h

/-- The digits of a number write it. -/
theorem number?_natDigits (n : Nat) : number? decimalDigit? 10 (Decimal.natDigits n) = some n := by
  have hvalue : (Decimal.natDigits n).foldl _ (some 0) = _ :=
    foldl_decimalDigit? (fun _ => isDigit_of_mem_natDigits) 0
  have hn : Nat.ofDigitChars 10 (Decimal.natDigits n) 0 = n :=
    Nat.ofDigitChars_toDigits (by decide) (by decide)
  rw [hn] at hvalue
  unfold number?
  split
  · next hnil => exact absurd hnil Nat.toDigits_ne_nil
  · exact hvalue

/-- A whole number is read back in front of everything but a digit. -/
theorem readNumber_natDigits (n : Nat) {rest : List Char} (hrest : NoDigit rest) :
    readNumber (Decimal.natDigits n ++ rest) = some (n, rest) := by
  have hdigits : ∀ c ∈ Decimal.natDigits n, isDigit c = true := by
    intro c hc
    unfold isDigit
    rw [decimalDigit?_of_isDigit (isDigit_of_mem_natDigits hc)]
    rfl
  have hstop : rest.takeWhile isDigit = [] ∧ rest.dropWhile isDigit = rest := by
    cases rest with
    | nil => exact ⟨rfl, rfl⟩
    | cons c rest => simp [hrest c rfl]
  unfold readNumber
  rw [List.takeWhile_append_of_pos hdigits, List.dropWhile_append_of_pos hdigits, hstop.1, hstop.2,
    List.append_nil, number?_natDigits]
  rfl

/-! ## Texts -/

/-- A hexadecimal digit has its value. -/
theorem hexDigit?_hexDigit {n : Nat} (h : n < 16) : hexDigit? (hexDigit n) = some n :=
  (by decide : ∀ n < 16, hexDigit? (hexDigit n) = some n) n h

/-- A control character is read back from its number. -/
theorem readText_control {c : Char} (h : c.toNat < 0x20) (rest : List Char) :
    readText ('\\' :: 'u' :: '0' :: '0' ::
        hexDigit (c.toNat / 16) :: hexDigit (c.toNat % 16) :: rest) =
      (readText rest).map fun (text, rest) => (c :: text, rest) := by
  have hhigh : hexDigit? (hexDigit (c.toNat / 16)) = some _ := hexDigit?_hexDigit (by omega)
  have hlow : hexDigit? (hexDigit (c.toNat % 16)) = some _ := hexDigit?_hexDigit (by omega)
  have hzero : hexDigit? '0' = some 0 := by decide
  have hnumber : number? hexDigit? 16 ['0', '0', hexDigit (c.toNat / 16), hexDigit (c.toNat % 16)] =
      some (16 * (c.toNat / 16) + c.toNat % 16) := by
    unfold number?
    simp only [List.foldl_cons, List.foldl_nil, hzero, hhigh, hlow, Option.bind_some,
      Option.map_some, Nat.mul_zero, Nat.zero_add, Nat.add_zero]
  rw [readText, hnumber, Nat.div_add_mod, Option.bind_some, character?_toNat, Option.bind_some]

/-- A character that needs no escape stands for itself. -/
theorem readText_plain {c : Char} (hquote : c ≠ '"') (hslash : c ≠ '\\') (h : ¬c.toNat < 0x20)
    (rest : List Char) :
    readText (c :: rest) = (readText rest).map fun (text, rest) => (c :: text, rest) := by
  rw [readText.eq_def]
  split
  · next heq => cases heq
  · next heq => exact absurd (List.cons.inj heq).1 hquote
  · next heq => exact absurd (List.cons.inj heq).1 hslash
  · next heq => exact absurd (List.cons.inj heq).1 hslash
  · next heq =>
    obtain ⟨rfl, rfl⟩ := List.cons.inj heq
    rw [if_neg h]

/-- A character is read back from what is written for it. -/
theorem readText_escapeChar (c : Char) (rest : List Char) :
    readText (escapeChar c ++ rest) =
      (readText rest).map fun (text, rest) => (c :: text, rest) := by
  unfold escapeChar
  split
  case h_8 hquote hslash _ _ _ _ _ =>
    split_ifs with hcontrol
    · exact readText_control hcontrol rest
    · exact readText_plain hquote hslash hcontrol rest
  all_goals rfl

/-- A text is read back up to its closing quote. -/
theorem readText_flatMap_escapeChar (cs rest : List Char) :
    readText (cs.flatMap escapeChar ++ '"' :: rest) = some (cs, rest) := by
  induction cs with
  | nil => rfl
  | cons c cs ih =>
    rw [List.flatMap_cons, List.append_assoc, readText_escapeChar, ih]
    rfl

/-! ## Values -/

/-- Values whose numbers are whole. -/
inductive Value.Whole : Value → Prop where
  | null : Whole .null
  | bool (b : Bool) : Whole (.bool b)
  | integer (n : Int) : Whole (.integer n)
  | string (s : String) : Whole (.string s)
  | array {items : List Value} (h : ∀ v ∈ items, Whole v) : Whole (.array items)
  | object {fields : List (String × Value)} (h : ∀ field ∈ fields, Whole field.2) :
    Whole (.object fields)

/-- An object without fields has no numbers. -/
theorem Value.Whole.noFields : (Value.object []).Whole :=
  .object fun _ h => absurd h List.not_mem_nil

/-- An object with one more field. -/
theorem Value.Whole.field {name : String} {v : Value} {fields : List (String × Value)}
    (hv : v.Whole) (hfields : (Value.object fields).Whole) :
    (Value.object ((name, v) :: fields)).Whole := by
  cases hfields with
  | object h => exact .object (List.forall_mem_cons.2 ⟨hv, h⟩)

/-- A list of texts has no numbers. -/
theorem Value.Whole.ofStrings (xs : List String) : (Value.ofStrings xs).Whole := by
  refine .array fun v hv => ?_
  obtain ⟨x, -, rfl⟩ := List.mem_map.1 hv
  exact .string x

/-- A value is read back in front of everything but a digit. -/
def ReadsBack (v : Value) : Prop :=
  ∀ fuel rest, (compactChars v).length < fuel → NoDigit rest →
    readValue fuel (compactChars v ++ rest) = some (v, rest)

/-- What begins with a digit is a number. -/
theorem readValue_digit (fuel : Nat) {c : Char} (h : c.isDigit = true) (cs : List Char) :
    readValue (fuel + 1) (c :: cs) =
      (readNumber (c :: cs)).map fun (n, rest) => (.integer n, rest) := by
  -- No other value begins with a digit.
  have hne : ∀ d, d.isDigit = false → c ≠ d := by
    rintro d hd rfl
    exact absurd (h.symm.trans hd) (by decide)
  rw [readValue.eq_def]
  dsimp only
  split
  case h_10 => rfl
  all_goals
    next heq => exact absurd (List.cons.inj heq).1 (hne _ (by decide))

/-- A whole number is read back. -/
theorem readsBack_integer (n : Int) : ReadsBack (.integer n) := by
  intro fuel rest hfuel hrest
  obtain ⟨fuel, rfl⟩ := Nat.exists_eq_add_one_of_ne_zero (Nat.ne_zero_of_lt hfuel)
  have hnumber := readNumber_natDigits n.natAbs hrest
  unfold compactChars integerText
  split_ifs with hneg
  · have hvalue : -(n.natAbs : Int) = n := by omega
    rw [List.append_assoc, List.singleton_append]
    show (readNumber (Decimal.natDigits n.natAbs ++ rest)).map _ = _
    rw [hnumber]
    show some (Value.integer (-(n.natAbs : Int)), rest) = _
    rw [hvalue]
  · have hvalue : (n.natAbs : Int) = n := by omega
    have hdigits : Decimal.natDigits n.natAbs ≠ [] := Nat.toDigits_ne_nil
    obtain ⟨c, digits, hcons⟩ := List.exists_cons_of_ne_nil hdigits
    have hc : c.isDigit = true := isDigit_of_mem_natDigits (hcons ▸ List.mem_cons_self)
    rw [hcons, List.cons_append] at hnumber
    rw [List.nil_append, hcons, List.cons_append, readValue_digit fuel hc, hnumber]
    show some (Value.integer (n.natAbs : Int), rest) = _
    rw [hvalue]

/-- A string is read back. -/
theorem readsBack_string (s : String) : ReadsBack (.string s) := by
  intro fuel rest hfuel _
  obtain ⟨fuel, rfl⟩ := Nat.exists_eq_add_one_of_ne_zero (Nat.ne_zero_of_lt hfuel)
  unfold compactChars quote
  rw [List.append_assoc]
  show (readText (s.toList.flatMap escapeChar ++ '"' :: rest)).map _ = _
  rw [readText_flatMap_escapeChar]
  show some (Value.string (String.ofList s.toList), rest) = _
  rw [String.ofList_toList]

/-- Items are read back up to the bracket behind them. -/
theorem readItems_compactItems {items : List Value} (hne : items ≠ [])
    (h : ∀ v ∈ items, ReadsBack v) {fuel : Nat} (hfuel : (compactItems items).length + 1 < fuel)
    (rest : List Char) :
    readItems fuel (compactItems items ++ ']' :: rest) = some (items, rest) := by
  induction items generalizing fuel with
  | nil => exact absurd rfl hne
  | cons v items ih =>
    obtain ⟨fuel, rfl⟩ := Nat.exists_eq_add_one_of_ne_zero (Nat.ne_zero_of_lt hfuel)
    have hv := h v List.mem_cons_self
    cases items with
    | nil =>
      rw [compactItems] at hfuel ⊢
      rw [readItems, hv fuel _ (by omega) (by rintro c ⟨⟩; decide)]
      rfl
    | cons v' items =>
      have hlength : (compactItems (v :: v' :: items)).length =
          (compactChars v).length + (compactItems (v' :: items)).length + 1 := by
        rw [compactItems, List.length_append, List.length_cons, Nat.add_assoc]
        exact List.cons_ne_nil _ _
      have hitems : readItems fuel (compactItems (v' :: items) ++ ']' :: rest) = _ :=
        ih (List.cons_ne_nil _ _) (fun u hu => h u (List.mem_cons_of_mem v hu)) (by omega)
      rw [compactItems, List.append_assoc, List.cons_append, readItems,
        hv fuel _ (by omega) (by rintro c ⟨⟩; decide)]
      · show (readItems fuel (compactItems (v' :: items) ++ ']' :: rest)).map _ = _
        rw [hitems, Option.map_some]
      · exact List.cons_ne_nil _ _

/-- Fields are read back up to the brace behind them. -/
theorem readFields_compactFields {fields : List (String × Value)} (hne : fields ≠ [])
    (h : ∀ field ∈ fields, ReadsBack field.2) {fuel : Nat}
    (hfuel : (compactFields fields).length + 1 < fuel) (rest : List Char) :
    readFields fuel (compactFields fields ++ '}' :: rest) = some (fields, rest) := by
  induction fields generalizing fuel with
  | nil => exact absurd rfl hne
  | cons field fields ih =>
    obtain ⟨fuel, rfl⟩ := Nat.exists_eq_add_one_of_ne_zero (Nat.ne_zero_of_lt hfuel)
    obtain ⟨name, v⟩ := field
    have hv : ReadsBack v := h (name, v) List.mem_cons_self
    -- The name is read first, whatever stands behind it.
    have hname : ∀ tail, readFields (fuel + 1) (quote name ++ ':' :: tail) =
        match readValue fuel tail with
        | some (v, ',' :: rest) =>
          (readFields fuel rest).map fun (fields, rest) => ((name, v) :: fields, rest)
        | some (v, '}' :: rest) => some ([(name, v)], rest)
        | _ => none := by
      intro tail
      obtain ⟨cs, rfl⟩ : ∃ cs, name = String.ofList cs := ⟨name.toList, String.ofList_toList.symm⟩
      unfold quote
      rw [List.append_assoc, String.toList_ofList]
      show readFields (fuel + 1) ('"' :: (cs.flatMap escapeChar ++ '"' :: ':' :: tail)) = _
      rw [readFields, readText_flatMap_escapeChar]
      rfl
    cases fields with
    | nil =>
      rw [compactFields] at hfuel ⊢
      rw [List.length_append, List.length_cons] at hfuel
      rw [List.append_assoc, List.cons_append, hname,
        hv fuel _ (by omega) (by rintro c ⟨⟩; decide)]
      rfl
    | cons field' fields =>
      have hlength : (compactFields ((name, v) :: field' :: fields)).length =
          (quote name).length + (compactChars v).length +
            (compactFields (field' :: fields)).length + 2 := by
        rw [compactFields, List.length_append, List.length_cons, List.length_append,
          List.length_cons]
        · omega
        · exact List.cons_ne_nil _ _
      have hfields : readFields fuel (compactFields (field' :: fields) ++ '}' :: rest) = _ :=
        ih (List.cons_ne_nil _ _) (fun u hu => h u (List.mem_cons_of_mem _ hu)) (by omega)
      rw [compactFields, List.append_assoc, List.cons_append, List.append_assoc, List.cons_append,
        hname, hv fuel _ (by omega) (by rintro c ⟨⟩; decide)]
      · show (readFields fuel (compactFields (field' :: fields) ++ '}' :: rest)).map _ = _
        rw [hfields, Option.map_some]
      · exact List.cons_ne_nil _ _

/-- An array that is not closed at once has items. -/
theorem readValue_array {fuel : Nat} {cs rest : List Char} {items : List Value}
    (h : readItems fuel cs = some (items, rest)) :
    readValue (fuel + 1) ('[' :: cs) = some (.array items, rest) := by
  rw [readValue.eq_def]
  dsimp only
  split
  case h_5 closed heq =>
    -- No item begins with a bracket that closes.
    obtain ⟨-, rfl⟩ := List.cons.inj heq
    match fuel, h with
    | fuel + 2, h => cases h
  case h_6 heq =>
    obtain ⟨-, rfl⟩ := List.cons.inj heq
    rw [h]
    rfl
  case h_10 hopen _ _ _ => exact (hopen cs rfl).elim
  all_goals
    next heq => exact absurd (List.cons.inj heq).1 (by decide)

/-- An object that is not closed at once has fields. -/
theorem readValue_object {fuel : Nat} {cs rest : List Char} {fields : List (String × Value)}
    (h : readFields fuel cs = some (fields, rest)) :
    readValue (fuel + 1) ('{' :: cs) = some (.object fields, rest) := by
  rw [readValue.eq_def]
  dsimp only
  split
  case h_7 closed heq =>
    -- No field begins with a brace that closes.
    obtain ⟨-, rfl⟩ := List.cons.inj heq
    match fuel, h with
    | fuel + 1, h => cases h
  case h_8 heq =>
    obtain ⟨-, rfl⟩ := List.cons.inj heq
    rw [h]
    rfl
  case h_10 hopen _ => exact (hopen cs rfl).elim
  all_goals
    next heq => exact absurd (List.cons.inj heq).1 (by decide)

/-- Values whose numbers are whole are read back. -/
theorem Value.Whole.readsBack {v : Value} (h : v.Whole) : ReadsBack v := by
  induction h with
  | null =>
    intro fuel rest hfuel _
    obtain ⟨fuel, rfl⟩ := Nat.exists_eq_add_one_of_ne_zero (Nat.ne_zero_of_lt hfuel)
    rfl
  | bool b =>
    intro fuel rest hfuel _
    obtain ⟨fuel, rfl⟩ := Nat.exists_eq_add_one_of_ne_zero (Nat.ne_zero_of_lt hfuel)
    cases b <;> rfl
  | integer n => exact readsBack_integer n
  | string s => exact readsBack_string s
  | @array items _ ih =>
    intro fuel rest hfuel _
    obtain ⟨fuel, rfl⟩ := Nat.exists_eq_add_one_of_ne_zero (Nat.ne_zero_of_lt hfuel)
    cases items with
    | nil => rfl
    | cons v items =>
      rw [compactChars, List.length_append, List.length_cons, List.length_singleton] at hfuel
      have hitems : readItems fuel (compactItems (v :: items) ++ ']' :: rest) = _ :=
        readItems_compactItems (List.cons_ne_nil v items) ih (by omega) rest
      rw [compactChars, List.append_assoc]
      exact readValue_array hitems
  | @object fields _ ih =>
    intro fuel rest hfuel _
    obtain ⟨fuel, rfl⟩ := Nat.exists_eq_add_one_of_ne_zero (Nat.ne_zero_of_lt hfuel)
    cases fields with
    | nil => rfl
    | cons field fields =>
      rw [compactChars, List.length_append, List.length_cons, List.length_singleton] at hfuel
      have hfields : readFields fuel (compactFields (field :: fields) ++ '}' :: rest) = _ :=
        readFields_compactFields (List.cons_ne_nil field fields) ih (by omega) rest
      rw [compactChars, List.append_assoc]
      exact readValue_object hfields

/-- A line that a value without other than whole numbers is printed on stands for the value. -/
theorem read?_compact {v : Value} (h : v.Whole) : read? (v.compact ++ "\n") = some v := by
  have hread := h.readsBack ((compactChars v).length + 2) ['\n'] (by omega)
    (by rintro c ⟨⟩; decide)
  unfold read? Value.compact
  rw [String.toList_append, String.toList_ofList, String.length_append, String.length_ofList]
  show (match readValue ((compactChars v).length + 2) (compactChars v ++ ['\n']) with
    | some (v, []) | some (v, ['\n']) => some v
    | _ => none) = _
  rw [hread]
  rfl

example : read? "[-12,\"a\\n\\u0041\",[],true]\n" =
    some (.array [.integer (-12), .string "a\nA", .array [], .bool true]) := by
  cbv

end IconSubset.Json
