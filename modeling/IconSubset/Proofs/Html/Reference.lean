import IconSubset.Html.Reference
import IconSubset.Proofs.Text.Digits
import Mathlib.Data.List.Basic

/-!
# Decoding what was escaped

Escaping writes a character as itself or as one of four references (`escape_cases`), and each of
these stands for the character that it was written for. So decoding takes an escaped text back
(`decode_encode`), and an escaped text has an ampersand only where a reference starts
(`exists_reference`).

A reference by number stands for the character that is numbered, however the digits write the number
(`decode_decimal`, `decode_hexadecimal`).
-/

namespace IconSubset.Html

open Text (DecimalDigit HexDigit)

/-- A character is written as a reference when there is one for it, and as itself otherwise. -/
theorem escape_cases (c : Char) :
    (∃ name, (name, c) ∈ escapes ∧ escape c = '&' :: name.toList ++ [';']) ∨
      escape c = [c] ∧ ∀ name, (name, c) ∉ escapes := by
  unfold escape
  split
  · next name d hfind =>
    obtain rfl : d = c := by simpa using List.find?_some hfind
    exact .inl ⟨name, List.mem_of_find?_eq_some hfind, rfl⟩
  · next hfind =>
    refine .inr ⟨rfl, fun name hname => ?_⟩
    exact List.find?_eq_none.1 hfind (name, c) hname (beq_self_eq_true c)

/-- Decoding takes one escaped character at a time. -/
theorem decodeWithin_escape (fuel : Nat) (c : Char) (rest : List Char) :
    decodeWithin (fuel + 1) (escape c ++ rest) = c :: decodeWithin fuel rest := by
  obtain ⟨name, hmem, hescape⟩ | ⟨hescape, hnone⟩ := escape_cases c
  · have hreference : readReference? (name.toList ++ ';' :: rest) = some (c, rest) := by
      simp only [escapes, List.mem_cons, Prod.mk.injEq, List.not_mem_nil, or_false] at hmem
      obtain ⟨rfl, rfl⟩ | ⟨rfl, rfl⟩ | ⟨rfl, rfl⟩ | ⟨rfl, rfl⟩ := hmem <;> rfl
    rw [hescape, List.append_assoc, List.cons_append, List.singleton_append, decodeWithin,
      if_pos rfl, hreference]
  · have hc : c ≠ '&' := by
      rintro rfl
      exact hnone "amp" List.mem_cons_self
    rw [hescape, List.singleton_append, decodeWithin, if_neg hc]

/-- Decoding takes back what escaping wrote, character by character. -/
theorem decodeWithin_flatMap_escape {fuel : Nat} {cs : List Char} (h : cs.length ≤ fuel) :
    decodeWithin fuel (cs.flatMap escape) = cs := by
  induction cs generalizing fuel with
  | nil => cases fuel <;> rfl
  | cons c cs ih =>
    rw [List.length_cons] at h
    obtain ⟨fuel, rfl⟩ := Nat.exists_eq_add_one_of_ne_zero (Nat.ne_zero_of_lt h)
    rw [List.flatMap_cons, decodeWithin_escape, ih (Nat.le_of_succ_le_succ h)]

/-- Every character is written with one character or more. -/
theorem length_le_flatMap_escape (cs : List Char) : cs.length ≤ (cs.flatMap escape).length := by
  induction cs with
  | nil => exact Nat.le_refl _
  | cons c cs ih =>
    have hc : 0 < (escape c).length := by
      obtain ⟨name, -, hescape⟩ | ⟨hescape, -⟩ := escape_cases c <;> rw [hescape] <;>
        exact Nat.succ_pos _
    rw [List.flatMap_cons, List.length_append, List.length_cons]
    omega

/-- Decoding takes back what escaping wrote. -/
theorem decode_encode (s : String) : decode (encode s) = s := by
  unfold decode encode
  rw [String.length_ofList, String.toList_ofList,
    decodeWithin_flatMap_escape (length_le_flatMap_escape s.toList), String.ofList_toList]

/-- The characters of an escaped text are none of the quotation mark and the angle brackets. -/
theorem ne_of_mem_encode {s : String} {c : Char} (h : c ∈ (encode s).toList) :
    c ≠ '"' ∧ c ≠ '<' ∧ c ≠ '>' := by
  unfold encode at h
  rw [String.toList_ofList] at h
  obtain ⟨d, -, hc⟩ := List.mem_flatMap.1 h
  obtain ⟨name, hname, hescape⟩ | ⟨hescape, hnone⟩ := escape_cases d
  · have hnames : escapes.all fun e => ('&' :: e.1.toList ++ [';']).all fun c =>
        c ≠ '"' ∧ c ≠ '<' ∧ c ≠ '>' := by decide
    rw [hescape] at hc
    exact of_decide_eq_true (List.all_eq_true.1 (List.all_eq_true.1 hnames _ hname) c hc)
  · rw [hescape] at hc
    obtain rfl := List.mem_singleton.1 hc
    -- For each of the three there is a reference.
    refine ⟨?_, ?_, ?_⟩
    · rintro rfl
      exact hnone "quot" (by decide)
    · rintro rfl
      exact hnone "lt" (by decide)
    · rintro rfl
      exact hnone "gt" (by decide)

/-- An ampersand in what is written for a character starts its reference. -/
theorem eq_reference_of_escape {c : Char} {before after : List Char}
    (h : escape c = before ++ '&' :: after) : ∃ e ∈ escapes, after = e.1.toList ++ [';'] := by
  obtain ⟨name, hname, hescape⟩ | ⟨hescape, hnone⟩ := escape_cases c
  · rw [hescape] at h
    cases before with
    | nil => exact ⟨(name, c), hname, (List.cons.inj h).2.symm⟩
    | cons b before =>
      -- There is no other ampersand in a reference.
      have hinner : ∀ e ∈ escapes, '&' ∉ e.1.toList ++ [';'] := by decide
      have htail : name.toList ++ [';'] = before ++ '&' :: after := (List.cons.inj h).2
      exact absurd (htail ▸ List.mem_append_right before List.mem_cons_self) (hinner _ hname)
  · have hamp : '&' ∈ escape c := h ▸ List.mem_append_right before List.mem_cons_self
    rw [hescape] at hamp
    obtain rfl := List.mem_singleton.1 hamp
    exact absurd List.mem_cons_self (hnone "amp")

/-- An ampersand in what was escaped starts a reference. -/
theorem exists_reference {cs before after : List Char}
    (h : cs.flatMap escape = before ++ '&' :: after) :
    ∃ e ∈ escapes, e.1.toList ++ [';'] <+: after := by
  induction cs generalizing before with
  | nil => exact absurd h (List.append_ne_nil_of_right_ne_nil before (List.cons_ne_nil _ _)).symm
  | cons c cs ih =>
    rw [List.flatMap_cons] at h
    -- The ampersand stands behind what is written for the first character, or in it.
    obtain ⟨more, -, hrest⟩ | ⟨more, hc, hrest⟩ := List.append_eq_append_iff.1 h
    · exact ih hrest
    · cases more with
      | nil => exact @ih [] hrest.symm
      | cons a more =>
        obtain ⟨rfl, rfl⟩ := List.cons.inj hrest
        obtain ⟨e, he, rfl⟩ := eq_reference_of_escape hc
        exact ⟨e, he, List.prefix_append _ _⟩

/-! ## References by number -/

/-- Whether a reference by number can stand for a character. -/
def isReferable (c : Char) : Bool := 0x20 ≤ c.toNat || ['\t', '\n', '\x0c', '\r'].contains c

/-- The number of such a character stands for it. -/
theorem character?_toNat {c : Char} (h : isReferable c = true) : character? c.toNat = some c := by
  unfold character?
  rw [if_neg, Text.character?_toNat]
  rintro ⟨hlow, htab, hline, hform, hreturn⟩
  rcases Bool.or_eq_true_iff.1 h with hhigh | hmem
  · exact absurd (of_decide_eq_true hhigh) (Nat.not_le_of_lt hlow)
  · simp only [List.contains_eq_mem, List.mem_cons, List.not_mem_nil, or_false,
      decide_eq_true_eq] at hmem
    rcases hmem with rfl | rfl | rfl | rfl
    · exact htab rfl
    · exact hline rfl
    · exact hform rfl
    · exact hreturn rfl

/-- A reference alone is replaced by what it stands for. -/
theorem decode_reference {body : List Char} {c : Char}
    (hbody : body.all isReferencePart = true) (h : reference? body = some c) :
    decode (String.ofList ('&' :: (body ++ [';']))) = String.ofList [c] := by
  have hend : isReferencePart ';' = false := by decide
  have hread : readReference? (body ++ [';']) = some (c, []) := by
    have hall := List.all_eq_true.1 hbody
    unfold readReference?
    rw [List.dropWhile_append_of_pos hall, List.takeWhile_append_of_pos hall,
      List.dropWhile_cons_of_neg (by simp [hend]), List.takeWhile_cons_of_neg (by simp [hend]),
      List.append_nil, h]
    rfl
  have hnil : ∀ fuel, decodeWithin fuel [] = [] := fun fuel => by cases fuel <;> rfl
  unfold decode
  rw [String.length_ofList, String.toList_ofList, List.length_cons, decodeWithin, if_pos rfl,
    hread]
  dsimp only
  rw [hnil]

section Digits

variable {c : Char}

/-- Decimal digits may stand in a reference, and none begins a hexadecimal number. -/
theorem isReferencePart_decimal (d : DecimalDigit) :
    isReferencePart d.char = true ∧ d.char ≠ 'x' ∧ d.char ≠ 'X' :=
  (by decide : ∀ n : Fin 10, isReferencePart (Nat.digitChar n) = true ∧
    Nat.digitChar n ≠ 'x' ∧ Nat.digitChar n ≠ 'X') d.value

/-- Hexadecimal digits may stand in a reference. -/
theorem isReferencePart_hexadecimal (d : HexDigit) : isReferencePart d.char = true := by
  have hall : ∀ (n : Fin 16) (upper : Bool),
      isReferencePart (HexDigit.char ⟨n, upper⟩) = true := by
    decide
  exact hall d.value d.upper

/-- A reference by a decimal number stands for the character that is numbered. -/
theorem decode_decimal (hc : isReferable c = true) {digits : List DecimalDigit} (hne : digits ≠ [])
    (h : Text.decimal digits = c.toNat) :
    decode (String.ofList ('&' :: ('#' :: digits.map DecimalDigit.char ++ [';']))) =
      String.ofList [c] := by
  refine decode_reference ?_ ?_
  · rw [List.all_cons, List.all_map, Bool.and_eq_true, List.all_eq_true]
    exact ⟨rfl, fun d _ => (isReferencePart_decimal d).1⟩
  · have hnumber : reference? ('#' :: digits.map DecimalDigit.char) =
        (Text.number? Text.decimalDigit? 10 (digits.map DecimalDigit.char)).bind character? := by
      obtain ⟨d, rest, rfl⟩ := List.exists_cons_of_ne_nil hne
      obtain ⟨-, hlower, hupper⟩ := isReferencePart_decimal d
      rw [List.map_cons, reference?]
      · exact fun _ hcons => hlower (List.cons.inj hcons).1
      · exact fun _ hcons => hupper (List.cons.inj hcons).1
    unfold Text.decimal at h
    rw [hnumber, Text.number?_map Text.decimalDigit?_char hne, h, Option.bind_some,
      character?_toNat hc]

/-- A reference by a hexadecimal number stands for the character that is numbered. -/
theorem decode_hexadecimal (hc : isReferable c = true) {digits : List HexDigit} (hne : digits ≠ [])
    (h : Text.hexadecimal digits = c.toNat) :
    decode (String.ofList ('&' :: ('#' :: 'x' :: digits.map HexDigit.char ++ [';']))) =
      String.ofList [c] := by
  refine decode_reference ?_ ?_
  · rw [List.all_cons, List.all_cons, List.all_map, Bool.and_eq_true, Bool.and_eq_true,
      List.all_eq_true]
    exact ⟨rfl, rfl, fun d _ => isReferencePart_hexadecimal d⟩
  · unfold Text.hexadecimal at h
    show (Text.number? Text.hexDigit? 16 (digits.map HexDigit.char)).bind character? = some c
    rw [Text.number?_map Text.hexDigit?_char hne, h, Option.bind_some, character?_toNat hc]

end Digits

end IconSubset.Html
