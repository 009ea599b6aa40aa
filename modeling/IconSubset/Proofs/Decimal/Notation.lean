import IconSubset.Decimal.Notation
import IconSubset.Proofs.Decimal.Shortest
import IconSubset.Proofs.Text.Digits

/-!
# Decimals that are written as they were read

A decimal with a point is read as a number of binary64, and the number is written with the fewest
digits that are read as it. So the decimal comes back in the same characters exactly when it has no
zero in front that could be left out and its digits are the ones with which the number is written
(`plain_ofDecimal_eq_iff`). What the latter means is said in terms of reading alone (`IsShortest`).
For a decimal of few digits it means no more than that the last one is not zero
(`isShortest_of_lt`).
-/

namespace IconSubset.Decimal

open Text (DecimalDigit)

/-! ## The digits of a natural number -/

section NatDigits

/-- How digits are written. -/
def chars (ds : List DecimalDigit) : List Char := ds.map DecimalDigit.char

/-- Each digit is one character. -/
@[simp] theorem length_chars (ds : List DecimalDigit) : (chars ds).length = ds.length :=
  List.length_map ..

/-- Digits in a row are written in a row. -/
@[simp] theorem chars_append (ds ds' : List DecimalDigit) :
    chars (ds ++ ds') = chars ds ++ chars ds' := List.map_append

/-- Whether digits begin with a zero that could be left out. -/
def NoLeadingZero (ds : List DecimalDigit) : Prop := ds.length = 1 ∨ ds.head? ≠ some ⟨0⟩

instance (ds : List DecimalDigit) : Decidable (NoLeadingZero ds) :=
  inferInstanceAs (Decidable (_ ∨ _))

/-- A digit at the end moves those in front of it by one place. -/
theorem decimal_concat (ds : List DecimalDigit) (d : DecimalDigit) :
    Text.decimal (ds ++ [d]) = 10 * Text.decimal ds + d.value := by
  simp only [Text.decimal, Text.numeral, List.map_append, List.map_cons, List.map_nil,
    List.reverse_append, List.reverse_singleton, List.singleton_append, Nat.ofDigits_cons]
  exact Nat.add_comm ..

/-- Digits write a number below the power of ten of their count. -/
theorem decimal_lt (ds : List DecimalDigit) : Text.decimal ds < 10 ^ ds.length := by
  have hlt := Nat.ofDigits_lt_base_pow_length (b := 10) (l := (ds.map fun d => d.value.val).reverse)
    (by norm_num) (by simp)
  simpa [Text.decimal, Text.numeral] using hlt

/-- A first digit that is not zero makes a number positive. -/
theorem decimal_cons_pos {d : DecimalDigit} (hd : d ≠ ⟨0⟩) (ds : List DecimalDigit) :
    0 < Text.decimal (d :: ds) := by
  have hvalue : 0 < d.value.val := by
    refine Nat.pos_of_ne_zero fun hzero => hd ?_
    obtain ⟨value⟩ := d
    exact congrArg DecimalDigit.mk (Fin.ext hzero)
  rw [Text.decimal, List.map_cons, Text.numeral_cons]
  positivity

/-- Digits that do not begin with a zero are those of the number that they write. -/
theorem natDigits_decimal_cons {d : DecimalDigit} (hd : d ≠ ⟨0⟩) (ds : List DecimalDigit) :
    natDigits (Text.decimal (d :: ds)) = chars (d :: ds) := by
  induction ds using List.reverseRecOn with
  | nil =>
    have hvalue : Text.decimal [d] = d.value := by simp [Text.decimal, Text.numeral]
    rw [natDigits, hvalue, Nat.toDigits_of_lt_base d.value.isLt]
    rfl
  | append_singleton ds x ih =>
    have happend := Nat.toDigits_append_toDigits (b := 10) (by norm_num) (decimal_cons_pos hd ds)
      x.value.isLt
    rw [natDigits] at ih ⊢
    rw [← List.cons_append, decimal_concat, ← happend, ih, Nat.toDigits_of_lt_base x.value.isLt]
    simp [chars, DecimalDigit.char]

/-- The number that digits write has no more digits. -/
theorem length_natDigits_decimal_le {ds : List DecimalDigit} (hne : ds ≠ []) :
    (natDigits (Text.decimal ds)).length ≤ ds.length :=
  (Nat.length_toDigits_le_iff (by norm_num) (List.length_pos_of_ne_nil hne)).2 (decimal_lt ds)

/-- Digits are those of the number that they write, with zeros in front. -/
theorem chars_eq {ds : List DecimalDigit} (hne : ds ≠ []) :
    chars ds = List.replicate (ds.length - (natDigits (Text.decimal ds)).length) '0' ++
      natDigits (Text.decimal ds) := by
  induction ds with
  | nil => exact absurd rfl hne
  | cons d ds ih =>
    by_cases hd : d = ⟨0⟩
    · subst hd
      rcases ds with _ | ⟨x, ds⟩
      · rfl
      · have hrest : x :: ds ≠ [] := List.cons_ne_nil x ds
        have hdecimal : Text.decimal (⟨0⟩ :: x :: ds) = Text.decimal (x :: ds) := by
          simp [Text.decimal, Text.numeral_cons]
        have hlength := length_natDigits_decimal_le hrest
        have hcount : (⟨0⟩ :: x :: ds).length - (natDigits (Text.decimal (x :: ds))).length =
            (x :: ds).length - (natDigits (Text.decimal (x :: ds))).length + 1 :=
          Nat.succ_sub hlength
        rw [hdecimal, hcount, List.replicate_succ, List.cons_append, ← ih hrest]
        rfl
    · rw [natDigits_decimal_cons hd]
      simp [chars]

/-- Digits are those of the number that they write, filled up with zeros to a number of places, when
there are no more places or they do not begin with a zero. -/
theorem padded_eq_iff {ds : List DecimalDigit} {places : Nat} (hplaces : 0 < places)
    (hle : places ≤ ds.length) :
    List.replicate (places - (natDigits (Text.decimal ds)).length) '0' ++
        natDigits (Text.decimal ds) = chars ds ↔
      ds.length = places ∨ ds.head? ≠ some ⟨0⟩ := by
  have hne : ds ≠ [] := List.ne_nil_of_length_pos (by omega)
  have hlength := length_natDigits_decimal_le hne
  have hcount : List.replicate (places - (natDigits (Text.decimal ds)).length) '0' ++
        natDigits (Text.decimal ds) = chars ds ↔
      places - (natDigits (Text.decimal ds)).length =
        ds.length - (natDigits (Text.decimal ds)).length := by
    rw [chars_eq hne, List.append_left_inj, List.replicate_inj]
    simp
  rw [hcount]
  obtain ⟨d, rest, rfl⟩ := List.exists_cons_of_ne_nil hne
  by_cases hd : d = ⟨0⟩
  · subst hd
    have hhead : ¬((⟨0⟩ :: rest : List DecimalDigit).head? ≠ some ⟨0⟩) := fun h => h rfl
    have hshort : places < rest.length + 1 →
        (natDigits (Text.decimal (⟨0⟩ :: rest))).length ≤ rest.length := by
      intro hlt
      have hrest : rest ≠ [] := List.ne_nil_of_length_pos (by omega)
      have hdecimal : Text.decimal (⟨0⟩ :: rest) = Text.decimal rest := by
        simp [Text.decimal, Text.numeral_cons]
      rw [hdecimal]
      exact length_natDigits_decimal_le hrest
    rw [or_iff_left hhead]
    rw [List.length_cons] at *
    omega
  · have hhead : (d :: rest).head? ≠ some ⟨0⟩ := fun h => hd (Option.some.inj h)
    have hfull : (natDigits (Text.decimal (d :: rest))).length = (d :: rest).length := by
      rw [natDigits_decimal_cons hd, length_chars]
    exact iff_of_true (by omega) (.inr hhead)

/-- A number is written with the digits that it was written with when they do not begin with a zero
that could be left out. -/
theorem natDigits_decimal_eq_iff {ds : List DecimalDigit} (hne : ds ≠ []) :
    natDigits (Text.decimal ds) = chars ds ↔ NoLeadingZero ds := by
  have hpadded := padded_eq_iff Nat.one_pos (List.length_pos_of_ne_nil hne)
  have hlength : 0 < (natDigits (Text.decimal ds)).length := Nat.length_toDigits_pos
  rw [Nat.sub_eq_zero_of_le hlength, List.replicate_zero, List.nil_append] at hpadded
  exact hpadded

/-- A number is known by its digits, whatever zeros stand in front of them. -/
theorem eq_decimal_of_chars {t zeros : Nat} {ds : List DecimalDigit}
    (h : List.replicate zeros '0' ++ natDigits t = chars ds) : t = Text.decimal ds := by
  have hvalue : ∀ ds : List DecimalDigit, Nat.ofDigitChars 10 (chars ds) 0 = Text.decimal ds := by
    intro ds
    induction ds using List.reverseRecOn with
    | nil => rfl
    | append_singleton ds x ih =>
      have hchar : x.char.toNat - '0'.toNat = x.value :=
        (by decide : ∀ n : Fin 10, (Nat.digitChar n).toNat - '0'.toNat = n) x.value
      rw [decimal_concat, ← ih, chars_append, Nat.ofDigitChars_append, chars, List.map_singleton,
        Nat.ofDigitChars_cons, Nat.ofDigitChars_nil, hchar]
  calc t = Nat.ofDigitChars 10 (natDigits t) 0 :=
    (Nat.ofDigitChars_toDigits (by decide) le_rfl).symm
    _ = Nat.ofDigitChars 10 (List.replicate zeros '0' ++ natDigits t) 0 := by
      rw [Nat.ofDigitChars_append, Nat.ofDigitChars_replicate_zero, mul_zero]
    _ = Text.decimal ds := by rw [h, hvalue]

end NatDigits

/-! ## Points -/

section Points

/-- No digit is a point. -/
theorem point_notMem_chars (ds : List DecimalDigit) : '.' ∉ chars ds := by
  intro hmem
  obtain ⟨d, -, hd⟩ := List.mem_map.1 hmem
  exact (by decide : ∀ n : Fin 10, Nat.digitChar n ≠ '.') d.value hd

/-- Among the digits of a number, with zeros around them, there is no point. -/
theorem point_notMem_natDigits (before t after : Nat) :
    '.' ∉ List.replicate before '0' ++ natDigits t ++ List.replicate after '0' := by
  have hdigits : '.' ∉ natDigits t := by
    intro hmem
    have hdigit := Nat.isDigit_of_mem_toDigits (by decide) (by decide) hmem
    exact absurd hdigit (by decide)
  have hzeros : ∀ n, '.' ∉ List.replicate n '0' := by simp [List.mem_replicate]
  simp only [List.mem_append, not_or]
  exact ⟨⟨hzeros before, hdigits⟩, hzeros after⟩

/-- What is written in positional notation are digits and a point. -/
theorem isDigit_of_mem_positional {d : Digits} {c : Char} (h : c ∈ positional d) :
    c.isDigit = true ∨ c = '.' := by
  have hdigits : ∀ {c}, c ∈ natDigits d.digits → c.isDigit = true :=
    fun h => Nat.isDigit_of_mem_toDigits (by decide) (by decide) h
  have hzeros : ∀ {c n}, c ∈ List.replicate n '0' → c.isDigit = true := by
    intro c n h
    obtain rfl := List.eq_of_mem_replicate h
    decide
  unfold positional at h
  dsimp only at h
  split_ifs at h
  · exact .inl ((List.mem_append.1 h).elim hdigits hzeros)
  · rcases List.mem_append.1 h with h | h
    · exact .inl ((List.mem_append.1 (List.mem_of_mem_take h)).elim hzeros hdigits)
    · rcases List.mem_cons.1 h with h | h
      · exact .inr h
      · exact .inl ((List.mem_append.1 (List.mem_of_mem_drop h)).elim hzeros hdigits)

/-- A number in range is written with its sign and the fewest digits. -/
theorem plain_finite (negative : Bool) (m : Nat) (e : Int) :
    (Binary64.finite negative m e).plain =
      String.ofList ((if negative then ['-'] else []) ++ positional (shortest .up m e)) := by
  cases negative <;> rfl

/-- A number is written without a plus sign. -/
theorem plus_notMem_plain (x : Binary64) : '+' ∉ x.plain.toList := by
  cases x with
  | notANumber => decide
  | infinite negative => cases negative <;> decide
  | finite negative m e =>
    have hpositional : '+' ∉ positional (shortest .up m e) := by
      intro h
      exact absurd (isDigit_of_mem_positional h) (by decide)
    rw [plain_finite, String.toList_ofList]
    cases negative <;> simp [hpositional]

/-- Digits are written in positional notation as a decimal with a point when they are its digits and
nothing can be left out in front. -/
theorem positional_eq_iff {whole fraction : List DecimalDigit} (hwhole : whole ≠ [])
    (hfraction : fraction ≠ []) {d : Digits} :
    positional d = chars whole ++ '.' :: chars fraction ↔
      d = ⟨Text.decimal (whole ++ fraction), -(fraction.length : Int)⟩ ∧ NoLeadingZero whole := by
  obtain ⟨t, g⟩ := d
  have hwholeLength := List.length_pos_of_ne_nil hwhole
  have hfractionLength := List.length_pos_of_ne_nil hfraction
  unfold positional
  dsimp only
  split_ifs with hg
  · -- Without places after the point there is none.
    refine iff_of_false (fun heq => ?_) fun h => ?_
    · have hmem : '.' ∈ natDigits t ++ List.replicate g.toNat '0' := by
        rw [heq]
        simp
      exact point_notMem_natDigits 0 t g.toNat hmem
    · have hexponent : g = -(fraction.length : Int) := congrArg Digits.exponent h.1
      omega
  · obtain ⟨places, rfl⟩ : ∃ places : Nat, g = -(places : Int) := ⟨(-g).toNat, by omega⟩
    rw [neg_neg, Int.toNat_natCast]
    have hlength : (List.replicate (places + 1 - (natDigits t).length) '0' ++
        natDigits t).length = places + 1 - (natDigits t).length + (natDigits t).length := by simp
    have hpoint := point_notMem_natDigits (places + 1 - (natDigits t).length) t 0
    rw [List.replicate_zero, List.append_nil] at hpoint
    generalize hpadded : List.replicate (places + 1 - (natDigits t).length) '0' ++ natDigits t =
      padded at *
    rw [List.append_cons_inj_of_notMem (fun h => hpoint (List.mem_of_mem_take h))
      (fun h => hpoint (List.mem_of_mem_drop h))]
    constructor
    · rintro ⟨hbefore, -, hafter⟩
      have hplaces : places = fraction.length := by
        have hcount := congrArg List.length hafter
        rw [List.length_drop, length_chars] at hcount
        omega
      have hall : padded = chars (whole ++ fraction) := by
        rw [chars_append, ← hbefore, ← hafter, List.take_append_drop]
      subst hpadded
      obtain rfl := eq_decimal_of_chars hall
      have hzero := (padded_eq_iff (by omega) (by simp; omega)).1 hall
      rw [List.length_append, List.head?_append_of_ne_nil _ hwhole] at hzero
      exact ⟨by rw [hplaces], hzero.imp_left fun h => by omega⟩
    · rintro ⟨heq, hzero⟩
      obtain ⟨rfl, hplaces⟩ := Digits.mk.inj heq
      obtain rfl : places = fraction.length := by omega
      have hplaces' : fraction.length + 1 ≤ (whole ++ fraction).length := by
        rw [List.length_append]
        omega
      have hall := (padded_eq_iff (Nat.succ_pos _) hplaces').2 (by
        rw [List.length_append, List.head?_append_of_ne_nil _ hwhole]
        exact hzero.imp_left fun h => by omega)
      rw [hpadded] at hall
      have hsplit : padded.length - fraction.length = (chars whole).length := by
        simp [hall]
      rw [hsplit, hall, chars_append]
      exact ⟨List.take_left, rfl, List.drop_left⟩

end Points

/-! ## Numbers that come back -/

section Numbers

variable {negative : Bool} {t : Nat} {g : Int}

/-- A decimal has the digits with which the number that it is read as is written. -/
structure IsShortest (negative : Bool) (t : Nat) (g : Int) : Prop where
  /-- With one place fewer nothing is read as the same number. -/
  coarsest : ∀ t', Binary64.ofDecimal negative t' (g + 1) ≠ Binary64.ofDecimal negative t g
  /-- With as many places nothing else that is read as the same number is as near to it, unless it
  is the lesser one. -/
  nearest : ∀ m e, Binary64.ofDecimal negative t g = .finite negative m e →
    ∀ t', Binary64.ofDecimal negative t' g = Binary64.ofDecimal negative t g → t' ≠ t →
      |decimal t g - binary m e| < |decimal t' g - binary m e| ∨
        (|decimal t g - binary m e| = |decimal t' g - binary m e| ∧ t' < t)

/-- The number that such a decimal is read as is in range, and it is not zero. -/
theorem IsShortest.finite (h : IsShortest negative t g) :
    ∃ m e, 0 < m ∧ Binary64.ofDecimal negative t g = .finite negative m e := by
  obtain ⟨m, e, hnormal, -, heq⟩ := ofDecimal_spec negative t g
  split_ifs at heq with hrange
  · -- Another power of ten is out of range too.
    obtain ⟨m', e', hnormal', hread, heq'⟩ :=
      ofDecimal_spec negative (10 ^ (400 - (g + 1)).toNat) (g + 1)
    have hlarge : (10 : ℚ) ^ (400 : Int) ≤ decimal (10 ^ (400 - (g + 1)).toNat) (g + 1) := by
      have hexponent : (400 : Int) ≤ ((400 - (g + 1)).toNat : Int) + (g + 1) := by omega
      rw [decimal, Nat.cast_pow, Nat.cast_ofNat, ← zpow_natCast, ← zpow_add₀ (by norm_num)]
      exact zpow_le_zpow_right₀ (by norm_num) hexponent
    have hrange' : 971 < e' := by
      by_contra hle
      exact absurd (hread.lt_of_le hnormal' (not_lt.1 hle)) (not_lt.2 hlarge)
    rw [if_pos hrange'] at heq'
    exact absurd (heq'.trans heq.symm) (h.coarsest _)
  · refine ⟨m, e, Nat.pos_of_ne_zero ?_, heq⟩
    rintro rfl
    obtain rfl : e = -1074 := hnormal.full.resolve_right (by norm_num)
    exact h.coarsest 0 heq.symm

/-- What such a decimal is says which digits the number is written with. -/
theorem shortest_eq_iff_isShortest {m : Nat} {e : Int} (hm : 0 < m)
    (h : Binary64.ofDecimal negative t g = .finite negative m e) :
    shortest .up m e = ⟨t, g⟩ ↔ IsShortest negative t g := by
  obtain ⟨hnormal, hrange, hread⟩ := ofDecimal_eq_finite_iff.1 h
  have hsame : ∀ t' g', Binary64.ofDecimal negative t' g' = Binary64.ofDecimal negative t g ↔
      IsReadAs (decimal t' g') m e := by
    intro t' g'
    rw [h, ofDecimal_eq_finite_iff]
    exact ⟨fun h => h.2.2, fun h => ⟨hnormal, hrange, h⟩⟩
  rw [shortest_eq_iff hnormal hm]
  constructor
  · rintro ⟨hcoarsest, hnearest⟩
    refine ⟨fun t' => mt (hsame t' (g + 1)).1 (hcoarsest t'), fun m' e' h' t' ht' => ?_⟩
    obtain ⟨-, rfl, rfl⟩ := Binary64.finite.inj (h.symm.trans h')
    exact hnearest.nearest t' ((hsame t' g).1 ht')
  · intro hshortest
    exact ⟨fun t' => mt (hsame t' (g + 1)).2 (hshortest.coarsest t'),
      hread, fun t' ht' => hshortest.nearest m e h t' ((hsame t' g).2 ht')⟩

/-- A decimal with a point comes back from the number that it is read as when nothing can be left
out in front and its digits are those with which the number is written. -/
theorem plain_ofDecimal_eq_iff (negative : Bool) {whole fraction : List DecimalDigit}
    (hwhole : whole ≠ []) (hfraction : fraction ≠ []) :
    (Binary64.ofDecimal negative (Text.decimal (whole ++ fraction))
        (-(fraction.length : Int))).plain =
      String.ofList ((if negative then ['-'] else []) ++ (chars whole ++ '.' :: chars fraction)) ↔
    NoLeadingZero whole ∧
      IsShortest negative (Text.decimal (whole ++ fraction)) (-(fraction.length : Int)) := by
  have hfractionLength := List.length_pos_of_ne_nil hfraction
  obtain ⟨m, e, hnormal, -, heq⟩ := ofDecimal_spec negative (Text.decimal (whole ++ fraction))
    (-(fraction.length : Int))
  split_ifs at heq with hrange
  · -- What is out of range is written without a point.
    refine iff_of_false (fun hplain => ?_) fun h => ?_
    · have hmem : '.' ∈ (Binary64.plain (.infinite negative)).toList := by
        rw [← heq, hplain, String.toList_ofList]
        simp
      cases negative <;> exact absurd hmem (by decide)
    · obtain ⟨m', e', -, hfinite⟩ := h.2.finite
      rw [heq] at hfinite
      cases hfinite
  · rw [heq, plain_finite, String.ofList_inj, List.append_right_inj,
      positional_eq_iff hwhole hfraction,
      and_comm]
    refine and_congr_right fun _ => ?_
    rcases Nat.eq_zero_or_pos m with rfl | hm
    · refine iff_of_false (fun h => ?_) fun h => ?_
      · have hexponent : (0 : Int) = -(fraction.length : Int) := congrArg Digits.exponent h
        omega
      · obtain ⟨m', e', hm', hfinite⟩ := h.finite
        obtain ⟨-, rfl, -⟩ := Binary64.finite.inj (heq.symm.trans hfinite)
        exact absurd hm' (lt_irrefl 0)
    · exact shortest_eq_iff_isShortest hm heq

/-- Halfway between two decimals the greater one is written. -/
example : (Binary64.ofDecimal false 112589990684262425 (-2)).plain = "1125899906842624.3" := by
  decide +kernel

/-- Decimals of one value are read as one number. -/
theorem ofDecimal_congr {t' : Nat} {g' : Int} (h : decimal t g = decimal t' g') :
    Binary64.ofDecimal negative t g = Binary64.ofDecimal negative t' g' := by
  obtain ⟨m, e, hnormal, hread, heq⟩ := ofDecimal_spec negative t g
  obtain ⟨m', e', hnormal', hread', heq'⟩ := ofDecimal_spec negative t' g'
  rw [h] at hread
  obtain ⟨rfl, rfl⟩ := hread.unique hnormal hnormal' hread'
  rw [heq, heq']

/-- A zero at the end can be left out, so the digits that a number is written with have none. -/
theorem IsShortest.last (h : IsShortest negative t g) : t % 10 ≠ 0 := by
  intro hzero
  apply h.coarsest (t / 10)
  apply ofDecimal_congr
  rw [← decimal_ten_mul, Nat.mul_div_cancel' (Nat.dvd_of_mod_eq_zero hzero)]

/-- Where the steps of the format are small, one decimal of a grid is read as a number at most. -/
theorem IsReadAs.digits_unique {m : Nat} {e : Int} (hstep : (2 : ℚ) ^ e < 10 ^ g) {t' : Nat}
    (h : IsReadAs (decimal t g) m e) (h' : IsReadAs (decimal t' g) m e) : t = t' := by
  have hnot : ∀ {t t' : Nat}, IsReadAs (decimal t g) m e → IsReadAs (decimal t' g) m e →
      ¬t < t' := by
    intro t t' h h' hlt
    obtain ⟨c, -, hc, hlow⟩ := lowEnd_eq m e
    have hwidth : highEnd m e - lowEnd m e ≤ 2 ^ e := by
      have hu : (0 : ℚ) < 2 ^ e := by positivity
      rw [highEnd, hlow]
      nlinarith
    have hgap : (10 : ℚ) ^ g ≤ decimal t' g - decimal t g := by
      have hone : (1 : ℚ) ≤ t' - t := by
        have : (t : ℚ) + 1 ≤ t' := by exact_mod_cast hlt
        linarith
      rw [decimal, decimal, ← sub_mul]
      exact le_mul_of_one_le_left (by positivity) hone
    linarith [h.low, h'.high]
  exact le_antisymm (not_lt.1 (hnot h' h)) (not_lt.1 (hnot h h'))

/-- A decimal of fifteen digits at most has the digits with which the number is written, unless the
last one is zero. -/
theorem isShortest_of_lt (negative : Bool) (ht : t < 10 ^ 15) (hlast : t % 10 ≠ 0) (hg : -323 ≤ g)
    (hg' : g ≤ 0) : IsShortest negative t g := by
  obtain ⟨m, e, hnormal, hread, heq⟩ := ofDecimal_spec negative t g
  have hstep : (2 : ℚ) ^ e < 10 ^ g := by
    rcases hnormal.full with rfl | hfull
    · obtain ⟨-, hleast⟩ := least_bounds
      have hmono : (10 : ℚ) ^ (-324 + 1 : Int) ≤ 10 ^ g := zpow_le_zpow_right₀ (by norm_num) hg
      have hpos : (0 : ℚ) < 10 ^ (-324 : Int) := by positivity
      rw [zpow_add_one₀ (by norm_num)] at hmono
      linarith
    · have hfull' : (2 : ℚ) ^ 52 ≤ m := by exact_mod_cast hfull
      have ht' : (t : ℚ) ≤ 10 ^ 15 := by exact_mod_cast ht.le
      obtain ⟨c, -, hc, hlow⟩ := lowEnd_eq m e
      have hsize : (2 ^ 52 - 1 / 2) * (2 : ℚ) ^ e ≤ 10 ^ 15 * 10 ^ g := by
        calc (2 ^ 52 - 1 / 2) * (2 : ℚ) ^ e ≤ (m - c) * 2 ^ e := by gcongr
          _ = lowEnd m e := hlow.symm
          _ ≤ t * 10 ^ g := hread.low
          _ ≤ 10 ^ 15 * 10 ^ g := by gcongr
      have hu : (0 : ℚ) < 2 ^ e := by positivity
      nlinarith
  have hrange : ¬971 < e := by
    intro hrange
    have hlarge : (1 : ℚ) ≤ 2 ^ e := one_le_zpow₀ (by norm_num) (by omega)
    have hsmall : (10 : ℚ) ^ g ≤ 1 := zpow_le_one_of_nonpos₀ (by norm_num) hg'
    linarith
  rw [if_neg hrange] at heq
  have hreads : ∀ {t' g'}, Binary64.ofDecimal negative t' g' = Binary64.ofDecimal negative t g →
      IsReadAs (decimal t' g') m e := by
    intro t' g' h
    exact (ofDecimal_eq_finite_iff.1 (h.trans heq)).2.2
  refine ⟨fun t' h => hlast ?_, fun m' e' _ t' h hne => ?_⟩
  · have hread' := hreads h
    rw [← decimal_ten_mul] at hread'
    rw [hread.digits_unique hstep hread']
    exact Nat.mul_mod_right 10 t'
  · exact absurd ((hreads h).digits_unique hstep hread) hne

end Numbers

end IconSubset.Decimal
