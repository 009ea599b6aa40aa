import IconSubset.Proofs.Decimal.Rounding

/-!
# Which digits a number is written with

The digits that `shortest` gives are told by what is read as the number, without a word about the
search for them (`shortest_eq_iff`): on the next coarser grid nothing is read as the number, and on
their own grid nothing that is read as it is nearer.

The search tests the two neighbours of the number on each grid. That is enough because what is read
as one number lies together (`IsReadAs.between`). It begins on the grid of the first digit, and
there one thing has to be seen: when the next power of ten is read as the number, it is nearer than
nine (`nineteen_lt_of_isReadAs`), so that the power of ten is found and its zero stripped.
-/

namespace IconSubset.Decimal

/-! ## Comparisons -/

section Comparisons

variable {tie : Tie} {m : Nat} {e g : Int}

/-- Comparing quotients of natural numbers compares their values. -/
theorem quotientBelow_iff {closed : Bool} {a b c d : Nat} (hb : 0 < b) (hd : 0 < d) :
    quotientBelow closed a b c d = true ↔
      (a : ℚ) / b ≤ c / d ∧ (closed = false → (a : ℚ) / b < c / d) := by
  have hb' : (0 : ℚ) < b := by exact_mod_cast hb
  have hd' : (0 : ℚ) < d := by exact_mod_cast hd
  have hle : (a : ℚ) / b ≤ c / d ↔ a * d ≤ c * b := by
    rw [div_le_div_iff₀ hb' hd']
    exact_mod_cast Iff.rfl
  have hlt : (a : ℚ) / b < c / d ↔ a * d < c * b := by
    rw [div_lt_div_iff₀ hb' hd']
    exact_mod_cast Iff.rfl
  rw [hle, hlt]
  cases closed with
  | true => simp [quotientBelow]
  | false =>
    simp only [quotientBelow, Bool.false_eq_true, if_false, decide_eq_true_eq, forall_const]
    exact ⟨fun h => ⟨h.le, h⟩, fun h => h.2⟩

/-- The test whether a decimal reads back tells what it is read as. -/
theorem readsBack_iff (hm : 0 < m) {t : Nat} :
    readsBack m e t g = true ↔ IsReadAs (decimal t g) m e := by
  have hfour : (0 : Nat) < 4 := by norm_num
  obtain ⟨hposHigh, hhigh⟩ := scaled_spec (4 * m + 2) hfour two_pos e
  obtain ⟨hposLow, hlow⟩ := scaled_spec
    (if m = 1 <<< (precision - 1) ∧ leastExponent < e then 4 * m - 1 else 4 * m - 2) hfour two_pos e
  obtain ⟨hposValue, hvalue⟩ := scaled_spec t Nat.one_pos (show 0 < 10 by norm_num) g
  have hhigh' : (((4 * m + 2 : ℕ) : ℚ) / (4 : ℕ)) * (2 : ℕ) ^ e = highEnd m e := by
    unfold highEnd
    push_cast
    ring
  have hlow' : (((if m = 1 <<< (precision - 1) ∧ leastExponent < e then 4 * m - 1 else 4 * m - 2 :
      ℕ) : ℚ) / (4 : ℕ)) * (2 : ℕ) ^ e = lowEnd m e := by
    unfold lowEnd
    by_cases hnarrow : Narrow m e
    · have hcondition : m = 1 <<< (precision - 1) ∧ leastExponent < e := hnarrow
      rw [if_pos hnarrow, if_pos hcondition, Nat.cast_sub (by omega)]
      push_cast
      ring
    · have hcondition : ¬(m = 1 <<< (precision - 1) ∧ leastExponent < e) := hnarrow
      rw [if_neg hnarrow, if_neg hcondition, Nat.cast_sub (by omega)]
      push_cast
      ring
  have hvalue' : ((t : ℚ) / (1 : ℕ)) * (10 : ℕ) ^ g = decimal t g := by
    unfold decimal
    push_cast
    ring
  rw [hhigh'] at hhigh
  rw [hlow'] at hlow
  rw [hvalue'] at hvalue
  unfold readsBack
  dsimp only
  rw [Bool.and_eq_true, quotientBelow_iff hposLow hposValue, quotientBelow_iff hposValue hposHigh,
    hlow, hhigh, hvalue]
  constructor
  · rintro ⟨⟨hle, hlt⟩, hle', hlt'⟩
    refine ⟨hle, hle', fun hodd => ⟨hlt ?_, hlt' ?_⟩⟩
    · simp [hodd]
    · simp [hodd]
  · intro h
    have hodd : decide (m % 2 = 0) = false → m % 2 = 1 := by
      intro hm
      have := of_decide_eq_false hm
      omega
    exact ⟨⟨h.low, fun hm => (h.odd (hodd hm)).1⟩, h.high, fun hm => (h.odd (hodd hm)).2⟩

/-- The power of ten of the first digit is the logarithm. -/
theorem leadingPower_eq {n d : Nat} (hn : 0 < n) (hd : 0 < d) :
    leadingPower n d = Int.log 10 ((n : ℚ) / d) := by
  obtain ⟨hnpos, hnlow, hnhigh⟩ := digitCount_spec hn
  obtain ⟨hdpos, hdlow, hdhigh⟩ := digitCount_spec hd
  obtain ⟨hlow, hhigh⟩ := quotient_bracket (show 1 < 10 by norm_num) hnlow
    (by rwa [Nat.sub_add_cancel hnpos]) hdlow (by rwa [Nat.sub_add_cancel hdpos])
  have hestimate : ((Binary64.digitCount n - 1 : ℕ) : Int) - (Binary64.digitCount d - 1 : ℕ) =
      Binary64.digitCount n - Binary64.digitCount d := by omega
  rw [hestimate] at hlow hhigh
  have hlog := log_eq_of_bracket (show 1 < 10 by norm_num) hlow hhigh
  obtain ⟨hpos, hscaled⟩ := scaled_spec n hd (show 0 < 10 by norm_num)
    (-((Binary64.digitCount n : Int) - Binary64.digitCount d))
  unfold leadingPower
  dsimp only
  generalize (Binary64.digitCount n : Int) - Binary64.digitCount d = estimate at *
  generalize scaled n d 10 (-estimate) = s at *
  have hpos' : (0 : ℚ) < s.2 := by exact_mod_cast hpos
  have hcompare : s.1 < s.2 ↔ (n : ℚ) / d < 10 ^ estimate := by
    have hvalue : (n : ℚ) / d = s.1 / s.2 * 10 ^ estimate := by
      rw [hscaled, zpow_neg]
      push_cast
      field_simp
    have hcast : s.1 < s.2 ↔ (s.1 : ℚ) / s.2 < 1 := by
      rw [div_lt_one hpos']
      exact_mod_cast Iff.rfl
    rw [hvalue, hcast]
    exact (mul_lt_iff_lt_one_left (by positivity)).symm
  push_cast at hlog
  rw [hlog]
  by_cases h : (n : ℚ) / d < 10 ^ estimate
  · rw [if_pos (hcompare.2 h), if_pos h]
  · rw [if_neg (mt hcompare.1 h), if_neg h]

end Comparisons

/-! ## What is read as one number -/

section Reading

variable {tie : Tie} {m : Nat} {e g : Int}

/-- A number of the format is read as itself. -/
theorem isReadAs_binary (m : Nat) (e : Int) : IsReadAs (binary m e) m e := by
  obtain ⟨c, hc, -, hlow⟩ := lowEnd_eq m e
  have hu : (0 : ℚ) < 2 ^ e := by positivity
  have hbelow : lowEnd m e < binary m e := by
    rw [hlow, binary]
    gcongr
    linarith
  have habove : binary m e < highEnd m e := by
    rw [highEnd, binary]
    gcongr
    linarith
  exact ⟨hbelow.le, habove.le, fun _ => ⟨hbelow, habove⟩⟩

/-- What lies between two numbers that are read as one is read as it too. -/
theorem IsReadAs.between {low q high : ℚ} (h : IsReadAs low m e) (h' : IsReadAs high m e)
    (hle : low ≤ q) (hle' : q ≤ high) : IsReadAs q m e :=
  ⟨h.low.trans hle, hle'.trans h'.high,
    fun hodd => ⟨(h.odd hodd).1.trans_le hle, hle'.trans_lt (h'.odd hodd).2⟩⟩

/-- Only a positive number is read as one that is not zero. -/
theorem IsReadAs.pos {q : ℚ} (hm : 0 < m) (h : IsReadAs q m e) : 0 < q := by
  obtain ⟨c, -, hc, hlow⟩ := lowEnd_eq m e
  have hm' : (1 : ℚ) ≤ m := by exact_mod_cast hm
  refine lt_of_lt_of_le ?_ h.low
  rw [hlow]
  exact mul_pos (by linarith) (by positivity)

/-- Of two decimals that are as near to a number, the tie names the digits `t` rather than `t'`. -/
def Tie.Prefers : Tie → (t t' : Nat) → Prop
  | up, t, t' => t' < t
  | toEven, t, _ => t % 2 = 0

/-- A decimal is the nearest one on its grid that is read as a number. Of two that are as near it is
the one that the tie names. -/
structure IsNearest (tie : Tie) (m : Nat) (e g : Int) (t : Nat) : Prop where
  /-- The decimal is read as the number. -/
  reads : IsReadAs (decimal t g) m e
  /-- The others that are read as it lie farther away. -/
  nearest : ∀ t', IsReadAs (decimal t' g) m e → t' ≠ t →
    |decimal t g - binary m e| < |decimal t' g - binary m e| ∨
      (|decimal t g - binary m e| = |decimal t' g - binary m e| ∧ tie.Prefers t t')

/-- The digits of a decimal that is read as a number that is not zero are not zero. -/
theorem IsReadAs.digits_pos (hm : 0 < m) {t : Nat} (h : IsReadAs (decimal t g) m e) : 0 < t := by
  refine Nat.pos_of_ne_zero ?_
  rintro rfl
  have := h.pos hm
  simp [decimal] at this

/-- A number is counted in steps of a grid. -/
theorem exists_steps (m : Nat) (e g : Int) : ∃ x : ℚ, binary m e = x * 10 ^ g := by
  have hu : (0 : ℚ) < 10 ^ g := by positivity
  exact ⟨binary m e / 10 ^ g, by field_simp⟩

/-- The distance of a decimal is counted in steps of its grid. -/
theorem distance_eq {x : ℚ} (hx : binary m e = x * 10 ^ g) (t : Nat) :
    |decimal t g - binary m e| = |(t : ℚ) - x| * 10 ^ g := by
  have hu : (0 : ℚ) < 10 ^ g := by positivity
  rw [hx, decimal, ← sub_mul, abs_mul, abs_of_pos hu]

/-- Decimals of one grid are ordered as their digits. -/
theorem decimal_le_decimal {t t' : Nat} (h : t ≤ t') (g : Int) : decimal t g ≤ decimal t' g := by
  unfold decimal
  gcongr

/-- A grid has one nearest decimal. -/
theorem IsNearest.unique {t t' : Nat} (h : IsNearest tie m e g t) (h' : IsNearest tie m e g t') :
    t = t' := by
  -- Of two that are as near the tie names one; two even ones would have a nearer one between them.
  have hnot : ∀ {t t' : Nat}, IsNearest tie m e g t → IsNearest tie m e g t' → ¬t < t' := by
    intro t t' h h' hlt
    have hu : (0 : ℚ) < 10 ^ g := by positivity
    obtain ⟨x, hx⟩ := exists_steps m e g
    have hnear := h.nearest t' h'.reads hlt.ne'
    have hnear' := h'.nearest t h.reads hlt.ne
    obtain ⟨heq, hprefers⟩ :
        |decimal t g - binary m e| = |decimal t' g - binary m e| ∧ tie.Prefers t t' := by
      rcases hnear with hnear | hnear
      · rcases hnear' with hnear' | hnear'
        · exact absurd hnear (not_lt.2 hnear'.le)
        · exact absurd hnear'.1 hnear.ne'
      · exact hnear
    have hprefers' : tie.Prefers t' t := by
      rcases hnear' with hnear' | hnear'
      · exact absurd heq hnear'.ne'
      · exact hnear'.2
    cases tie with
    | up => exact absurd hprefers (not_lt.2 hlt.le)
    | toEven =>
      have heven : t % 2 = 0 := hprefers
      have heven' : t' % 2 = 0 := hprefers'
      have hbetween := h.nearest (t + 1)
        (h.reads.between h'.reads (decimal_le_decimal (by omega) g)
          (decimal_le_decimal (by omega) g)) (by omega)
      rw [distance_eq hx, distance_eq hx, mul_left_inj' hu.ne'] at heq
      rw [distance_eq hx, distance_eq hx, mul_lt_mul_iff_left₀ hu, mul_left_inj' hu.ne'] at hbetween
      have hgap : (t : ℚ) + 2 ≤ t' := by
        have : t + 2 ≤ t' := by omega
        exact_mod_cast this
      have hmiddle : 2 * x = t + t' := by
        rcases abs_eq_abs.1 heq with h | h <;> linarith
      have hcloser : |((t + 1 : ℕ) : ℚ) - x| < |(t : ℚ) - x| := by
        rw [abs_of_nonpos (by linarith : (t : ℚ) - x ≤ 0),
          abs_of_nonpos (by push_cast; linarith : ((t + 1 : ℕ) : ℚ) - x ≤ 0)]
        push_cast
        linarith
      rcases hbetween with hbetween | ⟨hbetween, -⟩ <;> linarith
  exact le_antisymm (not_lt.1 (hnot h' h)) (not_lt.1 (hnot h h'))

/-- The lower of two neighbours is taken exactly when the tie names it. -/
theorem Tie.prefers_iff_takesBelow (tie : Tie) (t : Nat) :
    (tie.Prefers t (t + 1) ↔ tie.takesBelow t = true) ∧
      (tie.Prefers (t + 1) t ↔ tie.takesBelow t = false) := by
  cases tie with
  | up => simp [Prefers, takesBelow]
  | toEven =>
    simp only [Prefers, takesBelow, decide_eq_true_eq, decide_eq_false_iff_not, true_and]
    omega

end Reading

/-! ## The grids -/

section Grids

variable {tie : Tie} {m : Nat} {e g : Int}

/-- What is tested on a grid are the two neighbours of the number. -/
theorem onGrid_cases (tie : Tie) (hm : 0 < m) (e g : Int) :
    ∃ (t : Nat) (x : ℚ), binary m e = x * 10 ^ g ∧
    (t : ℚ) ≤ x ∧ x < t + 1 ∧
    ((onGrid tie m e g = none ∧ ¬IsReadAs (decimal t g) m e ∧ ¬IsReadAs (decimal (t + 1) g) m e) ∨
      (onGrid tie m e g = some ⟨t, g⟩ ∧ IsReadAs (decimal t g) m e ∧
        (IsReadAs (decimal (t + 1) g) m e →
          2 * x < 2 * t + 1 ∨ 2 * x = 2 * t + 1 ∧ tie.takesBelow t = true)) ∨
      (onGrid tie m e g = some ⟨t + 1, g⟩ ∧ IsReadAs (decimal (t + 1) g) m e ∧
        (IsReadAs (decimal t g) m e →
          2 * t + 1 < 2 * x ∨ 2 * x = 2 * t + 1 ∧ tie.takesBelow t = false))) := by
  obtain ⟨hposv, hvalue⟩ := scaled_spec m Nat.one_pos two_pos e
  obtain ⟨hpos, hscaled⟩ := scaled_spec (scaled m 1 2 e).1 hposv (show 0 < 10 by norm_num) (-g)
  unfold onGrid
  dsimp only
  rw [hvalue] at hscaled
  generalize scaled (scaled m 1 2 e).1 (scaled m 1 2 e).2 10 (-g) = s at *
  obtain ⟨n, d⟩ := s
  dsimp only at hpos hscaled ⊢
  have hd : (0 : ℚ) < d := by exact_mod_cast hpos
  have hfloor : n / d * d ≤ n := Nat.div_mul_le_self n d
  have hceil : n < (n / d + 1) * d := by
    rw [mul_comm]
    exact Nat.lt_mul_div_succ n hpos
  generalize n / d = t at *
  refine ⟨t, n / d, ?_, ?_, ?_, ?_⟩
  · rw [hscaled, binary, zpow_neg]
    push_cast
    field_simp
  · rw [le_div_iff₀ hd]
    exact_mod_cast hfloor
  · rw [div_lt_iff₀ hd]
    exact_mod_cast hceil
  have hlt : 2 * ((n : ℚ) / d) < 2 * t + 1 ↔ 2 * n < (2 * t + 1) * d := by
    rw [← mul_div_assoc, div_lt_iff₀ hd]
    exact_mod_cast Iff.rfl
  have heq : 2 * ((n : ℚ) / d) = 2 * t + 1 ↔ 2 * n = (2 * t + 1) * d := by
    rw [← mul_div_assoc, div_eq_iff hd.ne']
    exact_mod_cast Iff.rfl
  have hgt : 2 * (t : ℚ) + 1 < 2 * ((n : ℚ) / d) ↔ (2 * t + 1) * d < 2 * n := by
    rw [← mul_div_assoc, lt_div_iff₀ hd]
    exact_mod_cast Iff.rfl
  have hbelow : (decide (t ≠ 0) && readsBack m e t g) = true ↔ IsReadAs (decimal t g) m e := by
    rw [Bool.and_eq_true, readsBack_iff hm, decide_eq_true_eq]
    exact ⟨And.right, fun h => ⟨(h.digits_pos hm).ne', h⟩⟩
  have habove := readsBack_iff hm (t := t + 1) (g := g) (e := e)
  rw [hlt, heq, hgt]
  generalize (decide (t ≠ 0) && readsBack m e t g) = below at *
  generalize readsBack m e (t + 1) g = above at *
  by_cases hread : IsReadAs (decimal t g) m e
  · obtain rfl := hbelow.2 hread
    by_cases hread' : IsReadAs (decimal (t + 1) g) m e
    · obtain rfl := habove.2 hread'
      by_cases hnearer : 2 * n < (2 * t + 1) * d ∨
        (2 * n = (2 * t + 1) * d ∧ tie.takesBelow t = true)
      · refine .inr (.inl ⟨by simp [hnearer], hread, fun _ => hnearer⟩)
      · refine .inr (.inr ⟨by simp [hnearer], hread', fun _ => ?_⟩)
        rw [not_or, not_and, Bool.not_eq_true] at hnearer
        rcases Nat.lt_or_eq_of_le (not_lt.1 hnearer.1) with hlater | hlater
        · exact .inl hlater
        · exact .inr ⟨hlater.symm, hnearer.2 hlater.symm⟩
    · have hfalse : above = false := Bool.eq_false_iff.2 (mt habove.1 hread')
      subst hfalse
      exact .inr (.inl ⟨by simp, hread, fun h => absurd h hread'⟩)
  · have hfalse : below = false := Bool.eq_false_iff.2 (mt hbelow.1 hread)
    subst hfalse
    by_cases hread' : IsReadAs (decimal (t + 1) g) m e
    · obtain rfl := habove.2 hread'
      exact .inr (.inr ⟨by simp, hread', fun h => absurd h hread⟩)
    · have hfalse' : above = false := Bool.eq_false_iff.2 (mt habove.1 hread')
      subst hfalse'
      exact .inl ⟨by simp, hread, hread'⟩

/-- Beyond the neighbours of a number nothing reads that the neighbours do not. -/
theorem IsReadAs.neighbour {t t' : Nat} {x : ℚ} (hx : binary m e = x * 10 ^ g) (hle : (t : ℚ) ≤ x)
    (hlt : x < t + 1) (h : IsReadAs (decimal t' g) m e) :
    (t' ≤ t → IsReadAs (decimal t g) m e) ∧ (t < t' → IsReadAs (decimal (t + 1) g) m e) := by
  have hu : (0 : ℚ) < 10 ^ g := by positivity
  have hself := isReadAs_binary m e
  have hbelow : decimal t g ≤ binary m e := by
    rw [hx, decimal]
    gcongr
  have habove : binary m e ≤ decimal (t + 1) g := by
    rw [hx, decimal]
    push_cast
    gcongr
  exact ⟨fun ht => h.between hself (decimal_le_decimal ht g) hbelow,
    fun ht => hself.between h habove (decimal_le_decimal ht g)⟩

/-- On a grid where nothing is found nothing is read as the number. -/
theorem not_isReadAs_of_onGrid (hm : 0 < m) (h : onGrid tie m e g = none) (t : Nat) :
    ¬IsReadAs (decimal t g) m e := by
  obtain ⟨t', x, hx, hle, hlt, ⟨-, hbelow, habove⟩ | ⟨h', -⟩ | ⟨h', -⟩⟩ := onGrid_cases tie hm e g
  · intro hread
    obtain ⟨hread', hread''⟩ := hread.neighbour hx hle hlt
    rcases le_or_gt t t' with ht | ht
    · exact hbelow (hread' ht)
    · exact habove (hread'' ht)
  · simp [h] at h'
  · simp [h] at h'

/-- What is found on a grid is the nearest decimal of it. -/
theorem isNearest_of_onGrid (hm : 0 < m) {d : Digits} (h : onGrid tie m e g = some d) :
    d.exponent = g ∧ IsNearest tie m e g d.digits := by
  have hu : (0 : ℚ) < 10 ^ g := by positivity
  obtain ⟨t, x, hx, hle, hlt, ⟨h', -⟩ | ⟨h', hread, hother⟩ | ⟨h', hread, hother⟩⟩ :=
    onGrid_cases tie hm e g
  · simp [h] at h'
  · obtain rfl : d = ⟨t, g⟩ := Option.some.inj (h.symm.trans h')
    refine ⟨rfl, hread, fun t' hread' hne => ?_⟩
    rw [distance_eq hx, distance_eq hx, mul_left_inj' hu.ne', mul_lt_mul_iff_left₀ hu,
      abs_of_nonpos (by linarith : (t : ℚ) - x ≤ 0)]
    rcases lt_or_gt_of_ne hne with ht | ht
    · have ht' : (t' : ℚ) + 1 ≤ t := by exact_mod_cast ht
      rw [abs_of_nonpos (by linarith : (t' : ℚ) - x ≤ 0)]
      left
      linarith
    · have ht' : (t : ℚ) + 1 ≤ t' := by exact_mod_cast ht
      rw [abs_of_nonneg (by linarith : 0 ≤ (t' : ℚ) - x)]
      rcases hother ((hread'.neighbour hx hle hlt).2 ht) with hnear | ⟨heq, htaken⟩
      · left
        linarith
      · rcases ht'.lt_or_eq with ht' | ht'
        · left
          linarith
        · obtain rfl : t' = t + 1 := by exact_mod_cast ht'.symm
          right
          exact ⟨by linarith, (tie.prefers_iff_takesBelow t).1.2 htaken⟩
  · obtain rfl : d = ⟨t + 1, g⟩ := Option.some.inj (h.symm.trans h')
    refine ⟨rfl, hread, fun t' hread' hne => ?_⟩
    rw [distance_eq hx, distance_eq hx, mul_left_inj' hu.ne', mul_lt_mul_iff_left₀ hu,
      abs_of_nonneg (by push_cast; linarith : 0 ≤ ((t + 1 : ℕ) : ℚ) - x)]
    push_cast
    rcases lt_or_gt_of_ne hne with ht | ht
    · have ht' : (t' : ℚ) ≤ t := by exact_mod_cast Nat.lt_succ_iff.1 ht
      rw [abs_of_nonpos (by linarith : (t' : ℚ) - x ≤ 0)]
      rcases hother ((hread'.neighbour hx hle hlt).1 (Nat.lt_succ_iff.1 ht)) with
        hnear | ⟨heq, htaken⟩
      · left
        linarith
      · rcases ht'.lt_or_eq with ht' | ht'
        · left
          linarith
        · obtain rfl : t' = t := by exact_mod_cast ht'
          right
          exact ⟨by linarith, (tie.prefers_iff_takesBelow t').2.2 htaken⟩
    · have ht' : (t : ℚ) + 1 + 1 ≤ t' := by exact_mod_cast ht
      rw [abs_of_nonneg (by linarith : 0 ≤ (t' : ℚ) - x)]
      left
      linarith

/-- The grid on which something is found first, when something is found on the last one. -/
theorem onGrids_spec {first : Int} {grids count : Nat}
    (hlast : onGrid tie m e (first - ((count + grids : ℕ) : Int)) ≠ none) :
    ∃ c, count ≤ c ∧ onGrid tie m e (first - (c : Int)) = some (onGrids tie m e first grids count) ∧
      ∀ c', count ≤ c' → c' < c → onGrid tie m e (first - (c' : Int)) = none := by
  induction grids generalizing count with
  | zero =>
    obtain ⟨d, hd⟩ := Option.ne_none_iff_exists'.1 hlast
    rw [Nat.add_zero] at hd
    exact ⟨count, le_rfl, by simp [onGrids, hd], fun c' hle hlt => by omega⟩
  | succ grids ih =>
    rw [onGrids]
    cases hgrid : onGrid tie m e (first - (count : Int)) with
    | some d => exact ⟨count, le_rfl, hgrid, fun c' hle hlt => by omega⟩
    | none =>
      have hlast' : onGrid tie m e (first - ((count + 1 + grids : ℕ) : Int)) ≠ none := by
        rwa [show count + 1 + grids = count + (grids + 1) by omega]
      obtain ⟨c, hle, hfound, hbefore⟩ := ih hlast'
      refine ⟨c, by omega, hfound, fun c' hle' hlt => ?_⟩
      rcases hle'.eq_or_lt with rfl | hlt'
      · exact hgrid
      · exact hbefore c' hlt' hlt

/-- Seventeen digits after the first are enough. -/
theorem exists_isReadAs (h : Normalized m e) (hm : 0 < m) :
    ∃ t, IsReadAs (decimal t (Int.log 10 (binary m e) - 17)) m e := by
  have hm' : (0 : ℚ) < m := by exact_mod_cast hm
  have hv : 0 < binary m e := mul_pos hm' (by positivity)
  generalize hg : Int.log 10 (binary m e) - 17 = g
  have hu : (0 : ℚ) < 10 ^ g := by positivity
  -- The steps of the grid are small beside those of the format.
  have hstep : (10 : ℚ) ^ g ≤ 1 / 4 * 2 ^ e := by
    have hlog := Int.zpow_log_le_self (b := 10) (by norm_num) hv
    have hsplit : ((10 : ℕ) : ℚ) ^ Int.log 10 (binary m e) = 10 ^ g * 10 ^ 17 := by
      rw [← zpow_natCast, ← zpow_add₀ (by norm_num)]
      congr 1
      omega
    have hbound : (m : ℚ) ≤ 2 ^ 53 := by exact_mod_cast h.bound.le
    rw [hsplit] at hlog
    have hle : (10 : ℚ) ^ g * 10 ^ 17 ≤ 1 / 4 * 2 ^ e * 10 ^ 17 := by
      calc (10 : ℚ) ^ g * 10 ^ 17 ≤ m * 2 ^ e := hlog
        _ ≤ 2 ^ 53 * 2 ^ e := by gcongr
        _ ≤ 1 / 4 * 10 ^ 17 * 2 ^ e := by gcongr; norm_num
        _ = 1 / 4 * 2 ^ e * 10 ^ 17 := by ring
    exact le_of_mul_le_mul_right hle (by positivity)
  obtain ⟨x, hx⟩ := exists_steps m e g
  have hxpos : 0 ≤ x := by
    rw [hx] at hv
    exact ((mul_pos_iff_of_pos_right hu).1 hv).le
  refine ⟨⌊x⌋₊, ?_⟩
  have hfloor := Nat.floor_le hxpos
  have hceil := Nat.lt_floor_add_one x
  have hbelow : decimal ⌊x⌋₊ g ≤ binary m e := by
    rw [hx, decimal]
    gcongr
  obtain ⟨c, hc, -, hlow⟩ := lowEnd_eq m e
  have hinside : lowEnd m e < decimal ⌊x⌋₊ g := by
    have hnear : binary m e < decimal ⌊x⌋₊ g + 10 ^ g := by
      rw [hx, decimal, ← add_one_mul]
      gcongr
    have hquarter : lowEnd m e ≤ binary m e - 1 / 4 * 2 ^ e := by
      rw [hlow, binary, ← sub_mul]
      gcongr
    linarith
  have hself := isReadAs_binary m e
  refine ⟨hinside.le, hbelow.trans hself.high, fun hodd => ⟨hinside, ?_⟩⟩
  exact hbelow.trans_lt (hself.odd hodd).2

end Grids

/-! ## The first grid -/

section FirstGrid

variable {tie : Tie} {m : Nat} {e first : Int}

/-- The least positive number of the format between decimals. -/
theorem least_bounds : (19 : ℚ) / 4 * 10 ^ (-324 : Int) < 2 ^ (-1074 : Int) ∧
    (2 : ℚ) ^ (-1074 : Int) < 20 / 3 * 10 ^ (-324 : Int) := by
  have hlow : 19 * 2 ^ 1074 < 4 * 10 ^ 324 := by decide +kernel
  have hhigh : 3 * 10 ^ 324 < 20 * 2 ^ 1074 := by decide +kernel
  have hlow' : (19 : ℚ) * 2 ^ 1074 < 4 * 10 ^ 324 := by exact_mod_cast hlow
  have hhigh' : (3 : ℚ) * 10 ^ 324 < 20 * 2 ^ 1074 := by exact_mod_cast hhigh
  have hten : (0 : ℚ) < 10 ^ 324 := by positivity
  have htwo : (0 : ℚ) < 2 ^ 1074 := by positivity
  rw [zpow_neg, zpow_neg, zpow_ofNat, zpow_ofNat]
  generalize (10 : ℚ) ^ 324 = a at *
  generalize (2 : ℚ) ^ 1074 = b at *
  constructor
  · rw [← one_div, ← one_div, div_mul_div_comm, mul_one, div_lt_div_iff₀ (by positivity) htwo]
    linarith
  · rw [← one_div, ← one_div, div_mul_div_comm, mul_one, div_lt_div_iff₀ htwo (by positivity)]
    linarith

/-- When the next power of ten reads back, the number is nearer to it than to nine. -/
theorem nineteen_lt_of_isReadAs (h : Normalized m e) (hm : 0 < m)
    (hle : (10 : ℚ) ^ first ≤ binary m e) (hlt : binary m e < 10 * 10 ^ first)
    (hread : IsReadAs (10 * 10 ^ first) m e) : 19 * (10 : ℚ) ^ first < 2 * binary m e := by
  have hhigh := hread.high
  have hsum : highEnd m e = binary m e + 1 / 2 * 2 ^ e := by
    rw [highEnd, binary]
    ring
  rw [hsum] at hhigh
  have hstep : (2 : ℚ) ^ e < 10 ^ first → 19 * (10 : ℚ) ^ first < 2 * binary m e := by
    intro hstep
    linarith
  rcases le_or_gt 10 m with hten | hten
  · apply hstep
    have hten' : (10 : ℚ) ≤ m := by exact_mod_cast hten
    have hmul : 10 * (2 : ℚ) ^ e ≤ binary m e := by
      unfold binary
      gcongr
    linarith
  · -- With so few bits the steps are the least ones.
    obtain rfl : e = -1074 := h.full.resolve_right (by omega)
    obtain ⟨hlow, hhigh'⟩ := least_bounds
    have hmono : ∀ {a b : Int}, a ≤ b → (10 : ℚ) ^ a ≤ 10 ^ b :=
      fun hab => zpow_le_zpow_right₀ (by norm_num) hab
    have hnext : ∀ a : Int, (10 : ℚ) ^ (a + 1) = 10 * 10 ^ a := by
      intro a
      rw [zpow_add_one₀ (by norm_num), mul_comm]
    have hleast : (2 : ℚ) ^ (-1074 : Int) ≤ binary m (-1074) := by
      have hm' : (1 : ℚ) ≤ m := by exact_mod_cast hm
      unfold binary
      exact le_mul_of_one_le_left (by positivity) hm'
    have hpos : (0 : ℚ) < 10 ^ (-324 : Int) := by positivity
    rcases lt_trichotomy first (-324) with hfirst | rfl | hfirst
    · have hsmall := hmono (show first + 1 ≤ -324 by omega)
      rw [hnext] at hsmall
      linarith
    · rcases hm.nat_succ_le.eq_or_lt with hone | htwo
      · obtain rfl : m = 1 := hone.symm
        have hvalue : binary 1 (-1074) = 2 ^ (-1074 : Int) := by simp [binary]
        rw [hvalue] at hhigh
        linarith
      · have htwo' : (2 : ℚ) ≤ m := by exact_mod_cast htwo
        have hdouble : 2 * (2 : ℚ) ^ (-1074 : Int) ≤ binary m (-1074) := by
          unfold binary
          gcongr
        linarith
    · apply hstep
      have hlarge := hmono (show -324 + 1 ≤ first by omega)
      rw [hnext] at hlarge
      linarith

/-- A zero at the end of the digits belongs to the next grid. -/
theorem decimal_ten_mul (t : Nat) (g : Int) : decimal (10 * t) g = decimal t (g + 1) := by
  unfold decimal
  rw [zpow_add_one₀ (by norm_num)]
  push_cast
  ring

/-- Digits that do not end in a zero stay as they are. -/
theorem strip_eq_self {d : Digits} (h : d.digits % 10 ≠ 0) (fuel : Nat) : d.strip fuel = d := by
  cases fuel with
  | zero => rfl
  | succ fuel => rw [Digits.strip, if_neg fun hzero => h hzero.2]

/-- A power of ten that is read as a number below it is the nearest decimal of its own grid. -/
theorem isNearest_one {g : Int} (hm : 0 < m) (hle : binary m e ≤ 10 ^ g)
    (hread : IsReadAs (decimal 1 g) m e) : IsNearest tie m e g 1 := by
  refine ⟨hread, fun t' hread' hne => .inl ?_⟩
  have hone : decimal 1 g = 10 ^ g := by simp [decimal]
  have htwo : (2 : ℚ) ≤ t' := by
    have : 2 ≤ t' := by have := hread'.digits_pos hm; omega
    exact_mod_cast this
  have hdouble : 2 * (10 : ℚ) ^ g ≤ decimal t' g := by
    unfold decimal
    gcongr
  have hu : (0 : ℚ) < 10 ^ g := by positivity
  rw [hone, abs_of_nonneg (by linarith), abs_of_nonneg (by linarith)]
  linarith

/-- On a grid of which the number is less than half a step nothing is read as it. -/
theorem not_isReadAs_of_lt {g : Int} (hm : 0 < m) (hlt : 2 * binary m e < 10 ^ g) (t : Nat) :
    ¬IsReadAs (decimal t g) m e := by
  intro hread
  have hone : (1 : ℚ) ≤ t := by exact_mod_cast hread.digits_pos hm
  have hstep : (10 : ℚ) ^ g ≤ decimal t g := le_mul_of_one_le_left (by positivity) hone
  have hm' : (1 : ℚ) ≤ m := by exact_mod_cast hm
  have hhigh : highEnd m e ≤ 2 * binary m e := by
    rw [highEnd, binary, ← mul_assoc]
    gcongr
    linarith
  linarith [hread.high]

/-- When ten steps are read as the number, and it is nearer to them than to nine, they are what is
found. -/
theorem IsNearest.eq_ten {t : Nat} (hnear : IsNearest tie m e first t)
    (hread : IsReadAs (decimal 10 first) m e) (hmost : 19 * (10 : ℚ) ^ first < 2 * binary m e)
    (hlt : binary m e < 10 * 10 ^ first) : t = 10 := by
  have hu : (0 : ℚ) < 10 ^ first := by positivity
  obtain ⟨x, hx⟩ := exists_steps m e first
  have hxlow : 19 < 2 * x := by
    rw [hx, ← mul_assoc] at hmost
    exact lt_of_mul_lt_mul_right hmost hu.le
  have hxhigh : x < 10 := by
    rw [hx] at hlt
    exact lt_of_mul_lt_mul_right hlt hu.le
  by_contra hne
  have hnearer := hnear.nearest 10 hread (Ne.symm hne)
  rw [distance_eq hx, distance_eq hx, mul_lt_mul_iff_left₀ hu, mul_left_inj' hu.ne',
    abs_of_nonneg (by push_cast; linarith : 0 ≤ ((10 : ℕ) : ℚ) - x)] at hnearer
  push_cast at hnearer
  rcases lt_or_gt_of_ne hne with ht | ht
  · have ht' : (t : ℚ) ≤ 9 := by exact_mod_cast Nat.lt_succ_iff.1 ht
    rw [abs_of_nonpos (by linarith : (t : ℚ) - x ≤ 0)] at hnearer
    rcases hnearer with hnearer | ⟨hnearer, -⟩ <;> linarith
  · have ht' : (10 : ℚ) + 1 ≤ t := by exact_mod_cast ht
    rw [abs_of_nonneg (by linarith : 0 ≤ (t : ℚ) - x)] at hnearer
    rcases hnearer with hnearer | ⟨hnearer, -⟩ <;> linarith

/-- On the grid of the first digit there is one digit, or the next power of ten. In the latter case
the power of ten is what is found on its own grid, and nothing is found on the one after it. -/
theorem firstGrid_spec (h : Normalized m e) (hm : 0 < m) (hle : (10 : ℚ) ^ first ≤ binary m e)
    (hlt : binary m e < 10 * 10 ^ first) {t : Nat} (hnear : IsNearest tie m e first t) :
    (0 < t ∧ t < 10 ∧ ∀ t', ¬IsReadAs (decimal t' (first + 1)) m e) ∨
      (t = 10 ∧ IsNearest tie m e (first + 1) 1 ∧
        ∀ t', ¬IsReadAs (decimal t' (first + 1 + 1)) m e) := by
  have hnext : (10 : ℚ) ^ (first + 1) = 10 * 10 ^ first := by
    rw [zpow_add_one₀ (by norm_num), mul_comm]
  have hten : decimal 10 first = 10 * 10 ^ first := rfl
  -- What lies beyond the power of ten is read as the number only when the power is.
  have hbeyond : ∀ t', 10 ≤ t' → IsReadAs (decimal t' first) m e →
      IsReadAs (decimal 10 first) m e :=
    fun t' ht hread =>
      (isReadAs_binary m e).between hread (hten ▸ hlt.le) (decimal_le_decimal ht first)
  by_cases hread : IsReadAs (decimal 10 first) m e
  · right
    have hmost := nineteen_lt_of_isReadAs h hm hle hlt (hten ▸ hread)
    refine ⟨hnear.eq_ten hread hmost hlt,
      isNearest_one hm (hnext ▸ hlt.le) (decimal_ten_mul 1 first ▸ hread),
      not_isReadAs_of_lt hm ?_⟩
    have hu : (0 : ℚ) < 10 ^ first := by positivity
    rw [zpow_add_one₀ (by norm_num), hnext]
    linarith
  · left
    refine ⟨hnear.reads.digits_pos hm, ?_, fun t' hread' => ?_⟩
    · by_contra hge
      exact hread (hbeyond t (not_lt.1 hge) hnear.reads)
    · have hpos := hread'.digits_pos hm
      rw [← decimal_ten_mul] at hread'
      exact hread (hbeyond (10 * t') (by omega) hread')

end FirstGrid

/-! ## The shortest digits -/

section Main

variable {tie : Tie} {m : Nat} {e : Int}

/-- The digits that are written are the nearest ones on the coarsest grid where something is read as
the number. -/
theorem shortest_spec (h : Normalized m e) (hm : 0 < m) :
    (∀ t, ¬IsReadAs (decimal t ((shortest tie m e).exponent + 1)) m e) ∧
      IsNearest tie m e (shortest tie m e).exponent (shortest tie m e).digits := by
  have hm' : (0 : ℚ) < m := by exact_mod_cast hm
  have hv : 0 < binary m e := mul_pos hm' (by positivity)
  obtain ⟨hpos, hscaled⟩ := scaled_spec m Nat.one_pos two_pos e
  have hvalue : ((scaled m 1 2 e).1 : ℚ) / (scaled m 1 2 e).2 = binary m e := by
    rw [hscaled, binary]
    norm_num
  have hnum : 0 < (scaled m 1 2 e).1 := by
    refine Nat.pos_of_ne_zero fun hzero => ?_
    rw [hzero, Nat.cast_zero, zero_div] at hvalue
    exact hv.ne hvalue
  unfold shortest
  rw [if_neg hm.ne']
  dsimp only
  rw [leadingPower_eq hnum hpos, hvalue]
  have hle := Int.zpow_log_le_self (b := 10) (by norm_num) hv
  have hlt := Int.lt_zpow_succ_log_self (b := 10) (by norm_num) (binary m e)
  obtain ⟨t, hread⟩ := exists_isReadAs h hm
  generalize Int.log 10 (binary m e) = first at *
  rw [Nat.cast_ofNat] at hle hlt
  rw [zpow_add_one₀ (by norm_num), mul_comm] at hlt
  have hlast : onGrid tie m e (first - ((0 + 17 : ℕ) : Int)) ≠ none :=
    fun hnone => not_isReadAs_of_onGrid hm hnone t hread
  obtain ⟨c, -, hfound, hbefore⟩ := onGrids_spec hlast
  obtain ⟨hexponent, hnear⟩ := isNearest_of_onGrid hm hfound
  generalize onGrids tie m e first 17 0 = d at *
  obtain ⟨digits, exponent⟩ := d
  dsimp only at hexponent hnear
  subst hexponent
  rcases Nat.eq_zero_or_pos c with rfl | hc
  · rw [Nat.cast_zero, sub_zero] at hnear ⊢
    rcases firstGrid_spec h hm hle hlt hnear with ⟨hpos, hten, hnone⟩ | ⟨rfl, hnear', hnone⟩
    · have hstrip : digits % 10 ≠ 0 := by omega
      rw [strip_eq_self hstrip]
      exact ⟨hnone, hnear⟩
    · have hstrip : Digits.strip 400 ⟨10, first⟩ = ⟨1, first + 1⟩ := by simp [Digits.strip]
      rw [hstrip]
      exact ⟨hnone, hnear'⟩
  · have hnone : ∀ t, ¬IsReadAs (decimal t (first - (c : Int) + 1)) m e := by
      have hprevious := hbefore (c - 1) (Nat.zero_le _) (by omega)
      rw [show first - ((c - 1 : ℕ) : Int) = first - (c : Int) + 1 by omega] at hprevious
      exact not_isReadAs_of_onGrid hm hprevious
    have hstrip : digits % 10 ≠ 0 := by
      intro hzero
      apply hnone (digits / 10)
      rw [← decimal_ten_mul, Nat.mul_div_cancel' (Nat.dvd_of_mod_eq_zero hzero)]
      exact hnear.reads
    rw [strip_eq_self hstrip]
    exact ⟨hnone, hnear⟩

/-- The digits that are written are told by what is read as the number. -/
theorem shortest_eq_iff (h : Normalized m e) (hm : 0 < m) {t : Nat} {g : Int} :
    shortest tie m e = ⟨t, g⟩ ↔
      (∀ t', ¬IsReadAs (decimal t' (g + 1)) m e) ∧ IsNearest tie m e g t := by
  obtain ⟨hnone, hnear⟩ := shortest_spec h hm
  constructor
  · intro heq
    rw [heq] at hnone hnear
    exact ⟨hnone, hnear⟩
  · rintro ⟨hnone', hnear'⟩
    -- What lies on a coarser grid lies on all finer ones.
    have hcoarser : ∀ {t : Nat} {g g' : Int}, g < g' → IsReadAs (decimal t g') m e →
        ∃ t', IsReadAs (decimal t' (g + 1)) m e := by
      intro t g g' hlt hread
      refine ⟨t * 10 ^ (g' - (g + 1)).toNat, ?_⟩
      have heq : decimal (t * 10 ^ (g' - (g + 1)).toNat) (g + 1) = decimal t g' := by
        obtain ⟨k, hk⟩ := Int.eq_ofNat_of_zero_le (show 0 ≤ g' - (g + 1) by omega)
        rw [hk, Int.toNat_natCast, decimal, decimal, show g' = (k : Int) + (g + 1) by omega,
          zpow_add₀ (by norm_num) (k : Int), zpow_natCast]
        push_cast
        ring
      rwa [heq]
    have hexponent : (shortest tie m e).exponent = g := by
      rcases lt_trichotomy (shortest tie m e).exponent g with hlt | heq | hgt
      · obtain ⟨t', hread⟩ := hcoarser hlt hnear'.reads
        exact absurd hread (hnone t')
      · exact heq
      · obtain ⟨t', hread⟩ := hcoarser hgt hnear.reads
        exact absurd hread (hnone' t')
    rw [hexponent] at hnear
    have hdigits := hnear.unique hnear'
    exact Digits.mk.injEq .. ▸ ⟨hdigits, hexponent⟩

end Main

end IconSubset.Decimal
