import IconSubset.Decimal.Shortest
import Mathlib

/-!
# Rounding to binary64

Reading a decimal is computed with natural numbers: an exponent is estimated from the lengths of two
numbers, a quotient is rounded, and a mantissa that becomes too long is shifted. What comes of it is
said with rational numbers (`IsReadAs`): a decimal is read as a number of the format exactly when it
lies between the points halfway to the neighbours of that number (`ofDecimal_eq_finite_iff`). These
points are ordered as the numbers are (`highEnd_le_lowEnd`), which is why there is one number only
(`IsReadAs.unique`).
-/

namespace IconSubset.Decimal

/-- The number `m * 2 ^ e`. -/
def binary (m : Nat) (e : Int) : ℚ := m * 2 ^ e

/-- The number `t * 10 ^ g`. -/
def decimal (t : Nat) (g : Int) : ℚ := t * 10 ^ g

/-! ## Quotients -/

/-- Scaling multiplies a quotient by a power of the base. -/
theorem scaled_spec (n : Nat) {d base : Nat} (hd : 0 < d) (hbase : 0 < base) (e : Int) :
    0 < (scaled n d base e).2 ∧
      ((scaled n d base e).1 : ℚ) / (scaled n d base e).2 = n / d * (base : ℚ) ^ e := by
  have hd' : (d : ℚ) ≠ 0 := by positivity
  have hbase' : (base : ℚ) ≠ 0 := by positivity
  unfold scaled
  split_ifs with he
  · obtain ⟨k, rfl⟩ := Int.eq_ofNat_of_zero_le he
    refine ⟨hd, ?_⟩
    simp only [Int.toNat_natCast, Nat.pow_eq, Nat.cast_mul, Nat.cast_pow, zpow_natCast]
    field_simp
  · obtain ⟨k, hk⟩ := Int.eq_ofNat_of_zero_le (show 0 ≤ -e by omega)
    obtain rfl : e = -(k : Int) := by omega
    refine ⟨by simp only [neg_neg, Int.toNat_natCast, Nat.pow_eq]; positivity, ?_⟩
    simp only [neg_neg, Int.toNat_natCast, Nat.pow_eq, Nat.cast_mul, Nat.cast_pow, zpow_neg,
      zpow_natCast]
    field_simp

/-- Rounding a quotient goes to a natural number at most a half away, and to an even one from a
half. -/
theorem roundQuotient_spec (n : Nat) {d : Nat} (hd : 0 < d) :
    2 * (roundQuotient n d * d) ≤ 2 * n + d ∧ 2 * n ≤ 2 * (roundQuotient n d * d) + d ∧
      (2 * (roundQuotient n d * d) = 2 * n + d ∨ 2 * n = 2 * (roundQuotient n d * d) + d →
        roundQuotient n d % 2 = 0) := by
  have hdiv : n / d * d + n % d = n := Nat.div_add_mod' n d
  have hmod : n % d < d := Nat.mod_lt n hd
  have hup : (n / d + 1) * d = n / d * d + d := Nat.succ_mul _ _
  unfold roundQuotient
  dsimp only
  split_ifs with hlow hhigh heven
  · omega
  · rw [hup]
    omega
  · omega
  · rw [hup]
    omega

/-- A rounded quotient is at most a half away, and less than that when it is odd. -/
theorem roundQuotient_near (n : Nat) {d : Nat} (hd : 0 < d) :
    (roundQuotient n d : ℚ) - 1 / 2 ≤ n / d ∧ (n : ℚ) / d ≤ roundQuotient n d + 1 / 2 ∧
      (roundQuotient n d % 2 = 1 →
        (roundQuotient n d : ℚ) - 1 / 2 < n / d ∧ (n : ℚ) / d < roundQuotient n d + 1 / 2) := by
  obtain ⟨hlow, hhigh, htie⟩ := roundQuotient_spec n hd
  generalize roundQuotient n d = m at *
  have hd' : (0 : ℚ) < d := by exact_mod_cast hd
  obtain ⟨r, hr⟩ : ∃ r : ℚ, r = n / d := ⟨_, rfl⟩
  have hn : (n : ℚ) = r * d := by rw [hr]; field_simp
  rw [← hr]
  have hlow' : (m : ℚ) - 1 / 2 ≤ r := by
    have hcast : (2 : ℚ) * (m * d) ≤ 2 * n + d := by exact_mod_cast hlow
    rw [hn] at hcast
    nlinarith
  have hhigh' : r ≤ (m : ℚ) + 1 / 2 := by
    have hcast : (2 : ℚ) * n ≤ 2 * (m * d) + d := by exact_mod_cast hhigh
    rw [hn] at hcast
    nlinarith
  refine ⟨hlow', hhigh', fun hodd => ⟨lt_of_le_of_ne hlow' fun heq => ?_,
    lt_of_le_of_ne hhigh' fun heq => ?_⟩⟩
  · have hcast : (2 : ℚ) * (m * d) = 2 * n + d := by rw [hn, ← heq]; ring
    have := htie (.inl (by exact_mod_cast hcast))
    omega
  · have hcast : (2 : ℚ) * n = 2 * (m * d) + d := by rw [hn, heq]; ring
    have := htie (.inr (by exact_mod_cast hcast))
    omega

/-! ## Logarithms -/

section Log

variable {base : Nat}

/-- A quotient of numbers between powers of a base lies between powers of it. -/
theorem quotient_bracket (hbase : 1 < base) {a b la lb : Nat} (ha : base ^ la ≤ a)
    (ha' : a < base ^ (la + 1)) (hb : base ^ lb ≤ b) (hb' : b < base ^ (lb + 1)) :
    (base : ℚ) ^ ((la : Int) - lb - 1) ≤ a / b ∧ (a : ℚ) / b < base ^ ((la : Int) - lb + 1) := by
  have hbase' : (0 : ℚ) < base := by exact_mod_cast Nat.zero_lt_of_lt hbase
  have hpos : (0 : ℚ) < b := by
    exact_mod_cast lt_of_lt_of_le (Nat.pow_pos (Nat.zero_lt_of_lt hbase)) hb
  have hlow : (base : ℚ) ^ la ≤ a := by exact_mod_cast ha
  have hhigh : (a : ℚ) < base ^ (la + 1) := by exact_mod_cast ha'
  have hlow' : (base : ℚ) ^ lb ≤ b := by exact_mod_cast hb
  have hhigh' : (b : ℚ) < base ^ (lb + 1) := by exact_mod_cast hb'
  have hbelow : (base : ℚ) ^ ((la : Int) - lb - 1) * base ^ (lb + 1) = base ^ la := by
    rw [← zpow_natCast, ← zpow_add₀ hbase'.ne', ← zpow_natCast]
    congr 1
    push_cast
    ring
  have habove : (base : ℚ) ^ ((la : Int) - lb + 1) * base ^ lb = base ^ (la + 1) := by
    rw [← zpow_natCast, ← zpow_add₀ hbase'.ne', ← zpow_natCast]
    congr 1
    push_cast
    ring
  constructor
  · rw [le_div_iff₀ hpos]
    calc (base : ℚ) ^ ((la : Int) - lb - 1) * b
        ≤ base ^ ((la : Int) - lb - 1) * base ^ (lb + 1) := by gcongr
      _ = base ^ la := hbelow
      _ ≤ a := hlow
  · rw [div_lt_iff₀ hpos]
    calc (a : ℚ) < base ^ (la + 1) := hhigh
      _ = base ^ ((la : Int) - lb + 1) * base ^ lb := habove.symm
      _ ≤ base ^ ((la : Int) - lb + 1) * b := by gcongr

/-- An estimate of a logarithm that is at most one too large is put right by one comparison. -/
theorem log_eq_of_bracket (hbase : 1 < base) {q : ℚ} {estimate : Int}
    (hlow : (base : ℚ) ^ (estimate - 1) ≤ q) (hhigh : q < base ^ (estimate + 1)) :
    Int.log base q = if q < (base : ℚ) ^ estimate then estimate - 1 else estimate := by
  have hbase' : (0 : ℚ) < base := by exact_mod_cast Nat.zero_lt_of_lt hbase
  have hq : 0 < q := lt_of_lt_of_le (zpow_pos hbase' _) hlow
  split_ifs with h
  · have hle := (Int.zpow_le_iff_le_log hbase hq).1 hlow
    have hlt := (Int.lt_zpow_iff_log_lt hbase hq).1 h
    omega
  · have hle := (Int.zpow_le_iff_le_log hbase hq).1 (not_lt.1 h)
    have hlt := (Int.lt_zpow_iff_log_lt hbase hq).1 hhigh
    omega

end Log

/-- The exponent for a quotient puts its leading bit at the front of a mantissa of full length,
unless that makes it less than the least exponent. -/
theorem exponentFor_eq {n d : Nat} (hn : 0 < n) (hd : 0 < d) :
    Binary64.exponentFor n d = max (Int.log 2 ((n : ℚ) / d) - 52) (-1074) := by
  obtain ⟨hlow, hhigh⟩ := quotient_bracket one_lt_two (Nat.log2_self_le hn.ne') Nat.lt_log2_self
    (Nat.log2_self_le hd.ne') Nat.lt_log2_self
  have hlog := log_eq_of_bracket one_lt_two hlow hhigh
  have hestimate : (n.log2 : Int) - d.log2 - precision + 1 = n.log2 - d.log2 - 52 := by
    simp only [precision]
    omega
  obtain ⟨hpos, hscaled⟩ := scaled_spec n hd two_pos (-((n.log2 : Int) - d.log2 - 52))
  have hcompare : (scaled n d 2 (-((n.log2 : Int) - d.log2 - 52))).1 <
        (scaled n d 2 (-((n.log2 : Int) - d.log2 - 52))).2 <<< (precision - 1) ↔
      (n : ℚ) / d < 2 ^ ((n.log2 : Int) - d.log2) := by
    generalize scaled n d 2 (-((n.log2 : Int) - d.log2 - 52)) = s at hpos hscaled
    have hpos' : (0 : ℚ) < s.2 := by exact_mod_cast hpos
    have hsplit : (2 : ℚ) ^ ((n.log2 : Int) - d.log2) =
        2 ^ ((n.log2 : Int) - d.log2 - 52) * 2 ^ 52 := by
      rw [← zpow_natCast, ← zpow_add₀ two_ne_zero]
      congr 1
      push_cast
      ring
    rw [zpow_neg] at hscaled
    have hvalue : (n : ℚ) / d = s.1 / s.2 * 2 ^ ((n.log2 : Int) - d.log2 - 52) := by
      rw [hscaled]
      push_cast
      field_simp
    rw [hvalue, hsplit, mul_comm, mul_lt_mul_iff_right₀ (by positivity), div_lt_iff₀ hpos',
      Nat.shiftLeft_eq]
    rw [mul_comm (s.2 : ℕ)]
    exact_mod_cast Iff.rfl
  unfold Binary64.exponentFor
  dsimp only
  rw [hestimate, leastExponent]
  simp only [Nat.cast_ofNat] at hlog
  rw [hlog]
  by_cases h : (n : ℚ) / d < 2 ^ ((n.log2 : Int) - d.log2)
  · rw [if_pos (hcompare.2 h), if_pos h]
    congr 1
    ring
  · rw [if_neg (mt hcompare.1 h), if_neg h]

/-- Counted in steps of its exponent, a quotient has the size of a mantissa. -/
theorem exponentFor_spec {n d : Nat} (hn : 0 < n) (hd : 0 < d) :
    -1074 ≤ Binary64.exponentFor n d ∧ (n : ℚ) / d < 2 ^ 53 * 2 ^ Binary64.exponentFor n d ∧
      (Binary64.exponentFor n d = -1074 ∨
        2 ^ 52 * 2 ^ Binary64.exponentFor n d ≤ (n : ℚ) / d) := by
  have hq : (0 : ℚ) < (n : ℚ) / d := by positivity
  have hexponent := exponentFor_eq hn hd
  generalize Binary64.exponentFor n d = e at *
  generalize (n : ℚ) / d = q at *
  have hscale : ∀ k : Nat, (2 : ℚ) ^ (e + (k : Int)) = 2 ^ k * 2 ^ e := by
    intro k
    rw [zpow_add₀ two_ne_zero, zpow_natCast, mul_comm]
  refine ⟨by omega, ?_, ?_⟩
  · have hlog := Int.lt_zpow_succ_log_self one_lt_two q
    push_cast at hlog
    calc q < 2 ^ (Int.log 2 q + 1) := hlog
      _ ≤ 2 ^ (e + ((53 : ℕ) : Int)) := zpow_le_zpow_right₀ one_le_two (by omega)
      _ = 2 ^ 53 * 2 ^ e := hscale 53
  · rcases max_choice (Int.log 2 q - 52) (-1074) with hmax | hmax
    · right
      have hlog := Int.zpow_log_le_self one_lt_two hq
      push_cast at hlog
      rwa [show Int.log 2 q = e + ((52 : ℕ) : Int) by omega, hscale 52] at hlog
    · left
      omega

/-! ## The numbers of the format -/

/-- A mantissa is as long as it can be, unless the exponent is the least. -/
structure Normalized (m : Nat) (e : Int) : Prop where
  /-- The exponent is none below the least. -/
  least : -1074 ≤ e
  /-- The mantissa has no more bits than fit. -/
  bound : m < 2 ^ 53
  /-- A shorter mantissa has the least exponent. -/
  full : e = -1074 ∨ 2 ^ 52 ≤ m

/-- Whether the neighbour below is nearer than the one above: at a power of two. -/
def Narrow (m : Nat) (e : Int) : Prop := m = 2 ^ 52 ∧ -1074 < e

instance (m : Nat) (e : Int) : Decidable (Narrow m e) := inferInstanceAs (Decidable (_ ∧ _))

/-- The point halfway to the neighbour below. -/
def lowEnd (m : Nat) (e : Int) : ℚ := (m - if Narrow m e then 1 / 4 else 1 / 2) * 2 ^ e

/-- The point halfway to the neighbour above. -/
def highEnd (m : Nat) (e : Int) : ℚ := (m + 1 / 2) * 2 ^ e

/-- A number is read as the nearest one of the format. Halfway between two it is read as the one
with the even mantissa. -/
structure IsReadAs (q : ℚ) (m : Nat) (e : Int) : Prop where
  /-- The number is not below the point halfway to the neighbour below. -/
  low : lowEnd m e ≤ q
  /-- The number is not above the point halfway to the neighbour above. -/
  high : q ≤ highEnd m e
  /-- The ends do not count when the mantissa is odd. -/
  odd : m % 2 = 1 → lowEnd m e < q ∧ q < highEnd m e

section Neighbours

variable {m m' : Nat} {e e' : Int}

/-- The point halfway to the neighbour below lies a quarter of a step below or half a step. -/
theorem lowEnd_eq (m : Nat) (e : Int) :
    ∃ c : ℚ, 1 / 4 ≤ c ∧ c ≤ 1 / 2 ∧ lowEnd m e = (m - c) * 2 ^ e := by
  unfold lowEnd
  split_ifs
  · exact ⟨1 / 4, le_rfl, by norm_num, rfl⟩
  · exact ⟨1 / 2, by norm_num, le_rfl, rfl⟩

/-- A greater exponent makes the steps twice as large at least. -/
theorem exists_factor (h : e < e') : ∃ w : ℚ, 2 ≤ w ∧ (2 : ℚ) ^ e' = w * 2 ^ e := by
  refine ⟨2 ^ (e' - e), ?_, ?_⟩
  · calc (2 : ℚ) = 2 ^ (1 : Int) := (zpow_one _).symm
      _ ≤ 2 ^ (e' - e) := zpow_le_zpow_right₀ one_le_two (by omega)
  · rw [← zpow_add₀ two_ne_zero, sub_add_cancel]

/-- Of two numbers of the format the one with the greater exponent is greater. -/
theorem Normalized.binary_lt (h : Normalized m e) (h' : Normalized m' e') (hlt : e < e') :
    binary m e < binary m' e' := by
  obtain ⟨w, hw, hpow⟩ := exists_factor hlt
  have hu : (0 : ℚ) < 2 ^ e := by positivity
  have hfull : 2 ^ 52 ≤ m' := h'.full.resolve_left (by have := h.least; omega)
  have hfull' : (2 : ℚ) ^ 52 ≤ m' := by exact_mod_cast hfull
  have hbound : (m : ℚ) + 1 ≤ 2 ^ 53 := by exact_mod_cast h.bound
  rw [binary, binary, hpow]
  calc (m : ℚ) * 2 ^ e < 2 ^ 52 * 2 * 2 ^ e := by gcongr; linarith
    _ ≤ m' * w * 2 ^ e := by gcongr
    _ = m' * (w * 2 ^ e) := by ring

/-- Of two numbers of the format, the points that are halfway from the lesser one lie below those of
the greater one. They meet only where one of the mantissas is odd. -/
theorem highEnd_le_lowEnd (h : Normalized m e) (h' : Normalized m' e')
    (hlt : binary m e < binary m' e') : highEnd m e ≤ lowEnd m' e' ∧
      (m % 2 = 0 → m' % 2 = 0 → highEnd m e < lowEnd m' e') := by
  have hu : (0 : ℚ) < 2 ^ e := by positivity
  rcases lt_trichotomy e e' with he | rfl | he
  · -- The steps of the greater number are larger, so its mantissa is of full length.
    obtain ⟨w, hw, hpow⟩ := exists_factor he
    have hfull : 2 ^ 52 ≤ m' := h'.full.resolve_left (by have := h.least; omega)
    have hfull' : (2 : ℚ) ^ 52 ≤ m' := by exact_mod_cast hfull
    have hbound : (m : ℚ) + 1 ≤ 2 ^ 53 := by exact_mod_cast h.bound
    obtain ⟨c, hc, hlow, hle⟩ : ∃ c : ℚ, c ≤ 1 / 2 ∧ lowEnd m' e' = (m' - c) * (w * 2 ^ e) ∧
        2 ^ 53 - 1 / 2 ≤ (m' - c) * 2 := by
      unfold lowEnd
      rw [hpow]
      split_ifs with hnarrow
      · exact ⟨1 / 4, by norm_num, rfl, by linarith⟩
      · have hmore : 2 ^ 52 + 1 ≤ m' := by
          have hne : m' ≠ 2 ^ 52 := fun hm => hnarrow ⟨hm, by have := h.least; omega⟩
          omega
        have hmore' : (2 : ℚ) ^ 52 + 1 ≤ m' := by exact_mod_cast hmore
        exact ⟨1 / 2, le_rfl, rfl, by linarith⟩
    have hstep : (m' - c) * 2 * 2 ^ e ≤ (m' - c) * (w * 2 ^ e) := by
      have hpos : 0 ≤ (m' - c : ℚ) := by linarith
      calc (m' - c) * 2 * (2 : ℚ) ^ e ≤ (m' - c) * w * 2 ^ e := by gcongr
        _ = (m' - c) * (w * 2 ^ e) := by ring
    rw [hlow, highEnd]
    constructor
    · refine le_trans ?_ hstep
      gcongr
      linarith
    · intro heven _
      have hbound' : m + 2 ≤ 2 ^ 53 := by have := h.bound; omega
      have hbound'' : (m : ℚ) + 2 ≤ 2 ^ 53 := by exact_mod_cast hbound'
      refine lt_of_lt_of_le ?_ hstep
      gcongr
      linarith
  · have hm : m < m' := by
      have hcast : (m : ℚ) < m' := lt_of_mul_lt_mul_right hlt hu.le
      exact_mod_cast hcast
    have hm' : (m : ℚ) + 1 ≤ m' := by exact_mod_cast hm
    obtain ⟨c, -, hc, hlow⟩ := lowEnd_eq m' e
    rw [hlow, highEnd]
    constructor
    · gcongr
      linarith
    · intro heven heven'
      have hmore : m + 2 ≤ m' := by omega
      have hmore' : (m : ℚ) + 2 ≤ m' := by exact_mod_cast hmore
      gcongr
      linarith
  · exact absurd hlt (not_lt.2 (h'.binary_lt h he).le)

/-- A number of the format has one mantissa and one exponent. -/
theorem Normalized.ext (h : Normalized m e) (h' : Normalized m' e')
    (heq : binary m e = binary m' e') : m = m' ∧ e = e' := by
  obtain rfl : e = e' := by
    rcases lt_trichotomy e e' with he | he | he
    · exact absurd heq (h.binary_lt h' he).ne
    · exact he
    · exact absurd heq (h'.binary_lt h he).ne'
  have hu : (2 : ℚ) ^ e ≠ 0 := by positivity
  have hm : (m : ℚ) = m' := mul_right_cancel₀ hu heq
  exact ⟨by exact_mod_cast hm, rfl⟩

/-- A number is read as one number of the format. -/
theorem IsReadAs.unique {q : ℚ} (h : Normalized m e) (h' : Normalized m' e')
    (hread : IsReadAs q m e) (hread' : IsReadAs q m' e') : m = m' ∧ e = e' := by
  have hnot : ∀ {m m' : Nat} {e e' : Int}, Normalized m e → Normalized m' e' → IsReadAs q m e →
      IsReadAs q m' e' → ¬binary m e < binary m' e' := by
    intro m m' e e' h h' hread hread' hlt
    obtain ⟨hle, heven⟩ := highEnd_le_lowEnd h h' hlt
    rcases Nat.mod_two_eq_zero_or_one m with hm | hm
    · rcases Nat.mod_two_eq_zero_or_one m' with hm' | hm'
      · have := heven hm hm'
        linarith [hread.high, hread'.low]
      · linarith [hread.high, (hread'.odd hm').1]
    · linarith [(hread.odd hm).2, hread'.low]
  exact h.ext h' (le_antisymm (not_lt.1 (hnot h' h hread' hread))
    (not_lt.1 (hnot h h' hread hread')))

end Neighbours

/-! ## Reading -/

/-- A number is read as the one whose mantissa its count of steps is rounded to. -/
theorem isReadAs_of_near {r : ℚ} {m : Nat} {e : Int} (hlow : (m : ℚ) - 1 / 2 ≤ r)
    (hhigh : r ≤ m + 1 / 2) (hodd : m % 2 = 1 → (m : ℚ) - 1 / 2 < r ∧ r < m + 1 / 2)
    (hfull : e = -1074 ∨ (2 : ℚ) ^ 52 ≤ r) : IsReadAs (r * 2 ^ e) m e := by
  have hu : (0 : ℚ) < 2 ^ e := by positivity
  refine ⟨?_, ?_, fun hm => ⟨?_, ?_⟩⟩
  · rw [lowEnd]
    gcongr
    split_ifs with hnarrow
    · have := hfull.resolve_left hnarrow.2.ne'
      have hm : (m : ℚ) = 2 ^ 52 := by exact_mod_cast hnarrow.1
      linarith
    · exact hlow
  · rw [highEnd]
    gcongr
  · have hnarrow : ¬Narrow m e := by
      rintro ⟨rfl, -⟩
      norm_num at hm
    rw [lowEnd, if_neg hnarrow]
    have := (hodd hm).1
    gcongr
  · rw [highEnd]
    have := (hodd hm).2
    gcongr

/-- When a mantissa becomes too long by rounding, the number is the next power of two. -/
theorem isReadAs_of_carry {r : ℚ} {e : Int} (he : -1074 ≤ e) (hlow : (2 : ℚ) ^ 53 - 1 / 2 ≤ r)
    (hhigh : r ≤ 2 ^ 53 + 1 / 2) : IsReadAs (r * 2 ^ e) (2 ^ 52) (e + 1) := by
  have hu : (0 : ℚ) < 2 ^ e := by positivity
  have hpow : (2 : ℚ) ^ (e + 1) = 2 * 2 ^ e := by rw [zpow_add₀ two_ne_zero, zpow_one, mul_comm]
  refine ⟨?_, ?_, by norm_num⟩
  · rw [lowEnd, if_pos ⟨rfl, by omega⟩, hpow, ← mul_assoc]
    gcongr
    push_cast
    linarith
  · rw [highEnd, hpow, ← mul_assoc]
    gcongr
    push_cast
    linarith

/-- A positive quotient is read as a number of the format, or as infinity when that number is out of
range. -/
theorem ofQuotient_spec (negative : Bool) {n d : Nat} (hn : 0 < n) (hd : 0 < d) :
    ∃ m e, Normalized m e ∧ IsReadAs ((n : ℚ) / d) m e ∧ Binary64.ofQuotient negative n d =
      if 971 < e then .infinite negative else .finite negative m e := by
  obtain ⟨hpos, hscaled⟩ := scaled_spec n hd two_pos (-Binary64.exponentFor n d)
  obtain ⟨hleast, hbelow, hfull⟩ := exponentFor_spec hn hd
  unfold Binary64.ofQuotient
  rw [if_neg hn.ne']
  dsimp only
  generalize Binary64.exponentFor n d = e at *
  generalize scaled n d 2 (-e) = s at *
  obtain ⟨n', d'⟩ := s
  dsimp only at hpos hscaled ⊢
  obtain ⟨hlow, hhigh, hodd⟩ := roundQuotient_near n' hpos
  generalize roundQuotient n' d' = m at *
  have hu : (0 : ℚ) < 2 ^ e := by positivity
  -- The count of steps is what is rounded.
  obtain ⟨r, hr⟩ : ∃ r : ℚ, r = n' / d' := ⟨_, rfl⟩
  have hvalue : (n : ℚ) / d = r * 2 ^ e := by
    rw [hr, hscaled, Nat.cast_ofNat, zpow_neg]
    field_simp
  rw [← hr] at hlow hhigh hodd
  rw [hvalue] at hbelow hfull ⊢
  have hbelow' : r < 2 ^ 53 := lt_of_mul_lt_mul_right hbelow hu.le
  have hfull' : e = -1074 ∨ (2 : ℚ) ^ 52 ≤ r :=
    hfull.imp_right fun hfull => le_of_mul_le_mul_right hfull hu
  have hmbound : m ≤ 2 ^ 53 := by
    have hlt : (m : ℚ) < 2 ^ 53 + 1 := by linarith
    have hlt' : m < 2 ^ 53 + 1 := by exact_mod_cast hlt
    omega
  have hmfull : e = -1074 ∨ 2 ^ 52 ≤ m := by
    refine hfull'.imp_right fun hfull => ?_
    have hlt : (2 : ℚ) ^ 52 < m + 1 := by linarith
    have hlt' : 2 ^ 52 < m + 1 := by exact_mod_cast hlt
    omega
  by_cases hcarry : m = 1 <<< precision
  · rw [if_pos hcarry]
    obtain rfl : m = 2 ^ 53 := hcarry
    push_cast at hlow hhigh
    exact ⟨2 ^ 52, e + 1, ⟨by omega, by norm_num, .inr le_rfl⟩,
      isReadAs_of_carry hleast hlow hhigh, rfl⟩
  · rw [if_neg hcarry]
    have hne : m ≠ 2 ^ 53 := hcarry
    exact ⟨m, e, ⟨hleast, by omega, hmfull⟩, isReadAs_of_near hlow hhigh hodd hfull', rfl⟩

/-- A decimal is positive when its digits are. -/
theorem decimal_pos {t : Nat} (ht : 0 < t) (g : Int) : 0 < decimal t g := by
  unfold decimal
  positivity

/-- The digits of a positive number tell its size. -/
theorem digitCount_spec {n : Nat} (hn : 0 < n) :
    0 < Binary64.digitCount n ∧ 10 ^ (Binary64.digitCount n - 1) ≤ n ∧
      n < 10 ^ Binary64.digitCount n := by
  have hpos : 0 < Binary64.digitCount n := Nat.length_toDigits_pos
  refine ⟨hpos, ?_, (Nat.length_toDigits_le_iff (by norm_num) hpos).1 le_rfl⟩
  by_cases hone : Binary64.digitCount n = 1
  · rw [hone]
    exact hn
  · by_contra hlt
    have hle := (Nat.length_toDigits_le_iff (n := n) (b := 10) (by norm_num)
      (k := Binary64.digitCount n - 1) (by omega)).2 (by omega)
    have : Binary64.digitCount n ≤ Binary64.digitCount n - 1 := hle
    omega

/-- A decimal lies between the powers of ten that its magnitude tells. -/
theorem decimal_bounds {t : Nat} (ht : 0 < t) (g : Int) :
    (10 : ℚ) ^ ((Binary64.digitCount t : Int) + g - 1) ≤ decimal t g ∧
      decimal t g < 10 ^ ((Binary64.digitCount t : Int) + g) := by
  obtain ⟨hpos, hlow, hhigh⟩ := digitCount_spec ht
  have hlow' : (10 : ℚ) ^ (Binary64.digitCount t - 1) ≤ t := by exact_mod_cast hlow
  have hhigh' : (t : ℚ) < 10 ^ Binary64.digitCount t := by exact_mod_cast hhigh
  have hten : (10 : ℚ) ≠ 0 := by norm_num
  have hu : (0 : ℚ) < 10 ^ g := by positivity
  unfold decimal
  constructor
  · calc (10 : ℚ) ^ ((Binary64.digitCount t : Int) + g - 1)
        = 10 ^ (Binary64.digitCount t - 1) * 10 ^ g := by
          rw [← zpow_natCast, ← zpow_add₀ hten]
          congr 1
          omega
      _ ≤ t * 10 ^ g := by gcongr
  · calc (t : ℚ) * 10 ^ g < 10 ^ Binary64.digitCount t * 10 ^ g := by gcongr
      _ = 10 ^ ((Binary64.digitCount t : Int) + g) := by
          rw [← zpow_natCast, ← zpow_add₀ hten]

/-- What is read as a number in range is not too large. -/
theorem IsReadAs.lt_of_le {q : ℚ} {m : Nat} {e : Int} (h : Normalized m e) (he : e ≤ 971)
    (hread : IsReadAs q m e) : q < 10 ^ (400 : Int) := by
  have hbound : (m : ℚ) + 1 ≤ 2 ^ 53 := by exact_mod_cast h.bound
  have hpow : (2 : ℚ) ^ e ≤ 2 ^ (971 : Int) := zpow_le_zpow_right₀ one_le_two he
  have hlarge : 2 ^ 53 * 2 ^ 971 < 10 ^ 400 := by decide +kernel
  calc q ≤ (m + 1 / 2) * 2 ^ e := hread.high
    _ ≤ 2 ^ 53 * 2 ^ (971 : Int) := by gcongr; linarith
    _ < 10 ^ (400 : Int) := by
      rw [zpow_ofNat, zpow_ofNat]
      exact_mod_cast hlarge

/-- What is so small is read as zero. -/
theorem isReadAs_zero {q : ℚ} (h : 0 ≤ q) (hsmall : q ≤ 10 ^ (-400 : Int)) :
    IsReadAs q 0 (-1074) := by
  have hlarge : 2 * 2 ^ 1074 ≤ 10 ^ 400 := by decide +kernel
  have hlarge' : (2 : ℚ) * 2 ^ 1074 ≤ 10 ^ 400 := by exact_mod_cast hlarge
  have hpow : (10 : ℚ) ^ (-400 : Int) ≤ 1 / 2 * 2 ^ (-1074 : Int) := by
    rw [zpow_neg, zpow_neg, zpow_ofNat, zpow_ofNat, ← one_div, ← one_div, div_mul_div_comm, one_mul]
    exact one_div_le_one_div_of_le (by positivity) hlarge'
  refine ⟨?_, ?_, fun hm => by omega⟩
  · rw [lowEnd, if_neg (by rintro ⟨h, -⟩; norm_num at h)]
    refine le_trans (mul_nonpos_of_nonpos_of_nonneg ?_ (by positivity)) h
    norm_num
  · rw [highEnd, Nat.cast_zero, zero_add]
    exact hsmall.trans hpow

/-- Zero is a number of the format. -/
theorem normalized_zero : Normalized 0 (-1074) := ⟨le_rfl, by norm_num, .inl rfl⟩

/-- A decimal is read as a number of the format, or as infinity when that number is out of range. -/
theorem ofDecimal_spec (negative : Bool) (t : Nat) (g : Int) :
    ∃ m e, Normalized m e ∧ IsReadAs (decimal t g) m e ∧ Binary64.ofDecimal negative t g =
      if 971 < e then .infinite negative else .finite negative m e := by
  rcases Nat.eq_zero_or_pos t with rfl | ht
  · refine ⟨0, -1074, normalized_zero, isReadAs_zero ?_ ?_, rfl⟩
    · simp [decimal]
    · simp only [decimal, Nat.cast_zero, zero_mul]
      positivity
  obtain ⟨hpos, hscaled⟩ := scaled_spec t Nat.one_pos (show 0 < 10 by norm_num) g
  have hvalue : ((scaled t 1 10 g).1 : ℚ) / (scaled t 1 10 g).2 = decimal t g := by
    rw [hscaled, decimal]
    norm_num
  have hnum : 0 < (scaled t 1 10 g).1 := by
    refine Nat.pos_of_ne_zero fun hzero => ?_
    rw [hzero, Nat.cast_zero, zero_div] at hvalue
    exact (decimal_pos ht g).ne hvalue
  obtain ⟨m, e, hnormal, hread, hquotient⟩ := ofQuotient_spec negative hnum hpos
  rw [hvalue] at hread
  obtain ⟨hlow, hhigh⟩ := decimal_bounds ht g
  unfold Binary64.ofDecimal
  rw [if_neg ht.ne']
  dsimp only
  by_cases hlarge : (Binary64.digitCount t : Int) + g > 400
  · -- No number in range is that large.
    rw [if_pos hlarge]
    have he : 971 < e := by
      by_contra he
      have hlt := hread.lt_of_le hnormal (not_lt.1 he)
      have hle : (10 : ℚ) ^ (400 : Int) ≤ 10 ^ ((Binary64.digitCount t : Int) + g - 1) :=
        zpow_le_zpow_right₀ (by norm_num) (by omega)
      linarith
    exact ⟨m, e, hnormal, hread, (if_pos he).symm⟩
  · rw [if_neg hlarge]
    by_cases hsmall : (Binary64.digitCount t : Int) + g < -400
    · rw [if_pos hsmall]
      have hle : (10 : ℚ) ^ ((Binary64.digitCount t : Int) + g) ≤ 10 ^ (-400 : Int) :=
        zpow_le_zpow_right₀ (by norm_num) hsmall.le
      exact ⟨0, -1074, normalized_zero,
        isReadAs_zero (decimal_pos ht g).le (hhigh.le.trans hle), rfl⟩
    · rw [if_neg hsmall]
      exact ⟨m, e, hnormal, hread, hquotient⟩

/-- What reads as a number in range, and what does not. -/
theorem ofDecimal_eq_finite_iff {negative : Bool} {t m : Nat} {g e : Int} :
    Binary64.ofDecimal negative t g = .finite negative m e ↔
      Normalized m e ∧ e ≤ 971 ∧ IsReadAs (decimal t g) m e := by
  obtain ⟨m', e', hnormal, hread, heq⟩ := ofDecimal_spec negative t g
  rw [heq]
  constructor
  · intro h
    split_ifs at h with he
    obtain ⟨-, rfl, rfl⟩ := Binary64.finite.inj h
    exact ⟨hnormal, not_lt.1 he, hread⟩
  · rintro ⟨hnormal', he, hread'⟩
    obtain ⟨rfl, rfl⟩ := hread'.unique hnormal' hnormal hread
    rw [if_neg (not_lt.2 he)]

end IconSubset.Decimal
