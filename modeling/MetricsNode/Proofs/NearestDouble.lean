import MetricsNode.Proofs.ExactArithmetic

/-!
# Reading a rational back as a double

`nearestBits num den` is the double nearest to `num / den`. This module says which rationals
read back as a given finite double: exactly those of its *reading interval*, the rounding
interval between its true neighbours (`signedNearestBits_eq_iff`), with the sign bit for a
negative double.

## The bits

A positive finite double is stored as `mant` on the grid `2 ^ exp` in one way only
(`Canonical`): a subnormal significand below `2 ^ 52` on the least grid `2 ^ -1074`, or a
significand of 53 bits under the exponent field `exp + 1075`. `ofBits_eq_finite_iff` reads the
fields of the bits off their value, and `magnitudeBits` writes them back.

## The grid

The reader rounds `num / den` on the grid `2 ^ e0`, where `e0` is the binade of the rational less
52 binary digits, never below the least grid (`gridExp`). A rational in the reading interval of
`mant * 2 ^ exp` lies on the grid of `exp` and rounds there to `mant`, except a quarter step
below a power of two: there it lies one grid lower, rounds to `2 ^ 53`, and the carry brings it
back (`grid_of_mem`). Conversely whatever the reader rounds to has the rational in its reading
interval (`mem_of_grid`).
-/

namespace MetricsNode.Decimal

/-! ## The fields of the bits -/

/-- The significand and exponent of a finite non-negative double as its bits store them: a
significand of at most 53 bits on a grid between the least and the largest, the significands
below `2 ^ 52` only on the least grid. -/
structure Canonical (mant : ℕ) (exp : ℤ) : Prop where
  mant_lt : mant < 2 ^ 53
  exp_ge : -1074 ≤ exp
  exp_le : exp ≤ 971
  subnormal : mant < 2 ^ 52 → exp = -1074

/-- The low 63 bits of the non-negative double `mant * 2 ^ exp`: the exponent field above the
stored fraction, and a subnormal as its significand alone. -/
def magnitudeBits (mant : ℕ) (exp : ℤ) : ℕ :=
  if mant < 2 ^ 52 then mant else (exp + 1075).toNat * 2 ^ 52 + (mant - 2 ^ 52)

theorem magnitudeBits_pos {mant : ℕ} {exp : ℤ} (hc : Canonical mant exp) (hm : 0 < mant) :
    0 < magnitudeBits mant exp := by
  have := hc.exp_ge
  unfold magnitudeBits
  split <;> omega

theorem magnitudeBits_lt_infinity {mant : ℕ} {exp : ℤ} (h : Canonical mant exp) :
    magnitudeBits mant exp < 0x7FF0000000000000 := by
  have := h.mant_lt
  have := h.exp_le
  unfold magnitudeBits
  split <;> omega

theorem magnitudeBits_inj {m m' : ℕ} {e e' : ℤ} (h : Canonical m e) (h' : Canonical m' e')
    (heq : magnitudeBits m e = magnitudeBits m' e') : m = m' ∧ e = e' := by
  have := h.mant_lt
  have := h'.mant_lt
  have := h.exp_ge
  have := h'.exp_ge
  have hs := h.subnormal
  have hs' := h'.subnormal
  unfold magnitudeBits at heq
  split at heq <;> split at heq <;> omega

theorem signBit_eq (b : UInt64) : (b >>> 63 == 1) = decide (b.toNat / 2 ^ 63 = 1) := by
  rw [Bool.eq_iff_iff, beq_iff_eq, decide_eq_true_iff, ← UInt64.toNat_inj]
  simp [UInt64.toNat_shiftRight, Nat.shiftRight_eq_div_pow]

theorem exponentField_eq (b : UInt64) :
    ((b >>> 52) &&& 0x7FF).toNat = b.toNat / 2 ^ 52 % 2 ^ 11 := by
  rw [UInt64.toNat_and, UInt64.toNat_shiftRight, show (0x7FF : UInt64).toNat = 2 ^ 11 - 1 from rfl,
    Nat.and_two_pow_sub_one_eq_mod, Nat.shiftRight_eq_div_pow]
  rfl

theorem fractionField_eq (b : UInt64) : (b &&& 0xFFFFFFFFFFFFF).toNat = b.toNat % 2 ^ 52 := by
  rw [UInt64.toNat_and, show (0xFFFFFFFFFFFFF : UInt64).toNat = 2 ^ 52 - 1 from rfl,
    Nat.and_two_pow_sub_one_eq_mod]

theorem ofBits_eq_fields (b : UInt64) : ∃ s F f : ℕ, s ≤ 1 ∧ F < 2 ^ 11 ∧ f < 2 ^ 52 ∧
    b.toNat = s * 2 ^ 63 + F * 2 ^ 52 + f ∧
    Binary.ofBits b =
      if F = 2047 then (if f = 0 then .infinite (decide (s = 1)) else .nan)
      else if F = 0 then (if f = 0 then .zero (decide (s = 1)) else .finite (decide (s = 1)) f (-1074) false)
      else .finite (decide (s = 1)) (f + 2 ^ 52) ((F : ℤ) - 1075) (decide (f = 0)) := by
  have hb := UInt64.toNat_lt b
  refine ⟨b.toNat / 2 ^ 63, b.toNat / 2 ^ 52 % 2 ^ 11, b.toNat % 2 ^ 52, by omega, by omega, by omega, by omega, ?_⟩
  unfold Binary.ofBits
  simp only [signBit_eq, exponentField_eq, fractionField_eq, beq_iff_eq, Nat.pow_eq]
  rfl

theorem ofBits_eq_finite_iff (b : UInt64) {negative : Bool} {mant : ℕ} {exp : ℤ}
    {powerOfTwoNormal : Bool} :
    Binary.ofBits b = .finite negative mant exp powerOfTwoNormal ↔
      Canonical mant exp ∧ 0 < mant ∧ powerOfTwoNormal = decide (mant = 2 ^ 52) ∧
        b.toNat = (if negative then 2 ^ 63 else 0) + magnitudeBits mant exp := by
  obtain ⟨s, F, f, hs, hF, hf, hN, hbin⟩ := ofBits_eq_fields b
  rw [hbin, hN]
  unfold magnitudeBits
  by_cases hF1 : F = 2047
  · -- infinities and NaNs
    simp only [hF1, if_true]
    constructor
    · split <;> intro h <;> cases h
    · rintro ⟨hc, -, -, h⟩
      have := hc.mant_lt
      have := hc.exp_le
      split at h <;> split at h <;> omega
  rw [if_neg hF1]
  by_cases hF0 : F = 0
  · -- zeros and subnormals
    rw [if_pos hF0]
    by_cases hf0 : f = 0
    · rw [if_pos hf0]
      simp only [reduceCtorEq, false_iff]
      rintro ⟨⟨h1, h2, h3, h4⟩, hm, -, h⟩
      split at h <;> split at h <;> omega
    · rw [if_neg hf0]
      simp only [Binary.finite.injEq]
      constructor
      · rintro ⟨rfl, rfl, rfl, rfl⟩
        refine ⟨⟨by omega, by omega, by omega, fun _ ↦ rfl⟩, by omega, by simp; omega, ?_⟩
        rw [if_pos hf]
        rcases Nat.le_one_iff_eq_zero_or_eq_one.1 hs with rfl | rfl <;> simp [hF0]
      · rintro ⟨⟨h1, h2, h3, h4⟩, hm, rfl, h⟩
        split at h <;> split at h <;> simp_all <;> omega
  · -- normals
    rw [if_neg hF0]
    simp only [Binary.finite.injEq]
    constructor
    · rintro ⟨rfl, rfl, rfl, rfl⟩
      refine ⟨⟨by omega, by omega, by omega, fun h ↦ by omega⟩, by omega, by simp, ?_⟩
      rw [if_neg (show ¬f + 2 ^ 52 < 2 ^ 52 by omega)]
      rcases Nat.le_one_iff_eq_zero_or_eq_one.1 hs with rfl | rfl <;> simp [Nat.add_assoc]
    · rintro ⟨⟨h1, h2, h3, h4⟩, hm, rfl, h⟩
      split at h <;> split at h <;> simp_all <;> omega

/-- The bits of a zero: the sign bit alone. -/
theorem ofBits_eq_zero_iff (b : UInt64) {negative : Bool} :
    Binary.ofBits b = .zero negative ↔ b.toNat = if negative then 2 ^ 63 else 0 := by
  obtain ⟨s, F, f, hs, hF, hf, hN, hbin⟩ := ofBits_eq_fields b
  rw [hbin, hN]
  constructor
  · intro h
    by_cases hF1 : F = 2047
    · rw [if_pos hF1] at h
      split at h <;> cases h
    rw [if_neg hF1] at h
    by_cases hF0 : F = 0
    · rw [if_pos hF0] at h
      by_cases hf0 : f = 0
      · rw [if_pos hf0, Binary.zero.injEq] at h
        subst h hF0 hf0
        rcases Nat.le_one_iff_eq_zero_or_eq_one.1 hs with rfl | rfl <;> simp
      · rw [if_neg hf0] at h
        cases h
    · rw [if_neg hF0] at h
      cases h
  · intro h
    have hF0 : F = 0 := by split at h <;> omega
    have hf0 : f = 0 := by split at h <;> omega
    rw [if_neg (by omega), if_pos hF0, if_pos hf0, Binary.zero.injEq]
    cases negative <;> simp at h ⊢ <;> omega

/-! ## The grid of a rational -/

/-- The grid the reader rounds `num / den` on: 52 binary digits below the rational's binade, and
never below the least grid `2 ^ -1074`. -/
def gridExp (num den : ℕ) : ℤ := max (floorLog2 num den - 52) (-1074)

/-- On its grid a rational is below `2 ^ 53` steps. -/
theorem div_gridExp_lt {num den : ℕ} (hn : 0 < num) (hd : 0 < den) :
    (num : ℚ) / den / 2 ^ gridExp num den < 2 ^ 53 := by
  obtain ⟨-, hhi⟩ := floorLog2_spec hn hd
  have hge : floorLog2 num den + 1 ≤ gridExp num den + 53 := by unfold gridExp; omega
  rw [div_lt_iff₀ (by positivity)]
  calc (num : ℚ) / den < 2 ^ (floorLog2 num den + 1) := hhi
    _ ≤ 2 ^ (gridExp num den + 53) := zpow_le_zpow_right₀ (by norm_num) hge
    _ = 2 ^ 53 * 2 ^ gridExp num den := by rw [zpow_add₀ two_ne_zero, mul_comm]; norm_num

/-- Above the least grid a rational has at least `2 ^ 52` steps: its grid is its own binade's. -/
theorem le_div_gridExp {num den : ℕ} (hn : 0 < num) (hd : 0 < den)
    (h : gridExp num den ≠ -1074) : 2 ^ 52 ≤ (num : ℚ) / den / 2 ^ gridExp num den := by
  obtain ⟨hlo, -⟩ := floorLog2_spec hn hd
  have heq : gridExp num den = floorLog2 num den - 52 := by unfold gridExp at h ⊢; omega
  rw [le_div_iff₀ (by positivity)]
  calc (2 : ℚ) ^ 52 * 2 ^ gridExp num den = 2 ^ floorLog2 num den := by
        rw [heq, zpow_sub₀ two_ne_zero]; field_simp
    _ ≤ (num : ℚ) / den := hlo

/-- The grid is `2 ^ g` for a rational of `2 ^ 52` to `2 ^ 53` steps on it, and the least grid
for a rational below `2 ^ 53` steps on that. -/
theorem gridExp_eq {num den : ℕ} (hn : 0 < num) (hd : 0 < den) {g : ℤ} (hg : -1074 ≤ g)
    (hlo : g = -1074 ∨ 2 ^ 52 ≤ (num : ℚ) / den / 2 ^ g)
    (hhi : (num : ℚ) / den / 2 ^ g < 2 ^ 53) : gridExp num den = g := by
  have hpos : (0 : ℚ) < 2 ^ g := by positivity
  have hhi' : (num : ℚ) / den < 2 ^ (g + 53) := by
    rw [zpow_add₀ two_ne_zero, mul_comm]
    exact (div_lt_iff₀ hpos).1 hhi
  unfold gridExp
  rcases hlo with rfl | hlo
  · have := (floorLog2_between hn hd (floorLog2_spec hn hd).1 hhi').2
    omega
  · have hlo' : (2 : ℚ) ^ (g + 52) ≤ (num : ℚ) / den := by
      rw [zpow_add₀ two_ne_zero, mul_comm]
      exact (le_div_iff₀ hpos).1 hlo
    have := floorLog2_between hn hd hlo' hhi'
    omega

/-- The reader's significand on the grid `2 ^ e` is `num / den` rounded there, ties to even. -/
theorem roundOnGrid_rounds (num : ℕ) {den : ℕ} (hd : 0 < den) (e : ℤ) :
    RoundsHalfEven ((num : ℚ) / den / 2 ^ e)
      (if 0 ≤ e then roundHalfEven num (den * Nat.pow 2 e.toNat)
        else roundHalfEven (num * Nat.pow 2 (-e).toNat) den) := by
  split
  · rename_i he
    have hpos : 0 < den * Nat.pow 2 e.toNat :=
      Nat.mul_pos hd (by simp only [Nat.pow_eq]; positivity)
    have h := roundHalfEven_rounds num hpos
    rwa [show ((num : ℚ) / ((den * Nat.pow 2 e.toNat : ℕ) : ℚ)) = num / den / 2 ^ e by
      rw [zpow_eq_pow_toNat he, div_div]; push_cast [Nat.pow_eq]; rfl] at h
  · rename_i he
    have h := roundHalfEven_rounds (num * Nat.pow 2 (-e).toNat) hd
    rwa [show ((num * Nat.pow 2 (-e).toNat : ℕ) : ℚ) / den = num / den / 2 ^ e by
      rw [zpow_eq_inv_pow_toNat (by omega)]; push_cast [Nat.pow_eq]; field_simp] at h

/-- Where a significand rounded on the grid `2 ^ e` is stored: a carry to `2 ^ 53` is the
significand `2 ^ 52` of the next grid. -/
def carry (s : ℕ) (e : ℤ) : ℕ × ℤ := if s = 2 ^ 53 then (2 ^ 52, e + 1) else (s, e)

/-- The reader rounds on the grid of the rational, carries, and stores the result, or infinity
beyond the largest exponent. -/
theorem nearestBits_eq {num den : ℕ} (hn : 0 < num) (hd : 0 < den) :
    ∃ s, RoundsHalfEven ((num : ℚ) / den / 2 ^ gridExp num den) s ∧
      nearestBits num den =
        if 971 < (carry s (gridExp num den)).2 then 0x7FF0000000000000
        else (magnitudeBits (carry s (gridExp num den)).1 (carry s (gridExp num den)).2).toUInt64 := by
  refine ⟨_, roundOnGrid_rounds num hd (gridExp num den), ?_⟩
  unfold nearestBits carry magnitudeBits gridExp
  rw [if_neg (by simp; omega)]
  simp only [Nat.pow_eq]
  split_ifs <;> rfl

/-- The rationals that read back as the positive double `mant * 2 ^ exp`: halfway to its true
neighbours, the lower half-gap halved below a power of two above the least normal binade. -/
def readingInterval (mant : ℕ) (exp : ℤ) : Interval :=
  Interval.ofBinary mant exp (decide (mant = 2 ^ 52 ∧ exp ≠ -1074))

/-- A rational that reads back as `mant * 2 ^ exp` lies on the grid of `exp` and rounds there to
`mant`, or, a quarter step below a power of two, lies one grid lower and rounds up to `2 ^ 53`. -/
theorem grid_of_mem {num den mant : ℕ} {exp : ℤ} (hd : 0 < den) (hc : Canonical mant exp)
    (hm : 0 < mant) (hmem : (readingInterval mant exp).Mem ((num : ℚ) / den)) :
    (gridExp num den = exp ∧ RoundsHalfEven ((num : ℚ) / den / 2 ^ exp) mant) ∨
      (mant = 2 ^ 52 ∧ gridExp num den = exp - 1 ∧
        RoundsHalfEven ((num : ℚ) / den / 2 ^ (exp - 1)) (2 ^ 53)) := by
  have hq := hmem.pos (Interval.proper_ofBinary hm)
  have hn : 0 < num := by
    rcases Nat.eq_zero_or_pos num with h | h
    · simp [h] at hq
    · exact h
  have hlt : (mant : ℚ) + 1 ≤ 2 ^ 53 := by exact_mod_cast hc.mant_lt
  have hge := hc.exp_ge
  unfold readingInterval at hmem
  by_cases hp : mant = 2 ^ 52 ∧ exp ≠ -1074
  · -- below a power of two: a quarter step down, half a step up
    obtain ⟨rfl, hne⟩ := hp
    rw [decide_eq_true (And.intro rfl hne), Interval.mem_ofBinary_iff hm,
      if_pos (by decide), if_pos rfl] at hmem
    push_cast at hmem
    obtain ⟨hlo, hhi⟩ := hmem
    by_cases ht : (2 : ℚ) ^ 52 ≤ (num : ℚ) / den / 2 ^ exp
    · left
      refine ⟨gridExp_eq hn hd hge (.inr ht) (by linarith), ?_⟩
      refine ⟨by push_cast; linarith, by push_cast; linarith, fun _ ↦ ?_, fun _ ↦ ?_⟩ <;>
        exact (Nat.even_pow.2 ⟨even_two, by norm_num⟩)
    · right
      rw [div_two_zpow_sub_one]
      refine ⟨rfl, gridExp_eq hn hd (by omega) (.inr ?_) ?_, ?_⟩
      · rw [div_two_zpow_sub_one]; linarith
      · rw [div_two_zpow_sub_one]; linarith
      · refine ⟨by push_cast; linarith, by push_cast; linarith, fun _ ↦ ?_, fun _ ↦ ?_⟩ <;>
          exact (Nat.even_pow.2 ⟨even_two, by norm_num⟩)
  · -- elsewhere the interval is what rounds to `mant` on the grid of `exp`
    rw [decide_eq_false hp, Interval.mem_ofBinary_false_iff hm] at hmem
    left
    refine ⟨gridExp_eq hn hd hge ?_ (by linarith [hmem.2.1]), hmem⟩
    by_cases he : exp = -1074
    · exact .inl he
    · right
      have hbig : 2 ^ 52 + 1 ≤ mant := by
        have := mt hc.subnormal he
        have : mant ≠ 2 ^ 52 := fun h ↦ hp ⟨h, he⟩
        omega
      have : ((2 ^ 52 + 1 : ℕ) : ℚ) ≤ mant := by exact_mod_cast hbig
      push_cast at this
      linarith [hmem.1]

/-! ## Reading back -/

/-- What the reader rounds to is stored canonically, infinity apart. -/
theorem canonical_carry {num den s : ℕ} (hn : 0 < num) (hd : 0 < den)
    (hs : RoundsHalfEven ((num : ℚ) / den / 2 ^ gridExp num den) s)
    (hle : (carry s (gridExp num den)).2 ≤ 971) :
    Canonical (carry s (gridExp num den)).1 (carry s (gridExp num den)).2 := by
  have htop := div_gridExp_lt hn hd
  have hge : -1074 ≤ gridExp num den := by unfold gridExp; omega
  have hs53 : s ≤ 2 ^ 53 := by
    have : (s : ℚ) < 2 ^ 53 + 1 := by linarith [hs.1]
    exact_mod_cast Nat.lt_succ_iff.1 (by exact_mod_cast this)
  unfold carry at hle ⊢
  by_cases h53 : s = 2 ^ 53
  · rw [if_pos h53] at hle ⊢
    exact ⟨by norm_num, by omega, hle, fun h ↦ absurd h (lt_irrefl _)⟩
  · rw [if_neg h53] at hle ⊢
    refine ⟨by omega, hge, hle, fun hsmall ↦ Classical.byContradiction fun he ↦ ?_⟩
    -- above the least grid the rational has `2 ^ 52` steps, so it cannot round below
    have hbig := le_div_gridExp hn hd he
    have : (s : ℚ) + 1 ≤ 2 ^ 52 := by exact_mod_cast hsmall
    linarith [hs.2.1]

/-- Whatever the reader rounds to has the rational in its reading interval. -/
theorem mem_of_grid {num den s : ℕ} (hn : 0 < num) (hd : 0 < den)
    (hs : RoundsHalfEven ((num : ℚ) / den / 2 ^ gridExp num den) s) (hpos : 0 < s) :
    (readingInterval (carry s (gridExp num den)).1 (carry s (gridExp num den)).2).Mem
      ((num : ℚ) / den) := by
  have htop := div_gridExp_lt hn hd
  have hge : -1074 ≤ gridExp num den := by unfold gridExp; omega
  have heven : Even (2 ^ 52 : ℕ) := Nat.even_pow.2 ⟨even_two, by norm_num⟩
  unfold carry readingInterval
  split
  · -- a carry: the rational is a quarter step below the power of two of the next grid
    rename_i h53
    subst h53
    dsimp only
    rw [decide_eq_true (And.intro rfl (by omega)), Interval.mem_ofBinary_iff (by norm_num),
      if_pos heven, if_pos rfl, div_two_zpow_add_one]
    have := hs.1
    push_cast at this ⊢
    constructor <;> linarith
  · by_cases hp : s = 2 ^ 52 ∧ gridExp num den ≠ -1074
    · -- a power of two above the least grid: the rational is not below it
      obtain ⟨rfl, hne⟩ := hp
      dsimp only
      rw [decide_eq_true (And.intro rfl hne), Interval.mem_ofBinary_iff (by norm_num),
        if_pos heven, if_pos rfl]
      have hbig := le_div_gridExp hn hd hne
      have := hs.2.1
      push_cast at this ⊢
      constructor <;> linarith
    · rw [decide_eq_false hp, Interval.mem_ofBinary_false_iff hpos]
      exact hs

theorem nearestBits_zero (den : ℕ) : nearestBits 0 den = 0 := by
  unfold nearestBits
  simp

/-- A rational in the reading interval of a positive double reads back as that double. -/
theorem nearestBits_of_mem {num den mant : ℕ} {exp : ℤ} (hd : 0 < den) (hc : Canonical mant exp)
    (hm : 0 < mant) (hmem : (readingInterval mant exp).Mem ((num : ℚ) / den)) :
    nearestBits num den = (magnitudeBits mant exp).toUInt64 := by
  have hq := hmem.pos (Interval.proper_ofBinary hm)
  have hn : 0 < num := by
    rcases Nat.eq_zero_or_pos num with h | h
    · simp [h] at hq
    · exact h
  obtain ⟨s, hs, heq⟩ := nearestBits_eq hn hd
  rw [heq]
  rcases grid_of_mem hd hc hm hmem with ⟨hg, hr⟩ | ⟨rfl, hg, hr⟩
  · -- on the grid of `exp` the reader rounds to `mant` itself
    rw [hg] at hs ⊢
    obtain rfl := hs.unique hr
    rw [carry, if_neg hc.mant_lt.ne, if_neg (not_lt.2 hc.exp_le)]
  · -- one grid lower it rounds to `2 ^ 53`, and the carry brings it back
    rw [hg] at hs ⊢
    obtain rfl := hs.unique hr
    rw [carry, if_pos rfl, sub_add_cancel, if_neg (not_lt.2 hc.exp_le)]

/-- A rational that reads back as a positive double lies in its reading interval. -/
theorem mem_of_nearestBits {num den mant : ℕ} {exp : ℤ} (hd : 0 < den) (hc : Canonical mant exp)
    (hm : 0 < mant) (h : nearestBits num den = (magnitudeBits mant exp).toUInt64) :
    (readingInterval mant exp).Mem ((num : ℚ) / den) := by
  have hbits := magnitudeBits_lt_infinity hc
  have hbits' : (magnitudeBits mant exp).toUInt64.toNat = magnitudeBits mant exp :=
    UInt64.toNat_ofNat_of_lt' (by unfold UInt64.size; omega)
  have hn : 0 < num := by
    rcases Nat.eq_zero_or_pos num with h0 | h0
    · rw [h0, nearestBits_zero] at h
      have := congrArg UInt64.toNat h
      rw [hbits', UInt64.toNat_zero] at this
      have := magnitudeBits_pos hc hm
      omega
    · exact h0
  obtain ⟨s, hs, heq⟩ := nearestBits_eq hn hd
  rw [heq] at h
  split at h
  · -- infinity is not a finite double
    have := congrArg UInt64.toNat h
    rw [hbits'] at this
    simp at this
    omega
  · rename_i hle
    have hcan := canonical_carry hn hd hs (not_lt.1 hle)
    have hmag : magnitudeBits (carry s (gridExp num den)).1 (carry s (gridExp num den)).2 =
        magnitudeBits mant exp := by
      have := congrArg UInt64.toNat h
      rwa [hbits', UInt64.toNat_ofNat_of_lt'
        (by have := magnitudeBits_lt_infinity hcan; unfold UInt64.size; omega)] at this
    obtain ⟨hm', he'⟩ := magnitudeBits_inj hcan hc hmag
    have hpos : 0 < s := by
      unfold carry at hm'
      split at hm' <;> omega
    rw [← hm', ← he']
    exact mem_of_grid hn hd hs hpos

/-! ## The sign -/

/-- The bits of the double nearest to `±num / den`, as `nearest` builds them. -/
def signedNearestBits (negative : Bool) (num den : ℕ) : UInt64 :=
  if negative then nearestBits num den ||| 0x8000000000000000 else nearestBits num den

theorem nearest_eq_ofBits (negative : Bool) (num den : ℕ) :
    nearest negative num den = Float.ofBits (signedNearestBits negative num den) := rfl

/-- The reader never sets the sign bit. -/
theorem nearestBits_lt (num den : ℕ) : (nearestBits num den).toNat < 2 ^ 63 := by
  rcases Nat.eq_zero_or_pos num with rfl | hn
  · rw [nearestBits_zero]
    decide
  rcases Nat.eq_zero_or_pos den with rfl | hd
  · unfold nearestBits
    simp
  obtain ⟨s, hs, heq⟩ := nearestBits_eq hn hd
  rw [heq]
  split
  · decide
  · rename_i hle
    have hcan := canonical_carry hn hd hs (not_lt.1 hle)
    have := magnitudeBits_lt_infinity hcan
    rw [UInt64.toNat_ofNat_of_lt' (by unfold UInt64.size; omega)]
    omega

theorem signedNearestBits_toNat (negative : Bool) (num den : ℕ) :
    (signedNearestBits negative num den).toNat =
      (if negative then 2 ^ 63 else 0) + (nearestBits num den).toNat := by
  unfold signedNearestBits
  split
  · rw [UInt64.toNat_or, show (0x8000000000000000 : UInt64).toNat = 2 ^ 63 * 1 from rfl,
      Nat.or_comm, ← Nat.two_pow_add_eq_or_of_lt (nearestBits_lt num den), Nat.mul_one]
  · rw [Nat.zero_add]

/-- Zero reads back as the zero of its sign. -/
theorem signedNearestBits_zero {b : UInt64} {negative : Bool}
    (hb : Binary.ofBits b = .zero negative) (den : ℕ) : signedNearestBits negative 0 den = b := by
  rw [← UInt64.toNat_inj, signedNearestBits_toNat, nearestBits_zero, (ofBits_eq_zero_iff b).1 hb,
    UInt64.toNat_zero, Nat.add_zero]

/-- A rational reads back as a finite double exactly when it has the double's sign and lies in
its reading interval. -/
theorem signedNearestBits_eq_iff {b : UInt64} {negative : Bool} {mant : ℕ} {exp : ℤ}
    {powerOfTwoNormal : Bool} (hb : Binary.ofBits b = .finite negative mant exp powerOfTwoNormal)
    (neg : Bool) {num den : ℕ} (hd : 0 < den) :
    signedNearestBits neg num den = b ↔
      neg = negative ∧ (readingInterval mant exp).Mem ((num : ℚ) / den) := by
  obtain ⟨hc, hm, -, hbits⟩ := (ofBits_eq_finite_iff b).1 hb
  have hlt := magnitudeBits_lt_infinity hc
  have hnear := nearestBits_lt num den
  have hround : (magnitudeBits mant exp).toUInt64.toNat = magnitudeBits mant exp :=
    UInt64.toNat_ofNat_of_lt' (by unfold UInt64.size; omega)
  -- the sign bit and the magnitude bits are compared apart
  have hsplit : signedNearestBits neg num den = b ↔
      neg = negative ∧ nearestBits num den = (magnitudeBits mant exp).toUInt64 := by
    rw [← UInt64.toNat_inj, signedNearestBits_toNat, hbits, ← UInt64.toNat_inj, hround]
    cases neg <;> cases negative <;> simp <;> omega
  rw [hsplit]
  exact and_congr_right fun _ ↦
    ⟨mem_of_nearestBits hd hc hm, nearestBits_of_mem hd hc hm⟩

end MetricsNode.Decimal
