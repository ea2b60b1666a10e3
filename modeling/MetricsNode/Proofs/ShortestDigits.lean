import MetricsNode.Proofs.NearestDouble

/-!
# The shortest digits of a double

The writer looks for the fewest significant digits of a point of the double's rounding interval:
it tries the decimal grids `10 ^ p` with one, two, … significant digits at the scale of the
double, and on each grid the two points around the double (`Interval.pick`). This module proves
that the search finds such a point, and that it finds it with no more digits than any other
point of the interval has.

The search rests on two facts about one grid. An interval that holds the double holds a point
of the grid exactly when it holds one of the two around the double, since it is convex
(`pick_eq_none_iff`). And a point of the interval with `k` significant digits puts a point of
the grid of `k` digits into the interval: itself when it lies above the power of ten below the
double, and that power of ten otherwise (`exists_mem_grid`). Seventeen digits always suffice
(`exists_mem_grid_seventeen`), so the fallback after the seventeenth grid is never taken.
-/

namespace MetricsNode.Decimal

/-- `y` is written with at most `k` significant decimal digits. -/
def SigDigits (y : ℚ) (k : ℕ) : Prop := ∃ (d : ℕ) (q : ℤ), y = d * 10 ^ q ∧ d < 10 ^ k

theorem SigDigits.mono {y : ℚ} {k k' : ℕ} (h : SigDigits y k) (hk : k ≤ k') : SigDigits y k' := by
  obtain ⟨d, q, rfl, hd⟩ := h
  exact ⟨d, q, rfl, hd.trans_le (Nat.pow_le_pow_right (by norm_num) hk)⟩

/-- A positive rational needs at least one digit. -/
theorem SigDigits.one_le {y : ℚ} {k : ℕ} (h : SigDigits y k) (hy : 0 < y) : 1 ≤ k := by
  obtain ⟨d, q, rfl, hd⟩ := h
  rcases Nat.eq_zero_or_pos k with rfl | hk
  · rw [Nat.pow_zero, Nat.lt_one_iff] at hd
    simp [hd] at hy
  · exact hk

/-- A grid point of at most `10 ^ k` has at most `k` significant digits: below `10 ^ k` its
digits are its own, and `10 ^ k` itself is one digit. -/
theorem sigDigits_of_le_pow {c k : ℕ} (hk : 1 ≤ k) (hc : c ≤ 10 ^ k) (p : ℤ) :
    SigDigits (c * 10 ^ p) k := by
  rcases Nat.lt_or_ge c (10 ^ k) with hck | hck
  · exact ⟨c, p, rfl, hck⟩
  · refine ⟨1, p + k, ?_, Nat.one_lt_pow (by omega) (by norm_num)⟩
    rw [Nat.le_antisymm hc hck, zpow_add₀ (by norm_num) p k, zpow_natCast]
    push_cast
    ring

/-- The value `digits * 10 ^ exp` of shortest digits. -/
def Digits.val (d : Digits) : ℚ := d.digits * 10 ^ d.exp

/-! ## Dropping trailing zeros -/

/-- The number of trailing zeros `Digits.normalize` drops. -/
def trailingZeros (c : ℕ) : ℕ := ((Nat.toDigits 10 c).reverse.takeWhile (· == '0')).length

/-- The trailing zeros of a number divide it: the last digit is its remainder by ten. -/
theorem pow_trailingZeros_dvd (c : ℕ) : 10 ^ trailingZeros c ∣ c := by
  induction c using Nat.strong_induction_on with
  | _ c ih =>
    rcases Nat.lt_or_ge c 10 with hc | hc
    · have : ∀ c < 10, 10 ^ trailingZeros c ∣ c := by decide
      exact this c hc
    · -- the digits of `c` are those of `c / 10` and then the digit `c % 10`
      have hdigits : Nat.toDigits 10 c = Nat.toDigits 10 (c / 10) ++ [Nat.digitChar (c % 10)] := by
        rw [← Nat.toDigits_of_lt_base (Nat.mod_lt c (by decide)),
          Nat.toDigits_append_toDigits (by decide) (Nat.div_pos hc (by decide))
            (Nat.mod_lt c (by decide)), Nat.div_add_mod]
      have hzero : ∀ d < 10, (Nat.digitChar d == '0') = decide (d = 0) := by decide
      unfold trailingZeros
      rw [hdigits, List.reverse_append, List.reverse_singleton, List.singleton_append,
        List.takeWhile_cons, hzero _ (Nat.mod_lt c (by decide))]
      by_cases h0 : c % 10 = 0
      · rw [decide_eq_true h0, if_pos rfl, List.length_cons]
        show 10 ^ (trailingZeros (c / 10) + 1) ∣ c
        calc 10 ^ (trailingZeros (c / 10) + 1) = 10 ^ trailingZeros (c / 10) * 10 := Nat.pow_succ _ _
          _ ∣ c / 10 * 10 := Nat.mul_dvd_mul_right (ih (c / 10) (by omega)) 10
          _ = c := by omega
      · rw [decide_eq_false h0]
        exact Nat.one_dvd c

/-- Dropping trailing zeros keeps the value. -/
theorem val_normalize (c : ℕ) (p : ℤ) : (Digits.normalize c p).val = c * 10 ^ p := by
  unfold Digits.normalize Digits.val
  split
  · rename_i h
    simp [h]
  · simp only [Nat.pow_eq]
    change ((c / 10 ^ trailingZeros c : ℕ) : ℚ) * 10 ^ (p + (trailingZeros c : ℤ)) = c * 10 ^ p
    rw [Nat.cast_div (pow_trailingZeros_dvd c) (by positivity), zpow_add₀ (by norm_num),
      zpow_natCast]
    push_cast
    field_simp

/-! ## One grid -/

namespace Interval

variable {i : Interval}

/-- The point of the grid `10 ^ p` at or below the double, as `pick` computes it. -/
def floorAt (i : Interval) (p : ℤ) : ℕ :=
  (i.value.num * (Ratio.ofDecimal 1 p).den) / (i.value.den * (Ratio.ofDecimal 1 p).num)

theorem floorAt_spec (i : Interval) (p : ℤ) :
    (i.floorAt p : ℚ) ≤ i.center / 10 ^ p ∧ i.center / 10 ^ p < i.floorAt p + 1 := by
  have hstep : 0 < (Ratio.ofDecimal 1 p).num := by
    unfold Ratio.ofDecimal
    split <;> simp only [Nat.pow_eq, Nat.one_mul] <;> positivity
  have hvd := Ratio.den_ofBinary_pos i.mant i.exp
  have hsd := Ratio.den_ofDecimal_pos 1 p
  have hval : ((i.value.num * (Ratio.ofDecimal 1 p).den : ℕ) : ℚ) /
      ((i.value.den * (Ratio.ofDecimal 1 p).num : ℕ) : ℚ) = i.center / 10 ^ p := by
    have hv := @value_val i
    have hs := Ratio.val_ofDecimal 1 p
    unfold Ratio.val at hv hs
    rw [← hv, Nat.cast_one, one_mul] at *
    rw [← hs]
    have : (0 : ℚ) < (Ratio.ofDecimal 1 p).num := by exact_mod_cast hstep
    have : (0 : ℚ) < i.value.den := by exact_mod_cast hvd
    have : (0 : ℚ) < (Ratio.ofDecimal 1 p).den := by exact_mod_cast hsd
    push_cast
    field_simp
  rw [← hval]
  exact div_bracket _ (Nat.mul_pos hvd hstep)

/-- On the grid of `n` digits at the scale `10 ^ t` of the double, the point below the double
is below `10 ^ n`. -/
theorem floorAt_lt_pow {t : ℤ} (ht : i.center < 10 ^ (t + 1)) (n : ℕ) :
    i.floorAt (t - n + 1) < 10 ^ n := by
  have hbound : i.center / 10 ^ (t - n + 1) < 10 ^ n := by
    rw [div_lt_iff₀ (by positivity)]
    calc i.center < 10 ^ (t + 1) := ht
      _ = 10 ^ n * 10 ^ (t - n + 1) := by
        rw [← zpow_natCast, ← zpow_add₀ (by norm_num)]
        congr 1
        ring
  exact_mod_cast (i.floorAt_spec (t - n + 1)).1.trans_lt hbound

/-- What `pick` can answer: nothing when neither grid point around the double reads back, and
otherwise one of them that does. -/
theorem pick_cases (i : Interval) (p : ℤ) :
    (i.pick p = none ∧ i.contains (i.floorAt p) p = false ∧
        i.contains (i.floorAt p + 1) p = false) ∨
      ∃ c, i.pick p = some c ∧ c ≤ i.floorAt p + 1 ∧ i.contains c p = true := by
  unfold pick
  dsimp only
  split_ifs with hboth hnear hup hdown
  · rw [Bool.and_eq_true] at hboth
    exact .inr ⟨_, rfl, le_rfl, hboth.2⟩
  · rw [Bool.and_eq_true] at hboth
    exact .inr ⟨_, rfl, Nat.le_succ _, hboth.1⟩
  · exact .inr ⟨_, rfl, le_rfl, hup⟩
  · exact .inr ⟨_, rfl, Nat.le_succ _, hdown⟩
  · exact .inl ⟨rfl, Bool.eq_false_iff.2 hdown, Bool.eq_false_iff.2 hup⟩

theorem pick_eq_some {p : ℤ} {c : ℕ} (h : i.pick p = some c) :
    i.Mem (c * 10 ^ p) ∧ c ≤ i.floorAt p + 1 := by
  rcases i.pick_cases p with ⟨hnone, -⟩ | ⟨c', hsome, hle, hc⟩
  · simp [hnone] at h
  · obtain rfl := Option.some.inj (hsome.symm.trans h)
    exact ⟨(contains_iff _ _).1 hc, hle⟩

/-- The interval holds a point of the grid `10 ^ p` exactly when `pick` finds one: by convexity,
a grid point in the interval below the double brings the one just below the double with it. -/
theorem pick_eq_none_iff (h : i.Proper) (p : ℤ) :
    i.pick p = none ↔ ∀ c : ℕ, ¬i.Mem (c * 10 ^ p) := by
  have hcenter := h.mem_center
  obtain ⟨hlo, hhi⟩ := i.floorAt_spec p
  have hpos : (0 : ℚ) < 10 ^ p := by positivity
  rcases i.pick_cases p with ⟨hnone, hdown, hup⟩ | ⟨c, hsome, -, hc⟩
  · refine ⟨fun _ c hc ↦ ?_, fun _ ↦ hnone⟩
    rw [← Bool.not_eq_true, contains_iff] at hdown hup
    rcases Nat.lt_or_ge (i.floorAt p) c with hlt | hle
    · -- above the double: the grid point just above lies between
      refine hup (Mem.of_between hcenter hc ?_ ?_)
      · have := (div_lt_iff₀ hpos).1 hhi
        push_cast
        linarith
      · have : ((i.floorAt p + 1 : ℕ) : ℚ) ≤ c := by exact_mod_cast hlt
        push_cast at this ⊢
        exact mul_le_mul_of_nonneg_right this hpos.le
    · -- at or below: the grid point just below lies between
      refine hdown (Mem.of_between hc hcenter ?_ ?_)
      · have : (c : ℚ) ≤ i.floorAt p := by exact_mod_cast hle
        exact mul_le_mul_of_nonneg_right this hpos.le
      · exact (le_div_iff₀ hpos).1 hlo
  · rw [contains_iff] at hc
    exact ⟨fun h ↦ by simp [h] at hsome, fun hall ↦ absurd hc (hall c)⟩

/-- Points strictly between the ends belong to the interval, closed or open. -/
theorem Mem.of_lt_of_lt {y : ℚ} (hlo : i.lower < y) (hhi : y < i.upper) : i.Mem y := by
  unfold Mem
  split
  · exact ⟨hlo.le, hhi.le⟩
  · exact ⟨hlo, hhi⟩

/-- A point of the interval with `k ≥ 1` significant digits puts a point of the grid of `k`
digits at the scale `10 ^ t` of the double into the interval: the point itself when it is not
below `10 ^ t`, and `10 ^ t` otherwise. -/
theorem exists_mem_grid (h : i.Proper) {t : ℤ} (ht : (10 : ℚ) ^ t ≤ i.center) {y : ℚ}
    (hy : i.Mem y) {k : ℕ} (hk : 1 ≤ k) (hd : SigDigits y k) :
    ∃ c : ℕ, i.Mem (c * 10 ^ (t - k + 1)) := by
  obtain ⟨d, q, rfl, hdk⟩ := hd
  by_cases hle : (10 : ℚ) ^ t ≤ d * 10 ^ q
  · -- the point is on the grid: `d < 10 ^ k` puts its exponent at or above `t - k + 1`
    have hq : t - k + 1 ≤ q := by
      have hdk' : (d : ℚ) < 10 ^ (k : ℤ) := by rw [zpow_natCast]; exact_mod_cast hdk
      have : (10 : ℚ) ^ t < 10 ^ ((k : ℤ) + q) := by
        rw [zpow_add₀ (by norm_num)]
        exact hle.trans_lt (mul_lt_mul_of_pos_right hdk' (by positivity))
      have := (zpow_lt_zpow_iff_right₀ (by norm_num : (1 : ℚ) < 10)).1 this
      omega
    refine ⟨d * 10 ^ (q - (t - k + 1)).toNat, ?_⟩
    have hexp : q = (q - (t - k + 1)).toNat + (t - k + 1) := by omega
    rw [hexp, zpow_add₀ (by norm_num), zpow_natCast] at hy
    push_cast
    rwa [mul_assoc]
  · -- below `10 ^ t`: then `10 ^ t` lies between the point and the double
    refine ⟨10 ^ (k - 1), ?_⟩
    have hpow : ((10 ^ (k - 1) : ℕ) : ℚ) * 10 ^ (t - k + 1) = 10 ^ t := by
      rw [Nat.cast_pow, Nat.cast_ofNat, ← zpow_natCast, ← zpow_add₀ (by norm_num)]
      congr 1
      omega
    rw [hpow]
    exact Mem.of_between hy h.mem_center (le_of_not_ge hle) ht

/-- Seventeen digits always suffice: the interval is wider than the grid of seventeen digits at
the scale of the double, since a significand of at most 53 bits is below `10 ^ 16`. -/
theorem exists_mem_grid_seventeen {mant : ℕ} {exp : ℤ} {p2 : Bool} (hm : 0 < mant)
    (hlt : mant < 2 ^ 53) (hp2 : p2 = true → mant = 2 ^ 52) {t : ℤ}
    (ht : (10 : ℚ) ^ t ≤ (ofBinary mant exp p2).center) :
    ∃ c : ℕ, (ofBinary mant exp p2).Mem (c * 10 ^ (t - 17 + 1)) := by
  set i := ofBinary mant exp p2
  have hpos : (0 : ℚ) < 10 ^ (t - 17 + 1) := by positivity
  have hlow := (@proper_ofBinary mant exp p2 hm).lower_pos
  -- the grid step is below the width of the interval
  have hstep : 10 ^ (t - 17 + 1) < i.upper - i.lower := by
    have h16 : (10 : ℚ) ^ (t - 17 + 1) = 10 ^ t / 10 ^ 16 := by
      rw [show t - 17 + 1 = t - 16 by ring, zpow_sub₀ (by norm_num)]
      norm_num
    have hmq : (mant : ℚ) < 2 ^ 53 := by exact_mod_cast hlt
    rw [h16, div_lt_iff₀ (by norm_num)]
    refine ht.trans_lt ?_
    rw [center_ofBinary, upper_ofBinary, lower_ofBinary hm]
    have h2 : (0 : ℚ) < 2 ^ exp := by positivity
    cases p2
    · simp only [Bool.false_eq_true, if_false]
      nlinarith
    · obtain rfl := hp2 rfl
      simp only [if_true]
      push_cast
      nlinarith
  -- the grid point just above the lower end is below the upper end
  set c := ⌊i.lower / 10 ^ (t - 17 + 1)⌋₊ + 1
  have hfloor := Nat.floor_le (div_pos hlow hpos).le
  have hceil := Nat.lt_floor_add_one (i.lower / 10 ^ (t - 17 + 1))
  refine ⟨c, Mem.of_lt_of_lt ?_ ?_⟩
  · have := (div_lt_iff₀ hpos).1 hceil
    push_cast [c]
    linarith
  · have := (le_div_iff₀ hpos).1 hfloor
    push_cast [c]
    nlinarith

/-! ## The search over the grids -/

variable {top : ℤ}

/-- The search over the grids of `a, a + 1, …` digits answers from the first grid where `pick`
finds a point. -/
theorem search_range'_eq_some {d : Digits} : ∀ {a m : ℕ},
    i.search top (List.range' a m) = some d →
      ∃ n c, a ≤ n ∧ n < a + m ∧ i.pick (top - n + 1) = some c ∧
        d = Digits.normalize c (top - n + 1) ∧ ∀ n', a ≤ n' → n' < n → i.pick (top - n' + 1) = none
  | _, 0, h => by simp [List.range', search] at h
  | a, m + 1, h => by
    rw [List.range'_succ, search] at h
    split at h
    · rename_i c hc
      exact ⟨a, c, le_rfl, by omega, hc, (Option.some.inj h).symm, fun n' h₁ h₂ ↦ by omega⟩
    · rename_i hc
      obtain ⟨n, c, h₁, h₂, hpick, hd, hbefore⟩ := search_range'_eq_some h
      refine ⟨n, c, by omega, by omega, hpick, hd, fun n' h₁' h₂' ↦ ?_⟩
      rcases Nat.eq_or_lt_of_le h₁' with rfl | hlt
      · exact hc
      · exact hbefore n' hlt h₂'

/-- The search answers once some grid it tries has a point. -/
theorem search_range'_ne_none {n : ℕ} (hpick : i.pick (top - n + 1) ≠ none) : ∀ {a m : ℕ},
    a ≤ n → n < a + m → i.search top (List.range' a m) ≠ none
  | _, 0, _, h₂ => by omega
  | a, m + 1, h₁, h₂ => by
    rw [List.range'_succ, search]
    split
    · simp
    · rename_i hc
      rcases Nat.eq_or_lt_of_le h₁ with rfl | hlt
      · exact absurd hc hpick
      · exact search_range'_ne_none hpick hlt (by omega)

/-! ## The shortest digits -/

theorem value_num_pos (h : 0 < i.mant) : 0 < i.value.num := by
  unfold value Ratio.ofBinary
  split <;> simp only [Nat.pow_eq] <;> positivity

/-- The scale of the double: the power of ten at or below it. -/
theorem floorLog10_value {mant : ℕ} {exp : ℤ} {p2 : Bool} (hm : 0 < mant) :
    (10 : ℚ) ^ floorLog10 (ofBinary mant exp p2).value ≤ (ofBinary mant exp p2).center ∧
      (ofBinary mant exp p2).center < 10 ^ (floorLog10 (ofBinary mant exp p2).value + 1) := by
  have hmant : 0 < (ofBinary mant exp p2).mant := by unfold ofBinary; split <;> simp [hm]
  rw [← value_val, Ratio.val]
  exact floorLog10_spec (value_num_pos hmant) (Ratio.den_ofBinary_pos _ _)

end Interval

theorem range_seventeen : (List.range 17).map (· + 1) = List.range' 1 17 := by decide

/-- The shortest digits of a positive double read back as the double, and have no more
significant digits than any point of its rounding interval. -/
theorem shortest_spec {mant : ℕ} {exp : ℤ} {p2 : Bool} (hm : 0 < mant) (hlt : mant < 2 ^ 53)
    (hp2 : p2 = true → mant = 2 ^ 52) :
    (Interval.ofBinary mant exp p2).Mem (shortest mant exp p2).val ∧
      SigDigits (shortest mant exp p2).val 17 ∧
      ∀ (y : ℚ) (k : ℕ), (Interval.ofBinary mant exp p2).Mem y → SigDigits y k →
        SigDigits (shortest mant exp p2).val k := by
  set i := Interval.ofBinary mant exp p2 with hi
  have hprop : i.Proper := Interval.proper_ofBinary hm
  obtain ⟨ht, ht'⟩ := @Interval.floorLog10_value mant exp p2 hm
  set top := floorLog10 i.value with htop
  -- the seventeenth grid has a point, so the search answers
  have h17 : i.pick (top - (17 : ℕ) + 1) ≠ none := by
    rw [ne_eq, Interval.pick_eq_none_iff hprop]
    obtain ⟨c, hc⟩ := Interval.exists_mem_grid_seventeen hm hlt hp2 ht
    exact fun hall ↦ hall c (by exact_mod_cast hc)
  have hsearch : i.search top (List.range' 1 17) ≠ none :=
    Interval.search_range'_ne_none h17 (by norm_num) (by norm_num)
  obtain ⟨d, hd⟩ := Option.ne_none_iff_exists'.1 hsearch
  obtain ⟨n, c, hn1, hn17, hpick, rfl, hbefore⟩ := Interval.search_range'_eq_some hd
  have hshort : shortest mant exp p2 = Digits.normalize c (top - n + 1) := by
    unfold shortest Interval.shortest
    rw [← hi, ← htop, range_seventeen]
    dsimp only
    rw [hd]
  rw [hshort, val_normalize]
  obtain ⟨hmem, hcle⟩ := Interval.pick_eq_some hpick
  -- the answer is at most `10 ^ n`, so it has at most `n` significant digits
  have hcn : c ≤ 10 ^ n := by
    have := i.floorAt_lt_pow ht' n
    omega
  have hdigits (k : ℕ) (hnk : n ≤ k) : SigDigits (c * 10 ^ (top - n + 1)) k :=
    sigDigits_of_le_pow (by omega) (hcn.trans (Nat.pow_le_pow_right (by norm_num) hnk)) _
  refine ⟨hmem, hdigits 17 (by omega), fun y k hy hdk ↦ hdigits k ?_⟩
  -- a point of the interval has no fewer digits than the search's answer
  have hk := hdk.one_le (hy.pos hprop)
  refine Nat.le_of_not_lt fun hlt ↦ ?_
  obtain ⟨c', hc'⟩ := Interval.exists_mem_grid hprop ht hy hk hdk
  exact (Interval.pick_eq_none_iff hprop _).1 (hbefore k hk hlt) c' hc'

/-- The grids of one to sixteen digits have no point that reads back as the least normal double
`2 ^ -1022`. -/
theorem least_normal_picks : ∀ k < 16,
    ((readingInterval (2 ^ 52) (-1074)).pick
      (floorLog10 (readingInterval (2 ^ 52) (-1074)).value - (k + 1 : ℕ) + 1)).isNone = true := by
  decide +kernel

/-- No decimal of sixteen significant digits or fewer reads back as the least normal double. -/
theorem seventeen_le_of_least_normal {y : ℚ} {k : ℕ}
    (hy : (readingInterval (2 ^ 52) (-1074)).Mem y) (hk : SigDigits y k) : 17 ≤ k := by
  set i := readingInterval (2 ^ 52) (-1074)
  have hprop : i.Proper := Interval.proper_ofBinary (by norm_num)
  obtain ⟨ht, -⟩ := @Interval.floorLog10_value (2 ^ 52) (-1074)
    (decide (2 ^ 52 = 2 ^ 52 ∧ (-1074 : ℤ) ≠ -1074)) (by norm_num)
  have hk1 := hk.one_le (hy.pos hprop)
  refine Nat.le_of_not_lt fun hlt ↦ ?_
  obtain ⟨c, hc⟩ := Interval.exists_mem_grid hprop ht hy hk1 hk
  have hnone := least_normal_picks (k - 1) (by omega)
  rw [Nat.sub_add_cancel hk1, Option.isNone_iff_eq_none,
    Interval.pick_eq_none_iff hprop] at hnone
  exact hnone c hc

/-- The writer's interval lies in the reading interval; they differ at the least normal double
only, where the writer halves the lower half-gap as if it were above a power of two. -/
theorem mem_reading_of_mem_writer {mant : ℕ} {exp : ℤ} (hm : 0 < mant) {y : ℚ}
    (h : (Interval.ofBinary mant exp (decide (mant = 2 ^ 52))).Mem y) :
    (readingInterval mant exp).Mem y := by
  unfold readingInterval
  by_cases hleast : mant = 2 ^ 52 ∧ exp = -1074
  · obtain ⟨rfl, rfl⟩ := hleast
    rw [decide_eq_true rfl, Interval.mem_ofBinary_iff hm] at h
    rw [decide_eq_false (by simp), Interval.mem_ofBinary_iff hm]
    have heven : Even (2 ^ 52 : ℕ) := Nat.even_pow.2 ⟨even_two, by norm_num⟩
    simp only [if_pos heven, if_true, Bool.false_eq_true, if_false] at h ⊢
    exact ⟨by linarith [h.1], h.2⟩
  · have : decide (mant = 2 ^ 52) = decide (mant = 2 ^ 52 ∧ exp ≠ -1074) := by
      by_cases hm52 : mant = 2 ^ 52 <;> simp_all
    rwa [← this]

/-- The shortest digits of a finite positive double read back as the double, have at most
seventeen significant digits, and no decimal that reads back as the double has fewer. -/
theorem shortest_reads_back {mant : ℕ} {exp : ℤ} (hc : Canonical mant exp) (hm : 0 < mant) :
    (readingInterval mant exp).Mem (shortest mant exp (decide (mant = 2 ^ 52))).val ∧
      SigDigits (shortest mant exp (decide (mant = 2 ^ 52))).val 17 ∧
      ∀ (y : ℚ) (k : ℕ), (readingInterval mant exp).Mem y → SigDigits y k →
        SigDigits (shortest mant exp (decide (mant = 2 ^ 52))).val k := by
  obtain ⟨hmem, h17, hmin⟩ := @shortest_spec mant exp (decide (mant = 2 ^ 52)) hm hc.mant_lt
    (fun h ↦ of_decide_eq_true h)
  refine ⟨mem_reading_of_mem_writer hm hmem, h17, fun y k hy hk ↦ ?_⟩
  by_cases hleast : mant = 2 ^ 52 ∧ exp = -1074
  · -- the least normal: every decimal reading back as it has seventeen digits
    obtain ⟨rfl, rfl⟩ := hleast
    exact h17.mono (seventeen_le_of_least_normal hy hk)
  · -- elsewhere the writer searches the reading interval itself
    refine hmin y k ?_ hk
    have : decide (mant = 2 ^ 52) = decide (mant = 2 ^ 52 ∧ exp ≠ -1074) := by
      by_cases hm52 : mant = 2 ^ 52 <;> simp_all
    unfold readingInterval at hy
    rwa [this]

end MetricsNode.Decimal
