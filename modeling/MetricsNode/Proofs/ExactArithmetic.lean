import Mathlib
import MetricsNode.Decimal.Read

/-!
# The exact arithmetic of reading and writing doubles

The writer and the reader of doubles run on natural numbers: a point `x * 2 ^ e` of the binary
grid or `c * 10 ^ p` of a decimal grid is a ratio of two naturals, compared by clearing
denominators, and divisions are floors. This module gives each of those computations its meaning
over `ℚ`, so that the proofs about the writer and the reader can argue about rationals:

* a ratio is the rational `num / den`, and its order is the order of rationals;
* the interval of a double is a set of rationals around the double, closed or open;
* `floorLog10` and `floorLog2` bracket a rational between consecutive powers;
* `roundHalfEven` rounds a rational to the nearest natural, a tie going to the even one;
* measured in steps of its own grid `2 ^ exp`, the interval of `mant * 2 ^ exp` is the set of
  rationals that round half-even to `mant`, widened below by a quarter step at a power of two.
-/

namespace MetricsNode.Decimal

/-! ## Powers with an integer exponent -/

theorem zpow_eq_pow_toNat {q : ℚ} {e : ℤ} (he : 0 ≤ e) : q ^ e = q ^ e.toNat := by
  rw [← zpow_natCast, Int.toNat_of_nonneg he]

theorem zpow_eq_inv_pow_toNat {q : ℚ} {e : ℤ} (he : e < 0) : q ^ e = (q ^ (-e).toNat)⁻¹ := by
  rw [← zpow_natCast, Int.toNat_of_nonneg (by omega), ← zpow_neg, neg_neg]

theorem div_two_zpow_sub_one (q : ℚ) (e : ℤ) : q / 2 ^ (e - 1) = 2 * (q / 2 ^ e) := by
  rw [zpow_sub_one₀ two_ne_zero]
  field_simp

theorem div_two_zpow_add_one (q : ℚ) (e : ℤ) : q / 2 ^ (e + 1) = q / 2 ^ e / 2 := by
  rw [zpow_add_one₀ two_ne_zero, div_div]

/-! ## Ratios -/

/-- The value of a ratio. -/
def Ratio.val (r : Ratio) : ℚ := r.num / r.den

theorem Ratio.den_ofBinary_pos (x : ℕ) (e : ℤ) : 0 < (Ratio.ofBinary x e).den := by
  unfold Ratio.ofBinary
  split <;> simp only [Nat.pow_eq] <;> positivity

theorem Ratio.den_ofDecimal_pos (c : ℕ) (p : ℤ) : 0 < (Ratio.ofDecimal c p).den := by
  unfold Ratio.ofDecimal
  split <;> simp only [Nat.pow_eq] <;> positivity

theorem Ratio.val_ofBinary (x : ℕ) (e : ℤ) : (Ratio.ofBinary x e).val = x * (2 : ℚ) ^ e := by
  unfold Ratio.ofBinary val
  split
  · rename_i he
    rw [zpow_eq_pow_toNat he]
    push_cast [Nat.pow_eq]
    ring
  · rename_i he
    rw [zpow_eq_inv_pow_toNat (by omega)]
    push_cast [Nat.pow_eq]
    ring

theorem Ratio.val_ofDecimal (c : ℕ) (p : ℤ) : (Ratio.ofDecimal c p).val = c * (10 : ℚ) ^ p := by
  unfold Ratio.ofDecimal val
  split
  · rename_i hp
    rw [zpow_eq_pow_toNat hp]
    push_cast [Nat.pow_eq]
    ring
  · rename_i hp
    rw [zpow_eq_inv_pow_toNat (by omega)]
    push_cast [Nat.pow_eq]
    ring

theorem Ratio.lt_eq_true_iff {a b : Ratio} (ha : 0 < a.den) (hb : 0 < b.den) :
    a.lt b = true ↔ a.val < b.val := by
  have ha' : (0 : ℚ) < a.den := by exact_mod_cast ha
  have hb' : (0 : ℚ) < b.den := by exact_mod_cast hb
  rw [Ratio.lt, decide_eq_true_iff, val, val, div_lt_div_iff₀ ha' hb']
  exact_mod_cast Iff.rfl

theorem Ratio.le_eq_true_iff {a b : Ratio} (ha : 0 < a.den) (hb : 0 < b.den) :
    a.le b = true ↔ a.val ≤ b.val := by
  have ha' : (0 : ℚ) < a.den := by exact_mod_cast ha
  have hb' : (0 : ℚ) < b.den := by exact_mod_cast hb
  rw [Ratio.le, decide_eq_true_iff, val, val, div_le_div_iff₀ ha' hb']
  exact_mod_cast Iff.rfl

/-! ## The interval of a double -/

namespace Interval

variable (i : Interval)

/-- The double itself. -/
def center : ℚ := i.mant * (2 : ℚ) ^ i.exp

/-- The lower end of the interval. -/
def lower : ℚ := ((i.mant - i.minus : ℕ) : ℚ) * (2 : ℚ) ^ i.exp

/-- The upper end of the interval. -/
def upper : ℚ := ((i.mant + i.plus : ℕ) : ℚ) * (2 : ℚ) ^ i.exp

/-- A rational lies in the interval: between its ends, which belong to it when the interval is
inclusive. -/
def Mem (y : ℚ) : Prop :=
  if i.inclusive then i.lower ≤ y ∧ y ≤ i.upper else i.lower < y ∧ y < i.upper

/-- An interval whose ends lie on both sides of the double, the lower one above zero. -/
structure Proper : Prop where
  minus_pos : 0 < i.minus
  minus_lt : i.minus < i.mant
  plus_pos : 0 < i.plus

variable {i}

theorem value_val : i.value.val = i.center := Ratio.val_ofBinary _ _

theorem contains_iff (c : ℕ) (p : ℤ) : i.contains c p = true ↔ i.Mem (c * (10 : ℚ) ^ p) := by
  have hd := Ratio.den_ofDecimal_pos c p
  have hlo := Ratio.den_ofBinary_pos (i.mant - i.minus) i.exp
  have hhi := Ratio.den_ofBinary_pos (i.mant + i.plus) i.exp
  unfold contains Mem lower upper
  cases i.inclusive <;>
    simp [Ratio.lt_eq_true_iff, Ratio.le_eq_true_iff, hd, hlo, hhi, Ratio.val_ofDecimal,
      Ratio.val_ofBinary]

theorem Proper.lower_pos (h : i.Proper) : 0 < i.lower := by
  have : 0 < i.mant - i.minus := Nat.sub_pos_of_lt h.minus_lt
  unfold lower
  positivity

theorem Proper.lower_lt_center (h : i.Proper) : i.lower < i.center := by
  unfold lower center
  have hlt : ((i.mant - i.minus : ℕ) : ℚ) < i.mant := by
    exact_mod_cast Nat.sub_lt (by have := h.minus_lt; omega) h.minus_pos
  exact mul_lt_mul_of_pos_right hlt (by positivity)

theorem Proper.center_lt_upper (h : i.Proper) : i.center < i.upper := by
  unfold upper center
  have hlt : (i.mant : ℚ) < ((i.mant + i.plus : ℕ) : ℚ) := by
    exact_mod_cast Nat.lt_add_of_pos_right h.plus_pos
  exact mul_lt_mul_of_pos_right hlt (by positivity)

theorem Proper.mem_center (h : i.Proper) : i.Mem i.center := by
  unfold Mem
  have h₁ := h.lower_lt_center
  have h₂ := h.center_lt_upper
  split
  · exact ⟨h₁.le, h₂.le⟩
  · exact ⟨h₁, h₂⟩

theorem Mem.lower_le {y : ℚ} (h : i.Mem y) : i.lower ≤ y := by
  unfold Mem at h
  split at h
  · exact h.1
  · exact h.1.le

/-- The interval is convex: what lies between two of its points lies in it. -/
theorem Mem.of_between {a b y : ℚ} (ha : i.Mem a) (hb : i.Mem b) (hay : a ≤ y) (hyb : y ≤ b) :
    i.Mem y := by
  unfold Mem at *
  split at ha
  · rename_i hinc
    rw [if_pos hinc] at hb ⊢
    exact ⟨ha.1.trans hay, hyb.trans hb.2⟩
  · rename_i hinc
    rw [if_neg hinc] at hb ⊢
    exact ⟨ha.1.trans_le hay, hyb.trans_lt hb.2⟩

theorem Mem.pos (h : i.Proper) {y : ℚ} (hy : i.Mem y) : 0 < y :=
  h.lower_pos.trans_le hy.lower_le

variable {mant : ℕ} {exp : ℤ} {p2 : Bool}

theorem proper_ofBinary (hm : 0 < mant) : (ofBinary mant exp p2).Proper := by
  unfold ofBinary
  split <;> exact ⟨by simp, by simp; omega, by simp⟩

theorem center_ofBinary : (ofBinary mant exp p2).center = mant * (2 : ℚ) ^ exp := by
  unfold ofBinary center
  split
  · simp only [Nat.cast_mul, Nat.cast_ofNat]
    rw [zpow_sub₀ two_ne_zero]
    ring
  · simp only [Nat.cast_mul, Nat.cast_ofNat]
    rw [zpow_sub₀ two_ne_zero]
    ring

end Interval

/-! ## Powers around a rational -/

theorem digitCount_spec {n : ℕ} (hn : 0 < n) :
    10 ^ (digitCount n - 1) ≤ n ∧ n < 10 ^ digitCount n := by
  have hlen : digitCount n = (Nat.toDigits 10 n).length := rfl
  have hpos : 0 < digitCount n := Nat.length_toDigits_pos
  refine ⟨?_, (Nat.length_toDigits_le_iff (by decide) hpos).1 le_rfl⟩
  rcases Nat.lt_or_ge 1 (digitCount n) with h | h
  · -- more than one digit: one digit fewer would not do
    refine Nat.le_of_not_lt fun hlt ↦ ?_
    have hfew := (Nat.length_toDigits_le_iff (by decide) (by omega)).2 hlt
    omega
  · rw [show digitCount n - 1 = 0 by omega, Nat.pow_zero]
    exact hn

/-- The whole part of a positive fraction, and the fraction between it and the next natural. -/
theorem div_bracket (a : ℕ) {b : ℕ} (hb : 0 < b) :
    ((a / b : ℕ) : ℚ) ≤ (a : ℚ) / b ∧ (a : ℚ) / b < ((a / b : ℕ) : ℚ) + 1 := by
  have hbq : (0 : ℚ) < b := by exact_mod_cast hb
  constructor
  · rw [le_div_iff₀ hbq]
    exact_mod_cast Nat.div_mul_le_self a b
  · rw [div_lt_iff₀ hbq]
    have := @Nat.lt_div_mul_add a b hb
    exact_mod_cast (by linarith [this] : a < (a / b + 1) * b)

theorem ten_zpow_natCast_sub_one {d : ℕ} (hd : 1 ≤ d) :
    (10 : ℚ) ^ ((d : ℤ) - 1) = ((10 ^ (d - 1) : ℕ) : ℚ) := by
  rw [show (d : ℤ) - 1 = ((d - 1 : ℕ) : ℤ) by omega, zpow_natCast]
  push_cast
  rfl

/-- `floorLog10` brackets a positive ratio between consecutive powers of ten. -/
theorem floorLog10_spec {r : Ratio} (hn : 0 < r.num) (hd : 0 < r.den) :
    (10 : ℚ) ^ floorLog10 r ≤ r.val ∧ r.val < (10 : ℚ) ^ (floorLog10 r + 1) := by
  have hnq : (0 : ℚ) < r.num := by exact_mod_cast hn
  have hdq : (0 : ℚ) < r.den := by exact_mod_cast hd
  unfold floorLog10
  split
  · -- at least one: count the digits of the whole part
    rename_i hle
    obtain ⟨hlo, hhi⟩ := digitCount_spec (Nat.div_pos hle hd)
    obtain ⟨hfloor, hceil⟩ := div_bracket r.num hd
    set d := digitCount (r.num / r.den)
    have hd1 : 1 ≤ d := by
      rcases Nat.eq_zero_or_pos d with h | h
      · rw [h, Nat.pow_zero] at hhi
        have := Nat.div_pos hle hd
        omega
      · exact h
    rw [sub_add_cancel, zpow_natCast, ten_zpow_natCast_sub_one hd1]
    constructor
    · exact (by exact_mod_cast hlo : ((10 ^ (d - 1) : ℕ) : ℚ) ≤ _).trans hfloor
    · exact hceil.trans_le (by exact_mod_cast hhi)
  · -- below one: count the digits of the inverse
    rename_i hlt
    obtain ⟨hlo, hhi⟩ := digitCount_spec (Nat.div_pos (by omega) hn : 0 < r.den / r.num)
    obtain ⟨hfloor, hceil⟩ := div_bracket r.den hn
    set d := digitCount (r.den / r.num)
    have hd1 : 1 ≤ d := by
      rcases Nat.eq_zero_or_pos d with h | h
      · rw [h, Nat.pow_zero] at hhi
        have : 0 < r.den / r.num := Nat.div_pos (by omega) hn
        omega
      · exact h
    have hinv : r.val = ((r.den : ℚ) / r.num)⁻¹ := by rw [Ratio.val, inv_div]
    have hspos : (0 : ℚ) < (r.den : ℚ) / r.num := by positivity
    dsimp only
    split
    · -- the inverse is exactly a power of ten
      rename_i hexact
      have hs : (r.den : ℚ) / r.num = ((10 ^ (d - 1) : ℕ) : ℚ) := by
        apply le_antisymm
        · rw [div_le_iff₀ hnq]
          exact_mod_cast (by simpa [Nat.pow_eq, mul_comm] using hexact)
        · exact (by exact_mod_cast hlo : ((10 ^ (d - 1) : ℕ) : ℚ) ≤ _).trans hfloor
      have hval : r.val = (10 : ℚ) ^ (-((d : ℤ) - 1)) := by
        rw [hinv, hs, zpow_neg, ten_zpow_natCast_sub_one hd1]
      rw [hval]
      exact ⟨le_rfl, zpow_lt_zpow_right₀ (by norm_num) (lt_add_one _)⟩
    · rename_i hinexact
      have hs : ((10 ^ (d - 1) : ℕ) : ℚ) < (r.den : ℚ) / r.num := by
        rw [lt_div_iff₀ hnq]
        exact_mod_cast (by simpa [Nat.pow_eq, mul_comm] using hinexact)
      have hs' : (r.den : ℚ) / r.num < ((10 ^ d : ℕ) : ℚ) :=
        hceil.trans_le (by exact_mod_cast hhi)
      rw [hinv, show -(d : ℤ) + 1 = -((d : ℤ) - 1) by ring, zpow_neg, zpow_neg,
        ten_zpow_natCast_sub_one hd1, zpow_natCast]
      constructor
      · rw [inv_le_inv₀ (by positivity) hspos]
        exact_mod_cast hs'.le
      · rw [inv_lt_inv₀ hspos (by positivity)]
        exact hs

/-- `floorLog2` brackets a positive fraction between consecutive powers of two. -/
theorem floorLog2_spec {num den : ℕ} (hn : 0 < num) (hd : 0 < den) :
    (2 : ℚ) ^ floorLog2 num den ≤ (num : ℚ) / den ∧
      (num : ℚ) / den < (2 : ℚ) ^ (floorLog2 num den + 1) := by
  have hnq : (0 : ℚ) < num := by exact_mod_cast hn
  have hdq : (0 : ℚ) < den := by exact_mod_cast hd
  -- each of `num` and `den` lies between consecutive powers of two
  have hnum : (2 : ℚ) ^ num.log2 ≤ num ∧ (num : ℚ) < 2 ^ (num.log2 + 1) := by
    constructor
    · exact_mod_cast Nat.log2_self_le (by omega)
    · exact_mod_cast Nat.lt_log2_self
  have hden : (2 : ℚ) ^ den.log2 ≤ den ∧ (den : ℚ) < 2 ^ (den.log2 + 1) := by
    constructor
    · exact_mod_cast Nat.log2_self_le (by omega)
    · exact_mod_cast Nat.lt_log2_self
  set l : ℤ := (num.log2 : ℤ) - den.log2 with hl
  -- so the fraction lies strictly between `2 ^ (l - 1)` and `2 ^ (l + 1)`
  have hlow : (2 : ℚ) ^ (l - 1) < (num : ℚ) / den := by
    rw [lt_div_iff₀ hdq]
    calc (2 : ℚ) ^ (l - 1) * den < 2 ^ (l - 1) * 2 ^ (den.log2 + 1) := by gcongr; exact hden.2
      _ = 2 ^ num.log2 := by
          rw [← zpow_natCast, ← zpow_add₀ two_ne_zero, ← zpow_natCast]
          congr 1
          push_cast
          ring
      _ ≤ num := hnum.1
  have hhigh : (num : ℚ) / den < (2 : ℚ) ^ (l + 1) := by
    rw [div_lt_iff₀ hdq]
    calc (num : ℚ) < 2 ^ (num.log2 + 1) := hnum.2
      _ = 2 ^ (l + 1) * 2 ^ den.log2 := by
          rw [← zpow_natCast, ← zpow_natCast, ← zpow_add₀ two_ne_zero]
          congr 1
          push_cast
          ring
      _ ≤ 2 ^ (l + 1) * den := by gcongr; exact hden.1
  -- `fits` decides between the two candidates
  have hfits : (if 0 ≤ l then den * Nat.pow 2 l.toNat ≤ num else den ≤ num * Nat.pow 2 (-l).toNat)
      ↔ (2 : ℚ) ^ l ≤ (num : ℚ) / den := by
    rw [le_div_iff₀ hdq]
    split
    · rename_i hl0
      rw [zpow_eq_pow_toNat hl0, Nat.pow_eq, mul_comm]
      exact_mod_cast Iff.rfl
    · rename_i hl0
      rw [zpow_eq_inv_pow_toNat (by omega), Nat.pow_eq, inv_mul_le_iff₀ (by positivity),
        Nat.mul_comm num]
      exact_mod_cast Iff.rfl
  unfold floorLog2
  simp only [← hl]
  by_cases h : (2 : ℚ) ^ l ≤ (num : ℚ) / den
  · rw [if_pos (hfits.2 h)]
    exact ⟨h, hhigh⟩
  · rw [if_neg (mt hfits.1 h), sub_add_cancel]
    exact ⟨hlow.le, lt_of_not_ge h⟩

/-- The floor of the binary logarithm lies between any two powers that bracket the fraction. -/
theorem floorLog2_between {num den : ℕ} (hn : 0 < num) (hd : 0 < den) {a b : ℤ}
    (ha : (2 : ℚ) ^ a ≤ (num : ℚ) / den) (hb : (num : ℚ) / den < 2 ^ b) :
    a ≤ floorLog2 num den ∧ floorLog2 num den < b := by
  obtain ⟨hlo, hhi⟩ := floorLog2_spec hn hd
  constructor
  · have := (zpow_lt_zpow_iff_right₀ (by norm_num : (1 : ℚ) < 2)).1 (ha.trans_lt hhi)
    omega
  · exact (zpow_lt_zpow_iff_right₀ (by norm_num : (1 : ℚ) < 2)).1 (hlo.trans_lt hb)

/-! ## Rounding to a natural, ties to even -/

/-- `m` is `t` rounded to the nearest natural, a tie going to the even one. -/
def RoundsHalfEven (t : ℚ) (m : ℕ) : Prop :=
  (m : ℚ) - 1 / 2 ≤ t ∧ t ≤ m + 1 / 2 ∧ (t = m - 1 / 2 → Even m) ∧ (t = m + 1 / 2 → Even m)

/-- A rational rounds to one natural at most. -/
theorem RoundsHalfEven.unique {t : ℚ} {m m' : ℕ} (h : RoundsHalfEven t m)
    (h' : RoundsHalfEven t m') : m = m' := by
  obtain ⟨h₁, h₂, h₃, h₄⟩ := h
  obtain ⟨h₁', h₂', h₃', h₄'⟩ := h'
  rcases lt_trichotomy m m' with hlt | heq | hgt
  · -- two neighbours: `t` is halfway between them, and both would be even
    have hm : (m : ℚ) + 1 ≤ m' := by exact_mod_cast hlt
    have ht : t = m + 1 / 2 := by linarith
    have ht' : t = m' - 1 / 2 := by linarith
    have hsucc : m' = m + 1 := by
      have : (m' : ℚ) = m + 1 := by linarith
      exact_mod_cast this
    have := h₄ ht
    have := h₃' ht'
    rw [hsucc, Nat.even_add_one] at this
    contradiction
  · exact heq
  · have hm : (m' : ℚ) + 1 ≤ m := by exact_mod_cast hgt
    have ht : t = m' + 1 / 2 := by linarith
    have ht' : t = m - 1 / 2 := by linarith
    have hsucc : m = m' + 1 := by
      have : (m : ℚ) = m' + 1 := by linarith
      exact_mod_cast this
    have := h₄' ht
    have := h₃ ht'
    rw [hsucc, Nat.even_add_one] at this
    contradiction

/-- `roundHalfEven` rounds to the nearest natural, a tie going to the even one. -/
theorem roundHalfEven_rounds (num : ℕ) {den : ℕ} (hd : 0 < den) :
    RoundsHalfEven ((num : ℚ) / den) (roundHalfEven num den) := by
  have hdq : (0 : ℚ) < den := by exact_mod_cast hd
  unfold roundHalfEven
  dsimp only
  set q := num / den
  set r := num % den
  -- the fraction is its whole part plus `r / den`
  have hsplit : (num : ℚ) / den = (q : ℚ) + (r : ℚ) / den := by
    have h : (q : ℚ) * den + r = num := by
      exact_mod_cast (by rw [Nat.mul_comm]; exact Nat.div_add_mod num den)
    rw [← h, add_div, mul_div_cancel_right₀ _ hdq.ne']
  have hr : (r : ℚ) < den := by exact_mod_cast Nat.mod_lt num hd
  split
  · -- more than half: round up, never a tie
    rename_i hup
    have hup' : (den : ℚ) < 2 * r := by exact_mod_cast hup
    have h1 : (1 : ℚ) / 2 < (r : ℚ) / den := by rw [lt_div_iff₀ hdq]; linarith
    have h2 : (r : ℚ) / den < 1 := by rw [div_lt_one hdq]; exact hr
    rw [hsplit]
    simp only [RoundsHalfEven, Nat.cast_add, Nat.cast_one]
    refine ⟨by linarith, by linarith, fun h ↦ by linarith, fun h ↦ by linarith⟩
  · split
    · -- exactly half: the even neighbour
      rename_i _ hhalf
      have hhalf' : ((r : ℚ)) / den = 1 / 2 := by
        rw [div_eq_iff hdq.ne']
        have : (2 : ℚ) * r = den := by exact_mod_cast hhalf
        linarith
      rw [hsplit, hhalf']
      rcases Nat.even_or_odd q with he | ho
      · rw [Nat.even_iff.1 he, Nat.add_zero]
        refine ⟨by linarith, le_rfl, fun h ↦ by linarith, fun _ ↦ he⟩
      · rw [Nat.odd_iff.1 ho]
        simp only [RoundsHalfEven, Nat.cast_add, Nat.cast_one]
        refine ⟨by linarith, by linarith, fun _ ↦ ho.add_one, fun h ↦ by linarith⟩
    · -- less than half: round down, never a tie
      rename_i hup hhalf
      have hlow : 2 * r < den := by omega
      have hlow' : (2 : ℚ) * r < den := by exact_mod_cast hlow
      have h1 : (r : ℚ) / den < 1 / 2 := by rw [div_lt_iff₀ hdq]; linarith
      have h0 : (0 : ℚ) ≤ (r : ℚ) / den := by positivity
      rw [hsplit]
      refine ⟨by linarith, by linarith, fun h ↦ by linarith, fun h ↦ by linarith⟩

/-! ## The interval in steps of its grid -/

namespace Interval

variable {mant : ℕ} {exp : ℤ} {p2 : Bool}

theorem lower_ofBinary (hm : 0 < mant) :
    (ofBinary mant exp p2).lower = (mant - if p2 then 1 / 4 else 1 / 2) * (2 : ℚ) ^ exp := by
  unfold ofBinary lower
  split
  · dsimp only
    rw [Nat.cast_sub (by omega), zpow_sub₀ two_ne_zero]
    push_cast
    ring
  · dsimp only
    rw [Nat.cast_sub (by omega), zpow_sub₀ two_ne_zero]
    push_cast
    ring

theorem upper_ofBinary : (ofBinary mant exp p2).upper = (mant + 1 / 2) * (2 : ℚ) ^ exp := by
  unfold ofBinary upper
  split
  · rw [zpow_sub₀ two_ne_zero]
    push_cast
    ring
  · rw [zpow_sub₀ two_ne_zero]
    push_cast
    ring

theorem inclusive_ofBinary : (ofBinary mant exp p2).inclusive = decide (Even mant) := by
  unfold ofBinary
  split <;> exact Bool.eq_iff_iff.2 (by simp only [beq_iff_eq, decide_eq_true_eq, Nat.even_iff])

/-- Membership in the interval of `mant * 2 ^ exp`, measured in steps of the grid `2 ^ exp`:
within half a step of `mant` (a quarter step below a power of two), the ends counting for an
even `mant`. -/
theorem mem_ofBinary_iff (hm : 0 < mant) (y : ℚ) :
    (ofBinary mant exp p2).Mem y ↔
      if Even mant then
        (mant - if p2 then 1 / 4 else 1 / 2) ≤ y / 2 ^ exp ∧ y / 2 ^ exp ≤ mant + 1 / 2
      else (mant - if p2 then 1 / 4 else 1 / 2) < y / 2 ^ exp ∧ y / 2 ^ exp < mant + 1 / 2 := by
  have hpos : (0 : ℚ) < 2 ^ exp := by positivity
  unfold Mem
  rw [inclusive_ofBinary, lower_ofBinary hm, upper_ofBinary, le_div_iff₀ hpos,
    div_le_iff₀ hpos, lt_div_iff₀ hpos, div_lt_iff₀ hpos]
  simp only [decide_eq_true_eq]

/-- Without the power-of-two mark the interval is what rounds to `mant` on the grid `2 ^ exp`,
ties to even. -/
theorem mem_ofBinary_false_iff (hm : 0 < mant) (y : ℚ) :
    (ofBinary mant exp false).Mem y ↔ RoundsHalfEven (y / 2 ^ exp) mant := by
  rw [mem_ofBinary_iff hm]
  simp only [Bool.false_eq_true, if_false]
  unfold RoundsHalfEven
  split
  · rename_i he
    exact ⟨fun h ↦ ⟨h.1, h.2, fun _ ↦ he, fun _ ↦ he⟩, fun h ↦ ⟨h.1, h.2.1⟩⟩
  · rename_i he
    constructor
    · intro h
      exact ⟨h.1.le, h.2.le, fun h' ↦ absurd h' h.1.ne', fun h' ↦ absurd h' h.2.ne⟩
    · rintro ⟨h₁, h₂, h₃, h₄⟩
      exact ⟨lt_of_le_of_ne h₁ fun h ↦ he (h₃ h.symm), lt_of_le_of_ne h₂ fun h ↦ he (h₄ h)⟩

end Interval

end MetricsNode.Decimal
