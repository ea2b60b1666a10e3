import MetricsNode.Proofs.ShortestDigits
import MetricsNode.Proofs.ConfigBlocks

/-!
# Numbers as text

A value on the wire is written as `NaN`, `inf`, `-inf`, or a plain decimal numeral: an optional
minus sign, digits, and a point with more digits only when there is a fraction; never an
exponent. This module reads such text back (`readBack?`) and proves that every double reads
back from its text as itself, through the digits of the shortest decimal that does so.

The numeral of a finite double carries the sign bit, its value lies in the double's reading
interval, and no decimal that reads back as the double has fewer significant digits. The text of
a sample and of a range of normal values is built from these numerals, so a finite sample is
never written as unknown, and a range keeps its bounds apart with its one `:`.
-/

namespace MetricsNode.Decimal

/-! ## Plain decimal numerals -/

/-- A plain decimal numeral: an optional minus sign, the digits of the whole part, and the
digits after the point, if there is a fraction. -/
structure Numeral where
  negative : Bool
  whole : List Char
  frac : List Char
  whole_ne_nil : whole ≠ []
  whole_digits : ∀ c ∈ whole, c.isDigit = true
  frac_digits : ∀ c ∈ frac, c.isDigit = true

namespace Numeral

/-- The characters after the whole part: the point and the fraction, or nothing. -/
def fracChars (n : Numeral) : List Char := if n.frac = [] then [] else '.' :: n.frac

/-- The characters of the numeral. -/
def chars (n : Numeral) : List Char :=
  (if n.negative then ['-'] else []) ++ (n.whole ++ n.fracChars)

/-- The numeral as text. -/
def text (n : Numeral) : String := String.ofList n.chars

/-- The digits read as one natural, the point left out. -/
def digitValue (n : Numeral) : ℕ := Nat.ofDigitChars 10 (n.whole ++ n.frac) 0

/-- The magnitude the numeral denotes. -/
def magnitude (n : Numeral) : ℚ := n.digitValue / 10 ^ n.frac.length

/-- The bits of the double the numeral reads as: the nearest one, ties to even, with the
numeral's sign. -/
def readBits (n : Numeral) : UInt64 :=
  signedNearestBits n.negative n.digitValue (10 ^ n.frac.length)

/-! ## Reading a numeral -/

/-- The numeral with these parts, when they are digits and the whole part is not empty. -/
def mk? (negative : Bool) (whole frac : List Char) : Option Numeral :=
  if h : whole ≠ [] ∧ (∀ c ∈ whole, c.isDigit = true) ∧ ∀ c ∈ frac, c.isDigit = true then
    some ⟨negative, whole, frac, h.1, h.2.1, h.2.2⟩
  else none

/-- Reads the numeral after its sign: digits, then nothing or a point and more digits. -/
def ofChars? (negative : Bool) (cs : List Char) : Option Numeral :=
  match cs.dropWhile Char.isDigit with
  | [] => mk? negative (cs.takeWhile Char.isDigit) []
  | '.' :: frac => if frac = [] then none else mk? negative (cs.takeWhile Char.isDigit) frac
  | _ => none

/-- Reads a plain decimal numeral. -/
def parse? (s : String) : Option Numeral :=
  match s.toList with
  | '-' :: cs => ofChars? true cs
  | cs => ofChars? false cs

theorem mk?_parts (n : Numeral) : mk? n.negative n.whole n.frac = some n := by
  rw [mk?, dif_pos ⟨n.whole_ne_nil, n.whole_digits, n.frac_digits⟩]

/-- The whole part ends where the digits end: what follows it starts with the point. -/
theorem ofChars?_chars (n : Numeral) : ofChars? n.negative (n.whole ++ n.fracChars) = some n := by
  have hnot : ∀ a ∈ n.fracChars.head?, Char.isDigit a = false := by
    unfold fracChars
    split <;> simp
  have htake : (n.whole ++ n.fracChars).takeWhile Char.isDigit = n.whole := by
    rw [List.takeWhile_append_of_pos n.whole_digits]
    unfold fracChars at hnot ⊢
    split <;> simp_all
  have hdrop : (n.whole ++ n.fracChars).dropWhile Char.isDigit = n.fracChars := by
    rw [List.dropWhile_append_of_pos n.whole_digits]
    unfold fracChars at hnot ⊢
    split <;> simp_all
  unfold ofChars?
  rw [hdrop, htake]
  by_cases hf : n.frac = []
  · have hnil : n.fracChars = [] := if_pos hf
    rw [hnil]
    show mk? n.negative n.whole [] = some n
    rw [← hf, mk?_parts]
  · have hcons : n.fracChars = '.' :: n.frac := if_neg hf
    rw [hcons]
    show (if n.frac = [] then none else mk? n.negative n.whole n.frac) = some n
    rw [if_neg hf, mk?_parts]

/-- A numeral's text reads back as the numeral: the text of a numeral is unambiguous. -/
theorem parse?_text (n : Numeral) : parse? n.text = some n := by
  obtain ⟨w, ws, hw⟩ := List.exists_cons_of_ne_nil n.whole_ne_nil
  have hwd : w.isDigit = true := n.whole_digits w (by simp [hw])
  unfold parse? text
  rw [String.toList_ofList, chars]
  cases hneg : n.negative
  · -- no sign: the first character is a digit, not a minus sign
    rw [if_neg (by decide), List.nil_append, hw, List.cons_append]
    split
    · rename_i h
      simp only [List.cons.injEq] at h
      exact absurd (h.1 ▸ hwd) (by decide)
    · rw [← List.cons_append, ← hw, ← hneg, ofChars?_chars]
  · rw [if_pos rfl, List.singleton_append]
    show ofChars? true (n.whole ++ n.fracChars) = some n
    rw [← hneg, ofChars?_chars]

end Numeral

/-! ## The numeral of the positional layout -/

theorem ofDigitChars_replicate_zero (m init : ℕ) :
    Nat.ofDigitChars 10 (List.replicate m '0') init = init * 10 ^ m := by
  induction m generalizing init with
  | zero => rw [List.replicate_zero, Nat.ofDigitChars_nil, Nat.pow_zero, Nat.mul_one]
  | succ m ih =>
    rw [List.replicate_succ, Nat.ofDigitChars_cons, ih, Nat.sub_self, Nat.add_zero, Nat.pow_succ]
    ring

/-- Leading zeros do not change the value of digits. -/
theorem ofDigitChars_zeros_append (m : ℕ) (l : List Char) :
    Nat.ofDigitChars 10 (List.replicate m '0' ++ l) 0 = Nat.ofDigitChars 10 l 0 := by
  rw [Nat.ofDigitChars_append, ofDigitChars_replicate_zero, Nat.zero_mul]

theorem isDigit_of_mem_replicate {m : ℕ} {c : Char} (h : c ∈ List.replicate m '0') :
    c.isDigit = true := by
  rw [List.eq_of_mem_replicate h]
  decide

/-- The positional layout writes the digits `ds` with the point at `point` as a numeral whose
magnitude is the digits scaled by the point. -/
theorem exists_numeral_positional (negative : Bool) {ds : List Char} (hne : ds ≠ [])
    (hdig : ∀ c ∈ ds, c.isDigit = true) (point : ℤ) :
    ∃ n : Numeral, n.negative = negative ∧
      (if negative then "-" else "") ++ positional (String.ofList ds) point 0 = n.text ∧
      n.magnitude = Nat.ofDigitChars 10 ds 0 * 10 ^ (point - ds.length) := by
  unfold positional
  rw [String.length_ofList]
  by_cases hp : point ≤ 0
  · -- at or before the first digit: `0.`, zeros, then the digits
    rw [if_pos hp]
    set m := (-point).toNat
    have hfrac : ∀ c ∈ List.replicate m '0' ++ ds, c.isDigit = true := by
      intro c hc
      rcases List.mem_append.1 hc with hc | hc
      · exact isDigit_of_mem_replicate hc
      · exact hdig c hc
    refine ⟨⟨negative, ['0'], List.replicate m '0' ++ ds, by simp, by simp, hfrac⟩, rfl, ?_, ?_⟩
    · rw [← String.toList_inj]
      cases negative <;> simp [Numeral.text, Numeral.chars, Numeral.fracChars, zeros, hne]
    · unfold Numeral.magnitude Numeral.digitValue
      dsimp only
      rw [← List.replicate_one, ← List.append_assoc, ← List.replicate_add,
        ofDigitChars_zeros_append, List.length_append, List.length_replicate,
        show point - ds.length = -((m + ds.length : ℕ) : ℤ) by omega, zpow_neg, zpow_natCast,
        div_eq_mul_inv]
  · rw [if_neg hp]
    by_cases hlt : point.toNat < ds.length
    · -- inside the digits: the point splits them
      rw [if_pos hlt]
      set k := point.toNat
      have hwhole : ds.take k ≠ [] := by
        rw [ne_eq, List.take_eq_nil_iff, not_or]
        exact ⟨by omega, hne⟩
      have hrest : ds.drop k ≠ [] := by
        rw [ne_eq, List.drop_eq_nil_iff]
        omega
      refine ⟨⟨negative, ds.take k, ds.drop k, hwhole,
        fun c hc ↦ hdig c (List.mem_of_mem_take hc), fun c hc ↦ hdig c (List.mem_of_mem_drop hc)⟩,
        rfl, ?_, ?_⟩
      · rw [← String.toList_inj]
        cases negative <;> simp [Numeral.text, Numeral.chars, Numeral.fracChars, zeros, hrest]
      · unfold Numeral.magnitude Numeral.digitValue
        dsimp only
        rw [List.take_append_drop, List.length_drop,
          show point - ds.length = -((ds.length - k : ℕ) : ℤ) by omega, zpow_neg, zpow_natCast,
          div_eq_mul_inv]
    · -- after the digits: zeros up to the point, no fraction
      rw [if_neg hlt]
      set k := point.toNat
      have hwhole : ∀ c ∈ ds ++ List.replicate (k - ds.length) '0', c.isDigit = true := by
        intro c hc
        rcases List.mem_append.1 hc with hc | hc
        · exact hdig c hc
        · exact isDigit_of_mem_replicate hc
      refine ⟨⟨negative, ds ++ List.replicate (k - ds.length) '0', [], by simp [hne], hwhole,
        by simp⟩, rfl, ?_, ?_⟩
      · rw [if_pos rfl, ← String.toList_inj]
        cases negative <;> simp [Numeral.text, Numeral.chars, Numeral.fracChars, zeros]
      · unfold Numeral.magnitude Numeral.digitValue
        dsimp only
        rw [List.append_nil, Nat.ofDigitChars_append, ofDigitChars_replicate_zero,
          show point - ds.length = ((k - ds.length : ℕ) : ℤ) by omega, zpow_natCast]
        push_cast
        simp

/-! ## Reading text back -/

/-- Reads text back as the double it denotes: `NaN`, the infinities, or a plain decimal numeral
read to the nearest double. -/
def readBack? (s : String) : Option Binary :=
  if s = "NaN" then some .nan
  else if s = "inf" then some (.infinite false)
  else if s = "-inf" then some (.infinite true)
  else (Numeral.parse? s).map fun n ↦ Binary.ofBits n.readBits

namespace Numeral

/-- A numeral starts with a digit, or with a minus sign and a digit. -/
theorem chars_cases (n : Numeral) :
    ∃ w rest, w.isDigit = true ∧ (n.chars = w :: rest ∨ n.chars = '-' :: w :: rest) := by
  obtain ⟨w, ws, hw⟩ := List.exists_cons_of_ne_nil n.whole_ne_nil
  refine ⟨w, ws ++ n.fracChars, n.whole_digits w (by simp [hw]), ?_⟩
  unfold chars
  cases n.negative <;> simp [hw]

/-- No numeral is written like a text that starts with a character other than a digit or a
minus sign, or with a minus sign and then no digit. -/
theorem text_ne {n : Numeral} {s : String} {c : Char} {cs : List Char} (hs : s.toList = c :: cs)
    (hc : c.isDigit = false) (hm : c = '-' → ∀ d ds, cs = d :: ds → d.isDigit = false) :
    n.text ≠ s := by
  intro h
  rw [← h, text, String.toList_ofList] at hs
  obtain ⟨w, rest, hw, hch⟩ := n.chars_cases
  rcases hch with h1 | h1 <;> rw [h1, List.cons.injEq] at hs
  · rw [hs.1, hc] at hw
    exact Bool.false_ne_true hw
  · rw [hm hs.1.symm w rest hs.2.symm] at hw
    exact Bool.false_ne_true hw

theorem readBack?_text (n : Numeral) : readBack? n.text = some (Binary.ofBits n.readBits) := by
  unfold readBack?
  rw [if_neg (@text_ne n "NaN" 'N' ['a', 'N'] (by simp) (by decide) (fun h ↦ absurd h (by decide))),
    if_neg (@text_ne n "inf" 'i' ['n', 'f'] (by simp) (by decide) (fun h ↦ absurd h (by decide))),
    if_neg (@text_ne n "-inf" '-' ['i', 'n', 'f'] (by simp) (by decide) (by simp)), parse?_text,
    Option.map_some]

end Numeral

/-! ## The text of a double -/

theorem writeDigits_plain (d : Digits) :
    Layout.plain.writeDigits d =
      positional (toString d.digits) ((toString d.digits).length + d.exp) 0 := rfl

/-- The shortest digits written positionally: a numeral whose magnitude is their value. -/
theorem exists_numeral_shortest (negative : Bool) (d : Digits) :
    ∃ n : Numeral, n.negative = negative ∧
      (if negative then "-" else "") ++ Layout.plain.writeDigits d = n.text ∧ n.magnitude = d.val := by
  have hds : toString d.digits = String.ofList (Nat.toDigits 10 d.digits) := by
    rw [Nat.toString_eq_repr, Nat.repr_eq_ofList_toDigits]
  obtain ⟨n, hneg, htext, hmag⟩ := exists_numeral_positional negative Nat.toDigits_ne_nil
    (fun c hc ↦ @Nat.isDigit_of_mem_toDigits 10 d.digits c (by decide) (by decide) hc)
    ((toString d.digits).length + d.exp)
  refine ⟨n, hneg, ?_, ?_⟩
  · rw [writeDigits_plain, ← htext, hds]
  · rw [hmag, Nat.ofDigitChars_toDigits (by decide) (by decide), hds, String.length_ofList,
      add_sub_cancel_left, Digits.val]

/-- The sign bit stands above the magnitude bits. -/
theorem decide_signBit (negative : Bool) {m : ℕ} (hm : m < 2 ^ 63) :
    decide (2 ^ 63 ≤ (if negative then 2 ^ 63 else 0) + m) = negative := by
  cases negative
  · exact decide_eq_false (by simp only [Bool.false_eq_true, if_false]; omega)
  · exact decide_eq_true (by simp only [if_true]; omega)

/-- The text of a finite double: a numeral with the double's sign bit that reads back as the
double, and no decimal that reads back as the double has fewer significant digits. -/
theorem plainText_finite {x : Float} (hx : isFiniteFloat x = true) :
    ∃ n : Numeral, plainText x = n.text ∧ n.negative = decide (2 ^ 63 ≤ x.toBits.toNat) ∧
      n.readBits = x.toBits ∧
      ∀ (negative : Bool) (num den k : ℕ), 0 < den → SigDigits ((num : ℚ) / den) k →
        signedNearestBits negative num den = x.toBits → SigDigits n.magnitude k := by
  have hbin : Binary.ofFloat x = Binary.ofBits x.toBits := rfl
  unfold plainText Layout.write
  cases hb : Binary.ofFloat x with
  | nan => simp [isFiniteFloat, hb] at hx
  | infinite negative => simp [isFiniteFloat, hb] at hx
  | zero negative =>
    -- a zero: `0` with the sign
    have hbits := (ofBits_eq_zero_iff x.toBits).1 (hbin ▸ hb)
    refine ⟨⟨negative, ['0'], [], by simp, fun c hc ↦ by rw [List.mem_singleton.1 hc]; rfl,
      by simp⟩, ?_, ?_, ?_, ?_⟩
    · rw [← String.toList_inj]
      cases negative <;> simp [Numeral.text, Numeral.chars, Numeral.fracChars, Layout.plain]
    · rw [hbits, ← Nat.add_zero (if negative = true then 2 ^ 63 else 0),
        decide_signBit negative (by norm_num)]
    · exact signedNearestBits_zero (hbin ▸ hb) _
    · intro _ _ _ k _ _ _
      have hzero : Nat.ofDigitChars 10 ['0'] 0 = 0 := rfl
      refine ⟨0, 0, ?_, by positivity⟩
      simp [Numeral.magnitude, Numeral.digitValue, hzero]
  | finite negative mant exp p2 =>
    -- a finite non-zero double: its shortest digits
    obtain ⟨hc, hm, hp2, hbits⟩ := (ofBits_eq_finite_iff x.toBits).1 (hbin ▸ hb)
    obtain ⟨n, hneg, htext, hmag⟩ := exists_numeral_shortest negative (shortest mant exp p2)
    obtain ⟨hmem, -, hmin⟩ := shortest_reads_back hc hm
    rw [← hp2, ← hmag] at hmem hmin
    have hread := signedNearestBits_eq_iff (hbin ▸ hb)
    refine ⟨n, htext.symm ▸ rfl, ?_, ?_, ?_⟩
    · have := magnitudeBits_lt_infinity hc
      rw [hneg, hbits, decide_signBit negative (by omega)]
    · unfold Numeral.readBits
      rw [hread n.negative (by positivity)]
      refine ⟨hneg, ?_⟩
      rw [Numeral.magnitude] at hmem
      exact_mod_cast hmem
    · intro negative' num den k hden hk heq
      exact hmin _ k ((hread negative' hden).1 heq).2 hk

theorem plainText_nan {x : Float} (hx : Binary.ofFloat x = .nan) : plainText x = "NaN" := by
  unfold plainText Layout.write
  rw [hx]

theorem plainText_infinite {x : Float} {negative : Bool} (hx : Binary.ofFloat x = .infinite negative) :
    plainText x = if negative then "-inf" else "inf" := by
  unfold plainText Layout.write
  rw [hx]

/-- A double that is not finite is a NaN or an infinity. -/
theorem not_finite_cases {x : Float} (hx : isFiniteFloat x = false) :
    Binary.ofFloat x = .nan ∨ ∃ negative, Binary.ofFloat x = .infinite negative := by
  unfold isFiniteFloat at hx
  split at hx
  · exact .inl ‹_›
  · exact .inr ⟨_, ‹_›⟩
  · cases hx

/-- Every double reads back from its text as itself: a NaN as a NaN, an infinity as itself, and a
finite double through its numeral. -/
theorem readBack?_plainText (x : Float) : readBack? (plainText x) = some (Binary.ofFloat x) := by
  cases hf : isFiniteFloat x
  · rcases not_finite_cases hf with hb | ⟨negative, hb⟩
    · rw [plainText_nan hb, hb]
      rfl
    · rw [plainText_infinite hb, hb]
      cases negative
      · rw [if_neg (by decide), readBack?, if_neg (by decide), if_pos rfl]
      · rw [if_pos rfl, readBack?, if_neg (by decide), if_neg (by decide), if_pos rfl]
  · obtain ⟨n, htext, -, hbits, -⟩ := plainText_finite hf
    rw [htext, Numeral.readBack?_text, hbits]
    rfl

/-- A numeral is made of digits, a minus sign and a point. -/
theorem Numeral.mem_chars {n : Numeral} {c : Char} (h : c ∈ n.chars) :
    c.isDigit = true ∨ c = '-' ∨ c = '.' := by
  unfold Numeral.chars Numeral.fracChars at h
  simp only [List.mem_append] at h
  rcases h with h | h | h
  · split at h <;> simp_all
  · exact .inl (n.whole_digits c h)
  · split at h
    · simp at h
    · rcases List.mem_cons.1 h with h | h
      · exact .inr (.inr h)
      · exact .inl (n.frac_digits c h)

/-- No written number holds a colon. -/
theorem colon_not_mem_plainText (x : Float) : ':' ∉ (plainText x).toList := by
  cases hf : isFiniteFloat x
  · rcases not_finite_cases hf with hb | ⟨negative, hb⟩
    · rw [plainText_nan hb]
      simp
    · rw [plainText_infinite hb]
      cases negative <;> simp
  · obtain ⟨n, htext, -⟩ := plainText_finite hf
    rw [htext, Numeral.text, String.toList_ofList]
    intro h
    rcases Numeral.mem_chars h with h | h | h <;> revert h <;> decide

theorem readBack?_empty : readBack? "" = none := by decide

end MetricsNode.Decimal

namespace MetricsNode

open Decimal

/-! ## Samples and ranges -/

/-- A finite sample is written as its numeral, never as unknown. -/
theorem formatValue_finite {x : Float} (hx : isFiniteFloat x = true) :
    formatValue (some x) = plainText x ∧ formatValue (some x) ≠ unknownValue := by
  have heq : formatValue (some x) = plainText x := by simp [formatValue, hx]
  refine ⟨heq, ?_⟩
  obtain ⟨n, htext, -⟩ := plainText_finite hx
  rw [heq, htext]
  exact @Numeral.text_ne n unknownValue 'U' [] (by simp [unknownValue]) (by decide)
    (fun h ↦ absurd h (by decide))

/-- The text of a range with a bound holds one colon, with each bound written on its side. -/
theorem ValueRange.text?_sides (r : ValueRange) {s : String} (h : r.text? = some s) :
    s.toList.count ':' = 1 ∧ ∃ a b, s = a ++ ":" ++ b ∧
      readBack? a = r.min.map Binary.ofFloat ∧ readBack? b = r.max.map Binary.ofFloat := by
  have hcount (x : Float) : (plainText x).toList.count ':' = 0 :=
    List.count_eq_zero.2 (colon_not_mem_plainText x)
  unfold ValueRange.text? at h
  split at h <;> simp only [Option.some.injEq, reduceCtorEq] at h <;> subst h
  · rename_i lo hi hlo hhi
    refine ⟨by simp [hcount], _, _, rfl, ?_, ?_⟩
    · rw [hlo, Option.map_some, readBack?_plainText]
    · rw [hhi, Option.map_some, readBack?_plainText]
  · rename_i lo hlo hhi
    refine ⟨by simp [hcount], _, "", String.append_empty.symm, ?_, ?_⟩
    · rw [hlo, Option.map_some, readBack?_plainText]
    · rw [hhi, Option.map_none, readBack?_empty]
  · rename_i hi hlo hhi
    refine ⟨by simp [hcount], "", _, by rw [String.empty_append], ?_, ?_⟩
    · rw [hlo, Option.map_none, readBack?_empty]
    · rw [hhi, Option.map_some, readBack?_plainText]

/-- **Numbers on the wire are exact.** A NaN is written `NaN` and an infinity `inf` or `-inf`.
A finite double is written as a plain numeral, the only one with its text, with a minus sign
exactly when its sign bit is set; read to the nearest double, ties to even, the numeral gives
back the double, and no decimal that reads back as the double has fewer significant digits.
Every text reads back as its double, so a finite sample is never written as unknown, and the
text of a range is absent exactly without bounds and otherwise holds one colon between the
written bounds. -/
theorem number_text_exact :
    (∀ x : Float, Binary.ofFloat x = .nan → plainText x = "NaN") ∧
    (∀ (x : Float) (negative : Bool), Binary.ofFloat x = .infinite negative →
      plainText x = if negative then "-inf" else "inf") ∧
    (∀ x : Float, isFiniteFloat x = true →
      ∃ n : Numeral, plainText x = n.text ∧ Numeral.parse? (plainText x) = some n ∧
        n.negative = decide (2 ^ 63 ≤ x.toBits.toNat) ∧
        nearest n.negative n.digitValue (10 ^ n.frac.length) = x ∧
        ∀ (negative : Bool) (num den k : ℕ), 0 < den → SigDigits ((num : ℚ) / den) k →
          signedNearestBits negative num den = x.toBits → SigDigits n.magnitude k) ∧
    (∀ x : Float, readBack? (plainText x) = some (Binary.ofFloat x)) ∧
    (∀ x : Float, isFiniteFloat x = true →
      formatValue (some x) ≠ unknownValue ∧
        readBack? (formatValue (some x)) = some (Binary.ofFloat x)) ∧
    (∀ r : ValueRange, (r.text? = none ↔ r.min = none ∧ r.max = none) ∧
      ∀ s, r.text? = some s → s.toList.count ':' = 1 ∧ ∃ a b, s = a ++ ":" ++ b ∧
        readBack? a = r.min.map Binary.ofFloat ∧ readBack? b = r.max.map Binary.ofFloat) := by
  refine ⟨fun x ↦ plainText_nan, fun x _ ↦ plainText_infinite, fun x hx ↦ ?_,
    readBack?_plainText, fun x hx ↦ ?_, fun r ↦ ⟨ValueRange.text?_eq_none_iff r,
      fun s ↦ ValueRange.text?_sides r⟩⟩
  · obtain ⟨n, htext, hsign, hbits, hmin⟩ := plainText_finite hx
    refine ⟨n, htext, by rw [htext, Numeral.parse?_text], hsign, ?_, hmin⟩
    rw [nearest_eq_ofBits, ← Numeral.readBits, hbits, Float.ofBits_toBits]
  · obtain ⟨heq, hne⟩ := formatValue_finite hx
    exact ⟨hne, heq ▸ readBack?_plainText x⟩

end MetricsNode
