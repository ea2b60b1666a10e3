import MetricsNode.Plugin.Field
import MetricsNode.Proofs.LineFraming

/-!
# Lines that survive the wire

An answer goes out as its lines, each followed by a line feed, and a collector reads it back
with the same framing the node uses for commands: a line ends at a line feed, less one carriage
return right before it. A line comes back as it was sent exactly when it holds no line feed and
does not end with a carriage return; such a line is `LineSafe`.

## Texts

`LineSafe` is closed under concatenation, so a line is safe when its pieces are. The pieces that
the node writes itself never hold a line break at all (`Unbroken`): the digits, signs and points
of a number, a field name, the words of a style. Only the texts a plugin is given are free.

## Bytes

A character written in more than one byte sets the high bit of every byte, so a line feed or a
carriage return on the wire is the character itself. The encoding of a safe line therefore
holds no line feed and does not end with a carriage return.

## Main results

* `Decimal.unbroken_plainText`: a number as written on the wire holds no line break.
* `completeLines_encodeLines`: the lines of an answer made of safe lines are its lines, and
  nothing is left pending.
* `framing_encodeLines`: cut into chunks in any way, an answer of safe lines is framed back into
  exactly its lines, and the framer is left empty.
-/

namespace MetricsNode

open Wire

/-! ## Safe lines and unbroken texts -/

/-- A line the wire carries intact: it holds no line feed, which would end it early, and does not
end with a carriage return, which the reader drops with the line feed after it. -/
def LineSafe (s : String) : Prop := '\n' ∉ s.toList ∧ s.toList.getLast? ≠ some '\r'

-- the instances are spelled out so that `decide` runs the same list functions wherever it is used
instance : DecidablePred LineSafe := fun s ↦
  @instDecidableAnd _ _ (@instDecidableNot _ (List.instDecidableMemOfLawfulBEq '\n' s.toList))
    (@instDecidableNot _ (Option.instDecidableEq _ _))

/-- A text with no line break in it, as the configuration requires of the host name. -/
def Unbroken (s : String) : Prop := ∀ c ∈ s.toList, c ≠ '\n' ∧ c ≠ '\r'

instance : DecidablePred Unbroken := fun s ↦
  List.decidableBAll (fun c ↦ c ≠ '\n' ∧ c ≠ '\r') s.toList

theorem LineSafe.append {a b : String} (ha : LineSafe a) (hb : LineSafe b) :
    LineSafe (a ++ b) := by
  obtain ⟨ha₁, ha₂⟩ := ha
  obtain ⟨hb₁, hb₂⟩ := hb
  refine ⟨by simp [ha₁, hb₁], ?_⟩
  -- the last character is the last of `b`, or the last of `a` when `b` is empty
  rw [String.toList_append, List.getLast?_append]
  cases h : b.toList.getLast? with
  | none => simpa using ha₂
  | some x => simpa [h] using hb₂

/-- Safe lines joined by a safe separator make a safe line. -/
theorem LineSafe.intercalate {sep : String} (hsep : LineSafe sep) :
    ∀ {ts : List String}, (∀ t ∈ ts, LineSafe t) → LineSafe (sep.intercalate ts)
  | [], _ => by rw [String.intercalate_nil]; decide
  | [t], h => by simpa using h t List.mem_cons_self
  | t :: u :: rest, h => by
    rw [String.intercalate_cons_cons]
    refine ((h t List.mem_cons_self).append hsep).append (LineSafe.intercalate hsep ?_)
    exact fun v hv ↦ h v (List.mem_cons_of_mem _ hv)

theorem Unbroken.lineSafe {s : String} (h : Unbroken s) : LineSafe s :=
  ⟨fun hm ↦ (h _ hm).1 rfl, fun hl ↦ (h _ (List.mem_of_getLast? hl)).2 rfl⟩

@[simp] theorem unbroken_append {a b : String} :
    Unbroken (a ++ b) ↔ Unbroken a ∧ Unbroken b := by
  simp only [Unbroken, String.toList_append, List.forall_mem_append]

@[simp] theorem unbroken_ofList {l : List Char} :
    Unbroken (String.ofList l) ↔ ∀ c ∈ l, c ≠ '\n' ∧ c ≠ '\r' := by
  simp [Unbroken]

@[simp] theorem unbroken_singleton {c : Char} :
    Unbroken (String.singleton c) ↔ c ≠ '\n' ∧ c ≠ '\r' := by
  simp [Unbroken]

/-- A text of digits holds no line break. -/
theorem unbroken_of_isDigit {s : String} (h : ∀ c ∈ s.toList, c.isDigit) : Unbroken s := by
  intro c hc
  have hd := h c hc
  constructor <;> rintro rfl <;> revert hd <;> decide

@[simp] theorem unbroken_natToString (n : Nat) : Unbroken (toString n) := by
  apply unbroken_of_isDigit
  intro c hc
  rw [Nat.toString_eq_repr, Nat.toList_repr] at hc
  exact Nat.isDigit_of_mem_toDigits (by decide) (by decide) hc

@[simp] theorem unbroken_intToString (i : Int) : Unbroken (toString i) := by
  cases i with
  | ofNat n => exact unbroken_natToString n
  | negSucc n =>
    show Unbroken ("-" ++ Nat.repr (n + 1))
    rw [unbroken_append, ← Nat.toString_eq_repr]
    exact ⟨by decide, unbroken_natToString _⟩

/-! ## Numbers -/

namespace Decimal

@[simp] theorem unbroken_zeros (n : Nat) : Unbroken (zeros n) := by
  simp only [zeros, unbroken_ofList, List.mem_replicate]
  rintro c ⟨-, rfl⟩
  decide

theorem unbroken_positional {ds : String} (hds : Unbroken ds) (point : Int) (minFraction : Nat) :
    Unbroken (positional ds point minFraction) := by
  -- every piece is a run of zeros, a point, or a run of the digits
  have htake : ∀ k, Unbroken (String.ofList (ds.toList.take k)) :=
    fun k ↦ unbroken_ofList.2 fun c hc ↦ hds c (List.mem_of_mem_take hc)
  have hdrop : ∀ k, Unbroken (String.ofList (ds.toList.drop k)) :=
    fun k ↦ unbroken_ofList.2 fun c hc ↦ hds c (List.mem_of_mem_drop hc)
  have hzero : Unbroken "0." := by decide
  have hpoint : Unbroken "." := by decide
  unfold positional
  dsimp only
  split
  · simp [hds, hzero]
  · split
    · simp [htake, hdrop, hpoint]
    · split <;> simp [hds, hpoint]

theorem unbroken_scientific {ds : String} (hds : Unbroken ds) (point : Int) :
    Unbroken (scientific ds point) := by
  have hcs : ∀ c ∈ ds.toList, c ≠ '\n' ∧ c ≠ '\r' := hds
  unfold scientific
  dsimp only
  rw [unbroken_append, unbroken_append]
  refine ⟨⟨?_, by decide⟩, unbroken_intToString _⟩
  -- the mantissa is the digits, with a point after the first
  split
  · decide
  · next d h =>
    rw [h] at hcs
    simpa using hcs
  · next d rest _ h =>
    simp only [h, List.mem_cons, forall_eq_or_imp] at hcs
    simp only [unbroken_append, unbroken_singleton, unbroken_ofList]
    exact ⟨⟨hcs.1, by decide⟩, hcs.2⟩

theorem unbroken_ite {c : Prop} [Decidable c] {a b : String} (ha : Unbroken a) (hb : Unbroken b) :
    Unbroken (if c then a else b) := by
  split
  · exact ha
  · exact hb

theorem Layout.unbroken_writeDigits (l : Layout) (d : Digits) : Unbroken (l.writeDigits d) := by
  have hds := unbroken_natToString d.digits
  unfold Layout.writeDigits
  exact unbroken_ite (unbroken_scientific hds _) (unbroken_positional hds _ _)

theorem Layout.unbroken_write (l : Layout) (x : Float) : Unbroken (l.write x) := by
  unfold Layout.write
  split
  · decide
  · split <;> decide
  · rw [unbroken_append]
    constructor
    · split <;> decide
    · split
      · decide
      · simp only [unbroken_append, unbroken_zeros, and_true]
        decide
  · rw [unbroken_append]
    exact ⟨by split <;> decide, Layout.unbroken_writeDigits _ _⟩

/-- **Numbers never break a line.** A value as written on the wire holds only digits, signs,
points and the words of the non-finite values. -/
theorem unbroken_plainText (x : Float) : Unbroken (plainText x) := Layout.unbroken_write _ x

end Decimal

theorem unbroken_formatValue (v : Option Float) : Unbroken (formatValue v) := by
  unfold formatValue
  split
  · split
    · exact Decimal.unbroken_plainText _
    · decide
  · decide

theorem ValueRange.unbroken_text {r : ValueRange} {t : String} (h : r.text? = some t) :
    Unbroken t := by
  unfold ValueRange.text? at h
  split at h <;> cases h <;> simp [Decimal.unbroken_plainText] <;> decide

/-- A field name is made of letters, digits and underscores. -/
theorem FieldName.unbroken (n : FieldName) : Unbroken n.text := by
  have hname : ∀ c, isNameChar c = true → c ≠ '\n' ∧ c ≠ '\r' := by
    intro c hc
    constructor <;> rintro rfl <;> revert hc <;> decide
  have hvalid := n.valid
  unfold isFieldName at hvalid
  intro c hc
  -- the first character may start a name, the others may stand in one
  match hcs : n.text.toList, hvalid with
  | d :: ds, hvalid =>
    simp only [isNameChars, Bool.and_eq_true, List.all_eq_true] at hvalid
    rw [hcs, List.mem_cons] at hc
    rcases hc with rfl | hc
    · refine hname c ?_
      simp only [isNameStart, Bool.or_eq_true] at hvalid
      simp only [isNameChar, Bool.or_eq_true]
      rcases hvalid.1 with h | h
      · exact .inl (by simp [Char.isAlphanum, h])
      · exact .inr h
    · exact hname c (hvalid.2 c hc)

theorem DrawStyle.unbroken_token {s : DrawStyle} {t : String} (h : s.token = some t) :
    Unbroken t := by
  cases s <;> simp only [DrawStyle.token, Option.some.injEq, reduceCtorEq] at h <;> subst h <;>
    decide

/-! ## Bytes -/

/-- Every byte of a character written in more than one byte has its high bit set. -/
theorem high_of_mem_utf8EncodeChar {c : Char} (hc : c.utf8Size ≠ 1) {b : UInt8}
    (hb : b ∈ String.utf8EncodeChar c) : 0x80 ≤ b := by
  have high : ∀ x y : UInt8, 0x80 ≤ y → 0x80 ≤ x ||| y :=
    fun x y h ↦ UInt8.le_trans h UInt8.right_le_or
  match h : c.utf8Size, c.utf8Size_pos, c.utf8Size_le_four with
  | 1, _, _ => exact absurd h hc
  | 2, _, _ =>
    rw [String.utf8EncodeChar_eq_cons_cons h] at hb
    simp only [List.mem_cons, List.not_mem_nil, or_false] at hb
    rcases hb with rfl | rfl <;> exact high _ _ (by decide)
  | 3, _, _ =>
    rw [String.utf8EncodeChar_eq_cons_cons_cons h] at hb
    simp only [List.mem_cons, List.not_mem_nil, or_false] at hb
    rcases hb with rfl | rfl | rfl <;> exact high _ _ (by decide)
  | 4, _, _ =>
    rw [String.utf8EncodeChar_eq_cons_cons_cons_cons h] at hb
    simp only [List.mem_cons, List.not_mem_nil, or_false] at hb
    rcases hb with rfl | rfl | rfl | rfl <;> exact high _ _ (by decide)

/-- A byte below `0x80` in the encoding of a character is the character itself. -/
theorem toNat_of_mem_utf8EncodeChar {c : Char} {b : UInt8} (hb : b < 0x80)
    (h : b ∈ String.utf8EncodeChar c) : c.toNat = b.toNat := by
  by_cases hc : c.utf8Size = 1
  · rw [String.utf8EncodeChar_eq_singleton hc, List.mem_singleton] at h
    have hsmall : c.val.toNat ≤ 127 := UInt32.le_iff_toNat_le.1 (Char.utf8Size_eq_one_iff.1 hc)
    have hval : c.toNat = c.val.toNat := rfl
    subst h
    rw [UInt32.toNat_toUInt8]
    exact (Nat.mod_eq_of_lt (by omega)).symm
  · exact absurd (high_of_mem_utf8EncodeChar hc h) (UInt8.not_le.2 hb)

theorem lineFeed_not_mem_utf8EncodeChar {c : Char} (hc : c ≠ '\n') :
    lineFeed ∉ String.utf8EncodeChar c := fun h ↦ by
  have hnat := toNat_of_mem_utf8EncodeChar (by decide) h
  exact hc (by rw [← Char.ofNat_toNat c, hnat]; rfl)

theorem getLast_utf8EncodeChar_ne {c : Char} (hc : c ≠ '\r') :
    (String.utf8EncodeChar c).getLast? ≠ some carriageReturn := fun h ↦ by
  have hnat := toNat_of_mem_utf8EncodeChar (by decide) (List.mem_of_getLast? h)
  exact hc (by rw [← Char.ofNat_toNat c, hnat]; rfl)

theorem lineFeed_not_mem_encodeUtf8 {s : String} (h : '\n' ∉ s.toList) :
    lineFeed ∉ encodeUtf8 s := by
  simp only [encodeUtf8, List.mem_flatMap, not_exists, not_and]
  exact fun c hc ↦ lineFeed_not_mem_utf8EncodeChar (ne_of_mem_of_not_mem hc h)

theorem getLast_encodeUtf8_ne {s : String} (h : s.toList.getLast? ≠ some '\r') :
    (encodeUtf8 s).getLast? ≠ some carriageReturn := by
  unfold encodeUtf8
  cases hl : s.toList.getLast? with
  | none => simp [List.getLast?_eq_none_iff.1 hl]
  | some c =>
    -- the last byte is the last byte of the last character
    have hne := getLast_utf8EncodeChar_ne fun hc : c = '\r' ↦ h (hc ▸ hl)
    obtain ⟨init, hinit⟩ := List.getLast?_eq_some_iff.1 hl
    rw [hinit, List.flatMap_append, List.flatMap_singleton, List.getLast?_append]
    cases hb : (String.utf8EncodeChar c).getLast? with
    | none => simp [List.getLast?_eq_none_iff, String.utf8EncodeChar_ne_nil] at hb
    | some b =>
      rw [hb] at hne
      rwa [Option.some_or]

theorem dropCarriageReturn_encodeUtf8 {s : String} (h : LineSafe s) :
    dropCarriageReturn (encodeUtf8 s) = encodeUtf8 s :=
  if_neg (getLast_encodeUtf8_ne h.2)

/-! ## Framing an answer -/

/-- The pieces between the line feeds of an answer of safe lines are its lines, and an empty
piece after the last line feed. -/
theorem segments_encodeLines {ls : List String} (h : ∀ l ∈ ls, LineSafe l) :
    segments (encodeLines ls) = ls.map encodeUtf8 ++ [[]] := by
  induction ls with
  | nil => rfl
  | cons l ls ih =>
    have hl := h l List.mem_cons_self
    have hrest := ih fun l' hl' ↦ h l' (List.mem_cons_of_mem _ hl')
    simp only [encodeLines, List.flatMap_cons, List.append_assoc,
      List.singleton_append] at hrest ⊢
    rw [segments_line (lineFeed_not_mem_encodeUtf8 hl.1), hrest, List.map_cons, List.cons_append]

theorem completeLines_encodeLines {ls : List String} (h : ∀ l ∈ ls, LineSafe l) :
    completeLines (encodeLines ls) = ls.map encodeUtf8 := by
  rw [completeLines, segments_encodeLines h, List.dropLast_concat, List.map_map]
  exact List.map_congr_left fun l hl ↦ dropCarriageReturn_encodeUtf8 (h l hl)

theorem unterminated_encodeLines {ls : List String} (h : ∀ l ∈ ls, LineSafe l) :
    unterminated (encodeLines ls) = [] := by
  simp [unterminated, segments_encodeLines h]

/-- **Answers survive the wire.** However the bytes of an answer of safe lines are cut into
chunks, the framer gives back exactly its lines and is left as it started. -/
theorem framing_encodeLines {ls : List String} (h : ∀ l ∈ ls, LineSafe l) (cs : List Bytes)
    (hcs : cs.flatten = encodeLines ls) :
    (Framer.feedAll {} cs).1.flatten = ls.map encodeUtf8 ∧ (Framer.feedAll {} cs).2 = {} := by
  obtain ⟨hlines, hlast⟩ := Framer.feedAll_after [] cs
  rw [Framer.after_nil] at hlines hlast
  rw [unterminated_of_not_mem List.not_mem_nil, List.nil_append, hcs] at hlines
  rw [List.nil_append, hcs] at hlast
  refine ⟨hlines.trans (completeLines_encodeLines h), ?_⟩
  rw [hlast, Framer.after, unterminated_encodeLines h]
  rfl

end MetricsNode
