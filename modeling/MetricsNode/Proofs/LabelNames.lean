import MetricsNode.Plugin.Name

/-!
# Names derived from labels

`FieldName.ofLabel?` cuts the leading run of digits and underscores off a label and drops every
character that may not stand in a name. What is left, the *residue*, is checked as a name. Here
the outcome is read off the residue alone: the label gives a name exactly when the residue is
not empty and does not start with a digit. The name is then the residue itself, which is a
subsequence of the label. Otherwise the error carries the residue as the refused name.

The only fact about characters needed is that a name character is a name start exactly when
it is not a digit (`isNameStart_iff_not_isDigit`). So a residue, which holds name characters
only, is a name exactly when its first character is not a digit.
-/

namespace MetricsNode

/-! ## Characters -/

theorem isDigit_of_isAlpha {c : Char} (h : c.isAlpha = true) : c.isDigit = false := by
  delta Char.isAlpha Char.isUpper Char.isLower at h
  simp only [Bool.or_eq_true, Bool.and_eq_true, decide_eq_true_eq, UInt32.le_iff_toNat_le,
    ge_iff_le] at h
  simp only [Char.isDigit, Bool.and_eq_false_iff, decide_eq_false_iff_not, UInt32.le_iff_toNat_le,
    ge_iff_le]
  -- letters lie in 65..90 and 97..122, digits in 48..57
  have hA : 'A'.val.toNat = 65 := rfl
  have ha : 'a'.val.toNat = 97 := rfl
  have h9 : '9'.val.toNat = 57 := rfl
  omega

/-- Among the characters of a name, those that may start it are the ones that are not digits. -/
theorem isNameStart_iff_not_isDigit {c : Char} (h : isNameChar c = true) :
    isNameStart c = true ↔ c.isDigit = false := by
  simp only [isNameChar, Char.isAlphanum, Bool.or_eq_true, beq_iff_eq] at h
  rcases h with (hα | hd) | rfl
  · simp [isNameStart, hα, isDigit_of_isAlpha hα]
  · have hα : c.isAlpha = false := by
      cases hc : c.isAlpha
      · rfl
      · simp [isDigit_of_isAlpha hc] at hd
    simp [isNameStart, hα, hd]
    rintro rfl
    exact absurd hd (by decide)
  · decide

/-- A list of name characters spells a name exactly when it is not empty and does not start with
a digit. -/
theorem isNameChars_iff {w : List Char} (hw : ∀ c ∈ w, isNameChar c = true) :
    isNameChars w = true ↔ ∃ c cs, w = c :: cs ∧ c.isDigit = false := by
  cases w with
  | nil => simp [isNameChars]
  | cons c cs =>
    have hcs : cs.all isNameChar = true := List.all_eq_true.2 fun d hd => hw d (by simp [hd])
    simp only [isNameChars, hcs, Bool.and_true, isNameStart_iff_not_isDigit (hw c (by simp))]
    constructor
    · intro hd
      exact ⟨c, cs, rfl, hd⟩
    · rintro ⟨d, ds, heq, hd⟩
      obtain ⟨rfl, rfl⟩ := List.cons_eq_cons.1 heq
      exact hd

/-! ## Checking a name -/

namespace FieldName

theorem ofString?_of_isFieldName {s : String} (h : isFieldName s = true) :
    ofString? s = .ok ⟨s, h⟩ := by
  have hne : s.isEmpty = false := by
    cases he : s.isEmpty
    · rfl
    · simp [String.isEmpty_iff.1 he, isFieldName, isNameChars] at h
  simp [ofString?, hne, h]

theorem ofString?_of_not_isFieldName {s : String} (h : isFieldName s = false) :
    ofString? s = .error (.invalidFieldName s
      (if s.isEmpty then "field name cannot be empty" else malformedReason)) := by
  unfold ofString?
  split
  · rfl
  · simp [h]

theorem ofString?_eq_ok_iff {s : String} {n : FieldName} :
    ofString? s = .ok n ↔ n.text = s := by
  cases h : isFieldName s with
  | true =>
    rw [ofString?_of_isFieldName h, Except.ok.injEq]
    constructor
    · rintro rfl
      rfl
    · rintro rfl
      rfl
  | false =>
    rw [ofString?_of_not_isFieldName h]
    simp only [reduceCtorEq, false_iff]
    rintro rfl
    exact absurd n.valid (by simp [h])

/-! ## The residue of a label -/

theorem labelResidue_nameChars (label : String) : ∀ c ∈ labelResidue label, isNameChar c = true :=
  fun _ hc => (List.mem_filter.1 hc).2

theorem labelResidue_sublist (label : String) : (labelResidue label).Sublist label.toList :=
  List.filter_sublist.trans (List.dropWhile_suffix _).sublist

theorem isFieldName_residue (label : String) :
    isFieldName (String.ofList (labelResidue label)) = true ↔
      ∃ c cs, labelResidue label = c :: cs ∧ c.isDigit = false := by
  rw [isFieldName, String.toList_ofList]
  exact isNameChars_iff (labelResidue_nameChars label)

/-- **A label names a field by its residue.** Let `w` be what is left of a label once its leading
run of digits and underscores is cut off and every character that may not stand in a name is
dropped (`labelResidue`). The label gives a name exactly when `w` is not empty and does not start
with a digit; the name is then `w`, a subsequence of the label. Otherwise the error refuses `w` as
a name, with the reason for an empty or a malformed one. -/
theorem label_names_by_residue (label : String) :
    ((∃ n, ofLabel? label = .ok n) ↔
      ∃ c cs, labelResidue label = c :: cs ∧ c.isDigit = false) ∧
    (∀ n, ofLabel? label = .ok n →
      n.text = String.ofList (labelResidue label) ∧ n.text.toList.Sublist label.toList) ∧
    (∀ e, ofLabel? label = .error e →
      e = .invalidFieldName (String.ofList (labelResidue label))
        (if labelResidue label = [] then "field name cannot be empty" else malformedReason)) := by
  refine ⟨?_, ?_, ?_⟩
  · rw [← isFieldName_residue]
    constructor
    · rintro ⟨n, hn⟩
      rw [← ofString?_eq_ok_iff.1 hn]
      exact n.valid
    · intro h
      exact ⟨_, ofString?_of_isFieldName h⟩
  · intro n hn
    have htext : n.text = String.ofList (labelResidue label) := ofString?_eq_ok_iff.1 hn
    refine ⟨htext, ?_⟩
    rw [htext, String.toList_ofList]
    exact labelResidue_sublist label
  · intro e he
    cases h : isFieldName (String.ofList (labelResidue label)) with
    | true =>
      rw [ofLabel?, ofString?_of_isFieldName h] at he
      cases he
    | false =>
      rw [ofLabel?, ofString?_of_not_isFieldName h, Except.error.injEq] at he
      rw [← he]
      simp [String.isEmpty_iff]

example : (ofLabel? "12_eth0 rx").toOption.map FieldName.text = some "eth0rx" := by decide

end FieldName

end MetricsNode
