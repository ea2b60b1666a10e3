import Mathlib.Data.List.Nodup
import MetricsNode.Plugin.Basic

/-!
# Building a plugin

`Plugin.new?` refuses an empty name first. It then walks the field names from the front,
carrying the names it has passed, and stops at the first name it has passed already. What makes
the walk right is one invariant: the names carried are those of the fields passed, and the names
passed so far are distinct (`Fresh`). A name moves from the fields ahead to the names carried at
each step (`fresh_cons`), so the walk, started with nothing carried, reports the name of the
earliest field whose name occurs before it, and reports nothing exactly when the field names are
pairwise distinct.

A plugin that is built keeps the fields it was given, in order. Their names being distinct, the
lookup by name finds a field exactly when the plugin has a field of that name, and then that
field is the only one.

## Main results

* `firstRepeat_nil_eq_some_iff`: the walk reports `m` exactly when `m` is the name at the
  earliest position that repeats an earlier name.
* `Plugin.field?_eq_some_iff`: over distinct names, the lookup finds the field of that name.
* `plugin_build_outcome`: the three outcomes of building a plugin.
-/

namespace MetricsNode

/-! ## Repeated names -/

section Repeats

variable {names : List String} {i : Nat} {m : String}

/-- The name at position `i` is `m`, and `m` already occurs before position `i`. -/
def RepeatsEarlier (names : List String) (i : Nat) (m : String) : Prop :=
  names[i]? = some m ∧ m ∈ names.take i

/-- Position `i` is the earliest whose name repeats an earlier one, and that name is `m`. -/
def FirstRepeatAt (names : List String) (i : Nat) (m : String) : Prop :=
  RepeatsEarlier names i m ∧ ∀ j < i, ∀ x, ¬RepeatsEarlier names j x

/-- The names before position `i` are distinct exactly when no position before `i` repeats. -/
theorem nodup_take_iff : (names.take i).Nodup ↔ ∀ j < i, ∀ x, ¬RepeatsEarlier names j x := by
  induction i with
  | zero => simp
  | succ i ih =>
    -- the names before `i + 1` are those before `i` and then the name at `i`, if there is one
    rw [List.take_add_one, Nat.forall_lt_succ_right, ← ih]
    cases h : names[i]? with
    | none => simp [RepeatsEarlier, h]
    | some y => simp [RepeatsEarlier, h, List.nodup_append, List.forall_mem_ne']

/-- A position is the earliest repeat exactly when the names split there, with distinct names
before it that include its own. -/
theorem exists_firstRepeatAt_iff :
    (∃ i, FirstRepeatAt names i m) ↔
      ∃ pre rest, names = pre ++ m :: rest ∧ pre.Nodup ∧ m ∈ pre := by
  constructor
  · rintro ⟨i, ⟨hat, hmem⟩, hfirst⟩
    obtain ⟨hi, rfl⟩ := List.getElem?_eq_some_iff.1 hat
    refine ⟨names.take i, names.drop (i + 1), ?_, nodup_take_iff.2 hfirst, hmem⟩
    rw [← List.drop_eq_getElem_cons hi, List.take_append_drop]
  · rintro ⟨pre, rest, rfl, hnd, hm⟩
    have htake : (pre ++ m :: rest).take pre.length = pre := List.take_left
    refine ⟨pre.length, ⟨by simp, by rwa [htake]⟩, nodup_take_iff.1 (by rwa [htake])⟩

end Repeats

/-! ## The walk over the field names -/

section Walk

/-- The names of `l` are distinct, and none of them is among `seen`. -/
def Fresh (seen l : List String) : Prop := l.Nodup ∧ ∀ x ∈ l, x ∉ seen

@[simp] theorem fresh_nil_left {l : List String} : Fresh [] l ↔ l.Nodup := by
  simp [Fresh]

/-- Passing a name moves it from the names ahead to the names seen. -/
theorem fresh_cons {seen l : List String} {n : String} :
    Fresh seen (n :: l) ↔ n ∉ seen ∧ Fresh (n :: seen) l := by
  rw [Fresh, Fresh, List.nodup_cons, List.forall_mem_cons]
  simp only [List.mem_cons, not_or]
  constructor
  · rintro ⟨⟨hnl, hnd⟩, hns, hl⟩
    exact ⟨hns, hnd, fun x hx => ⟨fun h => hnl (h ▸ hx), hl x hx⟩⟩
  · rintro ⟨hns, hnd, hl⟩
    exact ⟨⟨fun h => (hl n h).1 rfl, hnd⟩, hns, fun x hx => (hl x hx).2⟩

/-- The walk finds no repeat exactly when the names ahead are fresh. -/
theorem firstRepeat_eq_none_iff (seen l : List String) :
    firstRepeat seen l = none ↔ Fresh seen l := by
  induction l generalizing seen with
  | nil => simp [firstRepeat, Fresh]
  | cons n l ih =>
    by_cases hn : n ∈ seen
    · simp [firstRepeat, hn, fresh_cons]
    · simp [firstRepeat, hn, fresh_cons, ih]

/-- The walk reports `m` exactly when the names ahead split at an `m` that occurs before it,
among the names ahead or the names seen, the names ahead of it being fresh. -/
theorem firstRepeat_eq_some_iff (seen l : List String) (m : String) :
    firstRepeat seen l = some m ↔
      ∃ pre rest, l = pre ++ m :: rest ∧ Fresh seen pre ∧ (m ∈ pre ∨ m ∈ seen) := by
  induction l generalizing seen with
  | nil => simp [firstRepeat]
  | cons n l ih =>
    by_cases hn : n ∈ seen
    · -- a name seen before stops the walk, and no split can pass it
      simp only [firstRepeat, List.contains_iff_mem, hn, if_true, Option.some.injEq]
      constructor
      · rintro rfl
        exact ⟨[], l, rfl, by simp [Fresh], .inr hn⟩
      · rintro ⟨pre, rest, hsplit, hfresh, -⟩
        cases pre with
        | nil => exact (List.cons.inj hsplit).1
        | cons p pre =>
          obtain ⟨rfl, -⟩ := List.cons.inj hsplit
          exact absurd hn (fresh_cons.1 hfresh).1
    · -- a new name joins the names seen, and every split passes it
      simp only [firstRepeat, List.contains_iff_mem, hn, if_false, ih]
      constructor
      · rintro ⟨pre, rest, rfl, hfresh, hm⟩
        refine ⟨n :: pre, rest, rfl, fresh_cons.2 ⟨hn, hfresh⟩, ?_⟩
        simp only [List.mem_cons] at hm ⊢
        tauto
      · rintro ⟨pre, rest, hsplit, hfresh, hm⟩
        cases pre with
        | nil =>
          obtain ⟨rfl, -⟩ := List.cons.inj hsplit
          simp only [List.not_mem_nil, false_or] at hm
          exact absurd hm hn
        | cons p pre =>
          obtain ⟨rfl, rfl⟩ := List.cons.inj hsplit
          refine ⟨pre, rest, rfl, (fresh_cons.1 hfresh).2, ?_⟩
          simp only [List.mem_cons] at hm ⊢
          tauto

/-- Started with nothing seen, the walk finds no repeat exactly when the names are distinct. -/
theorem firstRepeat_nil_eq_none_iff (names : List String) :
    firstRepeat [] names = none ↔ names.Nodup := by
  rw [firstRepeat_eq_none_iff, fresh_nil_left]

/-- Started with nothing seen, the walk reports the name at the earliest position that repeats
an earlier name. -/
theorem firstRepeat_nil_eq_some_iff (names : List String) (m : String) :
    firstRepeat [] names = some m ↔ ∃ i, FirstRepeatAt names i m := by
  rw [firstRepeat_eq_some_iff, exists_firstRepeatAt_iff]
  simp

end Walk

/-! ## Plugins -/

namespace Plugin

variable {name : String} {graph : GraphAttributes} {fields : List Field} {hooks : Hooks}

/-- A name is refused exactly when it is empty. -/
theorem new?_eq_emptyPluginName_iff :
    new? name graph fields hooks = .error .emptyPluginName ↔ name = "" := by
  by_cases hname : name = ""
  · simp [new?, hname]
  · cases hr : firstRepeat [] (fields.map Field.name) <;> simp [new?, hname, hr]

/-- A duplicate is reported, under the plugin's name, exactly when the name is not empty and the
walk over the field names reports it. -/
theorem new?_eq_duplicateField_iff {plugin m : String} :
    new? name graph fields hooks = .error (.duplicateField plugin m) ↔
      name ≠ "" ∧ plugin = name ∧ firstRepeat [] (fields.map Field.name) = some m := by
  by_cases hname : name = ""
  · simp [new?, hname]
  · cases hr : firstRepeat [] (fields.map Field.name) with
    | none => simp [new?, hname, hr]
    | some n =>
      simp only [new?, String.isEmpty_iff, hname, if_false, hr, Except.error.injEq,
        PluginError.duplicateField.injEq, Option.some.injEq, ne_eq, not_false_eq_true, true_and]
      exact and_congr_left' eq_comm

/-- A plugin is built exactly when the name is not empty and the walk finds no repeat, and it
keeps the name, graph, fields and callbacks given. -/
theorem new?_eq_ok_iff {p : Plugin} :
    new? name graph fields hooks = .ok p ↔
      name ≠ "" ∧ firstRepeat [] (fields.map Field.name) = none ∧
        p = { name, graph, fields, hooks } := by
  by_cases hname : name = ""
  · simp [new?, hname]
  · cases hr : firstRepeat [] (fields.map Field.name) with
    | none =>
      simp only [new?, String.isEmpty_iff, hname, if_false, hr, Except.ok.injEq, ne_eq,
        not_false_eq_true, true_and]
      exact eq_comm
    | some n => simp [new?, hname, hr]

/-- Over fields with distinct names, the lookup finds a field exactly when it is one of the
fields and has the name looked up. -/
theorem field?_eq_some_iff {p : Plugin} (hnd : (p.fields.map Field.name).Nodup) {n : String}
    {f : Field} : p.field? n = some f ↔ f ∈ p.fields ∧ f.name = n := by
  constructor
  · intro h
    exact ⟨List.mem_of_find?_eq_some h, by simpa using List.find?_some h⟩
  · rintro ⟨hf, rfl⟩
    -- the lookup finds some field of that name, and distinct names make it `f`
    obtain ⟨g, hg⟩ := Option.isSome_iff_exists.1
      (List.find?_isSome.2 ⟨f, hf, by simp⟩ : (p.fields.find? (·.name == f.name)).isSome)
    have hgf : g = f := List.inj_on_of_nodup_map hnd (List.mem_of_find?_eq_some hg) hf
      (by simpa using List.find?_some hg)
    rw [field?, hg, hgf]

end Plugin

/-- **Building a plugin.** An empty name is refused; otherwise a repeated field name is refused,
and the name reported is the one at the earliest position that repeats an earlier name;
otherwise the plugin is built with the fields as given, and the lookup by name finds the one field
of that name. -/
theorem plugin_build_outcome (name : String) (graph : GraphAttributes) (fields : List Field)
    (hooks : Hooks) :
    (Plugin.new? name graph fields hooks = .error .emptyPluginName ↔ name = "") ∧
    (∀ plugin m, Plugin.new? name graph fields hooks = .error (.duplicateField plugin m) ↔
      name ≠ "" ∧ plugin = name ∧ ∃ i, FirstRepeatAt (fields.map Field.name) i m) ∧
    ((∃ plugin m, Plugin.new? name graph fields hooks = .error (.duplicateField plugin m)) ↔
      name ≠ "" ∧ ¬(fields.map Field.name).Nodup) ∧
    (∀ p, Plugin.new? name graph fields hooks = .ok p ↔
      name ≠ "" ∧ (fields.map Field.name).Nodup ∧ p = { name, graph, fields, hooks }) ∧
    (∀ p, Plugin.new? name graph fields hooks = .ok p →
      ∀ n f, p.field? n = some f ↔ f ∈ fields ∧ f.name = n) := by
  have hdup : ∀ plugin m,
      Plugin.new? name graph fields hooks = .error (.duplicateField plugin m) ↔
        name ≠ "" ∧ plugin = name ∧ ∃ i, FirstRepeatAt (fields.map Field.name) i m := by
    intro plugin m
    rw [Plugin.new?_eq_duplicateField_iff, firstRepeat_nil_eq_some_iff]
  have hok : ∀ p, Plugin.new? name graph fields hooks = .ok p ↔
      name ≠ "" ∧ (fields.map Field.name).Nodup ∧ p = { name, graph, fields, hooks } := by
    intro p
    rw [Plugin.new?_eq_ok_iff, firstRepeat_nil_eq_none_iff]
  refine ⟨Plugin.new?_eq_emptyPluginName_iff, hdup, ?_, hok, ?_⟩
  · -- a duplicate is reported exactly when the walk reports some name
    simp only [Plugin.new?_eq_duplicateField_iff, exists_and_left, exists_eq_left,
      ← firstRepeat_nil_eq_none_iff, ← Option.ne_none_iff_exists', ne_eq]
  · rintro p hp n f
    obtain ⟨-, hnd, rfl⟩ := (hok p).1 hp
    exact Plugin.field?_eq_some_iff hnd

/-- A field named and labelled `n`, whose reading is zero. -/
def zeroField (n : FieldName) : Field where
  attributes := { name := n, label := n.text }
  reading := { outcome := .ok (some 0) }

/-- The fields `down up up down`: `down` is the first name that occurs twice, but `up` is the
first that comes back. -/
def interfaceFields : List Field :=
  List.map zeroField
    [⟨"down", by decide⟩, ⟨"up", by decide⟩, ⟨"up", by decide⟩, ⟨"down", by decide⟩]

/-- The fields `user system`. -/
def cpuFields : List Field := [⟨"user", by decide⟩, ⟨"system", by decide⟩].map zeroField

/-- Over `down up up down` the report names `up`, the repeat at position 2; over `user system`
the plugin is built and its lookup of `system` finds the second field. -/
theorem build_reports_earliest_repeat :
    Plugin.new? "if_eth0" {} interfaceFields = .error (.duplicateField "if_eth0" "up") ∧
    ∃ p, Plugin.new? "cpu" {} cpuFields = .ok p ∧ p.field? "system" = cpuFields[1]? := by
  constructor
  · -- before position 2 only `down` and `up` stand, once each
    exact ((plugin_build_outcome _ _ _ _).2.1 _ _).2
      ⟨by decide, rfl, 2, ⟨rfl, by decide⟩, nodup_take_iff.1 (by decide)⟩
  · have hbuild := plugin_build_outcome "cpu" {} cpuFields {}
    have hok := (hbuild.2.2.2.1 _).2 ⟨by decide, by decide, rfl⟩
    have hsystem := List.mem_of_getElem? (show cpuFields[1]? = some _ from rfl)
    exact ⟨_, hok, (hbuild.2.2.2.2 _ hok _ _).2 ⟨hsystem, rfl⟩⟩

end MetricsNode
