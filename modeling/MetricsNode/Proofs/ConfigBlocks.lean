import MetricsNode.Plugin.Config

/-!
# The layout of a configuration block

The answer to `config <plugin>` is the plugin's `graph_*` lines, then one block of attribute lines
per field, then `.`. An attribute line is `<name>.<attribute> <value>`; a graph line is a key made
of name characters, a space and a value. Since a field name is made of name characters too, the
first character after the name (a dot or a space) tells the two kinds apart, and a dotted line
gives back the field, the attribute and the value it was written from. Every statement about
which lines an answer holds rests on that reading (`attrLine_eq_attrLine_iff`).

The blocks come in the order of a stable partition of the fields: first the *targets*, the fields
that another field names as its negative, then the others, each group in field order. A target
is marked `graph no`, and a field names its negative on a `.negative` line only when the negative
is another field of the plugin, so the fields marked `graph no` are exactly the targets of the
`.negative` lines of the answer.

The partition puts a target before the fields that are not targets, and that is all it does: a
target that itself names a negative, as in a chain `x → y → z`, keeps its place among the
targets, and its `.negative` line can come before the block of its own negative.

## Main results

* `Plugin.configLines_eq`: the answer, block by block, in the format's own terms.
* `Plugin.mem_configLines_attrLine`: a dotted line is in the answer exactly when it is in the
  block of a field.
* `config_block_structure`: the layout, and `graph no` matching the `.negative` lines.
* `negative_target_declared_before`: the negative of a field that is not itself a target is
  declared before the field's `.negative` line.
* `chained_negative_declared_late`: in the chain `x → y → z` the line `y.negative z` comes before
  any `z.label` line.
-/

namespace MetricsNode

/-! ## Attribute lines -/

/-- The attributes a field's block can hold, in block order. -/
inductive FieldAttr where
  | label
  | draw
  | warning
  | critical
  | negative
  | graph
  deriving DecidableEq, Repr

/-- The word of an attribute, written between the field's name and the value. -/
def FieldAttr.word : FieldAttr → String
  | .label => "label"
  | .draw => "draw"
  | .warning => "warning"
  | .critical => "critical"
  | .negative => "negative"
  | .graph => "graph"

/-- The attribute line `<name>.<attribute> <value>`. -/
def attrLine (n : String) (a : FieldAttr) (value : String) : String :=
  n ++ ("." ++ a.word ++ " ") ++ value

/-- A text made only of characters that may stand in a field name. -/
def NameChars (s : String) : Prop := ∀ c ∈ s.toList, isNameChar c = true

instance (s : String) : Decidable (NameChars s) :=
  List.decidableBAll _ s.toList

theorem FieldAttr.nameChars_word (a : FieldAttr) : NameChars a.word := by
  cases a <;> decide

theorem FieldAttr.word_inj {a a' : FieldAttr} (h : a.word = a'.word) : a = a' := by
  cases a <;> cases a' <;> first | rfl | (simp [word] at h)

theorem FieldName.nameChars (n : FieldName) : NameChars n.text := by
  have hvalid := n.valid
  unfold isFieldName at hvalid
  intro c hc
  match hcs : n.text.toList, hvalid with
  | d :: ds, hvalid =>
    simp only [isNameChars, Bool.and_eq_true, List.all_eq_true] at hvalid
    rw [hcs, List.mem_cons] at hc
    rcases hc with rfl | hc
    · -- a character that may start a name may stand in one
      simp only [isNameStart, Bool.or_eq_true, beq_iff_eq] at hvalid
      simp only [isNameChar, Char.isAlphanum, Bool.or_eq_true, beq_iff_eq]
      rcases hvalid.1 with h | h
      · exact .inl (.inl h)
      · exact .inr h
    · exact hvalid.2 c hc

theorem Field.nameChars (f : Field) : NameChars f.name := f.attributes.name.nameChars

/-- A name read off the front of a line ends at the first character that cannot stand in a
name. -/
theorem takeWhile_nameChar {x : List Char} {c : Char} (rest : List Char)
    (hx : ∀ ch ∈ x, isNameChar ch = true) (hc : isNameChar c = false) :
    (x ++ c :: rest).takeWhile isNameChar = x := by
  rw [List.takeWhile_append_of_pos hx]
  simp [hc]

/-- Two lines that each start with name characters and then a character that cannot stand in a
name agree in the name, that character and the rest. -/
theorem nameChars_split_inj {x y r s : List Char} {c d : Char}
    (hx : ∀ ch ∈ x, isNameChar ch = true) (hy : ∀ ch ∈ y, isNameChar ch = true)
    (hc : isNameChar c = false) (hd : isNameChar d = false) (h : x ++ c :: r = y ++ d :: s) :
    x = y ∧ c = d ∧ r = s := by
  have hxy : x = y :=
    calc x = (x ++ c :: r).takeWhile isNameChar := (takeWhile_nameChar r hx hc).symm
      _ = (y ++ d :: s).takeWhile isNameChar := by rw [h]
      _ = y := takeWhile_nameChar s hy hd
  subst hxy
  exact ⟨rfl, List.cons.inj (List.append_cancel_left h)⟩

theorem toList_attrLine (n : String) (a : FieldAttr) (v : String) :
    (attrLine n a v).toList = n.toList ++ '.' :: (a.word.toList ++ ' ' :: v.toList) := by
  simp [attrLine]

/-- **Reading an attribute line.** A dotted line of a field name gives back the name, the
attribute and the value. -/
theorem attrLine_eq_attrLine_iff {n n' : String} (hn : NameChars n) (hn' : NameChars n')
    {a a' : FieldAttr} {v v' : String} :
    attrLine n a v = attrLine n' a' v' ↔ n = n' ∧ a = a' ∧ v = v' := by
  constructor
  · intro h
    have hl := congrArg String.toList h
    rw [toList_attrLine, toList_attrLine] at hl
    obtain ⟨hname, -, hrest⟩ := nameChars_split_inj hn hn' (by decide) (by decide) hl
    obtain ⟨hword, -, hvalue⟩ := nameChars_split_inj a.nameChars_word a'.nameChars_word
      (by decide) (by decide) hrest
    exact ⟨String.toList_inj.1 hname, FieldAttr.word_inj (String.toList_inj.1 hword),
      String.toList_inj.1 hvalue⟩
  · rintro ⟨rfl, rfl, rfl⟩
    rfl

/-- A key of a graph line: name characters followed by a space. -/
def GraphKey (k : String) : Prop :=
  k.toList = k.toList.dropLast ++ [' '] ∧ ∀ c ∈ k.toList.dropLast, isNameChar c = true

instance (k : String) : Decidable (GraphKey k) :=
  @instDecidableAnd _ _ (instDecidableEqList k.toList (k.toList.dropLast ++ [' ']))
    (List.decidableBAll _ _)

/-- A graph line is never an attribute line of a field name: after the name characters, one has
a space where the other has a dot. -/
theorem attrLine_ne_keyed {n k : String} (hn : NameChars n) (hk : GraphKey k) (a : FieldAttr)
    (v w : String) : k ++ w ≠ attrLine n a v := by
  intro h
  have hl := congrArg String.toList h
  rw [toList_attrLine, String.toList_append, hk.1, List.append_assoc, List.singleton_append]
    at hl
  obtain ⟨-, hdot, -⟩ := nameChars_split_inj hk.2 hn (by decide) (by decide) hl
  cases hdot

/-- Every graph line starts with its key. -/
theorem GraphAttributes.keyed_of_mem_lines {g : GraphAttributes} {l : String} (hl : l ∈ g.lines) :
    ∃ k w, GraphKey k ∧ l = k ++ w := by
  simp only [GraphAttributes.lines, List.mem_append, Option.mem_toList, Option.map_eq_some_iff]
    at hl
  -- one case per attribute, in the order the lines are written
  rcases hl with ((((((((((hl | hl) | hl) | hl) | hl) | hl) | hl) | hl) | hl) | hl) | hl)
  · split at hl
    · simp at hl
    · exact ⟨"graph_title ", g.title, by decide, by simpa using hl⟩
  · obtain ⟨t, -, rfl⟩ := hl
    exact ⟨"graph_category ", t, by decide, rfl⟩
  · obtain ⟨t, -, rfl⟩ := hl
    exact ⟨"graph_vlabel ", t, by decide, rfl⟩
  · obtain ⟨b, -, rfl⟩ := hl
    exact ⟨"graph_scale ", _, by decide, rfl⟩
  · obtain ⟨t, -, rfl⟩ := hl
    exact ⟨"graph_args ", t, by decide, rfl⟩
  · obtain ⟨q, -, rfl⟩ := hl
    exact ⟨"graph_period ", q.word, by decide, rfl⟩
  · obtain ⟨d, -, rfl⟩ := hl
    exact ⟨"update_rate ", _, by decide, rfl⟩
  · obtain ⟨w, -, rfl⟩ := hl
    exact ⟨"graph_width ", _, by decide, rfl⟩
  · obtain ⟨h, -, rfl⟩ := hl
    exact ⟨"graph_height ", _, by decide, rfl⟩
  · split at hl
    · simp at hl
    · exact ⟨"graph_order ", _, by decide, by simpa using hl⟩
  · obtain ⟨t, -, rfl⟩ := hl
    exact ⟨"graph_total ", t, by decide, rfl⟩

theorem GraphAttributes.attrLine_not_mem_lines (g : GraphAttributes) {n : String}
    (hn : NameChars n) (a : FieldAttr) (v : String) : attrLine n a v ∉ g.lines := by
  intro hmem
  obtain ⟨k, w, hk, heq⟩ := g.keyed_of_mem_lines hmem
  exact attrLine_ne_keyed hn hk a v w heq.symm

theorem attrLine_ne_endOfBlock (n : String) (a : FieldAttr) (v : String) :
    attrLine n a v ≠ endOfBlock := by
  intro h
  have hlen := congrArg (·.toList.length) h
  simp only [toList_attrLine, List.length_append, List.length_cons] at hlen
  have hend : endOfBlock.toList.length = 1 := by decide
  cases a <;> simp [FieldAttr.word, hend] at hlen <;> omega

/-! ## Targets, and the blocks in the format's terms -/

/-- The name a field gives as its negative, if any. -/
def Field.negativeName (f : Field) : Option String := f.attributes.negative.map FieldName.text

namespace Plugin

variable (p : Plugin)

/-- Some field of the plugin is named `n`. -/
def HasField (n : String) : Prop := ∃ f ∈ p.fields, f.name = n

/-- `n` is a negative target: a field not named `n` gives `n` as its negative. -/
def IsTarget (n : String) : Prop := ∃ f ∈ p.fields, f.negativeName = some n ∧ f.name ≠ n

instance (n : String) : Decidable (p.HasField n) :=
  List.decidableBEx _ p.fields

instance (n : String) : Decidable (p.IsTarget n) :=
  List.decidableBEx _ p.fields

/-- The fields in the order of their blocks: the targets, then the others, each group in field
order. -/
def targetsFirst : List Field :=
  p.fields.filter (fun f ↦ decide (p.IsTarget f.name)) ++
    p.fields.filter (fun f ↦ !decide (p.IsTarget f.name))

/-- The attributes of a field's block, with their values: its label; its drawing style, warning
and critical ranges when set; its negative when that is another field of the plugin; and
`graph no` when it is a target. -/
def attrs (f : Field) : List (FieldAttr × String) :=
  let a := f.attributes
  (.label, a.label) ::
    ((a.style.token.map (.draw, ·)).toList ++
    (a.warning.text?.map (.warning, ·)).toList ++
    (a.critical.text?.map (.critical, ·)).toList ++
    ((f.negativeName.filter fun t ↦ decide (t ≠ f.name ∧ p.HasField t)).map (.negative, ·)).toList ++
    if p.IsTarget f.name then [(.graph, "no")] else [])

/-- The block of a field: an attribute line for each of its attributes. -/
def block (f : Field) : List String := (p.attrs f).map fun av ↦ attrLine f.name av.1 av.2

variable {p}

theorem mem_negativeTargets {n : String} : n ∈ p.negativeTargets ↔ p.IsTarget n := by
  simp only [negativeTargets, List.mem_filterMap, IsTarget, Field.negativeName]
  refine exists_congr fun f ↦ and_congr_right fun _ ↦ ?_
  cases f.attributes.negative with
  | none => simp
  | some t =>
    by_cases h : t.text = f.name
    · -- a field naming itself names no target
      simp only [h, beq_self_eq_true, ↓reduceIte, reduceCtorEq, Option.map_some,
        Option.some.injEq, false_iff, not_and]
      intro ht hne
      exact hne ht
    · simp only [beq_iff_eq, h, ↓reduceIte, Option.some.injEq, Option.map_some]
      constructor
      · rintro rfl
        exact ⟨rfl, Ne.symm h⟩
      · rintro ⟨rfl, -⟩
        rfl

theorem isSome_field? {t : String} : (p.field? t).isSome ↔ p.HasField t := by
  simp [field?, HasField, List.find?_isSome]

theorem contains_negativeTargets (n : String) :
    p.negativeTargets.contains n = decide (p.IsTarget n) := by
  rw [Bool.eq_iff_iff, List.contains_iff_mem, mem_negativeTargets, decide_eq_true_iff]

theorem fieldLines_eq_block (f : Field) : p.fieldLines p.negativeTargets f = p.block f := by
  have hgraph : f.name ++ ".graph no" = f.name ++ ".graph " ++ "no" := by
    simp [String.append_assoc]
  -- the lines agree text for text once the negative and the target mark are known
  by_cases htarget : p.IsTarget f.name <;> cases hneg : f.attributes.negative with
  | none =>
    simp [fieldLines, block, attrs, hneg, htarget, mem_negativeTargets, Field.negativeName,
      attrLine, FieldAttr.word, Option.toList_map, Function.comp_def, hgraph]
  | some t =>
    by_cases hself : t.text = f.name
    · simp [fieldLines, block, attrs, hneg, htarget, hself, mem_negativeTargets,
        Field.negativeName, attrLine, FieldAttr.word, Option.toList_map, Function.comp_def, hgraph]
    · by_cases hhas : p.HasField t.text <;>
        simp [fieldLines, block, attrs, hneg, htarget, hself, hhas, mem_negativeTargets,
          Field.negativeName, attrLine, FieldAttr.word, Option.toList_map, Function.comp_def,
          hgraph, isSome_field?, Option.filter_some]

theorem blockOrder_eq : p.blockOrder = p.targetsFirst := by
  simp only [blockOrder, targetsFirst, contains_negativeTargets]

/-- **The answer to `config`, block by block.** -/
theorem configLines_eq :
    p.configLines = p.graph.lines ++ p.targetsFirst.flatMap p.block ++ [endOfBlock] := by
  have hblocks : p.fieldLines p.negativeTargets = p.block := funext fieldLines_eq_block
  rw [configLines, blockOrder_eq, List.flatMap_def, hblocks]

theorem targetsFirst_perm : p.targetsFirst.Perm p.fields :=
  List.filter_append_perm _ _

/-- **Where a dotted line can be.** A line of a field name and an attribute is in the answer
exactly when it is in the block of some field. -/
theorem mem_configLines_attrLine {n : String} (hn : NameChars n) {a : FieldAttr} {v : String} :
    attrLine n a v ∈ p.configLines ↔ ∃ f ∈ p.fields, attrLine n a v ∈ p.block f := by
  rw [configLines_eq]
  simp only [List.mem_append, List.mem_flatMap, List.mem_singleton,
    p.graph.attrLine_not_mem_lines hn, attrLine_ne_endOfBlock, false_or, or_false,
    targetsFirst_perm.mem_iff]

/-- A dotted line of a field name is in a block exactly when it is about the block's field and
the attribute and value are among the field's. -/
theorem mem_block {f : Field} {n : String} (hn : NameChars n) {a : FieldAttr} {v : String} :
    attrLine n a v ∈ p.block f ↔ n = f.name ∧ (a, v) ∈ p.attrs f := by
  simp only [block, List.mem_map]
  constructor
  · rintro ⟨⟨a', v'⟩, hmem, h⟩
    obtain ⟨rfl, rfl, rfl⟩ := (attrLine_eq_attrLine_iff f.nameChars hn).1 h
    exact ⟨rfl, hmem⟩
  · rintro ⟨rfl, hmem⟩
    exact ⟨(a, v), hmem, rfl⟩

theorem mem_attrs_label {f : Field} {L : String} :
    (.label, L) ∈ p.attrs f ↔ L = f.attributes.label := by
  simp [attrs]

theorem mem_attrs_negative {f : Field} {t : String} :
    (.negative, t) ∈ p.attrs f ↔ f.negativeName = some t ∧ t ≠ f.name ∧ p.HasField t := by
  simp [attrs]

theorem mem_attrs_graph {f : Field} {v : String} :
    (.graph, v) ∈ p.attrs f ↔ v = "no" ∧ p.IsTarget f.name := by
  simp [attrs, and_comm]

/-- A field that some other field names as its negative is marked `graph no` exactly when a
`.negative` line of the answer names it. -/
theorem graphNo_iff_negativeLine (t : String) :
    (∃ f ∈ p.fields, f.name = t ∧ attrLine t .graph "no" ∈ p.configLines) ↔
      ∃ g ∈ p.fields, attrLine g.name .negative t ∈ p.configLines := by
  constructor
  · rintro ⟨f, hf, rfl, hline⟩
    obtain ⟨f', -, hf'⟩ := (mem_configLines_attrLine f.nameChars).1 hline
    obtain ⟨hname, hgraph⟩ := (mem_block f.nameChars).1 hf'
    obtain ⟨-, g, hg, hneg, hne⟩ := mem_attrs_graph.1 hgraph
    -- the field that names `f` as its negative writes the `.negative` line
    rw [← hname] at hneg hne
    refine ⟨g, hg, (mem_configLines_attrLine g.nameChars).2 ⟨g, hg, ?_⟩⟩
    exact (mem_block g.nameChars).2 ⟨rfl, mem_attrs_negative.2 ⟨hneg, Ne.symm hne, f, hf, rfl⟩⟩
  · rintro ⟨g, -, hline⟩
    obtain ⟨g', hg', hg'line⟩ := (mem_configLines_attrLine g.nameChars).1 hline
    obtain ⟨-, hnegative⟩ := (mem_block g.nameChars).1 hg'line
    obtain ⟨hneg, hne, f, hf, rfl⟩ := mem_attrs_negative.1 hnegative
    -- the named field is a target, so its block marks it
    refine ⟨f, hf, rfl, (mem_configLines_attrLine f.nameChars).2 ⟨f, hf, ?_⟩⟩
    exact (mem_block f.nameChars).2 ⟨rfl, mem_attrs_graph.2 ⟨rfl, g', hg', hneg, Ne.symm hne⟩⟩

end Plugin

theorem DrawStyle.token_eq_none_iff (s : DrawStyle) : s.token = none ↔ s = .default := by
  cases s <;> simp [DrawStyle.token]

theorem ValueRange.text?_eq_none_iff (r : ValueRange) :
    r.text? = Option.none ↔ r.min = Option.none ∧ r.max = Option.none := by
  unfold ValueRange.text?
  split <;> simp_all

/-- **The layout of a configuration block.** The answer is the graph lines, the block of every
field in the stable partition that puts the targets first, and `.`; the partition keeps every
field once; a block has a `draw` line exactly for a style other than the default, and a range
line exactly for a range with a bound; and the fields marked `graph no` are exactly those that a
`.negative` line of the answer names. -/
theorem config_block_structure (p : Plugin) :
    p.configLines = p.graph.lines ++ p.targetsFirst.flatMap p.block ++ ["."] ∧
    p.targetsFirst.Perm p.fields ∧
    (∀ s : DrawStyle, s.token = none ↔ s = .default) ∧
    (∀ r : ValueRange, r.text? = none ↔ r.min = none ∧ r.max = none) ∧
    ∀ t, (∃ f ∈ p.fields, f.name = t ∧ attrLine t .graph "no" ∈ p.configLines) ↔
      ∃ g ∈ p.fields, attrLine g.name .negative t ∈ p.configLines :=
  ⟨Plugin.configLines_eq, Plugin.targetsFirst_perm, DrawStyle.token_eq_none_iff,
    ValueRange.text?_eq_none_iff, Plugin.graphNo_iff_negativeLine⟩

/-! ## A negative declared before the line that names it

The blocks of the targets come first, so the negative of a field that is not itself a target is
declared before that field's `.negative` line. Nothing orders the targets among themselves, so a
target that names another target as its negative may come before it.
-/

section Order

variable {p : Plugin}

/-- **The negative of a field that is not a target is declared first.** When a field that no
other field names as its negative writes `<name>.negative <t>`, the label line of `t` comes
before it: `t` is a target, and the targets' blocks come first. -/
theorem negative_target_declared_before {g : Field} {t : String}
    (hline : attrLine g.name .negative t ∈ p.configLines) (hn : ¬p.IsTarget g.name) :
    ∃ L, [attrLine t .label L, attrLine g.name .negative t].Sublist p.configLines := by
  obtain ⟨g', hg', hg'line⟩ := (Plugin.mem_configLines_attrLine g.nameChars).1 hline
  obtain ⟨hname, hnegative⟩ := (Plugin.mem_block g.nameChars).1 hg'line
  obtain ⟨hneg, hne, f, hf, rfl⟩ := Plugin.mem_attrs_negative.1 hnegative
  -- the negative is a target, and its block opens with its label
  have hlabel : attrLine f.name .label f.attributes.label ∈
      (p.fields.filter fun x ↦ decide (p.IsTarget x.name)).flatMap p.block :=
    List.mem_flatMap.2 ⟨f, List.mem_filter.2 ⟨hf, decide_eq_true ⟨g', hg', hneg, Ne.symm hne⟩⟩,
      (Plugin.mem_block f.nameChars).2 ⟨rfl, Plugin.mem_attrs_label.2 rfl⟩⟩
  -- the field that names it is no target, so its block comes among the others
  have hnegline : attrLine g.name .negative f.name ∈
      (p.fields.filter fun x ↦ !decide (p.IsTarget x.name)).flatMap p.block :=
    List.mem_flatMap.2 ⟨g', List.mem_filter.2 ⟨hg', by simpa [← hname] using hn⟩, hg'line⟩
  refine ⟨f.attributes.label, ?_⟩
  rw [Plugin.configLines_eq, Plugin.targetsFirst, List.flatMap_append]
  have hpair := (List.singleton_sublist.2 hlabel).append (List.singleton_sublist.2 hnegline)
  exact hpair.trans ((List.sublist_append_right _ _).trans (List.sublist_append_left _ _))

end Order

/-- A field labelled with its own name, with an optional negative, whose reading is unknown. -/
def linkField (n : FieldName) (negative : Option FieldName) : Field where
  attributes := { name := n, label := n.text, negative }
  reading := { outcome := .ok none }

/-- The fields of the chain `x → y → z`: `x` draws `y` below the axis, and `y` draws `z`. -/
def chainFields : List Field :=
  [linkField ⟨"x", by decide⟩ (some ⟨"y", by decide⟩),
    linkField ⟨"y", by decide⟩ (some ⟨"z", by decide⟩),
    linkField ⟨"z", by decide⟩ none]

/-- The plugin of the chain `x → y → z`. -/
def chainedNegatives : Plugin where
  name := "traffic"
  fields := chainFields

theorem chainedNegatives_configLines :
    chainedNegatives.configLines =
      [attrLine "y" .label "y"] ++ attrLine "y" .negative "z" ::
        [attrLine "y" .graph "no", attrLine "z" .label "z", attrLine "z" .graph "no",
          attrLine "x" .label "x", attrLine "x" .negative "y", "."] := by
  decide

/-- In the chain `x → y → z`, `x` is no target, and `y` is declared before `x.negative y`. -/
theorem chained_negative_first_link :
    attrLine "x" .negative "y" ∈ chainedNegatives.configLines ∧ ¬chainedNegatives.IsTarget "x" ∧
      ∃ L, [attrLine "y" .label L, attrLine "x" .negative "y"].Sublist
        chainedNegatives.configLines := by
  have hline : attrLine "x" .negative "y" ∈ chainedNegatives.configLines := by
    rw [chainedNegatives_configLines]
    decide
  have hn : ¬chainedNegatives.IsTarget "x" := by decide
  exact ⟨hline, hn, @negative_target_declared_before _
    (linkField ⟨"x", by decide⟩ (some ⟨"y", by decide⟩)) _ hline hn⟩

/-- Field `n` gives `t`, another name, as its negative. -/
def Plugin.Refers (p : Plugin) (n t : String) : Prop :=
  ∃ f ∈ p.fields, f.name = n ∧ f.negativeName = some t ∧ t ≠ n

/-- A relation along which a rank goes down has no cycle. -/
theorem not_transGen_self_of_rank {R : String → String → Prop} (rank : String → Nat)
    (hr : ∀ a b, R a b → rank b < rank a) (n : String) : ¬Relation.TransGen R n n := by
  have hdown : ∀ a b, Relation.TransGen R a b → rank b < rank a := by
    intro a b h
    induction h with
    | single hab => exact hr _ _ hab
    | tail _ hbc ih => exact Nat.lt_trans (hr _ _ hbc) ih
  exact fun h ↦ Nat.lt_irrefl _ (hdown n n h)

/-- Two entries are not in order in a list when the second occurs only once, after entries
that are all different from the first. -/
theorem not_pair_sublist {a b : String} {pre post : List String} (ha : a ∉ pre)
    (hb : b ∉ post) : ¬[a, b].Sublist (pre ++ b :: post) := by
  intro h
  obtain ⟨l₁, l₂, hsplit, h₁, h₂⟩ := List.sublist_append_iff.1 h
  match l₁, hsplit with
  | [], hsplit =>
    -- both entries lie in `b :: post`, so `b` occurs in `post`
    rw [List.nil_append] at hsplit
    subst hsplit
    rcases List.sublist_cons_iff.1 h₂ with h | ⟨r, hr, h⟩
    · exact hb (h.subset (by simp))
    · rw [List.cons.injEq] at hr
      obtain ⟨-, rfl⟩ := hr
      exact hb (h.subset List.mem_cons_self)
  | x :: l₁, hsplit =>
    -- the first entry lies in `pre`
    rw [List.cons_append, List.cons.injEq] at hsplit
    obtain ⟨rfl, -⟩ := hsplit
    exact ha (h₁.subset List.mem_cons_self)

/-- **A chain of negatives breaks the order.** The plugin built from the chain `x → y → z` has no
cycle of negatives, yet its answer writes `y.negative z` before any `z.label` line: `y` and `z`
are both targets, and among the targets `y` comes first. -/
theorem chained_negative_declared_late :
    Plugin.new? "traffic" {} chainFields = .ok chainedNegatives ∧
    (∀ n, ¬Relation.TransGen chainedNegatives.Refers n n) ∧
    attrLine "y" .negative "z" ∈ chainedNegatives.configLines ∧
    ¬∃ L, [attrLine "z" .label L, attrLine "y" .negative "z"].Sublist
      chainedNegatives.configLines := by
  refine ⟨rfl, not_transGen_self_of_rank (fun n ↦ if n = "x" then 2 else if n = "y" then 1 else 0)
    ?_, by rw [chainedNegatives_configLines]; decide, ?_⟩
  · -- `x` names `y`, and `y` names `z`
    rintro a b ⟨f, hf, rfl, hneg, hne⟩
    simp only [chainedNegatives, chainFields, List.mem_cons, List.not_mem_nil, or_false] at hf
    rcases hf with rfl | rfl | rfl <;>
      simp only [linkField, Field.negativeName, Field.name, Option.map_some, Option.map_none,
        Option.some.injEq, reduceCtorEq] at hneg ⊢ <;>
      subst hneg <;> decide
  · rintro ⟨L, hsub⟩
    rw [chainedNegatives_configLines] at hsub
    refine not_pair_sublist ?_ (by decide) hsub
    simp only [List.mem_singleton]
    intro h
    exact absurd ((attrLine_eq_attrLine_iff (by decide) (by decide)).1 h).1 (by decide)

end MetricsNode
