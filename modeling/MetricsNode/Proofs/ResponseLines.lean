import MetricsNode.Node.Config
import MetricsNode.Proofs.EngineAnswers
import MetricsNode.Proofs.WireLines

/-!
# Answers survive the wire

Every line a node answers is either written by the node itself, from words, numbers and field
names, or holds a text it was given: the host name and version of its configuration, and the
names, graph texts and labels of its plugins. The first kind never holds a line break. Of the
second kind only the host name is checked for line breaks, by `NodeConfig.validate`; a label is
checked only for `#` and backslashes, and the other texts not at all. So the lines of an answer
are safe exactly as far as the free texts are.

## Main results

* `Builtin.run_safe`: a built-in command whose own texts are safe, run for a provider whose free
  texts are safe, answers safe lines.
* `answer_lines_survive_wire`: for a validated configuration whose version is a safe line and a
  provider whose free texts are safe lines, every answer of the node is made of safe lines and
  comes back off the wire line for line, however it is cut into chunks.
* `split_label_breaks_answer`: a label with a line feed in it passes the label check, and its
  configuration line comes back as two lines.
-/

namespace MetricsNode

open Wire

/-! ## The texts a node is given -/

/-- The texts of graph attributes that are written as they are given: the title, category,
vertical label, arguments and total. -/
def GraphAttributes.freeTexts (g : GraphAttributes) : List String :=
  g.title :: (g.category.toList ++ g.verticalLabel.toList ++ g.arguments.toList ++
    g.totalLabel.toList)

/-- The texts of a plugin that are written as they are given: its name, its graph's texts and
the labels of its fields. -/
def Plugin.freeTexts (p : Plugin) : List String :=
  p.name :: (p.graph.freeTexts ++ p.fields.map (·.attributes.label))

/-- The free texts of every plugin of a provider. -/
def Provider.freeTexts (p : Provider) : List String := p.plugins.flatMap Plugin.freeTexts

/-- The texts a command holds: the host name of `nodes` and the line of `version`. -/
def Builtin.freeTexts : Builtin → List String
  | .nodes h => [h]
  | .version line => [line]
  | _ => []

/-! ## Lines of one attribute -/

/-- An attribute line for an optional text: a word, then the text. -/
theorem lineSafe_optionLine {w : String} (hw : Unbroken w) {o : Option String}
    (ho : ∀ t ∈ o, LineSafe t) : ∀ l ∈ (o.map (w ++ ·)).toList, LineSafe l := by
  cases o with
  | none => simp
  | some t => simpa using hw.lineSafe.append (ho t rfl)

/-- An attribute line that the node writes itself. -/
theorem lineSafe_ownLine {α : Type} {f : α → String} (hf : ∀ x, Unbroken (f x))
    (o : Option α) : ∀ l ∈ (o.map f).toList, LineSafe l := by
  cases o with
  | none => simp
  | some x => simpa using (hf x).lineSafe

theorem GraphAttributes.lines_safe {g : GraphAttributes}
    (hg : ∀ t ∈ g.freeTexts, LineSafe t) : ∀ l ∈ g.lines, LineSafe l := by
  have hfree :
      ∀ {o : Option String}, (∀ t ∈ o, t ∈ g.freeTexts) → ∀ t ∈ o, LineSafe t :=
    fun ho t ht ↦ hg t (ho t ht)
  have hnat : ∀ (w : String) (n : Nat), Unbroken w → Unbroken (w ++ toString n) :=
    fun w n hw ↦ unbroken_append.2 ⟨hw, unbroken_natToString n⟩
  -- one goal per attribute, in the order the lines are written
  simp only [lines, List.forall_mem_append, and_assoc]
  refine ⟨?title, lineSafe_optionLine (by decide) (hfree ?category),
    lineSafe_optionLine (by decide) (hfree ?vlabel), lineSafe_ownLine (fun b ↦ ?scale) _,
    lineSafe_optionLine (by decide) (hfree ?args), lineSafe_ownLine (fun p ↦ ?period) _,
    lineSafe_ownLine (fun _ ↦ hnat _ _ (by decide)) _,
    lineSafe_ownLine (fun _ ↦ hnat _ _ (by decide)) _,
    lineSafe_ownLine (fun _ ↦ hnat _ _ (by decide)) _, ?order,
    lineSafe_optionLine (by decide) (hfree ?total)⟩
  case title =>
    split
    · simp
    · simpa using (by decide : Unbroken "graph_title ").lineSafe.append (hg _ List.mem_cons_self)
  case scale => cases b <;> decide
  case period => cases p <;> decide
  case order =>
    split
    · simp
    · have hnames : ∀ t ∈ g.order.map (·.text), LineSafe t := by
        simp only [List.mem_map]
        rintro t ⟨n, -, rfl⟩
        exact n.unbroken.lineSafe
      simpa using (by decide : Unbroken "graph_order ").lineSafe.append
        ((by decide : LineSafe " ").intercalate hnames)
  all_goals
    intro t ht
    simp [freeTexts, Option.mem_def.1 ht]

theorem Plugin.fieldLines_safe (p : Plugin) (targets : List String) {f : Field}
    (hlabel : LineSafe f.attributes.label) : ∀ l ∈ p.fieldLines targets f, LineSafe l := by
  -- every line starts with the field's name and an attribute word
  have hname : ∀ w : String, Unbroken w → Unbroken (f.name ++ w) :=
    fun w hw ↦ unbroken_append.2 ⟨f.attributes.name.unbroken, hw⟩
  simp only [fieldLines, List.forall_mem_append, and_assoc]
  refine ⟨?_, ?_, ?_, ?_, ?_, ?_⟩
  · simpa using (hname ".label " (by decide)).lineSafe.append hlabel
  · exact lineSafe_optionLine (hname ".draw " (by decide))
      fun t ht ↦ (DrawStyle.unbroken_token ht).lineSafe
  · exact lineSafe_optionLine (hname ".warning " (by decide))
      fun t ht ↦ (ValueRange.unbroken_text ht).lineSafe
  · exact lineSafe_optionLine (hname ".critical " (by decide))
      fun t ht ↦ (ValueRange.unbroken_text ht).lineSafe
  · split
    · next t _ =>
      split
      · simpa [← String.append_assoc] using
          (unbroken_append.2 ⟨hname ".negative " (by decide), t.unbroken⟩).lineSafe
      · simp
    · simp
  · split
    · simpa using (hname ".graph no" (by decide)).lineSafe
    · simp

theorem Plugin.configLines_safe {p : Plugin} (hp : ∀ t ∈ p.freeTexts, LineSafe t) :
    ∀ l ∈ p.configLines, LineSafe l := by
  have hgraph : ∀ t ∈ p.graph.freeTexts, LineSafe t :=
    fun t ht ↦ hp t (by simp [freeTexts, ht])
  have hlabel : ∀ f ∈ p.fields, LineSafe f.attributes.label := fun f hf ↦
    hp _ (List.mem_cons_of_mem _ (List.mem_append_right _ (List.mem_map_of_mem hf)))
  -- the blocks are those of the plugin's own fields, in another order
  have hblock : ∀ f ∈ p.blockOrder, f ∈ p.fields := by
    intro f hf
    simp only [blockOrder, List.mem_append, List.mem_filter] at hf
    rcases hf with ⟨hf, -⟩ | ⟨hf, -⟩ <;> exact hf
  intro l hl
  simp only [configLines, List.mem_append, List.mem_flatten, List.mem_map,
    List.mem_singleton] at hl
  rcases hl with (hl | ⟨-, ⟨f, hf, rfl⟩, hl⟩) | rfl
  · exact GraphAttributes.lines_safe hgraph l hl
  · exact p.fieldLines_safe _ (hlabel f (hblock f hf)) l hl
  · decide

/-! ## Answers -/

/-- A value read from a field is a number as the wire writes it, or `U`. -/
theorem Field.unbroken_of_fetch {f : Field} {c c' : Cancellation} {v : String}
    (h : f.fetch c = (.ok v, c')) : Unbroken v := by
  unfold Field.fetch at h
  split at h
  · cases h
  · obtain ⟨hv, -⟩ := Prod.mk.inj h
    cases hr : f.reading.outcome with
    | error e => simp [hr, Except.map] at hv
    | ok x =>
      simp only [hr, Except.map, Except.ok.injEq] at hv
      exact hv ▸ unbroken_formatValue x

theorem fetchValues_safe : ∀ {fields : List Field} {c : Cancellation} {lines : List String},
    (fetchValues fields c).1 = .ok lines → ∀ l ∈ lines, LineSafe l
  | [], _, _, h => by
    cases h
    simp
  | f :: rest, c, lines, h => by
    -- one `value` line for the first field, then the lines of the others
    unfold fetchValues at h
    split at h
    · cases h
    · next v c₁ hf =>
      cases hr : fetchValues rest c₁ with
      | mk r c₂ =>
        rw [hr] at h
        cases r with
        | error e => cases h
        | ok rest' =>
          cases h
          intro l hl
          rcases List.mem_cons.1 hl with rfl | hl
          · have hword : Unbroken (f.name ++ ".value ") :=
              unbroken_append.2 ⟨f.attributes.name.unbroken, by decide⟩
            exact (unbroken_append.2 ⟨hword, Field.unbroken_of_fetch hf⟩).lineSafe
          · exact fetchValues_safe (by rw [hr]) l hl

/-- The free texts of a plugin a provider finds are free texts of the provider. -/
theorem Provider.freeTexts_of_find? {p : Provider} {name : String} {pl : Plugin}
    (h : p.find? name = some pl) : ∀ t ∈ pl.freeTexts, t ∈ p.freeTexts :=
  fun _ ht ↦ List.mem_flatMap.2 ⟨pl, List.mem_of_find?_eq_some h, ht⟩

/-- **Every command answers safe lines**, when its own texts and the provider's free texts are
safe. -/
theorem Builtin.run_safe {cmd : Builtin} (hcmd : ∀ t ∈ cmd.freeTexts, LineSafe t)
    {provider : Provider} (hprovider : ∀ t ∈ provider.freeTexts, LineSafe t) {args : String}
    {c c' : Cancellation} {reply : Reply} (h : cmd.run provider args c = (.ok reply, c')) :
    ∀ l ∈ reply.lines, LineSafe l := by
  cases cmd with
  | cap =>
    cases h
    decide
  | list =>
    cases h
    have hnames : ∀ t ∈ provider.names, LineSafe t := by
      simp only [Provider.names, List.mem_map]
      rintro t ⟨pl, hpl, rfl⟩
      exact hprovider _ (List.mem_flatMap.2 ⟨pl, hpl, List.mem_cons_self⟩)
    simpa using (by decide : LineSafe " ").intercalate hnames
  | nodes host =>
    cases h
    intro l hl
    rcases List.mem_cons.1 hl with rfl | hl
    · exact hcmd l (by simp [freeTexts])
    · rw [List.mem_singleton.1 hl]
      decide
  | version line =>
    cases h
    simpa using hcmd line (by simp [freeTexts])
  | config =>
    simp only [run] at h
    split at h
    · next pl hfind =>
      -- the reply is the block itself; `cases h` would unfold it
      obtain rfl := Except.ok.inj (Prod.mk.inj h).1
      exact Plugin.configLines_safe fun t ht ↦
        hprovider t (Provider.freeTexts_of_find? hfind t ht)
    · cases h
      decide
  | fetch =>
    simp only [run] at h
    split at h
    · split at h
      · next lines _ hvalues =>
        obtain rfl := Except.ok.inj (Prod.mk.inj h).1
        intro l hl
        rcases List.mem_append.1 hl with hl | hl
        · exact fetchValues_safe hvalues l hl
        · rw [List.mem_singleton.1 hl]
          decide
      · cases h
    · cases h
      decide
  | help =>
    cases h
    decide

/-- An engine whose built-in commands hold safe texts, over a provider whose free texts are safe,
answers safe lines. -/
theorem Protocol.handle_safe {p : Protocol}
    (hr : ∀ cmd ∈ p.registry.entries, ∀ t ∈ cmd.freeTexts, LineSafe t)
    (hprovider : ∀ t ∈ p.provider.freeTexts, LineSafe t) {line : Bytes}
    {c c' : Cancellation} {reply : Reply} (h : p.handle line c = (.ok reply, c')) :
    ∀ l ∈ reply.lines, LineSafe l := by
  rcases p.handle_cases line c with ⟨-, hquit⟩ | ⟨-, b, hb, a, hrun⟩
  · rw [hquit] at h
    cases h
    simp [Reply.quit]
  · rw [hrun] at h
    exact Builtin.run_safe (hr b hb) hprovider h

/-! ## A node's answers -/

/-- The line-break test of the configuration check fails exactly on unbroken texts. -/
theorem unbroken_iff_any_eq_false (s : String) :
    Unbroken s ↔ s.any (fun ch ↦ ch == '\r' || ch == '\n') = false := by
  have hany : s.any (fun ch ↦ ch == '\r' || ch == '\n') = s.toList.any _ :=
    String.contains_bool_eq
  rw [hany, List.any_eq_false]
  simp only [Unbroken, Bool.or_eq_true, beq_iff_eq, not_or]
  exact forall₂_congr fun _ _ ↦ and_comm

/-- What the configuration check accepts: a host name that is not blank and holds no line break,
and positive session limits. -/
theorem NodeConfig.validate_eq_ok_iff (config : NodeConfig) :
    config.validate = .ok () ↔ (Text.trimUnicode config.hostname).isEmpty = false ∧
      Unbroken config.hostname ∧ config.session.readChunkSize ≠ 0 ∧
      config.session.maxPendingChunks ≠ 0 := by
  rw [unbroken_iff_any_eq_false]
  unfold NodeConfig.validate
  cases (Text.trimUnicode config.hostname).isEmpty <;>
    cases config.hostname.any (fun ch ↦ ch == '\r' || ch == '\n') <;>
    by_cases hchunk : config.session.readChunkSize = 0 <;>
    by_cases hpending : config.session.maxPendingChunks = 0 <;>
    simp [hchunk, hpending]

/-- The commands of a node with an unbroken host name and a safe version hold safe texts. -/
theorem Registry.standard_freeTexts {host version : String} (hhost : Unbroken host)
    (hversion : LineSafe version) :
    ∀ cmd ∈ (Registry.standard host version).entries, ∀ t ∈ cmd.freeTexts, LineSafe t := by
  have hline : LineSafe (productName ++ " on " ++ host ++ " version: " ++ version) := by
    have hwords : Unbroken (productName ++ " on " ++ host ++ " version: ") := by
      simp only [unbroken_append]
      exact ⟨⟨⟨by decide, by decide⟩, hhost⟩, by decide⟩
    exact hwords.lineSafe.append hversion
  intro cmd hcmd t ht
  simp only [Registry.entries, Registry.standard, Builtin.versionOf, List.mem_cons,
    List.not_mem_nil, or_false] at hcmd
  rcases hcmd with rfl | rfl | rfl | rfl | rfl | rfl | rfl
  all_goals simp only [Builtin.freeTexts, List.mem_singleton, List.not_mem_nil] at ht
  · rw [ht]
    exact hhost.lineSafe
  · rw [ht]
    exact hline

/-- **Answers survive the wire.** For a validated configuration whose version is a safe line, and
a provider whose plugin names, graph texts and labels are safe lines, every line of every
answer to any command line holds no line feed and does not end with a carriage return; and
however its bytes are cut into chunks, the framer gives back exactly its lines and is left
empty. -/
theorem answer_lines_survive_wire (config : NodeConfig) (hconfig : config.validate = .ok ())
    (hversion : LineSafe config.version) (provider : Provider)
    (hprovider : ∀ t ∈ provider.freeTexts, LineSafe t) (line : Bytes) (c : Cancellation) :
    ∀ reply c', (Protocol.standard config.hostname config.version provider).handle line c =
        (.ok reply, c') →
      (∀ l ∈ reply.lines, LineSafe l) ∧
        ∀ cs : List Bytes, cs.flatten = encodeLines reply.lines →
          (Framer.feedAll {} cs).1.flatten = reply.lines.map encodeUtf8 ∧
            (Framer.feedAll {} cs).2 = {} := by
  intro reply c' h
  have hhost : Unbroken config.hostname := ((NodeConfig.validate_eq_ok_iff config).1 hconfig).2.1
  have hsafe : ∀ l ∈ reply.lines, LineSafe l :=
    Protocol.handle_safe (Registry.standard_freeTexts hhost hversion) hprovider h
  exact ⟨hsafe, fun cs hcs ↦ framing_encodeLines hsafe cs hcs⟩

/-- A node as configured by default on `localhost`, serving one plugin, asked for its list. -/
theorem localhost_answers_survive_wire :
    (NodeConfig.new "localhost").validate = .ok () ∧
      LineSafe (NodeConfig.new "localhost").version ∧
      (∀ t ∈ ({ plugins := [{ name := "load" }] } : Provider).freeTexts, LineSafe t) ∧
      ∀ reply c', (Protocol.standard "localhost" packageVersion
          { plugins := [{ name := "load" }] }).handle (encodeUtf8 "list") {} = (.ok reply, c') →
        (∀ l ∈ reply.lines, LineSafe l) ∧
          ∀ cs : List Bytes, cs.flatten = encodeLines reply.lines →
            (Framer.feedAll {} cs).1.flatten = reply.lines.map encodeUtf8 ∧
              (Framer.feedAll {} cs).2 = {} := by
  have hconfig : (NodeConfig.new "localhost").validate = .ok () :=
    (NodeConfig.validate_eq_ok_iff _).2 ⟨by decide, by decide, by decide, by decide⟩
  have hversion : LineSafe (NodeConfig.new "localhost").version := by decide
  have hprovider :
      ∀ t ∈ ({ plugins := [{ name := "load" }] } : Provider).freeTexts, LineSafe t := by
    decide
  exact ⟨hconfig, hversion, hprovider, answer_lines_survive_wire (NodeConfig.new "localhost")
    hconfig hversion _ hprovider (encodeUtf8 "list") {}⟩

/-! ## A label across two lines -/

/-- A field labelled across two lines, as the label check lets through. -/
def splitLabelField : Field where
  attributes := { name := ⟨"x", rfl⟩, label := "a\nb" }
  reading := { outcome := .ok none }

/-- A plugin with that one field. -/
def splitLabelPlugin : Plugin where
  name := "load"
  fields := [splitLabelField]

/-- Labels are not checked for line breaks: a field labelled `a`, line feed, `b` is built, its
plugin too, and the configuration block of a validated node then holds a line with a line feed,
which the wire delivers as two lines. -/
theorem split_label_breaks_answer :
    (NodeConfig.new "localhost").validate = .ok () ∧
      (FieldAttributes.new? ⟨"x", rfl⟩ "a\nb").toOption = some splitLabelField.attributes ∧
      (Plugin.new? "load" {} [splitLabelField]).toOption = some splitLabelPlugin ∧
      (Protocol.standard "localhost" packageVersion { plugins := [splitLabelPlugin] }).handle
          (encodeUtf8 "config load") {} = (.ok ⟨["x.label a\nb", "."], .carryOn⟩, {}) ∧
      ¬LineSafe "x.label a\nb" ∧
      (Framer.feedAll {} [encodeLines ["x.label a\nb", "."]]).1.flatten =
        ["x.label a", "b", "."].map encodeUtf8 := by
  have hconfig : (NodeConfig.new "localhost").validate = .ok () :=
    (NodeConfig.validate_eq_ok_iff _).2 ⟨by decide, by decide, by decide, by decide⟩
  -- the command line decodes to `config load`
  have henc :
      encodeUtf8 "config load" = [99, 111, 110, 102, 105, 103, 32, 108, 111, 97, 100] := by
    decide
  have hdec :
      decodeLossy [99, 111, 110, 102, 105, 103, 32, 108, 111, 97, 100] = "config load" := by
    simp [decodeLossy, decodeLossyChars]
  refine ⟨hconfig, rfl, rfl, by rw [Protocol.handle, henc, hdec]; rfl, by decide, ?_⟩
  -- the framer reads the complete lines of what it was fed
  have hframe := (Framer.feedAll_after [] [encodeLines ["x.label a\nb", "."]]).1
  rw [Framer.after_nil] at hframe
  rw [hframe]
  decide

end MetricsNode
