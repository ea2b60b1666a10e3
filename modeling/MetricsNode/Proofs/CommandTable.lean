import MetricsNode.Proofs.EngineAnswers

/-!
# The command table

A line that is not a quit line is answered by the command its word selects, in the table of the
standard registry: `cap`, `list`, `nodes`, `version`, `config <plugin>` and `fetch <plugin>`, and
the usage line for any other line. A line selects a word when it is the word alone, or the word,
one space and an argument that runs to the end of the line. No line selects two of the six words,
since none of them begins another, so the order in which the registry tries them never shows.

`config` and `fetch` look up the first plugin named exactly as the argument. `fetch` reads the
plugin's fields in order, each only while the token is live; a reading may cancel a token on the
way, and the next field sees it. The answer is a `value` line per field and `.` when every
reading gives a sample, and otherwise the error of the first field that could not be read:
`Cancelled` if the token was cancelled by then, the reading's own error if not.

## Main results

* `matchCommand_eq_some_iff`: `matchCommand` finds exactly the lines that select a word.
* `Provider.find?_eq_some_iff`: the plugin found for a name is the first one named so.
* `fetchValues_eq_ok_iff`, `fetchValues_eq_error_iff`: what reading the fields gives, against
  `Reads`, the fields read in order on a live token.
* `standard_answers_by_table`: the table.
-/

namespace MetricsNode

open Wire

/-! ## Selecting a command -/

/-- A line selects a command word with an argument: the word alone, with the empty argument, or
the word, one space, and the argument. -/
def Selects (line word arg : String) : Prop :=
  line = word ∧ arg = "" ∨ line = word ++ " " ++ arg

theorem prefix_of_selects {line word arg : String} (hs : Selects line word arg) :
    word.toList <+: line.toList := by
  rcases hs with ⟨rfl, -⟩ | rfl
  · exact List.prefix_refl _
  · simp

/-- **Matching a command word.** `matchCommand` gives an argument exactly for the lines that
select the word, and it gives that argument. -/
theorem matchCommand_eq_some_iff {line word arg : String} :
    matchCommand line word = some arg ↔ Selects line word arg := by
  constructor
  · intro h
    unfold matchCommand at h
    split at h
    · rename_i hpre
      obtain ⟨rest, hrest⟩ := List.isPrefixOf_iff_prefix.1 hpre
      have hdrop : line.toList.drop word.length = rest := by
        rw [← hrest, ← String.length_toList, List.drop_left]
      rw [hdrop] at h
      cases rest with
      | nil =>
        -- the word alone
        refine .inl ⟨String.toList_inj.1 ?_, (Option.some.inj h).symm⟩
        rw [← hrest, List.append_nil]
      | cons ch r =>
        by_cases hch : ch = ' '
        · -- the word, a space and the argument
          subst hch
          refine .inr (String.toList_inj.1 ?_)
          rw [← hrest, ← Option.some.inj h]
          simp
        · -- any other byte after the word: no match
          split at h
          · rename_i heq
            cases heq
          · rename_i heq
            exact absurd (List.cons.inj heq).1 hch
          · cases h
    · cases h
  · rintro (⟨rfl, rfl⟩ | rfl)
    · simp [matchCommand, ← String.length_toList]
    · simp [matchCommand, ← String.length_toList]

/-- A line that selects one word selects no word that neither begins it nor is begun by it. -/
theorem matchCommand_eq_none_of_selects {line word other arg : String}
    (hs : Selects line word arg) (h₁ : ¬other.toList <+: word.toList)
    (h₂ : ¬word.toList <+: other.toList) : matchCommand line other = none := by
  unfold matchCommand
  rw [if_neg]
  intro hpre
  -- two prefixes of one line: one of them begins the other
  have hother : other.toList <+: line.toList := List.isPrefixOf_iff_prefix.1 hpre
  rcases List.prefix_or_prefix_of_prefix hother (prefix_of_selects hs) with h | h
  · exact h₁ h
  · exact h₂ h

namespace Registry

variable {σ : Type} {r : Registry (Command σ)}

/-- The registry takes a line to the first of its commands whose word the line selects. -/
theorem select?_of_selects (pre : List (Command σ)) {post : List (Command σ)} {cmd : Command σ}
    {line arg : String} (hcmds : r.commands = pre ++ cmd :: post)
    (hpre : ∀ c ∈ pre, matchCommand line c.word = none) (hs : Selects line cmd.word arg) :
    r.select? line = some (cmd, arg) := by
  have hnone : pre.findSome? (fun c ↦ (matchCommand line c.word).map (c, ·)) = none := by
    rw [List.findSome?_eq_none_iff]
    intro c hc
    rw [hpre c hc, Option.map_none]
  rw [select?, hcmds, List.findSome?_append, hnone, Option.none_or, List.findSome?_cons,
    matchCommand_eq_some_iff.2 hs, Option.map_some]

/-- The registry takes a line to a command whose word it selects when every word tried before
neither begins that word nor is begun by it. -/
theorem select?_of_unrelated (pre : List (Command σ)) {post : List (Command σ)}
    {cmd : Command σ} {line arg : String} (hcmds : r.commands = pre ++ cmd :: post)
    (hpre : ∀ c ∈ pre, ¬c.word.toList <+: cmd.word.toList ∧ ¬cmd.word.toList <+: c.word.toList)
    (hs : Selects line cmd.word arg) : r.select? line = some (cmd, arg) :=
  select?_of_selects pre hcmds
    (fun c hc ↦ matchCommand_eq_none_of_selects hs (hpre c hc).1 (hpre c hc).2) hs

/-- The registry gives a line to its fallback when the line selects none of its words. -/
theorem select?_eq_none {line : String}
    (h : ∀ c ∈ r.commands, ∀ a, ¬Selects line c.word a) : r.select? line = none := by
  rw [select?, List.findSome?_eq_none_iff]
  intro c hc
  cases hm : matchCommand line c.word with
  | none => rfl
  | some a => exact absurd (matchCommand_eq_some_iff.1 hm) (h c hc a)

/-- An answered line that is not a quit line is answered by the command it selects. -/
theorem dispatch_of_select? {line : String} {s : σ} (hq : isQuitLine line = false) :
    r.dispatch line s =
      match r.select? line with
      | some (cmd, args) => cmd.run args s
      | none => r.fallback.run "" s := by
  unfold dispatch
  rw [hq]
  rfl

end Registry

/-! ## Finding a plugin -/

/-- `pl` is the first plugin of the provider named exactly `name`. -/
def Provider.FirstNamed (p : Provider) (name : String) (pl : Plugin) : Prop :=
  ∃ pre post, p.plugins = pre ++ pl :: post ∧ pl.name = name ∧ ∀ q ∈ pre, q.name ≠ name

theorem Provider.find?_eq_some_iff {p : Provider} {name : String} {pl : Plugin} :
    p.find? name = some pl ↔ p.FirstNamed name pl := by
  simp only [find?, List.find?_eq_some_iff_append, beq_iff_eq, FirstNamed]
  constructor
  · rintro ⟨hname, pre, post, hsplit, hpre⟩
    exact ⟨pre, post, hsplit, hname, fun q hq ↦ by simpa using hpre q hq⟩
  · rintro ⟨pre, post, hsplit, hname, hpre⟩
    exact ⟨hname, pre, post, hsplit, fun q hq ↦ by simpa using hpre q hq⟩

theorem Provider.find?_eq_none_iff {p : Provider} {name : String} :
    p.find? name = none ↔ ∀ q ∈ p.plugins, q.name ≠ name := by
  simp [find?, List.find?_eq_none]

/-! ## Reading the fields -/

/-- The token after a field was read: the reading may cancel a token on the way. -/
def Cancellation.afterReading (c : Cancellation) (f : Field) : Cancellation :=
  match f.reading.cancels with
  | some scope => c.cancel scope
  | none => c

/-- The `value` line of a field with a sample. -/
def valueLine (f : Field) (v : Option Float) : String := f.name ++ ".value " ++ formatValue v

/-- The fields are read in order, each on a live token and each giving a sample: `Reads fields c
vs c'` with the samples `vs` and the token `c'` after the last reading. -/
inductive Reads : List Field → Cancellation → List (Option Float) → Cancellation → Prop
  | nil (c : Cancellation) : Reads [] c [] c
  | cons {f : Field} {fields : List Field} {c c' : Cancellation} {v : Option Float}
      {vs : List (Option Float)} (live : c.isCancelled = false) (read : f.reading.outcome = .ok v)
      (rest : Reads fields (c.afterReading f) vs c') : Reads (f :: fields) c (v :: vs) c'

/-- Reading a field ends the fetch with an error: on a cancelled token, `Cancelled`; on a live
one, the reading's own error, after the reading's cancellation took effect. -/
def Stops (f : Field) (c : Cancellation) (e : PluginError) (c' : Cancellation) : Prop :=
  c.isCancelled = true ∧ e = .cancelled ∧ c' = c ∨
    c.isCancelled = false ∧ f.reading.outcome = .error e ∧ c' = c.afterReading f

theorem Field.fetch_of_cancelled (f : Field) {c : Cancellation} (hc : c.isCancelled = true) :
    f.fetch c = (.error .cancelled, c) := by
  simp [Field.fetch, hc]

theorem Field.fetch_of_live (f : Field) {c : Cancellation} (hc : c.isCancelled = false) :
    f.fetch c = (f.reading.outcome.map formatValue, c.afterReading f) := by
  unfold Field.fetch
  rw [hc]
  rfl

/-- Fields read in order give their `value` lines. -/
theorem fetchValues_of_reads {fields : List Field} {c c' : Cancellation}
    {vs : List (Option Float)} (h : Reads fields c vs c') :
    fetchValues fields c = (.ok (List.zipWith valueLine fields vs), c') := by
  induction h with
  | nil c => rfl
  | @cons f fields c c' v vs live read rest ih =>
    rw [fetchValues, f.fetch_of_live live, read]
    simp [Except.map, ih, valueLine]

/-- Fields read in order up to one that stops the fetch give that field's error. -/
theorem fetchValues_of_stops {pre post : List Field} {f : Field} {c t c' : Cancellation}
    {vs : List (Option Float)} {e : PluginError} (h : Reads pre c vs t) (hs : Stops f t e c') :
    fetchValues (pre ++ f :: post) c = (.error e, c') := by
  induction h with
  | nil c =>
    rcases hs with ⟨hc, rfl, rfl⟩ | ⟨hc, herr, rfl⟩
    · simp [fetchValues, f.fetch_of_cancelled hc]
    · simp [fetchValues, f.fetch_of_live hc, herr, Except.map]
  | @cons g fields c t v vs live read rest ih =>
    rw [List.cons_append, fetchValues, g.fetch_of_live live, read]
    simp [Except.map, ih hs]

/-- Reading the fields either gets through all of them or stops at one. -/
theorem reads_or_stops (fields : List Field) (c : Cancellation) :
    (∃ vs c', Reads fields c vs c') ∨
      ∃ pre f post vs t e c', fields = pre ++ f :: post ∧ Reads pre c vs t ∧
        Stops f t e c' := by
  induction fields generalizing c with
  | nil => exact .inl ⟨[], c, .nil c⟩
  | cons f rest ih =>
    cases hc : c.isCancelled
    · cases hread : f.reading.outcome with
      | error e => exact .inr ⟨[], f, rest, [], c, e, _, rfl, .nil c, .inr ⟨hc, hread, rfl⟩⟩
      | ok v =>
        rcases ih (c.afterReading f) with
          ⟨vs, c', h⟩ | ⟨pre, g, post, vs, t, e, c', hsplit, h, hs⟩
        · exact .inl ⟨v :: vs, c', .cons hc hread h⟩
        · exact .inr ⟨f :: pre, g, post, v :: vs, t, e, c', by rw [hsplit, List.cons_append],
            .cons hc hread h, hs⟩
    · exact .inr ⟨[], f, rest, [], c, .cancelled, c, rfl, .nil c, .inl ⟨hc, rfl, rfl⟩⟩

/-- **A fetch that succeeds.** Reading the fields gives lines exactly when each field in turn is
read on a live token and gives a sample; the lines are then their `value` lines. -/
theorem fetchValues_eq_ok_iff {fields : List Field} {c c' : Cancellation} {lines : List String} :
    fetchValues fields c = (.ok lines, c') ↔
      ∃ vs, Reads fields c vs c' ∧ lines = List.zipWith valueLine fields vs := by
  constructor
  · intro h
    rcases reads_or_stops fields c with
      ⟨vs, c'', hr⟩ | ⟨pre, f, post, vs, t, e, c'', rfl, hr, hs⟩
    · rw [fetchValues_of_reads hr, Prod.mk.injEq, Except.ok.injEq] at h
      obtain ⟨rfl, rfl⟩ := h
      exact ⟨vs, hr, rfl⟩
    · rw [fetchValues_of_stops hr hs] at h
      simp at h
  · rintro ⟨vs, hr, rfl⟩
    exact fetchValues_of_reads hr

/-- **A fetch that fails.** Reading the fields fails exactly when the fields before one are read
and that one stops the fetch; the error is that field's. -/
theorem fetchValues_eq_error_iff {fields : List Field} {c c' : Cancellation} {e : PluginError} :
    fetchValues fields c = (.error e, c') ↔
      ∃ pre f post vs t, fields = pre ++ f :: post ∧ Reads pre c vs t ∧ Stops f t e c' := by
  constructor
  · intro h
    rcases reads_or_stops fields c with
      ⟨vs, c'', hr⟩ | ⟨pre, f, post, vs, t, e', c'', rfl, hr, hs⟩
    · rw [fetchValues_of_reads hr] at h
      simp at h
    · rw [fetchValues_of_stops hr hs, Prod.mk.injEq, Except.error.injEq] at h
      obtain ⟨rfl, rfl⟩ := h
      exact ⟨pre, f, post, vs, t, rfl, hr, hs⟩
  · rintro ⟨pre, f, post, vs, t, rfl, hr, hs⟩
    exact fetchValues_of_stops hr hs

/-! ## Answering `fetch` -/

section Fetch

variable {provider : Provider} {a : String} {pl : Plugin} {c c' : Cancellation}

/-- `fetch` of a plugin that is found answers lines exactly when every field is read. -/
theorem Builtin.fetch_eq_ok_iff (hfind : provider.find? a = some pl) {lines : List String} :
    Builtin.fetch.run provider a c = (.ok ⟨lines, .carryOn⟩, c') ↔
      ∃ vs, Reads pl.fields c vs c' ∧
        lines = List.zipWith valueLine pl.fields vs ++ [endOfBlock] := by
  rcases hfv : fetchValues pl.fields c with ⟨e₀ | lines₀, c''⟩
  · -- a reading stopped: the answer is an error
    simp only [Builtin.run, hfind, hfv, Prod.mk.injEq, reduceCtorEq, false_and, false_iff,
      not_exists, not_and]
    intro vs hr _
    rw [fetchValues_of_reads hr] at hfv
    simp at hfv
  · simp only [Builtin.run, hfind, hfv, Prod.mk.injEq, Except.ok.injEq, Reply.mk.injEq, and_true]
    constructor
    · rintro ⟨rfl, rfl⟩
      obtain ⟨vs, hr, rfl⟩ := fetchValues_eq_ok_iff.1 hfv
      exact ⟨vs, hr, rfl⟩
    · rintro ⟨vs, hr, rfl⟩
      rw [fetchValues_of_reads hr, Prod.mk.injEq, Except.ok.injEq] at hfv
      rw [hfv.1, hfv.2]
      exact ⟨rfl, rfl⟩

/-- `fetch` of a plugin that is found fails exactly when a field stops the reading, with that
field's error. -/
theorem Builtin.fetch_eq_error_iff (hfind : provider.find? a = some pl) {e : ServerError} :
    Builtin.fetch.run provider a c = (.error e, c') ↔
      ∃ pre f post vs t e', pl.fields = pre ++ f :: post ∧ Reads pre c vs t ∧
        Stops f t e' c' ∧ e = .plugin e' := by
  rcases hfv : fetchValues pl.fields c with ⟨e₀ | lines₀, c''⟩
  · simp only [Builtin.run, hfind, hfv, Prod.mk.injEq, Except.error.injEq]
    constructor
    · rintro ⟨rfl, rfl⟩
      obtain ⟨pre, f, post, vs, t, hsplit, hr, hs⟩ := fetchValues_eq_error_iff.1 hfv
      exact ⟨pre, f, post, vs, t, e₀, hsplit, hr, hs, rfl⟩
    · rintro ⟨pre, f, post, vs, t, e', hsplit, hr, hs, rfl⟩
      rw [hsplit, fetchValues_of_stops hr hs, Prod.mk.injEq, Except.error.injEq] at hfv
      rw [hfv.1, hfv.2]
      exact ⟨rfl, rfl⟩
  · -- every field was read: the answer is not an error
    simp only [Builtin.run, hfind, hfv, Prod.mk.injEq, reduceCtorEq, false_and, false_iff,
      not_exists, not_and]
    intro pre f post vs t e' hsplit hr hs _
    rw [hsplit, fetchValues_of_stops hr hs] at hfv
    simp at hfv

end Fetch

/-! ## The standard registry -/

section Standard

variable {host version : String} {line arg : String}

/-- The words of the standard commands, none of which begins another. -/
def standardWords : List String := ["fetch", "nodes", "list", "config", "cap", "version"]

theorem words_standard (provider : Provider) :
    (Protocol.standard host version provider).commands.words = standardWords := rfl

variable (provider : Provider)

theorem select?_standard_fetch (hs : Selects line "fetch" arg) :
    (Protocol.standard host version provider).commands.select? line =
      some (Builtin.fetch.command provider, arg) :=
  Registry.select?_of_selects [] rfl (by simp) hs

theorem select?_standard_nodes (hs : Selects line "nodes" arg) :
    (Protocol.standard host version provider).commands.select? line =
      some ((Builtin.nodes host).command provider, arg) :=
  Registry.select?_of_unrelated [Builtin.fetch.command provider] rfl
    (by simp [Builtin.command, Builtin.word]) hs

theorem select?_standard_list (hs : Selects line "list" arg) :
    (Protocol.standard host version provider).commands.select? line =
      some (Builtin.list.command provider, arg) :=
  Registry.select?_of_unrelated
    (List.map (Builtin.command provider) [.fetch, .nodes host]) rfl
    (by simp [Builtin.command, Builtin.word]) hs

theorem select?_standard_config (hs : Selects line "config" arg) :
    (Protocol.standard host version provider).commands.select? line =
      some (Builtin.config.command provider, arg) :=
  Registry.select?_of_unrelated
    (List.map (Builtin.command provider) [.fetch, .nodes host, .list]) rfl
    (by simp [Builtin.command, Builtin.word]) hs

theorem select?_standard_cap (hs : Selects line "cap" arg) :
    (Protocol.standard host version provider).commands.select? line =
      some (Builtin.cap.command provider, arg) :=
  Registry.select?_of_unrelated
    (List.map (Builtin.command provider) [.fetch, .nodes host, .list, .config]) rfl
    (by simp [Builtin.command, Builtin.word]) hs

theorem select?_standard_version (hs : Selects line "version" arg) :
    (Protocol.standard host version provider).commands.select? line =
      some ((Builtin.versionOf host version).command provider, arg) :=
  Registry.select?_of_unrelated
    (List.map (Builtin.command provider) [.fetch, .nodes host, .list, .config, .cap]) rfl
    (by simp [Builtin.command, Builtin.word, Builtin.versionOf]) hs

end Standard

/-- **The command table.** What the standard engine of a host name, a version and a provider
answers to a received line under a token, row by row: every answer goes on with the session;
`cap` answers `cap` whatever its argument; `list` the plugin names joined by single spaces;
`nodes` the host name and `.`; `version` the version line; `config <a>` the configuration block
of the first plugin named exactly `a`; `fetch <a>` reads that plugin's fields in order, each on a
live token, into their `value` lines and `.`, or else answers the error of the first field that
stops the reading; `config` and `fetch` of a name no plugin has answer `# Unknown service` and
`.`; and any other line the usage line. -/
def AnswersByTable (host version : String) (provider : Provider) (c : Cancellation)
    (line : Bytes) : Prop :=
  let p := Protocol.standard host version provider
  let l := decodeLossy line
  (∀ r c', p.handle line c = (.ok r, c') → r.status = .carryOn) ∧
  (∀ a, Selects l "cap" a → p.handle line c = (.ok ⟨["cap"], .carryOn⟩, c)) ∧
  (∀ a, Selects l "list" a →
    p.handle line c =
      (.ok ⟨[" ".intercalate (provider.plugins.map (·.name))], .carryOn⟩, c)) ∧
  (∀ a, Selects l "nodes" a → p.handle line c = (.ok ⟨[host, "."], .carryOn⟩, c)) ∧
  (∀ a, Selects l "version" a →
    p.handle line c =
      (.ok ⟨["munins node on " ++ host ++ " version: " ++ version], .carryOn⟩, c)) ∧
  (∀ a pl, Selects l "config" a → provider.FirstNamed a pl →
    p.handle line c = (.ok ⟨pl.configLines, .carryOn⟩, c)) ∧
  (∀ a, (Selects l "config" a ∨ Selects l "fetch" a) →
    (∀ q ∈ provider.plugins, q.name ≠ a) →
    p.handle line c = (.ok ⟨["# Unknown service", "."], .carryOn⟩, c)) ∧
  (∀ a pl, Selects l "fetch" a → provider.FirstNamed a pl →
    (∀ lines c', p.handle line c = (.ok ⟨lines, .carryOn⟩, c') ↔
      ∃ vs, Reads pl.fields c vs c' ∧ lines = List.zipWith valueLine pl.fields vs ++ ["."]) ∧
    (∀ e c', p.handle line c = (.error e, c') ↔
      ∃ pre f post vs t e', pl.fields = pre ++ f :: post ∧ Reads pre c vs t ∧
        Stops f t e' c' ∧ e = .plugin e')) ∧
  ((∀ w ∈ standardWords, ∀ a, ¬Selects l w a) →
    p.handle line c = (.ok ⟨[usage], .carryOn⟩, c))

/-- **The standard engine answers by the command table**, for every provider, host name, version
and token, and every received line whose text is not a quit line. -/
theorem standard_answers_by_table (host version : String) (provider : Provider)
    (c : Cancellation) (line : Bytes) (hq : isQuitLine (decodeLossy line) = false) :
    AnswersByTable host version provider c line := by
  unfold AnswersByTable
  intro p l
  have hdispatch : p.handle line c = p.commands.dispatch l c := rfl
  rw [hdispatch, Registry.dispatch_of_select? hq]
  refine ⟨?_, ?_, ?_, ?_, ?_, ?_, ?_, ?_, ?_⟩
  · intro r c' h
    rw [← Registry.dispatch_of_select? hq, ← hdispatch] at h
    have hquit := Protocol.handle_quit_iff (congrArg Prod.fst h)
    cases hs : r.status
    · rfl
    · rw [hquit.1 hs] at hq
      cases hq
  · intro a hs
    rw [select?_standard_cap provider hs]
    rfl
  · intro a hs
    rw [select?_standard_list provider hs]
    rfl
  · intro a hs
    rw [select?_standard_nodes provider hs]
    rfl
  · intro a hs
    rw [select?_standard_version provider hs]
    simp [Builtin.command, Builtin.versionOf, Builtin.run, productName, String.append_assoc]
  · intro a pl hs hfirst
    rw [select?_standard_config provider hs]
    simp [Builtin.command, Builtin.run, Provider.find?_eq_some_iff.2 hfirst]
  · intro a hs hnone
    have hfind : provider.find? a = none := Provider.find?_eq_none_iff.2 hnone
    rcases hs with hs | hs
    · rw [select?_standard_config provider hs]
      simp [Builtin.command, Builtin.run, hfind, Builtin.unknownServiceReply, unknownService,
        endOfBlock]
    · rw [select?_standard_fetch provider hs]
      simp [Builtin.command, Builtin.run, hfind, Builtin.unknownServiceReply, unknownService,
        endOfBlock]
  · intro a pl hs hfirst
    rw [select?_standard_fetch provider hs]
    exact ⟨fun _ _ ↦ Builtin.fetch_eq_ok_iff (Provider.find?_eq_some_iff.2 hfirst),
      fun _ _ ↦ Builtin.fetch_eq_error_iff (Provider.find?_eq_some_iff.2 hfirst)⟩
  · intro hnone
    have hsel : p.commands.select? l = none :=
      Registry.select?_eq_none fun cmd hc a ↦ hnone cmd.word
        (by rw [← words_standard provider]; exact List.mem_map_of_mem hc) a
    rw [hsel]
    rfl

/-- The line `list` from a collector, answered by a node with no plugins. -/
theorem list_line_answers_by_table :
    isQuitLine (decodeLossy (encodeUtf8 "list")) = false ∧
      AnswersByTable "localhost" "0.1" {} {} (encodeUtf8 "list") := by
  have henc : encodeUtf8 "list" = [108, 105, 115, 116] := by decide
  have hdec : decodeLossy [108, 105, 115, 116] = "list" := by
    simp [decodeLossy, decodeLossyChars]
  have hq : isQuitLine (decodeLossy (encodeUtf8 "list")) = false := by
    rw [henc, hdec]
    decide
  exact ⟨hq, standard_answers_by_table "localhost" "0.1" {} {} _ hq⟩

end MetricsNode
