import MetricsNode.Proofs.CommandTable

/-!
# Dispatching a line

A registry holds any commands, each a word and a run over a state of its own, and a fallback. It
answers a line in one of three ways. A quit line (`.`, `quit`, or `quit`, a space and anything
after it) gets the empty quit reply; it is recognised before any command is looked at, so no
command runs and the state is left as it was. Any other line goes to the first command, in
registration order, whose word the line selects, with the argument that `matchCommand` reads
off, and that command runs once; a line that selects no word goes to the fallback with the empty
argument.

A state is all a command can change, so whether a command ran is seen by giving every command a
log to write its runs to (`Registry.logged`): the log is left as it was exactly for quit lines,
and any other line adds one record to it.

A line selects a word when it is the word alone or the word, one space and an argument. A word
without a space that a line selects is therefore the part of the line before its first space, so
a line selects at most one word among words without spaces. In a registry whose words are
distinct and have no space, at most one position takes a line, and the order of registration
never shows in an answer.

## Main results

* `isQuitLine_iff`: the quit lines.
* `Registry.select?_eq_some_iff`: the command taken is the first whose word the line selects.
* `Registry.logged_dispatch_cases`: a quit line leaves the log alone, any other adds one run.
* `selects_unique`: a line selects at most one word without spaces, with one argument.
* `Registry.dispatch_perm`: with distinct words without spaces, registration order does not
  change an answer.
* `dispatch_by_first_match`: the whole dispatch rule, for every registry.
-/

namespace MetricsNode

/-! ## Quit lines -/

/-- A line that ends the session: `.`, `quit`, or `quit` followed by a space. -/
def QuitLine (line : String) : Prop :=
  line = "." ∨ line = "quit" ∨ ∃ a, line = "quit " ++ a

theorem selects_quit_iff {line : String} :
    (∃ a, Selects line quitWord a) ↔ line = "quit" ∨ ∃ a, line = "quit " ++ a := by
  simp only [Selects, quitWord]
  constructor
  · rintro ⟨a, ⟨rfl, -⟩ | rfl⟩
    · exact .inl rfl
    · exact .inr ⟨a, by simp⟩
  · rintro (rfl | ⟨a, rfl⟩)
    · exact ⟨"", .inl ⟨rfl, rfl⟩⟩
    · exact ⟨a, .inr (by simp)⟩

/-- **Quit lines.** `isQuitLine` recognises exactly the lines that end the session. -/
theorem isQuitLine_iff {line : String} : isQuitLine line = true ↔ QuitLine line := by
  rw [isQuitLine, Bool.or_eq_true, beq_iff_eq, Option.isSome_iff_exists]
  simp only [matchCommand_eq_some_iff, selects_quit_iff, quitShorthand, QuitLine]

/-! ## The command a line goes to -/

theorem matchCommand_eq_none_iff {line word : String} :
    matchCommand line word = none ↔ ∀ a, ¬Selects line word a := by
  simp only [Option.eq_none_iff_forall_ne_some, ne_eq, matchCommand_eq_some_iff]

namespace Registry

variable {σ : Type}

/-- The registry gives the line to `cmd` with argument `a`: `cmd` is the first of its commands
whose word the line selects, and `a` is the argument the line has for it. -/
def Takes (r : Registry (Command σ)) (line : String) (cmd : Command σ) (a : String) : Prop :=
  ∃ pre post, r.commands = pre ++ cmd :: post ∧ Selects line cmd.word a ∧
    ∀ c ∈ pre, ∀ b, ¬Selects line c.word b

theorem select?_eq_some_iff {r : Registry (Command σ)} {line : String} {cmd : Command σ}
    {a : String} : r.select? line = some (cmd, a) ↔ r.Takes line cmd a := by
  simp only [select?, List.findSome?_eq_some_iff, Option.map_eq_some_iff, Prod.mk.injEq,
    Option.map_eq_none_iff, matchCommand_eq_none_iff, Takes]
  constructor
  · rintro ⟨pre, c, post, hsplit, ⟨b, hb, rfl, rfl⟩, hpre⟩
    exact ⟨pre, post, hsplit, matchCommand_eq_some_iff.1 hb, hpre⟩
  · rintro ⟨pre, post, hsplit, hs, hpre⟩
    exact ⟨pre, cmd, post, hsplit, ⟨a, matchCommand_eq_some_iff.2 hs, rfl, rfl⟩, hpre⟩

theorem select?_eq_none_iff {r : Registry (Command σ)} {line : String} :
    r.select? line = none ↔ ∀ cmd ∈ r.commands, ∀ a, ¬Selects line cmd.word a := by
  simp only [select?, List.findSome?_eq_none_iff, Option.map_eq_none_iff,
    matchCommand_eq_none_iff]

/-- A line that selects the word of some command is taken by a first one. -/
theorem exists_takes_or_none (r : Registry (Command σ)) (line : String) :
    (∃ cmd a, r.Takes line cmd a) ∨ ∀ cmd ∈ r.commands, ∀ a, ¬Selects line cmd.word a := by
  cases h : r.select? line with
  | none => exact .inr (select?_eq_none_iff.1 h)
  | some p => exact .inl ⟨p.1, p.2, select?_eq_some_iff.1 h⟩

end Registry

/-! ## Seeing a command run -/

/-- A record of one run: the word of the command, and its argument. -/
abbrev Run := String × String

/-- The command that also writes each of its runs at the end of a log. -/
def Command.logged {σ : Type} (cmd : Command σ) : Command (σ × List Run) where
  word := cmd.word
  run a st := ((cmd.run a st.1).1, ((cmd.run a st.1).2, st.2 ++ [(cmd.word, a)]))

namespace Registry

variable {σ : Type}

/-- The registry whose commands write their runs to a log. -/
def logged (r : Registry (Command σ)) : Registry (Command (σ × List Run)) := r.map Command.logged

/-- **A quit line runs nothing, any other line runs one command once.** Under logging, a quit line
is answered with the quit reply and the state and log as they were, and any other line adds
exactly one run to the log. -/
theorem logged_dispatch_cases (r : Registry (Command σ)) (line : String) (s : σ)
    (log : List Run) :
    (isQuitLine line = true ∧ r.logged.dispatch line (s, log) = (.ok Reply.quit, (s, log))) ∨
      (isQuitLine line = false ∧
        ∃ w a, (r.logged.dispatch line (s, log)).2.2 = log ++ [(w, a)]) := by
  rcases r.logged.dispatch_cases line (s, log) with hquit | ⟨hq, cmd, hcmd, a, hrun⟩
  · exact .inl hquit
  · -- the entry that ran is a logged command, which writes its run
    rw [logged, entries_map, List.mem_map] at hcmd
    obtain ⟨c, -, rfl⟩ := hcmd
    exact .inr ⟨hq, c.word, a, by rw [hrun]; rfl⟩

end Registry

/-! ## At most one word per line -/

/-- The first word of a line: its characters before the first space. -/
theorem takeWhile_of_selects {line word a : String} (hw : ' ' ∉ word.toList)
    (hs : Selects line word a) : line.toList.takeWhile (· != ' ') = word.toList := by
  have hall : ∀ ch ∈ word.toList, (ch != ' ') = true := by
    intro ch hch
    simpa using ne_of_mem_of_not_mem hch hw
  rcases hs with ⟨rfl, -⟩ | rfl
  · simpa using @List.takeWhile_append_of_pos _ (· != ' ') line.toList [] hall
  · simp [List.takeWhile_append_of_pos hall]

/-- The argument of a line for the word it selects is what follows the word and one space. -/
theorem arg_of_selects {line word a : String} (hs : Selects line word a) :
    a.toList = line.toList.drop (word.length + 1) := by
  rcases hs with ⟨rfl, rfl⟩ | rfl
  · simp [String.length_toList]
  · simp [← String.length_toList, List.drop_append]

/-- **A line selects at most one word without spaces,** and has one argument for it. -/
theorem selects_unique {line u v a b : String} (hu : ' ' ∉ u.toList) (hv : ' ' ∉ v.toList)
    (h₁ : Selects line u a) (h₂ : Selects line v b) : u = v ∧ a = b := by
  have huv : u = v := String.toList_inj.1 <|
    (takeWhile_of_selects hu h₁).symm.trans (takeWhile_of_selects hv h₂)
  subst huv
  refine ⟨rfl, String.toList_inj.1 ?_⟩
  rw [arg_of_selects h₁, arg_of_selects h₂]

/-! ## Distinct words without spaces -/

namespace Registry

variable {σ : Type} {r r' : Registry (Command σ)} {line : String}

/-- The words of a registry have no space. -/
def Spaceless (r : Registry (Command σ)) : Prop := ∀ cmd ∈ r.commands, ' ' ∉ cmd.word.toList

/-- With distinct words without spaces, two positions whose words a line selects are one, with
one argument. -/
theorem selects_one_of_nodup (hsp : r.Spaceless) (hnd : r.words.Nodup) {i j : Nat}
    {ci cj : Command σ} (hi : r.commands[i]? = some ci) (hj : r.commands[j]? = some cj)
    {a b : String} (hsi : Selects line ci.word a) (hsj : Selects line cj.word b) :
    i = j ∧ a = b := by
  obtain ⟨hword, rfl⟩ := selects_unique (hsp ci (List.mem_of_getElem? hi))
    (hsp cj (List.mem_of_getElem? hj)) hsi hsj
  -- the two positions hold one word, and the words are distinct
  have hwi : r.words[i]? = some ci.word := by simp [words, hi]
  have hwj : r.words[j]? = some ci.word := by simp [words, hj, hword]
  have hlt : i < r.words.length := (List.getElem?_eq_some_iff.1 hwi).1
  exact ⟨(List.getElem?_inj hlt hnd).1 (hwi.trans hwj.symm), rfl⟩

/-- With distinct words without spaces, the command a line goes to is any command whose word it
selects. -/
theorem takes_iff_of_nodup (hsp : r.Spaceless) (hnd : r.words.Nodup) {cmd : Command σ}
    {a : String} : r.Takes line cmd a ↔ cmd ∈ r.commands ∧ Selects line cmd.word a := by
  constructor
  · rintro ⟨pre, post, hsplit, hs, -⟩
    exact ⟨by simp [hsplit], hs⟩
  · rintro ⟨hmem, hs⟩
    obtain ⟨pre, post, hsplit⟩ := List.append_of_mem hmem
    refine ⟨pre, post, hsplit, hs, fun c hc b hcb ↦ ?_⟩
    -- a command before `cmd` with the same word would repeat a word
    have hsp' : ∀ c ∈ pre, ' ' ∉ c.word.toList := fun c hc ↦ hsp c (by simp [hsplit, hc])
    have hword : c.word = cmd.word :=
      (selects_unique (hsp' c hc) (hsp cmd hmem) hcb hs).1
    rw [words, hsplit, List.map_append, List.map_cons, List.nodup_append] at hnd
    exact hnd.2.2 _ (List.mem_map_of_mem hc) _ List.mem_cons_self hword

/-- With distinct words without spaces, reordering the commands selects the same command. -/
theorem select?_perm (hsp : r.Spaceless) (hnd : r.words.Nodup)
    (hp : r'.commands.Perm r.commands) : r'.select? line = r.select? line := by
  have hnd' : r'.words.Nodup := (hp.map Command.word).nodup_iff.2 hnd
  have hsp' : r'.Spaceless := fun cmd hc ↦ hsp cmd (hp.subset hc)
  apply Option.ext
  rintro ⟨cmd, a⟩
  rw [select?_eq_some_iff, select?_eq_some_iff, takes_iff_of_nodup hsp' hnd',
    takes_iff_of_nodup hsp hnd, hp.mem_iff]

/-- With distinct words without spaces, reordering the commands changes no answer. -/
theorem dispatch_perm (hsp : r.Spaceless) (hnd : r.words.Nodup)
    (hp : r'.commands.Perm r.commands) (hfb : r'.fallback = r.fallback) (s : σ) :
    r'.dispatch line s = r.dispatch line s := by
  unfold dispatch
  rw [select?_perm hsp hnd hp, hfb]

end Registry

/-! ## The dispatch rule -/

/-- **Dispatching a line.** For every registry of commands over any state: a quit line is
answered with the empty quit reply and the state as it was; under logging, the quit reply with
the log as it was comes exactly for quit lines, and any other line adds one run to the log. Any
other line is answered by the first command whose word it selects, run once on the argument
`matchCommand` reads off, or by the fallback run once on the empty argument when it selects no
word. When the words are distinct and have no space, at most one position takes a line, with one
argument, and reordering the commands changes no answer. -/
theorem dispatch_by_first_match {σ : Type} (r : Registry (Command σ)) (line : String) (s : σ) :
    (QuitLine line → r.dispatch line s = (.ok Reply.quit, s)) ∧
    (∀ log, r.logged.dispatch line (s, log) = (.ok Reply.quit, (s, log)) ↔ QuitLine line) ∧
    (¬QuitLine line →
      (∀ log, ∃ w a, (r.logged.dispatch line (s, log)).2.2 = log ++ [(w, a)]) ∧
      ((∃ cmd a, r.Takes line cmd a) ∨ ∀ cmd ∈ r.commands, ∀ a, ¬Selects line cmd.word a) ∧
      (∀ cmd a, r.Takes line cmd a →
        matchCommand line cmd.word = some a ∧ r.dispatch line s = cmd.run a s) ∧
      ((∀ cmd ∈ r.commands, ∀ a, ¬Selects line cmd.word a) →
        r.dispatch line s = r.fallback.run "" s)) ∧
    (r.Spaceless → r.words.Nodup →
      (∀ (i j : Nat) (ci cj : Command σ) (a b : String),
        r.commands[i]? = some ci → r.commands[j]? = some cj →
        Selects line ci.word a → Selects line cj.word b → i = j ∧ a = b) ∧
      ∀ r' : Registry (Command σ), r'.commands.Perm r.commands → r'.fallback = r.fallback →
        r'.dispatch line s = r.dispatch line s) := by
  have hquit : QuitLine line → r.dispatch line s = (.ok Reply.quit, s) := by
    intro hq
    simp [Registry.dispatch, isQuitLine_iff.2 hq]
  have hnq (hq : ¬QuitLine line) : isQuitLine line = false :=
    Bool.eq_false_iff.2 (mt isQuitLine_iff.1 hq)
  refine ⟨hquit, fun log ↦ ⟨?onlyQuit, ?quitLogged⟩, fun hq ↦ ?other, fun hsp hnd ↦ ?distinct⟩
  case onlyQuit =>
    -- any other line writes a run to the log, so it is not left as it was
    intro h
    rcases r.logged_dispatch_cases line s log with ⟨hq, -⟩ | ⟨-, w, a, hlog⟩
    · exact isQuitLine_iff.1 hq
    · rw [h] at hlog
      simp at hlog
  case quitLogged =>
    intro hq
    simp [Registry.dispatch, isQuitLine_iff.2 hq]
  case other =>
    refine ⟨fun log ↦ ?_, r.exists_takes_or_none line, fun cmd a ht ↦ ⟨?_, ?_⟩, fun hnone ↦ ?_⟩
    · rcases r.logged_dispatch_cases line s log with ⟨hq', -⟩ | ⟨-, hlog⟩
      · exact absurd (isQuitLine_iff.1 hq') hq
      · exact hlog
    · obtain ⟨-, -, -, hs, -⟩ := ht
      exact matchCommand_eq_some_iff.2 hs
    · rw [Registry.dispatch_of_select? (hnq hq), Registry.select?_eq_some_iff.2 ht]
    · rw [Registry.dispatch_of_select? (hnq hq), Registry.select?_eq_none_iff.2 hnone]
  case distinct =>
    exact ⟨fun i j ci cj a b hi hj ↦ Registry.selects_one_of_nodup hsp hnd hi hj,
      fun r' hp hfb ↦ Registry.dispatch_perm hsp hnd hp hfb s⟩

/-- A command that answers one line and keeps nothing. -/
def echo (word answer : String) : Command Unit := ⟨word, fun _ u ↦ (.ok ⟨[answer], .carryOn⟩, u)⟩

/-- Commands named `quit`, `cap` twice and `fetch`, with `help` as fallback. -/
def echoRegistry : Registry (Command Unit) :=
  ⟨[echo "quit" "quit ran", echo "cap" "first", echo "cap" "second", echo "fetch" "fetch ran"],
    echo "help" "help ran"⟩

/-- In that registry `quit` runs no command, not even the one named `quit`; `cap` runs the first
`cap`; and `fetchx` runs the fallback. -/
theorem echo_registry_dispatch :
    echoRegistry.logged.dispatch "quit" ((), []) = (.ok Reply.quit, ((), [])) ∧
    echoRegistry.dispatch "cap" () = (.ok ⟨["first"], .carryOn⟩, ()) ∧
    echoRegistry.dispatch "fetchx" () = (.ok ⟨["help ran"], .carryOn⟩, ()) := by
  have hcap : ¬QuitLine "cap" := fun h ↦ absurd (isQuitLine_iff.2 h) (by decide)
  have hfetchx : ¬QuitLine "fetchx" := fun h ↦ absurd (isQuitLine_iff.2 h) (by decide)
  refine ⟨((dispatch_by_first_match echoRegistry "quit" ()).2.1 []).2 (.inr (.inl rfl)), ?_, ?_⟩
  · -- the first `cap` takes the line: the command before it is `quit`, which `cap` does not select
    have hpre : ∀ c ∈ [echo "quit" "quit ran"], ∀ b, ¬Selects "cap" c.word b := by
      intro c hc b
      rw [List.mem_singleton] at hc
      subst hc
      exact matchCommand_eq_none_iff.1 (by decide) b
    have htakes : echoRegistry.Takes "cap" (echo "cap" "first") "" :=
      ⟨_, [echo "cap" "second", echo "fetch" "fetch ran"], rfl, .inl ⟨rfl, rfl⟩, hpre⟩
    exact ((dispatch_by_first_match echoRegistry "cap" ()).2.2.1 hcap).2.2.1 _ _ htakes |>.2
  · have hnone : ∀ cmd ∈ echoRegistry.commands, ∀ a, ¬Selects "fetchx" cmd.word a := by
      intro cmd hcmd a
      simp only [echoRegistry, List.mem_cons, List.not_mem_nil, or_false] at hcmd
      rcases hcmd with rfl | rfl | rfl | rfl <;> exact matchCommand_eq_none_iff.1 (by decide) a
    exact ((dispatch_by_first_match echoRegistry "fetchx" ()).2.2.1 hfetchx).2.2.2 hnone

end MetricsNode
