import MetricsNode.Node.Protocol

/-!
# What answering a line does to the tokens

A registry answers a line with the quit reply, or by running one of its entries
(`Registry.dispatch_cases`); what the quit reply and every entry keep, dispatch keeps. A node's
entries are built-in commands, so what follows is said of those.

A command runs under a cancellation state, and reading a field may cancel a token on the way.
Nothing a command does undoes a cancellation: a flag that was set stays set, and the handed token
keeps following the node's (`Protocol.handle_le`). The answer ends the session exactly for quit
lines (`Protocol.handle_quit_iff`). Under a live token, a command whose fields all read a value and
cancel nothing answers, and leaves the token as it found it (`Protocol.handle_calm`).
-/

namespace MetricsNode

open Wire

namespace Cancellation

/-- `c'` is at least as cancelled as `c`: every token cancelled in `c` is cancelled in `c'`, and
the handed token follows the node's in both or in neither. -/
def Le (c c' : Cancellation) : Prop :=
  (c.server = true → c'.server = true) ∧ (c.handed = true → c'.handed = true) ∧
    c'.follows = c.follows

theorem Le.refl (c : Cancellation) : c.Le c := ⟨id, id, rfl⟩

theorem Le.trans {c c' c'' : Cancellation} (h : c.Le c') (h' : c'.Le c'') : c.Le c'' :=
  ⟨fun hs ↦ h'.1 (h.1 hs), fun hh ↦ h'.2.1 (h.2.1 hh), h'.2.2.trans h.2.2⟩

theorem le_cancel (c : Cancellation) (scope : CancelScope) : c.Le (c.cancel scope) := by
  cases scope with
  | handed => exact ⟨id, fun _ ↦ rfl, rfl⟩
  | server => exact ⟨fun _ ↦ rfl, id, rfl⟩

/-- A cancelled token stays cancelled. -/
theorem Le.isCancelled {c c' : Cancellation} (h : c.Le c') (hc : c.isCancelled = true) :
    c'.isCancelled = true := by
  obtain ⟨hs, hh, hf⟩ := h
  simp only [Cancellation.isCancelled, Bool.or_eq_true, Bool.and_eq_true] at hc ⊢
  rw [hf]
  rcases hc with hc | ⟨hfo, hse⟩
  · exact .inl (hh hc)
  · exact .inr ⟨hfo, hs hse⟩

end Cancellation

/-! ## Cancellation is never undone -/

theorem Field.fetch_le (f : Field) (c : Cancellation) : c.Le (f.fetch c).2 := by
  unfold Field.fetch
  split
  · exact .refl c
  · cases f.reading.cancels with
    | none => exact .refl c
    | some scope => exact c.le_cancel scope

theorem fetchValues_le (fields : List Field) (c : Cancellation) :
    c.Le (fetchValues fields c).2 := by
  induction fields generalizing c with
  | nil => exact .refl c
  | cons f rest ih =>
    have hf := f.fetch_le c
    rw [fetchValues]
    cases hfetch : f.fetch c with
    | mk r c' =>
      rw [hfetch] at hf
      cases r with
      | error e => exact hf
      | ok v => exact hf.trans (ih c')

theorem Builtin.run_le (cmd : Builtin) (provider : Provider) (args : String) (c : Cancellation) :
    c.Le (cmd.run provider args c).2 := by
  cases cmd with
  | config =>
    simp only [Builtin.run]
    split <;> exact .refl c
  | fetch =>
    simp only [Builtin.run]
    split
    · have hv := fetchValues_le (Plugin.fields ‹_›) c
      split <;> simp_all
    · exact .refl c
  | _ => exact .refl c

/-- No built-in command ends the session. -/
theorem Builtin.run_status (cmd : Builtin) (provider : Provider) (args : String)
    (c : Cancellation) {r : Reply} (h : (cmd.run provider args c).1 = .ok r) :
    r.status = .carryOn := by
  cases cmd with
  | config =>
    simp only [Builtin.run] at h
    split at h <;> (simp only [Except.ok.injEq] at h; subst h; rfl)
  | fetch =>
    simp only [Builtin.run] at h
    split at h
    · split at h
      · simp only [Except.ok.injEq] at h
        subst h
        rfl
      · simp at h
    · simp only [Except.ok.injEq] at h
      subst h
      rfl
  | _ =>
    simp only [Builtin.run, Except.ok.injEq] at h
    subst h
    rfl

/-! ## Dispatch runs one entry -/

namespace Registry

variable {κ κ' σ : Type}

/-- Everything a registry may run: its fallback, then its commands. -/
def entries (r : Registry κ) : List κ := r.fallback :: r.commands

@[simp] theorem entries_map (f : κ → κ') (r : Registry κ) : (r.map f).entries = r.entries.map f :=
  rfl

/-- A command a registry selects is one of its commands. -/
theorem mem_of_select? {r : Registry (Command σ)} {line args : String} {cmd : Command σ}
    (h : r.select? line = some (cmd, args)) : cmd ∈ r.commands := by
  obtain ⟨cmd', hmem, hsel⟩ := List.exists_of_findSome?_eq_some h
  simp only [Option.map_eq_some_iff, Prod.mk.injEq] at hsel
  obtain ⟨-, -, rfl, -⟩ := hsel
  exact hmem

/-- **A line is answered by the quit reply or by one entry.** A quit line gets the quit reply
with the state untouched; any other line is answered by running one entry of the registry. -/
theorem dispatch_cases (r : Registry (Command σ)) (line : String) (s : σ) :
    (isQuitLine line = true ∧ r.dispatch line s = (.ok Reply.quit, s)) ∨
      (isQuitLine line = false ∧ ∃ cmd ∈ r.entries, ∃ a, r.dispatch line s = cmd.run a s) := by
  unfold dispatch
  cases hq : isQuitLine line with
  | true => exact .inl ⟨rfl, rfl⟩
  | false =>
    refine .inr ⟨rfl, ?_⟩
    cases hsel : r.select? line with
    | none => exact ⟨r.fallback, List.mem_cons_self, "", rfl⟩
    | some p => exact ⟨p.1, List.mem_cons_of_mem _ (mem_of_select? hsel), p.2, rfl⟩

end Registry

/-- The entries of an engine are the built-in commands of its registry, run for its provider. -/
theorem Protocol.mem_entries {p : Protocol} {cmd : Command Cancellation}
    (h : cmd ∈ p.commands.entries) : ∃ b ∈ p.registry.entries, cmd = b.command p.provider := by
  rw [Protocol.commands, Registry.entries_map, List.mem_map] at h
  obtain ⟨b, hb, rfl⟩ := h
  exact ⟨b, hb, rfl⟩

/-- An engine answers a quit line with the quit reply, and any other line by running one
built-in command of its registry for its provider. -/
theorem Protocol.handle_cases (p : Protocol) (line : Bytes) (c : Cancellation) :
    (isQuitLine (decodeLossy line) = true ∧ p.handle line c = (.ok Reply.quit, c)) ∨
      (isQuitLine (decodeLossy line) = false ∧
        ∃ b ∈ p.registry.entries, ∃ a, p.handle line c = b.run p.provider a c) := by
  rcases p.commands.dispatch_cases (decodeLossy line) c with hquit | ⟨hq, cmd, hcmd, a, hrun⟩
  · exact .inl hquit
  · obtain ⟨b, hb, rfl⟩ := Protocol.mem_entries hcmd
    exact .inr ⟨hq, b, hb, a, hrun⟩

/-! ## Cancellation is never undone, and only quit lines end the session -/

theorem Protocol.handle_le (p : Protocol) (line : Bytes) (c : Cancellation) :
    c.Le (p.handle line c).2 := by
  rcases p.handle_cases line c with ⟨-, hquit⟩ | ⟨-, b, -, a, hrun⟩
  · rw [hquit]
    exact .refl c
  · rw [hrun]
    exact b.run_le _ _ c

/-- **An answer ends the session exactly when the line is a quit line.** -/
theorem Protocol.handle_quit_iff {p : Protocol} {line : Bytes} {c : Cancellation} {r : Reply}
    (h : (p.handle line c).1 = .ok r) :
    r.status = .quit ↔ isQuitLine (decodeLossy line) = true := by
  rcases p.handle_cases line c with ⟨hq, hquit⟩ | ⟨hq, b, -, a, hrun⟩
  · rw [hquit, Except.ok.injEq] at h
    rw [← h, hq]
    exact ⟨fun _ ↦ rfl, fun _ ↦ rfl⟩
  · rw [hrun] at h
    rw [b.run_status _ _ c h, hq]
    simp

/-- A quit line is answered by the quit reply, with the token untouched. -/
theorem Protocol.handle_of_quit {p : Protocol} {line : Bytes} (c : Cancellation)
    (hq : isQuitLine (decodeLossy line) = true) : p.handle line c = (.ok Reply.quit, c) := by
  simp [Protocol.handle, Registry.dispatch, hq]

/-! ## Calm fields -/

/-- Reading the field gives a value and cancels nothing. -/
def Field.Calm (f : Field) : Prop := (∃ v, f.reading.outcome = .ok v) ∧ f.reading.cancels = none

/-- Every field of every plugin of the provider is calm. -/
def Provider.Calm (p : Provider) : Prop := ∀ pl ∈ p.plugins, ∀ f ∈ pl.fields, f.Calm

theorem Field.fetch_calm {f : Field} (hf : f.Calm) {c : Cancellation}
    (hc : c.isCancelled = false) : ∃ v, f.fetch c = (.ok v, c) := by
  obtain ⟨⟨v, hv⟩, hn⟩ := hf
  exact ⟨formatValue v, by simp [Field.fetch, hc, hv, hn, Except.map]⟩

theorem fetchValues_calm {fields : List Field} (hf : ∀ f ∈ fields, f.Calm) {c : Cancellation}
    (hc : c.isCancelled = false) : ∃ vs, fetchValues fields c = (.ok vs, c) := by
  induction fields with
  | nil => exact ⟨[], rfl⟩
  | cons f rest ih =>
    obtain ⟨v, hv⟩ := Field.fetch_calm (hf f List.mem_cons_self) hc
    obtain ⟨vs, hvs⟩ := ih fun f' hm ↦ hf f' (List.mem_cons_of_mem _ hm)
    exact ⟨(f.name ++ ".value " ++ v) :: vs, by rw [fetchValues, hv]; simp [hvs, Except.map]⟩

theorem Builtin.run_calm (cmd : Builtin) {provider : Provider} (hp : provider.Calm)
    (args : String) {c : Cancellation} (hc : c.isCancelled = false) :
    ∃ r, cmd.run provider args c = (.ok r, c) := by
  cases cmd with
  | config =>
    simp only [Builtin.run]
    split <;> exact ⟨_, rfl⟩
  | fetch =>
    simp only [Builtin.run]
    split
    · rename_i pl hfind
      have hmem : pl ∈ provider.plugins := List.mem_of_find?_eq_some hfind
      obtain ⟨vs, hvs⟩ := fetchValues_calm (hp pl hmem) hc
      exact ⟨⟨vs ++ [endOfBlock], .carryOn⟩, by simp [hvs]⟩
    · exact ⟨_, rfl⟩
  | _ => exact ⟨_, rfl⟩

/-- **A calm engine answers.** Under a live token, with every field calm, every line gets an
answer and the token is left as it was. -/
theorem Protocol.handle_calm {p : Protocol} (hp : p.provider.Calm) (line : Bytes)
    {c : Cancellation} (hc : c.isCancelled = false) : ∃ r, p.handle line c = (.ok r, c) := by
  rcases p.handle_cases line c with ⟨-, hquit⟩ | ⟨-, b, -, a, hrun⟩
  · exact ⟨_, hquit⟩
  · rw [hrun]
    exact b.run_calm hp a hc

end MetricsNode
