import MetricsNode.Proofs.SessionSteps

/-!
# Session callbacks are bracketed

Once its banner is out, a session calls the start callbacks, the provider's and then each
plugin's, until one fails; then, whatever ended serving, it calls the close callbacks, each
plugin's and then the provider's, until one fails. Every call carries the session's name. A
session that never sends its banner (its peer refused, its node cancelled before the check, or
its banner write failed) calls none.

## The bracket

`attempted closing hooks` are the parties a run of callbacks calls: each in turn, up to and
including the first that fails. `Connection.bracket` is the run of start callbacks followed by
the run of close callbacks, with the session's name on each call.

## Done, and still to come

`Machine.Bracketed` is the invariant, stage by stage, in the shape "what is done followed by
what is still to come is the whole": before the banner is out nothing is called; while
callbacks run or the pumps serve, the calls made so far followed by the calls still to come are
the bracket; a returned session has made either none of the calls or all of them. The pumps
never call a callback and never log a session state, so only the session's own steps move it.
`Machine.Shut` says that a refused session, or one whose node is cancelled from the start, never
gets past its check.
-/

namespace MetricsNode

open Wire

/-! ## The bracket -/

/-- The parties a run of callbacks calls: each in turn, up to and including the first that
fails. -/
def attempted (closing : Bool) : List (Party × Hooks) → List Party
  | [] => []
  | (party, h) :: rest =>
    match (h.run party closing).2 with
    | .ok () => party :: attempted closing rest
    | .error _ => [party]

example : attempted false [(.provider, {}), (.plugin "a", { onStart := some .cancelled }),
    (.plugin "b", {})] = [.provider, .plugin "a"] := by decide

namespace Connection

/-- The calls a run of `hooks` makes in this session. -/
def calling (c : Connection) (closing : Bool) (hooks : List (Party × Hooks)) :
    List (Party × Bool × String) :=
  (attempted closing hooks).map fun party ↦ (party, closing, c.session.id)

/-- The calls of a session whose banner is out: the start callbacks up to the first that fails,
then the close callbacks up to the first that fails. -/
def bracket (c : Connection) : List (Party × Bool × String) :=
  c.calling false c.manager.protocol.startHooks ++ c.calling true c.manager.protocol.closeHooks

variable (c : Connection) {closing : Bool} {party : Party} {h : Hooks}

@[simp] theorem calling_nil (closing : Bool) : c.calling closing [] = [] := rfl

theorem calling_of_ok (rest : List (Party × Hooks)) (hr : (h.run party closing).2 = .ok ()) :
    c.calling closing ((party, h) :: rest) =
      (party, closing, c.session.id) :: c.calling closing rest := by
  simp [calling, attempted, hr]

theorem calling_of_error {e : PluginError} (rest : List (Party × Hooks))
    (hr : (h.run party closing).2 = .error e) :
    c.calling closing ((party, h) :: rest) = [(party, closing, c.session.id)] := by
  simp [calling, attempted, hr]

end Connection

namespace Machine

variable {c : Connection} {n : Nat} {mv : Move} {s s' : Machine}

/-! ## The pumps log no session state -/

theorem ProcessorStep.moved_mem (h : ProcessorStep c n s s') (st : SessionState) :
    .moved st ∈ s'.log ↔ .moved st ∈ s.log := by
  cases h <;> simp [stopProcessor, answer]

/-! ## Done, and still to come -/

/-- How the calls made so far stand against the bracket, stage by stage. -/
def Bracketed (c : Connection) (s : Machine) : Prop :=
  match s.stage with
  | .accepted | .banner _ => calls s.log = [] ∧ .moved .bannerSent ∉ s.log
  | .starting hooks =>
    .moved .bannerSent ∈ s.log ∧
      calls s.log ++ c.calling false hooks ++ c.calling true c.manager.protocol.closeHooks =
        c.bracket
  | .serving =>
    .moved .bannerSent ∈ s.log ∧ calls s.log ++ c.calling true c.manager.protocol.closeHooks =
      c.bracket
  | .closing hooks => .moved .bannerSent ∈ s.log ∧ calls s.log ++ c.calling true hooks = c.bracket
  | .returned _ =>
    calls s.log = [] ∧ .moved .bannerSent ∉ s.log ∨
      calls s.log = c.bracket ∧ .moved .bannerSent ∈ s.log

/-- A step that keeps the stage, the calls and whether the banner went out keeps the
invariant. -/
theorem Bracketed.of_frame (hb : s.Bracketed c) (hst : s'.stage = s.stage)
    (hcalls : calls s'.log = calls s.log)
    (hsent : .moved .bannerSent ∈ s'.log ↔ .moved .bannerSent ∈ s.log) : s'.Bracketed c := by
  unfold Bracketed at hb ⊢
  rw [hst, hcalls, hsent]
  exact hb

theorem SessionStep.bracketed (h : SessionStep c n s s') (hb : s.Bracketed c) :
    s'.Bracketed c := by
  cases h with
  | still => exact hb
  | refused hs _ | cancelled hs _ _ | bannerFailed hs _ =>
    -- the session returns before its banner is out
    simp only [Bracketed, hs] at hb
    simp [Bracketed, transition, finish, hb]
  | authorized hs _ _ | bannerPiece hs _ =>
    simp only [Bracketed, hs] at hb
    simp [Bracketed, transition, hb]
  | bannerSent hs =>
    simp only [Bracketed, hs] at hb
    simp [Bracketed, transition, hb, Connection.bracket]
  | active hs | served hs _ _ =>
    simp only [Bracketed, hs] at hb
    simpa [Bracketed, transition] using hb
  | started hs hr =>
    simp only [Bracketed, hs, c.calling_of_ok _ hr] at hb
    simpa [Bracketed, call] using hb
  | startFailed hs hr =>
    -- the failing callback was called; every close callback is still to come
    simp only [Bracketed, hs, c.calling_of_error _ hr] at hb
    simpa [Bracketed, call, transition] using hb
  | closed hs =>
    simp only [Bracketed, hs, Connection.calling_nil, List.append_nil] at hb
    simp [Bracketed, finish, transition, hb.1, hb.2]
  | ended hs hr =>
    simp only [Bracketed, hs, c.calling_of_ok _ hr] at hb
    simpa [Bracketed, call] using hb
  | closeFailed hs hr =>
    simp only [Bracketed, hs, c.calling_of_error _ hr] at hb
    simp [Bracketed, call, finish, transition, hb.1, hb.2]

theorem MoveStep.bracketed (h : MoveStep c s mv s') (hb : s.Bracketed c) : s'.Bracketed c := by
  cases h with
  | session h => exact h.bracketed hb
  | receive _ h =>
    obtain ⟨hst, -, -, -, hlog, -⟩ := h.frame
    exact hb.of_frame hst (by rw [hlog]) (by rw [hlog])
  | process _ h =>
    obtain ⟨hst, -, -, -, hcalls⟩ := h.frame
    exact hb.of_frame hst hcalls (h.moved_mem .bannerSent)
  | still => exact hb
  | cancel => exact hb

theorem bracketed_run (c : Connection) (nodeCancelled : Bool) (moves : List Move) :
    ((init c nodeCancelled).run c moves).Bracketed c :=
  run_invariant (fun s mv _ hb ↦ (step_spec c s mv).bracketed hb) moves _ (fun _ _ ↦ trivial)
    (by simp [Bracketed, init])

/-- The calls made so far are where the bracket starts. -/
theorem Bracketed.calls_prefix (hb : s.Bracketed c) : calls s.log <+: c.bracket := by
  unfold Bracketed at hb
  split at hb
  · rw [hb.1]
    exact List.nil_prefix
  · rw [hb.1]
    exact List.nil_prefix
  · rw [← hb.2, List.append_assoc]
    exact List.prefix_append _ _
  · rw [← hb.2]
    exact List.prefix_append _ _
  · rw [← hb.2]
    exact List.prefix_append _ _
  · rcases hb with ⟨hnone, -⟩ | ⟨hall, -⟩
    · rw [hnone]
      exact List.nil_prefix
    · exact hall ▸ List.prefix_refl _

/-- A session that has not sent its banner has called nothing. -/
theorem Bracketed.calls_of_not_sent (hb : s.Bracketed c) (hs : .moved .bannerSent ∉ s.log) :
    calls s.log = [] := by
  unfold Bracketed at hb
  split at hb
  · exact hb.1
  · exact hb.1
  · exact absurd hb.1 hs
  · exact absurd hb.1 hs
  · exact absurd hb.1 hs
  · rcases hb with ⟨hnone, -⟩ | ⟨-, hsent⟩
    · exact hnone
    · exact absurd hsent hs

/-! ## A session that never opens -/

/-- The peer is refused, or the node's token is cancelled; and the session has not got past its
check. -/
def Shut (c : Connection) (s : Machine) : Prop :=
  (c.manager.access.accepts c.session.remoteAddress = false ∨ s.wire.nodeCancelled = true) ∧
    (s.stage = .accepted ∨ ∃ r, s.stage = .returned r) ∧ .moved .bannerSent ∉ s.log

/-- A returned session's own task stands still. -/
theorem SessionStep.eq_of_returned (h : SessionStep c n s s') {r : Except ServerError Unit}
    (hs : s.stage = .returned r) : s' = s := by
  cases h <;> simp_all

theorem SessionStep.shut (h : SessionStep c n s s') (hsh : s.Shut c) : s'.Shut c := by
  obtain ⟨hgate, hst, hnot⟩ := hsh
  rcases hst with hst | ⟨r, hst⟩
  · cases h with
    | still => exact ⟨hgate, .inl hst, hnot⟩
    | refused _ ha => exact ⟨.inl ha, .inr ⟨_, rfl⟩, by simp [transition, hnot]⟩
    | cancelled _ _ hc => exact ⟨.inr hc, .inr ⟨_, rfl⟩, by simp [transition, hnot]⟩
    | authorized _ ha hc => simp [ha, hc] at hgate
    | _ => simp_all
  · rw [h.eq_of_returned hst]
    exact ⟨hgate, .inr ⟨r, hst⟩, hnot⟩

theorem MoveStep.shut (h : MoveStep c s mv s') (hsh : s.Shut c) : s'.Shut c := by
  cases h with
  | session h => exact h.shut hsh
  | receive hs _ | process hs _ =>
    -- the pumps run only while serving
    rcases hsh.2.1 with hst | ⟨r, hst⟩ <;> simp [hst] at hs
  | still => exact hsh
  | cancel => exact ⟨.inr rfl, hsh.2⟩

theorem shut_run (c : Connection) {nodeCancelled : Bool}
    (hgate : c.manager.access.accepts c.session.remoteAddress = false ∨ nodeCancelled = true)
    (moves : List Move) : ((init c nodeCancelled).run c moves).Shut c :=
  run_invariant (fun s mv _ hsh ↦ (step_spec c s mv).shut hsh) moves _ (fun _ _ ↦ trivial)
    ⟨by simpa [init] using hgate, .inl rfl, by simp [init]⟩

end Machine

/-- **Session callbacks are bracketed.** Whatever the schedule and whatever ends the session,
the calls a session has made are at every moment the start of its bracket; a session that has
returned made all of them if its banner went out and none otherwise; and a session whose peer is
refused, or whose node is cancelled before the check, calls nothing. -/
theorem callbacks_bracketed (c : Connection) (nodeCancelled : Bool) (moves : List Move) :
    let s := (Machine.init c nodeCancelled).run c moves
    calls s.log <+: c.bracket ∧
      (s.result?.isSome →
        calls s.log = c.bracket ∧ .moved .bannerSent ∈ s.log ∨
          calls s.log = [] ∧ .moved .bannerSent ∉ s.log) ∧
      (c.manager.access.accepts c.session.remoteAddress = false ∨ nodeCancelled = true →
        calls s.log = []) := by
  intro s
  have hb : s.Bracketed c := Machine.bracketed_run c nodeCancelled moves
  refine ⟨hb.calls_prefix, fun hdone ↦ ?_, fun hgate ↦ ?_⟩
  · obtain ⟨r, hr⟩ := Option.isSome_iff_exists.1 hdone
    have hb' := hb
    unfold Machine.Bracketed at hb'
    rw [Machine.stage_of_result hr] at hb'
    exact hb'.symm
  · exact hb.calls_of_not_sent (Machine.shut_run c hgate moves).2.2

end MetricsNode
