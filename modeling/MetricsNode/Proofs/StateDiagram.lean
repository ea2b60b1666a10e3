import Mathlib.Data.List.Chain
import MetricsNode.Proofs.SessionSteps

/-!
# The states of a session

The diagram of a session draws the line

  accepted → authorized → banner sent → active → closing → closed

and two shortcuts to *closing*: from *accepted*, when the access rule refuses the peer, and from
*authorized*, when the banner cannot be written. A session follows it on every path but two.

* A session whose start callback fails goes from *banner sent* straight to *closing*: it never
  serves, and it still runs its close callbacks. The drawing lacks this edge; the session's design
  has it, since close callbacks run whenever the start callbacks were tried.
* A session whose node is found cancelled right after the access check returns `Cancelled` there,
  still *authorized*. Every other path ends *closed*.

## The runs of states

`Machine.Charted` says, stage by stage, which runs of states a session can have gone through: one
per way of leaving, five in all once it has returned. The pumps log no state, so only the
session's own steps move it, and each of those appends the states its stage allows.

## Main results

* `Machine.charted_run`: whatever the schedule, a session's states are a run its stage allows.
* `session_states_follow_diagram`: in order and interleaved alike, the states follow the diagram
  with the edge from *banner sent* to *closing*; the session is *active* only once every start
  callback succeeded; and it returns *closed*, unless it returned `Cancelled` before its banner
  was sent.
* `drawn_diagram_misses_two_paths`: the drawn diagram alone is not followed, on each of the two
  paths above.
-/

namespace MetricsNode

open Wire

namespace SessionState

/-- The moves the diagram draws: the main line and the shortcuts to closing from accepted and from
authorized. -/
def drawn : SessionState → SessionState → Bool
  | .accepted, .authorized | .authorized, .bannerSent | .bannerSent, .active
  | .active, .closing | .closing, .closed | .accepted, .closing | .authorized, .closing => true
  | _, _ => false

/-- The moves a session makes: those drawn, and from banner sent to closing when a start callback
fails. -/
def next (a b : SessionState) : Bool := drawn a b || (a == .bannerSent && b == .closing)

end SessionState

/-- The states a log shows the session moving to, in order. -/
def movedStates (log : List Event) : List SessionState :=
  log.filterMap fun
    | .moved st => some st
    | _ => none

@[simp] theorem movedStates_append (log log' : List Event) :
    movedStates (log ++ log') = movedStates log ++ movedStates log' := by
  simp [movedStates]

@[simp] theorem movedStates_nil : movedStates [] = [] := rfl

@[simp] theorem movedStates_moved (st : SessionState) (log : List Event) :
    movedStates (.moved st :: log) = st :: movedStates log := rfl

@[simp] theorem movedStates_called (p : Party) (closing : Bool) (id : String) (log : List Event) :
    movedStates (.called p closing id :: log) = movedStates log := rfl

@[simp] theorem movedStates_handled (line : Bytes) (a : Except ServerError Reply)
    (log : List Event) : movedStates (.handled line a :: log) = movedStates log := rfl

/-- Every one of the callbacks succeeds when it runs at session start. -/
def StartsCleanly (hooks : List (Party × Hooks)) : Prop :=
  ∀ ph ∈ hooks, (ph.2.run ph.1 false).2 = .ok ()

theorem startsCleanly_append {done more : List (Party × Hooks)} (h : StartsCleanly done)
    (h' : StartsCleanly more) : StartsCleanly (done ++ more) := by
  intro ph hm
  rcases List.mem_append.1 hm with hm | hm
  · exact h ph hm
  · exact h' ph hm

/-- A run of start callbacks succeeds exactly when each of them does. -/
theorem runHooks_start_ok_iff (hooks : List (Party × Hooks)) :
    (runHooks false hooks).2 = .ok () ↔ StartsCleanly hooks := by
  induction hooks with
  | nil => simp [runHooks, StartsCleanly]
  | cons ph rest ih =>
    obtain ⟨party, h⟩ := ph
    unfold StartsCleanly at ih ⊢
    cases hr : (h.run party false).2 with
    | error e => simp [runHooks, hr]
    | ok u => simp [runHooks, hr, ih]

/-- Session start succeeds exactly when every start callback does. -/
theorem Protocol.start_ok_iff (p : Protocol) :
    p.start.2 = .ok () ↔ StartsCleanly p.startHooks := by
  rw [← runHooks_start_ok_iff]
  unfold Protocol.start
  generalize runHooks false p.startHooks = run
  obtain ⟨t, r⟩ := run
  cases r <;> simp [Except.mapError]

namespace Machine

variable {c : Connection} {n : Nat} {mv : Move} {s s' : Machine}

/-! ## The runs of states, stage by stage -/

/-- The states a session has gone through, by the stage it stands at: none before its check, the
check's verdict while the banner goes out, the banner while the start callbacks run (all of those
run so far having succeeded), activity while serving, and one of the five ways of leaving once it
has returned. -/
def Charted (c : Connection) (s : Machine) : Prop :=
  match s.stage with
  | .accepted => movedStates s.log = []
  | .banner _ => movedStates s.log = [.authorized]
  | .starting hooks =>
    movedStates s.log = [.authorized, .bannerSent] ∧
      ∃ done, done ++ hooks = c.manager.protocol.startHooks ∧ StartsCleanly done
  | .serving =>
    movedStates s.log = [.authorized, .bannerSent, .active] ∧
      StartsCleanly c.manager.protocol.startHooks
  | .closing _ =>
    movedStates s.log = [.authorized, .bannerSent, .closing] ∨
      movedStates s.log = [.authorized, .bannerSent, .active, .closing] ∧
        StartsCleanly c.manager.protocol.startHooks
  | .returned r =>
    movedStates s.log = [.closing, .closed] ∨
      r = .error .cancelled ∧ movedStates s.log = [.authorized] ∨
      movedStates s.log = [.authorized, .closing, .closed] ∨
      movedStates s.log = [.authorized, .bannerSent, .closing, .closed] ∨
      movedStates s.log = [.authorized, .bannerSent, .active, .closing, .closed] ∧
        StartsCleanly c.manager.protocol.startHooks

/-- A step that keeps the stage and logs no state keeps the chart. -/
theorem Charted.of_frame (hc : s.Charted c) (hst : s'.stage = s.stage)
    (hlog : movedStates s'.log = movedStates s.log) : s'.Charted c := by
  unfold Charted at hc ⊢
  rw [hst, hlog]
  exact hc

/-- The process pump logs lines and answers, never a state. -/
theorem ProcessorStep.movedStates_eq (h : ProcessorStep c n s s') :
    movedStates s'.log = movedStates s.log := by
  cases h <;> simp [stopProcessor, answer]

theorem SessionStep.charted (h : SessionStep c n s s') (hc : s.Charted c) : s'.Charted c := by
  cases h with
  | still => exact hc
  | refused hs _ | cancelled hs _ _ | authorized hs _ _ =>
    simp only [Charted, hs] at hc
    simp [Charted, transition, hc]
  | bannerSent hs =>
    simp only [Charted, hs] at hc
    exact ⟨by simp [transition, hc], [], rfl, fun _ hm ↦ absurd hm List.not_mem_nil⟩
  | bannerPiece hs _ =>
    simp only [Charted, hs] at hc
    simpa [Charted] using hc
  | bannerFailed hs _ =>
    simp only [Charted, hs] at hc
    simp [Charted, finish, transition, hc]
  | active hs =>
    -- every start callback has run, and each succeeded
    simp only [Charted, hs, List.append_nil] at hc
    obtain ⟨hst, done, rfl, hdone⟩ := hc
    exact ⟨by simp [transition, hst], hdone⟩
  | started hs hr =>
    simp only [Charted, hs] at hc
    obtain ⟨hst, done, hsplit, hdone⟩ := hc
    refine ⟨by simpa [call] using hst, done ++ [(_, _)], by simpa using hsplit, ?_⟩
    exact startsCleanly_append hdone fun ph hm ↦ by
      rw [List.mem_singleton.1 hm]
      exact hr
  | startFailed hs _ =>
    simp only [Charted, hs] at hc
    simp [Charted, call, transition, hc.1]
  | served hs _ _ =>
    simp only [Charted, hs] at hc
    simp [Charted, transition, hc.1, hc.2]
  | closed hs | closeFailed hs _ =>
    -- closing ends closed, on either of its two runs
    simp only [Charted, hs] at hc
    rcases hc with hst | ⟨hst, hclean⟩
    · simp [Charted, finish, transition, call, hst]
    · simp [Charted, finish, transition, call, hst, hclean]
  | ended hs _ =>
    simp only [Charted, hs] at hc
    simpa [Charted, call] using hc

theorem MoveStep.charted (h : MoveStep c s mv s') (hc : s.Charted c) : s'.Charted c := by
  cases h with
  | session h => exact h.charted hc
  | receive _ h =>
    obtain ⟨hst, -, -, -, hlog, -⟩ := h.frame
    exact hc.of_frame hst (by rw [hlog])
  | process _ h => exact hc.of_frame h.frame.1 h.movedStates_eq
  | still => exact hc
  | cancel => exact hc.of_frame rfl rfl

/-- **The runs of states.** Whatever the schedule, the states a session went through are a run its
stage allows. -/
theorem charted_run (c : Connection) (nodeCancelled : Bool) (moves : List Move) :
    ((init c nodeCancelled).run c moves).Charted c :=
  run_invariant (fun s mv _ hc ↦ (step_spec c s mv).charted hc) moves _ (fun _ _ ↦ trivial)
    (by simp [Charted, init, movedStates])

/-! ## What the chart gives -/

/-- The states follow the diagram, with the edge from banner sent to closing. -/
theorem Charted.path (hc : s.Charted c) :
    (SessionState.accepted :: movedStates s.log).IsChain fun a b ↦ a.next b = true := by
  unfold Charted at hc
  split at hc
  · rw [hc]
    decide
  · rw [hc]
    decide
  · rw [hc.1]
    decide
  · rw [hc.1]
    decide
  · rcases hc with hst | ⟨hst, -⟩ <;> rw [hst] <;> decide
  · rcases hc with hst | ⟨-, hst⟩ | hst | hst | ⟨hst, -⟩ <;> rw [hst] <;> decide

/-- A session is active only once every start callback succeeded. -/
theorem Charted.startsCleanly_of_active (hc : s.Charted c) (ha : .active ∈ movedStates s.log) :
    StartsCleanly c.manager.protocol.startHooks := by
  unfold Charted at hc
  split at hc
  · rw [hc] at ha
    contradiction
  · rw [hc] at ha
    simp at ha
  · rw [hc.1] at ha
    simp at ha
  · exact hc.2
  · rcases hc with hst | ⟨-, hclean⟩
    · rw [hst] at ha
      simp at ha
    · exact hclean
  · rcases hc with hst | ⟨-, hst⟩ | hst | hst | ⟨-, hclean⟩
    all_goals first
      | exact hclean
      | (rw [hst] at ha; simp at ha)

/-- A returned session is closed, unless it returned `Cancelled` straight after the check. -/
theorem Charted.closed_of_returned (hc : s.Charted c) {r : Except ServerError Unit}
    (hr : s.stage = .returned r) :
    (movedStates s.log).getLast? = some .closed ∨
      r = .error .cancelled ∧ movedStates s.log = [.authorized] := by
  simp only [Charted, hr] at hc
  rcases hc with hst | hcan | hst | hst | ⟨hst, -⟩
  · exact .inl (by rw [hst]; rfl)
  · exact .inr hcan
  · exact .inl (by rw [hst]; rfl)
  · exact .inl (by rw [hst]; rfl)
  · exact .inl (by rw [hst]; rfl)

end Machine

/-! ## Sessions run in order -/

/-- A session run in the order `SessionManager.run` follows takes the same paths: it follows the
diagram with the edge from banner sent to closing, is active only once every start callback
succeeded, and returns closed unless it returned `Cancelled` straight after the check. -/
theorem SessionManager.run_states (m : SessionManager) (peer : Peer) (sink : Sink)
    (remote : Net.SocketAddress) (nodeCancelled : Bool) :
    let o := m.run peer sink remote nodeCancelled
    (o.states.IsChain fun a b ↦ a.next b = true) ∧
      (.active ∈ o.states → StartsCleanly m.protocol.startHooks) ∧
      (o.states.getLast? = some .closed ∨
        o.result = .error .cancelled ∧ o.states = [.accepted, .authorized]) := by
  intro o
  unfold o SessionManager.run
  dsimp only
  split
  · exact ⟨by decide, fun ha ↦ absurd ha (by decide), .inl rfl⟩
  · split
    · exact ⟨by decide, fun ha ↦ absurd ha (by decide), .inr ⟨rfl, rfl⟩⟩
    · split
      · exact ⟨by dsimp only; decide, fun ha ↦ absurd ha (by dsimp only; decide), .inl rfl⟩
      · -- the session serves, and so is active, only when session start succeeded
        cases hs : (m.protocol.start).2 with
        | ok u =>
          exact ⟨by simp; decide, fun _ ↦ (m.protocol.start_ok_iff).1 hs, .inl (by simp)⟩
        | error e => exact ⟨by simp; decide, fun ha ↦ by simp at ha, .inl (by simp)⟩

/-- **The states of a session.** In order and interleaved alike: the states a session goes through
follow the diagram with the edge from banner sent to closing; the session is active only once
every start callback succeeded; and it returns closed, unless it returned `Cancelled` before its
banner was sent. -/
theorem session_states_follow_diagram (c : Connection) (nodeCancelled : Bool)
    (moves : List Move) :
    let o := c.manager.run c.peer c.sink c.session.remoteAddress nodeCancelled
    let s := (Machine.init c nodeCancelled).run c moves
    ((o.states.IsChain fun a b ↦ a.next b = true) ∧
      (.active ∈ o.states → StartsCleanly c.manager.protocol.startHooks) ∧
      (o.states.getLast? = some .closed ∨
        o.result = .error .cancelled ∧ .bannerSent ∉ o.states)) ∧
    (((SessionState.accepted :: movedStates s.log).IsChain fun a b ↦ a.next b = true) ∧
      (.active ∈ movedStates s.log → StartsCleanly c.manager.protocol.startHooks) ∧
      (∀ r, s.result? = some r →
        (movedStates s.log).getLast? = some .closed ∨
          r = .error .cancelled ∧ .bannerSent ∉ movedStates s.log)) := by
  intro o s
  have hc : s.Charted c := Machine.charted_run c nodeCancelled moves
  obtain ⟨hpath, hactive, hend⟩ :=
    SessionManager.run_states c.manager c.peer c.sink c.session.remoteAddress nodeCancelled
  refine ⟨⟨hpath, hactive, ?_⟩, hc.path, hc.startsCleanly_of_active, fun r hr ↦ ?_⟩
  -- where the session returns after the check, its last state is left open
  · rcases hend with hend | ⟨hr, hst⟩
    · exact .inl hend
    · exact .inr ⟨hr, by rw [hst]; decide⟩
  · rcases hc.closed_of_returned (Machine.stage_of_result hr) with hend | ⟨hr, hst⟩
    · exact .inl hend
    · exact .inr ⟨hr, by rw [hst]; decide⟩

/-! ## The drawn diagram alone -/

/-- A manager whose provider refuses every session at its start callback. -/
def refusingStart : SessionManager where
  protocol :=
    Protocol.standard "localhost" "0.1" { hooks := { onStart := some (.callback "down") } }

/-- The drawn diagram alone is not followed: a session whose start callback fails moves from banner
sent to closing, and one whose node is found cancelled after the check returns authorized. -/
theorem drawn_diagram_misses_two_paths :
    let remote : Net.SocketAddress := .v4 Net.Ipv4.localhost 50000
    ¬((refusingStart.run { chunks := [] } {} remote false).states.IsChain
        fun a b ↦ a.drawn b = true) ∧
      (refusingStart.run { chunks := [] } {} remote true).states.getLast? ≠ some .closed := by
  intro remote
  constructor
  · decide
  · decide

end MetricsNode
