import MetricsNode.Node.Server
import MetricsNode.Proofs.SequentialSchedule

/-!
# A failing session fails alone

A session ends in one of two ways: it returns `Ok`, or it returns `Cancelled`, and the second only
when the node's own token is cancelled. A failed read or write, a failed fetch or callback, and a
plugin that reports a cancellation of its own end the session quietly: the session token they
cancel is the session's, a child of the node's, and what a session returns looks at the node's
token alone.

Because of that the listener never stops for what happens inside a session. It runs whole
sessions on the connections in order, one at a time, until the node's token is cancelled, and
then reports the stop as success, or as `Cancelled` if its caller asked to see it.

## Main results

* `Machine.settled_run`: whatever the schedule of a session's tasks, a session that has returned
  returned `Ok`, or `Cancelled` with the node's token cancelled.
* `MuninServer.acceptLoop_sessions`, `MuninServer.acceptLoop_quiet`,
  `MuninServer.acceptLoop_stops`: the listener runs the sessions of a prefix of the connections
  in order; every one but the last returned `Ok`; and it stops before the connections run out
  only on a cancellation.
* `MuninServer.serve_sessions_scheduled`: each of those sessions is what some schedule of the
  session's interleaved tasks shows (through `SessionManager.run_scheduled`), so what is said of
  every schedule holds of the sessions the listener runs.
* `session_failures_isolated`: all together, with the result of serving.
-/

namespace MetricsNode

namespace Machine

variable {c : Connection} {n : Nat} {mv : Move} {s s' : Machine}

/-! ## What a session returns -/

/-- A returned session returned `Ok`, or `Cancelled` with the node's token cancelled. -/
def Settled (s : Machine) : Prop :=
  ∀ r, s.stage = .returned r →
    r = .ok () ∨ r = .error .cancelled ∧ s.wire.nodeCancelled = true

/-- A step that keeps the stage and makes the node's token live nowhere keeps a session
settled. -/
theorem Settled.of_frame (hs : s.Settled) (hst : s'.stage = s.stage)
    (hn : s.wire.nodeCancelled = true → s'.wire.nodeCancelled = true) : s'.Settled := by
  intro r hr
  rcases hs r (hst ▸ hr) with hok | ⟨herr, hc⟩
  · exact .inl hok
  · exact .inr ⟨herr, hn hc⟩

/-- Closing returns what the node's token says at that moment. -/
theorem finish_settled (s : Machine) : s.finish.Settled := by
  intro r hr
  have hwire : s.finish.wire = s.wire := rfl
  rw [hwire]
  simp only [finish, transition, Stage.returned.injEq] at hr
  cases hn : s.wire.nodeCancelled
  · simp only [hn, Bool.false_eq_true, ↓reduceIte] at hr
    exact .inl hr.symm
  · simp only [hn, ↓reduceIte] at hr
    exact .inr ⟨hr.symm, rfl⟩

theorem SessionStep.settled (h : SessionStep c n s s') (hs : s.Settled) : s'.Settled := by
  cases h with
  | still => exact hs
  | refused =>
    intro r hr
    simp only [Stage.returned.injEq] at hr
    exact .inl hr.symm
  | cancelled _ _ hc =>
    -- the check that finds the node cancelled returns at once
    intro r hr
    simp only [Stage.returned.injEq] at hr
    exact .inr ⟨hr.symm, hc⟩
  | bannerFailed => exact finish_settled _
  | closed => exact finish_settled _
  | closeFailed => exact finish_settled _
  | _ =>
    -- every other step leaves the session short of returning
    intro r hr
    simp at hr

theorem MoveStep.settled (h : MoveStep c s mv s') (hs : s.Settled) : s'.Settled := by
  -- only the session's own steps move the stage, and no move revives the node's token
  have hnode := h.token_le.1
  cases h with
  | session h => exact h.settled hs
  | receive _ h => exact hs.of_frame h.frame.1 hnode
  | process _ h => exact hs.of_frame h.frame.1 hnode
  | still => exact hs
  | cancel => exact hs.of_frame rfl hnode

/-- **What a session returns.** Whatever the schedule, a returned session returned `Ok`, or
`Cancelled` with the node's token cancelled. -/
theorem settled_run (c : Connection) (nodeCancelled : Bool) (moves : List Move) :
    ((init c nodeCancelled).run c moves).Settled :=
  run_invariant (fun s mv _ hs ↦ (step_spec c s mv).settled hs) moves _ (fun _ _ ↦ trivial)
    (fun r hr ↦ by simp [init] at hr)

end Machine

/-! ## Sessions run in order -/

/-- A session run in the order `SessionManager.run` follows returns `Ok` or `Cancelled`. -/
theorem SessionManager.run_result (m : SessionManager) (peer : Peer) (sink : Sink)
    (remote : Net.SocketAddress) (nodeCancelled : Bool) :
    (m.run peer sink remote nodeCancelled).result = .ok () ∨
      (m.run peer sink remote nodeCancelled).result = .error .cancelled := by
  -- every exit returns `Ok` or the node token's verdict
  have verdict : ∀ b : Bool, (if b = true then Except.error ServerError.cancelled else .ok ()) =
      .ok () ∨ (if b = true then Except.error ServerError.cancelled else .ok ()) =
        .error .cancelled := by
    intro b
    cases b <;> simp
  unfold SessionManager.run
  dsimp only
  split
  · exact .inl rfl
  · split
    · exact .inr rfl
    · split
      · exact verdict _
      · exact verdict _

/-! ## The listener -/

/-- A session leaves the node cancelled exactly when it returned `Cancelled`. -/
theorem SessionOutcome.cancelledNode_iff (o : SessionOutcome) :
    o.cancelledNode = true ↔ o.result = .error .cancelled := by
  unfold SessionOutcome.cancelledNode
  split <;> simp_all

namespace MuninServer

variable (srv : MuninServer)

theorem acceptLoop_cancelled (incoming : List Incoming) :
    srv.acceptLoop incoming true = ([], .cancelled) := by
  cases incoming <;> rfl

/-- One turn of the listener: a whole session on the next connection, then a stop if it left the
node cancelled, and the next turn otherwise. -/
theorem acceptLoop_cons (i : Incoming) (rest : List Incoming) :
    srv.acceptLoop (i :: rest) false =
      if (srv.sessions.run i.peer i.sink i.remote false).cancelledNode then
        ([srv.sessions.run i.peer i.sink i.remote false], .cancelled)
      else
        (srv.sessions.run i.peer i.sink i.remote false :: (srv.acceptLoop rest false).1,
          (srv.acceptLoop rest false).2) := by
  cases h : (srv.sessions.run i.peer i.sink i.remote false).cancelledNode
  · simp [acceptLoop, h]
  · simp [acceptLoop, h, acceptLoop_cancelled]

/-- The listener stops only for a cancellation, never for what a session did. -/
theorem acceptLoop_error (incoming : List Incoming) (cancelled : Bool) :
    (srv.acceptLoop incoming cancelled).2 = .cancelled := by
  induction incoming with
  | nil => cases cancelled <;> rfl
  | cons i rest ih =>
    cases cancelled
    · rw [acceptLoop_cons]
      split
      · rfl
      · exact ih
    · rfl

/-- **One session at a time.** The sessions are whole runs on the first connections, in order. -/
theorem acceptLoop_sessions (incoming : List Incoming) (cancelled : Bool) :
    (srv.acceptLoop incoming cancelled).1 =
      (incoming.take (srv.acceptLoop incoming cancelled).1.length).map
        fun i ↦ srv.sessions.run i.peer i.sink i.remote false := by
  induction incoming with
  | nil => cases cancelled <;> rfl
  | cons i rest ih =>
    cases cancelled
    · rw [acceptLoop_cons]
      split
      · simp
      · simp only [List.length_cons, List.take_succ_cons, List.map_cons]
        rw [← ih]
    · rfl

/-- Every session but the last returned `Ok`: a session that returns `Cancelled` is the last. -/
theorem acceptLoop_quiet (incoming : List Incoming) (cancelled : Bool) :
    ∀ o ∈ (srv.acceptLoop incoming cancelled).1.dropLast, o.result = .ok () := by
  induction incoming with
  | nil => cases cancelled <;> simp [acceptLoop]
  | cons i rest ih =>
    cases cancelled
    · rw [acceptLoop_cons]
      split
      · simp
      · rename_i hlive
        intro o ho
        cases hrest : (srv.acceptLoop rest false).1 with
        | nil => simp [hrest] at ho
        | cons o' os =>
          rw [hrest, List.dropLast_cons_cons, List.mem_cons] at ho
          rcases ho with rfl | ho
          · -- a session that left the node live did not return `Cancelled`
            rcases SessionManager.run_result srv.sessions i.peer i.sink i.remote false with
              hok | hcan
            · exact hok
            · exact absurd ((SessionOutcome.cancelledNode_iff _).2 hcan) hlive
          · exact ih o (hrest ▸ ho)
    · simp [acceptLoop_cancelled]

/-- The listener leaves connections unserved only when the node is cancelled: from the start,
or by the last session it ran. -/
theorem acceptLoop_stops (incoming : List Incoming) (cancelled : Bool)
    (hshort : (srv.acceptLoop incoming cancelled).1.length < incoming.length) :
    cancelled = true ∨ ∃ o, (srv.acceptLoop incoming cancelled).1.getLast? = some o ∧
      o.result = .error .cancelled := by
  induction incoming with
  | nil => simp at hshort
  | cons i rest ih =>
    cases cancelled
    · right
      rw [acceptLoop_cons] at hshort ⊢
      split
      · rename_i hcan
        exact ⟨_, rfl, (SessionOutcome.cancelledNode_iff _).1 hcan⟩
      · rename_i hlive
        rw [if_neg hlive] at hshort
        simp only [List.length_cons, Nat.add_lt_add_iff_right] at hshort
        rcases ih hshort with hc | ⟨o, hlast, ho⟩
        · cases hc
        · refine ⟨o, ?_, ho⟩
          cases hrest : (srv.acceptLoop rest false).1 with
          | nil => simp [hrest] at hlast
          | cons o' os => rw [hrest] at hlast; simpa [List.getLast?_cons_cons] using hlast
    · exact .inl rfl

/-- Serving ends by cancellation: as success, or as `Cancelled` when the caller asked for it. -/
theorem serve_result (incoming : List Incoming) (cancelled errorOnCancel : Bool) :
    (srv.serve incoming cancelled errorOnCancel).result =
      if errorOnCancel then .error .cancelled else .ok () := by
  simp only [serve, srv.acceptLoop_error]
  cases errorOnCancel <;> rfl

/-- Every session the listener runs is one the interleaved tasks produce: on the connection it
ran on, with any session record naming the peer's address, some schedule with no cancellation
from outside shows its outcome, when the channel has room for a chunk. -/
theorem serve_sessions_scheduled (incoming : List Incoming) (cancelled errorOnCancel : Bool)
    (hpend : 0 < srv.sessions.config.maxPendingChunks) :
    ∀ o ∈ (srv.serve incoming cancelled errorOnCancel).sessions, ∃ i ∈ incoming,
      ∀ sess : Session, sess.remoteAddress = i.remote →
        ∃ moves, Move.cancel ∉ moves ∧
          ((Machine.init ⟨srv.sessions, i.peer, i.sink, sess⟩ false).run
            ⟨srv.sessions, i.peer, i.sink, sess⟩ moves).Shows o := by
  intro o ho
  have hsessions : (srv.serve incoming cancelled errorOnCancel).sessions =
      (srv.acceptLoop incoming cancelled).1 := rfl
  rw [hsessions, srv.acceptLoop_sessions incoming cancelled] at ho
  obtain ⟨i, hi, rfl⟩ := List.mem_map.1 ho
  refine ⟨i, List.mem_of_mem_take hi, fun sess hsess ↦ ?_⟩
  simpa [hsess] using SessionManager.run_scheduled ⟨srv.sessions, i.peer, i.sink, sess⟩ false hpend

end MuninServer

/-- **A failing session fails alone.** Whatever the schedule of a session's tasks and whatever
fails in it, a session that has returned returned `Ok`, or `Cancelled` with the node's token
cancelled. And a server serving a list of connections runs whole sessions on a prefix of them,
in order; each of those returned `Ok` or `Cancelled`, and all but the last returned `Ok`; it
leaves connections unserved only when the node was cancelled from the start or by the last
session; it reports the stop as success, or as `Cancelled` if asked to; and when the channel has
room for a chunk, as every valid configuration gives it, each of those sessions is what some
schedule of the session's tasks, with no cancellation from outside, shows on its connection. -/
theorem session_failures_isolated (c : Connection) (nodeCancelled : Bool) (moves : List Move)
    (srv : MuninServer) (incoming : List Incoming) (cancelled errorOnCancel : Bool) :
    (let s := (Machine.init c nodeCancelled).run c moves;
      ∀ r, s.result? = some r →
        r = .ok () ∨ r = .error .cancelled ∧ s.wire.nodeCancelled = true) ∧
    (let sv := srv.serve incoming cancelled errorOnCancel;
      sv.result = (if errorOnCancel then .error .cancelled else .ok ()) ∧
      sv.sessions = (incoming.take sv.sessions.length).map
        (fun i ↦ srv.sessions.run i.peer i.sink i.remote false) ∧
      (∀ o ∈ sv.sessions, o.result = .ok () ∨ o.result = .error .cancelled) ∧
      (∀ o ∈ sv.sessions.dropLast, o.result = .ok ()) ∧
      (sv.sessions.length < incoming.length →
        cancelled = true ∨
          ∃ o, sv.sessions.getLast? = some o ∧ o.result = .error .cancelled) ∧
      (0 < srv.sessions.config.maxPendingChunks →
        ∀ o ∈ sv.sessions, ∃ i ∈ incoming, ∀ sess : Session, sess.remoteAddress = i.remote →
          ∃ moves, Move.cancel ∉ moves ∧
            ((Machine.init ⟨srv.sessions, i.peer, i.sink, sess⟩ false).run
              ⟨srv.sessions, i.peer, i.sink, sess⟩ moves).Shows o)) := by
  refine ⟨fun r hr ↦ Machine.settled_run c nodeCancelled moves r (Machine.stage_of_result hr),
    ?_⟩
  have hsessions : (srv.serve incoming cancelled errorOnCancel).sessions =
      (srv.acceptLoop incoming cancelled).1 := rfl
  refine ⟨srv.serve_result incoming cancelled errorOnCancel, ?_, ?_, ?_, ?_,
    srv.serve_sessions_scheduled incoming cancelled errorOnCancel⟩
  · rw [hsessions]
    exact srv.acceptLoop_sessions incoming cancelled
  · intro o ho
    rw [hsessions, srv.acceptLoop_sessions incoming cancelled] at ho
    obtain ⟨i, -, rfl⟩ := List.mem_map.1 ho
    exact SessionManager.run_result _ _ _ _ _
  · rw [hsessions]
    exact srv.acceptLoop_quiet incoming cancelled
  · rw [hsessions]
    exact srv.acceptLoop_stops incoming cancelled

end MetricsNode
