import MetricsNode.Proofs.SmoothSession

/-!
# A session that goes well can always return

No schedule can wedge a session that goes well: from every state a run reaches, some moves
lead to its return (`Machine.OnTrack.finishes`). Together with `Machine.OnTrack.returned` this
gives the whole contract of a session that goes well (`smooth_session_answers_every_line`): it
can always return, and when it returns it returns without error, having written the banner and
the answers to every complete line up to the first quit line.

## The measure

Every state that has not returned has a move that lowers the work left (`Machine.work`), taken
in order: the stage of the session's own task and what is left of it; then, while serving, the
bytes still on their way from the peer to the engine, each counted by how far it has to go, with
one more for each pump still running; and last where the process pump stands in its loop, with
the bytes of the answer it is writing. Reading, passing and framing a chunk move its bytes one
place on; a line leaves the framer for good; an answer is written piece by piece. That the
channel never holds an empty chunk (`Machine.ChunksNonempty`) is what makes each of these
moves count.
-/

namespace MetricsNode

open Net Wire

/-! ## The work left -/

/-- The work the session's own task has left: the stage, then what is left of it. -/
def Stage.work : Stage → Nat × Nat
  | .accepted => (5, 0)
  | .banner rest => (4, rest.length)
  | .starting hooks => (3, hooks.length)
  | .serving => (2, 0)
  | .closing hooks => (1, hooks.length)
  | .returned _ => (0, 0)

/-- Where the process pump stands in its loop, with the bytes of the answer it writes. -/
def Processor.work : Processor → Nat
  | .writing rest => rest.length + 2
  | .framing => 1
  | _ => 0

namespace Machine

/-! ## Chunks are never empty -/

/-- Every chunk in the reader's hand or in the channel holds at least one byte. -/
def ChunksNonempty (s : Machine) : Prop :=
  (∀ chunk, s.receiver = .holding chunk → chunk ≠ []) ∧ ∀ chunk ∈ s.channel, chunk ≠ []

section Chunks

variable {c : Connection} {s s' : Machine} {n : Nat} {mv : Move}

theorem ReceiverStep.chunksNonempty (h : ReceiverStep c n s s') (hn : s.ChunksNonempty) :
    s'.ChunksNonempty := by
  obtain ⟨hheld, hchan⟩ := hn
  cases h with
  | read hr hc hu =>
    refine ⟨fun chunk hchunk ↦ ?_, hchan⟩
    simp only [Receiver.holding.injEq] at hchunk
    rw [← hchunk]
    simpa using hu
  | sent hr =>
    refine ⟨fun chunk hchunk ↦ by simp at hchunk, fun chunk hm ↦ ?_⟩
    simp only [List.mem_append, List.mem_singleton] at hm
    rcases hm with hm | rfl
    · exact hchan chunk hm
    · exact hheld _ hr
  | still => exact ⟨hheld, hchan⟩
  | _ => exact ⟨fun chunk hchunk ↦ by simp [stopReceiver] at hchunk, hchan⟩

theorem MoveStep.chunksNonempty (h : MoveStep c s mv s') (hn : s.ChunksNonempty) :
    s'.ChunksNonempty := by
  cases h with
  | session h =>
    obtain ⟨-, hr, hch, -⟩ := h.frame
    rw [ChunksNonempty, hr, hch]
    exact hn
  | receive _ h => exact h.chunksNonempty hn
  | process _ h =>
    obtain ⟨-, -, hr, -⟩ := h.frame
    refine ⟨by rw [hr]; exact hn.1, ?_⟩
    cases h with
    | took hp hc hq =>
      intro chunk hm
      exact hn.2 chunk (by rw [hq]; exact List.mem_cons_of_mem _ hm)
    | _ => exact hn.2
  | still => exact hn
  | cancel => exact hn

end Chunks

/-- The bytes on their way from the peer to the engine, each counted by how far it still has to
go, and one more for each pump still running. -/
def pumpWork (s : Machine) : Nat :=
  4 * s.unread.length + 3 * s.held.length + 2 * s.channel.flatten.length +
    s.framer.buffer.length + (if s.receiver.running then 1 else 0) +
    (if s.processor.running then 1 else 0)

/-- The work a session has left, in the order in which it counts. -/
def work (s : Machine) : (Nat × Nat) × Nat × Nat := (s.stage.work, s.pumpWork, s.processor.work)

/-- Less work left. -/
def WorkLt (a b : (Nat × Nat) × Nat × Nat) : Prop :=
  Prod.Lex (Prod.Lex (· < ·) (· < ·)) (Prod.Lex (· < ·) (· < ·)) a b

section Work

variable {s s' : Machine}

theorem workLt_of_stage (h : Prod.Lex (· < ·) (· < ·) s'.stage.work s.stage.work) :
    WorkLt s'.work s.work :=
  Prod.Lex.left _ _ h

theorem workLt_of_pumps (hst : s'.stage = s.stage) (h : s'.pumpWork < s.pumpWork) :
    WorkLt s'.work s.work := by
  unfold work
  rw [hst]
  exact Prod.Lex.right _ (Prod.Lex.left _ _ h)

theorem workLt_of_processor (hst : s'.stage = s.stage) (hp : s'.pumpWork = s.pumpWork)
    (h : s'.processor.work < s.processor.work) : WorkLt s'.work s.work := by
  unfold work
  rw [hst, hp]
  exact Prod.Lex.right _ (Prod.Lex.right _ h)

end Work

/-! ## The session's own task moves on -/

section Progress

variable {c : Connection} {s : Machine}

theorem step_receive (hs : s.stage = .serving) (n : Nat) :
    s.step c (.receive n) = receiveStep c s n := by
  simp [step, hs]

theorem step_process (hs : s.stage = .serving) (n : Nat) :
    s.step c (.process n) = processStep c s n := by
  simp [step, hs]

theorem stage_step_receive (c : Connection) (s : Machine) (n : Nat) :
    (s.step c (.receive n)).stage = s.stage := by
  have h := step_spec c s (.receive n)
  generalize s.step c (.receive n) = s' at h ⊢
  cases h with
  | receive _ h => exact h.frame.1
  | still => rfl

/-- Outside serving the session's own task always has a step to take, and it lowers the work
left. -/
theorem OnTrack.session_progress (hc : c.Smooth) (ho : s.OnTrack c) (hs : s.stage ≠ .serving)
    (hres : s.result? = none) : WorkLt (s.step c (.session 0)).work s.work := by
  have hok := ho.stageOk
  apply workLt_of_stage
  cases hst : s.stage with
  | accepted =>
    simp [step, sessionStep, hst, hc.accepted, ho.node, transition, Stage.work, Prod.lex_def]
  | banner rest =>
    cases rest with
    | nil => simp [step, sessionStep, hst, transition, Stage.work, Prod.lex_def]
    | cons b bs =>
      obtain ⟨rest', w, hadv⟩ :=
        ho.advance hc (show s.owed c = some (b :: bs) by simp [owed, hst]) .banner 0
      have hlt := Sink.advance_shorter hadv
      simp only [List.length_cons] at hlt
      simp [step, sessionStep, hst, ho.node, hadv, Stage.work, Prod.lex_def, hlt]
  | starting hooks =>
    cases hooks with
    | nil => simp [step, sessionStep, hst, transition, Stage.work, Prod.lex_def]
    | cons ph rest =>
      simp only [StageOk, hst] at hok
      have hnone : ph.2.onStart = none := hok ph List.mem_cons_self
      simp [step, sessionStep, hst, Hooks.run, hnone, call, Stage.work, Prod.lex_def]
  | serving => exact absurd hst hs
  | closing hooks =>
    cases hooks with
    | nil => simp [step, sessionStep, hst, finish, transition, Stage.work, Prod.lex_def]
    | cons ph rest =>
      simp only [StageOk, hst] at hok
      have hnone : ph.2.onClose = none := hok.1 ph List.mem_cons_self
      simp [step, sessionStep, hst, Hooks.run, hnone, call, Stage.work, Prod.lex_def]
  | returned r => simp [result?, hst] at hres

/-! ## The pumps move on -/

/-- Taking a line out of the framer lowers the pumps' work, whatever the process pump does
next. -/
theorem pumpWork_lt_of_framer {s s' : Machine} (hu : s'.unread = s.unread)
    (hr : s'.receiver = s.receiver) (hch : s'.channel = s.channel)
    (hrun : s.processor.running = true)
    (hbuf : s'.framer.buffer.length < s.framer.buffer.length) : s'.pumpWork < s.pumpWork := by
  have hflag : (if s'.processor.running then 1 else 0) ≤ 1 := by
    split <;> omega
  simp only [pumpWork, held, hu, hr, hch, hrun, if_true] at hflag ⊢
  omega

/-- Stopping the receive pump drops the chunk in its hand and its flag. -/
theorem pumpWork_stopReceiver (s : Machine) (r : Except ServerError Unit)
    (hr : s.receiver.running = true) : (s.stopReceiver r).pumpWork < s.pumpWork := by
  have hheld : (s.stopReceiver r).held = [] := rfl
  have hstop : (s.stopReceiver r).receiver.running = false := rfl
  have hp : (s.stopReceiver r).processor = s.processor := rfl
  simp only [pumpWork, hheld, hstop, hp, hr, List.length_nil, Bool.false_eq_true, ↓reduceIte]
  dsimp only [stopReceiver]
  omega

/-- Stopping the process pump drops its flag. -/
theorem pumpWork_stopProcessor (s : Machine) (r : Except ServerError Status)
    (hp : s.processor.running = true) : (s.stopProcessor r).pumpWork < s.pumpWork := by
  have hstop : (s.stopProcessor r).processor.running = false := rfl
  have hheld : (s.stopProcessor r).held = s.held := rfl
  have hr : (s.stopProcessor r).receiver = s.receiver := rfl
  simp only [pumpWork, hstop, hheld, hr, hp, Bool.false_eq_true, ↓reduceIte]
  dsimp only [stopProcessor]
  omega

/-- Taking the next chunk off the stream: its bytes move from the unread input into the pump's
hand. -/
theorem pumpWork_take (s : Machine) (n : Nat) (hr : s.receiver = .reading) (hu : s.unread ≠ []) :
    ({ s with unread := s.unread.drop (n + 1), receiver := .holding (s.unread.take (n + 1)) } :
      Machine).pumpWork < s.pumpWork := by
  have hpos := List.length_pos_iff.2 hu
  simp only [pumpWork, held, hr, Receiver.running, List.length_drop, List.length_take]
  omega

/-- Handing the chunk to the channel: its bytes move one place on. -/
theorem pumpWork_hand (s : Machine) {chunk : Bytes} (hr : s.receiver = .holding chunk)
    (hne : chunk ≠ []) :
    ({ s with channel := s.channel ++ [chunk], receiver := .reading } : Machine).pumpWork <
      s.pumpWork := by
  have hpos := List.length_pos_iff.2 hne
  simp only [pumpWork, held, hr, Receiver.running, List.flatten_append, List.flatten_cons,
    List.flatten_nil, List.append_nil, List.length_append, List.length_nil]
  omega

/-- Taking the oldest chunk into the framer: its bytes move one place on. -/
theorem pumpWork_took (s : Machine) {chunk : Bytes} {rest : List Bytes}
    (hq : s.channel = chunk :: rest) (hne : chunk ≠ []) (hp : s.processor.running = true) :
    ({ s with channel := rest, framer := s.framer.push chunk, processor := .framing } :
      Machine).pumpWork < s.pumpWork := by
  have hpos := List.length_pos_iff.2 hne
  have hframing : Processor.framing.running = true := rfl
  simp only [pumpWork, held, hq, hp, hframing, Framer.push, List.flatten_cons, List.length_append,
    ↓reduceIte]
  omega

/-- A step of the running receive pump lowers the pumps' work, unless it holds a chunk that the
channel has no room for while the process pump still runs. -/
theorem pumpWork_receiveStep (n : Nat) (hr : s.receiver.running = true) (hn : s.ChunksNonempty)
    (hroom : s.processor.running = true →
      s.channel.length < c.manager.config.maxPendingChunks) :
    (receiveStep c s n).pumpWork < s.pumpWork := by
  cases hrec : s.receiver with
  | stopped r => simp [hrec, Receiver.running] at hr
  | reading =>
    simp only [receiveStep, hrec]
    split
    · exact pumpWork_stopReceiver s _ hr
    · split
      · exact pumpWork_stopReceiver s _ hr
      · rename_i hu
        exact pumpWork_take s n hrec hu
  | holding chunk =>
    simp only [receiveStep, hrec]
    split
    · exact pumpWork_stopReceiver s _ hr
    · split
      · exact pumpWork_stopReceiver s _ hr
      · -- the process pump runs, so the channel has room
        rename_i hrun
        rw [if_pos (hroom (by simpa using hrun))]
        exact pumpWork_hand s hrec (hn.1 chunk hrec)


/-- While the process pump runs, one of the pumps has a step that lowers the work left. -/
theorem OnTrack.pump_progress (hc : c.Smooth) (hpend : 0 < c.manager.config.maxPendingChunks)
    (ho : s.OnTrack c) (hn : s.ChunksNonempty) (hs : s.stage = .serving)
    (hrun : s.processor.running = true) :
    ∃ mv, mv ≠ .cancel ∧ WorkLt (s.step c mv).work s.work := by
  have hcan := ho.cancelled hrun
  cases hp : s.processor with
  | receiving =>
    cases hq : s.channel with
    | cons chunk rest =>
      have hstep : s.step c (.process 0) =
          { s with channel := rest, framer := s.framer.push chunk, processor := .framing } := by
        simp [step_process hs, processStep, hp, hcan, hq]
      refine ⟨.process 0, by simp, workLt_of_pumps (by rw [hstep]) ?_⟩
      rw [hstep]
      exact pumpWork_took s hq (hn.2 chunk (by simp [hq])) hrun
    | nil =>
      cases hr : s.receiver.running
      · -- nothing more can come: the pump stops
        have hstep : s.step c (.process 0) = s.stopProcessor (.ok .carryOn) := by
          simp [step_process hs, processStep, hp, hcan, hq, hr]
        refine ⟨.process 0, by simp, workLt_of_pumps (by rw [hstep]; rfl) ?_⟩
        rw [hstep]
        exact pumpWork_stopProcessor s _ hrun
      · -- the channel is empty, so it has room for the chunk in hand
        refine ⟨.receive 0, by simp, workLt_of_pumps (stage_step_receive c s 0) ?_⟩
        rw [step_receive hs]
        exact pumpWork_receiveStep 0 hr hn fun _ ↦ by simp [hq, hpend]
  | framing =>
    rcases Framer.nextLine_cases ho.orderly.valid with ⟨hno, hnl⟩ | ⟨x, y, hx, hb, hnl⟩
    · -- no line: back to the top of the loop
      refine ⟨.process 0, by simp, workLt_of_processor
        (by simp [step_process hs, processStep, hp, hnl])
        (by simp [step_process hs, processStep, hp, hnl, pumpWork, held, Processor.running])
        (by simp [step_process hs, processStep, hp, hnl, Processor.work])⟩
    · -- a line leaves the framer for good
      refine ⟨.process 0, by simp, workLt_of_pumps
        (by simp [step_process hs, processStep, hp, hnl, hcan, answer]) ?_⟩
      simp only [step_process hs, processStep, hp, hnl, hcan, Bool.false_eq_true, ↓reduceIte]
      refine pumpWork_lt_of_framer rfl rfl rfl hrun ?_
      simp only [answer, hb, List.length_append, List.length_cons]
      omega
  | writing rest =>
    cases rest with
    | nil =>
      refine ⟨.process 0, by simp, workLt_of_processor
        (by simp [step_process hs, processStep, hp])
        (by simp [step_process hs, processStep, hp, pumpWork, held, Processor.running])
        (by simp [step_process hs, processStep, hp, Processor.work])⟩
    | cons b bs =>
      -- a piece of the answer is written
      obtain ⟨rest', w, hadv⟩ :=
        ho.advance hc (show s.owed c = some (b :: bs) by simp [owed, hs, hp]) .sending 0
      have hlt := Sink.advance_shorter hadv
      refine ⟨.process 0, by simp, workLt_of_processor
        (by simp [step_process hs, processStep, hp, hcan, hadv])
        (by simp [step_process hs, processStep, hp, hcan, hadv, pumpWork, held,
          Processor.running])
        (by simp only [List.length_cons] at hlt
            simp [step_process hs, processStep, hp, hcan, hadv, Processor.work, hlt])⟩
  | stopped r => simp [hp, Processor.running] at hrun

/-- Once the process pump has stopped, the receive pump stops in one step, and then serving
ends. -/
theorem reader_progress (hn : s.ChunksNonempty) (hs : s.stage = .serving)
    (hstop : s.processor.running = false) :
    ∃ mv, mv ≠ .cancel ∧ WorkLt (s.step c mv).work s.work := by
  cases hr : s.receiver.running
  · refine ⟨.session 0, by simp, workLt_of_stage ?_⟩
    simp [step, sessionStep, hs, hr, hstop, transition, Stage.work, Prod.lex_def]
  · refine ⟨.receive 0, by simp, workLt_of_pumps (stage_step_receive c s 0) ?_⟩
    rw [step_receive hs]
    exact pumpWork_receiveStep 0 hr hn (by simp [hstop])

/-- **No state is stuck.** A session on track that has not returned has a move that lowers
the work left. -/
theorem OnTrack.exists_step (hc : c.Smooth) (hpend : 0 < c.manager.config.maxPendingChunks)
    (ho : s.OnTrack c) (hn : s.ChunksNonempty) (hres : s.result? = none) :
    ∃ mv, mv ≠ .cancel ∧ WorkLt (s.step c mv).work s.work := by
  by_cases hs : s.stage = .serving
  · cases hrun : s.processor.running
    · exact reader_progress hn hs hrun
    · exact ho.pump_progress hc hpend hn hs hrun
  · exact ⟨.session 0, by simp, ho.session_progress hc hs hres⟩

end Progress

theorem chunksNonempty_run (c : Connection) (nodeCancelled : Bool) (moves : List Move) :
    ((init c nodeCancelled).run c moves).ChunksNonempty :=
  run_invariant (fun s mv (_ : True) hn ↦ (step_spec c s mv).chunksNonempty hn) moves _
    (fun _ _ ↦ trivial) ⟨fun chunk h ↦ by simp [init] at h, fun chunk h ↦ by simp [init] at h⟩

/-- **A session on track can always return.** -/
theorem OnTrack.finishes {c : Connection} {s : Machine} (hc : c.Smooth)
    (hpend : 0 < c.manager.config.maxPendingChunks) (ho : s.OnTrack c)
    (hn : s.ChunksNonempty) : ∃ moves, Move.cancel ∉ moves ∧ (s.run c moves).result?.isSome := by
  cases hres : s.result? with
  | some r => exact ⟨[], List.not_mem_nil, by simp [hres]⟩
  | none =>
    obtain ⟨mv, hmv, hdec⟩ := ho.exists_step hc hpend hn hres
    have hstep := step_spec c s mv
    obtain ⟨moves, hno, hdone⟩ :=
      (hstep.onTrack hc hmv ho).finishes hc hpend (hstep.chunksNonempty hn)
    refine ⟨mv :: moves, ?_, by rw [run_cons]; exact hdone⟩
    simp only [List.mem_cons, not_or]
    exact ⟨fun h ↦ hmv h.symm, hno⟩
termination_by s.work
decreasing_by exact hdec

end Machine

/-- **A session that goes well answers every line.** When the peer is let in, its input ends
cleanly, the node's token is never cancelled, every callback succeeds, every field reads a value
without cancelling anything, the socket takes every byte and the channel has room for a chunk:
whatever the chunking and the schedule, a session that has returned returned without error and
wrote the banner and the answers to every complete line the peer sent, up to the first quit
line; and from every state a run reaches, the session can still return. -/
theorem smooth_session_answers_every_line (c : Connection) (hc : c.Smooth)
    (hpend : 0 < c.manager.config.maxPendingChunks) (moves : List Move)
    (hno : Move.cancel ∉ moves) :
    let s := (Machine.init c false).run c moves
    (∀ r, s.result? = some r → r = .ok () ∧ s.wire.written = c.expectedOutput) ∧
      ∃ more, Move.cancel ∉ more ∧ (s.run c more).result?.isSome := by
  intro s
  have ho : s.OnTrack c := Machine.onTrack_run hc moves hno
  exact ⟨fun r hr ↦ ho.returned (Machine.stage_of_result hr),
    ho.finishes hc hpend (Machine.chunksNonempty_run c false moves)⟩

/-- A loopback peer that asks for the version and quits, served by the standard commands over a
provider with no plugins. -/
def versionThenQuit : Connection where
  manager := { protocol := Protocol.standard "localhost" "0.1" {} }
  peer := { chunks := [encodeUtf8 "version\nquit\n"] }
  sink := {}
  session :=
    { localAddress := .v4 Net.Ipv4.localhost 4949
      remoteAddress := .v4 Net.Ipv4.localhost 50000
      acceptedAt := ⟨0, 0⟩ }

/-- A schedule that serves `versionThenQuit` to the end: the session's task writes the banner in
one piece and runs the start callback; the receive pump reads all input at once, hands it over
and stops at the end of input; the process pump frames `version`, writes its answer in one piece,
frames `quit` and stops; the session's task then closes. -/
def versionThenQuitSchedule : List Move :=
  [.session 0, .session 99, .session 0, .session 0, .session 0,
    .receive 99, .receive 0, .receive 0,
    .process 0, .process 0, .process 99, .process 0, .process 0,
    .session 0, .session 0, .session 0]

/-- On that schedule the session returns `Ok` with the banner and the version line written, the
expected output of the exchange. -/
theorem versionThenQuit_smooth_and_answers :
    versionThenQuit.Smooth ∧ 0 < versionThenQuit.manager.config.maxPendingChunks ∧
      Move.cancel ∉ versionThenQuitSchedule ∧
      ((Machine.init versionThenQuit false).run versionThenQuit
          versionThenQuitSchedule).result? = some (.ok ()) ∧
      ((Machine.init versionThenQuit false).run versionThenQuit
          versionThenQuitSchedule).wire.written =
        encodeUtf8 "# munin node at localhost\nmunins node on localhost version: 0.1\n" ∧
      ((∀ r, ((Machine.init versionThenQuit false).run versionThenQuit
            versionThenQuitSchedule).result? = some r →
          r = .ok () ∧ ((Machine.init versionThenQuit false).run versionThenQuit
            versionThenQuitSchedule).wire.written = versionThenQuit.expectedOutput) ∧
        ∃ more, Move.cancel ∉ more ∧
          (((Machine.init versionThenQuit false).run versionThenQuit
            versionThenQuitSchedule).run versionThenQuit more).result?.isSome) := by
  have hc : versionThenQuit.Smooth :=
    { accepted := by decide
      clean := rfl
      started := by simp [versionThenQuit, Protocol.standard, Protocol.startHooks,
        Protocol.pluginHooks]
      closed := by simp [versionThenQuit, Protocol.standard, Protocol.closeHooks,
        Protocol.pluginHooks]
      calm := fun pl h ↦ by simp [versionThenQuit, Protocol.standard] at h
      room := fun L h ↦ by simp [versionThenQuit] at h }
  have hpend : 0 < versionThenQuit.manager.config.maxPendingChunks := by decide
  have hno : Move.cancel ∉ versionThenQuitSchedule := by decide
  have hmain := smooth_session_answers_every_line versionThenQuit hc hpend _ hno
  -- the schedule reaches the return, so the theorem's first part applies to it
  have hsome : ((Machine.init versionThenQuit false).run versionThenQuit
      versionThenQuitSchedule).result?.isSome = true := by
    decide +kernel
  obtain ⟨r, hr⟩ := Option.isSome_iff_exists.1 hsome
  obtain ⟨rfl, hwritten⟩ := hmain.1 r hr
  have hexpected : versionThenQuit.expectedOutput =
      encodeUtf8 "# munin node at localhost\nmunins node on localhost version: 0.1\n" := by
    decide +kernel
  exact ⟨hc, hpend, hno, hr, hwritten.trans hexpected, hmain⟩

end MetricsNode
