import MetricsNode.Proofs.OrderlyExchange

/-!
# A session that goes well answers every line

When nothing goes wrong (the peer is let in and its input ends cleanly, the node's token is never
cancelled, every callback succeeds, every field reads a value without cancelling anything, and
the socket takes every byte it is given) a session answers every complete line the peer sends,
up to the first quit line, whatever the chunking and whatever the order in which its tasks run;
then it returns without error.

## The invariant

`Machine.OnTrack` adds to `Machine.Orderly` what a run without failures keeps: no token is
cancelled while the process pump runs, every answer is the one a live session gets
(`Connection.respond`), a receive pump that stopped while the process pump runs has read
everything, and a stopped process pump has handed out every line up to the first quit line and
written every answer. No step can fail: a write always has room, because what is written and what
is owed stay a prefix of the expected output (`Machine.OnTrack.fits`), which the socket takes.
-/

namespace MetricsNode

open Net Wire

theorem prefix_flatMap {f : Bytes → Bytes} {l₁ l₂ : List Bytes} (h : l₁ <+: l₂) :
    l₁.flatMap f <+: l₂.flatMap f := by
  obtain ⟨t, rfl⟩ := h
  rw [List.flatMap_append]
  exact List.prefix_append _ _

namespace Connection

/-- The bytes the engine answers to a line while the session's tokens are live. -/
def respond (c : Connection) (line : Bytes) : Bytes :=
  answerBytes (c.manager.protocol.handle line {}).1

/-- What a session that goes well writes: the banner, then the answers to the complete lines
the peer sends, up to the first quit line. -/
def expectedOutput (c : Connection) : Bytes :=
  encodeUtf8 c.manager.protocol.banner ++
    ((completeLines c.peer.chunks.flatten).takeWhile fun l ↦
      !isQuitLine (decodeLossy l)).flatMap c.respond

/-- The circumstances in which a session goes well. -/
structure Smooth (c : Connection) : Prop where
  /-- The access rule lets the peer in. -/
  accepted : c.manager.access.accepts c.session.remoteAddress = true
  /-- The input ends at its end, or with a read error that only says the peer has gone. -/
  clean : c.peer.endOfInput = .ok ()
  /-- Every start callback succeeds. -/
  started : ∀ ph ∈ c.manager.protocol.startHooks, ph.2.onStart = none
  /-- Every close callback succeeds. -/
  closed : ∀ ph ∈ c.manager.protocol.closeHooks, ph.2.onClose = none
  /-- Every field reads a value and cancels nothing. -/
  calm : c.manager.protocol.provider.Calm
  /-- The socket takes every byte of the expected output. -/
  room : ∀ L, c.sink.limit = some L → c.expectedOutput.length ≤ L

theorem respond_quit (c : Connection) {line : Bytes}
    (hq : isQuitLine (decodeLossy line) = true) : c.respond line = [] := by
  rw [respond, Protocol.handle_of_quit _ hq]
  rfl

end Connection

namespace Machine

/-- What the session's own task keeps when nothing goes wrong: the callbacks still to run
succeed, and once serving is over the process pump has stopped and the session returns without
error. -/
def StageOk (s : Machine) : Prop :=
  match s.stage with
  | .starting hooks => ∀ ph ∈ hooks, ph.2.onStart = none
  | .closing hooks => (∀ ph ∈ hooks, ph.2.onClose = none) ∧ s.processor.running = false
  | .returned r => r = .ok () ∧ s.processor.running = false
  | _ => True

/-- What a run in which nothing goes wrong keeps. -/
structure OnTrack (c : Connection) (s : Machine) : Prop where
  orderly : s.Orderly c
  node : s.wire.nodeCancelled = false
  live : s.processor.running = true → s.sessionCancelled = false
  replies : answers s.log = (handledLines s.log).flatMap c.respond
  /-- A receive pump stops early only when the process pump has stopped. -/
  readerDone : s.receiver.running = false → s.processor.running = true → s.unread = []
  /-- At the top of its loop the process pump has taken every line out of the framer. -/
  waiting : s.processor = .receiving → lineFeed ∉ s.framer.buffer
  /-- A stopped process pump has handed out every line through the first quit line, and every
  answer is on the wire. -/
  done : s.processor.running = false →
    handledLines s.log = throughQuit (completeLines c.peer.chunks.flatten) ∧
      s.wire.written = encodeUtf8 c.manager.protocol.banner ++ answers s.log
  stageOk : s.StageOk

section OnTrack

variable {c : Connection} {s s' : Machine} {n : Nat} {mv : Move}

theorem OnTrack.cancelled (ho : s.OnTrack c) (hp : s.processor.running = true) :
    s.cancelled = false := by
  simp [cancelled_eq, ho.node, ho.live hp]

/-- While the process pump runs, it answers under live tokens. -/
theorem OnTrack.token (ho : s.OnTrack c) (hp : s.processor.running = true) : s.token = {} := by
  simp [Machine.token, ho.node, ho.live hp]

/-- What is written, followed by what is owed, stays within the expected output. -/
theorem OnTrack.fits (ho : s.OnTrack c) {r : Bytes} (hr : s.owed c = some r) :
    s.wire.written ++ r <+: c.expectedOutput := by
  obtain ⟨read, hread, hlines⟩ := ho.orderly.handled_through_quit
  have hall : handledLines s.log <+: throughQuit (completeLines c.peer.chunks.flatten) := by
    rw [← hread]
    exact hlines.trans (throughQuit_mono (prefix_completeLines_append read s.unread))
  rw [ho.orderly.answered.1 r hr, ho.replies, Connection.expectedOutput,
    ← flatMap_throughQuit c.respond (fun _ ↦ c.respond_quit)]
  exact (List.prefix_append_right_inj _).2 (prefix_flatMap hall)

/-- A write of what is owed goes through. -/
theorem OnTrack.advance (hc : c.Smooth) (ho : s.OnTrack c) {b : UInt8} {bs : Bytes}
    (hr : s.owed c = some (b :: bs)) (phase : SessionPhase) (n : Nat) :
    ∃ rest w, c.sink.advance s.wire false phase n (b :: bs) = (.ok rest, w) := by
  refine Sink.advance_of_room fun L hL ↦ ?_
  have hlen := (ho.fits hr).length_le
  have := hc.room L hL
  simp only [List.length_append, List.length_cons] at hlen
  omega

/-! ## The session's own task -/

/-- A step of the session's own task keeps everything but the wire and the stage. -/
theorem OnTrack.of_session (ho : s.OnTrack c) (h : SessionStep c n s s') (ho' : s'.Orderly c)
    (hn : s'.wire.nodeCancelled = false)
    (hw : s.processor.running = false → s'.wire.written = s.wire.written) (hst : s'.StageOk) :
    s'.OnTrack c := by
  obtain ⟨hu, hr, -, hf, hp, hsc, hx⟩ := h.frame
  have hh := handledLines_eq_of_exchanges hx
  have ha := answers_eq_of_exchanges hx
  refine ⟨ho', hn, ?_, ?_, ?_, ?_, ?_, hst⟩
  · rw [hp, hsc]
    exact ho.live
  · rw [ha, hh]
    exact ho.replies
  · rw [hr, hp, hu]
    exact ho.readerDone
  · rw [hp, hf]
    exact ho.waiting
  · rw [hp, hh, ha]
    intro hrun
    rw [hw hrun]
    exact ho.done hrun

theorem SessionStep.onTrack (hc : c.Smooth) (h : SessionStep c n s s') (ho : s.OnTrack c)
    (ho' : s'.Orderly c) : s'.OnTrack c := by
  have keep := ho.of_session h ho'
  have hst := ho.stageOk
  cases h with
  | still => exact ho
  | refused _ ha => simp [hc.accepted] at ha
  | cancelled _ _ hn => simp [ho.node] at hn
  | authorized hs => exact keep ho.node (fun _ ↦ rfl) trivial
  | bannerSent hs => exact keep ho.node (fun _ ↦ rfl) hc.started
  | @bannerPiece b bs rest w hs hadv =>
    -- before serving the process pump runs, so only the banner's bytes are on the wire
    have hrun : s.processor.running = true := by
      rw [ho.orderly.idle (by simp [hs, Stage.beforeServing])]
      rfl
    exact keep (by rw [(Sink.advance_ok hadv).2]; exact ho.node) (fun h' ↦ by simp [hrun] at h')
      trivial
  | @bannerFailed b bs e w hs hadv =>
    obtain ⟨rest, w', hok⟩ :=
      ho.advance hc (show s.owed c = some (b :: bs) by simp [owed, hs]) .banner n
    rw [ho.node, hok] at hadv
    cases hadv
  | active hs => exact keep ho.node (fun _ ↦ rfl) trivial
  | started hs hr =>
    simp only [StageOk, hs] at hst
    exact keep ho.node (fun _ ↦ rfl) fun ph hm ↦ hst ph (List.mem_cons_of_mem _ hm)
  | @startFailed party hk rest e hs hr =>
    simp only [StageOk, hs] at hst
    have hok : hk.onStart = none := hst _ List.mem_cons_self
    simp [Hooks.run, hok] at hr
  | served hs hr hp => exact keep ho.node (fun _ ↦ rfl) ⟨hc.closed, hp⟩
  | closed hs =>
    simp only [StageOk, hs] at hst
    exact keep (by simp [finish, transition, ho.node]) (fun _ ↦ rfl)
      (by simp [StageOk, finish, transition, ho.node, hst.2])
  | ended hs hr =>
    simp only [StageOk, hs] at hst
    exact keep ho.node (fun _ ↦ rfl)
      ⟨fun ph hm ↦ hst.1 ph (List.mem_cons_of_mem _ hm), hst.2⟩
  | @closeFailed party hk rest e hs hr =>
    simp only [StageOk, hs] at hst
    have hok : hk.onClose = none := hst.1 _ List.mem_cons_self
    simp [Hooks.run, hok] at hr

/-! ## The receive pump -/

theorem ReceiverStep.onTrack (hc : c.Smooth) (h : ReceiverStep c n s s') (ho : s.OnTrack c)
    (ho' : s'.Orderly c) : s'.OnTrack c := by
  obtain ⟨hst, hf, hp, hw, hl, -⟩ := h.frame
  -- all but the reader, what it read and the session token is left alone
  have keep : (s'.processor.running = true → s'.sessionCancelled = false) →
      (s'.receiver.running = false → s'.processor.running = true → s'.unread = []) →
      s'.OnTrack c := fun hlive hdone ↦
    ⟨ho', by rw [hw]; exact ho.node, hlive, by rw [hl]; exact ho.replies, hdone,
      by rw [hp, hf]; exact ho.waiting, by rw [hp, hl, hw]; exact ho.done,
      by unfold StageOk; rw [hst, hp]; exact ho.stageOk⟩
  cases h with
  | still => exact ho
  | cancelled hr hcan =>
    -- the token is cancelled only once the process pump has stopped
    have hstop : s.processor.running = false := by
      cases hrun : s.processor.running with
      | false => rfl
      | true => simp [ho.cancelled hrun] at hcan
    exact keep (fun h' ↦ by simp [stopReceiver, hstop] at h')
      (fun _ h' ↦ by simp [stopReceiver, hstop] at h')
  | read => exact keep ho.live (fun h' ↦ by simp [Receiver.running] at h')
  | ended hr hcan hu => exact keep (by simpa [stopReceiver, hc.clean] using ho.live) fun _ _ ↦ hu
  | sent => exact keep ho.live (fun h' ↦ by simp [Receiver.running] at h')
  | closed hr hcan hp' =>
    exact keep (fun h' ↦ by simp [stopReceiver, hp'] at h')
      (fun _ h' ↦ by simp [stopReceiver, hp'] at h')

/-! ## The process pump -/

theorem Processor.afterAnswer_stopped {reply : Reply}
    (h : (Processor.afterAnswer (.ok reply)).running = false) : reply.status = .quit := by
  cases hs : reply.status with
  | quit => rfl
  | carryOn => simp [Processor.afterAnswer, hs, Processor.running] at h

/-- Answering under live tokens leaves the node live, cancels the session token only when the
pump stops, and gives the live answer. -/
theorem answer_live (hc : c.Smooth) (htok : s.token = {}) (line : Bytes) :
    (answer c s line).wire.nodeCancelled = false ∧
      (answer c s line).sessionCancelled = !(answer c s line).processor.running ∧
      answers (answer c s line).log = answers s.log ++ c.respond line ∧
      ∃ reply, (answer c s line).processor = Processor.afterAnswer (.ok reply) ∧
        (reply.status = .quit ↔ isQuitLine (decodeLossy line) = true) := by
  obtain ⟨reply, hreply⟩ := Protocol.handle_calm hc.calm line
    (show Cancellation.isCancelled {} = false from rfl)
  have hq := Protocol.handle_quit_iff (show (c.manager.protocol.handle line {}).1 = .ok reply by
    rw [hreply])
  refine ⟨by simp [answer, htok, hreply], by simp [answer, htok, hreply],
    by simp [answer, htok, Connection.respond], reply, by simp [answer, htok, hreply], hq⟩

/-- A step of the process pump that keeps it running, hands out no line and keeps the node
live keeps the session on track. -/
theorem OnTrack.of_running (ho : s.OnTrack c) (ho' : s'.Orderly c) (hs : s'.stage = .serving)
    (hrun : s.processor.running = true) (hrun' : s'.processor.running = true)
    (hn : s'.wire.nodeCancelled = false) (hsc : s'.sessionCancelled = s.sessionCancelled)
    (hl : s'.log = s.log) (hr : s'.receiver = s.receiver) (hu : s'.unread = s.unread)
    (hwait : s'.processor = .receiving → lineFeed ∉ s'.framer.buffer) : s'.OnTrack c := by
  refine ⟨ho', hn, fun _ ↦ by rw [hsc]; exact ho.live hrun, by rw [hl]; exact ho.replies,
    fun h' _ ↦ ?_, hwait, fun h' ↦ by simp [hrun'] at h', by simp [StageOk, hs]⟩
  rw [hr] at h'
  rw [hu]
  exact ho.readerDone h' hrun

theorem ProcessorStep.onTrack (hc : c.Smooth) (h : ProcessorStep c n s s')
    (hs : s.stage = .serving) (ho : s.OnTrack c) (ho' : s'.Orderly c) : s'.OnTrack c := by
  have hst : s'.stage = .serving := by rw [h.frame.1, hs]
  cases h with
  | still => exact ho
  | cancelled hp hcan => simp [ho.cancelled (by rw [hp]; rfl)] at hcan
  | took hp =>
    exact ho.of_running ho' hst (by rw [hp]; rfl) rfl ho.node rfl rfl rfl rfl
      (fun h' ↦ by simp at h')
  | @drained hp hcan hq hr =>
    -- the reader has read everything, and every line of it has been handed out
    have hrun : s.processor.running = true := by rw [hp]; rfl
    obtain ⟨read, taken, hread, -, -, hflow⟩ := ho.orderly.supplied
    obtain ⟨hflat, htr⟩ := hflow ⟨hcan, hrun⟩
    rw [hq, held_of_stopped hr, List.flatten_nil, List.append_nil, List.append_nil] at hflat
    rw [ho.readerDone hr hrun, List.append_nil, ← hflat] at hread
    have hlines : handledLines s.log = completeLines c.peer.chunks.flatten := by
      rw [← hread, htr.1, completeLines_of_not_mem (ho.waiting hp), List.append_nil]
    have hthrough : throughQuit (completeLines c.peer.chunks.flatten) =
        completeLines c.peer.chunks.flatten := by
      rw [← hlines]
      exact throughQuit_of_forall (ho.orderly.quitLast.1 hrun)
    have hw := ho.orderly.answered.1 [] (by simp [owed, hs, hp])
    rw [List.append_nil] at hw
    refine ⟨ho', ho.node, fun h' ↦ by simp [stopProcessor, Processor.running] at h', ho.replies,
      fun _ h' ↦ by simp [stopProcessor, Processor.running] at h',
      fun h' ↦ by simp [stopProcessor] at h', fun _ ↦ ⟨by rw [hthrough]; exact hlines, hw⟩,
      by simp [StageOk, stopProcessor, hs]⟩
  | noLine hp hf =>
    have hno := Framer.buffer_of_nextLine_none ho.orderly.valid hf
    exact ho.of_running ho' hst (by rw [hp]; rfl) rfl ho.node rfl rfl rfl rfl
      (fun _ ↦ by rw [hno.1]; exact hno.2)
  | lineCancelled hp hf hcan => simp [ho.cancelled (by rw [hp]; rfl)] at hcan
  | @line line f hp hf hcan =>
    have hrun : s.processor.running = true := by rw [hp]; rfl
    obtain ⟨hn, hsc, hans, reply, hnext, hq⟩ :=
      answer_live hc (show ({ s with framer := f } : Machine).token = {} from ho.token hrun) line
    have hh : handledLines (answer c { s with framer := f } line).log =
        handledLines s.log ++ [line] := by
      simp [answer]
    refine ⟨ho', hn, fun h' ↦ by rw [hsc, h']; rfl, ?_, fun h' _ ↦ ho.readerDone h' hrun,
      fun h' ↦ ?_, fun hstop ↦ ?_, by simp [StageOk, answer, hs]⟩
    · rw [hans, hh, ho.replies, List.flatMap_append, List.flatMap_singleton]
    · -- after an answer the pump writes or stops, and is never back at the top of its loop
      rw [hnext] at h'
      rcases Processor.afterAnswer_cases (.ok reply) with ⟨r, hr⟩ | hw
      · rw [hr] at h'
        cases h'
      · rw [hw] at h'
        cases h'
    · -- the pump stopped on a quit line: it was the last line to hand out
      rw [hnext] at hstop
      have hquit := hq.1 (Processor.afterAnswer_stopped hstop)
      obtain ⟨read, hread, hlines⟩ := ho'.handled_through_quit
      have hall : handledLines s.log ++ [line] <+:
          throughQuit (completeLines c.peer.chunks.flatten) := by
        rw [← hh, ← hread]
        exact hlines.trans (throughQuit_mono (prefix_completeLines_append read _))
      have hw := ho.orderly.answered.1 [] (by simp [owed, hs, hp])
      rw [List.append_nil] at hw
      refine ⟨by rw [hh]; exact eq_throughQuit_of_quit hall hquit, ?_⟩
      rw [hans, c.respond_quit hquit, List.append_nil]
      exact hw
  | written hp =>
    exact ho.of_running ho' hst (by rw [hp]; rfl) rfl ho.node rfl rfl rfl rfl
      (fun h' ↦ by simp at h')
  | @piece b bs rest w hp hadv =>
    exact ho.of_running ho' hst (by rw [hp]; rfl) rfl
      (by rw [(Sink.advance_ok hadv).2]; exact ho.node) rfl rfl rfl rfl (fun h' ↦ by simp at h')
  | @failed b bs e w hp hadv =>
    -- the write has room, so it cannot fail
    obtain ⟨rest, w', hok⟩ :=
      ho.advance hc (show s.owed c = some (b :: bs) by simp [owed, hs, hp]) .sending n
    rw [ho.cancelled (by rw [hp]; rfl), hok] at hadv
    cases hadv

/-! ## Every run without a cancelling move stays on track -/

theorem MoveStep.onTrack (hc : c.Smooth) (h : MoveStep c s mv s') (hmv : mv ≠ .cancel)
    (ho : s.OnTrack c) : s'.OnTrack c := by
  have ho' := h.orderly ho.orderly
  cases h with
  | session h => exact h.onTrack hc ho ho'
  | receive _ h => exact h.onTrack hc ho ho'
  | process hs h => exact h.onTrack hc hs ho ho'
  | still => exact ho
  | cancel => exact absurd rfl hmv

end OnTrack

theorem onTrack_init (c : Connection) : (init c false).OnTrack c where
  orderly := orderly_init c false
  node := rfl
  live _ := rfl
  replies := rfl
  readerDone h := by simp [init, Receiver.running] at h
  waiting _ := List.not_mem_nil
  done h := by simp [init, Processor.running] at h
  stageOk := trivial

/-- **A run without a cancelling move stays on track.** -/
theorem onTrack_run {c : Connection} (hc : c.Smooth) (moves : List Move)
    (hno : Move.cancel ∉ moves) : ((init c false).run c moves).OnTrack c :=
  run_invariant (fun s mv (hmv : mv ≠ .cancel) ho ↦ (step_spec c s mv).onTrack hc hmv ho) moves _
    (fun _ hm h ↦ hno (h ▸ hm)) (onTrack_init c)

/-- A session on track that has returned returned without error, having written exactly the
expected output. -/
theorem OnTrack.returned {c : Connection} {s : Machine} (ho : s.OnTrack c)
    {r : Except ServerError Unit} (hr : s.stage = .returned r) :
    r = .ok () ∧ s.wire.written = c.expectedOutput := by
  have hst := ho.stageOk
  simp only [StageOk, hr] at hst
  obtain ⟨hlines, hw⟩ := ho.done hst.2
  refine ⟨hst.1, ?_⟩
  rw [hw, ho.replies, hlines, flatMap_throughQuit c.respond (fun _ ↦ c.respond_quit),
    Connection.expectedOutput]

end Machine

end MetricsNode
