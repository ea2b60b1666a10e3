import MetricsNode.Node.Machine
import MetricsNode.Proofs.EngineAnswers

/-!
# What one move of a session does

Each task of `Node/Machine.lean` takes one kind of step in each place it can stand. Here each
kind of step is written down once, as a constructor with its guard (`ReceiverStep`,
`ProcessorStep`, `SessionStep`, and `MoveStep` for a whole move), and the step functions are
shown to take only such steps (`Machine.step_spec`). The invariants of the later modules are
proved by a case analysis on these constructors, so that no later proof unfolds a step function.

The module also names what a log shows (the lines handed to the engine, the bytes of their
answers, the callbacks called), proves that a run is a fold that can be cut anywhere, and proves
that cancellation is never undone: the tokens only ever go from live to cancelled.
-/

namespace MetricsNode

open Net Wire

/-! ## What a log shows -/

/-- The lines handed to the engine, each with its answer, in order. -/
def exchanges (log : List Event) : List (Bytes × Except ServerError Reply) :=
  log.filterMap fun
    | .handled l a => some (l, a)
    | _ => none

/-- The lines handed to the engine, in order. -/
def handledLines (log : List Event) : List Bytes := (exchanges log).map Prod.fst

/-- The bytes an answer puts on the wire: its lines, unless it failed or ends the session. -/
def answerBytes : Except ServerError Reply → Bytes
  | .ok r => if r.status = .carryOn then encodeLines r.lines else []
  | .error _ => []

/-- The bytes of the answers in a log, in order. -/
def answers (log : List Event) : Bytes := (exchanges log).flatMap fun e ↦ answerBytes e.2

/-- The callbacks called, in order: by whom, whether at close, and with which session name. -/
def calls (log : List Event) : List (Party × Bool × String) :=
  log.filterMap fun
    | .called p closing id => some (p, closing, id)
    | _ => none

section Log

variable (log log' : List Event)

@[simp] theorem exchanges_nil : exchanges [] = [] := rfl
@[simp] theorem calls_nil : calls [] = [] := rfl
@[simp] theorem handledLines_nil : handledLines [] = [] := rfl
@[simp] theorem answers_nil : answers [] = [] := rfl

@[simp] theorem exchanges_append : exchanges (log ++ log') = exchanges log ++ exchanges log' := by
  simp [exchanges]

@[simp] theorem calls_append : calls (log ++ log') = calls log ++ calls log' := by
  simp [calls]

@[simp] theorem exchanges_moved (st : SessionState) :
    exchanges (.moved st :: log) = exchanges log := rfl
@[simp] theorem calls_moved (st : SessionState) : calls (.moved st :: log) = calls log := rfl

@[simp] theorem exchanges_called (p : Party) (b : Bool) (id : String) :
    exchanges (.called p b id :: log) = exchanges log := rfl
@[simp] theorem calls_called (p : Party) (b : Bool) (id : String) :
    calls (.called p b id :: log) = (p, b, id) :: calls log := rfl

@[simp] theorem exchanges_handled (l : Bytes) (a : Except ServerError Reply) :
    exchanges (.handled l a :: log) = (l, a) :: exchanges log := rfl
@[simp] theorem calls_handled (l : Bytes) (a : Except ServerError Reply) :
    calls (.handled l a :: log) = calls log := rfl

theorem handledLines_eq_of_exchanges {log log' : List Event} (h : exchanges log' = exchanges log) :
    handledLines log' = handledLines log := by
  rw [handledLines, h, handledLines]

theorem answers_eq_of_exchanges {log log' : List Event} (h : exchanges log' = exchanges log) :
    answers log' = answers log := by
  rw [answers, h, answers]

@[simp] theorem handledLines_concat (l : Bytes) (a : Except ServerError Reply) :
    handledLines (log ++ [.handled l a]) = handledLines log ++ [l] := by
  simp [handledLines]

@[simp] theorem answers_concat (l : Bytes) (a : Except ServerError Reply) :
    answers (log ++ [.handled l a]) = answers log ++ answerBytes a := by
  simp [answers]

end Log

/-! ## Writes -/

/-- A piece of a write moves bytes from what is still to go to what is written. -/
theorem Sink.advance_ok {sink : Sink} {w w' : Wire} {cancelled : Bool} {phase : SessionPhase}
    {n : Nat} {rest rest' : Bytes} (h : sink.advance w cancelled phase n rest = (.ok rest', w')) :
    w'.written ++ rest' = w.written ++ rest ∧ w'.nodeCancelled = w.nodeCancelled := by
  cases hc : cancelled
  · -- each branch is a pair of constructors: the failing ones cannot match, the others name `w'`
    cases hroom : sink.room w <;>
      simp only [Sink.advance, hc, hroom, Bool.false_eq_true, ↓reduceIte] at h <;> split at h
    all_goals cases h
    all_goals simp
  · simp [Sink.advance, hc] at h

/-- A failed write writes nothing, and may only cancel the node. -/
theorem Sink.advance_error {sink : Sink} {w w' : Wire} {cancelled : Bool} {phase : SessionPhase}
    {n : Nat} {rest : Bytes} {e : ServerError}
    (h : sink.advance w cancelled phase n rest = (.error e, w')) :
    w'.written = w.written ∧ (w.nodeCancelled = true → w'.nodeCancelled = true) := by
  cases hc : cancelled
  · cases hroom : sink.room w <;>
      simp only [Sink.advance, hc, hroom, Bool.false_eq_true, ↓reduceIte] at h <;> split at h
    all_goals cases h
    all_goals simp +contextual
  · simp only [Sink.advance, hc, ↓reduceIte, Prod.mk.injEq] at h
    obtain ⟨-, rfl⟩ := h
    exact ⟨rfl, id⟩

/-- A piece of a write that goes through writes at least one byte. -/
theorem Sink.advance_shorter {sink : Sink} {w w' : Wire} {cancelled : Bool}
    {phase : SessionPhase} {n : Nat} {b : UInt8} {bs rest : Bytes}
    (h : sink.advance w cancelled phase n (b :: bs) = (.ok rest, w')) :
    rest.length < (b :: bs).length := by
  cases hc : cancelled
  · cases hroom : sink.room w <;>
      simp only [Sink.advance, hc, hroom, Bool.false_eq_true, ↓reduceIte] at h <;> split at h
    all_goals cases h
    all_goals simp only [List.length_drop, List.length_cons]
    all_goals omega
  · simp [Sink.advance, hc] at h

/-- A write goes through when it is not cancelled and the socket takes one more byte. -/
theorem Sink.advance_of_room {sink : Sink} {w : Wire} {phase : SessionPhase} {n : Nat}
    {b : UInt8} {bs : Bytes} (hroom : ∀ L, sink.limit = some L → w.written.length < L) :
    ∃ rest w', sink.advance w false phase n (b :: bs) = (.ok rest, w') := by
  cases hlim : sink.limit with
  | none =>
    refine ⟨(b :: bs).drop (n + 1), { w with written := w.written ++ (b :: bs).take (n + 1) }, ?_⟩
    simp [Sink.advance, Sink.room, hlim]
  | some L =>
    have hk : min (n + 1) (L - w.written.length) ≠ 0 := by
      have := hroom L hlim
      omega
    refine ⟨(b :: bs).drop (min (n + 1) (L - w.written.length)),
      { w with written := w.written ++ (b :: bs).take (min (n + 1) (L - w.written.length)) }, ?_⟩
    simp [Sink.advance, Sink.room, hlim, hk]

namespace Machine

/-- The chunk the receive pump holds, if any. -/
def held (s : Machine) : Bytes :=
  match s.receiver with
  | .holding chunk => chunk
  | _ => []

theorem held_of_stopped {s : Machine} (h : s.receiver.running = false) : s.held = [] := by
  unfold held
  split <;> simp_all [Receiver.running]

/-! ## The steps of each task -/

/-- The steps of the receive pump, each with its guard. -/
inductive ReceiverStep (c : Connection) (n : Nat) (s : Machine) : Machine → Prop where
  /-- A stopped pump stays stopped; a pump with no room in the channel waits. -/
  | still : ReceiverStep c n s s
  /-- A cancelled token stops the pump, which drops a chunk it holds. -/
  | cancelled (hr : s.receiver.running = true) (hc : s.cancelled = true) :
      ReceiverStep c n s (s.stopReceiver (.error .cancelled))
  /-- A read takes the next bytes of the peer. -/
  | read (hr : s.receiver = .reading) (hc : s.cancelled = false) (hu : s.unread ≠ []) :
      ReceiverStep c n s
        { s with unread := s.unread.drop (n + 1), receiver := .holding (s.unread.take (n + 1)) }
  /-- The read after the peer's last byte ends the pump. -/
  | ended (hr : s.receiver = .reading) (hc : s.cancelled = false) (hu : s.unread = []) :
      ReceiverStep c n s (s.stopReceiver c.peer.endOfInput)
  /-- The chunk goes into the channel. -/
  | sent {chunk : Bytes} (hr : s.receiver = .holding chunk) (hc : s.cancelled = false)
      (hp : s.processor.running = true)
      (hroom : s.channel.length < c.manager.config.maxPendingChunks) :
      ReceiverStep c n s { s with channel := s.channel ++ [chunk], receiver := .reading }
  /-- The process pump is gone: the chunk is dropped and the pump stops. -/
  | closed {chunk : Bytes} (hr : s.receiver = .holding chunk) (hc : s.cancelled = false)
      (hp : s.processor.running = false) :
      ReceiverStep c n s (s.stopReceiver (.ok ()))

/-- The steps of the process pump, each with its guard. -/
inductive ProcessorStep (c : Connection) (n : Nat) (s : Machine) : Machine → Prop where
  /-- A stopped pump stays stopped; a pump with an empty channel and a live reader waits. -/
  | still : ProcessorStep c n s s
  /-- A cancelled token stops the pump at the top of its loop. -/
  | cancelled (hp : s.processor = .receiving) (hc : s.cancelled = true) :
      ProcessorStep c n s (s.stopProcessor (.error .cancelled))
  /-- The oldest chunk of the channel goes into the framer. -/
  | took {chunk : Bytes} {rest : List Bytes} (hp : s.processor = .receiving)
      (hc : s.cancelled = false) (hq : s.channel = chunk :: rest) :
      ProcessorStep c n s
        { s with channel := rest, framer := s.framer.push chunk, processor := .framing }
  /-- An empty channel whose reader has stopped ends the pump. -/
  | drained (hp : s.processor = .receiving) (hc : s.cancelled = false) (hq : s.channel = [])
      (hr : s.receiver.running = false) :
      ProcessorStep c n s (s.stopProcessor (.ok .carryOn))
  /-- No complete line is left: back to the top of the loop. -/
  | noLine {f : Framer} (hp : s.processor = .framing) (hf : s.framer.nextLine = (none, f)) :
      ProcessorStep c n s { s with framer := f, processor := .receiving }
  /-- A line is taken under a cancelled token: the pump stops without answering it. -/
  | lineCancelled {line : Bytes} {f : Framer} (hp : s.processor = .framing)
      (hf : s.framer.nextLine = (some line, f)) (hc : s.cancelled = true) :
      ProcessorStep c n s ({ s with framer := f }.stopProcessor (.error .cancelled))
  /-- A line is taken and answered. -/
  | line {line : Bytes} {f : Framer} (hp : s.processor = .framing)
      (hf : s.framer.nextLine = (some line, f)) (hc : s.cancelled = false) :
      ProcessorStep c n s (answer c { s with framer := f } line)
  /-- The answer is all written: back to the lines. -/
  | written (hp : s.processor = .writing []) :
      ProcessorStep c n s { s with processor := .framing }
  /-- A piece of the answer is written. -/
  | piece {b : UInt8} {bs rest : Bytes} {w : Wire} (hp : s.processor = .writing (b :: bs))
      (ha : c.sink.advance s.wire s.cancelled .sending n (b :: bs) = (.ok rest, w)) :
      ProcessorStep c n s { s with wire := w, processor := .writing rest }
  /-- The write fails or is cancelled: the pump stops. -/
  | failed {b : UInt8} {bs : Bytes} {e : ServerError} {w : Wire}
      (hp : s.processor = .writing (b :: bs))
      (ha : c.sink.advance s.wire s.cancelled .sending n (b :: bs) = (.error e, w)) :
      ProcessorStep c n s ({ s with wire := w }.stopProcessor (.error e))

/-- The steps of the session's own task, each with its guard. -/
inductive SessionStep (c : Connection) (n : Nat) (s : Machine) : Machine → Prop where
  /-- A returned session stays returned; a serving one waits for its pumps. -/
  | still : SessionStep c n s s
  | refused (hs : s.stage = .accepted)
      (ha : c.manager.access.accepts c.session.remoteAddress = false) :
      SessionStep c n s
        { (s.transition .closing).transition .closed with stage := .returned (.ok ()) }
  | cancelled (hs : s.stage = .accepted)
      (ha : c.manager.access.accepts c.session.remoteAddress = true)
      (hc : s.wire.nodeCancelled = true) :
      SessionStep c n s { s.transition .authorized with stage := .returned (.error .cancelled) }
  | authorized (hs : s.stage = .accepted)
      (ha : c.manager.access.accepts c.session.remoteAddress = true)
      (hc : s.wire.nodeCancelled = false) :
      SessionStep c n s
        { s.transition .authorized with stage := .banner (encodeUtf8 c.manager.protocol.banner) }
  | bannerSent (hs : s.stage = .banner []) :
      SessionStep c n s
        { s.transition .bannerSent with stage := .starting c.manager.protocol.startHooks }
  | bannerPiece {b : UInt8} {bs rest : Bytes} {w : Wire} (hs : s.stage = .banner (b :: bs))
      (ha : c.sink.advance s.wire s.wire.nodeCancelled .banner n (b :: bs) = (.ok rest, w)) :
      SessionStep c n s { s with wire := w, stage := .banner rest }
  | bannerFailed {b : UInt8} {bs : Bytes} {e : ServerError} {w : Wire}
      (hs : s.stage = .banner (b :: bs))
      (ha : c.sink.advance s.wire s.wire.nodeCancelled .banner n (b :: bs) = (.error e, w)) :
      SessionStep c n s ({ s with wire := w }.transition .closing).finish
  | active (hs : s.stage = .starting []) :
      SessionStep c n s { s.transition .active with stage := .serving }
  | started {party : Party} {h : Hooks} {rest : List (Party × Hooks)}
      (hs : s.stage = .starting ((party, h) :: rest)) (hr : (h.run party false).2 = .ok ()) :
      SessionStep c n s { s.call c party h false with stage := .starting rest }
  | startFailed {party : Party} {h : Hooks} {rest : List (Party × Hooks)} {e : PluginError}
      (hs : s.stage = .starting ((party, h) :: rest)) (hr : (h.run party false).2 = .error e) :
      SessionStep c n s
        { (s.call c party h false).transition .closing with
          stage := .closing c.manager.protocol.closeHooks }
  | served (hs : s.stage = .serving) (hr : s.receiver.running = false)
      (hp : s.processor.running = false) :
      SessionStep c n s
        { s.transition .closing with stage := .closing c.manager.protocol.closeHooks }
  | closed (hs : s.stage = .closing []) : SessionStep c n s s.finish
  | ended {party : Party} {h : Hooks} {rest : List (Party × Hooks)}
      (hs : s.stage = .closing ((party, h) :: rest)) (hr : (h.run party true).2 = .ok ()) :
      SessionStep c n s { s.call c party h true with stage := .closing rest }
  | closeFailed {party : Party} {h : Hooks} {rest : List (Party × Hooks)} {e : PluginError}
      (hs : s.stage = .closing ((party, h) :: rest)) (hr : (h.run party true).2 = .error e) :
      SessionStep c n s (s.call c party h true).finish

/-- The moves: a step of one task, the pumps standing still outside the serving stage, or the
node's token being cancelled. -/
inductive MoveStep (c : Connection) (s : Machine) : Move → Machine → Prop where
  | session {n : Nat} {s' : Machine} (h : SessionStep c n s s') : MoveStep c s (.session n) s'
  | receive {n : Nat} {s' : Machine} (hs : s.stage = .serving) (h : ReceiverStep c n s s') :
      MoveStep c s (.receive n) s'
  | process {n : Nat} {s' : Machine} (hs : s.stage = .serving) (h : ProcessorStep c n s s') :
      MoveStep c s (.process n) s'
  | still {mv : Move} : MoveStep c s mv s
  | cancel : MoveStep c s .cancel { s with wire := { s.wire with nodeCancelled := true } }

/-! ## The step functions take only these steps -/

theorem receiveStep_spec (c : Connection) (s : Machine) (n : Nat) :
    ReceiverStep c n s (receiveStep c s n) := by
  cases hr : s.receiver with
  | stopped r =>
    have : receiveStep c s n = s := by simp [receiveStep, hr]
    rw [this]
    exact .still
  | reading =>
    cases hc : s.cancelled with
    | true =>
      have : receiveStep c s n = s.stopReceiver (.error .cancelled) := by
        simp [receiveStep, hr, hc]
      rw [this]
      exact .cancelled (by simp [hr, Receiver.running]) hc
    | false =>
      cases hu : s.unread with
      | nil =>
        have : receiveStep c s n = s.stopReceiver c.peer.endOfInput := by
          simp [receiveStep, hr, hc, hu]
        rw [this]
        exact .ended hr hc hu
      | cons b bs =>
        have : receiveStep c s n =
            { s with unread := s.unread.drop (n + 1),
                     receiver := .holding (s.unread.take (n + 1)) } := by
          simp [receiveStep, hr, hc, hu]
        rw [this]
        exact .read hr hc (by simp [hu])
  | holding chunk =>
    cases hc : s.cancelled with
    | true =>
      have : receiveStep c s n = s.stopReceiver (.error .cancelled) := by
        simp [receiveStep, hr, hc]
      rw [this]
      exact .cancelled (by simp [hr, Receiver.running]) hc
    | false =>
      cases hp : s.processor.running with
      | false =>
        have : receiveStep c s n = s.stopReceiver (.ok ()) := by
          simp [receiveStep, hr, hc, hp]
        rw [this]
        exact .closed hr hc hp
      | true =>
        by_cases hroom : s.channel.length < c.manager.config.maxPendingChunks
        · have : receiveStep c s n =
              { s with channel := s.channel ++ [chunk], receiver := .reading } := by
            simp [receiveStep, hr, hc, hp, hroom]
          rw [this]
          exact .sent hr hc hp hroom
        · have : receiveStep c s n = s := by simp [receiveStep, hr, hc, hp, hroom]
          rw [this]
          exact .still

theorem processStep_spec (c : Connection) (s : Machine) (n : Nat) :
    ProcessorStep c n s (processStep c s n) := by
  cases hp : s.processor with
  | stopped r =>
    have : processStep c s n = s := by simp [processStep, hp]
    rw [this]
    exact .still
  | receiving =>
    cases hc : s.cancelled with
    | true =>
      have : processStep c s n = s.stopProcessor (.error .cancelled) := by
        simp [processStep, hp, hc]
      rw [this]
      exact .cancelled hp hc
    | false =>
      cases hq : s.channel with
      | cons chunk rest =>
        have : processStep c s n =
            { s with channel := rest, framer := s.framer.push chunk, processor := .framing } := by
          simp [processStep, hp, hc, hq]
        rw [this]
        exact .took hp hc hq
      | nil =>
        cases hr : s.receiver.running with
        | true =>
          have : processStep c s n = s := by simp [processStep, hp, hc, hq, hr]
          rw [this]
          exact .still
        | false =>
          have : processStep c s n = s.stopProcessor (.ok .carryOn) := by
            simp [processStep, hp, hc, hq, hr]
          rw [this]
          exact .drained hp hc hq hr
  | framing =>
    cases hf : s.framer.nextLine with
    | mk line f =>
      cases line with
      | none =>
        have : processStep c s n = { s with framer := f, processor := .receiving } := by
          simp [processStep, hp, hf]
        rw [this]
        exact .noLine hp hf
      | some line =>
        cases hc : s.cancelled with
        | true =>
          have : processStep c s n =
              { s with framer := f }.stopProcessor (.error .cancelled) := by
            simp [processStep, hp, hf, hc]
          rw [this]
          exact .lineCancelled hp hf hc
        | false =>
          have : processStep c s n = answer c { s with framer := f } line := by
            simp [processStep, hp, hf, hc]
          rw [this]
          exact .line hp hf hc
  | writing rest =>
    cases rest with
    | nil =>
      have : processStep c s n = { s with processor := .framing } := by simp [processStep, hp]
      rw [this]
      exact .written hp
    | cons b bs =>
      cases ha : c.sink.advance s.wire s.cancelled .sending n (b :: bs) with
      | mk r w =>
        cases r with
        | ok rest =>
          have : processStep c s n = { s with wire := w, processor := .writing rest } := by
            simp [processStep, hp, ha]
          rw [this]
          exact .piece hp ha
        | error e =>
          have : processStep c s n = ({ s with wire := w }.stopProcessor (.error e)) := by
            simp [processStep, hp, ha]
          rw [this]
          exact .failed hp ha

theorem sessionStep_spec (c : Connection) (s : Machine) (n : Nat) :
    SessionStep c n s (sessionStep c s n) := by
  cases hs : s.stage with
  | accepted =>
    cases ha : c.manager.access.accepts c.session.remoteAddress with
    | false =>
      have : sessionStep c s n =
          { (s.transition .closing).transition .closed with stage := .returned (.ok ()) } := by
        simp [sessionStep, hs, ha]
      rw [this]
      exact .refused hs ha
    | true =>
      cases hc : s.wire.nodeCancelled with
      | true =>
        have : sessionStep c s n =
            { s.transition .authorized with stage := .returned (.error .cancelled) } := by
          simp [sessionStep, hs, ha, hc]
        rw [this]
        exact .cancelled hs ha hc
      | false =>
        have : sessionStep c s n = { s.transition .authorized with
            stage := .banner (encodeUtf8 c.manager.protocol.banner) } := by
          simp [sessionStep, hs, ha, hc]
        rw [this]
        exact .authorized hs ha hc
  | banner rest =>
    cases rest with
    | nil =>
      have : sessionStep c s n =
          { s.transition .bannerSent with stage := .starting c.manager.protocol.startHooks } := by
        simp [sessionStep, hs]
      rw [this]
      exact .bannerSent hs
    | cons b bs =>
      cases ha : c.sink.advance s.wire s.wire.nodeCancelled .banner n (b :: bs) with
      | mk r w =>
        cases r with
        | ok rest =>
          have : sessionStep c s n = { s with wire := w, stage := .banner rest } := by
            simp [sessionStep, hs, ha]
          rw [this]
          exact .bannerPiece hs ha
        | error e =>
          have : sessionStep c s n = ({ s with wire := w }.transition .closing).finish := by
            simp [sessionStep, hs, ha]
          rw [this]
          exact .bannerFailed hs ha
  | starting hooks =>
    cases hooks with
    | nil =>
      have : sessionStep c s n = { s.transition .active with stage := .serving } := by
        simp [sessionStep, hs]
      rw [this]
      exact .active hs
    | cons ph rest =>
      obtain ⟨party, h⟩ := ph
      cases hr : (h.run party false).2 with
      | ok u =>
        have : sessionStep c s n = { s.call c party h false with stage := .starting rest } := by
          simp [sessionStep, hs, hr]
        rw [this]
        exact .started hs hr
      | error e =>
        have : sessionStep c s n = { (s.call c party h false).transition .closing with
            stage := .closing c.manager.protocol.closeHooks } := by
          simp [sessionStep, hs, hr]
        rw [this]
        exact .startFailed hs hr
  | serving =>
    cases hr : s.receiver.running with
    | true =>
      have : sessionStep c s n = s := by simp [sessionStep, hs, hr]
      rw [this]
      exact .still
    | false =>
      cases hp : s.processor.running with
      | true =>
        have : sessionStep c s n = s := by simp [sessionStep, hs, hr, hp]
        rw [this]
        exact .still
      | false =>
        have : sessionStep c s n =
            { s.transition .closing with stage := .closing c.manager.protocol.closeHooks } := by
          simp [sessionStep, hs, hr, hp]
        rw [this]
        exact .served hs hr hp
  | closing hooks =>
    cases hooks with
    | nil =>
      have : sessionStep c s n = s.finish := by simp [sessionStep, hs]
      rw [this]
      exact .closed hs
    | cons ph rest =>
      obtain ⟨party, h⟩ := ph
      cases hr : (h.run party true).2 with
      | ok u =>
        have : sessionStep c s n = { s.call c party h true with stage := .closing rest } := by
          simp [sessionStep, hs, hr]
        rw [this]
        exact .ended hs hr
      | error e =>
        have : sessionStep c s n = (s.call c party h true).finish := by
          simp [sessionStep, hs, hr]
        rw [this]
        exact .closeFailed hs hr
  | returned r =>
    have : sessionStep c s n = s := by simp [sessionStep, hs]
    rw [this]
    exact .still

/-- **What a move can do.** Every move is one of the steps above. -/
theorem step_spec (c : Connection) (s : Machine) (mv : Move) : MoveStep c s mv (s.step c mv) := by
  cases mv with
  | session n => exact .session (sessionStep_spec c s n)
  | receive n =>
    cases hs : s.stage
    case serving =>
      have : s.step c (.receive n) = receiveStep c s n := by simp [step, hs]
      rw [this]
      exact .receive hs (receiveStep_spec c s n)
    all_goals
      have : s.step c (.receive n) = s := by simp [step, hs]
      rw [this]
      exact .still
  | process n =>
    cases hs : s.stage
    case serving =>
      have : s.step c (.process n) = processStep c s n := by simp [step, hs]
      rw [this]
      exact .process hs (processStep_spec c s n)
    all_goals
      have : s.step c (.process n) = s := by simp [step, hs]
      rw [this]
      exact .still
  | cancel => exact .cancel

/-! ## What each task leaves alone -/

/-- The session's own task does not touch the pumps, the channel or the lines. -/
theorem SessionStep.frame {c : Connection} {n : Nat} {s s' : Machine}
    (h : SessionStep c n s s') :
    s'.unread = s.unread ∧ s'.receiver = s.receiver ∧ s'.channel = s.channel ∧
      s'.framer = s.framer ∧ s'.processor = s.processor ∧
      s'.sessionCancelled = s.sessionCancelled ∧ exchanges s'.log = exchanges s.log := by
  cases h <;> simp [transition, call, finish]

/-- The receive pump touches only what it reads, the channel and the session token. -/
theorem ReceiverStep.frame {c : Connection} {n : Nat} {s s' : Machine}
    (h : ReceiverStep c n s s') :
    s'.stage = s.stage ∧ s'.framer = s.framer ∧ s'.processor = s.processor ∧
      s'.wire = s.wire ∧ s'.log = s.log ∧ s'.notices = s.notices := by
  cases h <;> simp [stopReceiver]

/-- The process pump leaves the session's own task, the reader and the callbacks alone. -/
theorem ProcessorStep.frame {c : Connection} {n : Nat} {s s' : Machine}
    (h : ProcessorStep c n s s') :
    s'.stage = s.stage ∧ s'.unread = s.unread ∧ s'.receiver = s.receiver ∧
      s'.notices = s.notices ∧ calls s'.log = calls s.log := by
  cases h <;> simp [stopProcessor, answer]

/-! ## Cancellation is never undone -/

@[simp] theorem token_server (s : Machine) : s.token.server = s.wire.nodeCancelled := rfl
@[simp] theorem token_handed (s : Machine) : s.token.handed = s.sessionCancelled := rfl

theorem cancelled_eq (s : Machine) :
    s.cancelled = (s.sessionCancelled || s.wire.nodeCancelled) := by
  simp [cancelled, token, Cancellation.isCancelled]

theorem token_le_of {s s' : Machine}
    (hn : s.wire.nodeCancelled = true → s'.wire.nodeCancelled = true)
    (hs : s.sessionCancelled = true → s'.sessionCancelled = true) : s.token.Le s'.token :=
  ⟨hn, hs, rfl⟩

/-- Answering a line may cancel either token, and never makes one live again. -/
theorem token_le_answer (c : Connection) (s : Machine) (line : Bytes) :
    s.token.Le (answer c s line).token := by
  obtain ⟨hn, hh, -⟩ := c.manager.protocol.handle_le line s.token
  exact token_le_of hn fun h ↦ by simp [answer, hh h]

theorem SessionStep.token_le {c : Connection} {n : Nat} {s s' : Machine}
    (h : SessionStep c n s s') : s.token.Le s'.token := by
  cases h with
  | bannerPiece hs ha => exact token_le_of (by simp [(Sink.advance_ok ha).2]) id
  | bannerFailed hs ha =>
    refine token_le_of ?_ id
    simpa [transition, finish] using (Sink.advance_error ha).2
  | _ => exact token_le_of (by simp [transition, call, finish]) (by simp [transition, call, finish])

theorem ReceiverStep.token_le {c : Connection} {n : Nat} {s s' : Machine}
    (h : ReceiverStep c n s s') : s.token.Le s'.token := by
  cases h <;> exact token_le_of (by simp [stopReceiver]) (by simp +contextual [stopReceiver])

theorem ProcessorStep.token_le {c : Connection} {n : Nat} {s s' : Machine}
    (h : ProcessorStep c n s s') : s.token.Le s'.token := by
  cases h with
  | line => exact token_le_answer c _ _
  | piece hp ha => exact token_le_of (by simp [(Sink.advance_ok ha).2]) id
  | failed hp ha =>
    refine token_le_of ?_ (by simp [stopProcessor])
    simpa [stopProcessor] using (Sink.advance_error ha).2
  | _ => exact token_le_of (by simp [stopProcessor]) (by simp [stopProcessor])

/-- **Cancellation is never undone.** No move makes either token live again. -/
theorem MoveStep.token_le {c : Connection} {s : Machine} {mv : Move} {s' : Machine}
    (h : MoveStep c s mv s') : s.token.Le s'.token := by
  cases h with
  | session h => exact h.token_le
  | receive hs h => exact h.token_le
  | process hs h => exact h.token_le
  | still => exact .refl _
  | cancel => exact token_le_of (fun _ ↦ rfl) id

theorem stage_of_result {s : Machine} {r : Except ServerError Unit} (h : s.result? = some r) :
    s.stage = .returned r := by
  unfold result? at h
  split at h <;> simp_all

/-! ## Runs -/

@[simp] theorem run_nil (c : Connection) (s : Machine) : s.run c [] = s := rfl

theorem run_cons (c : Connection) (s : Machine) (mv : Move) (moves : List Move) :
    s.run c (mv :: moves) = (s.step c mv).run c moves := rfl

theorem run_append (c : Connection) (s : Machine) (moves moves' : List Move) :
    s.run c (moves ++ moves') = (s.run c moves).run c moves' := by
  simp [run, List.foldl_append]

theorem run_concat (c : Connection) (s : Machine) (moves : List Move) (mv : Move) :
    s.run c (moves ++ [mv]) = (s.run c moves).step c mv := by
  rw [run_append]
  rfl

/-- **Invariants of runs.** A property that every allowed move keeps holds after every schedule
of allowed moves. -/
theorem run_invariant {c : Connection} {P : Machine → Prop} {allowed : Move → Prop}
    (hstep : ∀ s mv, allowed mv → P s → P (s.step c mv)) :
    ∀ (moves : List Move) (s : Machine), (∀ mv ∈ moves, allowed mv) → P s → P (s.run c moves)
  | [], _, _, h => h
  | mv :: moves, s, hall, h => by
    rw [run_cons]
    exact run_invariant hstep moves _ (fun mv' hm ↦ hall mv' (List.mem_cons_of_mem _ hm))
      (hstep s mv (hall mv List.mem_cons_self) h)

end Machine

end MetricsNode
