import MetricsNode.Proofs.LineFraming
import MetricsNode.Proofs.StateDiagram

/-!
# The run in order is one schedule of the machine

`SessionManager.run` serves a session in one order: the check, the banner, the start callbacks,
every line answered and its answer written before the next, the close callbacks. `Machine.run`
allows every order in which the session's task and its two pumps can take their steps. The first
is one of the second: for every connection whose channel has room for a chunk, some schedule with
no cancellation from outside leaves the machine showing what the run in order returns, the bytes
it writes, the notices it collects and the states it goes through.

The schedule follows the run phase by phase.

* The session's task checks access and the node's token, then writes the banner in one piece of
  its whole length. Where the socket takes only part of it, a second piece meets the full socket
  and fails as the write in one go does (`Sink.write_pieces`).
* It runs the start callbacks, one move each.
* The receive pump reads everything the peer sent as one chunk, hands it to the channel and meets
  the end of input. The process pump takes the chunk, whose complete lines are the peer's lines
  however they were cut (`framing_ignores_chunking`), and answers them one at a time, each answer
  written as the banner is.
* Once both pumps have stopped, the session's task closes and runs the close callbacks.

`Machine.Leads c s s'` says that a schedule with no cancellation from outside leads from `s` to
`s'`. Each phase is a `Leads` lemma, and the main theorem chains them.

## Main results

* `Machine.Leads.answers`: the process pump answers the lines its framer holds as `answerLines`
  does, and writes what it writes.
* `SessionManager.run_scheduled`: the run in order is what some cancel-free schedule of the
  machine shows.
-/

namespace MetricsNode

open Net Wire

/-! ## A write in pieces -/

/-- A write is what its pieces do. One piece of the whole length writes it all, or fails as the
write does; where the socket has room for part of it only, that part goes out and a second piece
meets the full socket. -/
theorem Sink.write_pieces {sink : Sink} {w w' : Wire} {cancelled : Bool} {phase : SessionPhase}
    {b : UInt8} {bs : Bytes} {r : Except ServerError Unit}
    (h : sink.write w cancelled phase (b :: bs) = (r, w')) :
    (r = .ok () ∧ sink.advance w cancelled phase bs.length (b :: bs) = (.ok [], w')) ∨
      ∃ e, r = .error e ∧
        (sink.advance w cancelled phase bs.length (b :: bs) = (.error e, w') ∨
          ∃ rest wmid, rest ≠ [] ∧
            sink.advance w cancelled phase bs.length (b :: bs) = (.ok rest, wmid) ∧
            sink.advance wmid cancelled phase 0 rest = (.error e, w')) := by
  cases cancelled with
  | true =>
    simp only [Sink.write, List.isEmpty_cons, Bool.false_eq_true, ↓reduceIte,
      Prod.mk.injEq] at h
    obtain ⟨rfl, rfl⟩ := h
    exact .inr ⟨_, rfl, .inl (by simp [Sink.advance])⟩
  | false =>
    cases hlim : sink.limit with
    | none =>
      simp only [Sink.write, hlim, List.isEmpty_cons, Bool.false_eq_true, ↓reduceIte,
        Prod.mk.injEq] at h
      obtain ⟨rfl, rfl⟩ := h
      exact .inl ⟨rfl, by simp [Sink.advance, Sink.room, hlim]⟩
    | some lim =>
      simp only [Sink.write, hlim, List.isEmpty_cons, Bool.false_eq_true, ↓reduceIte] at h
      split at h
      · -- the socket has room for the whole write
        rename_i hroom
        simp only [Prod.mk.injEq] at h
        obtain ⟨rfl, rfl⟩ := h
        have hk : min (bs.length + 1) (lim - w.written.length) = bs.length + 1 := by
          simp only [List.length_cons] at hroom
          omega
        exact .inl ⟨rfl, by simp [Sink.advance, Sink.room, hlim, hk]⟩
      · rename_i hroom
        simp only [Prod.mk.injEq] at h
        obtain ⟨rfl, rfl⟩ := h
        refine .inr ⟨_, rfl, ?_⟩
        simp only [List.length_cons, not_le] at hroom
        by_cases hfull : lim - w.written.length = 0
        · -- no room at all: the first piece fails
          refine .inl ?_
          simp [Sink.advance, Sink.room, hlim, hfull]
        · -- the first piece fills the socket, the second meets it full
          have hk : min (bs.length + 1) (lim - w.written.length) = lim - w.written.length := by
            omega
          refine .inr ⟨(b :: bs).drop (lim - w.written.length),
            { w with written := w.written ++ (b :: bs).take (lim - w.written.length) }, ?_, ?_, ?_⟩
          · simp only [ne_eq, List.drop_eq_nil_iff, List.length_cons]
            omega
          · simp [Sink.advance, Sink.room, hlim, hk, hfull]
          · have hzero :
                lim - (w.written.length + min (lim - w.written.length) (bs.length + 1)) = 0 := by
              omega
            simp [Sink.advance, Sink.room, hlim, hzero]

/-- A write that succeeds leaves the node's token as it was. -/
theorem Sink.write_ok {sink : Sink} {w w' : Wire} {cancelled : Bool} {phase : SessionPhase}
    {bytes : Bytes} (h : sink.write w cancelled phase bytes = (.ok (), w')) :
    w'.nodeCancelled = w.nodeCancelled := by
  cases bytes with
  | nil =>
    simp only [Sink.write, List.isEmpty_nil, ↓reduceIte, Prod.mk.injEq] at h
    rw [h.2]
  | cons b bs =>
    rcases Sink.write_pieces h with ⟨-, ha⟩ | ⟨e, he, -⟩
    · exact (Sink.advance_ok ha).2
    · cases he

/-- Reading ends in a failure exactly when the peer's read error is not a disconnection. -/
theorem Peer.endOfInput_of_failsReading {peer : Peer} (h : peer.failsReading = true) :
    ∃ e, peer.endOfInput = .error e := by
  unfold Peer.failsReading at h
  unfold Peer.endOfInput
  split at h
  · rename_i k hk
    simp only [hk, Bool.not_eq_eq_eq_not, Bool.not_true] at h ⊢
    simp [h]
  · cases h

theorem Peer.endOfInput_of_not_failsReading {peer : Peer} (h : peer.failsReading = false) :
    peer.endOfInput = .ok () := by
  unfold Peer.failsReading at h
  unfold Peer.endOfInput
  split at h
  · rename_i k hk
    simp only [hk, Bool.not_eq_eq_eq_not, Bool.not_false] at h ⊢
    simp [h]
  · rename_i hk
    simp [hk]

/-- What the peer's bytes frame into, taken in one piece: its lines. -/
theorem Peer.lines_eq_drain (peer : Peer) :
    peer.lines = (({} : Framer).push peer.chunks.flatten).drain.1 :=
  (framing_ignores_chunking peer.chunks).1

/-- A framer with no line to give finds none. -/
theorem Framer.nextLine_of_drain_nil {f : Framer} (h : f.drain.1 = []) :
    ∃ g, f.nextLine = (none, g) := by
  cases hf : f.nextLine with
  | mk line g =>
    cases line with
    | none => exact ⟨g, rfl⟩
    | some l => simp [Framer.drain_of_some hf] at h

/-- A framer whose lines start with `line` gives it next, and keeps the others. -/
theorem Framer.nextLine_of_drain_cons {f : Framer} {line : Bytes} {rest : List Bytes}
    (h : f.drain.1 = line :: rest) : ∃ g, f.nextLine = (some line, g) ∧ g.drain.1 = rest := by
  cases hf : f.nextLine with
  | mk l g =>
    cases l with
    | none => simp [Framer.drain_of_none hf] at h
    | some l =>
      rw [Framer.drain_of_some hf, List.cons.injEq] at h
      obtain ⟨rfl, rfl⟩ := h
      exact ⟨g, rfl, rfl⟩

namespace Machine

variable {c : Connection} {s s' s'' : Machine}

/-! ## Schedules with no cancellation from outside -/

/-- A schedule of the session's own tasks, with no cancellation from outside, leads from `s` to
`s'`. -/
def Leads (c : Connection) (s s' : Machine) : Prop :=
  ∃ moves, Move.cancel ∉ moves ∧ s.run c moves = s'

namespace Leads

theorem refl (c : Connection) (s : Machine) : Leads c s s := ⟨[], List.not_mem_nil, rfl⟩

theorem trans (h : Leads c s s') (h' : Leads c s' s'') : Leads c s s'' := by
  obtain ⟨moves, hm, rfl⟩ := h
  obtain ⟨moves', hm', rfl⟩ := h'
  refine ⟨moves ++ moves', ?_, run_append c s moves moves'⟩
  simp [hm, hm']

/-- A schedule followed by one more move of a task. -/
theorem tail (h : Leads c s s') (mv : Move) (hmv : mv ≠ .cancel) (hs : s'.step c mv = s'') :
    Leads c s s'' := by
  obtain ⟨moves, hm, rfl⟩ := h
  refine ⟨moves ++ [mv], ?_, by rw [run_concat, hs]⟩
  simp [hm, Ne.symm hmv]

/-- One move of a task. -/
theorem single (mv : Move) (hmv : mv ≠ .cancel) (hs : s.step c mv = s') : Leads c s s' :=
  (refl c s).tail mv hmv hs

end Leads

/-- The machine shows an outcome of the run in order: it has returned what the run returns, and
written, collected and gone through the same. -/
def Shows (s : Machine) (o : SessionOutcome) : Prop :=
  s.result? = some o.result ∧ s.wire.written = o.written ∧ s.notices = o.notices ∧
    SessionState.accepted :: movedStates s.log = o.states

/-! ## The session's own task -/

/-- The banner goes out as the write in one go would send it. After a write that succeeds the
session has sent its banner and stands before its start callbacks; after one that fails it has
closed. -/
theorem Leads.banner {bytes : Bytes} {r : Except ServerError Unit} {w : Wire}
    (hs : s.stage = .banner bytes)
    (hw : c.sink.write s.wire s.wire.nodeCancelled .banner bytes = (r, w)) :
    (r = .ok () → Leads c s { s.transition .bannerSent with
        wire := w, stage := .starting c.manager.protocol.startHooks }) ∧
      (∀ e, r = .error e → Leads c s ({ s with wire := w }.transition .closing).finish) := by
  cases bytes with
  | nil =>
    simp only [Sink.write, List.isEmpty_nil, ↓reduceIte, Prod.mk.injEq] at hw
    obtain ⟨rfl, rfl⟩ := hw
    exact ⟨fun _ ↦ .single (.session 0) (by simp) (by simp [step, sessionStep, hs, transition]),
      fun e he ↦ by cases he⟩
  | cons b bs =>
    rcases Sink.write_pieces hw with ⟨rfl, ha⟩ | ⟨e, rfl, ha | ⟨rest, wmid, hrest, ha, ha'⟩⟩
    · -- one piece of the whole length, then the banner is sent
      refine ⟨fun _ ↦ ?_, fun e he ↦ by cases he⟩
      have h1 : s.step c (.session bs.length) = { s with wire := w, stage := .banner [] } := by
        simp [step, sessionStep, hs, ha]
      exact (Leads.single _ (by simp) h1).tail (.session 0) (by simp)
        (by simp [step, sessionStep, transition])
    · refine ⟨fun h ↦ (by cases h), fun e' he ↦ ?_⟩
      cases he
      exact .single (.session bs.length) (by simp) (by simp [step, sessionStep, hs, ha])
    · -- the socket takes part of the banner; the second piece meets it full
      refine ⟨fun h ↦ (by cases h), fun e' he ↦ ?_⟩
      cases he
      obtain ⟨b', bs', rfl⟩ := List.exists_cons_of_ne_nil hrest
      have hnode : wmid.nodeCancelled = s.wire.nodeCancelled := (Sink.advance_ok ha).2
      have h1 : s.step c (.session bs.length) =
          { s with wire := wmid, stage := .banner (b' :: bs') } := by
        simp [step, sessionStep, hs, ha]
      refine (Leads.single _ (by simp) h1).tail (.session 0) (by simp) ?_
      simp [step, sessionStep, hnode, ha']
      -- left: the two returns agree, but the test of the node's token in `finish` is decided
      -- on each state's own record, which `simp` does not rewrite
      rfl

/-- The start callbacks run one move each, as `runHooks` runs them: the session collects their
notices, and serves once they all succeed, or goes to close at the first that fails. -/
theorem Leads.starting (hooks : List (Party × Hooks)) :
    ∀ s : Machine, s.stage = .starting hooks →
      ∃ log, movedStates log = (match (runHooks false hooks).2 with
          | .ok () => [.active]
          | .error _ => [.closing]) ∧
        Leads c s { s with
          stage := match (runHooks false hooks).2 with
            | .ok () => .serving
            | .error _ => .closing c.manager.protocol.closeHooks,
          notices := s.notices ++ (runHooks false hooks).1,
          log := s.log ++ log } := by
  induction hooks with
  | nil =>
    intro s hs
    refine ⟨[.moved .active], rfl, .single (.session 0) (by simp) ?_⟩
    simp [step, sessionStep, hs, transition, runHooks]
  | cons ph rest ih =>
    obtain ⟨party, h⟩ := ph
    intro s hs
    cases hrun : h.run party false with
    | mk t r =>
      cases r with
      | error e =>
        -- the failing callback is the last to run; the session goes to close
        refine ⟨[.called party false c.session.id, .moved .closing], by simp [runHooks, hrun],
          .single (.session 0) (by simp) ?_⟩
        simp [step, sessionStep, hs, hrun, runHooks, call, transition]
      | ok u =>
        -- one callback runs, then the others from the next stage
        have h1 : s.step c (.session 0) =
            { s.call c party h false with stage := .starting rest } := by
          simp [step, sessionStep, hs, hrun]
        obtain ⟨log, hlog, hlead⟩ :=
          ih { s.call c party h false with stage := .starting rest } rfl
        refine ⟨.called party false c.session.id :: log, by simpa [runHooks, hrun] using hlog,
          (Leads.single _ (by simp) h1).trans ?_⟩
        convert hlead using 2 <;> simp [runHooks, hrun, call]

/-- The close callbacks run one move each, as `runHooks` runs them, until the first that fails;
then the session returns, with the node token's verdict. -/
theorem Leads.closing (hooks : List (Party × Hooks)) :
    ∀ s : Machine, s.stage = .closing hooks →
      ∃ log, movedStates log = [.closed] ∧
        Leads c s { s with
          stage := .returned (if s.wire.nodeCancelled then .error .cancelled else .ok ()),
          notices := s.notices ++ (runHooks true hooks).1,
          log := s.log ++ log } := by
  induction hooks with
  | nil =>
    intro s hs
    refine ⟨[.moved .closed], rfl, .single (.session 0) (by simp) ?_⟩
    simp [step, sessionStep, hs, finish, transition, runHooks]
  | cons ph rest ih =>
    obtain ⟨party, h⟩ := ph
    intro s hs
    cases hrun : h.run party true with
    | mk t r =>
      cases r with
      | error e =>
        refine ⟨[.called party true c.session.id, .moved .closed], rfl,
          .single (.session 0) (by simp) ?_⟩
        simp [step, sessionStep, hs, hrun, runHooks, call, finish, transition]
      | ok u =>
        have h1 : s.step c (.session 0) =
            { s.call c party h true with stage := .closing rest } := by
          simp [step, sessionStep, hs, hrun]
        obtain ⟨log, hlog, hlead⟩ :=
          ih { s.call c party h true with stage := .closing rest } rfl
        refine ⟨.called party true c.session.id :: log, by simpa using hlog,
          (Leads.single _ (by simp) h1).trans ?_⟩
        convert hlead using 2 <;> simp [runHooks, hrun, call]

/-! ## The pumps -/

/-- The process pump alone is left: the session serves, the receive pump has stopped, and the
channel is empty. -/
structure Answering (s : Machine) : Prop where
  serving : s.stage = .serving
  reader_stopped : s.receiver.running = false
  channel_empty : s.channel = []

/-- Both pumps have stopped while the session serves. -/
structure Served (s : Machine) : Prop where
  serving : s.stage = .serving
  reader_stopped : s.receiver.running = false
  processor_stopped : s.processor.running = false

/-- An answer goes out as the write in one go would send it: the pump goes back to its lines
after a write that succeeds, and stops after one that fails. -/
theorem Leads.writing {bytes : Bytes} {r : Except ServerError Unit} {w : Wire}
    (hs : s.stage = .serving) (hp : s.processor = .writing bytes)
    (hw : c.sink.write s.wire s.cancelled .sending bytes = (r, w)) :
    (r = .ok () → Leads c s { s with wire := w, processor := .framing }) ∧
      (∀ e, r = .error e → Leads c s ({ s with wire := w }.stopProcessor (.error e))) := by
  cases bytes with
  | nil =>
    simp only [Sink.write, List.isEmpty_nil, ↓reduceIte, Prod.mk.injEq] at hw
    obtain ⟨rfl, rfl⟩ := hw
    exact ⟨fun _ ↦ .single (.process 0) (by simp) (by simp [step, hs, processStep, hp]),
      fun e he ↦ by cases he⟩
  | cons b bs =>
    rcases Sink.write_pieces hw with ⟨rfl, ha⟩ | ⟨e, rfl, ha | ⟨rest, wmid, hrest, ha, ha'⟩⟩
    · -- one piece of the whole length, then back to the lines
      refine ⟨fun _ ↦ ?_, fun e he ↦ by cases he⟩
      have h1 : s.step c (.process bs.length) = { s with wire := w, processor := .writing [] } := by
        simp [step, hs, processStep, hp, ha]
      exact (Leads.single _ (by simp) h1).tail (.process 0) (by simp)
        (by simp [step, hs, processStep])
    · refine ⟨fun h ↦ (by cases h), fun e' he ↦ ?_⟩
      cases he
      exact .single (.process bs.length) (by simp) (by simp [step, hs, processStep, hp, ha])
    · -- the socket takes part of the answer; the second piece meets it full
      refine ⟨fun h ↦ (by cases h), fun e' he ↦ ?_⟩
      cases he
      obtain ⟨b', bs', rfl⟩ := List.exists_cons_of_ne_nil hrest
      have hnode : wmid.nodeCancelled = s.wire.nodeCancelled := (Sink.advance_ok ha).2
      have h1 : s.step c (.process bs.length) =
          { s with wire := wmid, processor := .writing (b' :: bs') } := by
        simp [step, hs, processStep, hp, ha]
      refine (Leads.single _ (by simp) h1).tail (.process 0) (by simp) ?_
      -- the first piece leaves the tokens as they were, so the second runs under the same one
      rw [cancelled_eq] at ha'
      simp [step, hs, processStep, cancelled_eq, hnode, ha', stopProcessor]

/-- With no line left, the pump goes back to the channel, finds it empty and its reader gone, and
stops, writing nothing more. -/
theorem Leads.noLine {g : Framer} (ha : s.Answering) (hp : s.processor = .framing)
    (hg : s.framer.nextLine = (none, g)) :
    ∃ s', Leads c s s' ∧ s'.Served ∧ s'.wire = s.wire ∧ s'.notices = s.notices ∧
      movedStates s'.log = movedStates s.log := by
  have h1 : s.step c (.process 0) = { s with framer := g, processor := .receiving } := by
    simp [step, ha.serving, processStep, hp, hg]
  -- the pump stops whether or not its token is cancelled
  have h2 : ∃ r, ({ s with framer := g, processor := .receiving } : Machine).step c (.process 0) =
      ({ s with framer := g, processor := .receiving } : Machine).stopProcessor r := by
    cases hc : s.cancelled
    · rw [cancelled_eq] at hc
      refine ⟨.ok .carryOn, ?_⟩
      simp [step, ha.serving, processStep, cancelled_eq, hc, ha.channel_empty, ha.reader_stopped]
    · rw [cancelled_eq] at hc
      refine ⟨.error .cancelled, ?_⟩
      simp [step, ha.serving, processStep, cancelled_eq, hc]
  obtain ⟨r, h2⟩ := h2
  exact ⟨({ s with framer := g, processor := .receiving } : Machine).stopProcessor r,
    (Leads.single _ (by simp) h1).tail (.process 0) (by simp) h2,
    ⟨ha.serving, ha.reader_stopped, rfl⟩, rfl, rfl, rfl⟩

/-- **One line.** The pump takes its next line and answers it as `answerLines` answers the first
of its lines, under the token the session holds. Either the exchange ends there (a cancelled
token, a failed answer, the quit answer, a failed write), with the bytes `answerLines` leaves
written; or the answer is written, and the pump stands before the rest of the lines, under the
token `answerLines` goes on with. -/
theorem Leads.line (rest : List Bytes) {cn : Cancellation} {line : Bytes} {g : Framer}
    (ha : s.Answering) (hp : s.processor = .framing) (hg : s.framer.nextLine = (some line, g))
    (hfollows : cn.follows = true) (hhanded : cn.handed = s.sessionCancelled) :
    (∃ s', Leads c s s' ∧ s'.Served ∧
      s'.wire = (answerLines c.manager.protocol c.sink (line :: rest) cn s.wire).2.2 ∧
      s'.notices = s.notices ∧ movedStates s'.log = movedStates s.log) ∨
    (∃ s' cn', Leads c s s' ∧ s'.Answering ∧ s'.processor = .framing ∧ s'.framer = g ∧
      cn'.follows = true ∧ cn'.handed = s'.sessionCancelled ∧
      answerLines c.manager.protocol c.sink (line :: rest) cn s.wire =
        answerLines c.manager.protocol c.sink rest cn' s'.wire ∧
      s'.notices = s.notices ∧ movedStates s'.log = movedStates s.log) := by
  -- the token `answerLines` hands over for this line is the machine's
  have htok : { cn with server := s.wire.nodeCancelled } = s.token := by
    cases cn
    simp_all [token]
  cases hc : s.cancelled with
  | true =>
    -- a cancelled token stops the pump before the line is answered
    refine .inl ⟨({ s with framer := g } : Machine).stopProcessor (.error .cancelled),
      .single (.process 0) (by simp) ?_, ⟨ha.serving, ha.reader_stopped, rfl⟩, ?_, rfl, rfl⟩
    · simp [step, ha.serving, processStep, hp, hg, hc]
    · simp [answerLines, htok, ← hc, cancelled, stopProcessor]
  | false =>
    -- the engine answers the line under the machine's token
    cases hans : c.manager.protocol.handle line s.token with
    | mk r c' =>
      have hle : s.token.Le c' := by simpa [hans] using c.manager.protocol.handle_le line s.token
      -- nothing the engine does revives the node's token, so the answer's verdict on it is the
      -- one `answerLines` keeps
      have hnode : (s.wire.nodeCancelled || c'.server) = c'.server := by
        cases h : s.wire.nodeCancelled
        · rfl
        · simpa using hle.1 h
      have h0 : s.step c (.process 0) = answer c { s with framer := g } line := by
        simp [step, ha.serving, processStep, hp, hg, hc]
      have h1 : answer c { s with framer := g } line =
          { s with
            framer := g, wire := { s.wire with nodeCancelled := c'.server },
            sessionCancelled := c'.handed || !(Processor.afterAnswer r).running,
            processor := Processor.afterAnswer r, log := s.log ++ [.handled line r] } := by
        unfold answer
        rw [show ({ s with framer := g } : Machine).token = s.token from rfl, hans]
      have hc' : s.token.isCancelled = false := hc
      have hfollows' : c'.follows = true := hle.2.2
      cases r with
      | error e =>
        -- a failed answer stops the pump
        refine .inl ⟨_, .single (.process 0) (by simp) (h0.trans h1),
          ⟨ha.serving, ha.reader_stopped, rfl⟩, ?_, rfl, by simp⟩
        simp [answerLines, htok, hc', hans, hnode]
      | ok reply =>
        cases hq : reply.status == .quit with
        | true =>
          -- the quit answer stops the pump and is not written
          have hproc : Processor.afterAnswer (.ok reply) = .stopped (.ok .quit) := by
            simp [Processor.afterAnswer, hq]
          refine .inl ⟨_, .single (.process 0) (by simp) (h0.trans h1),
            ⟨ha.serving, ha.reader_stopped, by simp [hproc, Processor.running]⟩, ?_, rfl,
            by simp⟩
          simp [answerLines, htok, hc', hans, hnode, hq]
        | false =>
          -- the answer is written as `answerLines` writes it
          have hproc :
              Processor.afterAnswer (.ok reply) = .writing (encodeLines reply.lines) := by
            simp [Processor.afterAnswer, hq]
          rw [hproc] at h1
          generalize hs₁ : ({ s with
            framer := g, wire := { s.wire with nodeCancelled := c'.server },
            sessionCancelled :=
              c'.handed || !(Processor.writing (encodeLines reply.lines)).running,
            processor := Processor.writing (encodeLines reply.lines),
            log := s.log ++ [.handled line (.ok reply)] } : Machine) = s₁ at h1
          have hc₁ : s₁.cancelled = c'.isCancelled := by
            rw [← hs₁]
            simp [cancelled, token, Cancellation.isCancelled, hfollows', Processor.running]
          have hserving₁ : s₁.stage = .serving := by rw [← hs₁]; exact ha.serving
          have hp₁ : s₁.processor = .writing (encodeLines reply.lines) := by rw [← hs₁]
          cases hw : c.sink.write { s.wire with nodeCancelled := c'.server } c'.isCancelled
              .sending (encodeLines reply.lines) with
          | mk rw w' =>
            have hw₁ : c.sink.write s₁.wire s₁.cancelled .sending (encodeLines reply.lines) =
                (rw, w') := by
              rw [hc₁, ← hw, ← hs₁]
            obtain ⟨hok, herr⟩ := Leads.writing hserving₁ hp₁ hw₁
            have hlead₁ : Leads c s s₁ := .single (.process 0) (by simp) (h0.trans h1)
            cases rw with
            | error e =>
              refine .inl ⟨_, hlead₁.trans (herr e rfl), ⟨?_, ?_, rfl⟩, ?_, ?_, ?_⟩
              · simpa [stopProcessor] using hserving₁
              · simpa [← hs₁, stopProcessor] using ha.reader_stopped
              · simp [stopProcessor, answerLines, htok, hc', hans, hnode, hq, hw]
              · simp [← hs₁, stopProcessor]
              · simp [← hs₁, stopProcessor]
            | ok u =>
              -- the pump is back before its lines, under the token the engine left
              refine .inr ⟨{ s₁ with wire := w', processor := .framing }, c',
                hlead₁.trans (hok rfl), ?_, rfl, ?_, hfollows', ?_, ?_, ?_, ?_⟩
              · rw [← hs₁]
                exact ⟨ha.serving, ha.reader_stopped, ha.channel_empty⟩
              · rw [← hs₁]
              · rw [← hs₁]
                simp [Processor.running]
              · simp [answerLines, htok, hc', hans, hnode, hq, hw]
              · simp [← hs₁]
              · simp [← hs₁]

/-- **Answering the lines.** A process pump left alone with the lines its framer holds answers
them as `answerLines` does, under the token the session holds: a schedule of its moves stops it
with the bytes `answerLines` leaves written, and with no callback run and no state changed. The
induction is on the lines, one `Leads.line` each; the token `answerLines` carries is the
machine's at each line, since the handed token keeps following the node's. -/
theorem Leads.answers (ls : List Bytes) :
    ∀ (s : Machine) (cn : Cancellation), s.Answering → s.processor = .framing →
      s.framer.drain.1 = ls → cn.follows = true → cn.handed = s.sessionCancelled →
      ∃ s', Leads c s s' ∧ s'.Served ∧
        s'.wire = (answerLines c.manager.protocol c.sink ls cn s.wire).2.2 ∧
        s'.notices = s.notices ∧ movedStates s'.log = movedStates s.log := by
  induction ls with
  | nil =>
    intro s cn ha hp hf _ _
    obtain ⟨g, hg⟩ := Framer.nextLine_of_drain_nil hf
    simpa [answerLines] using Leads.noLine (c := c) ha hp hg
  | cons line rest ih =>
    intro s cn ha hp hf hfollows hhanded
    obtain ⟨g, hg, hrest⟩ := Framer.nextLine_of_drain_cons hf
    rcases Leads.line rest ha hp hg hfollows hhanded with hend |
      ⟨s₁, cn₁, h₁, ha₁, hp₁, hf₁, hfollows₁, hhanded₁, hseq, hnotices₁, hmoved₁⟩
    · exact hend
    · -- the rest of the lines, from where the answer left the pump
      obtain ⟨s₂, h₂, hserved, hwire, hnotices, hmoved⟩ :=
        ih s₁ cn₁ ha₁ hp₁ (by rw [hf₁, hrest]) hfollows₁ hhanded₁
      exact ⟨s₂, h₁.trans h₂, hserved, by rw [hwire, hseq], hnotices.trans hnotices₁,
        hmoved.trans hmoved₁⟩

/-- The session as it starts serving: nothing read yet, nothing in the channel or the framer,
both pumps at the top of their loops, and no token cancelled. -/
structure Fresh (c : Connection) (s : Machine) : Prop where
  serving : s.stage = .serving
  unread : s.unread = c.peer.chunks.flatten
  reading : s.receiver = .reading
  channel_empty : s.channel = []
  framer_empty : s.framer = {}
  receiving : s.processor = .receiving
  live : s.cancelled = false

/-- A process pump at the top of its loop, whose reader has stopped, stops at once under a
cancelled token. -/
theorem served_of_cancelled (hs : s.stage = .serving) (hr : s.receiver.running = false)
    (hp : s.processor = .receiving) (hc : s.cancelled = true) :
    s.step c (.process 0) = s.stopProcessor (.error .cancelled) ∧
      (s.stopProcessor (.error .cancelled)).Served := by
  refine ⟨by simp [step, hs, processStep, hp, hc], ⟨hs, hr, rfl⟩⟩

/-- The receive pump reads everything the peer sent as one chunk, hands it to the channel, which
has room for it, and meets the end of input. -/
theorem Leads.readAll (hpend : 0 < c.manager.config.maxPendingChunks) (h : s.Fresh c) :
    Leads c s ({ s with
      unread := [],
      channel := if c.peer.chunks.flatten = [] then [] else [c.peer.chunks.flatten] }.stopReceiver
        c.peer.endOfInput) := by
  have hlive := h.live
  rw [cancelled_eq, Bool.or_eq_false_iff] at hlive
  obtain ⟨hsc, hnc⟩ := hlive
  cases hu : c.peer.chunks.flatten with
  | nil =>
    -- nothing to read: the end of input comes at once
    have hs : ({ s with unread := [], channel := [] } : Machine) = s := by
      rw [← h.channel_empty, ← h.unread.trans hu]
    rw [if_pos rfl, hs]
    exact .single (.receive 0) (by simp)
      (by simp [step, h.serving, receiveStep, h.reading, h.live, h.unread, hu])
  | cons b bs =>
    rw [if_neg (List.cons_ne_nil b bs)]
    -- one read of the whole stream, the chunk into the channel, then the end of input
    have h1 : s.step c (.receive bs.length) =
        { s with unread := [], receiver := .holding (b :: bs) } := by
      simp [step, h.serving, receiveStep, h.reading, h.live, h.unread, hu]
    have h2 : ({ s with unread := [], receiver := .holding (b :: bs) } : Machine).step c
        (.receive 0) = { s with unread := [], channel := [b :: bs] } := by
      simp [step, h.serving, receiveStep, cancelled_eq, hsc, hnc, h.receiving, Processor.running,
        h.channel_empty, hpend, h.reading]
    have h3 : ({ s with unread := [], channel := [b :: bs] } : Machine).step c (.receive 0) =
        ({ s with unread := [], channel := [b :: bs] } : Machine).stopReceiver
          c.peer.endOfInput := by
      simp [step, h.serving, receiveStep, h.reading, cancelled_eq, hsc, hnc]
    exact ((Leads.single _ (by simp) h1).tail _ (by simp) h2).tail (.receive 0) (by simp) h3

/-- **Serving.** A session that starts serving with nothing read serves the peer as
`SessionManager.serve` does. Once the receive pump has read everything (`Leads.readAll`), a read
failure has cancelled the session token and the process pump stops at once; otherwise the pump
takes the chunk and answers the peer's lines. Both pumps stop, with the bytes `serve` leaves
written, no callback run and no state changed. -/
theorem Leads.serving (hpend : 0 < c.manager.config.maxPendingChunks) (h : s.Fresh c) :
    ∃ s', Leads c s s' ∧ s'.Served ∧ s'.wire = (c.manager.serve c.peer c.sink s.wire).2 ∧
      s'.notices = s.notices ∧ movedStates s'.log = movedStates s.log := by
  have hlive := h.live
  rw [cancelled_eq, Bool.or_eq_false_iff] at hlive
  obtain ⟨hsc, hnc⟩ := hlive
  obtain ⟨sr, hread, hsr⟩ : ∃ sr, Leads c s sr ∧ sr = _ := ⟨_, Leads.readAll hpend h, rfl⟩
  cases hfail : c.peer.failsReading with
  | true =>
    -- the read failure cancels the session token before a line is taken
    obtain ⟨e, he⟩ := Peer.endOfInput_of_failsReading hfail
    obtain ⟨h1, hserved⟩ := served_of_cancelled (c := c) (s := sr) (by rw [hsr]; exact h.serving)
      (by rw [hsr]; rfl) (by rw [hsr]; exact h.receiving)
      (by simp [hsr, cancelled_eq, stopReceiver, he])
    refine ⟨_, hread.tail (.process 0) (by simp) h1, hserved, ?_, ?_, ?_⟩ <;>
      simp [hsr, SessionManager.serve, hfail, stopProcessor, stopReceiver]
  | false =>
    have he := Peer.endOfInput_of_not_failsReading hfail
    cases hu : c.peer.chunks.flatten with
    | nil =>
      -- the channel is empty and the reader gone: the pump stops with nothing to answer
      have h1 : sr.step c (.process 0) = sr.stopProcessor (.ok .carryOn) := by
        simp [hsr, hu, step, h.serving, processStep, h.receiving, cancelled_eq, stopReceiver, he,
          hsc, hnc, Receiver.running]
      have hlines : c.peer.lines = [] := by
        rw [Peer.lines_eq_drain, hu]
        exact congrArg Prod.fst (Framer.drain_of_none rfl)
      refine ⟨_, hread.tail (.process 0) (by simp) h1, ⟨?_, ?_, rfl⟩, ?_, ?_, ?_⟩ <;>
        simp [hsr, h.serving, SessionManager.serve, hfail, hlines, answerLines, stopProcessor,
          stopReceiver, Receiver.running]
    | cons b bs =>
      -- the process pump takes the chunk; its framer then holds the peer's lines
      have h1 : sr.step c (.process 0) =
          { s with unread := [], channel := [], framer := ({} : Framer).push (b :: bs),
                   processor := .framing, receiver := .stopped (.ok ()) } := by
        simp [hsr, hu, step, h.serving, processStep, h.receiving, cancelled_eq, stopReceiver, he,
          hsc, hnc, h.framer_empty]
      have hlines : ((({} : Framer).push (b :: bs))).drain.1 = c.peer.lines := by
        rw [Peer.lines_eq_drain, hu]
      obtain ⟨s', hlead, hserved, hwire, hnotices, hmoved⟩ :=
        Leads.answers (c := c) c.peer.lines
          { s with unread := [], channel := [], framer := ({} : Framer).push (b :: bs),
                   processor := .framing, receiver := .stopped (.ok ()) }
          { server := s.wire.nodeCancelled } ⟨h.serving, rfl, rfl⟩ rfl hlines rfl hsc.symm
      refine ⟨s', (hread.tail (.process 0) (by simp) h1).trans hlead, hserved, ?_, hnotices,
        hmoved⟩
      simp [hwire, SessionManager.serve, hfail]

end Machine

/-! ## The run in order -/

open Machine in
/-- **The run in order is one schedule of the machine.** For a connection whose channel has room
for a chunk, some schedule of the session's tasks, with no cancellation from outside, leaves the
machine showing what `SessionManager.run` returns, the bytes it writes, the notices it collects
and the states it goes through. -/
theorem SessionManager.run_scheduled (c : Connection) (nodeCancelled : Bool)
    (hpend : 0 < c.manager.config.maxPendingChunks) :
    ∃ moves, Move.cancel ∉ moves ∧
      ((Machine.init c nodeCancelled).run c moves).Shows
        (c.manager.run c.peer c.sink c.session.remoteAddress nodeCancelled) := by
  suffices h : ∃ s, Leads c (Machine.init c nodeCancelled) s ∧
      s.Shows (c.manager.run c.peer c.sink c.session.remoteAddress nodeCancelled) by
    obtain ⟨s, ⟨moves, hm, rfl⟩, hshows⟩ := h
    exact ⟨moves, hm, hshows⟩
  unfold SessionManager.run
  cases hacc : c.manager.access.accepts c.session.remoteAddress with
  | false =>
    -- a refused peer: one step of the session's task closes it
    refine ⟨_, .single (.session 0) (by simp) rfl, ?_⟩
    simp [Shows, step, sessionStep, init, hacc, result?, transition]
  | true =>
    cases nodeCancelled with
    | true =>
      refine ⟨_, .single (.session 0) (by simp) rfl, ?_⟩
      simp [Shows, step, sessionStep, init, hacc, result?, transition]
    | false =>
      -- the check passes and the banner goes out
      have h₁ : (Machine.init c false).step c (.session 0) =
          { (Machine.init c false).transition .authorized with
            stage := .banner (encodeUtf8 c.manager.protocol.banner) } := by
        simp [step, sessionStep, init, hacc]
      have hlead₁ := Leads.single _ (by simp) h₁
      cases hw : c.sink.write {} false .banner (encodeUtf8 c.manager.protocol.banner) with
      | mk r w =>
        obtain ⟨hok, herr⟩ := Leads.banner (c := c)
          (s := { (Machine.init c false).transition .authorized with
            stage := .banner (encodeUtf8 c.manager.protocol.banner) }) rfl hw
        cases r with
        | error e =>
          refine ⟨_, hlead₁.trans (herr e rfl), ?_⟩
          simp [Shows, finish, result?, transition, init, hw]
          -- left: the test of the node's token in `finish` is decided on the machine's own
          -- record, which `simp` does not rewrite
          rfl
        | ok u =>
          have hnode : w.nodeCancelled = false := Sink.write_ok hw
          -- the banner is sent and the start callbacks run
          obtain ⟨sb, hleadb, hsb⟩ : ∃ sb, Leads c (Machine.init c false) sb ∧ sb = _ :=
            ⟨_, hlead₁.trans (hok rfl), rfl⟩
          obtain ⟨log, hlog, hstarted⟩ :=
            Leads.starting (c := c) c.manager.protocol.startHooks sb (by rw [hsb])
          obtain ⟨s₂, hlead₂, hs₂⟩ : ∃ s₂, Leads c (Machine.init c false) s₂ ∧ s₂ = _ :=
            ⟨_, hleadb.trans hstarted, rfl⟩
          cases hrun : runHooks false c.manager.protocol.startHooks with
          | mk t r =>
            simp only [hrun] at hlog hs₂
            cases r with
            | error e =>
              -- a start callback failed: the session closes without serving
              obtain ⟨log', hlog', hclosed⟩ := Leads.closing (c := c)
                c.manager.protocol.closeHooks s₂ (by rw [hs₂])
              refine ⟨_, hlead₂.trans hclosed, ?_⟩
              simp [Shows, result?, transition, init, hs₂, hsb, hlog, hlog', hnode, hw,
                Protocol.start, Protocol.close, hrun, Except.mapError]
            | ok u =>
              -- every start callback succeeded: the session serves, then closes
              have hfresh : s₂.Fresh c := by
                rw [hs₂, hsb]
                exact ⟨rfl, rfl, rfl, rfl, rfl, rfl,
                  by simp [cancelled_eq, transition, init, hnode]⟩
              obtain ⟨s₃, hlead₃, hserved, hwire, hnotices, hmoved⟩ := Leads.serving hpend hfresh
              have h₄ : s₃.step c (.session 0) = { s₃.transition .closing with
                  stage := .closing c.manager.protocol.closeHooks } := by
                simp [step, sessionStep, hserved.serving, hserved.reader_stopped,
                  hserved.processor_stopped]
              obtain ⟨log', hlog', hclosed⟩ := Leads.closing (c := c) c.manager.protocol.closeHooks
                { s₃.transition .closing with stage := .closing c.manager.protocol.closeHooks } rfl
              refine ⟨_, ((hlead₂.trans hlead₃).tail _ (by simp) h₄).trans hclosed, ?_⟩
              simp [Shows, result?, transition, hwire, hnotices, hmoved, hs₂, hsb, hlog, hlog',
                init, hw, Protocol.start, Protocol.close, hrun, Except.mapError]

end MetricsNode
