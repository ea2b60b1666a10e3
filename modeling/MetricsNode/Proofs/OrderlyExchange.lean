import MetricsNode.Proofs.LineFraming
import MetricsNode.Proofs.SessionSteps

/-!
# A session answers its lines in order

Whatever the schedule of the three tasks, wherever a read or a write fails and whenever a token
is cancelled, a session keeps to a strict exchange: the lines handed to the engine are the first
complete lines the peer sent, up to the first quit line at most; a line is handed over only once
every earlier answer is on the wire; and what is on the wire is always a prefix of the banner
followed by the answers. A peer that the access rule refuses gets nothing at all.

## The invariant

`Machine.Orderly` collects what holds of every state a session reaches. Its parts are stated
apart, each with a step lemma per task:

* `Machine.Supplied`: the bytes read, the bytes fed to the framer and the lines handed out fit
  together. While the process pump runs under a live token nothing has been dropped: the framer's
  bytes, the channel and the chunk the reader holds make up exactly what was read, and the lines
  handed out with the framer's own lines are the lines of what it was fed (`Framer.Tracks`).
  A cancellation or a stopped pump may drop bytes, but then no further line is handed out.
* `Machine.Answered`: what is on the wire, followed by what the session still owes
  (`Machine.owed`: the rest of the banner or of an answer), is the banner and the answers so far.
  Once a write has failed, or serving is over, only a prefix of them is on the wire.
* `Machine.QuitLast`: a quit line can only be the last line handed out, and a pump that still
  runs has handed out none.

## Main results

* `Machine.orderly_run`: every run from the start keeps the invariant.
* `answers_follow_lines`: the exchange, as stated above, for every schedule.
-/

namespace MetricsNode

open Net Wire

/-! ## The lines up to the first quit line -/

/-- The lines up to the first quit line, that line included. -/
def throughQuit : List Bytes → List Bytes
  | [] => []
  | l :: ls => if isQuitLine (decodeLossy l) then [l] else l :: throughQuit ls

/-- A prefix of the lines in which a quit line can only stand last stops at the first quit line
at the latest. -/
theorem prefix_throughQuit {h : List Bytes} {lines : List Bytes} (hp : h <+: lines)
    (hq : ∀ x ∈ h.dropLast, isQuitLine (decodeLossy x) = false) : h <+: throughQuit lines := by
  induction lines generalizing h with
  | nil =>
    rw [List.prefix_nil.1 hp]
    exact List.nil_prefix
  | cons l ls ih =>
    cases h with
    | nil => exact List.nil_prefix
    | cons x h' =>
      obtain ⟨rfl, hp'⟩ := List.cons_prefix_cons.1 hp
      by_cases hx : isQuitLine (decodeLossy x) = true
      · -- the quit line stands last, so nothing follows it
        cases h' with
        | nil => simp [throughQuit, hx]
        | cons z zs =>
          have := hq x (by rw [List.dropLast_cons_cons]; exact List.mem_cons_self)
          simp [hx] at this
      · rw [throughQuit, if_neg hx]
        refine List.cons_prefix_cons.2 ⟨rfl, ih hp' fun y hy ↦ hq y ?_⟩
        cases h' with
        | nil => simp at hy
        | cons z zs =>
          rw [List.dropLast_cons_cons]
          exact List.mem_cons_of_mem x hy

theorem throughQuit_of_forall {lines : List Bytes}
    (h : ∀ x ∈ lines, isQuitLine (decodeLossy x) = false) : throughQuit lines = lines := by
  induction lines with
  | nil => rfl
  | cons l ls ih =>
    have hl : isQuitLine (decodeLossy l) = false := h l List.mem_cons_self
    rw [throughQuit, if_neg (by simp [hl]), ih fun x hx ↦ h x (List.mem_cons_of_mem l hx)]

/-- More lines read never change the lines up to the first quit line, only add to them. -/
theorem throughQuit_mono {lines more : List Bytes} (h : lines <+: more) :
    throughQuit lines <+: throughQuit more := by
  induction lines generalizing more with
  | nil => exact List.nil_prefix
  | cons l ls ih =>
    cases more with
    | nil => simp at h
    | cons m ms =>
      obtain ⟨rfl, h'⟩ := List.cons_prefix_cons.1 h
      by_cases hq : isQuitLine (decodeLossy l) = true
      · simp [throughQuit, hq]
      · simp only [throughQuit, if_neg hq]
        exact List.cons_prefix_cons.2 ⟨rfl, ih h'⟩

/-- A prefix of the lines through the first quit line that itself ends with a quit line is all
of them. -/
theorem eq_throughQuit_of_quit {h : List Bytes} {x : Bytes} {lines : List Bytes}
    (hp : h ++ [x] <+: throughQuit lines) (hx : isQuitLine (decodeLossy x) = true) :
    h ++ [x] = throughQuit lines := by
  induction lines generalizing h with
  | nil => simp [throughQuit] at hp
  | cons l ls ih =>
    by_cases hq : isQuitLine (decodeLossy l) = true
    · -- the first line quits, so it is the last line handed out
      rw [throughQuit, if_pos hq] at hp ⊢
      cases h with
      | nil => simpa using hp
      | cons y ys => simp at hp
    · rw [throughQuit, if_neg hq] at hp ⊢
      cases h with
      | nil =>
        obtain ⟨rfl, -⟩ := List.cons_prefix_cons.1 hp
        simp [hx] at hq
      | cons y ys =>
        obtain ⟨rfl, hp'⟩ := List.cons_prefix_cons.1 hp
        rw [List.cons_append, ih hp']

/-- Answers that write nothing for a quit line: the answers through the first quit line are
those of the lines before it. -/
theorem flatMap_throughQuit (f : Bytes → Bytes)
    (hf : ∀ x, isQuitLine (decodeLossy x) = true → f x = []) (lines : List Bytes) :
    (throughQuit lines).flatMap f =
      (lines.takeWhile fun l ↦ !isQuitLine (decodeLossy l)).flatMap f := by
  induction lines with
  | nil => rfl
  | cons l ls ih =>
    by_cases hq : isQuitLine (decodeLossy l) = true
    · simp [throughQuit, hq, hf l hq]
    · simp [throughQuit, hq, ih]

/-! ## Where the session stands -/

/-- The stages before the session serves: the pumps have not moved yet. -/
def Stage.beforeServing : Stage → Bool
  | .accepted | .banner _ | .starting _ => true
  | _ => false

/-- An answer the process pump goes on to write is the answer's bytes. -/
theorem Processor.afterAnswer_writing {a : Except ServerError Reply} {rest : Bytes}
    (h : Processor.afterAnswer a = .writing rest) : rest = answerBytes a := by
  cases a with
  | error e => simp [Processor.afterAnswer] at h
  | ok r =>
    cases hs : r.status with
    | quit => simp [Processor.afterAnswer, hs] at h
    | carryOn =>
      simp only [Processor.afterAnswer, hs] at h
      simp at h
      simp [answerBytes, hs, h]

/-- After an answer the process pump either writes it or stops. -/
theorem Processor.afterAnswer_cases (a : Except ServerError Reply) :
    (∃ r, Processor.afterAnswer a = .stopped r) ∨
      Processor.afterAnswer a = .writing (answerBytes a) := by
  cases h : Processor.afterAnswer a with
  | writing rest => exact .inr (by rw [Processor.afterAnswer_writing h])
  | stopped r => exact .inl ⟨r, rfl⟩
  | _ =>
    -- an answer never leaves the pump at the top of its loop or framing
    cases a with
    | error e => cases h
    | ok r =>
      simp only [Processor.afterAnswer] at h
      split at h <;> cases h

/-- The pump runs on after an answer only if the line did not ask to quit. -/
theorem Processor.afterAnswer_running {p : Protocol} {line : Bytes} {tok : Cancellation}
    (h : (Processor.afterAnswer (p.handle line tok).1).running = true) :
    isQuitLine (decodeLossy line) = false := by
  cases ha : (p.handle line tok).1 with
  | error e => simp [ha, Processor.afterAnswer, Processor.running] at h
  | ok r =>
    have hq := Protocol.handle_quit_iff ha
    rw [ha] at h
    cases hs : r.status with
    | quit => simp [Processor.afterAnswer, hs, Processor.running] at h
    | carryOn => simpa [hs] using hq

namespace Machine

/-- What the session still owes the peer: the rest of the banner before serving, the rest of
the answer being written while serving, and `none` once a write has failed or serving is over,
when nothing more is owed. -/
def owed (c : Connection) (s : Machine) : Option Bytes :=
  match s.stage with
  | .accepted => some (encodeUtf8 c.manager.protocol.banner)
  | .banner rest => some rest
  | .starting _ => some []
  | .serving =>
    match s.processor with
    | .writing rest => some rest
    | .stopped _ => none
    | _ => some []
  | _ => none

/-- The process pump runs and the session token is live: the pump may still hand out lines. -/
def Live (s : Machine) : Prop := s.cancelled = false ∧ s.processor.running = true

theorem ProcessorStep.running_of_running {c : Connection} {n : Nat} {s s' : Machine}
    (h : ProcessorStep c n s s') (hr : s'.processor.running = true) :
    s.processor.running = true := by
  cases h with
  | still => exact hr
  | _ => simp_all [Processor.running]

/-- No move brings the pump back, nor makes the token live again. -/
theorem MoveStep.live_of_live {c : Connection} {s s' : Machine} {mv : Move}
    (h : MoveStep c s mv s') (hl : s'.Live) : s.Live := by
  obtain ⟨hc, hr⟩ := hl
  refine ⟨?_, ?_⟩
  · cases hsc : s.cancelled with
    | false => rfl
    | true =>
      have := h.token_le.isCancelled hsc
      exact absurd this (by simpa [cancelled] using hc)
  · cases h with
    | session h => rwa [← h.frame.2.2.2.2.1]
    | receive _ h => rwa [← h.frame.2.2.1]
    | process _ h => exact h.running_of_running hr
    | still => exact hr
    | cancel => exact hr

/-! ## The parts of the invariant -/

/-- The bytes the peer sent reach the engine in order. `read` is what the receive pump has read
and `taken` what the framer has been fed; while the pump may still hand out lines, nothing has
been dropped on the way. -/
def Supplied (c : Connection) (s : Machine) : Prop :=
  ∃ read taken, read ++ s.unread = c.peer.chunks.flatten ∧ taken <+: read ∧
    handledLines s.log <+: completeLines taken ∧
    (s.Live → taken ++ s.channel.flatten ++ s.held = read ∧
      s.framer.Tracks taken (handledLines s.log))

/-- A quit line is the last line handed out, and a pump that still runs has handed out none. -/
def QuitLast (s : Machine) : Prop :=
  (s.processor.running = true → ∀ x ∈ handledLines s.log, isQuitLine (decodeLossy x) = false) ∧
    ∀ x ∈ (handledLines s.log).dropLast, isQuitLine (decodeLossy x) = false

/-- Every answer in the log is the engine's answer to its line. -/
def FromEngine (c : Connection) (s : Machine) : Prop :=
  ∀ e ∈ exchanges s.log, ∃ tok, e.2 = (c.manager.protocol.handle e.1 tok).1

/-- What is on the wire, followed by what is still owed, is the banner and the answers; what is
on the wire is a prefix of them in any case. -/
def Answered (c : Connection) (s : Machine) : Prop :=
  (∀ r, s.owed c = some r →
      s.wire.written ++ r = encodeUtf8 c.manager.protocol.banner ++ answers s.log) ∧
    s.wire.written <+: encodeUtf8 c.manager.protocol.banner ++ answers s.log

/-- For a refused peer nothing is written, and the session is at its start or has returned. -/
def Silenced (c : Connection) (s : Machine) : Prop :=
  c.manager.access.accepts c.session.remoteAddress = false →
    s.wire.written = [] ∧ (s.stage = .accepted ∨ ∃ r, s.stage = .returned r)

/-- What holds of every state a session reaches. -/
structure Orderly (c : Connection) (s : Machine) : Prop where
  idle : s.stage.beforeServing = true → s.processor = .receiving
  valid : s.framer.Valid
  supplied : s.Supplied c
  quitLast : s.QuitLast
  fromEngine : s.FromEngine c
  answered : s.Answered c
  silenced : s.Silenced c

section Steps

variable {c : Connection} {n : Nat} {s s' : Machine} {mv : Move}

/-! ## The framer's promise and the idle pumps -/

theorem MoveStep.valid (h : MoveStep c s mv s') (hv : s.framer.Valid) : s'.framer.Valid := by
  cases h with
  | session h =>
    obtain ⟨-, -, -, hf, -⟩ := h.frame
    rwa [hf]
  | receive _ h =>
    obtain ⟨-, hf, -⟩ := h.frame
    rwa [hf]
  | process _ h =>
    cases h with
    | took => exact hv.push _
    | noLine _ hf => simpa [hf] using hv.nextLine
    | lineCancelled _ hf => simpa [stopProcessor, hf] using hv.nextLine
    | line _ hf => simpa [answer, hf] using hv.nextLine
    | _ => simpa [stopProcessor] using hv
  | still => exact hv
  | cancel => exact hv

/-- The session's own task never goes back to a stage before serving. -/
theorem SessionStep.beforeServing (h : SessionStep c n s s')
    (hb : s'.stage.beforeServing = true) : s.stage.beforeServing = true := by
  cases h <;> simp_all [Stage.beforeServing, transition, call, finish]

theorem MoveStep.idle (h : MoveStep c s mv s')
    (hi : s.stage.beforeServing = true → s.processor = .receiving)
    (hb : s'.stage.beforeServing = true) : s'.processor = .receiving := by
  cases h with
  | session h =>
    obtain ⟨-, -, -, -, hp, -⟩ := h.frame
    rw [hp]
    exact hi (h.beforeServing hb)
  | receive hs h =>
    rw [h.frame.1, hs] at hb
    simp [Stage.beforeServing] at hb
  | process hs h =>
    rw [h.frame.1, hs] at hb
    simp [Stage.beforeServing] at hb
  | still => exact hi hb
  | cancel => exact hi hb

/-! ## Quit lines and the engine's answers

Only the process pump hands out lines, one per `line` step; every other step leaves the log's
exchanges as they were. -/

theorem ProcessorStep.quitLast (h : ProcessorStep c n s s') (hq : s.QuitLast) : s'.QuitLast := by
  obtain ⟨hrun, hlast⟩ := hq
  have hback := h.running_of_running
  cases h with
  | line hp hf hc =>
    -- the pump ran, so no line handed out so far asked to quit
    have hall := hrun (by simp [hp, Processor.running])
    refine ⟨fun hr x hx ↦ ?_, fun x hx ↦ ?_⟩
    · simp only [answer, handledLines_concat, List.mem_append, List.mem_singleton] at hx
      rcases hx with hx | rfl
      · exact hall x hx
      · exact Processor.afterAnswer_running hr
    · simp only [answer, handledLines_concat, List.dropLast_concat] at hx
      exact hall x hx
  | _ => exact ⟨fun hr ↦ hrun (hback hr), hlast⟩

theorem MoveStep.quitLast (h : MoveStep c s mv s') (hq : s.QuitLast) : s'.QuitLast := by
  cases h with
  | session h =>
    obtain ⟨-, -, -, -, hp, -, hx⟩ := h.frame
    rw [QuitLast, handledLines_eq_of_exchanges hx, hp]
    exact hq
  | receive _ h =>
    obtain ⟨-, -, hp, -, hl, -⟩ := h.frame
    rw [QuitLast, hp, hl]
    exact hq
  | process _ h => exact h.quitLast hq
  | still => exact hq
  | cancel => exact hq

theorem ProcessorStep.fromEngine (h : ProcessorStep c n s s') (he : s.FromEngine c) :
    s'.FromEngine c := by
  cases h with
  | line hp hf hc =>
    intro e hmem
    simp only [answer, exchanges_append, exchanges_handled, exchanges_nil, List.mem_append,
      List.mem_singleton] at hmem
    rcases hmem with hmem | rfl
    · exact he e hmem
    · exact ⟨_, rfl⟩
  | _ => exact he

theorem MoveStep.fromEngine (h : MoveStep c s mv s') (he : s.FromEngine c) : s'.FromEngine c := by
  cases h with
  | session h =>
    obtain ⟨-, -, -, -, -, -, hx⟩ := h.frame
    rw [FromEngine, hx]
    exact he
  | receive _ h =>
    obtain ⟨-, -, -, -, hl, -⟩ := h.frame
    rw [FromEngine, hl]
    exact he
  | process _ h => exact h.fromEngine he
  | still => exact he
  | cancel => exact he

/-! ## A refused peer -/

theorem MoveStep.silenced (h : MoveStep c s mv s') (hs : s.Silenced c) : s'.Silenced c := by
  intro ha
  obtain ⟨hw, hst⟩ := hs ha
  cases h with
  | session h =>
    cases h with
    | still => exact ⟨hw, hst⟩
    | refused => exact ⟨hw, .inr ⟨_, rfl⟩⟩
    -- every other step needs an accepted peer or a stage a refused peer never reaches
    | _ => rcases hst with hst | ⟨r, hst⟩ <;> simp_all
  | receive hs _ => rcases hst with hst | ⟨r, hst⟩ <;> simp [hst] at hs
  | process hs _ => rcases hst with hst | ⟨r, hst⟩ <;> simp [hst] at hs
  | still => exact ⟨hw, hst⟩
  | cancel => exact ⟨hw, hst⟩

/-! ## From the peer to the engine -/

/-- Once no more lines can be handed out, it is enough that the bytes read and the lines handed
out are kept. -/
theorem Supplied.of_not_live (h : s.Supplied c) (hu : s'.unread = s.unread)
    (hx : handledLines s'.log = handledLines s.log) (hl : ¬s'.Live) : s'.Supplied c := by
  obtain ⟨read, taken, hread, htaken, hlines, -⟩ := h
  refine ⟨read, taken, by rw [hu]; exact hread, htaken, by rw [hx]; exact hlines, ?_⟩
  exact fun h' ↦ absurd h' hl

/-- A step that moves no byte keeps the supply. -/
theorem Supplied.of_frame (h : s.Supplied c) (hl : s'.Live → s.Live)
    (hu : s'.unread = s.unread) (hch : s'.channel = s.channel) (hheld : s'.held = s.held)
    (hf : s'.framer = s.framer) (hx : handledLines s'.log = handledLines s.log) :
    s'.Supplied c := by
  obtain ⟨read, taken, hread, htaken, hlines, hflow⟩ := h
  refine ⟨read, taken, by rw [hu]; exact hread, htaken, by rw [hx]; exact hlines, fun hl' ↦ ?_⟩
  rw [hch, hheld, hf, hx]
  exact hflow (hl hl')

theorem SessionStep.supplied (h : SessionStep c n s s') (hl : s'.Live → s.Live)
    (hs : s.Supplied c) : s'.Supplied c := by
  obtain ⟨hu, hr, hch, hf, -, -, hx⟩ := h.frame
  exact hs.of_frame hl hu hch (by simp only [held, hr]) hf (handledLines_eq_of_exchanges hx)

theorem ReceiverStep.supplied (h : ReceiverStep c n s s') (hl : s'.Live → s.Live)
    (hs : s.Supplied c) : s'.Supplied c := by
  cases h with
  | still => exact hs
  | cancelled hr hc =>
    refine hs.of_not_live rfl rfl fun hl' ↦ ?_
    have := hl'.1
    simp [cancelled_eq, stopReceiver] at this
  | read hr hc hu =>
    -- the bytes read go into the reader's hand
    obtain ⟨read, taken, hread, htaken, hlines, hflow⟩ := hs
    refine ⟨read ++ s.unread.take (n + 1), taken, ?_, htaken.trans (List.prefix_append _ _),
      hlines, fun hl' ↦ ?_⟩
    · rw [List.append_assoc, List.take_append_drop]
      exact hread
    · obtain ⟨hflat, htr⟩ := hflow (hl hl')
      refine ⟨?_, htr⟩
      rw [← hflat]
      simp [held, hr]
  | ended hr hc hu =>
    exact hs.of_frame hl rfl rfl (by simp [held, stopReceiver, hr]) rfl rfl
  | sent hr hc hp hroom =>
    -- the chunk in hand goes to the back of the channel
    obtain ⟨read, taken, hread, htaken, hlines, hflow⟩ := hs
    refine ⟨read, taken, hread, htaken, hlines, fun hl' ↦ ?_⟩
    obtain ⟨hflat, htr⟩ := hflow (hl hl')
    refine ⟨?_, htr⟩
    rw [← hflat]
    simp [held, hr]
  | closed hr hc hp =>
    refine hs.of_not_live rfl rfl fun hl' ↦ ?_
    have := hl'.2
    simp [stopReceiver, hp] at this

theorem ProcessorStep.supplied (h : ProcessorStep c n s s') (hl : s'.Live → s.Live)
    (hv : s.framer.Valid) (hs : s.Supplied c) : s'.Supplied c := by
  cases h with
  | @took chunk rest hp hc hq =>
    -- the oldest chunk of the channel is fed to the framer
    obtain ⟨read, taken, hread, htaken, hlines, hflow⟩ := hs
    obtain ⟨hflat, htr⟩ := hflow ⟨hc, by simp [hp, Processor.running]⟩
    have hfed : taken ++ chunk <+: read := by
      rw [← hflat, hq]
      simp
    refine ⟨read, taken ++ chunk, hread, hfed, hlines.trans (prefix_completeLines_append _ _),
      fun _ ↦ ⟨?_, htr.push chunk⟩⟩
    rw [← hflat, hq]
    simp [held]
  | noLine hp hf =>
    obtain ⟨read, taken, hread, htaken, hlines, hflow⟩ := hs
    refine ⟨read, taken, hread, htaken, hlines, fun hl' ↦ ?_⟩
    obtain ⟨hflat, htr⟩ := hflow (hl hl')
    exact ⟨hflat, htr.nextLine_none hv hf⟩
  | @line line f hp hf hc =>
    -- the line handed out is the next line of what the framer was fed
    obtain ⟨read, taken, hread, htaken, hlines, hflow⟩ := hs
    obtain ⟨hflat, htr⟩ := hflow ⟨hc, by simp [hp, Processor.running]⟩
    have htr' := htr.nextLine hv hf
    refine ⟨read, taken, hread, htaken, ?_, fun _ ↦ ⟨hflat, ?_⟩⟩
    · simpa [answer] using htr'.prefix_completeLines
    · simpa [answer] using htr'
  | still => exact hs
  | written hp => exact hs.of_frame hl rfl rfl rfl rfl rfl
  | piece hp ha => exact hs.of_frame hl rfl rfl rfl rfl rfl
  -- the remaining steps stop the pump
  | _ =>
    refine hs.of_not_live rfl rfl fun hl' ↦ ?_
    have := hl'.2
    simp [stopProcessor, Processor.running] at this

theorem MoveStep.supplied (h : MoveStep c s mv s') (hv : s.framer.Valid) (hs : s.Supplied c) :
    s'.Supplied c := by
  have hl := h.live_of_live
  cases h with
  | session h => exact h.supplied hl hs
  | receive _ h => exact h.supplied hl hs
  | process _ h => exact h.supplied hl hv hs
  | still => exact hs
  | cancel => exact hs.of_frame hl rfl rfl rfl rfl rfl

/-! ## What is on the wire -/

/-- A step that writes nothing and answers nothing keeps the output, if it owes no more. -/
theorem Answered.of_owed (h : s.Answered c) (hw : s'.wire.written = s.wire.written)
    (ha : answers s'.log = answers s.log) (ho : ∀ r, s'.owed c = some r → s.owed c = some r) :
    s'.Answered c := by
  obtain ⟨howe, hpre⟩ := h
  rw [Answered, hw, ha]
  exact ⟨fun r hr ↦ howe r (ho r hr), hpre⟩

/-- A piece of a write moves bytes from what is owed to the wire. -/
theorem Answered.of_piece {w : Wire} {owing rest : Bytes}
    (howe : s.wire.written ++ owing = encodeUtf8 c.manager.protocol.banner ++ answers s.log)
    (hw : w.written ++ rest = s.wire.written ++ owing) (hs' : s'.wire = w)
    (ha : answers s'.log = answers s.log) (ho : s'.owed c = some rest) : s'.Answered c := by
  have key : s'.wire.written ++ rest = encodeUtf8 c.manager.protocol.banner ++ answers s'.log := by
    rw [hs', hw, howe, ha]
  refine ⟨fun r hr ↦ ?_, key ▸ List.prefix_append _ _⟩
  rw [ho, Option.some.injEq] at hr
  rw [← hr]
  exact key

/-- Answering a line when every earlier answer is on the wire owes the new answer's bytes, or
nothing once the pump stops. -/
theorem Answered.of_answer (hs : s.stage = .serving)
    (hall : s.wire.written = encodeUtf8 c.manager.protocol.banner ++ answers s.log)
    (line : Bytes) : (answer c s line).Answered c := by
  rcases Processor.afterAnswer_cases (c.manager.protocol.handle line s.token).1 with
    ⟨r, hr⟩ | hw
  · refine ⟨fun r' hr' ↦ ?_, ?_⟩
    · simp [owed, answer, hs, hr] at hr'
    · simp [answer, hall]
  · refine ⟨fun r' hr' ↦ ?_, ?_⟩
    · simp only [owed, answer, hs, hw, Option.some.injEq] at hr'
      simp [answer, hall, ← hr']
    · simp [answer, hall]

theorem SessionStep.answered (h : SessionStep c n s s')
    (hi : s.stage.beforeServing = true → s.processor = .receiving) (ha : s.Answered c) :
    s'.Answered c := by
  obtain ⟨-, -, -, -, -, -, hx⟩ := h.frame
  cases h with
  | @bannerPiece b bs rest w hs hadv =>
    have howe := ha.1 (b :: bs) (by simp [owed, hs])
    exact Answered.of_piece howe (Sink.advance_ok hadv).1 rfl (answers_eq_of_exchanges hx)
      (by simp [owed])
  | bannerFailed hs hadv =>
    apply ha.of_owed
    · exact (Sink.advance_error hadv).1
    · exact answers_eq_of_exchanges hx
    · intro r hr
      simp [owed, transition, finish] at hr
  | active hs =>
    have hp := hi (by simp [hs, Stage.beforeServing])
    apply ha.of_owed
    · rfl
    · exact answers_eq_of_exchanges hx
    · intro r hr
      simpa [owed, transition, hs, hp] using hr
  -- the other steps write nothing, and owe what they owed or nothing at all
  | _ =>
    apply ha.of_owed
    · rfl
    · exact answers_eq_of_exchanges hx
    · intro r hr
      simp_all [owed, transition, call, finish]

theorem ProcessorStep.answered (h : ProcessorStep c n s s') (hs : s.stage = .serving)
    (ha : s.Answered c) : s'.Answered c := by
  cases h with
  | @line line f hp hf hc =>
    -- a line is handed out only once every earlier answer is on the wire
    have hall := ha.1 [] (by simp [owed, hs, hp])
    rw [List.append_nil] at hall
    exact Answered.of_answer hs hall line
  | @piece b bs rest w hp hadv =>
    have howe := ha.1 (b :: bs) (by simp [owed, hs, hp])
    exact Answered.of_piece howe (Sink.advance_ok hadv).1 rfl rfl (by simp [owed, hs])
  | failed hp hadv =>
    apply ha.of_owed
    · exact (Sink.advance_error hadv).1
    · rfl
    · intro r hr
      simp [owed, hs, stopProcessor] at hr
  | _ =>
    apply ha.of_owed
    · rfl
    · rfl
    · intro r hr
      simp_all [owed, stopProcessor]

theorem MoveStep.answered (h : MoveStep c s mv s')
    (hi : s.stage.beforeServing = true → s.processor = .receiving) (ha : s.Answered c) :
    s'.Answered c := by
  cases h with
  | session h => exact h.answered hi ha
  | receive _ h =>
    obtain ⟨hst, -, hp, hw, hl, -⟩ := h.frame
    have ho : s'.owed c = s.owed c := by simp only [owed, hst, hp]
    apply ha.of_owed
    · rw [hw]
    · rw [hl]
    · intro r hr
      rwa [← ho]
  | process hs h => exact h.answered hs ha
  | still => exact ha
  | cancel =>
    apply ha.of_owed
    · rfl
    · rfl
    · intro r hr
      exact hr

/-! ## Every run keeps the invariant -/

theorem MoveStep.orderly (h : MoveStep c s mv s') (ho : s.Orderly c) : s'.Orderly c where
  idle := h.idle ho.idle
  valid := h.valid ho.valid
  supplied := h.supplied ho.valid ho.supplied
  quitLast := h.quitLast ho.quitLast
  fromEngine := h.fromEngine ho.fromEngine
  answered := h.answered ho.idle ho.answered
  silenced := h.silenced ho.silenced

/-- Only a `line` step hands a line out, and it takes one at the top of the writing loop. -/
theorem MoveStep.framing_of_handled (h : MoveStep c s mv s')
    (hne : handledLines s'.log ≠ handledLines s.log) :
    s.stage = .serving ∧ s.processor = .framing := by
  cases h with
  | session h =>
    obtain ⟨-, -, -, -, -, -, hx⟩ := h.frame
    exact absurd (handledLines_eq_of_exchanges hx) hne
  | receive _ h =>
    obtain ⟨-, -, -, -, hl, -⟩ := h.frame
    exact absurd (by rw [hl]) hne
  | process hs h =>
    cases h with
    | line hp => exact ⟨hs, hp⟩
    | _ => exact absurd rfl hne
  | still => exact absurd rfl hne
  | cancel => exact absurd rfl hne

end Steps

theorem orderly_init (c : Connection) (nodeCancelled : Bool) :
    (init c nodeCancelled).Orderly c where
  idle _ := rfl
  valid := Framer.valid_empty
  supplied := ⟨[], [], rfl, List.prefix_rfl, List.nil_prefix, fun _ ↦ ⟨rfl, Framer.tracks_empty⟩⟩
  quitLast := ⟨fun _ x hx ↦ (nomatch hx), fun x hx ↦ (nomatch hx)⟩
  fromEngine e he := nomatch he
  answered := ⟨fun r hr ↦ by simp [owed, init] at hr; simp [init, hr], List.nil_prefix⟩
  silenced _ := ⟨rfl, .inl rfl⟩

/-- **Every run keeps the invariant.** -/
theorem orderly_run (c : Connection) (nodeCancelled : Bool) (moves : List Move) :
    ((init c nodeCancelled).run c moves).Orderly c :=
  run_invariant (fun s mv _ ho ↦ (step_spec c s mv).orderly ho) moves _ (fun _ _ ↦ trivial)
    (orderly_init c nodeCancelled)

section Consequences

variable {c : Connection} {s : Machine}

/-- The lines handed out are the first lines read, through the first quit line at most. -/
theorem Orderly.handled_through_quit (ho : s.Orderly c) :
    ∃ read, read ++ s.unread = c.peer.chunks.flatten ∧
      handledLines s.log <+: throughQuit (completeLines read) := by
  obtain ⟨read, taken, hread, ⟨rest, rfl⟩, hlines, -⟩ := ho.supplied
  exact ⟨taken ++ rest, hread,
    prefix_throughQuit (hlines.trans (prefix_completeLines_append taken rest)) ho.quitLast.2⟩

/-- An answer in the log is the engine's, and the answer to a quit line writes nothing. -/
theorem Orderly.exchange_answer (ho : s.Orderly c) {e : Bytes × Except ServerError Reply}
    (he : e ∈ exchanges s.log) :
    (∃ tok, e.2 = (c.manager.protocol.handle e.1 tok).1) ∧
      (isQuitLine (decodeLossy e.1) = true → answerBytes e.2 = []) := by
  obtain ⟨tok, htok⟩ := ho.fromEngine e he
  refine ⟨⟨tok, htok⟩, fun hq ↦ ?_⟩
  rw [htok, Protocol.handle_of_quit tok hq]
  rfl

/-- A line is handed out only once every earlier answer is on the wire. -/
theorem Orderly.written_of_handled (ho : s.Orderly c) (mv : Move)
    (hne : handledLines (s.step c mv).log ≠ handledLines s.log) :
    s.wire.written = encodeUtf8 c.manager.protocol.banner ++ answers s.log := by
  obtain ⟨hs, hp⟩ := (step_spec c s mv).framing_of_handled hne
  have := ho.answered.1 [] (by simp [owed, hs, hp])
  rwa [List.append_nil] at this

end Consequences

end Machine

/-- **A session keeps to a strict exchange.** For every schedule of its tasks, with any reads,
writes, callbacks and fetches failing and any token cancelled anywhere: the lines handed to the
engine are the first complete lines of what was read, through the first quit line at most; each
answer is the engine's, and a quit line's writes nothing; a line is handed over only once every
earlier answer is on the wire; what is on the wire is a prefix of the banner and the answers;
and a refused peer gets nothing. -/
theorem answers_follow_lines (c : Connection) (nodeCancelled : Bool) (moves : List Move) :
    let s := (Machine.init c nodeCancelled).run c moves
    (∃ read, read ++ s.unread = c.peer.chunks.flatten ∧
        handledLines s.log <+: throughQuit (completeLines read)) ∧
    (∀ e ∈ exchanges s.log, (∃ tok, e.2 = (c.manager.protocol.handle e.1 tok).1) ∧
        (isQuitLine (decodeLossy e.1) = true → answerBytes e.2 = [])) ∧
    (∀ mv, handledLines (s.step c mv).log ≠ handledLines s.log →
        s.wire.written = encodeUtf8 c.manager.protocol.banner ++ answers s.log) ∧
    s.wire.written <+: encodeUtf8 c.manager.protocol.banner ++ answers s.log ∧
    (c.manager.access.accepts c.session.remoteAddress = false → s.wire.written = []) := by
  intro s
  have ho : s.Orderly c := Machine.orderly_run c nodeCancelled moves
  exact ⟨ho.handled_through_quit, fun _ he ↦ ho.exchange_answer he, ho.written_of_handled,
    ho.answered.2, fun ha ↦ (ho.silenced ha).1⟩

end MetricsNode
