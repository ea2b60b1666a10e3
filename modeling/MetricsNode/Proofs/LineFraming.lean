import MetricsNode.Wire.Framer

/-!
# Framing does not depend on how the stream is cut

The framer of `Wire/Framer.lean` searches its buffer from a cursor and keeps the cursor across
calls. Here it is compared with a statement about the whole stream. The *segments* of a stream
are the pieces between its line feeds (`List.splitOn`); every segment but the last is a complete
line, read without one carriage return at its end, and the last segment is the start of a line
still to come.

## The cursor

`Framer.Valid` is what the cursor promises: it stays within the buffer, and the bytes it has
passed hold no line feed. Appending keeps the promise because the passed bytes do not change;
taking a line keeps it because the cursor goes back to the start; finding no line keeps it
because then the whole buffer holds no line feed. Under the promise the cursor changes nothing
that can be seen: a line is the buffer up to its first line feed, as a search from the start
would find it (`Framer.nextLine_of_line`, `Framer.nextLine_of_not_mem`).

## Part way through a stream

`Framer.Tracks f taken lines` relates a framer to the bytes fed so far and the lines given out:
the lines still in its buffer complete those of `taken`, and its buffer ends with the line that
`taken` leaves open. Feeding a chunk and taking a line both keep it, so a consumer that
interleaves the two, as the process pump does, always holds a prefix of the stream's lines.

## Main results

* `completeLines_append`: the lines of `u ++ v` are the lines of `u`, then those of what `u`
  leaves pending followed by `v`. This is why a cut between chunks cannot be seen.
* `Framer.drain_eq`: taking every line out of a framer gives the complete lines of its buffer
  and leaves the bytes after the last line feed.
* `framing_ignores_chunking`: fed chunk by chunk, in any cut, a stream gives the lines and the
  framer it gives when fed whole, and these are its complete lines and its unterminated tail.
* `cursor_sound_memo`: after any appends and takes, the cursor keeps its promise, so every take
  answers as a search from the start of the buffer.
-/

namespace MetricsNode.Wire

/-! ## Lines of a stream -/

/-- The pieces of a stream between its line feeds. -/
def segments (s : Bytes) : List Bytes := s.splitOn lineFeed

theorem segments_ne_nil (s : Bytes) : segments s ≠ [] := List.splitOn_ne_nil _ _

/-- The complete lines of a stream: every piece that a line feed ends, less one carriage return
at its end. -/
def completeLines (s : Bytes) : List Bytes := (segments s).dropLast.map dropCarriageReturn

/-- The bytes after the last line feed of a stream: a line still to be completed. -/
def unterminated (s : Bytes) : Bytes := (segments s).getLast (segments_ne_nil s)

theorem segments_of_not_mem {s : Bytes} (h : lineFeed ∉ s) : segments s = [s] :=
  List.splitOn_eq_singleton h

theorem segments_line {x : Bytes} (hx : lineFeed ∉ x) (y : Bytes) :
    segments (x ++ lineFeed :: y) = x :: segments y :=
  List.splitOn_append_cons_self_of_not_mem hx y

@[simp] theorem completeLines_of_not_mem {s : Bytes} (h : lineFeed ∉ s) :
    completeLines s = [] := by
  simp [completeLines, segments_of_not_mem h]

@[simp] theorem unterminated_of_not_mem {s : Bytes} (h : lineFeed ∉ s) : unterminated s = s := by
  simp [unterminated, segments_of_not_mem h]

theorem completeLines_line {x : Bytes} (hx : lineFeed ∉ x) (y : Bytes) :
    completeLines (x ++ lineFeed :: y) = dropCarriageReturn x :: completeLines y := by
  rw [completeLines, segments_line hx, List.dropLast_cons_of_ne_nil (segments_ne_nil y)]
  rfl

theorem unterminated_line {x : Bytes} (hx : lineFeed ∉ x) (y : Bytes) :
    unterminated (x ++ lineFeed :: y) = unterminated y := by
  simp only [unterminated, segments_line hx]
  exact List.getLast_cons (segments_ne_nil y)

/-! ## The search for a line feed -/

theorem breakAtLineFeed_eq_none {s : Bytes} : breakAtLineFeed s = none ↔ lineFeed ∉ s := by
  induction s with
  | nil => simp [breakAtLineFeed]
  | cons b rest ih =>
    by_cases hb : b = lineFeed
    · simp [breakAtLineFeed, hb]
    · simp [breakAtLineFeed, hb, ih, Ne.symm hb]

theorem breakAtLineFeed_eq_some {s x y : Bytes} :
    breakAtLineFeed s = some (x, y) ↔ s = x ++ lineFeed :: y ∧ lineFeed ∉ x := by
  induction s generalizing x with
  | nil => simp [breakAtLineFeed]
  | cons b rest ih =>
    by_cases hb : b = lineFeed
    · subst hb
      cases x with
      | nil => simp [breakAtLineFeed]
      | cons a x => simp [breakAtLineFeed]; grind
    · cases x with
      | nil => simp [breakAtLineFeed, hb, Option.map_eq_some_iff]
      | cons a x =>
        simp only [breakAtLineFeed, hb, if_false, Option.map_eq_some_iff, Prod.exists,
          Prod.mk.injEq, List.cons_append, List.cons.injEq, List.mem_cons, not_or]
        constructor
        · rintro ⟨x', y', hx', ⟨rfl, rfl⟩, rfl⟩
          obtain ⟨rfl, hx⟩ := ih.1 hx'
          exact ⟨⟨rfl, rfl⟩, fun h => hb h.symm, hx⟩
        · rintro ⟨⟨rfl, rfl⟩, -, hx⟩
          exact ⟨x, y, ih.2 ⟨rfl, hx⟩, ⟨rfl, rfl⟩, rfl⟩

/-- Streams are built line by line: a stream with no line feed, or a piece with no line feed, a
line feed, and a stream. -/
theorem induction_on_lines {motive : Bytes → Prop} (free : ∀ s, lineFeed ∉ s → motive s)
    (line : ∀ x y, lineFeed ∉ x → motive y → motive (x ++ lineFeed :: y)) (s : Bytes) :
    motive s :=
  match hb : breakAtLineFeed s with
  | none => free s (breakAtLineFeed_eq_none.1 hb)
  | some (x, y) =>
    have hs := breakAtLineFeed_eq_some.1 hb
    hs.1 ▸ line x y hs.2 (induction_on_lines free line y)
termination_by s.length
decreasing_by exact Framer.breakAtLineFeed_length hb

theorem lineFeed_not_mem_unterminated (s : Bytes) : lineFeed ∉ unterminated s := by
  induction s using induction_on_lines with
  | free s hs => rwa [unterminated_of_not_mem hs]
  | line x y hx ih => rwa [unterminated_line hx]

/-- **The lines of a stream, cut anywhere.** The cut falls inside the pending part of the first
piece, so the lines of the whole are those of the first piece and then those of its pending
bytes followed by the second. -/
theorem completeLines_append (u v : Bytes) :
    completeLines (u ++ v) = completeLines u ++ completeLines (unterminated u ++ v) := by
  induction u using induction_on_lines with
  | free u hu => simp [hu]
  | line x y hx ih =>
    rw [List.append_assoc, List.cons_append, completeLines_line hx, ih, completeLines_line hx,
      unterminated_line hx, List.cons_append]

theorem unterminated_append (u v : Bytes) :
    unterminated (u ++ v) = unterminated (unterminated u ++ v) := by
  induction u using induction_on_lines with
  | free u hu => rw [unterminated_of_not_mem hu]
  | line x y hx ih =>
    rw [List.append_assoc, List.cons_append, unterminated_line hx, ih, unterminated_line hx]

/-- The lines of a stream begin with the lines of any prefix of it. -/
theorem prefix_completeLines_append (u v : Bytes) : completeLines u <+: completeLines (u ++ v) := by
  rw [completeLines_append]
  exact List.prefix_append _ _

/-! ## The cursor -/

namespace Framer

/-- The cursor's promise: it stays within the buffer, and the bytes it has passed hold no line
feed. -/
def Valid (f : Framer) : Prop := f.scanned ≤ f.buffer.length ∧ lineFeed ∉ f.buffer.take f.scanned

theorem valid_empty : ({} : Framer).Valid := by simp [Valid]

theorem valid_start (b : Bytes) : (⟨b, 0⟩ : Framer).Valid := by simp [Valid]

/-- Appending leaves the bytes the cursor has passed as they were. -/
theorem Valid.push {f : Framer} (h : f.Valid) (c : Bytes) : (f.push c).Valid := by
  obtain ⟨hle, hno⟩ := h
  refine ⟨?_, ?_⟩
  · simp only [Framer.push, List.length_append]
    omega
  · simpa [Framer.push, List.take_append_of_le_length hle] using hno

/-- With no line feed in the buffer there is no line, and the cursor moves to the end. -/
theorem nextLine_of_not_mem {f : Framer} (hb : lineFeed ∉ f.buffer) :
    f.nextLine = (none, { f with scanned := f.buffer.length }) := by
  have hnone : breakAtLineFeed (f.buffer.drop (min f.scanned f.buffer.length)) = none :=
    breakAtLineFeed_eq_none.2 fun hm => hb (List.mem_of_mem_drop hm)
  simp [nextLine, hnone]

/-- Under its promise the cursor stands at or before the first line feed of the buffer. -/
theorem Valid.scanned_le {f : Framer} (h : f.Valid) {x y : Bytes}
    (hb : f.buffer = x ++ lineFeed :: y) : f.scanned ≤ x.length := by
  refine Nat.le_of_not_lt fun hlt => h.2 ?_
  obtain ⟨k, hk⟩ : ∃ k, f.scanned = x.length + (k + 1) := ⟨f.scanned - x.length - 1, by omega⟩
  rw [hb, hk, List.take_length_add_append]
  simp

/-- **The cursor is a sound memo.** Under its promise, the line taken is the buffer up to its first
line feed, less one carriage return, and the buffer keeps what follows that line feed. -/
theorem nextLine_of_line {f : Framer} (h : f.Valid) {x y : Bytes} (hx : lineFeed ∉ x)
    (hb : f.buffer = x ++ lineFeed :: y) :
    f.nextLine = (some (dropCarriageReturn x), ⟨y, 0⟩) := by
  have hle := h.1
  have hlen : f.scanned ≤ x.length := h.scanned_le hb
  have hmin : min f.scanned f.buffer.length = f.scanned := Nat.min_eq_left hle
  have hbreak : breakAtLineFeed (f.buffer.drop f.scanned) = some (x.drop f.scanned, y) := by
    refine breakAtLineFeed_eq_some.2 ⟨?_, fun hm => hx (List.mem_of_mem_drop hm)⟩
    rw [hb, List.drop_append_of_le_length hlen]
  have htake : f.buffer.take f.scanned ++ x.drop f.scanned = x := by
    rw [hb, List.take_append_of_le_length hlen, List.take_append_drop]
  simp only [nextLine, hmin, hbreak, htake]

/-- What taking a line can do, for a framer that keeps its promise. -/
theorem nextLine_cases {f : Framer} (h : f.Valid) :
    (lineFeed ∉ f.buffer ∧ f.nextLine = (none, { f with scanned := f.buffer.length })) ∨
    ∃ x y, lineFeed ∉ x ∧ f.buffer = x ++ lineFeed :: y ∧
      f.nextLine = (some (dropCarriageReturn x), ⟨y, 0⟩) := by
  cases hb : breakAtLineFeed f.buffer with
  | none =>
    have hno := breakAtLineFeed_eq_none.1 hb
    exact .inl ⟨hno, nextLine_of_not_mem hno⟩
  | some p =>
    obtain ⟨hs, hx⟩ := breakAtLineFeed_eq_some.1 hb
    exact .inr ⟨p.1, p.2, hx, hs, nextLine_of_line h hx hs⟩

/-- Taking a line keeps the promise. -/
theorem Valid.nextLine {f : Framer} (h : f.Valid) : f.nextLine.2.Valid := by
  rcases nextLine_cases h with ⟨hno, hnl⟩ | ⟨x, y, -, -, hnl⟩
  · rw [hnl]
    exact ⟨Nat.le_refl _, by simpa using hno⟩
  · rw [hnl]
    exact valid_start y

/-- Finding no line leaves the buffer as it was, and then it holds no line feed. -/
theorem buffer_of_nextLine_none {f g : Framer} (h : f.Valid) (hn : f.nextLine = (none, g)) :
    g.buffer = f.buffer ∧ lineFeed ∉ f.buffer := by
  rcases nextLine_cases h with ⟨hno, hnl⟩ | ⟨x, y, -, -, hnl⟩
  · rw [hnl, Prod.mk.injEq] at hn
    rw [← hn.2]
    exact ⟨rfl, hno⟩
  · rw [hnl] at hn
    simp at hn

/-- A line taken is the buffer up to its first line feed, less one carriage return; the framer
keeps what follows that line feed. -/
theorem buffer_of_nextLine_some {f g : Framer} {line : Bytes} (h : f.Valid)
    (hs : f.nextLine = (some line, g)) :
    ∃ x, lineFeed ∉ x ∧ f.buffer = x ++ lineFeed :: g.buffer ∧ line = dropCarriageReturn x := by
  rcases nextLine_cases h with ⟨-, hnl⟩ | ⟨x, y, hx, hb, hnl⟩
  · rw [hnl] at hs
    simp at hs
  · rw [hnl, Prod.mk.injEq, Option.some.injEq] at hs
    obtain ⟨rfl, rfl⟩ := hs
    exact ⟨x, hx, hb, rfl⟩

/-! ## A framer part way through a stream -/

/-- The framer has been fed `taken` and has given out `lines`: the lines of what it holds are
the rest of the lines of `taken`, and it holds the line that `taken` leaves unterminated. -/
def Tracks (f : Framer) (taken : Bytes) (lines : List Bytes) : Prop :=
  completeLines taken = lines ++ completeLines f.buffer ∧ unterminated taken = unterminated f.buffer

theorem tracks_empty : ({} : Framer).Tracks [] [] := ⟨rfl, rfl⟩

theorem Tracks.prefix_completeLines {f : Framer} {taken : Bytes} {lines : List Bytes}
    (h : f.Tracks taken lines) : lines <+: completeLines taken := by
  rw [h.1]
  exact List.prefix_append _ _

/-- Feeding a chunk feeds it to the stream as well. -/
theorem Tracks.push {f : Framer} {taken : Bytes} {lines : List Bytes} (h : f.Tracks taken lines)
    (c : Bytes) : (f.push c).Tracks (taken ++ c) lines := by
  obtain ⟨hlines, hlast⟩ := h
  refine ⟨?_, ?_⟩
  · rw [completeLines_append, hlines, hlast, Framer.push, completeLines_append f.buffer c,
      List.append_assoc]
  · rw [unterminated_append, hlast, Framer.push, ← unterminated_append]

/-- Taking the line that stands first in the buffer hands out the next line of the stream. -/
theorem Tracks.nextLine {f g : Framer} {taken line : Bytes} {lines : List Bytes}
    (h : f.Tracks taken lines) (hv : f.Valid) (hs : f.nextLine = (some line, g)) :
    g.Tracks taken (lines ++ [line]) := by
  obtain ⟨x, hx, hb, rfl⟩ := buffer_of_nextLine_some hv hs
  obtain ⟨hlines, hlast⟩ := h
  rw [hb, completeLines_line hx] at hlines
  rw [hb, unterminated_line hx] at hlast
  exact ⟨by rw [hlines, List.append_assoc, List.singleton_append], hlast⟩

theorem Tracks.nextLine_none {f g : Framer} {taken : Bytes} {lines : List Bytes}
    (h : f.Tracks taken lines) (hv : f.Valid) (hn : f.nextLine = (none, g)) :
    g.Tracks taken lines := by
  rw [Tracks, (buffer_of_nextLine_none hv hn).1]
  exact h

/-! ## Taking every line -/

/-- The framer left once every line of `s` is taken: the pending bytes, all scanned. -/
def after (s : Bytes) : Framer := ⟨unterminated s, (unterminated s).length⟩

theorem after_nil : after [] = {} := rfl

theorem valid_after (s : Bytes) : (after s).Valid :=
  ⟨Nat.le_refl _, by simpa [after] using lineFeed_not_mem_unterminated s⟩

theorem drain_of_some {f g : Framer} {line : Bytes} (h : f.nextLine = (some line, g)) :
    f.drain = (line :: g.drain.1, g.drain.2) := by
  rw [drain]
  split <;> simp_all

theorem drain_of_none {f g : Framer} (h : f.nextLine = (none, g)) : f.drain = ([], g) := by
  rw [drain]
  split <;> simp_all

/-- **Taking every line.** A framer that keeps its promise gives the complete lines of its buffer
and is left with the bytes after the last line feed. -/
theorem drain_eq {f : Framer} (h : f.Valid) :
    f.drain = (completeLines f.buffer, after f.buffer) := by
  obtain ⟨b, scanned⟩ := f
  induction b using induction_on_lines generalizing scanned with
  | free b hb =>
    rw [drain_of_none (nextLine_of_not_mem hb)]
    simp [after, hb]
  | line x y hx ih =>
    rw [drain_of_some (nextLine_of_line h hx rfl), ih 0 (valid_start y)]
    simp [completeLines_line hx, after, unterminated_line hx]

theorem feed_eq {f : Framer} (h : f.Valid) (c : Bytes) :
    f.feed c = (completeLines (f.buffer ++ c), after (f.buffer ++ c)) :=
  drain_eq (h.push c)

/-- Chunk after chunk from a drained framer: the lines are those of the pending bytes and the
chunks together, and the framer is the one left by the whole stream. -/
theorem feedAll_after (p : Bytes) (cs : List Bytes) :
    ((after p).feedAll cs).1.flatten = completeLines (unterminated p ++ cs.flatten) ∧
    ((after p).feedAll cs).2 = after (p ++ cs.flatten) := by
  induction cs generalizing p with
  | nil =>
    simp [feedAll, lineFeed_not_mem_unterminated]
  | cons c cs ih =>
    obtain ⟨hlines, hlast⟩ := ih (unterminated p ++ c)
    have hfeed : (after p).feed c =
        (completeLines (unterminated p ++ c), after (unterminated p ++ c)) :=
      feed_eq (valid_after p) c
    simp only [feedAll, hfeed, List.flatten_cons]
    refine ⟨?_, ?_⟩
    · rw [hlines, ← completeLines_append, List.append_assoc]
    · rw [hlast, List.append_assoc, after, after, ← unterminated_append]

end Framer

/-- **Framing does not depend on how the stream is cut.** Fed chunk by chunk, a stream gives the
same lines and leaves the same framer as fed in one piece; the lines are the segments between
line feeds, all but the last, each less one carriage return at its end, and the buffer keeps
the last segment. -/
theorem framing_ignores_chunking (cs : List Bytes) :
    (Framer.feedAll {} cs).1.flatten = (Framer.feed {} cs.flatten).1 ∧
    (Framer.feedAll {} cs).2 = (Framer.feed {} cs.flatten).2 ∧
    (Framer.feed {} cs.flatten).1 = (segments cs.flatten).dropLast.map dropCarriageReturn ∧
    (Framer.feed {} cs.flatten).2.buffer =
      (segments cs.flatten).getLast (segments_ne_nil _) := by
  obtain ⟨hlines, hlast⟩ := Framer.feedAll_after [] cs
  have hwhole := Framer.feed_eq Framer.valid_empty cs.flatten
  rw [Framer.after_nil] at hlines hlast
  simp only [unterminated_of_not_mem List.not_mem_nil, List.nil_append] at hlines hlast
  refine ⟨?_, ?_, ?_, ?_⟩
  · rw [hlines, hwhole]
    rfl
  · rw [hlast, hwhole]
    rfl
  · rw [hwhole]
    rfl
  · rw [hwhole]
    rfl

/-! ## Any sequence of appends and takes -/

/-- What a consumer does to the framer: append a chunk to the buffer, or take a line. -/
inductive BufferOp where
  | append (chunk : Bytes)
  | takeLine

namespace Framer

/-- One operation on the framer. -/
def apply (f : Framer) : BufferOp → Framer
  | .append chunk => f.push chunk
  | .takeLine => f.nextLine.2

/-- Operations one after another. -/
def applyAll (f : Framer) (ops : List BufferOp) : Framer := ops.foldl apply f

theorem Valid.apply {f : Framer} (h : f.Valid) : ∀ op, (f.apply op).Valid
  | .append chunk => h.push chunk
  | .takeLine => h.nextLine

/-- Every sequence of operations keeps the cursor's promise. -/
theorem Valid.applyAll {f : Framer} (h : f.Valid) (ops : List BufferOp) : (f.applyAll ops).Valid := by
  induction ops generalizing f with
  | nil => exact h
  | cons op ops ih => exact ih (h.apply op)

end Framer

/-- Dropping a carriage return at the end either leaves a line that does not end with one, or
removes exactly that last byte. -/
theorem dropCarriageReturn_cases (x : Bytes) :
    (dropCarriageReturn x = x ∧ x.getLast? ≠ some carriageReturn) ∨
      dropCarriageReturn x ++ [carriageReturn] = x := by
  unfold dropCarriageReturn
  split
  · rename_i hcr
    obtain ⟨ys, rfl⟩ := List.getLast?_eq_some_iff.1 hcr
    exact .inr (by rw [List.dropLast_concat])
  · exact .inl ⟨rfl, ‹_›⟩

/-- **The scan cursor is a sound memo.** From a fresh cursor over any buffer, after any appends and
takes, the cursor stays within the buffer and the bytes it has passed hold no line feed. So the
next take answers as a search from the start of the buffer would: with no line feed in the
buffer, no line and the buffer unchanged; otherwise the bytes before the first line feed, less
one carriage return at their end, with that line feed consumed and the cursor back at the start.
The cursor stands at or before that line feed, so the cut there is within the buffer. -/
theorem cursor_sound_memo (b : Bytes) (ops : List BufferOp) :
    let f := (⟨b, 0⟩ : Framer).applyAll ops
    f.scanned ≤ f.buffer.length ∧ lineFeed ∉ f.buffer.take f.scanned ∧
    (lineFeed ∉ f.buffer → f.nextLine = (none, ⟨f.buffer, f.buffer.length⟩)) ∧
    (∀ x y, lineFeed ∉ x → f.buffer = x ++ lineFeed :: y →
      f.scanned ≤ x.length ∧ f.nextLine = (some (dropCarriageReturn x), ⟨y, 0⟩) ∧
      ((dropCarriageReturn x = x ∧ x.getLast? ≠ some carriageReturn) ∨
        dropCarriageReturn x ++ [carriageReturn] = x)) := by
  intro f
  have hv : f.Valid := (Framer.valid_start b).applyAll ops
  refine ⟨hv.1, hv.2, Framer.nextLine_of_not_mem, ?_⟩
  intro x y hx hb
  exact ⟨hv.scanned_le hb, Framer.nextLine_of_line hv hx hb, dropCarriageReturn_cases x⟩

end MetricsNode.Wire
