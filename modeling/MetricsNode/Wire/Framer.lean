import MetricsNode.Wire.Utf8

/-!
# Line framing

The peer's bytes arrive in chunks of any size; commands are lines. A line ends with a line
feed, and one carriage return right before it is not part of the line. Bytes after the last
line feed wait in the buffer for the next chunk, so a line split across chunks is read as if
it had come in one piece.

The framer keeps a *scan cursor*: the number of buffered bytes already known to hold no line
feed, so that a search after a new chunk starts where the last one stopped. Taking a line
resets it; finding none sets it to the buffer's length.

Going out, each line of an answer is written followed by a line feed.
-/

namespace MetricsNode.Wire

/-- The line feed byte. -/
def lineFeed : UInt8 := 10

/-- The carriage return byte. -/
def carriageReturn : UInt8 := 13

/-- Splits at the first line feed: the bytes before it and the bytes after it. -/
def breakAtLineFeed : Bytes → Option (Bytes × Bytes)
  | [] => none
  | b :: rest =>
    if b = lineFeed then some ([], rest)
    else (breakAtLineFeed rest).map fun (x, y) => (b :: x, y)

/-- Removes one carriage return at the end. -/
def dropCarriageReturn (line : Bytes) : Bytes :=
  if line.getLast? = some carriageReturn then line.dropLast else line

/-- The inbound buffer and the scan cursor. -/
structure Framer where
  buffer : Bytes := []
  scanned : Nat := 0
  deriving DecidableEq, Repr, Inhabited

namespace Framer

/-- Appends a chunk to the buffer. -/
def push (f : Framer) (chunk : Bytes) : Framer := { f with buffer := f.buffer ++ chunk }

/-- Takes the next complete line out of the buffer, searching from the cursor. -/
def nextLine (f : Framer) : Option Bytes × Framer :=
  let start := min f.scanned f.buffer.length
  match breakAtLineFeed (f.buffer.drop start) with
  | none => (none, { f with scanned := f.buffer.length })
  | some (x, y) => (some (dropCarriageReturn (f.buffer.take start ++ x)), ⟨y, 0⟩)

theorem breakAtLineFeed_length {bs x y : Bytes} (h : breakAtLineFeed bs = some (x, y)) :
    y.length < bs.length := by
  induction bs generalizing x with
  | nil => simp [breakAtLineFeed] at h
  | cons b rest ih =>
    simp only [breakAtLineFeed] at h
    split at h
    · simp only [Option.some.injEq, Prod.mk.injEq] at h
      obtain ⟨-, rfl⟩ := h
      simp
    · obtain ⟨⟨x', y'⟩, h', he⟩ := Option.map_eq_some_iff.1 h
      simp only [Prod.mk.injEq] at he
      obtain ⟨-, rfl⟩ := he
      have := ih h'
      simp only [List.length_cons]
      omega

theorem nextLine_shrinks {f g : Framer} {line : Bytes} (h : f.nextLine = (some line, g)) :
    g.buffer.length < f.buffer.length := by
  unfold nextLine at h
  simp only at h
  split at h
  · simp at h
  · rename_i x y hb
    simp only [Prod.mk.injEq, Option.some.injEq] at h
    obtain ⟨-, rfl⟩ := h
    have := breakAtLineFeed_length hb
    simp only [List.length_drop] at this
    dsimp only
    omega

/-- Takes every complete line out of the buffer, in order. -/
def drain (f : Framer) : List Bytes × Framer :=
  match h : f.nextLine with
  | (some line, g) =>
    have := nextLine_shrinks h
    let (ls, g') := g.drain
    (line :: ls, g')
  | (none, g) => ([], g)
termination_by f.buffer.length

/-- Appends a chunk and takes out every complete line. -/
def feed (f : Framer) (chunk : Bytes) : List Bytes × Framer := (f.push chunk).drain

/-- The lines of each chunk in turn, and the framer after the last one. -/
def feedAll (f : Framer) : List Bytes → List (List Bytes) × Framer
  | [] => ([], f)
  | c :: cs =>
    let (ls, g) := f.feed c
    let (rest, h) := g.feedAll cs
    (ls :: rest, h)

/-- The lines each chunk completes in turn, each with the framer right after it. -/
def trace (f : Framer) : List Bytes → List (List Bytes × Framer)
  | [] => []
  | c :: cs =>
    let (ls, g) := f.feed c
    (ls, g) :: g.trace cs

/-- The framer in inspection text. -/
def text (f : Framer) : String := "LineFramer \x7b scanned: " ++ toString f.scanned ++ " \x7d"

end Framer

/-- The bytes of an answer: each line followed by a line feed. -/
def encodeLines (lines : List String) : Bytes :=
  lines.flatMap fun l => encodeUtf8 l ++ [lineFeed]

end MetricsNode.Wire
