/-!
# Jaro similarity

How alike two strings are, from `0` (nothing in common) to `1` (equal), as used to suggest the
option a mistyped one was meant to be.

Two characters *match* when they are equal and no farther apart than half the longer length
minus one; each character of the second string matches at most once, the first free one in
range being taken. With `m` matches, of which `t` pairs stand in a different order
(transpositions, counted as half the mismatches of the matched characters read in order), the
similarity is

  `(m / |a| + m / |b| + (m - t) / m) / 3`,

computed in binary64 in that order, so that the comparison with a threshold such as `0.7`
comes out as it does in double arithmetic.
-/

namespace MetricsNode.Cli

/-- Marks the first free character of `b` that matches `c` within `[lo, hi)`; returns the new
flags, or none when no character matches. -/
def claimMatch (b : List Char) (flags : List Bool) (c : Char) (lo hi : Nat) : Option (List Bool) :=
  match (List.range (hi - lo)).find? (fun k => b.getD (lo + k) ' ' == c && !flags.getD (lo + k) true) with
  | some k => some (flags.set (lo + k) true)
  | none => none

/-- The Jaro similarity of two strings. -/
def jaro (a b : String) : Float :=
  let xs := a.toList
  let ys := b.toList
  if xs.isEmpty && ys.isEmpty then 1.0
  else if xs.isEmpty || ys.isEmpty then 0.0
  else
    let range := max xs.length ys.length / 2 - 1
    let (aFlags, bFlags) := (List.range xs.length).foldl (fun (af, bf) i =>
      let lo := i - range
      let hi := min ys.length (i + range + 1)
      match claimMatch ys bf (xs.getD i ' ') lo hi with
      | some bf' => (af.set i true, bf')
      | none => (af, bf)) (List.replicate xs.length false, List.replicate ys.length false)
    let aMatched := (List.range xs.length).filterMap fun i => if aFlags.getD i false then xs[i]? else none
    let bMatched := (List.range ys.length).filterMap fun j => if bFlags.getD j false then ys[j]? else none
    let m := aMatched.length
    if m == 0 then 0.0
    else
      let t := ((aMatched.zip bMatched).filter fun (x, y) => x != y).length / 2
      (m.toFloat / xs.length.toFloat + m.toFloat / ys.length.toFloat + (m - t).toFloat / m.toFloat) / 3.0

/-- The candidate most like `typed` with a similarity above `0.7`; among equally good ones the
last in order. -/
def mostSimilar (typed : String) (candidates : List String) : Option String :=
  (candidates.foldl (fun best c =>
    let score := jaro typed c
    if score > 0.7 then
      match best with
      | some (s, _) => if score < s then best else some (score, c)
      | none => some (score, c)
    else best) none).map (·.2)

end MetricsNode.Cli
