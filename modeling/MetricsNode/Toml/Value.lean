import MetricsNode.Toml.Scalar

/-!
# TOML: values

A value is a string, an integer, a float, a truth value, a date-time, an array of values, or an
inline table `{ k = v, … }`.

* Arrays may span lines and hold comments; items are separated by commas, and a comma may
  follow the last item.
* Inline tables stay on one line, with commas between pairs and none after the last. Dotted
  keys inside one build sub-tables; a key may not be given twice, a value may not be extended
  into a table, and a table written out `{ … }` may not be extended by dotted keys.
* Arrays and inline tables nest at most 127 deep.

A value starting with a digit or a sign is read as a date-time if it is one, else as a float if
it is one, else as an integer; `true`, `false`, `inf` and `nan` are read from their first
letter.

The readers of nested values take *fuel*: every call spends one unit, and along any chain of
calls the position in the input moves forward at least every second call, so twice the length
of the input and a little more is always enough.
-/

namespace MetricsNode.Toml

/-- A TOML value. In a table, `dotted` marks one created by dotted keys rather than written
out. -/
inductive Value where
  | string (s : String)
  | integer (i : Int)
  | float (f : FloatLiteral)
  | boolean (b : Bool)
  | dateTime (d : DateTime)
  | array (items : List Value)
  | table (dotted : Bool) (entries : List (String × Value))
  deriving Inhabited

/-- The deepest nesting of arrays and inline tables that is read. -/
def maxNesting : Nat := 127

/-- Replaces the entry of a key, or adds it at the end. -/
def setEntry {α : Type} (key : String) (v : α) : List (String × α) → List (String × α)
  | [] => [(key, v)]
  | (k, w) :: rest => if k == key then (k, v) :: rest else (k, w) :: setEntry key v rest

/-- Puts `key = v` into the entries of an inline table, under a dotted path. Missing tables on
the path are created as dotted; the table the pair lands in must be the inline table itself
(empty path) or one created by dotted keys. -/
def insertInline (key : String) (v : Value) :
    List String → List (String × Value) → Option (List (String × Value))
  | [], es => if es.any (·.1 == key) then none else some (es ++ [(key, v)])
  | p :: ps, es => do
    let (dotted, inner) ← match es.lookup p with
      | none => some (true, [])
      | some (.table d inner) => some (d, inner)
      | some _ => none
    if ps.isEmpty && !dotted then none
    else
      let inner' ← insertInline key v ps inner
      pure (setEntry p (.table dotted inner') es)

/-- Builds an inline table from its pairs, in order. -/
def inlineTable (pairs : List (List String × Value)) : Option Value :=
  (pairs.foldlM (fun (es : List (String × Value)) (pair : List String × Value) =>
    let (path, v) := pair
    match path.reverse with
    | key :: revPrefix => insertInline key v revPrefix.reverse es
    | [] => none) []).map (.table false)

/-- Reads a value that starts with a digit or a sign: a date-time, a float or an integer. -/
def readNumeric (cs : Input) : Option (Value × Input) :=
  match readDateTime cs with
  | some (d, r) => some (.dateTime d, r)
  | none =>
    match readFloat cs with
    | some (f, r) => some (.float f, r)
    | none => (readInteger cs).map fun (i, r) => (.integer i, r)

mutual

/-- Reads a value; `room` is how many more arrays and inline tables may open around it. -/
def readValue : (fuel : Nat) → (room : Nat) → Input → Option (Value × Input)
  | 0, _, _ => none
  | fuel + 1, room, cs =>
    match cs with
    | '"' :: _ | '\'' :: _ => (readString cs).map fun (s, r) => (.string s, r)
    | '[' :: rest => if room = 0 then none else readArrayItems fuel (room - 1) [] rest
    | '{' :: rest =>
      if room = 0 then none
      else match skipBlanks rest with
        | '}' :: r => some (.table false [], r)
        | r => readInlinePairs fuel (room - 1) [] r
    | 't' :: 'r' :: 'u' :: 'e' :: rest => some (.boolean true, rest)
    | 'f' :: 'a' :: 'l' :: 's' :: 'e' :: rest => some (.boolean false, rest)
    | 'i' :: _ | 'n' :: _ => (readFloat cs).map fun (f, r) => (.float f, r)
    | c :: _ => if isDigitChar c || c == '+' || c == '-' then readNumeric cs else none
    | [] => none

/-- Reads the items of an array, at the start or after a comma; `acc` holds the items read so
far, last first. -/
def readArrayItems : (fuel : Nat) → (room : Nat) → List Value → Input → Option (Value × Input)
  | 0, _, _, _ => none
  | fuel + 1, room, acc, cs =>
    match skipLayout false cs with
    | ']' :: r => some (.array acc.reverse, r)
    | cs' => do
      let (v, r) ← readValue fuel room cs'
      match skipLayout false r with
      | ',' :: r' => readArrayItems fuel room (v :: acc) r'
      | ']' :: r' => some (.array (v :: acc).reverse, r')
      | _ => none

/-- Reads the pairs of an inline table, at the first pair or after a comma; `acc` holds the
pairs read so far, last first. -/
def readInlinePairs : (fuel : Nat) → (room : Nat) → List (List String × Value) → Input →
    Option (Value × Input)
  | 0, _, _, _ => none
  | fuel + 1, room, acc, cs => do
    let (path, r) ← readKey cs
    let r ← expect '=' r
    let (v, r) ← readValue fuel room (skipBlanks r)
    match skipBlanks r with
    | ',' :: r' => readInlinePairs fuel room ((path, v) :: acc) r'
    | '}' :: r' => (inlineTable ((path, v) :: acc).reverse).map (·, r')
    | _ => none

end

/-- Reads a value with enough fuel for the whole input. -/
def readTopValue (cs : Input) : Option (Value × Input) :=
  readValue (2 * cs.length + 4) maxNesting cs

end MetricsNode.Toml
