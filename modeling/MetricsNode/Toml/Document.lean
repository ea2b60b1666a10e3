import MetricsNode.Toml.Value

/-!
# TOML: documents

A document is lines of key/value pairs, table headers `[a.b]` and array-of-tables headers
`[[a.b]]`, with blank lines and comments between them. It reads into a tree of *items*: values,
tables, and arrays of tables.

## Tables and where they come from

A table is *defined* by a header, *created on the way* by a header that names a table below it,
or *created by dotted keys*. The rules of TOML 1.0 on redefinition come down to these origins:

* a header may reopen a table only if that table was created on the way by another header;
* a dotted key may go through tables created on the way or by dotted keys, but not through a
  table defined by a header, and the pair it sets must land in a table created by dotted keys;
* no key is set twice, and no value (an inline table included) is extended;
* `[[a]]` appends a table to the array of tables `a`, and a header below `a` then goes to its
  last table.

## The reading state

Pairs go to the *current table*, which is held apart from the tree until the next header (or the
end of the text) puts it back: this is why a pair never reaches a table outside the current one.
The current table before the first header is the root.
-/

namespace MetricsNode.Toml

/-- How a table came to be. -/
inductive Origin where
  /-- Defined by a header, or the root, or a table of an array of tables. -/
  | header
  /-- Created on the way to a table named by a header. -/
  | onTheWay
  /-- Created by a dotted key. -/
  | dotted
  deriving DecidableEq, Repr, Inhabited

/-- An entry of a document: a value, a table, or an array of tables. -/
inductive Item where
  | value (v : Value)
  | table (origin : Origin) (entries : List (String × Item))
  | tables (elements : List (List (String × Item)))
  deriving Inhabited

/-- The entries of a table. -/
abbrev Entries := List (String × Item)

/-- Changes the table at `path` below a table of origin `origin` and entries `es`: `f` gets
the origin and entries of the target and returns its new entries and a result. Missing tables
on the path are created, as dotted when `dotted`, else as created on the way; an array of tables
leads to its last table; a value on the path is an error, and so is a table defined by a header
when the path is one of dotted keys. -/
def modifyAt {β : Type} (dotted : Bool) (f : Origin → Entries → Option (Entries × β)) :
    List String → Origin → Entries → Option (Entries × β)
  | [], origin, es => f origin es
  | p :: ps, _, es =>
    match es.lookup p with
    | none => do
      let o := if dotted then Origin.dotted else .onTheWay
      let (inner, b) ← modifyAt dotted f ps o []
      pure (es ++ [(p, .table o inner)], b)
    | some (.value _) => none
    | some (.tables elements) =>
      match elements.getLast? with
      | none => none
      | some last => do
        let (inner, b) ← modifyAt dotted f ps .header last
        pure (setEntry p (.tables (elements.dropLast ++ [inner])) es, b)
    | some (.table o inner) =>
      if dotted && o == .header then none
      else do
        let (inner', b) ← modifyAt dotted f ps o inner
        pure (setEntry p (.table o inner') es, b)

/-- The state of reading a document: the tree without the current table, the current table and
its path, and whether it belongs to an array of tables. -/
structure Reading where
  root : Entries := []
  current : Entries := []
  path : List String := []
  inArray : Bool := false
  deriving Inhabited

namespace Reading

/-- Sets `key = v` in the current table under a dotted path. -/
def assign (st : Reading) (path : List String) (key : String) (v : Value) : Option Reading := do
  let (current, ()) ← modifyAt true (fun o es =>
    if (o == .dotted) == path.isEmpty then none
    else if es.any (·.1 == key) then none
    else some (es ++ [(key, .value v)], ())) path .header st.current
  pure { st with current }

/-- Puts the current table back into the tree. -/
def close (st : Reading) : Option Entries :=
  match st.path.reverse with
  | [] => some st.current
  | key :: revPrefix =>
    let parent := revPrefix.reverse
    let put := fun (_ : Origin) (es : Entries) =>
      if st.inArray then
        match es.lookup key with
        | none => some (setEntry key (.tables [st.current]) es, ())
        | some (.tables ts) => some (setEntry key (.tables (ts ++ [st.current])) es, ())
        | some _ => none
      else
        match es.lookup key with
        | none => some (es ++ [(key, .table .header st.current)], ())
        | some (.table o _) =>
          if o == .header then none else some (setEntry key (.table .header st.current) es, ())
        | some _ => none
    (modifyAt false put parent .header st.root).map (·.1)

/-- Opens the table of a header `[path]`. A table created on the way is taken out of the tree
to become the current one; any other item under that name is an error. -/
def openTable (st : Reading) (path : List String) : Option Reading := do
  let root ← st.close
  match path.reverse with
  | [] => none
  | key :: revPrefix =>
    let (root, current) ← modifyAt false (fun _ es =>
      match es.lookup key with
      | none => some (es, [])
      | some (.table .onTheWay inner) => some (es.filter (·.1 != key), inner)
      | some _ => none) revPrefix.reverse .header root
    pure { root, current, path, inArray := false }

/-- Opens a new table of the array of tables of a header `[[path]]`. -/
def openArrayTable (st : Reading) (path : List String) : Option Reading := do
  let root ← st.close
  match path.reverse with
  | [] => none
  | key :: revPrefix =>
    let (root, ()) ← modifyAt false (fun _ es =>
      match es.lookup key with
      | none => some (es ++ [(key, .tables [])], ())
      | some (.tables _) => some (es, ())
      | some _ => none) revPrefix.reverse .header root
    pure { root, current := [], path, inArray := true }

end Reading

/-- Reads a key/value line into the state. -/
def readPair (st : Reading) (cs : Input) : Option (Reading × Input) := do
  let (path, r) ← readKey cs
  let r ← expect '=' r
  let (v, r) ← readTopValue (skipBlanks r)
  let r ← readLineEnd r
  match path.reverse with
  | key :: revPrefix => pure (← st.assign revPrefix.reverse key v, r)
  | [] => none

/-- Reads the lines of a document; every line takes at least one character, so the length of
the input is enough fuel. -/
def readLines : Nat → Reading → Input → Option Reading
  | 0, _, _ => none
  | fuel + 1, st, cs =>
    match skipBlanks cs with
    | [] => some st
    | '#' :: rest => (readLineEnd ('#' :: rest)).bind (readLines fuel st)
    | '\n' :: rest => readLines fuel st rest
    | '\r' :: rest => (readNewline ('\r' :: rest)).bind (readLines fuel st)
    | '[' :: '[' :: rest => do
      let (path, r) ← readKey rest
      let r ← expect ']' r
      let r ← expect ']' r
      let r ← readLineEnd r
      readLines fuel (← st.openArrayTable path) r
    | '[' :: rest => do
      let (path, r) ← readKey rest
      let r ← expect ']' r
      let r ← readLineEnd r
      readLines fuel (← st.openTable path) r
    | line => do
      let (st, r) ← readPair st line
      readLines fuel st r

/-- Drops a byte order mark at the start of a text. -/
def dropByteOrderMark : Input → Input
  | '\uFEFF' :: rest => rest
  | cs => cs

/-- Reads a TOML document into the entries of its root table, or `none` when the text is not
TOML. -/
def parseDocument (s : String) : Option Entries := do
  let cs := dropByteOrderMark s.toList
  let st ← readLines (cs.length + 1) {} cs
  st.close

end MetricsNode.Toml
