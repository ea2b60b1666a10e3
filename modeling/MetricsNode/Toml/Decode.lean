import MetricsNode.Toml.Document

/-!
# TOML: reading items as data

How a typed reader sees the items of a document:

* a string reads as text, an integer as a number;
* an array of values and an array of tables both read as sequences;
* a table and an inline table both read as maps;
* a date-time reads as a map with one private entry that no record field names, so reading it
  as a record with defaults gives the defaults;
* a record read from a map takes each field from its key, or its default when the key is
  missing, and ignores other keys;
* a record read from a sequence takes its fields in order, the missing ones from their
  defaults, and ignores further items.
-/

namespace MetricsNode.Toml

namespace Item

/-- The text of a string. -/
def text? : Item → Option String
  | .value (.string s) => some s
  | _ => none

/-- The value of an integer. -/
def integer? : Item → Option Int
  | .value (.integer i) => some i
  | _ => none

/-- An integer in `[0, bound)`, as for an unsigned field of that range. -/
def natBelow? (bound : Nat) (it : Item) : Option Nat := do
  let i ← it.integer?
  if 0 ≤ i && i < bound then some i.toNat else none

/-- The items of an array or an array of tables. -/
def sequence? : Item → Option (List Item)
  | .value (.array vs) => some (vs.map .value)
  | .tables ts => some (ts.map (.table .header ·))
  | _ => none

/-- The entries of a table, of an inline table, or of a date-time read as a map. The private
entry of a date-time is left out, since no record field names it. -/
def map? : Item → Option Entries
  | .table _ es => some es
  | .value (.table _ es) => some (es.map fun (k, v) => (k, .value v))
  | .value (.dateTime _) => some []
  | _ => none

end Item

/-- A record field read from a map: its value when the key is there, else the default. -/
def readField {α : Type} (es : Entries) (key : String) (default : α) (read : Item → Option α) :
    Option α :=
  match es.lookup key with
  | some it => read it
  | none => some default

/-- A record field read from a sequence: the item at its position when there is one, else the
default. -/
def readPosition {α : Type} (items : List Item) (index : Nat) (default : α)
    (read : Item → Option α) : Option α :=
  match items[index]? with
  | some it => read it
  | none => some default

end MetricsNode.Toml
