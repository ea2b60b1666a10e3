import MetricsNode.Text.Unicode
import MetricsNode.Decimal.Text

/-!
# Inspection text

Values of this library can be written as *inspection text*, a debugging view that names each
record and its fields: `ValueRange { min: Some(0.0), max: None }`. The view is built in two
steps. A value is first turned into a `Shape` (a record, a tuple, a list, a string literal or
verbatim text); one printer then writes every shape.

String literals are written in double quotes. Inside them a backslash, a double quote, a tab, a
carriage return, a line feed and NUL are written with a backslash (`\\`, `\"`, `\t`, `\r`, `\n`,
`\0`); a character that cannot be shown, or that would attach to the character before it, is
written as `\u{hex}` with lowercase hex digits and no leading zeros; every other character is
written as it is (the single quote included).
-/

namespace MetricsNode.Text

/-- Lowercase hexadecimal digits of a number, without leading zeros. -/
def hexDigits (n : Nat) : String := String.ofList (Nat.toDigits 16 n)

/-- How one character is written inside a string literal. -/
def escapeChar (c : Char) : String :=
  if c = '\x00' then "\\0"
  else if c = '\t' then "\\t"
  else if c = '\r' then "\\r"
  else if c = '\n' then "\\n"
  else if c = '\\' then "\\\\"
  else if c = '"' then "\\\""
  else if isGraphemeExtend c || !isShown c then "\\u\x7b" ++ hexDigits c.toNat ++ "\x7d"
  else String.singleton c

/-- A string literal: the escaped characters between double quotes. -/
def quote (s : String) : String :=
  "\"" ++ String.join (s.toList.map escapeChar) ++ "\""

/-- The shape of a value in inspection text. -/
inductive Shape where
  /-- Text written as it is. -/
  | text (s : String)
  /-- A string literal. -/
  | quoted (s : String)
  /-- A record with named fields; `elided` marks fields left out (written `..`). -/
  | record (name : String) (fields : List (String × Shape)) (elided : Bool)
  /-- A named tuple of values. -/
  | tuple (name : String) (items : List Shape)
  /-- A list of values. -/
  | list (items : List Shape)
  deriving Inhabited

mutual
/-- Writes a shape. -/
def Shape.render : Shape → String
  | .text s => s
  | .quoted s => quote s
  | .record name [] false => name
  | .record name [] true => name ++ " \x7b .. \x7d"
  | .record name fields elided =>
    name ++ " \x7b " ++ Shape.renderFields fields ++ (if elided then ", .. \x7d" else " \x7d")
  | .tuple name items => name ++ "(" ++ Shape.renderItems items ++ ")"
  | .list items => "[" ++ Shape.renderItems items ++ "]"

/-- Writes the fields of a record, separated by commas. -/
def Shape.renderFields : List (String × Shape) → String
  | [] => ""
  | [(k, v)] => k ++ ": " ++ v.render
  | (k, v) :: rest => k ++ ": " ++ v.render ++ ", " ++ Shape.renderFields rest

/-- Writes values separated by commas. -/
def Shape.renderItems : List Shape → String
  | [] => ""
  | [v] => v.render
  | v :: rest => v.render ++ ", " ++ Shape.renderItems rest
end

/-- An optional value: `Some(x)` or `None`. -/
def Shape.option : Option Shape → Shape
  | some s => .tuple "Some" [s]
  | none => .text "None"

/-- A double in inspection text. -/
def Shape.float (x : Float) : Shape := .text (Decimal.inspectText x)

/-- A number. -/
def Shape.nat (n : Nat) : Shape := .text (toString n)

/-- A truth value. -/
def Shape.bool (b : Bool) : Shape := .text (if b then "true" else "false")

/-- A list of string literals. -/
def Shape.strings (xs : List String) : Shape := .list (xs.map .quoted)

end MetricsNode.Text
