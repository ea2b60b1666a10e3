import MetricsNode.Plugin.Error

/-!
# Field names and labels

A field name is an ASCII letter or underscore followed by ASCII letters, digits and
underscores; it is the first word of every attribute line of its field. A label is free text
shown to people, with three exceptions: it is not empty and holds neither `#` nor a backslash.

A name can also be derived from a label: the leading run of digits and underscores is cut
off, then every character that may not stand in a name is dropped. The result must still be a
name, so a label whose first kept character is a digit gives no name (`"#1a"` gives `"1a"`).
-/

namespace MetricsNode

open Text

/-- A character that may start a field name: an ASCII letter or the underscore. -/
def isNameStart (c : Char) : Bool := c.isAlpha || c == '_'

/-- A character that may stand in a field name: an ASCII letter, digit or the underscore. -/
def isNameChar (c : Char) : Bool := c.isAlphanum || c == '_'

/-- Whether a list of characters spells a field name. -/
def isNameChars : List Char → Bool
  | [] => false
  | c :: cs => isNameStart c && cs.all isNameChar

/-- Whether a text is a field name. -/
def isFieldName (s : String) : Bool := isNameChars s.toList

/-- A validated field name. -/
structure FieldName where
  /-- The name as text. -/
  text : String
  valid : isFieldName text = true
  deriving DecidableEq

namespace FieldName

instance : Repr FieldName := ⟨fun n _ => repr n.text⟩

/-- The reason given for a name that does not have the form of a name. -/
def malformedReason : String := "must match [a-zA-Z_][a-zA-Z0-9_]*"

/-- Checks a name: the empty name and a malformed name are refused with their reasons. -/
def ofString? (s : String) : Except PluginError FieldName :=
  if s.isEmpty then .error (.invalidFieldName s "field name cannot be empty")
  else if h : isFieldName s = true then .ok ⟨s, h⟩
  else .error (.invalidFieldName s malformedReason)

/-- The characters a label keeps when it becomes a name: the leading run of digits and
underscores goes, then every character that may not stand in a name. -/
def labelResidue (label : String) : List Char :=
  (label.toList.dropWhile (fun c => c.isDigit || c == '_')).filter isNameChar

/-- Derives a name from a label. -/
def ofLabel? (label : String) : Except PluginError FieldName :=
  ofString? (String.ofList (labelResidue label))

/-- Field names are ordered as their texts, character by character. -/
def compare (a b : FieldName) : Ordering := Ord.compare a.text b.text

/-- The name in inspection text. -/
def shape (n : FieldName) : Shape := .tuple "FieldName" [.quoted n.text]

end FieldName

/-- Checks a label: not empty, and neither `#` nor a backslash in it (the first such character
is reported). -/
def checkLabel (label : String) : Except PluginError Unit :=
  if label.isEmpty then .error (.invalidLabel label "label cannot be empty")
  else
    match label.toList.find? (fun c => c == '#' || c == '\\') with
    | some c => .error (.invalidLabel label ("invalid character '" ++ String.singleton c ++ "' in label"))
    | none => .ok ()

end MetricsNode
