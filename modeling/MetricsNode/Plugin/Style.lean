import MetricsNode.Plugin.Name

/-!
# Drawing styles and value ranges

How a field is drawn (`<field>.draw`) and the ranges of normal values that its `warning` and
`critical` attributes give. A range has an optional lower and an optional upper bound and is
written `min:max`, `min:` or `:max` with the bounds as wire numbers; a range without bounds is
not written at all. Bounds are not checked against each other.
-/

namespace MetricsNode

open Text

/-- How a field is drawn on its graph. -/
inductive DrawStyle where
  | default
  | area
  | stack
  | areaStack
  | line
  | lineWidth1
  | lineWidth2
  | lineWidth3
  | lineStack
  | lineStackWidth1
  | lineStackWidth2
  | lineStackWidth3
  deriving DecidableEq, Repr, Inhabited

namespace DrawStyle

/-- Every style, in declaration order. -/
def all : List DrawStyle :=
  [.default, .area, .stack, .areaStack, .line, .lineWidth1, .lineWidth2, .lineWidth3,
    .lineStack, .lineStackWidth1, .lineStackWidth2, .lineStackWidth3]

/-- The word of the `draw` attribute; the default style leaves the choice to the grapher and
has none. -/
def token : DrawStyle → Option String
  | .default => none
  | .area => some "AREA"
  | .stack => some "STACK"
  | .areaStack => some "AREASTACK"
  | .line => some "LINE"
  | .lineWidth1 => some "LINE1"
  | .lineWidth2 => some "LINE2"
  | .lineWidth3 => some "LINE3"
  | .lineStack => some "LINESTACK"
  | .lineStackWidth1 => some "LINE1STACK"
  | .lineStackWidth2 => some "LINE2STACK"
  | .lineStackWidth3 => some "LINE3STACK"

/-- The name of the style in inspection text. -/
def name : DrawStyle → String
  | .default => "Default"
  | .area => "Area"
  | .stack => "Stack"
  | .areaStack => "AreaStack"
  | .line => "Line"
  | .lineWidth1 => "LineWidth1"
  | .lineWidth2 => "LineWidth2"
  | .lineWidth3 => "LineWidth3"
  | .lineStack => "LineStack"
  | .lineStackWidth1 => "LineStackWidth1"
  | .lineStackWidth2 => "LineStackWidth2"
  | .lineStackWidth3 => "LineStackWidth3"

/-- The style with a given inspection name. -/
def ofName? (s : String) : Option DrawStyle := all.find? (·.name == s)

end DrawStyle

/-- A range of normal values, each bound optional. -/
structure ValueRange where
  min : Option Float := none
  max : Option Float := none
  deriving Inhabited

namespace ValueRange

/-- The range with neither bound. -/
def none : ValueRange := {}

/-- Whether the range has at least one bound. -/
def isSet (r : ValueRange) : Bool := r.min.isSome || r.max.isSome

/-- The attribute value of the range: `min:max`, `min:` or `:max`, nothing without bounds. -/
def text? (r : ValueRange) : Option String :=
  match r.min, r.max with
  | some lo, some hi => some (Decimal.plainText lo ++ ":" ++ Decimal.plainText hi)
  | some lo, Option.none => some (Decimal.plainText lo ++ ":")
  | Option.none, some hi => some (":" ++ Decimal.plainText hi)
  | Option.none, Option.none => Option.none

/-- The range in inspection text. -/
def shape (r : ValueRange) : Shape :=
  .record "ValueRange" [("min", .option (r.min.map .float)), ("max", .option (r.max.map .float))]
    false

end ValueRange

end MetricsNode
