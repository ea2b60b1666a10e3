import MetricsNode.Plugin.Style
import MetricsNode.Time.Duration

/-!
# Graph attributes

The `graph_*` lines of a plugin's configuration block. Every attribute but the title is
optional and is written only when present; the title is written when it is not empty, the
field order when it names at least one field. The lines come in a fixed order: title,
category, vertical label, scale, arguments, period, update rate (whole seconds), width,
height, order, total. Values are written as they are, without any escaping.
-/

namespace MetricsNode

open Text

/-- The time unit of a graph's rates. -/
inductive GraphPeriod where
  | second
  | minute
  | hour
  deriving DecidableEq, Repr, Inhabited

namespace GraphPeriod

/-- The word written after `graph_period`. -/
def word : GraphPeriod → String
  | .second => "second"
  | .minute => "minute"
  | .hour => "hour"

/-- The name of the period in inspection text. -/
def name : GraphPeriod → String
  | .second => "Second"
  | .minute => "Minute"
  | .hour => "Hour"

/-- The period a word names. -/
def ofWord? : String → Option GraphPeriod
  | "second" => some .second
  | "minute" => some .minute
  | "hour" => some .hour
  | _ => none

end GraphPeriod

/-- The graph-level attributes of a plugin. -/
structure GraphAttributes where
  title : String := ""
  category : Option String := none
  verticalLabel : Option String := none
  scale : Option Bool := none
  arguments : Option String := none
  period : Option GraphPeriod := none
  updateRate : Option Duration := none
  width : Option UInt32 := none
  height : Option UInt32 := none
  order : List FieldName := []
  totalLabel : Option String := none
  deriving Inhabited

namespace GraphAttributes

/-- The `graph_*` lines, in their fixed order. -/
def lines (g : GraphAttributes) : List String :=
  (if g.title.isEmpty then [] else ["graph_title " ++ g.title]) ++
  (g.category.map ("graph_category " ++ ·)).toList ++
  (g.verticalLabel.map ("graph_vlabel " ++ ·)).toList ++
  (g.scale.map (fun b => "graph_scale " ++ if b then "yes" else "no")).toList ++
  (g.arguments.map ("graph_args " ++ ·)).toList ++
  (g.period.map (fun p => "graph_period " ++ p.word)).toList ++
  (g.updateRate.map (fun d => "update_rate " ++ toString d.secs.toNat)).toList ++
  (g.width.map (fun w => "graph_width " ++ toString w.toNat)).toList ++
  (g.height.map (fun h => "graph_height " ++ toString h.toNat)).toList ++
  (if g.order.isEmpty then []
    else ["graph_order " ++ " ".intercalate (g.order.map (·.text))]) ++
  (g.totalLabel.map ("graph_total " ++ ·)).toList

/-- The attributes in inspection text. -/
def shape (g : GraphAttributes) : Shape :=
  .record "GraphAttributes" [
    ("title", .quoted g.title),
    ("category", .option (g.category.map .quoted)),
    ("vertical_label", .option (g.verticalLabel.map .quoted)),
    ("scale", .option (g.scale.map .bool)),
    ("arguments", .option (g.arguments.map .quoted)),
    ("period", .option (g.period.map (fun p => .text p.name))),
    ("update_rate", .option (g.updateRate.map (fun d => .text d.text))),
    ("width", .option (g.width.map (fun w => .nat w.toNat))),
    ("height", .option (g.height.map (fun h => .nat h.toNat))),
    ("order", .list (g.order.map FieldName.shape)),
    ("total_label", .option (g.totalLabel.map .quoted))] false

end GraphAttributes

end MetricsNode
