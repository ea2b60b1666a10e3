import MetricsNode.Plugin.Basic

/-!
# Configuration blocks

The answer to `config <plugin>`: the graph lines, one block of attribute lines per field, and
a final `.`.

A field may name another field as its *negative*: the two are drawn as one graph above and
below the axis. The fields named so (a field naming itself does not count) are the *targets*;
a target is not drawn on its own (`<n>.graph no`), and the targets' blocks come first. The
fields are split stably: targets in field order, then the others in field order.

The block of field `n` is `n.label <label>`, then `n.draw <token>` for a non-default style,
`n.warning` and `n.critical` for ranges with a bound, `n.negative <t>` when its negative `t` is
another field of the plugin, and `n.graph no` when `n` is a target.
-/

namespace MetricsNode

/-- The line that ends a block. -/
def endOfBlock : String := "."

namespace Plugin

/-- The names that some field gives as its negative, other than its own name. -/
def negativeTargets (p : Plugin) : List String :=
  p.fields.filterMap fun f =>
    match f.attributes.negative with
    | some t => if t.text == f.name then none else some t.text
    | none => none

/-- The attribute lines of one field. -/
def fieldLines (p : Plugin) (targets : List String) (f : Field) : List String :=
  let a := f.attributes
  let n := f.name
  [n ++ ".label " ++ a.label] ++
  (a.style.token.map (n ++ ".draw " ++ ·)).toList ++
  (a.warning.text?.map (n ++ ".warning " ++ ·)).toList ++
  (a.critical.text?.map (n ++ ".critical " ++ ·)).toList ++
  (match a.negative with
    | some t => if t.text != n && (p.field? t.text).isSome then [n ++ ".negative " ++ t.text] else []
    | none => []) ++
  (if targets.contains n then [n ++ ".graph no"] else [])

/-- The fields in block order: targets first, then the others, each group in field order. -/
def blockOrder (p : Plugin) : List Field :=
  let targets := p.negativeTargets
  p.fields.filter (fun f => targets.contains f.name) ++
    p.fields.filter (fun f => !targets.contains f.name)

/-- The configuration block of the plugin. -/
def configLines (p : Plugin) : List String :=
  let targets := p.negativeTargets
  p.graph.lines ++ (p.blockOrder.map (p.fieldLines targets)).flatten ++ [endOfBlock]

end Plugin

end MetricsNode
