import MetricsNode.Plugin.Config

/-!
# The uptime plugin

The one plugin a node serves by itself: how long the node has been running, in minutes, drawn
as an area in the `system` category and labelled with the host name. The host name must be a
valid label, so a host name with `#` or a backslash gives no uptime plugin.
-/

namespace MetricsNode

/-- The name of the uptime plugin and of its one field. -/
def uptimeName : String := "uptime"

/-- The graph attributes of the uptime plugin of a host. -/
def uptimeGraph (hostname : String) : GraphAttributes :=
  { title := "Uptime of " ++ hostname
    category := some "system"
    verticalLabel := some "Uptime [minutes]"
    scale := some false
    arguments := some "--base 1000 --lower-limit 0" }

/-- The uptime plugin of a host that has been running for `minutes`. -/
def uptimePlugin (hostname : String) (minutes : Float) : Except PluginError Plugin := do
  let name ← FieldName.ofString? uptimeName
  let attrs ← FieldAttributes.new? name hostname
  let field : Field := ⟨{ attrs with style := .area }, ⟨.ok (some minutes), none⟩⟩
  Plugin.new? uptimeName (uptimeGraph hostname) [field]

end MetricsNode
