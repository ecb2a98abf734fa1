import TorznabGateway.Indexer.Capabilities
import TorznabGateway.Xml

/-!
# The capabilities document

The XML that describes what a set of indexers can do.
-/
namespace TorznabGateway.CapsDocument

open Text

/-- The version that the document states. -/
def serverVersion : String := "0.1.0"

/-- The element of a mode. -/
def modeEvent (m : SearchMode) : Xml.Event :=
  .empty m.function.capsElement
    [("available", if m.available then "yes" else "no"),
     ("supportedParams", joinTexts "," m.parameters)]

/-- The element of a category. -/
def categoryEvent (c : Category) : Xml.Event :=
  .empty "category" [("id", Decimal.render c.id), ("name", c.name)]

/-- The events of the document. -/
def events (title : String) (caps : Capabilities) : List Xml.Event :=
  .declaration :: Xml.element "caps" []
    ([.empty "server" [("version", serverVersion), ("title", title)],
      .empty "limits" [("max", Decimal.render caps.limits.max),
        ("default", Decimal.render caps.limits.default)]]
      ++ Xml.element "searching" [] (caps.modes.map modeEvent)
      ++ Xml.element "categories" [] (caps.categories.map categoryEvent))

/-- The text of the document. -/
def render (title : String) (caps : Capabilities) : String :=
  Xml.render (events title caps)

end TorznabGateway.CapsDocument
