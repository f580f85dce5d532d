import SidecarInjection.Dict
import SidecarInjection.Yaml.Token

/-!
# `SidecarInjection.Yaml.Node`: the tree of a YAML document
-/

set_option autoImplicit false

namespace SidecarInjection.Yaml

/-- A node of a document. An alias holds the number of the anchor it names. -/
inductive Node where
  | scalar (tag : Option Tag) (style : ScalarStyle) (text : String)
  | sequence (tag : Option Tag) (items : List Node)
  | mapping (tag : Option Tag) (entries : List (Node × Node))
  | alias (anchor : Nat)
  deriving Repr, Inhabited

/-- A document of a stream. -/
structure Document where
  /-- There is no root in a stream without any document. -/
  root : Option Node
  /-- The number of events a reader of the document sees. -/
  events : Nat
  /-- The anchored nodes, by the numbers of their anchors. -/
  anchored : List (Nat × Node)
  deriving Inhabited

/-- The node of an anchor number. -/
def Document.target? (d : Document) (anchor : Nat) : Option Node := d.anchored.lookup anchor

end SidecarInjection.Yaml
