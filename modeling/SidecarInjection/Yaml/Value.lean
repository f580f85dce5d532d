import SidecarInjection.Yaml.Parser
import SidecarInjection.Yaml.Scalar

/-!
# `SidecarInjection.Yaml.Value`: from documents to JSON values

Aliases are replaced by the nodes they name. How deep collections may lie in one
another, and how often aliases may be followed, is limited, so a document that
contains itself is refused.
-/

set_option autoImplicit false

namespace SidecarInjection.Yaml

/-- A reading that counts the aliases it has followed, and may fail. -/
abbrev Reading (α : Type) := StateT Nat Option α

/-- How deep collections may lie in one another. -/
def nestingLimit : Nat := 128

/-- How many aliases may be followed, for each event of the document. -/
def aliasFactor : Nat := 100

namespace Document

/-- The node itself, or the one that an alias names. -/
def resolve (d : Document) : Node → Reading Node
  | .alias anchor => do
    modify (· + 1)
    if d.events * aliasFactor < (← get) then failure
    match d.target? anchor with
    | some node => return node
    | none => failure
  | node => return node

/-- The text of a scalar, whatever its style and tag. -/
def scalarText (d : Document) (n : Node) : Reading String := do
  match ← d.resolve n with
  | .scalar _ _ text => return text
  | _ => failure

/-- The value of a node at a depth that allows this many levels of collections.
The last entry of a key counts. -/
def nodeValue (d : Document) : Nat → Node → Reading Json
  | depth, n => do
    match depth, ← d.resolve n with
    | _, .scalar tag style text =>
      match Scalar.value? tag style text with
      | some v => return v
      | none => failure
    | depth + 1, .sequence tag items =>
      if Scalar.isLocal tag then failure
      return .arr (← items.mapM (d.nodeValue depth))
    | depth + 1, .mapping tag entries =>
      if Scalar.isLocal tag then failure
      let members ← entries.mapM fun e => do
        let key ← d.scalarText e.1
        let value ← d.nodeValue depth e.2
        return (key, value)
      return .obj (Dict.ofEntries members)
    | _, _ => failure

/-- The value of a document. A document without a root is `null`. -/
def value? (d : Document) : Option Json :=
  match d.root with
  | none => some .null
  | some n => ((d.nodeValue nestingLimit n).run 0).map Prod.fst

end Document

/-- The values of the documents of a text. The last one is absent where the text
cannot be read on, and others where they have no JSON form. -/
def values (text : String) : List (Option Json) := (documents text).map fun d =>
  d.bind Document.value?

end SidecarInjection.Yaml
