import SidecarInjection.Schema.Decode
import SidecarInjection.Yaml.Value

/-!
# `SidecarInjection.Yaml.Typed`: reading typed objects from YAML

The shape decides what a scalar means: where a text is expected, every scalar is
one. A plain scalar without text stands for a collection without items. A record
is always a mapping, and a strict one names each of its fields once.
-/

set_option autoImplicit false

namespace SidecarInjection.Yaml

/-- Whether a scalar may be read as a value of a standard type. -/
def mayBe (name : String) (tag : Option Tag) (style : ScalarStyle) : Bool :=
  style = .plain || (style = .literal && tag = some (Scalar.standard name))

/-- Whether a node is a plain scalar without text. -/
def isVoid : Node → Bool
  | .scalar _ .plain text => text.isEmpty
  | _ => false

namespace Document

/-- The node, unless it stands for an absent value. -/
def present? (d : Document) (n : Node) : Reading (Option Node) := do
  let n ← d.resolve n
  match n with
  | .scalar tag .plain text =>
    match tag with
    | none => return if text.isEmpty || Scalar.isNull text then none else some n
    | some t =>
      if t = Scalar.standard "null" then
        if Scalar.isNull text then return none else failure
      else return some n
  | _ => return some n

/-- A whole number that a node writes. -/
def intValue (d : Document) (fits : Int → Bool) (n : Node) : Reading Json := do
  match ← d.resolve n with
  | .scalar tag style text =>
    if !mayBe "int" tag style then failure
    match (Scalar.int? text).filter fits with
    | some i => return .int i
    | none => failure
  | _ => failure

/-- A flag that a node writes. -/
def flagValue (d : Document) (n : Node) : Reading Json := do
  match ← d.resolve n with
  | .scalar tag style text =>
    if !mayBe "bool" tag style then failure
    match Scalar.flag? text with
    | some b => return .bool b
    | none => failure
  | _ => failure

/-- The items of a node that is a list. -/
def itemsOf (d : Document) (n : Node) : Reading (List Node) := do
  let n ← d.resolve n
  match n with
  | .sequence _ items => return items
  | n => if isVoid n then return [] else failure

/-- The entries of a node that is a mapping, with the texts of their keys. -/
def entriesOf (d : Document) (n : Node) : Reading (List (String × Node)) := do
  let n ← d.resolve n
  match n with
  | .mapping _ entries => entries.mapM fun e => do return (← d.scalarText e.1, e.2)
  | n => if isVoid n then return [] else failure

end Document

/-- Whether no text occurs twice. -/
def distinct : List String → Bool
  | [] => true
  | s :: rest => !rest.contains s && distinct rest

/-- Whether a field of this name is declared. -/
def Fields.declares : Fields → String → Bool
  | .nil, _ => false
  | .cons name _ _ rest, key => name = key || Fields.declares rest key

/-- The values that declared fields have before anything is read. -/
def Fields.initial : Fields → List (String × Option Json)
  | .nil => []
  | .cons name presence schema rest =>
    (name, if presence = .optional then none else some schema.default) :: Fields.initial rest

mutual

/-- The written form of the typed object that a node denotes. -/
def Schema.read (d : Document) : Schema → Node → Reading Json
  | .text, n => do return .str (← d.scalarText n)
  | .flag, n => d.flagValue n
  | .int32, n => d.intValue fits32 n
  | .int64, n => d.intValue fits64 n
  | .intOrText, n => do
    match ← d.nodeValue nestingLimit n with
    | .str s => return .str s
    | .int i => if fits32 i then return .int i else failure
    | _ => failure
  | .anything, n => d.nodeValue nestingLimit n
  | .constant value, n => do
    let s ← d.scalarText n
    if s = value then return .str s else failure
  | .list item, n => do return .arr (← (← d.itemsOf n).mapM fun i => Schema.read d item i)
  | .map value, n => do
    let entries ← d.entriesOf n
    let members ← entries.mapM fun e => do return (e.1, ← Schema.read d value e.2)
    return .obj (Dict.ofEntries members)
  | .record _ layout fields, n => do
    let entries ← d.entriesOf n
    let named := (entries.map Prod.fst).filter (Fields.declares fields)
    if layout != .lenient && !distinct named then failure
    let given ← entries.mapM fun e => Fields.readField d fields e.1 e.2
    return .obj (assemble fields given.flatten)
where
  /-- The members of a record: the last value read of each field, or its default. -/
  assemble (fields : Fields) (given : List (String × Option Json)) : Dict Json :=
    (Fields.initial fields).filterMap fun e =>
      ((given.reverse.lookup e.1).getD e.2).map fun v => (e.1, v)

/-- The value that a node gives to a declared field. A node under another name is
passed over. -/
def Fields.readField (d : Document) : Fields → String → Node →
    Reading (List (String × Option Json))
  | .nil, _, _ => return []
  | .cons name presence schema rest, key, n => do
    if name = key then
      match presence with
      | .defaulted => return [(name, some (← Schema.read d schema n))]
      | .required =>
        match ← d.present? n with
        | some n => return [(name, some (← Schema.read d schema n))]
        | none => return [(name, some schema.default)]
      | .optional =>
        match ← d.present? n with
        | some n => return [(name, some (← Schema.read d schema n))]
        | none => return [(name, none)]
    else Fields.readField d rest key n

end

/-- The written form of the typed object that a text denotes. The text holds at
most one document. A text without any stands for an empty collection. -/
def read? (schema : Schema) (text : String) : Option Json :=
  match documents text with
  | [some d] =>
    let root := d.root.getD (.scalar none .plain "")
    ((Schema.read d schema root).run 0).map Prod.fst
  | _ => none

end SidecarInjection.Yaml
