import SidecarInjection.Decimal.Shortest
import SidecarInjection.Schema.Basic
import SidecarInjection.Text.Visible

/-!
# `SidecarInjection.Schema.Decode`: reading typed objects from JSON

`Schema.decode` turns a JSON value into the written form of the shape. Members
that are not declared are dropped, and so are optional members that are `null`.
Fields are read in ascending order of their names, depth first, and the first
failure is the answer.
-/

set_option autoImplicit false

namespace SidecarInjection

/-- What a decoder met instead of the expected value. -/
inductive Found where
  | null
  | bool (b : Bool)
  | int (n : Int)
  | float (x : Decimal.Double)
  | text (s : String)
  | sequence
  | map
  deriving Repr

/-- The kind of a JSON value. -/
def Found.ofJson : Json → Found
  | .null => .null
  | .bool b => .bool b
  | .int n => .int n
  | .float x => .float x
  | .str s => .text s
  | .arr _ => .sequence
  | .obj _ => .map

/-- The words for what was met. -/
def Found.message : Found → String
  | .null => "null"
  | .bool b => "boolean `" ++ (if b then "true" else "false") ++ "`"
  | .int n => "integer `" ++ Decimal.intText n ++ "`"
  | .float x => "floating point `" ++ x.signedText ++ "`"
  | .text s => "string " ++ Text.quote s
  | .sequence => "sequence"
  | .map => "map"

/-- Why a value is not of a shape. -/
inductive DecodeError where
  | invalidType (found : Found) (expected : String)
  | invalidValue (found : Found) (expected : String)
  | invalidLength (found : Nat) (expected : String)
  | missingField (name : String)
  | unknownVariant (found : String) (known : List String)
  deriving Repr

/-- The words for a choice between texts. -/
def choice (known : List String) : String :=
  match known.map fun k => "`" ++ k ++ "`" with
  | [one] => one
  | [one, other] => one ++ " or " ++ other
  | many => "one of " ++ ", ".intercalate many

/-- The text of a decode error. -/
def DecodeError.message : DecodeError → String
  | .invalidType found expected => "invalid type: " ++ found.message ++ ", expected " ++ expected
  | .invalidValue found expected => "invalid value: " ++ found.message ++ ", expected " ++ expected
  | .invalidLength found expected =>
    "invalid length " ++ Decimal.text found ++ ", expected " ++ expected
  | .missingField name => "missing field `" ++ name ++ "`"
  | .unknownVariant found known => "unknown variant `" ++ found ++ "`, expected " ++ choice known

/-- The default of a field that may be left out of a list of values. -/
def Fields.omissible? : Fields → String → Option Json
  | .nil, _ => none
  | .cons name presence schema rest, key =>
    if name = key then (if presence = .defaulted then some schema.default else none)
    else rest.omissible? key

/-- The members that stand for fields left out of a list of values. There are
none when one of the fields has no default. -/
def Fields.absentAmong (fields : Fields) (names : List String) : Option (Dict Json) :=
  names.mapM fun name => (fields.omissible? name).map fun value => (name, value)

/-- The words for a value of the shape. -/
def Schema.expected : Schema → String
  | .text => "a string"
  | .flag => "a boolean"
  | .int32 => "i32"
  | .int64 => "i64"
  | .intOrText => "IntOrString"
  | .anything => "any value"
  | .constant _ => "a string"
  | .list _ => "a sequence"
  | .map _ => "a map"
  | .record name .lenient _ => name
  | .record name (.strict _) _ => "struct " ++ name

/-- The words for a list of all values of a record. -/
def Schema.expectedElements (name : String) (count : Nat) : String :=
  "struct " ++ name ++ " with " ++ Decimal.text count ++
    (if count = 1 then " element" else " elements")

mutual

/-- The written form of the typed object that a JSON value denotes. -/
def Schema.decode : Schema → Json → Except DecodeError Json
  | .text, .str s => .ok (.str s)
  | .flag, .bool b => .ok (.bool b)
  | .int32, .int n => if fits32 n then .ok (.int n) else .error (.invalidValue (.int n) "i32")
  | .int64, .int n => if fits64 n then .ok (.int n) else .error (.invalidValue (.int n) "i64")
  | .intOrText, .str s => .ok (.str s)
  | .intOrText, .int n =>
    if fits32 n then .ok (.int n) else .error (.invalidValue (.int n) "a 32-bit integer")
  | .anything, j => .ok j
  | .constant value, .str s =>
    if s = value then .ok (.str s) else .error (.invalidValue (.text s) value)
  | .list item, .arr items => .arr <$> items.mapM fun j => item.decode j
  | .map value, .obj members =>
    .obj <$> members.mapM fun e => (fun v => (e.1, v)) <$> value.decode e.2
  | .record _ _ fields, .obj members => .obj <$> fields.decode members
  | .record name (.strict order) fields, .arr items => do
    let given ← (order.zip items).mapM fun e => fields.decodeField e.1 e.2
    let absent := fields.absentAmong (order.drop items.length)
    if items.length < order.length ∧ absent = none then
      throw (.invalidLength items.length (Schema.expectedElements name order.length))
    if order.length < items.length then
      throw (.invalidLength items.length "fewer elements in array")
    return .obj (Dict.ofEntries (given.flatten ++ absent.getD []))
  | schema, j => .error (.invalidType (.ofJson j) schema.expected)

/-- The member that stands for a value of one declared field. -/
def Fields.decodeField : Fields → String → Json → Except DecodeError (Dict Json)
  | .nil, _, _ => .ok []
  | .cons name presence schema rest, key, j =>
    if name = key then
      match presence, j with
      | .optional, .null => .ok []
      | .required, .null => .ok [(name, schema.default)]
      | _, j => (fun v => [(name, v)]) <$> schema.decode j
    else rest.decodeField key j

/-- The written form of the declared fields among the members of an object. -/
def Fields.decode : Fields → Dict Json → Except DecodeError (Dict Json)
  | .nil, _ => .ok []
  | .cons name presence schema rest, members => do
    let value ←
      match presence, Dict.get? members name with
      | .optional, none => .ok none
      | .optional, some .null => .ok none
      | .required, none => .ok (some schema.default)
      | .required, some .null => .ok (some schema.default)
      | .defaulted, none => .ok (some schema.default)
      | _, some j => some <$> schema.decode j
    let others ← rest.decode members
    .ok (match value with
      | none => others
      | some v => (name, v) :: others)

end

end SidecarInjection
