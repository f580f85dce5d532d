import SidecarInjection.Json.Basic

/-!
# `SidecarInjection.Schema.Basic`: shapes of typed objects

A `Schema` says which JSON values are written forms of a typed object. A record
lists its fields in ascending order of their names. A written record holds
exactly its declared fields, in that order and without a `null` in an optional
one, and `conforms` tests this.
-/

set_option autoImplicit false

namespace SidecarInjection

/-- What a record does about a field that is absent. -/
inductive Presence where
  /-- Absent and `null` both mean that there is no value. -/
  | optional
  /-- Absent and `null` both mean the default, which is then written. -/
  | required
  /-- Absent means the default. `null` is read as a value. -/
  | defaulted
  deriving DecidableEq, Repr

/-- Whether a field may hold a value. An optional field that is `null` is absent. -/
def Presence.admits : Presence → Json → Bool
  | .optional, j => !j.isNull
  | _, _ => true

/-- How a record is given. -/
inductive Layout where
  /-- By members, of which the first of a name counts. -/
  | lenient
  /-- By members that are named at most once. In JSON also by a list of the values
  of its fields in this order. -/
  | strict (order : List String)
  deriving DecidableEq, Repr

mutual

/-- The shape of a value. -/
inductive Schema where
  | text
  | flag
  | int32
  | int64
  /-- A 32-bit whole number or a text. -/
  | intOrText
  | anything
  /-- One fixed text. -/
  | constant (value : String)
  | list (item : Schema)
  | map (value : Schema)
  /-- An object with declared fields. -/
  | record (name : String) (layout : Layout) (fields : Fields)

/-- The declared fields of a record, in ascending order of their names. -/
inductive Fields where
  | nil
  | cons (name : String) (presence : Presence) (schema : Schema) (rest : Fields)

end

/-- The fields of a list. -/
def Fields.ofList : List (String × Presence × Schema) → Fields
  | [] => .nil
  | (name, presence, schema) :: rest => .cons name presence schema (ofList rest)

/-- The declared fields of a record. Other shapes have none. -/
def Schema.fields : Schema → Fields
  | .record _ _ fields => fields
  | _ => .nil

/-- The fields that are not named. -/
def Fields.without (names : List String) : Fields → Fields
  | .nil => .nil
  | .cons name presence schema rest =>
    if names.contains name then rest.without names
    else .cons name presence schema (rest.without names)

mutual

/-- The value of a required field that is absent. -/
def Schema.default : Schema → Json
  | .text => .str ""
  | .flag => .bool false
  | .int32 => .int 0
  | .int64 => .int 0
  | .intOrText => .int 0
  | .anything => .null
  | .constant value => .str value
  | .list _ => .arr []
  | .map _ => .obj []
  | .record _ _ fields => .obj fields.defaults

/-- The members of a record of which nothing is given. -/
def Fields.defaults : Fields → Dict Json
  | .nil => []
  | .cons name presence schema rest =>
    match presence with
    | .optional => rest.defaults
    | .required => (name, schema.default) :: rest.defaults
    | .defaulted => (name, schema.default) :: rest.defaults

end

/-- Whether a whole number fits 32 bits with a sign. -/
def fits32 (n : Int) : Bool := -2147483648 ≤ n && n ≤ 2147483647

/-- Whether a whole number fits 64 bits with a sign. -/
def fits64 (n : Int) : Bool := -9223372036854775808 ≤ n && n ≤ 9223372036854775807

mutual

/-- Whether a value is a written form of the shape. -/
def Schema.conforms : Schema → Json → Bool
  | .text, .str _ => true
  | .flag, .bool _ => true
  | .int32, .int n => fits32 n
  | .int64, .int n => fits64 n
  | .intOrText, .str _ => true
  | .intOrText, .int n => fits32 n
  | .anything, _ => true
  | .constant value, .str s => s == value
  | .list item, .arr items => items.all fun j => item.conforms j
  | .map value, .obj members => members.all fun e => value.conforms e.2
  | .record _ _ fields, .obj members => fields.conform members
  | _, _ => false

/-- Whether members are the declared fields, in order, of which only optional
ones are left out. -/
def Fields.conform : Fields → Dict Json → Bool
  | .nil, [] => true
  | .nil, _ :: _ => false
  | .cons _ presence _ rest, [] => presence == .optional && rest.conform []
  | .cons name presence schema rest, (k, v) :: members =>
    (k == name && presence.admits v && schema.conforms v && rest.conform members) ||
      (presence == .optional && rest.conform ((k, v) :: members))

end

end SidecarInjection
