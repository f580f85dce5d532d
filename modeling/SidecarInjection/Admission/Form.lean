import SidecarInjection.Schema.Decode

/-!
# `SidecarInjection.Admission.Form`: objects that are filled in by name or in order

A `Form` names the members of an object and says how each one is read. An object
fills the form by name, and a list fills it in the order of the form.
-/

set_option autoImplicit false

namespace SidecarInjection.Admission

/-- One member of a form. -/
structure Slot where
  name : String
  decode : Json → Except DecodeError Json
  /-- What stands for the member when an object does not have it. There is nothing
  for a member that an object must have. -/
  standIn : Option Json
  /-- What stands for the member when a list ends before it. -/
  listStandIn : Option Json

namespace Slot

/-- A member that must be given. -/
def required (name : String) (decode : Json → Except DecodeError Json) : Slot :=
  ⟨name, decode, none, none⟩

/-- A member with a default. `null` is read as a value. -/
def defaulted (name : String) (decode : Json → Except DecodeError Json) (value : Json) : Slot :=
  ⟨name, decode, some value, some value⟩

/-- Reads a value that may be `null`. -/
def nullable (decode : Json → Except DecodeError Json) : Json → Except DecodeError Json
  | .null => .ok .null
  | j => decode j

/-- A member that may be left out, and may be `null`. -/
def optional (name : String) (decode : Json → Except DecodeError Json) : Slot :=
  ⟨name, nullable decode, some .null, some .null⟩

/-- A member that an object may leave out, and a list may not. -/
def optionalByName (name : String) (decode : Json → Except DecodeError Json) : Slot :=
  ⟨name, nullable decode, some .null, none⟩

end Slot

/-- A named object, as its members in order. -/
structure Form where
  name : String
  slots : List Slot

namespace Form

/-- The words for a list that fills the form. -/
def expectedElements (form : Form) : String :=
  Schema.expectedElements form.name form.slots.length

/-- The members in ascending order of their names. -/
def ascending (form : Form) : List Slot :=
  (Dict.ofEntries (form.slots.map fun slot => (slot.name, slot))).map Prod.snd

/-- Reads an object. The given members are read in ascending order of their
names. Missing ones are reported after that, in the order of the form. -/
def decodeMembers (form : Form) (members : Dict Json) : Except DecodeError (Dict Json) := do
  let given ← form.ascending.mapM fun slot =>
    return (slot.name, ← (Dict.get? members slot.name).mapM slot.decode)
  form.slots.mapM fun slot =>
    match (Dict.get? given slot.name).join, slot.standIn with
    | some value, _ => .ok (slot.name, value)
    | none, some value => .ok (slot.name, value)
    | none, none => .error (.missingField slot.name)

/-- Reads the values of a list into slots, of which the first has this index. -/
def decodeList (expected : String) : Nat → List Slot → List Json → Except DecodeError (Dict Json)
  | _, [], [] => .ok []
  | index, [], rest => .error (.invalidLength (index + rest.length) "fewer elements in array")
  | index, slot :: slots, j :: rest => do
    let value ← slot.decode j
    return (slot.name, value) :: (← decodeList expected (index + 1) slots rest)
  | index, slot :: slots, [] =>
    match slot.listStandIn with
    | some value => do return (slot.name, value) :: (← decodeList expected (index + 1) slots [])
    | none => .error (.invalidLength index expected)

/-- The members that a JSON value fills a form with, one for each slot. -/
def decode (form : Form) : Json → Except DecodeError (Dict Json)
  | .obj members => form.decodeMembers members
  | .arr items => decodeList form.expectedElements 0 form.slots items
  | j => .error (.invalidType (.ofJson j) ("struct " ++ form.name))

end Form

end SidecarInjection.Admission
