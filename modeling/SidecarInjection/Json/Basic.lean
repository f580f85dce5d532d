import SidecarInjection.Decimal.Double
import SidecarInjection.Dict

/-!
# `SidecarInjection.Json.Basic`: JSON values

A number is a whole number or a binary64 number that came with a fraction or an
exponent. An object is a `Dict`, so member access takes the first entry of a
key. Two values that differ in the order of members are different values here;
everything built by this library keeps members in ascending order.
-/

set_option autoImplicit false

namespace SidecarInjection

/-- A JSON value. -/
inductive Json where
  | null
  | bool (b : Bool)
  | int (n : Int)
  | float (x : Decimal.Double)
  | str (s : String)
  | arr (items : List Json)
  | obj (members : List (String × Json))
  deriving Repr, Inhabited

namespace Json

/-- The member of an object. Other values have no members. -/
def member? : Json → String → Option Json
  | .obj ms, key => Dict.get? ms key
  | _, _ => none

/-- The text of a string value. -/
def text? : Json → Option String
  | .str s => some s
  | _ => none

/-- The items of an array. -/
def items? : Json → Option (List Json)
  | .arr items => some items
  | _ => none

/-- The members of an object. -/
def members? : Json → Option (Dict Json)
  | .obj ms => some ms
  | _ => none

/-- Whether the value is `null`. -/
def isNull : Json → Bool
  | .null => true
  | _ => false

/-- Whether the value is an object. -/
def isObject : Json → Bool
  | .obj _ => true
  | _ => false

/-- The texts of an array of texts. -/
def texts? : Json → Option (List String)
  | .arr items => items.mapM text?
  | _ => none

/-- The texts of an object of texts. -/
def textMap? : Json → Option (Dict String)
  | .obj ms => ms.mapM fun e => (text? e.2).map fun s => (e.1, s)
  | _ => none

/-- The text of a member, if there is one. -/
def memberText? (j : Json) (key : String) : Option String := (j.member? key).bind text?

/-- An array of texts. -/
def texts (ss : List String) : Json := .arr (ss.map .str)

/-- An object of texts. -/
def textMap (d : Dict String) : Json := .obj (d.map fun e => (e.1, .str e.2))

end Json

end SidecarInjection
