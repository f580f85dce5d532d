import SidecarInjection.Json.Pointer

/-!
# `SidecarInjection.Json.Patch`: ordered edits of a JSON document

A patch is a list of operations, applied one after another. Each pointer is read
in the document as the operations before it left it. The first operation that
does not fit stops the run and is named by its position.
-/

set_option autoImplicit false

namespace SidecarInjection

/-- One edit of a document. -/
inductive Operation where
  | add (path : Pointer) (value : Json)
  | replace (path : Pointer) (value : Json)
  | remove (path : Pointer)
  deriving Repr, Inhabited

namespace Operation

/-- The place an operation edits. -/
def path : Operation → Pointer
  | .add p _ => p
  | .replace p _ => p
  | .remove p => p

/-- The written form. -/
def toJson : Operation → Json
  | .add p value => .obj [("op", .str "add"), ("path", .str p.text), ("value", value)]
  | .replace p value => .obj [("op", .str "replace"), ("path", .str p.text), ("value", value)]
  | .remove p => .obj [("op", .str "remove"), ("path", .str p.text)]

/-- The position at which a token inserts into an array: `-` is the end. -/
def insertIndex? (token : String) (length : Nat) : Option Nat :=
  if token = "-" then some length
  else (Pointer.index? token).bind fun i => if i ≤ length then some i else none

/-- The container with a value added under a token. -/
def addChild? (token : String) (value : Json) : Json → Option Json
  | .obj ms => some (.obj (Dict.insert ms token value))
  | .arr items =>
    (insertIndex? token items.length).map fun i => .arr (items.insertIdx i value)
  | _ => none

/-- The container with the value under a token taken out. -/
def removeChild? (token : String) : Json → Option Json
  | .obj ms => if Dict.contains ms token then some (.obj (Dict.erase ms token)) else none
  | .arr items =>
    (Pointer.index? token).bind fun i =>
      if i < items.length then some (.arr (items.eraseIdx i)) else none
  | _ => none

/-- The document after an operation, if the operation fits. -/
def run? : Operation → Json → Option Json
  | .add p value, doc =>
    match p.getLast? with
    | none => some value
    | some token => Pointer.modify? p.dropLast (addChild? token value) doc
  | .replace p value, doc => Pointer.modify? p (fun _ => some value) doc
  | .remove p, doc =>
    match p.getLast? with
    | none => none
    | some token => Pointer.modify? p.dropLast (removeChild? token) doc

end Operation

/-- An operation that does not fit: its position in the patch and its place. -/
structure PatchError where
  position : Nat
  path : Pointer
  deriving DecidableEq, Repr

/-- The text of a patch error. -/
def PatchError.message (e : PatchError) : String :=
  "operation '/" ++ Decimal.text e.position ++ "' failed at path '" ++ e.path.text ++
    "': path is invalid"

/-- Operations in the order they are applied. -/
abbrev Patch := List Operation

namespace Patch

/-- The written form. -/
def toJson (patch : Patch) : Json := .arr (patch.map Operation.toJson)

/-- Applies operations, the first of which has the given position. -/
def applyFrom (position : Nat) : Patch → Json → Except PatchError Json
  | [], doc => .ok doc
  | op :: rest, doc =>
    match op.run? doc with
    | some new => applyFrom (position + 1) rest new
    | none => .error ⟨position, op.path⟩

/-- Applies all operations in order. -/
def apply (patch : Patch) (doc : Json) : Except PatchError Json := applyFrom 0 patch doc

end Patch

end SidecarInjection
