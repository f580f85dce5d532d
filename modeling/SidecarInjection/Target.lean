import SidecarInjection.Json.Pointer

/-!
# `SidecarInjection.Target`: the container lists of a pod

Containers are injected into the init containers or the application containers
of a pod.
-/

set_option autoImplicit false

namespace SidecarInjection

/-- A container list of a pod. -/
inductive Target where
  | initContainers
  | containers
  deriving DecidableEq, Repr

namespace Target

/-- The field of the pod's specification. -/
def field : Target → String
  | .initContainers => "initContainers"
  | .containers => "containers"

/-- The place of the list. -/
def listPath (t : Target) : Pointer := ["spec", t.field]

/-- The place of an entry of the list. -/
def itemPath (t : Target) (index : Nat) : Pointer := ["spec", t.field, Pointer.ofIndex index]

end Target

end SidecarInjection
