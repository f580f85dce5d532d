import SidecarInjection.Dict
import SidecarInjection.Text.Lowercase

/-!
# `SidecarInjection.Annotations`: the annotations a pod is steered by

Annotations are known by short keys. On a pod each stands under its qualified
key: the configured qualifier, a slash and the short key, or the short key alone
when the qualifier is empty.
-/

set_option autoImplicit false

namespace SidecarInjection

namespace Annotations

/-- Requests injection. -/
def inject : String := "inject"

/-- Names the authentication method. -/
def auth : String := "auth"

/-- Lists the requested modes. -/
def mode : String := "mode"

/-- Names the role. -/
def role : String := "role"

/-- Names the path of a service account token. -/
def saToken : String := "sa-token"

/-- Names the kind of workload. -/
def workload : String := "workload"

/-- Says that a pod has been injected. It is set by the injector. -/
def status : String := "status"

/-- The short keys known without any mode. -/
def coreKeys : List String := [inject, auth, mode, role, saToken, workload, status]

/-- The value of `status` on an injected pod. -/
def injected : String := "injected"

/-- The value of `workload` that stands for the job mode. -/
def workloadJob : String := "job"

/-- The key on a pod of a short key. -/
def qualify (qualifier key : String) : String :=
  if qualifier.isEmpty then key else qualifier ++ "/" ++ key

/-- Whether a value says yes, in any case. -/
def isTruthy (value : String) : Bool :=
  ["y", "yes", "true", "on"].contains (Text.lowercase value)

end Annotations

/-- The annotation keys of an injector: their qualifier and the known short
keys, in ascending order. -/
structure AnnotationKeys where
  qualifier : String
  shortKeys : List String

namespace AnnotationKeys

/-- The keys with this qualifier. -/
def ofShortKeys (qualifier : String) (keys : List String) : AnnotationKeys :=
  ⟨qualifier, Dict.keys (Dict.ofEntries (keys.map fun k => (k, ())))⟩

/-- The key on a pod of a short key. -/
def qualified (keys : AnnotationKeys) (key : String) : String :=
  Annotations.qualify keys.qualifier key

/-- The value of an annotation, empty when it is absent. -/
def value (keys : AnnotationKeys) (annotations : Dict String) (key : String) : String :=
  (Dict.get? annotations (keys.qualified key)).getD ""

end AnnotationKeys

end SidecarInjection
