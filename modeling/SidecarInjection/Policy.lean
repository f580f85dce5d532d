import SidecarInjection.Annotations
import SidecarInjection.Pod.Basic

/-!
# `SidecarInjection.Policy`: which pods are injected

A pod is injected when it asks for it, unless it lies in an excluded namespace
or carries the mark of an injected pod.
-/

set_option autoImplicit false

namespace SidecarInjection.Policy

/-- The namespace of an object that names none. -/
def defaultNamespace : String := "default"

/-- The namespaces that an injector excludes. -/
def ignoredNamespaces : List String := ["kube-system", "kube-public"]

/-- Whether two texts are equal up to the case of ASCII letters. -/
def equalIgnoringAsciiCase (a b : String) : Bool :=
  a.toList.map Char.toLower == b.toList.map Char.toLower

/-- The namespace an object lies in. The empty name counts as none. -/
def effectiveNamespace (metadata : ObjectMeta) : String :=
  match metadata.namespaceName with
  | none => defaultNamespace
  | some name => if name.isEmpty then defaultNamespace else name

/-- Whether a pod with this metadata is to be injected. -/
def mutationRequired (ignored : List String) (keys : AnnotationKeys) (metadata : ObjectMeta) :
    Bool :=
  let annotations := metadata.annotations.getD []
  !ignored.contains (effectiveNamespace metadata) &&
    !equalIgnoringAsciiCase (keys.value annotations Annotations.status) Annotations.injected &&
    Annotations.isTruthy (keys.value annotations Annotations.inject)

end SidecarInjection.Policy
