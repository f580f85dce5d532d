import SidecarInjection.Annotations
import SidecarInjection.Config
import SidecarInjection.Context.Basic
import SidecarInjection.Target

/-!
# `SidecarInjection.Mode.Basic`: modes of injection

A mode is a record of what it does at each step of an injection. Steps that a
mode leaves out have defaults that do nothing.
-/

set_option autoImplicit false

namespace SidecarInjection

/-- The labels and annotations of a pod. -/
structure PodLabels where
  labels : Dict String
  annotations : Dict String

/-- The labels and annotations in metadata, empty where they are absent. -/
def PodLabels.ofMetadata (m : ObjectMeta) : PodLabels :=
  ⟨m.labels.getD [], m.annotations.getD []⟩

/-- The value of a label, empty when it is absent. -/
def PodLabels.label (p : PodLabels) (key : String) : String := (Dict.get? p.labels key).getD ""

/-- A mode's answer about one configured container. -/
structure ContainerAnswer where
  /-- Whether the mode wants the container injected. -/
  claimed : Bool
  /-- The environment, with the mode's own values filled in. -/
  env : List EnvVar

/-- One way of injecting. -/
structure Mode where
  /-- Also the name in the list of requested modes. -/
  key : String
  /-- Enabled when no mode is requested. -/
  isDefault : Bool := false
  /-- Enables the default mode too when it is the only one requested. -/
  enablesDefault : Bool := false
  /-- The short annotation keys it reads. -/
  annotationKeys : List String := []
  /-- What it works out for a pod, if anything. -/
  computeTemplate : Config → AnnotationKeys → PodLabels →
      Except InjectionError (Option ModeConfig) := fun _ _ _ => .ok none
  /-- The edits it makes to a pod. -/
  patchPod : Config → AnnotationKeys → PodSpec → PodLabels → Context →
      Except InjectionError Patch := fun _ _ _ _ _ => .ok []
  /-- Its answer about the configured container of a name, given the pod's own
  containers and the environment so far. -/
  injectContainer : Target → List Container → String → List EnvVar → Context →
      Except InjectionError ContainerAnswer

namespace EnvVar

/-- Sets the value of every variable of a name. -/
def setAll (env : List EnvVar) (name value : String) : List EnvVar :=
  env.map fun e => if e.name = name then { e with value := some value } else e

end EnvVar

/-- The answer that leaves a container alone. -/
def ContainerAnswer.decline (env : List EnvVar) : ContainerAnswer := ⟨false, env⟩

/-- The answer that claims a container with this environment. -/
def ContainerAnswer.claim (env : List EnvVar) : ContainerAnswer := ⟨true, env⟩

end SidecarInjection
