import SidecarInjection.Proofs.Schema.Field
import SidecarInjection.Schema.Pod

/-!
# `SidecarInjection.Proofs.Schema.Regular`: the shapes of pods are regular

`Schema.regular_pod` is checked by evaluation, and covers every shape inside a
pod. The shapes that this library works with follow from it by the fields that
lead to them.
-/

set_option autoImplicit false

namespace SidecarInjection.Schema

/-- The shape of a pod is regular, and so is every shape inside of it. -/
theorem regular_pod : pod.regular = true := by decide +kernel

/-! ### Parts of a pod -/

/-- Metadata is a member of a pod. -/
theorem regular_objectMeta : objectMeta.regular = true :=
  Fields.regular_of_find? pod.fields "metadata" regular_pod rfl

/-- So is the specification. -/
theorem regular_podSpec : podSpec.regular = true :=
  Fields.regular_of_find? pod.fields "spec" regular_pod rfl

/-- So is the status. -/
theorem regular_podStatus : podStatus.regular = true :=
  Fields.regular_of_find? pod.fields "status" regular_pod rfl

/-- A template has the parts of a pod. -/
theorem regular_podTemplateSpec : podTemplateSpec.regular = true := by
  show ((Fields.cons "spec" .optional podSpec .nil).beginAfter "metadata" && objectMeta.regular &&
    (Fields.nil.beginAfter "spec" && podSpec.regular && Fields.nil.regular)) = true
  rw [regular_objectMeta, regular_podSpec]
  decide

/-- Volumes are items of a list in the specification. -/
theorem regular_volume : volume.regular = true := by
  have h : (list volume).regular = true :=
    Fields.regular_of_find? podSpec.fields "volumes" regular_podSpec rfl
  exact h

/-- So are containers. -/
theorem regular_container : container.regular = true := by
  have h : (list container).regular = true :=
    Fields.regular_of_find? podSpec.fields "containers" regular_podSpec rfl
  exact h

/-! ### Parts of a container -/

/-- Variables are items of a list in a container. -/
theorem regular_envVar : envVar.regular = true := by
  have h : (list envVar).regular = true :=
    Fields.regular_of_find? container.fields "env" regular_container rfl
  exact h

/-- So are mounts. -/
theorem regular_volumeMount : volumeMount.regular = true := by
  have h : (list volumeMount).regular = true :=
    Fields.regular_of_find? container.fields "volumeMounts" regular_container
      rfl
  exact h

/-- The lifecycle is a member of a container. -/
theorem regular_lifecycle : lifecycle.regular = true :=
  Fields.regular_of_find? container.fields "lifecycle" regular_container rfl

/-- The handler for the start is a member of the lifecycle. -/
theorem regular_lifecycleHandler : lifecycleHandler.regular = true :=
  Fields.regular_of_find? lifecycle.fields "postStart" regular_lifecycle rfl

/-- The command is a member of the handler. -/
theorem regular_execAction : execAction.regular = true :=
  Fields.regular_of_find? lifecycleHandler.fields "exec"
    regular_lifecycleHandler rfl

end SidecarInjection.Schema
