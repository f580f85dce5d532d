import SidecarInjection.Schema.Basic

/-!
# `SidecarInjection.Schema.Metadata`: the shapes of object metadata, label selectors and users

The declared fields of Kubernetes 1.33 objects, in ascending order of their names.
-/

set_option autoImplicit false

namespace SidecarInjection.Schema

/-- The shape of `ManagedFieldsEntry`. -/
def managedFieldsEntry : Schema := .record "ManagedFieldsEntry" .lenient <| .ofList
  [("apiVersion", .optional, .text), ("fieldsType", .optional, .text),
   ("fieldsV1", .optional, .anything), ("manager", .optional, .text),
   ("operation", .optional, .text), ("subresource", .optional, .text), ("time", .optional, .text)]

/-- The shape of `OwnerReference`. -/
def ownerReference : Schema := .record "OwnerReference" .lenient <| .ofList
  [("apiVersion", .required, .text), ("blockOwnerDeletion", .optional, .flag),
   ("controller", .optional, .flag), ("kind", .required, .text), ("name", .required, .text),
   ("uid", .required, .text)]

/-- The shape of `ObjectMeta`. -/
def objectMeta : Schema := .record "ObjectMeta" .lenient <| .ofList
  [("annotations", .optional, .map .text), ("creationTimestamp", .optional, .text),
   ("deletionGracePeriodSeconds", .optional, .int64), ("deletionTimestamp", .optional, .text),
   ("finalizers", .optional, .list .text), ("generateName", .optional, .text),
   ("generation", .optional, .int64), ("labels", .optional, .map .text),
   ("managedFields", .optional, .list managedFieldsEntry), ("name", .optional, .text),
   ("namespace", .optional, .text), ("ownerReferences", .optional, .list ownerReference),
   ("resourceVersion", .optional, .text), ("selfLink", .optional, .text), ("uid", .optional, .text)]

/-- The shape of `LabelSelectorRequirement`. -/
def labelSelectorRequirement : Schema := .record "LabelSelectorRequirement" .lenient <| .ofList
  [("key", .required, .text), ("operator", .required, .text), ("values", .optional, .list .text)]

/-- The shape of `LabelSelector`. -/
def labelSelector : Schema := .record "LabelSelector" .lenient <| .ofList
  [("matchExpressions", .optional, .list labelSelectorRequirement),
   ("matchLabels", .optional, .map .text)]

/-- The shape of `ObjectFieldSelector`. -/
def objectFieldSelector : Schema := .record "ObjectFieldSelector" .lenient <| .ofList
  [("apiVersion", .optional, .text), ("fieldPath", .required, .text)]

/-- The shape of `ResourceFieldSelector`. -/
def resourceFieldSelector : Schema := .record "ResourceFieldSelector" .lenient <| .ofList
  [("containerName", .optional, .text), ("divisor", .optional, .text),
   ("resource", .required, .text)]

/-- The shape of `UserInfo`. -/
def userInfo : Schema := .record "UserInfo" .lenient <| .ofList
  [("extra", .optional, .map (.list .text)), ("groups", .optional, .list .text),
   ("uid", .optional, .text), ("username", .optional, .text)]

end SidecarInjection.Schema
