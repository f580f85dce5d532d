import SidecarInjection.Schema.Metadata

/-!
# `SidecarInjection.Schema.Scheduling`: the shapes of where a pod may run

The declared fields of Kubernetes 1.33 objects, in ascending order of their names.
-/

set_option autoImplicit false

namespace SidecarInjection.Schema

/-- The shape of `NodeSelectorRequirement`. -/
def nodeSelectorRequirement : Schema := .record "NodeSelectorRequirement" .lenient <| .ofList
  [("key", .required, .text), ("operator", .required, .text), ("values", .optional, .list .text)]

/-- The shape of `NodeSelectorTerm`. -/
def nodeSelectorTerm : Schema := .record "NodeSelectorTerm" .lenient <| .ofList
  [("matchExpressions", .optional, .list nodeSelectorRequirement),
   ("matchFields", .optional, .list nodeSelectorRequirement)]

/-- The shape of `PreferredSchedulingTerm`. -/
def preferredSchedulingTerm : Schema := .record "PreferredSchedulingTerm" .lenient <| .ofList
  [("preference", .required, nodeSelectorTerm), ("weight", .required, .int32)]

/-- The shape of `NodeSelector`. -/
def nodeSelector : Schema := .record "NodeSelector" .lenient <| .ofList
  [("nodeSelectorTerms", .required, .list nodeSelectorTerm)]

/-- The shape of `NodeAffinity`. -/
def nodeAffinity : Schema := .record "NodeAffinity" .lenient <| .ofList
  [("preferredDuringSchedulingIgnoredDuringExecution", .optional, .list preferredSchedulingTerm),
   ("requiredDuringSchedulingIgnoredDuringExecution", .optional, nodeSelector)]

/-- The shape of `PodAffinityTerm`. -/
def podAffinityTerm : Schema := .record "PodAffinityTerm" .lenient <| .ofList
  [("labelSelector", .optional, labelSelector), ("matchLabelKeys", .optional, .list .text),
   ("mismatchLabelKeys", .optional, .list .text), ("namespaceSelector", .optional, labelSelector),
   ("namespaces", .optional, .list .text), ("topologyKey", .required, .text)]

/-- The shape of `WeightedPodAffinityTerm`. -/
def weightedPodAffinityTerm : Schema := .record "WeightedPodAffinityTerm" .lenient <| .ofList
  [("podAffinityTerm", .required, podAffinityTerm), ("weight", .required, .int32)]

/-- The shape of `PodAffinity`. -/
def podAffinity : Schema := .record "PodAffinity" .lenient <| .ofList
  [("preferredDuringSchedulingIgnoredDuringExecution", .optional, .list weightedPodAffinityTerm),
   ("requiredDuringSchedulingIgnoredDuringExecution", .optional, .list podAffinityTerm)]

/-- The shape of `PodAntiAffinity`. -/
def podAntiAffinity : Schema := .record "PodAntiAffinity" .lenient <| .ofList
  [("preferredDuringSchedulingIgnoredDuringExecution", .optional, .list weightedPodAffinityTerm),
   ("requiredDuringSchedulingIgnoredDuringExecution", .optional, .list podAffinityTerm)]

/-- The shape of `Affinity`. -/
def affinity : Schema := .record "Affinity" .lenient <| .ofList
  [("nodeAffinity", .optional, nodeAffinity), ("podAffinity", .optional, podAffinity),
   ("podAntiAffinity", .optional, podAntiAffinity)]

/-- The shape of `PodReadinessGate`. -/
def podReadinessGate : Schema := .record "PodReadinessGate" .lenient <| .ofList
  [("conditionType", .required, .text)]

/-- The shape of `PodSchedulingGate`. -/
def podSchedulingGate : Schema := .record "PodSchedulingGate" .lenient <| .ofList
  [("name", .required, .text)]

/-- The shape of `Toleration`. -/
def toleration : Schema := .record "Toleration" .lenient <| .ofList
  [("effect", .optional, .text), ("key", .optional, .text), ("operator", .optional, .text),
   ("tolerationSeconds", .optional, .int64), ("value", .optional, .text)]

/-- The shape of `TopologySpreadConstraint`. -/
def topologySpreadConstraint : Schema := .record "TopologySpreadConstraint" .lenient <| .ofList
  [("labelSelector", .optional, labelSelector), ("matchLabelKeys", .optional, .list .text),
   ("maxSkew", .required, .int32), ("minDomains", .optional, .int32),
   ("nodeAffinityPolicy", .optional, .text), ("nodeTaintsPolicy", .optional, .text),
   ("topologyKey", .required, .text), ("whenUnsatisfiable", .required, .text)]

end SidecarInjection.Schema
