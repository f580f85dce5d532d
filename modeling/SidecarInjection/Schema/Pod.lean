import SidecarInjection.Schema.Volume
import SidecarInjection.Schema.Container
import SidecarInjection.Schema.Scheduling

/-!
# `SidecarInjection.Schema.Pod`: the shapes of pods and pod templates

The declared fields of Kubernetes 1.33 objects, in ascending order of their names.
-/

set_option autoImplicit false

namespace SidecarInjection.Schema

/-- The shape of `PodDNSConfigOption`. -/
def podDNSConfigOption : Schema := .record "PodDNSConfigOption" .lenient <| .ofList
  [("name", .optional, .text), ("value", .optional, .text)]

/-- The shape of `PodDNSConfig`. -/
def podDNSConfig : Schema := .record "PodDNSConfig" .lenient <| .ofList
  [("nameservers", .optional, .list .text), ("options", .optional, .list podDNSConfigOption),
   ("searches", .optional, .list .text)]

/-- The shape of `HostAlias`. -/
def hostAlias : Schema := .record "HostAlias" .lenient <| .ofList
  [("hostnames", .optional, .list .text), ("ip", .required, .text)]

/-- The shape of `PodOS`. -/
def podOS : Schema := .record "PodOS" .lenient <| .ofList
  [("name", .required, .text)]

/-- The shape of `PodResourceClaim`. -/
def podResourceClaim : Schema := .record "PodResourceClaim" .lenient <| .ofList
  [("name", .required, .text), ("resourceClaimName", .optional, .text),
   ("resourceClaimTemplateName", .optional, .text)]

/-- The shape of `Sysctl`. -/
def sysctl : Schema := .record "Sysctl" .lenient <| .ofList
  [("name", .required, .text), ("value", .required, .text)]

/-- The shape of `PodSecurityContext`. -/
def podSecurityContext : Schema := .record "PodSecurityContext" .lenient <| .ofList
  [("appArmorProfile", .optional, appArmorProfile), ("fsGroup", .optional, .int64),
   ("fsGroupChangePolicy", .optional, .text), ("runAsGroup", .optional, .int64),
   ("runAsNonRoot", .optional, .flag), ("runAsUser", .optional, .int64),
   ("seLinuxChangePolicy", .optional, .text), ("seLinuxOptions", .optional, seLinuxOptions),
   ("seccompProfile", .optional, seccompProfile), ("supplementalGroups", .optional, .list .int64),
   ("supplementalGroupsPolicy", .optional, .text), ("sysctls", .optional, .list sysctl),
   ("windowsOptions", .optional, windowsSecurityContextOptions)]

/-- The shape of `PodSpec`. -/
def podSpec : Schema := .record "PodSpec" .lenient <| .ofList
  [("activeDeadlineSeconds", .optional, .int64), ("affinity", .optional, affinity),
   ("automountServiceAccountToken", .optional, .flag), ("containers", .required, .list container),
   ("dnsConfig", .optional, podDNSConfig), ("dnsPolicy", .optional, .text),
   ("enableServiceLinks", .optional, .flag),
   ("ephemeralContainers", .optional, .list ephemeralContainer),
   ("hostAliases", .optional, .list hostAlias), ("hostIPC", .optional, .flag),
   ("hostNetwork", .optional, .flag), ("hostPID", .optional, .flag),
   ("hostUsers", .optional, .flag), ("hostname", .optional, .text),
   ("imagePullSecrets", .optional, .list localObjectReference),
   ("initContainers", .optional, .list container), ("nodeName", .optional, .text),
   ("nodeSelector", .optional, .map .text), ("os", .optional, podOS),
   ("overhead", .optional, .map .text), ("preemptionPolicy", .optional, .text),
   ("priority", .optional, .int32), ("priorityClassName", .optional, .text),
   ("readinessGates", .optional, .list podReadinessGate),
   ("resourceClaims", .optional, .list podResourceClaim),
   ("resources", .optional, resourceRequirements), ("restartPolicy", .optional, .text),
   ("runtimeClassName", .optional, .text), ("schedulerName", .optional, .text),
   ("schedulingGates", .optional, .list podSchedulingGate),
   ("securityContext", .optional, podSecurityContext), ("serviceAccount", .optional, .text),
   ("serviceAccountName", .optional, .text), ("setHostnameAsFQDN", .optional, .flag),
   ("shareProcessNamespace", .optional, .flag), ("subdomain", .optional, .text),
   ("terminationGracePeriodSeconds", .optional, .int64),
   ("tolerations", .optional, .list toleration),
   ("topologySpreadConstraints", .optional, .list topologySpreadConstraint),
   ("volumes", .optional, .list volume)]

/-- The shape of `PodCondition`. -/
def podCondition : Schema := .record "PodCondition" .lenient <| .ofList
  [("lastProbeTime", .optional, .text), ("lastTransitionTime", .optional, .text),
   ("message", .optional, .text), ("observedGeneration", .optional, .int64),
   ("reason", .optional, .text), ("status", .required, .text), ("type", .required, .text)]

/-- The shape of `ResourceHealth`. -/
def resourceHealth : Schema := .record "ResourceHealth" .lenient <| .ofList
  [("health", .optional, .text), ("resourceID", .required, .text)]

/-- The shape of `ResourceStatus`. -/
def resourceStatus : Schema := .record "ResourceStatus" .lenient <| .ofList
  [("name", .required, .text), ("resources", .optional, .list resourceHealth)]

/-- The shape of `ContainerStateRunning`. -/
def containerStateRunning : Schema := .record "ContainerStateRunning" .lenient <| .ofList
  [("startedAt", .optional, .text)]

/-- The shape of `ContainerStateTerminated`. -/
def containerStateTerminated : Schema := .record "ContainerStateTerminated" .lenient <| .ofList
  [("containerID", .optional, .text), ("exitCode", .required, .int32),
   ("finishedAt", .optional, .text), ("message", .optional, .text), ("reason", .optional, .text),
   ("signal", .optional, .int32), ("startedAt", .optional, .text)]

/-- The shape of `ContainerStateWaiting`. -/
def containerStateWaiting : Schema := .record "ContainerStateWaiting" .lenient <| .ofList
  [("message", .optional, .text), ("reason", .optional, .text)]

/-- The shape of `ContainerState`. -/
def containerState : Schema := .record "ContainerState" .lenient <| .ofList
  [("running", .optional, containerStateRunning),
   ("terminated", .optional, containerStateTerminated),
   ("waiting", .optional, containerStateWaiting)]

/-- The shape of `LinuxContainerUser`. -/
def linuxContainerUser : Schema := .record "LinuxContainerUser" .lenient <| .ofList
  [("gid", .required, .int64), ("supplementalGroups", .optional, .list .int64),
   ("uid", .required, .int64)]

/-- The shape of `ContainerUser`. -/
def containerUser : Schema := .record "ContainerUser" .lenient <| .ofList
  [("linux", .optional, linuxContainerUser)]

/-- The shape of `VolumeMountStatus`. -/
def volumeMountStatus : Schema := .record "VolumeMountStatus" .lenient <| .ofList
  [("mountPath", .required, .text), ("name", .required, .text), ("readOnly", .optional, .flag),
   ("recursiveReadOnly", .optional, .text)]

/-- The shape of `ContainerStatus`. -/
def containerStatus : Schema := .record "ContainerStatus" .lenient <| .ofList
  [("allocatedResources", .optional, .map .text),
   ("allocatedResourcesStatus", .optional, .list resourceStatus), ("containerID", .optional, .text),
   ("image", .required, .text), ("imageID", .required, .text),
   ("lastState", .optional, containerState), ("name", .required, .text),
   ("ready", .required, .flag), ("resources", .optional, resourceRequirements),
   ("restartCount", .required, .int32), ("started", .optional, .flag),
   ("state", .optional, containerState), ("stopSignal", .optional, .text),
   ("user", .optional, containerUser), ("volumeMounts", .optional, .list volumeMountStatus)]

/-- The shape of `HostIP`. -/
def hostIP : Schema := .record "HostIP" .lenient <| .ofList
  [("ip", .required, .text)]

/-- The shape of `PodIP`. -/
def podIP : Schema := .record "PodIP" .lenient <| .ofList
  [("ip", .required, .text)]

/-- The shape of `PodResourceClaimStatus`. -/
def podResourceClaimStatus : Schema := .record "PodResourceClaimStatus" .lenient <| .ofList
  [("name", .required, .text), ("resourceClaimName", .optional, .text)]

/-- The shape of `PodStatus`. -/
def podStatus : Schema := .record "PodStatus" .lenient <| .ofList
  [("conditions", .optional, .list podCondition),
   ("containerStatuses", .optional, .list containerStatus),
   ("ephemeralContainerStatuses", .optional, .list containerStatus), ("hostIP", .optional, .text),
   ("hostIPs", .optional, .list hostIP),
   ("initContainerStatuses", .optional, .list containerStatus), ("message", .optional, .text),
   ("nominatedNodeName", .optional, .text), ("observedGeneration", .optional, .int64),
   ("phase", .optional, .text), ("podIP", .optional, .text), ("podIPs", .optional, .list podIP),
   ("qosClass", .optional, .text), ("reason", .optional, .text), ("resize", .optional, .text),
   ("resourceClaimStatuses", .optional, .list podResourceClaimStatus),
   ("startTime", .optional, .text)]

/-- The shape of `PodTemplateSpec`. -/
def podTemplateSpec : Schema := .record "PodTemplateSpec" .lenient <| .ofList
  [("metadata", .optional, objectMeta), ("spec", .optional, podSpec)]

/-- The shape of `Pod`. A pod names its kind and version, and no other ones. -/
def pod : Schema := .record "Pod" .lenient <| .ofList
  [("apiVersion", .defaulted, .constant "v1"), ("kind", .defaulted, .constant "Pod"),
   ("metadata", .required, objectMeta), ("spec", .optional, podSpec), ("status", .optional, podStatus)]

end SidecarInjection.Schema
