import SidecarInjection.Schema.Metadata

/-!
# `SidecarInjection.Schema.Container`: the shapes of containers

The declared fields of Kubernetes 1.33 objects, in ascending order of their names.
-/

set_option autoImplicit false

namespace SidecarInjection.Schema

/-- The shape of `ConfigMapKeySelector`. -/
def configMapKeySelector : Schema := .record "ConfigMapKeySelector" .lenient <| .ofList
  [("key", .required, .text), ("name", .required, .text), ("optional", .optional, .flag)]

/-- The shape of `SecretKeySelector`. -/
def secretKeySelector : Schema := .record "SecretKeySelector" .lenient <| .ofList
  [("key", .required, .text), ("name", .required, .text), ("optional", .optional, .flag)]

/-- The shape of `EnvVarSource`. -/
def envVarSource : Schema := .record "EnvVarSource" .lenient <| .ofList
  [("configMapKeyRef", .optional, configMapKeySelector),
   ("fieldRef", .optional, objectFieldSelector),
   ("resourceFieldRef", .optional, resourceFieldSelector),
   ("secretKeyRef", .optional, secretKeySelector)]

/-- The shape of `EnvVar`. -/
def envVar : Schema := .record "EnvVar" .lenient <| .ofList
  [("name", .required, .text), ("value", .optional, .text), ("valueFrom", .optional, envVarSource)]

/-- The shape of `ConfigMapEnvSource`. -/
def configMapEnvSource : Schema := .record "ConfigMapEnvSource" .lenient <| .ofList
  [("name", .required, .text), ("optional", .optional, .flag)]

/-- The shape of `SecretEnvSource`. -/
def secretEnvSource : Schema := .record "SecretEnvSource" .lenient <| .ofList
  [("name", .required, .text), ("optional", .optional, .flag)]

/-- The shape of `EnvFromSource`. -/
def envFromSource : Schema := .record "EnvFromSource" .lenient <| .ofList
  [("configMapRef", .optional, configMapEnvSource), ("prefix", .optional, .text),
   ("secretRef", .optional, secretEnvSource)]

/-- The shape of `ExecAction`. -/
def execAction : Schema := .record "ExecAction" .lenient <| .ofList
  [("command", .optional, .list .text)]

/-- The shape of `HTTPHeader`. -/
def httpHeader : Schema := .record "HTTPHeader" .lenient <| .ofList
  [("name", .required, .text), ("value", .required, .text)]

/-- The shape of `HTTPGetAction`. -/
def httpGetAction : Schema := .record "HTTPGetAction" .lenient <| .ofList
  [("host", .optional, .text), ("httpHeaders", .optional, .list httpHeader),
   ("path", .optional, .text), ("port", .required, .intOrText), ("scheme", .optional, .text)]

/-- The shape of `SleepAction`. -/
def sleepAction : Schema := .record "SleepAction" .lenient <| .ofList
  [("seconds", .required, .int64)]

/-- The shape of `TCPSocketAction`. -/
def tcpSocketAction : Schema := .record "TCPSocketAction" .lenient <| .ofList
  [("host", .optional, .text), ("port", .required, .intOrText)]

/-- The shape of `LifecycleHandler`. -/
def lifecycleHandler : Schema := .record "LifecycleHandler" .lenient <| .ofList
  [("exec", .optional, execAction), ("httpGet", .optional, httpGetAction),
   ("sleep", .optional, sleepAction), ("tcpSocket", .optional, tcpSocketAction)]

/-- The shape of `Lifecycle`. -/
def lifecycle : Schema := .record "Lifecycle" .lenient <| .ofList
  [("postStart", .optional, lifecycleHandler), ("preStop", .optional, lifecycleHandler),
   ("stopSignal", .optional, .text)]

/-- The shape of `GRPCAction`. -/
def grpcAction : Schema := .record "GRPCAction" .lenient <| .ofList
  [("port", .required, .int32), ("service", .optional, .text)]

/-- The shape of `Probe`. -/
def probe : Schema := .record "Probe" .lenient <| .ofList
  [("exec", .optional, execAction), ("failureThreshold", .optional, .int32),
   ("grpc", .optional, grpcAction), ("httpGet", .optional, httpGetAction),
   ("initialDelaySeconds", .optional, .int32), ("periodSeconds", .optional, .int32),
   ("successThreshold", .optional, .int32), ("tcpSocket", .optional, tcpSocketAction),
   ("terminationGracePeriodSeconds", .optional, .int64), ("timeoutSeconds", .optional, .int32)]

/-- The shape of `ContainerPort`. -/
def containerPort : Schema := .record "ContainerPort" .lenient <| .ofList
  [("containerPort", .required, .int32), ("hostIP", .optional, .text),
   ("hostPort", .optional, .int32), ("name", .optional, .text), ("protocol", .optional, .text)]

/-- The shape of `ContainerResizePolicy`. -/
def containerResizePolicy : Schema := .record "ContainerResizePolicy" .lenient <| .ofList
  [("resourceName", .required, .text), ("restartPolicy", .required, .text)]

/-- The shape of `ResourceClaim`. -/
def resourceClaim : Schema := .record "ResourceClaim" .lenient <| .ofList
  [("name", .required, .text), ("request", .optional, .text)]

/-- The shape of `ResourceRequirements`. -/
def resourceRequirements : Schema := .record "ResourceRequirements" .lenient <| .ofList
  [("claims", .optional, .list resourceClaim), ("limits", .optional, .map .text),
   ("requests", .optional, .map .text)]

/-- The shape of `AppArmorProfile`. -/
def appArmorProfile : Schema := .record "AppArmorProfile" .lenient <| .ofList
  [("localhostProfile", .optional, .text), ("type", .required, .text)]

/-- The shape of `Capabilities`. -/
def capabilities : Schema := .record "Capabilities" .lenient <| .ofList
  [("add", .optional, .list .text), ("drop", .optional, .list .text)]

/-- The shape of `SELinuxOptions`. -/
def seLinuxOptions : Schema := .record "SELinuxOptions" .lenient <| .ofList
  [("level", .optional, .text), ("role", .optional, .text), ("type", .optional, .text),
   ("user", .optional, .text)]

/-- The shape of `SeccompProfile`. -/
def seccompProfile : Schema := .record "SeccompProfile" .lenient <| .ofList
  [("localhostProfile", .optional, .text), ("type", .required, .text)]

/-- The shape of `WindowsSecurityContextOptions`. -/
def windowsSecurityContextOptions : Schema := .record "WindowsSecurityContextOptions" .lenient <| .ofList
  [("gmsaCredentialSpec", .optional, .text), ("gmsaCredentialSpecName", .optional, .text),
   ("hostProcess", .optional, .flag), ("runAsUserName", .optional, .text)]

/-- The shape of `SecurityContext`. -/
def securityContext : Schema := .record "SecurityContext" .lenient <| .ofList
  [("allowPrivilegeEscalation", .optional, .flag), ("appArmorProfile", .optional, appArmorProfile),
   ("capabilities", .optional, capabilities), ("privileged", .optional, .flag),
   ("procMount", .optional, .text), ("readOnlyRootFilesystem", .optional, .flag),
   ("runAsGroup", .optional, .int64), ("runAsNonRoot", .optional, .flag),
   ("runAsUser", .optional, .int64), ("seLinuxOptions", .optional, seLinuxOptions),
   ("seccompProfile", .optional, seccompProfile),
   ("windowsOptions", .optional, windowsSecurityContextOptions)]

/-- The shape of `VolumeDevice`. -/
def volumeDevice : Schema := .record "VolumeDevice" .lenient <| .ofList
  [("devicePath", .required, .text), ("name", .required, .text)]

/-- The shape of `VolumeMount`. -/
def volumeMount : Schema := .record "VolumeMount" .lenient <| .ofList
  [("mountPath", .required, .text), ("mountPropagation", .optional, .text),
   ("name", .required, .text), ("readOnly", .optional, .flag),
   ("recursiveReadOnly", .optional, .text), ("subPath", .optional, .text),
   ("subPathExpr", .optional, .text)]

/-- The shape of `Container`. -/
def container : Schema := .record "Container" .lenient <| .ofList
  [("args", .optional, .list .text), ("command", .optional, .list .text),
   ("env", .optional, .list envVar), ("envFrom", .optional, .list envFromSource),
   ("image", .optional, .text), ("imagePullPolicy", .optional, .text),
   ("lifecycle", .optional, lifecycle), ("livenessProbe", .optional, probe),
   ("name", .required, .text), ("ports", .optional, .list containerPort),
   ("readinessProbe", .optional, probe), ("resizePolicy", .optional, .list containerResizePolicy),
   ("resources", .optional, resourceRequirements), ("restartPolicy", .optional, .text),
   ("securityContext", .optional, securityContext), ("startupProbe", .optional, probe),
   ("stdin", .optional, .flag), ("stdinOnce", .optional, .flag),
   ("terminationMessagePath", .optional, .text), ("terminationMessagePolicy", .optional, .text),
   ("tty", .optional, .flag), ("volumeDevices", .optional, .list volumeDevice),
   ("volumeMounts", .optional, .list volumeMount), ("workingDir", .optional, .text)]

/-- The shape of `EphemeralContainer`. -/
def ephemeralContainer : Schema := .record "EphemeralContainer" .lenient <| .ofList
  [("args", .optional, .list .text), ("command", .optional, .list .text),
   ("env", .optional, .list envVar), ("envFrom", .optional, .list envFromSource),
   ("image", .optional, .text), ("imagePullPolicy", .optional, .text),
   ("lifecycle", .optional, lifecycle), ("livenessProbe", .optional, probe),
   ("name", .required, .text), ("ports", .optional, .list containerPort),
   ("readinessProbe", .optional, probe), ("resizePolicy", .optional, .list containerResizePolicy),
   ("resources", .optional, resourceRequirements), ("restartPolicy", .optional, .text),
   ("securityContext", .optional, securityContext), ("startupProbe", .optional, probe),
   ("stdin", .optional, .flag), ("stdinOnce", .optional, .flag),
   ("targetContainerName", .optional, .text), ("terminationMessagePath", .optional, .text),
   ("terminationMessagePolicy", .optional, .text), ("tty", .optional, .flag),
   ("volumeDevices", .optional, .list volumeDevice), ("volumeMounts", .optional, .list volumeMount),
   ("workingDir", .optional, .text)]

end SidecarInjection.Schema
