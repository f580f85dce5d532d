import SidecarInjection.Mode.Registry
import SidecarInjection.Rendering

/-!
# `SidecarInjection.Context.Build`: working out the context of an injection

The annotations of a pod say which modes are enabled, how the agent
authenticates and with which role. The volumes that hold service account tokens
are found among the mounts of the pod's own containers.
-/

set_option autoImplicit false

namespace SidecarInjection

namespace Context

/-- The name of the first volume mounted at a path, in the order of containers
and of their mounts. -/
def tokenVolume (containers : List Container) (path : String) : Except InjectionError String :=
  match (containers.flatMap Container.mounts).find? fun m => m.mountPath = path with
  | some m => .ok m.name
  | none => .error (.missingVolumeMount path)

/-- The modes that a pod's annotations enable. A job workload enables the job
mode. -/
def requestedModes (registry : Registry) (keys : AnnotationKeys) (annotations : Dict String) :
    EnabledModes :=
  let modes := registry.resolve (keys.value annotations Annotations.mode)
  if keys.value annotations Annotations.workload = Annotations.workloadJob then modes.enable jobKey
  else modes

/-- The authentication method that a pod's annotations name. -/
def requestedMethod (keys : AnnotationKeys) (annotations : Dict String) :
    Except InjectionError AuthMethod :=
  let name := Text.lowercase (keys.value annotations Annotations.auth)
  if name.isEmpty then .ok .kubernetes else AuthMethod.ofName name

/-- The role of a pod: the one it names or, for a method that needs one, the
application's label. -/
def requestedRole (config : Config) (keys : AnnotationKeys) (pod : PodLabels) (method : AuthMethod) :
    Except InjectionError String :=
  let given := keys.value pod.annotations Annotations.role
  if given.isEmpty ∧ method = .kubernetes then
    let app := pod.label config.appLabel
    if app.isEmpty then .error (.missingLabel [config.appLabel]) else .ok app
  else .ok given

/-- The volume of the agent's token: the one mounted where the annotation says,
or the pod's own. -/
def requestedTokenVolume (keys : AnnotationKeys) (annotations : Dict String)
    (containers : List Container) (podTokenVolume : String) : Except InjectionError String :=
  let path := keys.value annotations Annotations.saToken
  if path.isEmpty then .ok podTokenVolume
  else tokenVolume containers (Text.dropSuffixes "/token" path)

/-- What modes work out for a pod, asked in order. -/
def computeConfigs (config : Config) (keys : AnnotationKeys) (pod : PodLabels) :
    List Mode → Dict ModeConfig → Except InjectionError (Dict ModeConfig)
  | [], configs => .ok configs
  | mode :: rest, configs => do
    let result ← mode.computeTemplate config keys pod
    computeConfigs config keys pod rest (Dict.insertSome configs mode.key result)

/-- Works out the context of an injection. -/
def build (config : Config) (keys : AnnotationKeys) (registry : Registry)
    (containers : List Container) (pod : PodLabels) : Except InjectionError Context := do
  let modes := requestedModes registry keys pod.annotations
  let authMethod ← requestedMethod keys pod.annotations
  let role ← requestedRole config keys pod authMethod
  let podTokenVolume ← tokenVolume containers podTokenMountPath
  let agentTokenVolume ← requestedTokenVolume keys pod.annotations containers podTokenVolume
  let modeConfigs ← computeConfigs config keys pod (registry.enabledModes modes) []
  return { modes, authMethod, role, podTokenVolume, agentTokenVolume, modeConfigs }

end Context

end SidecarInjection
