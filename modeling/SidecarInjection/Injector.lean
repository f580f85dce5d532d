import SidecarInjection.Context.Build
import SidecarInjection.Mode.Builtin
import SidecarInjection.Policy
import SidecarInjection.Rendering

/-!
# `SidecarInjection.Injector`: the patch that injects a pod

An injector holds a configuration and a registry of modes. For a pod it works
out a context, collects the edits of every step, and tries them.
Edits of a pod's own containers come before the insertion of containers, since
they name them by position.
-/

set_option autoImplicit false

namespace SidecarInjection

/-- A configuration and a registry of modes. -/
structure Injector where
  config : Config
  registry : Registry

namespace Injector

/-- The annotation keys of an injector. -/
def keys (i : Injector) : AnnotationKeys :=
  .ofShortKeys i.config.annotationQualifier (Annotations.coreKeys ++ i.registry.annotationKeys)

/-- Whether a pod with this metadata is to be injected. -/
def mutationRequired (i : Injector) (metadata : ObjectMeta) : Bool :=
  Policy.mutationRequired Policy.ignoredNamespaces i.keys metadata

/-- The edit that mounts the secrets volume into the container at an index. A
container that mounts it, or another volume in its place, is left alone. -/
def mountOperation (target : Target) (index : Nat) (c : Container) : Option Operation :=
  let mount := VolumeMount.plain Secrets.volumeName Secrets.defaultMountPath
  match c.volumeMounts with
  | none => some (.add (target.itemPath index ++ ["volumeMounts"]) (.arr [mount.toJson]))
  | some mounts =>
    if mounts.any fun m => m.name = Secrets.volumeName then none
    else if mounts.any fun m => m.mountPath = Secrets.defaultMountPath then none
    else some (.add (target.itemPath index ++ ["volumeMounts", "-"]) mount.toJson)

/-- Mounts the secrets volume into the containers of a list. -/
def mountPatch (target : Target) (containers : List Container) : Patch :=
  containers.zipIdx.filterMap fun ci => mountOperation target ci.2 ci.1

/-- The edits that add volumes to a pod. The first one creates a list that is
absent. -/
def volumeAdditions (absent : Bool) : List Volume → Patch
  | [] => []
  | v :: rest =>
    (if absent then .add ["spec", "volumes"] (.arr [v.toJson])
      else .add ["spec", "volumes", "-"] v.toJson) :: volumeAdditions false rest

/-- Adds the configured volumes that a pod does not define. -/
def volumePatch (i : Injector) (spec : PodSpec) : Patch :=
  let existing := (spec.volumes.getD []).map Volume.name
  volumeAdditions spec.volumes.isNone
    (i.config.injection.volumes.filter fun v => !existing.contains v.name)

/-- Marks a pod as injected. -/
def statusOperation (i : Injector) (metadata : ObjectMeta) : Operation :=
  let key := i.keys.qualified Annotations.status
  let injected := Json.str Annotations.injected
  match metadata.annotations with
  | none => .add ["metadata", "annotations"] (.obj [(key, injected)])
  | some annotations =>
    if Dict.contains annotations key then .replace ["metadata", "annotations", key] injected
    else .add ["metadata", "annotations", key] injected

/-- The edits that modes make to a pod, in order. -/
def modePatch (i : Injector) (spec : PodSpec) (pod : PodLabels) (ctx : Context) :
    List Mode → Except InjectionError Patch
  | [] => .ok []
  | mode :: rest => do
    let edits ← mode.patchPod i.config i.keys spec pod ctx
    let others ← i.modePatch spec pod ctx rest
    return edits ++ others

/-- The mounts of the secrets volume, when the secrets mode is enabled. -/
def secretsPatch (spec : PodSpec) (ctx : Context) : Patch :=
  if ctx.modes.isEnabled secretsKey then
    mountPatch .initContainers (spec.initContainers.getD []) ++
      mountPatch .containers spec.containers
  else []

/-- All edits of a pod with containers, in the order they are applied. -/
def edits (i : Injector) (metadata : ObjectMeta) (spec : PodSpec) :
    Except InjectionError Patch := do
  let pod := PodLabels.ofMetadata metadata
  let ctx ← Context.build i.config i.keys i.registry spec.containers pod
  let modeEdits ← i.modePatch spec pod ctx (i.registry.enabledModes ctx.modes)
  let initContainers ← Rendering.patch i.registry .initContainers
    i.config.injection.initContainers spec.initContainers ctx
  let containers ← Rendering.patch i.registry .containers
    i.config.injection.containers (some spec.containers) ctx
  return modeEdits ++ secretsPatch spec ctx ++ i.volumePatch spec ++ initContainers ++
    containers ++ [i.statusOperation metadata]

/-- The specification of a pod that has containers. -/
def specification (pod : Pod) : Except InjectionError PodSpec :=
  match pod.spec with
  | none => .error .noContainers
  | some spec => if spec.containers.isEmpty then .error .noContainers else .ok spec

/-- A patch that has been tried on a document. -/
def verify (patch : Patch) (doc : Json) : Except InjectionError Unit :=
  match patch.apply doc with
  | .ok _ => .ok ()
  | .error e => .error (.invalidPatch e)

/-- Every edit that injects a pod. They have been tried on its written form. -/
def createPatch (i : Injector) (pod : Pod) : Except InjectionError Patch := do
  let spec ← specification pod
  let patch ← i.edits pod.metadata spec
  verify patch pod.toJson
  return patch

/-- The patch for a submitted pod, if it is to be injected. -/
def mutate (i : Injector) (pod : Pod) : Except InjectionError (Option Patch) :=
  if i.mutationRequired pod.metadata then (i.createPatch pod).map some else .ok none

end Injector

end SidecarInjection
