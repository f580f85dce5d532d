import SidecarInjection.Injector

/-!
# `SidecarInjection.Proofs.Injection.Effect`: what the edits come to

The edits of `Injector.createPatch` taken together, as one update of the typed pod. No
pointer and no position occurs here. The update is computed, with the same functions of
the modes that the edits are made with. It stands between the edits and `Direct.Injected`,
which says what injection is without any of them.
-/

set_option autoImplicit false

namespace SidecarInjection.Effect

/-- Whether the pod gets secrets that are kept up to date. -/
def isDynamic (ctx : Context) : Bool := ctx.secrets.any fun s => s.secretsType = .dynamic

/-- Whether the pod gets secrets that are fetched once and handed over as environment
variables. -/
def isStaticEnv (ctx : Context) : Bool :=
  ctx.secrets.any fun s => s.secretsType = .static && s.method = .env

/-- The start hook that the pod's own containers get: the configured one with the
directory of the secrets filled in, if secrets are dynamic and the pod asks for it. -/
def startHook (i : Injector) (labels : PodLabels) (ctx : Context) (containers : List Container) :
    Option LifecycleHandler :=
  if isDynamic ctx && Annotations.isTruthy (i.keys.value labels.annotations Secrets.hookKey) then
    (i.config.lifecycleHooks.postStart.bind LifecycleHandler.exec).map fun exec =>
      Secrets.resolveHook exec containers
  else none

/-- The container with a start hook, if there is one to set. -/
def setHook (hook : Option LifecycleHandler) (c : Container) : Container :=
  match hook with
  | none => c
  | some hook => Secrets.withHook hook c

/-- The process that the pod's own containers are run by, if secrets are static and
handed over as environment variables. -/
def envProcess (ctx : Context) (containers : List Container) : Option String :=
  if isStaticEnv ctx then some (Secrets.mountPath containers ++ "/" ++ Secrets.envProcess) else none

/-- The container with its command run by a process, if there is one. -/
def wrapCommand (process : Option String) (c : Container) : Container :=
  match process with
  | none => c
  | some process => { c with command := c.command.map fun command => process :: command }

/-- Whether a container mounts the secrets volume, or another one in its place. -/
def isMounted (c : Container) : Bool :=
  c.mounts.any fun m => m.name = Secrets.volumeName || m.mountPath = Secrets.defaultMountPath

/-- The container with the secrets volume mounted after its own mounts. -/
def addMount (c : Container) : Container :=
  if isMounted c then c
  else { c with
    volumeMounts := some (c.mounts ++ [.plain Secrets.volumeName Secrets.defaultMountPath]) }

/-- The container with the secrets volume mounted, if the secrets mode is enabled. -/
def mountSecrets (ctx : Context) (c : Container) : Container :=
  if ctx.modes.isEnabled secretsKey then addMount c else c

/-- A list that is absent stays so when nothing is added. -/
def orAbsent {α : Type} (existing : Option (List α)) (all : List α) : Option (List α) :=
  if existing.isNone && all.isEmpty then none else some all

/-- The configured volumes that a pod does not define. -/
def newVolumes (i : Injector) (spec : PodSpec) : List Volume :=
  i.config.injection.volumes.filter fun v => !(spec.volumes.getD []).any fun w => w.name = v.name

/-- The metadata with the mark of an injected pod. -/
def mark (i : Injector) (metadata : ObjectMeta) : ObjectMeta :=
  { metadata with
    annotations := some (Dict.insert (metadata.annotations.getD [])
      (i.keys.qualified Annotations.status) Annotations.injected) }

/-- The specification with the pod's own containers edited. -/
def updateOwn (i : Injector) (labels : PodLabels) (ctx : Context) (spec : PodSpec) : PodSpec :=
  let hook := startHook i labels ctx spec.containers
  let process := envProcess ctx spec.containers
  { spec with
    containers := spec.containers.map fun c =>
      mountSecrets ctx (wrapCommand process (setHook hook c))
    initContainers := spec.initContainers.map (List.map (mountSecrets ctx)) }

/-- The specification with the rendered containers in front of the pod's own ones, and
the volumes that are missing after the others. -/
def update (i : Injector) (labels : PodLabels) (ctx : Context)
    (initContainers containers : List Container) (spec : PodSpec) : PodSpec :=
  let own := updateOwn i labels ctx spec
  { own with
    containers := containers ++ own.containers
    initContainers := orAbsent own.initContainers (initContainers ++ own.initContainers.getD [])
    volumes := orAbsent spec.volumes (spec.volumes.getD [] ++ newVolumes i spec) }

/-- The injected specification. -/
def updateSpec (i : Injector) (metadata : ObjectMeta) (spec : PodSpec) :
    Except InjectionError PodSpec := do
  let labels := PodLabels.ofMetadata metadata
  let ctx ← Context.build i.config i.keys i.registry spec.containers labels
  let initContainers ← Rendering.renderAll i.registry .initContainers
    (spec.initContainers.getD []) ctx i.config.injection.initContainers
  let containers ← Rendering.renderAll i.registry .containers spec.containers ctx
    i.config.injection.containers
  return update i labels ctx initContainers containers spec

/-- The injected pod. Its status and all that is not named here stay as they are. -/
def inject (i : Injector) (pod : Pod) : Except InjectionError Pod := do
  let spec ← Injector.specification pod
  let new ← updateSpec i pod.metadata spec
  return { pod with metadata := mark i pod.metadata, spec := some new }

end SidecarInjection.Effect
