import SidecarInjection.Mode.Basic
import SidecarInjection.Text.Search

/-!
# `SidecarInjection.Mode.Secrets`: the secrets mode

Fetches secrets into files on a shared volume. Dynamic secrets are kept up to
date by an agent beside the application. Static ones are fetched once by an init
container, and may be handed over as environment variables.
-/

set_option autoImplicit false

namespace SidecarInjection.Secrets

/-- Lists the paths of the secrets. -/
def pathKey : String := "secrets-path"

/-- Lists templates for the secrets. -/
def templateKey : String := "secrets-template"

/-- Lists the files the secrets are written to. -/
def destinationKey : String := "secrets-destination"

/-- Asks for the start hook. -/
def hookKey : String := "secrets-hook"

/-- Says whether secrets change while a pod runs. -/
def typeKey : String := "secrets-type"

/-- Says how secrets reach the application. -/
def methodKey : String := "secrets-injection-method"

/-- Lists the commands to run when secrets change. -/
def notifyKey : String := "notify"

/-- The short annotation keys of the mode. -/
def annotationKeys : List String :=
  [pathKey, templateKey, destinationKey, hookKey, typeKey, methodKey, notifyKey]

/-- The container that keeps dynamic secrets up to date. -/
def agentContainer : String := "tvsi-vault-agent"

/-- The init container that fetches static secrets. -/
def agentInitContainer : String := "tvsi-vault-agent-init"

/-- The init container that hands secrets over as environment variables. -/
def envInitContainer : String := "tvsi-env-init"

/-- The volume that holds the secrets. -/
def volumeName : String := "secrets"

/-- Where the volume is mounted when a pod does not mount it itself. -/
def defaultMountPath : String := "/opt/talend/secrets"

/-- The file that secrets are written to when none is named. -/
def defaultDestination : String := "secrets.properties"

/-- The process that runs a command with secrets in its environment. -/
def envProcess : String := "vaultinjector-env"

/-- Stands for the path of a secret. -/
def pathPlaceholder : String := "<VSI_SECRETS_VAULT_SECRETS_PATH>"

/-- Stands for the file of a secret. -/
def destinationPlaceholder : String := "<VSI_SECRETS_DESTINATION>"

/-- Stands for the template of a secret. -/
def contentPlaceholder : String := "<VSI_SECRETS_TEMPLATE_CONTENT>"

/-- Stands for the command to run when a secret changes. -/
def commandPlaceholder : String := "<VSI_SECRETS_TEMPLATE_COMMAND_TO_RUN>"

/-- Stands for the directory of the secrets in a hook. -/
def mountPathPlaceholder : String := "<VSI_SECRETS_VOL_MOUNTPATH>"

/-- The variable that holds the rendered blocks. -/
def templatesEnv : String := "VSI_SECRETS_TEMPLATES_PLACEHOLDER"

/-- Whether a list has the form that an absent annotation splits into. -/
def isUnset (entries : List String) : Bool := entries == [""]

/-- The path of an application's secrets. -/
def defaultPath (app service : String) : String := "secret/" ++ app ++ "/" ++ service

/-- The paths of the secrets. They fall back on the labels of the pod. -/
def paths (config : Config) (pod : PodLabels) (listed : String) :
    Except InjectionError (List String) :=
  let given := Text.splitOn "," listed
  if isUnset given then
    let app := pod.label config.appLabel
    let service := pod.label config.serviceLabel
    if app.isEmpty || service.isEmpty then
      .error (.missingLabel [config.appLabel, config.serviceLabel])
    else .ok [defaultPath app service]
  else .ok given

/-- The files that secrets are written to. -/
def destinations (listed : String) : List String :=
  let given := Text.splitOn "," listed
  if isUnset given then [defaultDestination] else given

/-- For each destination the path and the template that go with it. Templates
from the annotation carry their own paths. -/
def sources (config : Config) (destinations paths : List String) (listed : String) :
    Except InjectionError (List (String × String)) :=
  let templates := Text.splitOn "---" listed
  if isUnset templates then
    if destinations.length = paths.length then
      .ok (paths.map fun p => (p, config.templateDefault))
    else .error (.listLengthMismatch (.destinationsPaths destinations.length paths.length))
  else
    if destinations.length = templates.length then .ok (templates.map fun t => ("", t))
    else .error (.listLengthMismatch (.destinationsTemplates destinations.length templates.length))

/-- One rendered block: the placeholders are replaced one kind after another,
so that the path and the command also reach into the template. -/
def renderBlock (block destination path template command : String) : String :=
  Text.replaceAll commandPlaceholder command
    (Text.replaceAll pathPlaceholder path
      (Text.replaceAll contentPlaceholder template
        (Text.replaceAll destinationPlaceholder destination block)))

/-- The rendered blocks, each with a line break after it. Commands that are
missing are empty. -/
def renderBlocks (block : String) :
    List String → List (String × String) → List String → String
  | d :: ds, (p, t) :: sources, commands =>
    renderBlock block d p t (commands.headD "") ++ "\n" ++
      renderBlocks block ds sources commands.tail
  | _, _, _ => ""

/-- What the mode works out from the annotations of a pod. -/
def compute (config : Config) (keys : AnnotationKeys) (pod : PodLabels) :
    Except InjectionError SecretsConfig := do
  let value := keys.value pod.annotations
  let secretsType ← SecretsType.ofName (Text.lowercase (value typeKey))
  let method ← InjectionMethod.ofName (Text.lowercase (value methodKey))
  if secretsType = .dynamic ∧ method = .env then
    throw (.unsupportedCombination .envWithDynamic)
  if secretsType = .static ∧ Text.lowercase (value Annotations.auth) = AuthMethod.approle.name then
    throw (.unsupportedCombination .approleWithStatic)
  let paths ← paths config pod (value pathKey)
  let destinations := destinations (value destinationKey)
  let sources ← sources config destinations paths (value templateKey)
  let commands := Text.splitOn "," (value notifyKey)
  if destinations.length < commands.length then
    throw (.listLengthMismatch (.commandsDestinations commands.length destinations.length))
  return ⟨secretsType, method, renderBlocks config.templateBlock destinations sources commands⟩

/-- Where the pod's containers mount the secrets volume: the first mount of it,
or the default. -/
def mountPath (containers : List Container) : String :=
  match (containers.flatMap Container.mounts).find? fun m => m.name = volumeName with
  | some m => m.mountPath
  | none => defaultMountPath

/-- The container with a start hook, in place of any it had. -/
def withHook (hook : LifecycleHandler) (c : Container) : Container :=
  { c with lifecycle := some { c.lifecycle.getD .empty with postStart := some hook } }

/-- The start hook with the directory of the secrets filled in. -/
def resolveHook (exec : ExecAction) (containers : List Container) : LifecycleHandler :=
  .run (exec.command.map fun args =>
    args.map fun arg => Text.replaceAll mountPathPlaceholder (mountPath containers) arg)

/-- Whether the pod asks for the start hook, and its secrets are dynamic. -/
def hookRequested (keys : AnnotationKeys) (pod : PodLabels) (ctx : Context) : Bool :=
  match ctx.secrets with
  | none => false
  | some secrets => !secrets.isStatic && Annotations.isTruthy (keys.value pod.annotations hookKey)

/-- Replaces every container of the pod by the same one with the start hook. -/
def hookPatch (config : Config) (keys : AnnotationKeys) (spec : PodSpec) (pod : PodLabels)
    (ctx : Context) : Except InjectionError Patch :=
  if !hookRequested keys pod ctx then .ok []
  else if ctx.modes.isEnabled jobKey then
    .error (.unsupportedCombination (.hookWithJob (keys.qualified hookKey)))
  else
    match config.lifecycleHooks.postStart with
    | none => .ok []
    | some postStart =>
      match postStart.exec with
      | none => .error (.config .hookWithoutExec)
      | some exec =>
        let hook := resolveHook exec spec.containers
        .ok (spec.containers.mapIdx fun i c =>
          .replace (Target.containers.itemPath i) (withHook hook c).toJson)

/-- Whether secrets are handed over as environment variables. -/
def usesEnv (ctx : Context) : Bool :=
  match ctx.secrets with
  | none => false
  | some secrets => secrets.isStatic && secrets.method = .env

/-- The command of a container, run by the process that loads the secrets. -/
def wrapCommand (process : String) (c : Container) : Except InjectionError (List String) :=
  match c.command with
  | some (program :: args) => .ok (process :: program :: args)
  | _ => .error (.annotationFault methodKey (.commandMissing c.name))

/-- The edit that wraps the command of the container at an index. -/
def wrapOperation (process : String) (index : Nat) (c : Container) :
    Except InjectionError Operation := do
  let command ← wrapCommand process c
  return .replace (Target.containers.itemPath index ++ ["command"]) (.texts command)

/-- Wraps the command of every container of the pod. -/
def commandPatch (spec : PodSpec) (ctx : Context) : Except InjectionError Patch :=
  if usesEnv ctx then
    let process := mountPath spec.containers ++ "/" ++ envProcess
    spec.containers.zipIdx.mapM fun ci => wrapOperation process ci.2 ci.1
  else .ok []

/-- Whether the mode wants a configured container injected. -/
def wants (secrets : SecretsConfig) (target : Target) (name : String) : Bool :=
  match target with
  | .initContainers =>
    secrets.isStatic &&
      (name = agentInitContainer || (name = envInitContainer && secrets.method = .env))
  | .containers => !secrets.isStatic && name = agentContainer

/-- The mode's answer about a configured container. -/
def answer (target : Target) (name : String) (env : List EnvVar) (ctx : Context) :
    ContainerAnswer :=
  match ctx.secrets with
  | none => .decline env
  | some secrets =>
    if wants secrets target name then .claim (EnvVar.setAll env templatesEnv secrets.template)
    else .decline env

/-- The secrets mode. It is the default. -/
def mode : Mode where
  key := secretsKey
  isDefault := true
  annotationKeys := annotationKeys
  computeTemplate config keys pod := (compute config keys pod).map fun c => some (.secrets c)
  patchPod config keys spec pod ctx := do
    let hooks ← hookPatch config keys spec pod ctx
    let commands ← commandPatch spec ctx
    return hooks ++ commands
  injectContainer target _ name env ctx := .ok (answer target name env ctx)

end SidecarInjection.Secrets
