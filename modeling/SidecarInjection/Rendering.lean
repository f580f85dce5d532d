import SidecarInjection.Expansion
import SidecarInjection.Mode.Registry

/-!
# `SidecarInjection.Rendering`: configured containers made ready for a pod

A configured container is a template. Every enabled mode is asked about it. If
one claims it, its environment, its service account mounts and its commands are
filled in, and it is added in front of the pod's own containers.
-/

set_option autoImplicit false

namespace SidecarInjection

/-- Where Kubernetes mounts the service account token of a pod. -/
def podTokenMountPath : String := "/var/run/secrets/kubernetes.io/serviceaccount"

/-- Where injected containers mount the token they authenticate with. -/
def agentTokenMountPath : String := "/var/run/secrets/talend/vault-sidecar-injector/serviceaccount"

namespace Rendering

/-- The variable that holds the role. -/
def roleEnv : String := "VSI_VAULT_ROLE"

/-- The variable that holds the authentication method. -/
def authMethodEnv : String := "VSI_VAULT_AUTH_METHOD"

/-- The answers of modes about one container, asked in order. Each mode sees the
environment that the modes before it left. -/
def ask (target : Target) (podContainers : List Container) (name : String) (ctx : Context) :
    List Mode → ContainerAnswer → Except InjectionError ContainerAnswer
  | [], answer => .ok answer
  | mode :: rest, answer => do
    let next ← mode.injectContainer target podContainers name answer.env ctx
    ask target podContainers name ctx rest ⟨answer.claimed || next.claimed, next.env⟩

/-- The mount with the volume of the service account it is for. -/
def fillMount (ctx : Context) (m : VolumeMount) : VolumeMount :=
  if m.mountPath = podTokenMountPath then { m with name := ctx.podTokenVolume }
  else if m.mountPath = agentTokenMountPath then { m with name := ctx.agentTokenVolume }
  else m

/-- The value of a variable: that of its last entry with a value. -/
def lookup (env : List EnvVar) (name : String) : Option String :=
  (env.reverse.find? fun e => e.name = name && e.value.isSome).bind EnvVar.value

/-- The environment with the values that every container gets. -/
def fillEnv (ctx : Context) (env : List EnvVar) : List EnvVar :=
  EnvVar.setAll (EnvVar.setAll env roleEnv ctx.role) authMethodEnv ctx.authMethod.name

/-- The container of a claimed template, with the environment that the modes
left. -/
def fill (ctx : Context) (template : Container) (env : List EnvVar) : Container :=
  let env := fillEnv ctx env
  let expandAll := List.map (Expansion.expand (lookup env))
  { template with
    command := template.command.map expandAll
    args := template.args.map expandAll
    env := template.env.map fun _ => env
    volumeMounts := template.volumeMounts.map (List.map (fillMount ctx)) }

/-- The container made from a template, if some mode claims it. -/
def render (registry : Registry) (target : Target) (podContainers : List Container)
    (ctx : Context) (template : Container) : Except InjectionError (Option Container) := do
  let answer ← ask target podContainers template.name ctx (registry.enabledModes ctx.modes)
    (.decline (template.env.getD []))
  return if answer.claimed then some (fill ctx template answer.env) else none

/-- The containers made from the claimed templates, in order. -/
def renderAll (registry : Registry) (target : Target) (podContainers : List Container)
    (ctx : Context) : List Container → Except InjectionError (List Container)
  | [] => .ok []
  | template :: rest => do
    let container ← render registry target podContainers ctx template
    let others ← renderAll registry target podContainers ctx rest
    return container.toList ++ others

/-- The edits that put containers at consecutive places from `index`. -/
def insertions (target : Target) (index : Nat) : List Container → Patch
  | [] => []
  | c :: rest => .add (target.itemPath index) c.toJson :: insertions target (index + 1) rest

/-- The edits that put containers in front of a list. The first one creates a
list that is absent. -/
def prepend (target : Target) (absent : Bool) : List Container → Patch
  | [] => []
  | c :: rest =>
    if absent then .add target.listPath (.arr [c.toJson]) :: insertions target 1 rest
    else insertions target 0 (c :: rest)

/-- The edits that inject the claimed templates into one list of a pod. -/
def patch (registry : Registry) (target : Target) (templates : List Container)
    (existing : Option (List Container)) (ctx : Context) : Except InjectionError Patch := do
  let containers ← renderAll registry target (existing.getD []) ctx templates
  return prepend target existing.isNone containers

end Rendering

end SidecarInjection
