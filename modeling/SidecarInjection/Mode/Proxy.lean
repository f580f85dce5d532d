import SidecarInjection.Mode.Basic
import SidecarInjection.Text.Search

/-!
# `SidecarInjection.Mode.Proxy`: the proxy mode

Runs the agent as a local proxy for the application, on a port that the pod may
choose.
-/

set_option autoImplicit false

namespace SidecarInjection.Proxy

/-- Names the port. -/
def portKey : String := "proxy-port"

/-- The port when the pod names none. -/
def defaultPort : String := "8200"

/-- Stands for the port. -/
def portPlaceholder : String := "<VSI_PROXY_PORT>"

/-- The container that runs the agent. -/
def agentContainer : String := "tvsi-vault-agent"

/-- The variable that holds the rendered listener configuration. -/
def configEnv : String := "VSI_PROXY_CONFIG_PLACEHOLDER"

/-- The number written by digits with an optional plus sign. -/
def readUnsigned (s : String) : Option Nat :=
  match s.toList with
  | '+' :: digits => Decimal.read digits
  | digits => Decimal.read digits

/-- The port a text names: a number from 1 to 65535. -/
def readPort (s : String) : Option Nat :=
  (readUnsigned s).filter fun n => 0 < n && n ≤ 65535

/-- What the mode works out from the annotations of a pod. -/
def compute (config : Config) (keys : AnnotationKeys) (pod : PodLabels) :
    Except InjectionError ProxyConfig :=
  let given := keys.value pod.annotations portKey
  let raw := if given.isEmpty then defaultPort else given
  match readPort raw with
  | some port =>
    .ok ⟨port, Text.replaceAll portPlaceholder (Decimal.text port) config.proxyConfig⟩
  | none => .error (.annotationFault (keys.qualified portKey) (.invalidPort raw))

/-- The mode's answer about a configured container. -/
def answer (target : Target) (name : String) (env : List EnvVar) (ctx : Context) :
    ContainerAnswer :=
  if target = .containers ∧ name = agentContainer then
    match ctx.proxy with
    | some config => .claim (EnvVar.setAll env configEnv config.template)
    | none => .decline env
  else .decline env

/-- The proxy mode. -/
def mode : Mode where
  key := proxyKey
  annotationKeys := [portKey]
  computeTemplate config keys pod := (compute config keys pod).map fun c => some (.proxy c)
  injectContainer target _ name env ctx := .ok (answer target name env ctx)

end SidecarInjection.Proxy
