import SidecarInjection.Dict
import SidecarInjection.Error

/-!
# `SidecarInjection.Context.Basic`: what is known about one injection

A `Context` is worked out once for a pod, and every later step reads it: the
enabled modes, how the agent authenticates, and what each mode has rendered.
-/

set_option autoImplicit false

namespace SidecarInjection

/-- How the agent authenticates. -/
inductive AuthMethod where
  | kubernetes
  | approle
  deriving DecidableEq, Repr

namespace AuthMethod

/-- The written name. -/
def name : AuthMethod → String
  | .kubernetes => "kubernetes"
  | .approle => "approle"

/-- The method of this name. -/
def ofName (s : String) : Except InjectionError AuthMethod :=
  if s = "kubernetes" then .ok .kubernetes
  else if s = "approle" then .ok .approle
  else .error (.unsupportedValue .authMethod s)

end AuthMethod

/-- Whether secrets change while a pod runs. -/
inductive SecretsType where
  | dynamic
  | static
  deriving DecidableEq, Repr

namespace SecretsType

/-- The written name. -/
def name : SecretsType → String
  | .dynamic => "dynamic"
  | .static => "static"

/-- The type of this name. The empty name is the default. -/
def ofName (s : String) : Except InjectionError SecretsType :=
  if s = "" || s = "dynamic" then .ok .dynamic
  else if s = "static" then .ok .static
  else .error (.unsupportedValue .secretsType s)

end SecretsType

/-- How secrets reach the application. -/
inductive InjectionMethod where
  | file
  | env
  deriving DecidableEq, Repr

namespace InjectionMethod

/-- The written name. -/
def name : InjectionMethod → String
  | .file => "file"
  | .env => "env"

/-- The method of this name. The empty name is the default. -/
def ofName (s : String) : Except InjectionError InjectionMethod :=
  if s = "" || s = "file" then .ok .file
  else if s = "env" then .ok .env
  else .error (.unsupportedValue .injectionMethod s)

end InjectionMethod

/-- What the secrets mode has worked out for a pod. -/
structure SecretsConfig where
  secretsType : SecretsType
  method : InjectionMethod
  /-- The rendered blocks, one per destination. -/
  template : String
  deriving DecidableEq, Repr

/-- Whether the secrets are fetched once, before the application starts. -/
def SecretsConfig.isStatic (c : SecretsConfig) : Bool := c.secretsType = .static

/-- What the proxy mode has worked out for a pod. -/
structure ProxyConfig where
  port : Nat
  /-- The rendered listener configuration. -/
  template : String
  deriving DecidableEq, Repr

/-- What a mode has worked out for a pod. -/
inductive ModeConfig where
  | secrets (config : SecretsConfig)
  | proxy (config : ProxyConfig)
  deriving DecidableEq, Repr

/-- The rendered text of a mode. -/
def ModeConfig.template : ModeConfig → String
  | .secrets c => c.template
  | .proxy c => c.template

/-- For each mode, by its key, whether it is enabled. -/
structure EnabledModes where
  flags : Dict Bool
  deriving DecidableEq, Repr

namespace EnabledModes

/-- Whether a mode is enabled. -/
def isEnabled (m : EnabledModes) (key : String) : Bool := (Dict.get? m.flags key).getD false

/-- Enables a mode. -/
def enable (m : EnabledModes) (key : String) : EnabledModes := ⟨Dict.insert m.flags key true⟩

/-- The keys of the enabled modes, in order. -/
def enabled (m : EnabledModes) : List String := (m.flags.filter fun e => e.2).map Prod.fst

/-- Whether the enabled modes are exactly these. -/
def isExactly (m : EnabledModes) (keys : List String) : Bool :=
  m.enabled == Dict.keys (Dict.ofEntries (keys.map fun k => (k, ())))

end EnabledModes

/-- The key of the secrets mode. -/
def secretsKey : String := "secrets"

/-- The key of the proxy mode. -/
def proxyKey : String := "proxy"

/-- The key of the job mode. -/
def jobKey : String := "job"

/-- What is known about one injection. -/
structure Context where
  modes : EnabledModes
  authMethod : AuthMethod
  role : String
  /-- The volume that holds the pod's own service account token. -/
  podTokenVolume : String
  /-- The volume that holds the token the agent authenticates with. -/
  agentTokenVolume : String
  /-- What the modes have worked out, by their keys. -/
  modeConfigs : Dict ModeConfig

namespace Context

/-- What the secrets mode has worked out. -/
def secrets (ctx : Context) : Option SecretsConfig :=
  match Dict.get? ctx.modeConfigs secretsKey with
  | some (.secrets c) => some c
  | _ => none

/-- What the mode under the proxy key has worked out. -/
def proxy (ctx : Context) : Option ModeConfig := Dict.get? ctx.modeConfigs proxyKey

end Context

end SidecarInjection
