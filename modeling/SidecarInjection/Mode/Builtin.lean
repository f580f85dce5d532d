import SidecarInjection.Mode.Job
import SidecarInjection.Mode.Proxy
import SidecarInjection.Mode.Registry
import SidecarInjection.Mode.Secrets

/-!
# `SidecarInjection.Mode.Builtin`: the modes every injector starts with
-/

set_option autoImplicit false

namespace SidecarInjection

/-- The built-in modes, in order. -/
def builtinModes : List Mode := [Secrets.mode, Proxy.mode, Job.mode]

/-- The registry of the built-in modes. -/
def Registry.builtin : Registry := .ofList builtinModes

end SidecarInjection
