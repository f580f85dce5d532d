import SidecarInjection.Proofs.Context.Build
import SidecarInjection.Proofs.Injection.Create
import SidecarInjection.Proofs.Proxy.Port

/-!
# `SidecarInjection.Proofs.Context.Coherence`: what every context satisfies

The parts of a context are worked out one by one, and later steps rely on links between
them: that there is a role to log in with, that an enabled mode has its configuration,
that static secrets are only used where the agent can log in before the application
starts. `Context.Coherent` lists these links, and every context that is worked out with
the built-in modes has them.

* `Context.firstMount_of_tokenVolume`: the volume of a token is that of the first mount.
* `Context.keys_modeConfigsOf`: the modes that have a configuration.
* `Proxy.port_of_compute`: the port of the proxy.
* `Context.build_coherent`: the links hold.
-/

set_option autoImplicit false

namespace SidecarInjection

open Outcome

/-! ### The parts of a context -/

namespace Proxy

/-- The port of the proxy is a port number. -/
theorem port_of_compute {config : Config} {keys : AnnotationKeys} {labels : PodLabels}
    {c : ProxyConfig} (h : compute config keys labels = .ok c) : 1 ≤ c.port ∧ c.port ≤ 65535 :=
  (compute_eq_ok_iff.mp h).1.bounds

end Proxy

namespace Context

variable {config : Config} {keys : AnnotationKeys} {pod : PodLabels}
  {containers : List Container} {ctx : Context}

/-- A volume is the one of the first mount at a path, in the order of the containers and
of their mounts. -/
def FirstMount (containers : List Container) (path volume : String) : Prop :=
  ∃ before m after, containers.flatMap Container.mounts = before ++ m :: after ∧
    m.name = volume ∧ m.mountPath = path ∧ ∀ other ∈ before, other.mountPath ≠ path

/-- A volume that was found for a path is the first one mounted there. -/
theorem firstMount_of_tokenVolume {path volume : String}
    (h : tokenVolume containers path = .ok volume) : FirstMount containers path volume := by
  unfold tokenVolume at h
  split at h
  · rename_i m hfind
    cases h
    obtain ⟨hpath, before, after, hmounts, hbefore⟩ := List.find?_eq_some_iff_append.mp hfind
    refine ⟨before, m, after, hmounts, rfl, by simpa using hpath, fun other hother => ?_⟩
    simpa using hbefore other hother
  · cases h

/-- A method that needs a role gets one. -/
theorem role_ne_empty {method : AuthMethod} {role : String}
    (h : requestedRole config keys pod method = .ok role) (hmethod : method = .kubernetes) :
    role ≠ "" := by
  unfold requestedRole at h
  dsimp only at h
  split at h
  · split at h
    · cases h
    · rename_i happ
      cases h
      simpa using happ
  · rename_i hgiven
    cases h
    -- The pod names a role, since the label is asked for otherwise.
    intro hrole
    exact hgiven ⟨by simp [hrole], hmethod⟩

/-- A job workload enables the job mode. -/
theorem isEnabled_job_of_workload {registry : Registry}
    (h : keys.value pod.annotations Annotations.workload = Annotations.workloadJob) :
    (requestedModes registry keys pod.annotations).isEnabled jobKey = true := by
  unfold requestedModes
  dsimp only
  rw [if_pos h, EnabledModes.isEnabled, EnabledModes.enable, Dict.get?_insert_self]
  rfl

/-- The proxy and the secrets are the modes that have a configuration, in the order of
their keys. -/
theorem keys_modeConfigsOf (secrets : Option SecretsConfig) (proxy : Option ProxyConfig) :
    Dict.keys (modeConfigsOf secrets proxy) =
      (if proxy.isSome then [proxyKey] else []) ++
        (if secrets.isSome then [secretsKey] else []) := by
  have hplace : proxyKey < secretsKey := by decide
  cases secrets with
  | none => cases proxy <;> rfl
  | some s =>
    cases proxy with
    | none => rfl
    | some p =>
      -- The proxy is worked out later, but its key comes first in order.
      show Dict.keys (Dict.insert [(secretsKey, ModeConfig.secrets s)] proxyKey (.proxy p)) = _
      rw [Dict.insert, if_neg (by simp [Dict.contains, secretsKey, proxyKey]), Dict.place,
        if_pos hplace]
      rfl

/-! ### The links between them -/

/-- The links between the parts of a context. -/
structure Coherent (keys : AnnotationKeys) (containers : List Container) (pod : PodLabels)
    (ctx : Context) : Prop where
  /-- The method that needs a role has one. -/
  role : ctx.authMethod = .kubernetes → ctx.role ≠ ""
  /-- The token of the pod is on the volume that is first mounted at its place. -/
  podTokenVolume : FirstMount containers podTokenMountPath ctx.podTokenVolume
  /-- The token of the agent is on a volume that the pod's own containers mount. -/
  agentTokenVolume : Mounted containers ctx.agentTokenVolume
  /-- The enabled ones of two modes have a configuration, and no other mode has one. -/
  configured : Dict.keys ctx.modeConfigs =
    (if ctx.modes.isEnabled proxyKey then [proxyKey] else []) ++
      (if ctx.modes.isEnabled secretsKey then [secretsKey] else [])
  /-- The secrets mode has a configuration of its own kind just when it is enabled. -/
  secrets : ctx.secrets.isSome = true ↔ ctx.modes.isEnabled secretsKey = true
  /-- The proxy mode has a configuration of its own kind just when it is enabled. -/
  proxy : (∃ c, ctx.proxy = some (.proxy c)) ↔ ctx.modes.isEnabled proxyKey = true
  /-- The proxy listens on a port number. -/
  port : ∀ c, ctx.proxy = some (.proxy c) → 1 ≤ c.port ∧ c.port ≤ 65535
  /-- Only static secrets are handed over as environment variables. -/
  static : ∀ s, ctx.secrets = some s → s.method = .env → s.secretsType = .static
  /-- Static secrets are fetched with the token of the pod. -/
  kubernetes : ∀ s, ctx.secrets = some s → s.secretsType = .static → ctx.authMethod = .kubernetes
  /-- A job workload runs in the job mode. -/
  job : keys.value pod.annotations Annotations.workload = "job" →
    ctx.modes.isEnabled jobKey = true

/-- What is there was worked out by the mode. -/
theorem compute_of_config {α : Type} {x : Except InjectionError α} {enabled : Bool} {c : α}
    (h : (if enabled then some <$> x else .ok none) = .ok (some c)) : x = .ok c := by
  cases enabled with
  | false => cases h
  | true =>
    obtain ⟨c', hc', hsome⟩ := map_eq_ok.mp h
    rw [hc', Option.some.inj hsome]

/-- Every context that is worked out with the built-in modes is coherent. -/
theorem build_coherent (config : Config) (keys : AnnotationKeys) (containers : List Container)
    (pod : PodLabels) (ctx : Context) (h : build config keys .builtin containers pod = .ok ctx) :
    Coherent keys containers pod ctx := by
  obtain ⟨hmodes, hmethod, hrole, hpodVolume, -, -⟩ := build_eq_ok_iff.mp h
  have hsecrets := isSome_of_config (secrets_of_build h)
  obtain ⟨proxy, hproxy, hfound, hconfigs⟩ := proxy_of_build h
  have hproxySome := isSome_of_config hproxy
  -- What is left are the links between modes and what is worked out for them.
  refine ⟨role_ne_empty hrole, firstMount_of_tokenVolume hpodVolume,
    (tokenVolumes_of_build h).2, ?_, ?_, ?_, ?_, ?_, ?_, ?_⟩
  · rw [hconfigs, keys_modeConfigsOf, hsecrets, hproxySome]
  · rw [hsecrets]
  · rw [← hproxySome, hfound]
    cases proxy <;> simp
  · intro c hc
    rw [hfound] at hc
    obtain ⟨c', rfl, hc'⟩ := Option.map_eq_some_iff.mp hc
    cases hc'
    exact Proxy.port_of_compute (compute_of_config hproxy)
  · intro s hs
    have hcompute := compute_of_config (hs ▸ secrets_of_build h)
    exact (Secrets.compute_eq_ok hcompute).2.2.1
  -- Static secrets are refused for the other method, so a context with them has this one.
  · intro s hs hstatic
    have hcompute := compute_of_config (hs ▸ secrets_of_build h)
    exact (requestedMethod_eq_ok hmethod).mpr ((Secrets.compute_eq_ok hcompute).2.2.2 hstatic)
  · intro hworkload
    rw [hmodes]
    exact isEnabled_job_of_workload hworkload

end Context

/-! ### A small pod -/

namespace Sample

/-- The labels and annotations of a job that asks for static secrets in its environment,
and for a proxy on a port of its own. -/
def everyMode : PodLabels where
  labels := [("app", "shop"), ("service", "cart")]
  annotations := [("mode", "secrets,proxy"), ("proxy-port", "8300"),
    ("secrets-injection-method", "env"), ("secrets-type", "static"), ("workload", "job")]

end Sample

namespace Context

/-- All three modes are enabled for the small pod, and its context is coherent. -/
theorem build_coherent_sample :
    ∃ ctx, build Sample.config (Injector.mk Sample.config .builtin).keys .builtin [Sample.web]
        Sample.everyMode = .ok ctx ∧
      ctx.modes.enabled = [jobKey, proxyKey, secretsKey] ∧
      ctx.secrets.any SecretsConfig.isStatic = true ∧
      Coherent (Injector.mk Sample.config .builtin).keys [Sample.web] Sample.everyMode ctx := by
  have hbuilt : (build Sample.config (Injector.mk Sample.config .builtin).keys .builtin
      [Sample.web] Sample.everyMode).toOption.any (fun ctx =>
        ctx.modes.enabled = [jobKey, proxyKey, secretsKey] &&
          ctx.secrets.any SecretsConfig.isStatic) = true := by decide +kernel
  obtain ⟨ctx, hctx, hseen⟩ := exists_of_any hbuilt
  obtain ⟨henabled, hstatic⟩ : ctx.modes.enabled = [jobKey, proxyKey, secretsKey] ∧
      ctx.secrets.any SecretsConfig.isStatic = true := by simpa using hseen
  exact ⟨ctx, hctx, henabled, hstatic, build_coherent _ _ _ _ ctx hctx⟩

end Context

end SidecarInjection
