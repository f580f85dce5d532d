import SidecarInjection.Context.Build
import SidecarInjection.Mode.Builtin
import SidecarInjection.Proofs.Outcome

/-!
# `SidecarInjection.Proofs.Context.Build`: contexts of the built-in modes

What the built-in modes work out for a pod. The secrets mode is asked before the
proxy mode, and the job mode works out nothing.

* `Context.computeConfigs_builtin`: the configurations that are worked out.
* `Context.build_eq_ok_iff`: a context is worked out part by part.
* `Context.secrets_of_build`: a context holds what the secrets mode works out, if
  that mode is enabled, and nothing otherwise.
* `Context.proxy_isSome_of_build`: the same for the proxy mode.
* `Context.tokenVolumes_of_build`: the token volumes are mounted by the pod.
-/

set_option autoImplicit false

namespace SidecarInjection

open Outcome

namespace Registry

/-- The built-in modes in the order in which they are asked. -/
theorem builtin_modes : builtin.modes = [Secrets.mode, Proxy.mode, Job.mode] := rfl

/-- The enabled built-in modes, in order. -/
theorem enabledModes_builtin (modes : EnabledModes) :
    builtin.enabledModes modes =
      (if modes.isEnabled secretsKey then [Secrets.mode] else []) ++
        ((if modes.isEnabled proxyKey then [Proxy.mode] else []) ++
          (if modes.isEnabled jobKey then [Job.mode] else [])) := by
  rw [enabledModes, builtin_modes, List.filter_cons, List.filter_cons, List.filter_cons,
    List.filter_nil]
  -- The filter keeps each mode when its flag is on.
  show (if modes.isEnabled secretsKey then
    Secrets.mode :: (if modes.isEnabled proxyKey then
      Proxy.mode :: (if modes.isEnabled jobKey then [Job.mode] else [])
      else if modes.isEnabled jobKey then [Job.mode] else [])
    else if modes.isEnabled proxyKey then
      Proxy.mode :: (if modes.isEnabled jobKey then [Job.mode] else [])
      else if modes.isEnabled jobKey then [Job.mode] else []) = _
  cases modes.isEnabled secretsKey <;> cases modes.isEnabled proxyKey <;> rfl

end Registry

/-! ### Requests -/

namespace Secrets

/-- The type and the method are the requested ones. The environment goes with static
secrets only, and those do not go with `approle`. -/
theorem compute_eq_ok {config : Config} {keys : AnnotationKeys} {labels : PodLabels}
    {c : SecretsConfig} (h : compute config keys labels = .ok c) :
    SecretsType.ofName (Text.lowercase (keys.value labels.annotations typeKey)) =
        .ok c.secretsType ∧
      InjectionMethod.ofName (Text.lowercase (keys.value labels.annotations methodKey)) =
        .ok c.method ∧
      (c.method = .env → c.secretsType = .static) ∧
      (c.secretsType = .static →
        Text.lowercase (keys.value labels.annotations Annotations.auth) ≠ "approle") := by
  obtain ⟨secretsType, htype, h⟩ := bind_eq_ok.mp h
  obtain ⟨method, hmethod, h⟩ := bind_eq_ok.mp h
  simp only [throw_eq, error_bind] at h
  split at h
  · cases h
  · rename_i hdynamic
    split at h
    · cases h
    · rename_i hstatic
      obtain ⟨paths, -, h⟩ := bind_eq_ok.mp h
      obtain ⟨sources, -, h⟩ := bind_eq_ok.mp h
      split at h
      · cases h
      · cases h
        refine ⟨htype, hmethod, fun henv => ?_, fun hst happrole => hstatic ⟨hst, happrole⟩⟩
        -- There are two types, and the other one is refused.
        cases secretsType with
        | dynamic => exact absurd ⟨rfl, henv⟩ hdynamic
        | static => rfl

end Secrets

namespace Context

/-- Only the name of the `approle` method leads to it. -/
theorem requestedMethod_eq_ok {keys : AnnotationKeys} {annotations : Dict String}
    {method : AuthMethod}
    (h : requestedMethod keys annotations = .ok method) :
    method = .kubernetes ↔
      Text.lowercase (keys.value annotations Annotations.auth) ≠ "approle" := by
  unfold requestedMethod AuthMethod.ofName at h
  generalize Text.lowercase (keys.value annotations Annotations.auth) = name at h ⊢
  dsimp only at h
  by_cases happrole : name = "approle"
  · subst happrole
    cases h
    simp
  -- The other names stand for the first method, or for none.
  · split at h
    · cases h
      simp [happrole]
    · split at h
      · cases h
        simp [happrole]
      · cases h

variable (config : Config) (keys : AnnotationKeys) (pod : PodLabels)

/-- What the secrets mode works out, if it is enabled. -/
def secretsConfig (modes : EnabledModes) : Except InjectionError (Option SecretsConfig) :=
  if modes.isEnabled secretsKey then some <$> Secrets.compute config keys pod else .ok none

/-- What the proxy mode works out, if it is enabled. -/
def proxyConfig (modes : EnabledModes) : Except InjectionError (Option ProxyConfig) :=
  if modes.isEnabled proxyKey then some <$> Proxy.compute config keys pod else .ok none

/-- The configurations of a context. -/
def modeConfigsOf (secrets : Option SecretsConfig) (proxy : Option ProxyConfig) :
    Dict ModeConfig :=
  Dict.insertSome (Dict.insertSome [] secretsKey (secrets.map .secrets)) proxyKey
    (proxy.map .proxy)

/-- The secrets mode is asked first, and the proxy mode second. -/
theorem computeConfigs_builtin (modes : EnabledModes) :
    computeConfigs config keys pod (Registry.builtin.enabledModes modes) [] =
      (do
        let secrets ← secretsConfig config keys pod modes
        let proxy ← proxyConfig config keys pod modes
        .ok (modeConfigsOf secrets proxy)) := by
  -- The job mode works out nothing, and leaves what the others gave.
  have hjob : ∀ configs, computeConfigs config keys pod
      (if modes.isEnabled jobKey then [Job.mode] else []) configs = .ok configs := by
    intro configs
    cases modes.isEnabled jobKey <;> rfl
  -- The proxy mode adds to whatever the modes before it gave.
  have hproxy : ∀ configs, computeConfigs config keys pod
      ((if modes.isEnabled proxyKey then [Proxy.mode] else []) ++
        (if modes.isEnabled jobKey then [Job.mode] else [])) configs =
      (do
        let proxy ← proxyConfig config keys pod modes
        .ok (Dict.insertSome configs proxyKey (proxy.map .proxy))) := by
    intro configs
    unfold proxyConfig
    cases modes.isEnabled proxyKey with
    | false => exact hjob configs
    | true =>
      show (do
        let result ← (Proxy.compute config keys pod).map fun c => some (ModeConfig.proxy c)
        computeConfigs config keys pod _ (Dict.insertSome configs proxyKey result)) = _
      cases Proxy.compute config keys pod with
      | error e => rfl
      | ok c => exact hjob _
  rw [Registry.enabledModes_builtin]
  unfold secretsConfig
  cases modes.isEnabled secretsKey with
  | false => exact hproxy []
  | true =>
    show (do
      let result ← (Secrets.compute config keys pod).map fun c => some (ModeConfig.secrets c)
      computeConfigs config keys pod _ (Dict.insertSome [] secretsKey result)) = _
    cases Secrets.compute config keys pod with
    | error e => rfl
    | ok c => exact hproxy _

variable {config keys pod}

/-- A context is worked out, with any modes, when each of its parts is. -/
theorem build_eq_ok_iff {registry : Registry} {containers : List Container} {ctx : Context} :
    build config keys registry containers pod = .ok ctx ↔
      ctx.modes = requestedModes registry keys pod.annotations ∧
      requestedMethod keys pod.annotations = .ok ctx.authMethod ∧
      requestedRole config keys pod ctx.authMethod = .ok ctx.role ∧
      tokenVolume containers podTokenMountPath = .ok ctx.podTokenVolume ∧
      requestedTokenVolume keys pod.annotations containers ctx.podTokenVolume =
        .ok ctx.agentTokenVolume ∧
      computeConfigs config keys pod (registry.enabledModes ctx.modes) [] =
        .ok ctx.modeConfigs := by
  constructor
  · intro h
    -- Each step has a result when the whole has one, and the fields are these results.
    obtain ⟨method, hmethod, h⟩ := bind_eq_ok.mp h
    obtain ⟨role, hrole, h⟩ := bind_eq_ok.mp h
    obtain ⟨podVolume, hpodVolume, h⟩ := bind_eq_ok.mp h
    obtain ⟨agentVolume, hagentVolume, h⟩ := bind_eq_ok.mp h
    obtain ⟨configs, hconfigs, h⟩ := bind_eq_ok.mp h
    cases h
    exact ⟨rfl, hmethod, hrole, hpodVolume, hagentVolume, hconfigs⟩
  · rintro ⟨hmodes, hmethod, hrole, hpodVolume, hagentVolume, hconfigs⟩
    -- The fields of a context are what the steps result in, so no freedom is left.
    obtain ⟨modes, method, role, podVolume, agentVolume, configs⟩ := ctx
    dsimp only at hmodes hmethod hrole hpodVolume hagentVolume hconfigs
    subst hmodes
    unfold build
    dsimp only
    rw [hmethod, ok_bind, hrole, ok_bind, hpodVolume, ok_bind, hagentVolume, ok_bind, hconfigs]
    rfl

/-- The parts of a context that is worked out with the built-in modes. -/
theorem build_eq_ok {containers : List Container} {ctx : Context}
    (h : build config keys .builtin containers pod = .ok ctx) :
    ctx.modes = requestedModes .builtin keys pod.annotations ∧
      ∃ secrets proxy, secretsConfig config keys pod ctx.modes = .ok secrets ∧
        proxyConfig config keys pod ctx.modes = .ok proxy ∧
        ctx.modeConfigs = modeConfigsOf secrets proxy := by
  obtain ⟨hmodes, -, -, -, -, hconfigs⟩ := build_eq_ok_iff.mp h
  rw [computeConfigs_builtin] at hconfigs
  obtain ⟨secrets, hsecrets, hconfigs⟩ := bind_eq_ok.mp hconfigs
  obtain ⟨proxy, hproxy, hconfigs⟩ := bind_eq_ok.mp hconfigs
  exact ⟨hmodes, secrets, proxy, hsecrets, hproxy, (Except.ok.inj hconfigs).symm⟩

/-- A context holds what the secrets mode works out, if that mode is enabled, and
nothing otherwise. -/
theorem secrets_of_build {containers : List Container} {ctx : Context}
    (h : build config keys .builtin containers pod = .ok ctx) :
    secretsConfig config keys pod ctx.modes = .ok ctx.secrets := by
  obtain ⟨-, secrets, proxy, hsecrets, -, hconfigs⟩ := build_eq_ok h
  rw [hsecrets, Context.secrets, hconfigs, modeConfigsOf]
  -- What the proxy mode gives stands under another key.
  rw [Dict.get?_insertSome, if_neg (by decide), Dict.get?_insertSome, if_pos rfl]
  cases secrets <;> rfl

/-- Without the secrets mode a context holds nothing about secrets. -/
theorem secrets_eq_none {containers : List Container} {ctx : Context}
    (h : build config keys .builtin containers pod = .ok ctx)
    (hdisabled : ctx.modes.isEnabled secretsKey = false) : ctx.secrets = none := by
  have hsecrets := secrets_of_build h
  rw [secretsConfig, hdisabled] at hsecrets
  exact (Except.ok.inj hsecrets).symm

/-- A context holds what the proxy mode works out, if that mode is enabled, and what the
secrets mode works out. -/
theorem proxy_of_build {containers : List Container} {ctx : Context}
    (h : build config keys .builtin containers pod = .ok ctx) :
    ∃ proxy, proxyConfig config keys pod ctx.modes = .ok proxy ∧
      ctx.proxy = proxy.map .proxy ∧ ctx.modeConfigs = modeConfigsOf ctx.secrets proxy := by
  obtain ⟨-, secrets, proxy, hsecrets, hproxy, hconfigs⟩ := build_eq_ok h
  obtain rfl : secrets = ctx.secrets :=
    Except.ok.inj (hsecrets.symm.trans (secrets_of_build h))
  refine ⟨proxy, hproxy, ?_, hconfigs⟩
  rw [Context.proxy, hconfigs, modeConfigsOf, Dict.get?_insertSome, if_pos rfl]
  -- What the secrets mode gives stands under another key.
  cases proxy with
  | none => cases ctx.secrets <;> rfl
  | some c => rfl

/-- What a mode works out is there just when the mode is enabled. -/
theorem isSome_of_config {α : Type} {x : Except InjectionError α} {enabled : Bool}
    {result : Option α} (h : (if enabled then some <$> x else .ok none) = .ok result) :
    result.isSome = enabled := by
  cases enabled with
  | false =>
    cases h
    rfl
  | true =>
    obtain ⟨c, -, rfl⟩ := map_eq_ok.mp h
    rfl

/-- A context holds something about the proxy just when the proxy mode is enabled. -/
theorem proxy_isSome_of_build {containers : List Container} {ctx : Context}
    (h : build config keys .builtin containers pod = .ok ctx) :
    ctx.proxy.isSome = ctx.modes.isEnabled proxyKey := by
  obtain ⟨proxy, hproxy, hfound, -⟩ := proxy_of_build h
  rw [hfound, Option.isSome_map, isSome_of_config hproxy]

/-! ### Token volumes -/

/-- Some container of a list mounts a volume. -/
def Mounted (containers : List Container) (volume : String) : Prop :=
  ∃ c ∈ containers, ∃ m ∈ c.mounts, m.name = volume

/-- A volume that was found for a token is mounted by some container. -/
theorem mounted_of_tokenVolume {containers : List Container} {path volume : String}
    (h : tokenVolume containers path = .ok volume) : Mounted containers volume := by
  unfold tokenVolume at h
  split at h
  · rename_i m hfind
    cases h
    obtain ⟨c, hc, hm⟩ := List.mem_flatMap.mp (List.mem_of_find?_eq_some hfind)
    exact ⟨c, hc, m, hm, rfl⟩
  · cases h

/-- The agent uses the token of the pod, unless the annotation names another mount. -/
theorem mounted_of_requestedTokenVolume {annotations : Dict String} {containers : List Container}
    {podVolume volume : String}
    (h : requestedTokenVolume keys annotations containers podVolume = .ok volume)
    (hmounted : Mounted containers podVolume) : Mounted containers volume := by
  unfold requestedTokenVolume at h
  dsimp only at h
  split at h
  · cases h
    exact hmounted
  · exact mounted_of_tokenVolume h

/-- The volumes of both tokens are mounted by the pod's own containers, with any modes. -/
theorem tokenVolumes_of_build {registry : Registry} {containers : List Container} {ctx : Context}
    (h : build config keys registry containers pod = .ok ctx) :
    Mounted containers ctx.podTokenVolume ∧ Mounted containers ctx.agentTokenVolume := by
  obtain ⟨-, -, -, hpodVolume, hagentVolume, -⟩ := build_eq_ok_iff.mp h
  have hmounted := mounted_of_tokenVolume hpodVolume
  exact ⟨hmounted, mounted_of_requestedTokenVolume hagentVolume hmounted⟩

end Context

end SidecarInjection
