import SidecarInjection.Proofs.Mode.Independence
import SidecarInjection.Proofs.Rendering

/-!
# `SidecarInjection.Proofs.Rendering.Frame`: what rendering changes of a template

The modes that answer for a template share its environment, each makes its own settings in it,
and the role and the authentication method are set at the end. The settings are for different
variables, so it does not matter how often a variable is listed, nor which mode was asked
first. What is expanded in the commands are the values at the end.

* `EnvVar.setEach_eq_map`, `EnvVar.assign_of_mem`: settings change each variable by itself.
* `Rendering.env_ask`: the environment that the modes leave.
* `Rendering.lookup_eq_some_iff`: the value of a variable is that of its last entry with one.
* `Rendering.Filled`: a rendered container next to its template.
* `Rendering.render_filled`: with the built-in modes every rendered container is like that.
-/

set_option autoImplicit false

namespace SidecarInjection

open Outcome

/-! ### Settings -/

namespace EnvVar

/-- A variable after settings. Of those for its name the last one holds. -/
def assign (settings : List (String × String)) (e : EnvVar) : EnvVar :=
  settings.foldl (fun e s => if e.name = s.1 then { e with value := some s.2 } else e) e

/-- Settings change each variable by itself. -/
theorem setEach_eq_map (env : List EnvVar) (settings : List (String × String)) :
    setEach env settings = env.map (assign settings) := by
  induction settings generalizing env with
  | nil => exact (List.map_id env).symm
  | cons s rest ih =>
    show setEach (setAll env s.1 s.2) rest = _
    rw [ih, setAll, List.map_map]
    rfl

variable {settings : List (String × String)} {e : EnvVar}

/-- Settings are made one after another, so a later one of the same name wins. -/
theorem assign_cons (s : String × String) :
    assign (s :: settings) e =
      assign settings (if e.name = s.1 then { e with value := some s.2 } else e) := rfl

/-- Settings change the value alone. -/
theorem exists_assign (settings : List (String × String)) (e : EnvVar) :
    ∃ value, assign settings e = { e with value } := by
  induction settings generalizing e with
  | nil => exact ⟨e.value, rfl⟩
  | cons s rest ih =>
    rw [assign_cons]
    split
    · obtain ⟨value, hvalue⟩ := ih { e with value := some s.2 }
      exact ⟨value, hvalue⟩
    · exact ih e

/-- A variable that is not set stays. -/
theorem assign_of_not_mem (h : ∀ value, (e.name, value) ∉ settings) : assign settings e = e := by
  induction settings with
  | nil => rfl
  | cons s rest ih =>
    have hs : e.name ≠ s.1 := fun heq => h s.2 (by rw [heq]; exact List.mem_cons_self)
    rw [assign_cons, if_neg hs, ih fun value hmem => h value (List.mem_cons_of_mem _ hmem)]

/-- A variable that is set to one value only has that value. -/
theorem assign_of_mem {name value : String} (h : (name, value) ∈ settings)
    (honly : ∀ other, (name, other) ∈ settings → other = value) (hname : e.name = name) :
    (assign settings e).value = some value := by
  induction settings generalizing e with
  | nil => cases h
  | cons s rest ih =>
    rw [assign_cons]
    -- What is set now may be set again later on.
    by_cases hlater : ∃ other, (name, other) ∈ rest
    · obtain ⟨other, hother⟩ := hlater
      have hrest : (name, value) ∈ rest := honly other (List.mem_cons_of_mem _ hother) ▸ hother
      refine ih hrest (fun other hmem => honly other (List.mem_cons_of_mem _ hmem)) ?_
      split <;> exact hname
    · rcases List.mem_cons.mp h with rfl | hrest
      · have hstays : assign rest { e with value := some value } = { e with value := some value } :=
          assign_of_not_mem fun other hother => hlater ⟨other, hname ▸ hother⟩
        rw [if_pos hname, hstays]
      · exact absurd ⟨value, hrest⟩ hlater

/-- A variable gets a value if some condition holds, and stays as it is otherwise. -/
def SetBy (condition : Prop) (value : String → Prop) (e e' : EnvVar) : Prop :=
  (condition → ∃ v, value v ∧ e'.value = some v) ∧ (¬ condition → e' = e)

/-- A variable is set under a condition when the settings of its name say so, and agree. -/
theorem setBy_assign {condition : Prop} {value : String → Prop}
    (h : ∀ v, (e.name, v) ∈ settings ↔ condition ∧ value v)
    (hvalue : condition → ∃ v, ∀ w, value w ↔ w = v) :
    SetBy condition value e (assign settings e) := by
  constructor
  · intro hcondition
    obtain ⟨v, hv⟩ := hvalue hcondition
    refine ⟨v, (hv v).mpr rfl, assign_of_mem ((h v).mpr ⟨hcondition, (hv v).mpr rfl⟩) ?_ rfl⟩
    exact fun other hother => (hv other).mp ((h other).mp hother).2
  · exact fun hcondition => assign_of_not_mem fun v hmem => hcondition ((h v).mp hmem).1

end EnvVar

/-! ### Answers -/

section

variable {target : Target} {podContainers : List Container} {name : String} {ctx : Context}

/-- What the secrets mode sets, where it sets something. -/
theorem Secrets.mem_settings_iff {s : String × String} :
    s ∈ settings target podContainers name ctx ↔
      settings target podContainers name ctx ≠ [] ∧ s.1 = templatesEnv ∧
        ∃ secrets, ctx.secrets = some secrets ∧ s.2 = secrets.template := by
  obtain h | ⟨secrets, hsecrets, h⟩ := settings_cases target podContainers name ctx
  · simp [h]
  · simp [h, hsecrets, Prod.ext_iff]

/-- What the proxy mode sets, where it sets something. -/
theorem Proxy.mem_settings_iff {s : String × String} :
    s ∈ settings target podContainers name ctx ↔
      settings target podContainers name ctx ≠ [] ∧ s.1 = configEnv ∧
        ∃ config, ctx.proxy = some config ∧ s.2 = config.template := by
  obtain h | ⟨config, hconfig, h⟩ := settings_cases target podContainers name ctx
  · simp [h]
  · simp [h, hconfig, Prod.ext_iff]

/-- What the job mode sets, where it sets something. -/
theorem Job.mem_settings_iff {s : String × String} :
    s ∈ settings target podContainers name ctx ↔
      settings target podContainers name ctx ≠ [] ∧
        ((s.1 = containerNameEnv ∧ ∃ job, podContainers = [job] ∧ s.2 = job.name) ∨
          (s.1 = workloadEnv ∧ s.2 = "true")) := by
  obtain h | ⟨job, rfl, h⟩ := settings_cases target podContainers name ctx
  · simp [h]
  · simp [h, Prod.ext_iff]

end

namespace Rendering

section

variable {target : Target} {podContainers : List Container} {name : String} {ctx : Context}

/-- When each mode makes its settings, the environment at the end has the settings of all. -/
theorem env_ask {settings : Mode → List (String × String)} {modes : List Mode}
    (hmodes : ∀ mode ∈ modes, ∀ env next,
      mode.injectContainer target podContainers name env ctx = .ok next →
        next.env = EnvVar.setEach env (settings mode)) {answer result : ContainerAnswer}
    (h : ask target podContainers name ctx modes answer = .ok result) :
    result.env = EnvVar.setEach answer.env (modes.flatMap settings) := by
  induction modes generalizing answer with
  | nil =>
    cases h
    rfl
  | cons mode rest ih =>
    obtain ⟨next, hnext, h⟩ := bind_eq_ok.mp h
    have hrest := ih (fun m hm => hmodes m (List.mem_cons_of_mem _ hm)) h
    rw [hrest, hmodes mode List.mem_cons_self answer.env next hnext, List.flatMap_cons]
    exact List.foldl_append.symm

end

/-! ### Values -/

/-- The value of a variable is that of its last entry with a value. -/
def LastValue (env : List EnvVar) (name value : String) : Prop :=
  ∃ before e after, env = before ++ e :: after ∧ e.name = name ∧ e.value = some value ∧
    ∀ later ∈ after, later.name = name → later.value = none

/-- The value that is looked up is that of the last variable of the name that has one. -/
theorem lookup_eq_some_iff {env : List EnvVar} {name value : String} :
    lookup env name = some value ↔ LastValue env name value := by
  unfold lookup LastValue
  constructor
  · intro h
    obtain ⟨e, hfind, hvalue⟩ := Option.bind_eq_some_iff.mp h
    -- The search runs over the reversed list, so the first one found is the last one there.
    obtain ⟨hpasses, after, before, hsplit, hafter⟩ := List.find?_eq_some_iff_append.mp hfind
    have hname : e.name = name := by
      simp only [Bool.and_eq_true, decide_eq_true_eq] at hpasses
      exact hpasses.1
    refine ⟨before.reverse, e, after.reverse, ?_, hname, hvalue, fun later hlater heq => ?_⟩
    · rw [← List.reverse_reverse env, hsplit]
      simp
    · have hfails := hafter later (List.mem_reverse.mp hlater)
      simpa [heq] using hfails
  · rintro ⟨before, e, after, rfl, hname, hvalue, hafter⟩
    refine Option.bind_eq_some_iff.mpr ⟨e, ?_, hvalue⟩
    refine List.find?_eq_some_iff_append.mpr ⟨by simp [hname, hvalue], after.reverse,
      before.reverse, by simp, fun later hlater => ?_⟩
    have hnone := hafter later (List.mem_reverse.mp hlater)
    by_cases heq : later.name = name
    · simp [hnone heq]
    · simp [heq]

/-! ### Templates -/

section

variable (target : Target) (podContainers : List Container) (ctx : Context) (t : Container)

/-- A mode is enabled, and asked about a template alone it claims it. -/
def Accepts (mode : Mode) : Prop :=
  ctx.modes.isEnabled mode.key = true ∧ ∃ next,
    mode.injectContainer target podContainers t.name (t.env.getD []) ctx = .ok next ∧
      next.claimed = true

/-- The variables that rendering may set. -/
def ownVariables : List String :=
  ["VSI_VAULT_ROLE", "VSI_VAULT_AUTH_METHOD", "VSI_SECRETS_TEMPLATES_PLACEHOLDER",
    "VSI_PROXY_CONFIG_PLACEHOLDER", "VSI_JOB_CNT_NAME", "VSI_JOB_WORKLOAD"]

/-- A variable of a template, and what becomes of it. -/
structure FilledVariable (e e' : EnvVar) : Prop where
  name : e'.name = e.name
  extra : e'.extra = e.extra
  role : e.name = "VSI_VAULT_ROLE" → e'.value = some ctx.role
  authMethod : e.name = "VSI_VAULT_AUTH_METHOD" → e'.value = some ctx.authMethod.name
  secrets : e.name = "VSI_SECRETS_TEMPLATES_PLACEHOLDER" →
    EnvVar.SetBy (Accepts target podContainers ctx t Secrets.mode)
      (fun v => ∃ secrets, ctx.secrets = some secrets ∧ v = secrets.template) e e'
  proxy : e.name = "VSI_PROXY_CONFIG_PLACEHOLDER" →
    EnvVar.SetBy (Accepts target podContainers ctx t Proxy.mode)
      (fun v => ∃ config, ctx.proxy = some config ∧ v = config.template) e e'
  jobContainer : e.name = "VSI_JOB_CNT_NAME" →
    EnvVar.SetBy (Accepts target podContainers ctx t Job.mode)
      (fun v => ∃ job, podContainers = [job] ∧ v = job.name) e e'
  jobWorkload : e.name = "VSI_JOB_WORKLOAD" →
    EnvVar.SetBy (Accepts target podContainers ctx t Job.mode) (fun v => v = "true") e e'
  other : e.name ∉ ownVariables → e' = e

/-- A mount of a template, and what becomes of it. -/
structure FilledMount (m m' : VolumeMount) : Prop where
  podToken : m.mountPath = podTokenMountPath → m' = { m with name := ctx.podTokenVolume }
  agentToken : m.mountPath = agentTokenMountPath → m' = { m with name := ctx.agentTokenVolume }
  other : m.mountPath ≠ podTokenMountPath → m.mountPath ≠ agentTokenMountPath → m' = m

/-- A rendered container next to its template. -/
structure Filled (r : Container) : Prop where
  name : r.name = t.name
  lifecycle : r.lifecycle = t.lifecycle
  extra : r.extra = t.extra
  /-- The variables are the same ones, in the same order. -/
  env : Option.Rel (List.Forall₂ (FilledVariable target podContainers ctx t)) t.env r.env
  volumeMounts : Option.Rel (List.Forall₂ (FilledMount ctx)) t.volumeMounts r.volumeMounts
  /-- The commands are expanded with the values in the rendered container. -/
  commands : ∃ values : String → Option String,
    (∀ name value, values name = some value ↔ LastValue (r.env.getD []) name value) ∧
      r.command = t.command.map (List.map (Expansion.expand values)) ∧
      r.args = t.args.map (List.map (Expansion.expand values))

variable {target podContainers ctx t}

/-- A mode that answers by settings accepts the templates that it has settings for. -/
theorem accepts_iff {mode : Mode}
    {settings : Target → List Container → String → Context → List (String × String)}
    (h : mode.Answers settings) :
    Accepts target podContainers ctx t mode ↔
      ctx.modes.isEnabled mode.key = true ∧ settings target podContainers t.name ctx ≠ [] :=
  and_congr_right fun _ => h.claims_iff _

/-- The settings that a built-in mode has for a container. -/
def settings (target : Target) (podContainers : List Container) (name : String) (ctx : Context)
    (mode : Mode) : List (String × String) :=
  if mode.key = secretsKey then Secrets.settings target podContainers name ctx
  else if mode.key = proxyKey then Proxy.settings target podContainers name ctx
  else Job.settings target podContainers name ctx

/-- Every built-in mode answers by its settings. -/
theorem answers_of_mem_builtin {mode : Mode} (h : mode ∈ Registry.builtin.modes) :
    mode.Answers fun target podContainers name ctx =>
      settings target podContainers name ctx mode := by
  rw [Registry.builtin_modes] at h
  simp only [List.mem_cons, List.not_mem_nil, or_false] at h
  rcases h with rfl | rfl | rfl
  · exact Secrets.answers
  · exact Proxy.answers
  · exact Job.answers

/-- All settings that are made in a template. -/
def allSettings (target : Target) (podContainers : List Container) (ctx : Context)
    (t : Container) : List (String × String) :=
  (Registry.builtin.enabledModes ctx.modes).flatMap (settings target podContainers t.name ctx) ++
    [(roleEnv, ctx.role), (authMethodEnv, ctx.authMethod.name)]

/-- Each setting is for one of the own variables, and made where its owner asks for it. -/
theorem mem_allSettings_iff {s : String × String} :
    s ∈ allSettings target podContainers ctx t ↔
      (Accepts target podContainers ctx t Secrets.mode ∧
        s.1 = "VSI_SECRETS_TEMPLATES_PLACEHOLDER" ∧
          ∃ secrets, ctx.secrets = some secrets ∧ s.2 = secrets.template) ∨
      (Accepts target podContainers ctx t Proxy.mode ∧ s.1 = "VSI_PROXY_CONFIG_PLACEHOLDER" ∧
        ∃ config, ctx.proxy = some config ∧ s.2 = config.template) ∨
      (Accepts target podContainers ctx t Job.mode ∧
        ((s.1 = "VSI_JOB_CNT_NAME" ∧ ∃ job, podContainers = [job] ∧ s.2 = job.name) ∨
          (s.1 = "VSI_JOB_WORKLOAD" ∧ s.2 = "true"))) ∨
      (s.1 = "VSI_VAULT_ROLE" ∧ s.2 = ctx.role) ∨
      (s.1 = "VSI_VAULT_AUTH_METHOD" ∧ s.2 = ctx.authMethod.name) := by
  -- The settings of the modes are those of each mode that is enabled.
  have hmodes : s ∈ (Registry.builtin.enabledModes ctx.modes).flatMap
      (settings target podContainers t.name ctx) ↔
        (ctx.modes.isEnabled Secrets.mode.key = true ∧
          s ∈ Secrets.settings target podContainers t.name ctx) ∨
        (ctx.modes.isEnabled Proxy.mode.key = true ∧
          s ∈ Proxy.settings target podContainers t.name ctx) ∨
        (ctx.modes.isEnabled Job.mode.key = true ∧
          s ∈ Job.settings target podContainers t.name ctx) := by
    simp only [List.mem_flatMap, Registry.enabledModes, List.mem_filter, Registry.builtin_modes,
      List.mem_cons, List.not_mem_nil, or_false, and_assoc, or_and_right, exists_or,
      exists_eq_left]
    rfl
  rw [allSettings, List.mem_append, hmodes, Secrets.mem_settings_iff, Proxy.mem_settings_iff,
    Job.mem_settings_iff, accepts_iff Secrets.answers, accepts_iff Proxy.answers,
    accepts_iff Job.answers]
  simp only [List.mem_cons, List.not_mem_nil, or_false, Prod.ext_iff, and_assoc, or_assoc]
  rfl

/-- Where the modes answer, all settings are made. -/
theorem fillEnv_ask {answer : ContainerAnswer}
    (h : ask target podContainers t.name ctx (Registry.builtin.enabledModes ctx.modes)
      (.decline (t.env.getD [])) = .ok answer) :
    fillEnv ctx answer.env =
      (t.env.getD []).map (EnvVar.assign (allSettings target podContainers ctx t)) := by
  have henv := env_ask (fun mode hmode _ _ hnext =>
    (answers_of_mem_builtin (List.mem_of_mem_filter hmode)).env_eq hnext) h
  -- The role and the authentication method are two more settings.
  show EnvVar.setEach answer.env [(roleEnv, ctx.role), (authMethodEnv, ctx.authMethod.name)] = _
  rw [henv, ← EnvVar.setEach_eq_map, allSettings]
  exact List.foldl_append.symm

/-! ### Variables and mounts -/

/-- A mode that accepts a template has what its settings are made of. -/
theorem of_accepts {mode : Mode}
    {settings : Target → List Container → String → Context → List (String × String)}
    (hanswers : mode.Answers settings) {source : Prop}
    (hcases : settings target podContainers t.name ctx = [] ∨ source)
    (h : Accepts target podContainers ctx t mode) : source :=
  hcases.resolve_left ((accepts_iff hanswers).mp h).2

/-- All settings together change a variable as they should. -/
theorem filledVariable_assign (e : EnvVar) :
    FilledVariable target podContainers ctx t e
      (e.assign (allSettings target podContainers ctx t)) where
  name := by
    obtain ⟨value, h⟩ := EnvVar.exists_assign (allSettings target podContainers ctx t) e
    rw [h]
  extra := by
    obtain ⟨value, h⟩ := EnvVar.exists_assign (allSettings target podContainers ctx t) e
    rw [h]
  role h := EnvVar.assign_of_mem (by simp [mem_allSettings_iff])
    (fun other => by simp [mem_allSettings_iff]) h
  authMethod h := EnvVar.assign_of_mem (by simp [mem_allSettings_iff])
    (fun other => by simp [mem_allSettings_iff]) h
  secrets h := by
    refine EnvVar.setBy_assign (fun v => by simp [mem_allSettings_iff, h]) fun haccepts => ?_
    obtain ⟨secrets, hsecrets, -⟩ :=
      of_accepts Secrets.answers (Secrets.settings_cases _ _ _ _) haccepts
    exact ⟨secrets.template, by simp [hsecrets]⟩
  proxy h := by
    refine EnvVar.setBy_assign (fun v => by simp [mem_allSettings_iff, h]) fun haccepts => ?_
    obtain ⟨config, hconfig, -⟩ :=
      of_accepts Proxy.answers (Proxy.settings_cases _ _ _ _) haccepts
    exact ⟨config.template, by simp [hconfig]⟩
  jobContainer h := by
    refine EnvVar.setBy_assign (fun v => by simp [mem_allSettings_iff, h]) fun haccepts => ?_
    obtain ⟨job, hjob, -⟩ := of_accepts Job.answers (Job.settings_cases _ _ _ _) haccepts
    exact ⟨job.name, by simp [hjob]⟩
  jobWorkload h :=
    EnvVar.setBy_assign (fun v => by simp [mem_allSettings_iff, h]) fun _ => ⟨"true", by simp⟩
  other h := by
    -- Every setting is for one of the own variables.
    refine EnvVar.assign_of_not_mem fun v hmem => h ?_
    rw [mem_allSettings_iff] at hmem
    unfold ownVariables
    simp only [List.mem_cons, List.not_mem_nil, or_false]
    tauto

/-- A mount is filled in as it should be. The path of the pod's token is asked for first. -/
theorem filledMount_fillMount (ctx : Context) (m : VolumeMount) :
    FilledMount ctx m (fillMount ctx m) where
  podToken h := if_pos h
  agentToken h := by
    have hpod : m.mountPath ≠ podTokenMountPath := by
      rw [h]
      decide
    rw [fillMount, if_neg hpod, if_pos h]
  other hpod hagent := by rw [fillMount, if_neg hpod, if_neg hagent]

/-- The place of a mount settles what becomes of it. -/
theorem FilledMount.unique {m m' other : VolumeMount} (h : FilledMount ctx m m')
    (hother : FilledMount ctx m other) : m' = other := by
  by_cases hpod : m.mountPath = podTokenMountPath
  · rw [h.podToken hpod, hother.podToken hpod]
  · by_cases hagent : m.mountPath = agentTokenMountPath
    · rw [h.agentToken hagent, hother.agentToken hagent]
    · rw [h.other hpod hagent, hother.other hpod hagent]

/-- A list whose items are changed one by one is there when it was there. -/
theorem rel_map {α : Type} {R : α → α → Prop} {f : α → α} (h : ∀ x, R x (f x))
    (xs : Option (List α)) : Option.Rel (List.Forall₂ R) xs (xs.map (List.map f)) := by
  cases xs with
  | none => exact .none
  | some xs => exact .some (List.forall₂_map_right_iff.mpr (List.forall₂_same.mpr fun x _ => h x))

/-- A template without variables gets none. -/
theorem env_fill {env : List EnvVar} {f : EnvVar → EnvVar}
    (h : fillEnv ctx env = (t.env.getD []).map f) :
    (fill ctx t env).env = t.env.map (List.map f) ∧
      (fill ctx t env).env.getD [] = fillEnv ctx env := by
  have hfill : (fill ctx t env).env = t.env.map fun _ => fillEnv ctx env := rfl
  rw [hfill, h]
  cases t.env <;> simp

/-- A container that is rendered is filled in with the environment that the modes leave. -/
theorem exists_ask_of_render {registry : Registry} {r : Container}
    (h : render registry target podContainers ctx t = .ok (some r)) :
    ∃ answer, ask target podContainers t.name ctx (registry.enabledModes ctx.modes)
        (.decline (t.env.getD [])) = .ok answer ∧ r = fill ctx t answer.env := by
  obtain ⟨answer, hask, hr⟩ := render_eq_ok h
  refine ⟨answer, hask, ?_⟩
  cases hclaimed : answer.claimed with
  | true => simpa [hclaimed] using hr
  | false => simp [hclaimed] at hr

/-- With the built-in modes, a rendered container is its template with the variables of the
role, of the authentication method and of each mode that accepts the template set, with the
service account mounts renamed, and with the commands expanded with the values that result.
Everything else is as in the template. -/
theorem render_filled (target : Target) (podContainers : List Container) (ctx : Context)
    (t r : Container) (h : render .builtin target podContainers ctx t = .ok (some r)) :
    Filled target podContainers ctx t r := by
  obtain ⟨answer, hask, rfl⟩ := exists_ask_of_render h
  obtain ⟨henv, hvalues⟩ := env_fill (fillEnv_ask hask)
  refine ⟨rfl, rfl, rfl, ?_, rel_map (filledMount_fillMount ctx) t.volumeMounts,
    lookup (fillEnv ctx answer.env), fun name value => ?_, rfl, rfl⟩
  · rw [henv]
    exact rel_map filledVariable_assign t.env
  · rw [hvalues]
    exact lookup_eq_some_iff

end

end Rendering

/-! ### A small template -/

namespace Sample

/-- The context of a pod with static secrets and a proxy. -/
def proxyContext : Context where
  modes := ⟨[("proxy", true), ("secrets", true)]⟩
  authMethod := .kubernetes
  role := "shop"
  podTokenVolume := "token"
  agentTokenVolume := "custom"
  modeConfigs := [("proxy", .proxy ⟨8200, "listener"⟩), ("secrets", .secrets ⟨.static, .file, "a"⟩)]

/-- An agent with a variable of its own, listed twice, and variables of two modes. -/
def proxyAgent : Container where
  name := "tvsi-vault-agent"
  command := none
  args := some ["$(LEVEL) $(VSI_VAULT_ROLE) $(OTHER)"]
  env := some [⟨"LEVEL", some "1", .empty _⟩, ⟨"VSI_VAULT_ROLE", none, .empty _⟩,
    ⟨"VSI_SECRETS_TEMPLATES_PLACEHOLDER", some "own", .empty _⟩,
    ⟨"VSI_PROXY_CONFIG_PLACEHOLDER", none, .empty _⟩, ⟨"LEVEL", some "2", .empty _⟩,
    ⟨"OTHER", none, .empty _⟩]
  lifecycle := none
  volumeMounts := some [.plain "any" agentTokenMountPath]
  extra := .empty _

end Sample

namespace Rendering

/-- The proxy mode accepts the small template, the secrets mode does not, and keeps out of its
environment. -/
theorem render_filled_sample :
    ∃ r, render .builtin .containers [] Sample.proxyContext Sample.proxyAgent =
        .ok (some r) ∧
      r.env.map (List.map EnvVar.value) =
        some [some "1", some "shop", some "own", some "listener", some "2", none] ∧
      r.args = some ["2 shop $(OTHER)"] ∧
      Filled .containers [] Sample.proxyContext Sample.proxyAgent r := by
  have hrendered : (render .builtin .containers [] Sample.proxyContext
      Sample.proxyAgent).toOption.any (fun result => result.any fun r =>
        r.env.map (List.map EnvVar.value) =
          some [some "1", some "shop", some "own", some "listener", some "2", none] ∧
        r.args = some ["2 shop $(OTHER)"]) = true := by decide +kernel
  obtain ⟨result, hresult, hany⟩ := exists_of_any hrendered
  obtain ⟨r, rfl, hvalues⟩ := (Option.any_eq_true _ _).mp hany
  obtain ⟨henv, hargs⟩ := of_decide_eq_true hvalues
  exact ⟨r, hresult, henv, hargs, render_filled _ _ _ _ r hresult⟩

end Rendering

end SidecarInjection
