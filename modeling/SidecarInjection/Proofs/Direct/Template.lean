import SidecarInjection.Proofs.Injection.Templates
import SidecarInjection.Proofs.Rendering.Frame

/-!
# `SidecarInjection.Proofs.Direct.Template`: configured containers that are added to a pod

What is added to a list of a pod, said without asking the modes one after another. `Claims`
lists who claims which configured container, `Sets` the variables that get a value from the
injection, and `Rendered` what becomes of a container. `Added` goes through the configured
containers in the order in which they are declared: one that is claimed is added as it is
rendered, and one that is not is left out.

Nothing here depends on how the modes answer. So the statements can be compared with the answers,
and they leave no choice: there is one list of containers to be added.

* `Direct.claims_iff`: what the modes claim is what is injected.
* `Direct.mem_allSettings_iff`: the settings of the modes are the ones in `Sets`.
* `Direct.added_of_renderAll`: what is rendered is what has to be added.
* `Direct.Added.unique`: nothing else has to be.
-/

set_option autoImplicit false

namespace SidecarInjection.Direct

open Outcome

/-! ### Statements -/

section

variable (ctx : Context)

/-- The secrets mode claims the configured containers of a name for a list. -/
inductive SecretsClaims : Target → String → Prop
  /-- Static secrets are fetched before the application starts. -/
  | fetch (henabled : ctx.modes.isEnabled "secrets" = true) (hstatic : ctx.HasSecrets .static) :
      SecretsClaims .initContainers "tvsi-vault-agent-init"
  /-- They may be handed over as environment variables. -/
  | handOver (henabled : ctx.modes.isEnabled "secrets" = true) (hstatic : ctx.HasSecrets .static)
      (henv : ctx.HasEnv) : SecretsClaims .initContainers "tvsi-env-init"
  /-- Dynamic secrets are kept up to date beside the application. -/
  | keep (henabled : ctx.modes.isEnabled "secrets" = true) (hdynamic : ctx.HasSecrets .dynamic) :
      SecretsClaims .containers "tvsi-vault-agent"

/-- The proxy mode claims the agent, which is the proxy. -/
structure ProxyClaims (target : Target) (name : String) : Prop where
  enabled : ctx.modes.isEnabled "proxy" = true
  target_eq : target = .containers
  name_eq : name = "tvsi-vault-agent"

/-- The job mode claims what watches the end of the job, and the agent, which waits for it. -/
structure JobClaims (target : Target) (name : String) : Prop where
  watches : ctx.Watches
  target_eq : target = .containers
  name_eq : name = "tvsi-job-babysitter" ∨ name = "tvsi-vault-agent"

/-- Some mode claims the configured containers of a name for a list. -/
def Claims (target : Target) (name : String) : Prop :=
  SecretsClaims ctx target name ∨ ProxyClaims ctx target name ∨ JobClaims ctx target name

variable (target : Target) (podContainers : List Container)

/-- A variable of a claimed container is set to a value. -/
inductive Sets (container : String) : String → String → Prop
  | role : Sets container "VSI_VAULT_ROLE" ctx.role
  | authMethod : Sets container "VSI_VAULT_AUTH_METHOD" ctx.authMethod.name
  /-- Each mode sets variables in the containers that it claims itself. -/
  | secrets {s : SecretsConfig} (hclaims : SecretsClaims ctx target container)
      (hs : ctx.secrets = some s) : Sets container "VSI_SECRETS_TEMPLATES_PLACEHOLDER" s.template
  | proxy {c : ModeConfig} (hclaims : ProxyClaims ctx target container)
      (hc : ctx.proxy = some c) : Sets container "VSI_PROXY_CONFIG_PLACEHOLDER" c.template
  | jobContainer {job : Container} (hclaims : JobClaims ctx target container)
      (hjob : podContainers = [job]) : Sets container "VSI_JOB_CNT_NAME" job.name
  | jobWorkload {job : Container} (hclaims : JobClaims ctx target container)
      (hjob : podContainers = [job]) : Sets container "VSI_JOB_WORKLOAD" "true"

/-- What becomes of a variable: its value is the one that it is set to, if it is set. -/
structure Variable (container : String) (e e' : EnvVar) : Prop where
  set : ∀ value, Sets ctx target podContainers container e.name value →
    e' = { e with value := some value }
  other : (∀ value, ¬ Sets ctx target podContainers container e.name value) → e' = e

/-- What becomes of a claimed container `t`. -/
structure Rendered (t r : Container) : Prop where
  name : r.name = t.name
  lifecycle : r.lifecycle = t.lifecycle
  extra : r.extra = t.extra
  env : Option.Rel (List.Forall₂ (Variable ctx target podContainers t.name)) t.env r.env
  volumeMounts :
    Option.Rel (List.Forall₂ (Rendering.FilledMount ctx)) t.volumeMounts r.volumeMounts
  /-- References in the commands are expanded with the values that the variables end up with. -/
  commands : ∃ values : String → Option String,
    (∀ name value,
      values name = some value ↔ Rendering.LastValue (r.env.getD []) name value) ∧
      r.command = t.command.map (List.map (Expansion.expand values)) ∧
      r.args = t.args.map (List.map (Expansion.expand values))

/-- The containers that are added to a list for the configured ones. -/
inductive Added : List Container → List Container → Prop
  | nil : Added [] []
  | claimed {t r : Container} {templates added : List Container}
      (hclaims : Claims ctx target t.name) (hr : Rendered ctx target podContainers t r)
      (hrest : Added templates added) : Added (t :: templates) (r :: added)
  | skipped {t : Container} {templates added : List Container}
      (hclaims : ¬ Claims ctx target t.name) (hrest : Added templates added) :
      Added (t :: templates) added

end

/-! ### Claims -/

section

variable {config : Config} {keys : AnnotationKeys} {labels : PodLabels}
  {containers podContainers : List Container} {ctx : Context} {target : Target} {name : String}

/-- The containers that some mode claims are those that are injected. -/
theorem claims_iff : Claims ctx target name ↔ ctx.Injects target name := by
  constructor
  · rintro (hclaims | hclaims | hclaims)
    · cases hclaims with
      | fetch henabled hstatic => exact ⟨henabled, hstatic, .inl rfl⟩
      | handOver henabled hstatic henv => exact ⟨henabled, hstatic, .inr ⟨rfl, henv⟩⟩
      | keep henabled hdynamic => exact .inl ⟨rfl, .inl ⟨henabled, hdynamic⟩⟩
    · obtain ⟨henabled, rfl, rfl⟩ := hclaims
      exact .inl ⟨rfl, .inr (.inl henabled)⟩
    · obtain ⟨hwatches, rfl, rfl | rfl⟩ := hclaims
      · exact .inr ⟨rfl, hwatches⟩
      · exact .inl ⟨rfl, .inr (.inr hwatches)⟩
  · intro h
    -- Init containers are claimed by the secrets mode only, containers by any of the three.
    cases target with
    | initContainers =>
      obtain ⟨henabled, hstatic, rfl | ⟨rfl, henv⟩⟩ := h
      · exact .inl (.fetch henabled hstatic)
      · exact .inl (.handOver henabled hstatic henv)
    | containers =>
      obtain ⟨rfl, ⟨henabled, hdynamic⟩ | henabled | hwatches⟩ | ⟨rfl, hwatches⟩ := h
      · exact .inl (.keep henabled hdynamic)
      · exact .inr (.inl ⟨henabled, rfl, rfl⟩)
      · exact .inr (.inr ⟨hwatches, rfl, .inr rfl⟩)
      · exact .inr (.inr ⟨hwatches, rfl, .inl rfl⟩)

/-- The secrets mode has settings for the containers that it claims. -/
theorem claims_secrets_iff (podContainers : List Container) :
    SecretsClaims ctx target name ↔
      ctx.modes.isEnabled secretsKey = true ∧
        Secrets.settings target podContainers name ctx ≠ [] := by
  -- The mode has settings for a template exactly if it wants it.
  have hsettings : Secrets.settings target podContainers name ctx ≠ [] ↔
      (ctx.secrets.any fun s => Secrets.wants s target name) = true := by
    unfold Secrets.settings
    cases ctx.secrets with
    | none => simp
    | some s => cases hwants : Secrets.wants s target name <;> simp [hwants]
  rw [hsettings]
  cases target with
  | initContainers =>
    rw [Context.any_wants_initContainers]
    constructor
    · intro hclaims
      cases hclaims with
      | fetch henabled hstatic => exact ⟨henabled, hstatic, .inl rfl⟩
      | handOver henabled hstatic henv => exact ⟨henabled, hstatic, .inr ⟨rfl, henv⟩⟩
    · rintro ⟨henabled, hstatic, rfl | ⟨rfl, henv⟩⟩
      · exact .fetch henabled hstatic
      · exact .handOver henabled hstatic henv
  | containers =>
    rw [Context.any_wants_containers]
    constructor
    · intro hclaims
      cases hclaims with
      | keep henabled hdynamic => exact ⟨henabled, hdynamic, rfl⟩
    · rintro ⟨henabled, hdynamic, rfl⟩
      exact .keep henabled hdynamic

/-- So does the proxy mode, as it has worked something out when it is enabled. -/
theorem claims_proxy_iff (h : Context.build config keys .builtin containers labels = .ok ctx) :
    ProxyClaims ctx target name ↔
      ctx.modes.isEnabled proxyKey = true ∧
        Proxy.settings target podContainers name ctx ≠ [] := by
  have hsettings : Proxy.settings target podContainers name ctx ≠ [] ↔
      target = .containers ∧ name = "tvsi-vault-agent" ∧ ctx.proxy.isSome = true := by
    show _ ↔ _ ∧ name = Proxy.agentContainer ∧ _
    unfold Proxy.settings
    split
    · rename_i hagent
      cases ctx.proxy <;> simp [hagent]
    · rename_i hagent
      simp only [ne_eq, not_true_eq_false, false_iff, not_and]
      exact fun htarget hname => absurd ⟨htarget, hname⟩ hagent
  -- The port is computed for each context with the proxy enabled, so its presence is no condition
  -- of its own.
  rw [hsettings, Context.proxy_isSome_of_build h]
  constructor
  · rintro ⟨henabled, htarget, hname⟩
    exact ⟨henabled, htarget, hname, henabled⟩
  · rintro ⟨henabled, htarget, hname, -⟩
    exact ⟨henabled, htarget, hname⟩

/-- The job mode has settings for the containers that it claims in a pod with one container. -/
theorem claims_job_iff (h : Context.build config keys .builtin containers labels = .ok ctx) :
    (JobClaims ctx target name ∧ ∃ job, podContainers = [job]) ↔
      ctx.modes.isEnabled jobKey = true ∧ Job.settings target podContainers name ctx ≠ [] := by
  have hsettings : Job.settings target podContainers name ctx ≠ [] ↔
      Job.wants target name ctx = true ∧ ∃ job, podContainers = [job] := by
    unfold Job.settings
    split
    · rename_i hwants
      match podContainers with
      | [] => simp
      | [job] => simp [hwants]
      | first :: second :: rest => simp
    · rename_i hwants
      simp [hwants]
  rw [hsettings, ← and_assoc, ← Bool.and_eq_true]
  refine and_congr_left fun _ => ?_
  cases target with
  | initContainers =>
    -- Only application containers are watched.
    refine iff_of_false (fun hclaims => nomatch hclaims.target_eq) ?_
    simp [Job.wants]
  | containers =>
    rw [Context.watches_iff h]
    constructor
    · rintro ⟨hwatches, -, hname⟩
      exact ⟨hwatches, hname⟩
    · rintro ⟨hwatches, hname⟩
      exact ⟨hwatches, rfl, hname⟩

end

/-! ### Settings -/

section

variable {config : Config} {keys : AnnotationKeys} {labels : PodLabels}
  {containers podContainers : List Container} {ctx : Context} {target : Target}
  {container name value : String}

/-- The variables and their values, all in one line. Since the names are different, one of the cases
applies at most. -/
theorem sets_iff :
    Sets ctx target podContainers container name value ↔
      (name = "VSI_VAULT_ROLE" ∧ value = ctx.role) ∨
      (name = "VSI_VAULT_AUTH_METHOD" ∧ value = ctx.authMethod.name) ∨
      (name = "VSI_SECRETS_TEMPLATES_PLACEHOLDER" ∧ SecretsClaims ctx target container ∧
        ∃ s, ctx.secrets = some s ∧ value = s.template) ∨
      (name = "VSI_PROXY_CONFIG_PLACEHOLDER" ∧ ProxyClaims ctx target container ∧
        ∃ c, ctx.proxy = some c ∧ value = c.template) ∨
      (name = "VSI_JOB_CNT_NAME" ∧ JobClaims ctx target container ∧
        ∃ job, podContainers = [job] ∧ value = job.name) ∨
      (name = "VSI_JOB_WORKLOAD" ∧ JobClaims ctx target container ∧
        (∃ job, podContainers = [job]) ∧ value = "true") := by
  -- One case per variable. The last two share their condition, a pod with a single container.
  constructor
  · intro h
    cases h with
    | role => exact .inl ⟨rfl, rfl⟩
    | authMethod => exact .inr (.inl ⟨rfl, rfl⟩)
    | secrets hclaims hs => exact .inr (.inr (.inl ⟨rfl, hclaims, _, hs, rfl⟩))
    | proxy hclaims hc => exact .inr (.inr (.inr (.inl ⟨rfl, hclaims, _, hc, rfl⟩)))
    | jobContainer hclaims hjob =>
      exact .inr (.inr (.inr (.inr (.inl ⟨rfl, hclaims, _, hjob, rfl⟩))))
    | jobWorkload hclaims hjob =>
      exact .inr (.inr (.inr (.inr (.inr ⟨rfl, hclaims, ⟨_, hjob⟩, rfl⟩))))
  · rintro (⟨rfl, rfl⟩ | ⟨rfl, rfl⟩ | ⟨rfl, hclaims, s, hs, rfl⟩ | ⟨rfl, hclaims, c, hc, rfl⟩ |
      ⟨rfl, hclaims, job, hjob, rfl⟩ | ⟨rfl, hclaims, ⟨job, hjob⟩, rfl⟩)
    · exact .role
    · exact .authMethod
    · exact .secrets hclaims hs
    · exact .proxy hclaims hc
    · exact .jobContainer hclaims hjob
    · exact .jobWorkload hclaims hjob

/-- A variable is set to one value only, since the names are different. -/
theorem Sets.unique {other : String} (h : Sets ctx target podContainers container name value)
    (hother : Sets ctx target podContainers container name other) : value = other := by
  rw [sets_iff] at hother
  -- The names of the variables differ, so the other value was set in the same case.
  cases h with
  | role => simpa [eq_comm] using hother
  | authMethod => simpa [eq_comm] using hother
  | secrets _ hs =>
    obtain ⟨-, s, hs', rfl⟩ : _ ∧ ∃ s, ctx.secrets = some s ∧ other = s.template := by
      simpa using hother
    rw [Option.some.inj (hs.symm.trans hs')]
  | proxy _ hc =>
    obtain ⟨-, c, hc', rfl⟩ : _ ∧ ∃ c, ctx.proxy = some c ∧ other = c.template := by
      simpa using hother
    rw [Option.some.inj (hc.symm.trans hc')]
  | jobContainer _ hjob =>
    obtain ⟨-, job, hjob', rfl⟩ : _ ∧ ∃ job, podContainers = [job] ∧ other = job.name := by
      simpa using hother
    rw [List.head_eq_of_cons_eq (hjob.symm.trans hjob')]
  | jobWorkload _ hjob =>
    obtain ⟨-, -, rfl⟩ : _ ∧ (∃ job, podContainers = [job]) ∧ other = "true" := by
      simpa using hother
    rfl

/-- The settings that the modes make together are these. -/
theorem mem_allSettings_iff {t : Container}
    (h : Context.build config keys .builtin containers labels = .ok ctx) :
    (name, value) ∈ Rendering.allSettings target podContainers ctx t ↔
      Sets ctx target podContainers t.name name value := by
  have hsecrets : Rendering.Accepts target podContainers ctx t Secrets.mode ↔
      SecretsClaims ctx target t.name :=
    (Rendering.accepts_iff Secrets.answers).trans (claims_secrets_iff podContainers).symm
  have hproxy : Rendering.Accepts target podContainers ctx t Proxy.mode ↔
      ProxyClaims ctx target t.name :=
    (Rendering.accepts_iff Proxy.answers).trans (claims_proxy_iff h).symm
  have hjob : Rendering.Accepts target podContainers ctx t Job.mode ↔
      JobClaims ctx target t.name ∧ ∃ job, podContainers = [job] :=
    (Rendering.accepts_iff Job.answers).trans (claims_job_iff h).symm
  -- The settings come in the order of the registry, the cases of `Sets` in that of the text.
  rw [Rendering.mem_allSettings_iff, sets_iff, hsecrets, hproxy, hjob]
  constructor
  · rintro (⟨hclaims, hname, hs⟩ | ⟨hclaims, hname, hc⟩ |
      ⟨⟨hclaims, hone⟩, ⟨hname, hvalue⟩ | ⟨hname, hvalue⟩⟩ | hrole | hauth)
    · exact .inr (.inr (.inl ⟨hname, hclaims, hs⟩))
    · exact .inr (.inr (.inr (.inl ⟨hname, hclaims, hc⟩)))
    · exact .inr (.inr (.inr (.inr (.inl ⟨hname, hclaims, hvalue⟩))))
    · exact .inr (.inr (.inr (.inr (.inr ⟨hname, hclaims, hone, hvalue⟩))))
    · exact .inl hrole
    · exact .inr (.inl hauth)
  · rintro (hrole | hauth | ⟨hname, hclaims, hs⟩ | ⟨hname, hclaims, hc⟩ |
      ⟨hname, hclaims, job, hjob, hvalue⟩ | ⟨hname, hclaims, hone, hvalue⟩)
    · exact .inr (.inr (.inr (.inl hrole)))
    · exact .inr (.inr (.inr (.inr hauth)))
    · exact .inl ⟨hclaims, hname, hs⟩
    · exact .inr (.inl ⟨hclaims, hname, hc⟩)
    · exact .inr (.inr (.inl ⟨⟨hclaims, job, hjob⟩, .inl ⟨hname, job, hjob, hvalue⟩⟩))
    · exact .inr (.inr (.inl ⟨⟨hclaims, hone⟩, .inr ⟨hname, hvalue⟩⟩))

/-- All settings together change a variable as they should. -/
theorem variable_assign {t : Container}
    (h : Context.build config keys .builtin containers labels = .ok ctx) (e : EnvVar) :
    Variable ctx target podContainers t.name e
      (e.assign (Rendering.allSettings target podContainers ctx t)) where
  set value hset := by
    obtain ⟨found, heq⟩ := EnvVar.exists_assign (Rendering.allSettings target podContainers ctx t) e
    -- No other setting is for this variable, so the value that it ends up with is this one.
    have hvalue := EnvVar.assign_of_mem ((mem_allSettings_iff h).mpr hset)
      (fun other hother => ((mem_allSettings_iff h).mp hother).unique hset) rfl
    rw [heq] at hvalue
    rw [heq, show found = some value from hvalue]
  other hnone := EnvVar.assign_of_not_mem fun value hmem =>
    hnone value ((mem_allSettings_iff h).mp hmem)

end

/-! ### Rendered containers -/

section

variable {config : Config} {keys : AnnotationKeys} {labels : PodLabels}
  {containers podContainers : List Container} {ctx : Context} {target : Target}

/-- What the modes render is what becomes of the template. -/
theorem rendered_of_render (h : Context.build config keys .builtin containers labels = .ok ctx)
    {t r : Container}
    (hr : Rendering.render .builtin target podContainers ctx t = .ok (some r)) :
    Rendered ctx target podContainers t r := by
  obtain ⟨answer, hask, rfl⟩ := Rendering.exists_ask_of_render hr
  obtain ⟨henv, hvalues⟩ := Rendering.env_fill (Rendering.fillEnv_ask hask)
  refine ⟨rfl, rfl, rfl, ?_, Rendering.rel_map (Rendering.filledMount_fillMount ctx) t.volumeMounts,
    Rendering.lookup (Rendering.fillEnv ctx answer.env), fun name value => ?_, rfl, rfl⟩
  · rw [henv]
    exact Rendering.rel_map (variable_assign h) t.env
  · rw [hvalues]
    exact Rendering.lookup_eq_some_iff

/-- What is rendered for the templates of a list is what has to be added to the list. -/
theorem added_of_renderAll (h : Context.build config keys .builtin containers labels = .ok ctx)
    {templates rendered : List Container}
    (hrendered : Rendering.renderAll .builtin target podContainers ctx templates = .ok rendered) :
    Added ctx target podContainers templates rendered := by
  induction templates generalizing rendered with
  | nil =>
    cases hrendered
    exact .nil
  | cons t templates ih =>
    obtain ⟨result, hresult, hrendered⟩ := bind_eq_ok.mp hrendered
    obtain ⟨others, hothers, hrendered⟩ := bind_eq_ok.mp hrendered
    cases hrendered
    -- Whether there is a result is decided by the claim alone.
    obtain ⟨hsome, -⟩ := Rendering.decided h hresult
    rw [← claims_iff] at hsome
    cases result with
    | none => exact .skipped (fun hclaims => nomatch hsome.mpr hclaims) (ih hothers)
    | some r => exact .claimed (hsome.mp rfl) (rendered_of_render h hresult) (ih hothers)

end

/-! ### There is no choice -/

section

variable {podContainers : List Container} {ctx : Context} {target : Target}

/-- Lists with related items are the same if one item is related to one other at most. -/
theorem rel_unique {α β : Type} {R : α → β → Prop} (h : Relator.RightUnique R)
    {xs : Option (List α)} {ys zs : Option (List β)} (hys : Option.Rel (List.Forall₂ R) xs ys)
    (hzs : Option.Rel (List.Forall₂ R) xs zs) : ys = zs := by
  cases hys with
  | none =>
    cases hzs
    rfl
  | some hys =>
    cases hzs with
    | some hzs => rw [h.forall₂ hys hzs]

/-- One thing becomes of a variable, since it is set to one value at most. -/
theorem Variable.unique {container : String} {e e' other : EnvVar}
    (h : Variable ctx target podContainers container e e')
    (hother : Variable ctx target podContainers container e other) : e' = other := by
  by_cases hset : ∃ value, Sets ctx target podContainers container e.name value
  · obtain ⟨value, hset⟩ := hset
    rw [h.set value hset, hother.set value hset]
  · rw [not_exists] at hset
    rw [h.other hset, hother.other hset]

/-- A claimed container is rendered in one way. -/
theorem Rendered.unique {t r other : Container} (h : Rendered ctx target podContainers t r)
    (hother : Rendered ctx target podContainers t other) : r = other := by
  have henv : r.env = other.env := rel_unique (fun _ _ _ hy hz => hy.unique hz) h.env hother.env
  have hmounts : r.volumeMounts = other.volumeMounts :=
    rel_unique (fun _ _ _ hy hz => hy.unique hz) h.volumeMounts hother.volumeMounts
  obtain ⟨values, hvalues, hcommand, hargs⟩ := h.commands
  obtain ⟨others, hothers, hcommand', hargs'⟩ := hother.commands
  -- Both expand with the values of the same variables.
  have hsame : values = others := by
    funext name
    refine Option.ext fun value => ?_
    rw [hvalues, hothers, henv]
  subst hsame
  obtain ⟨name, command, args, env, lifecycle, volumeMounts, extra⟩ := r
  obtain ⟨name', command', args', env', lifecycle', volumeMounts', extra'⟩ := other
  obtain ⟨hname, hlifecycle, hextra, -, -, -⟩ := h
  obtain ⟨hname', hlifecycle', hextra', -, -, -⟩ := hother
  simp_all

/-- There is one list of containers to be added. -/
theorem Added.unique {templates added others : List Container}
    (h : Added ctx target podContainers templates added)
    (hother : Added ctx target podContainers templates others) : added = others := by
  induction h generalizing others with
  | nil =>
    cases hother
    rfl
  | claimed hclaims hr hrest ih =>
    -- Claimed and skipped exclude each other, so both lists took the same step.
    cases hother with
    | claimed hclaims' hr' hrest' => rw [hr.unique hr', ih hrest']
    | skipped hclaims' hrest' => exact absurd hclaims hclaims'
  | skipped hclaims hrest ih =>
    cases hother with
    | claimed hclaims' hr' hrest' => exact absurd hclaims' hclaims
    | skipped hclaims' hrest' => exact ih hrest'

end

end SidecarInjection.Direct
