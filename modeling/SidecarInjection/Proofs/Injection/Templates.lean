import SidecarInjection.Proofs.Context.Modes
import SidecarInjection.Proofs.Injection.Additions
import SidecarInjection.Proofs.Rendering

/-!
# `SidecarInjection.Proofs.Injection.Templates`: which configured containers are added

Three modes are asked about each configured container, and each answers by itself.
Taken together their answers depend on the enabled modes, on the type of the secrets
and on the name of the container, as `Context.Injects` says. A created patch adds the
containers that this decision is for, each of them once and in order, and no others.

* `Context.Injects`: the decision.
* `Context.any_claims_iff`: the modes decide like that.
* `Injector.createPatch_templates`: the containers that a created patch adds.
-/

set_option autoImplicit false

namespace SidecarInjection

open Outcome

/-! ### The decision -/

namespace Context

/-- The pod gets secrets of a type. -/
def HasSecrets (ctx : Context) (secretsType : SecretsType) : Prop :=
  ∃ s, ctx.secrets = some s ∧ s.secretsType = secretsType

/-- The secrets of the pod are handed over as environment variables. -/
def HasEnv (ctx : Context) : Prop := ∃ s, ctx.secrets = some s ∧ s.method = .env

/-- The end of a job is watched: the job mode is enabled, and there is more to do than to
fetch static secrets before the job starts. -/
def Watches (ctx : Context) : Prop :=
  ctx.modes.isEnabled jobKey = true ∧
    ¬ (ctx.HasSecrets .static ∧ ctx.modes.Exactly [secretsKey, jobKey])

/-- A configured container of a name is injected into a list of the pod. -/
def Injects (ctx : Context) : Target → String → Prop
  | .initContainers, name =>
    ctx.modes.isEnabled secretsKey = true ∧ ctx.HasSecrets .static ∧
      (name = "tvsi-vault-agent-init" ∨ (name = "tvsi-env-init" ∧ ctx.HasEnv))
  | .containers, name =>
    (name = "tvsi-vault-agent" ∧
      ((ctx.modes.isEnabled secretsKey = true ∧ ctx.HasSecrets .dynamic) ∨
        ctx.modes.isEnabled proxyKey = true ∨ ctx.Watches)) ∨
    (name = "tvsi-job-babysitter" ∧ ctx.Watches)

/-! ### The answers of the modes -/

section

variable {config : Config} {keys : AnnotationKeys} {labels : PodLabels}
  {containers : List Container} {ctx : Context}

/-- Some enabled mode claims a container when the secrets mode, the proxy mode or the job
mode is enabled and claims it. -/
theorem any_claims (ctx : Context) (target : Target) (name : String) :
    (Registry.builtin.enabledModes ctx.modes).any (Rendering.claims target name ctx) =
      ((ctx.modes.isEnabled secretsKey && ctx.secrets.any fun s => Secrets.wants s target name) ||
        ((ctx.modes.isEnabled proxyKey &&
            (target = .containers && name = Proxy.agentContainer && ctx.proxy.isSome)) ||
          (ctx.modes.isEnabled jobKey && Job.wants target name ctx))) := by
  have hmode : ∀ (enabled : Bool) (mode : Mode),
      (if enabled then [mode] else []).any (Rendering.claims target name ctx) =
        (enabled && Rendering.claims target name ctx mode) := by
    intro enabled mode
    cases enabled
    · rfl
    · exact (List.any_cons.trans (Bool.or_false _)).trans (Bool.true_and _).symm
  rw [Registry.enabledModes_builtin, List.any_append, List.any_append, hmode, hmode, hmode]
  rfl

/-- The secrets mode claims the init containers that fetch static secrets. -/
theorem any_wants_initContainers (ctx : Context) (name : String) :
    (ctx.secrets.any fun s => Secrets.wants s .initContainers name) = true ↔
      ctx.HasSecrets .static ∧
        (name = "tvsi-vault-agent-init" ∨ (name = "tvsi-env-init" ∧ ctx.HasEnv)) := by
  show _ ↔ _ ∧ (name = Secrets.agentInitContainer ∨ (name = Secrets.envInitContainer ∧ _))
  unfold HasSecrets HasEnv
  cases ctx.secrets with
  | none => simp
  | some s => simp [Secrets.wants, SecretsConfig.isStatic]

/-- The secrets mode claims the agent that keeps dynamic secrets up to date. -/
theorem any_wants_containers (ctx : Context) (name : String) :
    (ctx.secrets.any fun s => Secrets.wants s .containers name) = true ↔
      ctx.HasSecrets .dynamic ∧ name = "tvsi-vault-agent" := by
  show _ ↔ _ ∧ name = Secrets.agentContainer
  unfold HasSecrets
  cases ctx.secrets with
  | none => simp
  | some s =>
    obtain ⟨secretsType, method, template⟩ := s
    cases secretsType <;> simp [Secrets.wants, SecretsConfig.isStatic]

/-- There is nothing to watch in a job that only fetches static secrets. -/
theorem nothingToWatch_iff (h : build config keys .builtin containers labels = .ok ctx) :
    Job.nothingToWatch ctx = true ↔
      ctx.HasSecrets .static ∧ ctx.modes.Exactly [secretsKey, jobKey] := by
  -- The set of enabled modes is compared, since the flags are sorted.
  have hsorted : Dict.Sorted ctx.modes.flags := by
    rw [(build_eq_ok h).1]
    exact sorted_requestedModes _ _ _
  rw [← EnabledModes.isExactly_iff hsorted]
  unfold Job.nothingToWatch HasSecrets
  cases ctx.secrets with
  | none => simp
  | some s => simp [SecretsConfig.isStatic]

/-- The job mode claims the containers that watch a job, where there is something to
watch. -/
theorem watches_iff (h : build config keys .builtin containers labels = .ok ctx)
    (name : String) :
    (ctx.modes.isEnabled jobKey && Job.wants .containers name ctx) = true ↔
      ctx.Watches ∧ (name = "tvsi-job-babysitter" ∨ name = "tvsi-vault-agent") := by
  have hwatch : (!Job.nothingToWatch ctx) = true ↔
      ¬ (ctx.HasSecrets .static ∧ ctx.modes.Exactly [secretsKey, jobKey]) := by
    rw [← nothingToWatch_iff h, Bool.not_eq_true', Bool.not_eq_true]
  unfold Watches Job.wants
  rw [Bool.and_eq_true, Bool.and_eq_true, hwatch]
  simp only [Job.monitoringContainer, Job.listenerContainer, decide_true, Bool.true_and,
    List.contains_cons, List.contains_nil, Bool.or_false, Bool.or_eq_true, beq_iff_eq]
  exact ⟨fun ⟨hjob, hname, hwatched⟩ => ⟨⟨hjob, hwatched⟩, hname⟩,
    fun ⟨⟨hjob, hwatched⟩, hname⟩ => ⟨hjob, hname, hwatched⟩⟩

/-- The built-in modes take the decision together. -/
theorem any_claims_iff (h : build config keys .builtin containers labels = .ok ctx)
    (target : Target) (name : String) :
    (Registry.builtin.enabledModes ctx.modes).any (Rendering.claims target name ctx) = true ↔
      ctx.Injects target name := by
  rw [any_claims, proxy_isSome_of_build h, Bool.or_eq_true, Bool.or_eq_true]
  cases target with
  | initContainers =>
    -- The other two modes claim application containers only.
    rw [Bool.and_eq_true, any_wants_initContainers]
    simp [Injects, Job.wants]
  | containers =>
    rw [Bool.and_eq_true, any_wants_containers, watches_iff h]
    simp only [decide_true, Bool.true_and, Bool.and_eq_true, decide_eq_true_eq]
    show _ ∨ (_ ∧ name = "tvsi-vault-agent" ∧ _) ∨ _ ↔ _
    simp only [Injects]
    constructor
    · rintro (⟨hsecrets, hdynamic, hagent⟩ | ⟨hproxy, hagent, -⟩ | ⟨hjob, hwatcher | hagent⟩)
      · exact .inl ⟨hagent, .inl ⟨hsecrets, hdynamic⟩⟩
      · exact .inl ⟨hagent, .inr (.inl hproxy)⟩
      · exact .inr ⟨hwatcher, hjob⟩
      · exact .inl ⟨hagent, .inr (.inr hjob)⟩
    · rintro (⟨hagent, ⟨hsecrets, hdynamic⟩ | hproxy | hjob⟩ | ⟨hwatcher, hjob⟩)
      · exact .inl ⟨hsecrets, hdynamic, hagent⟩
      · exact .inr (.inl ⟨hproxy, hagent, hproxy⟩)
      · exact .inr (.inr ⟨hjob, .inr hagent⟩)
      · exact .inr (.inr ⟨hjob, .inl hwatcher⟩)

end

end Context

/-! ### Added containers -/

/-- A template is rendered just when the decision is for it, and it keeps its name. -/
theorem Rendering.decided {config : Config} {keys : AnnotationKeys} {labels : PodLabels}
    {containers podContainers : List Container} {ctx : Context} {target : Target} {t : Container}
    {result : Option Container}
    (hctx : Context.build config keys .builtin containers labels = .ok ctx)
    (h : render .builtin target podContainers ctx t = .ok result) :
    (result.isSome = true ↔ ctx.Injects target t.name) ∧ ∀ c ∈ result, c.name = t.name := by
  obtain ⟨env, rfl⟩ := render_builtin_eq_ok h
  rw [← Context.any_claims_iff hctx]
  split
  · rename_i hclaimed
    refine ⟨iff_of_true rfl hclaimed, fun c hc => ?_⟩
    cases hc
    exact name_fill ctx t env
  · rename_i hclaimed
    exact ⟨iff_of_false (by simp) hclaimed, nofun⟩

/-- Without the job mode, the container that watches jobs is never injected. -/
theorem Context.not_injects_of_job {ctx : Context} (h : ctx.modes.isEnabled jobKey = false)
    (target : Target) : ¬ ctx.Injects target "tvsi-job-babysitter" := by
  have hwatches : ¬ ctx.Watches := fun hw => Bool.false_ne_true (h.symm.trans hw.1)
  cases target with
  | initContainers => simp [Injects]
  | containers => simp [Injects, hwatches]

namespace Injector

/-- A created patch adds a container for each configured container that the decision is
for, by position, and no others. They are put in front of the containers of the pod. What
the patch writes in place of a container of the pod keeps its name, and without the job
mode nothing that is added is named after the container that watches jobs. -/
theorem createPatch_templates (config : Config) (pod : Pod) (log : Patch)
    (h : (Injector.mk config .builtin).createPatch pod = .ok log) :
    ∃ spec ctx new, Injection config pod log spec ctx new ∧ ∀ target, ∃ results own,
      List.Forall₂ (fun (t : Container) (result : Option Container) =>
          Rendering.render .builtin target (spec.listed target) ctx t = .ok result ∧
            (result.isSome = true ↔ ctx.Injects target t.name) ∧ ∀ c ∈ result, c.name = t.name)
        (config.injection.templates target) results ∧
      log.flatMap (Operation.added target) =
        (results.flatMap Option.toList).map Container.toJson ∧
      new.listed target = results.flatMap Option.toList ++ own ∧
      own.map Container.name = (spec.listed target).map Container.name ∧
      (∀ j ∈ log.flatMap (Operation.replaced target),
        ∃ c ∈ spec.listed target, j.memberText? "name" = some c.name) ∧
      (ctx.modes.isEnabled jobKey = false →
        ∀ c ∈ results.flatMap Option.toList, c.name ≠ "tvsi-job-babysitter") := by
  obtain ⟨spec, ctx, modeEdits, rendered, hsteps, hinjection⟩ := exists_steps h
  refine ⟨spec, ctx, _, hinjection, fun target => ?_⟩
  obtain ⟨results, hresults, hrendered⟩ := Rendering.renderAll_eq_ok.mp (hsteps.renderAll_eq target)
  refine ⟨results, (spec.listed target).map (Effect.updateContainer ⟨config, .builtin⟩
    (.ofMetadata pod.metadata) ctx spec target), hresults.imp fun t result hresult =>
      ⟨hresult, Rendering.decided hinjection.context hresult⟩, ?_, ?_, ?_, ?_, ?_⟩
  · rw [hsteps.flatMap_added, hrendered]
  · rw [Effect.listed_update, hrendered]
  · simp
  · exact fun j hj => hsteps.name_of_replaced hj
  · intro hjob c hc hname
    obtain ⟨result, hresult, hc⟩ := List.mem_flatMap.mp hc
    obtain ⟨t, -, hrender⟩ := exists_of_forall₂ hresults hresult
    obtain ⟨hinjects, hnames⟩ := Rendering.decided hinjection.context hrender
    have hsome : result = some c := Option.mem_toList.mp hc
    -- The rendered container has the name of its template.
    have htemplate : t.name = "tvsi-job-babysitter" := (hnames c hsome).symm.trans hname
    have hisSome : result.isSome = true := by
      rw [hsome]
      rfl
    exact Context.not_injects_of_job hjob target (htemplate ▸ hinjects.mp hisSome)

end Injector

/-! ### A small job -/

namespace Sample

/-- The small configuration, with the container that watches jobs. -/
def jobConfig : Config :=
  { config with injection := ⟨[], [agent, { agent with name := "tvsi-job-babysitter" }],
    [⟨"secrets", .empty _⟩]⟩ }

/-- A pod that runs as a job. -/
def jobPod : Pod :=
  { pod with metadata := { pod.metadata with
      annotations := some [("inject", "true"), ("workload", "job")] } }

end Sample

namespace Injector

/-- The agent and the container that watches the job are added to the small job. -/
theorem createPatch_templates_sample :
    ∃ log spec ctx new,
      (Injector.mk Sample.jobConfig .builtin).createPatch Sample.jobPod = .ok log ∧
      Injection Sample.jobConfig Sample.jobPod log spec ctx new ∧
      ctx.Injects .containers "tvsi-vault-agent" ∧
      ctx.Injects .containers "tvsi-job-babysitter" ∧
      (log.flatMap (Operation.added .containers)).length = 2 := by
  have hadded : (((Injector.mk Sample.jobConfig .builtin).createPatch Sample.jobPod).toOption.map
      fun log => (log.flatMap (Operation.added .containers)).length) = some 2 := by decide +kernel
  have hcreated : ((Injector.mk Sample.jobConfig .builtin).createPatch Sample.jobPod).toBool =
      true := by decide +kernel
  obtain ⟨log, hlog⟩ := exists_of_toBool hcreated
  rw [hlog] at hadded
  have hlength : (log.flatMap (Operation.added .containers)).length = 2 := Option.some.inj hadded
  obtain ⟨spec, ctx, new, hinjection, htargets⟩ :=
    createPatch_templates Sample.jobConfig Sample.jobPod log hlog
  obtain ⟨results, own, hresults, hlist, -⟩ := htargets .containers
  obtain ⟨first, others, ⟨-, hfirst, -⟩, hothers, rfl⟩ := List.forall₂_cons_left_iff.mp hresults
  obtain ⟨second, rest, ⟨-, hsecond, -⟩, hrest, rfl⟩ := List.forall₂_cons_left_iff.mp hothers
  cases hrest
  -- Two containers are added, so neither template is left out.
  have hboth : first.isSome = true ∧ second.isSome = true := by
    rw [hlist] at hlength
    cases first <;> cases second <;> simp at hlength ⊢
  exact ⟨log, spec, ctx, new, hlog, hinjection, hfirst.mp hboth.1, hsecond.mp hboth.2, hlength⟩

end Injector

end SidecarInjection
