import SidecarInjection.Proofs.Context.Build

/-!
# `SidecarInjection.Proofs.Rendering`: which configured containers are rendered

The modes are asked about a configured container one after another, and it is
rendered if one of them claims it. Whether a mode claims a container does not depend
on the environment that the modes before it left, so the answers can be told apart.

* `Rendering.claimed_ask`: a container is claimed when one of the modes claims it.
* `Rendering.renderAll_eq_ok`: each template is rendered or left out on its own.
* `Rendering.render_builtin_eq_ok`: what the built-in modes make of one template.
* `Rendering.mounts_fill`: the mounts of a rendered container.
-/

set_option autoImplicit false

namespace SidecarInjection.Rendering

open Outcome

/-! ### Answers -/

section

variable {target : Target} {podContainers : List Container} {name : String} {ctx : Context}

/-- When each mode claims a container just if a test says so, the container is claimed
after all answers if it was before, or if some mode claims it. -/
theorem claimed_ask {claims : Mode → Bool} {modes : List Mode}
    (hmodes : ∀ mode ∈ modes, ∀ env next,
      mode.injectContainer target podContainers name env ctx = .ok next →
        next.claimed = claims mode) {answer result : ContainerAnswer}
    (h : ask target podContainers name ctx modes answer = .ok result) :
    result.claimed = (answer.claimed || modes.any claims) := by
  -- The answers so far are handed on, and no mode takes a claim back.
  induction modes generalizing answer with
  | nil =>
    cases h
    rw [List.any_nil, Bool.or_false]
  | cons mode rest ih =>
    obtain ⟨next, hnext, h⟩ := bind_eq_ok.mp h
    have hclaimed := hmodes mode List.mem_cons_self answer.env next hnext
    rw [ih (fun m hm => hmodes m (List.mem_cons_of_mem _ hm)) h, hclaimed, List.any_cons,
      Bool.or_assoc]

/-- Whether a built-in mode, if it is enabled, claims a container. -/
def claims (target : Target) (name : String) (ctx : Context) (mode : Mode) : Bool :=
  if mode.key = secretsKey then ctx.secrets.any fun s => Secrets.wants s target name
  else if mode.key = proxyKey then
    target = .containers && name = Proxy.agentContainer && ctx.proxy.isSome
  else Job.wants target name ctx

/-- A built-in mode that answers says whether it claims the container. The variables that the
container has do not matter. -/
theorem claimed_of_mem_builtin {mode : Mode} (hmode : mode ∈ Registry.builtin.modes)
    {env : List EnvVar} {next : ContainerAnswer}
    (h : mode.injectContainer target podContainers name env ctx = .ok next) :
    next.claimed = claims target name ctx mode := by
  rw [Registry.builtin_modes] at hmode
  simp only [List.mem_cons, List.not_mem_nil, or_false] at hmode
  rcases hmode with rfl | rfl | rfl
  · -- The secrets mode
    cases h
    show (Secrets.answer target name env ctx).claimed =
      ctx.secrets.any fun s => Secrets.wants s target name
    unfold Secrets.answer
    cases ctx.secrets with
    | none => rfl
    | some secrets =>
      show (if Secrets.wants secrets target name then _ else _ : ContainerAnswer).claimed =
        Secrets.wants secrets target name
      cases Secrets.wants secrets target name <;> rfl
  · -- The proxy mode
    cases h
    show (Proxy.answer target name env ctx).claimed =
      (target = .containers && name = Proxy.agentContainer && ctx.proxy.isSome)
    unfold Proxy.answer
    by_cases hagent : target = .containers ∧ name = Proxy.agentContainer
    · rw [if_pos hagent]
      cases ctx.proxy <;> simp [hagent, ContainerAnswer.claim, ContainerAnswer.decline]
    · rw [if_neg hagent]
      simp_all [ContainerAnswer.decline]
  · -- The job mode
    have hanswer : Job.answer target podContainers name env ctx = .ok next := h
    show next.claimed = Job.wants target name ctx
    unfold Job.answer at hanswer
    split at hanswer
    · rename_i hwants
      split at hanswer
      · cases hanswer
        exact hwants.symm
      · cases hanswer
    · rename_i hwants
      cases hanswer
      exact ((Bool.not_eq_true _).mp hwants).symm

end

/-! ### Templates -/

section

variable {registry : Registry} {target : Target} {podContainers : List Container} {ctx : Context}

/-- Each template is rendered or left out on its own, in order. -/
theorem renderAll_eq_ok {templates rendered : List Container} :
    renderAll registry target podContainers ctx templates = .ok rendered ↔
      ∃ results, List.Forall₂
          (fun t result => render registry target podContainers ctx t = .ok result)
          templates results ∧
        rendered = results.flatMap Option.toList := by
  induction templates generalizing rendered with
  | nil =>
    constructor
    · intro h
      cases h
      exact ⟨[], .nil, rfl⟩
    · rintro ⟨results, hresults, rfl⟩
      cases hresults
      rfl
  | cons template rest ih =>
    constructor
    · intro h
      obtain ⟨result, hresult, h⟩ := bind_eq_ok.mp h
      obtain ⟨others, hothers, h⟩ := bind_eq_ok.mp h
      cases h
      obtain ⟨results, hresults, rfl⟩ := ih.mp hothers
      exact ⟨result :: results, .cons hresult hresults, rfl⟩
    · rintro ⟨results, hresults, rfl⟩
      obtain ⟨result, others, hresult, hothers, rfl⟩ := List.forall₂_cons_left_iff.mp hresults
      -- The templates are rendered from the front, as the results are listed.
      refine bind_eq_ok.mpr ⟨result, hresult, bind_eq_ok.mpr ⟨_, ih.mpr ⟨others, hothers, rfl⟩, ?_⟩⟩
      rfl

/-- A template is rendered with what the modes leave of its environment, if they claim
it. -/
theorem render_eq_ok {template : Container} {result : Option Container}
    (h : render registry target podContainers ctx template = .ok result) :
    ∃ answer, ask target podContainers template.name ctx (registry.enabledModes ctx.modes)
        (.decline (template.env.getD [])) = .ok answer ∧
      result = if answer.claimed then some (fill ctx template answer.env) else none := by
  obtain ⟨answer, hanswer, h⟩ := bind_eq_ok.mp h
  exact ⟨answer, hanswer, (Except.ok.inj h).symm⟩

/-- With the built-in modes, a template is rendered when an enabled mode claims it. -/
theorem render_builtin_eq_ok {template : Container} {result : Option Container}
    (h : render .builtin target podContainers ctx template = .ok result) :
    ∃ env, result =
      if (Registry.builtin.enabledModes ctx.modes).any (claims target template.name ctx) then
        some (fill ctx template env)
      else none := by
  obtain ⟨answer, hask, hresult⟩ := render_eq_ok h
  refine ⟨answer.env, ?_⟩
  have hclaimed := claimed_ask (fun mode hmode _ _ hnext =>
    claimed_of_mem_builtin (List.mem_of_mem_filter hmode) hnext) hask
  rw [hresult, hclaimed]
  rfl

/-- Rendered containers come from templates. -/
theorem exists_fill_of_mem {templates rendered : List Container} {c : Container}
    (h : renderAll registry target podContainers ctx templates = .ok rendered)
    (hc : c ∈ rendered) : ∃ t ∈ templates, ∃ env, c = fill ctx t env := by
  obtain ⟨results, hresults, rfl⟩ := renderAll_eq_ok.mp h
  obtain ⟨result, hresult, hc⟩ := List.mem_flatMap.mp hc
  obtain ⟨t, ht, hrender⟩ := exists_of_forall₂ hresults hresult
  obtain ⟨answer, -, rfl⟩ := render_eq_ok hrender
  refine ⟨t, ht, answer.env, ?_⟩
  cases hclaimed : answer.claimed with
  | false => simp [hclaimed] at hc
  | true => simpa [hclaimed] using hc

end

/-! ### Filled containers -/

/-- A rendered container has the name of its template. -/
@[simp] theorem name_fill (ctx : Context) (template : Container) (env : List EnvVar) :
    (fill ctx template env).name = template.name := rfl

/-- Its mounts stay in their places. -/
@[simp] theorem mountPath_fillMount (ctx : Context) (m : VolumeMount) :
    (fillMount ctx m).mountPath = m.mountPath := by
  unfold fillMount
  split
  · rfl
  · split <;> rfl

/-- Its mounts are those of the template, each filled in. -/
theorem mounts_fill (ctx : Context) (template : Container) (env : List EnvVar) :
    (fill ctx template env).mounts = template.mounts.map (fillMount ctx) := by
  unfold fill Container.mounts
  cases template.volumeMounts <;> rfl

end SidecarInjection.Rendering
