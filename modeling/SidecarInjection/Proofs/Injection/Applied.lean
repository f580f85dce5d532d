import SidecarInjection.Proofs.Injection.Create

/-!
# `SidecarInjection.Proofs.Injection.Applied`: pods with the created patch applied

A created patch is made in steps: a context is worked out, the modes edit the pod's
own containers, and the configured containers are rendered for both lists. Here the
results of the steps are named, and the specification of the patched pod is said in
terms of them.

* `Injection`: what a pod is injected to.
* `InjectionSteps`: the results of the steps, and the patch that they make up.
* `Injector.exists_applied`, `Injector.exists_steps`: a created patch has steps, and they injected
  the pod.
* `InjectionSteps.exists_modeEdits`: the edits that the modes make.
* `Effect.mounts_updateContainer`: the mounts of one of the pod's own containers.
* `Effect.listed_update`: each list of containers of the patched pod.
-/

set_option autoImplicit false

namespace SidecarInjection

open Outcome

/-- The configured containers that may be put into a list of a pod. -/
def InjectionConfig.templates (c : InjectionConfig) : Target → List Container
  | .initContainers => c.initContainers
  | .containers => c.containers

/-- The containers of a list, none when it is absent. -/
def PodSpec.listed (s : PodSpec) (target : Target) : List Container := (s.list target).getD []

/-- A pod with a specification is injected with a patch. The context is the one that is
worked out for it, and the patched pod is read with the new specification. -/
structure Injection (config : Config) (pod : Pod) (log : Patch) (spec : PodSpec) (ctx : Context)
    (new : PodSpec) : Prop where
  submitted : pod.spec = some spec
  context : Context.build config (Injector.mk config .builtin).keys .builtin spec.containers
    (.ofMetadata pod.metadata) = .ok ctx
  applied : ∃ doc injected, log.apply pod.toJson = .ok doc ∧ Pod.decode doc = .ok injected ∧
    injected.spec = some new

/-- The results of the steps that make up a patch: the context, the edits of the modes, and
the rendered containers of each list. -/
structure InjectionSteps (config : Config) (pod : Pod) (log : Patch) (spec : PodSpec)
    (ctx : Context) (modeEdits : Patch) (rendered : Target → List Container) : Prop where
  build_eq : Context.build config (Injector.mk config .builtin).keys .builtin spec.containers
    (.ofMetadata pod.metadata) = .ok ctx
  modePatch_eq : (Injector.mk config .builtin).modePatch spec (.ofMetadata pod.metadata) ctx
    (Registry.builtin.enabledModes ctx.modes) = .ok modeEdits
  renderAll_eq : ∀ target, Rendering.renderAll .builtin target (spec.listed target) ctx
    (config.injection.templates target) = .ok (rendered target)
  log_eq : log = modeEdits ++ Injector.secretsPatch spec ctx ++
    (Injector.mk config .builtin).volumePatch spec ++
    Rendering.prepend .initContainers spec.initContainers.isNone (rendered .initContainers) ++
    Rendering.prepend .containers false (rendered .containers) ++
    [(Injector.mk config .builtin).statusOperation pod.metadata]

namespace Injector

/-- A created patch is made in steps. Applied to the written form of the pod it gives a document
that is read as the updated pod. -/
theorem exists_applied {config : Config} {pod : Pod} {log : Patch}
    (h : (Injector.mk config .builtin).createPatch pod = .ok log) :
    ∃ spec ctx modeEdits rendered doc, pod.spec = some spec ∧
      InjectionSteps config pod log spec ctx modeEdits rendered ∧
      log.apply pod.toJson = .ok doc ∧
      Pod.decode doc = .ok { pod with
        metadata := Effect.mark ⟨config, .builtin⟩ pod.metadata
        spec := some (Effect.update ⟨config, .builtin⟩ (.ofMetadata pod.metadata) ctx
          (rendered .initContainers) (rendered .containers) spec) } := by
  rw [createPatch_eq rfl] at h
  obtain ⟨spec, hspec, hedits⟩ := bind_eq_ok.mp h
  obtain ⟨hsubmitted, -⟩ := specification_eq_ok hspec
  obtain ⟨doc, injected, hdoc, hinject, hdecode⟩ := apply_edits rfl hspec hedits
  obtain ⟨ctx, hctx, hedits⟩ := bind_eq_ok.mp hedits
  obtain ⟨modeEdits, hmodes, hedits⟩ := bind_eq_ok.mp hedits
  obtain ⟨initEdits, hinit, hedits⟩ := bind_eq_ok.mp hedits
  obtain ⟨containerEdits, hcontainers, hedits⟩ := bind_eq_ok.mp hedits
  obtain ⟨initRendered, hinitRendered, hinit⟩ := bind_eq_ok.mp hinit
  obtain ⟨rendered, hrendered, hcontainers⟩ := bind_eq_ok.mp hcontainers
  cases hinit
  cases hcontainers
  cases hedits
  refine ⟨spec, ctx, modeEdits, fun target => target.casesOn initRendered rendered, doc,
    hsubmitted, ⟨hctx, hmodes, fun target => ?_, rfl⟩, hdoc, ?_⟩
  · cases target with
    | initContainers => exact hinitRendered
    | containers => exact hrendered
  · -- The update goes through the same steps.
    simp only [Option.getD_some] at hrendered
    simp only [Effect.inject, hspec, Effect.updateSpec, hctx, hinitRendered, hrendered, ok_bind,
      pure_eq] at hinject
    cases hinject
    exact hdecode

/-- A created patch is made in steps, and the pod is injected with what they give. -/
theorem exists_steps {config : Config} {pod : Pod} {log : Patch}
    (h : (Injector.mk config .builtin).createPatch pod = .ok log) :
    ∃ spec ctx modeEdits rendered,
      InjectionSteps config pod log spec ctx modeEdits rendered ∧
      Injection config pod log spec ctx (Effect.update ⟨config, .builtin⟩
        (.ofMetadata pod.metadata) ctx (rendered .initContainers) (rendered .containers) spec) := by
  obtain ⟨spec, ctx, modeEdits, rendered, doc, hsubmitted, hsteps, hdoc, hdecode⟩ :=
    exists_applied h
  exact ⟨spec, ctx, modeEdits, rendered, hsteps, hsubmitted, hsteps.build_eq, doc, _, hdoc, hdecode,
    rfl⟩

end Injector

/-- The edits of the modes are the hooks and commands of the secrets mode. -/
theorem InjectionSteps.exists_modeEdits {config : Config} {pod : Pod} {log : Patch}
    {spec : PodSpec} {ctx : Context} {modeEdits : Patch} {rendered : Target → List Container}
    (h : InjectionSteps config pod log spec ctx modeEdits rendered) :
    ∃ hooks commands,
      Secrets.hookPatch config (Injector.mk config .builtin).keys spec
        (.ofMetadata pod.metadata) ctx = .ok hooks ∧
      Secrets.commandPatch spec ctx = .ok commands ∧ modeEdits = hooks ++ commands := by
  have hbuiltin : (Injector.mk config .builtin).modePatch spec (.ofMetadata pod.metadata) ctx
      (Registry.builtin.enabledModes ctx.modes) = (do
        let hooks ← Secrets.hookPatch config (Injector.mk config .builtin).keys spec
          (.ofMetadata pod.metadata) ctx
        let commands ← Secrets.commandPatch spec ctx
        .ok (hooks ++ commands)) :=
    Injector.modePatch_builtin rfl (Context.secrets_eq_none h.build_eq)
  -- The other two modes edit nothing.
  have hmodes := h.modePatch_eq
  rw [hbuiltin] at hmodes
  obtain ⟨hooks, hhooks, hmodes⟩ := bind_eq_ok.mp hmodes
  obtain ⟨commands, hcommands, hmodes⟩ := bind_eq_ok.mp hmodes
  exact ⟨hooks, commands, hhooks, hcommands, (Except.ok.inj hmodes).symm⟩

namespace Secrets

/-- When commands are wrapped, every container has one. -/
theorem exists_command_of_commandPatch {spec : PodSpec} {ctx : Context} {edits : Patch}
    (h : commandPatch spec ctx = .ok edits) (henv : usesEnv ctx = true) {c : Container}
    (hc : c ∈ spec.containers) : ∃ command, c.command = some command := by
  rw [commandPatch_eq, if_pos henv] at h
  cases hfind : spec.containers.find? lacksCommand with
  | some missing =>
    -- A container without a command would have been reported.
    rw [hfind] at h
    cases h
  | none =>
    have hhas : lacksCommand c = false := by simpa using List.find?_eq_none.mp hfind c hc
    cases hcommand : c.command with
    | none => simp [lacksCommand, hcommand] at hhas
    | some command => exact ⟨command, rfl⟩

end Secrets

/-! ### The patched specification -/

namespace Effect

variable (c : Container)

/-- A start hook leaves the name alone. -/
@[simp] theorem name_setHook (hook : Option LifecycleHandler) : (setHook hook c).name = c.name := by
  cases hook <;> rfl

/-- It leaves the mounts alone too. -/
@[simp] theorem mounts_setHook (hook : Option LifecycleHandler) :
    (setHook hook c).mounts = c.mounts := by
  cases hook <;> rfl

/-- Wrapping a command leaves the name alone. -/
@[simp] theorem name_wrapCommand (process : Option String) :
    (wrapCommand process c).name = c.name := by
  cases process <;> rfl

/-- It leaves the mounts alone too. -/
@[simp] theorem mounts_wrapCommand (process : Option String) :
    (wrapCommand process c).mounts = c.mounts := by
  cases process <;> rfl

/-- Mounting the secrets volume changes nothing but the mounts. -/
theorem exists_mountSecrets (ctx : Context) :
    ∃ volumeMounts, mountSecrets ctx c = { c with volumeMounts } := by
  unfold mountSecrets addMount
  split
  · split
    · exact ⟨c.volumeMounts, rfl⟩
    · exact ⟨_, rfl⟩
  · exact ⟨c.volumeMounts, rfl⟩

/-- A mount leaves the name alone. -/
@[simp] theorem name_mountSecrets (ctx : Context) : (mountSecrets ctx c).name = c.name := by
  obtain ⟨_, h⟩ := exists_mountSecrets c ctx
  rw [h]

/-- Nothing is in the way of the mount when no mount has the name of the volume, and none the
default place. -/
theorem isMounted_eq_false {c : Container} :
    isMounted c = false ↔
      ∀ m ∈ c.mounts, m.name ≠ Secrets.volumeName ∧ m.mountPath ≠ Secrets.defaultMountPath := by
  simp [isMounted]

/-- The mount of the secrets volume comes after the mounts of the container. -/
theorem mounts_mountSecrets (ctx : Context) :
    (mountSecrets ctx c).mounts = c.mounts ++
      if ctx.modes.isEnabled secretsKey && !isMounted c then [Injector.secretsMount] else [] := by
  unfold mountSecrets addMount
  cases ctx.modes.isEnabled secretsKey with
  | false => simp
  | true =>
    cases isMounted c with
    | true => simp
    | false => rfl

/-- What injection makes of one of the pod's own containers. -/
def updateContainer (i : Injector) (labels : PodLabels) (ctx : Context) (spec : PodSpec) :
    Target → Container → Container
  | .initContainers, c => mountSecrets ctx c
  | .containers, c => mountSecrets ctx (wrapCommand (envProcess ctx spec.containers)
      (setHook (startHook i labels ctx spec.containers) c))

variable (i : Injector) (labels : PodLabels) (ctx : Context) (spec : PodSpec) (target : Target)

/-- So an updated container has the name that it was submitted with. -/
@[simp] theorem name_updateContainer :
    (updateContainer i labels ctx spec target c).name = c.name := by
  cases target <;> simp [updateContainer]

/-- Hooks and commands leave the mounts alone. -/
theorem mounts_updateContainer :
    (updateContainer i labels ctx spec target c).mounts = c.mounts ++
      if ctx.modes.isEnabled secretsKey && !isMounted c then [Injector.secretsMount] else [] := by
  cases target with
  | initContainers => exact mounts_mountSecrets c ctx
  | containers => simp [updateContainer, mounts_mountSecrets, isMounted]

/-- The containers of the updated specification are the rendered ones, and then the pod's
own ones. -/
theorem listed_update (rendered : Target → List Container) :
    (update i labels ctx (rendered .initContainers) (rendered .containers) spec).listed target =
      rendered target ++ (spec.listed target).map (updateContainer i labels ctx spec target) := by
  cases target with
  | initContainers =>
    obtain ⟨containers, initContainers, volumes, extra⟩ := spec
    show (orAbsent (initContainers.map (List.map (mountSecrets ctx)))
      (rendered .initContainers ++ (initContainers.map (List.map (mountSecrets ctx))).getD [])).getD
        [] = rendered .initContainers ++ (initContainers.getD []).map (mountSecrets ctx)
    cases initContainers with
    | none =>
      -- A list that stays absent holds nothing.
      cases rendered .initContainers <;> rfl
    | some cs => rfl
  | containers => rfl

end Effect

end SidecarInjection
