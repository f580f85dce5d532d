import SidecarInjection.Proofs.Direct.Container

/-!
# `SidecarInjection.Proofs.Injection.SecretsPath`: the directory of the secrets

Wrapped commands and start hooks name the directory of the secrets, and ought to name a directory
in which the same container mounts them. The directory is that of the whole pod, while the mounts
are added to each container by itself. So the two need not go together. A container that mounts
the secrets in another place than the pod's first mount, or gets its mount in the default place
while the pod has a directory of its own, or has another volume in the default place, is given the
name of a directory that it does not mount.

`Secrets.Reaches` says of the submitted containers alone when the directory is the right one. This
is exact: a container that the directory does not reach gets a wrong path in a wrapped command,
and in a start hook too unless no argument of the hook has the mark for the directory.

* `Direct.mountsSecretsAt_iff`: where a container mounts the secrets after the injection.
* `Direct.runsFromMount_iff`: when the wrapped command of a container is right.
* `Direct.hookFromMount_iff`: when its start hook is.
* `Injector.createPatch_secretsPaths`: both for the containers of a patched pod.
-/

set_option autoImplicit false

namespace SidecarInjection

open Outcome

/-! ### Statements -/

namespace Container

/-- The container mounts the volume `secrets` at a path. -/
def MountsSecretsAt (c : Container) (path : String) : Prop :=
  ∃ m ∈ c.mounts, m.name = "secrets" ∧ m.mountPath = path

/-- The container is run by the process that loads the secrets, in a directory where the same
container mounts them. -/
def RunsFromMount (c : Container) : Prop :=
  ∃ path rest, c.MountsSecretsAt path ∧ c.command = some ((path ++ "/vaultinjector-env") :: rest)

/-- An argument of a start hook, in which every place of the mark for the directory has a path
where the container mounts the secrets. -/
def ArgFromMount (c : Container) (arg filled : String) : Prop :=
  (¬ "<VSI_SECRETS_VOL_MOUNTPATH>".toList <:+: arg.toList ∧ filled = arg) ∨
    ∃ path, c.MountsSecretsAt path ∧ Text.Replaced "<VSI_SECRETS_VOL_MOUNTPATH>" path arg filled

/-- The container has a start hook with these arguments, all of them filled in like that. -/
def HookFromMount (c : Container) (args : Option (List String)) : Prop :=
  ∃ filled, c.lifecycle.bind Lifecycle.postStart = some ⟨some ⟨filled⟩, .empty _⟩ ∧
    Option.Rel (List.Forall₂ c.ArgFromMount) args filled

end Container

namespace Secrets

/-- The directory of the pod is one where a submitted container mounts the secrets, or where it is
to get its mount: it mounts neither the secrets nor anything in the default place, and the
directory is that place. -/
def Reaches (containers : List Container) (c : Container) : Prop :=
  ∃ path, Directory containers path ∧ (c.MountsSecretsAt path ∨
    ((∀ m ∈ c.mounts, m.name ≠ "secrets" ∧ m.mountPath ≠ "/opt/talend/secrets") ∧
      path = "/opt/talend/secrets"))

/-- No argument of a hook has the mark for the directory. -/
def Unmarked (args : Option (List String)) : Prop :=
  ∀ list ∈ args, ∀ arg ∈ list, ¬ "<VSI_SECRETS_VOL_MOUNTPATH>".toList <:+: arg.toList

end Secrets

/-! ### One container -/

namespace Direct

variable {i : Injector} {labels : PodLabels} {ctx : Context} {containers : List Container}
  {c c' : Container}

/-- With the secrets mode, a container mounts the secrets where it did before, or in the default
place if it had nothing to do with either. -/
theorem mountsSecretsAt_iff (henabled : ctx.modes.isEnabled "secrets" = true)
    (h : Own i labels ctx containers c c') {path : String} :
    c'.MountsSecretsAt path ↔ c.MountsSecretsAt path ∨
      ((∀ m ∈ c.mounts, m.name ≠ "secrets" ∧ m.mountPath ≠ "/opt/talend/secrets") ∧
        path = "/opt/talend/secrets") := by
  obtain ⟨lifecycle, command, volumeMounts, -, -, hmounted, rfl⟩ := h
  unfold Container.MountsSecretsAt
  cases hmounted with
  | added _ hfree =>
    have hmounts : Container.mounts { c with
        lifecycle := lifecycle
        command := command
        volumeMounts := some (c.volumeMounts.getD [] ++ [⟨"secrets", "/opt/talend/secrets",
          .empty _⟩]) } = c.mounts ++ [⟨"secrets", "/opt/talend/secrets", .empty _⟩] := rfl
    rw [hmounts]
    simp only [List.mem_append, List.mem_singleton, or_and_right, exists_or, exists_eq_left,
      true_and]
    exact or_congr_right ⟨fun hpath => ⟨hfree, hpath.symm⟩, fun hnew => hnew.2.symm⟩
  | kept hin =>
    -- The mount that is in the way shows that the container is not free.
    obtain ⟨m, hm, hin⟩ := hin henabled
    refine (or_iff_left ?_).symm
    rintro ⟨hfree, -⟩
    exact hin.elim (hfree m hm).1 (hfree m hm).2

/-- So the directory of the pod is reached by the containers that mount the secrets there in the
end. -/
theorem reaches_iff (henabled : ctx.modes.isEnabled "secrets" = true)
    (h : Own i labels ctx containers c c') {path : String}
    (hpath : Secrets.Directory containers path) :
    Secrets.Reaches containers c ↔ c'.MountsSecretsAt path := by
  rw [mountsSecretsAt_iff henabled h]
  constructor
  · rintro ⟨other, hother, hreaches⟩
    rw [hpath.unique hother]
    exact hreaches
  · exact fun hreaches => ⟨path, hpath, hreaches⟩

/-- The wrapped command of a container is right just when the directory reaches the container. -/
theorem runsFromMount_iff (henabled : ctx.modes.isEnabled "secrets" = true)
    (hstatic : ctx.HasSecrets .static) (henv : ctx.HasEnv)
    (h : Own i labels ctx containers c c') :
    c'.RunsFromMount ↔ Secrets.Reaches containers c := by
  obtain ⟨lifecycle, command, volumeMounts, -, hwrapped, -, hc'⟩ := id h
  generalize hcommand : c.command = submitted at hwrapped
  cases hwrapped with
  | kept hnot => exact absurd ⟨hstatic, henv⟩ hnot
  | @loaded path submitted _ _ hpath =>
    have hrun : c'.command = some ((path ++ "/vaultinjector-env") :: submitted) := by rw [hc']
    rw [reaches_iff henabled h hpath]
    constructor
    · rintro ⟨other, rest, hmounts, hother⟩
      -- The process has the same name everywhere, so the directories are the same.
      have hprocess : path ++ "/vaultinjector-env" = other ++ "/vaultinjector-env" :=
        (List.cons.inj (Option.some.inj (hrun.symm.trans hother))).1
      rw [← String.toList_inj, String.toList_append, String.toList_append,
        List.append_cancel_right_eq, String.toList_inj] at hprocess
      rw [hprocess]
      exact hmounts
    · exact fun hmounts => ⟨path, submitted, hmounts, hrun⟩

/-- What was put for a mark can be told from the result. So an argument with the mark is right only
if the container mounts the secrets in the directory that was put. -/
theorem argFromMount_iff {path arg filled : String}
    (h : Text.Replaced "<VSI_SECRETS_VOL_MOUNTPATH>" path arg filled) :
    c.ArgFromMount arg filled ↔
      c.MountsSecretsAt path ∨ ¬ "<VSI_SECRETS_VOL_MOUNTPATH>".toList <:+: arg.toList := by
  constructor
  · rintro (⟨hunmarked, -⟩ | ⟨other, hmounts, hother⟩)
    · exact .inr hunmarked
    · by_cases hmarked : "<VSI_SECRETS_VOL_MOUNTPATH>".toList <:+: arg.toList
      -- Two values that give the same text are equal, as the mark stands in it.
      · rw [h.value_eq Secrets.isMark_mountPathPlaceholder hmarked hother]
        exact .inl hmounts
      · exact .inr hmarked
  · rintro (hmounts | hunmarked)
    · exact .inr ⟨path, hmounts, h⟩
    · exact .inl ⟨hunmarked, h.unique Secrets.isMark_mountPathPlaceholder (.kept hunmarked)⟩

/-- The same for all arguments of a hook. -/
theorem forall₂_argFromMount_iff {path : String} {args filled : List String}
    (h : Secrets.Filled path args filled) :
    List.Forall₂ c.ArgFromMount args filled ↔ c.MountsSecretsAt path ∨
      ∀ arg ∈ args, ¬ "<VSI_SECRETS_VOL_MOUNTPATH>".toList <:+: arg.toList := by
  induction h with
  | nil => exact iff_of_true .nil (.inr nofun)
  | cons harg _ ih =>
    rw [List.forall₂_cons, argFromMount_iff harg, ih, ← or_and_left, List.forall_mem_cons]

/-- The start hook of a container is right just when the directory reaches the container, or when
there is no place for the directory in the hook. -/
theorem hookFromMount_iff (henabled : ctx.modes.isEnabled "secrets" = true)
    {hook postStart : LifecycleHandler} {exec : ExecAction}
    (hhook : StartHook i labels ctx containers hook)
    (hpost : i.config.lifecycleHooks.postStart = some postStart)
    (hexec : postStart.exec = some exec) (h : Own i labels ctx containers c c') :
    c'.HookFromMount exec.command ↔
      Secrets.Reaches containers c ∨ Secrets.Unmarked exec.command := by
  obtain ⟨postStart', exec', path, command, hpost', hexec', hpath, hfilled, hook_eq⟩ :=
    hhook.configured
  obtain rfl : postStart = postStart' := Option.some.inj (hpost.symm.trans hpost')
  obtain rfl : exec = exec' := Option.some.inj (hexec.symm.trans hexec')
  -- The container has this hook, whatever its lifecycle was before.
  have hlifecycle : c'.lifecycle.bind Lifecycle.postStart = some ⟨some ⟨command⟩, .empty _⟩ := by
    obtain ⟨lifecycle, _, _, hhooked, -, -, rfl⟩ := h
    cases hhooked with
    | set hother => rw [← hook_eq, hhook.unique hother]; rfl
    | kept hnone => exact absurd hhook (hnone hook)
  -- So only its arguments are left to look at.
  have hright : c'.HookFromMount exec.command ↔
      Option.Rel (List.Forall₂ c'.ArgFromMount) exec.command command := by
    constructor
    · rintro ⟨filled, hfound, hargs⟩
      obtain rfl : command = filled := by
        cases hlifecycle.symm.trans hfound
        rfl
      exact hargs
    · exact fun hargs => ⟨command, hlifecycle, hargs⟩
  rw [hright, reaches_iff henabled h hpath]
  obtain ⟨args⟩ := exec
  cases hfilled with
  | none => exact iff_of_true .none (.inr nofun)
  | @some list filled hlist =>
    have hall : Secrets.Unmarked (some list) ↔
        ∀ arg ∈ list, ¬ "<VSI_SECRETS_VOL_MOUNTPATH>".toList <:+: arg.toList := by
      simp [Secrets.Unmarked]
    rw [hall, ← forall₂_argFromMount_iff hlist]
    constructor
    · intro hargs
      cases hargs with
      | some hargs => exact hargs
    · exact .some

end Direct

/-! ### Injected pods -/

namespace Injector

/-- In a pod that is injected with the secrets mode, a wrapped command names a directory where its
container mounts the secrets just when the directory of the pod reaches the submitted container.
For a start hook it is the same, unless no argument has the mark for the directory. -/
theorem createPatch_secretsPaths (config : Config) (pod : Pod) (log : Patch)
    (h : (Injector.mk config .builtin).createPatch pod = .ok log) :
    ∃ spec ctx new, Injection config pod log spec ctx new ∧
      (ctx.modes.isEnabled "secrets" = true → ∃ added own, new.containers = added ++ own ∧
        List.Forall₂ (fun c c' =>
          (ctx.HasSecrets .static → ctx.HasEnv →
            (c'.RunsFromMount ↔ Secrets.Reaches spec.containers c)) ∧
          ∀ hook postStart exec,
            Direct.StartHook ⟨config, .builtin⟩ (.ofMetadata pod.metadata) ctx spec.containers
              hook →
            config.lifecycleHooks.postStart = some postStart → postStart.exec = some exec →
              (c'.HookFromMount exec.command ↔
                Secrets.Reaches spec.containers c ∨ Secrets.Unmarked exec.command))
          spec.containers own) := by
  obtain ⟨spec, ctx, modeEdits, rendered, hsteps, hinjection⟩ := exists_steps h
  obtain ⟨hooks, commands, -, hcommands, -⟩ := hsteps.exists_modeEdits
  refine ⟨spec, ctx, _, hinjection, fun henabled =>
    ⟨rendered .containers, spec.containers.map (Effect.updateContainer ⟨config, .builtin⟩
      (.ofMetadata pod.metadata) ctx spec .containers), rfl, ?_⟩⟩
  -- Each container stands for itself, but the directory is that of all of them.
  refine List.forall₂_map_right_iff.mpr (List.forall₂_same.mpr fun c hc => ?_)
  have hown : Direct.Own ⟨config, .builtin⟩ (.ofMetadata pod.metadata) ctx spec.containers c
      (Effect.updateContainer ⟨config, .builtin⟩ (.ofMetadata pod.metadata) ctx spec .containers
        c) := Direct.own_updateContainer hcommands hc
  refine ⟨fun hstatic henv => Direct.runsFromMount_iff henabled hstatic henv hown, ?_⟩
  intro hook postStart exec hhook hpost hexec
  exact Direct.hookFromMount_iff henabled hhook hpost hexec hown

end Injector

/-! ### Small pods -/

namespace Sample

/-- An application that mounts the service account token and one more volume. -/
def mounting (volume mountPath : String) : Container :=
  { web with
    command := some ["serve"]
    volumeMounts := some [.plain "token" podTokenMountPath, .plain volume mountPath] }

/-- Three applications. The first one has a directory for the secrets, the second one has not, and
the third one has another volume in the default place. -/
def mixedContainers : List Container :=
  [mounting "secrets" "/run/keys", mounting "cache" "/cache",
    mounting "data" "/opt/talend/secrets"]

/-- A pod that asks for static secrets in the environment of these applications. -/
def staticPod : Pod where
  metadata := { ObjectMeta.empty with
    labels := some [("app", "shop"), ("service", "cart")]
    annotations := some [("inject", "true"), ("secrets-injection-method", "env"),
      ("secrets-type", "static")] }
  spec := some ⟨mixedContainers, none, none, .empty _⟩
  status := none

/-- The directory of this pod is that of the first application, and no other application mounts
it. -/
theorem reaches_mixedContainers {c : Container} :
    Secrets.Reaches mixedContainers c ↔ c.MountsSecretsAt "/run/keys" := by
  have hdirectory : Secrets.Directory mixedContainers "/run/keys" :=
    Secrets.directory_iff.mpr (by decide +kernel)
  constructor
  · rintro ⟨path, hpath, hmounts | ⟨-, rfl⟩⟩
    · rw [hdirectory.unique hpath]
      exact hmounts
    · exact absurd (hdirectory.unique hpath) (by decide)
  · exact fun hmounts => ⟨"/run/keys", hdirectory, .inl hmounts⟩

/-- The pod is injected with the secrets mode, for static secrets in the environment. -/
theorem context_staticPod {log : Patch} {spec : PodSpec} {ctx : Context} {new : PodSpec}
    (h : Injection config staticPod log spec ctx new) :
    spec.containers = mixedContainers ∧ ctx.modes.isEnabled "secrets" = true ∧
      ctx.HasSecrets .static ∧ ctx.HasEnv := by
  have hbuilt : (Context.build config (Injector.mk config .builtin).keys .builtin mixedContainers
      (.ofMetadata staticPod.metadata)).toOption.any (fun ctx =>
        ctx.modes.isEnabled "secrets" && Effect.isStaticEnv ctx) = true := by decide +kernel
  have hspec := h.submitted
  cases hspec
  rw [h.context] at hbuilt
  have hboth : ctx.modes.isEnabled "secrets" = true ∧ Effect.isStaticEnv ctx = true :=
    (Bool.and_eq_true _ _).mp hbuilt
  exact ⟨rfl, hboth.1, Direct.hasEnv_iff.mpr hboth.2⟩

end Sample

namespace Injector

/-- The first application of the small pod is run from its own mount of the secrets. The other two
are told the directory of the first one and do not mount it. -/
theorem createPatch_secretsPaths_sample :
    ∃ log spec ctx new added first second third,
      (Injector.mk Sample.config .builtin).createPatch Sample.staticPod = .ok log ∧
      Injection Sample.config Sample.staticPod log spec ctx new ∧
      ctx.modes.isEnabled "secrets" = true ∧ ctx.HasSecrets .static ∧ ctx.HasEnv ∧
      new.containers = added ++ [first, second, third] ∧
      first.RunsFromMount ∧ ¬ second.RunsFromMount ∧ ¬ third.RunsFromMount := by
  have hcreated : ((Injector.mk Sample.config .builtin).createPatch
      Sample.staticPod).toBool = true := by decide +kernel
  obtain ⟨log, hlog⟩ := exists_of_toBool hcreated
  obtain ⟨spec, ctx, new, hinjection, hown⟩ :=
    createPatch_secretsPaths Sample.config Sample.staticPod log hlog
  obtain ⟨hcontainers, henabled, hstatic, henv⟩ := Sample.context_staticPod hinjection
  obtain ⟨added, own, hnew, hall⟩ := hown henabled
  rw [hcontainers] at hall
  -- The applications stay in their places, so there are three of them.
  obtain ⟨first, others, ⟨hfirst, -⟩, hothers, rfl⟩ := List.forall₂_cons_left_iff.mp hall
  obtain ⟨second, last, ⟨hsecond, -⟩, hlast, rfl⟩ := List.forall₂_cons_left_iff.mp hothers
  obtain ⟨third, rest, ⟨hthird, -⟩, hrest, rfl⟩ := List.forall₂_cons_left_iff.mp hlast
  cases hrest
  -- The condition is one on the submitted mounts, which can be looked at.
  refine ⟨log, spec, ctx, new, added, first, second, third, hlog, hinjection, henabled, hstatic,
    henv, hnew, ?_, ?_, ?_⟩
  · rw [hfirst hstatic henv, Sample.reaches_mixedContainers]
    unfold Container.MountsSecretsAt
    decide +kernel
  · rw [hsecond hstatic henv, Sample.reaches_mixedContainers]
    unfold Container.MountsSecretsAt
    decide +kernel
  · rw [hthird hstatic henv, Sample.reaches_mixedContainers]
    unfold Container.MountsSecretsAt
    decide +kernel

end Injector

end SidecarInjection
