import SidecarInjection.Proofs.Direct.Template
import SidecarInjection.Proofs.Secrets.Directory

/-!
# `SidecarInjection.Proofs.Direct.Container`: a pod's own containers after the injection

Three things happen to a container that the pod came with. An application container may get a
start hook, and its command may be run by the process that loads the secrets. Any container may
get a mount of the secrets volume. Each of them is said here by itself, in terms of the submitted
containers and of what is known about the injection.

* `Direct.Own`, `Direct.OwnInit`: what becomes of an application container and of an init container.
* `Direct.startHook_iff`: there is one start hook, the one that is worked out.
* `Direct.own_updateContainer`, `Direct.ownInit_mountSecrets`: what the edits come to.
* `Direct.Own.unique`, `Direct.OwnInit.unique`: nothing else is what becomes of a container.
-/

set_option autoImplicit false

namespace SidecarInjection.Direct

/-! ### Statements -/

section

variable (i : Injector) (labels : PodLabels) (ctx : Context) (containers : List Container)

/-- The start hook of the application containers. There is one if secrets are dynamic, the pod
asks for it, and a hook that runs a command is configured. -/
structure StartHook (hook : LifecycleHandler) : Prop where
  dynamic : ctx.HasSecrets .dynamic
  requested : ∃ value, Dict.get? labels.annotations (i.keys.qualified "secrets-hook") = some value ∧
    Text.lowercase value ∈ ["y", "yes", "true", "on"]
  /-- The command is the configured one, with the directory of the secrets filled in. -/
  configured : ∃ postStart exec path command, i.config.lifecycleHooks.postStart = some postStart ∧
    postStart.exec = some exec ∧ Secrets.Directory containers path ∧
    Option.Rel (Secrets.Filled path) exec.command command ∧ hook = ⟨some ⟨command⟩, .empty _⟩

/-- What becomes of the lifecycle of an application container. -/
inductive Hooked (lifecycle : Option Lifecycle) : Option Lifecycle → Prop
  /-- The start hook replaces any that is there, and other moments stay as they are. -/
  | set {hook : LifecycleHandler} (h : StartHook i labels ctx containers hook) :
      Hooked lifecycle (some ⟨some hook, (lifecycle.map Lifecycle.extra).getD (.empty _)⟩)
  | kept (h : ∀ hook, ¬ StartHook i labels ctx containers hook) : Hooked lifecycle lifecycle

/-- What becomes of the command of an application container. -/
inductive Wrapped : Option (List String) → Option (List String) → Prop
  /-- Static secrets that are handed over as environment variables are loaded by a process in the
  directory of the secrets, which then runs the command. -/
  | loaded {path : String} {command : List String} (hstatic : ctx.HasSecrets .static)
      (henv : ctx.HasEnv) (hpath : Secrets.Directory containers path) :
      Wrapped (some command) (some ((path ++ "/vaultinjector-env") :: command))
  | kept {command : Option (List String)} (h : ¬ (ctx.HasSecrets .static ∧ ctx.HasEnv)) :
      Wrapped command command

/-- What becomes of the mounts of a container. -/
inductive Mounted (mounts : Option (List VolumeMount)) : Option (List VolumeMount) → Prop
  /-- With the secrets mode, the volume `secrets` is mounted after the other volumes. -/
  | added (henabled : ctx.modes.isEnabled "secrets" = true)
      (hfree : ∀ m ∈ mounts.getD [], m.name ≠ "secrets" ∧ m.mountPath ≠ "/opt/talend/secrets") :
      Mounted mounts (some (mounts.getD [] ++ [⟨"secrets", "/opt/talend/secrets", .empty _⟩]))
  /-- A container that mounts it, or another volume in its place, is left alone. -/
  | kept (h : ctx.modes.isEnabled "secrets" = true →
      ∃ m ∈ mounts.getD [], m.name = "secrets" ∨ m.mountPath = "/opt/talend/secrets") :
      Mounted mounts mounts

/-- What becomes of an application container that the pod came with. -/
def Own (c c' : Container) : Prop :=
  ∃ lifecycle command volumeMounts, Hooked i labels ctx containers c.lifecycle lifecycle ∧
    Wrapped ctx containers c.command command ∧ Mounted ctx c.volumeMounts volumeMounts ∧
    c' = { c with lifecycle, command, volumeMounts }

/-- What becomes of an init container that the pod came with. -/
def OwnInit (c c' : Container) : Prop :=
  ∃ volumeMounts, Mounted ctx c.volumeMounts volumeMounts ∧ c' = { c with volumeMounts }

end

/-! ### The start hook -/

section

variable {i : Injector} {labels : PodLabels} {ctx : Context} {containers : List Container}

/-- The two ways to say that secrets are dynamic agree. -/
theorem hasSecrets_dynamic_iff : ctx.HasSecrets .dynamic ↔ Effect.isDynamic ctx = true := by
  unfold Context.HasSecrets Effect.isDynamic
  cases ctx.secrets <;> simp

/-- The two ways to say that static secrets go to the environment agree. Both are needed: the method
alone may be set for dynamic secrets too. -/
theorem hasEnv_iff :
    ctx.HasSecrets .static ∧ ctx.HasEnv ↔ Effect.isStaticEnv ctx = true := by
  unfold Context.HasSecrets Context.HasEnv Effect.isStaticEnv
  cases ctx.secrets <;> simp

/-- An annotation says yes if it is there and has one of four values, in any case. -/
theorem isTruthy_value_iff {keys : AnnotationKeys} {annotations : Dict String} {key : String} :
    Annotations.isTruthy (keys.value annotations key) = true ↔
      ∃ value, Dict.get? annotations (keys.qualified key) = some value ∧
        Text.lowercase value ∈ ["y", "yes", "true", "on"] := by
  unfold Annotations.isTruthy AnnotationKeys.value
  rw [List.contains_iff_mem]
  cases Dict.get? annotations (keys.qualified key) with
  | none =>
    -- An absent annotation counts as an empty one, which does not say yes.
    refine iff_of_false ?_ (by simp)
    decide +kernel
  | some value => simp

/-- A hook is the start hook if it is the one that is worked out. -/
theorem startHook_iff {hook : LifecycleHandler} :
    StartHook i labels ctx containers hook ↔
      Effect.startHook i labels ctx containers = some hook := by
  unfold Effect.startHook
  constructor
  · rintro ⟨hdynamic, hrequested, postStart, exec, path, command, hpost, hexec, hpath, hfilled, rfl⟩
    -- The condition of the code is the two conditions of the hook, each read as it is written.
    have hwanted : (Effect.isDynamic ctx && Annotations.isTruthy
        (i.keys.value labels.annotations Secrets.hookKey)) = true :=
      (Bool.and_eq_true _ _).mpr
        ⟨hasSecrets_dynamic_iff.mp hdynamic, isTruthy_value_iff.mpr hrequested⟩
    rw [if_pos hwanted, hpost, Option.bind_some, hexec, Option.map_some, Secrets.resolveHook,
      Secrets.directory_iff.mp hpath]
    obtain ⟨args⟩ := exec
    cases hfilled with
    | none => rfl
    | some hargs =>
      rw [← Secrets.filled_iff.mp hargs]
      rfl
  · intro h
    split at h
    · rename_i hwanted
      obtain ⟨hdynamic, hrequested⟩ := (Bool.and_eq_true _ _).mp hwanted
      obtain ⟨exec, hexec, rfl⟩ := Option.map_eq_some_iff.mp h
      obtain ⟨postStart, hpost, hexec⟩ := Option.bind_eq_some_iff.mp hexec
      refine ⟨hasSecrets_dynamic_iff.mpr hdynamic, isTruthy_value_iff.mp hrequested, postStart,
        exec, _, _, hpost, hexec, Secrets.directory_mountPath containers, ?_, rfl⟩
      -- A hook without a command is started as it is: there is nothing to fill.
      cases exec.command with
      | none => exact .none
      | some args => exact .some (Secrets.filled_iff.mpr rfl)
    · cases h

/-- There is one start hook at most. -/
theorem StartHook.unique {hook other : LifecycleHandler}
    (h : StartHook i labels ctx containers hook)
    (hother : StartHook i labels ctx containers other) :
    hook = other :=
  Option.some.inj ((startHook_iff.mp h).symm.trans (startHook_iff.mp hother))

/-! ### What the edits come to -/

/-- Setting the start hook that is worked out changes the lifecycle as it should. -/
theorem hooked_setHook (c : Container) :
    Hooked i labels ctx containers c.lifecycle
      (Effect.setHook (Effect.startHook i labels ctx containers) c).lifecycle := by
  cases hhook : Effect.startHook i labels ctx containers with
  | none =>
    refine .kept fun hook h => ?_
    rw [startHook_iff, hhook] at h
    cases h
  | some hook =>
    have hset : Hooked i labels ctx containers c.lifecycle
        (some ⟨some hook, (c.lifecycle.map Lifecycle.extra).getD (.empty _)⟩) :=
      .set (startHook_iff.mpr hhook)
    -- A container without a lifecycle gets an empty one first.
    have hextra : (c.lifecycle.getD .empty).extra =
        (c.lifecycle.map Lifecycle.extra).getD (.empty _) := by
      cases c.lifecycle <;> rfl
    show Hooked i labels ctx containers c.lifecycle
      (some ⟨some hook, (c.lifecycle.getD .empty).extra⟩)
    rw [hextra]
    exact hset

/-- Where commands are wrapped every container has one, and the process in the directory of the
secrets is put in front of it. -/
theorem wrapped_wrapCommand {spec : PodSpec} {edits : Patch}
    (hcommands : Secrets.commandPatch spec ctx = .ok edits) {c : Container}
    (hc : c ∈ spec.containers) :
    Wrapped ctx spec.containers c.command
      (Effect.wrapCommand (Effect.envProcess ctx spec.containers) c).command := by
  unfold Effect.envProcess
  by_cases henv : Effect.isStaticEnv ctx = true
  -- A container without a command would have been refused before any was wrapped.
  · obtain ⟨command, hcommand⟩ := Secrets.exists_command_of_commandPatch hcommands
      (Secrets.usesEnv_eq ctx ▸ henv) hc
    obtain ⟨hstatic, hhas⟩ := hasEnv_iff.mpr henv
    have hprocess : Secrets.mountPath spec.containers ++ "/" ++ Secrets.envProcess =
        Secrets.mountPath spec.containers ++ "/vaultinjector-env" :=
      String.append_assoc
    rw [if_pos henv, hprocess]
    show Wrapped ctx spec.containers c.command (c.command.map _)
    rw [hcommand]
    exact .loaded hstatic hhas (Secrets.directory_mountPath spec.containers)
  · rw [if_neg henv]
    exact .kept fun hboth => henv (hasEnv_iff.mp hboth)

/-- The secrets volume is mounted where it should be. -/
theorem mounted_mountSecrets (ctx : Context) (c : Container) :
    Mounted ctx c.volumeMounts (Effect.mountSecrets ctx c).volumeMounts := by
  unfold Effect.mountSecrets Effect.addMount
  split
  · rename_i henabled
    -- Only a container without a mount of that name and at that place gets a new one.
    cases hmounted : Effect.isMounted c with
    | false => exact .added henabled (Effect.isMounted_eq_false.mp hmounted)
    | true =>
      have hin : ∃ m ∈ c.mounts,
          m.name = Secrets.volumeName ∨ m.mountPath = Secrets.defaultMountPath := by
        simpa [Effect.isMounted] using hmounted
      exact .kept fun _ => hin
  · rename_i hdisabled
    exact .kept fun henabled => absurd henabled hdisabled

/-- The edits do to an init container what they should. -/
theorem ownInit_mountSecrets (ctx : Context) (c : Container) :
    OwnInit ctx c (Effect.mountSecrets ctx c) := by
  obtain ⟨volumeMounts, h⟩ := Effect.exists_mountSecrets c ctx
  refine ⟨volumeMounts, ?_, h⟩
  have hmounted := mounted_mountSecrets ctx c
  rw [h] at hmounted
  exact hmounted

/-- The edits do to an application container what they should. -/
theorem own_updateContainer {spec : PodSpec} {edits : Patch}
    (hcommands : Secrets.commandPatch spec ctx = .ok edits) {c : Container}
    (hc : c ∈ spec.containers) :
    Own i labels ctx spec.containers c
      (Effect.updateContainer i labels ctx spec .containers c) := by
  -- The first two edits leave the mounts alone, and each other's members.
  have hnow : Effect.wrapCommand (Effect.envProcess ctx spec.containers)
      (Effect.setHook (Effect.startHook i labels ctx spec.containers) c) =
        { c with
          lifecycle := (Effect.setHook (Effect.startHook i labels ctx spec.containers) c).lifecycle
          command := (Effect.wrapCommand (Effect.envProcess ctx spec.containers) c).command } := by
    cases Effect.envProcess ctx spec.containers <;>
      cases Effect.startHook i labels ctx spec.containers <;> rfl
  obtain ⟨volumeMounts, hmounted, hupdated⟩ := ownInit_mountSecrets ctx
    { c with
      lifecycle := (Effect.setHook (Effect.startHook i labels ctx spec.containers) c).lifecycle
      command := (Effect.wrapCommand (Effect.envProcess ctx spec.containers) c).command }
  refine ⟨_, _, volumeMounts, hooked_setHook c, wrapped_wrapCommand hcommands hc, hmounted, ?_⟩
  rw [Effect.updateContainer, hnow, hupdated]

/-! ### There is no choice -/

/-- One thing becomes of a lifecycle, since a pod has one start hook at most. -/
theorem Hooked.unique {lifecycle new other : Option Lifecycle}
    (h : Hooked i labels ctx containers lifecycle new)
    (hother : Hooked i labels ctx containers lifecycle other) : new = other := by
  cases h with
  | set hhook =>
    cases hother with
    | set hhook' => rw [hhook.unique hhook']
    | kept hnone => exact absurd hhook (hnone _)
  | kept hnone =>
    cases hother with
    | set hhook => exact absurd hhook (hnone _)
    | kept _ => rfl

/-- One thing becomes of a command, since a pod has one directory of the secrets. -/
theorem Wrapped.unique {command new other : Option (List String)}
    (h : Wrapped ctx containers command new) (hother : Wrapped ctx containers command other) :
    new = other := by
  cases h with
  | loaded hstatic henv hpath =>
    cases hother with
    | loaded _ _ hpath' => rw [hpath.unique hpath']
    | kept hnot => exact absurd ⟨hstatic, henv⟩ hnot
  | kept hnot =>
    cases hother with
    | loaded hstatic henv _ => exact absurd ⟨hstatic, henv⟩ hnot
    | kept _ => rfl

/-- One thing becomes of the mounts. -/
theorem Mounted.unique {mounts new other : Option (List VolumeMount)} (h : Mounted ctx mounts new)
    (hother : Mounted ctx mounts other) : new = other := by
  -- A mount in the way is none that is free.
  have hclash : ∀ {m : VolumeMount}, (m.name ≠ "secrets" ∧ m.mountPath ≠ "/opt/talend/secrets") →
      ¬ (m.name = "secrets" ∨ m.mountPath = "/opt/talend/secrets") :=
    fun hfree hin => hin.elim hfree.1 hfree.2
  cases h with
  | added henabled hfree =>
    cases hother with
    | added _ _ => rfl
    | kept hmounted =>
      obtain ⟨m, hm, hin⟩ := hmounted henabled
      exact absurd hin (hclash (hfree m hm))
  | kept hmounted =>
    cases hother with
    | added henabled hfree =>
      obtain ⟨m, hm, hin⟩ := hmounted henabled
      exact absurd hin (hclash (hfree m hm))
    | kept _ => rfl

/-- One thing becomes of an application container. -/
theorem Own.unique {c c' other : Container} (h : Own i labels ctx containers c c')
    (hother : Own i labels ctx containers c other) : c' = other := by
  obtain ⟨lifecycle, command, volumeMounts, hhooked, hwrapped, hmounted, rfl⟩ := h
  obtain ⟨lifecycle', command', volumeMounts', hhooked', hwrapped', hmounted', rfl⟩ := hother
  rw [hhooked.unique hhooked', hwrapped.unique hwrapped', hmounted.unique hmounted']

/-- One thing becomes of an init container. -/
theorem OwnInit.unique {c c' other : Container} (h : OwnInit ctx c c')
    (hother : OwnInit ctx c other) : c' = other := by
  obtain ⟨volumeMounts, hmounted, rfl⟩ := h
  obtain ⟨volumeMounts', hmounted', rfl⟩ := hother
  rw [hmounted.unique hmounted']

end

end SidecarInjection.Direct
