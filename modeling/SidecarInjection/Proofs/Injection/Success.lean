import SidecarInjection.Proofs.Injection.Create

/-!
# `SidecarInjection.Proofs.Injection.Success`: when a patch is created

What a pod has to fulfil to be injected with the built-in modes, in the order in
which it is asked for. `Requirement.faults` lists the requirements, each as the
error that is reported when it is not met.

* `Context.fault_build`: the requirements of a context.
* `Secrets.fault_hookPatch`, `Secrets.fault_commandPatch`: the requirements of the
  edits of the pod's own containers.
* `Rendering.fault_patch`: the requirements of the rendered containers.
* `Injector.createPatch_succeeds_iff`: a patch is created exactly when all
  requirements are met, and otherwise the first one is reported that is not.
-/

set_option autoImplicit false

namespace SidecarInjection

open Outcome

/-! ### The requirements -/

namespace Requirement

/-- The error of a requirement that is not met. -/
def orElse (met : Bool) (e : InjectionError) : Option InjectionError :=
  if met then none else some e

/-- The injector with the built-in modes. -/
def injector (config : Config) : Injector := ⟨config, .builtin⟩

variable (config : Config) (pod : Pod)

/-- The value of an annotation of a pod, empty when it is absent. -/
def value (key : String) : String :=
  (injector config).keys.value (pod.metadata.annotations.getD []) key

/-- The value of an annotation in lower case. -/
def choice (key : String) : String := Text.lowercase (value config pod key)

/-- The application containers of a pod. -/
def containers : List Container := (pod.spec.map PodSpec.containers).getD []

/-- The modes that a pod enables. -/
def modes : EnabledModes :=
  Context.requestedModes .builtin (injector config).keys (pod.metadata.annotations.getD [])

/-- Whether some application container mounts a volume at a path. -/
def mounts (path : String) : Bool :=
  (containers pod).any fun c => c.mounts.any fun m => m.mountPath = path

/-- The path that the annotation for the agent's token leads to. -/
def agentTokenPath : String := Text.dropSuffixes "/token" (value config pod Annotations.saToken)

/-- Whether a pod gets secrets that are kept up to date. -/
def isDynamic : Bool :=
  (modes config pod).isEnabled secretsKey &&
    (choice config pod Secrets.typeKey = "" || choice config pod Secrets.typeKey = "dynamic")

/-- Whether a pod gets secrets that are fetched once. -/
def isStatic : Bool :=
  (modes config pod).isEnabled secretsKey && choice config pod Secrets.typeKey = "static"

/-- Whether a pod asks for the start hook, and gets secrets that it goes with. -/
def wantsHook : Bool :=
  isDynamic config pod && Annotations.isTruthy (value config pod Secrets.hookKey)

/-- Whether a configured container is for jobs, and the pod runs as a job that is to be
watched. -/
def wantsJob : Bool :=
  (modes config pod).isEnabled jobKey &&
    (config.injection.containers.any fun c =>
      c.name = "tvsi-job-babysitter" || c.name = "tvsi-vault-agent") &&
    !(isStatic config pod && (modes config pod).isExactly [secretsKey, jobKey])

/-- What is asked for to work out the context of an injection. -/
def contextFaults : List (Option InjectionError) :=
  [orElse (["", "kubernetes", "approle"].contains (choice config pod Annotations.auth))
     (.unsupportedValue .authMethod (choice config pod Annotations.auth)),
   orElse (value config pod Annotations.role != "" ||
       choice config pod Annotations.auth == "approle" ||
       (PodLabels.ofMetadata pod.metadata).label config.appLabel != "")
     (.missingLabel [config.appLabel]),
   orElse (mounts pod podTokenMountPath) (.missingVolumeMount podTokenMountPath),
   orElse (value config pod Annotations.saToken == "" || mounts pod (agentTokenPath config pod))
     (.missingVolumeMount (agentTokenPath config pod)),
   if (modes config pod).isEnabled secretsKey then
     fault (Secrets.compute config (injector config).keys (.ofMetadata pod.metadata))
   else none,
   if (modes config pod).isEnabled proxyKey then
     fault (Proxy.compute config (injector config).keys (.ofMetadata pod.metadata))
   else none]

/-- What is asked for to edit the containers of a pod. -/
def editFaults : List (Option InjectionError) :=
  [orElse (!(wantsHook config pod && (modes config pod).isEnabled jobKey))
     (.unsupportedCombination (.hookWithJob ((injector config).keys.qualified Secrets.hookKey))),
   orElse (!wantsHook config pod ||
       config.lifecycleHooks.postStart.all fun hook => hook.exec.isSome)
     (.config .hookWithoutExec),
   if isStatic config pod && choice config pod Secrets.methodKey = "env" then
     ((containers pod).find? fun c => (c.command.getD []).isEmpty).map fun c =>
       .annotationFault Secrets.methodKey (.commandMissing c.name)
   else none,
   orElse (!wantsJob config pod || (containers pod).length == 1)
     (.tooManyContainers (containers pod).length)]

/-- All requirements, in the order in which they are asked for. -/
def faults : List (Option InjectionError) :=
  orElse (!(containers pod).isEmpty) .noContainers ::
    (contextFaults config pod ++ editFaults config pod)

/-- The error of the first requirement that is not met. -/
def firstFault : Option InjectionError := (faults config pod).findSome? id

/-- The first requirement that is not met comes before those of the rest. -/
theorem findSome?_id_cons (first : Option InjectionError) (rest : List (Option InjectionError)) :
    (first :: rest).findSome? id = first.or (rest.findSome? id) := by
  cases first <;> rfl

end Requirement

/-! ### Contexts -/

namespace Context

variable {config : Config} {keys : AnnotationKeys} {labels : PodLabels}
  {containers : List Container}

/-- The authentication method has to be a known one, or left out. -/
theorem fault_requestedMethod (keys : AnnotationKeys) (annotations : Dict String) :
    fault (requestedMethod keys annotations) =
      Requirement.orElse
        (["", "kubernetes", "approle"].contains
          (Text.lowercase (keys.value annotations Annotations.auth)))
        (.unsupportedValue .authMethod
          (Text.lowercase (keys.value annotations Annotations.auth))) := by
  unfold requestedMethod AuthMethod.ofName
  generalize Text.lowercase (keys.value annotations Annotations.auth) = name
  -- Three names are accepted, one after another.
  by_cases hempty : name = ""
  · subst hempty
    rfl
  · by_cases hkubernetes : name = "kubernetes"
    · subst hkubernetes
      rfl
    · by_cases happrole : name = "approle"
      · subst happrole
        rfl
      · simp [Requirement.orElse, hempty, hkubernetes, happrole]

/-- There has to be a role: a given one, or the label of the application, unless the method needs
none. -/
theorem fault_requestedRole {method : AuthMethod}
    (h : requestedMethod keys labels.annotations = .ok method) :
    fault (requestedRole config keys labels method) =
      Requirement.orElse
        (keys.value labels.annotations Annotations.role != "" ||
          Text.lowercase (keys.value labels.annotations Annotations.auth) == "approle" ||
          labels.label config.appLabel != "")
        (.missingLabel [config.appLabel]) := by
  have hmethod := requestedMethod_eq_ok h
  unfold requestedRole
  -- The label is asked for only without a role, and not for `approle`.
  by_cases hrole : keys.value labels.annotations Annotations.role = ""
  · by_cases happrole : Text.lowercase (keys.value labels.annotations Annotations.auth) = "approle"
    · have hother : ¬ method = .kubernetes := by simpa [happrole] using hmethod
      simp [Requirement.orElse, hrole, happrole, hother]
    · have hkubernetes : method = .kubernetes := hmethod.mpr happrole
      by_cases happ : labels.label config.appLabel = ""
      · simp [Requirement.orElse, hrole, happrole, hkubernetes, happ]
      · simp [Requirement.orElse, hrole, happrole, hkubernetes, happ]
  · simp [Requirement.orElse, hrole]

/-- Some container has to mount a volume at the path. -/
theorem fault_tokenVolume (containers : List Container) (path : String) :
    fault (tokenVolume containers path) =
      Requirement.orElse (containers.any fun c => c.mounts.any fun m => m.mountPath = path)
        (.missingVolumeMount path) := by
  have hany : (containers.any fun c => c.mounts.any fun m => m.mountPath = path) =
      ((containers.flatMap Container.mounts).find? fun m => m.mountPath = path).isSome := by
    rw [← List.any_flatMap, List.isSome_find?]
  rw [hany, tokenVolume]
  cases (containers.flatMap Container.mounts).find? fun m => m.mountPath = path <;> rfl

/-- If the token of the agent has a directory of its own, something has to be mounted there. -/
theorem fault_requestedTokenVolume (keys : AnnotationKeys) (annotations : Dict String)
    (containers : List Container) (podVolume : String) :
    fault (requestedTokenVolume keys annotations containers podVolume) =
      Requirement.orElse
        (keys.value annotations Annotations.saToken == "" ||
          containers.any fun c => c.mounts.any fun m =>
            m.mountPath = Text.dropSuffixes "/token" (keys.value annotations Annotations.saToken))
        (.missingVolumeMount
          (Text.dropSuffixes "/token" (keys.value annotations Annotations.saToken))) := by
  unfold requestedTokenVolume
  by_cases hpath : keys.value annotations Annotations.saToken = ""
  · simp [Requirement.orElse, hpath]
  · have hgiven : (keys.value annotations Annotations.saToken == "") = false := by simpa using hpath
    rw [hgiven, Bool.false_or, ← fault_tokenVolume]
    simp [hpath]

/-- The secrets mode is asked before the proxy mode, so its fault is met first. The job mode has
none. -/
theorem fault_computeConfigs (modes : EnabledModes) :
    fault (computeConfigs config keys labels (Registry.builtin.enabledModes modes) []) =
      (if modes.isEnabled secretsKey then fault (Secrets.compute config keys labels)
        else none).or
      (if modes.isEnabled proxyKey then fault (Proxy.compute config keys labels) else none) := by
  rw [computeConfigs_builtin]
  -- What the first mode works out is not read by the second.
  refine fault_bind ?_ fun secrets _ => ?_
  · unfold secretsConfig
    split
    · rw [fault_map]
    · rfl
  · refine (fault_bind_of_ok fun _ _ => rfl).trans ?_
    unfold proxyConfig
    split
    · rw [fault_map]
    · rfl

end Context

/-! ### What a context says about secrets -/

/-- An accepted name tells the type of the secrets: they are dynamic when nothing is said. -/
theorem SecretsType.ofName_eq_ok {name : String} {t : SecretsType} (h : ofName name = .ok t) :
    decide (t = .dynamic) = (decide (name = "") || decide (name = "dynamic")) ∧
      decide (t = .static) = decide (name = "static") := by
  unfold ofName at h
  split at h
  · rename_i hname
    cases h
    have hname : name = "" ∨ name = "dynamic" := by simpa using hname
    rcases hname with rfl | rfl
    · exact ⟨rfl, rfl⟩
    · exact ⟨rfl, rfl⟩
  -- Any name that is left is the static one, or an error.
  · rename_i hother
    split at h
    · rename_i hname
      cases h
      subst hname
      exact ⟨rfl, rfl⟩
    · cases h

/-- An accepted name tells whether the secrets go to the environment. -/
theorem InjectionMethod.ofName_eq_ok {name : String} {m : InjectionMethod}
    (h : ofName name = .ok m) : decide (m = .env) = decide (name = "env") := by
  unfold ofName at h
  split at h
  · rename_i hname
    cases h
    have hname : name = "" ∨ name = "file" := by simpa using hname
    rcases hname with rfl | rfl
    · rfl
    · rfl
  · split at h
    · rename_i hname
      cases h
      subst hname
      rfl
    · cases h

namespace Context

variable {config : Config} {keys : AnnotationKeys} {labels : PodLabels}
  {containers : List Container} {ctx : Context}

/-- What holds of the secrets of a context is said by the requested type and method, if
the secrets mode is enabled. -/
theorem any_secrets (h : build config keys .builtin containers labels = .ok ctx)
    {p : SecretsConfig → Bool} {q : Bool}
    (hpq : ∀ c : SecretsConfig,
      SecretsType.ofName (Text.lowercase (keys.value labels.annotations Secrets.typeKey)) =
        .ok c.secretsType →
      InjectionMethod.ofName (Text.lowercase (keys.value labels.annotations Secrets.methodKey)) =
        .ok c.method → p c = q) :
    ctx.secrets.any p = (ctx.modes.isEnabled secretsKey && q) := by
  have hsecrets := secrets_of_build h
  unfold secretsConfig at hsecrets
  cases henabled : ctx.modes.isEnabled secretsKey with
  | false =>
    -- Nothing is worked out for a mode that is off.
    rw [secrets_eq_none h henabled]
    rfl
  | true =>
    rw [henabled, if_pos rfl] at hsecrets
    obtain ⟨c, hc, hsome⟩ := map_eq_ok.mp hsecrets
    -- The type and the method come from their annotations alone.
    obtain ⟨htype, hmethod, -⟩ := Secrets.compute_eq_ok hc
    rw [← hsome, Option.any_some, Bool.true_and]
    exact hpq c htype hmethod

/-- The secrets are dynamic if the mode is on and the annotation says so, or nothing. -/
theorem isDynamic_of_build (h : build config keys .builtin containers labels = .ok ctx) :
    Effect.isDynamic ctx = (ctx.modes.isEnabled secretsKey &&
      (decide (Text.lowercase (keys.value labels.annotations Secrets.typeKey) = "") ||
        decide (Text.lowercase (keys.value labels.annotations Secrets.typeKey) = "dynamic"))) :=
  any_secrets h fun _ htype _ => (SecretsType.ofName_eq_ok htype).1

/-- They are static if the mode is on and the annotation says so. -/
theorem isStatic_of_build (h : build config keys .builtin containers labels = .ok ctx) :
    ctx.secrets.any SecretsConfig.isStatic = (ctx.modes.isEnabled secretsKey &&
      decide (Text.lowercase (keys.value labels.annotations Secrets.typeKey) = "static")) :=
  any_secrets h fun _ htype _ => (SecretsType.ofName_eq_ok htype).2

/-- They go to the environment if, in addition, the method says so. -/
theorem isStaticEnv_of_build (h : build config keys .builtin containers labels = .ok ctx) :
    Effect.isStaticEnv ctx = (ctx.modes.isEnabled secretsKey &&
      (decide (Text.lowercase (keys.value labels.annotations Secrets.typeKey) = "static") &&
        decide (Text.lowercase (keys.value labels.annotations Secrets.methodKey) = "env"))) :=
  any_secrets h fun _ htype hmethod => by
    rw [(SecretsType.ofName_eq_ok htype).2, InjectionMethod.ofName_eq_ok hmethod]

end Context

/-! ### Edits and rendered containers -/

namespace Secrets

/-- A requested hook may not be combined with the job mode, and has to run a command. -/
theorem fault_hookPatch (config : Config) (keys : AnnotationKeys) (spec : PodSpec)
    (labels : PodLabels) (ctx : Context) :
    fault (hookPatch config keys spec labels ctx) =
      (Requirement.orElse (!(hookRequested keys labels ctx && ctx.modes.isEnabled jobKey))
        (.unsupportedCombination (.hookWithJob (keys.qualified hookKey)))).or
      (Requirement.orElse (!hookRequested keys labels ctx ||
          config.lifecycleHooks.postStart.all fun hook => hook.exec.isSome)
        (.config .hookWithoutExec)) := by
  unfold hookPatch
  -- The checks follow one another, and without a request none is made.
  cases hookRequested keys labels ctx with
  | false => rfl
  | true =>
    cases ctx.modes.isEnabled jobKey with
    | true => rfl
    | false =>
      cases config.lifecycleHooks.postStart with
      | none => rfl
      | some hook =>
        obtain ⟨exec, extra⟩ := hook
        cases exec <;> rfl

/-- For static secrets in the environment every container needs a command. The first one without is
named. -/
theorem fault_commandPatch (spec : PodSpec) (ctx : Context) :
    fault (commandPatch spec ctx) =
      if Effect.isStaticEnv ctx then
        (spec.containers.find? lacksCommand).map fun c =>
          .annotationFault methodKey (.commandMissing c.name)
      else none := by
  rw [commandPatch_eq, usesEnv_eq]
  split
  · cases spec.containers.find? lacksCommand <;> rfl
  · rfl

end Secrets

namespace Rendering

variable {target : Target} {podContainers : List Container} {ctx : Context}

/-- Whether the job mode is asked about a container that it wants. -/
def wantedByJob (target : Target) (ctx : Context) (name : String) : Bool :=
  ctx.modes.isEnabled jobKey && Job.wants target name ctx

/-- The modes are at odds about a container only when the job mode wants it, and then
the pod has to have a single container. -/
theorem fault_ask (name : String) (answer : ContainerAnswer) :
    fault (ask target podContainers name ctx (Registry.builtin.enabledModes ctx.modes) answer) =
      Requirement.orElse (!wantedByJob target ctx name || podContainers.length == 1)
        (.tooManyContainers podContainers.length) := by
  -- The job mode is asked last, with whatever the modes before it answered.
  have hjob : ∀ answer, fault (ask target podContainers name ctx
      (if ctx.modes.isEnabled jobKey then [Job.mode] else []) answer) =
        Requirement.orElse (!wantedByJob target ctx name || podContainers.length == 1)
          (.tooManyContainers podContainers.length) := by
    intro answer
    unfold wantedByJob
    cases ctx.modes.isEnabled jobKey with
    | false => rfl
    | true =>
      show fault (do
        let next ← Job.answer target podContainers name answer.env ctx
        ask target podContainers name ctx [] ⟨answer.claimed || next.claimed, next.env⟩) = _
      unfold Job.answer
      cases Job.wants target name ctx with
      | false => rfl
      | true =>
        match podContainers with
        | [] => rfl
        | [job] => rfl
        | first :: second :: rest => simp [Requirement.orElse]
  rw [Registry.enabledModes_builtin]
  -- The other two modes always answer.
  cases ctx.modes.isEnabled secretsKey <;> cases ctx.modes.isEnabled proxyKey <;> exact hjob _

/-- Rendering fails only where the job mode wants a container of a pod that has not just one. -/
theorem fault_renderAll (templates : List Container) :
    fault (renderAll .builtin target podContainers ctx templates) =
      Requirement.orElse
        (!(templates.any fun c => wantedByJob target ctx c.name) || podContainers.length == 1)
        (.tooManyContainers podContainers.length) := by
  induction templates with
  | nil => rfl
  | cons template rest ih =>
    have hrender : fault (render .builtin target podContainers ctx template) =
        Requirement.orElse (!wantedByJob target ctx template.name || podContainers.length == 1)
          (.tooManyContainers podContainers.length) := by
      rw [← fault_ask template.name (.decline (template.env.getD []))]
      exact fault_bind_of_ok fun _ _ => rfl
    have hothers : ∀ container : Option Container, fault (do
        let others ← renderAll .builtin target podContainers ctx rest
        return container.toList ++ others) =
          fault (renderAll .builtin target podContainers ctx rest) :=
      fun _ => fault_bind_of_ok fun _ _ => rfl
    rw [renderAll, fault_bind hrender fun container _ => (hothers container).trans ih,
      List.any_cons]
    -- Every wanted container is at odds with the same number of containers.
    cases wantedByJob target ctx template.name <;>
      cases rest.any fun c => wantedByJob target ctx c.name <;>
        cases podContainers.length == 1 <;> rfl

/-- So do the edits of a list. The containers are counted in the list that is edited. -/
theorem fault_patch (templates : List Container) (existing : Option (List Container)) :
    fault (patch .builtin target templates existing ctx) =
      Requirement.orElse
        (!(templates.any fun c => wantedByJob target ctx c.name) ||
          (existing.getD []).length == 1)
        (.tooManyContainers (existing.getD []).length) := by
  rw [← fault_renderAll]
  exact fault_bind_of_ok fun _ _ => rfl

end Rendering

/-! ### The pipeline -/

namespace Requirement

variable (config : Config) (pod : Pod)

/-- A context is worked out unless one of its requirements is not met. -/
theorem fault_build :
    fault (Context.build config (injector config).keys .builtin (containers pod)
      (.ofMetadata pod.metadata)) = (contextFaults config pod).findSome? id := by
  unfold contextFaults
  simp only [findSome?_id_cons, List.findSome?_nil, Option.or_none]
  refine fault_bind (Context.fault_requestedMethod _ _) fun method hmethod => ?_
  refine fault_bind (Context.fault_requestedRole hmethod) fun role _ => ?_
  refine fault_bind (Context.fault_tokenVolume _ _) fun podVolume _ => ?_
  refine fault_bind (Context.fault_requestedTokenVolume _ _ _ podVolume) fun agentVolume _ => ?_
  exact (fault_bind_of_ok fun _ _ => rfl).trans (Context.fault_computeConfigs _)

/-- The specification that is asked for is one with containers. -/
theorem fault_specification :
    fault (Injector.specification pod) = orElse (!(containers pod).isEmpty) .noContainers := by
  unfold Injector.specification containers
  cases pod.spec with
  | none => rfl
  | some spec =>
    obtain ⟨containers, initContainers, volumes, extra⟩ := spec
    cases containers <;> rfl

/-- Init containers are never wanted by the job mode. -/
theorem wantedByJob_initContainers (ctx : Context) (name : String) :
    Rendering.wantedByJob .initContainers ctx name = false := by
  rw [Rendering.wantedByJob, Job.wants]
  simp

variable {config pod} {ctx : Context}

/-- The job mode wants a configured container exactly when the pod has to be watched. -/
theorem any_wantedByJob
    (h : Context.build config (injector config).keys .builtin (containers pod)
      (.ofMetadata pod.metadata) = .ok ctx) :
    (config.injection.containers.any fun c => Rendering.wantedByJob .containers ctx c.name) =
      wantsJob config pod := by
  have hmodes := (Context.build_eq_ok h).1
  have hstatic := Context.isStatic_of_build h
  -- Whether there is something to watch is the same for every configured container.
  have hwatch : Job.nothingToWatch ctx =
      (isStatic config pod && (modes config pod).isExactly [secretsKey, jobKey]) := by
    have hany : Job.nothingToWatch ctx =
        (ctx.secrets.any SecretsConfig.isStatic && ctx.modes.isExactly [secretsKey, jobKey]) := by
      unfold Job.nothingToWatch
      cases ctx.secrets <;> rfl
    rw [hany, hstatic, hmodes]
    rfl
  have hname : ∀ c : Container, Rendering.wantedByJob .containers ctx c.name =
      ((modes config pod).isEnabled jobKey &&
        ((c.name = "tvsi-job-babysitter" || c.name = "tvsi-vault-agent") &&
          !(isStatic config pod && (modes config pod).isExactly [secretsKey, jobKey]))) := by
    intro c
    rw [Rendering.wantedByJob, Job.wants, hwatch, hmodes]
    simp [modes, PodLabels.ofMetadata, Job.monitoringContainer, Job.listenerContainer]
  unfold wantsJob
  simp only [hname]
  cases (modes config pod).isEnabled jobKey with
  | false => simp
  | true =>
    cases isStatic config pod && (modes config pod).isExactly [secretsKey, jobKey] with
    | true => simp
    | false => simp

/-- The secrets of a context are kept up to date when those of the pod are. -/
theorem isDynamic_eq
    (h : Context.build config (injector config).keys .builtin (containers pod)
      (.ofMetadata pod.metadata) = .ok ctx) : Effect.isDynamic ctx = isDynamic config pod := by
  rw [Context.isDynamic_of_build h, (Context.build_eq_ok h).1]
  rfl

/-- The modes edit the containers of a pod unless one of their requirements is not met. -/
theorem fault_modePatch {spec : PodSpec} (hcontainers : spec.containers = containers pod)
    (h : Context.build config (injector config).keys .builtin (containers pod)
      (.ofMetadata pod.metadata) = .ok ctx) :
    fault ((injector config).modePatch spec (.ofMetadata pod.metadata) ctx
        (Registry.builtin.enabledModes ctx.modes)) =
      (orElse (!(wantsHook config pod && (modes config pod).isEnabled jobKey))
          (.unsupportedCombination
            (.hookWithJob ((injector config).keys.qualified Secrets.hookKey)))).or
        ((orElse (!wantsHook config pod ||
            config.lifecycleHooks.postStart.all fun hook => hook.exec.isSome)
          (.config .hookWithoutExec)).or
        (if isStatic config pod && choice config pod Secrets.methodKey = "env" then
          ((containers pod).find? fun c => (c.command.getD []).isEmpty).map fun c =>
            .annotationFault Secrets.methodKey (.commandMissing c.name)
        else none)) := by
  have hmodes := (Context.build_eq_ok h).1
  have hhook : Secrets.hookRequested (injector config).keys (.ofMetadata pod.metadata) ctx =
      wantsHook config pod := by
    rw [Secrets.hookRequested_eq, isDynamic_eq h]
    rfl
  have henv : Effect.isStaticEnv ctx =
      (isStatic config pod && choice config pod Secrets.methodKey = "env") := by
    rw [Context.isStaticEnv_of_build h, hmodes, ← Bool.and_assoc]
    rfl
  have hpatch : (injector config).modePatch spec (.ofMetadata pod.metadata) ctx
      (Registry.builtin.enabledModes ctx.modes) = (do
        let hooks ←
          Secrets.hookPatch config (injector config).keys spec (.ofMetadata pod.metadata) ctx
        let commands ← Secrets.commandPatch spec ctx
        .ok (hooks ++ commands)) :=
    Injector.modePatch_builtin rfl (Context.secrets_eq_none h)
  -- The first two requirements are those of the hook, and the last one is that of the commands.
  rw [hpatch, ← Option.or_assoc]
  refine fault_bind ?_ fun hooks _ => ?_
  · rw [Secrets.fault_hookPatch, hhook, hmodes]
    rfl
  · refine (fault_bind_of_ok fun _ _ => rfl).trans ?_
    rw [Secrets.fault_commandPatch, henv, hcontainers]
    rfl

/-- The edits of a pod are made unless one of the requirements is not met. -/
theorem fault_edits {spec : PodSpec} (hspec : pod.spec = some spec) :
    fault ((injector config).edits pod.metadata spec) =
      ((contextFaults config pod).findSome? id).or ((editFaults config pod).findSome? id) := by
  have hcontainers : spec.containers = containers pod := by
    rw [containers, hspec]
    rfl
  rw [Injector.edits, hcontainers]
  refine fault_bind (fault_build config pod) fun ctx hctx => ?_
  unfold editFaults
  simp only [findSome?_id_cons, List.findSome?_nil, Option.or_none]
  -- The first three requirements are those of the modes.
  have hgroup : ∀ a b c d : Option InjectionError,
      a.or (b.or (c.or d)) = (a.or (b.or c)).or (none.or d) := by
    intro a b c d
    rw [Option.none_or, Option.or_assoc, Option.or_assoc]
  rw [hgroup]
  refine fault_bind (fault_modePatch hcontainers hctx) fun modeEdits _ => ?_
  -- Init containers ask for nothing, and the volumes and the mark neither.
  have hinit : fault (Rendering.patch .builtin .initContainers config.injection.initContainers
      spec.initContainers ctx) = none := by
    rw [Rendering.fault_patch]
    simp [wantedByJob_initContainers, orElse]
  refine fault_bind hinit fun initEdits _ => ?_
  refine (fault_bind_of_ok fun _ _ => rfl).trans ?_
  refine (Rendering.fault_patch _ _).trans ?_
  rw [any_wantedByJob hctx]
  rfl

variable (config pod)

/-- A patch is created unless one of the requirements is not met. The trial of the patch
adds no requirement. -/
theorem fault_createPatch : fault ((injector config).createPatch pod) = firstFault config pod := by
  unfold firstFault faults
  rw [findSome?_id_cons, List.findSome?_append]
  rw [Injector.createPatch_eq rfl]
  refine fault_bind (fault_specification pod) fun spec hspec => ?_
  exact fault_edits (Injector.specification_eq_ok hspec).1

end Requirement

/-- With the built-in modes, a patch is created exactly when all requirements are met, and
otherwise the error is that of the first one that is not. -/
theorem Injector.createPatch_succeeds_iff (config : Config) (pod : Pod) :
    ((∃ log, (Injector.mk config .builtin).createPatch pod = .ok log) ↔
        ∀ fault ∈ Requirement.faults config pod, fault = none) ∧
      ∀ e, (Injector.mk config .builtin).createPatch pod = .error e ↔
        Requirement.firstFault config pod = some e := by
  have hfault := Requirement.fault_createPatch config pod
  constructor
  · rw [← fault_eq_none, show Injector.mk config .builtin = Requirement.injector config from rfl,
      hfault, Requirement.firstFault, List.findSome?_eq_none_iff]
    rfl
  · intro e
    rw [← fault_eq_some, show Injector.mk config .builtin = Requirement.injector config from rfl,
      hfault]

end SidecarInjection
