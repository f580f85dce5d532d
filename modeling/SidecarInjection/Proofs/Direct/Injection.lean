import SidecarInjection.Proofs.Direct.Container
import SidecarInjection.Proofs.Json.Written

/-!
# `SidecarInjection.Proofs.Direct.Injection`: injection without patches

What injection makes of a pod, said as one change of the typed pod. There are no pointers here, no
positions and no order of edits, and nothing is said by way of the functions that the edits are
made with. The containers that are added stand in front of those that the pod came with, volumes
that the pod lacks are put behind its own ones, and the metadata is marked.

A created patch does the same by edits of a document. Sent, read back and applied to the written
form of the pod, it leads to a document that is read as the one pod that is the result.

* `Direct.Injected`: the result.
* `Direct.injected_of_steps`: what the edits come to is the result.
* `Direct.Injected.unique`: there is no other one.
* `Injector.createPatch_refines`: so a created patch leads to the result and to nothing else.
-/

set_option autoImplicit false

namespace SidecarInjection

open Outcome

namespace Direct

/-! ### Statements -/

/-- A list of a pod that may be absent, and is to hold these items. It stays absent if there are
none. -/
inductive Listed {α : Type} : Option (List α) → List α → Option (List α) → Prop
  | absent : Listed none [] none
  | present {old : Option (List α)} {items : List α} (h : old ≠ none ∨ items ≠ []) :
      Listed old items (some items)

section

variable (i : Injector) (labels : PodLabels) (ctx : Context)

/-- What becomes of the specification of a pod. -/
structure Updated (spec new : PodSpec) : Prop where
  /-- What is added stands first, in the order of the configuration. Every container that the pod
  came with stands behind it, in its place. -/
  containers : ∃ added own,
    Added ctx .containers spec.containers i.config.injection.containers added ∧
    List.Forall₂ (Own i labels ctx spec.containers) spec.containers own ∧
    new.containers = added ++ own
  /-- Init containers are only added and given mounts. -/
  initContainers : ∃ added own,
    Added ctx .initContainers (spec.initContainers.getD []) i.config.injection.initContainers
      added ∧
    List.Forall₂ (OwnInit ctx) (spec.initContainers.getD []) own ∧
    Listed spec.initContainers (added ++ own) new.initContainers
  /-- Configured volumes are added unless the pod has one of their name. -/
  volumes : Listed spec.volumes
    (spec.volumes.getD [] ++ i.config.injection.volumes.filter fun v =>
      v.name ∉ (spec.volumes.getD []).map Volume.name) new.volumes
  extra : new.extra = spec.extra

/-- What becomes of a pod. -/
structure Injected (pod new : Pod) : Prop where
  spec : ∃ spec updated ctx, pod.spec = some spec ∧
    Context.build i.config i.keys i.registry spec.containers (.ofMetadata pod.metadata) = .ok ctx ∧
    Updated i (.ofMetadata pod.metadata) ctx spec updated ∧ new.spec = some updated
  /-- The metadata is marked, and keeps all other annotations. -/
  metadata : new.metadata = { pod.metadata with
    annotations := some (Dict.insert (pod.metadata.annotations.getD [])
      (i.keys.qualified "status") "injected") }
  status : new.status = pod.status

end

/-! ### What the edits come to -/

/-- A list that is put together is absent as it should be. -/
theorem listed_orAbsent {α : Type} {old now : Option (List α)} (h : now.isNone = old.isNone)
    (items : List α) : Listed old items (Effect.orAbsent now items) := by
  unfold Effect.orAbsent
  rw [h]
  cases old with
  | none =>
    cases items with
    | nil => exact .absent
    | cons item items => exact .present (.inr (List.cons_ne_nil item items))
  | some old => exact .present (.inl (Option.some_ne_none old))

/-- The new volumes are those whose names the pod does not use. -/
theorem newVolumes_eq (i : Injector) (spec : PodSpec) :
    Effect.newVolumes i spec = i.config.injection.volumes.filter fun v =>
      v.name ∉ (spec.volumes.getD []).map Volume.name := by
  refine List.filter_congr fun v _ => ?_
  have hused : ((spec.volumes.getD []).any fun w => w.name = v.name) = true ↔
      v.name ∈ (spec.volumes.getD []).map Volume.name := by
    simp only [List.any_eq_true, decide_eq_true_eq, List.mem_map]
  rw [decide_not]
  refine congrArg _ ?_
  rw [Bool.eq_iff_iff, decide_eq_true_eq]
  exact hused

section

variable {config : Config} {pod : Pod} {log : Patch} {spec : PodSpec} {ctx : Context}
  {modeEdits : Patch} {rendered : Target → List Container}

/-- The lists that the edits come to are those of the updated specification. -/
theorem updated_of_steps (h : InjectionSteps config pod log spec ctx modeEdits rendered) :
    Updated ⟨config, .builtin⟩ (.ofMetadata pod.metadata) ctx spec
      (Effect.update ⟨config, .builtin⟩ (.ofMetadata pod.metadata) ctx (rendered .initContainers)
        (rendered .containers) spec) := by
  obtain ⟨hooks, commands, -, hcommands, -⟩ := h.exists_modeEdits
  constructor
  case containers =>
    refine ⟨rendered .containers, spec.containers.map (Effect.updateContainer ⟨config, .builtin⟩
      (.ofMetadata pod.metadata) ctx spec .containers),
        added_of_renderAll h.build_eq (h.renderAll_eq .containers), ?_, rfl⟩
    exact List.forall₂_map_right_iff.mpr (List.forall₂_same.mpr fun c hc =>
      own_updateContainer hcommands hc)
  case initContainers =>
    refine ⟨rendered .initContainers, (spec.initContainers.getD []).map (Effect.mountSecrets ctx),
      added_of_renderAll h.build_eq (h.renderAll_eq .initContainers), ?_, ?_⟩
    · exact List.forall₂_map_right_iff.mpr (List.forall₂_same.mpr fun c _ =>
        ownInit_mountSecrets ctx c)
    · -- Mounts do not make a list that is absent appear.
      have hown : (spec.initContainers.map (List.map (Effect.mountSecrets ctx))).getD [] =
          (spec.initContainers.getD []).map (Effect.mountSecrets ctx) := by
        cases spec.initContainers <;> rfl
      rw [← hown]
      exact listed_orAbsent Option.isNone_map _
  case volumes =>
    rw [← newVolumes_eq]
    exact listed_orAbsent rfl _
  case extra => rfl

/-- What the edits come to is the result of the injection. -/
theorem injected_of_steps (hspec : pod.spec = some spec)
    (h : InjectionSteps config pod log spec ctx modeEdits rendered) :
    Injected ⟨config, .builtin⟩ pod { pod with
      metadata := Effect.mark ⟨config, .builtin⟩ pod.metadata
      spec := some (Effect.update ⟨config, .builtin⟩ (.ofMetadata pod.metadata) ctx
        (rendered .initContainers) (rendered .containers) spec) } where
  spec := ⟨spec, _, ctx, hspec, h.build_eq, updated_of_steps h, rfl⟩
  metadata := rfl
  status := rfl

end

/-! ### There is no choice -/

/-- There is one list with given items, absent or present. -/
theorem Listed.unique {α : Type} {old new other : Option (List α)} {items : List α}
    (h : Listed old items new) (hother : Listed old items other) : new = other := by
  cases h with
  | absent =>
    cases hother with
    | absent => rfl
    | present hsome => simp at hsome
  | present hsome =>
    cases hother with
    | absent => simp at hsome
    | present _ => rfl

section

variable {i : Injector}

/-- One thing becomes of a specification. -/
theorem Updated.unique {labels : PodLabels} {ctx : Context} {spec new other : PodSpec}
    (h : Updated i labels ctx spec new) (hother : Updated i labels ctx spec other) :
    new = other := by
  obtain ⟨⟨added, own, hadded, hown, hcontainers⟩, ⟨addedInit, ownInit, haddedInit, hownInit,
    hinitContainers⟩, hvolumes, hextra⟩ := h
  obtain ⟨⟨added', own', hadded', hown', hcontainers'⟩, ⟨addedInit', ownInit', haddedInit',
    hownInit', hinitContainers'⟩, hvolumes', hextra'⟩ := hother
  -- What is added is determined first, and with it the lists the added ones stand in.
  obtain rfl := hadded.unique hadded'
  obtain rfl := haddedInit.unique haddedInit'
  obtain rfl := Relator.RightUnique.forall₂ (fun _ _ _ hy hz => hy.unique hz) hown hown'
  obtain rfl :=
    Relator.RightUnique.forall₂ (fun _ _ _ hy hz => hy.unique hz) hownInit hownInit'
  obtain ⟨containers, initContainers, volumes, extra⟩ := new
  obtain ⟨containers', initContainers', volumes', extra'⟩ := other
  obtain rfl : initContainers = initContainers' := hinitContainers.unique hinitContainers'
  obtain rfl : volumes = volumes' := hvolumes.unique hvolumes'
  obtain rfl : containers = containers' := hcontainers.trans hcontainers'.symm
  obtain rfl : extra = extra' := hextra.trans hextra'.symm
  rfl

/-- Injection has one result. -/
theorem Injected.unique {pod new other : Pod} (h : Injected i pod new)
    (hother : Injected i pod other) : new = other := by
  obtain ⟨spec, updated, ctx, hspec, hctx, hupdated, hnew⟩ := h.spec
  obtain ⟨spec', updated', ctx', hspec', hctx', hupdated', hnew'⟩ := hother.spec
  obtain rfl : spec = spec' := Option.some.inj (hspec.symm.trans hspec')
  -- Both injections read the same context, which the pod determines.
  obtain rfl : ctx = ctx' := Except.ok.inj (hctx.symm.trans hctx')
  obtain rfl : updated = updated' := hupdated.unique hupdated'
  obtain ⟨metadata, newSpec, status⟩ := new
  obtain ⟨metadata', newSpec', status'⟩ := other
  obtain rfl : metadata = metadata' := h.metadata.trans hother.metadata.symm
  obtain rfl : newSpec = newSpec' := hnew.trans hnew'.symm
  obtain rfl : status = status' := h.status.trans hother.status.symm
  rfl

end

end Direct

/-! ### Small pods -/

namespace Sample

/-- An agent that is told its role and starts with it. -/
def startedAgent : Container :=
  { agent with
    args := some ["--role=$(VSI_VAULT_ROLE)"]
    env := some [⟨"VSI_VAULT_ROLE", none, .empty _⟩] }

/-- A configuration with this agent, and with a container that no mode claims. -/
def startedConfig : Config :=
  { config with injection := ⟨[], [{ agent with name := "helper" }, startedAgent],
    [⟨"secrets", .empty _⟩]⟩ }

/-- An application that has a directory for the secrets, beside another one. -/
def ownDirectoryPod : Pod :=
  { pod with spec := some ⟨[web, { web with
      name := "store"
      volumeMounts := some [.plain "secrets" "/run/keys"] }], none, none, .empty _⟩ }

end Sample

namespace Injector

/-- With the built-in modes, a created patch that is sent and read back applies to the written form
of the pod. The document that it leads to is read as the result of the injection, which is the
only one. -/
theorem createPatch_refines (config : Config) (pod : Pod) (log : Patch)
    (h : (Injector.mk config .builtin).createPatch pod = .ok log) :
    ∃ doc injected, Patch.ofJson? log.toJson = some log ∧ log.apply pod.toJson = .ok doc ∧
      Pod.decode doc = .ok injected ∧
      ∀ new, Direct.Injected ⟨config, .builtin⟩ pod new ↔ new = injected := by
  obtain ⟨spec, ctx, modeEdits, rendered, doc, hspec, hsteps, hdoc, hdecode⟩ := exists_applied h
  have hinjected := Direct.injected_of_steps hspec hsteps
  refine ⟨doc, _, Patch.ofJson?_toJson log, hdoc, hdecode, fun new => ?_⟩
  constructor
  · intro hnew
    exact hnew.unique hinjected
  · rintro rfl
    exact hinjected

/-- The agent is put in front of the small pod and told its role. Both applications get the start
hook with the directory of the second one, and the first one gets its mount. -/
theorem createPatch_refines_sample :
    ∃ log doc injected spec,
      (Injector.mk Sample.startedConfig .builtin).createPatch Sample.ownDirectoryPod = .ok log ∧
      log.apply Sample.ownDirectoryPod.toJson = .ok doc ∧ Pod.decode doc = .ok injected ∧
      Direct.Injected ⟨Sample.startedConfig, .builtin⟩ Sample.ownDirectoryPod injected ∧
      injected.spec = some spec ∧
      spec.containers.map Container.name = ["tvsi-vault-agent", "web", "store"] ∧
      spec.containers.map Container.args = [some ["--role=shop"], none, none] ∧
      spec.containers.map (fun c => ((c.lifecycle.bind Lifecycle.postStart).bind
        LifecycleHandler.exec).bind ExecAction.command) =
          [none, some ["ready", "/run/keys"], some ["ready", "/run/keys"]] ∧
      spec.containers.map (fun c => c.mounts.map fun m => (m.name, m.mountPath)) =
        [[], [("token", podTokenMountPath), ("secrets", "/opt/talend/secrets")],
          [("secrets", "/run/keys")]] := by
  have hcreated : ((Injector.mk Sample.startedConfig .builtin).createPatch
      Sample.ownDirectoryPod).toOption.any (fun log =>
        (log.apply Sample.ownDirectoryPod.toJson).toOption.any fun doc =>
          (Pod.decode doc).toOption.any fun injected => injected.spec.any fun spec =>
            spec.containers.map Container.name = ["tvsi-vault-agent", "web", "store"] ∧
            spec.containers.map Container.args = [some ["--role=shop"], none, none] ∧
            spec.containers.map (fun c => ((c.lifecycle.bind Lifecycle.postStart).bind
              LifecycleHandler.exec).bind ExecAction.command) =
                [none, some ["ready", "/run/keys"], some ["ready", "/run/keys"]] ∧
            spec.containers.map (fun c => c.mounts.map fun m => (m.name, m.mountPath)) =
              [[], [("token", podTokenMountPath), ("secrets", "/opt/talend/secrets")],
                [("secrets", "/run/keys")]]) = true := by decide +kernel
  obtain ⟨log, hlog, hdocument⟩ := exists_of_any hcreated
  obtain ⟨doc, injected, -, hdoc, hdecode, hresult⟩ :=
    createPatch_refines Sample.startedConfig Sample.ownDirectoryPod log hlog
  -- What was looked at is the pod that the theorem speaks of.
  rw [hdoc] at hdocument
  have hpod : (Pod.decode doc).toOption.any _ = true := hdocument
  rw [hdecode] at hpod
  have hparts : injected.spec.any _ = true := hpod
  obtain ⟨spec, hspec, hlooks⟩ := (Option.any_eq_true _ _).mp hparts
  exact ⟨log, doc, injected, spec, hlog, hdoc, hdecode, (hresult injected).mpr rfl, hspec,
    of_decide_eq_true hlooks⟩

end Injector

end SidecarInjection
