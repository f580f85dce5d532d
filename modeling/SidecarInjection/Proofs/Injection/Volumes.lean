import Mathlib.Data.List.Nodup
import SidecarInjection.Proofs.Injection.Applied
import SidecarInjection.Proofs.Rendering

/-!
# `SidecarInjection.Proofs.Injection.Volumes`: volumes and mounts stay in order

A pod is well-mounted when its volumes have different names, no container mounts two
volumes in one place, and every mount names a volume of the pod. Volumes and mounts
are added in three steps, each with a condition of its own: configured volumes by
name, mounts of the secrets volume by name and by place, and mounts of rendered
containers from the tokens that the pod mounts. Each step keeps the property, for a
configuration that is in order itself.

* `InjectionConfig.WellMounted`: what is asked of a configuration.
* `PodSpec.nodup_volumeNames_update`: the step that adds volumes.
* `Container.WellMounted.updateContainer`: the step that mounts the secrets volume.
* `Container.wellMounted_fill`: the step that renders containers.
* `Injector.createPatch_wellMounted`: the injected pod.
-/

set_option autoImplicit false

namespace SidecarInjection

open Outcome

/-! ### Well-mounted pods and configurations -/

namespace Container

/-- Where a container mounts volumes, in order. -/
def mountPaths (c : Container) : List String := c.mounts.map VolumeMount.mountPath

/-- A container mounts volumes of these names, each in a place of its own. -/
structure WellMounted (volumes : List String) (c : Container) : Prop where
  nodup_mountPaths : c.mountPaths.Nodup
  name_mem : ∀ m ∈ c.mounts, m.name ∈ volumes

end Container

namespace PodSpec

/-- The names of the volumes of a pod, in order. -/
def volumeNames (s : PodSpec) : List String := (s.volumes.getD []).map Volume.name

/-- The volumes have different names, and all containers mount some of them, each in a
place of its own. -/
structure WellMounted (s : PodSpec) : Prop where
  nodup_volumeNames : s.volumeNames.Nodup
  containers : ∀ target, ∀ c ∈ s.listed target, c.WellMounted s.volumeNames

end PodSpec

/-- What a pod runs is well-mounted. -/
def Pod.WellMounted (p : Pod) : Prop := ∀ spec, p.spec = some spec → spec.WellMounted

namespace InjectionConfig

/-- The names of the configured volumes, in order. -/
def volumeNames (c : InjectionConfig) : List String := c.volumes.map Volume.name

/-- A mount of a configured container is for a service account token, or it names a
configured volume. -/
def Supplies (c : InjectionConfig) (m : VolumeMount) : Prop :=
  m.mountPath = podTokenMountPath ∨ m.mountPath = agentTokenMountPath ∨ m.name ∈ c.volumeNames

/-- The configured volumes have different names, and the secrets volume is one of them.
Each configured container mounts what is supplied for it, each in a place of its own. -/
structure WellMounted (c : InjectionConfig) : Prop where
  nodup_volumeNames : c.volumeNames.Nodup
  secrets_mem : Secrets.volumeName ∈ c.volumeNames
  nodup_mountPaths : ∀ target, ∀ t ∈ c.templates target, t.mountPaths.Nodup
  supplies : ∀ target, ∀ t ∈ c.templates target, ∀ m ∈ t.mounts, c.Supplies m

end InjectionConfig

/-! ### Volumes -/

namespace PodSpec

variable {i : Injector} {labels : PodLabels} {ctx : Context} {spec : PodSpec}
  {initRendered rendered : List Container}

/-- The names of the new volumes come after the others. -/
theorem volumeNames_update :
    (Effect.update i labels ctx initRendered rendered spec).volumeNames =
      spec.volumeNames ++ (Effect.newVolumes i spec).map Volume.name := by
  show ((Effect.orAbsent spec.volumes
    (spec.volumes.getD [] ++ Effect.newVolumes i spec)).getD []).map Volume.name = _
  rw [volumeNames, ← List.map_append]
  unfold Effect.orAbsent
  cases spec.volumes with
  | none => cases Effect.newVolumes i spec <;> rfl
  | some volumes => rfl

/-- The new volumes are the configured ones with names that the pod does not use. -/
theorem mem_newVolumes {v : Volume} :
    v ∈ Effect.newVolumes i spec ↔
      v ∈ i.config.injection.volumes ∧ v.name ∉ spec.volumeNames := by
  unfold Effect.newVolumes volumeNames
  rw [List.mem_filter, Bool.not_eq_true', List.any_eq_false, List.mem_map]
  simp

/-- A volume has a name of the pod or of the configuration. -/
theorem mem_volumeNames_update {name : String} :
    name ∈ (Effect.update i labels ctx initRendered rendered spec).volumeNames ↔
      name ∈ spec.volumeNames ∨ name ∈ i.config.injection.volumeNames := by
  rw [volumeNames_update, List.mem_append, InjectionConfig.volumeNames]
  constructor
  · rintro (hname | hname)
    · exact .inl hname
    · obtain ⟨v, hv, rfl⟩ := List.mem_map.mp hname
      exact .inr (List.mem_map_of_mem (mem_newVolumes.mp hv).1)
  · rintro (hname | hname)
    · exact .inl hname
    · -- A configured volume is new, or the pod defines one of the same name.
      obtain ⟨v, hv, rfl⟩ := List.mem_map.mp hname
      by_cases hold : v.name ∈ spec.volumeNames
      · exact .inl hold
      · exact .inr (List.mem_map_of_mem (mem_newVolumes.mpr ⟨hv, hold⟩))

/-- No two volumes have one name afterwards, if neither the pod nor the configuration has such. -/
theorem nodup_volumeNames_update (hspec : spec.volumeNames.Nodup)
    (hconfig : i.config.injection.volumeNames.Nodup) :
    (Effect.update i labels ctx initRendered rendered spec).volumeNames.Nodup := by
  rw [volumeNames_update, List.nodup_append]
  refine ⟨hspec, hconfig.sublist (List.filter_sublist.map _), ?_⟩
  rintro name hold other hnew rfl
  obtain ⟨v, hv, rfl⟩ := List.mem_map.mp hnew
  exact (mem_newVolumes.mp hv).2 hold

end PodSpec

/-! ### Containers -/

namespace Container

/-- Volumes may be added to the pod. -/
theorem WellMounted.mono {volumes others : List String} {c : Container}
    (h : c.WellMounted volumes) (hsub : ∀ name ∈ volumes, name ∈ others) : c.WellMounted others :=
  ⟨h.nodup_mountPaths, fun m hm => hsub _ (h.name_mem m hm)⟩

/-- The pod's own containers stay well-mounted in a pod with the secrets volume. -/
theorem WellMounted.updateContainer {volumes : List String} {c : Container}
    (h : c.WellMounted volumes) (hsecrets : Secrets.volumeName ∈ volumes) (i : Injector)
    (labels : PodLabels) (ctx : Context) (spec : PodSpec) (target : Target) :
    (Effect.updateContainer i labels ctx spec target c).WellMounted volumes := by
  have hmounts := Effect.mounts_updateContainer c i labels ctx spec target
  cases hadds : ctx.modes.isEnabled secretsKey && !Effect.isMounted c with
  | false =>
    rw [hadds, if_neg (by decide), List.append_nil] at hmounts
    exact ⟨by rw [mountPaths, hmounts]; exact h.nodup_mountPaths,
      fun m hm => h.name_mem m (hmounts ▸ hm)⟩
  | true =>
    rw [hadds, if_pos rfl] at hmounts
    -- The mount is added only where its place is free.
    have hfree : ∀ m ∈ c.mounts, m.mountPath ≠ Secrets.defaultMountPath := by
      simp only [Bool.and_eq_true, Bool.not_eq_true'] at hadds
      exact fun m hm => (Effect.isMounted_eq_false.mp hadds.2 m hm).2
    constructor
    · rw [mountPaths, hmounts, List.map_append, List.nodup_append]
      refine ⟨h.nodup_mountPaths, List.nodup_singleton _, ?_⟩
      rintro path hpath other hadded rfl
      obtain ⟨m, hm, rfl⟩ := List.mem_map.mp hpath
      exact hfree m hm (List.mem_singleton.mp hadded)
    · intro m hm
      rw [hmounts, List.mem_append, List.mem_singleton] at hm
      rcases hm with hm | rfl
      · exact h.name_mem m hm
      · exact hsecrets

/-- A rendered container is well-mounted in a pod that has the volumes of both tokens and
the configured ones. -/
theorem wellMounted_fill {volumes : List String} {ctx : Context} {config : InjectionConfig}
    {t : Container} (env : List EnvVar) (hpaths : t.mountPaths.Nodup)
    (hsupplies : ∀ m ∈ t.mounts, config.Supplies m) (hpod : ctx.podTokenVolume ∈ volumes)
    (hagent : ctx.agentTokenVolume ∈ volumes)
    (hconfig : ∀ name ∈ config.volumeNames, name ∈ volumes) :
    (Rendering.fill ctx t env).WellMounted volumes := by
  constructor
  · -- The places of mounts stay.
    have hsame : (Rendering.fill ctx t env).mountPaths = t.mountPaths := by
      rw [mountPaths, Rendering.mounts_fill, List.map_map, mountPaths]
      exact List.map_congr_left fun m _ => Rendering.mountPath_fillMount ctx m
    rw [hsame]
    exact hpaths
  · intro filled hfilled
    rw [Rendering.mounts_fill] at hfilled
    obtain ⟨m, hm, rfl⟩ := List.mem_map.mp hfilled
    unfold Rendering.fillMount
    split
    · exact hpod
    · split
      · exact hagent
      · rename_i hpodPath hagentPath
        rcases hsupplies m hm with hpath | hpath | hname
        · exact absurd hpath hpodPath
        · exact absurd hpath hagentPath
        · exact hconfig _ hname

end Container

/-! ### Injected pods -/

namespace Injector

/-- With a well-mounted configuration and the built-in modes, a well-mounted pod is injected
to a well-mounted pod. -/
theorem createPatch_wellMounted (config : Config) (pod : Pod) (log : Patch)
    (h : (Injector.mk config .builtin).createPatch pod = .ok log)
    (hconfig : config.injection.WellMounted) (hpod : pod.WellMounted) :
    ∃ spec ctx new, Injection config pod log spec ctx new ∧ new.WellMounted := by
  obtain ⟨spec, ctx, modeEdits, rendered, hsteps, hinjection⟩ := exists_steps h
  have hspec := hpod spec hinjection.submitted
  refine ⟨spec, ctx, _, hinjection,
    PodSpec.nodup_volumeNames_update hspec.nodup_volumeNames hconfig.nodup_volumeNames, ?_⟩
  generalize hnew : Effect.update ⟨config, .builtin⟩ (.ofMetadata pod.metadata) ctx
    (rendered .initContainers) (rendered .containers) spec = new
  -- The volumes of the pod and of the configuration are volumes of the injected pod.
  have hown : ∀ name ∈ spec.volumeNames, name ∈ new.volumeNames := fun name hname =>
    hnew ▸ PodSpec.mem_volumeNames_update.mpr (.inl hname)
  have hconfigured : ∀ name ∈ config.injection.volumeNames, name ∈ new.volumeNames :=
    fun name hname => hnew ▸ PodSpec.mem_volumeNames_update.mpr (.inr hname)
  have htoken : ∀ volume, Context.Mounted spec.containers volume → volume ∈ new.volumeNames := by
    rintro volume ⟨c, hc, m, hm, rfl⟩
    exact hown _ ((hspec.containers .containers c hc).name_mem m hm)
  obtain ⟨hpodToken, hagentToken⟩ := Context.tokenVolumes_of_build hinjection.context
  intro target c hc
  rw [← hnew, Effect.listed_update, List.mem_append] at hc
  rcases hc with hc | hc
  · obtain ⟨t, ht, env, rfl⟩ := Rendering.exists_fill_of_mem (hsteps.renderAll_eq target) hc
    exact Container.wellMounted_fill env (hconfig.nodup_mountPaths target t ht)
      (hconfig.supplies target t ht) (htoken _ hpodToken) (htoken _ hagentToken) hconfigured
  · obtain ⟨own, hmem, rfl⟩ := List.mem_map.mp hc
    exact ((hspec.containers target own hmem).mono hown).updateContainer
      (hconfigured _ hconfig.secrets_mem) _ _ _ _ _

end Injector

/-! ### A small well-mounted pod -/

namespace Sample

/-- The agent, with a mount of its token and one of the secrets. -/
def mountingAgent : Container :=
  { agent with
    volumeMounts := some [.plain "unset" agentTokenMountPath, .plain Secrets.volumeName "/vault"] }

/-- The small configuration, with the agent that mounts volumes. -/
def mountingConfig : Config :=
  { config with injection := ⟨[], [mountingAgent], [⟨Secrets.volumeName, .empty _⟩]⟩ }

/-- The small pod, with the volume that its application mounts. -/
def mountingPod : Pod :=
  { pod with spec := some ⟨[web], none, some [⟨"token", .empty _⟩], .empty _⟩ }

/-- The configuration of the sample is well mounted. -/
theorem wellMounted_mountingConfig : mountingConfig.injection.WellMounted where
  nodup_volumeNames := by decide
  secrets_mem := by decide
  nodup_mountPaths := by
    rintro (_ | _) t ht
    · cases ht
    · cases List.mem_singleton.mp ht
      decide
  supplies := by
    rintro (_ | _) t ht m hm
    · cases ht
    · cases List.mem_singleton.mp ht
      -- One mount is for the token of the agent, and the other one names the configured volume.
      rcases List.mem_cons.mp hm with rfl | hm
      · exact .inr (.inl rfl)
      · cases List.mem_singleton.mp hm
        exact .inr (.inr (by decide))

/-- So is its pod. -/
theorem wellMounted_mountingPod : mountingPod.WellMounted := by
  intro spec hspec
  cases hspec
  refine ⟨by decide, ?_⟩
  rintro (_ | _) c hc
  · cases hc
  · cases List.mem_singleton.mp hc
    exact ⟨by decide, by decide⟩

end Sample

namespace Injector

/-- The patched sample pod mounts volumes only that it has. -/
theorem createPatch_wellMounted_sample :
    ∃ log spec ctx new,
      (Injector.mk Sample.mountingConfig .builtin).createPatch Sample.mountingPod = .ok log ∧
      Sample.mountingConfig.injection.WellMounted ∧ Sample.mountingPod.WellMounted ∧
      Injection Sample.mountingConfig Sample.mountingPod log spec ctx new ∧ new.WellMounted := by
  have hcreated : ((Injector.mk Sample.mountingConfig .builtin).createPatch
      Sample.mountingPod).toBool = true := by decide +kernel
  obtain ⟨log, hlog⟩ := exists_of_toBool hcreated
  obtain ⟨spec, ctx, new, hinjection, hnew⟩ := createPatch_wellMounted Sample.mountingConfig
    Sample.mountingPod log hlog Sample.wellMounted_mountingConfig Sample.wellMounted_mountingPod
  exact ⟨log, spec, ctx, new, hlog, Sample.wellMounted_mountingConfig,
    Sample.wellMounted_mountingPod, hinjection, hnew⟩

end Injector

end SidecarInjection
