import SidecarInjection.Proofs.Injection.Idempotence

/-!
# `SidecarInjection.Proofs.Injection.Independence`: what an injector does not read

Two pods that agree on their containers, their volumes, their namespace, the known
annotations and two labels are answered alike: both are left alone, both get the same
patch, or both are refused with the same error. Names, other annotations, other labels, the
status and the rest of the specification have no influence, although the patch is tried on
the written form of the whole pod.

For the modes this is asked of each mode apart, by `Mode.Local`.

* `Secrets.local_mode`, `Proxy.local_mode`, `Job.local_mode`: the built-in modes read their
  own annotations, and those that every mode may read.
* `Context.build_congr`, `Injector.modePatch_congr`: the same for any registry of such modes.
* `Injector.mutate_eq_of_alike`: pods that agree are answered alike.
-/

set_option autoImplicit false

namespace SidecarInjection

open Outcome

/-! ### What is read -/

/-- Labels and annotations that agree where an injector reads them: on the labels of the
application and of the service, and on the annotations of these short keys. -/
structure PodLabels.Agree (config : Config) (keys : AnnotationKeys) (read : List String)
    (a b : PodLabels) : Prop where
  label : ∀ key ∈ [config.appLabel, config.serviceLabel],
    Dict.get? a.labels key = Dict.get? b.labels key
  annotation : ∀ key ∈ read,
    Dict.get? a.annotations (keys.qualified key) = Dict.get? b.annotations (keys.qualified key)

/-- Specifications with the same containers and volumes. -/
structure PodSpec.Agree (s t : PodSpec) : Prop where
  containers : s.containers = t.containers
  initContainers : s.initContainers = t.initContainers
  volumes : s.volumes = t.volumes

namespace PodLabels.Agree

variable {config : Config} {keys : AnnotationKeys} {read fewer : List String} {a b : PodLabels}

/-- Agreement on some annotations is agreement on fewer of them. -/
theorem mono (h : Agree config keys read a b) (hfewer : fewer ⊆ read) :
    Agree config keys fewer a b :=
  ⟨h.label, fun key hkey => h.annotation key (hfewer hkey)⟩

/-- The annotations that are read have the same values. One that is absent has the empty value in
both. -/
theorem value_eq (h : Agree config keys read a b) (key : String) (hkey : key ∈ read) :
    keys.value a.annotations key = keys.value b.annotations key := by
  rw [AnnotationKeys.value, AnnotationKeys.value, h.annotation key hkey]

/-- So has the label of the application. -/
theorem appLabel_eq (h : Agree config keys read a b) :
    a.label config.appLabel = b.label config.appLabel := by
  rw [PodLabels.label, PodLabels.label, h.label config.appLabel List.mem_cons_self]

/-- So has the label of the service. -/
theorem serviceLabel_eq (h : Agree config keys read a b) :
    a.label config.serviceLabel = b.label config.serviceLabel := by
  rw [PodLabels.label, PodLabels.label, h.label config.serviceLabel (by simp)]

end PodLabels.Agree

/-! ### Modes -/

/-- A mode that reads no annotations but its own ones and those known without any mode, and
no parts of a specification but the containers and the volumes. -/
structure Mode.Local (mode : Mode) : Prop where
  computeTemplate : ∀ {config keys a b},
    PodLabels.Agree config keys (Annotations.coreKeys ++ mode.annotationKeys) a b →
      mode.computeTemplate config keys a = mode.computeTemplate config keys b
  patchPod : ∀ {config keys a b s t},
    PodLabels.Agree config keys (Annotations.coreKeys ++ mode.annotationKeys) a b →
      PodSpec.Agree s t →
        ∀ ctx, mode.patchPod config keys s a ctx = mode.patchPod config keys t b ctx

namespace Secrets

variable {config : Config} {keys : AnnotationKeys} {a b : PodLabels}

/-- Paths are completed with the two labels only. -/
theorem paths_congr {read : List String} (h : PodLabels.Agree config keys read a b)
    (listed : String) : paths config a listed = paths config b listed := by
  unfold paths
  rw [h.appLabel_eq, h.serviceLabel_eq]

/-- Of the annotations known without any mode, only the authentication method is read. -/
theorem compute_congr (h : PodLabels.Agree config keys (Annotations.auth :: annotationKeys) a b) :
    compute config keys a = compute config keys b := by
  have hvalue : ∀ key ∈ Annotations.auth :: annotationKeys,
      keys.value a.annotations key = keys.value b.annotations key := h.value_eq
  unfold compute
  dsimp only
  rw [hvalue typeKey (by decide), hvalue methodKey (by decide),
    hvalue Annotations.auth (by decide), hvalue pathKey (by decide),
    hvalue destinationKey (by decide), hvalue templateKey (by decide),
    hvalue notifyKey (by decide)]
  simp only [paths_congr h]

/-- Start hooks depend on one annotation and on the containers. -/
theorem hookPatch_congr {s t : PodSpec}
    (h : PodLabels.Agree config keys (Annotations.coreKeys ++ annotationKeys) a b)
    (hspec : PodSpec.Agree s t) (ctx : Context) :
    hookPatch config keys s a ctx = hookPatch config keys t b ctx := by
  have hrequested : hookRequested keys a ctx = hookRequested keys b ctx := by
    unfold hookRequested
    rw [h.value_eq hookKey (by decide)]
  unfold hookPatch
  rw [hrequested, hspec.containers]

/-- Commands are wrapped by what the context and the containers say. -/
theorem commandPatch_congr {s t : PodSpec} (hspec : PodSpec.Agree s t) (ctx : Context) :
    commandPatch s ctx = commandPatch t ctx := by
  unfold commandPatch
  rw [hspec.containers]

/-- The secrets mode reads its own annotations and the one of the authentication method. -/
theorem local_mode : mode.Local where
  computeTemplate {config keys a b} h := by
    show (compute config keys a).map _ = (compute config keys b).map _
    rw [compute_congr (h.mono (List.cons_subset.mpr ⟨by decide, List.subset_append_right _ _⟩))]
  patchPod {config keys a b s t} h hspec ctx := by
    -- The edits are those of the hooks and of the commands, and each reads what it reads alone.
    show (do
      let hooks ← hookPatch config keys s a ctx
      let commands ← commandPatch s ctx
      return hooks ++ commands) = (do
      let hooks ← hookPatch config keys t b ctx
      let commands ← commandPatch t ctx
      return hooks ++ commands)
    rw [hookPatch_congr h hspec, commandPatch_congr hspec]

end Secrets

/-- The proxy reads its port, and no label. -/
theorem Proxy.compute_congr {config : Config} {keys : AnnotationKeys} {a b : PodLabels}
    (h : PodLabels.Agree config keys [portKey] a b) :
    compute config keys a = compute config keys b := by
  unfold compute
  rw [h.value_eq portKey List.mem_cons_self]

/-- It edits no containers, so nothing else of the pod is read. -/
theorem Proxy.local_mode : mode.Local where
  computeTemplate {config keys a b} h := by
    show (compute config keys a).map _ = (compute config keys b).map _
    rw [compute_congr (h.mono (List.subset_append_right _ _))]
  patchPod _ _ _ := rfl

/-- The job mode reads no pod at all until containers are rendered. -/
theorem Job.local_mode : mode.Local where
  computeTemplate _ := rfl
  patchPod _ _ _ := rfl

namespace Registry

/-- All built-in modes are local, so what follows holds of the registry of them. -/
theorem local_builtin : ∀ mode ∈ builtin.modes, mode.Local := by
  rw [builtin_modes]
  simp only [List.forall_mem_cons]
  exact ⟨Secrets.local_mode, Proxy.local_mode, Job.local_mode, by simp⟩

/-- The annotations that some mode reads are among those that are read. -/
theorem annotationKeys_subset {r : Registry} {mode : Mode} (h : mode ∈ r.modes) :
    Annotations.coreKeys ++ mode.annotationKeys ⊆ Annotations.coreKeys ++ r.annotationKeys := by
  refine List.append_subset.mpr ⟨List.subset_append_left _ _, fun key hkey => ?_⟩
  exact List.mem_append_right _ (List.mem_flatMap.mpr ⟨mode, h, hkey⟩)

end Registry

/-! ### Contexts and edits -/

namespace Context

section

variable {config : Config} {keys : AnnotationKeys} {registry : Registry} {a b : PodLabels}

/-- Two annotations say which modes are requested. -/
theorem requestedModes_congr
    (h : PodLabels.Agree config keys [Annotations.mode, Annotations.workload] a b) :
    requestedModes registry keys a.annotations = requestedModes registry keys b.annotations := by
  unfold requestedModes
  rw [h.value_eq Annotations.mode (by simp), h.value_eq Annotations.workload (by simp)]

/-- One annotation says how to authenticate. -/
theorem requestedMethod_congr (h : PodLabels.Agree config keys [Annotations.auth] a b) :
    requestedMethod keys a.annotations = requestedMethod keys b.annotations := by
  unfold requestedMethod
  rw [h.value_eq Annotations.auth (by simp)]

/-- The role is given by an annotation, or by the label of the application. -/
theorem requestedRole_congr (h : PodLabels.Agree config keys [Annotations.role] a b)
    (method : AuthMethod) :
    requestedRole config keys a method = requestedRole config keys b method := by
  unfold requestedRole
  rw [h.value_eq Annotations.role (by simp), h.appLabel_eq]

/-- The annotation for the token and the mounts say which volume holds the token of the agent. -/
theorem requestedTokenVolume_congr (h : PodLabels.Agree config keys [Annotations.saToken] a b)
    (containers : List Container) (podVolume : String) :
    requestedTokenVolume keys a.annotations containers podVolume =
      requestedTokenVolume keys b.annotations containers podVolume := by
  unfold requestedTokenVolume
  rw [h.value_eq Annotations.saToken (by simp)]

end

end Context

section

variable {config : Config} {keys : AnnotationKeys} {registry : Registry} {a b : PodLabels}
  (h : PodLabels.Agree config keys (Annotations.coreKeys ++ registry.annotationKeys) a b)
  (hlocal : ∀ mode ∈ registry.modes, mode.Local)

include h

namespace Context

include hlocal

/-- Registered modes work out the same, whatever was worked out before. -/
theorem computeConfigs_congr {modes : List Mode} (hmodes : modes ⊆ registry.modes)
    (configs : Dict ModeConfig) :
    computeConfigs config keys a modes configs = computeConfigs config keys b modes configs := by
  induction modes generalizing configs with
  | nil => rfl
  | cons mode rest ih =>
    obtain ⟨hmode, hrest⟩ := List.cons_subset.mp hmodes
    have htemplate := (hlocal mode hmode).computeTemplate
      (h.mono (Registry.annotationKeys_subset hmode))
    rw [computeConfigs, computeConfigs, htemplate]
    exact congrArg _ (funext fun result => ih hrest _)

/-- So the same context is built, or the same error is met. -/
theorem build_congr (containers : List Container) :
    build config keys registry containers a = build config keys registry containers b := by
  have hmodes : ∀ enabled, registry.enabledModes enabled ⊆ registry.modes := fun _ =>
    List.filter_subset_self _
  have hcore : PodLabels.Agree config keys Annotations.coreKeys a b :=
    h.mono (List.subset_append_left _ _)
  unfold build
  rw [requestedModes_congr (hcore.mono (by decide)), requestedMethod_congr (hcore.mono (by decide))]
  simp only [requestedRole_congr (hcore.mono (by decide)),
    requestedTokenVolume_congr (hcore.mono (by decide)), computeConfigs_congr h hlocal (hmodes _)]

end Context

namespace Injector

include hlocal

/-- Registered modes make the same edits. -/
theorem modePatch_congr {s t : PodSpec} (hspec : PodSpec.Agree s t) (ctx : Context)
    {i : Injector} (hconfig : i.config = config) (hkeys : i.keys = keys) {modes : List Mode}
    (hmodes : modes ⊆ registry.modes) : i.modePatch s a ctx modes = i.modePatch t b ctx modes := by
  induction modes with
  | nil => rfl
  | cons mode rest ih =>
    obtain ⟨hmode, hrest⟩ := List.cons_subset.mp hmodes
    have hedits := (hlocal mode hmode).patchPod
      (h.mono (Registry.annotationKeys_subset hmode)) hspec ctx
    rw [modePatch, modePatch, hconfig, hkeys, hedits, ih hrest]

end Injector

end

/-! ### Pods -/

namespace Injector

/-- Pods that agree on everything that an injector reads. -/
structure Alike (i : Injector) (a b : Pod) : Prop where
  containers : (a.spec.map PodSpec.containers).getD [] = (b.spec.map PodSpec.containers).getD []
  initContainers : a.spec.bind PodSpec.initContainers = b.spec.bind PodSpec.initContainers
  volumes : a.spec.bind PodSpec.volumes = b.spec.bind PodSpec.volumes
  namespaceName : a.metadata.namespaceName = b.metadata.namespaceName
  /-- The known annotations are absent in both, or have the same value in both. -/
  annotation : ∀ key ∈ Annotations.coreKeys ++ i.registry.annotationKeys,
    Dict.get? (a.metadata.annotations.getD []) (i.keys.qualified key) =
      Dict.get? (b.metadata.annotations.getD []) (i.keys.qualified key)
  /-- So are the labels of the application and of the service. -/
  label : ∀ key ∈ [i.config.appLabel, i.config.serviceLabel],
    Dict.get? (a.metadata.labels.getD []) key = Dict.get? (b.metadata.labels.getD []) key

variable {i : Injector} {a b : Pod}

namespace Alike

/-- Pods that agree have labels and annotations that agree. -/
theorem agree (h : i.Alike a b) :
    PodLabels.Agree i.config i.keys (Annotations.coreKeys ++ i.registry.annotationKeys)
      (.ofMetadata a.metadata) (.ofMetadata b.metadata) :=
  ⟨h.label, h.annotation⟩

/-- Pods that agree are to be injected alike. -/
theorem mutationRequired_eq (h : i.Alike a b) :
    i.mutationRequired a.metadata = i.mutationRequired b.metadata := by
  have hvalue : ∀ key ∈ Annotations.coreKeys, i.keys.value (a.metadata.annotations.getD []) key =
      i.keys.value (b.metadata.annotations.getD []) key := fun key hkey =>
    h.agree.value_eq key (List.mem_append_left _ hkey)
  unfold mutationRequired Policy.mutationRequired Policy.effectiveNamespace
  dsimp only
  rw [h.namespaceName, hvalue Annotations.status (by decide), hvalue Annotations.inject (by decide)]

/-- The mark is added, or set anew, in both. Metadata without any annotations is the only
other case. -/
theorem statusOperation_eq (h : i.Alike a b) (ha : a.metadata.annotations ≠ none)
    (hb : b.metadata.annotations ≠ none) :
    i.statusOperation a.metadata = i.statusOperation b.metadata := by
  have hstatus := h.annotation Annotations.status (by simp [Annotations.coreKeys])
  obtain ⟨s, hs⟩ := Option.ne_none_iff_exists'.mp ha
  obtain ⟨t, ht⟩ := Option.ne_none_iff_exists'.mp hb
  rw [hs, ht] at hstatus
  unfold statusOperation Dict.contains
  rw [hs, ht]
  dsimp only [Option.getD_some] at hstatus ⊢
  rw [hstatus]

/-- Specifications that agree are edited alike. -/
theorem edits_eq (h : i.Alike a b) (hi : i.registry = .builtin) {s t : PodSpec}
    (hspec : PodSpec.Agree s t) (ha : a.metadata.annotations ≠ none)
    (hb : b.metadata.annotations ≠ none) : i.edits a.metadata s = i.edits b.metadata t := by
  have hlocal : ∀ mode ∈ i.registry.modes, mode.Local := hi ▸ Registry.local_builtin
  have hvolumes : i.volumePatch s = i.volumePatch t := by
    unfold volumePatch
    rw [hspec.volumes]
  have hmounts : ∀ ctx, secretsPatch s ctx = secretsPatch t ctx := by
    intro ctx
    unfold secretsPatch
    rw [hspec.containers, hspec.initContainers]
  have hmodes : ∀ ctx, i.modePatch s (.ofMetadata a.metadata) ctx
      (i.registry.enabledModes ctx.modes) = i.modePatch t (.ofMetadata b.metadata) ctx
        (i.registry.enabledModes ctx.modes) := fun ctx =>
    modePatch_congr h.agree hlocal hspec ctx rfl rfl (List.filter_subset_self _)
  -- All steps agree. Only the mark needs that there are annotations in both pods.
  unfold edits
  dsimp only
  rw [hspec.containers, hspec.initContainers, Context.build_congr h.agree hlocal,
    h.statusOperation_eq ha hb, hvolumes]
  simp only [hmodes, hmounts]

/-- Both pods have containers, and their specifications agree, or neither has. -/
theorem specification_cases (h : i.Alike a b) :
    (specification a = .error .noContainers ∧ specification b = .error .noContainers) ∨
      ∃ s t, specification a = .ok s ∧ specification b = .ok t ∧ PodSpec.Agree s t := by
  have hcontainers := h.containers
  have hinit := h.initContainers
  have hvolumes := h.volumes
  unfold specification
  cases ha : a.spec with
  | none =>
    cases hb : b.spec with
    | none => exact .inl ⟨rfl, rfl⟩
    | some t =>
      rw [ha, hb] at hcontainers
      -- A pod without a specification agrees with one that has no containers.
      have ht : t.containers = [] := hcontainers.symm
      exact .inl ⟨rfl, by simp [ht]⟩
  | some s =>
    rw [ha] at hcontainers hinit hvolumes
    cases hb : b.spec with
    | none =>
      rw [hb] at hcontainers
      have hs : s.containers = [] := hcontainers
      exact .inl ⟨by simp [hs], rfl⟩
    | some t =>
      rw [hb] at hcontainers hinit hvolumes
      have heq : s.containers = t.containers := hcontainers
      cases hempty : t.containers.isEmpty with
      | true => exact .inl ⟨by simp [heq, hempty], by simp [hempty]⟩
      | false =>
        exact .inr ⟨s, t, by simp [heq, hempty], by simp [hempty], heq, hinit, hvolumes⟩

end Alike

/-- With the built-in modes, pods that agree on what is read are answered alike: none is
injected, both get the same patch, or both are refused with the same error. -/
theorem mutate_eq_of_alike (config : Config) (a b : Pod)
    (h : (Injector.mk config .builtin).Alike a b) :
    (Injector.mk config .builtin).mutate a = (Injector.mk config .builtin).mutate b := by
  unfold mutate
  rw [h.mutationRequired_eq]
  cases hb : (Injector.mk config .builtin).mutationRequired b.metadata with
  | false => rfl
  | true =>
    have ha : (Injector.mk config .builtin).mutationRequired a.metadata = true :=
      h.mutationRequired_eq.trans hb
    -- Trying the edits adds nothing to them, so the unread parts are not seen there.
    have hcreate : (Injector.mk config .builtin).createPatch a =
        (Injector.mk config .builtin).createPatch b := by
      rw [createPatch_eq rfl, createPatch_eq rfl]
      rcases h.specification_cases with ⟨hsa, hsb⟩ | ⟨s, t, hsa, hsb, hspec⟩
      · rw [hsa, hsb, error_bind, error_bind]
      · rw [hsa, hsb, ok_bind, ok_bind]
        exact h.edits_eq rfl hspec (annotations_ne_none ha) (annotations_ne_none hb)
    rw [hcreate]

end Injector

/-! ### Two small pods -/

namespace Sample

/-- The small pod with a name, a status, a host name, another label, and annotations of the
same short keys under a prefix. -/
def renamed : Pod where
  metadata := { ObjectMeta.empty with
    name := some "shop-1"
    labels := some [("app", "shop"), ("service", "cart"), ("tier", "front")]
    annotations := some [("inject", "true"), ("other/inject", "false"), ("other/mode", "proxy"),
      ("secrets-hook", "true")] }
  spec := some ⟨[web], none, none, .ofJson _ (.obj [("hostname", .str "shop")])⟩
  status := some (.empty _)

end Sample

namespace Injector

/-- Both small pods get the same patch. -/
theorem mutate_eq_of_alike_sample :
    ∃ patch, (Injector.mk Sample.config .builtin).mutate Sample.pod = .ok (some patch) ∧
      (Injector.mk Sample.config .builtin).mutate Sample.renamed = .ok (some patch) := by
  have hpatched : ((Injector.mk Sample.config .builtin).mutate Sample.pod).toOption.any
      Option.isSome = true := by decide +kernel
  have halike : (Injector.mk Sample.config .builtin).Alike Sample.pod Sample.renamed :=
    ⟨rfl, rfl, rfl, rfl, by decide +kernel, by decide +kernel⟩
  have heq := mutate_eq_of_alike Sample.config Sample.pod Sample.renamed halike
  obtain ⟨result, hresult, hsome⟩ := exists_of_any hpatched
  obtain ⟨patch, rfl⟩ := Option.isSome_iff_exists.mp hsome
  exact ⟨patch, hresult, heq.symm.trans hresult⟩

end Injector

end SidecarInjection
