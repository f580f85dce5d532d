import SidecarInjection.Proofs.Context.Coherence
import SidecarInjection.Proofs.Context.Modes
import SidecarInjection.Proofs.Mode.Registry

/-!
# `SidecarInjection.Proofs.Context.Registration`: enabled modes and registered modes

A context holds a flag for each mode, and later steps look modes up by their keys. Requests
only enable registered modes. A job workload enables the job mode whether or not it is
registered, so there is one way for a context to have a mode that its injector does not
have: `Context.Stray`. This holds for every registry.

* `Context.mem_keys_requestedModes`: the modes that a context has a flag for.
* `Context.build_onlyRegistered_iff`: only registered modes have a say, unless the context has
  a stray job mode, and then that one is enabled.
-/

set_option autoImplicit false

namespace SidecarInjection

open Outcome

namespace Secrets

variable {config : Config} {keys : AnnotationKeys} {spec : PodSpec} {pod : PodLabels}
  {ctx : Context}

/-- The start hook is refused for a job when it is requested and the job mode is enabled. -/
theorem hookPatch_refused_iff :
    hookPatch config keys spec pod ctx =
        .error (.unsupportedCombination (.hookWithJob (keys.qualified hookKey))) ↔
      hookRequested keys pod ctx = true ∧ ctx.modes.isEnabled jobKey = true := by
  unfold hookPatch
  cases hookRequested keys pod ctx with
  | false => simp
  | true =>
    cases ctx.modes.isEnabled jobKey with
    | true => simp
    | false =>
      -- A hook that cannot be run is refused for another reason.
      simp only [Bool.not_true, Bool.false_eq_true, if_false, and_false, iff_false]
      cases config.lifecycleHooks.postStart with
      | none => simp
      | some postStart => cases hexec : postStart.exec <;> simp [hexec]

end Secrets

namespace Context

variable {registry : Registry} {config : Config} {keys : AnnotationKeys} {pod : PodLabels}
  {containers : List Container} {ctx : Context}

/-- The modes that a pod has flags for are the registered ones, and the job mode for a job. -/
theorem mem_keys_requestedModes {annotations : Dict String} {key : String} :
    key ∈ Dict.keys (requestedModes registry keys annotations).flags ↔
      key ∈ registry.keys ∨
        (key = jobKey ∧ keys.value annotations Annotations.workload = Annotations.workloadJob) := by
  have hresolve := registry.covers_resolve (keys.value annotations Annotations.mode)
  unfold requestedModes
  dsimp only
  split
  · rename_i hworkload
    rw [EnabledModes.enable, Dict.mem_keys_insert, hresolve key, or_comm, and_iff_left hworkload]
  · rename_i hworkload
    rw [hresolve key, or_iff_left fun h => hworkload h.2]

/-! ### Stray modes -/

/-- A pod runs as a job, and the injector has no mode for jobs. -/
def Stray (registry : Registry) (keys : AnnotationKeys) (pod : PodLabels) : Prop :=
  keys.value pod.annotations Annotations.workload = "job" ∧ "job" ∉ registry.keys

/-- Only registered modes have a say in what follows from a context. -/
structure OnlyRegistered (registry : Registry) (config : Config) (keys : AnnotationKeys)
    (ctx : Context) : Prop where
  /-- There is one flag for each registered mode, and no other one. -/
  flags : (Dict.keys ctx.modes.flags).Perm registry.keys
  /-- An enabled mode is registered. -/
  enabled : ∀ key, ctx.modes.isEnabled key = true → key ∈ registry.keys
  /-- The start hook is refused on account of a job mode only if there is one. -/
  refused : ∀ spec pod, Secrets.hookPatch config keys spec pod ctx =
    .error (.unsupportedCombination (.hookWithJob (keys.qualified Secrets.hookKey))) →
      "job" ∈ registry.keys

/-- A stray job mode is enabled. -/
theorem isEnabled_job_of_stray (h : build config keys registry containers pod = .ok ctx)
    (hstray : Stray registry keys pod) : ctx.modes.isEnabled jobKey = true := by
  rw [(build_eq_ok_iff.mp h).1]
  exact isEnabled_job_of_workload hstray.1

/-- A context that is worked out from registrations has a flag for each registered mode and
for no other, only those are enabled, and the start hook is only refused for a job mode that
is registered, unless a job mode is stray. Then the context has one flag more, the stray mode
is enabled, and the start hook is refused to every pod that requests it. -/
theorem build_onlyRegistered_iff (modes : List Mode) (config : Config) (keys : AnnotationKeys)
    (containers : List Container) (pod : PodLabels) (ctx : Context)
    (h : build config keys (.ofList modes) containers pod = .ok ctx) :
    ((Registry.ofList modes).keys.Nodup ∧
      ∀ key, key ∈ (Registry.ofList modes).keys ↔ ∃ mode ∈ modes, mode.key = key) ∧
    (OnlyRegistered (.ofList modes) config keys ctx ↔ ¬ Stray (.ofList modes) keys pod) ∧
    (Stray (.ofList modes) keys pod →
      (Dict.keys ctx.modes.flags).Perm ("job" :: (Registry.ofList modes).keys) ∧
      ctx.modes.isEnabled "job" = true ∧
      ∀ spec, Secrets.hookRequested keys pod ctx = true →
        Secrets.hookPatch config keys spec pod ctx =
          .error (.unsupportedCombination (.hookWithJob (keys.qualified Secrets.hookKey)))) := by
  have hnodup := Registry.nodup_keys_ofList modes
  have hmodes := (build_eq_ok_iff.mp h).1
  have hflags : (Dict.keys ctx.modes.flags).Nodup :=
    Dict.Sorted.nodup_keys (hmodes ▸ sorted_requestedModes _ _ _)
  have hmem : ∀ key, key ∈ Dict.keys ctx.modes.flags ↔ key ∈ (Registry.ofList modes).keys ∨
      (key = jobKey ∧ keys.value pod.annotations Annotations.workload = Annotations.workloadJob) :=
    fun key => hmodes ▸ mem_keys_requestedModes
  refine ⟨⟨hnodup, fun key => Registry.mem_keys_ofList⟩, ⟨fun honly hstray => ?_, fun hnone => ?_⟩,
    fun hstray => ⟨?_, ?_, fun spec hrequested => ?_⟩⟩
  · -- The stray mode is enabled, and it is not registered.
    exact hstray.2 (honly.enabled jobKey (isEnabled_job_of_stray h hstray))
  · have hsame : ∀ key, key ∈ Dict.keys ctx.modes.flags ↔ key ∈ (Registry.ofList modes).keys := by
      intro key
      rw [hmem key]
      refine or_iff_left_of_imp fun ⟨hkey, hworkload⟩ => ?_
      exact hkey ▸ Decidable.not_not.mp fun habsent => hnone ⟨hworkload, habsent⟩
    have henabled : ∀ key, ctx.modes.isEnabled key = true → key ∈ (Registry.ofList modes).keys :=
      fun key hkey => (hsame key).mp (EnabledModes.mem_keys_of_isEnabled hkey)
    exact ⟨(List.perm_ext_iff_of_nodup hflags hnodup).mpr hsame, henabled,
      fun spec labels hrefused => henabled jobKey (Secrets.hookPatch_refused_iff.mp hrefused).2⟩
  · refine (List.perm_ext_iff_of_nodup hflags (hnodup.cons hstray.2)).mpr fun key => ?_
    have hworkload : keys.value pod.annotations Annotations.workload = Annotations.workloadJob :=
      hstray.1
    rw [hmem key, List.mem_cons, and_iff_left hworkload, or_comm]
    exact Iff.rfl
  · exact isEnabled_job_of_stray h hstray
  · exact Secrets.hookPatch_refused_iff.mpr ⟨hrequested, isEnabled_job_of_stray h hstray⟩

end Context

/-! ### A small pod -/

namespace Sample

/-- The labels and annotations of a job that requests the start hook. -/
def hookedJob : PodLabels where
  labels := [("app", "shop"), ("service", "cart")]
  annotations := [("secrets-hook", "true"), ("workload", "job")]

end Sample

namespace Context

/-- An injector with the secrets mode alone enables the job mode for the small job, and
refuses the start hook to it. -/
theorem build_onlyRegistered_sample :
    ∃ ctx, build Sample.config (Injector.mk Sample.config (.ofList [Secrets.mode])).keys
        (.ofList [Secrets.mode]) [Sample.web] Sample.hookedJob = .ok ctx ∧
      (Registry.ofList [Secrets.mode]).keys = ["secrets"] ∧
      Dict.keys ctx.modes.flags = ["job", "secrets"] ∧
      ¬ OnlyRegistered (.ofList [Secrets.mode]) Sample.config
        (Injector.mk Sample.config (.ofList [Secrets.mode])).keys ctx := by
  have hbuilt : (build Sample.config (Injector.mk Sample.config (.ofList [Secrets.mode])).keys
      (.ofList [Secrets.mode]) [Sample.web] Sample.hookedJob).toOption.any (fun ctx =>
        Dict.keys ctx.modes.flags = ["job", "secrets"]) = true := by decide +kernel
  obtain ⟨ctx, hctx, hflags⟩ := exists_of_any hbuilt
  obtain ⟨-, honly, -⟩ := build_onlyRegistered_iff _ _ _ _ _ ctx hctx
  refine ⟨ctx, hctx, rfl, by simpa using hflags, fun h => honly.mp h ⟨rfl, ?_⟩⟩
  show "job" ∉ ["secrets"]
  decide

end Context

end SidecarInjection
