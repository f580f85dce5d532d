import SidecarInjection.Proofs.Context.Coherence
import SidecarInjection.Proofs.Mode.Request

/-!
# `SidecarInjection.Proofs.Context.Dependent`: modes that need the default mode

A mode may declare that it brings the default mode with it when it is requested alone, as the
job mode does, which is of no use without another one. Whether a mode is requested alone is
told by the number of entries in the request, whatever they are. So a second entry that names
no mode, or the same mode once more, leaves the mode without the default one. A job workload
enables the job mode next to the requested modes, also where these are none.

* `Registry.resolve_exactly_iff`: the requests that leave a dependent mode alone.
* `Context.requestedModes_exactly_job_iff`: the annotations that leave the job mode alone.
* `Context.dependent_alone_iff`: both, for every registry and every context.
-/

set_option autoImplicit false

namespace SidecarInjection

open Outcome

namespace Registry

/-- A dependent mode is enabled alone by the requests of several entries that name it and no
other registered mode. -/
theorem resolve_exactly_iff {r : Registry} {default requested : String} {mode : Mode}
    (hdefault : r.defaultMode? = some default) (hmode : r.get? mode.key = some mode)
    (hdependent : mode.enablesDefault = true) (hother : mode.key ≠ default) :
    (r.resolve requested).Exactly [mode.key] ↔
      2 ≤ (requestedNames requested).length ∧ mode.key ∈ requestedNames requested ∧
        ∀ name ∈ requestedNames requested, name ∈ r.keys → name = mode.key := by
  have hdefaultKey : ∀ {key}, r.defaultMode? = some key ↔ key = default := by
    intro key
    rw [hdefault, Option.some.injEq, eq_comm]
  simp only [EnabledModes.Exactly, List.mem_singleton, isEnabled_resolve_iff, hdefaultKey]
  constructor
  · intro h
    rcases (h mode.key).mpr rfl with ⟨-, hkey⟩ | ⟨hnames, hmem, -⟩ | ⟨_, -, -, -, hkey⟩
    · exact absurd hkey hother
    · refine ⟨?_, hmem, fun name hname hknown => (h name).mp (.inr (.inl ⟨hnames, hname, hknown⟩))⟩
      -- A single entry would be the mode itself, and bring the default mode with it.
      by_contra hshort
      have hone : requestedNames requested = [mode.key] := by
        obtain ⟨name, hname⟩ := List.length_eq_one_iff.mp
          (show (requestedNames requested).length = 1 by
            have := List.length_pos_of_mem hmem
            omega)
        rw [hname] at hmem ⊢
        rw [List.mem_singleton.mp hmem]
      have hblank : mode.key ≠ "" := fun hblank => hnames (hone.trans (by rw [hblank]))
      have hbrought : default = mode.key := (h default).mp
        (.inr (.inr ⟨mode.key, hone, hblank, ⟨mode, hmode, hdependent⟩, rfl⟩))
      exact hother hbrought.symm
    · exact absurd hkey hother
  · rintro ⟨hlength, hmem, honly⟩ key
    have hseveral : ∀ name, requestedNames requested ≠ [name] := by
      intro name hone
      rw [hone] at hlength
      exact absurd hlength (by simp)
    have hknown : mode.key ∈ r.keys := mem_keys_iff_get?.mpr ⟨mode, hmode⟩
    constructor
    · rintro (⟨hone, -⟩ | ⟨-, hname, hregistered⟩ | ⟨name, hone, -⟩)
      · exact absurd hone (hseveral "")
      · exact honly key hname hregistered
      · exact absurd hone (hseveral name)
    · rintro rfl
      exact .inr (.inl ⟨hseveral "", hmem, hknown⟩)

/-- The keys of the built-in modes. -/
theorem keys_builtin : builtin.keys = ["secrets", "proxy", "job"] := rfl

/-- Of the built-in modes the secrets mode is the default. -/
theorem defaultMode?_builtin : builtin.defaultMode? = some "secrets" := rfl

/-- Of the built-in modes, the job mode brings the default mode with it. -/
theorem brings_builtin_iff {name : String} : builtin.Brings name ↔ name = "job" := by
  constructor
  · rintro ⟨mode, hmode, hbrings⟩
    have hkey := key_eq_of_get? hmode
    have hmem : mode ∈ [Secrets.mode, Proxy.mode, Job.mode] := List.mem_of_find?_eq_some hmode
    -- What is found is one of three modes, and only the last one needs the default mode.
    simp only [List.mem_cons, List.not_mem_nil, or_false] at hmem
    rcases hmem with rfl | rfl | rfl
    · cases hbrings
    · cases hbrings
    · exact hkey.symm
  · rintro rfl
    exact ⟨Job.mode, rfl, rfl⟩

end Registry

namespace Context

open Registry (requestedNames)

/-- A mode is enabled by the annotation for modes, and the job mode also by the annotation for
workloads. The second way does not look at the registry. -/
theorem isEnabled_requestedModes_iff {registry : Registry} {keys : AnnotationKeys}
    {annotations : Dict String} {key : String} :
    (requestedModes registry keys annotations).isEnabled key = true ↔
      (key = "job" ∧ keys.value annotations Annotations.workload = "job") ∨
        (registry.resolve (keys.value annotations Annotations.mode)).isEnabled key = true := by
  unfold requestedModes
  dsimp only
  show _ ↔
    (key = jobKey ∧ keys.value annotations Annotations.workload = Annotations.workloadJob) ∨ _
  split
  · rename_i hworkload
    rw [EnabledModes.isEnabled_enable, and_iff_left hworkload]
  · rename_i hworkload
    rw [or_iff_right fun h => hworkload h.2]

/-- The annotations enable the job mode alone when they name it in either way, name no other
built-in mode, and do not request it by its name alone or by a blank request. -/
theorem requestedModes_exactly_job_iff {keys : AnnotationKeys} {annotations : Dict String}
    {names : List String}
    (hnames : requestedNames (keys.value annotations Annotations.mode) = names) :
    (requestedModes .builtin keys annotations).Exactly ["job"] ↔
      names ≠ [""] ∧ names ≠ ["job"] ∧ "secrets" ∉ names ∧ "proxy" ∉ names ∧
        ("job" ∈ names ∨ keys.value annotations Annotations.workload = "job") := by
  simp only [EnabledModes.Exactly, List.mem_singleton, isEnabled_requestedModes_iff,
    Registry.isEnabled_resolve_iff, hnames, Registry.defaultMode?_builtin, Option.some.injEq,
    Registry.brings_builtin_iff, Registry.keys_builtin]
  constructor
  · intro h
    -- Neither of the other two modes is enabled.
    have hsecrets := mt (h "secrets").mp (by decide)
    have hproxy := mt (h "proxy").mp (by decide)
    have hblank : names ≠ [""] := fun hblank => hsecrets (.inr (.inl ⟨hblank, rfl⟩))
    refine ⟨hblank, fun hjob => ?_, fun hmem => ?_, fun hmem => ?_, ?_⟩
    · exact hsecrets (.inr (.inr (.inr ⟨"job", hjob, by decide, rfl, rfl⟩)))
    · exact hsecrets (.inr (.inr (.inl ⟨hblank, hmem, by simp⟩)))
    · exact hproxy (.inr (.inr (.inl ⟨hblank, hmem, by simp⟩)))
    · rcases (h "job").mpr rfl with ⟨-, hworkload⟩ | ⟨-, hkey⟩ | ⟨-, hmem, -⟩ | ⟨_, -, -, -, hkey⟩
      · exact .inr hworkload
      · exact absurd hkey (by decide)
      · exact .inl hmem
      · exact absurd hkey (by decide)
  · rintro ⟨hblank, hone, hsecrets, hproxy, hjob⟩ key
    constructor
    · rintro (⟨hkey, -⟩ | ⟨hunit, -⟩ | ⟨-, hmem, hknown⟩ | ⟨name, hunit, -, hname, -⟩)
      · exact hkey
      · exact absurd hunit hblank
      · simp only [List.mem_cons, List.not_mem_nil, or_false] at hknown
        rcases hknown with rfl | rfl | rfl
        · exact absurd hmem hsecrets
        · exact absurd hmem hproxy
        · rfl
      · exact absurd (hname ▸ hunit) hone
    · rintro rfl
      rcases hjob with hmem | hworkload
      · exact .inr (.inr (.inl ⟨hblank, hmem, by simp⟩))
      · exact .inl ⟨rfl, hworkload⟩

/-- A mode that depends on the default mode `d` of a registry is enabled alone exactly by the
requests of two or more entries that name it and no other registered mode. The modes of a
context are exactly the job mode if and only if the annotations name it, in the request or as
the workload, the request is neither blank nor the single entry `job`, and it names neither of
the other two built-in modes. -/
theorem dependent_alone_iff (requested : String) :
    (∀ (modes : List Mode) (d : String) (mode : Mode),
      (Registry.ofList modes).defaultMode? = some d → mode ∈ (Registry.ofList modes).modes →
        mode.enablesDefault = true → mode.key ≠ d →
          (((Registry.ofList modes).resolve requested).Exactly [mode.key] ↔
            2 ≤ (requestedNames requested).length ∧ mode.key ∈ requestedNames requested ∧
              ∀ name ∈ requestedNames requested, name ∈ (Registry.ofList modes).keys →
                name = mode.key)) ∧
    ∀ (config : Config) (keys : AnnotationKeys) (containers : List Container) (pod : PodLabels)
      (ctx : Context), build config keys .builtin containers pod = .ok ctx →
        keys.value pod.annotations Annotations.mode = requested →
          (ctx.modes.Exactly ["job"] ↔
            requestedNames requested ≠ [""] ∧ requestedNames requested ≠ ["job"] ∧
              "secrets" ∉ requestedNames requested ∧ "proxy" ∉ requestedNames requested ∧
              ("job" ∈ requestedNames requested ∨
                keys.value pod.annotations Annotations.workload = "job")) := by
  refine ⟨fun modes d mode hdefault hmode hdependent hother => ?_,
    fun config keys containers pod ctx h hrequested => ?_⟩
  · have hfound := Registry.get?_key_of_mem (Registry.nodup_keys_ofList modes) hmode
    exact Registry.resolve_exactly_iff hdefault hfound hdependent hother
  · rw [(build_eq_ok_iff.mp h).1]
    exact requestedModes_exactly_job_iff (congrArg requestedNames hrequested)

end Context

/-! ### A small job -/

namespace Sample

/-- The labels and annotations of a job that requests a mode that is not there. -/
def unknownMode : PodLabels where
  labels := [("app", "shop"), ("service", "cart")]
  annotations := [("mode", "bogus"), ("workload", "job")]

end Sample

namespace Context

open Registry (requestedNames)

/-- The request `job,` enables the job mode alone, and so do the annotations of the small job. -/
theorem dependent_alone_sample :
    (Registry.builtin.defaultMode? = some "secrets" ∧ Job.mode ∈ Registry.builtin.modes ∧
      Job.mode.enablesDefault = true ∧ Job.mode.key ≠ "secrets" ∧
      (Registry.builtin.resolve "job,").Exactly [Job.mode.key]) ∧
    ∃ ctx, build Sample.config (Injector.mk Sample.config .builtin).keys .builtin [Sample.web]
        Sample.unknownMode = .ok ctx ∧
      (Injector.mk Sample.config .builtin).keys.value Sample.unknownMode.annotations
        Annotations.mode = "bogus" ∧
      ctx.modes.Exactly ["job"] := by
  have hmem : Job.mode ∈ Registry.builtin.modes := by simp [Registry.builtin_modes]
  have hbuilt : (build Sample.config (Injector.mk Sample.config .builtin).keys .builtin
      [Sample.web] Sample.unknownMode).toBool = true := by decide +kernel
  have hrequested : (Injector.mk Sample.config .builtin).keys.value
      Sample.unknownMode.annotations Annotations.mode = "bogus" := by decide +kernel
  obtain ⟨ctx, hctx⟩ := exists_of_toBool hbuilt
  refine ⟨⟨rfl, hmem, rfl, by decide, ?_⟩, ctx, hctx, hrequested, ?_⟩
  -- The comma makes two names of one, so the mode does not count as requested alone.
  · refine ((dependent_alone_iff "job,").1 builtinModes "secrets" Job.mode rfl hmem rfl
      (by decide)).mpr ?_
    decide +kernel
  -- An unknown name enables nothing, and the workload adds the job mode without its default.
  · refine ((dependent_alone_iff "bogus").2 _ _ _ _ ctx hctx hrequested).mpr ?_
    decide +kernel

end Context

end SidecarInjection
