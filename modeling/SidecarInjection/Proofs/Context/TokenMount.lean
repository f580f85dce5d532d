import SidecarInjection.Proofs.Context.Coherence
import SidecarInjection.Proofs.Injection.Independence
import SidecarInjection.Proofs.Text.Suffix

/-!
# `SidecarInjection.Proofs.Context.TokenMount`: the mount that a token path names

A pod names the token of the agent by the path of the token's file, the directory of a mount
followed by `/token`. The directory is found by cutting off this ending as often as it is
there. So a directory that ends in `/token` itself is cut too far, and the volume of another
mount is taken, or none is found.

* `Context.build_eq_without`: an accepted pod without the annotation tells what is worked out
  with it, up to the volume of the agent's token.
* `Context.tokenVolume_eq_ok_iff`: the volume of a token is that of the first mount.
* `Context.tokenMount_found_iff`: the mount that the annotation names is found, unless its
  directory ends in `/token`.
-/

set_option autoImplicit false

namespace SidecarInjection

open Outcome

/-! ### A pod without an annotation -/

/-- Two keys stay different under one prefix. -/
theorem Annotations.qualify_injective (qualifier : String) :
    Function.Injective (qualify qualifier) := by
  intro a b h
  unfold qualify at h
  split at h
  · exact h
  · exact String.append_right_inj _ |>.mp h

namespace PodLabels

/-- The pod with an annotation taken off. -/
def without (pod : PodLabels) (keys : AnnotationKeys) (key : String) : PodLabels :=
  { pod with annotations := Dict.erase pod.annotations (keys.qualified key) }

/-- Taking off an annotation leaves the others alone. -/
theorem agree_without {config : Config} {keys : AnnotationKeys} {read : List String}
    {key : String} (h : key ∉ read) (pod : PodLabels) :
    Agree config keys read (pod.without keys key) pod where
  label _ _ := rfl
  annotation other hother := by
    refine Dict.get?_erase_of_ne _ fun heq => h ?_
    exact Annotations.qualify_injective _ heq ▸ hother

end PodLabels

namespace Context

variable {config : Config} {keys : AnnotationKeys} {pod : PodLabels}
  {containers : List Container} {ctx : Context}

/-- Pods that agree on the annotations of the built-in modes have the same configurations worked
out. -/
theorem computeConfigs_builtin_congr {a b : PodLabels}
    (h : PodLabels.Agree config keys (Annotations.auth :: Secrets.annotationKeys ++ [Proxy.portKey])
      a b) (modes : EnabledModes) :
    computeConfigs config keys a (Registry.builtin.enabledModes modes) [] =
      computeConfigs config keys b (Registry.builtin.enabledModes modes) [] := by
  rw [computeConfigs_builtin, computeConfigs_builtin]
  unfold secretsConfig proxyConfig
  rw [Secrets.compute_congr (h.mono (List.subset_append_left _ _)),
    Proxy.compute_congr (h.mono (List.subset_append_right _ _))]

/-- What is worked out for a pod that names a token, if it is accepted without the annotation. -/
theorem build_eq_without {path : String}
    (hvalue : keys.value pod.annotations Annotations.saToken = path) (hpath : path ≠ "")
    (h : build config keys .builtin containers (pod.without keys Annotations.saToken) = .ok ctx) :
    build config keys .builtin containers pod =
      (fun volume => { ctx with agentTokenVolume := volume }) <$>
        tokenVolume containers (Text.dropSuffixes "/token" path) := by
  have hagree : ∀ {read : List String}, Annotations.saToken ∉ read →
      PodLabels.Agree config keys read (pod.without keys Annotations.saToken) pod :=
    fun hread => PodLabels.agree_without hread pod
  obtain ⟨hmodes, hmethod, hrole, hpodVolume, -, hconfigs⟩ := build_eq_ok_iff.mp h
  -- No step but the one for the token of the agent reads the annotation.
  rw [requestedModes_congr (hagree (by decide))] at hmodes
  rw [requestedMethod_congr (hagree (by decide))] at hmethod
  rw [requestedRole_congr (hagree (by decide))] at hrole
  rw [computeConfigs_builtin_congr (hagree (by decide)), hmodes] at hconfigs
  have hagentVolume : requestedTokenVolume keys pod.annotations containers ctx.podTokenVolume =
      tokenVolume containers (Text.dropSuffixes "/token" path) := by
    unfold requestedTokenVolume
    rw [hvalue]
    exact if_neg (by simpa using hpath)
  unfold build
  dsimp only
  rw [hmethod, ok_bind, hrole, ok_bind, hpodVolume, ok_bind, hagentVolume, hconfigs, ← hmodes]
  cases tokenVolume containers (Text.dropSuffixes "/token" path) <;> rfl

/-! ### First mounts -/

/-- The volume of a token is that of the first mount at its path. -/
theorem tokenVolume_eq_ok_iff {path volume : String} :
    tokenVolume containers path = .ok volume ↔ FirstMount containers path volume := by
  refine ⟨firstMount_of_tokenVolume, ?_⟩
  rintro ⟨before, m, after, hmounts, rfl, hpath, hbefore⟩
  have hfind : (containers.flatMap Container.mounts).find? (fun m => m.mountPath = path) = some m :=
    List.find?_eq_some_iff_append.mpr ⟨by simpa using hpath, before, after, hmounts,
      fun other hother => by simpa using hbefore other hother⟩
  unfold tokenVolume
  rw [hfind]

/-- There is a first mount at every path that is mounted. -/
theorem exists_firstMount {path : String}
    (h : ∃ c ∈ containers, ∃ m ∈ c.mounts, m.mountPath = path) :
    ∃ volume, FirstMount containers path volume := by
  obtain ⟨c, hc, m, hm, hpath⟩ := h
  have hmem : m ∈ containers.flatMap Container.mounts := List.mem_flatMap.mpr ⟨c, hc, hm⟩
  obtain ⟨first, hfirst⟩ : ∃ first, (containers.flatMap Container.mounts).find?
      (fun m => m.mountPath = path) = some first :=
    Option.isSome_iff_exists.mp (List.find?_isSome.mpr ⟨m, hmem, by simpa using hpath⟩)
  refine ⟨first.name, tokenVolume_eq_ok_iff.mp ?_⟩
  unfold tokenVolume
  rw [hfirst]

/-- If nothing is mounted at a path, the error names the path. -/
theorem tokenVolume_eq_error {path : String}
    (h : ∀ c ∈ containers, ∀ m ∈ c.mounts, m.mountPath ≠ path) :
    tokenVolume containers path = .error (.missingVolumeMount path) := by
  have hfind : (containers.flatMap Container.mounts).find? (fun m => m.mountPath = path) =
      none := by
    refine List.find?_eq_none.mpr fun m hm => ?_
    obtain ⟨c, hc, hm⟩ := List.mem_flatMap.mp hm
    simpa using h c hc m hm
  rw [tokenVolume, hfind]

/-! ### The mount that is named -/

/-- A pod is accepted, and the token of its agent is on the volume of the first mount at a path. -/
def TokenFound (config : Config) (keys : AnnotationKeys) (containers : List Container)
    (pod : PodLabels) (path : String) : Prop :=
  ∃ ctx, build config keys .builtin containers pod = .ok ctx ∧
    FirstMount containers path ctx.agentTokenVolume

/-- When the volume that is looked for is at another path, the token is found where the first
mounts at both paths are of one volume. -/
theorem tokenFound_iff {base directory : String}
    (h : build config keys .builtin containers pod =
      (fun volume => { ctx with agentTokenVolume := volume }) <$> tokenVolume containers base) :
    TokenFound config keys containers pod directory ↔
      ∃ volume, FirstMount containers directory volume ∧ FirstMount containers base volume := by
  unfold TokenFound
  rw [h]
  constructor
  · rintro ⟨found, hok, hfirst⟩
    obtain ⟨volume, hvolume, rfl⟩ := map_eq_ok.mp hok
    exact ⟨volume, hfirst, tokenVolume_eq_ok_iff.mp hvolume⟩
  · rintro ⟨volume, hfirst, hbase⟩
    exact ⟨_, map_eq_ok.mpr ⟨volume, tokenVolume_eq_ok_iff.mpr hbase, rfl⟩, hfirst⟩

/-- A pod names a mount by its directory and `/token`, and is accepted without this annotation.
The mount that is looked for is the one at `base`, the directory without the `/token` endings
of its own. So the named mount is found if the directory has no such ending. If it has one, the
named mount is found only where its volume is also first mounted at `base`, and nothing mounted
there is an error. -/
theorem tokenMount_found_iff (config : Config) (keys : AnnotationKeys)
    (containers : List Container) (pod : PodLabels) (ctx : Context) (directory : String)
    (hmounted : ∃ c ∈ containers, ∃ m ∈ c.mounts, m.mountPath = directory)
    (hvalue : keys.value pod.annotations Annotations.saToken = directory ++ "/token")
    (h : build config keys .builtin containers (pod.without keys Annotations.saToken) = .ok ctx) :
    (¬ "/token".toList <:+ directory.toList →
      TokenFound config keys containers pod directory) ∧
    ∃ base times, directory.toList = base.toList ++ Text.copies times "/token".toList ∧
      ¬ "/token".toList <:+ base.toList ∧
      (TokenFound config keys containers pod directory ↔
        ∃ volume, FirstMount containers directory volume ∧ FirstMount containers base volume) ∧
      ((∀ c ∈ containers, ∀ m ∈ c.mounts, m.mountPath ≠ base) →
        build config keys .builtin containers pod = .error (.missingVolumeMount base)) ∧
      ∀ volume, FirstMount containers base volume →
        build config keys .builtin containers pod = .ok { ctx with agentTokenVolume := volume } := by
  have hpath : directory ++ "/token" ≠ "" := by
    intro hempty
    have hlength := congrArg (fun s => s.toList.length) hempty
    simp [String.toList_append] at hlength
  have hbuilt := build_eq_without hvalue hpath h
  have hsuffix : "/token" ≠ "" := by decide
  rw [Text.dropSuffixes_append hsuffix] at hbuilt
  obtain ⟨⟨times, hcopies⟩, hend⟩ := Text.exists_dropSuffixes hsuffix directory
  refine ⟨fun hplain => ?_, _, times, hcopies, hend, tokenFound_iff hbuilt, fun hnone => ?_,
    fun volume hfirst => ?_⟩
  · -- Nothing is cut off, so the directory is looked for.
    obtain ⟨volume, hfirst⟩ := exists_firstMount hmounted
    rw [Text.dropSuffixes_of_not_suffix hsuffix hplain] at hbuilt
    exact (tokenFound_iff hbuilt).mpr ⟨volume, hfirst, hfirst⟩
  · rw [hbuilt, tokenVolume_eq_error hnone]
    rfl
  · rw [hbuilt, tokenVolume_eq_ok_iff.mpr hfirst, map_ok]

end Context

/-! ### A small pod -/

namespace Sample

/-- An application that mounts a token of its own in a directory named `token`. -/
def tokenWeb : Container :=
  ⟨"web", none, none, none, none,
    some [.plain "token" podTokenMountPath, .plain "custom" "/run/agent/token"], .empty _⟩

/-- The labels and annotations of a pod that names this token. -/
def tokenPod : PodLabels where
  labels := [("app", "shop"), ("service", "cart")]
  annotations := [("inject", "true"), ("sa-token", "/run/agent/token/token")]

end Sample

namespace Context

/-- The token in a directory named `token` is not found, although it is mounted there and the
pod is accepted without the annotation. -/
theorem tokenMount_missed :
    (∃ c ∈ [Sample.tokenWeb], ∃ m ∈ c.mounts, m.mountPath = "/run/agent/token") ∧
      (Injector.mk Sample.config .builtin).keys.value Sample.tokenPod.annotations
        Annotations.saToken = "/run/agent/token" ++ "/token" ∧
      (∃ ctx, build Sample.config (Injector.mk Sample.config .builtin).keys .builtin
        [Sample.tokenWeb] (Sample.tokenPod.without (Injector.mk Sample.config .builtin).keys
          Annotations.saToken) = .ok ctx) ∧
      ¬ TokenFound Sample.config (Injector.mk Sample.config .builtin).keys [Sample.tokenWeb]
        Sample.tokenPod "/run/agent/token" := by
  have hmounted : ∃ c ∈ [Sample.tokenWeb], ∃ m ∈ c.mounts, m.mountPath = "/run/agent/token" :=
    ⟨Sample.tokenWeb, by simp, .plain "custom" "/run/agent/token",
      by simp [Sample.tokenWeb, Container.mounts], rfl⟩
  have hvalue : (Injector.mk Sample.config .builtin).keys.value Sample.tokenPod.annotations
      Annotations.saToken = "/run/agent/token" ++ "/token" := by decide +kernel
  have hbuilt : (build Sample.config (Injector.mk Sample.config .builtin).keys .builtin
      [Sample.tokenWeb] (Sample.tokenPod.without (Injector.mk Sample.config .builtin).keys
        Annotations.saToken)).toBool = true := by decide +kernel
  obtain ⟨ctx, hctx⟩ := exists_of_toBool hbuilt
  obtain ⟨-, base, times, -, -, hfound, -, hvolume⟩ :=
    tokenMount_found_iff _ _ _ _ ctx "/run/agent/token" hmounted hvalue hctx
  refine ⟨hmounted, hvalue, ⟨ctx, hctx⟩, fun hclaimed => ?_⟩
  -- A volume that is found at the base would make the pod accepted, and it is refused.
  obtain ⟨volume, -, hbase⟩ := hfound.mp hclaimed
  have hrefused : (build Sample.config (Injector.mk Sample.config .builtin).keys .builtin
      [Sample.tokenWeb] Sample.tokenPod).toBool = false := by decide +kernel
  rw [hvolume volume hbase] at hrefused
  cases hrefused

end Context

end SidecarInjection
