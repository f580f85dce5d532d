import SidecarInjection.Proofs.Json.Pointer
import SidecarInjection.Proofs.Manifest.Idempotence

/-!
# `SidecarInjection.Proofs.Manifest.Frame`: what injection leaves of a manifest

Injection writes to one place of a document, that of its pod or pod template, and
all that stands elsewhere stays. A target that the policy declines is written back
with metadata put in, so it stays as it is only if it had metadata before. A
target that is patched always had some, since a pod without annotations is
declined. None of this depends on the modes of the injector.

* `Manifest.injectTarget_eq_ok`: the two ways in which a target is injected.
* `Manifest.hasMetadata_of_mutate`: a target that is patched has metadata.
* `Manifest.onlyAt_put`: what stands off the place of the pod stays.
* `Manifest.injectDocument_frame`: the effect on the whole document.
-/

set_option autoImplicit false

namespace SidecarInjection.Manifest

open Outcome
open Schema (Codec)

/-! ### Targets and their metadata -/

/-- Whether an object says something about its metadata. -/
def HasMetadata (target : Json) : Prop :=
  ∃ m, target.member? "metadata" = some m ∧ m ≠ .null

/-- A target has metadata after it was given some. -/
theorem hasMetadata_withMetadata (ms : Dict Json) : HasMetadata (withMetadata (.obj ms)) := by
  unfold withMetadata
  -- Metadata that is missing or null is replaced by an empty object; any other value stays.
  cases hget : Dict.get? ms "metadata" with
  | none =>
    simp only [hget]
    exact ⟨.obj [], Dict.get?_insert_self _ _ _, by simp⟩
  | some m =>
    cases m with
    | null =>
      simp only [hget]
      exact ⟨.obj [], Dict.get?_insert_self _ _ _, by simp⟩
    | _ =>
      simp only [hget]
      exact ⟨_, hget, by simp⟩

/-- Metadata is put in just where there was none. -/
theorem withMetadata_eq_self_iff (ms : Dict Json) :
    withMetadata (.obj ms) = .obj ms ↔ HasMetadata (.obj ms) := by
  constructor
  · intro h
    rw [← h]
    exact hasMetadata_withMetadata ms
  · rintro ⟨m, hget, hm⟩
    -- With metadata there is nothing to write, and the other case of the writer contradicts it.
    rcases withMetadata_obj ms with hsame | ⟨-, hnone | hnull⟩
    · exact hsame
    · rw [Json.member?, hnone] at hget
      cases hget
    · rw [Json.member?, hnull] at hget
      exact absurd (Option.some.inj hget).symm hm

/-- Empty metadata is read from an empty object. -/
theorem metadata_eq_empty {pointer : Pointer} {ms : Dict Json} {pod : Pod}
    (h : Reads pointer ms pod) (hget : Dict.get? ms "metadata" = some (.obj [])) :
    pod.metadata = .empty := by
  by_contra hne
  obtain ⟨j, hj, hdenotes⟩ := (reading pointer).exists_metadata h hne
  rw [hget] at hj
  cases hj
  -- The written form of empty metadata is the empty object too.
  have hempty : Schema.objectMeta.Denotes ObjectMeta.toJson .empty (.obj []) :=
    Codec.denotes_write ObjectMeta.codec Schema.regular_objectMeta .empty
  exact hne (Codec.eq_of_denotes ObjectMeta.codec hdenotes hempty)

variable {i : Injector}

/-- A pod that is patched was read from an object with metadata. -/
theorem hasMetadata_of_mutate {pointer : Pointer} {namespaceName : Option String}
    {ms : Dict Json} {pod : Pod} {patch : Patch}
    (hpod : decodePod pointer (withMetadata (.obj ms)) = .ok pod)
    (h : i.mutate (inheritNamespace namespaceName pod) = .ok (some patch)) :
    HasMetadata (.obj ms) := by
  rw [← withMetadata_eq_self_iff]
  rcases withMetadata_obj ms with hsame | ⟨hput, -⟩
  · exact hsame
  · rw [hput] at hpod
    have hempty : pod.metadata = .empty := metadata_eq_empty hpod (Dict.get?_insert_self _ _ _)
    -- The metadata that is put in has no annotations, and no namespace adds any.
    have hnone : (inheritNamespace namespaceName pod).metadata.annotations = none := by
      rw [(inheritNamespace_parts namespaceName pod).2.2, hempty]
      rfl
    exact absurd hnone (Injector.annotations_ne_none (Injector.mutate_eq_some h).1)

/-- A target is injected when it denotes a pod that the policy declines, or one with a
patch that fits the target. -/
theorem injectTarget_eq_ok {pointer : Pointer} {namespaceName : Option String} {ms : Dict Json}
    {new : Json} (h : injectTarget i pointer namespaceName (.obj ms) = .ok new) :
    ∃ pod, decodePod pointer (withMetadata (.obj ms)) = .ok pod ∧
      ((i.mutate (inheritNamespace namespaceName pod) = .ok none ∧
          new = withMetadata (.obj ms)) ∨
        ∃ patch, i.mutate (inheritNamespace namespaceName pod) = .ok (some patch) ∧
          HasMetadata (.obj ms) ∧ patch.apply (.obj ms) = .ok new) := by
  obtain ⟨pod, hpod, h⟩ := bind_eq_ok.mp h
  obtain ⟨answer, hanswer, h⟩ := bind_eq_ok.mp h
  refine ⟨pod, hpod, ?_⟩
  cases answer with
  | none =>
    cases h
    exact .inl ⟨hanswer, rfl⟩
  | some patch =>
    -- A pod that asks for a patch has annotations, so the target had metadata and none was written.
    have hmetadata := hasMetadata_of_mutate hpod hanswer
    have happly := mapError_eq_ok.mp h
    rw [(withMetadata_eq_self_iff ms).mpr hmetadata] at happly
    exact .inr ⟨patch, hanswer, hmetadata, happly⟩

/-! ### Documents -/

/-- The places of pods and pod templates. -/
theorem podPointer?_eq_some {kind : String} {pointer : Pointer}
    (h : podPointer? kind = some pointer) :
    pointer = [] ∨ pointer = ["spec", "template"] ∨
      pointer = ["spec", "jobTemplate", "spec", "template"] := by
  unfold podPointer? at h
  split at h
  · exact .inl (Option.some.inj h).symm
  · split at h
    · exact .inr (.inl (Option.some.inj h).symm)
    · split at h
      · exact .inr (.inr (Option.some.inj h).symm)
      · cases h

/-- The tokens on the way to a pod are names, and no positions. -/
theorem index?_of_podPointer? {kind : String} {pointer : Pointer}
    (h : podPointer? kind = some pointer) : ∀ token ∈ pointer, Pointer.index? token = none := by
  rcases podPointer?_eq_some h with rfl | rfl | rfl <;> decide +kernel

/-- A document that holds a value at a pointer, and is like another one at every pointer
that is neither above nor below. -/
structure OnlyAt (pointer : Pointer) (value doc new : Json) : Prop where
  get?_eq : Pointer.get? pointer new = some value
  get?_off : ∀ other, ¬ pointer <+: other → ¬ other <+: pointer →
    Pointer.get? other new = Pointer.get? other doc

/-- A value put in place of a pod changes the document there and nowhere else. -/
theorem onlyAt_put {kind : String} {pointer : Pointer} (h : podPointer? kind = some pointer)
    {doc old : Json} (hget : Pointer.get? pointer doc = some old) (value : Json) :
    OnlyAt pointer value doc (put pointer value doc) := by
  obtain ⟨hchanged, hvalue⟩ := modify?_put hget value
  exact ⟨hvalue, fun _ hbelow habove =>
    Pointer.get?_modify?_of_not_prefix hchanged (index?_of_podPointer? h) hbelow habove⟩

/-- An injected document of another kind is the submitted one. In a document that holds
a pod, at most the target of the injection changes. If the policy declines the pod, the
target gets metadata when it has none, and the document stays as it is exactly when the
target has metadata. If there is a patch for the pod, the target has metadata, and the
patch is applied to the target as it was submitted. -/
theorem injectDocument_frame (i : Injector) (doc new : Json)
    (h : injectDocument i doc = .ok new) :
    (podPointer? ((doc.memberText? "kind").getD "") = none → new = doc) ∧
      ∀ pointer, podPointer? ((doc.memberText? "kind").getD "") = some pointer →
        ∃ target pod, Pointer.get? pointer doc = some target ∧
          decodePod pointer (withMetadata target) = .ok pod ∧
          ((i.mutate (inheritNamespace (metadataText? doc "namespace") pod) = .ok none ∧
              new = put pointer (withMetadata target) doc ∧
              OnlyAt pointer (withMetadata target) doc new ∧
              (new = doc ↔ HasMetadata target)) ∨
            ∃ patch value,
              i.mutate (inheritNamespace (metadataText? doc "namespace") pod) =
                .ok (some patch) ∧
              HasMetadata target ∧ patch.apply target = .ok value ∧
              new = put pointer value doc ∧ OnlyAt pointer value doc new) := by
  rcases injectDocument_eq_ok h with
    ⟨hother, hsame⟩ | ⟨place, ms, value, hplace, hget, hvalue, hput⟩
  · refine ⟨fun _ => hsame, fun pointer hpointer => ?_⟩
    rw [hother] at hpointer
    cases hpointer
  · refine ⟨fun hother => ?_, fun pointer hpointer => ?_⟩
    · rw [hother] at hplace
      cases hplace
    · obtain rfl : place = pointer := Option.some.inj (hplace.symm.trans hpointer)
      have honly : OnlyAt place value doc new := hput ▸ onlyAt_put hplace hget value
      obtain ⟨pod, hpod, ⟨hdeclined, rfl⟩ | ⟨patch, hpatch, hmetadata, happly⟩⟩ :=
        injectTarget_eq_ok hvalue
      · refine ⟨.obj ms, pod, hget, hpod, .inl ⟨hdeclined, hput, honly, ?_⟩⟩
        -- A value that changes nothing when it is put in stood there before.
        rw [← withMetadata_eq_self_iff, hput]
        exact ⟨fun hsame => eq_of_put_eq_self hget hsame, fun hsame => by rw [hsame, put_get? hget]⟩
      · exact ⟨.obj ms, pod, hget, hpod,
          .inr ⟨patch, value, hpatch, hmetadata, happly, hput, honly⟩⟩

/-- A workload whose pod template says nothing about its metadata. -/
def bareWorkload : Json :=
  .obj [("apiVersion", .str "apps/v1"), ("kind", .str "Deployment"),
    ("metadata", .obj [("name", .str "shop")]),
    ("spec", .obj [("template", .obj [("spec", .obj [("containers",
      .arr [.obj [("name", .str "web")]])])])])]

/-- The bare workload is declined, and yet it changes below its specification. The patch of
the sample pod is applied to the pod as it was submitted. -/
theorem injectDocument_frame_sample :
    (∃ new, injectDocument ⟨Sample.config, .builtin⟩ bareWorkload = .ok new ∧
      new ≠ bareWorkload ∧ Pointer.get? ["metadata", "name"] new = some (.str "shop")) ∧
    ∃ new, injectDocument ⟨Sample.config, .builtin⟩ sampleDocument = .ok new ∧
      ∃ patch : Patch, patch.apply sampleDocument = .ok new := by
  constructor
  · have hinjected : (injectDocument ⟨Sample.config, .builtin⟩ bareWorkload).toBool = true := by
      decide +kernel
    obtain ⟨new, hnew⟩ := exists_of_toBool hinjected
    have hframe := (injectDocument_frame ⟨Sample.config, .builtin⟩ bareWorkload new hnew).2
    obtain ⟨target, pod, htarget, -, hcases⟩ := hframe ["spec", "template"] rfl
    -- The template is found without metadata.
    have hbare : ¬ HasMetadata target := by
      cases htarget
      rintro ⟨m, hm, -⟩
      cases hm
    rcases hcases with ⟨-, -, honly, hsame⟩ | ⟨-, -, -, hmetadata, -⟩
    · exact ⟨new, hnew, fun heq => hbare (hsame.mp heq),
        honly.get?_off ["metadata", "name"] (by decide) (by decide)⟩
    · exact absurd hmetadata hbare
  · have hmarked : ((injectDocument ⟨Sample.config, .builtin⟩ sampleDocument).toOption.bind
        (Pointer.get? ["metadata", "annotations", "status"])).isSome = true := by decide +kernel
    have hunmarked : (Pointer.get? ["metadata", "annotations", "status"] sampleDocument).isSome =
        false := by decide +kernel
    have hinjected : (injectDocument ⟨Sample.config, .builtin⟩ sampleDocument).toBool = true := by
      decide +kernel
    obtain ⟨new, hnew⟩ := exists_of_toBool hinjected
    have hframe := (injectDocument_frame ⟨Sample.config, .builtin⟩ sampleDocument new hnew).2
    obtain ⟨target, pod, htarget, -, hcases⟩ := hframe [] rfl
    cases htarget
    rcases hcases with ⟨-, -, -, hsame⟩ | ⟨patch, value, -, -, happly, hput, -⟩
    · -- The pod has metadata, so it would have stayed as it is, without a mark.
      have hdeclined : new = sampleDocument := hsame.mpr ⟨_, rfl, by simp⟩
      rw [hnew, hdeclined] at hmarked
      exact absurd (hunmarked.symm.trans hmarked) (by decide)
    · exact ⟨new, hnew, patch, hput ▸ happly⟩

end SidecarInjection.Manifest
