import SidecarInjection.Proofs.Injection.Refinement

/-!
# `SidecarInjection.Proofs.Injection.Create`: the created patch

`Injector.createPatch` tries its edits on the written form of a pod. Here the
result of that run is identified, and the same is done for any object that the
pod is read from, be it a pod or a pod template.

* `Injector.run?_podEdits`: the run on an object that the pod is read from.
* `Injector.verify_edits`: trying the edits never fails.
* `Injector.apply_edits`: the run on the written form leads to the updated pod.
-/

set_option autoImplicit false

namespace SidecarInjection

open Outcome
open Schema (Codec)
open Fields.View (Sound)

/-! ### Objects that pods are read from -/

/-- A pod is read from the members of an object, and its parts from the members of
their names. -/
structure PodReading (Reads : Dict Json → Pod → Prop) : Prop where
  /-- The specification comes from a member. -/
  exists_spec : ∀ {ms pod spec}, Reads ms pod → pod.spec = some spec →
    ∃ j, Dict.get? ms "spec" = some j ∧ Schema.podSpec.Denotes PodSpec.toJson spec j
  /-- Metadata that says something comes from a member. -/
  exists_metadata : ∀ {ms pod}, Reads ms pod → pod.metadata ≠ .empty →
    ∃ j, Dict.get? ms "metadata" = some j ∧
      Schema.objectMeta.Denotes ObjectMeta.toJson pod.metadata j
  /-- Setting both members sets both parts. -/
  insert_parts : ∀ {ms pod spec metadata specJson metaJson}, Reads ms pod →
    Schema.podSpec.Denotes PodSpec.toJson spec specJson →
    Schema.objectMeta.Denotes ObjectMeta.toJson metadata metaJson →
    Reads (Dict.insert (Dict.insert ms "spec" specJson) "metadata" metaJson)
      { pod with metadata, spec := some spec }

/-- Pods are read from what denotes them. -/
theorem Pod.reading : PodReading fun ms pod => Schema.pod.Denotes Pod.toJson pod (.obj ms) where
  exists_spec h hs := exists_spec h hs
  exists_metadata h hm := exists_metadata h hm
  insert_parts h hs hm := denotes_insert_metadata (denotes_insert_spec h hs) hm

/-- Pods are made from what denotes a template. -/
theorem PodTemplate.reading : PodReading fun ms pod =>
    ∃ t : PodTemplate, Schema.podTemplateSpec.Denotes toJson t (.obj ms) ∧ t.pod = pod where
  exists_spec := by
    rintro ms _ spec ⟨t, h, rfl⟩ hs
    exact exists_spec h hs
  exists_metadata := by
    rintro ms _ ⟨t, h, rfl⟩ hm
    cases ht : t.metadata with
    | none =>
      -- The pod of a template without metadata has empty metadata.
      exact absurd (congrArg (fun m => m.getD .empty) ht) hm
    | some m =>
      have hpod : t.pod.metadata = m := congrArg (fun m => m.getD .empty) ht
      rw [hpod]
      exact exists_metadata h ht
  insert_parts := by
    rintro ms _ spec metadata specJson metaJson ⟨t, h, rfl⟩ hs hm
    exact ⟨⟨some metadata, some spec⟩, denotes_insert_metadata (denotes_insert_spec h hs) hm, rfl⟩

/-! ### A small injector -/

namespace Sample

/-- An agent that dynamic secrets ask for. -/
def agent : Container := ⟨"tvsi-vault-agent", none, none, none, none, none, .empty _⟩

/-- A configuration with the agent, a start hook and the volume of the secrets. -/
def config : Config where
  annotationQualifier := ""
  appLabel := "app"
  serviceLabel := "service"
  injection := ⟨[], [agent], [⟨"secrets", .empty _⟩]⟩
  proxyConfig := ""
  templateBlock := ""
  templateDefault := ""
  lifecycleHooks := ⟨some (.run (some ["ready", "<VSI_SECRETS_VOL_MOUNTPATH>"]))⟩

/-- An application that mounts the service account token. -/
def web : Container :=
  ⟨"web", none, none, none, none, some [.plain "token" podTokenMountPath], .empty _⟩

/-- A pod that asks for injection and for the start hook. -/
def pod : Pod where
  metadata := { ObjectMeta.empty with
    labels := some [("app", "shop"), ("service", "cart")]
    annotations := some [("inject", "true"), ("secrets-hook", "true")] }
  spec := some ⟨[web], none, none, .empty _⟩
  status := none

end Sample

namespace Injector

variable {i : Injector}

/-- The edits of a pod depend on the labels and annotations in its metadata alone. -/
theorem edits_congr {a b : ObjectMeta} (hlabels : a.labels = b.labels)
    (hannotations : a.annotations = b.annotations) (spec : PodSpec) :
    i.edits a spec = i.edits b spec := by
  unfold edits PodLabels.ofMetadata statusOperation
  rw [hlabels, hannotations]

/-- A specification that is accepted is the one of the pod, and has containers. -/
theorem specification_eq_ok {pod : Pod} {spec : PodSpec} (h : specification pod = .ok spec) :
    pod.spec = some spec ∧ spec.containers ≠ [] := by
  unfold specification at h
  split at h
  · cases h
  · rename_i s hs
    split at h
    · cases h
    · rename_i hne
      cases h
      exact ⟨hs, by simpa using hne⟩

/-- The updated pod is marked. -/
theorem metadata_inject {pod injected : Pod} (h : Effect.inject i pod = .ok injected) :
    injected.metadata = Effect.mark i pod.metadata := by
  obtain ⟨spec, -, h⟩ := bind_eq_ok.mp h
  obtain ⟨new, -, h⟩ := bind_eq_ok.mp h
  cases h
  rfl

/-- The edits of a pod, run on an object that the pod is read from, lead to an object
that the injected pod is read from. Only two members of the object change. The edits
may be those of the same pod in another namespace. -/
theorem run?_podEdits (hi : i.registry = .builtin) {Reads : Dict Json → Pod → Prop}
    (hreading : PodReading Reads) {pod named : Pod} {spec : PodSpec} {log : Patch}
    (hspecification : specification named = .ok spec) (h : i.edits named.metadata spec = .ok log)
    (hspec : named.spec = pod.spec) (hlabels : named.metadata.labels = pod.metadata.labels)
    (hannotations : named.metadata.annotations = pod.metadata.annotations) {ms : Dict Json}
    (hread : Reads ms pod) {metaJson : Json} (hget : Dict.get? ms "metadata" = some metaJson)
    (hmeta : Schema.objectMeta.Denotes ObjectMeta.toJson pod.metadata metaJson) :
    ∃ injected newSpec newMeta, Effect.inject i pod = .ok injected ∧
      Patch.run? log (.obj ms) =
        some (.obj (Dict.insert (Dict.insert ms "spec" newSpec) "metadata" newMeta)) ∧
      Schema.objectMeta.Denotes ObjectMeta.toJson (Effect.mark i pod.metadata) newMeta ∧
      Reads (Dict.insert (Dict.insert ms "spec" newSpec) "metadata" newMeta) injected := by
  obtain ⟨hnamed, hne⟩ := specification_eq_ok hspecification
  have hpod : pod.spec = some spec := hspec ▸ hnamed
  obtain ⟨specJson, hgetSpec, hdenotesSpec⟩ := hreading.exists_spec hread hpod
  -- The edits do not depend on the namespace.
  rw [edits_congr hlabels hannotations] at h
  obtain ⟨new, newSpec, newMeta, hupdate, hrun, hnewSpec, hnewMeta⟩ :=
    run?_edits hi h hne hgetSpec hget hdenotesSpec hmeta
  have hdirect : specification pod = .ok spec := by
    unfold specification at hspecification ⊢
    rw [← hspec]
    exact hspecification
  refine ⟨_, newSpec, newMeta, ?_, hrun, hnewMeta, hreading.insert_parts hread hnewSpec hnewMeta⟩
  rw [Effect.inject, hdirect, ok_bind, hupdate, ok_bind]
  rfl

/-- The edits of a pod, run on its written form, lead to a document that is decoded to
the updated pod. -/
theorem apply_edits (hi : i.registry = .builtin) {pod : Pod} {spec : PodSpec} {log : Patch}
    (hspec : specification pod = .ok spec) (h : i.edits pod.metadata spec = .ok log) :
    ∃ doc injected, log.apply pod.toJson = .ok doc ∧ Effect.inject i pod = .ok injected ∧
      Pod.decode doc = .ok injected := by
  have hread := Pod.decode_eq_ok_iff.mp (Pod.decode_toJson pod)
  have hwritten : pod.toJson = .obj (Pod.view.members pod) := congrFun Pod.toJson_eq pod
  -- The run is stated for objects, so the members of the written pod are shown.
  rw [hwritten] at hread
  have hget : Dict.get? (Pod.view.members pod) "metadata" = some pod.metadata.toJson :=
    Sound.get?_members_of_mem Pod.sound (e := ("metadata", some pod.metadata.toJson))
      (by simp [Pod.view])
  have hmeta := Codec.denotes_write ObjectMeta.codec Schema.regular_objectMeta pod.metadata
  obtain ⟨injected, newSpec, newMeta, hdirect, hrun, -, hnew⟩ :=
    run?_podEdits hi Pod.reading hspec h rfl rfl rfl hread hget hmeta
  refine ⟨_, injected, Patch.apply_eq_ok.mpr ?_, hdirect, Pod.decode_eq_ok_iff.mpr hnew⟩
  rw [hwritten, hrun]

/-- Trying the edits of a pod never fails. -/
theorem verify_edits (hi : i.registry = .builtin) {pod : Pod} {spec : PodSpec} {log : Patch}
    (hspec : specification pod = .ok spec) (h : i.edits pod.metadata spec = .ok log) :
    verify log pod.toJson = .ok () := by
  obtain ⟨doc, -, hdoc, -, -⟩ := apply_edits hi hspec h
  rw [verify, hdoc]

/-- The created patch is made of the edits. Trying it changes nothing. -/
theorem createPatch_eq (hi : i.registry = .builtin) (pod : Pod) :
    i.createPatch pod = specification pod >>= i.edits pod.metadata := by
  unfold createPatch
  cases hspec : specification pod with
  | error e => rfl
  | ok spec =>
    rw [ok_bind, ok_bind]
    cases hedits : i.edits pod.metadata spec with
    | error e => rfl
    | ok log =>
      -- The trial is the only step that is left, and it does not fail.
      rw [ok_bind, verify_edits hi hspec hedits]
      rfl

/-- A pod that a patch is created for has containers. -/
theorem containers_ne_nil (hi : i.registry = .builtin) {pod : Pod} {log : Patch}
    (h : i.createPatch pod = .ok log) {spec : PodSpec} (hspec : pod.spec = some spec) :
    spec.containers ≠ [] := by
  rw [createPatch_eq hi] at h
  obtain ⟨found, hfound, -⟩ := bind_eq_ok.mp h
  obtain ⟨hsubmitted, hne⟩ := specification_eq_ok hfound
  rw [Option.some.inj (hspec.symm.trans hsubmitted)]
  exact hne

/-- The created patch depends on the specification, the labels and the annotations of a
pod alone. -/
theorem createPatch_congr (hi : i.registry = .builtin) {a b : Pod} (hspec : a.spec = b.spec)
    (hlabels : a.metadata.labels = b.metadata.labels)
    (hannotations : a.metadata.annotations = b.metadata.annotations) :
    i.createPatch a = i.createPatch b := by
  have hspecification : specification a = specification b := by
    unfold specification
    rw [hspec]
  rw [createPatch_eq hi, createPatch_eq hi, hspecification]
  exact congrArg _ (funext (edits_congr hlabels hannotations))

end Injector

end SidecarInjection
