import SidecarInjection.Manifest
import SidecarInjection.Proofs.Injection.Idempotence

/-!
# `SidecarInjection.Proofs.Manifest.Idempotence`: injected manifests are left alone

A document is injected at the place of its pod or pod template. The injected
document is one that injection leaves as it is.

* `Manifest.injectDocument_eq_ok`: the two ways in which a document is injected.
* `Manifest.injectTarget_cases`: a target keeps its pod, or is marked.
* `Manifest.injectDocument_injectDocument`: an injected document stays as it is.
* `Manifest.injection_idempotent`: the same with the submission of pods.
-/

set_option autoImplicit false

namespace SidecarInjection.Manifest

open Outcome

/-! ### Targets -/

/-- A pod is read from a target, which is a pod or a pod template. -/
def Reads (pointer : Pointer) (ms : Dict Json) (pod : Pod) : Prop :=
  decodePod pointer (.obj ms) = .ok pod

/-- A target at the root of a document is read as a pod, and any other one as a template. -/
theorem reads_iff {pointer : Pointer} {ms : Dict Json} {pod : Pod} :
    Reads pointer ms pod ↔
      if pointer.isEmpty then Schema.pod.Denotes Pod.toJson pod (.obj ms)
      else ∃ t : PodTemplate,
        Schema.podTemplateSpec.Denotes PodTemplate.toJson t (.obj ms) ∧ t.pod = pod := by
  unfold Reads decodePod
  cases pointer.isEmpty with
  | true =>
    simp only [if_true]
    rw [mapError_eq_ok, Pod.decode_eq_ok_iff]
  | false =>
    simp only [Bool.false_eq_true, if_false]
    rw [mapError_eq_ok]
    show PodTemplate.pod <$> PodTemplate.decode (.obj ms) = .ok pod ↔ _
    rw [map_eq_ok]
    simp only [PodTemplate.decode_eq_ok_iff]

/-- Both are readings of a pod, so what holds of created patches holds of either. -/
theorem reading (pointer : Pointer) : PodReading (Reads pointer) := by
  have hreads : Reads pointer = if pointer.isEmpty then
      fun ms pod => Schema.pod.Denotes Pod.toJson pod (.obj ms)
      else fun ms pod => ∃ t : PodTemplate,
        Schema.podTemplateSpec.Denotes PodTemplate.toJson t (.obj ms) ∧ t.pod = pod := by
    -- The two readings are told apart by the pointer, which does not depend on the document.
    funext ms pod
    rw [eq_iff_iff, reads_iff]
    split <;> rfl
  rw [hreads]
  split
  · exact Pod.reading
  · exact PodTemplate.reading

/-- Metadata is put in, at most. -/
theorem withMetadata_obj (ms : Dict Json) :
    withMetadata (.obj ms) = .obj ms ∨
      (withMetadata (.obj ms) = .obj (Dict.insert ms "metadata" (.obj [])) ∧
        (Dict.get? ms "metadata" = none ∨ Dict.get? ms "metadata" = some .null)) := by
  unfold withMetadata
  cases hget : Dict.get? ms "metadata" with
  | none => exact .inr ⟨by simp [hget], .inl rfl⟩
  | some v =>
    cases v with
    | null => exact .inr ⟨by simp [hget], .inr rfl⟩
    | _ => exact .inl (by simp [hget])

/-- An object stays an object when it is given metadata. -/
theorem exists_withMetadata (ms : Dict Json) : ∃ tms, withMetadata (.obj ms) = .obj tms := by
  rcases withMetadata_obj ms with hsame | ⟨hput, -⟩
  · exact ⟨ms, hsame⟩
  · exact ⟨_, hput⟩

/-- Metadata that is there stays as it is. -/
theorem withMetadata_of_isObject {ms : Dict Json} {m : Json}
    (h : Dict.get? ms "metadata" = some m) (hm : m.isObject = true) :
    withMetadata (.obj ms) = .obj ms := by
  cases m with
  | obj members => simp [withMetadata, h]
  | _ => cases hm

/-- Metadata is put in once. -/
theorem withMetadata_withMetadata (j : Json) : withMetadata (withMetadata j) = withMetadata j := by
  cases j with
  | obj ms =>
    rcases withMetadata_obj ms with h | ⟨h, -⟩
    · rw [h, h]
    · rw [h]
      exact withMetadata_of_isObject (Dict.get?_insert_self _ _ _) rfl
  | _ => rfl

/-- Metadata that is put in names no namespace, and there was none before. -/
theorem metadataText?_withMetadata (j : Json) (key : String) :
    metadataText? (withMetadata j) key = metadataText? j key := by
  cases j with
  | obj ms =>
    rcases withMetadata_obj ms with h | ⟨h, hnone | hnull⟩
    · rw [h]
    · rw [h, metadataText?, metadataText?, Json.member?, Json.member?, Dict.get?_insert_self, hnone]
      rfl
    · rw [h, metadataText?, metadataText?, Json.member?, Json.member?, Dict.get?_insert_self, hnull]
      rfl
  | _ => rfl

/-- The other members stay as they are. -/
theorem member?_withMetadata (j : Json) {key : String} (hkey : key ≠ "metadata") :
    (withMetadata j).member? key = j.member? key := by
  cases j with
  | obj ms =>
    rcases withMetadata_obj ms with h | ⟨h, -⟩
    · rw [h]
    · rw [h, Json.member?, Json.member?, Dict.get?_insert_of_ne _ _ hkey]
  | _ => rfl

/-- What inheriting a namespace leaves alone. -/
theorem inheritNamespace_parts (namespaceName : Option String) (pod : Pod) :
    (inheritNamespace namespaceName pod).spec = pod.spec ∧
      (inheritNamespace namespaceName pod).metadata.labels = pod.metadata.labels ∧
      (inheritNamespace namespaceName pod).metadata.annotations = pod.metadata.annotations := by
  unfold inheritNamespace
  split <;> exact ⟨rfl, rfl, rfl⟩

variable {i : Injector}

/-- A target that is injected keeps its pod, or holds a pod that no namespace makes the
injector inject again. Its other members stay. -/
theorem injectTarget_cases (hi : i.registry = .builtin) {pointer : Pointer}
    {namespaceName : Option String} {ms : Dict Json} {new : Json}
    (h : injectTarget i pointer namespaceName (.obj ms) = .ok new) :
    (new = withMetadata (.obj ms) ∧ injectTarget i pointer namespaceName new = .ok new) ∨
      ((∀ other, injectTarget i pointer other new = .ok new) ∧
        new.isObject = true ∧
        ∀ key, key ≠ "metadata" → key ≠ "spec" → new.member? key = (Json.obj ms).member? key) := by
  obtain ⟨pod, hpod, h⟩ := bind_eq_ok.mp h
  obtain ⟨answer, hanswer, h⟩ := bind_eq_ok.mp h
  cases answer with
  | none =>
    -- The policy declines the same pod once more.
    cases h
    refine .inl ⟨rfl, ?_⟩
    rw [injectTarget, withMetadata_withMetadata, hpod, ok_bind, hanswer, ok_bind]
    rfl
  | some patch =>
    obtain ⟨tms, htarget⟩ := exists_withMetadata ms
    rw [htarget] at hpod
    have hread : Reads pointer tms pod := hpod
    obtain ⟨hspec, hlabels, hannotations⟩ := inheritNamespace_parts namespaceName pod
    obtain ⟨injected, newSpec, newMeta, hrun, hobject, hmark, hnew⟩ :=
      Injector.run?_mutate hi (reading pointer) hanswer hspec hlabels hannotations hread
    have hpatched : new =
        .obj (Dict.insert (Dict.insert tms "spec" newSpec) "metadata" newMeta) := by
      have happly := mapError_eq_ok.mp h
      rw [htarget, Patch.apply_eq_ok, hrun] at happly
      exact (Option.some.inj happly).symm
    subst hpatched
    refine .inr ⟨fun other => ?_, rfl, fun key hmetadata hkey => ?_⟩
    · -- The metadata is there, it is marked, and the mark does not depend on the namespace.
      have hdecode : decodePod pointer (.obj (Dict.insert (Dict.insert tms "spec" newSpec)
        "metadata" newMeta)) = .ok injected := hnew
      have hinherit := (inheritNamespace_parts other injected).2.2
      have hdeclined : i.mutate (inheritNamespace other injected) = .ok none :=
        Injector.mutate_eq_none (Injector.mutationRequired_mark
          (hinherit.trans (congrArg ObjectMeta.annotations hmark)))
      rw [injectTarget, withMetadata_of_isObject (Dict.get?_insert_self _ _ _) hobject, hdecode,
        ok_bind, hdeclined, ok_bind]
      rfl
    · rw [← member?_withMetadata (.obj ms) hmetadata, htarget, Json.member?, Json.member?,
        Dict.get?_insert_of_ne _ _ hmetadata, Dict.get?_insert_of_ne _ _ hkey]

/-! ### Documents -/

/-- A document that is injected is of another kind, or its target is injected. -/
theorem injectDocument_eq_ok {doc new : Json} (h : injectDocument i doc = .ok new) :
    (podPointer? ((doc.memberText? "kind").getD "") = none ∧ new = doc) ∨
      ∃ pointer ms target, podPointer? ((doc.memberText? "kind").getD "") = some pointer ∧
        Pointer.get? pointer doc = some (.obj ms) ∧
        injectTarget i pointer (metadataText? doc "namespace") (.obj ms) = .ok target ∧
        new = put pointer target doc := by
  unfold injectDocument at h
  cases hpointer : podPointer? ((doc.memberText? "kind").getD "") with
  | none =>
    simp only [hpointer] at h
    cases h
    exact .inl ⟨rfl, rfl⟩
  | some pointer =>
    simp only [hpointer] at h
    cases hget : (Pointer.get? pointer doc).filter Json.isObject with
    | none =>
      rw [hget] at h
      cases h
    | some found =>
      rw [hget] at h
      obtain ⟨target, htarget, h⟩ := bind_eq_ok.mp h
      cases h
      -- What the filter lets through is an object.
      obtain ⟨hfound, hobject⟩ := Option.filter_eq_some_iff.mp hget
      cases found with
      | obj ms => exact .inr ⟨pointer, ms, target, rfl, hfound, htarget, rfl⟩
      | _ => cases hobject

/-- Documents hold their pods as a whole or inside their specification. -/
theorem podPointer?_cases {kind : String} {pointer : Pointer}
    (h : podPointer? kind = some pointer) :
    pointer = [] ∨ ∃ rest, pointer = "spec" :: rest := by
  unfold podPointer? at h
  split at h
  · exact .inl (Option.some.inj h).symm
  · split at h
    · exact .inr ⟨_, (Option.some.inj h).symm⟩
    · split at h
      · exact .inr ⟨_, (Option.some.inj h).symm⟩
      · cases h

/-- Only a pod is its own template. -/
theorem eq_pod_of_podPointer? {kind : String} (h : podPointer? kind = some []) : kind = "Pod" := by
  unfold podPointer? at h
  split at h
  · assumption
  · split at h
    · cases h
    · split at h <;> cases h

/-- A value put in place of another one stands there. -/
theorem modify?_put {pointer : Pointer} {doc old : Json} (h : Pointer.get? pointer doc = some old)
    (value : Json) :
    Pointer.modify? pointer (fun _ => some value) doc = some (put pointer value doc) ∧
      Pointer.get? pointer (put pointer value doc) = some value := by
  obtain ⟨new, hnew⟩ := Pointer.exists_modify? (f := fun _ => some value) h rfl
  have hput : put pointer value doc = new := by rw [put, hnew, Option.getD_some]
  rw [hput]
  obtain ⟨_, _, -, hvalue, hget⟩ := Pointer.get?_modify? hnew
  cases hvalue
  exact ⟨hnew, hget⟩

/-- Putting in the value that stands at a pointer changes nothing. -/
theorem put_get? {pointer : Pointer} {doc value : Json}
    (h : Pointer.get? pointer doc = some value) : put pointer value doc = doc := by
  have hsame := Pointer.modify?_eq_self (f := fun _ => some value) h rfl
  rw [put, hsame, Option.getD_some]

/-- Different values are put in with different results. -/
theorem put_injective {pointer : Pointer} {doc old a b : Json}
    (h : Pointer.get? pointer doc = some old) (hput : put pointer a doc = put pointer b doc) :
    a = b := by
  have ha := (modify?_put h a).2
  rw [hput, (modify?_put h b).2] at ha
  exact (Option.some.inj ha).symm

/-- A value that changes nothing when it is put in stood there before. -/
theorem eq_of_put_eq_self {pointer : Pointer} {doc old value : Json}
    (h : Pointer.get? pointer doc = some old) (hput : put pointer value doc = doc) :
    value = old :=
  put_injective h (hput.trans (put_get? h).symm)

/-- A value put in below the specification leaves the other members alone. -/
theorem member?_put {rest : Pointer} {doc old : Json}
    (h : Pointer.get? ("spec" :: rest) doc = some old) (value : Json) {key : String}
    (hkey : key ≠ "spec") : (put ("spec" :: rest) value doc).member? key = doc.member? key := by
  have hput := (modify?_put h value).1
  cases doc with
  | obj ms =>
    obtain ⟨child, -, hchanged⟩ := Option.bind_eq_some_iff.mp hput
    obtain ⟨changed, -, hnew⟩ := Option.map_eq_some_iff.mp hchanged
    rw [← hnew, Json.member?, Json.member?, Dict.get?_insert_of_ne _ _ hkey]
  | arr items =>
    -- The name is not a position of an array.
    have hindex : Pointer.index? "spec" = none := by decide +kernel
    rw [Pointer.get?, hindex] at h
    cases h
  | _ => cases h

/-- A document whose target is left alone stays as it is. -/
theorem injectDocument_eq_self {doc : Json} {kind : String} {pointer : Pointer} {ms : Dict Json}
    (hkind : (doc.memberText? "kind").getD "" = kind) (hpointer : podPointer? kind = some pointer)
    (hget : Pointer.get? pointer doc = some (.obj ms))
    (h : injectTarget i pointer (metadataText? doc "namespace") (.obj ms) = .ok (.obj ms)) :
    injectDocument i doc = .ok doc := by
  have hobject : (Pointer.get? pointer doc).filter Json.isObject = some (.obj ms) := by
    rw [hget]
    rfl
  unfold injectDocument
  simp only [hkind, hpointer, hobject, h, ok_bind, pure_eq]
  rw [put_get? hget]

/-- An injected document stays as it is. -/
theorem injectDocument_injectDocument (hi : i.registry = .builtin) {doc new : Json}
    (h : injectDocument i doc = .ok new) : injectDocument i new = .ok new := by
  rcases injectDocument_eq_ok h with ⟨-, rfl⟩ | ⟨pointer, ms, target, hpointer, hget, htarget, rfl⟩
  · exact h
  · have hnew := (modify?_put hget target).2
    -- The target is an object again, since its metadata is put in or marked.
    obtain ⟨tms, rfl⟩ : ∃ tms, target = .obj tms := by
      rcases injectTarget_cases hi htarget with ⟨rfl, -⟩ | ⟨-, hobject, -⟩
      · exact exists_withMetadata ms
      · cases target with
        | obj tms => exact ⟨tms, rfl⟩
        | _ => cases hobject
    have hcases := injectTarget_cases hi htarget
    -- The kind stays, and so does the namespace, or it does not matter any more.
    have hkind : (put pointer (.obj tms) doc).memberText? "kind" = doc.memberText? "kind" := by
      rcases podPointer?_cases hpointer with rfl | ⟨rest, rfl⟩
      · cases hget
        rcases hcases with ⟨hsame, -⟩ | ⟨-, -, hmember⟩
        · show (Json.obj tms).memberText? "kind" = _
          rw [hsame, Json.memberText?, member?_withMetadata _ (by decide)]
          rfl
        · show (Json.obj tms).memberText? "kind" = _
          rw [Json.memberText?, hmember "kind" (by decide) (by decide)]
          rfl
      · rw [Json.memberText?, member?_put hget _ (by decide)]
        rfl
    refine injectDocument_eq_self (congrArg (fun kind => kind.getD "") hkind) hpointer hnew ?_
    rcases hcases with ⟨hsame, hagain⟩ | ⟨hagain, -, -⟩
    · have hspace : metadataText? (put pointer (.obj tms) doc) "namespace" =
          metadataText? doc "namespace" := by
        rcases podPointer?_cases hpointer with rfl | ⟨rest, rfl⟩
        · cases hget
          show metadataText? (.obj tms) "namespace" = _
          rw [hsame, metadataText?_withMetadata]
        · rw [metadataText?, member?_put hget _ (by decide)]
          rfl
      rw [hspace]
      exact hagain
    · exact hagain _

/-- With the built-in modes injection is idempotent. The patch of a submitted document
fits the document itself, whatever else it holds, and the result is a pod that no
number of further submissions changes. An injected manifest document stays as it is. -/
theorem injection_idempotent (config : Config) :
    (∀ doc pod patch, Pod.decode doc = .ok pod →
      (Injector.mk config .builtin).mutate pod = .ok (some patch) →
        ∃ new injected, patch.apply doc = .ok new ∧ Pod.decode new = .ok injected ∧
          (Injector.mk config .builtin).mutate injected = .ok none ∧
          ∀ n, (Injector.mk config .builtin).submissions n new = .ok new) ∧
    ∀ doc new, injectDocument ⟨config, .builtin⟩ doc = .ok new →
      injectDocument ⟨config, .builtin⟩ new = .ok new := by
  constructor
  · intro doc pod patch hdecode h
    obtain ⟨new, injected, happly, hnew, hnone⟩ := Injector.apply_of_mutate rfl hdecode h
    exact ⟨new, injected, happly, hnew, hnone, Injector.submissions_of_mutate_eq_none hnew hnone⟩
  · intro doc new h
    exact injectDocument_injectDocument rfl h

/-- A submitted pod with a member that is not declared and a `null` for an absent list. -/
def sampleDocument : Json :=
  .obj [("apiVersion", .str "v1"), ("kind", .str "Pod"),
    ("metadata", .obj [("annotations", .obj [("inject", .str "true")]),
      ("labels", .obj [("app", .str "shop"), ("service", .str "cart")])]),
    ("spec", .obj [("containers", .arr [.obj [("name", .str "web"), ("note", .str "unread"),
      ("volumeMounts", .arr [.obj [("mountPath", .str podTokenMountPath),
        ("name", .str "token")]])]]), ("initContainers", .null)])]

/-- The sample is patched once, by submissions and as a document. -/
theorem injection_idempotent_sample :
    (∃ pod patch new, Pod.decode sampleDocument = .ok pod ∧
      (Injector.mk Sample.config .builtin).mutate pod = .ok (some patch) ∧
      patch.apply sampleDocument = .ok new ∧
      (Injector.mk Sample.config .builtin).submissions 3 new = .ok new) ∧
    ∃ new, injectDocument ⟨Sample.config, .builtin⟩ sampleDocument = .ok new ∧
      injectDocument ⟨Sample.config, .builtin⟩ new = .ok new := by
  obtain ⟨hpods, hdocuments⟩ := injection_idempotent Sample.config
  constructor
  · have hdecoded : (Pod.decode sampleDocument).toBool = true := by decide +kernel
    -- Only that there is a patch is computed. What it does follows from the theorem.
    have hasked : ((Pod.decode sampleDocument).toOption.bind fun pod =>
        ((Injector.mk Sample.config .builtin).mutate pod).toOption.join).isSome = true := by
      decide +kernel
    obtain ⟨pod, hpod⟩ := exists_of_toBool hdecoded
    have hanswer : ((Injector.mk Sample.config .builtin).mutate pod).toOption.join.isSome := by
      rw [hpod] at hasked
      exact hasked
    obtain ⟨patch, hmutate⟩ : ∃ patch,
        (Injector.mk Sample.config .builtin).mutate pod = .ok (some patch) := by
      cases h : (Injector.mk Sample.config .builtin).mutate pod with
      | error e => simp [h, Except.toOption] at hanswer
      | ok answer =>
        cases answer with
        | none => simp [h, Except.toOption] at hanswer
        | some patch => exact ⟨patch, rfl⟩
    obtain ⟨new, -, happly, -, -, hsubmissions⟩ := hpods sampleDocument pod patch hpod hmutate
    exact ⟨pod, patch, new, hpod, hmutate, happly, hsubmissions 3⟩
  · have hinjected : (injectDocument ⟨Sample.config, .builtin⟩ sampleDocument).toBool = true := by
      decide +kernel
    obtain ⟨new, hnew⟩ := exists_of_toBool hinjected
    exact ⟨new, hnew, hdocuments sampleDocument new hnew⟩

end SidecarInjection.Manifest
