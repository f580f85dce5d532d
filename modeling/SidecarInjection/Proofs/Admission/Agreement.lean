import SidecarInjection.Admission.Decode
import SidecarInjection.Proofs.Manifest.Idempotence

/-!
# `SidecarInjection.Proofs.Admission.Agreement`: reviews and manifests agree

A pod can be injected when it is submitted, or before that, in the manifest of a
workload that makes such pods. `Agree` says that the answer to the review and the
injected manifest fit together. Both inherit a namespace, each by a rule of its own,
and the rules part on the empty namespace: a review takes it for none, and a manifest
keeps it. `Drift` says when this is noticed.

* `review_submitted`, `injectDocument_workload`: both paths make the same patch, each
  if its own policy asks for one.
* `mutationRequired_eq_iff`: the policies are the same unless there is a drift.
* `paths_agree_iff`: the paths agree exactly when there is no drift.
-/

set_option autoImplicit false

namespace SidecarInjection.Admission

open Outcome
open Schema (Codec)

/-! ### Statements -/

/-- A document that is submitted as a pod: it says so, it has metadata, and a pod is
decoded from it. It may hold anything else. -/
structure Submits (template : Json) (pod : Pod) : Prop where
  version : template.memberText? "apiVersion" = some "v1"
  kind : template.memberText? "kind" = some "Pod"
  metadata : ∃ members, template.member? "metadata" = some (.obj members)
  decoded : Pod.decode template = .ok pod

/-- A workload in a namespace, if any, with a pod template at a pointer. -/
structure Workload (doc : Json) (pointer : Pointer) (namespaceName : Option String)
    (template : Json) : Prop where
  kind : ∃ kind, doc.memberText? "kind" = some kind ∧ kind ≠ "Pod" ∧
    Manifest.podPointer? kind = some pointer
  namespaceName : Manifest.metadataText? doc "namespace" = namespaceName
  template : Pointer.get? pointer doc = some template

/-- The answer to the review of a template fits the injection of a document that holds
the template at a pointer. -/
structure Agree (response : Response) (outcome : Except InjectionError Json) (pointer : Pointer)
    (doc template : Json) : Prop where
  /-- What is denied fails. -/
  denied : response.allowed = false ↔ ∃ e, outcome = .error e
  /-- What is allowed without a patch stays as it is. -/
  kept : response.allowed = true ∧ response.patch = none ↔ outcome = .ok doc
  /-- What is patched is replaced by the patched template, which is another one. -/
  patched : ∀ new, (response.allowed = true ∧ ∃ patch, response.patch = some patch ∧
      patch.apply template = .ok new) ↔
    outcome = .ok (Manifest.put pointer new doc) ∧ new ≠ template
  /-- Every patch fits the template. -/
  fits : ∀ patch, response.patch = some patch → ∃ new, patch.apply template = .ok new

/-- A pod with the empty namespace that would be injected, but for the namespace of its
workload or of its request, which is an excluded one. -/
def Drift (i : Injector) (namespaceName : Option String) (pod : Pod) : Prop :=
  pod.metadata.namespaceName = some "" ∧
    (∃ name ∈ Policy.ignoredNamespaces, namespaceName = some name) ∧
    i.mutationRequired pod.metadata = true

/-! ### Policies -/

variable {i : Injector} {pod : Pod} {namespaceName : Option String}

/-- A pod with the empty namespace asks for as much as it did, unless it comes to lie in
an excluded namespace. -/
theorem mutationRequired_of_empty (i : Injector) {metadata : ObjectMeta}
    (hempty : metadata.namespaceName = some "") (namespaceName : Option String) :
    i.mutationRequired { metadata with namespaceName } =
      (!(namespaceName.any Policy.ignoredNamespaces.contains) && i.mutationRequired metadata) := by
  -- The empty namespace counts as the default one, and neither is excluded.
  have hdefault : Policy.ignoredNamespaces.contains Policy.defaultNamespace = false := by decide
  have hnone : Policy.ignoredNamespaces.contains "" = false := by decide
  have hold : Policy.effectiveNamespace metadata = Policy.defaultNamespace := by
    rw [Policy.effectiveNamespace, hempty]
    rfl
  have hnew : Policy.ignoredNamespaces.contains
      (Policy.effectiveNamespace { metadata with namespaceName }) =
        namespaceName.any Policy.ignoredNamespaces.contains := by
    cases namespaceName with
    | none => exact hdefault
    | some name =>
      by_cases hname : name = ""
      · subst hname
        exact hdefault.trans hnone.symm
      · have hnonempty : name.isEmpty = false := by simpa using hname
        simp [Policy.effectiveNamespace, hnonempty]
  simp only [Injector.mutationRequired, Policy.mutationRequired]
  rw [hnew, hold, hdefault, Bool.not_false, Bool.true_and, Bool.and_assoc]

/-- An excluded namespace is one of those that are listed. -/
theorem any_ignored_iff {namespaceName : Option String} :
    namespaceName.any Policy.ignoredNamespaces.contains = true ↔
      ∃ name ∈ Policy.ignoredNamespaces, namespaceName = some name := by
  cases namespaceName <;> simp

/-- With a drift only the workload asks for injection. -/
theorem mutationRequired_of_drift (h : Drift i namespaceName pod) :
    i.mutationRequired (inheritNamespace namespaceName pod).metadata = false ∧
      i.mutationRequired (Manifest.inheritNamespace namespaceName pod).metadata = true := by
  obtain ⟨hempty, hexcluded, hrequired⟩ := h
  unfold inheritNamespace Manifest.inheritNamespace
  rw [hempty]
  refine ⟨?_, hrequired⟩
  show i.mutationRequired { pod.metadata with namespaceName } = false
  rw [mutationRequired_of_empty i hempty, any_ignored_iff.mpr hexcluded]
  rfl

/-- The policies of both paths are the same unless there is a drift. -/
theorem mutationRequired_eq_iff (i : Injector) (namespaceName : Option String) (pod : Pod) :
    i.mutationRequired (inheritNamespace namespaceName pod).metadata =
        i.mutationRequired (Manifest.inheritNamespace namespaceName pod).metadata ↔
      ¬ Drift i namespaceName pod := by
  constructor
  · intro hsame hdrift
    obtain ⟨hrequest, hworkload⟩ := mutationRequired_of_drift hdrift
    rw [hrequest, hworkload] at hsame
    cases hsame
  · intro hnone
    unfold inheritNamespace Manifest.inheritNamespace
    cases hown : pod.metadata.namespaceName with
    | none => simp
    | some own =>
      by_cases hempty : own = ""
      · -- Only a namespace that is not excluded, or a pod that asks for nothing, is left.
        subst hempty
        show i.mutationRequired { pod.metadata with namespaceName } =
          i.mutationRequired pod.metadata
        rw [mutationRequired_of_empty i hown]
        cases hrequired : i.mutationRequired pod.metadata with
        | false => rw [Bool.and_false]
        | true =>
          have hallowed : namespaceName.any Policy.ignoredNamespaces.contains = false :=
            Bool.eq_false_iff.mpr fun hany =>
              hnone ⟨hown, any_ignored_iff.mp hany, hrequired⟩
          rw [hallowed]
          rfl
      · simp [hempty]

/-! ### The two paths -/

/-- The text of a member is the member. -/
theorem get?_of_memberText? {ms : Dict Json} {key text : String}
    (h : (Json.obj ms).memberText? key = some text) : Dict.get? ms key = some (.str text) := by
  obtain ⟨member, hmember, htext⟩ := Option.bind_eq_some_iff.mp h
  cases member with
  | str s =>
    cases htext
    exact hmember
  | _ => cases htext

section

variable {doc template : Json} {pointer : Pointer}

/-- What is submitted is an object with metadata that denotes the metadata of the pod. -/
theorem Submits.exists_members (h : Submits template pod) :
    ∃ ms members, template = .obj ms ∧ Dict.get? ms "metadata" = some (.obj members) ∧
      Schema.pod.Denotes Pod.toJson pod (.obj ms) ∧
      Schema.objectMeta.Denotes ObjectMeta.toJson pod.metadata (.obj members) := by
  have hdenotes := Pod.decode_eq_ok_iff.mp h.decoded
  obtain ⟨ms, rfl⟩ := Schema.exists_members_of_denotes hdenotes
  obtain ⟨members, hmembers⟩ := h.metadata
  exact ⟨ms, members, rfl, hmembers, hdenotes, Pod.denotes_metadata hdenotes hmembers⟩

/-- A review holds what is submitted with its metadata checked, and the same pod is
decoded from it. -/
theorem Submits.decodeObject (h : Submits template pod) :
    ∃ object, Admission.decodeObject template = .ok object ∧ Pod.decode object = .ok pod := by
  obtain ⟨ms, members, rfl, hget, hdenotes, hmeta⟩ := h.exists_members
  -- Both texts are there, so neither of them is dropped.
  have hkeep : keepTypes ms = ms := by
    have hversion := get?_of_memberText? h.version
    have hkind := get?_of_memberText? h.kind
    unfold keepTypes
    rw [hversion, hkind]
  have hdecode : Schema.objectMeta.decode (.obj members) = .ok pod.metadata.toJson := hmeta
  refine ⟨.obj (Dict.insert ms "metadata" pod.metadata.toJson), ?_, ?_⟩
  · simp only [Admission.decodeObject, hget, hdecode, ok_bind, hkeep]
    rfl
  · exact Pod.decode_eq_ok_iff.mpr (Pod.denotes_insert_metadata hdenotes
      (Codec.denotes_write ObjectMeta.codec Schema.regular_objectMeta pod.metadata))

/-- A workload reads the same metadata and specification from its template. -/
theorem Submits.decodePod (h : Submits template pod) (hpointer : pointer ≠ []) :
    Manifest.decodePod pointer template = .ok ⟨pod.metadata, pod.spec, none⟩ := by
  obtain ⟨ms, members, rfl, hget, hdenotes, -⟩ := h.exists_members
  have hnonempty : pointer.isEmpty = false := by simpa using hpointer
  refine Manifest.reads_iff.mpr ?_
  rw [hnonempty]
  exact ⟨⟨some pod.metadata, pod.spec⟩, PodTemplate.denotes_of_pod hdenotes hget, rfl⟩

/-- The answer to the review of a pod carries the created patch, if the pod asks for it in
the namespace of the request. -/
theorem review_submitted (hi : i.registry = .builtin) {object : Json}
    (hobject : Pod.decode object = .ok pod) (apiVersion kind uid : String) :
    review i ⟨apiVersion, kind, some ⟨uid, "Pod", namespaceName, some object⟩⟩ =
      .ofVerdict apiVersion kind uid
        (if i.mutationRequired (inheritNamespace namespaceName pod).metadata then
          match i.createPatch pod with
          | .ok patch => .allowed (some patch)
          | .error e => .denied (.failed e)
        else .allowed none) := by
  -- The namespace matters to the policy alone.
  have hcreate : i.createPatch (inheritNamespace namespaceName pod) = i.createPatch pod := by
    unfold inheritNamespace
    split
    · exact Injector.createPatch_congr hi rfl rfl rfl
    · rfl
  simp only [review, judge, hobject, Injector.mutate, hcreate, if_true]
  cases i.mutationRequired (inheritNamespace namespaceName pod).metadata with
  | false => rfl
  | true => cases i.createPatch pod <;> rfl

/-- A workload is injected with the created patch, if a pod of it asks for it. -/
theorem injectDocument_workload (hi : i.registry = .builtin) (hpod : Submits template pod)
    (hdoc : Workload doc pointer namespaceName template) :
    Manifest.injectDocument i doc =
      if i.mutationRequired (Manifest.inheritNamespace namespaceName pod).metadata then do
        let patch ← i.createPatch pod
        let new ← (patch.apply template).mapError .invalidPatch
        return Manifest.put pointer new doc
      else .ok doc := by
  obtain ⟨kind, hkind, hne, hpointer⟩ := hdoc.kind
  have hbelow : pointer ≠ [] := by
    rintro rfl
    exact hne (Manifest.eq_pod_of_podPointer? hpointer)
  obtain ⟨ms, members, rfl, hget, -, -⟩ := hpod.exists_members
  have htarget : (Pointer.get? pointer doc).filter Json.isObject = some (.obj ms) := by
    rw [hdoc.template]
    rfl
  have hmeta : Manifest.withMetadata (.obj ms) = .obj ms :=
    Manifest.withMetadata_of_isObject hget rfl
  -- A template has no status, which neither the policy nor the patch reads.
  have hinherit :
      (Manifest.inheritNamespace namespaceName ⟨pod.metadata, pod.spec, none⟩).metadata =
        (Manifest.inheritNamespace namespaceName pod).metadata := by
    unfold Manifest.inheritNamespace
    split <;> rfl
  have hcreate : i.createPatch (Manifest.inheritNamespace namespaceName
      ⟨pod.metadata, pod.spec, none⟩) = i.createPatch pod := by
    obtain ⟨hspec, hlabels, hannotations⟩ :=
      Manifest.inheritNamespace_parts namespaceName ⟨pod.metadata, pod.spec, none⟩
    exact Injector.createPatch_congr hi hspec hlabels hannotations
  have hinject : Manifest.injectTarget i pointer namespaceName (.obj ms) =
      if i.mutationRequired (Manifest.inheritNamespace namespaceName pod).metadata then do
        let patch ← i.createPatch pod
        (patch.apply (.obj ms)).mapError .invalidPatch
      else .ok (.obj ms) := by
    unfold Manifest.injectTarget
    simp only [hmeta, hpod.decodePod hbelow, ok_bind, Injector.mutate, hinherit, hcreate]
    cases i.mutationRequired (Manifest.inheritNamespace namespaceName pod).metadata with
    | false => rfl
    | true => cases i.createPatch pod <;> rfl
  unfold Manifest.injectDocument
  simp only [hkind, Option.getD_some, hpointer, htarget, hdoc.namespaceName, hinject]
  cases i.mutationRequired (Manifest.inheritNamespace namespaceName pod).metadata with
  | false =>
    simp only [Bool.false_eq_true, if_false, ok_bind, pure_eq]
    rw [Manifest.put_get? hdoc.template]
  | true => cases i.createPatch pod <;> rfl

/-- A patch that a pod asks for fits the template, and leads to another one. -/
theorem exists_apply (hi : i.registry = .builtin) (hpod : Submits template pod)
    {named : Pod} (hspec : named.spec = pod.spec)
    (hlabels : named.metadata.labels = pod.metadata.labels)
    (hannotations : named.metadata.annotations = pod.metadata.annotations)
    (hrequired : i.mutationRequired named.metadata = true) {patch : Patch}
    (hpatch : i.createPatch pod = .ok patch) :
    ∃ new, patch.apply template = .ok new ∧ new ≠ template := by
  obtain ⟨ms, -, rfl, -, hdenotes, -⟩ := hpod.exists_members
  have hmutate : i.mutate named = .ok (some patch) := by
    rw [Injector.mutate, hrequired, if_pos rfl,
      Injector.createPatch_congr hi hspec hlabels hannotations, hpatch]
    rfl
  obtain ⟨injected, newSpec, newMeta, hrun, -, hmark, hnew⟩ :=
    Injector.run?_mutate hi Pod.reading hmutate hspec hlabels hannotations hdenotes
  refine ⟨_, Patch.apply_eq_ok.mpr hrun, fun heq => ?_⟩
  -- The new template is marked, and the old one is not.
  rw [heq] at hnew
  have hsame : injected = pod := Codec.eq_of_denotes Pod.codec hnew hdenotes
  have hmarked : i.mutationRequired named.metadata = false :=
    Injector.mutationRequired_mark
      (hannotations.trans (congrArg ObjectMeta.annotations (hsame ▸ hmark)))
  exact Bool.false_ne_true (hmarked.symm.trans hrequired)

end

/-! ### Agreement -/

section

variable {doc template : Json} {pointer : Pointer} {apiVersion kind uid : String}

/-- A denial fits a failure. -/
theorem Agree.of_denied (denial : Denial) (e : InjectionError) :
    Agree (.ofVerdict apiVersion kind uid (.denied denial)) (.error e) pointer doc template where
  denied := by simp [Response.ofVerdict]
  kept := by simp [Response.ofVerdict]
  patched new := by simp [Response.ofVerdict]
  fits := nofun

/-- No patch fits a document that stays as it is. -/
theorem Agree.of_kept (hget : Pointer.get? pointer doc = some template) :
    Agree (.ofVerdict apiVersion kind uid (.allowed none)) (.ok doc) pointer doc template where
  denied := by simp [Response.ofVerdict]
  kept := by simp [Response.ofVerdict]
  patched new := by
    constructor
    · rintro ⟨-, _, ⟨⟩, -⟩
    · rintro ⟨hsame, hne⟩
      exact (hne (Manifest.eq_of_put_eq_self hget (Except.ok.inj hsame).symm)).elim
  fits := nofun

/-- A patch fits a document with the patched template, which is another one. -/
theorem Agree.of_patched (hget : Pointer.get? pointer doc = some template) {patch : Patch}
    {new : Json} (happly : patch.apply template = .ok new) (hne : new ≠ template) :
    Agree (.ofVerdict apiVersion kind uid (.allowed (some patch)))
      (.ok (Manifest.put pointer new doc)) pointer doc template where
  denied := by simp [Response.ofVerdict]
  kept := by
    constructor
    · rintro ⟨-, ⟨⟩⟩
    -- A patch that changes the template changes the workload too, so it is not what was submitted.
    · intro hsame
      exact (hne (Manifest.eq_of_put_eq_self hget (Except.ok.inj hsame))).elim
  patched other := by
    constructor
    · rintro ⟨-, _, ⟨⟩, hother⟩
      have heq : new = other := Except.ok.inj (happly.symm.trans hother)
      exact heq ▸ ⟨rfl, hne⟩
    -- The workload determines its template, so the other one is the patched template.
    · rintro ⟨hsame, -⟩
      have heq : new = other := Manifest.put_injective hget (Except.ok.inj hsame)
      exact ⟨rfl, patch, rfl, heq ▸ happly⟩
  fits := by
    rintro _ ⟨⟩
    exact ⟨new, happly⟩

/-- With the same policy the paths agree. -/
theorem agree_of_policy (hi : i.registry = .builtin) (hpod : Submits template pod)
    (hdoc : Workload doc pointer namespaceName template)
    (hpolicy : i.mutationRequired (inheritNamespace namespaceName pod).metadata =
      i.mutationRequired (Manifest.inheritNamespace namespaceName pod).metadata)
    {object : Json} (hobject : Pod.decode object = .ok pod) :
    Agree (review i ⟨apiVersion, kind, some ⟨uid, "Pod", namespaceName, some object⟩⟩)
      (Manifest.injectDocument i doc) pointer doc template := by
  rw [review_submitted hi hobject, injectDocument_workload hi hpod hdoc, hpolicy]
  cases hrequired : i.mutationRequired (Manifest.inheritNamespace namespaceName pod).metadata with
  | false => exact .of_kept hdoc.template
  | true =>
    -- The namespace that was filled in is not read by what creates the patch.
    obtain ⟨hspec, hlabels, hannotations⟩ := Manifest.inheritNamespace_parts namespaceName pod
    cases hcreate : i.createPatch pod with
    | error e => exact .of_denied _ e
    | ok patch =>
      obtain ⟨new, happly, hne⟩ :=
        exists_apply hi hpod hspec hlabels hannotations hrequired hcreate
      simp only [if_true, ok_bind, happly]
      exact .of_patched hdoc.template happly hne

/-- With a drift the review leaves the pod alone, and the workload is injected, or that
fails. -/
theorem not_agree_of_drift (hi : i.registry = .builtin) (hpod : Submits template pod)
    (hdoc : Workload doc pointer namespaceName template) (hdrift : Drift i namespaceName pod)
    {object : Json} (hobject : Pod.decode object = .ok pod) :
    ¬ Agree (review i ⟨apiVersion, kind, some ⟨uid, "Pod", namespaceName, some object⟩⟩)
      (Manifest.injectDocument i doc) pointer doc template := by
  obtain ⟨hrequest, hworkload⟩ := mutationRequired_of_drift hdrift
  rw [review_submitted hi hobject, injectDocument_workload hi hpod hdoc, hrequest, hworkload]
  intro hagree
  -- The review leaves the pod alone. So the workload would have to stay as it is.
  have hkept := hagree.kept.mp ⟨rfl, rfl⟩
  obtain ⟨hspec, hlabels, hannotations⟩ := Manifest.inheritNamespace_parts namespaceName pod
  cases hcreate : i.createPatch pod with
  | error e =>
    rw [hcreate] at hkept
    cases hkept
  | ok patch =>
    obtain ⟨new, happly, hne⟩ :=
      exists_apply hi hpod hspec hlabels hannotations hworkload hcreate
    simp only [if_true, hcreate, ok_bind, happly] at hkept
    -- The patch changes the template, and with it the workload.
    exact hne (Manifest.eq_of_put_eq_self hdoc.template (Except.ok.inj hkept))

/-- With the built-in modes, the answer to the review of a pod and the injection of a
workload with that template agree exactly when there is no drift. So do their policies. -/
theorem paths_agree_iff (config : Config) {namespaceName : Option String}
    (hpod : Submits template pod) (hdoc : Workload doc pointer namespaceName template) :
    (Injector.mutationRequired ⟨config, .builtin⟩ (inheritNamespace namespaceName pod).metadata =
        Injector.mutationRequired ⟨config, .builtin⟩
          (Manifest.inheritNamespace namespaceName pod).metadata ↔
      ¬ Drift ⟨config, .builtin⟩ namespaceName pod) ∧
    ∃ object, decodeObject template = .ok object ∧ ∀ apiVersion kind uid,
      (Agree (review ⟨config, .builtin⟩
            ⟨apiVersion, kind, some ⟨uid, "Pod", namespaceName, some object⟩⟩)
          (Manifest.injectDocument ⟨config, .builtin⟩ doc) pointer doc template ↔
        ¬ Drift ⟨config, .builtin⟩ namespaceName pod) := by
  have hpolicy := mutationRequired_eq_iff ⟨config, .builtin⟩ namespaceName pod
  obtain ⟨object, hdecode, hobject⟩ := hpod.decodeObject
  refine ⟨hpolicy, object, hdecode, fun apiVersion kind uid => ⟨fun hagree hdrift => ?_, ?_⟩⟩
  · exact not_agree_of_drift rfl hpod hdoc hdrift hobject hagree
  · exact fun hnone => agree_of_policy rfl hpod hdoc (hpolicy.mpr hnone) hobject

end

/-- A pod template with the empty namespace that asks for injection. -/
def sampleTemplate : Json :=
  .obj [("apiVersion", .str "v1"), ("kind", .str "Pod"),
    ("metadata", .obj [("annotations", .obj [("inject", .str "true")]),
      ("labels", .obj [("app", .str "shop"), ("service", .str "cart")]), ("namespace", .str "")]),
    ("spec", .obj [("containers", .arr [.obj [("name", .str "web"),
      ("volumeMounts", .arr [.obj [("mountPath", .str podTokenMountPath),
        ("name", .str "token")]])]])])]

/-- A deployment in a namespace with that template. -/
def sampleWorkload (namespaceName : String) : Json :=
  .obj [("kind", .str "Deployment"),
    ("metadata", .obj [("name", .str "shop"), ("namespace", .str namespaceName)]),
    ("spec", .obj [("template", sampleTemplate)])]

/-- The paths agree about the sample in a namespace of its own, and not in an excluded one. -/
theorem paths_agree_iff_sample :
    ∃ object, decodeObject sampleTemplate = .ok object ∧
      Agree (review ⟨Sample.config, .builtin⟩ ⟨"admission.k8s.io/v1", "AdmissionReview",
          some ⟨"1", "Pod", some "apps", some object⟩⟩)
        (Manifest.injectDocument ⟨Sample.config, .builtin⟩ (sampleWorkload "apps"))
        ["spec", "template"] (sampleWorkload "apps") sampleTemplate ∧
      ¬ Agree (review ⟨Sample.config, .builtin⟩ ⟨"admission.k8s.io/v1", "AdmissionReview",
          some ⟨"1", "Pod", some "kube-system", some object⟩⟩)
        (Manifest.injectDocument ⟨Sample.config, .builtin⟩ (sampleWorkload "kube-system"))
        ["spec", "template"] (sampleWorkload "kube-system") sampleTemplate := by
  have hdecoded : (Pod.decode sampleTemplate).toBool = true := by decide +kernel
  have hasks : (Pod.decode sampleTemplate).toOption.any (fun pod =>
      pod.metadata.namespaceName = some "" &&
        Injector.mutationRequired ⟨Sample.config, .builtin⟩ pod.metadata) = true := by
    decide +kernel
  obtain ⟨pod, hpod⟩ := exists_of_toBool hdecoded
  obtain ⟨hempty, hrequired⟩ : pod.metadata.namespaceName = some "" ∧
      Injector.mutationRequired ⟨Sample.config, .builtin⟩ pod.metadata = true := by
    rw [hpod] at hasks
    simpa [Except.toOption] using hasks
  have hsubmits : Submits sampleTemplate pod := ⟨rfl, rfl, ⟨_, rfl⟩, hpod⟩
  have hworkload : ∀ name, Workload (sampleWorkload name) ["spec", "template"] (some name)
      sampleTemplate := fun name => ⟨⟨"Deployment", rfl, by decide, rfl⟩, rfl, rfl⟩
  obtain ⟨-, object, hobject, hagree⟩ :=
    paths_agree_iff Sample.config hsubmits (hworkload "apps")
  obtain ⟨-, object', hobject', hdiffer⟩ :=
    paths_agree_iff Sample.config hsubmits (hworkload "kube-system")
  -- The same object is submitted to both reviews.
  obtain rfl : object = object' := Except.ok.inj (hobject.symm.trans hobject')
  refine ⟨object, hobject, (hagree _ _ _).mpr ?_, fun h => (hdiffer _ _ _).mp h ?_⟩
  -- The first namespace is not an ignored one, and the second one is.
  · rintro ⟨-, ⟨name, hname, heq⟩, -⟩
    cases heq
    revert hname
    decide
  · exact ⟨hempty, ⟨"kube-system", by decide, rfl⟩, hrequired⟩

end SidecarInjection.Admission
