import SidecarInjection.Proofs.Injection.Create

/-!
# `SidecarInjection.Proofs.Injection.Idempotence`: injecting once is enough

A patch that was tried on the written form of a pod also fits the document that
the pod was read from, and the patched document is left alone from then on.

* `Injector.mutationRequired_mark`: marked metadata asks for nothing.
* `Injector.run?_mutate`: the patch for a pod fits what the pod is read from.
* `Injector.apply_of_mutate`: the patch of a submitted document fits it, and the
  result is not injected again.
-/

set_option autoImplicit false

namespace SidecarInjection

open Outcome

/-! ### The policy -/

namespace Injector

variable {i : Injector}

/-- Marked annotations ask for nothing, in any namespace. -/
theorem mutationRequired_mark {metadata marked : ObjectMeta}
    (h : metadata.annotations = (Effect.mark i marked).annotations) :
    i.mutationRequired metadata = false := by
  have hstatus : i.keys.value (metadata.annotations.getD []) Annotations.status =
      Annotations.injected := by
    rw [h, AnnotationKeys.value]
    show (Dict.get? (Dict.insert _ _ _) _).getD "" = _
    rw [Dict.get?_insert_self]
    rfl
  -- The policy compares the mark without regard to case.
  have hequal : Policy.equalIgnoringAsciiCase Annotations.injected Annotations.injected = true := by
    rw [Policy.equalIgnoringAsciiCase, beq_self_eq_true]
  rw [mutationRequired, Policy.mutationRequired, hstatus, hequal]
  simp

/-- Metadata that asks for injection has annotations. -/
theorem annotations_ne_none {metadata : ObjectMeta} (h : i.mutationRequired metadata = true) :
    metadata.annotations ≠ none := by
  intro hnone
  -- Without annotations the value that asks for injection is empty.
  have hinject : Annotations.isTruthy "" = false := by decide +kernel
  rw [mutationRequired, Policy.mutationRequired, hnone] at h
  have hvalue : i.keys.value [] Annotations.inject = "" := rfl
  rw [Option.getD_none, hvalue, hinject, Bool.and_false] at h
  exact Bool.false_ne_true h

/-- The patch for a pod that is to be injected is the created one. -/
theorem mutate_eq_some {pod : Pod} {patch : Patch} (h : i.mutate pod = .ok (some patch)) :
    i.mutationRequired pod.metadata = true ∧ i.createPatch pod = .ok patch := by
  unfold mutate at h
  split at h
  · rename_i hrequired
    -- There is a patch only if one was created, and an error is no patch.
    cases hcreate : i.createPatch pod with
    | error e =>
      rw [hcreate] at h
      cases h
    | ok created =>
      rw [hcreate] at h
      cases h
      exact ⟨hrequired, rfl⟩
  · cases h

/-- A pod that is not to be injected is left alone. -/
theorem mutate_eq_none {pod : Pod} (h : i.mutationRequired pod.metadata = false) :
    i.mutate pod = .ok none := by
  rw [mutate, h]
  rfl

/-- The patch that is made for a pod, in whatever namespace it is taken to lie, fits the
object that the pod is read from. The metadata that is read afterwards is marked. -/
theorem run?_mutate (hi : i.registry = .builtin) {Reads : Dict Json → Pod → Prop}
    (hreading : PodReading Reads) {pod named : Pod} {patch : Patch}
    (h : i.mutate named = .ok (some patch)) (hspec : named.spec = pod.spec)
    (hlabels : named.metadata.labels = pod.metadata.labels)
    (hannotations : named.metadata.annotations = pod.metadata.annotations) {ms : Dict Json}
    (hread : Reads ms pod) :
    ∃ injected newSpec newMeta,
      Patch.run? patch (.obj ms) =
        some (.obj (Dict.insert (Dict.insert ms "spec" newSpec) "metadata" newMeta)) ∧
      newMeta.isObject = true ∧ injected.metadata = Effect.mark i pod.metadata ∧
      Reads (Dict.insert (Dict.insert ms "spec" newSpec) "metadata" newMeta) injected := by
  obtain ⟨hrequired, hcreate⟩ := mutate_eq_some h
  -- A pod without annotations is never injected, so the metadata is not empty and the
  -- object holds it as a member.
  have hsome : pod.metadata.annotations ≠ none := hannotations ▸ annotations_ne_none hrequired
  have hne : pod.metadata ≠ .empty := by
    intro hempty
    rw [hempty] at hsome
    exact hsome rfl
  obtain ⟨metaJson, hget, hmeta⟩ := hreading.exists_metadata hread hne
  rw [createPatch_eq hi] at hcreate
  obtain ⟨spec, hspecification, hedits⟩ := bind_eq_ok.mp hcreate
  obtain ⟨injected, newSpec, newMeta, hdirect, hrun, hnewMeta, hnew⟩ :=
    run?_podEdits hi hreading hspecification hedits hspec hlabels hannotations hread hget hmeta
  obtain ⟨members, rfl⟩ := Schema.exists_members_of_denotes hnewMeta
  exact ⟨injected, newSpec, _, hrun, rfl, metadata_inject hdirect, hnew⟩

/-! ### Submissions -/

/-- One submission of a document: the pod that it denotes is injected, if it is to be. -/
def submit (i : Injector) (doc : Json) : Except InjectionError Json := do
  let pod ← (Pod.decode doc).mapError .serialization
  match ← i.mutate pod with
  | none => return doc
  | some patch => (patch.apply doc).mapError .invalidPatch

/-- The document after a number of submissions, each of what the one before it gave. -/
def submissions (i : Injector) : Nat → Json → Except InjectionError Json
  | 0, doc => .ok doc
  | n + 1, doc => i.submit doc >>= i.submissions n

/-- A document that denotes a pod to be left alone stays the same, however often it is
submitted. -/
theorem submissions_of_mutate_eq_none {doc : Json} {pod : Pod} (hdecode : Pod.decode doc = .ok pod)
    (h : i.mutate pod = .ok none) (n : Nat) : i.submissions n doc = .ok doc := by
  -- One submission changes nothing, so no number of them does.
  have hsubmit : i.submit doc = .ok doc := by
    rw [submit, hdecode]
    show (do
      match ← i.mutate pod with
      | none => return doc
      | some patch => (patch.apply doc).mapError .invalidPatch) = _
    rw [h]
    rfl
  induction n with
  | zero => rfl
  | succ n ih => rw [submissions, hsubmit, ok_bind, ih]

/-- The patch of a submitted document fits it. The result denotes a pod that is not
injected again. -/
theorem apply_of_mutate (hi : i.registry = .builtin) {doc : Json} {pod : Pod} {patch : Patch}
    (hdecode : Pod.decode doc = .ok pod) (h : i.mutate pod = .ok (some patch)) :
    ∃ new injected, patch.apply doc = .ok new ∧ Pod.decode new = .ok injected ∧
      i.mutate injected = .ok none := by
  have hread := Pod.decode_eq_ok_iff.mp hdecode
  obtain ⟨ms, rfl⟩ := Schema.exists_members_of_denotes hread
  obtain ⟨injected, newSpec, newMeta, hrun, -, hmark, hnew⟩ :=
    run?_mutate hi Pod.reading h rfl rfl rfl hread
  refine ⟨_, injected, Patch.apply_eq_ok.mpr hrun, Pod.decode_eq_ok_iff.mpr hnew, ?_⟩
  exact mutate_eq_none (mutationRequired_mark (congrArg ObjectMeta.annotations hmark))

end Injector

end SidecarInjection
