import SidecarInjection.Admission.Basic
import SidecarInjection.Proofs.Injection.Idempotence

/-!
# `SidecarInjection.Proofs.Admission.Review`: what a review is answered

A review is answered in one of many ways: it holds no request, or one about an object of
another kind, or about none, or about one that is no pod, and a pod is left alone, patched or
refused. `Faithful` says what the answer to a request tells about the object, whichever way
was taken.

The namespace of a pod is worked out in two steps. A pod without one, or with the empty one,
is submitted in the namespace of its request (`submitted`), and lies in the default namespace
if there is none either (`residence`). `Skipped` lists the pods that are left alone, in terms
of this namespace and of two annotations.

* `mutationRequired_submitted_iff`: the policy asks for injection unless a pod is skipped.
* `judge_eq_allowed_iff`: what is allowed, and with which patch.
* `review_faithful`: every answer is faithful.
-/

set_option autoImplicit false

namespace SidecarInjection.Admission

open Outcome

/-! ### Statements -/

/-- A pod as it is submitted: in its own namespace, or in that of the request when it names
none or the empty one. -/
def submitted (request : Request) (pod : Pod) : Pod :=
  { pod with metadata := { pod.metadata with
      namespaceName := (pod.metadata.namespaceName.filter (· ≠ "")).or request.namespaceName } }

/-- The namespace in which a submitted pod lies. -/
def residence (request : Request) (pod : Pod) : String :=
  (((submitted request pod).metadata.namespaceName).filter (· ≠ "")).getD "default"

/-- The object of a request is a pod, and this comes of it when it is submitted. -/
def Leads (i : Injector) (request : Request)
    (outcome : Except InjectionError (Option Patch)) : Prop :=
  ∃ object pod, request.object = some object ∧ Pod.decode object = .ok pod ∧
    i.mutate (submitted request pod) = outcome

/-- The annotations of a pod, none when they are absent. -/
def annotations (pod : Pod) : Dict String := pod.metadata.annotations.getD []

/-- A pod that is left alone: it lies in an excluded namespace, it is marked as injected, in
any case, or it does not ask for injection. -/
def Skipped (i : Injector) (request : Request) (pod : Pod) : Prop :=
  residence request pod ∈ ["kube-system", "kube-public"] ∨
    (i.keys.value (annotations pod) "status").toList.map Char.toLower = "injected".toList ∨
    Text.lowercase (i.keys.value (annotations pod) "inject") ∉ ["y", "yes", "true", "on"]

/-- A response that tells what becomes of the object of a request. -/
structure Faithful (i : Injector) (request : Request) (response : Response) : Prop where
  /-- It is the response to this request. -/
  uid : response.uid = request.uid
  /-- The object is allowed just when it is said to be a pod, and there is none or it is one
  that is not refused. -/
  allowed : response.allowed = true ↔
    request.kind = "Pod" ∧ (request.object = none ∨ ∃ outcome, Leads i request (.ok outcome))
  /-- It is patched just when it is a pod for which there is a patch, and with that patch. -/
  patch : ∀ patch, response.patch = some patch ↔
    request.kind = "Pod" ∧ Leads i request (.ok (some patch))
  /-- What is not allowed is not patched. -/
  denied : response.allowed = false → response.patch = none
  /-- Of the pods, those that are left alone are allowed as they are, and no others. -/
  skipped : ∀ object pod, request.kind = "Pod" → request.object = some object →
    Pod.decode object = .ok pod →
      (response.allowed = true ∧ response.patch = none ↔ Skipped i request pod)

/-! ### Namespaces and policies -/

/-- A request lends its namespace just to the pods that name none. -/
theorem inheritNamespace_eq (request : Request) (pod : Pod) :
    inheritNamespace request.namespaceName pod = submitted request pod := by
  unfold inheritNamespace submitted
  cases hown : pod.metadata.namespaceName with
  | none => rfl
  | some own =>
    by_cases hempty : own = ""
    · subst hempty
      rfl
    · -- A pod that names a namespace is submitted as it is.
      have hkept : (some own).filter (· ≠ "") = some own := by simp [Option.filter, hempty]
      have hnonempty : own.isEmpty = false := by simpa using hempty
      rw [hkept, Option.some_or, Option.getD_some, hnonempty, ← hown]
      rfl

/-- A pod that is submitted counts as being in its own namespace, or else in the one of the request.
-/
theorem effectiveNamespace_submitted (request : Request) (pod : Pod) :
    Policy.effectiveNamespace (submitted request pod).metadata = residence request pod := by
  unfold Policy.effectiveNamespace residence
  cases (submitted request pod).metadata.namespaceName with
  | none => rfl
  | some name =>
    by_cases hempty : name = ""
    · subst hempty
      rfl
    · simp [Option.filter, hempty]

/-- The policy asks for injection unless a pod is skipped. -/
theorem mutationRequired_submitted_iff (i : Injector) (request : Request) (pod : Pod) :
    i.mutationRequired (submitted request pod).metadata = true ↔ ¬ Skipped i request pod := by
  have hinjected : Annotations.injected.toList.map Char.toLower = "injected".toList := by decide
  have hannotations : (submitted request pod).metadata.annotations.getD [] = annotations pod := rfl
  unfold Injector.mutationRequired Policy.mutationRequired Skipped
  rw [effectiveNamespace_submitted, hannotations]
  simp only [Policy.equalIgnoringAsciiCase, hinjected, Policy.ignoredNamespaces,
    Annotations.isTruthy, Annotations.status, Annotations.inject, Bool.and_eq_true,
    Bool.not_eq_true', List.contains_eq_mem, decide_eq_true_eq, decide_eq_false_iff_not,
    beq_eq_false_iff_ne, not_or, not_not, and_assoc]

/-! ### Verdicts -/

variable {i : Injector} {request : Request}

/-- What an injector makes of the object of a request. -/
theorem leads_iff {object : Json} {pod : Pod} (hobject : request.object = some object)
    (hdecode : Pod.decode object = .ok pod) {outcome : Except InjectionError (Option Patch)} :
    Leads i request outcome ↔ i.mutate (submitted request pod) = outcome := by
  constructor
  · rintro ⟨object', pod', hobject', hdecode', rfl⟩
    obtain rfl : object = object' := Option.some.inj (hobject.symm.trans hobject')
    obtain rfl : pod = pod' := Except.ok.inj (hdecode.symm.trans hdecode')
    rfl
  · exact fun h => ⟨object, pod, hobject, hdecode, h⟩

/-- Nothing comes of an object that is no pod. -/
theorem not_leads {object : Json} {e : DecodeError} (hobject : request.object = some object)
    (hdecode : Pod.decode object = .error e) {outcome : Except InjectionError (Option Patch)} :
    ¬ Leads i request outcome := by
  rintro ⟨object', pod, hobject', hdecode', -⟩
  obtain rfl : object = object' := Option.some.inj (hobject.symm.trans hobject')
  rw [hdecode] at hdecode'
  cases hdecode'

/-- What is allowed, and with which patch: nothing at all, or a pod that is not refused. -/
theorem judge_eq_allowed_iff {patch : Option Patch} :
    judge i request = .allowed patch ↔
      request.kind = "Pod" ∧
        (request.object = none ∧ patch = none ∨ Leads i request (.ok patch)) := by
  unfold judge
  split
  case isFalse hkind => simp [hkind]
  case isTrue hkind =>
    rw [and_iff_right hkind]
    cases hobject : request.object with
    | none =>
      -- Without an object there is nothing to refuse.
      have hnone : ¬ Leads i request (.ok patch) := by
        rintro ⟨object, -, h, -⟩
        rw [hobject] at h
        cases h
      simp [hnone, eq_comm]
    | some object =>
      cases hdecode : Pod.decode object with
      | error e => simp [hdecode, not_leads hobject hdecode]
      | ok pod =>
        rw [leads_iff hobject hdecode, ← inheritNamespace_eq]
        cases hmutate : i.mutate (inheritNamespace request.namespaceName pod) <;>
          simp [hdecode, hmutate]

/-- A review with a request answers with the verdict on it, under the version and the uid that it
came with. -/
theorem review_eq {body : Review} (hrequest : body.request = some request) :
    review i body = .ofVerdict body.apiVersion body.kind request.uid (judge i request) := by
  rw [review, hrequest]

section

variable {apiVersion kind uid : String} {verdict : Verdict}

/-- A response has the uid of its request, whatever the verdict is. -/
@[simp] theorem Response.uid_ofVerdict :
    (Response.ofVerdict apiVersion kind uid verdict).uid = uid := by
  cases verdict <;> rfl

/-- It allows what the verdict allows, with or without a patch. -/
theorem Response.allowed_ofVerdict :
    (Response.ofVerdict apiVersion kind uid verdict).allowed = true ↔
      ∃ patch, verdict = .allowed patch := by
  cases verdict <;> simp [Response.ofVerdict]

/-- It has the patch of the verdict, and no other one. -/
theorem Response.patch_ofVerdict {patch : Patch} :
    (Response.ofVerdict apiVersion kind uid verdict).patch = some patch ↔
      verdict = .allowed (some patch) := by
  cases verdict <;> simp [Response.ofVerdict]

/-- A response that denies carries no patch. -/
theorem Response.patch_ofVerdict_of_denied
    (h : (Response.ofVerdict apiVersion kind uid verdict).allowed = false) :
    (Response.ofVerdict apiVersion kind uid verdict).patch = none := by
  cases verdict with
  | allowed patch => cases h
  | denied denial => rfl

/-- A response that allows and has no patch tells of a pod that is left as it is. -/
theorem Response.kept_ofVerdict :
    (Response.ofVerdict apiVersion kind uid verdict).allowed = true ∧
        (Response.ofVerdict apiVersion kind uid verdict).patch = none ↔
      verdict = .allowed none := by
  cases verdict <;> simp [Response.ofVerdict]

end

/-! ### Responses -/

/-- A pod is left alone just when nothing comes of it. -/
theorem leads_none_iff {object : Json} {pod : Pod} (hobject : request.object = some object)
    (hdecode : Pod.decode object = .ok pod) :
    Leads i request (.ok none) ↔ Skipped i request pod := by
  rw [leads_iff hobject hdecode, ← not_iff_not, ← mutationRequired_submitted_iff]
  constructor
  · intro hpatched
    by_contra hskipped
    exact hpatched (Injector.mutate_eq_none (Bool.eq_false_iff.mpr hskipped))
  · intro hrequired hnone
    rw [Injector.mutate, if_pos hrequired] at hnone
    -- A pod that is to be injected is patched or refused.
    cases hcreate : i.createPatch (submitted request pod) <;> rw [hcreate] at hnone <;> cases hnone

/-- The response to every request is faithful. -/
theorem faithful_review {body : Review} (hrequest : body.request = some request) :
    Faithful i request (review i body) := by
  rw [review_eq hrequest]
  refine ⟨Response.uid_ofVerdict, ?allowed, fun patch => ?patch, fun hdenied => ?denied,
    fun object pod hkind hobject hdecode => ?skipped⟩
  -- A verdict allows with any patch, so the patch is left open on both sides.
  case allowed =>
    simp only [Response.allowed_ofVerdict, judge_eq_allowed_iff, exists_and_left, exists_or,
      exists_eq, and_true]
  case patch =>
    rw [Response.patch_ofVerdict, judge_eq_allowed_iff]
    simp
  case denied => exact Response.patch_ofVerdict_of_denied hdenied
  -- Only an object that is a pod can be skipped.
  case skipped =>
    rw [Response.kept_ofVerdict, judge_eq_allowed_iff, ← leads_none_iff hobject hdecode]
    simp [hkind, hobject]

/-- A review without a request is denied, with no name and no patch. Every request gets a
faithful response. -/
theorem review_faithful (i : Injector) (body : Review) :
    match body.request with
    | none =>
      (review i body).allowed = false ∧ (review i body).uid = "" ∧ (review i body).patch = none
    | some request => Faithful i request (review i body) := by
  cases hrequest : body.request with
  | none =>
    rw [review, hrequest]
    exact ⟨rfl, rfl, rfl⟩
  | some request => exact faithful_review hrequest

end SidecarInjection.Admission
