import SidecarInjection.Injector

/-!
# `SidecarInjection.Admission.Basic`: answers to admission reviews

A cluster asks about an object before it stores it. The answer allows or denies
the object, and may carry a patch. Every failure is a denial.
-/

set_option autoImplicit false

namespace SidecarInjection.Admission

/-- A request about one object. -/
structure Request where
  uid : String
  /-- The kind of the object. -/
  kind : String
  /-- The namespace of the request. -/
  namespaceName : Option String
  /-- The object, with its metadata in written form. -/
  object : Option Json

/-- A review, as it is sent. -/
structure Review where
  apiVersion : String
  kind : String
  request : Option Request

/-- Why a request is denied. -/
inductive Denial where
  | unsupportedKind (kind : String)
  | undecodable (cause : DecodeError)
  | failed (cause : InjectionError)

/-- The words for a denial. -/
def Denial.message : Denial → String
  | .unsupportedKind kind => "Only Pod objects are supported, got " ++ kind
  | .undecodable cause => "failed to parse this DynamicObject into a Resource: " ++ cause.message
  | .failed cause => cause.message

/-- What is decided about an object. -/
inductive Verdict where
  | allowed (patch : Option Patch)
  | denied (denial : Denial)

/-- The pod in the namespace of the request, unless it names its own. -/
def inheritNamespace (namespaceName : Option String) (pod : Pod) : Pod :=
  if (pod.metadata.namespaceName.getD "").isEmpty then
    { pod with metadata := { pod.metadata with namespaceName } }
  else pod

/-- The verdict on the object of a request. -/
def judge (injector : Injector) (request : Request) : Verdict :=
  if request.kind = "Pod" then
    match request.object with
    | none => .allowed none
    | some object =>
      match Pod.decode object with
      | .error e => .denied (.undecodable e)
      | .ok pod =>
        match injector.mutate (inheritNamespace request.namespaceName pod) with
        | .ok patch => .allowed patch
        | .error e => .denied (.failed e)
  else .denied (.unsupportedKind request.kind)

/-- What a response says beside its decision. Empty texts say nothing. -/
structure Status where
  status : String
  message : String
  reason : String
  deriving DecidableEq, Repr

/-- Nothing is said. -/
def Status.empty : Status := ⟨"", "", ""⟩

/-- The answer to a review. -/
structure Response where
  apiVersion : String
  kind : String
  uid : String
  allowed : Bool
  status : Status
  patch : Option Patch

namespace Response

/-- The answer to a review without a request. -/
def invalid : Response where
  apiVersion := "admission.k8s.io/v1beta1"
  kind := "AdmissionReview"
  uid := ""
  allowed := false
  status :=
    { status := "Failure"
      message := "failed to convert AdmissionReview into AdmissionRequest"
      reason := "InvalidRequest" }
  patch := none

/-- The answer to a request. The version and the kind are those of its review. -/
def ofVerdict (apiVersion kind uid : String) : Verdict → Response
  | .allowed patch => ⟨apiVersion, kind, uid, true, .empty, patch⟩
  | .denied denial =>
    ⟨apiVersion, kind, uid, false, { Status.empty with message := denial.message }, none⟩

end Response

/-- Answers a review. -/
def review (injector : Injector) (body : Review) : Response :=
  match body.request with
  | none => .invalid
  | some request =>
    .ofVerdict body.apiVersion body.kind request.uid (judge injector request)

/-! ### Writing responses -/

/-- A text member, left out when the text is empty. -/
def textMember (key text : String) : Dict Json :=
  if text.isEmpty then [] else [(key, .str text)]

/-- The written form. -/
def Status.toJson (s : Status) : Json :=
  .obj (textMember "message" s.message ++ textMember "reason" s.reason ++
    textMember "status" s.status)

/-- The written form of the review that holds a response. -/
def Response.toJson (r : Response) : Json :=
  let members : Dict Json :=
    [("allowed", .bool r.allowed), ("status", r.status.toJson), ("uid", .str r.uid)]
  let members := Dict.insertSome members "patch" (r.patch.map Patch.toJson)
  let members := Dict.insertSome members "patchType" (r.patch.map fun _ => .str "JSONPatch")
  .obj [("apiVersion", .str r.apiVersion), ("kind", .str r.kind), ("response", .obj members)]

end SidecarInjection.Admission
