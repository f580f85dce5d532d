import SidecarInjection.Admission.Basic
import SidecarInjection.Admission.Form

/-!
# `SidecarInjection.Admission.Decode`: reading admission reviews

A review holds a request, and the request holds the object that is asked about.
The object stays in written form, except that its metadata is checked here.
-/

set_option autoImplicit false

namespace SidecarInjection.Admission

/-- A form of three texts. -/
def textForm (name first second third : String) : Form :=
  ⟨name, [first, second, third].map fun key => .required key Schema.text.decode⟩

/-- The group, version and kind of an object. -/
def decodeKind (j : Json) : Except DecodeError Json :=
  .obj <$> (textForm "GroupVersionKind" "group" "version" "kind").decode j

/-- The group, version and resource of an object. -/
def decodeResource (j : Json) : Except DecodeError Json :=
  .obj <$> (textForm "GroupVersionResource" "group" "version" "resource").decode j

/-- A name out of a choice. -/
def decodeName (known : List String) (s : String) : Except DecodeError Json :=
  if known.contains s then .ok (.str s) else .error (.unknownVariant s known)

/-- A choice: its name, or an object that holds `null` under its name. -/
def decodeChoice (known : List String) : Json → Except DecodeError Json
  | .str s => decodeName known s
  | .obj [(s, value)] => do
    let name ← decodeName known s
    match value with
    | .null => return name
    | j => throw (.invalidType (.ofJson j) "unit")
  | .obj _ => .error (.invalidValue .map "map with a single key")
  | j => .error (.invalidType (.ofJson j) "string or map")

/-- A whole number of this many bits without a sign. -/
def decodeUnsigned (bits : Nat) : Json → Except DecodeError Json
  | .int n =>
    if 0 ≤ n ∧ n < Int.pow 2 bits then .ok (.int n)
    else .error (.invalidValue (.int n) ("u" ++ Decimal.text bits))
  | j => .error (.invalidType (.ofJson j) ("u" ++ Decimal.text bits))

/-- A list of items that are read alike. -/
def decodeItems (decode : Json → Except DecodeError Json) : Json → Except DecodeError Json
  | .arr items => .arr <$> items.mapM decode
  | j => .error (.invalidType (.ofJson j) "a sequence")

/-- The members of an object of any kind after its version and kind are read. Both
are kept when both are texts, and dropped otherwise. Reading stops at a version
that is no text, so the kind beside it stays. -/
def keepTypes (members : Dict Json) : Dict Json :=
  match Dict.get? members "apiVersion", Dict.get? members "kind" with
  | some (.str _), some (.str _) => members
  | some (.str _), _ => Dict.erase (Dict.erase members "apiVersion") "kind"
  | none, _ => Dict.erase members "kind"
  | some _, _ => Dict.erase members "apiVersion"

/-- An object of any kind. Its metadata is read, and the rest is kept. -/
def decodeObject : Json → Except DecodeError Json
  | .obj members => do
    let metadata ←
      match Dict.get? members "metadata" with
      | none => .ok Schema.objectMeta.default
      | some j => Schema.objectMeta.decode j
    return .obj (Dict.insert (keepTypes members) "metadata" metadata)
  | j => .error (.invalidType (.ofJson j) "struct DynamicObject")

/-- The operations that a request may be about. -/
def operations : List String := ["CREATE", "UPDATE", "DELETE", "CONNECT"]

/-- What a request holds. -/
def requestForm : Form where
  name := "AdmissionRequest"
  slots :=
    [.required "uid" Schema.text.decode,
     .required "kind" decodeKind,
     .required "resource" decodeResource,
     .optional "subResource" Schema.text.decode,
     .optional "requestKind" decodeKind,
     .optional "requestResource" decodeResource,
     .optional "requestSubResource" Schema.text.decode,
     .defaulted "name" Schema.text.decode (.str ""),
     .optional "namespace" Schema.text.decode,
     .required "operation" (decodeChoice operations),
     .required "userInfo" Schema.userInfo.decode,
     .optionalByName "object" decodeObject,
     .optionalByName "oldObject" decodeObject,
     .defaulted "dryRun" Schema.flag.decode (.bool false),
     .optional "options" Except.ok]

/-- The request that the members of its form denote. -/
def Request.ofMembers (members : Dict Json) : Request where
  uid := ((Dict.get? members "uid").bind Json.text?).getD ""
  kind := ((Dict.get? members "kind").bind (Json.memberText? · "kind")).getD ""
  namespaceName := (Dict.get? members "namespace").bind Json.text?
  object :=
    match Dict.get? members "object" with
    | some .null => none
    | object => object

/-- The request that a JSON value denotes. -/
def Request.decode (j : Json) : Except DecodeError Request :=
  Request.ofMembers <$> requestForm.decode j

/-- One cause of a failure. -/
def causeForm : Form :=
  ⟨"StatusCause", ["reason", "message", "field"].map fun key =>
    .defaulted key Schema.text.decode (.str "")⟩

/-- What belongs to the reason of a failure. -/
def detailsForm : Form :=
  ⟨"StatusDetails",
    (["name", "group", "kind", "uid"].map fun key =>
      .defaulted key Schema.text.decode (.str "")) ++
    [.defaulted "causes" (decodeItems fun j => .obj <$> causeForm.decode j) (.arr []),
     .defaulted "retryAfterSeconds" (decodeUnsigned 32) (.int 0)]⟩

/-- What a response says beside its decision. -/
def statusForm : Form where
  name := "Status"
  slots :=
    [.optional "status" (decodeChoice ["Success", "Failure"]),
     .defaulted "code" (decodeUnsigned 16) (.int 0),
     .defaulted "message" Schema.text.decode (.str ""),
     .defaulted "reason" Schema.text.decode (.str ""),
     .optional "details" fun j => .obj <$> detailsForm.decode j]

/-- What a response holds. -/
def responseForm : Form where
  name := "AdmissionResponse"
  slots :=
    [.required "uid" Schema.text.decode,
     .required "allowed" Schema.flag.decode,
     .required "status" fun j => .obj <$> statusForm.decode j,
     .optionalByName "patch" (decodeItems (decodeUnsigned 8)),
     .optionalByName "patchType" (decodeChoice ["JSONPatch"]),
     .defaulted "auditAnnotations" (Schema.map .text).decode (.obj []),
     .optionalByName "warnings" (Schema.list .text).decode]

/-- The version and the kind of a review. -/
def reviewForm : Form where
  name := "AdmissionReview"
  slots := [.required "apiVersion" Schema.text.decode, .required "kind" Schema.text.decode]

/-- A member of a review that may be absent or `null`. -/
def optionalMember {α : Type} (decode : Json → Except DecodeError α) (members : Dict Json)
    (key : String) : Except DecodeError (Option α) :=
  match Dict.get? members key with
  | none => .ok none
  | some .null => .ok none
  | some j => some <$> decode j

/-- The review that a JSON value denotes. Its request is read first, and then the
response, if it was answered before. -/
def Review.decode : Json → Except DecodeError Review
  | .obj members => do
    let request ← optionalMember Request.decode members "request"
    let _ ← optionalMember responseForm.decode members "response"
    let given ← reviewForm.decodeMembers members
    let text (key : String) : String := ((Dict.get? given key).bind Json.text?).getD ""
    return ⟨text "apiVersion", text "kind", request⟩
  | j => .error (.invalidType (.ofJson j) "struct AdmissionReview")

end SidecarInjection.Admission
