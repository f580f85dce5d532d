import SidecarInjection.Injector
import SidecarInjection.Yaml.Value
import SidecarInjection.Yaml.Writer

/-!
# `SidecarInjection.Manifest`: injecting workloads before they are deployed

A document of a manifest is a pod, or a workload that holds a pod template.
Injection edits the pod or the template in place. Documents of other kinds stay
as they are, and empty documents are dropped.
-/

set_option autoImplicit false

namespace SidecarInjection.Manifest

/-- Where documents of a kind hold their pod or pod template. -/
def podPointer? (kind : String) : Option Pointer :=
  if kind = "Pod" then some []
  else if ["Deployment", "StatefulSet", "DaemonSet", "ReplicaSet", "Job"].contains kind then
    some ["spec", "template"]
  else if kind = "CronJob" then some ["spec", "jobTemplate", "spec", "template"]
  else none

/-- The object with metadata, empty ones when there were none. -/
def withMetadata : Json → Json
  | .obj members =>
    match Dict.get? members "metadata" with
    | none => .obj (Dict.insert members "metadata" (.obj []))
    | some .null => .obj (Dict.insert members "metadata" (.obj []))
    | some _ => .obj members
  | j => j

/-- The pod that a document at this pointer denotes, or makes. -/
def decodePod (pointer : Pointer) (target : Json) : Except InjectionError Pod :=
  if pointer.isEmpty then (Pod.decode target).mapError .serialization
  else ((PodTemplate.decode target).map PodTemplate.pod).mapError .serialization

/-- The pod in the namespace of its document, unless it names its own. -/
def inheritNamespace (namespaceName : Option String) (pod : Pod) : Pod :=
  if pod.metadata.namespaceName.isNone then
    { pod with metadata := { pod.metadata with namespaceName } }
  else pod

/-- The injected form of a pod or pod template, in a document of this namespace. -/
def injectTarget (injector : Injector) (pointer : Pointer) (namespaceName : Option String)
    (target : Json) : Except InjectionError Json := do
  let target := withMetadata target
  let pod ← decodePod pointer target
  match ← injector.mutate (inheritNamespace namespaceName pod) with
  | some patch => (patch.apply target).mapError .invalidPatch
  | none => return target

/-- The text of a member of the metadata of a document. -/
def metadataText? (doc : Json) (key : String) : Option String :=
  (doc.member? "metadata").bind fun m => m.memberText? key

/-- The document with a value put in place of the one at a pointer. -/
def put (pointer : Pointer) (value doc : Json) : Json :=
  (Pointer.modify? pointer (fun _ => some value) doc).getD doc

/-- Injects a document. -/
def injectDocument (injector : Injector) (doc : Json) : Except InjectionError Json :=
  let kind := (doc.memberText? "kind").getD ""
  match podPointer? kind with
  | none => .ok doc
  | some pointer =>
    match (Pointer.get? pointer doc).filter Json.isObject with
    | none =>
      .error (.noPodTemplate kind ((metadataText? doc "name").getD "") (Pointer.text pointer))
    | some target => do
      let new ← injectTarget injector pointer (metadataText? doc "namespace") target
      return put pointer new doc

/-- Injects documents in order. The run stops at the first one that fails or has
no value. -/
def injectDocuments (injector : Injector) : List (Option Json) → Except InjectionError (List Json)
  | [] => .ok []
  | none :: _ => .error .yaml
  | some doc :: rest =>
    if doc.isNull then injectDocuments injector rest
    else do
      let new ← injectDocument injector doc
      let others ← injectDocuments injector rest
      return new :: others

/-- The line between two documents. -/
def separator : String := "---\n"

/-- Injects every document of a manifest. -/
def inject (injector : Injector) (manifest : String) : Except InjectionError String := do
  let documents ← injectDocuments injector (Yaml.values manifest)
  return separator.intercalate (documents.map Yaml.write)

end SidecarInjection.Manifest
