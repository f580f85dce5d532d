import SidecarInjection.Pod.Container
import SidecarInjection.Schema.Pod

/-!
# `SidecarInjection.Pod.Basic`: typed pods

A pod as it is submitted: its metadata, what it runs, and its status, which is
passed on unread.
-/

set_option autoImplicit false

namespace SidecarInjection

/-- A volume of a pod. Only its name is read. -/
structure Volume where
  name : String
  extra : Extra (Schema.volume.fields.without ["name"])

namespace Volume

/-- The written form. -/
def toJson (v : Volume) : Json := .obj (Dict.insert v.extra.members "name" (.str v.name))

/-- The volume that a written form denotes. -/
def ofJson (j : Json) : Volume where
  name := (j.memberText? "name").getD ""
  extra := .ofJson _ j

end Volume

/-- The metadata of an object. -/
structure ObjectMeta where
  name : Option String
  generateName : Option String
  namespaceName : Option String
  labels : Option (Dict String)
  annotations : Option (Dict String)
  extra : Extra (Schema.objectMeta.fields.without
    ["name", "generateName", "namespace", "labels", "annotations"])

namespace ObjectMeta

/-- The written form. -/
def toJson (m : ObjectMeta) : Json :=
  let members := Dict.insertSome m.extra.members "name" (m.name.map .str)
  let members := Dict.insertSome members "generateName" (m.generateName.map .str)
  let members := Dict.insertSome members "namespace" (m.namespaceName.map .str)
  let members := Dict.insertSome members "labels" (m.labels.map Json.textMap)
  let members := Dict.insertSome members "annotations" (m.annotations.map Json.textMap)
  .obj members

/-- The metadata that a written form denotes. -/
def ofJson (j : Json) : ObjectMeta where
  name := j.memberText? "name"
  generateName := j.memberText? "generateName"
  namespaceName := j.memberText? "namespace"
  labels := (j.member? "labels").bind Json.textMap?
  annotations := (j.member? "annotations").bind Json.textMap?
  extra := .ofJson _ j

/-- Metadata that says nothing. -/
def empty : ObjectMeta := ⟨none, none, none, none, none, .empty _⟩

/-- The metadata that a JSON value denotes. -/
def decode (j : Json) : Except DecodeError ObjectMeta :=
  ofJson <$> Schema.objectMeta.decode j

end ObjectMeta

/-- What a pod runs. -/
structure PodSpec where
  containers : List Container
  initContainers : Option (List Container)
  volumes : Option (List Volume)
  extra : Extra (Schema.podSpec.fields.without ["containers", "initContainers", "volumes"])

namespace PodSpec

/-- The written form. -/
def toJson (s : PodSpec) : Json :=
  let members := Dict.insert s.extra.members "containers" (.arr (s.containers.map Container.toJson))
  let members := Dict.insertSome members "initContainers"
    (s.initContainers.map fun cs => .arr (cs.map Container.toJson))
  let members := Dict.insertSome members "volumes"
    (s.volumes.map fun vs => .arr (vs.map Volume.toJson))
  .obj members

/-- The specification that a written form denotes. -/
def ofJson (j : Json) : PodSpec where
  containers := (j.memberList? Container.ofJson "containers").getD []
  initContainers := j.memberList? Container.ofJson "initContainers"
  volumes := j.memberList? Volume.ofJson "volumes"
  extra := .ofJson _ j

/-- The specification that a JSON value denotes. -/
def decode (j : Json) : Except DecodeError PodSpec := ofJson <$> Schema.podSpec.decode j

end PodSpec

/-- A pod. -/
structure Pod where
  metadata : ObjectMeta
  spec : Option PodSpec
  status : Option (Extra Schema.podStatus.fields)

namespace Pod

/-- The written form. -/
def toJson (p : Pod) : Json :=
  let members : Dict Json :=
    [("apiVersion", .str "v1"), ("kind", .str "Pod"), ("metadata", p.metadata.toJson)]
  let members := Dict.insertSome members "spec" (p.spec.map PodSpec.toJson)
  let members := Dict.insertSome members "status" (p.status.map fun s => .obj s.members)
  .obj members

/-- The pod that a written form denotes. -/
def ofJson (j : Json) : Pod where
  metadata := ((j.member? "metadata").map ObjectMeta.ofJson).getD .empty
  spec := (j.member? "spec").map PodSpec.ofJson
  status := (j.member? "status").map fun s => .ofJson _ s

/-- The pod that a JSON value denotes. -/
def decode (j : Json) : Except DecodeError Pod := ofJson <$> Schema.pod.decode j

end Pod

/-- What a workload makes its pods from. -/
structure PodTemplate where
  metadata : Option ObjectMeta
  spec : Option PodSpec

namespace PodTemplate

/-- The template that a written form denotes. -/
def ofJson (j : Json) : PodTemplate where
  metadata := (j.member? "metadata").map ObjectMeta.ofJson
  spec := (j.member? "spec").map PodSpec.ofJson

/-- The template that a JSON value denotes. -/
def decode (j : Json) : Except DecodeError PodTemplate :=
  ofJson <$> Schema.podTemplateSpec.decode j

/-- A pod made from the template. -/
def pod (t : PodTemplate) : Pod := ⟨t.metadata.getD .empty, t.spec, none⟩

end PodTemplate

end SidecarInjection
