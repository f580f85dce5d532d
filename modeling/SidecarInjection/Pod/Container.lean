import SidecarInjection.Schema.Container
import SidecarInjection.Schema.Decode
import SidecarInjection.Schema.Extra

/-!
# `SidecarInjection.Pod.Container`: typed containers

Each type has a written form, `toJson`, and is read back from it by `ofJson`.
`ofJson` is total: a member that is not of its shape counts as absent. Objects
of unknown origin go through the shape's decoder first.
-/

set_option autoImplicit false

namespace SidecarInjection

/-- The items of a list member, each read by `f`. -/
def Json.memberList? {α : Type} (f : Json → α) (j : Json) (key : String) : Option (List α) :=
  ((j.member? key).bind Json.items?).map (List.map f)

/-- An environment variable of a container. -/
structure EnvVar where
  name : String
  value : Option String
  extra : Extra (Schema.envVar.fields.without ["name", "value"])

namespace EnvVar

/-- The written form. -/
def toJson (e : EnvVar) : Json :=
  .obj (Dict.insertSome (Dict.insert e.extra.members "name" (.str e.name)) "value"
    (e.value.map .str))

/-- The variable that a written form denotes. -/
def ofJson (j : Json) : EnvVar where
  name := (j.memberText? "name").getD ""
  value := j.memberText? "value"
  extra := .ofJson _ j

end EnvVar

/-- A volume mounted into a container. -/
structure VolumeMount where
  name : String
  mountPath : String
  extra : Extra (Schema.volumeMount.fields.without ["name", "mountPath"])

namespace VolumeMount

/-- The written form. -/
def toJson (m : VolumeMount) : Json :=
  .obj (Dict.insert (Dict.insert m.extra.members "name" (.str m.name)) "mountPath"
    (.str m.mountPath))

/-- The mount that a written form denotes. -/
def ofJson (j : Json) : VolumeMount where
  name := (j.memberText? "name").getD ""
  mountPath := (j.memberText? "mountPath").getD ""
  extra := .ofJson _ j

/-- A plain mount of a volume. -/
def plain (name mountPath : String) : VolumeMount := ⟨name, mountPath, .empty _⟩

end VolumeMount

/-- A command run in a container. -/
structure ExecAction where
  command : Option (List String)

namespace ExecAction

/-- The written form. -/
def toJson (a : ExecAction) : Json :=
  .obj (Dict.insertSome [] "command" (a.command.map Json.texts))

/-- The command that a written form denotes. -/
def ofJson (j : Json) : ExecAction := ⟨(j.member? "command").bind Json.texts?⟩

end ExecAction

/-- What is done at one moment of a container's life. -/
structure LifecycleHandler where
  exec : Option ExecAction
  extra : Extra (Schema.lifecycleHandler.fields.without ["exec"])

namespace LifecycleHandler

/-- The written form. -/
def toJson (h : LifecycleHandler) : Json :=
  .obj (Dict.insertSome h.extra.members "exec" (h.exec.map ExecAction.toJson))

/-- The handler that a written form denotes. -/
def ofJson (j : Json) : LifecycleHandler where
  exec := (j.member? "exec").map ExecAction.ofJson
  extra := .ofJson _ j

/-- A handler that runs a command. -/
def run (command : Option (List String)) : LifecycleHandler := ⟨some ⟨command⟩, .empty _⟩

end LifecycleHandler

/-- The moments of a container's life at which something is done. -/
structure Lifecycle where
  postStart : Option LifecycleHandler
  extra : Extra (Schema.lifecycle.fields.without ["postStart"])

namespace Lifecycle

/-- The written form. -/
def toJson (l : Lifecycle) : Json :=
  .obj (Dict.insertSome l.extra.members "postStart" (l.postStart.map LifecycleHandler.toJson))

/-- The lifecycle that a written form denotes. -/
def ofJson (j : Json) : Lifecycle where
  postStart := (j.member? "postStart").map LifecycleHandler.ofJson
  extra := .ofJson _ j

/-- Nothing is done at any moment. -/
def empty : Lifecycle := ⟨none, .empty _⟩

end Lifecycle

/-- A container of a pod. -/
structure Container where
  name : String
  command : Option (List String)
  args : Option (List String)
  env : Option (List EnvVar)
  lifecycle : Option Lifecycle
  volumeMounts : Option (List VolumeMount)
  extra : Extra (Schema.container.fields.without
    ["name", "command", "args", "env", "lifecycle", "volumeMounts"])

namespace Container

/-- The written form. -/
def toJson (c : Container) : Json :=
  let members := Dict.insert c.extra.members "name" (.str c.name)
  let members := Dict.insertSome members "command" (c.command.map Json.texts)
  let members := Dict.insertSome members "args" (c.args.map Json.texts)
  let members := Dict.insertSome members "env" (c.env.map fun es => .arr (es.map EnvVar.toJson))
  let members := Dict.insertSome members "lifecycle" (c.lifecycle.map Lifecycle.toJson)
  let members := Dict.insertSome members "volumeMounts"
    (c.volumeMounts.map fun ms => .arr (ms.map VolumeMount.toJson))
  .obj members

/-- The container that a written form denotes. -/
def ofJson (j : Json) : Container where
  name := (j.memberText? "name").getD ""
  command := (j.member? "command").bind Json.texts?
  args := (j.member? "args").bind Json.texts?
  env := j.memberList? EnvVar.ofJson "env"
  lifecycle := (j.member? "lifecycle").map Lifecycle.ofJson
  volumeMounts := j.memberList? VolumeMount.ofJson "volumeMounts"
  extra := .ofJson _ j

/-- The container that a JSON value denotes. -/
def decode (j : Json) : Except DecodeError Container :=
  ofJson <$> Schema.container.decode j

/-- The mounts of a container, none when the list is absent. -/
def mounts (c : Container) : List VolumeMount := c.volumeMounts.getD []

end Container

end SidecarInjection
