import SidecarInjection.Proofs.Schema.Record
import SidecarInjection.Proofs.Schema.Regular

/-!
# `SidecarInjection.Proofs.Pod.Container`: typed containers as shapes

Every type of `SidecarInjection.Pod.Container` has exactly the written forms of
its shape.

* `EnvVar.codec`, `VolumeMount.codec`, `ExecAction.codec`,
  `LifecycleHandler.codec`, `Lifecycle.codec`, `Container.codec`: a value is
  written in its shape and read back.
* `Container.decode_eq_ok_iff`: a container is decoded from what denotes it.
-/

set_option autoImplicit false

namespace SidecarInjection

open Outcome
open Schema (Codec)
open Fields.View (Sound)

/-- Without fields there is only one way to give the members. -/
theorem Extra.eq_empty {fields : Fields} (hf : fields = .nil) (e : Extra fields) :
    Extra.empty fields = e := by
  subst hf
  have hconf : Fields.nil.conform e.members = true := e.conform
  refine Extra.ext ?_
  show [] = e.members
  cases hms : e.members with
  | nil => rfl
  | cons e' es => simp [hms, Fields.conform] at hconf

namespace Schema.Codec

variable {β : Type} {s : Schema} {write : β → Json} {ms : Dict Json} {key : String}

/-- A member that holds a list of values is read back. -/
theorem memberList?_eq {f : Json → β} (c : s.Codec (fun j => some (f j)) write)
    {b : Option (List β)} (h : Dict.get? ms key = b.map fun bs => .arr (bs.map write)) :
    (Json.obj ms).memberList? f key = b := by
  rw [Json.memberList?, Option.map_bind]
  show (Dict.get? ms key).bind _ = b
  rw [h]
  exact c.list.bind_read b

/-- A member that holds a value is read back. -/
theorem map_member?_eq {f : Json → β} (c : s.Codec (fun j => some (f j)) write) {b : Option β}
    (h : Dict.get? ms key = b.map write) : ((Json.obj ms).member? key).map f = b := by
  show (Dict.get? ms key).map f = b
  rw [h, Option.map_eq_bind]
  exact c.bind_read b

/-- A member that holds a value of a partial reader is read back. -/
theorem bind_member?_eq {read : Json → Option β} (c : s.Codec read write) {b : Option β}
    (h : Dict.get? ms key = b.map write) : ((Json.obj ms).member? key).bind read = b := by
  show (Dict.get? ms key).bind read = b
  rw [h]
  exact c.bind_read b

end Schema.Codec

/-! ### Environment variables and mounts -/

namespace EnvVar

/-- The members that are read: the name and the value. -/
def view : Schema.envVar.fields.View EnvVar where
  names := ["name", "value"]
  values e := [("name", some (.str e.name)), ("value", e.value.map .str)]
  extra := EnvVar.extra

/-- A variable has a name and may have a value. -/
theorem sound : view.Sound ofJson where
  regular := Schema.regular_envVar
  nodup := by decide
  keys _ := rfl
  allows e := by
    simp only [view, List.forall_mem_cons]
    exact ⟨Codec.allows_present .text rfl rfl _, Codec.allows_optional .text rfl _, nofun⟩
  reads e ms hvalues hextra := by
    simp only [view, List.forall_mem_cons] at hvalues
    obtain ⟨hname, hvalue, -⟩ := hvalues
    have hname : (Json.obj ms).memberText? "name" = some e.name :=
      Codec.bind_member?_eq .text (b := some e.name) hname
    have hvalue : (Json.obj ms).memberText? "value" = e.value :=
      Codec.bind_member?_eq .text hvalue
    have hextra : Extra.ofJson _ (.obj ms) = e.extra := hextra
    rw [ofJson, hname, hvalue, hextra]
    rfl
  covers ms hms other := by
    have hallows := ((Fields.conform_iff Schema.regular_envVar).mp hms).2
    obtain ⟨name, hname⟩ := Codec.exists_present .text rfl rfl (hallows "name")
    obtain ⟨value, hvalue⟩ := Codec.exists_optional .text rfl (hallows "value")
    refine ⟨⟨name, value, other⟩, rfl, ?_⟩
    simp only [view, List.forall_mem_cons]
    exact ⟨hname, hvalue, nofun⟩

/-- So a written variable is decoded as it is. -/
theorem codec : Schema.envVar.Codec (fun j => some (ofJson j)) toJson := Sound.codec sound _

end EnvVar

namespace VolumeMount

/-- The members that are read: the name of the volume and the place of the mount. -/
def view : Schema.volumeMount.fields.View VolumeMount where
  names := ["name", "mountPath"]
  values m := [("name", some (.str m.name)), ("mountPath", some (.str m.mountPath))]
  extra := VolumeMount.extra

/-- A mount has a name and a path. -/
theorem sound : view.Sound ofJson where
  regular := Schema.regular_volumeMount
  nodup := by decide
  keys _ := rfl
  allows m := by
    simp only [view, List.forall_mem_cons]
    exact ⟨Codec.allows_present .text rfl rfl _, Codec.allows_present .text rfl rfl _, nofun⟩
  reads m ms hvalues hextra := by
    simp only [view, List.forall_mem_cons] at hvalues
    obtain ⟨hname, hpath, -⟩ := hvalues
    have hname : (Json.obj ms).memberText? "name" = some m.name :=
      Codec.bind_member?_eq .text (b := some m.name) hname
    have hpath : (Json.obj ms).memberText? "mountPath" = some m.mountPath :=
      Codec.bind_member?_eq .text (b := some m.mountPath) hpath
    have hextra : Extra.ofJson _ (.obj ms) = m.extra := hextra
    rw [ofJson, hname, hpath, hextra]
    rfl
  covers ms hms other := by
    have hallows := ((Fields.conform_iff Schema.regular_volumeMount).mp hms).2
    obtain ⟨name, hname⟩ := Codec.exists_present .text rfl rfl (hallows "name")
    obtain ⟨path, hpath⟩ := Codec.exists_present .text rfl rfl (hallows "mountPath")
    refine ⟨⟨name, path, other⟩, rfl, ?_⟩
    simp only [view, List.forall_mem_cons]
    exact ⟨hname, hpath, nofun⟩

/-- So a written mount is decoded as it is. -/
theorem codec : Schema.volumeMount.Codec (fun j => some (ofJson j)) toJson := Sound.codec sound _

end VolumeMount

/-! ### Hooks -/

namespace ExecAction

/-- The only member is the command. -/
def view : Schema.execAction.fields.View ExecAction where
  names := ["command"]
  values a := [("command", a.command.map Json.texts)]
  extra _ := .empty _

/-- A command that is executed may be absent. -/
theorem sound : view.Sound ofJson where
  regular := Schema.regular_execAction
  nodup := by decide
  keys _ := rfl
  allows a := by
    simp only [view, List.forall_mem_cons]
    exact ⟨Codec.allows_optional .texts rfl _, nofun⟩
  reads a ms hvalues _ := by
    simp only [view, List.forall_mem_cons] at hvalues
    have hcommand := Codec.bind_member?_eq .texts hvalues.1
    rw [ofJson, hcommand]
  covers ms hms other := by
    have hallows := ((Fields.conform_iff Schema.regular_execAction).mp hms).2
    obtain ⟨command, hcommand⟩ := Codec.exists_optional .texts rfl (hallows "command")
    -- An action keeps nothing but its command.
    refine ⟨⟨command⟩, Extra.eq_empty rfl _, ?_⟩
    simp only [view, List.forall_mem_cons]
    exact ⟨hcommand, nofun⟩

/-- So a written command is decoded as it is. -/
theorem codec : Schema.execAction.Codec (fun j => some (ofJson j)) toJson := Sound.codec sound _

end ExecAction

namespace LifecycleHandler

/-- The member that is read: the command to run. -/
def view : Schema.lifecycleHandler.fields.View LifecycleHandler where
  names := ["exec"]
  values h := [("exec", h.exec.map ExecAction.toJson)]
  extra := LifecycleHandler.extra

/-- A handler may execute a command. -/
theorem sound : view.Sound ofJson where
  regular := Schema.regular_lifecycleHandler
  nodup := by decide
  keys _ := rfl
  allows h := by
    simp only [view, List.forall_mem_cons]
    exact ⟨Codec.allows_optional ExecAction.codec rfl _, nofun⟩
  reads h ms hvalues hextra := by
    simp only [view, List.forall_mem_cons] at hvalues
    have hexec := Codec.map_member?_eq ExecAction.codec hvalues.1
    have hextra : Extra.ofJson _ (.obj ms) = h.extra := hextra
    rw [ofJson, hexec, hextra]
  covers ms hms other := by
    have hallows := ((Fields.conform_iff Schema.regular_lifecycleHandler).mp hms).2
    obtain ⟨exec, hexec⟩ := Codec.exists_optional ExecAction.codec rfl (hallows "exec")
    refine ⟨⟨exec, other⟩, rfl, ?_⟩
    simp only [view, List.forall_mem_cons]
    exact ⟨hexec, nofun⟩

/-- So a written handler is decoded as it is. -/
theorem codec : Schema.lifecycleHandler.Codec (fun j => some (ofJson j)) toJson :=
  Sound.codec sound _

end LifecycleHandler

namespace Lifecycle

/-- The member that is read: what is done after the start. -/
def view : Schema.lifecycle.fields.View Lifecycle where
  names := ["postStart"]
  values l := [("postStart", l.postStart.map LifecycleHandler.toJson)]
  extra := Lifecycle.extra

/-- A lifecycle may have a handler for the start. -/
theorem sound : view.Sound ofJson where
  regular := Schema.regular_lifecycle
  nodup := by decide
  keys _ := rfl
  allows l := by
    simp only [view, List.forall_mem_cons]
    exact ⟨Codec.allows_optional LifecycleHandler.codec rfl _, nofun⟩
  reads l ms hvalues hextra := by
    simp only [view, List.forall_mem_cons] at hvalues
    have hpost := Codec.map_member?_eq LifecycleHandler.codec hvalues.1
    have hextra : Extra.ofJson _ (.obj ms) = l.extra := hextra
    rw [ofJson, hpost, hextra]
  covers ms hms other := by
    have hallows := ((Fields.conform_iff Schema.regular_lifecycle).mp hms).2
    obtain ⟨post, hpost⟩ := Codec.exists_optional LifecycleHandler.codec rfl (hallows "postStart")
    refine ⟨⟨post, other⟩, rfl, ?_⟩
    simp only [view, List.forall_mem_cons]
    exact ⟨hpost, nofun⟩

/-- So a written lifecycle is decoded as it is. -/
theorem codec : Schema.lifecycle.Codec (fun j => some (ofJson j)) toJson := Sound.codec sound _

end Lifecycle

/-! ### Containers -/

namespace Container

/-- The members that are read. -/
def view : Schema.container.fields.View Container where
  names := ["name", "command", "args", "env", "lifecycle", "volumeMounts"]
  values c :=
    [("name", some (.str c.name)), ("command", c.command.map Json.texts),
     ("args", c.args.map Json.texts), ("env", c.env.map fun es => .arr (es.map EnvVar.toJson)),
     ("lifecycle", c.lifecycle.map Lifecycle.toJson),
     ("volumeMounts", c.volumeMounts.map fun ms => .arr (ms.map VolumeMount.toJson))]
  extra := Container.extra

/-- A container has a name, and may have any of the other members that are read. -/
theorem sound : view.Sound ofJson where
  regular := Schema.regular_container
  nodup := by decide
  keys _ := rfl
  allows c := by
    simp only [view, List.forall_mem_cons]
    exact ⟨Codec.allows_present .text rfl rfl _, Codec.allows_optional .texts rfl _,
      Codec.allows_optional .texts rfl _, Codec.allows_optional (.list EnvVar.codec) rfl _,
      Codec.allows_optional Lifecycle.codec rfl _,
      Codec.allows_optional (.list VolumeMount.codec) rfl _, nofun⟩
  reads c ms hvalues hextra := by
    simp only [view, List.forall_mem_cons] at hvalues
    obtain ⟨hname, hcommand, hargs, henv, hlifecycle, hmounts, -⟩ := hvalues
    have hname : (Json.obj ms).memberText? "name" = some c.name :=
      Codec.bind_member?_eq .text (b := some c.name) hname
    have hcommand := Codec.bind_member?_eq .texts hcommand
    have hargs := Codec.bind_member?_eq .texts hargs
    have henv := Codec.memberList?_eq EnvVar.codec henv
    have hlifecycle := Codec.map_member?_eq Lifecycle.codec hlifecycle
    have hmounts := Codec.memberList?_eq VolumeMount.codec hmounts
    have hextra : Extra.ofJson _ (.obj ms) = c.extra := hextra
    -- Six members by name, and the rest of the container as it was written.
    rw [ofJson, hname, hcommand, hargs, henv, hlifecycle, hmounts, hextra]
    rfl
  covers ms hms other := by
    have hallows := ((Fields.conform_iff Schema.regular_container).mp hms).2
    obtain ⟨name, hname⟩ := Codec.exists_present .text rfl rfl (hallows "name")
    obtain ⟨command, hcommand⟩ := Codec.exists_optional .texts rfl (hallows "command")
    obtain ⟨args, hargs⟩ := Codec.exists_optional .texts rfl (hallows "args")
    obtain ⟨env, henv⟩ := Codec.exists_optional (.list EnvVar.codec) rfl (hallows "env")
    obtain ⟨lifecycle, hlifecycle⟩ :=
      Codec.exists_optional Lifecycle.codec rfl (hallows "lifecycle")
    obtain ⟨mounts, hmounts⟩ :=
      Codec.exists_optional (.list VolumeMount.codec) rfl (hallows "volumeMounts")
    refine ⟨⟨name, command, args, env, lifecycle, mounts, other⟩, rfl, ?_⟩
    simp only [view, List.forall_mem_cons]
    exact ⟨hname, hcommand, hargs, henv, hlifecycle, hmounts, nofun⟩

/-- So a written container is decoded as it is. -/
theorem codec : Schema.container.Codec (fun j => some (ofJson j)) toJson := Sound.codec sound _

/-- A container is decoded from what denotes it. -/
theorem decode_eq_ok_iff {j : Json} {c : Container} :
    decode j = .ok c ↔ Schema.container.Denotes toJson c j :=
  Codec.decode_iff codec Schema.regular_container

/-- A container is denoted by its written form. -/
theorem denotes_toJson (c : Container) : Schema.container.Denotes toJson c c.toJson :=
  Codec.denotes_write codec Schema.regular_container c

end Container

end SidecarInjection
