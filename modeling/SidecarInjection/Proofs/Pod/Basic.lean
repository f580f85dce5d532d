import SidecarInjection.Pod.Basic
import SidecarInjection.Proofs.Pod.Container

/-!
# `SidecarInjection.Proofs.Pod.Basic`: typed pods as shapes

Every type of `SidecarInjection.Pod.Basic` with a written form has exactly the
written forms of its shape.

* `Volume.codec`, `ObjectMeta.codec`, `PodSpec.codec`, `Pod.codec`,
  `PodTemplate.codec`: a value is written in its shape and read back.
* `Pod.decode_toJson`: a pod is decoded from its written form.
-/

set_option autoImplicit false

namespace SidecarInjection

open Outcome
open Schema (Codec)
open Fields.View (Sound)

/-- Fields that are passed on unread have exactly the written forms of their record. -/
theorem Extra.codec {fields : Fields} (hreg : fields.regular = true) (name : String) :
    (Schema.record name .lenient fields).Codec (fun j => some (Extra.ofJson fields j))
      (fun e => .obj e.members) where
  conforms e := e.conform
  notNull _ := rfl
  read_write e := by
    have hconf := (Fields.conform_iff hreg).mp e.conform
    have hpick := (Fields.conform_iff hreg).mp (Fields.conform_pick fields e.members)
    -- Both are sorted, and hold the same under every key.
    refine congrArg some (Extra.ext (hpick.1.ext hconf.1 fun key => ?_))
    exact Fields.get?_pick_of_allows hreg (hconf.2 key)
  exists_write j h := by
    cases j with
    | obj ms => exact ⟨⟨ms, h⟩, rfl⟩
    | _ => simp [Schema.conforms] at h

namespace Volume

/-- The member that is read: the name. -/
def view : Schema.volume.fields.View Volume where
  names := ["name"]
  values v := [("name", some (.str v.name))]
  extra := Volume.extra

/-- A volume is written so that it is read back, with its name in the place for it. -/
theorem sound : view.Sound ofJson where
  regular := Schema.regular_volume
  nodup := by decide
  keys _ := rfl
  allows v := by
    simp only [view, List.forall_mem_cons]
    exact ⟨Codec.allows_present .text rfl rfl _, nofun⟩
  reads v ms hvalues hextra := by
    simp only [view, List.forall_mem_cons] at hvalues
    have hname : (Json.obj ms).memberText? "name" = some v.name :=
      Codec.bind_member?_eq .text (b := some v.name) hvalues.1
    have hextra : Extra.ofJson _ (.obj ms) = v.extra := hextra
    -- The decoder reads the members the view lists, each with its own codec.
    rw [ofJson, hname, hextra]
    rfl
  covers ms hms other := by
    have hallows := ((Fields.conform_iff Schema.regular_volume).mp hms).2
    obtain ⟨name, hname⟩ := Codec.exists_present .text rfl rfl (hallows "name")
    refine ⟨⟨name, other⟩, rfl, ?_⟩
    simp only [view, List.forall_mem_cons]
    exact ⟨hname, nofun⟩

/-- So written volumes are decoded as they are. -/
theorem codec : Schema.volume.Codec (fun j => some (ofJson j)) toJson := Sound.codec sound _

end Volume

namespace ObjectMeta

/-- The members that are read. -/
def view : Schema.objectMeta.fields.View ObjectMeta where
  names := ["name", "generateName", "namespace", "labels", "annotations"]
  values m :=
    [("name", m.name.map .str), ("generateName", m.generateName.map .str),
     ("namespace", m.namespaceName.map .str), ("labels", m.labels.map Json.textMap),
     ("annotations", m.annotations.map Json.textMap)]
  extra := ObjectMeta.extra

/-- Metadata is read and written member by member, and the rest is passed on. -/
theorem sound : view.Sound ofJson where
  regular := Schema.regular_objectMeta
  nodup := by decide
  keys _ := rfl
  allows m := by
    simp only [view, List.forall_mem_cons]
    exact ⟨Codec.allows_optional .text rfl _, Codec.allows_optional .text rfl _,
      Codec.allows_optional .text rfl _, Codec.allows_optional .textMap rfl _,
      Codec.allows_optional .textMap rfl _, nofun⟩
  reads m ms hvalues hextra := by
    simp only [view, List.forall_mem_cons] at hvalues
    obtain ⟨hname, hgenerate, hnamespace, hlabels, hannotations, -⟩ := hvalues
    -- Texts and maps of texts are read by different readers; the values given are the same.
    have hname : (Json.obj ms).memberText? "name" = m.name :=
      Codec.bind_member?_eq .text hname
    have hgenerate : (Json.obj ms).memberText? "generateName" = m.generateName :=
      Codec.bind_member?_eq .text hgenerate
    have hnamespace : (Json.obj ms).memberText? "namespace" = m.namespaceName :=
      Codec.bind_member?_eq .text hnamespace
    have hlabels := Codec.bind_member?_eq .textMap hlabels
    have hannotations := Codec.bind_member?_eq .textMap hannotations
    have hextra : Extra.ofJson _ (.obj ms) = m.extra := hextra
    rw [ofJson, hname, hgenerate, hnamespace, hlabels, hannotations, hextra]
  covers ms hms other := by
    have hallows := ((Fields.conform_iff Schema.regular_objectMeta).mp hms).2
    obtain ⟨name, hname⟩ := Codec.exists_optional .text rfl (hallows "name")
    obtain ⟨generate, hgenerate⟩ := Codec.exists_optional .text rfl (hallows "generateName")
    obtain ⟨space, hspace⟩ := Codec.exists_optional .text rfl (hallows "namespace")
    obtain ⟨labels, hlabels⟩ := Codec.exists_optional .textMap rfl (hallows "labels")
    obtain ⟨annotations, hannotations⟩ :=
      Codec.exists_optional .textMap rfl (hallows "annotations")
    refine ⟨⟨name, generate, space, labels, annotations, other⟩, rfl, ?_⟩
    simp only [view, List.forall_mem_cons]
    exact ⟨hname, hgenerate, hspace, hlabels, hannotations, nofun⟩

/-- So written metadata is decoded as it is. -/
theorem codec : Schema.objectMeta.Codec (fun j => some (ofJson j)) toJson := Sound.codec sound _

end ObjectMeta

namespace PodSpec

/-- The members that are read. -/
def view : Schema.podSpec.fields.View PodSpec where
  names := ["containers", "initContainers", "volumes"]
  values s :=
    [("containers", some (.arr (s.containers.map Container.toJson))),
     ("initContainers", s.initContainers.map fun cs => .arr (cs.map Container.toJson)),
     ("volumes", s.volumes.map fun vs => .arr (vs.map Volume.toJson))]
  extra := PodSpec.extra

/-- A specification has its three lists. The one of containers is never left out, not even when it
is empty. -/
theorem sound : view.Sound ofJson where
  regular := Schema.regular_podSpec
  nodup := by decide
  keys _ := rfl
  allows s := by
    simp only [view, List.forall_mem_cons]
    exact ⟨Codec.allows_present (.list Container.codec) rfl rfl _,
      Codec.allows_optional (.list Container.codec) rfl _,
      Codec.allows_optional (.list Volume.codec) rfl _, nofun⟩
  reads s ms hvalues hextra := by
    simp only [view, List.forall_mem_cons] at hvalues
    obtain ⟨hcontainers, hinit, hvolumes, -⟩ := hvalues
    -- The containers are required, so their list is read as present.
    have hcontainers := Codec.memberList?_eq Container.codec (b := some s.containers) hcontainers
    have hinit := Codec.memberList?_eq Container.codec hinit
    have hvolumes := Codec.memberList?_eq Volume.codec hvolumes
    have hextra : Extra.ofJson _ (.obj ms) = s.extra := hextra
    rw [ofJson, hcontainers, hinit, hvolumes, hextra]
    rfl
  covers ms hms other := by
    have hallows := ((Fields.conform_iff Schema.regular_podSpec).mp hms).2
    obtain ⟨cs, hcs⟩ := Codec.exists_present (.list Container.codec) rfl rfl (hallows "containers")
    obtain ⟨ics, hics⟩ :=
      Codec.exists_optional (.list Container.codec) rfl (hallows "initContainers")
    obtain ⟨vs, hvs⟩ := Codec.exists_optional (.list Volume.codec) rfl (hallows "volumes")
    refine ⟨⟨cs, ics, vs, other⟩, rfl, ?_⟩
    simp only [view, List.forall_mem_cons]
    exact ⟨hcs, hics, hvs, nofun⟩

/-- So a written specification is decoded as it is. -/
theorem codec : Schema.podSpec.Codec (fun j => some (ofJson j)) toJson := Sound.codec sound _

end PodSpec

namespace Pod

/-- The status is passed on unread. -/
theorem status_codec :
    Schema.podStatus.Codec (fun j => some (Extra.ofJson Schema.podStatus.fields j))
      (fun e => .obj e.members) :=
  Extra.codec Schema.regular_podStatus _

/-- The version and the kind are fixed, and the other members are read. -/
def view : Schema.pod.fields.View Pod where
  names := ["apiVersion", "kind", "metadata", "spec", "status"]
  values p :=
    [("apiVersion", some (.str "v1")), ("kind", some (.str "Pod")),
     ("metadata", some p.metadata.toJson), ("spec", p.spec.map PodSpec.toJson),
     ("status", p.status.map fun s => .obj s.members)]
  extra _ := .empty _

/-- A pod is written as the members of its parts. -/
theorem toJson_eq : toJson = fun p => .obj (view.members p) := by
  funext p
  -- The members that are always there are put in just as they are listed.
  have h : Dict.insertAll [] [("apiVersion", some (Json.str "v1")), ("kind", some (.str "Pod")),
      ("metadata", some p.metadata.toJson)] =
        [("apiVersion", .str "v1"), ("kind", .str "Pod"), ("metadata", p.metadata.toJson)] := by
    have hkind : ¬ "kind" < "apiVersion" := by decide
    have hversion : ¬ "metadata" < "apiVersion" := by decide
    have hmetadata : ¬ "metadata" < "kind" := by decide
    simp only [Dict.insertAll, List.foldl_cons, List.foldl_nil, Dict.insertSome, Dict.insert,
      Dict.contains, Dict.get?_nil, Dict.get?_cons, Dict.place, hkind, hversion, hmetadata,
      String.reduceEq, Option.isSome_none, Bool.false_eq_true, if_false]
  rw [toJson, ← h]
  rfl

/-- A pod has its metadata, its specification and its status, beside the kind and the version that
all pods have. -/
theorem sound : view.Sound ofJson where
  regular := Schema.regular_pod
  nodup := by decide
  keys _ := rfl
  allows p := by
    simp only [view, List.forall_mem_cons]
    exact ⟨Codec.allows_present (.constant "v1") rfl rfl (),
      Codec.allows_present (.constant "Pod") rfl rfl (),
      Codec.allows_present ObjectMeta.codec rfl rfl _, Codec.allows_optional PodSpec.codec rfl _,
      Codec.allows_optional status_codec rfl _, nofun⟩
  reads p ms hvalues _ := by
    simp only [view, List.forall_mem_cons] at hvalues
    obtain ⟨-, -, hmeta, hspec, hstatus, -⟩ := hvalues
    have hmeta := Codec.map_member?_eq ObjectMeta.codec (b := some p.metadata) hmeta
    have hspec := Codec.map_member?_eq PodSpec.codec hspec
    have hstatus := Codec.map_member?_eq status_codec hstatus
    rw [ofJson, hmeta, hspec, hstatus]
    rfl
  covers ms hms other := by
    have hallows := ((Fields.conform_iff Schema.regular_pod).mp hms).2
    -- The version and the kind leave nothing to choose.
    obtain ⟨-, hversion⟩ :=
      Codec.exists_present (.constant "v1") rfl rfl (hallows "apiVersion")
    obtain ⟨-, hkind⟩ := Codec.exists_present (.constant "Pod") rfl rfl (hallows "kind")
    obtain ⟨metadata, hmeta⟩ := Codec.exists_present ObjectMeta.codec rfl rfl (hallows "metadata")
    obtain ⟨spec, hspec⟩ := Codec.exists_optional PodSpec.codec rfl (hallows "spec")
    obtain ⟨status, hstatus⟩ := Codec.exists_optional status_codec rfl (hallows "status")
    refine ⟨⟨metadata, spec, status⟩, Extra.eq_empty rfl _, ?_⟩
    simp only [view, List.forall_mem_cons]
    exact ⟨hversion, hkind, hmeta, hspec, hstatus, nofun⟩

/-- So a written pod is decoded as it is. -/
theorem codec : Schema.pod.Codec (fun j => some (ofJson j)) toJson :=
  toJson_eq ▸ Sound.codec sound _

/-- A pod is decoded from what denotes it. -/
theorem decode_eq_ok_iff {j : Json} {p : Pod} :
    decode j = .ok p ↔ Schema.pod.Denotes toJson p j :=
  Codec.decode_iff codec Schema.regular_pod

/-- A pod is decoded from its written form. -/
theorem decode_toJson (p : Pod) : decode p.toJson = .ok p :=
  decode_eq_ok_iff.mpr (Codec.denotes_write codec Schema.regular_pod p)

/-- Metadata that is given denotes the metadata of the pod. -/
theorem denotes_metadata {ms members : Dict Json} {p : Pod}
    (h : Schema.pod.Denotes toJson p (.obj ms))
    (hmeta : Dict.get? ms "metadata" = some (.obj members)) :
    Schema.objectMeta.Denotes ObjectMeta.toJson p.metadata (.obj members) := by
  rw [toJson_eq] at h
  have hread := ((Sound.denotes_iff sound).mp h).1 ("metadata", some p.metadata.toJson)
    (by simp [view])
  rw [Fields.readMember, hmeta] at hread
  obtain ⟨part, hpart, heq⟩ := map_eq_ok.mp hread
  rw [Schema.Denotes, hpart, Option.some.inj heq]

end Pod

namespace PodTemplate

/-- The members that are read, which are all of them. -/
def view : Schema.podTemplateSpec.fields.View PodTemplate where
  names := ["metadata", "spec"]
  values t := [("metadata", t.metadata.map ObjectMeta.toJson), ("spec", t.spec.map PodSpec.toJson)]
  extra _ := .empty _

/-- The written form. -/
def toJson (t : PodTemplate) : Json := .obj (view.members t)

/-- A template has metadata and a specification. -/
theorem sound : view.Sound ofJson where
  regular := Schema.regular_podTemplateSpec
  nodup := by decide
  keys _ := rfl
  allows t := by
    simp only [view, List.forall_mem_cons]
    exact ⟨Codec.allows_optional ObjectMeta.codec rfl _,
      Codec.allows_optional PodSpec.codec rfl _, nofun⟩
  reads t ms hvalues _ := by
    simp only [view, List.forall_mem_cons] at hvalues
    obtain ⟨hmeta, hspec, -⟩ := hvalues
    have hmeta := Codec.map_member?_eq ObjectMeta.codec hmeta
    have hspec := Codec.map_member?_eq PodSpec.codec hspec
    rw [ofJson, hmeta, hspec]
  covers ms hms other := by
    have hallows := ((Fields.conform_iff Schema.regular_podTemplateSpec).mp hms).2
    obtain ⟨metadata, hmeta⟩ := Codec.exists_optional ObjectMeta.codec rfl (hallows "metadata")
    obtain ⟨spec, hspec⟩ := Codec.exists_optional PodSpec.codec rfl (hallows "spec")
    -- A template has no other members: its extra part is empty.
    refine ⟨⟨metadata, spec⟩, Extra.eq_empty rfl _, ?_⟩
    simp only [view, List.forall_mem_cons]
    exact ⟨hmeta, hspec, nofun⟩

/-- So a written template is decoded as it is. -/
theorem codec : Schema.podTemplateSpec.Codec (fun j => some (ofJson j)) toJson :=
  Sound.codec sound _

/-- A template is decoded from what denotes it. -/
theorem decode_eq_ok_iff {j : Json} {t : PodTemplate} :
    decode j = .ok t ↔ Schema.podTemplateSpec.Denotes toJson t j :=
  Codec.decode_iff codec Schema.regular_podTemplateSpec

/-- A pod with metadata is also a template of such pods. -/
theorem denotes_of_pod {ms members : Dict Json} {p : Pod}
    (h : Schema.pod.Denotes Pod.toJson p (.obj ms))
    (hmeta : Dict.get? ms "metadata" = some (.obj members)) :
    Schema.podTemplateSpec.Denotes toJson ⟨some p.metadata, p.spec⟩ (.obj ms) := by
  have hdecode : Schema.objectMeta.decode (.obj members) = .ok p.metadata.toJson :=
    Pod.denotes_metadata h hmeta
  rw [Pod.toJson_eq] at h
  have hspec := ((Sound.denotes_iff Pod.sound).mp h).1 ("spec", p.spec.map PodSpec.toJson)
    (by simp [Pod.view])
  -- A pod and a template share the specification; their metadata is decoded by the same schema.
  refine (Sound.denotes_iff sound).mpr ⟨?_, rfl⟩
  simp only [view, List.forall_mem_cons]
  refine ⟨?_, hspec, nofun⟩
  show Fields.readField .optional Schema.objectMeta (Dict.get? ms "metadata") = _
  rw [hmeta]
  exact Fields.readField_of_decode rfl hdecode

end PodTemplate

end SidecarInjection
