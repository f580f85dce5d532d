import SidecarInjection.Proofs.Pod.Basic
import SidecarInjection.Target

/-!
# `SidecarInjection.Proofs.Pod.Edit`: members of what denotes a pod

An object that denotes a pod, a specification or a container may hold more than
the written form, and `null` in place of absent parts. Here the members that
injection edits are found in such an object, and setting one of them changes the
denoted value in that part alone.

* `PodSpec.exists_list`, `PodSpec.denotes_insert_list`: the container lists.
* `PodSpec.exists_volumes`, `PodSpec.denotes_insert_volumes`: the volumes.
* `Container.exists_mounts`, `Container.denotes_insert_mounts`,
  `Container.denotes_insert_command`: the parts of one container.
* `ObjectMeta.exists_annotations`, `ObjectMeta.denotes_insert_annotations`: the
  annotations.
* `Pod.denotes_insert_spec`, `Pod.denotes_insert_metadata`, and the same for
  `PodTemplate`: the parts of a pod.
-/

set_option autoImplicit false

namespace SidecarInjection

open Outcome
open Schema (Codec)
open Fields.View (Sound)

/-! ### Containers -/

namespace Container

variable {ms : Dict Json} {c : Container}

/-- A command comes from a member. -/
theorem exists_command (h : Schema.container.Denotes toJson c (.obj ms)) {command : List String}
    (hc : c.command = some command) : ∃ j, Dict.get? ms "command" = some j := by
  obtain ⟨j, hj, -⟩ := Sound.exists_member sound "command" (.texts command) h rfl
    (by simp [view, hc]) (.inl rfl)
  exact ⟨j, hj⟩

/-- Setting the command sets the command. -/
theorem denotes_insert_command (h : Schema.container.Denotes toJson c (.obj ms))
    (command : List String) :
    Schema.container.Denotes toJson { c with command := some command }
      (.obj (Dict.insert ms "command" (.texts command))) :=
  Sound.denotes_insert sound h (by decide) rfl rfl (Codec.denotes_write .texts rfl command) rfl rfl

/-- A list of mounts comes from a list. -/
theorem exists_mounts (h : Schema.container.Denotes toJson c (.obj ms)) {mounts : List VolumeMount}
    (hc : c.volumeMounts = some mounts) :
    ∃ items, Dict.get? ms "volumeMounts" = some (.arr items) ∧
      List.Forall₂ (Schema.volumeMount.Denotes VolumeMount.toJson) mounts items := by
  obtain ⟨j, hj, hdec⟩ := Sound.exists_member sound "volumeMounts"
    (.arr (mounts.map VolumeMount.toJson)) h rfl (by simp [view, hc]) (.inl rfl)
  obtain ⟨items, rfl, hitems⟩ := Schema.exists_items_of_denotes hdec
  exact ⟨items, hj, hitems⟩

/-- Setting the list of mounts sets the mounts. -/
theorem denotes_insert_mounts (h : Schema.container.Denotes toJson c (.obj ms))
    {mounts : List VolumeMount} {items : List Json}
    (hitems : List.Forall₂ (Schema.volumeMount.Denotes VolumeMount.toJson) mounts items) :
    Schema.container.Denotes toJson { c with volumeMounts := some mounts }
      (.obj (Dict.insert ms "volumeMounts" (.arr items))) :=
  Sound.denotes_insert sound h (by decide) rfl rfl (Schema.denotes_list_iff.mpr hitems) rfl rfl

end Container

/-! ### Specifications -/

namespace PodSpec

variable {ms : Dict Json} {s : PodSpec}

/-- A container list of a specification. -/
def list (s : PodSpec) : Target → Option (List Container)
  | .initContainers => s.initContainers
  | .containers => some s.containers

/-- The specification with a container list put in. -/
def setList (s : PodSpec) (cs : List Container) : Target → PodSpec
  | .initContainers => { s with initContainers := some cs }
  | .containers => { s with containers := cs }

/-- A container list comes from a list. The application containers have to be some,
since an absent list is read as an empty one. -/
theorem exists_list (h : Schema.podSpec.Denotes toJson s (.obj ms)) {target : Target}
    {cs : List Container} (hs : s.list target = some cs)
    (hcs : target = .initContainers ∨ cs ≠ []) :
    ∃ items, Dict.get? ms target.field = some (.arr items) ∧
      List.Forall₂ (Schema.container.Denotes Container.toJson) cs items := by
  cases target with
  | initContainers =>
    obtain ⟨j, hj, hdec⟩ := Sound.exists_member sound "initContainers"
      (.arr (cs.map Container.toJson)) h rfl
      (by simp [view, show s.initContainers = some cs from hs]) (.inl rfl)
    obtain ⟨items, rfl, hitems⟩ := Schema.exists_items_of_denotes hdec
    exact ⟨items, hj, hitems⟩
  | containers =>
    have hs : s.containers = cs := Option.some.inj hs
    -- The default of the field is the empty list, and this one holds containers.
    have hne : Json.arr (cs.map Container.toJson) ≠ .arr [] := by
      simpa using hcs.resolve_left (by simp)
    obtain ⟨j, hj, hdec⟩ := Sound.exists_member sound "containers"
      (.arr (cs.map Container.toJson)) h rfl (by simp [view, hs]) (.inr hne)
    obtain ⟨items, rfl, hitems⟩ := Schema.exists_items_of_denotes hdec
    exact ⟨items, hj, hitems⟩

/-- Setting a container list sets that list. -/
theorem denotes_insert_list (h : Schema.podSpec.Denotes toJson s (.obj ms)) (target : Target)
    {cs : List Container} {items : List Json}
    (hitems : List.Forall₂ (Schema.container.Denotes Container.toJson) cs items) :
    Schema.podSpec.Denotes toJson (s.setList cs target)
      (.obj (Dict.insert ms target.field (.arr items))) := by
  cases target with
  | initContainers =>
    exact Sound.denotes_insert sound h (by decide) rfl rfl
      (Schema.denotes_list_iff.mpr hitems) rfl rfl
  | containers =>
    exact Sound.denotes_insert sound h (by decide) rfl rfl
      (Schema.denotes_list_iff.mpr hitems) rfl rfl

/-- A list of volumes comes from a list. -/
theorem exists_volumes (h : Schema.podSpec.Denotes toJson s (.obj ms)) {vs : List Volume}
    (hs : s.volumes = some vs) :
    ∃ items, Dict.get? ms "volumes" = some (.arr items) ∧
      List.Forall₂ (Schema.volume.Denotes Volume.toJson) vs items := by
  obtain ⟨j, hj, hdec⟩ := Sound.exists_member sound "volumes" (.arr (vs.map Volume.toJson)) h rfl
    (by simp [view, hs]) (.inl rfl)
  obtain ⟨items, rfl, hitems⟩ := Schema.exists_items_of_denotes hdec
  exact ⟨items, hj, hitems⟩

/-- Setting the list of volumes sets the volumes. -/
theorem denotes_insert_volumes (h : Schema.podSpec.Denotes toJson s (.obj ms)) {vs : List Volume}
    {items : List Json} (hitems : List.Forall₂ (Schema.volume.Denotes Volume.toJson) vs items) :
    Schema.podSpec.Denotes toJson { s with volumes := some vs }
      (.obj (Dict.insert ms "volumes" (.arr items))) :=
  Sound.denotes_insert sound h (by decide) rfl rfl (Schema.denotes_list_iff.mpr hitems) rfl rfl

end PodSpec

/-! ### Metadata -/

namespace ObjectMeta

variable {ms : Dict Json} {m : ObjectMeta}

/-- Texts under keys are read as they are. -/
theorem denotes_textMap_iff {d : Dict String} {j : Json} :
    (Schema.map .text).Denotes Json.textMap d j ↔ j = .textMap d := by
  constructor
  · intro h
    cases j with
    | obj members =>
      obtain ⟨out, hout, heq⟩ := map_eq_ok.mp h
      -- A text is decoded to itself, so every entry is.
      have hstep : ∀ e o : String × Json,
          (fun v => (e.1, v)) <$> Schema.text.decode e.2 = .ok o → e = o := by
        rintro ⟨k, v⟩ o ho
        cases v with
        | str t => exact Except.ok.inj ho
        | _ => cases ho
      have hsame : members = out :=
        List.forall₂_eq_eq_eq ▸ (mapM_eq_ok.mp hout).imp hstep
      rw [hsame]
      exact heq
    | _ => cases h
  · rintro rfl
    exact Codec.denotes_write .textMap rfl d

/-- Annotations come from a member that lists them. -/
theorem exists_annotations (h : Schema.objectMeta.Denotes toJson m (.obj ms))
    {annotations : Dict String} (hm : m.annotations = some annotations) :
    Dict.get? ms "annotations" = some (.textMap annotations) := by
  obtain ⟨j, hj, hdec⟩ := Sound.exists_member sound "annotations" (.textMap annotations) h rfl
    (by simp [view, hm]) (.inl rfl)
  rw [hj, denotes_textMap_iff.mp hdec]

/-- Setting the annotations sets the annotations. -/
theorem denotes_insert_annotations (h : Schema.objectMeta.Denotes toJson m (.obj ms))
    (annotations : Dict String) :
    Schema.objectMeta.Denotes toJson { m with annotations := some annotations }
      (.obj (Dict.insert ms "annotations" (.textMap annotations))) :=
  Sound.denotes_insert sound h (by decide) rfl rfl (denotes_textMap_iff.mpr rfl) rfl rfl

end ObjectMeta

/-! ### Pods and templates -/

namespace Pod

variable {ms : Dict Json} {p : Pod}

/-- The specification comes from a member. -/
theorem exists_spec (h : Schema.pod.Denotes toJson p (.obj ms)) {s : PodSpec}
    (hp : p.spec = some s) :
    ∃ j, Dict.get? ms "spec" = some j ∧ Schema.podSpec.Denotes PodSpec.toJson s j := by
  rw [toJson_eq] at h
  exact Sound.exists_member sound "spec" s.toJson h rfl (by simp [view, hp]) (.inl rfl)

/-- Metadata that says something comes from a member. -/
theorem exists_metadata (h : Schema.pod.Denotes toJson p (.obj ms))
    (hp : p.metadata ≠ .empty) :
    ∃ j, Dict.get? ms "metadata" = some j ∧
      Schema.objectMeta.Denotes ObjectMeta.toJson p.metadata j := by
  rw [toJson_eq] at h
  -- Only metadata that says nothing is written as the default of its field.
  have hne : p.metadata.toJson ≠ Schema.objectMeta.default := fun heq =>
    hp (Codec.write_injective ObjectMeta.codec (b := .empty) heq)
  exact Sound.exists_member sound "metadata" p.metadata.toJson h rfl (by simp [view]) (.inr hne)

/-- An annotation that is read stands under its key. -/
theorem get?_annotation (h : Schema.pod.Denotes toJson p (.obj ms)) {annotations : Dict String}
    (hp : p.metadata.annotations = some annotations) {key value : String}
    (hvalue : Dict.get? annotations key = some value) :
    Pointer.get? ["metadata", "annotations", key] (.obj ms) = some (.str value) := by
  -- Empty metadata may be missing from the document. Here there is an annotation.
  have hne : p.metadata ≠ .empty := by
    intro hempty
    rw [hempty] at hp
    cases hp
  obtain ⟨j, hj, hmeta⟩ := exists_metadata h hne
  obtain ⟨members, rfl⟩ := Schema.exists_members_of_denotes hmeta
  have htexts := ObjectMeta.exists_annotations hmeta hp
  rw [Pointer.get?, hj, Option.bind_some, Pointer.get?, htexts, Option.bind_some, Json.textMap,
    Pointer.get?, Dict.get?_map, hvalue]
  rfl

/-- Setting the specification sets the specification. -/
theorem denotes_insert_spec (h : Schema.pod.Denotes toJson p (.obj ms)) {s : PodSpec} {j : Json}
    (hj : Schema.podSpec.Denotes PodSpec.toJson s j) :
    Schema.pod.Denotes toJson { p with spec := some s } (.obj (Dict.insert ms "spec" j)) := by
  rw [toJson_eq] at h ⊢
  obtain ⟨sms, rfl⟩ := Schema.exists_members_of_denotes hj
  exact Sound.denotes_insert sound h (by decide) rfl rfl hj rfl rfl

/-- Setting the metadata sets the metadata. -/
theorem denotes_insert_metadata (h : Schema.pod.Denotes toJson p (.obj ms)) {m : ObjectMeta}
    {j : Json} (hj : Schema.objectMeta.Denotes ObjectMeta.toJson m j) :
    Schema.pod.Denotes toJson { p with metadata := m } (.obj (Dict.insert ms "metadata" j)) := by
  rw [toJson_eq] at h ⊢
  obtain ⟨mms, rfl⟩ := Schema.exists_members_of_denotes hj
  exact Sound.denotes_insert sound h (by decide) rfl rfl hj rfl rfl

end Pod

namespace PodTemplate

variable {ms : Dict Json} {t : PodTemplate}

/-- The specification comes from a member. -/
theorem exists_spec (h : Schema.podTemplateSpec.Denotes toJson t (.obj ms)) {s : PodSpec}
    (ht : t.spec = some s) :
    ∃ j, Dict.get? ms "spec" = some j ∧ Schema.podSpec.Denotes PodSpec.toJson s j :=
  Sound.exists_member sound "spec" s.toJson h rfl (by simp [view, ht]) (.inl rfl)

/-- The metadata comes from a member. -/
theorem exists_metadata (h : Schema.podTemplateSpec.Denotes toJson t (.obj ms)) {m : ObjectMeta}
    (ht : t.metadata = some m) :
    ∃ j, Dict.get? ms "metadata" = some j ∧ Schema.objectMeta.Denotes ObjectMeta.toJson m j :=
  Sound.exists_member sound "metadata" m.toJson h rfl (by simp [view, ht]) (.inl rfl)

/-- Setting the specification sets the specification. -/
theorem denotes_insert_spec (h : Schema.podTemplateSpec.Denotes toJson t (.obj ms)) {s : PodSpec}
    {j : Json} (hj : Schema.podSpec.Denotes PodSpec.toJson s j) :
    Schema.podTemplateSpec.Denotes toJson { t with spec := some s }
      (.obj (Dict.insert ms "spec" j)) := by
  obtain ⟨sms, rfl⟩ := Schema.exists_members_of_denotes hj
  exact Sound.denotes_insert sound h (by decide) rfl rfl hj rfl rfl

/-- Setting the metadata sets the metadata. -/
theorem denotes_insert_metadata (h : Schema.podTemplateSpec.Denotes toJson t (.obj ms))
    {m : ObjectMeta} {j : Json} (hj : Schema.objectMeta.Denotes ObjectMeta.toJson m j) :
    Schema.podTemplateSpec.Denotes toJson { t with metadata := some m }
      (.obj (Dict.insert ms "metadata" j)) := by
  obtain ⟨mms, rfl⟩ := Schema.exists_members_of_denotes hj
  exact Sound.denotes_insert sound h (by decide) rfl rfl hj rfl rfl

end PodTemplate

end SidecarInjection
