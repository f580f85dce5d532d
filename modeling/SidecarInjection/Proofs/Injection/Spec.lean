import SidecarInjection.Proofs.Injection.Container

/-!
# `SidecarInjection.Proofs.Injection.Spec`: edits of the specification of a pod

The edits of a specification name its lists by their fields. Taken relative to
the specification each of them turns one specification into another one.

* `PodSpec.turns_each`: edits of the items of a container list.
* `PodSpec.turns_prepend`, `Rendering.prepend_eq`: containers put in front of a list.
* `PodSpec.turns_addVolumes`, `Injector.volumePatch_eq`: volumes put after the others.
-/

set_option autoImplicit false

namespace SidecarInjection

open Outcome
open Schema (Codec)

namespace PodSpec

/-! ### Items of a container list -/

/-- When the edit of each item turns one container into another, the edits under the
field of the list turn the list. -/
theorem turns_each {α : Type} {s : PodSpec} (target : Target) {edit : α → Patch}
    {f g : α → Container} {xs : List α} (hs : s.list target = some (xs.map f))
    (hxs : target = .initContainers ∨ xs ≠ [])
    (hedit : ∀ x ∈ xs,
      Patch.Turns (Schema.container.Denotes Container.toJson) (edit x) (f x) (g x)) :
    Patch.Turns (Schema.podSpec.Denotes toJson)
      (Patch.under [target.field] (Patch.each edit 0 xs)) s (s.setList (xs.map g) target) := by
  refine ⟨Patch.inside_under (by simp) _, fun j h => ?_⟩
  obtain ⟨ms, rfl⟩ := Schema.exists_members_of_denotes h
  obtain ⟨items, hget, hitems⟩ := exists_list h hs (hxs.imp_right fun hne => by simpa using hne)
  obtain ⟨news, hrun, hnews⟩ := Patch.turns_each hedit hitems
  refine ⟨.obj (Dict.insert ms target.field (.arr news)), ?_, denotes_insert_list h target hnews⟩
  rw [Patch.run?_member (Patch.inside_each edit 0 xs) hget, hrun]
  rfl

/-! ### Containers in front of a list -/

/-- The specification with containers in front of a list. -/
def prependList (s : PodSpec) (cs : List Container) : Target → PodSpec
  | .initContainers =>
    { s with initContainers := Effect.orAbsent s.initContainers (cs ++ s.initContainers.getD []) }
  | .containers => { s with containers := cs ++ s.containers }

/-- The edits of a specification that put values in front of the list of a field. The
first one creates a list that is absent. -/
def prependEdits (field : String) (absent : Bool) : List Json → Patch
  | [] => []
  | value :: rest =>
    if absent then
      .add [field] (.arr [value]) :: Patch.under [field] (Patch.insertAt 1 rest)
    else Patch.under [field] (Patch.insertAt 0 (value :: rest))

/-- Putting values in front of a list works inside the specification, also when the list is created.
-/
theorem inside_prependEdits (field : String) (absent : Bool) (values : List Json) :
    ∀ op ∈ prependEdits field absent values, op.Inside := by
  cases values with
  | nil => simp [prependEdits]
  | cons value rest =>
    cases absent with
    | true =>
      exact List.forall_mem_cons.mpr ⟨by simp [Operation.Inside],
        Patch.inside_under (p := [field]) (by simp) _⟩
    | false => exact Patch.inside_under (p := [field]) (by simp) _

/-- Edits that create a list lead to a list of the values. -/
theorem run?_prependEdits_absent (field : String) (value : Json) (rest : List Json)
    (ms : Dict Json) :
    Patch.run? (prependEdits field true (value :: rest)) (.obj ms) =
      some (.obj (Dict.insert ms field (.arr (value :: rest)))) := by
  -- The list that the first edit creates holds one item already.
  have hrest := Patch.run?_insertAt rest [value] []
  have hget : Dict.get? (Dict.insert ms field (.arr [value])) field = some (.arr [value]) :=
    Dict.get?_insert_self _ _ _
  show Patch.run? (.add [field] (.arr [value]) :: Patch.under [field] (Patch.insertAt 1 rest)) _ = _
  rw [Patch.run?_cons, Patch.run?_add_member, Option.bind_some,
    Patch.run?_member (Patch.inside_insertAt 1 _) hget]
  rw [List.append_nil] at hrest
  rw [show (1 : Nat) = [value].length from rfl, hrest, Option.map_some, Dict.insert_insert,
    List.append_nil]
  rfl

/-- Edits of a list that is there put the values before its items. -/
theorem run?_prependEdits_present {field : String} {ms : Dict Json} {items : List Json}
    (hget : Dict.get? ms field = some (.arr items)) (value : Json) (rest : List Json) :
    Patch.run? (prependEdits field false (value :: rest)) (.obj ms) =
      some (.obj (Dict.insert ms field (.arr (value :: rest ++ items)))) := by
  have hrun := Patch.run?_insertAt (value :: rest) [] items
  show Patch.run? (Patch.under [field] (Patch.insertAt 0 (value :: rest))) _ = _
  rw [List.length_nil, List.nil_append, List.nil_append] at hrun
  rw [Patch.run?_member (Patch.inside_insertAt 0 _) hget, hrun]
  rfl

/-- Containers are put in front of a list that is there. -/
theorem prependList_of_some {s : PodSpec} {target : Target} {old : List Container}
    (hs : s.list target = some old) (cs : List Container) :
    s.prependList cs target = s.setList (cs ++ old) target := by
  cases target with
  | initContainers =>
    have hs : s.initContainers = some old := hs
    simp [prependList, setList, Effect.orAbsent, hs]
  | containers =>
    have hs : s.containers = old := Option.some.inj hs
    simp [prependList, setList, hs]

/-- A list that is absent is created with the containers. -/
theorem prependList_of_none {s : PodSpec} {target : Target} (hs : s.list target = none)
    (c : Container) (cs : List Container) :
    s.prependList (c :: cs) target = s.setList (c :: cs) target := by
  cases target with
  | initContainers =>
    have hs : s.initContainers = none := hs
    simp [prependList, setList, Effect.orAbsent, hs]
  | containers => cases hs

/-- With nothing to put in front, the specification stays as it is. An absent list stays absent. -/
theorem prependList_nil (s : PodSpec) (target : Target) : s.prependList [] target = s := by
  obtain ⟨containers, initContainers, volumes, extra⟩ := s
  cases target with
  | initContainers => cases initContainers <;> simp [prependList, Effect.orAbsent]
  | containers => rfl

/-- The written forms of containers denote them. -/
theorem denotes_map_toJson (cs : List Container) :
    List.Forall₂ (Schema.container.Denotes Container.toJson) cs (cs.map Container.toJson) :=
  List.forall₂_map_right_iff.mpr (List.forall₂_same.mpr fun c _ => Container.denotes_toJson c)

/-- Containers are put in front of a list. The list of application containers has to
hold some, since an absent one is read as an empty one. -/
theorem turns_prepend {s : PodSpec} (target : Target) (cs : List Container)
    (hs : target = .initContainers ∨ s.containers ≠ []) :
    Patch.Turns (Schema.podSpec.Denotes toJson)
      (prependEdits target.field (s.list target).isNone (cs.map Container.toJson)) s
      (s.prependList cs target) := by
  cases cs with
  | nil =>
    rw [prependList_nil]
    exact Patch.Turns.nil s
  | cons c rest =>
    refine ⟨inside_prependEdits _ _ _, fun j h => ?_⟩
    obtain ⟨ms, rfl⟩ := Schema.exists_members_of_denotes h
    have hwritten := denotes_map_toJson (c :: rest)
    cases hlist : s.list target with
    | none =>
      refine ⟨.obj (Dict.insert ms target.field (.arr ((c :: rest).map Container.toJson))), ?_, ?_⟩
      · exact run?_prependEdits_absent target.field c.toJson (rest.map Container.toJson) ms
      · rw [prependList_of_none hlist]
        exact denotes_insert_list h target hwritten
    | some old =>
      -- Only the list of init containers may be there without holding any.
      have hold : target = .initContainers ∨ old ≠ [] := by
        rcases hs with hs | hs
        · exact .inl hs
        · cases target with
          | initContainers => exact .inl rfl
          | containers => exact .inr (Option.some.inj hlist ▸ hs)
      obtain ⟨items, hget, hitems⟩ := exists_list h hlist hold
      refine ⟨.obj (Dict.insert ms target.field (.arr ((c :: rest).map Container.toJson ++ items))),
        ?_, ?_⟩
      · exact run?_prependEdits_present hget c.toJson (rest.map Container.toJson)
      · rw [prependList_of_some hlist]
        exact denotes_insert_list h target (List.rel_append hwritten hitems)

/-! ### Volumes -/

/-- The specification with volumes after the others. -/
def addVolumes (s : PodSpec) (vs : List Volume) : PodSpec :=
  { s with volumes := Effect.orAbsent s.volumes (s.volumes.getD [] ++ vs) }

/-- The edits of a specification that put volumes after the others. The first one
creates a list that is absent. -/
def volumeEdits (absent : Bool) : List Json → Patch
  | [] => []
  | value :: rest =>
    if absent then .add ["volumes"] (.arr [value]) :: Patch.under ["volumes"]
      (rest.map fun v => .add ["-"] v)
    else Patch.under ["volumes"] ((value :: rest).map fun v => .add ["-"] v)

/-- Adding volumes works inside the specification. -/
theorem inside_volumeEdits (absent : Bool) (values : List Json) :
    ∀ op ∈ volumeEdits absent values, op.Inside := by
  cases values with
  | nil => simp [volumeEdits]
  | cons value rest =>
    cases absent with
    | true =>
      exact List.forall_mem_cons.mpr ⟨by simp [Operation.Inside],
        Patch.inside_under (p := ["volumes"]) (by simp) _⟩
    | false => exact Patch.inside_under (p := ["volumes"]) (by simp) _

/-- Volumes are put after the others. -/
theorem turns_addVolumes (s : PodSpec) (vs : List Volume) :
    Patch.Turns (Schema.podSpec.Denotes toJson)
      (volumeEdits s.volumes.isNone (vs.map Volume.toJson)) s (s.addVolumes vs) := by
  have hwritten : ∀ vs : List Volume,
      List.Forall₂ (Schema.volume.Denotes Volume.toJson) vs (vs.map Volume.toJson) := fun vs =>
    List.forall₂_map_right_iff.mpr (List.forall₂_same.mpr fun v _ =>
      Codec.denotes_write Volume.codec Schema.regular_volume v)
  have hinside : ∀ values : List Json,
      ∀ op ∈ values.map (fun v => Operation.add ["-"] v), op.Inside := by
    simp [Operation.Inside]
  cases vs with
  | nil =>
    obtain ⟨containers, initContainers, volumes, extra⟩ := s
    -- Nothing is added, and a list that is absent stays so.
    have hsame : (PodSpec.mk containers initContainers volumes extra).addVolumes [] =
        ⟨containers, initContainers, volumes, extra⟩ := by
      cases volumes <;> simp [addVolumes, Effect.orAbsent]
    rw [hsame]
    exact Patch.Turns.nil _
  | cons v rest =>
    refine ⟨inside_volumeEdits _ _, fun j h => ?_⟩
    obtain ⟨ms, rfl⟩ := Schema.exists_members_of_denotes h
    have hnew : ∀ old : List Volume, s.volumes.getD [] = old →
        s.addVolumes (v :: rest) = { s with volumes := some (old ++ v :: rest) } := by
      rintro old rfl
      simp [addVolumes, Effect.orAbsent]
    cases hvolumes : s.volumes with
    | none =>
      refine ⟨.obj (Dict.insert ms "volumes" (.arr ((v :: rest).map Volume.toJson))), ?_, ?_⟩
      · have hget : Dict.get? (Dict.insert ms "volumes" (.arr [v.toJson])) "volumes" =
            some (.arr [v.toJson]) := Dict.get?_insert_self _ _ _
        show Patch.run? (.add ["volumes"] (.arr [v.toJson]) :: Patch.under ["volumes"]
          ((rest.map Volume.toJson).map fun v => .add ["-"] v)) _ = _
        rw [Patch.run?_cons, Patch.run?_add_member, Option.bind_some,
          Patch.run?_member (hinside _) hget, Patch.run?_appends, Option.map_some,
          Dict.insert_insert]
        rfl
      · rw [hnew [] (by rw [hvolumes]; rfl)]
        exact denotes_insert_volumes h (hwritten (v :: rest))
    | some old =>
      obtain ⟨items, hget, hitems⟩ := exists_volumes h hvolumes
      refine ⟨.obj (Dict.insert ms "volumes" (.arr (items ++ (v :: rest).map Volume.toJson))),
        ?_, ?_⟩
      · show Patch.run? (Patch.under ["volumes"]
          (((v :: rest).map Volume.toJson).map fun v => .add ["-"] v)) _ = _
        rw [Patch.run?_member (hinside _) hget, Patch.run?_appends]
        rfl
      · rw [hnew old (by rw [hvolumes]; rfl)]
        exact denotes_insert_volumes h (List.rel_append hitems (hwritten (v :: rest)))

end PodSpec

/-! ### The edits that are made -/

namespace Rendering

/-- Containers are inserted one after another, each one position further. -/
theorem insertions_eq (target : Target) (index : Nat) (cs : List Container) :
    insertions target index cs =
      Patch.under target.listPath (Patch.insertAt index (cs.map Container.toJson)) := by
  induction cs generalizing index with
  | nil => rfl
  | cons c rest ih =>
    rw [insertions, ih]
    rfl

/-- The edits of a list are those of the specification, taken under it. -/
theorem prepend_eq (target : Target) (absent : Bool) (cs : List Container) :
    prepend target absent cs =
      Patch.under ["spec"]
        (PodSpec.prependEdits target.field absent (cs.map Container.toJson)) := by
  cases cs with
  | nil => rfl
  | cons c rest =>
    cases absent with
    | true =>
      -- The list is created with the first container, and the others follow it.
      show .add target.listPath (.arr [c.toJson]) :: insertions target 1 rest = _
      rw [insertions_eq]
      show _ = Patch.under ["spec"] (.add [target.field] (.arr [c.toJson]) ::
        Patch.under [target.field] (Patch.insertAt 1 (rest.map Container.toJson)))
      rw [Patch.under_cons, Patch.under_under]
      rfl
    | false =>
      show insertions target 0 (c :: rest) = Patch.under ["spec"] (Patch.under [target.field]
        (Patch.insertAt 0 ((c :: rest).map Container.toJson)))
      rw [insertions_eq, Patch.under_under]
      rfl

end Rendering

namespace Injector

/-- Behind the volumes that are there, each new one is put at the end. -/
theorem volumeAdditions_false (vs : List Volume) :
    volumeAdditions false vs = Patch.under ["spec", "volumes"]
      ((vs.map Volume.toJson).map fun v => .add ["-"] v) := by
  induction vs with
  | nil => rfl
  | cons v rest ih =>
    rw [volumeAdditions, ih]
    rfl

/-- The edits of the volumes put the new ones behind the others. -/
theorem volumePatch_eq (i : Injector) (spec : PodSpec) :
    i.volumePatch spec = Patch.under ["spec"]
      (PodSpec.volumeEdits spec.volumes.isNone ((Effect.newVolumes i spec).map Volume.toJson)) := by
  -- A volume is new when its name is not listed, or when no volume has that name.
  have hnew : (i.config.injection.volumes.filter fun v =>
      !((spec.volumes.getD []).map Volume.name).contains v.name) = Effect.newVolumes i spec := by
    unfold Effect.newVolumes
    congr 1
    funext v
    rw [List.contains_eq_any_beq, List.any_map]
    congr 2
    funext w
    show decide (v.name = w.name) = decide (w.name = v.name)
    rw [decide_eq_decide]
    exact eq_comm
  rw [volumePatch, hnew]
  cases Effect.newVolumes i spec with
  | nil => rfl
  | cons v rest =>
    cases spec.volumes.isNone with
    | true =>
      rw [volumeAdditions, volumeAdditions_false]
      show _ = Patch.under ["spec"] (.add ["volumes"] (.arr [v.toJson]) ::
        Patch.under ["volumes"] ((rest.map Volume.toJson).map fun v => .add ["-"] v))
      rw [Patch.under_cons, Patch.under_under]
      rfl
    | false =>
      rw [volumeAdditions_false]
      show _ = Patch.under ["spec"] (Patch.under ["volumes"]
        (((v :: rest).map Volume.toJson).map fun v => .add ["-"] v))
      rw [Patch.under_under]
      rfl

end Injector

end SidecarInjection
