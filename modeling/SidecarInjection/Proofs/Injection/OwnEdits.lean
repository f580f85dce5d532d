import SidecarInjection.Proofs.Injection.Applied
import SidecarInjection.Proofs.Json.Members

/-!
# `SidecarInjection.Proofs.Injection.OwnEdits`: edits of what a pod brings along

Until containers are inserted, every operation of a created patch works on what the pod
brings along. It edits an entry of a list in its place, and there a few members only, or it
works on the volumes. So after any number of these operations each list still holds the
entries of the pod, one by one and in their order.

* `Edited`: a specification with the entries of a pod in edited form.
* `Edited.step`, `Edited.run`: one operation, and a run of them, keep this.
* `InjectionSteps.exists_parts`: a created patch consists of such operations, of insertions
  after them, and of the mark.
-/

set_option autoImplicit false

namespace SidecarInjection

open Outcome
open Json (SameOff)

namespace Target

/-- The members of an entry that are edited. -/
def edited : Target → List String
  | .initContainers => ["volumeMounts"]
  | .containers => ["lifecycle", "command", "volumeMounts"]

/-- The two lists have different fields. -/
theorem eq_of_field {a b : Target} (h : a.field = b.field) : a = b := by
  cases a with
  | initContainers =>
    cases b with
    | initContainers => rfl
    | containers => exact absurd h (by decide)
  | containers =>
    cases b with
    | initContainers => exact absurd h (by decide)
    | containers => rfl

/-- The mounts are edited in both lists. -/
theorem volumeMounts_mem_edited (target : Target) : "volumeMounts" ∈ target.edited := by
  cases target with
  | initContainers => decide
  | containers => decide

end Target

/-! ### Operations -/

namespace Operation

/-- An operation on an entry that takes edited forms of it to edited forms. -/
structure Retouches (keys : List String) (entry : Json) (op : Operation) : Prop where
  inside : op.Inside
  sameOff : ∀ {j new}, SameOff keys entry j → op.run? j = some new → SameOff keys entry new

variable {keys : List String} {entry : Json}

/-- An operation that names a member works inside of it, so it does not replace the whole. -/
theorem inside_of_path {op : Operation} {key : String} {rest : Pointer}
    (hpath : op.path = key :: rest) : op.Inside := by
  have hne : op.path ≠ [] := by simp [hpath]
  cases op with
  | add p value => exact hne
  | replace p value => trivial
  | remove p => exact hne

/-- An operation inside one of the edited members is such an operation. -/
theorem retouches_of_path {op : Operation} {key : String} {rest : Pointer}
    (hpath : op.path = key :: rest) (hkey : key ∈ keys) : op.Retouches keys entry where
  inside := inside_of_path hpath
  sameOff h hrun := by
    have hsame := sameOff_run? hpath hrun
    exact h.trans (hsame.mono (by simpa using hkey))

/-- So is one that writes an edited form of the entry. -/
theorem retouches_replace {value : Json} (h : SameOff keys entry value) :
    (replace [] value).Retouches keys entry where
  inside := trivial
  sameOff _ hrun := by
    cases hrun
    exact h

end Operation

/-- An operation on a specification that edits one of these entries in its place, or works
on the volumes. -/
inductive OwnEdit (entries : Target → Option (List Json)) : Operation → Prop
  | entry {target : Target} {index : Nat} {entry : Json} {inner : Operation}
      (hentry : ((entries target).getD [])[index]? = some entry)
      (hinner : inner.Retouches target.edited entry) :
      OwnEdit entries (inner.under [target.field, Pointer.ofIndex index])
  | volumes {op : Operation} {rest : Pointer} (hpath : op.path = "volumes" :: rest) :
      OwnEdit entries op

namespace OwnEdit

variable {entries : Target → Option (List Json)}

/-- Neither kind of edit replaces the whole specification. -/
theorem inside {op : Operation} (h : OwnEdit entries op) : op.Inside := by
  cases h with
  | entry _ hinner =>
    exact Patch.inside_under (by simp) [_] _ (List.mem_singleton_self _)
  | volumes hpath => exact Operation.inside_of_path hpath

/-- Edits of all items of a list are operations on its entries, if each edit of an item is
one on the entry in its place. -/
theorem of_mem_each {α : Type} {edit : α → Patch} {xs : List α} (target : Target)
    (h : ∀ (index : Nat) x, xs[index]? = some x → ∃ entry,
      ((entries target).getD [])[index]? = some entry ∧
        ∀ inner ∈ edit x, inner.Retouches target.edited entry) :
    ∀ op ∈ Patch.under [target.field] (Patch.each edit 0 xs), OwnEdit entries op := by
  intro op hop
  obtain ⟨outer, houter, rfl⟩ := List.mem_map.mp hop
  obtain ⟨index, x, inner, hx, hinner, rfl⟩ := Patch.exists_of_mem_each houter
  obtain ⟨entry, hentry, hall⟩ := h index x hx
  rw [Nat.zero_add, Operation.under_under]
  exact .entry hentry (hall inner hinner)

end OwnEdit

/-! ### Documents -/

/-- A specification with these entries in its lists, each in an edited form, and with the
other members of another specification. -/
structure Edited (entries : Target → Option (List Json)) (old now : Json) : Prop where
  others : SameOff ["containers", "initContainers", "volumes"] old now
  lists : ∀ target, Option.Rel (List.Forall₂ (SameOff target.edited)) (entries target)
    (now.list? target.field)

namespace Edited

variable {entries : Target → Option (List Json)} {old now next : Json}

/-- Both lists are among the members that may differ. -/
theorem field_mem (target : Target) :
    [target.field] ⊆ ["containers", "initContainers", "volumes"] := by
  cases target with
  | initContainers => decide
  | containers => decide

/-- A specification holds its own entries. -/
theorem refl (s : Json) : Edited (fun target => s.list? target.field) s s where
  others := SameOff.refl _ s
  lists target := by
    cases s.list? target.field with
    | none => exact .none
    | some items => exact .some (List.forall₂_same.mpr fun item _ => SameOff.refl _ item)

/-- A list that has entries is there, with an edited form of each entry. -/
theorem exists_items (h : Edited entries old now) {target : Target} {own : List Json}
    (hown : entries target = some own) :
    ∃ items, now.list? target.field = some items ∧
      List.Forall₂ (SameOff target.edited) own items := by
  have hlist := h.lists target
  rw [hown] at hlist
  exact exists_of_rel_some hlist

/-- One operation keeps the entries in edited form, all in their places. -/
theorem step (h : Edited entries old now) {op : Operation} (hop : OwnEdit entries op)
    (hrun : op.run? now = some next) : Edited entries old next := by
  cases hop with
  | @entry target index entry inner hentry hinner =>
    have hpath : (inner.under [target.field, Pointer.ofIndex index]).path =
        target.field :: Pointer.ofIndex index :: inner.path := Operation.path_under _ _
    have hsame := Operation.sameOff_run? hpath hrun
    refine ⟨h.others.trans (hsame.mono (field_mem target)), fun other => ?_⟩
    by_cases hother : other = target
    · subst hother
      cases hown : entries other with
      | none => simp [hown] at hentry
      | some own =>
        obtain ⟨items, hlist, hitems⟩ := h.exists_items hown
        obtain ⟨item, new, hitem, hnew, hnext⟩ :=
          Operation.run?_at hinner.inside hlist hrun
        rw [hnext]
        -- The changed item stays a form of the entry in its place.
        refine .some (forall₂_set hitems fun e he => ?_)
        obtain rfl : e = entry := by
          rw [hown, Option.getD_some, he] at hentry
          exact Option.some.inj hentry
        have hold : SameOff other.edited e item := by
          obtain ⟨hlt, rfl⟩ := List.getElem?_eq_some_iff.mp hitem
          obtain ⟨hlt', rfl⟩ := List.getElem?_eq_some_iff.mp he
          exact hitems.get hlt' hlt
        exact hinner.sameOff hold hnew
    · have hfield : other.field ∉ [target.field] := fun hmem =>
        hother (Target.eq_of_field (List.mem_singleton.mp hmem))
      rw [hsame.list?_eq hfield]
      exact h.lists other
  | volumes hpath =>
    have hsame := Operation.sameOff_run? hpath hrun
    refine ⟨h.others.trans (hsame.mono (by decide)), fun other => ?_⟩
    have hfield : other.field ∉ ["volumes"] := by
      cases other with
      | initContainers => decide
      | containers => decide
    rw [hsame.list?_eq hfield]
    exact h.lists other

/-- Any number of operations keep the entries in edited form. -/
theorem run (h : Edited entries old now) {patch : Patch} (hpatch : ∀ op ∈ patch, OwnEdit entries op)
    (hrun : Patch.run? patch now = some next) : Edited entries old next := by
  induction patch generalizing now with
  | nil =>
    cases hrun
    exact h
  | cons op rest ih =>
    obtain ⟨hop, hrest⟩ := List.forall_mem_cons.mp hpatch
    obtain ⟨mid, hmid, hrun⟩ := Option.bind_eq_some_iff.mp hrun
    exact ih (h.step hop hmid) hrest hrun

end Edited

/-! ### Created patches -/

/-- The written form of a container with a start hook differs in the lifecycle alone. -/
theorem Secrets.sameOff_withHook (hook : LifecycleHandler) (c : Container) :
    SameOff Target.containers.edited c.toJson (withHook hook c).toJson := by
  intro key hkey
  have hlifecycle : key ≠ "lifecycle" := fun h => hkey (by simp [h, Target.edited])
  simp [Container.toJson, withHook, Json.member?, Dict.get?_insertSome, hlifecycle]

/-- Writing a container with a start hook in its place retouches its written form. Of another entry
this may not be said, as the other members are written anew too. -/
theorem Secrets.retouches_replaceEdit (hook : LifecycleHandler) (c : Container) :
    ∀ inner ∈ replaceEdit (withHook hook c),
      inner.Retouches Target.containers.edited c.toJson :=
  List.forall_mem_singleton.mpr (Operation.retouches_replace (sameOff_withHook hook c))

/-- Wrapping a command retouches any entry, as it works inside one member. -/
theorem Secrets.retouches_wrapEdit (process : String) (c : Container) (entry : Json) :
    ∀ inner ∈ wrapEdit process c, inner.Retouches Target.containers.edited entry :=
  List.forall_mem_singleton.mpr (Operation.retouches_of_path rfl (by decide))

/-- So does adding a mount, with or without a list for it. -/
theorem Injector.retouches_mountEdit (target : Target) (c : Container) (entry : Json) :
    ∀ inner ∈ mountEdit c, inner.Retouches target.edited entry := by
  unfold mountEdit
  split
  · exact nofun
  · split
    · exact List.forall_mem_singleton.mpr
        (Operation.retouches_of_path rfl target.volumeMounts_mem_edited)
    · exact List.forall_mem_singleton.mpr
        (Operation.retouches_of_path rfl target.volumeMounts_mem_edited)

/-- Volumes are added inside their own member. -/
theorem PodSpec.path_of_mem_volumeEdits {absent : Bool} {values : List Json} :
    ∀ op ∈ volumeEdits absent values, ∃ rest, op.path = "volumes" :: rest := by
  cases values with
  | nil => exact nofun
  | cons value rest =>
    cases absent with
    | true => exact List.forall_mem_cons.mpr ⟨⟨[], rfl⟩, fun _ => Patch.path_of_mem_under⟩
    | false => exact fun _ => Patch.path_of_mem_under

/-- As many entries as a specification has containers, in both lists. -/
def Covers (entries : Target → Option (List Json)) (spec : PodSpec) : Prop :=
  ∀ target, ((entries target).getD []).length = (spec.listed target).length

/-- The entries that a specification is written with. -/
def PodSpec.entries (s : PodSpec) (target : Target) : Option (List Json) :=
  (s.list target).map (List.map Container.toJson)

/-- The entries of a written specification are as many as its containers. -/
theorem PodSpec.covers_entries (s : PodSpec) : Covers s.entries s := by
  intro target
  rw [entries, listed]
  cases s.list target with
  | none => rfl
  | some cs => simp

/-- A container has an entry in its place. -/
theorem Covers.exists_entry {entries : Target → Option (List Json)} {spec : PodSpec}
    (h : Covers entries spec) (target : Target) {index : Nat} {c : Container}
    (hc : (spec.listed target)[index]? = some c) :
    ∃ entry, ((entries target).getD [])[index]? = some entry := by
  obtain ⟨hlt, -⟩ := List.getElem?_eq_some_iff.mp hc
  exact ⟨_, List.getElem?_eq_getElem (h target ▸ hlt)⟩

/-- The edits of the commands are edits of the entries, of any that are as many as the containers.
-/
theorem Secrets.exists_commandEdits {spec : PodSpec} {ctx : Context} {commands : Patch}
    (h : commandPatch spec ctx = .ok commands) :
    ∃ edits, commands = Patch.under ["spec"] edits ∧
      ∀ entries, Covers entries spec → ∀ op ∈ edits, OwnEdit entries op := by
  rw [commandPatch_eq] at h
  split at h
  · split at h
    · cases h
    · refine ⟨_, (Except.ok.inj h).symm, fun entries hentries => ?_⟩
      refine OwnEdit.of_mem_each .containers fun index c hc => ?_
      obtain ⟨entry, hentry⟩ := hentries.exists_entry .containers hc
      exact ⟨entry, hentry, retouches_wrapEdit _ c entry⟩
  · exact ⟨[], (Except.ok.inj h).symm, fun _ _ => nofun⟩

/-- So are the edits of the mounts. -/
theorem Injector.exists_mountEdits (spec : PodSpec) (ctx : Context) :
    ∃ edits, secretsPatch spec ctx = Patch.under ["spec"] edits ∧
      ∀ entries, Covers entries spec → ∀ op ∈ edits, OwnEdit entries op := by
  have hlist : ∀ {entries}, Covers entries spec → ∀ target : Target,
      ∀ op ∈ Patch.under [target.field] (Patch.each mountEdit 0 (spec.listed target)),
        OwnEdit entries op := by
    intro entries hentries target
    refine OwnEdit.of_mem_each target fun index c hc => ?_
    obtain ⟨entry, hentry⟩ := hentries.exists_entry target hc
    exact ⟨entry, hentry, retouches_mountEdit target c entry⟩
  -- Mounts are added in both lists, or in neither when the mode is off.
  unfold secretsPatch
  split
  · refine ⟨Patch.under ["initContainers"] (Patch.each mountEdit 0 (spec.listed .initContainers)) ++
      Patch.under ["containers"] (Patch.each mountEdit 0 (spec.listed .containers)), ?_, ?_⟩
    · rw [mountPatch_eq, mountPatch_eq, Patch.under_append]
      rfl
    · intro entries hentries op hop
      rcases List.mem_append.mp hop with hop | hop
      · exact hlist hentries .initContainers op hop
      · exact hlist hentries .containers op hop
  · exact ⟨[], rfl, fun _ _ => nofun⟩

/-- The mark is set inside the annotations. -/
theorem Injector.exists_statusEdit (i : Injector) (metadata : ObjectMeta) :
    ∃ (inner : Operation) (rest : Pointer), i.statusOperation metadata = inner.under ["metadata"] ∧
      inner.path = "annotations" :: rest := by
  unfold statusOperation
  dsimp only
  split
  · exact ⟨.add ["annotations"] _, [], rfl, rfl⟩
  · split
    · exact ⟨.replace ["annotations", _] _, [_], rfl, rfl⟩
    · exact ⟨.add ["annotations", _] _, [_], rfl, rfl⟩

/-- A created patch in its parts: the hooks, the edits of members and of the volumes, the
insertions into both lists, and the mark. -/
theorem InjectionSteps.exists_parts {config : Config} {pod : Pod} {log : Patch} {spec : PodSpec}
    {ctx : Context} {modeEdits : Patch} {rendered : Target → List Container}
    (h : InjectionSteps config pod log spec ctx modeEdits rendered) :
    ∃ members : Patch,
      (∀ entries, Covers entries spec → ∀ op ∈ members, OwnEdit entries op) ∧
      log = Patch.under ["spec"] (Secrets.hookEdits (Effect.startHook ⟨config, .builtin⟩
          (.ofMetadata pod.metadata) ctx spec.containers) spec.containers ++ members) ++
        Rendering.prepend .initContainers spec.initContainers.isNone (rendered .initContainers) ++
        Rendering.prepend .containers false (rendered .containers) ++
        [(Injector.mk config .builtin).statusOperation pod.metadata] := by
  obtain ⟨hooks, commands, hhooks, hcommands, rfl⟩ := h.exists_modeEdits
  obtain ⟨commandEdits, rfl, hcommandOwn⟩ := Secrets.exists_commandEdits hcommands
  obtain ⟨mountEdits, hmounts, hmountOwn⟩ := Injector.exists_mountEdits spec ctx
  have hlog := h.log_eq
  rw [hmounts, Injector.volumePatch_eq] at hlog
  -- All members are edited in place, and volumes outside of both lists.
  have hown : ∀ entries, Covers entries spec → ∀ op ∈ commandEdits ++ mountEdits ++
      PodSpec.volumeEdits spec.volumes.isNone
        ((Effect.newVolumes ⟨config, .builtin⟩ spec).map Volume.toJson), OwnEdit entries op := by
    intro entries hentries op hop
    simp only [List.mem_append] at hop
    rcases hop with (hop | hop) | hop
    · exact hcommandOwn entries hentries op hop
    · exact hmountOwn entries hentries op hop
    · obtain ⟨rest, hpath⟩ := PodSpec.path_of_mem_volumeEdits op hop
      exact .volumes hpath
  obtain rfl := Injector.hookPatch_eq (i := ⟨config, .builtin⟩) hhooks
  exact ⟨_, hown, by simpa [Patch.under_append] using hlog⟩

end SidecarInjection
