import SidecarInjection.Proofs.Injection.Effect
import SidecarInjection.Proofs.Json.Items
import SidecarInjection.Proofs.Pod.Edit

/-!
# `SidecarInjection.Proofs.Injection.Container`: edits of the pod's own containers

Every edit of a container lies under the position of the container in its list.
Taken relative to the container it is one of three: the container is replaced,
its command is replaced, or a mount is added.

* `Secrets.mapIdx_replace_eq`, `Secrets.commandPatch_eq`, `Injector.mountPatch_eq`:
  the edits of a list are the relative edits of its items.
* `Secrets.turns_replaceEdit`, `Secrets.turns_wrapEdit`, `Injector.turns_mountEdit`:
  what each edit makes of an object that denotes the container.
-/

set_option autoImplicit false

namespace SidecarInjection

open Outcome
open Schema (Codec)

/-! ### Edits of lists from edits of items -/

namespace Patch

variable {α : Type}

/-- Operations that are given by a position and an item are the edits of all items. -/
theorem filterMap_zipIdx_eq (op : Nat → α → Option Operation) {edit : α → Patch} {p : Pointer}
    (h : ∀ index x, (op index x).toList = under p (under [Pointer.ofIndex index] (edit x)))
    (index : Nat) (xs : List α) :
    ((xs.zipIdx index).filterMap fun x => op x.2 x.1) = under p (each edit index xs) := by
  induction xs generalizing index with
  | nil => rfl
  | cons x rest ih =>
    rw [List.zipIdx_cons, List.filterMap_cons, each, under_append, ← h, ih]
    cases op index x <;> rfl

/-- An operation for every item is one that no item goes without. -/
theorem mapIdx_eq_filterMap (op : Nat → α → Operation) (xs : List α) :
    xs.mapIdx op = xs.zipIdx.filterMap fun x => some (op x.2 x.1) := by
  rw [List.mapIdx_eq_zipIdx_map, List.filterMap_eq_map']

/-- The place of a container list is a field of the specification. -/
theorem under_listPath (target : Target) (patch : Patch) :
    under target.listPath patch = under ["spec"] (under [target.field] patch) :=
  (under_under ["spec"] [target.field] patch).symm

end Patch

/-! ### The start hook -/

namespace Secrets

/-- A container is replaced as a whole. -/
def replaceEdit (new : Container) : Patch := [.replace [] new.toJson]

/-- A replacement leads from anything to the new container. -/
theorem turns_replaceEdit (c new : Container) :
    Patch.Turns (Schema.container.Denotes Container.toJson) (replaceEdit new) c new :=
  ⟨by simp [replaceEdit, Operation.Inside],
    fun _ _ => ⟨new.toJson, rfl, Container.denotes_toJson new⟩⟩

/-- The edits of the hook replace every container. -/
theorem mapIdx_replace_eq (hook : LifecycleHandler) (cs : List Container) :
    (cs.mapIdx fun i c => .replace (Target.containers.itemPath i) (withHook hook c).toJson) =
      Patch.under ["spec"] (Patch.under ["containers"]
        (Patch.each (fun c => replaceEdit (withHook hook c)) 0 cs)) := by
  rw [Patch.mapIdx_eq_filterMap]
  refine Eq.trans ?_ (Patch.under_listPath .containers _)
  exact Patch.filterMap_zipIdx_eq (fun i c =>
    some (.replace (Target.containers.itemPath i) (withHook hook c).toJson)) (fun _ _ => rfl) 0 cs

/-- The edits of a specification that set a start hook, if there is one to set. -/
def hookEdits (hook : Option LifecycleHandler) (cs : List Container) : Patch :=
  match hook with
  | none => []
  | some hook =>
    Patch.under ["containers"] (Patch.each (fun c => replaceEdit (withHook hook c)) 0 cs)

/-- The edits of the hook work inside the specification. -/
theorem inside_hookEdits (hook : Option LifecycleHandler) (cs : List Container) :
    ∀ op ∈ hookEdits hook cs, op.Inside := by
  cases hook with
  | none => exact nofun
  | some hook => exact Patch.inside_under (by simp) _

/-! ### Commands -/

/-- The command of a container is run by a process. -/
def wrapEdit (process : String) (c : Container) : Patch :=
  [.replace ["command"] (.texts (process :: c.command.getD []))]

/-- Whether a container has no command to run. -/
def lacksCommand (c : Container) : Bool := (c.command.getD []).isEmpty

/-- The edit of a command fits a container that has one, also after edits that left the
command alone. -/
theorem turns_wrapEdit (process : String) {c now : Container} (hc : lacksCommand c = false)
    (hnow : now.command = c.command) :
    Patch.Turns (Schema.container.Denotes Container.toJson) (wrapEdit process c) now
      (Effect.wrapCommand (some process) now) := by
  refine ⟨by simp [wrapEdit, Operation.Inside], fun j h => ?_⟩
  obtain ⟨ms, rfl⟩ := Schema.exists_members_of_denotes h
  cases hcommand : c.command with
  | none =>
    -- Such a container is reported before any edit is made.
    simp [lacksCommand, hcommand] at hc
  | some command =>
    obtain ⟨old, hold⟩ := Container.exists_command h (hnow.trans hcommand)
    refine ⟨.obj (Dict.insert ms "command" (.texts (process :: command))), ?_, ?_⟩
    · rw [wrapEdit, Patch.run?_singleton, Patch.run?_replace_member _ hold, hcommand]
      rfl
    · rw [Effect.wrapCommand, hnow, hcommand]
      exact Container.denotes_insert_command h (process :: command)

/-- A container without a command is reported by its name. Any other has the process put in front of
its command. -/
theorem wrapOperation_eq (process : String) (index : Nat) (c : Container) :
    wrapOperation process index c =
      if lacksCommand c then .error (.annotationFault methodKey (.commandMissing c.name))
      else .ok (.replace (Target.containers.itemPath index ++ ["command"])
        (.texts (process :: c.command.getD []))) := by
  unfold wrapOperation wrapCommand lacksCommand
  cases c.command with
  | none => rfl
  | some command => cases command <;> rfl

/-- The commands of all containers are wrapped, unless one has none. The first such
container is reported. -/
theorem mapM_wrapOperation_eq (process : String) (index : Nat) (cs : List Container) :
    (cs.zipIdx index).mapM (fun ci => wrapOperation process ci.2 ci.1) =
      match cs.find? lacksCommand with
      | some c => .error (.annotationFault methodKey (.commandMissing c.name))
      | none => .ok (Patch.under Target.containers.listPath
          (Patch.each (wrapEdit process) index cs)) := by
  induction cs generalizing index with
  | nil => rfl
  | cons c rest ih =>
    rw [List.zipIdx_cons, List.mapM_cons, wrapOperation_eq, List.find?_cons]
    -- A container without a command ends both the traversal and the search.
    cases hc : lacksCommand c with
    | true => rfl
    | false =>
      simp only [Bool.false_eq_true, if_false, ok_bind, ih]
      cases rest.find? lacksCommand <;> rfl

/-- Commands are wrapped for static secrets in the environment, all of them or none. -/
theorem commandPatch_eq (spec : PodSpec) (ctx : Context) :
    commandPatch spec ctx =
      if usesEnv ctx then
        match spec.containers.find? lacksCommand with
        | some c => .error (.annotationFault methodKey (.commandMissing c.name))
        | none => .ok (Patch.under ["spec"] (Patch.under ["containers"]
            (Patch.each (wrapEdit (mountPath spec.containers ++ "/" ++ envProcess)) 0
              spec.containers)))
      else .ok [] := by
  unfold commandPatch
  split
  · rw [mapM_wrapOperation_eq, Patch.under_listPath]
    rfl
  · rfl

end Secrets

/-! ### Mounts -/

namespace Injector

/-- The mount of the secrets volume. -/
def secretsMount : VolumeMount := .plain Secrets.volumeName Secrets.defaultMountPath

/-- The secrets volume is mounted into a container that does not mount it. -/
def mountEdit (c : Container) : Patch :=
  if Effect.isMounted c then []
  else match c.volumeMounts with
    | none => [.add ["volumeMounts"] (.arr [secretsMount.toJson])]
    | some _ => [.add ["volumeMounts", "-"] secretsMount.toJson]

/-- To look for either of two things is to look for one after the other. -/
theorem any_or {α : Type} (p q : α → Bool) (xs : List α) :
    (xs.any fun x => p x || q x) = (xs.any p || xs.any q) := by
  induction xs with
  | nil => rfl
  | cons x rest ih =>
    simp only [List.any_cons, ih]
    cases p x <;> cases q x <;> simp

/-- The operation on a container is its edit, taken under its place. -/
theorem mountOperation_eq (target : Target) (index : Nat) (c : Container) :
    (mountOperation target index c).toList =
      Patch.under target.listPath (Patch.under [Pointer.ofIndex index] (mountEdit c)) := by
  unfold mountOperation mountEdit Effect.isMounted Container.mounts
  cases c.volumeMounts with
  | none => rfl
  | some mounts =>
    -- The two conditions are asked one after the other, over the same list.
    simp only [Option.getD_some, any_or]
    cases mounts.any fun m => m.name = Secrets.volumeName with
    | true => rfl
    | false =>
      cases mounts.any fun m => m.mountPath = Secrets.defaultMountPath with
      | true => rfl
      | false => rfl

/-- So the operations on a list are the edits of its containers. -/
theorem mountPatch_eq (target : Target) (cs : List Container) :
    mountPatch target cs =
      Patch.under ["spec"] (Patch.under [target.field] (Patch.each mountEdit 0 cs)) := by
  rw [← Patch.under_listPath]
  exact Patch.filterMap_zipIdx_eq _ (mountOperation_eq target) 0 cs

/-- The edit of the mounts works inside the container. -/
theorem inside_mountEdit (c : Container) : ∀ op ∈ mountEdit c, op.Inside := by
  intro op hop
  unfold mountEdit at hop
  split at hop
  · simp at hop
  · split at hop
    · simp_all [Operation.Inside]
    · simp_all [Operation.Inside]

/-- The edit of the mounts fits a container, also after edits that left the mounts
alone. -/
theorem turns_mountEdit {c now : Container} (hc : now.volumeMounts = c.volumeMounts) :
    Patch.Turns (Schema.container.Denotes Container.toJson) (mountEdit c) now
      (Effect.addMount now) := by
  refine ⟨inside_mountEdit c, fun j h => ?_⟩
  obtain ⟨ms, rfl⟩ := Schema.exists_members_of_denotes h
  have hmounted : Effect.isMounted now = Effect.isMounted c := by
    rw [Effect.isMounted, Effect.isMounted, Container.mounts, hc, Container.mounts]
  unfold mountEdit Effect.addMount
  rw [hmounted]
  have hmount : Schema.volumeMount.Denotes VolumeMount.toJson secretsMount secretsMount.toJson :=
    Codec.denotes_write VolumeMount.codec Schema.regular_volumeMount secretsMount
  split
  · exact ⟨.obj ms, rfl, h⟩
  · cases hvm : c.volumeMounts with
    | none =>
      -- The edit creates the list of mounts.
      refine ⟨_, Patch.run?_add_member _ _ _, ?_⟩
      rw [Container.mounts, hc, hvm]
      exact Container.denotes_insert_mounts h (.cons hmount .nil)
    | some mounts =>
      -- The edit adds to the list that the mounts come from.
      obtain ⟨items, hitems, hdenotes⟩ := Container.exists_mounts h (hc.trans hvm)
      have hrun : Patch.run? [.add ["-"] secretsMount.toJson] (.arr items) =
          some (.arr (items ++ [secretsMount.toJson])) :=
        Patch.run?_appends [secretsMount.toJson] items
      have hinside : ∀ op ∈ ([.add ["-"] secretsMount.toJson] : Patch), op.Inside := by
        simp [Operation.Inside]
      refine ⟨.obj (Dict.insert ms "volumeMounts" (.arr (items ++ [secretsMount.toJson]))), ?_, ?_⟩
      · show Patch.run? (Patch.under ["volumeMounts"] [.add ["-"] secretsMount.toJson]) _ = _
        rw [Patch.run?_member hinside hitems, hrun]
        rfl
      · rw [Container.mounts, hc, hvm]
        exact Container.denotes_insert_mounts h
          (List.rel_append hdenotes (.cons hmount .nil))

end Injector

end SidecarInjection
