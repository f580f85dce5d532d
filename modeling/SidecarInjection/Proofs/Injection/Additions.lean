import SidecarInjection.Proofs.Injection.Applied

/-!
# `SidecarInjection.Proofs.Injection.Additions`: the containers a patch adds

An operation brings containers into a list of a pod when it adds an entry to the list,
or the list itself, or when it writes an entry in place of the one that stood there. In
a created patch the rendered containers are added, and start hooks are set by writing a
container of the pod in its own place. All other operations are quiet: they lie below an
entry, or outside of the lists.

* `Operation.Quiet`: an operation that brings no container into a list.
* `Injector.quiet_secretsPatch`, `quiet_volumePatch`, `quiet_statusOperation`,
  `Secrets.quiet_commandPatch`: the quiet steps.
* `InjectionSteps.flatMap_added`: the added containers are the rendered ones.
* `InjectionSteps.name_of_replaced`: what is written in place of a container of the
  pod has its name.
-/

set_option autoImplicit false

namespace SidecarInjection

open Outcome

/-! ### Operations on container lists -/

namespace Operation

/-- The containers that a value brings into a list of a pod, when it is put in a place: all
its items for the whole list, and itself for an entry. -/
def placed (target : Target) (path : Pointer) (value : Json) : List Json :=
  if path = target.listPath then value.items?.getD []
  else if path.dropLast = target.listPath then [value]
  else []

/-- The containers that an operation adds to a list of a pod. -/
def added (target : Target) : Operation → List Json
  | .add path value => placed target path value
  | _ => []

/-- The containers that an operation writes in place of others of a list of a pod. -/
def replaced (target : Target) : Operation → List Json
  | .replace path value => placed target path value
  | _ => []

/-- An operation that brings no container into a list of a pod. -/
def Quiet (op : Operation) : Prop := ∀ target, op.added target = [] ∧ op.replaced target = []

variable {target other : Target} {path : Pointer} {value : Json}

/-- A whole list brings its items into the list of its place, and into no other one. -/
theorem placed_listPath (items : List Json) :
    placed target other.listPath (.arr items) = if other = target then items else [] := by
  cases target <;> cases other <;> rfl

/-- An entry is brought into the list in which it is put. -/
theorem placed_itemPath (index : Nat) :
    placed target (other.itemPath index) value = if other = target then [value] else [] := by
  cases target <;> cases other <;> rfl

/-- Below an entry nothing is brought into a list. -/
theorem placed_below (index : Nat) (token : String) (rest : Pointer) :
    placed target (other.itemPath index ++ token :: rest) value = [] := by
  have hlist : other.itemPath index ++ token :: rest ≠ target.listPath := by
    intro h
    have hlength := congrArg List.length h
    simp [Target.itemPath, Target.listPath] at hlength
  have hentry : (other.itemPath index ++ token :: rest).dropLast ≠ target.listPath := by
    intro h
    have hlength := congrArg List.length h
    simp [Target.itemPath, Target.listPath] at hlength
  rw [placed, if_neg hlist, if_neg hentry]

/-- An addition is quiet when its value brings nothing into either list. -/
theorem quiet_add (h : ∀ target, placed target path value = []) : (add path value).Quiet :=
  fun target => ⟨h target, rfl⟩

/-- So is a replacement. -/
theorem quiet_replace (h : ∀ target, placed target path value = []) :
    (replace path value).Quiet :=
  fun target => ⟨rfl, h target⟩

end Operation

/-! ### Quiet steps -/

namespace Injector

/-- Mounts lie below an entry, whether the list of them is created or one is added to it. -/
theorem quiet_mountPatch (target : Target) (cs : List Container) :
    ∀ op ∈ mountPatch target cs, op.Quiet := by
  intro op hop
  obtain ⟨ci, -, hci⟩ := List.mem_filterMap.mp hop
  unfold mountOperation at hci
  dsimp only at hci
  -- A list of mounts is created, or one mount is added to it.
  split at hci
  · cases hci
    exact Operation.quiet_add fun _ => Operation.placed_below _ _ _
  · split at hci
    · cases hci
    · split at hci
      · cases hci
      · cases hci
        exact Operation.quiet_add fun _ => Operation.placed_below _ _ _

/-- So the step that mounts the secrets is quiet, in both lists of containers. -/
theorem quiet_secretsPatch (spec : PodSpec) (ctx : Context) :
    ∀ op ∈ secretsPatch spec ctx, op.Quiet := by
  unfold secretsPatch
  split
  · intro op hop
    rcases List.mem_append.mp hop with hop | hop
    · exact quiet_mountPatch _ _ op hop
    · exact quiet_mountPatch _ _ op hop
  · exact fun _ hop => absurd hop List.not_mem_nil

/-- Volumes are put in a list of their own. -/
theorem quiet_volumeAdditions (absent : Bool) (volumes : List Volume) :
    ∀ op ∈ volumeAdditions absent volumes, op.Quiet := by
  induction volumes generalizing absent with
  | nil => exact fun _ hop => absurd hop List.not_mem_nil
  | cons v rest ih =>
    rw [volumeAdditions, List.forall_mem_cons]
    refine ⟨?_, ih false⟩
    cases absent with
    | true => exact Operation.quiet_add fun target => by cases target <;> rfl
    | false => exact Operation.quiet_add fun target => by cases target <;> rfl

/-- So the step that adds volumes is quiet. -/
theorem quiet_volumePatch (i : Injector) (spec : PodSpec) :
    ∀ op ∈ i.volumePatch spec, op.Quiet :=
  quiet_volumeAdditions _ _

/-- The mark is set in the metadata, in each of the three ways. -/
theorem quiet_statusOperation (i : Injector) (metadata : ObjectMeta) :
    (i.statusOperation metadata).Quiet := by
  unfold statusOperation
  dsimp only
  split
  · exact Operation.quiet_add fun target => by cases target <;> rfl
  · split
    · exact Operation.quiet_replace fun target => by cases target <;> rfl
    · exact Operation.quiet_add fun target => by cases target <;> rfl

end Injector

namespace Secrets

/-- A command lies below an entry, so wrapping commands is quiet. -/
theorem quiet_commandPatch {spec : PodSpec} {ctx : Context} {commands : Patch}
    (h : commandPatch spec ctx = .ok commands) : ∀ op ∈ commands, op.Quiet := by
  unfold commandPatch at h
  split at h
  · intro op hop
    obtain ⟨ci, -, hci⟩ := exists_of_mapM h hop
    obtain ⟨command, -, hci⟩ := bind_eq_ok.mp hci
    cases hci
    exact Operation.quiet_replace fun _ => Operation.placed_below _ _ _
  · cases h
    exact fun _ hop => absurd hop List.not_mem_nil

/-- A start hook is set by writing a container of the pod in its own place. -/
theorem exists_withHook_of_hookPatch {config : Config} {keys : AnnotationKeys} {spec : PodSpec}
    {labels : PodLabels} {ctx : Context} {hooks : Patch}
    (h : hookPatch config keys spec labels ctx = .ok hooks) {op : Operation} (hop : op ∈ hooks) :
    ∃ index hook, ∃ c ∈ spec.containers,
      op = .replace (Target.containers.itemPath index) (withHook hook c).toJson := by
  unfold hookPatch at h
  -- Operations are only made in the last case: a hook is requested, allowed, configured, and runs a
  -- command.
  split at h
  · cases h
    cases hop
  · split at h
    · cases h
    · split at h
      · cases h
        cases hop
      · split at h
        · cases h
        · cases h
          obtain ⟨index, hindex, rfl⟩ := List.mem_mapIdx.mp hop
          exact ⟨index, _, _, List.getElem_mem hindex, rfl⟩

end Secrets

/-! ### Rendered containers -/

namespace Rendering

variable {target other : Target}

/-- Inserted containers are added to the list in which they are inserted, at whatever position. -/
theorem added_insertions (index : Nat) (cs : List Container) :
    (insertions other index cs).flatMap (Operation.added target) =
      if other = target then cs.map Container.toJson else [] := by
  induction cs generalizing index with
  | nil => split <;> rfl
  | cons c rest ih =>
    rw [insertions, List.flatMap_cons, ih]
    show Operation.placed target (other.itemPath index) c.toJson ++ _ = _
    rw [Operation.placed_itemPath]
    split <;> rfl

/-- Containers are put in front of their own list, and all of them are added. -/
theorem added_prepend (absent : Bool) (cs : List Container) :
    (prepend other absent cs).flatMap (Operation.added target) =
      if other = target then cs.map Container.toJson else [] := by
  cases cs with
  | nil => split <;> rfl
  | cons c rest =>
    cases absent with
    | false => exact added_insertions 0 (c :: rest)
    | true =>
      -- The list is created with the first container.
      show Operation.placed target other.listPath (.arr [c.toJson]) ++
        (insertions other 1 rest).flatMap (Operation.added target) = _
      rw [Operation.placed_listPath, added_insertions]
      split <;> rfl

/-- An insertion replaces nothing. -/
theorem replaced_insertions (index : Nat) (cs : List Container) :
    (insertions other index cs).flatMap (Operation.replaced target) = [] := by
  induction cs generalizing index with
  | nil => rfl
  | cons c rest ih => exact ih (index + 1)

/-- So nothing is replaced when containers are put in front of a list, also if the list is created.
-/
theorem replaced_prepend (absent : Bool) (cs : List Container) :
    (prepend other absent cs).flatMap (Operation.replaced target) = [] := by
  cases cs with
  | nil => rfl
  | cons c rest =>
    cases absent with
    | false => exact replaced_insertions 0 (c :: rest)
    | true => exact replaced_insertions 1 rest

end Rendering

/-! ### Created patches -/

/-- The written form of a container holds its name. -/
theorem Container.memberText?_name (c : Container) :
    c.toJson.memberText? "name" = some c.name := by
  -- The members that are set after the name have other keys.
  simp [toJson, Json.memberText?, Json.member?, Dict.get?_insertSome, Json.text?]

namespace InjectionSteps

variable {config : Config} {pod : Pod} {log : Patch} {spec : PodSpec} {ctx : Context}
  {modeEdits : Patch} {rendered : Target → List Container}

/-- What a patch brings into a list is what its hooks bring, and what is put in front. -/
theorem flatMap_eq (h : InjectionSteps config pod log spec ctx modeEdits rendered) :
    ∃ hooks, Secrets.hookPatch config (Injector.mk config .builtin).keys spec
        (.ofMetadata pod.metadata) ctx = .ok hooks ∧
      ∀ f : Operation → List Json, (∀ op, op.Quiet → f op = []) →
        log.flatMap f = hooks.flatMap f ++
          (Rendering.prepend .initContainers spec.initContainers.isNone
            (rendered .initContainers)).flatMap f ++
          (Rendering.prepend .containers false (rendered .containers)).flatMap f := by
  obtain ⟨hooks, commands, hhooks, hcommands, rfl⟩ := h.exists_modeEdits
  refine ⟨hooks, hhooks, fun f hf => ?_⟩
  have hquiet : ∀ patch : Patch, (∀ op ∈ patch, op.Quiet) → patch.flatMap f = [] := fun _ hq =>
    List.flatMap_eq_nil_iff.mpr fun op hop => hf op (hq op hop)
  rw [h.log_eq]
  simp only [List.flatMap_append, hquiet commands (Secrets.quiet_commandPatch hcommands),
    hquiet _ (Injector.quiet_secretsPatch spec ctx), hquiet _ (Injector.quiet_volumePatch _ spec),
    hquiet _ (List.forall_mem_singleton.mpr (Injector.quiet_statusOperation _ _)),
    List.append_nil]

/-- The containers that are added to a list are the rendered ones. -/
theorem flatMap_added (h : InjectionSteps config pod log spec ctx modeEdits rendered)
    (target : Target) :
    log.flatMap (Operation.added target) = (rendered target).map Container.toJson := by
  obtain ⟨hooks, hhooks, hlog⟩ := h.flatMap_eq
  -- Hooks replace containers, and add none.
  have hreplace : hooks.flatMap (Operation.added target) = [] := by
    rw [List.flatMap_eq_nil_iff]
    intro op hop
    obtain ⟨index, hook, c, -, rfl⟩ := Secrets.exists_withHook_of_hookPatch hhooks hop
    rfl
  rw [hlog _ fun op hop => (hop target).1, hreplace, Rendering.added_prepend,
    Rendering.added_prepend]
  -- Of the two insertions one is for the other list.
  cases target with
  | initContainers => simp
  | containers => simp

/-- What is written in place of a container of the pod has its name. -/
theorem name_of_replaced (h : InjectionSteps config pod log spec ctx modeEdits rendered)
    {target : Target} {j : Json} (hj : j ∈ log.flatMap (Operation.replaced target)) :
    ∃ c ∈ spec.listed target, j.memberText? "name" = some c.name := by
  obtain ⟨hooks, hhooks, hlog⟩ := h.flatMap_eq
  rw [hlog _ fun op hop => (hop target).2, Rendering.replaced_prepend,
    Rendering.replaced_prepend, List.append_nil, List.append_nil] at hj
  obtain ⟨op, hop, hj⟩ := List.mem_flatMap.mp hj
  obtain ⟨index, hook, c, hc, rfl⟩ := Secrets.exists_withHook_of_hookPatch hhooks hop
  -- Hooks are set in the application containers.
  have hplaced : j ∈ Operation.placed target (Target.containers.itemPath index)
      (Secrets.withHook hook c).toJson := hj
  rw [Operation.placed_itemPath] at hplaced
  cases target with
  | initContainers => cases hplaced
  | containers =>
    cases List.mem_singleton.mp hplaced
    exact ⟨c, hc, Container.memberText?_name (Secrets.withHook hook c)⟩

end InjectionSteps

end SidecarInjection
