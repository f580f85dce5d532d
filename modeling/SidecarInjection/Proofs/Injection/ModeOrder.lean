import Mathlib.Data.List.Pairwise
import SidecarInjection.Proofs.Context.Modes
import SidecarInjection.Proofs.Injection.Create
import SidecarInjection.Proofs.Mode.Independence
import SidecarInjection.Proofs.Mode.Registry

/-!
# `SidecarInjection.Proofs.Injection.ModeOrder`: the order in which modes are registered

Each step of an injection goes through the enabled modes in the order of their registration.
`Registry.Reordered` says that two registries have the same modes in some order, and that any
two of these are independent. Then a pod is left alone by both, or gets the same patch from
both, or is refused by both. The reason for which it is refused may be another one, since the
first mode that fails gives it.

* `Context.toOption_build`, `Injector.toOption_modePatch`, `Rendering.toOption_patch`: each
  step has the same result.
* `Injector.toOption_mutate`: so a submitted pod has.
* `Injector.mutate_eq_of_registrations`: the built-in modes may be registered in any order,
  and more than once.
-/

set_option autoImplicit false

namespace SidecarInjection

open Outcome

namespace Registry

/-- The same modes in some order, any two of them independent. -/
structure Reordered (r s : Registry) : Prop where
  perm : r.modes.Perm s.modes
  nodup : r.keys.Nodup
  independent : ∀ a ∈ r.modes, ∀ b ∈ r.modes, a ≠ b → a.Independent b

namespace Reordered

variable {r s : Registry} (h : r.Reordered s)

include h

/-! ### Requests -/

/-- A key stands for the same mode, as no two modes have one key. -/
theorem get?_eq : r.get? = s.get? := get?_eq_of_perm h.perm h.nodup

/-- The default mode is the same. Of independent modes, one at most is a default. -/
theorem defaultMode?_eq : r.defaultMode? = s.defaultMode? := by
  refine defaultMode?_eq_of_perm h.perm fun a ha b hb hadefault hbdefault => ?_
  by_contra hne
  exact (h.independent a ha b hb hne).isDefault ⟨hadefault, hbdefault⟩

/-- The flags are the same to begin with, as they are sorted by key. -/
theorem noneEnabled_eq : r.noneEnabled = s.noneEnabled := by
  refine congrArg EnabledModes.mk (Dict.ofEntries_eq_of_perm (h.perm.map _) false ?_)
  simp

/-- A request enables the same modes. -/
theorem resolve_eq : r.resolve = s.resolve := by
  have hrequested : r.enableRequested = s.enableRequested := by
    funext alone enabled name
    rw [enableRequested, enableRequested, h.get?_eq, h.defaultMode?_eq]
  funext requested
  rw [resolve, resolve, h.noneEnabled_eq, h.defaultMode?_eq, hrequested]

/-- So the annotations of a pod request the same modes. -/
theorem requestedModes_eq : Context.requestedModes r = Context.requestedModes s := by
  funext keys annotations
  rw [Context.requestedModes, Context.requestedModes, h.resolve_eq]

/-- The known annotations are the same. -/
theorem keys_eq (config : Config) : (Injector.mk config r).keys = (Injector.mk config s).keys := by
  refine congrArg (AnnotationKeys.mk _ ∘ Dict.keys)
    (Dict.ofEntries_eq_of_perm (List.Perm.map _ ?_) () fun _ _ => rfl)
  exact (h.perm.flatMap_right _).append_left _

/-- The enabled modes are asked in another order. -/
theorem perm_enabledModes (modes : EnabledModes) :
    (r.enabledModes modes).Perm (s.enabledModes modes) := h.perm.filter _

/-- A run of steps, one for each enabled mode, has the same result when the steps of
independent modes may be exchanged. -/
theorem toOption_foldlM {α : Type} (modes : EnabledModes) {f : α → Mode → Except InjectionError α}
    (hexchange : ∀ a b : Mode, a.Independent b → ∀ x,
      ([a, b].foldlM f x).toOption = ([b, a].foldlM f x).toOption) (x : α) :
    ((r.enabledModes modes).foldlM f x).toOption =
      ((s.enabledModes modes).foldlM f x).toOption := by
  refine toOption_foldlM_perm (h.perm_enabledModes modes) (fun a ha b hb y => ?_) x
  by_cases hab : a = b
  · rw [hab]
  · exact hexchange a b
      (h.independent a (List.mem_of_mem_filter ha) b (List.mem_of_mem_filter hb) hab) y

end Reordered

end Registry

/-! ### Steps -/

namespace Context

variable {config : Config} {keys : AnnotationKeys} {pod : PodLabels}

/-- The templates are worked out in a run of steps, one for each mode. -/
theorem computeConfigs_eq_foldlM (modes : List Mode) (configs : Dict ModeConfig) :
    computeConfigs config keys pod modes configs =
      modes.foldlM (fun configs mode =>
        Dict.insertSome configs mode.key <$> mode.computeTemplate config keys pod) configs := by
  induction modes generalizing configs with
  | nil => rfl
  | cons mode rest ih =>
    rw [computeConfigs, List.foldlM_cons]
    cases mode.computeTemplate config keys pod with
    | error e => rfl
    | ok result => exact ih _

/-- What modes of different keys work out is kept apart. -/
theorem insertSome_comm (configs : Dict ModeConfig) {a b : String} (h : a ≠ b)
    (x y : Option ModeConfig) :
    Dict.insertSome (Dict.insertSome configs a x) b y =
      Dict.insertSome (Dict.insertSome configs b y) a x := by
  cases x with
  | none => rfl
  | some x =>
    cases y with
    | none => rfl
    | some y => exact Dict.insert_comm configs x y h

/-- The same context is worked out, if any. -/
theorem toOption_build {r s : Registry} (h : r.Reordered s) (containers : List Container) :
    (build config keys r containers pod).toOption =
      (build config keys s containers pod).toOption := by
  have hconfigs : ∀ modes,
      (computeConfigs config keys pod (r.enabledModes modes) []).toOption =
        (computeConfigs config keys pod (s.enabledModes modes) []).toOption := by
    intro modes
    rw [computeConfigs_eq_foldlM, computeConfigs_eq_foldlM]
    refine h.toOption_foldlM modes (fun a b hab configs => ?_) []
    -- Either order fails when one of the modes does, and otherwise two different keys get their
    -- values.
    simp only [List.foldlM_cons, List.foldlM_nil]
    cases ha : a.computeTemplate config keys pod with
    | error e =>
      cases b.computeTemplate config keys pod <;> simp [Except.toOption]
    | ok x =>
      cases b.computeTemplate config keys pod with
      | error e => simp [Except.toOption]
      | ok y => simp [insertSome_comm configs hab.key x y]
  unfold build
  rw [h.requestedModes_eq]
  -- The other steps do not look at the modes.
  exact toOption_bind_congr rfl fun method => toOption_bind_congr rfl fun role =>
    toOption_bind_congr rfl fun podVolume => toOption_bind_congr rfl fun agentVolume =>
      toOption_bind_congr (hconfigs _) fun configs => rfl

end Context

namespace Rendering

variable {target : Target} {podContainers : List Container} {ctx : Context}

/-- The modes are asked about a container in a run of steps. Each one sees the variables as those
before it left them. -/
theorem ask_eq_foldlM (name : String) (modes : List Mode) (answer : ContainerAnswer) :
    ask target podContainers name ctx modes answer =
      modes.foldlM (fun answer mode =>
        (fun next => ContainerAnswer.mk (answer.claimed || next.claimed) next.env) <$>
          mode.injectContainer target podContainers name answer.env ctx) answer := by
  induction modes generalizing answer with
  | nil => rfl
  | cons mode rest ih =>
    rw [ask, List.foldlM_cons]
    cases mode.injectContainer target podContainers name answer.env ctx with
    | error e => rfl
    | ok next => exact ih _

/-- The same containers are made from templates, if any. -/
theorem toOption_renderAll {r s : Registry} (h : r.Reordered s) (templates : List Container) :
    (renderAll r target podContainers ctx templates).toOption =
      (renderAll s target podContainers ctx templates).toOption := by
  -- The modes are asked in runs, so independent ones may change places.
  have hask : ∀ name answer,
      (ask target podContainers name ctx (r.enabledModes ctx.modes) answer).toOption =
        (ask target podContainers name ctx (s.enabledModes ctx.modes) answer).toOption := by
    intro name answer
    rw [ask_eq_foldlM, ask_eq_foldlM]
    refine h.toOption_foldlM ctx.modes (fun a b hab answer => ?_) answer
    rw [← ask_eq_foldlM, ← ask_eq_foldlM]
    exact hab.ask target podContainers name ctx answer
  induction templates with
  | nil => rfl
  | cons template rest ih =>
    have hrender : (render r target podContainers ctx template).toOption =
        (render s target podContainers ctx template).toOption :=
      toOption_bind_congr (hask _ _) fun answer => rfl
    exact toOption_bind_congr hrender fun container =>
      toOption_bind_congr ih fun others => rfl

/-- The same edits are made of a list, if any. -/
theorem toOption_patch {r s : Registry} (h : r.Reordered s) (templates : List Container)
    (existing : Option (List Container)) :
    (patch r target templates existing ctx).toOption =
      (patch s target templates existing ctx).toOption :=
  toOption_bind_congr (toOption_renderAll h templates) fun _ => rfl

end Rendering

namespace Injector

/-- The edits of the modes are gathered in a run of steps. The edits so far are made explicit, so
that the induction goes through. -/
theorem modePatch_eq_foldlM (i : Injector) (spec : PodSpec) (pod : PodLabels) (ctx : Context)
    (modes : List Mode) (edits : Patch) :
    (edits ++ ·) <$> i.modePatch spec pod ctx modes =
      modes.foldlM (fun edits mode =>
        (edits ++ ·) <$> mode.patchPod i.config i.keys spec pod ctx) edits := by
  induction modes generalizing edits with
  | nil => exact congrArg Except.ok (List.append_nil edits)
  | cons mode rest ih =>
    rw [modePatch, List.foldlM_cons]
    cases mode.patchPod i.config i.keys spec pod ctx with
    | error e => rfl
    | ok own =>
      -- The edits so far are now longer by those of the first mode.
      rw [ok_bind, map_ok, ok_bind, ← ih]
      cases i.modePatch spec pod ctx rest with
      | error e => rfl
      | ok others => exact congrArg Except.ok (List.append_assoc edits own others).symm

variable {config : Config} {r s : Registry}

/-- The modes make the same edits of a pod, if any. -/
theorem toOption_modePatch (h : r.Reordered s) (spec : PodSpec) (pod : PodLabels) (ctx : Context) :
    ((mk config r).modePatch spec pod ctx (r.enabledModes ctx.modes)).toOption =
      ((mk config s).modePatch spec pod ctx (s.enabledModes ctx.modes)).toOption := by
  -- To begin with, there are no edits.
  have hfold : ∀ (i : Injector) modes, i.modePatch spec pod ctx modes =
      modes.foldlM (fun edits mode =>
        (edits ++ ·) <$> mode.patchPod i.config i.keys spec pod ctx) [] := by
    intro i modes
    rw [← modePatch_eq_foldlM]
    cases i.modePatch spec pod ctx modes <;> rfl
  rw [hfold, hfold, h.keys_eq]
  refine h.toOption_foldlM ctx.modes (fun a b hab edits => ?_) []
  -- As before, only two modes that succeed matter, and their edits commute.
  simp only [List.foldlM_cons, List.foldlM_nil]
  cases ha : a.patchPod config (mk config s).keys spec pod ctx with
  | error e =>
    cases b.patchPod config (mk config s).keys spec pod ctx <;> simp [Except.toOption]
  | ok own =>
    cases hb : b.patchPod config (mk config s).keys spec pod ctx with
    | error e => simp [Except.toOption]
    | ok others => simp [hab.patchPod _ _ _ _ _ _ _ ha hb]

/-- All steps together have the same result. -/
theorem toOption_edits (h : r.Reordered s) (metadata : ObjectMeta) (spec : PodSpec) :
    ((mk config r).edits metadata spec).toOption =
      ((mk config s).edits metadata spec).toOption := by
  have hstatus : (mk config r).statusOperation metadata =
      (mk config s).statusOperation metadata := by
    rw [statusOperation, statusOperation, h.keys_eq]
  have hvolumes : (mk config r).volumePatch spec = (mk config s).volumePatch spec := rfl
  unfold edits
  rw [hstatus, hvolumes, h.keys_eq]
  exact toOption_bind_congr (Context.toOption_build h _) fun ctx =>
    toOption_bind_congr (toOption_modePatch h _ _ _) fun modeEdits =>
      toOption_bind_congr (Rendering.toOption_patch h _ _) fun initContainers =>
        toOption_bind_congr (Rendering.toOption_patch h _ _) fun containers => rfl

/-- A submitted pod is left alone, gets the same patch, or is refused. -/
theorem toOption_mutate (h : r.Reordered s) (pod : Pod) :
    ((mk config r).mutate pod).toOption = ((mk config s).mutate pod).toOption := by
  have hcreate : ((mk config r).createPatch pod).toOption =
      ((mk config s).createPatch pod).toOption :=
    toOption_bind_congr rfl fun spec =>
      toOption_bind_congr (toOption_edits h _ spec) fun patch => rfl
  have hrequired : (mk config r).mutationRequired pod.metadata =
      (mk config s).mutationRequired pod.metadata := by
    rw [mutationRequired, mutationRequired, h.keys_eq]
  -- The policy reads the metadata only, so the branch is the same.
  unfold mutate
  rw [hrequired]
  split
  · exact toOption_bind_congr hcreate fun patch => rfl
  · rfl

end Injector

/-! ### Built-in modes -/

/-- The built-in modes, each registered at least once, make the same registry up to order. -/
theorem Registry.reordered_builtin {first second : List Mode}
    (hfirst : ∀ mode, mode ∈ first ↔ mode ∈ builtinModes)
    (hsecond : ∀ mode, mode ∈ second ↔ mode ∈ builtinModes) :
    (ofList first).Reordered (ofList second) := by
  have hindependent : ∀ a ∈ first, ∀ b ∈ first, a ≠ b → a.Independent b := fun a ha b hb =>
    pairwise_builtinModes.forall ((hfirst a).mp ha) ((hfirst b).mp hb)
  have hkey : ∀ a ∈ first, ∀ b ∈ first, a.key = b.key → a = b := by
    intro a ha b hb heq
    by_contra hne
    exact (hindependent a ha b hb hne).key heq
  refine ⟨perm_ofList hkey fun mode => (hfirst mode).trans (hsecond mode).symm,
    nodup_keys_ofList first, fun a ha b hb => ?_⟩
  exact hindependent a ((mem_modes_ofList hkey).mp ha) b ((mem_modes_ofList hkey).mp hb)

namespace Injector

/-- Two injectors with the built-in modes treat every pod alike, in whatever order and however
often their modes were registered: one leaves it alone if the other does, one has a patch for it
if the other has, and the patches are equal. So one refuses a pod if the other does. -/
theorem mutate_eq_of_registrations (config : Config) (pod : Pod) (first second : List Mode)
    (hfirst : ∀ mode, mode ∈ first ↔ mode ∈ builtinModes)
    (hsecond : ∀ mode, mode ∈ second ↔ mode ∈ builtinModes) (outcome : Option Patch) :
    (mk config (.ofList first)).mutate pod = .ok outcome ↔
      (mk config (.ofList second)).mutate pod = .ok outcome := by
  rw [← toOption_eq_some, ← toOption_eq_some,
    toOption_mutate (Registry.reordered_builtin hfirst hsecond)]

end Injector

/-! ### A small pod -/

namespace Sample

/-- The small configuration, with an agent that reads a variable of each mode. -/
def sharedConfig : Config :=
  { config with injection := ⟨[], [{ agent with env := some [
      ⟨"VSI_SECRETS_TEMPLATES_PLACEHOLDER", none, .empty _⟩,
      ⟨"VSI_PROXY_CONFIG_PLACEHOLDER", none, .empty _⟩,
      ⟨"VSI_JOB_CNT_NAME", none, .empty _⟩] }], [⟨"secrets", .empty _⟩]⟩ }

/-- A pod that requests all modes. -/
def sharedPod : Pod :=
  { pod with metadata := { pod.metadata with
      annotations := some [("inject", "true"), ("mode", "job,proxy,secrets")] } }

end Sample

namespace Injector

/-- The small pod gets the same patch from two injectors whose modes were registered in two
orders, one of them with repetitions. -/
theorem mutate_eq_of_registrations_sample :
    ∃ patch,
      (mk Sample.sharedConfig (.ofList [Job.mode, Secrets.mode, Job.mode, Proxy.mode])).mutate
          Sample.sharedPod = .ok (some patch) ∧
        (mk Sample.sharedConfig (.ofList [Secrets.mode, Proxy.mode, Job.mode])).mutate
          Sample.sharedPod = .ok (some patch) := by
  have hfirst : ∀ mode, mode ∈ [Job.mode, Secrets.mode, Job.mode, Proxy.mode] ↔
      mode ∈ builtinModes := by
    intro mode
    simp only [builtinModes, List.mem_cons, List.not_mem_nil]
    tauto
  have hmutated : ((mk Sample.sharedConfig
      (.ofList [Job.mode, Secrets.mode, Job.mode, Proxy.mode])).mutate
        Sample.sharedPod).toOption.any Option.isSome = true := by decide +kernel
  obtain ⟨outcome, houtcome, hsome⟩ := exists_of_any hmutated
  obtain ⟨patch, rfl⟩ := Option.isSome_iff_exists.mp hsome
  -- The second injector is not run: what the first one does tells.
  exact ⟨patch, houtcome, (mutate_eq_of_registrations Sample.sharedConfig Sample.sharedPod _
    [Secrets.mode, Proxy.mode, Job.mode] hfirst (fun _ => Iff.rfl) (some patch)).mp houtcome⟩

end Injector

end SidecarInjection
