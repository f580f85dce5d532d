import SidecarInjection.Proofs.Injection.Idempotence
import SidecarInjection.Proofs.Injection.OwnEdits
import SidecarInjection.Proofs.Injection.Success

/-!
# `SidecarInjection.Proofs.Injection.Preservation`: what a patched document keeps

A patch is made for the typed pod and applied to the document that the pod was read from.
The document may hold members that the types do not know, and most operations leave them
alone: they work on one member of an entry, put entries in front of a list, or set the mark.
A start hook is different. It is set by writing the whole container, as it was read, in the
place of the submitted one, so members that the type does not know are dropped there.

* `Container.Rewritten`: what is kept of a container that is written anew.
* `PodSpec.Preserves`, `Preserves`: what is kept of a specification, and of a document.
* `PodSpec.listed_of_insertions`, `Secrets.exists_entries`: what insertions and hooks leave of
  the entries.
* `PodSpec.preserves_run`, `Injector.mutate_preserves`: so the operations on a specification,
  and whole patches, keep this.
* `Injector.mutate_rewrites`: a document of which more is lost than the edited members.
-/

set_option autoImplicit false

namespace SidecarInjection

open Outcome
open Json (SameOff)
open Fields.View (Sound)

/-! ### What is kept -/

/-- A container that is written anew: it has the members that the typed container is written
with, apart from the edited ones. Members that the type knows, with values in the form that
it writes, are the same as before. -/
structure Container.Rewritten (old new : Json) : Prop where
  written : ∃ c : Container, Container.decode old = .ok c ∧
    SameOff Target.containers.edited c.toJson new
  known : ∀ key, key ∉ Target.containers.edited →
    Schema.container.fields.allows key (old.member? key) → new.member? key = old.member? key

/-- What is kept of an entry of a list. With a start hook the application containers are
written anew. -/
def Kept (hooked : Bool) (target : Target) (old new : Json) : Prop :=
  if hooked = true ∧ target = .containers then Container.Rewritten old new
  else SameOff target.edited old new

/-- What is kept of a specification. The submitted entries are the last ones of their lists,
in their order. -/
structure PodSpec.Preserves (hooked : Bool) (old new : Json) : Prop where
  others : SameOff ["containers", "initContainers", "volumes"] old new
  lists : ∀ target, ∃ added own, new.listed target.field = added ++ own ∧
    List.Forall₂ (Kept hooked target) (old.listed target.field) own

/-- What a patched document keeps of the submitted one. -/
structure Preserves (hooked : Bool) (doc new : Json) : Prop where
  others : SameOff ["metadata", "spec"] doc new
  metadata : ∃ old now, doc.member? "metadata" = some old ∧ new.member? "metadata" = some now ∧
    SameOff ["annotations"] old now
  spec : ∃ old now, doc.member? "spec" = some old ∧ new.member? "spec" = some now ∧
    PodSpec.Preserves hooked old now

/-- A written form of a container is a container written anew. -/
theorem Container.Rewritten.of_denotes {c : Container} {old : Json}
    (h : Schema.container.Denotes toJson c old) : Rewritten old c.toJson where
  written := ⟨c, decode_eq_ok_iff.mpr h, SameOff.refl _ _⟩
  known _ _ hallows := Schema.member?_of_decode Schema.regular_container h hallows

/-- An entry that is left as it is is kept, unless it is to be written anew. -/
theorem Kept.refl {hooked : Bool} {target : Target} (h : ¬ (hooked = true ∧ target = .containers))
    (old : Json) : Kept hooked target old old := by
  rw [Kept, if_neg h]
  exact SameOff.refl _ _

/-- Edited members are not asked for. -/
theorem Kept.trans {hooked : Bool} {target : Target} {old mid new : Json}
    (h : Kept hooked target old mid) (hnew : SameOff target.edited mid new) :
    Kept hooked target old new := by
  unfold Kept at h ⊢
  split
  · rename_i hrewritten
    rw [if_pos hrewritten] at h
    rw [hrewritten.2] at hnew
    -- The typed container stays the one that was read, and only edited members change further.
    obtain ⟨c, hc, hwritten⟩ := h.written
    refine ⟨⟨c, hc, hwritten.trans hnew⟩, fun key hkey hallows => ?_⟩
    rw [hnew key hkey]
    exact h.known key hkey hallows
  · rename_i hrewritten
    rw [if_neg hrewritten] at h
    exact h.trans hnew

/-! ### Lists of a specification -/

namespace PodSpec

/-- The lists of a specification are those of the object that it is read from. -/
theorem list?_of_denotes {s : PodSpec} {j : Json} (h : Schema.podSpec.Denotes toJson s j)
    (hne : s.containers ≠ []) (target : Target) :
    Option.Rel (List.Forall₂ (Schema.container.Denotes Container.toJson)) (s.list target)
      (j.list? target.field) := by
  obtain ⟨ms, rfl⟩ := Schema.exists_members_of_denotes h
  cases hlist : s.list target with
  | some cs =>
    have hcs : target = .initContainers ∨ cs ≠ [] := by
      cases target with
      | initContainers => exact .inl rfl
      | containers => exact .inr (Option.some.inj hlist ▸ hne)
    obtain ⟨items, hget, hitems⟩ := exists_list h hlist hcs
    rw [Json.list?_of_member? (j := .obj ms) hget]
    exact .some hitems
  | none =>
    cases target with
    | containers => cases hlist
    | initContainers =>
      have hlist : s.initContainers = none := hlist
      have hread := (Sound.denotes_iff sound).mp h |>.1 ("initContainers", none)
        (by simp [view, hlist])
      -- A list that is absent is left out, or it is `null`.
      have habsent : (Json.obj ms).list? Target.initContainers.field = none := by
        show (Dict.get? ms "initContainers").bind Json.items? = none
        rcases Fields.eq_none_or_null_of_readField hread with hget | hget
        · rw [hget]
          rfl
        · rw [hget]
          rfl
      rw [habsent]
      exact .none

/-- Entries put in front of a list leave its own entries alone, and the other members. -/
theorem listed_of_prependEdits {field : String} {absent : Bool} {values : List Json}
    {ms : Dict Json} {new : Json} (habsent : absent = ((Json.obj ms).list? field).isNone)
    (h : Patch.run? (prependEdits field absent values) (.obj ms) = some new) :
    new.listed field = values ++ (Json.obj ms).listed field ∧ SameOff [field] (.obj ms) new := by
  cases values with
  | nil =>
    cases h
    exact ⟨rfl, SameOff.refl _ _⟩
  | cons value rest =>
    -- In both cases a list with the values in front is set.
    have hset : ∀ own, (Json.obj ms).listed field = own →
        new = .obj (Dict.insert ms field (.arr (value :: rest ++ own))) →
        new.listed field = value :: rest ++ (Json.obj ms).listed field ∧
          SameOff [field] (.obj ms) new := by
      rintro own rfl rfl
      refine ⟨?_, Json.sameOff_insert ms field _⟩
      rw [Json.listed, Json.list?_insert_self, Option.getD_some]
    cases hlist : (Json.obj ms).list? field with
    | none =>
      rw [habsent, hlist, Option.isNone_none, run?_prependEdits_absent] at h
      refine hset [] (by rw [Json.listed, hlist]; rfl) ?_
      rw [List.append_nil]
      exact (Option.some.inj h).symm
    | some items =>
      have hget : Dict.get? ms field = some (.arr items) := Json.member?_of_list? hlist
      rw [habsent, hlist, Option.isNone_some, run?_prependEdits_present hget] at h
      exact hset items (by rw [Json.listed, hlist]; rfl) (Option.some.inj h).symm

/-- Entries are put in front of both lists. Application containers have to be there. -/
theorem listed_of_insertions {absent : Bool} {values : Target → List Json} {old new : Json}
    (hcontainers : false = (old.list? "containers").isNone)
    (habsent : absent = (old.list? "initContainers").isNone)
    (h : Patch.run? (prependEdits "initContainers" absent (values .initContainers) ++
      prependEdits "containers" false (values .containers)) old = some new) :
    SameOff ["containers", "initContainers"] old new ∧
      ∀ target : Target, new.listed target.field = values target ++ old.listed target.field := by
  rw [Patch.run?_append] at h
  obtain ⟨mid, hfirst, hsecond⟩ := Option.bind_eq_some_iff.mp h
  obtain ⟨items, hitems⟩ := Option.isSome_iff_exists.mp
    (Option.isNone_eq_false_iff.mp hcontainers.symm)
  obtain ⟨ms, rfl, -⟩ := Json.exists_members_of_list? hitems
  obtain ⟨hlistedInit, hsameInit⟩ := listed_of_prependEdits habsent hfirst
  -- The other list is as before when its turn comes.
  have hother : mid.list? "containers" = (Json.obj ms).list? "containers" :=
    hsameInit.list?_eq (by decide)
  obtain ⟨ms', rfl, -⟩ := Json.exists_members_of_list? (hother.trans hitems)
  obtain ⟨hlisted, hsame⟩ := listed_of_prependEdits (hother ▸ hcontainers) hsecond
  refine ⟨(hsameInit.mono (by decide)).trans (hsame.mono (by decide)), fun target => ?_⟩
  cases target with
  | initContainers =>
    show new.listed "initContainers" = _
    rw [Json.listed, hsame.list?_eq (by decide)]
    exact hlistedInit
  | containers =>
    show new.listed "containers" = _
    rw [hlisted, Json.listed, hother]
    rfl

end PodSpec

/-! ### The start hook -/

namespace Requirement

/-- Whether the containers of a pod get a start hook: the pod wants one, and one is
configured. -/
def setsHook (config : Config) (pod : Pod) : Bool :=
  wantsHook config pod && (config.lifecycleHooks.postStart.bind LifecycleHandler.exec).isSome

/-- There is a start hook in the context of a pod just when the pod sets one. -/
theorem isSome_startHook {config : Config} {pod : Pod} {ctx : Context}
    (h : Context.build config (injector config).keys .builtin (containers pod)
      (.ofMetadata pod.metadata) = .ok ctx) (cs : List Container) :
    (Effect.startHook (injector config) (.ofMetadata pod.metadata) ctx cs).isSome =
      setsHook config pod := by
  have hwants : (Effect.isDynamic ctx && Annotations.isTruthy ((injector config).keys.value
      (PodLabels.ofMetadata pod.metadata).annotations Secrets.hookKey)) = wantsHook config pod := by
    rw [isDynamic_eq h]
    rfl
  rw [Effect.startHook, hwants, setsHook]
  cases wantsHook config pod with
  | false => rfl
  | true => rw [if_pos rfl, Option.isSome_map, Bool.true_and]; rfl

end Requirement

/-- Setting a hook writes every container anew, in its place. -/
theorem Secrets.list?_of_hooks {hook : LifecycleHandler} {cs : List Container} {old new : Json}
    {items : List Json} (hlist : old.list? "containers" = some items)
    (hitems : List.Forall₂ (Schema.container.Denotes Container.toJson) cs items)
    (h : Patch.run? (Patch.under ["containers"]
      (Patch.each (fun c => replaceEdit (withHook hook c)) 0 cs)) old = some new) :
    SameOff ["containers"] old new ∧
      new.list? "containers" = some (cs.map fun c => (withHook hook c).toJson) := by
  obtain ⟨ms, rfl, hget⟩ := Json.exists_members_of_list? hlist
  obtain ⟨news, hnews, hwritten⟩ := Patch.run?_each (S := fun c new => (withHook hook c).toJson = new)
    (fun c _ => (turns_replaceEdit c (withHook hook c)).inside) (fun c _ j _ => ⟨_, rfl, rfl⟩)
    hitems []
  -- The new items are determined, as a replacement does not depend on what it replaces.
  have heq : cs.map (fun c => (withHook hook c).toJson) = news :=
    List.forall₂_eq_eq_eq ▸ List.forall₂_map_left_iff.mpr hwritten
  rw [List.length_nil, List.nil_append, List.nil_append] at hnews
  rw [Patch.run?_member (Patch.inside_each _ 0 cs) hget, hnews, Option.map_some] at h
  cases h
  refine ⟨Json.sameOff_insert ms _ _, ?_⟩
  rw [heq]
  exact Json.list?_insert_self _ _ _

/-! ### The operations on a specification -/

/-- The entries that are there when the hooks are set: as many as the specification has
containers, and each a kept one. -/
structure Starting (hooked : Bool) (spec : PodSpec) (old : Json)
    (entries : Target → Option (List Json)) : Prop where
  covers : Covers entries spec
  absent : ∀ target, (spec.list target).isNone = (entries target).isNone
  kept : ∀ target,
    List.Forall₂ (Kept hooked target) (old.listed target.field) ((entries target).getD [])

variable {spec : PodSpec} {old new : Json} {hook : Option LifecycleHandler} {members : Patch}

/-- Without a hook these are the submitted entries. -/
theorem Starting.submitted (hdenotes : Schema.podSpec.Denotes PodSpec.toJson spec old)
    (hne : spec.containers ≠ []) :
    Starting false spec old fun target => old.list? target.field := by
  have hlists := PodSpec.list?_of_denotes hdenotes hne
  refine ⟨fun target => ?_, fun target => isNone_eq_of_rel (hlists target), fun target => ?_⟩
  · exact (forall₂_getD_of_rel (hlists target)).length_eq.symm
  · exact List.forall₂_same.mpr fun item _ => Kept.refl (by simp) item

/-- The submitted entries, with the application containers written anew. -/
def PodSpec.entriesAnew (s : PodSpec) (old : Json) (target : Target) : Option (List Json) :=
  if target = .containers then s.entries .containers else old.list? target.field

/-- With a hook the application containers are written anew. -/
theorem Starting.anew (hdenotes : Schema.podSpec.Denotes PodSpec.toJson spec old)
    (hne : spec.containers ≠ []) : Starting true spec old (spec.entriesAnew old) := by
  have hsubmitted := Starting.submitted hdenotes hne
  refine ⟨fun target => ?_, fun target => ?_, fun target => ?_⟩
  -- Only application containers have hooks. Init containers are as they were submitted.
  · cases target with
    | initContainers => exact hsubmitted.covers .initContainers
    | containers => exact spec.covers_entries .containers
  · cases target with
    | initContainers => exact hsubmitted.absent .initContainers
    | containers => rfl
  · cases target with
    | initContainers => exact List.forall₂_same.mpr fun item _ => Kept.refl (by simp) item
    | containers =>
      show List.Forall₂ _ _ (spec.containers.map Container.toJson)
      have hdenoted : List.Forall₂ (Schema.container.Denotes Container.toJson) spec.containers
          (old.listed "containers") :=
        forall₂_getD_of_rel (PodSpec.list?_of_denotes hdenotes hne .containers)
      refine List.forall₂_map_right_iff.mpr (hdenoted.flip.imp fun item c hc => ?_)
      rw [Kept, if_pos ⟨rfl, rfl⟩]
      exact .of_denotes hc

/-- What setting the hooks leaves is a specification with these entries. -/
theorem Secrets.exists_entries (hdenotes : Schema.podSpec.Denotes PodSpec.toJson spec old)
    (hne : spec.containers ≠ [])
    (h : Patch.run? (hookEdits hook spec.containers) old = some new) :
    ∃ entries, Starting hook.isSome spec old entries ∧ Edited entries old new := by
  cases hook with
  | none =>
    cases h
    exact ⟨_, .submitted hdenotes hne, Edited.refl old⟩
  | some start =>
    obtain ⟨items, hitems, hdenoted⟩ :=
      exists_of_rel_some (PodSpec.list?_of_denotes hdenotes hne .containers)
    obtain ⟨hothers, hnew⟩ := list?_of_hooks hitems hdenoted h
    -- The list of the hooks is written anew, and the other one is untouched.
    refine ⟨_, .anew hdenotes hne, hothers.mono (by decide), fun target => ?_⟩
    cases target with
    | initContainers =>
      show Option.Rel _ (old.list? "initContainers") (new.list? "initContainers")
      rw [hothers.list?_eq (by decide)]
      exact (Edited.refl old).lists .initContainers
    | containers =>
      show Option.Rel _ (some (spec.containers.map Container.toJson)) (new.list? "containers")
      rw [hnew]
      refine .some (List.forall₂_map_left_iff.mpr (List.forall₂_map_right_iff.mpr ?_))
      exact List.forall₂_same.mpr fun c _ => sameOff_withHook start c

/-- The operations on a specification keep it: the hooks, the edits of what the pod brings
along, and containers in front of both lists. -/
theorem PodSpec.preserves_run (hdenotes : Schema.podSpec.Denotes toJson spec old)
    (hne : spec.containers ≠ [])
    (hmembers : ∀ entries, Covers entries spec → ∀ op ∈ members, OwnEdit entries op)
    (values : Target → List Json)
    (h : Patch.run? (Secrets.hookEdits hook spec.containers ++ members ++
      prependEdits "initContainers" spec.initContainers.isNone (values .initContainers) ++
      prependEdits "containers" false (values .containers)) old = some new) :
    Preserves hook.isSome old new := by
  -- The run is split where the hooks end, and again where the insertions begin.
  rw [List.append_assoc, Patch.run?_append, Patch.run?_append] at h
  obtain ⟨edited, h, hinserted⟩ := Option.bind_eq_some_iff.mp h
  obtain ⟨started, hstarted, hown⟩ := Option.bind_eq_some_iff.mp h
  obtain ⟨entries, hstart, hedited⟩ := Secrets.exists_entries hdenotes hne hstarted
  have hedited := hedited.run (hmembers entries hstart.covers) hown
  have habsent : ∀ target : Target,
      (spec.list target).isNone = (edited.list? target.field).isNone := fun target =>
    (hstart.absent target).trans (isNone_eq_of_rel (hedited.lists target))
  obtain ⟨hsame, hlisted⟩ :=
    listed_of_insertions (habsent .containers) (habsent .initContainers) hinserted
  refine ⟨hedited.others.trans (hsame.mono (by decide)), fun target =>
    ⟨values target, _, hlisted target, ?_⟩⟩
  -- An entry is kept by the hooks first, and then by the edits in place.
  have hforms := forall₂_getD_of_rel (hedited.lists target)
  refine (forall₂_meet (hstart.kept target).flip hforms).imp ?_
  rintro submitted last ⟨entry, hkept, hform⟩
  exact Kept.trans hkept hform

/-! ### Patched documents -/

/-- All these operations are on the members of a specification. -/
theorem PodSpec.inside_edits
    (hmembers : ∀ entries, Covers entries spec → ∀ op ∈ members, OwnEdit entries op)
    (absent : Bool) (values : Target → List Json) :
    ∀ op ∈ Secrets.hookEdits hook spec.containers ++ members ++
      prependEdits "initContainers" absent (values .initContainers) ++
      prependEdits "containers" false (values .containers), op.Inside := by
  intro op hop
  simp only [List.mem_append] at hop
  rcases hop with ((hop | hop) | hop) | hop
  · exact Secrets.inside_hookEdits _ _ op hop
  · exact (hmembers _ spec.covers_entries op hop).inside
  · exact inside_prependEdits _ _ _ op hop
  · exact inside_prependEdits _ _ _ op hop

/-- A patched document keeps what the patch does not work on, and with it what the types do
not know. Only containers that get a start hook are written anew. -/
theorem Injector.mutate_preserves (config : Config) (doc : Json) (pod : Pod) (patch : Patch)
    (hdecode : Pod.decode doc = .ok pod)
    (h : (Injector.mk config .builtin).mutate pod = .ok (some patch)) :
    ∃ new, patch.apply doc = .ok new ∧
      Preserves (Requirement.setsHook config pod) doc new := by
  obtain ⟨new, -, hnew, -, -⟩ := apply_of_mutate rfl hdecode h
  have hread := Pod.decode_eq_ok_iff.mp hdecode
  obtain ⟨ms, rfl⟩ := Schema.exists_members_of_denotes hread
  obtain ⟨hrequired, hcreate⟩ := mutate_eq_some h
  obtain ⟨spec, ctx, modeEdits, rendered, hsteps, hinjection⟩ := exists_steps hcreate
  have hspec := hinjection.submitted
  -- Both parts that the patch works on are members of the document.
  obtain ⟨oldSpec, hgetSpec, hdenotes⟩ := Pod.exists_spec hread hspec
  have hannotated : pod.metadata ≠ .empty := by
    intro hempty
    rw [hempty] at hrequired
    exact annotations_ne_none hrequired rfl
  obtain ⟨oldMeta, hgetMeta, -⟩ := Pod.exists_metadata hread hannotated
  have holdSpec : (Json.obj ms).member? "spec" = some oldSpec := hgetSpec
  have holdMeta : (Json.obj ms).member? "metadata" = some oldMeta := hgetMeta
  obtain ⟨members, hmembers, hlog⟩ := hsteps.exists_parts
  obtain ⟨mark, rest, hstatus, hmark⟩ := exists_statusEdit ⟨config, .builtin⟩ pod.metadata
  have hmarkInside : ∀ op ∈ [mark], op.Inside :=
    List.forall_mem_singleton.mpr (Operation.inside_of_path hmark)
  rw [hstatus, Rendering.prepend_eq, Rendering.prepend_eq, ← Patch.under_append,
    ← Patch.under_append] at hlog
  have hrun := Patch.apply_eq_ok.mp hnew
  rw [hlog] at hrun
  obtain ⟨newSpec, newMeta, hspecRun, hmetaRun, hnewSpec, hnewMeta, hothers⟩ :=
    Patch.exists_of_run?_parts
      (PodSpec.inside_edits hmembers _ fun target => (rendered target).map Container.toJson)
      hmarkInside (by decide) holdSpec holdMeta hrun
  refine ⟨new, hnew, hothers, ⟨oldMeta, newMeta, holdMeta, hnewMeta, ?_⟩,
    ⟨oldSpec, newSpec, holdSpec, hnewSpec, ?_⟩⟩
  · rw [Patch.run?_singleton] at hmetaRun
    exact Operation.sameOff_run? hmark hmetaRun
  · have hcontainers : spec.containers = Requirement.containers pod := by
      rw [Requirement.containers, hspec]
      rfl
    have hbuild := hsteps.build_eq
    rw [hcontainers] at hbuild
    have hsets := Requirement.isSome_startHook hbuild spec.containers
    rw [← hsets]
    exact PodSpec.preserves_run hdenotes (containers_ne_nil rfl hcreate hspec) hmembers
      (fun target => (rendered target).map Container.toJson) hspecRun

/-! ### Members that the types do not know -/

namespace Sample

/-- A submitted pod, with a member of a container that is not declared. -/
def newer (hook : String) : Json :=
  .obj [("metadata", .obj
      [("annotations", .obj [("inject", .str "true"), ("secrets-hook", .str hook)]),
        ("labels", .obj [("app", .str "shop"), ("service", .str "cart")])]),
    ("spec", .obj [("containers", .arr [.obj [("futureField", .str "kept"), ("name", .str "web"),
      ("volumeMounts", .arr [.obj [("mountPath", .str podTokenMountPath),
        ("name", .str "token")]])]])])]

/-- Whether the last application container of a document has the member. -/
def isNewer (doc : Json) : Bool :=
  ((doc.member? "spec").bind fun spec => (spec.listed "containers").getLast?).any fun c =>
    (c.member? "futureField").isSome

/-- What is seen of the injection of a submitted document. -/
theorem exists_patched (i : Injector) (doc : Json) (p : Pod → Json → Bool)
    (h : ((Pod.decode doc).toOption.any fun pod => (i.mutate pod).toOption.any fun answer =>
      answer.any fun patch => (patch.apply doc).toOption.any (p pod)) = true) :
    ∃ pod patch new, Pod.decode doc = .ok pod ∧ i.mutate pod = .ok (some patch) ∧
      patch.apply doc = .ok new ∧ p pod new = true := by
  obtain ⟨pod, hpod, h⟩ := exists_of_any h
  obtain ⟨answer, hanswer, h⟩ := exists_of_any h
  cases answer with
  | none => cases h
  | some patch =>
    obtain ⟨new, hnew, h⟩ := exists_of_any h
    exact ⟨pod, patch, new, hpod, hanswer, hnew, h⟩

end Sample

namespace Injector

/-- Without a hook the container is kept, and with one it is written anew. -/
theorem mutate_preserves_sample :
    (∃ pod patch new, Pod.decode (Sample.newer "false") = .ok pod ∧
      (Injector.mk Sample.config .builtin).mutate pod = .ok (some patch) ∧
      patch.apply (Sample.newer "false") = .ok new ∧
      Preserves false (Sample.newer "false") new) ∧
    ∃ pod patch new, Pod.decode (Sample.newer "true") = .ok pod ∧
      (Injector.mk Sample.config .builtin).mutate pod = .ok (some patch) ∧
      patch.apply (Sample.newer "true") = .ok new ∧
      Preserves true (Sample.newer "true") new := by
  -- The same document is kept more loosely with a start hook than without one.
  constructor
  · obtain ⟨pod, patch, -, hpod, hpatch, -, hsets⟩ :=
      Sample.exists_patched ⟨Sample.config, .builtin⟩ (Sample.newer "false")
        (fun pod _ => Requirement.setsHook Sample.config pod = false) (by decide +kernel)
    obtain ⟨new, hnew, hpreserves⟩ := mutate_preserves Sample.config _ pod patch hpod hpatch
    rw [of_decide_eq_true hsets] at hpreserves
    exact ⟨pod, patch, new, hpod, hpatch, hnew, hpreserves⟩
  · obtain ⟨pod, patch, -, hpod, hpatch, -, hsets⟩ :=
      Sample.exists_patched ⟨Sample.config, .builtin⟩ (Sample.newer "true")
        (fun pod _ => Requirement.setsHook Sample.config pod = true) (by decide +kernel)
    obtain ⟨new, hnew, hpreserves⟩ := mutate_preserves Sample.config _ pod patch hpod hpatch
    rw [of_decide_eq_true hsets] at hpreserves
    exact ⟨pod, patch, new, hpod, hpatch, hnew, hpreserves⟩

/-- With a hook the container is written as it was read, without the member. -/
theorem mutate_rewrites :
    ∃ pod patch new, Pod.decode (Sample.newer "true") = .ok pod ∧
      (Injector.mk Sample.config .builtin).mutate pod = .ok (some patch) ∧
      patch.apply (Sample.newer "true") = .ok new ∧
      ¬ Preserves false (Sample.newer "true") new := by
  obtain ⟨pod, patch, new, hpod, hpatch, hnew, hdropped⟩ :=
    Sample.exists_patched ⟨Sample.config, .builtin⟩ (Sample.newer "true")
      (fun _ new => !Sample.isNewer new) (by decide +kernel)
  refine ⟨pod, patch, new, hpod, hpatch, hnew, fun hpreserves => ?_⟩
  obtain ⟨old, now, hold, hnow, hkept⟩ := hpreserves.spec
  cases hold
  -- The last container would be the submitted one, with the member.
  obtain ⟨added, own, hlisted, hown⟩ := hkept.lists .containers
  obtain ⟨c, rest, hc, hrest, rfl⟩ := List.forall₂_cons_left_iff.mp hown
  cases hrest
  have hsame : SameOff Target.containers.edited _ c := hc
  have hfuture : c.member? "futureField" = some (.str "kept") := hsame "futureField" (by decide)
  have hlisted : now.listed "containers" = added ++ [c] := hlisted
  have hkeeps : Sample.isNewer new = true := by
    rw [Sample.isNewer, hnow, Option.bind_some, hlisted, List.getLast?_concat, Option.any_some,
      hfuture]
    rfl
  rw [hkeeps] at hdropped
  exact absurd hdropped (by decide)

end Injector

end SidecarInjection
