import SidecarInjection.Proofs.Injection.Additions
import SidecarInjection.Proofs.Injection.OwnEdits

/-!
# `SidecarInjection.Proofs.Injection.Ordering`: the order of a created patch

An operation names an entry of a list by its position, and means the entry that stands
there when it is applied. So the operations on what a pod brings along come first, then the
insertions into its lists, and the mark is the last one. A position that is named before
the insertions is that of the submitted entry. Trying the patch would not notice if it were
another one.

* `Operation.Inserts`, `OnEntry`, `OnMounts`, `OnMetadata`: kinds of operations.
* `OwnEdit.not_inserts`, `Rendering.inserts_of_mem_prepend`: which kinds the parts of a
  patch are made of.
* `Edited.of_run`: what the operations up to one of them lead to.
* `Phases`, `InjectionSteps.exists_phases`: the operations of a created patch in three parts.
* `Ordered`, `Injector.createPatch_ordered`: so each operation of a created patch finds what
  it is for.
-/

set_option autoImplicit false

namespace SidecarInjection

open Outcome
open Json (SameOff)
open Fields.View (Sound)

/-! ### Kinds of operations -/

namespace Operation

/-- The operation inserts containers into a list of a pod. -/
def Inserts (op : Operation) : Prop := ∃ target, op.added target ≠ []

/-- The operation names an entry of a list by a token. Its place is the entry or lies below. -/
def OnEntry (target : Target) (token : String) (op : Operation) : Prop :=
  target.listPath ++ [token] <+: op.path

/-- The operation is about the mounts of an entry, or about the volumes. -/
def OnMounts (op : Operation) : Prop :=
  ["spec", "volumes"] <+: op.path ∨
    ∃ target token, Target.listPath target ++ [token, "volumeMounts"] <+: op.path

/-- The operation is about the metadata. -/
def OnMetadata (op : Operation) : Prop := ["metadata"] <+: op.path

/-- A place outside of the lists takes no containers. -/
theorem placed_volumes (rest : Pointer) (target : Target) (value : Json) :
    placed target ("spec" :: "volumes" :: rest) value = [] := by
  have hlist : "spec" :: "volumes" :: rest ≠ target.listPath := by
    cases target with
    | initContainers => simp [Target.listPath, Target.field]
    | containers => simp [Target.listPath, Target.field]
  have hentry : ("spec" :: "volumes" :: rest).dropLast ≠ target.listPath := by
    cases rest with
    | nil => cases target <;> simp [Target.listPath, Target.field]
    | cons token rest => cases target <;> simp [Target.listPath, Target.field]
  rw [placed, if_neg hlist, if_neg hentry]

end Operation

namespace OwnEdit

variable {entries : Target → Option (List Json)} {op : Operation}

/-- Edits of what a pod brings along insert nothing. -/
theorem not_inserts (h : OwnEdit entries op) : ¬ (op.under ["spec"]).Inserts := by
  rintro ⟨target, hadded⟩
  refine hadded ?_
  cases h with
  | @entry other index _ inner _ hinner =>
    rw [Operation.under_under]
    cases inner with
    | add p value =>
      -- The place lies below the entry.
      cases p with
      | nil => exact absurd rfl hinner.inside
      | cons token rest =>
        show Operation.placed target (other.itemPath index ++ token :: rest) value = []
        exact Operation.placed_below index token rest
    | replace p value => rfl
    | remove p => rfl
  | @volumes op rest hpath =>
    cases op with
    | add p value =>
      have hpath : p = "volumes" :: rest := hpath
      rw [hpath]
      exact Operation.placed_volumes rest target value
    | replace p value => rfl
    | remove p => rfl

/-- An edit that names an entry names one that is there. -/
theorem exists_index (h : OwnEdit entries op) {target : Target} {token : String}
    (hon : (op.under ["spec"]).OnEntry target token) :
    ∃ index, token = Pointer.ofIndex index ∧ index < ((entries target).getD []).length := by
  cases h with
  | @entry other index _ inner hentry _ =>
    rw [Operation.under_under] at hon
    have hpath : ["spec", target.field, token] <+:
        "spec" :: other.field :: Pointer.ofIndex index :: inner.path := by
      have hplace := Operation.path_under (["spec"] ++ [other.field, Pointer.ofIndex index]) inner
      rw [Operation.OnEntry, hplace] at hon
      exact hon
    -- The places agree in the field and in the token behind it.
    simp only [List.cons_prefix_cons, List.nil_prefix, and_true, true_and] at hpath
    obtain ⟨hfield, htoken⟩ := hpath
    obtain rfl := Target.eq_of_field hfield
    exact ⟨index, htoken, (List.getElem?_eq_some_iff.mp hentry).1⟩
  | @volumes op rest hpath =>
    rw [Operation.OnEntry, Operation.path_under, hpath] at hon
    -- Volumes are in neither of the lists.
    have hfield : target.field = "volumes" := by
      have hplace : ["spec", target.field, token] <+: "spec" :: "volumes" :: rest := hon
      simp only [List.cons_prefix_cons, true_and] at hplace
      exact hplace.1
    cases target with
    | initContainers => exact absurd hfield (by decide)
    | containers => exact absurd hfield (by decide)

end OwnEdit

namespace Operation

/-- The operation is about the specification. -/
def OnSpec (op : Operation) : Prop := ["spec"] <+: op.path

variable {op : Operation}

/-- What is taken under the specification is about it. -/
theorem onSpec_under (op : Operation) : (op.under ["spec"]).OnSpec := by
  rw [OnSpec, path_under]
  exact List.prefix_append _ _

/-- The lists belong to the specification. -/
theorem OnEntry.onSpec {target : Target} {token : String} (h : op.OnEntry target token) :
    op.OnSpec :=
  (List.prefix_append ["spec"] [target.field, token]).trans h

/-- So do mounts and volumes. -/
theorem OnMounts.onSpec (h : op.OnMounts) : op.OnSpec := by
  rcases h with h | ⟨target, token, h⟩
  · exact (List.prefix_append ["spec"] ["volumes"]).trans h
  · exact (List.prefix_append ["spec"] [target.field, token, "volumeMounts"]).trans h

/-- The metadata is no part of the specification. -/
theorem OnMetadata.not_onSpec (h : op.OnMetadata) : ¬ op.OnSpec := by
  obtain ⟨rest, hrest⟩ := h
  rintro ⟨other, hother⟩
  have hsame : ["spec"] ++ other = ["metadata"] ++ rest := hother.trans hrest.symm
  simp at hsame

end Operation

namespace Rendering

variable {target : Target} {op : Operation}

/-- An insertion adds one container, at its position. -/
theorem exists_of_mem_insertions {index : Nat} {cs : List Container}
    (h : op ∈ insertions target index cs) :
    ∃ (i : Nat) (c : Container), op = .add (target.itemPath i) c.toJson := by
  induction cs generalizing index with
  | nil => cases h
  | cons c rest ih =>
    rcases List.mem_cons.mp h with rfl | h
    · exact ⟨index, c, rfl⟩
    · exact ih h

/-- Containers are put in front of a list one by one, or with the list itself. -/
theorem prepend_cases {absent : Bool} {cs : List Container} (h : op ∈ prepend target absent cs) :
    (∃ (i : Nat) (c : Container), op = .add (target.itemPath i) c.toJson) ∨
      ∃ c : Container, op = .add target.listPath (.arr [c.toJson]) := by
  cases cs with
  | nil => cases h
  | cons c rest =>
    cases absent with
    | false => exact .inl (exists_of_mem_insertions h)
    | true =>
      rcases List.mem_cons.mp h with rfl | h
      · exact .inr ⟨c, rfl⟩
      · exact .inl (exists_of_mem_insertions h)

/-- Putting containers in front of a list inserts them. It touches no mounts, not even those of what
it inserts. -/
theorem inserts_of_mem_prepend {absent : Bool} {cs : List Container}
    (h : op ∈ prepend target absent cs) : op.Inserts ∧ op.OnSpec ∧ ¬ op.OnMounts := by
  -- The place of an insertion is not long enough to name mounts, and it is in a list.
  have hshort : ∀ p : Pointer, p = target.listPath ∨ (∃ i, p = target.itemPath i) →
      ¬ ["spec", "volumes"] <+: p ∧
        ∀ (other : Target) token, ¬ other.listPath ++ [token, "volumeMounts"] <+: p := by
    intro p hp
    have hlength : p.length ≤ 3 := by
      rcases hp with rfl | ⟨i, rfl⟩
      · simp [Target.listPath]
      · simp [Target.itemPath]
    constructor
    · have hfield : target.field ≠ "volumes" := by cases target <;> decide
      rcases hp with rfl | ⟨i, rfl⟩
      · simp [Target.listPath, hfield.symm]
      · simp [Target.itemPath, hfield.symm]
    · intro other token hprefix
      have hle := hprefix.length_le
      simp [Target.listPath] at hle
      omega
  rcases prepend_cases h with ⟨i, c, rfl⟩ | ⟨c, rfl⟩
  · obtain ⟨hvolumes, hmounts⟩ := hshort _ (.inr ⟨i, rfl⟩)
    refine ⟨⟨target, ?_⟩, ⟨[target.field, Pointer.ofIndex i], rfl⟩, ?_⟩
    · rw [Operation.added, Operation.placed_itemPath, if_pos rfl]
      exact List.cons_ne_nil _ _
    · rintro (hon | ⟨other, token, hon⟩)
      · exact hvolumes hon
      · exact hmounts other token hon
  · obtain ⟨hvolumes, hmounts⟩ := hshort _ (.inl rfl)
    refine ⟨⟨target, ?_⟩, ⟨[target.field], rfl⟩, ?_⟩
    · rw [Operation.added, Operation.placed_listPath, if_pos rfl]
      exact List.cons_ne_nil _ _
    · rintro (hon | ⟨other, token, hon⟩)
      · exact hvolumes hon
      · exact hmounts other token hon

end Rendering

/-- The mark is set in the metadata. -/
theorem Injector.onMetadata_statusOperation (i : Injector) (metadata : ObjectMeta) :
    (i.statusOperation metadata).OnMetadata := by
  obtain ⟨inner, rest, hstatus, -⟩ := i.exists_statusEdit metadata
  rw [hstatus, Operation.OnMetadata, Operation.path_under]
  exact List.prefix_append _ _

/-! ### The documents on the way -/

/-- The lists of a written specification hold its containers in written form. -/
theorem PodSpec.list?_toJson (s : PodSpec) (target : Target) :
    s.toJson.list? target.field = s.entries target := by
  have hmember : s.toJson.member? target.field =
      (s.list target).map fun cs => .arr (cs.map Container.toJson) := by
    -- Both lists are members that the view names.
    cases target with
    | initContainers =>
      exact Sound.get?_members_of_mem sound (b := s)
        (e := ("initContainers", s.initContainers.map fun cs => .arr (cs.map Container.toJson)))
        (by simp [view])
    | containers =>
      exact Sound.get?_members_of_mem sound (b := s)
        (e := ("containers", some (.arr (s.containers.map Container.toJson)))) (by simp [view])
  rw [Json.list?, hmember, entries]
  cases s.list target <;> rfl

/-- Edits of what a pod brings along keep its own entries in its lists. -/
theorem Edited.of_run {pod : Pod} {spec : PodSpec} (hspec : pod.spec = some spec) {edits : Patch}
    (hedits : ∀ op ∈ edits, OwnEdit spec.entries op) {doc : Json}
    (h : Patch.run? (Patch.under ["spec"] edits) pod.toJson = some doc) :
    ∃ now, doc.member? "spec" = some now ∧ Edited spec.entries spec.toJson now := by
  have hget : pod.toJson.member? "spec" = some spec.toJson := by
    rw [congrFun Pod.toJson_eq pod]
    exact Sound.get?_members_of_mem Pod.sound (e := ("spec", some spec.toJson))
      (by simp [Pod.view, hspec])
  obtain ⟨now, hnow, hmember⟩ :=
    Patch.exists_of_run?_under (fun op hop => (hedits op hop).inside) hget h
  -- To begin with, the entries are the written ones, and no operation has changed them.
  have hstart : Edited spec.entries spec.toJson spec.toJson := by
    have hentries : spec.entries = fun target : Target => spec.toJson.list? target.field :=
      funext fun target => (spec.list?_toJson target).symm
    rw [hentries]
    exact Edited.refl _
  exact ⟨now, hmember, hstart.run hedits hnow⟩

/-- An operation that is not in the second part of a patch splits the first part. -/
theorem Patch.exists_split {p : Pointer} {edits closing before after : Patch} {op : Operation}
    (h : under p edits ++ closing = before ++ op :: after) (hop : op ∉ closing) :
    ∃ first inner rest, edits = first ++ inner :: rest ∧ before = under p first ∧
      op = inner.under p := by
  rcases List.append_eq_append_iff.mp h with ⟨more, -, hclosing⟩ | ⟨more, hunder, hmore⟩
  · exact absurd (hclosing ▸ List.mem_append_right _ List.mem_cons_self) hop
  -- The operation stands in the first part, which is taken under the pointer throughout.
  · cases more with
    | nil =>
      have hclosing : op :: after = closing := hmore
      exact absurd (hclosing ▸ List.mem_cons_self) hop
    | cons found others =>
      obtain ⟨rfl, -⟩ := List.cons.inj hmore
      obtain ⟨first, second, rfl, hfirst, hsecond⟩ := List.map_eq_append_iff.mp hunder
      obtain ⟨inner, rest, rfl, hinner, -⟩ := List.map_eq_cons_iff.mp hsecond
      exact ⟨first, inner, rest, rfl, hfirst.symm, hinner.symm⟩

/-! ### Created patches -/

/-- The operations of a patch in three parts: edits of what the pod brings along, insertions
into its lists, and the mark. -/
structure Phases (pod : Pod) (spec : PodSpec) (mark : Operation) (log own insertions : Patch) :
    Prop where
  submitted : pod.spec = some spec
  edits : ∀ op ∈ own, OwnEdit spec.entries op
  inserts : ∀ op ∈ insertions, op.Inserts ∧ op.OnSpec ∧ ¬ op.OnMounts
  marks : mark.OnMetadata
  log_eq : log = Patch.under ["spec"] own ++ (insertions ++ [mark])

/-- Setting a hook edits the containers that a specification is written with. -/
theorem Secrets.ownEdit_of_mem_hookEdits {hook : Option LifecycleHandler} (spec : PodSpec) :
    ∀ op ∈ hookEdits hook spec.containers, OwnEdit spec.entries op := by
  cases hook with
  | none => exact nofun
  | some hook =>
    refine OwnEdit.of_mem_each .containers fun index c hc => ?_
    refine ⟨c.toJson, ?_, retouches_replaceEdit hook c⟩
    show (spec.containers.map Container.toJson)[index]? = some c.toJson
    rw [List.getElem?_map, hc]
    rfl

/-- The edits and insertions of a created patch. -/
theorem InjectionSteps.exists_phases {config : Config} {pod : Pod} {log : Patch} {spec : PodSpec}
    {ctx : Context} {modeEdits : Patch} {rendered : Target → List Container}
    (h : InjectionSteps config pod log spec ctx modeEdits rendered) (hspec : pod.spec = some spec) :
    ∃ own insertions, Phases pod spec
      ((Injector.mk config .builtin).statusOperation pod.metadata) log own insertions := by
  obtain ⟨members, hmembers, hlog⟩ := h.exists_parts
  refine ⟨Secrets.hookEdits _ spec.containers ++ members,
    Rendering.prepend .initContainers spec.initContainers.isNone (rendered .initContainers) ++
      Rendering.prepend .containers false (rendered .containers),
    hspec, ?_, ?_, Injector.onMetadata_statusOperation _ _, by simpa using hlog⟩
  -- Hooks and members are edits, and what is put in front of the two lists are insertions.
  · intro op hop
    rcases List.mem_append.mp hop with hop | hop
    · exact Secrets.ownEdit_of_mem_hookEdits spec op hop
    · exact hmembers _ spec.covers_entries op hop
  · intro op hop
    rcases List.mem_append.mp hop with hop | hop
    · exact Rendering.inserts_of_mem_prepend hop
    · exact Rendering.inserts_of_mem_prepend hop

namespace Phases

variable {pod : Pod} {spec : PodSpec} {mark : Operation} {log own insertions : Patch}

/-- Only the mark is about the metadata. -/
theorem not_onMetadata (h : Phases pod spec mark log own insertions) :
    ∀ op ∈ Patch.under ["spec"] own ++ insertions, ¬ op.OnMetadata := by
  intro op hop hmeta
  rcases List.mem_append.mp hop with hop | hop
  · obtain ⟨inner, -, rfl⟩ := List.mem_map.mp hop
    exact hmeta.not_onSpec (Operation.onSpec_under inner)
  · exact hmeta.not_onSpec (h.inserts op hop).2.1

/-- An operation that is neither the mark nor an insertion is one of the edits. All
operations before it are edits too, and insert nothing. -/
theorem exists_edits (h : Phases pod spec mark log own insertions) {before after : Patch}
    {op : Operation} (hsplit : log = before ++ op :: after) (hop : op ∉ insertions ++ [mark]) :
    ∃ first inner, before = Patch.under ["spec"] first ∧ op = inner.under ["spec"] ∧
      (∀ e ∈ first, OwnEdit spec.entries e) ∧ OwnEdit spec.entries inner ∧
      ∀ e ∈ before, ¬ e.Inserts := by
  obtain ⟨first, inner, rest, hown, hbefore, hinner⟩ :=
    Patch.exists_split (h.log_eq.symm.trans hsplit) hop
  have hfirst : ∀ e ∈ first, OwnEdit spec.entries e := fun e he =>
    h.edits e (hown ▸ List.mem_append_left _ he)
  refine ⟨first, inner, hbefore, hinner, hfirst,
    h.edits inner (hown ▸ List.mem_append_right _ List.mem_cons_self), fun e he => ?_⟩
  rw [hbefore] at he
  obtain ⟨edit, hedit, rfl⟩ := List.mem_map.mp he
  exact (hfirst edit hedit).not_inserts

/-- Operations on entries that do not insert them are edits. -/
theorem not_mem_of_onEntry (h : Phases pod spec mark log own insertions) {target : Target}
    {token : String} {op : Operation} (hon : op.OnEntry target token) (hinserts : ¬ op.Inserts) :
    op ∉ insertions ++ [mark] := by
  intro hop
  rcases List.mem_append.mp hop with hop | hop
  · exact hinserts (h.inserts op hop).1
  · rw [List.mem_singleton.mp hop] at hon
    exact h.marks.not_onSpec hon.onSpec

/-- So are operations on mounts and volumes. -/
theorem not_mem_of_onMounts (h : Phases pod spec mark log own insertions) {op : Operation}
    (hon : op.OnMounts) : op ∉ insertions ++ [mark] := by
  intro hop
  rcases List.mem_append.mp hop with hop | hop
  · exact (h.inserts op hop).2.2 hon
  · rw [List.mem_singleton.mp hop] at hon
    exact h.marks.not_onSpec hon.onSpec

end Phases

/-- A patch in an order in which each operation finds what it is for. -/
structure Ordered (config : Config) (pod : Pod) (spec : PodSpec) (log : Patch) : Prop where
  /-- An operation that names an entry, and does not insert it, is applied before all
  insertions. The list holds the entries of the pod then, with some members edited, and the
  position is one of them. -/
  entries : ∀ {before op after target token}, log = before ++ op :: after →
    op.OnEntry target token → ¬ op.Inserts →
      (∀ e ∈ before, ¬ e.Inserts) ∧ ∃ index doc items, token = Pointer.ofIndex index ∧
        index < items.length ∧ Patch.run? before pod.toJson = some doc ∧
        Pointer.get? target.listPath doc = some (.arr items) ∧
        List.Forall₂ (fun c item => SameOff target.edited c.toJson item) (spec.listed target) items
  /-- Mounts and volumes are edited before all insertions. -/
  mounts : ∀ {before op after}, log = before ++ op :: after → op.OnMounts →
    ∀ e ∈ before, ¬ e.Inserts
  /-- The last operation is the only one about the metadata, and it sets the mark. -/
  mark : ∃ edits op doc new, log = edits ++ [op] ∧ op.OnMetadata ∧
    (∀ e ∈ edits, ¬ e.OnMetadata) ∧ Patch.run? edits pod.toJson = some doc ∧
    op.run? doc = some new ∧
    Pointer.get? ["metadata", "annotations",
      (Injector.mk config .builtin).keys.qualified Annotations.status] new =
        some (.str Annotations.injected)

namespace Injector

/-- The document that a created patch leads to is marked. -/
theorem exists_marked {config : Config} {pod : Pod} {log : Patch}
    (h : (Injector.mk config .builtin).createPatch pod = .ok log) :
    ∃ new, Patch.run? log pod.toJson = some new ∧
      Pointer.get? ["metadata", "annotations",
        (Injector.mk config .builtin).keys.qualified Annotations.status] new =
          some (.str Annotations.injected) := by
  rw [createPatch_eq rfl] at h
  obtain ⟨spec, hspec, hedits⟩ := bind_eq_ok.mp h
  obtain ⟨new, injected, hnew, hinject, hdecode⟩ := apply_edits rfl hspec hedits
  have hread := Pod.decode_eq_ok_iff.mp hdecode
  obtain ⟨ms, rfl⟩ := Schema.exists_members_of_denotes hread
  have hmark := congrArg ObjectMeta.annotations (metadata_inject hinject)
  exact ⟨_, Patch.apply_eq_ok.mp hnew,
    Pod.get?_annotation hread hmark (Dict.get?_insert_self _ _ _)⟩

/-- With the built-in modes, the operations of a created patch are in this order. -/
theorem createPatch_ordered (config : Config) (pod : Pod) (log : Patch)
    (h : (Injector.mk config .builtin).createPatch pod = .ok log) :
    ∃ spec, pod.spec = some spec ∧ Ordered config pod spec log := by
  obtain ⟨new, hrun, hmarked⟩ := exists_marked h
  obtain ⟨spec, ctx, modeEdits, rendered, hsteps, hinjection⟩ := exists_steps h
  have hspec := hinjection.submitted
  obtain ⟨own, insertions, hphases⟩ := hsteps.exists_phases hspec
  refine ⟨spec, hspec, ⟨?_, ?_, ?_⟩⟩
  · intro before op after target token hsplit hon hinserts
    obtain ⟨first, inner, rfl, rfl, hfirst, hinner, hnone⟩ :=
      hphases.exists_edits hsplit (hphases.not_mem_of_onEntry hon hinserts)
    -- The whole patch applies, so the operations before this one do.
    rw [hsplit, Patch.run?_append] at hrun
    obtain ⟨doc, hdoc, -⟩ := Option.bind_eq_some_iff.mp hrun
    obtain ⟨now, hnow, hedited⟩ := Edited.of_run hspec hfirst hdoc
    obtain ⟨index, rfl, hindex⟩ := hinner.exists_index hon
    cases hlist : spec.list target with
    | none => simp [PodSpec.entries, hlist] at hindex
    | some cs =>
      have hentries : spec.entries target = some (cs.map Container.toJson) := by
        rw [PodSpec.entries, hlist]
        rfl
      obtain ⟨items, hitems, hforms⟩ := hedited.exists_items hentries
      rw [hentries, Option.getD_some, hforms.length_eq] at hindex
      have hplace : Pointer.get? target.listPath doc = some (.arr items) := by
        rw [Target.listPath, Pointer.get?_of_member? hnow,
          Pointer.get?_of_member? (Json.member?_of_list? hitems), Pointer.get?]
      refine ⟨hnone, index, doc, items, rfl, hindex, hdoc, hplace, ?_⟩
      rw [PodSpec.listed, hlist]
      exact List.forall₂_map_left_iff.mp hforms
  · intro before op after hsplit hon
    obtain ⟨first, inner, -, -, -, -, hnone⟩ :=
      hphases.exists_edits hsplit (hphases.not_mem_of_onMounts hon)
    exact hnone
  · have hlog := hphases.log_eq
    rw [← List.append_assoc] at hlog
    rw [hlog, Patch.run?_append] at hrun
    obtain ⟨doc, hdoc, hrun⟩ := Option.bind_eq_some_iff.mp hrun
    rw [Patch.run?_singleton] at hrun
    exact ⟨_, _, doc, new, hlog, hphases.marks, hphases.not_onMetadata, hdoc, hrun, hmarked⟩

/-- The patch for the small pod sets a hook, mounts the secrets, adds their volume, inserts
the agent and marks the pod, in this order. -/
theorem createPatch_ordered_sample :
    ∃ log spec, (Injector.mk Sample.config .builtin).createPatch Sample.pod = .ok log ∧
      log.map Operation.path =
        [["spec", "containers", "0"], ["spec", "containers", "0", "volumeMounts", "-"],
          ["spec", "volumes"], ["spec", "containers", "0"], ["metadata", "annotations", "status"]] ∧
      Sample.pod.spec = some spec ∧ Ordered Sample.config Sample.pod spec log := by
  have hcreated : ((Injector.mk Sample.config .builtin).createPatch Sample.pod).toOption.any
      (fun log => log.map Operation.path =
        [["spec", "containers", "0"], ["spec", "containers", "0", "volumeMounts", "-"],
          ["spec", "volumes"], ["spec", "containers", "0"],
          ["metadata", "annotations", "status"]]) = true := by decide +kernel
  obtain ⟨log, hlog, hpaths⟩ := exists_of_any hcreated
  obtain ⟨spec, hspec, hordered⟩ := createPatch_ordered Sample.config Sample.pod log hlog
  exact ⟨log, spec, hlog, of_decide_eq_true hpaths, hspec, hordered⟩

end Injector

end SidecarInjection
