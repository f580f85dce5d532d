import SidecarInjection.Proofs.Injection.Spec
import SidecarInjection.Proofs.Rendering

/-!
# `SidecarInjection.Proofs.Rendering.Insertion`: containers in front of a list

The edits that inject containers into one list are made without a look at the document they
are for. So what they do is said of every document that has the list where the pod had it,
whatever stands in it, and of modes of any kind.

* `Rendering.claimed_ask_iff`: a container is claimed when some mode claims it, asked after
  the modes before it.
* `Rendering.Rendered`: what becomes of a template.
* `Rendering.exists_run?_prepend`: what the edits make of a document.
* `Rendering.patch_inserts`: the two together, for a list of templates.
-/

set_option autoImplicit false

namespace SidecarInjection

open Outcome

/-! ### Templates -/

namespace Rendering

section

variable {target : Target} {podContainers : List Container} {ctx : Context}

/-- A container is claimed after all answers if it was before, or if some mode claims it. That
mode is asked with the environment that the modes before it left. -/
theorem claimed_ask_iff {name : String} {modes : List Mode} {answer result : ContainerAnswer}
    (h : ask target podContainers name ctx modes answer = .ok result) :
    result.claimed = true ↔ answer.claimed = true ∨ ∃ before mode after sofar next,
      modes = before ++ mode :: after ∧
      ask target podContainers name ctx before answer = .ok sofar ∧
      mode.injectContainer target podContainers name sofar.env ctx = .ok next ∧
      next.claimed = true := by
  induction modes generalizing answer with
  | nil =>
    cases h
    simp
  | cons mode rest ih =>
    obtain ⟨next, hnext, h⟩ := bind_eq_ok.mp h
    rw [ih h]
    constructor
    · rintro (hclaimed | ⟨before, found, after, sofar, last, rfl, hsofar, hlast, hclaimed⟩)
      · rcases (Bool.or_eq_true _ _).mp hclaimed with hearlier | hclaimed
        · exact .inl hearlier
        · exact .inr ⟨[], mode, rest, answer, next, rfl, rfl, hnext, hclaimed⟩
      · have hask : ask target podContainers name ctx (mode :: before) answer = .ok sofar :=
          bind_eq_ok.mpr ⟨next, hnext, hsofar⟩
        exact .inr ⟨mode :: before, found, after, sofar, last, rfl, hask, hlast, hclaimed⟩
    · rintro (hearlier | ⟨before, found, after, sofar, last, hmodes, hsofar, hlast, hclaimed⟩)
      · exact .inl ((Bool.or_eq_true _ _).mpr (.inl hearlier))
      · cases before with
        | nil =>
          -- The first mode is the one that claims.
          obtain ⟨rfl, rfl⟩ := List.cons.inj hmodes
          cases hsofar
          cases hnext.symm.trans hlast
          exact .inl ((Bool.or_eq_true _ _).mpr (.inr hclaimed))
        | cons first before =>
          obtain ⟨rfl, rfl⟩ := List.cons.inj hmodes
          obtain ⟨answered, hanswered, hsofar⟩ := bind_eq_ok.mp hsofar
          cases hnext.symm.trans hanswered
          exact .inr ⟨before, found, after, sofar, last, rfl, hsofar, hlast, hclaimed⟩

end

section

variable (registry : Registry) (target : Target) (podContainers : List Container) (ctx : Context)

/-- Some enabled mode claims a template, asked about it with the environment that the enabled
modes before it left. -/
def Claimed (t : Container) : Prop :=
  ∃ before mode after sofar next,
    registry.enabledModes ctx.modes = before ++ mode :: after ∧
    ask target podContainers t.name ctx before (.decline (t.env.getD [])) = .ok sofar ∧
    mode.injectContainer target podContainers t.name sofar.env ctx = .ok next ∧
    next.claimed = true

/-- What becomes of a template. All enabled modes answer, and if one of them claims it, it is
filled in with the environment that they leave. -/
def Rendered (t : Container) (result : Option Container) : Prop :=
  ∃ answer,
    ask target podContainers t.name ctx (registry.enabledModes ctx.modes)
      (.decline (t.env.getD [])) = .ok answer ∧
    ((Claimed registry target podContainers ctx t ∧ result = some (fill ctx t answer.env)) ∨
      (¬ Claimed registry target podContainers ctx t ∧ result = none))

variable {registry target podContainers ctx}

/-- What a template is rendered as is claimed by a mode, or is nothing. -/
theorem rendered_of_render {t : Container} {result : Option Container}
    (h : render registry target podContainers ctx t = .ok result) :
    Rendered registry target podContainers ctx t result := by
  obtain ⟨answer, hanswer, rfl⟩ := render_eq_ok h
  -- No template is claimed before the first mode is asked.
  have hclaimed : answer.claimed = true ↔ Claimed registry target podContainers ctx t :=
    (claimed_ask_iff hanswer).trans (or_iff_right Bool.false_ne_true)
  refine ⟨answer, hanswer, ?_⟩
  rw [← hclaimed]
  cases answer.claimed with
  | true => exact .inl ⟨rfl, rfl⟩
  | false => exact .inr ⟨Bool.false_ne_true, rfl⟩

end

end Rendering

/-! ### Documents -/

/-- Edits of a specification put values in front of its list, which they create if it was
absent. -/
theorem PodSpec.run?_prependEdits {field : String} {absent : Bool} {ms : Dict Json}
    {previous : List Json} (habsent : absent = true → previous = [])
    (hpresent : absent = false → Dict.get? ms field = some (.arr previous)) (value : Json)
    (rest : List Json) :
    Patch.run? (prependEdits field absent (value :: rest)) (.obj ms) =
      some (.obj (Dict.insert ms field (.arr (value :: rest ++ previous)))) := by
  cases absent with
  | true =>
    rw [habsent rfl, List.append_nil]
    exact run?_prependEdits_absent field value rest ms
  | false => exact run?_prependEdits_present (hpresent rfl) value rest

/-- There is one insertion for each value. -/
theorem Patch.length_insertAt (index : Nat) (values : List Json) :
    (insertAt index values).length = values.length := by
  induction values generalizing index with
  | nil => rfl
  | cons value rest ih => rw [insertAt, List.length_cons, ih, List.length_cons]

/-- A name leads into an object. -/
theorem Pointer.exists_members_of_get? {token : String} (hname : index? token = none)
    {rest : Pointer} {doc value : Json} (h : get? (token :: rest) doc = some value) :
    ∃ ms child, doc = .obj ms ∧ Dict.get? ms token = some child ∧ get? rest child = some value := by
  cases doc with
  | obj ms =>
    obtain ⟨child, hchild, hvalue⟩ := Option.bind_eq_some_iff.mp h
    exact ⟨ms, child, rfl, hchild, hvalue⟩
  | arr items =>
    rw [get?, hname] at h
    cases h
  | _ => cases h

/-- Setting a member of a member leaves alone what stands at a pointer that is neither above
nor below it. -/
theorem Pointer.get?_insert_insert (ms inner : Dict Json) {key field : String} (value : Json)
    (hinner : Dict.get? ms key = some (.obj inner)) {p : Pointer} (hbelow : ¬ [key, field] <+: p)
    (habove : ¬ p <+: [key, field]) :
    get? p (.obj (Dict.insert ms key (.obj (Dict.insert inner field value)))) =
      get? p (.obj ms) := by
  match p with
  | [] => exact absurd List.nil_prefix habove
  | [token] =>
    have htoken : token ≠ key := by
      rintro rfl
      exact habove (by simp)
    rw [get?, get?, Dict.get?_insert_of_ne _ _ htoken]
  | token :: other :: rest =>
    by_cases htoken : token = key
    · -- The pointer leads to another member of the changed member.
      subst htoken
      have hother : other ≠ field := by
        rintro rfl
        exact hbelow (by simp)
      rw [get?, get?, Dict.get?_insert_self, hinner, Option.bind_some, Option.bind_some, get?,
        get?, Dict.get?_insert_of_ne _ _ hother]
    · rw [get?, get?, Dict.get?_insert_of_ne _ _ htoken]

namespace Rendering

/-- The entries of a list of a document before the injection. Where the pod had no list, there
are none. -/
def Previous (target : Target) (doc : Json) (previous : List Json) :
    Option (List Container) → Prop
  | none => previous = []
  | some _ => Pointer.get? target.listPath doc = some (.arr previous)

/-- A document before and after values were put in front of a list. -/
structure Inserted (target : Target) (doc new : Json) (added previous : List Json) : Prop where
  /-- Where nothing is added, nothing changes. -/
  unchanged : added = [] → new = doc
  /-- The values stand in order before the previous entries. -/
  list : added ≠ [] → Pointer.get? target.listPath new = some (.arr (added ++ previous))
  /-- What is neither above nor below the list stays. -/
  apart : ∀ p : Pointer, ¬ target.listPath <+: p → ¬ p <+: target.listPath →
    Pointer.get? p new = Pointer.get? p doc

/-- One edit is made for each container. -/
theorem length_prepend (target : Target) (absent : Bool) (cs : List Container) :
    (prepend target absent cs).length = cs.length := by
  rw [prepend_eq, Patch.under, List.length_map]
  cases cs with
  | nil => rfl
  | cons c rest =>
    cases absent <;>
      simp [PodSpec.prependEdits, Patch.under, Patch.length_insertAt]

/-- The edits apply to every document with a specification, and insert the containers. -/
theorem exists_run?_prepend {target : Target} {existing : Option (List Container)} {doc : Json}
    {members : Dict Json} {previous : List Json}
    (hspec : Pointer.get? ["spec"] doc = some (.obj members))
    (hprevious : Previous target doc previous existing) (cs : List Container) :
    ∃ new, Patch.run? (prepend target existing.isNone cs) doc = some new ∧
      Inserted target doc new (cs.map Container.toJson) previous := by
  cases cs with
  | nil => exact ⟨doc, rfl, fun _ => rfl, fun hnone => absurd rfl hnone, fun _ _ _ => rfl⟩
  | cons c rest =>
    obtain ⟨ms, _, rfl, hget, hobj⟩ := Pointer.exists_members_of_get? rfl hspec
    cases hobj
    -- No list before means no items before; otherwise the list is a member of the specification.
    have habsent : existing.isNone = true → previous = [] := by
      intro hnone
      rw [Option.isNone_iff_eq_none.mp hnone] at hprevious
      exact hprevious
    have hpresent : existing.isNone = false →
        Dict.get? members target.field = some (.arr previous) := by
      intro hsome
      obtain ⟨old, rfl⟩ := Option.isSome_iff_exists.mp (Option.isNone_eq_false_iff.mp hsome)
      have hlist : Pointer.get? [target.field] (.obj members) = some (.arr previous) := by
        have hplace : Pointer.get? ["spec", target.field] (.obj ms) = some (.arr previous) :=
          hprevious
        rwa [Pointer.get?, hget, Option.bind_some] at hplace
      obtain ⟨child, hchild, harr⟩ := Option.bind_eq_some_iff.mp hlist
      cases harr
      exact hchild
    have hrun := PodSpec.run?_prependEdits habsent hpresent c.toJson (rest.map Container.toJson)
    refine ⟨.obj (Dict.insert ms "spec" (.obj (Dict.insert members target.field
      (.arr ((c :: rest).map Container.toJson ++ previous))))), ?_,
        fun hnone => absurd hnone (List.cons_ne_nil _ _), fun _ => ?_, fun p hbelow habove => ?_⟩
    · rw [prepend_eq, Patch.run?_member (PodSpec.inside_prependEdits _ _ _) hget, List.map_cons,
        hrun]
      rfl
    · rw [Target.listPath, Pointer.get?, Dict.get?_insert_self, Option.bind_some, Pointer.get?,
        Dict.get?_insert_self]
      rfl
    · exact Pointer.get?_insert_insert ms members _ hget hbelow habove

/-- The edits that inject templates into a list apply to every document whose specification is
an object, and has an array for the list if the pod had the list. Afterwards the templates that
some enabled mode claims stand, filled in and in order, before the entries that were there.
Nothing else is changed, and one edit is made for each claimed template. -/
theorem patch_inserts (registry : Registry) (target : Target) (templates : List Container)
    (existing : Option (List Container)) (ctx : Context) (log : Patch)
    (h : patch registry target templates existing ctx = .ok log) :
    ∃ results, List.Forall₂ (Rendered registry target (existing.getD []) ctx) templates results ∧
      log.length = (results.flatMap Option.toList).length ∧
      ∀ (doc : Json) (members : Dict Json) (previous : List Json),
        Pointer.get? ["spec"] doc = some (.obj members) → Previous target doc previous existing →
          ∃ new, log.apply doc = .ok new ∧
            Inserted target doc new ((results.flatMap Option.toList).map Container.toJson)
              previous := by
  obtain ⟨rendered, hrendered, h⟩ := bind_eq_ok.mp h
  cases h
  obtain ⟨results, hresults, rfl⟩ := renderAll_eq_ok.mp hrendered
  refine ⟨results, hresults.imp fun t result => rendered_of_render, length_prepend _ _ _,
    fun doc members previous hspec hprevious => ?_⟩
  obtain ⟨new, hrun, hinserted⟩ :=
    exists_run?_prepend hspec hprevious (results.flatMap Option.toList)
  exact ⟨new, Patch.apply_eq_ok.mpr hrun, hinserted⟩

end Rendering

/-! ### A small list -/

namespace Sample

/-- A mode that claims tracers, and tells every container the level. -/
def traceMode : Mode where
  key := "trace"
  injectContainer _ _ name env _ := .ok ⟨name = "tracer", EnvVar.setAll env "LEVEL" "3"⟩

/-- A container of which nothing but the name is known. -/
def named (name : String) : Container := ⟨name, none, none, none, none, none, .empty _⟩

/-- A context in which tracers are injected. -/
def traceContext : Context := ⟨⟨[("trace", true)]⟩, .kubernetes, "shop", "token", "token", []⟩

/-- A document with one container. -/
def listDocument : Json :=
  .obj [("kind", .str "Pod"), ("spec", .obj [("containers", .arr [.str "web"])])]

end Sample

namespace Rendering

/-- Of three templates the two tracers are put before the container of the small document. -/
theorem patch_inserts_sample :
    ∃ log new added,
      patch (.ofList [Sample.traceMode]) .containers
        [Sample.named "tracer", Sample.named "helper", Sample.named "tracer"]
        (some [Sample.named "web"]) Sample.traceContext = .ok log ∧
      log.apply Sample.listDocument = .ok new ∧ added.length = 2 ∧
      Pointer.get? ["spec", "containers"] new = some (.arr (added ++ [.str "web"])) := by
  have hpatched : (patch (.ofList [Sample.traceMode]) .containers
      [Sample.named "tracer", Sample.named "helper", Sample.named "tracer"]
      (some [Sample.named "web"]) Sample.traceContext).toOption.any
        (fun log => log.length = 2) = true := by decide +kernel
  obtain ⟨log, hlog, htwo⟩ := exists_of_any hpatched
  -- Only the number of operations is computed. The document follows from the theorem.
  obtain ⟨results, -, hlength, hdocument⟩ := patch_inserts _ _ _ _ _ log hlog
  obtain ⟨new, happly, hinserted⟩ := hdocument Sample.listDocument
    [("containers", .arr [.str "web"])] [.str "web"] rfl rfl
  have hadded : ((results.flatMap Option.toList).map Container.toJson).length = 2 := by
    rw [List.length_map, ← hlength]
    exact of_decide_eq_true htwo
  refine ⟨log, new, _, hlog, happly, hadded, hinserted.list fun hnone => ?_⟩
  rw [hnone] at hadded
  cases hadded

end Rendering

end SidecarInjection
