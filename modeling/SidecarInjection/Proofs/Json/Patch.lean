import SidecarInjection.Json.Patch
import SidecarInjection.Proofs.Json.Pointer

/-!
# `SidecarInjection.Proofs.Json.Patch`: runs of patches

`Patch.run?` is the document that a patch leads to, without the position of a
failure. A patch whose operations all lie under one pointer is a run on the value
at that pointer.

* `Patch.apply_eq_ok`: a patch applies exactly when its run has a result.
* `Patch.run?_append`: a patch is run in two parts.
* `Patch.Turns`: the patch leads from what stands for one value to what stands for
  another one.
* `Operation.run?_under`, `Patch.run?_under`: a run under a pointer is a change at
  the pointer.
-/

set_option autoImplicit false

namespace SidecarInjection

/-- The document after all operations, if each one fits. -/
def Patch.run? : Patch → Json → Option Json
  | [], doc => some doc
  | op :: rest, doc => (op.run? doc).bind (run? rest)

namespace Patch

/-- A patch without operations changes nothing. -/
@[simp] theorem run?_nil (doc : Json) : run? [] doc = some doc := rfl

/-- The first operation is applied, and then the others. -/
theorem run?_cons (op : Operation) (rest : Patch) (doc : Json) :
    run? (op :: rest) doc = (op.run? doc).bind (run? rest) := rfl

/-- The position of the first operation matters for errors only. -/
theorem applyFrom_eq_ok {n : Nat} {patch : Patch} {doc new : Json} :
    applyFrom n patch doc = .ok new ↔ run? patch doc = some new := by
  induction patch generalizing n doc with
  | nil => simp [applyFrom]
  | cons op rest ih =>
    simp only [applyFrom, run?_cons]
    cases op.run? doc with
    | none => simp
    | some next => exact ih

/-- A patch applies exactly when its run has a result. -/
theorem apply_eq_ok {patch : Patch} {doc new : Json} :
    patch.apply doc = .ok new ↔ run? patch doc = some new := applyFrom_eq_ok

/-- A patch is run in two parts. -/
theorem run?_append (p q : Patch) (doc : Json) :
    run? (p ++ q) doc = (run? p doc).bind (run? q) := by
  induction p generalizing doc with
  | nil => rfl
  | cons op rest ih =>
    simp only [List.cons_append, run?_cons, Option.bind_assoc]
    congr 1
    funext next
    exact ih next

/-- A patch of one operation does what the operation does. -/
theorem run?_singleton (op : Operation) (doc : Json) : run? [op] doc = op.run? doc := by
  rw [run?_cons]
  cases op.run? doc <;> rfl

end Patch

/-! ### What a patch leads to -/

/-- The operation works inside the document: it neither adds nor removes the whole
of it. Such an operation means the same under a pointer. -/
def Operation.Inside : Operation → Prop
  | .add q _ => q ≠ []
  | .replace _ _ => True
  | .remove q => q ≠ []

namespace Patch

variable {α : Type} {R : α → Json → Prop}

/-- Read `R x j` as: `j` stands for `x`. The patch fits everything that stands for `a`,
and what it leads to stands for `b`. -/
structure Turns (R : α → Json → Prop) (patch : Patch) (a b : α) : Prop where
  inside : ∀ op ∈ patch, op.Inside
  exists_run : ∀ j, R a j → ∃ new, run? patch j = some new ∧ R b new

/-- No operation leads from anything to the same thing. -/
theorem Turns.nil (a : α) : Turns R [] a a := ⟨nofun, fun j h => ⟨j, rfl, h⟩⟩

/-- What one patch leads to is what the next one starts from. -/
theorem Turns.append {p q : Patch} {a b c : α} (hp : Turns R p a b) (hq : Turns R q b c) :
    Turns R (p ++ q) a c := by
  refine ⟨fun op hop => ?_, fun j h => ?_⟩
  · rcases List.mem_append.mp hop with hop | hop
    · exact hp.inside op hop
    · exact hq.inside op hop
  · obtain ⟨next, hnext, hb⟩ := hp.exists_run j h
    obtain ⟨new, hnew, hc⟩ := hq.exists_run next hb
    refine ⟨new, ?_, hc⟩
    rw [run?_append, hnext, Option.bind_some, hnew]

end Patch

/-! ### Patches under a pointer -/

namespace Operation

/-- The operation with its place taken under a pointer. -/
def under (p : Pointer) : Operation → Operation
  | .add q value => .add (p ++ q) value
  | .replace q value => .replace (p ++ q) value
  | .remove q => .remove (p ++ q)

/-- The place of an operation that is taken under a pointer. -/
theorem path_under (p : Pointer) (op : Operation) : (op.under p).path = p ++ op.path := by
  cases op <;> rfl

/-- An operation that is taken under two pointers is taken under both in a row. -/
theorem under_under (p q : Pointer) (op : Operation) :
    (op.under q).under p = op.under (p ++ q) := by
  cases op with
  | add r value => simp [under]
  | replace r value => simp [under]
  | remove r => simp [under]

/-- An addition at the last token of a pointer changes the value before that token. -/
theorem run?_add (parent : Pointer) (token : String) (value : Json) :
    (add (parent ++ [token]) value).run? = Pointer.modify? parent (addChild? token value) := by
  funext doc
  simp only [run?, List.dropLast_concat, List.getLast?_concat]

/-- A removal at the last token of a pointer changes the value before that token. -/
theorem run?_remove (parent : Pointer) (token : String) :
    (remove (parent ++ [token])).run? = Pointer.modify? parent (removeChild? token) := by
  funext doc
  simp only [run?, List.dropLast_concat, List.getLast?_concat]

/-- An operation under a pointer changes the value at the pointer. -/
theorem run?_under {op : Operation} (h : op.Inside) (p : Pointer) (doc : Json) :
    (op.under p).run? doc = Pointer.modify? p op.run? doc := by
  cases op with
  | add q value =>
    -- The place is not the whole value, so it has a last token, which stays the last one.
    obtain ⟨parent, token, rfl⟩ := (List.eq_nil_or_concat q).resolve_left h
    rw [List.concat_eq_append, under, ← List.append_assoc, run?_add, run?_add]
    exact Pointer.modify?_append p parent _ doc
  | replace q value =>
    show Pointer.modify? (p ++ q) _ doc = Pointer.modify? p (Pointer.modify? q _) doc
    exact Pointer.modify?_append p q _ doc
  | remove q =>
    obtain ⟨parent, token, rfl⟩ := (List.eq_nil_or_concat q).resolve_left h
    rw [List.concat_eq_append, under, ← List.append_assoc, run?_remove, run?_remove]
    exact Pointer.modify?_append p parent _ doc

end Operation

namespace Patch

/-- The patch with all places taken under a pointer. -/
def under (p : Pointer) (patch : Patch) : Patch := patch.map (Operation.under p)

/-- Every operation is taken under the pointer, so the first one and the others are. -/
@[simp] theorem under_cons (p : Pointer) (op : Operation) (rest : Patch) :
    under p (op :: rest) = op.under p :: under p rest := rfl

/-- Two parts of a patch are taken under a pointer one by one. -/
@[simp] theorem under_append (p : Pointer) (a b : Patch) :
    under p (a ++ b) = under p a ++ under p b := List.map_append

/-- So is a whole patch. -/
theorem under_under (p q : Pointer) (patch : Patch) :
    under p (under q patch) = under (p ++ q) patch := by
  rw [under, under, under, List.map_map]
  congr 1
  funext op
  exact Operation.under_under p q op

/-- Under a pointer that is not empty every operation is inside. -/
theorem inside_under {p : Pointer} (hp : p ≠ []) (patch : Patch) :
    ∀ op ∈ under p patch, op.Inside := by
  intro op hop
  obtain ⟨inner, -, rfl⟩ := List.mem_map.mp hop
  cases inner with
  | add q value => simp [Operation.under, Operation.Inside, hp]
  | replace q value => trivial
  | remove q => simp [Operation.under, Operation.Inside, hp]

/-- A run under a pointer that leads somewhere is a change at the pointer. -/
theorem run?_under {patch : Patch} (h : ∀ op ∈ patch, op.Inside) {p : Pointer} {doc child : Json}
    (hchild : Pointer.get? p doc = some child) :
    run? (under p patch) doc = Pointer.modify? p (run? patch) doc := by
  induction patch generalizing doc child with
  | nil => exact (Pointer.modify?_eq_self hchild rfl).symm
  | cons op rest ih =>
    have hop := h op List.mem_cons_self
    have hrest := fun o ho => h o (List.mem_cons_of_mem _ ho)
    rw [under_cons, run?_cons, Operation.run?_under hop]
    -- After the first operation the pointer still leads somewhere.
    have hstep : ∀ next, Pointer.modify? p op.run? doc = some next →
        run? (under p rest) next = Pointer.modify? p (run? rest) next := by
      intro next hnext
      obtain ⟨-, value, -, -, hvalue⟩ := Pointer.get?_modify? hnext
      exact ih hrest hvalue
    calc (Pointer.modify? p op.run? doc).bind (run? (under p rest))
        = (Pointer.modify? p op.run? doc).bind (Pointer.modify? p (run? rest)) := by
          cases hfirst : Pointer.modify? p op.run? doc with
          | none => rfl
          | some next => exact hstep next hfirst
      _ = Pointer.modify? p (fun j => (op.run? j).bind (run? rest)) doc :=
          Pointer.modify?_bind p _ _ doc

end Patch

end SidecarInjection
