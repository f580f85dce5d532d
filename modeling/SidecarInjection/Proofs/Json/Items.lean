import Mathlib.Data.List.Forall2
import SidecarInjection.Proofs.Json.Patch

/-!
# `SidecarInjection.Proofs.Json.Items`: runs inside objects and arrays

What a patch does to one member of an object, and to the items of an array. A
position in an array is given by the items before it, so a lemma about the
position `done.length` speaks of the item right after `done`.

* `Patch.run?_member`: a run under a member name changes that member.
* `Patch.run?_each`: edits of all items, one item after another, keep a relation
  between the items and what they stand for.
* `Patch.run?_insertAt`: values added at ascending positions stand before the rest.
* `Patch.run?_appends`: values added at the end stand after the rest.
-/

set_option autoImplicit false

namespace SidecarInjection

namespace Pointer

/-- The change of the item after `done`. -/
theorem modify?_item (f : Json → Option Json) (done rest : List Json) (j : Json) :
    modify? [ofIndex done.length] f (.arr (done ++ j :: rest)) =
      (f j).map fun new => .arr (done ++ new :: rest) := by
  rw [modify?_arr, index?_ofIndex, Option.bind_some]
  have hget : (done ++ j :: rest)[done.length]? = some j := by simp
  rw [hget, Option.bind_some]
  show (f j).map _ = _
  congr 1
  funext new
  simp

/-- The item behind those that are done stands at the position that their number gives. -/
theorem get?_item (done rest : List Json) (j : Json) :
    get? [ofIndex done.length] (.arr (done ++ j :: rest)) = some j := by
  simp [get?]

end Pointer

namespace Patch

/-! ### Members of an object -/

/-- A run under a member name changes that member. -/
theorem run?_member {patch : Patch} (h : ∀ op ∈ patch, op.Inside) {key : String} {ms : Dict Json}
    {child : Json} (hchild : Dict.get? ms key = some child) :
    run? (under [key] patch) (.obj ms) =
      (run? patch child).map fun new => .obj (Dict.insert ms key new) := by
  have hget : Pointer.get? [key] (.obj ms) = some child := by
    rw [Pointer.get?, hchild]
    rfl
  rw [run?_under h hget, Pointer.modify?_obj, hchild, Option.bind_some]
  rfl

/-- An addition under a member name sets that member. -/
theorem run?_add_member (key : String) (value : Json) (ms : Dict Json) :
    (Operation.add [key] value).run? (.obj ms) = some (.obj (Dict.insert ms key value)) := rfl

/-- A replacement under a member name sets a member that is there. -/
theorem run?_replace_member {key : String} {value : Json} (child : Json) {ms : Dict Json}
    (hchild : Dict.get? ms key = some child) :
    (Operation.replace [key] value).run? (.obj ms) = some (.obj (Dict.insert ms key value)) := by
  show Pointer.modify? [key] _ (.obj ms) = _
  rw [Pointer.modify?_obj, hchild]
  rfl

/-! ### Items of an array -/

/-- A run under a position changes the item there. -/
theorem run?_item {patch : Patch} (h : ∀ op ∈ patch, op.Inside) (done rest : List Json)
    (j : Json) :
    run? (under [Pointer.ofIndex done.length] patch) (.arr (done ++ j :: rest)) =
      (run? patch j).map fun new => .arr (done ++ new :: rest) := by
  rw [run?_under h (Pointer.get?_item done rest j), Pointer.modify?_item]

/-- The edits of items at ascending positions, of which the first is given. Each item
is edited as its element says. -/
def each {α : Type} (edit : α → Patch) : Nat → List α → Patch
  | _, [] => []
  | index, x :: rest => under [Pointer.ofIndex index] (edit x) ++ each edit (index + 1) rest

/-- Edits of items work inside their list. -/
theorem inside_each {α : Type} (edit : α → Patch) (index : Nat) (xs : List α) :
    ∀ op ∈ each edit index xs, op.Inside := by
  induction xs generalizing index with
  | nil => simp [each]
  | cons x rest ih =>
    intro op hop
    rw [each, List.mem_append] at hop
    rcases hop with hop | hop
    · exact inside_under (by simp) (edit x) op hop
    · exact ih (index + 1) op hop

/-- Edits of all items keep a relation between elements and items: when the edit of
each single element takes `R` to `S`, the edits of all elements do so. -/
theorem run?_each {α : Type} {edit : α → Patch} {R S : α → Json → Prop} {xs : List α}
    (hinside : ∀ x ∈ xs, ∀ op ∈ edit x, op.Inside)
    (hedit : ∀ x ∈ xs, ∀ j, R x j → ∃ new, run? (edit x) j = some new ∧ S x new)
    {items : List Json} (h : List.Forall₂ R xs items) (done : List Json) :
    ∃ news, run? (each edit done.length xs) (.arr (done ++ items)) = some (.arr (done ++ news)) ∧
      List.Forall₂ S xs news := by
  -- The induction moves an item to `done` as soon as it is edited.
  induction h generalizing done with
  | nil => exact ⟨[], rfl, .nil⟩
  | @cons x j xs items hx _ ih =>
    obtain ⟨new, hnew, hS⟩ := hedit x List.mem_cons_self j hx
    obtain ⟨news, hnews, hSs⟩ := ih (fun y hy => hinside y (List.mem_cons_of_mem _ hy))
      (fun y hy => hedit y (List.mem_cons_of_mem _ hy)) (done ++ [new])
    refine ⟨new :: news, ?_, .cons hS hSs⟩
    rw [each, run?_append, run?_item (hinside x List.mem_cons_self), hnew, Option.map_some,
      Option.bind_some]
    simpa using hnews

/-- When the edit of each element turns one value into another, the edits of all
elements turn the list of the former into the list of the latter. -/
theorem turns_each {α β : Type} {R : β → Json → Prop} {edit : α → Patch} {f g : α → β}
    {xs : List α} (hedit : ∀ x ∈ xs, Turns R (edit x) (f x) (g x)) {items : List Json}
    (h : List.Forall₂ R (xs.map f) items) :
    ∃ news, run? (each edit 0 xs) (.arr items) = some (.arr news) ∧
      List.Forall₂ R (xs.map g) news := by
  rw [List.forall₂_map_left_iff] at h
  obtain ⟨news, hnews, hS⟩ := run?_each (S := fun x => R (g x))
    (fun x hx => (hedit x hx).inside) (fun x hx => (hedit x hx).exists_run) h []
  exact ⟨news, hnews, List.forall₂_map_left_iff.mpr hS⟩

/-- The edits that add values at ascending positions, of which the first is given. -/
def insertAt : Nat → List Json → Patch
  | _, [] => []
  | index, value :: rest => .add [Pointer.ofIndex index] value :: insertAt (index + 1) rest

/-- So do insertions. -/
theorem inside_insertAt (index : Nat) (values : List Json) :
    ∀ op ∈ insertAt index values, op.Inside := by
  induction values generalizing index with
  | nil => simp [insertAt]
  | cons value rest ih =>
    simp only [insertAt, List.forall_mem_cons]
    exact ⟨by simp [Operation.Inside], ih (index + 1)⟩

/-- The position of a decimal token is not the end of the array. -/
theorem insertIndex?_ofIndex {i length : Nat} (h : i ≤ length) :
    Operation.insertIndex? (Pointer.ofIndex i) length = some i := by
  -- A decimal token is read as a position, and the token of the end is not.
  have hne : Pointer.ofIndex i ≠ "-" := by
    intro heq
    have hread := Pointer.index?_ofIndex i
    rw [heq] at hread
    exact absurd hread (by simp [Pointer.index?, Decimal.read, Decimal.readFrom, Decimal.isDigit])
  rw [Operation.insertIndex?, if_neg hne, Pointer.index?_ofIndex, Option.bind_some, if_pos h]

/-- An insertion behind the items that are done stands in front of the others. -/
theorem insertIdx_length {α : Type} (done items : List α) (value : α) :
    (done ++ items).insertIdx done.length value = done ++ value :: items := by
  induction done with
  | nil => rfl
  | cons d done ih => simp [ih]

/-- Values added at ascending positions stand together before the rest. -/
theorem run?_insertAt (values done items : List Json) :
    run? (insertAt done.length values) (.arr (done ++ items)) =
      some (.arr (done ++ values ++ items)) := by
  -- An added value joins `done`, and the position of the next one is after it.
  induction values generalizing done with
  | nil => simp [insertAt]
  | cons value rest ih =>
    have hadd : (Operation.add [Pointer.ofIndex done.length] value).run? (.arr (done ++ items)) =
        some (.arr ((done ++ [value]) ++ items)) := by
      show Operation.addChild? (Pointer.ofIndex done.length) value (.arr (done ++ items)) = _
      rw [Operation.addChild?, insertIndex?_ofIndex (by simp), Option.map_some, insertIdx_length,
        List.append_assoc, List.singleton_append]
    have hrest := ih (done ++ [value])
    rw [insertAt, run?_cons, hadd, Option.bind_some]
    simpa using hrest

/-- Values added at the end stand in order after the rest. -/
theorem run?_appends (values items : List Json) :
    run? (values.map fun value => .add ["-"] value) (.arr items) =
      some (.arr (items ++ values)) := by
  -- The array grows at its end, so the induction is over all arrays.
  induction values generalizing items with
  | nil => simp
  | cons value rest ih =>
    have hadd : (Operation.add ["-"] value).run? (.arr items) = some (.arr (items ++ [value])) := by
      show Operation.addChild? "-" value (.arr items) = _
      simp [Operation.addChild?, Operation.insertIndex?]
    rw [List.map_cons, run?_cons, hadd, Option.bind_some, ih]
    simp

end Patch

end SidecarInjection
