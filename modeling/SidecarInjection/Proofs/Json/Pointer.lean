import SidecarInjection.Json.Pointer

/-!
# `SidecarInjection.Proofs.Json.Pointer`: changes at a pointer

`Pointer.modify?` changes the value at one place of a document. Here a change at
a longer pointer is a change inside a change, and changes at one pointer combine.

* `Pointer.modify?_append`: a change at `p ++ q` is a change at `q`, made at `p`.
* `Pointer.modify?_bind`: two changes at one pointer are one change after the other.
* `Pointer.modify?_eq_self`: a change that keeps the value keeps the document.
* `Pointer.exists_modify?`: a change succeeds where the pointer leads somewhere.
* `Pointer.get?_modify?`: the changed value stands at the pointer.
* `Pointer.get?_modify?_of_not_prefix`: away from a pointer of names nothing changes.
-/

set_option autoImplicit false

namespace SidecarInjection.Pointer

/-- In an object the way goes on in the member of the next token, which has to be there. -/
theorem modify?_obj (token : String) (p : Pointer) (f : Json → Option Json) (ms : Dict Json) :
    modify? (token :: p) f (.obj ms) =
      (Dict.get? ms token).bind fun child =>
        (modify? p f child).map fun new => .obj (Dict.insert ms token new) := rfl

/-- In an array it goes on in the item at the position that the token names. -/
theorem modify?_arr (token : String) (p : Pointer) (f : Json → Option Json) (items : List Json) :
    modify? (token :: p) f (.arr items) =
      (index? token).bind fun i =>
        items[i]?.bind fun child => (modify? p f child).map fun new => .arr (items.set i new) := rfl

/-- A change at `p ++ q` is a change at `q`, made at `p`. -/
theorem modify?_append (p q : Pointer) (f : Json → Option Json) (doc : Json) :
    modify? (p ++ q) f doc = modify? p (modify? q f) doc := by
  induction p generalizing doc with
  | nil => rfl
  | cons token p ih =>
    cases doc with
    | obj ms => simp only [List.cons_append, modify?_obj, ih]
    | arr items => simp only [List.cons_append, modify?_arr, ih]
    | _ => rfl

/-- Two changes at one pointer are one change after the other. -/
theorem modify?_bind (p : Pointer) (f g : Json → Option Json) (doc : Json) :
    (modify? p f doc).bind (modify? p g) = modify? p (fun j => (f j).bind g) doc := by
  -- Both changes go down the same way, so they meet at every token of the pointer.
  induction p generalizing doc with
  | nil => rfl
  | cons token p ih =>
    cases doc with
    | obj ms =>
      simp only [modify?_obj]
      cases Dict.get? ms token with
      | none => rfl
      | some child =>
        simp only [Option.bind_some, ← ih]
        cases modify? p f child with
        | none => rfl
        | some new =>
          -- The second change writes the member that the first one wrote.
          simp [modify?_obj, Dict.insert_insert]
    | arr items =>
      simp only [modify?_arr]
      cases htoken : index? token with
      | none => rfl
      | some i =>
        cases hi : items[i]? with
        | none => simp [hi]
        | some child =>
          simp only [hi, Option.bind_some, ← ih]
          cases modify? p f child with
          | none => rfl
          | some new =>
            -- The array has kept its length, so the position still holds an item.
            have hlt : i < items.length := (List.getElem?_eq_some_iff.mp hi).1
            simp [modify?_arr, htoken, hlt]
    | _ => rfl

/-- A change that keeps the value at the pointer keeps the document. -/
theorem modify?_eq_self {p : Pointer} {f : Json → Option Json} {doc child : Json}
    (h : get? p doc = some child) (hf : f child = some child) : modify? p f doc = some doc := by
  induction p generalizing doc with
  | nil =>
    cases h
    exact hf
  | cons token p ih =>
    cases doc with
    | obj ms =>
      obtain ⟨inner, hget, hinner⟩ := Option.bind_eq_some_iff.mp h
      rw [modify?_obj, hget, Option.bind_some, ih hinner, Option.map_some, Dict.insert_get? hget]
    | arr items =>
      obtain ⟨i, hi, h⟩ := Option.bind_eq_some_iff.mp h
      obtain ⟨inner, hget, hinner⟩ := Option.bind_eq_some_iff.mp h
      rw [modify?_arr, hi, Option.bind_some, hget, Option.bind_some, ih hinner, Option.map_some]
      -- The item is written back to its own position.
      rw [List.getElem?_eq_some_iff] at hget
      obtain ⟨hlt, rfl⟩ := hget
      rw [List.set_getElem_self]
    | _ => simp [get?] at h

/-- A change that has a result at the pointer has one for the document. -/
theorem exists_modify? {p : Pointer} {f : Json → Option Json} {doc child value : Json}
    (h : get? p doc = some child) (hf : f child = some value) :
    ∃ new, modify? p f doc = some new := by
  induction p generalizing doc with
  | nil =>
    cases h
    exact ⟨value, hf⟩
  | cons token p ih =>
    -- A token needs a container: an object by name, a list by number.
    cases doc with
    | obj ms =>
      obtain ⟨inner, hget, hinner⟩ := Option.bind_eq_some_iff.mp h
      obtain ⟨new, hnew⟩ := ih hinner
      exact ⟨_, by rw [modify?_obj, hget, Option.bind_some, hnew, Option.map_some]⟩
    | arr items =>
      obtain ⟨i, hi, h⟩ := Option.bind_eq_some_iff.mp h
      obtain ⟨inner, hget, hinner⟩ := Option.bind_eq_some_iff.mp h
      obtain ⟨new, hnew⟩ := ih hinner
      exact ⟨_, by rw [modify?_arr, hi, Option.bind_some, hget, Option.bind_some, hnew,
        Option.map_some]⟩
    | _ => simp [get?] at h

/-- The changed value stands at the pointer. -/
theorem get?_modify? {p : Pointer} {f : Json → Option Json} {doc new : Json}
    (h : modify? p f doc = some new) :
    ∃ child value, get? p doc = some child ∧ f child = some value ∧ get? p new = some value := by
  induction p generalizing doc new with
  | nil => exact ⟨doc, new, rfl, h, rfl⟩
  | cons token p ih =>
    cases doc with
    | obj ms =>
      obtain ⟨inner, hget, hinner⟩ := Option.bind_eq_some_iff.mp h
      obtain ⟨changed, hchanged, rfl⟩ := Option.map_eq_some_iff.mp hinner
      obtain ⟨child, value, hchild, hf, hvalue⟩ := ih hchanged
      refine ⟨child, value, ?_, hf, ?_⟩
      · rw [get?, hget, Option.bind_some, hchild]
      · rw [get?, Dict.get?_insert_self, Option.bind_some, hvalue]
    | arr items =>
      obtain ⟨i, hi, h⟩ := Option.bind_eq_some_iff.mp h
      obtain ⟨inner, hget, hinner⟩ := Option.bind_eq_some_iff.mp h
      obtain ⟨changed, hchanged, rfl⟩ := Option.map_eq_some_iff.mp hinner
      obtain ⟨child, value, hchild, hf, hvalue⟩ := ih hchanged
      -- Writing the item back is read again because `i` was a place before.
      have hlt : i < items.length := (List.getElem?_eq_some_iff.mp hget).1
      refine ⟨child, value, ?_, hf, ?_⟩
      · rw [get?, hi, Option.bind_some, hget, Option.bind_some, hchild]
      · rw [get?, hi, Option.bind_some, List.getElem?_set_self hlt, Option.bind_some, hvalue]
    | _ => simp [modify?] at h

/-- A change at a pointer of member names leaves alone what stands at a pointer that is
neither above nor below it. -/
theorem get?_modify?_of_not_prefix {p q : Pointer} {f : Json → Option Json} {doc new : Json}
    (h : modify? p f doc = some new) (hnames : ∀ token ∈ p, index? token = none)
    (hpq : ¬ p <+: q) (hqp : ¬ q <+: p) : get? q new = get? q doc := by
  induction p generalizing q doc new with
  | nil => exact absurd List.nil_prefix hpq
  | cons token p ih =>
    cases q with
    | nil => exact absurd List.nil_prefix hqp
    | cons other q =>
      cases doc with
      | obj ms =>
        obtain ⟨inner, hget, hinner⟩ := Option.bind_eq_some_iff.mp h
        obtain ⟨changed, hchanged, rfl⟩ := Option.map_eq_some_iff.mp hinner
        by_cases hother : other = token
        · -- Both pointers lead into the member that changes, and part below it.
          subst hother
          have hsame : get? q changed = get? q inner :=
            ih hchanged (fun t ht => hnames t (List.mem_cons_of_mem _ ht))
              (fun hp => hpq (List.cons_prefix_cons.mpr ⟨rfl, hp⟩))
              (fun hq => hqp (List.cons_prefix_cons.mpr ⟨rfl, hq⟩))
          rw [get?, get?, Dict.get?_insert_self, hget, Option.bind_some, Option.bind_some, hsame]
        · rw [get?, get?, Dict.get?_insert_of_ne _ _ hother]
      | arr items =>
        -- A name is no position, so the change has no way into an array.
        rw [modify?_arr, hnames token List.mem_cons_self] at h
        cases h
      | _ => cases h

end SidecarInjection.Pointer
