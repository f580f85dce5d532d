import SidecarInjection.Proofs.Json.Items

/-!
# `SidecarInjection.Proofs.Json.Members`: members that stay

What an operation leaves alone of the object that it is run on. An operation inside a
member leaves the other members alone, and one at a position of an array leaves the other
items alone.

* `Json.SameOff`: two values with the same members, apart from some keys.
* `Operation.sameOff_run?`, `Patch.sameOff_run?`: operations inside one member.
* `Operation.run?_at`, `Patch.exists_of_run?_under`, `Patch.exists_of_run?_parts`: an
  operation at a position of a list, and operations under the names of members.
* `Patch.exists_of_mem_each`: the edits of all items, one by one.
-/

set_option autoImplicit false

namespace SidecarInjection

/-! ### Two objects with common members -/

namespace Json

/-- Two values have the same members, apart from those of some keys. -/
def SameOff (keys : List String) (old new : Json) : Prop :=
  ∀ key, key ∉ keys → new.member? key = old.member? key

/-- The items of a member that is an array. -/
def list? (j : Json) (key : String) : Option (List Json) := (j.member? key).bind items?

/-- The items of a member, none when it is not an array. -/
def listed (j : Json) (key : String) : List Json := (j.list? key).getD []

variable {keys more : List String} {a b c : Json}

/-- A value agrees with itself. -/
theorem SameOff.refl (keys : List String) (a : Json) : SameOff keys a a := fun _ _ => rfl

/-- Agreement off some members goes from one value to the next. -/
theorem SameOff.trans (hab : SameOff keys a b) (hbc : SameOff keys b c) : SameOff keys a c :=
  fun key hkey => (hbc key hkey).trans (hab key hkey)

/-- Values that agree off some members agree off more of them. -/
theorem SameOff.mono (h : SameOff keys a b) (hkeys : keys ⊆ more) : SameOff more a b :=
  fun key hkey => h key fun hmem => hkey (hkeys hmem)

/-- They have the same lists, apart from those members. -/
theorem SameOff.list?_eq (h : SameOff keys a b) {key : String} (hkey : key ∉ keys) :
    b.list? key = a.list? key := by
  rw [list?, h key hkey, list?]

/-- Setting a member leaves the others alone. -/
theorem sameOff_insert (ms : Dict Json) (key : String) (value : Json) :
    SameOff [key] (.obj ms) (.obj (Dict.insert ms key value)) := by
  intro other hother
  exact Dict.get?_insert_of_ne ms value (by simpa using hother)

/-- A list that is found is a member. The converse fails, as a member need not be a list. -/
theorem member?_of_list? {j : Json} {key : String} {items : List Json}
    (h : j.list? key = some items) : j.member? key = some (.arr items) := by
  obtain ⟨value, hvalue, hitems⟩ := Option.bind_eq_some_iff.mp h
  cases value with
  | arr found =>
    cases hitems
    exact hvalue
  | _ => cases hitems

/-- A member that is an array is found as a list. -/
theorem list?_of_member? {j : Json} {key : String} {items : List Json}
    (h : j.member? key = some (.arr items)) : j.list? key = some items := by
  rw [list?, h]
  rfl

/-- A list that is set is found. -/
theorem list?_insert_self (ms : Dict Json) (key : String) (items : List Json) :
    (Json.obj (Dict.insert ms key (.arr items))).list? key = some items :=
  list?_of_member? (Dict.get?_insert_self ms key (.arr items))

/-- What has a list for a member is an object. -/
theorem exists_members_of_list? {j : Json} {key : String} {items : List Json}
    (h : j.list? key = some items) :
    ∃ ms, j = .obj ms ∧ Dict.get? ms key = some (.arr items) := by
  have hmember := member?_of_list? h
  cases j with
  | obj ms => exact ⟨ms, rfl, hmember⟩
  | _ => cases hmember

end Json

/-! ### Operations inside a member -/

open Json (SameOff)

/-- A pointer into a member leads where its rest leads from there. -/
theorem Pointer.get?_of_member? {j value : Json} {key : String} (h : j.member? key = some value)
    (p : Pointer) : get? (key :: p) j = get? p value := by
  cases j with
  | obj ms =>
    have hget : Dict.get? ms key = some value := h
    rw [get?, hget, Option.bind_some]
  | _ => cases h

/-- A change inside one member leaves the others alone. In an array there are no members to begin
with. -/
theorem Pointer.sameOff_modify? {token : String} {p : Pointer} {f : Json → Option Json}
    {j new : Json} (h : modify? (token :: p) f j = some new) : SameOff [token] j new := by
  cases j with
  | obj ms =>
    obtain ⟨child, -, h⟩ := Option.bind_eq_some_iff.mp h
    obtain ⟨value, -, rfl⟩ := Option.map_eq_some_iff.mp h
    exact Json.sameOff_insert ms token value
  | arr items =>
    -- Neither array has members.
    obtain ⟨i, -, h⟩ := Option.bind_eq_some_iff.mp h
    obtain ⟨child, -, h⟩ := Option.bind_eq_some_iff.mp h
    obtain ⟨value, -, rfl⟩ := Option.map_eq_some_iff.mp h
    exact fun _ _ => rfl
  | _ => cases h

namespace Operation

/-- Adding a member leaves the others alone. -/
theorem sameOff_addChild? {token : String} {value j new : Json}
    (h : addChild? token value j = some new) : SameOff [token] j new := by
  cases j with
  | obj ms =>
    cases h
    exact Json.sameOff_insert ms token value
  | arr items =>
    obtain ⟨i, -, rfl⟩ := Option.map_eq_some_iff.mp h
    exact fun _ _ => rfl
  | _ => cases h

/-- So does removing one. -/
theorem sameOff_removeChild? {token : String} {j new : Json}
    (h : removeChild? token j = some new) : SameOff [token] j new := by
  cases j with
  | obj ms =>
    dsimp only [removeChild?] at h
    split at h
    · cases h
      intro other hother
      exact Dict.get?_erase_of_ne ms (by simpa using hother)
    · cases h
  | arr items =>
    obtain ⟨i, -, h⟩ := Option.bind_eq_some_iff.mp h
    split at h
    · cases h
      -- A list has no members, so none of them can differ.
      exact fun _ _ => rfl
    · cases h
  | _ => cases h

/-- An operation inside a member leaves the other members alone. -/
theorem sameOff_run? {op : Operation} {token : String} {rest : Pointer}
    (hpath : op.path = token :: rest) {j new : Json} (h : op.run? j = some new) :
    SameOff [token] j new := by
  -- The last token of the place is the one of the member, or it lies below.
  have hplace : ∀ p : Pointer, p = token :: rest →
      p = [token] ∨ ∃ parent last, p = (token :: parent) ++ [last] := by
    intro p hp
    rcases List.eq_nil_or_concat rest with rfl | ⟨parent, last, rfl⟩
    · exact .inl hp
    · exact .inr ⟨parent, last, by simpa using hp⟩
  cases op with
  | add p value =>
    rcases hplace p hpath with rfl | ⟨parent, last, rfl⟩
    · exact sameOff_addChild? h
    · rw [run?_add] at h
      exact Pointer.sameOff_modify? h
  | replace p value =>
    have hpath : p = token :: rest := hpath
    subst hpath
    exact Pointer.sameOff_modify? h
  | remove p =>
    rcases hplace p hpath with rfl | ⟨parent, last, rfl⟩
    · exact sameOff_removeChild? h
    · rw [run?_remove] at h
      exact Pointer.sameOff_modify? h

/-- An operation at a position of a list changes the item there. -/
theorem run?_at {inner : Operation} (hinside : inner.Inside) {key : String} {index : Nat}
    {now next : Json} {items : List Json} (hlist : now.list? key = some items)
    (h : (inner.under [key, Pointer.ofIndex index]).run? now = some next) :
    ∃ item new, items[index]? = some item ∧ inner.run? item = some new ∧
      next.list? key = some (items.set index new) := by
  obtain ⟨ms, rfl, hget⟩ := Json.exists_members_of_list? hlist
  rw [run?_under hinside, Pointer.modify?_obj, hget, Option.bind_some, Pointer.modify?_arr,
    Pointer.index?_ofIndex, Option.bind_some] at h
  obtain ⟨changed, hchanged, rfl⟩ := Option.map_eq_some_iff.mp h
  obtain ⟨item, hitem, hchanged⟩ := Option.bind_eq_some_iff.mp hchanged
  obtain ⟨new, hnew, rfl⟩ := Option.map_eq_some_iff.mp hchanged
  exact ⟨item, new, hitem, hnew, Json.list?_insert_self _ _ _⟩

end Operation

namespace Patch

/-- A run under the name of a member is a run on the member. -/
theorem exists_of_run?_under {patch : Patch} (hinside : ∀ op ∈ patch, op.Inside) {key : String}
    {now next old : Json} (hold : now.member? key = some old)
    (h : run? (under [key] patch) now = some next) :
    ∃ new, run? patch old = some new ∧ next.member? key = some new := by
  cases now with
  | obj ms =>
    rw [run?_member hinside hold] at h
    obtain ⟨new, hnew, rfl⟩ := Option.map_eq_some_iff.mp h
    exact ⟨new, hnew, Dict.get?_insert_self _ _ _⟩
  | _ => cases hold

/-- Operations inside one member leave the other members alone. -/
theorem sameOff_run? {patch : Patch} {token : String}
    (hpath : ∀ op ∈ patch, ∃ rest, op.path = token :: rest) {j new : Json}
    (h : run? patch j = some new) : SameOff [token] j new := by
  induction patch generalizing j with
  | nil =>
    cases h
    exact SameOff.refl _ _
  | cons op rest ih =>
    obtain ⟨hop, hrest⟩ := List.forall_mem_cons.mp hpath
    obtain ⟨next, hnext, h⟩ := Option.bind_eq_some_iff.mp h
    obtain ⟨_, hop⟩ := hop
    exact (Operation.sameOff_run? hop hnext).trans (ih hrest h)

/-- Operations that are taken under a member have a place in it. -/
theorem path_of_mem_under {token : String} {patch : Patch} {op : Operation}
    (h : op ∈ under [token] patch) : ∃ rest, op.path = token :: rest := by
  obtain ⟨inner, -, rfl⟩ := List.mem_map.mp h
  exact ⟨inner.path, Operation.path_under _ _⟩

/-- A run inside two members, one after the other, is a run on each of them. -/
theorem exists_of_run?_parts {p q : Patch} (hp : ∀ op ∈ p, op.Inside) (hq : ∀ op ∈ q, op.Inside)
    {first second : String} (hne : second ∉ [first]) {now next a b : Json}
    (ha : now.member? first = some a) (hb : now.member? second = some b)
    (h : run? (under [first] p ++ under [second] q) now = some next) :
    ∃ newA newB, run? p a = some newA ∧ run? q b = some newB ∧ next.member? first = some newA ∧
      next.member? second = some newB ∧ SameOff [second, first] now next := by
  rw [run?_append] at h
  obtain ⟨mid, hfirst, hsecond⟩ := Option.bind_eq_some_iff.mp h
  have hsameFirst : SameOff [first] now mid := sameOff_run? (fun _ => path_of_mem_under) hfirst
  have hsameSecond : SameOff [second] mid next := sameOff_run? (fun _ => path_of_mem_under) hsecond
  -- The second part reads its own member, which the first part left alone.
  obtain ⟨newA, hnewA, hmid⟩ := exists_of_run?_under hp ha hfirst
  obtain ⟨newB, hnewB, hnext⟩ := exists_of_run?_under hq ((hsameFirst second hne).trans hb) hsecond
  have hfirst : first ∉ [second] := fun hmem =>
    hne (List.mem_singleton.mpr (List.mem_singleton.mp hmem).symm)
  refine ⟨newA, newB, hnewA, hnewB, (hsameSecond first hfirst).trans hmid, hnext, ?_⟩
  exact (hsameFirst.mono (by simp)).trans (hsameSecond.mono (by simp))

/-- The edits of all items are those of each item, taken under its position. -/
theorem exists_of_mem_each {α : Type} {edit : α → Patch} {index : Nat} {xs : List α}
    {op : Operation} (h : op ∈ each edit index xs) :
    ∃ i x inner, xs[i]? = some x ∧ inner ∈ edit x ∧
      op = inner.under [Pointer.ofIndex (index + i)] := by
  induction xs generalizing index with
  | nil => cases h
  | cons x rest ih =>
    rw [each, List.mem_append] at h
    rcases h with h | h
    · obtain ⟨inner, hinner, rfl⟩ := List.mem_map.mp h
      exact ⟨0, x, inner, rfl, hinner, rfl⟩
    · obtain ⟨i, y, inner, hy, hinner, rfl⟩ := ih h
      -- The rest counts from `index + 1`, so its place `i` is our `i + 1`.
      refine ⟨i + 1, y, inner, hy, hinner, ?_⟩
      rw [Nat.add_assoc, Nat.add_comm 1 i]

end Patch

end SidecarInjection
