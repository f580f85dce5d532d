import SidecarInjection.Json.Patch

/-!
# `SidecarInjection.Proofs.Json.Written`: patches in writing

A patch is sent as a JSON value, in which every pointer is a text. Whoever applies it has to read
the pointers back. The tokens of a pointer are member names, which may hold slashes and tildes:
the annotation keys of an injector do. So nothing of this may be lost in the text.

* `Pointer.ofText?_text`: the text of a pointer is read as that pointer.
* `Patch.ofJson?_toJson`: the written form of a patch is read as that patch.
-/

set_option autoImplicit false

namespace SidecarInjection

/-- When every item of a list is written so that it is read back, the list is. -/
theorem mapM_eq_some_self {α β : Type} {write : α → β} {read : β → Option α} {xs : List α}
    (h : ∀ x ∈ xs, read (write x) = some x) : (xs.map write).mapM read = some xs := by
  induction xs with
  | nil => rfl
  | cons x xs ih =>
    rw [List.map_cons, List.mapM_cons, h x List.mem_cons_self,
      ih fun y hy => h y (List.mem_cons_of_mem _ hy)]
    rfl

/-! ### Reading -/

/-- The operation that a written form denotes. -/
def Operation.ofJson? (j : Json) : Option Operation := do
  let path ← (j.memberText? "path").bind Pointer.ofText?
  match (← j.memberText? "op") with
  | "add" => (j.member? "value").map (.add path)
  | "replace" => (j.member? "value").map (.replace path)
  | "remove" => some (.remove path)
  | _ => none

/-- The patch that a written form denotes. -/
def Patch.ofJson? (j : Json) : Option Patch := j.items?.bind (List.mapM Operation.ofJson?)

/-! ### Pointers -/

namespace Pointer

/-- Two characters are escaped, and all others are kept. -/
theorem escapeChar_cases (c : Char) :
    (c = '~' ∧ escapeChar c = ['~', '0']) ∨ (c = '/' ∧ escapeChar c = ['~', '1']) ∨
      (c ≠ '~' ∧ c ≠ '/' ∧ escapeChar c = [c]) := by
  unfold escapeChar
  by_cases htilde : c = '~'
  · exact .inl ⟨htilde, if_pos htilde⟩
  · by_cases hslash : c = '/'
    · exact .inr (.inl ⟨hslash, by rw [if_neg htilde, if_pos hslash]⟩)
    · exact .inr (.inr ⟨htilde, hslash, by rw [if_neg htilde, if_neg hslash]⟩)

/-- There is no slash in the text of a token. -/
theorem slash_not_mem_escape (token : List Char) : '/' ∉ escape token := by
  intro hmem
  obtain ⟨c, -, hc⟩ := List.mem_flatMap.mp hmem
  rcases escapeChar_cases c with ⟨-, h⟩ | ⟨-, h⟩ | ⟨-, hslash, h⟩
  · simp [h] at hc
  · simp [h] at hc
  · rw [h, List.mem_singleton] at hc
    exact hslash hc.symm

/-- The text of a token is read as the token. -/
theorem unescape?_escape (token : List Char) : unescape? (escape token) = some token := by
  induction token with
  | nil => rfl
  | cons c token ih =>
    show unescape? (escapeChar c ++ escape token) = _
    rcases escapeChar_cases c with ⟨rfl, h⟩ | ⟨rfl, h⟩ | ⟨htilde, -, h⟩
    · show (unescape? (escape token)).map _ = _
      rw [ih]
      rfl
    · show (unescape? (escape token)).map _ = _
      rw [ih]
      rfl
    · rw [h, List.singleton_append]
      -- A character that is no tilde starts no escape.
      rw [unescape?.eq_def]
      split
      · rename_i heq
        cases heq
      · rename_i heq
        exact absurd (List.cons.inj heq).1 htilde
      · rename_i heq
        exact absurd (List.cons.inj heq).1 htilde
      · rename_i first rest _ _ heq
        obtain ⟨rfl, rfl⟩ := List.cons.inj heq
        rw [if_neg htilde, ih]
        rfl

/-- Behind the first slash, the text of a pointer holds the texts of its tokens with slashes
between them. -/
theorem flatMap_slash (first : List Char) (tokens : List (List Char)) :
    ((first :: tokens).flatMap fun token => '/' :: token) =
      '/' :: ['/'].intercalate (first :: tokens) := by
  induction tokens generalizing first with
  | nil => simp [List.intercalate]
  | cons second tokens ih =>
    rw [List.flatMap_cons, ih, List.cons_append, List.intercalate_cons_cons]
    simp

/-- The text of a pointer is read as that pointer. -/
theorem ofText?_text (p : Pointer) : ofText? p.text = some p := by
  have hchars : p.text.toList = (p.map fun token => escape token.toList).flatMap ('/' :: ·) := by
    rw [text, String.toList_ofList, List.flatMap_map]
  unfold ofText?
  rw [hchars]
  cases p with
  | nil => rfl
  | cons first rest =>
    have hfree : ∀ token ∈ (first :: rest).map fun token => escape token.toList, '/' ∉ token := by
      intro token htoken
      obtain ⟨token, -, rfl⟩ := List.mem_map.mp htoken
      exact slash_not_mem_escape token.toList
    -- No escaped token holds a slash, so splitting undoes the joining.
    have hsplit := List.splitOn_intercalate '/' hfree (by simp)
    rw [List.map_cons, flatMap_slash]
    show List.mapM _ (List.splitOn '/' (['/'].intercalate
      ((first :: rest).map fun token => escape token.toList))) = _
    rw [hsplit]
    refine mapM_eq_some_self fun token _ => ?_
    rw [unescape?_escape, Option.map_some, String.ofList_toList]

end Pointer

/-! ### Operations -/

/-- The written form of an operation is read as that operation. -/
theorem Operation.ofJson?_toJson (op : Operation) : ofJson? op.toJson = some op := by
  have hpath : (op.toJson.memberText? "path").bind Pointer.ofText? = some op.path := by
    cases op <;> exact Pointer.ofText?_text _
  rw [ofJson?, hpath]
  cases op <;> rfl

/-- The written form of a patch is read as that patch. -/
theorem Patch.ofJson?_toJson (patch : Patch) : ofJson? patch.toJson = some patch :=
  mapM_eq_some_self fun op _ => op.ofJson?_toJson

end SidecarInjection
