import SidecarInjection.Text.Search

/-!
# `SidecarInjection.Proofs.Text.Split`: the pieces of a text

* `splitOn_eq_unit_iff`: only the empty text has a single empty piece.
* `splitOn_eq_iff`: the pieces are the texts without the separator that make up the text with
  separators between them, if the separator is one character.
* `splitOn_append`: two texts with the separator between them have the pieces of both, if the
  separator is one character.
-/

set_option autoImplicit false

namespace SidecarInjection.Text

/-- A letter always has a piece to go to. -/
theorem consFirst_ne_nil (c : Char) (pieces : List (List Char)) : consFirst c pieces ≠ [] := by
  cases pieces <;> exact List.cons_ne_nil _ _

/-- A text has a piece, whatever it is split at. -/
theorem splitFrom_ne_nil (sep : List Char) (skip : Nat) (s : List Char) :
    splitFrom sep skip s ≠ [] := by
  fun_induction splitFrom sep skip s with
  | case1 => exact List.cons_ne_nil _ _
  | case2 skip c rest ih => exact ih
  | case3 => exact List.cons_ne_nil _ _
  | case4 c rest _ _ => exact consFirst_ne_nil c _

/-- A text that is not empty has a second piece, or a character in its first one. -/
theorem splitFrom_eq_unit_iff (sep s : List Char) : splitFrom sep 0 s = [[]] ↔ s = [] := by
  constructor
  · intro h
    cases s with
    | nil => rfl
    | cons c rest =>
      rw [splitFrom] at h
      -- A separator makes a second piece, and a letter makes the first one longer.
      split at h
      · exact absurd (List.cons.inj h).2 (splitFrom_ne_nil sep _ rest)
      · unfold consFirst at h
        split at h <;> cases h
  · rintro rfl
    rfl

/-- Only the empty text is split into one empty piece. -/
theorem splitOn_eq_unit_iff (sep s : String) : splitOn sep s = [""] ↔ s = "" := by
  have hunit : splitOn sep s = [""] ↔ splitFrom sep.toList 0 s.toList = [[]] := by
    show (splitFrom sep.toList 0 s.toList).map String.ofList = [[]].map String.ofList ↔ _
    exact List.map_inj_right fun _ _ heq => String.ofList_injective heq
  rw [hunit, splitFrom_eq_unit_iff, String.toList_eq_nil_iff]

/-- A separator of one character splits as in a list. -/
theorem splitFrom_singleton (c : Char) (s : List Char) : splitFrom [c] 0 s = s.splitOn c := by
  induction s with
  | nil => rfl
  | cons d rest ih =>
    rw [splitFrom, List.splitOn, List.splitOnP_cons_eq_if_modifyHead, ← List.splitOn, ← ih]
    by_cases hd : d = c
    · subst hd
      simp
    · have hstarts : [c].isPrefixOf (d :: rest) = false := by
        simp [List.isPrefixOf, Ne.symm hd]
      rw [hstarts, beq_false_of_ne hd]
      -- There is always a first piece to put the character into.
      cases hsplit : splitFrom [c] 0 rest with
      | nil => exact absurd hsplit (splitFrom_ne_nil [c] 0 rest)
      | cons piece pieces => rfl

/-- There is no separator in a piece. -/
theorem not_mem_of_mem_splitOn {c : Char} {s piece : List Char} (h : piece ∈ s.splitOn c) :
    c ∉ piece := by
  induction s generalizing piece with
  | nil =>
    rw [List.splitOn_nil, List.mem_singleton] at h
    simp [h]
  | cons d rest ih =>
    rw [List.splitOn_cons_eq_if_modifyHead] at h
    split at h
    · rcases List.mem_cons.mp h with rfl | h
      · exact List.not_mem_nil
      · exact ih h
    · rename_i hd
      -- The letter in front is no separator and goes into the first piece.
      have hne : c ≠ d := fun heq => hd (beq_iff_eq.mpr heq.symm)
      cases hsplit : rest.splitOn c with
      | nil => exact absurd hsplit (List.splitOn_ne_nil c rest)
      | cons first others =>
        rw [hsplit, List.modifyHead_cons, List.mem_cons] at h
        rcases h with rfl | h
        · rw [List.mem_cons, not_or]
          exact ⟨hne, ih (by simp [hsplit])⟩
        · exact ih (by simp [hsplit, h])

/-- The pieces of a text are the texts without the separator that make it up. -/
theorem splitOn_eq_iff {sep : String} {c : Char} (h : sep.toList = [c]) {s : String}
    {pieces : List String} :
    splitOn sep s = pieces ↔
      pieces ≠ [] ∧ (∀ piece ∈ pieces, c ∉ piece.toList) ∧ sep.intercalate pieces = s := by
  have hid : String.toList ∘ String.ofList = id := funext fun _ => String.toList_ofList
  -- For a separator of one letter the library's splitting is the same.
  rw [splitOn, h, splitFrom_singleton]
  constructor
  · rintro rfl
    refine ⟨by simp [List.splitOn_ne_nil], ?_, ?_⟩
    · intro piece hpiece
      obtain ⟨chars, hchars, rfl⟩ := List.mem_map.mp hpiece
      rw [String.toList_ofList]
      exact not_mem_of_mem_splitOn hchars
    · rw [← String.toList_inj, String.toList_intercalate, h, List.map_map, hid, List.map_id,
        List.intercalate_splitOn]
  · rintro ⟨hne, hwithout, rfl⟩
    have hpieces : ∀ piece ∈ pieces.map String.toList, c ∉ piece := by simpa using hwithout
    rw [String.toList_intercalate, h, List.splitOn_intercalate c hpieces (by simpa using hne)]
    simp

/-- Texts with a separator between them have the pieces of the first and then those of the second.
-/
theorem splitOn_append {sep : String} {c : Char} (h : sep.toList = [c]) (s t : String) :
    splitOn sep (s ++ sep ++ t) = splitOn sep s ++ splitOn sep t := by
  have hpieces : (s.toList ++ c :: t.toList).splitOn c =
      s.toList.splitOn c ++ t.toList.splitOn c :=
    List.splitOnP_append_cons _ _ (beq_self_eq_true c)
  simp only [splitOn, String.toList_append, h, splitFrom_singleton, List.append_assoc,
    List.singleton_append, hpieces, List.map_append]

end SidecarInjection.Text
