import Mathlib.Data.List.TakeWhile
import SidecarInjection.Text.Blank

/-!
# `SidecarInjection.Proofs.Text.Trim`: texts without the white space around them

`Trimmed` says what is left when the white space at both ends of a text is taken away: the text
is put together from it and blank texts, and it begins and ends with something else.

* `trim_eq_iff`: trimming leaves this, and nothing else fits.
* `trim_eq_empty_iff`: nothing is left of blank texts alone.
-/

set_option autoImplicit false

namespace SidecarInjection.Text

/-- A text that holds white space only. -/
def Blank (s : String) : Prop := ∀ c ∈ s.toList, isBlank c = true

/-- A text is another one without the white space at both ends. -/
def Trimmed (s t : String) : Prop :=
  (∃ before after, s = before ++ t ++ after ∧ Blank before ∧ Blank after) ∧
    (∀ c ∈ t.toList.head?, isBlank c = false) ∧ ∀ c ∈ t.toList.getLast?, isBlank c = false

/-- Nothing is dropped when the first character is not blank. -/
theorem dropWhile_of_head? {s : List Char} (h : ∀ c ∈ s.head?, isBlank c = false) :
    s.dropWhile isBlank = s := by
  cases s with
  | nil => rfl
  | cons c rest =>
    have hc : isBlank c = false := h c rfl
    simp [hc]

/-- What is left does not begin with a blank. -/
theorem isBlank_head?_dropWhile {s : List Char} {c : Char}
    (h : c ∈ (s.dropWhile isBlank).head?) : isBlank c = false := by
  have hnot := List.head?_dropWhile_not isBlank s
  rwa [Option.mem_def.mp h] at hnot

/-- White space around a text that neither begins nor ends with it is removed. -/
theorem trimChars_append {before t after : List Char} (hbefore : ∀ c ∈ before, isBlank c = true)
    (hafter : ∀ c ∈ after, isBlank c = true) (hfirst : ∀ c ∈ t.head?, isBlank c = false)
    (hlast : ∀ c ∈ t.getLast?, isBlank c = false) : trimChars (before ++ t ++ after) = t := by
  have hreverse : ∀ c ∈ after.reverse, isBlank c = true := by simpa using hafter
  have hend : t.reverse.dropWhile isBlank = t.reverse :=
    dropWhile_of_head? (by rwa [List.head?_reverse])
  rw [trimChars, List.append_assoc, List.dropWhile_append_of_pos hbefore, List.dropWhile_append,
    dropWhile_of_head? hfirst]
  split
  -- Nothing but blanks is left, so the text in the middle is empty too.
  · rename_i hempty
    obtain rfl := List.isEmpty_iff.mp hempty
    rw [List.dropWhile_eq_nil_iff.mpr hafter]
    rfl
  · rw [List.reverse_append, List.dropWhile_append_of_pos hreverse, hend, List.reverse_reverse]

/-- What is left of a text has no blanks at its ends, and only blanks were cut off. -/
theorem trimmed_trim (s : String) : Trimmed s (trim s) := by
  have hends (l : List Char) : l.takeWhile isBlank ++ l.dropWhile isBlank = l :=
    List.takeWhile_append_dropWhile
  have hleft : s.toList = s.toList.takeWhile isBlank ++ trimChars s.toList ++
      ((s.toList.dropWhile isBlank).reverse.takeWhile isBlank).reverse := by
    rw [trimChars, List.append_assoc, ← List.reverse_append, hends, List.reverse_reverse, hends]
  refine ⟨⟨.ofList (s.toList.takeWhile isBlank),
    .ofList ((s.toList.dropWhile isBlank).reverse.takeWhile isBlank).reverse, ?_, ?_, ?_⟩, ?_, ?_⟩
  · rw [trim, ← String.ofList_append, ← String.ofList_append, ← hleft, String.ofList_toList]
  · intro c hc
    rw [String.toList_ofList] at hc
    exact List.all_eq_true.mp (List.all_takeWhile) c hc
  · intro c hc
    rw [String.toList_ofList, List.mem_reverse] at hc
    exact List.all_eq_true.mp (List.all_takeWhile) c hc
  · -- What is left begins as the text without the white space in front of it.
    intro c hc
    obtain ⟨behind, hbehind⟩ : trimChars s.toList <+: s.toList.dropWhile isBlank := by
      rw [← List.reverse_suffix, trimChars, List.reverse_reverse]
      exact List.dropWhile_suffix isBlank
    rw [trim, String.toList_ofList, Option.mem_def] at hc
    refine isBlank_head?_dropWhile (s := s.toList) ?_
    rw [← hbehind, List.head?_append, hc]
    rfl
  · intro c hc
    rw [trim, String.toList_ofList, trimChars, List.getLast?_reverse] at hc
    exact isBlank_head?_dropWhile hc

/-- Trimming leaves the text without the white space at both ends. -/
theorem trim_eq_iff {s t : String} : trim s = t ↔ Trimmed s t := by
  constructor
  · rintro rfl
    exact trimmed_trim s
  · rintro ⟨⟨before, after, rfl, hbefore, hafter⟩, hfirst, hlast⟩
    rw [trim, String.toList_append, String.toList_append,
      trimChars_append hbefore hafter hfirst hlast, String.ofList_toList]

/-- Nothing is left of a blank text, and of no other. -/
theorem trim_eq_empty_iff {s : String} : trim s = "" ↔ Blank s := by
  rw [trim_eq_iff]
  constructor
  · rintro ⟨⟨before, after, rfl, hbefore, hafter⟩, -, -⟩ c hc
    simp only [String.toList_append, String.toList_empty, List.append_nil, List.mem_append] at hc
    exact hc.elim (hbefore c) (hafter c)
  · intro h
    exact ⟨⟨s, "", by simp, h, nofun⟩, nofun, nofun⟩

end SidecarInjection.Text
