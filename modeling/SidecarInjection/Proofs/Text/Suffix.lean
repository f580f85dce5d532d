import SidecarInjection.Text.Search

/-!
# `SidecarInjection.Proofs.Text.Suffix`: suffixes removed from a text

A text ends in a number of copies of a suffix, and `dropSuffixes` removes all of them. What is
left is determined by this, so a text that does not end in the suffix stays as it is, and one
more copy makes no difference.

* `exists_copies`, `dropFronts_copies`: copies in front of a list, and their removal.
* `dropSuffixes_eq`, `exists_dropSuffixes`: what is left of a text.
* `dropSuffixes_append`: one more copy.
-/

set_option autoImplicit false

namespace SidecarInjection.Text

/-! ### Copies in front of a list -/

/-- A list repeated. -/
def copies (times : Nat) (s : List Char) : List Char := (List.replicate times s).flatten

/-- One more copy stands in front of the others. -/
theorem copies_succ (times : Nat) (s : List Char) : copies (times + 1) s = s ++ copies times s := by
  rw [copies, List.replicate_succ, List.flatten_cons, copies]

/-- It may as well stand behind them. -/
theorem copies_succ_last (times : Nat) (s : List Char) :
    copies (times + 1) s = copies times s ++ s := by
  rw [copies, List.replicate_succ', List.flatten_concat, copies]

/-- Copies are reversed one by one. -/
theorem reverse_copies (times : Nat) (s : List Char) :
    (copies times s).reverse = copies times s.reverse := by
  rw [copies, List.reverse_flatten, List.map_replicate, List.reverse_replicate, copies]

/-- There are no more copies than characters, as each has one at least. This bounds how often a
suffix can be cut off. -/
theorem le_length_copies (times : Nat) {s : List Char} (h : s ≠ []) :
    times ≤ (copies times s).length := by
  have hpos : 1 ≤ s.length := List.length_pos_iff.mpr h
  calc times = times * 1 := (Nat.mul_one times).symm
    _ ≤ times * s.length := Nat.mul_le_mul_left times hpos
    _ = (copies times s).length := by simp [copies]

/-- Every list starts with some copies, and no further one. -/
theorem exists_copies {front : List Char} (h : front ≠ []) (s : List Char) :
    ∃ times rest, s = copies times front ++ rest ∧ ¬ front <+: rest := by
  -- A copy that is there makes the list shorter.
  induction hlength : s.length using Nat.strongRecOn generalizing s with
  | _ length ih =>
    by_cases hstarts : front <+: s
    · obtain ⟨shorter, rfl⟩ := hstarts
      have hpos : 0 < front.length := List.length_pos_iff.mpr h
      have hless : shorter.length < length := by
        rw [← hlength, List.length_append]
        omega
      obtain ⟨times, rest, hshorter, hrest⟩ := ih shorter.length hless shorter rfl
      refine ⟨times + 1, rest, ?_, hrest⟩
      rw [copies_succ, List.append_assoc, ← hshorter]
    · exact ⟨0, s, rfl, hstarts⟩

/-- All copies in front are removed. -/
theorem dropFronts_copies {front rest : List Char} (h : ¬ front <+: rest) {times limit : Nat}
    (hlimit : times ≤ limit) : dropFronts front limit (copies times front ++ rest) = rest := by
  induction times generalizing limit with
  | zero =>
    show dropFronts front limit rest = rest
    cases limit with
    | zero => rfl
    | succ limit => rw [dropFronts, if_neg fun hstarts => h (List.isPrefixOf_iff_prefix.mp hstarts)]
  | succ times ih =>
    -- There is a step left for each copy.
    obtain ⟨fewer, rfl⟩ : ∃ fewer, limit = fewer + 1 := ⟨limit - 1, by omega⟩
    have hstarts : front <+: copies (times + 1) front ++ rest := by
      rw [copies_succ, List.append_assoc]
      exact List.prefix_append _ _
    rw [dropFronts, if_pos (List.isPrefixOf_iff_prefix.mpr hstarts), copies_succ, List.append_assoc,
      List.drop_left, ih (by omega)]

/-! ### Suffixes of a text -/

/-- What stands before all copies of a suffix is left. -/
theorem dropSuffixes_eq {suffix s rest : String} (hsuffix : suffix ≠ "") {times : Nat}
    (hs : s.toList = rest.toList ++ copies times suffix.toList)
    (hrest : ¬ suffix.toList <:+ rest.toList) : dropSuffixes suffix s = rest := by
  have hne : suffix.toList ≠ [] := fun hnil => hsuffix (String.toList_eq_nil_iff.mp hnil)
  -- The limit of the loop is the length, and there are no more copies than letters.
  have hlimit : times ≤ s.toList.length := by
    have hcopies := le_length_copies times hne
    rw [hs, List.length_append]
    omega
  have hreverse : s.toList.reverse = copies times suffix.toList.reverse ++ rest.toList.reverse := by
    rw [hs, List.reverse_append, reverse_copies]
  have hfront : ¬ suffix.toList.reverse <+: rest.toList.reverse :=
    fun hstarts => hrest (List.reverse_prefix.mp hstarts)
  rw [dropSuffixes, hreverse, dropFronts_copies hfront hlimit, List.reverse_reverse,
    String.ofList_toList]

/-- Copies of the suffix are removed until none is left. -/
theorem exists_dropSuffixes {suffix : String} (h : suffix ≠ "") (s : String) :
    (∃ times, s.toList = (dropSuffixes suffix s).toList ++ copies times suffix.toList) ∧
      ¬ suffix.toList <:+ (dropSuffixes suffix s).toList := by
  have hne : suffix.toList.reverse ≠ [] := by
    rw [Ne, List.reverse_eq_nil_iff, String.toList_eq_nil_iff]
    exact h
  -- The copies are counted from the front of the reversed text.
  obtain ⟨times, rest, hs, hrest⟩ := exists_copies hne s.toList.reverse
  have hs : s.toList = (String.ofList rest.reverse).toList ++ copies times suffix.toList := by
    rw [String.toList_ofList, ← List.reverse_reverse (copies times suffix.toList), reverse_copies,
      ← List.reverse_append, ← hs, List.reverse_reverse]
  have hrest : ¬ suffix.toList <:+ (String.ofList rest.reverse).toList := by
    rw [String.toList_ofList, ← List.reverse_prefix, List.reverse_reverse]
    exact hrest
  rw [dropSuffixes_eq h hs hrest]
  exact ⟨⟨times, hs⟩, hrest⟩

/-- A text that does not end in the suffix stays as it is. -/
theorem dropSuffixes_of_not_suffix {suffix s : String} (hsuffix : suffix ≠ "")
    (h : ¬ suffix.toList <:+ s.toList) : dropSuffixes suffix s = s := by
  have hnone : s.toList = s.toList ++ copies 0 suffix.toList := (List.append_nil _).symm
  exact dropSuffixes_eq hsuffix hnone h

/-- One more copy of the suffix makes no difference. -/
theorem dropSuffixes_append {suffix : String} (h : suffix ≠ "") (s : String) :
    dropSuffixes suffix (s ++ suffix) = dropSuffixes suffix s := by
  obtain ⟨⟨times, hs⟩, hrest⟩ := exists_dropSuffixes h s
  have hmore : (s ++ suffix).toList =
      (dropSuffixes suffix s).toList ++ copies (times + 1) suffix.toList := by
    rw [String.toList_append, copies_succ_last, ← List.append_assoc, ← hs]
  exact dropSuffixes_eq h hmore hrest

end SidecarInjection.Text
