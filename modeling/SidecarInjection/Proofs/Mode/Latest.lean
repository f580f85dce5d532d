import Mathlib.Data.List.Forall2
import Mathlib.Data.List.Induction
import SidecarInjection.Proofs.Mode.Registry

/-!
# `SidecarInjection.Proofs.Mode.Latest`: the mode that a key stands for

A registration puts its mode in the place of the one that had the key, or at the end if none
had it. So after any sequence of registrations a registry is an ordered map. Its keys stand in
the order of their first registrations, and each holds the mode of its last one. `Latest` says
which mode that is, by a split of the sequence and without the registry.

The proofs add one registration at the end of the sequence. `latest_concat`, `mem_place_iff` and
`keys_register` say what it does to the latest modes, to the registered ones and to the keys.

* `Registry.keys_ofList`: the keys, in the order of their first registrations.
* `Registry.forall₂_latest`: the modes, in this order.
* `Registry.get?_eq_some_iff`, `Registry.defaultMode?_eq_some_iff`: what is found in them.
* `Registry.ofList_latest`: all of this, for every sequence of registrations.
-/

set_option autoImplicit false

namespace SidecarInjection.Registry

/-! ### Statements -/

/-- A mode is the one that was registered last under a key. -/
def Latest (modes : List Mode) (key : String) (mode : Mode) : Prop :=
  ∃ earlier later, modes = earlier ++ mode :: later ∧ mode.key = key ∧
    ∀ other ∈ later, other.key ≠ key

/-- A key is the first one, in the order of first registrations, that stands for a default mode
in the end. -/
def FirstDefault (modes : List Mode) (key : String) : Prop :=
  (∃ mode, Latest modes key mode ∧ mode.isDefault = true) ∧
    ∃ before after, (modes.map Mode.key).eraseDups = before ++ key :: after ∧
      ∀ other ∈ before, ∀ mode, Latest modes other mode → mode.isDefault = false

/-! ### The latest mode of a key -/

variable {modes : List Mode} {key : String} {mode : Mode}

/-- One more registration is the latest one of its key, and no other key is concerned. -/
theorem latest_concat {last : Mode} :
    Latest (modes ++ [last]) key mode ↔
      if last.key = key then mode = last else Latest modes key mode := by
  constructor
  · rintro ⟨earlier, later, hsplit, hkey, hlater⟩
    rcases List.eq_nil_or_concat later with rfl | ⟨later, other, rfl⟩
    · -- The mode itself comes last.
      obtain rfl : last = mode := by simpa using (List.append_inj' hsplit rfl).2
      rw [if_pos hkey]
    · rw [List.concat_eq_append, ← List.cons_append, ← List.append_assoc] at hsplit
      obtain ⟨hmodes, hlast⟩ := List.append_inj' hsplit rfl
      obtain rfl : last = other := by simpa using hlast
      rw [if_neg (hlater last (by simp))]
      exact ⟨earlier, later, hmodes, hkey, fun m hm => hlater m (by simp [hm])⟩
  · intro h
    split at h
    · rename_i hkey
      subst h
      exact ⟨modes, [], rfl, hkey, by simp⟩
    · rename_i hkey
      obtain ⟨earlier, later, rfl, hmode, hlater⟩ := h
      refine ⟨earlier, later ++ [last], by simp, hmode, ?_⟩
      simp only [List.forall_mem_append, List.forall_mem_singleton]
      exact ⟨hlater, hkey⟩

/-- The latest mode of a key has that key. -/
theorem Latest.key_eq (h : Latest modes key mode) : mode.key = key := by
  obtain ⟨_, _, -, hkey, -⟩ := h
  exact hkey

/-- It is one of the modes. -/
theorem Latest.mem (h : Latest modes key mode) : mode ∈ modes := by
  obtain ⟨earlier, later, rfl, -, -⟩ := h
  simp

/-- There is one latest mode of a key at most. -/
theorem Latest.unique {other : Mode} (h : Latest modes key mode) (hother : Latest modes key other) :
    mode = other := by
  -- From the end: the last registration settles its own key, the rest settle the others.
  induction modes using List.reverseRecOn with
  | nil => cases h.mem
  | append_singleton modes last ih =>
    rw [latest_concat] at h hother
    split at h
    · rename_i hkey
      rw [if_pos hkey] at hother
      exact h.trans hother.symm
    · rename_i hkey
      rw [if_neg hkey] at hother
      exact ih h hother

/-! ### Registered modes -/

/-- The last mode of a sequence is registered in what the others lead to. -/
theorem ofList_concat (modes : List Mode) (last : Mode) :
    ofList (modes ++ [last]) = (ofList modes).register last := by
  rw [ofList, List.foldl_append, List.foldl_cons, List.foldl_nil, ofList]

/-- Where no two modes have the same key, placing a mode adds it and removes the one of its key. -/
theorem mem_place_iff {m : Mode} (h : (modes.map Mode.key).Nodup) :
    m ∈ place mode modes ↔ m = mode ∨ (m ∈ modes ∧ m.key ≠ mode.key) := by
  induction modes with
  | nil => simp [place]
  | cons first rest ih =>
    obtain ⟨hfirst, hrest⟩ := List.nodup_cons.mp h
    by_cases hkey : first.key = mode.key
    · -- The modes behind the one that is replaced have other keys.
      have hothers : ∀ m ∈ rest, m.key ≠ mode.key := by
        intro m hm heq
        exact hfirst (List.mem_map.mpr ⟨m, hm, heq.trans hkey.symm⟩)
      rw [place, if_pos hkey, List.mem_cons, List.mem_cons]
      constructor
      · rintro (hm | hm)
        · exact .inl hm
        · exact .inr ⟨.inr hm, hothers m hm⟩
      · rintro (hm | ⟨rfl | hm, hne⟩)
        · exact .inl hm
        · exact absurd hkey hne
        · exact .inr hm
    · rw [place, if_neg hkey, List.mem_cons, ih hrest, List.mem_cons]
      constructor
      · rintro (rfl | hm | ⟨hm, hne⟩)
        · exact .inr ⟨.inl rfl, hkey⟩
        · exact .inl hm
        · exact .inr ⟨.inr hm, hne⟩
      · rintro (hm | ⟨rfl | hm, hne⟩)
        · exact .inr (.inl hm)
        · exact .inl rfl
        · exact .inr (.inr ⟨hm, hne⟩)

/-- A key that was there before adds nothing to the order of first appearance. -/
theorem eraseDups_concat (keys : List String) (last : String) :
    (keys ++ [last]).eraseDups =
      if last ∈ keys then keys.eraseDups else keys.eraseDups ++ [last] := by
  rw [List.eraseDups_append, List.removeAll, List.filter_singleton]
  by_cases hmem : last ∈ keys
  · simp [hmem]
  · simp [hmem, List.eraseDups_cons]

/-- The keys stand in the order in which they were first registered. -/
theorem keys_ofList (modes : List Mode) :
    (ofList modes).keys = (modes.map Mode.key).eraseDups := by
  induction modes using List.reverseRecOn with
  | nil => rfl
  | append_singleton modes last ih =>
    have hknown : last.key ∈ (ofList modes).keys ↔ last.key ∈ modes.map Mode.key := by
      rw [mem_keys_ofList, List.mem_map]
    rw [ofList_concat, keys_register, List.map_append, List.map_singleton, eraseDups_concat]
    simp only [hknown]
    rw [ih]

/-- Every mode of a registry is the latest one of its key. -/
theorem latest_of_mem (h : mode ∈ (ofList modes).modes) : Latest modes mode.key mode := by
  induction modes using List.reverseRecOn with
  | nil => cases h
  | append_singleton modes last ih =>
    rw [ofList_concat] at h
    rw [latest_concat]
    -- Distinct keys are what makes every other mode keep its place and its key.
    rcases (mem_place_iff (nodup_keys_ofList modes)).mp h with rfl | ⟨hmem, hne⟩
    · rw [if_pos rfl]
    · rw [if_neg hne.symm]
      exact ih hmem

/-- Each key stands for the mode that was registered last under it. -/
theorem forall₂_latest (modes : List Mode) :
    List.Forall₂ (Latest modes) (modes.map Mode.key).eraseDups (ofList modes).modes := by
  rw [← keys_ofList, keys, List.forall₂_map_left_iff, List.forall₂_same]
  exact fun mode hmode => latest_of_mem hmode

/-! ### What is found -/

/-- The mode of a key is the latest one. -/
theorem get?_eq_some_iff : (ofList modes).get? key = some mode ↔ Latest modes key mode := by
  constructor
  · intro h
    have hlatest := latest_of_mem (List.mem_of_find?_eq_some h)
    rwa [key_eq_of_get? h] at hlatest
  · intro h
    -- Some mode is found, as the key is registered. It is a latest one, and there is only one.
    have hknown : key ∈ (ofList modes).keys := mem_keys_ofList.mpr ⟨mode, h.mem, h.key_eq⟩
    obtain ⟨found, hfound⟩ := mem_keys_iff_get?.mp hknown
    have hlatest := latest_of_mem (List.mem_of_find?_eq_some hfound)
    rw [key_eq_of_get? hfound] at hlatest
    rw [hfound, h.unique hlatest]

/-- A key without any mode stands for nothing. -/
theorem get?_eq_none_iff : (ofList modes).get? key = none ↔ ∀ mode ∈ modes, mode.key ≠ key := by
  have hknown : key ∈ (ofList modes).keys ↔ (ofList modes).get? key ≠ none := by
    rw [mem_keys_iff_get?, Option.ne_none_iff_exists']
  rw [← not_iff_not, ← Ne, ← hknown, mem_keys_ofList]
  simp

/-- The default mode is the first one, in the order of the keys, that says so. -/
theorem defaultMode?_eq_some_iff :
    (ofList modes).defaultMode? = some key ↔ FirstDefault modes key := by
  have hkeys : (modes.map Mode.key).eraseDups = (ofList modes).modes.map Mode.key :=
    (keys_ofList modes).symm
  rw [defaultMode?, Option.map_eq_some_iff, FirstDefault, hkeys]
  constructor
  · rintro ⟨mode, hfind, rfl⟩
    have hlatest := latest_of_mem (List.mem_of_find?_eq_some hfind)
    obtain ⟨hdefault, before, after, hsplit, hbefore⟩ := List.find?_eq_some_iff_append.mp hfind
    refine ⟨⟨mode, hlatest, hdefault⟩, before.map Mode.key, after.map Mode.key, ?_, ?_⟩
    · rw [hsplit, List.map_append, List.map_cons]
    · intro other hother latest hlatest
      obtain ⟨m, hm, rfl⟩ := List.mem_map.mp hother
      have hmem : m ∈ (ofList modes).modes := by simp [hsplit, hm]
      rw [hlatest.unique (latest_of_mem hmem)]
      simpa using hbefore m hm
  · rintro ⟨⟨mode, hlatest, hdefault⟩, before, after, hsplit, hbefore⟩
    obtain ⟨front, rest, hmodes, rfl, hrest⟩ := List.map_eq_append_iff.mp hsplit
    obtain ⟨found, back, rfl, hfound, -⟩ := List.map_eq_cons_iff.mp hrest
    -- The mode in this place is the latest one of its key, so it is the default mode.
    have hmem : ∀ m ∈ front ++ found :: back, Latest modes m.key m :=
      fun m hm => latest_of_mem (hmodes ▸ hm)
    have hsame : Latest modes key found := hfound ▸ hmem found (by simp)
    rw [← hsame.unique hlatest] at hdefault
    refine ⟨found, List.find?_eq_some_iff_append.mpr ⟨hdefault, front, back, hmodes, ?_⟩, hfound⟩
    intro m hm
    rw [hbefore m.key (List.mem_map_of_mem hm) m (hmem m (by simp [hm]))]
    rfl

/-- After any sequence of registrations, the keys of a registry are distinct and stand in the
order in which they were first registered. Each of them holds the mode that was registered last
under it. A key finds this mode, and a key that was never registered finds none. The default
mode is the first one in this order, and the annotation keys are those of the latest modes, in
this order. -/
theorem ofList_latest (modes : List Mode) :
    (ofList modes).keys.Nodup ∧
      (ofList modes).keys = (modes.map Mode.key).eraseDups ∧
      List.Forall₂ (Latest modes) (ofList modes).keys (ofList modes).modes ∧
      (∀ key mode, (ofList modes).get? key = some mode ↔ Latest modes key mode) ∧
      (∀ key, (ofList modes).get? key = none ↔ ∀ mode ∈ modes, mode.key ≠ key) ∧
      (∀ key, (ofList modes).defaultMode? = some key ↔ FirstDefault modes key) ∧
      ∃ latest, List.Forall₂ (Latest modes) (modes.map Mode.key).eraseDups latest ∧
        (ofList modes).annotationKeys = latest.flatMap Mode.annotationKeys := by
  have hlatest := forall₂_latest modes
  refine ⟨nodup_keys_ofList modes, keys_ofList modes, ?_, fun _ _ => get?_eq_some_iff,
    fun _ => get?_eq_none_iff, fun _ => defaultMode?_eq_some_iff, _, hlatest, rfl⟩
  rw [keys_ofList]
  exact hlatest

end SidecarInjection.Registry
