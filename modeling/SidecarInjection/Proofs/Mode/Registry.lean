import Mathlib.Data.List.Nodup
import Mathlib.Data.List.Perm.Basic
import SidecarInjection.Mode.Registry

/-!
# `SidecarInjection.Proofs.Mode.Registry`: what registrations lead to

A registry is built by registering modes one after another, and a mode replaces an earlier
one of its key. So no two modes of it have the same key, and its keys are those of the
registered modes. Where modes of the same key are the same mode, a registry is determined by
the set of registered modes, up to order.

* `Registry.keys_register`: what a registration does to the keys.
* `Registry.nodup_keys_ofList`, `Registry.mem_keys_ofList`: the keys after any registrations.
* `Registry.perm_ofList`: the modes after the same registrations in another order.
* `Registry.get?_eq_of_perm`, `Registry.defaultMode?_eq_of_perm`: what is found in any order.
-/

set_option autoImplicit false

namespace SidecarInjection.Registry

/-! ### Keys -/

/-- A mode takes the place of the one with its key, or comes last. -/
theorem map_key_place (mode : Mode) (modes : List Mode) :
    (place mode modes).map Mode.key =
      if mode.key ∈ modes.map Mode.key then modes.map Mode.key
      else modes.map Mode.key ++ [mode.key] := by
  induction modes with
  | nil => rfl
  | cons m rest ih =>
    by_cases hkey : m.key = mode.key
    · simp [place, hkey]
    · simp only [place, if_neg hkey, List.map_cons, ih, List.mem_cons, Ne.symm hkey, false_or]
      split <;> rfl

/-- A new key is put at the end, and a known one stays where it is. -/
theorem keys_register (r : Registry) (mode : Mode) :
    (r.register mode).keys = if mode.key ∈ r.keys then r.keys else r.keys ++ [mode.key] :=
  map_key_place mode r.modes

/-- So no key is there twice. -/
theorem nodup_keys_register {r : Registry} (h : r.keys.Nodup) (mode : Mode) :
    (r.register mode).keys.Nodup := by
  rw [keys_register]
  split
  · exact h
  · rename_i hnew
    exact List.concat_eq_append ▸ List.Nodup.concat hnew h

/-- Registration adds the key of the mode. -/
theorem mem_keys_register {r : Registry} {mode : Mode} {key : String} :
    key ∈ (r.register mode).keys ↔ key ∈ r.keys ∨ mode.key = key := by
  rw [keys_register]
  split
  · rename_i hknown
    exact ⟨.inl, fun h => h.elim id fun hkey => hkey ▸ hknown⟩
  · rw [List.mem_append, List.mem_singleton, eq_comm (a := key)]

/-- No number of registrations brings a key in twice. -/
theorem nodup_keys_foldl {r : Registry} (h : r.keys.Nodup) (modes : List Mode) :
    (modes.foldl register r).keys.Nodup := by
  induction modes generalizing r with
  | nil => exact h
  | cons mode rest ih => exact ih (nodup_keys_register h mode)

/-- They add the keys of all modes. -/
theorem mem_keys_foldl {r : Registry} {modes : List Mode} {key : String} :
    key ∈ (modes.foldl register r).keys ↔ key ∈ r.keys ∨ ∃ mode ∈ modes, mode.key = key := by
  induction modes generalizing r with
  | nil => simp
  | cons mode rest ih =>
    rw [List.foldl_cons, ih, mem_keys_register, List.exists_mem_cons_iff, or_assoc]

/-- No two modes of a registry have the same key. -/
theorem nodup_keys_ofList (modes : List Mode) : (ofList modes).keys.Nodup :=
  nodup_keys_foldl (r := empty) List.nodup_nil modes

/-- The keys of a registry are those of the registered modes. -/
theorem mem_keys_ofList {modes : List Mode} {key : String} :
    key ∈ (ofList modes).keys ↔ ∃ mode ∈ modes, mode.key = key :=
  mem_keys_foldl.trans (or_iff_right List.not_mem_nil)

/-! ### Modes -/

/-- When a mode of the same key is the same mode, registering it adds it to the set of modes. -/
theorem mem_place {mode m : Mode} {modes : List Mode}
    (h : ∀ other ∈ modes, other.key = mode.key → other = mode) :
    m ∈ place mode modes ↔ m = mode ∨ m ∈ modes := by
  induction modes with
  | nil => simp [place]
  | cons first rest ih =>
    have hrest := ih fun other hother => h other (List.mem_cons_of_mem _ hother)
    by_cases hkey : first.key = mode.key
    · have hfirst := h first List.mem_cons_self hkey
      simp [place, hfirst]
    · simp only [place, if_neg hkey, List.mem_cons, hrest]
      exact or_left_comm

/-- If modes of one key are the same, none is lost: all of them are there in the end. -/
theorem mem_modes_foldl {r : Registry} {modes : List Mode} {m : Mode}
    (h : ∀ a ∈ r.modes ++ modes, ∀ b ∈ r.modes ++ modes, a.key = b.key → a = b) :
    m ∈ (modes.foldl register r).modes ↔ m ∈ r.modes ∨ m ∈ modes := by
  induction modes generalizing r with
  | nil => simp
  | cons mode rest ih =>
    have hmode : ∀ other ∈ r.modes, other.key = mode.key → other = mode :=
      fun other hother => h other (by simp [hother]) mode (by simp)
    have hplace : ∀ {a : Mode}, a ∈ (r.register mode).modes ↔ a = mode ∨ a ∈ r.modes :=
      mem_place hmode
    have hsubset : ∀ {a : Mode}, a ∈ (r.register mode).modes ++ rest →
        a ∈ r.modes ++ mode :: rest := by
      intro a ha
      rw [List.mem_append, hplace] at ha
      rw [List.mem_append, List.mem_cons]
      tauto
    -- The registered mode is one of the sequence, so the keys still tell the modes apart.
    rw [List.foldl_cons, ih fun a ha b hb => h a (hsubset ha) b (hsubset hb), hplace, List.mem_cons]
    tauto

/-- When modes of the same key are the same mode, the modes of a registry are the registered
ones. -/
theorem mem_modes_ofList {modes : List Mode} {m : Mode}
    (hkey : ∀ a ∈ modes, ∀ b ∈ modes, a.key = b.key → a = b) :
    m ∈ (ofList modes).modes ↔ m ∈ modes :=
  (mem_modes_foldl hkey).trans (or_iff_right List.not_mem_nil)

/-- The same modes, each of its own key, lead to the same registry up to order, in whatever
order and however often they are registered. -/
theorem perm_ofList {first second : List Mode}
    (hkey : ∀ a ∈ first, ∀ b ∈ first, a.key = b.key → a = b)
    (hsame : ∀ mode, mode ∈ first ↔ mode ∈ second) :
    (ofList first).modes.Perm (ofList second).modes := by
  refine (List.perm_ext_iff_of_nodup (.of_map Mode.key (nodup_keys_ofList first))
    (.of_map Mode.key (nodup_keys_ofList second))).mpr fun mode => ?_
  rw [mem_modes_ofList hkey, hsame, mem_modes_ofList fun a ha b hb =>
    hkey a ((hsame a).mpr ha) b ((hsame b).mpr hb)]

/-! ### Look-up -/

section

variable {r : Registry} {name : String}

/-- A mode is found under its own key. -/
theorem key_eq_of_get? {mode : Mode} (h : r.get? name = some mode) : mode.key = name := by
  simpa using List.find?_some h

/-- The registered keys are those for which a mode is found. -/
theorem mem_keys_iff_get? : name ∈ r.keys ↔ ∃ mode, r.get? name = some mode := by
  constructor
  · intro h
    obtain ⟨mode, hmode, rfl⟩ := List.mem_map.mp h
    exact Option.isSome_iff_exists.mp (List.find?_isSome.mpr ⟨mode, hmode, by simp⟩)
  · rintro ⟨mode, h⟩
    exact List.mem_map.mpr ⟨mode, List.mem_of_find?_eq_some h, key_eq_of_get? h⟩

/-- A registered mode is what its key stands for, as no other one has the key. -/
theorem get?_key_of_mem (hnodup : r.keys.Nodup) {mode : Mode} (h : mode ∈ r.modes) :
    r.get? mode.key = some mode := by
  obtain ⟨found, hfound⟩ := mem_keys_iff_get?.mp (List.mem_map_of_mem h)
  have hmem : found ∈ r.modes := List.mem_of_find?_eq_some hfound
  rw [hfound, List.inj_on_of_nodup_map hnodup hmem h (key_eq_of_get? hfound)]

/-- The default mode is registered. -/
theorem mem_keys_of_defaultMode? (h : r.defaultMode? = some name) : name ∈ r.keys := by
  obtain ⟨mode, hfind, rfl⟩ := Option.map_eq_some_iff.mp h
  exact List.mem_map_of_mem (List.mem_of_find?_eq_some hfind)

end

/-! ### Another order -/

/-- An item that is the only one to pass a test is found in any order. -/
theorem find?_eq_of_perm {α : Type} {p : α → Bool} {xs ys : List α} (h : xs.Perm ys)
    (honly : ∀ a ∈ xs, ∀ b ∈ xs, p a = true → p b = true → a = b) : xs.find? p = ys.find? p := by
  cases hfound : xs.find? p with
  | none =>
    refine (List.find?_eq_none.mpr fun y hy => ?_).symm
    exact List.find?_eq_none.mp hfound y (h.mem_iff.mpr hy)
  | some x =>
    have hx := List.mem_of_find?_eq_some hfound
    obtain ⟨y, hy⟩ : ∃ y, ys.find? p = some y := Option.isSome_iff_exists.mp
      (List.find?_isSome.mpr ⟨x, h.mem_iff.mp hx, List.find?_some hfound⟩)
    -- Both searches find something, and only one element passes.
    rw [hy, honly x hx y (h.mem_iff.mpr (List.mem_of_find?_eq_some hy)) (List.find?_some hfound)
      (List.find?_some hy)]

variable {r s : Registry}

/-- Modes are found by their keys in any order. -/
theorem get?_eq_of_perm (h : r.modes.Perm s.modes) (hnodup : r.keys.Nodup) : r.get? = s.get? := by
  funext key
  refine find?_eq_of_perm h fun a ha b hb hakey hbkey => ?_
  simp only [decide_eq_true_eq] at hakey hbkey
  exact List.inj_on_of_nodup_map hnodup ha hb (hakey.trans hbkey.symm)

/-- A registry with one default mode at most has the same one in any order. -/
theorem defaultMode?_eq_of_perm (h : r.modes.Perm s.modes)
    (honly : ∀ a ∈ r.modes, ∀ b ∈ r.modes, a.isDefault = true → b.isDefault = true → a = b) :
    r.defaultMode? = s.defaultMode? :=
  congrArg (Option.map Mode.key) (find?_eq_of_perm h honly)

end SidecarInjection.Registry
