import SidecarInjection.Proofs.Context.Modes
import SidecarInjection.Proofs.Mode.Registry
import SidecarInjection.Proofs.Text.Split

/-!
# `SidecarInjection.Proofs.Mode.Request`: the modes that a request enables

A request is a list of names. Each name enables the mode of that key, if there is one. Two kinds
of requests also enable the default mode: a blank one, and one whose only name is that of a mode
that brings the default mode with it.

* `Registry.isEnabled_enableRequested`, `Registry.isEnabled_foldl`: what one name enables, and
  what several names enable.
* `Registry.isEnabled_resolve_iff`: what a request enables.
-/

set_option autoImplicit false

namespace SidecarInjection

namespace Dict

variable {α : Type}

/-- Entries that all have the same value give it to their keys. -/
theorem get?_foldl_insert_of_forall {value : α} {entries : List (String × α)}
    (h : ∀ e ∈ entries, e.2 = value) (d : Dict α) (key : String) :
    get? (entries.foldl (fun d e => insert d e.1 e.2) d) key =
      if key ∈ entries.map Prod.fst then some value else get? d key := by
  induction entries generalizing d with
  | nil => rfl
  | cons e rest ih =>
    obtain ⟨he, hrest⟩ := List.forall_mem_cons.mp h
    have hmem : key ∈ (e :: rest).map Prod.fst ↔ key = e.1 ∨ key ∈ rest.map Prod.fst :=
      List.mem_cons
    rw [List.foldl_cons, ih hrest, get?_insert, he]
    -- A later entry for the same key holds the same value, so which one is last does not matter.
    by_cases hkey : key = e.1
    · simp [hkey]
    · simp only [hmem, hkey, false_or, if_false]

end Dict

namespace EnabledModes

/-- A mode that is enabled stays so, whatever else is. -/
theorem isEnabled_enable {m : EnabledModes} {key other : String} :
    (m.enable key).isEnabled other = true ↔ other = key ∨ m.isEnabled other = true := by
  unfold isEnabled enable
  rw [Dict.get?_insert]
  by_cases hkey : other = key
  · simp [hkey]
  · simp [hkey]

end EnabledModes

namespace Registry

variable {r : Registry} {enabled : EnabledModes} {key name : String}

/-- To begin with, no mode is enabled. -/
theorem isEnabled_noneEnabled (r : Registry) (key : String) :
    r.noneEnabled.isEnabled key = false := by
  have hnone : ∀ e ∈ r.modes.map fun m => (m.key, false), e.2 = false := by simp
  unfold EnabledModes.isEnabled noneEnabled Dict.ofEntries
  rw [Dict.get?_foldl_insert_of_forall hnone]
  split <;> rfl

/-- Enabling a default enables that one, if there is one. -/
theorem isEnabled_enableSome {default : Option String} :
    (enableSome enabled default).isEnabled key = true ↔
      default = some key ∨ enabled.isEnabled key = true := by
  cases default with
  | none => simp [enableSome]
  | some d => rw [enableSome, EnabledModes.isEnabled_enable, Option.some.injEq, eq_comm]

/-- A name brings the default mode with it. -/
def Brings (r : Registry) (name : String) : Prop :=
  ∃ mode, r.get? name = some mode ∧ mode.enablesDefault = true

/-- A name enables the mode of that key. If it is requested alone, it may bring the default mode
with it. -/
theorem isEnabled_enableRequested {alone : Bool} :
    (r.enableRequested alone enabled name).isEnabled key = true ↔
      enabled.isEnabled key = true ∨ (key = name ∧ name ∈ r.keys) ∨
        (alone = true ∧ r.Brings name ∧ r.defaultMode? = some key) := by
  unfold enableRequested
  cases hmode : r.get? name with
  | none =>
    -- An unknown name enables nothing, and brings nothing either.
    have hunknown : name ∉ r.keys := fun h => by
      obtain ⟨mode, hknown⟩ := mem_keys_iff_get?.mp h
      cases hmode.symm.trans hknown
    simp [hunknown, Brings, hmode]
  | some mode =>
    have hkey := key_eq_of_get? hmode
    have hknown : name ∈ r.keys := mem_keys_iff_get?.mpr ⟨mode, hmode⟩
    have hbrings : r.Brings name ↔ mode.enablesDefault = true := by simp [Brings, hmode]
    dsimp only
    rw [hbrings, and_iff_left hknown, hkey]
    split
    · rename_i hboth
      obtain ⟨halone, hdefault⟩ := Bool.and_eq_true_iff.mp hboth
      rw [isEnabled_enableSome, EnabledModes.isEnabled_enable, halone, hdefault]
      tauto
    · rename_i hboth
      rw [Bool.and_eq_true] at hboth
      rw [EnabledModes.isEnabled_enable]
      tauto

/-- Several names enable the modes of these keys. -/
theorem isEnabled_foldl {names : List String} :
    (names.foldl (r.enableRequested false) enabled).isEnabled key = true ↔
      enabled.isEnabled key = true ∨ (key ∈ names ∧ key ∈ r.keys) := by
  -- The names that were read before have enabled what `enabled` says.
  induction names generalizing enabled with
  | nil => simp
  | cons name rest ih =>
    rw [List.foldl_cons, ih, isEnabled_enableRequested, List.mem_cons]
    constructor
    · rintro ((hbefore | ⟨rfl, hknown⟩ | ⟨hfalse, -⟩) | ⟨hrest, hknown⟩)
      · exact .inl hbefore
      · exact .inr ⟨.inl rfl, hknown⟩
      · cases hfalse
      · exact .inr ⟨.inr hrest, hknown⟩
    · rintro (hbefore | ⟨rfl | hrest, hknown⟩)
      · exact .inl (.inl hbefore)
      · exact .inl (.inr (.inl ⟨rfl, hknown⟩))
      · exact .inr ⟨hrest, hknown⟩

/-- A request has a name, if only an empty one. -/
theorem requestedNames_ne_nil (requested : String) : requestedNames requested ≠ [] := by
  rw [requestedNames, Ne, List.map_eq_nil_iff, Text.splitOn, List.map_eq_nil_iff]
  exact Text.splitFrom_ne_nil _ _ _

/-- A request enables the registered modes that it names. A blank one enables the default mode
instead, and one whose only name brings the default mode with it enables that mode too. -/
theorem isEnabled_resolve_iff {requested : String} :
    (r.resolve requested).isEnabled key = true ↔
      (requestedNames requested = [""] ∧ r.defaultMode? = some key) ∨
      (requestedNames requested ≠ [""] ∧ key ∈ requestedNames requested ∧ key ∈ r.keys) ∨
      ∃ name, requestedNames requested = [name] ∧ name ≠ "" ∧ r.Brings name ∧
        r.defaultMode? = some key := by
  unfold resolve
  dsimp only
  generalize hnames : requestedNames requested = names
  -- One entry is the special case: it is blank, or it is alone and may bring the default mode.
  match names with
  | [] => exact absurd hnames (requestedNames_ne_nil requested)
  | [name] =>
    by_cases hblank : name = ""
    · subst hblank
      rw [if_pos rfl, isEnabled_enableSome, isEnabled_noneEnabled]
      simp
    · have hone : [name] ≠ [""] := by simpa using hblank
      rw [if_neg hone, List.foldl_cons, List.foldl_nil, isEnabled_enableRequested,
        isEnabled_noneEnabled]
      constructor
      · rintro (hnone | ⟨rfl, hknown⟩ | ⟨-, hbrings, hdefault⟩)
        · cases hnone
        · exact .inr (.inl ⟨hone, List.mem_singleton_self _, hknown⟩)
        · exact .inr (.inr ⟨name, rfl, hblank, hbrings, hdefault⟩)
      · rintro (⟨hunit, -⟩ | ⟨-, hmem, hknown⟩ | ⟨_, hunit, -, hbrings, hdefault⟩)
        · exact absurd hunit hone
        · obtain rfl := List.mem_singleton.mp hmem
          exact .inr (.inl ⟨rfl, hknown⟩)
        · cases hunit
          exact .inr (.inr ⟨rfl, hbrings, hdefault⟩)
  | first :: second :: rest =>
    have halone : decide ((first :: second :: rest).length = 1) = false := by simp
    rw [if_neg (by simp), halone, isEnabled_foldl, isEnabled_noneEnabled]
    simp

end Registry

end SidecarInjection
