import Mathlib.Data.List.Sort
import SidecarInjection.Context.Build
import SidecarInjection.Proofs.Mode.Registry
import SidecarInjection.Proofs.Outcome

/-!
# `SidecarInjection.Proofs.Context.Modes`: the set of enabled modes

The flags of the modes are a sorted dictionary, however they are enabled. So the list
of enabled modes is determined by the set of its keys, and comparing it with a list of
keys compares sets. This holds for any registry.

* `Registry.sorted_resolve`, `Context.sorted_requestedModes`: the flags are sorted.
* `Registry.covers_resolve`: a request sets flags of registered modes.
* `Dict.ofEntries_eq_of_perm`: the order in which flags are first set does not matter.
* `EnabledModes.mem_enabled_iff`: the enabled modes are listed.
* `EnabledModes.isExactly_iff`: the enabled modes are compared as a set.
* `EnabledModes.eq_of_isEnabled`: flags are determined by the modes that they enable.
-/

set_option autoImplicit false

namespace SidecarInjection

/-! ### Entries of sorted dictionaries -/

namespace Dict

variable {α : Type}

/-- In a sorted dictionary each entry holds the value of its key. -/
theorem Sorted.mem_iff {d : Dict α} (h : Sorted d) {e : String × α} :
    e ∈ d ↔ get? d e.1 = some e.2 := by
  induction d with
  | nil => simp
  | cons f rest ih =>
    obtain ⟨hlt, hrest⟩ := sorted_cons.mp h
    rw [List.mem_cons, get?_cons]
    by_cases hf : f.1 = e.1
    · -- The first key is not among the others.
      have habsent : e ∉ rest := fun he => String.lt_irrefl e.1 (hf ▸ hlt e he)
      rw [if_pos hf]
      simp only [habsent, or_false, Option.some.injEq]
      exact ⟨fun he => he ▸ rfl, fun he => Prod.ext hf.symm he.symm⟩
    · rw [if_neg hf, ← ih hrest]
      exact or_iff_right fun he => hf (he ▸ rfl)

/-- The keys of a dictionary are those with a value. -/
theorem mem_keys_iff {d : Dict α} {key : String} : key ∈ keys d ↔ (get? d key).isSome := by
  constructor
  · intro h
    obtain ⟨e, he, rfl⟩ := List.mem_map.mp h
    exact get?_isSome_of_mem he
  · intro h
    obtain ⟨value, hvalue⟩ := Option.isSome_iff_exists.mp h
    obtain ⟨e, he, rfl⟩ := exists_mem_of_get? hvalue
    exact List.mem_map_of_mem he

/-- Insertions one after another keep the order. -/
theorem sorted_foldl_insert {d : Dict α} (h : Sorted d) (entries : List (String × α)) :
    Sorted (entries.foldl (fun d e => insert d e.1 e.2) d) := by
  induction entries generalizing d with
  | nil => exact h
  | cons e rest ih => exact ih (h.insert e.1 e.2)

/-- An insertion adds its key. -/
theorem mem_keys_insert {d : Dict α} {key other : String} {value : α} :
    other ∈ keys (insert d key value) ↔ other = key ∨ other ∈ keys d := by
  rw [mem_keys_iff, get?_insert, mem_keys_iff]
  by_cases hkey : other = key
  · simp [hkey]
  · simp [hkey]

/-- Insertions one after another add their keys and keep the old ones. -/
theorem mem_keys_foldl_insert {d : Dict α} {entries : List (String × α)} {key : String} :
    key ∈ keys (entries.foldl (fun d e => insert d e.1 e.2) d) ↔
      key ∈ keys d ∨ key ∈ entries.map Prod.fst := by
  induction entries generalizing d with
  | nil => simp
  | cons e rest ih =>
    rw [List.foldl_cons, ih, mem_keys_insert, List.map_cons, List.mem_cons]
    tauto

/-- A sorted dictionary has one entry for each of its keys. -/
theorem Sorted.nodup_keys {d : Dict α} (h : Sorted d) : (keys d).Nodup := by
  refine List.pairwise_map.mpr (List.Pairwise.imp (fun {a b} hlt heq => ?_) h)
  exact String.lt_irrefl b.1 (heq ▸ hlt)

/-- A dictionary that is built from entries is in order, whatever their order is. -/
theorem sorted_ofEntries (entries : List (String × α)) : Sorted (ofEntries entries) :=
  sorted_foldl_insert sorted_nil entries

/-- It has the keys of the entries. -/
theorem mem_keys_ofEntries {entries : List (String × α)} {key : String} :
    key ∈ keys (ofEntries entries) ↔ key ∈ entries.map Prod.fst := by
  rw [ofEntries, mem_keys_foldl_insert]
  simp [keys]

/-- Entries that all have the same value make the same dictionary in any order. -/
theorem ofEntries_eq_of_perm {xs ys : List (String × α)} (h : xs.Perm ys) (value : α)
    (hvalue : ∀ e ∈ xs, e.2 = value) : ofEntries xs = ofEntries ys := by
  refine List.Perm.foldl_eq' h (fun x hx y hy d => ?_) []
  by_cases hkey : x.1 = y.1
  · rw [Prod.ext hkey ((hvalue x hx).trans (hvalue y hy).symm)]
  · exact insert_comm d x.2 y.2 hkey

end Dict

/-! ### Sets of modes -/

namespace EnabledModes

variable {m : EnabledModes}

/-- The enabled modes are those of these keys, and no others. -/
def Exactly (m : EnabledModes) (keys : List String) : Prop :=
  ∀ key, m.isEnabled key = true ↔ key ∈ keys

/-- There is a flag for an enabled mode. The converse fails, as the flag may say that the mode is
off. -/
theorem mem_keys_of_isEnabled {key : String} (h : m.isEnabled key = true) :
    key ∈ Dict.keys m.flags := by
  rw [Dict.mem_keys_iff]
  unfold isEnabled at h
  cases hflag : Dict.get? m.flags key with
  | none => simp [hflag] at h
  | some flag => rfl

/-- Sorted flags have one for each mode, so the list of enabled modes has just those that are
enabled. -/
theorem mem_enabled_iff (h : Dict.Sorted m.flags) {key : String} :
    key ∈ m.enabled ↔ m.isEnabled key = true := by
  have hflag : m.isEnabled key = true ↔ Dict.get? m.flags key = some true := by
    rw [isEnabled]
    cases Dict.get? m.flags key <;> simp
  rw [hflag, enabled, List.mem_map]
  constructor
  -- An entry that is there is the one that is looked up, since no key has two of them.
  · rintro ⟨e, he, rfl⟩
    obtain ⟨hmem, htrue⟩ := List.mem_filter.mp he
    rw [h.mem_iff.mp hmem, htrue]
  · intro hget
    exact ⟨(key, true), List.mem_filter.mpr ⟨h.mem_iff.mpr hget, rfl⟩, rfl⟩

/-- The comparison with a list of keys compares sets. -/
theorem isExactly_iff (h : Dict.Sorted m.flags) (keys : List String) :
    m.isExactly keys = true ↔ m.Exactly keys := by
  have hkeys : ∀ key,
      key ∈ Dict.keys (Dict.ofEntries (keys.map fun k => (k, ()))) ↔ key ∈ keys := by
    intro key
    rw [Dict.mem_keys_ofEntries, List.map_map]
    simp
  rw [isExactly, beq_iff_eq]
  constructor
  · intro heq key
    rw [← mem_enabled_iff h, heq, hkeys]
  · intro hexact
    -- Both lists are in ascending order, so their members determine them.
    have henabled : m.enabled.Pairwise (· < ·) := List.pairwise_map.mpr (h.filter _)
    have hordered : (Dict.keys (Dict.ofEntries (keys.map fun k => (k, ())))).Pairwise (· < ·) :=
      List.pairwise_map.mpr (Dict.sorted_ofEntries _)
    refine List.Pairwise.eq_of_mem_iff henabled hordered fun key => ?_
    rw [mem_enabled_iff h, hkeys]
    exact hexact key

/-- Flags of the same modes are the same if they enable the same ones. -/
theorem eq_of_isEnabled {a b : EnabledModes} (ha : Dict.Sorted a.flags)
    (hb : Dict.Sorted b.flags) (hkeys : ∀ key, key ∈ Dict.keys a.flags ↔ key ∈ Dict.keys b.flags)
    (henabled : ∀ key, a.isEnabled key = true ↔ b.isEnabled key = true) : a = b := by
  obtain ⟨first⟩ := a
  obtain ⟨second⟩ := b
  refine congrArg EnabledModes.mk (ha.ext hb fun key => ?_)
  have hkey := hkeys key
  have hflag := henabled key
  rw [Dict.mem_keys_iff, Dict.mem_keys_iff] at hkey
  unfold isEnabled at hflag
  dsimp only at hkey hflag
  -- A flag is there in both or in neither. Where it is there, it says whether the mode is enabled.
  cases hfirst : Dict.get? first key with
  | none =>
    cases hsecond : Dict.get? second key with
    | none => rfl
    | some flag => simp [hfirst, hsecond] at hkey
  | some flag =>
    cases hsecond : Dict.get? second key with
    | none => simp [hfirst, hsecond] at hkey
    | some other =>
      rw [hfirst, hsecond] at hflag
      exact congrArg some (Bool.eq_iff_iff.mpr hflag)

end EnabledModes

/-! ### Flags of registered modes -/

namespace Registry

variable {r : Registry} {enabled : EnabledModes}

/-- There is a flag for each registered mode, and for no other. -/
def Covers (r : Registry) (enabled : EnabledModes) : Prop :=
  ∀ key, key ∈ Dict.keys enabled.flags ↔ key ∈ r.keys

/-- With no mode enabled, there is a flag for each registered mode, and for no other. -/
theorem covers_noneEnabled (r : Registry) : r.Covers r.noneEnabled := by
  intro key
  rw [noneEnabled, Dict.mem_keys_ofEntries, List.map_map]
  exact Iff.rfl

/-- Enabling a registered mode adds no flag. -/
theorem Covers.enable (h : r.Covers enabled) {key : String} (hkey : key ∈ r.keys) :
    r.Covers (enabled.enable key) := by
  intro other
  rw [EnabledModes.enable, Dict.mem_keys_insert, h other]
  exact or_iff_right_of_imp fun heq => heq ▸ hkey

/-- The default mode is a registered one. -/
theorem Covers.enableDefault (h : r.Covers enabled) :
    r.Covers (enableSome enabled r.defaultMode?) := by
  cases hdefault : r.defaultMode? with
  | none => exact h
  | some key => exact h.enable (mem_keys_of_defaultMode? hdefault)

/-- A requested name enables a mode that is there, or nothing. -/
theorem Covers.enableRequested (h : r.Covers enabled) (alone : Bool) (name : String) :
    r.Covers (r.enableRequested alone enabled name) := by
  unfold Registry.enableRequested
  split
  · exact h
  · rename_i mode hmode
    have henabled := h.enable (List.mem_map_of_mem (List.mem_of_find?_eq_some hmode))
    dsimp only
    split
    · exact henabled.enableDefault
    · exact henabled

/-- Neither do any number of requested names add a flag. -/
theorem Covers.enableAll (h : r.Covers enabled) (alone : Bool) (names : List String) :
    r.Covers (names.foldl (r.enableRequested alone) enabled) := by
  induction names generalizing enabled with
  | nil => exact h
  | cons name rest ih => exact ih (h.enableRequested alone name)

/-- Whatever is requested, there is a flag for each registered mode, and for no other. -/
theorem covers_resolve (r : Registry) (requested : String) : r.Covers (r.resolve requested) := by
  unfold resolve
  dsimp only
  split
  · exact r.covers_noneEnabled.enableDefault
  · exact r.covers_noneEnabled.enableAll _ _

end Registry

/-! ### Requests -/

namespace Registry

variable (r : Registry) {enabled : EnabledModes}

/-- A requested name keeps the flags sorted, also when it brings the default mode. -/
theorem sorted_enableRequested (h : Dict.Sorted enabled.flags) (alone : Bool) (name : String) :
    Dict.Sorted (r.enableRequested alone enabled name).flags := by
  unfold enableRequested
  split
  · exact h
  · dsimp only
    split
    · cases r.defaultMode? with
      | none => exact h.insert _ true
      | some key => exact (h.insert _ true).insert key true
    · exact h.insert _ true

/-- Whatever is requested, the flags stay sorted. -/
theorem sorted_resolve (requested : String) : Dict.Sorted (r.resolve requested).flags := by
  have hnone : Dict.Sorted r.noneEnabled.flags := Dict.sorted_ofEntries _
  have hrequested : ∀ (names : List String) (alone : Bool) (enabled : EnabledModes),
      Dict.Sorted enabled.flags →
        Dict.Sorted (names.foldl (r.enableRequested alone) enabled).flags := by
    intro names alone
    -- A name needs nothing of the flags but their order.
    induction names with
    | nil => exact fun _ h => h
    | cons name rest ih => exact fun enabled h => ih _ (r.sorted_enableRequested h alone name)
  unfold resolve
  dsimp only
  split
  · cases r.defaultMode? with
    | none => exact hnone
    | some key => exact hnone.insert key true
  · exact hrequested _ _ _ hnone

end Registry

/-- The flags stay sorted, also when the workload enables the job mode. -/
theorem Context.sorted_requestedModes (registry : Registry) (keys : AnnotationKeys)
    (annotations : Dict String) :
    Dict.Sorted (requestedModes registry keys annotations).flags := by
  unfold requestedModes
  dsimp only
  split
  · exact (registry.sorted_resolve _).insert jobKey true
  · exact registry.sorted_resolve _

end SidecarInjection
