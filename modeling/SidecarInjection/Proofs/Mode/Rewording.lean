import Mathlib.Logic.Relation
import SidecarInjection.Mode.Builtin
import SidecarInjection.Proofs.Mode.Request
import SidecarInjection.Proofs.Text.Trim

/-!
# `SidecarInjection.Proofs.Mode.Rewording`: requests that enable the same modes

A request consists of the entries between its commas. `Asks` says which modes the entries ask
for. A single entry may ask for the default mode: when it is blank, or when it names a mode that
brings the default mode with it. Two or more entries ask for the modes that they name and for
nothing else. So it does not matter how they name them, and `Rewords` lists what may change: the
order of the entries, how often each is there, the white space around them, and entries that name
no registered mode.

* `Registry.entries_iff`: the entries of a request.
* `Registry.isEnabled_iff_asks`: the modes that a request enables are those that it asks for.
* `Registry.Rewords.mem_iff`, `Registry.mem_iff_of_reworded`: one change, and a run of changes,
  leave the registered modes that are named.
* `Registry.resolve_asks`: what a request enables, and which requests enable the same.
-/

set_option autoImplicit false

namespace SidecarInjection.Registry

open Text (Blank Trimmed)

/-! ### Statements -/

/-- The entries of a request: texts without commas that make it up, with commas between them. -/
def Entries (requested : String) (entries : List String) : Prop :=
  entries ≠ [] ∧ (∀ entry ∈ entries, ',' ∉ entry.toList) ∧ ",".intercalate entries = requested

/-- The entries of a request ask for the mode of a key. -/
inductive Asks (r : Registry) : List String → String → Prop
  /-- A blank request asks for the default mode. -/
  | blank {entry key : String} (hblank : Blank entry) (hdefault : r.defaultMode? = some key) :
      Asks r [entry] key
  /-- A single entry asks for the mode that it names. -/
  | sole {entry key : String} (hfilled : ¬ Blank entry) (hname : Trimmed entry key) :
      Asks r [entry] key
  /-- A single entry asks for the default mode too, if the mode that it names says so. -/
  | brought {entry key : String} {mode : Mode} (hfilled : ¬ Blank entry) (hmode : mode ∈ r.modes)
      (hname : Trimmed entry mode.key) (hbrings : mode.enablesDefault = true)
      (hdefault : r.defaultMode? = some key) : Asks r [entry] key
  /-- Several entries ask for the modes that they name. -/
  | several {entries : List String} {entry key : String} (hseveral : 2 ≤ entries.length)
      (hentry : entry ∈ entries) (hname : Trimmed entry key) : Asks r entries key

/-- A change of the entries of a request that leaves the registered modes which they name. -/
inductive Rewords (r : Registry) : List String → List String → Prop
  /-- The entries stand in another order. -/
  | permuted {entries others : List String} (h : entries.Perm others) : Rewords r entries others
  /-- An entry is there once more. -/
  | repeated {entry : String} {entries : List String} (h : entry ∈ entries) :
      Rewords r entries (entry :: entries)
  /-- An entry has other white space around it. -/
  | respaced {entry other name : String} {entries : List String} (h : Trimmed entry name)
      (hother : Trimmed other name) : Rewords r (entry :: entries) (other :: entries)
  /-- An entry that names no registered mode is put in. -/
  | unknown {entry name : String} {entries : List String} (h : Trimmed entry name)
      (hunknown : name ∉ r.keys) : Rewords r entries (entry :: entries)

/-! ### Flags -/

variable {r : Registry} {requested key : String} {entries others : List String}

/-- There is one flag for each registered mode. -/
theorem perm_keys_resolve (hnodup : r.keys.Nodup) (requested : String) :
    (Dict.keys (r.resolve requested).flags).Perm r.keys :=
  (List.perm_ext_iff_of_nodup (r.sorted_resolve requested).nodup_keys hnodup).mpr
    (r.covers_resolve requested)

/-! ### What entries ask for -/

/-- The entries of a request are what stands between its commas. -/
theorem entries_iff : Entries requested entries ↔ Text.splitOn "," requested = entries :=
  (Text.splitOn_eq_iff rfl).symm

/-- The names of a request are its entries without white space at their ends. -/
theorem requestedNames_eq (h : Entries requested entries) :
    requestedNames requested = entries.map Text.trim := by
  rw [requestedNames, entries_iff.mp h]

/-- The names in entries are what is left of these without the white space. -/
theorem mem_names_iff :
    key ∈ entries.map Text.trim ↔ ∃ entry ∈ entries, Trimmed entry key := by
  simp only [List.mem_map, Text.trim_eq_iff]

/-- Of several entries, each asks for the mode that it names and for nothing else. -/
theorem asks_iff_of_several (h : 2 ≤ entries.length) :
    r.Asks entries key ↔ ∃ entry ∈ entries, Trimmed entry key := by
  constructor
  · intro hasks
    cases hasks with
    | several _ hentry hname => exact ⟨_, hentry, hname⟩
    | blank | sole | brought => exact absurd h (by simp)
  · rintro ⟨entry, hentry, hname⟩
    exact .several h hentry hname

/-- A name brings the default mode when its mode says so. With different keys, only one mode can
have the name. -/
theorem brings_iff (hnodup : r.keys.Nodup) {name : String} :
    r.Brings name ↔ ∃ mode ∈ r.modes, mode.key = name ∧ mode.enablesDefault = true := by
  constructor
  · rintro ⟨mode, hmode, hbrings⟩
    exact ⟨mode, List.mem_of_find?_eq_some hmode, key_eq_of_get? hmode, hbrings⟩
  · rintro ⟨mode, hmode, rfl, hbrings⟩
    exact ⟨mode, get?_key_of_mem hnodup hmode, hbrings⟩

/-- What a single entry asks for depends on its name, which is empty where the entry is blank. -/
theorem asks_iff_of_sole (hnodup : r.keys.Nodup) {entry name : String} (h : Trimmed entry name) :
    r.Asks [entry] key ↔
      (name = "" ∧ r.defaultMode? = some key) ∨ (name ≠ "" ∧ key = name) ∨
        (name ≠ "" ∧ r.Brings name ∧ r.defaultMode? = some key) := by
  have hunique : ∀ {other}, Trimmed entry other → name = other :=
    fun hother => (Text.trim_eq_iff.mpr h).symm.trans (Text.trim_eq_iff.mpr hother)
  have hblank : Blank entry ↔ name = "" := by
    rw [← Text.trim_eq_empty_iff, Text.trim_eq_iff.mpr h]
  rw [brings_iff hnodup]
  -- A single entry is never one of several, so `Asks.several` drops out.
  constructor
  · intro hasks
    cases hasks with
    | blank hempty hdefault => exact .inl ⟨hblank.mp hempty, hdefault⟩
    | sole hfilled hname => exact .inr (.inl ⟨mt hblank.mpr hfilled, (hunique hname).symm⟩)
    | brought hfilled hmode hname hbrings hdefault =>
      exact .inr (.inr ⟨mt hblank.mpr hfilled, ⟨_, hmode, (hunique hname).symm, hbrings⟩, hdefault⟩)
    | several hseveral => exact absurd hseveral (by simp)
  · rintro (⟨hempty, hdefault⟩ | ⟨hfilled, rfl⟩ | ⟨hfilled, ⟨mode, hmode, rfl, hbrings⟩, hdefault⟩)
    · exact .blank (hblank.mpr hempty) hdefault
    · exact .sole (mt hblank.mp hfilled) h
    · exact .brought (mt hblank.mp hfilled) hmode h hbrings hdefault

/-- A request enables the registered modes that its entries ask for. -/
theorem isEnabled_iff_asks (hnodup : r.keys.Nodup) (h : Entries requested entries) :
    (r.resolve requested).isEnabled key = true ↔ key ∈ r.keys ∧ r.Asks entries key := by
  rw [isEnabled_resolve_iff, requestedNames_eq h]
  -- The rules for a single entry and for several ones have nothing in common.
  match entries, h.1 with
  | [entry], _ =>
    rw [asks_iff_of_sole hnodup (Text.trimmed_trim entry), List.map_singleton]
    generalize Text.trim entry = name
    simp only [List.cons.injEq, and_true, ne_eq, List.mem_singleton, exists_eq_left']
    constructor
    · rintro (⟨hempty, hdefault⟩ | ⟨hfilled, hname, hknown⟩ | ⟨hfilled, hbrings, hdefault⟩)
      · exact ⟨mem_keys_of_defaultMode? hdefault, .inl ⟨hempty, hdefault⟩⟩
      · exact ⟨hknown, .inr (.inl ⟨hfilled, hname⟩)⟩
      · exact ⟨mem_keys_of_defaultMode? hdefault, .inr (.inr ⟨hfilled, hbrings, hdefault⟩)⟩
    · rintro ⟨hknown, ⟨hempty, hdefault⟩ | ⟨hfilled, hname⟩ | ⟨hfilled, hbrings, hdefault⟩⟩
      · exact .inl ⟨hempty, hdefault⟩
      · exact .inr (.inl ⟨hfilled, hname, hknown⟩)
      · exact .inr (.inr ⟨hfilled, hbrings, hdefault⟩)
  | first :: second :: rest, _ =>
    -- There are too many names for any of the rules for single ones.
    rw [asks_iff_of_several (by simp), ← mem_names_iff]
    simp only [List.map_cons, List.cons.injEq, reduceCtorEq, and_false, false_and, exists_false,
      or_false, false_or, ne_eq, not_false_eq_true, true_and]
    exact and_comm

/-! ### Changes of the entries -/

/-- A change leaves the registered modes that are named. -/
theorem Rewords.mem_iff (h : r.Rewords entries others) (hkey : key ∈ r.keys) :
    key ∈ entries.map Text.trim ↔ key ∈ others.map Text.trim := by
  cases h with
  | permuted h => exact (h.map Text.trim).mem_iff
  | @repeated entry entries h =>
    have hnamed : Text.trim entry ∈ entries.map Text.trim := List.mem_map_of_mem h
    rw [List.map_cons, List.mem_cons]
    constructor
    · exact .inr
    · rintro (rfl | hrest)
      · exact hnamed
      · exact hrest
  | respaced h hother =>
    rw [List.map_cons, List.map_cons, Text.trim_eq_iff.mpr h, Text.trim_eq_iff.mpr hother]
  | @unknown entry name entries h hunknown =>
    -- Only registered keys count, so the new name is not the one in question.
    have hne : key ≠ name := by
      rintro rfl
      exact hunknown hkey
    rw [List.map_cons, List.mem_cons, Text.trim_eq_iff.mpr h, or_iff_right hne]

/-- So does a run of changes, forwards and backwards. -/
theorem mem_iff_of_reworded (h : Relation.EqvGen r.Rewords entries others) (hkey : key ∈ r.keys) :
    key ∈ entries.map Text.trim ↔ key ∈ others.map Text.trim := by
  induction h with
  | rel entries others hstep => exact hstep.mem_iff hkey
  | refl entries => exact Iff.rfl
  | symm entries others _ ih => exact ih.symm
  | trans entries middle others _ _ hfirst hsecond => exact hfirst.trans hsecond

/-- Requests of several entries enable the same modes if one can be changed into the other. -/
theorem resolve_eq_of_reworded (hnodup : r.keys.Nodup) {other : String}
    (h : Entries requested entries) (hother : Entries other others) (hseveral : 2 ≤ entries.length)
    (hseveralOther : 2 ≤ others.length) (hreworded : Relation.EqvGen r.Rewords entries others) :
    r.resolve requested = r.resolve other := by
  refine EnabledModes.eq_of_isEnabled (r.sorted_resolve _) (r.sorted_resolve _) (fun key => ?_)
    fun key => ?_
  · rw [r.covers_resolve requested key, r.covers_resolve other key]
  · -- Both ends have several entries, so names decide. In between there may be single ones.
    rw [isEnabled_iff_asks hnodup h, isEnabled_iff_asks hnodup hother,
      asks_iff_of_several hseveral, asks_iff_of_several hseveralOther]
    refine and_congr_right fun hkey => ?_
    rw [← mem_names_iff, ← mem_names_iff]
    exact mem_iff_of_reworded hreworded hkey

/-- Every request has entries. It leads to one flag for each registered mode, and enables those
that its entries ask for. Two requests of several entries each lead to the same flags if the
entries of one can be changed into those of the other. On the way there may be any number of
entries. -/
theorem resolve_asks (modes : List Mode) (requested : String) :
    (∃ entries, Entries requested entries) ∧
      (Dict.keys ((ofList modes).resolve requested).flags).Perm (ofList modes).keys ∧
      ∀ entries, Entries requested entries →
        (∀ key, ((ofList modes).resolve requested).isEnabled key = true ↔
          key ∈ (ofList modes).keys ∧ (ofList modes).Asks entries key) ∧
        ∀ other others, Entries other others → 2 ≤ entries.length → 2 ≤ others.length →
          Relation.EqvGen (ofList modes).Rewords entries others →
            (ofList modes).resolve requested = (ofList modes).resolve other := by
  have hnodup := nodup_keys_ofList modes
  refine ⟨⟨_, entries_iff.mpr rfl⟩, perm_keys_resolve hnodup requested, fun entries h => ⟨?_, ?_⟩⟩
  · exact fun key => isEnabled_iff_asks hnodup h
  · exact fun other others hother hseveral hseveralOther hreworded =>
      resolve_eq_of_reworded hnodup h hother hseveral hseveralOther hreworded

/-- The job mode is asked for between blanks, and after the proxy mode, twice and before a mode
that is not there. -/
theorem resolve_asks_sample :
    Entries " job ,proxy" [" job ", "proxy"] ∧
      Entries "proxy,job,job, bogus" ["proxy", "job", "job", " bogus"] ∧
      Relation.EqvGen builtin.Rewords [" job ", "proxy"] ["proxy", "job", "job", " bogus"] ∧
      (builtin.resolve " job ,proxy").isEnabled "job" = true ∧
      builtin.resolve " job ,proxy" = builtin.resolve "proxy,job,job, bogus" := by
  have hentries : Entries " job ,proxy" [" job ", "proxy"] := entries_iff.mpr (by decide +kernel)
  have hothers : Entries "proxy,job,job, bogus" ["proxy", "job", "job", " bogus"] :=
    entries_iff.mpr (by decide +kernel)
  have hspaced : Trimmed " job " "job" := Text.trim_eq_iff.mp (by decide +kernel)
  have hplain : Trimmed "job" "job" := Text.trim_eq_iff.mp (by decide +kernel)
  have hbogus : Trimmed " bogus" "bogus" := Text.trim_eq_iff.mp (by decide +kernel)
  have hreworded :
      Relation.EqvGen builtin.Rewords [" job ", "proxy"] ["proxy", "job", "job", " bogus"] := by
    -- Strip the blanks, repeat a name, add an unknown one, and shuffle.
    refine .trans _ ["job", "proxy"] _ (.rel _ _ (.respaced hspaced hplain)) ?_
    refine .trans _ ["job", "job", "proxy"] _ (.rel _ _ (.repeated (by simp))) ?_
    refine .trans _ [" bogus", "job", "job", "proxy"] _ (.rel _ _ (.unknown hbogus (by decide))) ?_
    exact .rel _ _ (.permuted (by decide))
  have hasks : builtin.Asks [" job ", "proxy"] "job" := .several (by decide) (by simp) hspaced
  obtain ⟨-, -, hresolve⟩ := resolve_asks builtinModes " job ,proxy"
  obtain ⟨henabled, hsame⟩ := hresolve _ hentries
  exact ⟨hentries, hothers, hreworded, (henabled "job").mpr ⟨by decide, hasks⟩,
    hsame _ _ hothers (by decide) (by decide) hreworded⟩

end SidecarInjection.Registry
