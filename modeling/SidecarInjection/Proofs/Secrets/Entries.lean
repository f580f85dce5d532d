import SidecarInjection.Mode.Secrets
import SidecarInjection.Proofs.Outcome
import SidecarInjection.Proofs.Text.Split

/-!
# `SidecarInjection.Proofs.Secrets.Entries`: the lists in the annotations for secrets

The annotations list destinations, paths, templates and commands. The items at one place of
the lists make up an `Entry`, and every entry is rendered to a block of its own.

* `entries`: the entries, with the defaults that stand for lists that are absent.
* `renderBlocks_usedSources`: lists that go together render to the blocks of the entries, one
  below the other.
-/

set_option autoImplicit false

namespace SidecarInjection.Secrets

open Outcome

/-! ### Statements -/

/-- What one block is rendered from. -/
structure Entry where
  destination : String
  path : String
  template : String
  command : String
  deriving DecidableEq

/-- The block of an entry. -/
def Entry.render (block : String) (e : Entry) : String :=
  renderBlock block e.destination e.path e.template e.command

/-- The blocks of entries, each with a line break after it. -/
def renderEntries (block : String) (entries : List Entry) : String :=
  String.join (entries.map fun e => e.render block ++ "\n")

section

variable (config : Config) (keys : AnnotationKeys) (pod : PodLabels)

/-- The destinations that are listed. -/
def listedDestinations : List String := Text.splitOn "," (keys.value pod.annotations destinationKey)

/-- The paths that are listed. -/
def listedPaths : List String := Text.splitOn "," (keys.value pod.annotations pathKey)

/-- The templates that are listed. -/
def listedTemplates : List String := Text.splitOn "---" (keys.value pod.annotations templateKey)

/-- The commands that are listed. -/
def listedCommands : List String := Text.splitOn "," (keys.value pod.annotations notifyKey)

/-- The destinations, or the default one. -/
def usedDestinations : List String :=
  if keys.value pod.annotations destinationKey = "" then ["secrets.properties"]
  else listedDestinations keys pod

/-- The paths, or the default one that the labels make up. -/
def usedPaths : List String :=
  if keys.value pod.annotations pathKey = "" then
    ["secret/" ++ pod.label config.appLabel ++ "/" ++ pod.label config.serviceLabel]
  else listedPaths keys pod

/-- For each destination the path and the template. Without templates of their own they have the
configured one, and a path each. -/
def usedSources : List (String × String) :=
  if keys.value pod.annotations templateKey = "" then
    (usedPaths config keys pod).map fun path => (path, config.templateDefault)
  else (listedTemplates keys pod).map fun template => ("", template)

/-- One entry for each destination. Without templates of their own they have the configured
one, and a path each. Commands that are missing are empty. -/
def entries : List Entry :=
  (usedDestinations keys pod).mapIdx fun i destination =>
    let command := (listedCommands keys pod).getD i ""
    if keys.value pod.annotations templateKey = "" then
      ⟨destination, (usedPaths config keys pod).getD i "", config.templateDefault, command⟩
    else ⟨destination, "", (listedTemplates keys pod).getD i "", command⟩

end

/-! ### The lists -/

/-- A list counts as unset when its text is empty. -/
theorem isUnset_splitOn (sep listed : String) :
    isUnset (Text.splitOn sep listed) = decide (listed = "") := by
  rw [isUnset, Bool.eq_iff_iff, beq_iff_eq, decide_eq_true_iff, Text.splitOn_eq_unit_iff]

/-- Every text has a piece, the empty one as well. -/
theorem length_splitOn_empty (sep : String) : (Text.splitOn sep "").length = 1 := by
  rw [(Text.splitOn_eq_unit_iff sep "").mpr rfl]
  rfl

/-- The default destination is one, like the only piece of the empty text. -/
theorem length_usedDestinations (keys : AnnotationKeys) (pod : PodLabels) :
    (usedDestinations keys pod).length = (listedDestinations keys pod).length := by
  unfold usedDestinations
  split
  · rename_i hempty
    rw [listedDestinations, hempty, length_splitOn_empty]
    rfl
  · rfl

/-- The default path is one too. -/
theorem length_usedPaths (config : Config) (keys : AnnotationKeys) (pod : PodLabels) :
    (usedPaths config keys pod).length = (listedPaths keys pod).length := by
  unfold usedPaths
  split
  · rename_i hempty
    rw [listedPaths, hempty, length_splitOn_empty]
    rfl
  · rfl

/-- The destinations that are worked out are those that are used. -/
theorem destinations_eq (keys : AnnotationKeys) (pod : PodLabels) :
    destinations (keys.value pod.annotations destinationKey) = usedDestinations keys pod := by
  unfold destinations usedDestinations
  simp only [isUnset_splitOn, decide_eq_true_eq]
  rfl

/-! ### Blocks -/

/-- Blocks stand one after another, each with a line break behind it. -/
theorem renderEntries_cons (block : String) (e : Entry) (rest : List Entry) :
    renderEntries block (e :: rest) = e.render block ++ "\n" ++ renderEntries block rest := by
  rw [renderEntries, List.map_cons, String.join_cons]
  rfl

/-- So the blocks of two lists stand one list behind the other. -/
theorem renderEntries_append (block : String) (first second : List Entry) :
    renderEntries block (first ++ second) =
      renderEntries block first ++ renderEntries block second := by
  rw [renderEntries, List.map_append, String.join_append]
  rfl

/-- The rendered text is the blocks of the entries that the lists make up. -/
theorem renderBlocks_eq (block : String) {destinations : List String}
    {sources : List (String × String)} (hlength : destinations.length = sources.length)
    (commands : List String) :
    renderBlocks block destinations sources commands =
      renderEntries block (destinations.mapIdx fun i d =>
        ⟨d, (sources.getD i ("", "")).1, (sources.getD i ("", "")).2, commands.getD i ""⟩) := by
  induction destinations generalizing sources commands with
  | nil => rfl
  | cons d ds ih =>
    cases sources with
    | nil => cases hlength
    | cons source sources =>
      obtain ⟨path, template⟩ := source
      rw [renderBlocks, ih (Nat.succ.inj hlength), List.mapIdx_cons, renderEntries_cons]
      -- A list of commands that has come to its end stays there.
      cases commands <;> rfl

/-- The lists, if they go together, render to the blocks of the entries. -/
theorem renderBlocks_usedSources {config : Config} {keys : AnnotationKeys} {pod : PodLabels}
    (hlength : (usedDestinations keys pod).length = (usedSources config keys pod).length) :
    renderBlocks config.templateBlock (usedDestinations keys pod) (usedSources config keys pod)
        (listedCommands keys pod) =
      renderEntries config.templateBlock (entries config keys pod) := by
  rw [renderBlocks_eq _ hlength]
  refine congrArg _ (List.mapIdx_eq_mapIdx_iff.mpr fun i hi => ?_)
  -- There is an item at every place, so that the defaults for absent ones do not matter.
  rw [hlength] at hi
  unfold usedSources at hi ⊢
  by_cases hempty : keys.value pod.annotations templateKey = ""
  · have hpath : i < (usedPaths config keys pod).length := by simpa [hempty] using hi
    simp [hempty, List.getD_eq_getElem?_getD, hpath]
  · have htemplate : i < (listedTemplates keys pod).length := by simpa [hempty] using hi
    simp [hempty, List.getD_eq_getElem?_getD, htemplate]

end SidecarInjection.Secrets
