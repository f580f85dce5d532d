import SidecarInjection.Proofs.Secrets.Acceptance
import Mathlib.Data.List.GetD

/-!
# `SidecarInjection.Proofs.Secrets.Concatenation`: lists that are joined

Annotations that list paths, destinations and commands can be joined with commas. A list is
split where it was joined, so the items of the parts follow each other. They keep their places
among each other only if the first part has as many commands as destinations: those of the
second would move up to places that are left free.

* `Joined.entries_eq`: the entries are those of the first part and then those of the second.
* `Joined.compute_eq`: joined lists are accepted if both parts are.
* `compute_joined`: they render to the blocks of the one and then of the other.
-/

set_option autoImplicit false

namespace SidecarInjection.Secrets

open Outcome

/-! ### Statements -/

/-- Annotations that list paths and destinations, and bring no templates of their own. -/
structure Plain (keys : AnnotationKeys) (pod : PodLabels) : Prop where
  path : keys.value pod.annotations pathKey ≠ ""
  destination : keys.value pod.annotations destinationKey ≠ ""
  template : keys.value pod.annotations templateKey = ""

/-- The lists of two pods are joined, and the settings are those of the first. -/
structure Joined (keys : AnnotationKeys) (first second joined : PodLabels) : Prop where
  lists : ∀ key ∈ [pathKey, destinationKey, notifyKey],
    keys.value joined.annotations key =
      keys.value first.annotations key ++ "," ++ keys.value second.annotations key
  settings : ∀ key ∈ [typeKey, methodKey, Annotations.auth],
    choice keys joined key = choice keys first key
  template : keys.value joined.annotations templateKey = ""

/-! ### Plain annotations -/

section

variable {config : Config} {keys : AnnotationKeys} {pod first second joined : PodLabels}

/-- The entries take an item from every list. -/
theorem Plain.entries_eq (h : Plain keys pod) (config : Config) :
    entries config keys pod = (listedDestinations keys pod).mapIdx fun i destination =>
      ⟨destination, (listedPaths keys pod).getD i "", config.templateDefault,
        (listedCommands keys pod).getD i ""⟩ := by
  unfold entries usedDestinations usedPaths
  simp only [h.path, h.destination, h.template, if_true, if_false]

/-- The item of every list that an entry takes. -/
theorem Plain.getElem?_entries (h : Plain keys pod) (config : Config) (i : Nat) :
    (entries config keys pod)[i]? = (listedDestinations keys pod)[i]?.map fun destination =>
      ⟨destination, (listedPaths keys pod).getD i "", config.templateDefault,
        (listedCommands keys pod).getD i ""⟩ := by
  rw [h.entries_eq, List.getElem?_mapIdx]

/-- Of plain annotations it is only asked that the lists go together. -/
theorem Plain.listFaults_iff (h : Plain keys pod) (config : Config) :
    (∀ fault ∈ listFaults config keys pod, fault = none) ↔
      (listedDestinations keys pod).length = (listedPaths keys pod).length ∧
        (listedCommands keys pod).length ≤ (listedDestinations keys pod).length := by
  have hpath : pathFault config keys pod = none := by
    rw [pathFault, orElse_eq_none]
    simp [h.path]
  rw [listFaults, sourceFault, if_pos h.template]
  simp only [List.forall_mem_cons, hpath, orElse_eq_none, beq_iff_eq, decide_eq_true_iff]
  simp

/-- When plain annotations are accepted, each destination has a path, and there are no more commands
than destinations. -/
theorem Plain.lengths (h : Plain keys pod) {c : SecretsConfig}
    (hc : compute config keys pod = .ok c) :
    (listedDestinations keys pod).length = (listedPaths keys pod).length ∧
      (listedCommands keys pod).length ≤ (listedDestinations keys pod).length := by
  rw [compute_eq, settle_eq_ok, annotationFaults, List.forall_mem_append] at hc
  exact (h.listFaults_iff config).mp hc.1.2

/-! ### Joined lists -/

/-- The joined lists have the items of the first and then those of the second. -/
theorem Joined.listed_eq (h : Joined keys first second joined) :
    listedDestinations keys joined =
        listedDestinations keys first ++ listedDestinations keys second ∧
      listedPaths keys joined = listedPaths keys first ++ listedPaths keys second ∧
      listedCommands keys joined = listedCommands keys first ++ listedCommands keys second := by
  have hlisted (key : String) (hkey : key ∈ [pathKey, destinationKey, notifyKey]) :
      Text.splitOn "," (keys.value joined.annotations key) =
        Text.splitOn "," (keys.value first.annotations key) ++
          Text.splitOn "," (keys.value second.annotations key) := by
    rw [h.lists key hkey]
    exact Text.splitOn_append rfl _ _
  exact ⟨hlisted destinationKey (by simp), hlisted pathKey (by simp), hlisted notifyKey (by simp)⟩

/-- Joined lists are plain, since a text with a comma in it is not empty. -/
theorem Joined.plain (h : Joined keys first second joined) : Plain keys joined := by
  have hne (s t : String) : s ++ "," ++ t ≠ "" := by simp
  refine ⟨?_, ?_, h.template⟩
  · rw [h.lists pathKey (by simp)]
    exact hne _ _
  · rw [h.lists destinationKey (by simp)]
    exact hne _ _

/-- The type and the method are those of the first part. -/
theorem Joined.requested_eq (h : Joined keys first second joined) :
    requestedType keys joined = requestedType keys first ∧
      requestedMethod keys joined = requestedMethod keys first := by
  unfold requestedType requestedMethod
  rw [h.settings typeKey (by simp), h.settings methodKey (by simp)]
  exact ⟨rfl, rfl⟩

/-- The settings have the faults of the first part. -/
theorem Joined.settingFaults_eq (h : Joined keys first second joined) :
    settingFaults keys joined = settingFaults keys first := by
  obtain ⟨htype, hmethod⟩ := h.requested_eq
  unfold settingFaults
  rw [htype, hmethod, h.settings typeKey (by simp), h.settings methodKey (by simp),
    h.settings Annotations.auth (by simp)]

/-- The entries of joined lists are those of the parts, if the first part has a command for each
of its destinations. -/
theorem Joined.entries_eq (h : Joined keys first second joined) (hfirst : Plain keys first)
    (hsecond : Plain keys second)
    (hpaths : (listedDestinations keys first).length = (listedPaths keys first).length)
    (hcommands : (listedCommands keys first).length = (listedDestinations keys first).length)
    (config : Config) :
    entries config keys joined = entries config keys first ++ entries config keys second := by
  obtain ⟨hdestination, hpath, hcommand⟩ := h.listed_eq
  rw [h.plain.entries_eq, hfirst.entries_eq, hsecond.entries_eq, hdestination, hpath, hcommand,
    List.mapIdx_append]
  refine congrArg₂ (· ++ ·) ?_ ?_
  · refine List.mapIdx_eq_mapIdx_iff.mpr fun i hi => ?_
    rw [List.getD_append _ _ _ _ (hpaths ▸ hi), List.getD_append _ _ _ _ (hcommands ▸ hi)]
  · refine List.mapIdx_eq_mapIdx_iff.mpr fun i hi => ?_
    rw [List.getD_append_right _ _ _ _ (by omega), List.getD_append_right _ _ _ _ (by omega),
      hcommands, ← hpaths, Nat.add_sub_cancel]

/-- Joined lists are accepted if both parts are. -/
theorem Joined.compute_eq (h : Joined keys first second joined) (hfirst : Plain keys first)
    (hsecond : Plain keys second) {a b : SecretsConfig} (ha : compute config keys first = .ok a)
    (hb : compute config keys second = .ok b) :
    compute config keys joined = .ok (requested config keys joined) := by
  obtain ⟨hpaths₁, hcommands₁⟩ := hfirst.lengths ha
  obtain ⟨hpaths₂, hcommands₂⟩ := hsecond.lengths hb
  rw [Secrets.compute_eq, settle_eq_ok, annotationFaults, List.forall_mem_append] at ha ⊢
  refine ⟨⟨?_, (h.plain.listFaults_iff config).mpr ?_⟩, rfl⟩
  · rw [h.settingFaults_eq]
    exact ha.1.1
  · -- The joined lists are as long as both parts together.
    obtain ⟨hdestination, hpath, hcommand⟩ := h.listed_eq
    simp only [hdestination, hpath, hcommand, List.length_append]
    exact ⟨by omega, by omega⟩

end

/-! ### What joined lists render to -/

/-- Lists of paths, destinations and commands that are accepted may be joined with commas, if the
first lists a command for each destination. They are accepted as well, for the type and the
method of the first, and render to its blocks and then to those of the second. The block at a
place depends on the items at that place only. -/
theorem compute_joined {config : Config} {keys : AnnotationKeys}
    {first second joined : PodLabels} {a b : SecretsConfig}
    (ha : compute config keys first = .ok a) (hb : compute config keys second = .ok b)
    (hfirst : Plain keys first) (hsecond : Plain keys second)
    (hjoined : Joined keys first second joined)
    (hcommands : (listedCommands keys first).length = (listedDestinations keys first).length) :
    ∃ c, compute config keys joined = .ok c ∧
      c.secretsType = a.secretsType ∧ c.method = a.method ∧
      c.template = a.template ++ b.template ∧
      c.template = renderEntries config.templateBlock (entries config keys joined) ∧
      ∀ i, (entries config keys joined)[i]? =
        (listedDestinations keys joined)[i]?.map fun destination =>
          Entry.mk destination ((listedPaths keys joined).getD i "") config.templateDefault
            ((listedCommands keys joined).getD i "") := by
  have hentries := hjoined.entries_eq hfirst hsecond (hfirst.lengths ha).1 hcommands config
  obtain ⟨htype, hmethod⟩ := hjoined.requested_eq
  have hc := hjoined.compute_eq hfirst hsecond ha hb
  rw [compute_eq, settle_eq_ok] at ha hb
  obtain ⟨-, rfl⟩ := ha
  obtain ⟨-, rfl⟩ := hb
  refine ⟨_, hc, htype, hmethod, ?_, rfl, hjoined.plain.getElem?_entries config⟩
  rw [requested, hentries, renderEntries_append]
  rfl

namespace Sample

/-- A pod that lists a command for its only destination. -/
def first : PodLabels := listing "secret/a" "a" "reload"

/-- A pod that lists no command. -/
def second : PodLabels := listing "secret/b,secret/c" "b,c" ""

/-- The lists of both. -/
def joined : PodLabels := listing "secret/a,secret/b,secret/c" "a,b,c" "reload,"

end Sample

/-- The lists of two small pods are joined. -/
theorem compute_joined_sample :
    ∃ a b c, compute Sample.config Sample.keys Sample.first = .ok a ∧
      compute Sample.config Sample.keys Sample.second = .ok b ∧
      compute Sample.config Sample.keys Sample.joined = .ok c ∧
      c.template = a.template ++ b.template := by
  have hfirst : (compute Sample.config Sample.keys Sample.first).toBool = true := by
    decide +kernel
  have hsecond : (compute Sample.config Sample.keys Sample.second).toBool = true := by
    decide +kernel
  obtain ⟨a, ha⟩ := exists_of_toBool hfirst
  obtain ⟨b, hb⟩ := exists_of_toBool hsecond
  have hplain₁ : Plain Sample.keys Sample.first :=
    ⟨by decide +kernel, by decide +kernel, by decide +kernel⟩
  have hplain₂ : Plain Sample.keys Sample.second :=
    ⟨by decide +kernel, by decide +kernel, by decide +kernel⟩
  have hjoined : Joined Sample.keys Sample.first Sample.second Sample.joined :=
    ⟨by decide +kernel, by decide +kernel, by decide +kernel⟩
  -- The joined pod is not computed: it is accepted because the two parts are.
  obtain ⟨c, hc, -, -, htemplate, -⟩ :=
    compute_joined ha hb hplain₁ hplain₂ hjoined (by decide +kernel)
  exact ⟨a, b, c, ha, hb, hc, htemplate⟩

end SidecarInjection.Secrets
