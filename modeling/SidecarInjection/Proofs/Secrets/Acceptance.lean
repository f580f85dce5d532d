import SidecarInjection.Proofs.Injection.Success
import SidecarInjection.Proofs.Secrets.Entries

/-!
# `SidecarInjection.Proofs.Secrets.Acceptance`: which annotations for secrets are accepted

The secrets mode turns down names that it does not know, settings that exclude each other and
lists that do not go together. `annotationFaults` lists what it asks for, in the order in which
it asks.

* `typeOfName_eq`, `methodOfName_eq`, `paths_eq`, `sources_eq`: what is asked of the single
  annotations, and what they lead to.
* `compute_eq`: the first fault settles what is worked out.
* `compute_accepts_iff`: annotations are accepted exactly if there is no fault, and turned down
  with the first one otherwise.
-/

set_option autoImplicit false

namespace SidecarInjection.Secrets

open Outcome
open Requirement (orElse)

/-! ### Statements -/

section

variable (config : Config) (keys : AnnotationKeys) (pod : PodLabels)

/-- The value of an annotation, in lower case. -/
def choice (key : String) : String := Text.lowercase (keys.value pod.annotations key)

/-- The type that is asked for. Secrets are dynamic unless the annotation says otherwise. -/
def requestedType : SecretsType := if choice keys pod typeKey = "static" then .static else .dynamic

/-- The method that is asked for. Secrets are files unless the annotation says otherwise. -/
def requestedMethod : InjectionMethod := if choice keys pod methodKey = "env" then .env else .file

/-- What is asked of the paths: without any, the labels have to be there. -/
def pathFault : Option InjectionError :=
  orElse (keys.value pod.annotations pathKey != "" ||
      (pod.label config.appLabel != "" && pod.label config.serviceLabel != ""))
    (.missingLabel [config.appLabel, config.serviceLabel])

/-- What is asked of the paths and templates: there is one for every destination. Paths do not
count where there are templates. -/
def sourceFault : Option InjectionError :=
  if keys.value pod.annotations templateKey = "" then
    orElse ((listedDestinations keys pod).length == (listedPaths keys pod).length)
      (.listLengthMismatch (.destinationsPaths (listedDestinations keys pod).length
        (listedPaths keys pod).length))
  else
    orElse ((listedDestinations keys pod).length == (listedTemplates keys pod).length)
      (.listLengthMismatch (.destinationsTemplates (listedDestinations keys pod).length
        (listedTemplates keys pod).length))

/-- What is asked of the settings. -/
def settingFaults : List (Option InjectionError) :=
  [orElse (["", "dynamic", "static"].contains (choice keys pod typeKey))
     (.unsupportedValue .secretsType (choice keys pod typeKey)),
   orElse (["", "file", "env"].contains (choice keys pod methodKey))
     (.unsupportedValue .injectionMethod (choice keys pod methodKey)),
   orElse (!(requestedType keys pod = .dynamic && requestedMethod keys pod = .env))
     (.unsupportedCombination .envWithDynamic),
   orElse (!(requestedType keys pod = .static && choice keys pod Annotations.auth = "approle"))
     (.unsupportedCombination .approleWithStatic)]

/-- What is asked of the lists. -/
def listFaults : List (Option InjectionError) :=
  [pathFault config keys pod,
   sourceFault keys pod,
   orElse ((listedCommands keys pod).length ≤ (listedDestinations keys pod).length)
     (.listLengthMismatch (.commandsDestinations (listedCommands keys pod).length
       (listedDestinations keys pod).length))]

/-- What is asked of the annotations, in the order in which it is asked. -/
def annotationFaults : List (Option InjectionError) :=
  settingFaults keys pod ++ listFaults config keys pod

/-- What annotations without a fault lead to. -/
def requested : SecretsConfig :=
  ⟨requestedType keys pod, requestedMethod keys pod,
    renderEntries config.templateBlock (entries config keys pod)⟩

end

/-! ### What is asked of the single annotations -/

/-- A requirement that is met is no fault. -/
theorem orElse_eq_none {met : Bool} {e : InjectionError} :
    orElse met e = none ↔ met = true := by
  cases met with
  | false => simp [orElse]
  | true => simp [orElse]

/-- A check that fails with a fault, or leaves the others to what comes after it. -/
theorem check_eq_settle {α : Type} {c : Prop} [Decidable c] {met : Bool} {e : InjectionError}
    {rest : Except InjectionError α} {faults : List (Option InjectionError)} {result : α}
    (hmet : met = true ↔ ¬ c) (hrest : rest = settle faults result) :
    (if c then .error e else rest) = settle (orElse met e :: faults) result := by
  subst hrest
  by_cases hc : c
  · rw [if_pos hc, orElse, if_neg (fun h => hmet.mp h hc), settle_some]
  · rw [if_neg hc, orElse, if_pos (hmet.mpr hc), settle_none]

/-- The value of a name out of three, the first of which is short for the second. -/
theorem ofName_eq {α : Type} {short standard other : String} (hshort : other ≠ short)
    (hstandard : other ≠ standard) (a b : α) (name : String) (e : InjectionError) :
    (if name = short || name = standard then .ok a else if name = other then .ok b
        else .error e : Except InjectionError α) =
      settle [orElse ([short, standard, other].contains name) e]
        (if name = other then b else a) := by
  by_cases hother : name = other
  · subst hother
    simp [orElse, settle_none, hshort, hstandard]
    rfl
  · rw [if_neg hother, if_neg hother, ← ite_not]
    refine check_eq_settle ?_ rfl
    simp [hother, or_iff_not_imp_left]

/-- The type is settled by one requirement. -/
theorem typeOfName_eq (keys : AnnotationKeys) (pod : PodLabels) :
    SecretsType.ofName (choice keys pod typeKey) =
      settle [orElse (["", "dynamic", "static"].contains (choice keys pod typeKey))
        (.unsupportedValue .secretsType (choice keys pod typeKey))] (requestedType keys pod) :=
  ofName_eq (by decide) (by decide) _ _ _ _

/-- So is the method. -/
theorem methodOfName_eq (keys : AnnotationKeys) (pod : PodLabels) :
    InjectionMethod.ofName (choice keys pod methodKey) =
      settle [orElse (["", "file", "env"].contains (choice keys pod methodKey))
        (.unsupportedValue .injectionMethod (choice keys pod methodKey))]
        (requestedMethod keys pod) :=
  ofName_eq (by decide) (by decide) _ _ _ _

/-- The paths are settled by the labels, which make up the default one. -/
theorem paths_eq (config : Config) (keys : AnnotationKeys) (pod : PodLabels) :
    paths config pod (keys.value pod.annotations pathKey) =
      settle [pathFault config keys pod] (usedPaths config keys pod) := by
  unfold paths pathFault usedPaths
  simp only [isUnset_splitOn, decide_eq_true_eq]
  by_cases hempty : keys.value pod.annotations pathKey = ""
  · simp only [hempty, if_true]
    exact check_eq_settle (by simp) rfl
  · have hgiven : (keys.value pod.annotations pathKey != "") = true := by simpa using hempty
    simp only [hempty, if_false, hgiven, Bool.true_or]
    rfl

/-- The templates are settled by their number, which has to be that of the destinations. -/
theorem sources_eq (config : Config) (keys : AnnotationKeys) (pod : PodLabels) :
    sources config (usedDestinations keys pod) (usedPaths config keys pod)
        (keys.value pod.annotations templateKey) =
      settle [sourceFault keys pod] (usedSources config keys pod) := by
  unfold sources sourceFault usedSources
  simp only [isUnset_splitOn, decide_eq_true_eq, length_usedDestinations, length_usedPaths]
  by_cases hempty : keys.value pod.annotations templateKey = ""
  · simp only [hempty, if_true]
    rw [← ite_not]
    exact check_eq_settle (by simp) rfl
  · simp only [hempty, if_false]
    rw [← ite_not]
    exact check_eq_settle (by simp [listedTemplates]) rfl

/-- Without a fault there is a path and a template for every destination. -/
theorem length_usedSources {keys : AnnotationKeys} {pod : PodLabels}
    (h : sourceFault keys pod = none) (config : Config) :
    (usedDestinations keys pod).length = (usedSources config keys pod).length := by
  unfold sourceFault orElse at h
  unfold usedSources
  rw [length_usedDestinations]
  by_cases hempty : keys.value pod.annotations templateKey = ""
  · simpa [hempty, length_usedPaths] using h
  · simpa [hempty] using h

/-! ### What is worked out -/

/-- The first fault of the annotations settles what is worked out from them. -/
theorem compute_eq (config : Config) (keys : AnnotationKeys) (pod : PodLabels) :
    compute config keys pod =
      settle (annotationFaults config keys pod) (requested config keys pod) := by
  unfold compute annotationFaults settingFaults
  simp only [throw_eq, error_bind, destinations_eq]
  -- Each step is settled by the next fault of the list.
  refine bind_eq_settle (typeOfName_eq keys pod) fun _ => ?_
  refine bind_eq_settle (methodOfName_eq keys pod) fun _ => ?_
  have hnotBoth (p q : Prop) [Decidable p] [Decidable q] :
      (!(decide p && decide q)) = true ↔ ¬(p ∧ q) := by
    simp [imp_iff_not_or]
  refine check_eq_settle (hnotBoth _ _) ?_
  refine check_eq_settle (hnotBoth _ _) ?_
  refine bind_eq_settle (paths_eq config keys pod) fun _ => ?_
  refine bind_eq_settle (sources_eq config keys pod) fun hsource => ?_
  -- Now there is a path and a template for every destination, and no item is left over.
  rw [length_usedDestinations]
  refine check_eq_settle (decide_eq_true_iff.trans Nat.not_lt.symm) ?_
  have hblocks := renderBlocks_usedSources (length_usedSources hsource config)
  unfold listedCommands at hblocks
  rw [hblocks]
  rfl

/-- Annotations are accepted exactly if nothing is amiss with them, and lead to what they ask
for. Otherwise they are turned down with the first fault. The labels make up the path exactly if
no path is listed. -/
theorem compute_accepts_iff (config : Config) (keys : AnnotationKeys) (pod : PodLabels) :
    ((∃ c, compute config keys pod = .ok c) ↔
        ∀ fault ∈ annotationFaults config keys pod, fault = none) ∧
      (∀ e, compute config keys pod = .error e ↔
        (annotationFaults config keys pod).findSome? id = some e) ∧
      ∀ c, compute config keys pod = .ok c ↔
        (∀ fault ∈ annotationFaults config keys pod, fault = none) ∧
          paths config pod (keys.value pod.annotations pathKey) =
            .ok (usedPaths config keys pod) ∧
          c = requested config keys pod := by
  rw [compute_eq]
  refine ⟨⟨?_, fun hnone => ⟨_, settle_eq_ok.mpr ⟨hnone, rfl⟩⟩⟩, fun e => settle_eq_error,
    fun c => settle_eq_ok.trans ⟨?_, fun ⟨hnone, _, hc⟩ => ⟨hnone, hc⟩⟩⟩
  · rintro ⟨c, hc⟩
    exact (settle_eq_ok.mp hc).1
  · rintro ⟨hnone, hc⟩
    -- The path fault is among the seven, so the paths are those in use.
    have hpath : pathFault config keys pod = none :=
      hnone _ (by simp [annotationFaults, listFaults])
    refine ⟨hnone, ?_, hc⟩
    rw [paths_eq, hpath]
    rfl

/-! ### Small annotations -/

namespace Sample

/-- A configuration with a block in the format of the agent. -/
def config : Config :=
  { SidecarInjection.Sample.config with
    templateBlock := destinationPlaceholder ++ " <<EOH " ++ contentPlaceholder ++ " EOH " ++
      commandPlaceholder
    templateDefault := "secret=" ++ pathPlaceholder }

/-- Annotations without a qualifier. -/
def keys : AnnotationKeys := ⟨"", []⟩

/-- A pod that lists paths, destinations and commands. -/
def listing (paths destinations commands : String) : PodLabels :=
  ⟨[], [("notify", commands), ("secrets-destination", destinations), ("secrets-path", paths)]⟩

end Sample

end SidecarInjection.Secrets
