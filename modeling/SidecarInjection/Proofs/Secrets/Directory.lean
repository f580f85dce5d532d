import Mathlib.Data.List.Forall2
import SidecarInjection.Mode.Secrets
import SidecarInjection.Proofs.Text.Replacement

/-!
# `SidecarInjection.Proofs.Secrets.Directory`: the directory of the secrets

Start hooks and wrapped commands name the directory that holds the secrets. There is one for a
pod: the place where its containers first mount the volume `secrets`, or the default place.
`Directory` says so with a split of all mounts of the pod. In the command of a start hook the
directory is put in every place of a mark, as `Text.Replaced` says.

* `directory_iff`: there is one directory, the one that is worked out.
* `filled_iff`: the arguments of a hook with the directory filled in.
-/

set_option autoImplicit false

namespace SidecarInjection.Secrets

/-! ### Statements -/

/-- The directory of the secrets in a pod with these containers. -/
inductive Directory (containers : List Container) : String → Prop
  /-- The first mount of the volume `secrets`, in the order of the containers, tells. -/
  | mounted {before after : List VolumeMount} {m : VolumeMount}
      (h : containers.flatMap Container.mounts = before ++ m :: after) (hname : m.name = "secrets")
      (hfirst : ∀ other ∈ before, other.name ≠ "secrets") : Directory containers m.mountPath
  /-- Where no container mounts it, it is the default place. -/
  | default (h : ∀ c ∈ containers, ∀ m ∈ c.mounts, m.name ≠ "secrets") :
      Directory containers "/opt/talend/secrets"

/-- The arguments of a hook, with a directory in every place of the mark for it. -/
def Filled (path : String) (args filled : List String) : Prop :=
  List.Forall₂ (Text.Replaced "<VSI_SECRETS_VOL_MOUNTPATH>" path) args filled

/-! ### The directory -/

variable {containers : List Container} {path : String}

/-- The directory that is worked out is the only one. -/
theorem directory_iff : Directory containers path ↔ mountPath containers = path := by
  unfold mountPath
  constructor
  · intro h
    cases h with
    | @mounted before after m h hname hfirst =>
      have hfind : ((containers.flatMap Container.mounts).find? fun m => m.name = volumeName) =
          some m := by
        refine List.find?_eq_some_iff_append.mpr ⟨decide_eq_true hname, before, after, h, ?_⟩
        intro other hother
        have hother : other.name ≠ volumeName := hfirst other hother
        simpa using hother
      rw [hfind]
    | default h =>
      have hfind : ((containers.flatMap Container.mounts).find? fun m => m.name = volumeName) =
          none := by
        refine List.find?_eq_none.mpr fun m hm => ?_
        obtain ⟨c, hc, hm⟩ := List.mem_flatMap.mp hm
        have hm : m.name ≠ volumeName := h c hc m hm
        simpa using hm
      rw [hfind]
      rfl
  · intro h
    split at h
    · rename_i m hfind
      -- What is found is the first mount of the volume.
      obtain ⟨hname, before, after, hsplit, hbefore⟩ := List.find?_eq_some_iff_append.mp hfind
      subst h
      refine .mounted hsplit (of_decide_eq_true hname) fun other hother => ?_
      have hother : other.name ≠ volumeName := by simpa using hbefore other hother
      exact hother
    · rename_i hfind
      subst h
      refine .default fun c hc m hm => ?_
      have hm : m.name ≠ volumeName := by
        simpa using List.find?_eq_none.mp hfind m (List.mem_flatMap.mpr ⟨c, hc, hm⟩)
      exact hm

/-- Every pod has a directory. -/
theorem directory_mountPath (containers : List Container) :
    Directory containers (mountPath containers) :=
  directory_iff.mpr rfl

/-- No pod has two of them. -/
theorem Directory.unique {other : String} (h : Directory containers path)
    (hother : Directory containers other) : path = other :=
  (directory_iff.mp h).symm.trans (directory_iff.mp hother)

/-! ### The command of a hook -/

/-- The mark for the directory is a name in angle brackets, so it does not overlap itself. -/
theorem isMark_mountPathPlaceholder : Text.IsMark mountPathPlaceholder :=
  ⟨"VSI_SECRETS_VOL_MOUNTPATH".toList, by decide +kernel, by decide +kernel, by decide +kernel⟩

/-- The arguments are filled in one by one. -/
theorem filled_iff {args filled : List String} :
    Filled path args filled ↔ args.map (Text.replaceAll mountPathPlaceholder path) = filled := by
  -- Each argument is filled on its own, so the relation is that of a mapped list.
  have hreplaced : Text.Replaced mountPathPlaceholder path =
      fun arg filled => Text.replaceAll mountPathPlaceholder path arg = filled := by
    funext arg filled
    rw [Text.replaceAll_eq_iff isMark_mountPathPlaceholder]
  show List.Forall₂ (Text.Replaced mountPathPlaceholder path) args filled ↔ _
  rw [hreplaced, ← List.forall₂_map_left_iff (R := Eq), List.forall₂_eq_eq_eq]

end SidecarInjection.Secrets
