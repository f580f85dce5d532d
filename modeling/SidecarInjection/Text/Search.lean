/-!
# `SidecarInjection.Text.Search`: cutting and replacing text

All functions work on the characters of a text. A search goes from left to
right, and a match is not searched again. A function that has met a match of
several characters counts down the characters it still has to pass over.

* `splitOn`: the pieces between the occurrences of a separator.
* `replaceAll`: every occurrence of a text replaced.
* `dropSuffixes`: a suffix removed as often as it is there.
-/

set_option autoImplicit false

namespace SidecarInjection.Text

/-- A scan that passes over some characters first is one of the text without them. -/
theorem eq_drop {α : Type} {scan : Nat → List Char → α} (hnil : ∀ skip, scan skip [] = scan 0 [])
    (hcons : ∀ skip c rest, scan (skip + 1) (c :: rest) = scan skip rest) (skip : Nat)
    (s : List Char) : scan skip s = scan 0 (s.drop skip) := by
  induction skip generalizing s with
  | zero => rfl
  | succ skip ih =>
    cases s with
    | nil => exact hnil (skip + 1)
    | cons c rest => rw [hcons, ih, List.drop_succ_cons]

/-- Puts a character in front of the first piece. -/
def consFirst (c : Char) : List (List Char) → List (List Char)
  | [] => [[c]]
  | piece :: rest => (c :: piece) :: rest

/-- The pieces between occurrences of `sep`, after passing over `skip`
characters. -/
def splitFrom (sep : List Char) : Nat → List Char → List (List Char)
  | _, [] => [[]]
  | skip + 1, _ :: rest => splitFrom sep skip rest
  | 0, c :: rest =>
    if sep.isPrefixOf (c :: rest) then [] :: splitFrom sep (sep.length - 1) rest
    else consFirst c (splitFrom sep 0 rest)

/-- The pieces between the occurrences of a separator. Text without the
separator is one piece. -/
def splitOn (sep s : String) : List String :=
  (splitFrom sep.toList 0 s.toList).map String.ofList

/-- Replaces the occurrences of `old`, after passing over `skip` characters. -/
def replaceFrom (old new : List Char) : Nat → List Char → List Char
  | _, [] => []
  | skip + 1, _ :: rest => replaceFrom old new skip rest
  | 0, c :: rest =>
    if old.isPrefixOf (c :: rest) then new ++ replaceFrom old new (old.length - 1) rest
    else c :: replaceFrom old new 0 rest

/-- Replaces every occurrence of `old` by `new`. -/
def replaceAll (old new s : String) : String :=
  String.ofList (replaceFrom old.toList new.toList 0 s.toList)

/-- Removes up to `times` copies of `front` from the start. -/
def dropFronts (front : List Char) : Nat → List Char → List Char
  | 0, s => s
  | times + 1, s =>
    if front.isPrefixOf s then dropFronts front times (s.drop front.length) else s

/-- Removes a suffix as often as the text ends in it. -/
def dropSuffixes (suffix s : String) : String :=
  String.ofList (dropFronts suffix.toList.reverse s.toList.length s.toList.reverse).reverse

end SidecarInjection.Text
