import SidecarInjection.Schema.Basic

/-!
# `SidecarInjection.Schema.Extra`: fields that are passed on unread

A typed object holds the fields that this library works with as fields of a
structure. `Extra` holds the other declared fields in their written form.

* `Schema.conforms_default`: the default of a shape is a written form of it.
* `Fields.conform_pick`: picked members are a written form of the fields.
-/

set_option autoImplicit false

namespace SidecarInjection

mutual

/-- The default of a shape has that shape. -/
theorem Schema.conforms_default : ∀ s : Schema, s.conforms s.default = true
  | .text => rfl
  | .flag => rfl
  | .int32 => rfl
  | .int64 => rfl
  | .intOrText => rfl
  | .anything => by simp [Schema.conforms]
  | .constant _ => by simp [Schema.conforms, Schema.default]
  | .list _ => by simp [Schema.conforms, Schema.default]
  | .map _ => by simp [Schema.conforms, Schema.default]
  | .record _ _ fields => by
    simpa [Schema.conforms, Schema.default] using Fields.conform_defaults fields

/-- So do the defaults of all fields together. -/
theorem Fields.conform_defaults : ∀ fs : Fields, fs.conform fs.defaults = true
  | .nil => rfl
  | .cons name presence schema rest => by
    have hs := Schema.conforms_default schema
    have hr := Fields.conform_defaults rest
    cases presence with
    | optional =>
      simp only [Fields.defaults]
      cases h : rest.defaults with
      | nil => simp [Fields.conform, ← h, hr]
      | cons e es => simp [Fields.conform, ← h, hr]
    | required => simp [Fields.defaults, Fields.conform, Presence.admits, hs, hr]
    | defaulted => simp [Fields.defaults, Fields.conform, Presence.admits, hs, hr]

end

/-- The written form of one field among members. A member that is not of the
field's shape counts as absent. -/
def Fields.pickField (presence : Presence) (schema : Schema) (value : Option Json) : Option Json :=
  match value with
  | some v => if presence.admits v && schema.conforms v then some v else fallback
  | none => fallback
where
  /-- What stands for an absent member. -/
  fallback : Option Json := if presence == .optional then none else some schema.default

/-- The written form of the declared fields among members. -/
def Fields.pick : Fields → Dict Json → Dict Json
  | .nil, _ => []
  | .cons name presence schema rest, members =>
    match Fields.pickField presence schema (Dict.get? members name) with
    | some v => (name, v) :: rest.pick members
    | none => rest.pick members

/-- What is picked for a field fits its shape. A value that does not fit is left out or replaced by
the default. -/
theorem Fields.conforms_pickField {presence : Presence} {schema : Schema} {value : Option Json}
    {v : Json} (h : Fields.pickField presence schema value = some v) :
    presence.admits v = true ∧ schema.conforms v = true := by
  have hd := Schema.conforms_default schema
  have hfall : ∀ w, Fields.pickField.fallback presence schema = some w →
      presence.admits w = true ∧ schema.conforms w = true := by
    intro w hw
    unfold Fields.pickField.fallback at hw
    cases presence with
    | optional => simp at hw
    | required =>
      simp only [Option.ite_none_left_eq_some, Option.some.injEq] at hw
      exact ⟨rfl, hw.2 ▸ hd⟩
    | defaulted =>
      simp only [Option.ite_none_left_eq_some, Option.some.injEq] at hw
      exact ⟨rfl, hw.2 ▸ hd⟩
  unfold Fields.pickField at h
  split at h
  · split at h
    · rename_i hc
      simp only [Option.some.injEq] at h
      subst h
      simpa using hc
    · exact hfall v h
  · exact hfall v h

/-- Only an optional member is left out. -/
theorem Fields.optional_of_pickField {presence : Presence} {schema : Schema}
    {value : Option Json} (h : Fields.pickField presence schema value = none) :
    (presence == .optional) = true := by
  unfold Fields.pickField Fields.pickField.fallback at h
  split at h
  · split at h
    · simp at h
    · split at h
      · assumption
      · simp at h
  · split at h
    · assumption
    · simp at h

/-- So picked members are written members, whatever they are picked from. -/
theorem Fields.conform_pick (fs : Fields) (members : Dict Json) :
    fs.conform (fs.pick members) = true := by
  match fs with
  | .nil => rfl
  | .cons name presence schema rest =>
    have hr := Fields.conform_pick rest members
    unfold Fields.pick
    split
    · rename_i v hv
      have hc := Fields.conforms_pickField hv
      simp [Fields.conform, hc.1, hc.2, hr]
    · rename_i hv
      have ho := Fields.optional_of_pickField hv
      cases h : rest.pick members with
      | nil => simp [Fields.conform, ← h, hr, ho]
      | cons e es => simp [Fields.conform, ← h, hr, ho]

/-- The written form of declared fields. -/
structure Extra (fields : Fields) where
  members : Dict Json
  conform : fields.conform members = true

namespace Extra

variable {fields : Fields}

/-- The declared fields among members. -/
def pick (fields : Fields) (members : Dict Json) : Extra fields :=
  ⟨fields.pick members, Fields.conform_pick fields members⟩

/-- The declared fields of an object. -/
def ofJson (fields : Fields) (j : Json) : Extra fields := pick fields (j.members?.getD [])

/-- No field is given. -/
def empty (fields : Fields) : Extra fields := pick fields []

/-- What is passed on is determined by its members. -/
@[ext] theorem ext {a b : Extra fields} (h : a.members = b.members) : a = b := by
  cases a
  cases b
  simp_all

end Extra

end SidecarInjection
