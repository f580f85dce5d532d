import SidecarInjection.Proofs.Schema.Codec

/-!
# `SidecarInjection.Proofs.Schema.Record`: structures as records

A structure of this library names some members of a record and keeps the others
as they are in an `Extra`. `Fields.View` is this layout, and `Fields.View.Sound`
says that it covers the record.

* `Fields.View.Sound.codec`: the structure has exactly the written forms of the
  record.
* `Fields.View.Sound.denotes_iff`: an object denotes a value exactly when each
  named field reads its part of the value, and the others read the rest.
* `Fields.View.Sound.denotes_insert`: setting one named member of an object sets
  one part of the value it denotes.
* `Fields.View.Sound.exists_member`: a part that is not the default of its field
  comes from a member of the object.
-/

set_option autoImplicit false

namespace SidecarInjection

open Outcome

/-- A dictionary with the given values put in one after another. -/
def Dict.insertAll {α : Type} (d : Dict α) (values : List (String × Option α)) : Dict α :=
  values.foldl (fun d e => Dict.insertSome d e.1 e.2) d

namespace Dict

variable {α : Type}

/-- Values are put in from the first one on. -/
theorem insertAll_cons (d : Dict α) (e : String × Option α) (values : List (String × Option α)) :
    insertAll d (e :: values) = insertAll (insertSome d e.1 e.2) values := rfl

/-- Putting values in keeps the order. -/
theorem Sorted.insertAll {d : Dict α} (h : Sorted d) (values : List (String × Option α)) :
    Sorted (insertAll d values) := by
  induction values generalizing d with
  | nil => exact h
  | cons e values ih => exact ih (h.insertSome e.1 e.2)

/-- Keys that are not put in keep their values. -/
theorem get?_insertAll_of_not_mem {d : Dict α} {values : List (String × Option α)} {key : String}
    (h : key ∉ values.map Prod.fst) : get? (insertAll d values) key = get? d key := by
  induction values generalizing d with
  | nil => rfl
  | cons e values ih =>
    rw [List.map_cons, List.mem_cons, not_or] at h
    rw [insertAll_cons, ih h.2, get?_insertSome, if_neg h.1]

/-- A key that is put in once, and was absent before, gets its value. -/
theorem get?_insertAll_of_mem {d : Dict α} {values : List (String × Option α)}
    (hnodup : (values.map Prod.fst).Nodup) {e : String × Option α} (he : e ∈ values)
    (hd : get? d e.1 = none) : get? (insertAll d values) e.1 = e.2 := by
  induction values generalizing d with
  | nil => simp at he
  | cons f values ih =>
    rw [List.map_cons, List.nodup_cons] at hnodup
    rw [insertAll_cons]
    cases he with
    | head =>
      -- The later keys are other ones.
      rw [get?_insertAll_of_not_mem hnodup.1, get?_insertSome, if_pos rfl, hd, Option.or_none]
    | tail _ he =>
      have hne : e.1 ≠ f.1 := fun hef => hnodup.1 (hef ▸ List.mem_map_of_mem he)
      exact ih hnodup.2 he (by rw [get?_insertSome, if_neg hne, hd])

end Dict

/-! ### Members that are read -/

/-- A member that is not `null` is read as what it decodes to. -/
theorem Fields.readField_of_decode {presence : Presence} {schema : Schema} {v part : Json}
    (hv : v.isNull = false) (h : schema.decode v = .ok part) :
    Fields.readField presence schema (some v) = .ok (some part) := by
  have hread : some <$> schema.decode v = .ok (some part) := by rw [h, map_ok]
  cases v with
  | null => simp [Json.isNull] at hv
  | _ => cases presence <;> exact hread

/-- What a field reads is decoded from a member, or is the default of the field. -/
theorem Fields.exists_of_readField {presence : Presence} {schema : Schema}
    {value : Option Json} {part : Json}
    (h : Fields.readField presence schema value = .ok (some part))
    (hpart : presence = .optional ∨ part ≠ schema.default) :
    ∃ j, value = some j ∧ schema.decode j = .ok part := by
  -- A default that is read would be the part of a field with a default.
  have hdefault : presence ≠ .optional → schema.default = part → False := by
    intro hp heq
    rcases hpart with hpart | hpart
    · exact hp hpart
    · exact hpart heq.symm
  unfold Fields.readField at h
  split at h
  · simp at h
  · simp at h
  · exact (hdefault nofun (by simpa using h)).elim
  · exact (hdefault nofun (by simpa using h)).elim
  · exact (hdefault nofun (by simpa using h)).elim
  · rename_i j _ _
    obtain ⟨n, hn, heq⟩ := map_eq_ok.mp h
    exact ⟨j, rfl, Option.some.inj heq ▸ hn⟩

/-- Nothing is read where there is nothing, or `null`. -/
theorem Fields.eq_none_or_null_of_readField {presence : Presence} {schema : Schema}
    {value : Option Json} (h : Fields.readField presence schema value = .ok none) :
    value = none ∨ value = some .null := by
  unfold Fields.readField at h
  split at h
  · exact .inl rfl
  · exact .inr rfl
  · cases h
  · cases h
  · cases h
  · obtain ⟨_, -, heq⟩ := map_eq_ok.mp h
    cases heq

/-! ### Records without some of their fields -/

/-- A name that is left out allows no value. -/
theorem Fields.allows_without_of_mem {fields : Fields} {names : List String} {key : String}
    (hkey : key ∈ names) {value : Option Json} :
    (fields.without names).allows key value ↔ value = none := by
  rw [Fields.allows, Fields.find?_without, if_pos hkey]

/-- Any other one allows what it did. -/
theorem Fields.allows_without_of_not_mem {fields : Fields} {names : List String} {key : String}
    (hkey : key ∉ names) {value : Option Json} :
    (fields.without names).allows key value ↔ fields.allows key value := by
  rw [Fields.allows, Fields.find?_without, if_neg hkey, Fields.allows]

/-- Of a name that is left out nothing is read. -/
theorem Fields.readMember_without_of_mem {fields : Fields} {names : List String} {key : String}
    (hkey : key ∈ names) (members : Dict Json) :
    (fields.without names).readMember members key = .ok none := by
  rw [Fields.readMember, Fields.find?_without, if_pos hkey]

/-- Of any other one the same is read. -/
theorem Fields.readMember_without_of_not_mem {fields : Fields} {names : List String}
    {key : String} (hkey : key ∉ names) (members : Dict Json) :
    (fields.without names).readMember members key = fields.readMember members key := by
  rw [Fields.readMember, Fields.find?_without, if_neg hkey, Fields.readMember]

/-- A field that may hold what an object has picks just that. -/
theorem Fields.get?_pick_of_allows {fields : Fields} (hreg : fields.regular = true)
    {members : Dict Json} {key : String} (h : fields.allows key (Dict.get? members key)) :
    Dict.get? (fields.pick members) key = Dict.get? members key := by
  rw [Fields.get?_pick hreg]
  unfold Fields.allows at h
  split at h
  · rename_i hnone
    rw [h]
  · rename_i presence schema hfind
    -- A member that is missing is picked as missing only where that is allowed, as it is here.
    cases hget : Dict.get? members key with
    | none =>
      rw [hget] at h
      simp [Fields.pickField, Fields.pickField.fallback, h]
    | some v =>
      rw [hget] at h
      simp [Fields.pickField, h.1, h.2]

/-! ### Views -/

/-- A layout of the values of a type as members of a record: the parts that stand
under the named fields, and the members of the other fields. -/
structure Fields.View (fields : Fields) (β : Type) where
  names : List String
  values : β → List (String × Option Json)
  extra : β → Extra (fields.without names)

namespace Fields.View

variable {fields : Fields} {β : Type}

/-- The members of the record that a value is written as. -/
def members (view : fields.View β) (b : β) : Dict Json :=
  Dict.insertAll (view.extra b).members (view.values b)

/-- The layout covers the record, and `read` goes back from members to the value. -/
structure Sound (view : fields.View β) (read : Json → β) : Prop where
  regular : fields.regular = true
  nodup : view.names.Nodup
  /-- The parts stand under the named fields. -/
  keys : ∀ b, (view.values b).map Prod.fst = view.names
  /-- Every part is a written form of its field. -/
  allows : ∀ b, ∀ e ∈ view.values b, fields.allows e.1 e.2
  /-- A value is read back from its parts and the other members. -/
  reads : ∀ b ms, (∀ e ∈ view.values b, Dict.get? ms e.1 = e.2) →
    Extra.pick (fields.without view.names) ms = view.extra b → read (.obj ms) = b
  /-- All that the named fields may hold are the parts of some value. -/
  covers : ∀ ms, fields.conform ms = true → ∀ other : Extra (fields.without view.names),
    ∃ b, view.extra b = other ∧ ∀ e ∈ view.values b, Dict.get? ms e.1 = e.2

namespace Sound

variable {view : fields.View β} {read : Json → β}

/-- A key is a named field, and then a part stands under it, or it is not named. -/
theorem mem_or_not_mem (h : view.Sound read) (b : β) (key : String) :
    (∃ e ∈ view.values b, e.1 = key ∧ key ∈ view.names) ∨ key ∉ view.names := by
  by_cases hkey : key ∈ view.names
  · rw [← h.keys b, List.mem_map] at hkey
    obtain ⟨e, he, rfl⟩ := hkey
    exact .inl ⟨e, he, rfl, h.keys b ▸ List.mem_map_of_mem he⟩
  · exact .inr hkey

/-- The members of the other fields are sorted, and each is one that its field may hold. -/
theorem extra_iff (h : view.Sound read) (b : β) :
    Dict.Sorted (view.extra b).members ∧
      ∀ key, (fields.without view.names).allows key (Dict.get? (view.extra b).members key) :=
  (Fields.conform_iff (Fields.regular_without h.regular _)).mp (view.extra b).conform

/-- The members that a record is written with are in order. -/
theorem sorted_members (h : view.Sound read) (b : β) : Dict.Sorted (view.members b) :=
  (h.extra_iff b).1.insertAll _

/-- A part stands under its field. -/
theorem get?_members_of_mem (h : view.Sound read) {b : β} {e : String × Option Json}
    (he : e ∈ view.values b) : Dict.get? (view.members b) e.1 = e.2 := by
  have hname : e.1 ∈ view.names := h.keys b ▸ List.mem_map_of_mem he
  refine Dict.get?_insertAll_of_mem (h.keys b ▸ h.nodup) he ?_
  exact (Fields.allows_without_of_mem hname).mp ((h.extra_iff b).2 e.1)

/-- A member that the view does not name is what the record passes on unread. -/
theorem get?_members_of_not_mem (h : view.Sound read) (b : β) {key : String}
    (hkey : key ∉ view.names) :
    Dict.get? (view.members b) key = Dict.get? (view.extra b).members key :=
  Dict.get?_insertAll_of_not_mem ((h.keys b).symm ▸ hkey)

/-- A value is written as a record. -/
theorem conform_members (h : view.Sound read) (b : β) : fields.conform (view.members b) = true := by
  refine (Fields.conform_iff h.regular).mpr ⟨h.sorted_members b, fun key => ?_⟩
  rcases h.mem_or_not_mem b key with ⟨e, he, rfl, -⟩ | hkey
  · rw [h.get?_members_of_mem he]
    exact h.allows b e he
  · rw [h.get?_members_of_not_mem b hkey]
    exact (Fields.allows_without_of_not_mem hkey).mp ((h.extra_iff b).2 key)

/-- The other members are picked back from all members. -/
theorem pick_members (h : view.Sound read) (b : β) :
    Extra.pick (fields.without view.names) (view.members b) = view.extra b := by
  have hreg := Fields.regular_without h.regular view.names
  have hpick := Fields.conform_pick (fields.without view.names) (view.members b)
  refine Extra.ext (Dict.Sorted.ext ((Fields.conform_iff hreg).mp hpick).1
    (h.extra_iff b).1 fun key => ?_)
  show Dict.get? ((fields.without view.names).pick (view.members b)) key = _
  -- A named key is not declared any more, and every other key picks what it holds.
  rcases h.mem_or_not_mem b key with ⟨e, he, rfl, hname⟩ | hkey
  · rw [(Fields.allows_without_of_mem hname).mp ((h.extra_iff b).2 e.1), Fields.get?_pick hreg,
      Fields.find?_without, if_pos hname]
  · have hget := h.get?_members_of_not_mem b hkey
    rw [Fields.get?_pick_of_allows hreg (hget ▸ (h.extra_iff b).2 key), hget]

/-- A written record with the parts and the other members of a value is written as it. -/
theorem eq_members (h : view.Sound read) {b : β} {ms : Dict Json} (hsorted : Dict.Sorted ms)
    (hvalues : ∀ e ∈ view.values b, Dict.get? ms e.1 = e.2)
    (hextra : ∀ key, key ∉ view.names →
      Dict.get? ms key = Dict.get? (view.extra b).members key) : ms = view.members b := by
  refine hsorted.ext (h.sorted_members b) fun key => ?_
  rcases h.mem_or_not_mem b key with ⟨e, he, rfl, -⟩ | hkey
  · rw [hvalues e he, h.get?_members_of_mem he]
  · rw [hextra key hkey, h.get?_members_of_not_mem b hkey]

/-- The values of the type are exactly the written forms of the record. -/
theorem codec (h : view.Sound read) (name : String) :
    (Schema.record name .lenient fields).Codec (fun j => some (read j))
      (fun b => .obj (view.members b)) where
  conforms b := by
    show fields.conform (view.members b) = true
    exact h.conform_members b
  notNull _ := rfl
  read_write b := by
    show some (read (.obj (view.members b))) = some b
    rw [h.reads b _ (fun e he => h.get?_members_of_mem he) (h.pick_members b)]
  exists_write j hj := by
    cases j with
    | obj ms =>
      have hconf : fields.conform ms = true := hj
      have hreg := Fields.regular_without h.regular view.names
      obtain ⟨hsorted, hallows⟩ := (Fields.conform_iff h.regular).mp hconf
      -- The value has the named parts, and the other members as they are picked.
      obtain ⟨b, hextra, hvalues⟩ := h.covers ms hconf (Extra.pick _ ms)
      refine ⟨b, congrArg Json.obj (h.eq_members hsorted hvalues fun key hkey => ?_)⟩
      rw [hextra]
      show _ = Dict.get? ((fields.without view.names).pick ms) key
      have hother := (Fields.allows_without_of_not_mem hkey).mpr (hallows key)
      rw [Fields.get?_pick_of_allows hreg hother]
    | _ => simp [Schema.conforms] at hj

/-- Fields are decoded to the members of a value exactly when each named field reads
its part, and the other fields are decoded to the other members. -/
theorem decode_eq_ok_iff (h : view.Sound read) {ms : Dict Json} {b : β} :
    fields.decode ms = .ok (view.members b) ↔
      (∀ e ∈ view.values b, fields.readMember ms e.1 = .ok e.2) ∧
        (fields.without view.names).decode ms = .ok (view.extra b).members := by
  have hreg := Fields.regular_without h.regular view.names
  rw [Fields.decode_eq_ok_iff h.regular, Fields.decode_eq_ok_iff hreg]
  -- Both sides say key by key what is read. Named and other keys are told apart.
  constructor
  · rintro ⟨-, hget⟩
    refine ⟨fun e he => ?_, (h.extra_iff b).1, fun key => ?_⟩
    · rw [hget, h.get?_members_of_mem he]
    · rcases h.mem_or_not_mem b key with ⟨e, he, rfl, hname⟩ | hkey
      · rw [Fields.readMember_without_of_mem hname,
          (Fields.allows_without_of_mem hname).mp ((h.extra_iff b).2 e.1)]
      · rw [Fields.readMember_without_of_not_mem hkey, hget, h.get?_members_of_not_mem b hkey]
  · rintro ⟨hvalues, -, hextra⟩
    refine ⟨h.sorted_members b, fun key => ?_⟩
    rcases h.mem_or_not_mem b key with ⟨e, he, rfl, -⟩ | hkey
    · rw [hvalues e he, h.get?_members_of_mem he]
    · rw [← Fields.readMember_without_of_not_mem hkey, hextra, h.get?_members_of_not_mem b hkey]

/-- An object denotes a value exactly when each named field reads its part, and the
other fields are decoded to the other members. -/
theorem denotes_iff (h : view.Sound read) {name : String} {ms : Dict Json} {b : β} :
    (Schema.record name .lenient fields).Denotes (fun b => .obj (view.members b)) b (.obj ms) ↔
      (∀ e ∈ view.values b, fields.readMember ms e.1 = .ok e.2) ∧
        (fields.without view.names).decode ms = .ok (view.extra b).members := by
  rw [← h.decode_eq_ok_iff]
  show Json.obj <$> fields.decode ms = .ok (.obj (view.members b)) ↔ _
  rw [map_eq_ok]
  constructor
  · rintro ⟨out, hout, heq⟩
    rw [hout, Json.obj.inj heq]
  · intro hout
    exact ⟨_, hout, rfl⟩

/-- Setting one named member of an object sets one part of the value it denotes. -/
theorem denotes_insert (h : view.Sound read) {name : String} {ms : Dict Json} {b b' : β}
    {key : String} {presence : Presence} {schema : Schema} {v part : Json}
    (hb : (Schema.record name .lenient fields).Denotes (fun b => .obj (view.members b)) b (.obj ms))
    (hkey : key ∈ view.names) (hf : fields.find? key = some (presence, schema))
    (hv : v.isNull = false) (hpart : schema.decode v = .ok part)
    (hextra : view.extra b' = view.extra b)
    (hvalues : view.values b' =
      (view.values b).map fun e => if e.1 = key then (key, some part) else e) :
    (Schema.record name .lenient fields).Denotes (fun b => .obj (view.members b)) b'
      (.obj (Dict.insert ms key v)) := by
  obtain ⟨hparts, hothers⟩ := h.denotes_iff.mp hb
  refine h.denotes_iff.mpr ⟨fun e he => ?_, ?_⟩
  · rw [hvalues, List.mem_map] at he
    obtain ⟨f, hmem, rfl⟩ := he
    split
    · rw [Fields.readMember, hf, Dict.get?_insert_self]
      exact Fields.readField_of_decode hv hpart
    · rename_i hne
      rw [← hparts f hmem, Fields.readMember, Fields.readMember, Dict.get?_insert_of_ne _ _ hne]
  · -- The other fields do not read the key that is set.
    rw [hextra, ← hothers]
    refine Fields.decode_congr fun other hother => Dict.get?_insert_of_ne _ _ ?_
    rintro rfl
    rw [Fields.mem_names_iff, Fields.find?_without, if_pos hkey] at hother
    exact absurd hother (by simp)

/-- A part that is not the default of its field comes from a member of the object. -/
theorem exists_member (h : view.Sound read) (key : String) (part : Json) {name : String}
    {ms : Dict Json} {b : β} {presence : Presence} {schema : Schema}
    (hb : (Schema.record name .lenient fields).Denotes (fun b => .obj (view.members b)) b (.obj ms))
    (hf : fields.find? key = some (presence, schema)) (hmem : (key, some part) ∈ view.values b)
    (hpart : presence = .optional ∨ part ≠ schema.default) :
    ∃ j, Dict.get? ms key = some j ∧ schema.decode j = .ok part := by
  have hread := (h.denotes_iff.mp hb).1 _ hmem
  rw [Fields.readMember, hf] at hread
  exact Fields.exists_of_readField hread hpart

end Sound

end Fields.View

end SidecarInjection
