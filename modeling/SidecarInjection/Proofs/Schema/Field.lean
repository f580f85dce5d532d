import SidecarInjection.Proofs.Outcome
import SidecarInjection.Schema.Decode
import SidecarInjection.Schema.Extra

/-!
# `SidecarInjection.Proofs.Schema.Field`: records, one field at a time

A record is decoded, tested and picked from field after field. In a shape whose
field names ascend, each of these says the same as a statement about every
member on its own:

* `Fields.decode_eq_ok_iff`: decoding gives the sorted members that each field
  reads.
* `Fields.conform_iff`: members are a written record when they are sorted and
  each field allows its own.
* `Fields.get?_pick`: a picked member is the one its field picks.
-/

set_option autoImplicit false

namespace SidecarInjection

open Outcome

/-- Induction on the fields of a record, from the last one. The shapes of the fields are
left as they are. -/
@[induction_eliminator]
theorem Fields.induction {motive : Fields → Prop} (nil : motive .nil)
    (cons : ∀ name presence schema rest, motive rest → motive (.cons name presence schema rest))
    (fields : Fields) : motive fields :=
  @Fields.rec (fun _ => True) motive trivial trivial trivial trivial trivial trivial
    (fun _ => trivial) (fun _ _ => trivial) (fun _ _ => trivial) (fun _ _ _ _ => trivial) nil
    (fun name presence schema rest _ ih => cons name presence schema rest ih) fields

/-- The names of the fields, in order. -/
def Fields.names : Fields → List String
  | .nil => []
  | .cons name _ _ rest => name :: rest.names

/-- What is declared about a field. -/
def Fields.find? : Fields → String → Option (Presence × Schema)
  | .nil, _ => none
  | .cons name presence schema rest, key =>
    if name = key then some (presence, schema) else rest.find? key

/-- Whether fields begin after a name. -/
def Fields.beginAfter (name : String) : Fields → Bool
  | .nil => true
  | .cons next _ _ _ => name < next

mutual

/-- Whether all records in a shape are given by members alone and list their
fields in ascending order of the names. -/
def Schema.regular : Schema → Bool
  | .list item => item.regular
  | .map value => value.regular
  | .record _ .lenient fields => fields.regular
  | .record _ (.strict _) _ => false
  | _ => true

/-- Whether the field names ascend and the shapes of the fields are regular. -/
def Fields.regular : Fields → Bool
  | .nil => true
  | .cons name _ schema rest =>
    rest.beginAfter name && schema.regular && rest.regular

end

/-- The member that a field reads from what an object holds under its name. -/
def Fields.readField (presence : Presence) (schema : Schema) (value : Option Json) :
    Except DecodeError (Option Json) :=
  match presence, value with
  | .optional, none => .ok none
  | .optional, some .null => .ok none
  | .required, none => .ok (some schema.default)
  | .required, some .null => .ok (some schema.default)
  | .defaulted, none => .ok (some schema.default)
  | _, some j => some <$> schema.decode j

/-- The member that a record reads under a key. Keys that are not declared are dropped. -/
def Fields.readMember (fields : Fields) (members : Dict Json) (key : String) :
    Except DecodeError (Option Json) :=
  match fields.find? key with
  | none => .ok none
  | some (presence, schema) => readField presence schema (Dict.get? members key)

/-- Whether a written record may hold this under a key. -/
def Fields.allows (fields : Fields) (key : String) (value : Option Json) : Prop :=
  match fields.find? key with
  | none => value = none
  | some (presence, schema) =>
    match value with
    | none => presence = .optional
    | some v => presence.admits v = true ∧ schema.conforms v = true

/-! ### Names -/

/-- Regular fields that begin after a name have greater names only. -/
theorem Fields.lt_of_beginAfter {name : String} {fields : Fields}
    (hreg : fields.regular = true) (h : fields.beginAfter name = true) :
    ∀ other ∈ fields.names, name < other := by
  induction fields generalizing name with
  | nil => simp [Fields.names]
  | cons next presence schema rest ih =>
    have hnext : name < next := by simpa [Fields.beginAfter] using h
    simp only [Fields.regular, Bool.and_eq_true] at hreg
    have hrest := ih hreg.2 hreg.1.1
    simp only [Fields.names, List.forall_mem_cons]
    exact ⟨hnext, fun other ho => String.lt_trans hnext (hrest other ho)⟩

/-- The first field of a regular shape has the lowest name, and a regular shape of its own. -/
theorem Fields.regular_cons {name : String} {presence : Presence} {schema : Schema}
    {rest : Fields} (h : (Fields.cons name presence schema rest).regular = true) :
    (∀ other ∈ rest.names, name < other) ∧ schema.regular = true ∧ rest.regular = true := by
  simp only [Fields.regular, Bool.and_eq_true] at h
  exact ⟨Fields.lt_of_beginAfter h.2 h.1.1, h.1.2, h.2⟩

/-- The names are those for which a field is found. -/
theorem Fields.mem_names_iff (fields : Fields) (key : String) :
    key ∈ fields.names ↔ (fields.find? key).isSome = true := by
  induction fields with
  | nil => simp [Fields.names, Fields.find?]
  | cons name presence schema rest ih =>
    by_cases h : name = key
    · simp [Fields.names, Fields.find?, h]
    · simp [Fields.names, Fields.find?, h, Ne.symm h, ih]

/-- Other names have no field. -/
theorem Fields.find?_eq_none {fields : Fields} {key : String} (h : key ∉ fields.names) :
    fields.find? key = none := by
  rw [fields.mem_names_iff key] at h
  simpa using h

/-- A name that is less than every field name is not declared. -/
theorem Fields.not_mem_names_of_lt {fields : Fields} {key : String}
    (h : ∀ other ∈ fields.names, key < other) : key ∉ fields.names :=
  fun hk => String.lt_irrefl key (h key hk)

/-- Without some names, the other fields are found as before. -/
theorem Fields.find?_without (names : List String) (fields : Fields) (key : String) :
    (fields.without names).find? key = if key ∈ names then none else fields.find? key := by
  induction fields with
  | nil => simp [Fields.without, Fields.find?]
  | cons name presence schema rest ih =>
    by_cases hn : name ∈ names
    -- The first field is the one sought, or it does not matter whether it is left out.
    · by_cases hk : name = key
      · subst hk
        simp [Fields.without, hn, ih]
      · simp [Fields.without, Fields.find?, hn, hk, ih]
    · by_cases hk : name = key
      · subst hk
        simp [Fields.without, Fields.find?, hn]
      · simp [Fields.without, Fields.find?, hn, hk, ih]

/-- No names come in when some are left out. -/
theorem Fields.mem_names_without {names : List String} {fields : Fields} {key : String}
    (h : key ∈ (fields.without names).names) : key ∈ fields.names := by
  rw [Fields.mem_names_iff, Fields.find?_without] at h
  rw [Fields.mem_names_iff]
  split at h
  · simp at h
  · exact h

/-- A regular shape stays regular without some of its fields. -/
theorem Fields.regular_without {fields : Fields} (h : fields.regular = true)
    (names : List String) : (fields.without names).regular = true := by
  induction fields with
  | nil => rfl
  | cons name presence schema rest ih =>
    obtain ⟨hlt, hs, hr⟩ := Fields.regular_cons h
    unfold Fields.without
    split
    · exact ih hr
    · -- The next field that is kept comes later, so its name is greater too.
      have hbegin : (rest.without names).beginAfter name = true := by
        cases hrest : rest.without names with
        | nil => rfl
        | cons next presence' schema' rest' =>
          have hnext : next ∈ (rest.without names).names := hrest ▸ List.mem_cons_self
          simpa [Fields.beginAfter] using hlt next (Fields.mem_names_without hnext)
      simp [Fields.regular, hbegin, hs, ih hr]

/-- The shape of a declared field of regular fields is regular. -/
theorem Fields.regular_of_find? (fields : Fields) (key : String) (h : fields.regular = true)
    {presence : Presence} {schema : Schema} (hf : fields.find? key = some (presence, schema)) :
    schema.regular = true := by
  induction fields with
  | nil => simp [Fields.find?] at hf
  | cons name presence' schema' rest ih =>
    obtain ⟨-, hs, hr⟩ := Fields.regular_cons h
    by_cases hname : name = key
    · simp only [Fields.find?, hname, if_true, Option.some.injEq, Prod.mk.injEq] at hf
      exact hf.2 ▸ hs
    · exact ih hr (by simpa [Fields.find?, hname] using hf)

/-! ### Decoding -/

/-- Members with one more in front, if there is a value for it. -/
def Fields.consSome (name : String) (value : Option Json) (others : Dict Json) : Dict Json :=
  match value with
  | none => others
  | some v => (name, v) :: others

/-- The first field of a record is read before the others. -/
theorem Fields.decode_cons (name : String) (presence : Presence) (schema : Schema)
    (rest : Fields) (members : Dict Json) :
    (Fields.cons name presence schema rest).decode members
      = (do
          let value ← Fields.readField presence schema (Dict.get? members name)
          let others ← rest.decode members
          .ok (Fields.consSome name value others)) := by
  -- The match in the definition reduces on constructors alone.
  simp only [Fields.decode, Fields.readField]
  unfold Fields.consSome
  cases Dict.get? members name with
  | none => cases presence <;> rfl
  | some j => cases presence <;> cases j <;> rfl

/-- A member of the lowest name in front keeps the order. -/
theorem Fields.sorted_consSome {name : String} (value : Option Json) {others : Dict Json}
    (hlt : ∀ e ∈ others, name < e.1) (hs : Dict.Sorted others) :
    Dict.Sorted (Fields.consSome name value others) := by
  cases value with
  | none => exact hs
  | some v => exact Dict.sorted_cons.mpr ⟨hlt, hs⟩

/-- It is found under its name, and the others as before. -/
theorem Fields.get?_consSome {name : String} (value : Option Json) {others : Dict Json}
    (hlt : ∀ e ∈ others, name < e.1) (key : String) :
    Dict.get? (Fields.consSome name value others) key
      = if key = name then value else Dict.get? others key := by
  cases value with
  | none =>
    simp only [Fields.consSome]
    split
    · rename_i hk
      rw [hk, Dict.get?_eq_none_of_lt hlt]
    · rfl
  | some v => simp [Fields.consSome, eq_comm]

/-- Nothing but the member comes in. -/
theorem Fields.mem_consSome {name : String} {value : Option Json} {others : Dict Json}
    {e : String × Json} (h : e ∈ Fields.consSome name value others) : e.1 = name ∨ e ∈ others := by
  cases value with
  | none => exact .inr h
  | some v =>
    cases h with
    | head => exact .inl rfl
    | tail _ h => exact .inr h

/-- The keys of decoded members are names of fields. -/
theorem Fields.mem_names_of_decode {fields : Fields} {members out : Dict Json}
    (h : fields.decode members = .ok out) : ∀ e ∈ out, e.1 ∈ fields.names := by
  induction fields generalizing out with
  | nil =>
    cases h
    simp
  | cons name presence schema rest ih =>
    rw [Fields.decode_cons] at h
    obtain ⟨value, hvalue, h⟩ := bind_eq_ok.mp h
    obtain ⟨others, hothers, h⟩ := bind_eq_ok.mp h
    cases h
    intro e he
    -- Only the first field writes its own name.
    cases Fields.mem_consSome he with
    | inl hname => exact hname ▸ List.mem_cons_self
    | inr he => exact List.mem_cons_of_mem _ (ih hothers e he)

/-- Decoding gives sorted members, and under each key what its field reads. -/
theorem Fields.get?_of_decode {fields : Fields} (hreg : fields.regular = true)
    {members out : Dict Json} (h : fields.decode members = .ok out) :
    Dict.Sorted out ∧ ∀ key, fields.readMember members key = .ok (Dict.get? out key) := by
  induction fields generalizing out with
  | nil =>
    cases h
    exact ⟨Dict.sorted_nil, fun _ => rfl⟩
  | cons name presence schema rest ih =>
    obtain ⟨hlt, -, hr⟩ := Fields.regular_cons hreg
    rw [Fields.decode_cons] at h
    obtain ⟨value, hvalue, h⟩ := bind_eq_ok.mp h
    obtain ⟨others, hothers, h⟩ := bind_eq_ok.mp h
    obtain ⟨hsorted, hget⟩ := ih hr hothers
    have hothersLt : ∀ e ∈ others, name < e.1 :=
      fun e he => hlt e.1 (Fields.mem_names_of_decode hothers e he)
    cases h
    refine ⟨Fields.sorted_consSome value hothersLt hsorted, fun key => ?_⟩
    rw [Fields.get?_consSome value hothersLt]
    -- The key is read by the first field, or by one of the others as before.
    by_cases hk : key = name
    · subst hk
      simp only [Fields.readMember, Fields.find?, if_true, hvalue]
    · have hk' : ¬ name = key := Ne.symm hk
      have hkey := hget key
      simp only [Fields.readMember, Fields.find?, hk, hk', if_false] at hkey ⊢
      exact hkey

/-- Decoding succeeds when every field reads a member. -/
theorem Fields.exists_decode {fields : Fields} {members : Dict Json}
    (h : ∀ key ∈ fields.names, ∃ value, fields.readMember members key = .ok value)
    (hreg : fields.regular = true) : ∃ out, fields.decode members = .ok out := by
  induction fields with
  | nil => exact ⟨[], rfl⟩
  | cons name presence schema rest ih =>
    obtain ⟨hlt, -, hr⟩ := Fields.regular_cons hreg
    obtain ⟨value, hvalue⟩ := h name List.mem_cons_self
    simp only [Fields.readMember, Fields.find?, if_true] at hvalue
    -- The names differ, so the first field does not hide any other one.
    have hrest : ∀ key ∈ rest.names, ∃ value, rest.readMember members key = .ok value := by
      intro key hkey
      have hne : ¬ name = key := fun he => String.lt_irrefl name (he ▸ hlt key hkey)
      obtain ⟨v, hv⟩ := h key (List.mem_cons_of_mem _ hkey)
      simp only [Fields.readMember, Fields.find?, hne, if_false] at hv
      exact ⟨v, hv⟩
    obtain ⟨others, hothers⟩ := ih hrest hr
    refine ⟨Fields.consSome name value others, ?_⟩
    rw [Fields.decode_cons, hvalue, ok_bind, hothers, ok_bind]

/-- Decoding gives exactly the sorted members that the fields read. -/
theorem Fields.decode_eq_ok_iff {fields : Fields} (hreg : fields.regular = true)
    {members out : Dict Json} :
    fields.decode members = .ok out ↔
      Dict.Sorted out ∧ ∀ key, fields.readMember members key = .ok (Dict.get? out key) := by
  constructor
  · exact Fields.get?_of_decode hreg
  · rintro ⟨hsorted, hget⟩
    obtain ⟨out', hout⟩ := Fields.exists_decode (fun key _ => ⟨_, hget key⟩) hreg
    obtain ⟨hsorted', hget'⟩ := Fields.get?_of_decode hreg hout
    -- Sorted members with the same values are the same members.
    have heq : out' = out := hsorted'.ext hsorted fun key =>
      Except.ok.inj ((hget' key).symm.trans (hget key))
    rw [hout, heq]

/-! ### Written records -/

/-- What the first field allows is said by its own presence and shape. -/
theorem Fields.allows_cons_self {name : String} {presence : Presence} {schema : Schema}
    {rest : Fields} {value : Option Json} :
    (Fields.cons name presence schema rest).allows name value ↔
      match value with
      | none => presence = .optional
      | some v => presence.admits v = true ∧ schema.conforms v = true := by
  simp [Fields.allows, Fields.find?]

/-- What other names allow is said by the other fields. -/
theorem Fields.allows_cons_of_ne {name : String} {presence : Presence} {schema : Schema}
    {rest : Fields} {key : String} {value : Option Json} (h : key ≠ name) :
    (Fields.cons name presence schema rest).allows key value ↔ rest.allows key value := by
  simp [Fields.allows, Fields.find?, Ne.symm h]

/-- A written record is the member of the first field, if any, before the members of
the other fields. -/
theorem Fields.conform_cons_iff {name : String} {presence : Presence} {schema : Schema}
    {rest : Fields} {members : Dict Json} :
    (Fields.cons name presence schema rest).conform members = true ↔
      ∃ value others, members = Fields.consSome name value others ∧
        rest.conform others = true ∧
        (Fields.cons name presence schema rest).allows name value := by
  simp only [Fields.allows_cons_self]
  constructor
  · intro h
    cases members with
    | nil =>
      simp only [Fields.conform, Bool.and_eq_true, beq_iff_eq] at h
      exact ⟨none, [], rfl, h.2, h.1⟩
    | cons e members =>
      obtain ⟨k, v⟩ := e
      -- A member in front is the value of the first field, or the field has none and leaves it.
      simp only [Fields.conform, Bool.or_eq_true, Bool.and_eq_true, beq_iff_eq] at h
      rcases h with ⟨⟨⟨hk, ha⟩, hc⟩, hrest⟩ | ⟨ho, hrest⟩
      · exact ⟨some v, members, by rw [hk]; rfl, hrest, ha, hc⟩
      · exact ⟨none, (k, v) :: members, rfl, hrest, ho⟩
  · rintro ⟨value, others, rfl, hrest, hvalue⟩
    cases value with
    | none =>
      simp only at hvalue
      cases others with
      | nil => simp [Fields.consSome, Fields.conform, hvalue, hrest]
      | cons e others => simp [Fields.consSome, Fields.conform, hvalue, hrest]
    | some v => simp [Fields.consSome, Fields.conform, hvalue, hrest]

/-- Written members have names of fields. -/
theorem Fields.mem_names_of_conform {fields : Fields} {members : Dict Json}
    (h : fields.conform members = true) : ∀ e ∈ members, e.1 ∈ fields.names := by
  induction fields generalizing members with
  | nil =>
    cases members with
    | nil => simp
    | cons e members => simp [Fields.conform] at h
  | cons name presence schema rest ih =>
    obtain ⟨value, others, rfl, hrest, -⟩ := Fields.conform_cons_iff.mp h
    intro e he
    cases Fields.mem_consSome he with
    | inl hname => exact hname ▸ List.mem_cons_self
    | inr he => exact List.mem_cons_of_mem _ (ih hrest e he)

/-- Sorted members without a key below `name` begin with the member of that name, if
they have one. -/
theorem Fields.exists_consSome {name : String} {members : Dict Json}
    (hs : Dict.Sorted members) (hle : ∀ e ∈ members, e.1 ≠ name → name < e.1) :
    ∃ others, members = Fields.consSome name (Dict.get? members name) others ∧
      Dict.Sorted others ∧ ∀ e ∈ others, name < e.1 := by
  cases members with
  | nil => exact ⟨[], rfl, Dict.sorted_nil, by simp⟩
  | cons e rest =>
    obtain ⟨k, v⟩ := e
    obtain ⟨hlt, hrest⟩ := Dict.sorted_cons.mp hs
    by_cases hk : k = name
    · subst hk
      refine ⟨rest, ?_, hrest, hlt⟩
      simp [Fields.consSome]
    -- Another name in front is greater, and the sorting puts all later ones above it.
    · have hname : name < k := hle (k, v) List.mem_cons_self hk
      have hall : ∀ e ∈ (k, v) :: rest, name < e.1 := by
        simp only [List.forall_mem_cons]
        exact ⟨hname, fun e he => String.lt_trans hname (hlt e he)⟩
      refine ⟨(k, v) :: rest, ?_, hs, hall⟩
      rw [Dict.get?_eq_none_of_lt hall]
      rfl

/-- Members are a written record when they are sorted and each field allows its own. -/
theorem Fields.conform_iff {fields : Fields} (hreg : fields.regular = true)
    {members : Dict Json} :
    fields.conform members = true ↔
      Dict.Sorted members ∧ ∀ key, fields.allows key (Dict.get? members key) := by
  induction fields generalizing members with
  | nil =>
    cases members with
    | nil => simp [Fields.conform, Fields.allows, Fields.find?]
    | cons e members =>
      simp only [Fields.conform, Bool.false_eq_true, false_iff, not_and]
      intro _ h
      simpa [Fields.allows, Fields.find?] using h e.1
  | cons name presence schema rest ih =>
    obtain ⟨hlt, -, hr⟩ := Fields.regular_cons hreg
    constructor
    · intro h
      obtain ⟨value, others, rfl, hrest, hvalue⟩ := Fields.conform_cons_iff.mp h
      have hothers : ∀ e ∈ others, name < e.1 :=
        fun e he => hlt e.1 (Fields.mem_names_of_conform hrest e he)
      obtain ⟨hsorted, hallows⟩ := (ih hr).mp hrest
      refine ⟨Fields.sorted_consSome value hothers hsorted, fun key => ?_⟩
      rw [Fields.get?_consSome value hothers]
      by_cases hk : key = name
      · subst hk
        simpa using hvalue
      · rw [if_neg hk, Fields.allows_cons_of_ne hk]
        exact hallows key
    · rintro ⟨hsorted, hallows⟩
      -- Every key is declared, and the names of the other fields are greater.
      have hle : ∀ e ∈ members, e.1 ≠ name → name < e.1 := by
        intro e he hne
        have hallowed := hallows e.1
        rw [Fields.allows_cons_of_ne hne] at hallowed
        have hmem : e.1 ∈ rest.names := by
          rw [Fields.mem_names_iff]
          obtain ⟨v, hv⟩ := Option.isSome_iff_exists.mp (Dict.get?_isSome_of_mem he)
          unfold Fields.allows at hallowed
          split at hallowed
          · simp [hv] at hallowed
          · rename_i hfind
            simp [hfind]
        exact hlt e.1 hmem
      obtain ⟨others, hmembers, hs, hothers⟩ := Fields.exists_consSome hsorted hle
      refine Fields.conform_cons_iff.mpr
        ⟨Dict.get? members name, others, hmembers, (ih hr).mpr ⟨hs, fun key => ?_⟩,
          hallows name⟩
      by_cases hk : key = name
      · -- The name of the first field is not declared by the others.
        have hnone : rest.find? key = none :=
          Fields.find?_eq_none (Fields.not_mem_names_of_lt (hk ▸ hlt))
        simp only [Fields.allows, hnone]
        exact Dict.get?_eq_none_of_lt (hk ▸ hothers)
      · have hkey := hallows key
        rw [Fields.allows_cons_of_ne hk, hmembers, Fields.get?_consSome _ hothers,
          if_neg hk] at hkey
        exact hkey

/-! ### Picking -/

/-- The member of the first field is picked, and then those of the others. -/
theorem Fields.pick_cons (name : String) (presence : Presence) (schema : Schema)
    (rest : Fields) (members : Dict Json) :
    (Fields.cons name presence schema rest).pick members
      = Fields.consSome name (Fields.pickField presence schema (Dict.get? members name))
          (rest.pick members) := by
  simp only [Fields.pick, Fields.consSome]
  cases Fields.pickField presence schema (Dict.get? members name) <;> rfl

/-- A picked member is the one its field picks. -/
theorem Fields.get?_pick {fields : Fields} (hreg : fields.regular = true) (members : Dict Json)
    (key : String) :
    Dict.get? (fields.pick members) key =
      match fields.find? key with
      | none => none
      | some (presence, schema) => Fields.pickField presence schema (Dict.get? members key) := by
  induction fields with
  | nil => rfl
  | cons name presence schema rest ih =>
    obtain ⟨hlt, -, hr⟩ := Fields.regular_cons hreg
    -- What the others pick has greater names, so the first field does not hide it.
    have hrest : ∀ e ∈ rest.pick members, name < e.1 :=
      fun e he => hlt e.1 (Fields.mem_names_of_conform (rest.conform_pick members) e he)
    rw [Fields.pick_cons, Fields.get?_consSome _ hrest, ih hr]
    by_cases hk : key = name
    · subst hk
      simp [Fields.find?]
    · simp [Fields.find?, hk, Ne.symm hk]

end SidecarInjection
