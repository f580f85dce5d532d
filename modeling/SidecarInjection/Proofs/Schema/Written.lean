import SidecarInjection.Proofs.Schema.Field

/-!
# `SidecarInjection.Proofs.Schema.Written`: decoding and written forms

`Schema.decode` turns any JSON value of a shape into its written form, and
`Schema.conforms` tests for written forms. In a regular shape the two agree:

* `Schema.decode_of_conforms`: a written form decodes to itself.
* `Schema.conforms_of_decode`: what decoding gives is a written form.
* `Schema.member?_of_decode`: a member in written form is kept.
-/

set_option autoImplicit false

namespace SidecarInjection

open Outcome

/-- Decoding reads the declared members only. -/
theorem Fields.decode_congr {fields : Fields} {members members' : Dict Json}
    (h : ∀ key ∈ fields.names, Dict.get? members key = Dict.get? members' key) :
    fields.decode members = fields.decode members' := by
  induction fields with
  | nil => rfl
  | cons name presence schema rest ih =>
    have hrest : rest.decode members = rest.decode members' :=
      ih fun key hkey => h key (List.mem_cons_of_mem _ hkey)
    rw [Fields.decode_cons, Fields.decode_cons, h name List.mem_cons_self, hrest]

/-- A field reads a value that its shape keeps as that value. -/
theorem Fields.readField_of_admits {presence : Presence} {schema : Schema} {v : Json}
    (ha : presence.admits v = true) (hc : schema.conforms v = true)
    (h : schema.decode v = .ok v) :
    Fields.readField presence schema (some v) = .ok (some v) := by
  have hread : some <$> schema.decode v = .ok (some v) := by rw [h, map_ok]
  cases v with
  | null =>
    cases presence with
    | optional => simp [Presence.admits, Json.isNull] at ha
    | required =>
      -- `null` is a written form of the shape without limits alone.
      cases schema <;> simp [Schema.conforms] at hc
      rfl
    | defaulted => exact hread
  | _ => cases presence <;> exact hread

/-- A value that is not `null` does not decode to `null`. -/
theorem Schema.isNull_of_decode {s : Schema} (hreg : s.regular = true) {j n : Json}
    (hj : j.isNull = false) (h : s.decode j = .ok n) : n.isNull = false := by
  unfold Schema.decode at h
  split at h
  case h_7 =>
    cases h
    exact hj
  case h_9 =>
    obtain ⟨items, -, rfl⟩ := map_eq_ok.mp h
    rfl
  case h_10 =>
    obtain ⟨members, -, rfl⟩ := map_eq_ok.mp h
    rfl
  case h_11 =>
    obtain ⟨members, -, rfl⟩ := map_eq_ok.mp h
    rfl
  -- A list of values is read by strict records only, and these are not regular.
  case h_12 => simp [Schema.regular] at hreg
  case h_13 => cases h
  -- The scalars are written as they are read, some of them after a check of their range.
  all_goals first
    | (cases h; rfl)
    | (split at h <;> cases h; rfl)

mutual

/-- A written form decodes to itself. -/
theorem Schema.decode_of_conforms {s : Schema} (hreg : s.regular = true) {j : Json}
    (h : s.conforms j = true) : s.decode j = .ok j := by
  unfold Schema.conforms at h
  split at h
  -- Lists, maps and records decode their parts, which are written forms themselves.
  case h_9 item items =>
    have hitems : ∀ i ∈ items, item.decode i = .ok i := fun i hi =>
      Schema.decode_of_conforms (by simpa [Schema.regular] using hreg) (List.all_eq_true.mp h i hi)
    simp [Schema.decode, mapM_eq_self hitems]
  case h_10 value members =>
    have hmembers : ∀ e ∈ members, (fun v => (e.1, v)) <$> value.decode e.2 = .ok e := by
      intro e he
      rw [Schema.decode_of_conforms (by simpa [Schema.regular] using hreg)
        (List.all_eq_true.mp h e he)]
      rfl
    simp [Schema.decode, mapM_eq_self hmembers]
  case h_11 name layout fields members =>
    have hfields : fields.regular = true := by
      cases layout with
      | lenient => exact hreg
      | strict order => simp [Schema.regular] at hreg
    simp [Schema.decode, Fields.decode_of_conform hfields h]
  case h_12 => cases h
  all_goals simp_all [Schema.decode]

/-- Written members decode to themselves. -/
theorem Fields.decode_of_conform {fields : Fields} (hreg : fields.regular = true)
    {members : Dict Json} (h : fields.conform members = true) :
    fields.decode members = .ok members := by
  match fields with
  | .nil =>
    cases members with
    | nil => rfl
    | cons e members => simp [Fields.conform] at h
  | .cons name presence schema rest =>
    obtain ⟨hlt, hs, hr⟩ := Fields.regular_cons hreg
    obtain ⟨value, others, rfl, hrest, hvalue⟩ := Fields.conform_cons_iff.mp h
    have hothers : ∀ e ∈ others, name < e.1 :=
      fun e he => hlt e.1 (Fields.mem_names_of_conform hrest e he)
    have hread : Fields.readField presence schema value = .ok value := by
      rw [Fields.allows_cons_self] at hvalue
      cases value with
      | none =>
        cases hvalue
        rfl
      | some v =>
        exact Fields.readField_of_admits hvalue.1 hvalue.2 (Schema.decode_of_conforms hs hvalue.2)
    -- The member in front is not one of the other fields, so they do not read it.
    have htail : rest.decode (Fields.consSome name value others) = .ok others := by
      rw [← Fields.decode_of_conform hr hrest]
      refine Fields.decode_congr fun key hkey => ?_
      have hne : key ≠ name := fun he => String.lt_irrefl name (hlt name (he ▸ hkey))
      rw [Fields.get?_consSome value hothers, if_neg hne]
    rw [Fields.decode_cons, Fields.get?_consSome value hothers, if_pos rfl, hread, ok_bind,
      htail, ok_bind]

end

/-- A field allows what it reads when decoding gives written forms of its shape. -/
theorem Fields.allows_of_readField {name : String} {presence : Presence} {schema : Schema}
    {rest : Fields} (hreg : schema.regular = true)
    (hconf : ∀ j n, schema.decode j = .ok n → schema.conforms n = true) {given value : Option Json}
    (h : Fields.readField presence schema given = .ok value) :
    (Fields.cons name presence schema rest).allows name value := by
  rw [Fields.allows_cons_self]
  -- Nothing is read, or a default, or what the shape decodes.
  unfold Fields.readField at h
  split at h
  · cases h
    rfl
  · cases h
    rfl
  · cases h
    exact ⟨rfl, schema.conforms_default⟩
  · cases h
    exact ⟨rfl, schema.conforms_default⟩
  · cases h
    exact ⟨rfl, schema.conforms_default⟩
  · rename_i j hnull _
    obtain ⟨n, hn, rfl⟩ := map_eq_ok.mp h
    refine ⟨?_, hconf j n hn⟩
    -- Only an optional field does not admit `null`, and it has read no `null`.
    cases presence with
    | optional =>
      have hj : j.isNull = false := by
        cases j with
        | null => exact absurd rfl (hnull rfl)
        | _ => rfl
      simp [Presence.admits, Schema.isNull_of_decode hreg hj hn]
    | _ => rfl

mutual

/-- What decoding gives is a written form. -/
theorem Schema.conforms_of_decode {s : Schema} (hreg : s.regular = true) {j n : Json}
    (h : s.decode j = .ok n) : s.conforms n = true := by
  unfold Schema.decode at h
  split at h
  case h_7 => simp [Schema.conforms]
  case h_9 item items =>
    obtain ⟨out, hout, rfl⟩ := map_eq_ok.mp h
    simp only [Schema.conforms, List.all_eq_true]
    intro i hi
    obtain ⟨given, -, hgiven⟩ := exists_of_mapM hout hi
    exact Schema.conforms_of_decode (by simpa [Schema.regular] using hreg) hgiven
  case h_10 value members =>
    obtain ⟨out, hout, rfl⟩ := map_eq_ok.mp h
    simp only [Schema.conforms, List.all_eq_true]
    intro e he
    obtain ⟨given, -, hgiven⟩ := exists_of_mapM hout he
    obtain ⟨v, hv, rfl⟩ := map_eq_ok.mp hgiven
    exact Schema.conforms_of_decode (by simpa [Schema.regular] using hreg) hv
  case h_11 name layout fields members =>
    obtain ⟨out, hout, rfl⟩ := map_eq_ok.mp h
    have hfields : fields.regular = true := by
      cases layout with
      | lenient => exact hreg
      | strict order => simp [Schema.regular] at hreg
    exact Fields.conform_of_decode hfields hout
  -- Strict records are not regular.
  case h_12 => simp [Schema.regular] at hreg
  case h_13 => cases h
  -- A scalar is written as it was read, within the range that was checked.
  all_goals first
    | (cases h; simp [Schema.conforms])
    | (split at h <;> cases h; simp [Schema.conforms, *])

/-- Decoded members are written members. -/
theorem Fields.conform_of_decode {fields : Fields} (hreg : fields.regular = true)
    {members out : Dict Json} (h : fields.decode members = .ok out) :
    fields.conform out = true := by
  match fields with
  | .nil =>
    cases h
    rfl
  | .cons name presence schema rest =>
    obtain ⟨-, hs, hr⟩ := Fields.regular_cons hreg
    rw [Fields.decode_cons] at h
    obtain ⟨value, hvalue, h⟩ := bind_eq_ok.mp h
    obtain ⟨others, hothers, h⟩ := bind_eq_ok.mp h
    cases h
    exact Fields.conform_cons_iff.mpr
      ⟨value, others, rfl, Fields.conform_of_decode hr hothers,
        Fields.allows_of_readField hs (fun _ _ => Schema.conforms_of_decode hs) hvalue⟩

end

/-- A field that may hold what an object has reads just that. -/
theorem Fields.readMember_of_allows {fields : Fields} (hreg : fields.regular = true)
    {members : Dict Json} {key : String} (h : fields.allows key (Dict.get? members key)) :
    fields.readMember members key = .ok (Dict.get? members key) := by
  unfold Fields.allows at h
  unfold Fields.readMember
  cases hfind : fields.find? key with
  | none =>
    rw [hfind] at h
    rw [h]
  | some field =>
    obtain ⟨presence, schema⟩ := field
    rw [hfind] at h
    cases hget : Dict.get? members key with
    | none =>
      rw [hget] at h
      cases h
      rfl
    | some v =>
      rw [hget] at h
      have hschema := Fields.regular_of_find? fields key hreg hfind
      -- A present value is a written form, which decodes to itself.
      exact Fields.readField_of_admits h.1 h.2 (Schema.decode_of_conforms hschema h.2)

/-- A member that is what its field may hold is kept by decoding. -/
theorem Schema.member?_of_decode {name : String} {fields : Fields} (hreg : fields.regular = true)
    {j n : Json} (h : (Schema.record name .lenient fields).decode j = .ok n) {key : String}
    (hallows : fields.allows key (j.member? key)) : n.member? key = j.member? key := by
  cases j with
  | obj ms =>
    obtain ⟨out, hout, rfl⟩ := map_eq_ok.mp h
    have hread := (Fields.get?_of_decode hreg hout).2 key
    exact Except.ok.inj (hread.symm.trans (Fields.readMember_of_allows hreg hallows))
  | _ => cases h

end SidecarInjection
