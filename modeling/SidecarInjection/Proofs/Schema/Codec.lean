import SidecarInjection.Pod.Container
import SidecarInjection.Proofs.Schema.Written

/-!
# `SidecarInjection.Proofs.Schema.Codec`: types as shapes

A `Schema.Codec` says that the values of a type are exactly the written forms of
a shape: every value has a written form, is read back from it, and every written
form is that of some value.

* `Schema.Denotes`: a JSON value decodes to the written form of a value.
* `Schema.denotes_list_iff`: a list denotes what its items denote.
* `Schema.Codec.decode_iff`: decoding gives a value exactly when the JSON value
  denotes it.
* `Schema.Codec.list`, `texts`, `textMap`: codecs of lists and maps.
* `Schema.Codec.exists_optional`, `exists_present`: what a field may hold is the
  written form of a value.
-/

set_option autoImplicit false

namespace SidecarInjection

open Outcome

namespace Schema

/-- A JSON value is read, in a shape, as the written form of `b`. It may hold more
than that: members that are not declared, and `null` for optional ones. -/
def Denotes {β : Type} (s : Schema) (write : β → Json) (b : β) (j : Json) : Prop :=
  s.decode j = .ok (write b)

/-- A list denotes the values that its items denote, in order. -/
theorem denotes_list_iff {β : Type} {s : Schema} {write : β → Json} {bs : List β}
    {items : List Json} :
    (list s).Denotes (fun bs => .arr (bs.map write)) bs (.arr items) ↔
      List.Forall₂ (s.Denotes write) bs items := by
  show Json.arr <$> items.mapM s.decode = .ok (.arr (bs.map write)) ↔ _
  rw [map_eq_ok]
  constructor
  · rintro ⟨out, hout, heq⟩
    rw [Json.arr.inj heq, mapM_eq_ok, List.forall₂_map_right_iff] at hout
    exact hout.flip
  · intro h
    exact ⟨bs.map write, mapM_eq_ok.mpr (List.forall₂_map_right_iff.mpr h.flip), rfl⟩

/-- What denotes a list is an array. -/
theorem exists_items_of_denotes {β : Type} {s : Schema} {write : β → Json} {bs : List β}
    {j : Json} (h : (list s).Denotes (fun bs => .arr (bs.map write)) bs j) :
    ∃ items, j = .arr items ∧ List.Forall₂ (s.Denotes write) bs items := by
  cases j with
  | arr items => exact ⟨items, rfl, denotes_list_iff.mp h⟩
  | _ => cases h

/-- What denotes a value written as a record is an object. -/
theorem exists_members_of_denotes {β : Type} {name : String} {fields : Fields}
    {write : β → Json} {b : β} {j : Json}
    (h : (record name .lenient fields).Denotes write b j) : ∃ ms, j = .obj ms := by
  cases j with
  | obj ms => exact ⟨ms, rfl⟩
  | _ => cases h

/-- The values of a type, with a reader and a writer, are the written forms of a shape. -/
structure Codec {β : Type} (s : Schema) (read : Json → Option β) (write : β → Json) : Prop where
  /-- A value is written in the shape. -/
  conforms : ∀ b, s.conforms (write b) = true
  /-- No value is written as `null`. -/
  notNull : ∀ b, (write b).isNull = false
  /-- A value is read back. -/
  read_write : ∀ b, read (write b) = some b
  /-- Every written form is that of a value. -/
  exists_write : ∀ j, s.conforms j = true → ∃ b, j = write b

namespace Codec

variable {β : Type} {s : Schema} {read : Json → Option β} {write : β → Json}

/-- Two values with the same written form are equal. -/
theorem write_injective (c : s.Codec read write) {a b : β} (h : write a = write b) : a = b := by
  have ha := c.read_write a
  rw [h, c.read_write b] at ha
  exact (Option.some.inj ha).symm

/-- A value is denoted by its written form. -/
theorem denotes_write (c : s.Codec read write) (hreg : s.regular = true) (b : β) :
    s.Denotes write b (write b) :=
  Schema.decode_of_conforms hreg (c.conforms b)

/-- A JSON value denotes one value at most. -/
theorem eq_of_denotes (c : s.Codec read write) {a b : β} {j : Json} (ha : s.Denotes write a j)
    (hb : s.Denotes write b j) : a = b :=
  c.write_injective (Except.ok.inj (ha.symm.trans hb))

/-- Decoding gives a value exactly when the JSON value denotes it. -/
theorem decode_iff {f : Json → β} (c : s.Codec (fun j => some (f j)) write)
    (hreg : s.regular = true) {j : Json} {b : β} :
    f <$> s.decode j = .ok b ↔ s.Denotes write b j := by
  rw [map_eq_ok, Denotes]
  constructor
  · rintro ⟨n, hn, rfl⟩
    -- What is decoded is a written form, so it is read as the value it is written for.
    obtain ⟨a, rfl⟩ := c.exists_write n (Schema.conforms_of_decode hreg hn)
    rw [hn, Option.some.inj (c.read_write a)]
  · intro h
    exact ⟨write b, h, Option.some.inj (c.read_write b)⟩

/-! ### Texts, lists and maps -/

/-- The only value of a fixed text. -/
theorem constant (value : String) :
    (Schema.constant value).Codec (fun _ => some ()) (fun _ => .str value) where
  conforms _ := by simp [Schema.conforms]
  notNull _ := rfl
  read_write _ := rfl
  exists_write j h := by
    cases j with
    | str t => exact ⟨(), by simpa [Schema.conforms] using h⟩
    | _ => simp [Schema.conforms] at h

/-- Texts are written and read as they are. -/
theorem text : Schema.text.Codec Json.text? Json.str where
  conforms _ := rfl
  notNull _ := rfl
  read_write _ := rfl
  exists_write j h := by
    cases j with
    | str t => exact ⟨t, rfl⟩
    | _ => simp [Schema.conforms] at h

/-- A list all of whose items are written forms is the list of written values. -/
theorem exists_map_write (c : s.Codec read write) (items : List Json)
    (h : ∀ i ∈ items, s.conforms i = true) : ∃ bs : List β, items = bs.map write := by
  induction items with
  | nil => exact ⟨[], rfl⟩
  | cons i items ih =>
    obtain ⟨b, rfl⟩ := c.exists_write i (h i List.mem_cons_self)
    obtain ⟨bs, rfl⟩ := ih fun k hk => h k (List.mem_cons_of_mem _ hk)
    exact ⟨b :: bs, rfl⟩

/-- Lists are written and read item by item. -/
theorem list {f : Json → β} (c : s.Codec (fun j => some (f j)) write) :
    (Schema.list s).Codec (fun j => j.items?.map (List.map f))
      (fun bs => .arr (bs.map write)) where
  conforms bs := by simp [Schema.conforms, c.conforms]
  notNull _ := rfl
  read_write bs := by
    -- Reading an item back gives the item, so it does for the whole list.
    have hf : f ∘ write = id := funext fun b => Option.some.inj (c.read_write b)
    simp [Json.items?, hf]
  exists_write j h := by
    cases j with
    | arr items =>
      obtain ⟨bs, rfl⟩ := c.exists_map_write items (List.all_eq_true.mp h)
      exact ⟨bs, rfl⟩
    | _ => simp [Schema.conforms] at h

/-- So are lists of texts. -/
theorem texts : (Schema.list .text).Codec Json.texts? Json.texts where
  conforms ss := by simp [Schema.conforms, Json.texts]
  notNull _ := rfl
  read_write ss := by
    induction ss with
    | nil => rfl
    | cons t ss ih =>
      -- One item that is no text makes the list unreadable. The written ones are all texts.
      simp only [Json.texts?, Json.texts] at ih ⊢
      simp [ih, Json.text?]
  exists_write j h := by
    cases j with
    | arr items =>
      obtain ⟨ss, rfl⟩ := text.exists_map_write items (List.all_eq_true.mp h)
      exact ⟨ss, rfl⟩
    | _ => simp [Schema.conforms] at h

/-- Maps of texts are written and read value by value. -/
theorem textMap : (Schema.map .text).Codec Json.textMap? Json.textMap where
  conforms d := by simp [Schema.conforms, Json.textMap]
  notNull _ := rfl
  read_write d := by
    induction d with
    | nil => rfl
    | cons e d ih =>
      simp only [Json.textMap?, Json.textMap] at ih ⊢
      rw [List.map_cons, List.mapM_cons, ih]
      rfl
  exists_write j h := by
    cases j with
    | obj members =>
      -- The induction is on the members, with what all of them satisfy.
      have hall := List.all_eq_true.mp h
      clear h
      induction members with
      | nil => exact ⟨[], rfl⟩
      | cons e members ih =>
        obtain ⟨t, ht⟩ := text.exists_write e.2 (hall e List.mem_cons_self)
        obtain ⟨d, hd⟩ := ih fun k hk => hall k (List.mem_cons_of_mem _ hk)
        refine ⟨(e.1, t) :: d, ?_⟩
        simp only [Json.textMap, List.map_cons, ← ht] at hd ⊢
        rw [Json.obj.inj hd]
    | _ => simp [Schema.conforms] at h

/-! ### Fields -/

variable {fields : Fields} {key : String}

/-- An optional field may hold any value or none. -/
theorem allows_optional (c : s.Codec read write) (hf : fields.find? key = some (.optional, s))
    (b : Option β) : fields.allows key (b.map write) := by
  cases b with
  | none => simp [Fields.allows, hf]
  | some b => simp [Fields.allows, hf, Presence.admits, c.notNull, c.conforms]

/-- A field that is never left out may hold any value. -/
theorem allows_present {presence : Presence} (c : s.Codec read write)
    (hf : fields.find? key = some (presence, s)) (hp : (presence == .optional) = false) (b : β) :
    fields.allows key (some (write b)) := by
  cases presence with
  | optional => exact absurd hp (by decide)
  | required => simp [Fields.allows, hf, Presence.admits, c.conforms]
  | defaulted => simp [Fields.allows, hf, Presence.admits, c.conforms]

/-- What an optional field may hold is the written form of a value, or nothing. -/
theorem exists_optional (c : s.Codec read write) (hf : fields.find? key = some (.optional, s))
    {value : Option Json} (h : fields.allows key value) : ∃ b : Option β, value = b.map write := by
  simp only [Fields.allows, hf] at h
  cases value with
  | none => exact ⟨none, rfl⟩
  | some v =>
    obtain ⟨b, rfl⟩ := c.exists_write v h.2
    exact ⟨some b, rfl⟩

/-- What a field that is never left out may hold is the written form of a value. -/
theorem exists_present {presence : Presence} (c : s.Codec read write)
    (hf : fields.find? key = some (presence, s)) (hp : (presence == .optional) = false)
    {value : Option Json} (h : fields.allows key value) : ∃ b : β, value = some (write b) := by
  simp only [Fields.allows, hf] at h
  cases value with
  | none =>
    subst h
    exact absurd hp (by decide)
  | some v =>
    obtain ⟨b, rfl⟩ := c.exists_write v h.2
    exact ⟨b, rfl⟩

/-- An optional value is read back. -/
theorem bind_read (c : s.Codec read write) (b : Option β) : (b.map write).bind read = b := by
  cases b with
  | none => rfl
  | some b => exact c.read_write b

end Codec

end Schema

end SidecarInjection
