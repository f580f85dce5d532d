/-!
# `SidecarInjection.Dict`: finite maps with text keys

A `Dict` is its list of entries. `insert` keeps the keys in ascending order, so
a dictionary built from `[]` by `insert` alone lists every key once, in order.
Lookup takes the first entry of a key. The laws below therefore hold of every
list of entries, in order or not.

* `get?_insert`, `insert_get?`: what an insertion changes, and when it changes
  nothing.
* `insert_insert`: the later of two insertions stays.
* `insert_comm`: insertions under two keys may be exchanged.
* `get?_erase_of_ne`: a removal changes no other key.
* `Sorted.insert`: an insertion keeps the keys in ascending order.
* `Sorted.ext`: sorted dictionaries with the same values are equal.
-/

set_option autoImplicit false

namespace SidecarInjection

/-- A finite map from text keys, as its list of entries. -/
abbrev Dict (α : Type) := List (String × α)

namespace Dict

variable {α : Type}

/-- The value of the first entry with this key. -/
def get? : Dict α → String → Option α
  | [], _ => none
  | (k, v) :: rest, key => if k = key then some v else get? rest key

/-- Whether some entry has this key. -/
def contains (d : Dict α) (key : String) : Bool := (get? d key).isSome

/-- Overwrites the first entry with this key, where it stands. -/
def overwrite : Dict α → String → α → Dict α
  | [], _, _ => []
  | (k, v) :: rest, key, value =>
    if k = key then (key, value) :: rest else (k, v) :: overwrite rest key value

/-- Puts an entry before the first one with a greater key. -/
def place : Dict α → String → α → Dict α
  | [], key, value => [(key, value)]
  | (k, v) :: rest, key, value =>
    if key < k then (key, value) :: (k, v) :: rest else (k, v) :: place rest key value

/-- Sets a key: an entry with this key is overwritten, else the entry goes before
the first greater key. -/
def insert (d : Dict α) (key : String) (value : α) : Dict α :=
  if contains d key then overwrite d key value else place d key value

/-- Sets a key when there is a value to set. -/
def insertSome (d : Dict α) (key : String) : Option α → Dict α
  | none => d
  | some value => insert d key value

/-- Removes every entry with this key. -/
def erase (d : Dict α) (key : String) : Dict α := d.filter fun e => e.1 != key

/-- The dictionary of a list of entries, in which a later entry of a key
overwrites an earlier one. -/
def ofEntries (entries : List (String × α)) : Dict α :=
  entries.foldl (fun d e => insert d e.1 e.2) []

/-- The keys, in the order of the entries. -/
def keys (d : Dict α) : List String := d.map Prod.fst

/-- Every key is less than all keys after it. -/
def Sorted (d : Dict α) : Prop := d.Pairwise fun a b => a.1 < b.1

/-- An empty dictionary has no values. -/
@[simp] theorem get?_nil (key : String) : get? ([] : Dict α) key = none := rfl

/-- The first entry of a key has its value. -/
@[simp] theorem get?_cons (e : String × α) (d : Dict α) (key : String) :
    get? (e :: d) key = if e.1 = key then some e.2 else get? d key := rfl

/-- A key that a dictionary does not hold is neither its first key nor a later one. -/
theorem ne_of_contains_cons {e : String × α} {d : Dict α} {key : String}
    (h : contains (e :: d) key = false) : e.1 ≠ key ∧ contains d key = false := by
  have hne : e.1 ≠ key := by
    intro he
    simp [contains, he] at h
  exact ⟨hne, by simpa [contains, hne] using h⟩

/-- Overwriting a key that is there changes the value of this key only. -/
theorem get?_overwrite (d : Dict α) {key other : String} (value : α)
    (h : contains d key = true) :
    get? (overwrite d key value) other = if other = key then some value else get? d other := by
  induction d with
  | nil => simp [contains] at h
  | cons e rest ih =>
    obtain ⟨k, v⟩ := e
    simp only [overwrite]
    split
    · rename_i hk
      subst hk
      simp only [get?_cons, eq_comm]
      split <;> rfl
    · rename_i hk
      have hrest : contains rest key = true := by simpa [contains, hk] using h
      simp only [get?_cons, ih hrest]
      by_cases hko : k = other
      · subst hko
        simp [hk]
      · simp [hko]

/-- Placing a new key gives it its value and changes no other one. -/
theorem get?_place (d : Dict α) {key other : String} (value : α) (h : contains d key = false) :
    get? (place d key value) other = if other = key then some value else get? d other := by
  induction d with
  | nil => simp [place, eq_comm]
  | cons e rest ih =>
    obtain ⟨k, v⟩ := e
    obtain ⟨hk, hrest⟩ := ne_of_contains_cons h
    simp only [place]
    split
    · simp [eq_comm]
    · simp only [get?_cons, ih hrest]
      by_cases hko : k = other
      · subst hko
        simp [hk]
      · simp [hko]

/-- An insertion changes the value of its key alone. -/
theorem get?_insert (d : Dict α) (key other : String) (value : α) :
    get? (insert d key value) other = if other = key then some value else get? d other := by
  unfold insert
  split
  · rename_i h
    exact get?_overwrite d value h
  · rename_i h
    exact get?_place d value (by simpa using h)

/-- A key has the value that was inserted last. -/
@[simp] theorem get?_insert_self (d : Dict α) (key : String) (value : α) :
    get? (insert d key value) key = some value := by
  simp [get?_insert]

/-- Other keys keep their values. -/
theorem get?_insert_of_ne (d : Dict α) {key other : String} (value : α) (h : other ≠ key) :
    get? (insert d key value) other = get? d other := by
  simp [get?_insert, h]

/-- Inserting what may be absent: an absent value changes nothing. -/
theorem get?_insertSome (d : Dict α) (key other : String) (value : Option α) :
    get? (insertSome d key value) other
      = if other = key then value.or (get? d other) else get? d other := by
  cases value with
  | none => simp [insertSome]
  | some v => simp [insertSome, get?_insert]

/-- Setting a key to the value that it has changes nothing. -/
theorem insert_get? {d : Dict α} {key : String} {value : α} (h : get? d key = some value) :
    insert d key value = d := by
  have hc : contains d key = true := by simp [contains, h]
  simp only [insert, hc, if_true]
  clear hc
  induction d with
  | nil => rfl
  | cons e rest ih =>
    obtain ⟨k, v⟩ := e
    simp only [overwrite]
    split
    · rename_i hk
      subst hk
      simp only [get?_cons, if_true, Option.some.injEq] at h
      rw [h]
    · rename_i hk
      rw [ih (by simpa [hk] using h)]

/-- Of two values set under one key the later one stays. -/
theorem insert_insert (d : Dict α) (key : String) (a b : α) :
    insert (insert d key a) key b = insert d key b := by
  -- The second value overwrites, whether or not the first one did.
  have hc : contains (insert d key a) key = true := by simp [contains]
  rw [insert, if_pos hc]
  clear hc
  unfold insert
  split
  · induction d with
    | nil => rfl
    | cons e rest ih =>
      obtain ⟨k, v⟩ := e
      rename_i h
      simp only [overwrite]
      split
      · simp [overwrite]
      · rename_i hk
        simp [overwrite, hk, ih (by simpa [contains, hk] using h)]
  · induction d with
    | nil => simp [place, overwrite]
    | cons e rest ih =>
      obtain ⟨k, v⟩ := e
      rename_i h
      obtain ⟨hk, hrest⟩ := ne_of_contains_cons (by simpa using h)
      simp only [place]
      split
      · simp [overwrite]
      · simp [overwrite, hk, ih (by simpa using hrest)]

/-- Values of two keys may be overwritten in any order. -/
theorem overwrite_comm (d : Dict α) {a b : String} (x y : α) (h : a ≠ b) :
    overwrite (overwrite d a x) b y = overwrite (overwrite d b y) a x := by
  induction d with
  | nil => rfl
  | cons e rest ih =>
    obtain ⟨k, v⟩ := e
    by_cases ha : k = a
    · have hb : k ≠ b := fun hb => h (ha.symm.trans hb)
      simp [overwrite, ha, h]
    · by_cases hb : k = b
      · simp [overwrite, hb, h.symm]
      · simp [overwrite, ha, hb, ih]

/-- An entry is put at the same place whatever the values of the others are. -/
theorem overwrite_place (d : Dict α) {a b : String} (x y : α) (h : a ≠ b) :
    overwrite (place d b y) a x = place (overwrite d a x) b y := by
  induction d with
  | nil => simp [place, overwrite, h.symm]
  | cons e rest ih =>
    obtain ⟨k, v⟩ := e
    by_cases ha : k = a
    · subst ha
      by_cases hlt : b < k <;> simp [place, overwrite, hlt, h.symm]
    · by_cases hlt : b < k
      · simp [place, overwrite, hlt, h.symm, ha]
      · simp [place, overwrite, hlt, ha, ih]

/-- Two new keys may be placed in any order. -/
theorem place_comm (d : Dict α) {a b : String} (x y : α) (h : a ≠ b) :
    place (place d a x) b y = place (place d b y) a x := by
  induction d with
  | nil =>
    by_cases hab : a < b
    · simp [place, hab, String.lt_asymm hab]
    · have hba : b < a := Std.lt_of_le_of_ne (String.not_lt.mp hab) h.symm
      simp [place, hab, hba]
  | cons e rest ih =>
    obtain ⟨k, v⟩ := e
    by_cases hab : a < b
    · have hba : ¬ b < a := String.lt_asymm hab
      by_cases hb : b < k
      · simp [place, String.lt_trans hab hb, hb, hab, hba]
      · by_cases ha : a < k
        · simp [place, ha, hb, hba]
        · simp [place, ha, hb, ih]
    · have hba : b < a := Std.lt_of_le_of_ne (String.not_lt.mp hab) h.symm
      by_cases ha : a < k
      · simp [place, String.lt_trans hba ha, ha, hab, hba]
      · by_cases hb : b < k
        · simp [place, ha, hb, hab]
        · simp [place, ha, hb, ih]

/-- Values under two keys may be set in either order. -/
theorem insert_comm (d : Dict α) {a b : String} (x y : α) (h : a ≠ b) :
    insert (insert d a x) b y = insert (insert d b y) a x := by
  have hb : contains (insert d a x) b = contains d b := by
    simp [contains, get?_insert_of_ne d x h.symm]
  have ha : contains (insert d b y) a = contains d a := by
    simp [contains, get?_insert_of_ne d y h]
  rw [insert, hb, insert.eq_def (insert d b y), ha]
  unfold insert
  cases contains d a with
  | true =>
    cases contains d b with
    | true => exact overwrite_comm d x y h
    | false => exact (overwrite_place d x y h).symm
  | false =>
    cases contains d b with
    | true => exact overwrite_place d y x h.symm
    | false => exact place_comm d x y h

/-- Values that are all changed alike are found under the same keys. -/
theorem get?_map {β : Type} (f : α → β) (d : Dict α) (key : String) :
    get? (d.map fun e => (e.1, f e.2)) key = (get? d key).map f := by
  induction d with
  | nil => rfl
  | cons e rest ih =>
    simp only [List.map_cons, get?_cons, ih]
    split <;> rfl

/-- An insertion and a change of all values may be done in either order. -/
theorem map_insert {β : Type} (f : α → β) (d : Dict α) (key : String) (value : α) :
    (insert d key value).map (fun e => (e.1, f e.2)) =
      insert (d.map fun e => (e.1, f e.2)) key (f value) := by
  unfold insert
  -- Both sides have the same keys, so both overwrite or both place the value.
  rw [contains, contains, get?_map, Option.isSome_map]
  split
  · induction d with
    | nil => rfl
    | cons e rest ih =>
      obtain ⟨k, v⟩ := e
      rename_i h
      simp only [overwrite, List.map_cons]
      split
      · rfl
      · rename_i hk
        rw [List.map_cons, ih (by simpa [hk] using h)]
  · induction d with
    | nil => rfl
    | cons e rest ih =>
      obtain ⟨k, v⟩ := e
      rename_i h
      have hk : k ≠ key := by
        intro hk
        simp [hk] at h
      simp only [place, List.map_cons]
      split
      · rfl
      · rw [List.map_cons, ih (by simpa [hk] using h)]

/-- A removal leaves the values of other keys alone, wherever they stand. -/
theorem get?_erase_of_ne (d : Dict α) {key other : String} (h : other ≠ key) :
    get? (erase d key) other = get? d other := by
  induction d with
  | nil => rfl
  | cons e rest ih =>
    simp only [erase, List.filter_cons] at ih ⊢
    split
    · simp [ih]
    · rename_i hk
      have : e.1 = key := by simpa using hk
      simp [this, Ne.symm h, ih]

/-! ### Sorted dictionaries -/

/-- An empty dictionary is in order. -/
@[simp] theorem sorted_nil : Sorted ([] : Dict α) := List.Pairwise.nil

/-- A dictionary is in order when its first key is the lowest and the others are in order. -/
theorem sorted_cons {e : String × α} {d : Dict α} :
    Sorted (e :: d) ↔ (∀ f ∈ d, e.1 < f.1) ∧ Sorted d := List.pairwise_cons

/-- A key that is less than every key has no value. -/
theorem get?_eq_none_of_lt {d : Dict α} {key : String} (h : ∀ e ∈ d, key < e.1) :
    get? d key = none := by
  induction d with
  | nil => rfl
  | cons e rest ih =>
    have hne : e.1 ≠ key := fun he => String.lt_irrefl key (he ▸ h e List.mem_cons_self)
    simp only [get?_cons, hne, if_false]
    exact ih fun f hf => h f (List.mem_cons_of_mem _ hf)

/-- The key of a value is the key of an entry. -/
theorem exists_mem_of_get? {d : Dict α} {key : String} {value : α} (h : get? d key = some value) :
    ∃ e ∈ d, e.1 = key := by
  induction d with
  | nil => simp at h
  | cons e rest ih =>
    by_cases he : e.1 = key
    · exact ⟨e, List.mem_cons_self, he⟩
    · obtain ⟨f, hf, hk⟩ := ih (by simpa [he] using h)
      exact ⟨f, List.mem_cons_of_mem _ hf, hk⟩

/-- A key of an entry has a value. It need not be that of the entry, as an earlier one may hide it.
-/
theorem get?_isSome_of_mem {d : Dict α} {e : String × α} (h : e ∈ d) : (get? d e.1).isSome := by
  induction d with
  | nil => simp at h
  | cons f rest ih =>
    by_cases hf : f.1 = e.1
    · simp [hf]
    · have hrest : e ∈ rest := by
        cases h with
        | head => exact absurd rfl hf
        | tail _ h => exact h
      simpa [hf] using ih hrest

/-- A bound below all keys and the new key is below all keys afterwards. This is what keeps the
first key the lowest in `Sorted.place`. -/
theorem forall_lt_place {d : Dict α} {low key : String} {value : α} (hlow : low < key)
    (h : ∀ e ∈ d, low < e.1) : ∀ e ∈ place d key value, low < e.1 := by
  induction d with
  | nil => simpa [place] using hlow
  | cons e rest ih =>
    obtain ⟨k, v⟩ := e
    have hrest := ih fun f hf => h f (List.mem_cons_of_mem _ hf)
    have hhead := h (k, v) List.mem_cons_self
    simp only [place]
    split
    · simp only [List.forall_mem_cons]
      exact ⟨hlow, hhead, fun f hf => h f (List.mem_cons_of_mem _ hf)⟩
    · simp only [List.forall_mem_cons]
      exact ⟨hhead, hrest⟩

/-- A new key is placed in order. -/
theorem Sorted.place {d : Dict α} (h : Sorted d) {key : String} (value : α)
    (hc : contains d key = false) : Sorted (place d key value) := by
  induction d with
  | nil => simp [Dict.place, Sorted]
  | cons e rest ih =>
    obtain ⟨k, v⟩ := e
    obtain ⟨hlt, hrest⟩ := sorted_cons.mp h
    obtain ⟨hk, hrestKey⟩ := ne_of_contains_cons hc
    simp only [Dict.place]
    split
    · rename_i hkey
      -- The new key stands first, since it is less than the key that was first.
      refine sorted_cons.mpr ⟨?_, h⟩
      simp only [List.forall_mem_cons]
      exact ⟨hkey, fun f hf => String.lt_trans hkey (hlt f hf)⟩
    · rename_i hkey
      have hlow : k < key := Std.lt_of_le_of_ne (String.not_lt.mp hkey) hk
      exact sorted_cons.mpr ⟨forall_lt_place hlow hlt, ih hrest hrestKey⟩

/-- Overwriting changes no key, and so no order. -/
theorem Sorted.overwrite {d : Dict α} (h : Sorted d) (key : String) (value : α) :
    Sorted (overwrite d key value) := by
  -- Overwriting leaves the list of keys as it is.
  have hkeys : (Dict.overwrite d key value).map Prod.fst = d.map Prod.fst := by
    clear h
    induction d with
    | nil => rfl
    | cons e rest ih =>
      obtain ⟨k, v⟩ := e
      simp only [Dict.overwrite]
      split
      · rename_i hk
        simp [hk]
      · simp [ih]
  have hsorted : (d.map Prod.fst).Pairwise (· < ·) := List.pairwise_map.mpr h
  rw [← hkeys] at hsorted
  exact List.pairwise_map.mp hsorted

/-- An insertion keeps the keys in ascending order. -/
theorem Sorted.insert {d : Dict α} (h : Sorted d) (key : String) (value : α) :
    Sorted (insert d key value) := by
  unfold Dict.insert
  split
  · exact h.overwrite key value
  · rename_i hc
    exact h.place value (by simpa using hc)

/-- So does an insertion of what may be absent. -/
theorem Sorted.insertSome {d : Dict α} (h : Sorted d) (key : String) (value : Option α) :
    Sorted (insertSome d key value) := by
  cases value with
  | none => exact h
  | some v => exact h.insert key v

/-- Sorted dictionaries with the same values are equal. -/
theorem Sorted.ext {a b : Dict α} (ha : Sorted a) (hb : Sorted b)
    (h : ∀ key, get? a key = get? b key) : a = b := by
  induction a generalizing b with
  | nil =>
    cases b with
    | nil => rfl
    | cons e b => simpa using h e.1
  | cons e a ih =>
    cases b with
    | nil => simpa using h e.1
    | cons f b =>
      obtain ⟨hea, ha⟩ := sorted_cons.mp ha
      obtain ⟨hfb, hb⟩ := sorted_cons.mp hb
      -- The least key of either side has a value on the other side.
      have hkey : e.1 = f.1 := by
        have he := h e.1
        have hf := h f.1
        simp only [get?_cons, if_true] at he hf
        by_cases hef : e.1 = f.1
        · exact hef
        · simp only [hef, Ne.symm hef, if_false] at he hf
          obtain ⟨x, hx, hxe⟩ := exists_mem_of_get? he.symm
          obtain ⟨y, hy, hyf⟩ := exists_mem_of_get? hf
          have h1 : f.1 < e.1 := hxe ▸ hfb x hx
          have h2 : e.1 < f.1 := hyf ▸ hea y hy
          exact absurd (String.lt_trans h1 h2) (String.lt_irrefl _)
      have hvalue : e.2 = f.2 := by simpa [hkey] using h e.1
      have hrest : a = b := by
        refine ih ha hb fun key => ?_
        -- The shared first key has no value in either rest.
        by_cases hk : e.1 = key
        · rw [← hk, get?_eq_none_of_lt hea, hkey, get?_eq_none_of_lt hfb]
        · have hk' : ¬ f.1 = key := hkey ▸ hk
          simpa [hk, hk'] using h key
      rw [Prod.ext hkey hvalue, hrest]

end Dict

end SidecarInjection
