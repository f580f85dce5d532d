import SidecarInjection.Proofs.Expansion

/-!
# `SidecarInjection.Proofs.Expansion.Repeated`: expanding an expanded command

A second expansion with the same variables should find nothing to replace. The dollar signs
of a value are doubled, so no reference stands in a value. But a value can close a reference
that the command has opened: `$(B$(A)` is expanded to `$(B)` if `A` stands for a closing
parenthesis.

`Sealed` says that no opening that the expansion leaves is closed in this way. It looks at
every such opening and at what the text behind it is expanded to.

* `expansion_induction`: induction along the expansion.
* `expandFrom_eq_self_iff`: a text stays as it is exactly if it holds no known reference. The
  expansion removes an opening with every reference, so the openings tell.
* `hasReference_expandFrom`: where the known references of an expanded text come from.
* `expand_expand_iff`: a second expansion changes nothing for sealed commands, and for no
  others. Flat commands are sealed.
-/

set_option autoImplicit false

namespace SidecarInjection.Expansion

/-! ### Statements -/

/-- A text holds a reference to a known variable. -/
def hasReference (values : String → Option String) : List Char → Bool
  | [] => false
  | '$' :: '$' :: rest => hasReference values rest
  | '$' :: '(' :: rest => (reference? values rest).isSome || hasReference values rest
  | _ :: rest => hasReference values rest

/-- The texts behind the openings that the expansion leaves, after passing over `skip`
characters. -/
def leftOpen (values : String → Option String) : Nat → List Char → List (List Char)
  | _, [] => []
  | skip + 1, _ :: rest => leftOpen values skip rest
  | 0, '$' :: '$' :: rest => leftOpen values 0 rest
  | 0, '$' :: '(' :: rest =>
    match reference? values rest with
    | some (name, _) => leftOpen values (name.length + 1) rest
    | none => rest :: leftOpen values 0 ('(' :: rest)
  | 0, _ :: rest => leftOpen values 0 rest

/-- No opening that the expansion leaves starts a known reference when the text behind it is
expanded. -/
def Sealed (values : String → Option String) (s : String) : Prop :=
  ∀ rest ∈ leftOpen values 0 s.toList, reference? values (expandFrom values 0 rest) = none

instance (values : String → Option String) (s : String) : Decidable (Sealed values s) :=
  inferInstanceAs (Decidable (∀ rest ∈ leftOpen values 0 s.toList,
    reference? values (expandFrom values 0 rest) = none))

/-! ### Scanning -/

variable {values : String → Option String}

/-- A reference ends with its first closing, and is found if the name is known. -/
theorem reference?_closed {name : List Char} (h : ')' ∉ name) (rest : List Char) :
    reference? values (name ++ ')' :: rest) =
      (values (String.ofList name)).map fun value => (name, value.toList) := by
  rw [reference?, referenceName?_of_not_mem h, Option.bind_some]

/-- Without a closing there is no reference. -/
theorem reference?_unclosed {s : List Char} (h : ')' ∉ s) : reference? values s = none := by
  rw [reference?, referenceName?_eq_none h, Option.bind_none]

/-- Induction along the expansion, which reads an escape, a known reference, an opening that
it leaves or a single character at a time. -/
theorem expansion_induction (values : String → Option String) {P : List Char → Prop} (nil : P [])
    (escape : ∀ rest, P rest → P ('$' :: '$' :: rest))
    (known : ∀ name value rest, ')' ∉ name → values (String.ofList name) = some value → P rest →
      P ('$' :: '(' :: (name ++ ')' :: rest)))
    (opening : ∀ rest, reference? values rest = none → P rest → P ('$' :: '(' :: rest))
    (single : ∀ c rest, Single c rest → P rest → P (c :: rest)) (s : List Char) : P s := by
  induction hlength : s.length using Nat.strongRecOn generalizing s with
  | ind n ih =>
    subst hlength
    cases s using scan_cases with
    | nil => exact nil
    | escape rest =>
      exact escape rest (ih rest.length (by simp only [List.length_cons]; omega) rest rfl)
    | opening rest =>
      have hrest : P rest := ih rest.length (by simp only [List.length_cons]; omega) rest rfl
      by_cases hclosed : ')' ∈ rest
      · -- A known name is passed over with its closing, an unknown one is scanned itself.
        obtain ⟨name, tail, rfl, hname⟩ := List.eq_append_cons_of_mem hclosed
        cases hvalue : values (String.ofList name) with
        | some value =>
          exact known name value tail hname hvalue (ih tail.length (by simp; omega) tail rfl)
        | none => exact opening _ (by rw [reference?_closed hname, hvalue]; rfl) hrest
      · exact opening rest (reference?_unclosed hclosed) hrest
    | single c rest hsingle => exact single c rest hsingle (ih rest.length (by simp) rest rfl)

/-! ### One expansion -/

/-- An opening that is no known reference is kept, and the pass goes on behind it. -/
theorem expandFrom_opening {rest : List Char} (h : reference? values rest = none) :
    expandFrom values 0 ('$' :: '(' :: rest) = '$' :: '(' :: expandFrom values 0 rest := by
  simp [expandFrom, h]

/-- A character that starts nothing is kept. -/
theorem expandFrom_single {c : Char} {rest : List Char} (h : Single c rest) :
    expandFrom values 0 (c :: rest) = c :: expandFrom values 0 rest :=
  expandFrom_plain h.plain

/-- A single character stays one when the text behind it is expanded. -/
theorem Single.expanded (values : String → Option String) {c : Char} {rest : List Char}
    (h : Single c rest) : Single c (expandFrom values 0 rest) := by
  cases h with
  | letter h => exact .letter h
  | last => exact .last
  | lone hdollar hopening =>
    rw [expandFrom_single (.letter hdollar)]
    exact .lone hdollar hopening

/-- What was read already is passed over. -/
theorem leftOpen_skip (values : String → Option String) (skip : Nat) (s : List Char) :
    leftOpen values skip s = leftOpen values 0 (s.drop skip) :=
  Text.eq_drop (fun _ => by simp [leftOpen]) (fun _ _ _ => rfl) skip s

/-- A known reference leaves nothing open: its value takes its place. -/
theorem leftOpen_known {name : List Char} (h : ')' ∉ name) {value : String}
    (hvalue : values (String.ofList name) = some value) (rest : List Char) :
    leftOpen values 0 ('$' :: '(' :: (name ++ ')' :: rest)) = leftOpen values 0 rest := by
  simp only [leftOpen, reference?_closed h, hvalue, Option.map_some]
  rw [leftOpen_skip, drop_reference]

/-- An opening that is no known reference is left open, together with what stands behind it. -/
theorem leftOpen_opening {rest : List Char} (h : reference? values rest = none) :
    leftOpen values 0 ('$' :: '(' :: rest) = rest :: leftOpen values 0 rest := by
  simp [leftOpen, h]

/-- A character that starts nothing leaves nothing open. -/
theorem leftOpen_single {c : Char} {rest : List Char} (h : Single c rest) :
    leftOpen values 0 (c :: rest) = leftOpen values 0 rest := by
  cases h with
  | letter h => simp [leftOpen, h]
  | last => rfl
  | lone hdollar hopening => simp [leftOpen, hdollar, hopening]

/-- A text that begins with a known reference has one. -/
theorem hasReference_known {name : List Char} (h : ')' ∉ name) {value : String}
    (hvalue : values (String.ofList name) = some value) (rest : List Char) :
    hasReference values ('$' :: '(' :: (name ++ ')' :: rest)) = true := by
  simp [hasReference, reference?_closed h, hvalue]

/-- A plain character is part of no reference. -/
theorem hasReference_plain {c : Char} {rest : List Char} (h : Plain c rest) :
    hasReference values (c :: rest) = hasReference values rest := by
  cases h with
  | letter h => simp [hasReference, h]
  | last => rfl
  | unclosed h => simp [hasReference, reference?_unclosed h]
  | lone hdollar hopening => simp [hasReference, hdollar, hopening]

/-- A scan that passes over escapes and letters passes over an inserted value. -/
theorem scan_escape {α : Type} {scan : List Char → α}
    (hescape : ∀ rest, scan ('$' :: '$' :: rest) = scan rest)
    (hletter : ∀ c rest, c ≠ '$' → scan (c :: rest) = scan rest) (value rest : List Char) :
    scan (escape value ++ rest) = scan rest := by
  induction value with
  | nil => rfl
  | cons c value ih =>
    by_cases hc : c = '$'
    · subst hc
      exact (hescape _).trans ih
    · have hcons : escape (c :: value) ++ rest = c :: (escape value ++ rest) := by
        simp [escape, hc]
      rw [hcons, hletter c _ hc, ih]

/-- There is no reference in an inserted value, since its dollar signs are doubled. So the search
may start behind it. -/
theorem hasReference_escape (value rest : List Char) :
    hasReference values (escape value ++ rest) = hasReference values rest :=
  scan_escape (fun _ => rfl) (fun _ _ h => hasReference_plain (.letter h)) value rest

/-- The known references of an expanded text are openings that were left, and that what
stands behind them closes. -/
theorem hasReference_expandFrom (s : List Char) :
    hasReference values (expandFrom values 0 s) =
      (leftOpen values 0 s).any fun rest =>
        (reference? values (expandFrom values 0 rest)).isSome := by
  -- Inserted values are escaped, so only an opening that was left can refer to something.
  induction s using expansion_induction values with
  | nil => rfl
  | escape rest ih => exact ih
  | known name value rest hname hvalue ih =>
    rw [expandFrom_known hname hvalue, hasReference_escape, leftOpen_known hname hvalue, ih]
  | opening rest hunknown ih =>
    rw [expandFrom_opening hunknown, hasReference, leftOpen_opening hunknown, List.any_cons, ih]
  | single c rest hsingle ih =>
    rw [expandFrom_single hsingle, hasReference_plain (hsingle.expanded values).plain,
      leftOpen_single hsingle, ih]

/-! ### Texts that stay as they are -/

/-- The openings in a text. -/
def openings : List Char → Nat
  | [] => 0
  | '$' :: '$' :: rest => openings rest
  | '$' :: '(' :: rest => openings rest + 1
  | _ :: rest => openings rest

/-- A character that starts nothing is no opening. -/
theorem openings_single {c : Char} {rest : List Char} (h : Single c rest) :
    openings (c :: rest) = openings rest := by
  cases h with
  | letter h => simp [openings, h]
  | last => rfl
  | lone hdollar hopening => simp [openings, hdollar, hopening]

/-- There is no opening in an inserted value. -/
theorem openings_escape (value rest : List Char) :
    openings (escape value ++ rest) = openings rest :=
  scan_escape (fun _ => rfl) (fun _ _ h => openings_single (.letter h)) value rest

/-- A closed name hides no opening of the text behind it. -/
theorem openings_le_name (name rest : List Char) :
    openings rest ≤ openings (name ++ ')' :: rest) := by
  fun_induction openings name with
  | case1 =>
    have hclosing : openings (')' :: rest) = openings rest := openings_single (.letter (by decide))
    exact Nat.le_of_eq hclosing.symm
  | case2 name ih => exact ih
  | case3 name ih => exact Nat.le_succ_of_le ih
  | case4 c name hdollar hopening ih =>
    rw [List.cons_append, openings_single (single_of_name rest hdollar hopening)]
    exact ih

/-- An expanded text has the openings that the expansion leaves. -/
theorem openings_expandFrom (s : List Char) :
    openings (expandFrom values 0 s) = (leftOpen values 0 s).length := by
  -- Inserted values are escaped and open nothing.
  induction s using expansion_induction values with
  | nil => rfl
  | escape rest ih => exact ih
  | known name value rest hname hvalue ih =>
    rw [expandFrom_known hname hvalue, openings_escape, leftOpen_known hname hvalue, ih]
  | opening rest hunknown ih =>
    rw [expandFrom_opening hunknown, openings, leftOpen_opening hunknown, List.length_cons, ih]
  | single c rest hsingle ih =>
    rw [expandFrom_single hsingle, openings_single (hsingle.expanded values),
      leftOpen_single hsingle, ih]

/-- No more openings are left than the text had. -/
theorem length_leftOpen_le (s : List Char) : (leftOpen values 0 s).length ≤ openings s := by
  induction s using expansion_induction values with
  | nil => exact Nat.le_refl 0
  | escape rest ih => exact ih
  | known name value rest hname hvalue ih =>
    -- The openings that the name holds are lost as well.
    rw [leftOpen_known hname hvalue, openings]
    exact Nat.le_succ_of_le (Nat.le_trans ih (openings_le_name name rest))
  | opening rest hunknown ih =>
    rw [leftOpen_opening hunknown, List.length_cons, openings]
    exact Nat.succ_le_succ ih
  | single c rest hsingle ih => rwa [leftOpen_single hsingle, openings_single hsingle]

/-- Every known reference takes an opening with it. -/
theorem length_leftOpen_lt {s : List Char} (h : hasReference values s = true) :
    (leftOpen values 0 s).length < openings s := by
  induction s using expansion_induction values with
  | nil => cases h
  | escape rest ih => exact ih h
  | known name value rest hname hvalue ih =>
    rw [leftOpen_known hname hvalue, openings]
    -- The known reference is gone, and what follows it has no more openings than before.
    exact Nat.lt_succ_of_le (Nat.le_trans (length_leftOpen_le rest) (openings_le_name name rest))
  | opening rest hunknown ih =>
    rw [hasReference, hunknown, Option.isSome_none, Bool.false_or] at h
    rw [leftOpen_opening hunknown, List.length_cons, openings]
    exact Nat.succ_lt_succ (ih h)
  | single c rest hsingle ih =>
    rw [leftOpen_single hsingle, openings_single hsingle]
    exact ih (hasReference_plain hsingle.plain ▸ h)

/-- A text stays as it is exactly if it holds no known reference. A text in which some are
replaced cannot come out the same by chance: it has lost an opening. -/
theorem expandFrom_eq_self_iff (s : List Char) :
    expandFrom values 0 s = s ↔ hasReference values s = false := by
  constructor
  · intro h
    refine (Bool.not_eq_true _).mp fun href => ?_
    -- The expanded text would have as many openings as the text, and fewer.
    have hlt := length_leftOpen_lt href
    rw [← openings_expandFrom, h] at hlt
    exact Nat.lt_irrefl _ hlt
  · intro h
    induction s using expansion_induction values with
    | nil => rfl
    | escape rest ih => rw [expandFrom, ih h]
    | known name value rest hname hvalue ih =>
      rw [hasReference_known hname hvalue] at h
      cases h
    | opening rest hunknown ih =>
      rw [hasReference, Bool.or_eq_false_iff] at h
      rw [expandFrom_opening hunknown, ih h.2]
    | single c rest hsingle ih =>
      rw [hasReference_plain hsingle.plain] at h
      rw [expandFrom_single hsingle, ih h]

/-! ### Two expansions -/

/-- The known references of a closed name are those of the name and those behind it. -/
theorem hasReference_name {name : List Char} (h : ')' ∉ name) (rest : List Char) :
    hasReference values (name ++ ')' :: rest) =
      (holdsKnown values name || hasReference values rest) := by
  fun_induction holdsKnown values name with
  | case1 => exact hasReference_plain (.letter (by decide))
  | case2 name ih => exact ih (by simpa using h)
  | case3 name ih =>
    have hname : ')' ∉ name := by simpa using h
    -- An opening within the name is closed by the same parenthesis.
    rw [List.cons_append, List.cons_append, hasReference, reference?_closed hname, ih hname,
      Option.isSome_map, Bool.or_assoc]
  | case4 c name hdollar hopening ih =>
    rw [List.cons_append, hasReference_plain (single_of_name rest hdollar hopening).plain,
      ih fun hmem => h (List.mem_cons_of_mem _ hmem)]

/-- Flat text holds no known reference when it is expanded. -/
theorem hasReference_expandFrom_of_copied {s : List Char}
    (h : ∀ name ∈ references 0 s, Copied values name) :
    hasReference values (expandFrom values 0 s) = false := by
  induction s using scan_induction with
  | nil => rfl
  | escape rest ih => exact ih h
  | reference name rest hname ih =>
    rw [references_reference hname, List.forall_mem_cons] at h
    cases hvalue : values (String.ofList name) with
    | some value => rw [expandFrom_known hname hvalue, hasReference_escape, ih h.2]
    | none =>
      -- The name is copied up to its closing, so the opening starts the same reference.
      have hcopied := h.1 hvalue
      rw [expandFrom_unknown hname hvalue, expandFrom_copy hname hcopied, hasReference,
        reference?_closed hname, hvalue, hasReference_name hname, hcopied, ih h.2]
      rfl
  | plain c rest hplain ih =>
    rw [references_plain hplain] at h
    rw [expandFrom_plain hplain, hasReference_plain (hplain.expanded values), ih h]

/-- A text is sealed when its expansion has no known reference. -/
theorem sealed_iff (values : String → Option String) (s : String) :
    Sealed values s ↔ hasReference values (expandFrom values 0 s.toList) = false := by
  simp [Sealed, hasReference_expandFrom]

/-- A second expansion changes nothing exactly if the command is sealed: no opening that the
first one leaves is closed to a known reference by what is put in behind it. Flat commands
are sealed, whatever the variables stand for. -/
theorem expand_expand_iff (values : String → Option String) (s : String) :
    (expand values (expand values s) = expand values s ↔ Sealed values s) ∧
      (hasReference values (expand values s).toList = false ↔ Sealed values s) ∧
      (Flat values s → Sealed values s) := by
  refine ⟨?_, ?_, fun hflat => ?_⟩
  · rw [sealed_iff, ← expandFrom_eq_self_iff, expand, expand, String.toList_ofList,
      String.ofList_inj]
  · rw [sealed_iff, expand, String.toList_ofList]
  · exact (sealed_iff values s).mpr (hasReference_expandFrom_of_copied hflat)

/-- A command need not be flat to be sealed. -/
example : Sealed (fun name => if name = "A" then some "1" else none) "$(echo $(A))" := by
  decide

/-- The value of `A` closes the opening in front of it, and the result refers to `B`. -/
example : ¬ Sealed (fun name => if name = "A" then some ")" else if name = "B" then some "1"
    else none) "$(B$(A)" := by
  decide

end SidecarInjection.Expansion
