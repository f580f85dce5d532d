import SidecarInjection.Expansion

/-!
# `SidecarInjection.Proofs.Expansion`: what a runtime makes of an expanded command

A command is expanded before a container runtime makes its own pass over it, with the same
variables. The pass should give what it gives for the command as it was written.

It does so except for a reference to an unknown variable that holds a reference to a known
one, as in `$(echo $(NAME))`. The runtime reads it as one reference, whose name ends at the
first closing parenthesis, and leaves it alone. The expansion replaces the inner one.
`Flat` says that there is none of this kind.

* `scan_induction`: induction along the pass of a runtime.
* `expandFrom_copy`, `expandFrom_nested`: an unknown reference is copied, or broken up at
  the first known one that it holds.
* `resolveFrom_expandFrom`: both passes give what the one of a runtime gives, for flat text.
* `resolveFrom_expandFrom_ne`: they do not for a reference that is broken up, if a closing
  parenthesis takes the place of the inner one.
* `resolve_expand_iff`: the expansion is faithful for flat commands, and for no others.
-/

set_option autoImplicit false

namespace SidecarInjection.Expansion

/-! ### Statements -/

/-- The names that a runtime reads, after passing over `skip` characters. -/
def references : Nat → List Char → List (List Char)
  | _, [] => []
  | skip + 1, _ :: rest => references skip rest
  | 0, '$' :: '$' :: rest => references 0 rest
  | 0, '$' :: '(' :: rest =>
    match referenceName? rest with
    | some name => name :: references (name.length + 1) rest
    | none => references 0 ('(' :: rest)
  | 0, _ :: rest => references 0 rest

/-- A name holds a reference to a known variable. The name of that one is all that follows
its opening. -/
def holdsKnown (values : String → Option String) : List Char → Bool
  | [] => false
  | '$' :: '$' :: rest => holdsKnown values rest
  | '$' :: '(' :: rest => (values (String.ofList rest)).isSome || holdsKnown values rest
  | _ :: rest => holdsKnown values rest

/-- A name that the expansion copies, if its variable is unknown. -/
def Copied (values : String → Option String) (name : List Char) : Prop :=
  values (String.ofList name) = none → holdsKnown values name = false

/-- No reference to an unknown variable holds one to a known variable. -/
def Flat (values : String → Option String) (s : String) : Prop :=
  ∀ name ∈ references 0 s.toList, Copied values name

instance (values : String → Option String) (name : List Char) : Decidable (Copied values name) :=
  inferInstanceAs (Decidable (_ → _))

instance (values : String → Option String) (s : String) : Decidable (Flat values s) :=
  inferInstanceAs (Decidable (∀ name ∈ references 0 s.toList, Copied values name))

/-! ### Scanning -/

/-- A character that opens nothing in front of a text: no escape, and no reference that is
closed. -/
inductive Plain : Char → List Char → Prop
  | letter {c : Char} {rest : List Char} (h : c ≠ '$') : Plain c rest
  | last : Plain '$' []
  | unclosed {rest : List Char} (h : ')' ∉ rest) : Plain '$' ('(' :: rest)
  | lone {c : Char} {rest : List Char} (hdollar : c ≠ '$') (hopening : c ≠ '(') :
    Plain '$' (c :: rest)

/-- A character that is read on its own: it starts no escape and no opening. -/
inductive Single : Char → List Char → Prop
  | letter {c : Char} {rest : List Char} (h : c ≠ '$') : Single c rest
  | last : Single '$' []
  | lone {c : Char} {rest : List Char} (hdollar : c ≠ '$') (hopening : c ≠ '(') :
    Single '$' (c :: rest)

/-- A character that starts neither an escape nor a reference is plain. -/
theorem Single.plain {c : Char} {rest : List Char} (h : Single c rest) : Plain c rest := by
  cases h with
  | letter h => exact .letter h
  | last => exact .last
  | lone hdollar hopening => exact .lone hdollar hopening

/-- What a text can start with. -/
theorem scan_cases {P : List Char → Prop} (nil : P []) (escape : ∀ rest, P ('$' :: '$' :: rest))
    (opening : ∀ rest, P ('$' :: '(' :: rest))
    (single : ∀ c rest, Single c rest → P (c :: rest)) (s : List Char) : P s := by
  match s with
  | [] => exact nil
  | c :: rest =>
    by_cases hc : c = '$'
    · subst hc
      match rest with
      | [] => exact single _ _ .last
      | d :: after =>
        -- A dollar sign looks one letter ahead, and two letters make it special.
        by_cases hdollar : d = '$'
        · subst hdollar
          exact escape after
        by_cases hopening : d = '('
        · subst hopening
          exact opening after
        · exact single _ _ (.lone hdollar hopening)
    · exact single c rest (.letter hc)

/-- Induction along the pass of a runtime, which reads an escape, a reference or a plain
character at a time. -/
theorem scan_induction {P : List Char → Prop} (nil : P [])
    (escape : ∀ rest, P rest → P ('$' :: '$' :: rest))
    (reference : ∀ name rest, ')' ∉ name → P rest → P ('$' :: '(' :: (name ++ ')' :: rest)))
    (plain : ∀ c rest, Plain c rest → P rest → P (c :: rest)) (s : List Char) : P s := by
  induction hlength : s.length using Nat.strongRecOn generalizing s with
  | ind n ih =>
    subst hlength
    cases s using scan_cases with
    | nil => exact nil
    | escape rest =>
      exact escape rest (ih rest.length (by simp only [List.length_cons]; omega) rest rfl)
    | opening rest =>
      by_cases hclosed : ')' ∈ rest
      · -- The first closing ends the name, whatever was opened in between.
        obtain ⟨name, tail, rfl, hname⟩ := List.eq_append_cons_of_mem hclosed
        exact reference name tail hname (ih tail.length (by simp; omega) tail rfl)
      · exact plain _ _ (.unclosed hclosed) (ih _ (by simp) _ rfl)
    | single c rest hsingle => exact plain c rest hsingle.plain (ih rest.length (by simp) rest rfl)

/-- The name of a reference is the text before its closing. -/
theorem referenceName?_of_not_mem {name : List Char} (h : ')' ∉ name) (rest : List Char) :
    referenceName? (name ++ ')' :: rest) = some name := by
  have hname : ∀ c ∈ name, (c != ')') = true := by
    intro c hc
    exact bne_iff_ne.mpr fun heq => h (heq ▸ hc)
  rw [referenceName?, List.takeWhile_append_of_pos hname]
  simp

/-- Without a closing there is no name. -/
theorem referenceName?_eq_none {s : List Char} (h : ')' ∉ s) : referenceName? s = none := by
  simp [referenceName?, h]

/-- What is left when a reference has been passed over. -/
theorem drop_reference (name rest : List Char) :
    (name ++ ')' :: rest).drop (name.length + 1) = rest := by
  simp [List.drop_append]

variable {values : String → Option String}

/-! ### The pass of a runtime -/

/-- Characters that belong to what was read already are passed over. -/
theorem resolveFrom_skip (values : String → Option String) (skip : Nat) (s : List Char) :
    resolveFrom values skip s = resolveFrom values 0 (s.drop skip) :=
  Text.eq_drop (fun _ => by simp [resolveFrom]) (fun _ _ _ => rfl) skip s

/-- A reference is resolved to its value, or is kept as it is written when the name is unknown. -/
theorem resolveFrom_reference {name : List Char} (h : ')' ∉ name) (rest : List Char) :
    resolveFrom values 0 ('$' :: '(' :: (name ++ ')' :: rest)) =
      ((values (String.ofList name)).elim ('$' :: '(' :: (name ++ [')'])) String.toList) ++
        resolveFrom values 0 rest := by
  simp only [resolveFrom, referenceName?_of_not_mem h]
  rw [resolveFrom_skip, drop_reference]
  cases values (String.ofList name) <;> rfl

/-- Plain characters are kept. -/
theorem resolveFrom_plain {c : Char} {rest : List Char} (h : Plain c rest) :
    resolveFrom values 0 (c :: rest) = c :: resolveFrom values 0 rest := by
  cases h with
  | letter h => simp [resolveFrom, h]
  | last => rfl
  | unclosed h => simp [resolveFrom, referenceName?_eq_none h]
  | lone hdollar hopening => simp [resolveFrom, hdollar, hopening]

/-- A pass over an inserted value gives the value, whatever it holds. -/
theorem resolveFrom_escape (value rest : List Char) :
    resolveFrom values 0 (escape value ++ rest) = value ++ resolveFrom values 0 rest := by
  induction value with
  | nil => rfl
  | cons c value ih =>
    by_cases hc : c = '$'
    · subst hc
      exact congrArg ('$' :: ·) ih
    · have hescape : escape (c :: value) ++ rest = c :: (escape value ++ rest) := by
        simp [escape, hc]
      rw [hescape, resolveFrom_plain (.letter hc), ih, List.cons_append]

/-- As for `resolveFrom`, what was read already is passed over. -/
theorem references_skip (skip : Nat) (s : List Char) :
    references skip s = references 0 (s.drop skip) :=
  Text.eq_drop (fun _ => by simp [references]) (fun _ _ _ => rfl) skip s

/-- A reference is listed with its name. What stands inside it is not searched. -/
theorem references_reference {name : List Char} (h : ')' ∉ name) (rest : List Char) :
    references 0 ('$' :: '(' :: (name ++ ')' :: rest)) = name :: references 0 rest := by
  simp only [references, referenceName?_of_not_mem h]
  rw [references_skip, drop_reference]

/-- A plain character starts no reference. -/
theorem references_plain {c : Char} {rest : List Char} (h : Plain c rest) :
    references 0 (c :: rest) = references 0 rest := by
  cases h with
  | letter h => simp [references, h]
  | last => rfl
  | unclosed h => simp [references, referenceName?_eq_none h]
  | lone hdollar hopening => simp [references, hdollar, hopening]

/-! ### The expansion -/

/-- As for `resolveFrom`, what was read already is passed over. -/
theorem expandFrom_skip (values : String → Option String) (skip : Nat) (s : List Char) :
    expandFrom values skip s = expandFrom values 0 (s.drop skip) :=
  Text.eq_drop (fun _ => by simp [expandFrom]) (fun _ _ _ => rfl) skip s

/-- A reference to a known name gives its value, with dollar signs doubled. -/
theorem expandFrom_known {name : List Char} (h : ')' ∉ name) {value : String}
    (hvalue : values (String.ofList name) = some value) (rest : List Char) :
    expandFrom values 0 ('$' :: '(' :: (name ++ ')' :: rest)) =
      escape value.toList ++ expandFrom values 0 rest := by
  simp only [expandFrom, reference?, referenceName?_of_not_mem h, Option.bind_some, hvalue,
    Option.map_some]
  rw [expandFrom_skip, drop_reference]

/-- The opening of an unknown reference is copied, and its name is scanned like any text. -/
theorem expandFrom_unknown {name : List Char} (h : ')' ∉ name)
    (hvalue : values (String.ofList name) = none) (rest : List Char) :
    expandFrom values 0 ('$' :: '(' :: (name ++ ')' :: rest)) =
      '$' :: '(' :: expandFrom values 0 (name ++ ')' :: rest) := by
  simp [expandFrom, reference?, referenceName?_of_not_mem h, hvalue]

/-- Plain characters are kept. -/
theorem expandFrom_plain {c : Char} {rest : List Char} (h : Plain c rest) :
    expandFrom values 0 (c :: rest) = c :: expandFrom values 0 rest := by
  cases h with
  | letter h => simp [expandFrom, h]
  | last => rfl
  | unclosed h => simp [expandFrom, reference?, referenceName?_eq_none h]
  | lone hdollar hopening => simp [expandFrom, hdollar, hopening]

/-- Text in which nothing is closed is copied. -/
theorem expandFrom_unclosed (values : String → Option String) {s : List Char} (h : ')' ∉ s) :
    expandFrom values 0 s = s := by
  induction s using scan_induction with
  | nil => rfl
  | escape rest ih =>
    have hrest : ')' ∉ rest := by simpa using h
    rw [expandFrom, ih hrest]
  | reference name rest hname ih =>
    -- A reference has a closing.
    simp at h
  | plain c rest hplain ih => rw [expandFrom_plain hplain, ih fun hmem => h (by simp [hmem])]

/-- What a plain character stands in front of opens nothing when it is expanded. -/
theorem Plain.expanded (values : String → Option String) {c : Char} {rest : List Char}
    (h : Plain c rest) : Plain c (expandFrom values 0 rest) := by
  cases h with
  | letter h => exact .letter h
  | last => exact .last
  | unclosed h =>
    rw [expandFrom_plain (.letter (by decide)), expandFrom_unclosed values h]
    exact .unclosed h
  | lone hdollar hopening =>
    rw [expandFrom_plain (.letter hdollar)]
    exact .lone hdollar hopening

/-- A character of a name is a single one if it starts nothing in the name: the closing
behind the name starts nothing either. -/
theorem single_of_name {c : Char} {name : List Char} (rest : List Char)
    (hdollar : ∀ after, c = '$' → name = '$' :: after → False)
    (hopening : ∀ after, c = '$' → name = '(' :: after → False) :
    Single c (name ++ ')' :: rest) := by
  by_cases hc : c = '$'
  · subst hc
    match name with
    | [] => exact .lone (by decide) (by decide)
    | d :: after =>
      exact .lone (fun hd => hdollar after rfl (hd ▸ rfl)) fun hd => hopening after rfl (hd ▸ rfl)
  · exact .letter hc

/-- A name that holds no known reference is copied, up to its closing. -/
theorem expandFrom_copy {name : List Char} (h : ')' ∉ name)
    (hholds : holdsKnown values name = false) (rest : List Char) :
    expandFrom values 0 (name ++ ')' :: rest) = name ++ ')' :: expandFrom values 0 rest := by
  fun_induction holdsKnown values name with
  | case1 => exact expandFrom_plain (.letter (by decide))
  | case2 name ih =>
    have hname : ')' ∉ name := by simpa using h
    simp only [List.cons_append, expandFrom, ih hname hholds]
  | case3 name ih =>
    have hname : ')' ∉ name := by simpa using h
    obtain ⟨hunknown, hrest⟩ := Bool.or_eq_false_iff.mp hholds
    -- The reference inside ends at the closing of the outer one, and is unknown as well.
    show expandFrom values 0 ('$' :: '(' :: (name ++ ')' :: rest)) = _
    rw [expandFrom_unknown hname (by simpa using hunknown), ih hname hrest]
    rfl
  | case4 c name hdollar hopening ih =>
    have hname : ')' ∉ name := fun hmem => h (List.mem_cons_of_mem _ hmem)
    rw [List.cons_append, expandFrom_plain (single_of_name rest hdollar hopening).plain,
      ih hname hholds]
    rfl

/-- A name is broken up at the first known reference that it holds. What replaces that
reference takes the closing as well. -/
theorem expandFrom_nested {name : List Char} (h : ')' ∉ name)
    (hholds : holdsKnown values name = true) :
    ∃ before inner value, name = before ++ '$' :: '(' :: inner ∧
      values (String.ofList inner) = some value ∧ ∀ rest,
        expandFrom values 0 (name ++ ')' :: rest) =
          before ++ (escape value.toList ++ expandFrom values 0 rest) := by
  -- The induction is on the search for a known reference within the name.
  fun_induction holdsKnown values name with
  | case1 => cases hholds
  | case2 name ih =>
    have hname : ')' ∉ name := by simpa using h
    obtain ⟨before, inner, value, rfl, hvalue, hexpand⟩ := ih hname hholds
    refine ⟨'$' :: '$' :: before, inner, value, rfl, hvalue, fun rest => ?_⟩
    rw [List.cons_append, List.cons_append, expandFrom, hexpand]
    rfl
  | case3 name ih =>
    have hname : ')' ∉ name := by simpa using h
    cases hvalue : values (String.ofList name) with
    | some value => exact ⟨[], name, value, rfl, hvalue, expandFrom_known hname hvalue⟩
    | none =>
      -- An unknown reference leaves its opening and is scanned on inside.
      have hrest : holdsKnown values name = true := by simpa [hvalue] using hholds
      obtain ⟨before, inner, value, rfl, hinner, hexpand⟩ := ih hname hrest
      refine ⟨'$' :: '(' :: before, inner, value, rfl, hinner, fun rest => ?_⟩
      rw [List.cons_append, List.cons_append, expandFrom_unknown hname hvalue, hexpand]
      rfl
  | case4 c name hdollar hopening ih =>
    have hname : ')' ∉ name := fun hmem => h (List.mem_cons_of_mem _ hmem)
    obtain ⟨before, inner, value, rfl, hvalue, hexpand⟩ := ih hname hholds
    refine ⟨c :: before, inner, value, rfl, hvalue, fun rest => ?_⟩
    rw [List.cons_append, expandFrom_plain (single_of_name rest hdollar hopening).plain, hexpand]
    rfl

/-! ### Both passes -/

/-- A plain character is kept by both passes, since it opens nothing in front of the expanded text
either. -/
theorem resolveFrom_expandFrom_plain {c : Char} {rest : List Char} (h : Plain c rest) :
    resolveFrom values 0 (expandFrom values 0 (c :: rest)) =
      c :: resolveFrom values 0 (expandFrom values 0 rest) := by
  rw [expandFrom_plain h, resolveFrom_plain (h.expanded values)]

/-- What becomes of a reference that is copied or known is what a runtime makes of it. -/
theorem resolveFrom_expandFrom_reference {name : List Char} (h : ')' ∉ name)
    (hcopied : Copied values name) (rest : List Char) :
    resolveFrom values 0 (expandFrom values 0 ('$' :: '(' :: (name ++ ')' :: rest))) =
      ((values (String.ofList name)).elim ('$' :: '(' :: (name ++ [')'])) String.toList) ++
        resolveFrom values 0 (expandFrom values 0 rest) := by
  cases hvalue : values (String.ofList name) with
  | some value =>
    rw [expandFrom_known h hvalue, resolveFrom_escape]
    rfl
  | none =>
    rw [expandFrom_unknown h hvalue, expandFrom_copy h (hcopied hvalue), resolveFrom_reference h,
      hvalue]

/-- Both passes give what the one of a runtime gives, if every unknown name is copied. -/
theorem resolveFrom_expandFrom {s : List Char} (h : ∀ name ∈ references 0 s, Copied values name) :
    resolveFrom values 0 (expandFrom values 0 s) = resolveFrom values 0 s := by
  induction s using scan_induction with
  | nil => rfl
  | escape rest ih => exact congrArg ('$' :: ·) (ih h)
  | reference name rest hname ih =>
    rw [references_reference hname, List.forall_mem_cons] at h
    rw [resolveFrom_expandFrom_reference hname h.1, resolveFrom_reference hname, ih h.2]
  | plain c rest hplain ih =>
    rw [references_plain hplain] at h
    rw [resolveFrom_expandFrom_plain hplain, resolveFrom_plain hplain, ih h]

/-! ### Closings as values -/

/-- The variables with a closing parenthesis for a value. -/
def closings (values : String → Option String) (name : String) : Option String :=
  (values name).map fun _ => ")"

/-- Whether a known reference is inside a name depends on what is known, not on the values. -/
theorem holdsKnown_congr {other : String → Option String}
    (h : ∀ name, (other name).isSome = (values name).isSome) (name : List Char) :
    holdsKnown other name = holdsKnown values name := by
  fun_induction holdsKnown values name with
  | case1 => rfl
  | case2 name ih => exact ih
  | case3 name ih => rw [holdsKnown, h, ih]
  | case4 c name hdollar hopening ih => rw [holdsKnown, ih] <;> assumption

/-- So does whether a name is copied. -/
theorem copied_congr {other : String → Option String}
    (h : ∀ name, (other name).isSome = (values name).isSome) (name : List Char) :
    Copied other name ↔ Copied values name := by
  rw [Copied, Copied, holdsKnown_congr h, ← Option.isNone_iff_eq_none, ← Option.isNone_iff_eq_none,
    ← Option.not_isSome, ← Option.not_isSome, h]

/-- The same variables are known. -/
theorem isSome_closings (values : String → Option String) (name : String) :
    (closings values name).isSome = (values name).isSome := by
  rw [closings, Option.isSome_map]

/-- Each known variable is a closing parenthesis. -/
theorem eq_of_closings {name value : String} (h : closings values name = some value) :
    value = ")" := by
  obtain ⟨-, -, heq⟩ := Option.map_eq_some_iff.mp h
  exact heq.symm

/-- A closing that replaces a reference inside another one ends that one too early. -/
theorem resolveFrom_expandFrom_ne {name : List Char} (h : ')' ∉ name)
    (hcopied : ¬ Copied (closings values) name) (rest : List Char) :
    resolveFrom (closings values) 0
        (expandFrom (closings values) 0 ('$' :: '(' :: (name ++ ')' :: rest))) ≠
      resolveFrom (closings values) 0 ('$' :: '(' :: (name ++ ')' :: rest)) := by
  obtain ⟨hunknown, hholds⟩ := Classical.not_imp.mp hcopied
  obtain ⟨before, inner, value, hsplit, hinner, hexpand⟩ :=
    expandFrom_nested h ((Bool.not_eq_false _).mp hholds)
  have hbefore : ')' ∉ before := fun hmem => h (by simp [hsplit, hmem])
  have hclosing : escape value.toList = [')'] := by
    rw [eq_of_closings hinner]
    decide
  rw [expandFrom_unknown h hunknown, hexpand, hclosing, List.singleton_append,
    resolveFrom_reference hbefore, resolveFrom_reference h, hunknown, hsplit]
  -- The texts part behind `before`, or at its start if it is the name of a known variable.
  cases hvalue : closings values (String.ofList before) with
  | none => simp
  | some other =>
    rw [eq_of_closings hvalue]
    simp

/-- With closings as values, both passes give what the one of a runtime gives only if every
unknown name is copied. The induction compares the texts piece by piece: up to the first name
that is not copied they are equal, and cancel. -/
theorem copied_of_resolveFrom_eq {s : List Char}
    (h : resolveFrom (closings values) 0 (expandFrom (closings values) 0 s) =
      resolveFrom (closings values) 0 s) :
    ∀ name ∈ references 0 s, Copied (closings values) name := by
  induction s using scan_induction with
  | nil => simp [references]
  | escape rest ih => exact ih (List.cons.inj h).2
  | reference name rest hname ih =>
    -- A reference that is not copied shows at its own place, whatever follows it.
    have hcopied : Copied (closings values) name :=
      Classical.byContradiction fun hbroken => resolveFrom_expandFrom_ne hname hbroken rest h
    rw [resolveFrom_expandFrom_reference hname hcopied, resolveFrom_reference hname] at h
    rw [references_reference hname, List.forall_mem_cons]
    exact ⟨hcopied, ih (List.append_cancel_left h)⟩
  | plain c rest hplain ih =>
    rw [resolveFrom_expandFrom_plain hplain, resolveFrom_plain hplain] at h
    rw [references_plain hplain]
    exact ih (List.cons.inj h).2

/-- Expanding a command before the pass of a runtime changes nothing, whatever the known
variables stand for, exactly if the command is flat. -/
theorem resolve_expand_iff (values : String → Option String) (s : String) :
    (∀ other : String → Option String, (∀ name, (other name).isSome = (values name).isSome) →
      resolve other (expand other s) = resolve other s) ↔ Flat values s := by
  constructor
  · intro h name hname
    -- One environment suffices: the one whose values are all a closing parenthesis.
    have hsame := String.ofList_injective (h (closings values) (isSome_closings values))
    rw [expand, String.toList_ofList] at hsame
    exact (copied_congr (isSome_closings values) name).mp
      (copied_of_resolveFrom_eq hsame name hname)
  · intro hflat other hother
    have hcopied : ∀ name ∈ references 0 s.toList, Copied other name :=
      fun name hname => (copied_congr hother name).mpr (hflat name hname)
    rw [resolve, resolve, expand, String.toList_ofList, resolveFrom_expandFrom hcopied]

/-- Escapes, unknown references and references that are not closed do no harm. -/
example : Flat (fun name => if name = "A" then some "1" else none) "$$(A) $(B) $(A) $(A" := by
  decide

/-- The expansion gives `$(echo 1)`, which is no reference to `echo $(A`. -/
example : ¬ Flat (fun name => if name = "A" then some "1" else none) "$(echo $(A))" := by
  decide

end SidecarInjection.Expansion
