import SidecarInjection.Proofs.Text.Marks

/-!
# `SidecarInjection.Proofs.Text.Replacement`: a mark that is replaced everywhere

`Replaced` says what it means to put a text in the place of another one everywhere: what stands
between the places stays, and does not hold the other text. It is a relation, and does not look
for the places from left to right. For a mark there is only one way to find them, as marks do not
overlap.

* `replaced_replaceAll`: a text in which a mark has been replaced.
* `replaceAll_eq_iff`: nothing else is one.
* `Replaced.value_eq`: what was put for a mark can be told from the result.
-/

set_option autoImplicit false

namespace SidecarInjection.Text

/-- A text is another one with `new` in every place of `old`. -/
inductive Replaced (old new : String) : String → String → Prop
  /-- A text without `old` stays. -/
  | kept {s : String} (h : ¬ old.toList <:+: s.toList) : Replaced old new s s
  /-- In front of the first place there is a text without `old`. -/
  | first {front s t : String} (h : ¬ old.toList <:+: front.toList) (hrest : Replaced old new s t) :
      Replaced old new (front ++ old ++ s) (front ++ new ++ t)

variable {mark value s t : String}

/-! ### A letter more -/

/-- A mark that neither starts at a letter nor stands behind it does not stand in the whole. -/
theorem not_infix_cons {c : Char} {letters : List Char} (hstarts : ¬ mark.toList <+: c :: letters)
    (h : ¬ mark.toList <:+: letters) : ¬ mark.toList <:+: c :: letters := by
  rw [List.infix_cons_iff, not_or]
  exact ⟨hstarts, h⟩

/-- A letter that does not start `old` is put in front of the text. -/
theorem Replaced.cons {c : Char} (h : Replaced mark value s t)
    (hstarts : ¬ mark.toList <+: c :: s.toList) :
    Replaced mark value (String.ofList (c :: s.toList)) (String.ofList (c :: t.toList)) := by
  cases h with
  | kept h =>
    refine .kept ?_
    rw [String.toList_ofList]
    exact not_infix_cons hstarts h
  | @first front s t h hrest =>
    -- With one more letter, the text before the first mark still holds none.
    have hfront : ¬ mark.toList <:+: (String.ofList (c :: front.toList)).toList := by
      rw [String.toList_ofList]
      refine not_infix_cons (fun hprefix => hstarts ?_) h
      rw [String.toList_append, String.toList_append, List.append_assoc, ← List.cons_append]
      exact hprefix.trans (List.prefix_append _ _)
    have hmore := Replaced.first hfront hrest
    have hput (u v : String) : String.ofList (c :: front.toList) ++ u ++ v =
        String.ofList (c :: (front ++ u ++ v).toList) := by
      rw [← String.toList_inj]
      simp
    rwa [hput, hput] at hmore

/-! ### Replacing -/

/-- Where the mark does not start, a letter is kept. -/
theorem replaceFrom_letter {c : Char} {rest : List Char} (h : ¬ mark.toList <+: c :: rest) :
    replaceFrom mark.toList value.toList 0 (c :: rest) =
      c :: replaceFrom mark.toList value.toList 0 rest := by
  rw [replaceFrom, if_neg fun hstarts => h (List.isPrefixOf_iff_prefix.mp hstarts)]

/-- Where it starts, the value is put for it and the search goes on behind it. -/
theorem replaceFrom_mark (hmark : IsMark mark) (rest : List Char) :
    replaceFrom mark.toList value.toList 0 (mark.toList ++ rest) =
      value.toList ++ replaceFrom mark.toList value.toList 0 rest := by
  have hmarks : ∀ m ∈ [mark], IsMark m := by simpa using hmark
  rw [replaceFrom_eq_cut, replaceFrom_eq_cut, cutFrom_mark hmarks (List.mem_singleton_self mark),
    List.flatMap_cons, Piece.put, if_pos rfl]

/-- Replacing a mark puts the value into every place of it. -/
theorem replaced_replaceAll (hmark : IsMark mark) (value s : String) :
    Replaced mark value s (replaceAll mark value s) := by
  have hlist (letters : List Char) : Replaced mark value (String.ofList letters)
      (String.ofList (replaceFrom mark.toList value.toList 0 letters)) := by
    have hmarks : ∀ m ∈ [mark], IsMark m := by simpa using hmark
    obtain ⟨body, hbody, -⟩ := hmark.exists_body
    have hempty : ¬ mark.toList <:+: [] := by simp [hbody]
    -- The induction is on the cuts at the mark, which are what the scan looks at.
    induction letters using cut_induction [mark] hmarks with
    | nil => exact .kept (by rwa [String.toList_ofList])
    | mark m rest hm ih =>
      obtain rfl := (List.mem_singleton.mp hm).symm
      rw [replaceFrom_mark hmark, String.ofList_append, String.ofList_append, String.ofList_toList,
        String.ofList_toList]
      have hfirst : Replaced mark value ("" ++ mark ++ String.ofList rest) _ := .first hempty ih
      rwa [String.empty_append, String.empty_append] at hfirst
    | letter c rest hletter ih =>
      have hstarts := hletter mark (List.mem_singleton_self mark)
      rw [replaceFrom_letter hstarts]
      have hcons := ih.cons (c := c) (by rwa [String.toList_ofList])
      rwa [String.toList_ofList, String.toList_ofList] at hcons
  have hs := hlist s.toList
  rwa [String.ofList_toList] at hs

/-! ### The places of a mark -/

/-- A mark does not start in a text without it, whatever mark comes next. -/
theorem not_prefix_append (hmark : IsMark mark) {letters rest : List Char} (hletters : letters ≠ [])
    (h : ¬ mark.toList <:+: letters) (hrest : ∀ c ∈ rest.head?, c = '<') :
    ¬ mark.toList <+: letters ++ rest := by
  intro hstarts
  rcases List.prefix_or_prefix_of_prefix hstarts (List.prefix_append letters rest) with hin | hover
  · exact h hin.isInfix
  · -- The mark goes on behind the letters, where its opening bracket would stand again.
    obtain ⟨behind, hbehind⟩ := hover
    rw [← hbehind, List.prefix_append_right_inj] at hstarts
    obtain ⟨body, hbody, hopening⟩ := hmark.exists_body
    cases behind with
    | nil =>
      rw [List.append_nil] at hbehind
      exact h (hbehind ▸ List.infix_refl _)
    | cons c behind =>
      obtain ⟨tail, rfl⟩ := hstarts
      obtain rfl : c = '<' := hrest c rfl
      cases letters with
      | nil => exact hletters rfl
      | cons d letters =>
        rw [hbody] at hbehind
        obtain ⟨-, hrest⟩ := List.cons.inj hbehind
        exact hopening (by rw [← hrest]; simp)

/-- Letters without the mark are kept up to where the next one may start. The mark cannot begin in
them and end behind, since what follows begins with an opening bracket. -/
theorem replaceFrom_copy (hmark : IsMark mark) (value : String) {letters rest : List Char}
    (h : ¬ mark.toList <:+: letters) (hrest : ∀ c ∈ rest.head?, c = '<') :
    replaceFrom mark.toList value.toList 0 (letters ++ rest) =
      letters ++ replaceFrom mark.toList value.toList 0 rest := by
  induction letters with
  | nil => rfl
  | cons c letters ih =>
    have hstarts := not_prefix_append hmark (List.cons_ne_nil c letters) h hrest
    have hletters : ¬ mark.toList <:+: letters :=
      fun hinside => h (hinside.trans (List.suffix_cons c letters).isInfix)
    rw [List.cons_append] at hstarts
    rw [List.cons_append, replaceFrom_letter hstarts, ih hletters, List.cons_append]

/-- A text with the value in every place of a mark is what replacing the mark leads to. -/
theorem replaceAll_eq_iff (hmark : IsMark mark) :
    replaceAll mark value s = t ↔ Replaced mark value s t := by
  constructor
  · rintro rfl
    exact replaced_replaceAll hmark value s
  · intro h
    rw [← String.toList_inj, replaceAll, String.toList_ofList]
    induction h with
    | @kept s h =>
      have hnone : ∀ c ∈ ([] : List Char).head?, c = '<' := by simp
      simpa [replaceFrom] using replaceFrom_copy hmark value h hnone
    | @first front s t h hrest ih =>
      -- The mark opens with `<`, so no mark begins in the text before it and ends in it.
      have hopening : ∀ c ∈ (mark.toList ++ s.toList).head?, c = '<' := by
        obtain ⟨body, hbody, -⟩ := hmark.exists_body
        simp [hbody]
      simp only [String.toList_append, List.append_assoc]
      rw [replaceFrom_copy hmark value h hopening, replaceFrom_mark hmark, ih]

/-- There is one way to replace a mark everywhere. -/
theorem Replaced.unique {other : String} (hmark : IsMark mark) (h : Replaced mark value s t)
    (hother : Replaced mark value s other) : t = other :=
  ((replaceAll_eq_iff hmark).mpr h).symm.trans ((replaceAll_eq_iff hmark).mpr hother)

/-! ### What was put in -/

/-- A mark that occurs in a text is one of the pieces that the text is cut into. -/
theorem mem_cutFrom_of_occurs (hmark : IsMark mark) {letters : List Char}
    (h : mark.toList <:+: letters) : .mark mark ∈ cutFrom [mark] 0 letters := by
  have hmarks : ∀ m ∈ [mark], IsMark m := by simpa using hmark
  obtain ⟨body, hbody, -⟩ := hmark.exists_body
  induction letters using cut_induction [mark] hmarks with
  | nil => simp [hbody] at h
  | mark m rest hm ih =>
    rw [cutFrom_mark hmarks hm, List.mem_singleton.mp hm]
    exact List.mem_cons_self
  | letter c rest hletter ih =>
    -- The mark does not start with this letter, so it occurs behind it.
    have hrest := (List.infix_cons_iff.mp h).resolve_left (hletter mark (List.mem_singleton_self _))
    rw [cutFrom_letter hletter]
    exact List.mem_cons_of_mem _ (ih hrest)

/-- The text of another piece does not depend on the value. -/
theorem put_of_ne {m : String} {p : Piece} (h : p ≠ .mark m) (first second : List Char) :
    p.put m first = p.put m second := by
  cases p with
  | letter c => rfl
  | mark n =>
    have hn : n ≠ m := fun hn => h (hn ▸ rfl)
    rw [Piece.put, Piece.put, if_neg hn, if_neg hn]

/-- A text grows by the value for each mark that it was put for. -/
theorem length_flatMap_put (m : String) (letters : List Char) (pieces : List Piece) :
    (pieces.flatMap (Piece.put m letters)).length =
      (pieces.flatMap (Piece.put m [])).length + pieces.count (.mark m) * letters.length := by
  induction pieces with
  | nil => simp
  | cons p pieces ih =>
    -- Only the pieces that are this mark give way to the letters.
    by_cases hp : p = .mark m
    · subst hp
      simp only [List.flatMap_cons, List.length_append, ih, List.count_cons_self, Piece.put,
        if_pos, List.length_nil, Nat.add_mul, Nat.one_mul]
      omega
    · rw [List.flatMap_cons, List.flatMap_cons, List.length_append, List.length_append, ih,
        put_of_ne hp letters [], List.count_cons_of_ne hp, Nat.add_assoc]

/-- Pieces with a mark have different texts for different values of the mark. -/
theorem put_injective {m : String} {first second : List Char} {pieces : List Piece}
    (hmem : .mark m ∈ pieces)
    (h : pieces.flatMap (Piece.put m first) = pieces.flatMap (Piece.put m second)) :
    first = second := by
  -- Both values have one length, so they end in the same place of the text.
  have hlength : first.length = second.length := by
    have heq := congrArg List.length h
    rw [length_flatMap_put, length_flatMap_put m second, Nat.add_left_cancel_iff] at heq
    exact Nat.eq_of_mul_eq_mul_left (List.count_pos_iff.mpr hmem) heq
  induction pieces with
  | nil => cases hmem
  | cons p pieces ih =>
    rw [List.flatMap_cons, List.flatMap_cons] at h
    by_cases hp : p = .mark m
    · subst hp
      simp only [Piece.put, if_pos] at h
      exact (List.append_inj h hlength).1
    · rw [put_of_ne hp first second] at h
      exact ih ((List.mem_cons.mp hmem).resolve_left (Ne.symm hp)) (List.append_cancel_left h)

/-- Where a mark occurs, the text without it tells what was put for it. -/
theorem Replaced.value_eq {other : String} (hmark : IsMark mark)
    (hoccurs : mark.toList <:+: s.toList) (h : Replaced mark value s t)
    (hother : Replaced mark other s t) : value = other := by
  have htexts := ((replaceAll_eq_iff hmark).mpr h).trans ((replaceAll_eq_iff hmark).mpr hother).symm
  rw [← String.toList_inj, replaceAll, replaceAll, String.toList_ofList, String.toList_ofList,
    replaceFrom_eq_cut, replaceFrom_eq_cut] at htexts
  rw [← String.toList_inj]
  exact put_injective (mem_cutFrom_of_occurs hmark hoccurs) htexts

end SidecarInjection.Text
