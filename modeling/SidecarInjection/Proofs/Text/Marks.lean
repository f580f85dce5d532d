import SidecarInjection.Text.Search
import Mathlib.Data.List.Basic

/-!
# `SidecarInjection.Proofs.Text.Marks`: texts with marks in them

A mark is a name in angle brackets that stands for some text. `cut` reads a text from left to
right and cuts it into letters and marks, and `substitute` puts a text for each mark. It looks
at the text once: what has been put in is not read again.

Marks do not overlap, so that replacing one mark everywhere is the same as cutting the text at
all of them and putting in a text for that one (`replaceFrom_eq`). Replacing one mark after
another is a different matter. A text that is put in for the first may hold the second, or make
one together with the text around it. `marksIn` tells: a text has as many marks as it was put
together from exactly if it is cut into the same pieces again (`cutFrom_text_or`).

* `replaceAll_eq`: what replacing a mark puts into the pieces of a text.
* `cut_replaceAll_iff`: when a text in which one mark has been replaced is cut as before.
* `cut_replaceAll_of_isTidy`: it always is where no opening bracket stands apart.
-/

set_option autoImplicit false

namespace SidecarInjection.Text

/-! ### Statements -/

/-- A part of a text: a letter, or one of the marks that are looked for. -/
inductive Piece where
  | letter (c : Char)
  | mark (name : String)
  deriving DecidableEq

namespace Piece

/-- The text of a piece. -/
def text : Piece → List Char
  | .letter c => [c]
  | .mark name => name.toList

/-- What a table puts for a piece. -/
def fill (table : List (String × String)) : Piece → List Char
  | .letter c => [c]
  | .mark name => ((table.lookup name).getD name).toList

end Piece

/-- How many of the pieces are marks. -/
def markCount : List Piece → Nat
  | [] => 0
  | .letter _ :: rest => markCount rest
  | .mark _ :: rest => markCount rest + 1

/-- The pieces of a text, after passing over `skip` characters. -/
def cutFrom (marks : List String) : Nat → List Char → List Piece
  | _, [] => []
  | skip + 1, _ :: rest => cutFrom marks skip rest
  | 0, c :: rest =>
    match marks.find? fun name => name.toList.isPrefixOf (c :: rest) with
    | some name => .mark name :: cutFrom marks (name.toList.length - 1) rest
    | none => .letter c :: cutFrom marks 0 rest

/-- The letters and marks that a text consists of. -/
def cut (marks : List String) (s : String) : List Piece := cutFrom marks 0 s.toList

/-- Puts for every mark of a table the text that stands beside it. What has been put in is not
read again. -/
def substitute (table : List (String × String)) (s : String) : String :=
  String.ofList ((cut (table.map Prod.fst) s).flatMap (Piece.fill table))

/-- How many marks stand in a text. -/
def marksIn (marks : List String) (s : String) : Nat := markCount (cut marks s)

/-- A name in angle brackets. -/
def IsMark (mark : String) : Prop :=
  ∃ name : List Char, mark.toList = '<' :: (name ++ ['>']) ∧ '<' ∉ name ∧ '>' ∉ name

/-! ### Marks do not overlap -/

/-- A text starts with one mark at most. -/
theorem IsMark.eq_of_starts {m n : String} (hm : IsMark m) (hn : IsMark n) {s : List Char}
    (hms : m.toList <+: s) (hns : n.toList <+: s) : m = n := by
  have hle : ∀ {m n : String}, IsMark m → IsMark n → m.toList <+: n.toList → m = n := by
    rintro m n ⟨name, hm, -, -⟩ ⟨other, hn, -, hother⟩ hstarts
    rw [hm, hn, List.cons_prefix_cons, List.prefix_concat_iff] at hstarts
    rcases hstarts.2 with heq | hinside
    · rw [← String.toList_inj, hm, hn, heq]
    · -- The closing bracket of the shorter mark would stand inside the longer one.
      exact absurd (hinside.subset (by simp)) hother
  rcases List.prefix_or_prefix_of_prefix hms hns with h | h
  · exact hle hm hn h
  · exact (hle hn hm h).symm

/-- What follows the opening bracket of a mark. -/
theorem IsMark.exists_body {m : String} (hm : IsMark m) :
    ∃ body, m.toList = '<' :: body ∧ '<' ∉ body := by
  obtain ⟨name, hm, hopening, -⟩ := hm
  exact ⟨name ++ ['>'], hm, by simpa using hopening⟩

/-- A mark starts with an opening bracket. -/
theorem IsMark.not_starts {m : String} (hm : IsMark m) {c : Char} (hc : c ≠ '<')
    (rest : List Char) : ¬ m.toList <+: c :: rest := by
  obtain ⟨body, hm, -⟩ := hm.exists_body
  rw [hm, List.cons_prefix_cons]
  exact fun h => hc h.1.symm

/-! ### Cutting -/

/-- What is inside of a mark that was read is passed over. -/
theorem cutFrom_skip (marks : List String) (skip : Nat) (s : List Char) :
    cutFrom marks skip s = cutFrom marks 0 (s.drop skip) :=
  eq_drop (fun _ => by simp [cutFrom]) (fun _ _ _ => rfl) skip s

variable {marks : List String}

/-- Where no mark starts, a letter is read. -/
theorem cutFrom_letter {c : Char} {rest : List Char}
    (h : ∀ m ∈ marks, ¬ m.toList <+: c :: rest) :
    cutFrom marks 0 (c :: rest) = .letter c :: cutFrom marks 0 rest := by
  have hfind : (marks.find? fun name => name.toList.isPrefixOf (c :: rest)) = none := by
    rw [List.find?_eq_none]
    intro m hm
    rw [List.isPrefixOf_iff_prefix]
    exact h m hm
  rw [cutFrom, hfind]

/-- Where a mark starts, it is read as a whole. No other mark starts there, so the order in which
they are looked for does not matter. -/
theorem cutFrom_mark (hmarks : ∀ m ∈ marks, IsMark m) {m : String} (hm : m ∈ marks)
    (rest : List Char) : cutFrom marks 0 (m.toList ++ rest) = .mark m :: cutFrom marks 0 rest := by
  obtain ⟨body, hbody, -⟩ := (hmarks m hm).exists_body
  have hfind :
      (marks.find? fun name => name.toList.isPrefixOf ('<' :: (body ++ rest))) = some m := by
    have hstarts : m.toList <+: '<' :: (body ++ rest) := by
      rw [hbody]
      exact List.prefix_append _ _
    -- Some mark is found, as there is one, and no other starts in the same place.
    cases hfound : marks.find? fun name => name.toList.isPrefixOf ('<' :: (body ++ rest)) with
    | none =>
      have hnone := List.find?_eq_none.mp hfound m hm
      exact absurd (List.isPrefixOf_iff_prefix.mpr hstarts) hnone
    | some other =>
      have hother := List.find?_some hfound
      rw [(hmarks other (List.mem_of_find?_eq_some hfound)).eq_of_starts (hmarks m hm)
        (List.isPrefixOf_iff_prefix.mp hother) hstarts]
  have hlength : m.toList.length - 1 = body.length := by rw [hbody]; rfl
  rw [hbody, List.cons_append, cutFrom, hfind]
  show Piece.mark m :: cutFrom marks (m.toList.length - 1) (body ++ rest) = _
  rw [hlength, cutFrom_skip, List.drop_left]

/-- Text without opening brackets is cut into letters. -/
theorem cutFrom_copy (hmarks : ∀ m ∈ marks, IsMark m) {body : List Char} (h : '<' ∉ body)
    (rest : List Char) :
    cutFrom marks 0 (body ++ rest) = body.map .letter ++ cutFrom marks 0 rest := by
  induction body with
  | nil => rfl
  | cons c body ih =>
    have hc : c ≠ '<' := fun hc => h (by simp [hc])
    rw [List.cons_append, cutFrom_letter fun m hm => (hmarks m hm).not_starts hc _,
      ih fun hmem => h (List.mem_cons_of_mem _ hmem)]
    rfl

/-- Induction along a cut, which reads a mark or a letter at a time. -/
theorem cut_induction (marks : List String) (hmarks : ∀ m ∈ marks, IsMark m)
    {P : List Char → Prop} (nil : P [])
    (mark : ∀ m rest, m ∈ marks → P rest → P (m.toList ++ rest))
    (letter : ∀ c rest, (∀ m ∈ marks, ¬ m.toList <+: c :: rest) → P rest → P (c :: rest))
    (s : List Char) : P s := by
  induction hlength : s.length using Nat.strongRecOn generalizing s with
  | ind n ih =>
    subst hlength
    match s with
    | [] => exact nil
    | c :: rest =>
      by_cases hmark : ∃ m ∈ marks, m.toList <+: c :: rest
      · obtain ⟨m, hm, tail, htail⟩ := hmark
        obtain ⟨body, hbody, -⟩ := (hmarks m hm).exists_body
        -- A mark is not empty, so what follows it is shorter.
        have hshorter : tail.length < (c :: rest).length := by
          rw [← htail, hbody, List.length_append, List.length_cons]
          omega
        rw [← htail]
        exact mark m tail hm (ih tail.length hshorter tail rfl)
      · have hletter : ∀ m ∈ marks, ¬ m.toList <+: c :: rest :=
          fun m hm hstarts => hmark ⟨m, hm, hstarts⟩
        exact letter c rest hletter (ih rest.length (by simp) rest rfl)

/-- The pieces of a text give the text. -/
theorem text_cutFrom (hmarks : ∀ m ∈ marks, IsMark m) (s : List Char) :
    (cutFrom marks 0 s).flatMap Piece.text = s := by
  induction s using cut_induction marks hmarks with
  | nil => rfl
  | mark m rest hm ih => rw [cutFrom_mark hmarks hm, List.flatMap_cons, ih, Piece.text]
  | letter c rest hletter ih => rw [cutFrom_letter hletter, List.flatMap_cons, ih]; rfl

/-- Only marks that are looked for are found. -/
theorem mem_of_mark_mem_cutFrom (hmarks : ∀ m ∈ marks, IsMark m) {m : String} {s : List Char}
    (h : .mark m ∈ cutFrom marks 0 s) : m ∈ marks := by
  induction s using cut_induction marks hmarks with
  | nil => cases h
  | mark n rest hn ih =>
    rw [cutFrom_mark hmarks hn, List.mem_cons] at h
    -- The piece is the mark in front, or a later one.
    rcases h with heq | h
    · cases heq
      exact hn
    · exact ih h
  | letter c rest hletter ih =>
    rw [cutFrom_letter hletter, List.mem_cons] at h
    rcases h with heq | h
    · cases heq
    · exact ih h

/-! ### Fewer marks -/

/-- A function that is read off from the letters maps a list of letters. -/
theorem flatMap_letters {α : Type} {f : Piece → List α} (g : Char → α)
    (h : ∀ c, f (.letter c) = [g c]) (letters : List Char) :
    (letters.map Piece.letter).flatMap f = letters.map g := by
  rw [List.flatMap_map, List.map_eq_flatMap]
  simp only [h]

/-- Letters that stand for themselves give their text. -/
theorem flatMap_letters_eq {f : Piece → List Char} (h : ∀ c, f (.letter c) = [c])
    (letters : List Char) : (letters.map Piece.letter).flatMap f = letters :=
  (flatMap_letters id h letters).trans (List.map_id _)

/-- A piece when fewer marks are looked for: a mark that is not one of them is letters. -/
def Piece.among (fewer : List String) : Piece → List Piece
  | .letter c => [.letter c]
  | .mark m => if m ∈ fewer then [.mark m] else m.toList.map .letter

/-- When fewer marks are looked for, the pieces are the same, but for the marks that became letters.
-/
theorem cutFrom_fewer {fewer : List String} (hmarks : ∀ m ∈ marks, IsMark m)
    (hfewer : ∀ m ∈ fewer, m ∈ marks) (s : List Char) :
    cutFrom fewer 0 s = (cutFrom marks 0 s).flatMap (Piece.among fewer) := by
  have hmarks' : ∀ m ∈ fewer, IsMark m := fun m hm => hmarks m (hfewer m hm)
  induction s using cut_induction marks hmarks with
  | nil => rfl
  | mark m rest hm ih =>
    rw [cutFrom_mark hmarks hm, List.flatMap_cons, ← ih, Piece.among]
    by_cases hmem : m ∈ fewer
    · rw [if_pos hmem, cutFrom_mark hmarks' hmem]
      rfl
    · -- No other mark starts where this one does, and none starts inside.
      obtain ⟨body, hbody, hopening⟩ := (hmarks m hm).exists_body
      have hletter : ∀ n ∈ fewer, ¬ n.toList <+: '<' :: (body ++ rest) := by
        intro n hn hstarts
        have heq := (hmarks' n hn).eq_of_starts (hmarks m hm) hstarts
          (by rw [hbody]; exact List.prefix_append _ _)
        exact hmem (heq ▸ hn)
      rw [if_neg hmem, hbody, List.cons_append, cutFrom_letter hletter,
        cutFrom_copy hmarks' hopening]
      rfl
  | letter c rest hletter ih =>
    rw [cutFrom_letter hletter, List.flatMap_cons, ← ih,
      cutFrom_letter fun m hm => hletter m (hfewer m hm)]
    rfl

/-! ### Replacing one mark -/

/-- The text of a piece with a value in the place of one mark. -/
def Piece.put (m : String) (value : List Char) : Piece → List Char
  | .letter c => [c]
  | .mark n => if n = m then value else n.toList

/-- To replace a mark is to cut at this one alone and put the value for it. -/
theorem replaceFrom_eq_cut (m : String) (value : List Char) (skip : Nat) (s : List Char) :
    replaceFrom m.toList value skip s = (cutFrom [m] skip s).flatMap (Piece.put m value) := by
  fun_induction replaceFrom m.toList value skip s with
  | case1 => simp [cutFrom]
  | case2 skip c rest ih => exact ih
  | case3 c rest hstarts ih =>
    simp [cutFrom, hstarts, Piece.put, ih]
  | case4 c rest hstarts ih =>
    simp [cutFrom, hstarts, Piece.put, ih]

/-- The value is put for its own mark only, so other marks may be looked for as well. -/
theorem put_of_among (m : String) (value : List Char) (p : Piece) :
    (p.among [m]).flatMap (Piece.put m value) = p.put m value := by
  cases p with
  | letter c => rfl
  | mark n =>
    by_cases hn : n = m
    · simp [Piece.among, Piece.put, hn]
    · simp only [Piece.among, Piece.put, List.mem_singleton, hn, if_false]
      exact flatMap_letters_eq (fun _ => rfl) _

/-- Replacing a mark everywhere puts its value into the cut at all marks. -/
theorem replaceFrom_eq (hmarks : ∀ m ∈ marks, IsMark m) {m : String} (hm : m ∈ marks)
    (value s : List Char) :
    replaceFrom m.toList value 0 s = (cutFrom marks 0 s).flatMap (Piece.put m value) := by
  rw [replaceFrom_eq_cut, cutFrom_fewer hmarks (by simpa using hm), List.flatMap_assoc]
  simp only [put_of_among]

/-- So replacing one mark can be read off from the cut at all marks. -/
theorem replaceAll_eq (hmarks : ∀ n ∈ marks, IsMark n) {m : String} (hm : m ∈ marks)
    (value s : String) :
    replaceAll m value s =
      String.ofList ((cut marks s).flatMap (Piece.put m value.toList)) := by
  rw [replaceAll, replaceFrom_eq hmarks hm]
  rfl

/-! ### Putting pieces together -/

/-- The marks of two parts are counted one by one. -/
theorem markCount_append (first second : List Piece) :
    markCount (first ++ second) = markCount first + markCount second := by
  fun_induction markCount first with
  | case1 => simp
  | case2 c rest ih => exact ih
  | case3 m rest ih => rw [List.cons_append, markCount, ih, Nat.add_right_comm]

/-- Letters count nothing. -/
theorem markCount_letters (letters : List Char) : markCount (letters.map Piece.letter) = 0 := by
  induction letters with
  | nil => rfl
  | cons c letters ih => exact ih

/-- A mark takes no marks from the text behind its opening bracket. -/
theorem markCount_body (hmarks : ∀ m ∈ marks, IsMark m) {body : List Char} (h : '<' ∉ body)
    (rest : List Char) :
    markCount (cutFrom marks 0 (body ++ rest)) = markCount (cutFrom marks 0 rest) := by
  rw [cutFrom_copy hmarks h, markCount_append, markCount_letters, Nat.zero_add]

/-- A text that is put together from pieces has their marks, and more of them if letters happen
to make up a mark. It has no more exactly if it is cut into these pieces again. -/
theorem cutFrom_text_or (hmarks : ∀ m ∈ marks, IsMark m) {pieces : List Piece}
    (h : ∀ m, .mark m ∈ pieces → m ∈ marks) :
    cutFrom marks 0 (pieces.flatMap Piece.text) = pieces ∨
      markCount pieces < markCount (cutFrom marks 0 (pieces.flatMap Piece.text)) := by
  induction pieces with
  | nil => exact .inl rfl
  | cons p pieces ih =>
    have hrest := ih fun m hm => h m (List.mem_cons_of_mem _ hm)
    cases p with
    | mark m =>
      rw [List.flatMap_cons, Piece.text, cutFrom_mark hmarks (h m List.mem_cons_self)]
      rcases hrest with heq | hlt
      · exact .inl (congrArg _ heq)
      · exact .inr (Nat.succ_lt_succ hlt)
    | letter c =>
      show cutFrom marks 0 (c :: pieces.flatMap Piece.text) = _ ∨
        markCount pieces < markCount (cutFrom marks 0 (c :: pieces.flatMap Piece.text))
      by_cases hmark : ∃ m ∈ marks, m.toList <+: c :: pieces.flatMap Piece.text
      · -- The letter starts a mark, which is one more than the marks behind the letter.
        obtain ⟨m, hm, rest, hsplit⟩ := hmark
        obtain ⟨body, hbody, hopening⟩ := (hmarks m hm).exists_body
        have hbehind : pieces.flatMap Piece.text = body ++ rest := by
          rw [hbody] at hsplit
          exact (List.cons.inj hsplit).2.symm
        rw [hbehind, markCount_body hmarks hopening] at hrest
        rw [← hsplit, cutFrom_mark hmarks hm]
        refine .inr (Nat.lt_succ_of_le ?_)
        rcases hrest with heq | hlt
        · exact Nat.le_of_eq (by rw [← heq, markCount_body hmarks hopening])
        · exact Nat.le_of_lt hlt
      · have hletter : ∀ m ∈ marks, ¬ m.toList <+: c :: pieces.flatMap Piece.text :=
          fun m hm hstarts => hmark ⟨m, hm, hstarts⟩
        rw [cutFrom_letter hletter]
        rcases hrest with heq | hlt
        · exact .inl (congrArg _ heq)
        · exact .inr hlt

/-! ### A text in which one mark has been replaced -/

/-- The pieces that stand for a piece when one mark has been replaced by others. -/
def Piece.plug (m : String) (inside : List Piece) : Piece → List Piece
  | .letter c => [.letter c]
  | .mark n => if n = m then inside else [.mark n]

/-- The mark is replaced. -/
@[simp] theorem Piece.plug_self (m : String) (inside : List Piece) :
    (Piece.mark m).plug m inside = inside :=
  if_pos rfl

/-- Other marks stay. -/
theorem Piece.plug_of_ne {m n : String} (h : n ≠ m) (inside : List Piece) :
    (Piece.mark n).plug m inside = [.mark n] :=
  if_neg h

/-- The text is that with the value in the place of the mark. -/
theorem text_of_plug (m : String) (inside : List Piece) (p : Piece) :
    (p.plug m inside).flatMap Piece.text = p.put m (inside.flatMap Piece.text) := by
  cases p with
  | letter c => rfl
  | mark n =>
    by_cases hn : n = m
    · simp [Piece.plug, Piece.put, hn]
    · simp [Piece.plug, Piece.put, hn, Piece.text]

/-- Replacing a mark puts the text of the pieces that stand for it. -/
theorem text_flatMap_plug (hmarks : ∀ n ∈ marks, IsMark n) {m : String} (hm : m ∈ marks)
    {inside : List Piece} {value : String} (hvalue : inside.flatMap Piece.text = value.toList)
    (s : String) :
    ((cut marks s).flatMap (Piece.plug m inside)).flatMap Piece.text =
      (replaceAll m value s).toList := by
  rw [List.flatMap_assoc, replaceAll_eq hmarks hm, String.toList_ofList]
  simp only [text_of_plug, hvalue]

/-- The marks of pieces in which one mark has been replaced: those that are left, and those
inside, as often as the mark was there. -/
theorem markCount_plug {m : String} {rest : List String} (hm : m ∉ rest) (inside : List Piece)
    {pieces : List Piece} (h : ∀ n, .mark n ∈ pieces → n ∈ m :: rest) :
    markCount (pieces.flatMap (Piece.plug m inside)) =
      markCount (pieces.flatMap (Piece.among rest)) +
        markCount (pieces.flatMap (Piece.among [m])) * markCount inside := by
  induction pieces with
  | nil => simp [markCount]
  | cons p pieces ih =>
    have hpieces := ih fun n hn => h n (List.mem_cons_of_mem _ hn)
    have hpiece : markCount (p.plug m inside) =
        markCount (p.among rest) + markCount (p.among [m]) * markCount inside := by
      -- A plugged mark counts as what is put in its place, any other piece as before.
      cases p with
      | letter c => simp [Piece.plug, Piece.among, markCount]
      | mark n =>
        rcases List.mem_cons.mp (h n List.mem_cons_self) with rfl | hn
        · simp [Piece.plug, Piece.among, hm, markCount, markCount_letters]
        · have hne : n ≠ m := fun heq => hm (heq ▸ hn)
          simp [Piece.plug, Piece.among, hn, hne, markCount, markCount_letters]
    simp only [List.flatMap_cons, markCount_append, hpieces, hpiece, Nat.add_mul]
    omega

/-- The marks that are left are others than the replaced one. -/
theorem mem_of_mark_mem_plug {m : String} {rest : List String} {inside pieces : List Piece}
    (hinside : ∀ n, .mark n ∈ inside → n ∈ rest) (h : ∀ n, .mark n ∈ pieces → n ∈ m :: rest)
    {n : String} (hn : .mark n ∈ pieces.flatMap (Piece.plug m inside)) : n ∈ rest := by
  obtain ⟨p, hp, hn⟩ := List.mem_flatMap.mp hn
  cases p with
  | letter c => simp [Piece.plug] at hn
  | mark k =>
    -- The plugged mark is gone: what stands there comes from inside.
    by_cases hk : k = m
    · rw [Piece.plug, if_pos hk] at hn
      exact hinside n hn
    · rw [Piece.plug, if_neg hk, List.mem_singleton] at hn
      cases hn
      exact (List.mem_cons.mp (h n hp)).resolve_left hk

/-- A text in which a mark has been replaced is cut as before, with the pieces of the value in
the place of the mark, exactly if it has no more marks than these. -/
theorem cut_replaceAll_iff {m : String} {rest : List String} (hmarks : ∀ n ∈ m :: rest, IsMark n)
    (hm : m ∉ rest) {inside : List Piece} (hinside : ∀ n, .mark n ∈ inside → n ∈ rest)
    {value : String} (hvalue : inside.flatMap Piece.text = value.toList) (s : String) :
    cut rest (replaceAll m value s) = (cut (m :: rest) s).flatMap (Piece.plug m inside) ↔
      marksIn rest (replaceAll m value s) =
        marksIn rest s + marksIn [m] s * markCount inside := by
  have hcut : ∀ n, .mark n ∈ cut (m :: rest) s → n ∈ m :: rest :=
    fun n hn => mem_of_mark_mem_cutFrom hmarks hn
  have hrest : marksIn rest s = markCount ((cut (m :: rest) s).flatMap (Piece.among rest)) :=
    congrArg markCount (cutFrom_fewer hmarks (fun n hn => List.mem_cons_of_mem _ hn) _)
  have hmark : marksIn [m] s = markCount ((cut (m :: rest) s).flatMap (Piece.among [m])) :=
    congrArg markCount (cutFrom_fewer hmarks (by simp) _)
  rw [hrest, hmark, ← markCount_plug hm inside hcut]
  refine ⟨fun heq => congrArg markCount heq, fun hcount => ?_⟩
  -- The text is that of the pieces, so it is cut into them unless it has more marks.
  have hor := cutFrom_text_or (fun n hn => hmarks n (List.mem_cons_of_mem _ hn))
    fun n hn => mem_of_mark_mem_plug hinside hcut hn
  rw [text_flatMap_plug hmarks List.mem_cons_self hvalue] at hor
  exact hor.resolve_right fun hlt => Nat.lt_irrefl _ (hcount ▸ hlt)

/-! ### Texts without stray brackets -/

/-- Whether a piece is a letter that no mark begins with. -/
def Piece.differs (first : Char) : Piece → Bool
  | .letter c => c ≠ first
  | .mark _ => false

/-- Whether behind every opening bracket between the marks there is a letter that their names
do not begin with. -/
def isTidy (first : Char) : List Piece → Bool
  | [] => true
  | p :: rest => (p ≠ .letter '<' || rest.head?.any (Piece.differs first)) && isTidy first rest

/-- Two tidy parts make a tidy whole: a bracket at the end of the first one would not be tidy by
itself. -/
theorem isTidy_append {first : Char} {xs ys : List Piece} (hxs : isTidy first xs)
    (hys : isTidy first ys) : isTidy first (xs ++ ys) := by
  induction xs with
  | nil => exact hys
  | cons p xs ih =>
    rw [isTidy, Bool.and_eq_true] at hxs
    rw [List.cons_append, isTidy, Bool.and_eq_true]
    refine ⟨?_, ih hxs.2⟩
    -- The last piece of the first part now has a neighbour, and is no opening letter.
    cases xs with
    | nil =>
      have hp : p ≠ .letter '<' := by simpa using hxs.1
      simp [hp]
    | cons q xs => exact hxs.1

/-- Letters without an opening bracket are tidy. -/
theorem isTidy_letters {first : Char} {letters : List Char} (h : '<' ∉ letters) :
    isTidy first (letters.map .letter) := by
  induction letters with
  | nil => rfl
  | cons c letters ih =>
    have hc : c ≠ '<' := fun hc => h (by simp [hc])
    rw [List.map_cons, isTidy, ih fun hmem => h (List.mem_cons_of_mem _ hmem)]
    simp [hc]

/-- A tidy text stays so when tidy pieces replace a mark. -/
theorem isTidy_plug {first : Char} {m : String} {inside : List Piece}
    (hinside : isTidy first inside) {pieces : List Piece} (h : isTidy first pieces) :
    isTidy first (pieces.flatMap (Piece.plug m inside)) := by
  induction pieces with
  | nil => rfl
  | cons p pieces ih =>
    rw [isTidy, Bool.and_eq_true] at h
    rw [List.flatMap_cons]
    cases p with
    | mark n =>
      refine isTidy_append ?_ (ih h.2)
      rw [Piece.plug]
      split
      · exact hinside
      · rfl
    | letter c =>
      show isTidy first (.letter c :: pieces.flatMap (Piece.plug m inside))
      rw [isTidy, Bool.and_eq_true]
      refine ⟨?_, ih h.2⟩
      -- A letter behind the bracket stays where it is.
      cases pieces with
      | nil => exact h.1
      | cons q pieces =>
        cases q with
        | letter d => exact h.1
        | mark n =>
          have hc : c ≠ '<' := by simpa [Piece.differs] using h.1
          simp [hc]

/-- Pieces without stray brackets are found again in the text that they make up. -/
theorem cutFrom_text {first : Char} (hmarks : ∀ m ∈ marks, IsMark m)
    (hfirst : ∀ m ∈ marks, m.toList[1]? = some first) {pieces : List Piece}
    (h : ∀ m, .mark m ∈ pieces → m ∈ marks) (htidy : isTidy first pieces) :
    cutFrom marks 0 (pieces.flatMap Piece.text) = pieces := by
  induction pieces with
  | nil => rfl
  | cons p pieces ih =>
    rw [isTidy, Bool.and_eq_true] at htidy
    have hrest := ih (fun m hm => h m (List.mem_cons_of_mem _ hm)) htidy.2
    cases p with
    | mark m =>
      rw [List.flatMap_cons, Piece.text, cutFrom_mark hmarks (h m List.mem_cons_self), hrest]
    | letter c =>
      show cutFrom marks 0 (c :: pieces.flatMap Piece.text) = _
      rw [cutFrom_letter fun m hm hstarts => ?_, hrest]
      -- A mark that starts here begins with a letter that does not stand behind the bracket.
      obtain ⟨body, hbody, -⟩ := (hmarks m hm).exists_body
      have hbegin := hfirst m hm
      rw [hbody] at hstarts hbegin
      obtain ⟨rfl, hbehind⟩ := List.cons_prefix_cons.mp hstarts
      cases body with
      | nil => cases hbegin
      | cons d body =>
        cases pieces with
        | nil => cases List.prefix_nil.mp hbehind
        | cons q pieces =>
          cases q with
          | mark n => simp [Piece.differs] at htidy
          | letter d' =>
            have hd : d = first := by simpa using hbegin
            have hd' : d = d' := (List.cons_prefix_cons.mp hbehind).1
            have hne : d' ≠ first := by simpa [Piece.differs] using htidy.1
            exact hne (hd'.symm.trans hd)

/-- Without stray brackets, a text in which a mark has been replaced is cut as before. -/
theorem cut_replaceAll_of_isTidy {first : Char} {m : String} {rest : List String}
    (hmarks : ∀ n ∈ m :: rest, IsMark n) (hfirst : ∀ n ∈ m :: rest, n.toList[1]? = some first)
    {inside : List Piece} (hinside : ∀ n, .mark n ∈ inside → n ∈ rest) {value : String}
    (hvalue : inside.flatMap Piece.text = value.toList) {s : String}
    (htidy : isTidy first (cut (m :: rest) s)) (htidyInside : isTidy first inside) :
    cut rest (replaceAll m value s) = (cut (m :: rest) s).flatMap (Piece.plug m inside) := by
  rw [cut, ← text_flatMap_plug hmarks List.mem_cons_self hvalue]
  refine cutFrom_text (fun n hn => hmarks n (List.mem_cons_of_mem _ hn))
    (fun n hn => hfirst n (List.mem_cons_of_mem _ hn)) (fun n hn => ?_)
    (isTidy_plug htidyInside htidy)
  exact mem_of_mark_mem_plug hinside (fun k hk => mem_of_mark_mem_cutFrom hmarks hk) hn

end SidecarInjection.Text
