import SidecarInjection.Proofs.Secrets.Acceptance
import SidecarInjection.Proofs.Text.Marks

/-!
# `SidecarInjection.Proofs.Secrets.Verbatim`: values are put in as they are

A block has placeholders for the values of an entry. `Entry.renderOnce` fills all of them at
once, so that no text that has been put in is read again. `Entry.render` fills one kind after
another, for a template brings placeholders of its own. With them, it fills those that stand in
a destination or a path, or that one of these makes up together with the text around it.

* `Verbatim`: the values of an entry make up no placeholder.
* `unread_iff`: exactly then each step finds the placeholders of the block and the template only.
* `unread_of_isTidy`: values without opening brackets make up none.
* `Unread.render_eq`: then both ways give the same block.
* `template_verbatim`: what is rendered from accepted annotations.
-/

set_option autoImplicit false

namespace SidecarInjection.Secrets

open Outcome Text

/-! ### Statements -/

namespace Entry

/-- The block of an entry when all placeholders are filled at once. The path and the command
are put into the template as well. -/
def renderOnce (block : String) (e : Entry) : String :=
  substitute
    [(destinationPlaceholder, e.destination),
     (contentPlaceholder,
       substitute [(pathPlaceholder, e.path), (commandPlaceholder, e.command)] e.template),
     (pathPlaceholder, e.path), (commandPlaceholder, e.command)] block

/-- A block with the destination of an entry. -/
def withDestination (block : String) (e : Entry) : String :=
  replaceAll destinationPlaceholder e.destination block

/-- A block with the destination and the template of an entry. -/
def withTemplate (block : String) (e : Entry) : String :=
  replaceAll contentPlaceholder e.template (e.withDestination block)

/-- A block with the destination, the template and the path of an entry. -/
def withPath (block : String) (e : Entry) : String :=
  replaceAll pathPlaceholder e.path (e.withTemplate block)

end Entry

/-- The placeholders that are filled in a template as well. -/
def templatePlaceholders : List String := [pathPlaceholder, commandPlaceholder]

/-- The placeholders of a block, in the order in which they are filled. -/
def placeholders : List String :=
  destinationPlaceholder :: contentPlaceholder :: templatePlaceholders

/-- An entry is put into a block without making up a placeholder: as many are left to fill as
the block and the template have. -/
structure Verbatim (block : String) (e : Entry) : Prop where
  destination :
    marksIn (contentPlaceholder :: templatePlaceholders) (e.withDestination block) =
      marksIn (contentPlaceholder :: templatePlaceholders) block
  template :
    marksIn templatePlaceholders (e.withTemplate block) =
      marksIn templatePlaceholders (e.withDestination block) +
        marksIn [contentPlaceholder] (e.withDestination block) *
          marksIn templatePlaceholders e.template
  path :
    marksIn [commandPlaceholder] (e.withPath block) =
      marksIn [commandPlaceholder] (e.withTemplate block)

instance (block : String) (e : Entry) : Decidable (Verbatim block e) :=
  decidable_of_iff (_ ∧ _ ∧ _) ⟨fun h => ⟨h.1, h.2.1, h.2.2⟩,
    fun h => ⟨h.destination, h.template, h.path⟩⟩

/-- The pieces of a value in which no placeholder is looked for. -/
def letters (value : String) : List Piece := value.toList.map .letter

/-- Nothing of what an entry puts into a block is read again: each step finds the placeholders
that are left of the block and the template, where they stand, and no other. -/
structure Unread (block : String) (e : Entry) : Prop where
  destination :
    cut (contentPlaceholder :: templatePlaceholders) (e.withDestination block) =
      (cut placeholders block).flatMap (Piece.plug destinationPlaceholder (letters e.destination))
  template :
    cut templatePlaceholders (e.withTemplate block) =
      (cut (contentPlaceholder :: templatePlaceholders) (e.withDestination block)).flatMap
        (Piece.plug contentPlaceholder (cut templatePlaceholders e.template))
  path :
    cut [commandPlaceholder] (e.withPath block) =
      (cut templatePlaceholders (e.withTemplate block)).flatMap
        (Piece.plug pathPlaceholder (letters e.path))

/-- Neither a block nor the values of an entry have opening brackets that could begin a
placeholder. -/
def Entry.isTidy (block : String) (e : Entry) : Bool :=
  Text.isTidy 'V' (cut placeholders block) && !e.destination.toList.contains '<' &&
    Text.isTidy 'V' (cut templatePlaceholders e.template) && !e.path.toList.contains '<'

/-! ### Placeholders -/

/-- All placeholders are names in angle brackets, and no two of them overlap. -/
theorem isMark_placeholders {marks : List String} (h : marks ⊆ placeholders) :
    ∀ m ∈ marks, IsMark m := by
  have hname : ∀ m ∈ placeholders, m.toList = '<' :: ((m.toList.drop 1).dropLast ++ ['>']) ∧
      '<' ∉ (m.toList.drop 1).dropLast ∧ '>' ∉ (m.toList.drop 1).dropLast := by
    decide +kernel
  exact fun m hm => ⟨_, hname m (h hm)⟩

/-- Their names all begin with the same letter. It tells a stray bracket from the beginning of one.
-/
theorem first_placeholders {marks : List String} (h : marks ⊆ placeholders) :
    ∀ m ∈ marks, m.toList[1]? = some 'V' := by
  have hfirst : ∀ m ∈ placeholders, m.toList[1]? = some 'V' := by decide +kernel
  exact fun m hm => hfirst m (h hm)

/-- What is left after the destination has been put in. -/
theorem left_subset : contentPlaceholder :: templatePlaceholders ⊆ placeholders :=
  List.subset_cons_self _ _

/-- What a template is searched for. -/
theorem template_subset : templatePlaceholders ⊆ placeholders :=
  List.Subset.trans (List.subset_cons_self _ _) left_subset

/-- The letters of a value give the value. -/
theorem text_letters (value : String) : (letters value).flatMap Piece.text = value.toList :=
  flatMap_letters_eq (fun _ => rfl) _

/-- There are no placeholders among letters. -/
theorem mem_of_mark_mem_letters {value m : String} {marks : List String}
    (h : .mark m ∈ letters value) : m ∈ marks := by
  simp [letters] at h

/-- The pieces of a template give the template. -/
theorem text_template (e : Entry) :
    (cut templatePlaceholders e.template).flatMap Piece.text = e.template.toList :=
  text_cutFrom (isMark_placeholders template_subset) _

/-- The placeholders of a template are those of the path and the command. -/
theorem mem_of_mark_mem_template {e : Entry} {m : String}
    (h : .mark m ∈ cut templatePlaceholders e.template) : m ∈ templatePlaceholders :=
  mem_of_mark_mem_cutFrom (isMark_placeholders template_subset) h

/-! ### One placeholder after another -/

variable {block : String} {e : Entry}

/-- Nothing is read again exactly if no placeholder is made up. -/
theorem unread_iff : Unread block e ↔ Verbatim block e := by
  have hdestination := cut_replaceAll_iff (isMark_placeholders (List.Subset.refl _)) (by decide)
    (fun _ => mem_of_mark_mem_letters) (text_letters e.destination) block
  have htemplate := cut_replaceAll_iff (isMark_placeholders left_subset) (by decide)
    (fun _ => mem_of_mark_mem_template) (text_template e) (e.withDestination block)
  have hpath := cut_replaceAll_iff (isMark_placeholders template_subset) (by decide)
    (fun _ => mem_of_mark_mem_letters) (text_letters e.path) (e.withTemplate block)
  -- Letters have no marks to be counted.
  rw [letters, markCount_letters, Nat.mul_zero, Nat.add_zero] at hdestination hpath
  exact ⟨fun h => ⟨hdestination.mp h.destination, htemplate.mp h.template, hpath.mp h.path⟩,
    fun h => ⟨hdestination.mpr h.destination, htemplate.mpr h.template, hpath.mpr h.path⟩⟩

/-- Without stray brackets nothing is read again. -/
theorem unread_of_isTidy (h : e.isTidy block) : Unread block e := by
  simp only [Entry.isTidy, Bool.and_eq_true, Bool.not_eq_true', List.contains_eq_mem,
    decide_eq_false_iff_not] at h
  obtain ⟨⟨⟨hblock, hdestination⟩, htemplate⟩, hpath⟩ := h
  -- Each step leaves a text without stray brackets to the next one.
  have hcut₁ := cut_replaceAll_of_isTidy (isMark_placeholders (List.Subset.refl _))
    (first_placeholders (List.Subset.refl _)) (fun _ => mem_of_mark_mem_letters)
    (text_letters e.destination) hblock (isTidy_letters hdestination)
  have htidy₁ : Text.isTidy 'V' (cut (contentPlaceholder :: templatePlaceholders)
      (e.withDestination block)) :=
    hcut₁ ▸ isTidy_plug (isTidy_letters hdestination) hblock
  have hcut₂ := cut_replaceAll_of_isTidy (isMark_placeholders left_subset)
    (first_placeholders left_subset) (fun _ => mem_of_mark_mem_template)
    (text_template e) htidy₁ htemplate
  have htidy₂ : Text.isTidy 'V' (cut templatePlaceholders (e.withTemplate block)) :=
    hcut₂ ▸ isTidy_plug htemplate htidy₁
  have hcut₃ := cut_replaceAll_of_isTidy (isMark_placeholders template_subset)
    (first_placeholders template_subset) (fun _ => mem_of_mark_mem_letters)
    (text_letters e.path) htidy₂ (isTidy_letters hpath)
  exact ⟨hcut₁, hcut₂, hcut₃⟩

/-- What a piece becomes when the path and the command are filled in. -/
def finish (e : Entry) (p : Piece) : List Char :=
  (p.plug pathPlaceholder (letters e.path)).flatMap (Piece.put commandPlaceholder e.command.toList)

/-- In the end the path stands in the place of its placeholder. -/
theorem finish_path (e : Entry) : finish e (.mark pathPlaceholder) = e.path.toList := by
  rw [finish, Piece.plug_self]
  exact flatMap_letters_eq (fun _ => rfl) _

/-- The command stands in the place of its own. -/
theorem finish_command (e : Entry) : finish e (.mark commandPlaceholder) = e.command.toList := by
  rw [finish, Piece.plug_of_ne (by decide), List.flatMap_singleton, Piece.put, if_pos rfl]

/-- In a template, the path and the command are what is filled in. -/
theorem finish_template (e : Entry) :
    (cut templatePlaceholders e.template).flatMap (finish e) =
      (substitute [(pathPlaceholder, e.path), (commandPlaceholder, e.command)]
        e.template).toList := by
  rw [substitute, String.toList_ofList]
  refine List.flatMap_congr fun p hp => ?_
  cases p with
  | letter c => rfl
  | mark m =>
    rcases (by simpa [templatePlaceholders] using mem_of_mark_mem_template hp :
      m = pathPlaceholder ∨ m = commandPlaceholder) with rfl | rfl
    · exact finish_path e
    · exact finish_command e

/-- What a piece of a block becomes, step by step, is what a single reading puts for it. -/
theorem fill_eq_steps (e : Entry) {p : Piece} (hp : p ∈ cut placeholders block) :
    ((p.plug destinationPlaceholder (letters e.destination)).flatMap fun q =>
      (q.plug contentPlaceholder (cut templatePlaceholders e.template)).flatMap (finish e)) =
    p.fill [(destinationPlaceholder, e.destination),
      (contentPlaceholder,
        substitute [(pathPlaceholder, e.path), (commandPlaceholder, e.command)] e.template),
      (pathPlaceholder, e.path), (commandPlaceholder, e.command)] := by
  cases p with
  | letter c => rfl
  | mark m =>
    have hm := mem_of_mark_mem_cutFrom (isMark_placeholders (List.Subset.refl _)) hp
    rcases (by simpa [placeholders, templatePlaceholders] using hm : m = destinationPlaceholder ∨
      m = contentPlaceholder ∨ m = pathPlaceholder ∨ m = commandPlaceholder) with
      rfl | rfl | rfl | rfl
    · -- The later steps pass over the letters of the destination.
      rw [Piece.plug_self]
      exact flatMap_letters_eq (fun _ => rfl) _
    · -- The template has placeholders of its own, which the later steps fill.
      rw [Piece.plug_of_ne (by decide), List.flatMap_singleton, Piece.plug_self, finish_template]
      rfl
    · rw [Piece.plug_of_ne (by decide), List.flatMap_singleton, Piece.plug_of_ne (by decide),
        List.flatMap_singleton, finish_path]
      rfl
    · rw [Piece.plug_of_ne (by decide), List.flatMap_singleton, Piece.plug_of_ne (by decide),
        List.flatMap_singleton, finish_command]
      rfl

/-- Filling one placeholder after another gives the same block as filling all of them at once,
if nothing is read again. -/
theorem Unread.render_eq (h : Unread block e) : e.render block = e.renderOnce block := by
  have hcommand : ∀ m ∈ [commandPlaceholder], IsMark m :=
    isMark_placeholders (by simp [placeholders, templatePlaceholders])
  rw [Entry.render, renderBlock]
  show replaceAll commandPlaceholder e.command (e.withPath block) = _
  rw [replaceAll_eq hcommand List.mem_cons_self, h.path, h.template, h.destination,
    Entry.renderOnce, substitute]
  simp only [List.flatMap_assoc]
  exact congrArg _ (List.flatMap_congr fun p hp => fill_eq_steps e hp)

/-! ### The rendered text -/

/-- What is rendered from accepted annotations: one block for each destination, with a line
break after it. All values are put in at once and as they are, unless they make up a placeholder,
which is the same as being read again. Without stray brackets they do not. -/
theorem template_verbatim {config : Config} {keys : AnnotationKeys} {pod : PodLabels}
    {c : SecretsConfig} (h : compute config keys pod = .ok c) :
    c.template = renderEntries config.templateBlock (entries config keys pod) ∧
      (∀ e ∈ entries config keys pod,
        (Unread config.templateBlock e ↔ Verbatim config.templateBlock e) ∧
          (e.isTidy config.templateBlock → Verbatim config.templateBlock e) ∧
          (Verbatim config.templateBlock e →
            e.render config.templateBlock = e.renderOnce config.templateBlock)) ∧
      ((∀ e ∈ entries config keys pod, Verbatim config.templateBlock e) →
        c.template = String.join
          ((entries config keys pod).map fun e => e.renderOnce config.templateBlock ++ "\n")) := by
  rw [compute_eq] at h
  obtain ⟨-, rfl⟩ := settle_eq_ok.mp h
  have honce : ∀ e, Verbatim config.templateBlock e →
      e.render config.templateBlock = e.renderOnce config.templateBlock :=
    fun e he => (unread_iff.mpr he).render_eq
  refine ⟨rfl, fun e _ => ⟨unread_iff, fun he => unread_iff.mp (unread_of_isTidy he), honce e⟩,
    fun hall => ?_⟩
  refine congrArg String.join (List.map_congr_left fun e he => ?_)
  rw [honce e (hall e he)]

/-- Both blocks of a small pod are filled at once. -/
theorem template_verbatim_sample :
    ∃ c, compute Sample.config Sample.keys (Sample.listing "secret/a,secret/b" "a,b" "reload") =
        .ok c ∧
      c.template = String.join
        ((entries Sample.config Sample.keys
          (Sample.listing "secret/a,secret/b" "a,b" "reload")).map fun e =>
            e.renderOnce Sample.config.templateBlock ++ "\n") := by
  have haccepted : (compute Sample.config Sample.keys
      (Sample.listing "secret/a,secret/b" "a,b" "reload")).toBool = true := by
    decide +kernel
  have htidy : ∀ e ∈ entries Sample.config Sample.keys
      (Sample.listing "secret/a,secret/b" "a,b" "reload"),
      e.isTidy Sample.config.templateBlock := by
    decide +kernel
  obtain ⟨c, hc⟩ := exists_of_toBool haccepted
  -- Tidy entries are verbatim, so their blocks are those of the single pass.
  obtain ⟨-, hentries, honce⟩ := template_verbatim hc
  exact ⟨c, hc, honce fun e he => (hentries e he).2.1 (htidy e he)⟩

/-- A path in which the placeholder of the command stands is read again. -/
example :
    ¬ Verbatim pathPlaceholder ⟨"", commandPlaceholder, "", "reload"⟩ ∧
      (Entry.mk "" commandPlaceholder "" "reload").render pathPlaceholder = "reload" ∧
      (Entry.mk "" commandPlaceholder "" "reload").renderOnce pathPlaceholder =
        commandPlaceholder := by
  decide +kernel

end SidecarInjection.Secrets
