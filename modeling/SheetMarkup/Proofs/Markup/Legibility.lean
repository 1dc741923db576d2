import Mathlib.Tactic.MkIffOfInductiveProp
import SheetMarkup.Markup.Emit
import SheetMarkup.Proofs.Text.Characters

/-!
# Legibility — a layout is read off its markup

What is written of a part of a layout shows where it ends. A tag ends at its closing bracket, a text at the
next opening one, the value of an attribute at its closing quotation mark, and a part that may be left out
begins like nothing that can stand in its place. So two layouts with the same markup are taken apart in step,
part by part, and are the same up to what is not written at all: the number of a row and its section.

* `IsPlain`: texts and layouts that hold none of these characters where they would end something
* `Legible`: texts that show what they are written for, whatever follows
* `Begins`: how a text can begin behind a part that may be left out
* `Legible.part`, `Legible.list`: a part that may be left out, and any number of parts in a row
* `legible_cell`, `legible_row`, `legible_section`, `legible_caption`, `legible_columnGroup`: the elements
* `tableMarkup_eq_iff`: the markup of whole tables
-/

namespace SheetMarkup

/-! ## Plain layouts -/

/-- A text without the characters that end a text of a cell, a tag or the value of an attribute. -/
def Markup.IsPlain (text : String) : Prop :=
  '<' ∉ text.toList ∧ '>' ∉ text.toList ∧ '"' ∉ text.toList

@[mk_iff]
structure LayoutCell.IsPlain (cell : LayoutCell) : Prop where
  content : Markup.IsPlain cell.content
  cssClass : Markup.IsPlain cell.cssClass
  style : ∀ style ∈ cell.style, Markup.IsPlain style
  colspan : 1 ≤ cell.colspan
  rowspan : 1 ≤ cell.rowspan

@[mk_iff]
structure LayoutRow.IsPlain (row : LayoutRow) : Prop where
  cssClass : Markup.IsPlain row.cssClass
  cells : ∀ cell ∈ row.cells, cell.IsPlain

@[mk_iff]
structure Caption.IsPlain (caption : Caption) : Prop where
  text : Markup.IsPlain caption.text
  cssClass : Markup.IsPlain caption.cssClass

/-- Spans are at least 1 and texts are plain, but the attributes of a column may hold quotation marks. -/
@[mk_iff]
structure TableLayout.IsPlain (layout : TableLayout) : Prop where
  header : ∀ row ∈ layout.header, row.IsPlain
  footer : ∀ row ∈ layout.footer, row.IsPlain
  body : ∀ row ∈ layout.body, row.IsPlain
  caption : ∀ caption ∈ layout.caption, caption.IsPlain
  columnGroup : ∀ columns ∈ layout.columnGroup, ∀ attributes ∈ columns,
    '<' ∉ attributes.toList ∧ '>' ∉ attributes.toList

instance (text : String) : Decidable (Markup.IsPlain text) :=
  inferInstanceAs (Decidable ('<' ∉ text.toList ∧ '>' ∉ text.toList ∧ '"' ∉ text.toList))

instance (cell : LayoutCell) : Decidable cell.IsPlain :=
  decidable_of_iff _ (LayoutCell.isPlain_iff cell).symm

instance (row : LayoutRow) : Decidable row.IsPlain :=
  decidable_of_iff _ (LayoutRow.isPlain_iff row).symm

instance (caption : Caption) : Decidable caption.IsPlain :=
  decidable_of_iff _ (Caption.isPlain_iff caption).symm

instance (layout : TableLayout) : Decidable layout.IsPlain :=
  decidable_of_iff _ (TableLayout.isPlain_iff layout).symm

def LayoutRow.unplaced (row : LayoutRow) : LayoutRow :=
  { row with index := 0, part := .body }

/-- A layout as it is written, without the numbers and the sections of its rows. -/
def TableLayout.unplaced (layout : TableLayout) : TableLayout :=
  { layout with
    header := layout.header.map LayoutRow.unplaced
    footer := layout.footer.map LayoutRow.unplaced
    body := layout.body.map LayoutRow.unplaced }

namespace Markup

/-! ## Legible texts -/

/-- What is written of a fitting value shows what is seen of it and where it ends, whatever follows. -/
def Legible {α β : Type} (fits : α → Prop) (seen : α → β) (write : α → String) : Prop :=
  ∀ ⦃a b : α⦄, fits a → fits b → ∀ ⦃s t : List Char⦄,
    (write a).toList ++ s = (write b).toList ++ t → seen a = seen b ∧ s = t

def Begins (starts : List String) (s : List Char) : Prop :=
  ∃ start ∈ starts, start.toList <+: s

/-- No text begins both in one way and in one of some others. -/
def Apart (start : String) (others : List String) : Prop :=
  ∀ other ∈ others, ¬ start.toList <+: other.toList ∧ ¬ other.toList <+: start.toList

instance (start : String) (others : List String) : Decidable (Apart start others) :=
  inferInstanceAs (Decidable (∀ other ∈ others,
    ¬ start.toList <+: other.toList ∧ ¬ other.toList <+: start.toList))

section Parts

variable {α β : Type} {fits : α → Prop} {seen : α → β} {write : α → String} {start : String}
  {starts : List String} {s t : List Char}

theorem Begins.of_prefix {text : String} (h : start.toList <+: text.toList) (s : List Char) :
    Begins [start] (text.toList ++ s) :=
  ⟨start, List.mem_singleton_self start, h.trans (List.prefix_append _ s)⟩

theorem Begins.not_prefix (h : Begins starts s) (hapart : Apart start starts) :
    ¬ start.toList <+: s := by
  rintro hstart
  rcases h with ⟨other, hother, hprefix⟩
  rcases List.prefix_or_prefix_of_prefix hstart hprefix with hshort | hshort
  · exact (hapart other hother).1 hshort
  · exact (hapart other hother).2 hshort

/-- In front of a text a part may be left out. -/
theorem Begins.part (hstart : ∀ a, start.toList <+: (write a).toList) (h : Begins starts s)
    (part : Option α) : Begins (start :: starts) ((part.elim "" write).toList ++ s) := by
  cases part with
  | none =>
    rcases h with ⟨other, hother, hprefix⟩
    exact ⟨other, List.mem_cons_of_mem start hother, hprefix⟩
  | some a => exact ⟨start, List.mem_cons_self, (hstart a).trans (List.prefix_append _ s)⟩

/-- A part that may be left out, in front of what begins in other ways. -/
theorem Legible.part (h : Legible fits seen write) (hstart : ∀ a, start.toList <+: (write a).toList)
    (hapart : Apart start starts) {part part' : Option α} (hpart : ∀ a ∈ part, fits a)
    (hpart' : ∀ a ∈ part', fits a) (hs : Begins starts s) (ht : Begins starts t)
    (heq : (part.elim "" write).toList ++ s = (part'.elim "" write).toList ++ t) :
    part.map seen = part'.map seen ∧ s = t := by
  have hprefix : ∀ a u, start.toList <+: (write a).toList ++ u :=
    fun a u => (hstart a).trans (List.prefix_append _ u)
  cases part with
  | none =>
    cases part' with
    | none => exact ⟨rfl, heq⟩
    | some b => exact absurd ((show s = _ from heq) ▸ hprefix b t) (hs.not_prefix hapart)
  | some a =>
    cases part' with
    | none => exact absurd ((show _ = t from heq) ▸ hprefix a s) (ht.not_prefix hapart)
    | some b =>
      rcases h (hpart a rfl) (hpart' b rfl) heq with ⟨hseen, hrest⟩
      exact ⟨congrArg some hseen, hrest⟩

/-- Parts one after another, in front of what begins in other ways. -/
theorem Legible.list (h : Legible fits seen write) (start : String)
    (hstart : ∀ a, start.toList <+: (write a).toList) (hapart : Apart start starts)
    {parts parts' : List α} (hparts : ∀ a ∈ parts, fits a) (hparts' : ∀ a ∈ parts', fits a)
    (hs : Begins starts s) (ht : Begins starts t)
    (heq : (String.join (parts.map write)).toList ++ s =
      (String.join (parts'.map write)).toList ++ t) :
    parts.map seen = parts'.map seen ∧ s = t := by
  have hprefix : ∀ a u, start.toList <+: (write a).toList ++ u :=
    fun a u => (hstart a).trans (List.prefix_append _ u)
  induction parts generalizing parts' with
  | nil =>
    cases parts' with
    | nil => exact ⟨rfl, by simpa using heq⟩
    | cons b parts' =>
      -- A part begins with the start, and what follows the list does not.
      simp only [List.map_nil, List.map_cons, String.join_nil, String.join_cons, String.toList_append,
        List.append_assoc] at heq
      exact absurd ((show s = _ from heq) ▸ hprefix b _) (hs.not_prefix hapart)
  | cons a parts ih =>
    cases parts' with
    | nil =>
      simp only [List.map_nil, List.map_cons, String.join_nil, String.join_cons, String.toList_append,
        List.append_assoc] at heq
      exact absurd ((show _ = t from heq) ▸ hprefix a _) (ht.not_prefix hapart)
    | cons b parts' =>
      simp only [List.map_cons, String.join_cons, String.toList_append, List.append_assoc] at heq
      rcases h (hparts a List.mem_cons_self) (hparts' b List.mem_cons_self) heq with ⟨hseen, hrest⟩
      rcases ih (fun c hc => hparts c (List.mem_cons_of_mem a hc))
        (fun c hc => hparts' c (List.mem_cons_of_mem b hc)) hrest with ⟨hmap, hlast⟩
      exact ⟨by simp [hseen, hmap], hlast⟩

end Parts

/-! ## Attributes -/

def attrStart (name : String) : String :=
  " " ++ name ++ "=\""

theorem attr_eq_elim (name : String) (value : Option String) :
    attr name value = value.elim "" fun text => attrStart name ++ text ++ "\"" := by
  cases value <;> rfl

theorem unlessEmpty_inj {text text' : String} (h : unlessEmpty text = unlessEmpty text') :
    text = text' := by
  unfold unlessEmpty at h
  split at h <;> split at h <;> simp_all

theorem unlessSingle_inj {span span' : Nat} (hspan : 1 ≤ span) (hspan' : 1 ≤ span')
    (h : unlessSingle span = unlessSingle span') : span = span' := by
  unfold unlessSingle at h
  split at h <;> split at h
  · have hdigits : Nat.toDigits 10 span = Nat.toDigits 10 span' := by
      rw [← Nat.toList_repr, ← Nat.toList_repr]
      exact congrArg String.toList (Option.some.inj h)
    calc
      span = Nat.ofDigitChars 10 (Nat.toDigits 10 span) 0 := Nat.ofDigitChars_ten_toDigits.symm
      _ = Nat.ofDigitChars 10 (Nat.toDigits 10 span') 0 := by rw [hdigits]
      _ = span' := Nat.ofDigitChars_ten_toDigits
  · cases h
  · cases h
  · omega

theorem quote_not_mem_unlessEmpty {text : String} (h : IsPlain text) :
    ∀ value ∈ unlessEmpty text, '"' ∉ value.toList := by
  intro value hvalue
  unfold unlessEmpty at hvalue
  split at hvalue
  · cases hvalue
  · cases hvalue
    exact h.2.2

theorem quote_not_mem_unlessSingle {span : Nat} :
    ∀ value ∈ unlessSingle span, '"' ∉ value.toList := by
  intro value hvalue hmem
  unfold unlessSingle at hvalue
  split at hvalue
  · cases hvalue
    have hdigits : '"' ∈ Nat.toDigits 10 span := Nat.toList_repr ▸ hmem
    exact absurd (Nat.isDigit_of_mem_toDigits (by decide) (by decide) hdigits) (by decide)
  · cases hvalue

section Attributes

variable {name : String} {starts : List String} {s t : List Char}

theorem Begins.attr (h : Begins starts s) (name : String) (value : Option String) :
    Begins (attrStart name :: starts) ((attr name value).toList ++ s) := by
  rw [attr_eq_elim]
  refine Begins.part (fun text => ?_) h value
  simp only [String.toList_append, List.append_assoc]
  exact List.prefix_append _ _

/-- An attribute that may be left out, in front of others and the end of the tag. -/
theorem legible_attr (hapart : Apart (attrStart name) starts) {value value' : Option String}
    (hvalue : ∀ text ∈ value, '"' ∉ text.toList) (hvalue' : ∀ text ∈ value', '"' ∉ text.toList)
    (hs : Begins starts s) (ht : Begins starts t)
    (h : (attr name value).toList ++ s = (attr name value').toList ++ t) : value = value' ∧ s = t := by
  have hlegible : Legible (fun text : String => '"' ∉ text.toList) id
      fun text => attrStart name ++ text ++ "\"" := by
    intro text text' htext htext' s t heq
    simp only [String.toList_append, List.append_assoc, List.append_cancel_left_eq] at heq
    rcases eq_of_append_cons_eq htext htext' heq with ⟨hsame, hrest⟩
    exact ⟨String.toList_inj.1 hsame, hrest⟩
  rw [attr_eq_elim, attr_eq_elim] at h
  have hpart := hlegible.part (fun text => by
    simp only [String.toList_append, List.append_assoc]
    exact List.prefix_append _ _) hapart hvalue hvalue' hs ht h
  simpa using hpart

end Attributes

/-! ## Cells and rows -/

theorem legible_cell : Legible LayoutCell.IsPlain id cellMarkup := by
  intro cell cell' hcell hcell' s t heq
  have htag : cell.tag = cell'.tag := by
    cases htag : cell.tag <;> cases htag' : cell'.tag <;>
      simp [cellMarkup, CellTag.element, htag, htag'] at heq ⊢
  simp only [cellMarkup, htag, String.toList_append, List.append_assoc, List.append_cancel_left_eq]
    at heq
  -- Behind each attribute the tag goes on with a later one, or ends.
  have hend := Begins.of_prefix (List.prefix_refl ">".toList)
  have hlast := fun (cell : LayoutCell) u => (hend u).attr "style" cell.style
  have hlater := fun (cell : LayoutCell) u =>
    (hlast cell u).attr "class" (unlessEmpty cell.cssClass)
  have hothers := fun (cell : LayoutCell) u =>
    (hlater cell u).attr "rowspan" (unlessSingle cell.rowspan)
  rcases legible_attr (by decide) quote_not_mem_unlessSingle quote_not_mem_unlessSingle
    (hothers cell _) (hothers cell' _) heq with ⟨hcolspan, hrest⟩
  rcases legible_attr (by decide) quote_not_mem_unlessSingle quote_not_mem_unlessSingle
    (hlater cell _) (hlater cell' _) hrest with ⟨hrowspan, hrest⟩
  rcases legible_attr (by decide) (quote_not_mem_unlessEmpty hcell.cssClass)
    (quote_not_mem_unlessEmpty hcell'.cssClass) (hlast cell _) (hlast cell' _) hrest with
    ⟨hclass, hrest⟩
  rcases legible_attr (by decide) (fun text htext => (hcell.style text htext).2.2)
    (fun text htext => (hcell'.style text htext).2.2) (hend _) (hend _) hrest with ⟨hstyle, hrest⟩
  rw [List.append_cancel_left_eq] at hrest
  rcases eq_of_append_cons_eq hcell.content.1 hcell'.content.1 hrest with ⟨hcontent, hrest⟩
  have htail : s = t := by simpa using hrest
  refine ⟨?_, htail⟩
  rcases cell with ⟨content, tag, colspan, rowspan, cssClass, style⟩
  rcases cell' with ⟨content', tag', colspan', rowspan', cssClass', style'⟩
  simp only [id, LayoutCell.mk.injEq]
  exact ⟨String.toList_inj.1 hcontent, htag, unlessSingle_inj hcell.colspan hcell'.colspan hcolspan,
    unlessSingle_inj hcell.rowspan hcell'.rowspan hrowspan, unlessEmpty_inj hclass, hstyle⟩

/-- Texts with something between each and the next. -/
theorem intercalate_cons (between text : String) (texts : List String) :
    between.intercalate (text :: texts) =
      text ++ String.join (texts.map fun next => between ++ next) := by
  induction texts generalizing text with
  | nil => simp
  | cons next texts ih => rw [String.intercalate_cons_cons, ih]; simp [String.append_assoc]

/-- The cells of a row, in front of its end. -/
theorem eq_of_cellsMarkup_eq {cells cells' : List LayoutCell} {s t : List Char}
    (hcells : ∀ cell ∈ cells, cell.IsPlain) (hcells' : ∀ cell ∈ cells', cell.IsPlain)
    (heq : ("\n\t\t".intercalate (cells.map cellMarkup)).toList ++ ("\n\t</tr>\n".toList ++ s) =
      ("\n\t\t".intercalate (cells'.map cellMarkup)).toList ++ ("\n\t</tr>\n".toList ++ t)) :
    cells = cells' ∧ s = t := by
  -- A first cell begins with a bracket, and the end of the row does not.
  have hfirst : ∀ (cell : LayoutCell) u v,
      (cellMarkup cell).toList ++ u ≠ "\n\t</tr>\n".toList ++ v := by
    intro cell u v hsame
    simp [cellMarkup] at hsame
  have hcons : ∀ (cell : LayoutCell) (cells : List LayoutCell) u,
      ("\n\t\t".intercalate ((cell :: cells).map cellMarkup)).toList ++ u =
        (cellMarkup cell).toList ++
          ((String.join (cells.map fun cell => "\n\t\t" ++ cellMarkup cell)).toList ++ u) := by
    intro cell cells u
    simp [intercalate_cons, Function.comp_def]
  cases cells with
  | nil =>
    cases cells' with
    | nil => exact ⟨rfl, by simpa using heq⟩
    | cons cell' cells' => exact absurd ((hcons cell' cells' _).symm.trans heq.symm) (hfirst cell' _ _)
  | cons cell cells =>
    cases cells' with
    | nil => exact absurd ((hcons cell cells _).symm.trans heq) (hfirst cell _ _)
    | cons cell' cells' =>
      rw [hcons, hcons] at heq
      rcases legible_cell (hcells cell List.mem_cons_self) (hcells' cell' List.mem_cons_self) heq with
        ⟨hcell, hrest⟩
      have hlegible : Legible LayoutCell.IsPlain id fun cell => "\n\t\t" ++ cellMarkup cell := by
        intro cell cell' hcell hcell' s t heq
        simp only [String.toList_append, List.append_assoc, List.append_cancel_left_eq] at heq
        exact legible_cell hcell hcell' heq
      rcases hlegible.list "\n\t\t" (fun cell => by simp)
        (by decide) (fun other hother => hcells other (List.mem_cons_of_mem cell hother))
        (fun other hother => hcells' other (List.mem_cons_of_mem cell' hother))
        (Begins.of_prefix (List.prefix_refl _) s) (Begins.of_prefix (List.prefix_refl _) t) hrest with
        ⟨hlist, hlast⟩
      have hsame : cells = cells' := by simpa using hlist
      exact ⟨by rw [show cell = cell' from hcell, hsame], List.append_cancel_left hlast⟩

/-- The only attribute of a tag, in front of what ends the tag. -/
theorem eq_of_classTag_eq {cssClass cssClass' rest : String} {s t : List Char}
    (hclass : IsPlain cssClass) (hclass' : IsPlain cssClass') (hend : ">".toList <+: rest.toList)
    (heq : (attr "class" (unlessEmpty cssClass)).toList ++ (rest.toList ++ s) =
      (attr "class" (unlessEmpty cssClass')).toList ++ (rest.toList ++ t)) :
    cssClass = cssClass' ∧ s = t := by
  rcases legible_attr (by decide) (quote_not_mem_unlessEmpty hclass)
    (quote_not_mem_unlessEmpty hclass') (Begins.of_prefix hend s) (Begins.of_prefix hend t) heq with
    ⟨hsame, hrest⟩
  exact ⟨unlessEmpty_inj hsame, List.append_cancel_left hrest⟩

theorem legible_row : Legible LayoutRow.IsPlain LayoutRow.unplaced rowMarkup := by
  intro row row' hrow hrow' s t heq
  simp only [rowMarkup, String.toList_append, List.append_assoc, List.append_cancel_left_eq] at heq
  rcases eq_of_classTag_eq hrow.cssClass hrow'.cssClass (by decide) heq with ⟨hclass, hrest⟩
  rcases eq_of_cellsMarkup_eq hrow.cells hrow'.cells hrest with ⟨hcells, hlast⟩
  exact ⟨by simp [LayoutRow.unplaced, hclass, hcells], hlast⟩

/-! ## Sections, caption and columns -/

theorem legible_section (element : String) (cssClass : Option String) :
    Legible (fun rows : List LayoutRow => ∀ row ∈ rows, row.IsPlain) (List.map LayoutRow.unplaced)
      (sectionMarkup element cssClass) := by
  intro rows rows' hrows hrows' s t heq
  simp only [sectionMarkup, String.toList_append, List.append_assoc, List.append_cancel_left_eq]
    at heq
  rcases legible_row.list "\t<tr" (fun row => by simp [rowMarkup])
    (by decide) hrows hrows' (Begins.of_prefix (List.prefix_refl _) _)
    (Begins.of_prefix (List.prefix_refl _) _) heq with ⟨hlist, hrest⟩
  exact ⟨hlist, by simpa using hrest⟩

theorem legible_oneRow (element : String) :
    Legible LayoutRow.IsPlain LayoutRow.unplaced fun row => sectionMarkup element none [row] := by
  intro row row' hrow hrow' s t heq
  rcases legible_section element none (by simpa using hrow) (by simpa using hrow') heq with
    ⟨hlist, hrest⟩
  exact ⟨by simpa using hlist, hrest⟩

theorem legible_caption : Legible Caption.IsPlain id captionMarkup := by
  intro caption caption' hcaption hcaption' s t heq
  simp only [captionMarkup, String.toList_append, List.append_assoc, List.append_cancel_left_eq]
    at heq
  rcases eq_of_classTag_eq hcaption.cssClass hcaption'.cssClass (by decide) heq with ⟨hclass, hrest⟩
  rcases eq_of_append_cons_eq hcaption.text.1 hcaption'.text.1 hrest with ⟨htext, hlast⟩
  have htail : s = t := by simpa using hlast
  refine ⟨?_, htail⟩
  rcases caption with ⟨text, cssClass⟩
  rcases caption' with ⟨text', cssClass'⟩
  simp only [id, Caption.mk.injEq]
  exact ⟨String.toList_inj.1 htext, hclass⟩

/-- The attributes of a column hold no bracket, so they and what is written around them end at the first
one. -/
theorem legible_column :
    Legible (fun attributes : String => '<' ∉ attributes.toList ∧ '>' ∉ attributes.toList) id
      columnMarkup := by
  intro attributes attributes' hattributes hattributes' s t heq
  have hwritten : ∀ (attributes : String) u, (columnMarkup attributes).toList ++ u =
      "\t<col ".toList ++ ((if attributes = "" then ['/'] else attributes.toList ++ [' ', '/']) ++
        '>' :: '\n' :: u) := by
    intro attributes u
    unfold columnMarkup
    split <;> simp
  have hbracket : ∀ attributes : String, '>' ∉ attributes.toList →
      '>' ∉ (if attributes = "" then ['/'] else attributes.toList ++ [' ', '/']) := by
    intro attributes hnone
    split <;> simp [hnone]
  rw [hwritten, hwritten, List.append_cancel_left_eq] at heq
  rcases eq_of_append_cons_eq (hbracket attributes hattributes.2) (hbracket attributes' hattributes'.2)
    heq with ⟨hsame, hrest⟩
  refine ⟨?_, (List.cons.inj hrest).2⟩
  by_cases hempty : attributes = "" <;> by_cases hempty' : attributes' = ""
  · exact hempty.trans hempty'.symm
  · rw [if_pos hempty, if_neg hempty'] at hsame
    have hlength := congrArg List.length hsame
    simp at hlength
  · rw [if_neg hempty, if_pos hempty'] at hsame
    have hlength := congrArg List.length hsame
    simp at hlength
  · rw [if_neg hempty, if_neg hempty'] at hsame
    exact String.toList_inj.1 (List.append_cancel_right hsame)

theorem legible_columnGroup :
    Legible (fun columns : List String => ∀ attributes ∈ columns,
      '<' ∉ attributes.toList ∧ '>' ∉ attributes.toList) id columnGroupMarkup := by
  intro columns columns' hcolumns hcolumns' s t heq
  simp only [columnGroupMarkup, String.toList_append, List.append_assoc,
    List.append_cancel_left_eq] at heq
  have hend := Begins.of_prefix (show "</".toList <+: "</colgroup>\n".toList by decide)
  rcases legible_column.list "\t<col" (fun attributes => by unfold columnMarkup; split <;> simp)
    (by decide) hcolumns hcolumns' (hend s) (hend t) heq with ⟨hlist, hrest⟩
  exact ⟨by simpa using hlist, List.append_cancel_left hrest⟩

/-! ## Tables -/

def bodyRows (rows : List LayoutRow) : Option (List LayoutRow) :=
  if rows.isEmpty then none else some rows

theorem bodyMarkup_eq_elim (cssClass : Option String) (rows : List LayoutRow) :
    (if rows.isEmpty then "" else sectionMarkup "tbody" cssClass rows) =
      (bodyRows rows).elim "" (sectionMarkup "tbody" cssClass) := by
  unfold bodyRows
  split <;> rfl

theorem isPlain_of_mem_bodyRows {rows : List LayoutRow} (h : ∀ row ∈ rows, row.IsPlain) :
    ∀ written ∈ bodyRows rows, ∀ row ∈ written, row.IsPlain := by
  intro written hwritten
  unfold bodyRows at hwritten
  split at hwritten
  · cases hwritten
  · cases hwritten
    exact h

/-- A body that is left out has no rows, and every other one is seen as it is. -/
theorem map_eq_of_bodyRows_eq {rows rows' : List LayoutRow} {seen : LayoutRow → LayoutRow}
    (h : (bodyRows rows).map (List.map seen) = (bodyRows rows').map (List.map seen)) :
    rows.map seen = rows'.map seen := by
  unfold bodyRows at h
  cases rows <;> cases rows' <;> simp_all

theorem legible_tableElement (id : String) (settings : RenderSettings) (hooks : RenderHooks) :
    Legible TableLayout.IsPlain TableLayout.unplaced
      (fun layout => tableElement id layout settings hooks) := by
  intro layout layout' hlayout hlayout' s t heq
  simp only [tableElement, bodyMarkup_eq_elim, String.toList_append, List.append_assoc,
    List.append_cancel_left_eq] at heq
  have hcaptionStart : ∀ caption, "<caption".toList <+: (captionMarkup caption).toList := by
    simp [captionMarkup]
  have hcolumnsStart : ∀ columns, "<colgroup".toList <+: (columnGroupMarkup columns).toList := by
    simp [columnGroupMarkup]
  have hheadStart : ∀ row, "<thead".toList <+: (sectionMarkup "thead" none [row]).toList := by
    simp [sectionMarkup]
  have hfootStart : ∀ row, "<tfoot".toList <+: (sectionMarkup "tfoot" none [row]).toList := by
    simp [sectionMarkup]
  have hbodyStart : ∀ cssClass rows,
      "<tbody".toList <+: (sectionMarkup "tbody" cssClass rows).toList := by
    simp [sectionMarkup]
  -- Behind each part comes a later one, or the end of the table.
  have hend := Begins.of_prefix (show "</table".toList <+: "</table>\n".toList by decide)
  have hlast := fun (layout : TableLayout) u =>
    (hend u).part (hbodyStart (if settings.rowHover then some "row-hover" else none))
      (bodyRows layout.body)
  have hlower := fun (layout : TableLayout) u => (hlast layout u).part hfootStart layout.footer
  have hrows := fun (layout : TableLayout) u => (hlower layout u).part hheadStart layout.header
  have hothers := fun (layout : TableLayout) u =>
    (hrows layout u).part hcolumnsStart layout.columnGroup
  rcases legible_caption.part hcaptionStart (by decide) hlayout.caption hlayout'.caption
    (hothers layout _) (hothers layout' _) heq with ⟨hcaption, hrest⟩
  rcases legible_columnGroup.part hcolumnsStart (by decide) hlayout.columnGroup hlayout'.columnGroup
    (hrows layout _) (hrows layout' _) hrest with ⟨hcolumns, hrest⟩
  rcases (legible_oneRow "thead").part hheadStart (by decide) hlayout.header hlayout'.header
    (hlower layout _) (hlower layout' _) hrest with ⟨hheader, hrest⟩
  rcases (legible_oneRow "tfoot").part hfootStart (by decide) hlayout.footer hlayout'.footer
    (hlast layout _) (hlast layout' _) hrest with ⟨hfooter, hrest⟩
  rcases (legible_section "tbody" _).part (hbodyStart _) (by decide)
    (isPlain_of_mem_bodyRows hlayout.body) (isPlain_of_mem_bodyRows hlayout'.body) (hend s) (hend t)
    hrest with ⟨hbody, hrest⟩
  refine ⟨?_, List.append_cancel_left hrest⟩
  simp only [TableLayout.unplaced, TableLayout.mk.injEq]
  exact ⟨hheader, hfooter, map_eq_of_bodyRows_eq hbody, by simpa using hcaption,
    by simpa using hcolumns⟩

/-- The numbers and the sections of rows are not written. -/
theorem tableMarkup_unplaced (table : Table) (layout : TableLayout) (settings : RenderSettings)
    (hooks : RenderHooks) :
    tableMarkup table layout.unplaced settings hooks = tableMarkup table layout settings hooks := by
  have hrow : ∀ row : LayoutRow, rowMarkup row.unplaced = rowMarkup row := fun _ => rfl
  have hsection : ∀ element cssClass (rows : List LayoutRow),
      sectionMarkup element cssClass (rows.map LayoutRow.unplaced) =
        sectionMarkup element cssClass rows := by
    intro element cssClass rows
    simp [sectionMarkup, Function.comp_def, hrow]
  have hone : ∀ element (part : Option LayoutRow),
      ((part.map LayoutRow.unplaced).elim "" fun row => sectionMarkup element none [row]) =
        part.elim "" fun row => sectionMarkup element none [row] := by
    intro element part
    cases part with
    | none => rfl
    | some row => exact hsection element none [row]
  simp only [tableMarkup, tableElement, TableLayout.unplaced, hone, hsection, List.isEmpty_map]

/-- The markup determines the layout. Two plain layouts of a table have the same markup exactly if they have
the same header, footer, body, caption and columns, but for the numbers and the sections of their rows. -/
theorem tableMarkup_eq_iff (table : Table) (settings : RenderSettings) (hooks : RenderHooks)
    {layout layout' : TableLayout} (hlayout : layout.IsPlain) (hlayout' : layout'.IsPlain) :
    tableMarkup table layout settings hooks = tableMarkup table layout' settings hooks ↔
      layout.unplaced = layout'.unplaced := by
  constructor
  · intro hsame
    have heq := congrArg String.toList hsame
    simp only [tableMarkup, String.toList_append, List.append_assoc, List.append_cancel_left_eq]
      at heq
    exact (legible_tableElement table.id settings hooks hlayout hlayout' heq).1
  · intro hsame
    rw [← tableMarkup_unplaced, hsame, tableMarkup_unplaced]

/-- A table with a caption, a column without attributes, an empty style and a row without cells, whose rows
are numbered in two ways. -/
theorem tableMarkup_eq_iff_of_otherNumbers :
    let head : LayoutCell := { content := "a", tag := .header, colspan := 2, style := some "" }
    let layout (index : Nat) : TableLayout :=
      { header := some { index := index, part := .header, cssClass := "row-1", cells := [head, {}] }
        body := [{ index := index + 1, part := .body }]
        caption := some { text := "b", cssClass := "" }
        columnGroup := some ["", "span=\"2\""] }
    let markup (index : Nat) : String :=
      tableMarkup { id := "1" } (layout index) RenderSettings.default {}
    (layout 1).IsPlain ∧ (layout 7).IsPlain ∧ layout 1 ≠ layout 7 ∧ markup 1 = markup 7 ∧
      (layout 1).unplaced = (layout 7).unplaced := by
  intro head layout markup
  have hplain : (layout 1).IsPlain := by decide +kernel
  have hplain' : (layout 7).IsPlain := by decide +kernel
  have hmarkup : markup 1 = markup 7 := by decide +kernel
  exact ⟨hplain, hplain', by decide, hmarkup,
    (tableMarkup_eq_iff { id := "1" } RenderSettings.default {} hplain hplain').1 hmarkup⟩

end Markup
end SheetMarkup
