import SheetMarkup.Proofs.Markup.Entities

/-!
# Safe text — what is written and what is left alone

Writing a text into markup only inserts: the rest of a reference behind an ampersand, and a break element before
a line break. A break element holds no ampersand and cannot stand inside a reference, and what is put behind an
ampersand holds no line break, so either step finds the same places whether the other came before it or not.
Encoding has nothing to do on its own output, whose ampersands all begin references.

* `encodeAmpersands_of_onlyReferences`: a text of references is left alone
* `startsEntity_markLineBreaks`: break elements make and break no reference
* `Expands`: the insertions, which the two steps make in either order
* `safeText_only_inserts`: what is written of a text
-/

namespace SheetMarkup.Markup

variable {c : Char} {cs ds word rest : List Char}

/-! ## Ampersands -/

theorem encodeAmpersands_of_onlyReferences (h : OnlyReferences cs) : encodeAmpersands cs = cs := by
  induction cs with
  | nil => rfl
  | cons c cs ih =>
    rcases onlyReferences_cons.1 h with ⟨hhead, htail⟩
    have hkept : ¬ (c = '&' ∧ startsEntity cs = false) := by
      rintro ⟨hc, hnone⟩
      rw [hhead hc] at hnone
      cases hnone
    simp [encodeAmpersands, ih htail, hkept]

/-- What is inserted comes behind an ampersand, so a text still begins with the same character. -/
theorem head?_encodeAmpersands : (encodeAmpersands cs).head? = cs.head? := by
  cases cs with
  | nil => rfl
  | cons c cs =>
    rw [encodeAmpersands]
    split
    · rename_i hbare
      simp only [Bool.and_eq_true, decide_eq_true_eq] at hbare
      rw [hbare.1]
      rfl
    · rfl

/-! ## Line breaks -/

theorem markLineBreaks_return (hlone : ∀ tail, cs ≠ '\n' :: tail) :
    markLineBreaks ('\r' :: cs) = breakElement ++ '\r' :: markLineBreaks cs :=
  markLineBreaks.eq_2 cs hlone

theorem markLineBreaks_cons_of_ne (hreturn : c ≠ '\r') (hfeed : c ≠ '\n') :
    markLineBreaks (c :: cs) = c :: markLineBreaks cs :=
  markLineBreaks.eq_4 c cs (fun _ hc _ => hreturn hc) hreturn hfeed

theorem markLineBreaks_append_of_not_mem (hreturn : '\r' ∉ word) (hfeed : '\n' ∉ word) :
    markLineBreaks (word ++ cs) = word ++ markLineBreaks cs := by
  induction word with
  | nil => rfl
  | cons c word ih =>
    simp only [List.mem_cons, not_or] at hreturn hfeed
    rw [List.cons_append, markLineBreaks_cons_of_ne (Ne.symm hreturn.1) (Ne.symm hfeed.1),
      ih hreturn.2 hfeed.2, List.cons_append]

theorem eq_nil_of_prefix_breakElement (hword : '<' ∉ word) (h : word <+: breakElement ++ cs) : word = [] := by
  cases word with
  | nil => rfl
  | cons c word =>
    have hc : c = '<' := (List.cons_prefix_cons.1 h).1
    exact absurd List.mem_cons_self (hc ▸ hword)

/-- What can be no part of a break element stood there before the break elements came. -/
theorem prefix_of_prefix_markLineBreaks (hword : '<' ∉ word) (h : word <+: markLineBreaks cs) :
    word <+: cs := by
  fun_induction markLineBreaks cs generalizing word with
  | case1 cs _ | case2 cs _ _ | case3 cs _ =>
    rw [eq_nil_of_prefix_breakElement hword h]
    exact List.nil_prefix
  | case4 c cs _ _ _ ih =>
    cases word with
    | nil => exact List.nil_prefix
    | cons d word =>
      rcases List.cons_prefix_cons.1 h with ⟨rfl, htail⟩
      exact List.cons_prefix_cons.2 ⟨rfl, ih (fun hmem => hword (List.mem_cons_of_mem d hmem)) htail⟩
  | case5 => exact h

/-- Break elements make no reference and break none. -/
theorem startsEntity_markLineBreaks : startsEntity (markLineBreaks cs) = startsEntity cs := by
  rw [Bool.eq_iff_iff, startsEntity_iff, startsEntity_iff]
  constructor
  · rintro ⟨body, rest, hbody, hmarked⟩
    have hprefix : body <+: cs :=
      prefix_of_prefix_markLineBreaks (hbody.not_mem (by decide)) ⟨rest, hmarked.symm⟩
    rcases hprefix with ⟨tail, htail⟩
    exact ⟨body, tail, hbody, htail.symm⟩
  · rintro ⟨body, rest, hbody, rfl⟩
    exact ⟨body, markLineBreaks rest, hbody,
      markLineBreaks_append_of_not_mem (hbody.not_mem (by decide)) (hbody.not_mem (by decide))⟩

/-! ## Encoding step by step -/

theorem encodeAmpersands_cons_of_ne (hc : c ≠ '&') :
    encodeAmpersands (c :: cs) = c :: encodeAmpersands cs := by
  simp [encodeAmpersands, hc]

theorem encodeAmpersands_breakElement :
    encodeAmpersands (breakElement ++ cs) = breakElement ++ encodeAmpersands cs :=
  encodeAmpersands_append_of_not_mem (by decide)

theorem encodeAmpersands_bare (hbare : startsEntity cs = false) :
    encodeAmpersands ('&' :: cs) = "&amp;".toList ++ encodeAmpersands cs := by
  simp [encodeAmpersands, hbare]

theorem encodeAmpersands_reference (hstarts : startsEntity cs = true) :
    encodeAmpersands ('&' :: cs) = '&' :: encodeAmpersands cs := by
  simp [encodeAmpersands, hstarts]

/-! ## Insertions -/

/-- A text with insertions: `amp;` behind each ampersand that begins no reference, and a break element before
each line break, which a return and a line feed behind it make together. -/
inductive Expands : List Char → List Char → Prop where
  | nil : Expands [] []
  | other {c : Char} {cs ds : List Char} :
      c ≠ '&' → c ≠ '\r' → c ≠ '\n' → Expands cs ds → Expands (c :: cs) (c :: ds)
  | reference {cs ds : List Char} :
      startsEntity cs = true → Expands cs ds → Expands ('&' :: cs) ('&' :: ds)
  | bare {cs ds : List Char} :
      startsEntity cs = false → Expands cs ds → Expands ('&' :: cs) ('&' :: ("amp;".toList ++ ds))
  | pair {cs ds : List Char} :
      Expands cs ds → Expands ('\r' :: '\n' :: cs) (breakElement ++ '\r' :: '\n' :: ds)
  | loneReturn {cs ds : List Char} :
      (∀ tail, cs ≠ '\n' :: tail) → Expands cs ds → Expands ('\r' :: cs) (breakElement ++ '\r' :: ds)
  | lineFeed {cs ds : List Char} :
      Expands cs ds → Expands ('\n' :: cs) (breakElement ++ '\n' :: ds)

theorem expands_encodeAmpersands_markLineBreaks (cs : List Char) :
    Expands cs (encodeAmpersands (markLineBreaks cs)) := by
  fun_induction markLineBreaks cs with
  | case1 cs ih =>
    rw [encodeAmpersands_breakElement, encodeAmpersands_cons_of_ne (by decide),
      encodeAmpersands_cons_of_ne (by decide)]
    exact .pair ih
  | case2 cs hlone ih =>
    rw [encodeAmpersands_breakElement, encodeAmpersands_cons_of_ne (by decide)]
    exact .loneReturn hlone ih
  | case3 cs ih =>
    rw [encodeAmpersands_breakElement, encodeAmpersands_cons_of_ne (by decide)]
    exact .lineFeed ih
  | case4 c cs _ hreturn hfeed ih =>
    -- Whether an ampersand begins a reference is the same before the break elements came and after.
    by_cases hc : c = '&'
    · subst hc
      cases hstarts : startsEntity cs with
      | true =>
        rw [encodeAmpersands_reference (startsEntity_markLineBreaks.trans hstarts)]
        exact .reference hstarts ih
      | false =>
        rw [encodeAmpersands_bare (startsEntity_markLineBreaks.trans hstarts)]
        exact .bare hstarts ih
    · rw [encodeAmpersands_cons_of_ne hc]
      exact .other hc hreturn hfeed ih
  | case5 => exact .nil

/-- The insertions that encoding and then marking line breaks make are these. -/
theorem Expands.eq_markLineBreaks (h : Expands cs ds) : ds = markLineBreaks (encodeAmpersands cs) := by
  induction h with
  | nil => rfl
  | other hc hreturn hfeed _ ih =>
    rw [encodeAmpersands_cons_of_ne hc, markLineBreaks_cons_of_ne hreturn hfeed, ih]
  | reference hstarts _ ih =>
    rw [encodeAmpersands_reference hstarts, markLineBreaks_cons_of_ne (by decide) (by decide), ih]
  | bare hbare _ ih =>
    rw [encodeAmpersands_bare hbare, markLineBreaks_append_of_not_mem (by decide) (by decide), ih]
    rfl
  | pair _ ih =>
    rw [encodeAmpersands_cons_of_ne (by decide), encodeAmpersands_cons_of_ne (by decide), markLineBreaks, ih]
  | @loneReturn cs _ hlone _ ih =>
    -- Encoding puts no line feed behind the return.
    have hlone' : ∀ tail, encodeAmpersands cs ≠ '\n' :: tail := by
      intro tail heq
      have hhead : cs.head? = some '\n' := by rw [← head?_encodeAmpersands, heq, List.head?_cons]
      rcases List.head?_eq_some_iff.1 hhead with ⟨tail', htail⟩
      exact hlone tail' htail
    rw [encodeAmpersands_cons_of_ne (by decide), markLineBreaks_return hlone', ih]
  | lineFeed _ ih =>
    rw [encodeAmpersands_cons_of_ne (by decide), markLineBreaks, ih]

/-- The two steps may be taken in either order. -/
theorem encodeAmpersands_markLineBreaks (cs : List Char) :
    encodeAmpersands (markLineBreaks cs) = markLineBreaks (encodeAmpersands cs) :=
  (expands_encodeAmpersands_markLineBreaks cs).eq_markLineBreaks

/-- Encoding its own output changes nothing, the two steps may be taken in either order, and what is written of
a text is that text with insertions. -/
theorem safeText_only_inserts (text : String) :
    encodeAmpersands (encodeAmpersands text.toList) = encodeAmpersands text.toList ∧
      encodeAmpersands (markLineBreaks text.toList) = markLineBreaks (encodeAmpersands text.toList) ∧
      Expands text.toList (safeText text true).toList := by
  have hwritten : (safeText text true).toList = markLineBreaks (encodeAmpersands text.toList) := by
    simp [safeText]
  refine ⟨encodeAmpersands_of_onlyReferences (onlyReferences_encodeAmpersands text.toList),
    encodeAmpersands_markLineBreaks text.toList, ?_⟩
  rw [hwritten, ← encodeAmpersands_markLineBreaks]
  exact expands_encodeAmpersands_markLineBreaks text.toList

end SheetMarkup.Markup
