import SheetMarkup.Markup.SafeText
import SheetMarkup.Proofs.Text.Characters

/-!
# Entities — what an ampersand begins

An ampersand is left as it is if the text behind it makes it a character reference, and is written as one
itself otherwise. No ampersand stands inside a reference, so writing one out makes and breaks no other, and
in the end each ampersand begins a reference. Two characters count as letters of a name that are none in
markup, the long s and the Kelvin sign, because S and K match them when case is ignored.

* `EntityBody`: the texts that make an ampersand a reference; `startsEntity_iff`: they are recognised
* `onlyReferences_encodeAmpersands`: every ampersand of an encoded text begins a reference
* `ampersand_begins_reference`: it is one of markup, unless one of the two characters is in it
* `not_reference_of_kelvin`: a name that is none in markup
-/

namespace SheetMarkup.Markup

/-- The rest of a character reference behind its ampersand: a decimal number, a hexadecimal number, or a name
of letters and digits. -/
inductive EntityBody (letter : Char → Bool) : List Char → Prop where
  | decimal {digits : List Char} :
      digits ≠ [] → (∀ c ∈ digits, c.isDigit = true) → EntityBody letter ('#' :: digits ++ [';'])
  | hexadecimal {mark : Char} {digits : List Char} :
      mark = 'x' ∨ mark = 'X' → digits ≠ [] → (∀ c ∈ digits, isHexDigit c = true) →
      EntityBody letter ('#' :: mark :: digits ++ [';'])
  | name {first : Char} {others : List Char} :
      letter first = true → (∀ c ∈ others, letter c = true ∨ c.isDigit = true) →
      EntityBody letter (first :: others ++ [';'])

def isBodyChar (c : Char) : Bool :=
  c == '#' || c == ';' || isNameLetter c || c.isDigit

/-! ## Recognition -/

variable {cs body rest : List Char}

theorem isBodyChar_of_isHexDigit {c : Char} (h : isHexDigit c = true) : isBodyChar c = true := by
  simp only [isHexDigit, Bool.or_eq_true, Bool.and_eq_true, decide_eq_true_eq, Char.le_def,
    UInt32.le_iff_toNat_le, Char.toNat_val, Char.reduceToNat] at h
  simp only [isBodyChar, isNameLetter, Bool.or_eq_true, isAlpha_iff_toNat]
  rcases h with (hdigit | hsmall) | hcapital
  · exact Or.inr hdigit
  · exact Or.inl (Or.inr (Or.inl (Or.inl (by omega))))
  · exact Or.inl (Or.inr (Or.inl (Or.inl (by omega))))

theorem EntityBody.isBodyChar (h : EntityBody isNameLetter body) :
    ∀ c ∈ body, isBodyChar c = true := by
  have hends : Markup.isBodyChar '#' = true ∧ Markup.isBodyChar ';' = true := by decide
  have hletter : ∀ c, isNameLetter c = true ∨ c.isDigit = true → Markup.isBodyChar c = true := by
    intro c hc
    rcases hc with hc | hc <;> simp [Markup.isBodyChar, hc]
  intro c hc
  cases h with
  | decimal _ hdigits =>
    simp only [List.cons_append, List.mem_cons, List.mem_append, List.not_mem_nil, or_false] at hc
    rcases hc with rfl | hc | rfl
    · exact hends.1
    · exact hletter c (Or.inr (hdigits c hc))
    · exact hends.2
  | hexadecimal hmark _ hdigits =>
    simp only [List.cons_append, List.mem_cons, List.mem_append, List.not_mem_nil, or_false] at hc
    rcases hc with rfl | rfl | hc | rfl
    · exact hends.1
    · rcases hmark with rfl | rfl <;> decide
    · exact isBodyChar_of_isHexDigit (hdigits c hc)
    · exact hends.2
  | name hfirst hothers =>
    simp only [List.cons_append, List.mem_cons, List.mem_append, List.not_mem_nil, or_false] at hc
    rcases hc with rfl | hc | rfl
    · exact hletter c (Or.inl hfirst)
    · exact hletter c (hothers c hc)
    · exact hends.2

theorem EntityBody.not_mem (h : EntityBody isNameLetter body) {c : Char}
    (hc : Markup.isBodyChar c = false) : c ∉ body := by
  intro hmem
  rw [h.isBodyChar c hmem] at hc
  cases hc

theorem runThenSemicolon_iff {kind : Char → Bool} (hkind : kind ';' = false) :
    runThenSemicolon kind cs = true ↔
      ∃ run rest, run ≠ [] ∧ (∀ c ∈ run, kind c = true) ∧ cs = run ++ ';' :: rest := by
  constructor
  · intro h
    simp only [runThenSemicolon, Bool.and_eq_true, Bool.not_eq_true', beq_iff_eq] at h
    rcases List.head?_eq_some_iff.1 h.2 with ⟨rest, hrest⟩
    refine ⟨cs.takeWhile kind, rest, by simpa using h.1, ?_, ?_⟩
    · exact fun c hc => List.all_eq_true.1 List.all_takeWhile c hc
    · rw [← hrest, List.takeWhile_append_dropWhile]
  · rintro ⟨run, rest, hne, hrun, rfl⟩
    have hends : ∀ c ∈ (';' :: rest).head?, kind c = false := by simpa using hkind
    have hcut := takeWhile_append_of_forall hrun hends
    simp [runThenSemicolon, hcut.1, hcut.2, hne]

theorem startsEntity_of_ne {c : Char} (hc : c ≠ '#') :
    startsEntity (c :: cs) =
      (isNameLetter c && runThenSemicolon (fun c => isNameLetter c || c.isDigit) (c :: cs)) := by
  unfold startsEntity
  split
  · rename_i heq
    exact absurd (List.cons.inj heq).1 hc
  · rename_i heq
    cases heq
    rfl
  · rename_i heq
    cases heq

theorem startsEntity_hash :
    startsEntity ('#' :: cs) = true ↔
      runThenSemicolon Char.isDigit cs = true ∨
        ∃ mark digits, (mark = 'x' ∨ mark = 'X') ∧ cs = mark :: digits ∧
          runThenSemicolon isHexDigit digits = true := by
  cases cs with
  | nil => simp [startsEntity, runThenSemicolon, isNameLetter]
  | cons c cs =>
    simp only [startsEntity, Bool.or_eq_true, Bool.and_eq_true, beq_iff_eq, List.cons.injEq]
    refine or_congr_right ⟨?_, ?_⟩
    · exact fun ⟨hmark, hrun⟩ => ⟨c, cs, hmark, ⟨rfl, rfl⟩, hrun⟩
    · rintro ⟨mark, digits, hmark, ⟨rfl, rfl⟩, hrun⟩
      exact ⟨hmark, hrun⟩

theorem exists_body_of_startsEntity (h : startsEntity cs = true) :
    ∃ body rest, EntityBody isNameLetter body ∧ cs = body ++ rest := by
  cases cs with
  | nil => cases h
  | cons c cs =>
    -- A number sign begins a number, in one of two bases, and anything else a name.
    by_cases hc : c = '#'
    · subst hc
      rcases startsEntity_hash.1 h with hrun | ⟨mark, digits, hmark, rfl, hrun⟩
      · rcases (runThenSemicolon_iff (by decide)).1 hrun with ⟨run, rest, hne, hdigits, rfl⟩
        exact ⟨_, rest, .decimal hne hdigits, by simp⟩
      · rcases (runThenSemicolon_iff (by decide)).1 hrun with ⟨run, rest, hne, hdigits, rfl⟩
        exact ⟨_, rest, .hexadecimal hmark hne hdigits, by simp⟩
    · rw [startsEntity_of_ne hc, Bool.and_eq_true] at h
      rcases (runThenSemicolon_iff (by decide)).1 h.2 with ⟨run, rest, hne, hrun, heq⟩
      cases run with
      | nil => exact absurd rfl hne
      | cons first others =>
        rcases List.cons.inj heq with ⟨rfl, rfl⟩
        have hothers := fun d hd => Bool.or_eq_true_iff.1 (hrun d (List.mem_cons_of_mem c hd))
        exact ⟨_, rest, .name h.1 hothers, by simp⟩

theorem EntityBody.recognised (h : EntityBody isNameLetter body) : startsEntity (body ++ rest) = true := by
  cases h with
  | @decimal digits hne hdigits =>
    have hrun : runThenSemicolon Char.isDigit (digits ++ ';' :: rest) = true :=
      (runThenSemicolon_iff (by decide)).2 ⟨digits, rest, hne, hdigits, rfl⟩
    simpa using startsEntity_hash.2 (Or.inl hrun)
  | @hexadecimal mark digits hmark hne hdigits =>
    have hrun : runThenSemicolon isHexDigit (digits ++ ';' :: rest) = true :=
      (runThenSemicolon_iff (by decide)).2 ⟨digits, rest, hne, hdigits, rfl⟩
    exact startsEntity_hash.2 (Or.inr ⟨mark, _, hmark, by simp, hrun⟩)
  | @name first others hfirst hothers =>
    have hne : first ≠ '#' := by
      rintro rfl
      exact absurd hfirst (by decide)
    have hletters : ∀ d ∈ first :: others, (isNameLetter d || d.isDigit) = true :=
      List.forall_mem_cons.2
        ⟨Bool.or_eq_true_iff.2 (Or.inl hfirst), fun d hd => Bool.or_eq_true_iff.2 (hothers d hd)⟩
    have hrun : runThenSemicolon (fun d => isNameLetter d || d.isDigit) (first :: others ++ ';' :: rest) =
        true :=
      (runThenSemicolon_iff (by decide)).2 ⟨first :: others, rest, by simp, hletters, rfl⟩
    simpa [startsEntity_of_ne hne, hfirst] using hrun

/-- A reference is recognised exactly where the rest of one stands. -/
theorem startsEntity_iff :
    startsEntity cs = true ↔ ∃ body rest, EntityBody isNameLetter body ∧ cs = body ++ rest := by
  constructor
  · exact exists_body_of_startsEntity
  · rintro ⟨body, rest, hbody, rfl⟩
    exact hbody.recognised

/-! ## Texts whose ampersands are references -/

def OnlyReferences (cs : List Char) : Prop :=
  ∀ after, '&' :: after <:+ cs → startsEntity after = true

theorem onlyReferences_nil : OnlyReferences [] := by
  intro after h
  exact absurd (List.suffix_nil.1 h) (List.cons_ne_nil _ _)

theorem onlyReferences_cons {c : Char} :
    OnlyReferences (c :: cs) ↔ (c = '&' → startsEntity cs = true) ∧ OnlyReferences cs := by
  constructor
  · intro h
    refine ⟨?_, fun after hafter => h after (hafter.trans (List.suffix_cons c cs))⟩
    rintro rfl
    exact h cs (List.suffix_refl _)
  · rintro ⟨hhead, htail⟩ after hafter
    rcases List.suffix_cons_iff.1 hafter with heq | hafter
    · rcases List.cons.inj heq with ⟨rfl, rfl⟩
      exact hhead rfl
    · exact htail after hafter

theorem onlyReferences_append_of_not_mem {word : List Char} (hword : '&' ∉ word) :
    OnlyReferences (word ++ cs) ↔ OnlyReferences cs := by
  induction word with
  | nil => rfl
  | cons c word ih =>
    simp only [List.mem_cons, not_or] at hword
    rw [List.cons_append, onlyReferences_cons, ih hword.2]
    exact and_iff_right fun hc => absurd hc.symm hword.1

/-! ## Encoding -/

theorem encodeAmpersands_append_of_not_mem {word : List Char} (hword : '&' ∉ word) :
    encodeAmpersands (word ++ cs) = word ++ encodeAmpersands cs := by
  induction word with
  | nil => rfl
  | cons c word ih =>
    simp only [List.mem_cons, not_or] at hword
    have hc : ¬ (c = '&' ∧ startsEntity (word ++ cs) = false) := fun h => hword.1 h.1.symm
    simp [encodeAmpersands, ih hword.2, hc]

/-- A reference is still one when the text behind it is encoded. -/
theorem startsEntity_encodeAmpersands (h : startsEntity cs = true) :
    startsEntity (encodeAmpersands cs) = true := by
  rcases startsEntity_iff.1 h with ⟨body, rest, hbody, rfl⟩
  rw [encodeAmpersands_append_of_not_mem (hbody.not_mem (by decide))]
  exact hbody.recognised

theorem startsEntity_amp : startsEntity ("amp;".toList ++ cs) = true := by
  have hothers : ∀ c ∈ ['m', 'p'], isNameLetter c = true ∨ c.isDigit = true := by simp [isNameLetter]
  have hbody : EntityBody isNameLetter ('a' :: ['m', 'p'] ++ [';']) := .name (by decide) hothers
  exact hbody.recognised

theorem onlyReferences_encodeAmpersands (cs : List Char) : OnlyReferences (encodeAmpersands cs) := by
  induction cs with
  | nil => exact onlyReferences_nil
  | cons c cs ih =>
    rw [encodeAmpersands]
    split
    · -- What is put behind the ampersand completes a reference and brings in no other ampersand.
      have hrest : OnlyReferences ("amp;".toList ++ encodeAmpersands cs) :=
        (onlyReferences_append_of_not_mem (by decide)).2 ih
      exact onlyReferences_cons.2 ⟨fun _ => startsEntity_amp, hrest⟩
    · rename_i hkept
      refine onlyReferences_cons.2 ⟨fun hc => startsEntity_encodeAmpersands ?_, ih⟩
      simpa [hc] using hkept

/-! ## References of markup -/

/-- The two characters apart, the letters of a name are those of markup. -/
theorem EntityBody.isAlpha (h : EntityBody isNameLetter body) (hlong : '\u017F' ∉ body)
    (hkelvin : '\u212A' ∉ body) : EntityBody Char.isAlpha body := by
  have hletter : ∀ c ∈ body, isNameLetter c = true → c.isAlpha = true := by
    intro c hc hname
    simp only [isNameLetter, Bool.or_eq_true, beq_iff_eq] at hname
    rcases hname with (hname | rfl) | rfl
    · exact hname
    · exact absurd hc hlong
    · exact absurd hc hkelvin
  cases h with
  | decimal hne hdigits => exact .decimal hne hdigits
  | hexadecimal hmark hne hdigits => exact .hexadecimal hmark hne hdigits
  | name hfirst hothers =>
    refine .name (hletter _ (by simp) hfirst) fun c hc => ?_
    exact (hothers c hc).imp_left (hletter c (by simp [hc]))

/-- Every ampersand of an encoded text begins a reference, and it is a reference of markup unless the long s
or the Kelvin sign stands in it. -/
theorem ampersand_begins_reference (text : String) {before after : List Char}
    (h : encodeAmpersands text.toList = before ++ '&' :: after) :
    ∃ body rest, EntityBody isNameLetter body ∧ after = body ++ rest ∧
      ('\u017F' ∉ body → '\u212A' ∉ body → EntityBody Char.isAlpha body) := by
  have hstarts := onlyReferences_encodeAmpersands text.toList after ⟨before, h.symm⟩
  rcases startsEntity_iff.1 hstarts with ⟨body, rest, hbody, hafter⟩
  exact ⟨body, rest, hbody, hafter, hbody.isAlpha⟩

theorem ampersand_begins_reference_of_number :
    encodeAmpersands "R&D &#169;".toList = "R&amp;D ".toList ++ '&' :: "#169;".toList ∧
      ∃ body rest, EntityBody isNameLetter body ∧ "#169;".toList = body ++ rest ∧
        ('\u017F' ∉ body → '\u212A' ∉ body → EntityBody Char.isAlpha body) := by
  have hencoded : encodeAmpersands "R&D &#169;".toList = "R&amp;D ".toList ++ '&' :: "#169;".toList := by
    decide
  exact ⟨hencoded, ampersand_begins_reference "R&D &#169;" hencoded⟩

/-- A name of the Kelvin sign alone is left as it is, and is no reference of markup. -/
theorem not_reference_of_kelvin :
    encodeAmpersands "&\u212A;".toList = '&' :: "\u212A;".toList ∧
      ¬ ∃ body rest, EntityBody Char.isAlpha body ∧ "\u212A;".toList = body ++ rest := by
  refine ⟨by decide, ?_⟩
  rintro ⟨body, rest, hbody, heq⟩
  cases hbody with
  | decimal _ _ => exact absurd (List.cons.inj heq).1 (by decide)
  | hexadecimal _ _ _ => exact absurd (List.cons.inj heq).1 (by decide)
  | name hfirst _ =>
    rw [← (List.cons.inj heq).1] at hfirst
    exact absurd hfirst (by decide)

end SheetMarkup.Markup
