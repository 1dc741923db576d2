import SheetMarkup.Formula.Range
import SheetMarkup.Proofs.Text.Characters

/-!
# Reference tokens — what a token is, and which cell it names

A reference is found where its token stands: a bracket, letters, digits and a bracket. Two tokens that
are equal in upper case have the same digits, and name the same cell unless the long s is among their
letters: it is an S in upper case, but does not count for the column. So a chain of tokens in upper case
stands for a chain of cells.

* `Corner.IsToken`: the corners that tokens are made of
* `referenceAt?_eq_some`: what is found at the start of a text
* `Corner.position?_eq_of_canonical_eq`: tokens that are equal in upper case
-/

namespace SheetMarkup

/-! ## Upper case -/

/-- The character beyond the basic letters whose upper case is one of them, an S. -/
def longS : Char := '\u017F'

theorem ne_longS_of_isAlpha {c : Char} (h : c.isAlpha = true) : c ≠ longS := by
  rintro rfl
  exact absurd h (by decide)

theorem upperChar_of_ne_longS {c : Char} (h : c ≠ longS) : upperChar c = c.toUpper :=
  if_neg h

theorem upperChar_of_isDigit {c : Char} (h : c.isDigit = true) : upperChar c = c := by
  have hne : c ≠ longS := by
    rintro rfl
    exact absurd h (by decide)
  rw [upperChar_of_ne_longS hne, toUpper_of_isDigit h]

theorem not_isColumnLetter_of_isDigit {c : Char} (h : c.isDigit = true) :
    isColumnLetter c = false := by
  have hlong : c ≠ '\u017F' := by
    rintro rfl
    exact absurd h (by decide)
  have hkelvin : c ≠ '\u212A' := by
    rintro rfl
    exact absurd h (by decide)
  simp [isColumnLetter, not_isAlpha_of_isDigit h, hlong, hkelvin]

theorem isColumnLetter_upperChar {c : Char} (h : isColumnLetter c = true) :
    isColumnLetter (upperChar c) = true := by
  by_cases hlong : c = longS
  · rw [hlong]
    decide
  · by_cases hkelvin : c = '\u212A'
    · rw [hkelvin]
      decide
    · have halpha : c.isAlpha = true := by
        simpa [isColumnLetter, show c ≠ '\u017F' from hlong, hkelvin] using h
      simp [isColumnLetter, upperChar_of_ne_longS hlong, halpha]

/-- The number of a column does not depend on the case of its letters. -/
theorem columnNumber_map_toUpper (letters : List Char) :
    columnNumber (letters.map Char.toUpper) = columnNumber letters := by
  have hfilter : (letters.map Char.toUpper).filter Char.isAlpha =
      (letters.filter Char.isAlpha).map Char.toUpper := by
    rw [List.filter_map]
    simp [Function.comp_def]
  unfold columnNumber
  rw [hfilter, List.foldl_map]
  -- Each letter has the value of its upper case.
  simp only [letterValue, toUpper_toUpper]

/-! ## Tokens -/

namespace Corner

/-- A corner that a token can be made of: there are letters, and there are digits. -/
structure IsToken (corner : Corner) : Prop where
  letters_ne : corner.letters ≠ []
  letters : ∀ c ∈ corner.letters, isColumnLetter c = true
  digits_ne : corner.digits ≠ []
  digits : ∀ c ∈ corner.digits, c.isDigit = true

def IsBasic (corner : Corner) : Prop :=
  ∀ c ∈ corner.letters, c.isAlpha = true

instance (corner : Corner) : Decidable corner.IsBasic :=
  decidable_of_iff (corner.letters.all Char.isAlpha = true) List.all_eq_true

/-- A corner is read where its letters and digits stand. -/
theorem read?_eq_some {cs rest : List Char} {corner : Corner}
    (h : Corner.read? cs = some (corner, rest)) :
    corner.IsToken ∧ cs = corner.letters ++ corner.digits ++ rest := by
  unfold Corner.read? at h
  simp only [Option.ite_none_left_eq_some, Option.some.injEq, Prod.mk.injEq, Bool.or_eq_true,
    List.isEmpty_iff, not_or] at h
  obtain ⟨⟨hletters, hdigits⟩, rfl, rfl⟩ := h
  refine ⟨⟨hletters, ?_, hdigits, ?_⟩, ?_⟩
  · intro c hc
    exact List.all_eq_true.1 List.all_takeWhile c hc
  · intro c hc
    exact List.all_eq_true.1 List.all_takeWhile c hc
  · simp [List.takeWhile_append_dropWhile]

end Corner

/-- A reference is found where its token stands. -/
theorem referenceAt?_eq_some {cs : List Char} {reference : Corner}
    (h : referenceAt? cs = some reference) :
    reference.IsToken ∧ ∃ rest, cs = reference.token ++ rest := by
  unfold referenceAt? at h
  split at h
  · rename_i tail
    split at h
    · rename_i corner rest hread
      cases h
      rcases Corner.read?_eq_some hread with ⟨htoken, rfl⟩
      exact ⟨htoken, rest, by simp [Corner.token]⟩
    · exact absurd h (by simp)
  · exact absurd h (by simp)

theorem mem_occurrences {α : Type} {find? : List Char → Option α} {found : α} {cs : List Char} :
    found ∈ occurrences find? cs ↔ ∃ c rest, (c :: rest) <:+ cs ∧ find? (c :: rest) = some found := by
  induction cs with
  | nil => simp [occurrences]
  | cons d ds ih =>
    simp only [occurrences, List.mem_append, Option.mem_toList, ih, List.suffix_cons_iff]
    constructor
    · rintro (hhead | ⟨c, rest, hsuffix, hfound⟩)
      · exact ⟨d, ds, Or.inl rfl, hhead⟩
      · exact ⟨c, rest, Or.inr hsuffix, hfound⟩
    · rintro ⟨c, rest, heq | hsuffix, hfound⟩
      · cases heq
        exact Or.inl hfound
      · exact Or.inr ⟨c, rest, hsuffix, hfound⟩

theorem mem_references_iff {cs : List Char} {reference : Corner} :
    reference ∈ references cs ↔ reference ∈ occurrences referenceAt? cs := by
  simp [references, List.mem_eraseDups]

theorem isToken_of_mem_references {cs : List Char} {reference : Corner}
    (h : reference ∈ references cs) : reference.IsToken := by
  rcases mem_occurrences.1 (mem_references_iff.1 h) with ⟨_, _, _, hfound⟩
  exact (referenceAt?_eq_some hfound).1

/-! ## Equal tokens -/

namespace Corner

/-- The letters and digits in upper case are read off the canonical token. -/
theorem canonical_parts {corner : Corner} (htoken : corner.IsToken) :
    ((corner.canonical.toList.tail).takeWhile isColumnLetter = corner.letters.map upperChar) ∧
      (corner.canonical.toList.tail).dropWhile isColumnLetter = corner.digits ++ [']'] := by
  have hdigits : corner.digits.map upperChar = corner.digits := by
    have hmap := List.map_congr_left fun c hc => upperChar_of_isDigit (htoken.digits c hc)
    simpa using hmap
  have hclose : upperChar ']' = ']' := by decide
  have htail : corner.canonical.toList.tail =
      corner.letters.map upperChar ++ (corner.digits ++ [']']) := by
    simp [canonical, token, hdigits, hclose]
  rw [htail]
  -- The letters end where the digits begin, for no digit is a letter.
  apply takeWhile_append_of_forall
  · intro c hc
    rcases List.mem_map.1 hc with ⟨d, hd, rfl⟩
    exact isColumnLetter_upperChar (htoken.letters d hd)
  · intro c hc
    cases hdigits' : corner.digits with
    | nil => exact absurd hdigits' htoken.digits_ne
    | cons d ds =>
      simp only [hdigits', List.cons_append, List.head?_cons, Option.mem_def,
        Option.some.injEq] at hc
      subst hc
      exact not_isColumnLetter_of_isDigit (htoken.digits _ (by simp [hdigits']))

theorem IsBasic.longS_not_mem {corner : Corner} (h : corner.IsBasic) : longS ∉ corner.letters :=
  fun hmem => ne_longS_of_isAlpha (h longS hmem) rfl

section Equal

variable {corner other : Corner}

/-- Tokens that are equal in upper case have the same digits, and letters that are equal in upper
case. -/
theorem parts_eq_of_canonical_eq (htoken : corner.IsToken) (htoken' : other.IsToken)
    (h : corner.canonical = other.canonical) :
    corner.letters.map upperChar = other.letters.map upperChar ∧ corner.digits = other.digits := by
  have hparts := canonical_parts htoken
  have hparts' := canonical_parts htoken'
  rw [h] at hparts
  exact ⟨hparts.1.symm.trans hparts'.1,
    List.append_cancel_right (hparts.2.symm.trans hparts'.2)⟩

theorem row?_eq_of_canonical_eq (htoken : corner.IsToken) (htoken' : other.IsToken)
    (h : corner.canonical = other.canonical) : corner.row? = other.row? := by
  simp [row?, (parts_eq_of_canonical_eq htoken htoken' h).2]

/-- Tokens that are equal in upper case name the same cell, if the long s is not among their letters. -/
theorem position?_eq_of_canonical_eq (htoken : corner.IsToken) (hlong : longS ∉ corner.letters)
    (htoken' : other.IsToken) (hlong' : longS ∉ other.letters)
    (h : corner.canonical = other.canonical) : corner.position? = other.position? := by
  have hupper : ∀ letters : List Char, longS ∉ letters →
      letters.map upperChar = letters.map Char.toUpper := by
    intro letters hlong
    refine List.map_congr_left fun c hc => upperChar_of_ne_longS ?_
    rintro rfl
    exact hlong hc
  have hletters := (parts_eq_of_canonical_eq htoken htoken' h).1
  rw [hupper _ hlong, hupper _ hlong'] at hletters
  have hcolumn : corner.column = other.column := by
    calc
      columnNumber corner.letters = columnNumber (corner.letters.map Char.toUpper) :=
        (columnNumber_map_toUpper corner.letters).symm
      _ = columnNumber (other.letters.map Char.toUpper) := by rw [hletters]
      _ = columnNumber other.letters := columnNumber_map_toUpper other.letters
  simp [position?, hcolumn, row?_eq_of_canonical_eq htoken htoken' h]

end Equal

end Corner
end SheetMarkup
