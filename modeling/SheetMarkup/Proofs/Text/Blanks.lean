import Mathlib.Data.List.DropRight
import SheetMarkup.Proofs.Text.Characters
import SheetMarkup.Text.Blank

/-!
# Blanks — words and the blanks around them

A text is trimmed to the word in it: nothing but blanks stands around the word, and no blank is left at
its ends. How many blanks there were makes no difference to what is left.

* `toNat_of_isBlank`: the characters that can be blanks
* `IsPadded`: a word with blanks around it
* `isPadded_trimBlanks`, `IsPadded.trimBlanks_eq`: the word that a text is trimmed to
* `trimStart_trimStart`: the blanks at the start are gone at once
-/

namespace SheetMarkup

/-- Blanks are smaller than the printed basic characters or larger. -/
theorem toNat_of_isBlank {c : Char} (h : Text.isBlank c = true) : c.toNat ≤ 32 ∨ 133 ≤ c.toNat := by
  simp only [Text.isBlank, Bool.or_eq_true, Bool.and_eq_true, decide_eq_true_eq, Char.le_def,
    UInt32.le_iff_toNat_le, ← Char.toNat_inj, Char.toNat_val, Char.reduceToNat] at h
  omega

theorem not_isBlank_of_toNat {c : Char} (hlow : 32 < c.toNat) (hhigh : c.toNat < 133) :
    Text.isBlank c = false := by
  rw [Bool.eq_false_iff]
  intro hblank
  have hnat := toNat_of_isBlank hblank
  omega

theorem not_isBlank_of_isAlpha {c : Char} (h : c.isAlpha = true) : Text.isBlank c = false := by
  rw [isAlpha_iff_toNat] at h
  exact not_isBlank_of_toNat (by omega) (by omega)

theorem not_isBlank_of_isLower {c : Char} (h : c.isLower = true) : Text.isBlank c = false := by
  have hdef : c.isAlpha = (c.isUpper || c.isLower) := rfl
  apply not_isBlank_of_isAlpha
  rw [hdef, h, Bool.or_true]

theorem not_isBlank_of_isDigit {c : Char} (h : c.isDigit = true) : Text.isBlank c = false := by
  have hdigit := toNat_of_isDigit h
  exact not_isBlank_of_toNat (by omega) (by omega)

namespace Text

/-- A text is a word with nothing but blanks around it. -/
def IsPadded (word cs : List Char) : Prop :=
  ∃ before after, cs = before ++ word ++ after ∧ (∀ c ∈ before, isBlank c = true) ∧
    ∀ c ∈ after, isBlank c = true

variable {word cs blanks : List Char}

/-! ## Words -/

theorem IsPadded.refl (cs : List Char) : IsPadded cs cs :=
  ⟨[], [], by simp, by simp, by simp⟩

theorem dropBlanks_append (cs blanks : List Char) (hblanks : ∀ c ∈ blanks, isBlank c = true) :
    dropBlanks (cs ++ blanks) = if (dropBlanks cs).isEmpty then [] else dropBlanks cs ++ blanks := by
  have hnil : blanks.dropWhile isBlank = [] := by
    have happend : (blanks ++ []).dropWhile isBlank = [].dropWhile isBlank :=
      List.dropWhile_append_of_pos hblanks
    simpa using happend
  rw [dropBlanks, List.dropWhile_append, hnil]
  rfl

theorem trimBlanks_append_left (hblanks : ∀ c ∈ blanks, isBlank c = true) (cs : List Char) :
    trimBlanks (blanks ++ cs) = trimBlanks cs := by
  have hdrop : dropBlanks (blanks ++ cs) = dropBlanks cs := List.dropWhile_append_of_pos hblanks
  rw [trimBlanks, trimBlanks, hdrop]

theorem trimBlanks_append_right (cs : List Char) (hblanks : ∀ c ∈ blanks, isBlank c = true) :
    trimBlanks (cs ++ blanks) = trimBlanks cs := by
  rw [trimBlanks, trimBlanks, dropBlanks_append cs blanks hblanks]
  split
  · rename_i hempty
    rw [List.isEmpty_iff.1 hempty]
  · have hreverse : ∀ c ∈ blanks.reverse, isBlank c = true := fun c hc =>
      hblanks c (List.mem_reverse.1 hc)
    have hdrop : dropBlanks (blanks.reverse ++ (dropBlanks cs).reverse) =
        dropBlanks (dropBlanks cs).reverse := List.dropWhile_append_of_pos hreverse
    rw [List.reverse_append, hdrop]

/-- The blanks around a word make no difference to what is left of it. -/
theorem IsPadded.trimBlanks_eq (h : IsPadded word cs) : trimBlanks cs = trimBlanks word := by
  rcases h with ⟨before, after, rfl, hbefore, hafter⟩
  rw [trimBlanks_append_right _ hafter, trimBlanks_append_left hbefore]

/-- A text is the word it is trimmed to with blanks around it. -/
theorem isPadded_trimBlanks (cs : List Char) : IsPadded (trimBlanks cs) cs := by
  have hback := List.takeWhile_append_dropWhile (p := isBlank) (l := (dropBlanks cs).reverse)
  refine ⟨cs.takeWhile isBlank, ((dropBlanks cs).reverse.takeWhile isBlank).reverse, ?_, ?_, ?_⟩
  · calc
      cs = cs.takeWhile isBlank ++ dropBlanks cs := List.takeWhile_append_dropWhile.symm
      _ = cs.takeWhile isBlank ++ (dropBlanks cs).reverse.reverse := by rw [List.reverse_reverse]
      _ = _ := by
        rw [← hback, List.reverse_append, trimBlanks, List.append_assoc, hback]
        rfl
  · exact fun c hc => List.all_eq_true.1 List.all_takeWhile c hc
  · exact fun c hc => List.all_eq_true.1 List.all_takeWhile c (List.mem_reverse.1 hc)

theorem trimBlanks_of_not_isBlank (h : ∀ c ∈ word, isBlank c = false) : trimBlanks word = word := by
  have hdrop : ∀ cs : List Char, (∀ c ∈ cs, isBlank c = false) → dropBlanks cs = cs := by
    intro cs hcs
    cases cs with
    | nil => rfl
    | cons c cs => simp [dropBlanks, hcs c List.mem_cons_self]
  rw [trimBlanks, hdrop word h, hdrop word.reverse fun c hc => h c (List.mem_reverse.1 hc),
    List.reverse_reverse]

/-- What is no blank is still there when a text is trimmed. -/
theorem mem_trimBlanks {c : Char} (hc : isBlank c = false) : c ∈ trimBlanks cs ↔ c ∈ cs := by
  rcases isPadded_trimBlanks cs with ⟨before, after, heq, hbefore, hafter⟩
  have hnot : ∀ blanks : List Char, (∀ c ∈ blanks, isBlank c = true) → c ∉ blanks := by
    intro blanks hblanks hmem
    rw [hblanks c hmem] at hc
    cases hc
  constructor
  · intro hmem
    rw [heq]
    simp [hmem]
  · intro hmem
    rw [heq, List.append_assoc, List.mem_append, List.mem_append] at hmem
    rcases hmem with hmem | hmem | hmem
    · exact absurd hmem (hnot before hbefore)
    · exact hmem
    · exact absurd hmem (hnot after hafter)

/-- Nothing is left of blanks, and of nothing else. -/
theorem trimBlanks_eq_nil_iff : trimBlanks cs = [] ↔ ∀ c ∈ cs, isBlank c = true := by
  constructor
  · intro hnil c hc
    cases hblank : isBlank c with
    | true => rfl
    | false =>
      have hmem := (mem_trimBlanks hblank).2 hc
      rw [hnil] at hmem
      cases hmem
  · intro hblanks
    have htrim := trimBlanks_append_left hblanks []
    rw [List.append_nil] at htrim
    rw [htrim]
    rfl

/-! ## The blanks at the start -/

theorem trimStart_of_head? {text : String} {c : Char} (h : text.toList.head? = some c)
    (hc : isBlank c = false) : trimStart text = text := by
  rcases List.head?_eq_some_iff.1 h with ⟨cs, htext⟩
  rw [trimStart, dropBlanks, htext, List.dropWhile_cons, hc, ← htext]
  simp

theorem trimStart_dropBlanks (cs : List Char) :
    trimStart (String.ofList (dropBlanks cs)) = String.ofList (dropBlanks cs) := by
  simp [trimStart, dropBlanks, List.dropWhile_idempotent]

theorem trimStart_trimStart (text : String) : trimStart (trimStart text) = trimStart text :=
  trimStart_dropBlanks text.toList

end Text
end SheetMarkup
