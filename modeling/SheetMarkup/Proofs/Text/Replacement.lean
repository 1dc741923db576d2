import SheetMarkup.Text.Replace

/-!
# Replacement — where a pattern is found, and where it is not

Literal replacement searches a text from its start. A word in which no occurrence of the pattern begins stays
as it is, and what stands behind it is replaced as if the word were not there; the pattern itself gives way to
its replacement. So a text is replaced one part after another.

* `replaceFrom_append_of_not_prefix`, `replaceFrom_append_of_not_mem`, `replaceFrom_append_of_tail`: words that
  stay as they are
* `replaceFrom_self`: the pattern
* `mem_replaceAll`: where the characters of the result come from
-/

namespace SheetMarkup.Text

variable {pattern replacement word cs : List Char}

/-! ## Words that stay -/

/-- Where a pattern starts nowhere in a word, the word stays as it is. -/
theorem replaceFrom_append_of_not_prefix
    (h : ∀ rest, rest <:+ word → rest ≠ [] → ¬ pattern <+: rest ++ cs) (replacement : List Char) :
    replaceFrom pattern replacement 0 (word ++ cs) = word ++ replaceFrom pattern replacement 0 cs := by
  induction word with
  | nil => rfl
  | cons c word ih =>
    have hhere : pattern.isPrefixOf (c :: (word ++ cs)) = false := by
      rw [Bool.eq_false_iff, ne_eq, List.isPrefixOf_iff_prefix]
      exact h (c :: word) (List.suffix_refl _) (by simp)
    have hrest := ih fun rest hrest => h rest (hrest.trans (List.suffix_cons c word))
    simp [replaceFrom, hhere, hrest]

section Opening

variable {opening : Char}

theorem mem_of_prefix_append (hopen : pattern.head? = some opening) (hne : word ≠ [])
    (h : pattern <+: word ++ cs) : opening ∈ word := by
  rcases List.head?_eq_some_iff.1 hopen with ⟨more, rfl⟩
  rcases List.exists_cons_of_ne_nil hne with ⟨c, rest, rfl⟩
  rw [List.cons_append, List.cons_prefix_cons] at h
  rw [h.1]
  exact List.mem_cons_self

theorem replaceFrom_append_of_not_mem (hopen : pattern.head? = some opening) (hword : opening ∉ word)
    (replacement cs : List Char) :
    replaceFrom pattern replacement 0 (word ++ cs) = word ++ replaceFrom pattern replacement 0 cs := by
  apply replaceFrom_append_of_not_prefix
  intro rest hsuffix hne hprefix
  exact hword (hsuffix.subset (mem_of_prefix_append hopen hne hprefix))

/-- Where the first character of a pattern stands at the start of a word only, the pattern is found at the
start of the word or not at all. -/
theorem replaceFrom_append_of_tail (hopen : pattern.head? = some opening) (hword : opening ∉ word.tail)
    (hhere : ¬ pattern <+: word ++ cs) (replacement : List Char) :
    replaceFrom pattern replacement 0 (word ++ cs) = word ++ replaceFrom pattern replacement 0 cs := by
  apply replaceFrom_append_of_not_prefix
  intro rest hsuffix hne hprefix
  cases word with
  | nil => exact hne (List.suffix_nil.1 hsuffix)
  | cons c word =>
    rcases List.suffix_cons_iff.1 hsuffix with rfl | hinner
    · exact hhere hprefix
    · exact hword (hinner.subset (mem_of_prefix_append hopen hne hprefix))

end Opening

/-! ## The pattern -/

theorem replaceFrom_covered (pattern replacement word cs : List Char) :
    replaceFrom pattern replacement word.length (word ++ cs) = replaceFrom pattern replacement 0 cs := by
  induction word with
  | nil => rfl
  | cons c word ih => exact ih

theorem replaceFrom_self (hne : pattern ≠ []) (replacement cs : List Char) :
    replaceFrom pattern replacement 0 (pattern ++ cs) =
      replacement ++ replaceFrom pattern replacement 0 cs := by
  rcases List.exists_cons_of_ne_nil hne with ⟨c, pattern, rfl⟩
  have hprefix : (c :: pattern).isPrefixOf (c :: (pattern ++ cs)) = true := by
    rw [List.isPrefixOf_iff_prefix]
    exact ⟨cs, rfl⟩
  rw [List.cons_append, replaceFrom, if_pos hprefix, List.length_cons, Nat.add_sub_cancel,
    replaceFrom_covered]

/-! ## Characters -/

theorem mem_replaceFrom {covered : Nat} {c : Char}
    (h : c ∈ replaceFrom pattern replacement covered cs) : c ∈ replacement ∨ c ∈ cs := by
  induction cs generalizing covered with
  | nil => simp [replaceFrom] at h
  | cons d cs ih =>
    have hlater : ∀ covered, c ∈ replaceFrom pattern replacement covered cs →
        c ∈ replacement ∨ c ∈ d :: cs := by
      intro covered hmem
      rcases ih hmem with hmem | hmem
      · exact Or.inl hmem
      · exact Or.inr (List.mem_cons_of_mem d hmem)
    cases covered with
    | succ covered => exact hlater covered h
    | zero =>
      rw [replaceFrom] at h
      split at h
      · rcases List.mem_append.1 h with hmem | hmem
        · exact Or.inl hmem
        · exact hlater _ hmem
      · rcases List.mem_cons.1 h with rfl | hmem
        · exact Or.inr List.mem_cons_self
        · exact hlater _ hmem

/-- What stands in the result was put in or stood there before. -/
theorem mem_replaceAll {c : Char} (h : c ∈ replaceAll pattern replacement cs) :
    c ∈ replacement ∨ c ∈ cs := by
  unfold replaceAll at h
  split at h
  · exact Or.inr h
  · exact mem_replaceFrom h

end SheetMarkup.Text
