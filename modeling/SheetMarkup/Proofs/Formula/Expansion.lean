import SheetMarkup.Proofs.Formula.Underway
import SheetMarkup.Proofs.Grid.Address
import SheetMarkup.Proofs.Text.Replacement

/-!
# Expansion — the references that ranges bring in

Expanding a range puts a list of references where the range stood. The list starts and ends with a
bracket, so no token is made of a piece of it and a piece of the formula around it: every reference
of an expanded formula was written in the formula or is in one of the lists. Those use capital
letters only.

* `Bracketed`: texts that start with an opening bracket and end with a closing one
* `mem_references_replaceAll`: the references after a replacement by such a text
* `HasBasicReferences.of_written`: formulas written with basic letters have basic references
-/

namespace SheetMarkup

/-! ## Tokens -/

/-- A corner is read where its letters and digits stand and no digit follows. -/
theorem Corner.read?_append {corner : Corner} (htoken : corner.IsToken) {c : Char}
    (hc : c.isDigit = false) (rest : List Char) :
    Corner.read? (corner.letters ++ corner.digits ++ c :: rest) = some (corner, c :: rest) := by
  have hdigits : ∃ d ds, corner.digits = d :: ds := List.exists_cons_of_ne_nil htoken.digits_ne
  rcases hdigits with ⟨d, ds, hdigits⟩
  have hd : d.isDigit = true := htoken.digits d (by simp [hdigits])
  have hhead : ∀ d ∈ (corner.digits ++ c :: rest).head?, isColumnLetter d = false := by
    simp [hdigits, not_isColumnLetter_of_isDigit hd]
  have hletters := takeWhile_append_of_forall htoken.letters hhead
  have hend : ∀ d ∈ (c :: rest).head?, d.isDigit = false := by simp [hc]
  have hrest := takeWhile_append_of_forall htoken.digits hend
  unfold Corner.read?
  simp [hletters.1, hletters.2, hrest.1, hrest.2, htoken.letters_ne, htoken.digits_ne]

/-- A token is found where it stands. -/
theorem referenceAt?_token {reference : Corner} (htoken : reference.IsToken) (rest : List Char) :
    referenceAt? (reference.token ++ rest) = some reference := by
  have hread := Corner.read?_append htoken (c := ']') (by decide) rest
  simp only [Corner.token, List.cons_append, List.append_assoc, List.nil_append] at hread ⊢
  simp [referenceAt?, hread]

theorem Corner.IsToken.ne_bracket {corner : Corner} (h : corner.IsToken) {c : Char}
    (hc : c ∈ corner.letters ++ corner.digits) : c ≠ '[' ∧ c ≠ ']' := by
  rcases List.mem_append.1 hc with hletter | hdigit
  · have hletter := h.letters c hletter
    constructor
    · rintro rfl
      exact absurd hletter (by decide)
    · rintro rfl
      exact absurd hletter (by decide)
  · have hdigit := h.digits c hdigit
    constructor
    · rintro rfl
      exact absurd hdigit (by decide)
    · rintro rfl
      exact absurd hdigit (by decide)

theorem Corner.token_ne_nil (corner : Corner) : corner.token ≠ [] :=
  List.cons_ne_nil _ _

/-- No bracket opens inside a token. -/
theorem Corner.IsToken.not_mem_tail {corner : Corner} (h : corner.IsToken) :
    '[' ∉ corner.token.tail := by
  intro hmem
  rcases List.mem_append.1 hmem with hbody | hclose
  · exact (h.ne_bracket hbody).1 rfl
  · simp at hclose

/-! ## Replacement -/

/-- A text that starts with an opening bracket and ends with a closing one. -/
def Bracketed (cs : List Char) : Prop :=
  ∃ inner, cs = '[' :: inner ++ [']']

/-- What stands in a text for each of several tokens when some of them have been replaced. -/
def replacedAfter {α : Type} [DecidableEq α] (token shown : α → List Char) (done : List α) (a : α) :
    List Char :=
  if a ∈ done then shown a else token a

/-- Tokens are replaced one after another, each of them once. If replacing one changes a text only in what
stands for this one, replacing all of them changes it only in what stands for them. -/
theorem foldl_replaceAll_replacedAfter {α : Type} [DecidableEq α] {token shown : α → List Char}
    (text : (α → List Char) → List Char) {done todo : List α} (hnodup : (done ++ todo).Nodup)
    (hstep : ∀ before next after, done ++ todo = before ++ next :: after → next ∉ before →
      Text.replaceAll (token next) (shown next) (text (replacedAfter token shown before)) =
        text (fun a => if a = next then shown next else replacedAfter token shown before a)) :
    todo.foldl (fun text a => Text.replaceAll (token a) (shown a) text)
        (text (replacedAfter token shown done)) =
      text (replacedAfter token shown (done ++ todo)) := by
  induction todo generalizing done with
  | nil => simp
  | cons next todo ih =>
    have hnew : next ∉ done := fun hmem =>
      (List.nodup_append.1 hnodup).2.2 next hmem next List.mem_cons_self rfl
    have hreplace := hstep done next todo rfl hnew
    have hshown : (fun a => if a = next then shown next else replacedAfter token shown done a) =
        replacedAfter token shown (done ++ [next]) := by
      funext a
      by_cases heq : a = next
      · simp [replacedAfter, heq]
      · simp [replacedAfter, heq]
    have hsplit : done ++ next :: todo = done ++ [next] ++ todo := by simp
    rw [hshown] at hreplace
    rw [hsplit] at hnodup hstep ⊢
    rw [List.foldl_cons, hreplace]
    exact ih hnodup hstep

/-- Before the first opening bracket a replacement by a bracketed text leaves a text as it is. -/
theorem prefix_of_prefix_replaceFrom {pattern replacement word cs : List Char}
    (hreplacement : Bracketed replacement) (hword : '[' ∉ word)
    (h : word <+: Text.replaceFrom pattern replacement 0 cs) : word <+: cs := by
  induction cs generalizing word with
  | nil => simpa [Text.replaceFrom] using h
  | cons c cs ih =>
    cases word with
    | nil => exact List.nil_prefix
    | cons w word =>
      rw [Text.replaceFrom] at h
      split at h
      · rcases hreplacement with ⟨inner, rfl⟩
        rw [List.cons_append, List.cons_append, List.cons_prefix_cons] at h
        exact absurd (h.1 ▸ List.mem_cons_self) hword
      · rw [List.cons_prefix_cons] at h
        rw [List.cons_prefix_cons]
        exact ⟨h.1, ih (fun hmem => hword (List.mem_cons_of_mem w hmem)) h.2⟩

/-- A token that starts in front of a closing bracket ends with it at the latest. -/
theorem referenceAt?_append_bracket (front rest : List Char) :
    referenceAt? (front ++ [']'] ++ rest) = referenceAt? (front ++ [']']) := by
  cases hfound : referenceAt? (front ++ [']'] ++ rest) with
  | none =>
    cases hshort : referenceAt? (front ++ [']']) with
    | none => rfl
    | some reference =>
      rcases referenceAt?_eq_some hshort with ⟨htoken, tail, heq⟩
      rw [heq, List.append_assoc, referenceAt?_token htoken] at hfound
      cases hfound
  | some reference =>
    rcases referenceAt?_eq_some hfound with ⟨htoken, tail, heq⟩
    -- Both the token and the shorter text begin the longer one, so one of them begins the other.
    have hsplit : reference.token <+: front ++ [']'] ∨ front ++ [']'] <+: reference.token :=
      List.prefix_or_prefix_of_prefix ⟨tail, heq.symm⟩ (List.prefix_append _ _)
    rcases hsplit with hprefix | hprefix
    · rcases hprefix with ⟨after, hafter⟩
      rw [← hafter, referenceAt?_token htoken]
    · rcases hprefix with ⟨after, hafter⟩
      rcases List.eq_nil_or_concat after with rfl | ⟨init, last, rfl⟩
      · rw [List.append_nil] at hafter
        rw [hafter]
        simpa using (referenceAt?_token htoken []).symm
      · -- The token would go on behind a closing bracket, which only ends a token.
        exfalso
        have htoken' : front ++ [']'] ++ init ++ [last] =
            '[' :: (reference.letters ++ reference.digits) ++ [']'] := by
          simpa [Corner.token] using hafter
        have hbody := (List.append_inj' htoken' rfl).1
        have hmem : ']' ∈ '[' :: (reference.letters ++ reference.digits) := by
          rw [← hbody]
          simp
        rcases List.mem_cons.1 hmem with hopen | hmem
        · exact absurd hopen (by decide)
        · exact (htoken.ne_bracket hmem).2 rfl

/-- No token reaches over the end of a text that ends with a closing bracket. -/
theorem occurrences_append_bracket (front rest : List Char) :
    occurrences referenceAt? (front ++ [']'] ++ rest) =
      occurrences referenceAt? (front ++ [']']) ++ occurrences referenceAt? rest := by
  induction front with
  | nil => rfl
  | cons c front ih =>
    have hhead := referenceAt?_append_bracket (c :: front) rest
    simp only [List.cons_append, occurrences] at hhead ih ⊢
    rw [hhead, ih, List.append_assoc]

theorem mem_references_replaceFrom {pattern replacement cs : List Char} {reference : Corner}
    (hreplacement : Bracketed replacement) {covered : Nat}
    (h : reference ∈
      occurrences referenceAt? (Text.replaceFrom pattern replacement covered cs)) :
    reference ∈ occurrences referenceAt? cs ∨
      reference ∈ occurrences referenceAt? replacement := by
  induction cs generalizing covered with
  | nil => simp [Text.replaceFrom, occurrences] at h
  | cons c cs ih =>
    have hlater : ∀ covered, reference ∈
        occurrences referenceAt? (Text.replaceFrom pattern replacement covered cs) →
        reference ∈ occurrences referenceAt? (c :: cs) ∨
          reference ∈ occurrences referenceAt? replacement := by
      intro covered hmem
      rcases ih hmem with hcs | hrep
      · exact Or.inl (List.mem_append_right _ hcs)
      · exact Or.inr hrep
    -- Characters that are covered by a replacement are passed over.
    cases covered with
    | succ covered => exact hlater covered h
    | zero =>
      rw [Text.replaceFrom] at h
      split at h
      · -- What is replaced here ends with a bracket, so no token reaches over its end.
        have hparts : reference ∈ occurrences referenceAt? replacement ∨ reference ∈
            occurrences referenceAt?
              (Text.replaceFrom pattern replacement (pattern.length - 1) cs) := by
          -- A replacement would begin with a bracket, which the word does not hold.
          rcases hreplacement with ⟨inner, rfl⟩
          rw [occurrences_append_bracket] at h
          exact List.mem_append.1 h
        rcases hparts with hrep | hrest
        · exact Or.inr hrep
        · exact hlater _ hrest
      · simp only [occurrences, List.mem_append, Option.mem_toList] at h
        rcases h with hhead | htail
        · rcases referenceAt?_eq_some hhead with ⟨htoken, rest, heq⟩
          simp only [Corner.token, List.cons_append, List.append_assoc, List.nil_append,
            List.cons.injEq] at heq
          rcases heq with ⟨rfl, heq⟩
          -- No bracket opens within a token, so all of the token was there before.
          have hprefix : reference.letters ++ reference.digits ++ [']'] <+: cs := by
            apply prefix_of_prefix_replaceFrom hreplacement htoken.not_mem_tail
            exact ⟨rest, by simpa [Corner.token] using heq.symm⟩
          rcases hprefix with ⟨after, rfl⟩
          left
          simp only [occurrences, List.mem_append, Option.mem_toList]
          left
          simpa [Corner.token] using referenceAt?_token htoken after
        · exact hlater 0 htail

/-- A reference after a replacement by a bracketed text was there before or is in that text. -/
theorem mem_references_replaceAll {pattern replacement text : List Char} {reference : Corner}
    (hreplacement : Bracketed replacement)
    (h : reference ∈ references (Text.replaceAll pattern replacement text)) :
    reference ∈ references text ∨ reference ∈ references replacement := by
  rw [mem_references_iff] at h ⊢
  rw [mem_references_iff]
  unfold Text.replaceAll at h
  split at h
  · exact Or.inl h
  · exact mem_references_replaceFrom hreplacement h

/-! ## Capital letters -/

/-- The two characters beyond the basic letters that are column letters are large. -/
theorem isAlpha_of_isColumnLetter {c : Char} (h : isColumnLetter c = true) (hsmall : c.toNat < 128) :
    c.isAlpha = true := by
  simp only [isColumnLetter, Bool.or_eq_true, beq_iff_eq] at h
  rcases h with (halpha | rfl) | rfl
  · exact halpha
  · exact absurd hsmall (by decide)
  · exact absurd hsmall (by decide)

theorem isBasic_of_mem_references {cs : List Char} {reference : Corner}
    (hsmall : ∀ c ∈ cs, c.toNat < 128) (h : reference ∈ references cs) : reference.IsBasic := by
  rcases mem_occurrences.1 (mem_references_iff.1 h) with ⟨c, rest, hsuffix, hfound⟩
  rcases referenceAt?_eq_some hfound with ⟨htoken, tail, heq⟩
  intro letter hletter
  apply isAlpha_of_isColumnLetter (htoken.letters letter hletter)
  apply hsmall letter
  apply hsuffix.subset
  rw [heq]
  simp [Corner.token, hletter]

def IsPrinted (c : Char) : Prop :=
  32 < c.toNat ∧ c.toNat < 128

theorem isPrinted_of_isAlpha {c : Char} (h : c.isAlpha = true) : IsPrinted c := by
  rw [isAlpha_iff_toNat] at h
  exact ⟨by omega, by omega⟩

theorem isPrinted_of_mem_cellToken {column row : Nat} :
    ∀ c ∈ cellToken column row, IsPrinted c := by
  intro c hc
  simp only [cellToken, List.cons_append, List.append_assoc, List.mem_cons, List.mem_append,
    List.not_mem_nil, or_false] at hc
  rcases hc with rfl | hletter | hdigit | rfl
  · exact ⟨by decide, by decide⟩
  · exact isPrinted_of_isAlpha (isAlpha_of_mem_columnLetters c hletter)
  · have hnat := toNat_of_isDigit (isDigit_of_mem_toDigits c hdigit)
    exact ⟨by omega, by omega⟩
  · exact ⟨by decide, by decide⟩

/-! ## Ranges -/

theorem commaJoined_cons_cons (first second : List Char) (rest : List (List Char)) :
    commaJoined (first :: second :: rest) = first ++ ',' :: commaJoined (second :: rest) := by
  simp [commaJoined]

theorem Bracketed.commaJoined {texts : List (List Char)} (hne : texts ≠ [])
    (h : ∀ text ∈ texts, Bracketed text) : Bracketed (commaJoined texts) := by
  induction texts with
  | nil => exact absurd rfl hne
  | cons first rest ih =>
    cases rest with
    | nil => simpa [SheetMarkup.commaJoined] using h
    | cons second rest =>
      rcases h first List.mem_cons_self with ⟨front, rfl⟩
      rcases ih (by simp) (fun text htext => h text (List.mem_cons_of_mem _ htext)) with
        ⟨back, hback⟩
      rw [commaJoined_cons_cons, hback]
      exact ⟨front ++ [']'] ++ ',' :: '[' :: back, by simp⟩

theorem mem_commaJoined {c : Char} {texts : List (List Char)} (h : c ∈ commaJoined texts) :
    c = ',' ∨ ∃ text ∈ texts, c ∈ text := by
  induction texts with
  | nil => cases h
  | cons first rest ih =>
    cases rest with
    | nil =>
      have hfirst : c ∈ first := by simpa [commaJoined] using h
      exact Or.inr ⟨first, List.mem_cons_self, hfirst⟩
    | cons second rest =>
      rw [commaJoined_cons_cons] at h
      rcases List.mem_append.1 h with hfirst | hlater
      · exact Or.inr ⟨first, List.mem_cons_self, hfirst⟩
      · rcases List.mem_cons.1 hlater with hcomma | hrest
        · exact Or.inl hcomma
        · rcases ih hrest with hcomma | ⟨text, htext, hc⟩
          · exact Or.inl hcomma
          · exact Or.inr ⟨text, List.mem_cons_of_mem _ htext, hc⟩

namespace RangeToken

variable (range : RangeToken) (rows columns : Nat)

theorem expand_bracketed : Bracketed (range.expand rows columns) := by
  -- The first cell of a range is listed even where it lies outside the grid.
  have hne : range.rectangle.addressesWithin rows columns ≠ [] := by
    rw [addressesWithin_eq_takeThrough]
    rcases addressesFrom_eq_cons range.rectangle.left_le_right range.rectangle.top_le_bottom with
      ⟨rest, hrest⟩
    unfold Rectangle.addresses
    rw [hrest, takeThrough]
    split <;> simp
  apply Bracketed.commaJoined
  · simpa using hne
  · intro text htext
    rcases List.mem_map.1 htext with ⟨⟨column, row⟩, _, rfl⟩
    exact ⟨columnLetters column ++ Nat.toDigits 10 row, by simp [cellToken]⟩

theorem isPrinted_of_mem_expand : ∀ c ∈ range.expand rows columns, IsPrinted c := by
  intro c hc
  rcases mem_commaJoined hc with rfl | ⟨text, htext, hmem⟩
  · exact ⟨by decide, by decide⟩
  · rcases List.mem_map.1 htext with ⟨⟨column, row⟩, _, rfl⟩
    exact isPrinted_of_mem_cellToken c hmem

theorem isBasic_of_mem_references_expand {reference : Corner}
    (h : reference ∈ references (range.expand rows columns)) : reference.IsBasic :=
  isBasic_of_mem_references (fun c hc => (range.isPrinted_of_mem_expand rows columns c hc).2) h

end RangeToken

/-! ## Formulas -/

/-- The references that the formulas of a grid are written with use basic letters only. -/
def Grid.WrittenInBasicLetters (grid : Grid) : Prop :=
  ∀ cells ∈ grid, ∀ text ∈ cells, ∀ formula ∈ formula? text,
    ∀ reference ∈ references (formula.filter fun c => !Text.isBlank c), reference.IsBasic

instance (grid : Grid) : Decidable grid.WrittenInBasicLetters :=
  inferInstanceAs (Decidable (∀ cells ∈ grid, ∀ text ∈ cells, ∀ formula ∈ formula? text,
    ∀ reference ∈ references (formula.filter fun c => !Text.isBlank c), reference.IsBasic))

theorem isBasic_of_mem_references_expandRanges {grid : Grid} {expression : List Char}
    (h : ∀ reference ∈ references expression, reference.IsBasic) :
    ∀ reference ∈ references (expandRanges grid expression), reference.IsBasic := by
  refine expandRanges_induction
    (motive := fun text => ∀ reference ∈ references text, reference.IsBasic) ?_ h
  intro range text htext reference hmem
  rcases mem_references_replaceAll (range.expand_bracketed _ _) hmem with hold | hnew
  · exact htext reference hold
  · exact range.isBasic_of_mem_references_expand _ _ hnew

/-- Formulas written with basic letters refer with basic letters only, ranges included. -/
theorem Grid.HasBasicReferences.of_written {grid : Grid} (h : grid.WrittenInBasicLetters) :
    grid.HasBasicReferences := by
  intro p reference hmem
  unfold Grid.referencesAt at hmem
  split at hmem
  · cases hmem
  · rename_i formula hformula
    rcases Option.bind_eq_some_iff.1 hformula with ⟨text, htext, hformula⟩
    rcases Option.bind_eq_some_iff.1 htext with ⟨cells, hcells, htext⟩
    have hbasic := h cells (List.mem_of_getElem? hcells) text (List.mem_of_getElem? htext) formula
      hformula
    unfold Grid.referencesIn at hmem
    split at hmem
    · cases hmem
    · rename_i expression hprepare
      rw [eq_of_prepare hprepare] at hmem
      exact isBasic_of_mem_references_expandRanges hbasic reference hmem

end SheetMarkup
