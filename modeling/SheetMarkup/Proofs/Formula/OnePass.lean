import SheetMarkup.Proofs.Formula.Expansion

/-!
# One pass — all ranges of an expression at once

The ranges of an expression are expanded one after another, each wherever its token stands in the text as the
others have left it. No token of a range comes into the text on the way: a list of references has no colon,
and it starts and ends with a bracket, so no range is made of a piece of it and a piece of what stands next to
it. The result is therefore that of one pass over the expression, in which each range is expanded where it is
met.

* `RangeToken.IsToken`: the ranges that a text can have
* `expandOnce`: one pass
* `InParts`: a text as characters and ranges
* `expandRanges_eq_expandOnce`: ranges expanded one after another, and in one pass
-/

namespace SheetMarkup

/-! ## Tokens of ranges -/

namespace RangeToken

structure IsToken (range : RangeToken) : Prop where
  first : range.first.IsToken
  second : range.second.IsToken

variable {range : RangeToken}

theorem token_ne_nil (range : RangeToken) : range.token ≠ [] :=
  List.cons_ne_nil _ _

/-- The token of a range is two corners in brackets with a colon between. -/
theorem token_eq (range : RangeToken) :
    range.token = '[' :: (range.first.letters ++ range.first.digits ++
      ':' :: (range.second.letters ++ range.second.digits)) ++ [']'] := by
  simp [token]

theorem colon_mem_token (range : RangeToken) : ':' ∈ range.token := by
  simp [token]

/-- Inside the token of a range no bracket opens and none closes. -/
theorem IsToken.ne_bracket (h : range.IsToken) {c : Char}
    (hc : c ∈ range.first.letters ++ range.first.digits ++
      ':' :: (range.second.letters ++ range.second.digits)) : c ≠ '[' ∧ c ≠ ']' := by
  rcases List.mem_append.1 hc with hfirst | hrest
  · exact h.first.ne_bracket hfirst
  · rcases List.mem_cons.1 hrest with rfl | hsecond
    · decide
    · exact h.second.ne_bracket hsecond

theorem IsToken.not_mem_tail (h : range.IsToken) : '[' ∉ range.token.tail := by
  rw [token_eq, List.cons_append, List.tail_cons, List.mem_append, not_or]
  exact ⟨fun hmem => (h.ne_bracket hmem).1 rfl, by simp⟩

/-- A closing bracket is the last character of the token of a range. -/
theorem IsToken.eq_nil_of_append (h : range.IsToken) {front rest : List Char}
    (heq : front ++ ']' :: rest = range.token) : rest = [] := by
  rcases List.eq_nil_or_concat rest with rfl | ⟨init, last, rfl⟩
  · rfl
  · exfalso
    rw [token_eq, List.concat_eq_append, ← List.cons_append, ← List.append_assoc] at heq
    have hmem : ']' ∈ '[' :: (range.first.letters ++ range.first.digits ++
        ':' :: (range.second.letters ++ range.second.digits)) := by
      rw [← (List.append_inj' heq rfl).1]
      simp
    rcases List.mem_cons.1 hmem with hopen | hmem
    · exact absurd hopen (by decide)
    · exact (h.ne_bracket hmem).2 rfl

/-- A range is found where its token stands. -/
theorem IsToken.rangeAt?_token (h : range.IsToken) (rest : List Char) :
    rangeAt? (range.token ++ rest) = some range := by
  have hread := Corner.read?_append h.first (c := ':') (by decide)
    (range.second.letters ++ range.second.digits ++ ']' :: rest)
  have hread' := Corner.read?_append h.second (c := ']') (by decide) rest
  have htoken : range.token ++ rest = '[' :: (range.first.letters ++ range.first.digits ++
      ':' :: (range.second.letters ++ range.second.digits ++ ']' :: rest)) := by
    simp [token]
  rw [htoken, rangeAt?, hread]
  simp only [hread']

end RangeToken

/-- A range is found only where its token stands. -/
theorem rangeAt?_eq_some {cs : List Char} {range : RangeToken} (h : rangeAt? cs = some range) :
    range.IsToken ∧ ∃ rest, cs = range.token ++ rest := by
  unfold rangeAt? at h
  split at h
  · split at h
    · rename_i hfirst
      split at h
      · rename_i tail hsecond
        cases h
        rcases Corner.read?_eq_some hfirst with ⟨hleft, rfl⟩
        rcases Corner.read?_eq_some hsecond with ⟨hright, rfl⟩
        exact ⟨⟨hleft, hright⟩, tail, by simp [RangeToken.token]⟩
      · cases h
    · cases h
  · cases h

/-- The token of a range expands as the range does. -/
theorem RangeToken.IsToken.expandRange_token {range : RangeToken} (h : range.IsToken)
    (rows columns : Nat) : expandRange range.token rows columns = range.expand rows columns := by
  have hfound := h.rangeAt?_token []
  rw [List.append_nil] at hfound
  have htoken : range.token = '[' :: range.token.tail := rfl
  rw [htoken] at hfound
  rw [expandRange, htoken, occurrences, hfound]
  rfl

theorem mem_rangeTokens_iff {cs : List Char} {range : RangeToken} :
    range ∈ rangeTokens cs ↔ range ∈ occurrences rangeAt? cs := by
  simp [rangeTokens, List.mem_eraseDups]

theorem isToken_of_mem_rangeTokens {cs : List Char} {range : RangeToken}
    (h : range ∈ rangeTokens cs) : range.IsToken := by
  rcases mem_occurrences.1 (mem_rangeTokens_iff.1 h) with ⟨_, _, _, hfound⟩
  exact (rangeAt?_eq_some hfound).1

/-! ## One pass -/

/-- A text with something in the place of each range, when its first `covered` characters belong to a range
already met. -/
def expandFrom (shown : RangeToken → List Char) : (covered : Nat) → List Char → List Char
  | _, [] => []
  | covered + 1, _ :: cs => expandFrom shown covered cs
  | 0, c :: cs =>
    match rangeAt? (c :: cs) with
    | some range => shown range ++ expandFrom shown (range.token.length - 1) cs
    | none => c :: expandFrom shown 0 cs

def expandOnce (shown : RangeToken → List Char) (cs : List Char) : List Char :=
  expandFrom shown 0 cs

/-- A text is made of ranges and of characters at which no range starts. -/
inductive InParts : List Char → Prop where
  | nil : InParts []
  | char {c : Char} {cs : List Char} : rangeAt? (c :: cs) = none → InParts cs → InParts (c :: cs)
  | range {range : RangeToken} {cs : List Char} :
      range.IsToken → InParts cs → InParts (range.token ++ cs)

theorem inParts (cs : List Char) : InParts cs := by
  -- A range takes its whole token at once, so the induction is on the length of the text.
  generalize hlength : cs.length = n
  induction n using Nat.strongRecOn generalizing cs with
  | ind n ih =>
    cases cs with
    | nil => exact InParts.nil
    | cons c cs =>
      cases hfound : rangeAt? (c :: cs) with
      | none => exact InParts.char hfound (ih cs.length (by simp at hlength; omega) cs rfl)
      | some range =>
        rcases rangeAt?_eq_some hfound with ⟨htoken, rest, heq⟩
        have hpos : 0 < range.token.length := List.length_pos_iff.2 range.token_ne_nil
        have hsum := congrArg List.length heq
        rw [List.length_append] at hsum
        rw [heq]
        exact InParts.range htoken (ih rest.length (by omega) rest rfl)

section

variable {shown shown' : RangeToken → List Char} {range next : RangeToken} {cs : List Char}

theorem expandFrom_covered (shown : RangeToken → List Char) (word cs : List Char) :
    expandFrom shown word.length (word ++ cs) = expandOnce shown cs := by
  induction word with
  | nil => rfl
  | cons c word ih => exact ih

theorem expandOnce_char {c : Char} (h : rangeAt? (c :: cs) = none) :
    expandOnce shown (c :: cs) = c :: expandOnce shown cs := by
  simp [expandOnce, expandFrom, h]

theorem expandOnce_token (h : range.IsToken) :
    expandOnce shown (range.token ++ cs) = shown range ++ expandOnce shown cs := by
  have hfound := h.rangeAt?_token cs
  have hbody : range.token = '[' :: range.token.tail := rfl
  rw [hbody, List.cons_append] at hfound
  rw [hbody, List.cons_append, expandOnce, expandFrom, hfound]
  dsimp only
  rw [← List.length_tail, expandFrom_covered]

theorem expandOnce_congr (h : ∀ range ∈ rangeTokens cs, shown range = shown' range) :
    expandOnce shown cs = expandOnce shown' cs := by
  simp only [mem_rangeTokens_iff, mem_occurrences] at h
  induction inParts cs with
  | nil => rfl
  | char hnone _ ih =>
    rw [expandOnce_char hnone, expandOnce_char hnone, ih]
    rintro range ⟨c, rest, hsuffix, hfound⟩
    exact h range ⟨c, rest, hsuffix.trans (List.suffix_cons _ _), hfound⟩
  | @range range cs htoken _ ih =>
    rw [expandOnce_token htoken, expandOnce_token htoken,
      h range ⟨_, _, List.suffix_refl _, htoken.rangeAt?_token cs⟩, ih]
    rintro other ⟨c, rest, hsuffix, hfound⟩
    exact h other ⟨c, rest, hsuffix.trans (List.suffix_append _ _), hfound⟩

theorem expandOnce_token_self (cs : List Char) : expandOnce RangeToken.token cs = cs := by
  induction inParts cs with
  | nil => rfl
  | char hnone _ ih => rw [expandOnce_char hnone, ih]
  | range htoken _ ih => rw [expandOnce_token htoken, ih]

/-! ## One range -/

/-- A text in which no token of a range starts, whatever follows. -/
structure HasNoRange (text : List Char) : Prop where
  bracketed : Bracketed text
  no_colon : ':' ∉ text

theorem HasNoRange.not_prefix {text word : List Char} (h : HasNoRange text) (hsuffix : word <:+ text)
    (hword : word ≠ []) (hnext : next.IsToken) : ¬ next.token <+: word ++ cs := by
  intro hprefix
  rcases h.bracketed with ⟨inner, rfl⟩
  have hcolon : ':' ∉ word := fun hmem => h.no_colon (hsuffix.subset hmem)
  have hlast : ∃ front, word = front ++ [']'] := by
    rcases List.eq_nil_or_concat word with rfl | ⟨front, last, rfl⟩
    · exact absurd rfl hword
    · rcases hsuffix with ⟨before, hbefore⟩
      rw [List.concat_eq_append, ← List.append_assoc] at hbefore
      have hsame := (List.append_inj' hbefore rfl).2
      exact ⟨front, by simpa using hsame⟩
  rcases hlast with ⟨front, rfl⟩
  rcases List.prefix_or_prefix_of_prefix hprefix (List.prefix_append _ cs) with hshort | ⟨more, hmore⟩
  · exact hcolon (hshort.subset next.colon_mem_token)
  · -- The token would go on behind the closing bracket, or else its colon stands in front of it.
    rw [List.append_assoc, List.singleton_append] at hmore
    cases hnext.eq_nil_of_append hmore
    exact hcolon (hmore ▸ next.colon_mem_token)

/-- What may stand for a range while others are expanded: a text without ranges, or its own token. -/
def MayStand (shown : RangeToken → List Char) : Prop :=
  ∀ range, HasNoRange (shown range) ∨ shown range = range.token

theorem MayStand.head? (h : MayStand shown) (range : RangeToken) : (shown range).head? = some '[' := by
  rcases h range with ⟨⟨inner, hinner⟩, _⟩ | htoken
  · rw [hinner]
    rfl
  · rw [htoken]
    rfl

/-- What is read in front of the next bracket was there before any range was expanded. -/
theorem prefix_of_prefix_expandOnce (hshown : MayStand shown) {word : List Char} (hword : '[' ∉ word)
    (h : word <+: expandOnce shown cs) : word <+: cs := by
  induction inParts cs generalizing word with
  | nil => exact h
  | char hnone _ ih =>
    rw [expandOnce_char hnone] at h
    cases word with
    | nil => exact List.nil_prefix
    | cons d word =>
      rw [List.cons_prefix_cons] at h ⊢
      exact ⟨h.1, ih (fun hmem => hword (List.mem_cons_of_mem d hmem)) h.2⟩
  | @range range _ htoken _ _ =>
    rw [expandOnce_token htoken] at h
    cases word with
    | nil => exact List.nil_prefix
    | cons d word =>
      -- What stands for a range starts with a bracket.
      have hhead := hshown.head? range
      rcases h with ⟨more, hmore⟩
      cases hopen : shown range with
      | nil => simp [hopen] at hhead
      | cons c text =>
        rw [hopen] at hhead hmore
        cases hhead
        rcases List.cons.inj hmore with ⟨rfl, _⟩
        exact absurd List.mem_cons_self hword

/-- Expanding one range wherever its token stands, when some others have been expanded. -/
theorem replaceFrom_expandOnce (hshown : MayStand shown) (hnext : next.IsToken)
    (hself : shown next = next.token) (replacement cs : List Char) :
    Text.replaceFrom next.token replacement 0 (expandOnce shown cs) =
      expandOnce (fun range => if range = next then replacement else shown range) cs := by
  induction inParts cs with
  | nil => rfl
  | @char c cs hnone _ ih =>
    -- A token that starts at this character would have been a range of the text before.
    have hhere : ¬ next.token <+: c :: expandOnce shown cs := by
      intro hprefix
      have hbody : next.token = '[' :: next.token.tail := rfl
      rw [hbody, List.cons_prefix_cons] at hprefix
      rcases hprefix with ⟨rfl, hprefix⟩
      rcases prefix_of_prefix_expandOnce hshown hnext.not_mem_tail hprefix with ⟨rest, hrest⟩
      have hfound := hnext.rangeAt?_token rest
      rw [hbody, List.cons_append, hrest, hnone] at hfound
      cases hfound
    have hnot : next.token.isPrefixOf (c :: expandOnce shown cs) = false := by
      rwa [Bool.eq_false_iff, ne_eq, List.isPrefixOf_iff_prefix]
    rw [expandOnce_char hnone, expandOnce_char hnone, Text.replaceFrom, hnot, ih]
    rfl
  | @range range cs htoken _ ih =>
    rw [expandOnce_token htoken, expandOnce_token htoken]
    by_cases heq : range = next
    · subst heq
      rw [hself, Text.replaceFrom_self range.token_ne_nil, ih, if_pos rfl]
    · rw [if_neg heq, ← ih]
      rcases hshown range with hnone | hkept
      · exact Text.replaceFrom_append_of_not_prefix
          (fun word hsuffix hword => hnone.not_prefix hsuffix hword hnext) replacement
      · rw [hkept]
        apply Text.replaceFrom_append_of_tail rfl htoken.not_mem_tail
        -- Only one range is found where a token stands.
        rintro ⟨rest, hrest⟩
        have hfound := htoken.rangeAt?_token (expandOnce shown cs)
        rw [← hrest, hnext.rangeAt?_token] at hfound
        exact heq (Option.some.inj hfound).symm

theorem replaceAll_expandOnce (hshown : MayStand shown) (hnext : next.IsToken)
    (hself : shown next = next.token) (replacement cs : List Char) :
    Text.replaceAll next.token replacement (expandOnce shown cs) =
      expandOnce (fun range => if range = next then replacement else shown range) cs := by
  have hne : next.token.isEmpty = false := rfl
  simpa [Text.replaceAll, hne] using replaceFrom_expandOnce hshown hnext hself replacement cs

/-! ## All ranges -/

theorem mayStand_replacedAfter (hshown : ∀ range, HasNoRange (shown range)) (done : List RangeToken) :
    MayStand (replacedAfter RangeToken.token shown done) := by
  intro range
  by_cases hdone : range ∈ done
  · exact Or.inl (by simpa [replacedAfter, hdone] using hshown range)
  · exact Or.inr (by simp [replacedAfter, hdone])

end

theorem RangeToken.expand_hasNoRange (range : RangeToken) (rows columns : Nat) :
    HasNoRange (range.expand rows columns) where
  bracketed := range.expand_bracketed rows columns
  no_colon hmem := by
    rcases mem_commaJoined hmem with hcomma | ⟨text, htext, hc⟩
    · exact absurd hcomma (by decide)
    · rcases List.mem_map.1 htext with ⟨⟨column, row⟩, _, rfl⟩
      simp only [cellToken, List.cons_append, List.append_assoc, List.mem_cons, List.mem_append,
        List.not_mem_nil, or_false] at hc
      rcases hc with hopen | hletter | hdigit | hclose
      · exact absurd hopen (by decide)
      · exact absurd (isAlpha_of_mem_columnLetters _ hletter) (by decide)
      · exact absurd (isDigit_of_mem_toDigits _ hdigit) (by decide)
      · exact absurd hclose (by decide)

/-- Expanding the ranges of an expression one after another is expanding each where it is met, in one pass. -/
theorem expandRanges_eq_expandOnce (grid : Grid) (expression : List Char) :
    expandRanges grid expression =
      expandOnce (fun range => range.expand grid.length grid.width) expression := by
  let shown : RangeToken → List Char := fun range => range.expand grid.length grid.width
  have hshown : ∀ range, HasNoRange (shown range) :=
    fun range => range.expand_hasNoRange grid.length grid.width
  have hnodup : ([] ++ rangeTokens expression).Nodup := nodup_eraseDups _
  have hstart : expandOnce (replacedAfter RangeToken.token shown []) expression = expression := by
    have hsame : replacedAfter RangeToken.token shown [] = RangeToken.token := by
      funext range
      simp [replacedAfter]
    rw [hsame, expandOnce_token_self]
  -- After each replacement the text is what one pass gives that knows the ranges done so far.
  have hfold := foldl_replaceAll_replacedAfter
    (fun shown => expandOnce shown expression) hnodup
    fun before next after hsplit hnew => by
      have hmem : next ∈ rangeTokens expression := by
        rw [← List.nil_append (rangeTokens expression), hsplit]
        simp
      exact replaceAll_expandOnce (mayStand_replacedAfter hshown before)
        (isToken_of_mem_rangeTokens hmem) (by simp [replacedAfter, hnew]) (shown next) expression
  calc
    expandRanges grid expression
      = expandOnce (replacedAfter RangeToken.token shown (rangeTokens expression)) expression := by
        rwa [hstart] at hfold
    _ = expandOnce shown expression :=
        expandOnce_congr fun range hrange => by simp [replacedAfter, hrange]

end SheetMarkup
