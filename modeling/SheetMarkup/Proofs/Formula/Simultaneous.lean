import SheetMarkup.Proofs.Formula.Operands

/-!
# Simultaneous substitution — when one after another is all at once

References are replaced one after another, each wherever its token stands in the text as the others have
left it. Its token may stand in more places by then than in the expression: in the text of a cell, or where
such a text meets its neighbours. Unless that happens, the result is that of replacing all references at
once, and the order in which they are replaced does not matter.

* `StandsAlone`: a token stands only in the places of its own reference
* `Uncaptured`: so does each token when its turn comes
* `foldl_replaceAll_eq_fill`: then all references are replaced at once
* `standsAlone_of_no_bracket`: no token arises where no bracket opens
* `Resolver.substitute_eq_fill`: what substitution gives, and when it is simultaneous
-/

namespace SheetMarkup

variable {value shown : Corner → List Char} {ps : List Piece} {cs : List Char}

/-! ## Places of a token -/

/-- In the text of pieces, the token of a reference starts only where one of its own pieces does: at no
character that stays, and nowhere in what stands for another reference. -/
def StandsAlone (shown : Corner → List Char) (next : Corner) : List Piece → Prop
  | [] => True
  | .char c :: ps => ¬ next.token <+: c :: fill shown ps ∧ StandsAlone shown next ps
  | .reference corner :: ps =>
    (corner ≠ next → ∀ word, word <:+ shown corner → word ≠ [] →
      ¬ next.token <+: word ++ fill shown ps) ∧ StandsAlone shown next ps

/-- Each reference of a list stands alone when those before it have been replaced. -/
def Uncaptured (value : Corner → List Char) (order : List Corner) (ps : List Piece) : Prop :=
  ∀ before next after, order = before ++ next :: after →
    StandsAlone (shownAfter value before) next ps

/-- The token of a reference that stands alone is replaced in the places of its own pieces. -/
theorem replaceAll_of_standsAlone {next : Corner} (hshown : shown next = next.token)
    (h : StandsAlone shown next ps) (replacement : List Char) :
    Text.replaceAll next.token replacement (fill shown ps) =
      fill (fun corner => if corner = next then replacement else shown corner) ps := by
  have hne : next.token.isEmpty = false := by simp [Corner.token]
  rw [Text.replaceAll, hne]
  simp only [Bool.false_eq_true, if_false]
  induction ps with
  | nil => rfl
  | cons p ps ih =>
    cases p with
    | char c =>
      have hhere : next.token.isPrefixOf (c :: fill shown ps) = false := by
        rw [Bool.eq_false_iff, ne_eq, List.isPrefixOf_iff_prefix]
        exact h.1
      simp [fill, Text.replaceFrom, hhere, ih h.2]
    | reference corner =>
      by_cases heq : corner = next
      · subst heq
        rw [fill, fill, hshown, Text.replaceFrom_self corner.token_ne_nil, ih h.2, if_pos rfl]
      · rw [fill, fill, Text.replaceFrom_append_of_not_prefix (h.1 heq), ih h.2, if_neg heq]

/-! ## All references -/

/-- References that stand alone at their turn are all replaced at once, whatever the order. -/
theorem foldl_replaceAll_eq_fill {order : List Corner} (hnodup : order.Nodup)
    (hall : ∀ corner, .reference corner ∈ pieces cs → corner ∈ order)
    (h : Uncaptured value order (pieces cs)) :
    order.foldl (fun text reference => Text.replaceAll reference.token (value reference) text) cs =
      fill value (pieces cs) := by
  have hstart : fill (shownAfter value []) (pieces cs) = cs := by
    calc
      fill (shownAfter value []) (pieces cs) = fill Corner.token (pieces cs) :=
        fill_congr fun corner _ => by simp [shownAfter]
      _ = cs := (reading_pieces cs).fill_token
  have hend : fill (shownAfter value order) (pieces cs) = fill value (pieces cs) :=
    fill_congr fun corner hmem => by simp [shownAfter, hall corner hmem]
  have hnodup' : ([] ++ order).Nodup := hnodup
  have hfold : order.foldl
      (fun text reference => Text.replaceAll reference.token (value reference) text)
      (fill (shownAfter value []) (pieces cs)) = fill (shownAfter value order) (pieces cs) :=
    foldl_replaceAll_replacedAfter (fun shown => fill shown (pieces cs)) hnodup'
      fun before next after hsplit hnew =>
        replaceAll_of_standsAlone (if_neg hnew) (h before next after hsplit) (value next)
  rwa [hstart, hend] at hfold

/-! ## Brackets -/

/-- Where no bracket opens but those of references, tokens stand in the places of their references. -/
theorem standsAlone_of_no_bracket {next : Corner} {done : List Corner} (hnext : next.IsToken)
    (htokens : ∀ corner, .reference corner ∈ ps → corner.IsToken)
    (hvalues : ∀ corner ∈ done, '[' ∉ value corner) (hchars : .char '[' ∉ ps) :
    StandsAlone (shownAfter value done) next ps := by
  have hstart : ∀ text, next.token <+: text → text.head? = some '[' := by
    rintro _ ⟨rest, rfl⟩
    rfl
  induction ps with
  | nil => trivial
  | cons p ps ih =>
    have hrest := ih (fun corner hmem => htokens corner (List.mem_cons_of_mem p hmem))
      fun hmem => hchars (List.mem_cons_of_mem p hmem)
    cases p with
    | char c =>
      refine ⟨fun hprefix => ?_, hrest⟩
      -- A token begins with a bracket, and none of the characters between the tokens is one.
      cases hstart _ hprefix
      exact hchars List.mem_cons_self
    | reference corner =>
      refine ⟨fun hne word hsuffix hword hprefix => ?_, hrest⟩
      rcases List.exists_cons_of_ne_nil hword with ⟨c, rest, rfl⟩
      cases hstart _ hprefix
      by_cases hdone : corner ∈ done
      · rw [shownAfter, if_pos hdone] at hsuffix
        exact hvalues corner hdone (hsuffix.subset List.mem_cons_self)
      · rw [shownAfter, if_neg hdone] at hsuffix
        have htoken := htokens corner List.mem_cons_self
        rcases List.suffix_cons_iff.1 hsuffix with heq | hinner
        · -- A bracket that opens a token opens one token only.
          have hfound := referenceAt?_token htoken (fill (shownAfter value done) ps)
          have heq' : corner.token = '[' :: rest := heq.symm
          rcases hprefix with ⟨after, hafter⟩
          rw [heq', ← hafter, referenceAt?_token hnext] at hfound
          exact hne (Option.some.inj hfound).symm
        · exact htoken.not_mem_tail (hinner.subset List.mem_cons_self)

/-! ## Substitution -/

namespace Resolver

variable {r : Resolver} {descend : Descent} {chain : List String} {todo : List Corner}
  {grid last : Grid}

theorem Resolves.congr {value' : Corner → List Char}
    (h : r.Resolves descend chain value todo grid last)
    (hvalue : ∀ corner ∈ todo, value corner = value' corner) :
    r.Resolves descend chain value' todo grid last := by
  induction h with
  | nil => exact Resolves.nil _
  | cons hfollow _ ih =>
    rename_i corner rest grid next last _
    rw [hvalue corner List.mem_cons_self] at hfollow
    exact Resolves.cons hfollow (ih fun other hother => hvalue other (List.mem_cons_of_mem _ hother))

/-- Where substitution succeeds each reference has a value, and is replaced by it in its turn. -/
theorem exists_resolves {text : List Char} {todo : List Corner} {grid : Grid} (hnodup : todo.Nodup)
    (h : r.substitute descend chain todo cs grid = (.ok text, last)) :
    ∃ value, r.Resolves descend chain value todo grid last ∧
      text = todo.foldl
        (fun text reference => Text.replaceAll reference.token (value reference) text) cs := by
  induction todo generalizing cs grid with
  | nil =>
    cases h
    exact ⟨fun _ => [], Resolves.nil _, rfl⟩
  | cons reference todo ih =>
    rcases List.nodup_cons.1 hnodup with ⟨hnot, hnodup'⟩
    simp only [substitute] at h
    split at h
    · cases h
    · rename_i found next hfollow
      rcases ih hnodup' h with ⟨value, hresolves, htext⟩
      -- The reference is not among the rest, so giving it its value leaves theirs as they are.
      have hsame : ∀ corner ∈ todo,
          (if corner = reference then found.toList else value corner) = value corner := by
        intro corner hcorner
        have hne : corner ≠ reference := by
          rintro rfl
          exact hnot hcorner
        simp [hne]
      refine ⟨fun corner => if corner = reference then found.toList else value corner,
        Resolves.cons (by simpa using hfollow)
          (hresolves.congr fun corner hcorner => (hsame corner hcorner).symm), ?_⟩
      simp only [htext, List.foldl_cons, if_true]
      refine List.foldl_ext _ _ _ fun text corner hcorner => ?_
      rw [hsame corner hcorner]

/-- What substitution gives where it succeeds. The references are replaced by their values one after
another, in order of first occurrence. If the token of each stands alone at its turn, that is the
expression with all of them replaced at once. If no value has an opening bracket and each one in the
expression is that of a reference, they may be replaced in any order. -/
theorem substitute_eq_fill (r : Resolver) (descend : Descent) (chain : List String)
    (expression text : List Char) (grid last : Grid)
    (h : r.substitute descend chain (references expression) expression grid = (.ok text, last)) :
    ∃ value, r.Resolves descend chain value (references expression) grid last ∧
      text = (references expression).foldl
        (fun text reference => Text.replaceAll reference.token (value reference) text) expression ∧
      (Uncaptured value (references expression) (pieces expression) →
        text = fill value (pieces expression)) ∧
      ((∀ reference ∈ references expression, '[' ∉ value reference) →
        .char '[' ∉ pieces expression →
        ∀ order : List Corner, order.Perm (references expression) →
          order.foldl
            (fun text reference => Text.replaceAll reference.token (value reference) text)
            expression = fill value (pieces expression)) := by
  have hnodup : (references expression).Nodup := nodup_eraseDups _
  have hreading := reading_pieces expression
  rcases exists_resolves hnodup h with ⟨value, hresolves, htext⟩
  refine ⟨value, hresolves, htext, fun huncaptured => ?_, fun hvalues hchars order horder => ?_⟩
  · rw [htext]
    exact foldl_replaceAll_eq_fill hnodup (fun _ => hreading.mem_references) huncaptured
  · refine foldl_replaceAll_eq_fill (horder.nodup_iff.2 hnodup)
      (fun corner hmem => horder.mem_iff.2 (hreading.mem_references hmem)) ?_
    rintro before next after rfl
    have hmem : ∀ corner ∈ before ++ next :: after, corner ∈ references expression :=
      fun corner hcorner => horder.mem_iff.1 hcorner
    apply standsAlone_of_no_bracket
    · exact isToken_of_mem_references (hmem next (by simp))
    · exact fun corner hcorner => isToken_of_mem_references (hreading.mem_references hcorner)
    · exact fun corner hcorner => hvalues corner (hmem corner (by simp [hcorner]))
    · exact hchars

/-- A value that is the token of a reference in the other case is not taken for that reference. -/
theorem substitute_eq_fill_of_otherCase :
    let r := Resolver.mk arithmetic 256
    let expression := "[A1]+[B1]".toList
    let grid : Grid := [["[b1]", "5"]]
    r.substitute (r.descend 256) [] (references expression) expression grid =
        (.ok "[b1]+5".toList, grid) ∧
      ∃ value, r.Resolves (r.descend 256) [] value (references expression) grid grid ∧
        Uncaptured value (references expression) (pieces expression) ∧
        "[b1]+5".toList = fill value (pieces expression) := by
  intro r expression grid
  have hreferences : references expression = [⟨['A'], ['1']⟩, ⟨['B'], ['1']⟩] := by decide +kernel
  have hpieces : pieces expression =
      [.reference ⟨['A'], ['1']⟩, .char '+', .reference ⟨['B'], ['1']⟩] := by decide +kernel
  have hsubstitute : r.substitute (r.descend 256) [] (references expression) expression grid =
      (.ok "[b1]+5".toList, grid) :=
    Prod.ext (eq_ok_of_toOption (by decide +kernel)) (by decide +kernel)
  rcases substitute_eq_fill r _ [] expression _ grid grid hsubstitute with
    ⟨value, hresolves, _, hfill, _⟩
  have hvalue : value ⟨['A'], ['1']⟩ = "[b1]".toList := by
    have hresolves' := hresolves
    rw [hreferences] at hresolves'
    cases hresolves' with
    | cons hfollow _ =>
      have houtcome : (r.follow (r.descend 256) [] ⟨['A'], ['1']⟩ grid).outcome = .ok "[b1]" :=
        eq_ok_of_toOption (by decide +kernel)
      rw [hfollow] at houtcome
      simpa using congrArg String.toList (Except.ok.inj houtcome)
  have huncaptured : Uncaptured value (references expression) (pieces expression) := by
    rw [hreferences, hpieces]
    intro before next after hsplit
    rcases before with _ | ⟨first, _ | ⟨second, before⟩⟩
    · cases hsplit
      simp [StandsAlone, fill, shownAfter, Corner.token, List.suffix_cons_iff]
    · cases hsplit
      simp [StandsAlone, fill, shownAfter, Corner.token, List.suffix_cons_iff, hvalue]
    · simp at hsplit
  exact ⟨hsubstitute, value, hresolves, huncaptured, hfill huncaptured⟩

/-- A value that is the token of a later reference is replaced in its turn, and so is one that becomes such a
token between its neighbours. In both cases replacing all at once gives another text. -/
theorem not_simultaneous_of_token_in_value :
    let r := Resolver.mk arithmetic 256
    let grid (first : String) : Grid := [[first, "5"]]
    let value (first : String) (corner : Corner) : List Char :=
      if corner = ⟨['A'], ['1']⟩ then first.toList else "5".toList
    let expression := "[A1]+[B1]".toList
    let joined := "[[A1]1]+[B1]".toList
    (r.Resolves (r.descend 256) [] (value "[B1]") (references expression) (grid "[B1]") (grid "[B1]") ∧
      (r.substitute (r.descend 256) [] (references expression) expression (grid "[B1]")).1 =
        .ok "5+5".toList ∧
      fill (value "[B1]") (pieces expression) = "[B1]+5".toList) ∧
    r.Resolves (r.descend 256) [] (value "B") (references joined) (grid "B") (grid "B") ∧
      (r.substitute (r.descend 256) [] (references joined) joined (grid "B")).1 =
        .ok "5+5".toList ∧
      fill (value "B") (pieces joined) = "[B1]+5".toList := by
  intro r grid value expression joined
  have hreferences : references expression = [⟨['A'], ['1']⟩, ⟨['B'], ['1']⟩] := by decide +kernel
  have hreferences' : references joined = [⟨['A'], ['1']⟩, ⟨['B'], ['1']⟩] := by decide +kernel
  have hresolves : ∀ first ∈ ["[B1]", "B"], r.Resolves (r.descend 256) [] (value first)
      [⟨['A'], ['1']⟩, ⟨['B'], ['1']⟩] (grid first) (grid first) := by
    intro first hfirst
    refine .of_follow ?_ ?_ (.of_follow ?_ ?_ (.nil _))
    all_goals
      revert first
      decide +kernel
  refine ⟨⟨?_, eq_ok_of_toOption (by decide +kernel), by decide +kernel⟩,
    ?_, eq_ok_of_toOption (by decide +kernel), by decide +kernel⟩
  · rw [hreferences]
    exact hresolves "[B1]" (by simp)
  · rw [hreferences']
    exact hresolves "B" (by simp)

end Resolver
end SheetMarkup
