import SheetMarkup.Proofs.Expression.Completeness

/-!
# Soundness — only expressions of the grammar are converted

A conversion that goes through descends the grammar: where an operand is due the tokens start with a
signed power, and with an operator after it they start with the repetition it belongs to. The state
after each phrase is known from its derivation, so that the next token decides what comes.

* `Conversion.Accepts`: the remaining tokens bring a conversion to its end
* `Found`: the tokens start with a phrase
* `Repeats.found`: a repetition goes on as far as its operators come
* `foundBelow`: signed powers are found wherever an operand is due
* `toPostfix_postorder`: conversion and grammar agree
-/

namespace SheetMarkup

open Conversion

/-! ## The length of phrases -/

def Category.least : Category → Nat
  | .sums _ | .products _ => 0
  | _ => 1

theorem Derives.length_add_least {c : Category} {input rest : List Token} {tree : Tree}
    (h : Derives c input tree rest) : rest.length + c.least ≤ input.length := by
  induction h <;> simp only [Category.least, List.length_cons] at * <;> omega

/-! ## Accepted tokens -/

/-- The remaining tokens bring a conversion to its end. -/
def Conversion.Accepts (s : Conversion) (input : List Token) : Prop :=
  ∃ instrs, (s.run input).bind Conversion.finish = .ok instrs

theorem Conversion.Accepts.of_run_eq {s s' : Conversion} {input rest : List Token}
    (h : s.Accepts input) (hrun : s.run input = s'.run rest) : s'.Accepts rest := by
  rwa [Accepts, hrun] at h

theorem Conversion.run_name {text : String} {tokens : List Token}
    (h : ∀ more, tokens ≠ .opening :: more) (s : Conversion) :
    s.run (.name text :: tokens) = (s.name text).bind (run · tokens) := by
  rw [Conversion.run]
  exact h

namespace Conversion.Settled

variable {level : Nat} {output : List Instr} {waiting : List Pending} {counts : List Nat}
  {tree : Tree} {s : Conversion} {rest : List Token}

/-- No operand follows a phrase. -/
theorem rest_cases (h : Settled level output waiting counts tree s) (haccepts : s.Accepts rest) :
    rest = [] ∨ (∃ op more, rest = .operator op :: more) ∨ (∃ more, rest = .comma :: more) ∨
      ∃ more, rest = .closing :: more := by
  cases rest with
  | nil => simp
  | cons token more =>
    cases token with
    | number value =>
      simp [Accepts, Conversion.run, Conversion.number, h.operandDue, Except.bind] at haccepts
    | name text =>
      by_cases hopening : ∃ after, more = .opening :: after
      · rcases hopening with ⟨after, rfl⟩
        simp [Accepts, Conversion.run, openCall, h.operandDue, Except.bind] at haccepts
      · -- A name without a parenthesis behind it is an operand too.
        have hmore := not_exists.1 hopening
        simp [Accepts, run_name hmore, Conversion.name, h.operandDue, Except.bind] at haccepts
    | opening =>
      simp [Accepts, Conversion.run, openGroup, h.operandDue, Except.bind] at haccepts
    | _ => simp

/-- A conversion does not end inside parentheses. -/
theorem not_accepts_nil (h : Settled level output waiting counts tree s)
    (hwaiting : Looser 1 waiting) (hne : waiting ≠ []) : ¬ s.Accepts [] := by
  have hrelease := h.releaseAll hwaiting
  rintro ⟨instrs, hinstrs⟩
  cases waiting with
  | nil => exact hne rfl
  | cons top below =>
    simp [Conversion.run, Except.bind, finish, h.operandDue, hrelease] at hinstrs

/-- There is no comma outside the parentheses of a call. -/
theorem not_accepts_comma (h : Settled level output waiting counts tree s)
    (hwaiting : Looser 1 waiting) (hcall : ∀ f below, waiting ≠ .parenthesis :: .call f :: below) :
    ¬ s.Accepts (.comma :: rest) := by
  have hrelease := h.releaseAll hwaiting
  rintro ⟨instrs, hinstrs⟩
  rw [Conversion.run, Conversion.comma, hrelease, h.counts_eq] at hinstrs
  split at hinstrs
  · cases hinstrs
  · split at hinstrs
    · rename_i heq
      exact hcall _ _ (congrArg Prod.fst heq)
    · cases hinstrs
    · cases hinstrs

/-- There is no closing parenthesis outside of parentheses. -/
theorem not_accepts_closing (h : Settled level output [] counts tree s) :
    ¬ s.Accepts (.closing :: rest) := by
  have hrelease := h.releaseAll (looser_nil 1)
  rintro ⟨instrs, hinstrs⟩
  simp [Conversion.run, Conversion.close, h.operandDue, hrelease, Except.bind] at hinstrs

end Conversion.Settled

/-! ## Descending the grammar -/

/-- The tokens start with a phrase and do not go on with it; once it has been read, the tokens after
it are accepted. -/
def Found (c : Category) (level : Nat) (output : List Instr) (waiting : List Pending)
    (counts : List Nat) (input : List Token) : Prop :=
  ∃ tree rest s, Derives c input tree rest ∧ c.Ends rest ∧
    Settled level output waiting counts tree s ∧ s.Accepts rest

theorem Found.mono {c : Category} {level level' : Nat} {output : List Instr} {waiting : List Pending}
    {counts : List Nat} {input : List Token} (h : Found c level output waiting counts input)
    (hlevel : level' ≤ level) : Found c level' output waiting counts input := by
  rcases h with ⟨tree, rest, s, htree, hends, hsettled, haccepts⟩
  exact ⟨tree, rest, s, htree, hends, hsettled.mono hlevel, haccepts⟩

/-- Where an operand is due, inputs shorter than a bound start with a signed power. -/
def FoundBelow (n : Nat) : Prop :=
  ∀ (input : List Token) (output : List Instr) (waiting : List Pending) (counts : List Nat),
    input.length < n → Guarded waiting → 0 ∉ counts →
    Accepts ⟨output, waiting, counts, true⟩ input →
    Found .unary negationLevel output waiting counts input

section Repetitions

variable {n : Nat} {input mid : List Token} {output : List Instr} {waiting : List Pending}
  {counts : List Nat} {left : Tree} {s : Conversion}

/-- A repetition goes on up to the first token that is none of its operators. -/
theorem Repeats.found {repetition : Tree → Category} {part : Category} {belongs : Operator → Prop}
    {level : Nat} (h : Repeats repetition part belongs level) (hmid : mid.length ≤ n)
    (hpart : ∀ op more output, belongs op → more.length < n →
      Accepts ⟨output, .operator op :: waiting, counts, true⟩ more →
      Found part level output (.operator op :: waiting) counts more)
    (hlooser : Looser level waiting) (hends : part.Ends mid)
    (hleft : Settled level output waiting counts left s) (haccepts : s.Accepts mid) :
    Found (repetition left) level output waiting counts mid := by
  -- Behind the operator and its part there is less left than before.
  induction hlength : mid.length using Nat.strongRecOn generalizing mid left s with
  | ind length ih =>
    by_cases hnext : ∃ op more, mid = .operator op :: more ∧ belongs op
    · rcases hnext with ⟨op, more, rfl, hop⟩
      have hlevel := h.level_eq hop
      have hdue := haccepts.of_run_eq (run_operator hleft hlevel (h.ne_power hop) hlooser more)
      rcases hpart op more _ hop hmid hdue with ⟨right, rest, s', hright, hends', hsettled, haccepts'⟩
      have hbinary := hsettled.binary (Nat.le_of_eq hlevel.symm)
      have hshorter := hright.length_add_least
      simp only [List.length_cons] at hmid hlength
      rcases ih rest.length (by omega) (by omega) hends' hbinary haccepts' rfl with
        ⟨tree, rest', s'', hrest, hstops, hreached⟩
      have hstops' := (h.ends_iff (.binary op left right) left).1 hstops
      exact ⟨tree, rest', s'', h.next hop hright hrest, hstops', hreached⟩
    · refine ⟨left, mid, s, h.stop left mid, fun op more heq hcontinues => ?_, hleft, haccepts⟩
      rcases h.continues_iff.1 hcontinues with hop | hpartly
      · exact hnext ⟨op, more, heq, hop⟩
      · exact hends op more heq hpartly

theorem found_term (hunary : FoundBelow n) (hinput : input.length < n) (hguarded : Guarded waiting)
    (hlooser : Looser 2 waiting) (hcounts : 0 ∉ counts)
    (haccepts : Accepts ⟨output, waiting, counts, true⟩ input) :
    Found .term 2 output waiting counts input := by
  rcases hunary input output waiting counts hinput hguarded hcounts haccepts with
    ⟨left, mid, s, hleft, hends, hsettled, haccepts'⟩
  have hshorter := hleft.length_add_least
  have hproducts : Found (.products left) 2 output waiting counts mid := by
    refine repeats_products.found (n := n) (by omega) ?_ hlooser hends (hsettled.mono (by decide))
      haccepts'
    intro op more output _ hmore hdue
    exact (hunary more output _ counts hmore (guarded_cons (by simp) waiting) hcounts hdue).mono
      (by decide)
  rcases hproducts with ⟨tree, rest, s', hmid, hreached⟩
  exact ⟨tree, rest, s', .term hleft hmid, hreached⟩

theorem found_expr (hunary : FoundBelow n) (hinput : input.length < n) (hguarded : Guarded waiting)
    (hlooser : Looser 1 waiting) (hcounts : 0 ∉ counts)
    (haccepts : Accepts ⟨output, waiting, counts, true⟩ input) :
    Found .expr 1 output waiting counts input := by
  rcases found_term hunary hinput hguarded (hlooser.mono (by decide)) hcounts haccepts with
    ⟨left, mid, s, hleft, hends, hsettled, haccepts'⟩
  have hshorter := hleft.length_add_least
  have hsums : Found (.sums left) 1 output waiting counts mid := by
    refine repeats_sums.found (n := n) (by omega) ?_ hlooser hends (hsettled.mono (by decide))
      haccepts'
    intro op more output hop hmore hdue
    have hlevel : op.level < 2 := by simp [hop.level_eq]
    exact (found_term hunary hmore (guarded_cons (by simp) waiting) (looser_operator hlevel waiting)
      hcounts hdue).mono (by decide)
  rcases hsums with ⟨tree, rest, s', hmid, hreached⟩
  exact ⟨tree, rest, s', .expr hleft hmid, hreached⟩

end Repetitions

section Operands

variable {n : Nat} {input : List Token} {output : List Instr} {waiting below : List Pending}
  {counts : List Nat}

/-- Behind the opening parenthesis of a call there are arguments. -/
theorem found_arguments {f : SheetFunction} (done : List Tree) (hunary : FoundBelow n)
    (hinput : input.length < n) (hcounts : 0 ∉ counts)
    (haccepts : Accepts ⟨(postorderAll done).reverse ++ output, .parenthesis :: .call f :: below,
      (done.length + 1) :: counts, true⟩ input) :
    ∃ tree rest, Derives (.arguments f done) input tree rest := by
  induction hlength : input.length using Nat.strongRecOn generalizing input done with
  | ind length ih =>
    have hguarded : Guarded (.parenthesis :: .call f :: below) := guarded_cons (by simp) _
    have hlooser : Looser 1 (.parenthesis :: .call f :: below) := looser_bracket rfl _ 0
    rcases found_expr hunary hinput hguarded hlooser (by simp [hcounts]) haccepts with
      ⟨argument, rest, s, hargument, hends, hsettled, haccepts'⟩
    have hshorter := hargument.length_add_least
    rcases hsettled.rest_cases haccepts' with rfl | ⟨op, more, rfl⟩ | ⟨more, rfl⟩ | ⟨more, rfl⟩
    · exact absurd haccepts' (hsettled.not_accepts_nil hlooser (by simp))
    · exact absurd trivial (hends op more rfl)
    · -- A comma: the call waits for its next argument, with one more behind it.
      simp only [List.length_cons] at hshorter
      have hdue : Accepts ⟨(postorderAll (done ++ [argument])).reverse ++ output,
          .parenthesis :: .call f :: below, ((done ++ [argument]).length + 1) :: counts, true⟩
          more := by
        refine haccepts'.of_run_eq ?_
        simp [Conversion.run, hsettled.comma, Except.bind, postorderAll_append, postorderAll]
      rcases ih more.length (by omega) _ (by omega) hdue rfl with ⟨tree, rest', htree⟩
      exact ⟨tree, rest', .nextArgument hargument htree⟩
    · exact ⟨_, _, .lastArgument hargument⟩

/-- A name where an operand is due stands for a constant, or starts a call. -/
theorem found_name {text : String} {more : List Token} (hunary : FoundBelow n)
    (hmore : more.length < n) (hcounts : 0 ∉ counts)
    (haccepts : Accepts ⟨output, waiting, counts, true⟩ (.name text :: more)) :
    ∃ tree rest, Derives .atom (.name text :: more) tree rest := by
  by_cases hopening : ∃ after, more = .opening :: after
  · rcases hopening with ⟨after, rfl⟩
    cases hname : SheetFunction.find? text with
    | none => simp [Accepts, Conversion.run, openCall, hname, Except.bind] at haccepts
    | some f =>
      by_cases hclosing : ∃ rest, after = .closing :: rest
      · rcases hclosing with ⟨rest, rfl⟩
        exact ⟨_, _, .emptyCall hname⟩
      · have hcloses : startsWithClosing after = false := by
          unfold startsWithClosing
          split
          · exact absurd ⟨_, rfl⟩ hclosing
          · rfl
        have hdue : Accepts ⟨(postorderAll []).reverse ++ output,
            .parenthesis :: .call f :: waiting, 1 :: counts, true⟩ after := by
          refine haccepts.of_run_eq ?_
          simp [Conversion.run, openCall, hname, hcloses, Except.bind, postorderAll]
        simp only [List.length_cons] at hmore
        rcases found_arguments [] hunary (by omega) hcounts hdue with ⟨tree, rest, htree⟩
        exact ⟨tree, rest, .call hname htree⟩
  · have hrest := not_exists.1 hopening
    cases hname : constant? text with
    | none => simp [Accepts, run_name hrest, Conversion.name, hname, Except.bind] at haccepts
    | some value => exact ⟨_, _, .constant hname hrest⟩

/-- Behind an opening parenthesis where an operand is due there is a group. -/
theorem found_group {more : List Token} (hunary : FoundBelow n) (hmore : more.length < n)
    (hguarded : Guarded waiting) (hcounts : 0 ∉ counts)
    (haccepts : Accepts ⟨output, waiting, counts, true⟩ (.opening :: more)) :
    ∃ tree rest, Derives .atom (.opening :: more) tree rest := by
  have hlooser : Looser 1 (.parenthesis :: waiting) := looser_bracket rfl waiting 0
  rcases found_expr hunary hmore (guarded_cons (by simp) waiting) hlooser hcounts haccepts with
    ⟨inner, rest, s, hinner, hends, hsettled, haccepts'⟩
  -- Nothing but the closing parenthesis can stand behind the expression.
  rcases hsettled.rest_cases haccepts' with rfl | ⟨op, after, rfl⟩ | ⟨after, rfl⟩ | ⟨after, rfl⟩
  · exact absurd haccepts' (hsettled.not_accepts_nil hlooser (by simp))
  · exact absurd trivial (hends op after rfl)
  · refine absurd haccepts' (hsettled.not_accepts_comma hlooser ?_)
    rintro f below ⟨⟩
    exact hguarded f below rfl
  · exact ⟨_, _, .group hinner⟩

/-- Where an operand is due and there is no sign, there is an atom. -/
theorem found_atom (hunary : FoundBelow n) (hinput : input.length ≤ n) (hguarded : Guarded waiting)
    (hcounts : 0 ∉ counts) (hsign : ∀ op more, input ≠ .operator op :: more)
    (haccepts : Accepts ⟨output, waiting, counts, true⟩ input) :
    ∃ tree rest, Derives .atom input tree rest := by
  cases input with
  | nil => simp [Accepts, Conversion.run, Except.bind, finish] at haccepts
  | cons token more =>
    cases token with
    | number value => exact ⟨_, _, .number⟩
    | name text => exact found_name hunary hinput hcounts haccepts
    | operator op => exact absurd rfl (hsign op more)
    | opening => exact found_group hunary hinput hguarded hcounts haccepts
    | closing =>
      have hopen : closesEmptyCall ⟨output, waiting, counts, true⟩ = false := by
        cases counts with
        | nil => simp [closesEmptyCall]
        | cons count counts =>
          -- Only a call without arguments would close here, and its counter would be 0.
          have hcount : count ≠ 0 := fun heq => hcounts (heq ▸ List.mem_cons_self)
          simp [closesEmptyCall, hcount]
      simp [Accepts, Conversion.run, Conversion.close, hopen, Except.bind] at haccepts
    | comma => simp [Accepts, Conversion.run, Conversion.comma, Except.bind] at haccepts

/-- Where an operand is due there is a signed power. -/
theorem found_unary (hunary : FoundBelow n) (hinput : input.length ≤ n)
    (hguarded : Guarded waiting) (hcounts : 0 ∉ counts)
    (haccepts : Accepts ⟨output, waiting, counts, true⟩ input) :
    Found .unary negationLevel output waiting counts input := by
  by_cases hsign : ∃ op more, input = .operator op :: more
  · -- Behind a sign there is a signed power again.
    rcases hsign with ⟨op, more, rfl⟩
    cases op with
    | add =>
      rcases hunary more output waiting counts hinput hguarded hcounts haccepts with
        ⟨tree, rest, s, htree, hends, hsettled, haccepts'⟩
      exact ⟨_, rest, s, .plus htree, hends, hsettled.plus, haccepts'⟩
    | subtract =>
      have hguarded' : Guarded (.negation :: waiting) := guarded_cons (by simp) waiting
      rcases hunary more output (.negation :: waiting) counts hinput hguarded' hcounts haccepts with
        ⟨tree, rest, s, htree, hends, hsettled, haccepts'⟩
      exact ⟨_, rest, s, .negate htree, hends, hsettled.negate, haccepts'⟩
    | _ => simp [Accepts, Conversion.run, Conversion.operator, Except.bind] at haccepts
  · have hsign' : ∀ op more, input ≠ .operator op :: more := fun op more heq =>
      hsign ⟨op, more, heq⟩
    rcases found_atom hunary hinput hguarded hcounts hsign' haccepts with ⟨base, rest, hbase⟩
    -- The state behind the atom is known, so the next token tells whether it is a base.
    rcases hbase.converts output waiting counts hguarded with ⟨s, hrun, hsettled⟩
    have haccepts' := haccepts.of_run_eq hrun
    by_cases hpower : ∃ more, rest = .operator .power :: more
    · rcases hpower with ⟨more, rfl⟩
      have hshorter := hbase.length_add_least
      simp only [List.length_cons] at hshorter
      have hguarded' : Guarded (.operator .power :: waiting) := guarded_cons (by simp) waiting
      rcases hunary more _ _ counts (by omega) hguarded' hcounts
        (haccepts'.of_run_eq (run_power hsettled more)) with
        ⟨exponent, rest, s', hexponent, hends, hsettled', hreached⟩
      exact ⟨_, rest, s', .unary (.power hbase hexponent), hends, hsettled'.binary (by decide),
        hreached⟩
    · refine ⟨base, rest, s, .unary (.base hbase), ?_, hsettled.mono (by decide), haccepts'⟩
      rintro op more rfl hop
      cases (show op = .power from hop)
      exact hpower ⟨more, rfl⟩

end Operands

theorem foundBelow (n : Nat) : FoundBelow n := by
  induction n with
  | zero =>
    intro input output waiting counts hinput
    cases hinput
  | succ n ih =>
    intro input output waiting counts hinput hguarded hcounts haccepts
    exact found_unary ih (Nat.le_of_lt_succ hinput) hguarded hcounts haccepts

/-! ## Conversion and grammar -/

/-- What is converted is an expression. -/
theorem derives_of_toPostfix {tokens : List Token} {instrs : List Instr}
    (h : toPostfix tokens = .ok instrs) : ∃ tree, Derives .expr tokens tree [] := by
  have haccepts : Accepts ⟨[], [], [], true⟩ tokens := by
    refine ⟨instrs, ?_⟩
    unfold toPostfix at h
    split at h
    · cases h
    · exact h
  rcases found_expr (foundBelow (tokens.length + 1)) (Nat.lt_succ_self _) guarded_nil
    (looser_nil 1) (by simp) haccepts with ⟨tree, rest, s, htree, hends, hsettled, haccepts'⟩
  -- Nothing is open around the whole expression, so only its end can follow.
  rcases hsettled.rest_cases haccepts' with rfl | ⟨op, more, rfl⟩ | ⟨more, rfl⟩ | ⟨more, rfl⟩
  · exact ⟨tree, htree⟩
  · exact absurd trivial (hends op more rfl)
  · exact absurd haccepts' (hsettled.not_accepts_comma (looser_nil 1) (by simp))
  · exact absurd haccepts' hsettled.not_accepts_closing

/-- Exactly the expressions of the grammar are converted, each to the instructions of its one parse
tree. -/
theorem toPostfix_postorder (tokens : List Token) :
    ((∃ instrs, toPostfix tokens = .ok instrs) ↔ ∃ tree, Derives .expr tokens tree []) ∧
      ∀ instrs, toPostfix tokens = .ok instrs →
        ∃ tree, Derives .expr tokens tree [] ∧ instrs = tree.postorder ∧
          ∀ other, Derives .expr tokens other [] → other = tree := by
  refine ⟨⟨?_, ?_⟩, ?_⟩
  · rintro ⟨instrs, hinstrs⟩
    exact derives_of_toPostfix hinstrs
  · rintro ⟨tree, htree⟩
    exact ⟨tree.postorder, toPostfix_of_derives htree⟩
  · intro instrs hinstrs
    rcases derives_of_toPostfix hinstrs with ⟨tree, htree⟩
    have hpostorder := toPostfix_of_derives htree
    rw [hinstrs] at hpostorder
    cases hpostorder
    have hends : Category.expr.Ends [] := by
      rintro op more ⟨⟩
    refine ⟨tree, htree, rfl, fun other hother => ?_⟩
    exact (hother.readOnce hends htree hends).1

end SheetMarkup
