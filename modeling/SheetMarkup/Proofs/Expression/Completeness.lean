import SheetMarkup.Proofs.Expression.Grammar

/-!
# Completeness — every expression of the grammar is converted

While a phrase is read its operators stay on the stack, above what was waiting before it. They are
released as soon as something looser comes, and then the output has all instructions of the phrase.
How loose it has to be is the level of the category.

* `Pending.level`, `Pending.precedes_iff`: how tight entries bind, and what an operator releases
* `Conversion.Settled`: a state in which a phrase has been read
* `Reads`: a phrase is read from a state on; `Reads.nextOperator`: a repetition by one more operator
* `Category.Converts`: what reading a phrase of a category does to a conversion
* `toPostfix_of_derives`: the instructions of an expression
-/

namespace SheetMarkup

/-! ## Releasing -/

/-- How tight a waiting entry binds; brackets do not bind at all. -/
def Pending.level : Pending → Nat
  | .operator op => op.level
  | .negation => negationLevel
  | .parenthesis | .call _ => 0

theorem Pending.precedes_iff {next : Operator} {entry : Pending} :
    entry.precedes next = true ↔ next ≠ .power ∧ next.level ≤ entry.level := by
  cases entry with
  | operator op => cases op <;> cases next <;> decide
  | negation => cases next <;> decide
  | parenthesis => cases next <;> decide
  | call f => cases next <;> simp [precedes, level, Operator.level]

theorem Pending.instr?_eq_none_iff {entry : Pending} : entry.instr? = none ↔ entry.level < 1 := by
  cases entry with
  | operator op => cases op <;> decide
  | negation => decide
  | parenthesis => decide
  | call f => simp [instr?, level]

namespace Conversion

/-- The entry on top binds less tight than a level. -/
def Looser (level : Nat) (waiting : List Pending) : Prop :=
  ∀ top below, waiting = top :: below → top.level < level

theorem Looser.mono {level level' : Nat} {waiting : List Pending} (h : Looser level waiting)
    (hlevel : level ≤ level') : Looser level' waiting :=
  fun top below heq => Nat.lt_of_lt_of_le (h top below heq) hlevel

/-- Releasing stops at a bracket. -/
theorem releaseWhile_of_bracket {waiting : List Pending} (h : Looser 1 waiting)
    (ready : Pending → Bool) (output : List Instr) :
    releaseWhile ready waiting output = (waiting, output) := by
  cases waiting with
  | nil => rfl
  | cons top below =>
    have hnone := Pending.instr?_eq_none_iff.2 (h top below rfl)
    simp [releaseWhile, hnone]

/-- Releasing stops at an entry that is not ready. -/
theorem releaseWhile_of_not_ready {waiting : List Pending} {ready : Pending → Bool}
    (h : ∀ top below, waiting = top :: below → ready top = false) (output : List Instr) :
    releaseWhile ready waiting output = (waiting, output) := by
  cases waiting with
  | nil => rfl
  | cons top below =>
    unfold releaseWhile
    cases top.instr? with
    | none => rfl
    | some instr => simp [h top below rfl]

theorem releaseWhile_cons {ready : Pending → Bool} {top : Pending} {instr : Instr}
    (hinstr : top.instr? = some instr) (hready : ready top = true) (below : List Pending)
    (output : List Instr) :
    releaseWhile ready (top :: below) output = releaseWhile ready below (instr :: output) := by
  simp [releaseWhile, hinstr, hready]

/-- What is left after releasing is the lower part of the stack. -/
theorem suffix_releaseWhile (ready : Pending → Bool) (waiting : List Pending)
    (output : List Instr) : (releaseWhile ready waiting output).1 <:+ waiting := by
  induction waiting generalizing output with
  | nil => exact List.suffix_refl _
  | cons top below ih =>
    unfold releaseWhile
    split
    · split
      · exact (ih _).trans (List.suffix_cons top below)
      · exact List.suffix_refl _
    · exact List.suffix_refl _

/-! ## Phrases that have been read -/

/-- A phrase has been read: what waits above the entries from before it, as tight as a level, comes
out as the instructions of the phrase. -/
structure Settled (level : Nat) (output : List Instr) (waiting : List Pending) (counts : List Nat)
    (tree : Tree) (s : Conversion) : Prop where
  operandDue : s.operandDue = false
  counts_eq : s.counts = counts
  release : ∀ ready : Pending → Bool, (∀ entry : Pending, level ≤ entry.level → ready entry = true) →
    releaseWhile ready s.waiting s.output =
      releaseWhile ready waiting (tree.postorder.reverse ++ output)

variable {level : Nat} {output : List Instr} {waiting : List Pending} {counts : List Nat}
  {tree left right : Tree} {op : Operator} {s s' : Conversion}

theorem Settled.mono {level' : Nat} (h : Settled level output waiting counts tree s)
    (hlevel : level' ≤ level) : Settled level' output waiting counts tree s where
  operandDue := h.operandDue
  counts_eq := h.counts_eq
  release ready hready :=
    h.release ready fun entry hentry => hready entry (Nat.le_trans hlevel hentry)

/-- An atom leaves nothing waiting. -/
theorem Settled.atom (level : Nat) (output : List Instr) (waiting : List Pending)
    (counts : List Nat) (tree : Tree) :
    Settled level output waiting counts tree
      ⟨tree.postorder.reverse ++ output, waiting, counts, false⟩ :=
  ⟨rfl, rfl, fun _ _ => rfl⟩

theorem Settled.negate (h : Settled negationLevel output (.negation :: waiting) counts tree s) :
    Settled negationLevel output waiting counts (.negate tree) s where
  operandDue := h.operandDue
  counts_eq := h.counts_eq
  release ready hready := by
    have hnegation : ready .negation = true := hready .negation (Nat.le_refl _)
    rw [h.release ready hready, releaseWhile_cons rfl hnegation]
    simp [Tree.postorder]

theorem Settled.plus (h : Settled level output waiting counts tree s) :
    Settled level output waiting counts (.plus tree) s where
  operandDue := h.operandDue
  counts_eq := h.counts_eq
  release ready hready := by
    rw [h.release ready hready]
    simp [Tree.postorder]

/-- A right operand that has been read completes the operation. -/
theorem Settled.binary (h : Settled level (left.postorder.reverse ++ output)
      (.operator op :: waiting) counts right s) (hlevel : level ≤ op.level) :
    Settled level output waiting counts (.binary op left right) s where
  operandDue := h.operandDue
  counts_eq := h.counts_eq
  release ready hready := by
    have hop : ready (.operator op) = true := hready (.operator op) hlevel
    rw [h.release ready hready, releaseWhile_cons rfl hop]
    simp [Tree.postorder]

/-- An operator that is looser than a phrase releases it, and nothing from before. -/
theorem Settled.operator (h : Settled level output waiting counts tree s)
    (hreleases : ∀ entry : Pending, level ≤ entry.level → entry.precedes op = true)
    (hstays : ∀ top below, waiting = top :: below → top.precedes op = false) :
    s.operator op =
      .ok ⟨tree.postorder.reverse ++ output, .operator op :: waiting, counts, true⟩ := by
  -- All of the phrase is released, and then the first entry from before stays.
  have hrelease := h.release (Pending.precedes op) hreleases
  rw [releaseWhile_of_not_ready hstays] at hrelease
  simp [Conversion.operator, h.operandDue, hrelease, h.counts_eq]

theorem Settled.releaseAll (h : Settled level output waiting counts tree s)
    (hwaiting : Looser 1 waiting) :
    releaseWhile (fun _ => true) s.waiting s.output =
      (waiting, tree.postorder.reverse ++ output) := by
  rw [h.release (fun _ => true) fun _ _ => rfl, releaseWhile_of_bracket hwaiting]

theorem looser_bracket {top : Pending} (htop : top.level = 0) (below : List Pending) (level : Nat) :
    Looser (level + 1) (top :: below) := by
  rintro _ _ ⟨⟩
  omega

theorem looser_operator {op : Operator} {level : Nat} (hlevel : op.level < level)
    (below : List Pending) : Looser level (.operator op :: below) := by
  rintro _ _ ⟨⟩
  exact hlevel

theorem looser_nil (level : Nat) : Looser level [] := by
  rintro _ _ ⟨⟩

/-- A comma ends an argument. -/
theorem Settled.comma {f : SheetFunction} {below : List Pending} {count : Nat}
    (h : Settled level output (.parenthesis :: .call f :: below) (count :: counts) tree s) :
    s.comma = .ok ⟨tree.postorder.reverse ++ output, .parenthesis :: .call f :: below,
      (count + 1) :: counts, true⟩ := by
  have hrelease := h.releaseAll (looser_bracket rfl _ 0)
  -- The parenthesis of the call is still below what the argument left waiting.
  have hmem : Pending.parenthesis ∈ s.waiting := by
    have hsuffix := suffix_releaseWhile (fun _ => true) s.waiting s.output
    rw [hrelease] at hsuffix
    exact hsuffix.subset List.mem_cons_self
  simp [Conversion.comma, h.operandDue, hmem, hrelease, h.counts_eq]

/-- A closing parenthesis ends the last argument of a call. -/
theorem Settled.closeCall {f : SheetFunction} {below : List Pending} {count : Nat}
    (h : Settled level output (.parenthesis :: .call f :: below) (count :: counts) tree s) :
    s.close = .ok ⟨.call f count :: (tree.postorder.reverse ++ output), below, counts, false⟩ := by
  have hrelease := h.releaseAll (looser_bracket rfl _ 0)
  simp [Conversion.close, h.operandDue, hrelease, h.counts_eq]

/-- A call is never on top, its parenthesis is. -/
def Guarded (waiting : List Pending) : Prop :=
  ∀ f below, waiting ≠ .call f :: below

theorem guarded_nil : Guarded [] := by
  rintro _ _ ⟨⟩

theorem guarded_cons {top : Pending} (h : ∀ f, top ≠ .call f) (below : List Pending) :
    Guarded (top :: below) := by
  rintro f _ ⟨⟩
  exact h f rfl

/-- A closing parenthesis ends a group. -/
theorem Settled.closeGroup (h : Settled level output (.parenthesis :: waiting) counts tree s)
    (hguarded : Guarded waiting) :
    s.close = .ok ⟨tree.postorder.reverse ++ output, waiting, counts, false⟩ := by
  have hrelease := h.releaseAll (looser_bracket rfl _ 0)
  unfold Conversion.close
  simp only [h.operandDue, hrelease, h.counts_eq, Bool.false_and]
  cases waiting with
  | nil => rfl
  | cons top below =>
    cases top with
    | call f => exact absurd rfl (hguarded f below)
    | _ => rfl

end Conversion

/-! ## Runs -/

open Conversion

/-- From a state on, some tokens are read as a phrase. -/
def Reads (s : Conversion) (level : Nat) (output : List Instr) (waiting : List Pending)
    (counts : List Nat) (input : List Token) (tree : Tree) (rest : List Token) : Prop :=
  ∃ s', s.run input = s'.run rest ∧ Settled level output waiting counts tree s'

/-- An operator of a repetition takes what has been read of it as its left operand. -/
theorem run_operator {level : Nat} {output : List Instr} {waiting : List Pending}
    {counts : List Nat} {left : Tree} {s : Conversion} {op : Operator}
    (h : Settled level output waiting counts left s) (hlevel : op.level = level)
    (hop : op ≠ .power) (hlooser : Looser level waiting) (tokens : List Token) :
    s.run (.operator op :: tokens) = Conversion.run
      ⟨left.postorder.reverse ++ output, .operator op :: waiting, counts, true⟩ tokens := by
  have hstep : s.operator op = .ok ⟨left.postorder.reverse ++ output, .operator op :: waiting,
      counts, true⟩ := by
    apply h.operator
    · intro entry hentry
      exact Pending.precedes_iff.2 ⟨hop, hlevel ▸ hentry⟩
    · intro top below heq
      rw [Bool.eq_false_iff]
      intro hprecedes
      -- An entry that binds less tight than the operator does not come before it.
      have hle := (Pending.precedes_iff.1 hprecedes).2
      have hlt := hlooser top below heq
      omega
  simp [Conversion.run, hstep, Except.bind]

/-- A power operator releases nothing. -/
theorem run_power {output : List Instr} {waiting : List Pending} {counts : List Nat} {base : Tree}
    {s : Conversion} (h : Settled 5 output waiting counts base s) (tokens : List Token) :
    s.run (.operator .power :: tokens) = Conversion.run
      ⟨base.postorder.reverse ++ output, .operator .power :: waiting, counts, true⟩ tokens := by
  have hstays : ∀ entry : Pending, entry.precedes .power = false := by
    intro entry
    rw [Bool.eq_false_iff]
    intro hprecedes
    exact (Pending.precedes_iff.1 hprecedes).1 rfl
  have htop : ∀ entry : Pending, ¬ 5 ≤ entry.level := by
    intro entry
    cases entry with
    | operator op => cases op <;> decide
    | negation => decide
    | parenthesis => decide
    | call f => simp [Pending.level]
  have hstep : s.operator .power = .ok ⟨base.postorder.reverse ++ output,
      .operator .power :: waiting, counts, true⟩ :=
    h.operator (fun entry hentry => absurd hentry (htop entry)) fun top _ _ => hstays top
  simp [Conversion.run, hstep, Except.bind]

/-! ## How phrases are put together -/

namespace Reads

variable {level : Nat} {output : List Instr} {waiting : List Pending} {counts : List Nat}
  {input mid rest : List Token} {left right tree : Tree} {op : Operator} {f : SheetFunction}
  {name : String} {s : Conversion}

theorem mono {level' : Nat} (h : Reads s level output waiting counts input tree rest)
    (hlevel : level' ≤ level) : Reads s level' output waiting counts input tree rest := by
  rcases h with ⟨s', hrun, hsettled⟩
  exact ⟨s', hrun, hsettled.mono hlevel⟩

/-- A repetition goes on where its first part ends. -/
theorem andThen (hfirst : Reads s level output waiting counts input left mid)
    (hmore : ∀ s', Settled level output waiting counts left s' →
      Reads s' level output waiting counts mid tree rest) :
    Reads s level output waiting counts input tree rest := by
  rcases hfirst with ⟨s', hrun, hleft⟩
  rcases hmore s' hleft with ⟨s'', hrun', hsettled⟩
  exact ⟨s'', hrun.trans hrun', hsettled⟩

/-- One more operator of a repetition waits on top of what was there, and is released with its right
operand. -/
theorem nextOperator (hleft : Settled level output waiting counts left s) (hlevel : op.level = level)
    (hop : op ≠ .power) (hlooser : Looser level waiting)
    (hright : Reads ⟨left.postorder.reverse ++ output, .operator op :: waiting, counts, true⟩ level
      (left.postorder.reverse ++ output) (.operator op :: waiting) counts input right mid)
    (hmore : ∀ s', Settled level output waiting counts (.binary op left right) s' →
      Reads s' level output waiting counts mid tree rest) :
    Reads s level output waiting counts (.operator op :: input) tree rest := by
  rcases hright with ⟨s', hrun, hsettled⟩
  rcases hmore s' (hsettled.binary (Nat.le_of_eq hlevel.symm)) with ⟨s'', hrun', hlast⟩
  refine ⟨s'', ?_, hlast⟩
  calc
    s.run (.operator op :: input) = Conversion.run ⟨left.postorder.reverse ++ output,
        .operator op :: waiting, counts, true⟩ input :=
      run_operator hleft hlevel hop hlooser input
    _ = s'.run mid := hrun
    _ = s''.run rest := hrun'

/-- An exponent waits on top of its base, whatever stands below. -/
theorem power (hbase : Reads s 5 output waiting counts input left (.operator .power :: mid))
    (hexponent : Reads ⟨left.postorder.reverse ++ output, .operator .power :: waiting, counts, true⟩
      negationLevel (left.postorder.reverse ++ output) (.operator .power :: waiting) counts mid right
      rest) :
    Reads s negationLevel output waiting counts input (.binary .power left right) rest := by
  rcases hbase with ⟨s', hrun, hsettled⟩
  rcases hexponent with ⟨s'', hrun', hsettled'⟩
  refine ⟨s'', ?_, hsettled'.binary (by decide)⟩
  calc
    s.run input = s'.run (.operator .power :: mid) := hrun
    _ = Conversion.run ⟨left.postorder.reverse ++ output, .operator .power :: waiting, counts,
        true⟩ mid := run_power hsettled mid
    _ = s''.run rest := hrun'

theorem constant {value : Float} (hname : constant? name = some value)
    (hrest : ∀ more, rest ≠ .opening :: more) :
    Reads ⟨output, waiting, counts, true⟩ 5 output waiting counts (.name name :: rest)
      (.constant value) rest := by
  refine ⟨_, ?_, Settled.atom 5 output waiting counts (.constant value)⟩
  rw [Conversion.run]
  · simp [Conversion.name, hname, Except.bind, Conversion.operand, Tree.postorder]
  · exact hrest

theorem emptyCall (hname : SheetFunction.find? name = some f) :
    Reads ⟨output, waiting, counts, true⟩ 5 output waiting counts
      (.name name :: .opening :: .closing :: rest) (.call f []) rest := by
  refine ⟨_, ?_, Settled.atom 5 output waiting counts (.call f [])⟩
  simp [Conversion.run, openCall, hname, startsWithClosing, Except.bind, Conversion.close,
    closesEmptyCall, releaseWhile, Pending.instr?, Tree.postorder, postorderAll]

theorem call (hname : SheetFunction.find? name = some f) (hcloses : startsWithClosing input = false)
    (harguments : Reads ⟨output, .parenthesis :: .call f :: waiting, 1 :: counts, true⟩ 5 output
      waiting counts input tree rest) :
    Reads ⟨output, waiting, counts, true⟩ 5 output waiting counts (.name name :: .opening :: input)
      tree rest := by
  rcases harguments with ⟨s, hrun, hsettled⟩
  refine ⟨s, ?_, hsettled⟩
  rw [← hrun]
  simp [Conversion.run, openCall, hname, hcloses, Except.bind]

section Arguments

variable {done : List Tree}

/-- A comma counts an argument, and the next one starts behind it. -/
theorem nextArgument (hargument : Reads s level ((postorderAll done).reverse ++ output)
      (.parenthesis :: .call f :: waiting) ((done.length + 1) :: counts) input left (.comma :: mid))
    (hmore : Reads ⟨(postorderAll (done ++ [left])).reverse ++ output,
      .parenthesis :: .call f :: waiting, ((done ++ [left]).length + 1) :: counts, true⟩ 5 output
      waiting counts mid tree rest) :
    Reads s 5 output waiting counts input tree rest := by
  rcases hargument with ⟨s', hrun, hsettled⟩
  rcases hmore with ⟨s'', hrun', hsettled'⟩
  refine ⟨s'', ?_, hsettled'⟩
  rw [hrun, ← hrun']
  simp [Conversion.run, hsettled.comma, Except.bind, postorderAll_append, postorderAll]

theorem lastArgument (hargument : Reads s level ((postorderAll done).reverse ++ output)
      (.parenthesis :: .call f :: waiting) ((done.length + 1) :: counts) input left
      (.closing :: rest)) :
    Reads s 5 output waiting counts input (.call f (done ++ [left])) rest := by
  rcases hargument with ⟨s', hrun, hsettled⟩
  refine ⟨_, ?_, Settled.atom 5 output waiting counts (.call f (done ++ [left]))⟩
  rw [hrun]
  simp [Conversion.run, hsettled.closeCall, Except.bind, Tree.postorder, postorderAll_append,
    postorderAll]

end Arguments

theorem group (hguarded : Guarded waiting)
    (hinner : Reads ⟨output, .parenthesis :: waiting, counts, true⟩ level output
      (.parenthesis :: waiting) counts input tree (.closing :: rest)) :
    Reads ⟨output, waiting, counts, true⟩ 5 output waiting counts (.opening :: input) (.group tree)
      rest := by
  rcases hinner with ⟨s, hrun, hsettled⟩
  refine ⟨_, ?_, Settled.atom 5 output waiting counts (.group tree)⟩
  calc
    Conversion.run ⟨output, waiting, counts, true⟩ (.opening :: input) =
        Conversion.run ⟨output, .parenthesis :: waiting, counts, true⟩ input := rfl
    _ = s.run (.closing :: rest) := hrun
    _ = Conversion.run ⟨(Tree.group tree).postorder.reverse ++ output, waiting, counts, false⟩
        rest := by
      simp [Conversion.run, hsettled.closeGroup hguarded, Except.bind, Tree.postorder]

end Reads

/-! ## Derivations as runs -/

/-- What reading a phrase does to a conversion. A repetition goes on from a state in which its first
part has been read; nothing from before is released by its operators. -/
def Category.Converts : Category → List Token → Tree → List Token → Prop
  | .expr, input, tree, rest => ∀ output waiting counts, Guarded waiting → Looser 1 waiting →
    Reads ⟨output, waiting, counts, true⟩ 1 output waiting counts input tree rest
  | .sums left, input, tree, rest => ∀ output waiting counts s, Looser 1 waiting →
    Settled 1 output waiting counts left s →
    Reads s 1 output waiting counts input tree rest
  | .term, input, tree, rest => ∀ output waiting counts, Guarded waiting → Looser 2 waiting →
    Reads ⟨output, waiting, counts, true⟩ 2 output waiting counts input tree rest
  | .products left, input, tree, rest => ∀ output waiting counts s, Looser 2 waiting →
    Settled 2 output waiting counts left s →
    Reads s 2 output waiting counts input tree rest
  | .unary, input, tree, rest | .power, input, tree, rest => ∀ output waiting counts,
    Guarded waiting →
    Reads ⟨output, waiting, counts, true⟩ negationLevel output waiting counts input tree rest
  | .atom, input, tree, rest => ∀ output waiting counts, Guarded waiting →
    Reads ⟨output, waiting, counts, true⟩ 5 output waiting counts input tree rest
  | .arguments f done, input, tree, rest => ∀ output below counts, Guarded below →
    Reads ⟨(postorderAll done).reverse ++ output, .parenthesis :: .call f :: below,
      (done.length + 1) :: counts, true⟩ 5 output below counts input tree rest

/-- Arguments do not start with a closing parenthesis, so their call is not an empty one. -/
theorem Derives.startsWithClosing_eq_false {f : SheetFunction} {done : List Tree}
    {input rest : List Token} {tree : Tree} (h : Derives (.arguments f done) input tree rest) :
    startsWithClosing input = false := by
  cases input with
  | nil => rfl
  | cons token more =>
    cases token with
    | closing =>
      rcases h.tail_of_closing with ⟨left, hc | hc⟩ <;> cases hc
    | _ => rfl

/-- Every phrase that is derived is read. -/
theorem Derives.converts {c : Category} {input rest : List Token} {tree : Tree}
    (h : Derives c input tree rest) : c.Converts input tree rest := by
  induction h with
  | expr hterm hsums ihterm ihsums =>
    intro output waiting counts hguarded hlooser
    -- What waits for a sum binds less tight than a sum, and so than a term.
    have hfirst := ihterm output waiting counts hguarded (hlooser.mono (by decide))
    exact (hfirst.mono (by decide)).andThen fun s hleft => ihsums output waiting counts s hlooser hleft
  | term hunary hproducts ihunary ihproducts =>
    intro output waiting counts hguarded hlooser
    have hfirst := ihunary output waiting counts hguarded
    exact (hfirst.mono (by decide)).andThen fun s hleft =>
      ihproducts output waiting counts s hlooser hleft
  | sumsEnd | productsEnd =>
    intro output waiting counts s _ hleft
    exact ⟨s, rfl, hleft⟩
  | sumsNext hop hterm hsums ihterm ihsums =>
    rename_i op left right tree
    intro output waiting counts s hlooser hleft
    have hright := ihterm (left.postorder.reverse ++ output) (.operator op :: waiting) counts
      (guarded_cons (by simp) waiting) (looser_operator (by simp [hop.level_eq]) waiting)
    exact Reads.nextOperator hleft hop.level_eq hop.ne_power hlooser (hright.mono (by decide))
      fun s' hbinary => ihsums output waiting counts s' hlooser hbinary
  | productsNext hop hunary hproducts ihunary ihproducts =>
    rename_i op left right tree
    intro output waiting counts s hlooser hleft
    have hright := ihunary (left.postorder.reverse ++ output) (.operator op :: waiting) counts
      (guarded_cons (by simp) waiting)
    exact Reads.nextOperator hleft hop.level_eq hop.ne_power hlooser (hright.mono (by decide))
      fun s' hbinary => ihproducts output waiting counts s' hlooser hbinary
  | negate hunary ih =>
    intro output waiting counts hguarded
    rcases ih output (.negation :: waiting) counts (guarded_cons (by simp) waiting) with
      ⟨s, hrun, hsettled⟩
    exact ⟨s, hrun, hsettled.negate⟩
  | plus hunary ih =>
    intro output waiting counts hguarded
    rcases ih output waiting counts hguarded with ⟨s, hrun, hsettled⟩
    exact ⟨s, hrun, hsettled.plus⟩
  | unary hpower ih => exact ih
  | base hatom ih =>
    intro output waiting counts hguarded
    exact (ih output waiting counts hguarded).mono (by decide)
  | power hatom hunary ihatom ihunary =>
    intro output waiting counts hguarded
    exact (ihatom output waiting counts hguarded).power
      (ihunary _ (.operator .power :: waiting) counts (guarded_cons (by simp) waiting))
  | number =>
    intro output waiting counts _
    exact ⟨_, rfl, Settled.atom 5 output waiting counts (.number _)⟩
  | constant hname hopening =>
    intro output waiting counts _
    exact Reads.constant hname hopening
  | call hname harguments ih =>
    intro output waiting counts hguarded
    exact Reads.call hname harguments.startsWithClosing_eq_false (ih output waiting counts hguarded)
  | emptyCall hname =>
    intro output waiting counts _
    exact Reads.emptyCall hname
  | nextArgument hexpr harguments ihexpr iharguments =>
    intro output below counts hguarded
    refine Reads.nextArgument (ihexpr _ _ _ ?_ ?_) (iharguments output below counts hguarded)
    · exact guarded_cons (by simp) _
    · exact looser_bracket rfl _ 0
  | lastArgument hexpr ih =>
    intro output below counts hguarded
    refine Reads.lastArgument (ih _ _ _ ?_ ?_)
    · exact guarded_cons (by simp) _
    · exact looser_bracket rfl _ 0
  | group hexpr ih =>
    intro output waiting counts hguarded
    exact Reads.group hguarded
      (ih output (.parenthesis :: waiting) counts (guarded_cons (by simp) waiting)
        (looser_bracket rfl waiting 0))

/-- The instructions of an expression are those of its tree. -/
theorem toPostfix_of_derives {tokens : List Token} {tree : Tree}
    (h : Derives .expr tokens tree []) : toPostfix tokens = .ok tree.postorder := by
  rcases h.converts [] [] [] guarded_nil (looser_nil 1) with ⟨s, hrun, hsettled⟩
  have hrelease := hsettled.releaseAll (looser_nil 1)
  have hne : tokens.isEmpty = false := by
    cases tokens with
    | nil =>
      cases hrun
      cases hsettled.operandDue
    | cons token tokens => rfl
  unfold toPostfix
  rw [hne, show Conversion.start.run tokens = .ok s from hrun]
  simp [Except.bind, finish, hsettled.operandDue, hrelease]

example (a b c : Float) :
    toPostfix [.number a, .operator .power, .operator .subtract, .number b, .operator .multiply,
        .number c] =
      .ok [.push a, .push b, .negate, .binary .power, .push c, .binary .multiply] :=
  rfl

end SheetMarkup
