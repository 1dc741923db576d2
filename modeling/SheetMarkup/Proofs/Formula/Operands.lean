import SheetMarkup.Proofs.Expression.Enclosed
import SheetMarkup.Proofs.Expression.Reasons
import SheetMarkup.Proofs.Formula.Descent
import SheetMarkup.Proofs.Formula.Pieces

/-!
# Operands — the value of a reference as one operand

References are replaced as text, so the value of a reference meets the characters that stand next to the
reference. Where they do not run into each other the tokens are those of the expression with the values
in parentheses, apart from the parentheses, and both expressions have the same answer.

* `enclosed`: values in parentheses
* `not_isBlank_of_mem_prepare`: there are no blanks in an expression whose references are replaced
* `tokensFrom_fill`: the tokens of a filled expression and of the enclosed one
* `resolve_enclosed`: both have the same answer
-/

namespace SheetMarkup

def enclosed (value : Corner → List Char) (corner : Corner) : List Char :=
  '(' :: value corner ++ [')']

/-! ## Blanks -/

theorem not_isBlank_of_isPrinted {c : Char} (h : IsPrinted c) : Text.isBlank c = false := by
  have hprinted := h.1
  have hbasic := h.2
  exact not_isBlank_of_toNat (by omega) (by omega)

/-- There are no blanks in an expression whose references are replaced. -/
theorem not_isBlank_of_mem_prepare {grid : Grid} {formula expression : List Char}
    (h : prepare grid formula = .ok expression) : ∀ c ∈ expression, Text.isBlank c = false := by
  rw [eq_of_prepare h]
  refine expandRanges_induction (motive := fun text => ∀ c ∈ text, Text.isBlank c = false) ?_ ?_
  · intro range text htext c hc
    rcases Text.mem_replaceAll hc with hmem | hmem
    · exact not_isBlank_of_isPrinted (range.isPrinted_of_mem_expand _ _ c hmem)
    · exact htext c hmem
  · intro c hc
    simpa using (List.mem_filter.1 hc).2

theorem Reading.mem_of_char {cs : List Char} {ps : List Piece} (h : Reading cs ps) {c : Char}
    (hmem : .char c ∈ ps) : c ∈ cs := by
  induction h with
  | nil => cases hmem
  | char _ _ ih =>
    rcases List.mem_cons.1 hmem with hhead | hrest
    · cases hhead
      exact List.mem_cons_self
    · exact List.mem_cons_of_mem _ (ih hrest)
  | reference _ _ ih =>
    rcases List.mem_cons.1 hmem with hhead | hrest
    · cases hhead
    · exact List.mem_append_right _ (ih hrest)

/-! ## Tokens of runs -/

theorem tokensFrom_covered (word cs : List Char) :
    tokensFrom word.length (word ++ cs) = tokensFrom 0 cs := by
  induction word with
  | nil => rfl
  | cons c word ih => exact ih

theorem not_isBlank_of_isLiteralChar {c : Char} (h : Decimal.isLiteralChar c = true) :
    Text.isBlank c = false := by
  apply not_isBlank_of_isPrinted
  simp only [Decimal.isLiteralChar, Bool.or_eq_true, beq_iff_eq] at h
  rcases h with hdigit | rfl
  · have hnat := toNat_of_isDigit hdigit
    exact ⟨by omega, by omega⟩
  · exact ⟨by decide, by decide⟩

/-- A literal is one token, unless it goes on. -/
theorem tokensFrom_literal {c : Char} {run cs : List Char} (hc : Decimal.isLiteralChar c = true)
    (hrun : ∀ d ∈ run, Decimal.isLiteralChar d = true)
    (hcs : ∀ d ∈ cs.head?, Decimal.isLiteralChar d = false) :
    tokensFrom 0 (c :: (run ++ cs)) =
      match Decimal.readLiteral (c :: run) with
      | some x => (tokensFrom 0 cs).map (.number x :: ·)
      | none => .error (.unexpectedToken (String.ofList (c :: run))) := by
  have hmore := (takeWhile_append_of_forall hrun hcs).1
  rw [tokensFrom, if_neg (by simp [not_isBlank_of_isLiteralChar hc]), if_pos hc]
  cases hread : Decimal.readLiteral (c :: run) with
  | none => simp only [hmore, hread]
  | some x => simp only [hmore, hread, tokensFrom_covered]

/-- A name is one token, unless it goes on. -/
theorem tokensFrom_name {c : Char} {run cs : List Char} (hblank : Text.isBlank c = false)
    (hliteral : Decimal.isLiteralChar c = false) (hc : isNameStart c = true)
    (hrun : ∀ d ∈ run, isNameChar d = true) (hcs : ∀ d ∈ cs.head?, isNameChar d = false) :
    tokensFrom 0 (c :: (run ++ cs)) =
      (tokensFrom 0 cs).map (.name (String.ofList (c :: run)) :: ·) := by
  have hmore := (takeWhile_append_of_forall hrun hcs).1
  rw [tokensFrom, if_neg (by simp [hblank]), if_neg (by simp [hliteral]), if_pos hc]
  simp only [hmore, tokensFrom_covered]

theorem tokensFrom_punctuation {c : Char} (hblank : Text.isBlank c = false)
    (hliteral : Decimal.isLiteralChar c = false) (hname : isNameStart c = false) (cs : List Char) :
    tokensFrom 0 (c :: cs) =
      match punctuation? c with
      | some token => (tokensFrom 0 cs).map (token :: ·)
      | none => .error (.unexpectedToken (String.singleton c)) := by
  cases htoken : punctuation? c with
  | none => simp [tokensFrom, hblank, hliteral, hname, htoken]
  | some token => simp [tokensFrom, hblank, hliteral, hname, htoken]

/-! ## Tokens of filled expressions -/

variable {value : Corner → List Char} {ps : List Piece}

theorem joins_of_isLiteralChar {c : Char} (h : Decimal.isLiteralChar c = true) : joins c = true := by
  simp [joins, h]

theorem joins_of_isNameChar {c : Char} (h : isNameChar c = true) : joins c = true := by
  simp [joins, h]

theorem isNameChar_of_isNameStart {c : Char} (h : isNameStart c = true) : isNameChar c = true := by
  simp only [isNameStart, Bool.or_eq_true] at h
  rcases h with hletter | hunderscore
  · simp [isNameChar, hletter]
  · simp [isNameChar, hunderscore]

/-- Characters that belong to one token are followed by something else than a reference. -/
theorem exists_run {belongs : Char → Bool} (hjoins : ∀ {c}, belongs c = true → joins c = true) {c : Char}
    (hc : belongs c = true) (hchain : (.char c :: ps).IsChain (Apart value)) :
    ∃ (run : List Char) (rest : List Piece), ps = run.map Piece.char ++ rest ∧
      (∀ d ∈ run, belongs d = true) ∧ (∀ p ∈ rest.head?, ∃ d, p = .char d ∧ belongs d = false) := by
  induction ps generalizing c with
  | nil => exact ⟨[], [], rfl, by simp, by simp⟩
  | cons p ps ih =>
    rcases List.isChain_cons_cons.1 hchain with ⟨hnext, hrest⟩
    cases p with
    | reference corner =>
      rw [Apart, hjoins hc] at hnext
      cases hnext
    | char d =>
      cases hd : belongs d with
      | false => exact ⟨[], .char d :: ps, rfl, by simp, by simp [hd]⟩
      | true =>
        rcases ih hd hrest with ⟨run, rest, rfl, hrun, hhead⟩
        refine ⟨d :: run, rest, rfl, ?_, hhead⟩
        intro e he
        rcases List.mem_cons.1 he with rfl | he
        · exact hd
        · exact hrun e he

theorem fill_map_char (shown : Corner → List Char) (run : List Char) (rest : List Piece) :
    fill shown (run.map Piece.char ++ rest) = run ++ fill shown rest := by
  induction run with
  | nil => rfl
  | cons c run ih => simp [fill, ih]

theorem head?_fill {belongs : Char → Bool} {rest : List Piece}
    (hhead : ∀ p ∈ rest.head?, ∃ d, p = .char d ∧ belongs d = false) (shown : Corner → List Char) :
    ∀ d ∈ (fill shown rest).head?, belongs d = false := by
  cases rest with
  | nil => simp [fill]
  | cons p rest =>
    rcases hhead p (by simp) with ⟨d, rfl, hd⟩
    simpa [fill] using hd

theorem opens_of_punctuation? {c : Char} {t : Token} (h : punctuation? c = some t)
    (hc : c ≠ ')') : t.opens = true := by
  unfold punctuation? at h
  split at h
  · cases h
    rfl
  · exact absurd rfl hc
  · cases h
    rfl
  · rcases Option.map_eq_some_iff.1 h with ⟨op, _, rfl⟩
    rfl

theorem eq_of_punctuation?_power {c : Char} (h : punctuation? c = some (.operator .power)) :
    c = '^' := by
  unfold punctuation? at h
  split at h
  · cases h
  · cases h
  · cases h
  · rcases Option.map_eq_some_iff.1 h with ⟨op, hop, heq⟩
    cases heq
    unfold Operator.ofChar? at hop
    split at hop
    all_goals first | rfl | cases hop

/-- Tokens that go on with a power come from a text that does. -/
theorem noPower_of_tokensFrom {cs : List Char} {tokens : List Token}
    (h : tokensFrom 0 cs = .ok tokens)
    (hcs : ∀ c ∈ cs.head?, Text.isBlank c = false ∧ c ≠ '^') : NoPower tokens := by
  -- Each branch reads a first token, and what follows it has no part in this.
  have hmap : ∀ {t : Token} {result : Except ExpressionError (List Token)},
      t ≠ .operator .power → result.map (t :: ·) = .ok tokens → NoPower tokens := by
    intro t result ht hresult
    cases result with
    | error error => cases hresult
    | ok ts =>
      cases hresult
      rintro rest ⟨⟩
      exact ht rfl
  cases cs with
  | nil =>
    cases h
    rintro _ ⟨⟩
  | cons c cs =>
    rcases hcs c rfl with ⟨hblank, hc⟩
    rw [tokensFrom, if_neg (by simp [hblank])] at h
    split at h
    · dsimp only at h
      split at h
      · exact hmap (by simp) h
      · cases h
    · split at h
      · exact hmap (by simp) h
      · split at h
        · rename_i t ht
          refine hmap ?_ h
          rintro rfl
          exact hc (eq_of_punctuation?_power ht)
        · cases h

/-- The same error, or tokens that differ in parentheses around operands. -/
inductive EnclosedTokens (due : Bool) :
    Except ExpressionError (List Token) → Except ExpressionError (List Token) → Prop where
  | error (error : ExpressionError) : EnclosedTokens due (.error error) (.error error)
  | ok {tokens others : List Token} : Enclosed due tokens others →
      EnclosedTokens due (.ok tokens) (.ok others)

theorem EnclosedTokens.token {due : Bool} {result other : Except ExpressionError (List Token)}
    (t : Token) (h : EnclosedTokens t.opens result other) :
    EnclosedTokens due (result.map (t :: ·)) (other.map (t :: ·)) := by
  cases h with
  | error error => exact EnclosedTokens.error error
  | ok h => exact EnclosedTokens.ok (.token t h)

def numeralTokens (negative : Bool) (x : Float) : List Token :=
  if negative then [.operator .subtract, .number x] else [.number x]

/-- A numeral is one token, and another one for its sign. -/
theorem tokensFrom_numeral {negative : Bool} {body : List Char} {x : Float} (hne : body ≠ [])
    (hbody : ∀ c ∈ body, Decimal.isLiteralChar c = true) (hread : Decimal.readLiteral body = some x)
    {cs : List Char} (hcs : ∀ c ∈ cs.head?, Decimal.isLiteralChar c = false) :
    tokensFrom 0 (Decimal.withSign negative body ++ cs) =
      (tokensFrom 0 cs).map (numeralTokens negative x ++ ·) := by
  have hliteral : tokensFrom 0 (body ++ cs) = (tokensFrom 0 cs).map (.number x :: ·) := by
    rcases List.exists_cons_of_ne_nil hne with ⟨c, run, rfl⟩
    rw [List.cons_append, tokensFrom_literal (hbody c List.mem_cons_self)
      (fun d hd => hbody d (List.mem_cons_of_mem c hd)) hcs, hread]
  cases negative with
  | false => exact hliteral
  | true =>
    have hminus : tokensFrom 0 ('-' :: (body ++ cs)) =
        (tokensFrom 0 (body ++ cs)).map (.operator .subtract :: ·) :=
      tokensFrom_punctuation (by decide) (by decide) (by decide) (body ++ cs)
    calc
      tokensFrom 0 ('-' :: (body ++ cs))
          = ((tokensFrom 0 cs).map (.number x :: ·)).map (.operator .subtract :: ·) := by
            rw [hminus, hliteral]
      _ = (tokensFrom 0 cs).map (numeralTokens true x ++ ·) := by
            cases tokensFrom 0 cs <;> rfl

/-- A numeral and the numeral in parentheses, where an operand is due. -/
theorem EnclosedTokens.numeral {negative : Bool} {result other : Except ExpressionError (List Token)}
    (x : Float) (hpower : negative = true → ∀ tokens, result = .ok tokens → NoPower tokens)
    (h : EnclosedTokens false result other) :
    EnclosedTokens true (result.map (numeralTokens negative x ++ ·))
      (((other.map (.closing :: ·)).map (numeralTokens negative x ++ ·)).map (.opening :: ·)) := by
  cases h with
  | error error => exact EnclosedTokens.error error
  | ok h =>
    cases negative with
    | false => exact EnclosedTokens.ok (.number x h)
    | true => exact EnclosedTokens.ok (.negative x (hpower rfl _ rfl) h)

/-- Pieces of an expression whose references may be replaced by numerals. -/
structure Fillable (value : Corner → List Char) (ps : List Piece) : Prop where
  apart : ps.IsChain (Apart value)
  not_blank : ∀ c, .char c ∈ ps → Text.isBlank c = false
  numerals : ∀ corner, .reference corner ∈ ps → IsNumeral (value corner)

theorem Fillable.of_append {front : List Piece} (h : Fillable value (front ++ ps)) :
    Fillable value ps where
  apart := h.apart.right_of_append
  not_blank c hmem := h.not_blank c (List.mem_append_right front hmem)
  numerals corner hmem := h.numerals corner (List.mem_append_right front hmem)

theorem Fillable.tail {p : Piece} (h : Fillable value (p :: ps)) : Fillable value ps :=
  (show Fillable value ([p] ++ ps) from h).of_append

/-- Behind a reference there is no number and no other reference. -/
theorem Fillable.behind_reference {corner : Corner} (h : Fillable value (.reference corner :: ps)) :
    ∀ p ∈ ps.head?, ∃ d, p = .char d ∧ Decimal.isLiteralChar d = false := by
  intro p hp
  have happart := h.apart.rel_head? hp
  cases p with
  | reference other => cases happart
  | char d => exact ⟨d, rfl, happart.1⟩

/-- Behind a reference with a negative value there is no power. -/
theorem Fillable.noPower {corner : Corner} {tokens : List Token}
    (h : Fillable value (.reference corner :: ps)) (hminus : (value corner).head? = some '-')
    (htokens : tokensFrom 0 (fill value ps) = .ok tokens) : NoPower tokens := by
  refine noPower_of_tokensFrom htokens fun c hc => ?_
  cases ps with
  | nil => cases hc
  | cons p ps =>
    have happart := h.apart.rel_head? rfl
    cases p with
    | reference other => cases happart
    | char d =>
      cases hc
      exact ⟨h.not_blank c (by simp), happart.2 hminus⟩

variable {due : Bool}

/-- The tokens of a filled text, and those of the text with the values in parentheses. -/
def ComparesTokens (value : Corner → List Char) (due : Bool) (ps : List Piece) : Prop :=
  EnclosedTokens due (tokensFrom 0 (fill value ps)) (tokensFrom 0 (fill (enclosed value) ps))

theorem ComparesTokens.literal {c : Char} {run : List Char} (hc : Decimal.isLiteralChar c = true)
    (hrun : ∀ d ∈ run, Decimal.isLiteralChar d = true)
    (hhead : ∀ p ∈ ps.head?, ∃ d, p = .char d ∧ Decimal.isLiteralChar d = false)
    (h : ComparesTokens value false ps) :
    ComparesTokens value due (.char c :: (run.map Piece.char ++ ps)) := by
  unfold ComparesTokens
  rw [fill, fill, fill_map_char, fill_map_char,
    tokensFrom_literal hc hrun (head?_fill hhead value),
    tokensFrom_literal hc hrun (head?_fill hhead (enclosed value))]
  cases Decimal.readLiteral (c :: run) with
  | none => exact EnclosedTokens.error _
  | some x => exact EnclosedTokens.token (.number x) h

theorem ComparesTokens.name {c : Char} {run : List Char} (hblank : Text.isBlank c = false)
    (hliteral : Decimal.isLiteralChar c = false) (hc : isNameStart c = true)
    (hrun : ∀ d ∈ run, isNameChar d = true)
    (hhead : ∀ p ∈ ps.head?, ∃ d, p = .char d ∧ isNameChar d = false)
    (h : ComparesTokens value false ps) :
    ComparesTokens value due (.char c :: (run.map Piece.char ++ ps)) := by
  unfold ComparesTokens
  rw [fill, fill, fill_map_char, fill_map_char,
    tokensFrom_name hblank hliteral hc hrun (head?_fill hhead value),
    tokensFrom_name hblank hliteral hc hrun (head?_fill hhead (enclosed value))]
  exact EnclosedTokens.token (.name _) h

theorem ComparesTokens.punctuation {c : Char} (hblank : Text.isBlank c = false)
    (hliteral : Decimal.isLiteralChar c = false) (hname : isNameStart c = false)
    (h : ∀ t, punctuation? c = some t → ComparesTokens value t.opens ps) :
    ComparesTokens value due (.char c :: ps) := by
  unfold ComparesTokens
  rw [fill, fill, tokensFrom_punctuation hblank hliteral hname,
    tokensFrom_punctuation hblank hliteral hname]
  cases hp : punctuation? c with
  | none => exact EnclosedTokens.error _
  | some t => exact EnclosedTokens.token t (h t hp)

theorem ComparesTokens.reference {corner : Corner} (hfillable : Fillable value (.reference corner :: ps))
    (h : ComparesTokens value false ps) : ComparesTokens value true (.reference corner :: ps) := by
  rcases (hfillable.numerals corner List.mem_cons_self).literal with
    ⟨negative, body, x, hvalue, hne, hbody, hread⟩
  -- A power would come before the sign, but not before a sign in parentheses.
  have hpower : negative = true → ∀ tokens, tokensFrom 0 (fill value ps) = .ok tokens →
      NoPower tokens := by
    rintro rfl tokens htokens
    exact hfillable.noPower (by rw [hvalue]; rfl) htokens
  have hclose : tokensFrom 0 (')' :: fill (enclosed value) ps) =
      (tokensFrom 0 (fill (enclosed value) ps)).map (.closing :: ·) :=
    tokensFrom_punctuation (by decide) (by decide) (by decide) _
  have hopen : tokensFrom 0
      ('(' :: (Decimal.withSign negative body ++ ')' :: fill (enclosed value) ps)) =
      (tokensFrom 0 (Decimal.withSign negative body ++ ')' :: fill (enclosed value) ps)).map
        (.opening :: ·) :=
    tokensFrom_punctuation (by decide) (by decide) (by decide) _
  have hend : ∀ d ∈ (')' :: fill (enclosed value) ps).head?, Decimal.isLiteralChar d = false := by
    rintro d ⟨⟩
    decide
  have hfill : fill (enclosed value) (.reference corner :: ps) =
      '(' :: (Decimal.withSign negative body ++ ')' :: fill (enclosed value) ps) := by
    simp [fill, enclosed, hvalue]
  unfold ComparesTokens
  rw [hfill, hopen, tokensFrom_numeral hne hbody hread hend, hclose, fill, hvalue,
    tokensFrom_numeral hne hbody hread (head?_fill hfillable.behind_reference value)]
  exact EnclosedTokens.numeral x hpower h

/-- The tokens of a filled expression are those of the enclosed one, but for the parentheses. -/
theorem tokensFrom_fill (h : Fillable value ps)
    (hdue : ∀ corner, ps.head? = some (.reference corner) → due = true) :
    ComparesTokens value due ps := by
  -- A literal or a name takes several pieces at once, so the induction is on their number.
  generalize hlength : ps.length = n
  induction n using Nat.strongRecOn generalizing ps due with
  | ind n ih =>
    -- What stands behind a literal or a name is no reference, so no operand need be due there.
    have hbehind : ∀ (c : Char) (run : List Char) (rest : List Piece) (belongs : Char → Bool),
        ps = .char c :: (run.map Piece.char ++ rest) →
        (∀ p ∈ rest.head?, ∃ d, p = .char d ∧ belongs d = false) → ComparesTokens value false rest := by
      rintro c run rest belongs rfl hhead
      refine ih rest.length ?_ h.tail.of_append ?_ rfl
      · simp only [List.length_cons, List.length_append] at hlength
        omega
      · intro corner hcorner
        rcases hhead _ hcorner with ⟨d, hd, _⟩
        cases hd
    cases ps with
    | nil => exact EnclosedTokens.ok (.nil due)
    | cons p ps =>
      have hshorter : ps.length < n := by
        simp only [List.length_cons] at hlength
        omega
      cases p with
      | reference corner =>
        cases hdue corner rfl
        refine ComparesTokens.reference h (ih ps.length hshorter h.tail ?_ rfl)
        intro other hother
        rcases h.behind_reference _ hother with ⟨d, hd, _⟩
        cases hd
      | char c =>
        have hc := h.not_blank c List.mem_cons_self
        cases hliteral : Decimal.isLiteralChar c with
        | true =>
          rcases exists_run joins_of_isLiteralChar hliteral h.apart with
            ⟨run, rest, rfl, hrun, hhead⟩
          exact ComparesTokens.literal hliteral hrun hhead (hbehind c run rest _ rfl hhead)
        | false =>
          cases hname : isNameStart c with
          | true =>
            rcases exists_run joins_of_isNameChar (isNameChar_of_isNameStart hname) h.apart with
              ⟨run, rest, rfl, hrun, hhead⟩
            exact ComparesTokens.name hc hliteral hname hrun hhead (hbehind c run rest _ rfl hhead)
          | false =>
            refine ComparesTokens.punctuation hc hliteral hname fun t hp => ?_
            refine ih ps.length hshorter h.tail ?_ rfl
            intro corner hhead
            -- A reference does not follow a closing parenthesis, so an operand is due.
            apply opens_of_punctuation? hp
            rintro rfl
            cases h.apart.rel_head? hhead

/-! ## Answers -/

theorem EnclosedTokens.toPostfix_eq {result other : Except ExpressionError (List Token)}
    (h : EnclosedTokens true result other) : result.bind toPostfix = other.bind toPostfix := by
  cases h with
  | error error => rfl
  | ok h => exact toPostfix_enclosed h

theorem arithmetic_congr {expression other : String}
    (h : (tokenize expression).bind toPostfix = (tokenize other).bind toPostfix) :
    arithmetic expression = arithmetic other := by
  have hnumber : ∀ text, evaluateNumber text = ((tokenize text).bind toPostfix).bind fun instrs =>
      (runPostfix instrs).bind fun value =>
        if value.number.isFinite then .ok value.number else .error .notFinite := by
    intro text
    cases htokens : tokenize text with
    | error error => simp [evaluateNumber, htokens, bind, Except.bind]
    | ok tokens => simp [evaluateNumber, htokens, bind, Except.bind]
  rw [arithmetic, hnumber, h, ← hnumber, arithmetic]

/-- A filled expression and the enclosed one have the same answer. -/
theorem arithmetic_fill (h : Fillable value ps) :
    arithmetic (String.ofList (fill value ps)) =
      arithmetic (String.ofList (fill (enclosed value) ps)) := by
  apply arithmetic_congr
  rw [tokenize, tokenize, String.toList_ofList, String.toList_ofList]
  exact (tokensFrom_fill h fun _ _ => rfl).toPostfix_eq

namespace Resolver

/-- Where the values of all references are numerals and stay apart from what stands next to the
references, the answer to a formula is that to the expression with all values in parentheses. -/
theorem resolve_enclosed (maxDepth : Nat) (chain : List String) (content : String)
    (formula expression : List Char) (grid last : Grid) (value : Corner → List Char)
    (hformula : formula? content = some formula) (hprepare : prepare grid formula = .ok expression)
    (hresolves : (Resolver.mk arithmetic maxDepth).Resolves
      ((Resolver.mk arithmetic maxDepth).descend (maxDepth - chain.length)) chain value
      (references expression) grid last)
    (hnumerals : ∀ corner ∈ references expression, IsNumeral (value corner))
    (hapart : (pieces expression).IsChain (Apart value)) :
    let r := Resolver.mk arithmetic maxDepth
    r.substitute (r.descend (maxDepth - chain.length)) chain (references expression) expression grid =
        (.ok (fill value (pieces expression)), last) ∧
      arithmetic (String.ofList (fill value (pieces expression))) =
        arithmetic (String.ofList (fill (enclosed value) (pieces expression))) ∧
      (r.resolve chain content grid).outcome =
        r.compute (fill (enclosed value) (pieces expression)) := by
  intro r
  have hreading := reading_pieces expression
  have hfillable : Fillable value (pieces expression) := by
    refine ⟨hapart, ?_, ?_⟩
    · intro c hmem
      exact not_isBlank_of_mem_prepare hprepare c (hreading.mem_of_char hmem)
    · intro corner hmem
      exact hnumerals corner (hreading.mem_references hmem)
  have hsubstitute := substitute_fill hresolves hnumerals hapart
  have harithmetic := arithmetic_fill hfillable
  refine ⟨hsubstitute, harithmetic, ?_⟩
  rw [r.resolve_of_prepared chain hformula hprepare, hsubstitute]
  simp only [compute, r, harithmetic]

/-! Evaluations on fixed formulas, where the results are compared as options. -/

/-- A reference to a cell that holds its value already. -/
theorem Resolves.of_follow {r : Resolver} {descend : Descent} {chain : List String}
    {value : Corner → List Char} {corner : Corner} {rest : List Corner} {grid last : Grid}
    (hvalue : (r.follow descend chain corner grid).outcome.toOption =
      some (String.ofList (value corner)))
    (hgrid : (r.follow descend chain corner grid).grid = grid)
    (hrest : r.Resolves descend chain value rest grid last) :
    r.Resolves descend chain value (corner :: rest) grid last := by
  refine .cons ?_ hrest
  have houtcome := eq_ok_of_toOption hvalue
  cases hfollow : r.follow descend chain corner grid with
  | mk outcome next =>
    rw [hfollow] at houtcome hgrid
    cases houtcome
    cases hgrid
    rfl

def sampleValue (corner : Corner) : List Char :=
  if corner.letters = ['A'] then "-3".toList else "1.5".toList

theorem isNumeral_sampleValue (corner : Corner) : IsNumeral (sampleValue corner) := by
  unfold sampleValue
  split
  · exact ⟨true, ['3'], [], rfl, by simp, by simp, Or.inl rfl⟩
  · exact ⟨false, ['1'], ['.', '5'], rfl, by simp, by simp, Or.inr ⟨['5'], rfl, by simp, by simp⟩⟩

theorem resolve_enclosed_sample :
    ((Resolver.mk arithmetic 256).resolve [] "=2 - [A1]*[b1]" [["-3", "1.5"]]).outcome =
      (Resolver.mk arithmetic 256).compute "2-(-3)*(1.5)".toList := by
  have hreferences : references "2-[A1]*[b1]".toList = [⟨['A'], ['1']⟩, ⟨['b'], ['1']⟩] := by
    decide +kernel
  have hfill : fill (enclosed sampleValue) (pieces "2-[A1]*[b1]".toList) = "2-(-3)*(1.5)".toList := by
    decide +kernel
  have hprepare : prepare [["-3", "1.5"]] "2 - [A1]*[b1]".toList = .ok "2-[A1]*[b1]".toList :=
    eq_ok_of_toOption (by decide +kernel)
  have hresolves : (Resolver.mk arithmetic 256).Resolves ((Resolver.mk arithmetic 256).descend 256)
      [] sampleValue (references "2-[A1]*[b1]".toList) [["-3", "1.5"]] [["-3", "1.5"]] := by
    rw [hreferences]
    refine .of_follow ?_ ?_ (.of_follow ?_ ?_ (.nil _))
    all_goals decide +kernel
  have hresult := (resolve_enclosed 256 [] "=2 - [A1]*[b1]" "2 - [A1]*[b1]".toList
    "2-[A1]*[b1]".toList [["-3", "1.5"]] [["-3", "1.5"]] sampleValue (by decide) hprepare hresolves
    (fun corner _ => isNumeral_sampleValue corner) (by decide +kernel)).2.2
  rw [hfill] at hresult
  exact hresult

/-- The value −3 is not one operand next to a number, a name or another reference, or behind a
parenthesis: with and without parentheses around it the answers differ. In front of a power it is not
one either, since the sign is applied behind the power. -/
theorem not_enclosed_of_joined :
    let r := Resolver.mk arithmetic 256
    let value : Corner → List Char := fun _ => "-3".toList
    let grid : Grid := [["-3"]]
    (∀ corner, IsNumeral (value corner)) ∧
      (∀ texts ∈ [("2[A1]", "2[A1]"), ("[A1]2", "[A1]2"), ("abs[A1]", "abs[A1]"),
          ("(1)[A1]", "(1)[A1]"), ("[A1] [A1]", "[A1][A1]")],
        let expression := texts.2.toList
        prepare grid texts.1.toList = .ok expression ∧
          r.Resolves (r.descend 256) [] value (references expression) grid grid ∧
          (r.substitute (r.descend 256) [] (references expression) expression grid).1 =
            .ok (fill value (pieces expression)) ∧
          arithmetic (String.ofList (fill value (pieces expression))) ≠
            arithmetic (String.ofList (fill (enclosed value) (pieces expression)))) ∧
      (tokenize (String.ofList (fill value (pieces "[A1]^2".toList)))).bind toPostfix =
        .ok [.push 3.0, .push 2.0, .binary .power, .negate] ∧
      (tokenize (String.ofList (fill (enclosed value) (pieces "[A1]^2".toList)))).bind toPostfix =
        .ok [.push 3.0, .negate, .push 2.0, .binary .power] := by
  intro r value grid
  have hplain : fill value (pieces "[A1]^2".toList) = "-3^2".toList := by decide +kernel
  have henclosed : fill (enclosed value) (pieces "[A1]^2".toList) = "(-3)^2".toList := by
    decide +kernel
  refine ⟨fun _ => ⟨true, ['3'], [], rfl, by simp, by simp, Or.inl rfl⟩, ?_,
    by rw [hplain]; rfl, by rw [henclosed]; rfl⟩
  intro texts hmem expression
  have hreferences : references expression = [⟨['A'], ['1']⟩] := by
    revert texts
    decide +kernel
  have hprepare : (prepare grid texts.1.toList).toOption = some expression := by
    revert texts
    decide +kernel
  have hsubstitute : (r.substitute (r.descend 256) [] (references expression) expression grid).1.toOption =
      some (fill value (pieces expression)) := by
    revert texts
    decide +kernel
  have hanswers : (arithmetic (String.ofList (fill value (pieces expression)))).toOption ≠
      (arithmetic (String.ofList (fill (enclosed value) (pieces expression)))).toOption := by
    revert texts
    decide +kernel
  refine ⟨eq_ok_of_toOption hprepare, ?_, eq_ok_of_toOption hsubstitute, ?_⟩
  · rw [hreferences]
    refine .of_follow ?_ ?_ (.nil _)
    all_goals decide +kernel
  · exact fun heq => hanswers (congrArg Except.toOption heq)

end Resolver
end SheetMarkup