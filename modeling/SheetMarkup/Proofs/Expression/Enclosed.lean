import SheetMarkup.Proofs.Expression.Soundness

/-!
# Enclosed operands — where parentheses around a number change nothing

A number that stands where an operand is due may be put in parentheses, and so may a number with a
minus sign, unless a power follows: the minus sign is looser than the power. In parentheses the sign is
applied at once; without them it waits on the stack until the next operator releases it, and every
operator but the power does.

* `Nested`: stacks on which every open call lies below its own parenthesis
* `Enclosed`: token lists that differ in such parentheses
* `run_parenthesized`, `result_parenthesized`: one operand
* `toPostfix_enclosed`: all operands of an expression
-/

namespace SheetMarkup

/-- Whether an operand is due behind a token. -/
def Token.opens : Token → Bool
  | .operator _ | .opening | .comma => true
  | .number _ | .name _ | .closing => false

def NoPower (tokens : List Token) : Prop :=
  ∀ rest, tokens ≠ .operator .power :: rest

/-- Token lists of which the second one has some operands in parentheses: numbers, and numbers with a
minus sign that no power follows. Whether an operand is known to be due in front is given along. -/
inductive Enclosed : Bool → List Token → List Token → Prop where
  | nil (due : Bool) : Enclosed due [] []
  | token {due : Bool} {tokens others : List Token} (t : Token) :
      Enclosed t.opens tokens others → Enclosed due (t :: tokens) (t :: others)
  | number {tokens others : List Token} (x : Float) :
      Enclosed false tokens others →
      Enclosed true (.number x :: tokens) (.opening :: .number x :: .closing :: others)
  | negative {tokens others : List Token} (x : Float) :
      NoPower tokens → Enclosed false tokens others →
      Enclosed true (.operator .subtract :: .number x :: tokens)
        (.opening :: .operator .subtract :: .number x :: .closing :: others)

namespace Enclosed

variable {due : Bool} {tokens others : List Token}

/-- Where no operand is due, the next tokens are the same. -/
theorem of_not_due (h : Enclosed false tokens others) :
    (tokens = [] ∧ others = []) ∨
      ∃ t ts us, tokens = t :: ts ∧ others = t :: us ∧ Enclosed t.opens ts us := by
  cases h with
  | nil => exact Or.inl ⟨rfl, rfl⟩
  | token t hrest => exact Or.inr ⟨t, _, _, rfl, rfl, hrest⟩

theorem noPower (h : Enclosed false tokens others) (hpower : NoPower tokens) : NoPower others := by
  rcases h.of_not_due with ⟨_, rfl⟩ | ⟨t, ts, us, rfl, rfl, _⟩
  · rintro _ ⟨⟩
  · rintro _ ⟨⟩
    exact hpower ts rfl

theorem isEmpty_eq (h : Enclosed due tokens others) : tokens.isEmpty = others.isEmpty := by
  cases h <;> rfl

theorem startsWithClosing_eq (h : Enclosed due tokens others) :
    Conversion.startsWithClosing tokens = Conversion.startsWithClosing others := by
  cases h with
  | token t _ => cases t <;> rfl
  | _ => rfl

end Enclosed

namespace Conversion

/-! ## Stacks -/

/-- A stack on which every open call lies below its own parenthesis. -/
inductive Nested : List Pending → Prop where
  | nil : Nested []
  | operator {below : List Pending} (op : Operator) : Nested below → Nested (.operator op :: below)
  | negation {below : List Pending} : Nested below → Nested (.negation :: below)
  | group {below : List Pending} : Nested below → Nested (.parenthesis :: below)
  | call {below : List Pending} (f : SheetFunction) :
      Nested below → Nested (.parenthesis :: .call f :: below)

variable {s s' : Conversion} {waiting : List Pending}

theorem Nested.guarded (h : Nested waiting) : Guarded waiting := by
  rintro f below rfl
  cases h

theorem Nested.releaseWhile (h : Nested waiting) (ready : Pending → Bool) (output : List Instr) :
    Nested (releaseWhile ready waiting output).1 := by
  induction h generalizing output with
  | nil => exact Nested.nil
  | operator op hbelow ih =>
    simp only [Conversion.releaseWhile, Pending.instr?]
    split
    · exact ih _
    · exact Nested.operator op hbelow
  | negation hbelow ih =>
    simp only [Conversion.releaseWhile, Pending.instr?]
    split
    · exact ih _
    · exact Nested.negation hbelow
  | group hbelow _ => exact Nested.group hbelow
  | call f hbelow _ => exact Nested.call f hbelow

theorem Nested.number {x : Float} (h : Nested s.waiting) (hs : s.number x = .ok s') :
    Nested s'.waiting := by
  unfold Conversion.number at hs
  split at hs
  · cases hs
    exact h
  · cases hs

theorem Nested.name {text : String} (h : Nested s.waiting) (hs : s.name text = .ok s') :
    Nested s'.waiting := by
  unfold Conversion.name at hs
  split at hs
  · split at hs
    · cases hs
      exact h
    · cases hs
  · cases hs

theorem Nested.openCall {text : String} {closes : Bool} (h : Nested s.waiting)
    (hs : s.openCall text closes = .ok s') : Nested s'.waiting ∧ s'.operandDue = true := by
  unfold Conversion.openCall at hs
  split at hs
  · rename_i hdue
    split at hs
    · cases hs
      exact ⟨Nested.call _ h, hdue⟩
    · cases hs
  · cases hs

theorem Nested.operator_step {op : Operator} (h : Nested s.waiting) (hs : s.operator op = .ok s') :
    Nested s'.waiting ∧ s'.operandDue = true := by
  unfold Conversion.operator at hs
  split at hs
  · rename_i hdue
    split at hs
    · cases hs
      exact ⟨Nested.negation h, hdue⟩
    · cases hs
      exact ⟨h, hdue⟩
    · cases hs
  · cases hs
    exact ⟨Nested.operator op (h.releaseWhile _ _), rfl⟩

theorem Nested.openGroup (h : Nested s.waiting) (hs : s.openGroup = .ok s') :
    Nested s'.waiting ∧ s'.operandDue = true := by
  unfold Conversion.openGroup at hs
  split at hs
  · rename_i hdue
    cases hs
    exact ⟨Nested.group h, hdue⟩
  · cases hs

theorem Nested.comma (h : Nested s.waiting) (hs : s.comma = .ok s') :
    Nested s'.waiting ∧ s'.operandDue = true := by
  unfold Conversion.comma at hs
  split at hs
  · cases hs
  · have hreleased := h.releaseWhile (fun _ => true) s.output
    split at hs
    · rename_i f below output count counts hrelease hcounts
      cases hs
      rw [hrelease] at hreleased
      exact ⟨hreleased, rfl⟩
    · cases hs
    · cases hs

theorem Nested.close (h : Nested s.waiting) (hs : s.close = .ok s') : Nested s'.waiting := by
  unfold Conversion.close at hs
  split at hs
  · cases hs
  · have hreleased := h.releaseWhile (fun _ => true) s.output
    split at hs
    · rename_i f below output hrelease
      rw [hrelease] at hreleased
      split at hs
      · cases hs
        cases hreleased with
        | group hcall => cases hcall
        | call f hbelow => exact hbelow
      · cases hs
    · rename_i below output hcall hrelease
      rw [hrelease] at hreleased
      cases hs
      cases hreleased with
      | group hbelow => exact hbelow
      | call f hbelow => exact absurd rfl (hcall f _)
    · cases hs

/-! ## One operand -/

def result (s : Conversion) (tokens : List Token) : Except ExpressionError (List Instr) :=
  (s.run tokens).bind finish

/-- A parenthesis right above a stack is closed without releasing anything. -/
theorem close_group (hnested : Nested waiting) (output : List Instr) (counts : List Nat) :
    close ⟨output, .parenthesis :: waiting, counts, false⟩ = .ok ⟨output, waiting, counts, false⟩ := by
  have hrelease : releaseWhile (fun _ => true) (.parenthesis :: waiting) output =
      (.parenthesis :: waiting, output) := rfl
  simp only [close, hrelease, Bool.false_and]
  cases waiting with
  | nil => rfl
  | cons top below =>
    cases top with
    | call f => exact absurd rfl (hnested.guarded f below)
    | _ => rfl

/-- A number in parentheses is read like the number. -/
theorem run_parenthesized (hdue : s.operandDue = true) (hnested : Nested s.waiting) (x : Float)
    (tokens : List Token) :
    s.run (.opening :: .number x :: .closing :: tokens) = s.run (.number x :: tokens) := by
  have hclose := close_group hnested (.push x :: s.output) s.counts
  simp [run, openGroup, number, operand, hdue, Except.bind, hclose]

/-! A minus sign that waits on top of the stack is released by everything but a power. -/

section Negation

variable (output : List Instr) (waiting : List Pending) (counts : List Nat)

theorem releaseWhile_negation {ready : Pending → Bool} (hready : ready .negation = true) :
    releaseWhile ready (.negation :: waiting) output =
      releaseWhile ready waiting (.negate :: output) :=
  releaseWhile_cons rfl hready waiting output

theorem close_negation :
    close ⟨output, .negation :: waiting, counts, false⟩ =
      close ⟨.negate :: output, waiting, counts, false⟩ := by
  simp [close, releaseWhile_negation]

theorem operator_negation {op : Operator} (hop : op ≠ .power) :
    operator ⟨output, .negation :: waiting, counts, false⟩ op =
      operator ⟨.negate :: output, waiting, counts, false⟩ op := by
  have hready : Pending.precedes op .negation = true := by
    cases op with
    | power => exact absurd rfl hop
    | _ => rfl
  simp [operator, releaseWhile_negation, hready]

/-- What follows a number with a minus sign is read as if the sign had been applied. -/
theorem result_negation {tokens : List Token} (hpower : NoPower tokens) :
    result ⟨output, .negation :: waiting, counts, false⟩ tokens =
      result ⟨.negate :: output, waiting, counts, false⟩ tokens := by
  cases tokens with
  | nil => simp [result, run, finish, Except.bind, releaseWhile_negation]
  | cons t rest =>
    cases t with
    | number x => rfl
    | name text =>
      cases rest with
      | nil => rfl
      | cons next rest => cases next <;> rfl
    | operator op =>
      have hop : op ≠ .power := by
        rintro rfl
        exact hpower rest rfl
      simp only [result, run, operator_negation output waiting counts hop]
    | opening => rfl
    | closing => simp only [result, run, close_negation]
    | comma => simp [result, run, comma, releaseWhile_negation]

end Negation

/-- A number with a minus sign in parentheses is read like one without, unless a power follows. -/
theorem result_parenthesized (hdue : s.operandDue = true) (hnested : Nested s.waiting) (x : Float)
    {tokens : List Token} (hpower : NoPower tokens) :
    s.result (.opening :: .operator .subtract :: .number x :: .closing :: tokens) =
      s.result (.operator .subtract :: .number x :: tokens) := by
  have hclose := (close_negation (.push x :: s.output) (.parenthesis :: s.waiting) s.counts).trans
    (close_group hnested (.negate :: .push x :: s.output) s.counts)
  calc
    s.result (.opening :: .operator .subtract :: .number x :: .closing :: tokens)
        = result ⟨.negate :: .push x :: s.output, s.waiting, s.counts, false⟩ tokens := by
          simp [result, run, openGroup, operator, number, operand, hdue, Except.bind, hclose]
    _ = result ⟨.push x :: s.output, .negation :: s.waiting, s.counts, false⟩ tokens :=
          (result_negation _ _ _ hpower).symm
    _ = s.result (.operator .subtract :: .number x :: tokens) := by
          simp [result, run, operator, number, operand, hdue, Except.bind]

/-! ## All operands -/

theorem result_bind_congr {step : Except ExpressionError Conversion} {tokens others : List Token}
    (h : ∀ s, step = .ok s → s.result tokens = s.result others) :
    (step.bind (run · tokens)).bind finish = (step.bind (run · others)).bind finish := by
  cases step with
  | error error => rfl
  | ok s => exact h s rfl

/-- A conversion gives the same instructions whether operands are enclosed or not. -/
theorem result_enclosed {due : Bool} {tokens others : List Token} (h : Enclosed due tokens others)
    (hnested : Nested s.waiting) (hdue : due = true → s.operandDue = true) :
    s.result tokens = s.result others := by
  -- Along the run on the tokens without the parentheses; the state stays nested, and an operand is due
  -- in it wherever the tokens say so.
  fun_induction Conversion.run s tokens generalizing due others with
  | case1 s =>
    cases h
    rfl
  | case2 s x tokens ih =>
    have hsame : ∀ {us}, Enclosed false tokens us →
        s.result (.number x :: tokens) = s.result (.number x :: us) := by
      intro us hrest
      exact result_bind_congr fun s' hs => ih s' hrest (hnested.number hs) (by simp)
    cases h with
    | token _ hrest => exact hsame hrest
    | number _ hrest =>
      rw [hsame hrest, result, result, run_parenthesized (hdue rfl) hnested]
  | case3 s text tokens ih =>
    cases h with
    | token _ hname =>
      -- No operand is due behind a name, so the parenthesis of the call is there in both lists.
      rcases hname.of_not_due with ⟨hnil, _⟩ | ⟨t, ts, us, htokens, rfl, hrest⟩
      · cases hnil
      · cases htokens
        unfold result run
        rw [hrest.startsWithClosing_eq]
        exact result_bind_congr fun s' hs =>
          ih s' hrest (hnested.openCall hs).1 fun _ => (hnested.openCall hs).2
  | case4 s text tokens hne ih =>
    cases h with
    | token _ hname =>
      rcases hname.of_not_due with ⟨rfl, rfl⟩ | ⟨t, ts, us, rfl, rfl, hrest⟩
      · rfl
      · have hother : ∀ more, t :: us ≠ .opening :: more := by
          rintro more ⟨⟩
          exact hne ts rfl
        unfold result
        rw [run_name hne, run_name hother]
        exact result_bind_congr fun s' hs => ih s' hname (hnested.name hs) (by simp [Token.opens])
  | case5 s op tokens ih =>
    have hsame : ∀ {us}, Enclosed true tokens us →
        s.result (.operator op :: tokens) = s.result (.operator op :: us) := by
      intro us hrest
      exact result_bind_congr fun s' hs => ih s' hrest (hnested.operator_step hs).1
        fun _ => (hnested.operator_step hs).2
    cases h with
    | token _ hrest => exact hsame hrest
    | negative x hpower hrest =>
      -- The number behind the sign is an ordinary token once the parentheses are off.
      rw [hsame (.token (.number x) hrest),
        result_parenthesized (hdue rfl) hnested x (hrest.noPower hpower)]
  | case6 s tokens ih =>
    cases h with
    | token _ hrest =>
      exact result_bind_congr fun s' hs => ih s' hrest (hnested.openGroup hs).1
        fun _ => (hnested.openGroup hs).2
  | case7 s tokens ih =>
    cases h with
    | token _ hrest =>
      exact result_bind_congr fun s' hs => ih s' hrest (hnested.close hs) (by simp [Token.opens])
  | case8 s tokens ih =>
    cases h with
    | token _ hrest =>
      exact result_bind_congr fun s' hs => ih s' hrest (hnested.comma hs).1
        fun _ => (hnested.comma hs).2

end Conversion

theorem toPostfix_enclosed {tokens others : List Token} (h : Enclosed true tokens others) :
    toPostfix tokens = toPostfix others := by
  unfold toPostfix
  rw [h.isEmpty_eq]
  split
  · rfl
  · exact Conversion.result_enclosed h Conversion.Nested.nil fun _ => rfl

-- In front of a power the sign waits until the power has been applied.
example :
    toPostfix [.operator .subtract, .number 3.0, .operator .power, .number 2.0] =
      .ok [.push 3.0, .push 2.0, .binary .power, .negate] :=
  rfl

end SheetMarkup
