import SheetMarkup.Expression.Postfix

/-!
# Grammar — the expressions and their parse trees

Sums are made of terms, terms of signed powers, and powers of atoms. A sum and a product are a
repetition that grows to the left; a sign stands before a power and in an exponent, so it binds less
tight than a power and tighter than a product.

* `Tree`, `Tree.postorder`: parse trees and the instructions in their order
* `Derives`: what a category makes of the start of a list of tokens
* `Repeats`: sums and products as repetitions of a part
* `Derives.readOnce`: there is one parse tree
-/

namespace SheetMarkup

/-! ## Trees -/

/-- A parse tree. Signs and parentheses have nodes of their own. -/
inductive Tree where
  | number (value : Float)
  | constant (value : Float)
  | negate (operand : Tree)
  | plus (operand : Tree)
  | binary (op : Operator) (left right : Tree)
  | group (inner : Tree)
  | call (f : SheetFunction) (arguments : List Tree)

mutual

/-- The instructions of a tree, operands first. A plus sign and parentheses have none. -/
def Tree.postorder : Tree → List Instr
  | .number value => [.push value]
  | .constant value => [.push value]
  | .negate operand => operand.postorder ++ [.negate]
  | .plus operand => operand.postorder
  | .binary op left right => left.postorder ++ right.postorder ++ [.binary op]
  | .group inner => inner.postorder
  | .call f arguments => postorderAll arguments ++ [.call f arguments.length]

def postorderAll : List Tree → List Instr
  | [] => []
  | tree :: trees => tree.postorder ++ postorderAll trees

end

theorem postorderAll_append (trees others : List Tree) :
    postorderAll (trees ++ others) = postorderAll trees ++ postorderAll others := by
  induction trees with
  | nil => simp [postorderAll]
  | cons tree trees ih => simp [postorderAll, ih]

/-! ## Derivations -/

def Operator.IsSum (op : Operator) : Prop :=
  op = .add ∨ op = .subtract

def Operator.IsProduct (op : Operator) : Prop :=
  op = .multiply ∨ op = .divide ∨ op = .remainder

theorem Operator.IsProduct.not_isSum {op : Operator} (h : op.IsProduct) : ¬ op.IsSum := by
  rcases h with rfl | rfl | rfl <;> rintro (hadd | hsubtract) <;> contradiction

theorem Operator.IsSum.ne_power {op : Operator} (h : op.IsSum) : op ≠ .power := by
  rcases h with rfl | rfl <;> decide

theorem Operator.IsProduct.ne_power {op : Operator} (h : op.IsProduct) : op ≠ .power := by
  rcases h with rfl | rfl | rfl <;> decide

theorem Operator.IsSum.level_eq {op : Operator} (h : op.IsSum) : op.level = 1 := by
  rcases h with rfl | rfl <;> rfl

theorem Operator.IsProduct.level_eq {op : Operator} (h : op.IsProduct) : op.level = 2 := by
  rcases h with rfl | rfl | rfl <;> rfl

theorem Operator.isSum_or_isProduct_or_eq_power (op : Operator) :
    op.IsSum ∨ op.IsProduct ∨ op = .power := by
  cases op <;> simp [IsSum, IsProduct]

/-- What tokens may be read as: a phrase, or what follows the part of a repetition that has been
read. -/
inductive Category where
  | expr
  | sums (left : Tree)
  | term
  | products (left : Tree)
  | unary
  | power
  | atom
  | arguments (f : SheetFunction) (done : List Tree)

/-- `Derives c input tree rest`: the tokens of `input` before `rest` are read as `c`, with a tree. -/
inductive Derives : Category → List Token → Tree → List Token → Prop where
  | expr {input mid rest : List Token} {left tree : Tree} :
      Derives .term input left mid → Derives (.sums left) mid tree rest →
      Derives .expr input tree rest
  | sumsEnd {rest : List Token} {left : Tree} :
      Derives (.sums left) rest left rest
  | sumsNext {input mid rest : List Token} {op : Operator} {left right tree : Tree} :
      op.IsSum → Derives .term input right mid →
      Derives (.sums (.binary op left right)) mid tree rest →
      Derives (.sums left) (.operator op :: input) tree rest
  | term {input mid rest : List Token} {left tree : Tree} :
      Derives .unary input left mid → Derives (.products left) mid tree rest →
      Derives .term input tree rest
  | productsEnd {rest : List Token} {left : Tree} :
      Derives (.products left) rest left rest
  | productsNext {input mid rest : List Token} {op : Operator} {left right tree : Tree} :
      op.IsProduct → Derives .unary input right mid →
      Derives (.products (.binary op left right)) mid tree rest →
      Derives (.products left) (.operator op :: input) tree rest
  | negate {input rest : List Token} {tree : Tree} :
      Derives .unary input tree rest →
      Derives .unary (.operator .subtract :: input) (.negate tree) rest
  | plus {input rest : List Token} {tree : Tree} :
      Derives .unary input tree rest →
      Derives .unary (.operator .add :: input) (.plus tree) rest
  | unary {input rest : List Token} {tree : Tree} :
      Derives .power input tree rest → Derives .unary input tree rest
  | base {input rest : List Token} {tree : Tree} :
      Derives .atom input tree rest → Derives .power input tree rest
  | power {input mid rest : List Token} {base exponent : Tree} :
      Derives .atom input base (.operator .power :: mid) → Derives .unary mid exponent rest →
      Derives .power input (.binary .power base exponent) rest
  | number {rest : List Token} {value : Float} :
      Derives .atom (.number value :: rest) (.number value) rest
  | constant {rest : List Token} {name : String} {value : Float} :
      constant? name = some value → (∀ more, rest ≠ .opening :: more) →
      Derives .atom (.name name :: rest) (.constant value) rest
  | call {input rest : List Token} {name : String} {f : SheetFunction} {tree : Tree} :
      SheetFunction.find? name = some f → Derives (.arguments f []) input tree rest →
      Derives .atom (.name name :: .opening :: input) tree rest
  | emptyCall {rest : List Token} {name : String} {f : SheetFunction} :
      SheetFunction.find? name = some f →
      Derives .atom (.name name :: .opening :: .closing :: rest) (.call f []) rest
  | nextArgument {input mid rest : List Token} {f : SheetFunction} {done : List Tree}
      {argument tree : Tree} :
      Derives .expr input argument (.comma :: mid) →
      Derives (.arguments f (done ++ [argument])) mid tree rest →
      Derives (.arguments f done) input tree rest
  | lastArgument {input rest : List Token} {f : SheetFunction} {done : List Tree}
      {argument : Tree} :
      Derives .expr input argument (.closing :: rest) →
      Derives (.arguments f done) input (.call f (done ++ [argument])) rest
  | group {input rest : List Token} {tree : Tree} :
      Derives .expr input tree (.closing :: rest) →
      Derives .atom (.opening :: input) (.group tree) rest

namespace Derives

variable {c : Category} {input mid rest : List Token} {tree : Tree} {op : Operator}

/-! ## How phrases start -/

theorem not_atom_operator : ¬ Derives .atom (.operator op :: input) tree rest := by
  intro h
  cases h

theorem not_power_operator : ¬ Derives .power (.operator op :: input) tree rest := by
  intro h
  cases h with
  | base hatom => exact not_atom_operator hatom
  | power hatom _ => exact not_atom_operator hatom

/-- No phrase starts with a closing parenthesis. -/
theorem tail_of_closing (h : Derives c (.closing :: mid) tree rest) :
    ∃ left, c = .sums left ∨ c = .products left := by
  generalize hinput : Token.closing :: mid = input at h
  induction h with
  | expr _ _ ih _ | term _ _ ih _ | unary _ ih | base _ ih | power _ _ ih _ | nextArgument _ _ ih _
  | lastArgument _ ih =>
    rcases ih hinput with ⟨left, hc | hc⟩ <;> cases hc
  | sumsEnd => exact ⟨_, Or.inl rfl⟩
  | productsEnd => exact ⟨_, Or.inr rfl⟩
  | _ => cases hinput

end Derives

/-! ## Where phrases end -/

/-- An operator that would go on with a phrase of a category. -/
def Category.Continues : Category → Operator → Prop
  | .expr, _ | .sums _, _ => True
  | .term, op | .products _, op => ¬ op.IsSum
  | .unary, op | .power, op => op = .power
  | .atom, _ | .arguments _ _, _ => False

def Category.Ends (c : Category) (rest : List Token) : Prop :=
  ∀ op more, rest = .operator op :: more → ¬ c.Continues op

theorem Category.Ends.imp {c d : Category} {rest : List Token} (h : c.Ends rest)
    (himp : ∀ op, d.Continues op → c.Continues op) : d.Ends rest :=
  fun op more heq hcontinues => h op more heq (himp op hcontinues)

theorem Category.ends_atom (rest : List Token) : Category.atom.Ends rest :=
  fun _ _ _ hcontinues => hcontinues

theorem Category.ends_operator {c : Category} {op : Operator} {rest : List Token}
    (h : ¬ c.Continues op) : c.Ends (.operator op :: rest) := by
  rintro op' more heq
  cases heq
  exact h

/-! ## Repetitions -/

/-- A category whose phrases go on with operators of one level, each with a part behind it. -/
structure Repeats (repetition : Tree → Category) (part : Category) (belongs : Operator → Prop)
    (level : Nat) : Prop where
  stop : ∀ left rest, Derives (repetition left) rest left rest
  next : ∀ {op left right tree input mid rest}, belongs op → Derives part input right mid →
    Derives (repetition (.binary op left right)) mid tree rest →
    Derives (repetition left) (.operator op :: input) tree rest
  stops_or_goes_on : ∀ {left tree input rest}, Derives (repetition left) input tree rest →
    (left = tree ∧ input = rest) ∨ ∃ op right more mid, input = .operator op :: more ∧ belongs op ∧
      Derives part more right mid ∧ Derives (repetition (.binary op left right)) mid tree rest
  continues_iff : ∀ {left op}, (repetition left).Continues op ↔ belongs op ∨ part.Continues op
  apart : ∀ {op}, belongs op → ¬ part.Continues op
  level_eq : ∀ {op}, belongs op → op.level = level
  ne_power : ∀ {op}, belongs op → op ≠ .power

theorem repeats_sums : Repeats .sums .term Operator.IsSum 1 where
  stop _ _ := .sumsEnd
  next hop hright hrest := .sumsNext hop hright hrest
  stops_or_goes_on := by
    intro left tree input rest h
    cases h with
    | sumsEnd => exact Or.inl ⟨rfl, rfl⟩
    | sumsNext hop hright hmore => exact Or.inr ⟨_, _, _, _, rfl, hop, hright, hmore⟩
  continues_iff := fun {_ op} => ⟨fun _ => Classical.em op.IsSum, fun _ => trivial⟩
  apart hop hcontinues := hcontinues hop
  level_eq hop := hop.level_eq
  ne_power hop := hop.ne_power

theorem repeats_products : Repeats .products .unary Operator.IsProduct 2 where
  stop _ _ := .productsEnd
  next hop hright hrest := .productsNext hop hright hrest
  stops_or_goes_on := by
    intro left tree input rest h
    cases h with
    | productsEnd => exact Or.inl ⟨rfl, rfl⟩
    | productsNext hop hright hmore => exact Or.inr ⟨_, _, _, _, rfl, hop, hright, hmore⟩
  continues_iff := by
    intro left op
    constructor
    · exact op.isSum_or_isProduct_or_eq_power.resolve_left
    · rintro (hop | hpower)
      · exact hop.not_isSum
      · exact fun hop => hop.ne_power hpower
  apart hop hpower := hop.ne_power hpower
  level_eq hop := hop.level_eq
  ne_power hop := hop.ne_power

/-- Tokens are read in one way only, as far as a phrase goes. -/
def ReadOnce (c : Category) (input : List Token) (tree : Tree) (rest : List Token) : Prop :=
  c.Ends rest → ∀ {tree' rest'}, Derives c input tree' rest' → c.Ends rest' →
    tree = tree' ∧ rest = rest'

namespace Repeats

variable {repetition : Tree → Category} {part whole : Category} {belongs : Operator → Prop}
  {level : Nat} {input mid rest : List Token} {left right tree : Tree} {op : Operator}

theorem ends_iff (h : Repeats repetition part belongs level) (left right : Tree) :
    (repetition left).Ends rest ↔ (repetition right).Ends rest := by
  have hsame : ∀ op, (repetition left).Continues op ↔ (repetition right).Continues op := fun op =>
    h.continues_iff.trans h.continues_iff.symm
  exact ⟨fun hends => hends.imp fun op => (hsame op).2, fun hends => hends.imp fun op => (hsame op).1⟩

/-- A part ends where the repetition goes on, or where it stops. -/
theorem ends_part (h : Repeats repetition part belongs level)
    (hmore : Derives (repetition left) mid tree rest) (hrest : (repetition left).Ends rest) :
    part.Ends mid := by
  rcases h.stops_or_goes_on hmore with ⟨_, rfl⟩ | ⟨op, right, more, behind, rfl, hop, _, _⟩
  · exact hrest.imp fun op hcontinues => h.continues_iff.2 (Or.inr hcontinues)
  · exact Category.ends_operator (h.apart hop)

theorem readOnce_stop (h : Repeats repetition part belongs level) (left : Tree) (rest : List Token) :
    ReadOnce (repetition left) rest left rest := by
  intro hrest tree' rest' h' _
  rcases h.stops_or_goes_on h' with hsame | ⟨op, _, more, _, heq, hop, _, _⟩
  · exact hsame
  · -- The repetition would stop in front of an operator that goes on with it.
    exact absurd (h.continues_iff.2 (Or.inl hop)) (hrest op more heq)

theorem readOnce_next (h : Repeats repetition part belongs level) (hop : belongs op)
    (hmore : Derives (repetition (.binary op left right)) mid tree rest)
    (hpart : ReadOnce part input right mid)
    (honce : ReadOnce (repetition (.binary op left right)) mid tree rest) :
    ReadOnce (repetition left) (.operator op :: input) tree rest := by
  intro hrest tree' rest' h' hrest'
  rcases h.stops_or_goes_on h' with ⟨_, rfl⟩ | ⟨op', right', more, mid', heq, _, hpart', hmore'⟩
  · exact absurd (h.continues_iff.2 (Or.inl hop)) (hrest' op input rfl)
  · cases heq
    rw [h.ends_iff left (.binary op left right)] at hrest
    have hends' := h.ends_part hmore' ((h.ends_iff _ _).1 hrest')
    rcases hpart (h.ends_part hmore hrest) hpart' hends' with ⟨rfl, rfl⟩
    exact honce hrest hmore' ((h.ends_iff _ _).1 hrest')

/-- A phrase that is a part and a repetition behind it. -/
theorem readOnce_first (h : Repeats repetition part belongs level)
    (hwhole : ∀ {input tree rest}, Derives whole input tree rest →
      ∃ left mid, Derives part input left mid ∧ Derives (repetition left) mid tree rest)
    (hends : ∀ {left op}, (repetition left).Continues op → whole.Continues op)
    (hmore : Derives (repetition left) mid tree rest) (hpart : ReadOnce part input left mid)
    (honce : ReadOnce (repetition left) mid tree rest) : ReadOnce whole input tree rest := by
  intro hrest tree' rest' h' hrest'
  rcases hwhole h' with ⟨left', mid', hpart', hmore'⟩
  have hrest₁ : (repetition left).Ends rest := hrest.imp fun _ => hends
  have hrest₂ : (repetition left').Ends rest' := hrest'.imp fun _ => hends
  rcases hpart (h.ends_part hmore hrest₁) hpart' (h.ends_part hmore' hrest₂) with ⟨rfl, rfl⟩
  exact honce hrest₁ hmore' hrest₂

end Repeats

/-! ## One parse tree -/

namespace ReadOnce

variable {input mid rest : List Token} {tree left right : Tree} {name : String} {f : SheetFunction}
  {done : List Tree}

theorem negate (h : ReadOnce .unary input tree rest) :
    ReadOnce .unary (.operator .subtract :: input) (.negate tree) rest := by
  intro hrest tree' rest' h' hrest'
  cases h' with
  | negate hoperand =>
    rcases h hrest hoperand hrest' with ⟨rfl, rfl⟩
    exact ⟨rfl, rfl⟩
  | unary hpower => exact absurd hpower Derives.not_power_operator

theorem plus (h : ReadOnce .unary input tree rest) :
    ReadOnce .unary (.operator .add :: input) (.plus tree) rest := by
  intro hrest tree' rest' h' hrest'
  cases h' with
  | plus hoperand =>
    rcases h hrest hoperand hrest' with ⟨rfl, rfl⟩
    exact ⟨rfl, rfl⟩
  | unary hpower => exact absurd hpower Derives.not_power_operator

theorem unary (hpower : Derives .power input tree rest) (h : ReadOnce .power input tree rest) :
    ReadOnce .unary input tree rest := by
  intro hrest tree' rest' h' hrest'
  cases h' with
  | negate _ => exact absurd hpower Derives.not_power_operator
  | plus _ => exact absurd hpower Derives.not_power_operator
  | unary hpower' => exact h hrest hpower' hrest'

theorem base (h : ReadOnce .atom input tree rest) : ReadOnce .power input tree rest := by
  intro hrest tree' rest' h' hrest'
  cases h' with
  | base hatom => exact h (Category.ends_atom _) hatom (Category.ends_atom _)
  | power hatom _ =>
    rcases h (Category.ends_atom _) hatom (Category.ends_atom _) with ⟨_, rfl⟩
    exact absurd rfl (hrest _ _ rfl)

theorem power (hbase : ReadOnce .atom input left (.operator .power :: mid))
    (hexponent : ReadOnce .unary mid right rest) :
    ReadOnce .power input (.binary .power left right) rest := by
  intro hrest tree' rest' h' hrest'
  cases h' with
  | base hatom =>
    -- The atoms agree, so the power operator behind them is there in both readings.
    rcases hbase (Category.ends_atom _) hatom (Category.ends_atom _) with ⟨_, rfl⟩
    exact absurd rfl (hrest' _ _ rfl)
  | power hatom hunary =>
    rcases hbase (Category.ends_atom _) hatom (Category.ends_atom _) with ⟨rfl, hmid⟩
    cases hmid
    rcases hexponent hrest hunary hrest' with ⟨rfl, rfl⟩
    exact ⟨rfl, rfl⟩

theorem constant {value : Float} (hname : constant? name = some value)
    (hopening : ∀ more, rest ≠ .opening :: more) :
    ReadOnce .atom (.name name :: rest) (.constant value) rest := by
  intro _ tree' rest' h' _
  cases h' with
  | constant hname' _ =>
    rw [hname] at hname'
    cases hname'
    exact ⟨rfl, rfl⟩
  | call _ _ => exact absurd rfl (hopening _)
  | emptyCall _ => exact absurd rfl (hopening _)

theorem call (hname : SheetFunction.find? name = some f)
    (harguments : Derives (.arguments f []) input tree rest)
    (h : ReadOnce (.arguments f []) input tree rest) :
    ReadOnce .atom (.name name :: .opening :: input) tree rest := by
  intro _ tree' rest' h' _
  cases h' with
  | constant _ hopening => exact absurd rfl (hopening _)
  | call hname' harguments' =>
    rw [hname] at hname'
    cases hname'
    exact h (Category.ends_atom _) harguments' (Category.ends_atom _)
  | emptyCall _ =>
    rcases harguments.tail_of_closing with ⟨left, hc | hc⟩ <;> cases hc

theorem emptyCall (hname : SheetFunction.find? name = some f) :
    ReadOnce .atom (.name name :: .opening :: .closing :: rest) (.call f []) rest := by
  intro _ tree' rest' h' _
  cases h' with
  | constant _ hopening => exact absurd rfl (hopening _)
  | call _ harguments =>
    rcases harguments.tail_of_closing with ⟨left, hc | hc⟩ <;> cases hc
  | emptyCall hname' =>
    rw [hname] at hname'
    cases hname'
    exact ⟨rfl, rfl⟩

/-- An argument is read up to the comma or the parenthesis behind it. -/
theorem argument {token token' : Token} {mid' : List Token} {tree' : Tree}
    (h : ReadOnce .expr input tree (token :: mid)) (h' : Derives .expr input tree' (token' :: mid'))
    (htoken : ∀ op, token ≠ .operator op) (htoken' : ∀ op, token' ≠ .operator op) :
    tree = tree' ∧ token = token' ∧ mid = mid' := by
  have hends : ∀ {t : Token} {more : List Token}, (∀ op, t ≠ .operator op) →
      Category.expr.Ends (t :: more) := by
    rintro t more ht op _ ⟨⟩
    exact absurd rfl (ht op)
  rcases h (hends htoken) h' (hends htoken') with ⟨rfl, hmid⟩
  exact ⟨rfl, List.cons.inj hmid⟩

theorem nextArgument (hargument : ReadOnce .expr input left (.comma :: mid))
    (hmore : ReadOnce (.arguments f (done ++ [left])) mid tree rest) :
    ReadOnce (.arguments f done) input tree rest := by
  intro hrest tree' rest' h' hrest'
  cases h' with
  | nextArgument hexpr harguments =>
    rcases hargument.argument hexpr (by simp) (by simp) with ⟨rfl, _, rfl⟩
    exact hmore hrest harguments hrest'
  | lastArgument hexpr =>
    rcases hargument.argument hexpr (by simp) (by simp) with ⟨_, htoken, _⟩
    cases htoken

theorem lastArgument (hargument : ReadOnce .expr input left (.closing :: rest)) :
    ReadOnce (.arguments f done) input (.call f (done ++ [left])) rest := by
  intro _ tree' rest' h' _
  cases h' with
  | nextArgument hexpr _ =>
    rcases hargument.argument hexpr (by simp) (by simp) with ⟨_, htoken, _⟩
    cases htoken
  | lastArgument hexpr =>
    rcases hargument.argument hexpr (by simp) (by simp) with ⟨rfl, _, rfl⟩
    exact ⟨rfl, rfl⟩

theorem group (h : ReadOnce .expr input tree (.closing :: rest)) :
    ReadOnce .atom (.opening :: input) (.group tree) rest := by
  intro _ tree' rest' h' _
  cases h' with
  | group hexpr =>
    rcases h.argument hexpr (by simp) (by simp) with ⟨rfl, _, rfl⟩
    exact ⟨rfl, rfl⟩

end ReadOnce

namespace Derives

variable {c : Category} {input rest : List Token} {tree : Tree}

theorem readOnce (h : Derives c input tree rest) : ReadOnce c input tree rest := by
  induction h with
  | expr hterm hsums ihterm ihsums =>
    refine repeats_sums.readOnce_first ?_ id hsums ihterm ihsums
    rintro input tree rest ⟨⟩
    exact ⟨_, _, ‹_›, ‹_›⟩
  | term hunary hproducts ihunary ihproducts =>
    refine repeats_products.readOnce_first ?_ id hproducts ihunary ihproducts
    rintro input tree rest ⟨⟩
    exact ⟨_, _, ‹_›, ‹_›⟩
  | sumsEnd => exact repeats_sums.readOnce_stop _ _
  | productsEnd => exact repeats_products.readOnce_stop _ _
  | sumsNext hop hterm hsums ihterm ihsums =>
    exact repeats_sums.readOnce_next hop hsums ihterm ihsums
  | productsNext hop hunary hproducts ihunary ihproducts =>
    exact repeats_products.readOnce_next hop hproducts ihunary ihproducts
  | negate hunary ih => exact ih.negate
  | plus hunary ih => exact ih.plus
  | unary hpower ih => exact .unary hpower ih
  | base hatom ih => exact ih.base
  | power hatom hunary ihatom ihunary => exact ihatom.power ihunary
  | number =>
    rintro _ _ _ ⟨⟩ _
    exact ⟨rfl, rfl⟩
  | constant hname hopening => exact .constant hname hopening
  | call hname harguments ih => exact .call hname harguments ih
  | emptyCall hname => exact .emptyCall hname
  | nextArgument hexpr harguments ihexpr iharguments => exact ihexpr.nextArgument iharguments
  | lastArgument hexpr ih => exact ih.lastArgument
  | group hexpr ih => exact ih.group

end Derives
end SheetMarkup
