import SheetMarkup.Decimal.Written
import SheetMarkup.Proofs.Text.Characters

/-!
# Numerals — how finite results are written

A finite result is written with digits in front of the point, and behind it unless the number is whole;
a minus sign stands in front of a negative one. An expression reads the part behind the sign as one
literal.

* `Decimal.mem_plain`: the characters of a plain number
* `IsNumeral`: numbers as they are written
* `IsNumeral.literal`: the literal in a numeral
* `Decimal.isNumeral_plain`, `Decimal.isNumeral_resultText`: the texts of numbers and of finite results
  are numerals
-/

namespace SheetMarkup

/-! ## Characters -/

namespace Decimal

theorem isDigit_of_mem_significant {d : Decimal} {c : Char} (h : c ∈ d.significant.1) :
    c.isDigit = true := by
  have hall : c ∈ Nat.toDigits 10 d.digits := by
    -- The significant digits are all digits without the zeros at the end.
    have hreverse := List.mem_reverse.1 h
    exact List.mem_reverse.1 ((List.dropWhile_sublist _).subset hreverse)
  exact isDigit_of_mem_toDigits c hall

theorem mem_positional {digits : List Char} {point : Int} {c : Char}
    (h : c ∈ positional [] digits point) : c ∈ digits ∨ c = '0' ∨ c = '.' := by
  unfold positional at h
  split at h
  · simp only [List.cons_append, List.mem_cons, List.mem_append, List.mem_replicate] at h
    rcases h with hzero | hpoint | hfill | hdigit
    · exact Or.inr (Or.inl hzero)
    · exact Or.inr (Or.inr hpoint)
    · exact Or.inr (Or.inl hfill.2)
    · exact Or.inl hdigit
  · split at h
    · simp only [List.append_nil, List.mem_append, List.mem_replicate] at h
      rcases h with hdigit | hfill
      · exact Or.inl hdigit
      · exact Or.inr (Or.inl hfill.2)
    · rcases List.mem_append.1 h with hdigit | hrest
      · exact Or.inl (List.mem_of_mem_take hdigit)
      · rcases List.mem_cons.1 hrest with hpoint | hdigit
        · exact Or.inr (Or.inr hpoint)
        · exact Or.inl (List.mem_of_mem_drop hdigit)

theorem mem_withSign {negative : Bool} {text : List Char} {c : Char}
    (h : c ∈ withSign negative text) : c = '-' ∨ c ∈ text := by
  unfold withSign at h
  split at h
  · exact List.mem_cons.1 h
  · exact Or.inr h

/-- A plain number is written with digits, a point and a minus sign. -/
theorem mem_plain {d : Decimal} {c : Char} (h : c ∈ d.plain) :
    c.isDigit = true ∨ c = '.' ∨ c = '-' := by
  have hzero : '0'.isDigit = true := by decide
  unfold plain at h
  split at h
  · rcases mem_withSign h with rfl | hdigit
    · exact Or.inr (Or.inr rfl)
    · rw [List.mem_singleton.1 hdigit]
      exact Or.inl hzero
  · rcases mem_withSign h with rfl | hnumber
    · exact Or.inr (Or.inr rfl)
    · rcases mem_positional hnumber with hdigit | rfl | rfl
      · exact Or.inl (isDigit_of_mem_significant hdigit)
      · exact Or.inl hzero
      · exact Or.inr (Or.inl rfl)

end Decimal

/-! ## Numerals -/

/-- A number as it is written: a minus sign perhaps, digits, and perhaps a point with digits after it. -/
def IsNumeral (text : List Char) : Prop :=
  ∃ negative whole fraction, text = Decimal.withSign negative (whole ++ fraction) ∧
    whole ≠ [] ∧ (∀ c ∈ whole, c.isDigit = true) ∧
    (fraction = [] ∨
      ∃ digits, fraction = '.' :: digits ∧ digits ≠ [] ∧ ∀ c ∈ digits, c.isDigit = true)

theorem isLiteralChar_of_isDigit {c : Char} (h : c.isDigit = true) :
    Decimal.isLiteralChar c = true := by
  simp [Decimal.isLiteralChar, h]

/-- Digits with a point behind some of them, or with none, are a literal. -/
theorem exists_readLiteral {whole : List Char} (rest : List Char) (hne : whole ≠ [])
    (hwhole : ∀ c ∈ whole, c.isDigit = true) (hrest : ∀ c ∈ rest.head?, c = '.')
    (hdigits : ∀ c ∈ rest.drop 1, c.isDigit = true) :
    ∃ x, Decimal.readLiteral (whole ++ rest) = some x := by
  have hpoint : ∀ c ∈ whole, (c != '.') = true := by
    intro c hc
    rw [bne_iff_ne]
    rintro rfl
    exact absurd (hwhole _ hc) (by decide)
  have hend : ∀ c ∈ rest.head?, (c != '.') = false := by
    intro c hc
    simp [hrest c hc]
  rcases takeWhile_append_of_forall hpoint hend with ⟨htake, hdrop⟩
  have hall : (whole ++ rest.drop 1).all Char.isDigit = true := by
    rw [List.all_eq_true]
    intro c hc
    rcases List.mem_append.1 hc with hc | hc
    · exact hwhole c hc
    · exact hdigits c hc
  have hnone : ((whole ++ rest.drop 1).isEmpty || !(whole ++ rest.drop 1).all Char.isDigit) = false := by
    rw [hall]
    simp [hne]
  apply Option.isSome_iff_exists.1
  unfold Decimal.readLiteral
  simp only [htake, hdrop, hnone]
  rfl

/-- A numeral is a literal, with a minus sign perhaps. -/
theorem IsNumeral.literal {text : List Char} (h : IsNumeral text) :
    ∃ negative body x, text = Decimal.withSign negative body ∧ body ≠ [] ∧
      (∀ c ∈ body, Decimal.isLiteralChar c = true) ∧ Decimal.readLiteral body = some x := by
  rcases h with ⟨negative, whole, fraction, rfl, hne, hwhole, hfraction⟩
  have hpoint : Decimal.isLiteralChar '.' = true := by decide
  rcases hfraction with rfl | ⟨digits, rfl, _, hdigits⟩
  · rcases exists_readLiteral [] hne hwhole (by simp) (by simp) with ⟨x, hx⟩
    refine ⟨negative, whole ++ [], x, rfl, by simp [hne], ?_, hx⟩
    simpa using fun c hc => isLiteralChar_of_isDigit (hwhole c hc)
  · rcases exists_readLiteral ('.' :: digits) hne hwhole (by simp) (by simpa using hdigits)
      with ⟨x, hx⟩
    refine ⟨negative, whole ++ '.' :: digits, x, rfl, by simp [hne], ?_, hx⟩
    intro c hc
    rcases List.mem_append.1 hc with hc | hc
    · exact isLiteralChar_of_isDigit (hwhole c hc)
    · rcases List.mem_cons.1 hc with rfl | hc
      · exact hpoint
      · exact isLiteralChar_of_isDigit (hdigits c hc)

theorem IsNumeral.isLiteralChar_or_minus {text : List Char} (h : IsNumeral text) :
    ∀ c ∈ text, Decimal.isLiteralChar c = true ∨ c = '-' := by
  rcases h.literal with ⟨negative, body, _, rfl, _, hbody, _⟩
  intro c hc
  rcases Decimal.mem_withSign hc with rfl | hc
  · exact Or.inr rfl
  · exact Or.inl (hbody c hc)

/-- No bracket is in a numeral. -/
theorem IsNumeral.not_mem {text : List Char} (h : IsNumeral text) : '[' ∉ text := by
  intro hmem
  rcases h.isLiteralChar_or_minus _ hmem with hliteral | hminus
  · exact absurd hliteral (by decide)
  · exact absurd hminus (by decide)

/-! ## The plain format -/

namespace Decimal

/-- A number other than zero has significant digits. -/
theorem significant_ne_nil {d : Decimal} (h : d.digits ≠ 0) : d.significant.1 ≠ [] := by
  intro hnil
  have hdrop : (Nat.toDigits 10 d.digits).reverse.dropWhile (· == '0') = [] :=
    List.reverse_eq_nil_iff.1 hnil
  have hzeros : Nat.toDigits 10 d.digits =
      List.replicate (Nat.toDigits 10 d.digits).length '0' := by
    rw [List.eq_replicate_iff]
    refine ⟨rfl, fun c hc => ?_⟩
    have hzero := List.dropWhile_eq_nil_iff.1 hdrop c (List.mem_reverse.2 hc)
    exact beq_iff_eq.1 hzero
  -- Zeros alone are the digits of zero.
  apply h
  calc
    d.digits = Nat.ofDigitChars 10 (Nat.toDigits 10 d.digits) 0 := Nat.ofDigitChars_ten_toDigits.symm
    _ = 0 := by rw [hzeros, Nat.ofDigitChars_replicate_zero, Nat.mul_zero]

theorem isNumeral_positional (negative : Bool) {digits : List Char} (point : Int)
    (hne : digits ≠ []) (hdigits : ∀ c ∈ digits, c.isDigit = true) :
    IsNumeral (withSign negative (positional [] digits point)) := by
  have hzeros : ∀ n, ∀ c ∈ List.replicate n '0', c.isDigit = true := by
    intro n c hc
    rw [List.eq_of_mem_replicate hc]
    rfl
  unfold positional
  dsimp only
  -- The point stands before the digits, behind them, or among them.
  split
  · refine ⟨negative, ['0'], '.' :: (List.replicate (-point).toNat '0' ++ digits), rfl, by simp,
      by simp, Or.inr ⟨_, rfl, by simp [hne], List.forall_mem_append.2 ⟨hzeros _, hdigits⟩⟩⟩
  · split
    · refine ⟨negative, _, [], rfl, by simp [hne], ?_, Or.inl rfl⟩
      exact List.forall_mem_append.2 ⟨hdigits, hzeros _⟩
    · rename_i hpositive hinside
      have hlength : point.toNat < digits.length := by
        have hcast : Int.ofNat digits.length = (digits.length : Int) := rfl
        omega
      refine ⟨negative, digits.take point.toNat, '.' :: digits.drop point.toNat, rfl, ?_, ?_,
        Or.inr ⟨_, rfl, ?_, ?_⟩⟩
      · rw [ne_eq, List.take_eq_nil_iff, not_or]
        exact ⟨by omega, hne⟩
      · exact fun c hc => hdigits c (List.mem_of_mem_take hc)
      · rw [ne_eq, List.drop_eq_nil_iff]
        omega
      · exact fun c hc => hdigits c (List.mem_of_mem_drop hc)

/-- The plain format writes numerals. -/
theorem isNumeral_plain (d : Decimal) : IsNumeral d.plain := by
  unfold plain
  split
  · exact ⟨d.negative, ['0'], [], rfl, by simp, by simp, Or.inl rfl⟩
  · rename_i hdigits
    exact isNumeral_positional d.negative _ (significant_ne_nil hdigits)
      fun c hc => isDigit_of_mem_significant hc

/-- A result that rounds to a finite number is written as a numeral. -/
theorem isNumeral_resultText {x : Float} {number : Binary}
    (h : FloatValue.of (roundResult x) = .finite number) : IsNumeral (resultText x).toList := by
  unfold resultText
  dsimp only
  split
  · exact ⟨false, ['0'], [], rfl, by simp, by simp, Or.inl rfl⟩
  · simp only [plainText, h, String.toList_ofList]
    exact isNumeral_plain _

end Decimal
end SheetMarkup
