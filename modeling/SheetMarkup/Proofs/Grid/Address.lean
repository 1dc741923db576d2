import Mathlib.Data.List.Induction
import Mathlib.Data.Nat.Digits.Defs
import SheetMarkup.Grid.Address
import SheetMarkup.Proofs.Text.Characters

/-!
# Addresses — what is written is read back

The letters of a column are a numeral to base 26 whose digits run from 1 to 26. It has a value however long it
is. Reading gives this value, or the largest index where the value is larger; writing takes the last letter off
the number again and again. As no digit is 0, a value has one numeral only, so columns and their letters
correspond one to one. Rows are written in decimal digits, and leading zeros are read as well.

* `numeralValue`: the value of the letters of a text, without a limit
* `columnNumber_eq_min`: reading stops at the largest index, and nowhere before
* `numeralValue_columnLetters`, `columnLetters_numeralValue`: writing and the value are inverse to each other
* `columnNumber_bijective`: columns and their letters
* `readDigits_toDigits`, `readDigits_getD`: the row that digits name
-/

namespace SheetMarkup

/-! ## Letters -/

theorem toNat_letterAt {digit : Nat} (h : digit < 26) : (letterAt digit).toNat = 65 + digit := by
  have hvalid : (65 + digit).isValidChar := Or.inl (by omega)
  show (Char.ofNat (65 + digit)).toNat = 65 + digit
  rw [Char.ofNat, dif_pos hvalid]
  rfl

theorem isAlpha_letterAt {digit : Nat} (h : digit < 26) : (letterAt digit).isAlpha = true := by
  rw [isAlpha_iff_toNat, toNat_letterAt h]
  omega

theorem letterValue_letterAt {digit : Nat} (h : digit < 26) :
    letterValue (letterAt digit) = digit + 1 := by
  have hA : 'A'.toNat = 65 := rfl
  have hnat := toNat_letterAt h
  rw [letterValue, toNat_toUpper, hnat, hA]
  split <;> omega

/-- No letter stands for 0. -/
theorem letterValue_bounds {c : Char} (h : c.isAlpha = true) :
    0 < letterValue c ∧ letterValue c ≤ 26 := by
  have hA : 'A'.toNat = 65 := rfl
  rw [isAlpha_iff_toNat] at h
  rw [letterValue, toNat_toUpper, hA]
  split <;> omega

theorem letterAt_letterValue {c : Char} (h : c.isAlpha = true) :
    letterAt (letterValue c - 1) = c.toUpper := by
  have hA : 'A'.toNat = 65 := rfl
  have hupper : 65 ≤ c.toUpper.toNat := by
    rw [isAlpha_iff_toNat] at h
    rw [toNat_toUpper]
    split <;> omega
  have hsum : 'A'.toNat + (letterValue c - 1) = c.toUpper.toNat := by
    rw [letterValue, hA]
    omega
  rw [letterAt, hsum, Char.ofNat_toNat]

/-! ## Values -/

/-- The value of the basic letters of a text, the last of which counts once and each other one 26 times as much
as the next. -/
def numeralValue (text : List Char) : Nat :=
  Nat.ofDigits 26 ((text.filter Char.isAlpha).reverse.map letterValue)

theorem numeralValue_append_letter (text : List Char) {c : Char} (hc : c.isAlpha = true) :
    numeralValue (text ++ [c]) = numeralValue text * 26 + letterValue c := by
  simp [numeralValue, List.filter_append, hc, Nat.ofDigits_cons, Nat.add_comm, Nat.mul_comm]

theorem numeralValue_append_other (text : List Char) {c : Char} (hc : ¬ c.isAlpha = true) :
    numeralValue (text ++ [c]) = numeralValue text := by
  simp [numeralValue, List.filter_append, hc]

/-- What stands in front has no larger value than the whole. -/
theorem numeralValue_le_append (front back : List Char) :
    numeralValue front ≤ numeralValue (front ++ back) := by
  induction back using List.reverseRecOn with
  | nil => simp
  | append_singleton back c ih =>
    rw [← List.append_assoc]
    by_cases hc : c.isAlpha = true
    · rw [numeralValue_append_letter _ hc]
      omega
    · rw [numeralValue_append_other _ hc]
      exact ih

/-! ## Reading -/

theorem columnNumber_append_letter (text : List Char) {c : Char} (hc : c.isAlpha = true) :
    columnNumber (text ++ [c]) = min maxIndex (columnNumber text * 26 + letterValue c) := by
  simp [columnNumber, List.filter_append, hc]

theorem columnNumber_append_other (text : List Char) {c : Char} (hc : ¬ c.isAlpha = true) :
    columnNumber (text ++ [c]) = columnNumber text := by
  simp [columnNumber, List.filter_append, hc]

/-- Reading gives the value of the letters, as far as it is an index. -/
theorem columnNumber_eq_min (text : List Char) :
    columnNumber text = min maxIndex (numeralValue text) := by
  induction text using List.reverseRecOn with
  | nil => rfl
  | append_singleton text c ih =>
    by_cases hc : c.isAlpha = true
    · -- Once the largest index is reached, a further letter only leads beyond it again.
      rw [columnNumber_append_letter _ hc, numeralValue_append_letter _ hc, ih]
      omega
    · rw [columnNumber_append_other _ hc, numeralValue_append_other _ hc, ih]

/-- Reading saturates, so a column is an index whatever letters it is written with. -/
theorem columnNumber_le_maxIndex (text : List Char) : columnNumber text ≤ maxIndex := by
  rw [columnNumber_eq_min]
  exact Nat.min_le_left _ _

/-! ## Writing -/

/-- The letters in front are those of the rest of the number. -/
theorem lettersOnto_eq_append (fuel n : Nat) (letters : List Char) :
    lettersOnto fuel n letters = lettersOnto fuel n [] ++ letters := by
  induction fuel generalizing n letters with
  | zero => rfl
  | succ fuel ih =>
    unfold lettersOnto
    split
    · rfl
    · rw [ih, ih ((n - 1) / 26) [_]]
      simp

/-- More fuel than the number itself changes nothing. -/
theorem lettersOnto_of_le {fuel n : Nat} (h : n ≤ fuel) : lettersOnto fuel n [] = columnLetters n := by
  unfold columnLetters
  induction n using Nat.strongRecOn generalizing fuel with
  | ind n ih =>
    cases n with
    | zero => cases fuel <;> rfl
    | succ n =>
      cases fuel with
      | zero => omega
      | succ fuel =>
        have hsmaller : n / 26 < n + 1 := by omega
        have hgiven := ih _ hsmaller (show n / 26 ≤ fuel by omega)
        have hleast := ih _ hsmaller (show n / 26 ≤ n by omega)
        simp only [lettersOnto, Nat.add_one_ne_zero, if_false, Nat.add_sub_cancel]
        rw [lettersOnto_eq_append, lettersOnto_eq_append n, hgiven, hleast]

/-- The last letter is taken off, and the others are those of the rest of the number. -/
theorem columnLetters_eq_append {n : Nat} (hpos : 0 < n) :
    columnLetters n = columnLetters ((n - 1) / 26) ++ [letterAt ((n - 1) % 26)] := by
  cases n with
  | zero => cases hpos
  | succ n =>
    rw [Nat.add_sub_cancel, columnLetters, lettersOnto, if_neg (Nat.add_one_ne_zero n),
      Nat.add_sub_cancel, lettersOnto_eq_append, lettersOnto_of_le (by omega)]

theorem columnLetters_ne_nil {n : Nat} (hpos : 0 < n) : columnLetters n ≠ [] := by
  rw [columnLetters_eq_append hpos]
  simp

theorem isAlpha_of_mem_columnLetters {n : Nat} : ∀ c ∈ columnLetters n, c.isAlpha = true := by
  induction n using Nat.strongRecOn with
  | ind n ih =>
    rcases Nat.eq_zero_or_pos n with rfl | hpos
    · simp [columnLetters, lettersOnto]
    · intro c hc
      rw [columnLetters_eq_append hpos] at hc
      rcases List.mem_append.1 hc with hfront | hlast
      · exact ih _ (by omega) c hfront
      · rw [List.mem_singleton.1 hlast]
        exact isAlpha_letterAt (Nat.mod_lt _ (by decide))

/-- The letters of a number have that number as their value. -/
theorem numeralValue_columnLetters (n : Nat) : numeralValue (columnLetters n) = n := by
  induction n using Nat.strongRecOn with
  | ind n ih =>
    rcases Nat.eq_zero_or_pos n with rfl | hpos
    · rfl
    · have hdigit : (n - 1) % 26 < 26 := Nat.mod_lt _ (by decide)
      rw [columnLetters_eq_append hpos, numeralValue_append_letter _ (isAlpha_letterAt hdigit),
        ih _ (by omega), letterValue_letterAt hdigit]
      omega

/-- Letters are written as the letters of their value, in upper case. -/
theorem columnLetters_numeralValue {letters : List Char} (hletters : ∀ c ∈ letters, c.isAlpha = true) :
    columnLetters (numeralValue letters) = letters.map Char.toUpper := by
  induction letters using List.reverseRecOn with
  | nil => rfl
  | append_singleton front c ih =>
    have hc : c.isAlpha = true := hletters c (by simp)
    have hfront := ih fun d hd => hletters d (List.mem_append_left _ hd)
    rcases letterValue_bounds hc with ⟨hpos, hle⟩
    -- The digit is at least 1 and at most 26, so taking off 1 first leaves it as the remainder.
    have hquotient : (numeralValue front * 26 + letterValue c - 1) / 26 = numeralValue front := by
      omega
    have hremainder : (numeralValue front * 26 + letterValue c - 1) % 26 = letterValue c - 1 := by
      omega
    rw [numeralValue_append_letter _ hc, columnLetters_eq_append (by omega), hquotient, hremainder,
      hfront, letterAt_letterValue hc, List.map_append, List.map_cons, List.map_nil]

theorem numeralValue_filter (text : List Char) :
    numeralValue (text.filter Char.isAlpha) = numeralValue text := by
  simp [numeralValue, List.filter_filter]

/-! ## Columns and letters -/

/-- The letters of a column name that column. -/
theorem columnNumber_columnLetters {n : Nat} (h : n ≤ maxIndex) :
    columnNumber (columnLetters n) = n := by
  rw [columnNumber_eq_min, numeralValue_columnLetters]
  exact Nat.min_eq_right h

/-- Columns and their letters correspond one to one, over all indices. The letters of an index are read as that
index, and no part of them is cut off at the largest one on the way. Any text is read as the value of its letters
or as the largest index, and where the value is an index, these letters are what is written for it. -/
theorem columnNumber_bijective :
    (∀ n ≤ maxIndex, columnNumber (columnLetters n) = n ∧
        ∀ front, front <+: columnLetters n → columnNumber front = numeralValue front) ∧
      ∀ text : List Char, columnNumber text = min maxIndex (numeralValue text) ∧
        (numeralValue text ≤ maxIndex →
          columnLetters (columnNumber text) = (text.filter Char.isAlpha).map Char.toUpper) := by
  refine ⟨fun n hn => ⟨columnNumber_columnLetters hn, ?_⟩,
    fun text => ⟨columnNumber_eq_min text, ?_⟩⟩
  · rintro front ⟨back, hback⟩
    have hle := numeralValue_le_append front back
    rw [hback, numeralValue_columnLetters] at hle
    rw [columnNumber_eq_min]
    exact Nat.min_eq_right (hle.trans hn)
  · intro hfits
    rw [columnNumber_eq_min, Nat.min_eq_right hfits, ← numeralValue_filter]
    exact columnLetters_numeralValue fun c hc => (List.mem_filter.1 hc).2

/-- The last column, and a text whose letters name it. -/
theorem columnNumber_bijective_lastColumn :
    columnNumber (columnLetters maxIndex) = maxIndex ∧
      numeralValue "gkgWBYL wrxtlpo-".toList ≤ maxIndex ∧
      columnLetters (columnNumber "gkgWBYL wrxtlpo-".toList) = "GKGWBYLWRXTLPO".toList := by
  have hfits : numeralValue "gkgWBYL wrxtlpo-".toList ≤ maxIndex := by decide
  refine ⟨(columnNumber_bijective.1 maxIndex (Nat.le_refl _)).1, hfits, ?_⟩
  rw [(columnNumber_bijective.2 _).2 hfits]
  decide

/-! ## Digits -/

/-- Digits are read as their value, unless it is larger than every index. -/
theorem readDigits_of_isDigit {digits : List Char} (hne : digits ≠ [])
    (hdigits : ∀ c ∈ digits, c.isDigit = true) :
    readDigits digits =
      if Nat.ofDigitChars 10 digits 0 ≤ maxIndex then some (Nat.ofDigitChars 10 digits 0) else none := by
  have hall : digits.all Char.isDigit = true := List.all_eq_true.2 hdigits
  simp [readDigits, hne, hall]

/-- The digits of an index are read as that index. -/
theorem readDigits_toDigits {n : Nat} (h : n ≤ maxIndex) :
    readDigits (Nat.toDigits 10 n) = some n := by
  rw [readDigits_of_isDigit Nat.toDigits_ne_nil isDigit_of_mem_toDigits, Nat.ofDigitChars_ten_toDigits,
    if_pos h]

/-- The largest index takes the place of a value that is too large. -/
theorem readDigits_getD {digits : List Char} (hne : digits ≠ [])
    (hdigits : ∀ c ∈ digits, c.isDigit = true) :
    (readDigits digits).getD maxIndex = min maxIndex (Nat.ofDigitChars 10 digits 0) := by
  rw [readDigits_of_isDigit hne hdigits]
  split
  · rename_i hfits
    exact (Nat.min_eq_right hfits).symm
  · rename_i hlarge
    exact (Nat.min_eq_left (Nat.le_of_not_le hlarge)).symm

theorem le_maxIndex_of_readDigits {digits : List Char} {n : Nat} (h : readDigits digits = some n) :
    n ≤ maxIndex := by
  simp only [readDigits, Option.ite_none_left_eq_some, Option.ite_none_right_eq_some,
    Option.some.injEq] at h
  rcases h with ⟨_, hle, rfl⟩
  exact hle

end SheetMarkup
