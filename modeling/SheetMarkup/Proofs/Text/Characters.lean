import Mathlib.Data.List.TakeWhile

/-!
# Characters — letters, digits, and the runs they stand in

The basic letters and digits are intervals of character numbers, so facts about them are facts about
numbers. Upper case moves the small letters and leaves every other character in its place. Nothing here
knows of cells or of formulas.

* `isAlpha_iff_toNat`, `toNat_of_isDigit`: letters and digits by their numbers
* `toNat_toUpper`: upper case by numbers
* `takeWhile_append_of_forall`, `eq_of_append_cons_eq`: where a run of characters ends
-/

namespace SheetMarkup

/-! ## Letters -/

theorem isAlpha_iff_toNat {c : Char} :
    c.isAlpha = true ↔ (65 ≤ c.toNat ∧ c.toNat ≤ 90) ∨ (97 ≤ c.toNat ∧ c.toNat ≤ 122) := by
  have hdef : c.isAlpha = (decide (c.val ≥ 'A'.val ∧ c.val ≤ 'Z'.val) ||
      (decide (c.val ≥ 'a'.val) && decide (c.val ≤ 'z'.val))) := rfl
  simp [hdef, UInt32.le_iff_toNat_le]

theorem toNat_toUpper (c : Char) :
    c.toUpper.toNat = if 97 ≤ c.toNat ∧ c.toNat ≤ 122 then c.toNat - 32 else c.toNat := by
  have hiff : ('a'.val ≤ c.val ∧ c.val ≤ 'z'.val) ↔ (97 ≤ c.toNat ∧ c.toNat ≤ 122) := by
    simp [UInt32.le_iff_toNat_le]
  unfold Char.toUpper
  split
  · rename_i h
    have hnat := hiff.1 h
    rw [if_pos hnat, Char.toNat_mk, UInt32.toNat_add, Char.toNat_val]
    -- The difference of the cases is negative, so it wraps around and so does the sum.
    have hshift : ('A'.val - 'a'.val).toNat = 2 ^ 32 - 32 := rfl
    omega
  · rename_i h
    rw [if_neg fun hnat => h (hiff.2 hnat)]

theorem toUpper_toUpper (c : Char) : c.toUpper.toUpper = c.toUpper := by
  apply Char.toNat_inj.1
  -- What is in upper case is not in the range that is moved.
  have hone := toNat_toUpper c
  have htwo := toNat_toUpper c.toUpper
  split at hone <;> split at htwo <;> omega

@[simp]
theorem isAlpha_toUpper (c : Char) : c.toUpper.isAlpha = c.isAlpha := by
  rw [Bool.eq_iff_iff, isAlpha_iff_toNat, isAlpha_iff_toNat, toNat_toUpper]
  split <;> omega

/-- What has these letters as its other case is a letter itself. -/
theorem isAlpha_of_map_toLower {word : List Char} (h : word.map Char.toLower = ['a', 'l', 'l']) :
    ∀ c ∈ word, c.isAlpha = true := by
  intro c hc
  have hmem : c.toLower ∈ ['a', 'l', 'l'] := by
    rw [← h]
    exact List.mem_map_of_mem hc
  by_cases hupper : c.val ≥ 'A'.val ∧ c.val ≤ 'Z'.val
  · have hdef : c.isAlpha = (decide (c.val ≥ 'A'.val ∧ c.val ≤ 'Z'.val) ||
        (decide (c.val ≥ 'a'.val) && decide (c.val ≤ 'z'.val))) := rfl
    rw [hdef, decide_eq_true hupper, Bool.true_or]
  · have hsame : c.toLower = c := dif_neg hupper
    rw [hsame] at hmem
    have hletters : ∀ d ∈ ['a', 'l', 'l'], d.isAlpha = true := by simp
    exact hletters c hmem

/-! ## Digits -/

theorem toNat_of_isDigit {c : Char} (h : c.isDigit = true) : 48 ≤ c.toNat ∧ c.toNat ≤ 57 :=
  Char.isDigit_iff_toNat.1 h

theorem isDigit_of_mem_toDigits {n : Nat} : ∀ c ∈ Nat.toDigits 10 n, c.isDigit = true :=
  fun _ hc => Nat.isDigit_of_mem_toDigits (by decide) (by decide) hc

theorem not_isAlpha_of_isDigit {c : Char} (h : c.isDigit = true) : c.isAlpha = false := by
  rw [Bool.eq_false_iff]
  intro halpha
  have hdigit := toNat_of_isDigit h
  rw [isAlpha_iff_toNat] at halpha
  omega

theorem toUpper_of_isDigit {c : Char} (h : c.isDigit = true) : c.toUpper = c := by
  have hdigit := toNat_of_isDigit h
  apply Char.toNat_inj.1
  rw [toNat_toUpper]
  split <;> omega

/-! ## Runs -/

section Runs

variable {α : Type} {word rest : List α}

/-- A run is cut off where the first character stands that does not belong to it. -/
theorem takeWhile_append_of_forall {belongs : α → Bool} (hword : ∀ a ∈ word, belongs a = true)
    (hrest : ∀ a ∈ rest.head?, belongs a = false) :
    (word ++ rest).takeWhile belongs = word ∧ (word ++ rest).dropWhile belongs = rest := by
  have hstart : rest.takeWhile belongs = [] ∧ rest.dropWhile belongs = rest := by
    cases rest with
    | nil => simp
    | cons a rest => simp [hrest a rfl]
  rw [List.takeWhile_append_of_pos hword, List.dropWhile_append_of_pos hword, hstart.1, hstart.2,
    List.append_nil]
  exact ⟨rfl, rfl⟩

/-- A word ends at the first character that it does not hold. -/
theorem eq_of_append_cons_eq {a : α} {word' rest' : List α} (hword : a ∉ word) (hword' : a ∉ word')
    (h : word ++ a :: rest = word' ++ a :: rest') : word = word' ∧ rest = rest' := by
  induction word generalizing word' with
  | nil =>
    cases word' with
    | nil => simpa using h
    | cons b word' =>
      have ha : a = b := (List.cons.inj h).1
      exact absurd List.mem_cons_self (ha ▸ hword')
  | cons b word ih =>
    cases word' with
    | nil =>
      have ha : b = a := (List.cons.inj h).1
      exact absurd List.mem_cons_self (ha ▸ hword)
    | cons d word' =>
      rcases List.cons.inj h with ⟨rfl, hlast⟩
      simp only [List.mem_cons, not_or] at hword hword'
      rcases ih hword.2 hword'.2 hlast with ⟨rfl, hrest⟩
      exact ⟨rfl, hrest⟩

theorem nodup_eraseDups [BEq α] [LawfulBEq α] (xs : List α) : xs.eraseDups.Nodup := by
  -- The recursion removes every further copy of the head, so the induction is on the length.
  induction hlength : xs.length using Nat.strongRecOn generalizing xs with
  | ind n ih =>
    cases xs with
    | nil => simp
    | cons x xs =>
      have hshorter : (xs.filter fun y => !y == x).length < n := by
        have hle := List.length_filter_le (fun y => !y == x) xs
        simp only [List.length_cons] at hlength
        omega
      rw [List.eraseDups_cons, List.nodup_cons]
      exact ⟨by simp [List.mem_eraseDups], ih _ hshorter _ rfl⟩

end Runs

end SheetMarkup
