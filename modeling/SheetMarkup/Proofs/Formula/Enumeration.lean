import Mathlib.Data.List.Nodup
import Mathlib.Data.List.ProdSigma
import Mathlib.Data.Sym.Sym2
import SheetMarkup.Proofs.Formula.Edge

/-!
# Enumeration — what the expansion of a range lists

A range names two corners of a rectangle, each of them by letters and digits that may be too large for an index.
Its expansion lists the rectangle column by column, up to the first address outside the grid. What is listed
before lies in the grid, and no address is listed twice, so the list is hardly longer than the grid is large,
however large the rectangle may be. Each token of the list is read as the address it was written for.

* `RangeToken.listed`: the addresses between the corners, up to the first outside the grid
* `RangeToken.SameCorners`: ranges that name one rectangle, by any two of its corners and in any case
* `length_listed_le`: how many addresses are listed
* `occurrences_commaJoined`: the tokens of a list are found one after another
* `expandRange_enumerates`: the expansion of a range
-/

namespace SheetMarkup

/-! ## Addresses -/

def addressesBetween (first second : Nat × Nat) : List (Nat × Nat) :=
  addressesFrom (min first.1 second.1) (max first.1 second.1) (min first.2 second.2)
    (max first.2 second.2)

theorem addressesFrom_eq_product (left right top bottom : Nat) :
    addressesFrom left right top bottom =
      List.range' left (right + 1 - left) ×ˢ List.range' top (bottom + 1 - top) := rfl

theorem nodup_addressesFrom (left right top bottom : Nat) :
    (addressesFrom left right top bottom).Nodup := by
  rw [addressesFrom_eq_product]
  exact List.Nodup.product List.nodup_range' List.nodup_range'

theorem isOutside_eq_false_iff {rows columns : Nat} {address : Nat × Nat} :
    isOutside rows columns address = false ↔ address ∈ addressesFrom 1 columns 1 rows := by
  rw [mem_addressesFrom_iff]
  simp only [isOutside, Bool.or_eq_false_iff, beq_eq_false_iff_ne, decide_eq_false_iff_not]
  omega

/-- There are no more addresses in a grid than it has room for cells. -/
theorem length_le_of_inside {rows columns : Nat} {addresses : List (Nat × Nat)}
    (hnodup : addresses.Nodup) (hinside : ∀ a ∈ addresses, isOutside rows columns a = false) :
    addresses.length ≤ rows * columns := by
  have hsubset : addresses ⊆ addressesFrom 1 columns 1 rows :=
    fun a ha => isOutside_eq_false_iff.1 (hinside a ha)
  calc
    addresses.length ≤ (addressesFrom 1 columns 1 rows).length :=
      (List.subperm_of_subset hnodup hsubset).length_le
    _ = columns * rows := by simp [addressesFrom_eq_product, List.length_product]
    _ = rows * columns := Nat.mul_comm columns rows

/-- Of a list cut after its first address outside, all but the last one are in the grid. -/
theorem length_takeThrough_le {rows columns : Nat} {addresses : List (Nat × Nat)}
    (hnodup : addresses.Nodup) :
    (takeThrough (isOutside rows columns) addresses).length ≤ rows * columns + 1 := by
  rcases takeThrough_cases (isOutside rows columns) addresses with
    ⟨hinside, hwhole⟩ | ⟨before, last, after, hsplit, hinside, _, hcut⟩
  · rw [hwhole]
    exact (length_le_of_inside hnodup hinside).trans (Nat.le_succ _)
  · -- The address outside may be any, so it is counted apart.
    rw [hsplit] at hnodup
    rw [hcut, List.length_append, List.length_singleton]
    exact Nat.succ_le_succ (length_le_of_inside (List.nodup_append.1 hnodup).1 hinside)

namespace Corner

/-- The column and the row that a corner names, the largest index in place of one that is larger. -/
def address (corner : Corner) : Nat × Nat :=
  (min maxIndex (numeralValue corner.letters), min maxIndex (Nat.ofDigitChars 10 corner.digits 0))

theorem IsToken.address_eq {corner : Corner} (h : corner.IsToken) :
    corner.address = (corner.column, RangeToken.rowOf corner) := by
  rw [address, column, columnNumber_eq_min, RangeToken.rowOf, row?,
    readDigits_getD h.digits_ne h.digits]

end Corner

/-! ## Tokens in a list -/

theorem occurrences_of_not_mem {cs : List Char} (h : '[' ∉ cs) : occurrences referenceAt? cs = [] := by
  rw [List.eq_nil_iff_forall_not_mem]
  intro reference hmem
  rcases mem_occurrences.1 hmem with ⟨c, rest, hsuffix, hfound⟩
  rcases referenceAt?_eq_some hfound with ⟨_, tail, heq⟩
  have hopen : c = '[' := by
    rw [Corner.token] at heq
    exact (List.cons.inj heq).1
  exact h (hsuffix.subset (hopen ▸ List.mem_cons_self))

theorem occurrences_token {corner : Corner} (htoken : corner.IsToken) :
    occurrences referenceAt? corner.token = [corner] := by
  have hfound := referenceAt?_token htoken []
  rw [List.append_nil] at hfound
  have hsplit : corner.token = '[' :: corner.token.tail := rfl
  rw [hsplit] at hfound ⊢
  rw [occurrences, hfound, occurrences_of_not_mem htoken.not_mem_tail]
  rfl

/-- The tokens of a list are found one after another, and nothing else is. -/
theorem occurrences_commaJoined {corners : List Corner} (h : ∀ corner ∈ corners, corner.IsToken) :
    occurrences referenceAt? (commaJoined (corners.map Corner.token)) = corners := by
  induction corners with
  | nil => rfl
  | cons first rest ih =>
    have hfirst : first.IsToken := h first List.mem_cons_self
    have hrest := ih fun corner hcorner => h corner (List.mem_cons_of_mem first hcorner)
    cases rest with
    | nil => simpa [commaJoined] using occurrences_token hfirst
    | cons second rest =>
      -- Each token but the last ends with a bracket in front of a comma.
      have htoken : first.token = '[' :: (first.letters ++ first.digits) ++ [']'] := by
        simp [Corner.token]
      rw [List.map_cons, List.map_cons, commaJoined_cons_cons, htoken, occurrences_append_bracket,
        ← htoken, occurrences_token hfirst]
      exact congrArg (first :: ·) hrest

/-! ## Ranges -/

namespace RangeToken

/-- The addresses that a range lists in a grid of the given size: those of the rectangle between its corners,
column by column and each column from the top, up to the first one outside. -/
def listed (range : RangeToken) (rows columns : Nat) : List (Nat × Nat) :=
  takeThrough (isOutside rows columns)
    (addressesBetween range.first.address range.second.address)

/-- Two ranges name one rectangle: they have the same letters, in either case, and the same digits, each of them
at either corner. -/
structure SameCorners (range other : RangeToken) : Prop where
  letters : s(other.first.letters.map Char.toUpper, other.second.letters.map Char.toUpper) =
    s(range.first.letters.map Char.toUpper, range.second.letters.map Char.toUpper)
  digits : s(other.first.digits, other.second.digits) = s(range.first.digits, range.second.digits)

variable {range other : RangeToken} {rows columns : Nat}

theorem addresses_eq_between (h : range.IsToken) :
    range.rectangle.addresses = addressesBetween range.first.address range.second.address := by
  rw [h.first.address_eq, h.second.address_eq]
  rfl

theorem expand_eq_listed (h : range.IsToken) (rows columns : Nat) :
    range.expand rows columns =
      commaJoined ((range.listed rows columns).map fun (column, row) => cellToken column row) := by
  rw [expand, addressesWithin_eq_takeThrough, addresses_eq_between h, listed]

theorem length_listed_le (range : RangeToken) (rows columns : Nat) :
    (range.listed rows columns).length ≤ rows * columns + 1 :=
  length_takeThrough_le (nodup_addressesFrom _ _ _ _)

/-- What is listed are indices, and no column is 0. -/
theorem bounds_of_mem_listed (htoken : range.IsToken) (hbasic : range.IsBasic) {address : Nat × Nat}
    (h : address ∈ range.listed rows columns) :
    0 < address.1 ∧ address.1 ≤ maxIndex ∧ address.2 ≤ maxIndex := by
  apply bounds_of_mem_addresses htoken hbasic
  rw [addresses_eq_between htoken]
  rcases takeThrough_cases (isOutside rows columns)
      (addressesBetween range.first.address range.second.address) with
    ⟨_, hwhole⟩ | ⟨before, last, after, hsplit, _, _, hcut⟩
  · rwa [listed, hwhole] at h
  · rw [listed, hcut] at h
    rw [hsplit]
    rcases List.mem_append.1 h with hbefore | hlast
    · exact List.mem_append_left _ hbefore
    · rw [List.mem_singleton.1 hlast]
      simp

/-! ## Other names of a rectangle -/

theorem min_max_of_pair_eq {a b c d : Nat} (h : s(a, b) = s(c, d)) :
    min a b = min c d ∧ max a b = max c d := by
  rcases Sym2.eq_iff.1 h with ⟨rfl, rfl⟩ | ⟨rfl, rfl⟩
  · exact ⟨rfl, rfl⟩
  · exact ⟨Nat.min_comm _ _, Nat.max_comm _ _⟩

/-- Letters that are basic ones in upper case are basic ones. -/
theorem isColumnLetter_of_map_toUpper {letters basic : List Char}
    (h : letters.map Char.toUpper = basic.map Char.toUpper) (hbasic : ∀ c ∈ basic, c.isAlpha = true) :
    ∀ c ∈ letters, isColumnLetter c = true := by
  intro c hc
  have hmem : c.toUpper ∈ basic.map Char.toUpper := h ▸ List.mem_map_of_mem hc
  rcases List.mem_map.1 hmem with ⟨d, hd, heq⟩
  have halpha : c.isAlpha = true := by
    rw [← isAlpha_toUpper, ← heq, isAlpha_toUpper]
    exact hbasic d hd
  simp [isColumnLetter, halpha]

namespace SameCorners

/-- Another name of a rectangle can be part of a text as well. -/
theorem isToken (h : range.SameCorners other) (htoken : range.IsToken) (hbasic : range.IsBasic) :
    other.IsToken := by
  have hcorner : ∀ corner : Corner,
      corner.letters.map Char.toUpper ∈
        s(range.first.letters.map Char.toUpper, range.second.letters.map Char.toUpper) →
      corner.digits ∈ s(range.first.digits, range.second.digits) → corner.IsToken := by
    intro corner hletters hdigits
    have hdigits' : corner.digits ≠ [] ∧ ∀ c ∈ corner.digits, c.isDigit = true := by
      rcases Sym2.mem_iff.1 hdigits with heq | heq
      · exact heq ▸ ⟨htoken.first.digits_ne, htoken.first.digits⟩
      · exact heq ▸ ⟨htoken.second.digits_ne, htoken.second.digits⟩
    have hletters' : corner.letters ≠ [] ∧ ∀ c ∈ corner.letters, isColumnLetter c = true := by
      rcases Sym2.mem_iff.1 hletters with heq | heq
      · refine ⟨fun hnil => htoken.first.letters_ne ?_, isColumnLetter_of_map_toUpper heq hbasic.1⟩
        simpa [hnil] using heq.symm
      · refine ⟨fun hnil => htoken.second.letters_ne ?_, isColumnLetter_of_map_toUpper heq hbasic.2⟩
        simpa [hnil] using heq.symm
    exact ⟨hletters'.1, hletters'.2, hdigits'.1, hdigits'.2⟩
  constructor
  · exact hcorner other.first (h.letters ▸ Sym2.mem_mk_left _ _) (h.digits ▸ Sym2.mem_mk_left _ _)
  · exact hcorner other.second (h.letters ▸ Sym2.mem_mk_right _ _) (h.digits ▸ Sym2.mem_mk_right _ _)

/-- Another name of a rectangle lists the same addresses. -/
theorem listed_eq (h : range.SameCorners other) (rows columns : Nat) :
    other.listed rows columns = range.listed rows columns := by
  have hcolumns : s(other.first.address.1, other.second.address.1) =
      s(range.first.address.1, range.second.address.1) := by
    have hmap := congrArg (Sym2.map columnNumber) h.letters
    simp only [Sym2.map_mk, columnNumber_map_toUpper] at hmap
    simpa only [Corner.address, ← columnNumber_eq_min] using hmap
  have hrows : s(other.first.address.2, other.second.address.2) =
      s(range.first.address.2, range.second.address.2) :=
    congrArg (Sym2.map fun digits => min maxIndex (Nat.ofDigitChars 10 digits 0)) h.digits
  rcases min_max_of_pair_eq hcolumns with ⟨hleft, hright⟩
  rcases min_max_of_pair_eq hrows with ⟨htop, hbottom⟩
  rw [listed, listed, addressesBetween, addressesBetween, hleft, hright, htop, hbottom]

end SameCorners

end RangeToken

/-! ## Expansion -/

/-- The expansion of a range of basic letters. It is the text of the addresses between the corners, column by
column and each column from the top, cut behind the first one outside the grid. Other names of the rectangle have
the same expansion. It has at most one reference more than the grid has room for cells, all of its columns and
rows are indices, and its references are read as the addresses they were written for, those to a row 0 as no
cell. -/
theorem expandRange_enumerates (range : RangeToken) (htoken : range.IsToken) (hbasic : range.IsBasic)
    (rows columns : Nat) :
    let text := expandRange range.token rows columns
    let listed := range.listed rows columns
    text = commaJoined (listed.map fun (column, row) => cellToken column row) ∧
      (∀ other : RangeToken, range.SameCorners other → expandRange other.token rows columns = text) ∧
      listed.length ≤ rows * columns + 1 ∧
      (∀ address ∈ listed, 0 < address.1 ∧ address.1 ≤ maxIndex ∧ address.2 ≤ maxIndex) ∧
      (occurrences referenceAt? text).map (fun reference => (reference.token, reference.position?)) =
        listed.map fun (column, row) =>
          (cellToken column row, if row = 0 then none else some (row - 1, column - 1)) := by
  intro text listed
  have htext : text = commaJoined (listed.map fun (column, row) => cellToken column row) :=
    (htoken.expandRange_token rows columns).trans (RangeToken.expand_eq_listed htoken rows columns)
  have hbounds : ∀ address ∈ listed, 0 < address.1 ∧ address.1 ≤ maxIndex ∧ address.2 ≤ maxIndex :=
    fun address hmem => RangeToken.bounds_of_mem_listed htoken hbasic hmem
  refine ⟨htext, ?_, range.length_listed_le rows columns, hbounds, ?_⟩
  · intro other hsame
    have hother := hsame.isToken htoken hbasic
    rw [hother.expandRange_token, RangeToken.expand_eq_listed hother, hsame.listed_eq, htext]
  · have hfound : occurrences referenceAt? text =
        listed.map fun (column, row) => Corner.ofAddress column row := by
      have htokens : ∀ corner ∈ listed.map fun (column, row) => Corner.ofAddress column row,
          corner.IsToken := by
        intro corner hcorner
        rcases List.mem_map.1 hcorner with ⟨address, hmem, rfl⟩
        exact Corner.isToken_ofAddress (hbounds address hmem).1
      have hjoined := occurrences_commaJoined htokens
      rw [List.map_map] at hjoined
      rw [htext]
      exact hjoined
    rw [hfound, List.map_map]
    apply List.map_congr_left
    intro address hmem
    rcases hbounds address hmem with ⟨hpos, hcolumn, hrow⟩
    simp [Corner.token_ofAddress, Corner.position?_ofAddress hcolumn hrow, Nat.ne_of_gt hpos]

/-- Two columns of more rows than there are indices, in a grid of two rows and five columns, and the same
rectangle by its other corners and in small letters. -/
theorem expandRange_enumerates_saturated :
    let range : RangeToken := ⟨⟨['B'], "99999999999999999999".toList⟩, ⟨['C'], ['1']⟩⟩
    let other : RangeToken := ⟨⟨['b'], ['1']⟩, ⟨['c'], "99999999999999999999".toList⟩⟩
    range.IsToken ∧ range.IsBasic ∧ range.SameCorners other ∧
      expandRange other.token 2 5 = "[B1],[B2],[B3]".toList ∧ (range.listed 2 5).length ≤ 11 := by
  intro range other
  have htoken : range.IsToken :=
    ⟨⟨by decide, List.all_eq_true.1 rfl, by decide, List.all_eq_true.1 rfl⟩,
      ⟨by decide, List.all_eq_true.1 rfl, by decide, List.all_eq_true.1 rfl⟩⟩
  have hbasic : range.IsBasic := by decide
  have hsame : range.SameCorners other := ⟨rfl, Sym2.eq_swap⟩
  rcases expandRange_enumerates range htoken hbasic 2 5 with ⟨_, hothers, hlength, _⟩
  refine ⟨htoken, hbasic, hsame, ?_, hlength⟩
  rw [hothers other hsame]
  decide

end SheetMarkup
