import SheetMarkup.Proofs.Formula.OnePass

/-!
# Edge — texts that agree up to a reference outside the grid

A range that reaches beyond the grid is expanded up to its first reference outside. The text differs from
that of the full expansion only behind the token of this reference, and so do expressions in which some
ranges are cut off. No token reaches over the bracket that closes another one, so the references up to the
one outside are the same, in the same order.

* `SameToEdge`: texts that are equal, or equal up to the token of a reference outside
* `RangeToken.expandWhole`, `RangeToken.sameToEdge_expand`: ranges cut off, and whole
* `SameToEdge.expandOnce`: expressions with such ranges
* `SameToEdge.references`: the references of such texts
-/

namespace SheetMarkup

/-! ## References outside -/

namespace Corner

def IsOutside (rows columns : Nat) (corner : Corner) : Prop :=
  ∀ p, corner.position? = some p → rows ≤ p.1 ∨ columns ≤ p.2

def ofAddress (column row : Nat) : Corner :=
  ⟨columnLetters column, Nat.toDigits 10 row⟩

theorem token_ofAddress (column row : Nat) : (ofAddress column row).token = cellToken column row := rfl

variable {column row : Nat}

theorem isToken_ofAddress (hpos : 0 < column) : (ofAddress column row).IsToken where
  letters_ne := columnLetters_ne_nil hpos
  letters c hc := by simp [isColumnLetter, isAlpha_of_mem_columnLetters c hc]
  digits_ne := Nat.toDigits_ne_nil
  digits := isDigit_of_mem_toDigits

/-- A reference to an address is read as that address. Rows and columns are counted from 1, so none with a 0 in
it names a cell. -/
theorem position?_ofAddress (hcolumn : column ≤ maxIndex) (hrow : row ≤ maxIndex) :
    (ofAddress column row).position? =
      if row = 0 ∨ column = 0 then none else some (row - 1, column - 1) := by
  have hread : (ofAddress column row).row? = some row := readDigits_toDigits hrow
  have hletters : (ofAddress column row).column = column := columnNumber_columnLetters hcolumn
  rw [position?, hread, hletters]
  cases row with
  | zero => simp
  | succ row => cases column <;> simp

theorem isOutside_ofAddress {rows columns : Nat} (hcolumn : column ≤ maxIndex)
    (hrow : row ≤ maxIndex) (h : isOutside rows columns (column, row) = true) :
    (ofAddress column row).IsOutside rows columns := by
  intro p hp
  rw [position?_ofAddress hcolumn hrow, Option.ite_none_left_eq_some] at hp
  rcases hp with ⟨hnonzero, heq⟩
  cases heq
  simp only [isOutside, Bool.or_eq_true, beq_iff_eq, decide_eq_true_eq] at h
  omega

/-- The column of basic letters is counted from 1. -/
theorem column_pos {corner : Corner} (htoken : corner.IsToken) (hbasic : corner.IsBasic) :
    0 < corner.column := by
  rcases List.eq_nil_or_concat corner.letters with hnil | ⟨front, last, hconcat⟩
  · exact absurd hnil htoken.letters_ne
  · have hlast : last.isAlpha = true := hbasic last (by simp [hconcat])
    have hmax : 0 < maxIndex := by decide
    rw [column, hconcat, List.concat_eq_append, columnNumber_append_letter front hlast, letterValue]
    omega

end Corner

/-! ## Texts -/

/-- Texts that are equal, or equal up to the token of a reference outside a grid of the given size. -/
inductive SameToEdge (rows columns : Nat) : List Char → List Char → Prop where
  | same (text : List Char) : SameToEdge rows columns text text
  | edge {corner : Corner} (front rest rest' : List Char) :
      corner.IsToken → corner.IsOutside rows columns →
      SameToEdge rows columns (front ++ corner.token ++ rest) (front ++ corner.token ++ rest')

namespace SameToEdge

variable {rows columns : Nat} {text text' more more' : List Char}

theorem append_left (front : List Char) (h : SameToEdge rows columns text text') :
    SameToEdge rows columns (front ++ text) (front ++ text') := by
  cases h with
  | same => exact same _
  | edge inner rest rest' htoken houtside =>
    simpa using edge (front ++ inner) rest rest' htoken houtside

/-- What stands behind a reference outside may be anything. -/
theorem append (h : SameToEdge rows columns text text') (hmore : SameToEdge rows columns more more') :
    SameToEdge rows columns (text ++ more) (text' ++ more') := by
  cases h with
  | same => exact hmore.append_left text
  | edge front rest rest' htoken houtside =>
    simpa using edge front (rest ++ more) (rest' ++ more') htoken houtside

end SameToEdge

/-! ## Ranges -/

namespace RangeToken

def IsBasic (range : RangeToken) : Prop :=
  range.first.IsBasic ∧ range.second.IsBasic

instance (range : RangeToken) : Decidable range.IsBasic :=
  inferInstanceAs (Decidable (_ ∧ _))

def expandWhole (range : RangeToken) : List Char :=
  commaJoined (range.rectangle.addresses.map fun (column, row) => cellToken column row)

end RangeToken

/-- A list is cut after the first entry that is beyond, or nowhere if there is none. -/
theorem takeThrough_cases {α : Type} (beyond : α → Bool) (xs : List α) :
    ((∀ x ∈ xs, beyond x = false) ∧ takeThrough beyond xs = xs) ∨
      ∃ before x after, xs = before ++ x :: after ∧ (∀ y ∈ before, beyond y = false) ∧
        beyond x = true ∧ takeThrough beyond xs = before ++ [x] := by
  induction xs with
  | nil => exact Or.inl ⟨by simp, rfl⟩
  | cons y ys ih =>
    cases hy : beyond y with
    | true => exact Or.inr ⟨[], y, ys, rfl, by simp, hy, by simp [takeThrough, hy]⟩
    | false =>
      rcases ih with ⟨hinside, hwhole⟩ | ⟨before, x, after, rfl, hinside, hx, hcut⟩
      · exact Or.inl ⟨List.forall_mem_cons.2 ⟨hy, hinside⟩, by simp [takeThrough, hy, hwhole]⟩
      · exact Or.inr ⟨y :: before, x, after, rfl, List.forall_mem_cons.2 ⟨hy, hinside⟩, hx,
          by simp [takeThrough, hy, hcut]⟩

/-- What stands in front of a joined text does not depend on what follows it. -/
theorem commaJoined_append_cons (texts : List (List Char)) (text : List Char) :
    ∃ front, ∀ rest, ∃ back, commaJoined (texts ++ text :: rest) = front ++ text ++ back := by
  induction texts with
  | nil =>
    refine ⟨[], fun rest => ?_⟩
    cases rest with
    | nil => exact ⟨[], by simp [commaJoined]⟩
    | cons second rest => exact ⟨',' :: commaJoined (second :: rest), by simp [commaJoined_cons_cons]⟩
  | cons first texts ih =>
    rcases ih with ⟨front, hfront⟩
    refine ⟨first ++ ',' :: front, fun rest => ?_⟩
    rcases hfront rest with ⟨back, hback⟩
    refine ⟨back, ?_⟩
    cases texts with
    | nil => simpa [commaJoined_cons_cons] using hback
    | cons second texts => simpa [commaJoined_cons_cons] using hback

namespace RangeToken

variable {range : RangeToken}

theorem rowOf_le_maxIndex (corner : Corner) : rowOf corner ≤ maxIndex := by
  rw [rowOf]
  cases hrow : corner.row? with
  | none => simp
  | some row => simpa using le_maxIndex_of_readDigits hrow

/-- The addresses of a range of basic letters are indices, and no column is 0. -/
theorem bounds_of_mem_addresses (htoken : range.IsToken) (hbasic : range.IsBasic)
    {column row : Nat} (h : (column, row) ∈ range.rectangle.addresses) :
    0 < column ∧ column ≤ maxIndex ∧ row ≤ maxIndex := by
  have hfirst := Corner.column_pos htoken.first hbasic.1
  have hsecond := Corner.column_pos htoken.second hbasic.2
  have hfirst' : range.first.column ≤ maxIndex := columnNumber_le_maxIndex _
  have hsecond' : range.second.column ≤ maxIndex := columnNumber_le_maxIndex _
  have hrow := rowOf_le_maxIndex range.first
  have hrow' := rowOf_le_maxIndex range.second
  have hmem := mem_addressesFrom_iff.1 h
  simp only [rectangle] at hmem
  omega

/-- A range cut off at the edge of a grid has the text of the whole range, up to the reference outside
at which it is cut. -/
theorem sameToEdge_expand (htoken : range.IsToken) (hbasic : range.IsBasic) (rows columns : Nat) :
    SameToEdge rows columns (range.expand rows columns) range.expandWhole := by
  unfold expand expandWhole
  rw [addressesWithin_eq_takeThrough]
  rcases takeThrough_cases (isOutside rows columns) range.rectangle.addresses with
    ⟨_, hwhole⟩ | ⟨before, ⟨column, row⟩, after, haddresses, _, hbeyond, hcut⟩
  · rw [hwhole]
    exact SameToEdge.same _
  · -- The address at which the list is cut names no cell, so its token is the edge.
    have hmem : (column, row) ∈ range.rectangle.addresses := by simp [haddresses]
    have hbounds := bounds_of_mem_addresses htoken hbasic hmem
    rcases commaJoined_append_cons (before.map fun (column, row) => cellToken column row)
      (cellToken column row) with ⟨front, hfront⟩
    rcases hfront [] with ⟨back, hshort⟩
    rcases hfront (after.map fun (column, row) => cellToken column row) with ⟨back', hlong⟩
    rw [hcut, haddresses, List.map_append, List.map_append, List.map_cons, List.map_cons,
      List.map_nil, hshort, hlong, ← Corner.token_ofAddress]
    exact SameToEdge.edge front back back' (Corner.isToken_ofAddress hbounds.1)
      (Corner.isOutside_ofAddress hbounds.2.1 hbounds.2.2 hbeyond)

end RangeToken

namespace SameToEdge

variable {rows columns : Nat} {text text' : List Char} {shown shown' : RangeToken → List Char}

/-- A text with ranges in it that agree up to the edge. -/
theorem expandOnce (h : ∀ range : RangeToken, range.IsToken →
    SameToEdge rows columns (shown range) (shown' range)) (cs : List Char) :
    SameToEdge rows columns (SheetMarkup.expandOnce shown cs) (SheetMarkup.expandOnce shown' cs) := by
  induction inParts cs with
  | nil => exact same _
  | @char c cs hnone _ ih =>
    rw [expandOnce_char hnone, expandOnce_char hnone]
    exact ih.append_left [c]
  | range htoken _ ih =>
    rw [expandOnce_token htoken, expandOnce_token htoken]
    -- The first range that is cut off sets the edge, and the texts need not agree behind it.
    exact (h _ htoken).append ih

/-! ## References -/

/-- Texts that agree up to the edge are equal, or have the same references up to one that is outside. -/
theorem references (h : SameToEdge rows columns text text') :
    text = text' ∨ ∃ listed after after' corner, corner ∈ listed ∧ corner.IsOutside rows columns ∧
      SheetMarkup.references text = listed ++ after ∧
      SheetMarkup.references text' = listed ++ after' := by
  cases h with
  | same => exact Or.inl rfl
  | @edge corner front rest rest' htoken houtside =>
    right
    -- The token closes with a bracket, so no reference starts in front of its end and goes on behind it.
    have hsplit : ∀ rest, ∃ after, SheetMarkup.references (front ++ corner.token ++ rest) =
        SheetMarkup.references (front ++ corner.token) ++ after := by
      intro rest
      have hbody : front ++ corner.token =
          front ++ '[' :: (corner.letters ++ corner.digits) ++ [']'] := by simp [Corner.token]
      rw [SheetMarkup.references, SheetMarkup.references, hbody, occurrences_append_bracket,
        List.eraseDups_append]
      exact ⟨_, rfl⟩
    rcases hsplit rest with ⟨after, hafter⟩
    rcases hsplit rest' with ⟨after', hafter'⟩
    refine ⟨_, after, after', corner, ?_, houtside, hafter, hafter'⟩
    have hfound := referenceAt?_token htoken []
    rw [List.append_nil] at hfound
    exact mem_references_iff.2 (mem_occurrences.2
      ⟨_, _, List.suffix_append front corner.token, hfound⟩)

end SameToEdge
end SheetMarkup
