import SheetMarkup.Formula.Reference

/-!
# Ranges — the references a range stands for

A range stands for the references of its rectangle, column by column and each column from the top,
whichever corners it names. Resolution fails at the first reference outside the grid and never looks
past it, so the list ends there. A rectangle may be far larger than the grid, so the part that counts
is found from the corners and not by walking.

* `Rectangle`, `Rectangle.addresses`: the columns and rows between two corners, and their addresses
* `Rectangle.addressesWithin`: the addresses up to the first outside a grid
* `addressesWithin_eq_takeThrough`: these are a part of all addresses, cut after the first outside
* `RangeToken.expand`, `expandRange`: the references as text
-/

namespace SheetMarkup

/-- The entries up to the first that is `beyond`, that one included. -/
def takeThrough {α : Type} (beyond : α → Bool) : List α → List α
  | [] => []
  | x :: xs => if beyond x then [x] else x :: takeThrough beyond xs

theorem takeThrough_append_of_forall {α : Type} {beyond : α → Bool} {xs : List α}
    (h : ∀ x ∈ xs, beyond x = false) (ys : List α) :
    takeThrough beyond (xs ++ ys) = xs ++ takeThrough beyond ys := by
  induction xs with
  | nil => rfl
  | cons x xs ih =>
    have hx : beyond x = false := h x List.mem_cons_self
    have hxs : ∀ y ∈ xs, beyond y = false := fun y hy => h y (List.mem_cons_of_mem x hy)
    simp [takeThrough, hx, ih hxs]

theorem takeThrough_of_forall {α : Type} {beyond : α → Bool} {xs : List α}
    (h : ∀ x ∈ xs, beyond x = false) : takeThrough beyond xs = xs := by
  have happ := takeThrough_append_of_forall h []
  simpa [takeThrough] using happ

/-! ## Addresses -/

/-- The addresses, column before row, of the columns from `left` to `right` and the rows from `top`
to `bottom`. -/
def addressesFrom (left right top bottom : Nat) : List (Nat × Nat) :=
  (List.range' left (right + 1 - left)).flatMap fun column =>
    (List.range' top (bottom + 1 - top)).map fun row => (column, row)

def isOutside (rows columns : Nat) (address : Nat × Nat) : Bool :=
  address.2 == 0 || rows < address.2 || address.1 == 0 || columns < address.1

theorem mem_addressesFrom_iff {left right top bottom : Nat} {address : Nat × Nat} :
    address ∈ addressesFrom left right top bottom ↔
      (left ≤ address.1 ∧ address.1 ≤ right) ∧ top ≤ address.2 ∧ address.2 ≤ bottom := by
  obtain ⟨column, row⟩ := address
  simp only [addressesFrom, List.mem_flatMap, List.mem_map, List.mem_range'_1, Prod.mk.injEq]
  constructor
  · rintro ⟨c, hc, r, hr, rfl, rfl⟩
    omega
  · intro h
    exact ⟨column, by omega, row, by omega, rfl, rfl⟩

theorem addressesFrom_eq_cons {left right top bottom : Nat} (hcolumns : left ≤ right)
    (hrows : top ≤ bottom) :
    ∃ rest, addressesFrom left right top bottom = (left, top) :: rest := by
  have hleft : right + 1 - left = right - left + 1 := by omega
  have htop : bottom + 1 - top = bottom - top + 1 := by omega
  simp [addressesFrom, hleft, htop, List.range'_succ]

theorem range'_eq_append {low middle high : Nat} (hlow : low ≤ middle) (hhigh : middle ≤ high) :
    List.range' low (high + 1 - low) =
      List.range' low (middle + 1 - low) ++ List.range' (middle + 1) (high - middle) := by
  have h := List.range'_append_1 (s := low) (m := middle + 1 - low) (n := high - middle)
  rw [show low + (middle + 1 - low) = middle + 1 by omega,
    show middle + 1 - low + (high - middle) = high + 1 - low by omega] at h
  exact h.symm

/-- Columns are listed one after the other. -/
theorem addressesFrom_append_columns {left middle right : Nat} (top bottom : Nat)
    (hleft : left ≤ middle) (hright : middle ≤ right) :
    addressesFrom left right top bottom =
      addressesFrom left middle top bottom ++ addressesFrom (middle + 1) right top bottom := by
  simp [addressesFrom, range'_eq_append hleft hright]

/-- The rows of one column are listed from the top. -/
theorem addressesFrom_append_rows (column : Nat) {top middle bottom : Nat} (htop : top ≤ middle)
    (hbottom : middle ≤ bottom) :
    addressesFrom column column top bottom =
      addressesFrom column column top middle ++ addressesFrom column column (middle + 1) bottom := by
  have hone : column + 1 - column = 1 := by omega
  simp [addressesFrom, range'_eq_append htop hbottom, hone]

/-! ## Rectangles -/

structure Rectangle where
  left : Nat
  right : Nat
  top : Nat
  bottom : Nat
  left_le_right : left ≤ right
  top_le_bottom : top ≤ bottom
  deriving DecidableEq, Repr

namespace Rectangle

def addresses (r : Rectangle) : List (Nat × Nat) :=
  addressesFrom r.left r.right r.top r.bottom

/-- The addresses up to the first outside a grid of the given size. It is the first of all, or the
one below the grid in the first column, or the one right of the grid in the first row. -/
def addressesWithin (r : Rectangle) (rows columns : Nat) : List (Nat × Nat) :=
  if isOutside rows columns (r.left, r.top) then [(r.left, r.top)]
  else if rows < r.bottom then addressesFrom r.left r.left r.top (rows + 1)
  else if columns < r.right then
    addressesFrom r.left columns r.top r.bottom ++ [(columns + 1, r.top)]
  else r.addresses

end Rectangle

theorem isOutside_eq_false_of_mem {left right top bottom rows columns : Nat}
    (hfirst : isOutside rows columns (left, top) = false) (hright : right ≤ columns)
    (hbottom : bottom ≤ rows) :
    ∀ address ∈ addressesFrom left right top bottom, isOutside rows columns address = false := by
  intro address hmem
  rw [mem_addressesFrom_iff] at hmem
  simp only [isOutside, Bool.or_eq_false_iff, beq_eq_false_iff_ne, decide_eq_false_iff_not]
    at hfirst ⊢
  omega

/-- The addresses within a grid are all addresses of the rectangle, cut after the first that is
outside. -/
theorem addressesWithin_eq_takeThrough (r : Rectangle) (rows columns : Nat) :
    r.addressesWithin rows columns = takeThrough (isOutside rows columns) r.addresses := by
  have hcolumns := r.left_le_right
  have hrows := r.top_le_bottom
  unfold Rectangle.addressesWithin Rectangle.addresses
  split
  · -- The first address is outside: it is the only one.
    rename_i hfirst
    obtain ⟨rest, hrest⟩ := addressesFrom_eq_cons hcolumns hrows
    simp [hrest, takeThrough, hfirst]
  · rename_i hfirst
    have hinside : isOutside rows columns (r.left, r.top) = false := by simpa using hfirst
    have hbounds : r.left ≤ columns ∧ r.top ≤ rows := by
      simp only [isOutside, Bool.or_eq_false_iff, beq_eq_false_iff_ne, decide_eq_false_iff_not]
        at hinside
      omega
    split
    · -- The first column leaves the grid at the bottom.
      rename_i hlow
      have hcut : ∃ rest, addressesFrom r.left r.right r.top r.bottom =
          addressesFrom r.left r.left r.top rows ++ (r.left, rows + 1) :: rest := by
        have hhead : addressesFrom r.left r.right r.top r.bottom =
            addressesFrom r.left r.left r.top r.bottom ++
              addressesFrom (r.left + 1) r.right r.top r.bottom :=
          addressesFrom_append_columns r.top r.bottom (Nat.le_refl _) hcolumns
        obtain ⟨rest, hrest⟩ := addressesFrom_eq_cons (Nat.le_refl r.left)
          (show rows + 1 ≤ r.bottom by omega)
        refine ⟨rest ++ addressesFrom (r.left + 1) r.right r.top r.bottom, ?_⟩
        rw [hhead, addressesFrom_append_rows r.left hbounds.2 (by omega), hrest]
        simp
      have hlast : addressesFrom r.left r.left (rows + 1) (rows + 1) = [(r.left, rows + 1)] := by
        have hone : ∀ n : Nat, n + 1 - n = 1 := fun n => by omega
        simp [addressesFrom, hone]
      obtain ⟨rest, hrest⟩ := hcut
      have hbeyond : isOutside rows columns (r.left, rows + 1) = true := by simp [isOutside]
      rw [hrest, takeThrough_append_of_forall
        (isOutside_eq_false_of_mem hinside hbounds.1 (Nat.le_refl rows)),
        addressesFrom_append_rows r.left hbounds.2 (Nat.le_succ rows), hlast]
      simp [takeThrough, hbeyond]
    · rename_i hlow
      split
      · -- The columns stay inside, and the first row leaves the grid at the right.
        rename_i hwide
        obtain ⟨rest, hrest⟩ := addressesFrom_eq_cons (show columns + 1 ≤ r.right by omega) hrows
        have hbeyond : isOutside rows columns (columns + 1, r.top) = true := by simp [isOutside]
        rw [addressesFrom_append_columns r.top r.bottom hbounds.1 (Nat.le_of_lt hwide), hrest,
          takeThrough_append_of_forall
            (isOutside_eq_false_of_mem hinside (Nat.le_refl columns) (by omega))]
        simp [takeThrough, hbeyond]
      · rename_i hwide
        exact (takeThrough_of_forall
          (isOutside_eq_false_of_mem hinside (by omega) (by omega))).symm

/-! ## References -/

def commaJoined (texts : List (List Char)) : List Char :=
  (texts.intersperse [',']).flatten

namespace RangeToken

/-- The row of a corner; one that is too large is the largest. -/
def rowOf (corner : Corner) : Nat :=
  corner.row?.getD maxIndex

def rectangle (range : RangeToken) : Rectangle where
  left := min range.first.column range.second.column
  right := max range.first.column range.second.column
  top := min (rowOf range.first) (rowOf range.second)
  bottom := max (rowOf range.first) (rowOf range.second)
  left_le_right := by omega
  top_le_bottom := by omega

/-- The references of the rectangle with commas between them, up to the first outside a grid of the
given size. -/
def expand (range : RangeToken) (rows columns : Nat) : List Char :=
  commaJoined <|
    (range.rectangle.addressesWithin rows columns).map fun (column, row) => cellToken column row

end RangeToken

/-- The expansion of the first range in a text, or the text itself if there is none. -/
def expandRange (token : List Char) (rows columns : Nat) : List Char :=
  match occurrences rangeAt? token with
  | range :: _ => range.expand rows columns
  | [] => token

end SheetMarkup
