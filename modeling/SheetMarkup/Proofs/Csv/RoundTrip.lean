import SheetMarkup.Csv.Reader
import SheetMarkup.Csv.Writer

/-!
# Round trip — what is written is read back

The reader goes through a written text field by field. A field in quotes ends at the first quote that is
not doubled, a field without quotes has no character that could end it, and no line is empty. So behind
each field the reader holds its cell, and behind each line its row. Two things are lost: a row without
cells is written like a row of one empty cell, and a mark of byte order at the start is not read.

* `placeBehind`, `recordsFrom_writeField`: where the reader stands behind a written field
* `recordsFrom_writeRecord`: what it has read behind a written row
* `parse_write`: what it reads of a written grid
-/

namespace SheetMarkup.Csv

/-! ## Fields -/

section Field

variable {place start : Position} {field : List Char} {record : List String} {rest : List Char}

/-- A character that needs no quotes belongs to the field, wherever the reader stands outside quotes. -/
theorem recordsFrom_char {c : Char} (hplace : place ≠ .quoted) (hc : needsQuotes c = false) :
    recordsFrom place field record (c :: rest) = recordsFrom .plain (c :: field) record rest := by
  simp only [needsQuotes, Bool.or_eq_false_iff, beq_eq_false_iff_ne] at hc
  rcases hc with ⟨⟨⟨hcomma, hquote⟩, hreturn⟩, hfeed⟩
  have hend : isLineEnd c = false := by simp [isLineEnd, hreturn, hfeed]
  simp [recordsFrom, hplace, hend, hcomma, hquote]

theorem recordsFrom_unquoted {cell : List Char} (hcell : cell.any needsQuotes = false) :
    recordsFrom .plain field record (cell ++ rest) =
      recordsFrom .plain (cell.reverse ++ field) record rest := by
  induction cell generalizing field with
  | nil => rfl
  | cons c cell ih =>
    simp only [List.any_cons, Bool.or_eq_false_iff] at hcell
    rw [List.cons_append, recordsFrom_char (by decide) hcell.1, ih hcell.2]
    simp

theorem recordsFrom_doubled (cell : List Char) :
    recordsFrom .quoted field record (doubled cell ++ '"' :: rest) =
      recordsFrom .behindQuote (cell.reverse ++ field) record rest := by
  induction cell generalizing field with
  | nil => simp [doubled, recordsFrom]
  | cons c cell ih =>
    by_cases hquote : c = '"'
    · -- The first quote of the two might be the closing one, and the second says that it is not.
      subst hquote
      simp [doubled, recordsFrom, ih]
    · simp [doubled, recordsFrom, hquote, ih]

/-- Where the reader stands behind a field that it has read from between two fields on. -/
def placeBehind (start : Position) (cell : List Char) : Position :=
  if cell.any needsQuotes then .behindQuote else if cell.isEmpty then start else .plain

theorem recordsFrom_writeField (hstart : start = .between ∨ start = .fieldStart)
    (cell : List Char) :
    recordsFrom start [] record (writeField cell ++ rest) =
      recordsFrom (placeBehind start cell) cell.reverse record rest := by
  have houtside : start ≠ .quoted := by rcases hstart with rfl | rfl <;> decide
  cases hquotes : cell.any needsQuotes with
  | true =>
    have hopen : ∀ inside, recordsFrom start [] record ('"' :: inside) =
        recordsFrom .quoted [] record inside := by
      rcases hstart with rfl | rfl <;> simp [recordsFrom, isLineEnd]
    simp [writeField, placeBehind, hquotes, hopen, recordsFrom_doubled]
  | false =>
    cases cell with
    | nil => simp [writeField, placeBehind]
    | cons c cell =>
      have hchars := hquotes
      simp only [List.any_cons, Bool.or_eq_false_iff] at hchars
      simp [writeField, placeBehind, hquotes, recordsFrom_char houtside hchars.1,
        recordsFrom_unquoted hchars.2]

theorem recordsFrom_comma (hplace : place ≠ .quoted) :
    recordsFrom place field record (',' :: rest) =
      recordsFrom .fieldStart [] (cellOf field :: record) rest := by
  simp [recordsFrom, hplace, isLineEnd]

theorem recordsFrom_lineFeed (hquoted : place ≠ .quoted) (hbetween : place ≠ .between) :
    recordsFrom place field record ('\n' :: rest) =
      (cellOf field :: record).reverse :: recordsFrom .between [] [] rest := by
  simp [recordsFrom, hquoted, hbetween, isLineEnd]

@[simp] theorem cellOf_reverse (cell : String) : cellOf cell.toList.reverse = cell := by
  simp [cellOf]

theorem placeBehind_ne_quoted (hstart : start ≠ .quoted) (cell : List Char) :
    placeBehind start cell ≠ .quoted := by
  unfold placeBehind
  split
  · decide
  · split
    · exact hstart
    · decide

theorem placeBehind_ne_between (cell : List Char) : placeBehind .fieldStart cell ≠ .between := by
  unfold placeBehind
  split
  · decide
  · split <;> decide

end Field

/-! ## Rows -/

/-- From the start of a field on, the reader takes the fields of a line to the cells before them. -/
theorem recordsFrom_writeFields {row : List String} (hne : row ≠ []) (record : List String)
    (rest : List Char) :
    recordsFrom .fieldStart [] record (writeFields row ++ '\n' :: rest) =
      (record.reverse ++ row) :: recordsFrom .between [] [] rest := by
  induction row generalizing record with
  | nil => exact absurd rfl hne
  | cons cell row ih =>
    have hplace : placeBehind .fieldStart cell.toList ≠ .quoted :=
      placeBehind_ne_quoted (by decide) cell.toList
    cases row with
    | nil =>
      rw [writeFields, recordsFrom_writeField (.inr rfl),
        recordsFrom_lineFeed hplace (placeBehind_ne_between cell.toList)]
      simp
    | cons next row =>
      have hrest := ih (by simp) (cell :: record)
      rw [writeFields, List.append_assoc, recordsFrom_writeField (.inr rfl), List.cons_append,
        recordsFrom_comma hplace, cellOf_reverse, hrest]
      · simp
      · simp

theorem recordsFrom_writeRecord {row : List String} (hne : row ≠ []) (rest : List Char) :
    recordsFrom .between [] [] (writeRecord row ++ rest) = row :: recordsFrom .between [] [] rest := by
  cases row with
  | nil => exact absurd rfl hne
  | cons cell row =>
    have hplace : placeBehind .between cell.toList ≠ .quoted :=
      placeBehind_ne_quoted (by decide) cell.toList
    cases row with
    | nil =>
      by_cases hempty : cell = ""
      · -- The line would be empty, so the cell is written as two quotes.
        subst hempty
        simp [writeRecord, writeFields, writeField, recordsFrom, isLineEnd, cellOf]
      · have hbetween : placeBehind .between cell.toList ≠ .between := by
          unfold placeBehind
          split
          · decide
          · simp [hempty]
        have hfield : (writeField cell.toList).isEmpty = false := by
          unfold writeField
          split <;> simp [hempty]
        simp [writeRecord, writeFields, hfield, recordsFrom_writeField (.inl rfl),
          recordsFrom_lineFeed hplace hbetween]
    | cons next row =>
      have hrest := recordsFrom_writeFields (List.cons_ne_nil next row) [cell] rest
      simp [writeRecord, writeFields, recordsFrom_writeField (.inl rfl), recordsFrom_comma hplace,
        hrest]

/-- Behind the first field of a row stands a comma, a line feed, or two quotes if the field is the empty
one of a single cell. -/
theorem exists_writeRecord_cons (cell : String) (row : List String) :
    ∃ c rest, needsQuotes c = true ∧
      writeRecord (cell :: row) = writeField cell.toList ++ c :: rest := by
  cases row with
  | nil =>
    by_cases hempty : writeField cell.toList = []
    · exact ⟨'"', ['"', '\n'], by decide, by simp [writeRecord, writeFields, hempty]⟩
    · exact ⟨'\n', [], by decide, by simp [writeRecord, writeFields, hempty]⟩
  | cons next row =>
    exact ⟨',', writeFields (next :: row) ++ ['\n'], by decide, by simp [writeRecord, writeFields]⟩

/-- A row starts with a character that needs no quotes only if its first cell does. -/
theorem head?_writeRecord {row : List String} {c : Char} (hc : needsQuotes c = false)
    (h : (writeRecord row).head? = some c) :
    ∃ cell, row.head? = some cell ∧ cell.toList.head? = some c := by
  have hne : ∀ other, needsQuotes other = true → some other ≠ some c := by
    rintro other hother hsome
    simp [Option.some.inj hsome, hc] at hother
  cases row with
  | nil => exact absurd h (hne '"' (by decide))
  | cons cell row =>
    rcases exists_writeRecord_cons cell row with ⟨next, rest, hnext, hrecord⟩
    refine ⟨cell, rfl, ?_⟩
    rw [hrecord] at h
    unfold writeField at h
    split at h
    · exact absurd h (hne '"' (by decide))
    · cases hcell : cell.toList with
      | nil =>
        rw [hcell] at h
        exact absurd h (hne next hnext)
      | cons first cell =>
        rw [hcell] at h
        exact h

/-! ## Grids -/

theorem recordsFrom_flatMap {grid : Grid} (hrows : ∀ row ∈ grid, row ≠ []) :
    recordsFrom .between [] [] (grid.flatMap writeRecord) = grid := by
  induction grid with
  | nil => simp [recordsFrom]
  | cons row grid ih =>
    rw [List.flatMap_cons, recordsFrom_writeRecord (hrows row List.mem_cons_self),
      ih fun row hrow => hrows row (List.mem_cons_of_mem _ hrow)]

/-- A written grid starts with a mark of byte order only if its first cell does. -/
theorem head?_write_ne_mark {grid : Grid}
    (hmark : ∀ cell, grid.cell? 0 0 = some cell → cell.toList.head? ≠ some '\uFEFF') :
    (write grid).toList.head? ≠ some '\uFEFF' := by
  intro h
  cases grid with
  | nil => simp [write] at h
  | cons row grid =>
    have hrow : (writeRecord row).head? = some '\uFEFF' := by
      have hne : writeRecord row ≠ [] := by simp [writeRecord]
      simpa [write, hne] using h
    rcases head?_writeRecord (by decide) hrow with ⟨cell, hcell, hhead⟩
    exact hmark cell (by simpa [Grid.cell?, List.head?_eq_getElem?] using hcell) hhead

/-- A grid that is written is read back as it is, whatever its cells hold and however long its rows are,
if no row is without cells and its first cell does not start with a mark of byte order. -/
theorem parse_write (grid : Grid) (hrows : ∀ row ∈ grid, row ≠ [])
    (hmark : ∀ cell, grid.cell? 0 0 = some cell → cell.toList.head? ≠ some '\uFEFF') :
    parse (write grid) = grid := by
  have hread : recordsFrom .between [] [] (write grid).toList = grid := by
    rw [write, String.toList_ofList, recordsFrom_flatMap hrows]
  unfold parse
  split
  · rename_i cs htext
    exact absurd (by rw [htext]; rfl) (head?_write_ne_mark hmark)
  · exact hread

/-- Quotes, commas, line ends and blanks in the cells, an empty cell alone in its row, and rows of
different lengths. -/
theorem parse_write_ragged :
    let grid : Grid := [["a,b", "say \"so\"", "\r\n"], [""], [" x ", "", ""], ["\"", "\uFEFF"]]
    (∀ row ∈ grid, row ≠ []) ∧
      (∀ cell, grid.cell? 0 0 = some cell → cell.toList.head? ≠ some '\uFEFF') ∧
      parse (write grid) = grid := by
  intro grid
  have hrows : ∀ row ∈ grid, row ≠ [] := by decide
  have hmark : ∀ cell, grid.cell? 0 0 = some cell → cell.toList.head? ≠ some '\uFEFF' := by
    rintro cell hcell
    cases Option.some.inj hcell
    decide
  exact ⟨hrows, hmark, parse_write grid hrows hmark⟩

/-- A row without cells comes back with an empty one. -/
example : parse (write [[]]) = [[""]] := by decide

end SheetMarkup.Csv
