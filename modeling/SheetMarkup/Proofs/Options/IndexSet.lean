import Mathlib.Data.List.Sort
import SheetMarkup.Proofs.Options.ListEntry

/-!
# Index sets — what a list of rows or columns denotes

A list denotes the union of what its parts denote, which is read as its members in ascending order. A set has one
such listing, so nothing about the parts matters but what they denote: neither their order nor their repetition,
nor the blanks in them, nor which end a range starts at.

* `SamePart`: parts that differ only in blanks or in the direction of a range
* `SamePart.alike`: they are faulty together and denote the same
* `withoutRepeats_mergeSort`: the listing of a set is known by its members
* `readIndexList_denotes`: what is read of a list
-/

namespace SheetMarkup

/-! ## Parts that are the same -/

/-- Parts that differ only in the blanks around them, in those around the numbers of a range, or in the
direction of a range. -/
inductive SamePart : List Char → List Char → Prop where
  | around {word cs ds : List Char} :
      Text.IsPadded word cs → Text.IsPadded word ds → SamePart cs ds
  | inside {first first' second second' word word' : List Char} :
      Text.IsPadded word first → Text.IsPadded word first' →
      Text.IsPadded word' second → Text.IsPadded word' second' →
      SamePart (first ++ '-' :: second) (first' ++ '-' :: second')
  | turned (first second : List Char) :
      SamePart (first ++ '-' :: second) (second ++ '-' :: first)
  | trans {cs ds es : List Char} : SamePart cs ds → SamePart ds es → SamePart cs es

theorem SamePart.symm {part other : List Char} (h : SamePart part other) : SamePart other part := by
  induction h with
  | around hpart hother => exact around hother hpart
  | inside hfirst hfirst' hsecond hsecond' => exact inside hfirst' hfirst hsecond' hsecond
  | turned first second => exact turned second first
  | trans _ _ ih ih' => exact trans ih' ih

/-- Both parts are faulty or neither is, and the same numbers belong to both. -/
def Alike (part other : List Char) : Prop :=
  (IsFaulty part ↔ IsFaulty other) ∧
    ∀ count n, PartDenotes count part n ↔ PartDenotes count other n

theorem alike_of_indicesOf {part other : List Char}
    (h : ∀ count, indicesOf part count = indicesOf other count) : Alike part other := by
  constructor
  · rw [isFaulty_iff 0, isFaulty_iff 0, h]
  · intro count n
    rw [partDenotes_iff, partDenotes_iff, h]

theorem isFaulty_range_iff {first second : List Char} :
    IsFaulty (first ++ '-' :: second) ↔ ¬ ∃ m n, WritesIndex first m ∧ WritesIndex second n := by
  have hblank : ¬ IsBlankText (first ++ '-' :: second) := fun h =>
    absurd (h '-' (by simp)) (by decide)
  constructor
  · rintro ⟨_, hnone⟩ ⟨m, n, hfirst, hsecond⟩
    exact hnone _ (WritesEntry.range hfirst hsecond)
  · intro hnone
    refine ⟨hblank, fun entry hwrites => hnone ?_⟩
    rcases writesEntry_range_iff.1 hwrites with ⟨m, n, _, hends⟩
    exact ⟨m, n, hends⟩

theorem partDenotes_range_iff {count k : Nat} {first second : List Char} :
    PartDenotes count (first ++ '-' :: second) k ↔
      ∃ m n, (WritesIndex first m ∧ WritesIndex second n) ∧ (ListEntry.range m n).Denotes count k := by
  constructor
  · rintro ⟨entry, hwrites, hdenotes⟩
    rcases writesEntry_range_iff.1 hwrites with ⟨m, n, rfl, hends⟩
    exact ⟨m, n, hends, hdenotes⟩
  · rintro ⟨m, n, ⟨hfirst, hsecond⟩, hdenotes⟩
    exact ⟨_, WritesEntry.range hfirst hsecond, hdenotes⟩

theorem SamePart.alike {part other : List Char} (h : SamePart part other) : Alike part other := by
  induction h with
  | around hpart hother =>
    apply alike_of_indicesOf
    intro count
    simp only [indicesOf, hpart.trimBlanks_eq, hother.trimBlanks_eq]
  | inside hfirst hfirst' hsecond hsecond' =>
    simp only [Alike, isFaulty_range_iff, partDenotes_range_iff, writesIndex_iff_of_isPadded hfirst,
      writesIndex_iff_of_isPadded hfirst', writesIndex_iff_of_isPadded hsecond,
      writesIndex_iff_of_isPadded hsecond', true_and, implies_true]
  | turned first second =>
    have hturned : ∀ count m n k, (ListEntry.range m n).Denotes count k ↔
        (ListEntry.range n m).Denotes count k := by
      intro count m n k
      simp only [ListEntry.Denotes, Nat.min_comm m n, Nat.max_comm m n]
    constructor
    · rw [isFaulty_range_iff, isFaulty_range_iff, exists_comm]
      simp only [and_comm]
    · intro count k
      rw [partDenotes_range_iff, partDenotes_range_iff, exists_comm]
      simp only [and_comm (a := WritesIndex first _), hturned count _ _ k]
  | trans _ _ ih ih' =>
    exact ⟨ih.1.trans ih'.1, fun count n => (ih.2 count n).trans (ih'.2 count n)⟩

/-! ## Ascending lists -/

theorem mem_withoutRepeats {ns : List Nat} {n : Nat} : n ∈ withoutRepeats ns ↔ n ∈ ns := by
  fun_induction withoutRepeats ns with
  | case1 n rest ih => simp [ih]
  | case2 m n rest hne ih => simp [ih]
  | case3 ns _ => rfl

theorem pairwise_withoutRepeats {ns : List Nat} (h : ns.Pairwise (· ≤ ·)) :
    (withoutRepeats ns).Pairwise (· < ·) := by
  fun_induction withoutRepeats ns with
  | case1 n rest ih => exact ih h.tail
  | case2 m n rest hne ih =>
    refine List.pairwise_cons.2 ⟨fun k hk => ?_, ih h.tail⟩
    -- What comes later is at least the neighbour, which is larger.
    have hmn : m ≤ n := List.rel_of_pairwise_cons h List.mem_cons_self
    have hnk : n ≤ k := by
      rcases List.mem_cons.1 (mem_withoutRepeats.1 hk) with rfl | hrest
      · exact Nat.le_refl k
      · exact List.rel_of_pairwise_cons h.tail hrest
    omega
  | case3 ns hshort =>
    cases ns with
    | nil => exact List.Pairwise.nil
    | cons m rest =>
      cases rest with
      | nil => exact List.pairwise_singleton _ m
      | cons n rest => exact absurd rfl (hshort m n rest)

/-- The listing of a set is known by its members. -/
theorem withoutRepeats_mergeSort {found indices : List Nat} (h : indices.Pairwise (· < ·))
    (hmem : ∀ n, n ∈ indices ↔ n ∈ found) :
    withoutRepeats (found.mergeSort (· ≤ ·)) = indices := by
  have hsorted : (withoutRepeats (found.mergeSort (· ≤ ·))).Pairwise (· < ·) :=
    pairwise_withoutRepeats (List.pairwise_mergeSort' (· ≤ ·) found)
  refine hsorted.eq_of_mem_iff h fun n => ?_
  rw [mem_withoutRepeats, List.mem_mergeSort, hmem]

/-! ## Lists -/

/-- A text is cut at every occurrence of a character. -/
theorem splitOn_eq (separator : Char) (cs : List Char) :
    Text.splitOn separator cs = cs.splitOn separator := by
  have hfrom : ∀ current, Text.splitFrom separator current cs =
      List.splitOnPPrepend (· == separator) cs current := by
    induction cs with
    | nil => exact fun current => rfl
    | cons c cs ih =>
      intro current
      by_cases hc : c = separator
      · simp [Text.splitFrom, List.splitOnPPrepend, hc, ih]
      · simp [Text.splitFrom, List.splitOnPPrepend, hc, ih]
  rw [Text.splitOn, hfrom]
  rfl

theorem mem_of_indicesOfAll {count : Nat} {parts : List (List Char)} {found : List Nat}
    (h : indicesOfAll count parts = .ok found) :
    (∀ part ∈ parts, ¬ IsFaulty part) ∧
      ∀ n, n ∈ found ↔ ∃ part ∈ parts, PartDenotes count part n := by
  induction parts generalizing found with
  | nil =>
    cases h
    simp
  | cons part parts ih =>
    cases hfirst : indicesOf part count with
    | error fault => simp [indicesOfAll, hfirst, bind, Except.bind] at h
    | ok first =>
      cases hrest : indicesOfAll count parts with
      | error fault => simp [indicesOfAll, hfirst, hrest, bind, Except.bind] at h
      | ok rest =>
        simp only [indicesOfAll, hfirst, hrest, bind, Except.bind, Except.ok.injEq] at h
        subst h
        rcases ih hrest with ⟨hnone, hmem⟩
        have hpart : ¬ IsFaulty part := by simp [isFaulty_iff count, hfirst]
        have hdenotes : ∀ n, PartDenotes count part n ↔ n ∈ first := by simp [partDenotes_iff, hfirst]
        refine ⟨List.forall_mem_cons.2 ⟨hpart, hnone⟩, fun n => ?_⟩
        simp only [List.mem_append, List.mem_cons, exists_eq_or_imp, hdenotes, hmem]

theorem exists_isFaulty_of_indicesOfAll {count : Nat} {parts : List (List Char)} {fault : IndexFault}
    (h : indicesOfAll count parts = .error fault) : ∃ part ∈ parts, IsFaulty part := by
  induction parts with
  | nil => cases h
  | cons part parts ih =>
    cases hfirst : indicesOf part count with
    | error fault => exact ⟨part, List.mem_cons_self, (isFaulty_iff count).2 ⟨fault, hfirst⟩⟩
    | ok first =>
      cases hrest : indicesOfAll count parts with
      | error fault =>
        simp only [indicesOfAll, hfirst, hrest, bind, Except.bind, Except.error.injEq] at h
        rcases ih (h ▸ hrest) with ⟨other, hother, hfaulty⟩
        exact ⟨other, List.mem_cons_of_mem part hother, hfaulty⟩
      | ok rest => simp [indicesOfAll, hfirst, hrest, bind, Except.bind] at h

/-- A list without faulty parts is read as the ascending listing of what its parts denote. -/
theorem readIndexList_eq_ok_iff {list : String} {count : Nat} {indices : List Nat} :
    readIndexList list count = .ok indices ↔
      (∀ part ∈ list.toList.splitOn ',', ¬ IsFaulty part) ∧ indices.Pairwise (· < ·) ∧
        ∀ n, n ∈ indices ↔ ∃ part ∈ list.toList.splitOn ',', PartDenotes count part n := by
  unfold readIndexList
  rw [splitOn_eq]
  cases hfound : indicesOfAll count (list.toList.splitOn ',') with
  | error fault =>
    rcases exists_isFaulty_of_indicesOfAll hfound with ⟨part, hpart, hfaulty⟩
    exact iff_of_false (by simp) fun h => h.1 part hpart hfaulty
  | ok found =>
    rcases mem_of_indicesOfAll hfound with ⟨hnone, hmem⟩
    simp only [Except.ok.injEq]
    constructor
    · rintro rfl
      refine ⟨hnone, pairwise_withoutRepeats (List.pairwise_mergeSort' (· ≤ ·) found), fun n => ?_⟩
      rw [mem_withoutRepeats, List.mem_mergeSort, hmem]
    · rintro ⟨_, hascending, hindices⟩
      exact withoutRepeats_mergeSort hascending fun n => (hindices n).trans (hmem n).symm

theorem readIndexList_eq_error_iff {list : String} {count : Nat} :
    (∃ error, readIndexList list count = .error error) ↔
      ∃ part ∈ list.toList.splitOn ',', IsFaulty part := by
  unfold readIndexList
  rw [splitOn_eq]
  cases hfound : indicesOfAll count (list.toList.splitOn ',') with
  | error fault => exact iff_of_true ⟨_, rfl⟩ (exists_isFaulty_of_indicesOfAll hfound)
  | ok found =>
    rcases mem_of_indicesOfAll hfound with ⟨hnone, _⟩
    exact iff_of_false (by simp) fun ⟨part, hpart, hfaulty⟩ => hnone part hpart hfaulty

/-- Every part of a list that is not blank has one that is the same in another list. -/
def HasSameParts (parts others : List (List Char)) : Prop :=
  ∀ part ∈ parts, ¬ IsBlankText part → ∃ other ∈ others, SamePart part other

theorem HasSameParts.exists_isFaulty {parts others : List (List Char)} (h : HasSameParts parts others)
    (hfaulty : ∃ part ∈ parts, IsFaulty part) : ∃ other ∈ others, IsFaulty other := by
  rcases hfaulty with ⟨part, hpart, hfaulty⟩
  rcases h part hpart hfaulty.1 with ⟨other, hother, hsame⟩
  exact ⟨other, hother, hsame.alike.1.1 hfaulty⟩

theorem HasSameParts.exists_partDenotes {count n : Nat} {parts others : List (List Char)}
    (h : HasSameParts parts others) (hdenotes : ∃ part ∈ parts, PartDenotes count part n) :
    ∃ other ∈ others, PartDenotes count other n := by
  rcases hdenotes with ⟨part, hpart, hdenotes⟩
  have hnot : ¬ IsBlankText part := by
    rcases hdenotes with ⟨entry, hwrites, _⟩
    exact hwrites.not_isBlankText
  rcases h part hpart hnot with ⟨other, hother, hsame⟩
  exact ⟨other, hother, (hsame.alike.2 count n).1 hdenotes⟩

/-- Index lists denote sets. What is read of a list is ascending and counted from 1, and its members are the
numbers that the entries among the parts denote. Reading fails exactly if some part is neither blank nor an
entry. Lists whose parts are the same, whatever their order, their repetitions and their blanks and whichever end
their ranges start at, fail together or are read as the same. -/
theorem readIndexList_denotes (list : String) (count : Nat) :
    (∀ indices, readIndexList list count = .ok indices →
      indices.Pairwise (· < ·) ∧ (∀ n ∈ indices, 1 ≤ n) ∧
        ∀ n, n ∈ indices ↔ ∃ part ∈ list.toList.splitOn ',', PartDenotes count part n) ∧
    ((∃ error, readIndexList list count = .error error) ↔
      ∃ part ∈ list.toList.splitOn ',', IsFaulty part) ∧
    ∀ other : String, HasSameParts (list.toList.splitOn ',') (other.toList.splitOn ',') →
      HasSameParts (other.toList.splitOn ',') (list.toList.splitOn ',') →
      ∀ indices, readIndexList list count = .ok indices ↔ readIndexList other count = .ok indices := by
  refine ⟨?_, readIndexList_eq_error_iff, ?_⟩
  · intro indices hread
    rcases readIndexList_eq_ok_iff.1 hread with ⟨_, hascending, hmem⟩
    refine ⟨hascending, fun n hn => ?_, hmem⟩
    rcases (hmem n).1 hn with ⟨part, _, hdenotes⟩
    exact hdenotes.one_le
  · intro other hsame hsame' indices
    have hfaulty : (∃ part ∈ list.toList.splitOn ',', IsFaulty part) ↔
        ∃ part ∈ other.toList.splitOn ',', IsFaulty part :=
      ⟨hsame.exists_isFaulty, hsame'.exists_isFaulty⟩
    have hdenotes : ∀ n, (∃ part ∈ list.toList.splitOn ',', PartDenotes count part n) ↔
        ∃ part ∈ other.toList.splitOn ',', PartDenotes count part n := fun n =>
      ⟨hsame.exists_partDenotes, hsame'.exists_partDenotes⟩
    have hnone : (∀ part ∈ list.toList.splitOn ',', ¬ IsFaulty part) ↔
        ∀ part ∈ other.toList.splitOn ',', ¬ IsFaulty part := by
      simpa using not_congr hfaulty
    rw [readIndexList_eq_ok_iff, readIndexList_eq_ok_iff, hnone]
    simp only [hdenotes]

/-- A list with a range from its end, and one with the same parts in another order and other blanks. -/
theorem readIndexList_denotes_of_turned :
    readIndexList "5-3,9,aLL" 4 = .ok [1, 2, 3, 4, 9] ∧
      readIndexList " 9 ,aLL ,,3 - 5, 9" 4 = .ok [1, 2, 3, 4, 9] := by
  have hread : readIndexList "5-3,9,aLL" 4 = .ok [1, 2, 3, 4, 9] := by
    have hfound : indicesOfAll 4 (Text.splitOn ',' "5-3,9,aLL".toList) =
        .ok [3, 4, 9, 1, 2, 3, 4] := by decide
    rw [readIndexList, hfound]
    exact congrArg Except.ok (withoutRepeats_mergeSort (by decide) fun n => by simp; omega)
  have hspace : ∀ c ∈ [' '], Text.isBlank c = true := List.forall_mem_singleton.2 (by decide)
  have hnothing : ∀ c ∈ [], Text.isBlank c = true := List.forall_mem_nil _
  have hrange : SamePart "5-3".toList "3 - 5".toList :=
    (SamePart.turned ['5'] ['3']).trans (.inside (.refl _) ⟨[], [' '], rfl, hnothing, hspace⟩
      (.refl _) ⟨[' '], [], rfl, hspace, hnothing⟩)
  have hnumber : SamePart ['9'] " 9 ".toList := .around (.refl _) ⟨[' '], [' '], rfl, hspace, hspace⟩
  have hnumber' : SamePart ['9'] " 9".toList := .around (.refl _) ⟨[' '], [], rfl, hspace, hnothing⟩
  have hall : SamePart "aLL".toList "aLL ".toList := .around (.refl _) ⟨[], [' '], rfl, hnothing, hspace⟩
  have hparts : "5-3,9,aLL".toList.splitOn ',' = ["5-3".toList, ['9'], "aLL".toList] := by decide
  have hothers : " 9 ,aLL ,,3 - 5, 9".toList.splitOn ',' =
      [" 9 ".toList, "aLL ".toList, [], "3 - 5".toList, " 9".toList] := by decide
  refine ⟨hread, ((readIndexList_denotes "5-3,9,aLL" 4).2.2 _ ?_ ?_ _).1 hread⟩
  · rw [hparts, hothers]
    intro part hpart _
    simp only [List.mem_cons, List.not_mem_nil, or_false] at hpart
    rcases hpart with rfl | rfl | rfl
    · exact ⟨_, by simp, hrange⟩
    · exact ⟨_, by simp, hnumber⟩
    · exact ⟨_, by simp, hall⟩
  · rw [hparts, hothers]
    intro part hpart hnot
    simp only [List.mem_cons, List.not_mem_nil, or_false] at hpart
    rcases hpart with rfl | rfl | rfl | rfl | rfl
    · exact ⟨_, by simp, hnumber.symm⟩
    · exact ⟨_, by simp, hall.symm⟩
    · exact absurd hnothing hnot
    · exact ⟨_, by simp, hrange.symm⟩
    · exact ⟨_, by simp, hnumber'.symm⟩

end SheetMarkup
