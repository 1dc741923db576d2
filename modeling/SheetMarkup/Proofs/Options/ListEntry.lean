import Mathlib.Data.List.Basic
import SheetMarkup.Options.IndexList
import SheetMarkup.Proofs.Grid.Address
import SheetMarkup.Proofs.Text.Blanks

/-!
# List entries — what one part of an index list says

A part is blank, or it is an entry: the word for everything, a number, or a range from one number to another. No
text is two entries, since the word has no digit in it, a number no dash, and a range exactly one. So a part says
one thing at most, and that is what is read of it.

* `WritesIndex`, `WritesEntry`: the texts of numbers and of entries
* `ListEntry.Denotes`: the numbers of an entry
* `indicesOf_read`: what is read of a part
-/

namespace SheetMarkup

/-! ## Entries -/

inductive ListEntry where
  | all
  | single (n : Nat)
  | range (first second : Nat)

/-- The numbers of an entry, `count` being the last that exists. -/
def ListEntry.Denotes (count : Nat) : ListEntry → Nat → Prop
  | .all, n => 1 ≤ n ∧ n ≤ count
  | .single m, n => n = m
  | .range first second, n => min first second ≤ n ∧ n ≤ min (max first second) count

/-- A text is a positive index in decimal digits, after an optional plus sign and with blanks around it. -/
def WritesIndex (cs : List Char) (n : Nat) : Prop :=
  ∃ sign digits, Text.IsPadded (sign ++ digits) cs ∧ (sign = [] ∨ sign = ['+']) ∧ digits ≠ [] ∧
    (∀ c ∈ digits, c.isDigit = true) ∧ n = Nat.ofDigitChars 10 digits 0 ∧ 1 ≤ n ∧ n ≤ maxIndex

inductive WritesEntry : List Char → ListEntry → Prop where
  | all {word cs : List Char} :
      word.map Char.toLower = ['a', 'l', 'l'] → Text.IsPadded word cs → WritesEntry cs .all
  | single {cs : List Char} {n : Nat} : WritesIndex cs n → WritesEntry cs (.single n)
  | range {first second : List Char} {m n : Nat} :
      WritesIndex first m → WritesIndex second n → WritesEntry (first ++ '-' :: second) (.range m n)

def IsBlankText (cs : List Char) : Prop :=
  ∀ c ∈ cs, Text.isBlank c = true

/-- A part is neither blank nor an entry. -/
def IsFaulty (part : List Char) : Prop :=
  ¬ IsBlankText part ∧ ∀ entry, ¬ WritesEntry part entry

def PartDenotes (count : Nat) (part : List Char) (n : Nat) : Prop :=
  ∃ entry, WritesEntry part entry ∧ entry.Denotes count n

/-! ## Numbers -/

theorem readDigits_eq_some_iff {digits : List Char} {n : Nat} :
    readDigits digits = some n ↔ digits ≠ [] ∧ (∀ c ∈ digits, c.isDigit = true) ∧
      n = Nat.ofDigitChars 10 digits 0 ∧ n ≤ maxIndex := by
  constructor
  · intro h
    have hdigits : digits ≠ [] ∧ ∀ c ∈ digits, c.isDigit = true := by
      simp only [readDigits, Option.ite_none_left_eq_some, Bool.or_eq_true, not_or] at h
      simpa using h.1
    refine ⟨hdigits.1, hdigits.2, ?_, le_maxIndex_of_readDigits h⟩
    rw [readDigits_of_isDigit hdigits.1 hdigits.2, Option.ite_none_right_eq_some] at h
    exact (Option.some.inj h.2).symm
  · rintro ⟨hne, hdigits, rfl, hle⟩
    rw [readDigits_of_isDigit hne hdigits, if_pos hle]

theorem readIndex_eq_some_iff {word : List Char} {n : Nat} :
    readIndex word = some n ↔ ∃ sign digits, word = sign ++ digits ∧ (sign = [] ∨ sign = ['+']) ∧
      digits ≠ [] ∧ (∀ c ∈ digits, c.isDigit = true) ∧ n = Nat.ofDigitChars 10 digits 0 ∧
      n ≤ maxIndex := by
  constructor
  · intro h
    unfold readIndex at h
    split at h
    · rename_i digits
      exact ⟨['+'], digits, rfl, Or.inr rfl, readDigits_eq_some_iff.1 h⟩
    · exact ⟨[], word, rfl, Or.inl rfl, readDigits_eq_some_iff.1 h⟩
  · rintro ⟨sign, digits, rfl, rfl | rfl, hdigits⟩
    · rw [List.nil_append]
      unfold readIndex
      split
      · -- A plus sign is no digit.
        have hplus := hdigits.2.1 '+' List.mem_cons_self
        exact absurd hplus (by decide)
      · exact readDigits_eq_some_iff.2 hdigits
    · exact readDigits_eq_some_iff.2 hdigits

theorem readEntry_eq_ok_iff_readIndex {cs : List Char} {n : Nat} :
    readEntry cs = .ok n ↔ readIndex (Text.trimBlanks cs) = some n ∧ 1 ≤ n := by
  simp only [readEntry]
  split
  · rename_i hread
    simp only [hread, reduceCtorEq, Option.some.injEq, false_iff, not_and]
    omega
  · rename_i m hzero hread
    have hpos : 1 ≤ m := Nat.one_le_iff_ne_zero.2 hzero
    simp only [hread, Except.ok.injEq, Option.some.injEq]
    constructor
    · rintro rfl
      exact ⟨rfl, hpos⟩
    · exact fun h => h.1
  · rename_i hread
    simp [hread]

/-- A number is read exactly if it is one, with blanks around it. -/
theorem readEntry_eq_ok_iff {cs : List Char} {n : Nat} : readEntry cs = .ok n ↔ WritesIndex cs n := by
  rw [readEntry_eq_ok_iff_readIndex]
  constructor
  · rintro ⟨hread, hpos⟩
    rcases readIndex_eq_some_iff.1 hread with ⟨sign, digits, hword, hsign, hne, hdigits, hn, hle⟩
    have hpadded := Text.isPadded_trimBlanks cs
    rw [hword] at hpadded
    exact ⟨sign, digits, hpadded, hsign, hne, hdigits, hn, hpos, hle⟩
  · rintro ⟨sign, digits, hpadded, hsign, hne, hdigits, hn, hpos, hle⟩
    have hword : ∀ c ∈ sign ++ digits, Text.isBlank c = false := by
      intro c hc
      rcases List.mem_append.1 hc with hc | hc
      · rcases hsign with rfl | rfl
        · cases hc
        · rw [List.mem_singleton.1 hc]
          decide
      · exact not_isBlank_of_isDigit (hdigits c hc)
    rw [hpadded.trimBlanks_eq, Text.trimBlanks_of_not_isBlank hword]
    exact ⟨readIndex_eq_some_iff.2 ⟨sign, digits, rfl, hsign, hne, hdigits, hn, hle⟩, hpos⟩

/-- Blanks around a number make no difference. -/
theorem writesIndex_iff_of_isPadded {word cs : List Char} {n : Nat} (h : Text.IsPadded word cs) :
    WritesIndex cs n ↔ WritesIndex word n := by
  rw [← readEntry_eq_ok_iff, ← readEntry_eq_ok_iff, readEntry_eq_ok_iff_readIndex,
    readEntry_eq_ok_iff_readIndex, h.trimBlanks_eq]

theorem WritesIndex.dash_not_mem {cs : List Char} {n : Nat} (h : WritesIndex cs n) : '-' ∉ cs := by
  rcases h with ⟨sign, digits, ⟨before, after, rfl, hbefore, hafter⟩, hsign, _, hdigits, _⟩
  have hblank : Text.isBlank '-' = false := by decide
  intro hmem
  simp only [List.mem_append] at hmem
  rcases hmem with (hmem | hmem | hmem) | hmem
  · exact absurd (hbefore _ hmem) (by simp [hblank])
  · rcases hsign with rfl | rfl
    · cases hmem
    · exact absurd (List.mem_singleton.1 hmem) (by decide)
  · exact absurd (hdigits _ hmem) (by decide)
  · exact absurd (hafter _ hmem) (by simp [hblank])

/-! ## The word for everything -/

theorem isAll_trimBlanks_iff {part : List Char} :
    isAll (Text.trimBlanks part) = true ↔
      ∃ word, word.map Char.toLower = ['a', 'l', 'l'] ∧ Text.IsPadded word part := by
  simp only [isAll, beq_iff_eq]
  constructor
  · intro hall
    exact ⟨_, hall, Text.isPadded_trimBlanks part⟩
  · rintro ⟨word, hword, hpadded⟩
    have hletters := isAlpha_of_map_toLower hword
    rw [hpadded.trimBlanks_eq,
      Text.trimBlanks_of_not_isBlank fun c hc => not_isBlank_of_isAlpha (hletters c hc)]
    exact hword

/-- The word for everything is no number. -/
theorem not_writesIndex_of_all {word cs : List Char} {n : Nat}
    (hword : word.map Char.toLower = ['a', 'l', 'l']) (hpadded : Text.IsPadded word cs) :
    ¬ WritesIndex cs n := by
  rw [writesIndex_iff_of_isPadded hpadded]
  rintro ⟨sign, digits, ⟨before, after, rfl, _, _⟩, _, hne, hdigits, _⟩
  rcases List.exists_mem_of_ne_nil digits hne with ⟨c, hc⟩
  have hletter := isAlpha_of_map_toLower hword c (by simp [hc])
  rw [not_isAlpha_of_isDigit (hdigits c hc)] at hletter
  cases hletter

/-! ## One part -/

theorem isBlankText_iff {part : List Char} : IsBlankText part ↔ Text.trimBlanks part = [] :=
  Text.trimBlanks_eq_nil_iff.symm

/-- What has a dash in it can only be a range. -/
theorem writesEntry_range_iff {first second : List Char} {entry : ListEntry} :
    WritesEntry (first ++ '-' :: second) entry ↔
      ∃ m n, entry = .range m n ∧ WritesIndex first m ∧ WritesIndex second n := by
  constructor
  · intro h
    generalize hpart : first ++ '-' :: second = part at h
    have hdash : '-' ∈ part := by simp [← hpart]
    cases h with
    | all hword hpadded =>
      rcases hpadded with ⟨before, after, rfl, hbefore, hafter⟩
      have hblank : Text.isBlank '-' = false := by decide
      simp only [List.mem_append] at hdash
      rcases hdash with (hmem | hmem) | hmem
      · exact absurd (hbefore _ hmem) (by simp [hblank])
      · exact absurd (isAlpha_of_map_toLower hword _ hmem) (by decide)
      · exact absurd (hafter _ hmem) (by simp [hblank])
    | single hindex => exact absurd hdash hindex.dash_not_mem
    | range hfirst hsecond =>
      rcases (List.append_cons_inj_of_notMem hfirst.dash_not_mem hsecond.dash_not_mem).1 hpart.symm
        with ⟨rfl, _, rfl⟩
      exact ⟨_, _, rfl, hfirst, hsecond⟩
  · rintro ⟨m, n, rfl, hfirst, hsecond⟩
    exact WritesEntry.range hfirst hsecond

theorem WritesIndex.unique {cs : List Char} {m n : Nat} (h : WritesIndex cs m) (h' : WritesIndex cs n) :
    m = n := by
  have hread := readEntry_eq_ok_iff.2 h
  rw [readEntry_eq_ok_iff.2 h'] at hread
  exact (Except.ok.inj hread).symm

theorem WritesEntry.unique {part : List Char} {entry other : ListEntry} (h : WritesEntry part entry)
    (h' : WritesEntry part other) : entry = other := by
  cases h with
  | all hword hpadded =>
    cases h' with
    | all => rfl
    | single hindex => exact absurd hindex (not_writesIndex_of_all hword hpadded)
    | range _ _ =>
      rcases writesEntry_range_iff.1 (WritesEntry.all hword hpadded) with ⟨m, n, hrange, _⟩
      exact absurd hrange (by simp)
  | single hindex =>
    cases h' with
    | all hword hpadded => exact absurd hindex (not_writesIndex_of_all hword hpadded)
    | single hindex' => rw [hindex.unique hindex']
    | range hfirst _ => exact absurd (by simp) hindex.dash_not_mem
  | range hfirst hsecond =>
    rcases writesEntry_range_iff.1 h' with ⟨m, n, rfl, hfirst', hsecond'⟩
    rw [hfirst.unique hfirst', hsecond.unique hsecond']

/-- There is something in an entry besides blanks. -/
theorem WritesEntry.not_isBlankText {part : List Char} {entry : ListEntry} (h : WritesEntry part entry) :
    ¬ IsBlankText part := by
  intro hblank
  have habsurd : ∀ c ∈ part, Text.isBlank c = false → False := by
    intro c hc hnot
    rw [hblank c hc] at hnot
    cases hnot
  cases h with
  | @all word _ hword hpadded =>
    rcases hpadded with ⟨before, after, rfl, _, _⟩
    have hne : word ≠ [] := by
      rintro rfl
      cases hword
    rcases List.exists_mem_of_ne_nil word hne with ⟨c, hc⟩
    exact habsurd c (by simp [hc]) (not_isBlank_of_isAlpha (isAlpha_of_map_toLower hword c hc))
  | single hindex =>
    rcases hindex with ⟨sign, digits, ⟨before, after, rfl, _, _⟩, _, hne, hdigits, _⟩
    rcases List.exists_mem_of_ne_nil digits hne with ⟨c, hc⟩
    exact habsurd c (by simp [hc]) (not_isBlank_of_isDigit (hdigits c hc))
  | range _ _ => exact habsurd '-' (by simp) (by decide)

/-- The numbers of an entry are counted from 1. -/
theorem PartDenotes.one_le {count n : Nat} {part : List Char} (h : PartDenotes count part n) : 1 ≤ n := by
  rcases h with ⟨entry, hwrites, hdenotes⟩
  cases hwrites with
  | all _ _ => exact hdenotes.1
  | single hindex =>
    rcases hindex with ⟨_, _, _, _, _, _, _, hpos, _⟩
    rw [ListEntry.Denotes] at hdenotes
    omega
  | range hfirst hsecond =>
    rcases hfirst with ⟨_, _, _, _, _, _, _, hpos, _⟩
    rcases hsecond with ⟨_, _, _, _, _, _, _, hpos', _⟩
    have hlow := hdenotes.1
    omega

/-! ## Reading one part -/

/-- What is read of a part: nothing of a blank one, the numbers of an entry, and a fault if the part is neither. -/
inductive PartRead (part : List Char) (count : Nat) : Except IndexFault (List Nat) → Prop where
  | blank : IsBlankText part → PartRead part count (.ok [])
  | entry {entry : ListEntry} {indices : List Nat} :
      WritesEntry part entry → (∀ n, n ∈ indices ↔ entry.Denotes count n) →
      PartRead part count (.ok indices)
  | fault {fault : IndexFault} : IsFaulty part → PartRead part count (.error fault)

/-- A part with a dash in it is read at the first one. -/
theorem indicesOf_of_dash {part : List Char} (count : Nat)
    (hall : isAll (Text.trimBlanks part) = false) (hdash : '-' ∈ Text.trimBlanks part) :
    PartRead part count (indicesOf part count) := by
  rcases List.eq_append_cons_of_mem hdash with ⟨first, second, hsplit, hfirst⟩
  rcases Text.isPadded_trimBlanks part with ⟨before, after, hpart, hbefore, hafter⟩
  have hwritten : part = (before ++ first) ++ '-' :: (second ++ after) := by
    rw [hsplit] at hpart
    simpa using hpart
  -- Blanks around the part are blanks around its two numbers.
  have hleft : ∀ n, WritesIndex (before ++ first) n ↔ WritesIndex first n := fun n =>
    writesIndex_iff_of_isPadded ⟨before, [], by simp, hbefore, by simp⟩
  have hright : ∀ n, WritesIndex (second ++ after) n ↔ WritesIndex second n := fun n =>
    writesIndex_iff_of_isPadded ⟨[], after, by simp, by simp, hafter⟩
  have hentry : ∀ entry, WritesEntry part entry ↔
      ∃ m n, entry = .range m n ∧ readEntry first = .ok m ∧ readEntry second = .ok n := by
    intro entry
    rw [hwritten, writesEntry_range_iff]
    simp only [hleft, hright, readEntry_eq_ok_iff]
  have hblank : ¬ IsBlankText part := by
    rw [isBlankText_iff, hsplit]
    simp
  have hbefore : ∀ c ∈ first, (c != '-') = true := by
    intro c hc
    simpa using fun heq : c = '-' => hfirst (heq ▸ hc)
  have hends : ∀ c ∈ ('-' :: second).head?, (c != '-') = false := by simp
  have hcut := takeWhile_append_of_forall hbefore hends
  have hindices : indicesOf part count = (do
      let m ← readEntry first
      let n ← readEntry second
      .ok (List.range' (min m n) (min (max m n) count + 1 - min m n))) := by
    have hempty : (Text.trimBlanks part).isEmpty = false := by simp [hsplit]
    have hcontains : (Text.trimBlanks part).contains '-' = true := by simpa using hdash
    simp only [indicesOf, hempty, hall, hcontains]
    rw [hsplit, hcut.1, hcut.2]
    rfl
  rw [hindices]
  cases hm : readEntry first with
  | error fault =>
    refine PartRead.fault ⟨hblank, fun entry h => ?_⟩
    rcases (hentry entry).1 h with ⟨m, n, _, hm', _⟩
    rw [hm] at hm'
    cases hm'
  | ok m =>
    cases hn : readEntry second with
    | error fault =>
      refine PartRead.fault ⟨hblank, fun entry h => ?_⟩
      rcases (hentry entry).1 h with ⟨m, n, _, _, hn'⟩
      rw [hn] at hn'
      cases hn'
    | ok n =>
      refine PartRead.entry ((hentry _).2 ⟨m, n, rfl, hm, hn⟩) fun k => ?_
      rw [List.mem_range'_1, ListEntry.Denotes]
      omega

/-- A part that is not blank, not the word for everything and has no dash is read as one number. -/
theorem indicesOf_of_single {part : List Char} (count : Nat) (hnone : Text.trimBlanks part ≠ [])
    (hall : isAll (Text.trimBlanks part) = false) (hdash : '-' ∉ Text.trimBlanks part) :
    PartRead part count (indicesOf part count) := by
  have hread : ∀ n, readEntry (Text.trimBlanks part) = .ok n ↔ WritesIndex part n := by
    intro n
    rw [readEntry_eq_ok_iff, writesIndex_iff_of_isPadded (Text.isPadded_trimBlanks part)]
  -- Without the word and without a dash only a single number can be meant.
  have hentry : ∀ entry, WritesEntry part entry →
      ∃ n, entry = .single n ∧ readEntry (Text.trimBlanks part) = .ok n := by
    intro entry h
    cases h with
    | all hword hpadded =>
      rw [isAll_trimBlanks_iff.2 ⟨_, hword, hpadded⟩] at hall
      cases hall
    | single hindex => exact ⟨_, rfl, (hread _).2 hindex⟩
    | range _ _ =>
      exact absurd ((Text.mem_trimBlanks (by decide)).2 (by simp)) hdash
  have hindices : indicesOf part count = (do return [← readEntry (Text.trimBlanks part)]) := by
    have hempty : (Text.trimBlanks part).isEmpty = false := by simpa using hnone
    have hcontains : (Text.trimBlanks part).contains '-' = false := by simpa using hdash
    simp only [indicesOf, hempty, hall, hcontains]
    rfl
  rw [hindices]
  cases hn : readEntry (Text.trimBlanks part) with
  | error fault =>
    refine PartRead.fault ⟨fun hblank => hnone (isBlankText_iff.1 hblank), fun entry h => ?_⟩
    rcases hentry entry h with ⟨n, _, hn'⟩
    rw [hn] at hn'
    cases hn'
  | ok n =>
    refine PartRead.entry (WritesEntry.single ((hread n).1 hn)) fun k => ?_
    exact List.mem_singleton

theorem indicesOf_read (part : List Char) (count : Nat) :
    PartRead part count (indicesOf part count) := by
  by_cases hnone : Text.trimBlanks part = []
  · have hindices : indicesOf part count = .ok [] := by simp [indicesOf, hnone]
    rw [hindices]
    exact PartRead.blank (isBlankText_iff.2 hnone)
  · cases hall : isAll (Text.trimBlanks part) with
    | true =>
      have hindices : indicesOf part count = .ok (List.range' 1 count) := by
        simp [indicesOf, hnone, hall]
      rcases isAll_trimBlanks_iff.1 hall with ⟨word, hword, hpadded⟩
      rw [hindices]
      refine PartRead.entry (WritesEntry.all hword hpadded) fun n => ?_
      rw [List.mem_range'_1, ListEntry.Denotes]
      omega
    | false =>
      by_cases hdash : '-' ∈ Text.trimBlanks part
      · exact indicesOf_of_dash count hall hdash
      · exact indicesOf_of_single count hnone hall hdash

theorem isFaulty_iff (count : Nat) {part : List Char} :
    IsFaulty part ↔ ∃ fault, indicesOf part count = .error fault := by
  have hread := indicesOf_read part count
  generalize indicesOf part count = result at hread
  cases hread with
  | blank hblank => exact iff_of_false (fun h => h.1 hblank) (by simp)
  | entry hwrites _ => exact iff_of_false (fun h => h.2 _ hwrites) (by simp)
  | fault hfaulty => exact iff_of_true hfaulty ⟨_, rfl⟩

theorem partDenotes_iff {count n : Nat} {part : List Char} :
    PartDenotes count part n ↔ ∃ indices, indicesOf part count = .ok indices ∧ n ∈ indices := by
  have hread := indicesOf_read part count
  generalize indicesOf part count = result at hread
  cases hread with
  | blank hblank =>
    exact iff_of_false (fun ⟨_, hwrites, _⟩ => hwrites.not_isBlankText hblank) (by simp)
  | @entry entry indices hwrites hmem =>
    simp only [Except.ok.injEq, exists_eq_left', hmem]
    constructor
    · rintro ⟨other, hwrites', hdenotes⟩
      rwa [hwrites.unique hwrites']
    · exact fun hdenotes => ⟨entry, hwrites, hdenotes⟩
  | fault hfaulty => exact iff_of_false (fun ⟨_, hwrites, _⟩ => hfaulty.2 _ hwrites) (by simp)

end SheetMarkup
