import Mathlib.Data.List.Chain
import SheetMarkup.Proofs.Decimal.Numeral
import SheetMarkup.Proofs.Formula.Expansion

/-!
# Pieces — an expression and the references in it

An expression is read as characters with references between them. Where references are replaced by
numerals one after another, the text is at each time that of the same pieces, with the numerals in the
place of the references that are done. A numeral does not start with a letter, so no reference can arise
from it unless it goes on with a letter or a digit that stands in front.

* `Piece`, `pieces`, `fill`: the pieces of an expression, and texts made from them
* `Apart`: pieces that do not run into each other when references are replaced
* `replaceAll_fill`: one reference replaced
* `Resolver.Resolves`, `substitute_fill`: all references of an expression replaced
-/

namespace SheetMarkup

/-- A part of an expression: a character that stays, or a reference. -/
inductive Piece where
  | char (c : Char)
  | reference (corner : Corner)
  deriving DecidableEq, Repr

/-- The pieces of a text whose first `covered` characters belong to a reference already read. -/
def piecesFrom : (covered : Nat) → List Char → List Piece
  | _, [] => []
  | covered + 1, _ :: cs => piecesFrom covered cs
  | 0, c :: cs =>
    match referenceAt? (c :: cs) with
    | some corner => .reference corner :: piecesFrom (corner.token.length - 1) cs
    | none => .char c :: piecesFrom 0 cs

def pieces (cs : List Char) : List Piece :=
  piecesFrom 0 cs

/-- The text of pieces with something in the place of each reference. -/
def fill (shown : Corner → List Char) : List Piece → List Char
  | [] => []
  | .char c :: ps => c :: fill shown ps
  | .reference corner :: ps => shown corner ++ fill shown ps

inductive Reading : List Char → List Piece → Prop where
  | nil : Reading [] []
  | char {c : Char} {cs : List Char} {ps : List Piece} :
      referenceAt? (c :: cs) = none → Reading cs ps → Reading (c :: cs) (.char c :: ps)
  | reference {corner : Corner} {cs : List Char} {ps : List Piece} :
      corner.IsToken → Reading cs ps → Reading (corner.token ++ cs) (.reference corner :: ps)

/-! ## Reading -/

theorem piecesFrom_append (word cs : List Char) : piecesFrom word.length (word ++ cs) = pieces cs := by
  induction word with
  | nil => rfl
  | cons c word ih => exact ih

theorem reading_pieces (cs : List Char) : Reading cs (pieces cs) := by
  -- A reference takes its whole token at once, so the induction is on the length of the text.
  generalize hlength : cs.length = n
  induction n using Nat.strongRecOn generalizing cs with
  | ind n ih =>
    cases cs with
    | nil => exact Reading.nil
    | cons c cs =>
      cases hfound : referenceAt? (c :: cs) with
      | none =>
        have hpieces : pieces (c :: cs) = .char c :: pieces cs := by
          simp [pieces, piecesFrom, hfound]
        rw [hpieces]
        exact Reading.char hfound (ih cs.length (by simp at hlength; omega) cs rfl)
      | some corner =>
        rcases referenceAt?_eq_some hfound with ⟨htoken, rest, heq⟩
        have hshorter : rest.length < n := by
          have hsum := congrArg List.length heq
          simp only [Corner.token, List.length_append, List.length_cons] at hsum
          simp only [List.length_cons] at hlength
          omega
        have hpieces : pieces (c :: cs) = .reference corner :: pieces rest := by
          have htail : cs = corner.letters ++ corner.digits ++ [']'] ++ rest := by
            simp only [Corner.token, List.cons_append] at heq
            exact (List.cons.inj heq).2
          have hcovered : corner.token.length - 1 =
              (corner.letters ++ corner.digits ++ [']']).length := by simp [Corner.token]
          simp only [pieces, piecesFrom, hfound]
          rw [hcovered, htail, piecesFrom_append, pieces]
        rw [hpieces, heq]
        exact Reading.reference htoken (ih rest.length hshorter rest rfl)

theorem Reading.fill_token {cs : List Char} {ps : List Piece} (h : Reading cs ps) :
    fill Corner.token ps = cs := by
  induction h with
  | nil => rfl
  | char _ _ ih => simp [fill, ih]
  | reference _ _ ih => simp [fill, ih]

theorem Reading.mem_references {cs : List Char} {ps : List Piece} (h : Reading cs ps)
    {corner : Corner} (hmem : .reference corner ∈ ps) : corner ∈ references cs := by
  rw [mem_references_iff, mem_occurrences]
  induction h with
  | nil => cases hmem
  | char _ _ ih =>
    rcases List.mem_cons.1 hmem with hhead | hrest
    · cases hhead
    · rcases ih hrest with ⟨c, rest, hsuffix, hfound⟩
      exact ⟨c, rest, hsuffix.trans (List.suffix_cons _ _), hfound⟩
  | reference htoken _ ih =>
    rename_i first cs ps _
    rcases List.mem_cons.1 hmem with hhead | hrest
    · cases hhead
      exact ⟨_, _, List.suffix_refl _, referenceAt?_token htoken cs⟩
    · rcases ih hrest with ⟨c, rest, hsuffix, hfound⟩
      exact ⟨c, rest, hsuffix.trans (List.suffix_append _ _), hfound⟩

theorem fill_congr {shown shown' : Corner → List Char} {ps : List Piece}
    (h : ∀ corner, .reference corner ∈ ps → shown corner = shown' corner) :
    fill shown ps = fill shown' ps := by
  induction ps with
  | nil => rfl
  | cons p ps ih =>
    have hrest := ih fun corner hmem => h corner (List.mem_cons_of_mem p hmem)
    cases p with
    | char c => simp [fill, hrest]
    | reference corner => simp [fill, hrest, h corner List.mem_cons_self]

/-! ## Pieces apart -/

/-- A numeral does not start with a letter. -/
theorem IsNumeral.cons {text : List Char} (h : IsNumeral text) :
    ∃ c cs, text = c :: cs ∧ isColumnLetter c = false := by
  have hne : text ≠ [] := by
    rcases h.literal with ⟨negative, body, _, rfl, hne, _⟩
    cases negative with
    | false => exact hne
    | true => simp [Decimal.withSign]
  rcases List.exists_cons_of_ne_nil hne with ⟨c, cs, rfl⟩
  refine ⟨c, cs, rfl, ?_⟩
  rcases h.isLiteralChar_or_minus c List.mem_cons_self with hliteral | rfl
  · simp only [Decimal.isLiteralChar, Bool.or_eq_true, beq_iff_eq] at hliteral
    rcases hliteral with hdigit | rfl
    · exact not_isColumnLetter_of_isDigit hdigit
    · decide
  · decide

/-- Whether a character and a numeral behind it would run into each other. -/
def joins (c : Char) : Bool :=
  Decimal.isLiteralChar c || isNameChar c || c == ')'

/-- Two pieces that stand next to each other stay apart when the references are replaced: there is no
number, name or closing parenthesis in front of a reference and no other reference next to it, no number
behind it, and no power behind one with a negative value. -/
def Apart (value : Corner → List Char) : Piece → Piece → Prop
  | .char _, .char _ => True
  | .char c, .reference _ => joins c = false
  | .reference corner, .char c =>
    Decimal.isLiteralChar c = false ∧ ((value corner).head? = some '-' → c ≠ '^')
  | .reference _, .reference _ => False

instance (value : Corner → List Char) : DecidableRel (Apart value)
  | .char _, .char _ => inferInstanceAs (Decidable True)
  | .char c, .reference _ => inferInstanceAs (Decidable (joins c = false))
  | .reference corner, .char c => inferInstanceAs (Decidable (Decimal.isLiteralChar c = false ∧
      ((value corner).head? = some '-' → c ≠ '^')))
  | .reference _, .reference _ => inferInstanceAs (Decidable False)

theorem joins_of_isColumnLetter {c : Char} (h : isColumnLetter c = true) : joins c = true := by
  have hletter : Text.isLetter c = true := by
    simp only [isColumnLetter, Bool.or_eq_true, beq_iff_eq] at h
    rcases h with (halpha | rfl) | rfl
    · simp [Text.isLetter, halpha]
    · decide +kernel
    · decide +kernel
  simp [joins, isNameChar, hletter]

theorem joins_of_isDigit {c : Char} (h : c.isDigit = true) : joins c = true := by
  simp [joins, Decimal.isLiteralChar, h]

variable {value shown : Corner → List Char} {ps : List Piece} {cs : List Char}

/-- Behind a letter or digit of a token, what is read in a filled text up to the closing bracket is there
in the expression already. -/
theorem prefix_of_prefix_fill {word : List Char} {last : Char}
    (hword : ∀ c ∈ word, joins c = true) (hlast : joins last = true)
    (hchain : (.char last :: ps).IsChain (Apart value)) (h : word ++ [']'] <+: fill shown ps) :
    word ++ [']'] <+: fill Corner.token ps := by
  induction word generalizing last ps with
  | nil =>
    cases ps with
    | nil => simp [fill] at h
    | cons p ps =>
      have hnext := (List.isChain_cons_cons.1 hchain).1
      cases p with
      | char c =>
        rw [fill, List.nil_append, List.cons_prefix_cons] at h ⊢
        exact ⟨h.1, List.nil_prefix⟩
      | reference corner =>
        -- A reference does not stand behind a letter or a digit.
        rw [Apart, hlast] at hnext
        cases hnext
  | cons a word ih =>
    cases ps with
    | nil => simp [fill] at h
    | cons p ps =>
      rcases List.isChain_cons_cons.1 hchain with ⟨hnext, hrest⟩
      cases p with
      | char c =>
        rw [fill, List.cons_append, List.cons_prefix_cons] at h ⊢
        rcases h with ⟨rfl, h⟩
        exact ⟨rfl, ih (fun c hc => hword c (List.mem_cons_of_mem _ hc))
          (hword _ List.mem_cons_self) hrest h⟩
      | reference corner =>
        rw [Apart, hlast] at hnext
        cases hnext

/-- In a filled text no reference starts at a character that stays. -/
theorem referenceAt?_fill {c : Char} (hreading : Reading (c :: cs) (.char c :: ps))
    (hchain : (Piece.char c :: ps).IsChain (Apart value))
    (hshown : ∀ corner, .reference corner ∈ ps →
      ∃ a rest, shown corner = a :: rest ∧ isColumnLetter a = false) :
    referenceAt? (c :: fill shown ps) = none := by
  cases hfound : referenceAt? (c :: fill shown ps) with
  | none => rfl
  | some corner =>
    exfalso
    rcases referenceAt?_eq_some hfound with ⟨htoken, rest, heq⟩
    rcases List.exists_cons_of_ne_nil htoken.letters_ne with ⟨a, letters, hletters⟩
    have ha : isColumnLetter a = true := htoken.letters a (by simp [hletters])
    simp only [Corner.token, hletters, List.cons_append, List.append_assoc, List.cons.injEq] at heq
    rcases heq with ⟨rfl, heq⟩
    cases ps with
    | nil => simp [fill] at heq
    | cons p ps =>
      rcases List.isChain_cons_cons.1 hchain with ⟨_, hrest⟩
      cases p with
      | reference first =>
        -- Letters follow the bracket of a token, and the text shown starts with none.
        rcases hshown first List.mem_cons_self with ⟨b, more, hb, hnot⟩
        rw [fill, hb, List.cons_append] at heq
        rw [← (List.cons.inj heq).1, hnot] at ha
        cases ha
      | char b =>
        rw [fill] at heq
        rcases List.cons.inj heq with ⟨rfl, hfill⟩
        -- What follows the bracket is in the expression already, so a reference was read there.
        have hword : (letters ++ corner.digits) ++ [']'] <+: fill shown ps :=
          ⟨rest, by simpa using hfill.symm⟩
        have hjoins : ∀ c ∈ letters ++ corner.digits, joins c = true := by
          intro c hc
          rcases List.mem_append.1 hc with hc | hc
          · exact joins_of_isColumnLetter (htoken.letters c (by simp [hletters, hc]))
          · exact joins_of_isDigit (htoken.digits c hc)
        rcases prefix_of_prefix_fill hjoins (joins_of_isColumnLetter ha) hrest hword with
          ⟨more, hmore⟩
        cases hreading with
        | char hnone hreading =>
          have hcs : '[' :: cs = corner.token ++ more := by
            rw [← hreading.fill_token, fill, ← hmore]
            simp [Corner.token, hletters]
          rw [hcs, referenceAt?_token htoken] at hnone
          cases hnone

/-! ## Replacement -/

theorem replaceFrom_token_of_ne {corner other : Corner} (htoken : corner.IsToken)
    (hother : other.IsToken) (hne : corner ≠ other) (replacement cs : List Char) :
    Text.replaceFrom other.token replacement 0 (corner.token ++ cs) =
      corner.token ++ Text.replaceFrom other.token replacement 0 cs := by
  apply Text.replaceFrom_append_of_tail rfl htoken.not_mem_tail
  -- Only one reference is found where a token stands.
  rintro ⟨rest, heq⟩
  have hfound := referenceAt?_token htoken cs
  rw [← heq, referenceAt?_token hother] at hfound
  exact hne (Option.some.inj hfound).symm

def shownAfter (value : Corner → List Char) (done : List Corner) (corner : Corner) : List Char :=
  if corner ∈ done then value corner else corner.token

/-- A token of one reference is replaced, and the other pieces stay as they are. -/
theorem replaceFrom_fill (hreading : Reading cs ps) (hchain : ps.IsChain (Apart value))
    (hnumerals : ∀ corner, .reference corner ∈ ps → IsNumeral (value corner)) {next : Corner}
    (hnext : next.IsToken) (done : List Corner) :
    Text.replaceFrom next.token (value next) 0 (fill (shownAfter value done) ps) =
      fill (shownAfter value (next :: done)) ps := by
  induction hreading with
  | nil => rfl
  | char hnone hreading ih =>
    rename_i c cs ps
    have hnumerals' := fun corner hmem => hnumerals corner (List.mem_cons_of_mem _ hmem)
    have hrest := ih hchain.tail hnumerals'
    have hfind : referenceAt? (c :: fill (shownAfter value done) ps) = none := by
      apply referenceAt?_fill (Reading.char hnone hreading) hchain
      intro corner hmem
      -- What is shown for a reference starts with a numeral or with a bracket.
      unfold shownAfter
      split
      · exact (hnumerals' corner hmem).cons
      · exact ⟨'[', _, rfl, by decide⟩
    have hprefix : next.token.isPrefixOf (c :: fill (shownAfter value done) ps) = false := by
      rw [Bool.eq_false_iff, ne_eq, List.isPrefixOf_iff_prefix]
      rintro ⟨rest, heq⟩
      rw [← heq, referenceAt?_token hnext] at hfind
      cases hfind
    simp [fill, Text.replaceFrom, hprefix, hrest]
  | reference htoken hreading ih =>
    rename_i corner cs ps
    have hnumerals' := fun corner hmem => hnumerals corner (List.mem_cons_of_mem _ hmem)
    have hrest := ih hchain.tail hnumerals'
    by_cases hdone : corner ∈ done
    · -- A numeral has no bracket, so nothing is replaced in it.
      have hshown : shownAfter value done corner = value corner := by simp [shownAfter, hdone]
      have hshown' : shownAfter value (next :: done) corner = value corner := by
        simp [shownAfter, hdone]
      have hvalue := (hnumerals corner List.mem_cons_self).not_mem
      rw [fill, fill, hshown, hshown', Text.replaceFrom_append_of_not_mem rfl hvalue, hrest]
    · have hshown : shownAfter value done corner = corner.token := by simp [shownAfter, hdone]
      by_cases heq : corner = next
      · subst heq
        have hshown' : shownAfter value (corner :: done) corner = value corner := by
          simp [shownAfter]
        rw [fill, fill, hshown, hshown', Text.replaceFrom_self corner.token_ne_nil, hrest]
      · have hshown' : shownAfter value (next :: done) corner = corner.token := by
          simp [shownAfter, hdone, heq]
        rw [fill, fill, hshown, hshown', replaceFrom_token_of_ne htoken hnext heq, hrest]

theorem replaceAll_fill (hreading : Reading cs ps) (hchain : ps.IsChain (Apart value))
    (hnumerals : ∀ corner, .reference corner ∈ ps → IsNumeral (value corner)) {next : Corner}
    (hnext : next.IsToken) (done : List Corner) :
    Text.replaceAll next.token (value next) (fill (shownAfter value done) ps) =
      fill (shownAfter value (next :: done)) ps := by
  have hne : next.token.isEmpty = false := by simp [Corner.token]
  simpa [Text.replaceAll, hne] using replaceFrom_fill hreading hchain hnumerals hnext done

namespace Resolver

/-- References resolve to given values, one after another, from one grid to another. -/
inductive Resolves (r : Resolver) (descend : Descent) (chain : List String)
    (value : Corner → List Char) : List Corner → Grid → Grid → Prop where
  | nil (grid : Grid) : Resolves r descend chain value [] grid grid
  | cons {corner : Corner} {rest : List Corner} {grid next last : Grid} :
      r.follow descend chain corner grid = ⟨.ok (String.ofList (value corner)), next⟩ →
      Resolves r descend chain value rest next last →
      Resolves r descend chain value (corner :: rest) grid last

variable {r : Resolver} {descend : Descent} {chain : List String} {todo : List Corner}
  {grid last : Grid}

theorem substitute_shownAfter (hresolves : r.Resolves descend chain value todo grid last)
    (htodo : ∀ corner ∈ todo, corner.IsToken) (hreading : Reading cs ps)
    (hchain : ps.IsChain (Apart value))
    (hnumerals : ∀ corner, .reference corner ∈ ps → IsNumeral (value corner)) (done : List Corner) :
    r.substitute descend chain todo (fill (shownAfter value done) ps) grid =
      (.ok (fill (shownAfter value (todo.reverse ++ done)) ps), last) := by
  induction hresolves generalizing done with
  | nil grid => rfl
  | cons hfollow _ ih =>
    rename_i corner rest grid next last _
    have hrest := ih (fun c hc => htodo c (List.mem_cons_of_mem _ hc)) (corner :: done)
    have hreplace := replaceAll_fill hreading hchain hnumerals (htodo corner List.mem_cons_self) done
    simp [substitute, hfollow, hreplace, hrest]

/-- Where the values of references stay apart from what stands next to them, all references are replaced
at once. -/
theorem substitute_fill
    (hresolves : r.Resolves descend chain value (references cs) grid last)
    (hnumerals : ∀ corner ∈ references cs, IsNumeral (value corner))
    (hchain : (pieces cs).IsChain (Apart value)) :
    r.substitute descend chain (references cs) cs grid = (.ok (fill value (pieces cs)), last) := by
  have hreading := reading_pieces cs
  have hstart : fill (shownAfter value []) (pieces cs) = cs := by
    calc
      fill (shownAfter value []) (pieces cs) = fill Corner.token (pieces cs) :=
        fill_congr fun corner _ => by simp [shownAfter]
      _ = cs := hreading.fill_token
  have hend : fill (shownAfter value ((references cs).reverse ++ [])) (pieces cs) =
      fill value (pieces cs) := by
    apply fill_congr
    intro corner hmem
    simp [shownAfter, hreading.mem_references hmem]
  have hsubstitute := substitute_shownAfter hresolves (fun _ => isToken_of_mem_references) hreading
    hchain (fun corner hmem => hnumerals corner (hreading.mem_references hmem)) []
  rwa [hstart, hend] at hsubstitute

end Resolver
end SheetMarkup
