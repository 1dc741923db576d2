import SheetMarkup.Options.Json
import SheetMarkup.Proofs.Diagnostic.Outcome

/-!
# Round trip — options that are written are read back

Each option is written as one member of an object, in the form in which the reader of its type takes it:
a switch that is left open as a negative number, an option that is not given as null, a number as itself.
No member says anything about another option, so the reader, who goes through the members from the
default options on, ends with the options that were written.

* `word?_wordJson`, `list?_map`, `nullable?_elim`: values of one type
* `foldlM_members`, `foldlM_browserMembers`: the members of all options
* `ofJson_toJson`: the whole object
-/

namespace SheetMarkup

/-! ## Values -/

namespace Json

theorem natural?_ofNat {largest n : Nat} (h : n ≤ largest) :
    natural? largest (.integer (Int.ofNat n)) = some n := by
  have hle : Int.ofNat n ≤ Int.ofNat largest := Int.ofNat_le.2 h
  have hpos : 0 ≤ Int.ofNat n := Int.natCast_nonneg n
  simp only [natural?, hle, hpos]
  simp

theorem word?_wordJson (n : UInt64) : word? (wordJson n) = some n := by
  have hle : n.toNat ≤ Nat.pow 2 64 - 1 := Nat.le_pred_of_lt n.toNat_lt
  rw [word?, wordJson, natural?_ofNat hle, Option.map_some, UInt64.ofNat_toNat]

theorem word32?_integer (n : UInt32) : word32? (.integer (Int.ofNat n.toNat)) = some n := by
  have hle : n.toNat ≤ Nat.pow 2 32 - 1 := Nat.le_pred_of_lt n.toNat_lt
  rw [word32?, natural?_ofNat hle, Option.map_some, UInt32.ofNat_toNat]

section Codec

variable {α : Type} {read : Json → Option α} (write : α → Json)

theorem list?_map (h : ∀ x, read (write x) = some x) (xs : List α) :
    list? read (.array (xs.map write)) = some xs := by
  simp only [list?, List.mapM_map]
  induction xs with
  | nil => rfl
  | cons x xs ih => simp [h, ih]

/-- A value that is never written as null can be told from one that is not given. -/
theorem nullable?_elim (hnull : ∀ x, write x ≠ .null) (h : ∀ x, read (write x) = some x)
    (x : Option α) : nullable? read (x.elim .null write) = some x := by
  cases x with
  | none => rfl
  | some x =>
    rw [Option.elim_some]
    unfold nullable?
    split
    · rename_i hwritten
      exact absurd hwritten (hnull x)
    · simp [h]

end Codec

theorem nullable?_textJson? {read : Json → Option String} (h : ∀ text, read (.string text) = some text)
    (text : Option String) : nullable? read (textJson? text) = some text :=
  nullable?_elim .string (fun _ => nofun) h text

end Json

theorem Preference.ofJson?_toJson (p : Preference) : ofJson? p.toJson = some p := by
  cases p with
  | unset => decide
  | on => rfl
  | off => rfl

theorem HeadingChoice.ofJson_key_toJson (key : String) (c : HeadingChoice) :
    ofJson key c.toJson = .ok c := by
  cases c with
  | unset => rfl
  | off => rfl
  | above => rfl
  | below => rfl

/-! ## Members -/

theorem typed_map {α β : Type} {key : String} {read : Option α} {value : α} (f : α → β)
    (h : read = some value) : (typed key read).map f = .ok (f value) := by
  rw [h]
  rfl

namespace RenderOptions

/-- The members are written in the order of their keys, which is the order in which they are read. -/
theorem pairwise_members (o : RenderOptions) : o.members.Pairwise fun a b => a.1 ≤ b.1 := by
  have hkeys : o.members.map Prod.fst = (members {}).map Prod.fst := rfl
  have hpairwise : ((members {}).map Prod.fst).Pairwise (· ≤ ·) := by decide +kernel
  rw [← hkeys] at hpairwise
  exact List.pairwise_map.1 hpairwise

open Json in
/-- Each member sets its option to what it was in the options written, and those of browsers set none. -/
theorem foldlM_members (o p : RenderOptions) :
    o.members.foldlM setMember p = .ok { o with browser := p.browser } := by
  have hswitch := Preference.ofJson?_toJson
  have hheading := HeadingChoice.ofJson_key_toJson
  have htext : ∀ text, nullable? string? (textJson? text) = some text :=
    nullable?_textJson? fun _ => rfl
  have hid : nullable? idText? (textJson? o.id) = some o.id := nullable?_textJson? (fun _ => rfl) o.id
  have hwidths : list? string? (.array (o.columnWidths.map .string)) = some o.columnWidths :=
    list?_map .string (fun _ => rfl) o.columnWidths
  have hwords : ∀ ns, list? word? (wordsJson ns) = some ns := list?_map wordJson word?_wordJson
  have hcount : nullable? word? (o.rowCount.elim .null wordJson) = some o.rowCount :=
    nullable?_elim wordJson (fun _ => nofun) word?_wordJson o.rowCount
  refine foldlM_cons_ok (typed_map _ (hswitch o.alternatingRowColors)) ?_
  refine foldlM_cons_ok (typed_map _ (htext o.border)) ?_
  refine foldlM_cons_ok (typed_map _ (hswitch o.cacheOutput)) ?_
  refine foldlM_cons_ok (typed_map _ (htext o.cellPadding)) ?_
  refine foldlM_cons_ok (typed_map _ (htext o.cellSpacing)) ?_
  refine foldlM_cons_ok (typed_map _ hwidths) ?_
  -- The keys of the eight options of browsers stand next to each other.
  iterate 8 refine foldlM_cons_ok rfl ?_
  refine foldlM_cons_ok rfl ?_
  refine foldlM_cons_ok rfl ?_
  refine foldlM_cons_ok (typed_map _ (hwords o.hideColumns)) ?_
  refine foldlM_cons_ok (typed_map _ (hwords o.hideRows)) ?_
  refine foldlM_cons_ok rfl ?_
  refine foldlM_cons_ok (typed_map _ hid) ?_
  refine foldlM_cons_ok (map_ok _ (hheading _ o.printDescription)) ?_
  refine foldlM_cons_ok (map_ok _ (hheading _ o.printName)) ?_
  refine foldlM_cons_ok (typed_map _ hcount) ?_
  refine foldlM_cons_ok (typed_map _ (hswitch o.rowHover)) ?_
  refine foldlM_cons_ok (typed_map _ (word?_wordJson o.rowOffset)) ?_
  refine foldlM_cons_ok (typed_map _ (hwords o.showColumns)) ?_
  refine foldlM_cons_ok (typed_map _ (hwords o.showRows)) ?_
  refine foldlM_cons_ok (typed_map _ (hswitch o.tableFoot)) ?_
  refine foldlM_cons_ok (typed_map _ (hswitch o.tableHead)) ?_
  refine foldlM_cons_ok (typed_map _ (hswitch o.useBrowser)) ?_
  rfl

open Json in
/-- The members of browsers set their options, and the others none of these. -/
theorem foldlM_browserMembers (o : RenderOptions) (b : BrowserOptions) :
    o.members.foldlM BrowserOptions.setMember b = .ok o.browser := by
  have hswitch := Preference.ofJson?_toJson
  have hcommands : nullable? string? (textJson? o.browser.customCommands) =
      some o.browser.customCommands := nullable?_textJson? (fun _ => rfl) o.browser.customCommands
  have hentries : nullable? word32?
      (o.browser.paginateEntries.elim .null fun n => .integer (Int.ofNat n.toNat)) =
        some o.browser.paginateEntries :=
    nullable?_elim (fun n => .integer (Int.ofNat n.toNat)) (fun _ => nofun) word32?_integer
      o.browser.paginateEntries
  iterate 6 refine foldlM_cons_ok rfl ?_
  refine foldlM_cons_ok (typed_map _ hcommands) ?_
  refine foldlM_cons_ok (typed_map _ (hswitch o.browser.filter)) ?_
  refine foldlM_cons_ok (typed_map _ (hswitch o.browser.info)) ?_
  refine foldlM_cons_ok (typed_map _ (hswitch o.browser.lengthChange)) ?_
  refine foldlM_cons_ok (typed_map _ (hswitch o.browser.paginate)) ?_
  refine foldlM_cons_ok (typed_map _ hentries) ?_
  refine foldlM_cons_ok (typed_map _ (hswitch o.browser.scrollX)) ?_
  refine foldlM_cons_ok (typed_map _ (hswitch o.browser.sort)) ?_
  iterate 16 refine foldlM_cons_ok rfl ?_
  rfl

/-- Options that are written as an object are read back from it as they are. -/
theorem ofJson_toJson (o : RenderOptions) : ofJson o.toJson = .ok o := by
  have hsorted : o.members.mergeSort (fun a b => a.1 ≤ b.1) = o.members :=
    List.mergeSort_of_pairwise (by simpa using o.pairwise_members)
  rw [toJson, ofJson, hsorted, ofMembers, foldlM_members, foldlM_browserMembers]
  rfl

end RenderOptions
end SheetMarkup
