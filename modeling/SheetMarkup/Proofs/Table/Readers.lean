import SheetMarkup.Proofs.Decimal.Numeral
import SheetMarkup.Proofs.Diagnostic.Outcome
import SheetMarkup.Table.Json

/-!
# Readers — the lenient and the strict reader of a table

The strict reader asks for more than the lenient one: each member once, each of its type, and cells that
are texts. What passes says the same to both, and both take the same fields from it. Only a number in
place of an id is written by each in its own format: the lenient reader writes it as a cell would show
it, the strict one plainly, and through a float where it does not fit a signed word.

* `lastMember?_of_onlyMember?`, `gridOf_of_list?`, `visibility?_refines`: the fields one by one
* `ofLenientDocument_of_strict`: the lenient reader on an object that the strict one takes
* `dataDigits_eq_plain_iff`: which decimals both formats write alike
* `Table.strict_eq_lenient`: the two tables of one text
-/

namespace SheetMarkup

/-! ## Members -/

theorem lookup_eq_head?_filter (members : List (String × Json)) (key : String) :
    members.lookup key = (members.filter (·.1 == key)).head?.map Prod.snd := by
  induction members with
  | nil => rfl
  | cons member members ih =>
    rcases member with ⟨name, value⟩
    rw [List.lookup_cons, List.filter_cons]
    by_cases hname : name = key
    · simp [hname]
    · have hother : (key == name) = false := by simpa using fun h => hname h.symm
      simp [hother, hname, ih]

/-- A member that stands alone is also the last one. -/
theorem lastMember?_of_onlyMember? {members : List (String × Json)} {key : String}
    {value : Option Json} (h : onlyMember? members key = some value) :
    Json.lastMember? members key = value := by
  rw [Json.lastMember?, lookup_eq_head?_filter, List.filter_reverse]
  unfold onlyMember? at h
  split at h
  · rename_i hnone
    simpa [hnone] using h
  · rename_i member hone
    simpa [hone] using h
  · cases h

/-! ## Grids -/

theorem cellText?_of_string? {item : Json} {text : String} (h : item.string? = some text) :
    item.cellText? = some text := by
  cases item with
  | string found => exact h
  | _ => cases h

theorem cellsFrom_of_mapM {items : List Json} {cells : List String} (row column : Nat)
    (h : items.mapM Json.string? = some cells) : cellsFrom row column items = .ok cells := by
  induction items generalizing column cells with
  | nil =>
    cases h
    rfl
  | cons item items ih =>
    simp only [List.mapM_cons, Option.bind_eq_bind, Option.bind_eq_some_iff] at h
    rcases h with ⟨text, htext, rest, hrest, hcells⟩
    cases hcells
    simp [cellsFrom, cellText?_of_string? htext, ih (column + 1) hrest, Except.map]

theorem rowsFrom_of_mapM {rows : List Json} {grid : Grid} (row : Nat)
    (h : rows.mapM (Json.list? Json.string?) = some grid) : rowsFrom row rows = .ok grid := by
  induction rows generalizing row grid with
  | nil =>
    cases h
    rfl
  | cons first rows ih =>
    simp only [List.mapM_cons, Option.bind_eq_bind, Option.bind_eq_some_iff] at h
    rcases h with ⟨cells, hcells, rest, hrest, hgrid⟩
    cases hgrid
    cases first with
    | array items => simp [rowsFrom, cellsFrom_of_mapM row 1 hcells, ih (row + 1) hrest, bind, Except.bind]
    | _ => cases hcells

theorem gridOf_of_list? {document : Json} {grid : Grid}
    (h : document.list? (Json.list? Json.string?) = some grid) : gridOf document = .ok grid := by
  cases document with
  | array rows => exact rowsFrom_of_mapM 1 h
  | _ => cases h

/-! ## Visibility flags -/

/-- Flags are read alike with a look-up that finds what a stricter one finds. -/
theorem visibility?_refines {strict lenient : List (String × Json) → String → Option (Option Json)}
    (hrefines : ∀ members key value, strict members key = some value →
      lenient members key = some value)
    {document : Json} {flags : Visibility} (h : visibility? strict document = some flags) :
    visibility? lenient document = some flags := by
  cases document with
  | object members =>
    simp only [visibility?, Option.bind_eq_bind, Option.bind_eq_some_iff] at h ⊢
    rcases h with ⟨rows, hrows, columns, hcolumns, hflags⟩
    exact ⟨rows, hrefines members "rows" rows hrows, columns,
      hrefines members "columns" columns hcolumns, hflags⟩
  | array lists =>
    -- An array of the two lists has no members to look up.
    rcases lists with _ | ⟨rows, _ | ⟨columns, _ | ⟨next, lists⟩⟩⟩ <;> exact h
  | _ => exact h

/-! ## Objects -/

theorem textMember_of_string? {members : List (String × Json)} {key text : String}
    (h : (Json.lastMember? members key).elim (some "") Json.string? = some text) :
    textMember members key = text := by
  unfold textMember
  cases hmember : Json.lastMember? members key with
  | none =>
    rw [hmember] at h
    exact Option.some.inj h
  | some value =>
    rw [hmember] at h
    simp only [Option.elim_some] at h
    simp [h]

/-- An object that the strict reader takes is read by the lenient one with the same fields, the id apart:
each of them writes it in its own way. -/
theorem ofLenientDocument_of_strict (defaultId : String) {members : List (String × Json)}
    {table : Table} (h : Table.ofStrictDocument? (.object members) = some table) :
    (Json.lastMember? members "id").elim (some "") Json.idText? = some table.id ∧
      Table.ofLenientDocument defaultId (.object members) =
        .ok { table with id := lenientId defaultId (Json.lastMember? members "id") } := by
  simp only [Table.ofStrictDocument?, strictTable?, Option.bind_eq_bind,
    Option.bind_eq_some_iff] at h
  rcases h with ⟨id?, hid?, name?, hname?, description?, hdescription?, data?, hdata?, flags?, hflags?,
    id, hid, name, hname, description, hdescription, data, hdata, flags, hflags, htable⟩
  -- A key that stands in the document once has its only member as the last one.
  cases lastMember?_of_onlyMember? hid?
  cases lastMember?_of_onlyMember? hname?
  cases lastMember?_of_onlyMember? hdescription?
  cases lastMember?_of_onlyMember? hdata?
  cases lastMember?_of_onlyMember? hflags?
  cases htable
  refine ⟨hid, ?_⟩
  have hgrid : (Json.lastMember? members "data").elim (.ok []) gridOf = .ok data := by
    cases hmember : Json.lastMember? members "data" with
    | none =>
      rw [hmember] at hdata
      cases hdata
      rfl
    | some document =>
      rw [hmember] at hdata
      exact gridOf_of_list? hdata
  have hlook : ∀ members key value, onlyMember? members key = some value →
      some (Json.lastMember? members key) = some value :=
    fun _ _ _ honly => congrArg some (lastMember?_of_onlyMember? honly)
  cases hmember : Json.lastMember? members "visibility" with
  | none =>
    rw [hmember] at hflags
    cases hflags
    simp [Table.ofLenientDocument, hgrid, hmember, textMember_of_string? hname,
      textMember_of_string? hdescription]
  | some document =>
    rw [hmember] at hflags
    have hread := visibility?_refines hlook hflags
    simp [Table.ofLenientDocument, hgrid, hmember, hread, textMember_of_string? hname,
      textMember_of_string? hdescription]

/-! ## Numbers as ids -/

namespace Decimal

/-- A fraction of ordinary size: it is not whole, and its leading digit stands between the fifth place
behind the point and the sixteenth before it. -/
def IsOrdinaryFraction (d : Decimal) : Prop :=
  d.digits ≠ 0 ∧ -5 < d.significant.2 ∧ d.significant.2 ≤ 16 ∧
    d.significant.2 < Int.ofNat d.significant.1.length

theorem withSign_inj {negative : Bool} {text other : List Char} :
    withSign negative text = withSign negative other ↔ text = other := by
  cases negative <;> simp [withSign]

/-- Only on a whole number it shows what is written behind whole numbers. -/
theorem positional_eq_iff {whole digits : List Char} {point : Int} (hwhole : whole ≠ [])
    (hdigits : digits ≠ []) :
    positional whole digits point = positional [] digits point ↔ point < Int.ofNat digits.length := by
  have hpos : 0 < digits.length := List.length_pos_iff.2 hdigits
  unfold positional
  by_cases hsmall : point ≤ 0
  · simp only [hsmall, if_true, true_iff]
    exact Int.lt_of_le_of_lt hsmall (Int.ofNat_lt.2 hpos)
  · by_cases hlarge : Int.ofNat digits.length ≤ point
    · have hnot : ¬point < Int.ofNat digits.length := Int.not_lt.2 hlarge
      simp only [hsmall, hlarge, hnot, if_true, if_false, iff_false]
      simpa using hwhole
    · simp only [hsmall, hlarge, if_false, true_iff]
      exact Int.not_le.1 hlarge

/-- The data format and the plain one agree on fractions of ordinary size, and on no other decimal. -/
theorem dataDigits_eq_plain_iff (d : Decimal) : d.dataDigits = d.plain ↔ d.IsOrdinaryFraction := by
  by_cases hzero : d.digits = 0
  · simp [dataDigits, plain, IsOrdinaryFraction, hzero, withSign_inj]
  · by_cases hsize : -5 < d.significant.2 ∧ d.significant.2 ≤ 16
    · simp [dataDigits, plain, IsOrdinaryFraction, hzero, hsize, withSign_inj,
        positional_eq_iff, significant_ne_nil hzero]
    · -- The exponent of the data format is no part of a plain number.
      have hscientific : d.dataDigits =
          withSign d.negative (scientific d.significant.1 d.significant.2) := by
        simp [dataDigits, hzero, hsize]
      have hexponent : 'e' ∈ d.dataDigits := by
        rw [hscientific]
        cases d.negative <;> simp [withSign, scientific]
      have hplain : 'e' ∉ d.plain := fun h => by
        rcases mem_plain h with hdigit | hpoint | hminus
        · exact absurd hdigit (by decide)
        · exact absurd hpoint (by decide)
        · exact absurd hminus (by decide)
      constructor
      · intro h
        exact absurd (h ▸ hexponent) hplain
      · rintro ⟨_, hlow, hhigh, _⟩
        exact absurd ⟨hlow, hhigh⟩ hsize

/-- A float that has one shortest decimal is written alike in both formats exactly if that is a fraction
of ordinary size. -/
theorem dataText_eq_plainText_iff {x : Float} {b : Binary} (hfinite : FloatValue.of x = .finite b)
    (hshortest : shortest .up b = shortest .even b) :
    plainText x = dataText x ↔ (shortest .even b).IsOrdinaryFraction := by
  rw [← dataDigits_eq_plain_iff, plainText, dataText, hfinite]
  simp only [hshortest, String.ofList_inj]
  exact eq_comm

end Decimal

/-! ## Both readers -/

/-- The float that a document is; floats can be compared where documents cannot. -/
def Json.float? : Json → Option Float
  | .float x => some x
  | _ => none

theorem Json.float?_eq_some {document : Json} {x : Float} (h : document.float? = some x) :
    document = .float x := by
  cases document with
  | float found => exact congrArg Json.float (Option.some.inj h)
  | _ => cases h

namespace Table

def idMember? (text : String) : Option Json :=
  match Json.parse text with
  | some (.object members) => Json.lastMember? members "id"
  | _ => none

theorem idMember?_eq_some {text : String} {id : Json} (h : idMember? text = some id) :
    ∃ members, Json.parse text = some (.object members) ∧
      Json.lastMember? members "id" = some id := by
  unfold idMember? at h
  split at h
  · rename_i members hparse
    exact ⟨members, hparse, h⟩
  · cases h

/-- A text of an object with an id that both readers take is the same table to both, up to the writing of a
number in place of the id. A text and a whole number of a signed word are the same id to both. A float is
written in the data format by the lenient reader and plainly by the strict one; if it has one shortest
decimal, the ids are the same exactly if that is a fraction of ordinary size. -/
theorem strict_eq_lenient {defaultId text : String} {id : Json} {lenient strict : Table}
    (hid : idMember? text = some id) (hlenient : ofLenientJson defaultId text = .ok lenient)
    (hstrict : ofStrictJson? text = some strict) :
    strict = { lenient with id := strict.id } ∧
      (∀ word, id = .string word → strict.id = lenient.id) ∧
      (∀ n, id = .integer n → Json.isSigned n = true → strict.id = lenient.id) ∧
      ∀ x, id = .float x →
        lenient.id = Decimal.dataText x ∧ strict.id = Decimal.plainText x ∧
          ∀ b, Decimal.FloatValue.of x = .finite b →
            Decimal.shortest .up b = Decimal.shortest .even b →
            (strict.id = lenient.id ↔ (Decimal.shortest .even b).IsOrdinaryFraction) := by
  rcases idMember?_eq_some hid with ⟨members, hparse, hmember⟩
  rw [ofStrictJson?, hparse, Option.bind_some] at hstrict
  rcases ofLenientDocument_of_strict defaultId hstrict with ⟨hstrictId, hdocument⟩
  rw [ofLenientJson, hparse] at hlenient
  simp only [hdocument] at hlenient
  rw [hmember] at hlenient hstrictId
  simp only [Option.elim_some] at hstrictId
  split at hlenient
  · cases hlenient
    refine ⟨rfl, ?_, ?_, ?_⟩
    · rintro word rfl
      exact (Option.some.inj hstrictId).symm
    · rintro n rfl hsigned
      simpa [Json.idText?, lenientId, hsigned] using hstrictId.symm
    · rintro x rfl
      have hplain : strict.id = Decimal.plainText x := (Option.some.inj hstrictId).symm
      refine ⟨rfl, hplain, fun b hfinite hshortest => ?_⟩
      rw [hplain]
      exact Decimal.dataText_eq_plainText_iff hfinite hshortest
  · cases hlenient

/-- The id is a fraction of ordinary size, the flags are of all three kinds, and there is a member that
means nothing to a table. -/
theorem strict_eq_lenient_of_fraction :
    let text := "\x7b\"id\": 1.5, \"data\": [[\"a\", \"b\"], []], " ++
      "\"visibility\": \x7b\"rows\": [true, 0, \" false \"]\x7d, \"more\": [null]\x7d"
    let table : Table :=
      { id := "1.5", data := [["a", "b"], []], visibility := { rows := [true, false, false] } }
    let half : Decimal.Binary := ⟨false, 3 * Nat.pow 2 51, -52⟩
    idMember? text = some (.float 1.5) ∧
      ofLenientJson "0" text = .ok table ∧ ofStrictJson? text = some table ∧
      Decimal.FloatValue.of 1.5 = .finite half ∧
      Decimal.shortest .up half = Decimal.shortest .even half ∧
      (Decimal.shortest .even half).IsOrdinaryFraction := by
  intro text table half
  have hread : (idMember? text).bind Json.float? = some 1.5 := by decide +kernel
  rcases Option.bind_eq_some_iff.1 hread with ⟨id, hid, hid'⟩
  cases Json.float?_eq_some hid'
  have hlenient : ofLenientJson "0" text = .ok table := eq_ok_of_toOption (by decide +kernel)
  have hstrict : ofStrictJson? text = some table := by decide +kernel
  have hfinite : Decimal.FloatValue.of 1.5 = .finite half := by decide +kernel
  have hshortest : Decimal.shortest .up half = Decimal.shortest .even half := by decide +kernel
  rcases strict_eq_lenient hid hlenient hstrict with ⟨_, _, _, hfloat⟩
  rcases hfloat 1.5 rfl with ⟨_, _, hfraction⟩
  exact ⟨hid, hlenient, hstrict, hfinite, hshortest, (hfraction half hfinite hshortest).1 rfl⟩

/-- A whole number that is written as a float, and one beyond a signed word, are different ids to the two
readers. -/
theorem strict_ne_lenient_of_number :
    let whole := "\x7b\"id\": 1.0\x7d"
    let large := "\x7b\"id\": 9223372036854775809\x7d"
    ((idMember? whole).isSome = true ∧ ofLenientJson "0" whole = .ok { id := "1.0" } ∧
      ofStrictJson? whole = some { id := "1" }) ∧
    (idMember? large).isSome = true ∧ ofLenientJson "0" large = .ok { id := "9223372036854775809" } ∧
      ofStrictJson? large = some { id := "9223372036854776000" } := by
  intro whole large
  have hwhole : (idMember? whole).isSome = true := by decide +kernel
  have hlarge : (idMember? large).isSome = true := by decide +kernel
  exact ⟨⟨hwhole, eq_ok_of_toOption (by decide +kernel), by decide +kernel⟩,
    hlarge, eq_ok_of_toOption (by decide +kernel), by decide +kernel⟩

end Table
end SheetMarkup
