import SheetMarkup.Proofs.Formula.Descent
import SheetMarkup.Proofs.Formula.Edge

/-!
# Expander — ranges cut off and remembered

Ranges are cut off at the edge of the grid, and the expansion of a token is remembered for all formulas that
have it. Neither can be seen from outside. A range that is cut off ends with a reference outside the grid,
where substitution fails, so nothing behind that reference is ever looked at; and as resolution keeps the
size of the grid, what is remembered is what would be computed again.

* `Expander`, `Expander.resolve`: a way of expanding ranges, with a memory, and resolution with it
* `Expander.cached`, `Expander.whole`: cut off and remembered, or whole and each time afresh
* `Resolver.substitute_eq_of_sameToEdge`: texts that agree up to the edge come to the same
* `Expander.Faithful.resolve_agrees`: with a faithful expander resolution is what it is without one
* `ExpansionCache.valid_after`: the cache of a whole render
* `Resolver.resolve_cached_eq_whole`: cut off and whole
-/

namespace SheetMarkup

/-! ## Expanders -/

/-- A way of expanding the ranges of an expression for a grid of a given size, with a memory that is kept from
one expression to the next. -/
structure Expander (σ : Type) where
  expand : (rows columns : Nat) → List Char → σ → List Char × σ

structure Kept (σ : Type) extends Resolution where
  memory : σ

namespace Expander

variable {σ : Type}

abbrev Descent (σ : Type) := (chain : List String) → (content : String) → Grid → σ → Kept σ

def prepare (e : Expander σ) (grid : Grid) (formula : List Char) (memory : σ) :
    Except FormulaError (List Char) × σ :=
  if formula.contains '=' then (.error .tooManyEquals, memory)
  else if hasAdjacentBrackets formula then (.error .adjacentReferences, memory)
  else
    let expression := formula.filter fun c => !Text.isBlank c
    let (text, memory) := e.expand grid.length grid.width expression memory
    (.ok text, memory)

def follow (r : Resolver) (descend : Descent σ) (chain : List String) (reference : Corner)
    (grid : Grid) (memory : σ) : Kept σ :=
  match r.target chain reference grid with
  | .error error => ⟨⟨.error error, grid⟩, memory⟩
  | .ok (row, column, content) =>
    let kept := descend (chain ++ [reference.canonical]) content grid memory
    ⟨kept.writtenTo row column, kept.memory⟩

def substitute (r : Resolver) (descend : Descent σ) (chain : List String) :
    List Corner → List Char → Grid → σ → (Except FormulaError (List Char) × Grid) × σ
  | [], expression, grid, memory => ((.ok expression, grid), memory)
  | reference :: rest, expression, grid, memory =>
    match follow r descend chain reference grid memory with
    | ⟨⟨.error error, grid⟩, memory⟩ => ((.error error, grid), memory)
    | ⟨⟨.ok value, grid⟩, memory⟩ =>
      substitute r descend chain rest
        (Text.replaceAll reference.token value.toList expression) grid memory

def resolveWith (e : Expander σ) (r : Resolver) (descend : Descent σ) (chain : List String)
    (content : String) (grid : Grid) (memory : σ) : Kept σ :=
  match formula? content with
  | none => ⟨⟨.ok content, grid⟩, memory⟩
  | some formula =>
    match e.prepare grid formula memory with
    | (.error error, memory) => ⟨⟨.error error, grid⟩, memory⟩
    | (.ok expression, memory) =>
      match substitute r descend chain (references expression) expression grid memory with
      | ((.error error, grid), memory) => ⟨⟨.error error, grid⟩, memory⟩
      | ((.ok expression, grid), memory) => ⟨⟨r.compute expression, grid⟩, memory⟩

def descend (e : Expander σ) (r : Resolver) : (levels : Nat) → Descent σ
  | 0 => fun _ _ grid memory => ⟨⟨.error (.recursionLimit r.maxDepth), grid⟩, memory⟩
  | levels + 1 => e.resolveWith r (e.descend r levels)

/-- The result of a cell content under a chain of references, as `Resolver.resolve` gives it, and the memory
that is left for the next one. -/
def resolve (e : Expander σ) (r : Resolver) (chain : List String) (content : String) (grid : Grid)
    (memory : σ) : Kept σ :=
  e.resolveWith r (e.descend r (r.maxDepth - chain.length)) chain content grid memory

end Expander

abbrev ExpansionCache := List (List Char × List Char)

/-- Each token has the expansion that it has in a grid of the given size. -/
def ExpansionCache.Valid (rows columns : Nat) (cache : ExpansionCache) : Prop :=
  ∀ entry ∈ cache, entry.2 = expandRange entry.1 rows columns

instance (rows columns : Nat) (cache : ExpansionCache) : Decidable (cache.Valid rows columns) :=
  inferInstanceAs (Decidable (∀ entry ∈ cache, entry.2 = expandRange entry.1 rows columns))

namespace ExpansionCache

/-- The expansion of a token, which is put into the cache if it is not there. -/
def expansion (cache : ExpansionCache) (rows columns : Nat) (token : List Char) :
    List Char × ExpansionCache :=
  match cache.lookup token with
  | some text => (text, cache)
  | none =>
    let text := expandRange token rows columns
    (text, (token, text) :: cache)

/-- The ranges of a list expanded in a text, one after another, each wherever its token stands. -/
def expandEach (rows columns : Nat) :
    List RangeToken → List Char → ExpansionCache → List Char × ExpansionCache
  | [], text, cache => (text, cache)
  | range :: rest, text, cache =>
    let (replacement, cache) := cache.expansion rows columns range.token
    expandEach rows columns rest (Text.replaceAll range.token replacement text) cache

end ExpansionCache

namespace Expander

/-- Ranges are cut off at the edge of the grid, and a token that has been expanded is not expanded again. -/
def cached : Expander ExpansionCache where
  expand rows columns expression cache :=
    ExpansionCache.expandEach rows columns (rangeTokens expression) expression cache

/-- Each range is expanded as a whole where it is met. Only where its letters are not basic ones, so that its
columns may be counted from 0, it is cut off. -/
def whole : Expander Unit where
  expand rows columns expression _ :=
    (expandOnce (fun range =>
      if range.IsBasic then range.expandWhole else range.expand rows columns) expression, ())

end Expander

/-! ## A reference outside -/

namespace Resolver

variable {r : Resolver} {rows columns : Nat}

theorem follow_outside (descend : Descent) (chain : List String) {reference : Corner} {grid : Grid}
    (houtside : reference.IsOutside rows columns) (hgrid : grid.Spans rows columns) :
    ∃ error, r.follow descend chain reference grid = ⟨.error error, grid⟩ := by
  have hnone : ∀ p, reference.position? = some p → grid.cell? p.1 p.2 = none :=
    fun p hp => hgrid.cell?_eq_none (houtside p hp)
  have hfollow := followed r descend chain reference grid
  generalize r.follow descend chain reference grid = result at hfollow
  cases hfollow with
  | closed => exact ⟨_, rfl⟩
  | outside => exact ⟨_, rfl⟩
  | ceiling hp hcell => exact absurd hcell (by simp [hnone _ hp])
  | cutOff hp hcell => exact absurd hcell (by simp [hnone _ hp])
  | settled hp hcell => exact absurd hcell (by simp [hnone _ hp])

/-- Substitution fails at a reference outside the grid at the latest, whatever is behind it and whatever the
text. -/
theorem exists_substitute_eq_error {descend : Descent} (hdescend : descend.KeepsShape)
    (chain : List String) {listed : List Corner} {reference : Corner} (hmem : reference ∈ listed)
    (houtside : reference.IsOutside rows columns) {grid : Grid} (hgrid : grid.Spans rows columns) :
    ∃ error last, ∀ after text,
      r.substitute descend chain (listed ++ after) text grid = (.error error, last) := by
  -- The references in front are followed first. They may write into the grid, but its size stays.
  induction listed generalizing grid with
  | nil => cases hmem
  | cons first listed ih =>
    have hshape := r.follow_shape hdescend chain first grid
    cases hfollow : r.follow descend chain first grid with
    | mk outcome next =>
      cases outcome with
      | error error => exact ⟨error, next, fun after text => by simp [substitute, hfollow]⟩
      | ok value =>
        rw [hfollow] at hshape
        rcases List.mem_cons.1 hmem with rfl | hlater
        · -- The reference outside has no value.
          rcases follow_outside (r := r) descend chain houtside hgrid with ⟨error, herror⟩
          rw [hfollow] at herror
          cases herror
        · rcases ih hlater (hgrid.of_shape_eq hshape) with ⟨error, last, hlast⟩
          exact ⟨error, last, fun after text => by simp [substitute, hfollow, hlast]⟩

/-- Texts that agree up to the edge come to the same when their references are resolved. -/
theorem substitute_eq_of_sameToEdge {descend : Descent} (hdescend : descend.KeepsShape)
    (chain : List String) {text text' : List Char} (h : SameToEdge rows columns text text')
    {grid : Grid} (hgrid : grid.Spans rows columns) :
    r.substitute descend chain (references text) text grid =
      r.substitute descend chain (references text') text' grid := by
  rcases h.references with rfl | ⟨listed, after, after', reference, hmem, houtside, htext, htext'⟩
  · rfl
  · rcases exists_substitute_eq_error hdescend chain hmem houtside hgrid with ⟨error, last, hlast⟩
    rw [htext, htext', hlast, hlast]

end Resolver

/-! ## Faithful expanders -/

namespace Expander

variable {σ : Type}

/-- With a sound memory the ranges of an expression are expanded as far as the edge of the grid at least, and
the memory stays sound. -/
structure Faithful (e : Expander σ) (rows columns : Nat) (Sound : σ → Prop) : Prop where
  sameToEdge {grid : Grid} {memory : σ} (expression : List Char) :
    grid.Spans rows columns → Sound memory →
    SameToEdge rows columns (expandRanges grid expression) (e.expand rows columns expression memory).1
  sound {memory : σ} (expression : List Char) :
    Sound memory → Sound (e.expand rows columns expression memory).2

end Expander

namespace ExpansionCache

variable {rows columns : Nat} {cache : ExpansionCache}

/-- From a valid cache, or without it, comes the expansion of the token. -/
theorem Valid.expansion (h : cache.Valid rows columns) (token : List Char) :
    (cache.expansion rows columns token).1 = expandRange token rows columns ∧
      (cache.expansion rows columns token).2.Valid rows columns := by
  unfold ExpansionCache.expansion
  split
  · rename_i text hlookup
    rcases List.lookup_eq_some_iff.1 hlookup with ⟨before, after, rfl, _⟩
    exact ⟨h (token, text) (by simp), h⟩
  · refine ⟨rfl, fun entry hentry => ?_⟩
    rcases List.mem_cons.1 hentry with rfl | hmem
    · rfl
    · exact h entry hmem

theorem Valid.expandEach (h : cache.Valid rows columns) {ranges : List RangeToken}
    (hranges : ∀ range ∈ ranges, range.IsToken) (text : List Char) :
    (ExpansionCache.expandEach rows columns ranges text cache).1 =
        ranges.foldl (fun text range =>
          Text.replaceAll range.token (range.expand rows columns) text) text ∧
      (ExpansionCache.expandEach rows columns ranges text cache).2.Valid rows columns := by
  induction ranges generalizing text cache with
  | nil => exact ⟨rfl, h⟩
  | cons range ranges ih =>
    rcases h.expansion range.token with ⟨htext, hvalid⟩
    rw [(hranges range List.mem_cons_self).expandRange_token] at htext
    have hrest := ih hvalid (fun other hother => hranges other (List.mem_cons_of_mem range hother))
    rw [List.foldl_cons, ← htext]
    exact hrest _

end ExpansionCache

namespace Expander

/-- Expansions from a valid cache are those that are computed, so they agree altogether. -/
theorem cached_faithful (rows columns : Nat) :
    cached.Faithful rows columns (ExpansionCache.Valid rows columns) where
  sameToEdge {grid cache} expression hgrid hvalid := by
    have hranges : ∀ range ∈ rangeTokens expression, range.IsToken :=
      fun _ => isToken_of_mem_rangeTokens
    have hsame : (cached.expand rows columns expression cache).1 = expandRanges grid expression := by
      rw [expandRanges, hgrid.length, hgrid.width]
      exact (hvalid.expandEach hranges expression).1
    rw [hsame]
    exact SameToEdge.same _
  sound expression hvalid := (hvalid.expandEach (fun _ => isToken_of_mem_rangeTokens) expression).2

/-- A range that is expanded as a whole goes on behind the edge at which it would be cut off. -/
theorem whole_faithful (rows columns : Nat) : whole.Faithful rows columns fun _ => True where
  sameToEdge {grid _} expression hgrid _ := by
    -- Expanding ranges one after another is one pass as well.
    rw [expandRanges_eq_expandOnce, hgrid.length, hgrid.width]
    refine SameToEdge.expandOnce (fun range htoken => ?_) expression
    split
    · rename_i hbasic
      exact RangeToken.sameToEdge_expand htoken hbasic rows columns
    · exact SameToEdge.same _
  sound _ _ := trivial

variable {σ : Type} {e : Expander σ} {r : Resolver} {rows columns : Nat} {Sound : σ → Prop}

/-- A formula is refused for the same reason, or its expressions are the same up to the edge. -/
theorem Faithful.prepare (he : e.Faithful rows columns Sound) {grid : Grid}
    (hgrid : grid.Spans rows columns) (formula : List Char) {memory : σ} (hmemory : Sound memory) :
    (∃ error, SheetMarkup.prepare grid formula = .error error ∧
        e.prepare grid formula memory = (.error error, memory)) ∨
      ∃ text text' memory', SheetMarkup.prepare grid formula = .ok text ∧
        e.prepare grid formula memory = (.ok text', memory') ∧
        SameToEdge rows columns text text' ∧ Sound memory' := by
  unfold SheetMarkup.prepare Expander.prepare
  split
  · exact Or.inl ⟨_, rfl, rfl⟩
  · split
    · exact Or.inl ⟨_, rfl, rfl⟩
    · have htext := he.sameToEdge (formula.filter fun c => !Text.isBlank c) hgrid hmemory
      have hsound := he.sound (formula.filter fun c => !Text.isBlank c) hmemory
      rw [hgrid.length, hgrid.width]
      exact Or.inr ⟨_, _, _, rfl, rfl, htext, hsound⟩

structure Agrees (Sound : σ → Prop) (kept : Kept σ) (resolution : Resolution) : Prop where
  same : kept.toResolution = resolution
  sound : Sound kept.memory

/-- Cells are resolved alike with a sound memory and without one. -/
def Simulates (rows columns : Nat) (Sound : σ → Prop) (descend' : Descent σ)
    (descend : Resolver.Descent) : Prop :=
  ∀ chain content grid memory, grid.Spans rows columns → Sound memory →
    Agrees Sound (descend' chain content grid memory) (descend chain content grid)

variable {descend' : Descent σ} {descend : Resolver.Descent} {grid : Grid} {memory : σ}

theorem follow_agrees (h : Simulates rows columns Sound descend' descend) (chain : List String)
    (reference : Corner) (hgrid : grid.Spans rows columns) (hmemory : Sound memory) :
    Agrees Sound (follow r descend' chain reference grid memory)
      (r.follow descend chain reference grid) := by
  rw [Resolver.follow_eq]
  unfold follow
  cases r.target chain reference grid with
  | error error => exact ⟨rfl, hmemory⟩
  | ok cell =>
    rcases cell with ⟨row, column, content⟩
    rcases h (chain ++ [reference.canonical]) content grid memory hgrid hmemory with
      ⟨hsame, hsound⟩
    exact ⟨congrArg (Resolution.writtenTo row column) hsame, hsound⟩

/-- The references of a list are resolved alike, one after another. -/
theorem substitute_agrees (h : Simulates rows columns Sound descend' descend)
    (hshape : descend.KeepsShape) (chain : List String) (todo : List Corner) (text : List Char)
    (hgrid : grid.Spans rows columns) (hmemory : Sound memory) :
    (substitute r descend' chain todo text grid memory).1 =
        r.substitute descend chain todo text grid ∧
      Sound (substitute r descend' chain todo text grid memory).2 := by
  induction todo generalizing text grid memory with
  | nil => exact ⟨rfl, hmemory⟩
  | cons reference rest ih =>
    rcases follow_agrees (r := r) h chain reference hgrid hmemory with ⟨hsame, hsound⟩
    have hnext := r.follow_shape hshape chain reference grid
    unfold substitute Resolver.substitute
    rw [← hsame] at hnext ⊢
    generalize follow r descend' chain reference grid memory = kept at hsound hnext
    rcases kept with ⟨⟨error | value, next⟩, memory⟩
    · exact ⟨rfl, hsound⟩
    · exact ih _ (hgrid.of_shape_eq hnext) hsound

theorem Faithful.resolveWith_agrees (he : e.Faithful rows columns Sound)
    (h : Simulates rows columns Sound descend' descend) (hshape : descend.KeepsShape) :
    Simulates rows columns Sound (e.resolveWith r descend') (r.resolveWith descend) := by
  intro chain content grid memory hgrid hmemory
  unfold resolveWith
  split
  · rename_i hcontent
    rw [Resolver.resolveWith_of_text r descend chain grid hcontent]
    exact ⟨rfl, hmemory⟩
  · rename_i formula hcontent
    rw [Resolver.resolveWith_of_formula r descend chain grid hcontent]
    rcases he.prepare hgrid formula hmemory with
      ⟨error, hprepare, hprepare'⟩ | ⟨text, text', memory', hprepare, hprepare', htext, hmemory'⟩
    · rw [hprepare, hprepare']
      exact ⟨rfl, hmemory⟩
    · rw [hprepare, hprepare']
      dsimp only
      rcases substitute_agrees (r := r) h hshape chain (references text') text' hgrid hmemory' with
        ⟨hsame, hsound⟩
      -- Without a memory the two texts come to the same, so the one with the memory can stand for both.
      rw [Resolver.substitute_eq_of_sameToEdge hshape chain htext hgrid, ← hsame]
      generalize substitute r descend' chain (references text') text' grid memory' = result at hsound
      rcases result with ⟨⟨error | text, next⟩, memory⟩
      · exact ⟨rfl, hsound⟩
      · exact ⟨rfl, hsound⟩

theorem Faithful.descend_agrees (he : e.Faithful rows columns Sound) (levels : Nat) :
    Simulates rows columns Sound (e.descend r levels) (r.descend levels) := by
  induction levels with
  | zero => exact fun _ _ _ _ _ hmemory => ⟨rfl, hmemory⟩
  | succ levels ih => exact he.resolveWith_agrees ih (r.descend_keepsShape levels)

/-- With a faithful expander and a sound memory, a cell content is resolved as the resolver does it, and the
memory stays sound. -/
theorem Faithful.resolve_agrees (he : e.Faithful rows columns Sound) (r : Resolver)
    (chain : List String) (content : String) (hgrid : grid.Spans rows columns)
    (hmemory : Sound memory) :
    Agrees Sound (e.resolve r chain content grid memory) (r.resolve chain content grid) :=
  he.resolveWith_agrees (he.descend_agrees _) (r.descend_keepsShape _) chain content grid memory
    hgrid hmemory

end Expander

/-! ## The cache of a render -/

structure Request where
  resolver : Resolver
  chain : List String
  content : String
  grid : Grid

namespace ExpansionCache

def after (cache : ExpansionCache) (requests : List Request) : ExpansionCache :=
  requests.foldl (fun cache request =>
    (Expander.cached.resolve request.resolver request.chain request.content request.grid cache).memory)
    cache

/-- A cache that starts out empty stays valid as long as the grids have the same size, whatever is written
into them. -/
theorem valid_after {rows columns : Nat} {requests : List Request}
    (h : ∀ request ∈ requests, request.grid.Spans rows columns) :
    (after [] requests).Valid rows columns := by
  have hrun : ∀ cache : ExpansionCache, cache.Valid rows columns →
      (after cache requests).Valid rows columns := by
    induction requests with
    | nil => exact fun _ hcache => hcache
    | cons request requests ih =>
      intro cache hcache
      have hfirst := (Expander.cached_faithful rows columns).resolve_agrees request.resolver
        request.chain request.content (h request List.mem_cons_self) hcache
      exact ih (fun other hother => h other (List.mem_cons_of_mem request hother)) _ hfirst.sound
  exact hrun [] fun entry hentry => by cases hentry

end ExpansionCache

/-! ## Cut off and whole -/

/-- A formula has the same outcome, and leaves the same grid, whether its ranges are cut off and remembered
or expanded as a whole each time they are met. What is remembered stays valid for the formulas that follow. -/
theorem Resolver.resolve_cached_eq_whole (r : Resolver) (chain : List String) (content : String)
    (grid : Grid) (cache : ExpansionCache) (h : cache.Valid grid.length grid.width) :
    let cut := Expander.cached.resolve r chain content grid cache
    let full := Expander.whole.resolve r chain content grid ()
    cut.outcome = full.outcome ∧ cut.grid = full.grid ∧
      cut.toResolution = r.resolve chain content grid ∧
      cut.memory.Valid cut.grid.length cut.grid.width := by
  intro cut full
  have hgrid : grid.Spans grid.length grid.width := ⟨rfl, rfl⟩
  -- Both are what the resolver gives, which has no memory.
  have hcut : Expander.Agrees _ cut (r.resolve chain content grid) :=
    (Expander.cached_faithful _ _).resolve_agrees r chain content hgrid h
  have hfull : Expander.Agrees _ full (r.resolve chain content grid) :=
    (Expander.whole_faithful _ _).resolve_agrees r chain content hgrid trivial
  have hsame : cut.toResolution = full.toResolution := hcut.same.trans hfull.same.symm
  have hnext : cut.grid.Spans grid.length grid.width := by
    have hgrid' : cut.grid = (r.resolve chain content grid).grid :=
      congrArg Resolution.grid hcut.same
    rw [hgrid']
    exact hgrid.of_shape_eq (r.resolve_shape chain content grid)
  refine ⟨congrArg Resolution.outcome hsame, congrArg Resolution.grid hsame, hcut.same, ?_⟩
  rw [hnext.length, hnext.width]
  exact hcut.sound

/-- The rows of the second range do not fit into an index. It is cut off at the row below the grid, at the
first reference that names no cell. -/
theorem Resolver.resolve_cached_eq_whole_of_saturated :
    let r := Resolver.mk arithmetic 256
    let content := "=SUM([A1:B1])+MAX([b1:A99999999999999999999])-[C1]"
    let grid : Grid := [["1", "2", "3"], ["4"]]
    let cache : ExpansionCache := [("[A1:B1]".toList, "[A1],[B1]".toList)]
    cache.Valid grid.length grid.width ∧
      (Expander.cached.resolve r [] content grid cache).memory =
        ("[b1:A99999999999999999999]".toList, "[A1],[A2],[A3]".toList) :: cache ∧
      cellText (Expander.whole.resolve r [] content grid ()).outcome =
        (FormulaError.nonExistentCell "[A3]").marker ∧
      (Expander.whole.resolve r [] content grid ()).grid = grid := by
  intro r content grid cache
  have hvalid : cache.Valid grid.length grid.width := by decide +kernel
  have hmemory : (Expander.cached.resolve r [] content grid cache).memory =
      ("[b1:A99999999999999999999]".toList, "[A1],[A2],[A3]".toList) :: cache := by
    decide +kernel
  have htext : cellText (Expander.cached.resolve r [] content grid cache).outcome =
      (FormulaError.nonExistentCell "[A3]").marker := by
    decide +kernel
  have hleft : (Expander.cached.resolve r [] content grid cache).grid = grid := by decide +kernel
  rcases Resolver.resolve_cached_eq_whole r [] content grid cache hvalid with
    ⟨houtcome, hgrid, _, _⟩
  rw [houtcome] at htext
  rw [hgrid] at hleft
  exact ⟨hvalid, hmemory, htext, hleft⟩

end SheetMarkup
