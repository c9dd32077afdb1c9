import JavaDeps.Proofs.Resolve.Exactness

/-!
# What a unit reports as unresolved

The report of a unit names the references that came to nothing, each by one symbol. **No symbol of
the report is declared in the workspace**, whichever way its reference was looked up. A symbol that
a file names in full or in a literal is in no lock file either, since the lock file is asked right
after the workspace.

A simple name is different. In the packages of its own directory it is looked up in the workspace
alone, and it is reported under its name in the main one of them. So a class that an artifact puts
into the package of the directory is reported as unresolved although the lock file has it
(`not_forall_unknown`), and these are all the symbols for which that can happen.
-/

namespace JavaDeps.Resolve

open Workspace (Event Index MainPackage NamesSimply)
open Java (Reference qualify)

variable {r : Resolver} {history : List Event} {directory : Path}

/-! ### References that come to nothing -/

namespace Resolver

/-- What an index has is never unresolved. -/
theorem indexed_ne_unresolved {usage : Usage} {symbol : String} {o : Outcome}
    (h : Indexed r directory usage symbol o) : o ≠ .unresolved := by
  rintro rfl
  obtain ⟨hindices, hknown⟩ := indexed_iff.1 h
  exact hknown (lookupIndices_eq_unresolved_iff.1 hindices)

theorem unknown_of_settlesSymbol {usage : Usage} {symbol : String}
    (h : SettlesSymbol r directory usage symbol .unresolved) : Unknown r symbol := by
  cases h with
  | indexed h => exact absurd rfl (indexed_ne_unresolved h)
  | unresolved h _ => exact h

/-- A name that is left unresolved is in none of the own packages. -/
theorem noOwn_of_settlesName {name : String}
    (h : SettlesName r history directory name .unresolved) : NoOwn r history directory name := by
  cases h with
  | own _ h => exact absurd rfl (inWorkspace_ne_unresolved h)
  | wildcard _ h => exact absurd rfl (indexed_ne_unresolved h)
  | unresolved hno _ _ => exact hno

end Resolver

/-! ### The report -/

/-- Whether a symbol is the name that a simple name of the directory has in the main package. -/
def NamedSimply (history : List Event) (directory : Path) (symbol : String) : Prop :=
  ∃ main name, MainPackage history directory main ∧ NamesSimply history directory name ∧
    symbol = qualify main name

namespace Resolver

/-- What is reported are the symbols of unresolved outcomes. -/
theorem mem_filterMap_unresolvedSymbol? {outcomes : List (String × Outcome)} {symbol : String} :
    symbol ∈ outcomes.filterMap unresolvedSymbol? ↔ (symbol, .unresolved) ∈ outcomes := by
  rw [List.mem_filterMap]
  constructor
  · rintro ⟨⟨symbol', o⟩, hmem, hsymbol⟩
    cases o with
    | unresolved =>
      obtain rfl := Option.some.inj hsymbol
      exact hmem
    | found label c => cases hsymbol
    | own => cases hsymbol
    | builtin => cases hsymbol
    | ambiguous a => cases hsymbol
  · exact fun hmem ↦ ⟨_, hmem, rfl⟩

/-- The report names the references that come to nothing, and no others. -/
theorem mem_unresolved_iff (hindex : r.index = Index.ofHistory history) (kind : UnitKind)
    {symbol : String} :
    symbol ∈ (r.resolveUnit directory kind).report.unresolved ↔
      ∃ ref, Refers history r.options.runtime.reflection directory ref ∧
        ReportedAs history directory ref symbol ∧
        Settles r history directory ref .unresolved := by
  have hreport : (r.resolveUnit directory kind).report.unresolved = SortedSet.ofList
      ((r.outcomes directory ((r.index.referenced? directory).getD {})).filterMap
        unresolvedSymbol?) := rfl
  rw [hreport, SortedSet.mem_ofList, mem_filterMap_unresolvedSymbol?,
    mem_outcomes_ofHistory_iff hindex]

/-- A symbol under which a reference came to nothing is in no index, except that the lock file may
have what a simple name stands for in the main package. -/
theorem missing_of_settles {ref : Reference} {symbol : String}
    (hrefers : Refers history r.options.runtime.reflection directory ref)
    (hreported : ReportedAs history directory ref symbol)
    (hsettles : Settles r history directory ref .unresolved) :
    r.index.lookup symbol = .missing ∧
      (r.classes.resolve symbol = .missing ∨ NamedSimply history directory symbol) := by
  cases hsettles with
  | qualified h =>
    cases hreported with
    | qualified =>
      have hunknown := unknown_of_settlesSymbol h
      exact ⟨hunknown.1, .inl hunknown.2⟩
  | reflective h =>
    cases hreported with
    | reflective =>
      have hunknown := unknown_of_settlesSymbol h
      exact ⟨hunknown.1, .inl hunknown.2⟩
  | @simple name _ h =>
    cases hreported with
    | @simple _ main hmain =>
      cases hrefers with
      | simple hnames =>
        -- the packages of the directory were asked for, and the main one is one of them
        have hno := noOwn_of_settlesName h
        exact ⟨hno main hmain.ownPackage, .inr ⟨main, name, hmain, hnames, rfl⟩⟩

end Resolver

/-- **What a unit reports as unresolved, no index has, unless it is a simple name.** For every
history of an index, every lock file, every way of labelling and all options: the report of a unit
names exactly the references that come to nothing; none of its symbols is declared in the workspace;
and if the lock file has one of them, that symbol is the name of a simple name of the directory in
the main package of the directory. -/
theorem missing_of_mem_unresolved (history : List Event) (classes : Maven.ClassIndex)
    (labels : LabelScheme) (options : Options) (directory : Path) (kind : UnitKind) :
    let r : Resolver := { index := .ofHistory history, classes, labels, options }
    let unresolved := (r.resolveUnit directory kind).report.unresolved
    (∀ symbol, symbol ∈ unresolved ↔
      ∃ ref, Refers history options.runtime.reflection directory ref ∧
        ReportedAs history directory ref symbol ∧
        Settles r history directory ref .unresolved) ∧
    ∀ symbol ∈ unresolved, r.index.lookup symbol = .missing ∧
      (r.classes.resolve symbol = .missing ∨ NamedSimply history directory symbol) := by
  intro r unresolved
  have hmem : ∀ symbol, symbol ∈ unresolved ↔
      ∃ ref, Refers history options.runtime.reflection directory ref ∧
        ReportedAs history directory ref symbol ∧
        Settles r history directory ref .unresolved := fun _ ↦
    Resolver.mem_unresolved_iff rfl kind
  refine ⟨hmem, fun symbol hsymbol ↦ ?_⟩
  obtain ⟨ref, hrefers, hreported, hsettles⟩ := (hmem symbol).1 hsymbol
  exact Resolver.missing_of_settles hrefers hreported hsettles

/-- A directory whose only file is in the package `p` and uses the simple name `Helper`, and an
artifact that provides `p.Helper`. -/
theorem not_forall_unknown :
    ¬ ∀ (history : List Event) (classes : Maven.ClassIndex) (options : Options) (directory : Path)
        (symbol : String),
      let r : Resolver := { index := .ofHistory history, classes, options }
      symbol ∈ (r.resolveUnit directory .library).report.unresolved →
        r.index.lookup symbol = .missing ∧ r.classes.resolve symbol = .missing := by
  intro h
  have hmissing := h
    [.record ⟨"d"⟩ ⟨"d/A.java"⟩
      ⟨⟨[]⟩, { package := "p", declaredTypes := ["A"], simpleNames := .ofList ["Helper"] }⟩]
    ⟨[⟨⟨⟨"a", "b", none, none, "1"⟩, ⟨"@maven//:a_b"⟩⟩, ["p.Helper"]⟩]⟩ {} ⟨"d"⟩ "p.Helper"
    (SortedSet.contains_iff.1 (by decide +kernel))
  exact absurd hmissing.2 (by decide +kernel)

end JavaDeps.Resolve
