import JavaDeps.Proofs.Resolve.DependencySet
import JavaDeps.Proofs.Resolve.SimpleName
import JavaDeps.Proofs.Workspace.Refinement

/-!
# The labels of a unit

What a unit needs is settled reference by reference; its two lists of labels are what the outcomes
say, taken together. **A label is needed to compile if some reference says so, and only to run if
some reference says that and none says more.** No reference is lost on the way through three lists
of symbols, two indices and a merge, and no label comes from anywhere else.

The statements are about every index to which some history leads, and speak of the history wherever
they speak of what a directory refers to.
-/

namespace JavaDeps.Resolve

open Workspace (Event Index IsReferenced ReferencedSymbols)
open Java (Reference qualify)

/-- The labels of a unit are those that some relation finds, each under its strongest reason. -/
structure HasLabels (found : Label → Classification → Prop) (unit : UnitResolution) : Prop where
  deps_increasing : unit.deps.Pairwise (fun a b ↦ compare a b = .lt)
  runtimeDeps_increasing : unit.runtimeDeps.Pairwise (fun a b ↦ compare a b = .lt)
  mem_deps : ∀ label, label ∈ unit.deps ↔ found label .compile
  mem_runtimeDeps : ∀ label,
    label ∈ unit.runtimeDeps ↔ found label .runtime ∧ ¬ found label .compile
  disjoint : ∀ label ∈ unit.deps, label ∉ unit.runtimeDeps

namespace Resolver

variable {r : Resolver} {history : List Event} {directory : Path}

/-! ### The outcomes of a unit -/

/-- The references of a directory, in the order in which they are looked up. -/
def references (reflection : Bool) (symbols : ReferencedSymbols) : List Reference :=
  symbols.qualified.toList.map .qualified ++
    (if reflection then
      (symbols.reflective.toList.filter (!symbols.qualified.contains ·)).map .reflective
    else []) ++
    symbols.simpleNames.toList.map .simple

/-- The outcome of a reference, with the symbol that the reference goes by. -/
def outcomeOf (r : Resolver) (directory : Path) (symbols : ReferencedSymbols) :
    Reference → String × Outcome
  | .qualified symbol => (symbol, r.resolveSymbol directory .direct symbol)
  | .reflective symbol => (symbol, r.resolveSymbol directory .reflective symbol)
  | .simple name => (qualify symbols.package name, r.resolveSimpleName directory symbols name)

/-- The outcomes of a unit are those of its references. -/
theorem outcomes_eq (r : Resolver) (directory : Path) (symbols : ReferencedSymbols) :
    r.outcomes directory symbols =
      (references r.options.runtime.reflection symbols).map (r.outcomeOf directory symbols) := by
  rw [outcomes, references, List.map_append, List.map_append, List.map_map, List.map_map]
  congr 2
  split
  · rw [List.map_map]
    rfl
  · rfl

section References

variable {symbols : ReferencedSymbols} (h : IsReferenced history directory symbols)

include h

/-- The references of a unit are those that its files make. -/
theorem mem_references_iff {reflection : Bool} {ref : Reference} :
    ref ∈ references reflection symbols ↔ Refers history reflection directory ref := by
  have hfull : ∀ symbol, (!symbols.qualified.contains symbol) = true ↔
      ¬ Workspace.NamesInFull history directory symbol := fun symbol ↦ by
    rw [← h.qualified, ← SortedSet.contains_iff, Bool.not_eq_true', Bool.not_eq_true]
  simp only [references, List.mem_append, List.mem_map]
  -- three lists, one for each kind of reference
  constructor
  · rintro ((⟨symbol, hmem, rfl⟩ | hreflective) | ⟨name, hmem, rfl⟩)
    · exact .qualified ((h.qualified _).1 hmem)
    · split at hreflective
      · next hon =>
        obtain ⟨symbol, hmem, rfl⟩ := List.mem_map.1 hreflective
        obtain ⟨hmem, hother⟩ := List.mem_filter.1 hmem
        exact .reflective hon ((h.reflective _).1 hmem) ((hfull _).1 hother)
      · exact absurd hreflective List.not_mem_nil
    · exact .simple ((h.simpleNames _).1 hmem)
  · intro hrefers
    cases hrefers with
    | qualified hnames => exact .inl (.inl ⟨_, (h.qualified _).2 hnames, rfl⟩)
    | reflective hon hnames hother =>
      refine .inl (.inr ?_)
      rw [if_pos hon]
      refine List.mem_map.2 ⟨_, List.mem_filter.2 ⟨(h.reflective _).2 hnames, ?_⟩, rfl⟩
      exact (hfull _).2 hother
    | simple hnames => exact .inr ⟨_, (h.simpleNames _).2 hnames, rfl⟩

/-- A reference goes by the symbol that is computed for it. -/
theorem reportedAs_iff {ref : Reference} {symbol : String} :
    ReportedAs history directory ref symbol ↔ (r.outcomeOf directory symbols ref).1 = symbol := by
  constructor
  · intro hreported
    cases hreported with
    | qualified => rfl
    | reflective => rfl
    | simple hmain =>
      obtain rfl := hmain.unique h.package
      rfl
  · rintro rfl
    cases ref with
    | qualified symbol => exact .qualified
    | reflective symbol => exact .reflective
    | simple name => exact .simple h.package

/-- **A reference has the outcome that is computed for it, and no other.** -/
theorem settles_iff {ref : Reference} {o : Outcome} :
    Settles r history directory ref o ↔ (r.outcomeOf directory symbols ref).2 = o := by
  constructor
  · intro hsettles
    cases hsettles with
    | qualified hsettles => exact settlesSymbol_iff.1 hsettles
    | reflective hsettles => exact settlesSymbol_iff.1 hsettles
    | simple hsettles => exact (settlesName_iff h).1 hsettles
  · rintro rfl
    cases ref with
    | qualified symbol => exact .qualified (settlesSymbol_iff.2 rfl)
    | reflective symbol => exact .reflective (settlesSymbol_iff.2 rfl)
    | simple name => exact .simple ((settlesName_iff h).2 rfl)

/-- The computed outcomes are those of the references of the directory, each under the symbol that
its reference goes by. -/
theorem mem_outcomes_iff {symbol : String} {o : Outcome} :
    (symbol, o) ∈ r.outcomes directory symbols ↔
      ∃ ref, Refers history r.options.runtime.reflection directory ref ∧
        ReportedAs history directory ref symbol ∧ Settles r history directory ref o := by
  simp only [outcomes_eq, List.mem_map, mem_references_iff h, reportedAs_iff (r := r) h,
    settles_iff h, Prod.ext_iff]

end References

/-- A directory that refers to anything is recorded. -/
theorem exists_isReferenced_of_refers {reflection : Bool} {ref : Reference}
    (hrefers : Refers history reflection directory ref) :
    ∃ symbols, (Index.ofHistory history).referenced? directory = some symbols ∧
      IsReferenced history directory symbols := by
  have hrecorded : ∃ record, Workspace.RecordedIn history directory record := by
    cases hrefers with
    | qualified h => exact ⟨_, h.choose_spec.1⟩
    | reflective _ h _ => exact ⟨_, h.choose_spec.1⟩
    | simple h => exact ⟨_, h.choose_spec.1⟩
  have htracks := Workspace.tracks_ofHistory history
  rcases hsymbols : (Index.ofHistory history).referenced? directory with - | symbols
  · exact absurd hrecorded ((htracks.referenced?_eq_none_iff directory).1 hsymbols)
  · exact ⟨symbols, rfl, htracks.isReferenced hsymbols⟩

/-- **Every reference has one outcome.** -/
theorem existsUnique_settles {reflection : Bool} {ref : Reference}
    (hrefers : Refers history reflection directory ref) :
    ∃! o, Settles r history directory ref o := by
  obtain ⟨symbols, -, hreferenced⟩ := exists_isReferenced_of_refers hrefers
  exact ⟨_, (settles_iff hreferenced).2 rfl, fun o ho ↦ ((settles_iff hreferenced).1 ho).symm⟩

/-- A reference has the outcome of the symbol that decides it, if the workspace declares that. -/
theorem settles_of_inWorkspace {ref : Reference} {symbol : String} {o : Outcome}
    (hdecided : DecidedBy r history directory ref symbol) (hin : InWorkspace r directory symbol o) :
    Settles r history directory ref o := by
  cases hdecided with
  | qualified => exact .qualified (.indexed (.workspace hin))
  | reflective => exact .reflective (.indexed (.workspace hin))
  | own hfirst => exact .simple (.own hfirst hin)
  | wildcard hsole => exact .simple (.wildcard hsole (.workspace hin))

/-- A reference that another directory decides is needed to compile. -/
theorem settles_of_decidedBy {ref : Reference} {symbol : String} {owner : Path}
    (hdecided : DecidedBy r history directory ref symbol)
    (hlookup : r.index.lookup symbol = .found owner) (hother : owner.same directory = false) :
    Settles r history directory ref (.found (r.labels owner) .compile) :=
  settles_of_inWorkspace hdecided (.other hlookup hother)

/-! ### The labels -/

/-- The labels that count are those that were found. -/
theorem mem_filterMap_foundLabel? {outcomes : List (String × Outcome)} {label : Label}
    {c : Classification} :
    (label, c) ∈ outcomes.filterMap foundLabel? ↔
      ∃ symbol, (symbol, .found label c) ∈ outcomes := by
  rw [List.mem_filterMap]
  constructor
  · rintro ⟨⟨symbol, o⟩, hmem, hfound⟩
    cases o with
    | found label' c' =>
      obtain ⟨rfl, rfl⟩ := Prod.mk.inj (Option.some.inj hfound)
      exact ⟨symbol, hmem⟩
    | own => cases hfound
    | builtin => cases hfound
    | ambiguous a => cases hfound
    | unresolved => cases hfound
  · rintro ⟨symbol, hmem⟩
    exact ⟨_, hmem, rfl⟩

/-- What the references of a directory find in an index that a history leads to. -/
def Finds (r : Resolver) (history : List Event) (directory : Path) (label : Label)
    (c : Classification) : Prop :=
  ∃ ref, Refers history r.options.runtime.reflection directory ref ∧
    Settles r history directory ref (.found label c)

/-- What is looked up for a directory, in an index that a history leads to, are its references. -/
theorem mem_outcomes_ofHistory_iff (hindex : r.index = Index.ofHistory history) {symbol : String}
    {o : Outcome} :
    (symbol, o) ∈ r.outcomes directory ((r.index.referenced? directory).getD {}) ↔
      ∃ ref, Refers history r.options.runtime.reflection directory ref ∧
        ReportedAs history directory ref symbol ∧ Settles r history directory ref o := by
  rw [hindex]
  have htracks := Workspace.tracks_ofHistory history
  rcases hsymbols : (Index.ofHistory history).referenced? directory with - | symbols
  · -- nothing is recorded, so there is nothing to look up and no reference
    constructor
    · intro hmem
      simp [outcomes] at hmem
    · rintro ⟨ref, hrefers, -⟩
      obtain ⟨symbols, hsome, -⟩ := exists_isReferenced_of_refers hrefers
      rw [hsymbols] at hsome
      cases hsome
  · exact mem_outcomes_iff (htracks.isReferenced hsymbols)

/-- Every reference goes by some symbol. -/
theorem exists_reportedAs {reflection : Bool} {ref : Reference}
    (hrefers : Refers history reflection directory ref) :
    ∃ symbol, ReportedAs history directory ref symbol := by
  obtain ⟨symbols, -, hreferenced⟩ := exists_isReferenced_of_refers hrefers
  exact ⟨_, (reportedAs_iff (r := {}) hreferenced).2 rfl⟩

/-- **A label is found in a unit just if a reference of its files finds it.** -/
theorem mem_found_iff (hindex : r.index = Index.ofHistory history) {label : Label}
    {c : Classification} :
    (label, c) ∈ (r.outcomes directory ((r.index.referenced? directory).getD {})).filterMap
      foundLabel? ↔ r.Finds history directory label c := by
  rw [mem_filterMap_foundLabel?]
  simp only [mem_outcomes_ofHistory_iff hindex]
  constructor
  · rintro ⟨symbol, ref, hrefers, -, hsettles⟩
    exact ⟨ref, hrefers, hsettles⟩
  · rintro ⟨ref, hrefers, hsettles⟩
    obtain ⟨symbol, hreported⟩ := exists_reportedAs hrefers
    exact ⟨symbol, ref, hrefers, hreported, hsettles⟩

/-- The labels of a unit, to compile and at run time, are those that its references find. -/
theorem hasLabels_resolveUnit (hindex : r.index = Index.ofHistory history) (kind : UnitKind) :
    HasLabels (r.Finds history directory) (r.resolveUnit directory kind) := by
  set found :=
    (r.outcomes directory ((r.index.referenced? directory).getD {})).filterMap foundLabel?
  have hmem : ∀ label c, (label, c) ∈ found ↔ r.Finds history directory label c :=
    fun label c ↦ mem_found_iff hindex
  have hdeps : (r.resolveUnit directory kind).deps =
      (DependencySet.ofList found).labelsFor .compile := rfl
  have hruntime : (r.resolveUnit directory kind).runtimeDeps =
      (DependencySet.ofList found).labelsFor .runtime := rfl
  constructor
  · rw [hdeps]
    exact DependencySet.labelsFor_increasing _ _
  · rw [hruntime]
    exact DependencySet.labelsFor_increasing _ _
  · intro label
    rw [hdeps, DependencySet.mem_labelsFor, DependencySet.get?_ofList_eq_compile_iff, hmem]
  · intro label
    rw [hruntime, DependencySet.mem_labelsFor, DependencySet.get?_ofList_eq_runtime_iff, hmem, hmem]
  · intro label hcompile hrun
    rw [hdeps, DependencySet.mem_labelsFor] at hcompile
    rw [hruntime, DependencySet.mem_labelsFor, hcompile] at hrun
    cases hrun

end Resolver

/-- **The labels of a unit are exactly what its references find.** For every history of an index,
every lock file, every way of labelling and all options: each reference of the directory has one
outcome; the labels needed to compile, and those needed only to run, are those of the outcomes; and
a reference that a directory other than the unit's decides makes that directory a compile
dependency. -/
theorem resolveUnit_exact (history : List Event) (classes : Maven.ClassIndex) (labels : LabelScheme)
    (options : Options) (directory : Path) (kind : UnitKind) :
    let r : Resolver := { index := .ofHistory history, classes, labels, options }
    let unit := r.resolveUnit directory kind
    (∀ ref, Refers history options.runtime.reflection directory ref →
      ∃! o, Settles r history directory ref o) ∧
    HasLabels (r.Finds history directory) unit ∧
    ∀ ref symbol owner, Refers history options.runtime.reflection directory ref →
      DecidedBy r history directory ref symbol → r.index.lookup symbol = .found owner →
      owner.same directory = false →
        labels owner ∈ unit.deps ∧ labels owner ∉ unit.runtimeDeps := by
  intro r unit
  have hlabels : HasLabels (r.Finds history directory) unit :=
    Resolver.hasLabels_resolveUnit rfl kind
  refine ⟨fun ref hrefers ↦ Resolver.existsUnique_settles hrefers, hlabels, ?_⟩
  intro ref symbol owner hrefers hdecided hlookup hother
  have hcompile : labels owner ∈ unit.deps :=
    (hlabels.mem_deps _).2 ⟨ref, hrefers, Resolver.settles_of_decidedBy hdecided hlookup hother⟩
  exact ⟨hcompile, hlabels.disjoint _ hcompile⟩

end JavaDeps.Resolve
