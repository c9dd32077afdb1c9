import JavaDeps.Proofs.Resolve.Exactness
import JavaDeps.Proofs.Workspace.Elsewhere

/-!
# A unit hears of nothing that it does not ask for

Resolving a unit asks the index for the files of its directory and for the owners of some symbols,
and for nothing else. `Concerns` says which symbols these are, in terms of what is recorded of the
directory alone. **Resolvers that agree on them resolve the unit to one and the same result**
(`resolveUnit_eq`), down to the spelling of every path in it.

A recording in another directory, of a file that neither declares nor declared such a symbol, leaves
all of them alone; so it does not disturb the unit (`resolveUnit_record_elsewhere`), and neither do
any number of such recordings (`resolveUnit_recordings_elsewhere`).
-/

namespace JavaDeps.Resolve

open Workspace (Declares Event FileRecord Index IsReferenced NamesInFull NamesInLiteral NamesSimply
  OwnPackage RecordedIn ReferencedSymbols Touches Tracks WildcardPackage)
open Java (Reference qualify)

/-- The symbols that matter to a directory: those it names in full or in a literal, its simple names
in its own packages and in those that it imports whole, and the types that it declares. -/
inductive Concerns (history : List Event) (directory : Path) : String → Prop
  | inFull {symbol : String} (h : NamesInFull history directory symbol) :
    Concerns history directory symbol
  | inLiteral {symbol : String} (h : NamesInLiteral history directory symbol) :
    Concerns history directory symbol
  | inOwn {package name : String} (hname : NamesSimply history directory name)
    (hpackage : OwnPackage history directory package) :
    Concerns history directory (qualify package name)
  | inWildcard {package name : String} (hname : NamesSimply history directory name)
    (hpackage : WildcardPackage history directory package) :
    Concerns history directory (qualify package name)
  | declared {symbol : String} (h : Declares history directory symbol) :
    Concerns history directory symbol

/-- The symbols that matter to a directory, listed: what its files name in full or in literals, what
their simple names may stand for, and what they declare. -/
def concernsOf (index : Index) (directory : Path) : List String :=
  let symbols := (index.referenced? directory).getD {}
  symbols.qualified.toList ++ symbols.reflective.toList ++
    symbols.simpleNames.toList.flatMap (fun name ↦
      (symbols.packages.toList ++ symbols.wildcardPackages.toList).map (qualify · name)) ++
    (index.packageAt directory).declared.toList

/-- Something is recorded of a directory to which a symbol matters. -/
theorem Concerns.exists_recordedIn {history : List Event} {directory : Path} {symbol : String}
    (h : Concerns history directory symbol) : ∃ r, RecordedIn history directory r := by
  cases h with
  | inFull h => exact h.imp fun _ hr ↦ hr.1
  | inLiteral h => exact h.imp fun _ hr ↦ hr.1
  | inOwn hname _ => exact hname.imp fun _ hr ↦ hr.1
  | inWildcard hname _ => exact hname.imp fun _ hr ↦ hr.1
  | declared h => exact h.imp fun _ hr ↦ hr.1

/-- **The symbols that matter to a directory are those that are listed.** -/
theorem mem_concernsOf {index : Index} {history : List Event} (htracks : Tracks index history)
    {directory : Path} {symbol : String} :
    symbol ∈ concernsOf index directory ↔ Concerns history directory symbol := by
  rcases hsymbols : index.referenced? directory with - | symbols
  · have hnone : ¬ ∃ r, RecordedIn history directory r :=
      (htracks.referenced?_eq_none_iff directory).1 hsymbols
    constructor
    · intro hmem
      have hdeclared : symbol ∈ (index.packageAt directory).declared := by
        simpa [concernsOf, hsymbols, SortedSet.mem_iff] using hmem
      exact .declared (htracks.mem_declared_packageAt.1 hdeclared)
    · exact fun h ↦ absurd h.exists_recordedIn hnone
  · have h := htracks.isReferenced hsymbols
    simp only [concernsOf, hsymbols, Option.getD_some, List.mem_append, List.mem_flatMap,
      List.mem_map, ← SortedSet.mem_iff, h.qualified, h.reflective, h.simpleNames, h.packages,
      h.wildcardPackages, htracks.mem_declared_packageAt]
    constructor
    · rintro (((hfull | hliteral) | ⟨name, hname, package, hown | hwildcard, rfl⟩) | hdeclares)
      · exact .inFull hfull
      · exact .inLiteral hliteral
      · exact .inOwn hname hown
      · exact .inWildcard hname hwildcard
      · exact .declared hdeclares
    · intro hconcerns
      cases hconcerns with
      | inFull hfull => exact .inl (.inl (.inl hfull))
      | inLiteral hliteral => exact .inl (.inl (.inr hliteral))
      | inOwn hname hown => exact .inl (.inr ⟨_, hname, _, .inl hown, rfl⟩)
      | inWildcard hname hwildcard => exact .inl (.inr ⟨_, hname, _, .inr hwildcard, rfl⟩)
      | declared hdeclares => exact .inr hdeclares

namespace Resolver

/-- The symbols whose owners are asked for to settle a reference: the symbol itself, or a simple
name in each package that it may be in. -/
inductive AskedFor (symbols : ReferencedSymbols) : Reference → String → Prop
  | qualified {symbol : String} : AskedFor symbols (.qualified symbol) symbol
  | reflective {symbol : String} : AskedFor symbols (.reflective symbol) symbol
  | own {package name : String} (h : package ∈ ownPackages symbols) :
    AskedFor symbols (.simple name) (qualify package name)
  | wildcard {package name : String} (h : package ∈ symbols.wildcardPackages) :
    AskedFor symbols (.simple name) (qualify package name)

/-- Whether two resolvers agree on a directory and on the owners of some symbols, and differ in
nothing but their indices. -/
structure AgreeOn (r r' : Resolver) (directory : Path) (asked : String → Prop) : Prop where
  package : r.index.packages.get? directory = r'.index.packages.get? directory
  owners : ∀ symbol, asked symbol → r.index.ownersOf symbol = r'.index.ownersOf symbol
  classes : r.classes = r'.classes
  labels : r.labels = r'.labels
  options : r.options = r'.options

/-! ### One reference -/

namespace AgreeOn

variable {r r' : Resolver} {directory : Path} {asked : String → Prop}
  (h : r.AgreeOn r' directory asked)

include h

theorem lookupWorkspace_eq {symbol : String} (hasked : asked symbol) :
    r.lookupWorkspace directory symbol = r'.lookupWorkspace directory symbol := by
  simp only [lookupWorkspace, Index.lookup, h.owners symbol hasked, h.labels]

theorem lookupIndices_eq {usage : Usage} {symbol : String} (hasked : asked symbol) :
    r.lookupIndices directory usage symbol = r'.lookupIndices directory usage symbol := by
  simp only [lookupIndices, h.lookupWorkspace_eq hasked, lookupClasses, h.classes, h.options]

theorem resolveSymbol_eq {usage : Usage} {symbol : String} (hasked : asked symbol) :
    r.resolveSymbol directory usage symbol = r'.resolveSymbol directory usage symbol := by
  simp only [resolveSymbol, h.lookupIndices_eq hasked, h.options]

section Names

variable {symbols : ReferencedSymbols} {name : String}

theorem resolveInOwn_eq (hown : ∀ package ∈ ownPackages symbols, asked (qualify package name)) :
    r.resolveInOwn directory symbols name = r'.resolveInOwn directory symbols name :=
  congrArg firstResolved <| List.map_congr_left fun package hpackage ↦
    h.lookupWorkspace_eq (hown package hpackage)

variable (hwildcard : ∀ package ∈ symbols.wildcardPackages, asked (qualify package name))

include hwildcard

theorem wildcardHits_eq :
    r.wildcardHits directory symbols name = r'.wildcardHits directory symbols name := by
  refine congrArg (List.filter _) (List.map_congr_left fun package hpackage ↦ ?_)
  exact congrArg _ (h.lookupIndices_eq (hwildcard package hpackage))

theorem platformImported_eq :
    r.platformImported directory symbols name = r'.platformImported directory symbols name := by
  rw [platformImported, platformImported, Bool.eq_iff_iff, List.any_eq_true, List.any_eq_true]
  refine exists_congr fun package ↦ and_congr_right fun hpackage ↦ ?_
  rw [h.lookupIndices_eq (hwildcard package hpackage), h.options]

end Names

/-- **Resolvers that agree on what is asked for a reference give it one outcome.** -/
theorem outcomeOf_eq {symbols : ReferencedSymbols} {ref : Reference}
    (hasked : ∀ symbol, AskedFor symbols ref symbol → asked symbol) :
    r.outcomeOf directory symbols ref = r'.outcomeOf directory symbols ref := by
  cases ref with
  | qualified symbol => rw [outcomeOf, h.resolveSymbol_eq (hasked symbol .qualified), outcomeOf]
  | reflective symbol => rw [outcomeOf, h.resolveSymbol_eq (hasked symbol .reflective), outcomeOf]
  | simple name =>
    have hown : ∀ package ∈ ownPackages symbols, asked (qualify package name) :=
      fun package hpackage ↦ hasked _ (.own hpackage)
    have hwildcard : ∀ package ∈ symbols.wildcardPackages, asked (qualify package name) :=
      fun package hpackage ↦ hasked _ (.wildcard hpackage)
    rw [outcomeOf, outcomeOf, resolveSimpleName, h.resolveInOwn_eq hown,
      h.wildcardHits_eq hwildcard, h.platformImported_eq hwildcard, ← resolveSimpleName]

end AgreeOn

/-! ### The whole unit -/

variable {r r' : Resolver} {history : List Event} {directory : Path}

/-- What is asked for the references of a directory matters to it. -/
theorem concerns_of_askedFor {symbols : ReferencedSymbols}
    (hsymbols : IsReferenced history directory symbols) {reflection : Bool} {ref : Reference}
    (href : ref ∈ references reflection symbols) {symbol : String}
    (hasked : AskedFor symbols ref symbol) : Concerns history directory symbol := by
  have hrefers := (mem_references_iff hsymbols).1 href
  cases hasked with
  | qualified =>
    cases hrefers with
    | qualified hnames => exact .inFull hnames
  | reflective =>
    cases hrefers with
    | reflective _ hnames _ => exact .inLiteral hnames
  | own hpackage =>
    cases hrefers with
    | simple hnames => exact .inOwn hnames ((mem_ownPackages hsymbols).1 hpackage)
  | wildcard hpackage =>
    cases hrefers with
    | simple hnames => exact .inWildcard hnames ((hsymbols.wildcardPackages _).1 hpackage)

section Agree

variable (htracks : Tracks r.index history)
  (h : r.AgreeOn r' directory (Concerns history directory))

include htracks h

/-- **Resolvers that agree on a unit have the same outcomes for it.** -/
theorem outcomes_eq_of_agreeOn :
    r.outcomes directory ((r.index.referenced? directory).getD {}) =
      r'.outcomes directory ((r'.index.referenced? directory).getD {}) := by
  have hreferenced : r.index.referenced? directory = r'.index.referenced? directory := by
    rw [Index.referenced?, h.package, Index.referenced?]
  rw [← hreferenced]
  rcases hsymbols : r.index.referenced? directory with - | symbols
  · -- nothing is recorded, so there is nothing to look up
    simp [outcomes]
  · have hisReferenced := htracks.isReferenced hsymbols
    rw [Option.getD_some, outcomes_eq, outcomes_eq, h.options]
    exact List.map_congr_left fun ref href ↦ h.outcomeOf_eq fun symbol hasked ↦
      concerns_of_askedFor hisReferenced href hasked

/-- Resolvers that agree on a unit have the same conflicts in it. -/
theorem conflictsIn_eq_of_agreeOn :
    r.index.conflictsIn directory = r'.index.conflictsIn directory := by
  have hpackageAt : r.index.packageAt directory = r'.index.packageAt directory := by
    rw [Index.packageAt, h.package, Index.packageAt]
  have howners : ∀ symbol ∈ (r.index.packageAt directory).declared.toList,
      r.index.ownersOf symbol = r'.index.ownersOf symbol := fun symbol hmem ↦
    h.owners symbol (.declared (htracks.mem_declared_packageAt.1 (SortedSet.mem_iff.2 hmem)))
  rw [Workspace.conflictsIn_eq, Workspace.conflictsIn_eq, ← hpackageAt,
    List.filter_congr fun symbol hmem ↦ by rw [howners symbol hmem]]
  refine List.map_congr_left fun symbol hmem ↦ ?_
  rw [howners symbol (List.mem_filter.1 hmem).1]

/-- **Resolvers that agree on what matters to a directory resolve its unit alike.** -/
theorem resolveUnit_eq (kind : UnitKind) :
    r.resolveUnit directory kind = r'.resolveUnit directory kind := by
  simp only [resolveUnit, outcomes_eq_of_agreeOn htracks h, conflictsIn_eq_of_agreeOn htracks h,
    h.labels]

end Agree

end Resolver

/-! ### Recordings elsewhere -/

section Elsewhere

variable {history : List Event} {directory e path : Path} {record : FileRecord}

/-- A recording in another directory, of a file that no matter of the directory is declared in. -/
theorem Resolver.agreeOn_record {r : Resolver} (htracks : Tracks r.index history)
    (hother : e.same directory = false)
    (huntouched : ∀ symbol, Concerns history directory symbol →
      ¬ Touches history e path record symbol) :
    r.AgreeOn { r with index := r.index.record e path record } directory
      (Concerns history directory) where
  package := (Workspace.get?_packages_record hother).symm
  owners symbol hconcerns :=
    (Workspace.ownersOf_record htracks (huntouched symbol hconcerns)).symm
  classes := rfl
  labels := rfl
  options := rfl

/-- What matters to a directory is said by what is recorded of it. -/
theorem Concerns.congr {history' : List Event}
    (hrecorded : ∀ r, RecordedIn history directory r ↔ RecordedIn history' directory r)
    {symbol : String} (h : Concerns history directory symbol) :
    Concerns history' directory symbol := by
  have hdeclares : ∀ symbol, Declares history directory symbol ↔
      Declares history' directory symbol := fun symbol ↦ by
    simp only [Declares, hrecorded]
  have hsimply : ∀ name, NamesSimply history directory name →
      NamesSimply history' directory name := fun name ↦ by
    simp only [NamesSimply, hrecorded, hdeclares, imp_self]
  cases h with
  | inFull h => exact .inFull (h.imp fun r hr ↦ hr.imp_left (hrecorded r).1)
  | inLiteral h => exact .inLiteral (h.imp fun r hr ↦ hr.imp_left (hrecorded r).1)
  | inOwn hname hpackage =>
    exact .inOwn (hsimply _ hname) (hpackage.imp fun r hr ↦ hr.imp_left (hrecorded r).1)
  | inWildcard hname hpackage =>
    exact .inWildcard (hsimply _ hname) (hpackage.imp fun r hr ↦ hr.imp_left (hrecorded r).1)
  | declared h => exact .declared ((hdeclares _).1 h)

/-- What matters to a directory stays the same with a recording in another one. -/
theorem concerns_of_record (hother : e.same directory = false) {symbol : String}
    (h : Concerns (history ++ [.record e path record]) directory symbol) :
    Concerns history directory symbol := by
  refine h.congr fun r ↦ exists_congr fun path' ↦ ?_
  rw [Tracks.recorded?_record_of_not_same]
  rw [hother]
  exact Bool.false_ne_true

/-- Whether events are recordings in other directories than a given one, each of a file that at that
time neither declares nor declared a symbol that matters. -/
inductive Spared (directory : Path) (matters : String → Prop) :
    List Event → List Event → Prop
  | nil {history : List Event} : Spared directory matters history []
  | record {history events : List Event} {e path : Path} {record : FileRecord}
    (hother : e.same directory = false)
    (huntouched : ∀ symbol, matters symbol → ¬ Touches history e path record symbol)
    (h : Spared directory matters (history ++ [.record e path record]) events) :
    Spared directory matters history (.record e path record :: events)

/-- Recordings that spare a directory one by one do not disturb its unit together. -/
theorem Resolver.resolveUnit_of_spared {matters : String → Prop} {events : List Event}
    (h : Spared directory matters history events)
    (hmatters : ∀ symbol, Concerns history directory symbol → matters symbol) {r : Resolver}
    (hindex : r.index = .ofHistory history) (kind : UnitKind) :
    { r with index := .ofHistory (history ++ events) }.resolveUnit directory kind =
      r.resolveUnit directory kind := by
  induction h generalizing r with
  | nil => rw [List.append_nil, ← hindex]
  | @record history events e path record hother huntouched _ ih =>
    have htracks : Tracks r.index history := hindex ▸ Workspace.tracks_ofHistory history
    have hagree := agreeOn_record htracks hother fun symbol hconcerns ↦
      huntouched symbol (hmatters symbol hconcerns)
    have hnext : r.index.record e path record =
        .ofHistory (history ++ [.record e path record]) := by
      rw [Index.ofHistory_concat, hindex]
      rfl
    -- the first recording leaves all that matters to the directory as it was
    have hrest := ih (fun symbol hconcerns ↦ hmatters symbol (concerns_of_record hother hconcerns))
      (r := { r with index := r.index.record e path record }) hnext
    rw [List.append_assoc, List.singleton_append] at hrest
    exact hrest.trans (resolveUnit_eq htracks hagree kind).symm

variable (classes : Maven.ClassIndex) (labels : LabelScheme) (options : Options)

/-- **Any number of unrelated recordings leave a unit alone.** -/
theorem resolveUnit_recordings_elsewhere {events : List Event}
    (h : Spared directory (Concerns history directory) history events) (kind : UnitKind) :
    let before : Resolver := { index := .ofHistory history, classes, labels, options }
    let after : Resolver := { before with index := .ofHistory (history ++ events) }
    after.resolveUnit directory kind = before.resolveUnit directory kind := by
  intro before after
  exact Resolver.resolveUnit_of_spared h (fun _ hconcerns ↦ hconcerns) (r := before) rfl kind

/-- **An unrelated recording leaves a unit alone.** For every history of an index, every lock file,
every way of labelling and all options: a file is recorded in a directory other than the unit's, and
neither the file as it is recorded now nor as it was recorded last declares a symbol that matters to
the unit's directory. Then the unit is resolved as before, down to the spelling of every path. -/
theorem resolveUnit_record_elsewhere (hother : e.same directory = false)
    (huntouched : ∀ symbol, Concerns history directory symbol →
      ¬ Touches history e path record symbol) (kind : UnitKind) :
    let before : Resolver := { index := .ofHistory history, classes, labels, options }
    let after : Resolver := { before with index := before.index.record e path record }
    after.resolveUnit directory kind = before.resolveUnit directory kind := by
  intro before after
  have htracks : Tracks before.index history := Workspace.tracks_ofHistory history
  have hagree : before.AgreeOn after directory (Concerns history directory) :=
    Resolver.agreeOn_record htracks hother huntouched
  exact (Resolver.resolveUnit_eq htracks hagree kind).symm

/-- A file of a library is recorded again: it declared a type together with another file of the
library, and declares one now that nobody knew. The unit imports the library, and shares a type with
a third directory. -/
theorem resolveUnit_record_elsewhere_of_library :
    let uses : FileRecord :=
      ⟨⟨[]⟩,
        { package := "app", declaredTypes := ["Main"], imports := .ofList ["lib.Api"]
          wildcardImports := .ofList ["lib"], simpleNames := .ofList ["Helper"]
          reflectiveReferences := .ofList ["plug.In"] }⟩
    let api : FileRecord := ⟨⟨[]⟩, { package := "lib", declaredTypes := ["Api", "Shared"] }⟩
    let old : FileRecord := ⟨⟨[]⟩, { package := "lib", declaredTypes := ["Old", "Shared"] }⟩
    let new : FileRecord := ⟨⟨[]⟩, { package := "lib", declaredTypes := ["New"] }⟩
    let history : List Event :=
      [.record ⟨"app"⟩ ⟨"app/Main.java"⟩ uses, .record ⟨"lib"⟩ ⟨"lib/Api.java"⟩ api,
        .record ⟨"lib"⟩ ⟨"lib/Extra.java"⟩ old, .record ⟨"copy"⟩ ⟨"copy/Main.java"⟩ uses]
    let before : Resolver := { index := .ofHistory history }
    let after : Resolver :=
      { before with index := before.index.record ⟨"lib"⟩ ⟨"lib/Extra.java"⟩ new }
    after.index.lookup "lib.New" = .found ⟨"lib"⟩ ∧
      (before.resolveUnit ⟨"app"⟩ .library).deps = [⟨"//lib:lib"⟩] ∧
      after.resolveUnit ⟨"app"⟩ .library = before.resolveUnit ⟨"app"⟩ .library := by
  intro uses api old new history before after
  have hother : Path.same ⟨"lib"⟩ ⟨"app"⟩ = false := by decide +kernel
  have hrecorded : Workspace.recorded? history ⟨"lib"⟩ ⟨"lib/Extra.java"⟩ = some old := by
    decide +kernel
  have hforeign : ∀ symbol ∈ concernsOf (.ofHistory history) ⟨"app"⟩,
      symbol ∉ new.facts.qualifiedTypes ++ old.facts.qualifiedTypes := by decide +kernel
  have huntouched : ∀ symbol, Concerns history ⟨"app"⟩ symbol →
      ¬ Touches history ⟨"lib"⟩ ⟨"lib/Extra.java"⟩ new symbol := by
    intro symbol hconcerns htouches
    have hmem := (mem_concernsOf (Workspace.tracks_ofHistory history)).2 hconcerns
    refine hforeign symbol hmem (List.mem_append.2 (htouches.imp_right ?_))
    rintro ⟨record, hrecord, hsymbol⟩
    rwa [← Option.some.inj (hrecord.symm.trans hrecorded)]
  exact ⟨by decide +kernel, by decide +kernel,
    resolveUnit_record_elsewhere {} .conventional {} hother huntouched .library⟩

end Elsewhere

end JavaDeps.Resolve
