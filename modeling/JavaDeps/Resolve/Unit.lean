import JavaDeps.Resolve.Resolver

/-!
# Resolving a unit

A unit is a directory whose sources become one build rule. Its resolution lists the labels that it
needs to compile and those it needs only to run, and reports what could not be resolved. **A type
that the unit declares together with another directory is reported whether or not anybody uses it.**
-/

namespace JavaDeps.Resolve

open Workspace (ReferencedSymbols)

/-- What the sources of a unit are for. The kind decides whether the unit becomes a rule; it makes
no difference to what its symbols resolve to. -/
inductive UnitKind where
  | library
  | test
  /-- Sources that other units may refer to; they make no rule. -/
  | generated
  deriving DecidableEq, Repr, Inhabited

/-- The name of a kind. -/
def UnitKind.name : UnitKind → String
  | library => "library"
  | test => "test"
  | generated => "generated"

/-- Whether a unit of the kind becomes a build rule, as libraries and tests do. Generated sources
are there to be referred to only. -/
def UnitKind.emitsRule (k : UnitKind) : Bool := k != .generated

/-- What could not be resolved in a unit: the symbols that nobody provides, each once and in order,
and those that several provide. -/
structure UnitReport where
  unresolved : SortedSet String := ∅
  /-- The ambiguous symbols, in order. -/
  ambiguities : List Ambiguity := []
  deriving DecidableEq

/-- Whether there is nothing to report. -/
def UnitReport.isClean (r : UnitReport) : Bool :=
  r.unresolved.isEmpty && r.ambiguities.isEmpty

/-- The resolution of a unit: its label, the labels that it needs to compile and those that it needs
only to run, and what is reported about it. -/
structure UnitResolution where
  directory : Path
  kind : UnitKind
  label : Label
  deps : List Label
  runtimeDeps : List Label
  report : UnitReport
  deriving DecidableEq

namespace Resolver

/-- The symbols that a unit refers to, each with its outcome, in the order in which they are looked
up. A simple name goes by its name in the package of the unit. -/
def outcomes (r : Resolver) (directory : Path) (symbols : ReferencedSymbols) :
    List (String × Outcome) :=
  let qualified := symbols.qualified.toList.map fun s ↦ (s, r.resolveSymbol directory .direct s)
  let reflective :=
    if r.options.runtime.reflection then
      (symbols.reflective.toList.filter (!symbols.qualified.contains ·)).map fun s ↦
        (s, r.resolveSymbol directory .reflective s)
    else []
  let simple := symbols.simpleNames.toList.map fun name ↦
    (Java.qualify symbols.package name, r.resolveSimpleName directory symbols name)
  qualified ++ reflective ++ simple

/-- The label and its reason in an outcome. -/
def foundLabel? : String × Outcome → Option (Label × Classification)
  | (_, .found label c) => some (label, c)
  | _ => none

/-- The symbol of an outcome that resolves nothing. -/
def unresolvedSymbol? : String × Outcome → Option String
  | (symbol, .unresolved) => some symbol
  | _ => none

/-- The ambiguity in an outcome. -/
def ambiguity? : String × Outcome → Option Ambiguity
  | (_, .ambiguous a) => some a
  | _ => none

/-- Adds the conflicts of a directory to the ambiguities of its references, unless one of these is
about the same symbol already. -/
def addConflicts (known : List Ambiguity) (conflicts : List (String × List Path)) :
    List Ambiguity :=
  conflicts.foldl (fun known (symbol, directories) ↦
    if known.all (·.symbol != symbol) then known ++ [⟨symbol, .localDeclaration directories⟩]
    else known) known

/-- Resolves the unit of a directory, from what the index has recorded there. Its labels are those
that some reference finds, and its ambiguities are those of references and of declarations, in order
of their symbols. -/
def resolveUnit (r : Resolver) (directory : Path) (kind : UnitKind) : UnitResolution :=
  let symbols := (r.index.referenced? directory).getD {}
  let outcomes := r.outcomes directory symbols
  let (deps, runtimeDeps) := (DependencySet.ofList (outcomes.filterMap foundLabel?)).split
  let ambiguities :=
    addConflicts (outcomes.filterMap ambiguity?) (r.index.conflictsIn directory)
  { directory, kind, label := r.labels directory, deps, runtimeDeps
    report :=
      { unresolved := .ofList (outcomes.filterMap unresolvedSymbol?)
        ambiguities :=
          ambiguities.mergeSort fun a b ↦ (compare a.symbol b.symbol).isLE } }

end Resolver

end JavaDeps.Resolve
