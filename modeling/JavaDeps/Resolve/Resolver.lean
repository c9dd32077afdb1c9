import JavaDeps.Resolve.LabelScheme
import JavaDeps.Resolve.Outcome
import JavaDeps.Resolve.Platform
import JavaDeps.Resolve.RuntimeRule
import JavaDeps.Workspace.Index

/-!
# Resolving symbols

A qualified symbol is looked up in the workspace, then among the published classes, then on the
platform. A simple name is tried in the packages of its own unit, then in the packages that the unit
imports whole, and last in `java.lang`.
-/

namespace JavaDeps.Resolve

open Workspace (Index ReferencedSymbols)

/-- How symbols are classified: which of them the platform provides, and which classes of artifacts
are needed only to run. -/
structure Options where
  platform : Platform := .standard
  runtime : RuntimeRule := {}

/-- All that symbols are resolved against: the index of the workspace, the classes of the lock file,
the scheme by which directories get labels, and the options. -/
structure Resolver where
  index : Index := {}
  classes : Maven.ClassIndex := {}
  labels : LabelScheme := .conventional
  options : Options := {}

/-- How a unit refers to a symbol. It makes a difference to classes of artifacts only: those that
are named by string literals alone are not needed to compile. -/
inductive Usage where
  /-- By an import or a name in full. -/
  | direct
  /-- By string literals alone. -/
  | reflective
  deriving DecidableEq, Repr

namespace Resolver

/-- The outcome of a qualified symbol in the workspace, as it is seen from a directory: its own
declarations make no dependency. Unresolved if no directory declares the symbol. -/
def lookupWorkspace (r : Resolver) (directory : Path) (symbol : String) : Outcome :=
  match r.index.lookup symbol with
  | .missing => .unresolved
  | .found owner => if owner.same directory then .own else .found (r.labels owner) .compile
  | .ambiguous directories => .ambiguous ⟨symbol, .localDeclaration directories⟩

/-- The outcome of a qualified symbol among published classes, with the reason that the usage and
the rule for run time give. Unresolved if no artifact provides the symbol. -/
def lookupClasses (r : Resolver) (usage : Usage) (symbol : String) : Outcome :=
  match r.classes.resolve symbol with
  | .missing => .unresolved
  | .found artifact =>
    .found artifact.label <|
      if usage = .reflective ∨ r.options.runtime.matchesName symbol then .runtime else .compile
  | .ambiguous artifacts => .ambiguous ⟨symbol, .coordinate artifacts⟩

/-- The outcome in the workspace, or among published classes if the workspace does not declare the
symbol. A declaration in the workspace hides every artifact, also where it is ambiguous. -/
def lookupIndices (r : Resolver) (directory : Path) (usage : Usage) (symbol : String) : Outcome :=
  match r.lookupWorkspace directory symbol with
  | .unresolved => r.lookupClasses usage symbol
  | outcome => outcome

/-- The outcome of a qualified symbol. Both indices come before the platform, which is asked only
about what neither of them knows. -/
def resolveSymbol (r : Resolver) (directory : Path) (usage : Usage) (symbol : String) : Outcome :=
  match r.lookupIndices directory usage symbol with
  | .unresolved => if r.options.platform.provides symbol then .builtin else .unresolved
  | outcome => outcome

/-! ### Simple names -/

/-- The first outcome of a list that is not unresolved. An ambiguous one counts, so that it hides
those behind it; unresolved if there is none. -/
def firstResolved : List Outcome → Outcome
  | [] => .unresolved
  | .unresolved :: rest => firstResolved rest
  | outcome :: _ => outcome

/-- The packages that the files of a unit are in, with the name of the unit's package first and each
of the others once. -/
def ownPackages (symbols : ReferencedSymbols) : List String :=
  symbols.package :: symbols.packages.toList.filter (· != symbols.package)

/-- The outcome of a simple name in the packages of its own unit. They are looked up in the
workspace alone, one after another, and the first that knows the name decides. -/
def resolveInOwn (r : Resolver) (directory : Path) (symbols : ReferencedSymbols) (name : String) :
    Outcome :=
  firstResolved <|
    (ownPackages symbols).map fun package ↦ r.lookupWorkspace directory (Java.qualify package name)

/-- The candidates for a simple name in packages imported whole, with their outcomes. A package
counts if the name is known there to the workspace or to an artifact. -/
def wildcardHits (r : Resolver) (directory : Path) (symbols : ReferencedSymbols) (name : String) :
    List (String × Outcome) :=
  (symbols.wildcardPackages.toList.map fun package ↦
    let candidate := Java.qualify package name
    (candidate, r.lookupIndices directory .direct candidate)).filter (·.2 != .unresolved)

/-- Whether some package of the platform is imported whole for which neither index knows the name.
The platform may have it then, since its types are not listed. -/
def platformImported (r : Resolver) (directory : Path) (symbols : ReferencedSymbols)
    (name : String) : Bool :=
  symbols.wildcardPackages.toList.any fun package ↦
    r.options.platform.providesPackage package
      && r.lookupIndices directory .direct (Java.qualify package name) == .unresolved

/-- The outcome of a simple name. The own packages come first, and then those that are imported
whole: one that knows the name decides, and several make it ambiguous. A name that none of them
knows is left to the platform. -/
def resolveSimpleName (r : Resolver) (directory : Path) (symbols : ReferencedSymbols)
    (name : String) : Outcome :=
  match r.resolveInOwn directory symbols name with
  | .unresolved =>
    match r.wildcardHits directory symbols name with
    | [] =>
      if isJavaLang name || r.platformImported directory symbols name then .builtin else .unresolved
    | [(_, outcome)] => outcome
    | hits =>
      .ambiguous ⟨Java.qualify symbols.package name, .wildcardImport (hits.map (·.1))⟩
  | outcome => outcome

end Resolver

end JavaDeps.Resolve
