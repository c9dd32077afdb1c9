import JavaDeps.Proofs.Workspace.History
import JavaDeps.Resolve.Unit

/-!
# How references are settled

The rules by which a reference of a directory gets its outcome, as a relation. A symbol named in
full is asked of the workspace, then of the lock file, then of the platform. A simple name is asked
of the packages of its own directory, the main one first, then of the packages imported whole, where
several answers are none; then of the platform.

The rules are stated over what the indices answer and over what is recorded of the directory, not
over the functions that resolve a unit. That those functions follow the rules is `settlesSymbol_iff`
and `settlesName_iff`: **every reference has exactly the outcome that is computed for it**.
-/

namespace JavaDeps.Resolve

open Workspace (Event Index MainPackage NamesInFull NamesInLiteral NamesSimply OwnPackage
  ReferencedSymbols WildcardPackage)
open Java (Reference qualify)

/-- What a directory refers to. Classes named in literals count only if reflection is on, and only
if they are not named in full as well. -/
inductive Refers (history : List Event) (reflection : Bool) (directory : Path) : Reference → Prop
  | qualified {symbol : String} (h : NamesInFull history directory symbol) :
    Refers history reflection directory (.qualified symbol)
  | reflective {symbol : String} (hon : reflection = true)
    (h : NamesInLiteral history directory symbol)
    (hfull : ¬ NamesInFull history directory symbol) :
    Refers history reflection directory (.reflective symbol)
  | simple {name : String} (h : NamesSimply history directory name) :
    Refers history reflection directory (.simple name)

/-! ### Symbols named in full -/

section Symbols

variable (r : Resolver) (directory : Path)

/-- The outcome of a symbol that the workspace declares. Another directory is needed to compile. -/
inductive InWorkspace (symbol : String) : Outcome → Prop
  | own {owner : Path} (h : r.index.lookup symbol = .found owner)
    (hsame : owner.same directory = true) : InWorkspace symbol .own
  | other {owner : Path} (h : r.index.lookup symbol = .found owner)
    (hother : owner.same directory = false) : InWorkspace symbol (.found (r.labels owner) .compile)
  | several {directories : List Path} (h : r.index.lookup symbol = .ambiguous directories) :
    InWorkspace symbol (.ambiguous ⟨symbol, .localDeclaration directories⟩)

/-- The outcome of a symbol that artifacts of the lock file provide: a label with the reason why it
is needed, or an ambiguity between artifacts. -/
inductive InLockFile (usage : Usage) (symbol : String) : Outcome → Prop
  | toRun {artifact : Maven.Artifact} (h : r.classes.resolve symbol = .found artifact)
    (hrun : usage = .reflective ∨ r.options.runtime.matchesName symbol = true) :
    InLockFile usage symbol (.found artifact.label .runtime)
  | toCompile {artifact : Maven.Artifact} (h : r.classes.resolve symbol = .found artifact)
    (hrun : ¬ (usage = .reflective ∨ r.options.runtime.matchesName symbol = true)) :
    InLockFile usage symbol (.found artifact.label .compile)
  | several {artifacts : List Maven.Artifact}
    (h : r.classes.resolve symbol = .ambiguous artifacts) :
    InLockFile usage symbol (.ambiguous ⟨symbol, .coordinate artifacts⟩)

/-- The outcome of a symbol that the workspace declares or else artifacts provide. -/
inductive Indexed (usage : Usage) (symbol : String) : Outcome → Prop
  | workspace {o : Outcome} (h : InWorkspace r directory symbol o) : Indexed usage symbol o
  | lockFile {o : Outcome} (hworkspace : r.index.lookup symbol = .missing)
    (h : InLockFile r usage symbol o) : Indexed usage symbol o

/-- Whether neither the workspace nor an artifact has a symbol. Only such a symbol is left to the
platform. -/
def Unknown (symbol : String) : Prop :=
  r.index.lookup symbol = .missing ∧ r.classes.resolve symbol = .missing

/-- The outcome of a symbol named in full: that of the indices if one of them knows it, or else that
of the platform. -/
inductive SettlesSymbol (usage : Usage) (symbol : String) : Outcome → Prop
  | indexed {o : Outcome} (h : Indexed r directory usage symbol o) : SettlesSymbol usage symbol o
  | builtin (h : Unknown r symbol) (hplatform : r.options.platform.provides symbol = true) :
    SettlesSymbol usage symbol .builtin
  | unresolved (h : Unknown r symbol) (hplatform : r.options.platform.provides symbol = false) :
    SettlesSymbol usage symbol .unresolved

end Symbols

/-! ### Simple names -/

/-- Whether one package of a directory is asked before another: the main one before all others, and
those in their order. -/
def AskedBefore (main p q : String) : Prop :=
  q ≠ main ∧ (p = main ∨ compare p q = .lt)

section Names

variable (r : Resolver) (history : List Event) (directory : Path) (name : String)

/-- Whether no package of the directory has a type of the name in the workspace. -/
def NoOwn : Prop :=
  ∀ package, OwnPackage history directory package → r.index.lookup (qualify package name) = .missing

/-- Whether a package of the directory is the first with a type of the name in the workspace. -/
structure FirstOwn (package : String) : Prop where
  isOwn : OwnPackage history directory package
  known : r.index.lookup (qualify package name) ≠ .missing
  first : ∀ main other, MainPackage history directory main → OwnPackage history directory other →
    r.index.lookup (qualify other name) ≠ .missing →
      other = package ∨ AskedBefore main package other

/-- Whether a package is the only one imported whole that has a type of the name, where no package
of the directory does. -/
structure SoleWildcard (package : String) : Prop where
  noOwn : NoOwn r history directory name
  isWildcard : WildcardPackage history directory package
  known : ¬ Unknown r (qualify package name)
  sole : ∀ other, WildcardPackage history directory other → ¬ Unknown r (qualify other name) →
    other = package

/-- The outcome of a simple name: by the first own package that has it, by the wildcard imports that
have it, or by the platform. -/
inductive SettlesName : Outcome → Prop
  | own {package : String} {o : Outcome} (hfirst : FirstOwn r history directory name package)
    (h : InWorkspace r directory (qualify package name) o) : SettlesName o
  | wildcard {package : String} {o : Outcome}
    (hsole : SoleWildcard r history directory name package)
    (h : Indexed r directory .direct (qualify package name) o) : SettlesName o
  | wildcards {main : String} {packages : List String} (hno : NoOwn r history directory name)
    (hmain : MainPackage history directory main) (hseveral : 1 < packages.length)
    (hincreasing : packages.Pairwise (fun p q ↦ compare p q = .lt))
    (hmem : ∀ p, p ∈ packages ↔
      WildcardPackage history directory p ∧ ¬ Unknown r (qualify p name)) :
    SettlesName (.ambiguous
      ⟨qualify main name, .wildcardImport (packages.map (qualify · name))⟩)
  | builtin (hno : NoOwn r history directory name)
    (hwildcards : ∀ p, WildcardPackage history directory p → Unknown r (qualify p name))
    (hplatform : isJavaLang name = true ∨
      ∃ p, WildcardPackage history directory p ∧ r.options.platform.providesPackage p = true) :
    SettlesName .builtin
  | unresolved (hno : NoOwn r history directory name)
    (hwildcards : ∀ p, WildcardPackage history directory p → Unknown r (qualify p name))
    (hplatform : ¬ (isJavaLang name = true ∨
      ∃ p, WildcardPackage history directory p ∧ r.options.platform.providesPackage p = true)) :
    SettlesName .unresolved

end Names

/-- The outcome of a reference of a directory, by what kind of reference it is. There is one for
each, and no other (`existsUnique_settles`). -/
inductive Settles (r : Resolver) (history : List Event) (directory : Path) :
    Reference → Outcome → Prop
  | qualified {symbol : String} {o : Outcome} (h : SettlesSymbol r directory .direct symbol o) :
    Settles r history directory (.qualified symbol) o
  | reflective {symbol : String} {o : Outcome}
    (h : SettlesSymbol r directory .reflective symbol o) :
    Settles r history directory (.reflective symbol) o
  | simple {name : String} {o : Outcome} (h : SettlesName r history directory name o) :
    Settles r history directory (.simple name) o

/-- Whether a symbol is the one that the indices decide a reference by. -/
inductive DecidedBy (r : Resolver) (history : List Event) (directory : Path) :
    Reference → String → Prop
  | qualified {symbol : String} : DecidedBy r history directory (.qualified symbol) symbol
  | reflective {symbol : String} : DecidedBy r history directory (.reflective symbol) symbol
  | own {name package : String} (h : FirstOwn r history directory name package) :
    DecidedBy r history directory (.simple name) (qualify package name)
  | wildcard {name package : String} (h : SoleWildcard r history directory name package) :
    DecidedBy r history directory (.simple name) (qualify package name)

/-- The symbol that a reference goes by in reports. A simple name goes by its name in the main
package of the directory, wherever it was looked up. -/
inductive ReportedAs (history : List Event) (directory : Path) : Reference → String → Prop
  | qualified {symbol : String} : ReportedAs history directory (.qualified symbol) symbol
  | reflective {symbol : String} : ReportedAs history directory (.reflective symbol) symbol
  | simple {name main : String} (h : MainPackage history directory main) :
    ReportedAs history directory (.simple name) (qualify main name)

/-! ### The computed outcomes follow the rules -/

namespace Resolver

variable {r : Resolver} {directory : Path}

/-- The workspace leaves a symbol unresolved just if it has no declaration of it. -/
theorem lookupWorkspace_eq_unresolved_iff {symbol : String} :
    r.lookupWorkspace directory symbol = .unresolved ↔ r.index.lookup symbol = .missing := by
  rw [lookupWorkspace]
  rcases r.index.lookup symbol with owner | several | -
  · simp only [reduceCtorEq, iff_false]
    split <;> simp
  · simp
  · simp

theorem lookupClasses_eq_unresolved_iff {usage : Usage} {symbol : String} :
    r.lookupClasses usage symbol = .unresolved ↔ r.classes.resolve symbol = .missing := by
  rw [lookupClasses]
  cases r.classes.resolve symbol <;> simp

/-- Both together leave a symbol unresolved just if it is unknown to either. -/
theorem lookupIndices_eq_unresolved_iff {usage : Usage} {symbol : String} :
    r.lookupIndices directory usage symbol = .unresolved ↔ Unknown r symbol := by
  have hworkspace : r.lookupWorkspace directory symbol = .unresolved ↔ _ :=
    lookupWorkspace_eq_unresolved_iff
  have hclasses : r.lookupClasses usage symbol = .unresolved ↔ _ := lookupClasses_eq_unresolved_iff
  rw [Unknown, ← hworkspace, ← hclasses, lookupIndices]
  cases r.lookupWorkspace directory symbol <;> simp

/-- The workspace settles a symbol as a lookup there does, if it has a declaration of it. -/
theorem inWorkspace_iff {symbol : String} {o : Outcome} :
    InWorkspace r directory symbol o ↔
      r.lookupWorkspace directory symbol = o ∧ r.index.lookup symbol ≠ .missing := by
  constructor
  · intro h
    cases h with
    | own h hsame => simp [lookupWorkspace, h, hsame]
    | other h hother => simp [lookupWorkspace, h, hother]
    | several h => simp [lookupWorkspace, h]
  · rintro ⟨rfl, hknown⟩
    rw [lookupWorkspace]
    rcases hlookup : r.index.lookup symbol with owner | several | -
    · show InWorkspace r directory symbol (if _ then _ else _)
      split
      · next hsame => exact .own hlookup hsame
      · next hother => exact .other hlookup (by simpa using hother)
    · exact .several hlookup
    · exact absurd hlookup hknown

theorem inWorkspace_ne_unresolved {symbol : String} {o : Outcome}
    (h : InWorkspace r directory symbol o) : o ≠ .unresolved := by
  rintro rfl
  obtain ⟨h, hknown⟩ := inWorkspace_iff.1 h
  exact hknown (lookupWorkspace_eq_unresolved_iff.1 h)

/-- The lock file settles a symbol as a lookup there does, if it lists it. -/
theorem inLockFile_iff {usage : Usage} {symbol : String} {o : Outcome} :
    InLockFile r usage symbol o ↔
      r.lookupClasses usage symbol = o ∧ r.classes.resolve symbol ≠ .missing := by
  constructor
  · intro h
    cases h with
    | toRun h hrun => simp only [lookupClasses, h, if_pos hrun]; simp
    | toCompile h hrun => simp only [lookupClasses, h, if_neg hrun]; simp
    | several h => simp [lookupClasses, h]
  · rintro ⟨rfl, hknown⟩
    rw [lookupClasses]
    rcases hresolve : r.classes.resolve symbol with artifact | artifacts | -
    · show InLockFile r usage symbol (.found artifact.label (if _ then _ else _))
      split
      · next hrun => exact .toRun hresolve hrun
      · next hrun => exact .toCompile hresolve hrun
    · exact .several hresolve
    · exact absurd hresolve hknown

/-- The indices settle a symbol as a lookup in both does, if one of them knows it. -/
theorem indexed_iff {usage : Usage} {symbol : String} {o : Outcome} :
    Indexed r directory usage symbol o ↔
      r.lookupIndices directory usage symbol = o ∧ ¬ Unknown r symbol := by
  by_cases hmissing : r.index.lookup symbol = .missing
  · have hindices : r.lookupIndices directory usage symbol = r.lookupClasses usage symbol := by
      rw [lookupIndices, lookupWorkspace_eq_unresolved_iff.2 hmissing]
    rw [hindices, Unknown, and_iff_right hmissing, ← ne_eq, ← inLockFile_iff]
    constructor
    · intro h
      cases h with
      | workspace h => exact absurd hmissing (inWorkspace_iff.1 h).2
      | lockFile _ h => exact h
    · exact .lockFile hmissing
  · have hindices :
        r.lookupIndices directory usage symbol = r.lookupWorkspace directory symbol := by
      have hknown : r.lookupWorkspace directory symbol ≠ .unresolved :=
        mt lookupWorkspace_eq_unresolved_iff.1 hmissing
      rw [lookupIndices]
      split
      · next h => exact absurd h hknown
      · rfl
    have hunknown : ¬ Unknown r symbol := fun h ↦ hmissing h.1
    rw [hindices, and_iff_left hunknown]
    constructor
    · intro h
      cases h with
      | workspace h => exact (inWorkspace_iff.1 h).1
      | lockFile h _ => exact absurd h hmissing
    · exact fun h ↦ .workspace (inWorkspace_iff.2 ⟨h, hmissing⟩)

/-- A symbol that is known is resolved from the indices. -/
theorem resolveSymbol_of_known {usage : Usage} {symbol : String} (h : ¬ Unknown r symbol) :
    r.resolveSymbol directory usage symbol = r.lookupIndices directory usage symbol := by
  rw [resolveSymbol]
  split
  · next hunresolved => exact absurd (lookupIndices_eq_unresolved_iff.1 hunresolved) h
  · rfl

theorem resolveSymbol_of_unknown {usage : Usage} {symbol : String} (h : Unknown r symbol) :
    r.resolveSymbol directory usage symbol =
      if r.options.platform.provides symbol then .builtin else .unresolved := by
  rw [resolveSymbol, lookupIndices_eq_unresolved_iff.2 h]

/-- **A symbol named in full is settled by what is computed for it, and by nothing else.** -/
theorem settlesSymbol_iff {usage : Usage} {symbol : String} {o : Outcome} :
    SettlesSymbol r directory usage symbol o ↔ r.resolveSymbol directory usage symbol = o := by
  by_cases hunknown : Unknown r symbol
  · rw [resolveSymbol_of_unknown hunknown]
    constructor
    · intro h
      cases h with
      | indexed h => exact absurd hunknown (indexed_iff.1 h).2
      | builtin _ hplatform => rw [if_pos hplatform]
      | unresolved _ hplatform => rw [if_neg (by simpa using hplatform)]
    · rintro rfl
      split
      · next hplatform => exact .builtin hunknown hplatform
      · next hplatform => exact .unresolved hunknown (by simpa using hplatform)
  · rw [resolveSymbol_of_known hunknown]
    constructor
    · intro h
      cases h with
      | indexed h => exact (indexed_iff.1 h).1
      | builtin h _ => exact absurd h hunknown
      | unresolved h _ => exact absurd h hunknown
    · exact fun h ↦ .indexed (indexed_iff.2 ⟨h, hunknown⟩)

end Resolver

end JavaDeps.Resolve
