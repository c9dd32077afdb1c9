import JavaDeps.Proofs.Resolve.SimpleName
import JavaDeps.Proofs.Workspace.Refinement

/-!
# Importing a package or naming the type

A type can be named in full, or simply with its package imported whole. The two names take different
ways through the resolver, and **lead to the same outcome** where no other package has a claim on
the simple name (`resolveSimpleName_eq_resolveSymbol`).

What is left to the platform is the point where the two ways could part: one asks whether the symbol
lies under a prefix, the other whether the package does. The prefixes of a platform end in a dot and
a simple name has none, so a prefix of the symbol cannot reach into the name
(`Platform.provides_qualify`).
-/

namespace JavaDeps.Resolve

open Workspace (Event Index IsReferenced ReferencedSymbols WildcardPackage)
open Java (Facts qualify)

/-! ### Prefixes that end in a dot -/

/-- What ends in a separator is a prefix of a qualified name exactly if it is one of the qualifier,
or the qualifier and its separator. -/
theorem concat_isPrefix_append_cons_iff {α : Type} {dot : α} (stem qualifier : List α)
    {name : List α} (hname : dot ∉ name) :
    stem ++ [dot] <+: qualifier ++ dot :: name ↔
      stem ++ [dot] <+: qualifier ∨ stem ++ [dot] = qualifier ++ [dot] := by
  have hsplit : qualifier ++ dot :: name = (qualifier ++ [dot]) ++ name := by simp
  rw [hsplit]
  constructor
  · rintro ⟨rest, hrest⟩
    rcases List.append_eq_append_iff.1 hrest with ⟨more, hmore, -⟩ | ⟨more, hmore, hreaches⟩
    · -- the separator of the qualifier ends the prefix, or lies behind it
      rcases List.eq_nil_or_concat more with rfl | ⟨more, last, rfl⟩
      · exact .inr (by simpa using hmore.symm)
      · rw [List.concat_eq_append, ← List.append_assoc] at hmore
        exact .inl ⟨more, (List.append_inj' hmore rfl).1.symm⟩
    · -- a prefix that reaches into the name ends there, and the name has no separator
      rcases List.eq_nil_or_concat more with rfl | ⟨more, last, rfl⟩
      · exact .inr (by simpa using hmore)
      · rw [List.concat_eq_append, ← List.append_assoc] at hmore
        obtain rfl : dot = last := by simpa using (List.append_inj' hmore rfl).2
        exact absurd (by simp [hreaches]) hname
  · rintro (hpre | heq)
    · exact hpre.trans ((List.prefix_append _ _).trans (List.prefix_append _ _))
    · exact heq ▸ List.prefix_append _ _

namespace Platform

/-- Whether all prefixes of a platform end in a dot, as they are meant to. A prefix without one
would begin other packages as well. -/
def Dotted (p : Platform) : Prop :=
  ∀ lead ∈ p.prefixes, ∃ stem, lead = stem ++ "."

instance (p : Platform) : Decidable p.Dotted :=
  decidable_of_iff (∀ lead ∈ p.prefixes, lead.toList.getLast? = some '.') <|
    forall₂_congr fun lead _ ↦ by
      rw [List.getLast?_eq_some_iff]
      constructor
      · rintro ⟨stem, hstem⟩
        exact ⟨String.ofList stem, String.toList_inj.1 (by simpa using hstem)⟩
      · rintro ⟨stem, rfl⟩
        exact ⟨stem.toList, by simp⟩

theorem startsWith_iff {text lead : String} :
    startsWith text lead = true ↔ lead.toList <+: text.toList := by
  rw [startsWith, List.isPrefixOf_iff_prefix]

theorem startsWith_append_dot_iff {stem package name : String} (hname : '.' ∉ name.toList) :
    startsWith (package ++ "." ++ name) (stem ++ ".") = true ↔
      startsWith package (stem ++ ".") = true ∨ stem ++ "." = package ++ "." := by
  simpa [startsWith_iff, ← String.toList_inj] using
    concat_isPrefix_append_cons_iff stem.toList package.toList hname

/-- **A platform provides a type exactly if it provides the package** that holds the type. -/
theorem provides_qualify {p : Platform} (h : p.Dotted) {package name : String}
    (hname : '.' ∉ name.toList) :
    p.provides (package ++ "." ++ name) = p.providesPackage package := by
  rw [Bool.eq_iff_iff, provides, providesPackage, List.any_eq_true, List.any_eq_true]
  refine exists_congr fun lead ↦ and_congr_right fun hlead ↦ ?_
  obtain ⟨stem, rfl⟩ := h lead hlead
  rw [startsWith_append_dot_iff hname, Bool.or_eq_true, beq_iff_eq]

end Platform

/-! ### The two names of a type -/

theorem qualify_of_ne_empty {package : String} (h : package ≠ "") (name : String) :
    qualify package name = package ++ "." ++ name := by
  rw [qualify, if_neg (by simpa using h)]

/-- Whether a package is the only one imported whole in a directory that could have a type of a
name: all others are neither packages of the platform nor known to have one. -/
structure OnlyCandidate (r : Resolver) (history : List Event) (directory : Path)
    (name package : String) : Prop where
  isWildcard : WildcardPackage history directory package
  others : ∀ other, WildcardPackage history directory other → other ≠ package →
    r.options.platform.providesPackage other = false ∧ Unknown r (qualify other name)

namespace Resolver

variable {r : Resolver} {history : List Event} {directory : Path} {name package : String}

/-- A name that an index knows in the package has the outcome of the symbol. -/
theorem settlesName_of_known (hno : NoOwn r history directory name)
    (honly : OnlyCandidate r history directory name package)
    (hknown : ¬ Unknown r (qualify package name)) :
    SettlesName r history directory name
      (r.resolveSymbol directory .direct (qualify package name)) := by
  have hsole : SoleWildcard r history directory name package := by
    refine ⟨hno, honly.isWildcard, hknown, fun other hother hknown' ↦ ?_⟩
    by_contra hne
    exact hknown' (honly.others other hother hne).2
  rw [resolveSymbol_of_known hknown]
  exact .wildcard hsole (indexed_iff.2 ⟨rfl, hknown⟩)

/-- A name that no index knows is left to the platform, as the symbol is. -/
theorem settlesName_of_unknown (hplatform : r.options.platform.Dotted) (hpackage : package ≠ "")
    (hname : '.' ∉ name.toList) (hlang : isJavaLang name = false)
    (hno : NoOwn r history directory name)
    (honly : OnlyCandidate r history directory name package)
    (hunknown : Unknown r (qualify package name)) :
    SettlesName r history directory name
      (r.resolveSymbol directory .direct (qualify package name)) := by
  have hall : ∀ other, WildcardPackage history directory other →
      Unknown r (qualify other name) := by
    intro other hother
    by_cases heq : other = package
    · exact heq ▸ hunknown
    · exact (honly.others other hother heq).2
  rw [resolveSymbol_of_unknown hunknown, qualify_of_ne_empty hpackage,
    Platform.provides_qualify hplatform hname]
  split
  · next hprovides => exact .builtin hno hall (.inr ⟨package, honly.isWildcard, hprovides⟩)
  · next hprovides =>
    refine .unresolved hno hall ?_
    rintro (hjavaLang | ⟨other, hother, hprovides'⟩)
    · rw [hlang] at hjavaLang
      cases hjavaLang
    · by_cases heq : other = package
      · exact hprovides (heq ▸ hprovides')
      · rw [(honly.others other hother heq).1] at hprovides'
        cases hprovides'

end Resolver

/-- **The form of an import does not change the dependency.** A directory imports a package whole,
and no other package has a claim on a simple name: none of the directory's own has a type of the
name, and none of the others imported whole could have one. Then the name has the outcome of the
symbol that it stands for in the package. -/
theorem resolveSimpleName_eq_resolveSymbol (history : List Event) (classes : Maven.ClassIndex)
    (labels : LabelScheme) (options : Options) (directory : Path) {package name : String}
    (hplatform : options.platform.Dotted) (hpackage : package ≠ "") (hname : '.' ∉ name.toList)
    (hlang : isJavaLang name = false) :
    let r : Resolver := { index := .ofHistory history, classes, labels, options }
    NoOwn r history directory name → OnlyCandidate r history directory name package →
      ∃ symbols, r.index.referenced? directory = some symbols ∧
        package ∈ symbols.wildcardPackages ∧
        r.resolveSimpleName directory symbols name =
          r.resolveSymbol directory .direct (package ++ "." ++ name) := by
  intro r hno honly
  have htracks := Workspace.tracks_ofHistory history
  rcases hsymbols : r.index.referenced? directory with - | symbols
  · -- where a package is imported, something is recorded
    obtain ⟨record, hrecord, -⟩ := honly.isWildcard
    exact absurd ⟨record, hrecord⟩ ((htracks.referenced?_eq_none_iff directory).1 hsymbols)
  have hreferenced : IsReferenced history directory symbols := htracks.isReferenced hsymbols
  refine ⟨symbols, rfl, (hreferenced.wildcardPackages package).2 honly.isWildcard, ?_⟩
  rw [← qualify_of_ne_empty hpackage]
  refine (Resolver.settlesName_iff hreferenced).1 ?_
  by_cases hunknown : Unknown r (qualify package name)
  · exact Resolver.settlesName_of_unknown hplatform hpackage hname hlang hno honly hunknown
  · exact Resolver.settlesName_of_known hno honly hunknown

/-- A package of the platform that is itself a prefix but for the dot, beside another package. -/
theorem resolveSimpleName_eq_resolveSymbol_of_platform :
    let facts : Facts := { package := "d", wildcardImports := .ofList ["javax", "lib"] }
    let history : List Event := [.record ⟨"d"⟩ ⟨"d/A.java"⟩ ⟨⟨[]⟩, facts⟩]
    let r : Resolver := { index := .ofHistory history }
    Platform.standard.Dotted ∧ NoOwn r history ⟨"d"⟩ "Foo" ∧
      OnlyCandidate r history ⟨"d"⟩ "Foo" "javax" ∧
      ∃ symbols, r.index.referenced? ⟨"d"⟩ = some symbols ∧
        r.resolveSimpleName ⟨"d"⟩ symbols "Foo" = .builtin := by
  intro facts history r
  have hrecorded : ∀ record, Workspace.RecordedIn history ⟨"d"⟩ record → record.facts = facts := by
    rintro record ⟨path, hrecord⟩
    rw [Workspace.recorded?, List.foldl_cons, List.foldl_nil, Event.update] at hrecord
    split at hrecord
    · rw [← Option.some.inj hrecord]
    · cases hrecord
  have hno : NoOwn r history ⟨"d"⟩ "Foo" := by
    rintro package ⟨record, hrecord, rfl⟩
    rw [hrecorded record hrecord]
    decide +kernel
  have honly : OnlyCandidate r history ⟨"d"⟩ "Foo" "javax" := by
    have hwildcard : "javax" ∈ facts.wildcardImports := SortedSet.mem_ofList.2 (by decide)
    refine ⟨⟨⟨⟨[]⟩, facts⟩, ⟨⟨"d/A.java"⟩, by decide +kernel⟩, hwildcard⟩, ?_⟩
    rintro other ⟨record, hrecord, hother⟩ hne
    rw [hrecorded record hrecord, SortedSet.mem_ofList, List.mem_pair] at hother
    obtain rfl := hother.resolve_left hne
    exact ⟨by decide +kernel, by decide +kernel, by decide +kernel⟩
  have hdotted : Platform.standard.Dotted := by decide +kernel
  obtain ⟨symbols, hsymbols, -, hsame⟩ := resolveSimpleName_eq_resolveSymbol history {}
    .conventional {} ⟨"d"⟩ hdotted (by decide) (by decide) (by decide) hno honly
  exact ⟨hdotted, hno, honly, symbols, hsymbols, hsame.trans (by decide +kernel)⟩

end JavaDeps.Resolve
