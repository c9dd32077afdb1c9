import JavaDeps.Proofs.Java.ImportStatement
import JavaDeps.Proofs.Java.QualifiedNames
import JavaDeps.Proofs.Resolve.Exactness

/-!
# Imported types are compile dependencies

From the text of an import to the label in the build file: **a source that imports a type of another
directory makes that directory a compile dependency of its own**. The import may name the type, a
type nested in it, all that is nested in it, or a static member; it may stand anywhere outside
braces. What else is recorded does not matter, as long as no third directory declares the type.
-/

namespace JavaDeps

namespace Java

/-- The imports that lead to a type, whose segments are given: of the type itself, of what is
nested in it by name, of all that is nested in it, of a static member by name, and of all static
members. -/
inductive ImportsType (type : List String) : Import → Prop
  | itself : ImportsType type ⟨false, ⟨type, false⟩⟩
  | nested (names : List String) (h : names ≠ []) : ImportsType type ⟨false, ⟨type ++ names, false⟩⟩
  | allNested : ImportsType type ⟨false, ⟨type, true⟩⟩
  | member (name : String) : ImportsType type ⟨true, ⟨type ++ [name], false⟩⟩
  | allMembers : ImportsType type ⟨true, ⟨type, true⟩⟩

section

variable {package : List String} {type : String}

/-- The first capitalised segment ends the name of a top-level type, whatever follows it. -/
theorem topLevelType_append (hpackage : ∀ s ∈ package, isCapitalized s = false)
    (htype : isCapitalized type = true) (names : List String) :
    topLevelType (package ++ type :: names) = dotted (package ++ [type]) := by
  rw [topLevelType, upToType_append hpackage htype]

/-- Every import that leads to a type brings that type into scope. -/
theorem ImportsType.type?_eq (hpackage : ∀ s ∈ package, isCapitalized s = false)
    (htype : isCapitalized type = true) {i : Import} (h : ImportsType (package ++ [type]) i) :
    i.type? = some (dotted (package ++ [type])) := by
  have htop : ∀ names, topLevelType (package ++ type :: names) = dotted (package ++ [type]) :=
    topLevelType_append hpackage htype
  cases h with
  | itself => simp [Import.type?, Import.target?, htop]
  | nested names hnames => simp [Import.type?, Import.target?, htop]
  | allNested => simp [Import.type?, Import.target?, htop, htype]
  | member name => simp [Import.type?, Import.target?, htop]
  | allMembers => simp [Import.type?, Import.target?, htop]

theorem ImportsType.segments_ne_nil {i : Import} (h : ImportsType (package ++ [type]) i) :
    i.path.segments ≠ [] := by
  cases h <;> simp

/-- The name of a type as it is imported is its name in its package. -/
theorem dotted_concat (hpackage : dotted package ≠ "") :
    dotted (package ++ [type]) = qualify (dotted package) type := by
  have hne : package ≠ [] := by
    rintro rfl
    exact hpackage rfl
  rw [qualify, if_neg (by simpa using hpackage), dotted, dotted,
    String.intercalate_append_of_ne_nil hne (List.cons_ne_nil _ _), String.intercalate_singleton]

end

end Java

namespace Resolve

open Workspace (Declares Event Index recorded?)
open Java (Facts HoldsImport Import ImportsType dotted isCapitalized qualify scan)

/-- Whether a unit needs a label to compile: it lists the label once, and not among those that it
needs only to run. -/
structure UnitResolution.NeedsToCompile (unit : UnitResolution) (label : Label) : Prop where
  count_deps : unit.deps.count label = 1
  not_mem_runtimeDeps : label ∉ unit.runtimeDeps

/-- A label that some reference finds as a compile dependency is listed once, and not to run
only. -/
theorem HasLabels.needsToCompile {found : Label → Classification → Prop} {unit : UnitResolution}
    (h : HasLabels found unit) {label : Label} (hfound : found label .compile) :
    unit.NeedsToCompile label := by
  have hmem : label ∈ unit.deps := (h.mem_deps label).2 hfound
  have hnodup : unit.deps.Nodup := h.deps_increasing.imp ne_of_compare_eq_lt
  exact ⟨List.count_eq_one_of_mem hnodup hmem, h.disjoint label hmem⟩

/-- A type that one directory alone declares is found there. -/
theorem lookup_eq_found {history : List Event} {directory : Path} {symbol : String}
    (hdeclares : Declares history directory symbol)
    (honly : ∀ d, Declares history d symbol → d.same directory = true) :
    ∃ owner, (Index.ofHistory history).lookup symbol = .found owner ∧
      owner.same directory = true := by
  have hlookup := (Workspace.tracks_ofHistory history).isLookup symbol
  cases h : (Index.ofHistory history).lookup symbol with
  | missing =>
    rw [h] at hlookup
    exact absurd hdeclares (hlookup directory)
  | found owner =>
    rw [h] at hlookup
    exact ⟨owner, rfl, (hlookup directory).1 hdeclares⟩
  | ambiguous several =>
    rw [h] at hlookup
    obtain ⟨other, hother, hdeclares'⟩ := hlookup.2.exists_other hlookup.1 directory
    rw [honly other hdeclares'] at hother
    cases hother

/-- Labels by convention depend on the directory alone. -/
theorem LabelScheme.conventional_congr {d e : Path} (h : d.same e = true) :
    LabelScheme.conventional d = LabelScheme.conventional e := by
  rw [conventional, conventional, beq_iff_eq.1 h]

/-- Whether a directory has the facts of a source on record, under whichever path and stamp. -/
def Scanned (history : List Event) (directory : Path) (source : String) (facts : Facts) : Prop :=
  scan source = .ok facts ∧ ∃ path stamp, recorded? history directory path = some ⟨stamp, facts⟩

/-- **An imported type is a compile dependency.** A source in `declaring` declares a type of a
package, a source in `importing` holds an import that leads to it, and no other directory declares
it. Then the unit of `importing` needs the label of the declaring directory to compile. The index
knows that directory under one of its spellings, so a label that depends on nothing but the
directory is the label of `declaring`. -/
theorem needsToCompile_of_importsType (history : List Event) (classes : Maven.ClassIndex)
    (labels : LabelScheme) (options : Options) (kind : UnitKind)
    {declaring importing : Path} {source₁ source₂ : String} {facts₁ facts₂ : Facts}
    {package : List String} {type : String} {i : Import}
    (hpackage : dotted package ≠ "") (hlower : ∀ s ∈ package, isCapitalized s = false)
    (htype : isCapitalized type = true) (hdirectories : declaring.same importing = false)
    (hscanned₁ : Scanned history declaring source₁ facts₁) (hin : facts₁.package = dotted package)
    (hdeclared : type ∈ facts₁.declaredTypes) (hscanned₂ : Scanned history importing source₂ facts₂)
    (hi : ImportsType (package ++ [type]) i) (himport : HoldsImport source₂ i)
    (honly : ∀ d, Declares history d (qualify (dotted package) type) → d.same declaring = true) :
    let r : Resolver := { index := .ofHistory history, classes, labels, options }
    let unit := r.resolveUnit importing kind
    (∃ owner, r.index.lookup (qualify (dotted package) type) = .found owner ∧
      owner.same declaring = true ∧ unit.NeedsToCompile (labels owner)) ∧
    ((∀ d, d.same declaring = true → labels d = labels declaring) →
      unit.NeedsToCompile (labels declaring)) := by
  intro r unit
  obtain ⟨-, path₁, stamp₁, hrecorded₁⟩ := hscanned₁
  obtain ⟨hscan₂, path₂, stamp₂, hrecorded₂⟩ := hscanned₂
  have hdeclares : Declares history declaring (qualify (dotted package) type) :=
    ⟨_, ⟨path₁, hrecorded₁⟩, List.mem_map.2 ⟨type, hdeclared, by rw [Facts.qualify, hin]⟩⟩
  obtain ⟨owner, hlookup, hsame⟩ := lookup_eq_found hdeclares honly
  have hother : owner.same importing = false := by rw [Workspace.same_trans hsame, hdirectories]
  have hnamed : qualify (dotted package) type ∈ facts₂.imports := by
    rw [← Java.dotted_concat hpackage]
    exact (himport.mem_facts hi.segments_ne_nil hscan₂).1 _ (hi.type?_eq hlower htype)
  have hrefers : Refers history options.runtime.reflection importing
      (.qualified (qualify (dotted package) type)) :=
    .qualified ⟨_, ⟨path₂, hrecorded₂⟩, .inl hnamed⟩
  have hneeds : unit.NeedsToCompile (labels owner) :=
    (Resolver.hasLabels_resolveUnit rfl kind).needsToCompile
      ⟨_, hrefers, Resolver.settles_of_decidedBy .qualified hlookup hother⟩
  refine ⟨⟨owner, hlookup, hsame, hneeds⟩, fun hlabels ↦ ?_⟩
  rw [← hlabels owner hsame]
  exact hneeds

/-- The import of a nested type, after a package statement. -/
theorem needsToCompile_of_nested_import :
    let declared : Facts := { package := "a", declaredTypes := ["C"] }
    let imported : Facts := { package := "b", declaredTypes := ["X"], imports := .ofList ["a.C"] }
    let history : List Event :=
      [.record ⟨"a"⟩ ⟨"a/C.java"⟩ ⟨⟨[]⟩, declared⟩, .record ⟨"b"⟩ ⟨"b/X.java"⟩ ⟨⟨[]⟩, imported⟩]
    let r : Resolver := { index := .ofHistory history }
    (r.resolveUnit ⟨"b"⟩ .library).NeedsToCompile (LabelScheme.conventional ⟨"a"⟩) := by
  intro declared imported history r
  have hscanned₁ : Scanned history ⟨"a"⟩ "package a; class C \x7b\x7d" declared :=
    ⟨by decide +kernel, ⟨"a/C.java"⟩, ⟨[]⟩, by decide +kernel⟩
  have hscanned₂ : Scanned history ⟨"b"⟩ "package b; import a.C.N; class X \x7b\x7d" imported :=
    ⟨by decide +kernel, ⟨"b/X.java"⟩, ⟨[]⟩, by decide +kernel⟩
  have himport : HoldsImport "package b; import a.C.N; class X \x7b\x7d"
      ⟨false, ⟨["a"] ++ ["C"] ++ ["N"], false⟩⟩ :=
    ⟨[⟨.packageWord, "package", 0⟩, ⟨.identifier, "b", 8⟩, ⟨.semicolon, ";", 9⟩],
      [⟨.importWord, "import", 11⟩, ⟨.identifier, "a", 18⟩, ⟨.dot, ".", 19⟩, ⟨.identifier, "C", 20⟩,
        ⟨.dot, ".", 21⟩, ⟨.identifier, "N", 22⟩, ⟨.semicolon, ";", 23⟩],
      [⟨.classWord, "class", 25⟩, ⟨.identifier, "X", 31⟩, ⟨.openBrace, "\x7b", 33⟩,
        ⟨.closeBrace, "\x7d", 34⟩], by decide +kernel, by decide, by decide⟩
  have honly : ∀ d, Declares history d (qualify (dotted ["a"]) "C") → d.same ⟨"a"⟩ = true := by
    rintro d ⟨record, ⟨path, hrecorded⟩, htype⟩
    rw [recorded?, List.foldl_cons, List.foldl_cons, List.foldl_nil, Event.update,
      Event.update] at hrecorded
    split at hrecorded
    · rw [← Option.some.inj hrecorded] at htype
      exact absurd htype (by decide +kernel)
    · split at hrecorded
      · next h => rw [Workspace.same_comm, h.1]
      · cases hrecorded
  exact (needsToCompile_of_importsType history {} .conventional {} .library (by decide +kernel)
    (by decide +kernel) (by decide +kernel) (by decide +kernel) hscanned₁ (by decide +kernel)
    (by decide +kernel) hscanned₂ (.nested ["N"] (List.cons_ne_nil _ _)) himport honly).2
    fun d hd ↦ LabelScheme.conventional_congr hd

end Resolve

end JavaDeps
