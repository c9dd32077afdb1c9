import JavaDeps.Proofs.Sorted.Membership
import JavaDeps.Workspace.Index

/-!
# What a history of recordings amounts to

The index of a workspace is changed by two events: a file is recorded, or everything is forgotten. A
history of such events amounts to one finite table, `recorded?`: for a directory and a file, the
record that came last since everything was forgotten. **Nothing else of the history counts.** The
queries of the index have their meaning in that table alone, and this module says which, without
looking at an index.

Directories and files are compared by their components. A query that lists directories may spell
each of them in any way, so `Lists` speaks of spellings.
-/

namespace JavaDeps.Workspace

/-! ### Paths up to spelling -/

theorem same_iff_compare {p q : Path} : p.same q = true ↔ compare p q = .eq := by
  rw [Path.compare_eq_iff, Path.same, beq_iff_eq]

theorem same_comm {p q : Path} : p.same q = q.same p := by
  simp only [Path.same, Bool.beq_comm]

theorem same_trans {p q r : Path} (h : p.same q = true) : p.same r = q.same r := by
  rw [Path.same, Path.same, beq_iff_eq.1 h]

/-! ### Events -/

/-- What can happen to an index. A history is a list of events, the first one first. -/
inductive Event where
  /-- A file is recorded in a directory. -/
  | record (directory path : Path) (r : FileRecord)
  /-- All recordings are forgotten. -/
  | clear

/-- The index after an event, which is what the program does to it. -/
def Index.after (index : Index) : Event → Index
  | .record directory path r => index.record directory path r
  | .clear => index.clear

/-- The index to which a history leads, from the empty one. -/
def Index.ofHistory (history : List Event) : Index :=
  history.foldl Index.after {}

/-! ### The table -/

/-- What is recorded of a file after an event, given what was recorded of it before. -/
def Event.update (directory path : Path) (known : Option FileRecord) : Event → Option FileRecord
  | .record d p r => if d.same directory ∧ p.same path then some r else known
  | .clear => none

/-- What is recorded of a file at the end of a history: its last recording, unless the index was
cleared after it. This is the table that an index is measured by. -/
def recorded? (history : List Event) (directory path : Path) : Option FileRecord :=
  history.foldl (Event.update directory path) none

/-- Whether some file of a directory has the record at the end of a history. -/
def RecordedIn (history : List Event) (directory : Path) (r : FileRecord) : Prop :=
  ∃ path, recorded? history directory path = some r

/-- Whether some file of a directory declares a type, named in full, by its last record. -/
def Declares (history : List Event) (directory : Path) (symbol : String) : Prop :=
  ∃ r, RecordedIn history directory r ∧ symbol ∈ r.facts.qualifiedTypes

/-- Whether some file of a directory is in a package, by its last record. -/
def OwnPackage (history : List Event) (directory : Path) (package : String) : Prop :=
  ∃ r, RecordedIn history directory r ∧ r.facts.package = package

/-- Whether the first file of a directory, in order of paths, is in a package. -/
def MainPackage (history : List Event) (directory : Path) (package : String) : Prop :=
  ∃ path r, recorded? history directory path = some r ∧ r.facts.package = package ∧
    ∀ path' r', recorded? history directory path' = some r' → (compare path path').isLE

/-- Whether some file of a directory imports a package whole, by its last record. -/
def WildcardPackage (history : List Event) (directory : Path) (package : String) : Prop :=
  ∃ r, RecordedIn history directory r ∧ package ∈ r.facts.wildcardImports

/-- Whether some file of a directory names a symbol in full, by an import or in its body. -/
def NamesInFull (history : List Event) (directory : Path) (symbol : String) : Prop :=
  ∃ r, RecordedIn history directory r ∧
    (symbol ∈ r.facts.imports ∨ symbol ∈ r.facts.qualifiedReferences)

/-- Whether some file of a directory uses a simple name that the directory does not declare in the
package of that file. -/
def NamesSimply (history : List Event) (directory : Path) (name : String) : Prop :=
  ∃ r, RecordedIn history directory r ∧ name ∈ r.facts.simpleNames ∧
    ¬ Declares history directory (r.facts.qualify name)

/-- Whether some file of a directory names a class in a string literal. -/
def NamesInLiteral (history : List Event) (directory : Path) (symbol : String) : Prop :=
  ∃ r, RecordedIn history directory r ∧ symbol ∈ r.facts.reflectiveReferences

/-! ### What the queries mean -/

/-- A list that spells each path of a kind once, in increasing order, and no other path. -/
structure Lists (listed : List Path) (kind : Path → Prop) : Prop where
  increasing : listed.Pairwise (fun p q ↦ compare p q = .lt)
  mem_iff : ∀ p, kind p ↔ ∃ q ∈ listed, q.same p

/-- The answer to the question who declares a type: nobody, one directory, or several. -/
def IsLookup (history : List Event) (symbol : String) : Lookup → Prop
  | .missing => ∀ d, ¬ Declares history d symbol
  | .found owner => ∀ d, Declares history d symbol ↔ owner.same d
  | .ambiguous several => 1 < several.length ∧ Lists several (Declares history · symbol)

/-- The types that a directory and some other one declare, in increasing order, each with the answer
to the question who declares it. -/
structure IsConflicts (history : List Event) (lookup : String → Lookup) (directory : Path)
    (conflicts : List (String × List Path)) : Prop where
  increasing : (conflicts.map (·.1)).Pairwise (fun s t ↦ compare s t = .lt)
  mem_iff : ∀ symbol several, (symbol, several) ∈ conflicts ↔
    Declares history directory symbol ∧
      (∃ other, other.same directory = false ∧ Declares history other symbol) ∧
      lookup symbol = .ambiguous several

/-- What the files of a directory refer to, taken together: each field of it has what some file has
there, and nothing else. -/
structure IsReferenced (history : List Event) (directory : Path) (symbols : ReferencedSymbols) :
    Prop where
  package : MainPackage history directory symbols.package
  packages : ∀ name, name ∈ symbols.packages ↔ OwnPackage history directory name
  qualified : ∀ symbol, symbol ∈ symbols.qualified ↔ NamesInFull history directory symbol
  simpleNames : ∀ name, name ∈ symbols.simpleNames ↔ NamesSimply history directory name
  wildcardPackages : ∀ name,
    name ∈ symbols.wildcardPackages ↔ WildcardPackage history directory name
  reflective : ∀ symbol, symbol ∈ symbols.reflective ↔ NamesInLiteral history directory symbol

/-- **All queries of an index answer as the table says**: lookups, conflicts, whether a file is
current, the directories, and what these refer to. -/
structure Answers (index : Index) (history : List Event) : Prop where
  lookup : ∀ symbol, IsLookup history symbol (index.lookup symbol)
  conflicts : ∀ d, IsConflicts history index.lookup d (index.conflictsIn d)
  current : ∀ d path stamp, index.isCurrent d path stamp = true ↔
    ∃ r, recorded? history d path = some r ∧ r.stamp = stamp
  directories : Lists index.directories fun d ↦ ∃ r, RecordedIn history d r
  absent : ∀ d, index.referenced? d = none ↔ ¬ ∃ r, RecordedIn history d r
  referenced : ∀ d symbols, index.referenced? d = some symbols → IsReferenced history d symbols

/-- A directory declares what the last record of one of its files has. -/
theorem declares_iff {history : List Event} {directory : Path} {symbol : String} :
    Declares history directory symbol ↔ ∃ path r,
      recorded? history directory path = some r ∧ symbol ∈ r.facts.qualifiedTypes := by
  constructor
  · rintro ⟨r, ⟨path, hr⟩, hs⟩
    exact ⟨path, r, hr, hs⟩
  · rintro ⟨path, r, hr, hs⟩
    exact ⟨r, ⟨path, hr⟩, hs⟩

/-! ### Histories that go on -/

theorem Index.ofHistory_concat (history : List Event) (event : Event) :
    Index.ofHistory (history ++ [event]) = (Index.ofHistory history).after event := by
  simp [Index.ofHistory]

theorem recorded?_concat (history : List Event) (event : Event) (directory path : Path) :
    recorded? (history ++ [event]) directory path =
      event.update directory path (recorded? history directory path) := by
  simp [recorded?]

/-! ### The table does not know spellings -/

/-- What is recorded does not depend on how the paths are spelled. -/
theorem recorded?_congr (history : List Event) {d e p q : Path} (hde : d.same e = true)
    (hpq : p.same q = true) : recorded? history d p = recorded? history e q := by
  have hupdate : Event.update d p = Event.update e q := by
    funext known event
    cases event with
    | record d' p' r =>
      simp only [Event.update, same_comm (p := d'), same_comm (p := p'), same_trans hde,
        same_trans hpq]
    | clear => rfl
  rw [recorded?, recorded?, hupdate]

theorem declares_congr (history : List Event) {d e : Path} {symbol : String}
    (hde : d.same e = true) : Declares history d symbol ↔ Declares history e symbol := by
  have hrecorded : ∀ path, recorded? history d path = recorded? history e path := fun path ↦
    recorded?_congr history hde (by simp [Path.same])
  simp only [Declares, RecordedIn, hrecorded]

/-- The main package is a package of the directory. -/
theorem MainPackage.ownPackage {history : List Event} {d : Path} {package : String}
    (h : MainPackage history d package) : OwnPackage history d package := by
  obtain ⟨path, r, hr, hpackage, -⟩ := h
  exact ⟨r, ⟨path, hr⟩, hpackage⟩

/-- The first file of a directory is one file, however it is spelled. -/
theorem MainPackage.unique {history : List Event} {d : Path} {a b : String}
    (ha : MainPackage history d a) (hb : MainPackage history d b) : a = b := by
  obtain ⟨p, r, hp, rfl, hfirst⟩ := ha
  obtain ⟨q, s, hq, rfl, hfirst'⟩ := hb
  have hpq : p.same q = true :=
    same_iff_compare.2 (Std.OrientedCmp.isLE_antisymm (hfirst q s hq) (hfirst' p r hp))
  rw [recorded?_congr history (e := d) (by simp [Path.same]) hpq, hq] at hp
  rw [Option.some.inj hp]

end JavaDeps.Workspace
