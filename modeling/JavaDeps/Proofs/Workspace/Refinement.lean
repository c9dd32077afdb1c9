import JavaDeps.Proofs.Workspace.Owners
import Mathlib.Data.List.Induction

/-!
# The index answers as its history says

An index keeps two tables, of files and of owners, and changes both a little at a time. `Tracks`
says that they are right for a history: the files are those recorded, no directory is kept without a
file, and the owners of a type are the directories that declare it. **Every event keeps it**
(`Tracks.after`), so every index that some history leads to has it (`tracks_ofHistory`).

What the queries answer is read off `Tracks` alone; that they answer as if recomputed from the files
is `answers_ofHistory`.
-/

namespace JavaDeps.Workspace

/-- The tables of an index are right for a history: files have their last records, no directory is
there without files, and types are owned by the directories that declare them. -/
structure Tracks (index : Index) (history : List Event) : Prop where
  files : ∀ d path, (index.packages.get? d).bind (·.files.get? path) = recorded? history d path
  occupied : ∀ d p, index.packages.get? d = some p → ∃ path r, p.files.get? path = some r
  owners : ∀ d symbol, Owns index.owners d symbol ↔ Declares history d symbol

/-! ### What a package holds -/

namespace Package

/-- The facts of a package are those of its files. -/
theorem mem_facts {p : Package} {f : Java.Facts} :
    f ∈ p.facts ↔ ∃ path r, p.files.get? path = some r ∧ r.facts = f := by
  rw [facts, List.mem_map]
  constructor
  · rintro ⟨r, hr, rfl⟩
    obtain ⟨path, hpath⟩ := SortedMap.mem_values.1 hr
    exact ⟨path, r, hpath, rfl⟩
  · rintro ⟨path, r, hpath, rfl⟩
    exact ⟨r, SortedMap.mem_values.2 ⟨path, hpath⟩, rfl⟩

/-- A package declares what one of its files does. -/
theorem mem_declared {p : Package} {symbol : String} :
    symbol ∈ p.declared ↔
      ∃ path r, p.files.get? path = some r ∧ symbol ∈ r.facts.qualifiedTypes := by
  rw [declared, SortedSet.mem_ofList, List.mem_flatMap]
  constructor
  · rintro ⟨f, hf, hsymbol⟩
    obtain ⟨path, r, hr, rfl⟩ := mem_facts.1 hf
    exact ⟨path, r, hr, hsymbol⟩
  · rintro ⟨path, r, hr, hsymbol⟩
    exact ⟨r.facts, mem_facts.2 ⟨path, r, hr, rfl⟩, hsymbol⟩

/-- To record a file sets what is on record for its path, and for no other one. -/
theorem get?_files_record {p : Package} {path path' : Path} {r : FileRecord} {n : Nat} :
    (p.record path r n).files.get? path' =
      if path.same path' then some r else p.files.get? path' := by
  show (p.files.insert path r).get? path' = _
  rw [SortedMap.get?_insert, same_comm]
  simp only [same_iff_compare]

end Package

/-! ### Every event keeps the tables right -/

namespace Tracks

variable {index : Index} {history : List Event}

/-- The empty index tracks the history without events. -/
theorem empty : Tracks {} [] where
  files _ _ := rfl
  occupied _ _ h := by cases h
  owners d symbol := by
    constructor
    · exact fun h ↦ absurd h (not_owns_empty d symbol)
    · rintro ⟨r, ⟨path, hpath⟩, -⟩
      cases hpath

theorem get?_files_packageAt (h : Tracks index history) (d path : Path) :
    (index.packageAt d).files.get? path = recorded? history d path := by
  rw [← h.files, Index.packageAt]
  cases index.packages.get? d <;> rfl

theorem mem_declared_packageAt (h : Tracks index history) {d : Path} {symbol : String} :
    symbol ∈ (index.packageAt d).declared ↔ Declares history d symbol := by
  rw [Package.mem_declared, declares_iff]
  simp only [h.get?_files_packageAt]

/-- The files of a directory after a recording there. -/
theorem files_record (h : Tracks index history) (d path : Path) (r : FileRecord) (n : Nat)
    {e path' : Path} (hde : d.same e = true) :
    ((index.packageAt d).record path r n).files.get? path' =
      recorded? (history ++ [.record d path r]) e path' := by
  rw [Package.get?_files_record, h.get?_files_packageAt, recorded?_concat, Event.update,
    recorded?_congr history hde (q := path') (by simp [Path.same])]
  simp only [hde, true_and]

/-- A recording elsewhere leaves a directory as it was. -/
theorem recorded?_record_of_not_same {d e path path' : Path} {r : FileRecord}
    (hde : ¬ d.same e = true) :
    recorded? (history ++ [.record d path r]) e path' = recorded? history e path' := by
  rw [recorded?_concat, Event.update, if_neg fun h ↦ hde h.1]

/-- **To record a file tracks the history with one recording more.** -/
theorem record (h : Tracks index history) (d path : Path) (r : FileRecord) :
    Tracks (index.record d path r) (history ++ [.record d path r]) where
  files e path' := by
    show ((index.packages.insert d ((index.packageAt d).record path r (index.generation + 1))).get?
      e).bind (·.files.get? path') = _
    rw [SortedMap.get?_insert]
    by_cases hde : d.same e = true
    · rw [if_pos (same_iff_compare.1 (same_comm.trans hde)), Option.bind_some,
        h.files_record d path r _ hde]
    · rw [if_neg fun hcmp ↦ hde (same_comm.trans (same_iff_compare.2 hcmp)), h.files,
        recorded?_record_of_not_same hde]
  occupied e p hp := by
    change (index.packages.insert d _).get? e = some p at hp
    rw [SortedMap.get?_insert] at hp
    split at hp
    · obtain rfl := Option.some.inj hp
      exact ⟨path, r, by rw [Package.get?_files_record, if_pos (by simp [Path.same])]⟩
    · exact h.occupied e p hp
  owners e symbol := by
    have hdeclared : ∀ {e : Path}, d.same e = true →
        (Owns index.owners e symbol ↔ symbol ∈ (index.packageAt d).declared) := fun he ↦ by
      rw [h.owners, ← declares_congr history he, h.mem_declared_packageAt]
    rw [owns_record hdeclared]
    -- the directory owns what its files declare now; nothing changes for the others
    by_cases hde : d.same e = true
    · rw [if_pos hde, Package.mem_declared, declares_iff]
      simp only [h.files_record d path r _ hde]
    · rw [if_neg hde, h.owners]
      simp only [Declares, RecordedIn, recorded?_record_of_not_same hde]

/-- To clear an index tracks the history with one clearing more. -/
theorem clear : Tracks index.clear (history ++ [.clear]) where
  files d path := by rw [recorded?_concat]; rfl
  occupied _ _ h := by cases h
  owners d symbol := by
    constructor
    · exact fun h ↦ absurd h (not_owns_empty d symbol)
    · rintro ⟨r, ⟨path, hpath⟩, -⟩
      rw [recorded?_concat] at hpath
      cases hpath

theorem after (h : Tracks index history) (event : Event) :
    Tracks (index.after event) (history ++ [event]) := by
  cases event with
  | record d path r => exact h.record d path r
  | clear => exact clear

end Tracks

/-- **The tables of an index are right for the history that leads to it.** -/
theorem tracks_ofHistory (history : List Event) : Tracks (Index.ofHistory history) history := by
  induction history using List.reverseRecOn with
  | nil => exact .empty
  | append_singleton history event ih =>
    rw [Index.ofHistory_concat]
    exact ih.after event

/-! ### What the queries answer -/

/-- Of several listed paths, some is another than a given one. -/
theorem Lists.exists_other {listed : List Path} {kind : Path → Prop} (h : Lists listed kind)
    (hseveral : 1 < listed.length) (d : Path) : ∃ other, other.same d = false ∧ kind other := by
  obtain ⟨a, b, rest, rfl⟩ : ∃ a b rest, listed = a :: b :: rest := by
    match listed, hseveral with
    | a :: b :: rest, _ => exact ⟨a, b, rest, rfl⟩
  have hab : compare a b = .lt := (List.pairwise_cons.1 h.increasing).1 b List.mem_cons_self
  rcases had : a.same d with - | -
  · exact ⟨a, had, (h.mem_iff a).2 ⟨a, by simp, by simp [Path.same]⟩⟩
  · refine ⟨b, ?_, (h.mem_iff b).2 ⟨b, by simp, by simp [Path.same]⟩⟩
    -- if `b` were `d` too, `a` and `b` would be one path
    by_contra hbd
    have hsame : a.same b = true := by
      rw [same_trans had, same_comm]
      simpa using hbd
    rw [same_iff_compare.1 hsame] at hab
    cases hab

theorem lookup_eq_ambiguous_iff {index : Index} {symbol : String} {several : List Path} :
    index.lookup symbol = .ambiguous several ↔
      index.ownersOf symbol = several ∧ 1 < several.length := by
  rw [Index.lookup]
  rcases howners : index.ownersOf symbol with - | ⟨a, - | ⟨b, rest⟩⟩
  · simp only [reduceCtorEq, false_iff, not_and]
    rintro rfl
    simp
  · simp only [reduceCtorEq, false_iff, not_and]
    rintro rfl
    simp
  · simp only [Lookup.ambiguous.injEq, iff_self_and]
    rintro rfl
    simp

/-- The conflicts of a directory are its types with several owners. A directory without files has no
types. -/
theorem conflictsIn_eq (index : Index) (d : Path) :
    index.conflictsIn d = ((index.packageAt d).declared.toList.filter fun symbol ↦
      1 < (index.ownersOf symbol).length).map fun symbol ↦ (symbol, index.ownersOf symbol) := by
  rw [Index.conflictsIn, Index.packageAt]
  rcases index.packages.get? d with - | p
  · rfl
  · rw [Option.getD_some, ← List.filterMap_eq_map, List.filterMap_filter]
    simp only [decide_eq_true_iff]
    rfl

namespace Tracks

variable {index : Index} {history : List Event}

/-- A directory has a file on record just if its package has. -/
theorem recordedIn_iff (h : Tracks index history) {d : Path} {r : FileRecord} :
    RecordedIn history d r ↔
      ∃ p, index.packages.get? d = some p ∧ ∃ path, p.files.get? path = some r := by
  simp only [RecordedIn, ← h.files, Option.bind_eq_some_iff]
  constructor
  · rintro ⟨path, p, hp, hr⟩
    exact ⟨p, hp, path, hr⟩
  · rintro ⟨p, hp, path, hr⟩
    exact ⟨path, p, hp, hr⟩

theorem recordedIn_iff_of_get? (h : Tracks index history) {d : Path} {p : Package}
    (hp : index.packages.get? d = some p) {r : FileRecord} :
    RecordedIn history d r ↔ ∃ path, p.files.get? path = some r := by
  simp [h.recordedIn_iff, hp]

/-- **The owners of a type are the directories that declare it**, each once and in order. -/
theorem lists_ownersOf (h : Tracks index history) (symbol : String) :
    Lists (index.ownersOf symbol) (Declares history · symbol) where
  increasing := by
    rw [Index.ownersOf]
    rcases index.owners.get? symbol with - | ds
    · exact .nil
    · exact ds.increasing
  mem_iff d := by
    rw [← h.owners, Owns, Index.ownersOf]
    rcases index.owners.get? symbol with - | ds
    · simp
    · simp [SortedSet.contains_eq_true_iff, same_iff_compare, same_comm (q := d)]

/-- **A lookup says how many directories declare a type**, and which. -/
theorem isLookup (h : Tracks index history) (symbol : String) :
    IsLookup history symbol (index.lookup symbol) := by
  have hlists := h.lists_ownersOf symbol
  rw [Index.lookup]
  rcases howners : index.ownersOf symbol with - | ⟨a, - | ⟨b, rest⟩⟩
  · intro d hd
    rw [howners] at hlists
    obtain ⟨q, hq, -⟩ := (hlists.mem_iff d).1 hd
    exact absurd hq List.not_mem_nil
  · intro d
    rw [howners] at hlists
    simpa using hlists.mem_iff d
  · exact ⟨by simp, howners ▸ hlists⟩

/-- Conflicts are the types of a directory that others declare as well. -/
theorem isConflicts (h : Tracks index history) (d : Path) :
    IsConflicts history index.lookup d (index.conflictsIn d) := by
  rw [conflictsIn_eq]
  constructor
  · rw [List.map_map]
    have hnames : ((·.1) ∘ fun s ↦ (s, index.ownersOf s) : String → String) = id := rfl
    rw [hnames, List.map_id]
    exact (index.packageAt d).declared.increasing.filter _
  · intro symbol several
    rw [List.mem_map, lookup_eq_ambiguous_iff]
    simp only [List.mem_filter, ← SortedSet.mem_iff, h.mem_declared_packageAt, decide_eq_true_iff]
    constructor
    · rintro ⟨s, ⟨hs, hlong⟩, heq⟩
      obtain ⟨rfl, rfl⟩ := Prod.mk.inj heq
      exact ⟨hs, (h.lists_ownersOf s).exists_other hlong d, rfl, hlong⟩
    · rintro ⟨hs, -, rfl, hlong⟩
      exact ⟨symbol, ⟨hs, hlong⟩, rfl⟩

/-- A file is current just if its last recording has the same stamp. -/
theorem isCurrent_iff (h : Tracks index history) (d path : Path) (stamp : Stamp) :
    index.isCurrent d path stamp = true ↔
      ∃ r, recorded? history d path = some r ∧ r.stamp = stamp := by
  rw [← h.files, Index.isCurrent]
  rcases index.packages.get? d with - | p
  · simp
  · simp [Package.isCurrent, Option.any_eq_true]

/-- The directories of an index are those with a file on record. -/
theorem lists_directories (h : Tracks index history) :
    Lists index.directories fun d ↦ ∃ r, RecordedIn history d r where
  increasing := index.packages.keys_increasing
  mem_iff d := by
    have hkeys : (∃ q ∈ index.directories, q.same d = true) ↔
        ∃ q ∈ index.packages.keys, compare d q = .eq := by
      simp only [Index.directories, same_comm (q := d), same_iff_compare]
    rw [hkeys, ← SortedMap.isSome_get?, Option.isSome_iff_exists]
    constructor
    · rintro ⟨r, hr⟩
      obtain ⟨p, hp, -⟩ := h.recordedIn_iff.1 hr
      exact ⟨p, hp⟩
    · rintro ⟨p, hp⟩
      obtain ⟨path, r, hr⟩ := h.occupied d p hp
      exact ⟨r, h.recordedIn_iff.2 ⟨p, hp, path, hr⟩⟩

/-- An index knows no references of a directory without files on record. -/
theorem referenced?_eq_none_iff (h : Tracks index history) (d : Path) :
    index.referenced? d = none ↔ ¬ ∃ r, RecordedIn history d r := by
  rw [Index.referenced?, Option.map_eq_none_iff]
  constructor
  · rintro hnone ⟨r, hr⟩
    obtain ⟨p, hp, -⟩ := h.recordedIn_iff.1 hr
    rw [hnone] at hp
    cases hp
  · intro hno
    rcases hp : index.packages.get? d with - | p
    · rfl
    · obtain ⟨path, r, hr⟩ := h.occupied d p hp
      exact absurd ⟨r, h.recordedIn_iff.2 ⟨p, hp, path, hr⟩⟩ hno

/-- A fact about some file of a directory, said of the package that is kept for the directory. -/
theorem exists_facts_iff (h : Tracks index history) {d : Path} {p : Package}
    (hp : index.packages.get? d = some p) {P : Java.Facts → Prop} :
    (∃ f ∈ p.facts, P f) ↔ ∃ r, RecordedIn history d r ∧ P r.facts := by
  simp only [h.recordedIn_iff_of_get? hp, Package.mem_facts]
  constructor
  · rintro ⟨f, ⟨path, r, hr, rfl⟩, hf⟩
    exact ⟨r, ⟨path, hr⟩, hf⟩
  · rintro ⟨r, ⟨path, hr⟩, hf⟩
    exact ⟨r.facts, ⟨path, r, hr, rfl⟩, hf⟩

/-- The package of a directory is that of its first file. -/
theorem mainPackage_name (h : Tracks index history) {d : Path} {p : Package}
    (hp : index.packages.get? d = some p) :
    MainPackage history d p.name := by
  have hfiles : ∀ path, p.files.get? path = recorded? history d path := by
    intro path
    rw [← h.files, hp, Option.bind_some]
  obtain ⟨path₀, r₀, hr₀⟩ := h.occupied d p hp
  -- the name is read off the first entry, and the entries are in increasing order
  rcases hentries : p.files.entries with - | ⟨⟨path, r⟩, rest⟩
  · obtain ⟨k, hk, -⟩ := SortedMap.get?_eq_some_iff.1 hr₀
    rw [hentries] at hk
    exact absurd hk List.not_mem_nil
  · refine ⟨path, r, ?_, ?_, fun path' r' hr' ↦ ?_⟩
    · rw [← hfiles]
      exact SortedMap.get?_eq_some_iff.2
        ⟨path, by rw [hentries]; exact List.mem_cons_self, Std.ReflCmp.compare_self⟩
    · rw [Package.name, Package.facts, SortedMap.values, hentries]
      rfl
    · rw [← hfiles] at hr'
      obtain ⟨k, hk, hcmp⟩ := SortedMap.get?_eq_some_iff.1 hr'
      rw [Std.TransCmp.congr_right hcmp]
      have hinc := p.files.increasing
      rw [hentries] at hk hinc
      rcases List.mem_cons.1 hk with heq | hrest
      · obtain ⟨rfl, -⟩ := Prod.mk.inj heq
        rw [Std.ReflOrd.compare_self]
        rfl
      · rw [(List.pairwise_cons.1 hinc).1 _ hrest]
        rfl

/-- **What an index says that a directory refers to** is what the files on record refer to. -/
theorem isReferenced (h : Tracks index history) {d : Path} {symbols : ReferencedSymbols}
    (hsymbols : index.referenced? d = some symbols) : IsReferenced history d symbols := by
  rw [Index.referenced?, Option.map_eq_some_iff] at hsymbols
  obtain ⟨p, hp, rfl⟩ := hsymbols
  have hdeclared : ∀ symbol, symbol ∈ p.declared ↔ Declares history d symbol := by
    intro symbol
    rw [← h.mem_declared_packageAt, Index.packageAt, hp, Option.getD_some]
  constructor
  · exact h.mainPackage_name hp
  · intro name
    rw [OwnPackage, ← h.exists_facts_iff hp (P := fun f ↦ f.package = name), Package.referenced,
      SortedSet.mem_ofList, List.mem_map]
  · intro symbol
    rw [NamesInFull,
      ← h.exists_facts_iff hp (P := fun f ↦ symbol ∈ f.imports ∨ symbol ∈ f.qualifiedReferences),
      Package.referenced, SortedSet.mem_ofList, List.mem_flatMap]
    simp only [List.mem_append, SortedSet.mem_iff]
  · intro name
    rw [NamesSimply, ← h.exists_facts_iff hp (P := fun f ↦ name ∈ f.simpleNames ∧
      ¬ Declares history d (f.qualify name)), Package.referenced, SortedSet.mem_ofList,
      List.mem_flatMap]
    simp only [List.mem_filter, ← SortedSet.mem_iff, ← hdeclared, Bool.not_eq_true',
      ← Bool.not_eq_true, SortedSet.contains_iff]
  · intro name
    rw [WildcardPackage, ← h.exists_facts_iff hp (P := fun f ↦ name ∈ f.wildcardImports),
      Package.referenced, SortedSet.mem_ofList, List.mem_flatMap]
    simp only [SortedSet.mem_iff]
  · intro symbol
    rw [NamesInLiteral, ← h.exists_facts_iff hp (P := fun f ↦ symbol ∈ f.reflectiveReferences),
      Package.referenced, SortedSet.mem_ofList, List.mem_flatMap]
    simp only [SortedSet.mem_iff]

end Tracks

/-- **The index refines its history.** Whatever files were recorded in whatever order and however
often everything was forgotten, every query answers as if recomputed from the last records. -/
theorem answers_ofHistory (history : List Event) : Answers (Index.ofHistory history) history where
  lookup := (tracks_ofHistory history).isLookup
  conflicts := (tracks_ofHistory history).isConflicts
  current := (tracks_ofHistory history).isCurrent_iff
  directories := (tracks_ofHistory history).lists_directories
  absent := (tracks_ofHistory history).referenced?_eq_none_iff
  referenced _ _ := (tracks_ofHistory history).isReferenced

end JavaDeps.Workspace
