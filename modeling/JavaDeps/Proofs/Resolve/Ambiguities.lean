import JavaDeps.Proofs.Resolve.Exactness

/-!
# The ambiguities of a unit

A unit reports the references that several providers answer, and then the types that it declares
together with another directory, unless one of the references brought up the symbol already
(`mem_ambiguities_iff`). **The workspace alone decides how a symbol is reported**: the directories
that declare it, if there are several, and otherwise a kind of ambiguity that no conflict has
(`LeavesOpen.fitsWorkspace`). So a conflict is never hidden by a report of another kind, and no
provider is picked for its symbol (`conflict_reported`).
-/

namespace JavaDeps.Resolve

open Workspace (Event Index Declares Lists NamesInFull)
open Java (Reference qualify)

/-! ### Adding conflicts -/

/-- Conflicts of different symbols are added after what is known, except where that has the
symbol. -/
theorem Resolver.addConflicts_eq {conflicts : List (String × List Path)}
    (h : (conflicts.map (·.1)).Nodup) (known : List Ambiguity) :
    addConflicts known conflicts = known ++
      (conflicts.filter fun c ↦ known.all (·.symbol != c.1)).map fun c ↦
        ⟨c.1, .localDeclaration c.2⟩ := by
  induction conflicts generalizing known with
  | nil => simp [addConflicts]
  | cons c conflicts ih =>
    obtain ⟨symbol, ds⟩ := c
    obtain ⟨hsymbol, hrest⟩ := List.nodup_cons.1 h
    rw [addConflicts, List.foldl_cons, ← addConflicts, ih hrest, List.filter_cons]
    dsimp only
    split
    · -- what was just added has another symbol than all conflicts to come
      have hsame : ∀ c ∈ conflicts,
          (known ++ [Ambiguity.mk symbol (.localDeclaration ds)]).all (·.symbol != c.1) =
            known.all (·.symbol != c.1) := fun c hc ↦ by
        have hne : symbol ≠ c.1 := fun heq ↦ hsymbol (List.mem_map.2 ⟨c, hc, heq.symm⟩)
        simp [hne]
      rw [List.filter_congr hsame, List.map_cons, List.append_assoc, List.singleton_append]
    · rfl

namespace Resolver

variable {r : Resolver} {history : List Event} {directory : Path}

/-! ### References left open -/

/-- Whether several providers answer a reference of a directory, and which ambiguity is to be
reported for it. -/
def LeavesOpen (r : Resolver) (history : List Event) (directory : Path) (ref : Reference)
    (a : Ambiguity) : Prop :=
  Refers history r.options.runtime.reflection directory ref ∧
    Settles r history directory ref (.ambiguous a)

/-- An outcome is reported as an ambiguity just if it is one. -/
theorem ambiguity?_eq_some_iff {outcome : String × Outcome} {a : Ambiguity} :
    ambiguity? outcome = some a ↔ outcome.2 = .ambiguous a := by
  obtain ⟨symbol, o⟩ := outcome
  constructor
  · intro h
    cases o with
    | ambiguous a' => exact congrArg _ (Option.some.inj h)
    | found label c => cases h
    | own => cases h
    | builtin => cases h
    | unresolved => cases h
  · rintro rfl
    rfl

/-- What is reported are the ambiguities among the outcomes. -/
theorem mem_filterMap_ambiguity? {outcomes : List (String × Outcome)} {a : Ambiguity} :
    a ∈ outcomes.filterMap ambiguity? ↔ ∃ symbol, (symbol, .ambiguous a) ∈ outcomes := by
  rw [List.mem_filterMap]
  constructor
  · rintro ⟨⟨symbol, o⟩, hmem, ha⟩
    obtain rfl := ambiguity?_eq_some_iff.1 ha
    exact ⟨symbol, hmem⟩
  · rintro ⟨symbol, hmem⟩
    exact ⟨_, hmem, rfl⟩

/-- What the references of a directory bring up, before conflicts are added: one ambiguity for each
reference that ends in one. -/
def openAmbiguities (r : Resolver) (directory : Path) : List Ambiguity :=
  (r.outcomes directory ((r.index.referenced? directory).getD {})).filterMap ambiguity?

/-- **The open ambiguities are those in which a reference ends.** -/
theorem mem_openAmbiguities_iff (hindex : r.index = Index.ofHistory history) {a : Ambiguity} :
    a ∈ r.openAmbiguities directory ↔ ∃ ref, r.LeavesOpen history directory ref a := by
  rw [openAmbiguities, mem_filterMap_ambiguity?]
  simp only [mem_outcomes_ofHistory_iff hindex]
  constructor
  · rintro ⟨symbol, ref, hrefers, -, hsettles⟩
    exact ⟨ref, hrefers, hsettles⟩
  · rintro ⟨ref, hrefers, hsettles⟩
    obtain ⟨symbol, hreported⟩ := exists_reportedAs hrefers
    exact ⟨symbol, ref, hrefers, hreported, hsettles⟩

/-- Whether an ambiguity is of the kind that its symbol has in the workspace: it lists the
directories that declare the symbol, if there are several, and is of another kind if there are
none. -/
def FitsWorkspace (r : Resolver) (a : Ambiguity) : Prop :=
  (∃ ds, r.index.lookup a.symbol = .ambiguous ds ∧ a.kind = .localDeclaration ds) ∨
    r.index.lookup a.symbol = .missing ∧ ∀ ds, a.kind ≠ .localDeclaration ds

theorem fitsWorkspace_of_inWorkspace {symbol : String} {a : Ambiguity}
    (h : InWorkspace r directory symbol (.ambiguous a)) : r.FitsWorkspace a := by
  cases h with
  | several hlookup => exact .inl ⟨_, hlookup, rfl⟩

/-- An ambiguity that comes from either index fits the workspace. -/
theorem fitsWorkspace_of_indexed {usage : Usage} {symbol : String} {a : Ambiguity}
    (h : Indexed r directory usage symbol (.ambiguous a)) : r.FitsWorkspace a := by
  cases h with
  | workspace hin => exact fitsWorkspace_of_inWorkspace hin
  | lockFile hmissing hin =>
    cases hin with
    | several _ => exact .inr ⟨hmissing, fun ds ↦ nofun⟩

/-- **How a symbol is reported tells whether the workspace declares it.** -/
theorem LeavesOpen.fitsWorkspace {ref : Reference} {a : Ambiguity}
    (h : r.LeavesOpen history directory ref a) : r.FitsWorkspace a := by
  cases h.2 with
  | qualified hsettles =>
    cases hsettles with
    | indexed hin => exact fitsWorkspace_of_indexed hin
  | reflective hsettles =>
    cases hsettles with
    | indexed hin => exact fitsWorkspace_of_indexed hin
  | simple hsettles =>
    cases hsettles with
    | own _ hin => exact fitsWorkspace_of_inWorkspace hin
    | wildcard _ hin => exact fitsWorkspace_of_indexed hin
    | wildcards hno hmain _ _ _ =>
      -- the packages of the directory were asked first, the main one among them
      exact .inr ⟨hno _ hmain.ownPackage, fun ds ↦ nofun⟩

/-- A symbol that is ambiguous in the workspace is so in one way. -/
theorem FitsWorkspace.eq_of_lookup {a : Ambiguity} {ds : List Path} (h : r.FitsWorkspace a)
    (hlookup : r.index.lookup a.symbol = .ambiguous ds) :
    a = ⟨a.symbol, .localDeclaration ds⟩ := by
  obtain ⟨symbol, kind⟩ := a
  rcases h with ⟨ds', hlookup', hkind⟩ | ⟨hmissing, -⟩
  · rw [hlookup] at hlookup'
    obtain rfl := Workspace.Lookup.ambiguous.inj hlookup'
    exact congrArg _ hkind
  · rw [hlookup] at hmissing
    cases hmissing

/-! ### The report -/

theorem conflicts_nodup (hindex : r.index = Index.ofHistory history) (directory : Path) :
    ((r.index.conflictsIn directory).map (·.1)).Nodup := by
  have hconflicts := (Workspace.answers_ofHistory history).conflicts directory
  rw [← hindex] at hconflicts
  exact hconflicts.increasing.imp ne_of_compare_eq_lt

/-- The conflicts of a directory that no reference of it brings up. These are the ones that are
added to its report. -/
def quietConflicts (r : Resolver) (directory : Path) : List (String × List Path) :=
  (r.index.conflictsIn directory).filter fun c ↦
    (r.openAmbiguities directory).all (·.symbol != c.1)

/-- The report lists what references bring up, and the conflicts that they do not. -/
theorem ambiguities_perm (hindex : r.index = Index.ofHistory history) (kind : UnitKind) :
    (r.resolveUnit directory kind).report.ambiguities.Perm
      (r.openAmbiguities directory ++ (r.quietConflicts directory).map fun c ↦
        ⟨c.1, .localDeclaration c.2⟩) := by
  rw [quietConflicts, ← addConflicts_eq (conflicts_nodup hindex directory)]
  exact List.mergeSort_perm _ _

/-- **What a report has as ambiguities**: those in which references end, and the conflicts of other
symbols. -/
theorem mem_ambiguities_iff (hindex : r.index = Index.ofHistory history) (kind : UnitKind)
    {a : Ambiguity} :
    a ∈ (r.resolveUnit directory kind).report.ambiguities ↔
      (∃ ref, r.LeavesOpen history directory ref a) ∨
        ∃ symbol ds, (symbol, ds) ∈ r.index.conflictsIn directory ∧
          (∀ ref a', r.LeavesOpen history directory ref a' → a'.symbol ≠ symbol) ∧
          a = ⟨symbol, .localDeclaration ds⟩ := by
  rw [(ambiguities_perm hindex kind).mem_iff, List.mem_append, mem_openAmbiguities_iff hindex,
    List.mem_map]
  have hquiet : ∀ c : String × List Path, c ∈ r.quietConflicts directory ↔
      c ∈ r.index.conflictsIn directory ∧
        ∀ ref a', r.LeavesOpen history directory ref a' → a'.symbol ≠ c.1 := by
    intro c
    rw [quietConflicts, List.mem_filter, List.all_eq_true]
    simp only [mem_openAmbiguities_iff hindex, bne_iff_ne, forall_exists_index]
    exact and_congr_right fun _ ↦ forall_comm
  simp only [hquiet, Prod.exists, and_assoc, eq_comm]

/-- **Ambiguities are reported in order of their symbols.** -/
theorem ambiguities_ordered (r : Resolver) (directory : Path) (kind : UnitKind) :
    (r.resolveUnit directory kind).report.ambiguities.Pairwise fun a b ↦
      (compare a.symbol b.symbol).isLE = true :=
  pairwise_mergeSort_isLE (compareOn Ambiguity.symbol) _

/-! ### Conflicts -/

/-- A reference that finds a label is decided by a symbol with one provider. -/
theorem exists_decidedBy_of_found {ref : Reference} {label : Label} {c : Classification}
    (h : Settles r history directory ref (.found label c)) :
    ∃ symbol, DecidedBy r history directory ref symbol ∧
      ∀ ds, r.index.lookup symbol ≠ .ambiguous ds := by
  have hworkspace : ∀ {symbol : String}, InWorkspace r directory symbol (.found label c) →
      ∀ ds, r.index.lookup symbol ≠ .ambiguous ds := by
    intro symbol hin ds hlookup
    cases hin with
    | other howner _ =>
      rw [howner] at hlookup
      cases hlookup
  have hindexed : ∀ {usage : Usage} {symbol : String},
      Indexed r directory usage symbol (.found label c) →
      ∀ ds, r.index.lookup symbol ≠ .ambiguous ds := by
    intro usage symbol hin ds hlookup
    cases hin with
    | workspace hin => exact hworkspace hin ds hlookup
    | lockFile hmissing _ =>
      rw [hmissing] at hlookup
      cases hlookup
  cases h with
  | qualified hsettles =>
    cases hsettles with
    | indexed hin => exact ⟨_, .qualified, hindexed hin⟩
  | reflective hsettles =>
    cases hsettles with
    | indexed hin => exact ⟨_, .reflective, hindexed hin⟩
  | simple hsettles =>
    cases hsettles with
    | own hfirst hin => exact ⟨_, .own hfirst, hworkspace hin⟩
    | wildcard hsole hin => exact ⟨_, .wildcard hsole, hindexed hin⟩

/-- A type that two directories declare is looked up as ambiguous between all that do. -/
theorem exists_lookup_of_conflict (hindex : r.index = Index.ofHistory history) {symbol : String}
    {d e : Path} (hne : d.same e = false) (hd : Declares history d symbol)
    (he : Declares history e symbol) :
    ∃ declaring, r.index.lookup symbol = .ambiguous declaring ∧ 1 < declaring.length ∧
      Lists declaring (Declares history · symbol) := by
  have hlookup := (Workspace.answers_ofHistory history).lookup symbol
  rw [← hindex] at hlookup
  rcases hanswer : r.index.lookup symbol with owner | declaring | - <;> rw [hanswer] at hlookup
  · -- one owner would be both directories
    have hsame := Workspace.same_trans (r := e) ((hlookup d).1 hd)
    rw [(hlookup e).1 he, hne] at hsame
    cases hsame
  · exact ⟨declaring, rfl, hlookup⟩
  · exact absurd hd (hlookup d)

/-- What is declared by several directories is reported by each of them. -/
theorem mem_ambiguities_of_declares (hindex : r.index = Index.ofHistory history) (kind : UnitKind)
    {symbol : String} {declaring : List Path}
    (hlookup : r.index.lookup symbol = .ambiguous declaring) (hseveral : 1 < declaring.length)
    (hlists : Lists declaring (Declares history · symbol))
    (hdeclares : Declares history directory symbol) :
    ⟨symbol, .localDeclaration declaring⟩ ∈
      (r.resolveUnit directory kind).report.ambiguities := by
  rw [mem_ambiguities_iff hindex]
  by_cases hopen : ∃ ref a, r.LeavesOpen history directory ref a ∧ a.symbol = symbol
  · obtain ⟨ref, a, hleaves, rfl⟩ := hopen
    exact .inl ⟨ref, hleaves.fitsWorkspace.eq_of_lookup hlookup ▸ hleaves⟩
  · have hconflicts := (Workspace.answers_ofHistory history).conflicts directory
    rw [← hindex] at hconflicts
    refine .inr ⟨symbol, declaring, (hconflicts.mem_iff _ _).2 ⟨hdeclares, ?_, hlookup⟩, ?_, rfl⟩
    · exact hlists.exists_other hseveral directory
    · exact fun ref a hleaves hsymbol ↦ hopen ⟨ref, a, hleaves, hsymbol⟩

/-- A report has nothing else on a symbol that several directories declare. -/
theorem eq_of_mem_ambiguities (hindex : r.index = Index.ofHistory history) {kind : UnitKind}
    {declaring : List Path} {a : Ambiguity}
    (ha : a ∈ (r.resolveUnit directory kind).report.ambiguities)
    (hlookup : r.index.lookup a.symbol = .ambiguous declaring) :
    a = ⟨a.symbol, .localDeclaration declaring⟩ := by
  rcases (mem_ambiguities_iff hindex kind).1 ha with ⟨ref, hleaves⟩ | ⟨symbol, ds, hmem, -, rfl⟩
  · exact hleaves.fitsWorkspace.eq_of_lookup hlookup
  · have hconflicts := (Workspace.answers_ofHistory history).conflicts directory
    rw [← hindex] at hconflicts
    have hlookup' := ((hconflicts.mem_iff _ _).1 hmem).2.2
    rw [hlookup] at hlookup'
    rw [Workspace.Lookup.ambiguous.inj hlookup']

end Resolver

/-- A unit treats a symbol that several directories declare as a conflict between them. -/
structure ReportsConflict (r : Resolver) (history : List Event) (directory : Path) (symbol : String)
    (declaring : List Path) (unit : UnitResolution) : Prop where
  /-- It reports the conflict if its directory declares the symbol, used or not. -/
  declares : Declares history directory symbol →
    ⟨symbol, .localDeclaration declaring⟩ ∈ unit.report.ambiguities
  names : NamesInFull history directory symbol →
    ⟨symbol, .localDeclaration declaring⟩ ∈ unit.report.ambiguities
  /-- It reports nothing else about the symbol. -/
  only : ∀ a ∈ unit.report.ambiguities,
    a.symbol = symbol → a = ⟨symbol, .localDeclaration declaring⟩
  /-- A reference that the symbol decides has no outcome but the conflict. -/
  undecided : ∀ ref, Refers history r.options.runtime.reflection directory ref →
    DecidedBy r history directory ref symbol →
      ∀ o, Settles r history directory ref o ↔ o = .ambiguous ⟨symbol, .localDeclaration declaring⟩
  /-- Each label comes from a reference that another symbol decides. -/
  labels : ∀ label, label ∈ unit.deps ∨ label ∈ unit.runtimeDeps → ∃ ref other c, other ≠ symbol ∧
    Refers history r.options.runtime.reflection directory ref ∧
    DecidedBy r history directory ref other ∧ Settles r history directory ref (.found label c)

/-- A symbol that several directories declare is reported with all of them, in each unit that
declares it or names it. -/
theorem Resolver.reportsConflict {r : Resolver} {history : List Event}
    (hindex : r.index = Index.ofHistory history) {symbol : String} {declaring : List Path}
    (hlookup : r.index.lookup symbol = .ambiguous declaring) (hseveral : 1 < declaring.length)
    (hlists : Lists declaring (Declares history · symbol)) (directory : Path) (kind : UnitKind) :
    ReportsConflict r history directory symbol declaring (r.resolveUnit directory kind) := by
  have hsettles : ∀ ref, DecidedBy r history directory ref symbol → Settles r history directory ref
      (.ambiguous ⟨symbol, .localDeclaration declaring⟩) := fun ref hdecided ↦
    settles_of_inWorkspace hdecided (.several hlookup)
  constructor
  · exact mem_ambiguities_of_declares hindex kind hlookup hseveral hlists
  · intro hnames
    exact (mem_ambiguities_iff hindex kind).2 (.inl ⟨_, .qualified hnames, hsettles _ .qualified⟩)
  · rintro a ha rfl
    exact eq_of_mem_ambiguities hindex ha hlookup
  · intro ref hrefers hdecided o
    constructor
    · exact fun ho ↦ (existsUnique_settles hrefers).unique ho (hsettles ref hdecided)
    · rintro rfl
      exact hsettles ref hdecided
  · intro label hlabel
    have hlabels : HasLabels (r.Finds history directory) (r.resolveUnit directory kind) :=
      hasLabels_resolveUnit hindex kind
    rw [hlabels.mem_deps, hlabels.mem_runtimeDeps] at hlabel
    obtain ⟨c, ref, hrefers, hfound⟩ : ∃ c, r.Finds history directory label c :=
      hlabel.elim (fun h ↦ ⟨_, h⟩) fun h ↦ ⟨_, h.1⟩
    obtain ⟨other, hdecided, hsole⟩ := exists_decidedBy_of_found hfound
    refine ⟨ref, other, c, ?_, hrefers, hdecided, hfound⟩
    rintro rfl
    exact hsole declaring hlookup

/-- **A type that two directories declare is reported, and never decided.** For every history of an
index, every lock file, every way of labelling and all options: reports are in order of symbols, and
where two directories declare a symbol, every unit treats it as a conflict between all that do. -/
theorem conflict_reported (history : List Event) (classes : Maven.ClassIndex)
    (labels : LabelScheme) (options : Options) :
    let r : Resolver := { index := .ofHistory history, classes, labels, options }
    (∀ (directory : Path) (kind : UnitKind),
      (r.resolveUnit directory kind).report.ambiguities.Pairwise fun a b ↦
        (compare a.symbol b.symbol).isLE = true) ∧
    ∀ (symbol : String) (d e : Path), d.same e = false → Declares history d symbol →
      Declares history e symbol →
        ∃ declaring, Lists declaring (Declares history · symbol) ∧
          ∀ (directory : Path) (kind : UnitKind), ReportsConflict r history directory symbol
            declaring (r.resolveUnit directory kind) := by
  intro r
  refine ⟨Resolver.ambiguities_ordered r, fun symbol d e hne hd he ↦ ?_⟩
  have hindex : r.index = Index.ofHistory history := rfl
  obtain ⟨declaring, hlookup, hseveral, hlists⟩ :=
    Resolver.exists_lookup_of_conflict hindex hne hd he
  exact ⟨declaring, hlists, Resolver.reportsConflict hindex hlookup hseveral hlists⟩

/-- Two directories declare a type that an artifact provides too, and a third one imports it. -/
theorem conflict_reported_of_provided :
    let declares : Workspace.FileRecord := ⟨⟨[]⟩, { package := "x", declaredTypes := ["Dup"] }⟩
    let history : List Event :=
      [.record ⟨"one"⟩ ⟨"one/Dup.java"⟩ declares, .record ⟨"two/"⟩ ⟨"two/Dup.java"⟩ declares,
        .record ⟨"user"⟩ ⟨"user/User.java"⟩ ⟨⟨[]⟩, { imports := .ofList ["x.Dup"] }⟩]
    let classes : Maven.ClassIndex :=
      ⟨[⟨⟨⟨"a", "b", none, none, "1"⟩, ⟨"@maven//:a_b"⟩⟩, ["x.Dup"]⟩]⟩
    let r : Resolver := { index := .ofHistory history, classes }
    ∃ declaring, Lists declaring (Declares history · "x.Dup") ∧
      ∀ (directory : Path) (kind : UnitKind), ReportsConflict r history directory "x.Dup"
        declaring (r.resolveUnit directory kind) := by
  intro declares history classes r
  have hone : Declares history ⟨"one"⟩ "x.Dup" :=
    Workspace.declares_iff.2 ⟨⟨"one/Dup.java"⟩, declares, by decide +kernel, by decide +kernel⟩
  have htwo : Declares history ⟨"two"⟩ "x.Dup" :=
    Workspace.declares_iff.2 ⟨⟨"two/Dup.java"⟩, declares, by decide +kernel, by decide +kernel⟩
  exact (conflict_reported history classes .conventional {}).2 "x.Dup" ⟨"one"⟩ ⟨"two"⟩
    (by decide +kernel) hone htwo

end JavaDeps.Resolve
