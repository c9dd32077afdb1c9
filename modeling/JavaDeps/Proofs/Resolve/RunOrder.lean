import JavaDeps.Proofs.Resolve.Congruence
import JavaDeps.Proofs.Resolve.ImportedTypes
import JavaDeps.Resolve.Run

/-!
# Runs do not depend on order

The stale files of a run are parsed side by side and recorded as they get done, so their order is
left open (`CanReport`). **Neither this order nor that of the requested units shows in the report**
(`execute_order_irrelevant`), as long as no label tells the spellings of a directory apart:
recordings of different files commute, and no symbol is looked up before the last of them. Two
things are left to the order. A unit with several files that fail names one of the failures; and
ambiguities list a directory in the spelling that came first, where a history and the request spell
one directory in several ways.

Labels are asked for in that spelling, too. So a scheme of labels that looks at the spelling itself
lets the order show in the dependencies of a unit (`not_forall_same_report`). The scheme that names
rules after their directories does not (`LabelScheme.conventional_congr`).
-/

namespace JavaDeps.Resolve

open Pool (ParseFailure)
open Workspace (Event Index SameTable Spells)

/-! ### Any order -/

/-- The parser that knows nothing but the file: what it says does not depend on other files, or on
what it was asked before. -/
def Parser.ofFunction (parse : SourceFile → ParseOutcome) {σ : Type} : Parser σ :=
  fun files s ↦ (files.map parse, s)

/-- The stale files of sorted units, parsed, in the order in which they are listed. -/
def parsedTasks (r : Resolver) (parse : SourceFile → ParseOutcome) (units : List UnitRequest) :
    List ParsedTask :=
  (r.staleTasks units).map fun task ↦ ⟨task, parse task.file⟩

/-- A run with a parser that knows nothing but the file records files in their order. -/
theorem execute_ofFunction (r : Resolver) (parse : SourceFile → ParseOutcome)
    (units : List UnitRequest) {σ : Type} (s : σ) :
    (r.execute (Parser.ofFunction parse) units s).1 =
      r.finish (sortUnits units) (parsedTasks r parse (sortUnits units)) := by
  have hdone : (r.staleTasks (sortUnits units)).zipWith ParsedTask.mk
      (((r.staleTasks (sortUnits units)).map (·.file)).map parse) =
      parsedTasks r parse (sortUnits units) := by
    rw [List.map_map, List.zipWith_map_right, List.zipWith_self]
    rfl
  simp only [Resolver.execute, Parser.ofFunction, hdone]

/-- The reports that a run over units can come to: its stale files get done in some order. -/
inductive CanReport (r : Resolver) (parse : SourceFile → ParseOutcome) (units : List UnitRequest) :
    RunReport → Prop
  | finish {done : List ParsedTask} (h : done.Perm (parsedTasks r parse (sortUnits units))) :
    CanReport r parse units (r.finish (sortUnits units) done).1

/-! ### What is asked of a run -/

/-- Whether units have different directories, and each of them different files. Spellings of one
path count as the same. -/
structure Distinct (units : List UnitRequest) : Prop where
  directories : units.Pairwise fun u v ↦ u.directory.same v.directory = false
  files : ∀ unit ∈ units, unit.files.Pairwise fun f g ↦ f.path.same g.path = false

/-- Whether a directory occurs in this spelling, in a history or as that of a unit. -/
def SpelledIn (history : List Event) (units : List UnitRequest) (d : Path) : Prop :=
  Spells history d ∨ ∃ unit ∈ units, unit.directory = d

/-- Whether a directory has one label in all spellings in which it occurs. -/
def LabelsAgree (labels : LabelScheme) (history : List Event) (units : List UnitRequest) : Prop :=
  ∀ d e, SpelledIn history units d → SpelledIn history units e → d.same e = true →
    labels d = labels e

/-! ### The same report -/

/-- Whether a file of a unit is stale and fails. A file that the index holds as it is would not be
parsed. -/
structure FailsWith (r : Resolver) (parse : SourceFile → ParseOutcome) (unit : UnitRequest)
    (file : SourceFile) (failure : ParseFailure) : Prop where
  mem : file ∈ unit.files
  stale : r.index.isCurrent unit.directory file.path file.stamp = false
  fails : parse file = .error failure

/-- Whether two outcomes of a unit are the same, up to which failure is named where several files
fail. -/
inductive UnitRequest.SameOutcome (r : Resolver) (parse : SourceFile → ParseOutcome)
    (unit : UnitRequest) : UnitOutcome → UnitOutcome → Prop
  | resolved {a b : UnitResolution} (hdirectory : a.directory = unit.directory) (h : a.Same b) :
    SameOutcome r parse unit (.resolved a) (.resolved b)
  | skipped {e e' : ParseFailure}
    (h : e = e' ∨ ∃ f f', f ≠ f' ∧ FailsWith r parse unit f e ∧ FailsWith r parse unit f' e') :
    SameOutcome r parse unit (.skipped unit.directory (.parse e))
      (.skipped unit.directory (.parse e'))

/-- Whether two reports of a run over units are the same. -/
structure RunReport.Same (r : Resolver) (parse : SourceFile → ParseOutcome)
    (units : List UnitRequest) (a b : RunReport) : Prop where
  units : List.Forall₂ (fun o o' ↦ ∃ unit ∈ units, unit.SameOutcome r parse o o') a.units b.units
  parsedFiles : a.parsedFiles = b.parsedFiles

/-! ### Units in order -/

theorem Distinct.perm {units units' : List UnitRequest} (h : Distinct units)
    (hperm : units'.Perm units) : Distinct units' where
  directories := h.directories.perm hperm.symm fun hne ↦ Workspace.same_comm.trans hne
  files unit hunit := h.files unit (hperm.mem_iff.1 hunit)

theorem sortUnits_perm_self (units : List UnitRequest) : (sortUnits units).Perm units :=
  List.mergeSort_perm _ _

theorem mem_sortUnits {units : List UnitRequest} {unit : UnitRequest} :
    unit ∈ sortUnits units ↔ unit ∈ units :=
  (sortUnits_perm_self units).mem_iff

theorem sortUnits_ordered (units : List UnitRequest) :
    (sortUnits units).Pairwise fun u v ↦ (compare u.directory v.directory).isLE = true :=
  pairwise_mergeSort_isLE (compareOn UnitRequest.directory) units

/-- Units of different directories have one order. -/
theorem sortUnits_perm {units units' : List UnitRequest} (h : Distinct units)
    (hperm : units'.Perm units) : sortUnits units' = sortUnits units := by
  refine List.Perm.eq_of_pairwise (fun u v hu hv huv hvu ↦ ?_) (sortUnits_ordered units')
    (sortUnits_ordered units)
    ((sortUnits_perm_self units').trans (hperm.trans (sortUnits_perm_self units).symm))
  have hsame : u.directory.same v.directory = true :=
    Workspace.same_iff_compare.2 (Std.OrientedCmp.isLE_antisymm huv hvu)
  have : Std.Symm fun u v : UnitRequest ↦ u.directory.same v.directory = false :=
    ⟨fun _ _ hne ↦ Workspace.same_comm.trans hne⟩
  by_contra hne
  rw [h.directories.forall (hperm.mem_iff.1 (mem_sortUnits.1 hu)) (mem_sortUnits.1 hv) hne] at hsame
  cases hsame

/-! ### Tasks -/

/-- Whether two tasks are about different files: their directories differ, or the paths of the files
do. -/
def ParseTask.Apart (a b : ParseTask) : Prop :=
  ¬ (a.directory.same b.directory = true ∧ a.file.path.same b.file.path = true)

section Tasks

variable {r : Resolver} {parse : SourceFile → ParseOutcome} {units : List UnitRequest}

/-- The files to parse are those of the units that the index has no current record of. -/
theorem mem_staleTasks {task : ParseTask} :
    task ∈ r.staleTasks units ↔ ∃ unit, units[task.position]? = some unit ∧
      task.directory = unit.directory ∧ task.file ∈ unit.files ∧
      r.index.isCurrent unit.directory task.file.path task.file.stamp = false := by
  simp only [Resolver.staleTasks, List.mem_flatten, List.mem_mapIdx]
  constructor
  · rintro ⟨_, ⟨i, hi, rfl⟩, htask⟩
    obtain ⟨file, hfile, rfl⟩ := List.mem_map.1 htask
    obtain ⟨hmem, hstale⟩ := List.mem_filter.1 hfile
    exact ⟨units[i], List.getElem?_eq_getElem hi, rfl, hmem, by simpa using hstale⟩
  · rintro ⟨unit, hunit, hdirectory, hmem, hstale⟩
    obtain ⟨hi, rfl⟩ := List.getElem?_eq_some_iff.1 hunit
    refine ⟨_, ⟨task.position, hi, rfl⟩, List.mem_map.2 ⟨task.file, ?_, ?_⟩⟩
    · exact List.mem_filter.2 ⟨hmem, by simpa using hstale⟩
    · rw [← hdirectory]

/-- No file is parsed twice in a run. -/
theorem staleTasks_apart (h : Distinct units) : (r.staleTasks units).Pairwise ParseTask.Apart := by
  refine List.pairwise_flatten.2 ⟨fun tasks htasks ↦ ?_, ?_⟩
  · -- within a unit, files differ
    obtain ⟨i, hi, rfl⟩ := List.mem_mapIdx.1 htasks
    refine List.pairwise_map.2 (List.Pairwise.filter _ ?_)
    exact (h.files _ (List.getElem_mem hi)).imp fun hne hsame ↦ by
      rw [hsame.2] at hne
      cases hne
  · -- between units, directories do
    refine List.pairwise_iff_getElem.2 fun i j hi hj hij ↦ ?_
    rw [List.getElem_mapIdx, List.getElem_mapIdx]
    intro a ha b hb hsame
    obtain ⟨f, -, rfl⟩ := List.mem_map.1 ha
    obtain ⟨g, -, rfl⟩ := List.mem_map.1 hb
    rw [List.length_mapIdx] at hi hj
    have hne := List.pairwise_iff_getElem.1 h.directories i j hi hj hij
    rw [hsame.1] at hne
    cases hne

/-- A stale file that fails is a file that its unit fails with. -/
theorem failsWith_of_mem_parsedTasks {t : ParsedTask} {position : Nat} {unit : UnitRequest}
    {failure : ParseFailure} (ht : t ∈ parsedTasks r parse units) (hat : t.task.position = position)
    (hunit : units[position]? = some unit) (hresult : t.result = .error failure) :
    FailsWith r parse unit t.task.file failure := by
  obtain ⟨task, htask, rfl⟩ := List.mem_map.1 ht
  obtain ⟨unit', hunit', -, hmem, hstale⟩ := mem_staleTasks.1 htask
  obtain rfl : unit' = unit := by
    rw [hat, hunit] at hunit'
    exact (Option.some.inj hunit').symm
  exact ⟨hmem, hstale, hresult⟩

end Tasks

/-! ### Recordings -/

/-- The event that a parsed file makes. -/
def ParsedTask.event? (t : ParsedTask) : Option Event :=
  match t.result with
  | .ok facts => some (.record t.task.directory t.task.file.path ⟨t.task.file.stamp, facts⟩)
  | .error _ => none

/-- The events that parsed files make. -/
def recordings (done : List ParsedTask) : List Event := done.filterMap (·.event?)

/-- To record results is to record them in the index. -/
theorem recordAll_eq (r : Resolver) (done : List ParsedTask) :
    r.recordAll done = { r with index := (recordings done).foldl Index.after r.index } := by
  induction done generalizing r with
  | nil => rfl
  | cons t done ih =>
    rw [Resolver.recordAll, List.foldl_cons, ← Resolver.recordAll, ih, recordings, recordings,
      List.filterMap_cons, ParsedTask.event?]
    cases t.result <;> rfl

section Recordings

variable {r : Resolver} {parse : SourceFile → ParseOutcome} {units : List UnitRequest}
  {history : List Event} {done done' : List ParsedTask}

theorem tracks_recordAll (hindex : r.index = Index.ofHistory history) (done : List ParsedTask) :
    (r.recordAll done).index = Index.ofHistory (history ++ recordings done) := by
  rw [recordAll_eq, hindex, Index.ofHistory, Index.ofHistory, List.foldl_append]

/-- What a run records is apart: each file is recorded once. -/
theorem recordings_apart (h : Distinct units) (hdone : done.Perm (parsedTasks r parse units)) :
    (recordings done).Pairwise Event.Apart := by
  have hparsed : (parsedTasks r parse units).Pairwise fun t t' ↦ t.task.Apart t'.task :=
    List.pairwise_map.2 (staleTasks_apart h)
  refine List.Pairwise.perm (List.Pairwise.filterMap _ ?_ hparsed) (hdone.filterMap _).symm
    (Std.Symm.symm _ _)
  intro t t' happart e he e' he'
  simp only [ParsedTask.event?] at he he'
  split at he
  · split at he'
    · obtain rfl := Option.some.inj he
      obtain rfl := Option.some.inj he'
      exact happart
    · cases he'
  · cases he

/-- What is recorded is spelled as a unit spells it. -/
theorem spelledIn_recordings (hdone : done.Perm (parsedTasks r parse units)) {d : Path}
    (h : Spells (history ++ recordings done) d) : SpelledIn history units d := by
  obtain ⟨path, record, hevent⟩ := h
  rcases List.mem_append.1 hevent with hevent | hevent
  · exact .inl ⟨path, record, hevent⟩
  · obtain ⟨t, ht, hevent⟩ := List.mem_filterMap.1 hevent
    obtain ⟨task, htask, rfl⟩ := List.mem_map.1 (hdone.mem_iff.1 ht)
    obtain ⟨unit, hunit, hdirectory, -⟩ := mem_staleTasks.1 htask
    simp only [ParsedTask.event?] at hevent
    split at hevent
    · cases Option.some.inj hevent
      exact .inr ⟨unit, List.mem_of_getElem? hunit, hdirectory.symm⟩
    · cases hevent

/-- **Resolvers ask alike once the same files are recorded, in any order.** -/
theorem recordAll_alike (hindex : r.index = Index.ofHistory history) (h : Distinct units)
    (hlabels : LabelsAgree r.labels history units)
    (hdone : done.Perm (parsedTasks r parse units))
    (hdone' : done'.Perm (parsedTasks r parse units)) :
    (r.recordAll done).Alike (r.recordAll done') := by
  have htracks := tracks_recordAll hindex
  have htable : SameTable (history ++ recordings done) (history ++ recordings done') :=
    Workspace.sameTable_of_perm (recordings_apart h hdone)
      ((hdone.trans hdone'.symm).filterMap _)
  have halike : (r.recordAll done).index.Alike (r.recordAll done').index := by
    rw [htracks, htracks]
    exact (Workspace.tracks_ofHistory _).alike (Workspace.tracks_ofHistory _) htable
  refine ⟨halike, by simp only [recordAll_eq], by simp only [recordAll_eq],
    by simp only [recordAll_eq], fun symbol p q hp hq ↦ ?_⟩
  have hsame : p.same q = true := by
    have := halike.lookup symbol
    rw [hp, hq] at this
    cases this with
    | found hsame => exact hsame
  have hspelled : ∀ {done : List ParsedTask} {p : Path},
      done.Perm (parsedTasks r parse units) → (r.recordAll done).index.lookup symbol = .found p →
      SpelledIn history units p := fun {done p} hdone hp ↦
    spelledIn_recordings hdone (Workspace.spells_of_lookup (htracks done ▸ hp))
  simp only [recordAll_eq]
  exact hlabels p q (hspelled hdone hp) (hspelled hdone' hq) hsame

end Recordings

/-! ### Failures -/

section Failures

variable {done done' : List ParsedTask} {position : Nat} {failure : ParseFailure}

/-- A unit fails for the failure of one of its files. -/
theorem exists_of_failureAt?_eq_some (h : Resolver.failureAt? done position = some failure) :
    ∃ t ∈ done, t.task.position = position ∧ t.result = .error failure := by
  obtain ⟨t, ht, hfailure⟩ := List.exists_of_findSome?_eq_some h
  split at hfailure
  · next e he =>
    split at hfailure
    · next hat => exact ⟨t, ht, hat, he.trans (congrArg _ (Option.some.inj hfailure))⟩
    · cases hfailure
  · cases hfailure

/-- Whether a unit fails does not depend on the order in which files are done. -/
theorem failureAt?_eq_none_of_perm (hperm : done.Perm done')
    (h : Resolver.failureAt? done position = none) :
    Resolver.failureAt? done' position = none :=
  List.findSome?_eq_none_iff.2 fun t ht ↦
    List.findSome?_eq_none_iff.1 h t (hperm.mem_iff.2 ht)

end Failures

/-! ### Reports -/

/-- Lists flattened from parts that are related place by place. -/
theorem forall₂_flatten_mapIdx {α β : Type} {R : β → β → Prop} {l : List α}
    {f g : Nat → α → List β}
    (h : ∀ i a, l[i]? = some a → List.Forall₂ R (f i a) (g i a)) :
    List.Forall₂ R (l.mapIdx f).flatten (l.mapIdx g).flatten := by
  refine List.rel_flatten (List.forall₂_iff_get.2 ⟨by simp only [List.length_mapIdx], ?_⟩)
  intro i hi _
  simp only [List.get_eq_getElem, List.getElem_mapIdx]
  exact h i _ (List.getElem?_eq_getElem (by simpa using hi))

section Reports

variable {r : Resolver} {parse : SourceFile → ParseOutcome} {units : List UnitRequest}
  {history : List Event} {done done' : List ParsedTask}

/-- What becomes of the unit at one place. -/
theorem outcome_same (hdone : done.Perm (parsedTasks r parse units))
    (hdone' : done'.Perm (parsedTasks r parse units))
    (h : (r.recordAll done).Alike (r.recordAll done'))
    {position : Nat} {unit : UnitRequest} (hunit : units[position]? = some unit) :
    unit.SameOutcome r parse
      (match Resolver.failureAt? done position with
        | some failure => .skipped unit.directory (.parse failure)
        | none => .resolved ((r.recordAll done).resolveUnit unit.directory unit.kind))
      (match Resolver.failureAt? done' position with
        | some failure => .skipped unit.directory (.parse failure)
        | none => .resolved ((r.recordAll done').resolveUnit unit.directory unit.kind)) := by
  have hperm := hdone.trans hdone'.symm
  rcases hfailure : Resolver.failureAt? done position with - | e
  · rw [failureAt?_eq_none_of_perm hperm hfailure]
    exact .resolved rfl (Resolver.resolveUnit_same h _ _)
  · rcases hfailure' : Resolver.failureAt? done' position with - | e'
    · rw [failureAt?_eq_none_of_perm hperm.symm hfailure'] at hfailure
      cases hfailure
    · obtain ⟨t, ht, hat, hresult⟩ := exists_of_failureAt?_eq_some hfailure
      obtain ⟨t', ht', hat', hresult'⟩ := exists_of_failureAt?_eq_some hfailure'
      have hfails := failsWith_of_mem_parsedTasks (hdone.mem_iff.1 ht) hat hunit hresult
      have hfails' := failsWith_of_mem_parsedTasks (hdone'.mem_iff.1 ht') hat' hunit hresult'
      refine .skipped ?_
      by_cases hfile : t.task.file = t'.task.file
      · have := hfails.fails.symm.trans (hfile ▸ hfails'.fails)
        exact .inl (Except.error.inj this)
      · exact .inr ⟨_, _, hfile, hfails, hfails'⟩

/-- **Two orders in which the stale files get done lead to the same report.** -/
theorem finish_same (hindex : r.index = Index.ofHistory history) (h : Distinct units)
    (hlabels : LabelsAgree r.labels history units)
    (hdone : done.Perm (parsedTasks r parse units))
    (hdone' : done'.Perm (parsedTasks r parse units)) :
    (r.finish units done).1.Same r parse units (r.finish units done').1 where
  units := by
    refine forall₂_flatten_mapIdx fun position unit hunit ↦ ?_
    have hsame := outcome_same hdone hdone' (recordAll_alike hindex h hlabels hdone hdone') hunit
    split
    · revert hsame
      cases Resolver.failureAt? done position <;> cases Resolver.failureAt? done' position <;>
        exact fun hsame ↦ .cons ⟨unit, List.mem_of_getElem? hunit, hsame⟩ .nil
    · exact .nil
  parsedFiles := (hdone.trans hdone'.symm).length_eq

end Reports

/-- Being the same does not depend on how units are listed. -/
theorem RunReport.Same.mono {r : Resolver} {parse : SourceFile → ParseOutcome}
    {units units' : List UnitRequest} {a b : RunReport} (h : a.Same r parse units b)
    (hmem : ∀ unit ∈ units, unit ∈ units') : a.Same r parse units' b where
  units := h.units.imp fun _ _ ⟨unit, hunit, hsame⟩ ↦ ⟨unit, hmem unit hunit, hsame⟩
  parsedFiles := h.parsedFiles

/-- **The report of a run depends neither on the order of the units nor on that in which their files
get done.** -/
theorem execute_order_irrelevant {history : List Event} {r : Resolver}
    (hindex : r.index = Index.ofHistory history) (parse : SourceFile → ParseOutcome)
    {units units' : List UnitRequest} (h : Distinct units)
    (hlabels : LabelsAgree r.labels history units) (hperm : units'.Perm units) {σ : Type} (s : σ) :
    CanReport r parse units (r.execute (Parser.ofFunction parse) units s).1.1 ∧
      ∀ a b, CanReport r parse units a → CanReport r parse units' b → a.Same r parse units b := by
  constructor
  · rw [execute_ofFunction]
    exact .finish (.refl _)
  · rintro a b ⟨hdone⟩ ⟨hdone'⟩
    have hsorted : LabelsAgree r.labels history (sortUnits units) := fun d e hd he hsame ↦
      hlabels d e (hd.imp_right fun ⟨unit, hunit, hd⟩ ↦ ⟨unit, mem_sortUnits.1 hunit, hd⟩)
        (he.imp_right fun ⟨unit, hunit, he⟩ ↦ ⟨unit, mem_sortUnits.1 hunit, he⟩) hsame
    rw [sortUnits_perm h hperm] at hdone' ⊢
    exact (finish_same hindex (h.perm (sortUnits_perm_self units)) hsorted hdone hdone').mono
      fun _ ↦ mem_sortUnits.1

/-- Two units in either order: two files of one fail, the other is on record with a file more. -/
theorem execute_order_irrelevant_of_failures :
    let history : List Event :=
      [.record ⟨"a"⟩ ⟨"a/B.java"⟩ ⟨⟨[]⟩, { package := "a", declaredTypes := ["B"] }⟩]
    let r : Resolver := { index := .ofHistory history }
    let failing : UnitRequest := ⟨⟨"b"⟩,
      [⟨⟨"b/X.java"⟩, "class X \x7b"⟩, ⟨⟨"b/Y.java"⟩, "class Y \x7d"⟩], .library⟩
    let scanned : UnitRequest := ⟨⟨"a/"⟩, [⟨⟨"a/C.java"⟩, "package a; class C \x7b\x7d"⟩], .library⟩
    ∀ a b, CanReport r SourceFile.scan [failing, scanned] a →
      CanReport r SourceFile.scan [scanned, failing] b →
      a.Same r SourceFile.scan [failing, scanned] b := by
  intro history r failing scanned
  have hdistinct : Distinct [failing, scanned] :=
    ⟨by decide +kernel, by decide +kernel⟩
  exact (execute_order_irrelevant rfl SourceFile.scan hdistinct
    (fun d e _ _ h ↦ LabelScheme.conventional_congr h) (.swap failing scanned []) ()).2

/-- In reports that are the same, units have the same dependencies. -/
theorem RunReport.Same.deps_eq {r : Resolver} {parse : SourceFile → ParseOutcome}
    {units : List UnitRequest} {a b : RunReport} (h : a.Same r parse units b) :
    a.units.map (fun o ↦ o.resolution?.map (·.deps)) =
      b.units.map fun o ↦ o.resolution?.map (·.deps) := by
  refine List.forall₂_eq_eq_eq ▸ List.forall₂_map_left_iff.2 (List.forall₂_map_right_iff.2 ?_)
  refine h.units.imp fun o o' ⟨unit, _, hsame⟩ ↦ ?_
  cases hsame with
  | resolved _ hsame => exact congrArg some hsame.deps
  | skipped _ => rfl

/-- Units that are in order already are taken as they are. -/
theorem CanReport.of_sorted {r : Resolver} {parse : SourceFile → ParseOutcome}
    {units : List UnitRequest} {done : List ParsedTask}
    (hsorted : units.Pairwise fun u v ↦ (compare u.directory v.directory).isLE = true)
    (h : done.Perm (parsedTasks r parse units)) :
    CanReport r parse units (r.finish units done).1 := by
  have hsame : sortUnits units = units := List.mergeSort_of_pairwise hsorted
  have hreport : CanReport r parse units (r.finish (sortUnits units) done).1 :=
    .finish (by rwa [hsame])
  rwa [hsame] at hreport

/-- **The order in which files get done can show in the report where labels tell the spellings of a
directory apart.** The index keeps a directory that declares a type as it was spelled by the first
of its files. Here a directory is on record as `a/`, and a unit `a` moves the type `x.X` from one
file to another: if the file that has the type now gets done first, the directory is never off
record and another unit depends on `//a/:lib`; otherwise it depends on `//a:lib`. -/
theorem not_forall_same_report :
    ¬ ∀ (history : List Event) (r : Resolver) (parse : SourceFile → ParseOutcome)
        (units units' : List UnitRequest) (a b : RunReport),
      r.index = Index.ofHistory history → Distinct units → units'.Perm units →
      CanReport r parse units a → CanReport r parse units' b → a.Same r parse units b := by
  intro hall
  have hsame := hall
    [.record ⟨"a/"⟩ ⟨"a/F.java"⟩ ⟨⟨[]⟩, { package := "x", declaredTypes := ["X"] }⟩]
    { index := .ofHistory
        [.record ⟨"a/"⟩ ⟨"a/F.java"⟩ ⟨⟨[]⟩, { package := "x", declaredTypes := ["X"] }⟩]
      labels := fun directory ↦ ⟨"//" ++ directory.text ++ ":lib"⟩ }
    SourceFile.scan
    [⟨⟨"a"⟩, [⟨⟨"a/F.java"⟩, "package y; class F \x7b\x7d"⟩,
        ⟨⟨"a/G.java"⟩, "package x; class X \x7b\x7d"⟩], .library⟩,
      ⟨⟨"e"⟩, [⟨⟨"e/E.java"⟩, "package e; import x.X; class E \x7b\x7d"⟩], .library⟩]
    _ _ _ rfl ⟨by decide +kernel, by decide +kernel⟩ (.refl _)
    (.of_sorted (by decide +kernel) (.refl _))
    (.of_sorted (by decide +kernel) (List.reverse_perm _))
  exact absurd hsame.deps_eq (by decide +kernel)

end JavaDeps.Resolve
