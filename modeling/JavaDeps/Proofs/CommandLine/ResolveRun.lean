import JavaDeps.CommandLine.Run
import JavaDeps.Proofs.Resolve.RunOutcomes

/-!
# Every unit is accounted for

Resolving reads the files of all units, runs over the units that could be read, and puts the
outcomes of the run together with the units that could not be. **Every library and every test unit
has one outcome in the end, in order of directories, and no other unit has one** (`Accounts`): it is
skipped exactly if one of its files cannot be read as text or is rejected by the scanner.
-/

namespace JavaDeps.CommandLine

open Discovery (FoundUnit ReadUnits Units readSource readUnit readUnits)
open Resolve (RunReport UnitFailure UnitOutcome UnitRequest UnitResolution ParsedTask Resolver
  outcomeOf parsedTasks sortUnits)

/-! ### What is asked of a report -/

/-- Whether a file of a unit fails, and with what failure: it cannot be read as text, or it is read
and the scanner refuses it. -/
inductive FileFails (fs : Files) (root file : Path) : UnitFailure → Prop
  | unreadable {fault : Files.Fault} (h : fs.readText (root.join file) = .error fault) :
    FileFails fs root file (.read file fault.message)
  | rejected {contents : String} {failure : Pool.ParseFailure}
    (h : fs.readText (root.join file) = .ok contents)
    (hscan : SourceFile.scan ⟨file, contents⟩ = .error failure) :
    FileFails fs root file (.parse failure)

/-- Whether an outcome is that of a unit: the unit is skipped for a file that fails, and resolved
under its directory and kind if there is none. -/
inductive AccountsFor (fs : Files) (root directory : Path) (unit : FoundUnit) : UnitOutcome → Prop
  | skipped {file : Path} {failure : UnitFailure} (hfile : file ∈ unit.files)
    (h : FileFails fs root file failure) :
    AccountsFor fs root directory unit (.skipped directory failure)
  | resolved {resolution : UnitResolution}
    (h : ∀ file ∈ unit.files, ∀ failure, ¬ FileFails fs root file failure)
    (hdirectory : resolution.directory = directory) (hkind : resolution.kind = unit.kind) :
    AccountsFor fs root directory unit (.resolved resolution)

/-- Whether a report has one outcome for each unit that becomes a rule, and no other. -/
structure Accounts (fs : Files) (root : Path) (units : Units) (report : RunReport) : Prop where
  outcomes : List.Forall₂ (fun e o ↦ AccountsFor fs root e.1 e.2 o)
    (units.entries.filter (·.2.kind.emitsRule)) report.units
  increasing : report.units.Pairwise fun o o' ↦ compare o.directory o'.directory = .lt

/-- The report on units whose files got done in some order: what the run over the readable units
comes to, with the unreadable ones added in their places. -/
def reportOf (r : Resolver) (fs : Files) (root : Path) (units : Units) (done : List ParsedTask) :
    RunReport :=
  (r.finish (sortUnits (readUnits fs root units).requests) done).1.withMore
    (readUnits fs root units).unreadable

/-- Whether the files of units can get done in some order. All stale files get done, each once and
with what the scanner says of it, and nothing else is known. -/
def CanGetDone (r : Resolver) (fs : Files) (root : Path) (units : Units) (done : List ParsedTask) :
    Prop :=
  done.Perm (parsedTasks r SourceFile.scan (sortUnits (readUnits fs root units).requests))

/-- Whether units are the same but for what the unit of one directory is for. -/
structure SameButKind (directory : Path) (units units' : Units) : Prop where
  files : units.entries.map (fun e ↦ (e.1, e.2.files)) =
    units'.entries.map fun e ↦ (e.1, e.2.files)
  others : units.entries.filter (fun e ↦ !e.1.same directory) =
    units'.entries.filter fun e ↦ !e.1.same directory

/-- The reports on units that some order of their files leads to. Workers are free to get files done
in any of these orders. -/
def CanReport (r : Resolver) (fs : Files) (root : Path) (units : Units) (report : RunReport) :
    Prop :=
  ∃ done, CanGetDone r fs root units done ∧ report = reportOf r fs root units done

/-- Whether the report that an order of files leads to accounts for all units, and shows what each
of them is for in its own outcome alone. -/
structure AccountsThroughout (r : Resolver) (fs : Files) (root : Path) (units : Units)
    (done : List ParsedTask) : Prop where
  accounts : Accounts fs root units (reportOf r fs root units done)
  others : ∀ directory units', SameButKind directory units units' →
    CanGetDone r fs root units' done ∧
    (reportOf r fs root units done).units.filter (fun o ↦ !o.directory.same directory) =
      (reportOf r fs root units' done).units.filter fun o ↦ !o.directory.same directory

/-! ### Reading units -/

section Reading

variable {fs : Files} {root directory : Path} {unit : FoundUnit}

/-- A failure of a whole list is the failure of a member. -/
theorem exists_of_mapM_eq_error {α β ε : Type} {f : α → Except ε β} {l : List α} {e : ε}
    (h : l.mapM f = .error e) : ∃ a ∈ l, f a = .error e := by
  induction l with
  | nil => cases h
  | cons a l ih =>
    rw [List.mapM_cons] at h
    rcases ha : f a with e' | b
    · rw [ha] at h
      exact ⟨a, List.mem_cons_self, ha.trans (congrArg _ (Except.error.inj h))⟩
    · rw [ha] at h
      rcases hl : l.mapM f with e' | bs
      · rw [hl] at h
        obtain ⟨a', ha', hf⟩ := ih (hl.trans (congrArg _ (Except.error.inj h)))
        exact ⟨a', List.mem_cons_of_mem _ ha', hf⟩
      · rw [hl] at h
        cases h

/-- What comes of a whole list is what comes of its members, all of which succeed. -/
theorem mem_iff_of_mapM_eq_ok {α β ε : Type} {f : α → Except ε β} {l : List α} {bs : List β}
    (h : l.mapM f = .ok bs) :
    (∀ b, b ∈ bs ↔ ∃ a ∈ l, f a = .ok b) ∧ ∀ a ∈ l, ∃ b, f a = .ok b := by
  induction l generalizing bs with
  | nil =>
    obtain rfl := Except.ok.inj h
    simp
  | cons a l ih =>
    rw [List.mapM_cons] at h
    rcases ha : f a with e' | b
    · rw [ha] at h
      cases h
    · rw [ha] at h
      rcases hl : l.mapM f with e' | bs'
      · rw [hl] at h
        cases h
      · rw [hl] at h
        obtain rfl := Except.ok.inj h
        obtain ⟨hmem, hall⟩ := ih hl
        exact ⟨by simp [ha, hmem, eq_comm], List.forall_mem_cons.2 ⟨⟨b, ha⟩, hall⟩⟩

/-- A file is read if there is text at its path below the root. -/
theorem readSource_eq_ok_iff {file : Path} {source : SourceFile} :
    readSource fs root file = .ok source ↔
      source.path = file ∧ fs.readText (root.join file) = .ok source.contents := by
  obtain ⟨path, contents⟩ := source
  unfold readSource
  cases fs.readText (root.join file) with
  | ok contents' => simp [eq_comm]
  | error fault => simp

/-- Where a file cannot be read, the unit fails for it, with what the file system says. -/
theorem readSource_eq_error_iff {file : Path} {failure : UnitFailure} :
    readSource fs root file = .error failure ↔
      ∃ fault, fs.readText (root.join file) = .error fault ∧
        failure = .read file fault.message := by
  unfold readSource
  cases fs.readText (root.join file) with
  | ok contents => simp
  | error fault => simp [eq_comm]

/-- A unit that cannot be read has a file that cannot. -/
theorem fileFails_of_readUnit {failure : UnitFailure}
    (h : readUnit fs root directory unit = .error failure) :
    ∃ file ∈ unit.files, FileFails fs root file failure := by
  rw [readUnit] at h
  rcases hfiles : unit.files.mapM (readSource fs root) with failure' | sources <;> rw [hfiles] at h
  · obtain ⟨file, hfile, hread⟩ := exists_of_mapM_eq_error hfiles
    obtain rfl := Except.error.inj h
    obtain ⟨fault, hfault, rfl⟩ := readSource_eq_error_iff.1 hread
    exact ⟨file, hfile, .unreadable hfault⟩
  · cases h

/-- What a unit that was read asks for: its directory, its kind, and its files with the texts that
they have in the file system. -/
structure ReadAs (fs : Files) (root directory : Path) (unit : FoundUnit) (request : UnitRequest) :
    Prop where
  directory : request.directory = directory
  kind : request.kind = unit.kind
  mem_files : ∀ source, source ∈ request.files ↔
    source.path ∈ unit.files ∧ fs.readText (root.join source.path) = .ok source.contents
  readable : ∀ file ∈ unit.files, ∃ contents, fs.readText (root.join file) = .ok contents

/-- A request for a unit is made of the texts of its files. -/
theorem readAs_of_readUnit {request : UnitRequest}
    (h : readUnit fs root directory unit = .ok request) :
    ReadAs fs root directory unit request := by
  rw [readUnit] at h
  rcases hfiles : unit.files.mapM (readSource fs root) with failure | sources <;> rw [hfiles] at h
  · cases h
  · obtain rfl := Except.ok.inj h
    obtain ⟨hmem, hall⟩ := mem_iff_of_mapM_eq_ok hfiles
    refine ⟨rfl, rfl, fun source ↦ ?_, fun file hfile ↦ ?_⟩
    · simp only [hmem, readSource_eq_ok_iff]
      constructor
      · rintro ⟨file, hfile, rfl, hread⟩
        exact ⟨hfile, hread⟩
      · rintro ⟨hfile, hread⟩
        exact ⟨_, hfile, rfl, hread⟩
    · obtain ⟨source, hsource⟩ := hall file hfile
      exact ⟨_, (readSource_eq_ok_iff.1 hsource).2⟩

end Reading

/-! ### Putting outcomes together -/

section Units

variable {fs : Files} {root : Path} {units units' : Units} {r after : Resolver}
  {done : List ParsedTask}

/-- The units of a list that could be read, in the order of the list, as they are asked for. -/
def requestsOf (fs : Files) (root : Path) (l : List (Path × FoundUnit)) : List UnitRequest :=
  l.filterMap fun e ↦ (readUnit fs root e.1 e.2).toOption

/-- The outcomes of the units of a list that could not be read. -/
def unreadableOf (fs : Files) (root : Path) (l : List (Path × FoundUnit)) : List UnitOutcome :=
  l.filterMap fun e ↦
    match readUnit fs root e.1 e.2 with
    | .ok _ => none
    | .error failure => if e.2.kind.emitsRule then some (.skipped e.1 failure) else none

/-- **Each unit is either asked for or reported as unreadable**, in the order in which units are
listed. -/
theorem readUnits_eq (fs : Files) (root : Path) (units : Units) :
    readUnits fs root units =
      ⟨requestsOf fs root units.entries, unreadableOf fs root units.entries⟩ :=
  rfl

/-- The outcome of a unit that becomes a rule: that of the run if it could be read, and otherwise
that it was skipped. -/
def outcomeFor (fs : Files) (root : Path) (after : Resolver) (done : List ParsedTask)
    (e : Path × FoundUnit) : UnitOutcome :=
  match readUnit fs root e.1 e.2 with
  | .ok request => outcomeOf after done request
  | .error failure => .skipped e.1 failure

/-- An outcome is reported under the directory of its unit. -/
theorem outcomeFor_directory (fs : Files) (root : Path) (after : Resolver) (done : List ParsedTask)
    (e : Path × FoundUnit) : (outcomeFor fs root after done e).directory = e.1 := by
  rw [outcomeFor]
  rcases hread : readUnit fs root e.1 e.2 with failure | request
  · rfl
  · exact (Resolve.outcomeOf_directory _ _ _).trans (readAs_of_readUnit hread).directory

/-- Requests are made in the order of directories, none of them twice. -/
theorem increasing_requestsOf (fs : Files) (root : Path) (units : Units) :
    (requestsOf fs root units.entries).Pairwise fun u v ↦
      compare u.directory v.directory = .lt := by
  refine units.increasing.filterMap _ fun e e' hlt u hu v hv ↦ ?_
  have hdirectory : ∀ {e : Path × FoundUnit} {u : UnitRequest},
      (readUnit fs root e.1 e.2).toOption = some u → u.directory = e.1 := fun {e u} hu ↦ by
    rcases hread : readUnit fs root e.1 e.2 with failure | request <;> rw [hread] at hu
    · cases hu
    · obtain rfl := Option.some.inj hu
      exact (readAs_of_readUnit hread).directory
  rwa [hdirectory hu, hdirectory hv]

/-- Units that were read are in order already. -/
theorem sortUnits_requestsOf (fs : Files) (root : Path) (units : Units) :
    sortUnits (requestsOf fs root units.entries) = requestsOf fs root units.entries :=
  mergeSort_eq_of_perm (compareOn UnitRequest.directory) (.refl _)
    (increasing_requestsOf fs root units)

/-- No two requests are for directories that are the same. -/
theorem separate_requestsOf (fs : Files) (root : Path) (units : Units) :
    Resolve.Separate (requestsOf fs root units.entries) := by
  refine (increasing_requestsOf fs root units).imp fun {u v} hlt ↦ ?_
  rw [Bool.eq_false_iff]
  intro hsame
  rw [Workspace.same_iff_compare.1 hsame] at hlt
  cases hlt

/-- Read or not, each unit that becomes a rule has its outcome. -/
theorem perm_outcomes (fs : Files) (root : Path) (after : Resolver) (done : List ParsedTask)
    (l : List (Path × FoundUnit)) :
    (((requestsOf fs root l).filter (·.kind.emitsRule)).map (outcomeOf after done) ++
      unreadableOf fs root l).Perm
      ((l.filter (·.2.kind.emitsRule)).map (outcomeFor fs root after done)) := by
  induction l with
  | nil => exact .refl _
  | cons e l ih =>
    have hrequests : requestsOf fs root (e :: l) =
        (readUnit fs root e.1 e.2).toOption.toList ++ requestsOf fs root l := by
      rw [requestsOf, List.filterMap_cons]
      cases (readUnit fs root e.1 e.2).toOption <;> rfl
    rw [hrequests, unreadableOf, List.filterMap_cons, ← unreadableOf, List.filter_cons]
    rcases hread : readUnit fs root e.1 e.2 with failure | request
    · have houtcome : outcomeFor fs root after done e = .skipped e.1 failure := by
        rw [outcomeFor, hread]
      cases e.2.kind.emitsRule with
      | false => exact ih
      | true =>
        rw [if_pos rfl, List.map_cons, houtcome]
        exact List.perm_middle.trans (ih.cons _)
    · have houtcome : outcomeFor fs root after done e = outcomeOf after done request := by
        rw [outcomeFor, hread]
      have hkind := (readAs_of_readUnit hread).kind
      rw [Except.toOption, Option.toList_some, List.singleton_append, List.filter_cons, hkind]
      cases e.2.kind.emitsRule with
      | false => exact ih
      | true =>
        rw [if_pos rfl, if_pos rfl, List.map_cons, List.map_cons, houtcome]
        exact ih.cons _

/-- **A report has one outcome for each unit that becomes a rule**, in the order of the units. -/
theorem units_reportOf (hdone : CanGetDone r fs root units done) :
    (reportOf r fs root units done).units =
      (units.entries.filter (·.2.kind.emitsRule)).map
        (outcomeFor fs root (r.recordAll done) done) := by
  rw [CanGetDone, readUnits_eq, sortUnits_requestsOf] at hdone
  have houtcomes := Resolve.unitOutcomes_eq (separate_requestsOf fs root units) hdone
    (r.recordAll done)
  rw [reportOf, readUnits_eq, sortUnits_requestsOf, RunReport.withMore, Resolver.finish]
  dsimp only
  rw [houtcomes]
  refine mergeSort_eq_of_perm (compareOn UnitOutcome.directory) (perm_outcomes _ _ _ _ _) ?_
  refine List.pairwise_map.2 ((units.increasing.filter _).imp fun {e e'} hlt ↦ ?_)
  show compare (outcomeFor _ _ _ _ e).directory (outcomeFor _ _ _ _ e').directory = .lt
  rwa [outcomeFor_directory, outcomeFor_directory]

/-- **The outcome of a unit accounts for it.** -/
theorem accountsFor_outcomeFor (hindex : r.index = {}) (hdone : CanGetDone r fs root units done)
    {e : Path × FoundUnit} (he : e ∈ units.entries) (after : Resolver) :
    AccountsFor fs root e.1 e.2 (outcomeFor fs root after done e) := by
  rw [CanGetDone, readUnits_eq, sortUnits_requestsOf] at hdone
  have hseparate := separate_requestsOf fs root units
  rw [outcomeFor]
  rcases hread : readUnit fs root e.1 e.2 with failure | request
  · obtain ⟨file, hfile, hfails⟩ := fileFails_of_readUnit hread
    exact .skipped hfile hfails
  have hrequest : request ∈ requestsOf fs root units.entries :=
    List.mem_filterMap.2 ⟨e, he, by rw [hread]; rfl⟩
  have hreadAs := readAs_of_readUnit hread
  show AccountsFor fs root e.1 e.2 (outcomeOf after done request)
  rw [outcomeOf]
  rcases hfailure : Resolve.failureIn done request.directory with - | failure
  · refine .resolved (fun file hfile failure hfails ↦ ?_) hreadAs.directory hreadAs.kind
    obtain ⟨contents, hcontents⟩ := hreadAs.readable file hfile
    cases hfails with
    | unreadable hfault =>
      rw [hcontents] at hfault
      cases hfault
    | @rejected contents' failure htext hscan =>
      -- nothing is on record before the run, so the file is stale
      refine (Resolve.failureIn_eq_none_iff hseparate hdone hrequest).1 hfailure
        ⟨file, contents'⟩ failure ⟨(hreadAs.mem_files _).2 ⟨hfile, htext⟩, ?_, hscan⟩
      rw [hindex]
      rfl
  · obtain ⟨source, hfails⟩ :=
      Resolve.exists_failsWith_of_failureIn hseparate hdone hrequest hfailure
    obtain ⟨hfile, htext⟩ := (hreadAs.mem_files source).1 hfails.mem
    show AccountsFor fs root e.1 e.2 (.skipped request.directory (.parse failure))
    rw [hreadAs.directory]
    exact .skipped hfile (.rejected htext hfails.fails)

/-- **The report of a run accounts for the units**, whichever of the orders the files get done
in. -/
theorem accounts_reportOf (hindex : r.index = {}) (hdone : CanGetDone r fs root units done) :
    Accounts fs root units (reportOf r fs root units done) := by
  have hunits := units_reportOf hdone
  constructor
  · rw [hunits, List.forall₂_map_right_iff, List.forall₂_same]
    exact fun e he ↦ accountsFor_outcomeFor hindex hdone (List.mem_of_mem_filter he) _
  · rw [hunits, List.pairwise_map]
    refine (units.increasing.filter _).imp fun {e e'} hlt ↦ ?_
    rwa [outcomeFor_directory, outcomeFor_directory]

/-! ### Kinds -/

/-- What is asked for a unit that was read are its directory and its files, and its kind. -/
theorem map_requestsOf (fs : Files) (root : Path) (l : List (Path × FoundUnit)) :
    (requestsOf fs root l).map (fun u ↦ (u.directory, u.files)) =
      (l.map fun e ↦ (e.1, e.2.files)).filterMap fun e ↦
        (e.2.mapM (readSource fs root)).toOption.map fun files ↦ (e.1, files) := by
  rw [requestsOf, List.map_filterMap, List.filterMap_map]
  refine List.filterMap_congr fun e _ ↦ ?_
  rw [readUnit, Function.comp_apply]
  cases e.2.files.mapM (readSource fs root) <;> rfl

theorem SameButKind.canGetDone {directory : Path} (h : SameButKind directory units units')
    (hdone : CanGetDone r fs root units done) : CanGetDone r fs root units' done := by
  rw [CanGetDone, readUnits_eq, sortUnits_requestsOf] at hdone ⊢
  refine hdone.trans (.of_eq (Resolve.parsedTasks_congr r SourceFile.scan ?_))
  rw [map_requestsOf, map_requestsOf, h.files]

/-- **What one unit is for does not show in the outcomes of the others.** -/
theorem SameButKind.filter_units {directory : Path} (h : SameButKind directory units units')
    (hdone : CanGetDone r fs root units done) :
    (reportOf r fs root units done).units.filter (fun o ↦ !o.directory.same directory) =
      (reportOf r fs root units' done).units.filter fun o ↦ !o.directory.same directory := by
  have hothers : ∀ l : List (Path × FoundUnit),
      ((l.filter (·.2.kind.emitsRule)).map (outcomeFor fs root (r.recordAll done) done)).filter
          (fun o ↦ !o.directory.same directory) =
        ((l.filter fun e ↦ !e.1.same directory).filter (·.2.kind.emitsRule)).map
          (outcomeFor fs root (r.recordAll done) done) := by
    intro l
    rw [List.filter_map, List.filter_comm]
    simp only [Function.comp_def, outcomeFor_directory]
  rw [units_reportOf hdone, units_reportOf (h.canGetDone hdone), hothers, hothers, h.others]

end Units

/-! ### The command -/

section Console

variable {α β : Type} {c c' : Console}

/-- What succeeds in two steps succeeds in both. -/
theorem exists_of_run_bind {x : ConsoleM α} {f : α → ConsoleM β} {b : β}
    (h : (x >>= f).run c = (.ok b, c')) :
    ∃ a c₁, x.run c = (.ok a, c₁) ∧ (f a).run c₁ = (.ok b, c') := by
  have hrun : (x >>= f).run c = (ExceptT.bindCont f) (x.run c).1 (x.run c).2 := rfl
  rw [hrun] at h
  rcases hx : x.run c with ⟨failure | a, c₁⟩ <;> rw [hx] at h
  · cases h
  · exact ⟨a, c₁, rfl, h⟩

/-- A step that may end the run has not ended it if the run went on. -/
theorem eq_ok_of_run_orFail {ε : Type} {toFailure : ε → Failure} {x : Except ε α} {a : α}
    (h : (ConsoleM.orFail toFailure x).run c = (.ok a, c')) : x = .ok a ∧ c' = c := by
  cases x with
  | ok a' =>
    obtain ⟨ha, hc⟩ := Prod.mk.inj h
    exact ⟨congrArg _ (Except.ok.inj ha), hc.symm⟩
  | error e => cases h

theorem eq_of_run_get {a : Console} (h : (get : ConsoleM Console).run c = (.ok a, c')) :
    a = c ∧ c' = c := by
  obtain ⟨ha, hc⟩ := Prod.mk.inj h
  exact ⟨(Except.ok.inj ha).symm, hc.symm⟩

/-- A message, if there is one, leaves the files as they are. -/
theorem exists_of_run_say {p : Prop} [Decidable p] {m : Terminal.Message} {x : Unit → ConsoleM α}
    {a : α} (h : (if p then ConsoleM.say m >>= x else x ()).run c = (.ok a, c')) :
    ∃ c₁, c₁.files = c.files ∧ (x ()).run c₁ = (.ok a, c') := by
  split at h
  · exact ⟨c.write (.message m), rfl, h⟩
  · exact ⟨c, rfl, h⟩

/-- To load the lock file leaves all files as they are. -/
theorem files_loadClasses {w : Workspace} {classes : Maven.ClassIndex}
    (h : (loadClasses w).run c = (.ok classes, c')) : c'.files = c.files := by
  rw [loadClasses] at h
  split at h
  · obtain ⟨_, c₁, hget, h⟩ := exists_of_run_bind h
    obtain ⟨_, c₂, hbytes, h⟩ := exists_of_run_bind h
    rw [(eq_ok_of_run_orFail h).2, (eq_ok_of_run_orFail hbytes).2, (eq_of_run_get hget).2]
  · rw [← (Prod.mk.inj h).2]
    rfl

/-- **What an in-process run reports** is what a run over the units that could be read does,
together with those that could not. -/
theorem exists_of_run_resolveUnits {σ ω : Type} {m : Machine σ ω} {w : Workspace}
    {args : ResolveArgs} {report : RunReport} (hin : args.inProcess = true)
    (h : (resolveUnits m w args).run c = (.ok report, c')) :
    ∃ (units : Units) (r : Resolver), chooseUnits w args c.files = .ok units ∧ r.index = {} ∧
      report = (r.execute Parser.scanner (readUnits c.files w.root units).requests
        ()).1.1.withMore (readUnits c.files w.root units).unreadable := by
  rw [resolveUnits] at h
  obtain ⟨_, c₁, hvalid, h⟩ := exists_of_run_bind h
  obtain ⟨_, c₂, hget, h⟩ := exists_of_run_bind h
  obtain ⟨units, c₃, hunits, h⟩ := exists_of_run_bind h
  obtain ⟨c₄, hsaid, h⟩ := exists_of_run_say h
  obtain ⟨classes, c₅, hclasses, h⟩ := exists_of_run_bind h
  obtain ⟨_, c₆, hget', h⟩ := exists_of_run_bind h
  obtain ⟨options, c₇, hoptions, hlast⟩ := exists_of_run_bind h
  obtain ⟨rfl, rfl⟩ := eq_of_run_get hget
  obtain ⟨rfl, rfl⟩ := eq_of_run_get hget'
  obtain ⟨-, rfl⟩ := eq_ok_of_run_orFail hvalid
  obtain ⟨hunits, rfl⟩ := eq_ok_of_run_orFail hunits
  have hfiles := (files_loadClasses hclasses).trans hsaid
  dsimp only at hlast
  rw [hfiles, if_pos hin] at hlast
  refine ⟨units, { classes, options }, hunits, rfl, ?_⟩
  exact (Except.ok.inj (Prod.mk.inj hlast).1).symm

end Console

/-- **A run that resolves accounts for every unit.** For every machine, console, workspace and
options of an in-process run that returns a report: in whatever order the files of the chosen units
get done, the report has one outcome for each library and each test unit, in strictly increasing
order of directories, and no other; the outcome is a failure exactly if a file of the unit cannot be
read as text or is rejected by the scanner; and with units that differ in what the unit of one
directory is for, the outcomes of all other units are the same. -/
theorem resolveUnits_accounts {σ ω : Type} {m : Machine σ ω} {w : Workspace} {args : ResolveArgs}
    {console console' : Console} {report : RunReport} (hin : args.inProcess = true)
    (hrun : (resolveUnits m w args).run console = (.ok report, console')) :
    let fs := console.files
    ∃ (units : Units) (r : Resolver), chooseUnits w args fs = .ok units ∧ r.index = {} ∧
      CanReport r fs w.root units report ∧
      ∀ done, CanGetDone r fs w.root units done → AccountsThroughout r fs w.root units done := by
  intro fs
  obtain ⟨units, r, hunits, hindex, hreport⟩ := exists_of_run_resolveUnits hin hrun
  refine ⟨units, r, hunits, hindex, ?_, fun done hdone ↦ ⟨accounts_reportOf hindex hdone, ?_⟩⟩
  · have hscanner : Parser.scanner = Resolve.Parser.ofFunction SourceFile.scan := rfl
    rw [hreport, hscanner, Resolve.execute_ofFunction]
    exact ⟨_, .refl _, rfl⟩
  · exact fun directory units' hsame ↦ ⟨hsame.canGetDone hdone, hsame.filter_units hdone⟩

/-- A library, a test and a generated unit, of which the first has a file that is no text and the
second one that is rejected. -/
theorem resolveUnits_accounts_of_failures :
    let fs : Files := (((({} : Files).addFile ["ws", "lib", "A.java"] [0xff]).addFile
      ["ws", "lib", "B.java"] []).addFile
      ["ws", "test", "T.java"] (Utf8.encode "class T \x7b")).addFile
      ["ws", "gen", "G.java"] (Utf8.encode "class G \x7b\x7d")
    let m : Machine Empty Files :=
      { cores := 1, programs := Worker.noPrograms Files, world := fun fs _ ↦ fs, files := id }
    let w : Workspace :=
      { root := ⟨"ws"⟩
        config := { Config.standard 1 with
          resolver := { testRoots := [⟨"test"⟩], generatedRoots := [⟨"gen"⟩] } } }
    let args : ResolveArgs := { inProcess := true }
    ∃ (report : RunReport) (console' : Console) (units : Units) (r : Resolver),
      (resolveUnits m w args).run { files := fs } = (.ok report, console') ∧
      chooseUnits w args fs = .ok units ∧ r.index = {} ∧ CanReport r fs w.root units report ∧
      ∀ done, CanGetDone r fs w.root units done → AccountsThroughout r fs w.root units done := by
  intro fs m w args
  have hok : ((resolveUnits m w args).run { files := fs }).1.isOk = true := by decide +kernel
  rcases hrun : (resolveUnits m w args).run { files := fs } with ⟨failure | report, console'⟩
  · rw [hrun] at hok
    cases hok
  · obtain ⟨units, r, haccounts⟩ := resolveUnits_accounts rfl hrun
    exact ⟨report, console', units, r, rfl, haccounts⟩

end JavaDeps.CommandLine
