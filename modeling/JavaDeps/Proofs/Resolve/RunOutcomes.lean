import JavaDeps.Proofs.Resolve.RunOrder

/-!
# One outcome for each unit

A run keeps failures by the positions of units in a sorted list. Where units have different
directories, a position is a directory, and **a run comes to one outcome for each unit that becomes
a rule** (`unitOutcomes_eq`): the unit is skipped exactly if one of its files is stale and fails, in
whatever order the files get done (`failureIn_eq_none_iff`). What a unit is for decides whether it
has an outcome, and nothing about other units: the files of all kinds of units are recorded
(`parsedTasks_congr`).
-/

namespace JavaDeps.Resolve

open Pool (ParseFailure)

/-- Whether units have different directories, spellings aside, so that an outcome tells which unit
it is about. -/
def Separate (units : List UnitRequest) : Prop :=
  units.Pairwise fun u v ↦ u.directory.same v.directory = false

/-- The failure that is reported for the unit of a directory: the first that was met. -/
def failureIn (done : List ParsedTask) (directory : Path) : Option ParseFailure :=
  done.findSome? fun t ↦
    match t.result with
    | .error e => if t.task.directory = directory then some e else none
    | .ok _ => none

/-- The outcome of a unit that becomes a rule, after all files are recorded. -/
def outcomeOf (after : Resolver) (done : List ParsedTask) (unit : UnitRequest) : UnitOutcome :=
  match failureIn done unit.directory with
  | some failure => .skipped unit.directory (.parse failure)
  | none => .resolved (after.resolveUnit unit.directory unit.kind)

theorem outcomeOf_directory (after : Resolver) (done : List ParsedTask) (unit : UnitRequest) :
    (outcomeOf after done unit).directory = unit.directory := by
  rw [outcomeOf]
  cases failureIn done unit.directory <;> rfl

section Positions

variable {r : Resolver} {parse : SourceFile → ParseOutcome} {units : List UnitRequest}
  {done : List ParsedTask} {position : Nat} {unit : UnitRequest}

/-- A task is about the unit whose directory it has. -/
theorem position_eq_iff (h : Separate units) (hdone : done.Perm (parsedTasks r parse units))
    (hunit : units[position]? = some unit) {t : ParsedTask} (ht : t ∈ done) :
    t.task.position = position ↔ t.task.directory = unit.directory := by
  obtain ⟨task, htask, rfl⟩ := List.mem_map.1 (hdone.mem_iff.1 ht)
  obtain ⟨unit', hunit', hdirectory, -⟩ := mem_staleTasks.1 htask
  dsimp only
  constructor
  · rintro rfl
    rw [hdirectory, Option.some.inj (hunit'.symm.trans hunit)]
  · intro heq
    have hsame : unit'.directory.same unit.directory = true := by
      rw [← hdirectory, heq]
      exact Workspace.same_iff_compare.2 Std.ReflOrd.compare_self
    by_contra hne
    obtain ⟨hlt', rfl⟩ := List.getElem?_eq_some_iff.1 hunit'
    obtain ⟨hlt, rfl⟩ := List.getElem?_eq_some_iff.1 hunit
    have hapart := List.pairwise_iff_getElem.1 h
    rcases Nat.lt_or_gt_of_ne hne with hbefore | hafter
    · rw [hapart _ _ hlt' hlt hbefore] at hsame
      cases hsame
    · rw [Workspace.same_comm, hapart _ _ hlt hlt' hafter] at hsame
      cases hsame

theorem findSome?_congr {α β : Type} {f g : α → Option β} {l : List α}
    (h : ∀ a ∈ l, f a = g a) : l.findSome? f = l.findSome? g := by
  induction l with
  | nil => rfl
  | cons a l ih =>
    rw [List.findSome?_cons, List.findSome?_cons, h a List.mem_cons_self,
      ih fun a ha ↦ h a (List.mem_cons_of_mem _ ha)]

/-- **The failure at a position is that of the directory at the position.** -/
theorem failureAt?_eq_failureIn (h : Separate units)
    (hdone : done.Perm (parsedTasks r parse units)) (hunit : units[position]? = some unit) :
    Resolver.failureAt? done position = failureIn done unit.directory := by
  refine findSome?_congr fun t ht ↦ ?_
  have hposition := position_eq_iff h hdone hunit ht
  cases t.result with
  | ok facts => rfl
  | error failure => simp only [hposition]

/-- What is flattened from a list part by part, where each part has one thing or none. -/
theorem flatten_mapIdx_ite {α β : Type} {p : α → Bool} {g : α → β} {f : Nat → α → List β}
    {l : List α} (h : ∀ i a, l[i]? = some a → f i a = if p a then [g a] else []) :
    (l.mapIdx f).flatten = (l.filter p).map g := by
  have hparts : l.mapIdx f = l.map fun a ↦ if p a then [g a] else [] := by
    refine List.mapIdx_eq_iff.2 fun i ↦ ?_
    rw [List.getElem?_map]
    rcases ha : l[i]? with - | a
    · rfl
    · rw [Option.map_some, Option.map_some, h i a ha]
  rw [hparts]
  clear h hparts
  induction l with
  | nil => rfl
  | cons a l ih =>
    rw [List.map_cons, List.flatten_cons, ih, List.filter_cons]
    split <;> rfl

/-- **A run comes to one outcome for each unit that becomes a rule**, in the order of the units. -/
theorem unitOutcomes_eq (h : Separate units) (hdone : done.Perm (parsedTasks r parse units))
    (after : Resolver) :
    after.unitOutcomes units done =
      (units.filter (·.kind.emitsRule)).map (outcomeOf after done) := by
  refine flatten_mapIdx_ite fun position unit hunit ↦ ?_
  rw [failureAt?_eq_failureIn h hdone hunit, outcomeOf]
  cases failureIn done unit.directory <;> rfl

/-- A failure that is reported for a unit is one that it has. -/
theorem exists_failsWith_of_failureIn (h : Separate units)
    (hdone : done.Perm (parsedTasks r parse units)) (hunit : unit ∈ units) {failure : ParseFailure}
    (hfailure : failureIn done unit.directory = some failure) :
    ∃ file, FailsWith r parse unit file failure := by
  obtain ⟨position, hposition⟩ := List.mem_iff_getElem?.1 hunit
  rw [← failureAt?_eq_failureIn h hdone hposition] at hfailure
  obtain ⟨t, ht, hat, hresult⟩ := exists_of_failureAt?_eq_some hfailure
  exact ⟨_, failsWith_of_mem_parsedTasks (hdone.mem_iff.1 ht) hat hposition hresult⟩

/-- **No failure is reported for a unit exactly if none of its stale files fails.** -/
theorem failureIn_eq_none_iff (h : Separate units) (hdone : done.Perm (parsedTasks r parse units))
    (hunit : unit ∈ units) :
    failureIn done unit.directory = none ↔
      ∀ file failure, ¬ FailsWith r parse unit file failure := by
  constructor
  · intro hnone file failure hfails
    obtain ⟨position, hposition⟩ := List.mem_iff_getElem?.1 hunit
    -- the file was parsed as one of the stale files, so its failure was met
    have htask : ParseTask.mk position unit.directory file ∈ r.staleTasks units :=
      mem_staleTasks.2 ⟨unit, hposition, rfl, hfails.mem, hfails.stale⟩
    have ht := hdone.mem_iff.2 (List.mem_map_of_mem htask)
    have hmet := List.findSome?_eq_none_iff.1 hnone _ ht
    simp [hfails.fails] at hmet
  · intro hfails
    refine Option.eq_none_iff_forall_not_mem.2 fun failure hfailure ↦ ?_
    obtain ⟨file, hfile⟩ := exists_failsWith_of_failureIn h hdone hunit hfailure
    exact hfails file failure hfile

end Positions

/-! ### Kinds -/

/-- **What is parsed does not depend on what units are for.** -/
theorem parsedTasks_congr (r : Resolver) (parse : SourceFile → ParseOutcome)
    {units units' : List UnitRequest}
    (h : units.map (fun u ↦ (u.directory, u.files)) = units'.map fun u ↦ (u.directory, u.files)) :
    parsedTasks r parse units = parsedTasks r parse units' := by
  have hstale : ∀ units : List UnitRequest, r.staleTasks units =
      ((units.map fun u ↦ (u.directory, u.files)).mapIdx fun position u ↦
        (u.2.filter fun f ↦ !r.index.isCurrent u.1 f.path f.stamp).map fun file ↦
          ⟨position, u.1, file⟩).flatten := by
    intro units
    refine congrArg List.flatten (List.mapIdx_eq_iff.2 fun i ↦ ?_)
    rw [List.getElem?_mapIdx, List.getElem?_map, Option.map_map]
    rfl
  rw [parsedTasks, parsedTasks, hstale, h, ← hstale]

end JavaDeps.Resolve
