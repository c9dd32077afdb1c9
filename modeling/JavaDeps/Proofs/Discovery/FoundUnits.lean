import JavaDeps.Discovery.Units
import JavaDeps.Proofs.Files.Directories
import JavaDeps.Resolve.LabelScheme

/-!
# What discovery finds

A unit is what was found in its directory, in the order of the passes: `get?_foldl_addFile` says so
of the table of units, and `filter_javaFiles_walk` of the files that a walk finds. Paths that lead
down from the workspace are their names (`IsPlain`), so **a file is found under the names on the way
to it**, however the root of the walk is spelled.
-/

namespace JavaDeps.Discovery

open JavaDeps.Path (ofNames)
open Resolve (UnitKind normalNames)

/-! ### Paths that lead down -/

/-- Whether a path leads down from where it is taken: its components are names and dots. -/
def IsPlain (p : Path) : Prop := ∀ c ∈ p.components, c ≠ .root ∧ c ≠ .parent

instance (p : Path) : Decidable (IsPlain p) :=
  inferInstanceAs (Decidable (∀ c ∈ p.components, c ≠ .root ∧ c ≠ .parent))

/-- The names that a path leads down, in order. For a plain path they tell where it leads, whatever
dots there are between them. -/
def namesOf (p : Path) : List String := normalNames p.components

section IsPlain

variable {p workspace : Path}

theorem IsPlain.isAbsolute_eq_false (h : IsPlain p) : p.isAbsolute = false := by
  rw [Bool.eq_false_iff]
  intro habsolute
  exact (h .root (List.mem_of_mem_head? (Path.head?_components_eq_root_iff.2 habsolute))).1 rfl

/-- A plain path is spelled by names, dots aside. -/
theorem IsPlain.filter_components (h : IsPlain p) :
    p.components.filter (· != .current) = (namesOf p).map .normal := by
  rw [IsPlain] at h
  rw [namesOf, normalNames, List.map_filterMap]
  generalize p.components = cs at h ⊢
  induction cs with
  | nil => rfl
  | cons c cs ih =>
    have hcs := ih fun c hc ↦ h c (List.mem_cons_of_mem _ hc)
    cases c with
    | root => exact absurd rfl (h .root List.mem_cons_self).1
    | parent => exact absurd rfl (h .parent List.mem_cons_self).2
    | current => exact hcs
    | normal s => exact congrArg (.normal s :: ·) hcs

/-- A plain path adds its names to the workspace. -/
theorem IsPlain.components_join (h : IsPlain p) (hworkspace : workspace.text ≠ "") :
    (workspace.join p).components = workspace.components ++ (namesOf p).map .normal := by
  rw [Path.components_join hworkspace h.isAbsolute_eq_false,
    Path.filterMap_segments h.isAbsolute_eq_false, h.filter_components]

end IsPlain

/-- The directory down some names, as units are keyed by it. The workspace itself is a dot. -/
def unitPath (names : List String) : Path := if names = [] then ⟨"."⟩ else ofNames names

section Names

variable {names names' : List String}

/-- The path of a unit is spelled by its names, and by a dot where there are none. -/
theorem components_unitPath (hnames : ∀ s ∈ names, IsName s) :
    (unitPath names).components = if names = [] then [.current] else names.map .normal := by
  rw [unitPath]
  split
  · rfl
  · exact Path.components_ofNames hnames

/-- The path of a unit is plain. -/
theorem isPlain_unitPath (hnames : ∀ s ∈ names, IsName s) : IsPlain (unitPath names) := by
  intro c hc
  rw [components_unitPath hnames] at hc
  split at hc
  · rw [List.mem_singleton.1 hc]
    decide
  · obtain ⟨s, -, rfl⟩ := List.mem_map.1 hc
    exact ⟨nofun, nofun⟩

/-- The path of a unit has the names that it was made of. -/
theorem namesOf_unitPath (hnames : ∀ s ∈ names, IsName s) : namesOf (unitPath names) = names := by
  rw [namesOf, components_unitPath hnames]
  split
  · next h =>
    rw [h]
    rfl
  · exact Resolve.normalNames_map names

/-- Units are told apart by their names. -/
theorem same_unitPath_iff (hnames : ∀ s ∈ names, IsName s) (hnames' : ∀ s ∈ names', IsName s) :
    (unitPath names).same (unitPath names') = true ↔ names = names' := by
  rw [Path.same, beq_iff_eq]
  constructor
  · intro h
    rw [← namesOf_unitPath hnames, ← namesOf_unitPath hnames', namesOf, namesOf, h]
  · rintro rfl
    rfl

/-- **A file is in the unit of the directory that it lies in.** -/
theorem unitDirectory_ofNames_concat {s : String} (hnames : ∀ t ∈ names ++ [s], IsName t) :
    unitDirectory (ofNames (names ++ [s])) = unitPath names := by
  rw [unitDirectory, Path.parent?_ofNames_concat hnames, unitPath]
  dsimp only
  by_cases hempty : names = []
  · rw [if_pos hempty, hempty]
    rfl
  · rw [if_neg hempty, if_neg]
    intro htext
    have hsegments := Path.segments_ofNames (fun t ht ↦ hnames t (List.mem_append_left _ ht)) hempty
    rw [Path.segments_eq_singleton_nil.2 (by simpa using htext)] at hsegments
    obtain ⟨t, ht, hnil⟩ := List.mem_map.1 (hsegments ▸ List.mem_cons_self)
    exact (hnames t (List.mem_append_left _ ht)).toList_ne_nil hnil

theorem pathBelow_concat (base : Path) (names : List String) (s : String) :
    pathBelow base (names ++ [s]) = (pathBelow base names).join ⟨s⟩ := by
  rw [pathBelow, List.foldl_append]
  rfl

/-- Only the unit of the workspace itself is a dot. -/
theorem unitPath_eq_dot_iff (hnames : ∀ s ∈ names, IsName s) :
    unitPath names = ⟨"."⟩ ↔ names = [] := by
  constructor
  · intro h
    rw [← namesOf_unitPath hnames, h]
    rfl
  · rintro rfl
    rfl

/-- A path below another one has the names added. -/
theorem components_pathBelow {base : Path} (hnames : ∀ s ∈ names, IsName s) :
    (pathBelow base names).components = base.components ++ names.map .normal := by
  induction names using List.reverseRecOn with
  | nil => simp [pathBelow]
  | append_singleton names s ih =>
    rw [pathBelow_concat,
      Path.components_join_name _ (hnames s (List.mem_append_right _ List.mem_cons_self)),
      ih fun t ht ↦ hnames t (List.mem_append_left _ ht), List.map_append, List.append_assoc]
    rfl

end Names

/-! ### Files -/

/-- The path of something that lies in the workspace, if it is a Java file. -/
def javaFile? (names : List String) (entry : Entry) : Option Path :=
  if isJavaFile (ofNames names) entry then some (ofNames names) else none

/-- What becomes of one thing that a walk meets. -/
theorem javaFile?_eq {root walked : Path} {down names : List String} {entry : Entry}
    (hroot : root.components ≠ [])
    (hwalked : walked.components = root.components ++ down.map .normal)
    (hdown : ∀ s ∈ down, IsName s) (hnames : ∀ s ∈ names, IsName s) (hne : names ≠ []) :
    (if isJavaFile (pathBelow walked names) entry then
      ((pathBelow walked names).stripBase? root).map Path.clean else none) =
      javaFile? (down ++ names) entry := by
  have hall : ∀ s ∈ down ++ names, IsName s := fun s hs ↦
    (List.mem_append.1 hs).elim (hdown s) (hnames s)
  have hbelow : (pathBelow walked names).components =
      root.components ++ (down ++ names).map .normal := by
    rw [components_pathBelow hnames, hwalked, List.map_append, List.append_assoc]
  have hextension : (pathBelow walked names).extension? = (ofNames (down ++ names)).extension? := by
    refine Path.extension?_congr ?_
    rw [hbelow, Path.components_ofNames hall, List.map_append, ← List.append_assoc,
      List.getLast?_append_of_ne_nil _ (by simpa using hne),
      List.getLast?_append_of_ne_nil _ (by simpa using hne)]
  obtain ⟨stripped, hstrip, hcomponents⟩ := Path.exists_stripBase? hbelow hroot
  rw [javaFile?, isJavaFile, isJavaFile, hextension, hstrip, Option.map_some,
    Path.clean_eq_ofNames hcomponents (List.append_ne_nil_of_right_ne_nil _ hne)]

section Walk

variable {fs : Files} {root walked : Path} {base : Place} {down : List String}
  {skip : List String → Entry → Bool}

/-- The files among what was met, seen from the workspace. -/
theorem javaFiles_eq {met : List (List String × Entry)} (hroot : root.components ≠ [])
    (hwalked : walked.components = root.components ++ down.map .normal)
    (hdown : ∀ s ∈ down, IsName s) (hmet : ∀ m ∈ met, m.1 ≠ [] ∧ ∀ s ∈ m.1, IsName s) :
    javaFiles root walked met = met.filterMap fun m ↦ javaFile? (down ++ m.1) m.2 :=
  List.filterMap_congr fun m hm ↦
    javaFile?_eq hroot hwalked hdown (hmet m hm).2 (hmet m hm).1

theorem isName_of_mem_walk (hfs : fs.WellFormed) {place : Place} {m : List String × Entry}
    (hm : m ∈ fs.walk skip place) : m.1 ≠ [] ∧ ∀ s ∈ m.1, IsName s := by
  obtain ⟨hentry, hne, -⟩ := Files.mem_walk.1 hm
  exact ⟨hne, fun s hs ↦ hfs.names _ hentry s (List.mem_append_right _ hs)⟩

/-- The Java files right inside of a directory, in order, by the names that lead to them from the
workspace. -/
def filesIn (fs : Files) (base : Place) (names : List String) : List Path :=
  fs.entries.entries.filterMap fun e ↦
    (Files.namesBelow? (base ++ names) e.1).bind fun rest ↦
      if rest.length = 1 then javaFile? (names ++ rest) e.2 else none

/-- The files in a directory belong to the unit of that directory. -/
theorem unitDirectory_of_mem_filesIn (hfs : fs.WellFormed) {names : List String}
    (hnames : ∀ s ∈ names, IsName s) {file : Path} (h : file ∈ filesIn fs base names) :
    unitDirectory file = unitPath names := by
  obtain ⟨e, he, hfile⟩ := List.mem_filterMap.1 h
  obtain ⟨rest, hrest, hfile⟩ := Option.bind_eq_some_iff.1 hfile
  obtain ⟨hlength, hfile⟩ := Option.ite_none_right_eq_some.1 hfile
  obtain ⟨s, rfl⟩ := List.length_eq_one_iff.1 hlength
  have hs : IsName s := by
    refine hfs.names e he s ?_
    rw [Files.namesBelow?_eq_some_iff.1 hrest]
    simp
  rw [← Option.some.inj (Option.ite_none_right_eq_some.1 hfile).2]
  refine unitDirectory_ofNames_concat fun t ht ↦ ?_
  exact (List.mem_append.1 ht).elim (hnames t) fun ht ↦ List.mem_singleton.1 ht ▸ hs

/-- The files under a walked directory are the Java files that a walk from its place meets. -/
theorem filesUnder_eq (pass : Pass) (config : Config) :
    pass.filesUnder fs root config walked = match fs.directoryAt? walked with
      | some place => javaFiles root walked (fs.walk (pass.isSkipped config walked) place)
      | none => [] := by
  rw [Pass.filesUnder, Files.directoryAt?]
  rcases fs.find walked with - | ⟨place, - | -⟩ <;> rfl

/-- The files right in a directory are the Java files on the first level below it. -/
theorem filesRightIn_eq {directory : Path} :
    filesRightIn fs root directory = match fs.directoryAt? directory with
      | some place =>
        javaFiles root directory ((fs.walk (fun _ _ ↦ false) place).filter (·.1.length == 1))
      | none => [] := by
  rw [filesRightIn, Files.directoryAt?]
  rcases fs.find directory with - | ⟨place, - | -⟩ <;> rfl

/-- **The files right inside of a directory that is spelled below the workspace.** -/
theorem filesRightIn_eq_filesIn (hfs : fs.WellFormed) (hroot : root.components ≠ [])
    (hwalked : walked.components = root.components ++ down.map .normal)
    (hdown : ∀ s ∈ down, IsName s) (hplace : fs.directoryAt? walked = some (base ++ down)) :
    filesRightIn fs root walked = filesIn fs base down := by
  rw [filesRightIn_eq, hplace]
  dsimp only
  rw [javaFiles_eq hroot hwalked hdown fun m hm ↦ isName_of_mem_walk hfs (List.mem_filter.1 hm).1,
    List.filterMap_filter, Files.filterMap_walk, filesIn]
  refine List.filterMap_congr fun e _ ↦ ?_
  congr 1
  funext names
  have henters : fs.Enters (fun _ _ ↦ false) (base ++ down) names := fun _ _ _ _ _ ↦ rfl
  by_cases hlength : names.length = 1
  · have hne : names ≠ [] := by
      rintro rfl
      cases hlength
    simp [hne, henters, hlength]
  · simp [hlength]

/-- Nothing below a path that does not start with `.` is seen from there. -/
theorem filesRightIn_dot (hfs : fs.WellFormed) (hroot : root = ⟨"."⟩)
    (hwalked : walked.components = down.map .normal) (hne : down ≠ []) :
    filesRightIn fs root walked = [] := by
  subst hroot
  rw [filesRightIn_eq]
  split
  · refine List.filterMap_eq_nil_iff.2 fun m hm ↦ ?_
    have hnames := (isName_of_mem_walk hfs (List.mem_filter.1 hm).1).2
    have hstarts : (pathBelow walked m.1).startsWith ⟨"."⟩ = false := by
      have hdot : Path.components ⟨"."⟩ = [.current] := rfl
      obtain ⟨s, rest, rfl⟩ := List.exists_cons_of_ne_nil hne
      rw [Path.startsWith, components_pathBelow hnames, hwalked, hdot, Bool.eq_false_iff]
      simp
    have hstrip : (pathBelow walked m.1).stripBase? ⟨"."⟩ = none := by
      rw [Path.stripBase?, hstarts]
      rfl
    dsimp only
    rw [hstrip]
    split <;> rfl
  · rfl

/-- A file is in the unit of the directory that it lies right inside of. -/
theorem bind_guard_javaFile? {above names : List String} {s : String}
    (habove : ∀ t ∈ above ++ [s], IsName t) (hnames : ∀ t ∈ names, IsName t) (entry : Entry) :
    ((javaFile? (above ++ [s]) entry).bind <| Option.guard fun file ↦
      (unitDirectory file).same (unitPath names)) =
      if above = names then javaFile? (above ++ [s]) entry else none := by
  have hsame := same_unitPath_iff (fun t ht ↦ habove t (List.mem_append_left _ ht)) hnames
  rw [javaFile?]
  split
  · rw [Option.bind_some, Option.guard, unitDirectory_ofNames_concat habove]
    simp only [hsame]
  · rw [Option.bind_none, ite_self]

theorem bind_namesBelow?_concat {α : Type} (names above : List String) (s : String)
    (f : List String → Option α) :
    ((Files.namesBelow? names (above ++ [s])).bind fun rest ↦
      if rest.length = 1 then f rest else none) = if above = names then f [s] else none := by
  by_cases hright : above = names
  · subst hright
    rw [Files.namesBelow?_eq_some_iff.2 rfl, if_pos rfl]
    rfl
  · rw [if_neg hright, Option.bind_eq_none_iff]
    intro rest hrest
    refine if_neg fun hlength ↦ hright ?_
    obtain ⟨s', rfl⟩ := List.length_eq_one_iff.1 hlength
    exact (List.append_inj' (Files.namesBelow?_eq_some_iff.1 hrest) rfl).1

/-- **A walk finds the files right inside of a directory that it enters.** -/
theorem filter_javaFiles_walk (hfs : fs.WellFormed) (hroot : root.components ≠ [])
    (hwalked : walked.components = root.components ++ down.map .normal)
    (hdown : ∀ s ∈ down, IsName s) {names : List String} (hnames : ∀ s ∈ names, IsName s)
    (henters : ∀ s contents,
      (base ++ down ++ (names ++ [s]), Entry.file contents) ∈ fs.entries.entries →
      fs.Enters skip (base ++ down) (names ++ [s])) :
    ((javaFiles root walked (fs.walk skip (base ++ down))).filter fun file ↦
      (unitDirectory file).same (unitPath (down ++ names))) = filesIn fs base (down ++ names) := by
  rw [javaFiles_eq hroot hwalked hdown fun m hm ↦ isName_of_mem_walk hfs hm, Files.filterMap_walk,
    filesIn, ← List.filterMap_eq_filter, List.filterMap_filterMap]
  refine List.filterMap_congr fun ⟨place, entry⟩ he ↦ ?_
  rw [← List.append_assoc, Files.namesBelow?_append (base ++ down)]
  rcases hbelow : Files.namesBelow? (base ++ down) place with - | met
  · rfl
  obtain rfl : place = base ++ down ++ met := Files.namesBelow?_eq_some_iff.1 hbelow
  rw [Option.bind_some, Option.bind_some]
  rcases List.eq_nil_or_concat' met with rfl | ⟨above, s, rfl⟩
  · cases names <;> rfl
  have hmet : ∀ t ∈ down ++ above ++ [s], IsName t := fun t ht ↦ by
    rw [List.append_assoc, List.mem_append] at ht
    exact ht.elim (hdown t) fun ht ↦ hfs.names _ he t (List.mem_append_right _ ht)
  rw [bind_namesBelow?_concat]
  dsimp only
  rw [← List.append_assoc down]
  by_cases hright : above = names
  · subst hright
    rw [if_pos rfl]
    cases entry with
    | file contents =>
      rw [if_pos ⟨by simp, henters s contents he⟩, bind_guard_javaFile? hmet
        fun t ht ↦ hmet t (List.mem_append_left _ ht), if_pos rfl]
    | directory =>
      have hnone : javaFile? (down ++ above ++ [s]) .directory = none := rfl
      rw [hnone, ite_self]
      rfl
  · rw [if_neg hright]
    split
    · rw [bind_guard_javaFile? hmet fun t ht ↦ (List.mem_append.1 ht).elim (hdown t) (hnames t),
        if_neg (mt List.append_cancel_left hright)]
    · rfl

/-- What a walk finds is a Java file below its root, with nothing skipped on the way. -/
theorem exists_of_mem_javaFiles_walk (hfs : fs.WellFormed) (hroot : root.components ≠ [])
    (hwalked : walked.components = root.components ++ down.map .normal)
    (hdown : ∀ s ∈ down, IsName s) {place : Place} {file : Path}
    (h : file ∈ javaFiles root walked (fs.walk skip place)) :
    ∃ names s contents, file = ofNames (down ++ names ++ [s]) ∧
      (place ++ (names ++ [s]), Entry.file contents) ∈ fs.entries.entries ∧
      fs.Enters skip place (names ++ [s]) := by
  rw [javaFiles_eq hroot hwalked hdown fun m hm ↦ isName_of_mem_walk hfs hm] at h
  obtain ⟨⟨met, entry⟩, hmet, hfile⟩ := List.mem_filterMap.1 h
  obtain ⟨hentry, hne, henters⟩ := Files.mem_walk.1 hmet
  obtain ⟨names, s, rfl⟩ := (List.eq_nil_or_concat' met).resolve_left hne
  rw [javaFile?] at hfile
  split at hfile
  · next hjava =>
    cases entry with
    | file contents =>
      refine ⟨names, s, contents, ?_, hentry, henters⟩
      rw [List.append_assoc]
      exact (Option.some.inj hfile).symm
    | directory => cases hjava
  · cases hfile

end Walk

/-! ### The table of units -/

/-- The walks over the roots of a workspace, in order: each root, with the workspace in front of it,
and its pass. -/
def walks (root : Path) (config : Config) : List (Pass × Path) :=
  (passes root config).flatMap fun pass ↦ pass.roots.map fun walked ↦ (pass, walked)

/-- The files that the walks find, each with the kind of its walk. -/
def found (fs : Files) (root : Path) (config : Config) : List (UnitKind × Path) :=
  (walks root config).flatMap fun w ↦
    (w.1.filesUnder fs root config w.2).map fun file ↦ (w.1.kind, file)

/-- The unit that files with kinds make, if there are any: the first one has the kind. -/
def unitOf : List (UnitKind × Path) → Option FoundUnit
  | [] => none
  | (kind, file) :: rest => some ⟨kind, file :: rest.map (·.2)⟩

theorem plainUnits_eq (fs : Files) (root : Path) (config : Config) :
    plainUnits fs root config =
      (found fs root config).foldl (fun units e ↦ addFile e.1 units e.2) ∅ := by
  simp only [plainUnits, found, walks, addFiles, Pass.files, List.foldl_flatMap, List.foldl_map]

/-- A unit has the kind of its first file, and takes in the others. -/
theorem unitOf_concat (es : List (UnitKind × Path)) (kind : UnitKind) (file : Path) :
    unitOf (es ++ [(kind, file)]) = match unitOf es with
      | none => some ⟨kind, [file]⟩
      | some unit => some { unit with files := unit.files ++ [file] } := by
  rcases es with - | ⟨⟨kind', file'⟩, rest⟩
  · rfl
  · simp [unitOf]

/-- Files of one kind make a unit of it. -/
theorem unitOf_map (kind : UnitKind) {files : List Path} (hne : files ≠ []) :
    unitOf (files.map fun file ↦ (kind, file)) = some ⟨kind, files⟩ := by
  obtain ⟨file, rest, rfl⟩ := List.exists_cons_of_ne_nil hne
  simp [unitOf]

/-- **A unit is what was found in its directory.** -/
theorem get?_foldl_addFile (es : List (UnitKind × Path)) (directory : Path) :
    (es.foldl (fun units e ↦ addFile e.1 units e.2) ∅).get? directory =
      unitOf (es.filter fun e ↦ (unitDirectory e.2).same directory) := by
  induction es using List.reverseRecOn generalizing directory with
  | nil => rfl
  | append_singleton es e ih =>
    have hiff : compare directory (unitDirectory e.2) = .eq ↔
        (unitDirectory e.2).same directory = true := by
      rw [Path.compare_eq_iff, Path.same, beq_iff_eq, eq_comm]
    rw [List.foldl_append, List.foldl_cons, List.foldl_nil, addFile, SortedMap.get?_alter, ih, ih,
      List.filter_append, List.filter_singleton]
    by_cases hsame : (unitDirectory e.2).same directory = true
    · have hspelling : ∀ p : Path, p.same (unitDirectory e.2) = p.same directory := fun p ↦ by
        rw [Path.same, Path.same, beq_iff_eq.1 hsame]
      simp only [hspelling]
      rw [if_pos (hiff.2 hsame), hsame, cond_true]
      refine Eq.trans ?_ (unitOf_concat _ e.1 e.2).symm
      cases unitOf (es.filter fun e ↦ (unitDirectory e.2).same directory) <;> rfl
    · rw [if_neg (mt hiff.1 hsame), Bool.eq_false_iff.2 hsame, cond_false, List.append_nil]

/-- Units are keyed by the directories of files that were found. -/
theorem exists_of_mem_entries {es : List (UnitKind × Path)} {directory : Path} {unit : FoundUnit}
    (h : (directory, unit) ∈ (es.foldl (fun units e ↦ addFile e.1 units e.2) ∅).entries) :
    ∃ e ∈ es, unitDirectory e.2 = directory := by
  induction es using List.reverseRecOn generalizing unit with
  | nil => cases h
  | append_singleton es e ih =>
    rw [List.foldl_append, List.foldl_cons, List.foldl_nil] at h
    rcases SortedMap.key_mem_of_mem_alterEntries h with hkey | ⟨⟨directory', unit'⟩, hmem, hkey⟩
    · exact ⟨e, List.mem_append_right _ List.mem_cons_self, hkey.symm⟩
    · obtain rfl : directory' = directory := hkey
      obtain ⟨e', he', hdirectory⟩ := ih hmem
      exact ⟨e', List.mem_append_left _ he', hdirectory⟩

/-- Files of one directory make one unit. -/
theorem addFiles_eq_insert {kind : UnitKind} {directory : Path} {files : List Path}
    (hne : files ≠ []) (hfiles : ∀ file ∈ files, unitDirectory file = directory) :
    addFiles kind ∅ files = (∅ : Units).insert directory ⟨kind, files⟩ := by
  induction files using List.reverseRecOn with
  | nil => exact absurd rfl hne
  | append_singleton files file ih =>
    have hfile := hfiles file (List.mem_append_right _ List.mem_cons_self)
    rw [addFiles, List.foldl_append, List.foldl_cons, List.foldl_nil, ← addFiles, addFile, hfile]
    by_cases hempty : files = []
    · rw [hempty]
      rfl
    · rw [ih hempty fun file hfile ↦ hfiles file (List.mem_append_left _ hfile)]
      refine SortedMap.ext ?_
      simp [SortedMap.insert, SortedMap.alter, SortedMap.alterEntries, Std.ReflOrd.compare_self]

end JavaDeps.Discovery
