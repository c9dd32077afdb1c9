import JavaDeps.Proofs.Discovery.Coverage
import Mathlib.Data.List.Perm.Basic

/-!
# Folding units into modules

A module takes in the units of its directory and of all directories below it. **A unit goes to the
deepest module that takes it in, or stays where it is** (`FoldsInto`), and there is one such place
for each unit. Nothing is lost on the way: the files of a folded unit are those of all the units
that went there, in order, and its kind is that of the first of them (`groupModules_folds`).

Modules are compared with directories by their components, after both are cleaned. The workspace
itself is spelled `.`, which is no component of the directories below it, so **as a module the
workspace takes in no directory but itself** (`TakesIn`, `not_forall_ancestor_takes_in`).
-/

namespace JavaDeps.Discovery

open JavaDeps.Path (ofNames)

/-! ### Modules and what they take in -/

/-- Whether a module takes in the directory down some names: the module is spelled from the
workspace, and the names on the way to it lead on to the directory. The workspace as a module takes
in itself only. -/
def TakesIn (m : Path) (names : List String) : Prop :=
  IsPlain m.clean ∧ namesOf m.clean <+: names ∧ (namesOf m.clean = [] → names = [])

instance (m : Path) (names : List String) : Decidable (TakesIn m names) :=
  inferInstanceAs (Decidable (_ ∧ _ ∧ (_ → _)))

/-- Whether the unit of a directory is folded into that of another one, both given by their names:
the deepest module that takes it in, or else the directory itself. -/
def FoldsInto (modules : List Path) (names target : List String) : Prop :=
  (∃ m ∈ modules, TakesIn m names ∧ namesOf m.clean = target ∧
    ∀ m' ∈ modules, TakesIn m' names → (namesOf m'.clean).length ≤ target.length) ∨
  (∀ m ∈ modules, ¬ TakesIn m names) ∧ target = names

instance (modules : List Path) (names target : List String) :
    Decidable (FoldsInto modules names target) :=
  inferInstanceAs (Decidable (_ ∨ _))

/-- There is one place for each unit. -/
theorem FoldsInto.unique {modules : List Path} {names target target' : List String}
    (h : FoldsInto modules names target) (h' : FoldsInto modules names target') :
    target = target' := by
  rcases h with ⟨m, hm, htakes, rfl, hdeepest⟩ | ⟨hnone, rfl⟩
  · rcases h' with ⟨m', hm', htakes', rfl, hdeepest'⟩ | ⟨hnone, -⟩
    · -- two beginnings of one list with the same length
      have hlength := Nat.le_antisymm (hdeepest' m hm htakes) (hdeepest m' hm' htakes')
      exact (List.prefix_of_prefix_length_le htakes.2.1 htakes'.2.1 hlength.le).eq_of_length hlength
    · exact absurd htakes (hnone m hm)
  · rcases h' with ⟨m', hm', htakes', -, -⟩ | ⟨-, rfl⟩
    · exact absurd htakes' (hnone m' hm')
    · rfl

section Paths

variable {m p : Path} {names way : List String}

/-- A cleaned path that leads down is the path down its names. -/
theorem clean_eq_unitPath (h : IsPlain p.clean) : p.clean = unitPath (namesOf p.clean) := by
  by_cases hnil : Path.cleanComponents p.components = []
  · rw [Path.clean_eq_dot_iff.2 hnil]
    rfl
  · have hcomponents := Path.components_clean p
    rw [if_neg hnil] at hcomponents
    have hnormal : Path.cleanComponents p.components = (namesOf p.clean).map .normal := by
      rw [← h.filter_components, hcomponents, List.filter_eq_self.2]
      intro c hc
      rw [bne_iff_ne]
      rintro rfl
      exact Path.current_not_mem_cleanComponents p hc
    have hne : namesOf p.clean ≠ [] := by
      intro hnames
      rw [hnames] at hnormal
      exact hnil hnormal
    rw [unitPath, if_neg hne, ofNames, ← hnormal, Path.clean]
    split
    · next h => exact absurd h hnil
    · rfl

/-- Of paths down some names, the names tell which lies in which, `.` apart. -/
theorem startsWith_unitPath_iff (hnames : ∀ s ∈ names, IsName s) (hway : ∀ s ∈ way, IsName s) :
    (unitPath names).startsWith (unitPath way) = true ↔
      way <+: names ∧ (way = [] → names = []) := by
  rw [Path.startsWith, List.isPrefixOf_iff_prefix, components_unitPath hnames,
    components_unitPath hway]
  rcases names with - | ⟨s, names⟩ <;> rcases way with - | ⟨t, way⟩
  · simp
  · simp
  · simp
  · rw [if_neg (List.cons_ne_nil _ _), if_neg (List.cons_ne_nil _ _), map_normal_prefix_iff]
    simp

/-- **A directory lies in a module as it is compared exactly if the module takes it in.** -/
theorem startsWith_clean_iff (hnames : ∀ s ∈ names, IsName s) :
    (unitPath names).startsWith m.clean = true ↔ TakesIn m names := by
  have hway : ∀ s ∈ namesOf m.clean, IsName s := fun s hs ↦ isName_of_mem_namesOf hs
  constructor
  · intro h
    -- what stands first in a path that leads down leads down
    have hplain : IsPlain m.clean := fun c hc ↦ isPlain_unitPath hnames c <|
      (List.isPrefixOf_iff_prefix.1 h).subset hc
    rw [clean_eq_unitPath hplain, startsWith_unitPath_iff hnames hway] at h
    exact ⟨hplain, h⟩
  · rintro ⟨hplain, htakes⟩
    rw [clean_eq_unitPath hplain, startsWith_unitPath_iff hnames hway]
    exact htakes

/-- Modules that take in one directory are as deep as the names on the way to them. -/
theorem TakesIn.length_components (h : TakesIn m names) :
    m.clean.components.length = if names = [] then 1 else (namesOf m.clean).length := by
  obtain ⟨hplain, habove, hself⟩ := h
  have hway : ∀ s ∈ namesOf m.clean, IsName s := fun s hs ↦ isName_of_mem_namesOf hs
  have hcomponents := components_unitPath hway
  rw [← clean_eq_unitPath hplain] at hcomponents
  rw [hcomponents]
  by_cases hnames : names = []
  · rw [hnames, List.prefix_nil] at habove
    simp [hnames, habove]
  · rw [if_neg (mt hself hnames), if_neg hnames, List.length_map]

end Paths

/-! ### The deepest module -/

/-- The deeper one of two paths, the second if they are as deep. -/
def deeper (best : Option Path) (m : Path) : Option Path :=
  match best with
  | none => some m
  | some b => if b.components.length ≤ m.components.length then some m else some b

theorem moduleOf?_eq (modules : List Path) (directory : Path) :
    moduleOf? modules directory = (modules.filter directory.startsWith).foldl deeper none :=
  rfl

/-- The deepest of some paths is one of them, and none is deeper. -/
theorem foldl_deeper_cases (ms : List Path) :
    (ms = [] ∧ ms.foldl deeper none = none) ∨ ∃ m ∈ ms, ms.foldl deeper none = some m ∧
      ∀ m' ∈ ms, m'.components.length ≤ m.components.length := by
  induction ms using List.reverseRecOn with
  | nil => exact .inl ⟨rfl, rfl⟩
  | append_singleton ms m ih =>
    rw [List.foldl_append, List.foldl_cons, List.foldl_nil]
    refine .inr ?_
    rcases ih with ⟨rfl, hnone⟩ | ⟨b, hb, hbest, hdeepest⟩
    · exact ⟨m, by simp, by rw [hnone]; rfl, by simp⟩
    · rw [hbest, deeper]
      split
      · next hle =>
        refine ⟨m, by simp, rfl, fun m' hm' ↦ ?_⟩
        rcases List.mem_append.1 hm' with hm' | hm'
        · exact (hdeepest m' hm').trans hle
        · rw [List.mem_singleton.1 hm']
      · next hlt =>
        refine ⟨b, List.mem_append_left _ hb, rfl, fun m' hm' ↦ ?_⟩
        rcases List.mem_append.1 hm' with hm' | hm'
        · exact hdeepest m' hm'
        · rw [List.mem_singleton.1 hm']
          omega

/-- Where the unit of a directory goes: to the deepest module that it lies in, or else it stays
where it is. -/
def targetOf (modules : List Path) (directory : Path) : Path :=
  (moduleOf? (modules.map Path.clean) directory).getD directory

/-- **The unit of a directory goes where it is folded into.** -/
theorem exists_foldsInto (modules : List Path) {names : List String}
    (hnames : ∀ s ∈ names, IsName s) :
    ∃ target, (∀ s ∈ target, IsName s) ∧ FoldsInto modules names target ∧
      targetOf modules (unitPath names) = unitPath target := by
  have hmem {m : Path} : m ∈ (modules.map Path.clean).filter (unitPath names).startsWith ↔
      ∃ m' ∈ modules, TakesIn m' names ∧ m'.clean = m := by
    rw [List.mem_filter, List.mem_map]
    constructor
    · rintro ⟨⟨m', hm', rfl⟩, hstarts⟩
      exact ⟨m', hm', (startsWith_clean_iff hnames).1 hstarts, rfl⟩
    · rintro ⟨m', hm', htakes, rfl⟩
      exact ⟨⟨m', hm', rfl⟩, (startsWith_clean_iff hnames).2 htakes⟩
  rw [targetOf, moduleOf?_eq]
  rcases foldl_deeper_cases ((modules.map Path.clean).filter (unitPath names).startsWith) with
    ⟨hnil, hnone⟩ | ⟨_, hbest, hsome, hdeepest⟩
  · rw [hnone]
    refine ⟨names, hnames, .inr ⟨fun m hm htakes ↦ ?_, rfl⟩, rfl⟩
    have hin := hmem.2 ⟨m, hm, htakes, rfl⟩
    rw [hnil] at hin
    cases hin
  · obtain ⟨m, hm, htakes, rfl⟩ := hmem.1 hbest
    rw [hsome]
    refine ⟨namesOf m.clean, fun s hs ↦ isName_of_mem_namesOf hs,
      .inl ⟨m, hm, htakes, rfl, fun m' hm' htakes' ↦ ?_⟩, clean_eq_unitPath htakes.1⟩
    have hlength := hdeepest m'.clean (hmem.2 ⟨m', hm', htakes', rfl⟩)
    rw [htakes'.length_components, htakes.length_components] at hlength
    -- the workspace counts as one deep, but is taken in by itself only
    split at hlength
    · next hnil =>
      have hway := htakes'.2.1
      rw [hnil, List.prefix_nil] at hway
      rw [hway]
      exact Nat.zero_le _
    · exact hlength

/-- The unit of a directory goes to another one exactly if it is folded into that. -/
theorem compare_targetOf_iff (modules : List Path) {names target : List String}
    (hnames : ∀ s ∈ names, IsName s) (htarget : ∀ s ∈ target, IsName s) :
    compare (unitPath target) (targetOf modules (unitPath names)) = .eq ↔
      FoldsInto modules names target := by
  obtain ⟨target', hnames', hfolds, heq⟩ := exists_foldsInto modules hnames
  have hsame := same_unitPath_iff htarget hnames'
  rw [Path.same, beq_iff_eq] at hsame
  rw [heq, Path.compare_eq_iff, hsame]
  constructor
  · rintro rfl
    exact hfolds
  · exact fun h ↦ h.unique hfolds

/-! ### Folding -/

/-- The unit that some units make when they are folded into one, if there are any: the first one has
the kind. -/
def foldedUnit : List (Path × FoundUnit) → Option FoundUnit
  | [] => none
  | e :: rest => some ⟨e.2.kind, (e :: rest).flatMap (·.2.files)⟩

/-- A unit that is folded in last adds its files to what is there, and decides the kind only if it
is first. -/
theorem foldedUnit_concat (es : List (Path × FoundUnit)) (e : Path × FoundUnit) :
    foldedUnit (es ++ [e]) = some ((foldedUnit es).elim e.2 fun unit ↦
      { unit with files := unit.files ++ e.2.files }) := by
  rcases es with - | ⟨e', rest⟩
  · simp [foldedUnit]
  · simp [foldedUnit]

/-- **A folded unit is what went to its directory.** -/
theorem get?_foldl_foldUnit (modules : List Path) (es : List (Path × FoundUnit))
    (directory : Path) :
    (es.foldl (foldUnit (modules.map Path.clean)) ∅).get? directory =
      foldedUnit (es.filter fun e ↦ compare directory (targetOf modules e.1) == .eq) := by
  induction es using List.reverseRecOn generalizing directory with
  | nil => rfl
  | append_singleton es e ih =>
    rw [List.foldl_append, List.foldl_cons, List.foldl_nil, foldUnit, SortedMap.get?_alter,
      ← targetOf, ih, ih, List.filter_append, List.filter_singleton]
    -- a unit that goes to this directory joins those before it, and any other one leaves them
    by_cases hsame : compare directory (targetOf modules e.1) = .eq
    · have hspelling (p : Path) : compare (targetOf modules e.1) p = compare directory p :=
        (Std.TransCmp.congr_left hsame).symm
      simp only [hspelling]
      rw [if_pos hsame, hsame, beq_self_eq_true, cond_true, foldedUnit_concat]
      cases foldedUnit (es.filter fun e ↦ compare directory (targetOf modules e.1) == .eq) <;> rfl
    · rw [if_neg hsame, beq_eq_false_iff_ne.2 hsame, cond_false, List.append_nil]

/-- To fold in a unit lists its files beside those that are listed. -/
theorem perm_listed_foldUnit (modules : List Path) (grouped : Units) (e : Path × FoundUnit) :
    (listed (foldUnit modules grouped e)).Perm (e.2.files ++ listed grouped) := by
  refine SortedMap.perm_flatMap_alterEntries (fun old ↦ ?_) _ _
  cases old with
  | none => simp
  | some unit =>
    rw [Option.toList_some, Option.toList_some, List.flatMap_singleton, List.flatMap_singleton]
    exact List.perm_append_comm

/-- No file is lost by folding, and none is listed twice for it. -/
theorem perm_listed_foldl_foldUnit (modules : List Path) (es : List (Path × FoundUnit)) :
    (listed (es.foldl (foldUnit modules) ∅)).Perm (es.flatMap (·.2.files)) := by
  induction es using List.reverseRecOn with
  | nil => exact .refl _
  | append_singleton es e ih =>
    rw [List.foldl_append, List.foldl_cons, List.foldl_nil, List.flatMap_append,
      List.flatMap_singleton]
    exact (perm_listed_foldUnit modules _ e).trans
      ((ih.append_left _).trans List.perm_append_comm)

theorem perm_files_sorted (unit : FoundUnit) : unit.sorted.files.Perm unit.files :=
  List.mergeSort_perm _ _

/-- **No file is lost or doubled.** -/
theorem perm_listed_groupModules (modules : List Path) (units : Units) :
    (listed (groupModules modules units)).Perm (listed units) := by
  rw [groupModules]
  split
  · exact .refl _
  · refine .trans ?_ (perm_listed_foldl_foldUnit (modules.map Path.clean) units.entries)
    rw [listed, SortedMap.mapValues, List.flatMap_map]
    exact .flatMap_left _ fun e _ ↦ perm_files_sorted e.2

/-- Folded units are keyed by where units went. -/
theorem exists_of_mem_foldl_foldUnit {modules : List Path} {es : List (Path × FoundUnit)}
    {directory : Path} {unit : FoundUnit}
    (h : (directory, unit) ∈ (es.foldl (foldUnit (modules.map Path.clean)) ∅).entries) :
    ∃ e ∈ es, targetOf modules e.1 = directory := by
  induction es using List.reverseRecOn generalizing unit with
  | nil => cases h
  | append_singleton es e ih =>
    rw [List.foldl_append, List.foldl_cons, List.foldl_nil] at h
    rcases SortedMap.key_mem_of_mem_alterEntries h with hkey | ⟨⟨directory', unit'⟩, hmem, hkey⟩
    · exact ⟨e, List.mem_append_right _ List.mem_cons_self, hkey.symm⟩
    · obtain rfl : directory' = directory := hkey
      obtain ⟨e', he', htarget⟩ := ih hmem
      exact ⟨e', List.mem_append_left _ he', htarget⟩

/-! ### The law -/

/-- Whether a unit is made of some units: it has their files, in order, and the kind of the first of
them. -/
structure Gathers (es : List (Path × FoundUnit)) (unit : FoundUnit) : Prop where
  files : unit.files.Perm (es.flatMap (·.2.files))
  ordered : unit.files.Pairwise fun a b ↦ (compare a b).isLE
  kind : es.head?.map (·.2.kind) = some unit.kind

/-- A folded unit, when it is sorted, gathers the units that it was folded from. -/
theorem gathers_sorted {es : List (Path × FoundUnit)} {unit : FoundUnit}
    (h : foldedUnit es = some unit) : Gathers es unit.sorted := by
  rcases es with - | ⟨e, rest⟩
  · cases h
  · obtain rfl := Option.some.inj h
    exact ⟨perm_files_sorted _, pairwise_mergeSort_isLE compare _, rfl⟩

/-- Whether units are keyed by cleaned directories of the workspace, as discovery keys them.
Directories of other units would be spelled in several ways. -/
def Keyed (units : Units) : Prop :=
  ∀ directory ∈ units.keys, directory.clean = directory ∧ IsPlain directory

instance (units : Units) : Decidable (Keyed units) :=
  inferInstanceAs (Decidable (∀ directory ∈ units.keys, directory.clean = directory ∧ _))

/-- **What it means that units are folded into modules.** -/
structure Folds (modules : List Path) (units grouped : Units) : Prop where
  /-- There is one place for each unit. -/
  target : ∀ e ∈ units.entries, ∃! target, FoldsInto modules (namesOf e.1) target
  /-- Units are found where others were folded into, and nowhere else. -/
  keys : ∀ e ∈ grouped.entries, ∃ names, (∀ s ∈ names, IsName s) ∧ e.1 = unitPath names ∧
    ∃ e' ∈ units.entries, FoldsInto modules (namesOf e'.1) names
  /-- A unit is made of those that were folded into it, in the order of their directories. -/
  unit : ∀ names, (∀ s ∈ names, IsName s) → ∀ e ∈ units.entries,
    FoldsInto modules (namesOf e.1) names → ∃ unit, grouped.get? (unitPath names) = some unit ∧
      Gathers (units.entries.filter fun e ↦ FoldsInto modules (namesOf e.1) names) unit
  /-- All files stay, each as often as it was. -/
  files : (listed grouped).Perm (listed units)

section

variable {modules : List Path} {units : Units}

/-- A unit stands under the path that its names spell. -/
theorem Keyed.eq_unitPath (h : Keyed units) {e : Path × FoundUnit} (he : e ∈ units.entries) :
    e.1 = unitPath (namesOf e.1) := by
  obtain ⟨hclean, hplain⟩ := h e.1 (List.mem_map_of_mem he)
  rw [← hclean] at hplain
  have hunit := clean_eq_unitPath hplain
  rwa [hclean] at hunit

/-- Where a unit goes, by names. -/
theorem Keyed.exists_target (h : Keyed units) (modules : List Path) {e : Path × FoundUnit}
    (he : e ∈ units.entries) : ∃ target, (∀ s ∈ target, IsName s) ∧
      FoldsInto modules (namesOf e.1) target ∧ targetOf modules e.1 = unitPath target := by
  have htarget := exists_foldsInto modules fun s hs ↦ isName_of_mem_namesOf (p := e.1) hs
  rwa [← h.eq_unitPath he] at htarget

theorem groupModules_eq (hmodules : modules ≠ []) : groupModules modules units =
    (units.entries.foldl (foldUnit (modules.map Path.clean)) ∅).mapValues FoundUnit.sorted := by
  rw [groupModules, if_neg (by simpa using hmodules)]

/-- **What is folded into a directory makes its unit.** -/
theorem get?_groupModules (hmodules : modules ≠ []) (hkeys : Keyed units) {names : List String}
    (hnames : ∀ s ∈ names, IsName s) :
    (groupModules modules units).get? (unitPath names) =
      (foldedUnit (units.entries.filter fun e ↦ FoldsInto modules (namesOf e.1) names)).map
        FoundUnit.sorted := by
  rw [groupModules_eq hmodules, SortedMap.get?_mapValues, get?_foldl_foldUnit]
  congr 2
  refine List.filter_congr fun e he ↦ ?_
  have hiff := compare_targetOf_iff modules (fun s hs ↦ isName_of_mem_namesOf (p := e.1) hs) hnames
  rw [← hkeys.eq_unitPath he] at hiff
  rw [Bool.eq_iff_iff, beq_iff_eq, hiff, decide_eq_true_iff]

/-- **Every unit is folded into the deepest module that takes it in**, for units that are keyed by
cleaned directories of the workspace. -/
theorem groupModules_folds (hmodules : modules ≠ []) (hkeys : Keyed units) :
    Folds modules units (groupModules modules units) where
  target e he := by
    obtain ⟨target, -, hfolds, -⟩ := hkeys.exists_target modules he
    exact ⟨target, hfolds, fun _ h ↦ h.unique hfolds⟩
  keys e he := by
    rw [groupModules_eq hmodules] at he
    obtain ⟨e', he', rfl⟩ := List.mem_map.1 he
    obtain ⟨e, hentry, htarget⟩ := exists_of_mem_foldl_foldUnit he'
    obtain ⟨target, hnames, hfolds, heq⟩ := hkeys.exists_target modules hentry
    exact ⟨target, hnames, htarget.symm.trans heq, e, hentry, hfolds⟩
  unit names hnames e he hfolds := by
    have hmem : e ∈ units.entries.filter fun e ↦ FoldsInto modules (namesOf e.1) names :=
      List.mem_filter.2 ⟨he, decide_eq_true hfolds⟩
    rw [get?_groupModules hmodules hkeys hnames]
    rcases hfolded : foldedUnit _ with - | unit
    · generalize units.entries.filter _ = es at hmem hfolded
      cases es with
      | nil => cases hmem
      | cons _ _ => cases hfolded
    · exact ⟨unit.sorted, rfl, gathers_sorted hfolded⟩
  files := perm_listed_groupModules modules units

end

/-- Units below a module, below a module in that one, and beside both. -/
def nested : Units := .ofList [
  (⟨"lib/core/a"⟩, ⟨.library, [⟨"lib/core/a/A.java"⟩]⟩),
  (⟨"lib/core/b/c"⟩, ⟨.test, [⟨"lib/core/b/c/C.java"⟩]⟩),
  (⟨"lib/core/io/fast"⟩, ⟨.library, [⟨"lib/core/io/fast/F.java"⟩]⟩),
  (⟨"lib/other"⟩, ⟨.library, [⟨"lib/other/O.java"⟩]⟩)]

/-- What the outer module takes in of such units, with modules that are spelled in other ways. -/
theorem groupModules_folds_of_nested :
    let grouped := groupModules [⟨"./lib/core/"⟩, ⟨"lib/x/../core/io"⟩] nested
    grouped.keys = [⟨"lib/core"⟩, ⟨"lib/core/io"⟩, ⟨"lib/other"⟩] ∧
      ∃ unit, grouped.get? ⟨"lib/core"⟩ = some unit ∧ unit.kind = .library ∧
        unit.files.Perm [⟨"lib/core/a/A.java"⟩, ⟨"lib/core/b/c/C.java"⟩] := by
  intro grouped
  have hfolds : Folds [⟨"./lib/core/"⟩, ⟨"lib/x/../core/io"⟩] nested grouped :=
    groupModules_folds (List.cons_ne_nil _ _) (by decide +kernel)
  have hfolded : (nested.entries.filter fun e ↦ FoldsInto [⟨"./lib/core/"⟩, ⟨"lib/x/../core/io"⟩]
      (namesOf e.1) ["lib", "core"]) = [(⟨"lib/core/a"⟩, ⟨.library, [⟨"lib/core/a/A.java"⟩]⟩),
        (⟨"lib/core/b/c"⟩, ⟨.test, [⟨"lib/core/b/c/C.java"⟩]⟩)] := by decide +kernel
  obtain ⟨unit, hunit, hgathers⟩ := hfolds.unit ["lib", "core"] (by decide)
    (⟨"lib/core/a"⟩, ⟨.library, [⟨"lib/core/a/A.java"⟩]⟩) (by decide +kernel) (by decide +kernel)
  rw [hfolded] at hgathers
  refine ⟨by decide +kernel, unit, hunit, ?_, hgathers.files⟩
  exact (Option.some.inj hgathers.kind).symm

/-- **The workspace as a module does not take in the directories below it**, though the way to it is
the beginning of the way to all of them. -/
theorem not_forall_ancestor_takes_in :
    ¬ ∀ (modules : List Path) (units : Units), modules ≠ [] → (∀ m ∈ modules, IsPlain m.clean) →
      Keyed units → ∀ e ∈ units.entries, ∀ m ∈ modules, namesOf m.clean <+: namesOf e.1 →
      (∀ m' ∈ modules, namesOf m'.clean <+: namesOf e.1 →
        (namesOf m'.clean).length ≤ (namesOf m.clean).length) →
      ∃ unit, (groupModules modules units).get? m.clean = some unit ∧ e.2.files ⊆ unit.files := by
  intro h
  have hkeyed : Keyed (.ofList [(⟨"pkg"⟩, ⟨.library, [⟨"pkg/A.java"⟩]⟩)]) := by decide +kernel
  obtain ⟨unit, hunit, -⟩ := h [⟨"."⟩] _ (List.cons_ne_nil _ _) (by decide +kernel) hkeyed
    (⟨"pkg"⟩, ⟨.library, [⟨"pkg/A.java"⟩]⟩) (by decide +kernel) ⟨"."⟩ (by decide +kernel)
    (by decide +kernel) (by decide +kernel)
  have hnone : (groupModules [⟨"."⟩] (.ofList [(⟨"pkg"⟩, ⟨.library, [⟨"pkg/A.java"⟩]⟩)])).get?
      (Path.clean ⟨"."⟩) = none := by decide +kernel
  rw [hnone] at hunit
  cases hunit

end JavaDeps.Discovery
