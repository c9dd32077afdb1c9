import JavaDeps.Config.Validation
import JavaDeps.Proofs.Discovery.FoundUnits

/-!
# Naming a unit that was found

A unit can be found by walks over all roots, or its directory can be named. **Both ways agree**
(`explicitUnits_of_mem_discoverUnits`) where the roots say of each directory to which walk it
belongs (`RootsApart`): a walk enters no root of a later pass, so a root may lie in one of an
earlier pass, and nowhere else. One workspace is left out: what is named below `.` is cleaned to a
path that no longer starts with `.`, so that **nothing is found in it**.
-/

namespace JavaDeps.Discovery

open JavaDeps.Path (ofNames cleanComponents)
open Resolve (UnitKind)

/-! ### Roots -/

/-- Whether a path is spelled below another one, with names alone behind it. A path lies under
itself, too. -/
def LiesUnder (root p : Path) : Prop :=
  ∃ names : List String, p.components = root.components ++ names.map .normal

/-- A relative path without `..` is spelled below where it is taken. -/
theorem IsPlain.liesUnder {root p : Path} (h : IsPlain p) (hroot : root.components ≠ []) :
    LiesUnder root (root.join p) :=
  ⟨namesOf p, h.components_join (Path.text_ne_empty hroot)⟩

/-- Whether the roots of a configuration are spelled below the workspace, and lie in each other only
where the walk over the outer one skips the inner one. -/
structure RootsApart (root : Path) (config : Config) : Prop where
  under : ∀ r ∈ config.sourceRoots root ++ config.testRoots root ++ config.generatedRoots root,
    LiesUnder root r
  /-- No root lies in one of a later pass or one that comes later in its own, or is the same. -/
  inOrder : (config.sourceRoots root ++ config.testRoots root ++
    config.generatedRoots root).Pairwise fun r r' ↦ r.startsWith r' = false
  /-- Nor does a root lie in one of its own pass that comes earlier. -/
  sources : (config.sourceRoots root).Pairwise fun r r' ↦ r'.startsWith r = false
  tests : (config.testRoots root).Pairwise fun r r' ↦ r'.startsWith r = false
  generated : (config.generatedRoots root).Pairwise fun r r' ↦ r'.startsWith r = false

/-- Whether a walk leaves the directories of a later one to it: it does not start in the later root,
and skips it. -/
def Yields (w w' : Pass × Path) : Prop :=
  w.2.startsWith w'.2 = false ∧ (w'.2.startsWith w.2 = true → w'.2 ∈ w.1.skips)

theorem map_normal_prefix_iff {names names' : List String} :
    names.map Component.normal <+: names'.map .normal ↔ names <+: names' := by
  rw [List.prefix_iff_eq_take, List.prefix_iff_eq_take, List.length_map, ← List.map_take,
    List.map_inj_right fun _ _ ↦ Component.normal.inj]

/-- Of paths that are spelled below one another, the names tell which lies in which. -/
theorem startsWith_iff_names {root p q : Path} {names names' : List String}
    (hp : p.components = root.components ++ names.map .normal)
    (hq : q.components = root.components ++ names'.map .normal) :
    p.startsWith q = true ↔ names' <+: names := by
  rw [Path.startsWith, List.isPrefixOf_iff_prefix, hp, hq, List.prefix_append_right_inj,
    map_normal_prefix_iff]

section Walks

variable {root : Path} {config : Config}

/-- The walks over the roots of one list, which share the kind and the roots that they skip. -/
def walksOver (roots : List Path) (kind : UnitKind) (skips : List Path) : List (Pass × Path) :=
  roots.map fun walked ↦ (⟨roots, kind, skips⟩, walked)

/-- The walks of a workspace are over source roots, test roots and generated roots, in this order,
and each skips the roots of the later ones. -/
theorem walks_eq (root : Path) (config : Config) :
    walks root config =
      walksOver (config.sourceRoots root) .library
          (config.testRoots root ++ config.generatedRoots root) ++
        (walksOver (config.testRoots root) .test (config.generatedRoots root) ++
          walksOver (config.generatedRoots root) .generated []) := by
  simp [walks, passes, walksOver]

theorem mem_walksOver {roots : List Path} {walked : Path} (h : walked ∈ roots) (kind : UnitKind)
    (skips : List Path) : (⟨roots, kind, skips⟩, walked) ∈ walksOver roots kind skips :=
  List.mem_map.2 ⟨walked, h, rfl⟩

/-- Walks over one list of roots that are told apart. -/
theorem walksOver_yield {roots : List Path} {kind : UnitKind} {skips : List Path}
    (hlater : roots.Pairwise fun r r' ↦ r.startsWith r' = false)
    (hearlier : roots.Pairwise fun r r' ↦ r'.startsWith r = false) :
    (walksOver roots kind skips).Pairwise Yields := by
  rw [walksOver, List.pairwise_map]
  refine (hlater.and hearlier).imp fun h ↦ ⟨h.1, fun hstarts ↦ ?_⟩
  rw [h.2] at hstarts
  cases hstarts

/-- Walks over one list of roots and over another one that they skip. -/
theorem walksOver_yield_walksOver {roots roots' : List Path} {kind kind' : UnitKind}
    {skips skips' : List Path} (hlater : ∀ r ∈ roots, ∀ r' ∈ roots', r.startsWith r' = false)
    (hskips : ∀ r' ∈ roots', r' ∈ skips) :
    ∀ w ∈ walksOver roots kind skips, ∀ w' ∈ walksOver roots' kind' skips', Yields w w' := by
  intro w hw w' hw'
  obtain ⟨r, hr, rfl⟩ := List.mem_map.1 hw
  obtain ⟨r', hr', rfl⟩ := List.mem_map.1 hw'
  exact ⟨hlater r hr r' hr', fun _ ↦ hskips r' hr'⟩

/-- **Each walk leaves to the later ones what is theirs.** -/
theorem walks_yield (h : RootsApart root config) : (walks root config).Pairwise Yields := by
  have hinOrder := h.inOrder
  simp only [List.pairwise_append, List.mem_append, or_imp, forall_and] at hinOrder
  obtain ⟨⟨hss, htt, hst⟩, hgg, hsg, htg⟩ := hinOrder
  rw [walks_eq, List.pairwise_append, List.pairwise_append]
  refine ⟨walksOver_yield hss h.sources,
    ⟨walksOver_yield htt h.tests, walksOver_yield hgg h.generated, ?_⟩, ?_⟩
  · exact walksOver_yield_walksOver htg fun r hr ↦ hr
  · intro w hw w' hw'
    rcases List.mem_append.1 hw' with hw' | hw'
    · exact walksOver_yield_walksOver hst (fun r hr ↦ List.mem_append_left _ hr) w hw w' hw'
    · exact walksOver_yield_walksOver hsg (fun r hr ↦ List.mem_append_right _ hr) w hw w' hw'

end Walks

/-! ### The walk that finds a unit -/

/-- Whether a walk finds a file right inside of a directory, given by its names. -/
def FindsIn (fs : Files) (root : Path) (config : Config) (base : Place) (w : Pass × Path)
    (directory : List String) : Prop :=
  ∃ down names s contents, w.2.components = root.components ++ down.map .normal ∧
    (∀ t ∈ down ++ names ++ [s], IsName t) ∧ directory = down ++ names ∧
    (base ++ down ++ (names ++ [s]), Entry.file contents) ∈ fs.entries.entries ∧
    fs.Enters (w.1.isSkipped config w.2) (base ++ down) (names ++ [s])

section FindsIn

variable {fs : Files} {root : Path} {config : Config} {base : Place} {w w' : Pass × Path}
  {directory : List String}

/-- A walk finds nothing in what it leaves to a later one. -/
theorem FindsIn.not_below (hfs : fs.WellFormed) (h : FindsIn fs root config base w directory)
    (hyields : Yields w w') {down' : List String}
    (hw' : w'.2.components = root.components ++ down'.map .normal) : ¬ down' <+: directory := by
  obtain ⟨down, names, s, contents, hw, hnames, rfl, hfile, henters⟩ := h
  rw [Yields, ← Bool.not_eq_true, startsWith_iff_names hw hw', startsWith_iff_names hw' hw]
    at hyields
  obtain ⟨hlater, hskips⟩ := hyields
  intro habove
  -- both roots lie above the directory, so the later one lies below the walk, and is skipped
  obtain ⟨rest, rfl⟩ :=
    (List.prefix_or_prefix_of_prefix (List.prefix_append _ _) habove).resolve_right hlater
  obtain ⟨below, rfl⟩ : rest <+: names := (List.prefix_append_right_inj down).1 habove
  have hne : rest ≠ [] := by
    rintro rfl
    exact hlater (by simp)
  have hentry : (base ++ down ++ rest, Entry.directory) ∈ fs.entries.entries := by
    rw [List.append_assoc rest, ← List.append_assoc (base ++ down)] at hfile
    refine Files.mem_entries_of_entryAt? (by simp [hne]) (hfs.directory_above ?_
      (Files.entryAt?_of_mem ?_ hfile)) <;> simp
  have hentered := henters rest .directory hne
    ((List.prefix_append _ _).trans (List.prefix_append _ _)) hentry
  have hskipped : w.1.skips.any (·.same (pathBelow w.2 rest)) = true := by
    refine List.any_eq_true.2 ⟨w'.2, hskips (List.prefix_append _ _), ?_⟩
    rw [Path.same, beq_iff_eq, hw', components_pathBelow fun t ht ↦ hnames t (by simp [ht]), hw,
      List.map_append, List.append_assoc]
  rw [Pass.isSkipped, hskipped, Bool.or_true] at hentered
  cases hentered

/-- What is found in a walk is below the root that is walked. -/
theorem FindsIn.below_root (h : FindsIn fs root config base w directory) {down' : List String}
    (hw : w.2.components = root.components ++ down'.map .normal) : down' <+: directory := by
  obtain ⟨down, names, s, contents, hw', -, rfl, -⟩ := h
  have hdown : down' <+: down :=
    (startsWith_iff_names hw' hw).1 (List.isPrefixOf_iff_prefix.2 (List.prefix_refl _))
  exact hdown.trans (List.prefix_append _ _)

/-- What is found in lies in a directory. -/
theorem FindsIn.entryAt? (hfs : fs.WellFormed) (h : FindsIn fs root config base w directory) :
    fs.entryAt? (base ++ directory) = some .directory := by
  obtain ⟨down, names, s, contents, -, -, rfl, hfile, -⟩ := h
  have hthere := Files.entryAt?_of_mem (by simp) hfile
  rw [← List.append_assoc, List.append_assoc base] at hthere
  exact hfs.directory_above (List.cons_ne_nil _ _) hthere

/-- Two walks do not find the same unit. -/
theorem FindsIn.false_of_yields (hfs : fs.WellFormed) (h : FindsIn fs root config base w directory)
    (h' : FindsIn fs root config base w' directory) (hyields : Yields w w') : False := by
  obtain ⟨down, -, -, -, hw', -⟩ := id h'
  exact h.not_below hfs hyields hw' (h'.below_root hw')

/-- What a walk finds lies right inside of a directory. -/
theorem exists_findsIn (hfs : fs.WellFormed) (hroot : root.components ≠ [])
    (hbase : fs.directoryAt? root = some base) {down : List String}
    (hw : w.2.components = root.components ++ down.map .normal) (hdown : ∀ t ∈ down, IsName t)
    {file : Path} (hfile : file ∈ w.1.filesUnder fs root config w.2) :
    ∃ directory s, (∀ t ∈ directory ++ [s], IsName t) ∧ file = ofNames (directory ++ [s]) ∧
      FindsIn fs root config base w directory := by
  rw [filesUnder_eq, Files.directoryAt?_below hfs hroot hbase hw] at hfile
  split at hfile
  · next place hplace =>
    obtain rfl := Option.some.inj (Option.ite_none_right_eq_some.1 hplace).2
    obtain ⟨names, s, contents, rfl, hentry, henters⟩ :=
      exists_of_mem_javaFiles_walk hfs hroot hw hdown hfile
    have hnames : ∀ t ∈ down ++ names ++ [s], IsName t := fun t ht ↦ by
      rw [List.append_assoc, List.mem_append] at ht
      exact ht.elim (hdown t) fun ht ↦ hfs.names _ hentry t (List.mem_append_right _ ht)
    exact ⟨down ++ names, s, hnames, rfl, down, names, s, contents, hw, hnames, rfl, hentry,
      henters⟩
  · cases hfile

/-- Whether no root that is walked later is a file, in any spelling. -/
def NoRootIsFile (fs : Files) (root : Path) (config : Config) : Prop :=
  ∀ r ∈ config.testRoots root ++ config.generatedRoots root, ∀ p : Path, r.same p = true →
    fs.isFile p = false

/-- What a walk skips are test roots and generated roots. -/
theorem mem_roots_of_mem_skips (hw : w ∈ walks root config) {r : Path} (hr : r ∈ w.1.skips) :
    r ∈ config.testRoots root ++ config.generatedRoots root := by
  rw [walks_eq] at hw
  simp only [walksOver, List.mem_append, List.mem_map] at hw
  rcases hw with ⟨_, -, rfl⟩ | ⟨_, -, rfl⟩ | ⟨_, -, rfl⟩
  · exact hr
  · exact List.mem_append_right _ hr
  · cases hr

/-- **A walked root is below the workspace**, by plain names, if roots are apart. -/
theorem exists_of_mem_walks (hroots : RootsApart root config) (hw : w ∈ walks root config) :
    ∃ down : List String, w.2.components = root.components ++ down.map .normal ∧
      ∀ t ∈ down, IsName t := by
  have hmem : w.2 ∈ config.sourceRoots root ++ config.testRoots root ++
      config.generatedRoots root := by
    rw [walks_eq] at hw
    simp only [walksOver, List.mem_append, List.mem_map] at hw
    rcases hw with ⟨r, hr, rfl⟩ | ⟨r, hr, rfl⟩ | ⟨r, hr, rfl⟩ <;> simp [hr]
  obtain ⟨down, hdown⟩ := hroots.under _ hmem
  refine ⟨down, hdown, fun t ht ↦ Path.isName_of_mem_components (p := w.2) ?_⟩
  rw [hdown]
  exact List.mem_append_right _ (List.mem_map_of_mem ht)

/-- A file that is met can be read at the path at which it is met. -/
theorem isFile_pathBelow (hfs : fs.WellFormed) (hroot : root.components ≠ [])
    (hbase : fs.directoryAt? root = some base) {walked : Path} {down names : List String}
    (hwalked : walked.components = root.components ++ down.map .normal) {s : String}
    (hnames : ∀ t ∈ names ++ [s], IsName t) {contents : List UInt8}
    (hfile : (base ++ down ++ (names ++ [s]), Entry.file contents) ∈ fs.entries.entries) :
    fs.isFile (pathBelow walked (names ++ [s])) = true := by
  have hthere : fs.entryAt? (base ++ (down ++ names) ++ [s]) = some (.file contents) := by
    simpa only [List.append_assoc] using Files.entryAt?_of_mem (by simp) hfile
  have hbelow : (pathBelow walked names).components =
      root.components ++ (down ++ names).map .normal := by
    rw [components_pathBelow fun t ht ↦ hnames t (List.mem_append_left _ ht), hwalked,
      List.map_append, List.append_assoc]
  have hdirectory := Files.directoryAt?_below hfs hroot hbase hbelow
  rw [if_pos (hfs.directory_above (List.cons_ne_nil _ _) hthere)] at hdirectory
  rw [pathBelow_concat, Files.isFile, Files.find_join_name (hnames s (by simp))
    (hbelow ▸ List.append_ne_nil_of_left_ne_nil hroot _) hdirectory hthere]
  rfl

/-- **A walk finds all files of a unit if it finds one.** -/
theorem FindsIn.filter_filesUnder (hfs : fs.WellFormed) (hroot : root.components ≠ [])
    (hbase : fs.directoryAt? root = some base) (hfiles : NoRootIsFile fs root config)
    (hw : w ∈ walks root config) (h : FindsIn fs root config base w directory) :
    ((w.1.filesUnder fs root config w.2).filter fun file ↦
      (unitDirectory file).same (unitPath directory)) = filesIn fs base directory := by
  obtain ⟨down, names, s, contents, hcomponents, hnames, rfl, hfile, henters⟩ := h
  have hplace : fs.entryAt? (base ++ down) = some .directory :=
    hfs.directory_above (by simp) (Files.entryAt?_of_mem (by simp) hfile)
  rw [filesUnder_eq, Files.directoryAt?_below hfs hroot hbase hcomponents, if_pos hplace]
  refine filter_javaFiles_walk hfs hroot hcomponents (fun t ht ↦ hnames t (by simp [ht]))
    (fun t ht ↦ hnames t (by simp [ht])) fun s' contents' hfile' above entry hne habove hentry ↦ ?_
  rcases List.prefix_concat_iff.1 habove with rfl | habove
  · -- the file itself is skipped only if it is a root
    have hentry' := Files.entryAt?_of_mem (by simp) hentry
    rw [Files.entryAt?_of_mem (by simp) hfile'] at hentry'
    cases Option.some.inj hentry'
    rw [Pass.isSkipped, Bool.or_eq_false_iff, Bool.and_eq_false_iff, List.any_eq_false]
    refine ⟨.inl rfl, fun r hr hsame ↦ ?_⟩
    have hfound := isFile_pathBelow hfs hroot hbase hcomponents
      (fun t ht ↦ hfs.names _ hfile' t (List.mem_append_right _ ht)) hfile'
    rw [hfiles r (mem_roots_of_mem_skips hw hr) _ hsame] at hfound
    cases hfound
  · exact henters above entry hne (habove.trans (List.prefix_append _ _)) hentry

/-- A walk that finds something in the directory of a unit finds it right inside. -/
theorem findsIn_of_mem_filter (hfs : fs.WellFormed) (hroot : root.components ≠ [])
    (hbase : fs.directoryAt? root = some base) (hroots : RootsApart root config)
    (hw : w ∈ walks root config) (hnames : ∀ t ∈ directory, IsName t) {file : Path}
    (hfile : file ∈ (w.1.filesUnder fs root config w.2).filter fun file ↦
      (unitDirectory file).same (unitPath directory)) :
    FindsIn fs root config base w directory := by
  obtain ⟨down, hcomponents, hdown⟩ := exists_of_mem_walks hroots hw
  obtain ⟨hfile, hsame⟩ := List.mem_filter.1 hfile
  obtain ⟨directory', s, hnames', rfl, hfinds⟩ :=
    exists_findsIn hfs hroot hbase hcomponents hdown hfile
  rw [unitDirectory_ofNames_concat hnames', same_unitPath_iff
    (fun t ht ↦ hnames' t (List.mem_append_left _ ht)) hnames] at hsame
  exact hsame ▸ hfinds

/-- Of parts that are told apart, only one has something. -/
theorem flatMap_eq_of_pairwise {α β : Type} {f : α → List β} {l : List α}
    (h : l.Pairwise fun a b ↦ f a = [] ∨ f b = []) {a : α} (ha : a ∈ l) (hne : f a ≠ []) :
    l.flatMap f = f a := by
  induction l with
  | nil => cases ha
  | cons b l ih =>
    obtain ⟨hb, hl⟩ := List.pairwise_cons.1 h
    rw [List.flatMap_cons]
    rcases List.mem_cons.1 ha with rfl | ha
    · rw [List.flatMap_eq_nil_iff.2 fun b hbl ↦ (hb b hbl).resolve_left hne, List.append_nil]
    · rw [(hb a ha).resolve_right hne, List.nil_append, ih hl ha]

/-- **All that is found in a unit is found by one walk.** -/
theorem filter_found (hfs : fs.WellFormed) (hroot : root.components ≠ [])
    (hbase : fs.directoryAt? root = some base) (hroots : RootsApart root config)
    (hfiles : NoRootIsFile fs root config) (hw : w ∈ walks root config)
    (hnames : ∀ t ∈ directory, IsName t) (hne : filesIn fs base directory ≠ [])
    (h : FindsIn fs root config base w directory) :
    (found fs root config).filter (fun e ↦ (unitDirectory e.2).same (unitPath directory)) =
      (filesIn fs base directory).map fun file ↦ (w.1.kind, file) := by
  let inUnit (w : Pass × Path) : List Path := (w.1.filesUnder fs root config w.2).filter fun file ↦
    (unitDirectory file).same (unitPath directory)
  have hinUnit : inUnit w = filesIn fs base directory :=
    h.filter_filesUnder hfs hroot hbase hfiles hw
  have hfinds : ∀ w ∈ walks root config, inUnit w ≠ [] → FindsIn fs root config base w directory :=
    fun w hw hne ↦ by
      obtain ⟨file, hfile⟩ := List.exists_mem_of_ne_nil _ hne
      exact findsIn_of_mem_filter hfs hroot hbase hroots hw hnames hfile
  have hpairwise : (walks root config).Pairwise fun w w' ↦
      (inUnit w).map (fun file ↦ (w.1.kind, file)) = [] ∨
        (inUnit w').map (fun file ↦ (w'.1.kind, file)) = [] := by
    refine (walks_yield hroots).imp_of_mem fun {w w'} hw hw' hyields ↦ ?_
    rw [List.map_eq_nil_iff, List.map_eq_nil_iff]
    by_contra hboth
    rw [not_or] at hboth
    exact (hfinds w hw hboth.1).false_of_yields hfs (hfinds w' hw' hboth.2) hyields
  rw [found, List.filter_flatMap]
  simp only [List.filter_map]
  refine (flatMap_eq_of_pairwise hpairwise hw ?_).trans (by rw [hinUnit])
  rw [hinUnit]
  exact mt List.map_eq_nil_iff.1 hne

/-- Whether a path lies under the cleaned form of just those paths below the root that a directory
lies under. -/
def IsSeenUnder (root path : Path) (directory : List String) : Prop :=
  ∀ (r : Path) (names : List String), r.components = root.components ++ names.map .normal →
    (path.startsWith r.clean = true ↔ names <+: directory)

section KindUnder

variable {path : Path} {roots : List Path}

/-- A directory is not under the roots that its walk leaves to a later one. -/
theorem FindsIn.any_startsWith_eq_false (hfs : fs.WellFormed)
    (h : FindsIn fs root config base w directory) (hunder : ∀ r ∈ roots, LiesUnder root r)
    (hpath : IsSeenUnder root path directory) {kind : UnitKind} {skips : List Path}
    (hyields : ∀ w' ∈ walksOver roots kind skips, Yields w w') :
    (roots.any fun r ↦ path.startsWith r.clean) = false := by
  rw [List.any_eq_false]
  intro r hr hstarts
  obtain ⟨names, hnames⟩ := hunder r hr
  exact h.not_below hfs (hyields _ (mem_walksOver hr kind skips)) hnames
    ((hpath r names hnames).1 hstarts)

/-- A directory is under the root of its walk. -/
theorem FindsIn.any_startsWith_eq_true (h : FindsIn fs root config base w directory)
    (hunder : ∀ r ∈ roots, LiesUnder root r) (hpath : IsSeenUnder root path directory)
    (hmem : w.2 ∈ roots) : (roots.any fun r ↦ path.startsWith r.clean) = true := by
  obtain ⟨names, hnames⟩ := hunder _ hmem
  exact List.any_eq_true.2 ⟨_, hmem, (hpath _ names hnames).2 (h.below_root hnames)⟩

/-- **A named directory has the kind of the walk that finds it.** -/
theorem FindsIn.kindUnder_eq (hfs : fs.WellFormed) (hroots : RootsApart root config)
    (hw : w ∈ walks root config) (h : FindsIn fs root config base w directory)
    (hpath : IsSeenUnder root path directory) : kindUnder root config path = w.1.kind := by
  have hunder := hroots.under
  simp only [List.mem_append, or_imp, forall_and] at hunder
  obtain ⟨⟨-, htests⟩, hgenerated⟩ := hunder
  have hyields := walks_yield hroots
  rw [walks_eq, List.pairwise_append, List.pairwise_append] at hyields
  obtain ⟨-, ⟨-, -, htg⟩, hlater⟩ := hyields
  rw [walks_eq, List.mem_append, List.mem_append] at hw
  rw [kindUnder]
  rcases hw with hw | hw | hw
  · rw [h.any_startsWith_eq_false hfs hgenerated hpath fun w' hw' ↦
        hlater w hw w' (List.mem_append_right _ hw'),
      h.any_startsWith_eq_false hfs htests hpath fun w' hw' ↦
        hlater w hw w' (List.mem_append_left _ hw')]
    obtain ⟨r, -, rfl⟩ := List.mem_map.1 hw
    rfl
  · rw [h.any_startsWith_eq_false hfs hgenerated hpath fun w' hw' ↦ htg w hw w' hw']
    obtain ⟨r, hr, rfl⟩ := List.mem_map.1 hw
    rw [h.any_startsWith_eq_true htests hpath hr]
    rfl
  · obtain ⟨r, hr, rfl⟩ := List.mem_map.1 hw
    rw [h.any_startsWith_eq_true hgenerated hpath hr]
    rfl

end KindUnder

end FindsIn

/-! ### Cleaned paths -/

section Cleaned

variable {workspace p : Path}

theorem components_clean_ne_nil (workspace : Path) : workspace.clean.components ≠ [] := by
  rw [Path.components_clean]
  split
  · exact List.cons_ne_nil _ _
  · assumption

/-- What is spelled below a clean workspace stays below it, unless that is `.`. -/
theorem components_clean_of_liesUnder {names : List String}
    (hp : p.components = workspace.clean.components ++ names.map .normal) :
    p.clean.components =
      if workspace.clean = ⟨"."⟩ ∧ names ≠ [] then names.map .normal
      else workspace.clean.components ++ names.map .normal := by
  have hworkspace := Path.components_clean workspace
  rw [Path.components_clean, hp, Path.cleanComponents_append_names]
  by_cases hdot : cleanComponents workspace.components = []
  · -- `.` goes when names follow it
    rw [if_pos hdot] at hworkspace
    have hcurrent : cleanComponents [.current] = [] := rfl
    by_cases hnames : names = [] <;>
      simp [Path.clean_eq_dot_iff, hworkspace, hcurrent, hdot, hnames]
  · rw [if_neg hdot] at hworkspace
    simp [Path.clean_eq_dot_iff, hworkspace, Path.cleanComponents_idem, hdot]

/-- A cleaned directory lies under a cleaned root if its names do. -/
theorem isSeenUnder_clean {directory : List String}
    (hp : p.components = workspace.clean.components ++ directory.map .normal)
    (hdot : workspace.clean = ⟨"."⟩ → directory = []) :
    IsSeenUnder workspace.clean p directory := by
  intro r names hr
  rw [Path.startsWith, List.isPrefixOf_iff_prefix, hp, components_clean_of_liesUnder hr]
  split
  · next h =>
    obtain ⟨hworkspace, hnames⟩ := h
    have hcurrent : Path.components ⟨"."⟩ = [.current] := rfl
    rw [hworkspace, hdot hworkspace, hcurrent, List.map_nil, List.append_nil, List.prefix_nil]
    refine iff_of_false (fun habove ↦ ?_) hnames
    obtain ⟨s, rest, heq⟩ := List.exists_cons_of_ne_nil hnames
    rw [heq, List.map_cons, List.cons_prefix_cons] at habove
    cases habove.1
  · rw [List.prefix_append_right_inj, map_normal_prefix_iff]

end Cleaned

/-- What naming one directory comes to. -/
theorem explicitUnits_singleton {fs : Files} {root : Path} {config : Config} {directory : Path}
    {place : Place} (h : fs.directoryAt? (root.join directory) = some place) :
    explicitUnits fs root config [directory] =
      .ok (addFiles (kindUnder root config (root.join directory).clean) ∅
        (filesRightIn fs root (root.join directory).clean)) := by
  have hdirectory : fs.isDirectory (root.join directory) = true := by
    rw [Files.isDirectory_eq, h]
    rfl
  rw [explicitUnits, List.foldlM_cons, addNamed, if_pos hdirectory]
  rfl

/-- Where a unit comes from: it is all that one walk found in one directory. -/
theorem exists_of_mem_plainUnits {fs : Files} (hfs : fs.WellFormed) {root : Path} {config : Config}
    (hroot : root.components ≠ []) (hroots : RootsApart root config)
    (hfiles : NoRootIsFile fs root config) {directory : Path} {unit : FoundUnit}
    (h : (directory, unit) ∈ (plainUnits fs root config).entries) :
    ∃ base w names, fs.directoryAt? root = some base ∧ w ∈ walks root config ∧
      FindsIn fs root config base w names ∧ (∀ t ∈ names, IsName t) ∧ directory = unitPath names ∧
      filesIn fs base names ≠ [] ∧ unit = ⟨w.1.kind, filesIn fs base names⟩ := by
  rw [plainUnits_eq] at h
  obtain ⟨e, he, rfl⟩ := exists_of_mem_entries h
  obtain ⟨w, hw, he⟩ := List.mem_flatMap.1 he
  obtain ⟨file, hfile, rfl⟩ := List.mem_map.1 he
  obtain ⟨down, hcomponents, hdown⟩ := exists_of_mem_walks hroots hw
  obtain ⟨base, hbase⟩ : ∃ base, fs.directoryAt? root = some base := by
    rw [filesUnder_eq] at hfile
    split at hfile
    · next place hplace => exact Files.exists_directoryAt? hroot hcomponents hplace
    · cases hfile
  obtain ⟨names, s, hall, rfl, hfinds⟩ := exists_findsIn hfs hroot hbase hcomponents hdown hfile
  have hnames : ∀ t ∈ names, IsName t := fun t ht ↦ hall t (List.mem_append_left _ ht)
  have hdirectory := unitDirectory_ofNames_concat hall
  have hne : filesIn fs base names ≠ [] := by
    refine List.ne_nil_of_mem (a := ofNames (names ++ [s])) ?_
    rw [← hfinds.filter_filesUnder hfs hroot hbase hfiles hw, List.mem_filter, hdirectory,
      same_unitPath_iff hnames hnames]
    exact ⟨hfile, rfl⟩
  refine ⟨base, w, names, hbase, hw, hfinds, hnames, hdirectory, hne, ?_⟩
  have hunit := SortedMap.get?_eq_some_iff.2 ⟨_, h, Std.ReflOrd.compare_self⟩
  rw [get?_foldl_addFile, hdirectory,
    filter_found hfs hroot hbase hroots hfiles hw hnames hne hfinds, unitOf_map _ hne] at hunit
  exact (Option.some.inj hunit).symm

/-- **A unit that was found is found again when it is named**, with the same kind and the same
files; in the workspace `.`, nothing is found below it. -/
theorem explicitUnits_of_mem_discoverUnits {fs : Files} (hfs : fs.WellFormed) {workspace : Path}
    {config : Config} (hmodules : config.resolver.modules = [])
    (hroots : RootsApart workspace.clean config) (hfiles : NoRootIsFile fs workspace.clean config)
    {directory : Path} {unit : FoundUnit}
    (h : (directory, unit) ∈ (discoverUnits fs workspace.clean config).entries) :
    explicitUnits fs workspace.clean config [directory] =
      .ok (if workspace.clean = ⟨"."⟩ ∧ directory ≠ ⟨"."⟩ then ∅
        else (∅ : Units).insert directory unit) := by
  have hroot := components_clean_ne_nil workspace
  rw [discoverUnits, groupModules, hmodules, List.isEmpty_nil, if_pos rfl] at h
  obtain ⟨base, w, names, hbase, hw, hfinds, hnames, rfl, hne, rfl⟩ :=
    exists_of_mem_plainUnits hfs hroot hroots hfiles h
  have hplace : ∀ {p : Path}, p.components = workspace.clean.components ++ names.map .normal →
      fs.directoryAt? p = some (base ++ names) := fun hp ↦
    (Files.directoryAt?_below hfs hroot hbase hp).trans (if_pos (hfinds.entryAt? hfs))
  have hjoin := (isPlain_unitPath hnames).components_join (Path.text_ne_empty hroot)
  rw [namesOf_unitPath hnames] at hjoin
  have hclean := components_clean_of_liesUnder hjoin
  rw [explicitUnits_singleton (hplace hjoin)]
  simp only [unitPath_eq_dot_iff hnames, ne_eq]
  by_cases hdot : workspace.clean = ⟨"."⟩ ∧ names ≠ []
  · rw [if_pos hdot] at hclean ⊢
    rw [filesRightIn_dot hfs hdot.1 hclean hdot.2]
    rfl
  · rw [if_neg hdot] at hclean ⊢
    have hkind := hfinds.kindUnder_eq hfs hroots hw <|
      isSeenUnder_clean hclean fun hworkspace ↦ not_not.1 (not_and.1 hdot hworkspace)
    rw [hkind, filesRightIn_eq_filesIn hfs hroot hclean hnames (hplace hclean),
      addFiles_eq_insert hne fun file hfile ↦ unitDirectory_of_mem_filesIn hfs hnames hfile]

/-- The unit of a test root that lies in a source root. -/
theorem explicitUnits_of_test_root :
    let fs : Files := (({} : Files).addFile ["ws", "src", "A.java"] []).addFile
      ["ws", "src", "test", "B.java"] []
    let config : Config :=
      { Config.standard 1 with
        resolver := { sourceRoots := [⟨"src/"⟩], testRoots := [⟨"./src/test"⟩] } }
    explicitUnits fs (Path.clean ⟨"./ws"⟩) config [⟨"src/test"⟩] =
      .ok ((∅ : Units).insert ⟨"src/test"⟩ ⟨.test, [⟨"src/test/B.java"⟩]⟩) := by
  intro fs config
  have hroot : Path.components (Path.clean ⟨"./ws"⟩) ≠ [] := components_clean_ne_nil _
  have hroots : RootsApart (Path.clean ⟨"./ws"⟩) config := by
    refine ⟨fun r hr ↦ ?_, by decide +kernel, by decide +kernel, by decide +kernel,
      by decide +kernel⟩
    have hmem : r = Path.join (Path.clean ⟨"./ws"⟩) ⟨"src/"⟩ ∨
        r = Path.join (Path.clean ⟨"./ws"⟩) ⟨"./src/test"⟩ := by
      simpa [config, Config.sourceRoots, Config.testRoots, Config.generatedRoots, Config.anchored]
        using hr
    rcases hmem with rfl | rfl
    · exact IsPlain.liesUnder (by decide +kernel) hroot
    · exact IsPlain.liesUnder (by decide +kernel) hroot
  have hfiles : NoRootIsFile fs (Path.clean ⟨"./ws"⟩) config := by
    intro r hr p hsame
    obtain rfl : r = Path.join (Path.clean ⟨"./ws"⟩) ⟨"./src/test"⟩ := List.mem_singleton.1 hr
    exact Files.isFile_eq_false_of_same (by decide +kernel) (by decide +kernel) hsame
  have hfound : (⟨"src/test"⟩, ⟨.test, [⟨"src/test/B.java"⟩]⟩) ∈
      (discoverUnits fs (Path.clean ⟨"./ws"⟩) config).entries := by decide +kernel
  exact (explicitUnits_of_mem_discoverUnits ⟨by decide +kernel, by decide +kernel⟩ rfl hroots hfiles
    hfound).trans (by decide +kernel)

/-- **In the workspace `.`, naming a unit that was found need not find it.** -/
theorem not_forall_explicitUnits_eq :
    ¬ ∀ (fs : Files) (workspace : Path) (config : Config) (directory : Path) (unit : FoundUnit),
      fs.WellFormed → config.validate = .ok () → config.resolver.modules = [] →
      (directory, unit) ∈ (discoverUnits fs workspace.clean config).entries →
      explicitUnits fs workspace.clean config [directory] =
        .ok ((∅ : Units).insert directory unit) := by
  intro h
  have hagree := h (({} : Files).addFile ["pkg", "A.java"] []) ⟨"."⟩ (.standard 1) ⟨"pkg"⟩
    ⟨.library, [⟨"pkg/A.java"⟩]⟩ ⟨by decide +kernel, by decide +kernel⟩ (by decide +kernel) rfl
    (by decide +kernel)
  exact absurd hagree (by decide +kernel)

end JavaDeps.Discovery
