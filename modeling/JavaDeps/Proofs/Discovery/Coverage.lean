import JavaDeps.Proofs.Discovery.NamedUnits

/-!
# How often discovery lists a file

Discovery walks every root and puts what the walks find together. **A file is listed once for each
walk that reaches it** (`ListsSources`), in the unit of its directory, and nothing else is listed.
A file that some root covers is reached by at least one walk, since a root that a walk skips is
walked later, unless the file is a root itself. It is reached by one walk only if the roots that
cover it lie in each other in the order of the passes. Roots of one pass are not kept apart, nor is
a root inside one of a later pass, and there the same file is listed again
(`not_forall_count_listed_eq_one`).
-/

namespace JavaDeps.Discovery

open JavaDeps.Path (ofNames)
open Resolve (UnitKind)

/-! ### Files and walks -/

/-- Whether a Java file lies down some names from the workspace: there is a file at that place, and
its name has the extension `java`. -/
def IsSource (fs : Files) (root : Path) (names : List String) : Prop :=
  ∃ base contents, fs.directoryAt? root = some base ∧
    (base ++ names, Entry.file contents) ∈ fs.entries.entries ∧
    (ofNames names).extension? = some "java"

/-- Whether a file lies under a root with no excluded name on the way from there. -/
def Covers (config : Config) (r : Path) (names : List String) : Prop :=
  namesOf r <+: names.dropLast ∧
    ∀ name ∈ names.dropLast.drop (namesOf r).length, config.isExcluded name = false

instance (config : Config) (r : Path) (names : List String) : Decidable (Covers config r names) :=
  inferInstanceAs (Decidable (_ ∧ _))

/-- The passes over the roots, as the configuration spells them. -/
def spelledPasses (c : Config.ResolverConfig) : List Pass :=
  [⟨c.sourceRoots, .library, c.testRoots ++ c.generatedRoots⟩,
    ⟨c.testRoots, .test, c.generatedRoots⟩, ⟨c.generatedRoots, .generated, []⟩]

/-- The walks over the roots of a configuration, in order: each root with the pass in which it is
walked, both as the configuration spells them. -/
def rootWalks (c : Config.ResolverConfig) : List (Pass × Path) :=
  (spelledPasses c).flatMap fun pass ↦ pass.roots.map fun r ↦ (pass, r)

/-- Whether a walk gets to a file: its root covers the file, and each skipped root in which the file
lies holds the whole walk. -/
def Reaches (config : Config) (w : Pass × Path) (names : List String) : Prop :=
  Covers config w.2 names ∧ ∀ r ∈ w.1.skips, namesOf r <+: names → namesOf r <+: namesOf w.2

instance (config : Config) (w : Pass × Path) (names : List String) :
    Decidable (Reaches config w names) :=
  inferInstanceAs (Decidable (_ ∧ _))

/-- All files of some units, unit by unit. A file that two units list, or one unit lists twice, is
in there twice. -/
def listed (units : Units) : List Path := units.entries.flatMap fun e ↦ e.2.files

/-- What units list of the sources of a workspace: nothing but sources that some walk reaches, and
each of these as often as walks reach it. -/
structure ListsSources (fs : Files) (root : Path) (config : Config) (units : Units) : Prop where
  /-- What is listed is a source that some walk reaches, and is in the unit of its directory. -/
  sound : ∀ directory unit, (directory, unit) ∈ units.entries → ∀ file ∈ unit.files, ∃ names,
    IsSource fs root names ∧ file = ofNames names ∧ directory = unitPath names.dropLast ∧
    ∃ w ∈ rootWalks config.resolver, Reaches config w names
  /-- A source is listed once for each walk that reaches it. -/
  count : ∀ names, IsSource fs root names → (listed units).count (ofNames names) =
    (rootWalks config.resolver).countP fun w ↦ Reaches config w names

/-! ### What the units list -/

/-- To add a file to units adds it to the files that are listed. -/
theorem perm_listed_addFile (kind : UnitKind) (units : Units) (file : Path) :
    (listed (addFile kind units file)).Perm ([file] ++ listed units) := by
  refine SortedMap.perm_flatMap_alterEntries (fun old ↦ ?_) _ _
  cases old with
  | none => exact .refl _
  | some unit =>
    rw [Option.toList_some, Option.toList_some, List.flatMap_singleton, List.flatMap_singleton]
    exact List.perm_append_singleton _ _

/-- **Units list what was found**, in some order. -/
theorem perm_listed_foldl (es : List (UnitKind × Path)) :
    (listed (es.foldl (fun units e ↦ addFile e.1 units e.2) ∅)).Perm (es.map (·.2)) := by
  induction es using List.reverseRecOn with
  | nil => exact .refl _
  | append_singleton es e ih =>
    rw [List.foldl_append, List.foldl_cons, List.foldl_nil, List.map_append]
    exact (perm_listed_addFile _ _ _).trans <|
      (ih.cons _).trans (List.perm_append_singleton _ _).symm

/-! ### One walk -/

/-- A pass as it is seen from the workspace. -/
def Pass.seenFrom (root : Path) (pass : Pass) : Pass :=
  ⟨Config.anchored root pass.roots, pass.kind, Config.anchored root pass.skips⟩

theorem walks_eq_map (root : Path) (config : Config) :
    walks root config =
      (rootWalks config.resolver).map fun w ↦ (w.1.seenFrom root, root.join w.2) := by
  simp [walks, passes, rootWalks, spelledPasses, Pass.seenFrom, Config.sourceRoots,
    Config.testRoots, Config.generatedRoots, Config.anchored, Function.comp_def]

theorem covers_append_concat {config : Config} {r : Path} {way : List String} {s : String} :
    Covers config r (namesOf r ++ (way ++ [s])) ↔
      ∀ name ∈ way, config.isExcluded name = false := by
  rw [Covers, ← List.append_assoc, List.dropLast_concat, List.drop_left]
  exact and_iff_right (List.prefix_append _ _)

/-- A file counts just if its name ends like that of a Java file. -/
theorem javaFile?_eq_some_iff {names : List String} {entry : Entry} {file : Path} :
    javaFile? names entry = some file ↔ (∃ contents, entry = .file contents) ∧
      (ofNames names).extension? = some "java" ∧ file = ofNames names := by
  rw [javaFile?, isJavaFile, Option.ite_none_right_eq_some, Option.some_inj, Bool.and_eq_true,
    beq_iff_eq, and_assoc, eq_comm (a := ofNames names)]
  cases entry <;> simp

theorem ofNames_inj {names names' : List String} (hnames : ∀ s ∈ names, IsName s)
    (hnames' : ∀ s ∈ names', IsName s) (h : ofNames names = ofNames names') : names = names' := by
  have hcomponents := congrArg Path.components h
  rw [Path.components_ofNames hnames, Path.components_ofNames hnames'] at hcomponents
  exact (List.map_inj_right fun _ _ ↦ Component.normal.inj).1 hcomponents

theorem isName_of_mem_namesOf {p : Path} {s : String} (h : s ∈ namesOf p) : IsName s :=
  Path.isName_of_mem_components (Resolve.mem_normalNames_iff.1 h)

section Walk

variable {fs : Files} {root : Path} {config : Config} {base : Place} {w : Pass × Path}

/-- A path below the workspace is met under its names. -/
theorem same_pathBelow_iff (hroot : root.components ≠ []) {p r : Path} (hp : IsPlain p)
    (hr : IsPlain r) {above : List String} (habove : ∀ s ∈ above, IsName s) :
    (root.join r).same (pathBelow (root.join p) above) = true ↔ namesOf r = namesOf p ++ above := by
  have htext := Path.text_ne_empty hroot
  rw [Path.same, beq_iff_eq, hr.components_join htext, components_pathBelow habove,
    hp.components_join htext, List.append_assoc, ← List.map_append, List.append_cancel_left_eq,
    List.map_inj_right fun _ _ ↦ Component.normal.inj]

/-- **A walk enters all directories on the way to a file exactly if it reaches the file.** -/
theorem enters_iff_reaches (hfs : fs.WellFormed) (hroot : root.components ≠ [])
    (hplain : IsPlain w.2) (hskips : ∀ r ∈ w.1.skips, IsPlain r) {way : List String} {s : String}
    {contents : List UInt8}
    (hfile : (base ++ namesOf w.2 ++ (way ++ [s]), Entry.file contents) ∈ fs.entries.entries) :
    fs.Enters ((w.1.seenFrom root).isSkipped config (root.join w.2)) (base ++ namesOf w.2)
        (way ++ [s]) ↔ Reaches config w (namesOf w.2 ++ (way ++ [s])) := by
  have hnames : ∀ above, above <+: way ++ [s] → ∀ t ∈ above, IsName t := fun above habove t ht ↦
    hfs.names _ hfile t (List.mem_append_right _ (habove.subset ht))
  rw [Reaches, covers_append_concat]
  constructor
  · intro h
    constructor
    · intro name hname
      obtain ⟨before, after, rfl⟩ := List.append_of_mem hname
      have habove : before ++ [name] <+: before ++ name :: after ++ [s] :=
        ⟨after ++ [s], by simp⟩
      obtain ⟨entry, hentry, hdirectory⟩ :=
        hfs.exists_above (List.append_ne_nil_of_right_ne_nil _ (List.cons_ne_nil _ _)) habove hfile
      obtain rfl := hdirectory fun heq ↦ by simpa using congrArg List.length heq
      have hentered := h _ _ (by simp) habove hentry
      rw [Pass.isSkipped, Bool.or_eq_false_iff] at hentered
      simpa using hentered.1
    · intro r hr hbelow
      by_contra hnot
      -- the skipped root lies strictly between the root of the walk and the file
      obtain ⟨above, heq⟩ :=
        (List.prefix_or_prefix_of_prefix hbelow (List.prefix_append _ _)).resolve_left hnot
      have hne : above ≠ [] := by
        rintro rfl
        exact hnot (by rw [← heq, List.append_nil])
      rw [← heq, List.prefix_append_right_inj] at hbelow
      obtain ⟨entry, hentry, -⟩ := hfs.exists_above hne hbelow hfile
      have hentered := h _ _ hne hbelow hentry
      rw [Pass.isSkipped, Bool.or_eq_false_iff, List.any_eq_false] at hentered
      refine hentered.2 (root.join r) (List.mem_map_of_mem hr) ?_
      exact (same_pathBelow_iff hroot hplain (hskips r hr) (hnames _ hbelow)).2 heq.symm
  · rintro ⟨hway, hroots⟩ above entry hne habove hentry
    rw [Pass.isSkipped, Bool.or_eq_false_iff, List.any_eq_false]
    constructor
    · cases entry with
      | file _ => rfl
      | directory =>
        -- the file itself is no directory
        have hproper : above <+: way := by
          refine (List.prefix_concat_iff.1 habove).resolve_left ?_
          rintro rfl
          have hsame := Files.get?_eq_some_iff.2 hentry
          rw [Files.get?_eq_some_iff.2 hfile] at hsame
          cases hsame
        obtain ⟨above, name, rfl⟩ := (List.eq_nil_or_concat' above).resolve_left hne
        have hname := hway name (hproper.subset (by simp))
        simp [hname]
    · intro r' hr' hsame
      obtain ⟨r, hr, rfl⟩ := List.mem_map.1 hr'
      rw [same_pathBelow_iff hroot hplain (hskips r hr) (hnames _ habove)] at hsame
      have hwhole := hroots r hr (hsame ▸ (List.prefix_append_right_inj _).2 habove)
      rw [hsame] at hwhole
      have hlength := hwhole.length_le
      rw [List.length_append] at hlength
      exact hne (List.eq_nil_of_length_eq_zero (by omega))

/-- A source has a name of its own. -/
theorem IsSource.exists_concat {names : List String} (h : IsSource fs root names) :
    ∃ above s, names = above ++ [s] := by
  obtain ⟨-, -, -, -, hjava⟩ := h
  refine (List.eq_nil_or_concat' names).resolve_left ?_
  rintro rfl
  cases hjava

/-- A walk lists the Java files that it meets, and meets those that it reaches. -/
theorem mem_filesUnder_iff_of_place (hfs : fs.WellFormed) (hroot : root.components ≠ [])
    (hplain : IsPlain w.2) (hskips : ∀ r ∈ w.1.skips, IsPlain r)
    (hplace : fs.directoryAt? (root.join w.2) = some (base ++ namesOf w.2)) {file : Path} :
    file ∈ (w.1.seenFrom root).filesUnder fs root config (root.join w.2) ↔
      ∃ way s contents, file = ofNames (namesOf w.2 ++ (way ++ [s])) ∧
        (base ++ namesOf w.2 ++ (way ++ [s]), Entry.file contents) ∈ fs.entries.entries ∧
        (ofNames (namesOf w.2 ++ (way ++ [s]))).extension? = some "java" ∧
        Reaches config w (namesOf w.2 ++ (way ++ [s])) := by
  have hjoin := hplain.components_join (Path.text_ne_empty hroot)
  rw [filesUnder_eq, hplace]
  dsimp only
  rw [javaFiles_eq hroot hjoin (fun _ ↦ isName_of_mem_namesOf) fun m hm ↦ isName_of_mem_walk hfs hm,
    List.mem_filterMap]
  constructor
  · rintro ⟨⟨met, entry⟩, hmet, hfile⟩
    have hjava : javaFile? (namesOf w.2 ++ met) entry = some file := hfile
    rw [javaFile?_eq_some_iff] at hjava
    obtain ⟨⟨contents, rfl⟩, hjava, rfl⟩ := hjava
    obtain ⟨hentry, hne, henters⟩ := Files.mem_walk.1 hmet
    obtain ⟨way, s, rfl⟩ := (List.eq_nil_or_concat' met).resolve_left hne
    exact ⟨way, s, contents, rfl, hentry, hjava,
      (enters_iff_reaches hfs hroot hplain hskips hentry).1 henters⟩
  · rintro ⟨way, s, contents, rfl, hentry, hjava, hreaches⟩
    refine ⟨(way ++ [s], .file contents), Files.mem_walk.2 ⟨hentry, by simp, ?_⟩, ?_⟩
    · exact (enters_iff_reaches hfs hroot hplain hskips hentry).2 hreaches
    · exact javaFile?_eq_some_iff.2 ⟨⟨contents, rfl⟩, hjava, rfl⟩

/-- A source that a root covers lies in the directory of the root. -/
theorem IsSource.exists_way (hfs : fs.WellFormed) (hroot : root.components ≠ []) {r : Path}
    (hplain : IsPlain r) {names : List String} (hsource : IsSource fs root names)
    (hcovers : Covers config r names) :
    ∃ base way s contents, fs.directoryAt? (root.join r) = some (base ++ namesOf r) ∧
      names = namesOf r ++ (way ++ [s]) ∧
      (base ++ namesOf r ++ (way ++ [s]), Entry.file contents) ∈ fs.entries.entries ∧
      (ofNames names).extension? = some "java" := by
  obtain ⟨above, s, rfl⟩ := hsource.exists_concat
  obtain ⟨base, contents, hbase, hfile, hjava⟩ := hsource
  obtain ⟨way, hway⟩ := hcovers.1
  rw [List.dropLast_concat] at hway
  subst hway
  rw [List.append_assoc, ← List.append_assoc base] at hfile
  refine ⟨base, way, s, contents, ?_, List.append_assoc _ _ _, hfile, hjava⟩
  have hdirectory := hfs.directory_above (by simp) (Files.entryAt?_of_mem (by simp) hfile)
  rw [Files.directoryAt?_below hfs hroot hbase
    (hplain.components_join (Path.text_ne_empty hroot)), if_pos hdirectory]

/-- **What a walk lists are the sources that it reaches.** -/
theorem mem_filesUnder_iff (hfs : fs.WellFormed) (hroot : root.components ≠ [])
    (hplain : IsPlain w.2) (hskips : ∀ r ∈ w.1.skips, IsPlain r) {file : Path} :
    file ∈ (w.1.seenFrom root).filesUnder fs root config (root.join w.2) ↔
      ∃ names, file = ofNames names ∧ IsSource fs root names ∧ Reaches config w names := by
  have hjoin := hplain.components_join (Path.text_ne_empty hroot)
  constructor
  · intro hfile
    obtain ⟨base, hbase, hplace⟩ : ∃ base, fs.directoryAt? root = some base ∧
        fs.directoryAt? (root.join w.2) = some (base ++ namesOf w.2) := by
      rw [filesUnder_eq] at hfile
      split at hfile
      · next place hplace =>
        obtain ⟨base, hbase⟩ := Files.exists_directoryAt? hroot hjoin hplace
        have hbelow := Files.directoryAt?_below hfs hroot hbase hjoin
        rw [hbelow] at hplace
        exact ⟨base, hbase, hbelow.trans (if_pos (Option.ite_none_right_eq_some.1 hplace).1)⟩
      · cases hfile
    rw [mem_filesUnder_iff_of_place hfs hroot hplain hskips hplace] at hfile
    obtain ⟨way, s, contents, rfl, hentry, hjava, hreaches⟩ := hfile
    rw [List.append_assoc] at hentry
    exact ⟨_, rfl, ⟨base, contents, hbase, hentry, hjava⟩, hreaches⟩
  · rintro ⟨names, rfl, hsource, hreaches⟩
    obtain ⟨base, way, s, contents, hplace, rfl, hentry, hjava⟩ :=
      hsource.exists_way hfs hroot hplain hreaches.1
    rw [mem_filesUnder_iff_of_place hfs hroot hplain hskips hplace]
    exact ⟨way, s, contents, rfl, hentry, hjava, hreaches⟩

/-- A walk lists nothing twice. -/
theorem filesUnder_nodup (hfs : fs.WellFormed) (hroot : root.components ≠ [])
    (hplain : IsPlain w.2) :
    ((w.1.seenFrom root).filesUnder fs root config (root.join w.2)).Nodup := by
  have hjoin := hplain.components_join (Path.text_ne_empty hroot)
  rw [filesUnder_eq]
  split
  · next place hplace =>
    have hmet : ∀ m ∈ fs.walk ((w.1.seenFrom root).isSkipped config (root.join w.2)) place,
        m.1 ≠ [] ∧ ∀ s ∈ m.1, IsName s := fun m hm ↦ isName_of_mem_walk hfs hm
    rw [javaFiles_eq hroot hjoin (fun _ ↦ isName_of_mem_namesOf) hmet]
    have hall : ∀ m ∈ fs.walk ((w.1.seenFrom root).isSkipped config (root.join w.2)) place,
        ∀ s ∈ namesOf w.2 ++ m.1, IsName s := fun m hm s hs ↦
      (List.mem_append.1 hs).elim isName_of_mem_namesOf ((hmet m hm).2 s)
    have hapart := (Files.walk_pairwise _ place).imp_of_mem fun hm hm' hne ↦
      And.intro hne (And.intro (hall _ hm) (hall _ hm'))
    refine hapart.filterMap _ fun m m' ⟨hne, hm, hm'⟩ file hfile file' hfile' heq ↦ hne ?_
    rw [(javaFile?_eq_some_iff.1 hfile).2.2, (javaFile?_eq_some_iff.1 hfile').2.2] at heq
    exact List.append_cancel_left (ofNames_inj hm hm' heq)
  · exact List.nodup_nil

theorem IsSource.isName (hfs : fs.WellFormed) {names : List String}
    (h : IsSource fs root names) : ∀ s ∈ names, IsName s := by
  obtain ⟨base, contents, -, hfile, -⟩ := h
  exact fun s hs ↦ hfs.names _ hfile s (List.mem_append_right _ hs)

/-- A source is in the unit of the directory that it lies in. -/
theorem IsSource.unitDirectory_eq (hfs : fs.WellFormed) {names : List String}
    (h : IsSource fs root names) : unitDirectory (ofNames names) = unitPath names.dropLast := by
  have hnames := h.isName hfs
  obtain ⟨above, s, rfl⟩ := h.exists_concat
  rw [List.dropLast_concat]
  exact unitDirectory_ofNames_concat hnames

end Walk

/-! ### All walks -/

/-- Whether all roots of a configuration lead down from the workspace, without being absolute and
without steps to a parent directory. -/
def PlainRoots (c : Config.ResolverConfig) : Prop :=
  ∀ r ∈ c.sourceRoots ++ c.testRoots ++ c.generatedRoots, IsPlain r

instance (c : Config.ResolverConfig) : Decidable (PlainRoots c) :=
  inferInstanceAs (Decidable (∀ r ∈ c.sourceRoots ++ c.testRoots ++ c.generatedRoots, IsPlain r))

/-- A root is walked in the pass of its kind, which skips the roots of later passes. -/
theorem mem_rootWalks {c : Config.ResolverConfig} {w : Pass × Path} :
    w ∈ rootWalks c ↔
      (w.1 = ⟨c.sourceRoots, .library, c.testRoots ++ c.generatedRoots⟩ ∧ w.2 ∈ c.sourceRoots) ∨
      (w.1 = ⟨c.testRoots, .test, c.generatedRoots⟩ ∧ w.2 ∈ c.testRoots) ∨
      (w.1 = ⟨c.generatedRoots, .generated, []⟩ ∧ w.2 ∈ c.generatedRoots) := by
  obtain ⟨pass, r⟩ := w
  simp only [rootWalks, spelledPasses, List.mem_flatMap, List.mem_map, List.mem_cons,
    List.not_mem_nil, or_false, Prod.mk.injEq]
  constructor
  · rintro ⟨_, rfl | rfl | rfl, _, hr, rfl, rfl⟩ <;> simp [hr]
  · rintro (⟨rfl, hr⟩ | ⟨rfl, hr⟩ | ⟨rfl, hr⟩) <;> exact ⟨_, by simp, r, hr, rfl, rfl⟩

section Walks

variable {fs : Files} {root : Path} {config : Config} {names : List String}

/-- The roots of a walk are plain, and so are those that it skips. -/
theorem PlainRoots.of_mem_rootWalks {c : Config.ResolverConfig} (h : PlainRoots c)
    {w : Pass × Path} (hw : w ∈ rootWalks c) : IsPlain w.2 ∧ ∀ r ∈ w.1.skips, IsPlain r := by
  simp only [PlainRoots, List.mem_append, or_imp, forall_and] at h
  obtain ⟨⟨hsources, htests⟩, hgenerated⟩ := h
  obtain ⟨pass, r⟩ := w
  rcases mem_rootWalks.1 hw with ⟨rfl, hr⟩ | ⟨rfl, hr⟩ | ⟨rfl, hr⟩
  · exact ⟨hsources r hr, fun r hr ↦ (List.mem_append.1 hr).elim (htests r) (hgenerated r)⟩
  · exact ⟨htests r hr, hgenerated⟩
  · exact ⟨hgenerated r hr, fun _ hr ↦ absurd hr List.not_mem_nil⟩

theorem map_found (fs : Files) (root : Path) (config : Config) :
    (found fs root config).map (·.2) = (rootWalks config.resolver).flatMap fun w ↦
      (w.1.seenFrom root).filesUnder fs root config (root.join w.2) := by
  simp [found, walks_eq_map, List.map_flatMap, List.flatMap_map, Function.comp_def]

/-- What is found is a source that some walk reaches. -/
theorem mem_found (hfs : fs.WellFormed) (hroot : root.components ≠ [])
    (hroots : PlainRoots config.resolver) {e : UnitKind × Path} (he : e ∈ found fs root config) :
    ∃ names, e.2 = ofNames names ∧ IsSource fs root names ∧
      ∃ w ∈ rootWalks config.resolver, Reaches config w names := by
  have hfile : e.2 ∈ (found fs root config).map (·.2) := List.mem_map_of_mem he
  rw [map_found, List.mem_flatMap] at hfile
  obtain ⟨w, hw, hfile⟩ := hfile
  obtain ⟨hplain, hskips⟩ := hroots.of_mem_rootWalks hw
  obtain ⟨names, heq, hsource, hreaches⟩ := (mem_filesUnder_iff hfs hroot hplain hskips).1 hfile
  exact ⟨names, heq, hsource, w, hw, hreaches⟩

/-- A thing that each part of a list has at most once is counted by the parts that have it. -/
theorem count_flatMap_eq_countP {α β : Type} [BEq β] {f : α → List β} {b : β} {p : α → Bool}
    {l : List α} (h : ∀ a ∈ l, (f a).count b = if p a then 1 else 0) :
    (l.flatMap f).count b = l.countP p := by
  induction l with
  | nil => rfl
  | cons a l ih =>
    rw [List.flatMap_cons, List.count_append, h a List.mem_cons_self,
      ih fun a ha ↦ h a (List.mem_cons_of_mem _ ha), List.countP_cons, Nat.add_comm]

/-- **A source is found once by each walk that reaches it.** -/
theorem count_found (hfs : fs.WellFormed) (hroot : root.components ≠ [])
    (hroots : PlainRoots config.resolver) (hsource : IsSource fs root names) :
    ((found fs root config).map (·.2)).count (ofNames names) =
      (rootWalks config.resolver).countP fun w ↦ Reaches config w names := by
  rw [map_found]
  refine count_flatMap_eq_countP fun w hw ↦ ?_
  obtain ⟨hplain, hskips⟩ := hroots.of_mem_rootWalks hw
  have hmem : ofNames names ∈ (w.1.seenFrom root).filesUnder fs root config (root.join w.2) ↔
      Reaches config w names := by
    rw [mem_filesUnder_iff hfs hroot hplain hskips]
    constructor
    · rintro ⟨names', heq, hsource', hreaches⟩
      rwa [ofNames_inj (hsource.isName hfs) (hsource'.isName hfs) heq]
    · exact fun hreaches ↦ ⟨names, rfl, hsource, hreaches⟩
  rw [(filesUnder_nodup hfs hroot hplain).count]
  simp only [hmem, decide_eq_true_eq]

/-- A unit has the files that were found for it. -/
theorem files_of_unitOf {es : List (UnitKind × Path)} {unit : FoundUnit}
    (h : unitOf es = some unit) : unit.files = es.map (·.2) := by
  cases es with
  | nil => cases h
  | cons e es =>
    obtain rfl := Option.some.inj h
    rfl

/-- **Discovery lists each file as often as walks meet it**, and nothing else. -/
theorem listsSources (hfs : fs.WellFormed) (hroot : root.components ≠ [])
    (hroots : PlainRoots config.resolver) :
    ListsSources fs root config (plainUnits fs root config) := by
  rw [plainUnits_eq]
  constructor
  · intro directory unit hmem file hfile
    obtain ⟨e, he, rfl⟩ := exists_of_mem_entries hmem
    have hunit := SortedMap.get?_eq_some_iff.2 ⟨_, hmem, Std.ReflOrd.compare_self⟩
    rw [get?_foldl_addFile] at hunit
    rw [files_of_unitOf hunit] at hfile
    obtain ⟨e', he', rfl⟩ := List.mem_map.1 hfile
    obtain ⟨he', hsame⟩ := List.mem_filter.1 he'
    -- the file that the unit was made for and this one lie in the same directory
    obtain ⟨names, heq, hsource, -⟩ := mem_found hfs hroot hroots he
    obtain ⟨names', heq', hsource', hreached⟩ := mem_found hfs hroot hroots he'
    refine ⟨names', hsource', heq', ?_, hreached⟩
    rw [heq, heq', hsource.unitDirectory_eq hfs, hsource'.unitDirectory_eq hfs, same_unitPath_iff
      (fun s hs ↦ hsource'.isName hfs s (List.dropLast_subset _ hs))
      (fun s hs ↦ hsource.isName hfs s (List.dropLast_subset _ hs))] at hsame
    rw [heq, hsource.unitDirectory_eq hfs, hsame]
  · intro names hsource
    rw [(perm_listed_foldl _).count_eq, count_found hfs hroot hroots hsource]

end Walks

/-! ### Roots in roots -/

section Roots

variable {config : Config} {names : List String}

/-- A walk reaches a file that its root covers, if no root that it skips covers the file or is
it. -/
theorem reaches_of_covers {w : Pass × Path} (hcovers : Covers config w.2 names)
    (hskips : ∀ r ∈ w.1.skips, namesOf r ≠ names ∧ ¬ Covers config r names) :
    Reaches config w names := by
  refine ⟨hcovers, fun r hr hbelow ↦ ?_⟩
  by_contra hnot
  obtain ⟨hother, huncovered⟩ := hskips r hr
  have habove : namesOf w.2 <+: namesOf r :=
    (List.prefix_or_prefix_of_prefix hbelow
      (hcovers.1.trans (List.dropLast_prefix _))).resolve_left hnot
  have hdirectory : namesOf r <+: names.dropLast := by
    rcases List.eq_nil_or_concat' names with rfl | ⟨above, s, rfl⟩
    · exact hbelow
    · rw [List.dropLast_concat]
      exact (List.prefix_concat_iff.1 hbelow).resolve_left hother
  -- the way from the skipped root is the end of the way from the root of the walk
  exact huncovered ⟨hdirectory, fun name hname ↦
    hcovers.2 name (List.drop_subset_drop_left _ habove.length_le hname)⟩

/-- **A file that some root covers is reached**, by a walk of the last pass that has such a root. -/
theorem exists_reaches {c : Config.ResolverConfig} {r : Path}
    (hr : r ∈ c.sourceRoots ++ c.testRoots ++ c.generatedRoots) (hcovers : Covers config r names)
    (hother : ∀ r ∈ c.testRoots ++ c.generatedRoots, namesOf r ≠ names) :
    ∃ w ∈ rootWalks c, Reaches config w names := by
  simp only [List.mem_append, or_imp, forall_and] at hr hother
  by_cases hgenerated : ∃ r ∈ c.generatedRoots, Covers config r names
  · obtain ⟨r, hr, hcovers⟩ := hgenerated
    refine ⟨(⟨c.generatedRoots, .generated, []⟩, r), mem_rootWalks.2 (.inr (.inr ⟨rfl, hr⟩)), ?_⟩
    exact reaches_of_covers hcovers fun _ hr ↦ absurd hr List.not_mem_nil
  simp only [not_exists, not_and] at hgenerated
  by_cases htests : ∃ r ∈ c.testRoots, Covers config r names
  · obtain ⟨r, hr, hcovers⟩ := htests
    refine ⟨(⟨c.testRoots, .test, c.generatedRoots⟩, r),
      mem_rootWalks.2 (.inr (.inl ⟨rfl, hr⟩)), ?_⟩
    exact reaches_of_covers hcovers fun r hr ↦ ⟨hother.2 r hr, hgenerated r hr⟩
  simp only [not_exists, not_and] at htests
  rcases hr with (hr | hr) | hr
  · refine ⟨(⟨c.sourceRoots, .library, c.testRoots ++ c.generatedRoots⟩, r),
      mem_rootWalks.2 (.inl ⟨rfl, hr⟩), reaches_of_covers hcovers fun r hr ↦ ?_⟩
    rcases List.mem_append.1 hr with hr | hr
    · exact ⟨hother.1 r hr, htests r hr⟩
    · exact ⟨hother.2 r hr, hgenerated r hr⟩
  · exact absurd hcovers (htests r hr)
  · exact absurd hcovers (hgenerated r hr)

/-- Whether of every two roots that cover a file, the one that is walked later lies below the other
one, which skips it. -/
def NestsInOrder (config : Config) (names : List String) : Prop :=
  (rootWalks config.resolver).Pairwise fun w w' ↦
    Covers config w.2 names → Covers config w'.2 names →
      w'.2 ∈ w.1.skips ∧ ¬ namesOf w'.2 <+: namesOf w.2

instance (config : Config) (names : List String) : Decidable (NestsInOrder config names) :=
  inferInstanceAs (Decidable (List.Pairwise _ _))

/-- What is pairwise exclusive holds of one item at most. -/
theorem countP_le_one {α : Type} {p : α → Bool} {l : List α}
    (h : l.Pairwise fun a b ↦ p a = true → p b = true → False) : l.countP p ≤ 1 := by
  induction l with
  | nil => exact Nat.zero_le 1
  | cons a l ih =>
    obtain ⟨ha, hl⟩ := List.pairwise_cons.1 h
    rw [List.countP_cons]
    split
    · next hp =>
      have hzero : l.countP p = 0 := List.countP_eq_zero.2 fun b hb hpb ↦ ha b hb hp hpb
      rw [hzero]
    · exact ih hl

/-- **Walks over roots that lie in each other in order leave each file to one of them.** -/
theorem countP_reaches_le_one (h : NestsInOrder config names) :
    (rootWalks config.resolver).countP (fun w ↦ Reaches config w names) ≤ 1 := by
  refine countP_le_one (h.imp fun {w w'} hnests hw hw' ↦ ?_)
  obtain ⟨hcovers, hskips⟩ := of_decide_eq_true hw
  obtain ⟨hcovers', -⟩ := of_decide_eq_true hw'
  obtain ⟨hskipped, hnot⟩ := hnests hcovers hcovers'
  exact hnot (hskips _ hskipped (hcovers'.1.trans (List.dropLast_prefix _)))

end Roots

/-- **Discovery lists a file once for each walk that reaches it.** For every tree, every cleaned
workspace and every configuration without modules whose roots are relative paths without `..`: what
is listed are sources that some walk reaches, each in the unit of its directory and once for each
such walk; a source that a root covers is listed, unless it is a test root or a generated one; and
it is listed once where the roots that cover it lie in each other in the order of the passes. -/
theorem listed_discoverUnits {fs : Files} (hfs : fs.WellFormed) (workspace : Path) {config : Config}
    (hmodules : config.resolver.modules = []) (hroots : PlainRoots config.resolver) :
    let c := config.resolver
    let units := discoverUnits fs workspace.clean config
    ListsSources fs workspace.clean config units ∧
    ∀ names r, IsSource fs workspace.clean names →
      r ∈ c.sourceRoots ++ c.testRoots ++ c.generatedRoots → Covers config r names →
      (∀ r ∈ c.testRoots ++ c.generatedRoots, namesOf r ≠ names) →
        ofNames names ∈ listed units ∧
        (NestsInOrder config names → (listed units).count (ofNames names) = 1) := by
  intro c units
  have hunits : units = plainUnits fs workspace.clean config := by
    show groupModules config.resolver.modules _ = _
    rw [hmodules]
    rfl
  have hlists : ListsSources fs workspace.clean config units :=
    hunits ▸ listsSources hfs (components_clean_ne_nil workspace) hroots
  refine ⟨hlists, fun names r hsource hr hcovers hother ↦ ?_⟩
  have hreached : 0 < (listed units).count (ofNames names) := by
    obtain ⟨w, hw, hreaches⟩ := exists_reaches hr hcovers hother
    rw [hlists.count names hsource, List.countP_pos_iff]
    exact ⟨w, hw, decide_eq_true hreaches⟩
  refine ⟨List.count_pos_iff.1 hreached, fun hnests ↦ ?_⟩
  have honce := countP_reaches_le_one hnests
  rw [← hlists.count names hsource] at honce
  exact Nat.le_antisymm honce hreached

/-- A file in a test root that lies in a source root, beside an excluded directory. -/
theorem listed_discoverUnits_of_test_root :
    let fs : Files := (({} : Files).addFile ["ws", "src", "target", "A.java"] []).addFile
      ["ws", "src", "test", "B.java"] []
    let config : Config :=
      { Config.standard 1 with
        resolver := { sourceRoots := [⟨"src/"⟩], testRoots := [⟨"./src/test"⟩] } }
    (listed (discoverUnits fs (Path.clean ⟨"./ws"⟩) config)).count ⟨"src/test/B.java"⟩ = 1 := by
  intro fs config
  have hsource : IsSource fs (Path.clean ⟨"./ws"⟩) ["src", "test", "B.java"] :=
    ⟨["ws"], [], by decide +kernel, by decide +kernel, by decide +kernel⟩
  exact ((listed_discoverUnits ⟨by decide +kernel, by decide +kernel⟩ ⟨"./ws"⟩ rfl
    (by decide +kernel)).2 ["src", "test", "B.java"] ⟨"src/"⟩ hsource (by decide +kernel)
    (by decide +kernel) (by decide +kernel)).2 (by decide +kernel)

/-- **A file below two source roots, one in the other, is listed twice.** -/
theorem not_forall_count_listed_eq_one :
    ¬ ∀ (fs : Files) (workspace : Path) (config : Config) (names : List String) (r : Path),
      fs.WellFormed → config.validate = .ok () → config.resolver.modules = [] →
      PlainRoots config.resolver → IsSource fs workspace.clean names →
      r ∈ config.resolver.sourceRoots ++ config.resolver.testRoots ++
        config.resolver.generatedRoots → Covers config r names →
      (listed (discoverUnits fs workspace.clean config)).count (ofNames names) = 1 := by
  intro h
  have hcount := h (({} : Files).addFile ["src", "main", "A.java"] []) ⟨"."⟩
    { Config.standard 1 with resolver := { sourceRoots := [⟨"src"⟩, ⟨"src/main"⟩] } }
    ["src", "main", "A.java"] ⟨"src"⟩ ⟨by decide +kernel, by decide +kernel⟩ (by decide +kernel)
    rfl (by decide +kernel)
    ⟨[], [], by decide +kernel, by decide +kernel, by decide +kernel⟩ (by decide +kernel)
    (by decide +kernel)
  exact absurd hcount (by decide +kernel)

end JavaDeps.Discovery
